import StructuralSearch.CommandLine.Run
import StructuralSearch.Proofs.Concrete.Names
import StructuralSearch.Proofs.Query.Lookup
import StructuralSearch.Proofs.Text

/-!
This module contains when a match is printed on one line. Nothing in a report has a line break in it but the name of an
argument, which is its text in the source.
-/

namespace StructuralSearch

namespace Outline

/-- A qualified name ends in the name, and all before it is from the names of the declarations around the node. -/
theorem qualify_toList (t : Outline) (i : Nat) (name : String) :
    ∃ lead, (t.qualify false i name).toList = lead ++ name.toList ∧
      ∀ ch ∈ lead, ch = '.' ∨ ∃ a outer, t.recordedName? a = some outer ∧ ch ∈ outer.toList := by
  refine ⟨((t.enclosingNames false i).reverse.map String.toList).flatMap (· ++ ".".toList), ?_, ?_⟩
  . unfold qualify
    rw [String.toList_intercalate, List.reverse_cons, List.map_append]
    exact Text.intercalate_append_singleton _ _ _
  . intro ch hch
    rw [List.mem_flatMap] at hch
    obtain ⟨text, htext, hch⟩ := hch
    rw [List.mem_append] at hch
    cases hch with
    | inl hch =>
      obtain ⟨outer, houter, heq⟩ := List.mem_map.mp htext
      subst heq
      obtain ⟨a, _, ha⟩ := List.mem_filterMap.mp (List.mem_reverse.mp houter)
      split at ha
      . exact .inr ⟨a, outer, ha, hch⟩
      . cases ha
    | inr hch => exact .inl (List.mem_singleton.mp hch)

end Outline

namespace Concrete

variable {source text : String} {path : Option String} {c : Concrete} {t : Outline} {i : Nat}

theorem mem_trimEnd_qualify (hn : NamesOnLine source c) (ht : c.toOutline source path = .ok t) :
    '\n' ∈ Text.trimEnd (t.qualify false i text).toList ↔ '\n' ∈ Text.trimEnd text.toList := by
  obtain ⟨lead, heq, hlead⟩ := t.qualify_toList i text
  rw [heq]
  apply Text.mem_trimEnd_append
  intro hmem
  cases hlead _ hmem with
  | inl hdot => cases hdot
  | inr houter =>
    obtain ⟨a, outer, ha, hmem⟩ := houter
    exact not_mem_recordedName hn ht ha hmem

theorem not_mem_identifier (hn : NamesOnLine source c) (ht : c.toOutline source path = .ok t)
    (hkind : t.kind i ≠ .argument) (h : t.identifier i = .ok (some text)) : '\n' ∉ text.toList := by
  unfold Outline.identifier at h
  rw [if_neg (fun hsource => hkind (NodeKind.nameSource_eq_text.mp hsource)), Except.ok.injEq] at h
  exact not_mem_recordedName hn ht h

end Concrete

theorem NodeKind.isWord_name (k : NodeKind) : Text.isWord k.name.toList = true := by
  cases k <;> decide +kernel

theorem VirtualKind.isWord_name (k : VirtualKind) : Text.isWord k.name.toList = true := by
  cases k <;> decide +kernel

namespace Report

variable {r : Report}

/-- The name is the text of an argument that goes over more than one line. -/
def IsBroken (r : Report) : Prop :=
  r.kind = .argument ∧ ∃ text, r.identifier = some text ∧ '\n' ∈ Text.trimEnd text.toList

/--
The report is about a node of the outline of a parsed source, be it real or virtual. Neither the path of the source nor
what its grammar takes for a name has a line break in it.
-/
def Stems (r : Report) : Prop :=
  ∃ c source path t k, Concrete.NamesOnLine source c ∧ '\n' ∉ (path.getD "").toList ∧
    c.toOutline source path = .ok t ∧ ofCandidate t k = .ok r

theorem isWord_label (r : Report) : Text.isWord r.label.toList = true := by
  unfold label
  split
  . exact NodeKind.isWord_name _
  . exact VirtualKind.isWord_name _

theorem mem_render (h : '\n' ∉ r.path.toList) :
    '\n' ∈ r.render.toList ↔ '\n' ∈ Text.trimEnd ((r.fullName.orElse fun _ => r.identifier).getD "").toList := by
  have hnumber : ∀ n : Nat, '\n' ∉ (toString n).toList := by
    intro n hmem
    cases Text.isDigit_of_mem_toString hmem
  have hlabel : '\n' ∉ r.label.toList := by
    intro hmem
    cases (Text.isWord_iff.mp (isWord_label r)).2 _ hmem
  unfold render
  dsimp only
  rw [String.toList_ofList, String.toList_append]
  apply Text.mem_trimEnd_append
  simp only [String.toList_append, List.mem_append, not_or]
  exact ⟨⟨⟨⟨⟨⟨⟨h, by decide⟩, hnumber _⟩, by decide⟩, hnumber _⟩, by decide⟩, hlabel⟩, by decide⟩

/-- What is printed for a match has a line break in it only if it is an argument that has one. -/
theorem mem_render_of_stems (h : r.Stems) : '\n' ∈ r.render.toList ↔ r.IsBroken := by
  obtain ⟨c, source, path, t, k, hnames, hpath, ht, hr⟩ := h
  unfold ofCandidate at hr
  rw [bind_eq_ok] at hr
  obtain ⟨identifier, hidentifier, hr⟩ := hr
  cases hr
  rw [← Concrete.path_of_toOutline ht] at hpath
  rw [mem_render hpath]
  unfold IsBroken
  dsimp only
  cases identifier with
  | none =>
    simp only [Option.map_none, reduceCtorEq, false_and, exists_false, and_false, iff_false]
    exact List.not_mem_nil
  | some text =>
    have hname : (((some text).map (t.qualify false k.anchor)).orElse fun _ => some text).getD ""
        = t.qualify false k.anchor text := rfl
    rw [hname, Concrete.mem_trimEnd_qualify hnames ht]
    constructor
    . intro hmem
      refine ⟨?_, text, rfl, hmem⟩
      apply Classical.byContradiction
      intro hkind
      exact Concrete.not_mem_identifier hnames ht hkind hidentifier (Text.mem_of_mem_trimEnd hmem)
    . intro hbroken
      obtain ⟨_, _, heq, hmem⟩ := hbroken
      cases heq
      exact hmem

end Report

namespace Concrete

/-- A node of a text. -/
def inText (source kind : String) (start stop : Nat) (children : List Concrete) (field : Option String)
    (isNamed : Bool) : Concrete :=
  let position := Position.ofByte (lineFeedOffsets source.toList)
  .node { kind, field, isNamed, span := { start := position start, stop := position stop } } children

/-- A text in which an argument goes over two lines. -/
def longArgumentText : String :=
  "class C\x7bint x=F(G(\n));\x7d"

def longArgument : Concrete :=
  node "compilation_unit" 0 23 [
    node "class_declaration" 0 23 [
      node "class" 0 5 [] none false,
      node "identifier" 6 7 [] (some "name") true,
      node "declaration_list" 7 23 [
        node "\x7b" 7 8 [] none false,
        node "field_declaration" 8 22 [
          node "variable_declaration" 8 21 [
            node "predefined_type" 8 11 [] (some "type") true,
            node "variable_declarator" 12 21 [
              node "identifier" 12 13 [] (some "name") true,
              node "=" 13 14 [] none false,
              node "invocation_expression" 14 21 [
                node "identifier" 14 15 [] (some "function") true,
                node "argument_list" 15 21 [
                  node "(" 15 16 [] none false,
                  node "argument" 16 20 [
                    node "invocation_expression" 16 20 [
                      node "identifier" 16 17 [] (some "function") true,
                      node "argument_list" 17 20 [
                        node "(" 17 18 [] none false,
                        node ")" 19 20 [] none false] (some "arguments") true] none true] none true,
                  node ")" 20 21 [] none false] (some "arguments") true] none true] none true] none true,
          node ";" 21 22 [] none false] none true,
        node "\x7d" 22 23 [] none false] (some "body") true] none true] none true
where
  node := inText longArgumentText

/-- What is reported of the class in that text and of the argument. -/
def longReports : List Report := [
  { path := "A.cs", kind := .classDeclaration, virtualKind := .empty, identifier := some "C", fullName := some "C"
    startLine := 1, startColumn := 1, endLine := 2, endColumn := 5 },
  { path := "A.cs", kind := .argument, virtualKind := .empty, identifier := some "G(\n)", fullName := some "C.G(\n)"
    startLine := 1, startColumn := 17, endLine := 2, endColumn := 2 }]

theorem stems_longReports : ∀ r ∈ longReports, r.Stems := by
  have hreports : (longArgument.toOutline longArgumentText (some "A.cs")).toOption.bind (fun t =>
      ([Candidate.real 1, .real 10].mapM (Report.ofCandidate t)).toOption) = some longReports := by
    decide +kernel
  have hnames : ∀ s ∈ longArgument.subtrees, (NodeKind.ofGrammar s.info.kind false).nameSource = .declared →
      ∀ c ∈ s.children, c.info.field = some "name" →
        ∀ text ∈ (c.info.text longArgumentText).toOption, '\n' ∉ text.toList := by
    decide +kernel
  have honline : NamesOnLine longArgumentText longArgument := by
    intro s hs hkind c hc hfield text htext
    exact hnames s hs hkind c hc hfield text (toOption_eq_some.mpr htext)
  intro r hr
  obtain ⟨t, ht, hreports⟩ := Option.bind_eq_some_iff.mp hreports
  have ht := toOption_eq_some.mp ht
  obtain ⟨k, _, hk⟩ := exists_of_mem_mapM (toOption_eq_some.mp hreports) hr
  exact ⟨longArgument, longArgumentText, some "A.cs", t, k, honline, by decide, ht, hk⟩

end Concrete

namespace CommandLine

/-- The text that comes out when each item is printed and a line feed after it. -/
def written (items : List String) : List Char :=
  items.flatMap fun s => s.toList ++ ['\n']

theorem length_lines_written (items : List String) :
    (Text.lines (written items)).length = items.length + (items.flatMap String.toList).count '\n' := by
  unfold Text.lines
  rw [List.length_map]
  induction items with
  | nil => rfl
  | cons s items ih =>
    have hfirst : written (s :: items) = s.toList ++ '\n' :: written items := by
      simp [written]
    rw [hfirst, Text.rawLines_append_lf, List.length_append, Text.length_rawLines_lf, ih, List.flatMap_cons,
      List.count_append, List.length_cons]
    omega

/--
Of the matches that are printed as text, those whose name is an argument over several lines are printed on several
lines, and all others on one. So there are as many lines as matches exactly if there is no such argument.
-/
theorem printed_lines {o : Options} {outcome : Outcome} (hformat : o.outputFormat = .text) (hcount : o.count = false)
    (hreports : ∀ r ∈ outcome.reports, r.Stems) :
    (∀ r ∈ outcome.reports, '\n' ∈ r.render.toList ↔ r.IsBroken) ∧
    ((Text.lines (written (o.printed outcome))).length = outcome.reports.length ↔
      ∀ r ∈ outcome.reports, ¬ r.IsBroken) ∧
    outcome.reports.length ≤ (Text.lines (written (o.printed outcome))).length ∧
    { o with count := true }.printed outcome = [toString outcome.reports.length] := by
  have hrender : ∀ r ∈ outcome.reports, '\n' ∈ r.render.toList ↔ r.IsBroken :=
    fun r hr => Report.mem_render_of_stems (hreports r hr)
  have hprinted : o.printed outcome = outcome.reports.map Report.render := by
    simp [Options.printed, hcount, hformat]
  rw [hprinted, length_lines_written, List.length_map]
  refine ⟨hrender, ?_, by omega, rfl⟩
  rw [Nat.add_eq_left, List.count_eq_zero, List.mem_flatMap]
  simp only [List.mem_map, not_exists, not_and]
  constructor
  . intro h r hr hbroken
    exact h _ ⟨r, hr, rfl⟩ ((hrender r hr).mpr hbroken)
  . intro h s hs hmem
    obtain ⟨r, hr, heq⟩ := hs
    subst heq
    exact h r hr ((hrender r hr).mp hmem)

/-- There are two matches and more lines. -/
theorem printed_longArgument :
    (∀ r ∈ Concrete.longReports, r.Stems) ∧ Concrete.longReports.length = 2 ∧
      2 < (Text.lines (written (({} : Options).printed { reports := Concrete.longReports }))).length := by
  have hreports : ∀ r ∈ ({ reports := Concrete.longReports } : Outcome).reports, r.Stems := Concrete.stems_longReports
  obtain ⟨_, hlines, hle, _⟩ := printed_lines (o := {}) rfl rfl hreports
  refine ⟨Concrete.stems_longReports, rfl, Nat.lt_of_le_of_ne hle ?_⟩
  intro heq
  exact hlines.mp heq.symm _ (List.mem_cons_of_mem _ List.mem_cons_self) ⟨rfl, _, rfl, by decide⟩

end CommandLine
end StructuralSearch
