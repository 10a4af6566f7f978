import StructuralSearch.Proofs.Concrete.Conditional
import StructuralSearch.Proofs.Concrete.Recorded

/-!
This module contains that tokens, modifiers and names are recorded once, and on the node that they are direct parts of.
Only the `else` of an `if` goes to the clause around the alternative instead, if there is one.
-/

namespace StructuralSearch

/-- The tokens of the clauses around alternatives under a node. -/
def Outline.clauseTokens (o : Outline) (i : Nat) : List Token :=
  (o.children i).flatMap fun e => if o.kind e = .elseClause then (o.node e).tokens else []

namespace Concrete

/-- The tokens among the children of a node. -/
def directTokens (cs : List Concrete) : List Token :=
  (cs.filter fun c => !c.info.isNamed && c.info.isPresent).map (·.info.token)

/-- No `if` has a second `else`. -/
def HasSingleElse (t : Concrete) : Prop :=
  ∀ s ∈ t.subtrees, s.info.kind = "if_statement" → s.children.countP (·.info.isElseToken) ≤ 1

instance (t : Concrete) : Decidable t.HasSingleElse :=
  inferInstanceAs (Decidable (∀ s ∈ t.subtrees, _ → _))

/-- What is recorded on node `i` comes from the given children, and all that they have to say is recorded there. -/
structure Attributed (source : String) (cs : List Concrete) (o : Outline) (i : Nat) : Prop where
  tokens : ((o.node i).tokens ++ o.clauseTokens i).Perm (directTokens cs)
  /-- The tokens are in order, but for an `else` that waits for its alternative. -/
  order : (o.node i).tokens.filter (·.text != "else") = (directTokens cs).filter (·.text != "else")
  modifiers : ∀ m, m ∈ (o.node i).modifiers ↔
    (o.kind i).carriesModifiers = true ∧ ∃ c ∈ cs, c.info.Declares source m
  name : Option.Rel (fun c text => c.info.text source = .ok text) (nameChild? (o.kind i) cs) (o.node i).name

theorem Attributed.name_eq {source text : String} {cs : List Concrete} {o : Outline} {i : Nat} {kind : NodeKind}
    {c : Concrete} (h : Attributed source cs o i) (hkind : o.kind i = kind) (hchild : nameChild? kind cs = some c)
    (htext : c.info.text source = .ok text) : (o.node i).name = some text := by
  have hname := h.name
  rw [hkind, hchild] at hname
  generalize (o.node i).name = name at hname ⊢
  cases hname with
  | some hsome =>
    rw [htext] at hsome
    cases hsome
    rfl

section Tokens

variable {kind : NodeKind} {keyword : Option Token} {t : Concrete} {cs : List Concrete}

theorem directTokens_of_token (h : t.info.fate kind = .token) :
    directTokens (t :: cs) = t.info.token :: directTokens cs := by
  obtain ⟨hpresent, hnamed⟩ := Info.isToken_iff.mp h
  unfold directTokens
  rw [List.filter_cons_of_pos (by simp [hpresent, hnamed]), List.map_cons]

theorem directTokens_of_not_token (h : t.info.fate kind ≠ .token) : directTokens (t :: cs) = directTokens cs := by
  rw [ne_eq, Info.isToken_iff] at h
  unfold directTokens
  rw [List.filter_cons_of_neg]
  intro htoken
  rw [Bool.and_eq_true, Bool.not_eq_true'] at htoken
  exact h htoken.symm

theorem ownTokens_of_ne (h : kind ≠ .ifStatement) (cs : List Concrete) :
    ownTokens kind none cs = directTokens cs := by
  induction cs with
  | nil => rfl
  | cons t cs ih =>
    obtain ⟨c, below⟩ := t
    rw [ownTokens]
    cases hfate : c.fate kind with
    | token =>
      have helse : isElse kind c = false := by simp [isElse, h]
      rw [directTokens_of_token (t := .node c below) hfate, helse]
      simp [ih, Concrete.info]
    | dropped | modifier | name | kept =>
      have htoken : c.fate kind ≠ .token := by simp [hfate]
      rw [directTokens_of_not_token (t := .node c below) htoken]
      exact ih

theorem filter_ownTokens (h : ∀ token ∈ keyword, token.text = "else") :
    (ownTokens kind keyword cs).filter (·.text != "else") = (directTokens cs).filter (·.text != "else") := by
  induction cs generalizing keyword with
  | nil =>
    rw [ownTokens, directTokens, List.filter_eq_nil_iff.mpr]
    . rfl
    . intro token htoken
      simp [h token (Option.mem_toList.mp htoken)]
  | cons t cs ih =>
    obtain ⟨c, below⟩ := t
    rw [ownTokens]
    cases hfate : c.fate kind with
    | token =>
      rw [directTokens_of_token (t := .node c below) hfate]
      dsimp only
      split
      . next helse =>
        -- The keyword waits, so it is passed over on both sides.
        have htext : c.token.text = "else" := by
          unfold isElse at helse
          rw [Bool.and_eq_true, beq_iff_eq, beq_iff_eq] at helse
          exact helse.2
        rw [List.filter_cons_of_neg (by simp [Concrete.info, htext])]
        exact ih (by simp [htext])
      . rw [List.filter_cons, List.filter_cons, ih h]
        rfl
    | dropped | modifier | name =>
      have htoken : c.fate kind ≠ .token := by simp [hfate]
      rw [directTokens_of_not_token (t := .node c below) htoken]
      exact ih h
    | kept =>
      have htoken : c.fate kind ≠ .token := by simp [hfate]
      rw [directTokens_of_not_token (t := .node c below) htoken]
      exact ih (by simp)

/-- The keywords that go with the children of an `if`, and the tokens that stay there. -/
theorem perm_ownTokens (k : Nat) (h : keyword.toList.length + cs.countP (·.info.isElseToken) ≤ 1) :
    (ownTokens .ifStatement keyword cs ++ (ifSites keyword (cs.zipIdx k)).flatMap (·.keyword.toList)).Perm
      (keyword.toList ++ directTokens cs) := by
  induction cs generalizing keyword k with
  | nil => exact .refl _
  | cons t cs ih =>
    obtain ⟨c, below⟩ := t
    rw [ownTokens, List.zipIdx_cons]
    cases hfate : c.fate .ifStatement with
    | kept =>
      have htoken : c.fate .ifStatement ≠ .token := by simp [hfate]
      have helse := isElseToken_of_not_token htoken
      rw [List.countP_cons_of_neg (by simp [Concrete.info, helse])] at h
      rw [directTokens_of_not_token (t := .node c below) htoken,
        ifSites_of_retained (t := (.node c below, k)) (Info.isRetained_iff.mpr hfate), List.flatMap_cons]
      have hrest := @ih none (k + 1) (by simp; omega)
      rw [Option.toList_none, List.nil_append] at hrest
      exact (List.perm_append_comm_assoc _ keyword.toList _).trans (hrest.append_left _)
    | token =>
      have hretained : c.isRetained .ifStatement = false := Info.isRetained_eq_false (by simp [hfate])
      rw [directTokens_of_token (t := .node c below) hfate, ifSites_of_not_retained (t := (.node c below, k)) hretained]
      have heq := isElseToken_of_token hfate
      rw [beq_self_eq_true, Bool.true_and] at heq
      dsimp only
      cases helse : isElse .ifStatement c with
      | true =>
        rw [helse] at heq
        rw [List.countP_cons_of_pos (by simpa [Concrete.info] using heq)] at h
        -- No other keyword waits.
        have hnone : keyword.toList = [] := List.eq_nil_of_length_eq_zero (by omega)
        have hrest := @ih (some c.token) (k + 1) (by simp only [Option.toList_some, List.length_singleton]; omega)
        rw [hnone]
        simpa [Concrete.info, heq] using hrest
      | false =>
        rw [helse] at heq
        rw [List.countP_cons_of_neg (by simp [Concrete.info, heq])] at h
        have hrest := (ih (k + 1) h).cons c.token
        simpa [Concrete.info, heq] using hrest.trans List.perm_middle.symm
    | dropped | modifier | name =>
      have hretained : c.isRetained .ifStatement = false := Info.isRetained_eq_false (by simp [hfate])
      have htoken : c.fate .ifStatement ≠ .token := by simp [hfate]
      have helse := isElseToken_of_not_token htoken
      rw [List.countP_cons_of_neg (by simp [Concrete.info, helse])] at h
      rw [directTokens_of_not_token (t := .node c below) htoken,
        ifSites_of_not_retained (t := (.node c below, k)) hretained]
      simpa [Concrete.info, helse] using ih (k + 1) h

theorem mem_ifSites {ts : List (Concrete × Nat)} {site : Site} (h : site ∈ ifSites keyword ts) :
    ∃ c ∈ ts, site = .ofChild site.keyword c := by
  induction ts generalizing keyword with
  | nil => cases h
  | cons t ts ih =>
    have hcases : site = .ofChild keyword t ∨ ∃ keyword', site ∈ ifSites keyword' ts := by
      rw [ifSites] at h
      split at h
      . rw [List.mem_cons] at h
        exact h.imp_right fun h => ⟨_, h⟩
      . exact .inr ⟨_, h⟩
    obtain heq | ⟨_, hrest⟩ := hcases
    . subst heq
      exact ⟨t, List.mem_cons_self, rfl⟩
    . obtain ⟨c, hc, heq⟩ := ih hrest
      exact ⟨c, List.mem_cons_of_mem t hc, heq⟩

end Tokens

section Depicts

variable {t : Concrete} {source : String} {path : Option String} {o : Outline} {image : List Nat → Nat}
  {p : List Nat} {y : Spot}

theorem Depicts.clauseTokens_of_if (h : t.Depicts o image) (hy : t.spot.at? p = some y)
    (hkind : y.kind = .ifStatement) :
    o.clauseTokens (image p) = (ifSites none y.tree.children.zipIdx).flatMap (·.keyword.toList) := by
  unfold Outline.clauseTokens
  rw [h.children_of_if hy hkind, List.flatMap_map]
  refine List.flatMap_congr ?_
  intro site hsite
  obtain ⟨c, _, heq⟩ := mem_ifSites hsite
  generalize site.keyword = keyword at heq
  subst heq
  cases keyword with
  | none => exact if_neg (h.not_clause_of_if hy hkind hsite)
  | some token =>
    obtain ⟨_, e, heq, _, _, _, hclause, _, htokens⟩ := h.hangs_of_if hy hkind hsite
    have htop : ((Site.ofChild (some token) c).below p).top image = e := by
      change image (p ++ [c.2]) - 1 = e
      omega
    rw [htop, if_pos hclause, htokens]
    rfl

/-- Only under an `if` there are clauses. -/
theorem Depicts.not_clause_of_ne (h : t.Depicts o image) (ho : t.toOutline source path = .ok o)
    (hy : t.spot.at? p = some y) (hkind : y.kind ≠ .ifStatement) {e : Nat} (he : e ∈ o.children (image p)) :
    o.kind e ≠ .elseClause := by
  rw [h.children p (Spot.mem_paths_of_at? hy), List.mem_map] at he
  obtain ⟨site, hsite, heq⟩ := he
  rw [List.mem_filter, decide_eq_true_eq] at hsite
  obtain ⟨hsite, hhost⟩ := hsite
  subst heq
  have hnone : site.keyword = none := by
    cases hkeyword : site.keyword with
    | none => rfl
    | some token =>
      obtain ⟨q, z, before, hplaces⟩ := Spot.exists_places t.spot site hsite
      obtain ⟨hif, hq⟩ := hplaces.if_of_keyword hkeyword
      have hz := hplaces.1
      rw [← hq, hhost, hy, Option.some.injEq] at hz
      rw [hz] at hkind
      exact absurd hif hkind
  obtain ⟨z, _, hsiteKind⟩ := h.exists_spot ho hsite
  unfold Site.top
  simp only [hnone]
  rw [(h.fits site hsite).kind, hsiteKind]
  exact NodeKind.ofGrammar_ne_elseClause _ _

theorem Depicts.clauseTokens_of_ne (h : t.Depicts o image) (ho : t.toOutline source path = .ok o)
    (hy : t.spot.at? p = some y) (hkind : y.kind ≠ .ifStatement) : o.clauseTokens (image p) = [] := by
  unfold Outline.clauseTokens
  rw [List.flatMap_eq_nil_iff]
  intro e he
  exact if_neg (h.not_clause_of_ne ho hy hkind he)

theorem Depicts.perm_tokens (h : t.Depicts o image) (ho : t.toOutline source path = .ok o)
    (hy : t.spot.at? p = some y) (hsingle : t.HasSingleElse) :
    ((o.node (image p)).tokens ++ o.clauseTokens (image p)).Perm (directTokens y.tree.children) := by
  rw [(h.label ho hy).2.2]
  by_cases hkind : y.kind = .ifStatement
  . obtain ⟨hgrammar, _⟩ := NodeKind.ofGrammar_eq_ifStatement hkind
    have hcount := hsingle y.tree (Spot.tree_mem_subtrees hy) hgrammar
    rw [h.clauseTokens_of_if hy hkind, hkind]
    exact perm_ownTokens 0 (by simpa using hcount)
  . rw [h.clauseTokens_of_ne ho hy hkind, List.append_nil, ownTokens_of_ne hkind]

theorem Depicts.attributed (h : t.Depicts o image) (ho : t.toOutline source path = .ok o)
    (hy : t.spot.at? p = some y) (hsingle : t.HasSingleElse) : Attributed source y.tree.children o (image p) := by
  obtain ⟨span, first, hparts⟩ := h.exists_lowerParts ho hy
  refine ⟨h.perm_tokens ho hy hsingle, ?_, ?_, ?_⟩
  . rw [(h.label ho hy).2.2]
    exact filter_ownTokens (by simp)
  . intro m
    exact mem_modifiers_of_lowerParts hparts
  . exact name_of_lowerParts hparts

/--
Every retained node has the tokens, the modifiers and the name that its direct children give it. The tokens are in
order, and if no `if` has a second `else`, none is lost: the `else` of an `if` is there or in the clause under it.
-/
theorem toOutline_attributed (t : Concrete) (source : String) (path : Option String) (hsingle : t.HasSingleElse) :
    ((∀ s ∈ t.subtrees, s.info.IsSlice source) → ∃ o, t.toOutline source path = .ok o) ∧
      ∀ o, t.toOutline source path = .ok o → ∃ image, t.Depicts o image ∧
        ∀ p y, t.spot.at? p = some y → Attributed source y.tree.children o (image p) := by
  refine ⟨fun h => exists_toOutline h path, ?_⟩
  intro o ho
  obtain ⟨image, himage⟩ := exists_depicts ho
  refine ⟨image, himage, ?_⟩
  intro p y hy
  exact himage.attributed ho hy hsingle

end Depicts

section Inputs

/-- The tree of `class C{static void M(){foreach(var x in y)if(a)b;else c;}}`. -/
def classWithLoop : Concrete :=
  onLine "compilation_unit" 0 59 [
    onLine "class_declaration" 0 59 [
      onLine "class" 0 5 [] none false,
      onLine "identifier" 6 7 [] (some "name") true,
      onLine "declaration_list" 7 59 [
        onLine "\x7b" 7 8 [] none false,
        onLine "method_declaration" 8 58 [
          onLine "modifier" 8 14 [onLine "static" 8 14 [] none false] none true,
          onLine "predefined_type" 15 19 [] (some "returns") true,
          onLine "identifier" 20 21 [] (some "name") true,
          onLine "parameter_list" 21 23 [onLine "(" 21 22 [] none false, onLine ")" 22 23 [] none false]
            (some "parameters") true,
          onLine "block" 23 58 [
            onLine "\x7b" 23 24 [] none false,
            onLine "foreach_statement" 24 57 [
              onLine "foreach" 24 31 [] none false,
              onLine "(" 31 32 [] none false,
              onLine "implicit_type" 32 35 [] (some "type") true,
              onLine "identifier" 36 37 [] (some "left") true,
              onLine "in" 38 40 [] none false,
              onLine "identifier" 41 42 [] (some "right") true,
              onLine ")" 42 43 [] none false,
              onLine "if_statement" 43 57 [
                onLine "if" 43 45 [] none false,
                onLine "(" 45 46 [] none false,
                onLine "identifier" 46 47 [] (some "condition") true,
                onLine ")" 47 48 [] none false,
                onLine "expression_statement" 48 50 [] (some "consequence") true,
                onLine "else" 50 54 [] none false,
                onLine "expression_statement" 55 57 [] (some "alternative") true] (some "body") true] none true,
            onLine "\x7d" 57 58 [] none false] (some "body") true] none true,
        onLine "\x7d" 58 59 [] none false] (some "body") true] none true] none true

theorem attributed_classWithLoop : ∃ o image,
    classWithLoop.toOutline "class C\x7bstatic void M()\x7bforeach(var x in y)if(a)b;else c;\x7d\x7d" none = .ok o ∧
    classWithLoop.Depicts o image ∧ (o.node (image [0])).name = some "C" ∧
    .isStatic ∈ (o.node (image [0, 2, 1])).modifiers ∧ (o.node (image [0, 2, 1])).name = some "M" ∧
    (o.node (image [0, 2, 1, 4, 1])).name = some "x" ∧
    (((o.node (image [0, 2, 1, 4, 1, 7])).tokens ++ o.clauseTokens (image [0, 2, 1, 4, 1, 7])).map (·.text)).Perm
      ["if", "(", ")", "else"] := by
  obtain ⟨hexists, hattributed⟩ := toOutline_attributed classWithLoop
    "class C\x7bstatic void M()\x7bforeach(var x in y)if(a)b;else c;\x7d\x7d" none (by decide +kernel)
  obtain ⟨o, ho⟩ := hexists (by decide +kernel)
  obtain ⟨image, himage, hattributed⟩ := hattributed o ho
  refine ⟨o, image, ho, himage, ?_, ?_, ?_, ?_, ?_⟩
  . exact (hattributed [0] _ rfl).name_eq (himage.label ho rfl).1 rfl rfl
  . refine ((hattributed [0, 2, 1] _ rfl).modifiers .isStatic).mpr ⟨?_, _, List.mem_cons_self, ?_⟩
    . rw [(himage.label ho rfl).1]
      rfl
    . exact ⟨rfl, .inr ⟨rfl, rfl, "static", rfl, by decide +kernel⟩⟩
  . exact (hattributed [0, 2, 1] _ rfl).name_eq (himage.label ho rfl).1 rfl rfl
  . exact (hattributed [0, 2, 1, 4, 1] _ rfl).name_eq (himage.label ho rfl).1 rfl rfl
  . exact (hattributed [0, 2, 1, 4, 1, 7] _ rfl).tokens.map (·.text)

end Inputs

end Concrete
end StructuralSearch
