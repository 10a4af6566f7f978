import StructuralSearch.Program.Render
import StructuralSearch.Proofs.Text

/-!
This module contains the brackets in the source texts of programs. Whatever a program has in it, each bracket is closed
by one of its own kind and what is between them is nested in the same way.
-/

namespace StructuralSearch
namespace Text

def isBracket (c : Char) : Bool :=
  c == '(' || c == ')' || c == '{' || c == '}'

/-- The brackets of a text in order. -/
def brackets (s : String) : List Char :=
  s.toList.filter isBracket

/-- An opening bracket and the one that closes it. -/
inductive Pair : Char → Char → Prop where
  | round : Pair '(' ')'
  | curly : Pair '{' '}'

/-- Brackets that are closed in the right order. -/
inductive WellNested : List Char → Prop where
  | nil : WellNested []
  | pair {l r : Char} {inner rest : List Char} (h : Pair l r) (hinner : WellNested inner) (hrest : WellNested rest) :
    WellNested (l :: (inner ++ r :: rest))

/-- The brackets of a text are closed in the right order. -/
def Balanced (s : String) : Prop :=
  WellNested (brackets s)

/-- There are no brackets in the texts. -/
def Plain (ss : List String) : Prop :=
  ∀ s ∈ ss, ∀ c ∈ s.toList, isBracket c = false

/-- An opening bracket in a text is still open at its end, and all others are closed in the right order. -/
def Opened (l : Char) (s : String) : Prop :=
  ∃ u v, brackets s = u ++ l :: v ∧ WellNested u ∧ WellNested v

variable {a b s : String} {ss ss' : List String} {l r : Char}

theorem brackets_append (a b : String) : brackets (a ++ b) = brackets a ++ brackets b := by
  unfold brackets
  rw [String.toList_append, List.filter_append]

theorem brackets_eq_nil : brackets s = [] ↔ ∀ c ∈ s.toList, isBracket c = false := by
  simp [brackets]

theorem plain_cons : Plain (s :: ss) ↔ brackets s = [] ∧ Plain ss := by
  unfold Plain
  rw [List.forall_mem_cons, brackets_eq_nil]

theorem plain_append : Plain (ss ++ ss') ↔ Plain ss ∧ Plain ss' :=
  List.forall_mem_append

theorem WellNested.append {u v : List Char} (hu : WellNested u) (hv : WellNested v) : WellNested (u ++ v) := by
  induction hu with
  | nil => exact hv
  | pair h hinner _ _ ih =>
    rw [List.cons_append, List.append_assoc, List.cons_append]
    exact .pair h hinner ih

theorem Balanced.append (ha : Balanced a) (hb : Balanced b) : Balanced (a ++ b) := by
  unfold Balanced
  rw [brackets_append]
  exact WellNested.append ha hb

theorem Balanced.of_plain (h : brackets s = []) : Balanced s := by
  unfold Balanced
  rw [h]
  exact .nil

theorem Balanced.plain (ha : Balanced a) (hb : brackets b = []) : Balanced (a ++ b) :=
  ha.append (.of_plain hb)

theorem Balanced.opens (ha : Balanced a) (hb : brackets b = [l]) : Opened l (a ++ b) :=
  ⟨brackets a, [], by rw [brackets_append, hb], ha, .nil⟩

theorem Opened.of_brackets (h : brackets s = [l]) : Opened l s :=
  ⟨[], [], h, .nil, .nil⟩

theorem Opened.append (ha : Opened l a) (hb : Balanced b) : Opened l (a ++ b) := by
  obtain ⟨u, v, hbrackets, hu, hv⟩ := ha
  refine ⟨u, v ++ brackets b, ?_, hu, hv.append hb⟩
  rw [brackets_append, hbrackets, List.append_assoc, List.cons_append]

theorem Opened.plain (ha : Opened l a) (hb : brackets b = []) : Opened l (a ++ b) :=
  ha.append (.of_plain hb)

theorem Opened.closes (ha : Opened l a) (hpair : Pair l r) (hb : brackets b = [r]) : Balanced (a ++ b) := by
  obtain ⟨u, v, hbrackets, hu, hv⟩ := ha
  have hcut : brackets (a ++ b) = u ++ l :: (v ++ [r]) := by
    rw [brackets_append, hbrackets, hb, List.append_assoc, List.cons_append]
  unfold Balanced
  rw [hcut]
  exact hu.append (.pair hpair hv .nil)

theorem isBracket_of_isDigit {c : Char} (h : c.isDigit = true) : isBracket c = false := by
  rw [← Bool.not_eq_true]
  intro hbracket
  simp only [isBracket, Bool.or_eq_true, beq_iff_eq] at hbracket
  obtain ((heq | heq) | heq) | heq := hbracket
  all_goals
    rw [heq] at h
    cases h

theorem brackets_toString_nat (n : Nat) : brackets (toString n) = [] :=
  brackets_eq_nil.mpr fun _ hc => isBracket_of_isDigit (isDigit_of_mem_toString hc)

theorem brackets_toString_int (n : Int) : brackets (toString n) = [] := by
  cases n with
  | ofNat n => exact brackets_toString_nat n
  | negSucc n =>
    change brackets ("-" ++ toString (n + 1)) = []
    rw [brackets_append, brackets_toString_nat]
    rfl

end Text

namespace Program

open Text

section Texts

mutual

/-- The names and literals of an expression. -/
def Expr.texts : Expr → List String
  | .int _ | .bool _ => []
  | .string s => [s]
  | .variable name => [name]
  | .binary _ left right => left.texts ++ right.texts
  | .call target args => target :: Expr.textsAll args
  | .paren inner => inner.texts

def Expr.textsAll : List Expr → List String
  | [] => []
  | e :: es => e.texts ++ Expr.textsAll es

end

mutual

/-- The names and literals of a statement. -/
def Stmt.texts : Stmt → List String
  | .declare name value => name :: value.texts
  | .expr e => e.texts
  | .return none => []
  | .return (some e) => e.texts
  | .block body => Stmt.textsAll body
  | .ifElse condition consequence alternative =>
    condition.texts ++ (consequence.texts ++ Stmt.textsElse alternative)
  | .tryCatch body handler cleanup => Stmt.textsAll body ++ (Stmt.textsClause handler ++ Stmt.textsClause cleanup)
  | .while condition body => condition.texts ++ body.texts
  | .for counter bound body => counter :: (bound.texts ++ body.texts)
  | .forEach item collection body => item :: (collection.texts ++ body.texts)

def Stmt.textsAll : List Stmt → List String
  | [] => []
  | s :: ss => s.texts ++ Stmt.textsAll ss

def Stmt.textsElse : Option Stmt → List String
  | none => []
  | some s => s.texts

def Stmt.textsClause : Option (List Stmt) → List String
  | none => []
  | some body => Stmt.textsAll body

end

def PropertyForm.texts : PropertyForm → List String
  | .auto | .getOnly => []
  | .arrow value => value.texts
  | .accessors getter setter => Stmt.textsAll getter ++ Stmt.textsAll setter

def MethodBody.texts : MethodBody → List String
  | .block body => Stmt.textsAll body
  | .arrow value => value.texts

mutual

/-- The names and literals of a type and all in it. -/
def TypeDecl.texts : TypeDecl → List String
  | .mk _ _ name members => name :: Member.textsAll members

def Member.texts : Member → List String
  | .field _ _ names => names
  | .property _ name form => name :: form.texts
  | .method _ _ name parameters body => name :: (parameters ++ body.texts)
  | .type decl => decl.texts

def Member.textsAll : List Member → List String
  | [] => []
  | m :: ms => m.texts ++ Member.textsAll ms

end

mutual

/-- The names and literals of a namespace and all in it. -/
def Namespace.texts : Namespace → List String
  | .mk name types namespaces => name :: (types.flatMap TypeDecl.texts ++ Namespace.textsAll namespaces)

def Namespace.textsAll : List Namespace → List String
  | [] => []
  | n :: ns => n.texts ++ Namespace.textsAll ns

end

/-- The names and literals of a program. -/
def texts (p : Program) : List String :=
  p.types.flatMap TypeDecl.texts ++ Namespace.textsAll p.namespaces

end Texts

section Layout

variable {ss : List String}

theorem brackets_indent (level : Nat) : brackets (indent level) = [] := by
  induction level with
  | zero => rfl
  | succ level ih =>
    rw [indent, brackets_append, ih]
    rfl

theorem balanced_commaSeparated (h : ∀ s ∈ ss, Balanced s) : Balanced (commaSeparated ss) := by
  induction ss with
  | nil => exact .of_plain rfl
  | cons s ss ih =>
    rw [List.forall_mem_cons] at h
    cases ss with
    | nil => exact h.1
    | cons s' ss => exact (h.1.plain (by decide)).append (ih h.2)

theorem balanced_indentedLines (level : Nat) (h : ∀ s ∈ ss, Balanced s) : Balanced (indentedLines level ss) := by
  induction ss with
  | nil => exact .of_plain rfl
  | cons s ss ih =>
    rw [List.forall_mem_cons] at h
    have hline := Balanced.append (.of_plain (brackets_indent (level + 1))) h.1
    exact (hline.plain (by decide)).append (ih h.2)

theorem balanced_braced (level : Nat) (h : ∀ s ∈ ss, Balanced s) : Balanced (braced level ss) := by
  have hopen : Opened '{' openBrace := .of_brackets (by decide)
  have hbody := (hopen.plain (b := "\n") (by decide)).append (balanced_indentedLines level h)
  exact (hbody.plain (brackets_indent level)).closes .curly (by decide)

end Layout

section Parts

theorem Operator.brackets_render (op : Operator) : brackets op.render = [] := by
  cases op with
  | add | sub | mul | lt | eq | and => decide

theorem Access.brackets_render (access : Access) : brackets access.render = [] := by
  cases access with
  | unstated | publicAccess | privateAccess | protectedAccess | internalAccess | protectedInternal
  | privateProtected => decide

theorem TypeKeyword.brackets_render (keyword : TypeKeyword) : brackets keyword.render = [] := by
  cases keyword with
  | classType | structType => decide

theorem brackets_renderStatic (isStatic : Bool) : brackets (renderStatic isStatic) = [] := by
  cases isStatic with
  | false | true => decide

end Parts

section Expressions

mutual

theorem Expr.balanced_render : (e : Expr) → Plain e.texts → Balanced e.render
  | .int n, _ => by
    rw [Expr.render]
    exact .of_plain (brackets_toString_int n)
  | .bool b, _ => by
    rw [Expr.render]
    cases b with
    | false | true => exact .of_plain (by decide)
  | .string s, h => by
    rw [Expr.texts, plain_cons] at h
    rw [Expr.render]
    exact ((Balanced.of_plain (by decide)).plain h.1).plain (by decide)
  | .variable name, h => by
    rw [Expr.texts, plain_cons] at h
    rw [Expr.render]
    exact .of_plain h.1
  | .binary op left right, h => by
    rw [Expr.texts, plain_append] at h
    rw [Expr.render]
    have hleft := (left.balanced_render h.1).plain (b := " ") (by decide)
    exact ((hleft.plain op.brackets_render).plain (by decide)).append (right.balanced_render h.2)
  | .call target args, h => by
    rw [Expr.texts, plain_cons] at h
    rw [Expr.render]
    have hopen := (Balanced.of_plain h.1).opens (b := "(") (l := '(') (by decide)
    exact (hopen.append (balanced_commaSeparated (Expr.balanced_renderAll args h.2))).closes .round (by decide)
  | .paren inner, h => by
    rw [Expr.texts] at h
    rw [Expr.render]
    have hopen : Opened '(' "(" := .of_brackets (by decide)
    exact (hopen.append (inner.balanced_render h)).closes .round (by decide)

theorem Expr.balanced_renderAll : (es : List Expr) → Plain (Expr.textsAll es) → ∀ s ∈ Expr.renderAll es, Balanced s
  | [], _ => by simp [Expr.renderAll]
  | e :: es, h => by
    rw [Expr.textsAll, plain_append] at h
    rw [Expr.renderAll, List.forall_mem_cons]
    exact ⟨e.balanced_render h.1, Expr.balanced_renderAll es h.2⟩

end

end Expressions

section Statements

mutual

theorem Stmt.balanced_render (level : Nat) : (s : Stmt) → Plain s.texts → Balanced (s.render level)
  | .declare name value, h => by
    rw [Stmt.texts, plain_cons] at h
    unfold Stmt.render
    have hname := ((Balanced.of_plain (s := "var ") (by decide)).plain h.1).plain (b := " = ") (by decide)
    exact (hname.append (value.balanced_render h.2)).plain (by decide)
  | .expr e, h => by
    rw [Stmt.texts] at h
    unfold Stmt.render
    exact (e.balanced_render h).plain (by decide)
  | .return none, _ => by
    unfold Stmt.render
    exact .of_plain (by decide)
  | .return (some e), h => by
    rw [Stmt.texts] at h
    unfold Stmt.render
    exact ((Balanced.of_plain (by decide)).append (e.balanced_render h)).plain (by decide)
  | .block body, h => by
    rw [Stmt.texts] at h
    unfold Stmt.render
    exact balanced_braced level (Stmt.balanced_renderAll (level + 1) body h)
  | .ifElse condition consequence alternative, h => by
    rw [Stmt.texts, plain_append, plain_append] at h
    obtain ⟨hcondition, hconsequence, halternative⟩ := h
    unfold Stmt.render
    have hopen : Opened '(' "if (" := .of_brackets (by decide)
    have hhead := (hopen.append (condition.balanced_render hcondition)).closes (b := ") ") .round (by decide)
    exact (hhead.append (consequence.balanced_render level hconsequence)).append
      (Stmt.balanced_renderElse level alternative halternative)
  | .tryCatch body handler cleanup, h => by
    rw [Stmt.texts, plain_append, plain_append] at h
    obtain ⟨hbody, hhandler, hcleanup⟩ := h
    unfold Stmt.render
    have htry := Balanced.append (.of_plain (s := "try ") (by decide))
      (balanced_braced level (Stmt.balanced_renderAll (level + 1) body hbody))
    exact (htry.append (Stmt.balanced_renderClause level (by decide) handler hhandler)).append
      (Stmt.balanced_renderClause level (by decide) cleanup hcleanup)
  | .while condition body, h => by
    rw [Stmt.texts, plain_append] at h
    unfold Stmt.render
    have hopen : Opened '(' "while (" := .of_brackets (by decide)
    have hhead := (hopen.append (condition.balanced_render h.1)).closes (b := ") ") .round (by decide)
    exact hhead.append (body.balanced_render level h.2)
  | .for counter bound body, h => by
    rw [Stmt.texts, plain_cons, plain_append] at h
    obtain ⟨hcounter, hbound, hbody⟩ := h
    unfold Stmt.render
    -- The round bracket stays open over three parts; the counter is in each of them.
    have hopen : Opened '(' "for (int " := .of_brackets (by decide)
    have hstart := ((hopen.plain hcounter).plain (b := " = 0; ") (by decide)).plain hcounter
    have hend := ((hstart.plain (b := " < ") (by decide)).append (bound.balanced_render hbound)).plain (b := "; ")
      (by decide)
    have hhead := (hend.plain hcounter).closes (b := "++) ") .round (by decide)
    exact hhead.append (body.balanced_render level hbody)
  | .forEach item collection body, h => by
    rw [Stmt.texts, plain_cons, plain_append] at h
    obtain ⟨hitem, hcollection, hbody⟩ := h
    unfold Stmt.render
    have hopen : Opened '(' "foreach (var " := .of_brackets (by decide)
    have hin := ((hopen.plain hitem).plain (b := " in ") (by decide)).append (collection.balanced_render hcollection)
    exact (hin.closes (b := ") ") .round (by decide)).append (body.balanced_render level hbody)

theorem Stmt.balanced_renderAll (level : Nat) :
    (ss : List Stmt) → Plain (Stmt.textsAll ss) → ∀ s ∈ Stmt.renderAll level ss, Balanced s
  | [], _ => by simp [Stmt.renderAll]
  | s :: ss, h => by
    rw [Stmt.textsAll, plain_append] at h
    rw [Stmt.renderAll, List.forall_mem_cons]
    exact ⟨s.balanced_render level h.1, Stmt.balanced_renderAll level ss h.2⟩

theorem Stmt.balanced_renderElse (level : Nat) :
    (alternative : Option Stmt) → Plain (Stmt.textsElse alternative) → Balanced (Stmt.renderElse level alternative)
  | none, _ => by
    rw [Stmt.renderElse]
    exact .of_plain (by decide)
  | some s, h => by
    rw [Stmt.textsElse] at h
    rw [Stmt.renderElse]
    have hline := (Balanced.of_plain (s := "\n") (by decide)).plain (brackets_indent level)
    exact (hline.plain (by decide)).append (s.balanced_render level h)

theorem Stmt.balanced_renderClause (level : Nat) {keyword : String} (hkeyword : brackets keyword = []) :
    (body : Option (List Stmt)) → Plain (Stmt.textsClause body) → Balanced (Stmt.renderClause level keyword body)
  | none, _ => by
    rw [Stmt.renderClause]
    exact .of_plain (by decide)
  | some body, h => by
    rw [Stmt.textsClause] at h
    rw [Stmt.renderClause]
    have hline := (Balanced.of_plain (s := "\n") (by decide)).plain (brackets_indent level)
    exact (hline.plain hkeyword).append (balanced_braced level (Stmt.balanced_renderAll (level + 1) body h))

end

end Statements

section Declarations

theorem PropertyForm.balanced_render (level : Nat) (form : PropertyForm) (h : Plain form.texts) :
    Balanced (form.render level) := by
  cases form with
  | auto | getOnly =>
    have hopen := (Balanced.of_plain (s := " ") (by decide)).opens (b := openBrace) (l := '{') (by decide)
    exact (hopen.plain (by decide)).closes .curly (by decide)
  | arrow value =>
    exact ((Balanced.of_plain (by decide)).append (value.balanced_render h)).plain (by decide)
  | accessors getter setter =>
    rw [PropertyForm.texts, plain_append] at h
    have hget := Balanced.append (.of_plain (s := "get ") (by decide))
      (balanced_braced (level + 1) (Stmt.balanced_renderAll (level + 2) getter h.1))
    have hset := Balanced.append (.of_plain (s := "set ") (by decide))
      (balanced_braced (level + 1) (Stmt.balanced_renderAll (level + 2) setter h.2))
    refine (Balanced.of_plain (by decide)).append (balanced_braced level ?_)
    rw [List.forall_mem_cons, List.forall_mem_singleton]
    exact ⟨hget, hset⟩

theorem balanced_renderMethod (level : Nat) {signature : String} (hsignature : Balanced signature) (body : MethodBody)
    (h : Plain body.texts) : Balanced (renderMethod level signature body) := by
  cases body with
  | block body =>
    have hhead := (Balanced.append (.of_plain (s := "void ") (by decide)) hsignature).plain (b := " ") (by decide)
    exact hhead.append (balanced_braced level (Stmt.balanced_renderAll (level + 1) body h))
  | arrow value =>
    have hhead := (Balanced.append (.of_plain (s := "object ") (by decide)) hsignature).plain (b := " => ") (by decide)
    exact (hhead.append (value.balanced_render h)).plain (by decide)

theorem balanced_names {names : List String} (h : Plain names) : ∀ s ∈ names, Balanced s :=
  fun s hs => .of_plain (brackets_eq_nil.mpr (h s hs))

theorem balanced_parameters {parameters : List String} (h : Plain parameters) :
    ∀ s ∈ parameters.map ("int " ++ ·), Balanced s := by
  rw [List.forall_mem_map]
  intro s hs
  exact (Balanced.of_plain (by decide)).append (balanced_names h s hs)

mutual

theorem TypeDecl.balanced_render (level : Nat) : (t : TypeDecl) → Plain t.texts → Balanced (t.render level)
  | .mk access keyword name members, h => by
    rw [TypeDecl.texts, plain_cons] at h
    rw [TypeDecl.render]
    have hkeyword := (Balanced.of_plain access.brackets_render).plain keyword.brackets_render
    have hname := ((hkeyword.plain (b := " ") (by decide)).plain h.1).plain (b := "\n") (by decide)
    exact (hname.plain (brackets_indent level)).append
      (balanced_braced level (Member.balanced_renderAll (level + 1) members h.2))

theorem Member.balanced_render (level : Nat) : (m : Member) → Plain m.texts → Balanced (m.render level)
  | .field access isStatic names, h => by
    rw [Member.texts] at h
    rw [Member.render]
    have hhead := (Balanced.of_plain access.brackets_render).plain (brackets_renderStatic isStatic)
    exact ((hhead.plain (by decide)).append (balanced_commaSeparated (balanced_names h))).plain (by decide)
  | .property access name form, h => by
    rw [Member.texts, plain_cons] at h
    rw [Member.render]
    have hhead := (Balanced.of_plain access.brackets_render).plain (b := "int ") (by decide)
    exact (hhead.plain h.1).append (form.balanced_render level h.2)
  | .method access isStatic name parameters body, h => by
    rw [Member.texts, plain_cons, plain_append] at h
    obtain ⟨hname, hparameters, hbody⟩ := h
    rw [Member.render]
    have hopen := (Balanced.of_plain hname).opens (b := "(") (l := '(') (by decide)
    have hsignature := (hopen.append (balanced_commaSeparated (balanced_parameters hparameters))).closes (b := ")")
      .round (by decide)
    exact ((Balanced.of_plain access.brackets_render).plain (brackets_renderStatic isStatic)).append
      (balanced_renderMethod level hsignature body hbody)
  | .type decl, h => by
    rw [Member.texts] at h
    rw [Member.render]
    exact decl.balanced_render level h

theorem Member.balanced_renderAll (level : Nat) :
    (ms : List Member) → Plain (Member.textsAll ms) → ∀ s ∈ Member.renderAll level ms, Balanced s
  | [], _ => by simp [Member.renderAll]
  | m :: ms, h => by
    rw [Member.textsAll, plain_append] at h
    rw [Member.renderAll, List.forall_mem_cons]
    exact ⟨m.balanced_render level h.1, Member.balanced_renderAll level ms h.2⟩

end

theorem TypeDecl.balanced_renderAll (level : Nat) {types : List TypeDecl} (h : Plain (types.flatMap TypeDecl.texts)) :
    ∀ s ∈ types.map (TypeDecl.render level), Balanced s := by
  rw [List.forall_mem_map]
  intro t ht
  apply t.balanced_render level
  intro s hs
  exact h s (List.mem_flatMap.mpr ⟨t, ht, hs⟩)

mutual

theorem Namespace.balanced_render (level : Nat) : (n : Namespace) → Plain n.texts → Balanced (n.render level)
  | .mk name types namespaces, h => by
    rw [Namespace.texts, plain_cons, plain_append] at h
    obtain ⟨hname, htypes, hnamespaces⟩ := h
    rw [Namespace.render]
    have hhead := ((Balanced.of_plain (s := "namespace ") (by decide)).plain hname).plain (b := "\n") (by decide)
    refine (hhead.plain (brackets_indent level)).append (balanced_braced level ?_)
    rw [List.forall_mem_append]
    exact ⟨TypeDecl.balanced_renderAll (level + 1) htypes,
      Namespace.balanced_renderAll (level + 1) namespaces hnamespaces⟩

theorem Namespace.balanced_renderAll (level : Nat) :
    (ns : List Namespace) → Plain (Namespace.textsAll ns) → ∀ s ∈ Namespace.renderAll level ns, Balanced s
  | [], _ => by simp [Namespace.renderAll]
  | n :: ns, h => by
    rw [Namespace.textsAll, plain_append] at h
    rw [Namespace.renderAll, List.forall_mem_cons]
    exact ⟨n.balanced_render level h.1, Namespace.balanced_renderAll level ns h.2⟩

end

theorem balanced_join {ss : List String} (h : ∀ s ∈ ss, Balanced s) : Balanced (String.join ss) := by
  induction ss with
  | nil => exact .of_plain rfl
  | cons s ss ih =>
    rw [List.forall_mem_cons] at h
    rw [String.join_cons]
    exact h.1.append (ih h.2)

theorem balanced_render {p : Program} (h : Plain p.texts) : Balanced p.render := by
  unfold texts at h
  rw [plain_append] at h
  have hall : ∀ s ∈ p.types.map (TypeDecl.render 0) ++ Namespace.renderAll 0 p.namespaces, Balanced s :=
    List.forall_mem_append.mpr ⟨TypeDecl.balanced_renderAll 0 h.1, Namespace.balanced_renderAll 0 p.namespaces h.2⟩
  unfold render
  apply balanced_join
  rw [List.forall_mem_map]
  intro s hs
  exact (hall s hs).plain (by decide)

end Declarations

/--
If there are no brackets in the names and literals of a program, the brackets of its text are closed in the right order,
and so are those of all its parts at whatever level they stand.
-/
theorem render_wellNested :
    (∀ p : Program, Plain p.texts → WellNested (brackets p.render)) ∧
    (∀ (n : Namespace) (level : Nat), Plain n.texts → WellNested (brackets (n.render level))) ∧
    (∀ (t : TypeDecl) (level : Nat), Plain t.texts → WellNested (brackets (t.render level))) ∧
    (∀ (m : Member) (level : Nat), Plain m.texts → WellNested (brackets (m.render level))) ∧
    (∀ (s : Stmt) (level : Nat), Plain s.texts → WellNested (brackets (s.render level))) ∧
    ∀ e : Expr, Plain e.texts → WellNested (brackets e.render) :=
  ⟨fun _ => balanced_render, fun n level => n.balanced_render level, fun t level => t.balanced_render level,
    fun m level => m.balanced_render level, fun s level => s.balanced_render level, fun e => e.balanced_render⟩

/-- A class with a method that waits. -/
def waiting : Program where
  types := [.mk .publicAccess .classType "Client" [
    .method .unstated false "Wait" ["n"] (.block [.while (.call "Busy" [.variable "n"]) (.block [])])]]
  namespaces := []

theorem render_waiting :
    Plain waiting.texts ∧ brackets waiting.render = ['{', '(', ')', '{', '(', '(', ')', ')', '{', '}', '}', '}'] ∧
      WellNested ['{', '(', ')', '{', '(', '(', ')', ')', '{', '}', '}', '}'] := by
  have hplain : Plain ["Client", "Wait", "n", "Busy", "n"] := by
    simp only [plain_cons]
    exact ⟨by decide, by decide, by decide, by decide, by decide, List.forall_mem_nil _⟩
  have hbrackets : brackets waiting.render = ['{', '(', ')', '{', '(', '(', ')', ')', '{', '}', '}', '}'] := by
    decide +kernel
  rw [← hbrackets]
  exact ⟨hplain, rfl, render_wellNested.1 waiting hplain⟩

end Program
end StructuralSearch
