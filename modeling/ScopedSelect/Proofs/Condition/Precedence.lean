import ScopedSelect.Proofs.Condition.Grammar

/-!
# Conditions mean what their text means

A condition is evaluated by its tree: a group is the conjunction or the disjunction of its
children, in the three truth values of a filter. Its text is evaluated by the precedence of the
operators. The two agree whatever the tests evaluate to, as long as every group has a child. A group
without children has no text, so nothing is said of it.
-/

namespace ScopedSelect

/-- The outcome of a test on a row. -/
inductive Truth where
  | true
  | false
  | unknown
deriving DecidableEq

namespace Truth

/-- Both: false if either is, true if both are. -/
def and : Truth → Truth → Truth
  | false, _ => false
  | _, false => false
  | true, true => true
  | unknown, true => unknown
  | true, unknown => unknown
  | unknown, unknown => unknown

/-- At least one: true if either is, false if both are. -/
def or : Truth → Truth → Truth
  | true, _ => true
  | _, true => true
  | false, false => false
  | unknown, false => unknown
  | false, unknown => unknown
  | unknown, unknown => unknown

/-- Truth is neutral in a conjunction, whatever is unknown. -/
@[simp] theorem and_true (a : Truth) : a.and true = a := by cases a <;> rfl

/-- Falsity is neutral in a disjunction, whatever is unknown. -/
@[simp] theorem or_false (a : Truth) : a.or false = a := by cases a <;> rfl

end Truth

/-- The conjunction or the disjunction of some truth values. -/
def LogicalOp.combine : LogicalOp → List Truth → Truth
  | and, values => values.foldr Truth.and .true
  | or, values => values.foldr Truth.or .false

/-- One value is its own conjunction and disjunction. -/
@[simp] theorem LogicalOp.combine_singleton (op : LogicalOp) (value : Truth) :
    op.combine [value] = value := by
  cases op <;> simp [combine]

namespace Grammar

variable (value : String → Truth)

mutual

/-- The truth of an expression, from the truth of each written test. -/
def Expr.truth : Expr → Truth
  | .single t => t.truth
  | .or t rest => t.truth.or rest.truth

/-- The truth of a term. -/
def Term.truth : Term → Truth
  | .single f => f.truth
  | .and f rest => f.truth.and rest.truth

/-- The truth of a factor. -/
def Factor.truth : Factor → Truth
  | .test t => value t.text
  | .paren e => e.truth

end

end Grammar

namespace Condition

mutual

/-- The truth of a condition, from the truth of each written test. -/
def truth (value : String → Truth) : Condition → Truth
  | eq column v => value (testText column v)
  | group op cs => op.combine (truths value cs)

/-- The truth of some conditions. -/
def truths (value : String → Truth) : List Condition → List Truth
  | [] => []
  | c :: cs => c.truth value :: truths value cs

end

/-- Conditions have their truth values one by one. -/
@[simp] theorem truths_eq_map (value : String → Truth) (cs : List Condition) :
    truths value cs = cs.map (truth value) := by
  induction cs with
  | nil => rfl
  | cons c cs ih => rw [truths, ih, List.map_cons]

open Grammar

/-- The factor has the text and the truth of the condition. -/
def WrittenAs (c : Condition) (f : Factor) : Prop :=
  f.Valid ∧ f.text = c.text ∧ ∀ value, f.truth value = c.truth value

/-- Conditions that are written as factors and joined by `and` are a term. -/
theorem exists_term {c : Condition} {cs : List Condition}
    (h : ∀ d ∈ c :: cs, ∃ f, d.WrittenAs f) :
    ∃ t : Term, t.Valid ∧ t.text = c.text ++ behindEach " and " (cs.map text) ∧
      ∀ value, t.truth value = LogicalOp.and.combine ((c :: cs).map (truth value)) := by
  induction cs generalizing c with
  | nil =>
    obtain ⟨f, hvalid, htext, htruth⟩ := h c List.mem_cons_self
    exact ⟨.single f, hvalid, by simp [Term.text, behindEach, htext],
      fun value => by simp [Term.truth, htruth]⟩
  | cons d cs ih =>
    obtain ⟨f, hvalid, htext, htruth⟩ := h c List.mem_cons_self
    obtain ⟨t, htvalid, httext, httruth⟩ := ih fun e he => h e (List.mem_cons_of_mem _ he)
    refine ⟨.and f t, ⟨hvalid, htvalid⟩, ?_, fun value => ?_⟩
    · rw [Term.text, htext, httext, List.map_cons, behindEach, String.append_assoc,
        String.append_assoc]
    · rw [Term.truth, htruth, httruth]
      rfl

/-- Conditions that are written as factors and joined by `or` are an expression. -/
theorem exists_expr {c : Condition} {cs : List Condition}
    (h : ∀ d ∈ c :: cs, ∃ f, d.WrittenAs f) :
    ∃ e : Expr, e.Valid ∧ e.text = c.text ++ behindEach " or " (cs.map text) ∧
      ∀ value, e.truth value = LogicalOp.or.combine ((c :: cs).map (truth value)) := by
  induction cs generalizing c with
  | nil =>
    obtain ⟨f, hvalid, htext, htruth⟩ := h c List.mem_cons_self
    exact ⟨.single (.single f), hvalid, by simp [Expr.text, Term.text, behindEach, htext],
      fun value => by simp [Expr.truth, Term.truth, htruth]⟩
  | cons d cs ih =>
    obtain ⟨f, hvalid, htext, htruth⟩ := h c List.mem_cons_self
    obtain ⟨e, hevalid, hetext, hetruth⟩ := ih fun e he => h e (List.mem_cons_of_mem _ he)
    refine ⟨.or (.single f) e, ⟨hvalid, hevalid⟩, ?_, fun value => ?_⟩
    · rw [Expr.text, Term.text, htext, hetext, List.map_cons, behindEach, String.append_assoc,
        String.append_assoc]
    · rw [Expr.truth, Term.truth, htruth, hetruth]
      rfl

/-- A group of two or more children that are written as factors is one between parentheses. -/
theorem exists_paren (op : LogicalOp) {c d : Condition} {cs : List Condition}
    (h : ∀ e ∈ c :: d :: cs, ∃ f, e.WrittenAs f) :
    ∃ f, (group op (c :: d :: cs)).WrittenAs f := by
  have htext (separator : String) :
      "(" ++ separator.intercalate (texts (c :: d :: cs)) ++ ")" =
        "(" ++ (c.text ++ behindEach separator ((d :: cs).map text)) ++ ")" := by
    rw [texts_eq_map, List.map_cons, intercalate_eq]
  cases op with
  | and =>
    obtain ⟨t, hvalid, ht, htruth⟩ := exists_term h
    refine ⟨.paren (.single t), hvalid, ?_, fun value => ?_⟩
    · rw [Factor.text, Expr.text, ht, ← htext]
      rfl
    · rw [Factor.truth, Expr.truth, htruth, truth, truths_eq_map]
  | or =>
    obtain ⟨e, hvalid, he, htruth⟩ := exists_expr h
    refine ⟨.paren e, hvalid, ?_, fun value => ?_⟩
    · rw [Factor.text, he, ← htext]
      rfl
    · rw [Factor.truth, htruth, truth, truths_eq_map]

/-- Every condition whose groups have children is written as a factor. -/
theorem exists_writtenAs {c : Condition} (hgroups : c.GroupsNonempty)
    (hcolumns : c.ColumnsAvoid [' ', '(', ')', '\'']) (htexts : c.TextsUnquoted) :
    ∃ f, c.WrittenAs f := by
  induction c with
  | eq column v =>
    have hvalid : IsTest (.of column v) :=
      accepted_of_eq hcolumns htexts Value.literal_isName_wordStops
    have htext : (Test.of column v).text = testText column v := Test.text_of column v
    exact ⟨.test (.of column v), hvalid, htext, fun value => congrArg value htext⟩
  | group op cs ih =>
    have hchild (d : Condition) (hd : d ∈ cs) : ∃ f, d.WrittenAs f :=
      ih d hd (hgroups.of_mem hd) (hcolumns.of_mem hd) (htexts.of_mem hd)
    match cs with
    | [] => exact absurd rfl hgroups.ne_nil
    | [only] =>
      obtain ⟨f, hvalid, htext, htruth⟩ := hchild only List.mem_cons_self
      exact ⟨f, hvalid, htext, fun value => by simp [truth, htruth]⟩
    | c :: d :: cs => exact exists_paren op hchild

/-- The text of a condition has exactly one syntax tree in the language where `and` binds tighter
than `or` and parentheses override, and the tree evaluates as the condition does whatever the
written tests evaluate to. -/
theorem toSql_has_one_parse (c : Condition) (hgroups : c.GroupsNonempty)
    (hcolumns : c.ColumnsAvoid [' ', '(', ')', '\'']) (htexts : c.TextsUnquoted) :
    ∃ e : Expr, e.IsParse c.toSql ∧ (∀ e' : Expr, e'.IsParse c.toSql → e' = e) ∧
      ∀ value, e.truth value = c.truth value := by
  obtain ⟨f, hvalid, htext, htruth⟩ := exists_writtenAs hgroups hcolumns htexts
  have hparse : Expr.IsParse (.single (.single f)) c.toSql := ⟨hvalid, by rw [toSql_eq, ← htext]; rfl⟩
  exact ⟨.single (.single f), hparse, fun e' h => h.unique hparse, htruth⟩

/-- Both operators inside each other, a group of one child, and a text that looks like structure. -/
theorem toSql_has_one_parse_of_mixed_groups :
    let c := group .and
      [group .or [eq "a" (.text "x) or (y and z"), group .and [eq "b" .null, eq "c" (.text "")]],
        group .or [group .and [eq "d" (.int ⟨-1, by decide, by decide⟩)]]]
    (c.GroupsNonempty ∧ c.ColumnsAvoid [' ', '(', ')', '\''] ∧ c.TextsUnquoted) ∧
      c.toSql = "((a = 'x) or (y and z' or (b is null and c = '')) and d = -1)" ∧
        ∃ e : Expr, e.IsParse c.toSql ∧ (∀ e' : Expr, e'.IsParse c.toSql → e' = e) ∧
          ∀ value, e.truth value = c.truth value := by
  intro c
  have hc : c.GroupsNonempty ∧ c.ColumnsAvoid [' ', '(', ')', '\''] ∧ c.TextsUnquoted := by
    decide +kernel
  exact ⟨hc, by decide +kernel, toSql_has_one_parse c hc.1 hc.2.1 hc.2.2⟩

end Condition

end ScopedSelect
