import ScopedSelect.Proofs.Condition.Test

/-!
# Boolean expressions in flat text

The language in which `and` binds tighter than `or` and parentheses override: an expression is terms
joined by `or`, a term is factors joined by `and`, and a factor is a test or an expression between
parentheses. A syntax tree keeps all of that and its text forgets it, but nothing is lost: a text has
at most one syntax tree, `Expr.IsParse.unique`.
-/

namespace ScopedSelect

namespace Grammar

mutual

/-- One term, or a term and an expression joined by `or`. -/
inductive Expr where
  | single (t : Term)
  | or (t : Term) (rest : Expr)

/-- One factor, or a factor and a term joined by `and`. -/
inductive Term where
  | single (f : Factor)
  | and (f : Factor) (rest : Term)

/-- A test, or an expression between parentheses. -/
inductive Factor where
  | test (t : Test)
  | paren (e : Expr)

end

mutual

/-- The text of an expression. -/
def Expr.text : Expr → String
  | .single t => t.text
  | .or t rest => t.text ++ " or " ++ rest.text

/-- The text of a term. -/
def Term.text : Term → String
  | .single f => f.text
  | .and f rest => f.text ++ " and " ++ rest.text

/-- The text of a factor. -/
def Factor.text : Factor → String
  | .test t => t.text
  | .paren e => "(" ++ e.text ++ ")"

end

/-- The tests of the language: columns and words without blanks, parentheses and quotes. -/
def IsTest (t : Test) : Prop :=
  t.Accepted (IsName [' ', '(', ')', '\'']) (IsName [' ', '(', ')', '\''])

mutual

/-- All tests of the expression belong to the language. -/
def Expr.Valid : Expr → Prop
  | .single t => t.Valid
  | .or t rest => t.Valid ∧ rest.Valid

/-- All tests of the term belong to the language. -/
def Term.Valid : Term → Prop
  | .single f => f.Valid
  | .and f rest => f.Valid ∧ rest.Valid

/-- All tests of the factor belong to the language. -/
def Factor.Valid : Factor → Prop
  | .test t => IsTest t
  | .paren e => e.Valid

end

/-- The syntax tree is one of the language and its text is the given one. -/
def Expr.IsParse (e : Expr) (s : String) : Prop := e.Valid ∧ e.text = s

/-- The tests of the language can be told from their surroundings. -/
theorem IsTest.readable {t : Test} (ht : IsTest t) : t.Readable :=
  ht.mono (fun _ h => h.mono (by decide)) (fun _ h => h)

/-- What may follow an expression: nothing, or the parenthesis that closes it. -/
def AfterExpr (rest : List Char) : Prop := StartsIn [')'] rest

/-- What may follow a term: what may follow an expression, or another term. -/
def AfterTerm (rest : List Char) : Prop := AfterExpr rest ∨ ∃ more, rest = " or ".toList ++ more

/-- What may follow a factor: what may follow a term, or another factor. -/
def AfterFactor (rest : List Char) : Prop := AfterTerm rest ∨ ∃ more, rest = " and ".toList ++ more

/-- No operator follows an expression. -/
theorem AfterExpr.ne_or {rest : List Char} (h : AfterExpr rest) (more : List Char) :
    rest ≠ " or ".toList ++ more := by
  rintro rfl
  simp [AfterExpr] at h

/-- No `and` follows a term. -/
theorem AfterTerm.ne_and {rest : List Char} (h : AfterTerm rest) (more : List Char) :
    rest ≠ " and ".toList ++ more := by
  rintro rfl
  rcases h with h | ⟨_, h⟩
  · simp [AfterExpr] at h
  · simp at h

/-- What follows a factor ends a test. -/
theorem AfterFactor.startsIn {rest : List Char} (h : AfterFactor rest) :
    StartsIn conditionStops rest := by
  have hclose : [')'] ⊆ conditionStops := by decide
  rcases h with (h | ⟨more, rfl⟩) | ⟨more, rfl⟩
  · exact StartsIn.mono hclose h
  · simp [conditionStops]
  · simp [conditionStops]

/-- A test of the language does not start with a parenthesis. -/
theorem IsTest.text_ne_paren {t : Test} (ht : IsTest t) (rest more : List Char) :
    t.text.toList ++ rest ≠ '(' :: more := by
  intro h
  apply ht.readable.not_startsIn rest
  rw [h, startsIn_cons]
  decide

/-- The characters of an expression of more than one term. -/
theorem Expr.toList_text_or (t : Term) (e : Expr) (rest : List Char) :
    (Expr.or t e).text.toList ++ rest =
      t.text.toList ++ (" or ".toList ++ (e.text.toList ++ rest)) := by
  rw [Expr.text, String.toList_append, String.toList_append, List.append_assoc, List.append_assoc]

/-- The characters of a term of more than one factor. -/
theorem Term.toList_text_and (f : Factor) (t : Term) (rest : List Char) :
    (Term.and f t).text.toList ++ rest =
      f.text.toList ++ (" and ".toList ++ (t.text.toList ++ rest)) := by
  rw [Term.text, String.toList_append, String.toList_append, List.append_assoc, List.append_assoc]

/-- The characters of an expression between parentheses. -/
theorem Factor.toList_text_paren (e : Expr) (rest : List Char) :
    (Factor.paren e).text.toList ++ rest = '(' :: (e.text.toList ++ ')' :: rest) := by
  simp [Factor.text]

mutual

/-- An expression and what follows it are determined by the text they make. -/
theorem Expr.text_append_injective {left right : Expr} (hleft : left.Valid) (hright : right.Valid)
    {leftRest rightRest : List Char} (hleftRest : AfterExpr leftRest)
    (hrightRest : AfterExpr rightRest)
    (h : left.text.toList ++ leftRest = right.text.toList ++ rightRest) :
    left = right ∧ leftRest = rightRest := by
  match left, right with
  | .single t, .single u =>
    obtain ⟨rfl, hrest⟩ := t.text_append_injective hleft hright (.inl hleftRest) (.inl hrightRest) h
    exact ⟨rfl, hrest⟩
  | .single t, .or u e =>
    rw [Expr.toList_text_or] at h
    have hrest := (t.text_append_injective hleft hright.1 (.inl hleftRest) (.inr ⟨_, rfl⟩) h).2
    exact absurd hrest (hleftRest.ne_or _)
  | .or t d, .single u =>
    rw [Expr.toList_text_or] at h
    have hrest := (t.text_append_injective hleft.1 hright (.inr ⟨_, rfl⟩) (.inl hrightRest) h).2
    exact absurd hrest.symm (hrightRest.ne_or _)
  | .or t d, .or u e =>
    rw [Expr.toList_text_or, Expr.toList_text_or] at h
    obtain ⟨rfl, hrest⟩ :=
      t.text_append_injective hleft.1 hright.1 (.inr ⟨_, rfl⟩) (.inr ⟨_, rfl⟩) h
    obtain ⟨rfl, hafter⟩ := d.text_append_injective hleft.2 hright.2 hleftRest hrightRest
      (List.append_cancel_left hrest)
    exact ⟨rfl, hafter⟩

/-- A term and what follows it are determined by the text they make. -/
theorem Term.text_append_injective {left right : Term} (hleft : left.Valid) (hright : right.Valid)
    {leftRest rightRest : List Char} (hleftRest : AfterTerm leftRest)
    (hrightRest : AfterTerm rightRest)
    (h : left.text.toList ++ leftRest = right.text.toList ++ rightRest) :
    left = right ∧ leftRest = rightRest := by
  match left, right with
  | .single f, .single g =>
    obtain ⟨rfl, hrest⟩ := f.text_append_injective hleft hright (.inl hleftRest) (.inl hrightRest) h
    exact ⟨rfl, hrest⟩
  | .single f, .and g u =>
    rw [Term.toList_text_and] at h
    have hrest := (f.text_append_injective hleft hright.1 (.inl hleftRest) (.inr ⟨_, rfl⟩) h).2
    exact absurd hrest (hleftRest.ne_and _)
  | .and f t, .single g =>
    rw [Term.toList_text_and] at h
    have hrest := (f.text_append_injective hleft.1 hright (.inr ⟨_, rfl⟩) (.inl hrightRest) h).2
    exact absurd hrest.symm (hrightRest.ne_and _)
  | .and f t, .and g u =>
    rw [Term.toList_text_and, Term.toList_text_and] at h
    obtain ⟨rfl, hrest⟩ :=
      f.text_append_injective hleft.1 hright.1 (.inr ⟨_, rfl⟩) (.inr ⟨_, rfl⟩) h
    obtain ⟨rfl, hafter⟩ := t.text_append_injective hleft.2 hright.2 hleftRest hrightRest
      (List.append_cancel_left hrest)
    exact ⟨rfl, hafter⟩

/-- A factor and what follows it are determined by the text they make. -/
theorem Factor.text_append_injective {left right : Factor} (hleft : left.Valid)
    (hright : right.Valid) {leftRest rightRest : List Char} (hleftRest : AfterFactor leftRest)
    (hrightRest : AfterFactor rightRest)
    (h : left.text.toList ++ leftRest = right.text.toList ++ rightRest) :
    left = right ∧ leftRest = rightRest := by
  match left, right with
  | .test t, .test u =>
    obtain ⟨rfl, hrest⟩ := Test.text_append_injective (IsTest.readable hleft)
      (IsTest.readable hright) hleftRest.startsIn hrightRest.startsIn h
    exact ⟨rfl, hrest⟩
  | .test t, .paren e =>
    rw [Factor.toList_text_paren] at h
    exact absurd h (IsTest.text_ne_paren hleft _ _)
  | .paren d, .test u =>
    rw [Factor.toList_text_paren] at h
    exact absurd h.symm (IsTest.text_ne_paren hright _ _)
  | .paren d, .paren e =>
    rw [Factor.toList_text_paren, Factor.toList_text_paren] at h
    have hclose (rest : List Char) : AfterExpr (')' :: rest) :=
      (startsIn_cons _ _ _).mpr List.mem_cons_self
    obtain ⟨rfl, hrest⟩ := d.text_append_injective hleft hright (hclose _) (hclose _)
      (List.cons_eq_cons.mp h).2
    exact ⟨rfl, (List.cons_eq_cons.mp hrest).2⟩

end

/-- A text has at most one syntax tree. -/
theorem Expr.IsParse.unique {left right : Expr} {s : String} (hleft : left.IsParse s)
    (hright : right.IsParse s) : left = right :=
  (left.text_append_injective hleft.1 hright.1 (startsIn_nil _) (startsIn_nil _)
    (by rw [hleft.2, hright.2])).1

end Grammar

end ScopedSelect
