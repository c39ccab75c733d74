import ScopedSelect.Proofs.Condition.Tree
import ScopedSelect.Proofs.Value.Word

/-!
# Tests in a text

A written test is its column and, unless it compares with null, a literal: a quoted text or a bare
word. `Test.text_append_injective` is the law all readings of conditions rest on: a test that is
followed by a blank, a closing parenthesis or nothing can be read in one way only, whatever its
quoted text has inside.
-/

namespace ScopedSelect

/-- A literal between single quotes, without a quote inside. -/
def IsQuoted (s : String) : Prop := ∃ inner : String, s = "'" ++ inner ++ "'" ∧ '\'' ∉ inner.toList

/-- The characters that a bare word of a condition avoids. -/
def wordStops : List Char := [' ', '(', ')', '\'']

/-- The characters that a column avoids so that its test can be told from its surroundings. -/
def columnStops : List Char := [' ', '(', ')']

/-- The characters that come after a test or a group. -/
def conditionStops : List Char := [' ', ')']

/-- A number is a bare word. -/
theorem Value.literal_isName_wordStops {v : Value} (hv : v.isNumber) : IsName wordStops v.literal :=
  literal_isName hv (by decide)

/-- A quoted literal ends at its second quote, and a bare word where a character stops it. -/
theorem literal_append_injective {left right : String} {leftRest rightRest : List Char}
    (hleft : IsQuoted left ∨ IsName wordStops left)
    (hright : IsQuoted right ∨ IsName wordStops right)
    (hleftRest : StartsIn conditionStops leftRest) (hrightRest : StartsIn conditionStops rightRest)
    (h : left.toList ++ leftRest = right.toList ++ rightRest) :
    left = right ∧ leftRest = rightRest := by
  have hquote : '\'' ∈ wordStops := by decide
  have hword {s inner : String} (hs : IsName wordStops s) {rest rest' : List Char} :
      s.toList ++ rest ≠ ("'" ++ inner ++ "'").toList ++ rest' := by
    obtain ⟨hne, hchars⟩ := hs
    intro heq
    cases hlist : s.toList with
    | nil => exact hne (String.toList_eq_nil_iff.mp hlist)
    | cons c cs =>
      rw [hlist] at heq hchars
      obtain ⟨rfl, -⟩ : c = '\'' ∧ cs ++ rest = inner.toList ++ '\'' :: rest' := by simpa using heq
      exact hchars _ List.mem_cons_self hquote
  rcases hleft with ⟨s, rfl, hs⟩ | hleft <;> rcases hright with ⟨t, rfl, ht⟩ | hright
  · have hrun : s.toList ++ '\'' :: leftRest = t.toList ++ '\'' :: rightRest := by simpa using h
    obtain ⟨hst, hrest⟩ := run_append_cons_injective hs ht hrun
    exact ⟨by rw [String.toList_inj.mp hst], hrest⟩
  · exact absurd h.symm (hword hright)
  · exact absurd h (hword hleft)
  · have hsub : conditionStops ⊆ wordStops := by decide
    obtain ⟨hword, hrest⟩ := run_append_injective conditionStops (fun c hc hs => hleft.2 c hc (hsub hs))
      (fun c hc hs => hright.2 c hc (hsub hs)) hleftRest hrightRest h
    exact ⟨String.toList_inj.mp hword, hrest⟩

/-- A test as it is written: a column, and the literal it equals, or none if it is null. -/
structure Test where
  column : String
  literal : Option String
deriving DecidableEq

namespace Test

/-- The text of a test. -/
def text : Test → String
  | ⟨column, none⟩ => column ++ " is null"
  | ⟨column, some literal⟩ => column ++ " = " ++ literal

/-- How a column is tested for a value. -/
def of (column : String) (value : Value) : Test :=
  ⟨column, if value.isNull then none else some value.literal⟩

/-- A test is written as the condition that it stands for. -/
theorem text_of (column : String) (value : Value) : (of column value).text = testText column value := by
  cases value <;> rfl

/-- The test has a column and a literal of the given kinds; a literal may also be quoted. -/
def Accepted (name word : String → Prop) (t : Test) : Prop :=
  name t.column ∧ ∀ l ∈ t.literal, IsQuoted l ∨ word l

/-- Wider kinds of names and words accept more tests. -/
theorem Accepted.mono {name name' word word' : String → Prop} {t : Test}
    (h : t.Accepted name word) (hname : ∀ s, name s → name' s) (hword : ∀ s, word s → word' s) :
    t.Accepted name' word' :=
  ⟨hname _ h.1, fun l hl => (h.2 l hl).imp_right (hword l)⟩

/-- The tests that can be told from their surroundings. -/
def Readable (t : Test) : Prop := t.Accepted (IsName columnStops) (IsName wordStops)

/-- A test for a value is accepted when its column is, its text has no quote, and numbers are words. -/
theorem accepted_of {name word : String → Prop} {column : String} {value : Value}
    (hcolumn : name column) (htext : value.Unquoted)
    (hnumber : value.isNumber → word value.literal) : (of column value).Accepted name word := by
  refine ⟨hcolumn, fun l hl => ?_⟩
  cases value with
  | null => simp [of, Value.isNull] at hl
  | int n =>
    obtain rfl : Value.literal (.int n) = l := by simpa [of, Value.isNull] using hl
    exact Or.inr (hnumber rfl)
  | float x =>
    obtain rfl : Value.literal (.float x) = l := by simpa [of, Value.isNull] using hl
    exact Or.inr (hnumber rfl)
  | text s =>
    obtain rfl : Value.literal (.text s) = l := by simpa [of, Value.isNull] using hl
    exact Or.inl ⟨s, rfl, htext⟩

/-- A test and what follows it are determined by the text they make. -/
theorem text_append_injective {t u : Test} (ht : t.Readable) (hu : u.Readable)
    {leftRest rightRest : List Char} (hleftRest : StartsIn conditionStops leftRest)
    (hrightRest : StartsIn conditionStops rightRest)
    (h : t.text.toList ++ leftRest = u.text.toList ++ rightRest) : t = u ∧ leftRest = rightRest := by
  have hblank : ' ' ∈ columnStops := by decide
  have hcolumn {r s : List Char} (heq : t.column.toList ++ ' ' :: r = u.column.toList ++ ' ' :: s) :
      t.column = u.column ∧ r = s := by
    obtain ⟨hname, hrest⟩ := run_append_cons_injective (fun hc => ht.1.2 _ hc hblank)
      (fun hc => hu.1.2 _ hc hblank) heq
    exact ⟨String.toList_inj.mp hname, hrest⟩
  obtain ⟨c, l⟩ := t
  obtain ⟨d, m⟩ := u
  cases l with
  | none =>
    cases m with
    | none =>
      obtain ⟨rfl, hrest⟩ := hcolumn (by simpa [text] using h)
      exact ⟨rfl, by simpa using hrest⟩
    | some m =>
      have hrest := (hcolumn (by simpa [text] using h)).2
      exact absurd (List.cons_eq_cons.mp hrest).1 (by decide)
  | some l =>
    cases m with
    | none =>
      have hrest := (hcolumn (by simpa [text] using h)).2
      exact absurd (List.cons_eq_cons.mp hrest).1 (by decide)
    | some m =>
      obtain ⟨rfl, hrest⟩ := hcolumn (by simpa [text] using h)
      obtain ⟨rfl, hafter⟩ := literal_append_injective (ht.2 l rfl) (hu.2 m rfl) hleftRest hrightRest
        (by simpa using hrest)
      exact ⟨rfl, hafter⟩

/-- A readable test starts with a character of its column. -/
theorem Readable.not_startsIn {t : Test} (ht : t.Readable) (rest : List Char) :
    ¬ StartsIn columnStops (t.text.toList ++ rest) := by
  obtain ⟨⟨hne, hchars⟩, -⟩ := ht
  obtain ⟨column, literal⟩ := t
  cases hlist : column.toList with
  | nil => exact absurd (String.toList_eq_nil_iff.mp hlist) hne
  | cons c cs =>
    have hc : c ∉ columnStops := hchars c (by simp [hlist])
    cases literal <;> simpa [text, hlist] using hc

end Test

/-- The test of a condition is accepted when its column is a name, its text has no quote, and
numbers are words. -/
theorem Condition.accepted_of_eq {excluded : List Char} {word : String → Prop} {column : String}
    {value : Value} (hcolumns : (eq column value).ColumnsAvoid excluded)
    (htexts : (eq column value).TextsUnquoted) (hnumber : value.isNumber → word value.literal) :
    (Test.of column value).Accepted (IsName excluded) word := by
  have hself : (column, value) ∈ (eq column value).tests := by simp
  exact Test.accepted_of (hcolumns _ hself) (htexts _ hself) hnumber

end ScopedSelect
