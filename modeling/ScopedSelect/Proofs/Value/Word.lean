import ScopedSelect.Proofs.Text.Boundary
import ScopedSelect.Value.Literal

/-!
# Written numbers are words

Whatever its kind, a number is written with letters, digits, signs and points only. So its literal
is a single word for every reader that separates words by blanks, commas, parentheses, quotes or
semicolons.
-/

namespace ScopedSelect

/-- The characters that numbers are written with. -/
def isNumeralChar (c : Char) : Bool := c.isAlphanum || c == '-' || c == '+' || c == '.'

/-- Decimal digits are characters of numbers. -/
theorem isNumeralChar_of_mem_toDigits {n : Nat} {c : Char} (h : c ∈ Nat.toDigits 10 n) :
    isNumeralChar c := by
  have hc : c.isDigit := Nat.isDigit_of_mem_toDigits (by decide) (by decide) h
  simp [isNumeralChar, Char.isAlphanum, hc]

/-- The sign of a number is one of its characters. -/
theorem isNumeralChar_of_mem_sign {negative : Prop} [Decidable negative] {c : Char}
    (h : c ∈ if negative then ['-'] else []) : isNumeralChar c := by
  split at h
  · rw [List.mem_singleton.mp h]
    decide
  · exact absurd h List.not_mem_nil

namespace Decimal

/-- The point form has digits and one point. -/
theorem isNumeralChar_of_mem_plainChars (d : Decimal) : ∀ c ∈ d.plainChars, isNumeralChar c := by
  have hdigits (c : Char) (hc : c ∈ d.digitChars) : isNumeralChar c :=
    isNumeralChar_of_mem_toDigits hc
  have hzeros (n : Nat) (c : Char) (hc : c ∈ List.replicate n '0') : isNumeralChar c := by
    rw [List.eq_of_mem_replicate hc]
    decide
  have hpoint : isNumeralChar '.' := by decide
  have hzero : isNumeralChar '0' := by decide
  intro c hc
  unfold plainChars at hc
  split at hc
  · simp only [List.mem_append, List.mem_cons, List.not_mem_nil, or_false] at hc
    rcases hc with (hc | hc) | rfl | rfl
    · exact hdigits c hc
    · exact hzeros _ c hc
    · exact hpoint
    · exact hzero
  · split at hc
    · simp only [List.mem_append, List.mem_cons] at hc
      rcases hc with hc | rfl | hc
      · exact hdigits c (List.mem_of_mem_take hc)
      · exact hpoint
      · exact hdigits c (List.mem_of_mem_drop hc)
    · simp only [List.cons_append, List.mem_append, List.mem_cons] at hc
      rcases hc with rfl | rfl | hc | hc
      · exact hzero
      · exact hpoint
      · exact hzeros _ c hc
      · exact hdigits c hc

/-- An exponent has digits and at most a sign. -/
theorem isNumeralChar_of_mem_exponentChars (plus : Bool) (e : Int) :
    ∀ c ∈ exponentChars plus e, isNumeralChar c := by
  have hminus : isNumeralChar '-' := by decide
  have hplus : isNumeralChar '+' := by decide
  intro c hc
  rcases List.mem_append.mp hc with hsign | hdigit
  · split at hsign
    · exact List.mem_singleton.mp hsign ▸ hminus
    · split at hsign
      · exact List.mem_singleton.mp hsign ▸ hplus
      · exact absurd hsign List.not_mem_nil
  · exact isNumeralChar_of_mem_toDigits hdigit

/-- The form with an exponent has digits, at most one point, a letter and the exponent. -/
theorem isNumeralChar_of_mem_scientificChars (plus : Bool) (d : Decimal) :
    ∀ c ∈ d.scientificChars plus, isNumeralChar c := by
  have hdigits (c : Char) (hc : c ∈ d.digitChars) : isNumeralChar c :=
    isNumeralChar_of_mem_toDigits hc
  have hpoint : isNumeralChar '.' := by decide
  have hletter : isNumeralChar 'e' := by decide
  intro c hc
  simp only [scientificChars, List.mem_append, List.mem_cons] at hc
  rcases hc with (hc | hc) | rfl | hc
  · exact hdigits c (List.mem_of_mem_take hc)
  · split at hc
    · exact absurd hc List.not_mem_nil
    · rcases List.mem_cons.mp hc with rfl | hc
      · exact hpoint
      · exact hdigits c (List.mem_of_mem_drop hc)
  · exact hletter
  · exact isNumeralChar_of_mem_exponentChars plus d.leading c hc

/-- The point form always has its point. -/
theorem plainChars_ne_nil (d : Decimal) : d.plainChars ≠ [] := by
  unfold plainChars
  split
  · simp
  · split <;> simp

/-- The form with an exponent always has its letter. -/
theorem scientificChars_ne_nil (plus : Bool) (d : Decimal) : d.scientificChars plus ≠ [] := by
  simp [scientificChars]

end Decimal

namespace NumberStyle

variable (style : NumberStyle) {F : Format}

/-- A finite number is written with characters of numbers, and not with none of them. -/
theorem finiteChars_numeral (x : Binary F) :
    style.finiteChars x ≠ [] ∧ ∀ c ∈ style.finiteChars x, isNumeralChar c := by
  have hdecimal (d : Decimal) :
      style.decimalChars d ≠ [] ∧ ∀ c ∈ style.decimalChars d, isNumeralChar c := by
    unfold decimalChars
    split
    · exact ⟨d.plainChars_ne_nil, d.isNumeralChar_of_mem_plainChars⟩
    · exact ⟨d.scientificChars_ne_nil _, d.isNumeralChar_of_mem_scientificChars _⟩
  obtain ⟨hne, hchars⟩ := hdecimal (F.shortest style.tie x.magnitude.val)
  refine ⟨List.append_ne_nil_of_right_ne_nil _ hne, fun c hc => ?_⟩
  rcases List.mem_append.mp hc with hsign | hc
  · exact isNumeralChar_of_mem_sign hsign
  · exact hchars c hc

end NumberStyle

namespace Value

/-- A number is written as one word: its literal avoids all characters that numbers do not have. -/
theorem literal_isName {v : Value} (hv : v.isNumber) {excluded : List Char}
    (hexcluded : excluded.all (!isNumeralChar ·)) : IsName excluded v.literal := by
  have hname {s : String} (hne : s.toList ≠ []) (hs : s.toList.all isNumeralChar) :
      IsName excluded s := by
    refine ⟨fun h => hne (by rw [h]; rfl), fun c hc he => ?_⟩
    have hnumeral : isNumeralChar c := List.all_eq_true.mp hs c hc
    simpa [hnumeral] using List.all_eq_true.mp hexcluded c he
  cases v with
  | null => exact absurd hv Bool.false_ne_true
  | text s => exact absurd hv Bool.false_ne_true
  | int n =>
    apply hname
    · simp [literal, WideInt.chars, Nat.toDigits_ne_nil]
    · apply List.all_eq_true.mpr
      intro c hc
      simp only [literal, String.toList_ofList, WideInt.chars, List.mem_append] at hc
      rcases hc with hsign | hdigit
      · exact isNumeralChar_of_mem_sign hsign
      · exact isNumeralChar_of_mem_toDigits hdigit
  | float x =>
    simp only [literal, NumberStyle.write]
    split
    · exact hname (by decide) (by decide)
    · split
      · obtain ⟨hne, hchars⟩ := sqlNumbers.finiteChars_numeral x
        exact hname (by rwa [String.toList_ofList])
          (by rwa [String.toList_ofList, List.all_eq_true])
      · split
        · exact hname (by decide) (by decide)
        · exact hname (by decide) (by decide)

end Value

end ScopedSelect
