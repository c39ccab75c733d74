import ScopedSelect.Value.Literal

/-!
# Equality of values up to the signs of zeros

Equality of numbers leaves NaN out and takes the two zeros for one. So two values are equal just if
neither is NaN and they are the same once the signs of zeros are dropped. Values that are the same but
for such a sign are the two zeros, and their literals start with different characters.
-/

namespace ScopedSelect

namespace Binary

variable {F : Format}

/-- The number without the sign of a zero. -/
def unsignedZero (x : Binary F) : Binary F := if x.isZero then zero F false else x

/-- Both zeros become the positive one. -/
theorem unsignedZero_of_isZero {x : Binary F} (hx : x.isZero) : x.unsignedZero = zero F false :=
  if_pos hx

/-- Any other number keeps its sign. -/
theorem unsignedZero_of_not_isZero {x : Binary F} (hx : ¬ x.isZero) : x.unsignedZero = x := if_neg hx

/-- A zero is the one of its sign. -/
theorem eq_zero_of_isZero {x : Binary F} (hx : x.isZero) : x = zero F x.negative :=
  congrArg (Binary.mk x.negative) (Fin.ext (of_decide_eq_true hx))

/-- Without the signs of zeros, numbers are the same if they were, or if both are zeros. -/
theorem unsignedZero_eq_iff {x y : Binary F} :
    x.unsignedZero = y.unsignedZero ↔ x = y ∨ (x.isZero ∧ y.isZero) := by
  constructor
  · intro h
    have hsame (z : Binary F) : z.unsignedZero.isZero = z.isZero := by
      by_cases hz : z.isZero
      · rw [unsignedZero_of_isZero hz, hz]
        rfl
      · rw [unsignedZero_of_not_isZero hz]
    have hboth : x.isZero = y.isZero := by rw [← hsame, h, hsame]
    by_cases hx : x.isZero
    · exact .inr ⟨hx, hboth ▸ hx⟩
    · rw [unsignedZero_of_not_isZero hx, unsignedZero_of_not_isZero (hboth ▸ hx)] at h
      exact .inl h
  · rintro (rfl | ⟨hx, hy⟩)
    · rfl
    · rw [unsignedZero_of_isZero hx, unsignedZero_of_isZero hy]

/-- Numbers are equal if neither is NaN and they are the same without the signs of zeros. -/
theorem agrees_iff {x y : Binary F} :
    x.agrees y ↔ x.isNaN = false ∧ y.isNaN = false ∧ x.unsignedZero = y.unsignedZero := by
  rw [unsignedZero_eq_iff, agrees]
  simp only [Bool.and_eq_true, Bool.or_eq_true, Bool.not_eq_true', beq_iff_eq, and_assoc]

end Binary

namespace Value

/-- Whether the value is NaN. -/
def isNaN : Value → Bool
  | float x => x.isNaN
  | _ => false

/-- The value without the sign of a zero. -/
def unsignedZero : Value → Value
  | float x => float x.unsignedZero
  | v => v

/-- If both values are floating-point zeros, they have the same sign. -/
def SameZeroSign : Value → Value → Prop
  | float x, float y => x.isZero → y.isZero → x.negative = y.negative
  | _, _ => True

instance : (v w : Value) → Decidable (v.SameZeroSign w)
  | float x, float y =>
    inferInstanceAs (Decidable (x.isZero → y.isZero → x.negative = y.negative))
  | float _, null | float _, int _ | float _, text _ => .isTrue trivial
  | null, _ | int _, _ | text _, _ => .isTrue trivial

/-- Values are equal if neither is NaN and they are the same without the signs of zeros. -/
theorem agrees_iff {v w : Value} :
    v.agrees w ↔ v.isNaN = false ∧ w.isNaN = false ∧ v.unsignedZero = w.unsignedZero := by
  cases v <;> cases w <;> simp [agrees, isNaN, unsignedZero, Binary.agrees_iff]

/-- Values that are the same without the signs of zeros are the same, or they are the two zeros. -/
theorem eq_or_zeros_of_unsignedZero_eq {v w : Value} (h : v.unsignedZero = w.unsignedZero) :
    v = w ∨ ∃ negative, v = float (.zero _ negative) ∧ w = float (.zero _ !negative) := by
  cases v with
  | float x =>
    cases w with
    | float y =>
      rcases Binary.unsignedZero_eq_iff.mp (Value.float.inj h) with rfl | ⟨hx, hy⟩
      · exact .inl rfl
      · rw [Binary.eq_zero_of_isZero hx, Binary.eq_zero_of_isZero hy]
        by_cases hsign : y.negative = x.negative
        · exact .inl (by rw [hsign])
        · exact .inr ⟨x.negative, rfl, by rw [Bool.eq_not_of_ne hsign]⟩
    | _ => cases h
  | _ =>
    cases w with
    | float y => cases h
    | _ => exact .inl h

/-- The literals of the two zeros are told apart by their first characters. -/
theorem literal_zero_append_ne (negative : Bool) (left right : List Char) :
    (float (.zero _ negative)).literal.toList ++ left ≠
      (float (.zero _ !negative)).literal.toList ++ right := by
  have hplus : (float (.zero _ false)).literal = "0.0" := by decide +kernel
  have hminus : (float (.zero _ true)).literal = "-0.0" := by decide +kernel
  intro h
  cases negative with
  | false =>
    rw [hplus, Bool.not_false, hminus] at h
    exact absurd (List.cons_eq_cons.mp h).1 (by decide)
  | true =>
    rw [hminus, Bool.not_true, hplus] at h
    exact absurd (List.cons_eq_cons.mp h).1 (by decide)

end Value

end ScopedSelect
