import ScopedSelect.Proofs.Json.Spelling
import ScopedSelect.Value.Basic

/-!
# Readings to the nearest number

A reading of numerals to the nearest number is determined by what the numerals denote: it yields the
nearest finite number with the sign written, and nothing when the numeral is out of range. Under such
a reading the numeral of a written number leads back to that number, and the numeral of an integer is
an integer again as long as it fits into 64 bits.
-/

namespace ScopedSelect

namespace Format

/-- Integers of 128 bits are far below the greatest finite number. -/
theorem two_pow_lt_limit : (2 ^ (127 : Nat) : Nat) < binary64.limit := by
  have hunits : binary64.units (1149 * 2 ^ binary64.fractionBits + 2 ^ binary64.fractionBits) =
      2 ^ (127 : Nat) * 2 ^ binary64.scale := by
    rw [(binary64.units_and_step (by decide) (.inr (Nat.le_refl _))).1, ← Nat.pow_add, ← Nat.pow_add]
    exact congrArg (2 ^ ·) (by decide : binary64.fractionBits + 1149 = 127 + binary64.scale)
  have hsize : binary64.size (1149 * 2 ^ binary64.fractionBits + 2 ^ binary64.fractionBits) =
      (2 ^ (127 : Nat) : Nat) := by
    rw [size, hunits, Nat.cast_mul, mul_div_assoc, div_self (by positivity), mul_one]
  have hbelow := binary64.size_strictMono
    (show 1149 * 2 ^ binary64.fractionBits + 2 ^ binary64.fractionBits < binary64.infinity - 1 by decide)
  have habove := binary64.size_strictMono (show binary64.infinity - 1 < binary64.infinity by decide)
  rw [← hsize, limit]
  linarith

end Format

namespace Numeral

/-- The number that the numeral denotes. -/
def toRat (n : Numeral) : ℚ := signed n.minus n.decimal.toRat

end Numeral

namespace Reading

/-- The reading yields the nearest number with the sign written, if the numeral is in range. -/
structure IsNearest (reading : Reading) : Prop where
  exists_of_lt : ∀ n : Numeral, n.decimal.toRat < Format.binary64.limit →
    ∃ x, reading n = some x ∧ x.negative = n.minus ∧ x.IsNearest n.toRat
  eq_none_of_le : ∀ n : Numeral, Format.binary64.limit ≤ n.decimal.toRat → reading n = none

/-- There is such a reading. -/
theorem nearest_isNearest : nearest.IsNearest where
  exists_of_lt n h := Binary.exists_nearest?_of_lt (by decide) (by decide) n.minus h
  eq_none_of_le n h := Binary.nearest?_eq_none_of_le (by decide) (by decide) n.minus h

namespace IsNearest

variable {reading : Reading} {n : Numeral} {x : Double}

/-- Only finite numbers are read. -/
theorem isFinite (h : reading.IsNearest) (hx : reading n = some x) : x.isFinite := by
  rcases lt_or_ge n.decimal.toRat Format.binary64.limit with hlt | hle
  · obtain ⟨y, hy, -, hnearest⟩ := h.exists_of_lt n hlt
    obtain rfl := Option.some.inj (hx.symm.trans hy)
    exact hnearest.finite
  · rw [h.eq_none_of_le n hle] at hx
    cases hx

/-- A finite number is read from every numeral of its sign that rounds to its magnitude. -/
theorem eq_some_of_rounds (h : reading.IsNearest) (hx : x.isFinite) (hminus : n.minus = x.negative)
    (hrounds : Format.binary64.Rounds n.decimal.toRat x.magnitude.val) : reading n = some x := by
  have hlt := hrounds.lt_limit (of_decide_eq_true hx) (by decide)
  obtain ⟨y, hy, hsign, hnearest⟩ := h.exists_of_lt n hlt
  have hself : x.IsNearest n.toRat := by
    rw [Numeral.toRat, hminus]
    exact Binary.isNearest_of_rounds hx n.decimal.toRat_nonneg hrounds
  rw [hy, hnearest.unique hself (hsign.trans hminus)]

end IsNearest

end Reading

namespace Numeral

variable {reading : Reading}

/-- A numeral with a fraction or an exponent is no integer. -/
theorem number?_of_not_integer {n : Numeral} (h : n.fraction ≠ none ∨ n.exponent ≠ none) :
    n.number? reading = (reading n).map .double := by
  rw [number?]
  split
  · next hfraction hexponent _ => exact (h.elim (· hfraction) (· hexponent)).elim
  · next hfraction hexponent _ => exact (h.elim (· hfraction) (· hexponent)).elim
  · rfl

/-- A floating-point number comes from the reading. -/
theorem reading_of_number?_eq_double {n : Numeral} {x : Double}
    (h : n.number? reading = some (.double x)) : reading n = some x := by
  have hread (h : (reading n).map JsonNumber.double = some (.double x)) : reading n = some x := by
    obtain ⟨y, hy, heq⟩ := Option.map_eq_some_iff.mp h
    rw [hy, JsonNumber.double.inj heq]
  rw [number?] at h
  split at h
  · split at h
    · cases h
    · exact hread h
  · split at h
    · cases h
    · exact hread h
  · exact hread h

/-- The numeral of an integer. -/
def ofInt (n : Int) : Numeral := ⟨n < 0, Nat.toDigits 10 n.natAbs, none, none⟩

/-- The numeral of an integer is one of the grammar: it has no superfluous zero in front. -/
theorem ofInt_isProper (n : Int) : (ofInt n).IsProper where
  whole := isDigits_toDigits _
  leading h := by
    have hzero := eq_zero_of_head?_toDigits h
    rw [ofInt, hzero]
    rfl
  fraction := nofun
  exponent := nofun

/-- Integers are written as their numerals. -/
theorem chars_ofInt (plus : Bool) (n : WideInt) : (ofInt n.val).chars plus = n.chars := by
  simp [chars, ofInt, WideInt.chars, fractionChars, exponentChars]

/-- The numeral of an integer denotes the size of the integer, without a power of ten. -/
theorem decimal_ofInt (n : Int) : (ofInt n).decimal = ⟨n.natAbs, 0⟩ := by
  rw [decimal, ofInt]
  simp [digitsValue_toDigits, exponentValue]

/-- An integer of 128 bits is in range. -/
theorem toRat_decimal_ofInt_lt_limit {n : Int} (h : n.natAbs ≤ 2 ^ (127 : Nat)) :
    (ofInt n).decimal.toRat < Format.binary64.limit := by
  rw [decimal_ofInt, Decimal.toRat, zpow_zero, mul_one]
  exact lt_of_le_of_lt (Nat.cast_le.mpr h) Format.two_pow_lt_limit

/-- The numeral of an integer denotes it. -/
theorem toRat_ofInt (n : Int) : (ofInt n).toRat = n := by
  have hsize : (ofInt n).toRat = signed (n < 0) (n.natAbs : Int) := by
    rw [toRat, decimal_ofInt, Decimal.toRat, zpow_zero, mul_one]
    rfl
  rw [hsize]
  rcases Int.lt_or_le n 0 with h | h
  · have hnegative : -(n.natAbs : Int) = n := by omega
    rw [decide_eq_true h]
    change -((n.natAbs : Int) : ℚ) = n
    rw [← Int.cast_neg, hnegative]
  · have hpositive : (n.natAbs : Int) = n := by omega
    rw [decide_eq_false (not_lt.mpr h), hpositive]
    rfl

variable (reading)

/-- An integer from zero on is kept as one as long as it fits into 64 bits. -/
theorem number?_ofInt_natural {n : Int} (hnonneg : 0 ≤ n) (hlt : n < 2 ^ (64 : Nat)) :
    ∃ u : UInt64, (ofInt n).number? reading = some (.natural u) ∧ (u.toNat : Int) = n := by
  have hvalue : digitsValue (Nat.toDigits 10 n.natAbs) < UInt64.size := by
    rw [digitsValue_toDigits]
    change n.natAbs < 2 ^ (64 : Nat)
    omega
  refine ⟨.ofNatLT _ hvalue, ?_, ?_⟩
  · rw [ofInt, decide_eq_false (not_lt.mpr hnonneg), number?]
    exact dif_pos hvalue
  · rw [UInt64.toNat_ofNatLT, digitsValue_toDigits]
    omega

/-- An integer below zero is kept as one as long as it fits into 64 bits with a sign. -/
theorem number?_ofInt_negative {n : Int} (hneg : n < 0) (hle : -2 ^ (63 : Nat) ≤ n) :
    ∃ i : Int64, (ofInt n).number? reading = some (.negative i) ∧ i.toInt = n := by
  have hvalue : (digitsValue (Nat.toDigits 10 n.natAbs) : Int) = -n := by
    rw [digitsValue_toDigits]
    omega
  refine ⟨.ofInt n, ?_, Int64.toInt_ofInt_of_le hle (by omega)⟩
  rw [ofInt, decide_eq_true hneg, number?]
  simp only
  rw [if_pos (by omega), hvalue, neg_neg]

/-- Every other integer is read as a floating-point number. -/
theorem number?_ofInt_wide {n : Int} (h : n < -2 ^ (63 : Nat) ∨ 2 ^ (64 : Nat) ≤ n) :
    (ofInt n).number? reading = (reading (ofInt n)).map .double := by
  have hvalue : digitsValue (Nat.toDigits 10 n.natAbs) = n.natAbs := digitsValue_toDigits _
  rcases h with hlow | hhigh
  · rw [ofInt, decide_eq_true (by omega), number?]
    simp only
    rw [if_neg (by omega)]
  · rw [ofInt, decide_eq_false (by omega), number?]
    refine dif_neg ?_
    rw [hvalue]
    change ¬ n.natAbs < 2 ^ (64 : Nat)
    omega

end Numeral

end ScopedSelect
