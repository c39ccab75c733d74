import ScopedSelect.Proofs.Json.Reading

/-!
# Integers among the numerals

A numeral is read as an integer if it has neither a fraction nor an exponent, is no minus zero and
denotes a number within 64 bits, with a sign or without. Such a numeral is the one that its integer is
written as: a proper numeral has no superfluous zero, so its digits are those of its value. Every other
numeral is left to the reading of floating-point numbers, whatever number it denotes.
-/

namespace ScopedSelect

namespace Numeral

/-- A decimal digit is the character of its value. -/
theorem digitChar_sub_of_isDigit {c : Char} (hc : c.isDigit) :
    c.toNat - '0'.toNat < 10 ∧ (c.toNat - '0'.toNat).digitChar = c := by
  obtain ⟨hlow, hhigh⟩ := Char.isDigit_iff_toNat.mp hc
  change 48 ≤ c.toNat at hlow
  change c.toNat ≤ 57 at hhigh
  have hlt : c.toNat - 48 < 10 := by omega
  refine ⟨hlt, Char.toNat_inj.mp ?_⟩
  change (c.toNat - 48).digitChar.toNat = c.toNat
  rw [Nat.toNat_digitChar_of_lt_ten hlt]
  omega

/-- Digits behind those of a positive number are the last digits of the number they lead to. -/
theorem toDigits_append {value : Nat} (hvalue : 0 < value) {ds : List Char}
    (hds : ∀ c ∈ ds, c.isDigit) :
    Nat.toDigits 10 value ++ ds = Nat.toDigits 10 (Nat.ofDigitChars 10 ds value) := by
  induction ds generalizing value with
  | nil => rw [List.append_nil, Nat.ofDigitChars_nil]
  | cons c ds ih =>
    obtain ⟨hlt, hchar⟩ := digitChar_sub_of_isDigit (hds c List.mem_cons_self)
    have hnext := Nat.toDigits_append_toDigits (b := 10) (by decide) hvalue hlt
    rw [Nat.toDigits_of_lt_base hlt, hchar] at hnext
    rw [Nat.ofDigitChars_cons, ← ih (by omega) fun d hd => hds d (List.mem_cons_of_mem c hd),
      ← hnext, List.append_assoc, List.singleton_append]

/-- Without a superfluous zero in front, digits are those of their value. -/
theorem toDigits_digitsValue {ds : List Char} (hds : IsDigits ds)
    (hleading : ds.head? = some '0' → ds = ['0']) : Nat.toDigits 10 (digitsValue ds) = ds := by
  cases ds with
  | nil => exact absurd rfl hds.ne_nil
  | cons c ds =>
    obtain ⟨hlt, hchar⟩ := digitChar_sub_of_isDigit (hds.isDigit c List.mem_cons_self)
    by_cases hzero : c = '0'
    · rw [hleading (by rw [hzero]; rfl)]
      rfl
    · have hpos : 0 < c.toNat - '0'.toNat := by
        refine Nat.pos_of_ne_zero fun h => hzero ?_
        rw [← hchar, h]
        rfl
      have hdigits := toDigits_append hpos fun d hd => hds.isDigit d (List.mem_cons_of_mem c hd)
      rw [Nat.toDigits_of_lt_base hlt, hchar] at hdigits
      rw [digitsValue, Nat.ofDigitChars_cons, Nat.mul_zero, Nat.zero_add, ← hdigits,
        List.singleton_append]

/-- The numeral has neither a fraction nor an exponent, and it is no minus zero. -/
structure IsWhole (n : Numeral) : Prop where
  fraction : n.fraction = none
  exponent : n.exponent = none
  not_minus_zero : n.minus → n.toRat ≠ 0

/-- The numeral is whole, and the number fits into 64 bits, with a sign or without. -/
structure IsInteger (n : Numeral) : Prop extends n.IsWhole where
  le_toRat : (-2 ^ (63 : Nat) : ℤ) ≤ n.toRat
  toRat_le : n.toRat ≤ (2 ^ (64 : Nat) - 1 : ℤ)

/-- Without a fraction and an exponent a numeral has the size of its whole digits. -/
theorem toRat_decimal_of_plain {n : Numeral} (hfraction : n.fraction = none)
    (hexponent : n.exponent = none) : n.decimal.toRat = digitsValue n.whole := by
  simp [decimal, Decimal.toRat, exponentValue, hfraction, hexponent]

/-- A proper numeral that is whole is the numeral of an integer. -/
theorem IsWhole.exists_eq_ofInt {n : Numeral} (h : n.IsWhole) (hn : n.IsProper) :
    ∃ k : ℤ, n = ofInt k := by
  have hdigits := toDigits_digitsValue hn.whole hn.leading
  have hvalue := toRat_decimal_of_plain h.fraction h.exponent
  obtain ⟨minus, whole, fraction, exponent⟩ := n
  obtain rfl : fraction = none := h.fraction
  obtain rfl : exponent = none := h.exponent
  cases minus with
  | false =>
    refine ⟨digitsValue whole, ?_⟩
    simp [ofInt, hdigits]
  | true =>
    have hpos : 0 < digitsValue whole := by
      refine Nat.pos_of_ne_zero fun hzero => h.not_minus_zero rfl ?_
      rw [toRat, hvalue]
      simp [signed, hzero]
    refine ⟨-digitsValue whole, ?_⟩
    simp [ofInt, hdigits, hpos]

/-- The numeral of an integer is whole. -/
theorem isWhole_ofInt (k : ℤ) : (ofInt k).IsWhole where
  fraction := rfl
  exponent := rfl
  not_minus_zero h := by
    have hneg : k < 0 := of_decide_eq_true h
    rw [toRat_ofInt, Int.cast_ne_zero]
    exact hneg.ne

/-- The numeral of an integer is read as one just within 64 bits. -/
theorem isInteger_ofInt_iff {k : ℤ} :
    (ofInt k).IsInteger ↔ -2 ^ (63 : Nat) ≤ k ∧ k < 2 ^ (64 : Nat) := by
  constructor
  · intro h
    have hlow := h.le_toRat
    have hhigh := h.toRat_le
    rw [toRat_ofInt, Int.cast_le] at hlow hhigh
    exact ⟨hlow, Int.lt_of_le_sub_one hhigh⟩
  · rintro ⟨hlow, hhigh⟩
    refine ⟨isWhole_ofInt k, ?_, ?_⟩
    · rw [toRat_ofInt, Int.cast_le]
      exact hlow
    · rw [toRat_ofInt, Int.cast_le]
      exact Int.le_sub_one_of_lt hhigh

/-- A numeral that is no integer is left to the reading of floating-point numbers. -/
theorem number?_of_not_isInteger (reading : Reading) {n : Numeral} (hn : n.IsProper)
    (h : ¬ n.IsInteger) : n.number? reading = (reading n).map .double := by
  by_cases hplain : n.fraction = none ∧ n.exponent = none
  · by_cases hzero : n.minus → n.toRat ≠ 0
    · obtain ⟨k, rfl⟩ := (IsWhole.mk hplain.1 hplain.2 hzero).exists_eq_ofInt hn
      rw [isInteger_ofInt_iff] at h
      exact number?_ofInt_wide reading (by omega)
    · -- What is left is a minus zero, which is refused as an integer below zero.
      obtain ⟨hminus, hvalue⟩ := Classical.not_imp.mp hzero
      have hdigits : digitsValue n.whole = 0 := by
        rw [not_not, toRat, hminus, toRat_decimal_of_plain hplain.1 hplain.2] at hvalue
        exact_mod_cast neg_eq_zero.mp hvalue
      rw [number?, hplain.1, hplain.2, hminus]
      exact if_neg fun hpos => hpos.1.ne' hdigits
  · exact number?_of_not_integer (not_and_or.mp hplain)

end Numeral

end ScopedSelect
