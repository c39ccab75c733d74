import Mathlib.Data.List.Basic
import ScopedSelect.Decimal.Layout
import ScopedSelect.Proofs.Binary.Shortest
import ScopedSelect.Proofs.Json.Numeral

/-!
# Written decimals are numerals

Whichever form a decimal is written in, the characters are those of a proper numeral that denotes the
same number. It has a point or an exponent, so it is never taken for an integer. Only a zero with an
exponent above zero would be written with a superfluous zero in front, and no such decimal is chosen
for a number.
-/

namespace ScopedSelect

/-- The digits of a natural number are decimal digits. -/
theorem isDigits_toDigits (n : Nat) : IsDigits (Nat.toDigits 10 n) where
  ne_nil := Nat.toDigits_ne_nil
  isDigit _ hc := Nat.isDigit_of_mem_toDigits (by decide) (by decide) hc

/-- Only zero has digits that start with a zero. -/
theorem eq_zero_of_head?_toDigits {n : Nat} (h : (Nat.toDigits 10 n).head? = some '0') : n = 0 := by
  induction n using Nat.strongRecOn with
  | ind n ih =>
    rcases Nat.lt_or_ge n 10 with hsmall | hlarge
    · have honly : ∀ d < 10, Nat.digitChar d = '0' → d = 0 := by decide
      rw [Nat.toDigits_of_lt_base hsmall] at h
      exact honly n hsmall (Option.some.inj h)
    · rw [Nat.toDigits_of_base_le (by decide) hlarge,
        List.head?_append_of_ne_nil _ Nat.toDigits_ne_nil] at h
      have hquotient := ih (n / 10) (by omega) h
      omega

namespace Numeral

/-- The digits of a number have the number as their value. -/
theorem digitsValue_toDigits (n : Nat) : digitsValue (Nat.toDigits 10 n) = n :=
  Nat.ofDigitChars_toDigits (by decide) (by decide)

/-- Zeros behind the digits scale their value. -/
theorem digitsValue_append_zeros (ds : List Char) (zeros : Nat) :
    digitsValue (ds ++ List.replicate zeros '0') = digitsValue ds * 10 ^ zeros := by
  rw [digitsValue, Nat.ofDigitChars_append, Nat.ofDigitChars_replicate_zero, Nat.mul_comm]
  rfl

/-- Zeros in front of the digits do not change their value. -/
theorem digitsValue_zeros_append (zeros : Nat) (ds : List Char) :
    digitsValue (List.replicate zeros '0' ++ ds) = digitsValue ds := by
  rw [digitsValue, Nat.ofDigitChars_append, Nat.ofDigitChars_replicate_zero, Nat.mul_zero]
  rfl

/-- The numeral is written with the characters and denotes the decimal, and it is no integer. -/
structure Spells (n : Numeral) (plus : Bool) (cs : List Char) (d : Decimal) : Prop where
  proper : n.IsProper
  chars : n.whole ++ (fractionChars n.fraction ++ exponentChars plus n.exponent) = cs
  toRat : n.decimal.toRat = d.toRat
  not_integer : n.fraction ≠ none ∨ n.exponent ≠ none

variable {minus plus : Bool} {whole fraction cs : List Char} {d : Decimal}

/-- Digits on both sides of a point are a numeral. -/
theorem spells_of_point (hwhole : IsDigits whole)
    (hleading : whole.head? = some '0' → whole = ['0']) (hfraction : IsDigits fraction)
    (hchars : whole ++ '.' :: fraction = cs)
    (hvalue : (⟨digitsValue (whole ++ fraction), -fraction.length⟩ : Decimal).toRat = d.toRat) :
    Spells ⟨minus, whole, some fraction, none⟩ plus cs d where
  proper := ⟨hwhole, hleading, by rintro ds ⟨⟩; exact hfraction, nofun⟩
  chars := by rw [← hchars, exponentChars, List.append_nil, fractionChars]
  toRat := by
    rw [← hvalue, ← zero_sub]
    rfl
  not_integer := .inl nofun

/-- A digit with an exponent is a numeral, with further digits behind a point or without. -/
theorem spells_of_exponent {c : Char} (hc : c.isDigit) {fraction : Option (List Char)}
    (hfraction : ∀ ds ∈ fraction, IsDigits ds) {e : Int}
    (hchars : c :: (fractionChars fraction ++ 'e' :: Decimal.exponentChars plus e) = cs)
    (hvalue : (⟨digitsValue (c :: fraction.getD []), e - (fraction.getD []).length⟩ : Decimal) = d) :
    Spells ⟨minus, [c], fraction, some (e < 0, Nat.toDigits 10 e.natAbs)⟩ plus cs d where
  proper := {
    whole := .singleton hc
    leading := fun h => by rw [Option.some.inj h]
    fraction := hfraction
    exponent := by rintro x ⟨⟩; exact isDigits_toDigits _ }
  chars := by
    rw [← hchars, exponentChars, Decimal.exponentChars]
    simp
  toRat := by
    have hexponent : exponentValue ⟨minus, [c], fraction, some (e < 0, Nat.toDigits 10 e.natAbs)⟩ =
        e := by
      cases h : decide (e < 0) with
      | true =>
        simp only [exponentValue, digitsValue_toDigits]
        have := of_decide_eq_true h
        omega
      | false =>
        simp only [exponentValue, digitsValue_toDigits]
        have := of_decide_eq_false h
        omega
    rw [← hvalue, decimal, hexponent]
    rfl
  not_integer := .inr nofun

end Numeral

namespace Decimal

open Numeral

variable (d : Decimal) (minus plus : Bool)

/-- Digits and zeros up to the point, and a zero behind it. -/
theorem spells_whole (hexponent : 0 ≤ d.exponent) (hzero : d.digits = 0 → d.exponent = 0) :
    Spells ⟨minus, d.digitChars ++ List.replicate d.exponent.toNat '0', some ['0'], none⟩ plus
      d.plainChars d := by
  apply spells_of_point
  · refine (isDigits_toDigits _).append fun c hc => ?_
    rw [List.eq_of_mem_replicate hc]
    decide
  · intro h
    rw [digitChars, List.head?_append_of_ne_nil _ Nat.toDigits_ne_nil] at h
    have hdigits := eq_zero_of_head?_toDigits h
    simp [digitChars, hdigits, hzero hdigits]
  · exact .singleton (by decide)
  · simp [plainChars, hexponent]
  · rw [List.append_assoc, ← List.replicate_succ', digitsValue_append_zeros, digitChars,
      digitsValue_toDigits, toRat_mul_pow]
    congr 2
    rw [List.length_singleton]
    omega

/-- Digits with the point among them. -/
theorem spells_cut (hexponent : d.exponent < 0) (hleading : 0 ≤ d.leading) :
    Spells ⟨minus, d.digitChars.take (d.leading.toNat + 1),
      some (d.digitChars.drop (d.leading.toNat + 1)), none⟩ plus d.plainChars d := by
  have hlength : (d.digitChars.length : Int) = d.leading - d.exponent + 1 := by
    rw [leading]
    omega
  have hdrop : ((d.digitChars.drop (d.leading.toNat + 1)).length : Int) = -d.exponent := by
    rw [List.length_drop]
    omega
  have hall : IsDigits d.digitChars := isDigits_toDigits d.digits
  apply spells_of_point
  · refine ⟨fun h => ?_, fun c hc => hall.isDigit c (List.mem_of_mem_take hc)⟩
    exact hall.ne_nil ((List.take_eq_nil_iff.mp h).resolve_left (Nat.succ_ne_zero _))
  · -- A leading zero is the only digit, and then none would be left behind the point.
    intro h
    rw [List.head?_take, if_neg (Nat.succ_ne_zero _)] at h
    have hone : d.digitChars = ['0'] := by
      rw [digitChars, eq_zero_of_head?_toDigits h]
      rfl
    rw [hone, List.length_singleton] at hlength
    omega
  · refine ⟨fun h => ?_, fun c hc => hall.isDigit c (List.mem_of_mem_drop hc)⟩
    rw [h, List.length_nil] at hdrop
    omega
  · simp [plainChars, hexponent.not_ge, hleading]
  · rw [List.take_append_drop, hdrop, digitChars, digitsValue_toDigits, neg_neg]

/-- A zero, a point, further zeros and the digits. -/
theorem spells_fraction (hexponent : d.exponent < 0) (hleading : d.leading < 0) :
    Spells ⟨minus, ['0'], some (List.replicate (-d.leading - 1).toNat '0' ++ d.digitChars), none⟩
      plus d.plainChars d := by
  have hall : IsDigits d.digitChars := isDigits_toDigits d.digits
  apply spells_of_point
  · exact .singleton (by decide)
  · exact fun _ => rfl
  · refine ⟨List.append_ne_nil_of_right_ne_nil _ hall.ne_nil, fun c hc => ?_⟩
    rcases List.mem_append.mp hc with hzero | hdigit
    · rw [List.eq_of_mem_replicate hzero]
      decide
    · exact hall.isDigit c hdigit
  · simp [plainChars, hexponent.not_ge, hleading.not_ge]
  · have hlength : ((List.replicate (-d.leading - 1).toNat '0' ++ d.digitChars).length : Int) =
        -d.exponent := by
      rw [List.length_append, List.length_replicate, leading]
      rw [leading] at hleading
      omega
    change Decimal.toRat ⟨digitsValue (List.replicate 1 '0' ++ _), _⟩ = d.toRat
    rw [hlength, digitsValue_zeros_append, digitsValue_zeros_append, digitChars,
      digitsValue_toDigits, neg_neg]

/-- One digit, the others behind a point if there are any, and the exponent of the first digit. -/
theorem exists_spells_scientificChars :
    ∃ n : Numeral, n.minus = minus ∧ n.Spells plus (d.scientificChars plus) d := by
  have hall : IsDigits d.digitChars := isDigits_toDigits d.digits
  have hvalue : digitsValue d.digitChars = d.digits := digitsValue_toDigits _
  obtain ⟨first, others, hdigits⟩ := List.exists_cons_of_ne_nil hall.ne_nil
  rw [hdigits] at hall hvalue
  have hfirst : first.isDigit := hall.isDigit first List.mem_cons_self
  have hexponent : d.leading - others.length = d.exponent := by
    rw [leading, hdigits, List.length_cons]
    omega
  have hdecimal : (⟨digitsValue (first :: others), d.leading - others.length⟩ : Decimal) = d := by
    rw [hvalue, hexponent]
  cases others with
  | nil =>
    have hfraction : ∀ ds ∈ (none : Option (List Char)), IsDigits ds := by simp
    have hchars : first :: (fractionChars none ++ 'e' :: exponentChars plus d.leading) =
        d.scientificChars plus := by simp [scientificChars, hdigits, fractionChars]
    exact ⟨_, rfl, spells_of_exponent hfirst hfraction hchars hdecimal⟩
  | cons second others =>
    have hfraction : ∀ ds ∈ some (second :: others), IsDigits ds := by
      rintro ds ⟨⟩
      exact ⟨List.cons_ne_nil _ _, fun c hc => hall.isDigit c (List.mem_cons_of_mem _ hc)⟩
    have hchars : first :: (fractionChars (some (second :: others)) ++
        'e' :: exponentChars plus d.leading) = d.scientificChars plus := by
      simp [scientificChars, hdigits, fractionChars]
    exact ⟨_, rfl, spells_of_exponent hfirst hfraction hchars hdecimal⟩

/-- The point form is a numeral unless it is a zero with an exponent above zero. -/
theorem exists_spells_plainChars (hzero : d.digits = 0 → d.exponent = 0) :
    ∃ n : Numeral, n.minus = minus ∧ n.Spells plus d.plainChars d := by
  rcases Int.lt_or_le d.exponent 0 with hexponent | hexponent
  · rcases Int.lt_or_le d.leading 0 with hleading | hleading
    · exact ⟨_, rfl, d.spells_fraction minus plus hexponent hleading⟩
    · exact ⟨_, rfl, d.spells_cut minus plus hexponent hleading⟩
  · exact ⟨_, rfl, d.spells_whole minus plus hexponent hzero⟩

end Decimal

namespace NumberStyle

open Numeral

/-- A written finite number is a numeral with its sign that denotes its shortest decimal. -/
theorem exists_numeral_of_finiteChars (style : NumberStyle) {F : Format} (x : Binary F) :
    ∃ n : Numeral, n.IsProper ∧ n.chars style.plusExponent = style.finiteChars x ∧
      n.minus = x.negative ∧ n.decimal.toRat = (F.shortest style.tie x.magnitude.val).toRat ∧
        (n.fraction ≠ none ∨ n.exponent ≠ none) := by
  have hspells : ∃ n : Numeral, n.minus = x.negative ∧
      n.Spells style.plusExponent (style.decimalChars (F.shortest style.tie x.magnitude.val))
        (F.shortest style.tie x.magnitude.val) := by
    rw [decimalChars]
    split
    · apply Decimal.exists_spells_plainChars
      intro hzero
      rw [Format.shortest_digits_eq_zero_iff.mp hzero, Format.shortest, if_pos rfl]
    · exact Decimal.exists_spells_scientificChars _ _ _
  obtain ⟨n, hminus, hn⟩ := hspells
  refine ⟨n, hn.proper, ?_, hminus, hn.toRat, hn.not_integer⟩
  rw [Numeral.chars, hn.chars, hminus, finiteChars]

variable (style : NumberStyle) {F : Format} {x : Binary F}

/-- Finite numbers are written with digits. -/
theorem write_of_isFinite (hx : x.isFinite) : style.write x = String.ofList (style.finiteChars x) := by
  rw [write, Binary.isNaN_eq_false_of_isFinite hx, if_neg Bool.false_ne_true, if_pos hx]

/-- NaN is written as its word, whatever its bits are. -/
theorem write_of_isNaN (hx : x.isNaN) : style.write x = style.nanWord := if_pos hx

end NumberStyle

end ScopedSelect
