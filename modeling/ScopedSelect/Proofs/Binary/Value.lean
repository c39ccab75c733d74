import Mathlib.Algebra.Order.Field.Rat
import Mathlib.Data.Rat.Cast.Order
import Mathlib.Tactic.Linarith
import ScopedSelect.Proofs.Binary.Order

/-!
# Numbers as exact values

Every finite number has an exact rational value, and the numbers of a format round the rationals: a
rational goes to the finite number nearest to it, of two equally near ones to the even one. The
rationals that go to a magnitude form an interval with ends halfway to its neighbours, and a rational
in the interval has no other nearest number of its sign. Rationals from the middle between the
greatest finite number and the next power of two on are out of range.
-/

namespace ScopedSelect

/-- The rational with the given sign put before it. -/
def signed (negative : Bool) (v : ℚ) : ℚ := if negative then -v else v

/-- A sign put before a rational twice cancels. -/
theorem signed_signed (negative : Bool) (v : ℚ) : signed negative (signed negative v) = v := by
  cases negative with
  | false => rfl
  | true => exact neg_neg v

/-- Distances do not change when both sides get the same sign. -/
theorem abs_signed_sub (negative : Bool) (v w : ℚ) :
    |signed negative v - signed negative w| = |v - w| := by
  cases negative with
  | false => rfl
  | true =>
    change |-v - -w| = |v - w|
    rw [neg_sub_neg, abs_sub_comm]

/-- Between opposite signs the distance is the sum. -/
theorem abs_signed_not_sub (negative : Bool) {v w : ℚ} (hv : 0 ≤ v) (hw : 0 ≤ w) :
    |signed (!negative) v - signed negative w| = v + w := by
  cases negative with
  | false =>
    change |-v - w| = v + w
    rw [← neg_add', abs_neg, abs_of_nonneg (add_nonneg hv hw)]
  | true =>
    change |v - -w| = v + w
    rw [sub_neg_eq_add, abs_of_nonneg (add_nonneg hv hw)]

/-- What lies between two points is nearer to the point halfway than they are. -/
theorem abs_sub_lt_of_between {a b c v : ℚ} (hac : a < c) (hcb : c < b) (h : |b - v| = |a - v|) :
    |c - v| < |a - v| := by
  rcases abs_eq_abs.mp h with hsame | hhalfway
  · linarith
  · have hbelow : |a - v| = v - a := by rw [abs_sub_comm, abs_of_nonneg (by linarith)]
    rw [hbelow]
    exact abs_lt.mpr ⟨by linarith, by linarith⟩

namespace Format

variable (F : Format)

/-- The exact value of a magnitude. -/
def size (magnitude : Nat) : ℚ := F.units magnitude / (2 ^ F.scale : Nat)

/-- Magnitude zero has size zero. -/
theorem size_zero : F.size 0 = 0 := by
  rw [size, units_zero, Nat.cast_zero, zero_div]

/-- Sizes are ordered as the magnitudes are, so comparing words compares numbers. -/
theorem size_strictMono : StrictMono F.size := by
  intro m k h
  have hscale : (0 : ℚ) < (2 ^ F.scale : Nat) := Nat.cast_pos.mpr (Nat.two_pow_pos _)
  exact div_lt_div_of_pos_right (Nat.cast_lt.mpr (F.units_strictMono h)) hscale

/-- Sizes are not negative; signs are kept apart. -/
theorem size_nonneg (magnitude : Nat) : 0 ≤ F.size magnitude := by
  rw [← F.size_zero]
  exact F.size_strictMono.monotone (Nat.zero_le _)

/-- The exact value of the step from a magnitude to the next one. -/
def gap (magnitude : Nat) : ℚ := F.step magnitude / (2 ^ F.scale : Nat)

/-- The next magnitude is one step greater. -/
theorem size_succ (magnitude : Nat) : F.size (magnitude + 1) = F.size magnitude + F.gap magnitude := by
  rw [size, size, gap, units_succ, Nat.cast_add, add_div]

/-- Comparisons between naturals hold of the exact values. -/
theorem div_scale_le_div_scale {m n : Nat} (h : m ≤ n) :
    (m : ℚ) / (2 ^ F.scale : Nat) ≤ n / (2 ^ F.scale : Nat) :=
  div_le_div_of_nonneg_right (Nat.cast_le.mpr h) (Nat.cast_nonneg _)

/-- Neighbouring magnitudes have different sizes. -/
theorem gap_pos (magnitude : Nat) : 0 < F.gap magnitude :=
  div_pos (Nat.cast_pos.mpr (F.step_pos magnitude)) (Nat.cast_pos.mpr (Nat.two_pow_pos _))

/-- A positive number is no less than the step to the next one. -/
theorem gap_le_size {magnitude : Nat} (h : 0 < magnitude) : F.gap magnitude ≤ F.size magnitude :=
  F.div_scale_le_div_scale (F.step_le_units h)

/-- A number has fewer steps than the significand has values. -/
theorem size_lt (magnitude : Nat) :
    F.size magnitude < 2 * 2 ^ F.fractionBits * F.gap magnitude := by
  have hlt : (F.units magnitude : ℚ) < 2 * 2 ^ F.fractionBits * F.step magnitude := by
    exact_mod_cast F.units_lt magnitude
  rw [size, gap, mul_div_assoc']
  exact div_lt_div_of_pos_right hlt (Nat.cast_pos.mpr (Nat.two_pow_pos _))

/-- From the first normal number on a number has at least as many steps as the fraction has values. -/
theorem le_size {magnitude : Nat} (h : 2 ^ F.fractionBits ≤ magnitude) :
    2 ^ F.fractionBits * F.gap magnitude ≤ F.size magnitude := by
  have hle : (2 ^ F.fractionBits * F.step magnitude : ℚ) ≤ F.units magnitude := by
    exact_mod_cast F.le_units h
  rw [size, gap, mul_div_assoc']
  exact div_le_div_of_nonneg_right hle (Nat.cast_nonneg _)

/-- The step before a magnitude is between half and all of the step behind it. -/
theorem gap_pred (magnitude : Nat) :
    F.gap (magnitude - 1) ≤ F.gap magnitude ∧ F.gap magnitude ≤ 2 * F.gap (magnitude - 1) := by
  constructor
  · exact F.div_scale_le_div_scale (F.step_mono (Nat.sub_le _ _))
  · rw [gap, gap, mul_div_assoc']
    exact_mod_cast F.div_scale_le_div_scale (F.step_le_two_mul magnitude)

/-- The middle between the greatest finite number and the first power of two out of range. -/
def limit : ℚ := (F.size (F.infinity - 1) + F.size F.infinity) / 2

/-- The rational is in the interval of those that round to the magnitude. -/
structure Rounds (v : ℚ) (magnitude : Nat) : Prop where
  lower : 0 < magnitude → F.size (magnitude - 1) + F.size magnitude ≤ 2 * v
  upper : 2 * v ≤ F.size magnitude + F.size (magnitude + 1)
  even_of_lower :
    0 < magnitude → F.size (magnitude - 1) + F.size magnitude = 2 * v → magnitude % 2 = 0
  even_of_upper : 2 * v = F.size magnitude + F.size (magnitude + 1) → magnitude % 2 = 0

variable {F} {v : ℚ} {m : Nat}

/-- No magnitude is nearer to a rational than the one it rounds to, and if another one is as near
then this one is even. -/
theorem Rounds.nearest (h : F.Rounds v m) (k : Nat) :
    |F.size m - v| ≤ |F.size k - v| ∧ (k ≠ m → |F.size k - v| = |F.size m - v| → m % 2 = 0) := by
  rcases lt_trichotomy k m with hlt | rfl | hgt
  · have hpos : 0 < m := Nat.zero_lt_of_lt hlt
    have hbelow : F.size k ≤ F.size (m - 1) := F.size_strictMono.monotone (by omega)
    have hstep : F.size (m - 1) < F.size m := F.size_strictMono (by omega)
    have hlower := h.lower hpos
    have hk : |F.size k - v| = v - F.size k := by rw [abs_sub_comm, abs_of_nonneg (by linarith)]
    rw [hk]
    refine ⟨abs_le.mpr ⟨by linarith, by linarith⟩, fun _ htie => h.even_of_lower hpos ?_⟩
    rcases abs_cases (F.size m - v) with ⟨hm, -⟩ | ⟨hm, -⟩ <;> linarith
  · exact ⟨le_rfl, fun hne => absurd rfl hne⟩
  · have habove : F.size (m + 1) ≤ F.size k := F.size_strictMono.monotone (by omega)
    have hstep : F.size m < F.size (m + 1) := F.size_strictMono (by omega)
    have hupper := h.upper
    have hk : |F.size k - v| = F.size k - v := abs_of_nonneg (by linarith)
    rw [hk]
    refine ⟨abs_le.mpr ⟨by linarith, by linarith⟩, fun _ htie => h.even_of_upper ?_⟩
    rcases abs_cases (F.size m - v) with ⟨hm, -⟩ | ⟨hm, -⟩ <;> linarith

/-- A rational rounds to one magnitude only. -/
theorem Rounds.unique {k : Nat} (hm : F.Rounds v m) (hk : F.Rounds v k) : m = k := by
  have hnot {m k : Nat} (hm : F.Rounds v m) (hk : F.Rounds v k) : ¬ m < k := by
    intro hlt
    have hpos : 0 < k := Nat.zero_lt_of_lt hlt
    have hbelow : F.size m ≤ F.size (k - 1) := F.size_strictMono.monotone (by omega)
    have habove : F.size (m + 1) ≤ F.size k := F.size_strictMono.monotone hlt
    have hupper := hm.upper
    have hlower := hk.lower hpos
    -- The intervals meet in a point only if the magnitudes are neighbours, and then both are even.
    have hmiddle : F.size (m + 1) = F.size k := by linarith
    have hneighbour : m + 1 = k := F.size_strictMono.injective hmiddle
    have hevenm := hm.even_of_upper (by linarith)
    have hevenk := hk.even_of_lower hpos (by linarith)
    omega
  exact Nat.le_antisymm (Nat.not_lt.mp (hnot hk hm)) (Nat.not_lt.mp (hnot hm hk))

/-- What lies strictly between the middles on either side of a magnitude rounds to it. -/
theorem rounds_of_between (hlower : F.size (m - 1) + F.size m < 2 * v)
    (hupper : 2 * v < F.size m + F.size (m + 1)) : F.Rounds v m where
  lower _ := hlower.le
  upper := hupper.le
  even_of_lower _ heq := absurd heq hlower.ne
  even_of_upper heq := absurd heq hupper.ne

/-- What lies between two rationals that round to a magnitude rounds to it. -/
theorem Rounds.between {u w : ℚ} (hu : F.Rounds u m) (hw : F.Rounds w m) (huv : u ≤ v) (hvw : v ≤ w) :
    F.Rounds v m where
  lower hm := by linarith [hu.lower hm]
  upper := by linarith [hw.upper]
  even_of_lower hm heq := hu.even_of_lower hm (by linarith [hu.lower hm])
  even_of_upper heq := hw.even_of_upper (by linarith [hw.upper])

/-- Greater rationals round to greater magnitudes. -/
theorem Rounds.mono {w : ℚ} {k : Nat} (hm : F.Rounds v m) (hk : F.Rounds w k) (hvw : v ≤ w) : m ≤ k := by
  by_contra hlt
  have hlower := hm.lower (by omega)
  have hupper := hk.upper
  have hbelow : F.size k ≤ F.size (m - 1) := F.size_strictMono.monotone (by omega)
  have habove : F.size (k + 1) ≤ F.size m := F.size_strictMono.monotone (by omega)
  -- Both are in the middle between the two magnitudes, so they are equal.
  obtain rfl : v = w := by linarith
  exact hlt (hm.unique hk).le

/-- What rounds to one positive magnitude is no further apart than the step behind it. -/
theorem Rounds.sub_le {w : ℚ} (hv : F.Rounds v m) (hw : F.Rounds w m) (hm : 0 < m) :
    v - w ≤ F.gap m := by
  have hlower := hw.lower hm
  have hupper := hv.upper
  have hpred := F.size_succ (m - 1)
  have hgap := (F.gap_pred m).1
  rw [Nat.sub_add_cancel hm] at hpred
  rw [size_succ] at hupper
  linarith

/-- What rounds to a finite magnitude is in range. -/
theorem Rounds.lt_limit (h : F.Rounds v m) (hm : m < F.infinity) (heven : F.infinity % 2 = 0) :
    v < F.limit := by
  have hupper := h.upper
  have hle : F.size m ≤ F.size (F.infinity - 1) := F.size_strictMono.monotone (by omega)
  unfold limit
  by_cases hlast : m + 1 = F.infinity
  · have hodd : m % 2 ≠ 0 := by omega
    have hne : 2 * v ≠ F.size m + F.size (m + 1) := fun heq => hodd (h.even_of_upper heq)
    have hlt := lt_of_le_of_ne hupper hne
    rw [hlast] at hlt
    linarith
  · have hlt : F.size (m + 1) < F.size F.infinity := F.size_strictMono (by omega)
    linarith

/-- What is in range rounds to a finite magnitude. -/
theorem Rounds.lt_infinity (h : F.Rounds v m) (hv : v < F.limit) (hpos : 0 < F.infinity) :
    m < F.infinity := by
  by_contra hm
  have hlower := h.lower (by omega)
  have hbelow : F.size (F.infinity - 1) ≤ F.size (m - 1) := F.size_strictMono.monotone (by omega)
  have habove : F.size F.infinity ≤ F.size m := F.size_strictMono.monotone (by omega)
  unfold limit at hv
  linarith

end Format

namespace Binary

variable {F : Format}

/-- The exact value of a finite number. -/
def toRat (x : Binary F) : ℚ := signed x.negative (F.size x.magnitude.val)

/-- The finite number is nearest to the rational, and even if another one is as near. -/
structure IsNearest (x : Binary F) (v : ℚ) : Prop where
  finite : x.isFinite
  le : ∀ y : Binary F, y.isFinite → |x.toRat - v| ≤ |y.toRat - v|
  even : ∀ y : Binary F, y.isFinite → y.toRat ≠ x.toRat → |y.toRat - v| = |x.toRat - v| →
    x.magnitude.val % 2 = 0

/-- A number is nearest to what rounds to its magnitude, with its own sign. -/
theorem isNearest_of_rounds {x : Binary F} (hx : x.isFinite) {v : ℚ} (hv : 0 ≤ v)
    (h : F.Rounds v x.magnitude.val) : x.IsNearest (signed x.negative v) := by
  have hself : |x.toRat - signed x.negative v| = |F.size x.magnitude.val - v| :=
    abs_signed_sub _ _ _
  have hzero : |F.size 0 - v| = v := by rw [F.size_zero, zero_sub, abs_neg, abs_of_nonneg hv]
  have hother (y : Binary F) :
      |x.toRat - signed x.negative v| ≤ |y.toRat - signed x.negative v| ∧
        (y.toRat ≠ x.toRat → |y.toRat - signed x.negative v| = |x.toRat - signed x.negative v| →
          x.magnitude.val % 2 = 0) := by
    rw [hself, toRat]
    by_cases hsign : y.negative = x.negative
    · obtain ⟨hle, heven⟩ := h.nearest y.magnitude.val
      rw [hsign, abs_signed_sub]
      refine ⟨hle, fun hne htie => heven (fun hk => hne ?_) htie⟩
      rw [toRat, hk]
    · -- A number of the other sign is no nearer than zero.
      obtain ⟨hle, heven⟩ := h.nearest 0
      have hflip : y.negative = !x.negative := by
        cases hy : y.negative <;> cases hx : x.negative <;> simp_all
      have hsize := F.size_nonneg y.magnitude.val
      rw [hflip, abs_signed_not_sub _ hsize hv]
      rw [hzero] at hle heven
      refine ⟨by linarith, fun _ htie => ?_⟩
      by_cases hm : 0 = x.magnitude.val
      · rw [← hm]
      · exact heven hm (by linarith)
  exact ⟨hx, fun y _ => (hother y).1, fun y _ => (hother y).2⟩

/-- Of two nearest numbers of one sign neither has the smaller magnitude. -/
theorem IsNearest.not_magnitude_lt {x y : Binary F} {v : ℚ} (hx : x.IsNearest v)
    (hy : y.IsNearest v) (hsign : x.negative = y.negative) :
    ¬ x.magnitude.val < y.magnitude.val := by
  intro hlt
  have hdist (z : Binary F) (hz : z.negative = x.negative) :
      |z.toRat - v| = |F.size z.magnitude.val - signed x.negative v| := by
    rw [← abs_signed_sub x.negative, toRat, hz, signed_signed]
  have htie : |y.toRat - v| = |x.toRat - v| :=
    le_antisymm (hy.le x hx.finite) (hx.le y hy.finite)
  have hsize := F.size_strictMono hlt
  have hne : y.toRat ≠ x.toRat := by
    intro heq
    have hsigned := congrArg (signed x.negative) heq
    rw [toRat, toRat, ← hsign, signed_signed, signed_signed] at hsigned
    exact ne_of_gt hsize hsigned
  have hevenx := hx.even y hy.finite hne htie
  have heveny := hy.even x hx.finite hne.symm htie.symm
  -- Both magnitudes are even, so there is one between them, and it is nearer than both.
  have hbetween : x.magnitude.val + 1 < y.magnitude.val := by omega
  have hfinite : x.magnitude.val + 1 < F.infinity :=
    lt_trans hbetween (of_decide_eq_true hy.finite)
  let z : Binary F := .finite x.negative (x.magnitude.val + 1) hfinite
  have hnearer := hx.le z (decide_eq_true hfinite)
  have hleft : F.size x.magnitude.val < F.size z.magnitude.val := F.size_strictMono (Nat.lt_succ_self _)
  have hright : F.size z.magnitude.val < F.size y.magnitude.val := F.size_strictMono hbetween
  rw [hdist x rfl, hdist z rfl] at hnearer
  rw [hdist y hsign.symm, hdist x rfl] at htie
  exact absurd (abs_sub_lt_of_between hleft hright htie) (not_lt.mpr hnearer)

/-- There is only one nearest number of each sign. -/
theorem IsNearest.unique {x y : Binary F} {v : ℚ} (hx : x.IsNearest v) (hy : y.IsNearest v)
    (hsign : x.negative = y.negative) : x = y := by
  have hmagnitude : x.magnitude = y.magnitude :=
    Fin.ext (Nat.le_antisymm (Nat.not_lt.mp (hy.not_magnitude_lt hx hsign.symm))
      (Nat.not_lt.mp (hx.not_magnitude_lt hy hsign)))
  obtain ⟨negative, magnitude⟩ := x
  obtain rfl : negative = y.negative := hsign
  obtain rfl : magnitude = y.magnitude := hmagnitude
  rfl

end Binary

end ScopedSelect
