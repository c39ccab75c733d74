import ScopedSelect.Proofs.Binary.Coarsest

/-!
# The digits of shortest decimals

Since no coarser grid has a decimal that rounds to the number, the shortest decimal of a number has no
zero at its end and no more digits than any other decimal that reads back, and its digits stay below a
bound that the width of the significand gives. Its first digit tells how the number compares with the
powers of ten of its own format. In the other direction, a decimal with fewer digits than the
significand has room for is the shortest decimal of the normal number nearest to it: neighbouring
decimals of its length are further apart than those that round to one number.
-/

namespace ScopedSelect

namespace Format

variable {F : Format} {m : Nat}

/-- A positive magnitude rounds to itself. -/
theorem rounds_size (hm : 0 < m) : F.Rounds (F.size m) m := by
  have hbelow : F.size (m - 1) < F.size m := F.size_strictMono (by omega)
  have habove : F.size m < F.size (m + 1) := F.size_strictMono (by omega)
  exact rounds_of_between (by linarith) (by linarith)

/-- A shortest decimal has no zero at its end. -/
theorem shortest_digits_mod_ten_ne_zero (tie : Tie) (hm : 0 < m) :
    (F.shortest tie m).digits % 10 ≠ 0 := by
  intro hten
  have hrounds := F.shortest_rounds tie m
  have hshorter := Decimal.toRat_mul_pow ((F.shortest tie m).digits / 10) 1
    (F.shortest tie m).exponent
  rw [Nat.pow_one, Nat.div_mul_cancel (Nat.dvd_of_mod_eq_zero hten)] at hshorter
  have hexponent := exponent_le_shortest_exponent tie hm (hshorter ▸ hrounds)
  change (F.shortest tie m).exponent + 1 ≤ (F.shortest tie m).exponent at hexponent
  omega

/-- The first digit of a shortest decimal is at the place of a power of ten or above it just if the
magnitude is no less than the one nearest to that power. -/
theorem le_shortest_leading_iff (tie : Tie) (hm : 0 < m) (k : Int) :
    k ≤ (F.shortest tie m).leading ↔
      F.nearestMagnitude (⟨1, k⟩ : Decimal).num (⟨1, k⟩ : Decimal).den ≤ m := by
  have hpower := F.nearestMagnitude_rounds_toRat ⟨1, k⟩
  have hshortest := F.shortest_rounds tie m
  have hdigits : (F.shortest tie m).digits ≠ 0 := mt shortest_digits_eq_zero_iff.mp hm.ne'
  constructor
  · intro hk
    refine hpower.mono hshortest ?_
    rw [Decimal.toRat_one]
    exact (zpow_le_zpow_right₀ (by norm_num) hk).trans (Decimal.zpow_leading_le_toRat hdigits)
  · intro hle
    by_contra hk
    have hlt : (F.shortest tie m).toRat ≤ (⟨1, k⟩ : Decimal).toRat := by
      rw [Decimal.toRat_one]
      exact (Decimal.toRat_lt_zpow_leading _).le.trans
        (zpow_le_zpow_right₀ (by norm_num) (by omega))
    -- Both round to the same magnitude, and the power of ten is on the grid at its own place.
    have hsame := Nat.le_antisymm hle (hshortest.mono hpower hlt)
    rw [hsame] at hpower
    have hgrid := exponent_le_shortest_exponent tie hm hpower
    have hlength := (F.shortest tie m).length_digitChars_pos
    change k ≤ (F.shortest tie m).exponent at hgrid
    rw [Decimal.leading] at hk
    omega

/-- No decimal that rounds to a magnitude has fewer digits than the shortest one. -/
theorem length_shortest_le (tie : Tie) {d : Decimal} (h : F.Rounds d.toRat m) :
    (F.shortest tie m).digitChars.length ≤ d.digitChars.length := by
  have hlength := d.length_digitChars_pos
  rcases Nat.eq_zero_or_pos m with rfl | hm
  · rw [shortest, if_pos rfl]
    exact hlength
  · have hshortest := F.shortest_rounds tie m
    have hdigits : (F.shortest tie m).digits ≠ 0 := mt shortest_digits_eq_zero_iff.mp hm.ne'
    have hgrid := exponent_le_shortest_exponent tie hm h
    rcases Int.lt_or_le d.leading (F.shortest tie m).leading with hlt | hle
    · -- There is a power of ten between the two decimals, so the shortest one has a single digit.
      have hpower : F.Rounds (⟨1, (F.shortest tie m).leading⟩ : Decimal).toRat m := by
        refine h.between hshortest ?_ ?_ <;> rw [Decimal.toRat_one]
        · exact d.toRat_lt_zpow_leading.le.trans (zpow_le_zpow_right₀ (by norm_num) (by omega))
        · exact Decimal.zpow_leading_le_toRat hdigits
      have hone := exponent_le_shortest_exponent tie hm hpower
      change (F.shortest tie m).leading ≤ (F.shortest tie m).exponent at hone
      rw [Decimal.leading] at hone
      omega
    · rw [Decimal.leading, Decimal.leading] at hle
      omega

/-- The decimal rounds to the magnitude, and none that does has fewer digits. -/
structure IsShortest (F : Format) (d : Decimal) (magnitude : Nat) : Prop where
  rounds : F.Rounds d.toRat magnitude
  length_le : ∀ e : Decimal, F.Rounds e.toRat magnitude → d.digitChars.length ≤ e.digitChars.length

/-- The search finds a shortest decimal: it reads back, and no decimal with fewer digits does. -/
theorem shortest_isShortest (tie : Tie) (m : Nat) : F.IsShortest (F.shortest tie m) m where
  rounds := F.shortest_rounds tie m
  length_le _ h := length_shortest_le tie h

/-- The interval of what rounds to a magnitude is no wider than a grid without a point in it. -/
theorem three_mul_gap_le (hm : 0 < m) {d : Decimal} (hd : F.Rounds d.toRat m)
    (hgrid : ∀ c, ¬ F.Rounds (⟨c, d.exponent + 1⟩ : Decimal).toRat m) :
    3 * F.gap m ≤ 4 * (10 : ℚ) ^ (d.exponent + 1) := by
  obtain ⟨digits, exponent⟩ := d
  change ∀ c, ¬ F.Rounds (⟨c, exponent + 1⟩ : Decimal).toRat m at hgrid
  change 3 * F.gap m ≤ 4 * (10 : ℚ) ^ (exponent + 1)
  have hself := rounds_size (F := F) hm
  have hbelow : F.size (m - 1) < F.size m := F.size_strictMono (by omega)
  have habove : F.size m < F.size (m + 1) := F.size_strictMono (by omega)
  have hten (c : Nat) : (⟨c * 10, exponent⟩ : Decimal).toRat = (⟨c, exponent + 1⟩ : Decimal).toRat :=
    Decimal.toRat_mul_pow c 1 exponent
  -- The points of the grid around the decimal are outside, one on each side.
  have hleft : 2 * (⟨digits / 10, exponent + 1⟩ : Decimal).toRat ≤ F.size (m - 1) + F.size m := by
    have hle : (⟨digits / 10, exponent + 1⟩ : Decimal).toRat ≤ (⟨digits, exponent⟩ : Decimal).toRat := by
      rw [← hten, Decimal.toRat_le_toRat_iff]
      omega
    by_contra hlt
    refine hgrid (digits / 10) ?_
    rcases le_total (F.size m) (⟨digits / 10, exponent + 1⟩ : Decimal).toRat with hge | hge
    · exact hself.between hd hge hle
    · exact rounds_of_between (not_le.mp hlt) (by linarith)
  have hright : F.size m + F.size (m + 1) ≤ 2 * (⟨digits / 10 + 1, exponent + 1⟩ : Decimal).toRat := by
    have hle : (⟨digits, exponent⟩ : Decimal).toRat ≤
        (⟨digits / 10 + 1, exponent + 1⟩ : Decimal).toRat := by
      rw [← hten, Decimal.toRat_le_toRat_iff]
      omega
    by_contra hlt
    refine hgrid (digits / 10 + 1) ?_
    rcases le_total (⟨digits / 10 + 1, exponent + 1⟩ : Decimal).toRat (F.size m) with hge | hge
    · exact hd.between hself hle hge
    · exact rounds_of_between (by linarith) (not_le.mp hlt)
  have hnext : (⟨digits / 10 + 1, exponent + 1⟩ : Decimal).toRat =
      (⟨digits / 10, exponent + 1⟩ : Decimal).toRat + (10 : ℚ) ^ (exponent + 1) := by
    rw [Decimal.toRat, Decimal.toRat, Nat.cast_add, Nat.cast_one, add_one_mul]
  have hpred := F.size_succ (m - 1)
  rw [Nat.sub_add_cancel hm] at hpred
  have hgap := (F.gap_pred m).2
  rw [size_succ] at hright
  linarith

/-- The digits of a shortest decimal are bounded by the width of the significand. -/
theorem shortest_digits_lt (tie : Tie) (hF : 0 < F.fractionBits) (m : Nat) :
    (F.shortest tie m).digits < 2 ^ (F.fractionBits + 5) := by
  rcases Nat.eq_zero_or_pos m with rfl | hm
  · rw [shortest, if_pos rfl]
    exact Nat.two_pow_pos _
  · have hrounds := F.shortest_rounds tie m
    have hgap := three_mul_gap_le hm hrounds fun c hc => by
      have hle := exponent_le_shortest_exponent tie hm hc
      change (F.shortest tie m).exponent + 1 ≤ (F.shortest tie m).exponent at hle
      omega
    have hupper := hrounds.upper
    have hsize := F.size_lt m
    have hten : (10 : ℚ) * (F.shortest tie m).toRat =
        (F.shortest tie m).digits * (10 : ℚ) ^ ((F.shortest tie m).exponent + 1) := by
      rw [Decimal.toRat, zpow_add_one₀ (by norm_num)]
      ring
    rw [size_succ] at hupper
    have hfraction : (2 : ℚ) ≤ 2 ^ F.fractionBits := by
      exact_mod_cast Nat.pow_le_pow_right (by decide : 0 < 2) hF
    have hpower : (0 : ℚ) < 10 ^ ((F.shortest tie m).exponent + 1) := zpow_pos (by norm_num) _
    generalize (10 : ℚ) ^ ((F.shortest tie m).exponent + 1) = power at *
    have hbound : ((F.shortest tie m).digits : ℚ) < 32 * 2 ^ F.fractionBits := by
      have hpos := F.gap_pos m
      have hwide : 3 * F.gap m * (4 * 2 ^ F.fractionBits + 1) ≤
          4 * power * (4 * 2 ^ F.fractionBits + 1) :=
        mul_le_mul_of_nonneg_right hgap (by linarith)
      have hmore : 2 * power ≤ 2 ^ F.fractionBits * power :=
        mul_le_mul_of_nonneg_right hfraction hpower.le
      refine lt_of_mul_lt_mul_right ?_ hpower.le
      linarith
    rw [Nat.pow_add, Nat.mul_comm]
    exact_mod_cast hbound

/-- A decimal with fewer digits than the significand has room for is further from its neighbours than
what rounds to the same normal number. -/
theorem gap_lt_of_rounds {d : Decimal} (hnormal : 2 ^ F.fractionBits ≤ m)
    (hdigits : d.digits < 2 ^ F.fractionBits) (h : F.Rounds d.toRat m) :
    F.gap m < (10 : ℚ) ^ d.exponent := by
  have hm : 0 < m := Nat.lt_of_lt_of_le (Nat.two_pow_pos _) hnormal
  have hpred := F.size_succ (m - 1)
  rw [Nat.sub_add_cancel hm] at hpred
  have hlower := h.lower hm
  have hgap := (F.gap_pred m).1
  have hsize := F.le_size hnormal
  have hpos := F.gap_pos m
  have hpower : (0 : ℚ) < 10 ^ d.exponent := zpow_pos (by norm_num) _
  have hcast : (d.digits : ℚ) + 1 ≤ 2 ^ F.fractionBits := by exact_mod_cast hdigits
  rw [Decimal.toRat] at hlower
  by_contra hge
  have hfew : (d.digits + 1 : ℚ) * 10 ^ d.exponent ≤ 2 ^ F.fractionBits * 10 ^ d.exponent :=
    mul_le_mul_of_nonneg_right hcast hpower.le
  have hrest : (2 ^ F.fractionBits - 1 : ℚ) * 10 ^ d.exponent ≤ (2 ^ F.fractionBits - 1) * F.gap m :=
    mul_le_mul_of_nonneg_left (not_lt.mp hge) (by linarith [Nat.cast_nonneg (α := ℚ) d.digits])
  linarith

/-- A decimal with fewer digits than the significand has room for, and no zero at its end, is the
shortest decimal of the normal number that it rounds to. -/
theorem shortest_eq_of_rounds (tie : Tie) {d : Decimal} (hnormal : 2 ^ F.fractionBits ≤ m)
    (hdigits : d.digits < 2 ^ F.fractionBits) (hten : d.digits % 10 ≠ 0) (h : F.Rounds d.toRat m) :
    F.shortest tie m = d := by
  have hm : 0 < m := Nat.lt_of_lt_of_le (Nat.two_pow_pos _) hnormal
  have hgap := gap_lt_of_rounds hnormal hdigits h
  have hrounds := F.shortest_rounds tie m
  have habove := hrounds.sub_le h hm
  have hbelow := h.sub_le hrounds hm
  have hgrid := exponent_le_shortest_exponent tie hm h
  obtain ⟨zeros, hzeros⟩ := Int.eq_ofNat_of_zero_le (Int.sub_nonneg_of_le hgrid)
  cases hshortest : F.shortest tie m with
  | mk digits exponent =>
    obtain ⟨digits', exponent'⟩ := d
    rw [hshortest] at habove hbelow hzeros
    obtain rfl : exponent = exponent' + zeros := by
      change exponent - exponent' = zeros at hzeros
      omega
    rw [← Decimal.toRat_mul_pow] at habove hbelow
    change F.gap m < 10 ^ exponent' at hgap
    -- On the common grid the two are less than one step apart.
    have hnot {a b : Nat} (hab : a < b) :
        ¬ (⟨b, exponent'⟩ : Decimal).toRat - (⟨a, exponent'⟩ : Decimal).toRat ≤ F.gap m := by
      have hstep : (⟨a + 1, exponent'⟩ : Decimal).toRat ≤ (⟨b, exponent'⟩ : Decimal).toRat :=
        Decimal.toRat_le_toRat_iff.mpr hab
      rw [Decimal.toRat, Nat.cast_add, Nat.cast_one, add_one_mul] at hstep
      rw [not_le, Decimal.toRat, Decimal.toRat]
      rw [Decimal.toRat] at hstep
      linarith
    have hsame : digits * 10 ^ zeros = digits' :=
      Nat.le_antisymm (Nat.not_lt.mp fun hlt => hnot hlt habove)
        (Nat.not_lt.mp fun hlt => hnot hlt hbelow)
    cases zeros with
    | zero => simpa using hsame
    | succ zeros =>
      refine absurd ?_ hten
      change digits' % 10 = 0
      rw [← hsame, Nat.pow_succ, ← Nat.mul_assoc, Nat.mul_mod_left]

end Format

end ScopedSelect
