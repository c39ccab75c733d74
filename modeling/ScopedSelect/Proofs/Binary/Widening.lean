import ScopedSelect.Proofs.Binary.Nearest

/-!
# Widening is exact

A format with at least the fraction bits of another one, and with a least positive number that is no
greater, has a number of the same value for every finite number of the other, as long as it does not
run out of range first. Converting to the nearest number of the wider format finds it, because the
leading bits that the wider format has room for leave nothing over.
-/

namespace ScopedSelect

namespace Format

variable {F G : Format}

/-- A fraction whose leading bits leave nothing over goes to the magnitude of exactly its size. -/
theorem units_nearestMagnitude_of_dvd {num den : Nat} (hden : 0 < den)
    (hdvd : den * 2 ^ F.excessBits (num * 2 ^ F.scale / den) ∣ num * 2 ^ F.scale) :
    F.units (F.nearestMagnitude num den) * den = num * 2 ^ F.scale := by
  obtain ⟨hbelow, -⟩ := F.units_below (num * 2 ^ F.scale) den
  have hrest : num * 2 ^ F.scale % (den * 2 ^ F.excessBits (num * 2 ^ F.scale / den)) = 0 :=
    Nat.mod_eq_zero_of_dvd hdvd
  have hstep : 0 < den * 2 ^ F.excessBits (num * 2 ^ F.scale / den) :=
    Nat.mul_pos hden (Nat.two_pow_pos _)
  rw [hrest, Nat.add_zero] at hbelow
  rw [nearestMagnitude]
  simp only [hrest, Nat.mul_zero, if_pos hstep]
  exact hbelow

/-- A size of the narrower format, in multiples of the wider format's least positive number, has no
more leading bits than the wider format has room for. -/
theorem two_pow_excessBits_dvd {significand bits : Nat} (hfraction : F.fractionBits ≤ G.fractionBits)
    (hlt : significand < 2 * 2 ^ F.fractionBits) :
    2 ^ G.excessBits (significand * 2 ^ bits) ∣ significand * 2 ^ bits := by
  rcases Nat.eq_zero_or_pos significand with rfl | hpos
  · rw [Nat.zero_mul]
    exact Nat.dvd_zero _
  · have hne : significand * 2 ^ bits ≠ 0 := (Nat.mul_pos hpos (Nat.two_pow_pos bits)).ne'
    have hupper : significand * 2 ^ bits < 2 ^ (F.fractionBits + 1 + bits) := by
      rw [Nat.pow_add, Nat.pow_succ']
      exact Nat.mul_lt_mul_of_pos_right hlt (Nat.two_pow_pos bits)
    have hlog := (Nat.log2_lt hne).mpr hupper
    have hexcess : G.excessBits (significand * 2 ^ bits) ≤ bits := by
      rw [excessBits]
      omega
    exact Dvd.dvd.mul_left (Nat.pow_dvd_pow 2 hexcess) significand

/-- The magnitude nearest to a size of the narrower format has that very size. -/
theorem size_nearestMagnitude (hfraction : F.fractionBits ≤ G.fractionBits)
    (hscale : F.scale ≤ G.scale) (magnitude : Nat) :
    G.size (G.nearestMagnitude (F.units magnitude) (2 ^ F.scale)) = F.size magnitude := by
  obtain ⟨excess, significand, hlt, hle, rfl⟩ := F.exists_excess_significand magnitude
  have hunits := (F.units_and_step hlt hle).1
  have hscaled : F.units (excess * 2 ^ F.fractionBits + significand) * 2 ^ G.scale =
      2 ^ F.scale * (significand * 2 ^ (excess + (G.scale - F.scale))) := by
    have hsum : G.scale = F.scale + (G.scale - F.scale) := by omega
    rw [hunits, hsum, Nat.pow_add, Nat.pow_add, Nat.add_sub_cancel_left, Nat.mul_left_comm,
      Nat.mul_assoc]
  have hquotient : F.units (excess * 2 ^ F.fractionBits + significand) * 2 ^ G.scale / 2 ^ F.scale =
      significand * 2 ^ (excess + (G.scale - F.scale)) := by
    rw [hscaled, Nat.mul_div_cancel_left _ (Nat.two_pow_pos _)]
  have hexact := G.units_nearestMagnitude_of_dvd (Nat.two_pow_pos F.scale) (by
    rw [hquotient, hscaled]
    exact Nat.mul_dvd_mul_left _ (two_pow_excessBits_dvd hfraction hlt))
  have hF : ((2 ^ F.scale : Nat) : ℚ) ≠ 0 := Nat.cast_ne_zero.mpr (Nat.two_pow_pos _).ne'
  have hG : ((2 ^ G.scale : Nat) : ℚ) ≠ 0 := Nat.cast_ne_zero.mpr (Nat.two_pow_pos _).ne'
  rw [size, size, div_eq_div_iff hG hF]
  exact_mod_cast hexact

end Format

namespace Binary

variable {F G : Format}

/-- Numbers of one sign are told apart by their values. -/
theorem eq_of_toRat_eq {x y : Binary F} (hsign : x.negative = y.negative)
    (h : x.toRat = y.toRat) : x = y := by
  have hsigned := congrArg (signed x.negative) h
  rw [toRat, toRat, ← hsign, signed_signed, signed_signed] at hsigned
  have hmagnitude : x.magnitude = y.magnitude := Fin.ext (F.size_strictMono.injective hsigned)
  obtain ⟨negative, magnitude⟩ := x
  obtain rfl : negative = y.negative := hsign
  obtain rfl : magnitude = y.magnitude := hmagnitude
  rfl

/-- A finite number keeps its sign and its value in a wider format. -/
theorem convert_of_isFinite (hfraction : F.fractionBits ≤ G.fractionBits) (hscale : F.scale ≤ G.scale)
    (hlimit : F.limit ≤ G.limit) (hpos : 0 < G.infinity) {x : Binary F} (hx : x.isFinite) :
    (x.convert G).isFinite ∧ (x.convert G).negative = x.negative ∧ (x.convert G).toRat = x.toRat := by
  have hm : x.magnitude.val < F.infinity := of_decide_eq_true hx
  have hsize : F.size x.magnitude.val < F.limit := by
    have hle : F.size x.magnitude.val ≤ F.size (F.infinity - 1) :=
      F.size_strictMono.monotone (by omega)
    have hlast : F.size (F.infinity - 1) < F.size F.infinity := F.size_strictMono (by omega)
    rw [Format.limit]
    linarith
  have hrounds : G.Rounds (F.size x.magnitude.val)
      (G.nearestMagnitude (F.units x.magnitude.val) (2 ^ F.scale)) :=
    G.nearestMagnitude_rounds _ (Nat.two_pow_pos _)
  have hfinite := hrounds.lt_infinity (hsize.trans_le hlimit) hpos
  rw [convert, isNaN_eq_false_of_isFinite hx, if_neg Bool.false_ne_true, dif_pos ⟨hx, hfinite⟩]
  refine ⟨decide_eq_true hfinite, rfl, ?_⟩
  exact congrArg (signed x.negative) (Format.size_nearestMagnitude hfraction hscale _)

end Binary

end ScopedSelect
