import ScopedSelect.Proofs.Binary.Text
import ScopedSelect.Proofs.Value.Literal
import ScopedSelect.Value.Host

/-!
# 32-bit numbers keep their text

The shortest decimal of a 32-bit number has at most nine digits, and a 64-bit number has room for
fifteen. So the decimal is the shortest one of the 64-bit number that is nearest to it as well, and the
two numbers are written alike, in the point form or not. Hence no two 32-bit numbers become the same
64-bit number. The least positive 32-bit numbers are no exception, for their decimals are far above
the least normal 64-bit number. What is not finite is read from its word. So there is always a text to
read, and no number is widened exactly.
-/

namespace ScopedSelect

namespace Format

/-- The first number of an exponent is a power of two. -/
theorem size_two_pow (F : Format) (excess : Nat) :
    F.size (excess * 2 ^ F.fractionBits + 2 ^ F.fractionBits) =
      (2 : ℚ) ^ ((F.fractionBits + excess : Nat) - F.scale : Int) := by
  have hpos : 0 < 2 ^ F.fractionBits := Nat.two_pow_pos _
  rw [size, (F.units_and_step (by omega) (.inr (Nat.le_refl _))).1, ← Nat.pow_add,
    zpow_sub₀ (by norm_num), zpow_natCast, zpow_natCast, Nat.cast_pow, Nat.cast_pow, Nat.cast_ofNat]

/-- The numbers of one format are normal numbers of another one, and the shortest decimals of the former
have fewer digits than the significand of the latter has room for. -/
structure IsNarrower (F G : Format) : Prop where
  fraction : 0 < F.fractionBits
  digits : F.fractionBits + 5 ≤ G.fractionBits
  least : 2 * G.size (2 ^ G.fractionBits) ≤ F.size 1
  limit : F.limit ≤ G.limit

/-- 32-bit numbers are narrower than 64-bit numbers in each of these respects. -/
theorem binary32_isNarrower : binary32.IsNarrower binary64 where
  fraction := by decide
  digits := by decide
  least := by
    have hnormal := binary64.size_two_pow 0
    have hleast : binary32.size 1 = (2 : ℚ) ^ (-149 : Int) := by
      rw [size, units_one, Nat.cast_one, one_div, Nat.cast_pow, Nat.cast_ofNat, zpow_neg]
      rfl
    rw [Nat.zero_mul, Nat.zero_add] at hnormal
    rw [hnormal, hleast, ← zpow_one_add₀ (by norm_num)]
    exact zpow_le_zpow_right₀ (by norm_num) (by decide)
  limit := by
    have hinfinity : binary32.infinity = 254 * 2 ^ binary32.fractionBits + 2 ^ binary32.fractionBits := by
      decide
    have hsame : binary32.size binary32.infinity =
        binary64.size (1150 * 2 ^ binary64.fractionBits + 2 ^ binary64.fractionBits) := by
      rw [hinfinity, size_two_pow, size_two_pow]
      exact congrArg ((2 : ℚ) ^ ·) (by decide)
    have hbelow := binary32.size_strictMono.monotone (Nat.sub_le binary32.infinity 1)
    have habove := binary64.size_strictMono.monotone
      (show 1150 * 2 ^ binary64.fractionBits + 2 ^ binary64.fractionBits ≤ binary64.infinity - 1 by decide)
    have hlast := binary64.size_strictMono.monotone (Nat.sub_le binary64.infinity 1)
    rw [limit, limit]
    linarith

variable {F G : Format} {m : Nat}

/-- The shortest decimal of a number of the narrower format is that of the nearest number of the wider
one as well. -/
theorem IsNarrower.exists_shortest_eq (h : F.IsNarrower G) (heven : F.infinity % 2 = 0)
    (hpos : 0 < G.infinity) (tie : Tie) (hm : m < F.infinity) :
    ∃ k < G.infinity, G.Rounds (F.shortest tie m).toRat k ∧ G.shortest tie k = F.shortest tie m := by
  have hshortest := F.shortest_rounds tie m
  have hrounds := G.nearestMagnitude_rounds_toRat (F.shortest tie m)
  have hlimit := (hshortest.lt_limit hm heven).trans_le h.limit
  refine ⟨_, hrounds.lt_infinity hlimit hpos, hrounds, ?_⟩
  rcases Nat.eq_zero_or_pos m with rfl | hm
  · have hzero : F.shortest tie 0 = ⟨0, 0⟩ := if_pos rfl
    rw [hzero] at hrounds ⊢
    rw [Decimal.toRat, Nat.cast_zero, zero_mul] at hrounds
    rw [hrounds.unique rounds_zero]
    rfl
  · refine shortest_eq_of_rounds tie ?_ ?_ (shortest_digits_mod_ten_ne_zero tie hm) hrounds
    · -- The decimal is no less than half the least positive number.
      have hlower := hshortest.lower hm
      have hbelow := F.size_nonneg (m - 1)
      have hleast : F.size 1 ≤ F.size m := F.size_strictMono.monotone hm
      have hnormal := rounds_size (F := G) (Nat.two_pow_pos G.fractionBits)
      exact hnormal.mono hrounds (by linarith [h.least])
    · exact (F.shortest_digits_lt tie h.fraction m).trans_le
        (Nat.pow_le_pow_right (by decide) h.digits)

end Format

namespace Binary

variable {F G : Format}

/-- Finite numbers of two formats are written alike if they have the same sign and shortest decimal. -/
theorem write_eq_write_of_shortest_eq (style : NumberStyle) {x : Binary F} {y : Binary G}
    (hx : x.isFinite) (hy : y.isFinite) (hsign : y.negative = x.negative)
    (hshortest : G.shortest style.tie y.magnitude.val = F.shortest style.tie x.magnitude.val) :
    style.write y = style.write x := by
  rw [style.write_of_isFinite hx, style.write_of_isFinite hy, NumberStyle.finiteChars,
    NumberStyle.finiteChars, hsign, hshortest]

/-- NaN is read from its word. -/
theorem ofText?_shown_of_isNaN (G : Format) {x : Binary F} (hx : x.isNaN) :
    ofText? G x.shown = some (nan G) := by
  rw [shown, if_pos hx]
  rfl

/-- An infinity is read from its word with its sign. -/
theorem ofText?_shown_infinity (F G : Format) (negative : Bool) :
    ofText? G (infinity F negative).shown = some (infinity G negative) := by
  rw [shown, isNaN_infinity, isFinite_infinity, if_neg Bool.false_ne_true,
    if_neg Bool.false_ne_true]
  change ofText? G (if negative then "-inf" else "inf") = _
  cases negative <;> rfl

/-- A finite number of the narrower format is read as the number of the wider one that is nearest to its
shortest decimal, and that number is written as it is. -/
theorem exists_nearest_written_alike (h : F.IsNarrower G) (hevenF : F.infinity % 2 = 0)
    (hevenG : G.infinity % 2 = 0) (hpos : 0 < G.infinity) {x : Binary F} (hx : x.isFinite) :
    ∃ y : Binary G, ofText? G x.shown = some y ∧ y.negative = x.negative ∧
      y.IsNearest (signed x.negative (F.shortest .up x.magnitude.val).toRat) ∧
      sqlNumbers.write y = sqlNumbers.write x := by
  obtain ⟨k, hk, hrounds, hshortest⟩ :=
    h.exists_shortest_eq hevenF hpos .up (of_decide_eq_true hx)
  obtain ⟨d, hd, htext⟩ := exists_ofText?_shown G hx
  have hread : G.Rounds d.toRat k := hd ▸ hrounds
  have hfinite : (finite x.negative k hk).isFinite := decide_eq_true hk
  refine ⟨finite x.negative k hk, ?_, rfl, ?_, ?_⟩
  · rw [htext, ofDecimal_of_rounds hevenG hk _ hread]
  · exact isNearest_of_rounds hfinite (Decimal.toRat_nonneg _) hrounds
  · exact write_eq_write_of_shortest_eq sqlNumbers hx hfinite rfl hshortest

/-- Whatever the text is read as, the number is not widened exactly. -/
theorem ofSingle_eq_of_ofText? {x : Single} {d : Double} (hd : ofText? .binary64 x.shown = some d) :
    ofSingle x = d := by
  rw [ofSingle, hd, Option.getD_some]

/-- The text of a finite 32-bit number is read. The result has its sign, is nearest to its shortest
decimal, and is written as the number itself is. -/
theorem ofSingle_of_isFinite {x : Single} (hx : x.isFinite) :
    ofText? .binary64 x.shown = some (ofSingle x) ∧ (ofSingle x).negative = x.negative ∧
      (ofSingle x).IsNearest
        (signed x.negative (Format.binary32.shortest .up x.magnitude.val).toRat) ∧
      sqlNumbers.write (ofSingle x) = sqlNumbers.write x := by
  obtain ⟨d, hd, hrest⟩ := exists_nearest_written_alike Format.binary32_isNarrower
    (by decide) (by decide) (by decide) hx
  obtain rfl := ofSingle_eq_of_ofText? hd
  exact ⟨hd, hrest⟩

/-- The text of NaN is read as NaN. -/
theorem ofSingle_of_isNaN {x : Single} (hx : x.isNaN) :
    ofText? .binary64 x.shown = some (ofSingle x) ∧ ofSingle x = nan .binary64 := by
  have hd := ofText?_shown_of_isNaN .binary64 hx
  have hsingle := ofSingle_eq_of_ofText? hd
  exact ⟨hsingle.symm ▸ hd, hsingle⟩

/-- The text of an infinity is read as that infinity. -/
theorem ofSingle_infinity (negative : Bool) :
    ofText? .binary64 (infinity .binary32 negative).shown =
        some (ofSingle (infinity .binary32 negative)) ∧
      ofSingle (infinity .binary32 negative) = infinity .binary64 negative := by
  have hd := ofText?_shown_infinity .binary32 .binary64 negative
  have hsingle := ofSingle_eq_of_ofText? hd
  exact ⟨hsingle.symm ▸ hd, hsingle⟩

/-- Every 32-bit number is read from its text. -/
theorem ofText?_shown_single (x : Single) : ofText? .binary64 x.shown = some (ofSingle x) := by
  rcases x.isFinite_or_isNaN_or_eq_infinity with hx | hx | hx
  · exact (ofSingle_of_isFinite hx).1
  · exact (ofSingle_of_isNaN hx).1
  · rw [hx]
    exact (ofSingle_infinity x.negative).1

/-- SQL has the same text for a 32-bit number and for what it is read as. -/
theorem write_ofSingle (x : Single) : sqlNumbers.write (ofSingle x) = sqlNumbers.write x := by
  rcases x.isFinite_or_isNaN_or_eq_infinity with hx | hx | hx
  · exact (ofSingle_of_isFinite hx).2.2.2
  · rw [(ofSingle_of_isNaN hx).2, sqlNumbers.write_of_isNaN hx]
    exact sqlNumbers.write_of_isNaN (by decide)
  · rw [hx, (ofSingle_infinity x.negative).2, write_infinity, write_infinity]

end Binary

namespace Host

open Format (binary32 binary64)

/-- A 32-bit number becomes the 64-bit number that its text denotes: the one nearest to its shortest
decimal, or NaN, or the same infinity. SQL then has the text that the host shows for the 32-bit number,
so that different 32-bit numbers are told apart, NaN from itself excepted. -/
theorem single_keeps_its_text (x : Single) :
    ∃ d : Double, (single x).toValue = .ok (.float d) ∧ Binary.ofText? binary64 x.shown = .some d ∧
      (x.isFinite →
        binary32.IsShortest (binary32.shortest .up x.magnitude.val) x.magnitude.val ∧
        d.negative = x.negative ∧
        d.IsNearest (signed x.negative (binary32.shortest .up x.magnitude.val).toRat) ∧
        (Value.float d).toSql = x.shown) ∧
      (x.isNaN → d.isNaN) ∧
      (¬ x.isFinite → ¬ x.isNaN → d = .infinity binary64 x.negative) ∧
      ∀ y e, (single y).toValue = .ok (.float e) →
        ((Value.float d).toSql = (Value.float e).toSql ↔ x = y ∨ (x.isNaN ∧ y.isNaN)) := by
  refine ⟨.ofSingle x, rfl, Binary.ofText?_shown_single x, fun hx => ?_, fun hx => ?_,
    fun hfinite hnan => ?_, ?_⟩
  · obtain ⟨-, hsign, hnearest, hwrite⟩ := Binary.ofSingle_of_isFinite hx
    refine ⟨Format.shortest_isShortest .up _, hsign, hnearest, ?_⟩
    rw [Value.toSql_eq_literal, Binary.shown_eq_write hx]
    exact hwrite
  · rw [(Binary.ofSingle_of_isNaN hx).2]
    decide
  · have hinfinity := (x.isFinite_or_isNaN_or_eq_infinity.resolve_left hfinite).resolve_left hnan
    have hsingle := (Binary.ofSingle_infinity x.negative).2
    rwa [← hinfinity] at hsingle
  · rintro y e ⟨⟩
    rw [Value.toSql_eq_literal, Value.toSql_eq_literal]
    change sqlNumbers.write _ = sqlNumbers.write _ ↔ _
    rw [Binary.write_ofSingle, Binary.write_ofSingle]
    exact Binary.write_eq_write_iff (by decide) (by decide)

/-- A tenth, the least positive number, the last numbers on either side of the two bounds of the point
form, negative zero, NaN and an infinity. -/
theorem single_keeps_its_text_at_the_bounds :
    (∀ p ∈ [(0x3dcccccd, "0.1"), (0x00000001, "1e-45"), (0x38d1b716, "9.999999e-5"),
        (0x38d1b717, "0.0001"), (0x5a0e1bc9, "9999999000000000.0"), (0x5a0e1bca, "1e16"),
        (0x80000000, "-0.0")],
      ∃ d : Double, (single (.ofBits binary32 p.1)).toValue = .ok (.float d) ∧
        (Value.float d).toSql = p.2) ∧
      (∃ d : Double, (single (.nan binary32)).toValue = .ok (.float d) ∧ d.isNaN) ∧
      (single (.infinity binary32 true)).toValue = .ok (.float (.infinity binary64 true)) := by
  have htext {word : Nat} {text : String} (hx : (Binary.ofBits binary32 word).isFinite)
      (hshown : (Binary.ofBits binary32 word).shown = text) :
      ∃ d : Double, (single (.ofBits binary32 word)).toValue = .ok (.float d) ∧
        (Value.float d).toSql = text := by
    obtain ⟨d, hd, -, hfinite, -⟩ := single_keeps_its_text (.ofBits binary32 word)
    exact ⟨d, hd, (hfinite hx).2.2.2.trans hshown⟩
  refine ⟨fun p hp => htext ?_ ?_, ?_, ?_⟩
  · revert p
    decide +kernel
  · revert p
    decide +kernel
  · obtain ⟨d, hd, -, -, hnan, -⟩ := single_keeps_its_text (.nan binary32)
    exact ⟨d, hd, hnan (by decide)⟩
  · obtain ⟨d, hd, -, -, -, hinfinite, -⟩ := single_keeps_its_text (.infinity binary32 true)
    rw [hd, hinfinite (by decide) (by decide)]
    rfl

end Host

end ScopedSelect
