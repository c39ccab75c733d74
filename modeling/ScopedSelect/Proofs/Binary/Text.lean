import ScopedSelect.Binary.Text
import ScopedSelect.Proofs.Binary.Digits
import ScopedSelect.Proofs.Json.Spelling
import ScopedSelect.Value.Literal

/-!
# Shown numbers are read

The bounds of the point form are numbers of the format, but the first digit of the shortest decimal
tells as much, so that SQL shows finite numbers just as the host does. What is shown is a numeral of
the shortest decimal, and reading it into any format gives the number of that format nearest to it.
Read into its own format it gives the number back, so different finite numbers are shown differently.
-/

namespace ScopedSelect

namespace Format

/-- The point form is used for zero, and otherwise if the first digit of the shortest decimal is from
four places behind the point to sixteen places before it. -/
theorem usesPoint_iff (F : Format) (m : Nat) :
    F.usesPoint m ↔ (F.shortest .up m).digits = 0 ∨
      (-4 ≤ (F.shortest .up m).leading ∧ (F.shortest .up m).leading ≤ 15) := by
  rcases Nat.eq_zero_or_pos m with rfl | hm
  · exact iff_of_true rfl (.inl (shortest_digits_eq_zero_iff.mpr rfl))
  · have hsmall : -4 ≤ (F.shortest .up m).leading ↔ F.nearestMagnitude 1 (10 ^ 4) ≤ m :=
      le_shortest_leading_iff .up hm (-4)
    have hlarge : 16 ≤ (F.shortest .up m).leading ↔ F.nearestMagnitude (10 ^ 16) 1 ≤ m :=
      le_shortest_leading_iff .up hm 16
    rw [shortest_digits_eq_zero_iff, hsmall, usesPoint]
    simp only [Bool.or_eq_true, Bool.and_eq_true, decide_eq_true_eq]
    omega

end Format

namespace Decimal

/-- Digits are taken up to where they end. -/
theorem takeWhile_isDigit_append {ds rest : List Char} (hds : ∀ c ∈ ds, c.isDigit)
    (hrest : EndsRun [] rest) :
    (ds ++ rest).takeWhile Char.isDigit = ds ∧ (ds ++ rest).dropWhile Char.isDigit = rest := by
  rw [List.takeWhile_append_of_pos hds, List.dropWhile_append_of_pos hds]
  cases rest with
  | nil => simp
  | cons c rest =>
    have hc : c.isDigit = false := ((endsRun_cons _ _ _).mp hrest).1
    simp [hc]

/-- The fraction of a numeral is taken from behind its point. -/
theorem behindPoint_append {fraction : Option (List Char)} {rest : List Char}
    (hfraction : ∀ ds ∈ fraction, IsDigits ds) (hrest : EndsRun ['.'] rest) :
    behindPoint (Numeral.fractionChars fraction ++ rest) = (fraction.getD [], rest) := by
  cases fraction with
  | none =>
    change behindPoint rest = ([], rest)
    rw [behindPoint.eq_def]
    split
    · next cs heq => exact absurd List.mem_cons_self ((endsRun_cons _ _ _).mp hrest).2
    · rfl
  | some ds =>
    obtain ⟨htake, hdrop⟩ :=
      takeWhile_isDigit_append (hfraction ds rfl).isDigit (hrest.mono (List.nil_subset _))
    change ((ds ++ rest).takeWhile Char.isDigit, (ds ++ rest).dropWhile Char.isDigit) = _
    rw [htake, hdrop]
    rfl

/-- A numeral is read as the decimal that it denotes. -/
theorem ofChars?_numeral {n : Numeral} (plus : Bool) (hn : n.IsProper) :
    ofChars? (n.whole ++
      (Numeral.fractionChars n.fraction ++ Numeral.exponentChars plus n.exponent)) =
        some n.decimal := by
  have hexponent : Token.exponentDigits (Numeral.exponentChars plus n.exponent) =
      some (n.exponent, []) := by
    have hread : Token.exponentDigits (Numeral.exponentChars plus n.exponent ++ []) =
        some (n.exponent, []) := Token.exponentDigits_append hn.exponent (endsRun_nil _)
    rwa [List.append_nil] at hread
  have hmark : EndsRun ['.'] (Numeral.exponentChars plus n.exponent) := by
    have happend := (Numeral.exponentText_exponentChars plus n.exponent).endsRun_append
      (endsRun_nil ['.'])
    rwa [List.append_nil] at happend
  have hpoint : EndsRun []
      (Numeral.fractionChars n.fraction ++ Numeral.exponentChars plus n.exponent) :=
    Numeral.endsRun_fractionChars_append hmark
  have hwhole : n.whole.isEmpty = false := by
    simpa using hn.whole.ne_nil
  obtain ⟨htake, hdrop⟩ := takeWhile_isDigit_append hn.whole.isDigit hpoint
  simp only [ofChars?, htake, hdrop, behindPoint_append hn.fraction hmark, hwhole, hexponent,
    Bool.false_and, Bool.false_eq_true, if_false]
  rfl

end Decimal

namespace Binary

variable {F G : Format}

/-- The number nearest to a decimal depends on its value only, and has the magnitude that the value
rounds to. -/
theorem ofDecimal_of_rounds {d : Decimal} {m : Nat} (heven : G.infinity % 2 = 0) (hm : m < G.infinity)
    (negative : Bool) (h : G.Rounds d.toRat m) : ofDecimal G negative d = finite negative m hm := by
  rw [ofDecimal, nearest?_of_rounds heven (Nat.zero_lt_of_lt hm) negative h, dif_pos hm]
  rfl

/-- The text of a numeral is read as the number nearest to what the numeral denotes. -/
theorem ofText?_numeral {n : Numeral} (plus : Bool) (hn : n.IsProper) :
    ofText? G (String.ofList (n.chars plus)) = some (ofDecimal G n.minus n.decimal) := by
  have hunsigned : ofUnsigned? G n.minus (n.whole ++
      (Numeral.fractionChars n.fraction ++ Numeral.exponentChars plus n.exponent)) =
        some (ofDecimal G n.minus n.decimal) := by
    rw [ofUnsigned?, Decimal.ofChars?_numeral plus hn]
  rw [ofText?.eq_def, String.toList_ofList, Numeral.chars]
  cases hminus : n.minus with
  | true =>
    rw [hminus] at hunsigned
    exact hunsigned
  | false =>
    rw [hminus] at hunsigned
    rw [if_neg Bool.false_ne_true, List.nil_append]
    split
    · next heq => exact absurd heq (hn.whole.append_ne_cons (by decide))
    · next heq => exact absurd heq (hn.whole.append_ne_cons (by decide))
    · exact hunsigned

/-- SQL shows finite numbers as the host does. -/
theorem shown_eq_write {x : Binary F} (hx : x.isFinite) : x.shown = sqlNumbers.write x := by
  rw [shown, isNaN_eq_false_of_isFinite hx, if_neg Bool.false_ne_true, if_pos hx,
    sqlNumbers.write_of_isFinite hx, NumberStyle.finiteChars, NumberStyle.decimalChars]
  exact congrArg (fun cs => String.ofList ((if x.negative then ['-'] else []) ++ cs))
    (if_congr (F.usesPoint_iff x.magnitude.val) rfl rfl)

/-- A finite number of one format is read into another as the number nearest to its shortest decimal. -/
theorem exists_ofText?_shown (G : Format) {x : Binary F} (hx : x.isFinite) :
    ∃ d : Decimal, d.toRat = (F.shortest .up x.magnitude.val).toRat ∧
      ofText? G x.shown = some (ofDecimal G x.negative d) := by
  obtain ⟨n, hproper, hchars, hminus, hvalue, -⟩ := sqlNumbers.exists_numeral_of_finiteChars x
  refine ⟨n.decimal, hvalue, ?_⟩
  rw [shown_eq_write hx, sqlNumbers.write_of_isFinite hx, ← hchars, ofText?_numeral _ hproper,
    hminus]

/-- A finite number is read back from its text. -/
theorem ofText?_shown_self (heven : F.infinity % 2 = 0) {x : Binary F} (hx : x.isFinite) :
    ofText? F x.shown = some x := by
  obtain ⟨d, hd, htext⟩ := exists_ofText?_shown F hx
  have hrounds := F.shortest_rounds .up x.magnitude.val
  rw [← hd] at hrounds
  rw [htext, ofDecimal_of_rounds heven (of_decide_eq_true hx) _ hrounds]
  rfl

/-- The number itself, with one NaN for all of them. -/
def canonical (x : Binary F) : Binary F := if x.isNaN then nan F else x

/-- Any NaN stands for the one NaN. -/
theorem canonical_of_isNaN {x : Binary F} (hx : x.isNaN) : x.canonical = nan F := if_pos hx

/-- Any other number stands for itself. -/
theorem canonical_of_not_isNaN {x : Binary F} (hx : x.isNaN = false) : x.canonical = x :=
  if_neg (by rw [hx]; exact Bool.false_ne_true)

/-- Numbers are told apart except for NaN. -/
theorem canonical_eq_canonical_iff (hnan : (nan F).isNaN) {x y : Binary F} :
    x.canonical = y.canonical ↔ x = y ∨ (x.isNaN ∧ y.isNaN) := by
  constructor
  · intro h
    have hsame (z : Binary F) : z.canonical.isNaN = z.isNaN := by
      cases hz : z.isNaN with
      | true => rw [canonical_of_isNaN hz, hnan]
      | false => rw [canonical_of_not_isNaN hz, hz]
    have hboth : x.isNaN = y.isNaN := by rw [← hsame, h, hsame]
    cases hx : x.isNaN with
    | true => exact .inr ⟨rfl, hboth ▸ hx⟩
    | false =>
      rw [canonical_of_not_isNaN hx, canonical_of_not_isNaN (hboth ▸ hx)] at h
      exact .inl h
  · rintro (rfl | ⟨hx, hy⟩)
    · rfl
    · rw [canonical_of_isNaN hx, canonical_of_isNaN hy]

/-- There are finite numbers, NaN and the infinities. -/
theorem isFinite_or_isNaN_or_eq_infinity (x : Binary F) :
    x.isFinite ∨ x.isNaN ∨ x = infinity F x.negative := by
  rcases lt_trichotomy x.magnitude.val F.infinity with hlt | heq | hgt
  · exact .inl (decide_eq_true hlt)
  · exact .inr (.inr (congrArg (Binary.mk x.negative) (Fin.ext heq)))
  · exact .inr (.inl (decide_eq_true hgt))

/-- An infinity is not NaN. -/
theorem isNaN_infinity (F : Format) (negative : Bool) : (infinity F negative).isNaN = false :=
  decide_eq_false (Nat.lt_irrefl _)

/-- An infinity is not finite. -/
theorem isFinite_infinity (F : Format) (negative : Bool) : (infinity F negative).isFinite = false :=
  decide_eq_false (Nat.lt_irrefl _)

/-- An infinity is written as the word for its sign. -/
theorem write_infinity (style : NumberStyle) (F : Format) (negative : Bool) :
    style.write (infinity F negative) =
      if negative then style.minusInfinityWord else style.infinityWord := by
  rw [NumberStyle.write, isNaN_infinity, isFinite_infinity, if_neg Bool.false_ne_true,
    if_neg Bool.false_ne_true]
  rfl

/-- What SQL has for a number is read back as the number, whether it is finite or not. -/
theorem ofText?_write (heven : F.infinity % 2 = 0) (x : Binary F) :
    ofText? F (sqlNumbers.write x) = some x.canonical := by
  rcases x.isFinite_or_isNaN_or_eq_infinity with hx | hx | hx
  · rw [canonical_of_not_isNaN (isNaN_eq_false_of_isFinite hx), ← shown_eq_write hx,
      ofText?_shown_self heven hx]
  · rw [canonical_of_isNaN hx, sqlNumbers.write_of_isNaN hx]
    rfl
  · rw [hx, canonical_of_not_isNaN (isNaN_infinity F _), write_infinity]
    cases x.negative <;> rfl

/-- SQL has the same text for two numbers just if they are the same or both NaN. -/
theorem write_eq_write_iff (heven : F.infinity % 2 = 0) (hnan : (nan F).isNaN) {x y : Binary F} :
    sqlNumbers.write x = sqlNumbers.write y ↔ x = y ∨ (x.isNaN ∧ y.isNaN) := by
  constructor
  · intro h
    have hread := congrArg (ofText? F) h
    rw [ofText?_write heven, ofText?_write heven] at hread
    exact (canonical_eq_canonical_iff hnan).mp (Option.some.inj hread)
  · rintro (rfl | ⟨hx, hy⟩)
    · rfl
    · rw [sqlNumbers.write_of_isNaN hx, sqlNumbers.write_of_isNaN hy]

end Binary

end ScopedSelect
