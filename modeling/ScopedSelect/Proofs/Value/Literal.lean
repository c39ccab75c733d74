import ScopedSelect.Proofs.Binary.Text
import ScopedSelect.Proofs.Json.Reading
import ScopedSelect.Proofs.Value.Word

/-!
# Literals identify their values

A literal carries no tag for its kind and a text is put between its quotes as it is, and still a
literal can be read back. A quote in front tells a text from everything else, and then the last
character is the other quote whatever is in between. Digits without a point and without an exponent
are an integer. Everything else is a word, or the shortest decimal of a floating-point number, which
determines the number. So values have the same literal just if they are the same, but for NaN, which
has one literal for all its bit patterns.
-/

namespace ScopedSelect

namespace Value

/-- The values are of one kind and hold the same; floating-point numbers are compared by their words,
except that NaN is the same as any other NaN. -/
def Same : Value → Value → Prop
  | null, null => True
  | int m, int n => m = n
  | float x, float y => x = y ∨ (x.isNaN ∧ y.isNaN)
  | text s, text t => s = t
  | _, _ => False

/-- The value itself, with one NaN for all of them. -/
def canonical : Value → Value
  | float x => float x.canonical
  | v => v

/-- Values are the same if nothing but NaN tells them apart. -/
theorem same_iff {v w : Value} : v.Same w ↔ v.canonical = w.canonical := by
  have hfloat (x y : Double) : x.canonical = y.canonical ↔ x = y ∨ (x.isNaN ∧ y.isNaN) :=
    Binary.canonical_eq_canonical_iff (by decide)
  cases v <;> cases w <;> simp [Same, canonical, hfloat]

/-- The value that a literal without quotes stands for. -/
def ofWord? (s : String) : Option Value :=
  match Token.numeral s.toList with
  | some (⟨minus, whole, none, none⟩, _) =>
    let size := Numeral.digitsValue whole
    (WideInt.ofInt? (if minus then -size else size)).map int
  | _ => if s = "null" then some null else (Binary.ofText? .binary64 s).map float

/-- The value that a literal stands for. -/
def ofLiteral? (s : String) : Option Value :=
  match s.toList with
  | '\'' :: cs => some (text (String.ofList cs.dropLast))
  | _ => ofWord? s

/-- A text is what is between the quotes. -/
theorem ofLiteral?_text (s : String) : ofLiteral? (text s).literal = some (text s) := by
  have hchars : (text s).literal.toList = '\'' :: (s.toList ++ ['\'']) := by
    simp [literal, String.toList_append]
  rw [ofLiteral?, hchars]
  simp

/-- A literal of another kind does not start with a quote. -/
theorem ofLiteral?_of_isNumber {v : Value} (hv : v.isNumber) :
    ofLiteral? v.literal = ofWord? v.literal := by
  have hname : IsName ['\''] v.literal := literal_isName hv (by decide)
  rw [ofLiteral?.eq_def]
  split
  · next heq => exact absurd (List.mem_singleton_self _) (hname.2 '\'' (heq ▸ List.mem_cons_self))
  · rfl

/-- An integer is its digits and its sign. -/
theorem ofWord?_int (n : WideInt) : ofWord? (int n).literal = some (int n) := by
  have hnumeral := Token.numeral_append false (Numeral.ofInt_isProper n.val) (endsRun_nil _)
  rw [List.append_nil, Numeral.chars_ofInt] at hnumeral
  have hvalue : (if decide (n.val < 0) then -(Numeral.digitsValue (Nat.toDigits 10 n.val.natAbs) : Int)
      else Numeral.digitsValue (Nat.toDigits 10 n.val.natAbs)) = n.val := by
    simp only [Numeral.digitsValue_toDigits, decide_eq_true_eq]
    omega
  have hint : WideInt.ofInt? n.val = some n := dif_pos ⟨n.le_val, n.val_lt⟩
  rw [ofWord?, literal, String.toList_ofList, hnumeral]
  simp only [Numeral.ofInt]
  rw [hvalue, hint]
  rfl

/-- What is neither an integer nor null is read as the host reads numbers. -/
theorem ofWord?_eq_ofText? {s : String} (hnull : s ≠ "null")
    (hfloating : ∀ n rest, Token.numeral s.toList = some (n, rest) →
      n.fraction ≠ none ∨ n.exponent ≠ none) :
    ofWord? s = (Binary.ofText? .binary64 s).map float := by
  rw [ofWord?.eq_def]
  split
  · next heq => simpa using hfloating _ _ heq
  · rw [if_neg hnull]

/-- The literal of a floating-point number has a point or an exponent, or it is one of three words. -/
theorem float_literal_ne_null_and_floating (x : Double) :
    (float x).literal ≠ "null" ∧ ∀ n rest, Token.numeral (float x).literal.toList = some (n, rest) →
      n.fraction ≠ none ∨ n.exponent ≠ none := by
  have hword {s : String} (hnull : s ≠ "null") (hnone : Token.numeral s.toList = none) :
      s ≠ "null" ∧ ∀ n rest, Token.numeral s.toList = some (n, rest) →
        n.fraction ≠ none ∨ n.exponent ≠ none := by
    refine ⟨hnull, fun n rest hn => ?_⟩
    rw [hnone] at hn
    cases hn
  rcases x.isFinite_or_isNaN_or_eq_infinity with hx | hx | hx
  · obtain ⟨n, hproper, hchars, -, -, hfloating⟩ := sqlNumbers.exists_numeral_of_finiteChars x
    have hnumeral : Token.numeral (float x).literal.toList = some (n, []) := by
      rw [literal, sqlNumbers.write_of_isFinite hx, String.toList_ofList, ← hchars,
        ← List.append_nil (n.chars _), Token.numeral_append _ hproper (endsRun_nil _)]
    refine ⟨fun hnull => ?_, fun m rest hm => ?_⟩
    · rw [hnull] at hnumeral
      cases hnumeral
    · rw [hnumeral] at hm
      cases hm
      exact hfloating
  · rw [literal, sqlNumbers.write_of_isNaN hx]
    exact hword (by decide) rfl
  · rw [literal, hx, Binary.write_infinity]
    cases x.negative <;> exact hword (by decide) rfl

/-- A floating-point number is read as the host reads it. -/
theorem ofWord?_float (x : Double) : ofWord? (float x).literal = some (float x.canonical) := by
  obtain ⟨hnull, hfloating⟩ := float_literal_ne_null_and_floating x
  rw [ofWord?_eq_ofText? hnull hfloating, literal, Binary.ofText?_write (by decide)]
  rfl

/-- Every value is read back from its literal. -/
theorem ofLiteral?_literal (v : Value) : ofLiteral? v.literal = some v.canonical := by
  cases v with
  | null => rfl
  | int n => rw [ofLiteral?_of_isNumber rfl, ofWord?_int]; rfl
  | float x => rw [ofLiteral?_of_isNumber rfl, ofWord?_float]; rfl
  | text s => exact ofLiteral?_text s

/-- All NaNs have one literal. -/
theorem literal_canonical (v : Value) : v.canonical.literal = v.literal := by
  cases v with
  | float x =>
    refine (Binary.write_eq_write_iff (by decide) (by decide)).mpr ?_
    cases hx : x.isNaN with
    | true => exact .inr ⟨by rw [Binary.canonical_of_isNaN hx]; decide, rfl⟩
    | false => exact .inl (Binary.canonical_of_not_isNaN hx)
  | _ => rfl

/-- Two values have the same literal just if they are of the same kind and hold the same, all NaNs
taken for one. -/
theorem toSql_eq_iff_same (v w : Value) : v.toSql = w.toSql ↔ v.Same w := by
  rw [toSql_eq_literal, toSql_eq_literal, same_iff]
  constructor
  · intro h
    have hread := congrArg ofLiteral? h
    rw [ofLiteral?_literal, ofLiteral?_literal] at hread
    exact Option.some.inj hread
  · intro h
    rw [← literal_canonical v, h, literal_canonical]

/-- The two zeros, equal numbers of two kinds, and texts that look like another value have literals of
their own. -/
example : [null, text "null", int (.ofInt64 1), float (.ofBits .binary64 0x3ff0000000000000),
    text "1", float (.zero .binary64 false), float (.zero .binary64 true)].map toSql =
      ["null", "'null'", "1", "1.0", "'1'", "0.0", "-0.0"] := by decide +kernel

end Value

end ScopedSelect
