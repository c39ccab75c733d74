import ScopedSelect.Condition.Sql
import ScopedSelect.Proofs.Json.Integer
import ScopedSelect.Proofs.Json.Literal
import ScopedSelect.Proofs.Value.Reread

/-!
# From a written number to a comparison

A number in a document becomes a value and the value becomes a literal in a comparison. An integer
within 64 bits takes both steps without loss: the literal has the very characters of the document.
Every other number becomes the floating-point number nearest to it, or the document is refused if the
number is out of range. This is so for each literal of the grammar and for each of the three ways to a
value, with a reading to the nearest number.
-/

namespace ScopedSelect

namespace Value

variable {reading : Reading}

/-- The three ways from a text to a value. -/
def ways (reading : Reading) : List (String → Except DocumentError Value) :=
  [ofTextWith reading, ofTreeWith reading, ofDynamicWith reading]

/-- What holds of each of the three ways holds of all of them. -/
theorem forall_mem_ways {P : (String → Except DocumentError Value) → Prop}
    (text : P (ofTextWith reading)) (tree : P (ofTreeWith reading))
    (dynamic : P (ofDynamicWith reading)) : ∀ way ∈ ways reading, P way := by
  intro way hway
  simp only [ways, List.mem_cons, List.not_mem_nil, or_false] at hway
  rcases hway with rfl | rfl | rfl
  · exact text
  · exact tree
  · exact dynamic

/-- All ways lead to the value that is read straight from the text. -/
theorem way_eq_ok_iff (s : String) (v : Value) :
    ∀ way ∈ ways reading, way s = .ok v ↔ ofTextWith reading s = .ok v := by
  apply forall_mem_ways
  · rfl
  · rw [ofTreeWith_eq_ok_iff, ofTextWith_eq_ok_iff]
  · rw [ofDynamicWith_eq_ok_iff, ofTextWith_eq_ok_iff]

/-- A text without a first token is refused as malformed. -/
theorem way_eq_malformed {s : String} (h : Token.read reading s.toList = none) :
    ∀ way ∈ ways reading, way s = .error .malformed := by
  have hparse : Json.parseWith? reading s = none := by
    rw [Json.parseWith?, Json.readValue.eq_def]
    simp only [h]
  apply forall_mem_ways
  · rw [ofTextWith, read, h]
    rfl
  · rw [ofTreeWith, hparse]
  · rw [ofDynamicWith, hparse]

variable {n : Numeral} {s : String}

/-- A literal is read as the number of its numeral, and nothing is left of it. -/
theorem read_of_isLiteral (reading : Reading) (hs : n.IsLiteral s.toList) :
    Token.read reading s.toList = (n.number? reading).map fun j => (.number j, []) := by
  rw [← Token.read_append_of_isLiteral hs (endsRun_nil _), List.append_nil]

/-- A literal of an integer has the characters that the integer is written with. -/
theorem eq_literal_of_isLiteral {k : WideInt} (hs : (Numeral.ofInt k.val).IsLiteral s.toList) :
    s = (int k).literal := by
  obtain ⟨-, exponent, hexponent, hchars⟩ := hs
  obtain rfl : exponent = [] := by
    cases hexponent
    rfl
  rw [literal, ← String.toList_inj, String.toList_ofList, ← Numeral.chars_ofInt false, hchars]
  rfl

/-- An integer within 64 bits is read from its literals, and written as they are. -/
theorem exists_int_of_isInteger (reading : Reading) (hn : n.IsInteger) (hs : n.IsLiteral s.toList) :
    ∃ k : WideInt, ofTextWith reading s = .ok (int k) ∧ (k.val : ℚ) = n.toRat ∧
      s = (int k).literal := by
  obtain ⟨i, rfl⟩ := hn.toIsWhole.exists_eq_ofInt hs.proper
  obtain ⟨hlow, hhigh⟩ := Numeral.isInteger_ofInt_iff.mp hn
  let k : WideInt := ⟨i, by omega, by omega⟩
  have hliteral : s = (int k).literal := eq_literal_of_isLiteral hs
  have hexact : (int k).IsExact := ⟨hlow, hhigh⟩
  refine ⟨k, ?_, (Numeral.toRat_ofInt i).symm, hliteral⟩
  rw [hliteral]
  exact (spells_int_of_isExact hexact).ofTextWith_toJson

/-- Any other literal is read as the floating-point number that its numeral is read as. -/
theorem ofTextWith_of_reading {x : Double} (hn : ¬ n.IsInteger) (hs : n.IsLiteral s.toList)
    (hx : reading n = some x) : ofTextWith reading s = .ok (float x) := by
  have hread := read_of_isLiteral reading hs
  rw [Numeral.number?_of_not_isInteger reading hs.proper hn, hx] at hread
  rw [ofTextWith, read, hread]
  rfl

/-- It is refused if its numeral is not read as one. -/
theorem way_eq_malformed_of_reading (hn : ¬ n.IsInteger) (hs : n.IsLiteral s.toList)
    (hx : reading n = none) : ∀ way ∈ ways reading, way s = .error .malformed := by
  apply way_eq_malformed
  rw [read_of_isLiteral reading hs, Numeral.number?_of_not_isInteger reading hs.proper hn, hx]
  rfl

/-- A comparison with an integer ends with the literal of the integer. -/
theorem leaf_int (column : String) (k : WideInt) :
    ∃ c, Condition.leaf column (.value (int k)) = .ok c ∧
      c.toSql = column ++ " = " ++ (int k).literal :=
  ⟨.eq column (int k), rfl, Condition.toSql_eq _⟩

/-- Under a reading to the nearest number, a numeral of zero with a minus sign is minus zero. -/
theorem reading_of_minus_zero (hreading : reading.IsNearest) (hminus : n.minus) (hzero : n.toRat = 0) :
    reading n = some (.zero .binary64 true) := by
  have hvalue : n.decimal.toRat = 0 := by
    rw [Numeral.toRat, hminus] at hzero
    exact neg_eq_zero.mp hzero
  apply hreading.eq_some_of_rounds (x := .zero .binary64 true)
  · decide
  · exact hminus
  · rw [hvalue]
    exact Format.rounds_zero

/-- Under a reading to the nearest number, every literal of a number comes to one outcome by all three
ways. An integer within 64 bits, written without a fraction and an exponent and not as minus zero, comes
to the integer value of that number, and a comparison with it ends in the characters of the literal. Any
other literal comes to the nearest floating-point number with the sign written, a minus zero among them,
or it is refused as malformed if it is out of range. So no literal comes to another integer, to an
infinity or to NaN. -/
theorem literal_to_comparison (hreading : reading.IsNearest) (hs : n.IsLiteral s.toList) :
    ∀ way ∈ ways reading,
      (n.IsInteger → ∃ k : WideInt, way s = .ok (int k) ∧ (k.val : ℚ) = n.toRat ∧
        ∀ column, ∃ c, Condition.leaf column (.value (int k)) = .ok c ∧
          c.toSql = column ++ " = " ++ s) ∧
      (¬ n.IsInteger →
        (n.decimal.toRat < Format.binary64.limit →
          ∃ x : Double, way s = .ok (float x) ∧ x.IsNearest n.toRat ∧ x.negative = n.minus) ∧
        (Format.binary64.limit ≤ n.decimal.toRat → way s = .error .malformed)) ∧
      (n.minus → n.toRat = 0 → way s = .ok (float (.zero .binary64 true))) ∧
      ∀ v, way s = .ok v →
        (∃ k : WideInt, v = int k ∧ (k.val : ℚ) = n.toRat) ∨ ∃ x : Double, v = float x ∧ x.isFinite := by
  intro way hway
  have hok (v : Value) : way s = .ok v ↔ ofTextWith reading s = .ok v := way_eq_ok_iff s v way hway
  have hinteger (hn : n.IsInteger) : ∃ k : WideInt, way s = .ok (int k) ∧ (k.val : ℚ) = n.toRat ∧
      ∀ column, ∃ c, Condition.leaf column (.value (int k)) = .ok c ∧
        c.toSql = column ++ " = " ++ s := by
    obtain ⟨k, hk, hvalue, hliteral⟩ := exists_int_of_isInteger reading hn hs
    refine ⟨k, (hok _).mpr hk, hvalue, fun column => ?_⟩
    rw [hliteral]
    exact leaf_int column k
  have hfloat (hn : ¬ n.IsInteger) (hlt : n.decimal.toRat < Format.binary64.limit) :
      ∃ x : Double, way s = .ok (float x) ∧ x.IsNearest n.toRat ∧ x.negative = n.minus := by
    obtain ⟨x, hx, hsign, hnearest⟩ := hreading.exists_of_lt n hlt
    exact ⟨x, (hok _).mpr (ofTextWith_of_reading hn hs hx), hnearest, hsign⟩
  have hrefused (hn : ¬ n.IsInteger) (hle : Format.binary64.limit ≤ n.decimal.toRat) :
      way s = .error .malformed :=
    way_eq_malformed_of_reading hn hs (hreading.eq_none_of_le n hle) way hway
  refine ⟨hinteger, fun hn => ⟨hfloat hn, hrefused hn⟩, fun hminus hzero => ?_, fun v hv => ?_⟩
  · have hn : ¬ n.IsInteger := fun h => h.not_minus_zero hminus hzero
    exact (hok _).mpr (ofTextWith_of_reading hn hs (reading_of_minus_zero hreading hminus hzero))
  · by_cases hn : n.IsInteger
    · obtain ⟨k, hk, hvalue, -⟩ := hinteger hn
      exact .inl ⟨k, Except.ok.inj (hv.symm.trans hk), hvalue⟩
    · rcases lt_or_ge n.decimal.toRat Format.binary64.limit with hlt | hle
      · obtain ⟨x, hx, hnearest, -⟩ := hfloat hn hlt
        exact .inr ⟨x, Except.ok.inj (hv.symm.trans hx), hnearest.finite⟩
      · rw [hrefused hn hle] at hv
        cases hv

/-- Both ends of the integers keep their characters, the next integers on either side are rounded, and so
is an integer with an exponent. A minus zero keeps its sign, and a number far out of range is refused. -/
theorem literal_to_comparison_at_the_bounds :
    Reading.nearest.IsNearest ∧ ∀ way ∈ ways .nearest,
      (∃ k : WideInt, way "-9223372036854775808" = .ok (int k) ∧ k.val = -2 ^ (63 : Nat) ∧
        ∃ c, Condition.leaf "a" (.value (int k)) = .ok c ∧ c.toSql = "a = -9223372036854775808") ∧
      (∃ k : WideInt, way "18446744073709551615" = .ok (int k) ∧ k.val = 2 ^ (64 : Nat) - 1 ∧
        ∃ c, Condition.leaf "a" (.value (int k)) = .ok c ∧ c.toSql = "a = 18446744073709551615") ∧
      (∃ x : Double, way "-9223372036854775809" = .ok (float x) ∧
        x.IsNearest (-2 ^ (63 : Nat) - 1 : ℤ)) ∧
      (∃ x : Double, way "18446744073709551616" = .ok (float x) ∧
        x.IsNearest (2 ^ (64 : Nat) : ℤ)) ∧
      (∃ x : Double, way "1E+2" = .ok (float x) ∧ x.IsNearest (100 : ℤ)) ∧
      way "-0" = .ok (float (.zero .binary64 true)) ∧ way "1e2048" = .error .malformed := by
  refine ⟨Reading.nearest_isNearest, fun way hway => ?_⟩
  have hliteral {s : String} {n : Numeral} (h : Token.numeral s.toList = some (n, [])) :
      n.IsLiteral s.toList := Token.numeral_eq_some_iff.mp h
  have hinteger {s : String} {i : ℤ} (hs : (Numeral.ofInt i).IsLiteral s.toList)
      (hi : -2 ^ (63 : Nat) ≤ i ∧ i < 2 ^ (64 : Nat)) :
      ∃ k : WideInt, way s = .ok (int k) ∧ k.val = i ∧
        ∃ c, Condition.leaf "a" (.value (int k)) = .ok c ∧ c.toSql = "a" ++ " = " ++ s := by
    obtain ⟨k, hk, hvalue, hleaf⟩ := (literal_to_comparison Reading.nearest_isNearest hs way hway).1
      (Numeral.isInteger_ofInt_iff.mpr hi)
    rw [Numeral.toRat_ofInt, Int.cast_inj] at hvalue
    exact ⟨k, hk, hvalue, hleaf "a"⟩
  have hrounded {s : String} {n : Numeral} {i : ℤ} (hs : n.IsLiteral s.toList) (hn : ¬ n.IsInteger)
      (hvalue : n.toRat = i) (hsize : n.decimal.toRat = (Numeral.ofInt i).decimal.toRat)
      (hi : i.natAbs ≤ 2 ^ (127 : Nat)) : ∃ x : Double, way s = .ok (float x) ∧ x.IsNearest i := by
    obtain ⟨x, hx, hnearest, -⟩ :=
      ((literal_to_comparison Reading.nearest_isNearest hs way hway).2.1 hn).1
        (hsize.trans_lt (Numeral.toRat_decimal_ofInt_lt_limit hi))
    exact ⟨x, hx, hvalue ▸ hnearest⟩
  have hwide {s : String} {i : ℤ} (hs : (Numeral.ofInt i).IsLiteral s.toList)
      (hi : ¬ (-2 ^ (63 : Nat) ≤ i ∧ i < 2 ^ (64 : Nat)) ∧ i.natAbs ≤ 2 ^ (127 : Nat)) :
      ∃ x : Double, way s = .ok (float x) ∧ x.IsNearest i :=
    hrounded hs (mt Numeral.isInteger_ofInt_iff.mp hi.1) (Numeral.toRat_ofInt i) rfl hi.2
  have hhundred : Decimal.toRat ⟨1, 2⟩ = (Numeral.ofInt 100).decimal.toRat := by
    norm_num [Numeral.decimal_ofInt, Decimal.toRat]
  have hminus : way "-0" = .ok (float (.zero .binary64 true)) := by
    have hs : Numeral.IsLiteral ⟨true, ['0'], none, none⟩ "-0".toList := hliteral rfl
    refine (literal_to_comparison Reading.nearest_isNearest hs way hway).2.2.1 rfl ?_
    rw [Numeral.toRat, Numeral.toRat_decimal_of_plain rfl rfl]
    exact neg_zero
  have hlarge : way "1e2048" = .error .malformed := by
    have hs : Numeral.IsLiteral ⟨false, ['1'], none, some (false, ['2', '0', '4', '8'])⟩
        "1e2048".toList := hliteral rfl
    exact ((literal_to_comparison Reading.nearest_isNearest hs way hway).2.1
      (fun h => Option.some_ne_none _ h.exponent)).2
        (Format.limit_le_of_large (by decide) (by decide) (by decide))
  exact ⟨hinteger (hliteral rfl) (by decide), hinteger (hliteral rfl) (by decide),
    hwide (hliteral rfl) (by decide), hwide (hliteral rfl) (by decide),
    hrounded (n := ⟨false, ['1'], none, some (false, ['2'])⟩) (hliteral rfl)
      (fun h => Option.some_ne_none _ h.exponent) (hhundred.trans (Numeral.toRat_ofInt 100)) hhundred (by decide),
    hminus, hlarge⟩

end Value

end ScopedSelect
