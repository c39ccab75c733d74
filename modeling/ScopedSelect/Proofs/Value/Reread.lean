import ScopedSelect.Proofs.Json.Reading
import ScopedSelect.Proofs.Json.Text
import ScopedSelect.Proofs.Value.Ways

/-!
# Values written and read again

A value is written without a tag for its kind, so its kind has to come back from the spelling alone:
a point or an exponent tells a floating-point number from an integer. With a reading to the nearest
number, null, every text, every finite floating-point number and every integer that fits into 64 bits
come back as they were. A wider integer comes back as the floating-point number nearest to it, and
what is not finite comes back as null. Whatever a document holds is a value of the first kind, so
writing and reading it again changes nothing any more. Lists of values behave as their elements do.
-/

namespace ScopedSelect

namespace Value

variable {reading : Reading}

/-- A document can hold the value as it is. -/
def IsExact : Value → Prop
  | null => True
  | int n => -2 ^ (63 : Nat) ≤ n.val ∧ n.val < 2 ^ (64 : Nat)
  | float x => x.isFinite
  | text _ => True

instance : DecidablePred IsExact
  | null => inferInstanceAs (Decidable True)
  | int n =>
    inferInstanceAs (Decidable (-2 ^ (63 : Nat) ≤ n.val ∧ n.val < 2 ^ (64 : Nat)))
  | float x => inferInstanceAs (Decidable (x.isFinite = true))
  | text _ => inferInstanceAs (Decidable True)

/-- What a value comes back as when it is written and read again. -/
inductive Rereads : Value → Value → Prop
  | kept {v : Value} : v.IsExact → Rereads v v
  | rounded {n : WideInt} {x : Double} :
      ¬ (int n).IsExact → x.IsNearest n.val → Rereads (int n) (float x)
  | missing {x : Double} : ¬ (float x).IsExact → Rereads (float x) null

/-- Just the exact values come back as they were. -/
theorem Rereads.eq_iff {v w : Value} (h : v.Rereads w) : w = v ↔ v.IsExact := by
  cases h with
  | kept hexact => exact ⟨fun _ => hexact, fun _ => rfl⟩
  | rounded hexact _ => exact ⟨nofun, fun h => absurd h hexact⟩
  | missing hexact => exact ⟨nofun, fun h => absurd h hexact⟩

/-- The first token of a written value holds what the value comes back as. -/
def Spells (reading : Reading) (v w : Value) : Prop :=
  ∀ rest, EndsRun ['.', 'e', 'E'] rest →
    ∃ token, Token.read reading (v.toJson.toList ++ rest) = some (token, rest) ∧
      ofItem token.toItem = .ok w

/-- A written integer is read from its numeral. -/
theorem read_int_append {n : WideInt} {j : JsonNumber}
    (hj : (Numeral.ofInt n.val).number? reading = some j) {rest : List Char}
    (hrest : EndsRun ['.', 'e', 'E'] rest) :
    Token.read reading ((int n).toJson.toList ++ rest) = some (.number j, rest) := by
  rw [toJson, String.toList_ofList, ← Numeral.chars_ofInt false,
    Token.read_numeral_append (Numeral.ofInt_isProper _) hrest, hj]
  rfl

/-- An integer within 64 bits is read as itself. -/
theorem spells_int_of_isExact {n : WideInt} (hn : (int n).IsExact) :
    Spells reading (int n) (int n) := by
  intro rest hrest
  rcases Int.lt_or_le n.val 0 with hneg | hnonneg
  · obtain ⟨i, hnumber, hvalue⟩ := Numeral.number?_ofInt_negative reading hneg hn.1
    have hint : WideInt.ofInt64 i = n := WideInt.ext hvalue
    exact ⟨.number (.negative i), read_int_append hnumber hrest,
      congrArg (fun m => Except.ok (int m)) hint⟩
  · obtain ⟨u, hnumber, hvalue⟩ := Numeral.number?_ofInt_natural reading hnonneg hn.2
    have hint : WideInt.ofUInt64 u = n := WideInt.ext hvalue
    exact ⟨.number (.natural u), read_int_append hnumber hrest,
      congrArg (fun m => Except.ok (int m)) hint⟩

/-- Any other integer is far within the range of finite numbers, and is read as the nearest one. -/
theorem exists_spells_int_of_not_isExact (hreading : reading.IsNearest) {n : WideInt}
    (hn : ¬ (int n).IsExact) :
    ∃ x : Double, x.IsNearest n.val ∧ Spells reading (int n) (float x) := by
  have hwide : n.val < -2 ^ (63 : Nat) ∨ 2 ^ (64 : Nat) ≤ n.val := by
    rcases not_and_or.mp hn with hlow | hhigh
    · exact .inl (not_le.mp hlow)
    · exact .inr (not_lt.mp hhigh)
  have hsize : n.val.natAbs ≤ 2 ^ (127 : Nat) := by
    have hlow := n.le_val
    have hhigh := n.val_lt
    omega
  obtain ⟨x, hx, -, hnearest⟩ :=
    hreading.exists_of_lt _ (Numeral.toRat_decimal_ofInt_lt_limit hsize)
  rw [Numeral.toRat_ofInt] at hnearest
  refine ⟨x, hnearest, fun rest hrest => ⟨.number (.double x), read_int_append ?_ hrest, rfl⟩⟩
  rw [Numeral.number?_ofInt_wide reading hwide, hx]
  rfl

/-- A finite number is read as itself, and any other one as null. -/
theorem exists_spells_float (hreading : reading.IsNearest) (x : Double) :
    ∃ w, (float x).Rereads w ∧ Spells reading (float x) w := by
  by_cases hx : x.isFinite
  · refine ⟨float x, .kept hx, fun rest hrest => ?_⟩
    obtain ⟨n, hproper, hchars, hminus, hvalue, hfloating⟩ :=
      Json.numbers.exists_numeral_of_finiteChars x
    have hrounds := Format.binary64.shortest_rounds Json.numbers.tie x.magnitude.val
    rw [← hvalue] at hrounds
    have hnumber : n.number? reading = some (.double x) := by
      rw [Numeral.number?_of_not_integer hfloating, hreading.eq_some_of_rounds hx hminus hrounds]
      rfl
    have hwritten : (float x).toJson.toList = n.chars Json.numbers.plusExponent := by
      rw [toJson, NumberStyle.write, Binary.isNaN_eq_false_of_isFinite hx,
        if_neg Bool.false_ne_true, if_pos hx, String.toList_ofList, hchars]
    refine ⟨.number (.double x), ?_, rfl⟩
    rw [hwritten, Token.read_numeral_append hproper hrest, hnumber]
    rfl
  · refine ⟨null, .missing hx, fun rest _ => ⟨.null, ?_, rfl⟩⟩
    have hwritten : (float x).toJson = "null" := by
      rw [toJson, NumberStyle.write, if_neg hx]
      split
      · rfl
      · split <;> rfl
    rw [hwritten]
    rfl

/-- Every value is spelled by its document. -/
theorem exists_spells (hreading : reading.IsNearest) (v : Value) :
    ∃ w, v.Rereads w ∧ Spells reading v w := by
  cases v with
  | null => exact ⟨null, .kept trivial, fun rest _ => ⟨.null, rfl, rfl⟩⟩
  | int n =>
    by_cases hn : (int n).IsExact
    · exact ⟨int n, .kept hn, spells_int_of_isExact hn⟩
    · obtain ⟨x, hnearest, hspells⟩ := exists_spells_int_of_not_isExact hreading hn
      exact ⟨float x, .rounded hn hnearest, hspells⟩
  | float x => exact exists_spells_float hreading x
  | text s =>
    exact ⟨text s, .kept trivial, fun rest _ => ⟨.text s, Token.read_quoted reading s rest, rfl⟩⟩

/-- An exact value is spelled as itself. -/
theorem spells_self (hreading : reading.IsNearest) {v : Value} (hv : v.IsExact) :
    Spells reading v v := by
  obtain ⟨w, hrereads, hspells⟩ := exists_spells hreading v
  rwa [hrereads.eq_iff.mpr hv] at hspells

/-- The values of a list are spelled one by one. -/
theorem exists_forall₂_spells (hreading : reading.IsNearest) (vs : List Value) :
    ∃ ws, List.Forall₂ Rereads vs ws ∧ List.Forall₂ (Spells reading) vs ws := by
  induction vs with
  | nil => exact ⟨[], .nil, .nil⟩
  | cons v vs ih =>
    obtain ⟨w, hrereads, hspells⟩ := exists_spells hreading v
    obtain ⟨ws, hallRereads, hallSpells⟩ := ih
    exact ⟨w :: ws, .cons hrereads hallRereads, .cons hspells hallSpells⟩

/-- A spelled value is read up to where its spelling ends. -/
theorem Spells.read_append {v w : Value} (h : Spells reading v w) {rest : List Char}
    (hrest : EndsRun ['.', 'e', 'E'] rest) :
    read reading (v.toJson.toList ++ rest) = .ok (w, rest) :=
  read_eq_ok_iff.mpr (h rest hrest)

/-- A spelled value is what its document is read as. -/
theorem Spells.ofTextWith_toJson {v w : Value} (h : Spells reading v w) :
    ofTextWith reading v.toJson = .ok w := by
  have hread := h.read_append (endsRun_nil _)
  rw [List.append_nil] at hread
  exact whole_eq_ok_iff.mpr ⟨[], hread, rfl⟩

/-- A list of spelled values is read element by element. -/
theorem listOfTextWith_listToJson {vs ws : List Value} (h : List.Forall₂ (Spells reading) vs ws) :
    listOfTextWith reading (listToJson vs) = .ok ws := by
  have hends : ∀ c ∈ [',', ']'], c.isDigit = false ∧ c ∉ ['.', 'e', 'E'] := by
    intro c hc
    rcases List.mem_pair.mp hc with rfl | rfl <;> decide
  have htakes : List.Forall₂ (Json.Takes (read reading)) (vs.map fun v => v.toJson.toList) ws := by
    refine List.forall₂_map_left_iff.mpr (h.imp fun v w hspells c hc rest => ?_)
    exact hspells.read_append ((endsRun_cons _ _ _).mpr (hends c hc))
  have hopen (cs behind : List Char) (result : Value × List Char)
      (hblank : Token.skipBlanks cs = ']' :: behind) : read reading cs ≠ .ok result := by
    have htoken : Token.read reading cs = none := by
      rw [Token.read, hblank]
      rfl
    simp [read, htoken]
  have harray : Json.readArray DocumentError.malformed (read reading) _ = _ :=
    Json.readArray_intercalate htakes hopen []
  rw [listOfTextWith, listToJson, String.toList_ofList]
  exact whole_eq_ok_iff.mpr ⟨[], harray, rfl⟩

/-- Whatever is read is exact: integers come with 64 bits, and floating-point numbers are finite. -/
theorem isExact_of_read (hreading : reading.IsNearest) {cs rest : List Char} {v : Value}
    (h : read reading cs = .ok (v, rest)) : v.IsExact := by
  obtain ⟨token, htoken, hv⟩ := read_eq_ok_iff.mp h
  cases token with
  | null =>
    obtain rfl := Except.ok.inj hv
    trivial
  | text s =>
    obtain rfl := Except.ok.inj hv
    trivial
  | bool b => cases hv
  | openArray => cases hv
  | openObject => cases hv
  | number j =>
    obtain ⟨n, hn⟩ := Token.exists_numeral_of_read htoken
    cases j with
    | natural u =>
      obtain rfl := Except.ok.inj hv
      have hlt := u.toNat_lt
      change -2 ^ (63 : Nat) ≤ (u.toNat : Int) ∧ (u.toNat : Int) < 2 ^ (64 : Nat)
      omega
    | negative i =>
      obtain rfl := Except.ok.inj hv
      have hlow := i.le_toInt
      have hhigh := i.toInt_lt
      change -2 ^ (63 : Nat) ≤ i.toInt ∧ i.toInt < 2 ^ (64 : Nat)
      omega
    | double x =>
      obtain rfl := Except.ok.inj hv
      exact hreading.isFinite (Numeral.reading_of_number?_eq_double hn)

/-- So are all elements of a list. -/
theorem isExact_of_listOfTextWith (hreading : reading.IsNearest) {s : String} {vs : List Value}
    (h : listOfTextWith reading s = .ok vs) : ∀ v ∈ vs, v.IsExact := by
  rw [listOfTextWith] at h
  split at h
  · cases h
  · obtain ⟨rest, hread, -⟩ := whole_eq_ok_iff.mp h
    exact Json.forall_mem_of_readArray (fun _ _ _ => isExact_of_read hreading) hread
  · cases h

/-- Just the lists of exact values come back as they were. -/
theorem Rereads.forall₂_eq_iff {vs ws : List Value} (h : List.Forall₂ Rereads vs ws) :
    ws = vs ↔ ∀ v ∈ vs, v.IsExact := by
  induction h with
  | nil => simp
  | cons hfirst _ ih => rw [List.cons_eq_cons, hfirst.eq_iff, ih, List.forall_mem_cons]

/-- Under a reading to the nearest number, every value can be written and read again, and it comes
back as it was just when it is null, a text, a finite number or an integer within 64 bits. A wider
integer comes back as the nearest floating-point number, and what is not finite comes back as null.
Whatever a document is read as is exact, so it comes back as it was from then on. All this holds of
lists as it holds of their elements. -/
theorem rereads_and_exact (hreading : reading.IsNearest) :
    (∀ v, ∃ w, ofTextWith reading v.toJson = .ok w ∧ v.Rereads w ∧ (w = v ↔ v.IsExact)) ∧
      (∀ s w, ofTextWith reading s = .ok w → w.IsExact ∧ ofTextWith reading w.toJson = .ok w) ∧
      (∀ vs, ∃ ws, listOfTextWith reading (listToJson vs) = .ok ws ∧
        List.Forall₂ (fun v w => ofTextWith reading v.toJson = .ok w) vs ws ∧
          (ws = vs ↔ ∀ v ∈ vs, v.IsExact)) ∧
      ∀ s ws, listOfTextWith reading s = .ok ws →
        (∀ w ∈ ws, w.IsExact) ∧ listOfTextWith reading (listToJson ws) = .ok ws := by
  refine ⟨fun v => ?_, fun s w hw => ?_, fun vs => ?_, fun s ws hws => ?_⟩
  · obtain ⟨w, hrereads, hspells⟩ := exists_spells hreading v
    exact ⟨w, hspells.ofTextWith_toJson, hrereads, hrereads.eq_iff⟩
  · obtain ⟨rest, hread, -⟩ := whole_eq_ok_iff.mp hw
    have hexact := isExact_of_read hreading hread
    exact ⟨hexact, (spells_self hreading hexact).ofTextWith_toJson⟩
  · obtain ⟨ws, hrereads, hspells⟩ := exists_forall₂_spells hreading vs
    exact ⟨ws, listOfTextWith_listToJson hspells, hspells.imp fun _ _ h => h.ofTextWith_toJson,
      Rereads.forall₂_eq_iff hrereads⟩
  · have hexact := isExact_of_listOfTextWith hreading hws
    have hspells : List.Forall₂ (Spells reading) ws ws :=
      List.forall₂_same.mpr fun w hw => spells_self hreading (hexact w hw)
    exact ⟨hexact, listOfTextWith_listToJson hspells⟩

/-- Both zeros, both ends of the integers and a text of characters to be escaped come back in a list,
the next integer on either side comes back rounded, and NaN and an infinity come back as null. -/
theorem rereads_and_exact_at_the_bounds :
    let kept : List Value := [float (.zero .binary64 true), float (.zero .binary64 false),
      int ⟨-2 ^ (63 : Nat), by decide, by decide⟩, int ⟨2 ^ (64 : Nat) - 1, by decide, by decide⟩,
      text "\"\\/\x00\x1f\u00e9", float ⟨false, 1⟩, null]
    let below : WideInt := ⟨-2 ^ (63 : Nat) - 1, by decide, by decide⟩
    let above : WideInt := ⟨2 ^ (64 : Nat), by decide, by decide⟩
    Reading.nearest.IsNearest ∧
      listOfTextWith .nearest (listToJson kept) = .ok kept ∧
      (∃ x : Double, ofTextWith .nearest (int below).toJson = .ok (float x) ∧
        x.IsNearest below.val) ∧
      (∃ x : Double, ofTextWith .nearest (int above).toJson = .ok (float x) ∧
        x.IsNearest above.val) ∧
      ofTextWith .nearest (float (.nan .binary64)).toJson = .ok null ∧
      ofTextWith .nearest (float (.infinity .binary64 true)).toJson = .ok null ∧
      listOfTextWith .nearest (listToJson [int (.ofUInt64 7), text "A"]) =
        listOfTextWith .nearest " [7, \"\\u0041\"]" := by
  intro kept below above
  obtain ⟨hvalue, -, hlist, htext⟩ := rereads_and_exact Reading.nearest_isNearest
  have hwide (n : WideInt) (hn : ¬ (int n).IsExact) :
      ∃ x : Double, ofTextWith .nearest (int n).toJson = .ok (float x) ∧ x.IsNearest n.val := by
    obtain ⟨w, hw, hrereads, -⟩ := hvalue (int n)
    cases hrereads with
    | kept hexact => exact absurd hexact hn
    | rounded _ hnearest => exact ⟨_, hw, hnearest⟩
  have hmissing (x : Double) (hx : ¬ (float x).IsExact) :
      ofTextWith .nearest (float x).toJson = .ok null := by
    obtain ⟨w, hw, hrereads, -⟩ := hvalue (float x)
    cases hrereads with
    | kept hexact => exact absurd hexact hx
    | missing _ => exact hw
  refine ⟨Reading.nearest_isNearest, ?_, hwide below (by decide), hwide above (by decide),
    hmissing _ (by decide), hmissing _ (by decide), ?_⟩
  · obtain ⟨ws, hws, -, hiff⟩ := hlist kept
    rw [hws, hiff.mpr (by decide)]
  · have hread : listOfTextWith .nearest " [7, \"\\u0041\"]" =
        .ok [int (.ofUInt64 7), text "A"] := rfl
    rw [hread]
    exact (htext _ _ hread).2

end Value

end ScopedSelect
