import ScopedSelect.Proofs.Json.Elements
import ScopedSelect.Value.Document

/-!
# The three ways from a text to a value

A value is read straight from a text, or by way of a tree that is taken as an item or converted like
a caller's input. The ways have rules of their own for numbers and for kinds that are no values, and
still they agree: on the value, whatever the text, and on the kind, if the text is a document that
is no value. A list of values is read just where each element of an array is one. All this holds for
every reading of numbers. The straight reader's message may go on with a position in the text; that
is not covered.
-/

namespace ScopedSelect

/-- A kind of document that is no value. -/
inductive Unfit where
  | boolean (b : Bool)
  | array
  | object

namespace Unfit

/-- What the readers of items find in a document of the kind. -/
def found : Unfit → Found
  | boolean b => .bool b
  | array => .sequence
  | object => .map

/-- The words for the kind in the message of a refused item. -/
def words : Unfit → String
  | boolean true => "boolean `true`"
  | boolean false => "boolean `false`"
  | array => "sequence"
  | object => "map"

/-- How a caller's input of the kind is described. -/
def description : Unfit → String
  | boolean true => "boolean true"
  | boolean false => "boolean false"
  | array => "array"
  | object => "object"

/-- The message that both readers of items have for a document of the kind. -/
theorem message_found (kind : Unfit) :
    (Refusal.mk kind.found .scalar).message =
      "invalid type: " ++ kind.words ++ ", expected null, a number or a string" := by
  have hkind : kind.found.words = kind.words := by
    cases kind with
    | boolean b => cases b <;> rfl
    | array => rfl
    | object => rfl
  have hwanted : ", expected " ++ Wanted.scalar.words = ", expected null, a number or a string" := by
    simp [Wanted.words]
  calc (Refusal.mk kind.found .scalar).message
    _ = "invalid type: " ++ kind.found.words ++ (", expected " ++ Wanted.scalar.words) :=
      String.append_assoc
    _ = _ := by simp only [hkind, hwanted]

end Unfit

/-- The kind of a document that is no value. -/
def Json.unfit? : Json → Option Unfit
  | null => none
  | bool b => some (.boolean b)
  | number _ => none
  | text _ => none
  | array _ => some .array
  | object _ => some .object

/-- The first token of a document decides its item, and it is the whole document if that is a
value. -/
theorem Json.exists_token_of_readValue {reading : Reading} {depth : Nat} {cs rest : List Char}
    {j : Json} (h : readValue reading depth cs = .ok (j, rest)) :
    ∃ token behind, Token.read reading cs = some (token, behind) ∧ token.toItem = j.toItem ∧
      (j.unfit? = none → behind = rest) := by
  rw [readValue.eq_def] at h
  cases htoken : Token.read reading cs with
  | none => simp [htoken] at h
  | some result =>
    obtain ⟨token, behind⟩ := result
    refine ⟨token, behind, rfl, ?_⟩
    cases token with
    | null | bool b | number n | text s =>
      simp only [htoken, Except.ok.injEq, Prod.mk.injEq] at h
      obtain ⟨rfl, rfl⟩ := h
      exact ⟨rfl, fun _ => rfl⟩
    | openArray =>
      cases depth with
      | zero => simp [htoken] at h
      | succ depth =>
        simp only [htoken] at h
        cases helements : readArray () (readValue reading depth) behind with
        | error e => simp [helements, Except.map] at h
        | ok elements =>
          simp only [helements, Except.map, Except.ok.injEq, Prod.mk.injEq] at h
          obtain ⟨rfl, -⟩ := h
          exact ⟨rfl, nofun⟩
    | openObject =>
      cases depth with
      | zero => simp [htoken] at h
      | succ depth =>
        simp only [htoken] at h
        cases hmembers : readObject (readValue reading depth) behind with
        | error e => simp [hmembers, Except.map] at h
        | ok members =>
          simp only [hmembers, Except.map, Except.ok.injEq, Prod.mk.injEq] at h
          obtain ⟨rfl, -⟩ := h
          exact ⟨rfl, nofun⟩

/-- A token that is a value is a whole document. -/
theorem Json.readValue_of_token {reading : Reading} {cs rest : List Char} {token : Token} {v : Value}
    (htoken : Token.read reading cs = some (token, rest)) (hv : Value.ofItem token.toItem = .ok v)
    (depth : Nat) : ∃ j, readValue reading depth cs = .ok (j, rest) ∧ j.toItem = token.toItem := by
  rw [readValue.eq_def]
  simp only [htoken]
  cases token with
  | null => exact ⟨null, rfl, rfl⟩
  | bool b => cases hv
  | number n => exact ⟨number n, rfl, rfl⟩
  | text s => exact ⟨text s, rfl, rfl⟩
  | openArray => cases hv
  | openObject => cases hv

/-- An array is its opening bracket and what the reader of its elements takes. -/
theorem Json.readValue_eq_array_iff {reading : Reading} {depth : Nat} {cs rest : List Char}
    {elements : List Json} :
    readValue reading (depth + 1) cs = .ok (array elements, rest) ↔
      ∃ behind, Token.read reading cs = some (.openArray, behind) ∧
        readArray () (readValue reading depth) behind = .ok (elements, rest) := by
  rw [readValue.eq_def]
  cases htoken : Token.read reading cs with
  | none => simp [htoken]
  | some result =>
    obtain ⟨token, behind⟩ := result
    simp only [htoken]
    cases token with
    | openArray =>
      cases helements : readArray () (readValue reading depth) behind <;>
        simp [helements, Except.map, Prod.ext_iff]
    | openObject =>
      cases hmembers : readObject (readValue reading depth) behind <;> simp [hmembers, Except.map]
    | _ => simp

namespace Value

/-- A number is a value by both conversions, and the same one. -/
theorem ofItem_number (n : JsonNumber) :
    ∃ v, ofItem n.toItem = .ok v ∧ ofJson (.number n) = .ok v := by
  cases n with
  | natural n =>
    refine ⟨int (.ofUInt64 n), rfl, ?_⟩
    by_cases h : n.toNat < 2 ^ (63 : Nat)
    · have hsmall : WideInt.ofInt64 n.toInt64 = .ofUInt64 n := by
        ext
        have hnat : n.toInt64.toBitVec.toNat = n.toNat := rfl
        exact BitVec.toInt_eq_toNat_of_lt (by omega)
      simp only [ofJson, JsonNumber.asInt64?, h, if_true, hsmall]
    · simp only [ofJson, JsonNumber.asInt64?, JsonNumber.asUInt64?, h, if_false]
  | negative n => exact ⟨int (.ofInt64 n), rfl, rfl⟩
  | double x => exact ⟨float x, rfl, rfl⟩

/-- A document is the same value by both conversions, or both refuse it for its kind. -/
theorem ofItem_or_unfit (j : Json) :
    (j.unfit? = none ∧ ∃ v, ofItem j.toItem = .ok v ∧ ofJson j = .ok v) ∨
      ∃ kind, j.unfit? = some kind ∧ ofItem j.toItem = .error ⟨kind.found, .scalar⟩ ∧
        ofJson j = .error (.invalidValueType kind.description) := by
  cases j with
  | null => exact .inl ⟨rfl, _, rfl, rfl⟩
  | bool b => exact .inr ⟨_, rfl, rfl, by cases b <;> rfl⟩
  | number n => exact .inl ⟨rfl, ofItem_number n⟩
  | text s => exact .inl ⟨rfl, _, rfl, rfl⟩
  | array elements => exact .inr ⟨_, rfl, rfl, rfl⟩
  | object members => exact .inr ⟨_, rfl, rfl, rfl⟩

/-- A value is what its first token hands over. -/
theorem read_eq_ok_iff {reading : Reading} {cs rest : List Char} {v : Value} :
    read reading cs = .ok (v, rest) ↔
      ∃ token, Token.read reading cs = some (token, rest) ∧ ofItem token.toItem = .ok v := by
  rw [read]
  cases Token.read reading cs with
  | none => exact ⟨nofun, nofun⟩
  | some result =>
    obtain ⟨token, behind⟩ := result
    simp only [Option.some.injEq, Prod.mk.injEq]
    constructor
    · intro h
      cases hitem : ofItem token.toItem with
      | error r => simp [hitem] at h
      | ok w =>
        simp only [hitem, Except.ok.injEq, Prod.mk.injEq] at h
        exact ⟨token, ⟨rfl, h.2⟩, by rw [hitem, h.1]⟩
    · rintro ⟨token, ⟨rfl, rfl⟩, hitem⟩
      simp only [hitem]

/-- The straight reader of values accepts the documents whose items are values. -/
theorem read_refines (reading : Reading) (depth : Nat) :
    Json.Refines (read reading) (Json.readValue reading depth)
      (fun j v => ofItem j.toItem = .ok v) := by
  intro cs v rest
  rw [read_eq_ok_iff]
  constructor
  · rintro ⟨token, htoken, hv⟩
    obtain ⟨j, hj, hitem⟩ := Json.readValue_of_token htoken hv depth
    exact ⟨j, hj, (congrArg ofItem hitem).trans hv⟩
  · rintro ⟨j, hj, hv⟩
    obtain ⟨token, behind, htoken, hitem, hwhole⟩ := Json.exists_token_of_readValue hj
    rcases ofItem_or_unfit j with ⟨hfit, -⟩ | ⟨kind, -, hrefused, -⟩
    · exact ⟨token, by rw [htoken, hwhole hfit], by rw [hitem, hv]⟩
    · rw [hrefused] at hv
      cases hv

/-- A whole text is read when nothing but blanks is left of it. -/
theorem whole_eq_ok_iff {α : Type} {outcome : Except DocumentError (α × List Char)} {a : α} :
    whole outcome = .ok a ↔ ∃ rest, outcome = .ok (a, rest) ∧ Json.isEnd rest := by
  cases outcome with
  | error e => simp [whole]
  | ok result =>
    obtain ⟨b, rest⟩ := result
    cases hend : Json.isEnd rest <;> simp [whole, hend]

end Value

/-- A text spells a document when nothing but blanks is left behind it. -/
theorem Json.parseWith?_eq_some_iff {reading : Reading} {s : String} {j : Json} :
    parseWith? reading s = some j ↔
      ∃ rest, readValue reading nestingLimit s.toList = .ok (j, rest) ∧ isEnd rest := by
  rw [parseWith?]
  cases readValue reading nestingLimit s.toList with
  | error e => simp
  | ok result =>
    obtain ⟨k, rest⟩ := result
    cases hend : isEnd rest <;> simp [hend]

namespace Value

/-- A text is a value when it spells a document whose item is one. -/
theorem ofTextWith_eq_ok_iff {reading : Reading} {s : String} {v : Value} :
    ofTextWith reading s = .ok v ↔
      ∃ j, Json.parseWith? reading s = some j ∧ ofItem j.toItem = .ok v := by
  simp only [ofTextWith, whole_eq_ok_iff, read_refines reading Json.nestingLimit _ _ _,
    Json.parseWith?_eq_some_iff]
  constructor
  · rintro ⟨rest, ⟨j, hj, hv⟩, hend⟩
    exact ⟨j, ⟨rest, hj, hend⟩, hv⟩
  · rintro ⟨j, ⟨rest, hj, hend⟩, hv⟩
    exact ⟨rest, ⟨j, hj, hv⟩, hend⟩

/-- By way of a tree, a text is a value under the same condition. -/
theorem ofTreeWith_eq_ok_iff {reading : Reading} {s : String} {v : Value} :
    ofTreeWith reading s = .ok v ↔
      ∃ j, Json.parseWith? reading s = some j ∧ ofItem j.toItem = .ok v := by
  rw [ofTreeWith]
  cases Json.parseWith? reading s with
  | none => simp
  | some j => cases h : ofItem j.toItem <;> simp [h, Except.mapError]

/-- Converted like a caller's input, a text is a value under the same condition. -/
theorem ofDynamicWith_eq_ok_iff {reading : Reading} {s : String} {v : Value} :
    ofDynamicWith reading s = .ok v ↔
      ∃ j, Json.parseWith? reading s = some j ∧ ofItem j.toItem = .ok v := by
  rw [ofDynamicWith]
  cases Json.parseWith? reading s with
  | none => simp
  | some j =>
    rcases ofItem_or_unfit j with ⟨-, w, hitem, hjson⟩ | ⟨kind, -, hitem, hjson⟩
    · simp [hitem, hjson, Except.mapError]
    · simp [hitem, hjson, Except.mapError]

/-- A document that is no value is refused by all ways, and for its kind. -/
theorem refused_of_unfit {reading : Reading} {s : String} {j : Json} {kind : Unfit}
    (hparse : Json.parseWith? reading s = some j) (hkind : j.unfit? = some kind) :
    ofTextWith reading s = .error (.refused ⟨kind.found, .scalar⟩) ∧
      ofTreeWith reading s = .error (.refused ⟨kind.found, .scalar⟩) ∧
        ofDynamicWith reading s = .error (.rejected (.invalidValueType kind.description)) := by
  obtain ⟨hitem, hjson⟩ : ofItem j.toItem = .error ⟨kind.found, .scalar⟩ ∧
      ofJson j = .error (.invalidValueType kind.description) := by
    rcases ofItem_or_unfit j with ⟨hfit, -⟩ | ⟨other, hother, hitem, hjson⟩
    · rw [hfit] at hkind
      cases hkind
    · obtain rfl := Option.some.inj (hother.symm.trans hkind)
      exact ⟨hitem, hjson⟩
  obtain ⟨rest, hread, -⟩ := Json.parseWith?_eq_some_iff.mp hparse
  obtain ⟨token, behind, htoken, htokenItem, -⟩ := Json.exists_token_of_readValue hread
  refine ⟨?_, ?_, ?_⟩
  · simp only [ofTextWith, read, htoken, htokenItem, hitem, whole]
  · simp only [ofTreeWith, hparse, hitem, Except.mapError]
  · simp only [ofDynamicWith, hparse, hjson, Except.mapError]

/-- A list of values is an array in which the item of each element is a value. -/
theorem listOfTextWith_eq_ok_iff {reading : Reading} {s : String} {vs : List Value} :
    listOfTextWith reading s = .ok vs ↔
      ∃ elements, Json.parseWith? reading s = some (.array elements) ∧
        List.Forall₂ (fun j v => ofItem j.toItem = .ok v) elements vs := by
  have hrefines := (read_refines reading 126).readArray DocumentError.malformed ()
  have hlist (rest : List Char) (elements : List Json) :
      Json.readValue reading Json.nestingLimit s.toList = .ok (.array elements, rest) ↔ _ :=
    Json.readValue_eq_array_iff
  rw [listOfTextWith]
  constructor
  · intro h
    cases htoken : Token.read reading s.toList with
    | none => simp [htoken] at h
    | some result =>
      obtain ⟨token, behind⟩ := result
      cases token with
      | openArray =>
        simp only [htoken, whole_eq_ok_iff] at h
        obtain ⟨rest, hvalues, hend⟩ := h
        obtain ⟨elements, helements, hall⟩ := (hrefines behind vs rest).mp hvalues
        exact ⟨elements, Json.parseWith?_eq_some_iff.mpr
          ⟨rest, (hlist rest elements).mpr ⟨behind, htoken, helements⟩, hend⟩, hall⟩
      | _ => simp [htoken] at h
  · rintro ⟨elements, hparse, hall⟩
    obtain ⟨rest, hread, hend⟩ := Json.parseWith?_eq_some_iff.mp hparse
    obtain ⟨behind, htoken, helements⟩ := (hlist rest elements).mp hread
    simp only [htoken, whole_eq_ok_iff]
    exact ⟨rest, (hrefines behind vs rest).mpr ⟨elements, helements, hall⟩, hend⟩

/-- The three ways from a text to a value lead to the same values, and they lead to one if the text
spells a document of a fitting kind. A document of another kind is refused by all of them: the two
readers of items report what they found with one message, and the conversion describes the same kind. A
list of values is read from a text exactly when the text spells an array in which each element is a
value, and its values are those of the elements, in order. -/
theorem ways_agree (reading : Reading) (s : String) :
    (∀ v, (ofTextWith reading s = .ok v ↔ ofTreeWith reading s = .ok v) ∧
        (ofTreeWith reading s = .ok v ↔ ofDynamicWith reading s = .ok v)) ∧
      (∀ j, Json.parseWith? reading s = some j → j.unfit? = none →
        ∃ v, ofTreeWith reading s = .ok v) ∧
      (∀ j kind, Json.parseWith? reading s = some j → j.unfit? = some kind →
        ofTextWith reading s = .error (.refused ⟨kind.found, .scalar⟩) ∧
          ofTreeWith reading s = .error (.refused ⟨kind.found, .scalar⟩) ∧
            ofDynamicWith reading s = .error (.rejected (.invalidValueType kind.description)) ∧
              (Refusal.mk kind.found .scalar).message =
                "invalid type: " ++ kind.words ++ ", expected null, a number or a string") ∧
      ∀ vs, listOfTextWith reading s = .ok vs ↔
        ∃ elements, Json.parseWith? reading s = some (.array elements) ∧
          List.Forall₂ (fun j v => ofItem j.toItem = .ok v) elements vs := by
  refine ⟨fun v => ⟨?_, ?_⟩, fun j hparse hfit => ?_, fun j kind hparse hkind => ?_,
    fun vs => listOfTextWith_eq_ok_iff⟩
  · rw [ofTextWith_eq_ok_iff, ofTreeWith_eq_ok_iff]
  · rw [ofTreeWith_eq_ok_iff, ofDynamicWith_eq_ok_iff]
  · rcases ofItem_or_unfit j with ⟨-, v, hv, -⟩ | ⟨kind, hkind, -⟩
    · exact ⟨v, ofTreeWith_eq_ok_iff.mpr ⟨j, hparse, hv⟩⟩
    · rw [hfit] at hkind
      cases hkind
  · obtain ⟨htext, htree, hdynamic⟩ := refused_of_unfit hparse hkind
    exact ⟨htext, htree, hdynamic, kind.message_found⟩

/-- A list with both ends of the integers and an escaped text, a boolean between blanks, an array, an
object, and a list in which one element is no value. -/
theorem ways_agree_on_lists_and_unfit_kinds :
    let least : WideInt := .ofInt64 (.ofInt (-2 ^ (63 : Nat)))
    let greatest : WideInt := .ofUInt64 (.ofNat (2 ^ (64 : Nat) - 1))
    listOfText " [null, -9223372036854775808,18446744073709551615 , \"a\\u0062\"]\n" =
        .ok [null, int least, int greatest, text "ab"] ∧
      (ofText " true\t" = .error (.refused ⟨.bool true, .scalar⟩) ∧
        ofTree " true\t" = .error (.refused ⟨.bool true, .scalar⟩) ∧
        ofDynamic " true\t" = .error (.rejected (.invalidValueType "boolean true")) ∧
        (Refusal.mk (.bool true) .scalar).message =
          "invalid type: boolean `true`, expected null, a number or a string") ∧
      (ofText "[1, \x7b\x7d]" = .error (.refused ⟨.sequence, .scalar⟩) ∧
        ofTree "[1, \x7b\x7d]" = .error (.refused ⟨.sequence, .scalar⟩) ∧
        ofDynamic "[1, \x7b\x7d]" = .error (.rejected (.invalidValueType "array")) ∧
        (Refusal.mk .sequence .scalar).message =
          "invalid type: sequence, expected null, a number or a string") ∧
      (ofText "\x7b\"a\": null\x7d" = .error (.refused ⟨.map, .scalar⟩) ∧
        ofTree "\x7b\"a\": null\x7d" = .error (.refused ⟨.map, .scalar⟩) ∧
        ofDynamic "\x7b\"a\": null\x7d" = .error (.rejected (.invalidValueType "object")) ∧
        (Refusal.mk .map .scalar).message =
          "invalid type: map, expected null, a number or a string") ∧
      (∃ v, ofTree "7 " = .ok v) ∧
      ∀ vs, listOfText "[1, [2]]" ≠ .ok vs := by
  intro least greatest
  refine ⟨?_, ?_, ?_, ?_, ?_, fun vs h => ?_⟩
  · obtain ⟨-, -, -, hlist⟩ := ways_agree .stepwise
      " [null, -9223372036854775808,18446744073709551615 , \"a\\u0062\"]\n"
    exact (hlist _).mpr ⟨[.null, .number (.negative (.ofInt (-2 ^ (63 : Nat)))),
      .number (.natural (.ofNat (2 ^ (64 : Nat) - 1))), .text "ab"], rfl,
      .cons rfl (.cons rfl (.cons rfl (.cons rfl .nil)))⟩
  · exact (ways_agree .stepwise " true\t").2.2.1 (.bool true) (.boolean true) rfl rfl
  · exact (ways_agree .stepwise "[1, \x7b\x7d]").2.2.1 (.array [.number (.natural 1), .object []]) .array
      rfl rfl
  · exact (ways_agree .stepwise "\x7b\"a\": null\x7d").2.2.1 (.object [("a", .null)]) .object
      rfl rfl
  · exact (ways_agree .stepwise "7 ").2.1 (.number (.natural 7)) rfl rfl
  · obtain ⟨elements, hparse, hall⟩ := ((ways_agree .stepwise "[1, [2]]").2.2.2 vs).mp h
    have hread : Json.parseWith? .stepwise "[1, [2]]" =
        some (.array [.number (.natural 1), .array [.number (.natural 2)]]) := rfl
    rw [hread] at hparse
    cases hparse
    cases hall with
    | cons _ hrest =>
      cases hrest with
      | cons hrefused _ => cases hrefused

end Value

end ScopedSelect
