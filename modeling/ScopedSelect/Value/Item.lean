import ScopedSelect.Json.Writer
import ScopedSelect.Text.Quoted
import ScopedSelect.Text.Unprintable
import ScopedSelect.Value.Basic

/-!
# Values among the items of a data model

A format hands over its content as items: integers of every width, floating-point numbers,
characters, texts, bytes and the shapes of compound data. `Value.ofItem` accepts nothing,
numbers and texts and refuses the rest, naming what it met; `Value.toItem` is the item a value is
handed over as. The contents of refused items are not looked at, so they are not kept.
-/

namespace ScopedSelect

/-- What a reader met in place of what it wanted. -/
inductive Found where
  | null
  | bool (b : Bool)
  | integer (n : Int)
  /-- An unsigned integer of 128 bits. -/
  | unsigned128 (n : Nat)
  | double (x : Double)
  | text (s : String)
  | bytes
  | sequence
  | map
  | enumeration
  | newtype

/-- What a reader wanted. -/
inductive Wanted where
  | scalar
  | sequence

/-- An item of a kind that the reader does not take. -/
structure Refusal where
  found : Found
  wanted : Wanted

namespace Found

/-- The words for what was met. -/
def words : Found → String
  | null => "null"
  | bool true => "boolean `true`"
  | bool false => "boolean `false`"
  | integer n => "integer `" ++ toString n ++ "`"
  | unsigned128 n => "integer `" ++ toString n ++ "` as u128"
  | double x => "floating point `" ++ Json.numbers.write x ++ "`"
  | text s => "string " ++ String.ofList (Quoted.name isUnprintable s)
  | bytes => "byte array"
  | sequence => "sequence"
  | map => "map"
  | enumeration => "enum"
  | newtype => "newtype struct"

end Found

/-- The words for what was wanted. -/
def Wanted.words : Wanted → String
  | scalar => "null, a number or a string"
  | sequence => "a sequence"

/-- The message of a refusal, without the position in the text that a reader of texts may add to it. -/
def Refusal.message (r : Refusal) : String :=
  "invalid type: " ++ r.found.words ++ ", expected " ++ r.wanted.words

/-- An item of the data model. -/
inductive Item where
  | int8 (n : Int8)
  | int16 (n : Int16)
  | int32 (n : Int32)
  | int64 (n : Int64)
  | int128 (n : WideInt)
  | uint8 (n : UInt8)
  | uint16 (n : UInt16)
  | uint32 (n : UInt32)
  | uint64 (n : UInt64)
  | uint128 (n : Fin (2 ^ (128 : Nat)))
  | single (x : Single)
  | double (x : Double)
  | char (c : Char)
  | text (s : String)
  | bytes
  | bool (b : Bool)
  | unit
  | none
  | some (item : Item)
  | newtype
  | sequence
  | map
  | enumeration

namespace Value

/-- The value of an item. Narrow integers and numbers are widened to 64 bits, a character is a text
of its own, and a present item is what it holds; the widest unsigned integers are refused whatever
their size. -/
def ofItem : Item → Except Refusal Value
  | .int8 n => .ok (int (.ofInt64 n.toInt64))
  | .int16 n => .ok (int (.ofInt64 n.toInt64))
  | .int32 n => .ok (int (.ofInt64 n.toInt64))
  | .int64 n => .ok (int (.ofInt64 n))
  | .int128 n => .ok (int n)
  | .uint8 n => .ok (int (.ofUInt64 n.toUInt64))
  | .uint16 n => .ok (int (.ofUInt64 n.toUInt64))
  | .uint32 n => .ok (int (.ofUInt64 n.toUInt64))
  | .uint64 n => .ok (int (.ofUInt64 n))
  | .uint128 n => .error ⟨.unsigned128 n.val, .scalar⟩
  | .single x => .ok (float (x.convert .binary64))
  | .double x => .ok (float x)
  | .char c => .ok (text (String.ofList [c]))
  | .text s => .ok (text s)
  | .bytes => .error ⟨.bytes, .scalar⟩
  | .bool b => .error ⟨.bool b, .scalar⟩
  | .unit => .ok null
  | .none => .ok null
  | .some item => ofItem item
  | .newtype => .error ⟨.newtype, .scalar⟩
  | .sequence => .error ⟨.sequence, .scalar⟩
  | .map => .error ⟨.map, .scalar⟩
  | .enumeration => .error ⟨.enumeration, .scalar⟩

/-- The item that a value is handed over as. -/
def toItem : Value → Item
  | null => .unit
  | int n => .int128 n
  | float x => .double x
  | text s => .text s

end Value

end ScopedSelect
