import ScopedSelect.Binary.Text
import ScopedSelect.Json.Reader
import ScopedSelect.QueryError
import ScopedSelect.Value.Basic
import ScopedSelect.Decimal.Layout

/-!
# Values of the host

What a caller compares a column with is converted to a value. Only a JSON document can be of a
wrong kind. A 32-bit number is shown and read again as a 64-bit one, so that it is written with the
digits it had; widening it exactly would show digits it never had, and is done only with a text that
cannot be read.
-/

namespace ScopedSelect

namespace Value

/-- The value of a JSON document: an integer if one of the two integer readings succeeds. -/
def ofJson : Json → Except QueryError Value
  | .null => .ok null
  | .text s => .ok (text s)
  | .number n =>
    match n.asInt64? with
    | some i => .ok (int (.ofInt64 i))
    | none =>
      match n.asUInt64? with
      | some u => .ok (int (.ofUInt64 u))
      | none => .ok (float n.asDouble)
  | .bool true => .error (.invalidValueType "boolean true")
  | .bool false => .error (.invalidValueType "boolean false")
  | .array _ => .error (.invalidValueType "array")
  | .object _ => .error (.invalidValueType "object")

end Value

/-- The 64-bit number that the text of a 32-bit one denotes. -/
def Binary.ofSingle (x : Single) : Double :=
  (Binary.ofText? .binary64 x.shown).getD (x.convert .binary64)

/-- What a caller can compare a column with. -/
inductive Host where
  | int8 (n : Int8)
  | int16 (n : Int16)
  | int32 (n : Int32)
  | int64 (n : Int64)
  | int128 (n : WideInt)
  | uint8 (n : UInt8)
  | uint16 (n : UInt16)
  | uint32 (n : UInt32)
  | uint64 (n : UInt64)
  | single (x : Single)
  | double (x : Double)
  | text (s : String)
  | unit
  | none
  | some (h : Host)
  | value (v : Value)
  | json (j : Json)

namespace Host

/-- The value of what a caller gave. -/
def toValue : Host → Except QueryError Value
  | int8 n => .ok (.int ⟨n.toInt, by have := n.le_toInt; omega, by have := n.toInt_lt; omega⟩)
  | int16 n => .ok (.int ⟨n.toInt, by have := n.le_toInt; omega, by have := n.toInt_lt; omega⟩)
  | int32 n => .ok (.int ⟨n.toInt, by have := n.le_toInt; omega, by have := n.toInt_lt; omega⟩)
  | int64 n => .ok (.int (.ofInt64 n))
  | int128 n => .ok (.int n)
  | uint8 n => .ok (.int ⟨n.toNat, by omega, by have := n.toNat_lt; omega⟩)
  | uint16 n => .ok (.int ⟨n.toNat, by omega, by have := n.toNat_lt; omega⟩)
  | uint32 n => .ok (.int ⟨n.toNat, by omega, by have := n.toNat_lt; omega⟩)
  | uint64 n => .ok (.int (.ofUInt64 n))
  | single x => .ok (.float (.ofSingle x))
  | double x => .ok (.float x)
  | text s => .ok (.text s)
  | unit => .ok .null
  | none => .ok .null
  | some h => h.toValue
  | value v => .ok v
  | json j => Value.ofJson j

end Host

end ScopedSelect
