import ScopedSelect.Decimal.Layout
import ScopedSelect.Value.Basic

/-!
# SQL literals

A value is written bare when it is null or a number and between single quotes when it is a text.
The text is not escaped. `Value.literal` says what is written; `Value.writeSql` appends it to a
buffer piece by piece.
-/

namespace ScopedSelect

/-- Numbers in SQL have the point form from `10 ^ (-4)` up to below `10 ^ 16`, no plus sign in an
exponent, and of two equally near decimals the greater one. -/
def sqlNumbers : NumberStyle where
  tie := .up
  plainFrom := -4
  plainTo := 15
  plusExponent := false
  nanWord := "NaN"
  infinityWord := "Infinity"
  minusInfinityWord := "-Infinity"

/-- The two ends of the point form, and a draw: the number lies halfway between two decimals of its
length, and the greater one is written. -/
example : sqlNumbers.write (Binary.ofBits .binary64 0x3f1a36e2eb1c432d) = "0.0001" ∧
    sqlNumbers.write (Binary.ofBits .binary64 0x3f1a36e2eb1c432c) = "9.999999999999999e-5" ∧
    sqlNumbers.write (Binary.ofBits .binary64 0x4341c37937e08000) = "1e16" ∧
    sqlNumbers.write (Binary.ofBits .binary64 0x4341c37937e07fff) = "9999999999999998.0" ∧
    sqlNumbers.write (Binary.ofBits .binary64 0x43118b54f22aeb03) = "1234567890123456.8" ∧
    sqlNumbers.write (Binary.ofBits .binary64 0x8000000000000000) = "-0.0" := by decide +kernel

namespace Value

/-- The literal of a value. -/
def literal : Value → String
  | null => "null"
  | int n => String.ofList n.chars
  | float x => sqlNumbers.write x
  | text s => "'" ++ s ++ "'"

/-- Append the literal of a value to a buffer. -/
def writeSql : Value → String → String
  | null, out => out ++ "null"
  | int n, out => out ++ String.ofList n.chars
  | float x, out => out ++ sqlNumbers.write x
  | text s, out => ((out.push '\'') ++ s).push '\''

/-- A literal is appended to what the buffer holds. -/
theorem writeSql_eq (v : Value) (out : String) : v.writeSql out = out ++ v.literal := by
  cases v with
  | text s => simp [writeSql, literal, String.append_assoc, String.push_eq_append]
  | _ => rfl

/-- The literal of a value, written to an empty buffer. -/
def toSql (v : Value) : String := v.writeSql ""

/-- What is written to an empty buffer is the literal. -/
theorem toSql_eq_literal (v : Value) : v.toSql = v.literal := by
  rw [toSql, writeSql_eq, String.empty_append]

end Value

end ScopedSelect
