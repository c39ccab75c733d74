import ScopedSelect.Decimal.Layout

/-!
# Writing JSON

A text is written between double quotes; a quote, a backslash and the control characters below the
space are escaped, everything else stands as it is. A number has a point or an exponent whenever it
is a floating-point number, and what is not finite is written as null.
-/

namespace ScopedSelect

namespace Json

/-- Floating-point numbers in JSON have the point form from `10 ^ (-5)` up to below `10 ^ 16`, a
sign in every exponent, and of two equally near decimals the even one. -/
def numbers : NumberStyle where
  tie := .even
  plainFrom := -5
  plainTo := 15
  plusExponent := true
  nanWord := "null"
  infinityWord := "null"
  minusInfinityWord := "null"

/-- The two ends of the point form, and a draw: of the two decimals the even one is written. -/
example : numbers.write (Binary.ofBits .binary64 0x3ee4f8b588e368f1) = "0.00001" ∧
    numbers.write (Binary.ofBits .binary64 0x3eb0c6f7a0b5ed8d) = "1e-6" ∧
    numbers.write (Binary.ofBits .binary64 0x4341c37937e08000) = "1e+16" ∧
    numbers.write (Binary.ofBits .binary64 0x3e60000000000000) = "2.9802322387695312e-8" := by
  decide +kernel

/-- The characters that stand for one character of a text. -/
def escape (c : Char) : List Char :=
  if c = '"' then ['\\', '"']
  else if c = '\\' then ['\\', '\\']
  else if c = '\x08' then ['\\', 'b']
  else if c = '\x0c' then ['\\', 'f']
  else if c = '\n' then ['\\', 'n']
  else if c = '\r' then ['\\', 'r']
  else if c = '\t' then ['\\', 't']
  else if c.toNat < 0x20 then
    ['\\', 'u', '0', '0', Nat.digitChar (c.toNat / 16), Nat.digitChar (c.toNat % 16)]
  else [c]

/-- A text between double quotes. -/
def quoted (s : String) : String :=
  String.ofList ('"' :: s.toList.flatMap escape ++ ['"'])

end Json

end ScopedSelect
