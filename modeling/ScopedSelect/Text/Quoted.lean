/-!
# Quoted names

A name is quoted between double quotes, with a backslash before a quote or a backslash, short
escapes for tab, carriage return, line feed and the null character, and the code point of every
other special character in hexadecimal. Which characters are special is a parameter: the escape
reads back whatever the choice, since the backslash is always escaped itself.
-/

namespace ScopedSelect

namespace Quoted

/-- A code point in lower-case hexadecimal, between braces. -/
def codePoint (c : Char) : List Char :=
  '\\' :: 'u' :: '\x7b' :: Nat.toDigits 16 c.toNat ++ ['\x7d']

/-- The characters that stand for one character of a name. -/
def escape (special : Char → Bool) (c : Char) : List Char :=
  if c = '"' then ['\\', '"']
  else if c = '\\' then ['\\', '\\']
  else if c = '\t' then ['\\', 't']
  else if c = '\r' then ['\\', 'r']
  else if c = '\n' then ['\\', 'n']
  else if c = '\x00' then ['\\', '0']
  else if special c then codePoint c
  else [c]

/-- A name between double quotes. -/
def name (special : Char → Bool) (s : String) : List Char :=
  '"' :: s.toList.flatMap (escape special) ++ ['"']

/-- Quoted names, each but the first after a comma and a space. -/
def separated (special : Char → Bool) : List String → List Char
  | [] => []
  | [s] => name special s
  | s :: t :: rest => name special s ++ ',' :: ' ' :: separated special (t :: rest)

/-- Quoted names between square brackets. -/
def list (special : Char → Bool) (names : List String) : List Char :=
  '[' :: separated special names ++ [']']

end Quoted

end ScopedSelect
