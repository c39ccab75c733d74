import ScopedSelect.Json.Number

/-!
# The first token of a JSON value

After blanks, a value starts with a word, a number, a text or an opening bracket, and `readToken`
consumes just that. A text is read by a machine with a small state, one character at a time, so the
reader follows its input. Whatever the grammar does not allow is `none`; where and why is not kept.
-/

namespace ScopedSelect

/-- What a JSON value starts with. Everything but an opening bracket is a whole value. -/
inductive Token where
  | null
  | bool (b : Bool)
  | number (n : JsonNumber)
  | text (s : String)
  | openArray
  | openObject

namespace Token

/-- The blanks between tokens: space, tab, line feed and carriage return. -/
def isBlank (c : Char) : Bool := c = ' ' || c = '\t' || c = '\n' || c = '\r'

/-- The text after its leading blanks. -/
def skipBlanks (cs : List Char) : List Char := cs.dropWhile isBlank

/-- The text after a word it starts with. -/
def skipWord : List Char → List Char → Option (List Char)
  | [], cs => some cs
  | _ :: _, [] => none
  | w :: word, c :: cs => if w = c then skipWord word cs else none

/-- The leading digits, at least one, and the text after them. -/
def digits (cs : List Char) : Option (List Char × List Char) :=
  match cs.takeWhile Char.isDigit with
  | [] => none
  | ds => some (ds, cs.dropWhile Char.isDigit)

/-- The leading digits without a superfluous zero in front. -/
def wholeDigits : List Char → Option (List Char × List Char)
  | '0' :: cs =>
    match cs with
    | [] => some (['0'], [])
    | c :: rest => if c.isDigit then none else some (['0'], c :: rest)
  | cs => digits cs

/-- The digits after a point, if a point follows. -/
def fractionDigits : List Char → Option (Option (List Char) × List Char)
  | '.' :: cs => (digits cs).map fun (ds, rest) => (some ds, rest)
  | cs => some (none, cs)

/-- The sign and digits of an exponent, if its mark follows. -/
def exponentDigits : List Char → Option (Option (Bool × List Char) × List Char)
  | [] => some (none, [])
  | c :: cs =>
    if c = 'e' ∨ c = 'E' then
      match cs with
      | '-' :: rest => (digits rest).map fun (ds, rest) => (some (true, ds), rest)
      | '+' :: rest => (digits rest).map fun (ds, rest) => (some (false, ds), rest)
      | _ => (digits cs).map fun (ds, rest) => (some (false, ds), rest)
    else some (none, c :: cs)

/-- A numeral after its sign. -/
def unsignedNumeral (minus : Bool) (cs : List Char) : Option (Numeral × List Char) := do
  let (whole, cs) ← wholeDigits cs
  let (fraction, cs) ← fractionDigits cs
  let (exponent, cs) ← exponentDigits cs
  return (⟨minus, whole, fraction, exponent⟩, cs)

/-- A numeral at the start of the text. -/
def numeral : List Char → Option (Numeral × List Char)
  | '-' :: cs => unsignedNumeral true cs
  | cs => unsignedNumeral false cs

/-- Where the reader of a text stands within an escape. A leading half of a surrogate pair waits
for its other half. -/
inductive TextState where
  | plain
  | backslash (high : Option Nat)
  | hex (high : Option Nat) (left value : Nat)
  | half (high : Nat)

/-- The character that a one-letter escape stands for. -/
def simpleEscape : Char → Option Char
  | '"' => some '"'
  | '\\' => some '\\'
  | '/' => some '/'
  | 'b' => some '\x08'
  | 'f' => some '\x0c'
  | 'n' => some '\n'
  | 'r' => some '\r'
  | 't' => some '\t'
  | _ => none

/-- The value of a hexadecimal digit of either case. -/
def hexDigit? (c : Char) : Option Nat :=
  if c.isDigit then some (c.toNat - '0'.toNat)
  else if 'a' ≤ c ∧ c ≤ 'f' then some (c.toNat - 'a'.toNat + 10)
  else if 'A' ≤ c ∧ c ≤ 'F' then some (c.toNat - 'A'.toNat + 10)
  else none

/-- What a completed escape of four digits yields: a character, or the wait for a second half. -/
def codeUnit (high : Option Nat) (unit : Nat) : Option (Char ⊕ TextState) :=
  match high with
  | none =>
    if 0xd800 ≤ unit ∧ unit < 0xdc00 then some (.inr (.half unit))
    else if 0xdc00 ≤ unit ∧ unit < 0xe000 then none
    else some (.inl (Char.ofNat unit))
  | some h =>
    if 0xdc00 ≤ unit ∧ unit < 0xe000 then
      some (.inl (Char.ofNat (0x10000 + (h - 0xd800) * 0x400 + (unit - 0xdc00))))
    else none

/-- The characters of a text up to its closing quote, and what follows the quote. A control
character has to be escaped, and so has the half of a surrogate pair with its other half. -/
def textChars : TextState → List Char → Option (List Char × List Char)
  | _, [] => none
  | .plain, c :: cs =>
    if c = '"' then some ([], cs)
    else if c = '\\' then textChars (.backslash none) cs
    else if c.toNat < 0x20 then none
    else (textChars .plain cs).map fun (s, rest) => (c :: s, rest)
  | .backslash high, c :: cs =>
    if c = 'u' then textChars (.hex high 3 0) cs
    else
      match high, simpleEscape c with
      | none, some e => (textChars .plain cs).map fun (s, rest) => (e :: s, rest)
      | _, _ => none
  | .hex high left value, c :: cs =>
    match hexDigit? c, left with
    | none, _ => none
    | some d, left + 1 => textChars (.hex high left (value * 16 + d)) cs
    | some d, 0 =>
      match codeUnit high (value * 16 + d) with
      | none => none
      | some (.inl e) => (textChars .plain cs).map fun (s, rest) => (e :: s, rest)
      | some (.inr state) => textChars state cs
  | .half high, c :: cs => if c = '\\' then textChars (.backslash (some high)) cs else none

/-- A text after its opening quote. -/
def quotedText (cs : List Char) : Option (String × List Char) :=
  (textChars .plain cs).map fun (s, rest) => (String.ofList s, rest)

/-- The first token of a value and what follows it. -/
def read (reading : Reading) (cs : List Char) : Option (Token × List Char) :=
  match skipBlanks cs with
  | [] => none
  | 'n' :: cs => (skipWord ['u', 'l', 'l'] cs).map (null, ·)
  | 't' :: cs => (skipWord ['r', 'u', 'e'] cs).map (bool true, ·)
  | 'f' :: cs => (skipWord ['a', 'l', 's', 'e'] cs).map (bool false, ·)
  | '"' :: cs => (quotedText cs).map fun (s, rest) => (text s, rest)
  | '[' :: cs => some (openArray, cs)
  | '\x7b' :: cs => some (openObject, cs)
  | c :: cs => do
    let (n, rest) ← numeral (c :: cs)
    return (number (← n.number? reading), rest)

end Token

end ScopedSelect
