import ScopedSelect.Json.Token

/-!
# Reading JSON

A document is read into a tree, or its elements are handed to a reader of single elements. Both use
`readArray`, which knows only the brackets, commas and blanks of an array. Nesting is bounded: a
value more than `nestingLimit` brackets deep is refused. Duplicate member names are kept. How
floating-point numbers are read is a parameter; `Json.parse?` reads them in steps.
-/

namespace ScopedSelect

/-- A JSON document. -/
inductive Json where
  | null
  | bool (b : Bool)
  | number (n : JsonNumber)
  | text (s : String)
  | array (elements : List Json)
  | object (members : List (String × Json))

namespace Json

/-- A reader takes a value from the start of a text, and `ε` tells how it can fail. -/
abbrev Reader (ε α : Type) := List Char → Except ε (α × List Char)

/-- How many brackets may be open at once. -/
def nestingLimit : Nat := 127

variable {ε α : Type}

/-- Elements separated by commas up to the closing bracket; at least one is expected. The number
bounds how many there can be. -/
def readElements (malformed : ε) (element : Reader ε α) : Nat → Reader ε (List α)
  | 0, _ => .error malformed
  | bound + 1, cs =>
    match element cs with
    | .error e => .error e
    | .ok (a, cs) =>
      match Token.skipBlanks cs with
      | ']' :: cs => .ok ([a], cs)
      | ',' :: cs =>
        match readElements malformed element bound cs with
        | .error e => .error e
        | .ok (rest, cs) => .ok (a :: rest, cs)
      | _ => .error malformed

/-- The elements of an array after its opening bracket. Each takes at least one character, so their
number is bounded by the length of the text. -/
def readArray (malformed : ε) (element : Reader ε α) : Reader ε (List α) := fun cs =>
  match Token.skipBlanks cs with
  | ']' :: rest => .ok ([], rest)
  | _ => readElements malformed element cs.length cs

/-- Members separated by commas up to the closing brace; at least one is expected. -/
def readMembers (value : Reader Unit α) : Nat → Reader Unit (List (String × α))
  | 0, _ => .error ()
  | bound + 1, cs =>
    match Token.skipBlanks cs with
    | '"' :: cs =>
      match Token.quotedText cs with
      | none => .error ()
      | some (key, cs) =>
        match Token.skipBlanks cs with
        | ':' :: cs =>
          match value cs with
          | .error e => .error e
          | .ok (a, cs) =>
            match Token.skipBlanks cs with
            | '\x7d' :: cs => .ok ([(key, a)], cs)
            | ',' :: cs =>
              match readMembers value bound cs with
              | .error e => .error e
              | .ok (rest, cs) => .ok ((key, a) :: rest, cs)
            | _ => .error ()
        | _ => .error ()
    | _ => .error ()

/-- The members of an object after its opening brace. -/
def readObject (value : Reader Unit α) : Reader Unit (List (String × α)) := fun cs =>
  match Token.skipBlanks cs with
  | '\x7d' :: rest => .ok ([], rest)
  | _ => readMembers value cs.length cs

/-- A value at the start of the text. The number bounds how many brackets it may open. -/
def readValue (reading : Reading) : (depth : Nat) → Reader Unit Json
  | depth, cs =>
    match Token.read reading cs, depth with
    | none, _ => .error ()
    | some (.null, cs), _ => .ok (null, cs)
    | some (.bool b, cs), _ => .ok (bool b, cs)
    | some (.number n, cs), _ => .ok (number n, cs)
    | some (.text s, cs), _ => .ok (text s, cs)
    | some (.openArray, _), 0 => .error ()
    | some (.openObject, _), 0 => .error ()
    | some (.openArray, cs), depth + 1 =>
      (readArray () (readValue reading depth) cs).map fun (elements, cs) => (array elements, cs)
    | some (.openObject, cs), depth + 1 =>
      (readObject (readValue reading depth) cs).map fun (members, cs) => (object members, cs)

/-- Whether nothing but blanks is left. -/
def isEnd (cs : List Char) : Bool := (Token.skipBlanks cs).isEmpty

/-- The document that the whole text spells under a reading of numbers, if it spells one. -/
def parseWith? (reading : Reading) (s : String) : Option Json :=
  match readValue reading nestingLimit s.toList with
  | .ok (j, rest) => if isEnd rest then some j else none
  | .error () => none

/-- The document that the whole text spells, if it spells one. -/
def parse? (s : String) : Option Json := parseWith? .stepwise s

end Json

end ScopedSelect
