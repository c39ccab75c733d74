import ScopedSelect.Value.Host
import ScopedSelect.Value.Item

/-!
# Values in JSON documents

There are three ways from a text to a value: reading the value straight from the text, reading a
tree and taking its item, and reading a tree and converting it like any other input of a caller.
A list of values is read element by element. The direct reader decides on the first token alone,
so it refuses an array or an object without looking at what follows. How floating-point numbers are
read is a parameter of each way; without it they are read in steps.
-/

namespace ScopedSelect

/-- Why a text yields no value. -/
inductive DocumentError where
  /-- The text is no JSON document, or holds a number out of range. -/
  | malformed
  /-- The document is of a kind that is no value. -/
  | refused (r : Refusal)
  /-- The document was refused as an input of a caller. -/
  | rejected (e : QueryError)

/-- The item that a number is handed over as. -/
def JsonNumber.toItem : JsonNumber → Item
  | natural n => .uint64 n
  | negative n => .int64 n
  | double x => .double x

/-- The item that a token is handed over as. -/
def Token.toItem : Token → Item
  | null => .unit
  | bool b => .bool b
  | number n => n.toItem
  | text s => .text s
  | openArray => .sequence
  | openObject => .map

/-- The item that a document is handed over as. -/
def Json.toItem : Json → Item
  | null => .unit
  | bool b => .bool b
  | number n => n.toItem
  | text s => .text s
  | array _ => .sequence
  | object _ => .map

/-- What a reader of something else than a scalar finds in a token. -/
def Token.found : Token → Found
  | null => .null
  | bool b => .bool b
  | number (.natural n) => .integer n.toNat
  | number (.negative n) => .integer n.toInt
  | number (.double x) => .double x
  | text s => .text s
  | openArray => .sequence
  | openObject => .map

namespace Value

/-- A value at the start of a text. -/
def read (reading : Reading) : Json.Reader DocumentError Value := fun cs =>
  match Token.read reading cs with
  | none => .error .malformed
  | some (token, rest) =>
    match ofItem token.toItem with
    | .ok v => .ok (v, rest)
    | .error r => .error (.refused r)

/-- The outcome of a reader that has to consume the whole text. -/
def whole {α : Type} : Except DocumentError (α × List Char) → Except DocumentError α
  | .error e => .error e
  | .ok (a, rest) => if Json.isEnd rest then .ok a else .error .malformed

/-- The value that a text spells under a reading of numbers, read straight from it. -/
def ofTextWith (reading : Reading) (s : String) : Except DocumentError Value :=
  whole (read reading s.toList)

/-- The value that a text spells under a reading of numbers, by way of a tree. -/
def ofTreeWith (reading : Reading) (s : String) : Except DocumentError Value :=
  match Json.parseWith? reading s with
  | none => .error .malformed
  | some j => (ofItem j.toItem).mapError .refused

/-- The value that a text spells under a reading of numbers, by way of a tree that is converted
like a caller's input. -/
def ofDynamicWith (reading : Reading) (s : String) : Except DocumentError Value :=
  match Json.parseWith? reading s with
  | none => .error .malformed
  | some j => (ofJson j).mapError .rejected

/-- The list of values that a text spells under a reading of numbers. -/
def listOfTextWith (reading : Reading) (s : String) : Except DocumentError (List Value) :=
  match Token.read reading s.toList with
  | none => .error .malformed
  | some (.openArray, rest) => whole (Json.readArray .malformed (read reading) rest)
  | some (token, _) => .error (.refused ⟨token.found, .sequence⟩)

/-- The value that a text spells, read straight from it. -/
def ofText (s : String) : Except DocumentError Value := ofTextWith .stepwise s

/-- The value that a text spells, by way of a tree. -/
def ofTree (s : String) : Except DocumentError Value := ofTreeWith .stepwise s

/-- The value that a text spells, by way of a tree that is converted like a caller's input. -/
def ofDynamic (s : String) : Except DocumentError Value := ofDynamicWith .stepwise s

/-- The list of values that a text spells. -/
def listOfText (s : String) : Except DocumentError (List Value) := listOfTextWith .stepwise s

/-- The document that a value is written as. -/
def toJson : Value → String
  | null => "null"
  | int n => String.ofList n.chars
  | float x => Json.numbers.write x
  | text s => Json.quoted s

/-- The document that a list of values is written as. -/
def listToJson (vs : List Value) : String :=
  String.ofList ('[' :: ([','].intercalate (vs.map fun v => v.toJson.toList) ++ [']']))

end Value

end ScopedSelect
