import ScopedSelect.Condition.Basic
import ScopedSelect.Value.Literal

/-!
# Conditions in SQL

A group of two or more conditions is written between parentheses with its operator between the
children; a group of one is written as its child, and an empty group is not written at all.
`Condition.text` says what is written, `Condition.writeSql` appends it to a buffer piece by piece.
Column names and texts are written as they are.
-/

namespace ScopedSelect

/-- The text of an equality test. -/
def testText (column : String) (value : Value) : String :=
  if value.isNull then column ++ " is null" else column ++ " = " ++ value.literal

/-- Append an equality test to a buffer. -/
def writeTest (column : String) (value : Value) (out : String) : String :=
  if value.isNull then out ++ column ++ " is null" else value.writeSql (out ++ column ++ " = ")

/-- A test is appended to what the buffer holds, piece by piece. -/
theorem writeTest_eq (column : String) (value : Value) (out : String) :
    writeTest column value out = out ++ testText column value := by
  unfold writeTest testText
  split <;> simp [Value.writeSql_eq, String.append_assoc]

/-- Texts in turn, each behind a separator. -/
def behindEach (separator : String) : List String → String
  | [] => ""
  | s :: rest => separator ++ s ++ behindEach separator rest

/-- Joined texts are the first of them and the others, each behind the separator. -/
theorem intercalate_eq (separator s : String) (rest : List String) :
    separator.intercalate (s :: rest) = s ++ behindEach separator rest := by
  induction rest generalizing s with
  | nil => simp [behindEach]
  | cons t rest ih => rw [String.intercalate_cons_cons, ih]; simp [behindEach, String.append_assoc]

/-- The text of a group, from the texts of its children. -/
def groupText (op : LogicalOp) : List String → String
  | [] => ""
  | [only] => only
  | first :: second :: rest =>
    "(" ++ (" " ++ op.word ++ " ").intercalate (first :: second :: rest) ++ ")"

namespace Condition

mutual

/-- The text of a condition. -/
def text : Condition → String
  | eq column value => testText column value
  | group op cs => groupText op (texts cs)

/-- The texts of some conditions. -/
def texts : List Condition → List String
  | [] => []
  | c :: cs => c.text :: texts cs

end

mutual

/-- Append a condition to a buffer. -/
def writeSql : Condition → String → String
  | eq column value, out => writeTest column value out
  | group _ [], out => out
  | group _ [only], out => only.writeSql out
  | group op (first :: second :: rest), out =>
    (writeFrom op 0 (first :: second :: rest) (out.push '(')).push ')'

/-- Append the children of a group from the one at an index on. The operator goes in front of every
child but the one at index zero. -/
def writeFrom (op : LogicalOp) : Nat → List Condition → String → String
  | _, [], out => out
  | i, c :: cs, out =>
    let out := if 0 < i then ((out.push ' ') ++ op.word).push ' ' else out
    writeFrom op (i + 1) cs (c.writeSql out)

end

mutual

/-- A condition is appended to what the buffer holds; every fact about written conditions rests on
it. -/
theorem writeSql_eq (c : Condition) (out : String) : c.writeSql out = out ++ c.text := by
  match c with
  | eq column value => exact writeTest_eq column value out
  | group op [] => simp [writeSql, text, texts, groupText]
  | group op [only] => simp [writeSql, text, texts, groupText, writeSql_eq only]
  | group op (first :: second :: rest) =>
    have hfirst : first.writeSql (out.push '(') = out ++ ("(" ++ first.text) := by
      rw [writeSql_eq first, String.push_eq_append, String.append_assoc]
      rfl
    have hrest := writeFrom_eq op 0 (second :: rest) (out ++ ("(" ++ first.text))
    rw [writeSql, writeFrom, if_neg (Nat.lt_irrefl 0), hfirst, hrest]
    simp [text, texts, groupText, intercalate_eq, String.push_eq_append, String.append_assoc]

/-- Behind the first child, every one is written with the operator in front of it. -/
theorem writeFrom_eq (op : LogicalOp) (i : Nat) (cs : List Condition) (out : String) :
    writeFrom op (i + 1) cs out = out ++ behindEach (" " ++ op.word ++ " ") (texts cs) := by
  match cs with
  | [] => simp [writeFrom, texts, behindEach]
  | c :: rest =>
    simp [writeFrom, texts, behindEach, writeSql_eq c, writeFrom_eq op (i + 1) rest,
      String.push_eq_append, String.append_assoc]

end

/-- The text of a condition, written to an empty buffer. -/
def toSql (c : Condition) : String := c.writeSql ""

/-- What is written to an empty buffer is the text of the condition. -/
theorem toSql_eq (c : Condition) : c.toSql = c.text := by
  simp [toSql, writeSql_eq]

end Condition

end ScopedSelect
