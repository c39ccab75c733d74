import ScopedSelect.Condition.Sql
import ScopedSelect.Trace

/-!
# Statements under construction

A query collects what a SELECT statement on one table needs: the columns, the table, the condition
and, if its building is to be reported, the trace settings. The columns are fixed by the first
selection that names any; the table and the settings are those set last. `Query.text` says what is
written, `Query.writeSql` appends it to a buffer piece by piece. Only the table is required.
-/

namespace ScopedSelect

/-- A SELECT statement under construction. -/
structure Query where
  columns : List String
  table : Option String
  condition : Option Condition
  trace : Option Trace

/-- The report of a built statement. -/
structure Event where
  level : Level
  table : String
  columns : Nat
  hasWhere : Bool
  sql : String
deriving DecidableEq

/-- The target that reports are sent to. -/
def Event.target : String := "sqldsl.sql"

/-- The message of every report. -/
def Event.message : String := "built select statement"

namespace Query

/-- The statement without anything set. -/
def empty : Query := ⟨[], none, none, none⟩

/-- Fix the columns. Empty names are dropped, but an attempt counts by the names it offers. -/
def select (q : Query) (names : List String) : Except QueryError Query :=
  if names.isEmpty then .error .emptyColumnList
  else if q.columns.isEmpty then
    .ok { q with columns := names.filter fun name => !name.isEmpty }
  else .error (.columnsAlreadyDefined q.columns names)

/-- Set the table. -/
def fromTable (q : Query) (table : String) : Query := { q with table := some table }

/-- Replace the condition. -/
def withCondition (q : Query) (c : Condition) : Query := { q with condition := some c }

/-- Attach trace settings, or detach them. -/
def withTrace (q : Query) (trace : Option Trace) : Query := { q with trace := trace }

/-- Whether the statement can be built. -/
def validate (q : Query) : Except QueryError Unit :=
  match q.table with
  | none => .error .missingTable
  | some _ => .ok ()

/-- The column list, a star for all columns. -/
def columnsText : List String → String
  | [] => "*"
  | names => ", ".intercalate names

/-- The text of the statement; without a table its name is left out. -/
def text (q : Query) : String :=
  "SELECT " ++ columnsText q.columns ++ " FROM " ++ q.table.getD "" ++
    (match q.condition with
      | none => ""
      | some c => " WHERE " ++ c.text) ++ ";"

/-- Append the statement to a buffer. -/
def writeSql (q : Query) (out : String) : String :=
  let out := out ++ "SELECT "
  let out := if q.columns.isEmpty then out.push '*' else out ++ ", ".intercalate q.columns
  let out := out ++ " FROM " ++ q.table.getD ""
  let out :=
    match q.condition with
    | none => out
    | some c => c.writeSql (out ++ " WHERE ")
  out.push ';'

/-- A statement is appended to what the buffer holds. -/
theorem writeSql_eq (q : Query) (out : String) : q.writeSql out = out ++ q.text := by
  obtain ⟨columns, table, condition, trace⟩ := q
  cases columns <;> cases condition <;>
    simp [writeSql, text, columnsText, Condition.writeSql_eq, String.push_eq_append,
      String.append_assoc]

/-- The text of the statement, written to an empty buffer. -/
def toSql (q : Query) : String := q.writeSql ""

/-- What is written to an empty buffer is the text of the statement. -/
theorem toSql_eq (q : Query) : q.toSql = q.text := by
  simp [toSql, writeSql_eq]

/-- The report of the statement with its text, under the given settings. -/
def report (q : Query) (trace : Trace) (sql : String) : Event where
  level := trace.level
  table := q.table.getD "-"
  columns := q.columns.length
  hasWhere := q.condition.isSome
  sql := trace.shorten sql

/-- The finished statement, and its report if one was asked for. -/
def build (q : Query) : Except QueryError (String × Option Event) :=
  match q.validate with
  | .error e => .error e
  | .ok () => .ok (q.toSql, q.trace.map fun t => q.report t q.toSql)

end Query

end ScopedSelect
