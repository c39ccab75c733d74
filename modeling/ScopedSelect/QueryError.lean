import ScopedSelect.Text.Quoted
import ScopedSelect.Text.Unprintable

/-!
# Errors of a statement under construction

One constructor for each cause, with what the caller needs to see it. The wording of all of them is
`QueryError.messageWith`.
-/

namespace ScopedSelect

/-- Why a call on a statement or a condition failed. -/
inductive QueryError where
  /-- A selection without any name. -/
  | emptyColumnList
  /-- A selection after the columns were fixed: the columns in place, and the list offered. -/
  | columnsAlreadyDefined (current attempted : List String)
  /-- A statement without a table. -/
  | missingTable
  /-- A value that is no null, number or text, by its description. -/
  | invalidValueType (description : String)
  /-- A child for an equality test. -/
  | nestedConditionOnLeaf
deriving DecidableEq

namespace QueryError

/-- The message, with the names of columns quoted under a given choice of special characters. -/
def messageWith (special : Char → Bool) : QueryError → String
  | emptyColumnList => "At least one column should be defined"
  | columnsAlreadyDefined current attempted =>
    "Detected an attempt to redefine columns to fetch. Current column list: " ++
      String.ofList (Quoted.list special current) ++ ", new column list: " ++
      String.ofList (Quoted.list special attempted)
  | missingTable => "Failed to build sql select - target table not specified"
  | invalidValueType description =>
    "Only null, numbers and string values can be used in the 'where' clause, got " ++ description
  | nestedConditionOnLeaf => "Can't add a nested condition to the sql 'eq'"

/-- The message for the person who writes the query; unprintable characters are special. -/
def message (e : QueryError) : String := e.messageWith isUnprintable

/-- Whether the statement lacked its table. -/
def isMissingTable : QueryError → Bool
  | missingTable => true
  | _ => false

/-- Whether a value was of a wrong kind. -/
def isInvalidValue : QueryError → Bool
  | invalidValueType _ => true
  | _ => false

/-- Whether an equality test was given a child. -/
def isNestedOnLeaf : QueryError → Bool
  | nestedConditionOnLeaf => true
  | _ => false

end QueryError

end ScopedSelect
