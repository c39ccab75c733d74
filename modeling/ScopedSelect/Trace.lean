/-!
# Trace settings

Settings say at which level a built statement is reported and how many bytes of its text are shown.
A text within the limit is shown whole; a longer one is cut at the last character boundary that the
limit allows and marked. Where the reports go is not covered.

A cut never splits a character: the end of what is kept is looked for from the limit downward, one byte
at a time, until a character starts there. The limit is met by the start of the text at the latest.
-/

namespace ScopedSelect

/-- How urgent a report is. -/
inductive Level where
  | error
  | warn
  | info
  | debug
  | trace
deriving DecidableEq

/-- The name of a level. -/
def Level.name : Level → String
  | error => "ERROR"
  | warn => "WARN"
  | info => "INFO"
  | debug => "DEBUG"
  | trace => "TRACE"

/-- The last character boundary at or before a byte offset. -/
def boundaryAtMost (s : String) : (offset : Nat) → s.Pos
  | 0 => s.startPos
  | offset + 1 =>
    if h : (⟨offset + 1⟩ : String.Pos.Raw).IsValid s then s.pos ⟨offset + 1⟩ h
    else boundaryAtMost s offset

/-- The text up to the last character boundary within the limit. -/
def clip (limit : Nat) (s : String) : String := (s.sliceTo (boundaryAtMost s limit)).copy

/-- The settings of a statement that reports when it is built. -/
structure Trace where
  level : Level
  /-- The greatest number of bytes shown, or `none` for the whole text. -/
  limit : Option Nat
deriving DecidableEq

namespace Trace

/-- The limit of new settings. -/
def defaultLimit : Nat := 200

/-- Settings of the given level with the default limit. -/
def atLevel (level : Level) : Trace := ⟨level, some defaultLimit⟩

/-- The default settings. -/
def default : Trace := atLevel .debug

/-- The settings with another limit. -/
def withLimit (t : Trace) (bytes : Nat) : Trace := { t with limit := some bytes }

/-- The settings without a limit. -/
def unlimited (t : Trace) : Trace := { t with limit := none }

/-- The text as it is shown. -/
def shorten (t : Trace) (sql : String) : String :=
  match t.limit with
  | none => sql
  | some limit => if sql.utf8ByteSize ≤ limit then sql else clip limit sql ++ "..."

end Trace

end ScopedSelect
