import ScopedSelect.Condition.Scope
import ScopedSelect.Query.Basic

/-!
# Runs of calls on a statement

A statement is configured by calls in any order. A program of calls is treated as a scope program
is: the failure of a call ends it or is noted in the log. A run tells what became of the statement,
how the calls ended, and which entries and reports they left. A session is a run of single calls in
which the statement can be kept under a name and taken up again.
-/

namespace ScopedSelect

namespace Query

/-- A call on a statement. -/
inductive Call where
  /-- Fix the columns. -/
  | select (names : List String)
  /-- Set the table. -/
  | fromTable (table : String)
  /-- Replace the condition by a new group of all that the program adds. -/
  | filter (body : List Scope.Step)
  /-- Attach trace settings. -/
  | trace (settings : Trace)
  /-- Attach default trace settings of a level. -/
  | traceAt (level : Level)
  /-- Detach the trace settings. -/
  | untrace
  /-- Check that the statement can be built. -/
  | validate
  /-- Build the statement and note its text. -/
  | build
  /-- Note the statement as it is. -/
  | mark
  /-- Fail. -/
  | raise (e : QueryError)

/-- A call and what happens when it fails. -/
inductive Step where
  /-- A failure ends the program. -/
  | propagate (call : Call)
  /-- The outcome is noted, and the program goes on. -/
  | swallow (call : Call)

/-- An entry of the log. -/
inductive Entry where
  /-- How a call ended whose failure would not end the program. -/
  | outcome (result : Except QueryError Unit)
  /-- An entry of a scope program. -/
  | scope (entry : Scope.Entry)
  /-- The statement at a mark. -/
  | query (q : Query)
  /-- The text of a statement that was built. -/
  | sql (text : String)

/-- What calls leave behind: the statement, how they ended, and what they logged and reported. -/
structure Run where
  query : Query
  result : Except QueryError Unit
  log : List Entry
  events : List Event

/-- A call that leaves no trace but its effect. -/
def Run.quiet (q : Query) (result : Except QueryError Unit) : Run := ⟨q, result, [], []⟩

/-- A run preceded by other entries and reports. -/
def Run.after (entries : List Entry) (events : List Event) (r : Run) : Run :=
  ⟨r.query, r.result, entries ++ r.log, events ++ r.events⟩

/-- Make one call; a call that fails leaves the statement as it was. -/
def Call.run : Call → Query → Run
  | .select names, q =>
    match q.select names with
    | .ok q => .quiet q (.ok ())
    | .error e => .quiet q (.error e)
  | .fromTable table, q => .quiet (q.fromTable table) (.ok ())
  | .filter body, q =>
    let r := Scope.runAll body (.composite .and)
    match r.result with
    | .ok () => ⟨q.withCondition r.condition, .ok (), r.log.map .scope, []⟩
    | .error e => ⟨q, .error e, r.log.map .scope, []⟩
  | .trace settings, q => .quiet (q.withTrace (some settings)) (.ok ())
  | .traceAt level, q => .quiet (q.withTrace (some (.atLevel level))) (.ok ())
  | .untrace, q => .quiet (q.withTrace none) (.ok ())
  | .validate, q => .quiet q q.validate
  | .build, q =>
    match q.build with
    | .ok (sql, event) => ⟨q, .ok (), [.sql sql], event.toList⟩
    | .error e => .quiet q (.error e)
  | .mark, q => ⟨q, .ok (), [.query q], []⟩
  | .raise e, q => .quiet q (.error e)

/-- Run a program: its steps in order, up to a failure that is not swallowed. -/
def runAll : List Step → Query → Run
  | [], q => .quiet q (.ok ())
  | .propagate call :: rest, q =>
    let r := call.run q
    match r.result with
    | .error e => ⟨r.query, .error e, r.log, r.events⟩
    | .ok () => (runAll rest r.query).after r.log r.events
  | .swallow call :: rest, q =>
    let r := call.run q
    (runAll rest r.query).after (r.log ++ [.outcome r.result]) r.events

/-- A new statement configured by a program. -/
def start (program : List Step) : Run := runAll program empty

end Query

/-- A statement and the statements kept under names, the latest first. -/
structure Session where
  query : Query
  kept : List (String × Query)

namespace Session

/-- A step of a session. -/
inductive Step where
  | call (c : Query.Call)
  /-- Keep the statement under a name. -/
  | save (slot : String)
  /-- Take up the statement kept last under a name; without one nothing happens. -/
  | load (slot : String)

/-- Take one step. -/
def step (s : Session) : Step → Session × Query.Run
  | .call c =>
    let r := c.run s.query
    (⟨r.query, s.kept⟩, r)
  | .save slot => (⟨s.query, (slot, s.query) :: s.kept⟩, .quiet s.query (.ok ()))
  | .load slot =>
    let q := (s.kept.lookup slot).getD s.query
    (⟨q, s.kept⟩, .quiet q (.ok ()))

/-- The runs of successive steps; failures end nothing. -/
def runEach (s : Session) : List Step → List Query.Run
  | [] => []
  | a :: rest => (s.step a).2 :: runEach (s.step a).1 rest

end Session

end ScopedSelect
