import ScopedSelect.Condition.Basic

/-!
# Scope programs

An initializer fills a condition by calls on it: it adds tests, groups with initializers of their
own, and conditions built elsewhere. Here it is a program, a list of steps of which each is one
call together with what happens when the call fails: the failure ends the program, or it is noted
in the log and the program goes on. A group is built apart and attached when its own program has
succeeded, so a failed group leaves nothing behind; the calls before a failure stay. An initializer
that does something else to its scope than make these calls, such as assigning a new condition to it,
is not covered.
-/

namespace ScopedSelect

namespace Scope

mutual

/-- A call on the condition of the scope. -/
inductive Call where
  /-- Add a test of a column. -/
  | eq (column : String) (value : Host)
  /-- Add a group filled by a program. -/
  | group (op : LogicalOp) (body : List Step)
  /-- Run a program on the condition itself. -/
  | block (body : List Step)
  /-- Add a condition built elsewhere. -/
  | add (recipe : Recipe)
  /-- Add a copy of the condition as it is. -/
  | addSelf
  /-- Note the condition as it is. -/
  | mark
  /-- Fail. -/
  | raise (e : QueryError)

/-- A call and what happens when it fails. -/
inductive Step where
  /-- A failure ends the program. -/
  | propagate (call : Call)
  /-- The outcome is noted, and the program goes on. -/
  | swallow (call : Call)

/-- How a condition is built elsewhere. -/
inductive Recipe where
  | leaf (column : String) (value : Host)
  | composite (op : LogicalOp) (body : List Step)

end

/-- Groups within each other, their operators taken from a list over and over, the outermost first,
with a program for the innermost. Without any group the program runs on the scope itself. -/
def Call.nest (ops : List LogicalOp) (body : List Step) : (level depth : Nat) → Call
  | _, 0 => .block body
  | level, depth + 1 =>
    .group (ops[level % ops.length]?.getD .and) [.propagate (nest ops body (level + 1) depth)]

/-- An entry of the log. -/
inductive Entry where
  /-- How a call ended whose failure would not end the program. -/
  | outcome (result : Except QueryError Unit)
  /-- The condition at a mark. -/
  | condition (c : Condition)

/-- What calls leave behind: the condition, how they ended, and the entries they logged. -/
structure Run where
  condition : Condition
  result : Except QueryError Unit
  log : List Entry

/-- A condition built elsewhere, or why it could not be, and the entries logged meanwhile. -/
structure Built where
  result : Except QueryError Condition
  log : List Entry

/-- Attach what was built; the condition stays as it is if either fails. -/
def attach (c : Condition) (built : Built) : Run :=
  match built.result with
  | .error e => ⟨c, .error e, built.log⟩
  | .ok child =>
    match c.add child with
    | .error e => ⟨c, .error e, built.log⟩
    | .ok c => ⟨c, .ok (), built.log⟩

/-- A finished run on a fresh condition as a condition built elsewhere. -/
def Run.built (r : Run) : Built :=
  match r.result with
  | .error e => ⟨.error e, r.log⟩
  | .ok () => ⟨.ok r.condition, r.log⟩

/-- A run preceded by other entries. -/
def Run.after (entries : List Entry) (r : Run) : Run := ⟨r.condition, r.result, entries ++ r.log⟩

mutual

/-- Make one call. -/
def Call.run : Call → Condition → Run
  | .eq column value, c => attach c ⟨Condition.leaf column value, []⟩
  | .group op body, c => attach c (runAll body (.composite op)).built
  | .block body, c => runAll body c
  | .add recipe, c => attach c recipe.build
  | .addSelf, c => attach c ⟨.ok c, []⟩
  | .mark, c => ⟨c, .ok (), [.condition c]⟩
  | .raise e, c => ⟨c, .error e, []⟩

/-- Run a program: its steps in order, up to a failure that is not swallowed. -/
def runAll : List Step → Condition → Run
  | [], c => ⟨c, .ok (), []⟩
  | .propagate call :: rest, c =>
    let r := call.run c
    match r.result with
    | .error e => ⟨r.condition, .error e, r.log⟩
    | .ok () => (runAll rest r.condition).after r.log
  | .swallow call :: rest, c =>
    let r := call.run c
    (runAll rest r.condition).after (r.log ++ [.outcome r.result])

/-- Build a condition elsewhere. -/
def Recipe.build : Recipe → Built
  | .leaf column value => ⟨Condition.leaf column value, []⟩
  | .composite op body => (runAll body (.composite op)).built

end

/-- The runs of successive calls, each on what the one before left; failures end nothing. -/
def runEach : List Call → Condition → List Run
  | [], _ => []
  | call :: rest, c => call.run c :: runEach rest (call.run c).condition

end Scope

end ScopedSelect
