import Mathlib.Data.List.Basic
import ScopedSelect.Query.Run

/-!
# Runs as histories of calls

A program on a statement comes to the calls that were made, in order: all of them up to the first
failure that nobody swallowed. What became of the statement depends on that history only, and so do
the reports, so facts about both are proved call by call. A statement that a program has made may
get further calls one by one; `made` is the history of both together. Entries of the log are not
considered.
-/

namespace ScopedSelect

namespace Query

/-- The calls of a program that are made, up to the first failure nobody swallows. -/
def executed : List Step → Query → List Call
  | [], _ => []
  | .propagate call :: rest, q =>
    call ::
      match (call.run q).result with
      | .error _ => []
      | .ok () => executed rest (call.run q).query
  | .swallow call :: rest, q => call :: executed rest (call.run q).query

/-- The statement after some calls, whether they failed or not. -/
def afterCalls (calls : List Call) (q : Query) : Query :=
  calls.foldl (fun q call => (call.run q).query) q

/-- A program leaves the statement as the calls that are made leave it. -/
theorem runAll_query_eq_afterCalls (steps : List Step) (q : Query) :
    (runAll steps q).query = afterCalls (executed steps q) q := by
  induction steps generalizing q with
  | nil => rfl
  | cons step rest ih =>
    cases step with
    | swallow call =>
      change (runAll rest (call.run q).query).query = _
      rw [ih]
      rfl
    | propagate call =>
      rw [runAll, executed, afterCalls, List.foldl_cons]
      cases (call.run q).result with
      | error e => rfl
      | ok u => exact ih (call.run q).query

/-- The call that a step makes. -/
def Step.call : Step → Call
  | propagate call => call
  | swallow call => call

/-- The failure of a step on a statement, if it ends the program. -/
def Step.failure? : Step → Query → Option QueryError
  | propagate call, q =>
    match (call.run q).result with
    | .error e => some e
    | .ok () => none
  | swallow _, _ => none

/-- The first call is always made; the others follow unless its failure ends the program. -/
theorem executed_cons (step : Step) (rest : List Step) (q : Query) :
    executed (step :: rest) q =
      step.call ::
        match step.failure? q with
        | some _ => []
        | none => executed rest (step.call.run q).query := by
  cases step with
  | swallow call => rfl
  | propagate call =>
    simp only [executed, Step.failure?, Step.call]
    cases (call.run q).result <;> rfl

/-- A program ends with the failure of its first step, or as the other steps do. -/
theorem runAll_result_cons (step : Step) (rest : List Step) (q : Query) :
    (runAll (step :: rest) q).result =
      match step.failure? q with
      | some e => .error e
      | none => (runAll rest (step.call.run q).query).result := by
  cases step with
  | swallow call => rfl
  | propagate call =>
    simp only [runAll, Step.failure?, Step.call]
    cases (call.run q).result <;> rfl

/-- The runs of successive calls, each on what the one before left; failures end nothing. -/
def runEach : List Call → Query → List Run
  | [], _ => []
  | call :: rest, q => call.run q :: runEach rest (call.run q).query

/-- There is one run for each call. -/
theorem length_runEach (calls : List Call) (q : Query) : (runEach calls q).length = calls.length := by
  induction calls generalizing q with
  | nil => rfl
  | cons call calls ih => simp [runEach, ih]

/-- Later calls are made on what the earlier ones left. -/
theorem runEach_append (before after : List Call) (q : Query) :
    runEach (before ++ after) q = runEach before q ++ runEach after (afterCalls before q) := by
  induction before generalizing q with
  | nil => rfl
  | cons call before ih => exact congrArg (call.run q :: ·) (ih (call.run q).query)

/-- A program reports what the calls that are made report, in order. -/
theorem runAll_events_eq (steps : List Step) (q : Query) :
    (runAll steps q).events = (runEach (executed steps q) q).flatMap Run.events := by
  induction steps generalizing q with
  | nil => rfl
  | cons step rest ih =>
    cases step with
    | swallow call =>
      change (call.run q).events ++ (runAll rest (call.run q).query).events = _
      rw [ih, executed, runEach, List.flatMap_cons]
    | propagate call =>
      rw [runAll, executed, runEach, List.flatMap_cons]
      cases (call.run q).result with
      | error e => exact (List.append_nil _).symm
      | ok u => exact congrArg ((call.run q).events ++ ·) (ih (call.run q).query)

/-- A session of calls only makes them one after the other. -/
theorem session_runEach_call (calls : List Call) (q : Query) (kept : List (String × Query)) :
    Session.runEach ⟨q, kept⟩ (calls.map .call) = runEach calls q := by
  induction calls generalizing q with
  | nil => rfl
  | cons call calls ih => exact congrArg (call.run q :: ·) (ih (call.run q).query)

/-- The calls made on a new statement: those of a program, and then single ones. -/
def made (program : List Step) (calls : List Call) : List Call := executed program empty ++ calls

/-- What the calls of a program leave, and after them the calls of a session on its statement. -/
def madeRuns (program : List Step) (calls : List Call) : List Run :=
  runEach (executed program empty) empty ++
    Session.runEach ⟨(start program).query, []⟩ (calls.map .call)

/-- All calls made on a new statement are made one after the other. -/
theorem madeRuns_eq (program : List Step) (calls : List Call) :
    madeRuns program calls = runEach (made program calls) empty := by
  rw [madeRuns, made, runEach_append, session_runEach_call, start, runAll_query_eq_afterCalls]

/-- Each call made on a new statement is made on what the calls before it have left. -/
theorem getElem?_madeRuns {program : List Step} {calls before after : List Call} {call : Call}
    (h : made program calls = before ++ call :: after) :
    (madeRuns program calls)[before.length]? = some (call.run (afterCalls before empty)) := by
  rw [madeRuns_eq, h, runEach_append, ← length_runEach before empty, List.getElem?_append_right
    (Nat.le_refl _), Nat.sub_self]
  rfl

/-- What every call keeps is kept by any calls. -/
theorem afterCalls_invariant {P : Query → Prop}
    (hcall : ∀ (call : Call) (q : Query), P q → P (call.run q).query) (calls : List Call) {q : Query}
    (hq : P q) : P (afterCalls calls q) := by
  induction calls generalizing q with
  | nil => exact hq
  | cons call calls ih => exact ih (hcall call q hq)

/-- A selection leaves the statement alone or fixes the columns by the names that are not empty. -/
theorem Call.run_select (names : List String) (q : Query) :
    ((select names).run q).query = q ∨
      ((select names).run q).query = { q with columns := names.filter fun name => !name.isEmpty } := by
  simp only [run, Query.select]
  cases names.isEmpty with
  | true => exact .inl rfl
  | false =>
    cases q.columns.isEmpty with
    | true => exact .inr rfl
    | false => exact .inl rfl

/-- The condition that a call sets. -/
def Call.filtered? : Call → Option Condition
  | filter body =>
    match (Scope.runAll body (.composite .and)).result with
    | .ok () => some (Scope.runAll body (.composite .and)).condition
    | .error _ => none
  | _ => none

/-- A call sets no condition exactly when it is no filter whose program succeeds. -/
theorem Call.filtered?_eq_none_iff (call : Call) :
    call.filtered? = none ↔
      ∀ body, call = filter body → (Scope.runAll body (.composite .and)).result ≠ .ok () := by
  cases call with
  | filter body => cases h : (Scope.runAll body (.composite .and)).result <;> simp [filtered?, h]
  | _ => simp [filtered?]

/-- A call replaces the condition by the one it sets, and keeps it otherwise. -/
theorem Call.run_condition (call : Call) (q : Query) :
    (call.run q).query.condition = call.filtered?.or q.condition := by
  cases call with
  | filter body =>
    simp only [run, filtered?]
    cases (Scope.runAll body (.composite .and)).result <;> rfl
  | select names => rcases run_select names q with h | h <;> rw [h] <;> rfl
  | build => simp only [run]; split <;> rfl
  | _ => rfl

/-- What each call sets or keeps is as the last call that set it has left it, or as it was before
all calls if none did. -/
theorem afterCalls_eq_last {α : Type} (field : Query → Option α) {set? : Call → Option α}
    (hcall : ∀ (call : Call) (q : Query), field (call.run q).query = (set? call).or (field q))
    (calls : List Call) (q : Query) :
    field (afterCalls calls q) = (calls.filterMap set?).getLast?.or (field q) := by
  induction calls generalizing q with
  | nil => rfl
  | cons call calls ih =>
    change field (afterCalls calls (call.run q).query) = _
    rw [ih, hcall]
    cases h : set? call with
    | none => rw [List.filterMap_cons_none h, Option.none_or]
    | some c =>
      rw [List.filterMap_cons_some h, List.getLast?_cons]
      cases (calls.filterMap set?).getLast? <;> rfl

/-- The condition is the one set last, or the one before all calls if none was set. -/
theorem afterCalls_condition (calls : List Call) (q : Query) :
    (afterCalls calls q).condition = (calls.filterMap Call.filtered?).getLast?.or q.condition :=
  afterCalls_eq_last Query.condition Call.run_condition calls q

/-- A call adds no empty name to the columns. -/
theorem Call.run_columns_ne_empty (call : Call) (q : Query) (hq : ∀ name ∈ q.columns, name ≠ "") :
    ∀ name ∈ (call.run q).query.columns, name ≠ "" := by
  cases call with
  | select names =>
    rcases run_select names q with h | h
    · rwa [h]
    · rw [h]
      intro name hname
      simpa using (List.mem_filter.mp hname).2
  | filter body =>
    simp only [run]
    split <;> exact hq
  | build => simp only [run]; split <;> exact hq
  | _ => exact hq

/-- A new statement gets no empty name as a column. -/
theorem start_columns_ne_empty (program : List Step) :
    ∀ name ∈ (start program).query.columns, name ≠ "" := by
  rw [start, runAll_query_eq_afterCalls]
  exact afterCalls_invariant Call.run_columns_ne_empty _ (by simp [empty])

/-- A new statement has no condition exactly when no filter that was run has succeeded. -/
theorem start_condition_eq_none_iff (program : List Step) :
    (start program).query.condition = none ↔
      ∀ body, .filter body ∈ executed program empty →
        (Scope.runAll body (.composite .and)).result ≠ .ok () := by
  have hset : (start program).query.condition =
      ((executed program empty).filterMap Call.filtered?).getLast? := by
    rw [start, runAll_query_eq_afterCalls, afterCalls_condition]
    exact Option.or_none
  rw [hset, List.getLast?_eq_none_iff, List.filterMap_eq_nil_iff]
  constructor
  · intro h body hbody
    exact (Call.filtered?_eq_none_iff _).mp (h _ hbody) body rfl
  · intro h call hcall
    refine (Call.filtered?_eq_none_iff call).mpr fun body hbody => ?_
    rw [hbody] at hcall
    exact h body hcall

end Query

end ScopedSelect
