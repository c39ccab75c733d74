import ScopedSelect.Proofs.Query.History

/-!
# The statement that a history comes to

Each part of a statement follows a rule of its own when calls are repeated: the columns are those of
the first selection that offers a name, the table and the trace settings are those set last, and the
condition is the one built by the last filter that succeeded. `recorded` reads the four off a
history without running it, and the calls of a run meet exactly that statement, whatever else is
called in between. So histories with the same calls on each part come to the same statement.
-/

namespace ScopedSelect

namespace Query

/-- The parts of a statement that calls set. -/
inductive Part where
  | columns
  | table
  | condition
  | trace
deriving DecidableEq

/-- The part that a call sets, whether or not it succeeds. -/
def Call.part? : Call → Option Part
  | select _ => some .columns
  | fromTable _ => some .table
  | filter _ => some .condition
  | trace _ => some .trace
  | traceAt _ => some .trace
  | untrace => some .trace
  | validate => none
  | build => none
  | mark => none
  | raise _ => none

/-- The calls of a history that set the given part, in order. -/
def callsOn (part : Part) (calls : List Call) : List Call :=
  calls.filter fun call => call.part? = some part

/-- The names that a selection offers, apart from empty ones. -/
def Call.offered? : Call → Option (List String)
  | select names => some (names.filter fun name => !name.isEmpty)
  | _ => none

/-- The table that a call sets. -/
def Call.table? : Call → Option String
  | fromTable table => some table
  | _ => none

/-- The settings that a call attaches, or their absence if it detaches them. A level without a limit
stands for a limit of 200 bytes. -/
def Call.settings? : Call → Option (Option Trace)
  | trace settings => some (some settings)
  | traceAt level => some (some ⟨level, some 200⟩)
  | untrace => some none
  | _ => none

/-- The statement that a history comes to, each part by its own rule. -/
def recorded (calls : List Call) : Query where
  columns := ((calls.filterMap Call.offered?).find? fun names => !names.isEmpty).getD []
  table := (calls.filterMap Call.table?).getLast?
  condition := (calls.filterMap Call.filtered?).getLast?
  trace := (calls.filterMap Call.settings?).getLast?.join

/-- A call replaces the table by the one it sets, and keeps it otherwise. -/
theorem Call.run_table (call : Call) (q : Query) :
    (call.run q).query.table = call.table?.or q.table := by
  cases call with
  | select names => rcases run_select names q with h | h <;> rw [h] <;> rfl
  | filter body => simp only [run]; split <;> rfl
  | build => simp only [run]; split <;> rfl
  | _ => rfl

/-- A call replaces the settings by the ones it attaches, and keeps them otherwise. -/
theorem Call.run_trace (call : Call) (q : Query) :
    some (call.run q).query.trace = call.settings?.or (some q.trace) := by
  cases call with
  | select names => rcases run_select names q with h | h <;> rw [h] <;> rfl
  | filter body => simp only [run]; split <;> rfl
  | build => simp only [run]; split <;> rfl
  | _ => rfl

/-- A call fixes the columns by the names it offers as long as there are none. -/
theorem Call.run_columns (call : Call) (q : Query) :
    (call.run q).query.columns =
      if q.columns.isEmpty then call.offered?.getD [] else q.columns := by
  have hkept (columns : List String) : columns = if columns.isEmpty then [] else columns := by
    cases columns <;> rfl
  cases call with
  | select names =>
    cases names with
    | nil => exact hkept q.columns
    | cons name names =>
      simp only [run, Query.select, List.isEmpty_cons, Bool.false_eq_true, if_false]
      cases q.columns.isEmpty <;> rfl
  | filter body => simp only [run]; split <;> exact hkept q.columns
  | build => simp only [run]; split <;> exact hkept q.columns
  | _ => exact hkept q.columns

/-- The columns are those offered by the first call that offers any, once there are none before. -/
theorem afterCalls_columns (calls : List Call) (q : Query) :
    (afterCalls calls q).columns =
      if q.columns.isEmpty then
        ((calls.filterMap Call.offered?).find? fun names => !names.isEmpty).getD []
      else q.columns := by
  induction calls generalizing q with
  | nil => cases h : q.columns <;> simp [afterCalls, h]
  | cons call calls ih =>
    change (afterCalls calls (call.run q).query).columns = _
    rw [ih, Call.run_columns]
    cases hcolumns : q.columns with
    | cons name names => rfl
    | nil =>
      cases hoffered : call.offered? with
      | none => rw [List.filterMap_cons_none hoffered]; rfl
      | some names =>
        rw [List.filterMap_cons_some hoffered]
        cases names <;> rfl

/-- The calls of a history leave a new statement as the history records it. -/
theorem afterCalls_empty_eq_recorded (calls : List Call) : afterCalls calls empty = recorded calls := by
  have hcolumns := afterCalls_columns calls empty
  have htable := afterCalls_eq_last Query.table Call.run_table calls empty
  have hcondition := afterCalls_condition calls empty
  have htrace := afterCalls_eq_last (fun q => some q.trace) Call.run_trace calls empty
  cases h : afterCalls calls empty with
  | mk columns table condition trace =>
    rw [h] at hcolumns htable hcondition htrace
    rw [recorded, Query.mk.injEq]
    refine ⟨hcolumns, htable.trans Option.or_none, hcondition.trans Option.or_none, ?_⟩
    cases hlast : (calls.filterMap Call.settings?).getLast? with
    | none => rw [hlast] at htrace; exact Option.some.inj htrace
    | some settings => rw [hlast] at htrace; exact Option.some.inj htrace

/-- What is read off the calls on a part does not depend on the other calls. -/
theorem filterMap_callsOn {α : Type} {part : Part} {read : Call → Option α}
    (hread : ∀ call, call.part? ≠ some part → read call = none) (calls : List Call) :
    (callsOn part calls).filterMap read = calls.filterMap read := by
  rw [callsOn, List.filterMap_filter]
  apply List.filterMap_congr
  intro call _
  by_cases h : call.part? = some part
  · simp [h]
  · simp [h, hread call h]

/-- Histories with the same calls on all parts but the settings differ in the settings only. -/
theorem recorded_withTrace_eq {calls others : List Call}
    (h : ∀ part ≠ .trace, callsOn part calls = callsOn part others) :
    (recorded calls).withTrace none = (recorded others).withTrace none := by
  have hread {α : Type} (part : Part) (hpart : part ≠ .trace) {read : Call → Option α}
      (hread : ∀ call, call.part? ≠ some part → read call = none) :
      calls.filterMap read = others.filterMap read := by
    rw [← filterMap_callsOn hread calls, h part hpart, filterMap_callsOn hread others]
  have hoffered : calls.filterMap Call.offered? = others.filterMap Call.offered? :=
    hread .columns (by decide) fun call hcall => by
      cases call with
      | select names => exact absurd rfl hcall
      | _ => rfl
  have htable : calls.filterMap Call.table? = others.filterMap Call.table? :=
    hread .table (by decide) fun call hcall => by
      cases call with
      | fromTable table => exact absurd rfl hcall
      | _ => rfl
  have hfiltered : calls.filterMap Call.filtered? = others.filterMap Call.filtered? :=
    hread .condition (by decide) fun call hcall => by
      cases call with
      | filter body => exact absurd rfl hcall
      | _ => rfl
  simp only [recorded, withTrace, hoffered, htable, hfiltered]

/-- Histories with the same calls on every part come to the same statement. -/
theorem recorded_eq {calls others : List Call}
    (h : ∀ part, callsOn part calls = callsOn part others) : recorded calls = recorded others := by
  have hrest := recorded_withTrace_eq fun part _ => h part
  have hnone (call : Call) (hcall : call.part? ≠ some .trace) : call.settings? = none := by
    cases call with
    | trace settings => exact absurd rfl hcall
    | traceAt level => exact absurd rfl hcall
    | untrace => exact absurd rfl hcall
    | _ => rfl
  have hsettings : calls.filterMap Call.settings? = others.filterMap Call.settings? := by
    rw [← filterMap_callsOn hnone calls, h .trace, filterMap_callsOn hnone others]
  simp only [withTrace, recorded, Query.mk.injEq] at hrest ⊢
  exact ⟨hrest.1, hrest.2.1, hrest.2.2.1, by rw [hsettings]⟩

/-- The text of a statement does not depend on its settings. -/
theorem toSql_eq_of_withTrace_eq {q r : Query} (h : q.withTrace none = r.withTrace none) :
    q.toSql = r.toSql := by
  have htext (p : Query) : (p.withTrace none).toSql = p.toSql := rfl
  rw [← htext q, h, htext r]

/-- A statement has a table exactly when a call has set one. -/
theorem recorded_table_eq_none_iff (calls : List Call) :
    (recorded calls).table = none ↔ ∀ table, .fromTable table ∉ calls := by
  rw [recorded, List.getLast?_eq_none_iff, List.filterMap_eq_nil_iff]
  constructor
  · intro h table hmem
    exact Option.some_ne_none table (h _ hmem)
  · intro h call hcall
    cases call with
    | fromTable table => exact absurd hcall (h table)
    | _ => rfl

/-- Building leaves the statement as it is. It fails without a table, and notes the text otherwise. -/
theorem Call.run_build (q : Query) :
    (build.run q).query = q ∧
      (q.table = none → build.run q = .quiet q (.error .missingTable)) ∧
      ∀ table, q.table = some table →
        build.run q = ⟨q, .ok (), [.sql q.toSql], (q.trace.map fun t => q.report t q.toSql).toList⟩ := by
  obtain ⟨columns, table, condition, trace⟩ := q
  cases table with
  | none => exact ⟨rfl, fun _ => rfl, (nomatch ·, ·)⟩
  | some table => exact ⟨rfl, (nomatch ·), fun _ _ => rfl⟩

/-- Building what a history comes to changes nothing, fails just when no call has set a table, and
notes the text otherwise. -/
theorem Call.run_build_recorded (calls : List Call) :
    (build.run (recorded calls)).query = recorded calls ∧
      ((build.run (recorded calls)).result = .error .missingTable ↔
        ∀ table, .fromTable table ∉ calls) ∧
      ((∃ table, .fromTable table ∈ calls) →
        (build.run (recorded calls)).result = .ok () ∧
          (build.run (recorded calls)).log = [.sql (recorded calls).toSql]) := by
  obtain ⟨hkept, hmissing, hbuilt⟩ := run_build (recorded calls)
  cases htable : (recorded calls).table with
  | none =>
    have hnone := (recorded_table_eq_none_iff calls).mp htable
    rw [hmissing htable]
    exact ⟨rfl, iff_of_true rfl hnone, fun h => h.elim fun table hmem => absurd hmem (hnone table)⟩
  | some table =>
    rw [hbuilt table htable]
    refine ⟨rfl, iff_of_false (by simp) fun hnone => ?_, fun _ => ⟨rfl, rfl⟩⟩
    rw [(recorded_table_eq_none_iff calls).mpr hnone] at htable
    cases htable

/-- Every call on a new statement meets the statement that the calls before it come to and leaves the
one that they come to together with it. Building changes nothing; it fails if and only if no call has
set a table, and yields the text of the statement otherwise. Histories with the same calls on the
columns, on the table and on the condition come to the same text and differ at most in the settings,
and with the same calls on these they come to the same statement. -/
theorem each_call_meets_recorded (program : List Step) (calls : List Call) :
    (start program).query = recorded (executed program empty) ∧
      (∀ before call after, made program calls = before ++ call :: after →
        let run := call.run (recorded before)
        (madeRuns program calls)[before.length]? = some run ∧
          run.query = recorded (before ++ [call]) ∧
          (call = .build →
            run.query = recorded before ∧
              (run.result = .error .missingTable ↔ ∀ table, .fromTable table ∉ before) ∧
              ((∃ table, .fromTable table ∈ before) →
                run.result = .ok () ∧ run.log = [.sql (recorded before).toSql]))) ∧
      ∀ (program' : List Step) (calls' : List Call),
        let here := recorded (made program calls)
        let there := recorded (made program' calls')
        (∀ part ≠ .trace, callsOn part (made program calls) = callsOn part (made program' calls')) →
          (here.columns = there.columns ∧ here.table = there.table ∧
            here.condition = there.condition ∧ here.toSql = there.toSql) ∧
          (callsOn .trace (made program calls) = callsOn .trace (made program' calls') →
            here = there) := by
  refine ⟨?_, fun before call after h => ⟨?_, ?_, ?_⟩, ?_⟩
  · rw [start, runAll_query_eq_afterCalls, afterCalls_empty_eq_recorded]
  · rw [getElem?_madeRuns h, afterCalls_empty_eq_recorded]
  · rw [← afterCalls_empty_eq_recorded, ← afterCalls_empty_eq_recorded, afterCalls, afterCalls,
      List.foldl_append]
    rfl
  · rintro rfl
    exact Call.run_build_recorded before
  · intro program' calls' here there h
    have hrest := recorded_withTrace_eq h
    refine ⟨?_, fun htrace => recorded_eq fun part => ?_⟩
    · have hparts := Query.mk.injEq .. ▸ hrest
      exact ⟨hparts.1, hparts.2.1, hparts.2.2.1, toSql_eq_of_withTrace_eq hrest⟩
    · by_cases hpart : part = .trace
      · rw [hpart, htrace]
      · exact h part hpart

/-- Selections without a name before the one that counts, a second one that fails, two tables, and a
filter that fails after one that does not: the last build gives the text of what was recorded and keeps
the settings of the level, and a history in which the same calls are made in another order and nothing
is traced comes to the same text. -/
theorem each_call_meets_recorded_of_interleaved :
    let failing : Call := .filter [.propagate (.eq "z" .unit), .propagate (.raise .missingTable)]
    let filter : Call := .filter [.propagate (.group .or [.propagate (.eq "x" .unit)])]
    let program : List Step :=
      [.swallow (.select []), .propagate (.select ["", ""]), .propagate (.fromTable "t"),
        .propagate filter, .propagate (.select ["", "a", "b"]), .propagate (.traceAt .info),
        .swallow (.select ["c"]), .swallow failing]
    let before := made program [.fromTable "u"]
    let program' : List Step :=
      [.propagate (.fromTable "t"), .swallow (.select []), .propagate (.select ["", ""]),
        .propagate filter, .propagate (.fromTable "u"), .swallow failing,
        .propagate (.select ["", "a", "b"]), .swallow (.select ["c"])]
    made program [.fromTable "u", .build] = before ++ [.build] ∧
      (Call.build.run (recorded before)).result = .ok () ∧
      (Call.build.run (recorded before)).log = [.sql "SELECT a, b FROM u WHERE x is null;"] ∧
      (Call.build.run (recorded before)).query.trace = some ⟨.info, some 200⟩ ∧
      (start program).query.trace = some ⟨.info, some 200⟩ ∧
      (recorded (made program' [])).toSql = "SELECT a, b FROM u WHERE x is null;" := by
  intro failing filter program before program'
  have hmade : made program [.fromTable "u", .build] = before ++ [.build] := rfl
  have htext : (recorded before).toSql = "SELECT a, b FROM u WHERE x is null;" := by
    rw [toSql_eq]
    decide +kernel
  obtain ⟨hstart, hcalls, -⟩ := each_call_meets_recorded program [.fromTable "u", .build]
  obtain ⟨-, -, hbuild⟩ := hcalls before .build [] hmade
  have htable : ∃ table, .fromTable table ∈ before :=
    ⟨"u", List.mem_append_right _ (List.mem_singleton.mpr rfl)⟩
  obtain ⟨hkept, -, hbuilt⟩ := hbuild rfl
  obtain ⟨hresult, hlog⟩ := hbuilt htable
  obtain ⟨-, -, hother⟩ := each_call_meets_recorded program [.fromTable "u"]
  have hsame : ∀ part ≠ .trace, callsOn part before = callsOn part (made program' []) := by
    intro part hpart
    cases part with
    | trace => exact absurd rfl hpart
    | _ => rfl
  exact ⟨hmade, hresult, by rw [hlog, htext], by rw [hkept]; rfl, by rw [hstart]; rfl,
    by rw [← (hother program' [] hsame).1.2.2.2, htext]⟩

end Query

end ScopedSelect
