import ScopedSelect.Proofs.Query.Record

/-!
# Reports of built statements

Only a build that succeeds while settings are attached reports anything, and its one report tells of
the statement that was built and of the text that was returned. Attaching, changing or detaching the
settings is seen in reports alone: apart from them, every other call comes to the same. Where the
reports go is not covered.
-/

namespace ScopedSelect

namespace Query

/-- An entry of the log apart from trace settings. -/
def Entry.untraced : Entry → Entry
  | outcome result => outcome result
  | scope entry => scope entry
  | query q => query (q.withTrace none)
  | sql text => sql text

/-- What a call leaves apart from trace settings and reports. -/
def Run.untraced (r : Run) : Run :=
  ⟨r.query.withTrace none, r.result, r.log.map Entry.untraced, []⟩

/-- Whether a call sets something else than the trace settings, or nothing. -/
def Call.setsNoTrace (call : Call) : Bool := call.part? ≠ some .trace

/-- The calls that set no trace settings, each with what it leaves apart from settings and reports. -/
def answers : List Call → Query → List (Call × Run)
  | [], _ => []
  | call :: rest, q =>
    if call.setsNoTrace then (call, (call.run q).untraced) :: answers rest (call.run q).query
    else answers rest (call.run q).query

/-- The report that a call makes on a statement: that of a build with a table and settings. -/
def Call.report? : Call → Query → Option Event
  | build, q => do
    let table ← q.table
    let settings ← q.trace
    return ⟨settings.level, table, q.columns.length, q.condition.isSome, settings.shorten q.toSql⟩
  | _, _ => none

/-- A call reports just that. -/
theorem Call.run_events (call : Call) (q : Query) :
    (call.run q).events = (call.report? q).toList := by
  cases call with
  | select names => simp only [run]; split <;> rfl
  | filter body => simp only [run]; split <;> rfl
  | build =>
    obtain ⟨columns, table, condition, trace⟩ := q
    cases table <;> cases trace <;> rfl
  | _ => rfl

/-- Only a build that succeeds while settings are attached reports anything. -/
theorem Call.eq_build_of_run_events_ne_nil {call : Call} {q : Query} (h : (call.run q).events ≠ []) :
    call = build ∧ (call.run q).result = .ok () ∧ q.trace ≠ none := by
  rw [run_events] at h
  cases call with
  | build =>
    cases htable : q.table with
    | none => simp [report?, htable] at h
    | some table =>
      refine ⟨rfl, by rw [(run_build q).2.2 table htable], fun htrace => ?_⟩
      simp [report?, htable, htrace] at h
  | _ => exact absurd rfl h

/-- Such a build makes one report, of the statement and of the text that it returns. -/
theorem Call.run_build_events {q : Query} {settings : Trace}
    (hok : (build.run q).result = .ok ()) (hsettings : q.trace = some settings) :
    ∃ table sql, q.table = some table ∧ (build.run q).log = [.sql sql] ∧
      (build.run q).events = [⟨settings.level, table, q.columns.length, q.condition.isSome,
        settings.shorten sql⟩] := by
  cases htable : q.table with
  | none =>
    rw [(run_build q).2.1 htable] at hok
    cases hok
  | some table =>
    refine ⟨table, q.toSql, rfl, ?_, ?_⟩
    · rw [(run_build q).2.2 table htable]
    · simp [run_events, report?, htable, hsettings]

/-- A call that sets trace settings succeeds and changes nothing else. -/
theorem Call.run_of_setsTrace {call : Call} (h : call.setsNoTrace = false) (q : Query) :
    ∃ settings, call.run q = .quiet (q.withTrace settings) (.ok ()) := by
  cases call with
  | trace settings => exact ⟨_, rfl⟩
  | traceAt level => exact ⟨_, rfl⟩
  | untrace => exact ⟨_, rfl⟩
  | _ => cases h

/-- Any other call comes to the same on statements that differ in the settings only. -/
theorem Call.run_untraced_eq {call : Call} (h : call.setsNoTrace) {q r : Query}
    (hqr : q.withTrace none = r.withTrace none) : (call.run q).untraced = (call.run r).untraced := by
  obtain ⟨columns, table, condition, trace⟩ := q
  obtain ⟨columns', table', condition', trace'⟩ := r
  obtain ⟨rfl, rfl, rfl, -⟩ := Query.mk.injEq .. ▸ hqr
  cases call with
  | select names =>
    simp only [run, Query.select]
    cases names.isEmpty <;> cases columns.isEmpty <;> rfl
  | filter body => simp only [run]; split <;> rfl
  | build => cases table <;> rfl
  | validate => cases table <;> rfl
  | trace settings => cases h
  | traceAt level => cases h
  | untrace => cases h
  | _ => rfl

/-- Taking out the calls that set trace settings changes no answer, whatever settings there were. -/
theorem answers_filter (calls : List Call) {q r : Query}
    (hqr : q.withTrace none = r.withTrace none) :
    answers (calls.filter Call.setsNoTrace) r = answers calls q := by
  induction calls generalizing q r with
  | nil => rfl
  | cons call calls ih =>
    cases h : call.setsNoTrace with
    | false =>
      obtain ⟨settings, hrun⟩ := Call.run_of_setsTrace h q
      rw [List.filter_cons_of_neg (by simp [h]), answers, h, if_neg Bool.false_ne_true, hrun]
      exact ih hqr
    | true =>
      have hrun := Call.run_untraced_eq h hqr
      rw [List.filter_cons_of_pos h, answers, answers, h, if_pos rfl, if_pos rfl, hrun,
        ih (congrArg Run.query hrun)]

/-- A step ends a program alike on statements that differ in the settings only. -/
theorem Step.failure?_eq {step : Step} (h : step.call.setsNoTrace) {q r : Query}
    (hqr : q.withTrace none = r.withTrace none) : step.failure? q = step.failure? r := by
  cases step with
  | swallow call => rfl
  | propagate call =>
    have hresult := congrArg Run.result (Call.run_untraced_eq h hqr)
    change (call.run q).result = (call.run r).result at hresult
    rw [failure?, failure?, hresult]

/-- Taking out the steps that set trace settings takes just their calls out of the history, and the
program ends as before. -/
theorem executed_filter (steps : List Step) {q r : Query}
    (hqr : q.withTrace none = r.withTrace none) :
    executed (steps.filter fun step => step.call.setsNoTrace) r =
        (executed steps q).filter Call.setsNoTrace ∧
      (runAll (steps.filter fun step => step.call.setsNoTrace) r).result = (runAll steps q).result := by
  induction steps generalizing q r with
  | nil => exact ⟨rfl, rfl⟩
  | cons step rest ih =>
    rw [executed_cons, runAll_result_cons]
    cases h : step.call.setsNoTrace with
    | false =>
      obtain ⟨settings, hrun⟩ := Call.run_of_setsTrace h q
      have hfailure : step.failure? q = none := by
        cases step with
        | swallow call => rfl
        | propagate call => rw [Step.failure?, show call.run q = _ from hrun]; rfl
      rw [List.filter_cons_of_neg (by simp [h]), List.filter_cons_of_neg (by simp [h]), hfailure, hrun]
      exact ih hqr
    | true =>
      have hnext := congrArg Run.query (Call.run_untraced_eq h hqr)
      obtain ⟨hexecuted, hresult⟩ := ih hnext
      rw [List.filter_cons_of_pos h, List.filter_cons_of_pos (by exact h), executed_cons, runAll_result_cons,
        ← Step.failure?_eq h hqr, hresult]
      cases step.failure? q with
      | some e => exact ⟨rfl, rfl⟩
      | none => exact ⟨by rw [hexecuted], rfl⟩

/-- The calls made on a new statement that set no settings are those of a program and of a session
without the ones that do. -/
theorem made_filter (program : List Step) (calls : List Call) :
    (made program calls).filter Call.setsNoTrace =
      made (program.filter fun step => step.call.setsNoTrace) (calls.filter Call.setsNoTrace) := by
  rw [made, made, List.filter_append, (executed_filter program (r := empty) rfl).1]

/-- The calls on a part other than the settings are among those that set no settings. -/
theorem callsOn_filter {part : Part} (hpart : part ≠ .trace) (calls : List Call) :
    callsOn part (calls.filter Call.setsNoTrace) = callsOn part calls := by
  rw [callsOn, callsOn, List.filter_filter]
  apply List.filter_congr
  intro call _
  by_cases h : call.part? = some part
  · simp [Call.setsNoTrace, h, hpart]
  · simp [h]

section

variable {program program' : List Step} {calls calls' : List Call}
  (hprogram : program'.filter (fun step => step.call.setsNoTrace) =
    program.filter fun step => step.call.setsNoTrace)
  (hcalls : calls'.filter Call.setsNoTrace = calls.filter Call.setsNoTrace)
include hprogram

/-- Programs that differ in calls that set trace settings end alike. -/
theorem start_result_eq_of_filter_eq : (start program').result = (start program).result := by
  rw [start, start, ← (executed_filter program' (r := empty) rfl).2, hprogram,
    (executed_filter program (r := empty) rfl).2]

include hcalls

/-- Histories that differ in such calls give the same answers. -/
theorem answers_made_eq_of_filter_eq :
    answers (made program' calls') empty = answers (made program calls) empty := by
  rw [← answers_filter (made program' calls') rfl, made_filter, hprogram, hcalls, ← made_filter,
    answers_filter _ rfl]

/-- They come to the same statement apart from its settings. -/
theorem recorded_made_eq_of_filter_eq :
    (recorded (made program' calls')).withTrace none =
      (recorded (made program calls)).withTrace none := by
  apply recorded_withTrace_eq
  intro part hpart
  rw [← callsOn_filter hpart, made_filter, hprogram, hcalls, ← made_filter, callsOn_filter hpart]

end

/-- The reports of all calls made on a new statement are, in order, one for each build that succeeds
while the settings set last are some, and none for any other call. The report gives the level of the
settings, the table, the number of columns, whether there is a condition, and the text that the build
returned, shortened by the settings. Taking out, adding or changing calls that set the settings leaves
every other call with the same result, the same text and the same statement apart from the settings. -/
theorem one_report_for_each_traced_build (program : List Step) (calls : List Call) :
    let session := Session.runEach ⟨(start program).query, []⟩ (calls.map .call)
    (start program).events ++ session.flatMap Run.events =
        (madeRuns program calls).flatMap Run.events ∧
      (∀ before call after, made program calls = before ++ call :: after →
        let met := recorded before
        ∃ run, (madeRuns program calls)[before.length]? = some run ∧
          (run.events ≠ [] → call = .build ∧ run.result = .ok () ∧ met.trace ≠ none) ∧
          ∀ settings, call = .build → run.result = .ok () → met.trace = some settings →
            ∃ table sql, met.table = some table ∧ run.log = [.sql sql] ∧
              run.events = [⟨settings.level, table, met.columns.length, met.condition.isSome,
                settings.shorten sql⟩]) ∧
      (∀ (program' : List Step) (calls' : List Call),
        program'.filter (fun step => step.call.setsNoTrace) =
            program.filter (fun step => step.call.setsNoTrace) →
          calls'.filter Call.setsNoTrace = calls.filter Call.setsNoTrace →
            answers (made program' calls') empty = answers (made program calls) empty ∧
              (start program').result = (start program).result ∧
              (recorded (made program' calls')).withTrace none =
                (recorded (made program calls)).withTrace none) ∧
      ∀ (call : Call) (q : Query), call.setsNoTrace = false →
        (call.run q).result = .ok () ∧ (call.run q).query.withTrace none = q.withTrace none := by
  intro session
  refine ⟨?_, fun before call after h => ?_, fun program' calls' hprogram hcalls => ?_,
    fun call q h => ?_⟩
  · rw [madeRuns, List.flatMap_append, start, runAll_events_eq]
    rfl
  · have hrun := getElem?_madeRuns h
    rw [afterCalls_empty_eq_recorded] at hrun
    refine ⟨_, hrun, Call.eq_build_of_run_events_ne_nil, fun settings hbuild hok hsettings => ?_⟩
    subst hbuild
    exact Call.run_build_events hok hsettings
  · exact ⟨answers_made_eq_of_filter_eq hprogram hcalls, start_result_eq_of_filter_eq hprogram,
      recorded_made_eq_of_filter_eq hprogram hcalls⟩
  · obtain ⟨settings, hrun⟩ := Call.run_of_setsTrace h q
    rw [hrun]
    exact ⟨rfl, rfl⟩

/-- A build that fails, one that is traced, one after settings of a level took the place of those, and
one after the settings were detached, all in a program that fails in the end: the second and the third
are reported, each at the level that was attached. Without the settings the answers are the same. -/
theorem one_report_for_each_traced_build_of_aborted :
    let program : List Step :=
      [.propagate (.trace ⟨.info, some 10⟩), .swallow .build, .propagate (.select ["a", "b"]),
        .propagate (.fromTable "t"), .propagate .build, .propagate (.traceAt .warn),
        .propagate .build, .propagate .untrace, .propagate .build,
        .propagate (.raise .missingTable), .propagate .build]
    let untraced : List Step :=
      [.swallow .build, .propagate (.select ["a", "b"]), .propagate (.fromTable "t"),
        .propagate .build, .propagate .build, .propagate .build,
        .propagate (.raise .missingTable), .propagate .build]
    (∃ run, (madeRuns program [])[4]? = some run ∧
        run.events = [⟨.info, "t", 2, false, "SELECT a, ..."⟩]) ∧
      (∃ run, (madeRuns program [])[6]? = some run ∧
        run.query.trace = some ⟨.warn, some 200⟩ ∧
        run.events = [⟨.warn, "t", 2, false, "SELECT a, b FROM t;"⟩]) ∧
      answers (made untraced []) empty = answers (made program []) empty ∧
      (start untraced).result = .error .missingTable := by
  intro program untraced
  obtain ⟨-, hcalls, hsame, -⟩ := one_report_for_each_traced_build program []
  refine ⟨?_, ?_, ?_⟩
  · obtain ⟨run, hrun, -, hreport⟩ := hcalls
      [.trace ⟨.info, some 10⟩, .build, .select ["a", "b"], .fromTable "t"] .build
      [.traceAt .warn, .build, .untrace, .build, .raise .missingTable] rfl
    have hbuilt : (madeRuns program [])[4]? =
        some (Call.build.run ⟨["a", "b"], some "t", none, some ⟨.info, some 10⟩⟩) := rfl
    obtain rfl := Option.some.inj (hrun.symm.trans hbuilt)
    obtain ⟨table, sql, htable, hlog, hevents⟩ := hreport ⟨.info, some 10⟩ rfl rfl rfl
    obtain rfl := Option.some.inj htable
    obtain rfl := Entry.sql.inj (List.cons.inj hlog).1
    exact ⟨_, hrun, hevents.trans (by decide +kernel)⟩
  · obtain ⟨run, hrun, -, hreport⟩ := hcalls
      [.trace ⟨.info, some 10⟩, .build, .select ["a", "b"], .fromTable "t", .build, .traceAt .warn]
      .build [.untrace, .build, .raise .missingTable] rfl
    have hbuilt : (madeRuns program [])[6]? =
        some (Call.build.run ⟨["a", "b"], some "t", none, some ⟨.warn, some 200⟩⟩) := rfl
    obtain rfl := Option.some.inj (hrun.symm.trans hbuilt)
    obtain ⟨table, sql, htable, hlog, hevents⟩ := hreport ⟨.warn, some 200⟩ rfl rfl rfl
    obtain rfl := Option.some.inj htable
    obtain rfl := Entry.sql.inj (List.cons.inj hlog).1
    exact ⟨_, hrun, rfl, hevents.trans (by decide +kernel)⟩
  · obtain ⟨hanswers, hresult, -⟩ := hsame untraced [] rfl rfl
    exact ⟨hanswers, hresult⟩

end Query

end ScopedSelect
