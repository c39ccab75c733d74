import ScopedSelect.Condition.Scope
import ScopedSelect.Proofs.Condition.Tree

/-!
# What a scope program does, call by call

A program is run by handing a condition from call to call. Here the same program is described by
its trail: the calls of its own level that are made, each with the nodes it adds and how it ends.
The trail stops at the first failure that nobody swallows. The nodes of the trail, in order, are
what the program adds, and that failure is its error; the trail of a nested program decides in the
same way what becomes of its group. Nothing is said of the log.
-/

namespace ScopedSelect

/-- The condition with further children at the end; a test stays as it is. -/
def Condition.extend : Condition → List Condition → Condition
  | .eq column value, _ => .eq column value
  | .group op cs, nodes => .group op (cs ++ nodes)

/-- Without further children the condition stays as it is. -/
@[simp] theorem Condition.extend_nil (c : Condition) : c.extend [] = c := by
  cases c with
  | eq column value => rfl
  | group op cs => rw [extend, List.append_nil]

/-- Children added in two portions are children added at once. -/
@[simp] theorem Condition.extend_extend (c : Condition) (nodes more : List Condition) :
    (c.extend nodes).extend more = c.extend (nodes ++ more) := by
  cases c with
  | eq column value => rfl
  | group op cs => simp only [extend, List.append_assoc]

namespace Scope

/-- The call that a step makes. -/
def Step.call : Step → Call
  | propagate call => call
  | swallow call => call

/-- A call that was made: its step, the nodes it added, and how it ended. -/
structure Attempt where
  step : Step
  nodes : List Condition
  result : Except QueryError Unit

/-- The failure of the call, if it ends the program. -/
def Attempt.failure? (a : Attempt) : Option QueryError :=
  match a.step, a.result with
  | .propagate _, .error e => some e
  | _, _ => none

/-- All nodes that were added, in order. -/
def nodesOf (trail : List Attempt) : List Condition := trail.flatMap Attempt.nodes

/-- How a program with the given trail ends: with the first failure that ends it. -/
def verdict (trail : List Attempt) : Except QueryError Unit :=
  match trail.findSome? Attempt.failure? with
  | some e => .error e
  | none => .ok ()

/-- The group filled by a program with the given trail, if the program does not fail. -/
def filled (op : LogicalOp) (trail : List Attempt) : Except QueryError Condition :=
  match verdict trail with
  | .ok () => .ok (.group op (nodesOf trail))
  | .error e => .error e

/-- What becomes of a node offered to a scope. The scope is asked only when there is a node. -/
def offer (scope : Condition) : Except QueryError Condition → List Condition × Except QueryError Unit
  | .error e => ([], .error e)
  | .ok node => if scope.isLeaf then ([], .error .nestedConditionOnLeaf) else ([node], .ok ())

mutual

/-- The nodes that a call adds to its scope, and how it ends. -/
def Call.outcome : Call → Condition → List Condition × Except QueryError Unit
  | .eq column value, scope => offer scope (Condition.leaf column value)
  | .group op body, scope => offer scope (filled op (trail body (.composite op)))
  | .block body, scope => (nodesOf (trail body scope), verdict (trail body scope))
  | .add recipe, scope => offer scope recipe.outcome
  | .addSelf, scope => offer scope (.ok scope)
  | .mark, _ => ([], .ok ())
  | .raise e, _ => ([], .error e)

/-- The condition that a recipe describes, or why there is none. -/
def Recipe.outcome : Recipe → Except QueryError Condition
  | .leaf column value => Condition.leaf column value
  | .composite op body => filled op (trail body (.composite op))

/-- The calls of a program's own level that are made, up to the first failure nobody swallows. -/
def trail : List Step → Condition → List Attempt
  | [], _ => []
  | .propagate call :: rest, scope =>
    match call.outcome scope with
    | (nodes, .error e) => [⟨.propagate call, nodes, .error e⟩]
    | (nodes, .ok ()) => ⟨.propagate call, nodes, .ok ()⟩ :: trail rest (scope.extend nodes)
  | .swallow call :: rest, scope =>
    let nodes := (call.outcome scope).1
    ⟨.swallow call, nodes, (call.outcome scope).2⟩ :: trail rest (scope.extend nodes)

end

/-- The first attempt decides unless it lets the program go on. -/
theorem verdict_cons (a : Attempt) (rest : List Attempt) :
    verdict (a :: rest) =
      match a.failure? with
      | some e => .error e
      | none => verdict rest := by
  cases h : a.failure? <;> simp [verdict, h]

/-- Attaching what was built does to the scope what offering it does. -/
theorem attach_eq_offer (scope : Condition) (built : Built) :
    (attach scope built).condition = scope.extend (offer scope built.result).1 ∧
      (attach scope built).result = (offer scope built.result).2 := by
  obtain ⟨result, log⟩ := built
  cases result with
  | error e => exact ⟨(scope.extend_nil).symm, rfl⟩
  | ok node => cases scope with
    | eq column value => exact ⟨rfl, rfl⟩
    | group op cs => exact ⟨rfl, rfl⟩

/-- A run on a fresh group builds what its trail fills. -/
theorem built_eq_filled {op : LogicalOp} {run : Run} {made : List Attempt}
    (hcondition : run.condition = (Condition.composite op).extend (nodesOf made))
    (hresult : run.result = verdict made) : run.built.result = filled op made := by
  obtain ⟨condition, result, log⟩ := run
  obtain rfl : condition = .group op (nodesOf made) := hcondition
  obtain rfl : result = verdict made := hresult
  unfold Run.built filled
  cases verdict made <;> rfl

mutual

/-- A call adds the nodes of its outcome and ends as its outcome says. -/
theorem Call.run_eq_outcome (call : Call) (scope : Condition) :
    (call.run scope).condition = scope.extend (call.outcome scope).1 ∧
      (call.run scope).result = (call.outcome scope).2 := by
  match call with
  | .eq column value => exact attach_eq_offer scope ⟨Condition.leaf column value, []⟩
  | .group op body =>
    obtain ⟨hcondition, hresult⟩ := runAll_eq_nodes_verdict body (.composite op)
    rw [Call.run, Call.outcome, ← built_eq_filled hcondition hresult]
    exact attach_eq_offer scope _
  | .block body => exact runAll_eq_nodes_verdict body scope
  | .add recipe =>
    rw [Call.run, Call.outcome, ← recipe.build_eq_outcome]
    exact attach_eq_offer scope _
  | .addSelf => exact attach_eq_offer scope ⟨.ok scope, []⟩
  | .mark => exact ⟨(scope.extend_nil).symm, rfl⟩
  | .raise e => exact ⟨(scope.extend_nil).symm, rfl⟩

/-- A recipe builds what it describes. -/
theorem Recipe.build_eq_outcome (recipe : Recipe) : recipe.build.result = recipe.outcome := by
  match recipe with
  | .leaf column value => rfl
  | .composite op body =>
    obtain ⟨hcondition, hresult⟩ := runAll_eq_nodes_verdict body (.composite op)
    exact built_eq_filled hcondition hresult

/-- A program adds the nodes of its trail and ends as the trail decides. -/
theorem runAll_eq_nodes_verdict (steps : List Step) (scope : Condition) :
    (runAll steps scope).condition = scope.extend (nodesOf (trail steps scope)) ∧
      (runAll steps scope).result = verdict (trail steps scope) := by
  match steps with
  | [] => exact ⟨(scope.extend_nil).symm, rfl⟩
  | .propagate call :: rest =>
    obtain ⟨hcondition, hresult⟩ := call.run_eq_outcome scope
    cases houtcome : call.outcome scope with
    | mk nodes result =>
      rw [houtcome] at hcondition hresult
      cases result with
      | error e =>
        simp only [runAll, trail, houtcome, hresult]
        exact ⟨by simpa [nodesOf] using hcondition, rfl⟩
      | ok u =>
        obtain ⟨hrest, hverdict⟩ := runAll_eq_nodes_verdict rest (scope.extend nodes)
        simp only [runAll, trail, houtcome, hresult, hcondition, Run.after]
        exact ⟨by simpa [nodesOf] using hrest, by rw [hverdict, verdict_cons]; rfl⟩
  | .swallow call :: rest =>
    obtain ⟨hcondition, hresult⟩ := call.run_eq_outcome scope
    obtain ⟨hrest, hverdict⟩ :=
      runAll_eq_nodes_verdict rest (scope.extend (call.outcome scope).1)
    simp only [runAll, trail, hcondition, Run.after]
    exact ⟨by simpa [nodesOf] using hrest, by rw [hverdict, verdict_cons]; rfl⟩

end

/-- What a step comes to in a scope. -/
def attempt (step : Step) (scope : Condition) : Attempt :=
  ⟨step, (step.call.outcome scope).1, (step.call.outcome scope).2⟩

/-- The first step is always attempted; the others follow unless its failure ends the program. -/
theorem trail_cons (step : Step) (rest : List Step) (scope : Condition) :
    trail (step :: rest) scope =
      attempt step scope :: if (attempt step scope).failure? = none then
        trail rest (scope.extend (attempt step scope).nodes) else [] := by
  cases step with
  | swallow call => simp only [trail, attempt, Step.call, Attempt.failure?, if_pos]
  | propagate call =>
    cases houtcome : call.outcome scope with
    | mk nodes result =>
      cases result <;> simp [trail, attempt, Step.call, Attempt.failure?, houtcome]

/-- The calls that are made are the first calls of the program, in order. -/
theorem map_step_trail_prefix (steps : List Step) (scope : Condition) :
    (trail steps scope).map Attempt.step <+: steps := by
  induction steps generalizing scope with
  | nil => exact List.prefix_rfl
  | cons step rest ih =>
    rw [trail_cons, List.map_cons]
    apply (List.prefix_cons_inj step).mpr
    split
    · exact ih _
    · exact List.nil_prefix

/-- If no failure ends the program, all its calls are made. -/
theorem map_step_trail_eq {steps : List Step} {scope : Condition}
    (h : ∀ a ∈ trail steps scope, a.failure? = none) :
    (trail steps scope).map Attempt.step = steps := by
  induction steps generalizing scope with
  | nil => rfl
  | cons step rest ih =>
    rw [trail_cons] at h ⊢
    have hstep : (attempt step scope).failure? = none := h _ List.mem_cons_self
    rw [if_pos hstep] at h ⊢
    rw [List.map_cons, ih fun a ha => h a (List.mem_cons_of_mem _ ha)]
    rfl

/-- Each attempt is what its step comes to in the scope that the attempts before it have left, and
no failure of an attempt ends the program unless it is the last. -/
theorem eq_attempt_of_trail_eq {steps : List Step} {scope : Condition} {before after : List Attempt}
    {a : Attempt} (h : trail steps scope = before ++ a :: after) :
    a = attempt a.step (scope.extend (nodesOf before)) ∧ (after ≠ [] → a.failure? = none) := by
  induction steps generalizing scope before with
  | nil => simp [trail] at h
  | cons step rest ih =>
    rw [trail_cons] at h
    cases before with
    | nil =>
      obtain ⟨rfl, rfl⟩ := List.cons_eq_cons.mp h
      refine ⟨by simp [attempt, nodesOf], fun hafter => ?_⟩
      by_contra hfailure
      exact hafter (if_neg hfailure)
    | cons b before =>
      obtain ⟨rfl, htail⟩ := List.cons_eq_cons.mp h
      split at htail
      · have hrest := ih htail
        rw [Condition.extend_extend] at hrest
        exact hrest
      · simp at htail

/-- A failure ends the program exactly when the last attempt is a step that propagates it. -/
theorem verdict_trail_eq_error_iff (steps : List Step) (scope : Condition) (e : QueryError) :
    verdict (trail steps scope) = .error e ↔
      ∃ before call nodes, trail steps scope = before ++ [⟨.propagate call, nodes, .error e⟩] := by
  have hfailure (a : Attempt) :
      a.failure? = some e ↔ ∃ call nodes, a = ⟨.propagate call, nodes, .error e⟩ := by
    obtain ⟨step, nodes, result⟩ := a
    cases step <;> cases result <;> simp [Attempt.failure?, eq_comm]
  have hverdict : verdict (trail steps scope) = .error e ↔
      (trail steps scope).findSome? Attempt.failure? = some e := by
    unfold verdict
    cases (trail steps scope).findSome? Attempt.failure? <;> simp
  rw [hverdict, List.findSome?_eq_some_iff]
  constructor
  · rintro ⟨before, a, after, htrail, ha, -⟩
    have hlast : after = [] := by
      by_contra hafter
      rw [(eq_attempt_of_trail_eq htrail).2 hafter] at ha
      exact Option.some_ne_none e ha.symm
    obtain ⟨call, nodes, rfl⟩ := (hfailure a).mp ha
    exact ⟨before, call, nodes, hlast ▸ htrail⟩
  · rintro ⟨before, call, nodes, htrail⟩
    refine ⟨before, _, [], htrail, rfl, fun b hb => ?_⟩
    obtain ⟨first, others, rfl⟩ := List.append_of_mem hb
    rw [List.append_assoc, List.cons_append] at htrail
    exact (eq_attempt_of_trail_eq htrail).2 (by simp)

/-- A program succeeds exactly when no attempt ends it. -/
theorem verdict_eq_ok_iff (made : List Attempt) :
    verdict made = .ok () ↔ ∀ a ∈ made, a.failure? = none := by
  rw [← List.findSome?_eq_none_iff, verdict]
  cases made.findSome? Attempt.failure? <;> simp

/-- Adding a recipe adds the condition that it describes. -/
theorem Call.outcome_add {recipe : Recipe} {c : Condition} (h : recipe.outcome = .ok c)
    (op : LogicalOp) (cs : List Condition) :
    (Call.add recipe).outcome (.group op cs) = ([c], .ok ()) := by
  rw [Call.outcome, h]
  rfl

/-- Conditions that recipes describe are the children that some program adds to every group. -/
theorem exists_trail_of_recipes {cs : List Condition}
    (h : ∀ c ∈ cs, ∃ recipe : Recipe, recipe.outcome = .ok c) :
    ∃ body : List Step, ∀ op old, nodesOf (trail body (.group op old)) = cs ∧
      verdict (trail body (.group op old)) = .ok () := by
  induction cs with
  | nil => exact ⟨[], fun op old => ⟨rfl, rfl⟩⟩
  | cons c cs ih =>
    obtain ⟨recipe, hrecipe⟩ := h c List.mem_cons_self
    obtain ⟨body, hbody⟩ := ih fun d hd => h d (List.mem_cons_of_mem _ hd)
    refine ⟨.propagate (.add recipe) :: body, fun op old => ?_⟩
    have hcall : (Call.add recipe).outcome (.group op old) = ([c], .ok ()) :=
      Call.outcome_add hrecipe op old
    obtain ⟨hnodes, hverdict⟩ := hbody op (old ++ [c])
    have htrail : trail (.propagate (.add recipe) :: body) (.group op old) =
        ⟨.propagate (.add recipe), [c], .ok ()⟩ :: trail body (.group op (old ++ [c])) := by
      simp only [trail, hcall, Condition.extend]
    rw [htrail, verdict_cons, nodesOf, List.flatMap_cons]
    exact ⟨congrArg _ hnodes, hverdict⟩

/-- Every condition is described by a recipe, so a scope can be given any condition as a child. -/
theorem Recipe.exists_outcome_eq (c : Condition) : ∃ recipe : Recipe, recipe.outcome = .ok c := by
  induction c with
  | eq column value => exact ⟨.leaf column (.value value), rfl⟩
  | group op cs ih =>
    obtain ⟨body, hbody⟩ := exists_trail_of_recipes ih
    obtain ⟨hnodes, hverdict⟩ := hbody op []
    refine ⟨.composite op body, ?_⟩
    rw [Recipe.outcome, filled, Condition.composite, hverdict, hnodes]

/-- Calls that stand for one node or a failure: all but marks and blocks. -/
def Call.IsSingle : Call → Prop
  | mark => False
  | block _ => False
  | _ => True

/-- Such a call adds one node and succeeds, or adds nothing and fails. -/
theorem Call.IsSingle.outcome {call : Call} (h : call.IsSingle) (scope : Condition) :
    (∃ node, call.outcome scope = ([node], .ok ())) ∨ ∃ e, call.outcome scope = ([], .error e) := by
  have hoffer (result : Except QueryError Condition) :
      (∃ node, offer scope result = ([node], .ok ())) ∨ ∃ e, offer scope result = ([], .error e) := by
    cases result with
    | error e => exact .inr ⟨e, rfl⟩
    | ok node =>
      rw [offer]
      split
      · exact .inr ⟨_, rfl⟩
      · exact .inl ⟨node, rfl⟩
  cases call with
  | mark => exact h.elim
  | block body => exact h.elim
  | raise e => exact .inr ⟨e, rfl⟩
  | eq column value => exact hoffer _
  | group op body => exact hoffer _
  | add recipe => exact hoffer _
  | addSelf => exact hoffer (.ok scope)

mutual

/-- No call adds anything to a test. -/
theorem Call.outcome_leaf (call : Call) (column : String) (value : Value) :
    (call.outcome (.eq column value)).1 = [] := by
  have hoffer (result : Except QueryError Condition) : (offer (.eq column value) result).1 = [] := by
    cases result <;> rfl
  match call with
  | .eq _ _ => exact hoffer _
  | .group _ _ => exact hoffer _
  | .block body => exact nodesOf_trail_leaf body column value
  | .add _ => exact hoffer _
  | .addSelf => exact hoffer (.ok (.eq column value))
  | .mark => rfl
  | .raise _ => rfl

/-- No program adds anything to a test. -/
theorem nodesOf_trail_leaf (steps : List Step) (column : String) (value : Value) :
    nodesOf (trail steps (.eq column value)) = [] := by
  have hcons {step : Step} {rest : List Step}
      (hstep : (attempt step (.eq column value)).nodes = [])
      (hrest : nodesOf (trail rest (.eq column value)) = []) :
      nodesOf (trail (step :: rest) (.eq column value)) = [] := by
    rw [trail_cons, nodesOf, List.flatMap_cons, hstep, List.nil_append]
    split
    · exact hrest
    · rfl
  match steps with
  | [] => rfl
  | .propagate call :: rest =>
    exact hcons (call.outcome_leaf column value) (nodesOf_trail_leaf rest column value)
  | .swallow call :: rest =>
    exact hcons (call.outcome_leaf column value) (nodesOf_trail_leaf rest column value)

end

/-- A scope program does what its trail says. A group keeps its operator and its children, and the
nodes of the trail follow them; a test stays as it is. The trail holds the first calls of the
program, each coming to what it comes to in the scope that the calls before it have left, and a
call other than a block adds at most one node, and none if it fails. The program fails with the
failure that the last call of the trail propagates, if it does; otherwise all calls are made. There is
no condition that a program could not add: each is built by some recipe, and adding that recipe adds
the condition to any group. -/
theorem runAll_eq_trail (steps : List Step) (scope : Condition) :
    let run := runAll steps scope
    let made := trail steps scope
    (∀ op cs, scope = .group op cs → run.condition = .group op (cs ++ nodesOf made)) ∧
      (∀ column value, scope = .eq column value → run.condition = scope ∧ nodesOf made = []) ∧
      made.map Attempt.step <+: steps ∧
      (∀ before a after, made = before ++ a :: after →
        a = attempt a.step (scope.extend (nodesOf before)) ∧ (after ≠ [] → a.failure? = none)) ∧
      (∀ a ∈ made, a.step.call.IsSingle →
        (∃ node, a.nodes = [node] ∧ a.result = .ok ()) ∨ ∃ e, a.nodes = [] ∧ a.result = .error e) ∧
      (∀ e, run.result = .error e ↔
        ∃ before call nodes, made = before ++ [⟨.propagate call, nodes, .error e⟩]) ∧
      (run.result = .ok () ↔
        made.map Attempt.step = steps ∧ ∀ a ∈ made, a.failure? = none) ∧
      ∀ c : Condition, ∃ recipe : Recipe, recipe.build.result = .ok c ∧
        ∀ op cs, (Call.add recipe).outcome (.group op cs) = ([c], .ok ()) := by
  intro run made
  obtain ⟨hcondition, hresult⟩ := runAll_eq_nodes_verdict steps scope
  refine ⟨?_, ?_, map_step_trail_prefix steps scope, ?_, ?_, ?_, ?_, ?_⟩
  · rintro op cs rfl
    exact hcondition
  · rintro column value rfl
    exact ⟨hcondition, nodesOf_trail_leaf steps column value⟩
  · exact fun before a after h => eq_attempt_of_trail_eq h
  · intro a ha hsingle
    obtain ⟨before, after, hmade⟩ := List.append_of_mem ha
    rw [(eq_attempt_of_trail_eq hmade).1]
    rcases hsingle.outcome (scope.extend (nodesOf before)) with ⟨node, h⟩ | ⟨e, h⟩
    · exact .inl ⟨node, by simp [attempt, h], by simp [attempt, h]⟩
    · exact .inr ⟨e, by simp [attempt, h], by simp [attempt, h]⟩
  · intro e
    rw [hresult]
    exact verdict_trail_eq_error_iff steps scope e
  · rw [hresult, verdict_eq_ok_iff]
    exact ⟨fun h => ⟨map_step_trail_eq h, h⟩, fun h => h.2⟩
  · intro c
    obtain ⟨recipe, hrecipe⟩ := Recipe.exists_outcome_eq c
    exact ⟨recipe, recipe.build_eq_outcome.trans hrecipe, Call.outcome_add hrecipe⟩

/-- Failures at two levels: a swallowed group is lost with what it had, and the failure of an inner
program, though propagated, leaves what was there before. -/
theorem runAll_eq_trail_of_nested_failures :
    let refused := Host.json (.bool true)
    let steps : List Step :=
      [.swallow (.group .or [.propagate (.eq "a" .unit), .propagate (.eq "b" refused)]),
        .propagate (.eq "c" .unit),
        .propagate .addSelf,
        .propagate (.group .and [.swallow (.eq "d" refused), .propagate (.eq "e" (.text "t"))]),
        .propagate (.group .or [.propagate (.eq "f" .unit), .propagate (.raise .missingTable)]),
        .propagate (.eq "g" .unit)]
    let run := runAll steps (.group .or [.eq "old" .null])
    run.condition = .group .or [.eq "old" .null, .eq "c" .null,
        .group .or [.eq "old" .null, .eq "c" .null], .group .and [.eq "e" (.text "t")]] ∧
      run.result = .error .missingTable ∧
        (trail steps (.group .or [.eq "old" .null])).map Attempt.step = steps.take 5 := by
  intro refused steps run
  let made := trail steps (.group .or [.eq "old" .null])
  obtain ⟨hgroup, -, -, -, -, herror, -, -⟩ := runAll_eq_trail steps (.group .or [.eq "old" .null])
  exact ⟨hgroup .or [.eq "old" .null] rfl,
    (herror .missingTable).mpr ⟨made.take 4, _, _, rfl⟩, rfl⟩

end Scope

end ScopedSelect
