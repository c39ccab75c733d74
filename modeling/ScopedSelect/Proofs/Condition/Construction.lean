import ScopedSelect.Proofs.Condition.Tree
import ScopedSelect.Query.Run

/-!
# Two ways to construct a condition

Every group can be filled from the top down, by a program with a call for each child and a program of
its own for each group below, and it can be put together from the bottom up, each child finished
before it is added. Both give the same tree. From the top down a group is built apart and attached
when its program has ended, so what carries the induction is what a call does to a scope with
children already in it.
-/

namespace ScopedSelect

namespace Condition

mutual

/-- The call that adds the condition to a scope: a test by its column and value, a group by a program
for its children. -/
def toCall : Condition → Scope.Call
  | eq column value => .eq column (.value value)
  | group op cs => .group op (toProgram cs)

/-- The program that adds some conditions, one after the other. -/
def toProgram : List Condition → List Scope.Step
  | [] => []
  | c :: cs => .propagate c.toCall :: toProgram cs

end

mutual

/-- The condition put together anew: a group starts without children, and each child is put together
before it is added. -/
def assemble : Condition → Except QueryError Condition
  | eq column value => leaf column (.value value)
  | group op cs => assembleAll cs (composite op)

/-- Put some conditions together and add them, one after the other. -/
def assembleAll : List Condition → Condition → Except QueryError Condition
  | [], scope => .ok scope
  | c :: cs, scope => do
    let child ← c.assemble
    let scope ← scope.add child
    assembleAll cs scope

end

/-- The program for some conditions is the call for each of them, in order. -/
theorem toProgram_eq_map (cs : List Condition) :
    toProgram cs = cs.map fun c => .propagate c.toCall := by
  induction cs with
  | nil => rfl
  | cons c cs ih => rw [toProgram, ih, List.map_cons]

/-- Conditions are added one after the other, each put together before it is added, up to the first
failure. -/
theorem assembleAll_eq_foldlM (cs : List Condition) (scope : Condition) :
    assembleAll cs scope = cs.foldlM (fun scope c => c.assemble >>= scope.add) scope := by
  induction cs generalizing scope with
  | nil => rfl
  | cons c cs ih => simp only [assembleAll, ih, List.foldlM_cons, bind_assoc]

/-- If each call adds its condition, the program for some conditions adds all of them. -/
theorem runAll_toProgram_of_forall {cs : List Condition}
    (hcs : ∀ c ∈ cs, ∀ op old,
      c.toCall.run (group op old) = ⟨group op (old ++ [c]), .ok (), []⟩)
    (op : LogicalOp) (old : List Condition) :
    Scope.runAll (toProgram cs) (group op old) = ⟨group op (old ++ cs), .ok (), []⟩ := by
  induction cs generalizing old with
  | nil => rw [toProgram, Scope.runAll, List.append_nil]
  | cons c cs ih =>
    have hrest := ih (fun d hd => hcs d (List.mem_cons_of_mem c hd)) (old ++ [c])
    rw [toProgram, Scope.runAll, hcs c List.mem_cons_self op old]
    simp only [hrest, Scope.Run.after, List.nil_append, List.append_assoc, List.cons_append]

/-- The call for a condition adds exactly that condition, behind the children that are there. -/
theorem run_toCall (c : Condition) (op : LogicalOp) (old : List Condition) :
    c.toCall.run (group op old) = ⟨group op (old ++ [c]), .ok (), []⟩ := by
  induction c generalizing op old with
  | eq column value => rw [toCall, Scope.Call.run]; rfl
  | group inner cs ih =>
    have hbody := runAll_toProgram_of_forall ih inner []
    rw [toCall, Scope.Call.run, composite, hbody]
    rfl

/-- The program for some conditions adds exactly them, in order. -/
theorem runAll_toProgram (cs : List Condition) (op : LogicalOp) (old : List Condition) :
    Scope.runAll (toProgram cs) (group op old) = ⟨group op (old ++ cs), .ok (), []⟩ :=
  runAll_toProgram_of_forall (fun c _ => run_toCall c) op old

/-- If each condition is put together as it was, so are all of them, behind the children that are
there. -/
theorem assembleAll_of_forall {cs : List Condition} (hcs : ∀ c ∈ cs, c.assemble = .ok c)
    (op : LogicalOp) (old : List Condition) :
    assembleAll cs (group op old) = .ok (group op (old ++ cs)) := by
  induction cs generalizing old with
  | nil => rw [assembleAll, List.append_nil]
  | cons c cs ih =>
    have hrest := ih (fun d hd => hcs d (List.mem_cons_of_mem c hd)) (old ++ [c])
    rw [List.append_assoc, List.singleton_append] at hrest
    rw [assembleAll, hcs c List.mem_cons_self]
    exact hrest

/-- Put together anew, a condition is the condition it was. -/
theorem assemble_eq (c : Condition) : c.assemble = .ok c := by
  induction c with
  | eq column value => rw [assemble]; rfl
  | group op cs ih => rw [assemble, composite, assembleAll_of_forall ih, List.nil_append]

/-- Every group is what its program makes of the empty group, and what it is put together to from the
bottom up. With an initializer for the children of a group under `and`, a filter sets exactly that
group and changes nothing else of the statement. The program has a call for each child in order, with a
program of its own for a group; from the bottom up a test is made as a leaf, and a group is the empty
group to which its children are added in order, each put together in the same way before. -/
theorem construction_yields_same_tree (op : LogicalOp) (cs : List Condition) :
    Scope.runAll (toProgram cs) (composite op) = ⟨group op cs, .ok (), []⟩ ∧
      (group op cs).assemble = .ok (group op cs) ∧
      (∀ q : Query, (Query.Call.filter (toProgram cs)).run q =
        .quiet { q with condition := some (group .and cs) } (.ok ())) ∧
      (toProgram cs = cs.map (fun c => .propagate c.toCall) ∧
        (∀ column value, (eq column value).toCall = .eq column (.value value)) ∧
        ∀ inner ds, (group inner ds).toCall = .group inner (toProgram ds)) ∧
      (∀ column value, (eq column value).assemble = leaf column (.value value)) ∧
      ∀ inner ds, (group inner ds).assemble =
        ds.foldlM (fun scope c => c.assemble >>= scope.add) (composite inner) := by
  have hrun (op : LogicalOp) :
      Scope.runAll (toProgram cs) (composite op) = ⟨group op cs, .ok (), []⟩ :=
    runAll_toProgram cs op []
  have hfilter (q : Query) : (Query.Call.filter (toProgram cs)).run q =
      .quiet { q with condition := some (group .and cs) } (.ok ()) := by
    rw [Query.Call.run, hrun .and]
    rfl
  have hassemble (inner : LogicalOp) (ds : List Condition) : (group inner ds).assemble =
      ds.foldlM (fun scope c => c.assemble >>= scope.add) (composite inner) := by
    rw [assemble, assembleAll_eq_foldlM]
  exact ⟨hrun op, assemble_eq _, hfilter, ⟨toProgram_eq_map cs, fun _ _ => rfl, fun _ _ => rfl⟩,
    fun _ _ => rfl, hassemble⟩

end Condition

end ScopedSelect
