import ScopedSelect.Proofs.Query.Record

/-!
# What a selection answers

A selection is refused if it has no names at all, and also if the columns are fixed already; the first
test is on the names as they are offered, empty ones included. The columns are fixed by the first
selection with a name that is not empty, so the history tells how every later selection ends and what
its refusal reports. Selections of empty names only succeed and fix nothing.
-/

namespace ScopedSelect

namespace Query

/-- One of the names is not empty. -/
def HasName (names : List String) : Prop := ∃ name ∈ names, name ≠ ""

/-- The names that are not empty, in order. -/
def nonemptyNames (names : List String) : List String := names.filter fun name => !name.isEmpty

/-- The names are those of the first selection in the history that has one which is not empty. -/
def IsFirstOffer (calls : List Call) (names : List String) : Prop :=
  HasName names ∧ ∃ earlier later, calls = earlier ++ .select names :: later ∧
    ∀ others, .select others ∈ earlier → ¬ HasName others

/-- Names remain just if one of them is not empty. -/
theorem nonemptyNames_ne_nil_iff (names : List String) : nonemptyNames names ≠ [] ↔ HasName names := by
  simp [nonemptyNames, HasName]

/-- The first selection with a name is one of the history. -/
theorem IsFirstOffer.mem {calls : List Call} {first : List String} (h : IsFirstOffer calls first) :
    .select first ∈ calls := by
  obtain ⟨-, earlier, later, rfl, -⟩ := h
  exact List.mem_append_right _ List.mem_cons_self

/-- If any selection of a history has a name, one of them is the first. -/
theorem exists_isFirstOffer {calls : List Call} {names : List String} (hmem : .select names ∈ calls)
    (hnames : HasName names) : ∃ first, IsFirstOffer calls first := by
  induction calls with
  | nil => exact absurd hmem List.not_mem_nil
  | cons call calls ih =>
    by_cases hcall : ∃ first, call = .select first ∧ HasName first
    · obtain ⟨first, rfl, hfirst⟩ := hcall
      exact ⟨first, hfirst, [], calls, rfl, fun _ h => absurd h List.not_mem_nil⟩
    · have hlater : .select names ∈ calls := by
        rcases List.mem_cons.mp hmem with heq | hlater
        · exact absurd ⟨names, heq.symm, hnames⟩ hcall
        · exact hlater
      obtain ⟨first, hfirst, earlier, later, rfl, hnone⟩ := ih hlater
      refine ⟨first, hfirst, call :: earlier, later, rfl, fun others hothers hname => ?_⟩
      rcases List.mem_cons.mp hothers with heq | hothers
      · exact hcall ⟨others, heq.symm, hname⟩
      · exact hnone others hothers hname

/-- Selections without a name leave the columns as they are. -/
theorem afterCalls_columns_of_no_name {calls : List Call} {q : Query}
    (h : ∀ names, .select names ∈ calls → ¬ HasName names) :
    (afterCalls calls q).columns = q.columns := by
  induction calls generalizing q with
  | nil => rfl
  | cons call calls ih =>
    change (afterCalls calls (call.run q).query).columns = q.columns
    rw [ih fun names hmem => h names (List.mem_cons_of_mem _ hmem), Call.run_columns]
    cases hcolumns : q.columns with
    | cons name names => rfl
    | nil =>
      cases call with
      | select names =>
        have hnone := h names List.mem_cons_self
        rw [← nonemptyNames_ne_nil_iff, not_not] at hnone
        exact hnone
      | _ => rfl

/-- Columns that are fixed stay. -/
theorem afterCalls_columns_of_ne_nil {q : Query} (h : q.columns ≠ []) (calls : List Call) :
    (afterCalls calls q).columns = q.columns := by
  rw [afterCalls_columns, if_neg]
  simpa using h

/-- The first selection with a name fixes the columns. -/
theorem IsFirstOffer.columns {calls : List Call} {first : List String} (h : IsFirstOffer calls first) :
    (afterCalls calls empty).columns = nonemptyNames first := by
  obtain ⟨hname, earlier, later, rfl, hnone⟩ := h
  have hbefore : (afterCalls earlier empty).columns = [] := afterCalls_columns_of_no_name hnone
  have hfixed : ((Call.select first).run (afterCalls earlier empty)).query.columns =
      nonemptyNames first := by
    rw [Call.run_columns, hbefore]
    rfl
  rw [afterCalls, List.foldl_append, List.foldl_cons]
  change (afterCalls later ((Call.select first).run (afterCalls earlier empty)).query).columns = _
  rw [afterCalls_columns_of_ne_nil, hfixed]
  rw [hfixed]
  exact (nonemptyNames_ne_nil_iff first).mpr hname

/-- A history has fixed the columns just if one of its selections has a name. -/
theorem afterCalls_columns_ne_nil_iff (calls : List Call) :
    (afterCalls calls empty).columns ≠ [] ↔ ∃ names, .select names ∈ calls ∧ HasName names := by
  constructor
  · intro hne
    by_contra hnone
    refine hne (afterCalls_columns_of_no_name (q := empty) fun names hmem hname => ?_)
    exact hnone ⟨names, hmem, hname⟩
  · rintro ⟨names, hmem, hname⟩
    obtain ⟨first, hfirst⟩ := exists_isFirstOffer hmem hname
    rw [hfirst.columns]
    exact (nonemptyNames_ne_nil_iff first).mpr hfirst.1

/-- How a selection ends after the calls of a history. -/
inductive SelectionEnds (before : List Call) (names : List String) : Except QueryError Unit → Prop
  /-- It has no names. -/
  | unnamed : names = [] → SelectionEnds before names (.error .emptyColumnList)
  /-- The columns are fixed already. -/
  | fixed {first : List String} : names ≠ [] → IsFirstOffer before first →
      SelectionEnds before names (.error (.columnsAlreadyDefined (nonemptyNames first) names))
  /-- It succeeds. -/
  | taken : names ≠ [] → (∀ others, .select others ∈ before → ¬ HasName others) →
      SelectionEnds before names (.ok ())

/-- The history tells how a selection ends: the names offered are looked at before the columns. -/
theorem selectionEnds (before : List Call) (names : List String) :
    SelectionEnds before names ((Call.select names).run (afterCalls before empty)).result := by
  cases names with
  | nil => exact .unnamed rfl
  | cons name names =>
    have hcolumns := afterCalls_columns_ne_nil_iff before
    rw [Call.run, Query.select, List.isEmpty_cons, if_neg Bool.false_ne_true]
    cases hempty : (afterCalls before empty).columns.isEmpty with
    | true =>
      have hnil : (afterCalls before empty).columns = [] := List.isEmpty_iff.mp hempty
      exact .taken (List.cons_ne_nil _ _) fun others hmem hname =>
        hcolumns.mpr ⟨others, hmem, hname⟩ hnil
    | false =>
      have hne : (afterCalls before empty).columns ≠ [] := by
        intro hnil
        rw [hnil] at hempty
        cases hempty
      obtain ⟨others, hmem, hname⟩ := hcolumns.mp hne
      obtain ⟨first, hfirst⟩ := exists_isFirstOffer hmem hname
      rw [hfirst.columns]
      exact .fixed (List.cons_ne_nil _ _) hfirst

namespace SelectionEnds

variable {before : List Call} {names : List String} {result : Except QueryError Unit}

/-- Only a list without names is refused as one. -/
theorem eq_emptyColumnList_iff (h : SelectionEnds before names result) :
    result = .error .emptyColumnList ↔ names = [] := by
  cases h with
  | unnamed hnil => exact iff_of_true rfl hnil
  | fixed hne _ => exact iff_of_false nofun hne
  | taken hne _ => exact iff_of_false nofun hne

/-- Other names are refused just if an earlier selection had a name. -/
theorem exists_eq_columnsAlreadyDefined_iff (h : SelectionEnds before names result) :
    (∃ current attempted, result = .error (.columnsAlreadyDefined current attempted)) ↔
      names ≠ [] ∧ ∃ others, .select others ∈ before ∧ HasName others := by
  cases h with
  | unnamed hnil => exact iff_of_false nofun fun h => h.1 hnil
  | fixed hne hfirst => exact iff_of_true ⟨_, _, rfl⟩ ⟨hne, _, hfirst.mem, hfirst.1⟩
  | taken hne hnone => exact iff_of_false nofun fun ⟨_, others, hmem, hname⟩ => hnone others hmem hname

/-- The refusal reports the names in place and the names offered. -/
theorem reported (h : SelectionEnds before names result) {current attempted : List String}
    (hresult : result = .error (.columnsAlreadyDefined current attempted)) :
    attempted = names ∧ ∃ first, IsFirstOffer before first ∧ current = nonemptyNames first := by
  cases h with
  | unnamed _ => cases hresult
  | fixed _ hfirst =>
    obtain ⟨rfl, rfl⟩ : nonemptyNames _ = current ∧ names = attempted := by simpa using hresult
    exact ⟨rfl, _, hfirst, rfl⟩
  | taken _ _ => cases hresult

/-- Names succeed just if no earlier selection had one. -/
theorem eq_ok_iff (h : SelectionEnds before names result) :
    result = .ok () ↔ names ≠ [] ∧ ∀ others, .select others ∈ before → ¬ HasName others := by
  cases h with
  | unnamed hnil => exact iff_of_false nofun fun h => h.1 hnil
  | fixed _ hfirst => exact iff_of_false nofun fun h => h.2 _ hfirst.mem hfirst.1
  | taken hne hnone => exact iff_of_true rfl ⟨hne, hnone⟩

end SelectionEnds

/-- A selection that is refused leaves the statement as it was. -/
theorem Call.run_select_query_of_refused {names : List String} {q : Query}
    (h : ((select names).run q).result ≠ .ok ()) : ((select names).run q).query = q := by
  rw [run] at h ⊢
  cases hselect : q.select names with
  | ok q' => rw [hselect] at h; exact absurd rfl h
  | error e => rfl

/-- Every selection answers from the calls before it. It is refused for having no names just if it has
none, even when the columns are fixed. It is refused for columns in place just if it has names, empty
or not, and an earlier selection had one that is not empty: the refusal reports the names of the first
such selection without the empty ones, and its own names as they were offered. Otherwise it succeeds.
A refused one leaves the whole statement as it was. No column is ever the empty name, and from the
first name on the columns stay the same. -/
theorem selections_answer_from_history (program : List Step) (calls : List Call) :
    (start program).query = afterCalls (executed program empty) empty ∧
      (∀ before names after, made program calls = before ++ .select names :: after →
        let run := (Call.select names).run (afterCalls before empty)
        (madeRuns program calls)[before.length]? = some run ∧
          (run.result = .error .emptyColumnList ↔ names = []) ∧
          ((∃ current attempted, run.result = .error (.columnsAlreadyDefined current attempted)) ↔
            names ≠ [] ∧ ∃ others, .select others ∈ before ∧ HasName others) ∧
          (∀ current attempted, run.result = .error (.columnsAlreadyDefined current attempted) →
            attempted = names ∧
              ∃ first, IsFirstOffer before first ∧ current = nonemptyNames first) ∧
          (run.result = .ok () ↔
            names ≠ [] ∧ ∀ others, .select others ∈ before → ¬ HasName others) ∧
          (run.result ≠ .ok () → run.query = afterCalls before empty)) ∧
      ∀ before between after, made program calls = before ++ between ++ after →
        let columns := (afterCalls before empty).columns
        (∀ name ∈ columns, name ≠ "") ∧
          (columns ≠ [] → (afterCalls (before ++ between) empty).columns = columns) := by
  refine ⟨runAll_query_eq_afterCalls _ _, fun before names after h => ?_,
    fun before between after _ => ⟨?_, fun hne => ?_⟩⟩
  · have hends := selectionEnds before names
    exact ⟨getElem?_madeRuns h, hends.eq_emptyColumnList_iff,
      hends.exists_eq_columnsAlreadyDefined_iff, fun _ _ => hends.reported, hends.eq_ok_iff,
      Call.run_select_query_of_refused⟩
  · exact afterCalls_invariant Call.run_columns_ne_empty before (by simp [empty])
  · rw [afterCalls, List.foldl_append]
    exact afterCalls_columns_of_ne_nil hne between

/-- Lists without a name, of no names and of empty ones, come before the selection that fixes the
columns; afterwards a list of no names is still refused as one, and an empty name is refused because
of the columns in place. -/
theorem selections_answer_from_history_of_interleaved :
    let program : List Step :=
      [.swallow (.select []), .propagate (.select ["", ""]), .propagate (.fromTable "t"),
        .propagate (.select ["", "a", "b"])]
    let before := made program []
    let met := afterCalls before empty
    made program [.select [], .select [""], .build] =
        before ++ .select [] :: [.select [""], .build] ∧
      ((Call.select []).run met).result = .error .emptyColumnList ∧
      (∃ current attempted, ((Call.select [""]).run met).result =
        .error (.columnsAlreadyDefined current attempted)) ∧
      ((Call.select [""]).run met).query = met ∧
      met.columns = ["a", "b"] ∧ (afterCalls (before ++ [.select [], .select [""]]) empty).columns =
        ["a", "b"] := by
  intro program before met
  obtain ⟨-, hcalls, hcolumns⟩ :=
    selections_answer_from_history program [.select [], .select [""], .build]
  obtain ⟨-, hunnamed, -⟩ := hcalls before [] [.select [""], .build] rfl
  obtain ⟨-, -, hfixed, -, -, hkept⟩ := hcalls (before ++ [.select []]) [""] [.build] rfl
  have hbefore : before =
      [.select [], .select ["", ""], .fromTable "t", .select ["", "a", "b"]] := rfl
  have hmem : .select ["", "a", "b"] ∈ before ++ [.select []] := by simp [hbefore]
  have hrefused := hfixed.mpr ⟨by decide, ["", "a", "b"], hmem, "a", by simp, by decide⟩
  obtain ⟨-, hstay⟩ := hcolumns before [.select [], .select [""]] [.build] rfl
  have hmet : met.columns = ["a", "b"] := rfl
  refine ⟨rfl, hunnamed.mpr rfl, hrefused, hkept ?_, hmet, ?_⟩
  · obtain ⟨current, attempted, hresult⟩ := hrefused
    rw [hresult]
    nofun
  · rw [hstay (by rw [hmet]; nofun)]
    exact hmet

end Query

end ScopedSelect
