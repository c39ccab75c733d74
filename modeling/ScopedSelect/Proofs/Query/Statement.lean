import ScopedSelect.Proofs.Condition.WellFormed
import ScopedSelect.Proofs.Query.History
import ScopedSelect.Proofs.Query.Sections

/-!
# When a built statement is well formed

The statement language has a column list, a table and at most one filter. Whatever calls have made
a statement, if its names are names and its texts have no quote, the built text belongs to the
language exactly when no condition was set or the condition has nothing blank in it. Building does
not refuse a blank condition, so this is where a text outside the language can come from.
-/

namespace ScopedSelect

/-- A star, or names separated by commas. -/
inductive IsColumnList : String → Prop
  | all : IsColumnList "*"
  | names (first : String) (rest : List String) (h : ∀ name ∈ first :: rest, IsName nameStops name) :
      IsColumnList (", ".intercalate (first :: rest))

/-- The statements: columns, a table and perhaps a filter. -/
inductive IsStatement : String → Prop
  | unfiltered {columns table : String} (hcolumns : IsColumnList columns)
      (htable : IsName nameStops table) :
      IsStatement ("SELECT " ++ columns ++ " FROM " ++ table ++ ";")
  | filtered {columns table filter : String} (hcolumns : IsColumnList columns)
      (htable : IsName nameStops table) (hfilter : IsFilter filter) :
      IsStatement ("SELECT " ++ columns ++ " FROM " ++ table ++ " WHERE " ++ filter ++ ";")

namespace Query

/-- A name can be told from the blanks and commas around it. -/
theorem not_mem_columnListStops {name : String} (h : IsName nameStops name) :
    ∀ c ∈ name.toList, c ∉ columnListStops := by
  have hsub : columnListStops ⊆ nameStops := by decide
  exact fun c hc hs => h.2 c hc (hsub hs)

/-- A name has no blank. -/
theorem blank_not_mem {name : String} (h : IsName nameStops name) : ' ' ∉ name.toList :=
  fun hc => h.2 ' ' hc (by decide)

/-- The columns that are shown are names, if the columns are; so is the star. -/
theorem isName_of_mem_shownColumns {columns : List String}
    (h : ∀ name ∈ columns, IsName nameStops name) :
    ∀ name ∈ shownColumns columns, IsName nameStops name := by
  cases columns with
  | nil =>
    intro name hname
    obtain rfl : name = "*" := by simpa [shownColumns] using hname
    decide
  | cons first rest => exact h

/-- A column list is the list of some names. -/
theorem exists_of_isColumnList {s : String} (h : IsColumnList s) :
    ∃ columns : List String, columns ≠ [] ∧ (∀ name ∈ columns, IsName nameStops name) ∧
      s = ", ".intercalate columns := by
  cases h with
  | all => exact ⟨shownColumns [], shownColumns_ne_nil [], isName_of_mem_shownColumns (by simp), rfl⟩
  | names first rest h => exact ⟨first :: rest, by simp, h, rfl⟩

/-- A statement is pasted from names and from nothing or a filter behind them. -/
theorem exists_sections_of_isStatement {s : String} (h : IsStatement s) :
    ∃ columns table filter, s = sections columns table filter ∧ columns ≠ [] ∧
      (∀ name ∈ columns, IsName nameStops name) ∧ IsName nameStops table ∧
        (filter = "" ∨ ∃ f, IsFilter f ∧ filter = " WHERE " ++ f) := by
  cases h with
  | @unfiltered columns table hcolumns htable =>
    obtain ⟨names, hne, hnames, rfl⟩ := exists_of_isColumnList hcolumns
    exact ⟨names, table, "", by simp [sections], hne, hnames, htable, .inl rfl⟩
  | @filtered columns table filter hcolumns htable hfilter =>
    obtain ⟨names, hne, hnames, rfl⟩ := exists_of_isColumnList hcolumns
    exact ⟨names, table, " WHERE " ++ filter, by simp [sections, String.append_assoc], hne, hnames,
      htable, .inr ⟨filter, hfilter, rfl⟩⟩

/-- Once it has a table, a statement is built with its text. -/
theorem build_of_table {q : Query} {table : String} (htable : q.table = some table) :
    q.build = .ok (q.text, q.trace.map fun t => q.report t q.text) := by
  rw [build, validate, htable, toSql_eq]

/-- A statement with names of columns and of its table is well formed exactly when its condition, if
there is one, is written as a filter. -/
theorem isStatement_text_iff {q : Query} {table : String} (htable : q.table = some table)
    (hname : IsName nameStops table) (hcolumns : ∀ name ∈ q.columns, IsName nameStops name) :
    IsStatement q.text ↔ ∀ c ∈ q.condition, IsFilter c.text := by
  have hshown := isName_of_mem_shownColumns hcolumns
  have hne := shownColumns_ne_nil q.columns
  have htext : q.text = sections (shownColumns q.columns) table (filterText q.condition) := by
    rw [text_eq_sections, htable, Option.getD_some]
  rw [htext]
  constructor
  · intro h c hc
    obtain ⟨columns, table', filter, hsections, hne', hnames, htable', hfilter⟩ :=
      exists_sections_of_isStatement h
    have hstarts : StartsIn [' '] filter.toList := by
      rcases hfilter with rfl | ⟨f, -, rfl⟩ <;> simp
    obtain ⟨-, -, hbehind⟩ := sections_injective
      (fun name hn => not_mem_columnListStops (hshown name hn))
      (fun name hn => not_mem_columnListStops (hnames name hn)) hne hne'
      (blank_not_mem hname) (blank_not_mem htable') (startsIn_filterText _) hstarts hsections
    rw [Option.mem_def.mp hc] at hbehind
    rcases hfilter with rfl | ⟨f, hf, rfl⟩
    · simp [filterText] at hbehind
    · rwa [(filterText_eq_iff c f).mp hbehind]
  · intro h
    obtain ⟨first, rest, hcons⟩ := List.exists_cons_of_ne_nil hne
    have hlist : IsColumnList (", ".intercalate (shownColumns q.columns)) := by
      rw [hcons] at hshown ⊢
      exact .names first rest hshown
    cases hc : q.condition with
    | none => simpa [sections, filterText] using IsStatement.unfiltered hlist hname
    | some c =>
      simpa [sections, filterText, String.append_assoc] using
        IsStatement.filtered hlist hname (h c hc)

/-- A statement with a table is built, and its text is well formed exactly when no filter has
succeeded, or the condition is not blank and no group of two or more children has a blank one. -/
theorem build_isStatement_iff (program : List Step) (table : String)
    (htable : (start program).query.table = some table) (hname : IsName nameStops table)
    (hcolumns : ∀ name ∈ (start program).query.columns, ∀ c ∈ name.toList, c ∉ nameStops)
    (hcondition : ∀ c ∈ (start program).query.condition,
      c.ColumnsAvoid nameStops ∧ c.TextsUnquoted) :
    ∃ sql event, (start program).query.build = .ok (sql, event) ∧
      (IsStatement sql ↔
        (∀ body, .filter body ∈ executed program empty →
          (Scope.runAll body (.composite .and)).result ≠ .ok ()) ∨
        ∃ c, (start program).query.condition = some c ∧ ¬ c.Blank ∧
          ∀ op cs, .group op cs ∈ c.nodes → 2 ≤ cs.length → ∀ d ∈ cs, ¬ d.Blank) := by
  have hnames : ∀ name ∈ (start program).query.columns, IsName nameStops name :=
    fun name hn => ⟨start_columns_ne_empty program name hn, hcolumns name hn⟩
  refine ⟨(start program).query.text, _, build_of_table htable, ?_⟩
  rw [isStatement_text_iff htable hname hnames, ← start_condition_eq_none_iff]
  cases hc : (start program).query.condition with
  | none => simp
  | some c =>
    obtain ⟨hnamed, hunquoted⟩ := hcondition c hc
    have hfilter : IsFilter c.text ↔ _ :=
      (Condition.isFilter_text_iff hnamed hunquoted).trans (Condition.groupsNonempty_iff c)
    simpa using hfilter

/-- A blank hidden below a group of one child spoils the text; a test in its place does not. -/
theorem build_isStatement_of_test_but_not_of_hidden_blank :
    let program (body : List Scope.Step) : List Step :=
      [.propagate (.select ["a", "", "b"]), .propagate (.fromTable "t"),
        .swallow (.filter [.propagate (.raise .missingTable)]),
        .propagate (.filter [.propagate (.eq "a" .unit),
          .propagate (.group .or [.propagate (.group .and body)])])]
    let good := "SELECT a, b FROM t WHERE (a is null and from = 'WHERE (x');"
    let bad := "SELECT a, b FROM t WHERE (a is null and );"
    ((start (program [.propagate (.eq "from" (.text "WHERE (x"))])).query.build = .ok (good, none) ∧
      IsStatement good) ∧
      (start (program [])).query.build = .ok (bad, none) ∧ ¬ IsStatement bad := by
  intro program good bad
  have hname : IsName nameStops "t" := by decide
  have hcolumns : ∀ name ∈ ["a", "b"], ∀ c ∈ name.toList, c ∉ nameStops := by simp [nameStops]
  constructor
  · let tested : Condition :=
      .group .and [.eq "a" .null, .group .or [.group .and [.eq "from" (.text "WHERE (x")]]]
    have hquery : (start (program [.propagate (.eq "from" (.text "WHERE (x"))])).query =
        ⟨["a", "b"], some "t", some tested, none⟩ := rfl
    have hgood : (start (program [.propagate (.eq "from" (.text "WHERE (x"))])).query.build =
        .ok (good, none) := by
      rw [hquery, build_of_table rfl]
      exact congrArg (fun sql => Except.ok (sql, none)) (by decide +kernel)
    obtain ⟨sql, event, hbuild, hiff⟩ :=
      build_isStatement_iff (program [.propagate (.eq "from" (.text "WHERE (x"))]) "t" rfl hname
        hcolumns (by rw [hquery]; decide +kernel)
    rw [hgood, Except.ok.injEq, Prod.mk.injEq] at hbuild
    refine ⟨hgood, ?_⟩
    rw [hbuild.1]
    exact hiff.mpr (.inr ⟨tested, rfl, (Condition.groupsNonempty_iff _).mp (by decide +kernel)⟩)
  · let blank : Condition := .group .and [.eq "a" .null, .group .or [.group .and []]]
    have hquery : (start (program [])).query = ⟨["a", "b"], some "t", some blank, none⟩ := rfl
    have hbad : (start (program [])).query.build = .ok (bad, none) := by
      rw [hquery, build_of_table rfl]
      exact congrArg (fun sql => Except.ok (sql, none)) (by decide +kernel)
    obtain ⟨sql, event, hbuild, hiff⟩ :=
      build_isStatement_iff (program []) "t" rfl hname hcolumns (by rw [hquery]; decide +kernel)
    rw [hbad, Except.ok.injEq, Prod.mk.injEq] at hbuild
    refine ⟨hbad, ?_⟩
    rw [hbuild.1, hiff, ← start_condition_eq_none_iff, hquery]
    rintro (hnone | ⟨c, hc, hfull⟩)
    · cases hnone
    · cases hc
      exact absurd ((Condition.groupsNonempty_iff blank).mpr hfull) (by decide +kernel)

end Query

end ScopedSelect
