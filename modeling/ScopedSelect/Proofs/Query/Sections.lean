import ScopedSelect.Proofs.Text.Separated
import ScopedSelect.Query.Run

/-!
# The sections of a statement

A statement is its columns, its table and perhaps a filter, pasted together. Columns without blanks
and commas and a table without blanks can be told apart in it, whatever stands after the table:
keywords are found by the blanks around them, not by their letters, so a column may be called like
one of them.
-/

namespace ScopedSelect

namespace Query

/-- The columns as they are shown: a star for all of them. -/
def shownColumns : List String → List String
  | [] => ["*"]
  | names => names

/-- The text of a statement from its shown columns, its table and what stands behind the table. -/
def sections (columns : List String) (table filter : String) : String :=
  "SELECT " ++ ", ".intercalate columns ++ " FROM " ++ table ++ filter ++ ";"

/-- What stands behind the table: nothing without a condition. -/
def filterText : Option Condition → String
  | none => ""
  | some c => " WHERE " ++ c.text

/-- There is always a column to show. -/
theorem shownColumns_ne_nil (columns : List String) : shownColumns columns ≠ [] := by
  cases columns <;> simp [shownColumns]

/-- The text of a statement is pasted from its sections. -/
theorem text_eq_sections (q : Query) :
    q.text = sections (shownColumns q.columns) (q.table.getD "") (filterText q.condition) := by
  obtain ⟨columns, table, condition, trace⟩ := q
  cases columns <;> cases condition <;>
    simp [text, sections, columnsText, shownColumns, filterText, String.append_assoc]

/-- What stands behind the table starts with a blank, if it is not empty. -/
theorem startsIn_filterText (condition : Option Condition) :
    StartsIn [' '] (filterText condition).toList := by
  cases condition <;> simp [filterText]

/-- The text of a condition follows its keyword. -/
theorem filterText_eq_iff (c : Condition) (filter : String) :
    filterText (some c) = " WHERE " ++ filter ↔ c.text = filter := by
  rw [filterText, ← String.toList_inj, ← String.toList_inj, String.toList_append,
    String.toList_append, List.append_cancel_left_eq]

/-- What stands behind the table tells whether there is a condition, and what its text is. -/
theorem filterText_inj (c d : Option Condition) :
    filterText c = filterText d ↔ c.map Condition.toSql = d.map Condition.toSql := by
  cases c with
  | none =>
    cases d with
    | none => exact iff_of_true rfl rfl
    | some d => exact iff_of_false (by simp [filterText]) nofun
  | some c =>
    cases d with
    | none => exact iff_of_false (by simp [filterText]) nofun
    | some d =>
      rw [Option.map_some, Option.map_some, Option.some.injEq, Condition.toSql_eq,
        Condition.toSql_eq]
      exact filterText_eq_iff c d.text

/-- The characters that end a column in a statement. -/
def columnListStops : List Char := [' ', ',']

/-- The comma between columns and the blank before the keyword end a column. -/
theorem separates_comma : Separates columnListStops ", " ' ' :=
  ⟨by decide, ',', [' '], by decide, by decide, by decide⟩

/-- Columns are determined up to the keyword that ends them. -/
theorem columns_append_injective {names others : List String} {leftRest rightRest : List Char}
    (hnames : ∀ name ∈ names, ∀ c ∈ name.toList, c ∉ columnListStops)
    (hothers : ∀ name ∈ others, ∀ c ∈ name.toList, c ∉ columnListStops)
    (hne : names ≠ []) (hne' : others ≠ [])
    (h : (", ".intercalate names).toList ++ ' ' :: leftRest =
      (", ".intercalate others).toList ++ ' ' :: rightRest) :
    names = others ∧ leftRest = rightRest := by
  apply separates_comma.behindEach_append_injective id
  · intro name hname other hother leftRest rightRest hleftRest hrightRest heq
    obtain ⟨hchars, hrest⟩ := run_append_injective columnListStops (hnames name hname)
      (hothers other hother) hleftRest hrightRest heq
    exact ⟨String.toList_inj.mp hchars, hrest⟩
  · rw [List.map_id, List.map_id, behindEach_eq_intercalate _ hne, behindEach_eq_intercalate _ hne',
      String.toList_append, String.toList_append, List.append_assoc, List.append_assoc, h]

/-- The characters of a statement. -/
theorem toList_sections (columns : List String) (table filter : String) :
    (sections columns table filter).toList =
      "SELECT ".toList ++ ((", ".intercalate columns).toList ++
        ' ' :: ("FROM ".toList ++ (table.toList ++ (filter.toList ++ [';'])))) := by
  simp only [sections, String.toList_append, List.append_assoc]
  rfl

/-- The columns, the table and what follows the table are determined by the statement. -/
theorem sections_injective {columns columns' : List String} {table table' filter filter' : String}
    (hcolumns : ∀ name ∈ columns, ∀ c ∈ name.toList, c ∉ columnListStops)
    (hcolumns' : ∀ name ∈ columns', ∀ c ∈ name.toList, c ∉ columnListStops)
    (hne : columns ≠ []) (hne' : columns' ≠ [])
    (htable : ' ' ∉ table.toList) (htable' : ' ' ∉ table'.toList)
    (hfilter : StartsIn [' '] filter.toList) (hfilter' : StartsIn [' '] filter'.toList)
    (h : sections columns table filter = sections columns' table' filter') :
    columns = columns' ∧ table = table' ∧ filter = filter' := by
  have hbody := congrArg String.toList h
  rw [toList_sections, toList_sections] at hbody
  obtain ⟨rfl, hrest⟩ :=
    columns_append_injective hcolumns hcolumns' hne hne' (List.append_cancel_left hbody)
  have hend := List.append_cancel_left hrest
  rw [← List.append_assoc, ← List.append_assoc] at hend
  have htail : table.toList ++ filter.toList = table'.toList ++ filter'.toList :=
    List.append_cancel_right hend
  obtain ⟨htableEq, hfilterEq⟩ := run_append_injective [' ']
    (fun c hc hs => htable (List.mem_singleton.mp hs ▸ hc))
    (fun c hc hs => htable' (List.mem_singleton.mp hs ▸ hc)) hfilter hfilter' htail
  exact ⟨rfl, String.toList_inj.mp htableEq, String.toList_inj.mp hfilterEq⟩

/-- No column has a blank or a comma, and the table, if it is set, has no blank. A name may be empty,
and it may be a keyword. -/
structure HasPlainNames (q : Query) : Prop where
  columns : ∀ name ∈ q.columns, ' ' ∉ name.toList ∧ ',' ∉ name.toList
  table : ∀ table ∈ q.table, ' ' ∉ table.toList

/-- The columns that are shown can be told from the blanks and commas around them. -/
theorem HasPlainNames.not_mem_columnListStops {q : Query} (h : q.HasPlainNames) :
    ∀ name ∈ shownColumns q.columns, ∀ c ∈ name.toList, c ∉ columnListStops := by
  cases hcolumns : q.columns with
  | nil =>
    intro name hname c hc
    obtain rfl : name = "*" := List.mem_singleton.mp hname
    obtain rfl : c = '*' := List.mem_singleton.mp hc
    decide
  | cons first rest =>
    intro name hname c hc hstop
    change name ∈ first :: rest at hname
    rw [← hcolumns] at hname
    obtain ⟨hblank, hcomma⟩ := h.columns name hname
    rcases List.mem_pair.mp hstop with rfl | rfl
    · exact hblank hc
    · exact hcomma hc

/-- The table has no blank, unset or not. -/
theorem HasPlainNames.blank_not_mem_table {q : Query} (h : q.HasPlainNames) :
    ' ' ∉ (q.table.getD "").toList := by
  cases htable : q.table with
  | none => decide
  | some table => exact h.table table htable

/-- Statements with plain names have the same text just if they show the same columns, have the same
table, an unset one being the empty name, and neither has a condition or both have one and the
conditions have the same text. This is so for all statements, whichever calls made them, and for all
conditions, whatever stands in their columns and texts. -/
theorem toSql_eq_iff_sections_eq {q r : Query} (hq : q.HasPlainNames) (hr : r.HasPlainNames) :
    q.toSql = r.toSql ↔
      shownColumns q.columns = shownColumns r.columns ∧
        q.table.getD "" = r.table.getD "" ∧
        q.condition.map Condition.toSql = r.condition.map Condition.toSql := by
  rw [toSql_eq, toSql_eq, text_eq_sections, text_eq_sections, ← filterText_inj]
  constructor
  · intro h
    exact sections_injective hq.not_mem_columnListStops hr.not_mem_columnListStops
      (shownColumns_ne_nil _) (shownColumns_ne_nil _) hq.blank_not_mem_table
      hr.blank_not_mem_table (startsIn_filterText _) (startsIn_filterText _) h
  · rintro ⟨hcolumns, htable, hfilter⟩
    rw [hcolumns, htable, hfilter]

/-- Columns called like keywords, a table that ends like a statement and a text with a keyword and a
quote in it: two conditions that differ as trees have one text, and so have the statements. A condition
that is not written still tells its statement from one without a condition, while an unset table does
not tell it from one with an empty name. -/
theorem toSql_eq_iff_sections_eq_of_imitated_keywords :
    let columns : Step := .propagate (.select ["FROM", "", "WHERE"])
    let test : Scope.Step := .propagate (.eq "a WHERE b" (.text "it's; FROM t WHERE "))
    let flat := (start [columns, .propagate (.fromTable "t;"), .propagate (.filter [test])]).query
    let nested := (start [.propagate (.fromTable "u"), columns, .swallow (.select ["*"]),
      .propagate (.fromTable "t;"), .propagate (.filter [.propagate (.group .or [test])])]).query
    let unset := (start [columns, .propagate (.filter [])]).query
    let unnamed := (start [columns, .propagate (.fromTable ""), .propagate (.filter [])]).query
    let unfiltered := (start [columns, .propagate (.fromTable "")]).query
    flat.toSql = nested.toSql ∧ unset.toSql = unnamed.toSql ∧ unnamed.toSql ≠ unfiltered.toSql ∧
      flat.toSql ≠ unset.toSql := by
  intro columns test flat nested unset unnamed unfiltered
  have hcolumns : ∀ name ∈ ["FROM", "WHERE"], ' ' ∉ name.toList ∧ ',' ∉ name.toList := by
    decide +kernel
  have hflat : flat.HasPlainNames := ⟨hcolumns, by decide +kernel⟩
  have hnested : nested.HasPlainNames := ⟨hcolumns, by decide +kernel⟩
  have hunset : unset.HasPlainNames := ⟨hcolumns, nofun⟩
  have hunnamed : unnamed.HasPlainNames := ⟨hcolumns, by decide +kernel⟩
  have hunfiltered : unfiltered.HasPlainNames := ⟨hcolumns, by decide +kernel⟩
  have hcondition : flat.condition.map Condition.toSql = nested.condition.map Condition.toSql := rfl
  refine ⟨(toSql_eq_iff_sections_eq hflat hnested).mpr ⟨rfl, rfl, hcondition⟩,
    (toSql_eq_iff_sections_eq hunset hunnamed).mpr ⟨rfl, rfl, rfl⟩, fun h => ?_, fun h => ?_⟩
  · obtain ⟨-, -, hfilter⟩ := (toSql_eq_iff_sections_eq hunnamed hunfiltered).mp h
    cases hfilter
  · obtain ⟨-, htable, -⟩ := (toSql_eq_iff_sections_eq hflat hunset).mp h
    exact absurd htable (by decide)

end Query

end ScopedSelect
