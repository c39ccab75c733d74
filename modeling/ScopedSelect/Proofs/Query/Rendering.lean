import ScopedSelect.Proofs.Condition.Tree
import ScopedSelect.Query.Basic

/-!
# What a renderer leaves in its buffer

Values, conditions and statements are written to a buffer that may hold something already. A
renderer only appends, and what it appends does not depend on what is there: it is the text that
would be written to an empty buffer. The step of the loop over the children of a group is
`Condition.writeFrom_eq`, where the index is what tells a first child from the others.

The texts themselves obey equations without a buffer and without an index. Those of conditions have
one solution: two solutions agree on tests, and on a group when they agree on its children.
-/

namespace ScopedSelect

namespace Value

/-- A value is appended to what the buffer holds. -/
theorem writeSql_eq_append_toSql (v : Value) (out : String) : v.writeSql out = out ++ v.toSql := by
  rw [writeSql_eq, toSql_eq_literal]

end Value

namespace Condition

/-- A condition is appended to what the buffer holds. -/
theorem writeSql_eq_append_toSql (c : Condition) (out : String) :
    c.writeSql out = out ++ c.toSql := by
  rw [writeSql_eq, toSql_eq]

/-- The equations of a rendering of conditions. -/
structure IsRendering (f : Condition → String) : Prop where
  nullTest (column : String) : f (eq column .null) = column ++ " is null"
  test (column : String) {value : Value} (h : value ≠ .null) :
    f (eq column value) = column ++ " = " ++ value.literal
  empty (op : LogicalOp) : f (group op []) = ""
  single (op : LogicalOp) (c : Condition) : f (group op [c]) = f c
  and {cs : List Condition} (h : 2 ≤ cs.length) :
    f (group .and cs) = "(" ++ " and ".intercalate (cs.map f) ++ ")"
  or {cs : List Condition} (h : 2 ≤ cs.length) :
    f (group .or cs) = "(" ++ " or ".intercalate (cs.map f) ++ ")"

/-- A group is written from what is written for its children. -/
theorem toSql_group (op : LogicalOp) (cs : List Condition) :
    (group op cs).toSql = groupText op (cs.map toSql) := by
  have htexts : cs.map toSql = cs.map text := List.map_congr_left fun c _ => toSql_eq c
  rw [toSql_eq, htexts, text, texts_eq_map]

/-- What is written obeys the equations. -/
theorem isRendering_toSql : IsRendering toSql where
  nullTest column := toSql_eq _
  test column value h := by
    have hnull : value.isNull = false := by
      cases value with
      | null => exact absurd rfl h
      | _ => rfl
    rw [toSql_eq, text, testText, hnull, if_neg Bool.false_ne_true]
  empty op := toSql_eq _
  single op c := toSql_group op [c]
  and h := by rw [toSql_group, groupText_and (by rwa [List.length_map])]
  or h := by rw [toSql_group, groupText_or (by rwa [List.length_map])]

/-- Renderings agree on every condition. -/
theorem IsRendering.eq_of_isRendering {f g : Condition → String} (hf : IsRendering f)
    (hg : IsRendering g) (c : Condition) : f c = g c := by
  induction c with
  | eq column value =>
    by_cases hnull : value = .null
    · rw [hnull, hf.nullTest, hg.nullTest]
    · rw [hf.test column hnull, hg.test column hnull]
  | group op cs ih =>
    -- The equations of a group go by the number of its children.
    match cs with
    | [] => rw [hf.empty, hg.empty]
    | [only] => rw [hf.single, hg.single, ih only (List.mem_singleton_self only)]
    | first :: second :: rest =>
      have htwo : 2 ≤ (first :: second :: rest).length := by simp
      have hchildren : (first :: second :: rest).map f = (first :: second :: rest).map g :=
        List.map_congr_left ih
      cases op with
      | and => rw [hf.and htwo, hg.and htwo, hchildren]
      | or => rw [hf.or htwo, hg.or htwo, hchildren]

/-- The equations have one solution. -/
theorem isRendering_iff (f : Condition → String) : IsRendering f ↔ f = toSql := by
  constructor
  · exact fun hf => funext (hf.eq_of_isRendering isRendering_toSql)
  · rintro rfl
    exact isRendering_toSql

end Condition

namespace Query

/-- A statement is appended to what the buffer holds. -/
theorem writeSql_eq_append_toSql (q : Query) (out : String) : q.writeSql out = out ++ q.toSql := by
  rw [writeSql_eq, toSql_eq]

/-- The equation of a statement: a star stands for no columns, and the keyword of the filter is only
written in front of a condition. -/
theorem toSql_eq_sections (q : Query) :
    q.toSql = "SELECT " ++ (if q.columns = [] then "*" else ", ".intercalate q.columns) ++ " FROM " ++
      q.table.getD "" ++ (q.condition.elim "" fun c => " WHERE " ++ c.toSql) ++ ";" := by
  have hcolumns : columnsText q.columns =
      if q.columns = [] then "*" else ", ".intercalate q.columns := by
    cases q.columns with
    | nil => rfl
    | cons name names => rw [if_neg (List.cons_ne_nil name names), columnsText]; simp
  rw [toSql_eq, text, hcolumns]
  cases q.condition with
  | none => rfl
  | some c => rw [Option.elim_some, Condition.toSql_eq]

end Query

/-- Renderers append the text of an empty buffer and change nothing before it. The text of a
condition is the one solution of the equations of a rendering, and that of a statement is given by
its columns, its table and its condition, a missing table having an empty name. -/
theorem writeSql_appends_unique_rendering :
    (∀ (v : Value) (out : String), v.writeSql out = out ++ v.toSql ∧ v.toSql = v.literal) ∧
      (∀ (c : Condition) (out : String), c.writeSql out = out ++ c.toSql) ∧
      (∀ (q : Query) (out : String), q.writeSql out = out ++ q.toSql) ∧
      (∀ f : Condition → String, Condition.IsRendering f ↔ f = Condition.toSql) ∧
      ∀ q : Query, q.toSql =
        "SELECT " ++ (if q.columns = [] then "*" else ", ".intercalate q.columns) ++ " FROM " ++
          q.table.getD "" ++ (q.condition.elim "" fun c => " WHERE " ++ c.toSql) ++ ";" := by
  refine ⟨fun v out => ⟨v.writeSql_eq_append_toSql out, v.toSql_eq_literal⟩, ?_, ?_, ?_, ?_⟩
  · exact Condition.writeSql_eq_append_toSql
  · exact Query.writeSql_eq_append_toSql
  · exact Condition.isRendering_iff
  · exact Query.toSql_eq_sections

end ScopedSelect
