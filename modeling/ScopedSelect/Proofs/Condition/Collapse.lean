import ScopedSelect.Proofs.Condition.Test
import ScopedSelect.Proofs.Text.Separated

/-!
# What the text of a condition tells

Groups of one child and empty groups leave no mark in the text of a condition. Collapsing a
condition removes the former and replaces the latter by a blank. The text of a condition depends on
what is left only. When columns have no blank or parenthesis and texts no quote, it tells all that
is left.
-/

namespace ScopedSelect

/-- What is left of a condition: a group has at least two children, and blanks stand for groups
without any. -/
inductive Collapsed where
  | blank
  | test (t : Test)
  | group (op : LogicalOp) (first second : Collapsed) (rest : List Collapsed)

namespace Collapsed

/-- What is left of a group, from what is left of its children. -/
def ofList (op : LogicalOp) : List Collapsed → Collapsed
  | [] => blank
  | [only] => only
  | first :: second :: rest => group op first second rest

mutual

/-- The text of what is left of a condition. -/
def text : Collapsed → String
  | blank => ""
  | test t => t.text
  | group op first second rest => groupText op (first.text :: second.text :: texts rest)

/-- The texts of what is left of some conditions. -/
def texts : List Collapsed → List String
  | [] => []
  | k :: ks => k.text :: texts ks

end

/-- The texts of remains are their texts one by one. -/
@[simp] theorem texts_eq_map (ks : List Collapsed) : texts ks = ks.map text := by
  induction ks with
  | nil => rfl
  | cons k ks ih => rw [texts, ih, List.map_cons]

/-- What is left of a group is written as the group of what is left. -/
theorem text_ofList (op : LogicalOp) (ks : List Collapsed) :
    (ofList op ks).text = groupText op (ks.map text) := by
  match ks with
  | [] => rfl
  | [only] => rfl
  | first :: second :: rest => simp only [ofList, text, texts_eq_map, List.map_cons]

/-- All tests can be told from their surroundings. -/
inductive Readable : Collapsed → Prop
  | blank : Readable blank
  | test {t : Test} (ht : t.Readable) : Readable (test t)
  | group {op : LogicalOp} {first second : Collapsed} {rest : List Collapsed}
      (h : ∀ k ∈ first :: second :: rest, Readable k) : Readable (group op first second rest)

/-- A group is readable when what it is made from is. -/
theorem Readable.ofList (op : LogicalOp) {ks : List Collapsed} (hks : ∀ k ∈ ks, Readable k) :
    Readable (Collapsed.ofList op ks) := by
  match ks with
  | [] => exact .blank
  | [only] => exact hks only (by simp)
  | first :: second :: rest => exact .group hks

/-- No readable text, followed by what may follow it, is the same text with another rest. -/
def Determined (k : Collapsed) : Prop :=
  ∀ ⦃l : Collapsed⦄ ⦃leftRest rightRest : List Char⦄, l.Readable →
    StartsIn conditionStops leftRest → StartsIn conditionStops rightRest →
    k.text.toList ++ leftRest = l.text.toList ++ rightRest → k = l ∧ leftRest = rightRest

/-- The characters of a group: parentheses around the first child and the others, each behind the
operator. -/
theorem toList_text_group (op : LogicalOp) (first second : Collapsed) (rest : List Collapsed) :
    (group op first second rest).text.toList =
      '(' :: (first.text.toList ++
        ((behindEach (" " ++ op.word ++ " ") ((second :: rest).map text)).toList ++ [')'])) := by
  simp only [text, texts_eq_map, groupText, intercalate_eq, List.map_cons, String.toList_append]
  simp

/-- An operator between blanks, and the parenthesis that closes a group, end its children. -/
theorem separates_word (op : LogicalOp) : Separates conditionStops (" " ++ op.word ++ " ") ')' :=
  ⟨by decide, ' ', (op.word ++ " ").toList, by simp, by decide, by decide⟩

/-- The two operators are told apart where they stand between conditions. -/
theorem separator_append_injective {p q : LogicalOp} {leftRest rightRest : List Char}
    (h : (" " ++ p.word ++ " ").toList ++ leftRest = (" " ++ q.word ++ " ").toList ++ rightRest) :
    p = q ∧ leftRest = rightRest := by
  cases p <;> cases q <;> simp [LogicalOp.word] at h <;> exact ⟨rfl, h⟩

/-- The empty text and what follows it: no test and no group starts like that. -/
theorem Readable.eq_blank {l : Collapsed} (hl : l.Readable) {leftRest rightRest : List Char}
    (hleftRest : StartsIn conditionStops leftRest) (h : leftRest = l.text.toList ++ rightRest) :
    l = .blank := by
  cases hl with
  | blank => rfl
  | test ht =>
    have hsub : conditionStops ⊆ columnStops := by decide
    exact absurd (h ▸ hleftRest.mono hsub) (ht.not_startsIn rightRest)
  | @group op first second rest =>
    rw [h, toList_text_group, List.cons_append, startsIn_cons] at hleftRest
    exact absurd hleftRest (by decide)

/-- A readable text starts with a parenthesis only if it is that of a group. -/
theorem Readable.exists_group {l : Collapsed} (hl : l.Readable) {left rightRest : List Char}
    (hrightRest : StartsIn conditionStops rightRest) (h : '(' :: left = l.text.toList ++ rightRest) :
    ∃ op first second rest, l = .group op first second rest := by
  cases hl with
  | blank =>
    have hopen : '(' ∈ conditionStops := (startsIn_cons _ _ left).mp (by rwa [h])
    exact absurd hopen (by decide)
  | test ht =>
    have hopen : StartsIn columnStops ('(' :: left) := (startsIn_cons _ _ left).mpr (by decide)
    exact absurd (h ▸ hopen) (ht.not_startsIn rightRest)
  | @group op first second rest => exact ⟨op, first, second, rest, rfl⟩

/-- Every readable text determines what it is the text of. -/
theorem Readable.determined {k : Collapsed} (hk : k.Readable) : k.Determined := by
  induction hk with
  | blank =>
    intro l leftRest rightRest hl hleftRest hrightRest h
    obtain rfl := hl.eq_blank hleftRest h
    exact ⟨rfl, h⟩
  | @test t ht =>
    intro l leftRest rightRest hl hleftRest hrightRest h
    cases hl with
    | blank => exact absurd ((Readable.test ht).eq_blank hrightRest h.symm) (by simp)
    | test hu =>
      obtain ⟨rfl, hrest⟩ := Test.text_append_injective ht hu hleftRest hrightRest h
      exact ⟨rfl, hrest⟩
    | @group op first second rest =>
      rw [toList_text_group, List.cons_append] at h
      obtain ⟨_, _, _, _, hgroup⟩ := (Readable.test ht).exists_group hleftRest h.symm
      exact absurd hgroup (by simp)
  | @group op first second rest _ ih =>
    intro l leftRest rightRest hl hleftRest hrightRest h
    rw [toList_text_group, List.cons_append] at h
    obtain ⟨op', first', second', rest', rfl⟩ := hl.exists_group hrightRest h
    have hreadable : ∀ k ∈ first' :: second' :: rest', k.Readable := by
      cases hl with
      | group h => exact h
    rw [toList_text_group, List.cons_append] at h
    simp only [List.cons.injEq, true_and, List.append_assoc, List.singleton_append] at h
    obtain ⟨rfl, hothers⟩ := ih first List.mem_cons_self (hreadable first' List.mem_cons_self)
      ((separates_word op).startsIn _ _) ((separates_word op').startsIn _ _) h
    obtain rfl : op = op' := by
      rw [List.map_cons, List.map_cons, toList_behindEach_cons, toList_behindEach_cons] at hothers
      simp only [List.append_assoc] at hothers
      exact (separator_append_injective hothers).1
    obtain ⟨hchildren, hafter⟩ := (separates_word op).behindEach_append_injective text
      (fun k hk l hl _ _ => ih k (List.mem_cons_of_mem _ hk) (hreadable l (List.mem_cons_of_mem _ hl)))
      hothers
    obtain ⟨rfl, rfl⟩ := List.cons_eq_cons.mp hchildren
    exact ⟨rfl, hafter⟩

/-- Readable texts are different for different remains. -/
theorem Readable.text_injective {k l : Collapsed} (hk : k.Readable) (hl : l.Readable)
    (h : k.text = l.text) : k = l :=
  (hk.determined hl (startsIn_nil _) (startsIn_nil _) (by rw [h])).1

end Collapsed

namespace Condition

mutual

/-- What is left of a condition without its one-child groups, blanks standing for empty groups. -/
def collapse : Condition → Collapsed
  | eq column value => .test (.of column value)
  | group op cs => .ofList op (collapseAll cs)

/-- What is left of some conditions. -/
def collapseAll : List Condition → List Collapsed
  | [] => []
  | c :: cs => c.collapse :: collapseAll cs

end

/-- Conditions are collapsed one by one. -/
@[simp] theorem collapseAll_eq_map (cs : List Condition) : collapseAll cs = cs.map collapse := by
  induction cs with
  | nil => rfl
  | cons c cs ih => rw [collapseAll, ih, List.map_cons]

/-- Collapsing a condition does not change its text. -/
theorem text_collapse (c : Condition) : c.collapse.text = c.text := by
  induction c with
  | eq column value => exact Test.text_of column value
  | group op cs ih =>
    rw [collapse, collapseAll_eq_map, Collapsed.text_ofList, text, texts_eq_map, List.map_map]
    exact congrArg (groupText op) (List.map_congr_left ih)

/-- What is left of a condition is readable if its columns and texts are. -/
theorem readable_collapse {c : Condition} (hcolumns : c.ColumnsAvoid columnStops)
    (htexts : c.TextsUnquoted) : c.collapse.Readable := by
  induction c with
  | eq column value =>
    exact .test (accepted_of_eq hcolumns htexts Value.literal_isName_wordStops)
  | group op cs ih =>
    rw [collapse, collapseAll_eq_map]
    refine .ofList op fun k hk => ?_
    obtain ⟨c, hc, rfl⟩ := List.mem_map.mp hk
    exact ih c hc (hcolumns.of_mem hc) (htexts.of_mem hc)

/-- The text of a condition depends on what is left of it only; and it determines what is left when
columns are not empty and have no blank or parenthesis, and texts have no quote. -/
theorem toSql_eq_of_collapse_eq_and_conversely (c d : Condition) :
    (c.collapse = d.collapse → c.toSql = d.toSql) ∧
      (c.ColumnsAvoid [' ', '(', ')'] → c.TextsUnquoted →
        d.ColumnsAvoid [' ', '(', ')'] → d.TextsUnquoted →
          c.toSql = d.toSql → c.collapse = d.collapse) := by
  constructor
  · intro h
    rw [toSql_eq, toSql_eq, ← text_collapse, ← text_collapse, h]
  · intro hccolumns hctexts hdcolumns hdtexts h
    apply (readable_collapse hccolumns hctexts).text_injective (readable_collapse hdcolumns hdtexts)
    rw [text_collapse, text_collapse, ← toSql_eq, ← toSql_eq, h]

/-- Two conditions with hidden operators, a blank among siblings and a text that looks like
structure: equal when written, equal when collapsed. -/
theorem toSql_and_collapse_of_hidden_groups :
    let test := eq "a" (.text "x) or (y")
    let c := group .and [group .or [test], group .or [], eq "b" .null]
    let d := group .and [test, group .and [], group .and [group .or [eq "b" .null]]]
    (c.ColumnsAvoid [' ', '(', ')'] ∧ c.TextsUnquoted) ∧
      (d.ColumnsAvoid [' ', '(', ')'] ∧ d.TextsUnquoted) ∧
        c.toSql = "(a = 'x) or (y' and  and b is null)" ∧ c.toSql = d.toSql ∧
          c.collapse = d.collapse := by
  intro test c d
  have hc : c.ColumnsAvoid [' ', '(', ')'] ∧ c.TextsUnquoted := by decide +kernel
  have hd : d.ColumnsAvoid [' ', '(', ')'] ∧ d.TextsUnquoted := by decide +kernel
  have hequal : c.toSql = d.toSql :=
    (toSql_eq_of_collapse_eq_and_conversely c d).1 rfl
  exact ⟨hc, hd, by decide +kernel, hequal,
    (toSql_eq_of_collapse_eq_and_conversely c d).2 hc.1 hc.2 hd.1 hd.2 hequal⟩

end Condition

end ScopedSelect
