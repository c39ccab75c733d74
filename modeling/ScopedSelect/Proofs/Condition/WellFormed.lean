import ScopedSelect.Proofs.Condition.Collapse

/-!
# When a condition is written well

The language of filters has no place for an empty condition: a group in parentheses joins two or
more filters by one operator. A blank condition, a group without children or one whose only child
is blank, has no text, and inside a larger group it leaves an operator without an operand. That
cannot be read in another way: the text is a filter exactly when every group has a child.
-/

namespace ScopedSelect

/-- The characters that columns and tables of the statement language avoid. -/
def nameStops : List Char := [' ', ',', '(', ')', '\'', ';']

/-- A written number. -/
def IsNumeral (s : String) : Prop := ∃ v : Value, v.isNumber ∧ s = v.literal

/-- The filters of the statement language: tests, and two or more filters in parentheses joined by
`and` throughout or by `or` throughout. -/
inductive IsFilter : String → Prop
  | test (t : Test) (ht : t.Accepted (IsName nameStops) IsNumeral) : IsFilter t.text
  | and (first second : String) (rest : List String)
      (h : ∀ s ∈ first :: second :: rest, IsFilter s) :
      IsFilter ("(" ++ " and ".intercalate (first :: second :: rest) ++ ")")
  | or (first second : String) (rest : List String)
      (h : ∀ s ∈ first :: second :: rest, IsFilter s) :
      IsFilter ("(" ++ " or ".intercalate (first :: second :: rest) ++ ")")

/-- A group of filters is written as a filter, whichever operator joins them. -/
theorem isFilter_groupText (op : LogicalOp) {first second : String} {rest : List String}
    (h : ∀ s ∈ first :: second :: rest, IsFilter s) :
    IsFilter (groupText op (first :: second :: rest)) := by
  have htwo : 2 ≤ (first :: second :: rest).length := by simp
  cases op with
  | and =>
    rw [groupText_and htwo]
    exact .and first second rest h
  | or =>
    rw [groupText_or htwo]
    exact .or first second rest h

namespace Collapsed

/-- Nothing blank is left. -/
inductive Full : Collapsed → Prop
  | test (t : Test) : Full (test t)
  | group {op : LogicalOp} {first second : Collapsed} {rest : List Collapsed}
      (h : ∀ k ∈ first :: second :: rest, Full k) : Full (group op first second rest)

/-- Texts of readable things without blanks are those of a list of them. -/
theorem exists_list_of_texts {texts : List String}
    (htexts : ∀ s ∈ texts, ∃ k : Collapsed, k.Readable ∧ k.Full ∧ k.text = s) :
    ∃ ks : List Collapsed, (∀ k ∈ ks, k.Readable ∧ k.Full) ∧ ks.map text = texts := by
  induction texts with
  | nil => exact ⟨[], by simp, rfl⟩
  | cons s texts ih =>
    obtain ⟨k, hreadable, hfull, hk⟩ := htexts s List.mem_cons_self
    obtain ⟨ks, hks, hmap⟩ := ih fun s hs => htexts s (List.mem_cons_of_mem _ hs)
    refine ⟨k :: ks, ?_, by rw [List.map_cons, hk, hmap]⟩
    intro l hl
    rcases List.mem_cons.mp hl with rfl | hl
    · exact ⟨hreadable, hfull⟩
    · exact hks l hl

/-- The group text of two or more such texts is that of a readable group without blanks. -/
theorem exists_of_groupText (op : LogicalOp) {first second : String} {rest : List String}
    (htexts : ∀ s ∈ first :: second :: rest,
      ∃ k : Collapsed, k.Readable ∧ k.Full ∧ k.text = s) :
    ∃ k : Collapsed, k.Readable ∧ k.Full ∧ k.text = groupText op (first :: second :: rest) := by
  obtain ⟨ks, hks, hmap⟩ := exists_list_of_texts htexts
  match ks with
  | [] => simp at hmap
  | [only] => simp at hmap
  | k :: l :: ls =>
    refine ⟨.group op k l ls, ?_, .group fun m hm => (hks m hm).2, ?_⟩
    · exact .ofList op fun m hm => (hks m hm).1
    · exact (text_ofList op (k :: l :: ls)).trans (by rw [hmap])

/-- A filter is the text of something that is readable and has no blank. -/
theorem exists_of_isFilter {s : String} (h : IsFilter s) :
    ∃ k : Collapsed, k.Readable ∧ k.Full ∧ k.text = s := by
  induction h with
  | test t ht =>
    have hreadable : t.Readable := by
      refine ht.mono (fun _ h => h.mono (by decide)) ?_
      rintro _ ⟨v, hv, rfl⟩
      exact Value.literal_isName_wordStops hv
    exact ⟨.test t, .test hreadable, .test t, rfl⟩
  | and first second rest _ ih =>
    rw [← groupText_and (by simp)]
    exact exists_of_groupText .and ih
  | or first second rest _ ih =>
    rw [← groupText_or (by simp)]
    exact exists_of_groupText .or ih

end Collapsed

namespace Condition

/-- Nothing blank is left of a condition exactly when every group has a child. -/
theorem full_collapse_iff (c : Condition) : c.collapse.Full ↔ c.GroupsNonempty := by
  induction c with
  | eq column value =>
    exact ⟨fun _ => groupsNonempty_eq column value, fun _ => .test _⟩
  | group op cs ih =>
    rw [collapse, collapseAll_eq_map]
    cases cs with
    | nil =>
      constructor
      · intro h
        cases h
      · exact fun h => absurd rfl h.ne_nil
    | cons c cs =>
      cases cs with
      | nil =>
        have honly := ih c List.mem_cons_self
        constructor
        · intro h
          refine groupsNonempty_group (List.cons_ne_nil _ _) fun d hd => ?_
          obtain rfl := List.mem_singleton.mp hd
          exact honly.mp h
        · exact fun h => honly.mpr (h.of_mem List.mem_cons_self)
      | cons d cs =>
        have hchildren : (∀ k ∈ (c :: d :: cs).map collapse, k.Full) ↔
            ∀ e ∈ c :: d :: cs, e.GroupsNonempty := by
          rw [List.forall_mem_map]
          exact forall₂_congr ih
        constructor
        · rintro (_ | ⟨h⟩)
          exact groupsNonempty_group (List.cons_ne_nil _ _) (hchildren.mp h)
        · exact fun h => .group (hchildren.mpr fun e he => h.of_mem he)

/-- A condition whose groups have children is written as a filter. -/
theorem isFilter_text {c : Condition} (hgroups : c.GroupsNonempty)
    (hcolumns : c.ColumnsAvoid nameStops) (htexts : c.TextsUnquoted) : IsFilter c.text := by
  induction c with
  | eq column value =>
    have hnumber (hv : value.isNumber) : IsNumeral value.literal := ⟨value, hv, rfl⟩
    rw [text, ← Test.text_of]
    exact .test _ (accepted_of_eq hcolumns htexts hnumber)
  | group op cs ih =>
    have hchild (c : Condition) (hc : c ∈ cs) : IsFilter c.text :=
      ih c hc (hgroups.of_mem hc) (hcolumns.of_mem hc) (htexts.of_mem hc)
    rw [text, texts_eq_map]
    match cs with
    | [] => exact absurd rfl hgroups.ne_nil
    | [only] => exact hchild only (by simp)
    | c :: d :: cs =>
      refine isFilter_groupText op fun s hs => ?_
      obtain ⟨e, he, rfl⟩ := List.mem_map.mp (by simpa using hs : s ∈ (c :: d :: cs).map text)
      exact hchild e he

/-- The text of a condition is a filter exactly when every group has a child. -/
theorem isFilter_text_iff {c : Condition} (hcolumns : c.ColumnsAvoid nameStops)
    (htexts : c.TextsUnquoted) : IsFilter c.text ↔ c.GroupsNonempty := by
  constructor
  · intro h
    obtain ⟨k, hreadable, hfull, htext⟩ := Collapsed.exists_of_isFilter h
    have hcollapse : c.collapse.Readable := readable_collapse (hcolumns.mono (by decide)) htexts
    obtain rfl : k = c.collapse :=
      hreadable.text_injective hcollapse (by rw [htext, text_collapse])
    exact (full_collapse_iff c).mp hfull
  · exact fun h => isFilter_text h hcolumns htexts

/-- A group without children, or with one child that is blank. -/
inductive Blank : Condition → Prop
  | empty (op : LogicalOp) : Blank (group op [])
  | single (op : LogicalOp) {c : Condition} (h : Blank c) : Blank (group op [c])

/-- At the end of a blank chain of groups is one without children. -/
theorem Blank.not_groupsNonempty {c : Condition} (h : c.Blank) : ¬ c.GroupsNonempty := by
  induction h with
  | empty op => exact fun hc => hc.ne_nil rfl
  | single op _ ih => exact fun hc => ih (hc.of_mem List.mem_cons_self)

/-- Every group has a child exactly when the condition is not blank and no group of two or more
children has a blank one. -/
theorem groupsNonempty_iff (c : Condition) :
    c.GroupsNonempty ↔ ¬ c.Blank ∧
      ∀ op cs, group op cs ∈ c.nodes → 2 ≤ cs.length → ∀ d ∈ cs, ¬ d.Blank := by
  constructor
  · refine fun h => ⟨fun hblank => hblank.not_groupsNonempty h, fun op cs hgroup _ d hd hblank => ?_⟩
    have hnode : d ∈ c.nodes := mem_nodes_trans hgroup (mem_nodes_of_mem hd (self_mem_nodes d))
    exact hblank.not_groupsNonempty fun e he => h e (mem_nodes_trans hnode he)
  · rintro ⟨hroot, hbelow⟩
    induction c with
    | eq column value => exact groupsNonempty_eq column value
    | group op cs ih =>
      have hne : cs ≠ [] := by
        rintro rfl
        exact hroot (.empty op)
      have hchild (c : Condition) (hc : c ∈ cs) : ¬ c.Blank := by
        match cs with
        | [only] =>
          obtain rfl : c = only := by simpa using hc
          exact fun hblank => hroot (.single op hblank)
        | first :: second :: rest =>
          exact hbelow op _ (self_mem_nodes _) (by simp) c hc
      exact groupsNonempty_group hne fun c hc => ih c hc (hchild c hc)
        fun op cs hgroup => hbelow op cs (mem_nodes_of_mem hc hgroup)

end Condition

end ScopedSelect
