import Mathlib.Algebra.GroupWithZero.Nat
import ScopedSelect.Proofs.Condition.Test
import ScopedSelect.Proofs.Text.Balanced

/-!
# What groups add to the text of a condition

The text of a condition is made of the texts of its tests and of what its groups put around and between
their children, which is nothing unless there are at least two children. Whatever adds up over texts
adds up over the tests and these groups: the length of the text, and how often a character occurs in it.
When neither a column nor a text has a parenthesis inside, all parentheses are those of groups. They
are balanced then, and the first one of a group of at least two children is closed by the last one.
-/

namespace ScopedSelect

/-- The text has no parenthesis. -/
def Unbracketed (s : String) : Prop := '(' ∉ s.toList ∧ ')' ∉ s.toList

instance (s : String) : Decidable (Unbracketed s) :=
  inferInstanceAs (Decidable ('(' ∉ s.toList ∧ ')' ∉ s.toList))

/-- Texts without a parenthesis have none when they are put together. -/
theorem Unbracketed.append {s t : String} (hs : Unbracketed s) (ht : Unbracketed t) :
    Unbracketed (s ++ t) := by
  rw [Unbracketed, String.toList_append, List.mem_append, List.mem_append]
  exact ⟨not_or.mpr ⟨hs.1, ht.1⟩, not_or.mpr ⟨hs.2, ht.2⟩⟩

/-- A text without a parenthesis is balanced. -/
theorem Unbracketed.balanced {s : String} (hs : Unbracketed s) : Balanced s.toList :=
  .of_not_mem hs.1 hs.2

/-- A value that is no text, or a text without a parenthesis inside. -/
def Value.Unbracketed : Value → Prop
  | .text s => ScopedSelect.Unbracketed s
  | _ => True

instance : (v : Value) → Decidable v.Unbracketed
  | .text s => inferInstanceAs (Decidable (ScopedSelect.Unbracketed s))
  | .null => .isTrue trivial
  | .int _ => .isTrue trivial
  | .float _ => .isTrue trivial

/-- The literal of a value has no parenthesis that is not in its text. -/
theorem Value.Unbracketed.literal {v : Value} (hv : v.Unbracketed) :
    ScopedSelect.Unbracketed v.literal := by
  have hnumber (hv : v.isNumber) : ScopedSelect.Unbracketed v.literal := by
    have hname : IsName ['(', ')'] v.literal := literal_isName hv (by decide)
    exact ⟨fun h => hname.2 _ h (by decide), fun h => hname.2 _ h (by decide)⟩
  cases v with
  | null => exact (by decide : ScopedSelect.Unbracketed "null")
  | int n => exact hnumber rfl
  | float x => exact hnumber rfl
  | text s =>
    have hquote : ScopedSelect.Unbracketed "'" := by decide
    exact (hquote.append hv).append hquote

/-- The text of a test has no parenthesis that is not in its column or its value. -/
theorem unbracketed_testText {column : String} {value : Value} (hcolumn : Unbracketed column)
    (hvalue : value.Unbracketed) : Unbracketed (testText column value) := by
  have hnull : Unbracketed " is null" := by decide
  have hequals : Unbracketed " = " := by decide
  unfold testText
  split
  · exact hcolumn.append hnull
  · exact (hcolumn.append hequals).append hvalue.literal

/-- The operator between blanks has no parenthesis. -/
theorem LogicalOp.unbracketed_separator (op : LogicalOp) : Unbracketed (" " ++ op.word ++ " ") := by
  cases op <;> decide

/-- The amount of a text is the sum of the amounts of its parts. -/
def AddsUp (amount : String → Nat) : Prop := ∀ s t, amount (s ++ t) = amount s + amount t

/-- The length of texts adds up. -/
theorem addsUp_length : AddsUp String.length := String.length_append

/-- The occurrences of a character add up. -/
theorem addsUp_count (ch : Char) : AddsUp fun s => s.toList.count ch := by
  intro s t
  change (s ++ t).toList.count ch = _
  rw [String.toList_append, List.count_append]

/-- What a group of at least two children, given by its operator and their number, adds to the amounts
of its children. -/
def share (amount : String → Nat) (g : LogicalOp × Nat) : Nat :=
  amount "(" + (g.2 - 1) * amount (" " ++ g.1.word ++ " ") + amount ")"

/-- A share of length: two parentheses, and the operators with their blanks. -/
theorem share_length (g : LogicalOp × Nat) :
    share String.length g = 2 + (g.2 - 1) * (g.1.word.length + 2) := by
  have hseparator : (" " ++ g.1.word ++ " ").length = g.1.word.length + 2 := by
    rw [String.length_append, String.length_append]
    change 1 + g.1.word.length + 1 = _
    omega
  have hparens : "(".length = 1 ∧ ")".length = 1 := by decide
  rw [share, hseparator, hparens.1, hparens.2]
  omega

/-- A share of opening parentheses is one of them. -/
theorem share_count_open (g : LogicalOp × Nat) : share (fun s => s.toList.count '(') g = 1 := by
  have hseparator : (" " ++ g.1.word ++ " ").toList.count '(' = 0 :=
    List.count_eq_zero.mpr g.1.unbracketed_separator.1
  rw [share, hseparator]
  rfl

/-- A share of closing parentheses is one of them. -/
theorem share_count_close (g : LogicalOp × Nat) : share (fun s => s.toList.count ')') g = 1 := by
  have hseparator : (" " ++ g.1.word ++ " ").toList.count ')' = 0 :=
    List.count_eq_zero.mpr g.1.unbracketed_separator.2
  rw [share, hseparator]
  rfl

namespace AddsUp

variable {amount : String → Nat}

/-- The empty text has no amount. -/
theorem empty (h : AddsUp amount) : amount "" = 0 := by
  have hempty := h "" ""
  rw [String.append_empty] at hempty
  omega

/-- The separator counts once for each text behind it. -/
theorem behindEach (h : AddsUp amount) (separator : String) (texts : List String) :
    amount (behindEach separator texts) = (texts.map amount).sum + texts.length * amount separator := by
  induction texts with
  | nil => simpa [ScopedSelect.behindEach] using h.empty
  | cons s texts ih =>
    rw [ScopedSelect.behindEach, h, h, ih, List.map_cons, List.sum_cons, List.length_cons,
      Nat.succ_mul]
    omega

/-- A group adds its share if it has at least two children, and nothing otherwise. -/
theorem groupText (h : AddsUp amount) (op : LogicalOp) (texts : List String) :
    amount (groupText op texts) =
      (texts.map amount).sum + if 2 ≤ texts.length then share amount (op, texts.length) else 0 := by
  match texts with
  | [] => simpa [ScopedSelect.groupText] using h.empty
  | [only] => simp [ScopedSelect.groupText]
  | first :: second :: rest =>
    have hrest := h.behindEach (" " ++ op.word ++ " ") (second :: rest)
    have hwide : 2 ≤ (first :: second :: rest).length := by simp
    rw [ScopedSelect.groupText, intercalate_eq, h, h, h, hrest, if_pos hwide, share]
    simp only [List.map_cons, List.sum_cons, List.length_cons, Nat.add_sub_cancel]
    omega

end AddsUp

namespace Condition

/-- No column and no text of the condition has a parenthesis. -/
def Unbracketed (c : Condition) : Prop :=
  ∀ t ∈ c.tests, ScopedSelect.Unbracketed t.1 ∧ t.2.Unbracketed

instance (c : Condition) : Decidable c.Unbracketed :=
  inferInstanceAs (Decidable (∀ t ∈ c.tests, _))

/-- The tests of a child have no parentheses if those of its group have none. -/
theorem Unbracketed.of_mem {op : LogicalOp} {cs : List Condition} (h : (group op cs).Unbracketed)
    {c : Condition} (hc : c ∈ cs) : c.Unbracketed := fun t ht => h t (mem_tests_of_mem hc ht)

/-- The operator of a group of at least two children, and their number. -/
def wide? : Condition → Option (LogicalOp × Nat)
  | eq _ _ => none
  | group op cs => if 2 ≤ cs.length then some (op, cs.length) else none

/-- The groups of at least two children, each as its operator and their number. -/
def wideGroups (c : Condition) : List (LogicalOp × Nat) := c.nodes.filterMap wide?

/-- A test has no groups. -/
@[simp] theorem wideGroups_eq (column : String) (value : Value) :
    (eq column value).wideGroups = [] := rfl

/-- A group of at least two children counts itself, and every group counts those of its children. -/
@[simp] theorem wideGroups_group (op : LogicalOp) (cs : List Condition) :
    (group op cs).wideGroups =
      (if 2 ≤ cs.length then [(op, cs.length)] else []) ++ cs.flatMap wideGroups := by
  have hchildren : (cs.flatMap nodes).filterMap wide? = cs.flatMap wideGroups :=
    List.filterMap_flatMap
  rw [wideGroups, nodes_group]
  by_cases h : 2 ≤ cs.length
  · have hself : wide? (group op cs) = some (op, cs.length) := if_pos h
    rw [List.filterMap_cons_some hself, hchildren, if_pos h, List.singleton_append]
  · have hself : wide? (group op cs) = none := if_neg h
    rw [List.filterMap_cons_none hself, hchildren, if_neg h, List.nil_append]

end Condition

section

variable {amount : String → Nat}

/-- If the amount of each text is accounted for, so is the amount of all of them. -/
theorem AddsUp.sum_texts_of_forall {cs : List Condition}
    (hcs : ∀ c ∈ cs, amount c.text =
      (c.tests.map fun t => amount (testText t.1 t.2)).sum + (c.wideGroups.map (share amount)).sum) :
    ((cs.map Condition.text).map amount).sum =
      ((cs.flatMap Condition.tests).map fun t => amount (testText t.1 t.2)).sum +
        ((cs.flatMap Condition.wideGroups).map (share amount)).sum := by
  induction cs with
  | nil => rfl
  | cons c cs ih =>
    have hrest := ih fun d hd => hcs d (List.mem_cons_of_mem c hd)
    simp only [List.map_cons, List.sum_cons, List.flatMap_cons, List.map_append, List.sum_append,
      hcs c List.mem_cons_self, hrest]
    omega

/-- Whatever adds up over texts adds up over the tests of a condition and its groups of at least two
children. -/
theorem AddsUp.text (h : AddsUp amount) (c : Condition) :
    amount c.text = (c.tests.map fun t => amount (testText t.1 t.2)).sum +
      (c.wideGroups.map (share amount)).sum := by
  induction c with
  | eq column value => simp [Condition.text]
  | group op cs ih =>
    rw [Condition.text, Condition.texts_eq_map, h.groupText, AddsUp.sum_texts_of_forall ih,
      Condition.tests_group, Condition.wideGroups_group, List.length_map, List.map_append,
      List.sum_append]
    split
    · rw [List.map_singleton, List.sum_singleton]
      omega
    · rw [List.map_nil, List.sum_nil]
      omega

end

namespace Condition

/-- A character that is in no test occurs as often as the groups of at least two children put it around
them. -/
theorem count_text {c : Condition} {ch : Char}
    (htests : ∀ t ∈ c.tests, ch ∉ (testText t.1 t.2).toList)
    (hshare : ∀ g, share (fun s => s.toList.count ch) g = 1) :
    c.text.toList.count ch = c.wideGroups.length := by
  have hzero : c.tests.map (fun t => (testText t.1 t.2).toList.count ch) = c.tests.map fun _ => 0 :=
    List.map_congr_left fun t ht => List.count_eq_zero.mpr (htests t ht)
  have hone : c.wideGroups.map (share fun s => s.toList.count ch) = c.wideGroups.map fun _ => 1 :=
    List.map_congr_left fun g _ => hshare g
  rw [(addsUp_count ch).text c, hzero, hone]
  simp

/-- The tests of the condition have no parentheses. -/
theorem Unbracketed.testText {c : Condition} (hc : c.Unbracketed) :
    ∀ t ∈ c.tests, ScopedSelect.Unbracketed (testText t.1 t.2) :=
  fun t ht => unbracketed_testText (hc t ht).1 (hc t ht).2

/-- The text of a group of at least two children, given that of each of them is balanced, is a balanced
text between parentheses. -/
theorem exists_balanced_of_wide (op : LogicalOp) {cs : List Condition} (hwide : 2 ≤ cs.length)
    (hcs : ∀ c ∈ cs, Balanced c.text.toList) :
    ∃ inner, Balanced inner ∧ (group op cs).text.toList = '(' :: (inner ++ [')']) := by
  match cs with
  | first :: second :: rest =>
    refine ⟨_, (hcs first List.mem_cons_self).append ?_, toList_text_group op first second rest⟩
    refine balanced_behindEach op.unbracketed_separator.balanced ?_
    intro s hs
    obtain ⟨c, hc, rfl⟩ := List.mem_map.mp hs
    exact hcs c (List.mem_cons_of_mem first hc)

/-- Without parentheses in columns and texts, the text is balanced. -/
theorem Unbracketed.balanced_text {c : Condition} (hc : c.Unbracketed) : Balanced c.text.toList := by
  induction c with
  | eq column value =>
    exact (hc.testText (column, value) (by simp)).balanced
  | group op cs ih =>
    have hcs (c : Condition) (hmem : c ∈ cs) : Balanced c.text.toList := ih c hmem (hc.of_mem hmem)
    match cs with
    | [] => exact (by decide : ScopedSelect.Unbracketed "").balanced
    | [only] => exact hcs only List.mem_cons_self
    | first :: second :: rest =>
      obtain ⟨inner, hinner, htext⟩ := exists_balanced_of_wide op (by simp) hcs
      rw [htext]
      exact hinner.enclosed

/-- The text of a condition is as long as the texts of its tests and, for each group of at least two
children, a pair of parentheses and an operator with its blanks between any two neighbours. When
neither columns nor texts have parentheses, there is one pair for each of these groups, no part from the
left closes more than it opens, and if the condition is such a group itself, the first parenthesis is
closed by the last character only. -/
theorem toSql_length_and_parentheses (c : Condition) :
    c.toSql.length = (c.tests.map fun t => (eq t.1 t.2).toSql.length).sum +
        (c.wideGroups.map fun g => 2 + (g.2 - 1) * (g.1.word.length + 2)).sum ∧
      (c.Unbracketed →
        c.toSql.toList.count '(' = c.wideGroups.length ∧
        c.toSql.toList.count ')' = c.wideGroups.length ∧
        (∀ part, part <+: c.toSql.toList → part.count ')' ≤ part.count '(') ∧
        (2 ≤ c.children.length → ∀ part, part <+: c.toSql.toList → part ≠ [] →
          part.count ')' = part.count '(' → part = c.toSql.toList)) := by
  constructor
  · have htests : (fun t : String × Value => (eq t.1 t.2).toSql.length) =
        fun t => (testText t.1 t.2).length := funext fun t => congrArg String.length (toSql_eq _)
    rw [toSql_eq, addsUp_length.text c, htests, funext share_length]
  · intro hc
    have hbalanced := hc.balanced_text
    rw [toSql_eq]
    refine ⟨count_text (fun t ht => (hc.testText t ht).1) share_count_open,
      count_text (fun t ht => (hc.testText t ht).2) share_count_close, hbalanced.close_le_open, ?_⟩
    intro hwide part hpart hne hclosed
    cases c with
    | eq column value => exact absurd hwide (Nat.not_succ_le_zero 1)
    | group op cs =>
      change 2 ≤ cs.length at hwide
      have hcs : ∀ c ∈ cs, Balanced c.text.toList := fun c hmem => (hc.of_mem hmem).balanced_text
      obtain ⟨inner, hinner, htext⟩ := exists_balanced_of_wide op hwide hcs
      rw [htext] at hpart ⊢
      rcases hinner.count_lt_of_prefix hpart with hempty | hopen | hwhole
      · exact absurd hempty hne
      · exact absurd hclosed (Nat.ne_of_lt hopen)
      · exact hwhole

/-- A group in a group, with an empty one and a one-child one beside it: five operators' worth of
characters, two pairs of parentheses, and no part but the whole that closes them all. -/
theorem toSql_length_and_parentheses_of_mixed_groups :
    let c := group .and [group .or [eq "a" (.text "x"), eq "b" .null, eq "c" (.text "")],
      group .or [], group .and [eq "d" (.text "y")]]
    (c.Unbracketed ∧ 2 ≤ c.children.length) ∧
      c.toSql = "((a = 'x' or b is null or c = '') and  and d = 'y')" ∧
      c.wideGroups = [(.and, 3), (.or, 3)] ∧ c.toSql.length = (7 + 9 + 6 + 7) + (12 + 10) ∧
      c.toSql.toList.count '(' = 2 ∧ c.toSql.toList.count ')' = 2 ∧
      ∀ part, part <+: c.toSql.toList → part.count ')' ≤ part.count '(' ∧
        (part ≠ [] → part.count ')' = part.count '(' → part = c.toSql.toList) := by
  intro c
  have hc : c.Unbracketed := by decide +kernel
  have hwide : 2 ≤ c.children.length := by decide
  have hgroups : c.wideGroups = [(.and, 3), (.or, 3)] := by decide
  obtain ⟨hlength, hparens⟩ := toSql_length_and_parentheses c
  obtain ⟨hopen, hclose, hle, hlast⟩ := hparens hc
  refine ⟨⟨hc, hwide⟩, by decide +kernel, hgroups, ?_, ?_, ?_, fun part hpart =>
    ⟨hle part hpart, hlast hwide part hpart⟩⟩
  · rw [hlength]
    decide +kernel
  · rw [hopen, hgroups]
    rfl
  · rw [hclose, hgroups]
    rfl

end Condition

end ScopedSelect
