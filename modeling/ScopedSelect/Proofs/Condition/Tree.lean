import ScopedSelect.Condition.Sql
import ScopedSelect.Proofs.Text.Boundary

/-!
# Conditions as trees

Facts about conditions are proved once for tests and once for groups, where they may be assumed of
every child. `Condition.nodes` lists a condition and everything below it; statements about the
columns, texts and groups of a condition quantify over that list.
-/

namespace ScopedSelect

/-- A value that is no text, or a text without a quote inside. -/
def Value.Unquoted : Value → Prop
  | .text s => '\'' ∉ s.toList
  | _ => True

instance : (v : Value) → Decidable v.Unquoted
  | .text s => inferInstanceAs (Decidable ('\'' ∉ s.toList))
  | .null => .isTrue trivial
  | .int _ => .isTrue trivial
  | .float _ => .isTrue trivial

/-- Two or more texts are joined between parentheses. -/
theorem groupText_of_two_le (op : LogicalOp) {texts : List String} (h : 2 ≤ texts.length) :
    groupText op texts = "(" ++ (" " ++ op.word ++ " ").intercalate texts ++ ")" := by
  match texts, h with
  | first :: second :: rest, _ => rfl

/-- The text of a group under `and`, spelled out. -/
theorem groupText_and {texts : List String} (h : 2 ≤ texts.length) :
    groupText .and texts = "(" ++ " and ".intercalate texts ++ ")" := by
  have hword : " " ++ LogicalOp.and.word ++ " " = " and " := by decide
  rw [groupText_of_two_le .and h, hword]

/-- The text of a group under `or`, spelled out. -/
theorem groupText_or {texts : List String} (h : 2 ≤ texts.length) :
    groupText .or texts = "(" ++ " or ".intercalate texts ++ ")" := by
  have hword : " " ++ LogicalOp.or.word ++ " " = " or " := by decide
  rw [groupText_of_two_le .or h, hword]

namespace Condition

/-- What holds of tests, and of a group whenever it holds of its children, holds of conditions. -/
@[elab_as_elim, induction_eliminator]
theorem induction {motive : Condition → Prop}
    (eq : ∀ column value, motive (.eq column value))
    (group : ∀ op cs, (∀ c ∈ cs, motive c) → motive (.group op cs)) (c : Condition) : motive c := by
  match c with
  | .eq column value => exact eq column value
  | .group op cs => exact group op cs fun d _ => induction eq group d

/-- The condition and all below it, each before its children. -/
def nodes (c : Condition) : List Condition := (c.preorder 0).map Prod.snd

/-- The listing of some trees is the listing of one after the other. -/
theorem preorderAll_eq_flatMap (cs : List Condition) (depth : Nat) :
    preorderAll cs depth = cs.flatMap (·.preorder depth) := by
  induction cs with
  | nil => rfl
  | cons c cs ih => rw [preorderAll, ih, List.flatMap_cons]

/-- The depth given to the root does not change which nodes are listed. -/
theorem map_snd_preorder (c : Condition) (depth : Nat) :
    (c.preorder depth).map Prod.snd = c.nodes := by
  induction c generalizing depth with
  | eq column value => rfl
  | group op cs ih =>
    have hchildren (depth : Nat) : (preorderAll cs depth).map Prod.snd = cs.flatMap nodes := by
      rw [preorderAll_eq_flatMap, List.map_flatMap]
      exact List.flatMap_congr fun c hc => ih c hc depth
    simp only [nodes, preorder, List.map_cons, hchildren]

/-- A test is its only node. -/
@[simp] theorem nodes_eq (column : String) (value : Value) :
    (eq column value).nodes = [eq column value] := rfl

/-- A group is listed before the nodes of its children. -/
@[simp] theorem nodes_group (op : LogicalOp) (cs : List Condition) :
    (group op cs).nodes = group op cs :: cs.flatMap nodes := by
  rw [nodes, preorder, List.map_cons, preorderAll_eq_flatMap, List.map_flatMap]
  exact congrArg _ (List.flatMap_congr fun c _ => map_snd_preorder c _)

/-- Every condition is among its own nodes. -/
theorem self_mem_nodes (c : Condition) : c ∈ c.nodes := by
  cases c with
  | eq column value => simp
  | group op cs => simp

/-- The nodes of a child are nodes of its group. -/
theorem mem_nodes_of_mem {op : LogicalOp} {cs : List Condition} {c d : Condition} (hc : c ∈ cs)
    (hd : d ∈ c.nodes) : d ∈ (group op cs).nodes := by
  rw [nodes_group, List.mem_cons, List.mem_flatMap]
  exact Or.inr ⟨c, hc, hd⟩

/-- What lies below a node of a condition lies below the condition. -/
theorem mem_nodes_trans {c d e : Condition} (hd : d ∈ c.nodes) (he : e ∈ d.nodes) : e ∈ c.nodes := by
  induction c with
  | eq column value =>
    obtain rfl : d = eq column value := by simpa using hd
    exact he
  | group op cs ih =>
    rw [nodes_group, List.mem_cons, List.mem_flatMap] at hd
    rcases hd with rfl | ⟨c, hc, hd⟩
    · exact he
    · exact mem_nodes_of_mem hc (ih c hc hd)

/-- The texts of some conditions are their texts one by one. -/
@[simp] theorem texts_eq_map (cs : List Condition) : texts cs = cs.map text := by
  induction cs with
  | nil => rfl
  | cons c cs ih => rw [texts, ih, List.map_cons]

/-- The characters of a group of at least two children: parentheses around the first child and the
others, each behind the operator. -/
theorem toList_text_group (op : LogicalOp) (first second : Condition) (rest : List Condition) :
    (group op (first :: second :: rest)).text.toList =
      '(' :: ((first.text.toList ++
        (behindEach (" " ++ op.word ++ " ") ((second :: rest).map text)).toList) ++ [')']) := by
  rw [text, texts_eq_map, List.map_cons, List.map_cons, groupText, intercalate_eq]
  simp

/-- The tests of a condition from left to right, each as its column and value. -/
def tests (c : Condition) : List (String × Value) :=
  c.nodes.filterMap fun
    | eq column value => some (column, value)
    | group _ _ => none

/-- A test is its only test. -/
@[simp] theorem tests_eq (column : String) (value : Value) :
    (eq column value).tests = [(column, value)] := rfl

/-- The tests of a group are those of its children, from left to right. -/
@[simp] theorem tests_group (op : LogicalOp) (cs : List Condition) :
    (group op cs).tests = cs.flatMap tests := by
  rw [tests, nodes_group, List.filterMap_cons_none rfl, List.filterMap_flatMap]
  rfl

/-- All columns of the condition are names without the given characters. -/
def ColumnsAvoid (excluded : List Char) (c : Condition) : Prop :=
  ∀ t ∈ c.tests, IsName excluded t.1

/-- No text that the condition compares with has a quote inside. -/
def TextsUnquoted (c : Condition) : Prop := ∀ t ∈ c.tests, t.2.Unquoted

/-- Every group of the condition has at least one child. -/
def GroupsNonempty (c : Condition) : Prop := ∀ d ∈ c.nodes, d.isLeaf = false → d.children ≠ []

instance (excluded : List Char) (c : Condition) : Decidable (ColumnsAvoid excluded c) :=
  inferInstanceAs (Decidable (∀ t ∈ c.tests, _))

instance (c : Condition) : Decidable (TextsUnquoted c) :=
  inferInstanceAs (Decidable (∀ t ∈ c.tests, _))

instance (c : Condition) : Decidable (GroupsNonempty c) :=
  inferInstanceAs (Decidable (∀ d ∈ c.nodes, _))

/-- The tests of a child are tests of its group. -/
theorem mem_tests_of_mem {op : LogicalOp} {cs : List Condition} {c : Condition} (hc : c ∈ cs)
    {t : String × Value} (ht : t ∈ c.tests) : t ∈ (group op cs).tests := by
  rw [tests_group, List.mem_flatMap]
  exact ⟨c, hc, ht⟩

/-- The columns of a child are columns of its group. -/
theorem ColumnsAvoid.of_mem {excluded : List Char} {op : LogicalOp} {cs : List Condition}
    (h : ColumnsAvoid excluded (group op cs)) {c : Condition} (hc : c ∈ cs) :
    ColumnsAvoid excluded c := fun t ht => h t (mem_tests_of_mem hc ht)

/-- Columns that avoid some characters avoid fewer of them. -/
theorem ColumnsAvoid.mono {excluded fewer : List Char} {c : Condition} (hsub : fewer ⊆ excluded)
    (h : ColumnsAvoid excluded c) : ColumnsAvoid fewer c := fun t ht => (h t ht).mono hsub

/-- The texts of a child are texts of its group. -/
theorem TextsUnquoted.of_mem {op : LogicalOp} {cs : List Condition}
    (h : TextsUnquoted (group op cs)) {c : Condition} (hc : c ∈ cs) : TextsUnquoted c :=
  fun t ht => h t (mem_tests_of_mem hc ht)

/-- The groups of a child are groups of its group. -/
theorem GroupsNonempty.of_mem {op : LogicalOp} {cs : List Condition}
    (h : GroupsNonempty (group op cs)) {c : Condition} (hc : c ∈ cs) : GroupsNonempty c :=
  fun d hd => h d (mem_nodes_of_mem hc hd)

/-- A group whose groups have children has children itself. -/
theorem GroupsNonempty.ne_nil {op : LogicalOp} {cs : List Condition}
    (h : GroupsNonempty (group op cs)) : cs ≠ [] := h _ (self_mem_nodes _) rfl

/-- A test has no groups. -/
theorem groupsNonempty_eq (column : String) (value : Value) :
    GroupsNonempty (eq column value) := by
  intro d hd hleaf
  obtain rfl : d = eq column value := by simpa using hd
  cases hleaf

/-- Every group has a child when the root is a group with a child and the groups below have one. -/
theorem groupsNonempty_group {op : LogicalOp} {cs : List Condition} (hne : cs ≠ [])
    (h : ∀ c ∈ cs, c.GroupsNonempty) : (group op cs).GroupsNonempty := by
  intro d hd hleaf
  rw [nodes_group, List.mem_cons, List.mem_flatMap] at hd
  rcases hd with rfl | ⟨c, hc, hd⟩
  · exact hne
  · exact h c hc d hd hleaf

end Condition

end ScopedSelect
