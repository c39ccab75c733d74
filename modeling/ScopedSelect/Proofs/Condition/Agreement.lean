import Mathlib.Data.List.Forall2
import ScopedSelect.Proofs.Condition.Tree
import ScopedSelect.Proofs.Text.Separated
import ScopedSelect.Proofs.Value.Agreement

/-!
# Equality of conditions and their texts

Equality of conditions compares numbers as numbers. So two conditions are equal just if neither has a
NaN in its tests and they are the same once the signs of zeros are dropped, from which it follows that
equality is symmetric and transitive, and reflexive where there is no NaN. Equal conditions have the
same text if corresponding zeros have the same sign, for they are the same then. If some sign differs,
the texts differ as well: up to the first such test both texts are the same, and there one has a minus
sign and the other has not. Columns and texts may have anything inside.
-/

namespace ScopedSelect

namespace Condition

/-- No test of the condition is for NaN. -/
def IsNaNFree (c : Condition) : Prop := ∀ t ∈ c.tests, t.2.isNaN = false

instance (c : Condition) : Decidable c.IsNaNFree :=
  inferInstanceAs (Decidable (∀ t ∈ c.tests, _))

/-- A group is free of NaN if its children are. -/
theorem isNaNFree_group_iff {op : LogicalOp} {cs : List Condition} :
    (group op cs).IsNaNFree ↔ ∀ c ∈ cs, c.IsNaNFree := by
  simp only [IsNaNFree, tests_group, List.forall_mem_flatMap]

mutual

/-- The condition without the signs of zeros. -/
def unsignedZeros : Condition → Condition
  | eq column value => eq column value.unsignedZero
  | group op cs => group op (unsignedZerosAll cs)

/-- Some conditions without the signs of zeros. -/
def unsignedZerosAll : List Condition → List Condition
  | [] => []
  | c :: cs => c.unsignedZeros :: unsignedZerosAll cs

end

/-- Conditions lose the signs of their zeros one by one. -/
@[simp] theorem unsignedZerosAll_eq_map (cs : List Condition) :
    unsignedZerosAll cs = cs.map unsignedZeros := by
  induction cs with
  | nil => rfl
  | cons c cs ih => rw [unsignedZerosAll, ih, List.map_cons]

/-- A test loses the sign of its zero. -/
@[simp] theorem unsignedZeros_eq (column : String) (value : Value) :
    (eq column value).unsignedZeros = eq column value.unsignedZero := rfl

/-- A group loses the signs of zeros in its children. -/
@[simp] theorem unsignedZeros_group (op : LogicalOp) (cs : List Condition) :
    (group op cs).unsignedZeros = group op (cs.map unsignedZeros) := by
  rw [unsignedZeros, unsignedZerosAll_eq_map]

/-- If equality of each condition is settled, so is equality of the lists of them. -/
theorem allAgree_iff_of_forall {cs : List Condition}
    (hcs : ∀ c ∈ cs, ∀ d : Condition,
      c.agrees d ↔ c.IsNaNFree ∧ d.IsNaNFree ∧ c.unsignedZeros = d.unsignedZeros)
    (ds : List Condition) :
    allAgree cs ds ↔ (∀ c ∈ cs, c.IsNaNFree) ∧ (∀ d ∈ ds, d.IsNaNFree) ∧
      cs.map unsignedZeros = ds.map unsignedZeros := by
  induction cs generalizing ds with
  | nil => cases ds <;> simp [allAgree]
  | cons c cs ih =>
    cases ds with
    | nil => simp [allAgree]
    | cons d ds =>
      have hrest := ih (fun c hc => hcs c (List.mem_cons_of_mem _ hc)) ds
      simp only [allAgree, Bool.and_eq_true, hcs c List.mem_cons_self d, hrest, List.forall_mem_cons,
        List.map_cons, List.cons.injEq]
      tauto

/-- Conditions are equal if neither has a NaN and they are the same without the signs of zeros. -/
theorem agrees_iff {c d : Condition} :
    c.agrees d ↔ c.IsNaNFree ∧ d.IsNaNFree ∧ c.unsignedZeros = d.unsignedZeros := by
  induction c generalizing d with
  | eq column value =>
    cases d with
    | eq column' value' => simp [agrees, IsNaNFree, Value.agrees_iff]; tauto
    | group op ds => simp [agrees]
  | group op cs ih =>
    cases d with
    | eq column value => simp [agrees]
    | group op' ds =>
      simp only [agrees, Bool.and_eq_true, beq_iff_eq, allAgree_iff_of_forall fun c hc d => ih c hc,
        isNaNFree_group_iff, unsignedZeros_group, group.injEq]
      tauto

/-- Conditions that are the same without the signs of zeros are built alike: what holds of tests of one
column whose values are the same but for that, and of groups of one operator whenever it holds of each
pair of children, holds of them. -/
@[elab_as_elim]
theorem unsignedZeros_induction
    {motive : (c d : Condition) → c.unsignedZeros = d.unsignedZeros → Prop}
    (eq : ∀ column v w, (h : v.unsignedZero = w.unsignedZero) →
      motive (eq column v) (eq column w) (congrArg (eq column) h))
    (group : ∀ op cs ds, (h : (group op cs).unsignedZeros = (group op ds).unsignedZeros) →
      List.Forall₂ (fun c d => ∃ h, motive c d h) cs ds → motive (group op cs) (group op ds) h)
    (c d : Condition) (h : c.unsignedZeros = d.unsignedZeros) : motive c d h := by
  induction c generalizing d with
  | eq column value =>
    cases d with
    | group op ds => simp at h
    | eq column' value' =>
      obtain ⟨rfl, hvalue⟩ := Condition.eq.inj h
      exact eq column value value' hvalue
  | group op cs ih =>
    cases d with
    | eq column value => simp at h
    | group op' ds =>
      have hgroups := h
      rw [unsignedZeros_group, unsignedZeros_group] at hgroups
      obtain ⟨rfl, hchildren⟩ := Condition.group.inj hgroups
      -- Lists with the same image correspond one by one.
      rw [← List.forall₂_eq_eq_eq, List.forall₂_map_left_iff,
        List.forall₂_map_right_iff] at hchildren
      have hmotives : ∀ c ∈ cs, ∀ d, (h : c.unsignedZeros = d.unsignedZeros) → motive c d h :=
        fun c hc d => ih c hc d
      have hboth := (List.forall₂_and_left _ _).mpr ⟨hmotives, hchildren⟩
      exact group op cs ds h (hboth.imp fun c d hcd => ⟨hcd.2, hcd.1 d hcd.2⟩)

/-- Dropping the signs of zeros changes the values of the tests only. -/
theorem tests_unsignedZeros (c : Condition) :
    c.unsignedZeros.tests = c.tests.map fun t => (t.1, t.2.unsignedZero) := by
  induction c with
  | eq column value => rfl
  | group op cs ih =>
    rw [unsignedZeros_group, tests_group, tests_group, List.map_flatMap, List.flatMap_map]
    exact List.flatMap_congr ih

/-- Conditions that are the same without the signs of zeros have as many tests. -/
theorem length_tests_eq {c d : Condition} (h : c.unsignedZeros = d.unsignedZeros) :
    c.tests.length = d.tests.length := by
  have htests := congrArg (fun e : Condition => e.tests.length) h
  simpa only [tests_unsignedZeros, List.length_map] using htests

/-- If the signs of zeros decide of each pair of conditions whether they are the same, they decide of
the lists of them. -/
theorem list_eq_of_sameZeroSign {cs ds : List Condition}
    (h : List.Forall₂ (fun c d => ∃ _ : c.unsignedZeros = d.unsignedZeros,
      (∀ p ∈ c.tests.zip d.tests, p.1.2.SameZeroSign p.2.2) → c = d) cs ds)
    (hsigns : ∀ p ∈ (cs.flatMap tests).zip (ds.flatMap tests), p.1.2.SameZeroSign p.2.2) :
    cs = ds := by
  induction h with
  | nil => rfl
  | @cons c d cs ds hcd _ ih =>
    obtain ⟨hsame, heq⟩ := hcd
    rw [List.flatMap_cons, List.flatMap_cons, List.zip_append (length_tests_eq hsame)] at hsigns
    rw [heq fun p hp => hsigns p (List.mem_append_left _ hp),
      ih fun p hp => hsigns p (List.mem_append_right _ hp)]

/-- Conditions that are the same without the signs of zeros are the same if corresponding zeros have the
same sign. -/
theorem eq_of_sameZeroSign {c d : Condition} (h : c.unsignedZeros = d.unsignedZeros)
    (hsigns : ∀ p ∈ c.tests.zip d.tests, p.1.2.SameZeroSign p.2.2) : c = d := by
  induction c, d, h using unsignedZeros_induction with
  | eq column v w hvalue =>
    rcases Value.eq_or_zeros_of_unsignedZero_eq hvalue with rfl | ⟨negative, rfl, rfl⟩
    · rfl
    · have hsign : negative = !negative := hsigns (_, _) List.mem_cons_self rfl rfl
      cases negative <;> cases hsign
  | group op cs ds h ih =>
    rw [tests_group, tests_group] at hsigns
    rw [list_eq_of_sameZeroSign ih hsigns]

/-- The text of a test goes on differently from where the signs of zeros differ. -/
theorem testText_append_injective {column : String} {v w : Value}
    (h : v.unsignedZero = w.unsignedZero) {left right : List Char}
    (htext : (testText column v).toList ++ left = (testText column w).toList ++ right) :
    v = w ∧ left = right := by
  rcases Value.eq_or_zeros_of_unsignedZero_eq h with rfl | ⟨negative, rfl, rfl⟩
  · exact ⟨rfl, List.append_cancel_left htext⟩
  · have hnumber (n : Bool) : testText column (.float (.zero _ n)) =
        column ++ " = " ++ (Value.float (.zero _ n)).literal := rfl
    simp only [hnumber, String.toList_append, List.append_assoc, List.append_cancel_left_eq] at htext
    exact absurd htext (Value.literal_zero_append_ne negative _ _)

/-- The two texts are told apart by what they begin with, whatever comes after them. -/
def TellApart (c d : Condition) : Prop :=
  ∀ left right, c.text.toList ++ left = d.text.toList ++ right → c = d ∧ left = right

/-- If the texts of each pair of conditions are told apart, so are their texts behind a separator. -/
theorem behindEach_text_injective (separator : String) {cs ds : List Condition}
    (h : List.Forall₂ TellApart cs ds) {left right : List Char}
    (htext : (behindEach separator (cs.map text)).toList ++ left =
      (behindEach separator (ds.map text)).toList ++ right) : cs = ds ∧ left = right := by
  induction h with
  | nil => exact ⟨rfl, List.append_cancel_left htext⟩
  | cons hcd _ ih =>
    rw [List.map_cons, List.map_cons, toList_behindEach_cons, toList_behindEach_cons] at htext
    simp only [List.append_assoc] at htext
    obtain ⟨rfl, hrest⟩ := hcd _ _ (List.append_cancel_left htext)
    obtain ⟨rfl, hafter⟩ := ih hrest
    exact ⟨rfl, hafter⟩

/-- Groups of one operator are told apart by their texts if their children are, pair by pair. Groups with
as many children are written in the same form. -/
theorem tellApart_group (op : LogicalOp) {cs ds : List Condition}
    (h : List.Forall₂ TellApart cs ds) : TellApart (group op cs) (group op ds) := by
  intro left right htext
  cases h with
  | nil => exact ⟨rfl, List.append_cancel_left htext⟩
  | cons hfirst hothers =>
    cases hothers with
    | nil =>
      obtain ⟨rfl, hrest⟩ := hfirst left right htext
      exact ⟨rfl, hrest⟩
    | cons hsecond hrest =>
      rw [toList_text_group, toList_text_group] at htext
      simp only [List.cons_append, List.append_assoc, List.cons.injEq, true_and] at htext
      obtain ⟨rfl, hbehind⟩ := hfirst _ _ htext
      obtain ⟨hsame, hafter⟩ := behindEach_text_injective _ (.cons hsecond hrest) hbehind
      rw [hsame]
      exact ⟨rfl, (List.cons_eq_cons.mp hafter).2⟩

/-- Of conditions that are the same without the signs of zeros, each one is told by its text. -/
theorem tellApart_of_unsignedZeros_eq {c d : Condition} (h : c.unsignedZeros = d.unsignedZeros) :
    TellApart c d := by
  induction c, d, h using unsignedZeros_induction with
  | eq column v w hvalue =>
    intro left right htext
    obtain ⟨rfl, hrest⟩ := testText_append_injective hvalue htext
    exact ⟨rfl, hrest⟩
  | group op cs ds h ih =>
    exact tellApart_group op (ih.imp fun c d hcd => hcd.2)

/-- Equality of conditions is symmetric and transitive, and a condition is equal to itself just if no
test is for NaN. Equal conditions have the same text if corresponding zeros have the same sign.
Conditions without NaN that differ in nothing but the signs of zeros are equal and have different
texts. -/
theorem agrees_against_toSql (a b c : Condition) :
    (a.agrees b → b.agrees a) ∧ (a.agrees b → b.agrees c → a.agrees c) ∧
      (a.agrees a ↔ ∀ t ∈ a.tests, t.2.isNaN = false) ∧
      (a.agrees b → (∀ p ∈ a.tests.zip b.tests, p.1.2.SameZeroSign p.2.2) → a.toSql = b.toSql) ∧
      (a.IsNaNFree → b.IsNaNFree → a.unsignedZeros = b.unsignedZeros → a ≠ b →
        a.agrees b ∧ a.toSql ≠ b.toSql) := by
  refine ⟨fun hab => ?_, fun hab hbc => ?_, ?_, fun hab hsigns => ?_, fun ha hb hsame hne => ?_⟩
  · obtain ⟨ha, hb, hsame⟩ := agrees_iff.mp hab
    exact agrees_iff.mpr ⟨hb, ha, hsame.symm⟩
  · obtain ⟨ha, -, hsame⟩ := agrees_iff.mp hab
    obtain ⟨-, hc, hsame'⟩ := agrees_iff.mp hbc
    exact agrees_iff.mpr ⟨ha, hc, hsame.trans hsame'⟩
  · exact ⟨fun h => (agrees_iff.mp h).1, fun h => agrees_iff.mpr ⟨h, h, rfl⟩⟩
  · rw [eq_of_sameZeroSign (agrees_iff.mp hab).2.2 hsigns]
  · refine ⟨agrees_iff.mpr ⟨ha, hb, hsame⟩, fun htext => hne ?_⟩
    rw [toSql_eq, toSql_eq] at htext
    have hchars : a.text.toList ++ [] = b.text.toList ++ [] := by rw [htext]
    exact (tellApart_of_unsignedZeros_eq hsame [] [] hchars).1

/-- Two zeros whose signs are swapped: the texts have the same length, and still they differ. -/
theorem agrees_against_toSql_of_swapped_zeros :
    let plus := Value.float (.zero _ false)
    let minus := Value.float (.zero _ true)
    let a := group .or [eq "x" plus, group .and [eq "y" minus, eq "z" (.text "0.0")]]
    let b := group .or [eq "x" minus, group .and [eq "y" plus, eq "z" (.text "0.0")]]
    (a.IsNaNFree ∧ b.IsNaNFree ∧ a.unsignedZeros = b.unsignedZeros ∧ a ≠ b) ∧
      (∀ p ∈ a.tests.zip a.tests, p.1.2.SameZeroSign p.2.2) ∧
      (¬ ∀ p ∈ a.tests.zip b.tests, p.1.2.SameZeroSign p.2.2) ∧
      (a.agrees b ∧ b.agrees a ∧ a.agrees a) ∧ a.toSql.length = b.toSql.length ∧
      a.toSql ≠ b.toSql := by
  intro plus minus a b
  have ha : a.IsNaNFree := by decide +kernel
  have hb : b.IsNaNFree := by decide +kernel
  have hsame : a.unsignedZeros = b.unsignedZeros := rfl
  have hne : a ≠ b := by simp [a, b, plus, minus, Binary.zero]
  obtain ⟨hsymm, htrans, -, hequal, hdiffer⟩ := agrees_against_toSql a b a
  obtain ⟨hab, htext⟩ := hdiffer ha hb hsame hne
  exact ⟨⟨ha, hb, hsame, hne⟩, by decide +kernel, fun h => htext (hequal hab h),
    ⟨hab, hsymm hab, htrans hab (hsymm hab)⟩, by decide +kernel, htext⟩

end Condition

end ScopedSelect
