import ScopedSelect.Condition.Sql
import ScopedSelect.Proofs.Text.Boundary

/-!
# Items behind a separator

The children of a group and the columns of a statement are written one after the other, all but the
first behind a separator, and a closing character ends them. If each item can be told from what
comes after it, and the separator from the closing character, then all items can be told.
-/

namespace ScopedSelect

/-- A separator and a closing character end an item, and they start differently. -/
def Separates (stops : List Char) (separator : String) (close : Char) : Prop :=
  close ∈ stops ∧ ∃ first more, separator.toList = first :: more ∧ first ∈ stops ∧ first ≠ close

/-- The characters of texts behind a separator. -/
theorem toList_behindEach_cons (separator s : String) (texts : List String) :
    (behindEach separator (s :: texts)).toList =
      separator.toList ++ (s.toList ++ (behindEach separator texts).toList) := by
  rw [behindEach, String.toList_append, String.toList_append, List.append_assoc]

/-- A list of texts is what stands behind its first separator. -/
theorem behindEach_eq_intercalate (separator : String) {texts : List String} (hne : texts ≠ []) :
    behindEach separator texts = separator ++ separator.intercalate texts := by
  obtain ⟨s, rest, rfl⟩ := List.exists_cons_of_ne_nil hne
  rw [intercalate_eq, behindEach, String.append_assoc]

section

variable {stops : List Char} {separator : String} {close : Char}

/-- Whatever stands behind the separator up to the closing character, it ends an item. -/
theorem Separates.startsIn (h : Separates stops separator close) (texts : List String)
    (rest : List Char) : StartsIn stops ((behindEach separator texts).toList ++ close :: rest) := by
  obtain ⟨hclose, first, more, hseparator, hfirst, -⟩ := h
  cases texts with
  | nil => simpa [behindEach] using hclose
  | cons s texts => simpa [toList_behindEach_cons, hseparator] using hfirst

/-- A separator is not taken for the closing character. -/
theorem Separates.cons_ne_nil (h : Separates stops separator close) (s : String)
    (texts : List String) (left right : List Char) :
    (behindEach separator (s :: texts)).toList ++ left ≠
      (behindEach separator []).toList ++ close :: right := by
  obtain ⟨-, first, more, hseparator, -, hdiffers⟩ := h
  intro heq
  rw [toList_behindEach_cons, hseparator] at heq
  exact hdiffers (List.cons_eq_cons.mp heq).1

/-- Items behind a separator are determined up to the closing character if each is determined up to
what ends it. -/
theorem Separates.behindEach_append_injective {α : Type} (write : α → String)
    (hseparates : Separates stops separator close) {items others : List α}
    (hitem : ∀ x ∈ items, ∀ y ∈ others, ∀ leftRest rightRest : List Char,
      StartsIn stops leftRest → StartsIn stops rightRest →
        (write x).toList ++ leftRest = (write y).toList ++ rightRest → x = y ∧ leftRest = rightRest)
    {leftRest rightRest : List Char}
    (h : (behindEach separator (items.map write)).toList ++ close :: leftRest =
      (behindEach separator (others.map write)).toList ++ close :: rightRest) :
    items = others ∧ leftRest = rightRest := by
  induction items generalizing others with
  | nil =>
    cases others with
    | nil => exact ⟨rfl, (List.cons_eq_cons.mp h).2⟩
    | cons y others => exact absurd h.symm (hseparates.cons_ne_nil _ _ _ _)
  | cons x items ih =>
    cases others with
    | nil => exact absurd h (hseparates.cons_ne_nil _ _ _ _)
    | cons y others =>
      rw [List.map_cons, List.map_cons, toList_behindEach_cons, toList_behindEach_cons] at h
      simp only [List.append_assoc] at h
      obtain ⟨rfl, hrest⟩ := hitem x List.mem_cons_self y List.mem_cons_self _ _
        (hseparates.startsIn _ _) (hseparates.startsIn _ _) (List.append_cancel_left h)
      obtain ⟨rfl, hafter⟩ := ih (fun x hx y hy =>
        hitem x (List.mem_cons_of_mem _ hx) y (List.mem_cons_of_mem _ hy)) hrest
      exact ⟨rfl, hafter⟩

end

end ScopedSelect
