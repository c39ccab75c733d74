import ScopedSelect.Proofs.Text.Separated

/-!
# Balanced parentheses

A text is balanced when reading it from the left never closes more parentheses than were opened, and
all of them are closed at its end. Texts without parentheses are balanced, and so are balanced texts one
after the other and a balanced text between parentheses. In the last case the count of open parentheses
comes back to zero at the closing one only.
-/

namespace ScopedSelect

/-- No part from the left closes more parentheses than it opens, and the whole closes all of them. -/
structure Balanced (cs : List Char) : Prop where
  close_le_open : ∀ part, part <+: cs → part.count ')' ≤ part.count '('
  close_eq_open : cs.count ')' = cs.count '('

/-- A part from the left of two texts ends in the first or reaches into the second. -/
theorem prefix_append_cases {part left right : List Char} (h : part <+: left ++ right) :
    part <+: left ∨ ∃ more, more <+: right ∧ part = left ++ more := by
  rcases List.prefix_or_prefix_of_prefix h (List.prefix_append left right) with hleft | ⟨more, rfl⟩
  · exact .inl hleft
  · exact .inr ⟨more, (List.prefix_append_right_inj left).mp h, rfl⟩

namespace Balanced

/-- Without parentheses there is nothing to balance. -/
theorem of_not_mem {cs : List Char} (hopen : '(' ∉ cs) (hclose : ')' ∉ cs) : Balanced cs where
  close_le_open part hpart := by
    rw [List.count_eq_zero.mpr fun h => hclose (hpart.subset h)]
    exact Nat.zero_le _
  close_eq_open := by rw [List.count_eq_zero.mpr hopen, List.count_eq_zero.mpr hclose]

/-- Balanced texts stay balanced one after the other. -/
theorem append {left right : List Char} (hleft : Balanced left) (hright : Balanced right) :
    Balanced (left ++ right) where
  close_le_open part hpart := by
    rcases prefix_append_cases hpart with hpart | ⟨more, hmore, rfl⟩
    · exact hleft.close_le_open part hpart
    · rw [List.count_append, List.count_append, hleft.close_eq_open]
      exact Nat.add_le_add_left (hright.close_le_open more hmore) _
  close_eq_open := by
    rw [List.count_append, List.count_append, hleft.close_eq_open, hright.close_eq_open]

/-- Between parentheses, every part that is neither empty nor the whole has one open. -/
theorem count_lt_of_prefix {cs part : List Char} (h : Balanced cs)
    (hpart : part <+: '(' :: (cs ++ [')'])) :
    part = [] ∨ part.count ')' < part.count '(' ∨ part = '(' :: (cs ++ [')']) := by
  rcases List.prefix_cons_iff.mp hpart with rfl | ⟨inner, rfl, hinner⟩
  · exact .inl rfl
  · rcases List.prefix_concat_iff.mp hinner with rfl | hinner
    · exact .inr (.inr rfl)
    · have hle := h.close_le_open inner hinner
      rw [List.count_cons_of_ne (by decide), List.count_cons_self]
      exact .inr (.inl (Nat.lt_succ_of_le hle))

/-- A balanced text between parentheses is balanced. -/
theorem enclosed {cs : List Char} (h : Balanced cs) : Balanced ('(' :: (cs ++ [')'])) := by
  have hwhole : ('(' :: (cs ++ [')'])).count ')' = ('(' :: (cs ++ [')'])).count '(' := by
    rw [List.count_cons_of_ne (by decide), List.count_cons_self, List.count_append,
      List.count_append, h.close_eq_open]
    rfl
  refine ⟨fun part hpart => ?_, hwhole⟩
  rcases h.count_lt_of_prefix hpart with rfl | hlt | rfl
  · exact Nat.le_refl _
  · exact Nat.le_of_lt hlt
  · exact Nat.le_of_eq hwhole

end Balanced

/-- Balanced texts behind a balanced separator are balanced. -/
theorem balanced_behindEach {separator : String} (hseparator : Balanced separator.toList)
    {texts : List String} (htexts : ∀ s ∈ texts, Balanced s.toList) :
    Balanced (behindEach separator texts).toList := by
  induction texts with
  | nil => exact .of_not_mem (by simp [behindEach]) (by simp [behindEach])
  | cons s texts ih =>
    rw [toList_behindEach_cons]
    exact hseparator.append ((htexts s List.mem_cons_self).append
      (ih fun t ht => htexts t (List.mem_cons_of_mem s ht)))

end ScopedSelect
