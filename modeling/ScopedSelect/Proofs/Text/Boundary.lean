import Mathlib.Data.List.Basic

/-!
# Where a run of characters ends

Written statements hold names and words side by side with the punctuation that ends them. A run
without any stopping character, followed by nothing or by a stopping character, has only one end:
equal texts of this form agree in the run and in what follows.
-/

namespace ScopedSelect

/-- The text is empty or starts with one of the given characters. -/
def StartsIn (stops text : List Char) : Prop := ∀ c ∈ text.head?, c ∈ stops

/-- The end of the text is a stop. -/
@[simp] theorem startsIn_nil (stops : List Char) : StartsIn stops [] := by simp [StartsIn]

/-- Before the end, the first character decides. -/
@[simp] theorem startsIn_cons (stops : List Char) (c : Char) (text : List Char) :
    StartsIn stops (c :: text) ↔ c ∈ stops := by simp [StartsIn]

/-- More stopping characters admit more texts. -/
theorem StartsIn.mono {stops more text : List Char} (hsub : stops ⊆ more)
    (h : StartsIn stops text) : StartsIn more text := fun c hc => hsub (h c hc)

/-- A text that is not empty and has none of the given characters. -/
def IsName (excluded : List Char) (s : String) : Prop := s ≠ "" ∧ ∀ c ∈ s.toList, c ∉ excluded

-- The characters of the text are gone through, not all characters there are.
instance (excluded : List Char) (s : String) : Decidable (IsName excluded s) :=
  @instDecidableAnd _ _ inferInstance (List.decidableBAll (fun c => c ∉ excluded) s.toList)

/-- A name avoids every smaller choice of characters as well. -/
theorem IsName.mono {excluded fewer : List Char} {s : String} (hsub : fewer ⊆ excluded)
    (h : IsName excluded s) : IsName fewer s := ⟨h.1, fun c hc hf => h.2 c hc (hsub hf)⟩

/-- What follows a run does not reach into it, so the run and the rest are both determined. -/
theorem run_append_injective (stops : List Char) {left right leftRest rightRest : List Char}
    (hleft : ∀ c ∈ left, c ∉ stops) (hright : ∀ c ∈ right, c ∉ stops)
    (hleftRest : StartsIn stops leftRest) (hrightRest : StartsIn stops rightRest)
    (h : left ++ leftRest = right ++ rightRest) : left = right ∧ leftRest = rightRest := by
  induction left generalizing right with
  | nil =>
    cases right with
    | nil => exact ⟨rfl, h⟩
    | cons c right =>
      have hc : StartsIn stops (c :: (right ++ rightRest)) := by
        rw [← List.cons_append, ← h]
        exact hleftRest
      exact absurd ((startsIn_cons stops c _).mp hc) (hright c List.mem_cons_self)
  | cons c left ih =>
    cases right with
    | nil =>
      have hc : StartsIn stops (c :: (left ++ leftRest)) := by
        rw [← List.cons_append, h]
        exact hrightRest
      exact absurd ((startsIn_cons stops c _).mp hc) (hleft c List.mem_cons_self)
    | cons d right =>
      obtain ⟨hcd, htail⟩ := List.cons_eq_cons.mp h
      have hrest := ih (fun e he => hleft e (List.mem_cons_of_mem _ he))
        (fun e he => hright e (List.mem_cons_of_mem _ he)) htail
      exact ⟨by rw [hcd, hrest.1], hrest.2⟩

/-- A run without a character ends where that character first stands. -/
theorem run_append_cons_injective {stop : Char} {left right leftRest rightRest : List Char}
    (hleft : stop ∉ left) (hright : stop ∉ right)
    (h : left ++ stop :: leftRest = right ++ stop :: rightRest) :
    left = right ∧ leftRest = rightRest := by
  have hstop (rest : List Char) : StartsIn [stop] (stop :: rest) :=
    (startsIn_cons _ _ _).mpr List.mem_cons_self
  obtain ⟨hrun, hrest⟩ := run_append_injective [stop]
    (fun c hc hs => hleft (List.mem_singleton.mp hs ▸ hc))
    (fun c hc hs => hright (List.mem_singleton.mp hs ▸ hc)) (hstop _) (hstop _) h
  exact ⟨hrun, (List.cons_eq_cons.mp hrest).2⟩

end ScopedSelect
