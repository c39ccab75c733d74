import Mathlib.Data.List.Forall2
import ScopedSelect.Json.Reader

/-!
# Arrays element by element

What a successful reader of arrays has read is taken apart here: the brackets, commas and blanks are
told without looking into the elements. So if one reader of elements accepts just what another one
accepts and a relation lets pass, then the same holds of their arrays. In the other direction, texts
that a reader takes one by one are an array when they stand between brackets, with commas between them.
-/

namespace ScopedSelect

namespace Json

variable {ε ε' α β : Type}

/-- Elements are an element and then the closing bracket, or a comma and further elements. -/
theorem readElements_succ_eq_ok_iff {malformed : ε} {element : Reader ε α} {bound : Nat}
    {cs rest : List Char} {as : List α} :
    readElements malformed element (bound + 1) cs = .ok (as, rest) ↔
      ∃ a behind, element cs = .ok (a, behind) ∧
        ((Token.skipBlanks behind = ']' :: rest ∧ as = [a]) ∨
          ∃ next more, Token.skipBlanks behind = ',' :: next ∧
            readElements malformed element bound next = .ok (more, rest) ∧ as = a :: more) := by
  rw [readElements]
  cases element cs with
  | error e => simp
  | ok result =>
    obtain ⟨a, behind⟩ := result
    simp only [Except.ok.injEq, Prod.mk.injEq]
    constructor
    · intro h
      refine ⟨a, behind, ⟨rfl, rfl⟩, ?_⟩
      split at h
      · next hblank =>
        obtain ⟨rfl, rfl⟩ := Prod.mk.inj (Except.ok.inj h)
        exact .inl ⟨hblank, rfl⟩
      · next next hblank =>
        split at h
        · cases h
        · next hmore =>
          obtain ⟨rfl, rfl⟩ := Prod.mk.inj (Except.ok.inj h)
          exact .inr ⟨next, _, hblank, hmore, rfl⟩
      · cases h
    · rintro ⟨a, behind, ⟨rfl, rfl⟩, ⟨hblank, rfl⟩ | ⟨next, more, hblank, hmore, rfl⟩⟩
      · simp only [hblank]
      · simp only [hblank, hmore]

/-- An array has nothing before its closing bracket, or elements. -/
theorem readArray_eq_ok_iff {malformed : ε} {element : Reader ε α} {cs rest : List Char}
    {as : List α} :
    readArray malformed element cs = .ok (as, rest) ↔
      (Token.skipBlanks cs = ']' :: rest ∧ as = []) ∨
        ((∀ rest, Token.skipBlanks cs ≠ ']' :: rest) ∧
          readElements malformed element cs.length cs = .ok (as, rest)) := by
  rw [readArray]
  split
  · next behind hblank =>
    simp only [hblank, Except.ok.injEq, Prod.mk.injEq, List.cons.injEq, true_and]
    constructor
    · rintro ⟨rfl, rfl⟩
      exact .inl ⟨rfl, rfl⟩
    · rintro (⟨rfl, rfl⟩ | ⟨h, -⟩)
      · exact ⟨rfl, rfl⟩
      · exact absurd rfl (h behind)
  · next hblank =>
    constructor
    · exact fun h => .inr ⟨fun rest hrest => hblank rest hrest, h⟩
    · rintro (⟨h, -⟩ | ⟨-, h⟩)
      · exact absurd h (hblank rest)
      · exact h

/-- A reader that accepts what the other one accepts, if its result relates to something. -/
def Refines (fine : Reader ε α) (coarse : Reader ε' β) (relates : β → α → Prop) : Prop :=
  ∀ cs a rest, fine cs = .ok (a, rest) ↔ ∃ b, coarse cs = .ok (b, rest) ∧ relates b a

section

variable {fine : Reader ε α} {coarse : Reader ε' β} {relates : β → α → Prop}

/-- Elements in turn are accepted just when all of them relate. -/
theorem Refines.readElements (h : Refines fine coarse relates) (malformed : ε) (malformed' : ε')
    (bound : Nat) :
    Refines (Json.readElements malformed fine bound) (Json.readElements malformed' coarse bound)
      (List.Forall₂ relates) := by
  induction bound with
  | zero => exact fun cs as rest => ⟨nofun, nofun⟩
  | succ bound ih =>
    intro cs as rest
    constructor
    · intro hfine
      obtain ⟨a, behind, ha, hend⟩ := readElements_succ_eq_ok_iff.mp hfine
      obtain ⟨b, hb, hba⟩ := (h cs a behind).mp ha
      rcases hend with ⟨hblank, rfl⟩ | ⟨next, more, hblank, hmore, rfl⟩
      · exact ⟨[b], readElements_succ_eq_ok_iff.mpr ⟨b, behind, hb, .inl ⟨hblank, rfl⟩⟩,
          .cons hba .nil⟩
      · obtain ⟨others, hothers, hall⟩ := (ih next more rest).mp hmore
        exact ⟨b :: others, readElements_succ_eq_ok_iff.mpr
          ⟨b, behind, hb, .inr ⟨next, others, hblank, hothers, rfl⟩⟩, .cons hba hall⟩
    · rintro ⟨bs, hcoarse, hall⟩
      obtain ⟨b, behind, hb, hend⟩ := readElements_succ_eq_ok_iff.mp hcoarse
      rcases hend with ⟨hblank, rfl⟩ | ⟨next, others, hblank, hothers, rfl⟩
      · cases hall with
        | cons hba hnil =>
          cases hnil
          exact readElements_succ_eq_ok_iff.mpr
            ⟨_, behind, (h cs _ behind).mpr ⟨b, hb, hba⟩, .inl ⟨hblank, rfl⟩⟩
      · cases hall with
        | cons hba hmore =>
          exact readElements_succ_eq_ok_iff.mpr ⟨_, behind, (h cs _ behind).mpr ⟨b, hb, hba⟩,
            .inr ⟨next, _, hblank, (ih next _ rest).mpr ⟨others, hothers, hmore⟩, rfl⟩⟩

/-- An array is accepted just when all of its elements relate. -/
theorem Refines.readArray (h : Refines fine coarse relates) (malformed : ε) (malformed' : ε') :
    Refines (Json.readArray malformed fine) (Json.readArray malformed' coarse)
      (List.Forall₂ relates) := by
  intro cs as rest
  simp only [readArray_eq_ok_iff]
  constructor
  · rintro (⟨hblank, rfl⟩ | ⟨hblank, helements⟩)
    · exact ⟨[], .inl ⟨hblank, rfl⟩, .nil⟩
    · obtain ⟨bs, hbs, hall⟩ := (h.readElements malformed malformed' cs.length cs as rest).mp helements
      exact ⟨bs, .inr ⟨hblank, hbs⟩, hall⟩
  · rintro ⟨bs, ⟨hblank, rfl⟩ | ⟨hblank, helements⟩, hall⟩
    · cases hall
      exact .inl ⟨hblank, rfl⟩
    · exact .inr ⟨hblank,
        (h.readElements malformed malformed' cs.length cs as rest).mpr ⟨bs, helements, hall⟩⟩

end

/-- What holds of all that a reader of elements yields holds of the elements of an array. -/
theorem forall_mem_of_readArray {malformed : ε} {element : Reader ε α} {P : α → Prop}
    (h : ∀ cs a rest, element cs = .ok (a, rest) → P a) {cs rest : List Char} {as : List α}
    (hread : readArray malformed element cs = .ok (as, rest)) : ∀ a ∈ as, P a := by
  have hself : Refines element element (fun b a => b = a ∧ P a) := by
    intro cs a rest
    constructor
    · exact fun hok => ⟨a, hok, rfl, h cs a rest hok⟩
    · rintro ⟨b, hok, rfl, -⟩
      exact hok
  obtain ⟨bs, -, hall⟩ := (hself.readArray malformed malformed cs as rest).mp hread
  clear hread
  induction hall with
  | nil => exact nofun
  | cons hfirst _ ih => exact List.forall_mem_cons.mpr ⟨hfirst.2, ih⟩

/-- The reader takes the text as the value whenever a comma or a closing bracket follows it. -/
def Takes (element : Reader ε α) (text : List Char) (a : α) : Prop :=
  ∀ c ∈ [',', ']'], ∀ rest, element (text ++ c :: rest) = .ok (a, c :: rest)

/-- Texts separated by commas are read one by one. -/
theorem readElements_intercalate {malformed : ε} {element : Reader ε α} {texts : List (List Char)}
    {as : List α} (h : List.Forall₂ (Takes element) texts as) (hne : texts ≠ []) {bound : Nat}
    (hbound : texts.length ≤ bound) (rest : List Char) :
    readElements malformed element bound ([','].intercalate texts ++ ']' :: rest) =
      .ok (as, rest) := by
  induction h generalizing bound with
  | nil => exact absurd rfl hne
  | @cons text a texts as hfirst hrest ih =>
    obtain ⟨bound, rfl⟩ : ∃ smaller, bound = smaller + 1 :=
      ⟨bound - 1, by rw [List.length_cons] at hbound; omega⟩
    rw [readElements_succ_eq_ok_iff]
    cases hrest with
    | nil =>
      refine ⟨a, ']' :: rest, ?_, .inl ⟨rfl, rfl⟩⟩
      rw [List.intercalate_singleton]
      exact hfirst ']' (by decide) rest
    | @cons next b texts as hnext hmore =>
      refine ⟨a, ',' :: ([','].intercalate (next :: texts) ++ ']' :: rest), ?_,
        .inr ⟨_, b :: as, rfl, ih (List.cons_ne_nil _ _) ?_, rfl⟩⟩
      · rw [List.intercalate_cons_cons, List.append_assoc, List.append_assoc]
        exact hfirst ',' (by decide) _
      · simp only [List.length_cons] at hbound ⊢
        omega

/-- Separated texts have at least a comma for each text but the last. -/
theorem length_le_length_intercalate (texts : List (List Char)) :
    texts.length ≤ ([','].intercalate texts).length + 1 := by
  induction texts with
  | nil => exact Nat.zero_le _
  | cons text texts ih =>
    cases texts with
    | nil => simp
    | cons next texts =>
      rw [List.intercalate_cons_cons, List.length_append, List.length_append]
      simp only [List.length_cons, List.length_nil] at ih ⊢
      omega

/-- Texts separated by commas up to a closing bracket are an array, unless what an element is read
from can start with that bracket. -/
theorem readArray_intercalate {malformed : ε} {element : Reader ε α} {texts : List (List Char)}
    {as : List α} (h : List.Forall₂ (Takes element) texts as)
    (hopen : ∀ cs behind result, Token.skipBlanks cs = ']' :: behind → element cs ≠ .ok result)
    (rest : List Char) :
    readArray malformed element ([','].intercalate texts ++ ']' :: rest) = .ok (as, rest) := by
  rw [readArray_eq_ok_iff]
  cases texts with
  | nil =>
    cases h
    exact .inl ⟨rfl, rfl⟩
  | cons text texts =>
    have hbound : (text :: texts).length ≤
        ([','].intercalate (text :: texts) ++ ']' :: rest).length := by
      have hcommas := length_le_length_intercalate (text :: texts)
      rw [List.length_append, List.length_cons (a := ']')]
      omega
    have helements : readElements malformed element _ _ = _ :=
      readElements_intercalate h (List.cons_ne_nil _ _) hbound rest
    refine .inr ⟨fun behind hblank => ?_, helements⟩
    rw [List.length_append, List.length_cons, ← Nat.add_assoc] at helements
    obtain ⟨a, after, hfirst, -⟩ := readElements_succ_eq_ok_iff.mp helements
    exact hopen _ _ _ hblank hfirst

end Json

end ScopedSelect
