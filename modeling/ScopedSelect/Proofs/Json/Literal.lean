import ScopedSelect.Proofs.Json.Numeral

/-!
# Numerals are read from their literals

The reader takes a numeral from nothing but one of its literals, part by part: whatever digits are read
stand in front of the rest, and a mark announces what is read behind it. So the literals are just the
texts that are read as a numeral to their end.
-/

namespace ScopedSelect

namespace Token

variable {cs rest : List Char}

/-- Digits that are read are digits, and they stand in front of the rest. -/
theorem isDigits_of_digits {ds : List Char} (h : digits cs = some (ds, rest)) :
    IsDigits ds ∧ cs = ds ++ rest := by
  have hsplit := List.takeWhile_append_dropWhile (p := Char.isDigit) (l := cs)
  have hall := List.all_takeWhile (p := Char.isDigit) (l := cs)
  rw [digits] at h
  cases hdigits : cs.takeWhile Char.isDigit with
  | nil => simp [hdigits] at h
  | cons d more =>
    rw [hdigits] at h hsplit hall
    obtain ⟨rfl, rfl⟩ : d :: more = ds ∧ cs.dropWhile Char.isDigit = rest := by simpa using h
    exact ⟨⟨List.cons_ne_nil _ _, fun c hc => List.all_eq_true.mp hall c hc⟩, hsplit.symm⟩

/-- Whole digits that are read have no superfluous zero. -/
theorem isDigits_of_wholeDigits {ds : List Char} (h : wholeDigits cs = some (ds, rest)) :
    (IsDigits ds ∧ (ds.head? = some '0' → ds = ['0'])) ∧ cs = ds ++ rest := by
  have hzero : IsDigits ['0'] := .singleton (by decide)
  rw [wholeDigits.eq_def] at h
  split at h
  · split at h
    · obtain ⟨rfl, rfl⟩ : ['0'] = ds ∧ [] = rest := by simpa using h
      exact ⟨⟨hzero, fun _ => rfl⟩, rfl⟩
    · next c more =>
      split at h
      · cases h
      · obtain ⟨rfl, rfl⟩ : ['0'] = ds ∧ c :: more = rest := by simpa using h
        exact ⟨⟨hzero, fun _ => rfl⟩, rfl⟩
  · next hne =>
    obtain ⟨hds, hcs⟩ := isDigits_of_digits h
    refine ⟨⟨hds, fun hhead => ?_⟩, hcs⟩
    obtain ⟨more, rfl⟩ : ∃ more, ds = '0' :: more := List.head?_eq_some_iff.mp hhead
    exact absurd hcs (hne _)

/-- A fraction that is read has digits behind its point. -/
theorem isDigits_of_fractionDigits {fraction : Option (List Char)}
    (h : fractionDigits cs = some (fraction, rest)) :
    (∀ ds ∈ fraction, IsDigits ds) ∧ cs = Numeral.fractionChars fraction ++ rest := by
  rw [fractionDigits.eq_def] at h
  split at h
  · next more =>
    obtain ⟨⟨ds, behind⟩, hdigits, heq⟩ := Option.map_eq_some_iff.mp h
    obtain ⟨rfl, rfl⟩ : some ds = fraction ∧ behind = rest := by simpa using heq
    obtain ⟨hds, rfl⟩ := isDigits_of_digits hdigits
    exact ⟨by rintro es ⟨⟩; exact hds, rfl⟩
  · obtain ⟨rfl, rfl⟩ : none = fraction ∧ cs = rest := by simpa using h
    exact ⟨by simp, rfl⟩

/-- An exponent that is read is written in one of the ways there are. -/
theorem exponentText_of_exponentDigits {exponent : Option (Bool × List Char)}
    (h : exponentDigits cs = some (exponent, rest)) :
    (∀ e ∈ exponent, IsDigits e.2) ∧
      ∃ text, Numeral.ExponentText exponent text ∧ cs = text ++ rest := by
  have hsigned {below : Bool} {more : List Char}
      (h : (digits more).map (fun read => (some (below, read.1), read.2)) = some (exponent, rest)) :
      ∃ ds, IsDigits ds ∧ more = ds ++ rest ∧ exponent = some (below, ds) := by
    obtain ⟨⟨ds, behind⟩, hdigits, heq⟩ := Option.map_eq_some_iff.mp h
    obtain ⟨rfl, rfl⟩ : some (below, ds) = exponent ∧ behind = rest := by simpa using heq
    obtain ⟨hds, hmore⟩ := isDigits_of_digits hdigits
    exact ⟨ds, hds, hmore, rfl⟩
  rw [exponentDigits.eq_def] at h
  split at h
  · obtain ⟨rfl, rfl⟩ : none = exponent ∧ [] = rest := by simpa using h
    exact ⟨by simp, [], .absent, rfl⟩
  · next c more =>
    split at h
    · next hmark =>
      split at h
      · obtain ⟨ds, hds, rfl, rfl⟩ := hsigned h
        exact ⟨by rintro e ⟨⟩; exact hds, _, .minus hmark, rfl⟩
      · obtain ⟨ds, hds, rfl, rfl⟩ := hsigned h
        exact ⟨by rintro e ⟨⟩; exact hds, _, .plus hmark, rfl⟩
      · obtain ⟨ds, hds, rfl, rfl⟩ := hsigned h
        exact ⟨by rintro e ⟨⟩; exact hds, _, .bare hmark, rfl⟩
    · obtain ⟨rfl, rfl⟩ : none = exponent ∧ c :: more = rest := by simpa using h
      exact ⟨by simp, [], .absent, rfl⟩

/-- What is read as a numeral is one of its literals. -/
theorem exists_isLiteral_of_numeral {n : Numeral} (h : numeral cs = some (n, rest)) :
    ∃ text, n.IsLiteral text ∧ cs = text ++ rest := by
  have hunsigned {minus : Bool} {cs : List Char} (h : unsignedNumeral minus cs = some (n, rest)) :
      n.minus = minus ∧ n.IsProper ∧ ∃ exponent, Numeral.ExponentText n.exponent exponent ∧
        cs = n.whole ++ (Numeral.fractionChars n.fraction ++ exponent) ++ rest := by
    simp only [unsignedNumeral, Option.bind_eq_bind, Option.bind_eq_some_iff, Option.pure_def,
      Option.some.injEq, Prod.mk.injEq] at h
    obtain ⟨⟨whole, _⟩, hwhole, ⟨fraction, _⟩, hfraction, ⟨exponent, _⟩, hexponent, rfl, rfl⟩ := h
    obtain ⟨⟨hds, hleading⟩, rfl⟩ := isDigits_of_wholeDigits hwhole
    obtain ⟨hfractionDigits, rfl⟩ := isDigits_of_fractionDigits hfraction
    obtain ⟨hexponentDigits, text, htext, rfl⟩ := exponentText_of_exponentDigits hexponent
    exact ⟨rfl, ⟨hds, hleading, hfractionDigits, hexponentDigits⟩, text, htext, by simp⟩
  rw [numeral.eq_def] at h
  split at h
  · obtain ⟨hminus, hproper, exponent, hexponent, rfl⟩ := hunsigned h
    exact ⟨_, ⟨hproper, exponent, hexponent, rfl⟩, by rw [hminus]; rfl⟩
  · obtain ⟨hminus, hproper, exponent, hexponent, rfl⟩ := hunsigned h
    exact ⟨_, ⟨hproper, exponent, hexponent, rfl⟩, by rw [hminus]; rfl⟩

/-- The literals of a numeral are just the texts that are read as it. -/
theorem numeral_eq_some_iff {n : Numeral} : numeral cs = some (n, []) ↔ n.IsLiteral cs := by
  constructor
  · intro h
    obtain ⟨text, htext, rfl⟩ := exists_isLiteral_of_numeral h
    rwa [List.append_nil]
  · intro h
    have hnumeral := numeral_append_of_isLiteral h (endsRun_nil _)
    rwa [List.append_nil] at hnumeral

end Token

end ScopedSelect
