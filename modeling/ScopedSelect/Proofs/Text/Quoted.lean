import Mathlib.Data.Nat.Init
import ScopedSelect.Proofs.Text.Separated
import ScopedSelect.Text.Quoted

/-!
# Quoted names can be told apart

A character of a quoted name is written in one of three forms: as itself, as a letter behind a
backslash, or as its code point between braces. The first character and the one behind a backslash
tell which form it is, so no choice of special characters makes two characters look alike, and a
quote that stands for itself ends the name. Names in a list are told apart by these ends, whatever
they contain, and the closing bracket is found by the same means.
-/

namespace ScopedSelect

namespace Quoted

/-- The value of a hexadecimal digit. -/
def hexDigitValue (c : Char) : Nat := if c.isDigit then c.toNat - 48 else c.toNat - 87

/-- The number that hexadecimal digits denote. -/
def hexValue (digits : List Char) : Nat :=
  digits.foldl (fun value c => 16 * value + hexDigitValue c) 0

/-- A hexadecimal digit is read as the digit that was written. -/
theorem hexDigitValue_digitChar : ∀ d < 16, hexDigitValue d.digitChar = d := by decide

/-- The hexadecimal digits of a number denote it. -/
theorem hexValue_toDigits (n : Nat) : hexValue (Nat.toDigits 16 n) = n := by
  induction n using Nat.base_induction 16 (by decide) with
  | single d hd =>
    rw [Nat.toDigits_of_lt_base hd]
    exact (Nat.zero_add _).trans (hexDigitValue_digitChar d hd)
  | digit n d hd hn ih =>
    rw [← Nat.toDigits_append_toDigits (by decide) hn hd, Nat.toDigits_of_lt_base hd, hexValue,
      List.foldl_append, ← hexValue, ih, List.foldl_cons, List.foldl_nil,
      hexDigitValue_digitChar d hd]

/-- No hexadecimal digit is a closing brace. -/
theorem brace_not_mem_toDigits (n : Nat) : '\x7d' ∉ Nat.toDigits 16 n := by
  have hdigit (d : Nat) : '\x7d' ∉ [d.digitChar] :=
    fun h => Nat.digitChar_ne _ (by decide) (List.mem_singleton.mp h).symm
  induction n using Nat.base_induction 16 (by decide) with
  | single d hd =>
    rw [Nat.toDigits_of_lt_base hd]
    exact hdigit d
  | digit n d hd hn ih =>
    rw [← Nat.toDigits_append_toDigits (by decide) hn hd, Nat.toDigits_of_lt_base hd]
    exact fun h => (List.mem_append.mp h).elim ih (hdigit d)

/-- The code point of a character ends with its brace, so it determines the character and what
follows. -/
theorem codePoint_append_injective {c d : Char} {rest rest' : List Char}
    (h : codePoint c ++ rest = codePoint d ++ rest') : c = d ∧ rest = rest' := by
  have hdigits : Nat.toDigits 16 c.toNat ++ '\x7d' :: rest =
      Nat.toDigits 16 d.toNat ++ '\x7d' :: rest' := by
    simpa [codePoint] using h
  obtain ⟨hcode, hrest⟩ := run_append_cons_injective (brace_not_mem_toDigits _)
    (brace_not_mem_toDigits _) hdigits
  have hvalue := congrArg hexValue hcode
  rw [hexValue_toDigits, hexValue_toDigits] at hvalue
  exact ⟨Char.toNat_inj.mp hvalue, hrest⟩

/-- The characters with a letter of their own, and the letter that stands behind a backslash. -/
def letters : List (Char × Char) :=
  [('"', '"'), ('\\', '\\'), ('\t', 't'), ('\r', 'r'), ('\n', 'n'), ('\x00', '0')]

/-- A letter stands for one character only. -/
theorem letters_injective : ∀ p ∈ letters, ∀ q ∈ letters, p.2 = q.2 → p.1 = q.1 := by decide

/-- No letter announces a code point. -/
theorem letters_ne_u : ∀ p ∈ letters, p.2 ≠ 'u' := by decide

/-- What can stand for a character in a quoted name. -/
inductive StandsFor (c : Char) : List Char → Prop
  | itself : c ≠ '"' → c ≠ '\\' → StandsFor c [c]
  | letter (l : Char) : (c, l) ∈ letters → StandsFor c ['\\', l]
  | code : StandsFor c (codePoint c)

/-- An escape stands for its character, whichever characters are special. -/
theorem standsFor_escape (special : Char → Bool) (c : Char) : StandsFor c (escape special c) := by
  rw [escape]
  iterate 6
    split
    · next h => exact .letter _ (by rw [h]; decide)
  split
  · exact .code
  · next hquote hbackslash _ _ _ _ _ => exact .itself hquote hbackslash

variable {c d : Char} {cs ds rest rest' : List Char}

/-- What stands for a character does not start with a quote. -/
theorem StandsFor.append_ne_quote (h : StandsFor c cs) : cs ++ rest ≠ '"' :: rest' := by
  cases h with
  | itself hquote _ => exact fun heq => hquote (List.cons.inj heq).1
  | letter l _ => exact fun heq => absurd (List.cons.inj heq).1 (by decide)
  | code => exact fun heq => absurd (List.cons.inj heq).1 (by decide)

/-- What stands for a character determines it, and where it ends. -/
theorem StandsFor.append_injective (hc : StandsFor c cs) (hd : StandsFor d ds)
    (h : cs ++ rest = ds ++ rest') : c = d ∧ rest = rest' := by
  cases hc with
  | itself _ hbackslash =>
    cases hd with
    | itself _ _ => exact List.cons.inj h
    | letter _ _ => exact absurd (List.cons.inj h).1 hbackslash
    | code => exact absurd (List.cons.inj h).1 hbackslash
  | letter l hl =>
    cases hd with
    | itself _ hbackslash => exact absurd (List.cons.inj h).1.symm hbackslash
    | letter m hm =>
      obtain ⟨rfl, hrest⟩ := List.cons.inj (List.cons.inj h).2
      exact ⟨letters_injective _ hl _ hm rfl, hrest⟩
    | code => exact absurd (List.cons.inj (List.cons.inj h).2).1 (letters_ne_u _ hl)
  | code =>
    cases hd with
    | itself _ hbackslash => exact absurd (List.cons.inj h).1.symm hbackslash
    | letter m hm => exact absurd (List.cons.inj (List.cons.inj h).2).1.symm (letters_ne_u _ hm)
    | code => exact codePoint_append_injective h

variable {special : Char → Bool}

/-- Escaped characters up to a quote are determined by what is written. -/
theorem flatMap_escape_append_injective {s t : List Char}
    (h : s.flatMap (escape special) ++ '"' :: rest = t.flatMap (escape special) ++ '"' :: rest') :
    s = t ∧ rest = rest' := by
  induction s generalizing t with
  | nil =>
    cases t with
    | nil => exact ⟨rfl, (List.cons.inj h).2⟩
    | cons d t =>
      rw [List.flatMap_cons, List.append_assoc] at h
      exact absurd h.symm (standsFor_escape special d).append_ne_quote
  | cons c s ih =>
    cases t with
    | nil =>
      rw [List.flatMap_cons, List.append_assoc] at h
      exact absurd h (standsFor_escape special c).append_ne_quote
    | cons d t =>
      rw [List.flatMap_cons, List.flatMap_cons, List.append_assoc, List.append_assoc] at h
      obtain ⟨rfl, hbehind⟩ :=
        (standsFor_escape special c).append_injective (standsFor_escape special d) h
      obtain ⟨rfl, hrest⟩ := ih hbehind
      exact ⟨rfl, hrest⟩

/-- A quoted name is determined by what is written, and so is what follows it. -/
theorem name_append_injective {s t : String} (h : name special s ++ rest = name special t ++ rest') :
    s = t ∧ rest = rest' := by
  have hbody : s.toList.flatMap (escape special) ++ '"' :: rest =
      t.toList.flatMap (escape special) ++ '"' :: rest' := by
    simpa [name] using h
  obtain ⟨hchars, hrest⟩ := flatMap_escape_append_injective hbody
  exact ⟨String.toList_inj.mp hchars, hrest⟩

/-- The names behind the first one stand behind a separator each. -/
theorem separated_cons (s : String) (names : List String) :
    separated special (s :: names) = name special s ++
      (behindEach ", " (names.map fun t => String.ofList (name special t))).toList := by
  induction names generalizing s with
  | nil => simp [separated, behindEach]
  | cons t names ih =>
    rw [separated, ih, List.map_cons, toList_behindEach_cons]
    simp

/-- A comma goes on with the list, and a bracket ends it. -/
theorem separates_names : Separates [',', ']'] ", " ']' :=
  ⟨by decide, ',', [' '], by decide, by decide, by decide⟩

/-- A list of quoted names is determined by what is written, and so is what follows it. -/
theorem list_append_injective {names others : List String}
    (h : list special names ++ rest = list special others ++ rest') :
    names = others ∧ rest = rest' := by
  have hbody : separated special names ++ ']' :: rest =
      separated special others ++ ']' :: rest' := by
    simpa [list] using h
  cases names with
  | nil =>
    cases others with
    | nil => exact ⟨rfl, (List.cons.inj hbody).2⟩
    | cons t others =>
      rw [separated_cons] at hbody
      exact absurd (List.cons.inj hbody).1 (by decide)
  | cons s names =>
    cases others with
    | nil =>
      rw [separated_cons] at hbody
      exact absurd (List.cons.inj hbody).1 (by decide)
    | cons t others =>
      rw [separated_cons, separated_cons, List.append_assoc, List.append_assoc] at hbody
      obtain ⟨rfl, hbehind⟩ := name_append_injective hbody
      obtain ⟨rfl, hrest⟩ := separates_names.behindEach_append_injective _
        (fun x _ y _ left right _ _ hxy => by
          rw [String.toList_ofList, String.toList_ofList] at hxy
          exact name_append_injective hxy) hbehind
      exact ⟨rfl, hrest⟩

end Quoted

end ScopedSelect
