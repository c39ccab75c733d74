import ScopedSelect.Json.Token
import ScopedSelect.Json.Writer

/-!
# Written texts read back

Each character of a text is written so that the reader takes it back as this one character and is
then where it was, so a text between quotes is read up to its own closing quote. Nothing is assumed
about the characters: quotes, backslashes and control characters are among them.
-/

namespace ScopedSelect

namespace Token

/-- Hexadecimal digits are read back. -/
theorem hexDigit?_digitChar : ∀ d < 16, hexDigit? (Nat.digitChar d) = some d := by decide

/-- A character written as the four digits of its code is read back. -/
theorem textChars_codePoint {c : Char} (h : c.toNat < 0x20) (cs : List Char) :
    textChars .plain ('\\' :: 'u' :: '0' :: '0' :: Nat.digitChar (c.toNat / 16) ::
        Nat.digitChar (c.toNat % 16) :: cs) =
      (textChars .plain cs).map fun (s, rest) => (c :: s, rest) := by
  have hhigh := hexDigit?_digitChar (c.toNat / 16) (by omega)
  have hlow := hexDigit?_digitChar (c.toNat % 16) (by omega)
  have hzero : hexDigit? '0' = some 0 := rfl
  have hcode : c.toNat / 16 * 16 + c.toNat % 16 = c.toNat := Nat.div_add_mod' _ _
  have hunit : codeUnit none c.toNat = some (.inl c) := by
    rw [codeUnit, if_neg (by omega), if_neg (by omega), Char.ofNat_toNat]
  simp [textChars, hzero, hhigh, hlow, hcode, hunit]

/-- An escaped character is read as that character. -/
theorem textChars_escape (c : Char) (cs : List Char) :
    textChars .plain (Json.escape c ++ cs) =
      (textChars .plain cs).map fun (s, rest) => (c :: s, rest) := by
  rw [Json.escape]
  split
  · next h => subst h; rfl
  split
  · next h => subst h; rfl
  split
  · next h => subst h; rfl
  split
  · next h => subst h; rfl
  split
  · next h => subst h; rfl
  split
  · next h => subst h; rfl
  split
  · next h => subst h; rfl
  split
  · next h => exact textChars_codePoint h cs
  · next hquote hbackslash _ _ _ _ _ hcontrol =>
    rw [List.singleton_append, textChars, if_neg hquote, if_neg hbackslash, if_neg hcontrol]

/-- Escaped characters are read up to the closing quote. -/
theorem textChars_flatMap_escape (s rest : List Char) :
    textChars .plain (s.flatMap Json.escape ++ '"' :: rest) = some (s, rest) := by
  induction s with
  | nil => rfl
  | cons c s ih =>
    rw [List.flatMap_cons, List.append_assoc, textChars_escape, ih]
    rfl

/-- A text between quotes is read as that text. -/
theorem read_quoted (reading : Reading) (s : String) (rest : List Char) :
    read reading ((Json.quoted s).toList ++ rest) = some (text s, rest) := by
  have hquoted : (Json.quoted s).toList ++ rest =
      '"' :: (s.toList.flatMap Json.escape ++ '"' :: rest) := by
    rw [Json.quoted, String.toList_ofList, List.append_assoc]
    rfl
  rw [hquoted]
  change (quotedText (s.toList.flatMap Json.escape ++ '"' :: rest)).map _ = _
  rw [quotedText, textChars_flatMap_escape]
  change some (text (String.ofList s.toList), rest) = _
  rw [String.ofList_toList]

end Token

end ScopedSelect
