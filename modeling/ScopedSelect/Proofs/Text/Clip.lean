import ScopedSelect.Trace

/-!
# What is kept of a clipped text

The search downward from the limit ends at the greatest boundary within it, whatever the characters
before it are made of. Boundaries are where a text splits into two, so what is kept is the longest
prefix within the limit, and since no character has more than four bytes, at most three bytes of the
limit stay unused. `Trace.shorten_cuts_at_last_boundary` says so of the texts that settings shorten.
-/

namespace ScopedSelect

variable {s : String}

/-- The search does not end behind the offset it starts from. -/
theorem offset_boundaryAtMost_le (s : String) (offset : Nat) :
    (boundaryAtMost s offset).offset.byteIdx ≤ offset := by
  induction offset with
  | zero => exact Nat.le_refl 0
  | succ offset ih =>
    rw [boundaryAtMost]
    split
    · exact Nat.le_refl _
    · exact Nat.le_succ_of_le ih

/-- The search passes over no boundary. -/
theorem le_boundaryAtMost {offset : Nat} (p : s.Pos) (h : p.offset.byteIdx ≤ offset) :
    p ≤ boundaryAtMost s offset := by
  induction offset with
  | zero => exact String.Pos.le_iff.mpr h
  | succ offset ih =>
    rw [boundaryAtMost]
    split
    · exact String.Pos.le_iff.mpr h
    · next hvalid =>
      have hne : p.offset.byteIdx ≠ offset + 1 := fun heq => hvalid (heq ▸ p.isValid)
      exact ih (Nat.le_of_lt_succ (Nat.lt_of_le_of_ne h hne))

/-- The text splits where the search ends, and the first part is what is kept. -/
theorem exists_splits_clip (limit : Nat) (s : String) :
    ∃ rest, (boundaryAtMost s limit).Splits (clip limit s) rest :=
  ⟨_, String.Pos.splits _⟩

/-- What is kept ends where the search ends. -/
theorem utf8ByteSize_clip (limit : Nat) (s : String) :
    (clip limit s).utf8ByteSize = (boundaryAtMost s limit).offset.byteIdx := by
  obtain ⟨rest, hsplits⟩ := exists_splits_clip limit s
  rw [hsplits.offset_eq_rawEndPos, String.byteIdx_rawEndPos]

/-- What is kept fits. -/
theorem utf8ByteSize_clip_le (limit : Nat) (s : String) : (clip limit s).utf8ByteSize ≤ limit := by
  rw [utf8ByteSize_clip]
  exact offset_boundaryAtMost_le s limit

/-- Every prefix that fits is a prefix of what is kept. -/
theorem exists_clip_eq_append {limit : Nat} {p rest : String} (hs : s = p ++ rest)
    (hp : p.utf8ByteSize ≤ limit) : ∃ more, clip limit s = p ++ more := by
  obtain ⟨behind, hsplits⟩ := exists_splits_clip limit s
  have hfront : (String.Pos.ofEqAppend hs).Splits p rest := String.Pos.splits_ofEqAppend hs
  have hoffset : (String.Pos.ofEqAppend hs).offset.byteIdx ≤ limit := by
    rwa [hfront.offset_eq_rawEndPos, String.byteIdx_rawEndPos]
  obtain ⟨more, hmore, -⟩ :=
    (hfront.le_iff_exists_eq_append hsplits).mp (le_boundaryAtMost _ hoffset)
  exact ⟨more, hmore⟩

/-- A greater limit keeps at least as much. -/
theorem exists_clip_eq_clip_append {limit limit' : Nat} (h : limit ≤ limit') (s : String) :
    ∃ more, clip limit' s = clip limit s ++ more := by
  obtain ⟨rest, hsplits⟩ := exists_splits_clip limit s
  exact exists_clip_eq_append hsplits.eq_append (Nat.le_trans (utf8ByteSize_clip_le limit s) h)

/-- The first character that is not kept would exceed the limit. -/
theorem limit_lt_of_clip {limit : Nat} {c : Char} {rest : String}
    (h : s = clip limit s ++ String.singleton c ++ rest) :
    limit < (clip limit s).utf8ByteSize + c.utf8Size := by
  apply Nat.lt_of_not_le
  intro hle
  have hfits : (clip limit s ++ String.singleton c).utf8ByteSize ≤ limit := by
    rwa [String.utf8ByteSize_append, String.utf8ByteSize_singleton]
  obtain ⟨more, hmore⟩ := exists_clip_eq_append h hfits
  have hsize := congrArg String.utf8ByteSize hmore
  have hpos := c.utf8Size_pos
  simp only [String.utf8ByteSize_append, String.utf8ByteSize_singleton] at hsize
  omega

/-- A text that is cut goes on with a character, and that exceeds the limit. -/
theorem exists_next_of_lt {limit : Nat} (h : limit < s.utf8ByteSize) :
    ∃ (c : Char) (rest : String), s = clip limit s ++ String.singleton c ++ rest ∧
      limit < (clip limit s).utf8ByteSize + c.utf8Size := by
  obtain ⟨behind, hsplits⟩ := exists_splits_clip limit s
  have hend : boundaryAtMost s limit ≠ s.endPos := by
    intro hend
    have hsize := utf8ByteSize_clip limit s
    rw [hend, String.offset_endPos, String.byteIdx_rawEndPos] at hsize
    have hle := utf8ByteSize_clip_le limit s
    omega
  obtain ⟨rest, rfl⟩ := hsplits.exists_eq_singleton_append hend
  have hnext : s = clip limit s ++ String.singleton ((boundaryAtMost s limit).get hend) ++ rest := by
    rw [String.append_assoc]
    exact hsplits.eq_append
  exact ⟨_, rest, hnext, limit_lt_of_clip hnext⟩

namespace Trace

/-- A text within the limit is shown as it is. A longer one is shown up to the last boundary that the
limit allows, with three dots behind: no offset between that boundary and the limit is one, and what
is kept is the longest prefix of whole characters that fits. It is not the whole text, at most three
bytes of the limit stay unused, and a greater limit keeps at least as much. -/
theorem shorten_cuts_at_last_boundary (t : Trace) (sql : String) :
    (t.limit = none → t.shorten sql = sql) ∧
      ∀ limit, t.limit = some limit →
        (sql.utf8ByteSize ≤ limit → t.shorten sql = sql) ∧
        (limit < sql.utf8ByteSize →
          let kept := clip limit sql
          t.shorten sql = kept ++ "..." ∧
            (∃ rest, (boundaryAtMost sql limit).Splits kept rest) ∧
            (∀ offset, kept.utf8ByteSize < offset → offset ≤ limit →
              ¬ (⟨offset⟩ : String.Pos.Raw).IsValid sql) ∧
            kept.utf8ByteSize ≤ limit ∧
            (∀ p rest, sql = p ++ rest → p.utf8ByteSize ≤ limit → ∃ more, kept = p ++ more) ∧
            kept ≠ sql ∧
            limit ≤ kept.utf8ByteSize + 3 ∧
            ∀ (t' : Trace) (limit' : Nat), t'.limit = some limit' → limit ≤ limit' →
              limit' < sql.utf8ByteSize → ∃ more, t'.shorten sql = kept ++ more ++ "...") := by
  have hcut (t : Trace) (limit : Nat) (hlimit : t.limit = some limit)
      (hlt : limit < sql.utf8ByteSize) : t.shorten sql = clip limit sql ++ "..." := by
    rw [shorten, hlimit]
    exact if_neg (Nat.not_le.mpr hlt)
  refine ⟨fun hnone => ?_, fun limit hlimit => ⟨fun hle => ?_, fun hlt => ?_⟩⟩
  · rw [shorten, hnone]
  · rw [shorten, hlimit]
    exact if_pos hle
  · obtain ⟨c, rest, -, hexceeds⟩ := exists_next_of_lt hlt
    have hfits := utf8ByteSize_clip_le limit sql
    refine ⟨hcut t limit hlimit hlt, exists_splits_clip limit sql, fun offset hgt hle hvalid => ?_,
      hfits, fun p more hsql hp => exists_clip_eq_append hsql hp, fun hwhole => ?_, ?_,
      fun t' limit' hlimit' hle hlt' => ?_⟩
    · have hpassed := le_boundaryAtMost (sql.pos ⟨offset⟩ hvalid) hle
      rw [utf8ByteSize_clip] at hgt
      exact absurd (String.Pos.le_iff.mp hpassed) (Nat.not_le.mpr hgt)
    · rw [hwhole] at hfits
      omega
    · have hsize := c.utf8Size_le_four
      omega
    · obtain ⟨more, hmore⟩ := exists_clip_eq_clip_append hle sql
      exact ⟨more, by rw [hcut t' limit' hlimit' hlt', hmore]⟩

/-- Characters of one to four bytes: a limit of nine leaves three bytes unused, a limit of two would
split the second character, and a limit of zero keeps nothing. -/
theorem shorten_cuts_at_last_boundary_of_all_widths :
    let sql := "aé€😀b"
    let settings (limit : Nat) : Trace := ⟨.info, some limit⟩
    sql.utf8ByteSize = 11 ∧ (settings 11).shorten sql = sql ∧
      (settings 9).shorten sql = "aé€..." ∧ 9 ≤ "aé€".utf8ByteSize + 3 ∧
      (settings 2).shorten sql = "a..." ∧
      (∃ more, (settings 9).shorten sql = "a" ++ more ++ "...") ∧
      (settings 0).shorten sql = "..." := by
  intro sql settings
  have hsize : sql.utf8ByteSize = 11 := by decide
  have hkept : clip 9 sql = "aé€" ∧ clip 2 sql = "a" ∧ clip 0 sql = "" := by decide +kernel
  have hat (limit : Nat) := (shorten_cuts_at_last_boundary (settings limit) sql).2 limit rfl
  obtain ⟨hnine, -, -, -, -, -, hunused, -⟩ := (hat 9).2 (by omega)
  obtain ⟨htwo, -, -, -, -, -, -, hmore⟩ := (hat 2).2 (by omega)
  have hzero := ((hat 0).2 (by omega)).1
  have hwider := hmore (settings 9) 9 rfl (by decide) (by omega)
  rw [hkept.1] at hnine hunused
  rw [hkept.2.1] at htwo hwider
  rw [hkept.2.2] at hzero
  exact ⟨hsize, (hat 11).1 (by omega), hnine, hunused, htwo, hwider, hzero⟩

end Trace

end ScopedSelect
