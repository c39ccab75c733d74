import ScopedSelect.Json.Token

/-!
# Written numerals read back

A proper numeral has digits wherever the grammar asks for some and no superfluous zero in front.
Only its exponent can be written in several ways, so a numeral has a few literals. From each of them it
is read back as the numeral it was, whatever follows, as long as that does not start with a character
that would continue it. Each part of a numeral ends where the next one starts with its mark.
-/

namespace ScopedSelect

/-- A run of decimal digits, at least one. -/
structure IsDigits (ds : List Char) : Prop where
  ne_nil : ds ≠ []
  isDigit : ∀ c ∈ ds, c.isDigit

/-- A digit is a run of digits. -/
theorem IsDigits.singleton {c : Char} (hc : c.isDigit) : IsDigits [c] where
  ne_nil := List.cons_ne_nil _ _
  isDigit _ hd := List.mem_singleton.mp hd ▸ hc

/-- A run of digits goes on with further digits. -/
theorem IsDigits.append {ds es : List Char} (hds : IsDigits ds) (hes : ∀ c ∈ es, c.isDigit) :
    IsDigits (ds ++ es) where
  ne_nil := List.append_ne_nil_of_left_ne_nil hds.ne_nil es
  isDigit c hc := (List.mem_append.mp hc).elim (hds.isDigit c) (hes c)

/-- Digits do not start with a sign. -/
theorem IsDigits.append_ne_cons {ds rest more : List Char} {sign : Char} (hds : IsDigits ds)
    (hsign : sign.isDigit = false) : ds ++ rest ≠ sign :: more := by
  intro h
  cases ds with
  | nil => exact hds.ne_nil rfl
  | cons d ds =>
    obtain ⟨rfl, -⟩ := List.cons.inj h
    have hd := hds.isDigit d List.mem_cons_self
    rw [hsign] at hd
    cases hd

/-- The text is empty, or starts with neither a digit nor one of the marks. -/
def EndsRun (marks rest : List Char) : Prop := ∀ c ∈ rest.head?, c.isDigit = false ∧ c ∉ marks

/-- The end of the text ends a run of digits. -/
@[simp] theorem endsRun_nil (marks : List Char) : EndsRun marks [] := by simp [EndsRun]

/-- A run of digits ends before what is neither a digit nor one of the marks. -/
@[simp] theorem endsRun_cons (marks : List Char) (c : Char) (rest : List Char) :
    EndsRun marks (c :: rest) ↔ c.isDigit = false ∧ c ∉ marks := by simp [EndsRun]

/-- Fewer marks admit more texts. -/
theorem EndsRun.mono {marks fewer rest : List Char} (hsub : fewer ⊆ marks)
    (h : EndsRun marks rest) : EndsRun fewer rest :=
  fun c hc => ⟨(h c hc).1, fun hf => (h c hc).2 (hsub hf)⟩

namespace Numeral

/-- A fraction with its point. -/
def fractionChars : Option (List Char) → List Char
  | none => []
  | some ds => '.' :: ds

/-- An exponent with its mark and sign. -/
def exponentChars (plus : Bool) : Option (Bool × List Char) → List Char
  | none => []
  | some (below, ds) => 'e' :: ((if below then ['-'] else if plus then ['+'] else []) ++ ds)

/-- The numeral written out; a plus sign before an exponent not below zero is optional. -/
def chars (plus : Bool) (n : Numeral) : List Char :=
  (if n.minus then ['-'] else []) ++
    (n.whole ++ (fractionChars n.fraction ++ exponentChars plus n.exponent))

/-- The numeral is one of the grammar. -/
structure IsProper (n : Numeral) : Prop where
  whole : IsDigits n.whole
  leading : n.whole.head? = some '0' → n.whole = ['0']
  fraction : ∀ ds ∈ n.fraction, IsDigits ds
  exponent : ∀ e ∈ n.exponent, IsDigits e.2

/-- The ways to write an exponent: its mark is a letter of either case, and a plus sign before an
exponent that is not below zero is optional. -/
inductive ExponentText : Option (Bool × List Char) → List Char → Prop
  | absent : ExponentText none []
  | minus {mark : Char} {ds : List Char} :
      mark = 'e' ∨ mark = 'E' → ExponentText (some (true, ds)) (mark :: '-' :: ds)
  | plus {mark : Char} {ds : List Char} :
      mark = 'e' ∨ mark = 'E' → ExponentText (some (false, ds)) (mark :: '+' :: ds)
  | bare {mark : Char} {ds : List Char} :
      mark = 'e' ∨ mark = 'E' → ExponentText (some (false, ds)) (mark :: ds)

/-- The exponent is written in one of the ways to write it. -/
theorem exponentText_exponentChars (plus : Bool) (exponent : Option (Bool × List Char)) :
    ExponentText exponent (exponentChars plus exponent) := by
  cases exponent with
  | none => exact .absent
  | some signed =>
    obtain ⟨below, ds⟩ := signed
    cases below with
    | true => exact .minus (.inl rfl)
    | false =>
      cases plus with
      | true => exact .plus (.inl rfl)
      | false => exact .bare (.inl rfl)

/-- A written exponent does not go on with the digits before it, and it is no fraction. -/
theorem ExponentText.endsRun_append {exponent : Option (Bool × List Char)} {cs rest : List Char}
    (h : ExponentText exponent cs) (hrest : EndsRun ['.'] rest) : EndsRun ['.'] (cs ++ rest) := by
  have hmark {mark : Char} (hmark : mark = 'e' ∨ mark = 'E') (cs : List Char) :
      EndsRun ['.'] (mark :: cs) := by
    rw [endsRun_cons]
    rcases hmark with rfl | rfl <;> decide
  cases h with
  | absent => exact hrest
  | minus h => exact hmark h _
  | plus h => exact hmark h _
  | bare h => exact hmark h _

/-- A written fraction does not go on with the digits before it, and neither does what follows it. -/
theorem endsRun_fractionChars_append {fraction : Option (List Char)} {rest : List Char}
    (hrest : EndsRun ['.'] rest) : EndsRun [] (fractionChars fraction ++ rest) := by
  cases fraction with
  | none => exact hrest.mono (List.nil_subset _)
  | some ds => exact (endsRun_cons _ _ _).mpr (by decide)

/-- The characters are a literal of the numeral: it is one of the grammar, and they are its sign and
its digits with a point before the fraction, behind them a way to write the exponent. -/
structure IsLiteral (n : Numeral) (cs : List Char) : Prop where
  proper : n.IsProper
  written : ∃ exponent, ExponentText n.exponent exponent ∧
    cs = (if n.minus then ['-'] else []) ++ (n.whole ++ (fractionChars n.fraction ++ exponent))

/-- A proper numeral written out is one of its literals. -/
theorem IsProper.isLiteral_chars {n : Numeral} (hn : n.IsProper) (plus : Bool) :
    n.IsLiteral (n.chars plus) :=
  ⟨hn, _, exponentText_exponentChars plus n.exponent, rfl⟩

end Numeral

namespace Token

variable {rest : List Char}

/-- A run of digits is taken up to where it ends. -/
theorem digits_append {ds : List Char} (hds : IsDigits ds) (hrest : EndsRun [] rest) :
    digits (ds ++ rest) = some (ds, rest) := by
  have hstop : rest.takeWhile Char.isDigit = [] ∧ rest.dropWhile Char.isDigit = rest := by
    cases rest with
    | nil => exact ⟨rfl, rfl⟩
    | cons c rest =>
      have hc : c.isDigit = false := ((endsRun_cons _ _ _).mp hrest).1
      exact ⟨List.takeWhile_cons_of_neg (by rw [hc]; decide),
        List.dropWhile_cons_of_neg (by rw [hc]; decide)⟩
  rw [digits, List.takeWhile_append_of_pos hds.isDigit, List.dropWhile_append_of_pos hds.isDigit,
    hstop.1, hstop.2, List.append_nil]
  cases ds with
  | nil => exact absurd rfl hds.ne_nil
  | cons d ds => rfl

/-- The whole digits are read without a superfluous zero. -/
theorem wholeDigits_append {ds : List Char} (hds : IsDigits ds)
    (hleading : ds.head? = some '0' → ds = ['0']) (hrest : EndsRun [] rest) :
    wholeDigits (ds ++ rest) = some (ds, rest) := by
  by_cases hzero : ds.head? = some '0'
  · rw [hleading hzero]
    cases rest with
    | nil => rfl
    | cons c rest =>
      have hc : c.isDigit = false := ((endsRun_cons _ _ _).mp hrest).1
      simp [wholeDigits, hc]
  · have hdigits := digits_append hds hrest
    cases ds with
    | nil => exact absurd rfl hds.ne_nil
    | cons d ds =>
      rw [wholeDigits.eq_def]
      split
      · next heq =>
        obtain ⟨rfl, -⟩ := List.cons.inj heq
        exact absurd rfl hzero
      · exact hdigits

/-- A fraction is read if there is one. -/
theorem fractionDigits_append {fraction : Option (List Char)}
    (hfraction : ∀ ds ∈ fraction, IsDigits ds) (hrest : EndsRun ['.'] rest) :
    fractionDigits (Numeral.fractionChars fraction ++ rest) = some (fraction, rest) := by
  cases fraction with
  | none =>
    rw [fractionDigits.eq_def]
    split
    · next heq =>
      rw [show rest = _ from heq, endsRun_cons] at hrest
      exact absurd List.mem_cons_self hrest.2
    · rfl
  | some ds =>
    change (digits (ds ++ rest)).map _ = _
    rw [digits_append (hfraction ds rfl) (hrest.mono (List.nil_subset _))]
    rfl

/-- An exponent is read if there is one, in whichever way it is written. -/
theorem exponentDigits_append_of_text {exponent : Option (Bool × List Char)} {cs : List Char}
    (hcs : Numeral.ExponentText exponent cs) (hexponent : ∀ e ∈ exponent, IsDigits e.2)
    (hrest : EndsRun ['e', 'E'] rest) : exponentDigits (cs ++ rest) = some (exponent, rest) := by
  have hdigits {ds : List Char} (hds : IsDigits ds) : digits (ds ++ rest) = some (ds, rest) :=
    digits_append hds (hrest.mono (List.nil_subset _))
  cases hcs with
  | absent =>
    cases rest with
    | nil => rfl
    | cons c rest =>
      have hc : ¬ (c = 'e' ∨ c = 'E') := by simpa using ((endsRun_cons _ _ _).mp hrest).2
      change exponentDigits (c :: rest) = _
      rw [exponentDigits.eq_def]
      exact if_neg hc
  | @minus mark ds hmark =>
    change exponentDigits (mark :: '-' :: (ds ++ rest)) = _
    rw [exponentDigits, if_pos hmark, hdigits (hexponent _ rfl)]
    rfl
  | @plus mark ds hmark =>
    change exponentDigits (mark :: '+' :: (ds ++ rest)) = _
    rw [exponentDigits, if_pos hmark, hdigits (hexponent _ rfl)]
    rfl
  | @bare mark ds hmark =>
    have hds : IsDigits ds := hexponent _ rfl
    change exponentDigits (mark :: (ds ++ rest)) = _
    rw [exponentDigits, if_pos hmark, hdigits hds]
    · rfl
    · exact fun more => hds.append_ne_cons (by decide)
    · exact fun more => hds.append_ne_cons (by decide)

/-- An exponent that is written out is read back. -/
theorem exponentDigits_append {plus : Bool} {exponent : Option (Bool × List Char)}
    (hexponent : ∀ e ∈ exponent, IsDigits e.2) (hrest : EndsRun ['e', 'E'] rest) :
    exponentDigits (Numeral.exponentChars plus exponent ++ rest) = some (exponent, rest) :=
  exponentDigits_append_of_text (Numeral.exponentText_exponentChars plus exponent) hexponent hrest

/-- A proper numeral is read back after its sign. -/
theorem unsignedNumeral_append {n : Numeral} {cs : List Char} (hn : n.IsProper)
    (hcs : Numeral.ExponentText n.exponent cs) (hrest : EndsRun ['.', 'e', 'E'] rest) :
    unsignedNumeral n.minus (n.whole ++ (Numeral.fractionChars n.fraction ++ (cs ++ rest))) =
      some (n, rest) := by
  have hexponent : EndsRun ['.'] (cs ++ rest) := hcs.endsRun_append (hrest.mono (by simp))
  rw [unsignedNumeral,
    wholeDigits_append hn.whole hn.leading (Numeral.endsRun_fractionChars_append hexponent)]
  simp only [Option.bind_eq_bind, Option.bind_some, Option.pure_def,
    fractionDigits_append hn.fraction hexponent,
    exponentDigits_append_of_text hcs hn.exponent (hrest.mono (by simp))]

/-- A numeral is read back from each of its literals. -/
theorem numeral_append_of_isLiteral {n : Numeral} {cs : List Char} (hcs : n.IsLiteral cs)
    (hrest : EndsRun ['.', 'e', 'E'] rest) : numeral (cs ++ rest) = some (n, rest) := by
  obtain ⟨hn, exponent, hexponent, rfl⟩ := hcs
  have hunsigned := unsignedNumeral_append hn hexponent hrest
  simp only [List.append_assoc]
  cases hminus : n.minus with
  | true =>
    rw [hminus] at hunsigned
    exact hunsigned
  | false =>
    rw [hminus] at hunsigned
    change numeral (n.whole ++ _) = _
    rw [numeral]
    · exact hunsigned
    · exact fun more => hn.whole.append_ne_cons (by decide)

/-- A proper numeral is read back. -/
theorem numeral_append {n : Numeral} (plus : Bool) (hn : n.IsProper)
    (hrest : EndsRun ['.', 'e', 'E'] rest) : numeral (n.chars plus ++ rest) = some (n, rest) :=
  numeral_append_of_isLiteral (hn.isLiteral_chars plus) hrest

/-- What starts with a sign or a digit is read as a numeral. -/
theorem read_of_start {reading : Reading} {c : Char} (hc : c = '-' ∨ c.isDigit) (cs : List Char) :
    read reading (c :: cs) = (numeral (c :: cs)).bind fun (n, rest) =>
      (n.number? reading).map fun j => (number j, rest) := by
  have hother (d : Char) (hd : d.isDigit = false ∧ d ≠ '-') : c ≠ d := by
    rintro rfl
    rcases hc with rfl | hc
    · exact hd.2 rfl
    · rw [hd.1] at hc
      cases hc
  have hblank : isBlank c = false := by
    simp [isBlank, hother ' ' (by decide), hother '\t' (by decide), hother '\n' (by decide),
      hother '\r' (by decide)]
  have hskip : skipBlanks (c :: cs) = c :: cs := List.dropWhile_cons_of_neg (by rw [hblank]; decide)
  rw [read, hskip]
  split
  · next h => cases h
  iterate 6 · next h => exact absurd (List.cons.inj h).1 (hother _ (by decide))
  · next h =>
    obtain ⟨rfl, rfl⟩ := List.cons.inj h
    cases numeral (c :: cs) with
    | none => rfl
    | some result =>
      obtain ⟨n, rest⟩ := result
      cases hn : n.number? reading <;> simp [hn]

/-- A literal is read as the number of its numeral, if that has one. -/
theorem read_append_of_isLiteral {reading : Reading} {n : Numeral} {cs : List Char}
    (hcs : n.IsLiteral cs) (hrest : EndsRun ['.', 'e', 'E'] rest) :
    read reading (cs ++ rest) = (n.number? reading).map fun j => (number j, rest) := by
  have hnumeral := numeral_append_of_isLiteral hcs hrest
  have hstart : ∃ c more, cs ++ rest = c :: more ∧ (c = '-' ∨ c.isDigit) := by
    obtain ⟨hn, exponent, -, rfl⟩ := hcs
    cases n.minus with
    | true => exact ⟨'-', _, rfl, .inl rfl⟩
    | false =>
      cases hwhole : n.whole with
      | nil => exact absurd hwhole hn.whole.ne_nil
      | cons d ds => exact ⟨d, _, rfl, .inr (hn.whole.isDigit d (hwhole ▸ List.mem_cons_self))⟩
  obtain ⟨c, more, heq, hc⟩ := hstart
  rw [heq] at hnumeral ⊢
  rw [read_of_start hc, hnumeral]
  rfl

/-- A proper numeral that is written out is read as its number, if it has one. -/
theorem read_numeral_append {reading : Reading} {n : Numeral} {plus : Bool} (hn : n.IsProper)
    (hrest : EndsRun ['.', 'e', 'E'] rest) :
    read reading (n.chars plus ++ rest) = (n.number? reading).map fun j => (number j, rest) :=
  read_append_of_isLiteral (hn.isLiteral_chars plus) hrest

/-- Numbers come from numerals. -/
theorem exists_numeral_of_read {reading : Reading} {j : JsonNumber} {cs rest : List Char}
    (h : read reading cs = some (number j, rest)) : ∃ n : Numeral, n.number? reading = some j := by
  rw [read.eq_def] at h
  split at h
  · cases h
  iterate 6 · simp at h
  · simp only [Option.bind_eq_bind, Option.bind_eq_some_iff, Option.pure_def, Option.some.injEq,
      Prod.mk.injEq, number.injEq] at h
    obtain ⟨⟨n, behind⟩, -, k, hk, rfl, -⟩ := h
    exact ⟨n, hk⟩

end Token

end ScopedSelect
