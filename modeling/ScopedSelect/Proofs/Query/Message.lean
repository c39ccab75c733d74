import ScopedSelect.Proofs.Text.Quoted
import ScopedSelect.QueryError

/-!
# Messages identify their errors

The first letter of a message tells the cause. A description stands at the end of its message, and
two lists of names stand between words of the message, each quoted, so names that imitate the words,
the brackets or the quotes around them do not move a boundary. This holds whichever characters are
written by their code points.
-/

namespace ScopedSelect

namespace QueryError

/-- The first letter of the message. -/
def initial : QueryError → Char
  | emptyColumnList => 'A'
  | columnsAlreadyDefined _ _ => 'D'
  | missingTable => 'F'
  | invalidValueType _ => 'O'
  | nestedConditionOnLeaf => 'C'

/-- A text goes on as it starts. -/
theorem head?_toList_append {s : String} {c : Char} (h : s.toList.head? = some c) (t : String) :
    (s ++ t).toList.head? = some c := by
  rw [String.toList_append, List.head?_append, h, Option.some_or]

variable {special : Char → Bool}

/-- A message starts with the first letter of its error, whichever characters are special. -/
theorem head?_messageWith (e : QueryError) :
    (e.messageWith special).toList.head? = some e.initial := by
  cases e with
  | columnsAlreadyDefined current attempted =>
    unfold messageWith
    rw [initial]
    apply head?_toList_append
    apply head?_toList_append
    apply head?_toList_append
    decide +kernel
  | invalidValueType description =>
    unfold messageWith
    rw [initial]
    apply head?_toList_append
    decide +kernel
  | _ =>
    unfold messageWith
    dsimp only
    decide +kernel

/-- Two lists of names are determined by what is written, whatever words stand before and between
them. -/
theorem names_eq {opening middle : String} {current attempted current' attempted' : List String}
    (h : opening ++ String.ofList (Quoted.list special current) ++ middle ++
        String.ofList (Quoted.list special attempted) =
      opening ++ String.ofList (Quoted.list special current') ++ middle ++
        String.ofList (Quoted.list special attempted')) :
    current = current' ∧ attempted = attempted' := by
  have hchars := congrArg (fun s => s.toList ++ []) h
  simp only [String.toList_append, String.toList_ofList, List.append_assoc] at hchars
  obtain ⟨hcurrent, hbehind⟩ := Quoted.list_append_injective (List.append_cancel_left hchars)
  obtain ⟨hattempted, -⟩ := Quoted.list_append_injective (List.append_cancel_left hbehind)
  exact ⟨hcurrent, hattempted⟩

/-- Whichever characters are special, messages are the same just for the same error. -/
theorem messageWith_inj {e e' : QueryError} :
    e.messageWith special = e'.messageWith special ↔ e = e' := by
  refine ⟨fun h => ?_, fun h => by rw [h]⟩
  have hinitial : e.initial = e'.initial := by
    have hhead := congrArg (fun s => s.toList.head?) h
    simpa only [head?_messageWith, Option.some.injEq] using hhead
  cases e with
  | emptyColumnList =>
    cases e' with
    | emptyColumnList => rfl
    | _ => simp only [initial, Char.reduceEq] at hinitial
  | columnsAlreadyDefined current attempted =>
    cases e' with
    | columnsAlreadyDefined current' attempted' =>
      obtain ⟨hcurrent, hattempted⟩ := names_eq h
      rw [hcurrent, hattempted]
    | _ => simp only [initial, Char.reduceEq] at hinitial
  | missingTable =>
    cases e' with
    | missingTable => rfl
    | _ => simp only [initial, Char.reduceEq] at hinitial
  | invalidValueType description =>
    cases e' with
    | invalidValueType description' =>
      have hdescription : description = description' := (String.append_right_inj _).mp h
      rw [hdescription]
    | _ => simp only [initial, Char.reduceEq] at hinitial
  | nestedConditionOnLeaf =>
    cases e' with
    | nestedConditionOnLeaf => rfl
    | _ => simp only [initial, Char.reduceEq] at hinitial

/-- Two errors have the same message just if they are the same, with all that they report: the message
of columns defined already tells both lists, name by name. The message itself is the one with the
unprintable characters as the special ones. -/
theorem message_eq_iff (e e' : QueryError) :
    (e.message = e'.message ↔ e = e') ∧
      ∀ special : Char → Bool, e.messageWith special = e'.messageWith special ↔ e = e' :=
  ⟨messageWith_inj, fun _ => messageWith_inj⟩

/-- A name that imitates the end of one name and the start of the next is seen as one name. -/
example :
    (columnsAlreadyDefined ["a\", \"b"] ["\\", "\t\u0301"]).message =
      "Detected an attempt to redefine columns to fetch. Current column list: [\"a\\\", \\\"b\"], " ++
        "new column list: [\"\\\\\", \"\\t\\u\x7b301\x7d\"]" ∧
    (columnsAlreadyDefined ["a", "b"] [""]).message =
      "Detected an attempt to redefine columns to fetch. Current column list: [\"a\", \"b\"], " ++
        "new column list: [\"\"]" := by decide +kernel

end QueryError

end ScopedSelect
