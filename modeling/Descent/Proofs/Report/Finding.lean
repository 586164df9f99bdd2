import Descent.ParseError
import Descent.Proofs.Translation.Text

set_option autoImplicit false

namespace Descent

theorem Quoted.quoteFor_cases (chars : List Char) :
    quoteFor chars = '"' ∨ quoteFor chars = '\'' := by
  unfold quoteFor
  split
  · exact .inl rfl
  · exact .inr rfl

/-- A quoted text ends in its quote. -/
theorem Quoted.getLast?_encode (chars : List Char) :
    (encode chars).getLast? = some (quoteFor chars) :=
  List.getLast?_concat

namespace ParseError

def EndsIn (report : ParseError) (words : String) : Prop :=
  ∃ lead, report.message = lead ++ words

/-- The report tells of an offset of the text: it gives the line and the column there, and what it
says was found is the end of the text if that is where the offset is, and else the next characters.
-/
structure TellsOf (text : Text) (source : String) (offset : Nat) (report : ParseError) : Prop where
  inside : offset ≤ text.length
  place : report.place = SourcePos.ofOffset text offset source
  ended : report.EndsIn "found end of input" ↔ offset = text.length
  shown : offset ≠ text.length → text.slice offset (offset + 10) ≠ [] ∧
    report.EndsIn ("found " ++ quoted (text.slice offset (offset + 10)))

variable {text : Text} {offset : Nat}

/-- Where there are characters left, some are shown. -/
theorem slice_eq_nil_iff (inside : offset ≤ text.length) :
    text.slice offset (offset + 10) = [] ↔ offset = text.length := by
  have cut : text.cut ((offset : Int) + 10) = min (offset + 10) text.length := by
    unfold Text.cut
    split <;> omega
  have stretch : text.slice offset (offset + 10) =
      text.slice offset (min (offset + 10) text.length : Nat) := by
    rw [Text.slice, Text.slice, cut, text.cut_of_mem _ (Nat.min_le_right _ _)]
  rw [stretch, Text.slice_of_mem inside (Nat.min_le_right _ _), List.take_eq_nil_iff]
  constructor
  · rintro (none_taken | none_left)
    · omega
    · have left := congrArg List.length none_left
      rw [Text.length_remaining, List.length_nil] at left
      omega
  · rintro rfl
    exact .inl (by omega)

theorem endsIn_found {report : ParseError} {lead words : String}
    (message : report.message = lead ++ ", found " ++ words) :
    report.EndsIn ("found " ++ words) := by
  refine ⟨lead ++ ", ", ?_⟩
  have parts : ", found " = ", " ++ "found " := by decide
  rw [message, parts, String.append_assoc, String.append_assoc, String.append_assoc]

/-- A text in quotes is not mistaken for the words that tell the end. -/
theorem quoted_not_end (lead lead' : String) (chars : List Char) :
    lead ++ quoted chars ≠ lead' ++ "found end of input" := by
  intro same
  have last := congrArg (fun s : String => s.toList.getLast?) same
  simp only [String.toList_append, List.getLast?_append, quoted, String.toList_ofList,
    Quoted.getLast?_encode, Option.some_or] at last
  have letter : "found end of input".toList.getLast? = some 't' := by decide
  rw [letter, Option.some_or, Option.some_inj] at last
  obtain double | single := Quoted.quoteFor_cases chars
  · rw [double] at last
    exact absurd last (by decide)
  · rw [single] at last
    exact absurd last (by decide)

/-- The report of a failure tells of the place of its innermost cause. -/
theorem ofFailure_tellsOf {failure : Failure} (source : String) (inside : offset ≤ text.length)
    (deepest : failure.deepestFrame.pos = offset) :
    (ofFailure failure text source).TellsOf text source offset := by
  have message : (ofFailure failure text source).message =
      expectation failure.deepestFrame.expected ++ ", found " ++
        finding (text.slice offset (offset + 10)) := by
    rw [← deepest]
    rfl
  have place : (ofFailure failure text source).place = SourcePos.ofOffset text offset source := by
    rw [← deepest]
    rfl
  by_cases at_end : offset = text.length
  · have nothing := (slice_eq_nil_iff inside).mpr at_end
    rw [nothing] at message
    have ended : (ofFailure failure text source).EndsIn ("found " ++ "end of input") :=
      endsIn_found message
    exact ⟨inside, place, iff_of_true ended at_end, fun before => absurd at_end before⟩
  · have something := mt (slice_eq_nil_iff inside).mp at_end
    rw [finding, if_neg something] at message
    have not_ended : ¬ (ofFailure failure text source).EndsIn "found end of input" := by
      rintro ⟨lead, ends⟩
      exact quoted_not_end _ lead _ (message.symm.trans ends)
    exact ⟨inside, place, iff_of_false not_ended at_end, fun _ => ⟨something, endsIn_found message⟩⟩

end ParseError

end Descent
