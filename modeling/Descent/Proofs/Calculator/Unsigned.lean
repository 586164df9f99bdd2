import Descent.Proofs.Table.Lexeme

set_option autoImplicit false

namespace Descent

namespace Token

theorem filter_dropWhile (chars : List Char) :
    (chars.dropWhile isBlank).filter (fun c => !isBlank c) = chars.filter fun c => !isBlank c := by
  induction chars with
  | nil => rfl
  | cons c rest ih =>
    cases blank : isBlank c with
    | true => simp [blank, ih]
    | false => simp [blank]

/-- A sign that is scanned first is the first character that is no blank. -/
theorem filter_of_sign {chars : List Char} {c : Char} {rest : List Token}
    (first : scan chars = sign c :: rest) :
    ∃ later, chars.filter (fun d => !isBlank d) = c :: later.filter (fun d => !isBlank d) ∧
      scan later = rest := by
  obtain ⟨later, head, left⟩ := sign_of_scan first
  have blank := head_dropWhile isBlank chars
  rw [head] at blank
  have solid : isBlank c = false := blank
  refine ⟨later, ?_, left⟩
  rw [← filter_dropWhile, head, List.filter_cons_of_pos (by simp [solid])]

end Token

namespace Text

/-- The characters of a text that are no blanks. -/
def solid (text : Text) : List Char :=
  text.toList.filter fun c => !isBlank c

/-- No minus sign comes first in the text or directly after an opening parenthesis or another sign,
whatever blanks stand between them. -/
structure Unsigned (text : Text) : Prop where
  first : text.solid.head? ≠ some '-'
  later : ∀ c ∈ ['(', '+', '-', '*', '/'], ¬ [c, '-'] <:+: text.solid

/-- An operand may be read at the index: it is in the text and no minus sign comes next. -/
structure Operand (text : Text) (index : Nat) : Prop where
  within : index ≤ text.length
  unsigned : ∀ rest, text.tokens index ≠ .sign '-' :: rest

theorem Unsigned.operand_zero {text : Text} (unsigned : text.Unsigned) : text.Operand 0 := by
  refine ⟨Nat.zero_le _, ?_⟩
  intro rest next
  obtain ⟨later, solid, _⟩ := Token.filter_of_sign next
  exact unsigned.first (congrArg List.head? solid)

/-- After an opening parenthesis or a sign an operand may be read. -/
theorem Unsigned.operand_after {text : Text} (unsigned : text.Unsigned) {i j : Nat} {c : Char}
    (listed : c ∈ ['(', '+', '-', '*', '/']) (next : text.tokens i = .sign c :: text.tokens j)
    (within : j ≤ text.length) : text.Operand j := by
  refine ⟨within, ?_⟩
  intro rest minus
  obtain ⟨later, solid, left⟩ := Token.filter_of_sign next
  obtain ⟨more, solid_later, _⟩ := Token.filter_of_sign (left.trans minus)
  have suffix : (text.remaining i).filter (fun d => !isBlank d) <:+ text.solid :=
    (List.drop_suffix i text.toList).filter _
  rw [solid, solid_later] at suffix
  exact unsigned.later c listed ((List.prefix_append [c, '-'] _).isInfix.trans suffix.isInfix)

end Text

end Descent
