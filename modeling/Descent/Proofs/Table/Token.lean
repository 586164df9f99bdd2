import Descent.Proofs.Numeral.Ascii

set_option autoImplicit false

namespace Descent

/-- A token: a number with its digits, or a sign of one character. -/
inductive Token where
  | number (digits : List Char)
  | sign (c : Char)
  deriving DecidableEq, Repr

namespace Token

def chars : Token → List Char
  | number digits => digits
  | sign c => [c]

/-- The text consists of the tokens, with any blanks around them. -/
inductive Spaced : List Token → List Char → Prop where
  | nil : Spaced [] []
  | blank {tokens : List Token} {c : Char} {rest : List Char} (blank : isBlank c = true)
      (later : Spaced tokens rest) : Spaced tokens (c :: rest)
  | token (t : Token) {tokens : List Token} {rest : List Char} (later : Spaced tokens rest) :
      Spaced (t :: tokens) (t.chars ++ rest)

/-- The tokens with one more digit in front, which belongs to the number there if it is joined. -/
def withDigit (c : Char) (joined : Bool) (tokens : List Token) : List Token :=
  match joined, tokens with
  | true, number digits :: rest => number (c :: digits) :: rest
  | _, rest => number [c] :: rest

def scan : List Char → List Token
  | [] => []
  | c :: rest =>
    if isBlank c then scan rest
    else if isAsciiDigit c then withDigit c (rest.head?.any isAsciiDigit) (scan rest)
    else sign c :: scan rest

theorem scan_blank {c : Char} (blank : isBlank c = true) (rest : List Char) :
    scan (c :: rest) = scan rest := by
  rw [scan, if_pos blank]

theorem scan_sign {c : Char} (blank : isBlank c = false) (digit : isAsciiDigit c = false)
    (rest : List Char) : scan (c :: rest) = sign c :: scan rest := by
  rw [scan, blank, digit]
  rfl

theorem scan_digit {c : Char} (digit : isAsciiDigit c = true) (rest : List Char) :
    scan (c :: rest) = withDigit c (rest.head?.any isAsciiDigit) (scan rest) := by
  rw [scan, not_isBlank_of_isAsciiDigit digit, if_pos digit]
  rfl

theorem scan_dropWhile (chars : List Char) : scan (chars.dropWhile isBlank) = scan chars := by
  induction chars with
  | nil => rfl
  | cons c rest ih =>
    cases blank : isBlank c with
    | true => rw [List.dropWhile_cons_of_pos blank, scan_blank blank, ih]
    | false => rw [List.dropWhile_cons_of_neg (by simp [blank])]

theorem scan_number {digits rest : List Char} (some : digits ≠ [])
    (ascii : ∀ c ∈ digits, isAsciiDigit c = true) (ended : rest.head?.any isAsciiDigit = false) :
    scan (digits ++ rest) = number digits :: scan rest := by
  induction digits with
  | nil => exact absurd rfl some
  | cons c others ih =>
    have digit := ascii c List.mem_cons_self
    rw [List.cons_append, scan_digit digit]
    cases others with
    | nil =>
      rw [List.nil_append, ended]
      rfl
    | cons d more =>
      have next := ascii d (by simp)
      rw [ih (List.cons_ne_nil d more) fun e member => ascii e (List.mem_cons_of_mem c member)]
      simp [next, withDigit]

theorem head_dropWhile (kind : Char → Bool) (chars : List Char) :
    (chars.dropWhile kind).head?.any kind = false := by
  have head := List.head?_dropWhile_not kind chars
  cases next : (chars.dropWhile kind).head? with
  | none => rfl
  | some c =>
    rw [next] at head
    exact head

theorem scan_longest {c : Char} (digit : isAsciiDigit c = true) (rest : List Char) :
    scan (c :: rest) =
      number ((c :: rest).takeWhile isAsciiDigit) ::
        scan ((c :: rest).dropWhile isAsciiDigit) := by
  have some : (c :: rest).takeWhile isAsciiDigit ≠ [] := by
    rw [List.takeWhile_cons_of_pos digit]
    exact List.cons_ne_nil _ _
  rw [← scan_number some (fun d member => List.mem_takeWhile_imp member)
    (head_dropWhile isAsciiDigit _), List.takeWhile_append_dropWhile]

/-- What comes first in a text, its blanks left out. -/
theorem scan_cases (chars : List Char) :
    (chars.dropWhile isBlank = [] ∧ scan chars = []) ∨
    (∃ c rest, chars.dropWhile isBlank = c :: rest ∧ isAsciiDigit c = true ∧
      scan chars = number ((c :: rest).takeWhile isAsciiDigit) ::
        scan ((c :: rest).dropWhile isAsciiDigit)) ∨
    (∃ c rest, chars.dropWhile isBlank = c :: rest ∧ isBlank c = false ∧
      isAsciiDigit c = false ∧ scan chars = sign c :: scan rest) := by
  rw [← scan_dropWhile chars]
  cases next : chars.dropWhile isBlank with
  | nil => exact .inl ⟨rfl, rfl⟩
  | cons c rest =>
    have blank : isBlank c = false := by
      have head := head_dropWhile isBlank chars
      rw [next] at head
      exact head
    cases digit : isAsciiDigit c with
    | true => exact .inr (.inl ⟨c, rest, rfl, digit, scan_longest digit rest⟩)
    | false => exact .inr (.inr ⟨c, rest, rfl, blank, digit, scan_sign blank digit rest⟩)

theorem spaced_scan (chars : List Char) : Spaced (scan chars) chars := by
  induction chars with
  | nil => exact .nil
  | cons c rest ih =>
    unfold scan
    split
    · rename_i blank
      exact .blank blank ih
    · split
      · unfold withDigit
        split
        · rename_i digits others joined same
          rw [same] at ih
          cases ih with
          | blank blank later =>
            have digit : isAsciiDigit _ = true := joined
            rw [not_isBlank_of_isAsciiDigit digit] at blank
            cases blank
          | token t later => exact .token (number (c :: digits)) later
        · exact .token (number [c]) ih
      · exact .token (sign c) ih

theorem Spaced.infix {tokens : List Token} {text : List Char} (spaced : Spaced tokens text)
    {t : Token} (member : t ∈ tokens) : t.chars <:+: text := by
  induction spaced with
  | nil => cases member
  | blank _ _ ih => exact (ih member).trans (List.suffix_cons _ _).isInfix
  | @token first tokens rest _ ih =>
    rcases List.mem_cons.mp member with rfl | later
    · exact (List.prefix_append _ _).isInfix
    · exact (ih later).trans (List.suffix_append _ _).isInfix

theorem number_of_scan {chars digits : List Char} {rest : List Token}
    (first : scan chars = number digits :: rest) :
    digits ≠ [] ∧ ∀ c ∈ digits, isAsciiDigit c = true := by
  rcases scan_cases chars with ⟨_, none⟩ | ⟨c, later, _, digit, longest⟩ |
    ⟨c, later, _, _, _, other⟩
  · rw [none] at first
    cases first
  · rw [longest] at first
    cases first
    refine ⟨?_, fun d member => List.mem_takeWhile_imp member⟩
    rw [List.takeWhile_cons_of_pos digit]
    exact List.cons_ne_nil _ _
  · rw [other] at first
    cases first

/-- A number that is scanned first is the longest that stands past the blanks. -/
theorem longest_of_scan {chars digits : List Char} {rest : List Token}
    (first : scan chars = number digits :: rest) :
    digits = (chars.dropWhile isBlank).takeWhile isAsciiDigit ∧
      scan ((chars.dropWhile isBlank).dropWhile isAsciiDigit) = rest := by
  rcases scan_cases chars with ⟨_, none⟩ | ⟨c, later, head, _, longest⟩ | ⟨c, later, _, _, _, other⟩
  · rw [none] at first
    cases first
  · rw [longest] at first
    cases first
    rw [head]
    exact ⟨rfl, rfl⟩
  · rw [other] at first
    cases first

/-- A sign that is scanned first stands past the blanks. -/
theorem sign_of_scan {chars : List Char} {c : Char} {rest : List Token}
    (first : scan chars = sign c :: rest) :
    ∃ later, chars.dropWhile isBlank = c :: later ∧ scan later = rest := by
  rcases scan_cases chars with ⟨_, none⟩ | ⟨_, _, _, _, longest⟩ | ⟨d, later, head, _, _, other⟩
  · rw [none] at first
    cases first
  · rw [longest] at first
    cases first
  · rw [other] at first
    cases first
    exact ⟨later, head, rfl⟩

theorem scan_of_sign {chars later : List Char} {c : Char} (blank : isBlank c = false)
    (digit : isAsciiDigit c = false) (head : chars.dropWhile isBlank = c :: later) :
    scan chars = sign c :: scan later := by
  rw [← scan_dropWhile, head]
  exact scan_sign blank digit later

/-- Tokens that can be told apart however they are spaced: no two numbers touch, and no sign is a
blank or a digit. -/
inductive Readable : List Token → Prop where
  | nil : Readable []
  | sign {c : Char} {rest : List Token} (blank : isBlank c = false)
      (digit : isAsciiDigit c = false) (later : Readable rest) : Readable (.sign c :: rest)
  | number {digits : List Char} {rest : List Token} (some : digits ≠ [])
      (ascii : ∀ c ∈ digits, isAsciiDigit c = true)
      (apart : ∀ others, rest.head? ≠ .some (.number others)) (later : Readable rest) :
      Readable (.number digits :: rest)

theorem Readable.append {tokens others : List Token} {c : Char} (first : Readable tokens)
    (blank : isBlank c = false) (digit : isAsciiDigit c = false) (second : Readable others) :
    Readable (tokens ++ .sign c :: others) := by
  induction first with
  | nil => exact .sign blank digit second
  | sign blank digit _ ih => exact .sign blank digit ih
  | @number digits rest some ascii apart _ ih =>
    refine .number some ascii ?_ ih
    intro others
    cases rest with
    | nil => simp
    | cons t rest => exact apart others

end Token

end Descent
