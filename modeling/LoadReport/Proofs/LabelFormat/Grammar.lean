import LoadReport.Failure
import LoadReport.Proofs.Json.Spelling
import LoadReport.Proofs.Outcomes

/-!
# Which texts are label formats

The grammar of specifications, said without the reader. A specification is a row of tokens, one of which
has to be a conversion. No token begins another one, so a text falls into tokens from the left in one way
only, up to its end or up to the first place where no token stands (`Splits.unique`). The reader gives
back the pieces of the tokens (`split_texts`), or the fault of that place (`split_of_stuck`).
-/

namespace LoadReport.LabelFormat

open Json.Scanner (AreDigits areDigits_nil)
open Outcomes

/-! ## Tokens -/

/-- What specifications are made of. -/
inductive Token where
  | plain (character : Char) (notPercent : character ≠ '%')
  | percent
  | decimals
  | places (digits : List Char) (present : digits ≠ []) (areDigits : AreDigits digits)
      (inRange : Nat.ofDigitChars 10 digits 0 < twoTo 64)
  | integer

namespace Token

def text : Token → List Char
  | .plain character _ => [character]
  | .percent => ['%', '%']
  | .decimals => ['%', 'f']
  | .places digits _ _ _ => '%' :: '.' :: (digits ++ ['f'])
  | .integer => ['%', 'd']

/-- Everything but literal text and the percent sign writes the value. -/
def isConversion : Token → Bool
  | .plain _ _ => false
  | .percent => false
  | .decimals => true
  | .places _ _ _ _ => true
  | .integer => true

/-- What a token stands for. -/
def piece : Token → Piece
  | .plain character _ => .literal character
  | .percent => .literal '%'
  | .decimals => .fixed defaultPlaces
  | .places digits _ _ _ => .fixed (Nat.ofDigitChars 10 digits 0)
  | .integer => .integer

@[simp] theorem isConversion_piece (token : Token) :
    token.piece.isConversion = token.isConversion := by
  cases token <;> rfl

theorem text_ne_nil (token : Token) : token.text ≠ [] := by
  cases token <;> exact List.cons_ne_nil _ _

/-- Digits end at the letter behind them. -/
theorem digits_cancel {digits others rest other : List Char} (areDigits : AreDigits digits)
    (areOthers : AreDigits others) (equal : digits ++ 'f' :: rest = others ++ 'f' :: other) :
    digits = others ∧ rest = other := by
  have noLetter : ∀ {text}, AreDigits text → 'f' ∉ text := fun digits member => nomatch digits _ member
  obtain ⟨inner, otherEqual, restEqual⟩ :=
    append_eq_append_cons_of_not_mem equal (noLetter areDigits)
  cases inner with
  | nil =>
    rw [List.nil_append, List.cons.injEq] at restEqual
    exact ⟨by simpa using otherEqual.symm, restEqual.2⟩
  | cons head inner =>
    obtain ⟨rfl, _⟩ := List.cons.inj restEqual
    exact absurd (by simp [otherEqual]) (noLetter areOthers)

/-- No token begins another one. -/
theorem cancel {first second : Token} {rest other : List Char}
    (equal : first.text ++ rest = second.text ++ other) : first = second ∧ rest = other := by
  cases first with
  | plain one notPercent =>
    cases second with
    | plain another _ => simpa [text] using equal
    | percent | decimals | places | integer => simp [text, notPercent] at equal
  | percent | decimals | integer =>
    cases second with
    | plain another notPercent => simp [text, notPercent.symm] at equal
    | percent | decimals | integer | places => simp_all [text]
  | places digits present areDigits inRange =>
    cases second with
    | plain another notPercent => simp [text, notPercent.symm] at equal
    | percent | decimals | integer => simp [text] at equal
    | places others otherPresent areOthers otherInRange =>
      simp only [text, List.cons_append, List.append_assoc, List.cons.injEq, true_and,
        List.nil_append] at equal
      obtain ⟨rfl, restEqual⟩ := digits_cancel areDigits areOthers equal
      exact ⟨rfl, restEqual⟩

end Token

def texts (tokens : List Token) : List Char :=
  tokens.flatMap Token.text

@[simp] theorem texts_cons (token : Token) (tokens : List Token) :
    texts (token :: tokens) = token.text ++ texts tokens :=
  rfl

@[simp] theorem texts_append (first second : List Token) :
    texts (first ++ second) = texts first ++ texts second :=
  List.flatMap_append

/-! ## Splitting from the left -/

/-- There is more text, but no token stands at its beginning. -/
def Stuck (text : List Char) : Prop :=
  text ≠ [] ∧ ∀ (token : Token) (rest : List Char), text ≠ token.text ++ rest

/-- Everything is right with the conversion at the beginning but the size of its number. -/
def Oversized (text : List Char) : Prop :=
  ∃ digits rest, text = '%' :: '.' :: (digits ++ 'f' :: rest) ∧ digits ≠ [] ∧ AreDigits digits ∧
    twoTo 64 ≤ Nat.ofDigitChars 10 digits 0

/-- From the left, a text falls into tokens up to its end or to a place where that gets stuck. -/
structure Splits (text : List Char) (tokens : List Token) (rest : List Char) : Prop where
  joined : text = texts tokens ++ rest
  ended : rest = [] ∨ Stuck rest

theorem Splits.unique {text : List Char} {tokens others : List Token} {rest other : List Char}
    (first : Splits text tokens rest) (second : Splits text others other) :
    tokens = others ∧ rest = other := by
  have noToken : ∀ {rest : List Char} (token : Token) (more : List Char), rest = [] ∨ Stuck rest →
      rest ≠ token.text ++ more := by
    rintro rest token more (rfl | stuck) equal
    · exact token.text_ne_nil (List.append_eq_nil_iff.mp equal.symm).1
    · exact stuck.2 token more equal
  obtain ⟨joined, ended⟩ := first
  obtain ⟨otherJoined, otherEnded⟩ := second
  rw [joined] at otherJoined
  -- As long as both rows go on, they agree; neither can go on where the other one has ended.
  induction tokens generalizing others text with
  | nil =>
    cases others with
    | nil => exact ⟨rfl, otherJoined⟩
    | cons token others =>
      rw [texts_cons, List.append_assoc] at otherJoined
      exact absurd otherJoined (noToken _ _ ended)
  | cons token tokens inductionHypothesis =>
    cases others with
    | nil =>
      rw [texts_cons, List.append_assoc] at otherJoined
      exact absurd otherJoined.symm (noToken _ _ otherEnded)
    | cons another others =>
      rw [texts_cons, List.append_assoc, texts_cons, List.append_assoc] at otherJoined
      obtain ⟨rfl, equal⟩ := Token.cancel otherJoined
      obtain ⟨rfl, restEqual⟩ := inductionHypothesis rfl equal
      exact ⟨rfl, restEqual⟩

theorem exists_splits (text : List Char) : ∃ tokens rest, Splits text tokens rest := by
  by_cases begins : ∃ (token : Token) (rest : List Char), text = token.text ++ rest
  · obtain ⟨token, behind, rfl⟩ := begins
    have shorter : behind.length < (token.text ++ behind).length := by
      have := List.length_pos_iff.mpr token.text_ne_nil
      rw [List.length_append]
      omega
    obtain ⟨tokens, rest, joined, ended⟩ := exists_splits behind
    refine ⟨token :: tokens, rest, ?_, ended⟩
    rw [texts_cons, List.append_assoc, ← joined]
  · refine ⟨[], text, rfl, ?_⟩
    by_cases empty : text = []
    · exact .inl empty
    · exact .inr ⟨empty, fun token rest equal => begins ⟨token, rest, equal⟩⟩
termination_by text.length

/-! ## What the reader makes of tokens -/

theorem split_plain {character : Char} (notPercent : character ≠ '%') (rest : List Char) :
    split .text (character :: rest) = (.literal character :: ·) <$> split .text rest := by
  rw [split, if_neg notPercent]

theorem split_digit {digit : Char} (isDigit : digit.isDigit = true) (value : Option Nat)
    (rest : List Char) :
    split (.places value) (digit :: rest) = split (.places (some (appendDigit value digit))) rest := by
  cases value <;> simp only [split, isDigit, if_true]

theorem split_digits {digits : List Char} (areDigits : AreDigits digits) (value : Nat)
    (rest : List Char) :
    split (.places (some value)) (digits ++ rest) =
      split (.places (some (Nat.ofDigitChars 10 digits value))) rest := by
  induction digits generalizing value with
  | nil => rfl
  | cons digit digits inductionHypothesis =>
    obtain ⟨isDigit, others⟩ := List.forall_mem_cons.mp areDigits
    have appended : appendDigit (some value) digit = 10 * value + (digit.toNat - '0'.toNat) := by
      rw [appendDigit, Option.getD_some, Nat.mul_comm]
    rw [List.cons_append, split_digit isDigit, inductionHypothesis others, appended,
      Nat.ofDigitChars_cons]

/-- A run of digits behind the point is read as its value. -/
theorem split_places {digits : List Char} (present : digits ≠ []) (areDigits : AreDigits digits)
    (rest : List Char) :
    split .text ('%' :: '.' :: (digits ++ rest)) =
      split (.places (some (Nat.ofDigitChars 10 digits 0))) rest := by
  obtain ⟨digit, digits, rfl⟩ := List.exists_cons_of_ne_nil present
  obtain ⟨isDigit, others⟩ := List.forall_mem_cons.mp areDigits
  have entered : split .text ('%' :: '.' :: (digit :: digits ++ rest)) =
      split (.places none) (digit :: (digits ++ rest)) := by
    simp [split]
  have first : appendDigit none digit = 10 * 0 + (digit.toNat - '0'.toNat) := by
    simp [appendDigit]
  rw [entered, split_digit isDigit, split_digits others, first, Nat.ofDigitChars_cons]

theorem split_token (token : Token) (rest : List Char) :
    split .text (token.text ++ rest) = (token.piece :: ·) <$> split .text rest := by
  cases token with
  | plain character notPercent => exact split_plain notPercent rest
  | percent | decimals | integer => simp [Token.text, Token.piece, split]
  | places digits present areDigits inRange =>
    rw [Token.text, List.cons_append, List.cons_append, List.append_assoc,
      split_places present areDigits]
    simp [split, Token.piece, placesLimit, inRange]

theorem split_texts (tokens : List Token) (rest : List Char) :
    split .text (texts tokens ++ rest) = (tokens.map Token.piece ++ ·) <$> split .text rest := by
  induction tokens with
  | nil => simp [texts]
  | cons token tokens inductionHypothesis =>
    rw [texts_cons, List.append_assoc, split_token, inductionHypothesis, Functor.map_map]
    rfl

/-! ## What the reader makes of the place where splitting gets stuck -/

theorem split_of_oversized {text : List Char} (oversized : Oversized text) :
    split .text text = .error .placesTooLarge := by
  obtain ⟨digits, rest, rfl, present, areDigits, large⟩ := oversized
  rw [split_places present areDigits]
  simp [split, placesLimit, Nat.not_lt.mpr large]

/-- Behind the point, the reader gets stuck unless digits and the letter follow. -/
theorem split_places_cases (value : Option Nat) (text : List Char) :
    split (.places value) text = .error .unsupportedConversion ∨
      ∃ digits rest, text = digits ++ 'f' :: rest ∧ AreDigits digits ∧
        (digits = [] → value.isSome) := by
  induction text generalizing value with
  | nil => exact .inl (by rw [split])
  | cons character rest inductionHypothesis =>
    by_cases isDigit : character.isDigit = true
    · rw [split_digit isDigit]
      obtain stops | ⟨digits, behind, rfl, areDigits, _⟩ :=
        inductionHypothesis (some (appendDigit value character))
      · exact .inl stops
      · exact .inr ⟨character :: digits, behind, rfl,
          List.forall_mem_cons.mpr ⟨isDigit, areDigits⟩, nofun⟩
    · cases value with
      | none => exact .inl (by simp [split, isDigit])
      | some places =>
        by_cases letter : character = 'f'
        · subst letter
          exact .inr ⟨[], rest, rfl, areDigits_nil, fun _ => rfl⟩
        · exact .inl (by simp [split, isDigit, letter])

/-- A place where splitting gets stuck begins with a percent sign. -/
theorem Stuck.exists_rest {text : List Char} (stuck : Stuck text) : ∃ rest, text = '%' :: rest := by
  obtain ⟨notEmpty, noToken⟩ := stuck
  obtain ⟨character, rest, rfl⟩ := List.exists_cons_of_ne_nil notEmpty
  by_cases isPercent : character = '%'
  · exact ⟨rest, by rw [isPercent]⟩
  · exact absurd rfl (noToken (.plain character isPercent) rest)

theorem split_of_stuck {text : List Char} (stuck : Stuck text) (fits : ¬ Oversized text) :
    split .text text = .error .unsupportedConversion := by
  obtain ⟨rest, rfl⟩ := stuck.exists_rest
  have noToken := stuck.2
  cases rest with
  | nil => simp [split]
  | cons character rest =>
    have notPercent : character ≠ '%' := fun equal => noToken .percent rest (by rw [equal]; rfl)
    have notLetter : character ≠ 'f' := fun equal => noToken .decimals rest (by rw [equal]; rfl)
    have notInteger : character ≠ 'd' := fun equal => noToken .integer rest (by rw [equal]; rfl)
    by_cases point : character = '.'
    · subst point
      have entered : split .text ('%' :: '.' :: rest) = split (.places none) rest := by
        simp [split]
      obtain stops | ⟨digits, behind, rfl, areDigits, present⟩ := split_places_cases none rest
      · exact entered.trans stops
      · -- With digits and the letter behind the point, there is a token, or a number without bounds.
        have notEmpty : digits ≠ [] := fun empty => nomatch present empty
        rcases Nat.lt_or_ge (Nat.ofDigitChars 10 digits 0) (twoTo 64) with inRange | large
        · exact absurd (by simp [Token.text])
            (noToken (.places digits notEmpty areDigits inRange) behind)
        · exact absurd ⟨digits, behind, rfl, notEmpty, areDigits, large⟩ fits
    · simp [split, notPercent, notLetter, notInteger, point]

/-! ## What is accepted, and what is said about the rest -/

/-- There is no conversion, so that all labels would be the same. -/
def Constant (tokens : List Token) : Prop :=
  ∀ token ∈ tokens, token.isConversion = false

theorem not_constant_iff (tokens : List Token) :
    ¬ Constant tokens ↔ ∃ token ∈ tokens, token.isConversion = true := by
  simp [Constant]

theorem any_isConversion_iff (tokens : List Token) :
    (tokens.map Token.piece).any Piece.isConversion = true ↔ ¬ Constant tokens := by
  simp [Constant]

section

variable {specification : String} {tokens : List Token}

/-- A text that falls into tokens is read as their pieces. -/
theorem split_of_texts (spelled : specification.toList = texts tokens) :
    split .text specification.toList = .ok (tokens.map Token.piece) := by
  rw [spelled, ← List.append_nil (texts tokens), split_texts]
  simp [split]

theorem parse_of_texts (spelled : specification.toList = texts tokens)
    (converts : ¬ Constant tokens) :
    parse specification = .ok { specification, pieces := tokens.map Token.piece } := by
  rw [parse, split_of_texts spelled]
  exact if_pos ((any_isConversion_iff tokens).mpr converts)

theorem parse_of_constant (spelled : specification.toList = texts tokens)
    (constant : Constant tokens) : parse specification = .error .noConversion := by
  rw [parse, split_of_texts spelled]
  exact if_neg fun any => (any_isConversion_iff tokens).mp any constant

/-- Where splitting gets stuck, the reader stops. -/
theorem parse_of_stop {rest : List Char} {fault : Fault}
    (joined : specification.toList = texts tokens ++ rest)
    (stops : split .text rest = .error fault) : parse specification = .error fault := by
  rw [parse, joined, split_texts, stops]
  rfl

end

theorem parse_eq_ok_iff {specification : String} {format : LabelFormat} :
    parse specification = .ok format ↔
      ∃ tokens, specification.toList = texts tokens ∧ ¬ Constant tokens ∧
        format = { specification, pieces := tokens.map Token.piece } := by
  constructor
  · intro accepted
    obtain ⟨tokens, rest, joined, rfl | stuck⟩ := exists_splits specification.toList
    · rw [List.append_nil] at joined
      by_cases constant : Constant tokens
      · cases accepted.symm.trans (parse_of_constant joined constant)
      · cases accepted.symm.trans (parse_of_texts joined constant)
        exact ⟨tokens, joined, constant, rfl⟩
    · by_cases oversized : Oversized rest
      · cases accepted.symm.trans (parse_of_stop joined (split_of_oversized oversized))
      · cases accepted.symm.trans (parse_of_stop joined (split_of_stuck stuck oversized))
  · rintro ⟨tokens, spelled, converts, rfl⟩
    exact parse_of_texts spelled converts

/-- What is said about a specification that is refused: the first place where splitting gets stuck
decides, and only if there is none, the lack of a conversion. -/
inductive Complaint (specification : String) : String → Prop where
  | unsupported {tokens : List Token} {rest : List Char}
      (splits : Splits specification.toList tokens rest) (stuck : Stuck rest)
      (fits : ¬ Oversized rest) :
      Complaint specification
        ("unsupported conversion in label format " ++ Text.quoted specification)
  | oversized {tokens : List Token} {rest : List Char}
      (splits : Splits specification.toList tokens rest) (oversized : Oversized rest) :
      Complaint specification
        ("invalid precision in " ++ Text.quoted specification ++
          ": number too large to fit in target type")
  | constant {tokens : List Token} (splits : Splits specification.toList tokens [])
      (constant : Constant tokens) :
      Complaint specification ("label format " ++ Text.quoted specification ++ " has no conversion")

/-- A specification is accepted exactly if it is a row of tokens with a conversion among them. Every text
falls into tokens from the left in exactly one way, and where that ends decides what is said about a
specification that is refused. -/
theorem specifications_follow_grammar (specification : String) :
    ((∃ format, parse specification = .ok format) ↔
      ∃ tokens, specification.toList = texts tokens ∧
        ∃ token ∈ tokens, token.isConversion = true) ∧
    (∃! place : List Token × List Char, Splits specification.toList place.1 place.2) ∧
    ∀ message,
      (∃ fault, parse specification = .error fault ∧
        (Cause.labelFormat specification fault).message = message) ↔
      Complaint specification message := by
  obtain ⟨tokens, rest, splits⟩ := exists_splits specification.toList
  refine ⟨?_, ⟨(tokens, rest), splits, ?_⟩, fun message => ⟨?_, ?_⟩⟩
  · simp [parse_eq_ok_iff, not_constant_iff]
  · rintro ⟨others, other⟩ otherSplits
    obtain ⟨rfl, rfl⟩ := splits.unique otherSplits
    rfl
  · rintro ⟨fault, refused, rfl⟩
    rcases splits.ended with rfl | stuck
    · have spelled := splits.joined.trans (List.append_nil _)
      by_cases constant : Constant tokens
      · cases refused.symm.trans (parse_of_constant spelled constant)
        exact .constant splits constant
      · cases refused.symm.trans (parse_of_texts spelled constant)
    · by_cases oversized : Oversized rest
      · cases refused.symm.trans (parse_of_stop splits.joined (split_of_oversized oversized))
        exact .oversized splits oversized
      · cases refused.symm.trans (parse_of_stop splits.joined (split_of_stuck stuck oversized))
        exact .unsupported splits stuck oversized
  · intro complaint
    cases complaint with
    | unsupported splits stuck fits =>
      exact ⟨_, parse_of_stop splits.joined (split_of_stuck stuck fits), rfl⟩
    | oversized splits oversized =>
      exact ⟨_, parse_of_stop splits.joined (split_of_oversized oversized), rfl⟩
    | constant splits constant =>
      exact ⟨_, parse_of_constant (splits.joined.trans (List.append_nil _)) constant, rfl⟩

/-- The number is too large before the percent sign at the end is seen. -/
example : parse "%.18446744073709551616f%" = .error .placesTooLarge := by
  decide +kernel

end LoadReport.LabelFormat
