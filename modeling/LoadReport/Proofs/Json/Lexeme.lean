import LoadReport.Proofs.Json.Number

/-!
# Which texts are tokens

The grammar of tokens, said without the scanner: `Lexes` holds of tokens and the bytes that spell
them, with blanks anywhere in between. The scanner finds exactly these tokens (`lexes_iff`): where
it gives no invalid token, every byte belongs to a token or is a blank, and every text of the
grammar is scanned to its end.
-/

namespace LoadReport.Json

open Scanner (State NumberPhase IsAscii GoesOn Leads bytesOf bytesOf_append advance advance_append
  scan scan_append step stepBetween stepNumber isBlank escaped? hexadecimalValue? inOrder finish)

/-! ## Strings -/

/-- So many hexadecimal digits that have the value. -/
inductive IsHexadecimal : Nat → Nat → List UInt8 → Prop where
  | none : IsHexadecimal 0 0 []
  | digit {count value : Nat} {digits : List UInt8} (before : IsHexadecimal count value digits)
      {byte : UInt8} {digit : Nat} (has : hexadecimalValue? (Char.ofUInt8 byte) = some digit) :
      IsHexadecimal (count + 1) (value * 16 + digit) (digits ++ [byte])

/-- The texts of a part of a string: a byte as it is, or an escape by a letter or a number. -/
inductive IsPart : StringPart → List UInt8 → Prop where
  | byte {byte : UInt8} (notQuote : Char.ofUInt8 byte ≠ '"')
      (notBackslash : Char.ofUInt8 byte ≠ '\\') (notControl : ¬ byte < 0x20) :
      IsPart (.byte byte) [byte]
  | letter {letter value : UInt8} (stands : escaped? (Char.ofUInt8 letter) = some value) :
      IsPart (.byte value) [0x5c, letter]
  | unit {value : Nat} {digits : List UInt8} (hexadecimal : IsHexadecimal 4 value digits) :
      IsPart (.unit value) ([0x5c, 0x75] ++ digits)

/-- What stands between the quotes of a string with the given parts. -/
inductive IsContent : List StringPart → List UInt8 → Prop where
  | empty : IsContent [] []
  | part {parts : List StringPart} {bytes : List UInt8} (before : IsContent parts bytes)
      {part : StringPart} {text : List UInt8} (isPart : IsPart part text) :
      IsContent (parts ++ [part]) (bytes ++ text)

/-! ## Tokens -/

/-- The tokens with a single spelling. -/
def fixedTokens : List (Token × List Char) :=
  [(.openObject, ['\x7b']), (.closeObject, ['\x7d']), (.openArray, ['[']), (.closeArray, [']']),
    (.comma, [',']), (.colon, [':']), (.null, ['n', 'u', 'l', 'l']),
    (.boolean true, ['t', 'r', 'u', 'e']), (.boolean false, ['f', 'a', 'l', 's', 'e'])]

/-- The texts of a token. -/
inductive Lexeme : Token → List UInt8 → Prop where
  | fixed {token : Token} {text : List Char} (listed : (token, text) ∈ fixedTokens) :
      Lexeme token (bytesOf text)
  | string {parts : List StringPart} {bytes : List UInt8} (content : IsContent parts bytes) :
      Lexeme (.string (StringPart.text? parts)) (0x22 :: (bytes ++ [0x22]))
  | number {numeral : Numeral} {text : List Char} (number : IsNumber numeral text) :
      Lexeme (.number numeral) (bytesOf text)

/-- A number ends where no character goes on with it. All other tokens show their end. -/
def IsApart : Token → List UInt8 → Prop
  | .number _, byte :: _ => ¬ GoesOn (Char.ofUInt8 byte)
  | _, _ => True

/-- The tokens are what the bytes spell, with blanks anywhere in between. -/
inductive Lexes : List Token → List UInt8 → Prop where
  | done : Lexes [] []
  | blank {byte : UInt8} (isBlank : isBlank (Char.ofUInt8 byte) = true) {tokens : List Token}
      {rest : List UInt8} (others : Lexes tokens rest) : Lexes tokens (byte :: rest)
  | token {token : Token} {text : List UInt8} (lexeme : Lexeme token text) {tokens : List Token}
      {rest : List UInt8} (apart : IsApart token rest) (others : Lexes tokens rest) :
      Lexes (token :: tokens) (text ++ rest)

namespace Scanner

/-! ## Every text of the grammar is scanned -/

theorem advance_hexadecimal_digits {count value : Nat} {digits : List UInt8}
    (hexadecimal : IsHexadecimal count value digits) (before : List StringPart) :
    (count < 4 → advance (.hexadecimal before 4 0) digits =
        ([], .hexadecimal before (4 - count) value)) ∧
      (count = 4 → advance (.hexadecimal before 4 0) digits =
        ([], .string (.unit value :: before))) := by
  induction hexadecimal with
  | none => simp [advance]
  | @digit count value digits _ byte digit has inductionHypothesis =>
    obtain ⟨onward, _⟩ := inductionHypothesis
    constructor
    -- The last of four digits goes back to the string, all others wait for more.
    · intro few
      have more : ¬ 4 - count ≤ 1 := by omega
      have left : 4 - count - 1 = 4 - (count + 1) := by omega
      simp [advance_append, onward (by omega), advance, step, has, more, left]
    · intro all
      have last : 4 - count ≤ 1 := by omega
      simp [advance_append, onward (by omega), advance, step, has, last]

theorem advance_part {part : StringPart} {text : List UInt8} (isPart : IsPart part text)
    (before : List StringPart) :
    advance (.string before) text = ([], .string (part :: before)) := by
  cases isPart with
  | byte notQuote notBackslash notControl =>
    simp [advance, step, notQuote, notBackslash, notControl]
  | @letter letter value stands =>
    have opened : step 0x5c (.string before) = ([], .escape before) := rfl
    have notUnit : Char.ofUInt8 letter ≠ 'u' := by
      intro unit
      rw [unit] at stands
      cases stands
    have escaped : step letter (.escape before) = ([], .string (.byte value :: before)) := by
      simp [step, notUnit, stands]
    simp [advance, opened, escaped]
  | unit hexadecimal =>
    have opened : advance (.string before) [0x5c, 0x75] = ([], .hexadecimal before 4 0) := rfl
    rw [advance_append, opened, (advance_hexadecimal_digits hexadecimal before).2 rfl]
    rfl

theorem advance_content {parts : List StringPart} {bytes : List UInt8}
    (content : IsContent parts bytes) :
    advance (.string []) bytes = ([], .string parts.reverse) := by
  induction content with
  | empty => rfl
  | part _ isPart inductionHypothesis =>
    rw [advance_append, inductionHypothesis, advance_part isPart]
    simp

theorem advance_string {parts : List StringPart} {bytes : List UInt8}
    (content : IsContent parts bytes) :
    advance .between (0x22 :: (bytes ++ [0x22])) =
      ([.string (StringPart.text? parts)], .between) := by
  have opened : advance .between [0x22] = ([], .string []) := rfl
  have closed : advance (.string parts.reverse) [0x22] =
      ([.string (StringPart.text? parts.reverse.reverse)], .between) := rfl
  rw [List.reverse_reverse] at closed
  rw [← List.singleton_append, advance_append, opened, advance_append, advance_content content,
    closed]
  rfl

theorem advance_fixed : ∀ listed ∈ fixedTokens,
    advance .between (bytesOf listed.2) = ([listed.1], .between) := by
  simp only [fixedTokens, List.forall_mem_cons]
  exact ⟨rfl, rfl, rfl, rfl, rfl, rfl, rfl, rfl, rfl, by simp⟩

theorem scan_number {phase : NumberPhase} (final : phase.isFinal = true) (read : Numeral)
    {rest : List UInt8} (apart : IsApart (.number (inOrder read)) rest) :
    scan (.number phase read) rest = .number (inOrder read) :: scan .between rest := by
  cases rest with
  | nil => simp [scan, advance, finish, final]
  | cons byte rest =>
    simp [scan, advance, step, stepNumber_apart final read apart]

theorem scan_lexeme {token : Token} {text : List UInt8} (lexeme : Lexeme token text)
    {rest : List UInt8} (apart : IsApart token rest) :
    scan .between (text ++ rest) = token :: scan .between rest := by
  rw [scan_append]
  cases lexeme with
  | fixed listed =>
    rw [advance_fixed _ listed]
    rfl
  | string content =>
    rw [advance_string content]
    rfl
  | number number =>
    obtain ⟨phase, read, final, rfl, leads⟩ := leads_number number
    rw [leads, scan_number final read apart]
    rfl

theorem scan_of_lexes {tokens : List Token} {bytes : List UInt8} (lexes : Lexes tokens bytes) :
    scan .between bytes = tokens := by
  induction lexes with
  | done => rfl
  | blank isBlank _ inductionHypothesis =>
    simp only [scan, advance, step, stepBetween, isBlank, if_true] at inductionHypothesis ⊢
    simpa using inductionHypothesis
  | token lexeme apart _ inductionHypothesis =>
    rw [scan_lexeme lexeme apart, inductionHypothesis]

/-! ## Every token that is scanned is one of the grammar -/

/-- The bytes that lead to a state, counted from the beginning of the token that it is in. -/
inductive Pending : State → List UInt8 → Prop where
  | between : Pending .between []
  | string {before : List StringPart} {bytes : List UInt8}
      (content : IsContent before.reverse bytes) : Pending (.string before) (0x22 :: bytes)
  | escape {before : List StringPart} {bytes : List UInt8}
      (content : IsContent before.reverse bytes) :
      Pending (.escape before) (0x22 :: bytes ++ [0x5c])
  | hexadecimal {before : List StringPart} {bytes : List UInt8}
      (content : IsContent before.reverse bytes) {count value : Nat} {digits : List UInt8}
      (hexadecimal : IsHexadecimal count value digits) {missing : Nat} (positive : 0 < missing)
      (four : count + missing = 4) :
      Pending (.hexadecimal before missing value) (0x22 :: bytes ++ ([0x5c, 0x75] ++ digits))
  | word {token : Token} {read missing : List Char}
      (listed : (token, read ++ missing) ∈ fixedTokens) :
      Pending (.word missing token) (bytesOf read)
  | number {phase : NumberPhase} {read : Numeral} {text : List Char} (begins : Begins phase text)
      (leads : Leads .between text (.number phase read)) :
      Pending (.number phase read) (bytesOf text)

/-- What one more byte can do behind the bytes of a token, unless it ends a number before it. -/
inductive Takes (read : List UInt8) (byte : UInt8) : List Token × State → Prop where
  | refuse : Takes read byte refuse
  | onward {next : State} (pending : Pending next (read ++ [byte])) : Takes read byte ([], next)
  | complete {token : Token} (lexeme : Lexeme token (read ++ [byte]))
      (apart : ∀ rest, IsApart token rest) : Takes read byte ([token], .between)

theorem bytesOf_ofUInt8 {byte : UInt8} (ascii : IsAscii (Char.ofUInt8 byte)) :
    bytesOf [Char.ofUInt8 byte] = [byte] := by
  simp [bytesOf, utf8EncodeChar_of_ascii ascii, toNat_ofUInt8]

theorem isAscii_of_fixed {token : Token} {text : List Char} (listed : (token, text) ∈ fixedTokens)
    {character : Char} (among : character ∈ text) : IsAscii character := by
  have all : (fixedTokens.all fun fixed => fixed.2.all (IsAscii ·)) = true := rfl
  have inText := List.all_eq_true.mp all _ listed
  exact of_decide_eq_true (List.all_eq_true.mp inText character among)

theorem isApart_of_fixed {token : Token} {text : List Char} (listed : (token, text) ∈ fixedTokens)
    (rest : List UInt8) : IsApart token rest := by
  cases token with
  | number numeral => simp [fixedTokens] at listed
  | _ => trivial

theorem Takes.fixed {byte : UInt8} {token : Token} {read : List Char}
    (listed : (token, read ++ [Char.ofUInt8 byte]) ∈ fixedTokens) :
    Takes (bytesOf read) byte ([token], .between) := by
  have ascii := isAscii_of_fixed listed (List.mem_append_right _ List.mem_cons_self)
  have lexeme := Lexeme.fixed listed
  rw [bytesOf_append, bytesOf_ofUInt8 ascii] at lexeme
  exact .complete lexeme (isApart_of_fixed listed)

theorem Takes.word {byte : UInt8} {token : Token} {read missing : List Char}
    (listed : (token, read ++ Char.ofUInt8 byte :: missing) ∈ fixedTokens) :
    Takes (bytesOf read) byte ([], .word missing token) := by
  have ascii := isAscii_of_fixed listed (List.mem_append_right _ List.mem_cons_self)
  rw [← List.singleton_append, ← List.append_assoc] at listed
  have pending := Pending.word listed
  rw [bytesOf_append, bytesOf_ofUInt8 ascii] at pending
  exact .onward pending

theorem Takes.number {byte : UInt8} {phase : NumberPhase} {read : Numeral}
    (ascii : IsAscii (Char.ofUInt8 byte)) (begins : Begins phase [Char.ofUInt8 byte])
    (starts : stepBetween (Char.ofUInt8 byte) = ([], .number phase read)) :
    Takes [] byte ([], .number phase read) := by
  have pending := Pending.number begins (Leads.between ascii starts)
  rw [bytesOf_ofUInt8 ascii] at pending
  exact .onward pending

theorem stepBetween_fixed {token : Token} {character : Char} {missing : List Char}
    (listed : (token, character :: missing) ∈ fixedTokens) :
    stepBetween character =
      if missing = [] then ([token], .between) else ([], .word missing token) := by
  simp only [fixedTokens, List.mem_cons, Prod.mk.injEq, List.cons.injEq, List.not_mem_nil,
    or_false] at listed
  rcases listed with ⟨rfl, rfl, rfl⟩ | ⟨rfl, rfl, rfl⟩ | ⟨rfl, rfl, rfl⟩ | ⟨rfl, rfl, rfl⟩ |
    ⟨rfl, rfl, rfl⟩ | ⟨rfl, rfl, rfl⟩ | ⟨rfl, rfl, rfl⟩ | ⟨rfl, rfl, rfl⟩ | ⟨rfl, rfl, rfl⟩ <;> rfl

theorem byte_eq {byte other : UInt8} (equal : Char.ofUInt8 byte = Char.ofUInt8 other) :
    byte = other := by
  rw [← UInt8.toNat_inj, ← toNat_ofUInt8, equal, toNat_ofUInt8]

theorem takes_between {byte : UInt8} (notBlank : isBlank (Char.ofUInt8 byte) = false) :
    Takes [] byte (stepBetween (Char.ofUInt8 byte)) := by
  by_cases listed : ∃ token missing, (token, Char.ofUInt8 byte :: missing) ∈ fixedTokens
  · obtain ⟨token, missing, listed⟩ := listed
    rw [stepBetween_fixed listed]
    split
    next complete =>
      subst complete
      exact @Takes.fixed byte token [] listed
    next => exact @Takes.word byte token [] missing listed
  -- What is left are strings, numbers and bytes that no token begins with.
  by_cases quote : Char.ofUInt8 byte = '"'
  · rw [quote, (byte_eq quote : byte = 0x22)]
    exact .onward (.string .empty)
  by_cases minus : Char.ofUInt8 byte = '-'
  · rw [minus]
    exact Takes.number (by rw [minus]; decide) (minus ▸ .sign) (by rw [minus]; rfl)
  by_cases zero : Char.ofUInt8 byte = '0'
  · rw [zero]
    exact Takes.number (by rw [zero]; decide) (zero ▸ .zero false) (by rw [zero]; rfl)
  by_cases digit : (Char.ofUInt8 byte).isDigit = true
  · rw [stepBetween_digit digit zero]
    exact Takes.number (isAscii_of_isDigit digit) (.whole false zero (areDigits_singleton digit))
      (stepBetween_digit digit zero)
  have refused : stepBetween (Char.ofUInt8 byte) = refuse := by
    simp only [fixedTokens, List.mem_cons, Prod.mk.injEq, List.cons.injEq, List.not_mem_nil,
      or_false, exists_or, exists_and_left, exists_eq_left, exists_eq, and_true, not_or] at listed
    simp [stepBetween, notBlank, quote, minus, zero, digit, listed]
  rw [refused]
  exact .refuse

theorem takes_string {before : List StringPart} {bytes : List UInt8}
    (content : IsContent before.reverse bytes) (byte : UInt8) :
    Takes (0x22 :: bytes) byte (step byte (.string before)) := by
  rw [step]
  by_cases quote : Char.ofUInt8 byte = '"'
  · rw [if_pos quote, (byte_eq quote : byte = 0x22)]
    exact .complete (.string content) fun _ => trivial
  by_cases backslash : Char.ofUInt8 byte = '\\'
  · rw [if_neg quote, if_pos backslash, (byte_eq backslash : byte = 0x5c)]
    exact .onward (.escape content)
  rw [if_neg quote, if_neg backslash]
  by_cases control : byte < 0x20
  · rw [if_pos control]
    exact .refuse
  · rw [if_neg control]
    refine .onward (.string ?_)
    rw [List.reverse_cons]
    exact content.part (.byte quote backslash control)

theorem takes_escape {before : List StringPart} {bytes : List UInt8}
    (content : IsContent before.reverse bytes) (byte : UInt8) :
    Takes (0x22 :: bytes ++ [0x5c]) byte (step byte (.escape before)) := by
  rw [step]
  by_cases unit : Char.ofUInt8 byte = 'u'
  · rw [if_pos unit, (byte_eq unit : byte = 0x75)]
    refine .onward ?_
    rw [List.append_assoc]
    exact .hexadecimal content .none (by decide) rfl
  rw [if_neg unit]
  split
  next value stands =>
    refine .onward ?_
    rw [List.append_assoc, List.cons_append]
    refine .string ?_
    rw [List.reverse_cons]
    exact content.part (.letter stands)
  next => exact .refuse

theorem takes_hexadecimal {before : List StringPart} {bytes : List UInt8}
    (content : IsContent before.reverse bytes) {count value : Nat} {digits : List UInt8}
    (hexadecimal : IsHexadecimal count value digits) {missing : Nat} (positive : 0 < missing)
    (four : count + missing = 4) (byte : UInt8) :
    Takes (0x22 :: bytes ++ ([0x5c, 0x75] ++ digits)) byte
      (step byte (.hexadecimal before missing value)) := by
  rw [step]
  split
  next => exact .refuse
  next digit has =>
    have more := hexadecimal.digit has
    have parts : 0x22 :: bytes ++ ([0x5c, 0x75] ++ digits) ++ [byte] =
        0x22 :: bytes ++ ([0x5c, 0x75] ++ (digits ++ [byte])) := by
      simp
    dsimp only
    split
    next last =>
      have all : count + 1 = 4 := by omega
      rw [all] at more
      refine .onward ?_
      rw [parts, List.cons_append]
      refine .string ?_
      rw [List.reverse_cons]
      exact content.part (.unit more)
    next few =>
      refine .onward ?_
      rw [parts]
      exact .hexadecimal content more (by omega) (by omega)

theorem takes_word {token : Token} {read missing : List Char}
    (listed : (token, read ++ missing) ∈ fixedTokens) (byte : UInt8) :
    Takes (bytesOf read) byte (step byte (.word missing token)) := by
  cases missing with
  | nil => exact .refuse
  | cons letter missing =>
    rw [step]
    by_cases equal : Char.ofUInt8 byte = letter
    · subst equal
      rw [if_neg (not_not_intro rfl)]
      split
      next complete =>
        subst complete
        exact Takes.fixed listed
      next => exact Takes.word listed
    · rw [if_pos equal]
      exact .refuse

theorem forbids_of_digit {phase : NumberPhase} (final : phase.isFinal = true) {character : Char}
    (digit : character.isDigit = true) {read : Numeral} (ends : phase.next? character read = none) :
    phase.forbids character = true := by
  cases phase with
  | zero => exact digit
  | whole | fraction | exponent => simp [NumberPhase.next?, NumberPhase.next?.digit?, digit] at ends
  | sign | point | mark | markSign => cases final

theorem stepBetween_goesOn {character : Char} (goesOn : GoesOn character)
    (notDigit : character.isDigit = false) : stepBetween character = refuse := by
  rcases goesOn with digit | rfl | rfl | rfl
  · rw [digit] at notDigit
    cases notDigit
  · rfl
  · rfl
  · rfl

/-- A number goes on with a byte, or ends before it, or the byte cannot stand there. -/
theorem takes_number {phase : NumberPhase} {read : Numeral} {text : List Char}
    (begins : Begins phase text) (leads : Leads .between text (.number phase read)) (byte : UInt8) :
    Takes (bytesOf text) byte (step byte (.number phase read)) ∨
      (phase.isFinal = true ∧ ¬ GoesOn (Char.ofUInt8 byte)) ∨
      .invalid ∈ (step byte (.number phase read)).1 := by
  cases taken : phase.next? (Char.ofUInt8 byte) read with
  | some next =>
    left
    obtain ⟨next, extended⟩ := next
    obtain ⟨ascii, begun⟩ := begins.next taken
    have pending := Pending.number begun (leads.append (Leads.number ascii taken))
    rw [bytesOf_append, bytesOf_ofUInt8 ascii] at pending
    have onward : step byte (.number phase read) = ([], .number next extended) := by
      simp only [step, stepNumber, taken]
    rw [onward]
    exact .onward pending
  | none =>
    right
    simp only [step, stepNumber, taken]
    by_cases stuck : (!phase.isFinal || phase.forbids (Char.ofUInt8 byte)) = true
    · right
      rw [if_pos stuck]
      exact List.mem_singleton_self _
    · rw [if_neg stuck]
      simp only [Bool.or_eq_true, Bool.not_eq_true', not_or, Bool.not_eq_true] at stuck
      obtain ⟨final, allowed⟩ := stuck
      rw [Bool.not_eq_false] at final
      by_cases goesOn : GoesOn (Char.ofUInt8 byte)
      · right
        have notDigit : (Char.ofUInt8 byte).isDigit = false := by
          refine Bool.eq_false_iff.mpr fun digit => ?_
          rw [forbids_of_digit final digit taken] at allowed
          cases allowed
        rw [stepBetween_goesOn goesOn notDigit]
        exact List.mem_cons_of_mem _ (List.mem_singleton_self _)
      · exact .inl ⟨final, goesOn⟩

theorem scan_cons (state : State) (byte : UInt8) (rest : List UInt8) :
    scan state (byte :: rest) = (step byte state).1 ++ scan (step byte state).2 rest := by
  simp [scan, advance]

theorem lexeme_of_begins {phase : NumberPhase} {read : Numeral} {text : List Char}
    (begins : Begins phase text) (leads : Leads .between text (.number phase read))
    (final : phase.isFinal = true) : Lexeme (.number (inOrder read)) (bytesOf text) := by
  obtain ⟨numeral, number⟩ := exists_isNumber final begins
  -- A text leads to one state only, so what has been read is the number that the text stands for.
  obtain ⟨_, _, _, rfl, leadsToo⟩ := leads_number number
  cases leads.symm.trans leadsToo
  exact .number number

/-- What is scanned behind a byte that a token takes. -/
theorem Takes.lexes {read : List UInt8} {byte : UInt8} {result : List Token × State}
    (takes : Takes read byte result) {rest : List UInt8}
    (onward : ∀ {next : State} {read : List UInt8}, Pending next read →
      .invalid ∉ scan next rest → Lexes (scan next rest) (read ++ rest))
    (valid : .invalid ∉ result.1 ++ scan result.2 rest) :
    Lexes (result.1 ++ scan result.2 rest) (read ++ byte :: rest) := by
  have parts : read ++ byte :: rest = read ++ [byte] ++ rest := by simp
  rw [parts]
  cases takes with
  | refuse => exact absurd (List.mem_append_left _ (List.mem_singleton_self _)) valid
  | onward pending => exact onward pending valid
  | complete lexeme apart =>
    have others := onward .between fun invalid => valid (List.mem_cons_of_mem _ invalid)
    exact .token lexeme (apart rest) others

/-- What is scanned from a state, behind the bytes that lead to it. -/
theorem lexes_of_pending {state : State} {read : List UInt8} (pending : Pending state read)
    {bytes : List UInt8} (valid : .invalid ∉ scan state bytes) :
    Lexes (scan state bytes) (read ++ bytes) := by
  -- The bytes are scanned one by one; `pending` says what has been scanned of the current token.
  induction bytes generalizing state read with
  | nil =>
    cases pending with
    | between => exact .done
    | @number phase scanned text begins leads =>
      by_cases final : phase.isFinal = true
      · have last : scan (.number phase scanned) [] = [.number (inOrder scanned)] := by
          simp [scan, advance, finish, final]
        rw [last]
        exact .token (lexeme_of_begins begins leads final) trivial .done
      · have last : scan (.number phase scanned) [] = [.invalid] := by
          simp [scan, advance, finish, final]
        rw [last] at valid
        exact absurd (List.mem_singleton_self _) valid
    | string | escape | hexadecimal | word => exact absurd (List.mem_singleton_self _) valid
  | cons byte rest inductionHypothesis =>
    have fromBetween (valid : .invalid ∉ scan .between (byte :: rest)) :
        Lexes (scan .between (byte :: rest)) (byte :: rest) := by
      rw [scan_cons] at valid ⊢
      by_cases blank : isBlank (Char.ofUInt8 byte) = true
      · have skipped : step byte .between = ([], .between) := by simp [step, stepBetween, blank]
        rw [skipped] at valid ⊢
        exact .blank blank (inductionHypothesis .between valid)
      · exact (takes_between (Bool.eq_false_iff.mpr blank)).lexes inductionHypothesis valid
    cases pending with
    | between => exact fromBetween valid
    | string content =>
      rw [scan_cons] at valid ⊢
      exact (takes_string content byte).lexes inductionHypothesis valid
    | escape content =>
      rw [scan_cons] at valid ⊢
      exact (takes_escape content byte).lexes inductionHypothesis valid
    | hexadecimal content hexadecimal positive four =>
      rw [scan_cons] at valid ⊢
      have takes := takes_hexadecimal content hexadecimal positive four byte
      exact takes.lexes inductionHypothesis valid
    | word listed =>
      rw [scan_cons] at valid ⊢
      exact (takes_word listed byte).lexes inductionHypothesis valid
    | @number phase scanned text begins leads =>
      obtain takes | ⟨final, ends⟩ | invalid := takes_number begins leads byte
      · rw [scan_cons] at valid ⊢
        exact takes.lexes inductionHypothesis valid
      -- The number ends, and the byte is the first of what stands behind it.
      · have apart : IsApart (.number (inOrder scanned)) (byte :: rest) := ends
        rw [scan_number final scanned apart] at valid ⊢
        have others := fromBetween fun invalid => valid (List.mem_cons_of_mem _ invalid)
        exact .token (lexeme_of_begins begins leads final) apart others
      · rw [scan_cons] at valid
        exact absurd (List.mem_append_left _ invalid) valid

end Scanner

theorem not_invalid_of_lexes {tokens : List Token} {bytes : List UInt8}
    (lexes : Lexes tokens bytes) : .invalid ∉ tokens := by
  induction lexes with
  | done => exact List.not_mem_nil
  | blank _ _ inductionHypothesis => exact inductionHypothesis
  | token lexeme _ _ inductionHypothesis =>
    rw [List.mem_cons, not_or]
    refine ⟨?_, inductionHypothesis⟩
    rintro rfl
    cases lexeme with
    | fixed listed => simp [fixedTokens] at listed

/-- The tokens of a text are those that it spells, unless a byte of it belongs to none. -/
theorem lexes_iff (tokens : List Token) (bytes : List UInt8) :
    Lexes tokens bytes ↔ Json.tokens bytes = tokens ∧ .invalid ∉ tokens := by
  constructor
  · intro lexes
    exact ⟨Scanner.scan_of_lexes lexes, not_invalid_of_lexes lexes⟩
  · intro scanned
    obtain ⟨rfl, valid⟩ := scanned
    exact Scanner.lexes_of_pending .between valid

end LoadReport.Json
