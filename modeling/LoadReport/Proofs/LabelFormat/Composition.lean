import LoadReport.Proofs.LabelFormat.Grammar

/-!
# How label formats compose

The label of a value is what the tokens of the specification write, one after the other, so the labels of
two formats follow one another as their specifications do. Literal text is written as it is, whatever
stands around it, once its percent signs are doubled (`written?_literals`).
-/

namespace LoadReport.LabelFormat

/-! ## What tokens write -/

namespace Token

/-- What a token adds to the label of a value: literal text adds itself, a conversion the value. -/
def write? (value : Binary64) : Token → Option String
  | .plain character _ => some (String.singleton character)
  | .percent => some "%"
  | token => token.piece.render? value

theorem render?_piece (value : Binary64) (token : Token) :
    token.piece.render? value = token.write? value := by
  cases token <;> rfl

end Token

/-- What a row of tokens writes. -/
def written? (value : Binary64) : List Token → Option String
  | [] => some ""
  | token :: rest => do
    let text ← token.write? value
    let others ← written? value rest
    return text ++ others

theorem renderPieces?_map_piece (value : Binary64) (tokens : List Token) :
    renderPieces? value (tokens.map Token.piece) = written? value tokens := by
  induction tokens with
  | nil => rfl
  | cons token tokens inductionHypothesis =>
    rw [List.map_cons, renderPieces?, Token.render?_piece, inductionHypothesis]
    rfl

theorem written?_append (value : Binary64) (first second : List Token) :
    written? value (first ++ second) =
      (written? value first).bind fun text => (written? value second).map (text ++ ·) := by
  simp only [← renderPieces?_map_piece, List.map_append, renderPieces?_append]

/-! ## Specifications as rows of tokens -/

def specificationOf (tokens : List Token) : String :=
  String.ofList (texts tokens)

theorem specificationOf_append (first second : List Token) :
    specificationOf (first ++ second) = specificationOf first ++ specificationOf second := by
  rw [specificationOf, texts_append, String.ofList_append]
  rfl

/-- A row of tokens with a conversion is a specification, and labels are what the tokens write. -/
theorem exists_format {tokens : List Token} (converts : ¬ Constant tokens) :
    ∃ format, parse (specificationOf tokens) = .ok format ∧
      ∀ value, format.render? value = written? value tokens :=
  ⟨_, parse_of_texts String.toList_ofList converts, fun value => renderPieces?_map_piece value tokens⟩

theorem exists_tokens {specification : String} {format : LabelFormat}
    (accepted : parse specification = .ok format) :
    ∃ tokens, specification = specificationOf tokens ∧ ¬ Constant tokens ∧
      ∀ value, format.render? value = written? value tokens := by
  obtain ⟨tokens, spelled, converts, rfl⟩ := parse_eq_ok_iff.mp accepted
  refine ⟨tokens, ?_, converts, fun value => renderPieces?_map_piece value tokens⟩
  rw [specificationOf, ← spelled, String.ofList_toList]

theorem not_constant_append {first second : List Token}
    (converts : ¬ Constant first ∨ ¬ Constant second) : ¬ Constant (first ++ second) := by
  intro constant
  obtain ⟨firstConstant, secondConstant⟩ := List.forall_mem_append.mp constant
  exact converts.elim (· firstConstant) (· secondConstant)

/-! ## Literal text -/

/-- A text as it stands in a specification, with every percent sign doubled. -/
def escape (text : String) : String :=
  String.ofList (text.toList.flatMap fun character =>
    if character = '%' then ['%', '%'] else [character])

/-- The token that writes a character. -/
def literal (character : Char) : Token :=
  if isPercent : character = '%' then .percent else .plain character isPercent

def literals (text : String) : List Token :=
  text.toList.map literal

theorem text_literal (character : Char) :
    (literal character).text = if character = '%' then ['%', '%'] else [character] := by
  by_cases isPercent : character = '%' <;> simp [literal, isPercent, Token.text]

theorem write?_literal (value : Binary64) (character : Char) :
    (literal character).write? value = some (String.singleton character) := by
  by_cases isPercent : character = '%'
  · subst isPercent
    rfl
  · simp [literal, isPercent, Token.write?]

theorem specificationOf_literals (text : String) : specificationOf (literals text) = escape text := by
  simp only [specificationOf, literals, texts, List.flatMap_map, text_literal]
  rfl

theorem written?_map_literal (value : Binary64) (characters : List Char) :
    written? value (characters.map literal) = some (String.ofList characters) := by
  induction characters with
  | nil => rfl
  | cons character rest inductionHypothesis =>
    rw [List.map_cons, written?, write?_literal, inductionHypothesis, String.ofList_cons]
    rfl

/-- Literal text is written as it is. -/
theorem written?_literals (value : Binary64) (text : String) :
    written? value (literals text) = some text := by
  rw [literals, written?_map_literal, String.ofList_toList]

/-! ## Composition -/

/-- The labels of joined specifications are the labels of both, joined; escaped text in front of a
specification or behind it is written as the text itself. Every label is what the tokens of its
specification write, each literal character once and in its place. -/
theorem specifications_compose :
    (∀ (first second : String) (one other : LabelFormat),
      parse first = .ok one → parse second = .ok other →
      ∃ both, parse (first ++ second) = .ok both ∧
        ∀ value, both.render? value =
          (one.render? value).bind fun text => (other.render? value).map (text ++ ·)) ∧
    (∀ (text specification : String) (format : LabelFormat), parse specification = .ok format →
      (∃ front, parse (escape text ++ specification) = .ok front ∧
        ∀ value, front.render? value = (format.render? value).map (text ++ ·)) ∧
      ∃ behind, parse (specification ++ escape text) = .ok behind ∧
        ∀ value, behind.render? value = (format.render? value).map (· ++ text)) ∧
    ∀ (specification : String) (format : LabelFormat), parse specification = .ok format →
      ∃ tokens, specification = specificationOf tokens ∧
        ∀ value, format.render? value = written? value tokens := by
  refine ⟨?_, ?_, ?_⟩
  · intro first second one other firstAccepted secondAccepted
    obtain ⟨tokens, rfl, converts, labels⟩ := exists_tokens firstAccepted
    obtain ⟨others, rfl, _, otherLabels⟩ := exists_tokens secondAccepted
    obtain ⟨both, accepted, joined⟩ :=
      exists_format (not_constant_append (.inl converts : _ ∨ ¬ Constant others))
    rw [specificationOf_append] at accepted
    refine ⟨both, accepted, fun value => ?_⟩
    rw [joined, written?_append, labels, otherLabels]
  · intro text specification format accepted
    obtain ⟨tokens, rfl, converts, labels⟩ := exists_tokens accepted
    obtain ⟨front, frontAccepted, frontLabels⟩ :=
      exists_format (not_constant_append (.inr converts : ¬ Constant (literals text) ∨ _))
    obtain ⟨behind, behindAccepted, behindLabels⟩ :=
      exists_format (not_constant_append (.inl converts : _ ∨ ¬ Constant (literals text)))
    rw [specificationOf_append, specificationOf_literals] at frontAccepted behindAccepted
    refine ⟨⟨front, frontAccepted, fun value => ?_⟩,
      ⟨behind, behindAccepted, fun value => ?_⟩⟩
    · rw [frontLabels, written?_append, written?_literals, labels]
      rfl
    · rw [behindLabels, written?_append, written?_literals, labels, Option.map_eq_bind]
      rfl
  · intro specification format accepted
    obtain ⟨tokens, spelled, _, labels⟩ := exists_tokens accepted
    exact ⟨tokens, spelled, labels⟩

/-- A percentage with text behind it that has a percent sign of its own, and with a count in front. -/
theorem percentage_composes_with_count_and_text :
    ∃ percentage both behind, parse "%.1f%%" = .ok percentage ∧
      percentage.render? 87.5 = some "87.5%" ∧
      parse ("%d: " ++ "%.1f%%") = .ok both ∧ both.render? 87.5 = some ("87: " ++ "87.5%") ∧
      parse ("%.1f%%" ++ " of 100%%") = .ok behind ∧
      behind.render? 87.5 = some ("87.5%" ++ " of 100%") := by
  let count : LabelFormat := ⟨"%d: ", [.integer, .literal ':', .literal ' ']⟩
  let percentage : LabelFormat := ⟨"%.1f%%", [.fixed 1, .literal '%']⟩
  have countAccepted : parse "%d: " = .ok count := by decide +kernel
  have accepted : parse "%.1f%%" = .ok percentage := by decide +kernel
  have countLabel : count.render? 87.5 = some "87: " := by decide +kernel
  have label : percentage.render? 87.5 = some "87.5%" := by decide +kernel
  have doubled : escape " of 100%" = " of 100%%" := by decide +kernel
  obtain ⟨joining, escaping, _⟩ := specifications_compose
  obtain ⟨both, bothAccepted, joined⟩ := joining _ _ count percentage countAccepted accepted
  obtain ⟨_, behind, behindAccepted, ended⟩ := escaping " of 100%" _ percentage accepted
  refine ⟨percentage, both, behind, accepted, label, bothAccepted, ?_, doubled ▸ behindAccepted, ?_⟩
  · rw [joined, countLabel, label]
    rfl
  · rw [ended, label]
    rfl

end LoadReport.LabelFormat
