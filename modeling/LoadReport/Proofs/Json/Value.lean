import LoadReport.Json.Token

/-!
# Which tokens are values

The grammar of values over tokens: a single token, an array with values between commas, or an object
with members between commas.
-/

namespace LoadReport.Json

/-- Parts with a comma before each, and the token that ends them. -/
def following (closing : Token) : List (List Token) → List Token
  | [] => [closing]
  | part :: rest => .comma :: (part ++ following closing rest)

/-- Parts with commas between them, inside of two tokens. -/
def enclosed (opening closing : Token) : List (List Token) → List Token
  | [] => [opening, closing]
  | part :: rest => opening :: (part ++ following closing rest)

/-- A member of an object. Its key is missing if the string in its place stands for no text. -/
structure Member where
  key : Option String
  value : List Token

def Member.tokens (member : Member) : List Token :=
  .string member.key :: .colon :: member.value

def arrayTokens (elements : List (List Token)) : List Token :=
  enclosed .openArray .closeArray elements

def objectTokens (members : List Member) : List Token :=
  enclosed .openObject .closeObject (members.map Member.tokens)

/-- Whether a token is a value by itself. -/
def Token.isScalar : Token → Bool
  | .string _ | .number _ | .null | .boolean _ => true
  | .openObject | .closeObject | .openArray | .closeArray | .comma | .colon | .invalid => false

/-- The tokens are those of one value. -/
inductive IsValue : List Token → Prop where
  | scalar {token : Token} (isScalar : token.isScalar = true) : IsValue [token]
  | array {elements : List (List Token)} (values : ∀ element ∈ elements, IsValue element) :
      IsValue (arrayTokens elements)
  | object {members : List Member} (values : ∀ member ∈ members, IsValue member.value) :
      IsValue (objectTokens members)

theorem exists_enclosed (opening closing : Token) (parts : List (List Token)) :
    ∃ rest, enclosed opening closing parts = opening :: rest := by
  cases parts with
  | nil => exact ⟨_, rfl⟩
  | cons part rest => exact ⟨_, rfl⟩

theorem mem_following {closing token : Token} {parts : List (List Token)}
    (among : token ∈ following closing parts) :
    token = closing ∨ token = .comma ∨ ∃ part ∈ parts, token ∈ part := by
  induction parts with
  | nil => exact .inl (List.mem_singleton.mp among)
  | cons part rest inductionHypothesis =>
    rw [following, List.mem_cons, List.mem_append] at among
    obtain comma | inPart | behind := among
    · exact .inr (.inl comma)
    · exact .inr (.inr ⟨part, List.mem_cons_self, inPart⟩)
    · obtain last | comma | ⟨other, inRest, found⟩ := inductionHypothesis behind
      · exact .inl last
      · exact .inr (.inl comma)
      · exact .inr (.inr ⟨other, List.mem_cons_of_mem _ inRest, found⟩)

theorem mem_enclosed {opening closing token : Token} {parts : List (List Token)}
    (among : token ∈ enclosed opening closing parts) :
    token = opening ∨ token = closing ∨ token = .comma ∨ ∃ part ∈ parts, token ∈ part := by
  cases parts with
  | nil =>
    rw [enclosed, List.mem_cons, List.mem_singleton] at among
    exact among.imp_right .inl
  | cons part rest =>
    rw [enclosed, List.mem_cons, List.mem_append] at among
    obtain first | inPart | behind := among
    · exact .inl first
    · exact .inr (.inr (.inr ⟨part, List.mem_cons_self, inPart⟩))
    · obtain last | comma | ⟨other, inRest, found⟩ := mem_following behind
      · exact .inr (.inl last)
      · exact .inr (.inr (.inl comma))
      · exact .inr (.inr (.inr ⟨other, List.mem_cons_of_mem _ inRest, found⟩))

theorem IsValue.not_invalid {tokens : List Token} (value : IsValue tokens) : .invalid ∉ tokens := by
  induction value with
  | scalar isScalar =>
    intro among
    obtain rfl := List.mem_singleton.mp among
    cases isScalar
  | array _ inductionHypothesis =>
    intro among
    obtain impossible | impossible | impossible | ⟨element, inside, found⟩ := mem_enclosed among
    · cases impossible
    · cases impossible
    · cases impossible
    · exact inductionHypothesis element inside found
  | object _ inductionHypothesis =>
    intro among
    obtain impossible | impossible | impossible | ⟨part, inside, found⟩ := mem_enclosed among
    · cases impossible
    · cases impossible
    · cases impossible
    · obtain ⟨member, inObject, rfl⟩ := List.mem_map.mp inside
      simp only [Member.tokens, List.mem_cons, reduceCtorEq, false_or] at found
      exact inductionHypothesis member inObject found

/-- A value begins with a token that begins no other part of a text. -/
theorem IsValue.exists_first {tokens : List Token} (value : IsValue tokens) :
    ∃ first rest, tokens = first :: rest ∧
      (first.isScalar = true ∧ rest = [] ∨ first = .openArray ∨ first = .openObject) := by
  cases value with
  | scalar isScalar => exact ⟨_, _, rfl, .inl ⟨isScalar, rfl⟩⟩
  | @array elements values =>
    obtain ⟨rest, parts⟩ := exists_enclosed .openArray .closeArray elements
    exact ⟨_, rest, parts, .inr (.inl rfl)⟩
  | @object members values =>
    obtain ⟨rest, parts⟩ := exists_enclosed .openObject .closeObject (members.map Member.tokens)
    exact ⟨_, rest, parts, .inr (.inr rfl)⟩

end LoadReport.Json
