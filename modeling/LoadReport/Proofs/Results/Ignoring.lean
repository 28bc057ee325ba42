import LoadReport.Proofs.Json.Value
import LoadReport.Proofs.Results.Fields

/-!
# What is passed over is a value

The reader passes over any value, however deep it is nested, and stops behind it (`run_value`).
What it has passed over is always a value (`value_of_run`).
-/

namespace LoadReport.Results

open Json (Token Member IsValue following enclosed arrayTokens objectTokens)

namespace Reader

/-- Where the reader goes on with what is left of a value. -/
def resume (progress : Progress) : Option Ignored → Reader
  | some rest => .ignored progress rest
  | none => .afterMember progress

variable (progress : Progress)

theorem step_ignored {rest : Ignored} {token : Token} {next : Option Ignored}
    (step : rest.step token = .ok next) :
    (Reader.ignored progress rest).step token = .ok (resume progress next) := by
  simp only [Reader.step, step]
  cases next with
  | none => rfl
  | some next => rfl

theorem ignored_step_of_ok {rest : Ignored} {token : Token} {next : Reader}
    (step : (Reader.ignored progress rest).step token = .ok next) :
    ∃ left, rest.step token = .ok left ∧ next = resume progress left := by
  cases taken : rest.step token with
  | error fault =>
    simp only [Reader.step, taken] at step
    cases step
  | ok left =>
    rw [step_ignored progress taken] at step
    cases step
    exact ⟨left, rfl, rfl⟩

/-! ## Every value is passed over -/

section

variable (enclosures : List Enclosure)

theorem step_scalar {token : Token} (isScalar : token.isScalar = true) (phase : IgnoredPhase)
    (begins : phase = .value ∨ phase = .firstElement) :
    Ignored.step ⟨phase, enclosures⟩ token = .ok (Ignored.ended enclosures) := by
  rcases begins with rfl | rfl
  · cases token with
    | string | number | null | boolean => rfl
    | _ => cases isScalar
  · cases enclosures <;> cases token with
    | string | number | null | boolean => rfl
    | _ => cases isScalar

/-- The value that comes first in an array is passed over like any other. -/
theorem run_first_element {tokens : List Token} (value : IsValue tokens) (rest : List Token) :
    (Reader.ignored progress ⟨.firstElement, .array :: enclosures⟩).run (tokens ++ rest) =
      (Reader.ignored progress ⟨.value, .array :: enclosures⟩).run (tokens ++ rest) := by
  obtain ⟨first, others, rfl, ⟨isScalar, _⟩ | rfl | rfl⟩ := value.exists_first
  · have asFirst := step_scalar (.array :: enclosures) isScalar .firstElement (.inr rfl)
    have asValue := step_scalar (.array :: enclosures) isScalar .value (.inl rfl)
    rw [List.cons_append, run_cons_of_step (step_ignored progress asFirst),
      run_cons_of_step (step_ignored progress asValue)]
  · rfl
  · rfl

/-- A value is passed over inside any enclosures. -/
def PassesOver (tokens : List Token) : Prop :=
  ∀ enclosures rest, (Reader.ignored progress ⟨.value, enclosures⟩).run (tokens ++ rest) =
    (resume progress (Ignored.ended enclosures)).run rest

theorem run_elements {elements : List (List Token)}
    (values : ∀ element ∈ elements, PassesOver progress element) (rest : List Token) :
    (Reader.ignored progress ⟨.afterValue, .array :: enclosures⟩).run
        (following .closeArray elements ++ rest) =
      (resume progress (Ignored.ended enclosures)).run rest := by
  induction elements with
  | nil =>
    have closed : Ignored.step ⟨.afterValue, .array :: enclosures⟩ .closeArray =
        .ok (Ignored.ended enclosures) := rfl
    rw [following, List.singleton_append, run_cons_of_step (step_ignored progress closed)]
  | cons element others inductionHypothesis =>
    obtain ⟨passes, passesOthers⟩ := List.forall_mem_cons.mp values
    have comma : Ignored.step ⟨.afterValue, .array :: enclosures⟩ .comma =
        .ok (some ⟨.value, .array :: enclosures⟩) := rfl
    rw [following, List.cons_append, List.append_assoc,
      run_cons_of_step (step_ignored progress comma), resume, passes]
    exact inductionHypothesis passesOthers

theorem run_member_tokens {member : Member} (passes : PassesOver progress member.value)
    (phase : IgnoredPhase) (begins : phase = .firstKey ∨ phase = .key) (rest : List Token) :
    (Reader.ignored progress ⟨phase, .object :: enclosures⟩).run (member.tokens ++ rest) =
      (Reader.ignored progress ⟨.afterValue, .object :: enclosures⟩).run rest := by
  have key : Ignored.step ⟨phase, .object :: enclosures⟩ (.string member.key) =
      .ok (some ⟨.colon, .object :: enclosures⟩) := by
    rcases begins with rfl | rfl <;> rfl
  have colon : Ignored.step ⟨.colon, .object :: enclosures⟩ .colon =
      .ok (some ⟨.value, .object :: enclosures⟩) := rfl
  rw [Member.tokens, List.cons_append, List.cons_append,
    run_cons_of_step (step_ignored progress key), resume,
    run_cons_of_step (step_ignored progress colon), resume, passes]
  rfl

theorem run_further_members {members : List Member}
    (values : ∀ member ∈ members, PassesOver progress member.value) (rest : List Token) :
    (Reader.ignored progress ⟨.afterValue, .object :: enclosures⟩).run
        (following .closeObject (members.map Member.tokens) ++ rest) =
      (resume progress (Ignored.ended enclosures)).run rest := by
  induction members with
  | nil =>
    have closed : Ignored.step ⟨.afterValue, .object :: enclosures⟩ .closeObject =
        .ok (Ignored.ended enclosures) := rfl
    rw [List.map_nil, following, List.singleton_append,
      run_cons_of_step (step_ignored progress closed)]
  | cons member others inductionHypothesis =>
    obtain ⟨passes, passesOthers⟩ := List.forall_mem_cons.mp values
    have comma : Ignored.step ⟨.afterValue, .object :: enclosures⟩ .comma =
        .ok (some ⟨.key, .object :: enclosures⟩) := rfl
    rw [List.map_cons, following, List.cons_append, List.append_assoc,
      run_cons_of_step (step_ignored progress comma), resume,
      run_member_tokens progress enclosures passes .key (.inr rfl)]
    exact inductionHypothesis passesOthers

end

theorem run_value {tokens : List Token} (value : IsValue tokens) : PassesOver progress tokens := by
  induction value with
  | scalar isScalar =>
    intro enclosures rest
    rw [List.singleton_append,
      run_cons_of_step (step_ignored progress (step_scalar enclosures isScalar .value (.inl rfl)))]
  | @array elements values inductionHypothesis =>
    intro enclosures rest
    have opened : Ignored.step ⟨.value, enclosures⟩ .openArray =
        .ok (some ⟨.firstElement, .array :: enclosures⟩) := rfl
    cases elements with
    | nil =>
      have closed : Ignored.step ⟨.firstElement, .array :: enclosures⟩ .closeArray =
          .ok (Ignored.ended enclosures) := rfl
      rw [arrayTokens, enclosed, List.cons_append, List.singleton_append,
        run_cons_of_step (step_ignored progress opened), resume,
        run_cons_of_step (step_ignored progress closed)]
    | cons element others =>
      obtain ⟨first, _⟩ := List.forall_mem_cons.mp values
      obtain ⟨passes, passesOthers⟩ := List.forall_mem_cons.mp inductionHypothesis
      rw [arrayTokens, enclosed, List.cons_append, List.append_assoc,
        run_cons_of_step (step_ignored progress opened), resume,
        run_first_element progress enclosures first, passes]
      exact run_elements progress enclosures passesOthers rest
  | @object members values inductionHypothesis =>
    intro enclosures rest
    have opened : Ignored.step ⟨.value, enclosures⟩ .openObject =
        .ok (some ⟨.firstKey, .object :: enclosures⟩) := rfl
    cases members with
    | nil =>
      have closed : Ignored.step ⟨.firstKey, .object :: enclosures⟩ .closeObject =
          .ok (Ignored.ended enclosures) := rfl
      rw [objectTokens, List.map_nil, enclosed, List.cons_append, List.singleton_append,
        run_cons_of_step (step_ignored progress opened), resume,
        run_cons_of_step (step_ignored progress closed)]
    | cons member others =>
      obtain ⟨passes, passesOthers⟩ := List.forall_mem_cons.mp inductionHypothesis
      rw [objectTokens, List.map_cons, enclosed, List.cons_append, List.append_assoc,
        run_cons_of_step (step_ignored progress opened), resume,
        run_member_tokens progress enclosures passes .firstKey (.inl rfl)]
      exact run_further_members progress enclosures passesOthers rest

/-! ## Only values are passed over -/

section

variable {enclosures : List Enclosure} {token : Token} {next : Option Ignored}

theorem value_step (step : Ignored.step ⟨.value, enclosures⟩ token = .ok next) :
    (token.isScalar = true ∧ next = Ignored.ended enclosures) ∨
      (token = .openArray ∧ next = some ⟨.firstElement, .array :: enclosures⟩) ∨
      (token = .openObject ∧ next = some ⟨.firstKey, .object :: enclosures⟩) := by
  cases token with
  | openArray => cases step; exact .inr (.inl ⟨rfl, rfl⟩)
  | openObject => cases step; exact .inr (.inr ⟨rfl, rfl⟩)
  | string | number | null | boolean => cases step; exact .inl ⟨rfl, rfl⟩
  | _ => cases step

theorem firstElement_step
    (step : Ignored.step ⟨.firstElement, .array :: enclosures⟩ token = .ok next) :
    (token = .closeArray ∧ next = Ignored.ended enclosures) ∨
      Ignored.step ⟨.value, .array :: enclosures⟩ token = .ok next := by
  cases token with
  | closeArray => cases step; exact .inl ⟨rfl, rfl⟩
  | _ => exact .inr step

theorem afterElement_step
    (step : Ignored.step ⟨.afterValue, .array :: enclosures⟩ token = .ok next) :
    (token = .closeArray ∧ next = Ignored.ended enclosures) ∨
      (token = .comma ∧ next = some ⟨.value, .array :: enclosures⟩) := by
  cases token with
  | closeArray => cases step; exact .inl ⟨rfl, rfl⟩
  | comma => cases step; exact .inr ⟨rfl, rfl⟩
  | _ => cases step

theorem firstKey_step (step : Ignored.step ⟨.firstKey, .object :: enclosures⟩ token = .ok next) :
    (token = .closeObject ∧ next = Ignored.ended enclosures) ∨
      Ignored.step ⟨.key, .object :: enclosures⟩ token = .ok next := by
  cases token with
  | closeObject => cases step; exact .inl ⟨rfl, rfl⟩
  | string text => exact .inr step
  | _ => cases step

theorem key_step (step : Ignored.step ⟨.key, .object :: enclosures⟩ token = .ok next) :
    ∃ key, token = .string key ∧ next = some ⟨.colon, .object :: enclosures⟩ := by
  cases token with
  | string key => cases step; exact ⟨key, rfl, rfl⟩
  | _ => cases step

theorem colon_step (step : Ignored.step ⟨.colon, enclosures⟩ token = .ok next) :
    token = .colon ∧ next = some ⟨.value, enclosures⟩ := by
  cases token with
  | colon => cases step; exact ⟨rfl, rfl⟩
  | _ => cases step

theorem afterMember_step
    (step : Ignored.step ⟨.afterValue, .object :: enclosures⟩ token = .ok next) :
    (token = .closeObject ∧ next = Ignored.ended enclosures) ∨
      (token = .comma ∧ next = some ⟨.key, .object :: enclosures⟩) := by
  cases token with
  | closeObject => cases step; exact .inl ⟨rfl, rfl⟩
  | comma => cases step; exact .inr ⟨rfl, rfl⟩
  | _ => cases step

end

variable {progress} {results : Results}

theorem exists_ignored_step {rest : Ignored} {tokens : List Token}
    (finished : (Reader.ignored progress rest).run tokens = .ok (.finished results)) :
    ∃ token others next, tokens = token :: others ∧ rest.step token = .ok next ∧
      (resume progress next).run others = .ok (.finished results) := by
  cases tokens with
  | nil => cases finished
  | cons token others =>
    obtain ⟨reader, step, onward⟩ := (run_cons_eq_ok_iff _ _ _ _).mp finished
    obtain ⟨next, taken, rfl⟩ := ignored_step_of_ok progress step
    exact ⟨token, others, next, rfl, taken, onward⟩

/-- If the reader gets to the end of the text from a value on, it passes over one value first. -/
def PassesOne (progress : Progress) (results : Results) (tokens : List Token) : Prop :=
  ∀ enclosures,
    (Reader.ignored progress ⟨.value, enclosures⟩).run tokens = .ok (.finished results) →
    ∃ value rest, tokens = value ++ rest ∧ IsValue value ∧
      (resume progress (Ignored.ended enclosures)).run rest = .ok (.finished results)

/-- All texts up to a length begin with one value where the reader is at a value. -/
def PassUpTo (progress : Progress) (results : Results) (bound : Nat) : Prop :=
  ∀ tokens : List Token, tokens.length ≤ bound → PassesOne progress results tokens

variable {bound : Nat} {enclosures : List Enclosure}

theorem elements_of_run (pass : PassUpTo progress results bound) {tokens : List Token}
    (short : tokens.length ≤ bound)
    (finished : (Reader.ignored progress ⟨.afterValue, .array :: enclosures⟩).run tokens =
      .ok (.finished results)) :
    ∃ elements rest, tokens = following .closeArray elements ++ rest ∧
      (∀ element ∈ elements, IsValue element) ∧
      (resume progress (Ignored.ended enclosures)).run rest = .ok (.finished results) := by
  induction length : tokens.length using Nat.strongRecOn generalizing tokens with
  | ind length inductionHypothesis =>
    obtain ⟨token, others, next, rfl, step, onward⟩ := exists_ignored_step finished
    rw [List.length_cons] at length short
    obtain ⟨rfl, rfl⟩ | ⟨rfl, rfl⟩ := afterElement_step step
    · exact ⟨[], others, rfl, by simp, onward⟩
    · obtain ⟨element, more, rfl, value, onward⟩ := pass others (by omega) _ onward
      rw [List.length_append] at length short
      obtain ⟨elements, rest, rfl, values, onward⟩ :=
        inductionHypothesis more.length (by omega) (by omega) onward rfl
      refine ⟨element :: elements, rest, ?_, List.forall_mem_cons.mpr ⟨value, values⟩, onward⟩
      simp [following]

theorem member_of_run (pass : PassUpTo progress results bound) {tokens : List Token}
    (short : tokens.length ≤ bound)
    (finished : (Reader.ignored progress ⟨.key, .object :: enclosures⟩).run tokens =
      .ok (.finished results)) :
    ∃ member rest, tokens = Member.tokens member ++ rest ∧ IsValue member.value ∧
      (Reader.ignored progress ⟨.afterValue, .object :: enclosures⟩).run rest =
        .ok (.finished results) := by
  obtain ⟨_, others, next, rfl, step, onward⟩ := exists_ignored_step finished
  obtain ⟨key, rfl, rfl⟩ := key_step step
  obtain ⟨_, more, next, rfl, step, onward⟩ := exists_ignored_step onward
  obtain ⟨rfl, rfl⟩ := colon_step step
  rw [List.length_cons, List.length_cons] at short
  obtain ⟨value, rest, rfl, isValue, onward⟩ := pass more (by omega) _ onward
  exact ⟨⟨key, value⟩, rest, rfl, isValue, onward⟩

theorem members_of_run (pass : PassUpTo progress results bound) {tokens : List Token}
    (short : tokens.length ≤ bound)
    (finished : (Reader.ignored progress ⟨.afterValue, .object :: enclosures⟩).run tokens =
      .ok (.finished results)) :
    ∃ members rest, tokens = following .closeObject (List.map Member.tokens members) ++ rest ∧
      (∀ member ∈ members, IsValue member.value) ∧
      (resume progress (Ignored.ended enclosures)).run rest = .ok (.finished results) := by
  induction length : tokens.length using Nat.strongRecOn generalizing tokens with
  | ind length inductionHypothesis =>
    obtain ⟨token, others, next, rfl, step, onward⟩ := exists_ignored_step finished
    rw [List.length_cons] at length short
    obtain ⟨rfl, rfl⟩ | ⟨rfl, rfl⟩ := afterMember_step step
    · exact ⟨[], others, rfl, by simp, onward⟩
    · obtain ⟨member, more, rfl, value, onward⟩ := member_of_run pass (by omega) onward
      rw [List.length_append] at length short
      obtain ⟨members, rest, rfl, values, onward⟩ :=
        inductionHypothesis more.length (by omega) (by omega) onward rfl
      refine ⟨member :: members, rest, ?_, List.forall_mem_cons.mpr ⟨value, values⟩, onward⟩
      simp [following]

/-- What could be skipped at a first place is a closing token, or is read as at any other place. -/
theorem closed_or_run {first other : Ignored} {closing : Token}
    (steps : ∀ {token next}, first.step token = .ok next →
      (token = closing ∧ next = Ignored.ended enclosures) ∨ other.step token = .ok next)
    {tokens : List Token}
    (finished : (Reader.ignored progress first).run tokens = .ok (.finished results)) :
    (∃ rest, tokens = closing :: rest ∧
        (resume progress (Ignored.ended enclosures)).run rest = .ok (.finished results)) ∨
      (Reader.ignored progress other).run tokens = .ok (.finished results) := by
  obtain ⟨token, others, next, rfl, step, onward⟩ := exists_ignored_step finished
  obtain ⟨rfl, rfl⟩ | step := steps step
  · exact .inl ⟨others, rfl, onward⟩
  · right
    rw [run_cons_of_step (step_ignored progress step)]
    exact onward

theorem passUpTo (progress : Progress) (results : Results) (bound : Nat) :
    PassUpTo progress results bound := by
  -- Values are nested to any depth, but what is inside of one is always shorter than the whole.
  induction bound with
  | zero =>
    intro tokens short enclosures finished
    obtain ⟨token, others, next, rfl, _, _⟩ := exists_ignored_step finished
    cases short
  | succ bound inductionHypothesis =>
    intro tokens short enclosures finished
    obtain ⟨token, others, next, rfl, step, onward⟩ := exists_ignored_step finished
    replace short : others.length ≤ bound := Nat.le_of_succ_le_succ short
    obtain ⟨isScalar, rfl⟩ | ⟨rfl, rfl⟩ | ⟨rfl, rfl⟩ := value_step step
    · exact ⟨[token], others, rfl, .scalar isScalar, onward⟩
    · obtain ⟨rest, rfl, closed⟩ | onward := closed_or_run firstElement_step onward
      · exact ⟨arrayTokens [], rest, rfl, .array (by simp), closed⟩
      · obtain ⟨element, more, rfl, value, onward⟩ := inductionHypothesis others short _ onward
        rw [List.length_append] at short
        obtain ⟨elements, rest, rfl, values, onward⟩ :=
          elements_of_run inductionHypothesis (by omega) onward
        refine ⟨arrayTokens (element :: elements), rest, ?_,
          .array (List.forall_mem_cons.mpr ⟨value, values⟩), onward⟩
        simp [arrayTokens, enclosed]
    · obtain ⟨rest, rfl, closed⟩ | onward := closed_or_run firstKey_step onward
      · exact ⟨objectTokens [], rest, rfl, .object (by simp), closed⟩
      · obtain ⟨member, more, rfl, value, onward⟩ := member_of_run inductionHypothesis short onward
        rw [List.length_append] at short
        obtain ⟨members, rest, rfl, values, onward⟩ :=
          members_of_run inductionHypothesis (by omega) onward
        refine ⟨objectTokens (member :: members), rest, ?_,
          .object (List.forall_mem_cons.mpr ⟨value, values⟩), onward⟩
        simp [objectTokens, enclosed]

theorem value_of_run {tokens : List Token}
    (finished : (Reader.ignored progress Ignored.start).run tokens = .ok (.finished results)) :
    ∃ value rest, tokens = value ++ rest ∧ IsValue value ∧
      (Reader.afterMember progress).run rest = .ok (.finished results) :=
  passUpTo progress results tokens.length tokens (Nat.le_refl _) [] finished

end Reader

end LoadReport.Results
