import LoadReport.Proofs.Results.Shapes

/-!
# Where numbers come from

A step of the reader keeps what has been gathered, or stores what one token denotes
(`Reader.gathered_of_step`). So every number among results is zero, or some number in the text is read as
it.
-/

namespace LoadReport

open Json (Token)

/-- The token is a number that is read as the value. -/
def Json.Token.Denotes (token : Token) (value : Binary64) : Prop :=
  ∃ numeral, token = .number numeral ∧ numeral.toBinary64? = some value

namespace Results

/-- The numbers among results that are no counters. -/
def numbers (results : Results) : List Binary64 :=
  results.durationSec :: results.throughput :: results.abortRate :: results.p95Latency.toList

/-! ## One token -/

section

variable {token : Token} {value : Binary64}

theorem denotes_of_readNumber (read : readNumber token = .ok value) : token.Denotes value := by
  cases token with
  | number numeral =>
    rw [readNumber] at read
    cases decoded : numeral.toBinary64? with
    | none =>
      rw [decoded] at read
      cases read
    | some number =>
      rw [decoded] at read
      cases read
      exact ⟨numeral, rfl, decoded⟩
  | _ => cases read

theorem denotes_of_readOptionalNumber (read : readOptionalNumber token = .ok (some value)) :
    token.Denotes value := by
  by_cases isNull : token = .null
  · subst isNull
    cases read
  · have required : readOptionalNumber token = some <$> readNumber token := by
      cases token with
      | null => exact absurd rfl isNull
      | _ => rfl
    refine denotes_of_readNumber ?_
    rw [required] at read
    cases number : readNumber token with
    | error fault =>
      rw [number] at read
      cases read
    | ok found =>
      rw [number] at read
      cases read
      rfl

end

theorem exists_of_storing {α : Type} {read : Except ContentFault α} {update : α → Results}
    {stored : Results} (storing : (do return update (← read)) = .ok stored) :
    ∃ value, read = .ok value ∧ stored = update value := by
  cases read with
  | error fault => cases storing
  | ok value => exact ⟨value, rfl, (Except.ok.inj storing).symm⟩

/-- Storing a token's value adds no number but what the token denotes. -/
theorem numbers_of_store {target stored : Results} {token : Token} {field : Field}
    (storing : target.store token field = .ok stored) :
    ∀ value ∈ stored.numbers, value ∈ target.numbers ∨ token.Denotes value := by
  cases field with
  | workload | totalRequests | successCreated | successReplay | abortsConflict | errors =>
    obtain ⟨_, _, rfl⟩ := exists_of_storing storing
    exact fun value => .inl
  | durationSec | throughput | abortRate =>
    obtain ⟨number, read, rfl⟩ := exists_of_storing storing
    have denotes := denotes_of_readNumber read
    simp only [numbers, List.mem_cons]
    grind
  | p95Latency =>
    obtain ⟨number, read, rfl⟩ := exists_of_storing storing
    simp only [numbers, List.mem_cons, Option.mem_toList]
    have denotes := fun value (equal : number = some value) =>
      denotes_of_readOptionalNumber (equal ▸ read)
    grind

/-! ## All tokens -/

namespace Reader

/-- What has been read so far. -/
def gathered : Reader → Results
  | start => empty
  | key progress _ => progress.results
  | colon progress _ => progress.results
  | value progress _ => progress.results
  | ignored progress _ => progress.results
  | afterMember progress => progress.results
  | element results _ _ => results
  | afterElement results _ => results
  | finished results => results

/-- A step keeps what has been read, or stores the value of one field. -/
theorem gathered_of_step {reader next : Reader} {token : Token}
    (step : reader.step token = .ok next) :
    next.gathered = reader.gathered ∨
      ∃ field, reader.gathered.store token field = .ok next.gathered := by
  cases reader with
  | start => cases token <;> cases step <;> exact .inl rfl
  | key progress mayClose =>
    cases token with
    | string text =>
      cases text with
      | none => cases step
      | some key =>
        obtain rfl | ⟨field, rfl⟩ := colon_of_takeKey step
        · exact .inl rfl
        · exact .inl rfl
    | closeObject =>
      cases mayClose with
      | false => cases step
      | true =>
        cases step
        exact .inl rfl
    | _ => cases step
  | colon progress field => cases field <;> cases token <;> cases step <;> exact .inl rfl
  | value progress field =>
    obtain ⟨stored, storing, rfl⟩ := storing_of_step_value step
    exact .inr ⟨field, storing⟩
  | ignored progress rest =>
    obtain ⟨left, _, rfl⟩ := ignored_step_of_ok progress step
    cases left <;> exact .inl rfl
  | afterMember progress => cases token <;> cases step <;> exact .inl rfl
  | element results fields mayClose =>
    have storing : ∀ {next}, (Reader.element results fields false).step token = .ok next →
        ∃ field, results.store token field = .ok next.gathered := by
      intro next step
      obtain ⟨field, rest, stored, _, storing, rfl⟩ := storing_of_step_element step
      exact ⟨field, storing⟩
    cases mayClose with
    | false => exact .inr (storing step)
    | true =>
      obtain ⟨_, rfl⟩ | step := first_element_step step
      · exact .inl rfl
      · exact .inr (storing step)
  | afterElement results fields => cases token <;> cases step <;> exact .inl rfl
  | finished results => cases step

theorem numbers_of_run {reader last : Reader} {tokens : List Token}
    (finished : reader.run tokens = .ok last) :
    ∀ value ∈ last.gathered.numbers,
      value ∈ reader.gathered.numbers ∨ ∃ token ∈ tokens, token.Denotes value := by
  induction tokens generalizing reader with
  | nil =>
    cases finished
    exact fun value => .inl
  | cons token rest inductionHypothesis =>
    intro value among
    obtain ⟨next, step, onward⟩ := (run_cons_eq_ok_iff _ _ _ _).mp finished
    obtain before | ⟨later, inRest, denotes⟩ := inductionHypothesis onward value among
    · obtain same | ⟨field, storing⟩ := gathered_of_step step
      · exact .inl (same ▸ before)
      · obtain earlier | denotes := numbers_of_store storing value before
        · exact .inl earlier
        · exact .inr ⟨token, List.mem_cons_self, denotes⟩
    · exact .inr ⟨later, List.mem_cons_of_mem _ inRest, denotes⟩

end Reader

/-- What is measured is among the numbers, unless it is missing and counts as zero. -/
theorem mem_numbers_of_measured {results : Results} {label : String} {metric : Metric}
    {value : Binary64} (measured : (results.toMeasurement label).values.get metric = some value) :
    value = 0 ∨ value ∈ results.numbers := by
  cases metric with
  | throughput | abortRate =>
    cases measured
    exact .inr (by simp [numbers])
  | p95Latency =>
    obtain rfl := Option.some.inj measured
    cases latency : results.p95Latency with
    | none => exact .inl rfl
    | some value => exact .inr (by simp [numbers, latency])

/-- Every number among results that are read is zero, or some number in the text is read as it. -/
theorem numbers_of_ofBytes {bytes : List UInt8} {results : Results}
    (read : ofBytes bytes = .ok results) :
    ∀ value ∈ results.numbers, value = 0 ∨
      ∃ numeral, .number numeral ∈ Json.tokens bytes ∧ numeral.toBinary64? = some value := by
  intro value among
  have finished := (Reader.ofTokens_eq_ok_iff_run _ _).mp read
  obtain zero | ⟨_, inText, numeral, rfl, decoded⟩ := Reader.numbers_of_run finished value among
  · left
    simpa [Reader.gathered, numbers, empty] using zero
  · exact .inr ⟨numeral, inText, decoded⟩

end Results

end LoadReport
