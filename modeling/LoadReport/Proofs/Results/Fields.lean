import LoadReport.Proofs.Json.Value
import LoadReport.Results.Reader

/-!
# Fields one by one

The reader takes one token after the other, and storing a value replaces one field and looks at no
other (`store_eq_ok_iff`).
-/

namespace LoadReport.Results

open Json (Token)

theorem ofKey?_key (field : Field) : Field.ofKey? field.key = some field := by
  cases field <;> decide

/-- The target with one field of the source. -/
def copyField (source target : Results) : Field → Results
  | .workload => { target with workload := source.workload }
  | .durationSec => { target with durationSec := source.durationSec }
  | .totalRequests => { target with totalRequests := source.totalRequests }
  | .throughput => { target with throughput := source.throughput }
  | .successCreated => { target with successCreated := source.successCreated }
  | .successReplay => { target with successReplay := source.successReplay }
  | .abortsConflict => { target with abortsConflict := source.abortsConflict }
  | .abortRate => { target with abortRate := source.abortRate }
  | .errors => { target with errors := source.errors }
  | .p95Latency => { target with p95Latency := source.p95Latency }

/-- All fields together are the whole. -/
theorem foldl_copyField_all (source target : Results) :
    Field.all.foldl source.copyField target = source := by
  simp only [Field.all, List.foldl_cons, List.foldl_nil, copyField]

/-- The results with nothing but one field. -/
def only (results : Results) (field : Field) : Results :=
  results.copyField empty field

theorem eq_of_only {results others : Results}
    (equal : ∀ field, results.only field = others.only field) : results = others := by
  cases results
  cases others
  rw [Results.mk.injEq]
  exact ⟨congrArg Results.workload (equal .workload),
    congrArg Results.durationSec (equal .durationSec),
    congrArg Results.totalRequests (equal .totalRequests),
    congrArg Results.throughput (equal .throughput),
    congrArg Results.successCreated (equal .successCreated),
    congrArg Results.successReplay (equal .successReplay),
    congrArg Results.abortsConflict (equal .abortsConflict),
    congrArg Results.abortRate (equal .abortRate),
    congrArg Results.errors (equal .errors),
    congrArg Results.p95Latency (equal .p95Latency)⟩

@[simp] theorem empty_only (field : Field) : empty.only field = empty := by
  cases field <;> rfl

@[simp] theorem copyField_only_self (source target : Results) (field : Field) :
    (source.copyField target field).only field = source.only field := by
  cases field <;> rfl

theorem copyField_only_of_ne (source target : Results) {field other : Field}
    (different : other ≠ field) :
    (source.copyField target field).only other = target.only other := by
  cases field <;> cases other <;> first | exact absurd rfl different | rfl

/-- Storing a value replaces one field and looks at no other. -/
theorem store_eq (target : Results) (token : Token) (field : Field) :
    target.store token field =
      (empty.store token field).map fun stored => stored.copyField target field := by
  cases field with
  | workload =>
    simp only [store]
    cases readText token <;> rfl
  | durationSec | throughput | abortRate =>
    simp only [store]
    cases readNumber token <;> rfl
  | totalRequests | successCreated | successReplay | abortsConflict | errors =>
    simp only [store]
    cases readCounter token <;> rfl
  | p95Latency =>
    simp only [store]
    cases readOptionalNumber token <;> rfl

theorem only_of_store {token : Token} {field : Field} {stored : Results}
    (read : empty.store token field = .ok stored) : stored.only field = stored := by
  have again := store_eq empty token field
  rw [read] at again
  exact (Except.ok.inj again).symm

/-- The token is read as the value that the results have for a field. -/
def IsReadAs (token : Token) (field : Field) (results : Results) : Prop :=
  empty.store token field = .ok (results.only field)

theorem store_eq_ok_iff (target : Results) (token : Token) (field : Field) (stored : Results) :
    target.store token field = .ok stored ↔
      IsReadAs token field stored ∧
        ∀ other, other ≠ field → stored.only other = target.only other := by
  rw [store_eq, IsReadAs]
  constructor
  · intro copied
    cases read : empty.store token field with
    | error fault =>
      rw [read] at copied
      cases copied
    | ok value =>
      rw [read] at copied
      obtain rfl := Except.ok.inj copied
      rw [copyField_only_self, only_of_store read]
      exact ⟨rfl, fun other different => copyField_only_of_ne value target different⟩
  · intro same
    obtain ⟨read, others⟩ := same
    rw [read]
    refine congrArg Except.ok (eq_of_only fun other => ?_)
    by_cases equal : other = field
    · subst equal
      rw [copyField_only_self, only_of_store read]
    · rw [copyField_only_of_ne _ _ equal, others other equal]

/-- The token is read as the default of a field. -/
def IsDefault (token : Token) : Field → Prop
  | .workload => readText token = .ok ""
  | .durationSec | .throughput | .abortRate => readNumber token = .ok 0
  | .totalRequests | .successCreated | .successReplay | .abortsConflict | .errors =>
    readCounter token = .ok 0
  | .p95Latency => readOptionalNumber token = .ok none

/-- A default changes nothing in results without values. -/
theorem store_default {token : Token} {field : Field} (isDefault : IsDefault token field) :
    empty.store token field = .ok empty := by
  cases field <;> simp only [IsDefault] at isDefault <;> simp only [store, isDefault] <;> rfl

theorem isScalar_of_store {target stored : Results} {token : Token} {field : Field}
    (read : target.store token field = .ok stored) : token.isScalar = true := by
  cases token with
  | string | number | null | boolean => rfl
  | _ => cases field <;> cases read

/-! ## Tokens one by one -/

namespace Reader

theorem run_cons_of_step {reader next : Reader} {token : Token}
    (step : reader.step token = .ok next) (rest : List Token) :
    reader.run (token :: rest) = next.run rest := by
  rw [run, step]
  rfl

theorem run_cons_eq_ok_iff (reader last : Reader) (token : Token) (rest : List Token) :
    reader.run (token :: rest) = .ok last ↔
      ∃ next, reader.step token = .ok next ∧ next.run rest = .ok last := by
  rw [run]
  cases reader.step token with
  | error fault => exact ⟨nofun, fun ⟨_, impossible, _⟩ => nomatch impossible⟩
  | ok next =>
    constructor
    · intro finished
      exact ⟨next, rfl, finished⟩
    · intro finished
      obtain ⟨_, equal, finished⟩ := finished
      cases equal
      exact finished

end Reader

end LoadReport.Results
