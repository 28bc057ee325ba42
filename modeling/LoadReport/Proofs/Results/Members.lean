import LoadReport.Proofs.Json.Lexeme
import LoadReport.Proofs.Outcomes
import LoadReport.Proofs.Results.Ignoring
import LoadReport.Scenario

/-!
# What the members of an object mean

What is read from an object, said of its members as a whole and without an order: known fields occur
once and have their values, missing ones have their defaults, and other members only have to be
there. The reader gives these results and no others (`ofTokens_object_iff`).
-/

namespace LoadReport.Results

open Json (Token Member IsValue following enclosed objectTokens)
open Outcomes

/-! ## Members -/

/-- The field that a member gives a value to, if its key is known. -/
def field? (member : Member) : Option Field :=
  member.key.bind Field.ofKey?

theorem field?_of_key {member : Member} {field : Field} (keyed : member.key = some field.key) :
    field? member = some field := by
  rw [field?, keyed]
  exact ofKey?_key field

/-- The results that members give: every key is a text, known fields occur once and have their
values, and all other fields have their defaults. -/
structure Means (members : List Member) (results : Results) : Prop where
  keyed : ∀ member ∈ members, member.key ≠ none
  distinct : (members.filterMap field?).Nodup
  stored : ∀ member ∈ members, ∀ field, field? member = some field →
    ∃ token, member.value = [token] ∧ IsReadAs token field results
  missing : ∀ field, field ∉ members.filterMap field? → results.only field = empty

/-- The results that members give to what has been read already. -/
structure Adds (progress : Progress) (members : List Member) (results : Results) : Prop where
  keyed : ∀ member ∈ members, member.key ≠ none
  apart : Apart (· ≠ ·) progress.seen (members.filterMap field?)
  stored : ∀ member ∈ members, ∀ field, field? member = some field →
    ∃ token, member.value = [token] ∧ IsReadAs token field results
  missing : ∀ field, field ∉ members.filterMap field? →
    results.only field = progress.results.only field

theorem means_iff_adds (members : List Member) (results : Results) :
    Means members results ↔ Adds ⟨empty, []⟩ members results := by
  constructor
  · intro means
    obtain ⟨keyed, distinct, stored, missing⟩ := means
    refine ⟨keyed, (apart_nil_iff _).mpr distinct, stored, fun field absent => ?_⟩
    rw [missing field absent, empty_only]
  · intro adds
    obtain ⟨keyed, apart, stored, missing⟩ := adds
    refine ⟨keyed, (apart_nil_iff _).mp apart, stored, fun field absent => ?_⟩
    rw [missing field absent, empty_only]

theorem adds_nil_iff (progress : Progress) (results : Results) :
    Adds progress [] results ↔ progress.results = results := by
  constructor
  · intro adds
    exact eq_of_only fun field => (adds.missing field List.not_mem_nil).symm
  · rintro rfl
    exact ⟨by simp, by simp, by simp, fun _ _ => rfl⟩

theorem adds_unknown_iff {progress : Progress} {member : Member} {key : String}
    (keyed : member.key = some key) (unknown : Field.ofKey? key = none) (members : List Member)
    (results : Results) :
    Adds progress (member :: members) results ↔ Adds progress members results := by
  have noField : field? member = none := by rw [field?, keyed]; exact unknown
  have fields : (member :: members).filterMap field? = members.filterMap field? := by
    rw [List.filterMap_cons, noField]
  constructor
  · intro adds
    obtain ⟨allKeyed, apart, stored, missing⟩ := adds
    rw [fields] at apart missing
    exact ⟨fun other among => allKeyed other (List.mem_cons_of_mem _ among), apart,
      fun other among => stored other (List.mem_cons_of_mem _ among), missing⟩
  · intro adds
    obtain ⟨allKeyed, apart, stored, missing⟩ := adds
    refine ⟨List.forall_mem_cons.mpr ⟨?_, allKeyed⟩, ?_, List.forall_mem_cons.mpr ⟨?_, stored⟩, ?_⟩
    · rw [keyed]
      exact Option.some_ne_none key
    · rw [fields]
      exact apart
    · intro field known
      rw [noField] at known
      cases known
    · rw [fields]
      exact missing

theorem adds_known_iff {progress : Progress} {member : Member} {key : String} {field : Field}
    (keyed : member.key = some key) (known : Field.ofKey? key = some field) (members : List Member)
    (results : Results) :
    Adds progress (member :: members) results ↔
      field ∉ progress.seen ∧ ∃ token stored, member.value = [token] ∧
        progress.results.store token field = .ok stored ∧
        Adds ⟨stored, field :: progress.seen⟩ members results := by
  have hasField : field? member = some field := by rw [field?, keyed]; exact known
  have fields : (member :: members).filterMap field? = field :: members.filterMap field? := by
    rw [List.filterMap_cons, hasField]
  constructor
  -- What is stored now has the field's last value, since no other member has the field.
  · intro adds
    obtain ⟨allKeyed, apart, stored, missing⟩ := adds
    rw [fields] at apart missing
    obtain ⟨unseen, apart⟩ := (apart_cons_iff _ _ _).mp apart
    obtain ⟨storedHere, storedThere⟩ := List.forall_mem_cons.mp stored
    obtain ⟨token, value, read⟩ := storedHere field hasField
    have storing : progress.results.store token field =
        .ok (results.copyField progress.results field) := by
      refine (store_eq_ok_iff _ _ _ _).mpr ⟨?_, fun other different => ?_⟩
      · rw [IsReadAs, copyField_only_self]
        exact read
      · exact copyField_only_of_ne _ _ different
    refine ⟨fun seen => unseen field seen rfl, token, _, value, storing, ?_⟩
    refine ⟨fun other among => allKeyed other (List.mem_cons_of_mem _ among), apart, storedThere,
      fun other absent => ?_⟩
    by_cases equal : other = field
    · rw [equal, copyField_only_self]
    · rw [copyField_only_of_ne _ _ equal]
      exact missing other fun among => (List.mem_cons.mp among).elim equal absent
  · intro takes
    obtain ⟨unseen, token, stored, value, storing, adds⟩ := takes
    obtain ⟨allKeyed, apart, storedThere, missing⟩ := adds
    obtain ⟨read, others⟩ := (store_eq_ok_iff _ _ _ _).mp storing
    have once : field ∉ members.filterMap field? := fun among =>
      apart.2 field among field List.mem_cons_self rfl
    refine ⟨List.forall_mem_cons.mpr ⟨?_, allKeyed⟩, ?_, List.forall_mem_cons.mpr ⟨?_, storedThere⟩,
      ?_⟩
    · rw [keyed]
      exact Option.some_ne_none key
    · rw [fields, apart_cons_iff]
      exact ⟨fun other seen equal => unseen (equal ▸ seen), apart⟩
    · intro found same
      obtain rfl := Option.some.inj (hasField.symm.trans same)
      refine ⟨token, value, ?_⟩
      rw [IsReadAs, missing field once]
      exact read
    · intro other absent
      rw [fields, List.mem_cons, not_or] at absent
      rw [missing other absent.2, others other absent.1]

/-! ## The reader on members -/

namespace Reader

theorem ofTokens_eq_ok_iff_run (tokens : List Token) (results : Results) :
    ofTokens tokens = .ok results ↔ Reader.start.run tokens = .ok (.finished results) := by
  rw [ofTokens]
  cases Reader.start.run tokens with
  | error fault => exact ⟨nofun, nofun⟩
  | ok reader =>
    cases reader with
    | finished found =>
      constructor
      · intro equal; cases equal; rfl
      · intro equal; cases equal; rfl
    | _ => exact ⟨nofun, nofun⟩

theorem run_finished_eq_ok_iff (results : Results) (tokens : List Token) (last : Reader) :
    (Reader.finished results).run tokens = .ok last ↔ tokens = [] ∧ last = .finished results := by
  cases tokens with
  | nil =>
    constructor
    · intro equal; cases equal; exact ⟨rfl, rfl⟩
    · rintro ⟨_, rfl⟩; rfl
  | cons token rest =>
    have stuck : (Reader.finished results).step token = .error .malformed := by
      cases token <;> rfl
    rw [run_cons_eq_ok_iff, stuck]
    constructor
    · intro steps
      obtain ⟨_, impossible, _⟩ := steps
      cases impossible
    · intro impossible
      cases impossible.1

/-- Where a member leads to. -/
inductive Takes (progress : Progress) : Member → Progress → Prop where
  | unknown {key : String} {value : List Token} (unknown : Field.ofKey? key = none) :
      Takes progress ⟨some key, value⟩ progress
  | known {key : String} {field : Field} (known : Field.ofKey? key = some field)
      (unseen : field ∉ progress.seen) {token : Token} {stored : Results}
      (storing : progress.results.store token field = .ok stored) :
      Takes progress ⟨some key, [token]⟩ ⟨stored, field :: progress.seen⟩

theorem adds_cons_iff (progress : Progress) (member : Member) (members : List Member)
    (results : Results) :
    Adds progress (member :: members) results ↔
      ∃ next, Takes progress member next ∧ Adds next members results := by
  obtain ⟨key, value⟩ := member
  cases key with
  | none =>
    constructor
    · intro adds
      exact absurd rfl (adds.keyed _ List.mem_cons_self)
    · intro takes
      obtain ⟨_, impossible, _⟩ := takes
      cases impossible
  | some key =>
    cases found : Field.ofKey? key with
    | none =>
      rw [adds_unknown_iff rfl found]
      constructor
      · intro adds
        exact ⟨progress, .unknown found, adds⟩
      · intro takes
        obtain ⟨next, takes, adds⟩ := takes
        cases takes with
        | unknown => exact adds
        | known known => rw [found] at known; cases known
    | some field =>
      rw [adds_known_iff rfl found]
      constructor
      · intro adds
        obtain ⟨unseen, token, stored, rfl, storing, adds⟩ := adds
        exact ⟨_, .known found unseen storing, adds⟩
      · intro takes
        obtain ⟨next, takes, adds⟩ := takes
        cases takes with
        | unknown unknown => rw [found] at unknown; cases unknown
        | known known unseen storing =>
          rw [found] at known
          cases known
          exact ⟨unseen, _, _, rfl, storing, adds⟩

theorem step_value {progress : Progress} {field : Field} {token : Token} {stored : Results}
    (storing : progress.results.store token field = .ok stored) :
    (Reader.value progress field).step token =
      .ok (.afterMember ⟨stored, field :: progress.seen⟩) := by
  simp only [step, storing]
  rfl

theorem storing_of_step_value {progress : Progress} {field : Field} {token : Token} {next : Reader}
    (taken : (Reader.value progress field).step token = .ok next) :
    ∃ stored, progress.results.store token field = .ok stored ∧
      next = .afterMember ⟨stored, field :: progress.seen⟩ := by
  cases storing : progress.results.store token field with
  | error fault =>
    simp only [step, storing] at taken
    cases taken
  | ok stored =>
    rw [step_value storing] at taken
    cases taken
    exact ⟨stored, rfl, rfl⟩

variable {progress : Progress} {member : Member}

theorem run_of_takes (isValue : IsValue member.value) {next : Progress}
    (takes : Takes progress member next) (mayClose : Bool) (rest : List Token) :
    (Reader.key progress mayClose).run (member.tokens ++ rest) =
      (Reader.afterMember next).run rest := by
  cases takes with
  | @unknown key value unknown =>
    have named : (Reader.key progress mayClose).step (.string (some key)) =
        .ok (.colon progress none) := by
      simp only [step, takeKey, unknown]
    have colon : (Reader.colon progress none).step .colon =
        .ok (.ignored progress Ignored.start) := rfl
    rw [Member.tokens, List.cons_append, List.cons_append, run_cons_of_step named,
      run_cons_of_step colon]
    exact run_value progress isValue [] rest
  | @known key field known unseen token stored storing =>
    have named : (Reader.key progress mayClose).step (.string (some key)) =
        .ok (.colon progress (some field)) := by
      simp only [step, takeKey, known]
      exact if_neg unseen
    have colon : (Reader.colon progress (some field)).step .colon =
        .ok (.value progress field) := rfl
    rw [Member.tokens, List.cons_append, List.cons_append, List.singleton_append,
      run_cons_of_step named, run_cons_of_step colon, run_cons_of_step (step_value storing)]

/-- A reader that is in front of a member and goes on behind it has taken the member. -/
theorem takes_of_run {last : Reader} (isValue : IsValue member.value) {mayClose : Bool}
    {rest : List Token}
    (finished : (Reader.key progress mayClose).run (member.tokens ++ rest) = .ok last) :
    ∃ next, Takes progress member next := by
  obtain ⟨key, value⟩ := member
  obtain ⟨reader, named, onward⟩ := (run_cons_eq_ok_iff _ _ _ _).mp finished
  cases key with
  | none => cases mayClose <;> cases named
  | some key =>
    have taken : takeKey progress key = .ok reader := named
    rw [takeKey] at taken
    split at taken
    next unknown => exact ⟨progress, .unknown unknown⟩
    next field known =>
      split at taken
      next => cases taken
      next unseen =>
        obtain rfl := Except.ok.inj taken
        obtain ⟨reader, colon, onward⟩ := (run_cons_eq_ok_iff _ _ _ _).mp onward
        obtain rfl := Except.ok.inj colon
        -- A known field stores a single token, which cannot be the first of several.
        obtain ⟨first, others, rfl, begins⟩ := isValue.exists_first
        obtain ⟨reader, stores, onward⟩ := (run_cons_eq_ok_iff _ _ _ _).mp onward
        obtain ⟨stored, storing, _⟩ := storing_of_step_value stores
        have isScalar := isScalar_of_store storing
        obtain ⟨_, rfl⟩ | rfl | rfl := begins
        · exact ⟨_, .known known unseen storing⟩
        · cases isScalar
        · cases isScalar

theorem run_members_iff (progress : Progress) {members : List Member}
    (values : ∀ member ∈ members, IsValue member.value) (results : Results) :
    (Reader.afterMember progress).run (following .closeObject (members.map Member.tokens)) =
        .ok (.finished results) ↔ Adds progress members results := by
  induction members generalizing progress with
  | nil =>
    have ended : (Reader.afterMember progress).run
        (following .closeObject (List.map Member.tokens [])) =
          .ok (.finished progress.results) := rfl
    rw [ended, adds_nil_iff, Except.ok.injEq, Reader.finished.injEq]
  | cons member others inductionHypothesis =>
    obtain ⟨isValue, values⟩ := List.forall_mem_cons.mp values
    have comma : (Reader.afterMember progress).step .comma = .ok (.key progress false) := rfl
    rw [List.map_cons, following, run_cons_of_step comma, adds_cons_iff]
    constructor
    · intro finished
      obtain ⟨next, takes⟩ := takes_of_run isValue finished
      rw [run_of_takes isValue takes, inductionHypothesis next values] at finished
      exact ⟨next, takes, finished⟩
    · intro adds
      obtain ⟨next, takes, adds⟩ := adds
      rw [run_of_takes isValue takes, inductionHypothesis next values]
      exact adds

end Reader

/-- An object is read as what its members mean, and as nothing else. -/
theorem ofTokens_object_iff {members : List Member}
    (values : ∀ member ∈ members, IsValue member.value) (results : Results) :
    ofTokens (objectTokens members) = .ok results ↔ Means members results := by
  rw [Reader.ofTokens_eq_ok_iff_run, means_iff_adds]
  have opened : Reader.start.step .openObject = .ok (.key ⟨empty, []⟩ true) := rfl
  cases members with
  | nil =>
    have ended : Reader.start.run (objectTokens []) = .ok (.finished empty) := rfl
    rw [ended, adds_nil_iff, Except.ok.injEq, Reader.finished.injEq]
  | cons member others =>
    obtain ⟨isValue, values⟩ := List.forall_mem_cons.mp values
    rw [objectTokens, List.map_cons, enclosed, Reader.run_cons_of_step opened, Reader.adds_cons_iff]
    constructor
    · intro finished
      obtain ⟨next, takes⟩ := Reader.takes_of_run isValue finished
      rw [Reader.run_of_takes isValue takes, Reader.run_members_iff next values] at finished
      exact ⟨next, takes, finished⟩
    · intro adds
      obtain ⟨next, takes, adds⟩ := adds
      rw [Reader.run_of_takes isValue takes, Reader.run_members_iff next values]
      exact adds

/-! ## The texts of objects -/

/-- The bytes spell an object with the members. -/
structure IsObjectText (members : List Member) (bytes : List UInt8) : Prop where
  values : ∀ member ∈ members, IsValue member.value
  spelled : Json.Lexes (objectTokens members) bytes

theorem IsObjectText.ofBytes_eq_ok_iff {members : List Member} {bytes : List UInt8}
    (text : IsObjectText members bytes) (results : Results) :
    ofBytes bytes = .ok results ↔ Means members results := by
  obtain ⟨tokens, _⟩ := (Json.lexes_iff _ _).mp text.spelled
  rw [ofBytes, tokens, ofTokens_object_iff text.values]

theorem readResults_eq_ok_iff_ofBytes {tree : FileTree} {path : Path} {bytes : List UInt8}
    (stored : tree.find path = .ok (.file bytes)) (results : Results) :
    tree.readResults path = .ok results ↔ ofBytes bytes = .ok results := by
  rw [FileTree.readResults, stored, during_eq_ok_iff]
  cases ofBytes bytes with
  | error fault => simp [Except.mapError]
  | ok found => simp [Except.mapError]

theorem IsObjectText.readResults_eq_ok_iff {members : List Member} {bytes : List UInt8}
    (text : IsObjectText members bytes) {tree : FileTree} {path : Path}
    (stored : tree.find path = .ok (.file bytes)) (results : Results) :
    tree.readResults path = .ok results ↔ Means members results := by
  rw [readResults_eq_ok_iff_ofBytes stored, text.ofBytes_eq_ok_iff]

end LoadReport.Results
