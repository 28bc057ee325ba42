import LoadReport.Proofs.Loading
import LoadReport.Proofs.Results.Members

/-!
# What is read as results

The reader accepts two kinds of texts and no others (`ofBytes_eq_ok_iff`): objects, and rows, which
are arrays with the values of the first fields. A row that is too short leaves the last fields at
their defaults, and so the empty row is read as results without any values.
-/

namespace LoadReport.Results

open Json (Token Member IsValue following enclosed arrayTokens objectTokens)

/-! ## Only objects are read as objects -/

namespace Reader

theorem key_of_step {progress : Progress} {token : Token} {next : Reader}
    (step : (Reader.key progress false).step token = .ok next) :
    ∃ key, token = .string (some key) ∧ takeKey progress key = .ok next := by
  cases token with
  | string text =>
    cases text with
    | none => cases step
    | some key => exact ⟨key, rfl, step⟩
  | _ => cases step

theorem colon_of_takeKey {progress : Progress} {key : String} {next : Reader}
    (taken : takeKey progress key = .ok next) :
    next = .colon progress none ∨ ∃ field, next = .colon progress (some field) := by
  rw [takeKey] at taken
  split at taken
  next => exact .inl (Except.ok.inj taken).symm
  next field _ =>
    split at taken
    next => cases taken
    next => exact .inr ⟨field, (Except.ok.inj taken).symm⟩

/-- Behind a key stands a colon. -/
theorem colon_of_run {progress : Progress} {field : Option Field} {next : Reader}
    (behind : (Reader.colon progress field).step .colon = .ok next) {tokens : List Token}
    {results : Results}
    (finished : (Reader.colon progress field).run tokens = .ok (.finished results)) :
    ∃ rest, tokens = .colon :: rest ∧ next.run rest = .ok (.finished results) := by
  cases tokens with
  | nil => cases finished
  | cons token rest =>
    obtain ⟨reader, step, onward⟩ := (run_cons_eq_ok_iff _ _ _ _).mp finished
    cases token with
    | colon =>
      obtain rfl := Except.ok.inj (behind.symm.trans step)
      exact ⟨rest, rfl, onward⟩
    | _ => cases field <;> cases step

/-- A reader that is in front of a member and finishes has found a member there. -/
theorem member_of_run_key {progress : Progress} {results : Results} {tokens : List Token}
    (finished : (Reader.key progress false).run tokens = .ok (.finished results)) :
    ∃ member next rest, tokens = Member.tokens member ++ rest ∧ IsValue member.value ∧
      (Reader.afterMember next).run rest = .ok (.finished results) := by
  cases tokens with
  | nil => cases finished
  | cons token tokens =>
    obtain ⟨reader, named, onward⟩ := (run_cons_eq_ok_iff _ _ _ _).mp finished
    obtain ⟨key, rfl, taken⟩ := key_of_step named
    obtain rfl | ⟨field, rfl⟩ := colon_of_takeKey taken
    · obtain ⟨rest, rfl, atValue⟩ := colon_of_run rfl onward
      obtain ⟨value, rest, rfl, isValue, behind⟩ := value_of_run atValue
      exact ⟨⟨some key, value⟩, _, rest, rfl, isValue, behind⟩
    · obtain ⟨rest, rfl, atValue⟩ := colon_of_run rfl onward
      cases rest with
      | nil => cases atValue
      | cons token rest =>
        obtain ⟨reader, stores, behind⟩ := (run_cons_eq_ok_iff _ _ _ _).mp atValue
        obtain ⟨stored, storing, rfl⟩ := storing_of_step_value stores
        exact ⟨⟨some key, [token]⟩, _, rest, rfl, .scalar (isScalar_of_store storing), behind⟩

theorem members_of_run_afterMember {progress : Progress} {results : Results} {tokens : List Token}
    (finished : (Reader.afterMember progress).run tokens = .ok (.finished results)) :
    ∃ members : List Member, tokens = following .closeObject (members.map Member.tokens) ∧
      ∀ member ∈ members, IsValue member.value := by
  induction size : tokens.length using Nat.strongRecOn generalizing progress tokens with
  | ind length inductionHypothesis =>
    cases tokens with
    | nil => cases finished
    | cons token tokens =>
      obtain ⟨reader, step, onward⟩ := (run_cons_eq_ok_iff _ _ _ _).mp finished
      cases token with
      | closeObject =>
        obtain rfl := Except.ok.inj step
        obtain ⟨rfl, _⟩ := (run_finished_eq_ok_iff _ _ _).mp onward
        exact ⟨[], rfl, by simp⟩
      | comma =>
        obtain rfl := Except.ok.inj step
        obtain ⟨member, next, rest, rfl, isValue, onward⟩ := member_of_run_key onward
        have shorter : rest.length < length := by
          rw [List.length_cons, List.length_append] at size
          omega
        obtain ⟨members, rfl, values⟩ := inductionHypothesis rest.length shorter onward rfl
        exact ⟨member :: members, rfl, List.forall_mem_cons.mpr ⟨isValue, values⟩⟩
      | _ => cases step

end Reader

/-! ## Only rows are read as rows -/

/-- The members that the values of a row stand for, one for each of the given fields. -/
def rowMembers (fields : List Field) (row : List Token) : List Member :=
  List.zipWith (fun field token => ⟨some field.key, [token]⟩) fields row

/-- The tokens of a row. -/
def rowTokens (row : List Token) : List Token :=
  arrayTokens (row.map fun token => [token])

namespace Reader

theorem step_element {target stored : Results} {token : Token} {field : Field}
    (storing : target.store token field = .ok stored) (fields : List Field) (mayClose : Bool) :
    (Reader.element target (field :: fields) mayClose).step token =
      .ok (.afterElement stored fields) := by
  have isScalar := isScalar_of_store storing
  cases token with
  | string | number | null | boolean => cases mayClose <;> simp only [step, storing] <;> rfl
  | _ => cases isScalar

theorem storing_of_step_element {target : Results} {fields : List Field} {token : Token}
    {next : Reader} (taken : (Reader.element target fields false).step token = .ok next) :
    ∃ field rest stored, fields = field :: rest ∧ target.store token field = .ok stored ∧
      next = .afterElement stored rest := by
  cases fields with
  | nil => cases taken
  | cons field rest =>
    cases storing : target.store token field with
    | error fault =>
      simp only [step, storing] at taken
      cases taken
    | ok stored =>
      simp only [step, storing] at taken
      cases taken
      exact ⟨field, rest, stored, rfl, storing, rfl⟩

theorem first_element_step {target : Results} {fields : List Field} {token : Token}
    {next : Reader} (taken : (Reader.element target fields true).step token = .ok next) :
    (token = .closeArray ∧ next = .finished target) ∨
      (Reader.element target fields false).step token = .ok next := by
  cases token with
  | closeArray => cases taken; exact .inl ⟨rfl, rfl⟩
  | _ => cases fields <;> exact .inr taken

theorem run_afterElement {target results : Results} {fields : List Field} {tokens : List Token}
    (finished : (Reader.afterElement target fields).run tokens = .ok (.finished results)) :
    (tokens = [.closeArray] ∧ target = results) ∨
      ∃ rest, tokens = .comma :: rest ∧
        (Reader.element target fields false).run rest = .ok (.finished results) := by
  cases tokens with
  | nil => cases finished
  | cons token rest =>
    obtain ⟨reader, step, onward⟩ := (run_cons_eq_ok_iff _ _ _ _).mp finished
    cases token with
    | closeArray =>
      obtain rfl := Except.ok.inj step
      obtain ⟨rfl, equal⟩ := (run_finished_eq_ok_iff _ _ _).mp onward
      exact .inl ⟨rfl, (Reader.finished.inj equal).symm⟩
    | comma =>
      obtain rfl := Except.ok.inj step
      exact .inr ⟨rest, rfl, onward⟩
    | _ => cases step

variable {results : Results}

theorem row_of_run_element {fields : List Field} {progress : Progress}
    (distinct : fields.Nodup) (unseen : ∀ field ∈ fields, field ∉ progress.seen)
    {tokens : List Token}
    (finished : (Reader.element progress.results fields false).run tokens =
      .ok (.finished results)) :
    ∃ token row, tokens = token :: following .closeArray (row.map fun token => [token]) ∧
      (token :: row).length ≤ fields.length ∧ (∀ value ∈ token :: row, value.isScalar = true) ∧
      Adds progress (rowMembers fields (token :: row)) results := by
  -- Each element of a row takes one of the fields that are left.
  induction fields generalizing progress tokens with
  | nil =>
    cases tokens with
    | nil => cases finished
    | cons token rest =>
      obtain ⟨_, step, _⟩ := (run_cons_eq_ok_iff _ _ _ _).mp finished
      cases step
  | cons field fields inductionHypothesis =>
    obtain ⟨once, distinct⟩ := List.nodup_cons.mp distinct
    obtain ⟨unseenField, unseen⟩ := List.forall_mem_cons.mp unseen
    cases tokens with
    | nil => cases finished
    | cons token rest =>
      obtain ⟨reader, step, onward⟩ := (run_cons_eq_ok_iff _ _ _ _).mp finished
      obtain ⟨_, _, stored, equal, storing, rfl⟩ := storing_of_step_element step
      cases equal
      have isScalar := isScalar_of_store storing
      have adds {row : List Token}
          (others : Adds ⟨stored, field :: progress.seen⟩ (rowMembers fields row) results) :
          Adds progress (rowMembers (field :: fields) (token :: row)) results :=
        (adds_known_iff rfl (ofKey?_key field) _ _).mpr
          ⟨unseenField, token, stored, rfl, storing, others⟩
      obtain ⟨rfl, rfl⟩ | ⟨rest, rfl, onward⟩ := run_afterElement onward
      · refine ⟨token, [], rfl, by simp, List.forall_mem_singleton.mpr isScalar, adds ?_⟩
        cases fields <;> exact (adds_nil_iff _ _).mpr rfl
      · have unseen : ∀ other ∈ fields, other ∉ field :: progress.seen := by
          intro other among
          rw [List.mem_cons, not_or]
          exact ⟨fun equal => once (equal ▸ among), unseen other among⟩
        obtain ⟨next, row, rfl, short, scalars, others⟩ :=
          @inductionHypothesis ⟨stored, field :: progress.seen⟩ distinct unseen _ onward
        exact ⟨token, next :: row, rfl, Nat.succ_le_succ short,
          List.forall_mem_cons.mpr ⟨isScalar, scalars⟩, adds others⟩

theorem run_row_of_adds {fields : List Field} {progress : Progress} {row : List Token}
    (short : row.length ≤ fields.length) (adds : Adds progress (rowMembers fields row) results) :
    (Reader.afterElement progress.results fields).run
      (following .closeArray (row.map fun token => [token])) = .ok (.finished results) := by
  induction row generalizing fields progress with
  | nil =>
    rw [rowMembers, List.zipWith_nil_right, adds_nil_iff] at adds
    rw [adds]
    rfl
  | cons token row inductionHypothesis =>
    cases fields with
    | nil => cases short
    | cons field fields =>
      obtain ⟨_, _, stored, equal, storing, others⟩ :=
        (adds_known_iff rfl (ofKey?_key field) _ _).mp adds
      cases equal
      have comma : (Reader.afterElement progress.results (field :: fields)).step .comma =
          .ok (.element progress.results (field :: fields) false) := rfl
      rw [List.map_cons, following, run_cons_of_step comma, List.singleton_append,
        run_cons_of_step (step_element storing fields false)]
      exact inductionHypothesis (Nat.le_of_succ_le_succ short) others

theorem first_key_step {progress : Progress} {token : Token} {next : Reader}
    (taken : (Reader.key progress true).step token = .ok next) :
    (token = .closeObject ∧ next = .finished progress.results) ∨
      (Reader.key progress false).step token = .ok next := by
  cases token with
  | closeObject => cases taken; exact .inl ⟨rfl, rfl⟩
  | string text =>
    cases text with
    | none => cases taken
    | some key => exact .inr taken
  | _ => cases taken

theorem members_of_run_start {tokens : List Token}
    (finished : Reader.start.run (.openObject :: tokens) = .ok (.finished results)) :
    ∃ members, .openObject :: tokens = objectTokens members ∧
      ∀ member ∈ members, IsValue member.value := by
  obtain ⟨reader, step, onward⟩ := (run_cons_eq_ok_iff _ _ _ _).mp finished
  obtain rfl := Except.ok.inj step
  cases tokens with
  | nil => cases onward
  | cons token rest =>
    obtain ⟨reader, taken, behind⟩ := (run_cons_eq_ok_iff _ _ _ _).mp onward
    obtain ⟨rfl, rfl⟩ | taken := first_key_step taken
    · obtain ⟨rfl, _⟩ := (run_finished_eq_ok_iff _ _ _).mp behind
      exact ⟨[], rfl, fun _ among => absurd among List.not_mem_nil⟩
    · have again := (run_cons_eq_ok_iff _ _ _ _).mpr ⟨reader, taken, behind⟩
      obtain ⟨member, _, others, tokens, isValue, behind⟩ := member_of_run_key again
      obtain ⟨members, rfl, values⟩ := members_of_run_afterMember behind
      refine ⟨member :: members, ?_, List.forall_mem_cons.mpr ⟨isValue, values⟩⟩
      rw [tokens, objectTokens, List.map_cons, enclosed]

theorem row_of_run_start {tokens : List Token}
    (finished : Reader.start.run (.openArray :: tokens) = .ok (.finished results)) :
    ∃ row, .openArray :: tokens = rowTokens row ∧ row.length ≤ Field.all.length ∧
      (∀ value ∈ row, value.isScalar = true) ∧ Means (rowMembers Field.all row) results := by
  obtain ⟨reader, step, onward⟩ := (run_cons_eq_ok_iff _ _ _ _).mp finished
  obtain rfl := Except.ok.inj step
  cases tokens with
  | nil => cases onward
  | cons token rest =>
    obtain ⟨reader, taken, behind⟩ := (run_cons_eq_ok_iff _ _ _ _).mp onward
    obtain ⟨rfl, rfl⟩ | taken := first_element_step taken
    · obtain ⟨rfl, equal⟩ := (run_finished_eq_ok_iff _ _ _).mp behind
      obtain rfl := Reader.finished.inj equal
      refine ⟨[], rfl, Nat.zero_le _, fun _ among => absurd among List.not_mem_nil, ?_⟩
      exact (means_iff_adds _ _).mpr ((adds_nil_iff _ _).mpr rfl)
    · have again := (run_cons_eq_ok_iff _ _ _ _).mpr ⟨reader, taken, behind⟩
      obtain ⟨first, row, tokens, short, scalars, adds⟩ :=
        @row_of_run_element _ _ ⟨empty, []⟩ (by decide) (fun _ _ => List.not_mem_nil) _ again
      refine ⟨first :: row, ?_, short, scalars, (means_iff_adds _ _).mpr adds⟩
      rw [tokens, rowTokens, arrayTokens, List.map_cons, enclosed, List.singleton_append]

end Reader

theorem ofTokens_row {row : List Token} {results : Results} (short : row.length ≤ Field.all.length)
    (means : Means (rowMembers Field.all row) results) :
    ofTokens (rowTokens row) = .ok results := by
  have adds := (means_iff_adds _ _).mp means
  have opened : Reader.start.step .openArray = .ok (.element empty Field.all true) := rfl
  rw [Reader.ofTokens_eq_ok_iff_run, rowTokens, arrayTokens]
  cases row with
  | nil =>
    rw [rowMembers, List.zipWith_nil_right, adds_nil_iff] at adds
    obtain rfl : empty = results := adds
    rfl
  | cons token row =>
    obtain ⟨_, _, stored, equal, storing, others⟩ :=
      (adds_known_iff rfl (ofKey?_key .workload) _ _).mp adds
    cases equal
    rw [List.map_cons, enclosed, Reader.run_cons_of_step opened, List.singleton_append,
      Field.all, Reader.run_cons_of_step (Reader.step_element storing _ true)]
    exact Reader.run_row_of_adds (Nat.le_of_succ_le_succ short) others

/-- The tokens that the reader accepts are those of an object or of a row. -/
theorem ofTokens_eq_ok_iff (tokens : List Token) (results : Results) :
    ofTokens tokens = .ok results ↔
      (∃ members, tokens = objectTokens members ∧ (∀ member ∈ members, IsValue member.value) ∧
          Means members results) ∨
        ∃ row, tokens = rowTokens row ∧ row.length ≤ Field.all.length ∧
          (∀ value ∈ row, value.isScalar = true) ∧ Means (rowMembers Field.all row) results := by
  constructor
  · intro accepted
    have finished := (Reader.ofTokens_eq_ok_iff_run _ _).mp accepted
    cases tokens with
    | nil => cases finished
    | cons token rest =>
      cases token with
      | openObject =>
        obtain ⟨members, equal, values⟩ := Reader.members_of_run_start finished
        rw [equal, ofTokens_object_iff values] at accepted
        exact .inl ⟨members, equal, values, accepted⟩
      | openArray => exact .inr (Reader.row_of_run_start finished)
      | _ => cases finished
  · intro shaped
    obtain ⟨members, rfl, values, means⟩ | ⟨row, rfl, short, _, means⟩ := shaped
    · exact (ofTokens_object_iff values results).mpr means
    · exact ofTokens_row short means

/-! ## The texts of results -/

/-- The bytes spell a row: an array of at most as many values as there are fields, each of them a
single token. -/
structure IsRowText (row : List Token) (bytes : List UInt8) : Prop where
  short : row.length ≤ Field.all.length
  scalars : ∀ value ∈ row, value.isScalar = true
  spelled : Json.Lexes (rowTokens row) bytes

/-- The bytes spell an object or a row, and this is what it means. -/
def IsTextOf (results : Results) (bytes : List UInt8) : Prop :=
  (∃ members, IsObjectText members bytes ∧ Means members results) ∨
    ∃ row, IsRowText row bytes ∧ Means (rowMembers Field.all row) results

theorem ofBytes_eq_ok_iff (bytes : List UInt8) (results : Results) :
    ofBytes bytes = .ok results ↔ IsTextOf results bytes := by
  rw [ofBytes, ofTokens_eq_ok_iff]
  constructor
  · intro shaped
    obtain ⟨members, tokens, values, means⟩ | ⟨row, tokens, short, scalars, means⟩ := shaped
    · have valid := (IsValue.object values).not_invalid
      exact .inl ⟨members, ⟨values, (Json.lexes_iff _ _).mpr ⟨tokens, valid⟩⟩, means⟩
    · have isValue : IsValue (rowTokens row) := by
        refine .array fun element inside => ?_
        obtain ⟨value, inRow, rfl⟩ := List.mem_map.mp inside
        exact .scalar (scalars value inRow)
      have spelled := (Json.lexes_iff _ _).mpr ⟨tokens, isValue.not_invalid⟩
      exact .inr ⟨row, ⟨short, scalars, spelled⟩, means⟩
  · intro text
    obtain ⟨members, text, means⟩ | ⟨row, text, means⟩ := text
    · obtain ⟨tokens, _⟩ := (Json.lexes_iff _ _).mp text.spelled
      exact .inl ⟨members, tokens, text.values, means⟩
    · obtain ⟨tokens, _⟩ := (Json.lexes_iff _ _).mp text.spelled
      exact .inr ⟨row, tokens, text.short, text.scalars, means⟩

/-- The first token of results opens an object or an array. -/
theorem IsTextOf.first {results : Results} {bytes : List UInt8} (text : IsTextOf results bytes)
    {token : Token} {rest : List Token} (spelled : Json.Lexes (token :: rest) bytes) :
    token = .openObject ∨ token = .openArray := by
  obtain ⟨tokens, _⟩ := (Json.lexes_iff _ _).mp spelled
  obtain ⟨members, text, _⟩ | ⟨row, text, _⟩ := text
  · obtain ⟨others, _⟩ := (Json.lexes_iff _ _).mp text.spelled
    obtain ⟨_, opened⟩ :=
      Json.exists_enclosed .openObject .closeObject (members.map Member.tokens)
    rw [tokens, objectTokens, opened] at others
    exact .inl (List.cons.inj others).1
  · obtain ⟨others, _⟩ := (Json.lexes_iff _ _).mp text.spelled
    obtain ⟨_, opened⟩ :=
      Json.exists_enclosed .openArray .closeArray (row.map fun token => [token])
    rw [tokens, rowTokens, arrayTokens, opened] at others
    exact .inr (List.cons.inj others).1

theorem readResults_eq_ok_iff (tree : FileTree) (path : Path) (results : Results) :
    tree.readResults path = .ok results ↔
      ∃ bytes, tree.find path = .ok (.file bytes) ∧ IsTextOf results bytes := by
  constructor
  · intro read
    obtain ⟨bytes, stands⟩ := FileTree.exists_bytes_of_read read
    rw [readResults_eq_ok_iff_ofBytes stands, ofBytes_eq_ok_iff] at read
    exact ⟨bytes, stands, read⟩
  · intro text
    obtain ⟨bytes, stands, text⟩ := text
    rw [readResults_eq_ok_iff_ofBytes stands, ofBytes_eq_ok_iff]
    exact text

/-- A file is read as results just if it spells an object or a row that means them. A text that
begins otherwise is refused when it is parsed. A measurement is loaded from a file just if the file
spells results, and these are in range. -/
theorem results_are_objects_or_rows (tree : FileTree) (path : Path) :
    (∀ results, tree.readResults path = .ok results ↔
        ∃ bytes, tree.find path = .ok (.file bytes) ∧ IsTextOf results bytes) ∧
      (∀ bytes token rest, tree.find path = .ok (.file bytes) →
        Json.Lexes (token :: rest) bytes → token ≠ .openObject → token ≠ .openArray →
        ∃ fault, tree.readResults path =
          .error ⟨[.parseResults path], .content fault⟩) ∧
      ∀ label measurement,
        (Scenario.load tree ⟨label, .file path⟩).outcome = .ok (.found measurement) ↔
          ∃ bytes results, tree.find path = .ok (.file bytes) ∧ IsTextOf results bytes ∧
            measurement = results.toMeasurement label ∧ measurement.check = .ok () := by
  refine ⟨readResults_eq_ok_iff tree path, ?_, ?_⟩
  · intro bytes token rest stands spelled notObject notArray
    cases read : ofBytes bytes with
    | ok results =>
      have text := (ofBytes_eq_ok_iff bytes results).mp read
      obtain equal | equal := text.first spelled
      · exact absurd equal notObject
      · exact absurd equal notArray
    | error fault =>
      refine ⟨fault, ?_⟩
      rw [FileTree.readResults, stands]
      dsimp only
      rw [read]
      rfl
  · intro label measurement
    rw [Scenario.load_file_found_iff]
    constructor
    · intro found
      obtain ⟨results, read, equal, passed⟩ := found
      obtain ⟨bytes, stands, text⟩ := (readResults_eq_ok_iff tree path results).mp read
      exact ⟨bytes, results, stands, text, equal, passed⟩
    · intro found
      obtain ⟨bytes, results, stands, text, equal, passed⟩ := found
      have read := (readResults_eq_ok_iff tree path results).mpr ⟨bytes, stands, text⟩
      exact ⟨results, read, equal, passed⟩

def emptyRow : List UInt8 :=
  "[]".toUTF8.data.toList

def nullText : List UInt8 :=
  "null".toUTF8.data.toList

/-- A file with an array and one with neither an array nor an object. -/
def misshapen : FileTree :=
  .holding [("row.json", .file emptyRow), ("null.json", .file nullText)]

theorem emptyRow_spelled : Json.Lexes [.openArray, .closeArray] emptyRow :=
  (Json.lexes_iff _ _).mpr ⟨by decide +kernel, by decide⟩

theorem nullText_spelled : Json.Lexes [.null] nullText :=
  (Json.lexes_iff _ _).mpr ⟨by decide +kernel, by decide⟩

theorem emptyRow_isTextOf_empty : IsTextOf empty emptyRow := by
  have text : IsRowText [] emptyRow :=
    ⟨Nat.zero_le _, fun _ among => absurd among List.not_mem_nil, emptyRow_spelled⟩
  exact .inr ⟨[], text, (means_iff_adds _ _).mpr ((adds_nil_iff _ _).mpr rfl)⟩

theorem misshapen_files_are_told_apart :
    misshapen.find ⟨"row.json"⟩ = .ok (.file emptyRow) ∧ IsTextOf empty emptyRow ∧
      misshapen.readResults ⟨"row.json"⟩ = .ok empty ∧
      (Scenario.load misshapen ⟨"s", .file ⟨"row.json"⟩⟩).outcome =
        .ok (.found (empty.toMeasurement "s")) ∧
      misshapen.find ⟨"null.json"⟩ = .ok (.file nullText) ∧ Json.Lexes [.null] nullText ∧
      ∃ fault, misshapen.readResults ⟨"null.json"⟩ =
        .error ⟨[.parseResults ⟨"null.json"⟩], .content fault⟩ := by
  have rowStands : misshapen.find ⟨"row.json"⟩ = .ok (.file emptyRow) := rfl
  have nullStands : misshapen.find ⟨"null.json"⟩ = .ok (.file nullText) := rfl
  have inRange : (empty.toMeasurement "s").check = .ok () := by decide +kernel
  obtain ⟨read_iff, _, found_iff⟩ := results_are_objects_or_rows misshapen ⟨"row.json"⟩
  obtain ⟨_, refused, _⟩ := results_are_objects_or_rows misshapen ⟨"null.json"⟩
  exact ⟨rowStands, emptyRow_isTextOf_empty,
    (read_iff empty).mpr ⟨emptyRow, rowStands, emptyRow_isTextOf_empty⟩,
    (found_iff "s" _).mpr ⟨emptyRow, empty, rowStands, emptyRow_isTextOf_empty, rfl, inRange⟩,
    nullStands, nullText_spelled,
    refused nullText .null [] nullStands nullText_spelled nofun nofun⟩

/-- An empty array is no object, but loaded as a measurement of zeros. -/
theorem empty_row_is_loaded_as_zeros :
    misshapen.find ⟨"row.json"⟩ = .ok (.file emptyRow) ∧
      Json.Lexes [.openArray, .closeArray] emptyRow ∧
      (∀ members, ¬ IsObjectText members emptyRow) ∧
      misshapen.readResults ⟨"row.json"⟩ = .ok empty ∧
      (Scenario.load misshapen ⟨"s", .file ⟨"row.json"⟩⟩).outcome =
        .ok (.found ⟨"s", some 0, some 0, some 0⟩) := by
  refine ⟨rfl, emptyRow_spelled, ?_, by decide +kernel, by decide +kernel⟩
  intro members text
  obtain ⟨tokens, _⟩ := (Json.lexes_iff _ _).mp emptyRow_spelled
  obtain ⟨others, _⟩ := (Json.lexes_iff _ _).mp text.spelled
  obtain ⟨_, opened⟩ := Json.exists_enclosed .openObject .closeObject (members.map Member.tokens)
  rw [tokens, objectTokens, opened] at others
  cases (List.cons.inj others).1

end LoadReport.Results
