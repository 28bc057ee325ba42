import LoadReport.Proofs.Results.Fields
import LoadReport.Proofs.Results.Numbers
import LoadReport.Proofs.Results.Quoting
import LoadReport.Scenario
import Mathlib.Tactic.Choose

/-!
# Written results are read again

The members of the written object come out of the scanner token by token, and the reader stores one
field after the other. What is stored is what was written, except that a number may be read as one of
its neighbours.
-/

namespace LoadReport.Results

open Json (Token)
open Json.Scanner (IsText IsDelimiter bytesOf bytesOf_append advance advance_append)

/-! ## Tokens of an object -/

/-- A member as it is written. -/
def memberText (results : Results) (field : Field) : List Char :=
  (writeString field.key).toList ++ ':' :: (results.writeValue field).toList

/-- The text behind a member: the other members and the end of the object. -/
def membersText (results : Results) : List Field → List Char
  | [] => ['\x7d']
  | field :: rest => ',' :: (results.memberText field ++ results.membersText rest)

/-- The tokens of a member with the given value. -/
def memberTokens (value : Field → Token) (field : Field) : List Token :=
  [.string (some field.key), .colon, value field]

def membersTokens (value : Field → Token) : List Field → List Token
  | [] => [.closeObject]
  | field :: rest => .comma :: (memberTokens value field ++ membersTokens value rest)

theorem toList_writeMember (results : Results) (field : Field) :
    (results.writeMember field).toList = results.memberText field := by
  simp [writeMember, memberText]

theorem toList_members (results : Results) (field : Field) (rest : List Field) :
    (String.intercalate "," ((field :: rest).map results.writeMember)).toList ++ ['\x7d'] =
      results.memberText field ++ results.membersText rest := by
  induction rest generalizing field with
  | nil => simp [toList_writeMember, membersText]
  | cons next rest inductionHypothesis =>
    rw [List.map_cons, List.map_cons, String.intercalate_cons_cons, ← List.map_cons,
      String.toList_append, String.toList_append, List.append_assoc, inductionHypothesis,
      toList_writeMember, List.append_assoc, membersText]
    simp

theorem toList_write (results : Results) :
    (write results).toList =
      '\x7b' :: (results.memberText .workload ++ results.membersText Field.all.tail) := by
  rw [← toList_members]
  simp [write, Field.all]

theorem exists_delimiter (results : Results) (fields : List Field) :
    ∃ character rest, results.membersText fields = character :: rest ∧ IsDelimiter character := by
  cases fields with
  | nil => exact ⟨_, _, rfl, .inr rfl⟩
  | cons field rest => exact ⟨_, _, rfl, .inl rfl⟩

variable {results : Results} {value : Field → Token}

theorem advance_member (texts : ∀ field, IsText (results.writeValue field).toList (value field))
    (field : Field) (fields : List Field) :
    advance .between (bytesOf (results.memberText field ++ results.membersText fields)) =
      (memberTokens value field ++ (advance .between (bytesOf (results.membersText fields))).1,
        (advance .between (bytesOf (results.membersText fields))).2) := by
  obtain ⟨character, rest, text, delimiter⟩ := exists_delimiter results fields
  have colon : advance .between (bytesOf [':']) = ([.colon], .between) := rfl
  have valueTokens := texts field character delimiter rest
  have parts : results.memberText field ++ character :: rest =
      (writeString field.key).toList ++ ([':'] ++
        ((results.writeValue field).toList ++ character :: rest)) := by
    simp [memberText]
  rw [text, parts, bytesOf_append, advance_append, advance_writeString, bytesOf_append,
    advance_append, colon, valueTokens]
  rfl

theorem advance_members (texts : ∀ field, IsText (results.writeValue field).toList (value field))
    (fields : List Field) :
    advance .between (bytesOf (results.membersText fields)) =
      (membersTokens value fields, .between) := by
  induction fields with
  | nil => rfl
  | cons field rest inductionHypothesis =>
    have comma : advance .between (bytesOf [',']) = ([.comma], .between) := rfl
    have parts : results.membersText (field :: rest) =
        [','] ++ (results.memberText field ++ results.membersText rest) := by
      rw [membersText, List.singleton_append]
    rw [parts, bytesOf_append, advance_append, comma, advance_member texts, inductionHypothesis]
    rfl

/-- The tokens of the whole text. -/
theorem tokens_write (texts : ∀ field, IsText (results.writeValue field).toList (value field)) :
    Json.tokens (bytesOf (write results).toList) =
      .openObject :: (memberTokens value .workload ++ membersTokens value Field.all.tail) := by
  have opened : advance .between (bytesOf ['\x7b']) = ([.openObject], .between) := rfl
  have parts : (write results).toList =
      ['\x7b'] ++ (results.memberText .workload ++ results.membersText Field.all.tail) :=
    toList_write results
  rw [Json.tokens, Json.Scanner.scan, parts, bytesOf_append, advance_append, opened,
    advance_member texts, advance_members texts]
  simp [Json.Scanner.finish]

/-! ## The reader -/

/-- The tokens are read as the fields of the source. -/
def Stores (value : Field → Token) (source : Results) : Prop :=
  ∀ (target : Results) (field : Field),
    target.store (value field) field = .ok (source.copyField target field)

theorem run_member {source : Results} (stores : Stores value source) {target : Results}
    {seen : List Field} {field : Field} (unseen : field ∉ seen) (mayClose : Bool)
    (rest : List Token) :
    (Reader.key ⟨target, seen⟩ mayClose).run (memberTokens value field ++ rest) =
      (Reader.afterMember ⟨source.copyField target field, field :: seen⟩).run rest := by
  have key : (Reader.key ⟨target, seen⟩ mayClose).step (.string (some field.key)) =
      .ok (.colon ⟨target, seen⟩ (some field)) := by
    simp only [Reader.step, Reader.takeKey, ofKey?_key]
    exact if_neg unseen
  have colon : (Reader.colon ⟨target, seen⟩ (some field)).step .colon =
      .ok (.value ⟨target, seen⟩ field) := rfl
  have stored : (Reader.value ⟨target, seen⟩ field).step (value field) =
      .ok (.afterMember ⟨source.copyField target field, field :: seen⟩) := by
    simp only [Reader.step, stores target field]
    rfl
  rw [memberTokens, List.cons_append, List.cons_append, List.cons_append, List.nil_append,
    Reader.run_cons_of_step key, Reader.run_cons_of_step colon, Reader.run_cons_of_step stored]

theorem run_members {source : Results} (stores : Stores value source) (fields : List Field)
    (distinct : fields.Nodup) {target : Results} {seen : List Field}
    (unseen : ∀ field ∈ fields, field ∉ seen) :
    (Reader.afterMember ⟨target, seen⟩).run (membersTokens value fields) =
      .ok (.finished (fields.foldl source.copyField target)) := by
  induction fields generalizing target seen with
  | nil => rfl
  | cons field rest inductionHypothesis =>
    obtain ⟨notAgain, restDistinct⟩ := List.nodup_cons.mp distinct
    obtain ⟨unseenField, unseenRest⟩ := List.forall_mem_cons.mp unseen
    have comma : (Reader.afterMember ⟨target, seen⟩).step .comma =
        .ok (.key ⟨target, seen⟩ false) := rfl
    have next : ∀ other ∈ rest, other ∉ field :: seen := by
      intro other member
      rw [List.mem_cons, not_or]
      exact ⟨fun equal => notAgain (equal ▸ member), unseenRest other member⟩
    rw [membersTokens, Reader.run_cons_of_step comma, run_member stores unseenField,
      inductionHypothesis restDistinct next, List.foldl_cons]

/-- What the tokens of a written object are read as. -/
theorem ofBytes_write {source : Results}
    (texts : ∀ field, IsText (results.writeValue field).toList (value field))
    (stores : Stores value source) : ofBytes (bytesOf (write results).toList) = .ok source := by
  have opened : Reader.start.step .openObject = .ok (.key ⟨Results.empty, []⟩ true) := rfl
  have read : Reader.start.run
      (.openObject :: (memberTokens value .workload ++ membersTokens value Field.all.tail)) =
        .ok (.finished source) := by
    have whole := foldl_copyField_all source Results.empty
    rw [show Field.all = .workload :: Field.all.tail from rfl, List.foldl_cons] at whole
    rw [Reader.run_cons_of_step opened, run_member stores List.not_mem_nil,
      run_members stores _ (by decide) (by decide), whole]
  rw [ofBytes, ofTokens, tokens_write texts, read]
  rfl

/-! ## What comes back -/

/-- Every number of the results has a notation. -/
structure IsFinite (results : Results) : Prop where
  durationSec : results.durationSec.isFinite = true
  throughput : results.throughput.isFinite = true
  abortRate : results.abortRate.isFinite = true
  p95Latency : ∀ latency, results.p95Latency = some latency → latency.isFinite = true

/-- Results that have been written and read again: the text and the counters are the same, and each
number is a reading of its original. -/
structure IsReadingOf (read original : Results) : Prop where
  workload : read.workload = original.workload
  durationSec : IsReading original.durationSec read.durationSec
  totalRequests : read.totalRequests = original.totalRequests
  throughput : IsReading original.throughput read.throughput
  successCreated : read.successCreated = original.successCreated
  successReplay : read.successReplay = original.successReplay
  abortsConflict : read.abortsConflict = original.abortsConflict
  abortRate : IsReading original.abortRate read.abortRate
  errors : read.errors = original.errors
  p95Latency : Option.Rel IsReading original.p95Latency read.p95Latency

theorem readNumber_of_toBinary64? {numeral : Json.Numeral} {number : Binary64}
    (inRange : numeral.toBinary64? = some number) : readNumber (.number numeral) = .ok number := by
  simp only [readNumber, inRange]

theorem readCounter_of_toCounter? {numeral : Json.Numeral} {counter : UInt64}
    (fits : numeral.toCounter? = some counter) : readCounter (.number numeral) = .ok counter := by
  simp only [readCounter, fits]

/-- A latency is read as a number, and its absence as absence. -/
theorem exists_latency_token {results : Results} (finite : results.IsFinite) :
    ∃ token read, IsText (results.writeValue .p95Latency).toList token ∧
      readOptionalNumber token = .ok read ∧ Option.Rel IsReading results.p95Latency read := by
  simp only [writeValue]
  cases measured : results.p95Latency with
  | none => exact ⟨.null, none, IsText.of_advance rfl, rfl, .none⟩
  | some latency =>
    obtain ⟨numeral, read, text, inRange, reading⟩ :=
      exists_number_token (finite.p95Latency latency measured)
    refine ⟨.number numeral, some read, text, ?_, .some reading⟩
    have present : readOptionalNumber (.number numeral) = some <$> readNumber (.number numeral) :=
      rfl
    rw [present, readNumber_of_toBinary64? inRange]
    rfl

/-- The tokens of the numbers that are written. -/
structure NumberTokens where
  durationSec : Json.Numeral
  throughput : Json.Numeral
  abortRate : Json.Numeral
  p95Latency : Token
  counter : UInt64 → Json.Numeral

namespace NumberTokens

variable {tokens : NumberTokens}

/-- The token of every value of the results. -/
def token (tokens : NumberTokens) (results : Results) : Field → Token
  | .workload => .string (some results.workload)
  | .durationSec => .number tokens.durationSec
  | .totalRequests => .number (tokens.counter results.totalRequests)
  | .throughput => .number tokens.throughput
  | .successCreated => .number (tokens.counter results.successCreated)
  | .successReplay => .number (tokens.counter results.successReplay)
  | .abortsConflict => .number (tokens.counter results.abortsConflict)
  | .abortRate => .number tokens.abortRate
  | .errors => .number (tokens.counter results.errors)
  | .p95Latency => tokens.p95Latency

/-- The tokens are what the numbers of the results are written as. -/
structure Write (tokens : NumberTokens) (results : Results) : Prop where
  durationSec : IsText (writeNumber results.durationSec).toList (.number tokens.durationSec)
  throughput : IsText (writeNumber results.throughput).toList (.number tokens.throughput)
  abortRate : IsText (writeNumber results.abortRate).toList (.number tokens.abortRate)
  p95Latency : IsText (results.writeValue .p95Latency).toList tokens.p95Latency
  counter : ∀ value, IsText (writeCounter value).toList (.number (tokens.counter value))

/-- The tokens are read as the numbers of the results. -/
structure Read (tokens : NumberTokens) (results : Results) : Prop where
  durationSec : tokens.durationSec.toBinary64? = some results.durationSec
  throughput : tokens.throughput.toBinary64? = some results.throughput
  abortRate : tokens.abortRate.toBinary64? = some results.abortRate
  p95Latency : readOptionalNumber tokens.p95Latency = .ok results.p95Latency
  counter : ∀ value, (tokens.counter value).toCounter? = some value

theorem Write.isText (write : tokens.Write results) (field : Field) :
    IsText (results.writeValue field).toList (tokens.token results field) := by
  cases field with
  | workload => exact IsText.of_advance (advance_writeString results.workload)
  | durationSec => exact write.durationSec
  | throughput => exact write.throughput
  | abortRate => exact write.abortRate
  | p95Latency => exact write.p95Latency
  | totalRequests | successCreated | successReplay | abortsConflict | errors =>
    exact write.counter _

theorem Read.stores (read : tokens.Read results) : Stores (tokens.token results) results := by
  intro target field
  cases field with
  | workload => rfl
  | durationSec => rw [store, token, readNumber_of_toBinary64? read.durationSec]; rfl
  | throughput => rw [store, token, readNumber_of_toBinary64? read.throughput]; rfl
  | abortRate => rw [store, token, readNumber_of_toBinary64? read.abortRate]; rfl
  | p95Latency => rw [store, token, read.p95Latency]; rfl
  | totalRequests | successCreated | successReplay | abortsConflict | errors =>
    rw [store, token, readCounter_of_toCounter? (read.counter _)]; rfl

/-- The text and the counters are the same, and so are their tokens. -/
theorem token_of_isReadingOf {read original : Results} (reading : read.IsReadingOf original) :
    tokens.token read = tokens.token original := by
  funext field
  simp only [token, reading.workload, reading.totalRequests, reading.successCreated,
    reading.successReplay, reading.abortsConflict, reading.errors]

end NumberTokens

/-- The numbers that are written have tokens, and these are read as readings of the numbers. -/
theorem exists_numberTokens {results : Results} (finite : results.IsFinite) :
    ∃ (tokens : NumberTokens) (read : Results),
      tokens.Write results ∧ tokens.Read read ∧ read.IsReadingOf results := by
  obtain ⟨duration, durationRead, durationText, durationInRange, durationReading⟩ :=
    exists_number_token finite.durationSec
  obtain ⟨throughput, throughputRead, throughputText, throughputInRange, throughputReading⟩ :=
    exists_number_token finite.throughput
  obtain ⟨rate, rateRead, rateText, rateInRange, rateReading⟩ :=
    exists_number_token finite.abortRate
  obtain ⟨latency, latencyRead, latencyText, latencyStored, latencyReading⟩ :=
    exists_latency_token finite
  choose counter counterText counterFits using exists_counter_token
  exact ⟨⟨duration, throughput, rate, latency, counter⟩,
    { results with
      durationSec := durationRead
      throughput := throughputRead
      abortRate := rateRead
      p95Latency := latencyRead },
    ⟨durationText, throughputText, rateText, latencyText, counterText⟩,
    ⟨durationInRange, throughputInRange, rateInRange, latencyStored, counterFits⟩,
    { workload := rfl
      durationSec := durationReading
      totalRequests := rfl
      throughput := throughputReading
      successCreated := rfl
      successReplay := rfl
      abortsConflict := rfl
      abortRate := rateReading
      errors := rfl
      p95Latency := latencyReading }⟩

theorem toUTF8_eq_bytesOf (text : String) : text.toUTF8.data.toList = bytesOf text.toList := by
  rw [String.toUTF8_eq_toByteArray, ← toByteArray_bytesOf, List.data_toByteArray]

/-- A file with written results is read, with the same text and the same counters. A number has the
same sign and is at most two representable numbers away, because reading rounds more than once; with
few digits and a small power of ten it is the same number. -/
theorem written_results_are_read_closely {tree : FileTree} {path : Path} {results : Results}
    (finite : results.IsFinite)
    (stored : tree.find path = .ok (.file (write results).toUTF8.data.toList)) :
    ∃ read, tree.readResults path = .ok read ∧ read.IsReadingOf results := by
  obtain ⟨tokens, read, written, stores, reading⟩ := exists_numberTokens finite
  have stores := stores.stores
  rw [NumberTokens.token_of_isReadingOf reading] at stores
  refine ⟨read, ?_, reading⟩
  rw [FileTree.readResults, stored]
  dsimp only
  rw [toUTF8_eq_bytesOf, ofBytes_write written.isText stores]
  rfl

/-- Results with a text that needs escapes, a number that drifts by one, a number that drifts by two
and a counter with all its digits. -/
def drifting : Results where
  workload := "mixed \"\n\x01é"
  durationSec := .finite false ⟨0x408cfb0488fd423b, by decide⟩
  totalRequests := 18446744073709551615
  throughput := .finite false ⟨0x16cda791d8a50636, by decide⟩
  successCreated := 0
  successReplay := 0
  abortsConflict := 0
  abortRate := .finite true ⟨0, by decide⟩
  errors := 7
  p95Latency := some (.finite false ⟨0x4029000000000000, by decide⟩)

/-- A directory with nothing but the written results. -/
def driftingFolder : FileTree :=
  .holding [("r.json", .file (write drifting).toUTF8.data.toList)]

theorem drifting_isFinite : drifting.IsFinite :=
  ⟨rfl, rfl, rfl, fun _ measured => by cases measured; rfl⟩

theorem drifting_stored : driftingFolder.find ⟨"r.json"⟩ =
    .ok (.file (write drifting).toUTF8.data.toList) :=
  rfl

theorem drifting_numbers_are_read_closely :
    drifting.IsFinite ∧
      driftingFolder.find ⟨"r.json"⟩ = .ok (.file (write drifting).toUTF8.data.toList) ∧
      ∃ read, driftingFolder.readResults ⟨"r.json"⟩ = .ok read ∧ read.IsReadingOf drifting :=
  ⟨drifting_isFinite, drifting_stored,
    written_results_are_read_closely drifting_isFinite drifting_stored⟩

/-- What comes back need not be what was written. -/
theorem drifting_numbers_are_not_recovered :
    drifting.IsFinite ∧
      driftingFolder.find ⟨"r.json"⟩ = .ok (.file (write drifting).toUTF8.data.toList) ∧
      driftingFolder.readResults ⟨"r.json"⟩ =
        .ok { drifting with
          durationSec := .finite false ⟨0x408cfb0488fd423a, by decide⟩
          throughput := .finite false ⟨0x16cda791d8a50638, by decide⟩ } ∧
      driftingFolder.readResults ⟨"r.json"⟩ ≠ .ok drifting := by
  have read : driftingFolder.readResults ⟨"r.json"⟩ =
      .ok { drifting with
        durationSec := .finite false ⟨0x408cfb0488fd423a, by decide⟩
        throughput := .finite false ⟨0x16cda791d8a50638, by decide⟩ } := by decide +kernel
  refine ⟨drifting_isFinite, drifting_stored, read, ?_⟩
  rw [read]
  decide

end LoadReport.Results
