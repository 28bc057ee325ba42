import LoadReport.Json.Scanner
import LoadReport.Results.Basic
import LoadReport.Results.Ignored

/-! # Reading results

Results are read in one pass over the tokens, one token after the other, and the first problem
decides. They are an object, whose unknown fields are passed over, or an array with the values of
the first fields. -/

namespace LoadReport.Results

/-- The fault of a token where a value of another kind is required. A value that has no meaning at
all is malformed, and so is what is no value. -/
def wrongKind : Json.Token → ContentFault
  | .string (some _) | .null | .boolean _ | .openObject | .openArray => .mistyped
  | .number numeral => if numeral.toBinary64?.isSome then .mistyped else .malformed
  | _ => .malformed

/-- Only a string whose bytes are a text. -/
def readText : Json.Token → Except ContentFault String
  | .string (some text) => .ok text
  | token => .error (wrongKind token)

/-- Any number that is in range. -/
def readNumber : Json.Token → Except ContentFault Binary64
  | .number numeral =>
    match numeral.toBinary64? with
    | some value => .ok value
    | none => .error .malformed
  | token => .error (wrongKind token)

/-- Only a whole number without a sign that fits 64 bits. -/
def readCounter : Json.Token → Except ContentFault UInt64
  | .number numeral =>
    match numeral.toCounter? with
    | some value => .ok value
    | none => .error (wrongKind (.number numeral))
  | token => .error (wrongKind token)

/-- A number, or nothing where none was measured. -/
def readOptionalNumber : Json.Token → Except ContentFault (Option Binary64)
  | .null => .ok none
  | token => some <$> readNumber token

/-- The results with the value of one field read from a token. -/
def store (results : Results) (token : Json.Token) : Field → Except ContentFault Results
  | .workload => do return { results with workload := ← readText token }
  | .durationSec => do return { results with durationSec := ← readNumber token }
  | .totalRequests => do return { results with totalRequests := ← readCounter token }
  | .throughput => do return { results with throughput := ← readNumber token }
  | .successCreated => do return { results with successCreated := ← readCounter token }
  | .successReplay => do return { results with successReplay := ← readCounter token }
  | .abortsConflict => do return { results with abortsConflict := ← readCounter token }
  | .abortRate => do return { results with abortRate := ← readNumber token }
  | .errors => do return { results with errors := ← readCounter token }
  | .p95Latency => do return { results with p95Latency := ← readOptionalNumber token }

/-- The results as far as they have been read, and the fields that have occurred. -/
structure Progress where
  results : Results
  seen : List Field
deriving DecidableEq

/-- Where in the tokens the reader stands. -/
inductive Reader where
  | start
  /-- A field begins, or the object ends, which it may not do behind a comma. -/
  | key (progress : Progress) (mayClose : Bool)
  | colon (progress : Progress) (field : Option Field)
  | value (progress : Progress) (field : Field)
  | ignored (progress : Progress) (rest : Ignored)
  | afterMember (progress : Progress)
  /-- The value of the first of these fields begins, or the array ends. -/
  | element (results : Results) (fields : List Field) (mayClose : Bool)
  | afterElement (results : Results) (fields : List Field)
  | finished (results : Results)
deriving DecidableEq

namespace Reader

/-- The key of a field. A known field must not occur twice. -/
def takeKey (progress : Progress) (text : String) : Except ContentFault Reader :=
  match Field.ofKey? text with
  | none => .ok (.colon progress none)
  | some field =>
    if field ∈ progress.seen then .error .mistyped else .ok (.colon progress (some field))

def step (reader : Reader) (token : Json.Token) : Except ContentFault Reader :=
  match reader, token with
  | .start, .openObject => .ok (.key ⟨Results.empty, []⟩ true)
  | .start, .openArray => .ok (.element Results.empty Field.all true)
  | .start, token => .error (wrongKind token)
  | .key progress _, .string (some text) => takeKey progress text
  | .key progress true, .closeObject => .ok (.finished progress.results)
  | .colon progress (some field), .colon => .ok (.value progress field)
  | .colon progress none, .colon => .ok (.ignored progress Ignored.start)
  | .value progress field, token => do
    let results ← progress.results.store token field
    return .afterMember ⟨results, field :: progress.seen⟩
  | .ignored progress rest, token => do
    match ← rest.step token with
    | some next => return .ignored progress next
    | none => return .afterMember progress
  | .afterMember progress, .comma => .ok (.key progress false)
  | .afterMember progress, .closeObject => .ok (.finished progress.results)
  | .element results _ true, .closeArray => .ok (.finished results)
  | .element results (field :: fields) _, token => do
    return .afterElement (← results.store token field) fields
  | .afterElement results fields, .comma => .ok (.element results fields false)
  | .afterElement results _, .closeArray => .ok (.finished results)
  | _, _ => .error .malformed

def run : Reader → List Json.Token → Except ContentFault Reader
  | reader, [] => .ok reader
  | reader, token :: rest => do
    let next ← reader.step token
    next.run rest

end Reader

def ofTokens (tokens : List Json.Token) : Except ContentFault Results := do
  match ← Reader.start.run tokens with
  | .finished results => return results
  | _ => throw .malformed

def ofBytes (bytes : List UInt8) : Except ContentFault Results :=
  ofTokens (Json.tokens bytes)

end LoadReport.Results
