import LoadReport.Failure
import LoadReport.Json.Token

/-! # Values that are passed over

The value of an unknown field is not looked into, but it has to be a value. What is still open of it
is kept as a stack, so values may be nested to any depth. -/

namespace LoadReport.Results

/-- What a value is inside of. -/
inductive Enclosure where
  | object
  | array
deriving DecidableEq

/-- What may come next inside a value. -/
inductive IgnoredPhase where
  | value
  | firstElement
  | firstKey
  | key
  | colon
  | afterValue
deriving DecidableEq

/-- A value that has been read in part. -/
structure Ignored where
  phase : IgnoredPhase
  /-- What is still open, the innermost first. -/
  enclosures : List Enclosure
deriving DecidableEq

namespace Ignored

def start : Ignored where
  phase := .value
  enclosures := []

/-- A value has ended inside the given enclosures: nothing is left if there are none. -/
def ended : List Enclosure → Option Ignored
  | [] => none
  | enclosures => some ⟨.afterValue, enclosures⟩

/-- A value begins, and ends at once if it is neither an object nor an array. -/
def beginValue (enclosures : List Enclosure) : Json.Token → Except ContentFault (Option Ignored)
  | .openObject => .ok (some ⟨.firstKey, .object :: enclosures⟩)
  | .openArray => .ok (some ⟨.firstElement, .array :: enclosures⟩)
  | .string _ | .number _ | .null | .boolean _ => .ok (ended enclosures)
  | _ => .error .malformed

/-- One more token; nothing is left when the value is complete. -/
def step (ignored : Ignored) (token : Json.Token) : Except ContentFault (Option Ignored) :=
  match ignored.phase, ignored.enclosures, token with
  | .value, enclosures, token => beginValue enclosures token
  | .firstElement, _ :: outer, .closeArray => .ok (ended outer)
  | .firstElement, enclosures, token => beginValue enclosures token
  | .firstKey, _ :: outer, .closeObject => .ok (ended outer)
  | .firstKey, enclosures, .string _ => .ok (some ⟨.colon, enclosures⟩)
  | .key, enclosures, .string _ => .ok (some ⟨.colon, enclosures⟩)
  | .colon, enclosures, .colon => .ok (some ⟨.value, enclosures⟩)
  | .afterValue, .array :: outer, .comma => .ok (some ⟨.value, .array :: outer⟩)
  | .afterValue, .array :: outer, .closeArray => .ok (ended outer)
  | .afterValue, .object :: outer, .comma => .ok (some ⟨.key, .object :: outer⟩)
  | .afterValue, .object :: outer, .closeObject => .ok (ended outer)
  | _, _, _ => .error .malformed

end Ignored

end LoadReport.Results
