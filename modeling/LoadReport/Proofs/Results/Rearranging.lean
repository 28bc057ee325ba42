import LoadReport.Proofs.Results.Members

/-!
# Only known members count

What an object is read as does not change when its members change places, when unknown members
come or go, or when a member goes that gives a field its default (`Means.rearranged`). Two objects
with the same known members are read as the same (`results_eq_of_means`).
-/

namespace LoadReport.Results

open Json (Token Member objectTokens)

/-! ## Changes without effect -/

/-- The key of the member is a text, but that of no field. -/
def IsUnknown (member : Member) : Prop :=
  ∃ key, member.key = some key ∧ ∀ field : Field, key ≠ field.key

/-- The member gives a field its default. -/
def IsIdle (member : Member) : Prop :=
  ∃ field : Field, member.key = some field.key ∧
    ∃ token, member.value = [token] ∧ IsDefault token field

/-- The members are changed only where they do not count. -/
inductive Rearranged : List Member → List Member → Prop where
  | permuted {members others : List Member} (permutation : members.Perm others) :
      Rearranged members others
  | inserted (before after : List Member) {member : Member} (unknown : IsUnknown member) :
      Rearranged (before ++ after) (before ++ member :: after)
  | removed (before after : List Member) {member : Member} (unknown : IsUnknown member) :
      Rearranged (before ++ member :: after) (before ++ after)
  | defaulted (before after : List Member) {member : Member} (idle : IsIdle member) :
      Rearranged (before ++ member :: after) (before ++ after)
  | trans {first second third : List Member} (onward : Rearranged first second)
      (further : Rearranged second third) : Rearranged first third

theorem ofKey?_eq_none_iff (key : String) :
    Field.ofKey? key = none ↔ ∀ field : Field, key ≠ field.key := by
  rw [Field.ofKey?, List.find?_eq_none]
  constructor
  · intro unlisted field equal
    have listed : field ∈ Field.all := by cases field <;> decide
    exact unlisted field listed (decide_eq_true equal.symm)
  · intro unknown field _ equal
    exact unknown field (of_decide_eq_true equal).symm

namespace Means

variable {members others : List Member} {member : Member} {results : Results}

theorem permuted (means : Means members results) (permutation : members.Perm others) :
    Means others results := by
  obtain ⟨keyed, distinct, stored, missing⟩ := means
  have fields := permutation.filterMap field?
  exact ⟨fun member among => keyed member (permutation.mem_iff.mpr among),
    fields.nodup_iff.mp distinct,
    fun member among => stored member (permutation.mem_iff.mpr among),
    fun field absent => missing field fun present => absent (fields.mem_iff.mp present)⟩

theorem unknown_cons_iff (unknown : IsUnknown member) :
    Means (member :: members) results ↔ Means members results := by
  obtain ⟨key, keyed, unknown⟩ := unknown
  rw [means_iff_adds, means_iff_adds,
    adds_unknown_iff keyed ((ofKey?_eq_none_iff key).mpr unknown)]

theorem of_idle_cons (idle : IsIdle member) (means : Means (member :: members) results) :
    Means members results := by
  obtain ⟨field, keyed, token, value, isDefault⟩ := idle
  obtain ⟨allKeyed, distinct, stored, missing⟩ := means
  have known := field?_of_key keyed
  have fields : (member :: members).filterMap field? = field :: members.filterMap field? := by
    rw [List.filterMap_cons, known]
  rw [fields] at distinct missing
  refine ⟨fun other among => allKeyed other (List.mem_cons_of_mem _ among),
    (List.nodup_cons.mp distinct).2,
    fun other among => stored other (List.mem_cons_of_mem _ among), fun other absent => ?_⟩
  by_cases equal : other = field
  -- The field had been read as its default, which it has also without the member.
  · subst equal
    obtain ⟨found, foundValue, read⟩ := stored member List.mem_cons_self other known
    obtain rfl : token = found := List.singleton_inj.mp (value.symm.trans foundValue)
    exact Except.ok.inj (read.symm.trans (store_default isDefault))
  · exact missing other fun among => (List.mem_cons.mp among).elim equal absent

theorem rearranged (means : Means members results) (rearranged : Rearranged members others) :
    Means others results := by
  induction rearranged with
  | permuted permutation => exact means.permuted permutation
  | inserted before after unknown =>
    have added := (unknown_cons_iff unknown).mpr means
    exact added.permuted List.perm_middle.symm
  | removed before after unknown =>
    have front := means.permuted List.perm_middle
    exact (unknown_cons_iff unknown).mp front
  | defaulted before after idle =>
    have front := means.permuted List.perm_middle
    exact of_idle_cons idle front
  | trans _ _ onward further => exact further (onward means)

theorem not_of_twice {before middle after : List Member} {first second : Member} {field : Field}
    (firstKey : first.key = some field.key) (secondKey : second.key = some field.key) :
    ¬ Means (before ++ first :: (middle ++ second :: after)) results := by
  intro means
  have distinct := means.distinct
  simp only [List.filterMap_append, List.filterMap_cons, field?_of_key firstKey,
    field?_of_key secondKey] at distinct
  have behind := (List.nodup_append.mp distinct).2.1
  exact (List.nodup_cons.mp behind).1 (by simp)

end Means

/-! ## What counts -/

/-- The field that a member gives a value to, with the value. -/
def fieldValue? (member : Member) : Option (Field × List Token) :=
  (field? member).map fun field => (field, member.value)

theorem mem_fieldValues_iff (members : List Member) (field : Field) (value : List Token) :
    (field, value) ∈ members.filterMap fieldValue? ↔
      ∃ member ∈ members, field? member = some field ∧ member.value = value := by
  simp [fieldValue?, List.mem_filterMap]

/-- The known members and their values decide the results. -/
theorem results_eq_of_means {members others : List Member} {results otherResults : Results}
    (means : Means members results) (otherMeans : Means others otherResults)
    (same : ∀ entry, entry ∈ members.filterMap fieldValue? ↔ entry ∈ others.filterMap fieldValue?) :
    results = otherResults := by
  refine eq_of_only fun field => ?_
  by_cases present : field ∈ members.filterMap field?
  · obtain ⟨member, among, known⟩ := List.mem_filterMap.mp present
    obtain ⟨token, value, read⟩ := means.stored member among field known
    have listed := (mem_fieldValues_iff members field [token]).mpr ⟨member, among, known, value⟩
    obtain ⟨other, otherAmong, otherKnown, otherValue⟩ :=
      (mem_fieldValues_iff others field [token]).mp ((same _).mp listed)
    obtain ⟨found, foundValue, foundRead⟩ := otherMeans.stored other otherAmong field otherKnown
    obtain rfl := List.singleton_inj.mp (otherValue.symm.trans foundValue)
    exact Except.ok.inj (read.symm.trans foundRead)
  · have absent : field ∉ others.filterMap field? := by
      intro among
      obtain ⟨other, otherAmong, known⟩ := List.mem_filterMap.mp among
      have listed := (mem_fieldValues_iff others field other.value).mpr
        ⟨other, otherAmong, known, rfl⟩
      obtain ⟨member, among, memberKnown, _⟩ :=
        (mem_fieldValues_iff members field other.value).mp ((same _).mpr listed)
      exact present (List.mem_filterMap.mpr ⟨member, among, memberKnown⟩)
    rw [means.missing field present, otherMeans.missing field absent]

/-! ## Files with objects -/

/-- A file with an object is read as what its members mean, or refused. If another file has the same
members, changed where they do not count, it is read as the first is; if both are read, their known
members decide what they are read as. A known key that occurs twice is refused, wherever it stands
and however it is spelled. -/
theorem known_members_decide_what_is_read {tree otherTree : FileTree} {path otherPath : Path}
    {bytes otherBytes : List UInt8} {members others : List Member}
    (stored : tree.find path = .ok (.file bytes))
    (otherStored : otherTree.find otherPath = .ok (.file otherBytes))
    (text : IsObjectText members bytes) (otherText : IsObjectText others otherBytes) :
    (∀ results, tree.readResults path = .ok results ↔ Means members results) ∧
      (∀ results, tree.readResults path = .ok results → Rearranged members others →
        otherTree.readResults otherPath = .ok results) ∧
      (∀ results otherResults, tree.readResults path = .ok results →
        otherTree.readResults otherPath = .ok otherResults →
        (∀ entry, entry ∈ members.filterMap fieldValue? ↔
          entry ∈ others.filterMap fieldValue?) →
        results = otherResults) ∧
      ∀ (field : Field) (before middle after : List Member) (first second : Member),
        members = before ++ first :: (middle ++ second :: after) →
        first.key = some field.key → second.key = some field.key →
        ∃ failure, tree.readResults path = .error failure := by
  have read_iff := text.readResults_eq_ok_iff stored
  have otherRead_iff := otherText.readResults_eq_ok_iff otherStored
  refine ⟨read_iff, ?_, ?_, ?_⟩
  · intro results read rearranged
    have means := (read_iff results).mp read
    exact (otherRead_iff results).mpr (means.rearranged rearranged)
  · intro results otherResults read otherRead same
    have means := (read_iff results).mp read
    have otherMeans := (otherRead_iff otherResults).mp otherRead
    exact results_eq_of_means means otherMeans same
  · intro field before middle after first second split firstKey secondKey
    cases read : tree.readResults path with
    | error failure => exact ⟨failure, rfl⟩
    | ok results =>
      have means := (read_iff results).mp read
      rw [split] at means
      exact absurd means (Means.not_of_twice firstKey secondKey)

/-- A number of one digit. -/
def oneDigit (digit : Nat) : Token :=
  .number ⟨false, [digit], [], none⟩

def fullMembers : List Member :=
  [⟨some "errors", [oneDigit 2]⟩,
    ⟨some "x", Json.arrayTokens [objectTokens [⟨some "errors", [oneDigit 9]⟩], [.string none]]⟩,
    ⟨some "abort_rate_pct", [oneDigit 0]⟩]

def movedMembers : List Member :=
  [⟨some "y", [.null]⟩, ⟨some "errors", [oneDigit 2]⟩]

def twiceMembers : List Member :=
  [⟨some "errors", [oneDigit 2]⟩, ⟨some "x", Json.arrayTokens []⟩,
    ⟨some "errors", [oneDigit 2]⟩]

def fullText : List UInt8 :=
  ("\x7b\"errors\":2,\"x\":[\x7b\"errors\":9\x7d,\"\\ud800\"]," ++
    "\"abort_rate_pct\":0\x7d").toUTF8.data.toList

def movedText : List UInt8 :=
  " \x7b \"y\" : null,\"\\u0065rrors\":2\x7d\n".toUTF8.data.toList

def twiceText : List UInt8 :=
  "\x7b\"errors\":2,\"x\":[],\"\\u0065rrors\":2\x7d".toUTF8.data.toList

/-- An object, the same with members moved, added and removed, and one with a key that occurs
twice. -/
def variants : FileTree :=
  .holding
    [("full.json", .file fullText), ("moved.json", .file movedText),
      ("twice.json", .file twiceText)]

theorem fullText_isObjectText : IsObjectText fullMembers fullText := by
  refine ⟨List.forall_mem_cons.mpr ⟨.scalar rfl, List.forall_mem_cons.mpr
    ⟨.array (List.forall_mem_cons.mpr ⟨.object ?_, ?_⟩), ?_⟩⟩,
    (Json.lexes_iff _ _).mpr ⟨by decide +kernel, by decide⟩⟩
  · exact List.forall_mem_singleton.mpr (.scalar rfl)
  · exact List.forall_mem_singleton.mpr (.scalar rfl)
  · exact List.forall_mem_singleton.mpr (.scalar rfl)

theorem movedText_isObjectText : IsObjectText movedMembers movedText :=
  ⟨List.forall_mem_cons.mpr ⟨.scalar rfl, List.forall_mem_singleton.mpr (.scalar rfl)⟩,
    (Json.lexes_iff _ _).mpr ⟨by decide +kernel, by decide⟩⟩

theorem twiceText_isObjectText : IsObjectText twiceMembers twiceText :=
  ⟨List.forall_mem_cons.mpr ⟨.scalar rfl, List.forall_mem_cons.mpr
      ⟨.array fun _ among => absurd among List.not_mem_nil,
        List.forall_mem_singleton.mpr (.scalar rfl)⟩⟩,
    (Json.lexes_iff _ _).mpr ⟨by decide +kernel, by decide⟩⟩

theorem full_rearranged_moved : Rearranged fullMembers movedMembers := by
  have zero : readNumber (oneDigit 0) = .ok 0 := by decide +kernel
  have withoutUnknown : Rearranged fullMembers
      [⟨some "errors", [oneDigit 2]⟩, ⟨some "abort_rate_pct", [oneDigit 0]⟩] :=
    .removed [_] [_] ⟨"x", rfl, fun field => by cases field <;> decide⟩
  have withoutDefault : Rearranged
      [⟨some "errors", [oneDigit 2]⟩, ⟨some "abort_rate_pct", [oneDigit 0]⟩]
      [⟨some "errors", [oneDigit 2]⟩] :=
    .defaulted [_] [] ⟨.abortRate, rfl, oneDigit 0, rfl, zero⟩
  have withOther : Rearranged [⟨some "errors", [oneDigit 2]⟩]
      [⟨some "errors", [oneDigit 2]⟩, ⟨some "y", [.null]⟩] :=
    .inserted [_] [] ⟨"y", rfl, fun field => by cases field <;> decide⟩
  exact withoutUnknown.trans (withoutDefault.trans (withOther.trans (.permuted (.swap _ _ _))))

theorem variants_are_read_alike :
    let results : Results := { empty with errors := 2 }
    variants.find ⟨"full.json"⟩ = .ok (.file fullText) ∧
      variants.find ⟨"moved.json"⟩ = .ok (.file movedText) ∧
      variants.find ⟨"twice.json"⟩ = .ok (.file twiceText) ∧
      IsObjectText fullMembers fullText ∧ IsObjectText movedMembers movedText ∧
      IsObjectText twiceMembers twiceText ∧
      Rearranged fullMembers movedMembers ∧
      Means fullMembers results ∧
      variants.readResults ⟨"full.json"⟩ = .ok results ∧
      variants.readResults ⟨"moved.json"⟩ = .ok results ∧
      ∃ failure, variants.readResults ⟨"twice.json"⟩ = .error failure := by
  intro results
  have storedFull : variants.find ⟨"full.json"⟩ = .ok (.file fullText) := rfl
  have storedMoved : variants.find ⟨"moved.json"⟩ = .ok (.file movedText) := rfl
  have storedTwice : variants.find ⟨"twice.json"⟩ = .ok (.file twiceText) := rfl
  have read : variants.readResults ⟨"full.json"⟩ = .ok results := by decide +kernel
  obtain ⟨read_iff, onward, _⟩ := known_members_decide_what_is_read storedFull storedMoved
    fullText_isObjectText movedText_isObjectText
  obtain ⟨_, _, _, refused⟩ := known_members_decide_what_is_read storedTwice storedMoved
    twiceText_isObjectText movedText_isObjectText
  exact ⟨storedFull, storedMoved, storedTwice, fullText_isObjectText, movedText_isObjectText,
    twiceText_isObjectText, full_rearranged_moved, (read_iff results).mp read, read,
    onward results read full_rearranged_moved,
    refused .errors [] [_] [] _ _ rfl rfl rfl⟩

end LoadReport.Results
