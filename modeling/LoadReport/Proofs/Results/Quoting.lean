import LoadReport.Proofs.Json.Spelling
import LoadReport.Results.Writer

/-!
# Strings are read as they were written

A written character leaves parts in the scanner that stand for its bytes, whatever follows them. So the
parts of a written string stand for the bytes of its text, and these are a text.
-/

namespace LoadReport.Results

open Json (StringPart)
open Json.Scanner (Leads State IsAscii bytesOf advance advance_append)

/-- Parts that stand for the bytes of a text, whatever follows them. -/
def StandFor (parts : List StringPart) (text : List Char) : Prop :=
  ∀ rest, StringPart.bytes? (parts ++ rest) = (bytesOf text ++ ·) <$> StringPart.bytes? rest

theorem StandFor.nil : StandFor [] [] := by
  intro rest
  simp

theorem StandFor.append {first second : List StringPart} {text following : List Char}
    (stand : StandFor first text) (standToo : StandFor second following) :
    StandFor (first ++ second) (text ++ following) := by
  intro rest
  rw [List.append_assoc, stand, standToo]
  cases StringPart.bytes? rest <;> simp

theorem standFor_bytes (character : Char) :
    StandFor ((String.utf8EncodeChar character).map .byte) [character] := by
  intro rest
  have all : ∀ bytes : List UInt8, StringPart.bytes? (bytes.map .byte ++ rest) =
      (bytes ++ ·) <$> StringPart.bytes? rest := by
    intro bytes
    induction bytes with
    | nil => simp
    | cons byte others inductionHypothesis =>
      rw [List.map_cons, List.cons_append, StringPart.bytes?, inductionHypothesis]
      cases StringPart.bytes? rest <;> simp
  simpa [bytesOf] using all _

/-- A small number stands for a character by itself. -/
theorem standFor_unit {character : Char} (control : character.toNat < 0x20) :
    StandFor [.unit character.toNat] [character] := by
  have notLeading : StringPart.isLeading character.toNat = false := by
    simp [StringPart.isLeading]
    omega
  have notTrailing : StringPart.isTrailing character.toNat = false := by
    simp [StringPart.isTrailing]
    omega
  intro rest
  cases rest with
  | nil => simp [StringPart.bytes?, notLeading, notTrailing, bytesOf]
  | cons part others =>
    cases part <;>
      simp [StringPart.bytes?, notLeading, notTrailing, bytesOf, Function.comp_def]

/-! ## Characters -/

/-- A byte that a string may hold as it is. -/
def IsPlain (byte : UInt8) : Prop :=
  0x20 ≤ byte.toNat ∧ byte.toNat ≠ '"'.toNat ∧ byte.toNat ≠ '\\'.toNat

theorem advance_plain {bytes : List UInt8} (plain : ∀ byte ∈ bytes, IsPlain byte)
    (before : List StringPart) :
    advance (.string before) bytes = ([], .string ((bytes.map .byte).reverse ++ before)) := by
  induction bytes generalizing before with
  | nil => rfl
  | cons byte others inductionHypothesis =>
    obtain ⟨⟨large, notQuote, notBackslash⟩, others⟩ := List.forall_mem_cons.mp plain
    have notQuote : Char.ofUInt8 byte ≠ '"' := fun equal =>
      notQuote (by rw [← Json.Scanner.toNat_ofUInt8, equal])
    have notBackslash : Char.ofUInt8 byte ≠ '\\' := fun equal =>
      notBackslash (by rw [← Json.Scanner.toNat_ofUInt8, equal])
    have notControl : ¬byte < 0x20 := by
      rw [UInt8.not_lt, UInt8.le_iff_toNat_le]
      exact large
    simp [advance, Json.Scanner.step, notQuote, notBackslash, notControl,
      inductionHypothesis others]

theorem isPlain_ofNat {value : Nat} (bound : value < 256) (high : 0x80 ≤ value) :
    IsPlain (UInt8.ofNat value) := by
  rw [IsPlain, UInt8.toNat_ofNat_of_lt' bound]
  change _ ∧ value ≠ 34 ∧ value ≠ 92
  omega

/-- The bytes of a character with several are all high. -/
theorem isPlain_of_mem_utf8EncodeChar {character : Char} (large : 0x20 ≤ character.toNat)
    (notQuote : character ≠ '"') (notBackslash : character ≠ '\\') :
    ∀ byte ∈ String.utf8EncodeChar character, IsPlain byte := by
  rcases Nat.lt_or_ge character.toNat 128 with ascii | several
  · rw [Json.Scanner.utf8EncodeChar_of_ascii ascii, List.forall_mem_singleton, IsPlain,
      UInt8.toNat_ofNat_of_lt' (Nat.lt_trans ascii (by decide))]
    exact ⟨large, fun equal => notQuote (Char.toNat_inj.mp equal),
      fun equal => notBackslash (Char.toNat_inj.mp equal)⟩
  · have notSingle : ¬character.val.toNat ≤ 0x7f := Nat.not_le_of_lt several
    simp only [String.utf8EncodeChar, if_neg notSingle]
    split
    · simp only [List.forall_mem_cons]
      exact ⟨isPlain_ofNat (by omega) (by omega), isPlain_ofNat (by omega) (by omega), by simp⟩
    · split
      · simp only [List.forall_mem_cons]
        exact ⟨isPlain_ofNat (by omega) (by omega), isPlain_ofNat (by omega) (by omega),
          isPlain_ofNat (by omega) (by omega), by simp⟩
      · simp only [List.forall_mem_cons]
        exact ⟨isPlain_ofNat (by omega) (by omega), isPlain_ofNat (by omega) (by omega),
          isPlain_ofNat (by omega) (by omega), isPlain_ofNat (by omega) (by omega), by simp⟩

theorem hexadecimalValue?_digitChar : ∀ value < 16,
    Json.Scanner.hexadecimalValue? (Nat.digitChar value) = some value := by
  decide

theorem isAscii_digitChar : ∀ value < 16, IsAscii (Nat.digitChar value) := by
  decide

theorem advance_hexadecimal {digit : Nat} (bound : digit < 16) (before : List StringPart)
    (missing value : Nat) :
    advance (.hexadecimal before missing value) (bytesOf [Nat.digitChar digit]) =
      if missing ≤ 1 then ([], .string (.unit (value * 16 + digit) :: before))
      else ([], .hexadecimal before (missing - 1) (value * 16 + digit)) := by
  have ascii := isAscii_digitChar digit bound
  simp only [bytesOf, List.flatMap_cons, List.flatMap_nil, List.append_nil,
    Json.Scanner.utf8EncodeChar_of_ascii ascii, advance, Json.Scanner.step,
    Json.Scanner.ofUInt8_ofNat_toNat ascii, hexadecimalValue?_digitChar digit bound]

theorem leads_writeControl {character : Char} (control : character.toNat < 0x20)
    (before : List StringPart) :
    Leads (.string before) (writeControl character)
      (.string ([.unit character.toNat].reverse ++ before)) := by
  have opened : Leads (.string before) ['\\', 'u', '0', '0'] (.hexadecimal before 2 0) := rfl
  have high : Leads (.hexadecimal before 2 0) [Nat.digitChar (character.toNat / 16)]
      (.hexadecimal before 1 (character.toNat / 16)) := by
    rw [Leads, advance_hexadecimal (by omega)]
    simp
  have low : Leads (.hexadecimal before 1 (character.toNat / 16))
      [Nat.digitChar (character.toNat % 16)] (.string (.unit character.toNat :: before)) := by
    rw [Leads, advance_hexadecimal (Nat.mod_lt _ (by decide)), Nat.div_add_mod']
    rfl
  exact (opened.append high).append low

/-- What a written character leaves in the scanner stands for the character. -/
theorem exists_parts (character : Char) :
    ∃ parts, StandFor parts [character] ∧
      ∀ before, Leads (.string before) (writeCharacter character)
        (.string (parts.reverse ++ before)) := by
  unfold writeCharacter
  split
  next quote => subst quote; exact ⟨_, standFor_bytes _, fun _ => rfl⟩
  split
  next backslash => subst backslash; exact ⟨_, standFor_bytes _, fun _ => rfl⟩
  split
  next backspace => subst backspace; exact ⟨_, standFor_bytes _, fun _ => rfl⟩
  split
  next feed => subst feed; exact ⟨_, standFor_bytes _, fun _ => rfl⟩
  split
  next newline => subst newline; exact ⟨_, standFor_bytes _, fun _ => rfl⟩
  split
  next carriage => subst carriage; exact ⟨_, standFor_bytes _, fun _ => rfl⟩
  split
  next tab => subst tab; exact ⟨_, standFor_bytes _, fun _ => rfl⟩
  split
  next control => exact ⟨_, standFor_unit control, leads_writeControl control⟩
  next notQuote notBackslash _ _ _ _ _ large =>
    have plain := isPlain_of_mem_utf8EncodeChar (Nat.not_lt.mp large) notQuote notBackslash
    refine ⟨_, standFor_bytes character, fun before => ?_⟩
    have leads := advance_plain plain before
    simpa [Leads, bytesOf] using leads

/-! ## Texts -/

theorem exists_text_parts (text : List Char) :
    ∃ parts, StandFor parts text ∧
      ∀ before, Leads (.string before) (text.flatMap writeCharacter)
        (.string (parts.reverse ++ before)) := by
  induction text with
  | nil => exact ⟨[], StandFor.nil, fun before => Leads.nil _⟩
  | cons character rest inductionHypothesis =>
    obtain ⟨first, firstStands, firstLeads⟩ := exists_parts character
    obtain ⟨others, othersStand, othersLead⟩ := inductionHypothesis
    refine ⟨first ++ others, firstStands.append othersStand, fun before => ?_⟩
    rw [List.flatMap_cons, List.reverse_append, List.append_assoc]
    exact (firstLeads before).append (othersLead _)

theorem toByteArray_bytesOf (text : String) :
    (bytesOf text.toList).toByteArray = text.toByteArray :=
  String.utf8Encode_toList

theorem fromUTF8?_toByteArray (text : String) :
    String.fromUTF8? text.toByteArray = some text := by
  rw [String.fromUTF8?, dif_pos text.isValidUTF8]
  rfl

theorem text?_of_standFor {parts : List StringPart} {text : String}
    (stand : StandFor parts text.toList) : StringPart.text? parts = some text := by
  have bytes := stand []
  rw [List.append_nil] at bytes
  rw [StringPart.text?, bytes]
  simp [StringPart.bytes?, toByteArray_bytesOf, fromUTF8?_toByteArray]

/-- A written string is read as its text. -/
theorem advance_writeString (text : String) :
    advance .between (bytesOf (writeString text).toList) = ([.string (some text)], .between) := by
  obtain ⟨parts, stand, leads⟩ := exists_text_parts text.toList
  have opened : Leads .between ['"'] (.string []) := rfl
  have read := opened.append (leads [])
  rw [Leads, List.append_nil] at read
  have closing : ∀ reversed, advance (.string reversed) (bytesOf ['"']) =
      ([.string (StringPart.text? reversed.reverse)], .between) := fun _ => rfl
  have closed := closing (parts.reverse ++ [])
  rw [List.append_nil, List.reverse_reverse, text?_of_standFor stand] at closed
  have whole : (writeString text).toList =
      ['"'] ++ text.toList.flatMap writeCharacter ++ ['"'] := by
    simp [writeString]
  rw [whole, Json.Scanner.bytesOf_append, advance_append, read, closed]
  rfl

end LoadReport.Results
