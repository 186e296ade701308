import ReportIndex.Percent

/-!
Contract: percent encoding can be read back.

Owns:
- the characters that an encoded component is written with, and its form;
- decoding an encoded text gives the text, so that different texts have different
  components.

Does not own: where in a link a component stands.
-/

namespace ReportIndex.Percent

/-! ## Single bytes -/

/-- A character of a component: unreserved, or the sign that announces two digits. -/
def isComponentCharacter (character : Char) : Bool :=
  character == '%' || (character.toNat < 0x80 && isUnreserved character.toNat.toUInt8)

/-- The unreserved bytes are ASCII, and the percent sign is not one of them. -/
theorem lt_of_isUnreserved
    {byte : UInt8}
    (unreserved : isUnreserved byte = true) :
    byte.toNat < 0x80 ∧ byte.toNat ≠ 0x25 := by
  simp only [isUnreserved, Bool.or_eq_true, Bool.and_eq_true, decide_eq_true_eq, beq_iff_eq,
    UInt8.le_iff_toNat_le, ← UInt8.toNat_inj, UInt8.reduceToNat] at unreserved
  omega

theorem toNat_ofNat_byte (byte : UInt8) : (Char.ofNat byte.toNat).toNat = byte.toNat := by
  have small := byte.toNat_lt
  have valid : byte.toNat.isValidChar := by
    left
    omega
  rw [Char.ofNat, dif_pos valid]
  rfl

/-- A digit has the value that it was made from. -/
theorem hexValue?_hexDigit
    {value : UInt8}
    (small : value.toNat < 16) :
    hexValue? (hexDigit value) = some value := by
  have digits : ∀ number < 16,
      hexValue? (hexDigit (UInt8.ofNat number)) = some (UInt8.ofNat number) := by
    decide
  have digit := digits value.toNat small
  rwa [UInt8.ofNat_toNat] at digit

/-- Digits are unreserved. -/
theorem isComponentCharacter_hexDigit
    {value : UInt8}
    (small : value.toNat < 16) :
    isComponentCharacter (hexDigit value) = true := by
  have digits : ∀ number < 16, isComponentCharacter (hexDigit (UInt8.ofNat number)) = true := by
    decide
  have digit := digits value.toNat small
  rwa [UInt8.ofNat_toNat] at digit

/-- The halves of a byte have sixteen values. -/
theorem toNat_halves (byte : UInt8) : (byte >>> 4).toNat < 16 ∧ (byte &&& 0xF).toNat < 16 := by
  have small := byte.toNat_lt
  constructor
  · rw [UInt8.toNat_shiftRight, Nat.shiftRight_eq_div_pow]
    simp
    omega
  · rw [UInt8.toNat_and]
    exact Nat.lt_succ_of_le Nat.and_le_right

/-- The halves of a byte give the byte. -/
theorem halves (byte : UInt8) : (byte >>> 4) <<< 4 ||| (byte &&& 0xF) = byte := by
  have all : ∀ bits : BitVec 8, (bits >>> 4) <<< 4 ||| (bits &&& 0xF) = bits := by
    decide +kernel
  exact UInt8.toBitVec_inj.mp (all byte.toBitVec)

theorem isComponentCharacter_of_mem_encodeByte
    {byte : UInt8}
    {character : Char}
    (member : character ∈ encodeByte byte) :
    isComponentCharacter character = true := by
  rw [encodeByte] at member
  split at member
  next unreserved =>
    rw [List.mem_singleton] at member
    subst member
    rw [isComponentCharacter, toNat_ofNat_byte]
    simp [unreserved, (lt_of_isUnreserved unreserved).1]
  next =>
    obtain ⟨high, low⟩ := toNat_halves byte
    simp only [List.mem_cons, List.not_mem_nil, or_false] at member
    rcases member with rfl | rfl | rfl
    · rfl
    · exact isComponentCharacter_hexDigit high
    · exact isComponentCharacter_hexDigit low

theorem decodeBytes_encodeByte_append
    (byte : UInt8)
    (rest : List Char) :
    decodeBytes (encodeByte byte ++ rest) = (decodeBytes rest).map (byte :: ·) := by
  rw [encodeByte]
  split
  next unreserved =>
    obtain ⟨ascii, notPercent⟩ := lt_of_isUnreserved unreserved
    rw [List.singleton_append, decodeBytes, toNat_ofNat_byte]
    · simp [unreserved, ascii]
    · intro high low others same
      have percent := congrArg Char.toNat same
      rw [toNat_ofNat_byte] at percent
      exact absurd percent notPercent
  next =>
    obtain ⟨high, low⟩ := toNat_halves byte
    simp only [List.cons_append, List.nil_append]
    rw [decodeBytes, hexValue?_hexDigit high, hexValue?_hexDigit low]
    cases decodeBytes rest with
    | none => rfl
    | some bytes => simp [halves]

/-- The form of a component: unreserved characters, and triples of a percent sign and
two capital hexadecimal digits. -/
inductive IsComponent : List Char → Prop where
  | nil : IsComponent []
  | unreserved
      {character : Char}
      {rest : List Char}
      (ascii : character.toNat < 0x80)
      (stands : isUnreserved character.toNat.toUInt8 = true)
      (component : IsComponent rest) :
      IsComponent (character :: rest)
  | triple
      {high low : UInt8}
      {rest : List Char}
      (highSmall : high.toNat < 16)
      (lowSmall : low.toNat < 16)
      (component : IsComponent rest) :
      IsComponent ('%' :: hexDigit high :: hexDigit low :: rest)

theorem isComponent_encodeByte_append
    (byte : UInt8)
    {rest : List Char}
    (component : IsComponent rest) :
    IsComponent (encodeByte byte ++ rest) := by
  rw [encodeByte]
  split
  next unreserved =>
    refine .unreserved ?_ ?_ component
    · rw [toNat_ofNat_byte]
      exact (lt_of_isUnreserved unreserved).1
    · simpa [toNat_ofNat_byte] using unreserved
  next =>
    obtain ⟨high, low⟩ := toNat_halves byte
    exact .triple high low component

/-! ## Texts -/

theorem isComponent_encodeBytes (bytes : List UInt8) : IsComponent (encodeBytes bytes) := by
  induction bytes with
  | nil => exact .nil
  | cons byte bytes inductionHypothesis =>
      rw [encodeBytes, List.flatMap_cons, ← encodeBytes]
      exact isComponent_encodeByte_append byte inductionHypothesis

theorem isComponent_encode (text : String) : IsComponent (encode text) :=
  isComponent_encodeBytes text.toUTF8.data.toList

theorem decodeBytes_encodeBytes (bytes : List UInt8) : decodeBytes (encodeBytes bytes) = some bytes := by
  induction bytes with
  | nil => rfl
  | cons byte bytes inductionHypothesis =>
      rw [encodeBytes, List.flatMap_cons, decodeBytes_encodeByte_append, ← encodeBytes,
        inductionHypothesis, Option.map_some]

/-- **An encoded text is read back.** -/
theorem decode_encode (text : String) : decode (encode text) = some text := by
  have bytes : (⟨text.toUTF8.data.toList.toArray⟩ : ByteArray) = text.toUTF8 := rfl
  rw [decode, encode, decodeBytes_encodeBytes, Option.bind_some, bytes]
  simp [String.fromUTF8?, String.fromUTF8, text.isValidUTF8]

theorem encode_injective {first second : String} (same : encode first = encode second) :
    first = second := by
  have read := congrArg decode same
  rwa [decode_encode, decode_encode, Option.some.injEq] at read

@[simp]
theorem encode_eq_nil_iff (text : String) : encode text = [] ↔ text = "" :=
  ⟨fun empty => @encode_injective text "" empty, fun empty => by rw [empty]; rfl⟩

theorem isComponentCharacter_of_mem_encode
    {text : String}
    {character : Char}
    (member : character ∈ encode text) :
    isComponentCharacter character = true := by
  obtain ⟨byte, _, written⟩ := List.mem_flatMap.mp member
  exact isComponentCharacter_of_mem_encodeByte written

/-- No component holds a character that has a meaning in a link. -/
theorem not_mem_encode
    {character : Char}
    (reserved : isComponentCharacter character = false)
    (text : String) :
    character ∉ encode text := by
  intro member
  rw [isComponentCharacter_of_mem_encode member] at reserved
  cases reserved

end ReportIndex.Percent
