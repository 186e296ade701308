/-!
Contract: percent encoding of a text as one component of a link, and the way
back.

Owns:
- the unreserved bytes, `A-Z a-z 0-9 - _ . ~`;
- `encode`, which writes every other byte of the UTF-8 form as `%XX` with
  capital digits;
- `decode`, which reads such a component back.

Does not own: where in a link a component stands.
-/

namespace ReportIndex.Percent

/-- The bytes that stand for themselves. -/
def isUnreserved (byte : UInt8) : Bool :=
  (0x41 ≤ byte && byte ≤ 0x5A) || (0x61 ≤ byte && byte ≤ 0x7A)
    || (0x30 ≤ byte && byte ≤ 0x39)
    || byte == 0x2D || byte == 0x5F || byte == 0x2E || byte == 0x7E

/-- The capital hexadecimal digit of a value below sixteen. -/
def hexDigit (value : UInt8) : Char :=
  Char.ofNat ((if value < 10 then 0x30 + value else 0x37 + value).toNat)

/-- The value of a hexadecimal digit, capital or small. -/
def hexValue? (digit : Char) : Option UInt8 :=
  let code := digit.toNat
  if 0x30 ≤ code ∧ code ≤ 0x39 then some (code - 0x30).toUInt8
  else if 0x41 ≤ code ∧ code ≤ 0x46 then some (code - 0x37).toUInt8
  else if 0x61 ≤ code ∧ code ≤ 0x66 then some (code - 0x57).toUInt8
  else none

/-- The written form of one byte. -/
def encodeByte (byte : UInt8) : List Char :=
  if isUnreserved byte then [Char.ofNat byte.toNat]
  else ['%', hexDigit (byte >>> 4), hexDigit (byte &&& 0xF)]

/-- The written form of a sequence of bytes. -/
def encodeBytes (bytes : List UInt8) : List Char :=
  bytes.flatMap encodeByte

/-- The component that stands for `text`. -/
def encode (text : String) : List Char :=
  encodeBytes text.toUTF8.data.toList

/-- The bytes that a component stands for.

A component holds unreserved characters and triples `%XX` only. -/
def decodeBytes : List Char → Option (List UInt8)
  | [] => some []
  | '%' :: high :: low :: rest =>
      match hexValue? high, hexValue? low, decodeBytes rest with
      | some highValue, some lowValue, some bytes => some ((highValue <<< 4 ||| lowValue) :: bytes)
      | _, _, _ => none
  | character :: rest =>
      if character.toNat < 0x80 && isUnreserved character.toNat.toUInt8 then
        (decodeBytes rest).map (character.toNat.toUInt8 :: ·)
      else none

/-- The text that a component stands for, if its bytes are UTF-8. -/
def decode (component : List Char) : Option String :=
  (decodeBytes component).bind fun bytes => String.fromUTF8? ⟨bytes.toArray⟩

end ReportIndex.Percent
