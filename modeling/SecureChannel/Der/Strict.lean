import SecureChannel.Der.Element

/-! Strict reading of elements. Tags are single bytes, and lengths minimal. -/
namespace SecureChannel.Der.Strict

def boolean : UInt8 := 0x01
def integer : UInt8 := 0x02
def bitString : UInt8 := 0x03
def octetString : UInt8 := 0x04
def objectIdentifier : UInt8 := 0x06
def utcTime : UInt8 := 0x17
def generalizedTime : UInt8 := 0x18
def sequence : UInt8 := 0x30

/-- The tag of constructed elements of the context class. -/
def context (number : UInt8) : UInt8 := 0xA0 + number

/-- Contents are shorter than this. -/
def maxLength : Nat := 0xFFFF

/-- The shortest form of a length. -/
def length : Reader Nat := do
  let b ← Reader.byte
  if b < 0x80 then return b.toNat
  let count := b.toNat - 0x80
  guard (1 ≤ count ∧ count ≤ 2)
  let value := Bytes.toNat (← Reader.take count)
  guard ((if count = 1 then 0x80 else 0x100) ≤ value ∧ value < maxLength)
  return value

/-- A tag and the content after it. -/
def item : Reader (UInt8 × Bytes) := do
  let tag ← Reader.byte
  guard (tag.toNat % 32 ≠ 31)
  return (tag, ← Reader.take (← length))

/-- The content of an element with this tag. -/
def value (tag : UInt8) : Reader Bytes := do
  let (found, content) ← item
  guard (found = tag)
  return content

/-- The bytes of a number that is not negative, without a leading zero unless it is zero. -/
def natural : Reader Bytes := do
  match ← value integer with
  | [] => failure
  | [0] => return [0]
  | 0 :: b :: rest =>
    guard (0x80 ≤ b)
    return b :: rest
  | b :: rest =>
    guard (b < 0x80)
    return b :: rest

/-- The length in its shortest form, and the content, after the tag. -/
def encode (tag : UInt8) (content : Bytes) : Bytes :=
  let n := content.length
  tag :: (if n < 0x80 then [UInt8.ofNat n]
    else if n < 0x100 then [0x81, UInt8.ofNat n]
    else [0x82, UInt8.ofNat (n / 256), UInt8.ofNat n]) ++ content

end SecureChannel.Der.Strict
