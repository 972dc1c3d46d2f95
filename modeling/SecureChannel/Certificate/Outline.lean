import SecureChannel.Certificate.AltName
import SecureChannel.Der.Lenient
import SecureChannel.Text.Utf8
import SecureChannel.Time.Written

/-! Certificates read leniently, no further than finding their names requires. -/
namespace SecureChannel.Outline

open Der Der.Lenient

/-- Why the names of a certificate cannot be read. -/
inductive Fault
  | certificate
  | duplicateNames
  | names
deriving DecidableEq

/-- An extension, by its identifier and the bytes of its value. -/
structure Extension where
  oid : Oid
  value : Bytes
deriving DecidableEq

def boolean : Nat := 1
def integer : Nat := 2
def bitString : Nat := 3
def octetString : Nat := 4
def sequence : Nat := 16
def utcTime : Nat := 23
def generalizedTime : Nat := 24

/-- What stands inside a sequence; nothing is said of what follows the last item read. -/
def insideSequence {α : Type} (reader : Reader α) : Reader α := do
  Reader.within reader (← numbered sequence)

/-- How many low bits of a byte are zero. -/
def zeroBits (b : UInt8) : Nat :=
  ((List.range 8).find? b.toNat.testBit).getD 8

/-- The unused bits at the end are zero. -/
def isBitString : Bytes → Bool
  | [] => false
  | unused :: data =>
    match data.getLast? with
    | none => unused = 0
    | some last => unused.toNat ≤ zeroBits last

def bits : Reader Unit := do guard (isBitString (← plain bitString))

/-- An object identifier, which any element can be that is not constructed. -/
def identifier : Reader Oid := do return (← primitive).content

/-- Parameters are an element of any kind. -/
def algorithm : Reader Unit := insideSequence do
  discard identifier
  Reader.finish <|> discard element

def distinguishedName : Reader Unit := discard (numbered sequence)

/-- A minimal number of at most 32 bits, without sign. -/
def isVersion (bytes : Bytes) : Bool :=
  match bytes with
  | [] => false
  | [b] => b < 0x80
  | 0 :: b :: _ => 0x80 ≤ b && bytes.length ≤ 5
  | b :: _ => b < 0x80 && bytes.length ≤ 4

/-- Where another element comes first there is no version, but that element must be complete. -/
def version : Reader Unit := do
  if ← comesNext 0 then
    let number ← Reader.within (plain integer) (← context 0)
    guard (isVersion number)
  else Reader.finish <|> Reader.ahead (discard element)

def serialNumber : Reader Unit := skipNumbered integer

def time : Reader CalendarTime := do
  let e ← element
  if e.tag.number = utcTime then Reader.within CalendarTime.lenientShort e.content
  else
    guard (e.tag.number = generalizedTime)
    Reader.within CalendarTime.lenientLong e.content

def validity : Reader Unit := insideSequence do
  discard time
  discard time

def publicKey : Reader Unit := insideSequence do
  algorithm
  bits

/-- An identifier of the issuer or the subject has at least one byte. -/
def uniqueId (number : Nat) : Reader Unit := do
  if ← comesNext number then guard ((← context number) ≠ [])

/-- The flag for critical extensions is skipped, whatever its value; what follows the value of the
extension is not looked at. -/
def extension : Reader Extension := insideSequence do
  let oid ← identifier
  discard (Reader.optional do guard ((← numbered boolean).length = 1))
  return ⟨oid, ← plain octetString⟩

/-- All that is left. The length that stands before the sequence of extensions does not count. -/
def extensions : Reader (List Extension) := fun input =>
  if input.isEmpty then some ([], [])
  else do
    let ((tag, _), rest) ← definite input
    guard (tag.number = 3)
    let items ← Reader.filling (numbered sequence) rest
    Reader.many extension items

def body : Reader (List Extension) := insideSequence do
  version
  serialNumber
  algorithm
  distinguishedName
  validity
  distinguishedName
  publicKey
  uniqueId 1
  uniqueId 2
  extensions

/-- The extensions of a certificate. -/
def extensions? (certificate : Bytes) : Option (List Extension) :=
  Reader.within (insideSequence do
    let found ← body
    algorithm
    bits
    return found) certificate

/-- The identifier of the extension for names. -/
def altNamesOid : Oid := [0x55, 0x1D, 0x11]

def altName : Reader AltName := do
  let e ← element
  guard (e.tag.tagClass = .context)
  match e.tag.number with
  | 0 =>
    discard (Reader.within identifier e.content)
    return .ineligible .otherName
  | 1 =>
    guard (Bytes.toString? e.content).isSome
    return .ineligible .email
  | 2 => return .dns (← Bytes.toString? e.content)
  | 3 | 5 => return .ineligible .unknown
  | 4 =>
    let _ ← Reader.filling distinguishedName e.content
    return .ineligible .directory
  | 6 => return .uri (← Bytes.toString? e.content)
  | 7 => return .ofAddressBytes e.content
  | 8 => return .ineligible .registeredId
  | _ => failure

/-- The names in the value of their extension, all of which must be well formed. -/
def altNames? (value : Bytes) : Option (List AltName) :=
  Reader.within (insideSequence (Reader.many altName)) value

end Outline

/-- The names of a certificate, in its order; none without the extension for them. -/
def altNames (certificate : Bytes) : Except Outline.Fault (List AltName) :=
  match Outline.extensions? certificate with
  | none => .error .certificate
  | some extensions =>
    match extensions.filter (·.oid = Outline.altNamesOid) with
    | [] => .ok []
    | [found] =>
      match Outline.altNames? found.value with
      | none => .error .names
      | some names => .ok names
    | _ => .error .duplicateNames

end SecureChannel
