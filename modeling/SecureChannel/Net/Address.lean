import SecureChannel.Bytes
import SecureChannel.Text.Split

/-! Internet addresses and their canonical text. -/
namespace SecureChannel

/-- Four bytes, or sixteen. -/
structure IpAddress where
  bytes : Bytes
  length_bytes : bytes.length = 4 ∨ bytes.length = 16
deriving DecidableEq

namespace IpAddress

def ofBytes? (bytes : Bytes) : Option IpAddress :=
  if h : bytes.length = 4 ∨ bytes.length = 16 then some ⟨bytes, h⟩ else none

/-- Decimal bytes between points. -/
def dotted (bytes : Bytes) : String := ".".intercalate (bytes.map fun b => toString b.toNat)

/-- The sixteen-bit groups of an address. -/
def groups : Bytes → List Nat
  | high :: low :: rest => (256 * high.toNat + low.toNat) :: groups rest
  | _ => []

/-- Hexadecimal groups between colons, without leading zeros. -/
def colons (numbers : List Nat) : String :=
  ":".intercalate (numbers.map fun n => String.ofList (Nat.toDigits 16 n))

/-- Start and length of the longest run of zeros, the leftmost of equals. -/
def longestZeros : List Nat → Nat × Nat
  | [] => (0, 0)
  | n :: rest =>
    let here := ((n :: rest).takeWhile (· == 0)).length
    let (start, length) := longestZeros rest
    if length ≤ here then (0, here) else (start + 1, length)

/-- A run of at least two zero groups is left out; an address that maps a four-byte one ends with
that one's text. -/
def display (address : IpAddress) : String :=
  if address.bytes.length = 4 then dotted address.bytes
  else if List.replicate 10 0 ++ [0xFF, 0xFF] <+: address.bytes then
    "::ffff:" ++ dotted (address.bytes.drop 12)
  else
    let numbers := groups address.bytes
    let (start, length) := longestZeros numbers
    if length < 2 then colons numbers
    else colons (numbers.take start) ++ "::" ++ colons (numbers.drop (start + length))

def decimalByte? (digits : List Char) : Option UInt8 :=
  let value := digits.foldl (fun n d => 10 * n + (d.toNat - 0x30)) 0
  if digits ≠ [] ∧ digits.length ≤ 3 ∧ digits.all Char.isDigit ∧ value < 256 ∧
      (digits.head? = some '0' → digits.length = 1) then
    some (UInt8.ofNat value)
  else none

/-- Four decimal numbers without leading zeros. -/
def dotted? (text : List Char) : Option Bytes := do
  let bytes ← (text.splitOn '.').mapM decimalByte?
  if bytes.length = 4 then some bytes else none

def group? (digits : List Char) : Option Bytes := do
  let values ← digits.mapM Bytes.hexValue?
  let value := values.foldl (fun n d => 16 * n + d) 0
  if digits ≠ [] ∧ digits.length ≤ 4 then
    some [UInt8.ofNat (value / 256), UInt8.ofNat (value % 256)]
  else none

/-- The last piece may be a dotted address. -/
def pieceBytes? : List (List Char) → Option Bytes
  | [] => some []
  | [last] => group? last <|> dotted? last
  | piece :: rest => do return (← group? piece) ++ (← pieceBytes? rest)

/-- No text is no bytes. -/
def colonBytes? (text : List Char) : Option Bytes :=
  if text.isEmpty then some [] else pieceBytes? (text.splitOn ':')

/-- A double colon stands for at least one group of zeros, and a dotted end never precedes it. -/
def colons? (text : List Char) : Option Bytes :=
  match cut? [':', ':'] text with
  | none => do
    let bytes ← colonBytes? text
    if bytes.length = 16 then some bytes else none
  | some (before, after) => do
    let front ← colonBytes? before
    let back ← colonBytes? after
    if front.length + back.length ≤ 14 ∧ '.' ∉ before then
      some (front ++ List.replicate (16 - front.length - back.length) 0 ++ back)
    else none

def parse? (text : String) : Option IpAddress :=
  (dotted? text.toList <|> colons? text.toList) >>= ofBytes?

end IpAddress
end SecureChannel
