import SecureChannel.Bytes

/-! Base64 with the standard alphabet. Padding may be there, or not, or only in part. -/
namespace SecureChannel.Base64

/-- Offsets count from the start of the text. -/
inductive Fault
  | symbol (byte : UInt8) (offset : Nat)
  | lastSymbol (byte : UInt8) (offset : Nat)
  | length (symbols : Nat)
deriving DecidableEq

def Fault.message : Fault → String
  | .symbol byte offset =>
    "Invalid symbol " ++ toString byte.toNat ++ ", offset " ++ toString offset ++ "."
  | .lastSymbol byte offset =>
    "Invalid last symbol " ++ toString byte.toNat ++ ", offset " ++ toString offset ++ "."
  | .length symbols => "Invalid input length: " ++ toString symbols

def padding : UInt8 := 0x3D

/-- The six bits that a symbol stands for. -/
def value? (b : UInt8) : Option Nat :=
  if Bytes.isUpper b then some (b.toNat - 0x41)
  else if Bytes.isLower b then some (b.toNat - 0x61 + 26)
  else if Bytes.isDigit b then some (b.toNat - 0x30 + 52)
  else if b = 0x2B then some 62
  else if b = 0x2F then some 63
  else none

/-- The symbol for six bits. -/
def symbol (v : Nat) : UInt8 :=
  UInt8.ofNat (if v < 26 then 0x41 + v else if v < 52 then 0x61 + (v - 26)
    else if v < 62 then 0x30 + (v - 52) else if v = 62 then 0x2B else 0x2F)

/-- Bytes as groups of six bits, filled up with zeros. -/
def pack : Bytes → List Nat
  | a :: b :: c :: rest =>
    a.toNat / 4 :: (a.toNat % 4 * 16 + b.toNat / 16) :: (b.toNat % 16 * 4 + c.toNat / 64) ::
      c.toNat % 64 :: pack rest
  | [a, b] => [a.toNat / 4, a.toNat % 4 * 16 + b.toNat / 16, b.toNat % 16 * 4]
  | [a] => [a.toNat / 4, a.toNat % 4 * 16]
  | [] => []

/-- The text of bytes, without padding. -/
def encode (bytes : Bytes) : Bytes := (pack bytes).map symbol

/-- The bytes in groups of four symbols; two or three symbols at the end leave some bits over. -/
def unpack : List Nat → Bytes
  | a :: b :: c :: d :: rest =>
    UInt8.ofNat (a * 4 + b / 16) :: UInt8.ofNat (b % 16 * 16 + c / 4) ::
      UInt8.ofNat (c % 4 * 64 + d) :: unpack rest
  | [a, b, c] => [UInt8.ofNat (a * 4 + b / 16), UInt8.ofNat (b % 16 * 16 + c / 4)]
  | [a, b] => [UInt8.ofNat (a * 4 + b / 16)]
  | _ => []

/-- The values of symbols, the first of which stands at the offset. -/
def symbols (offset : Nat) : Bytes → Except Fault (List Nat)
  | [] => .ok []
  | b :: rest =>
    match value? b with
    | none => .error (.symbol b offset)
    | some v => do return v :: (← symbols (offset + 1) rest)

/-- The part of a last symbol that no byte takes up, by the number of symbols in its group. -/
def leftover (count v : Nat) : Nat :=
  match count with
  | 2 => v % 16
  | 3 => v % 4
  | _ => 0

/-- The last one to four bytes, where padding may follow two symbols. -/
def lastGroup (offset : Nat) (group : Bytes) : Except Fault (List Nat) := do
  let data := group.takeWhile (· ≠ padding)
  let rest := group.dropWhile (· ≠ padding)
  let values ← symbols offset data
  if rest ≠ [] ∧ (data.length < 2 ∨ rest.any (· ≠ padding)) then
    throw (.symbol padding (offset + data.length))
  if group ≠ [] ∧ data.length < 2 then throw (.length (offset + data.length))
  match data.getLast?, values.getLast? with
  | some b, some v =>
    if leftover data.length v ≠ 0 then throw (.lastSymbol b (offset + data.length - 1))
    return values
  | _, _ => return values

/-- A stray byte that makes the length impossible is reported before all else. -/
def strayEnd (text : Bytes) : Except Fault Unit :=
  match text.getLast? with
  | none => .ok ()
  | some b =>
    if text.length % 4 = 1 ∧ b ≠ padding ∧ (value? b).isNone then
      .error (.symbol b (text.length - 1))
    else .ok ()

def decode (text : Bytes) : Except Fault Bytes := do
  strayEnd text
  let start := (text.length - 1) / 4 * 4
  let front ← symbols 0 (text.take start)
  return unpack (front ++ (← lastGroup start (text.drop start)))

end SecureChannel.Base64
