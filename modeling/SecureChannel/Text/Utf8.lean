import SecureChannel.Bytes

/-! UTF-8: encoding, exact decoding, and decoding that replaces each maximal ill-formed part. -/
namespace SecureChannel.Utf8

def encode (text : List Char) : Bytes := text.flatMap String.utf8EncodeChar

/-- A character under construction: continuation bytes still owed, and the range of the next one. -/
structure Pending where
  owed : Nat
  low : UInt8
  high : UInt8
  value : Nat

/-- What a byte in first position stands for. -/
inductive Lead
  | complete (c : Char)
  | opens (p : Pending)
  | illFormed

/-- The ranges after `E0`, `ED`, `F0` and `F4` exclude overlong forms, surrogates and values past
`10FFFF`. -/
def lead (b : UInt8) : Lead :=
  let v := b.toNat
  if v < 0x80 then .complete (Char.ofNat v)
  else if v < 0xC2 then .illFormed
  else if v < 0xE0 then .opens ⟨1, 0x80, 0xBF, v % 32⟩
  else if v = 0xE0 then .opens ⟨2, 0xA0, 0xBF, 0⟩
  else if v = 0xED then .opens ⟨2, 0x80, 0x9F, v % 16⟩
  else if v < 0xF0 then .opens ⟨2, 0x80, 0xBF, v % 16⟩
  else if v = 0xF0 then .opens ⟨3, 0x90, 0xBF, 0⟩
  else if v < 0xF4 then .opens ⟨3, 0x80, 0xBF, v % 8⟩
  else if v = 0xF4 then .opens ⟨3, 0x80, 0x8F, v % 8⟩
  else .illFormed

/-- The characters of a byte string in order, with `none` for each maximal ill-formed part. -/
def scan : Option Pending → Bytes → List (Option Char)
  | none, [] => []
  | some _, [] => [none]
  | none, b :: rest =>
    match lead b with
    | .complete c => some c :: scan none rest
    | .opens p => scan (some p) rest
    | .illFormed => none :: scan none rest
  | some p, b :: rest =>
    if p.low ≤ b ∧ b ≤ p.high then
      let value := p.value * 64 + b.toNat % 64
      if p.owed ≤ 1 then some (Char.ofNat value) :: scan none rest
      else scan (some ⟨p.owed - 1, 0x80, 0xBF, value⟩) rest
    else
      none :: match lead b with
        | .complete c => some c :: scan none rest
        | .opens q => scan (some q) rest
        | .illFormed => none :: scan none rest

def decode? (bytes : Bytes) : Option (List Char) := (scan none bytes).mapM id

/-- Each maximal ill-formed part becomes one replacement character. -/
def decodeLossy (bytes : Bytes) : List Char := (scan none bytes).map (·.getD '\uFFFD')

end SecureChannel.Utf8

namespace SecureChannel.Bytes

def ofString (text : String) : Bytes := Utf8.encode text.toList

def toString? (bytes : Bytes) : Option String := (Utf8.decode? bytes).map String.ofList

def toStringLossy (bytes : Bytes) : String := String.ofList (Utf8.decodeLossy bytes)

end SecureChannel.Bytes
