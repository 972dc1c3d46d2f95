import SecureChannel.Der.Strict
import SecureChannel.Path.Error

/-! Readers that say why they refuse. -/
namespace SecureChannel.Path

abbrev Parser := StateT Bytes (Except PathError)

namespace Parser

/-- What a plain reader refuses is badly encoded. -/
def ofReader {α : Type} (reader : Reader α) : Parser α := fun input =>
  match reader input with
  | some found => .ok found
  | none => .error .badEncoding

def element (tag : UInt8) : Parser Bytes := ofReader (Der.Strict.value tag)

def atEnd : Parser Bool := fun input => .ok (input.isEmpty, input)

/-- The tag comes next. -/
def isNext (tag : UInt8) : Parser Bool := fun input => .ok (input.head? = some tag, input)

/-- Runs on some bytes and must use them all. -/
def filling {α : Type} (leftover : PathError) (parser : Parser α) (input : Bytes) :
    Except PathError α := do
  let (a, rest) ← parser input
  if rest.isEmpty then return a else throw leftover

/-- The content of an element; one fault for a missing element and for content left over. -/
def nested {α : Type} (tag : UInt8) (fault : PathError) (parser : Parser α) : Parser α :=
  fun input =>
    match Der.Strict.value tag input with
    | none => .error fault
    | some (content, rest) => do return (← filling fault parser content, rest)

/-- A flag that is absent when it is not set. -/
def flag : Parser Bool := do
  if ← isNext Der.Strict.boolean then
    nested Der.Strict.boolean .trailingData do
      match ← ofReader Reader.byte with
      | 0xFF => return true
      | 0x00 => return false
      | _ => throw .badEncoding
  else return false

/-- A number of one byte. -/
def smallNatural : Parser Nat := do
  match ← ofReader Der.Strict.natural with
  | [b] => return b.toNat
  | _ => throw .badEncoding

/-- Whole bytes in a string of bits. -/
def bytesOfBits : Parser Bytes :=
  nested Der.Strict.bitString .trailingData fun input =>
    match input with
    | 0 :: rest => .ok (rest, [])
    | _ => .error .badEncoding

end Parser
end SecureChannel.Path
