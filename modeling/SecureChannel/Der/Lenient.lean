import SecureChannel.Der.Element

/-! Lenient reading of elements. Lengths need not be minimal, contents may be followed by anything,
and an element is known by its number alone, whatever its class. -/
namespace SecureChannel.Der.Lenient

/-- A tag number in base 128. Only so many bytes may belong to it, and 32 bits are kept. -/
def longNumber : Nat → Nat → Reader Nat
  | 0, _ => failure
  | left + 1, number => do
    let b ← Reader.byte
    let number := (number * 128 + b.toNat % 128) % UInt32.size
    if b < 0x80 then return number else longNumber left number

def tag : Reader Tag := do
  let b ← Reader.byte
  let low := b.toNat % 32
  let number ← if low = 31 then longNumber 5 0 else pure low
  return ⟨.ofByte b, b.toNat / 32 % 2 = 1, number⟩

/-- What stands before the content. Without a length, the content runs to a mark. -/
structure Header where
  tag : Tag
  length : Option Nat

/-- A length below `2^64`, or the byte that stands for an indefinite one. -/
def length : Reader (Option Nat) := do
  let b ← Reader.byte
  if b < 0x80 then return some b.toNat
  let count := b.toNat - 0x80
  if count = 0 then return none
  guard (count ≠ 127)
  let value := Bytes.toNat (← Reader.take count)
  guard (value < UInt64.size)
  return some value

def header : Reader Header := do return ⟨← tag, ← length⟩

/-- A header with a length. -/
def definite : Reader (Tag × Nat) := do
  let h ← header
  match h.length with
  | some n => return (h.tag, n)
  | none => failure

def element : Reader Element := do
  let (tag, n) ← definite
  return ⟨tag, ← Reader.take n⟩

/-- The content of an element with this number. -/
def numbered (number : Nat) : Reader Bytes := do
  let e ← element
  guard (e.tag.number = number)
  return e.content

/-- An element that is not constructed. -/
def primitive : Reader Element := do
  let e ← element
  guard (!e.tag.constructed)
  return e

/-- The content of an element with this number that is not constructed. -/
def plain (number : Nat) : Reader Bytes := do
  let e ← primitive
  guard (e.tag.number = number)
  return e.content

/-- The number of the element that marks the end of contents without a length. -/
def endMark : Nat := 0

/-- Skips the content that belongs to a header, and says whether it was the mark of an end.
Contents without a length are constructed, and may be nested only so deep. -/
def skipContent : (depth : Nat) → Header → Reader Bool
  | 0, _ => failure
  | depth + 1, h =>
    match h.length with
    | some n => do
      discard (Reader.take n)
      return n = 0 ∧ h.tag.number = endMark
    | none => do
      guard h.tag.constructed
      Reader.skipUntil do skipContent depth (← header)
      return false

/-- Contents without a length are nested no deeper than this. -/
def maxDepth : Nat := 50

/-- Skips an element with this number, whose content may do without a length. -/
def skipNumbered (number : Nat) : Reader Unit := do
  let h ← header
  discard (skipContent maxDepth h)
  guard (h.tag.number = number)

/-- Whether an element with this number comes next, as its header says; no if nothing is left. -/
def comesNext (number : Nat) : Reader Bool :=
  (Reader.finish *> pure false) <|> Reader.ahead do return (← definite).1.number == number

/-- The content of an element of the context class with this number. -/
def context (number : Nat) : Reader Bytes := do
  let e ← element
  guard (e.tag.tagClass = .context ∧ e.tag.number = number)
  return e.content

end SecureChannel.Der.Lenient
