import SecureChannel.Unicode.CharSet

/-! The UTF-8 encodings of a set of characters, as sequences of ranges of bytes. -/
namespace SecureChannel.Regex

/-- The first and the last of a range of bytes. -/
abbrev ByteRange := Nat × Nat

/-- Digits in base 64, each a range, that together spell the numbers from `a` to `b`. A number has
so many digits after its first one. -/
def digitRanges : Nat → Nat → Nat → List (List (Nat × Nat))
  | 0, a, b => [[(a, b)]]
  | more + 1, a, b =>
    let m := 1 <<< (6 * (more + 1))
    let under (digit a b : Nat) := (digitRanges more a b).map ((digit, digit) :: ·)
    if a / m = b / m then under (a / m) (a % m) (b % m)
    else
      let head := if a % m = 0 then [] else under (a / m) (a % m) (m - 1)
      let tail := if b % m = m - 1 then [] else under (b / m) 0 (b % m)
      let first := (a + m - 1) / m
      let last := (b + 1) / m - 1
      let middle :=
        if first ≤ last then [(first, last) :: List.replicate (more + 1) (0, 63)] else []
      head ++ middle ++ tail

/-- Characters whose encodings have the same length. -/
structure EncodingLength where
  first : Nat
  last : Nat
  /-- The number of bytes after the first. -/
  more : Nat
  /-- What the first byte has above its digit. -/
  lead : Nat

def encodingLengths : List EncodingLength :=
  [⟨0, 0x7F, 0, 0⟩, ⟨0x80, 0x7FF, 1, 0xC0⟩, ⟨0x800, 0xD7FF, 2, 0xE0⟩, ⟨0xE000, 0xFFFF, 2, 0xE0⟩,
    ⟨0x10000, 0x10FFFF, 3, 0xF0⟩]

namespace EncodingLength

def bytes (l : EncodingLength) : List (Nat × Nat) → List ByteRange
  | [] => []
  | (a, b) :: rest => (l.lead + a, l.lead + b) :: rest.map fun (a, b) => (0x80 + a, 0x80 + b)

def encodings (l : EncodingLength) (a b : Nat) : List (List ByteRange) :=
  let a := max a l.first
  let b := min b l.last
  if a ≤ b then (digitRanges l.more a b).map l.bytes else []

end EncodingLength

/-- From the shortest encodings to the longest, and from the least bytes to the greatest. -/
def encodings (s : CharSet) : List (List ByteRange) :=
  encodingLengths.flatMap fun l => s.ranges.flatMap fun (a, b) => l.encodings a b

end SecureChannel.Regex
