/-! Finite sets of characters, as lists of inclusive ranges of code points. A range begins and ends
with a character, and may have surrogates, which are none, inside. -/
namespace SecureChannel

structure CharSet where
  ranges : List (Nat × Nat)
deriving DecidableEq

namespace CharSet

def empty : CharSet := ⟨[]⟩

def range (first last : Nat) : CharSet := ⟨[(first, last)]⟩

def single (c : Char) : CharSet := range c.toNat c.toNat

/-- The last code point. -/
def maxPoint : Nat := 0x10FFFF

/-- Every code point. -/
def all : CharSet := range 0 maxPoint

def contains (s : CharSet) (n : Nat) : Bool := s.ranges.any fun (a, b) => a ≤ n && n ≤ b

instance : Membership Char CharSet := ⟨fun s c => s.contains c.toNat = true⟩

instance (c : Char) (s : CharSet) : Decidable (c ∈ s) := inferInstanceAs (Decidable (_ = true))

/-- Ranges by their first members. -/
def sorted (ranges : List (Nat × Nat)) : List (Nat × Nat) :=
  ranges.mergeSort fun r s => r.1 ≤ s.1

/-- Joins ranges that meet or adjoin, where the first members go up. -/
def joinFrom (first last : Nat) : List (Nat × Nat) → List (Nat × Nat)
  | [] => [(first, last)]
  | (a, b) :: rest =>
    if a ≤ last + 1 then joinFrom first (max last b) rest else (first, last) :: joinFrom a b rest

def joined : List (Nat × Nat) → List (Nat × Nat)
  | [] => []
  | (a, b) :: rest => joinFrom a b rest

/-- Leaves out surrogates at both ends, and a range of nothing else. -/
def withinCharacters : Nat × Nat → Option (Nat × Nat)
  | (a, b) =>
    let a := if 0xD800 ≤ a ∧ a < 0xE000 then 0xE000 else a
    let b := if 0xD800 ≤ b ∧ b < 0xE000 then 0xD7FF else b
    if a ≤ b then some (a, b) else none

/-- The set of all that is in some range, by ranges in order that neither meet nor adjoin. -/
def ofRanges (ranges : List (Nat × Nat)) : CharSet :=
  ⟨(joined (sorted ranges)).filterMap withinCharacters⟩

def union (s t : CharSet) : CharSet := ofRanges (s.ranges ++ t.ranges)

instance : Union CharSet := ⟨union⟩

/-- What no range holds from a start on, where the first members go up. -/
def gaps (start : Nat) : List (Nat × Nat) → List (Nat × Nat)
  | [] => if start ≤ maxPoint then [(start, maxPoint)] else []
  | (a, b) :: rest =>
    let others := gaps (max start (b + 1)) rest
    if start < a then (start, a - 1) :: others else others

/-- A gap from the character after one range to the character before the next. Between the two
characters around the surrogates it holds both of them, since neither follows the other. -/
def gapCharacters : Nat × Nat → Nat × Nat
  | (a, b) =>
    let a := if a = 0xD800 then 0xE000 else a
    let b := if b = 0xDFFF then 0xD7FF else b
    (min a b, max a b)

def compl (s : CharSet) : CharSet := ⟨(gaps 0 (sorted s.ranges)).map gapCharacters⟩

/-- What no set leaves out. -/
private def remaining (gaps₁ gaps₂ : List (Nat × Nat)) : CharSet :=
  ⟨(gaps 0 (sorted (gaps₁ ++ gaps₂))).filterMap withinCharacters⟩

def inter (s t : CharSet) : CharSet :=
  remaining (gaps 0 (sorted s.ranges)) (gaps 0 (sorted t.ranges))

instance : Inter CharSet := ⟨inter⟩

def diff (s t : CharSet) : CharSet := remaining (gaps 0 (sorted s.ranges)) t.ranges

instance : SDiff CharSet := ⟨diff⟩

def symmDiff (s t : CharSet) : CharSet := (s \ t) ∪ (t \ s)

def isAscii (s : CharSet) : Bool := s.ranges.all fun (_, b) => b < 0x80

end CharSet
end SecureChannel
