/-! The states of an automaton, counted as they are made, and the limit on the bytes they take. -/
namespace SecureChannel.Regex.Automaton

/-- States are numbered from zero. Some take bytes beyond their own size. -/
structure Tally where
  states : Nat := 0
  extra : Nat := 0
deriving DecidableEq

/-- Ten mebibytes. -/
def maxBytes : Nat := 10 * 1024 * 1024

def Tally.bytes (t : Tally) : Nat := 32 * t.states + t.extra

/-- A step of building an automaton. It fails when the automaton has become too large. -/
abbrev Build := StateT Tally Option

namespace Build

/-- Makes states that take so many bytes more together. -/
def states (count extra : Nat) : Build Unit := fun t =>
  let t : Tally := ⟨t.states + count, t.extra + extra⟩
  if t.bytes ≤ maxBytes then some ((), t) else none

/-- Makes a state, and gives its number. -/
def state (extra : Nat) : Build Nat := do
  let t ← get
  states 1 extra
  return t.states

/-- The bytes for transitions from a state, one for each range of bytes. -/
def transitions (count : Nat) : Nat := 8 * count

/-- The bytes for the ways out of a state that takes no byte. -/
def ways (count : Nat) : Nat := 4 * count

/-- Takes a step so many times. -/
def turns (step : Build Unit) : Nat → Build Unit
  | 0 => pure ()
  | n + 1 => do
    step
    turns step n

def fits (build : Build Unit) : Bool := (build {}).isSome

end Build
end SecureChannel.Regex.Automaton
