import SecureChannel.Regex.Automaton.Cache
import SecureChannel.Regex.Automaton.Tally
import SecureChannel.Regex.Encoding

/-! States that read one character of a set, byte by byte. -/
namespace SecureChannel.Regex.Automaton

/-- Whether the automaton reads a text from its start or from its end. -/
inductive Direction
  | forward | backward
deriving DecidableEq

/-- A step that can find states made before it. -/
abbrev Sharing := StateT Cache Build

/-- The state with the key, which is made only if it is not found. -/
def shared (key : List Nat) (extra : Nat) : Sharing Nat := do
  match (← get).find? key with
  | some id => return id
  | none => do
    let id ← Build.state extra
    modify (·.insert key id)
    return id

/-- Sequences that follow one another and begin with the same range, together without it. -/
def byFirst : List (List ByteRange) → List (ByteRange × List (List ByteRange))
  | [] => []
  | [] :: rest => byFirst rest
  | (r :: bytes) :: rest =>
    match byFirst rest with
    | (r', group) :: groups =>
      if r = r' then (r, bytes :: group) :: groups else (r, [bytes]) :: (r', group) :: groups
    | [] => [(r, [bytes])]

/-- A state that reads one of the sequences, after the states it leads to. States that do the same
are shared. The sequences have so many bytes at most. -/
def forwardFrom (target : Nat) : Nat → List (List ByteRange) → Sharing Nat
  | 0, _ => return target
  | bytes + 1, sequences => do
    let groups := byFirst sequences
    if groups.isEmpty then return target
    else do
      let key ← groups.mapM fun ((a, b), rest) => do
        return [a, b, ← forwardFrom target bytes rest]
      shared key.flatten (Build.transitions groups.length)

/-- The states for one sequence, from its first byte, which is read last. -/
def backwardFrom (target : Nat) : List ByteRange → Sharing Nat
  | [] => return target
  | (a, b) :: rest => do
    let next ← shared [target, a, b] 0
    backwardFrom next rest

/-- Reading forward, the states make a tree whose ends are joined. -/
def forwardChars (s : CharSet) : Build Unit := do
  let target ← Build.state 0
  discard <| (forwardFrom target 4 (encodings s)).run (.ofSlots 10000)

/-- Reading backward, each sequence is a way of its own, up to where it meets another. -/
def backwardChars (s : CharSet) : Build Unit := do
  let sequences := encodings s
  discard <| Build.state (Build.ways sequences.length)
  let target ← Build.state 0
  discard <| (sequences.forM fun bytes => discard <| backwardFrom target bytes).run (.ofSlots 1000)

/-- A set of ASCII needs two states. -/
def chars (d : Direction) (s : CharSet) : Build Unit :=
  if s.isAscii then Build.states 2 (Build.transitions s.ranges.length)
  else match d with
    | .forward => forwardChars s
    | .backward => backwardChars s

end SecureChannel.Regex.Automaton
