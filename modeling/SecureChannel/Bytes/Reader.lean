import SecureChannel.Bytes

/-! Readers of byte strings: each takes an item off the front, or refuses. -/
namespace SecureChannel

abbrev Reader := StateT Bytes Option

namespace Reader

/-- The next bytes, if there are that many. -/
def take (count : Nat) : Reader Bytes := fun input =>
  if count ≤ input.length then some (input.take count, input.drop count) else none

def byte : Reader UInt8
  | [] => none
  | b :: rest => some (b, rest)

/-- The next byte is this one. -/
def symbol (expected : UInt8) : Reader Unit := do guard ((← byte) = expected)

/-- Nothing is left. -/
def finish : Reader Unit := fun input => if input.isEmpty then some ((), []) else none

/-- Leaves the input alone where the item is refused. -/
def optional {α : Type} (reader : Reader α) : Reader (Option α) := fun input =>
  match reader input with
  | some (a, rest) => some (some a, rest)
  | none => some (none, input)

/-- Leaves the input where it was. -/
def ahead {α : Type} (reader : Reader α) : Reader α := fun input =>
  (reader input).map fun (a, _) => (a, input)

private def repeated {α : Type} (reader : Reader α) : Nat → Bytes → Option (List α)
  | _, [] => some []
  | 0, _ :: _ => none
  | fuel + 1, input => do
    let (a, rest) ← reader input
    return a :: (← repeated reader fuel rest)

/-- Items until nothing is left. Each takes at least a byte, so the length bounds their number. -/
def many {α : Type} (reader : Reader α) : Reader (List α) := fun input =>
  (repeated reader input.length input).map (·, [])

private def skipping (reader : Reader Bool) : Nat → Reader Unit
  | 0 => failure
  | fuel + 1 => do
    if ← reader then return
    skipping reader fuel

/-- Skips items up to one that answers yes. Each takes at least a byte, so the length bounds their
number. -/
def skipUntil (reader : Reader Bool) : Reader Unit := fun input =>
  skipping reader input.length input

/-- Runs on some bytes; what is left over is dropped. -/
def within {α : Type} (reader : Reader α) (input : Bytes) : Option α :=
  (reader input).map (·.1)

/-- Runs on some bytes and must use them all. -/
def filling {α : Type} (reader : Reader α) (input : Bytes) : Option α :=
  match reader input with
  | some (a, []) => some a
  | _ => none

end Reader
end SecureChannel
