import SecureChannel.Regex.Automaton.Chars
import SecureChannel.Regex.Automaton.Literals
import SecureChannel.Regex.Plan
import SecureChannel.Text.Utf8

/-! Whether the automata for a plan, one for each direction, are small enough. -/
namespace SecureChannel.Regex.Plan

open SecureChannel.Regex.Automaton

private def literal? (d : Direction) : Plan → Option Bytes
  | .text cs =>
    match d with
    | .forward => some (Utf8.encode cs)
    | .backward => some (Utf8.encode cs).reverse
  | _ => none

/-- Makes what takes part in a choice that may also be passed by. -/
private def option (build : Build Unit) : Build Unit := do
  Build.states 1 (Build.ways 2)
  build

mutual

/-- A repetition has a copy of its part for each turn it has to make, and for each one it may make
up to a limit. A choice joins its first two branches before it makes the others. Nothing is captured
in reading backward. -/
def build (d : Direction) : Plan → Build Unit
  | .empty | .assertion _ => Build.states 1 0
  | .text cs => Build.states (Utf8.encode cs).length 0
  | .chars _ s => Automaton.chars d s
  | .capture p =>
    match d with
    | .forward => do
      Build.states 1 0
      build d p
      Build.states 1 0
    | .backward => build d p
  | .sequence ps => buildAll d ps
  | .choice ps =>
    match ps.mapM (literal? d) with
    | some ls => literals ls
    | none => buildBranches d ps.length ps.length ps
  | .times p _ 0 (some 1) => do
    option (build d p)
    Build.states 1 0
  | .times p _ 0 none =>
    if p.minLength.any (· != 0) then option (build d p)
    else do
      build d p
      Build.states 3 (Build.ways 4)
  | .times p _ min none => do
    Build.turns (build d p) min
    Build.states 1 (Build.ways 2)
  | .times p _ min (some max) => do
    if min = 0 then Build.states 1 0 else Build.turns (build d p) min
    if min = max then pure ()
    else do
      Build.states 1 0
      Build.turns (option (build d p)) (max - min)

def buildAll (d : Direction) : List Plan → Build Unit
  | [] => pure ()
  | p :: rest => do
    build d p
    buildAll d rest

/-- The branches of a choice, with their number and how many of them are left. -/
def buildBranches (d : Direction) (count : Nat) : Nat → List Plan → Build Unit
  | _, [] => pure ()
  | left, p :: rest => do
    build d p
    if left + 1 = count then Build.states 2 (Build.ways count) else pure ()
    buildBranches d count (left - 1) rest

end

/-- What skips over the text before a match, unless every match begins where the text does. -/
private def lead (anchored : Bool) : Build Unit :=
  if anchored then Build.states 1 0
  else do
    Build.states 2 (Build.ways 2)
    Build.states 1 (Build.transitions 1)

/-- Reading forward, the match as a whole is captured. -/
def buildForward (p : Plan) : Build Unit := do
  lead (p.opensWith .start)
  build .forward (.capture p)
  Build.states 1 0

def buildBackward (p : Plan) : Build Unit := do
  let p := p.reversed
  lead (p.opensWith .finish)
  build .backward p
  Build.states 1 0

def fits (p : Plan) : Bool := (buildForward p).fits && (buildBackward p).fits

end SecureChannel.Regex.Plan
