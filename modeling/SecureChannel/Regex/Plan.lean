import SecureChannel.Regex.Basic

/-! The form in which an expression is turned into an automaton: neighbouring characters make one
text, single characters to choose from make one set, and alternatives share what they begin with. -/
namespace SecureChannel.Regex

inductive Plan
  | empty
  | text (cs : List Char)
  /-- A set read with Unicode is told from one read without. -/
  | chars (unicode : Bool) (s : CharSet)
  | assertion (a : Assertion)
  | times (p : Plan) (isLazy : Bool) (min : Nat) (max : Option Nat)
  | capture (p : Plan)
  | sequence (ps : List Plan)
  | choice (ps : List Plan)

namespace Plan

/-- Matches nothing. -/
def fail : Plan := .chars false .empty

mutual

def nodes : Plan → Nat
  | .times p _ _ _ | .capture p => p.nodes + 1
  | .sequence ps | .choice ps => nodesOfAll ps + 1
  | _ => 1

def nodesOfAll : List Plan → Nat
  | [] => 0
  | p :: rest => p.nodes + nodesOfAll rest

end

mutual

/-- Takes no characters, whatever it matches. -/
def isZeroWidth : Plan → Bool
  | .empty | .assertion _ => true
  | .text _ | .chars _ _ => false
  | .times p _ _ max => max == some 0 || (max.isSome && p.isZeroWidth)
  | .capture p => p.isZeroWidth
  | .sequence ps | .choice ps => areZeroWidth ps

def areZeroWidth : List Plan → Bool
  | [] => true
  | p :: rest => p.isZeroWidth && areZeroWidth rest

end

mutual

/-- The fewest characters in a match. None are known where some part matches nothing. -/
def minLength : Plan → Option Nat
  | .empty | .assertion _ => some 0
  | .text cs => some cs.length
  | .chars _ s => if s.ranges.isEmpty then none else some 1
  | .times p _ min _ => p.minLength.map (· * min)
  | .capture p => p.minLength
  | .sequence ps => sumOfMinLengths ps
  | .choice ps => leastMinLength ps

def sumOfMinLengths : List Plan → Option Nat
  | [] => some 0
  | p :: rest => do return (← p.minLength) + (← sumOfMinLengths rest)

def leastMinLength : List Plan → Option Nat
  | [] => none
  | [p] => p.minLength
  | p :: rest => do return Nat.min (← p.minLength) (← leastMinLength rest)

end

mutual

/-- Every match begins where the assertion holds, as can be told without looking past the first
part that takes characters. -/
def opensWith (a : Assertion) : Plan → Bool
  | .assertion b => a == b
  | .times p _ min _ => min != 0 && p.opensWith a
  | .capture p => p.opensWith a
  | .sequence ps => sequenceOpensWith a ps
  | .choice ps => allOpenWith a ps
  | _ => false

def sequenceOpensWith (a : Assertion) : List Plan → Bool
  | [] => false
  | p :: rest => p.opensWith a || (p.isZeroWidth && sequenceOpensWith a rest)

def allOpenWith (a : Assertion) : List Plan → Bool
  | [] => true
  | p :: rest => p.opensWith a && allOpenWith a rest

end

mutual

/-- The plan for reading from the end to the start. -/
def reversed : Plan → Plan
  | .times p isLazy min max => .times p.reversed isLazy min max
  | .capture p => .capture p.reversed
  | .sequence ps => .sequence (reversedAll ps).reverse
  | .choice ps => .choice (reversedAll ps)
  | p => p

def reversedAll : List Plan → List Plan
  | [] => []
  | p :: rest => p.reversed :: reversedAll rest

end

mutual

/-- Equality, but no group that captures is the same as another. -/
def same : Plan → Plan → Bool
  | .empty, .empty => true
  | .text cs, .text ds => cs == ds
  | .chars u s, .chars v t => u == v && s == t
  | .assertion a, .assertion b => a == b
  | .times p lazyP minP maxP, .times q lazyQ minQ maxQ =>
    lazyP == lazyQ && minP == minQ && maxP == maxQ && same p q
  | .sequence ps, .sequence qs | .choice ps, .choice qs => sameAll ps qs
  | _, _ => false

def sameAll : List Plan → List Plan → Bool
  | [], [] => true
  | p :: ps, q :: qs => same p q && sameAll ps qs
  | _, _ => false

end

def ofChars (unicode : Bool) (s : CharSet) : Plan :=
  match s.ranges with
  | [] => fail
  | [(a, b)] => if a = b then .text [Char.ofNat a] else .chars unicode s
  | _ => .chars unicode s

/-- What takes no characters is repeated once at most. -/
def ofTimes (p : Plan) (isLazy : Bool) (min : Nat) (max : Option Nat) : Plan :=
  let (min, max) :=
    if p.isZeroWidth then (Nat.min min 1, some (Nat.min (max.getD 1) 1)) else (min, max)
  if min = 0 ∧ max = some 0 then .empty
  else if min = 1 ∧ max = some 1 then p
  else .times p isLazy min max

private def parts : Plan → List Plan
  | .empty => []
  | .sequence ps => ps
  | p => [p]

/-- Makes one text of texts that follow one another. -/
def joinTexts : List Plan → List Plan
  | [] => []
  | .text cs :: rest =>
    match joinTexts rest with
    | .text ds :: others => .text (cs ++ ds) :: others
    | others => .text cs :: others
  | p :: rest => p :: joinTexts rest

def ofSequence (ps : List Plan) : Plan :=
  match joinTexts (ps.flatMap parts) with
  | [] => .empty
  | [p] => p
  | ps => .sequence ps

private def branches : Plan → List Plan
  | .choice ps => ps
  | p => [p]

private def char? : Plan → Option Char
  | .text [c] => some c
  | _ => none

private def set? : Plan → Option CharSet
  | .chars _ s => some s
  | _ => none

private def parts? : Plan → Option (List Plan)
  | .sequence ps => some ps
  | _ => none

/-- The number of plans that both lists begin with. -/
def commonLength : List Plan → List Plan → Nat
  | p :: ps, q :: qs => if same p q then commonLength ps qs + 1 else 0
  | _, _ => 0

/-- The number of plans that every list begins with. -/
def sharedLength (first : List Plan) (others : List (List Plan)) : Nat :=
  others.foldl (fun n ps => Nat.min n (commonLength first ps)) first.length

/-- Sequences give up what all of them begin with, and what is left makes a choice again. Every time
there are fewer nodes, so their number bounds the turns. -/
def ofChoiceFrom : Nat → List Plan → Plan
  | 0, ps => .choice ps
  | fuel + 1, ps =>
    match ps.flatMap branches with
    | [] => fail
    | [p] => p
    | ps =>
      match ps.mapM char?, ps.mapM set?, ps.mapM parts? with
      | some cs, _, _ => ofChars true (.ofRanges (cs.map fun c => (c.toNat, c.toNat)))
      | _, some sets, _ => ofChars true (.ofRanges (sets.flatMap (·.ranges)))
      | _, _, some (first :: others) =>
        match sharedLength first others with
        | 0 => .choice ps
        | n =>
          let rest := (first :: others).map fun ps => ofSequence (ps.drop n)
          ofSequence (first.take n ++ [ofChoiceFrom fuel rest])
      | _, _, _ => .choice ps

def ofChoice (ps : List Plan) : Plan := ofChoiceFrom (nodesOfAll ps + 1) ps

end Plan
end SecureChannel.Regex
