import SecureChannel.Regex.Basic
import Std.Data.HashSet

/-! Searching a text for a match, by partial derivatives that know the characters around them. -/
namespace SecureChannel.Regex

/-- Matches the empty text between two characters. -/
def nullable (before after : Option Char) : Regex → Bool
  | .empty => true
  | .assertion a => a.holds before after
  | .chars _ => false
  | .seq r s => nullable before after r && nullable before after s
  | .alt r s => nullable before after r || nullable before after s
  | .times r min _ => min == 0 || nullable before after r

/-- Leaves out an empty first part. -/
def andThen : Regex → Regex → Regex
  | .empty, s => s
  | .seq r t, s => .seq r (andThen t s)
  | r, s => .seq r s

/-- What may follow once `c`, which stands after `before`, has been matched. A repetition that can
match the empty text here may spend any number of its turns on it. -/
def derivatives (before : Option Char) (c : Char) : Regex → List Regex
  | .empty | .assertion _ => []
  | .chars s => if c ∈ s then [.empty] else []
  | .seq r s =>
    let first := (derivatives before c r).map (andThen · s)
    if nullable before (some c) r then first ++ derivatives before c s else first
  | .alt r s => derivatives before c r ++ derivatives before c s
  | .times r min max =>
    if max = some 0 then []
    else
      let min := if nullable before (some c) r then 0 else min - 1
      (derivatives before c r).map (andThen · (.times r min (max.map (· - 1))))

def nodes : Regex → Nat
  | .empty | .assertion _ | .chars _ => 1
  | .seq r s | .alt r s => r.nodes + s.nodes + 1
  | .times r _ _ => r.nodes + 1

/-- Tells most expressions of one size apart by what they are down to a depth. -/
def digest : Nat → Regex → UInt64
  | 0, _ => 0
  | _, .empty => 1
  | _, .assertion _ => 2
  | _, .chars s => mixHash 3 (hash s.ranges.head?)
  | depth + 1, .seq r s => mixHash 4 (mixHash (digest depth r) (digest depth s))
  | depth + 1, .alt r s => mixHash 5 (mixHash (digest depth r) (digest depth s))
  | depth + 1, .times r min max => mixHash (mixHash (hash min) (hash max)) (digest depth r)

instance : Hashable Regex := ⟨fun r => mixHash (hash r.nodes) (digest 8 r)⟩

/-- The same expressions, each once. -/
def distinct (rs : List Regex) : List Regex :=
  if rs.length ≤ 16 then rs.eraseDups else (Std.HashSet.ofList rs).toList

/-- Whether a match that has been begun ends, or a new one begins and ends, in the text. -/
def searchFrom (r : Regex) (before : Option Char) (begun : List Regex) : List Char → Bool
  | [] => (r :: begun).any (nullable before none)
  | c :: rest =>
    (r :: begun).any (nullable before (some c)) ||
      searchFrom r (some c) (distinct ((r :: begun).flatMap (derivatives before c))) rest

/-- Whether some part of the text matches. -/
def occursIn (r : Regex) (text : List Char) : Bool := searchFrom r none [] text

end SecureChannel.Regex
