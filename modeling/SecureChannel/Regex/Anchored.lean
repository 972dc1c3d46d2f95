import SecureChannel.Regex.Automaton.Size
import SecureChannel.Regex.Derivative
import SecureChannel.Regex.Parser.Pattern
import SecureChannel.Regex.Planning

/-! Patterns set between the start and the end of a text. -/
namespace SecureChannel.Regex

/-- The pattern in a group of its own between the two anchors. It is set there as text, before it is
read, so a pattern may close the group and open another. -/
def anchor (pattern : List Char) : List Char :=
  "\\A(?:".toList ++ pattern ++ ")\\z".toList

/-- The expression of a whole pattern, if it is well formed and small enough. -/
def compile? (pattern : List Char) (ignoreCase : Bool) : Option Regex := do
  let t ← Term.parse? pattern
  let (r, _) ← t.compile? { ignoreCase }
  let (p, _) ← t.plan? { ignoreCase }
  if p.fits then some r else none

/-- The expression that a text must match from its start to its end. -/
def anchored? (pattern : String) (ignoreCase : Bool) : Option Regex :=
  compile? (anchor pattern.toList) ignoreCase

end SecureChannel.Regex
