import SecureChannel.Unicode.Property

/-! Regular expressions with assertions, and the texts they match in a context. -/
namespace SecureChannel

/-- Conditions on the characters before and after a position. -/
inductive Assertion
  | start | finish
  | startLine | endLine
  /-- Lines that end in a carriage return, a line feed, or both together. -/
  | startLineCrlf | endLineCrlf
  | wordBoundary (unicode negated : Bool)
  | wordStart (unicode : Bool)
  | wordEnd (unicode : Bool)
  /-- No word character before. -/
  | wordStartHalf (unicode : Bool)
  /-- No word character after. -/
  | wordEndHalf (unicode : Bool)
deriving DecidableEq

inductive Regex
  /-- The empty text. -/
  | empty
  | assertion (a : Assertion)
  /-- One character of a set. -/
  | chars (s : CharSet)
  | seq (r s : Regex)
  | alt (r s : Regex)
  | times (r : Regex) (min : Nat) (max : Option Nat)
deriving DecidableEq

namespace Assertion

def isWord (unicode : Bool) (c : Char) : Bool :=
  if unicode then c ∈ Unicode.word else c.isAlphanum || c == '_'

def wordAt (unicode : Bool) (c : Option Char) : Bool := c.any (isWord unicode)

def holds (before after : Option Char) : Assertion → Bool
  | .start => before.isNone
  | .finish => after.isNone
  | .startLine => before.all (· == '\n')
  | .endLine => after.all (· == '\n')
  | .startLineCrlf =>
    before.all fun c => c == '\n' || (c == '\r' && after != some '\n')
  | .endLineCrlf =>
    after.all fun c => c == '\r' || (c == '\n' && before != some '\r')
  | .wordBoundary unicode negated =>
    (wordAt unicode before != wordAt unicode after) != negated
  | .wordStart unicode => !wordAt unicode before && wordAt unicode after
  | .wordEnd unicode => wordAt unicode before && !wordAt unicode after
  | .wordStartHalf unicode => !wordAt unicode before
  | .wordEndHalf unicode => !wordAt unicode after

end Assertion

namespace Regex

/-- One more repetition is allowed. -/
def Allows (max : Option Nat) : Prop := max ≠ some 0

/-- `Matches r before text after`: `r` matches `text` standing between `before` and `after`. -/
inductive Matches : Regex → List Char → List Char → List Char → Prop
  | empty {before after} : Matches .empty before [] after
  | assertion {a before after} (h : a.holds before.getLast? after.head? = true) :
      Matches (.assertion a) before [] after
  | chars {s c before after} (h : c ∈ s) : Matches (.chars s) before [c] after
  | seq {r s before u v after} (hr : Matches r before u (v ++ after))
      (hs : Matches s (before ++ u) v after) : Matches (.seq r s) before (u ++ v) after
  | altLeft {r s before u after} (h : Matches r before u after) :
      Matches (.alt r s) before u after
  | altRight {r s before u after} (h : Matches s before u after) :
      Matches (.alt r s) before u after
  | timesNone {r max before after} : Matches (.times r 0 max) before [] after
  | timesMore {r min max before u v after} (hmax : Allows max)
      (hr : Matches r before u (v ++ after))
      (hs : Matches (.times r (min - 1) (max.map (· - 1))) (before ++ u) v after) :
      Matches (.times r min max) before (u ++ v) after

/-- Some part of the text matches, in its place. -/
def Occurs (r : Regex) (text : List Char) : Prop :=
  ∃ before part after, text = before ++ part ++ after ∧ Matches r before part after

end Regex
end SecureChannel
