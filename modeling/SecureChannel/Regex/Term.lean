import SecureChannel.Unicode.CharSet

/-! Patterns as they are written: the syntax tree of a regular expression. -/
namespace SecureChannel.Regex

inductive Flag
  | ignoreCase | multiLine | dotAll | swapGreed | unicode | crlf | verbose
deriving DecidableEq

/-- Flags switched on or off by a group. -/
abbrev FlagChanges := List (Flag × Bool)

/-- A literal character. Two-digit escapes name bytes where Unicode is off. -/
structure Literal where
  char : Char
  isByte : Bool := false
deriving DecidableEq

inductive Anchor
  | startLine | endLine | startText | endText
  | wordBoundary | notWordBoundary
  | wordStart | wordEnd | wordStartHalf | wordEndHalf
deriving DecidableEq

inductive PerlClass
  | digit | space | word
deriving DecidableEq

inductive PosixClass
  | alnum | alpha | ascii | blank | cntrl | digit | graph | lower | print | punct | space | upper
  | word | xdigit
deriving DecidableEq

/-- A class named by a property, or by a property and its value. -/
inductive PropertyName
  | single (name : List Char)
  | valued (property value : List Char)
deriving DecidableEq

inductive SetOperator
  | intersection | difference | symmetricDifference
deriving DecidableEq

/-- The inside of a bracketed class. -/
inductive ClassSet
  | literal (l : Literal)
  | range (first last : Literal)
  | perl (c : PerlClass) (negated : Bool)
  | posix (c : PosixClass) (negated : Bool)
  | property (name : PropertyName) (negated : Bool)
  | bracketed (negated : Bool) (set : ClassSet)
  | union (items : List ClassSet)
  | operation (op : SetOperator) (left right : ClassSet)

inductive Term
  | literal (l : Literal)
  | dot
  | anchor (a : Anchor)
  | perl (c : PerlClass) (negated : Bool)
  | property (name : PropertyName) (negated : Bool)
  | bracketed (negated : Bool) (set : ClassSet)
  /-- Switches flags up to the end of the enclosing group. -/
  | flags (changes : FlagChanges)
  | group (captures : Bool) (changes : FlagChanges) (t : Term)
  | times (t : Term) (isLazy : Bool) (min : Nat) (max : Option Nat)
  | sequence (ts : List Term)
  | choice (ts : List Term)

namespace ClassSet

def ofItems : List ClassSet → ClassSet
  | [item] => item
  | items => .union items

mutual

/-- Levels of nesting inside a bracketed class. -/
def depth : ClassSet → Nat
  | .bracketed _ set => set.depth + 1
  | .union items => if items.isEmpty then 0 else depthOfAll items + 1
  | .operation _ left right => max left.depth right.depth + 1
  | _ => 0

def depthOfAll : List ClassSet → Nat
  | [] => 0
  | item :: rest => max item.depth (depthOfAll rest)

end

end ClassSet

namespace Term

def ofSequence : List Term → Term
  | [t] => t
  | ts => .sequence ts

mutual

/-- Levels of nesting. An empty sequence is none. -/
def depth : Term → Nat
  | .bracketed _ set => set.depth + 1
  | .group _ _ t => t.depth + 1
  | .times t _ _ _ => t.depth + 1
  | .sequence ts => if ts.isEmpty then 0 else depthOfAll ts + 1
  | .choice ts => depthOfAll ts + 1
  | _ => 0

def depthOfAll : List Term → Nat
  | [] => 0
  | t :: rest => max t.depth (depthOfAll rest)

end

end Term
end SecureChannel.Regex
