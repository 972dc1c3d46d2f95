import SecureChannel.Regex.Parser.Class

/-! Whole patterns: groups, alternatives, flags and repetitions. -/
namespace SecureChannel.Regex.Parser

def flag? : Char → Option Flag
  | 'i' => some .ignoreCase
  | 'm' => some .multiLine
  | 's' => some .dotAll
  | 'U' => some .swapGreed
  | 'u' => some .unicode
  | 'R' => some .crlf
  | 'x' => some .verbose
  | _ => none

/-- Flags up to a colon or a closing bracket, which is given with them. No flag may be repeated, and
a minus sign must precede one. -/
def changes? (seen : FlagChanges) (negated dangling : Bool) :
    List Char → Option ((FlagChanges × Char) × List Char)
  | [] => none
  | c :: cs =>
    if c = ':' ∨ c = ')' then if dangling then none else some ((seen.reverse, c), cs)
    else if c = '-' then if negated then none else changes? seen true true cs
    else do
      let f ← flag? c
      if seen.any (·.1 == f) then none else changes? ((f, !negated) :: seen) negated false cs

private def isNameStart (c : Char) : Bool := c == '_' || c ∈ Unicode.alphabetic

private def isNameChar (c : Char) : Bool :=
  isNameStart c || c == '.' || c == '[' || c == ']' || c ∈ Unicode.numeric

/-- A group's name up to its closing angle bracket. -/
def groupName? (cs : List Char) : Option (List Char × List Char) :=
  match cs.takeWhile (· != '>'), cs.dropWhile (· != '>') with
  | c :: name, '>' :: rest =>
    if isNameStart c && name.all isNameChar then some (c :: name, rest) else none
  | _, _ => none

inductive GroupHead
  | capture (name : Option (List Char))
  | scoped (changes : FlagChanges)
  /-- Flags with no group of their own. -/
  | flags (changes : FlagChanges)

def isLookAround : List Char → Bool
  | '<' :: c :: _ | c :: _ => c == '=' || c == '!'
  | [] => false

/-- What follows the mark of a name. -/
def nameMark? : List Char → Option (List Char)
  | 'P' :: '<' :: cs | '<' :: cs => some cs
  | _ => none

/-- Flags before a colon are for a group. -/
def flagHead? (changes : FlagChanges) (mark : Char) : Option GroupHead :=
  if mark = ':' then some (.scoped changes)
  else if changes.isEmpty then none else some (.flags changes)

/-- The head of a group, after its question mark. Look-around is refused. -/
def specialHead? (cs : List Char) : Option (GroupHead × List Char) :=
  if isLookAround cs then none
  else match nameMark? cs with
    | some cs => (groupName? cs).map fun (name, rest) => (.capture (some name), rest)
    | none => do
      let ((changes, mark), rest) ← changes? [] false false cs
      (flagHead? changes mark).map (·, rest)

/-- The head of a group, after its opening bracket. -/
def groupHead? : List Char → Option (GroupHead × List Char)
  | '?' :: cs => specialHead? cs
  | cs => some (.capture none, cs)

/-- What an element of a pattern asks for. -/
inductive Action
  | push (t : Term)
  | branch
  | openGroup (head : GroupHead)
  | closeGroup
  | repeatLast (b : Bounds)

/-- An operator of one character. -/
def operator (min : Nat) (max : Option Nat) (cs : List Char) : Action × List Char :=
  let (b, rest) := withBounds min max cs
  (.repeatLast b, rest)

/-- Reads one element, which begins with the given character. The text after it is no longer than
the fuel. -/
def action? (verbose : Bool) (fuel : Nat) (c : Char) (cs : List Char) :
    Option (Action × List Char) :=
  match c with
  | '(' => (groupHead? (skip verbose cs)).map fun (head, rest) => (.openGroup head, rest)
  | ')' => some (.closeGroup, cs)
  | '|' => some (.branch, cs)
  | '[' => (class? verbose fuel cs).map fun (t, rest) => (.push t, rest)
  | '?' => some (operator 0 (some 1) cs)
  | '*' => some (operator 0 none cs)
  | '+' => some (operator 1 none cs)
  | '{' => (bounds? verbose cs).map fun (b, rest) => (.repeatLast b, rest)
  | '\\' => (escape? verbose cs).map fun (p, rest) => (.push p.toTerm, rest)
  | '.' => some (.push .dot, cs)
  | '^' => some (.push (.anchor .startLine), cs)
  | '$' => some (.push (.anchor .endLine), cs)
  | c => some (.push (.literal ⟨c, false⟩), cs)

def verboseAfter (changes : FlagChanges) (verbose : Bool) : Bool :=
  ((changes.find? (·.1 == .verbose)).map (·.2)).getD verbose

/-- What an open group interrupts: the terms and finished alternatives before it, the latest first,
and whether the pattern was verbose there. -/
structure GroupFrame where
  terms : List Term
  branches : List Term
  captures : Bool
  changes : FlagChanges
  verbose : Bool

structure State where
  stack : List GroupFrame := []
  terms : List Term := []
  branches : List Term := []
  verbose : Bool := false
  names : List (List Char) := []

namespace State

/-- The innermost group's content. -/
def content (s : State) : Term :=
  let last := Term.ofSequence s.terms.reverse
  if s.branches.isEmpty then last else .choice (last :: s.branches).reverse

def push (s : State) (t : Term) : State := { s with terms := t :: s.terms }

def branch (s : State) : State :=
  { s with terms := [], branches := Term.ofSequence s.terms.reverse :: s.branches }

def openGroup (s : State) (captures : Bool) (changes : FlagChanges) : State :=
  { s with
    stack := ⟨s.terms, s.branches, captures, changes, s.verbose⟩ :: s.stack
    terms := []
    branches := []
    verbose := verboseAfter changes s.verbose }

def closeGroup? (s : State) : Option State :=
  match s.stack with
  | [] => none
  | frame :: stack => some { s with
    stack
    terms := .group frame.captures frame.changes s.content :: frame.terms
    branches := frame.branches
    verbose := frame.verbose }

/-- Repeats the term before. Flags cannot be repeated. -/
def repeatLast? (s : State) (b : Bounds) : Option State :=
  match s.terms with
  | [] | .flags _ :: _ => none
  | t :: terms => some { s with terms := .times t b.isLazy b.min b.max :: terms }

def beginGroup? (s : State) : GroupHead → Option State
  | .capture none => some (s.openGroup true [])
  | .capture (some name) =>
    if s.names.contains name then none
    else some ({ s with names := name :: s.names }.openGroup true [])
  | .scoped changes => some (s.openGroup false changes)
  | .flags changes =>
    some { s.push (.flags changes) with verbose := verboseAfter changes s.verbose }

def act? (s : State) : Action → Option State
  | .push t => some (s.push t)
  | .branch => some s.branch
  | .openGroup head => s.beginGroup? head
  | .closeGroup => s.closeGroup?
  | .repeatLast b => s.repeatLast? b

/-- Every turn takes at least one character, so the length of the text bounds their number. -/
def run? : Nat → State → List Char → Option State
  | 0, _, _ => none
  | fuel + 1, s, cs =>
    match skip s.verbose cs with
    | [] => some s
    | c :: rest => do
      let (a, rest) ← action? s.verbose fuel c rest
      run? fuel (← s.act? a) rest

end State

/-- Groups, repetitions, sequences and classes may nest this deep. -/
def maxDepth : Nat := 250

end SecureChannel.Regex.Parser

namespace SecureChannel.Regex

namespace Term

/-- The syntax tree of a pattern. -/
def parse? (pattern : List Char) : Option Term := do
  let s ← Parser.State.run? (pattern.length + 1) {} pattern
  if s.stack.isEmpty && s.content.depth ≤ Parser.maxDepth then return s.content else none

end Term
end SecureChannel.Regex
