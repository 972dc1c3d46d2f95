import SecureChannel.Regex.Basic
import SecureChannel.Regex.Term
import SecureChannel.Unicode.CaseFolding
import SecureChannel.Unicode.Query

/-! The expression that a pattern stands for, under the flags in force. -/
namespace SecureChannel.Regex

/-- The flags in force. Greed says which match is found first, not whether there is one. -/
structure Mode where
  ignoreCase : Bool := false
  multiLine : Bool := false
  dotAll : Bool := false
  crlf : Bool := false
  unicode : Bool := true
  /-- Repetitions are lazy unless they are marked so. -/
  swapGreed : Bool := false
deriving DecidableEq

namespace Mode

def set (m : Mode) : Flag × Bool → Mode
  | (.ignoreCase, on) => { m with ignoreCase := on }
  | (.multiLine, on) => { m with multiLine := on }
  | (.dotAll, on) => { m with dotAll := on }
  | (.crlf, on) => { m with crlf := on }
  | (.unicode, on) => { m with unicode := on }
  | (.swapGreed, on) => { m with swapGreed := on }
  | (.verbose, _) => m

def apply (m : Mode) (changes : FlagChanges) : Mode := changes.foldl set m

/-- Adds the other cases, if case is ignored, of Unicode or of ASCII. -/
def fold (m : Mode) (s : CharSet) : CharSet :=
  if !m.ignoreCase then s else if m.unicode then s.foldCase else s.foldCaseAscii

/-- Without Unicode a negated class would match parts of characters, so there is none. -/
def negate? (m : Mode) (negated : Bool) (s : CharSet) : Option CharSet :=
  if !negated then some s else if m.unicode then some s.compl else none

def finish? (m : Mode) (negated : Bool) (s : CharSet) : Option CharSet := m.negate? negated (m.fold s)

end Mode

def PerlClass.set (unicode : Bool) : PerlClass → CharSet
  | .digit => if unicode then Unicode.decimalNumber else .range 0x30 0x39
  | .space => if unicode then Unicode.whiteSpace else ⟨[(0x09, 0x0D), (0x20, 0x20)]⟩
  | .word =>
    if unicode then Unicode.word
    else ⟨[(0x30, 0x39), (0x41, 0x5A), (0x5F, 0x5F), (0x61, 0x7A)]⟩

def PosixClass.set : PosixClass → CharSet
  | .alnum => ⟨[(0x30, 0x39), (0x41, 0x5A), (0x61, 0x7A)]⟩
  | .alpha => ⟨[(0x41, 0x5A), (0x61, 0x7A)]⟩
  | .ascii => .range 0 0x7F
  | .blank => ⟨[(0x09, 0x09), (0x20, 0x20)]⟩
  | .cntrl => ⟨[(0, 0x1F), (0x7F, 0x7F)]⟩
  | .digit => .range 0x30 0x39
  | .graph => .range 0x21 0x7E
  | .lower => .range 0x61 0x7A
  | .print => .range 0x20 0x7E
  | .punct => ⟨[(0x21, 0x2F), (0x3A, 0x40), (0x5B, 0x60), (0x7B, 0x7E)]⟩
  | .space => ⟨[(0x09, 0x0D), (0x20, 0x20)]⟩
  | .upper => .range 0x41 0x5A
  | .word => ⟨[(0x30, 0x39), (0x41, 0x5A), (0x5F, 0x5F), (0x61, 0x7A)]⟩
  | .xdigit => ⟨[(0x30, 0x39), (0x41, 0x46), (0x61, 0x66)]⟩

def PropertyName.set? : PropertyName → Option CharSet
  | .single name => Unicode.named? name
  | .valued property value => Unicode.withValue? property value

/-- Perl classes hold every case of their members. -/
def PerlClass.set? (m : Mode) (c : PerlClass) (negated : Bool) : Option CharSet :=
  m.negate? negated (c.set m.unicode)

def PropertyName.compile? (m : Mode) (name : PropertyName) (negated : Bool) : Option CharSet :=
  if m.unicode then do m.finish? negated (← name.set?) else none

/-- Without Unicode an escaped byte past ASCII is part of a character, and cannot be matched. -/
def Literal.char? (m : Mode) (l : Literal) : Option Char :=
  if !m.unicode && l.isByte && l.char.toNat ≥ 0x80 then none else some l.char

/-- Without Unicode a class holds ASCII only. -/
def Literal.inClass? (m : Mode) (l : Literal) : Option Char :=
  if !m.unicode && l.char.toNat ≥ 0x80 then none else some l.char

def SetOperator.apply (op : SetOperator) (s t : CharSet) : CharSet :=
  match op with
  | .intersection => s ∩ t
  | .difference => s \ t
  | .symmetricDifference => s.symmDiff t

namespace ClassSet

mutual

def compile? (m : Mode) : ClassSet → Option CharSet
  | .literal l => (l.inClass? m).map .single
  | .range first last => do
    let a ← first.inClass? m
    let b ← last.inClass? m
    return .range a.toNat b.toNat
  | .perl c negated => c.set? m negated
  | .posix c negated => m.finish? negated c.set
  | .property name negated => name.compile? m negated
  | .bracketed negated set => do m.finish? negated (← compile? m set)
  | .union items => compileAll? m items
  | .operation op left right => do
    let s ← compile? m left
    let t ← compile? m right
    return op.apply (m.fold s) (m.fold t)

def compileAll? (m : Mode) : List ClassSet → Option CharSet
  | [] => some .empty
  | item :: rest => do
    let s ← compile? m item
    return s ∪ (← compileAll? m rest)

end

end ClassSet

def Anchor.assertion (m : Mode) : Anchor → Assertion
  | .startLine => if !m.multiLine then .start else if m.crlf then .startLineCrlf else .startLine
  | .endLine => if !m.multiLine then .finish else if m.crlf then .endLineCrlf else .endLine
  | .startText => .start
  | .endText => .finish
  | .wordBoundary => .wordBoundary m.unicode false
  | .notWordBoundary => .wordBoundary m.unicode true
  | .wordStart => .wordStart m.unicode
  | .wordEnd => .wordEnd m.unicode
  | .wordStartHalf => .wordStartHalf m.unicode
  | .wordEndHalf => .wordEndHalf m.unicode

/-- Any character but the ends of lines, unless they are asked for. -/
def dot? (m : Mode) : Option CharSet :=
  if !m.unicode then none
  else if m.dotAll then some .all
  else if m.crlf then some (.all \ (.single '\n' ∪ .single '\r'))
  else some (.all \ .single '\n')

/-- Matches no text but the empty one, whatever the context. -/
def isBlank : Regex → Bool
  | .empty | .assertion _ => true
  | .chars _ => false
  | .seq r s | .alt r s => r.isBlank && s.isBlank
  | .times r _ max => r.isBlank || max == some 0

/-- Repeating what takes no characters more than once changes nothing. -/
def repetition (r : Regex) (min : Nat) (max : Option Nat) : Regex :=
  if r.isBlank then
    if max = some 0 then .empty else .times r (Nat.min min 1) (some 1)
  else .times r min max

namespace Term

/-- The set that a single element stands for. -/
def chars? (m : Mode) : Term → Option CharSet
  | .literal l => do return m.fold (.single (← l.char? m))
  | .dot => dot? m
  | .perl c negated => c.set? m negated
  | .property name negated => name.compile? m negated
  | .bracketed negated set => do m.finish? negated (← set.compile? m)
  | _ => none

mutual

/-- The expression and the mode in force after it. -/
def compile? (m : Mode) : Term → Option (Regex × Mode)
  | .anchor a => some (.assertion (a.assertion m), m)
  | .flags changes => some (.empty, m.apply changes)
  | .group _ changes t => do
    let (r, _) ← compile? (m.apply changes) t
    return (r, m)
  | .times t _ min max => do
    let (r, m) ← compile? m t
    return (repetition r min max, m)
  | .sequence ts => sequence? m ts
  | .choice ts => choice? m ts
  | t => do return (.chars (← t.chars? m), m)

def sequence? (m : Mode) : List Term → Option (Regex × Mode)
  | [] => some (.empty, m)
  | t :: rest => do
    let (r, m) ← compile? m t
    let (s, m) ← sequence? m rest
    return (.seq r s, m)

/-- Flags set in one alternative stay in force in those after it. -/
def choice? (m : Mode) : List Term → Option (Regex × Mode)
  | [] => some (.chars .empty, m)
  | t :: rest => do
    let (r, m) ← compile? m t
    let (s, m) ← choice? m rest
    return (.alt r s, m)

end

end Term
end SecureChannel.Regex
