import SecureChannel.Regex.Parser.Escape

/-! Bracketed classes. -/
namespace SecureChannel.Regex.Parser

/-- An enclosing class with what it holds so far, the latest first, or an operator with what stands
before it. -/
inductive ClassFrame
  | bracket (outer : List ClassSet) (negated : Bool)
  | operator (op : SetOperator) (left : ClassSet)

private def posixNames : List (String × PosixClass) :=
  [("alnum", .alnum), ("alpha", .alpha), ("ascii", .ascii), ("blank", .blank), ("cntrl", .cntrl),
    ("digit", .digit), ("graph", .graph), ("lower", .lower), ("print", .print), ("punct", .punct),
    ("space", .space), ("upper", .upper), ("word", .word), ("xdigit", .xdigit)]

/-- A POSIX class by its name, which a colon and a bracket end. -/
def posixNamed? (negated : Bool) (cs : List Char) : Option (ClassSet × List Char) :=
  let name := String.ofList (cs.takeWhile (· != ':'))
  match cs.dropWhile (· != ':') with
  | ':' :: ']' :: rest =>
    (posixNames.find? (·.1 == name)).map fun (_, c) => (.posix c negated, rest)
  | _ => none

/-- A POSIX class, after its opening bracket. -/
def posix? : List Char → Option (ClassSet × List Char)
  | ':' :: '^' :: cs => posixNamed? true cs
  | ':' :: cs => posixNamed? false cs
  | _ => none

/-- Hyphens that open a class stand for themselves. -/
def hyphens (verbose : Bool) : List Char → List ClassSet → List (Char × List Char) →
    List ClassSet × List Char
  | _, items, ('-', rest) :: ss =>
    hyphens verbose (skip verbose rest) (.literal ⟨'-', false⟩ :: items) ss
  | cs, items, _ => (items, cs)

/-- Whether a class is negated. -/
def caret (verbose : Bool) (cs : List Char) : Bool × List Char :=
  match skip verbose cs with
  | '^' :: cs => (true, skip verbose cs)
  | cs => (false, cs)

/-- A bracket that comes first stands for itself. -/
def firstBracket (verbose : Bool) (items : List ClassSet) (cs : List Char) :
    List ClassSet × List Char :=
  match items, cs with
  | [], ']' :: cs => ([.literal ⟨']', false⟩], skip verbose cs)
  | items, cs => (items, cs)

/-- The beginning of a class, after its opening bracket: whether it is negated, the items that are
special there, and the rest, which may not be empty. -/
def openClass? (verbose : Bool) (cs : List Char) : Option ((Bool × List ClassSet) × List Char) :=
  let (negated, cs) := caret verbose cs
  let (items, cs) := hyphens verbose cs [] (steps verbose (· != '-') cs)
  let (items, cs) := firstBracket verbose items cs
  if cs.isEmpty then none else some ((negated, items), cs)

/-- A literal or an escape in a class. -/
def classPrimitive? (verbose : Bool) : List Char → Option (Primitive × List Char)
  | [] => none
  | '\\' :: cs => escape? verbose cs
  | c :: cs => some (.literal ⟨c, false⟩, cs)

def Primitive.toItem? : Primitive → Option ClassSet
  | .literal l => some (.literal l)
  | .perl c negated => some (.perl c negated)
  | .property name negated => some (.property name negated)
  | .dot | .anchor _ => none

def Primitive.toLiteral? : Primitive → Option Literal
  | .literal l => some l
  | _ => none

/-- The character that follows, past blanks and at most the mark of a comment. -/
def peek (verbose : Bool) (cs : List Char) : Option Char :=
  if !verbose then cs.head?
  else match cs.dropWhile isBlank with
    | [] => cs.head?
    | '#' :: rest => (rest.dropWhile isBlank).head? <|> cs.head?
    | c :: _ => some c

/-- A range, after its hyphen. -/
def classRange? (verbose : Bool) (first : Primitive) (cs : List Char) :
    Option (ClassSet × List Char) := do
  let (last, rest) ← classPrimitive? verbose (skip verbose cs)
  let a ← first.toLiteral?
  let b ← last.toLiteral?
  if a.char ≤ b.char then return (.range a b, rest) else none

/-- An item, or a range of two. A hyphen before a bracket or another hyphen makes no range. -/
def classItem? (verbose : Bool) (cs : List Char) : Option (ClassSet × List Char) := do
  let (first, rest) ← classPrimitive? verbose cs
  match skip verbose rest with
  | [] => none
  | c :: rest =>
    if c = '-' ∧ peek verbose rest ≠ some ']' ∧ peek verbose rest ≠ some '-' then
      classRange? verbose first rest
    else first.toItem?.map (·, c :: rest)

/-- Applies the operator that waits for its right side, if there is one. -/
def applyOperator (right : ClassSet) : List ClassFrame → ClassSet × List ClassFrame
  | .operator op left :: stack => (.operation op left right, stack)
  | stack => (right, stack)

/-- Two equal marks that combine what stands before and after them. -/
def setOperator? : List Char → Option (SetOperator × List Char)
  | '&' :: '&' :: cs => some (.intersection, cs)
  | '-' :: '-' :: cs => some (.difference, cs)
  | '~' :: '~' :: cs => some (.symmetricDifference, cs)
  | _ => none

/-- Reads on inside a class, with the items read so far, the latest first. Every turn takes at least
one character, so the length of the text bounds their number. -/
def classFrom? (verbose : Bool) : Nat → List ClassFrame → List ClassSet → List Char →
    Option ((Bool × ClassSet) × List Char)
  | 0, _, _, _ => none
  | fuel + 1, stack, items, cs =>
    match skip verbose cs with
    | [] => none
    | c :: rest =>
      if c = '[' then
        match posix? rest with
        | some (item, rest) => classFrom? verbose fuel stack (item :: items) rest
        | none => do
          let ((negated, inner), rest) ← openClass? verbose rest
          classFrom? verbose fuel (.bracket items negated :: stack) inner rest
      else if c = ']' then
        match applyOperator (.ofItems items.reverse) stack with
        | (set, [.bracket _ negated]) => some ((negated, set), rest)
        | (set, .bracket outer negated :: stack) =>
          classFrom? verbose fuel stack (.bracketed negated set :: outer) rest
        | _ => none
      else
        match setOperator? (c :: rest) with
        | some (op, rest) =>
          let (left, stack) := applyOperator (.ofItems items.reverse) stack
          classFrom? verbose fuel (.operator op left :: stack) [] rest
        | none => do
          let (item, rest) ← classItem? verbose (c :: rest)
          classFrom? verbose fuel stack (item :: items) rest

/-- A bracketed class, after its opening bracket. The text is no longer than the fuel. -/
def class? (verbose : Bool) (fuel : Nat) (cs : List Char) : Option (Term × List Char) := do
  let ((negated, items), rest) ← openClass? verbose cs
  let ((negated, set), rest) ← classFrom? verbose (fuel + 1) [.bracket [] negated] items rest
  return (.bracketed negated set, rest)

end SecureChannel.Regex.Parser
