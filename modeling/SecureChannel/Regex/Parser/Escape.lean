import SecureChannel.Regex.Term
import SecureChannel.Unicode.Property

/-! Blanks of verbose patterns, counts, and escapes. -/
namespace SecureChannel.Regex.Parser

def isBlank (c : Char) : Bool := c ∈ Unicode.whiteSpace

/-- Leaves out blanks and comments, which run to the end of their line. -/
def skipFrom : Bool → List Char → List Char
  | _, [] => []
  | true, c :: cs => skipFrom (c != '\n') cs
  | false, c :: cs =>
    if isBlank c then skipFrom false cs else if c = '#' then skipFrom true cs else c :: cs

def skip (verbose : Bool) (cs : List Char) : List Char :=
  if verbose then skipFrom false cs else cs

def stepsFrom (verbose : Bool) (last : Char → Bool) :
    Bool → List Char → List (Char × List Char)
  | _, [] => []
  | true, c :: cs => stepsFrom verbose last (c != '\n') cs
  | false, c :: cs =>
    if verbose && isBlank c then stepsFrom verbose last false cs
    else if verbose && c == '#' then stepsFrom verbose last true cs
    else (c, cs) :: if last c then [] else stepsFrom verbose last false cs

/-- The characters that count, each with the text after it, up to the first that passes the test. -/
def steps (verbose : Bool) (last : Char → Bool) (cs : List Char) : List (Char × List Char) :=
  stepsFrom verbose last false cs

def decimal? (digits : List Char) : Option Nat :=
  if digits.isEmpty then none
  else
    let n := digits.foldl (fun n d => n * 10 + (d.toNat - 0x30)) 0
    if n < UInt32.size then some n else none

/-- A count with blanks around it, and the steps after it. -/
def count? (ss : List (Char × List Char)) : Option (Option Nat × List (Char × List Char)) :=
  let ss := ss.dropWhile (isBlank ·.1)
  let digits := (ss.takeWhile (·.1.isDigit)).map (·.1)
  let rest := (ss.dropWhile (·.1.isDigit)).dropWhile (isBlank ·.1)
  if digits.isEmpty then some (none, rest) else (decimal? digits).map fun n => (some n, rest)

/-- How often a repetition may be made. A lazy one is made as seldom as it can be. -/
structure Bounds where
  isLazy : Bool
  min : Nat
  max : Option Nat

/-- What follows a repetition operator: a question mark makes it lazy. -/
def withBounds (min : Nat) (max : Option Nat) : List Char → Bounds × List Char
  | '?' :: cs => (⟨true, min, max⟩, cs)
  | cs => (⟨false, min, max⟩, cs)

/-- What follows a mark that comes next. -/
def marked? (mark : Char) : List (Char × List Char) → Option (List Char × List (Char × List Char))
  | [] => none
  | (c, cs) :: ss => if c = mark then some (cs, ss) else none

/-- The bounds between braces, after the opening one. -/
def bounds? (verbose : Bool) (cs : List Char) : Option (Bounds × List Char) := do
  let isLast (c : Char) : Bool := !(c.isDigit || c == ',' || isBlank c)
  let (least, ss) ← count? (steps verbose isLast cs)
  let n ← least
  match marked? '}' ss with
  | some (cs, _) => return withBounds n (some n) (skip verbose cs)
  | none =>
    let (_, ss) ← marked? ',' ss
    match marked? '}' ss with
    | some (cs, _) => return withBounds n none (skip verbose cs)
    | none =>
      let (most, ss) ← count? ss
      let m ← most
      let (cs, _) ← marked? '}' ss
      if n ≤ m then return withBounds n (some m) (skip verbose cs) else none

/-- A single element of a pattern. -/
inductive Primitive
  | literal (l : Literal)
  | dot
  | anchor (a : Anchor)
  | perl (c : PerlClass) (negated : Bool)
  | property (name : PropertyName) (negated : Bool)

def Primitive.toTerm : Primitive → Term
  | .literal l => .literal l
  | .dot => .dot
  | .anchor a => .anchor a
  | .perl c negated => .perl c negated
  | .property name negated => .property name negated

def scalar? (n : Nat) : Option Char :=
  if n < 0xD800 ∨ (0xE000 ≤ n ∧ n < 0x110000) then some (Char.ofNat n) else none

def hexValues? (digits : List Char) : Option Nat := do
  return (← digits.mapM Bytes.hexValue?).foldl (fun n d => n * 16 + d) 0

/-- What stands before a closing brace, and the text after it. -/
def braced? (verbose : Bool) (cs : List Char) : Option (List Char × List Char) :=
  let ss := steps verbose (· == '}') cs
  match ss.dropWhile (·.1 != '}') with
  | (_, rest) :: _ => some ((ss.takeWhile (·.1 != '}')).map (·.1), rest)
  | [] => none

/-- So many characters, of which only the last may be no hexadecimal digit, and the text after them. -/
def digits? (verbose : Bool) (width : Nat) (cs : List Char) : Option (List Char × List Char) :=
  let ss := (steps verbose (Bytes.hexValue? · |>.isNone) cs).take width
  if ss.length < width then none
  else ss.getLast?.map fun (_, rest) => (ss.map (·.1), rest)

/-- Hexadecimal digits: `width` of them, or any number between braces. -/
def hexDigits? (verbose : Bool) (width : Nat) (cs : List Char) : Option (List Char × List Char) :=
  match skip verbose cs with
  | '{' :: inside => (braced? verbose inside).filter (!·.1.isEmpty)
  | cs => digits? verbose width cs

/-- A character in hexadecimal. -/
def hexEscape? (verbose : Bool) (width : Nat) (cs : List Char) : Option (Char × List Char) := do
  let (digits, rest) ← hexDigits? verbose width cs
  return (← scalar? (← hexValues? digits), skip verbose rest)

private def splitAt (mark : Char) (name : List Char) : Option (List Char × List Char) :=
  if name.contains mark then some (name.takeWhile (· != mark), (name.dropWhile (· != mark)).drop 1)
  else none

private def splitAtNotEqual : List Char → Option (List Char × List Char)
  | '!' :: '=' :: rest => some ([], rest)
  | c :: rest => (splitAtNotEqual rest).map fun (a, b) => (c :: a, b)
  | [] => none

/-- A property, and whether it is negated by being told apart from its value. -/
def propertyName (name : List Char) : PropertyName × Bool :=
  match splitAtNotEqual name with
  | some (property, value) => (.valued property value, true)
  | none =>
    match splitAt ':' name <|> splitAt '=' name with
    | some (property, value) => (.valued property value, false)
    | none => (.single name, false)

/-- A property, as one letter or between braces. -/
def property? (verbose : Bool) (cs : List Char) : Option ((PropertyName × Bool) × List Char) :=
  match skip verbose cs with
  | '{' :: inside =>
    (braced? verbose inside).map fun (name, rest) => (propertyName name, rest)
  | c :: rest => if c = '\\' then none else some ((.single [c], false), skip verbose rest)
  | [] => none

def isBoundaryChar (c : Char) : Bool := c.isAlpha || c == '-'

def boundaryNamed? (name : List Char) : Option Anchor :=
  if name = "start".toList then some .wordStart
  else if name = "end".toList then some .wordEnd
  else if name = "start-half".toList then some .wordStartHalf
  else if name = "end-half".toList then some .wordEndHalf
  else none

/-- A word boundary narrowed by a name, after the opening brace. Without a name the brace is left for
a count. -/
def narrowed? (verbose : Bool) (inside : List Char) : Option (Anchor × List Char) :=
  let ss := steps verbose (!isBoundaryChar ·) inside
  let name := (ss.takeWhile (isBoundaryChar ·.1)).map (·.1)
  if ss.isEmpty then none
  else if name.isEmpty then some (.wordBoundary, '{' :: inside)
  else do
    let (rest, _) ← marked? '}' (ss.dropWhile (isBoundaryChar ·.1))
    return (← boundaryNamed? name, rest)

def boundary? (verbose : Bool) (cs : List Char) : Option (Anchor × List Char) :=
  match cs with
  | '{' :: inside => narrowed? verbose inside
  | _ => some (.wordBoundary, cs)

def isMeta (c : Char) : Bool := "\\.+*?()|[]\x7b\x7d^$#&-~".toList.contains c

/-- ASCII other than letters, digits and angle brackets stands for itself after a backslash. -/
def isEscapable (c : Char) : Bool :=
  isMeta c || (c.toNat < 0x80 && !c.isAlphanum && c != '<' && c != '>')

/-- Letters that stand for an element of their own after a backslash. -/
def letter? : Char → Option Primitive
  | 'd' => some (.perl .digit false)
  | 'D' => some (.perl .digit true)
  | 's' => some (.perl .space false)
  | 'S' => some (.perl .space true)
  | 'w' => some (.perl .word false)
  | 'W' => some (.perl .word true)
  | 'a' => some (.literal ⟨'\x07', false⟩)
  | 'f' => some (.literal ⟨'\x0c', false⟩)
  | 't' => some (.literal ⟨'\t', false⟩)
  | 'n' => some (.literal ⟨'\n', false⟩)
  | 'r' => some (.literal ⟨'\r', false⟩)
  | 'v' => some (.literal ⟨'\x0b', false⟩)
  | 'A' => some (.anchor .startText)
  | 'z' => some (.anchor .endText)
  | 'B' => some (.anchor .notWordBoundary)
  | '<' => some (.anchor .wordStart)
  | '>' => some (.anchor .wordEnd)
  | _ => none

/-- An escape, after its backslash. -/
def escape? (verbose : Bool) : List Char → Option (Primitive × List Char)
  | [] => none
  | c :: cs =>
    if c = 'x' then
      let isByte := (skip verbose cs).head? != some '{'
      (hexEscape? verbose 2 cs).map fun (ch, rest) => (.literal ⟨ch, isByte⟩, rest)
    else if c = 'u' then (hexEscape? verbose 4 cs).map fun (ch, rest) => (.literal ⟨ch, false⟩, rest)
    else if c = 'U' then (hexEscape? verbose 8 cs).map fun (ch, rest) => (.literal ⟨ch, false⟩, rest)
    else if c = 'p' ∨ c = 'P' then
      (property? verbose cs).map fun ((name, negated), rest) =>
        (.property name ((c == 'P') != negated), rest)
    else if c = 'b' then (boundary? verbose cs).map fun (a, rest) => (.anchor a, rest)
    else if isEscapable c then some (.literal ⟨c, false⟩, cs)
    else (letter? c).map fun p => (p, cs)

end SecureChannel.Regex.Parser
