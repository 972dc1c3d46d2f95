import SecureChannel.Bytes

/-! JSON tokens (RFC 8259), their scanner and their text. -/
namespace SecureChannel.Json

/-- What a string literal denotes: `none` when an escape leaves half of a surrogate pair alone. -/
abbrev Text := Option String

/-- A number literal. The tail is its fraction and exponent as written. -/
structure Number where
  negative : Bool
  whole : Nat
  tail : List Char
deriving DecidableEq

inductive Token
  | beginArray | endArray | beginObject | endObject | colon | comma
  | null
  | bool (b : Bool)
  | number (n : Number)
  | string (t : Text)
deriving DecidableEq

namespace Number

def ofNat (n : Nat) : Number := ⟨false, n, []⟩

/-- A number written without sign, fraction and exponent. -/
def toNat? (n : Number) : Option Nat :=
  if !n.negative && n.tail.isEmpty then some n.whole else none

def isDigits (cs : List Char) : Bool := !cs.isEmpty && cs.all Char.isDigit

def isExponent : List Char → Bool
  | [] => true
  | e :: '+' :: cs => (e == 'e' || e == 'E') && isDigits cs
  | e :: '-' :: cs => (e == 'e' || e == 'E') && isDigits cs
  | e :: cs => (e == 'e' || e == 'E') && isDigits cs

def isTail : List Char → Bool
  | '.' :: cs => isDigits (cs.takeWhile Char.isDigit) && isExponent (cs.dropWhile Char.isDigit)
  | cs => isExponent cs

def unsigned? (negative : Bool) (cs : List Char) : Option Number :=
  let digits := cs.takeWhile Char.isDigit
  let tail := cs.dropWhile Char.isDigit
  if digits.isEmpty || (digits.length > 1 && digits.head? == some '0') || !isTail tail then none
  else some ⟨negative, digits.foldl (fun n d => n * 10 + (d.toNat - 0x30)) 0, tail⟩

def ofChars? : List Char → Option Number
  | '-' :: cs => unsigned? true cs
  | cs => unsigned? false cs

def toChars (n : Number) : List Char :=
  (if n.negative then ['-'] else []) ++ Nat.toDigits 10 n.whole ++ n.tail

end Number

namespace Text

def escape? : Char → Option Nat
  | '"' => some 0x22
  | '\\' => some 0x5C
  | '/' => some 0x2F
  | 'b' => some 8
  | 'f' => some 12
  | 'n' => some 10
  | 'r' => some 13
  | 't' => some 9
  | _ => none

/-- The code points that a literal's body spells, half pairs included. -/
def units? : List Char → Option (List Nat)
  | [] => some []
  | '\\' :: 'u' :: a :: b :: c :: d :: rest => do
    let digits ← [a, b, c, d].mapM Bytes.hexValue?
    return digits.foldl (fun n d => n * 16 + d) 0 :: (← units? rest)
  | '\\' :: e :: rest => do return (← escape? e) :: (← units? rest)
  | c :: rest => do return c.toNat :: (← units? rest)

/-- Joins surrogate pairs. -/
def chars? : List Nat → Option (List Char)
  | [] => some []
  | high :: low :: rest =>
    if 0xD800 ≤ high ∧ high < 0xDC00 ∧ 0xDC00 ≤ low ∧ low < 0xE000 then do
      return Char.ofNat (0x10000 + (high - 0xD800) * 0x400 + (low - 0xDC00)) :: (← chars? rest)
    else if 0xD800 ≤ high ∧ high < 0xE000 then none
    else do return Char.ofNat high :: (← chars? (low :: rest))
  | [unit] => if 0xD800 ≤ unit ∧ unit < 0xE000 then none else some [Char.ofNat unit]

def escapeChar (c : Char) : List Char :=
  if c = '"' then ['\\', '"']
  else if c = '\\' then ['\\', '\\']
  else if c = '\x08' then ['\\', 'b']
  else if c = '\x0C' then ['\\', 'f']
  else if c = '\n' then ['\\', 'n']
  else if c = '\r' then ['\\', 'r']
  else if c = '\t' then ['\\', 't']
  else if c.toNat < 0x20 then
    ['\\', 'u', '0', '0', Bytes.hexDigit (c.toNat / 16), Bytes.hexDigit (c.toNat % 16)]
  else [c]

/-- The literal with its quotes. A half pair is written as one. -/
def toChars : Text → List Char
  | some s => '"' :: s.toList.flatMap escapeChar ++ ['"']
  | none => ['"', '\\', 'u', 'd', '8', '0', '0', '"']

end Text

namespace Token

/-- Between tokens, inside a bare word (reversed), or inside a string literal (reversed). -/
inductive Mode
  | between
  | word (seen : List Char)
  | literal (seen : List Char)
  | escaped (seen : List Char)

def punctuation? : Char → Option Token
  | '[' => some .beginArray
  | ']' => some .endArray
  | '\x7b' => some .beginObject
  | '\x7d' => some .endObject
  | ':' => some .colon
  | ',' => some .comma
  | _ => none

def isBlank (c : Char) : Bool := c == ' ' || c == '\t' || c == '\n' || c == '\r'

def ofWord? (cs : List Char) : Option Token :=
  if cs = ['n', 'u', 'l', 'l'] then some .null
  else if cs = ['t', 'r', 'u', 'e'] then some (.bool true)
  else if cs = ['f', 'a', 'l', 's', 'e'] then some (.bool false)
  else (Number.ofChars? cs).map .number

def ofLiteral? (body : List Char) : Option Token := do
  let units ← Text.units? body
  return .string ((Text.chars? units).map String.ofList)

/-- One character outside words and literals: the token it is, if any, and the mode after it. -/
def start (c : Char) : List Token × Mode :=
  if isBlank c then ([], .between)
  else if c = '"' then ([], .literal [])
  else match punctuation? c with
    | some t => ([t], .between)
    | none => ([], .word [c])

/-- A word ends before a blank, a quote or punctuation. -/
def scanFrom : Mode → List Char → Option (List Token)
  | .between, [] => some []
  | .word seen, [] => do return [← ofWord? seen.reverse]
  | .literal _, [] | .escaped _, [] => none
  | .between, c :: rest => do
    let (tokens, mode) := start c
    return tokens ++ (← scanFrom mode rest)
  | .word seen, c :: rest =>
    if isBlank c || c == '"' || (punctuation? c).isSome then do
      let word ← ofWord? seen.reverse
      let (tokens, mode) := start c
      return word :: tokens ++ (← scanFrom mode rest)
    else scanFrom (.word (c :: seen)) rest
  | .literal seen, c :: rest =>
    if c = '"' then do return (← ofLiteral? seen.reverse) :: (← scanFrom .between rest)
    else if c = '\\' then scanFrom (.escaped (c :: seen)) rest
    else if c.toNat < 0x20 then none
    else scanFrom (.literal (c :: seen)) rest
  | .escaped seen, c :: rest =>
    if c.toNat < 0x20 then none else scanFrom (.literal (c :: seen)) rest

def scan? (text : List Char) : Option (List Token) := scanFrom .between text

def toChars : Token → List Char
  | .beginArray => ['[']
  | .endArray => [']']
  | .beginObject => ['\x7b']
  | .endObject => ['\x7d']
  | .colon => [':']
  | .comma => [',']
  | .null => ['n', 'u', 'l', 'l']
  | .bool true => ['t', 'r', 'u', 'e']
  | .bool false => ['f', 'a', 'l', 's', 'e']
  | .number n => n.toChars
  | .string t => t.toChars

end Token
end SecureChannel.Json
