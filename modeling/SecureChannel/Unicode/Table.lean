import SecureChannel.Unicode.CharSet
import SecureChannel.Bytes

/-! Compact texts for tables of code points, with numbers in hexadecimal. -/
namespace SecureChannel.Unicode

def hexNumber (digits : List Char) : Nat :=
  digits.foldl (fun n d => n * 16 + (Bytes.hexValue? d).getD 0) 0

/-- Rows between blanks, numbers between commas. -/
def rows (text : String) : List (List Nat) :=
  (text.toList.splitOn ' ').map fun row => (row.splitOn ',').map hexNumber

/-- Each row is a code point, or the first and the last of a range. -/
def rangeRows (text : String) : CharSet :=
  ⟨(rows text).filterMap fun
    | [c] => some (c, c)
    | [a, b] => some (a, b)
    | _ => none⟩

/-- A stretch of code points that share a code. -/
structure Run where
  code : String
  first : Nat
  last : Nat

def place (width : Nat) : Nat → List (List Char) → List Run
  | _, [] => []
  | start, group :: rest =>
    let next := start + hexNumber (group.drop width)
    ⟨String.ofList (group.take width), start, next - 1⟩ :: place width next rest

/-- Runs follow one another from zero. Each is a code, which begins with an upper-case letter, and
its length. -/
def runs (width : Nat) (text : String) : List Run :=
  place width 0 (text.toList.splitBy fun _ c => !c.isUpper)

/-- Code points whose code satisfies the test. -/
def select (table : List Run) (test : String → Bool) : CharSet :=
  CharSet.ofRanges ((table.filter (test ·.code)).map fun r => (r.first, r.last))

end SecureChannel.Unicode
