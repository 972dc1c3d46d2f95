import SecureChannel.Unicode.Age
import SecureChannel.Unicode.Boundary
import SecureChannel.Unicode.ScriptExtension

/-! Classes of characters by the names of properties and of their values. -/
namespace SecureChannel.Unicode

/-- Names fold case, drop separators, and may begin with "is". -/
def foldName (name : List Char) : String :=
  let (marked, name) := match name with
    | a :: b :: rest =>
      if (a == 'i' || a == 'I') && (b == 's' || b == 'S') then (true, rest) else (false, name)
    | _ => (false, name)
  let folded := (name.filter fun c =>
    !(c == ' ' || c == '_' || c == '-') && c.toNat < 0x80).map Char.toLower
  if marked && folded == ['c'] then "isc" else String.ofList folded

/-- A property, then a general category, then a script. -/
def named? (name : List Char) : Option CharSet :=
  let folded := foldName name
  property? folded <|> GeneralCategory.named? folded <|> Script.named? folded

/-- The classes that the values of a property make. -/
def values? (property : String) : Option (String → Option CharSet) :=
  if property ∈ ["gc", "generalcategory"] then some GeneralCategory.named?
  else if property ∈ ["sc", "script"] then some Script.named?
  else if property ∈ ["scx", "scriptextensions"] then some ScriptExtension.named?
  else if property = "age" then some Age.named?
  else if property ∈ ["gcb", "graphemeclusterbreak"] then
    some (Boundary.named? Boundary.graphemeClasses)
  else if property ∈ ["wb", "wordbreak"] then some (Boundary.named? Boundary.wordClasses)
  else if property ∈ ["sb", "sentencebreak"] then some (Boundary.named? Boundary.sentenceClasses)
  else none

/-- A class given by the value of a property. -/
def withValue? (property value : List Char) : Option CharSet := do
  (← values? (foldName property)) (foldName value)

end SecureChannel.Unicode
