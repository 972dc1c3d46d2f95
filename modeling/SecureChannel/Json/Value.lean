import SecureChannel.Json.Token

/-! JSON values, read from tokens by a stack of open containers, and written as tokens. -/
namespace SecureChannel.Json

/-- Members keep their order and may repeat a name. -/
inductive Value
  | null
  | bool (b : Bool)
  | number (n : Number)
  | string (t : Text)
  | array (items : List Value)
  | object (members : List (Text × Value))

/-- An open container: what it holds so far, the latest first, and the name waiting for a value. -/
inductive Frame
  | array (items : List Value)
  | object (members : List (Text × Value)) (name : Text)

/-- What may come next, given the open containers from the innermost out. -/
inductive Progress
  /-- A value must follow. -/
  | value (stack : List Frame)
  /-- An array has just been opened. -/
  | firstItem (stack : List Frame)
  /-- An object has just been opened. -/
  | firstName (stack : List Frame)
  /-- A name must follow. -/
  | nextName (members : List (Text × Value)) (stack : List Frame)
  /-- A colon must follow. -/
  | colon (members : List (Text × Value)) (name : Text) (stack : List Frame)
  /-- A value has just ended. -/
  | ended (v : Value) (stack : List Frame)

namespace Progress

/-- The token as the beginning of a value. -/
def beginValue (stack : List Frame) : Token → Option Progress
  | .null => some (.ended .null stack)
  | .bool b => some (.ended (.bool b) stack)
  | .number n => some (.ended (.number n) stack)
  | .string t => some (.ended (.string t) stack)
  | .beginArray => some (.firstItem stack)
  | .beginObject => some (.firstName stack)
  | .endArray | .endObject | .colon | .comma => none

/-- The token after a value, by the innermost open container. -/
def afterValue (v : Value) : List Frame → Token → Option Progress
  | .array items :: stack, .comma => some (.value (.array (v :: items) :: stack))
  | .array items :: stack, .endArray => some (.ended (.array (v :: items).reverse) stack)
  | .object members name :: stack, .comma => some (.nextName ((name, v) :: members) stack)
  | .object members name :: stack, .endObject =>
    some (.ended (.object ((name, v) :: members).reverse) stack)
  | _, _ => none

def step : Progress → Token → Option Progress
  | .value stack, t => beginValue stack t
  | .firstItem stack, .endArray => some (.ended (.array []) stack)
  | .firstItem stack, t => beginValue (.array [] :: stack) t
  | .firstName stack, .endObject => some (.ended (.object []) stack)
  | .firstName stack, .string name => some (.colon [] name stack)
  | .firstName _, _ => none
  | .nextName members stack, .string name => some (.colon members name stack)
  | .nextName _ _, _ => none
  | .colon members name stack, .colon => some (.value (.object members name :: stack))
  | .colon _ _ _, _ => none
  | .ended v stack, t => afterValue v stack t

def run (p : Progress) (tokens : List Token) : Option Progress := tokens.foldlM step p

end Progress

namespace Value

def ofTokens? (tokens : List Token) : Option Value :=
  match Progress.run (.value []) tokens with
  | some (.ended v []) => some v
  | _ => none

/-- Nothing but blanks may surround the value. -/
def parse? (text : String) : Option Value := do ofTokens? (← Token.scan? text.toList)

mutual

def tokens : Value → List Token
  | .null => [.null]
  | .bool b => [.bool b]
  | .number n => [.number n]
  | .string t => [.string t]
  | .array items => .beginArray :: itemTokens items ++ [.endArray]
  | .object members => .beginObject :: memberTokens members ++ [.endObject]

def itemTokens : List Value → List Token
  | [] => []
  | [v] => tokens v
  | v :: w :: rest => tokens v ++ .comma :: itemTokens (w :: rest)

def memberTokens : List (Text × Value) → List Token
  | [] => []
  | [(name, v)] => .string name :: .colon :: tokens v
  | (name, v) :: m :: rest => .string name :: .colon :: tokens v ++ .comma :: memberTokens (m :: rest)

end

def render (v : Value) : String := String.ofList (v.tokens.flatMap Token.toChars)

def text (s : String) : Value := .string (some s)

def nat (n : Nat) : Value := .number (.ofNat n)

def ofOption {α : Type} (write : α → Value) : Option α → Value
  | none => .null
  | some a => write a

end Value
end SecureChannel.Json
