import SecureChannel.Config.Basic
import SecureChannel.Json.Value

/-! Configuration documents: how each record is read from JSON and written as JSON. -/
namespace SecureChannel.Config

open Json (Value)

/-- What an object gives for a name, which it may give once. -/
def given? (members : List (Json.Text × Value)) (name : String) : Option (Option Value) :=
  match members.filter (·.1 == some name) with
  | [] => some none
  | [member] => some (some member.2)
  | _ => none

/-- The values of a record's fields, in their declared order. An object gives them by name, each at
most once, beside names that are ignored; an array gives them by position. -/
def fields? (names : List String) : Value → Option (List (Option Value))
  | .array items =>
    if items.length ≤ names.length then some ((List.range names.length).map (items[·]?)) else none
  | .object members =>
    if members.any (·.1.isNone) then none else names.mapM (given? members)
  | _ => none

/-- A field that was not given takes its default. -/
def field? {α : Type} (default : α) (read : Value → Option α) : Option Value → Option α
  | none => some default
  | some v => read v

def pattern? : Value → Option (Option String)
  | .null => some none
  | .string t => t.map some
  | _ => none

def flag? : Value → Option Bool
  | .bool b => some b
  | _ => none

/-- Integers up to 2^64 - 1, written with digits only. -/
def limit? : Value → Option UInt64
  | .number n => do
    let m ← n.toNat?
    if m < UInt64.size then some (.ofNat m) else none
  | _ => none

def items? {α : Type} (read : Value → Option α) : Value → Option (List α)
  | .array items => items.mapM read
  | _ => none

/-- A record as the text of its document gives it. -/
def readText? {α : Type} (read : Value → Option α) (text : String) : Option α := do
  read (← Value.parse? text)

end SecureChannel.Config

namespace SecureChannel

namespace MatcherSpec

open Json (Value)
open Config

def fieldNames : List String := ["exact", "prefix", "suffix", "contains", "safe-regex", "ignore-case"]

def ofJson? (v : Value) : Option MatcherSpec := do
  match ← fields? fieldNames v with
  | [exact, leading, trailing, contained, safeRegex, ignoreCase] =>
    return {
      exact := ← field? none pattern? exact
      leading := ← field? none pattern? leading
      trailing := ← field? none pattern? trailing
      contained := ← field? none pattern? contained
      safeRegex := ← field? none pattern? safeRegex
      ignoreCase := ← field? false flag? ignoreCase }
  | _ => none

/-- Patterns that are not set are left out. -/
def toJson (spec : MatcherSpec) : Value :=
  .object (spec.patterns.map (fun (name, p) => (some name, .text p)) ++
    [(some "ignore-case", .bool spec.ignoreCase)])

end MatcherSpec

namespace ValidationContext

open Json (Value)
open Config

def fieldNames : List String := ["match-subject-alt-names"]

def ofJson? (v : Value) : Option ValidationContext := do
  match ← fields? fieldNames v with
  | [matchers] => return { matchers := ← field? [] (items? MatcherSpec.ofJson?) matchers }
  | _ => none

def toJson (context : ValidationContext) : Value :=
  .object [(some "match-subject-alt-names", .array (context.matchers.map MatcherSpec.toJson))]

end ValidationContext

namespace HeaderLimits

open Json (Value)
open Config

def fieldNames : List String := ["max-header-list-size", "initial-headers-guess"]

def ofJson? (v : Value) : Option HeaderLimits := do
  match ← fields? fieldNames v with
  | [maxListSize, initialGuess] =>
    return {
      maxListSize := ← field? 8192 limit? maxListSize
      initialGuess := ← field? 8 limit? initialGuess }
  | _ => none

def toJson (limits : HeaderLimits) : Value :=
  .object [(some "max-header-list-size", .nat limits.maxListSize.toNat),
    (some "initial-headers-guess", .nat limits.initialGuess.toNat)]

end HeaderLimits

namespace TransportConfig

open Json (Value)
open Config

def fieldNames : List String := ["validation-context", "headers"]

def ofJson? (v : Value) : Option TransportConfig := do
  match ← fields? fieldNames v with
  | [validation, headers] =>
    return {
      validation := ← field? {} ValidationContext.ofJson? validation
      headers := ← field? {} HeaderLimits.ofJson? headers }
  | _ => none

def toJson (config : TransportConfig) : Value :=
  .object [(some "validation-context", config.validation.toJson),
    (some "headers", config.headers.toJson)]

end TransportConfig
end SecureChannel
