import SecureChannel.Config.Basic
import SecureChannel.Regex.Anchored
import SecureChannel.Text.Utf8

/-! Matchers of peer names: literal text or a regular expression. -/
namespace SecureChannel

inductive NamePattern
  | exact (text : String)
  | leading (text : String)
  | trailing (text : String)
  | contained (text : String)
  /-- A regular expression with the text it was read from. -/
  | regex (source : String) (r : Regex)
deriving DecidableEq

structure Matcher where
  pattern : NamePattern
  ignoreCase : Bool
deriving DecidableEq

namespace NamePattern

def kind : NamePattern → String
  | .exact _ => "exact"
  | .leading _ => "prefix"
  | .trailing _ => "suffix"
  | .contained _ => "contains"
  | .regex _ _ => "safe_regex"

def source : NamePattern → String
  | .exact text | .leading text | .trailing text | .contained text => text
  | .regex source _ => source

end NamePattern

namespace Matcher

/-- Exactly one pattern must be set. A regular expression must match the whole of a name. -/
def ofSpec (spec : MatcherSpec) : Except ConfigError Matcher :=
  match spec.patterns with
  | [] => .error .noMatchPattern
  | _ :: _ :: _ => .error (.multipleMatchPatterns (spec.patterns.map (·.1)))
  | [(name, text)] =>
    if name = "exact" then .ok ⟨.exact text, spec.ignoreCase⟩
    else if name = "prefix" then .ok ⟨.leading text, spec.ignoreCase⟩
    else if name = "suffix" then .ok ⟨.trailing text, spec.ignoreCase⟩
    else if name = "contains" then .ok ⟨.contained text, spec.ignoreCase⟩
    else match Regex.anchored? text spec.ignoreCase with
      | some r => .ok ⟨.regex text r, spec.ignoreCase⟩
      | none => .error (.invalidRegex text)

def ofSpecs (specs : List MatcherSpec) : Except ConfigError (List Matcher) := specs.mapM ofSpec

/-- The bytes that literal patterns compare. Only ASCII letters lose their case. -/
def key (ignoreCase : Bool) (text : String) : Bytes :=
  let bytes := Bytes.ofString text
  if ignoreCase then bytes.map Bytes.toLower else bytes

/-- Neither an empty candidate nor an empty literal ever matches. -/
def accepts (m : Matcher) (candidate : String) : Bool :=
  let literal (compare : Bytes → Bytes → Bool) (text : String) : Bool :=
    !text.isEmpty && compare (key m.ignoreCase text) (key m.ignoreCase candidate)
  !candidate.isEmpty && match m.pattern with
    | .exact text => literal (· == ·) text
    | .leading text => literal List.isPrefixOf text
    | .trailing text => literal List.isSuffixOf text
    | .contained text => literal Bytes.occursIn text
    | .regex _ r => r.occursIn candidate.toList

def anyAccepts (matchers : List Matcher) (candidate : String) : Bool :=
  matchers.any (·.accepts candidate)

def display (m : Matcher) : String :=
  m.pattern.kind ++ ":" ++ m.pattern.source ++ if m.ignoreCase then " (ignore case)" else ""

end Matcher
end SecureChannel
