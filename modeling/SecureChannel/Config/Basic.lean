/-! The configuration of peer checks and header limits, and the defects it can have. -/
namespace SecureChannel

/-- One name pattern. A usable one sets exactly one of the five pattern fields. -/
structure MatcherSpec where
  exact : Option String := none
  leading : Option String := none
  trailing : Option String := none
  contained : Option String := none
  safeRegex : Option String := none
  ignoreCase : Bool := false
deriving DecidableEq

/-- Names the peer certificate may carry; no patterns means that any will do. -/
structure ValidationContext where
  matchers : List MatcherSpec := []
deriving DecidableEq

structure HeaderLimits where
  /-- Largest header list, counted in bytes with 32 for each field. -/
  maxListSize : UInt64 := 8192
  /-- Number of headers expected in the first block. -/
  initialGuess : UInt64 := 8
deriving DecidableEq

structure TransportConfig where
  validation : ValidationContext := {}
  headers : HeaderLimits := {}
deriving DecidableEq

def ValidationContext.isEmpty (context : ValidationContext) : Bool := context.matchers.isEmpty

/-- The pattern fields that are set, by name. -/
def MatcherSpec.patterns (spec : MatcherSpec) : List (String × String) :=
  [("exact", spec.exact), ("prefix", spec.leading), ("suffix", spec.trailing),
    ("contains", spec.contained), ("safe-regex", spec.safeRegex)].filterMap
      fun (name, pattern) => pattern.map fun p => (name, p)

inductive ConfigError
  | noMatchPattern
  | multipleMatchPatterns (names : List String)
  | invalidRegex (pattern : String)
  | duplicateTrustDomain (domain : String)
  | noTrustAnchors
  | invalidTrustAnchor (reason : String)
deriving DecidableEq

def ConfigError.message : ConfigError → String
  | .noMatchPattern => "string matcher has no match pattern"
  | .multipleMatchPatterns names =>
    "string matcher sets more than one match pattern: " ++ ", ".intercalate names
  | .invalidRegex pattern => "invalid regex pattern '" ++ pattern ++ "'"
  | .duplicateTrustDomain domain =>
    "trust domain '" ++ domain ++ "' is configured more than once"
  | .noTrustAnchors => "no trust anchors configured"
  | .invalidTrustAnchor reason => "invalid trust anchor: " ++ reason

end SecureChannel
