import SecureChannel.Text.Split

/-! Workload identities, written `spiffe://` trust domain, path. -/
namespace SecureChannel

/-- The path is empty or begins with a slash. -/
structure SpiffeId where
  trustDomain : String
  path : String
deriving DecidableEq

namespace SpiffeId

/-- Why a text is not an identity. -/
inductive Fault
  | tooLong
  | missingScheme
  | wrongScheme
  | queryOrFragment
  | emptyDomain
  | userInfo
  | portNumber
  | longDomain
  | domainCharacter
  | finalSlash
  | emptySegment
  | dotSegment
  | pathCharacter
deriving DecidableEq

def Fault.message : Fault → String
  | .tooLong => "SPIFFE ID exceeds maximum length"
  | .missingScheme => "missing scheme"
  | .wrongScheme => "scheme must be 'spiffe'"
  | .queryOrFragment => "query and fragment are not allowed"
  | .emptyDomain => "trust domain is empty"
  | .userInfo => "user info is not allowed"
  | .portNumber => "port is not allowed"
  | .longDomain => "trust domain exceeds maximum length"
  | .domainCharacter => "trust domain contains invalid characters"
  | .finalSlash => "path must not end with '/'"
  | .emptySegment => "path contains an empty segment"
  | .dotSegment => "path contains a dot segment"
  | .pathCharacter => "path contains invalid characters"

/-- Lengths count UTF-8 bytes. -/
def maxLength : Nat := 2048

def maxDomainLength : Nat := 255

def isMark (c : Char) : Bool := c == '.' || c == '-' || c == '_'

def isDomainChar (c : Char) : Bool := c.isLower || c.isDigit || isMark c

def isPathChar (c : Char) : Bool := c.isAlphanum || isMark c

/-- The first defect of a trust domain. -/
def domainFault? (domain : List Char) : Option Fault :=
  if domain.isEmpty then some .emptyDomain
  else if '@' ∈ domain then some .userInfo
  else if ':' ∈ domain then some .portNumber
  else if maxDomainLength < (String.ofList domain).utf8ByteSize then some .longDomain
  else if domain.all isDomainChar then none
  else some .domainCharacter

def segmentFault? (segment : List Char) : Option Fault :=
  if segment.isEmpty then some .emptySegment
  else if segment = ['.'] ∨ segment = ['.', '.'] then some .dotSegment
  else if segment.all isPathChar then none
  else some .pathCharacter

/-- The first defect of a path, given with its leading slash. -/
def pathFault? (path : List Char) : Option Fault :=
  if path.isEmpty then none
  else if path.getLast? = some '/' then some .finalSlash
  else (path.tail.splitOn '/').findSome? segmentFault?

/-- The scheme is recognised in any mixture of cases. -/
def parse (text : String) : Except Fault SpiffeId :=
  if maxLength < text.utf8ByteSize then .error .tooLong
  else match cut? [':', '/', '/'] text.toList with
    | none => .error .missingScheme
    | some (scheme, rest) =>
      if scheme.map Char.toLower ≠ "spiffe".toList then .error .wrongScheme
      else if '?' ∈ rest ∨ '#' ∈ rest then .error .queryOrFragment
      else
        let domain := rest.takeWhile (· ≠ '/')
        let path := rest.dropWhile (· ≠ '/')
        match domainFault? domain <|> pathFault? path with
        | some fault => .error fault
        | none => .ok ⟨String.ofList domain, String.ofList path⟩

def display (id : SpiffeId) : String := "spiffe://" ++ id.trustDomain ++ id.path

end SpiffeId
end SecureChannel
