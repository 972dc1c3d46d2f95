import SecureChannel.Certificate.Purpose

/-! Reasons to refuse a certificate or a certification path. -/
namespace SecureChannel

/-- Times are seconds of the Unix epoch. -/
inductive PathError
  | unknownIssuer
  | badEncoding
  | trailingData
  | repeatedExtension
  | malformedNameConstraint
  | malformedDnsName
  | tooDeep
  | tooManySignatures
  | tooManyExtensions
  | tooManyComparisons
  | unsupportedVersion
  | unsupportedCriticalExtension
  | unsupportedAlgorithm
  | algorithmForOtherKey
  | invalidNetworkMask
  | invalidValidity
  | endEntityUsedAsCa
  | caUsedAsEndEntity
  | pathLengthExceeded
  | nameConstraintViolation
  | emptyPurposes
  | purposeNotAllowed (required : KeyPurpose) (allowed : List KeyPurpose)
  | algorithmMismatch
  | badSignature
  | distrusted
  | notValidForName (expected : String) (presented : List String)
  | notYetValid (time notBefore : Nat)
  | expired (time notAfter : Nat)
deriving DecidableEq

namespace PathError

/-- The more specific of two errors has the higher rank. -/
def rank : PathError → Nat
  | .unknownIssuer | .tooManySignatures | .tooManyExtensions | .tooManyComparisons => 0
  | .badEncoding => 10
  | .repeatedExtension => 20
  | .trailingData => 30
  | .malformedNameConstraint => 40
  | .malformedDnsName => 50
  | .tooDeep => 61
  | .unsupportedVersion | .unsupportedCriticalExtension => 130
  | .unsupportedAlgorithm => 140
  | .algorithmForOtherKey => 150
  | .invalidNetworkMask => 180
  | .invalidValidity => 190
  | .endEntityUsedAsCa | .caUsedAsEndEntity => 210
  | .pathLengthExceeded => 220
  | .nameConstraintViolation => 230
  | .purposeNotAllowed _ _ => 240
  | .emptyPurposes => 245
  | .algorithmMismatch => 250
  | .badSignature => 260
  | .notValidForName _ _ => 280
  | .notYetValid _ _ | .expired _ _ => 290
  | .distrusted => 300

/-- Nothing more is tried, because too much has been tried already. -/
def endsSearch : PathError → Bool
  | .tooManySignatures | .tooManyExtensions | .tooManyComparisons => true
  | _ => false

/-- The first of two errors, unless the second is more specific. -/
def moreSpecific (a b : PathError) : PathError := if b.rank ≤ a.rank then a else b

/-- Names in a sentence: commas, and `or` before the last. -/
def alternatives : List String → String
  | [] => ""
  | [name] => name
  | [name, last] => name ++ " or " ++ last
  | name :: rest => name ++ ", " ++ alternatives rest

private def other (name : String) : String := "Other(OtherError(" ++ name ++ "))"

private def detail : PathError → String
  | .unknownIssuer => "UnknownIssuer"
  | .badEncoding | .trailingData => "BadEncoding"
  | .repeatedExtension => other "ExtensionValueInvalid"
  | .malformedNameConstraint => other "MalformedNameConstraint"
  | .malformedDnsName => other "MalformedDnsIdentifier"
  | .tooDeep => other "MaximumPathDepthExceeded"
  | .tooManySignatures => other "MaximumSignatureChecksExceeded"
  | .tooManyExtensions => other "MaximumPathBuildCallsExceeded"
  | .tooManyComparisons => other "MaximumNameConstraintComparisonsExceeded"
  | .unsupportedVersion => other "UnsupportedCertVersion"
  | .unsupportedCriticalExtension => other "UnsupportedCriticalExtension"
  | .unsupportedAlgorithm => "UnsupportedSignatureAlgorithmContext"
  | .algorithmForOtherKey => "UnsupportedSignatureAlgorithmForPublicKeyContext"
  | .invalidNetworkMask => other "InvalidNetworkMaskConstraint"
  | .invalidValidity => "Expired"
  | .endEntityUsedAsCa => other "EndEntityUsedAsCa"
  | .caUsedAsEndEntity => other "CaUsedAsEndEntity"
  | .pathLengthExceeded => other "PathLenConstraintViolated"
  | .nameConstraintViolation => other "NameConstraintViolation"
  | .emptyPurposes => other "EmptyEkuExtension"
  | .purposeNotAllowed required allowed =>
    "certificate does not allow extended key usage for " ++ required.display ++ ", allows " ++
      ", ".intercalate (allowed.map KeyPurpose.display)
  | .algorithmMismatch => other "SignatureAlgorithmMismatch"
  | .badSignature => "BadSignature"
  | .distrusted => other "CertDistrusted"
  | .notValidForName expected presented =>
    "certificate not valid for name \"" ++ expected ++ "\"; certificate " ++
      if presented.isEmpty then
        "is not valid for any names (according to its subjectAltName extension)"
      else "is only valid for " ++ alternatives presented
  | .notYetValid time notBefore =>
    "certificate not valid yet: verification time " ++ toString time ++
      " (UNIX), but certificate is not valid before " ++ toString notBefore ++ " (" ++
      toString (notBefore - time) ++ " seconds in future)"
  | .expired time notAfter =>
    "certificate expired: verification time " ++ toString time ++
      " (UNIX), but certificate is not valid after " ++ toString notAfter ++ " (" ++
      toString (time - notAfter) ++ " seconds ago)"

def message (e : PathError) : String := "invalid peer certificate: " ++ e.detail

end PathError
end SecureChannel
