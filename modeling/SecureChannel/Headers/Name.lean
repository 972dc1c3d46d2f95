import SecureChannel.Text.Base64
import SecureChannel.Text.Utf8

/-! Names of header fields, and the violations found while fields are stored. -/
namespace SecureChannel

inductive HeaderError
  | invalidName (name : Bytes)
  | duplicatePseudoHeader (name : Bytes)
  | illegalPseudoHeader (name : Bytes)
  | invalidBinaryValue (name : Bytes) (fault : Base64.Fault)
  | listTooLarge (size limit : Nat)
deriving DecidableEq

namespace HeaderError

def message : HeaderError → String
  | .invalidName name => "invalid header name '" ++ name.toStringLossy ++ "'"
  | .duplicatePseudoHeader name => "duplicate " ++ name.toStringLossy ++ " header"
  | .illegalPseudoHeader name => "illegal pseudo-header '" ++ name.toStringLossy ++ "' in request"
  | .invalidBinaryValue name fault =>
    "invalid binary value for header '" ++ name.toStringLossy ++ "': " ++ fault.message
  | .listTooLarge size limit =>
    "header list size " ++ toString size ++ " exceeds limit of " ++ toString limit ++ " bytes"

/-- The violation ends the connection and not only the stream. -/
def endsConnection : HeaderError → Bool
  | .listTooLarge _ _ => false
  | _ => true

end HeaderError

namespace HeaderName

/-- Field names have no upper-case letters. -/
def check (name : Bytes) : Except HeaderError Unit :=
  if name.any Bytes.isUpper then .error (.invalidName name) else .ok ()

theorem check_of_upper {name : Bytes} (upper : name.any Bytes.isUpper = true) :
    check name = .error (.invalidName name) := if_pos upper

theorem check_of_lower {name : Bytes} (lower : name.any Bytes.isUpper = false) :
    check name = .ok () := if_neg (by simp [lower])

/-- Pseudo-headers begin with a colon. -/
def isPseudo (name : Bytes) : Bool := name.head? = some 0x3A

theorem isPseudo_iff {name : Bytes} : isPseudo name = true ↔ name.head? = some 0x3A :=
  decide_eq_true_iff

/-- Names that end in `-bin` carry base64. -/
def isBinary (name : Bytes) : Bool := List.isSuffixOf [0x2D, 0x62, 0x69, 0x6E] name

theorem isBinary_iff {name : Bytes} : isBinary name = true ↔ Bytes.ofString "-bin" <:+ name := by
  have hend : Bytes.ofString "-bin" = [0x2D, 0x62, 0x69, 0x6E] := by decide +kernel
  rw [isBinary, hend, List.isSuffixOf_iff_suffix]

end HeaderName
end SecureChannel
