import SecureChannel.Net.Address

/-! The names a certificate gives its subject. -/
namespace SecureChannel

/-- Names that take no part in matching. -/
inductive IneligibleName
  | email
  | directory
  | registeredId
  | otherName
  | unknown
  /-- An address of impossible length. -/
  | address
deriving DecidableEq

def IneligibleName.label : IneligibleName → String
  | .email => "email"
  | .directory => "DirName"
  | .registeredId => "RID"
  | .otherName => "othername"
  | .unknown => "unknown"
  | .address => "IP"

inductive AltName
  | dns (host : String)
  | uri (uri : String)
  | ip (address : IpAddress)
  | ineligible (name : IneligibleName)
deriving DecidableEq

namespace AltName

def ofAddressBytes (bytes : Bytes) : AltName :=
  match IpAddress.ofBytes? bytes with
  | some address => .ip address
  | none => .ineligible .address

/-- The text that matchers see. -/
def matchText? : AltName → Option String
  | .dns text | .uri text => some text
  | .ip address => some address.display
  | .ineligible _ => none

def uri? : AltName → Option String
  | .uri text => some text
  | _ => none

def display : AltName → String
  | .dns text => "DNS:" ++ text
  | .uri text => "URI:" ++ text
  | .ip address => "IP:" ++ address.display
  | .ineligible name => name.label ++ ":<unsupported>"

end AltName
end SecureChannel
