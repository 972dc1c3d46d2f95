import SecureChannel.Net.Host
import SecureChannel.Path.Budget
import SecureChannel.Path.Certificate

/-! Names in certificates as paths see them: for whom a certificate is valid, and constraints. -/
namespace SecureChannel

inductive GeneralName
  | dns (pattern : Bytes)
  | directory
  | ip (address : Bytes)
  | uri (text : Bytes)
  | unsupported (kind : Nat)
deriving DecidableEq

namespace GeneralName

open SecureChannel.Path SecureChannel.Path.Parser

/-- Tags of the context class; those for whole structures are constructed. -/
def parser : Parser GeneralName := do
  let (tag, content) ← ofReader Der.Strict.item
  match tag.toNat with
  | 0x82 => return .dns content
  | 0xA4 => return .directory
  | 0x86 => return .uri content
  | 0x87 => return .ip content
  | 0xA0 => return .unsupported 0
  | 0x81 => return .unsupported 1
  | 0xA3 => return .unsupported 3
  | 0xA5 => return .unsupported 5
  | 0x88 => return .unsupported 8
  | _ => throw .badEncoding

/-- Groups of an address of sixteen bytes. A run of zeros after the first group is left out. -/
private def shortGroups : Bool → List Nat → String
  | _, [] => ""
  | skipped, n :: rest =>
    if n = 0 then shortGroups true rest
    else (if skipped then "::" else ":") ++ IpAddress.colons [n] ++ shortGroups false rest

private def hexBytes (bytes : Bytes) : String :=
  ", ".intercalate (bytes.map fun b => Bytes.toHex [b])

def displayAddress (bytes : Bytes) : String :=
  if bytes.length = 4 then IpAddress.dotted bytes
  else if bytes.length = 16 then
    match IpAddress.groups bytes with
    | [] => ""
    | n :: rest => IpAddress.colons [n] ++ shortGroups false rest
  else "[invalid: " ++ hexBytes bytes ++ "]"

def display : GeneralName → String
  | .dns pattern => "DnsName(\"" ++ pattern.toStringLossy ++ "\")"
  | .directory => "DirectoryName"
  | .ip address => "IpAddress(" ++ displayAddress address ++ ")"
  | .uri text => "UniformResourceIdentifier(\"" ++ text.toStringLossy ++ "\")"
  | .unsupported kind => "Unsupported(0x" ++ Bytes.toHex [UInt8.ofNat kind] ++ ")"

private def readEach : Nat → Bytes → List GeneralName × Option PathError
  | _, [] => ([], none)
  | 0, _ :: _ => ([], none)
  | fuel + 1, input =>
    match parser input with
    | .error e => ([], some e)
    | .ok (name, rest) =>
      let (names, fault) := readEach fuel rest
      (name :: names, fault)

/-- The names of a certificate up to the first malformed one, and its fault. -/
def ofCertificate (c : Certificate) : List GeneralName × Option PathError :=
  match c.extension? .altNames with
  | none => ([], none)
  | some content => readEach content.length content

end GeneralName

namespace Certificate

def isNamed (expected : ServerName) : GeneralName → Bool
  | .dns pattern =>
    match expected with
    | .host name => Host.accepts pattern (Bytes.ofString name)
    | .address _ => false
  | .ip bytes =>
    match expected with
    | .address ip => bytes = ip.bytes
    | .host _ => false
  | _ => false

/-- Some name before the first malformed one is the expected one. -/
def checkServerName (c : Certificate) (expected : ServerName) : Except PathError Unit :=
  let (names, fault) := GeneralName.ofCertificate c
  if names.any (isNamed expected) then .ok ()
  else match fault with
    | some e => .error e
    | none => .error (.notValidForName expected.display (names.map GeneralName.display))

end Certificate

/-- Names that the certificates below an issuer may have, and names they may not have. -/
structure NameConstraints where
  permitted : Option Bytes
  excluded : Option Bytes
deriving DecidableEq

namespace NameConstraints

open SecureChannel.Path SecureChannel.Path.Parser

private def subtrees? (number : UInt8) : Parser (Option Bytes) := do
  if ← isNext (Der.Strict.context number) then
    return some (← element (Der.Strict.context number))
  else return none

def parser : Parser NameConstraints := do return ⟨← subtrees? 0, ← subtrees? 1⟩

/-- Ones, then zeros. -/
def isMask (mask : Bytes) : Bool :=
  let bits := mask.flatMap fun b => (List.range 8).map fun i => b.toNat.testBit (7 - i)
  !(bits.dropWhile id).any id

/-- An address lies in a network, given by an address and a mask. Bytes after the first that
differs are not looked at. -/
def isInNetwork (address network mask : Bytes) : Except PathError Bool :=
  let rec go : Bytes → Bytes → Bytes → Bytes → Except PathError Bool
    | a :: as, n :: ns, m :: ms, seen =>
      if !isMask (seen ++ [m]) then .error .invalidNetworkMask
      else if (a ^^^ n) &&& m ≠ 0 then .ok false
      else go as ns ms (seen ++ [m])
    | _, _, _, _ => .ok true
  go address network mask []

def matchAddress (address base : Bytes) : Except PathError Bool :=
  match address.length, base.length with
  | 4, 8 | 16, 32 =>
    isInNetwork address (base.take address.length) (base.drop address.length)
  | 4, 32 | 16, 8 => .ok false
  | 4, _ | 16, _ => .error .invalidNetworkMask
  | _, _ => .error .badEncoding

/-- Names are permitted if all that their pattern stands for is, and excluded if any of it is. -/
def matchHost (isExclusion : Bool) (pattern base : Bytes) : Except PathError Bool :=
  if !Host.isPattern pattern then .error .malformedDnsName
  else if !Host.isDomain base then .error .malformedNameConstraint
  else .ok (if isExclusion then Host.overlaps pattern base else Host.isWithin pattern base)

/-- Whether a name is of the kind of a constraint, and meets it. A constraint on directory names is
met by all of them where names are excluded, and by none where they are permitted. Names of kinds
whose constraints are not understood must not be constrained. -/
def meets (isExclusion : Bool) : GeneralName → GeneralName → Except PathError (Option Bool)
  | .dns pattern, .dns base => (matchHost isExclusion pattern base).map some
  | .directory, .directory => .ok (some isExclusion)
  | .ip address, .ip base => (matchAddress address base).map some
  | .uri _, .uri _ => .error .nameConstraintViolation
  | .unsupported kind, .unsupported base =>
    if kind = base then .error .nameConstraintViolation else .ok none
  | _, _ => .ok none

private def subtree : Parser GeneralName := do
  filling .trailingData GeneralName.parser (← element Der.Strict.sequence)

private def outcomes (isExclusion : Bool) (name : GeneralName) :
    Nat → Bytes → Search (List Bool)
  | _, [] => return []
  | 0, _ :: _ => return []
  | fuel + 1, input => do
    Search.spendComparison
    let (base, rest) ← Search.ofExcept (subtree input)
    match ← Search.ofExcept (meets isExclusion name base) with
    | some true =>
      if isExclusion then throw .nameConstraintViolation
      return true :: (← outcomes isExclusion name fuel rest)
    | some false => return false :: (← outcomes isExclusion name fuel rest)
    | none => outcomes isExclusion name fuel rest

/-- Where names of its kind are permitted, a name must be one of them, and it must not be
excluded. -/
def checkName (constraints : NameConstraints) (name : GeneralName) : Search Unit := do
  if let some content := constraints.permitted then
    let met ← outcomes false name content.length content
    if met ≠ [] ∧ true ∉ met then throw .nameConstraintViolation
  if let some content := constraints.excluded then
    discard (outcomes true name content.length content)

/-- All names of a certificate, and that of its subject. -/
def checkCertificate (constraints : NameConstraints) (c : Certificate) : Search Unit := do
  let (names, fault) := GeneralName.ofCertificate c
  for name in names do constraints.checkName name
  if let some e := fault then throw e
  constraints.checkName .directory

end NameConstraints
end SecureChannel
