import SecureChannel.Path.Reading

/-! Certificates that can be part of a certification path, and trust anchors. -/
namespace SecureChannel

/-- Extensions that paths take into account. -/
inductive KnownExtension
  | keyUsage
  | altNames
  | basicConstraints
  | nameConstraints
  | revocationLists
  | purposes
deriving DecidableEq

/-- Parts are contents of elements; only `signed` is a whole element. -/
structure Certificate where
  signed : Bytes
  algorithm : Bytes
  signature : Bytes
  issuer : Bytes
  validity : Bytes
  subject : Bytes
  publicKey : Bytes
  extensions : List (KnownExtension × Bytes)
deriving DecidableEq

/-- Whom a path may end with. -/
structure Anchor where
  subject : Bytes
  publicKey : Bytes
  nameConstraints : Option Bytes
deriving DecidableEq

namespace Certificate

open SecureChannel.Path SecureChannel.Path.Parser Der

def extension? (c : Certificate) (kind : KnownExtension) : Option Bytes :=
  (c.extensions.find? (·.1 = kind)).map (·.2)

def knownExtension? (oid : Oid) : Option KnownExtension :=
  match oid with
  | [0x55, 0x1D, 15] => some .keyUsage
  | [0x55, 0x1D, 17] => some .altNames
  | [0x55, 0x1D, 19] => some .basicConstraints
  | [0x55, 0x1D, 30] => some .nameConstraints
  | [0x55, 0x1D, 31] => some .revocationLists
  | [0x55, 0x1D, 37] => some .purposes
  | _ => none

/-- An element that was signed, whole, with its content, the algorithm and the signature. -/
structure SignedData where
  whole : Bytes
  content : Bytes
  algorithm : Bytes
  signature : Bytes

def signedData : Parser SignedData := do
  let before ← get
  let content ← element Strict.sequence
  let after ← get
  let algorithm ← element Strict.sequence
  return ⟨before.take (before.length - after.length), content, algorithm, ← bytesOfBits⟩

/-- Only the third version has extensions, and only it will do. -/
def version : Parser Unit :=
  nested (Strict.context 0) .unsupportedVersion do
    if (← smallNatural) ≠ 2 then throw .unsupportedVersion

/-- What a known extension holds. Key usage is no sequence, and is kept as it is. -/
def extensionContent (kind : KnownExtension) (value : Bytes) : Except PathError Bytes :=
  if kind = .keyUsage then .ok value
  else filling .badEncoding (element Strict.sequence) value

/-- Who reads a certificate. -/
inductive Reading
  /-- It is part of a path. -/
  | path
  /-- It is an anchor, most extensions of which do not matter. -/
  | anchor
deriving DecidableEq

/-- Known extensions must not be repeated, and unknown ones not critical in a path. -/
def remember (reading : Reading) (found : List (KnownExtension × Bytes)) :
    Parser (List (KnownExtension × Bytes)) := do
  let oid ← element Strict.objectIdentifier
  let critical ← flag
  let value ← element Strict.octetString
  match knownExtension? oid with
  | none =>
    if critical ∧ reading = .path then throw .unsupportedCriticalExtension
    return found
  | some kind =>
    if found.any (·.1 = kind) then throw .repeatedExtension
    return found ++ [(kind, ← extensionContent kind value)]

private def rememberAll (reading : Reading) : Nat → List (KnownExtension × Bytes) →
    Parser (List (KnownExtension × Bytes))
  | 0, found => return found
  | fuel + 1, found => do
    if ← atEnd then return found
    rememberAll reading fuel (← nested Strict.sequence .trailingData (remember reading found))

/-- Nothing, or a sequence of extensions, perhaps an empty one. -/
def extensionList (reading : Reading) : Parser (List (KnownExtension × Bytes)) := do
  if ← atEnd then return []
  nested (Strict.context 3) .trailingData do
    nested Strict.sequence .trailingData fun input =>
      rememberAll reading input.length [] input

/-- The algorithm is named inside and outside of the signed part. -/
def body (reading : Reading) (data : SignedData) : Parser Certificate := do
  version
  discard (element Strict.integer)
  let algorithm ← element Strict.sequence
  if algorithm ≠ data.algorithm then throw .algorithmMismatch
  let issuer ← element Strict.sequence
  let validity ← element Strict.sequence
  let subject ← element Strict.sequence
  let publicKey ← element Strict.sequence
  return ⟨data.whole, algorithm, data.signature, issuer, validity, subject, publicKey,
    ← extensionList reading⟩

def read (reading : Reading) (bytes : Bytes) : Except PathError Certificate := do
  let data ← filling .trailingData (nested Strict.sequence .trailingData signedData) bytes
  filling .trailingData (body reading data) data.content

/-- A certificate that can be part of a path. -/
def ofBytes (bytes : Bytes) : Except PathError Certificate := read .path bytes

end Certificate

namespace Anchor

open SecureChannel.Path SecureChannel.Path.Parser Der

def ofCertificate (c : Certificate) : Anchor :=
  ⟨c.subject, c.publicKey, c.extension? .nameConstraints⟩

/-- The first version, which has no extensions. -/
def firstVersion : Parser Anchor :=
  nested Strict.sequence .badEncoding do
    let anchor ← nested Strict.sequence .badEncoding do
      discard (element Strict.integer)
      discard (element Strict.sequence)
      discard (element Strict.sequence)
      discard (element Strict.sequence)
      let subject ← element Strict.sequence
      return ⟨subject, ← element Strict.sequence, none⟩
    discard (element Strict.sequence)
    discard (element Strict.bitString)
    return anchor

/-- Anchors are taken on trust: nothing is verified, and the first version will do as well. -/
def ofBytes (bytes : Bytes) : Except PathError Anchor :=
  match Certificate.read .anchor bytes with
  | .ok c => .ok (ofCertificate c)
  | .error .unsupportedVersion =>
    match filling .badEncoding firstVersion bytes with
    | .ok anchor => .ok anchor
    | .error _ => .error .badEncoding
  | .error e => .error e

/-- The subject as a whole element. -/
def distinguishedName (anchor : Anchor) : Bytes := Strict.encode Strict.sequence anchor.subject

end Anchor
end SecureChannel
