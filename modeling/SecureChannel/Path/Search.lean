import SecureChannel.Path.Distrust
import SecureChannel.Path.GeneralName
import SecureChannel.Time.Written

/-! Certification paths, from a certificate up to a trust anchor. -/
namespace SecureChannel.Path

open SecureChannel.Path.Parser Der

/-- What a path is looked for with. The time is in seconds of the Unix epoch. -/
structure Request where
  anchors : List Anchor
  intermediates : List Bytes
  purpose : KeyPurpose
  time : Nat

def time : Parser Nat := do
  let isShort ← isNext Strict.utcTime
  let tag := if isShort then Strict.utcTime else Strict.generalizedTime
  nested tag .trailingData do
    let t ← ofReader (if isShort then CalendarTime.short else CalendarTime.long)
    match t.toUnix? with
    | some seconds => return seconds
    | none => throw .badEncoding

/-- Both ends belong to the validity of a certificate. -/
def checkTime (now : Nat) (c : Certificate) : Except PathError Unit :=
  filling .badEncoding (do
    let notBefore ← time
    let notAfter ← time
    if notAfter < notBefore then throw .invalidValidity
    if now < notBefore then throw (.notYetValid now notBefore)
    if notAfter < now then throw (.expired now notAfter)) c.validity

/-- Whether it is an authority, and how many authorities may stand between it and the leaf. -/
structure BasicConstraints where
  isAuthority : Bool
  maxBelow : Option Nat
deriving DecidableEq

private def basicConstraintsParser : Parser BasicConstraints := do
  let isAuthority ← flag
  if ← atEnd then return ⟨isAuthority, none⟩
  return ⟨isAuthority, some (← smallNatural)⟩

def basicConstraints (c : Certificate) : Except PathError BasicConstraints :=
  match c.extension? .basicConstraints with
  | none => .ok ⟨false, none⟩
  | some content => filling .badEncoding basicConstraintsParser content

/-- Leaves are no authorities, and all others are. -/
def checkRole (below : List Certificate) (c : Certificate) : Except PathError Unit := do
  let constraints ← basicConstraints c
  match below with
  | [] => if constraints.isAuthority then throw .caUsedAsEndEntity
  | _ :: between =>
    if !constraints.isAuthority then throw .endEntityUsedAsCa
    if constraints.maxBelow.any (· < between.length) then throw .pathLengthExceeded

private def purposesFrom (required : KeyPurpose) :
    Nat → Bytes → Except PathError (Bool × List KeyPurpose)
  | 0, _ => .error .badEncoding
  | fuel + 1, input => do
    let (oid, rest) ← element Strict.objectIdentifier input
    let purpose : KeyPurpose := ⟨oid⟩
    if purpose = required then return (true, [])
    if rest.isEmpty then return (false, [purpose])
    let (found, others) ← purposesFrom required fuel rest
    return (found, purpose :: others)

/-- Without the extension every purpose is allowed. -/
def checkPurpose (required : KeyPurpose) (c : Certificate) : Except PathError Unit := do
  if let some content := c.extension? .purposes then
    if content.isEmpty then throw .emptyPurposes
    let (found, others) ← purposesFrom required (content.length + 1) content
    if !found then throw (.purposeNotAllowed required others)

/-- What can be said of a certificate without its issuer. -/
def checkAlone (r : Request) (below : List Certificate) (c : Certificate) :
    Except PathError Unit := do
  checkKey c.publicKey
  checkTime r.time c
  checkRole below c
  checkPurpose r.purpose c

/-- The first certificate is signed with the key, and each other by the one before it. -/
def checkSignatures (key : Bytes) : List Certificate → Search Unit
  | [] => return
  | c :: below => do
    Search.spendSignature
    Search.ofExcept (c.checkSignature key)
    checkSignatures c.publicKey below

/-- The constraints of each issuer hold for all certificates below it. -/
def checkConstraints (constraints : Option Bytes) : List Certificate → Search Unit
  | [] => return
  | c :: below => do
    if let some content := constraints then
      let (constraints, rest) ← Search.ofExcept (NameConstraints.parser content)
      for c in c :: below do constraints.checkCertificate c
      if rest ≠ [] then throw .badEncoding
    checkConstraints (c.extension? .nameConstraints) below

/-- A path that ends with the anchor. -/
def checkAnchor (path : List Certificate) (anchor : Anchor) : Search Unit := do
  if path.head?.map (·.issuer) ≠ some anchor.subject then throw .unknownIssuer
  Search.ofExcept (checkKey anchor.publicKey)
  checkSignatures anchor.publicKey path
  checkConstraints anchor.nameConstraints path

/-- Whether a certificate is one of the issuer, and not in the path yet. -/
def checkIssuer (path : List Certificate) (c : Certificate) : Except PathError Unit :=
  if path.head?.map (·.issuer) ≠ some c.subject ∨
      path.any (fun p => p.publicKey = c.publicKey ∧ p.subject = c.subject) then
    .error .unknownIssuer
  else .ok ()

/-- Looks for the rest of a path above a certificate and those below it, with at most so many more
certificates before the anchor. -/
def search (r : Request) (intermediates : List (Except PathError Certificate)) (more : Nat)
    (c : Certificate) (below : List Certificate) : Search Unit := do
  Search.ofExcept (checkAlone r below c)
  let path := c :: below
  fun budget =>
    match Search.tryEach (checkAnchor path) .unknownIssuer r.anchors budget with
    | (.ok (), budget) => (.ok (), budget)
    | (.error e, budget) =>
      if e.endsSearch then (.error e, budget)
      else Search.tryEach (fun candidate => do
        let next ← Search.ofExcept candidate
        Search.ofExcept (checkIssuer path next)
        Search.spendExtension
        match more with
        | 0 => throw .tooDeep
        | more + 1 => search r intermediates more next path) e intermediates budget

/-- Authorities between a leaf and its anchor. -/
def maxIntermediates : Nat := 6

/-- There is a path from the certificate to an anchor. -/
def check (r : Request) (leaf : Certificate) : Except PathError Unit :=
  (search r (r.intermediates.map Certificate.ofBytes) maxIntermediates leaf []).outcome

end SecureChannel.Path
