import SecureChannel.Text.Base64

/-! Certificates in text: base64 between lines that mark where a section begins and ends. -/
namespace SecureChannel.Pem

private def ascii (text : String) : Bytes := text.toList.map fun c => UInt8.ofNat c.toNat

private def isNewline (b : UInt8) : Bool := b == 0x0A || b == 0x0D

/-- Lines end at line feeds and at carriage returns. -/
def lines (text : Bytes) : List Bytes :=
  (text.map fun b => if isNewline b then 0x0A else b).splitOn 0x0A

/-- Between tabulator and carriage return, or a space. -/
def isBlank (b : UInt8) : Bool := b == 0x20 || (0x09 ≤ b && b ≤ 0x0D)

/-- The values of symbols in groups of four. The last group is complete, with or without padding,
or is two or three symbols without any; the bits left over do not matter. -/
private def groups? : Bytes → Option (List Nat)
  | [] => some []
  | [a, b] => [a, b].mapM Base64.value?
  | [a, b, c] => [a, b, c].mapM Base64.value?
  | a :: b :: c :: d :: rest => do
    let first ← Base64.value? a
    let second ← Base64.value? b
    if c = Base64.padding ∧ d = Base64.padding ∧ rest = [] then return [first, second]
    let third ← Base64.value? c
    if d = Base64.padding ∧ rest = [] then return [first, second, third]
    return first :: second :: third :: (← Base64.value? d) :: (← groups? rest)
  | _ => none

/-- Base64 with all of its padding or none, and blanks anywhere. -/
def decode? (text : Bytes) : Option Bytes :=
  (groups? (text.filter (!isBlank ·))).map Base64.unpack

/-- What a line is. -/
inductive Line
  | opening (label : Bytes)
  /-- It begins as an opening one, but does not end as one. -/
  | malformed
  | text (content : Bytes)

private def openingMark : Bytes := ascii "-----BEGIN "

private def closingMark (label : Bytes) : Bytes := ascii "-----END " ++ label ++ ascii "-----"

private def hyphen : UInt8 := 0x2D

/-- An opening line ends in five hyphens, and spaces after or between them do not count. -/
def Line.ofBytes (line : Bytes) : Line :=
  if openingMark.isPrefixOf line then
    let tail := line.reverse.takeWhile fun b => b == hyphen || b == 0x20
    let marks := (tail.reverse.dropWhile (· ≠ hyphen)).length
    if tail.count hyphen = 5 then
      .opening ((line.take (line.length - marks)).drop openingMark.length)
    else .malformed
  else .text line

private def certificateLabel : Bytes := ascii "CERTIFICATE"

/-- The labels of sections that must hold base64; sections with other labels are skipped. -/
def knownLabels : List Bytes :=
  certificateLabel :: ["PUBLIC KEY", "RSA PRIVATE KEY", "PRIVATE KEY", "EC PRIVATE KEY", "X509 CRL",
    "CERTIFICATE REQUEST", "ECHCONFIG"].map ascii

/-- An open section. -/
structure Section where
  label : Bytes
  content : Bytes

/-- The certificate that a section holds, if it holds one; none if its content is malformed. -/
def Section.certificate? (s : Section) : Option (Option Bytes) :=
  if knownLabels.contains s.label then
    (decode? s.content).map fun found => if s.label = certificateLabel then some found else none
  else some none

/-- The certificates among the sections. Text outside of sections is skipped. -/
def scan? : Option Section → List Bytes → Option (List Bytes)
  | none, [] => some []
  | some _, [] => none
  | opened, line :: rest =>
    match Line.ofBytes line, opened with
    | .malformed, _ => none
    | .opening label, none => scan? (some ⟨label, []⟩) rest
    | .opening label, some inside => scan? (some ⟨label, inside.content⟩) rest
    | .text _, none => scan? none rest
    | .text content, some inside =>
      if (closingMark inside.label).isPrefixOf content then do
        let found ← inside.certificate?
        return found.toList ++ (← scan? none rest)
      else scan? (some ⟨inside.label, inside.content ++ content⟩) rest

/-- The certificates of a text in order; none if a section is malformed or not closed. -/
def certificates? (text : Bytes) : Option (List Bytes) := scan? none (lines text)

end SecureChannel.Pem
