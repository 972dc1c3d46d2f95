import SecureChannel.Net.Address
import SecureChannel.Text.Utf8

/-! Host names, the patterns for them in certificates, and names of servers. -/
namespace SecureChannel

namespace Host

/-- Names of hosts are no longer than this. -/
def maxLength : Nat := 253

def dot : UInt8 := 0x2E

def hyphen : UInt8 := 0x2D

def asterisk : UInt8 := 0x2A

def isLabelByte (b : UInt8) : Bool := Bytes.isAlphanumeric b || b == hyphen || b == 0x5F

/-- One to 63 letters, digits, hyphens and underscores, with no hyphen at either end. -/
def isLabel (label : Bytes) : Bool :=
  label ≠ [] ∧ label.length ≤ 63 ∧ label.all isLabelByte ∧
    label.head? ≠ some hyphen ∧ label.getLast? ≠ some hyphen

/-- The last label must not be a number, so that no address is taken for a name. -/
def areLabels (labels : List Bytes) : Bool :=
  labels.all isLabel && labels.getLast?.any fun label => !label.all Bytes.isDigit

/-- A name someone looks for. It may end in a dot. -/
def isName (name : Bytes) : Bool :=
  let labels := name.splitOn dot
  name.length ≤ maxLength &&
    areLabels (if labels.getLast? = some [] then labels.dropLast else labels)

/-- A name in a certificate. An asterisk may stand for the first of at least three labels. -/
def isPattern (pattern : Bytes) : Bool :=
  pattern.length ≤ maxLength &&
    match pattern.splitOn dot with
    | [0x2A] :: labels => 2 ≤ labels.length && areLabels labels
    | labels => areLabels labels

/-- The end of names: everything, or labels, perhaps after a dot. -/
def isDomain (domain : Bytes) : Bool :=
  domain.length ≤ maxLength &&
    (domain.isEmpty ||
      areLabels ((if domain.head? = some dot then domain.tail else domain).splitOn dot))

/-- What follows the first label, beginning with its dot. -/
def afterLabel (name : Bytes) : Bytes := (name.drop 1).dropWhile (· ≠ dot)

/-- The asterisk stands for exactly one label. -/
def covers (pattern name : Bytes) : Bool :=
  if pattern.head? = some asterisk then
    afterLabel name ≠ [] && Bytes.eqIgnoreCase pattern.tail (afterLabel name)
  else Bytes.eqIgnoreCase pattern name

/-- A pattern in a certificate stands for a name someone looks for. Malformed patterns stand for
none. -/
def accepts (pattern name : Bytes) : Bool :=
  isPattern pattern && isName name &&
    (covers pattern name || name.getLast? = some dot && covers pattern name.dropLast)

/-- The end of a name that is as long as the domain, where it begins a label; all of a name that is
no longer. -/
def ending? (name domain : Bytes) : Option Bytes :=
  let excess := name.length - domain.length
  if excess = 0 ∨ domain.head? = some dot ∨ name[excess - 1]? = some dot then
    some (name.drop excess)
  else none

/-- All that a well-formed pattern stands for lies in the domain. -/
def isWithin (pattern domain : Bytes) : Bool :=
  domain.isEmpty || (ending? pattern domain).any (Bytes.eqIgnoreCase · domain)

/-- Something that a well-formed pattern stands for lies in the domain. To an asterisk a dot at the
front of the domain makes no difference. -/
def overlaps (pattern domain : Bytes) : Bool :=
  domain.isEmpty || (ending? pattern domain).any (covers · domain)

end Host

/-- Whom a client wants to reach. -/
inductive ServerName
  | host (name : String)
  | address (ip : IpAddress)
deriving DecidableEq

namespace ServerName

def parse? (text : String) : Option ServerName :=
  if Host.isName (Bytes.ofString text) then some (.host text)
  else (IpAddress.parse? text).map .address

def display : ServerName → String
  | .host name => name
  | .address ip => ip.display

end ServerName
end SecureChannel
