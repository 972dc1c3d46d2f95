import SecureChannel.Headers.Table

/-! Header blocks of requests and responses. -/
namespace SecureChannel

/-- Whose headers they are. -/
inductive Side
  | request
  | response
deriving DecidableEq

/-- Headers of a request that are kept outside its table. -/
inductive Hoisted
  | path
  | authority
  | method
  | scheme
  | te
deriving DecidableEq

namespace Hoisted

/-- In the order of display. -/
def all : List Hoisted := [.path, .authority, .method, .scheme, .te]

def label : Hoisted → String
  | .path => ":path"
  | .authority => ":authority"
  | .method => ":method"
  | .scheme => ":scheme"
  | .te => "te"

def headerName (h : Hoisted) : Bytes := Bytes.ofString h.label

end Hoisted

def Side.label : Side → String
  | .request => "RequestHeaders"
  | .response => "ResponseHeaders"

/-- Responses keep everything in the table. -/
def Side.hoisted? (side : Side) (name : Bytes) : Option Hoisted :=
  match side with
  | .request => Hoisted.all.find? (·.headerName = name)
  | .response => none

structure HeaderView (side : Side) where
  slots : Hoisted → Option Bytes
  table : HeaderTable

namespace HeaderView

variable {side : Side}

def withCapacity (guess : Nat) : HeaderView side := ⟨fun _ => none, .withCapacity guess⟩

def empty : HeaderView side := withCapacity 1

def setSlot (v : HeaderView side) (h : Hoisted) (value : Option Bytes) : HeaderView side :=
  { v with slots := fun k => if k = h then value else v.slots k }

/-- Adds a header: the outcome, and the view afterwards. In requests a pseudo-header needs a free
slot of its own. The last `te` wins. -/
def addStep (v : HeaderView side) (name value : Bytes) :
    Except HeaderError Unit × HeaderView side :=
  match HeaderName.check name with
  | .error e => (.error e, v)
  | .ok () =>
    match side.hoisted? name with
    | some h =>
      if HeaderName.isPseudo name ∧ (v.slots h).isSome then (.error (.duplicatePseudoHeader name), v)
      else (.ok (), v.setSlot h (some value))
    | none =>
      if side = .request ∧ HeaderName.isPseudo name then (.error (.illegalPseudoHeader name), v)
      else
        let (result, table) := v.table.addStep name value
        (result, { v with table })

/-- The view with one more header, unless the header is refused. -/
def add (v : HeaderView side) (name value : Bytes) : Except HeaderError (HeaderView side) :=
  let (result, v) := v.addStep name value
  result.map fun () => v

def get? (v : HeaderView side) (name : Bytes) : Option Bytes :=
  match side.hoisted? name with
  | some h => v.slots h
  | none => v.table.get? name

def getAll (v : HeaderView side) (name : Bytes) : List Bytes :=
  match side.hoisted? name with
  | some h => (v.slots h).toList
  | none => v.table.getAll name

def contains (v : HeaderView side) (name : Bytes) : Bool := (v.get? name).isSome

/-- Whether a name has values, and the view without them. -/
def erase (v : HeaderView side) (name : Bytes) : Bool × HeaderView side :=
  match side.hoisted? name with
  | some h => ((v.slots h).isSome, v.setSlot h none)
  | none =>
    let (found, table) := v.table.erase name
    (found, { v with table })

def remove (v : HeaderView side) (name : Bytes) : HeaderView side := (v.erase name).2

/-- The outcome of replacing all values of a name, which loses them where the new one is refused. -/
def set (v : HeaderView side) (name value : Bytes) : Except HeaderError Unit × HeaderView side :=
  match HeaderName.check name with
  | .error e => (.error e, v)
  | .ok () => (v.remove name).addStep name value

/-- The filled slots, in order of display. -/
def filled (v : HeaderView side) : List (Bytes × Bytes) :=
  Hoisted.all.filterMap fun h => (v.slots h).map fun value => (h.headerName, value)

/-- How many slots are filled. -/
def filledCount (v : HeaderView side) : Nat := (Hoisted.all.filterMap v.slots).length

def size (v : HeaderView side) : Nat := v.filledCount + v.table.length

def isEmpty (v : HeaderView side) : Bool := v.size == 0

/-- All headers with their values as received: slots first. -/
def toList (v : HeaderView side) : List (Bytes × Bytes) := v.filled ++ v.table.toList

def display (v : HeaderView side) : String :=
  side.label ++ "[" ++ ", ".intercalate (v.toList.map fun (name, value) =>
    name.toStringLossy ++ ": " ++ value.toStringLossy) ++ "]"

end HeaderView
end SecureChannel
