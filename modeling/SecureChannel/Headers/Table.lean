import SecureChannel.Headers.Name

/-! Tables of header fields: entries in order, in arrays that grow as needed. -/
namespace SecureChannel

/-- Slots `2i` and `2i + 1` hold the name and the value of entry `i`, and a slot of the second array
holds its value as received. Slots beyond the entries are empty. -/
structure HeaderTable where
  slots : Array (Option Bytes)
  wires : Array (Option Bytes)
  length : Nat
deriving DecidableEq

namespace HeaderTable

/-- An empty table for so many entries, at least one. -/
def withCapacity (guess : Nat) : HeaderTable :=
  let capacity := max guess 1
  ⟨Array.replicate (2 * capacity) none, Array.replicate capacity none, 0⟩

def empty : HeaderTable := withCapacity 1

def capacity (t : HeaderTable) : Nat := t.wires.size

def isEmpty (t : HeaderTable) : Bool := t.length == 0

def nameAt (t : HeaderTable) (i : Nat) : Bytes := t.slots[2 * i]?.join.getD []

def valueAt? (t : HeaderTable) (i : Nat) : Option Bytes := t.slots[2 * i + 1]?.join

def wireAt (t : HeaderTable) (i : Nat) : Bytes := t.wires[i]?.join.getD []

/-- Where a name occurs, in order. -/
def positions (t : HeaderTable) (name : Bytes) : List Nat :=
  (List.range t.length).filter (t.nameAt · = name)

def get? (t : HeaderTable) (name : Bytes) : Option Bytes :=
  (t.positions name).head?.bind t.valueAt?

def getAll (t : HeaderTable) (name : Bytes) : List Bytes :=
  (t.positions name).filterMap t.valueAt?

def contains (t : HeaderTable) (name : Bytes) : Bool := !(t.positions name).isEmpty

/-- Names with values as received. -/
def toList (t : HeaderTable) : List (Bytes × Bytes) :=
  (List.range t.length).map fun i => (t.nameAt i, t.wireAt i)

def extend (size : Nat) (a : Array (Option Bytes)) : Array (Option Bytes) :=
  a ++ Array.replicate (size - a.size) none

/-- Half as much again, at least two. -/
def grow (t : HeaderTable) : HeaderTable :=
  let capacity := max (t.capacity + t.capacity / 2) 2
  { t with slots := extend (2 * capacity) t.slots, wires := extend capacity t.wires }

def push (t : HeaderTable) (name value wire : Bytes) : HeaderTable :=
  let t := if t.length = t.capacity then t.grow else t
  ⟨(t.slots.setIfInBounds (2 * t.length) (some name)).setIfInBounds (2 * t.length + 1) (some value),
    t.wires.setIfInBounds t.length (some wire), t.length + 1⟩

/-- A part of a binary value with its decoded bytes. -/
def segment (name wire : Bytes) : Except HeaderError (Bytes × Bytes) :=
  match Base64.decode wire with
  | .ok bytes => .ok (bytes, wire)
  | .error fault => .error (.invalidBinaryValue name fault)

/-- The parts of a binary value; commas separate them. -/
def segments (name value : Bytes) : Except HeaderError (List (Bytes × Bytes)) :=
  (value.splitOn 0x2C).mapM (segment name)

/-- Stores a field after all others: the outcome, and the table afterwards. The parts of a binary
value become an entry each, but all of them are decoded before the first is stored. -/
def addStep (t : HeaderTable) (name value : Bytes) : Except HeaderError Unit × HeaderTable :=
  match HeaderName.check name with
  | .error e => (.error e, t)
  | .ok () =>
    if HeaderName.isBinary name then
      match segments name value with
      | .error e => (.error e, t)
      | .ok parts => (.ok (), parts.foldl (fun t (bytes, wire) => t.push name bytes wire) t)
    else (.ok (), t.push name value value)

/-- The table with one more field, unless the field is refused. -/
def add (t : HeaderTable) (name value : Bytes) : Except HeaderError HeaderTable :=
  let (result, t) := t.addStep name value
  result.map fun () => t

/-- Exchanges two entries. -/
def swap (t : HeaderTable) (i j : Nat) : HeaderTable :=
  { t with
    slots := (t.slots.swapIfInBounds (2 * i) (2 * j)).swapIfInBounds (2 * i + 1) (2 * j + 1)
    wires := t.wires.swapIfInBounds i j }

/-- Empties the slots of an entry. -/
def clear (t : HeaderTable) (i : Nat) : HeaderTable :=
  { t with
    slots := (t.slots.setIfInBounds (2 * i) none).setIfInBounds (2 * i + 1) none
    wires := t.wires.setIfInBounds i none }

/-- Looks at so many entries from `i` on, and moves those of other names up to `dest` in order. The
place after the last of them is given with the table. -/
def compact (name : Bytes) (t : HeaderTable) (dest i : Nat) : Nat → HeaderTable × Nat
  | 0 => (t, dest)
  | count + 1 =>
    if t.nameAt i = name then compact name t dest (i + 1) count
    else compact name (t.swap dest i) (dest + 1) (i + 1) count

/-- Whether a name has entries, and the table without them. The others move up in order, and the
capacity stays. -/
def erase (t : HeaderTable) (name : Bytes) : Bool × HeaderTable :=
  match (t.positions name).head? with
  | none => (false, t)
  | some first =>
    let (u, dest) := compact name t first first (t.length - first)
    (true, { (List.range' dest (t.length - dest)).foldl clear u with length := dest })

def remove (t : HeaderTable) (name : Bytes) : HeaderTable := (t.erase name).2

/-- The outcome of replacing all values of a name. A refused name changes nothing, but a refused
value leaves the name without values. -/
def set (t : HeaderTable) (name value : Bytes) : Except HeaderError Unit × HeaderTable :=
  match HeaderName.check name with
  | .error e => (.error e, t)
  | .ok () => (t.remove name).addStep name value

end HeaderTable
end SecureChannel
