import SecureChannel.Config.Basic
import SecureChannel.Headers.View
import SecureChannel.Number.Single

/-! Decoders of header lists. One serves a connection and learns how long its lists are. -/
namespace SecureChannel

structure HeaderDecoder (side : Side) where
  limit : UInt64
  /-- A running average of the number of entries. -/
  average : Single
deriving DecidableEq

namespace HeaderDecoder

variable {side : Side}

/-- What each field adds to the size of a list beside its text. -/
def fieldOverhead : Nat := 32

/-- Sizes do not grow beyond this. -/
def maxSize : Nat := UInt64.size - 1

/-- The limit divided among fields without text. -/
def maxEntries (limit : UInt64) : Nat := max (limit.toNat / fieldOverhead) 1

def clampEntries (limit : UInt64) (n : Nat) : Nat := max 1 (min n (maxEntries limit))

/-- The weight of the newest list: the number nearest to `0.2`. -/
def newWeight : Single := ⟨13421773 <<< 123⟩

/-- The weight of all lists before: the number nearest to `0.8`. -/
def oldWeight : Single := ⟨13421773 <<< 125⟩

def ofLimits (limits : HeaderLimits) : HeaderDecoder side :=
  ⟨limits.maxListSize, .ofNat (clampEntries limits.maxListSize limits.initialGuess.toNat)⟩

/-- The capacity of the next table. -/
def guess (d : HeaderDecoder side) : Nat := clampEntries d.limit d.average.floor

def setLimit (d : HeaderDecoder side) (limit : UInt64) : HeaderDecoder side := { d with limit }

def grownSize (size : Nat) (name value : Bytes) : Nat :=
  min maxSize (size + name.length + value.length + fieldOverhead)

/-- Adds fields to a view. The size is checked before the field is looked at. -/
def fill (limit : UInt64) (size : Nat) (view : HeaderView side) :
    List (Bytes × Bytes) → Except HeaderError (HeaderView side)
  | [] => .ok view
  | (name, value) :: rest =>
    let size := grownSize size name value
    if limit.toNat < size then .error (.listTooLarge size limit.toNat)
    else do fill limit size (← view.add name value) rest

def learn (d : HeaderDecoder side) (entries : Nat) : HeaderDecoder side :=
  { d with average := (newWeight.mul (.ofNat entries)).add (oldWeight.mul d.average) }

/-- Reads a list: the outcome, and the decoder afterwards. It learns once the whole list is in. -/
def decodeStep (d : HeaderDecoder side) (fields : List (Bytes × Bytes)) :
    Except HeaderError (HeaderView side) × HeaderDecoder side :=
  match fill d.limit 0 (.withCapacity d.guess) fields with
  | .error e => (.error e, d)
  | .ok view => (.ok view, d.learn view.size)

/-- The view of a list and the decoder for the next one, unless the list is refused. -/
def decode (d : HeaderDecoder side) (fields : List (Bytes × Bytes)) :
    Except HeaderError (HeaderView side × HeaderDecoder side) :=
  let (result, next) := d.decodeStep fields
  result.map (·, next)

end HeaderDecoder
end SecureChannel
