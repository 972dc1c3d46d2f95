import Std.Data.HashMap

/-! States to be found again by what they do. There is a fixed number of slots, and what is put into
a slot replaces what was there, so a state may be made twice. -/
namespace SecureChannel.Regex.Automaton

/-- The numbers of states by their keys, at most one for each slot. -/
structure Cache where
  slots : Nat
  entries : Std.HashMap Nat (List Nat × Nat)

namespace Cache

def ofSlots (slots : Nat) : Cache := ⟨slots, {}⟩

/-- A hash of 64 bits, to which every number of the key adds in turn. -/
def hash (key : List Nat) : UInt64 :=
  key.foldl (fun h n => (h ^^^ UInt64.ofNat n) * 0x100000001B3) 0xCBF29CE484222325

def slot (c : Cache) (key : List Nat) : Nat := (hash key).toNat % c.slots

def find? (c : Cache) (key : List Nat) : Option Nat :=
  match c.entries[c.slot key]? with
  | some (k, id) => if k = key then some id else none
  | none => none

def insert (c : Cache) (key : List Nat) (id : Nat) : Cache :=
  { c with entries := c.entries.insert (c.slot key) (key, id) }

end Cache
end SecureChannel.Regex.Automaton
