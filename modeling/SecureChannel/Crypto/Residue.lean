/-! Arithmetic of whole numbers up to multiples of a modulus. -/
namespace SecureChannel

/-- A number modulo `m`. Every operation gives one below `m`. -/
structure Residue (m : Nat) where
  value : Nat
deriving DecidableEq

namespace Residue

variable {m : Nat}

def ofNat (m n : Nat) : Residue m := ⟨n % m⟩

instance (n : Nat) : OfNat (Residue m) n := ⟨ofNat m n⟩

instance : Add (Residue m) := ⟨fun a b => ofNat m (a.value + b.value)⟩

instance : Sub (Residue m) := ⟨fun a b => ofNat m (a.value + (m - b.value))⟩

instance : Mul (Residue m) := ⟨fun a b => ofNat m (a.value * b.value)⟩

/-- So many low bits of a number, the highest first. -/
def bits (count n : Nat) : List Bool := (List.range count).reverse.map n.testBit

def power (x : Residue m) (n : Nat) : Residue m :=
  (bits (n.log2 + 1) n).foldl (fun y b => if b then y * y * x else y * y) 1

/-- The inverse modulo a prime. -/
def inverse (x : Residue m) : Residue m := x.power (m - 2)

end Residue
end SecureChannel
