/-! Numbers of the 32-bit binary format that are not negative and stay finite. -/
namespace SecureChannel

/-- A number counts units of the smallest positive one, `2^-149`. -/
structure Single where
  units : Nat
deriving DecidableEq

namespace Single

/-- Drops low bits and rounds to the nearest, ties to even. -/
def roundOff (bits n : Nat) : Nat :=
  let unit := 1 <<< bits
  let q := n / unit
  let twice := 2 * (n % unit)
  if twice < unit then q else if unit < twice then q + 1 else q + q % 2

/-- The nearest number to a count of units of `2^-(149 + shift)`: at most 24 bits are kept. -/
def round (shift n : Nat) : Single :=
  let bits := max shift (n.log2 + 1 - 24)
  ⟨roundOff bits n <<< (bits - shift)⟩

def ofNat (n : Nat) : Single := round 0 (n <<< 149)

def add (a b : Single) : Single := round 0 (a.units + b.units)

def mul (a b : Single) : Single := round 149 (a.units * b.units)

/-- The integral part. -/
def floor (a : Single) : Nat := a.units >>> 149

end Single
end SecureChannel
