import SecureChannel.Crypto.Addition
import SecureChannel.Crypto.Sha512

/-! Signatures on the curve `y ^ 2 - x ^ 2 = 1 + d * x ^ 2 * y ^ 2`. Numbers are little-endian. -/
namespace SecureChannel.Ed25519

/-- The field of coordinates. -/
def prime : Nat := 0x7fffffffffffffffffffffffffffffffffffffffffffffffffffffffffffffed

/-- The number of multiples of the base. -/
def order : Nat := 0x1000000000000000000000000000000014def9dea2f79cd65812631a5cf5d3ed

abbrev Coordinate := Residue prime

def d : Coordinate :=
  .ofNat prime 0x52036cee2b6ffe738cc740797779e89800700a4d4141d8ab75eb4dca135978a3

/-- A square root of `-1`. -/
def rootOfMinusOne : Coordinate :=
  .ofNat prime 0x2b8324804fc1df0b2b4d00993dfbd7a72f431806ad2fe478c4ee1b274a0ea0b0

/-- The point `(x / z, y / z)`, where `t * z = x * y`. -/
structure Point where
  x : Coordinate
  y : Coordinate
  z : Coordinate
  t : Coordinate

namespace Point

def neutral : Point := ⟨0, 1, 1, 0⟩

def ofCoordinates (x y : Coordinate) : Point := ⟨x, y, 1, x * y⟩

def base : Point :=
  ofCoordinates
    (.ofNat prime 0x216936d3cd6e53fec0a4e231fdd6dc5c692cc7609525a7b2c9562d608f25d51a)
    (.ofNat prime 0x6666666666666666666666666666666666666666666666666666666666666658)

/-- One formula holds for all points. -/
def add (p q : Point) : Point :=
  let a := (p.y - p.x) * (q.y - q.x)
  let b := (p.y + p.x) * (q.y + q.x)
  let c := 2 * d * p.t * q.t
  let e := 2 * p.z * q.z
  ⟨(b - a) * (e - c), (e + c) * (b + a), (e - c) * (e + c), (b - a) * (b + a)⟩

def negate (p : Point) : Point := ⟨0 - p.x, p.y, p.z, 0 - p.t⟩

def addition : Addition Point := ⟨neutral, add, fun p => p.add p⟩

/-- The second coordinate, with the lowest bit of the first one on top. -/
def toBytes (p : Point) : Bytes :=
  let z := p.z.inverse
  (Bytes.ofNat 32 ((p.y * z).value + (p.x * z).value % 2 * (1 <<< 255))).reverse

/-- The point of the curve with such an encoding. The coordinate may exceed the prime. -/
def ofBytes? (bytes : Bytes) : Option Point := do
  guard (bytes.length = 32)
  let n := Bytes.toNat bytes.reverse
  let y := Residue.ofNat prime (n % (1 <<< 255))
  let u := y * y - 1
  let v := d * y * y + 1
  let x := u * (u * v).power ((prime - 5) / 8)
  let vxx := v * x * x
  let x ← if vxx = u then some x else if vxx + u = 0 then some (x * rootOfMinusOne) else none
  let x := if x.value % 2 = n / (1 <<< 255) then x else 0 - x
  return ofCoordinates x y

end Point

/-- A key and a signature in their encoded forms. The point in the signature has to be encoded in
the one right way. -/
def verify (key message signature : Bytes) : Bool :=
  let r := signature.take 32
  let s := Bytes.toNat (signature.drop 32).reverse
  match Point.ofBytes? key with
  | none => false
  | some owner =>
    let h := Bytes.toNat (Sha512.hash (r ++ key ++ message)).reverse % order
    let sum := Point.addition.combine 253 s .base h owner.negate
    signature.length = 64 && s < order && sum.toBytes = r

end SecureChannel.Ed25519
