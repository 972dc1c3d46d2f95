import SecureChannel.Crypto.Addition
import SecureChannel.Der.Strict

/-! Signatures on curves `y ^ 2 = x ^ 3 - 3 * x + b`, of hashes. -/
namespace SecureChannel.Ecdsa

structure Curve where
  /-- Bytes in a coordinate. -/
  size : Nat
  /-- The field of coordinates. -/
  prime : Nat
  /-- The number of points. -/
  order : Nat
  b : Nat
  baseX : Nat
  baseY : Nat

def p256 : Curve where
  size := 32
  prime := 0xffffffff00000001000000000000000000000000ffffffffffffffffffffffff
  order := 0xffffffff00000000ffffffffffffffffbce6faada7179e84f3b9cac2fc632551
  b := 0x5ac635d8aa3a93e7b3ebbd55769886bc651d06b0cc53b0f63bce3c3e27d2604b
  baseX := 0x6b17d1f2e12c4247f8bce6e563a440f277037d812deb33a0f4a13945d898c296
  baseY := 0x4fe342e2fe1a7f9b8ee7eb4a7c0f9e162bce33576b315ececbb6406837bf51f5

def p384 : Curve where
  size := 48
  prime := 0xfffffffffffffffffffffffffffffffffffffffffffffffffffffffffffffffeffffffff0000000000000000ffffffff
  order := 0xffffffffffffffffffffffffffffffffffffffffffffffffc7634d81f4372ddf581a0db248b0a77aecec196accc52973
  b := 0xb3312fa7e23ee7e4988e056be3f82d19181d9c6efe8141120314088f5013875ac656398d8a2ed19d2a85c8edd3ec2aef
  baseX := 0xaa87ca22be8b05378eb1c71ef320ad746e1d3b628ba79b9859f741e082542a385502f25dbf55296c3a545e3872760ab7
  baseY := 0x3617de4a96262c6f5d9e98bf9292dc29f8f41dbd289a147ce9da3113b5f0b8c00a60b1ce1d7e819d7a431d7c90ea0e5f

/-- The point `(x / z ^ 2, y / z ^ 3)`, or the neutral one where `z` is zero. -/
structure Point (c : Curve) where
  x : Residue c.prime
  y : Residue c.prime
  z : Residue c.prime

namespace Point

variable {c : Curve}

def neutral : Point c := ⟨1, 1, 0⟩

def base : Point c := ⟨.ofNat c.prime c.baseX, .ofNat c.prime c.baseY, 1⟩

def double (p : Point c) : Point c :=
  let delta := p.z * p.z
  let gamma := p.y * p.y
  let beta := p.x * gamma
  let alpha := 3 * (p.x - delta) * (p.x + delta)
  let x := alpha * alpha - 8 * beta
  ⟨x, alpha * (4 * beta - x) - 8 * gamma * gamma, 2 * p.y * p.z⟩

def add (p q : Point c) : Point c :=
  if p.z = 0 then q
  else if q.z = 0 then p
  else
    let pp := p.z * p.z
    let qq := q.z * q.z
    let u := p.x * qq
    let s := p.y * q.z * qq
    let h := q.x * pp - u
    let r := q.y * p.z * pp - s
    if h = 0 then if r = 0 then p.double else neutral
    else
      let hh := h * h
      let v := u * hh
      let x := r * r - h * hh - 2 * v
      ⟨x, r * (v - x) - s * h * hh, p.z * q.z * h⟩

def addition : Addition (Point c) := ⟨neutral, add, double⟩

def isOnCurve (p : Point c) : Bool :=
  p.y * p.y = p.x * p.x * p.x - 3 * p.x + .ofNat c.prime c.b

/-- Uncompressed coordinates of a point of the curve. -/
def ofBytes? (c : Curve) : Bytes → Option (Point c)
  | 0x04 :: coordinates =>
    let x := Bytes.toNat (coordinates.take c.size)
    let y := Bytes.toNat (coordinates.drop c.size)
    let p : Point c := ⟨.ofNat c.prime x, .ofNat c.prime y, 1⟩
    if coordinates.length = 2 * c.size ∧ x < c.prime ∧ y < c.prime ∧ p.isOnCurve then some p
    else none
  | _ => none

end Point

/-- The two numbers of a signature, which are positive and less than the order. -/
def signature? (c : Curve) : Bytes → Option (Nat × Nat) :=
  Reader.filling do
    let content ← Der.Strict.value Der.Strict.sequence
    let (r, s) ← Reader.filling (do
      return (Bytes.toNat (← Der.Strict.natural), Bytes.toNat (← Der.Strict.natural))) content
    guard (0 < r ∧ r < c.order ∧ 0 < s ∧ s < c.order)
    return (r, s)

/-- The signature of a number by the owner of a point. -/
def isSigned {c : Curve} (owner : Point c) (number r s : Nat) : Bool :=
  let w := (Residue.ofNat c.order s).inverse
  let m := Residue.ofNat c.order number * w
  let n := Residue.ofNat c.order r * w
  let sum := Point.addition.combine (8 * c.size) m.value .base n.value owner
  let z := sum.z.inverse
  sum.z ≠ 0 && (sum.x * z * z).value % c.order = r

/-- A key and a signature in their encoded forms. Only so many bytes of a hash count as a coordinate
has. -/
def verify (c : Curve) (key hash signature : Bytes) : Bool :=
  match Point.ofBytes? c key, signature? c signature with
  | some owner, some (r, s) => isSigned owner (Bytes.toNat (hash.take c.size)) r s
  | _, _ => false

end SecureChannel.Ecdsa
