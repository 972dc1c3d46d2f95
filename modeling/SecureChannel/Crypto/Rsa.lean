import SecureChannel.Crypto.Hash
import SecureChannel.Crypto.Residue
import SecureChannel.Der.Strict

/-! Signatures by powers modulo a product of primes, with two forms of padding. -/
namespace SecureChannel.Rsa

structure PublicKey where
  modulus : Nat
  exponent : Nat
  /-- Bytes in the modulus, and in a signature. -/
  size : Nat

/-- Both numbers are odd. The modulus has from 256 to 1024 bytes, and the exponent is small. -/
def PublicKey.ofBytes? : Bytes → Option PublicKey :=
  Reader.filling do
    let content ← Der.Strict.value Der.Strict.sequence
    let (modulus, exponent) ← Reader.filling (do
      return (← Der.Strict.natural, ← Der.Strict.natural)) content
    let n := Bytes.toNat modulus
    let e := Bytes.toNat exponent
    guard (256 ≤ modulus.length ∧ modulus.length ≤ 1024 ∧ n % 2 = 1)
    guard (3 ≤ e ∧ e < 1 <<< 33 ∧ e % 2 = 1)
    return ⟨n, e, modulus.length⟩

/-- The bytes that have been signed, as many as there are in the modulus. -/
def PublicKey.recover? (key : PublicKey) (signature : Bytes) : Option Bytes :=
  let s := Bytes.toNat signature
  if signature.length = key.size ∧ 0 < s ∧ s < key.modulus then
    some (.ofNat key.size ((Residue.ofNat key.modulus s).power key.exponent).value)
  else none

/-- What stands before a hash to name its function. -/
private def hashPrefix (h : HashFunction) : Bytes :=
  let (last, inner) : UInt8 × UInt8 := match h with
    | .sha256 => (0x01, 0x20)
    | .sha384 => (0x02, 0x30)
    | .sha512 => (0x03, 0x40)
  [0x30, 0x11 + inner, 0x30, 0x0D, 0x06, 0x09, 0x60, 0x86, 0x48, 0x01, 0x65, 0x03, 0x04, 0x02, last,
    0x05, 0x00, 0x04, inner]

/-- A hash with its name, after bytes that fill the size. -/
def pkcs1Padded (h : HashFunction) (size : Nat) (message : Bytes) : Bytes :=
  let named := hashPrefix h ++ h.hash message
  [0x00, 0x01] ++ List.replicate (size - named.length - 3) 0xFF ++ [0x00] ++ named

def verifyPkcs1 (h : HashFunction) (key message signature : Bytes) : Bool :=
  match PublicKey.ofBytes? key with
  | none => false
  | some key => key.recover? signature == some (pkcs1Padded h key.size message)

/-- So many bytes drawn from a seed. -/
def mask (h : HashFunction) (seed : Bytes) (count : Nat) : Bytes :=
  let blocks := (List.range (count / h.size + 1)).flatMap fun i => h.hash (seed ++ .ofNat 4 i)
  blocks.take count

/-- Masked bytes and a hash fill all bits but the highest. Unmasked, they are zeros, a one and a
salt as long as the hash, which is that of the salt with the message's own hash. -/
def isPssPadded (h : HashFunction) (bits : Nat) (padded message : Bytes) : Bool :=
  let length := (bits + 6) / 8
  let unused := 8 * length - (bits - 1)
  let content := padded.drop (padded.length - length)
  let masked := content.take (length - h.size - 1)
  let inner := (content.drop masked.length).take h.size
  let unmasked := (masked.zip (mask h inner masked.length)).map fun (a, b) => a ^^^ b
  let low (b : UInt8) : UInt8 := UInt8.ofNat (b.toNat % (1 <<< (8 - unused)))
  let block := match unmasked with
    | [] => []
    | b :: rest => low b :: rest
  let salt := block.drop (block.length - h.size)
  (padded.take (padded.length - length)).all (· == 0) &&
    content.getLast? == some 0xBC &&
    masked.head?.all (fun b => low b == b) &&
    block == List.replicate (block.length - h.size - 1) 0 ++ 0x01 :: salt &&
    inner == h.hash (List.replicate 8 0 ++ h.hash message ++ salt)

def verifyPss (h : HashFunction) (key message signature : Bytes) : Bool :=
  match PublicKey.ofBytes? key with
  | none => false
  | some key =>
    (key.recover? signature).any fun padded =>
      isPssPadded h (key.modulus.log2 + 1) padded message

end SecureChannel.Rsa
