import SecureChannel.Crypto.Ecdsa
import SecureChannel.Crypto.Ed25519
import SecureChannel.Crypto.Rsa
import SecureChannel.Path.Certificate

/-! Signature algorithms, and the keys they fit. -/
namespace SecureChannel

/-- Kinds of public keys. -/
inductive KeyKind
  | p256
  | p384
  | ed25519
  | rsa
deriving DecidableEq

inductive SignatureKind
  | ecdsaSha256
  | ecdsaSha384
  | ed25519
  | pssSha256
  | pssSha384
  | pssSha512
  | pkcs1Sha256
  | pkcs1Sha384
  | pkcs1Sha512
deriving DecidableEq

/-- A kind of signature made with a kind of key. -/
structure Algorithm where
  signature : SignatureKind
  key : KeyKind
deriving DecidableEq

namespace KeyKind

/-- The content of the identifier in public keys. -/
def identifier : KeyKind → Bytes
  | .p256 => [0x06, 0x07, 0x2A, 0x86, 0x48, 0xCE, 0x3D, 0x02, 0x01,
      0x06, 0x08, 0x2A, 0x86, 0x48, 0xCE, 0x3D, 0x03, 0x01, 0x07]
  | .p384 => [0x06, 0x07, 0x2A, 0x86, 0x48, 0xCE, 0x3D, 0x02, 0x01,
      0x06, 0x05, 0x2B, 0x81, 0x04, 0x00, 0x22]
  | .ed25519 => [0x06, 0x03, 0x2B, 0x65, 0x70]
  | .rsa => [0x06, 0x09, 0x2A, 0x86, 0x48, 0x86, 0xF7, 0x0D, 0x01, 0x01, 0x01, 0x05, 0x00]

end KeyKind

namespace SignatureKind

private def pkcs1 (last : UInt8) : List Bytes :=
  let oid : Bytes := [0x06, 0x09, 0x2A, 0x86, 0x48, 0x86, 0xF7, 0x0D, 0x01, 0x01, last]
  [oid ++ [0x05, 0x00], oid]

private def pss (hash salt : UInt8) : List Bytes :=
  let hashId : Bytes := [0x30, 0x0D, 0x06, 0x09, 0x60, 0x86, 0x48, 0x01, 0x65, 0x03, 0x04, 0x02,
    hash, 0x05, 0x00]
  [[0x06, 0x09, 0x2A, 0x86, 0x48, 0x86, 0xF7, 0x0D, 0x01, 0x01, 0x0A, 0x30, 0x34, 0xA0, 0x0F] ++
    hashId ++ [0xA1, 0x1C, 0x30, 0x1A, 0x06, 0x09, 0x2A, 0x86, 0x48, 0x86, 0xF7, 0x0D, 0x01, 0x01,
      0x08] ++ hashId ++ [0xA2, 0x03, 0x02, 0x01, salt]]

/-- The contents that identify it in certificates. Some may leave out empty parameters. -/
def identifiers : SignatureKind → List Bytes
  | .ecdsaSha256 => [[0x06, 0x08, 0x2A, 0x86, 0x48, 0xCE, 0x3D, 0x04, 0x03, 0x02]]
  | .ecdsaSha384 => [[0x06, 0x08, 0x2A, 0x86, 0x48, 0xCE, 0x3D, 0x04, 0x03, 0x03]]
  | .ed25519 => [[0x06, 0x03, 0x2B, 0x65, 0x70]]
  | .pssSha256 => pss 0x01 0x20
  | .pssSha384 => pss 0x02 0x30
  | .pssSha512 => pss 0x03 0x40
  | .pkcs1Sha256 => pkcs1 0x0B
  | .pkcs1Sha384 => pkcs1 0x0C
  | .pkcs1Sha512 => pkcs1 0x0D

def keyKinds : SignatureKind → List KeyKind
  | .ecdsaSha256 | .ecdsaSha384 => [.p256, .p384]
  | .ed25519 => [.ed25519]
  | _ => [.rsa]

def all : List SignatureKind :=
  [.ecdsaSha256, .ecdsaSha384, .ed25519, .pssSha256, .pssSha384, .pssSha512, .pkcs1Sha256,
    .pkcs1Sha384, .pkcs1Sha512]

end SignatureKind

namespace Algorithm

open SecureChannel.Path SecureChannel.Path.Parser

/-- Verifies a signature with the bits of a key. No kind of key but its own fits a kind of
signature. -/
def verify (algorithm : Algorithm) (key message signature : Bytes) : Bool :=
  let ecdsa (h : HashFunction) : Bool :=
    match algorithm.key with
    | .p256 => Ecdsa.verify Ecdsa.p256 key (h.hash message) signature
    | .p384 => Ecdsa.verify Ecdsa.p384 key (h.hash message) signature
    | _ => false
  match algorithm.signature with
  | .ecdsaSha256 => ecdsa .sha256
  | .ecdsaSha384 => ecdsa .sha384
  | .ed25519 => Ed25519.verify key message signature
  | .pssSha256 => Rsa.verifyPss .sha256 key message signature
  | .pssSha384 => Rsa.verifyPss .sha384 key message signature
  | .pssSha512 => Rsa.verifyPss .sha512 key message signature
  | .pkcs1Sha256 => Rsa.verifyPkcs1 .sha256 key message signature
  | .pkcs1Sha384 => Rsa.verifyPkcs1 .sha384 key message signature
  | .pkcs1Sha512 => Rsa.verifyPkcs1 .sha512 key message signature

/-- A public key, by its identifier and its bits. -/
def publicKey : Parser (Bytes × Bytes) := do
  let identifier ← element Der.Strict.sequence
  return (identifier, ← bytesOfBits)

/-- Tries algorithms on a key; the first one that the key is made for decides. -/
def check (algorithms : List Algorithm) (key message signature : Bytes) : Except PathError Unit := do
  let (identifier, bits) ← filling .trailingData publicKey key
  match algorithms.find? (·.key.identifier = identifier) with
  | none => throw .algorithmForOtherKey
  | some algorithm =>
    if algorithm.verify bits message signature then return else throw .badSignature

end Algorithm

namespace Certificate

/-- The owner of the key has signed the certificate. -/
def checkSignature (c : Certificate) (key : Bytes) : Except PathError Unit :=
  match SignatureKind.all.find? (·.identifiers.contains c.algorithm) with
  | none => .error .unsupportedAlgorithm
  | some kind => Algorithm.check (kind.keyKinds.map (⟨kind, ·⟩)) key c.signed c.signature

end Certificate
end SecureChannel
