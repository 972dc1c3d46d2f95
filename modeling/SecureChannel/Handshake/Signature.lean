import SecureChannel.Path.Algorithm

/-! Signatures made during handshakes. -/
namespace SecureChannel

inductive TlsVersion
  | v12
  | v13
deriving DecidableEq

/-- Why a handshake fails. -/
inductive HandshakeError
  /-- The peer is refused, whatever the reason. -/
  | refused
  | unadvertisedScheme
  | certificate (error : PathError)
deriving DecidableEq

def HandshakeError.message : HandshakeError → String
  | .refused => "invalid peer certificate: ApplicationVerificationFailure"
  | .unadvertisedScheme => "peer misbehaved: SignedHandshakeWithUnadvertisedSigScheme"
  | .certificate error => error.message

namespace SignatureScheme

/-- Numbers of schemes, in the order in which they are offered, with their algorithms. The first
algorithm is that of the scheme's own curve. -/
def table : List (Nat × List Algorithm) := [
  (0x0503, [⟨.ecdsaSha384, .p384⟩, ⟨.ecdsaSha384, .p256⟩]),
  (0x0403, [⟨.ecdsaSha256, .p256⟩, ⟨.ecdsaSha256, .p384⟩]),
  (0x0807, [⟨.ed25519, .ed25519⟩]),
  (0x0806, [⟨.pssSha512, .rsa⟩]),
  (0x0805, [⟨.pssSha384, .rsa⟩]),
  (0x0804, [⟨.pssSha256, .rsa⟩]),
  (0x0601, [⟨.pkcs1Sha512, .rsa⟩]),
  (0x0501, [⟨.pkcs1Sha384, .rsa⟩]),
  (0x0401, [⟨.pkcs1Sha256, .rsa⟩])]

def offered : List Nat := table.map (·.1)

def algorithms? (scheme : Nat) : Option (List Algorithm) :=
  (table.find? (·.1 = scheme)).map (·.2)

/-- Version 1.3 has no place for the oldest schemes. -/
def isInVersion : TlsVersion → Nat → Bool
  | .v12, _ => true
  | .v13, scheme => scheme ∈ [0x0403, 0x0503, 0x0804, 0x0805, 0x0806, 0x0807]

/-- In version 1.3 a scheme fixes the curve. -/
def candidates (version : TlsVersion) (algorithms : List Algorithm) : List Algorithm :=
  match version with
  | .v12 => algorithms
  | .v13 => algorithms.take 1

/-- The owner of a certificate has signed a message. -/
def check (version : TlsVersion) (scheme : Nat) (certificate message signature : Bytes) :
    Except HandshakeError Unit :=
  match if isInVersion version scheme then algorithms? scheme else none with
  | none => .error .unadvertisedScheme
  | some algorithms =>
    (do
      let c ← Certificate.ofBytes certificate
      Algorithm.check (candidates version algorithms) c.publicKey message signature).mapError
        .certificate

end SignatureScheme
end SecureChannel
