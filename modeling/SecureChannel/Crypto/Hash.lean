import SecureChannel.Crypto.Sha256
import SecureChannel.Crypto.Sha512

/-! The hash functions that signatures are made over. -/
namespace SecureChannel

inductive HashFunction
  | sha256
  | sha384
  | sha512
deriving DecidableEq

namespace HashFunction

/-- Bytes in a hash. -/
def size : HashFunction → Nat
  | .sha256 => 32
  | .sha384 => 48
  | .sha512 => 64

def hash : HashFunction → Bytes → Bytes
  | .sha256 => Sha256.hash
  | .sha384 => Sha512.hash384
  | .sha512 => Sha512.hash

end HashFunction
end SecureChannel
