import SecureChannel.Der.Element

/-! Purposes that the extended key usage of a certificate can allow. -/
namespace SecureChannel

/-- A purpose is known by its object identifier. -/
structure KeyPurpose where
  oid : Der.Oid
deriving DecidableEq

namespace KeyPurpose

def serverAuth : KeyPurpose := ⟨[0x2B, 6, 1, 5, 5, 7, 3, 1]⟩

def clientAuth : KeyPurpose := ⟨[0x2B, 6, 1, 5, 5, 7, 3, 2]⟩

/-- The first number carries two: forty for each unit of the first one, of which there are three. -/
private def split : List Nat → List Nat
  | [] => []
  | n :: rest => if n < 40 then 0 :: n :: rest else if n < 80 then 1 :: (n - 40) :: rest
    else 2 :: (n - 80) :: rest

/-- Numbers of several bytes, where all but the last have the high bit; an unfinished one is
dropped. Each byte counts for eight bits, and 64 bits are kept. -/
private def numbers : Nat → Bytes → List Nat
  | _, [] => []
  | n, b :: rest =>
    let n := (n * 256 + b.toNat % 128) % UInt64.size
    if b < 0x80 then n :: numbers 0 rest else numbers n rest

/-- The numbers that a purpose is shown by. Different identifiers may share them. -/
def shown (purpose : KeyPurpose) : List Nat := split (numbers 0 purpose.oid)

def display (purpose : KeyPurpose) : String :=
  if purpose.shown = serverAuth.shown then "server authentication"
  else if purpose.shown = clientAuth.shown then "client authentication"
  else ", ".intercalate (purpose.shown.map toString)

end KeyPurpose
end SecureChannel
