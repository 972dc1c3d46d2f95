import SecureChannel.Bytes.Reader

/-! Tagged elements of the encoding of certificates. -/
namespace SecureChannel.Der

inductive TagClass
  | universal
  | application
  | context
  | reserved
deriving DecidableEq

/-- The bit for constructed contents is kept apart from what identifies the type. -/
structure Tag where
  tagClass : TagClass
  constructed : Bool
  number : Nat
deriving DecidableEq

structure Element where
  tag : Tag
  content : Bytes
deriving DecidableEq

def TagClass.ofByte (b : UInt8) : TagClass :=
  match b.toNat / 64 with
  | 0 => .universal
  | 1 => .application
  | 2 => .context
  | _ => .reserved

/-- Object identifiers, by their contents. -/
abbrev Oid := Bytes

end SecureChannel.Der
