import SecureChannel.Path.Algorithm

/-! Keys that nothing is trusted with, whoever vouches for them. -/
namespace SecureChannel.Path

/-- The point of a distrusted key. -/
private def distrustedPoint : Bytes := [
    0x04, 0xE7, 0x9E, 0xD9, 0xC0, 0x4A, 0x97, 0x73, 0xC4, 0x73, 0x5E, 0x51, 0x11, 0x1D, 0xA8,
    0x5A, 0xC2, 0xBD, 0x5E, 0x64, 0xAB, 0x37, 0x4B, 0x80, 0xE1, 0x2C, 0xBC, 0x20, 0x38, 0xEC,
    0x1E, 0x4F, 0x0E, 0x3B, 0x81, 0x2F, 0xC9, 0x85, 0x9E, 0x1E, 0x67, 0xAF, 0xB0, 0x4E, 0x2F,
    0x8B, 0xC9, 0x7F, 0x74, 0x85, 0xBA, 0x65, 0xAA, 0x91, 0x1E, 0xE8, 0xA4, 0xE4, 0x5B, 0x62,
    0xD5, 0xCC, 0x03, 0xD5, 0x6B, 0xE6, 0x78, 0xB3, 0xC3, 0x8C, 0xB4, 0xDC, 0x93, 0x7C, 0xA2,
    0x46, 0x0E, 0x23, 0x84, 0x53, 0xC8, 0x92, 0x93, 0x5D, 0x29, 0xD4, 0x4F, 0x91, 0xE1, 0x56,
    0x06, 0xB6, 0x3C, 0xCE, 0xDA, 0xB4, 0x68]

/-- Public keys that must not occur in a path. -/
def distrustedKeys : List Bytes :=
  [Der.Strict.encode Der.Strict.sequence KeyKind.p384.identifier ++
    Der.Strict.encode Der.Strict.bitString (0 :: distrustedPoint)]

def checkKey (key : Bytes) : Except PathError Unit :=
  if distrustedKeys.contains key then .error .distrusted else .ok ()

end SecureChannel.Path
