import SecureChannel.Bytes.Reader
import SecureChannel.Time.Calendar

/-! Written forms of times: short ones with two digits of the year, and long ones with four. -/
namespace SecureChannel.CalendarTime

/-- A decimal number of so many digits. -/
def decimal (count : Nat) : Reader Nat := do
  let bytes ← Reader.take count
  guard (bytes.all Bytes.isDigit)
  return bytes.foldl (fun n b => 10 * n + (b.toNat - 0x30)) 0

/-- Month to minute, two digits each. -/
private def toMinute (year : Nat) : Reader CalendarTime := do
  return ⟨year, ← decimal 2, ← decimal 2, ← decimal 2, ← decimal 2, 0⟩

private def valid (t : CalendarTime) : Reader CalendarTime := do
  guard t.isValid
  return t

private def utcMark : Reader Unit := Reader.symbol 0x5A

/-- Month to second, and the mark of universal time. -/
private def complete (year : Nat) : Reader CalendarTime := do
  let t ← toMinute year
  let second ← decimal 2
  utcMark
  valid { t with second }

/-- The short form with all its parts. -/
def short : Reader CalendarTime := do complete (fullYear (← decimal 2))

/-- The long form with all its parts. -/
def long : Reader CalendarTime := do complete (← decimal 4)

/-- Hours and minutes from universal time. -/
private def offset : Reader Unit := do
  let sign ← Reader.byte
  guard (sign = 0x2B ∨ sign = 0x2D)
  guard ((← decimal 2) ≤ 25)
  guard ((← decimal 2) ≤ 59)

/-- A point and at most three digits. -/
private def fraction : Reader Unit := do
  Reader.symbol 0x2E
  for _ in [0, 1, 2] do
    discard (Reader.optional (decimal 1))

/-- The short form with an arbitrary offset. Without one, seconds may be missing. -/
def lenientShort : Reader CalendarTime := do
  let t ← toMinute (fullYear (← decimal 2))
  let second ← (utcMark *> Reader.finish *> pure 0) <|> do
    let second ← decimal 2
    utcMark <|> offset
    Reader.finish
    return second
  valid { t with second }

/-- The long form, in universal time, where seconds may be missing and may have a fraction. -/
def lenientLong : Reader CalendarTime := do
  let t ← toMinute (← decimal 4)
  let second ← Reader.optional (decimal 2)
  if second.isSome then discard (Reader.optional fraction)
  utcMark
  Reader.finish
  valid { t with second := second.getD 0 }

end SecureChannel.CalendarTime
