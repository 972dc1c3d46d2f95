import SecureChannel.Regex.Meaning
import SecureChannel.Regex.Plan

/-! The plan that a pattern stands for, under the flags in force. -/
namespace SecureChannel.Regex.Term

mutual

/-- The plan and the mode in force after it. -/
def plan? (m : Mode) : Term → Option (Plan × Mode)
  | .anchor a => some (.assertion (a.assertion m), m)
  | .flags changes => some (.empty, m.apply changes)
  | .group captures changes t => do
    let (p, _) ← plan? (m.apply changes) t
    return (if captures then .capture p else p, m)
  | .times t isLazy min max => do
    let (p, m) ← plan? m t
    return (.ofTimes p (isLazy != m.swapGreed) min max, m)
  | .sequence ts => do
    let (ps, m) ← planAll? m ts
    return (.ofSequence ps, m)
  | .choice ts => do
    let (ps, m) ← planAll? m ts
    return (.ofChoice ps, m)
  | t => do return (.ofChars m.unicode (← t.chars? m), m)

def planAll? (m : Mode) : List Term → Option (List Plan × Mode)
  | [] => some ([], m)
  | t :: rest => do
    let (p, m) ← plan? m t
    let (ps, m) ← planAll? m rest
    return (p :: ps, m)

end

end SecureChannel.Regex.Term
