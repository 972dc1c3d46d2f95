/-! Cutting a sequence at the first occurrence of a part. -/
namespace SecureChannel

variable {α : Type} [DecidableEq α]

/-- What stands before the first occurrence of a part, and what follows that occurrence. -/
def cut? (part : List α) : List α → Option (List α × List α)
  | [] => if part.isEmpty then some ([], []) else none
  | x :: rest =>
    if part.isPrefixOf (x :: rest) then some ([], (x :: rest).drop part.length)
    else (cut? part rest).map fun (before, after) => (x :: before, after)

end SecureChannel
