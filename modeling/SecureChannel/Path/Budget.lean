import SecureChannel.Path.Error

/-! Limits on the work that goes into one search for a path, whatever it finds. -/
namespace SecureChannel.Path

/-- What may still be done. -/
structure Budget where
  signatures : Nat
  extensions : Nat
  comparisons : Nat
deriving DecidableEq

/-- Signatures verified, certificates put on top of a path, and names held against constraints. -/
def Budget.full : Budget := ⟨100, 200000, 250000⟩

/-- What is spent stays spent, also by an attempt that fails. -/
abbrev Search := ExceptT PathError (StateM Budget)

namespace Search

def ofExcept {α : Type} (r : Except PathError α) : Search α := ExceptT.mk (pure r)

def spendSignature : Search Unit := do
  let budget ← get
  match budget.signatures with
  | 0 => throw .tooManySignatures
  | n + 1 => set { budget with signatures := n }

def spendExtension : Search Unit := do
  let budget ← get
  match budget.extensions with
  | 0 => throw .tooManyExtensions
  | n + 1 => set { budget with extensions := n }

def spendComparison : Search Unit := do
  let budget ← get
  match budget.comparisons with
  | 0 => throw .tooManyComparisons
  | n + 1 => set { budget with comparisons := n }

/-- Tries one thing after another. If all fail, the most specific error counts; without any budget
left nothing more is tried. -/
def tryEach {α : Type} (attempt : α → Search Unit) (e : PathError) : List α → Search Unit
  | [] => throw e
  | a :: rest => fun budget =>
    match attempt a budget with
    | (.ok (), budget) => (.ok (), budget)
    | (.error e', budget) =>
      if e'.endsSearch then (.error e', budget)
      else tryEach attempt (e.moreSpecific e') rest budget

/-- The outcome of a search that starts with a full budget. -/
def outcome (search : Search Unit) : Except PathError Unit := (search.run Budget.full).1

end Search
end SecureChannel.Path
