import Mathlib.Data.List.FinRange
import SecureChannel.Trust.Tree

/-! The delegates of a federated tree as a list of routes, in the order of their trust domains. No
more and no less than this list is what the tree keeps of the routes it is made of. -/
namespace SecureChannel.TrustTree

variable {Leaf : Type} {domains domains' : List String}
  {delegates : Fin domains.length → TrustTree Leaf}
  {delegates' : Fin domains'.length → TrustTree Leaf}

def branches (domains : List String) (delegates : Fin domains.length → TrustTree Leaf) :
    List (String × TrustTree Leaf) :=
  (List.finRange domains.length).map fun i => (domains.get i, delegates i)

theorem map_fst_branches (delegates : Fin domains.length → TrustTree Leaf) :
    (branches domains delegates).map (·.1) = domains := by
  rw [branches, List.map_map]
  exact domains.map_get_finRange

/-- A node is known by its branches. -/
theorem federated_eq_of_branches {policy : Option NamePolicy} {source : IdSource}
    {ascending : domains.Pairwise (· < ·)} {ascending' : domains'.Pairwise (· < ·)}
    (h : branches domains delegates = branches domains' delegates') :
    federated policy source domains ascending delegates =
      federated policy source domains' ascending' delegates' := by
  have hdomains : domains = domains' := by
    rw [← map_fst_branches delegates, h, map_fst_branches]
  subst hdomains
  congr 1
  funext i
  have hi := List.map_inj_left.mp h i (List.mem_finRange i)
  exact (Prod.mk.inj hi).2

/-- Routes that are put under their own domains are the branches. -/
theorem branches_get (routes : List (String × TrustTree Leaf)) :
    branches (routes.map (·.1)) (fun i => (routes.get ⟨i.val, by simpa using i.isLt⟩).2) =
      routes := by
  apply List.ext_getElem (by simp [branches])
  intro i hi _
  simp [branches]

/-- What is listed in ascending order can be listed so in one way only. -/
theorem eq_of_ascending {routes routes' : List (String × TrustTree Leaf)}
    (h : (routes.map (·.1)).Pairwise (· < ·)) (h' : (routes'.map (·.1)).Pairwise (· < ·))
    (hperm : routes.Perm routes') : routes = routes' :=
  List.Perm.eq_of_pairwise
    (fun r r' _ _ (hlt : r.1 < r'.1) hgt => absurd hgt (String.lt_asymm hlt))
    (List.pairwise_map.mp h) (List.pairwise_map.mp h') hperm

end SecureChannel.TrustTree
