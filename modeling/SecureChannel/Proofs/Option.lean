import Mathlib.Data.List.Forall2

/-! Lists that are read item by item, where an item may be refused. -/
namespace SecureChannel

section Items

variable {α β : Type} {f : α → Option β} {g : β → α} {xs : List α} {ys : List β} {x : α}

theorem mapM_map_of_inverse (h : ∀ y ∈ ys, f (g y) = some y) : (ys.map g).mapM f = some ys := by
  induction ys with
  | nil => rfl
  | cons y rest ih =>
    have hrest := ih fun z hz => h z (List.mem_cons_of_mem _ hz)
    simp [h y List.mem_cons_self, hrest]

theorem isSome_of_mem_mapM (h : xs.mapM f = some ys) (hx : x ∈ xs) : (f x).isSome = true := by
  induction xs generalizing ys with
  | nil => cases hx
  | cons a rest ih =>
    cases ha : f a with
    | none => simp [ha] at h
    | some b =>
      cases hrest : rest.mapM f with
      | none => simp [ha, hrest] at h
      | some bs =>
        rcases List.mem_cons.mp hx with rfl | hx
        · simp [ha]
        · exact ih hrest hx

end Items

section Relations

variable {α β γ δ : Type} {R : α → β → Prop} {S : γ → δ → Prop} {f : α → Option γ}
  {g : β → Option δ} {xs : List α} {ys : List β}

theorem optionRel_refl {R : α → α → Prop} (h : ∀ a, R a a) : ∀ o, Option.Rel R o o
  | none => .none
  | some a => .some (h a)

/-- Related items give related lists, or both lists are refused. -/
theorem mapM_rel (hitems : List.Forall₂ R xs ys) (hread : ∀ x y, R x y → Option.Rel S (f x) (g y)) :
    Option.Rel (List.Forall₂ S) (xs.mapM f) (ys.mapM g) := by
  induction hitems with
  | nil => exact .some .nil
  | @cons x y xs ys hxy _ ih =>
    rw [List.mapM_cons, List.mapM_cons]
    have hfirst := hread x y hxy
    generalize f x = first, g y = first' at hfirst
    cases hfirst with
    | none => exact .none
    | some hs =>
      generalize xs.mapM f = rest, ys.mapM g = rest' at ih
      cases ih with
      | none => exact .none
      | some hrest => exact .some (.cons hs hrest)

end Relations
end SecureChannel
