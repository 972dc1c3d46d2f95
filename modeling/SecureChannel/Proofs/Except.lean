import Mathlib.Data.List.Forall2

/-! When computations that may fail succeed. -/
namespace SecureChannel

variable {ε δ α β : Type} {f : α → Except ε β}

theorem bind_eq_ok_iff {r : Except ε α} {b : β} :
    r >>= f = .ok b ↔ ∃ a, r = .ok a ∧ f a = .ok b := by
  cases r <;> simp [bind, Except.bind]

theorem mapError_eq_ok_iff {r : Except ε α} {g : ε → δ} {a : α} :
    r.mapError g = .ok a ↔ r = .ok a := by
  cases r <;> simp [Except.mapError]

/-- What stands behind a check counts only where the check finds nothing. -/
theorem ite_error_eq_ok_iff {p : Prop} [Decidable p] {e : ε} {r : Except ε α} {a : α} :
    (if p then .error e else r) = .ok a ↔ ¬ p ∧ r = .ok a := by
  by_cases hp : p <;> simp [hp]

theorem mapM_eq_ok_iff (l : List α) (r : List β) :
    l.mapM f = .ok r ↔ List.Forall₂ (fun a b => f a = .ok b) l r := by
  induction l generalizing r with
  | nil => cases r <;> simp [pure, Except.pure]
  | cons a l ih =>
    rw [List.mapM_cons]
    cases ha : f a with
    | error e => cases r <;> simp [bind, Except.bind, ha]
    | ok b =>
      cases hl : l.mapM f with
      | error e => cases r <;> simp [bind, Except.bind, ha, ← ih, hl]
      | ok bs => cases r <;> simp [bind, Except.bind, pure, Except.pure, ha, ← ih, hl]

/-- The first failure counts. -/
theorem mapM_eq_error_iff (l : List α) (e : ε) :
    l.mapM f = .error e ↔ ∃ before a after, l = before ++ a :: after ∧
      (∀ x ∈ before, ∃ b, f x = .ok b) ∧ f a = .error e := by
  induction l with
  | nil => simp [pure, Except.pure]
  | cons x l ih =>
    rw [List.mapM_cons]
    cases hx : f x with
    | error e' =>
      constructor
      · intro h
        obtain rfl : e' = e := by simpa [bind, Except.bind] using h
        exact ⟨[], x, l, rfl, nofun, hx⟩
      · intro hparts
        obtain ⟨before, a, after, hl, hok, ha⟩ := hparts
        cases before with
        | nil =>
          obtain ⟨rfl, -⟩ := List.cons_eq_cons.mp hl
          simpa [bind, Except.bind, hx] using ha
        | cons y before =>
          obtain ⟨rfl, -⟩ := List.cons_eq_cons.mp hl
          obtain ⟨b, hb⟩ := hok x List.mem_cons_self
          simp [hx] at hb
    | ok b =>
      have hstep : (do let y ← Except.ok b; let ys ← l.mapM f; pure (y :: ys)) = Except.error e ↔
          l.mapM f = .error e := by
        cases l.mapM f <;> simp [bind, Except.bind, pure, Except.pure]
      rw [hstep, ih]
      constructor
      · intro hparts
        obtain ⟨before, a, after, rfl, hok, ha⟩ := hparts
        refine ⟨x :: before, a, after, rfl, ?_, ha⟩
        rintro y (_ | ⟨_, hy⟩)
        · exact ⟨b, hx⟩
        · exact hok y hy
      · intro hparts
        obtain ⟨before, a, after, hl, hok, ha⟩ := hparts
        cases before with
        | nil =>
          obtain ⟨rfl, -⟩ := List.cons_eq_cons.mp hl
          simp [hx] at ha
        | cons y before =>
          obtain ⟨rfl, rfl⟩ := List.cons_eq_cons.mp hl
          exact ⟨before, a, after, rfl, fun z hz => hok z (List.mem_cons_of_mem _ hz), ha⟩

end SecureChannel
