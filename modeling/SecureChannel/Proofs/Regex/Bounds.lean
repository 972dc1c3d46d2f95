import SecureChannel.Proofs.Regex.Search
import SecureChannel.Regex.Meaning
import SecureChannel.Regex.Parser.Pattern

/-! Bounds of repetitions. A pattern with a repetition that could not be made is refused, so every
expression that a pattern stands for can be searched for. -/
namespace SecureChannel.Regex

namespace Term

mutual

/-- No repetition asks for more turns than it allows. -/
def Ordered : Term → Prop
  | .group _ _ t => t.Ordered
  | .times t _ min max => t.Ordered ∧ ∀ m ∈ max, min ≤ m
  | .sequence ts => OrderedAll ts
  | .choice ts => OrderedAll ts
  | _ => True

def OrderedAll : List Term → Prop
  | [] => True
  | t :: rest => t.Ordered ∧ OrderedAll rest

end

theorem orderedAll_iff (ts : List Term) : OrderedAll ts ↔ ∀ t ∈ ts, t.Ordered := by
  induction ts with
  | nil => simp [OrderedAll]
  | cons t ts ih => simp [OrderedAll, ih]

theorem Ordered.ofSequence {ts : List Term} (h : ∀ t ∈ ts, t.Ordered) :
    (Term.ofSequence ts).Ordered := by
  unfold Term.ofSequence
  split
  · exact h _ List.mem_cons_self
  · exact (orderedAll_iff _).mpr h

end Term

section Compiling

theorem Ordered.repetition {r : Regex} {min : Nat} {max : Option Nat} (h : r.Ordered)
    (hle : ∀ m ∈ max, min ≤ m) : (repetition r min max).Ordered := by
  unfold Regex.repetition
  split
  · split
    · trivial
    · refine ⟨h, ?_⟩
      rintro m ⟨⟩
      exact Nat.min_le_right min 1
  · exact ⟨h, hle⟩

mutual

theorem Term.Ordered.compile {t : Term} (h : t.Ordered) {m m' : Mode} {r : Regex}
    (hr : t.compile? m = some (r, m')) : r.Ordered := by
  match t with
  | .group _ changes t =>
    simp only [Term.compile?, bind, Option.bind_eq_some_iff] at hr
    obtain ⟨⟨s, n⟩, hs, heq⟩ := hr
    cases heq
    exact Term.Ordered.compile (t := t) h hs
  | .times t _ min max =>
    simp only [Term.compile?, bind, Option.bind_eq_some_iff] at hr
    obtain ⟨⟨s, n⟩, hs, heq⟩ := hr
    cases heq
    exact (Term.Ordered.compile h.1 hs).repetition h.2
  | .sequence ts => exact Term.OrderedAll.sequence h hr
  | .choice ts => exact Term.OrderedAll.choice h hr
  | .flags _ =>
    cases hr
    trivial
  | .anchor _ =>
    cases hr
    trivial
  | .literal _ | .dot | .perl _ _ | .property _ _ | .bracketed _ _ =>
    simp only [Term.compile?, bind, Option.bind_eq_some_iff] at hr
    obtain ⟨s, -, heq⟩ := hr
    cases heq
    trivial

theorem Term.OrderedAll.sequence {ts : List Term} (h : Term.OrderedAll ts) {m m' : Mode} {r : Regex}
    (hr : Term.sequence? m ts = some (r, m')) : r.Ordered := by
  match ts with
  | [] =>
    cases hr
    trivial
  | t :: ts =>
    simp only [Term.sequence?, bind, Option.bind_eq_some_iff] at hr
    obtain ⟨⟨s, n⟩, hs, ⟨u, n'⟩, hu, heq⟩ := hr
    cases heq
    exact ⟨Term.Ordered.compile h.1 hs, Term.OrderedAll.sequence h.2 hu⟩

theorem Term.OrderedAll.choice {ts : List Term} (h : Term.OrderedAll ts) {m m' : Mode} {r : Regex}
    (hr : Term.choice? m ts = some (r, m')) : r.Ordered := by
  match ts with
  | [] =>
    cases hr
    trivial
  | t :: ts =>
    simp only [Term.choice?, bind, Option.bind_eq_some_iff] at hr
    obtain ⟨⟨s, n⟩, hs, ⟨u, n'⟩, hu, heq⟩ := hr
    cases heq
    exact ⟨Term.Ordered.compile h.1 hs, Term.OrderedAll.choice h.2 hu⟩

end

end Compiling
end SecureChannel.Regex

namespace SecureChannel.Regex.Parser

def Bounds.Ordered (b : Bounds) : Prop := ∀ m ∈ b.max, b.min ≤ m

/-- What the action adds to a pattern is in order. -/
def Action.Ordered : Action → Prop
  | .push t => t.Ordered
  | .repeatLast b => b.Ordered
  | _ => True

/-- All terms that have been read are in order. -/
structure State.Ordered (s : State) : Prop where
  terms : ∀ t ∈ s.terms, t.Ordered
  branches : ∀ t ∈ s.branches, t.Ordered
  frames : ∀ f ∈ s.stack, (∀ t ∈ f.terms, t.Ordered) ∧ ∀ t ∈ f.branches, t.Ordered

theorem withBounds_ordered {min : Nat} {max : Option Nat} {cs rest : List Char} {b : Bounds}
    (hle : ∀ m ∈ max, min ≤ m) (h : withBounds min max cs = (b, rest)) : b.Ordered := by
  unfold withBounds at h
  split at h <;> cases h <;> exact hle

theorem bounds?_ordered {verbose : Bool} {cs rest : List Char} {b : Bounds}
    (h : bounds? verbose cs = some (b, rest)) : b.Ordered := by
  simp only [bounds?, bind, Option.bind_eq_some_iff] at h
  obtain ⟨⟨least, ss⟩, -, n, -, h⟩ := h
  split at h
  · exact withBounds_ordered (by simp) (Option.some.inj h)
  · obtain ⟨⟨comma, ss⟩, -, h⟩ := Option.bind_eq_some_iff.mp h
    split at h
    · exact withBounds_ordered (by simp) (Option.some.inj h)
    · simp only [Option.bind_eq_some_iff] at h
      obtain ⟨⟨most, ss⟩, -, m, -, ⟨cs, more⟩, -, h⟩ := h
      split at h
      · next hle => exact withBounds_ordered (by simpa using hle) (Option.some.inj h)
      · cases h

theorem operator_ordered {min : Nat} {max : Option Nat} {cs rest : List Char} {a : Action}
    (hle : ∀ m ∈ max, min ≤ m) (h : operator min max cs = (a, rest)) : a.Ordered := by
  cases h
  exact withBounds_ordered hle rfl

theorem action?_ordered {verbose : Bool} {fuel : Nat} {c : Char} {cs rest : List Char} {a : Action}
    (h : action? verbose fuel c cs = some (a, rest)) : a.Ordered := by
  unfold action? at h
  split at h
  · obtain ⟨_, -, heq⟩ := Option.map_eq_some_iff.mp h
    cases heq
    trivial
  · cases h
    trivial
  · cases h
    trivial
  · obtain ⟨⟨t, more⟩, ht, heq⟩ := Option.map_eq_some_iff.mp h
    cases heq
    simp only [class?, bind, Option.bind_eq_some_iff] at ht
    obtain ⟨_, -, _, -, heq⟩ := ht
    cases heq
    trivial
  · exact operator_ordered (by simp) (Option.some.inj h)
  · exact operator_ordered (by simp) (Option.some.inj h)
  · exact operator_ordered (by simp) (Option.some.inj h)
  · obtain ⟨⟨b, more⟩, hb, heq⟩ := Option.map_eq_some_iff.mp h
    cases heq
    exact bounds?_ordered hb
  · obtain ⟨⟨p, more⟩, -, heq⟩ := Option.map_eq_some_iff.mp h
    cases heq
    cases p <;> trivial
  all_goals
    cases h
    trivial

namespace State

variable {s u : State}

theorem Ordered.content (h : s.Ordered) : s.content.Ordered := by
  have hlast : (Term.ofSequence s.terms.reverse).Ordered :=
    Term.Ordered.ofSequence fun t ht => h.terms t (List.mem_reverse.mp ht)
  unfold State.content
  dsimp only
  split
  · exact hlast
  · refine (Term.orderedAll_iff _).mpr fun t ht => ?_
    rcases List.mem_cons.mp (List.mem_reverse.mp ht) with rfl | ht
    · exact hlast
    · exact h.branches t ht

theorem Ordered.push {t : Term} (h : s.Ordered) (ht : t.Ordered) : (s.push t).Ordered :=
  ⟨List.forall_mem_cons.mpr ⟨ht, h.terms⟩, h.branches, h.frames⟩

theorem Ordered.openGroup (h : s.Ordered) (captures : Bool) (changes : FlagChanges) :
    (s.openGroup captures changes).Ordered :=
  ⟨nofun, nofun, List.forall_mem_cons.mpr ⟨⟨h.terms, h.branches⟩, h.frames⟩⟩

theorem Ordered.act {a : Action} (h : s.Ordered) (ha : a.Ordered) (hact : s.act? a = some u) :
    u.Ordered := by
  cases a with
  | push t =>
    cases hact
    exact h.push ha
  | branch =>
    cases hact
    refine ⟨nofun, List.forall_mem_cons.mpr ⟨?_, h.branches⟩, h.frames⟩
    exact Term.Ordered.ofSequence fun t ht => h.terms t (List.mem_reverse.mp ht)
  | openGroup head =>
    simp only [act?, beginGroup?] at hact
    split at hact
    · cases hact
      exact h.openGroup _ _
    · split at hact
      · cases hact
      · cases hact
        have hnames (names) : ({ s with names } : State).Ordered := ⟨h.terms, h.branches, h.frames⟩
        exact (hnames _).openGroup _ _
    · cases hact
      exact h.openGroup _ _
    · next changes =>
      cases hact
      obtain ⟨hterms, hbranches, hframes⟩ := h.push (t := .flags changes) trivial
      exact ⟨hterms, hbranches, hframes⟩
  | closeGroup =>
    simp only [act?, closeGroup?] at hact
    split at hact
    · cases hact
    · next frame stack hstack =>
      cases hact
      obtain ⟨⟨hterms, hbranches⟩, hframes⟩ := List.forall_mem_cons.mp (hstack ▸ h.frames)
      exact ⟨List.forall_mem_cons.mpr ⟨h.content, hterms⟩, hbranches, hframes⟩
  | repeatLast b =>
    simp only [act?, repeatLast?] at hact
    split at hact
    · cases hact
    · cases hact
    · next t terms _ hterms =>
      cases hact
      obtain ⟨ht, hrest⟩ := List.forall_mem_cons.mp (hterms ▸ h.terms)
      exact ⟨List.forall_mem_cons.mpr ⟨⟨ht, ha⟩, hrest⟩, h.branches, h.frames⟩

theorem Ordered.run {fuel : Nat} {cs : List Char} (h : s.Ordered) (hrun : run? fuel s cs = some u) :
    u.Ordered := by
  induction fuel generalizing s cs with
  | zero => cases hrun
  | succ fuel ih =>
    rw [run?] at hrun
    split at hrun
    · cases hrun
      exact h
    · simp only [bind, Option.bind_eq_some_iff] at hrun
      obtain ⟨⟨a, rest⟩, haction, v, hact, hrun⟩ := hrun
      exact ih (h.act (action?_ordered haction) hact) hrun

end State
end SecureChannel.Regex.Parser

namespace SecureChannel.Regex

theorem Term.parse?_ordered {pattern : List Char} {t : Term}
    (h : Term.parse? pattern = some t) : t.Ordered := by
  simp only [Term.parse?, bind, Option.bind_eq_some_iff] at h
  obtain ⟨s, hrun, h⟩ := h
  have hs : s.Ordered := Parser.State.Ordered.run ⟨by simp, by simp, by simp⟩ hrun
  split at h
  · cases h
    exact hs.content
  · cases h

end SecureChannel.Regex
