import SecureChannel.Proofs.Regex.Parser.Class
import SecureChannel.Regex.Anchored

/-! Whole patterns between an open group and its closing bracket. -/
namespace SecureChannel.Regex.Parser

section Heads

variable {cs cs' : List Char}

theorem changes?_extends (h : Continues cs cs') (seen : FlagChanges) (negated dangling : Bool) :
    Extends (changes? seen negated dangling cs) (changes? seen negated dangling cs') := by
  induction cs generalizing cs' seen negated dangling with
  | nil => exact .none
  | cons c cs ih =>
    obtain ⟨cs', rfl, hcs⟩ := h.cons_eq
    simp only [changes?]
    split_ifs
    · exact .none
    · exact .some hcs
    · exact .none
    · exact ih hcs _ _ _
    · cases flag? c with
      | none => exact .none
      | some f =>
        dsimp only [bind, Option.bind]
        split_ifs
        · exact .none
        · exact ih hcs _ _ _

theorem groupName?_append (cs : List Char) {name rest : List Char}
    (h : groupName? cs = some (name, rest)) :
    groupName? (cs ++ closing) = some (name, rest ++ closing) := by
  unfold groupName? at h ⊢
  cases hrest : cs.dropWhile (· != '>') with
  | nil => simp [hrest] at h
  | cons c more =>
    obtain ⟨htake, hdrop⟩ := run_append hrest closing
    rw [htake, hdrop]
    rw [hrest] at h
    split at h
    · next first letters rest' htaken heq =>
      obtain ⟨rfl, rfl⟩ := List.cons_eq_cons.mp heq
      rw [htaken]
      split at h
      · next hletters =>
        cases h
        exact if_pos hletters
      · cases h
    · cases h

theorem isLookAround_append (cs : List Char) : isLookAround (cs ++ closing) = isLookAround cs := by
  match cs with
  | [] => rfl
  | [c] =>
    by_cases hc : c = '<'
    · subst hc
      rfl
    · simp [isLookAround, hc]
  | c :: d :: cs =>
    by_cases hc : c = '<'
    · subst hc
      rfl
    · simp [isLookAround, hc]

theorem nameMark?_append (cs : List Char) :
    nameMark? (cs ++ closing) = (nameMark? cs).map (· ++ closing) := by
  match cs with
  | [] => rfl
  | [c] =>
    by_cases hc : c = '<'
    · subst hc
      rfl
    · simp [nameMark?, closing, hc]
  | c :: d :: cs =>
    by_cases hc : c = '<'
    · subst hc
      rfl
    · by_cases hd : d = '<'
      · subst hd
        by_cases hp : c = 'P'
        · subst hp
          rfl
        · simp [nameMark?, hc, hp]
      · simp [nameMark?, hc, hd]

theorem groupName?_extends (h : Continues cs cs') : Extends (groupName? cs) (groupName? cs') := by
  cases h with
  | swallowed => exact .none
  | more =>
    intro name rest hname
    exact ⟨_, groupName?_append cs hname, .more rest⟩

theorem specialHead?_extends (h : Continues cs cs') :
    Extends (specialHead? cs) (specialHead? cs') := by
  cases h with
  | swallowed => exact .none
  | more =>
    unfold specialHead?
    rw [isLookAround_append, nameMark?_append]
    split
    · exact .none
    · cases nameMark? cs with
      | some cs => exact (groupName?_extends (.more cs)).map fun name => GroupHead.capture (some name)
      | none =>
        exact (changes?_extends (.more cs) [] false false).bind
          fun changes rest rest' hrest => .pair (flagHead? changes.1 changes.2) hrest

theorem groupHead?_extends (h : Continues cs cs') : Extends (groupHead? cs) (groupHead? cs') := by
  intro head rest hhead
  unfold groupHead? at hhead ⊢
  split at hhead
  · next cs =>
    obtain ⟨cs', rfl, hcs⟩ := h.cons_eq
    exact specialHead?_extends hcs head rest hhead
  · next hne =>
    split
    · next cs' => exact (h.head_ne (by decide) hne cs' rfl).elim
    · exact Extends.some h head rest hhead

theorem operator_extends (h : Continues cs cs') (min : Nat) (max : Option Nat) :
    Extends (some (operator min max cs)) (some (operator min max cs')) :=
  (withBounds_extends h min max).map Action.repeatLast

theorem action?_extends (h : Continues cs cs') (verbose : Bool) {fuel fuel' : Nat}
    (hfuel : fuel ≤ fuel') (c : Char) :
    Extends (action? verbose fuel c cs) (action? verbose fuel' c cs') := by
  unfold action?
  split
  · exact (groupHead?_extends (h.skip verbose)).map Action.openGroup
  · exact .some h
  · exact .some h
  · exact (class?_extends h verbose hfuel).map Action.push
  · exact operator_extends h 0 (some 1)
  · exact operator_extends h 0 none
  · exact operator_extends h 1 none
  · exact (bounds?_extends h verbose).map Action.repeatLast
  · exact (escape?_extends h verbose).map fun p => Action.push p.toTerm
  · exact .some h
  · exact .some h
  · exact .some h
  · exact .some h

end Heads

namespace State

variable {s u : State} {cs cs' : List Char} {base : List GroupFrame}

/-- The state with more open groups around it. -/
def within (base : List GroupFrame) (s : State) : State := { s with stack := s.stack ++ base }

/-- No action looks at the groups around. -/
theorem act?_within {a : Action} (h : s.act? a = some u) :
    (s.within base).act? a = some (u.within base) := by
  cases a with
  | push t =>
    cases h
    rfl
  | branch =>
    cases h
    rfl
  | openGroup head =>
    simp only [act?, beginGroup?] at h ⊢
    split at h
    · cases h
      rfl
    · split at h
      · cases h
      · next hnames =>
        cases h
        exact if_neg hnames
    · cases h
      rfl
    · cases h
      rfl
  | closeGroup =>
    simp only [act?, closeGroup?] at h ⊢
    split at h
    · cases h
    · next hstack =>
      cases h
      simp [within, hstack, content]
  | repeatLast b =>
    simp only [act?, repeatLast?, within] at h ⊢
    split at h
    · cases h
    · cases h
    · next t terms hterms hne =>
      cases h
      rfl

theorem skip_closing (verbose : Bool) : skip verbose closing = closing := by
  cases verbose <;> decide +kernel

/-- A run on a pattern is repeated within open groups. There it is at the end of the pattern when the
closing text comes, unless a comment has swallowed that. -/
theorem run?_within {fuel : Nat} (h : run? fuel s cs = some u) (hcs : Continues cs cs')
    (base : List GroupFrame) (extra : Nat) :
    run? (fuel + extra) (s.within base) cs' = some (u.within base) ∨
      ∃ left, run? (fuel + extra) (s.within base) cs' =
        run? (left + extra + 1) (u.within base) closing := by
  induction fuel generalizing s cs cs' with
  | zero => cases h
  | succ fuel ih =>
    have hskip := hcs.skip s.verbose
    rw [Nat.add_right_comm, run?]
    rw [run?] at h
    cases hrest : skip s.verbose cs with
    | nil =>
      rw [hrest] at hskip h
      cases h
      obtain heq | heq := hskip.nil_eq
      · refine .inr ⟨fuel, ?_⟩
        rw [run?, skip_closing]
        simp only [within]
        rw [heq]
      · refine .inl ?_
        simp only [within]
        rw [heq]
    | cons c rest =>
      rw [hrest] at hskip h
      obtain ⟨rest', heq, hcontinues⟩ := hskip.cons_eq
      simp only [bind, Option.bind_eq_some_iff] at h
      obtain ⟨⟨a, more⟩, haction, v, hact, hrun⟩ := h
      obtain ⟨more', haction', hmore⟩ := action?_extends hcontinues s.verbose (Nat.le_add_right fuel extra) c
        a more haction
      have hverbose : (s.within base).verbose = s.verbose := rfl
      rw [hverbose, heq]
      simp only [haction', bind, Option.bind_some, act?_within hact]
      exact ih hrun hmore

end State

/-- What the opening text of an anchored pattern leaves behind. -/
private def anchorFrame : GroupFrame := ⟨[.anchor .startText], [], false, [], false⟩

private theorem run?_opening (fuel : Nat) (cs : List Char) :
    State.run? (fuel + 2) {} ("\\A(?:".toList ++ cs) =
      State.run? fuel (State.within [anchorFrame] {}) cs := by
  rfl

private theorem run?_closing (fuel : Nat) {s : State} (hstack : s.stack = []) :
    ∃ u, State.run? (fuel + 3) (s.within [anchorFrame]) closing = some u ∧
      u.content = .sequence [.anchor .startText, .group false [] s.content, .anchor .endText] := by
  have hskip : skip (s.within [anchorFrame]).verbose closing = closing := State.skip_closing _
  rw [State.run?, hskip]
  obtain ⟨stack, terms, branches, verbose, names⟩ := s
  subst hstack
  exact ⟨_, rfl, rfl⟩

/-- Where a pattern is well formed by itself, the brackets around it keep it together. -/
theorem parse?_anchor {pattern : List Char} {t w : Term} (h : Term.parse? pattern = some t)
    (hw : Term.parse? (anchor pattern) = some w) :
    w = .sequence [.anchor .startText, .group false [] t, .anchor .endText] := by
  simp only [Term.parse?, bind, Option.bind_eq_some_iff] at h hw
  obtain ⟨s, hrun, hs⟩ := h
  obtain ⟨u, hanchored, hu⟩ := hw
  split at hs
  · next hstack =>
    split at hu
    · next hclosed =>
      cases hs
      cases hu
      rw [Bool.and_eq_true, List.isEmpty_iff] at hstack hclosed
      have htext : anchor pattern = "\\A(?:".toList ++ (pattern ++ closing) := List.append_assoc ..
      have hfuel : (anchor pattern).length + 1 = pattern.length + 1 + 6 + 2 := by
        rw [htext, List.length_append, List.length_append]
        change 5 + (pattern.length + 3) + 1 = _
        omega
      rw [hfuel, htext, run?_opening] at hanchored
      rcases State.run?_within hrun (.more pattern) [anchorFrame] 6 with hopen | ⟨left, hleft⟩
      · obtain rfl : s.within [anchorFrame] = u := Option.some.inj (hopen.symm.trans hanchored)
        simp [State.within] at hclosed
      · obtain ⟨v, hv, hcontent⟩ := run?_closing (left + 4) hstack.1
        obtain rfl : v = u := Option.some.inj (hv.symm.trans (hleft.symm.trans hanchored))
        exact hcontent
    · cases hu
  · cases hs

end SecureChannel.Regex.Parser
