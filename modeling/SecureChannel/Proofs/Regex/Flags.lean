import SecureChannel.Proofs.Regex.AsciiCase
import SecureChannel.Regex.Meaning

/-! Flags within a pattern. While the flag that ignores case is on, nothing that a pattern can name
tells the two cases of an ASCII letter apart; only the pattern itself can switch it off. -/
namespace SecureChannel.Regex

/-- The changes do not switch off the flag that ignores case. -/
def keepCaseFlag (changes : FlagChanges) : Bool := !changes.contains (.ignoreCase, false)

namespace Term

mutual

/-- The flag that ignores case is never switched off. -/
def keepsCaseFlag : Term → Bool
  | .flags changes => keepCaseFlag changes
  | .group _ changes t => keepCaseFlag changes && t.keepsCaseFlag
  | .times t _ _ _ => t.keepsCaseFlag
  | .sequence ts | .choice ts => keepCaseFlagAll ts
  | _ => true

def keepCaseFlagAll : List Term → Bool
  | [] => true
  | t :: rest => t.keepsCaseFlag && keepCaseFlagAll rest

end

end Term

section Sets

variable {m : Mode} {s t : CharSet}

theorem Mode.apply_ignoreCase {changes : FlagChanges} (hm : m.ignoreCase = true)
    (h : keepCaseFlag changes = true) : (m.apply changes).ignoreCase = true := by
  induction changes generalizing m with
  | nil => exact hm
  | cons change changes ih =>
    obtain ⟨flag, on⟩ := change
    simp only [keepCaseFlag, List.contains_cons, Bool.not_or, Bool.and_eq_true] at h
    refine ih (m := m.set (flag, on)) ?_ h.2
    cases flag with
    | ignoreCase =>
      cases on with
      | true => rfl
      | false => cases h.1
    | _ => exact hm

theorem Mode.fold_ignoresCase (hm : m.ignoreCase = true) (s : CharSet) :
    (m.fold s).IgnoresCase := by
  unfold Mode.fold
  rw [hm]
  cases m.unicode with
  | true => exact CharSet.ignoresCase_foldCase s
  | false => exact CharSet.ignoresCase_foldCaseAscii s

theorem Mode.negate?_ignoresCase {negated : Bool} (hs : s.IgnoresCase)
    (h : m.negate? negated s = some t) : t.IgnoresCase := by
  unfold Mode.negate? at h
  split at h
  · cases h
    exact hs
  · split at h
    · cases h
      exact hs.compl
    · cases h

theorem Mode.finish?_ignoresCase {negated : Bool} (hm : m.ignoreCase = true)
    (h : m.finish? negated s = some t) : t.IgnoresCase :=
  m.negate?_ignoresCase (m.fold_ignoresCase hm s) h

theorem PerlClass.ignoresCase_set (unicode : Bool) (c : PerlClass) :
    (c.set unicode).IgnoresCase := by
  cases unicode with
  | true =>
    cases c with
    | digit => exact CharSet.ignoresCase_decimalNumber
    | space => exact CharSet.ignoresCase_whiteSpace
    | word => exact CharSet.ignoresCase_word
  | false => cases c <;> decide

theorem dot?_ignoresCase (h : dot? m = some s) : s.IgnoresCase := by
  have hall : CharSet.all.IgnoresCase := by decide
  have hfeed : (CharSet.single '\n').IgnoresCase := by decide
  have hreturn : (CharSet.single '\r').IgnoresCase := by decide
  unfold dot? at h
  split at h
  · cases h
  · split at h
    · cases h
      exact hall
    · split at h
      · cases h
        exact hall.diff (hfeed.union hreturn)
      · cases h
        exact hall.diff hfeed

theorem Term.chars?_ignoresCase {t : Term} (hm : m.ignoreCase = true) (h : t.chars? m = some s) :
    s.IgnoresCase := by
  cases t with
  | literal l =>
    simp only [Term.chars?, bind, Option.bind_eq_some_iff] at h
    obtain ⟨c, -, heq⟩ := h
    cases heq
    exact m.fold_ignoresCase hm _
  | dot => exact dot?_ignoresCase h
  | perl c negated => exact m.negate?_ignoresCase (c.ignoresCase_set _) h
  | property name negated =>
    simp only [Term.chars?, PropertyName.compile?, bind] at h
    split at h
    · obtain ⟨u, -, h⟩ := Option.bind_eq_some_iff.mp h
      exact m.finish?_ignoresCase hm h
    · cases h
  | bracketed negated set =>
    simp only [Term.chars?, bind, Option.bind_eq_some_iff] at h
    obtain ⟨u, -, h⟩ := h
    exact m.finish?_ignoresCase hm h
  | _ => cases h

end Sets

section Compiling

theorem IgnoresCase.repetition {r : Regex} {min : Nat} {max : Option Nat} (h : r.IgnoresCase) :
    (repetition r min max).IgnoresCase := by
  unfold Regex.repetition
  split
  · split
    · trivial
    · exact h
  · exact h

mutual

/-- Wherever the flag stays on, an expression takes letters in both cases. -/
theorem Term.compile_ignoresCase {t : Term} {m m' : Mode} {r : Regex}
    (ht : t.keepsCaseFlag = true) (hm : m.ignoreCase = true)
    (hr : t.compile? m = some (r, m')) : r.IgnoresCase ∧ m'.ignoreCase = true := by
  match t with
  | .flags changes =>
    cases hr
    exact ⟨trivial, Mode.apply_ignoreCase hm ht⟩
  | .group _ changes t =>
    obtain ⟨hchanges, ht⟩ := Bool.and_eq_true_iff.mp ht
    simp only [Term.compile?, bind, Option.bind_eq_some_iff] at hr
    obtain ⟨⟨s, n⟩, hs, heq⟩ := hr
    cases heq
    exact ⟨(Term.compile_ignoresCase ht (Mode.apply_ignoreCase hm hchanges) hs).1, hm⟩
  | .times t _ min max =>
    simp only [Term.compile?, bind, Option.bind_eq_some_iff] at hr
    obtain ⟨⟨s, n⟩, hs, heq⟩ := hr
    cases heq
    obtain ⟨hcase, hn⟩ := Term.compile_ignoresCase (t := t) ht hm hs
    exact ⟨hcase.repetition, hn⟩
  | .sequence ts => exact Term.sequence_ignoresCase ht hm hr
  | .choice ts => exact Term.choice_ignoresCase ht hm hr
  | .anchor _ =>
    cases hr
    exact ⟨trivial, hm⟩
  | .literal _ | .dot | .perl _ _ | .property _ _ | .bracketed _ _ =>
    simp only [Term.compile?, bind, Option.bind_eq_some_iff] at hr
    obtain ⟨s, hs, heq⟩ := hr
    cases heq
    exact ⟨Term.chars?_ignoresCase hm hs, hm⟩

theorem Term.sequence_ignoresCase {ts : List Term} {m m' : Mode} {r : Regex}
    (ht : Term.keepCaseFlagAll ts = true) (hm : m.ignoreCase = true)
    (hr : Term.sequence? m ts = some (r, m')) : r.IgnoresCase ∧ m'.ignoreCase = true := by
  match ts with
  | [] =>
    cases hr
    exact ⟨trivial, hm⟩
  | t :: ts =>
    obtain ⟨ht, hts⟩ := Bool.and_eq_true_iff.mp ht
    simp only [Term.sequence?, bind, Option.bind_eq_some_iff] at hr
    obtain ⟨⟨s, n⟩, hs, ⟨u, n'⟩, hu, heq⟩ := hr
    cases heq
    obtain ⟨hcase, hn⟩ := Term.compile_ignoresCase ht hm hs
    obtain ⟨hrest, hm'⟩ := Term.sequence_ignoresCase hts hn hu
    exact ⟨⟨hcase, hrest⟩, hm'⟩

theorem Term.choice_ignoresCase {ts : List Term} {m m' : Mode} {r : Regex}
    (ht : Term.keepCaseFlagAll ts = true) (hm : m.ignoreCase = true)
    (hr : Term.choice? m ts = some (r, m')) : r.IgnoresCase ∧ m'.ignoreCase = true := by
  match ts with
  | [] =>
    cases hr
    have hempty : CharSet.empty.IgnoresCase := by decide
    exact ⟨hempty, hm⟩
  | t :: ts =>
    obtain ⟨ht, hts⟩ := Bool.and_eq_true_iff.mp ht
    simp only [Term.choice?, bind, Option.bind_eq_some_iff] at hr
    obtain ⟨⟨s, n⟩, hs, ⟨u, n'⟩, hu, heq⟩ := hr
    cases heq
    obtain ⟨hcase, hn⟩ := Term.compile_ignoresCase ht hm hs
    obtain ⟨hrest, hm'⟩ := Term.choice_ignoresCase hts hn hu
    exact ⟨⟨hcase, hrest⟩, hm'⟩

end

end Compiling
end SecureChannel.Regex
