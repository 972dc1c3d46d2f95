import SecureChannel.Matcher
import SecureChannel.Proofs.Regex.Bounds
import SecureChannel.Proofs.Regex.Parser.Pattern

/-! Regular expressions as matchers. A pattern is set between anchors as text, so it is held by them
exactly if it is well formed before. -/
namespace SecureChannel

namespace Regex

/-- The expression that a pattern stands for by itself. -/
def alone? (pattern : List Char) (ignoreCase : Bool) : Option Regex := do
  let t ← Term.parse? pattern
  let (r, _) ← t.compile? { ignoreCase }
  return r

/-- An expression between the start and the end of a text. -/
def between (r : Regex) : Regex :=
  .seq (.assertion .start) (.seq r (.seq (.assertion .finish) .empty))

theorem occurs_between_iff {r : Regex} {text : List Char} :
    Occurs r.between text ↔ Matches r [] text [] := by
  constructor
  · intro hmatch
    obtain ⟨before, part, after, rfl, hmatch⟩ := hmatch
    obtain ⟨_, rest, rfl, hstart, hrest⟩ := matches_seq_iff.mp hmatch
    obtain ⟨u, _, rfl, hr, hend⟩ := matches_seq_iff.mp hrest
    obtain ⟨_, _, rfl, hfinish, hempty⟩ := matches_seq_iff.mp hend
    obtain ⟨rfl, hbefore⟩ := matches_assertion_iff.mp hstart
    obtain ⟨rfl, hafter⟩ := matches_assertion_iff.mp hfinish
    obtain rfl := matches_empty_iff.mp hempty
    obtain rfl : before = [] := by simpa [Assertion.holds] using hbefore
    obtain rfl : after = [] := by simpa [Assertion.holds] using hafter
    simpa using hr
  · intro h
    refine ⟨[], text, [], by simp, ?_⟩
    have hend : Matches (.seq (.assertion .finish) .empty) text [] [] :=
      .seq (u := []) (.assertion rfl) .empty
    have hrest : Matches (.seq r (.seq (.assertion .finish) .empty)) [] text [] := by
      simpa using Matches.seq (v := []) (by simpa using h) hend
    exact .seq (u := []) (.assertion rfl) hrest

theorem compile?_anchored {t : Term} {m m' : Mode} {r : Regex}
    (h : (Term.sequence [.anchor .startText, .group false [] t, .anchor .endText]).compile? m =
      some (r, m')) :
    ∃ s n, t.compile? m = some (s, n) ∧ r = s.between := by
  simp only [Term.compile?, Term.sequence?, bind, Option.bind_eq_some_iff] at h
  obtain ⟨_, hstart, _, ⟨_, ⟨⟨s, n⟩, hs, heq⟩, _, ⟨_, hend, _, hempty, hrest⟩, hseq⟩, hr⟩ := h
  cases hstart
  cases heq
  cases hend
  cases hempty
  cases hrest
  cases hseq
  cases hr
  exact ⟨s, n, hs, rfl⟩

/-- A pattern that is well formed stays together between the anchors. -/
theorem anchored?_eq_between {pattern : String} {ignoreCase : Bool} {r : Regex}
    (h : anchored? pattern ignoreCase = some r) (hp : (Term.parse? pattern.toList).isSome = true) :
    ∃ s, alone? pattern.toList ignoreCase = some s ∧ s.Ordered ∧ r = s.between := by
  obtain ⟨t, ht⟩ := Option.isSome_iff_exists.mp hp
  simp only [anchored?, compile?, bind, Option.bind_eq_some_iff] at h
  obtain ⟨w, hw, ⟨r', m'⟩, hcompile, _, -, h⟩ := h
  rw [Parser.parse?_anchor ht hw] at hcompile
  obtain ⟨s, n, hs, rfl⟩ := compile?_anchored hcompile
  split at h
  · cases h
    refine ⟨s, ?_, (Term.parse?_ordered ht).compile hs, rfl⟩
    simp [alone?, ht, hs]
  · cases h

end Regex

namespace Matcher

theorem ofSpec_regex_eq_ok_iff {pattern : String} {ignoreCase : Bool} {m : Matcher} :
    ofSpec { safeRegex := some pattern, ignoreCase } = .ok m ↔
      ∃ r, Regex.anchored? pattern ignoreCase = some r ∧ m = ⟨.regex pattern r, ignoreCase⟩ := by
  have hpatterns : MatcherSpec.patterns { safeRegex := some pattern, ignoreCase } =
      [("safe-regex", pattern)] := rfl
  rw [ofSpec, hpatterns]
  cases hr : Regex.anchored? pattern ignoreCase with
  | none => simp [hr]
  | some r => simp [hr, eq_comm]

theorem accepts_regex_iff {pattern candidate : String} {r : Regex} {ignoreCase : Bool} :
    accepts ⟨.regex pattern r, ignoreCase⟩ candidate = true ↔
      candidate ≠ "" ∧ r.occursIn candidate.toList = true := by
  simp [accepts]

/-- A matcher matches whole candidates exactly if its pattern is well formed by itself. -/
theorem regex_accepts_whole_iff {pattern : String} {ignoreCase : Bool} {m : Matcher}
    (h : ofSpec { safeRegex := some pattern, ignoreCase } = .ok m) :
    (∃ r, Regex.alone? pattern.toList ignoreCase = some r ∧ ∀ candidate : String,
      m.accepts candidate = true ↔
        candidate ≠ "" ∧ Regex.Matches r [] candidate.toList []) ↔
      (Regex.Term.parse? pattern.toList).isSome = true := by
  obtain ⟨r, hr, rfl⟩ := ofSpec_regex_eq_ok_iff.mp h
  constructor
  · intro hmatch
    obtain ⟨s, hs, -⟩ := hmatch
    simp only [Regex.alone?, bind, Option.bind_eq_some_iff] at hs
    obtain ⟨t, ht, -⟩ := hs
    rw [ht]
    rfl
  · intro hp
    obtain ⟨s, hs, hordered, rfl⟩ := Regex.anchored?_eq_between hr hp
    refine ⟨s, hs, fun candidate => ?_⟩
    have hbetween : s.between.Ordered := ⟨trivial, hordered, trivial, trivial⟩
    rw [accepts_regex_iff, Regex.occursIn_iff hbetween, Regex.occurs_between_iff]

theorem regex_accepts_whole_words :
    ∃ m, ofSpec { safeRegex := some "ab|cd" } = .ok m ∧
      ∃ r, Regex.alone? "ab|cd".toList false = some r ∧ ∀ candidate : String,
        m.accepts candidate = true ↔
          candidate ≠ "" ∧ Regex.Matches r [] candidate.toList [] := by
  have hsome : (Regex.anchored? "ab|cd" false).isSome = true := by decide +kernel
  obtain ⟨r, hr⟩ := Option.isSome_iff_exists.mp hsome
  have hm := ofSpec_regex_eq_ok_iff.mpr ⟨r, hr, rfl⟩
  exact ⟨_, hm, (regex_accepts_whole_iff hm).mpr (by decide +kernel)⟩

/-- A pattern that closes the group it is set in matches what only begins with `a` or ends with `b`. -/
theorem regex_accepts_beyond_group :
    Regex.Term.parse? "a)|(b".toList = none ∧
      ∃ m, ofSpec { safeRegex := some "a)|(b" } = .ok m ∧ m.accepts "axxx" = true :=
  ⟨rfl, _, rfl, by decide +kernel⟩

end Matcher
end SecureChannel
