import SecureChannel.Proofs.Matcher.Anchoring
import SecureChannel.Proofs.Regex.Flags

/-! Regular expressions as matchers that ignore case. A matcher only chooses the flags that its
pattern begins with, so a pattern that switches this one off tells the cases of letters apart. -/
namespace SecureChannel

theorem Regex.anchored?_eq_some {pattern : String} {ignoreCase : Bool} {r : Regex}
    (h : anchored? pattern ignoreCase = some r) :
    ∃ t m, Term.parse? (anchor pattern.toList) = some t ∧
      t.compile? { ignoreCase } = some (r, m) := by
  simp only [anchored?, compile?, bind, Option.bind_eq_some_iff] at h
  obtain ⟨t, ht, ⟨r', m⟩, hr, _, -, h⟩ := h
  split at h
  · cases h
    exact ⟨t, m, ht, hr⟩
  · cases h

namespace Matcher

/-- Names that differ in the case of ASCII letters only are both accepted or both refused. -/
def IgnoresCase (m : Matcher) : Prop :=
  ∀ candidate candidate' : String,
    candidate.toList.map Char.toLower = candidate'.toList.map Char.toLower →
      m.accepts candidate = m.accepts candidate'

/-- An empty text is refused in any case, so it makes no difference. -/
theorem ignoresCase_regex_iff {pattern : String} {r : Regex} {ignoreCase : Bool} (h : r.Ordered) :
    IgnoresCase ⟨.regex pattern r, ignoreCase⟩ ↔
      ∀ text text' : List Char, text.map Char.toLower = text'.map Char.toLower →
        Regex.Occurs r text → Regex.Occurs r text' := by
  have haccepts (candidate : String) : accepts ⟨.regex pattern r, ignoreCase⟩ candidate = true ↔
      candidate.toList ≠ [] ∧ Regex.Occurs r candidate.toList := by
    rw [accepts_regex_iff, Regex.occursIn_iff h, Ne, Ne, String.toList_eq_nil_iff]
  have hempty {text text' : List Char} (htext : text.map Char.toLower = text'.map Char.toLower) :
      text = [] ↔ text' = [] := by
    rw [← List.map_eq_nil_iff (f := Char.toLower), htext, List.map_eq_nil_iff]
  constructor
  · intro hcase text text' htext hoccurs
    by_cases hnil : text = []
    · obtain rfl := (hempty htext).mp hnil
      rwa [hnil] at hoccurs
    · have heq := hcase (String.ofList text) (String.ofList text') (by simpa using htext)
      rw [Bool.eq_iff_iff, haccepts, haccepts, String.toList_ofList, String.toList_ofList] at heq
      exact (heq.mp ⟨hnil, hoccurs⟩).2
  · intro hoccurs candidate candidate' htext
    rw [Bool.eq_iff_iff, haccepts, haccepts, Ne, Ne, hempty htext]
    exact and_congr_right' ⟨hoccurs _ _ htext, hoccurs _ _ htext.symm⟩

/-- A matcher that is to ignore case does so exactly if its expression matches nothing more once
both cases of each letter are in its sets, and always if its pattern never switches the flag off. -/
theorem regex_ignores_case_iff {pattern : String} {m : Matcher}
    (h : ofSpec { safeRegex := some pattern, ignoreCase := true } = .ok m) :
    ∃ r, m = ⟨.regex pattern r, true⟩ ∧
      (m.IgnoresCase ↔
        ∀ text, r.bothCases.occursIn text = true → r.occursIn text = true) ∧
      ((Regex.Term.parse? (Regex.anchor pattern.toList)).all Regex.Term.keepsCaseFlag = true →
        m.IgnoresCase) := by
  obtain ⟨r, hr, rfl⟩ := ofSpec_regex_eq_ok_iff.mp h
  obtain ⟨t, n, ht, hcompile⟩ := Regex.anchored?_eq_some hr
  have hordered : r.Ordered := (Regex.Term.parse?_ordered ht).compile hcompile
  refine ⟨r, rfl, ?_, ?_⟩
  · simp only [ignoresCase_regex_iff hordered, Regex.occursIn_iff hordered,
      Regex.occursIn_iff hordered.bothCases, Regex.occurs_bothCases_iff]
    constructor
    · intro hcase text hboth
      obtain ⟨text', htext, hoccurs⟩ := hboth
      exact hcase text' text htext hoccurs
    · intro hboth text text' htext hoccurs
      exact hboth text' ⟨text, htext, hoccurs⟩
  · intro hflag
    rw [ht, Option.all_some] at hflag
    have hcase : r.IgnoresCase := (Regex.Term.compile_ignoresCase hflag rfl hcompile).1
    exact (ignoresCase_regex_iff hordered).mpr fun text text' htext hoccurs =>
      hcase.occurs_congr hoccurs htext.symm

theorem regex_ignores_case_words :
    ∃ m, ofSpec { safeRegex := some "(?-u)\\w+", ignoreCase := true } = .ok m ∧ m.IgnoresCase := by
  have hsome : (Regex.anchored? "(?-u)\\w+" true).isSome = true := by decide +kernel
  have hm := ofSpec_regex_eq_ok_iff.mpr ⟨_, (Option.some_get hsome).symm, rfl⟩
  obtain ⟨_, -, -, hcase⟩ := regex_ignores_case_iff hm
  exact ⟨_, hm, hcase (by decide +kernel)⟩

/-- A pattern may switch the flag off that the matcher has switched on. -/
theorem regex_minds_case :
    ∃ m, ofSpec { safeRegex := some "(?-i)abc", ignoreCase := true } = .ok m ∧
      m.accepts "abc" = true ∧ m.accepts "ABC" = false :=
  ⟨⟨.regex "(?-i)abc" ((Regex.anchored? "(?-i)abc" true).get (by decide +kernel)), true⟩,
    ofSpec_regex_eq_ok_iff.mpr ⟨_, (Option.some_get _).symm, rfl⟩, by decide +kernel,
    by decide +kernel⟩

end Matcher
end SecureChannel
