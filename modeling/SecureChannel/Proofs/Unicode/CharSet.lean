import Mathlib.Data.List.Basic
import SecureChannel.Unicode.CharSet

/-! What is in a set of characters that was made of other ones. Ranges are sorted, joined and cut,
and all that matters is what they cover. -/
namespace SecureChannel.CharSet

/-- Some range holds the code point. -/
def Covers (ranges : List (Nat × Nat)) (n : Nat) : Prop := ∃ r ∈ ranges, r.1 ≤ n ∧ n ≤ r.2

/-- The code point is no surrogate. -/
def IsScalar (n : Nat) : Prop := n < 0xD800 ∨ 0xDFFF < n

variable {s t : CharSet} {c : Char} {n : Nat} {ranges ranges' : List (Nat × Nat)}

theorem contains_iff : s.contains n = true ↔ Covers s.ranges n := by
  simp [contains, Covers]

theorem mem_iff : c ∈ s ↔ s.contains c.toNat = true := Iff.rfl

@[simp] theorem not_covers_nil : ¬ Covers [] n := nofun

@[simp] theorem covers_cons {r : Nat × Nat} :
    Covers (r :: ranges) n ↔ r.1 ≤ n ∧ n ≤ r.2 ∨ Covers ranges n := by
  simp [Covers]

@[simp] theorem covers_append :
    Covers (ranges ++ ranges') n ↔ Covers ranges n ∨ Covers ranges' n := by
  simp [Covers, or_and_right, exists_or]

theorem covers_flatMap {α : Type} {f : α → List (Nat × Nat)} {l : List α} :
    Covers (l.flatMap f) n ↔ ∃ a ∈ l, Covers (f a) n := by
  induction l with
  | nil => simp
  | cons a l ih => simp only [List.flatMap_cons, covers_append, ih, List.mem_cons, exists_eq_or_imp]

section Joining

theorem covers_sorted : Covers (sorted ranges) n ↔ Covers ranges n := by
  have hperm := List.mergeSort_perm ranges fun r s => r.1 ≤ s.1
  simp only [Covers, sorted, hperm.mem_iff]

theorem sorted_pairwise (ranges : List (Nat × Nat)) :
    (sorted ranges).Pairwise fun r s => r.1 ≤ s.1 := by
  have hpairwise : (sorted ranges).Pairwise fun r s => decide (r.1 ≤ s.1) = true :=
    List.pairwise_mergeSort
      (fun a b c hab hbc => by simp only [decide_eq_true_eq] at *; omega)
      (fun a b => by simp only [Bool.or_eq_true, decide_eq_true_eq]; omega) ranges
  exact hpairwise.imp fun h => of_decide_eq_true h

/-- Ranges that meet or adjoin cover together what lies between their ends. -/
theorem covers_joinFrom {first last : Nat}
    (h : ((first, last) :: ranges).Pairwise fun r s => r.1 ≤ s.1) :
    Covers (joinFrom first last ranges) n ↔ Covers ((first, last) :: ranges) n := by
  induction ranges generalizing first last with
  | nil => rfl
  | cons r ranges ih =>
    obtain ⟨a, b⟩ := r
    obtain ⟨hfirst, hrest⟩ := List.pairwise_cons.mp h
    rw [joinFrom]
    split
    · have hle : first ≤ a := hfirst (a, b) List.mem_cons_self
      have hjoined : ((first, max last b) :: ranges).Pairwise fun r s => r.1 ≤ s.1 :=
        List.pairwise_cons.mpr
          ⟨fun s hs => hfirst s (List.mem_cons_of_mem _ hs), hrest.of_cons⟩
      rw [ih hjoined]
      simp only [covers_cons, ← or_assoc]
      have hunion : first ≤ n ∧ n ≤ max last b ↔ first ≤ n ∧ n ≤ last ∨ a ≤ n ∧ n ≤ b := by omega
      rw [hunion]
    · rw [covers_cons, ih hrest]
      exact covers_cons.symm

theorem covers_joined (h : ranges.Pairwise fun r s => r.1 ≤ s.1) :
    Covers (joined ranges) n ↔ Covers ranges n := by
  cases ranges with
  | nil => rfl
  | cons r ranges => exact covers_joinFrom h

private theorem exists_range_iff {a b : Nat} :
    (∃ r ∈ (if a ≤ b then some (a, b) else none), r.1 ≤ n ∧ n ≤ r.2) ↔ a ≤ n ∧ n ≤ b := by
  split
  · simp only [Option.mem_some, exists_eq_left']
  · simp only [Option.not_mem_none, false_and, exists_false, false_iff]
    omega

theorem withinCharacters_iff (hn : IsScalar n) (r : Nat × Nat) :
    (∃ r' ∈ withinCharacters r, r'.1 ≤ n ∧ n ≤ r'.2) ↔ r.1 ≤ n ∧ n ≤ r.2 := by
  obtain ⟨a, b⟩ := r
  unfold IsScalar at hn
  have hfirst : (if 0xD800 ≤ a ∧ a < 0xE000 then 0xE000 else a) ≤ n ↔ a ≤ n := by
    split_ifs <;> omega
  have hlast : n ≤ (if 0xD800 ≤ b ∧ b < 0xE000 then 0xD7FF else b) ↔ n ≤ b := by
    split_ifs <;> omega
  rw [withinCharacters, exists_range_iff, hfirst, hlast]

/-- Surrogates at the ends of ranges are no loss. -/
theorem covers_withinCharacters (hn : IsScalar n) :
    Covers (ranges.filterMap withinCharacters) n ↔ Covers ranges n := by
  simp only [Covers, List.mem_filterMap]
  constructor
  · intro h
    obtain ⟨r', ⟨r, hr, hr'⟩, hle⟩ := h
    exact ⟨r, hr, (withinCharacters_iff hn r).mp ⟨r', hr', hle⟩⟩
  · intro h
    obtain ⟨r, hr, hle⟩ := h
    obtain ⟨r', hr', hle'⟩ := (withinCharacters_iff hn r).mpr hle
    exact ⟨r', ⟨r, hr, hr'⟩, hle'⟩

theorem contains_ofRanges_iff (hn : IsScalar n) :
    (ofRanges ranges).contains n = true ↔ Covers ranges n := by
  rw [contains_iff, ofRanges, covers_withinCharacters hn, covers_joined (sorted_pairwise ranges),
    covers_sorted]

theorem contains_union_iff (hn : IsScalar n) :
    (s ∪ t).contains n = true ↔ s.contains n = true ∨ t.contains n = true := by
  have hunion : (s ∪ t).contains n = true ↔ Covers (s.ranges ++ t.ranges) n :=
    contains_ofRanges_iff hn
  rw [hunion, covers_append, contains_iff, contains_iff]

end Joining

section Gaps

/-- A gap meets no range, and begins late enough. -/
theorem covers_gaps_iff {start : Nat} (h : ranges.Pairwise fun r s => r.1 ≤ s.1)
    (hn : n ≤ maxPoint) : Covers (gaps start ranges) n ↔ start ≤ n ∧ ¬ Covers ranges n := by
  induction ranges generalizing start with
  | nil =>
    rw [gaps]
    split
    · simp [hn]
    · have : ¬ start ≤ n := by omega
      simp [this]
  | cons r ranges ih =>
    obtain ⟨a, b⟩ := r
    obtain ⟨hfirst, hrest⟩ := List.pairwise_cons.mp h
    have hothers : Covers (gaps (max start (b + 1)) ranges) n ↔
        max start (b + 1) ≤ n ∧ ¬ Covers ranges n := ih hrest
    -- What lies before a range lies before all those after it.
    have hbefore (hlt : n < a) : ¬ Covers ranges n := by
      intro hcovers
      obtain ⟨r, hr, hle, -⟩ := hcovers
      have hafter : a ≤ r.1 := hfirst r hr
      omega
    simp only [gaps]
    split
    · rw [covers_cons, hothers, covers_cons]
      grind
    · rw [hothers, covers_cons]
      grind

theorem covers_gaps_sorted_iff (hn : n ≤ maxPoint) :
    Covers (gaps 0 (sorted ranges)) n ↔ ¬ Covers ranges n := by
  rw [covers_gaps_iff (sorted_pairwise _) hn, covers_sorted]
  exact and_iff_right (Nat.zero_le n)

theorem le_of_mem_gaps {start : Nat} {r : Nat × Nat} (h : r ∈ gaps start ranges) : r.1 ≤ r.2 := by
  induction ranges generalizing start with
  | nil =>
    rw [gaps] at h
    split at h
    · obtain rfl := List.mem_singleton.mp h
      assumption
    · cases h
  | cons range ranges ih =>
    simp only [gaps] at h
    split at h
    · rcases List.mem_cons.mp h with rfl | h
      · simp only
        omega
      · exact ih h
    · exact ih h

/-- Below the surrogates a gap is what it seems to be. -/
theorem gapCharacters_iff (hn : n < 0xD7FF) {r : Nat × Nat} (hr : r.1 ≤ r.2) :
    (gapCharacters r).1 ≤ n ∧ n ≤ (gapCharacters r).2 ↔ r.1 ≤ n ∧ n ≤ r.2 := by
  obtain ⟨a, b⟩ := r
  simp only [gapCharacters] at *
  split_ifs <;> omega

/-- Around the surrogates a complement may hold too much, but not before. -/
theorem contains_compl_iff (hn : n < 0xD7FF) :
    s.compl.contains n = true ↔ ¬ s.contains n = true := by
  have hmax : n ≤ maxPoint := by
    unfold maxPoint
    omega
  rw [contains_iff, contains_iff, ← covers_gaps_sorted_iff hmax, compl]
  simp only [Covers, List.mem_map, exists_exists_and_eq_and]
  constructor
  · intro h
    obtain ⟨r, hr, hle⟩ := h
    exact ⟨r, hr, (gapCharacters_iff hn (le_of_mem_gaps hr)).mp hle⟩
  · intro h
    obtain ⟨r, hr, hle⟩ := h
    exact ⟨r, hr, (gapCharacters_iff hn (le_of_mem_gaps hr)).mpr hle⟩

end Gaps

section Intersection

theorem inter_ranges :
    (s ∩ t).ranges =
      (gaps 0 (sorted (gaps 0 (sorted s.ranges) ++ gaps 0 (sorted t.ranges)))).filterMap
        withinCharacters :=
  rfl

theorem diff_ranges :
    (s \ t).ranges =
      (gaps 0 (sorted (gaps 0 (sorted s.ranges) ++ t.ranges))).filterMap withinCharacters :=
  rfl

theorem contains_inter_iff (hn : IsScalar n) (hmax : n ≤ maxPoint) :
    (s ∩ t).contains n = true ↔ s.contains n = true ∧ t.contains n = true := by
  rw [contains_iff, inter_ranges, covers_withinCharacters hn, covers_gaps_sorted_iff hmax,
    covers_append, covers_gaps_sorted_iff hmax, covers_gaps_sorted_iff hmax, contains_iff,
    contains_iff, not_or, not_not, not_not]

theorem contains_diff_iff (hn : IsScalar n) (hmax : n ≤ maxPoint) :
    (s \ t).contains n = true ↔ s.contains n = true ∧ ¬ t.contains n = true := by
  rw [contains_iff, diff_ranges, covers_withinCharacters hn, covers_gaps_sorted_iff hmax,
    covers_append, covers_gaps_sorted_iff hmax, contains_iff, contains_iff, not_or, not_not]

theorem le_of_mem_inter {r : Nat × Nat} (h : r ∈ (s ∩ t).ranges) : r.1 ≤ r.2 := by
  rw [inter_ranges] at h
  obtain ⟨⟨a, b⟩, -, hr⟩ := List.mem_filterMap.mp h
  simp only [withinCharacters, Option.ite_none_right_eq_some, Option.some.injEq] at hr
  obtain ⟨hle, rfl⟩ := hr
  exact hle

end Intersection
end SecureChannel.CharSet
