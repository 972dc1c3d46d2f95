import SecureChannel.Proofs.Unicode.Letters

/-! Sets that do not tell the two cases of an ASCII letter apart. -/
namespace SecureChannel

section Characters

variable {c d : Char}

theorem toNat_toLower (c : Char) :
    c.toLower.toNat = if 0x41 ≤ c.toNat ∧ c.toNat ≤ 0x5A then c.toNat + 0x20 else c.toNat := by
  unfold Char.toLower
  split
  · next h =>
    have hfirst : 0x41 ≤ c.toNat := h.1
    have hlast : c.toNat ≤ 0x5A := h.2
    have hshift : ('a'.val - 'A'.val).toNat = 0x20 := rfl
    rw [if_pos ⟨hfirst, hlast⟩]
    change (c.val + ('a'.val - 'A'.val)).toNat = _
    rw [UInt32.toNat_add, Char.toNat_val, hshift, Nat.mod_eq_of_lt (by omega)]
  · next h =>
    have hother : ¬ (0x41 ≤ c.toNat ∧ c.toNat ≤ 0x5A) := h
    rw [if_neg hother]

/-- Characters with the same lower case are the same, or the two cases of a letter. -/
theorem toLower_eq_toLower_iff :
    c.toLower = d.toLower ↔ c = d ∨ ∃ i < 26, (c.toNat = 0x41 + i ∧ d.toNat = 0x61 + i) ∨
      (c.toNat = 0x61 + i ∧ d.toNat = 0x41 + i) := by
  rw [← Char.toNat_inj, ← Char.toNat_inj, toNat_toLower, toNat_toLower]
  constructor
  · intro h
    by_cases hcd : c.toNat = d.toNat
    · exact .inl hcd
    · right
      split at h <;> split at h
      · omega
      · exact ⟨c.toNat - 0x41, by omega, .inl (by omega)⟩
      · exact ⟨d.toNat - 0x41, by omega, .inr (by omega)⟩
      · contradiction
  · intro h
    rcases h with h | ⟨i, hi, ⟨hc, hd⟩ | ⟨hc, hd⟩⟩
    · rw [h]
    · rw [hc, hd, if_pos (by omega), if_neg (by omega)]
      omega
    · rw [hc, hd, if_neg (by omega), if_pos (by omega)]
      omega

theorem toLower_toLower (c : Char) : c.toLower.toLower = c.toLower := by
  rw [← Char.toNat_inj, toNat_toLower c.toLower, if_neg]
  rw [toNat_toLower]
  split <;> omega

end Characters

namespace CharSet

variable {s t : CharSet} {c d : Char} {n i : Nat}

/-- Both cases of each ASCII letter are in the set, or neither is. -/
def IgnoresCase (s : CharSet) : Prop :=
  ∀ i < 26, s.contains (0x41 + i) = true ↔ s.contains (0x61 + i) = true

instance : Decidable s.IgnoresCase := inferInstanceAs (Decidable (∀ i < 26, _ ↔ _))

theorem IgnoresCase.mem_iff (h : s.IgnoresCase) (hcd : c.toLower = d.toLower) : c ∈ s ↔ d ∈ s := by
  rw [CharSet.mem_iff, CharSet.mem_iff]
  rcases toLower_eq_toLower_iff.mp hcd with rfl | ⟨i, hi, ⟨hc, hd⟩ | ⟨hc, hd⟩⟩
  · rfl
  · rw [hc, hd, h i hi]
  · rw [hc, hd, h i hi]

/-- The set with both cases of all ASCII letters in it. -/
def bothCases (s : CharSet) : CharSet :=
  let letters := (List.range 26).filter fun i => s.contains (0x41 + i) || s.contains (0x61 + i)
  ⟨s.ranges ++ letters.flatMap fun i => [(0x41 + i, 0x41 + i), (0x61 + i, 0x61 + i)]⟩

theorem contains_bothCases_iff :
    s.bothCases.contains n = true ↔ s.contains n = true ∨
      ∃ i < 26, (s.contains (0x41 + i) = true ∨ s.contains (0x61 + i) = true) ∧
        (n = 0x41 + i ∨ n = 0x61 + i) := by
  have hpair (i : Nat) : Covers [(0x41 + i, 0x41 + i), (0x61 + i, 0x61 + i)] n ↔
      n = 0x41 + i ∨ n = 0x61 + i := by
    simp only [covers_cons, not_covers_nil, or_false]
    omega
  rw [bothCases, contains_iff, covers_append, ← contains_iff, covers_flatMap]
  simp only [hpair, List.mem_filter, List.mem_range, Bool.or_eq_true, and_assoc]

theorem contains_bothCases_letter (hi : i < 26) (hn : n = 0x41 + i ∨ n = 0x61 + i) :
    s.bothCases.contains n = true ↔
      s.contains (0x41 + i) = true ∨ s.contains (0x61 + i) = true := by
  rw [contains_bothCases_iff]
  constructor
  · intro h
    rcases h with h | ⟨j, hj, hs, hletter⟩
    · rcases hn with rfl | rfl
      · exact .inl h
      · exact .inr h
    · obtain rfl : i = j := by omega
      exact hs
  · intro h
    exact .inr ⟨i, hi, h, hn⟩

theorem ignoresCase_bothCases (s : CharSet) : s.bothCases.IgnoresCase := fun _ hi =>
  (contains_bothCases_letter hi (.inl rfl)).trans (contains_bothCases_letter hi (.inr rfl)).symm

theorem mem_bothCases_iff : c ∈ s.bothCases ↔ ∃ d ∈ s, d.toLower = c.toLower := by
  rw [mem_iff, contains_bothCases_iff]
  constructor
  · intro h
    rcases h with h | ⟨i, hi, hs, hc⟩
    · exact ⟨c, h, rfl⟩
    · obtain ⟨m, hm, hletter⟩ : ∃ m, s.contains m = true ∧ (m = 0x41 + i ∨ m = 0x61 + i) := by
        rcases hs with hs | hs
        · exact ⟨_, hs, .inl rfl⟩
        · exact ⟨_, hs, .inr rfl⟩
      have hascii : ∀ m < 0x80, (Char.ofNat m).toNat = m := by decide +kernel
      have hchar := hascii m (by omega)
      refine ⟨Char.ofNat m, by rwa [mem_iff, hchar], ?_⟩
      rw [← Char.toNat_inj, toNat_toLower, toNat_toLower, hchar]
      split <;> split <;> omega
  · intro h
    obtain ⟨d, hd, hcd⟩ := h
    rcases toLower_eq_toLower_iff.mp hcd with rfl | ⟨i, hi, ⟨hd', hc⟩ | ⟨hd', hc⟩⟩
    · exact .inl hd
    · rw [mem_iff, hd'] at hd
      exact .inr ⟨i, hi, .inl hd, .inr hc⟩
    · rw [mem_iff, hd'] at hd
      exact .inr ⟨i, hi, .inr hd, .inl hc⟩

private theorem isScalar_letter (hi : i < 26) : IsScalar (0x41 + i) ∧ IsScalar (0x61 + i) := by
  unfold IsScalar
  omega

theorem IgnoresCase.union (hs : s.IgnoresCase) (ht : t.IgnoresCase) : (s ∪ t).IgnoresCase := by
  intro i hi
  obtain ⟨hupper, hlower⟩ := isScalar_letter hi
  rw [contains_union_iff hupper, contains_union_iff hlower, hs i hi, ht i hi]

theorem IgnoresCase.diff (hs : s.IgnoresCase) (ht : t.IgnoresCase) : (s \ t).IgnoresCase := by
  intro i hi
  obtain ⟨hupper, hlower⟩ := isScalar_letter hi
  have hmax : 0x61 + i ≤ maxPoint := by
    unfold maxPoint
    omega
  rw [contains_diff_iff hupper (by omega), contains_diff_iff hlower hmax, hs i hi, ht i hi]

theorem IgnoresCase.compl (h : s.IgnoresCase) : s.compl.IgnoresCase := by
  intro i hi
  rw [contains_compl_iff (by omega), contains_compl_iff (by omega), h i hi]

section Folding

theorem contains_foldCase_iff (hn : IsScalar n) :
    s.foldCase.contains n = true ↔ s.contains n = true ∨
      ∃ points ∈ Unicode.caseClasses, (∃ m ∈ points, s.contains m = true) ∧ n ∈ points := by
  have hpoints (points : List Nat) : Covers (points.map fun m => (m, m)) n ↔ n ∈ points := by
    simp only [Covers, List.mem_map, exists_exists_and_eq_and, ← Nat.le_antisymm_iff,
      exists_eq_right]
  rw [foldCase, contains_ofRanges_iff hn, covers_append, hpoints, ← contains_iff]
  simp only [List.mem_flatten, List.mem_filter, List.any_eq_true, and_assoc]

/-- A letter is in a class, so it is added with its other case if it was there before. -/
theorem contains_foldCase_letter (hi : i < 26) (hn : n = 0x41 + i ∨ n = 0x61 + i) :
    s.foldCase.contains n = true ↔ ∃ points ∈ Unicode.caseClasses,
      (∃ m ∈ points, s.contains m = true) ∧ 0x41 + i ∈ points := by
  have hscalar : IsScalar n := .inl (by omega)
  have hmem {points : List Nat} (hpoints : points ∈ Unicode.caseClasses) :
      n ∈ points ↔ 0x41 + i ∈ points := by
    rcases hn with rfl | rfl
    · rfl
    · exact (Unicode.upper_mem_caseClass_iff hpoints hi).symm
  rw [contains_foldCase_iff hscalar]
  constructor
  · intro h
    rcases h with h | ⟨points, hpoints, hany, hn⟩
    · obtain ⟨points, hpoints, hletter⟩ := Unicode.caseClasses_of_letters.2 i hi
      exact ⟨points, hpoints, ⟨n, (hmem hpoints).mpr hletter, h⟩, hletter⟩
    · exact ⟨points, hpoints, hany, (hmem hpoints).mp hn⟩
  · intro h
    obtain ⟨points, hpoints, hany, hletter⟩ := h
    exact .inr ⟨points, hpoints, hany, (hmem hpoints).mpr hletter⟩

theorem ignoresCase_foldCase (s : CharSet) : s.foldCase.IgnoresCase := fun _ hi =>
  (contains_foldCase_letter hi (.inl rfl)).trans (contains_foldCase_letter hi (.inr rfl)).symm

/-- The part of a set that lies in a stretch of 26 characters, moved to where another one begins. -/
def shifted (s : CharSet) (first other : Nat) : CharSet :=
  ⟨(s ∩ range first (first + 25)).ranges.map fun (a, b) => (a - first + other, b - first + other)⟩

theorem foldCaseAscii_eq (s : CharSet) :
    s.foldCaseAscii = s ∪ s.shifted 0x41 0x61 ∪ s.shifted 0x61 0x41 :=
  rfl

theorem contains_shifted_iff {first other : Nat} (hfirst : first < 0x80) (hn : n < 0x80) :
    (s.shifted first other).contains n = true ↔
      other ≤ n ∧ n < other + 26 ∧ s.contains (first + (n - other)) = true := by
  have hinter {m : Nat} (hm : m < 0xD800) :
      (s ∩ range first (first + 25)).contains m = true ↔
        s.contains m = true ∧ first ≤ m ∧ m ≤ first + 25 := by
    rw [contains_inter_iff (.inl hm) (by unfold maxPoint; omega), contains_iff (s := range _ _)]
    simp [range]
  rw [contains_iff, shifted]
  constructor
  · intro h
    obtain ⟨_, hmoved, hle⟩ := h
    obtain ⟨⟨a, b⟩, hr, rfl⟩ := List.mem_map.mp hmoved
    have hab : a ≤ b := le_of_mem_inter hr
    dsimp only at hle
    have hstart := (hinter (by omega)).mp (contains_iff.mpr ⟨(a, b), hr, Nat.le_refl a, hab⟩)
    have hmem := (hinter (m := first + (n - other)) (by omega)).mp
      (contains_iff.mpr ⟨(a, b), hr, by dsimp only; omega, by dsimp only; omega⟩)
    exact ⟨by omega, by omega, hmem.1⟩
  · intro h
    obtain ⟨hother, hlast, hs⟩ := h
    obtain ⟨⟨a, b⟩, hr, hle⟩ := contains_iff.mp
      ((hinter (m := first + (n - other)) (by omega)).mpr ⟨hs, by omega, by omega⟩)
    dsimp only at hle
    exact ⟨_, List.mem_map_of_mem hr, by dsimp only; omega, by dsimp only; omega⟩

theorem ignoresCase_foldCaseAscii (s : CharSet) : s.foldCaseAscii.IgnoresCase := by
  intro i hi
  obtain ⟨hupper, hlower⟩ := isScalar_letter hi
  rw [foldCaseAscii_eq, contains_union_iff hupper, contains_union_iff hupper,
    contains_union_iff hlower, contains_union_iff hlower]
  rw [contains_shifted_iff (by omega) (by omega), contains_shifted_iff (by omega) (by omega),
    contains_shifted_iff (by omega) (by omega), contains_shifted_iff (by omega) (by omega)]
  simp only [Nat.add_sub_cancel_left]
  have hapart : ¬ 0x61 ≤ 0x41 + i ∧ ¬ 0x61 + i < 0x41 + 26 := by omega
  have hwithin : 0x41 + i < 0x41 + 26 ∧ 0x61 + i < 0x61 + 26 := by omega
  simp only [hapart, hwithin, Nat.le_add_right, false_and, true_and, and_false, or_false]
  exact or_comm

end Folding

section Classes

open Unicode.GeneralCategory (letterCases contains_set_letter)

private theorem mem_letterCases : (0x41, "Lu") ∈ letterCases ∧ (0x61, "Ll") ∈ letterCases := by
  decide

theorem ignoresCase_set {codes : List String} (h : "Lu" ∈ codes ↔ "Ll" ∈ codes) :
    (Unicode.GeneralCategory.set codes).IgnoresCase := by
  intro i hi
  rw [contains_set_letter mem_letterCases.1 hi, contains_set_letter mem_letterCases.2 hi, h]

theorem ignoresCase_decimalNumber : Unicode.decimalNumber.IgnoresCase := ignoresCase_set (by decide)

/-- Letters are alphabetic, so the rest of the set does not matter. -/
theorem ignoresCase_word : Unicode.word.IgnoresCase := by
  intro i hi
  obtain ⟨hupper, hlower⟩ := isScalar_letter hi
  have hletters : Unicode.alphabetic.contains (0x41 + i) = true ∧
      Unicode.alphabetic.contains (0x61 + i) = true := by
    rw [Unicode.alphabetic, contains_union_iff hupper, contains_union_iff hlower,
      contains_set_letter mem_letterCases.1 hi, contains_set_letter mem_letterCases.2 hi]
    exact ⟨.inr (by decide), .inr (by decide)⟩
  rw [Unicode.word, contains_union_iff hupper, contains_union_iff hupper,
    contains_union_iff hlower, contains_union_iff hlower]
  exact iff_of_true (.inl (.inr hletters.1)) (.inl (.inr hletters.2))

theorem ignoresCase_whiteSpace : Unicode.whiteSpace.IgnoresCase := by decide +kernel

end Classes
end CharSet
end SecureChannel
