import Mathlib.Data.List.SplitBy
import SecureChannel.Proofs.Unicode.CharSet
import SecureChannel.Unicode.CaseFolding
import SecureChannel.Unicode.Property

/-! What the tables of code points say about the letters of ASCII. -/
namespace SecureChannel.Unicode

section Runs

variable {width start : Nat} {groups more : List (List Char)}

/-- Where the runs of some groups end. -/
def endOf (width start : Nat) (groups : List (List Char)) : Nat :=
  groups.foldl (fun n group => n + hexNumber (group.drop width)) start

theorem place_append : place width start (groups ++ more) =
    place width start groups ++ place width (endOf width start groups) more := by
  induction groups generalizing start with
  | nil => rfl
  | cons group groups ih => simp only [List.cons_append, place, ih, endOf, List.foldl_cons]

theorem le_first_of_mem_place {r : Run} (h : r ∈ place width start groups) : start ≤ r.first := by
  induction groups generalizing start with
  | nil => nomatch h
  | cons group groups ih =>
    rcases List.mem_cons.mp h with rfl | h
    · exact Nat.le_refl _
    · exact (Nat.le_add_right ..).trans (ih h)

/-- The groups of characters that make the runs of a text. -/
def groupsOf (text : String) : List (List Char) := text.toList.splitBy fun _ c => !c.isUpper

/-- A text that begins like another one, up to a code, has the same runs and then later ones. -/
theorem exists_runs_eq_append (width : Nat) {text front : String} {c : Char} {rest : List Char}
    (htext : text.toList = front.toList ++ c :: rest) (hc : c.isUpper = true) :
    ∃ later, runs width text = runs width front ++ later ∧
      ∀ r : Run, r ∈ later → endOf width 0 (groupsOf front) ≤ r.first := by
  have hgroups := List.splitBy_append_cons (r := fun _ c : Char => !c.isUpper) (l := front.toList)
    (a := c) rest (by simp [hc])
  refine ⟨place width (endOf width 0 (groupsOf front)) ((c :: rest).splitBy fun _ c => !c.isUpper),
    ?_, fun r => le_first_of_mem_place⟩
  rw [runs, htext, hgroups, place_append]
  rfl

end Runs

namespace GeneralCategory

/-- The table up to the letters of ASCII. -/
def asciiText : String :=
  "Cc20Zs1Po3Sc1Po3Ps1Pe1Po1Sm1Po1Pd1Po2NdaPo2Sm3Po2Lu1aPs1Po1Pe1Sk1Pc1Sk1Ll1a"

theorem asciiText_prefix : asciiText.toList ++ "Ps".toList <+: text.toList := by
  unfold text asciiText
  simp only [String.toList_append, -String.reduceAppend, -String.reduceToList]
  repeat refine List.IsPrefix.trans ?_ (List.prefix_append ..)
  repeat rewrite [String.toList_ofList]
  decide +kernel

theorem exists_table_eq_append :
    ∃ later, table = runs 2 asciiText ++ later ∧ ∀ r : Run, r ∈ later → 0x7B ≤ r.first := by
  obtain ⟨rest, hrest⟩ := asciiText_prefix
  have htext : text.toList = asciiText.toList ++ 'P' :: 's' :: rest := by simp [← hrest]
  obtain ⟨later, htable, hlater⟩ := exists_runs_eq_append 2 htext rfl
  have hend : endOf 2 0 (groupsOf asciiText) = 0x7B := by
    unfold groupsOf asciiText
    rewrite [String.toList_ofList]
    decide +kernel
  exact ⟨later, htable, hend ▸ hlater⟩

variable {codes : List String} {n i : Nat}

theorem contains_set_iff (hn : CharSet.IsScalar n) :
    (set codes).contains n = true ↔ ∃ r ∈ table, r.code ∈ codes ∧ r.first ≤ n ∧ n ≤ r.last := by
  rw [set, select, CharSet.contains_ofRanges_iff hn]
  simp only [CharSet.Covers, List.mem_map, List.mem_filter, List.contains_iff_mem,
    exists_exists_and_eq_and]
  simp only [and_assoc]

/-- The first letter of each case with the category of its letters. -/
def letterCases : List (Nat × String) := [(0x41, "Lu"), (0x61, "Ll")]

/-- The letters of each case have a run of their own. -/
theorem asciiText_runs : ∀ letters ∈ letterCases, letters.1 ≤ 0x61 ∧
    (∀ r ∈ runs 2 asciiText,
      r.last < letters.1 ∨ letters.1 + 25 < r.first ∨ r.code = letters.2) ∧
    ∃ r ∈ runs 2 asciiText,
      r.code = letters.2 ∧ r.first = letters.1 ∧ r.last = letters.1 + 25 := by
  unfold runs asciiText
  rewrite [String.toList_ofList]
  decide +kernel

/-- A union of categories holds a letter exactly if it has the category of its case. -/
theorem contains_set_letter {first : Nat} {code : String} (h : (first, code) ∈ letterCases)
    (hi : i < 26) : (set codes).contains (first + i) = true ↔ code ∈ codes := by
  obtain ⟨later, htable, hlater⟩ := exists_table_eq_append
  obtain ⟨hfirst, hruns, s, hs, hcode, hbounds⟩ := asciiText_runs _ h
  rw [contains_set_iff (by unfold CharSet.IsScalar; omega), htable]
  constructor
  · intro hrun
    obtain ⟨r, hr, hmem, hle⟩ := hrun
    rcases List.mem_append.mp hr with hr | hr
    · have hsame : r.code = code := (hruns r hr).resolve_left (by omega) |>.resolve_left (by omega)
      rwa [hsame] at hmem
    · have hstart := hlater r hr
      omega
  · intro hmem
    exact ⟨s, List.mem_append_left _ hs, by rwa [hcode], by omega, by omega⟩

end GeneralCategory

section CaseClasses

variable {i : Nat}

/-- The classes that begin within ASCII are those of its letters. -/
theorem caseClasses_of_letters :
    (∀ points ∈ caseClasses, (∀ n ∈ points, 0x7A < n) ∨
        ∀ i < 26, 0x41 + i ∈ points ↔ 0x61 + i ∈ points) ∧
      ∀ i < 26, ∃ points ∈ caseClasses, 0x41 + i ∈ points := by
  unfold caseClasses pairText classText rows
  simp only [String.toList_append, -String.reduceAppend, -String.reduceToList]
  repeat rewrite [String.toList_ofList]
  decide +kernel

/-- A class has both cases of a letter or neither. -/
theorem upper_mem_caseClass_iff {points : List Nat} (h : points ∈ caseClasses) (hi : i < 26) :
    0x41 + i ∈ points ↔ 0x61 + i ∈ points := by
  rcases caseClasses_of_letters.1 points h with hlater | hletters
  · have hupper : 0x41 + i ∉ points := fun hmem => by
      have := hlater _ hmem
      omega
    have hlower : 0x61 + i ∉ points := fun hmem => by
      have := hlater _ hmem
      omega
    exact iff_of_false hupper hlower
  · exact hletters i hi

end CaseClasses
end SecureChannel.Unicode
