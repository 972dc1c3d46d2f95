import Mathlib.Algebra.GroupWithZero.Nat
import SecureChannel.Text.Split

/-! Parts of a sequence between separators, and the sequence that is put together from them. -/
namespace SecureChannel

variable {α : Type} {s x : α} {xs : List α} {parts : List (List α)}

theorem mem_intercalate (hx : x ≠ s) :
    x ∈ [s].intercalate parts ↔ ∃ part ∈ parts, x ∈ part := by
  induction parts with
  | nil => simp
  | cons part more ih =>
    by_cases hmore : more = []
    · simp [hmore]
    · rw [List.intercalate_cons_of_ne_nil hmore]
      simp [hx, ih]

/-- A test that holds of the front, and not of what comes first behind it, parts the two. -/
theorem takeWhile_dropWhile_append {test : α → Bool} {front rest : List α}
    (hfront : ∀ x ∈ front, test x = true) (hrest : ∀ x ∈ rest.head?, test x = false) :
    (front ++ rest).takeWhile test = front ∧ (front ++ rest).dropWhile test = rest := by
  rw [List.takeWhile_append_of_pos hfront, List.dropWhile_append_of_pos hfront]
  cases rest with
  | nil => simp
  | cons x rest =>
    have hx : test x = false := hrest x (by simp)
    simp [hx]

variable [DecidableEq α]

theorem length_splitOn (s : α) (xs : List α) : (xs.splitOn s).length = xs.count s + 1 := by
  induction xs with
  | nil => rfl
  | cons x rest ih =>
    rw [List.splitOn_cons_eq_if_modifyHead]
    by_cases hx : x = s
    · subst hx
      rw [if_pos (by simp), List.length_cons, ih, List.count_cons_self]
    · rw [if_neg (by simpa using hx), List.length_modifyHead, ih, List.count_cons_of_ne hx]

/-- All but the separators is in the parts. -/
theorem sum_length_splitOn (s : α) (xs : List α) :
    ((xs.splitOn s).map List.length).sum + xs.count s = xs.length := by
  induction xs with
  | nil => rfl
  | cons x rest ih =>
    rw [List.splitOn_cons_eq_if_modifyHead]
    by_cases hx : x = s
    · subst hx
      rw [if_pos (by simp), List.map_cons, List.sum_cons, List.length_nil, List.count_cons_self,
        List.length_cons]
      omega
    · obtain ⟨part, more, hrest⟩ := List.exists_cons_of_ne_nil (List.splitOn_ne_nil s rest)
      rw [hrest, List.map_cons, List.sum_cons] at ih
      rw [if_neg (by simpa using hx), hrest, List.modifyHead_cons, List.map_cons, List.sum_cons,
        List.length_cons, List.count_cons_of_ne hx, List.length_cons]
      omega

theorem not_mem_of_mem_splitOn {part : List α} (h : part ∈ xs.splitOn s) : s ∉ part := by
  induction xs generalizing part with
  | nil =>
    obtain rfl : part = [] := by simpa using h
    exact List.not_mem_nil
  | cons x rest ih =>
    rw [List.splitOn_cons_eq_if_modifyHead] at h
    by_cases hx : x = s
    · rw [if_pos (by simpa using hx)] at h
      rcases List.mem_cons.mp h with rfl | hmem
      · exact List.not_mem_nil
      · exact ih hmem
    · obtain ⟨first, more, hrest⟩ := List.exists_cons_of_ne_nil (List.splitOn_ne_nil s rest)
      rw [if_neg (by simpa using hx), hrest, List.modifyHead_cons] at h
      rw [hrest] at ih
      rcases List.mem_cons.mp h with rfl | hmem
      · have hfirst : s ∉ first := ih List.mem_cons_self
        simpa [Ne.symm hx] using hfirst
      · exact ih (List.mem_cons_of_mem _ hmem)

/-- What is no separator stands in some part. -/
theorem mem_splitOn (hx : x ≠ s) : (∃ part ∈ xs.splitOn s, x ∈ part) ↔ x ∈ xs := by
  rw [← mem_intercalate hx, List.intercalate_splitOn]

/-- Nothing stands between separators. -/
theorem eq_nil_of_mem_splitOn_replicate {n : Nat} {part : List α}
    (h : part ∈ (List.replicate n s).splitOn s) : part = [] := by
  apply List.eq_nil_iff_forall_not_mem.mpr
  intro x hx
  by_cases hxs : x = s
  · exact not_mem_of_mem_splitOn h (hxs ▸ hx)
  · have hmem := (mem_splitOn hxs).mp ⟨part, h, hx⟩
    exact hxs (List.eq_of_mem_replicate hmem)

/-- Where its first member does not stand, a part cannot be found. -/
theorem cut?_append_of_not_mem {prior : List α} (hs : s ∉ prior) (more rest : List α) :
    cut? (s :: more) (prior ++ rest) =
      (cut? (s :: more) rest).map fun (before, after) => (prior ++ before, after) := by
  induction prior with
  | nil => simp
  | cons x prior ih =>
    obtain ⟨hx, hprior⟩ : s ≠ x ∧ s ∉ prior := by simpa using hs
    rw [List.cons_append, cut?, if_neg (by simp [List.isPrefixOf, hx]), ih hprior, Option.map_map]
    rfl

theorem cut?_self_append (part rest : List α) : cut? part (part ++ rest) = some ([], rest) := by
  cases hxs : part ++ rest with
  | nil =>
    obtain ⟨rfl, rfl⟩ := List.append_eq_nil_iff.mp hxs
    rfl
  | cons x more =>
    have hprefix : part.isPrefixOf (x :: more) = true := by
      rw [← hxs]
      simp
    rw [cut?, if_pos hprefix, ← hxs, List.drop_left]

theorem eq_append_of_cut? {part before after : List α} (h : cut? part xs = some (before, after)) :
    xs = before ++ part ++ after := by
  induction xs generalizing before with
  | nil =>
    unfold cut? at h
    split at h
    · rename_i hpart
      obtain ⟨rfl, rfl⟩ : [] = before ∧ [] = after := by simpa using h
      simpa using hpart
    · cases h
  | cons x rest ih =>
    unfold cut? at h
    split at h
    · rename_i hprefix
      obtain ⟨after', hafter⟩ := List.isPrefixOf_iff_prefix.mp hprefix
      obtain ⟨rfl, rfl⟩ : [] = before ∧ (x :: rest).drop part.length = after := by simpa using h
      rw [← hafter, List.drop_left, List.nil_append]
    · obtain ⟨⟨before', after'⟩, hrest, heq⟩ := Option.map_eq_some_iff.mp h
      obtain ⟨rfl, rfl⟩ : x :: before' = before ∧ after' = after := by simpa using heq
      rw [ih hrest]
      rfl

/-- Parts that are put together with single separators leave a double one to what follows. -/
theorem cut?_double_intercalate (hs : ∀ part ∈ parts, s ∉ part) (hne : ∀ part ∈ parts, part ≠ [])
    (rest : List α) :
    cut? [s, s] ([s].intercalate parts ++ rest) =
      (cut? [s, s] rest).map fun (before, after) => ([s].intercalate parts ++ before, after) := by
  induction parts with
  | nil => simp
  | cons part more ih =>
    have hpart := hs part List.mem_cons_self
    cases more with
    | nil => simpa using cut?_append_of_not_mem hpart [s] rest
    | cons next others =>
      obtain ⟨y, next, rfl⟩ := List.exists_cons_of_ne_nil (hne next (by simp))
      have hy : s ≠ y := by
        have := hs (y :: next) (by simp)
        exact fun h => this (by simp [h])
      have hmore := ih (fun p hp => hs p (List.mem_cons_of_mem _ hp))
        fun p hp => hne p (List.mem_cons_of_mem _ hp)
      -- A single separator goes before the rest, which begins with something else.
      rw [List.intercalate_cons_cons, List.append_assoc, List.append_assoc,
        cut?_append_of_not_mem hpart [s], List.singleton_append, cut?,
        if_neg (by simp [List.isPrefixOf, hy, List.intercalate_cons_cons_left]), hmore,
        Option.map_map, Option.map_map]
      congr 1
      funext found
      simp

end SecureChannel
