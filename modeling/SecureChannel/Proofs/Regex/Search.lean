import Mathlib.Data.List.Basic
import SecureChannel.Regex.Derivative

/-! The search by derivatives finds a match exactly if there is one. Repetitions must have bounds that
can be met. -/
namespace SecureChannel.Regex

/-- No repetition asks for more turns than it allows. -/
def Ordered : Regex → Prop
  | .seq r s | .alt r s => r.Ordered ∧ s.Ordered
  | .times r min max => r.Ordered ∧ ∀ m ∈ max, min ≤ m
  | _ => True

/-- So many matches, one after the other. -/
inductive Turns (r : Regex) : Nat → List Char → List Char → List Char → Prop
  | none {before after} : Turns r 0 before [] after
  | more {n before u v after} (hr : Matches r before u (v ++ after))
      (hs : Turns r n (before ++ u) v after) : Turns r (n + 1) before (u ++ v) after

section Matches

variable {r s : Regex} {before text after : List Char} {c : Char}

@[simp] theorem matches_empty_iff : Matches .empty before text after ↔ text = [] :=
  ⟨fun h => by cases h; rfl, fun h => h ▸ .empty⟩

@[simp] theorem matches_assertion_iff {a : Assertion} :
    Matches (.assertion a) before text after ↔
      text = [] ∧ a.holds before.getLast? after.head? = true := by
  constructor
  · intro h
    cases h with
    | assertion h => exact ⟨rfl, h⟩
  · intro h
    obtain ⟨rfl, h⟩ := h
    exact .assertion h

@[simp] theorem matches_chars_iff {set : CharSet} :
    Matches (.chars set) before text after ↔ ∃ c ∈ set, text = [c] := by
  constructor
  · intro h
    cases h with
    | chars h => exact ⟨_, h, rfl⟩
  · intro h
    obtain ⟨c, h, rfl⟩ := h
    exact .chars h

theorem matches_seq_iff :
    Matches (.seq r s) before text after ↔
      ∃ u v, text = u ++ v ∧ Matches r before u (v ++ after) ∧ Matches s (before ++ u) v after := by
  constructor
  · intro h
    cases h with
    | seq hr hs => exact ⟨_, _, rfl, hr, hs⟩
  · intro h
    obtain ⟨u, v, rfl, hr, hs⟩ := h
    exact .seq hr hs

@[simp] theorem matches_alt_iff :
    Matches (.alt r s) before text after ↔ Matches r before text after ∨ Matches s before text after := by
  constructor
  · intro h
    cases h with
    | altLeft h => exact .inl h
    | altRight h => exact .inr h
  · intro h
    rcases h with h | h
    · exact .altLeft h
    · exact .altRight h

/-- A repetition is a number of turns within its bounds. -/
theorem matches_times_iff {min : Nat} {max : Option Nat} :
    Matches (.times r min max) before text after ↔
      ∃ n, min ≤ n ∧ (∀ m ∈ max, n ≤ m) ∧ Turns r n before text after := by
  constructor
  · intro h
    generalize hs : Regex.times r min max = s at h
    induction h generalizing min max with
    | timesNone =>
      cases hs
      exact ⟨0, Nat.le_refl _, fun _ _ => Nat.zero_le _, .none⟩
    | timesMore hmax hr _ _ ih =>
      cases hs
      obtain ⟨n, hmin, hle, hturns⟩ := ih rfl
      refine ⟨n + 1, by omega, fun m hm => ?_, .more hr hturns⟩
      have hpos : m ≠ 0 := fun h0 => hmax (by rw [Option.mem_def.mp hm, h0])
      have := hle (m - 1) (by simp [Option.mem_def.mp hm])
      omega
    | _ => cases hs
  · intro hturns
    obtain ⟨n, hmin, hle, hturns⟩ := hturns
    induction hturns generalizing min max with
    | none =>
      obtain rfl : min = 0 := by omega
      exact .timesNone
    | more hr _ ih =>
      refine .timesMore ?_ hr (ih (by omega) ?_)
      · rintro rfl
        have := hle 0 rfl
        omega
      · intro m hm
        obtain ⟨k, hk, rfl⟩ := Option.map_eq_some_iff.mp hm
        have := hle k hk
        omega

theorem turns_nil_iff {n : Nat} :
    Turns r n before [] after ↔ n = 0 ∨ Matches r before [] after := by
  constructor
  · intro h
    generalize htext : ([] : List Char) = text at h
    cases h with
    | none => exact .inl rfl
    | more hr hs =>
      obtain ⟨rfl, rfl⟩ := List.nil_eq_append_iff.mp htext
      exact .inr hr
  · intro hcases
    rcases hcases with rfl | h
    · exact .none
    · induction n with
      | zero => exact .none
      | succ n ih => exact .more (u := []) (v := []) h (by simpa using ih)

end Matches

section Derivatives

variable {r s : Regex} {before text after : List Char} {c : Char}

theorem nullable_iff (h : r.Ordered) (before after : List Char) :
    nullable before.getLast? after.head? r = true ↔ Matches r before [] after := by
  induction r with
  | empty => simp [nullable]
  | assertion a => simp [nullable]
  | chars set => simp [nullable]
  | seq r s ihr ihs =>
    rw [matches_seq_iff, nullable, Bool.and_eq_true, ihr h.1, ihs h.2]
    constructor
    · intro hboth
      obtain ⟨hr, hs⟩ := hboth
      exact ⟨[], [], rfl, hr, by simpa using hs⟩
    · intro hsplit
      obtain ⟨u, v, huv, hr, hs⟩ := hsplit
      obtain ⟨rfl, rfl⟩ := List.nil_eq_append_iff.mp huv
      exact ⟨hr, by simpa using hs⟩
  | alt r s ihr ihs => simp [nullable, ihr h.1, ihs h.2]
  | times r min max ih =>
    rw [matches_times_iff, nullable, Bool.or_eq_true, ih h.1, beq_iff_eq]
    simp only [turns_nil_iff]
    constructor
    · intro hcases
      rcases hcases with rfl | hr
      · exact ⟨0, Nat.le_refl _, fun _ _ => Nat.zero_le _, .inl rfl⟩
      · exact ⟨min, Nat.le_refl _, h.2, .inr hr⟩
    · intro hturns
      obtain ⟨n, hmin, -, rfl | hr⟩ := hturns
      · exact .inl (by omega)
      · exact .inr hr

@[simp] theorem matches_andThen_iff :
    Matches (andThen r s) before text after ↔ Matches (.seq r s) before text after := by
  fun_induction andThen r s generalizing before text with
  | case1 s => simp [matches_seq_iff]
  | case2 s r t ih =>
    rw [matches_seq_iff, matches_seq_iff]
    constructor
    · intro hsplit
      obtain ⟨u, w, rfl, hr, h⟩ := hsplit
      obtain ⟨v, w, rfl, ht, hs⟩ := matches_seq_iff.mp (ih.mp h)
      exact ⟨u ++ v, w, by simp, .seq (by simpa using hr) ht, by simpa using hs⟩
    · intro hsplit
      obtain ⟨u, w, rfl, h, hs⟩ := hsplit
      obtain ⟨u, v, rfl, hr, ht⟩ := matches_seq_iff.mp h
      exact ⟨u, v ++ w, by simp, by simpa using hr, ih.mpr (.seq ht (by simpa using hs))⟩
  | case3 r s => rfl

theorem Ordered.andThen (hr : r.Ordered) (hs : s.Ordered) : (andThen r s).Ordered := by
  fun_induction Regex.andThen r s with
  | case1 s => exact hs
  | case2 s r t ih => exact ⟨hr.1, ih hr.2 hs⟩
  | case3 r s => exact ⟨hr, hs⟩

theorem mem_derivatives_seq {b : Option Char} {d : Regex} :
    d ∈ derivatives b c (.seq r s) ↔ (∃ e ∈ derivatives b c r, andThen e s = d) ∨
      nullable b (some c) r = true ∧ d ∈ derivatives b c s := by
  simp only [derivatives]
  split <;> simp_all

theorem Ordered.derivatives {d : Regex} {b : Option Char} (h : r.Ordered)
    (hd : d ∈ derivatives b c r) : d.Ordered := by
  induction r generalizing d with
  | empty => simp [Regex.derivatives] at hd
  | assertion a => simp [Regex.derivatives] at hd
  | chars set =>
    obtain rfl : d = .empty := by
      simp only [Regex.derivatives] at hd
      split at hd <;> simp_all
    trivial
  | seq r s ihr ihs =>
    obtain ⟨e, he, rfl⟩ | ⟨-, hd⟩ := mem_derivatives_seq.mp hd
    · exact (ihr h.1 he).andThen h.2
    · exact ihs h.2 hd
  | alt r s ihr ihs =>
    rcases List.mem_append.mp hd with hd | hd
    · exact ihr h.1 hd
    · exact ihs h.2 hd
  | times r min max ih =>
    simp only [Regex.derivatives] at hd
    split at hd
    · simp at hd
    · obtain ⟨e, he, rfl⟩ := List.mem_map.mp hd
      refine (ih h.1 he).andThen ⟨h.1, fun m hm => ?_⟩
      obtain ⟨k, hk, rfl⟩ := Option.map_eq_some_iff.mp hm
      have := h.2 k hk
      split <;> omega

/-- A match that takes a character goes on as a match of a derivative. -/
def Derives (r : Regex) : Prop :=
  ∀ before c text after, Matches r before (c :: text) after ↔
    ∃ d ∈ derivatives before.getLast? c r, Matches d (before ++ [c]) text after

/-- The first turn that takes a character comes after turns that take none. -/
theorem Derives.turns (h : r.Ordered) (hd : r.Derives) (n : Nat) (before : List Char) (c : Char)
    (text after : List Char) :
    Turns r n before (c :: text) after ↔
      ∃ d ∈ derivatives before.getLast? c r, ∃ k < n,
        (k + 1 = n ∨ nullable before.getLast? (some c) r = true) ∧
        ∃ u v, text = u ++ v ∧ Matches d (before ++ [c]) u (v ++ after) ∧
          Turns r k (before ++ [c] ++ u) v after := by
  have hnull (rest : List Char) :
      nullable before.getLast? (some c) r = true ↔ Matches r before [] (c :: rest) :=
    nullable_iff h before (c :: rest)
  constructor
  · intro hturns
    induction n with
    | zero => nomatch hturns
    | succ n ih =>
      generalize htext : c :: text = whole at hturns
      cases hturns with
      | @more _ _ u v _ hr hs =>
        rcases List.cons_eq_append_iff.mp htext with ⟨rfl, rfl⟩ | ⟨u, rfl, rfl⟩
        · obtain ⟨d, hmem, k, hk, -, hrest⟩ := ih (by simpa using hs)
          exact ⟨d, hmem, k, by omega, .inr ((hnull _).mpr hr), hrest⟩
        · obtain ⟨d, hmem, hmatch⟩ := (hd _ _ _ _).mp hr
          exact ⟨d, hmem, n, by omega, .inl rfl, u, v, rfl, hmatch, by simpa using hs⟩
  · intro hturns
    obtain ⟨d, hmem, k, hk, hempty, u, v, rfl, hmatch, hs⟩ := hturns
    have hfirst : Turns r (k + 1) before (c :: (u ++ v)) after := by
      rw [← List.cons_append]
      exact .more ((hd _ _ _ _).mpr ⟨d, hmem, hmatch⟩) (by simpa using hs)
    rcases hempty with rfl | hempty
    · exact hfirst
    · -- Turns that take nothing fill up the count.
      obtain ⟨j, rfl⟩ : ∃ j, n = j + (k + 1) := ⟨n - (k + 1), by omega⟩
      clear hk
      induction j with
      | zero => simpa using hfirst
      | succ j ih =>
        rw [Nat.add_right_comm]
        exact .more (u := []) ((hnull _).mp hempty) (by simpa using ih)

/-- The bounds of a derivative allow as many turns as are left once one more has been begun. -/
private theorem exists_turns_iff {min k : Nat} {max : Option Nat} {free : Prop} [Decidable free]
    (hmax : max ≠ some 0) (hle : ∀ m ∈ max, min ≤ m) :
    (∃ n, min ≤ n ∧ (∀ m ∈ max, n ≤ m) ∧ k < n ∧ (k + 1 = n ∨ free)) ↔
      (if free then 0 else min - 1) ≤ k ∧ ∀ m ∈ max.map (· - 1), k ≤ m := by
  have hpred : (∀ m ∈ max.map (· - 1), k ≤ m) ↔ ∀ m ∈ max, k + 1 ≤ m := by
    cases max with
    | none => simp
    | some m =>
      have hpos : m ≠ 0 := fun h0 => hmax (by rw [h0])
      simp only [Option.map_some, Option.mem_some, forall_eq']
      omega
  rw [hpred]
  constructor
  · intro hcount
    obtain ⟨n, hmin, hn, hk, hfree⟩ := hcount
    refine ⟨?_, fun m hm => Nat.le_trans hk (hn m hm)⟩
    split
    · omega
    · rcases hfree with rfl | hfree
      · omega
      · contradiction
  · intro hbounds
    obtain ⟨hmin, hk⟩ := hbounds
    by_cases hfree : free
    · refine ⟨Nat.max (k + 1) min, Nat.le_max_right .., fun m hm => ?_, Nat.le_max_left .., .inr hfree⟩
      exact Nat.max_le.mpr ⟨hk m hm, hle m hm⟩
    · rw [if_neg hfree] at hmin
      exact ⟨k + 1, by omega, hk, by omega, .inl rfl⟩

theorem Derives.chars (set : CharSet) : (Regex.chars set).Derives := by
  intro before c text after
  simp only [matches_chars_iff, derivatives]
  constructor
  · intro hchar
    obtain ⟨b, hb, heq⟩ := hchar
    obtain ⟨rfl, rfl⟩ := List.cons_eq_cons.mp heq
    exact ⟨.empty, by simp [hb], .empty⟩
  · intro hderived
    obtain ⟨d, hd, hmatch⟩ := hderived
    split at hd
    · obtain rfl := List.mem_singleton.mp hd
      obtain rfl := matches_empty_iff.mp hmatch
      exact ⟨c, ‹_›, rfl⟩
    · simp at hd

theorem Derives.seq (h : r.Ordered) (hr : r.Derives) (hs : s.Derives) : (Regex.seq r s).Derives := by
  intro before c text after
  have hnull (rest : List Char) :
      nullable before.getLast? (some c) r = true ↔ Matches r before [] (c :: rest) :=
    nullable_iff h before (c :: rest)
  rw [matches_seq_iff]
  constructor
  · intro hsplit
    obtain ⟨u, v, huv, hu, hv⟩ := hsplit
    rcases List.cons_eq_append_iff.mp huv with ⟨rfl, rfl⟩ | ⟨u, rfl, rfl⟩
    · obtain ⟨d, hd, hmatch⟩ := (hs _ _ _ _).mp (by simpa using hv)
      exact ⟨d, mem_derivatives_seq.mpr (.inr ⟨(hnull _).mpr hu, hd⟩), hmatch⟩
    · obtain ⟨e, he, hmatch⟩ := (hr _ _ _ _).mp hu
      refine ⟨_, mem_derivatives_seq.mpr (.inl ⟨e, he, rfl⟩), matches_andThen_iff.mpr ?_⟩
      exact .seq hmatch (by simpa using hv)
  · intro hderived
    obtain ⟨d, hd, hmatch⟩ := hderived
    rcases mem_derivatives_seq.mp hd with ⟨e, he, rfl⟩ | ⟨hempty, hd⟩
    · obtain ⟨u, v, rfl, hu, hv⟩ := matches_seq_iff.mp (matches_andThen_iff.mp hmatch)
      exact ⟨c :: u, v, rfl, (hr _ _ _ _).mpr ⟨e, he, hu⟩, by simpa using hv⟩
    · exact ⟨[], c :: text, rfl, (hnull _).mp hempty,
        by simpa using (hs _ _ _ _).mpr ⟨d, hd, hmatch⟩⟩

theorem Derives.times {min : Nat} {max : Option Nat} (h : (Regex.times r min max).Ordered)
    (hr : r.Derives) : (Regex.times r min max).Derives := by
  intro before c text after
  rw [matches_times_iff, derivatives]
  simp only [hr.turns h.1]
  split
  · next hmax =>
    simp only [List.not_mem_nil, false_and, exists_false, iff_false]
    intro hturns
    obtain ⟨n, -, hn, -, -, k, hk, -⟩ := hturns
    have := hn 0 hmax
    omega
  · next hmax =>
    simp only [List.mem_map, exists_exists_and_eq_and, matches_andThen_iff, matches_seq_iff,
      matches_times_iff]
    constructor
    · intro hturns
      obtain ⟨n, hmin, hn, d, hd, k, hk, hfree, u, v, rfl, hmatch, hturns⟩ := hturns
      obtain ⟨hleast, hmost⟩ := (exists_turns_iff hmax h.2).mp ⟨n, hmin, hn, hk, hfree⟩
      exact ⟨d, hd, u, v, rfl, hmatch, k, hleast, hmost, hturns⟩
    · intro hderived
      obtain ⟨d, hd, u, v, rfl, hmatch, k, hleast, hmost, hturns⟩ := hderived
      obtain ⟨n, hmin, hn, hk, hfree⟩ := (exists_turns_iff hmax h.2).mpr ⟨hleast, hmost⟩
      exact ⟨n, hmin, hn, d, hd, k, hk, hfree, u, v, rfl, hmatch, hturns⟩

theorem Ordered.derives (h : r.Ordered) : r.Derives := by
  induction r with
  | empty => simp [Derives, Regex.derivatives]
  | assertion a => simp [Derives, Regex.derivatives]
  | chars set => exact .chars set
  | seq r s ihr ihs => exact .seq h.1 (ihr h.1) (ihs h.2)
  | alt r s ihr ihs =>
    intro before c text after
    rw [matches_alt_iff, ihr h.1, ihs h.2]
    simp only [Regex.derivatives, List.mem_append, or_and_right, exists_or]
  | times r min max ih => exact .times h (ih h.1)

end Derivatives

section Searching

variable {r : Regex} {before text : List Char}

theorem mem_distinct (rs : List Regex) (d : Regex) : d ∈ distinct rs ↔ d ∈ rs := by
  unfold distinct
  split
  · exact List.mem_eraseDups
  · rw [Std.HashSet.mem_toList, Std.HashSet.mem_ofList, List.contains_iff_mem]

/-- Some expression of a list matches the beginning of a text. -/
def Begun (rs : List Regex) (before text : List Char) : Prop :=
  ∃ d ∈ rs, ∃ part rest, text = part ++ rest ∧ Matches d before part rest

/-- A match lies further on in a text. -/
def Ahead (r : Regex) (before text : List Char) : Prop :=
  ∃ skipped part rest, text = skipped ++ part ++ rest ∧ Matches r (before ++ skipped) part rest

theorem begun_nil_iff {rs : List Regex} (h : ∀ d ∈ rs, d.Ordered) :
    Begun rs before [] ↔ rs.any (nullable before.getLast? none) = true := by
  rw [List.any_eq_true]
  constructor
  · intro hbegun
    obtain ⟨d, hd, part, rest, htext, hmatch⟩ := hbegun
    obtain ⟨rfl, rfl⟩ := List.nil_eq_append_iff.mp htext
    exact ⟨d, hd, (nullable_iff (h d hd) before []).mpr hmatch⟩
  · intro hempty
    obtain ⟨d, hd, hempty⟩ := hempty
    exact ⟨d, hd, [], [], rfl, (nullable_iff (h d hd) before []).mp hempty⟩

theorem begun_cons_iff {rs : List Regex} {c : Char} (h : ∀ d ∈ rs, d.Ordered) :
    Begun rs before (c :: text) ↔ rs.any (nullable before.getLast? (some c)) = true ∨
      Begun (rs.flatMap (derivatives before.getLast? c)) (before ++ [c]) text := by
  rw [List.any_eq_true]
  constructor
  · intro hbegun
    obtain ⟨d, hd, part, rest, htext, hmatch⟩ := hbegun
    rcases List.cons_eq_append_iff.mp htext with ⟨rfl, rfl⟩ | ⟨part, rfl, rfl⟩
    · exact .inl ⟨d, hd, (nullable_iff (h d hd) before (c :: text)).mpr hmatch⟩
    · obtain ⟨e, he, hmatch⟩ := ((h d hd).derives _ _ _ _).mp hmatch
      exact .inr ⟨e, List.mem_flatMap.mpr ⟨d, hd, he⟩, part, rest, rfl, hmatch⟩
  · intro hcases
    rcases hcases with ⟨d, hd, hempty⟩ | ⟨e, he, part, rest, rfl, hmatch⟩
    · exact ⟨d, hd, [], c :: text, rfl, (nullable_iff (h d hd) before (c :: text)).mp hempty⟩
    · obtain ⟨d, hd, he⟩ := List.mem_flatMap.mp he
      exact ⟨d, hd, c :: part, rest, rfl, ((h d hd).derives _ _ _ _).mpr ⟨e, he, hmatch⟩⟩

theorem ahead_iff : Ahead r before text ↔
    Begun [r] before text ∨ ∃ c rest, text = c :: rest ∧ Ahead r (before ++ [c]) rest := by
  constructor
  · intro hahead
    obtain ⟨_ | ⟨c, skipped⟩, part, rest, rfl, hmatch⟩ := hahead
    · exact .inl ⟨r, List.mem_singleton_self r, part, rest, rfl, by simpa using hmatch⟩
    · exact .inr ⟨c, _, rfl, skipped, part, rest, rfl, by simpa using hmatch⟩
  · intro hcases
    rcases hcases with ⟨d, hd, part, rest, rfl, hmatch⟩ | ⟨c, _, rfl, skipped, part, rest, rfl, hmatch⟩
    · obtain rfl := List.mem_singleton.mp hd
      exact ⟨[], part, rest, rfl, by simpa using hmatch⟩
    · exact ⟨c :: skipped, part, rest, rfl, by simpa using hmatch⟩

theorem begun_append_iff {rs ss : List Regex} :
    Begun (rs ++ ss) before text ↔ Begun rs before text ∨ Begun ss before text := by
  simp only [Begun, List.mem_append, or_and_right, exists_or]

/-- The search keeps what is left of every match that has been begun. -/
theorem searchFrom_iff (h : r.Ordered) (begun : List Regex) (hbegun : ∀ d ∈ begun, d.Ordered)
    (before text : List Char) :
    searchFrom r before.getLast? begun text = true ↔
      Begun begun before text ∨ Ahead r before text := by
  induction text generalizing before begun with
  | nil =>
    have hall : ∀ d ∈ r :: begun, d.Ordered := List.forall_mem_cons.mpr ⟨h, hbegun⟩
    rw [searchFrom, ← begun_nil_iff hall, ← List.singleton_append, begun_append_iff, ahead_iff]
    simp [or_comm]
  | cons c text ih =>
    have hall : ∀ d ∈ r :: begun, d.Ordered := List.forall_mem_cons.mpr ⟨h, hbegun⟩
    have hnext : ∀ d ∈ distinct ((r :: begun).flatMap (derivatives before.getLast? c)),
        d.Ordered := by
      intro d hd
      obtain ⟨e, he, hd⟩ := List.mem_flatMap.mp ((mem_distinct _ d).mp hd)
      exact (hall e he).derivatives hd
    have hstep := ih _ hnext (before ++ [c])
    rw [List.getLast?_concat] at hstep
    have hdistinct : Begun (distinct ((r :: begun).flatMap (derivatives before.getLast? c)))
        (before ++ [c]) text ↔
        Begun ((r :: begun).flatMap (derivatives before.getLast? c)) (before ++ [c]) text := by
      simp only [Begun, mem_distinct]
    rw [searchFrom, Bool.or_eq_true, hstep, hdistinct, ← or_assoc, ← begun_cons_iff hall,
      ← List.singleton_append, begun_append_iff, @ahead_iff r before (c :: text)]
    simp only [List.cons.injEq, exists_and_left, exists_eq_left', and_assoc]
    tauto

/-- The search finds a match exactly if some part of the text is one in its place. -/
theorem occursIn_iff (h : r.Ordered) : r.occursIn text = true ↔ Occurs r text := by
  have hsearch := searchFrom_iff h [] (by simp) [] text
  rw [List.getLast?_nil] at hsearch
  rw [occursIn, hsearch]
  simp [Begun, Ahead, Occurs]

end Searching
end SecureChannel.Regex
