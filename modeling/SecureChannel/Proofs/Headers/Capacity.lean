import SecureChannel.Proofs.Headers.Calls
import SecureChannel.Proofs.Headers.Storage

/-! The room of a header table along a run of calls. A call comes down to changes of the arrays, one
after the other: the entries of a name are dropped, or one entry is stored. Only an entry that finds
the table full makes it grow, by half, so the room is bounded by the most entries there have been. -/
namespace SecureChannel

/-- What is done to the arrays of a table within a call. -/
inductive HeaderChange
  | drop (name : Bytes)
  | store (e : HeaderEntry)
deriving DecidableEq

/-- The effect of a change on the list of entries. -/
def HeaderChange.apply (l : List HeaderEntry) : HeaderChange → List HeaderEntry
  | .drop name => l.filter (·.name ≠ name)
  | .store e => l ++ [e]

/-- The changes that a call comes down to, in order. Nothing is stored for a refused field, but those
that it was to replace are dropped all the same, unless it is its name that is refused. -/
inductive HeaderCall.Makes : HeaderCall → List HeaderChange → Prop
  | added {name value entries} (lower : name.any Bytes.isUpper = false)
      (h : HeaderEntry.Written name value entries) : Makes (.add name value) (entries.map .store)
  | refused {name value e} (h : HeaderError.Refuses name value e) : Makes (.add name value) []
  | replaced {name value entries} (lower : name.any Bytes.isUpper = false)
      (h : HeaderEntry.Written name value entries) :
      Makes (.set name value) (.drop name :: entries.map .store)
  | misnamed {name value} (upper : name.any Bytes.isUpper = true) : Makes (.set name value) []
  | lost {name value e} (lower : name.any Bytes.isUpper = false)
      (h : HeaderError.Refuses name value e) : Makes (.set name value) [.drop name]
  | removed {name} : Makes (.remove name) [.drop name]

theorem HeaderCall.Makes.drops_first {c : HeaderCall} {changes : List HeaderChange}
    (h : c.Makes changes) : ∃ (names : List Bytes) (entries : List HeaderEntry),
      changes = names.map .drop ++ entries.map .store := by
  cases h with
  | added _ h => exact ⟨[], _, rfl⟩
  | @replaced name _ _ _ h => exact ⟨[name], _, rfl⟩
  | refused | misnamed => exact ⟨[], [], rfl⟩
  | @lost name | @removed name => exact ⟨[name], [], rfl⟩

namespace HeaderTable

def change (t : HeaderTable) : HeaderChange → HeaderTable
  | .drop name => t.remove name
  | .store e => t.push e.name e.value e.wire

def changeAll (t : HeaderTable) (changes : List HeaderChange) : HeaderTable := changes.foldl change t

/-- The room of a table after a change. -/
inductive Resizes (t : HeaderTable) : HeaderChange → Nat → Prop
  | dropped {name} : Resizes t (.drop name) t.capacity
  | fitted {e} (room : t.length < t.capacity) : Resizes t (.store e) t.capacity
  | grown {e} (full : t.length = t.capacity) :
      Resizes t (.store e) (max 2 (t.capacity + t.capacity / 2))

/-- The most entries that a table has along a run of calls, from its start on. -/
def peak (t : HeaderTable) : List HeaderCall → Nat
  | [] => t.length
  | c :: calls => max t.length ((t.call c).2.peak calls)

variable {t : HeaderTable} {l : List HeaderEntry} {d : HeaderChange} {n : Nat}
  {calls : List HeaderCall}

section Changes

theorem changeAll_store (t : HeaderTable) (entries : List HeaderEntry) :
    t.changeAll (entries.map .store) = t.storeAll entries := by
  rw [changeAll, List.foldl_map]
  rfl

theorem call_makes (t : HeaderTable) (c : HeaderCall) :
    ∃ changes, c.Makes changes ∧ (t.call c).2 = t.changeAll changes := by
  cases c with
  | add name value =>
    cases hadd : t.add name value with
    | error e =>
      refine ⟨[], .refused (add_eq_error_iff.mp hadd), ?_⟩
      simp only [call_add, hadd]
      rfl
    | ok u =>
      obtain ⟨lower, entries, hwritten, hu⟩ := add_eq_ok hadd
      refine ⟨_, .added lower hwritten, ?_⟩
      simp only [call_add, hadd]
      rw [changeAll_store, hu]
  | set name value =>
    cases hname : name.any Bytes.isUpper with
    | true =>
      refine ⟨[], .misnamed hname, ?_⟩
      simp only [HeaderTable.call, set_of_upper hname]
      rfl
    | false =>
      cases hadd : (t.remove name).add name value with
      | error e =>
        refine ⟨_, .lost hname (add_eq_error_iff.mp hadd), ?_⟩
        simp only [HeaderTable.call, set_of_lower hname, hadd]
        rfl
      | ok u =>
        obtain ⟨-, entries, hwritten, hu⟩ := add_eq_ok hadd
        refine ⟨_, .replaced hname hwritten, ?_⟩
        simp only [HeaderTable.call, set_of_lower hname, hadd]
        rw [hu, ← changeAll_store]
        rfl
  | remove name => exact ⟨_, .removed, rfl⟩

theorem Holds.change (h : t.Holds l) (d : HeaderChange) : (t.change d).Holds (d.apply l) := by
  cases d with
  | drop name => exact (h.erase name).2.1
  | store e => exact (h.push e).1

theorem Holds.changeAll (h : t.Holds l) (changes : List HeaderChange) :
    (t.changeAll changes).Holds (changes.foldl HeaderChange.apply l) := by
  induction changes generalizing t l with
  | nil => exact h
  | cons d changes ih => exact ih (h.change d)

theorem Holds.resizes (h : t.Holds l) (d : HeaderChange) : t.Resizes d (t.change d).capacity := by
  cases d with
  | drop name =>
    have hkept : (t.change (.drop name)).capacity = t.capacity := (h.erase name).2.2
    rw [hkept]
    exact .dropped
  | store e =>
    have hpush : (t.change (.store e)).capacity = t.capacityAfterPush := (h.push e).2
    have hlength := h.length
    have hle := h.length_le
    rw [hpush, capacityAfterPush]
    split
    · rename_i hfull
      rw [Nat.max_comm]
      exact .grown hfull
    · exact .fitted (by omega)

theorem Resizes.le (h : t.Resizes d n) : t.capacity ≤ n := by
  cases h with
  | dropped | fitted => exact Nat.le_refl _
  | grown => omega

theorem Holds.le_capacity_changeAll (h : t.Holds l) (changes : List HeaderChange) :
    t.capacity ≤ (t.changeAll changes).capacity := by
  induction changes generalizing t l with
  | nil => exact Nat.le_refl _
  | cons d changes ih => exact (h.resizes d).le.trans (ih (h.change d))

theorem Holds.capacity_dropAll (h : t.Holds l) (names : List Bytes) :
    (t.changeAll (names.map .drop)).capacity = t.capacity := by
  induction names generalizing t l with
  | nil => rfl
  | cons name names ih => exact (ih (h.change (.drop name))).trans (h.erase name).2.2

end Changes

section Calls

theorem Holds.le_capacity_call (h : t.Holds l) (c : HeaderCall) :
    t.capacity ≤ (t.call c).2.capacity := by
  obtain ⟨changes, -, hcall⟩ := t.call_makes c
  rw [hcall]
  exact h.le_capacity_changeAll changes

/-- What a call stores, it stores in the end, so the room that it makes is for the entries after it. -/
theorem Holds.capacity_call_le (h : t.Holds l) (c : HeaderCall) :
    (t.call c).2.capacity ≤ max t.capacity (3 * (t.call c).2.length / 2) := by
  obtain ⟨changes, hmakes, hcall⟩ := t.call_makes c
  obtain ⟨names, entries, rfl⟩ := hmakes.drops_first
  have hstored := ((h.changeAll (names.map .drop)).growsTo_storeAll entries).capacity
  rw [h.capacity_dropAll names, ← changeAll_store, HeaderTable.changeAll, HeaderTable.changeAll,
    ← List.foldl_append] at hstored
  rw [hcall]
  exact hstored

end Calls

section Runs

theorem peak_le_iff : t.peak calls ≤ n ↔ ∀ before, before <+: calls → (t.run before).length ≤ n := by
  induction calls generalizing t with
  | nil => simp [peak, run]
  | cons c calls ih =>
    rw [peak, Nat.max_le, ih]
    simp only [List.prefix_cons_iff, forall_eq_or_imp, forall_exists_index, and_imp]
    constructor
    · rintro ⟨hstart, hrest⟩
      refine ⟨hstart, ?_⟩
      rintro _ before rfl hbefore
      exact hrest before hbefore
    · rintro ⟨hstart, hrest⟩
      exact ⟨hstart, fun before hbefore => hrest _ before rfl hbefore⟩

theorem Holds.capacity_run_le (h : t.Holds l) (calls : List HeaderCall) :
    (t.run calls).capacity ≤ max t.capacity (3 * t.peak calls / 2) := by
  induction calls generalizing t l with
  | nil => exact Nat.le_max_left _ _
  | cons c calls ih =>
    obtain ⟨l', -, h'⟩ := h.call c
    have hcall := h.capacity_call_le c
    have hrun : (t.run (c :: calls)).capacity ≤
        max (t.call c).2.capacity (3 * (t.call c).2.peak calls / 2) := ih h'
    have hpeak : (t.call c).2.length ≤ (t.call c).2.peak calls :=
      peak_le_iff.mp (Nat.le_refl _) [] List.nil_prefix
    rw [peak]
    omega

theorem Holds.le_capacity_run (h : t.Holds l) (calls : List HeaderCall) :
    t.capacity ≤ (t.run calls).capacity := by
  induction calls generalizing t l with
  | nil => exact Nat.le_refl _
  | cons c calls ih =>
    obtain ⟨l', -, h'⟩ := h.call c
    exact (h.le_capacity_call c).trans (ih h')

theorem capacity_withCapacity (guess : Nat) : (withCapacity guess).capacity = max 1 guess := by
  simp [withCapacity, capacity, Nat.max_comm]

/-- Whatever the calls and their outcomes, the room of a table never shrinks. Within each call it
changes only where an entry is to be stored and there is no room left, and then the entry fits in at
once. So the room stays within three halves of the most entries so far, unless more was guessed. -/
theorem run_capacity_le_peak (guess : Nat) (calls : List HeaderCall) :
    let start := withCapacity guess
    let t := start.run calls
    t.capacity ≤ max (max 1 guess) (3 * start.peak calls / 2) ∧
    (∀ most, (∀ before, before <+: calls → (start.run before).length ≤ most) →
      t.capacity ≤ max (max 1 guess) (3 * most / 2)) ∧
    (∀ before, before <+: calls → (start.run before).capacity ≤ t.capacity) ∧
    ∀ c, ∃ changes, c.Makes changes ∧ (t.call c).2 = t.changeAll changes ∧
      ∀ done d rest, changes = done ++ d :: rest →
        (t.changeAll done).Resizes d ((t.changeAll done).change d).capacity ∧
        ∃ l, (t.changeAll done).Holds l ∧ ((t.changeAll done).change d).Holds (d.apply l) := by
  intro start t
  have hstart : start.Holds [] := holds_withCapacity guess
  have hbound : t.capacity ≤ max (max 1 guess) (3 * start.peak calls / 2) := by
    rw [← capacity_withCapacity]
    exact hstart.capacity_run_le calls
  refine ⟨hbound, ?_, ?_, ?_⟩
  · intro most hmost
    have hpeak : start.peak calls ≤ most := peak_le_iff.mpr hmost
    omega
  · rintro before ⟨rest, rfl⟩
    obtain ⟨l, h⟩ := hstart.run before
    have hrest := h.le_capacity_run rest
    rwa [run, run, ← List.foldl_append] at hrest
  · intro c
    obtain ⟨l, h⟩ := hstart.run calls
    obtain ⟨changes, hmakes, hcall⟩ := t.call_makes c
    refine ⟨changes, hmakes, hcall, ?_⟩
    intro done d rest _
    have hdone := h.changeAll done
    exact ⟨hdone.resizes d, _, hdone, hdone.change d⟩

/-- Three parts of one value make a table of one grow twice. Once they are dropped, three other entries
find room. -/
theorem run_capacity_le_peak_refilled :
    let bin : Bytes := [0x78, 0x2D, 0x62, 0x69, 0x6E]
    let calls := [HeaderCall.add bin [0x2C, 0x2C], .remove bin, .set bin [0x2C], .add [0x61] [0x31]]
    let t := (withCapacity 0).run calls
    (∀ before, before <+: calls → ((withCapacity 0).run before).length ≤ 3) ∧
      t.length = 3 ∧ t.capacity = 3 ∧ t.capacity ≤ max (max 1 0) (3 * 3 / 2) := by
  intro bin calls t
  have hmost : ∀ before, before <+: calls → ((withCapacity 0).run before).length ≤ 3 :=
    peak_le_iff.mp (by decide +kernel)
  obtain ⟨-, hbound, -⟩ := run_capacity_le_peak 0 calls
  exact ⟨hmost, by decide +kernel, by decide +kernel, hbound 3 hmost⟩

end Runs
end HeaderTable
end SecureChannel
