import Mathlib.Algebra.BigOperators.Group.Finset.Basic
import SecureChannel.Proofs.Headers.Routing

/-! What a view answers about its headers. Slots and table make one list of names with values, and
all questions are answered from this list, so no two answers contradict each other. -/
namespace SecureChannel

theorem Hoisted.headerName_injective : Function.Injective headerName := by
  intro j k h
  have hj := Side.hoisted?_headerName j
  rw [h, Side.hoisted?_headerName k] at hj
  exact (Option.some.inj hj).symm

namespace HeaderView

variable {side : Side} {v : HeaderView side} {l : List HeaderEntry}

/-- The headers of the view, slots first, given the entries of its table. -/
def fields (v : HeaderView side) (l : List HeaderEntry) : List (Bytes × Bytes) :=
  v.filled ++ l.map fun e => (e.name, e.value)

/-- A view that was made by calls: slots are for requests only. -/
structure Stands (v : HeaderView side) (l : List HeaderEntry) : Prop extends v.Holds l where
  slots : side = .response → v.slots = fun _ => none

theorem run_stands (guess : Nat) (calls : List HeaderCall) :
    ∃ l, ((withCapacity guess : HeaderView side).run calls).Stands l := by
  obtain ⟨l, h⟩ := (@holds_withCapacity side guess).run calls
  refine ⟨l, h, ?_⟩
  rintro rfl
  exact slots_run_of_tabled _ fun _ _ => Side.tabled_response

section Filtering

/-- A slot has the only field of its name. -/
theorem filled_filter_eq (v : HeaderView side) (k : Hoisted) :
    v.filled.filter (·.1 = k.headerName) = ((v.slots k).map (k.headerName, ·)).toList := by
  have hplace (j : Hoisted) :
      ((v.slots j).map fun value => (j.headerName, value)).filter (·.1 = k.headerName) =
        if j = k then (v.slots k).map (k.headerName, ·) else none := by
    split
    · rename_i h
      subst h
      cases v.slots j <;> simp
    · rename_i h
      have hname : j.headerName ≠ k.headerName := fun heq => h (Hoisted.headerName_injective heq)
      cases v.slots j <;> simp [hname]
  rw [filled, List.filter_filterMap]
  simp only [hplace]
  cases k <;> cases v.slots _ <;> simp [Hoisted.all]

theorem filled_filter_ne (v : HeaderView side) (k : Hoisted) :
    v.filled.filter (·.1 ≠ k.headerName) = (v.setSlot k none).filled := by
  rw [filled, filled, List.filter_filterMap]
  apply List.filterMap_congr
  intro j _
  by_cases h : j = k
  · subst h
    cases v.slots j <;> simp [setSlot]
  · have hname : j.headerName ≠ k.headerName := fun heq => h (Hoisted.headerName_injective heq)
    rw [slots_setSlot_of_ne v h]
    cases v.slots j <;> simp [hname]

/-- Fields of slots have the names of slots. -/
theorem Stands.ne_of_mem_filled (h : v.Stands l) {name : Bytes} (hname : side.hoisted? name = none)
    {field : Bytes × Bytes} (hfield : field ∈ v.filled) : field.1 ≠ name := by
  obtain ⟨k, -, hk⟩ := List.mem_filterMap.mp hfield
  obtain ⟨value, hvalue, rfl⟩ := Option.map_eq_some_iff.mp hk
  rintro rfl
  cases side with
  | request => simp [Side.hoisted?_headerName] at hname
  | response => simp [h.slots rfl] at hvalue

/-- No entry of the table has the name of a slot. -/
theorem Holds.ne_of_mem (h : v.Holds l) {name : Bytes} {k : Hoisted}
    (hname : side.hoisted? name = some k) {e : HeaderEntry} (he : e ∈ l) : e.name ≠ name := by
  rintro rfl
  have := (h.tabled e he).1
  simp [hname] at this

theorem Stands.filter_eq (h : v.Stands l) (name : Bytes) :
    ((v.fields l).filter (·.1 = name)).map (·.2) = v.getAll name := by
  rw [fields, List.filter_append, List.filter_map, List.map_append, List.map_map, getAll]
  cases hname : side.hoisted? name with
  | some k =>
    have hentries : l.filter ((fun field => decide (field.1 = name)) ∘
        fun e : HeaderEntry => (e.name, e.value)) = [] := by
      simpa using fun e he => h.ne_of_mem hname he
    rw [hentries, (Side.hoisted?_eq_some hname).2, filled_filter_eq]
    cases hk : v.slots k <;> simp [hk]
  | none =>
    have hfilled : v.filled.filter (fun field => decide (field.1 = name)) = [] := by
      simpa using fun field value hfield => h.ne_of_mem_filled hname hfield
    rw [hfilled]
    exact (h.table.getAll name).symm

theorem Stands.remove (h : v.Stands l) (name : Bytes) :
    (v.remove name).Stands (l.filter (·.name ≠ name)) ∧
      (v.remove name).fields (l.filter (·.name ≠ name)) =
        (v.fields l).filter (·.1 ≠ name) := by
  have hentries : (l.filter (·.name ≠ name)).map (fun e => (e.name, e.value)) =
      (l.map fun e => (e.name, e.value)).filter (·.1 ≠ name) := by
    rw [List.filter_map]
    rfl
  rw [fields, fields, List.filter_append, hentries]
  refine ⟨⟨h.toHolds.remove name, ?_⟩, ?_⟩
  · rintro rfl
    exact h.slots rfl
  · congr 1
    cases hname : side.hoisted? name with
    | some k =>
      obtain ⟨-, rfl⟩ := Side.hoisted?_eq_some hname
      rw [filled_filter_ne, HeaderView.remove, HeaderView.erase, hname]
    | none =>
      have hkeep : v.filled.filter (·.1 ≠ name) = v.filled :=
        List.filter_eq_self.mpr fun field hfield => by simpa using h.ne_of_mem_filled hname hfield
      rw [hkeep, HeaderView.remove, HeaderView.erase, hname]
      rfl

end Filtering

section Counting

theorem Stands.size_eq (h : v.Stands l) : v.size = (v.fields l).length := by
  rw [HeaderView.size_eq, fields, List.length_append, List.length_map, h.table.length]

/-- What is shown are the same headers, with their values as received. -/
theorem Stands.map_toList (h : v.Stands l) : v.toList.map (·.1) = (v.fields l).map (·.1) := by
  simp [toList, fields, h.table.toList]

theorem Stands.countP_eq (h : v.Stands l) (name : Bytes) :
    ((v.fields l).map (·.1)).countP (· = name) = (v.getAll name).length := by
  rw [← h.filter_eq, List.length_map, List.countP_map, List.countP_eq_length_filter]
  rfl

theorem Stands.mem_names_iff (h : v.Stands l) (name : Bytes) :
    name ∈ (v.fields l).map (·.1) ↔ v.getAll name ≠ [] := by
  rw [← List.length_pos_iff, ← h.countP_eq, List.countP_pos_iff]
  simp

theorem Stands.size_remove (h : v.Stands l) (name : Bytes) :
    (v.remove name).size + (v.getAll name).length = v.size := by
  obtain ⟨hrest, hfields⟩ := h.remove name
  rw [hrest.size_eq, hfields, h.size_eq, ← h.filter_eq, List.length_map, Nat.add_comm,
    (v.fields l).length_eq_length_filter_add (·.1 = name)]
  simp

end Counting

section Answers

/-- The slots answer like lists of at most one value. -/
theorem Holds.get?_eq_head? (h : v.Holds l) (name : Bytes) :
    v.get? name = (v.getAll name).head? := by
  rw [get?, getAll]
  cases side.hoisted? name with
  | some k => cases hk : v.slots k <;> simp [hk]
  | none => simp [h.table.get?, h.table.getAll, List.head?_map, List.head?_filter]

theorem Holds.contains_iff (h : v.Holds l) (name : Bytes) :
    v.contains name = true ↔ v.getAll name ≠ [] := by
  rw [contains, h.get?_eq_head?, List.isSome_head?]

theorem Holds.erase_eq (h : v.Holds l) (name : Bytes) :
    (v.erase name).1 = v.contains name := by
  rw [contains, get?, erase]
  cases side.hoisted? name with
  | some k => rfl
  | none =>
    rw [(h.table.erase name).1, h.table.get?, Option.isSome_map, Bool.eq_iff_iff]
    simp [List.find?_isSome]

theorem Stands.getAll_remove (h : v.Stands l) (name other : Bytes) :
    (v.remove name).getAll other = if other = name then [] else v.getAll other := by
  obtain ⟨hrest, hfields⟩ := h.remove name
  rw [← hrest.filter_eq, hfields, ← h.filter_eq, List.filter_filter]
  split
  · rename_i hname
    simp [hname]
  · rename_i hname
    congr 1
    apply List.filter_congr
    intro field _
    by_cases hfield : field.1 = other <;> simp [hfield, hname]

end Answers

/-- A header as it is shown. -/
def shownField (field : Bytes × Bytes) : String :=
  field.1.toStringLossy ++ ": " ++ field.2.toStringLossy

/-- All ways to ask for the headers of a view give the same picture. -/
structure Consistent (v : HeaderView side) : Prop where
  first : ∀ name, v.get? name = (v.getAll name).head?
  present : ∀ name, v.contains name = true ↔ v.getAll name ≠ []
  found : ∀ name, (v.erase name).1 = v.contains name
  /-- A removal takes all values of its name, and no others. -/
  removed : ∀ name other,
    (v.remove name).getAll other = if other = name then [] else v.getAll other
  dropped : ∀ name, (v.remove name).size + (v.getAll name).length = v.size
  /-- Every value of every name that is there counts, and counts once. -/
  counted : ∃ names : Finset Bytes, (∀ name, name ∈ names ↔ v.contains name = true) ∧
    v.size = ∑ name ∈ names, (v.getAll name).length
  /-- The filled slots and the entries of the table are shown, which are as many. -/
  shown : v.display = side.label ++ "[" ++
      ", ".intercalate ((v.filled ++ v.table.toList).map shownField) ++ "]" ∧
    (v.filled ++ v.table.toList).length = v.size ∧
    ∀ name, ((v.filled ++ v.table.toList).map (·.1)).countP (· = name) = (v.getAll name).length
  empty : v.isEmpty = true ↔ ∀ name, v.getAll name = []

theorem Stands.consistent (h : v.Stands l) : v.Consistent where
  first := h.get?_eq_head?
  present := h.contains_iff
  found := h.erase_eq
  removed := h.getAll_remove
  dropped := h.size_remove
  counted := by
    refine ⟨((v.fields l).map (·.1)).toFinset, fun name => ?_, ?_⟩
    · rw [List.mem_toFinset, h.mem_names_iff, h.contains_iff]
    · simp only [← h.countP_eq]
      rw [h.size_eq, ← List.length_map (·.1)]
      exact (List.sum_toFinset_count_eq_length _).symm
  shown := by
    refine ⟨rfl, ?_, fun name => ?_⟩
    · rw [← List.length_map (·.1), ← toList, h.map_toList, List.length_map, h.size_eq]
    · rw [← toList, h.map_toList, h.countP_eq]
  empty := by
    have hnames : v.isEmpty = true ↔ (v.fields l).map (·.1) = [] := by
      simp [isEmpty, h.size_eq]
    rw [hnames, List.eq_nil_iff_forall_not_mem]
    simp only [h.mem_names_iff, not_not]

/-- Whatever the calls, the view they make answers all questions alike. -/
theorem run_answers_consistently (guess : Nat) (calls : List HeaderCall) :
    ((withCapacity guess : HeaderView side).run calls).Consistent := by
  obtain ⟨l, h⟩ := @run_stands side guess calls
  exact h.consistent

end HeaderView
end SecureChannel
