import Mathlib.Data.List.Basic
import Mathlib.Data.List.Induction
import SecureChannel.Headers.Table

/-! Header tables as lists of entries. The arrays of a table are only another way to write down its
list, and each operation on a table is a simple one on the list. -/
namespace SecureChannel

/-- A field as a table keeps it: with its value, and with its value as received. -/
structure HeaderEntry where
  name : Bytes
  value : Bytes
  wire : Bytes
deriving DecidableEq

namespace HeaderTable

/-- The slots hold the contents given for each place, and nothing where there are none. -/
structure Filled (t : HeaderTable) (contents : Nat → Option HeaderEntry) : Prop where
  size : t.slots.size = 2 * t.capacity
  names : ∀ i < t.capacity, t.slots[2 * i]? = some ((contents i).map (·.name))
  values : ∀ i < t.capacity, t.slots[2 * i + 1]? = some ((contents i).map (·.value))
  wires : ∀ i < t.capacity, t.wires[i]? = some ((contents i).map (·.wire))

/-- The table holds the list, and nothing after it. -/
structure Holds (t : HeaderTable) (l : List HeaderEntry) : Prop where
  filled : t.Filled fun i => l[i]?
  length : t.length = l.length
  length_le : l.length ≤ t.capacity
  one_le : 1 ≤ t.capacity

section Slots

variable {t : HeaderTable} {contents : Nat → Option HeaderEntry}

theorem size_wires (t : HeaderTable) : t.wires.size = t.capacity := rfl

@[simp] theorem capacity_swap (t : HeaderTable) (i j : Nat) : (t.swap i j).capacity = t.capacity := by
  simp [swap, capacity]

@[simp] theorem capacity_clear (t : HeaderTable) (i : Nat) : (t.clear i).capacity = t.capacity := by
  simp [clear, capacity]

@[simp] theorem capacity_grow (t : HeaderTable) :
    t.grow.capacity = max (t.capacity + t.capacity / 2) 2 := by
  simp only [grow, capacity, extend, Array.size_append, Array.size_replicate]
  omega

private theorem getElem?_swap {α : Type} (a : Array α) {i j : Nat} (hi : i < a.size)
    (hj : j < a.size) (k : Nat) :
    (a.swapIfInBounds i j)[k]? = if k = i then a[j]? else if k = j then a[i]? else a[k]? := by
  grind

/-- The slots of names are the even ones, so the two exchanges do not meet. -/
theorem Filled.swap (h : t.Filled contents) {i j : Nat} (hi : i < t.capacity) (hj : j < t.capacity) :
    (t.swap i j).Filled fun k =>
      if k = i then contents j else if k = j then contents i else contents k := by
  have hs := h.size
  have slots_swap (k : Nat) : (t.swap i j).slots[k]? =
      if k = 2 * i + 1 then t.slots[2 * j + 1]? else if k = 2 * j + 1 then t.slots[2 * i + 1]?
      else if k = 2 * i then t.slots[2 * j]? else if k = 2 * j then t.slots[2 * i]?
      else t.slots[k]? := by
    simp only [HeaderTable.swap]
    rw [getElem?_swap _ (by simp; omega) (by simp; omega)]
    repeat rw [getElem?_swap _ (by omega) (by omega)]
    grind
  refine ⟨by rw [capacity_swap]; simpa [HeaderTable.swap] using hs, ?_, ?_, ?_⟩ <;> intro k hk <;>
    rw [capacity_swap] at hk
  · rw [slots_swap]
    have := h.names i hi
    have := h.names j hj
    have := h.names k hk
    grind
  · rw [slots_swap]
    have := h.values i hi
    have := h.values j hj
    have := h.values k hk
    grind
  · simp only [HeaderTable.swap]
    rw [getElem?_swap _ hi hj]
    have := h.wires i hi
    have := h.wires j hj
    have := h.wires k hk
    grind

/-- Writes the slots of one place. -/
private def write (t : HeaderTable) (i : Nat) (e : Option HeaderEntry) : HeaderTable :=
  { t with
    slots := (t.slots.setIfInBounds (2 * i) (e.map (·.name))).setIfInBounds (2 * i + 1)
      (e.map (·.value))
    wires := t.wires.setIfInBounds i (e.map (·.wire)) }

private theorem Filled.write (h : t.Filled contents) {i : Nat} (hi : i < t.capacity)
    (e : Option HeaderEntry) :
    (t.write i e).Filled fun k => if k = i then e else contents k := by
  have hs := h.size
  have hc : (t.write i e).capacity = t.capacity := by simp [HeaderTable.write, capacity]
  refine ⟨by rw [hc]; simpa [HeaderTable.write] using hs, ?_, ?_, ?_⟩ <;> intro k hk <;> rw [hc] at hk
  · have := h.names k hk
    grind [HeaderTable.write]
  · have := h.values k hk
    grind [HeaderTable.write]
  · have := h.wires k hk
    have := size_wires t
    grind [HeaderTable.write]

theorem Filled.clear (h : t.Filled contents) {i : Nat} (hi : i < t.capacity) :
    (t.clear i).Filled fun k => if k = i then none else contents k := h.write hi none

private theorem getElem?_extend (a : Array (Option Bytes)) {size k : Nat} (hk : k < size) :
    (extend size a)[k]? = if k < a.size then a[k]? else some none := by
  split
  · exact Array.getElem?_append_left ‹_›
  · rw [extend, Array.getElem?_append_right (by omega), Array.getElem?_replicate,
      if_pos (by omega)]

theorem Filled.grow (h : t.Filled contents) (hc : ∀ i, t.capacity ≤ i → contents i = none) :
    t.grow.Filled contents := by
  have hs := h.size
  have hw := size_wires t
  have hcap := capacity_grow t
  have hsize : t.grow.slots.size = 2 * t.grow.capacity := by
    rw [hcap]
    simp only [HeaderTable.grow, extend, Array.size_append, Array.size_replicate]
    omega
  refine ⟨hsize, ?_, ?_, ?_⟩ <;> intro k hk <;> rw [hcap] at hk <;> simp only [HeaderTable.grow] <;>
    rw [getElem?_extend _ (by omega)]
  · have := h.names k
    have := hc k
    grind
  · have := h.values k
    have := hc k
    grind
  · have := h.wires k
    have := hc k
    grind

end Slots

section Reading

variable {t : HeaderTable} {l : List HeaderEntry}

theorem Holds.lt_capacity (h : t.Holds l) {i : Nat} (hi : i < l.length) : i < t.capacity :=
  Nat.lt_of_lt_of_le hi h.length_le

theorem Holds.nameAt (h : t.Holds l) {i : Nat} (hi : i < l.length) : t.nameAt i = l[i].name := by
  simp [HeaderTable.nameAt, h.filled.names i (h.lt_capacity hi), hi]

theorem Holds.valueAt? (h : t.Holds l) {i : Nat} (hi : i < l.length) :
    t.valueAt? i = l[i]?.map (·.value) := by
  simp [HeaderTable.valueAt?, h.filled.values i (h.lt_capacity hi), hi]

theorem Holds.wireAt (h : t.Holds l) {i : Nat} (hi : i < l.length) : t.wireAt i = l[i].wire := by
  simp [HeaderTable.wireAt, h.filled.wires i (h.lt_capacity hi), hi]

theorem Holds.positions (h : t.Holds l) (name : Bytes) :
    t.positions name = (List.range l.length).filter fun i => l[i]?.any (·.name = name) := by
  rw [HeaderTable.positions, h.length]
  apply List.filter_congr
  intro i hi
  rw [List.mem_range] at hi
  simp [h.nameAt hi, hi]

/-- Places in a list, in order, lead to its members in order. -/
private theorem filterMap_places {α β : Type} (l : List α) (p : α → Bool) (f : α → β) :
    ((List.range l.length).filter fun i => l[i]?.any p).filterMap (fun i => l[i]?.map f) =
      (l.filter p).map f := by
  induction l using List.reverseRecOn with
  | nil => rfl
  | append_singleton l a ih =>
    have hp : ((List.range l.length).filter fun i => (l ++ [a])[i]?.any p) =
        (List.range l.length).filter fun i => l[i]?.any p :=
      List.filter_congr fun i hi => by rw [List.getElem?_append_left (List.mem_range.mp hi)]
    have hf : ((List.range l.length).filter fun i => l[i]?.any p).filterMap
          (fun i => (l ++ [a])[i]?.map f) =
        ((List.range l.length).filter fun i => l[i]?.any p).filterMap (fun i => l[i]?.map f) :=
      List.filterMap_congr fun i hi => by
        rw [List.getElem?_append_left (List.mem_range.mp (List.mem_of_mem_filter hi))]
    rw [List.length_append, List.length_singleton, List.range_succ, List.filter_append, hp,
      List.filterMap_append, hf, ih]
    by_cases ha : p a <;> simp [ha]

theorem Holds.getAll (h : t.Holds l) (name : Bytes) :
    t.getAll name = (l.filter (·.name = name)).map (·.value) := by
  rw [HeaderTable.getAll, h.positions, ← filterMap_places]
  apply List.filterMap_congr
  intro i hi
  exact h.valueAt? (List.mem_range.mp (List.mem_of_mem_filter hi))

theorem Holds.get? (h : t.Holds l) (name : Bytes) :
    t.get? name = (l.find? (·.name = name)).map (·.value) := by
  have hall := h.getAll name
  rw [HeaderTable.getAll] at hall
  rw [← List.head?_filter, ← List.head?_map, ← hall, HeaderTable.get?]
  cases hp : t.positions name with
  | nil => rfl
  | cons i rest =>
    have hi : i ∈ t.positions name := hp ▸ List.mem_cons_self
    rw [h.positions] at hi
    have hlt := List.mem_range.mp (List.mem_of_mem_filter hi)
    simp [h.valueAt? hlt, hlt]

theorem Holds.contains (h : t.Holds l) (name : Bytes) :
    t.contains name = l.any (·.name = name) := by
  rw [Bool.eq_iff_iff, List.any_eq_true, HeaderTable.contains, h.positions]
  simp only [Bool.not_eq_true', List.isEmpty_eq_false_iff_exists_mem, List.mem_filter, List.mem_range]
  constructor
  · intro hfound
    obtain ⟨i, hi, ha⟩ := hfound
    exact ⟨l[i], List.getElem_mem hi, by simpa [hi] using ha⟩
  · intro hfound
    obtain ⟨e, he, ha⟩ := hfound
    obtain ⟨i, hi, rfl⟩ := List.getElem_of_mem he
    exact ⟨i, hi, by simpa [hi] using ha⟩

theorem Holds.toList (h : t.Holds l) : t.toList = l.map fun e => (e.name, e.wire) := by
  rw [HeaderTable.toList, h.length]
  apply List.ext_getElem (by simp)
  intro i hi _
  simp only [List.length_map, List.length_range] at hi
  simp [h.nameAt hi, h.wireAt hi]

end Reading

section Writing

variable {t : HeaderTable} {l : List HeaderEntry}

theorem holds_withCapacity (guess : Nat) : (withCapacity guess).Holds [] := by
  have hc : (withCapacity guess).capacity = max guess 1 := by simp [withCapacity, capacity]
  refine ⟨⟨?_, ?_, ?_, ?_⟩, rfl, Nat.zero_le _, by omega⟩
  · rw [hc]
    simp [withCapacity]
  all_goals
    intro i hi
    rw [hc] at hi
    simp only [withCapacity]
    rw [Array.getElem?_replicate, if_pos (by omega)]
    rfl

/-- The growth of a table when it is about to be written: only a full one grows. -/
def capacityAfterPush (t : HeaderTable) : Nat :=
  if t.length = t.capacity then max (t.capacity + t.capacity / 2) 2 else t.capacity

theorem Holds.push (h : t.Holds l) (e : HeaderEntry) :
    (t.push e.name e.value e.wire).Holds (l ++ [e]) ∧
      (t.push e.name e.value e.wire).capacity = t.capacityAfterPush := by
  let u := if t.length = t.capacity then t.grow else t
  have hlen := h.length
  have hle := h.length_le
  have hone := h.one_le
  have hulen : u.length = t.length := by dsimp only [u]; split <;> rfl
  have hucap : u.capacity = t.capacityAfterPush := by
    dsimp only [u, capacityAfterPush]
    split <;> simp
  have hroom : l.length < u.capacity := by
    rw [hucap, capacityAfterPush]
    split <;> omega
  have hfilled : u.Filled fun i => l[i]? := by
    dsimp only [u]
    split
    · exact h.filled.grow fun i hi => List.getElem?_eq_none (by omega)
    · exact h.filled
  have hpush : t.push e.name e.value e.wire =
      { u.write l.length (some e) with length := l.length + 1 } := by
    rw [← hlen, ← hulen]
    rfl
  have hcap : (t.push e.name e.value e.wire).capacity = u.capacity := by
    rw [hpush]
    simp [HeaderTable.write, capacity]
  have hwritten := hfilled.write hroom (some e)
  have hcontents : (fun k => if k = l.length then some e else l[k]?) = fun k => (l ++ [e])[k]? := by
    funext k
    grind
  rw [hcontents] at hwritten
  refine ⟨⟨?_, by simp [hpush], ?_, ?_⟩, hcap.trans hucap⟩
  · rw [hpush]
    exact ⟨hwritten.size, hwritten.names, hwritten.values, hwritten.wires⟩
  · rw [hcap, List.length_append, List.length_singleton]
    omega
  · omega

/-- Before each step, entries of other names have been moved up into `front`, what they were
exchanged for is in `back`, and `rest` is still to be looked at. -/
theorem Filled.compact (name : Bytes) (front back rest : List HeaderEntry)
    (h : t.Filled fun i => (front ++ back ++ rest)[i]?)
    (hcap : (front ++ back ++ rest).length ≤ t.capacity) :
    ∃ (u : HeaderTable) (left : List HeaderEntry),
      compact name t front.length (front.length + back.length) rest.length =
        (u, (front ++ rest.filter (·.name ≠ name)).length) ∧
      u.Filled (fun i => (front ++ rest.filter (·.name ≠ name) ++ left)[i]?) ∧
      u.capacity = t.capacity ∧
      (front ++ rest.filter (·.name ≠ name) ++ left).length = (front ++ back ++ rest).length := by
  induction rest generalizing t front back with
  | nil => exact ⟨t, back, by simp [HeaderTable.compact], by simpa using h, rfl, by simp⟩
  | cons e rest ih =>
    have hlt : front.length + back.length < t.capacity := by
      simp only [List.length_append, List.length_cons] at hcap
      omega
    have hname : t.nameAt (front.length + back.length) = e.name := by
      simp [HeaderTable.nameAt, h.names _ hlt]
    rw [List.length_cons]
    by_cases he : e.name = name
    · obtain ⟨u, left, hstep, hfilled, hucap, hlen⟩ :=
        ih front (back ++ [e]) (by simpa using h) (by simpa using hcap)
      have hcompact : compact name t front.length (front.length + back.length) (rest.length + 1) =
          compact name t front.length (front.length + (back ++ [e]).length) rest.length := by
        simp [HeaderTable.compact, hname, he, Nat.add_assoc]
      have hkept : (e :: rest).filter (·.name ≠ name) = rest.filter (·.name ≠ name) := by simp [he]
      rw [hkept, hcompact]
      exact ⟨u, left, hstep, hfilled, hucap, by simpa using hlen⟩
    · have hswap := h.swap (i := front.length) (j := front.length + back.length) (by omega) hlt
      obtain ⟨back', hback, hcontents⟩ : ∃ back' : List HeaderEntry, back'.length = back.length ∧
          (fun k => if k = front.length then (front ++ back ++ e :: rest)[front.length + back.length]?
            else if k = front.length + back.length then (front ++ back ++ e :: rest)[front.length]?
            else (front ++ back ++ e :: rest)[k]?) =
          fun k => (front ++ [e] ++ back' ++ rest)[k]? := by
        cases back with
        | nil => exact ⟨[], rfl, by funext k; grind⟩
        | cons b back => exact ⟨back ++ [b], by simp, by funext k; grind⟩
      rw [hcontents] at hswap
      have hsame : (front ++ [e] ++ back' ++ rest).length = (front ++ back ++ e :: rest).length := by
        simp only [List.length_append, List.length_cons, List.length_nil]
        omega
      obtain ⟨u, left, hstep, hfilled, hucap, hlen⟩ :=
        ih (front ++ [e]) back' hswap (by rw [capacity_swap, hsame]; exact hcap)
      have hcompact : compact name t front.length (front.length + back.length) (rest.length + 1) =
          compact name (t.swap front.length (front.length + back.length)) (front ++ [e]).length
            ((front ++ [e]).length + back'.length) rest.length := by
        simp [HeaderTable.compact, hname, he, hback, Nat.add_right_comm]
      have hkept : front ++ (e :: rest).filter (·.name ≠ name) =
          front ++ [e] ++ rest.filter (·.name ≠ name) := by simp [he]
      rw [hkept, hcompact]
      exact ⟨u, left, hstep, hfilled, hucap.trans (capacity_swap ..), hlen.trans hsame⟩

private theorem Filled.clearAll {contents : Nat → Option HeaderEntry} (h : t.Filled contents)
    (first count : Nat) (hcap : first + count ≤ t.capacity) :
    ((List.range' first count).foldl HeaderTable.clear t).Filled
        (fun k => if first ≤ k ∧ k < first + count then none else contents k) ∧
      ((List.range' first count).foldl HeaderTable.clear t).capacity = t.capacity := by
  induction count generalizing t contents first with
  | zero =>
    refine ⟨?_, rfl⟩
    have hc : (fun k => if first ≤ k ∧ k < first + 0 then none else contents k) = contents := by
      funext k
      rw [if_neg (by omega)]
    rw [hc]
    exact h
  | succ count ih =>
    obtain ⟨hf, hc⟩ := ih (h.clear (i := first) (by omega)) (first + 1)
      (by rw [capacity_clear]; omega)
    rw [List.range'_succ, List.foldl_cons]
    refine ⟨?_, hc.trans (capacity_clear ..)⟩
    have hcontents : (fun k => if first + 1 ≤ k ∧ k < first + 1 + count then none
          else if k = first then none else contents k) =
        fun k => if first ≤ k ∧ k < first + (count + 1) then none else contents k := by
      funext k
      grind
    rwa [hcontents] at hf

/-- Entries before the first one of a name have other names. -/
private theorem Holds.split_of_positions (h : t.Holds l) {name : Bytes} {first : Nat}
    (hp : (t.positions name).head? = some first) :
    (∃ e ∈ l, e.name = name) ∧ first ≤ l.length ∧ ∀ e ∈ l.take first, e.name ≠ name := by
  rw [h.positions, List.head?_filter, List.find?_range_eq_some] at hp
  obtain ⟨hfirst, hlt, hbefore⟩ := hp
  rw [List.mem_range] at hlt
  refine ⟨⟨l[first], List.getElem_mem hlt, by simpa [hlt] using hfirst⟩, Nat.le_of_lt hlt, ?_⟩
  intro e he
  obtain ⟨j, hj, rfl⟩ := List.getElem_of_mem he
  rw [List.length_take] at hj
  have hjl : j < l.length := by omega
  simpa [hjl] using hbefore j (by omega)

theorem erase_of_not_contains {name : Bytes} (h : t.contains name = false) :
    t.erase name = (false, t) := by
  have hnil : t.positions name = [] := by simpa [HeaderTable.contains] using h
  simp [HeaderTable.erase, hnil]

theorem Holds.erase (h : t.Holds l) (name : Bytes) :
    (t.erase name).1 = l.any (·.name = name) ∧
      (t.erase name).2.Holds (l.filter (·.name ≠ name)) ∧
      (t.erase name).2.capacity = t.capacity := by
  have hlen := h.length
  have hle := h.length_le
  have hone := h.one_le
  cases hp : (t.positions name).head? with
  | none =>
    have hnone : t.contains name = false := by
      rw [List.head?_eq_none_iff] at hp
      rw [HeaderTable.contains, hp]
      rfl
    have hany : l.any (·.name = name) = false := by rwa [← h.contains]
    have hkeep : l.filter (·.name ≠ name) = l := by simpa using hany
    rw [erase_of_not_contains hnone, hany, hkeep]
    exact ⟨rfl, h, rfl⟩
  | some first =>
    obtain ⟨⟨e, he, hname⟩, hfirst, hbefore⟩ := h.split_of_positions hp
    have hany : l.any (·.name = name) = true :=
      List.any_eq_true.mpr ⟨e, he, by simpa using hname⟩
    have hkept : l.filter (·.name ≠ name) =
        l.take first ++ (l.drop first).filter (·.name ≠ name) := by
      conv_lhs => rw [← List.take_append_drop first l, List.filter_append]
      rw [List.filter_eq_self.mpr (by simpa using hbefore)]
    have hfront : (l.take first).length = first := List.length_take_of_le hfirst
    have hrest : (l.drop first).length = t.length - first := by simp [hlen]
    obtain ⟨u, left, hcompact, hfilled, hucap, hsame⟩ :=
      Filled.compact name (l.take first) [] (l.drop first) (by simpa using h.filled)
        (by simpa using hle)
    rw [hfront, hrest, List.length_nil, Nat.add_zero, ← hkept] at hcompact
    rw [← hkept] at hfilled hsame
    rw [List.append_nil, List.take_append_drop, List.length_append] at hsame
    obtain ⟨hcleared, hccap⟩ := hfilled.clearAll (l.filter (·.name ≠ name)).length left.length
      (by omega)
    have hcount : t.length - (l.filter (·.name ≠ name)).length = left.length := by omega
    have hcontents : (fun k => if (l.filter (·.name ≠ name)).length ≤ k ∧
          k < (l.filter (·.name ≠ name)).length + left.length then none
          else (l.filter (·.name ≠ name) ++ left)[k]?) =
        fun k => (l.filter (·.name ≠ name))[k]? := by
      funext k
      grind
    rw [hcontents] at hcleared
    have hcap := hccap.trans hucap
    have hroom := Nat.le_of_eq hcap.symm
    simp only [HeaderTable.erase, hp, hcompact, hcount]
    refine ⟨hany.symm, ⟨⟨hcleared.size, hcleared.names, hcleared.values, hcleared.wires⟩, rfl,
      Nat.le_trans ?_ hroom, Nat.le_trans hone hroom⟩, hcap⟩
    omega

end Writing
end HeaderTable
end SecureChannel
