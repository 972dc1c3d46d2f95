import SecureChannel.Proofs.Headers.Binary
import SecureChannel.Proofs.Headers.History

/-! The storage that header lists take. Each field pays for what is kept of it: its overhead for an
entry, its commas for more of them, and its value for the bytes that are decoded from it. Tables grow
in proportion to their entries, so the limit of a decoder bounds all that it makes of a list. -/
namespace SecureChannel

/-- What each member pays beside its share, the members pay together. -/
theorem sum_map_add_length_le {α : Type} {share paid : α → Nat} {c : Nat}
    (h : ∀ x, share x + c ≤ paid x) (xs : List α) :
    (xs.map share).sum + c * xs.length ≤ (xs.map paid).sum := by
  induction xs with
  | nil => simp
  | cons x xs ih =>
    have hx := h x
    rw [List.map_cons, List.map_cons, List.sum_cons, List.sum_cons, List.length_cons, Nat.mul_succ]
    omega

namespace HeaderName

/-- How many entries a table has for a field: one, and in binary values one more for each comma. -/
def entryCount (field : Bytes × Bytes) : Nat :=
  if Bytes.ofString "-bin" <:+ field.1 then field.2.count 0x2C + 1 else 1

end HeaderName

namespace HeaderEntry

variable {name value : Bytes} {wires values : List Bytes} {entries : List HeaderEntry}

theorem length_ofParts (h : List.Forall₂ Base64.Spells wires values) :
    (ofParts name wires values).length = wires.length := by
  have hlength := h.length_eq
  rw [ofParts, List.length_zipWith]
  omega

theorem Written.length_eq (h : Written name value entries) :
    entries.length = HeaderName.entryCount (name, value) := by
  by_cases hname : Bytes.ofString "-bin" <:+ name
  · obtain ⟨values, hspelled, rfl⟩ := (written_binary_iff hname).mp h
    rw [length_ofParts hspelled, length_splitOn, HeaderName.entryCount, if_pos hname]
  · obtain rfl := h.unique (.plain hname)
    rw [HeaderName.entryCount, if_neg hname]
    rfl

/-- Parts are no shorter than the bytes that they spell. -/
theorem sum_ofParts_le (h : List.Forall₂ Base64.Spells wires values) :
    ((ofParts name wires values).map fun e => e.value.length).sum ≤
      (wires.map List.length).sum := by
  induction h with
  | nil => exact Nat.le_refl _
  | @cons wire value wires values hspells _ ih =>
    have hlength := hspells.length_le
    simp only [ofParts, List.zipWith_cons_cons, List.map_cons, List.sum_cons] at ih ⊢
    omega

theorem Written.sum_length_le (h : Written name value entries) :
    (entries.map fun e => e.value.length).sum ≤ value.length := by
  by_cases hname : Bytes.ofString "-bin" <:+ name
  · obtain ⟨values, hspelled, rfl⟩ := (written_binary_iff hname).mp h
    calc
      ((ofParts name (value.splitOn 0x2C) values).map fun e => e.value.length).sum ≤
          ((value.splitOn 0x2C).map List.length).sum := sum_ofParts_le hspelled
      _ ≤ value.length := by
        have hparts := sum_length_splitOn 0x2C value
        omega
  · obtain rfl := h.unique (.plain hname)
    simp

end HeaderEntry

namespace HeaderTable

/-- The values of all entries, in order. -/
def values (t : HeaderTable) : List Bytes :=
  (List.range t.length).map fun i => (t.valueAt? i).getD []

/-- The second table has all the entries of the first one, and its room grew in proportion. -/
structure GrowsTo (t u : HeaderTable) : Prop where
  length : t.length ≤ u.length
  capacity : u.capacity ≤ max t.capacity (3 * u.length / 2)

variable {t u w : HeaderTable} {l : List HeaderEntry} {name value : Bytes}

theorem Holds.values (h : t.Holds l) : t.values = l.map (·.value) := by
  rw [HeaderTable.values, h.length]
  apply List.ext_getElem (by simp)
  intro i hi _
  simp only [List.length_map, List.length_range] at hi
  simp [h.valueAt? hi, hi]

theorem GrowsTo.refl (t : HeaderTable) : t.GrowsTo t :=
  ⟨Nat.le_refl _, Nat.le_max_left _ _⟩

theorem GrowsTo.trans (h : t.GrowsTo u) (h' : u.GrowsTo w) : t.GrowsTo w := by
  have hlength := h.length
  have hlength' := h'.length
  have hcapacity := h.capacity
  have hcapacity' := h'.capacity
  constructor <;> omega

/-- A full table of two entries or more grows by half of them at most, and then has one more. -/
theorem Holds.growsTo_push (h : t.Holds l) (name value wire : Bytes) :
    t.GrowsTo (t.push name value wire) := by
  obtain ⟨hpush, hcapacity⟩ : (t.push name value wire).Holds (l ++ [⟨name, value, wire⟩]) ∧
      (t.push name value wire).capacity = t.capacityAfterPush := h.push ⟨name, value, wire⟩
  have hlength := hpush.length
  have hbefore := h.length
  have hone := h.one_le
  rw [List.length_append, List.length_singleton, ← hbefore] at hlength
  unfold capacityAfterPush at hcapacity
  refine ⟨by omega, ?_⟩
  rw [hcapacity]
  split <;> omega

theorem Holds.growsTo_storeAll (h : t.Holds l) (entries : List HeaderEntry) :
    t.GrowsTo (t.storeAll entries) := by
  induction entries generalizing t l with
  | nil => exact .refl t
  | cons e entries ih =>
    have hpush := h.growsTo_push e.name e.value e.wire
    have hrest := ih (h.push e).1
    exact hpush.trans hrest

theorem Holds.growsTo_add (h : t.Holds l) (hadd : t.add name value = .ok u) : t.GrowsTo u := by
  obtain ⟨-, entries, -, rfl⟩ := add_eq_ok hadd
  exact h.growsTo_storeAll entries

end HeaderTable

namespace HeaderView

variable {side : Side} {v w u : HeaderView side} {l : List HeaderEntry} {name value : Bytes}
  {fields : List (Bytes × Bytes)} {k : Hoisted}

/-- The values in slots and of all entries. -/
def values (v : HeaderView side) : List Bytes := v.filled.map (·.2) ++ v.table.values

/-- The bytes that the values take. -/
def stored (v : HeaderView side) : Nat := (v.values.map List.length).sum

/-- All values by some measure; the bytes that they take are one such measure, their number another. -/
def weight (measure : Bytes → Nat) (v : HeaderView side) : Nat := (v.values.map measure).sum

/-- The weight of what is in a slot. -/
def slotWeight (measure : Bytes → Nat) (v : HeaderView side) (k : Hoisted) : Nat :=
  ((v.slots k).map measure).getD 0

variable {measure : Bytes → Nat}

theorem size_eq_weight (v : HeaderView side) : v.size = v.weight fun _ => 1 := by
  have hcount : v.values.length = v.size := by simp [values, HeaderTable.values, size_eq]
  rw [weight, List.map_const', List.sum_replicate_nat, hcount, Nat.mul_one]

theorem sum_filled (v : HeaderView side) (places : List Hoisted) :
    (((places.filterMap fun k => (v.slots k).map fun value => (k.headerName, value)).map
      (·.2)).map measure).sum = (places.map (v.slotWeight measure)).sum := by
  induction places with
  | nil => rfl
  | cons k places ih =>
    rw [List.map_cons, List.sum_cons, ← ih, List.filterMap_cons, slotWeight]
    cases v.slots k <;> simp

theorem Holds.weight_eq (h : v.Holds l) : v.weight measure =
    (Hoisted.all.map (v.slotWeight measure)).sum + (l.map fun e => measure e.value).sum := by
  rw [weight, values, List.map_append, List.sum_append, filled, sum_filled, h.table.values,
    List.map_map]
  rfl

/-- Slots other than the one that is filled keep their weight. -/
theorem sum_slotWeight_setSlot (measure : Bytes → Nat) (v : HeaderView side) (k : Hoisted)
    (value : Bytes) :
    (Hoisted.all.map ((v.setSlot k (some value)).slotWeight measure)).sum +
      v.slotWeight measure k = (Hoisted.all.map (v.slotWeight measure)).sum + measure value := by
  cases k <;> simp [Hoisted.all, slotWeight, setSlot] <;> omega

/-- What a field adds to a view. In a slot it takes the place of what was there. -/
theorem Holds.weight_add (measure : Bytes → Nat) (h : v.Holds l)
    (hadd : v.add name value = .ok w) :
    (∃ k, side.hoisted? name = some k ∧
      w.weight measure + v.slotWeight measure k = v.weight measure + measure value) ∨
    ∃ entries, HeaderEntry.Written name value entries ∧ side.hoisted? name = none ∧
      w.weight measure = v.weight measure + (entries.map fun e => measure e.value).sum := by
  obtain ⟨k, hk, rfl⟩ | ⟨htabled, t, ht, rfl⟩ := add_cases hadd
  · have hw : (v.setSlot k (some value)).Holds l := ⟨h.table, h.tabled⟩
    have hslots := v.sum_slotWeight_setSlot measure k value
    refine .inl ⟨k, hk, ?_⟩
    rw [hw.weight_eq, h.weight_eq]
    omega
  · obtain ⟨entries, hwritten, hu⟩ := h.table.add ht
    have hvalues : t.values = v.table.values ++ entries.map (·.value) := by
      rw [hu.values, h.table.values, List.map_append]
    refine .inr ⟨entries, hwritten, htabled.1, ?_⟩
    have hfilled : ({ v with table := t } : HeaderView side).filled = v.filled := rfl
    simp only [weight, values, hvalues, hfilled, List.map_append, List.sum_append, List.map_map]
    rw [Nat.add_assoc]
    rfl

theorem Holds.weight_add_le {charge : Nat} (h : v.Holds l) (hadd : v.add name value = .ok w)
    (hcharge : ∀ entries, HeaderEntry.Written name value entries →
      (entries.map fun e => measure e.value).sum ≤ charge) :
    w.weight measure ≤ v.weight measure + charge := by
  obtain ⟨k, hk, hweight⟩ | ⟨entries, hwritten, -, hweight⟩ := h.weight_add measure hadd
  · have hplain := hcharge _ (.plain (Side.plain_of_hoisted? hk).2)
    simp only [List.map_cons, List.map_nil, List.sum_cons, List.sum_nil] at hplain
    omega
  · have hentries := hcharge entries hwritten
    omega

theorem growsTo_add (h : v.Holds l) (hadd : v.add name value = .ok w) :
    v.table.GrowsTo w.table := by
  rcases add_cases hadd with ⟨k, -, rfl⟩ | ⟨-, t, ht, rfl⟩
  · exact .refl v.table
  · exact h.table.growsTo_add ht

/-- What fields add to a view, they pay for one by one. -/
theorem Holds.weight_addAll_le (measure : Bytes → Nat) (charge : Bytes × Bytes → Nat)
    (h : v.Holds l) (hall : v.addAll fields = .ok w)
    (hcharge : ∀ field entries, HeaderEntry.Written field.1 field.2 entries →
      (entries.map fun e => measure e.value).sum ≤ charge field) :
    w.weight measure ≤ v.weight measure + (fields.map charge).sum := by
  induction fields generalizing v l with
  | nil =>
    obtain rfl := Except.ok.inj hall
    exact Nat.le_add_right _ _
  | cons field fields ih =>
    obtain ⟨u, hadd, hrest⟩ := (addAll_cons_eq_ok_iff field).mp hall
    obtain ⟨entries, hu⟩ := h.add hadd
    have hfield := h.weight_add_le hadd (hcharge field)
    have hfields := ih hu hrest
    rw [List.map_cons, List.sum_cons]
    omega

theorem Holds.growsTo_addAll (h : v.Holds l) (hall : v.addAll fields = .ok w) :
    v.table.GrowsTo w.table := by
  induction fields generalizing v l with
  | nil =>
    obtain rfl := Except.ok.inj hall
    exact .refl v.table
  | cons field fields ih =>
    obtain ⟨u, hadd, hrest⟩ := (addAll_cons_eq_ok_iff field).mp hall
    obtain ⟨entries, hu⟩ := h.add hadd
    exact (growsTo_add h hadd).trans (ih hu hrest)

end HeaderView

namespace HeaderDecoder

variable {side : Side} {d : HeaderDecoder side} {fields : List (Bytes × Bytes)}
  {v : HeaderView side} {next : HeaderDecoder side}

/-- What a field adds to the size of a list. -/
def fieldSize (field : Bytes × Bytes) : Nat := field.1.length + field.2.length + 32

theorem listSize_le_of_decode (h : d.decode fields = .ok (v, next)) :
    listSize fields ≤ d.limit.toNat := by
  obtain ⟨-, -, hquiet⟩ := decode_eq_ok_iff.mp h
  cases fields with
  | nil => exact Nat.zero_le _
  | cons field rest =>
    have hlast : ¬ Exceeds d.limit (field :: rest) rest.length :=
      fun hexceeds => hquiet _ _ (.exceeds hexceeds)
    unfold Exceeds at hlast
    rw [← List.length_cons (a := field), List.take_length] at hlast
    have hlt : rest.length < (field :: rest).length := Nat.lt_succ_self _
    omega

/-- Below the largest limit, the size that is compared with the limit is the true one. -/
theorem sum_fieldSize_le (h : d.decode fields = .ok (v, next))
    (hlimit : d.limit.toNat < 2 ^ 64 - 1) : (fields.map fieldSize).sum ≤ d.limit.toNat := by
  have hsize := listSize_le_of_decode h
  have hlist : listSize fields = min (2 ^ 64 - 1) (fields.map fieldSize).sum := rfl
  omega

theorem weight_start (measure : Bytes → Nat) (d : HeaderDecoder side) :
    d.start.weight measure = 0 := by
  have hvalues : d.start.values = [] := rfl
  rw [HeaderView.weight, hvalues]
  rfl

theorem size_le_entryCount (h : d.decode fields = .ok (v, next)) :
    v.size ≤ (fields.map HeaderName.entryCount).sum := by
  obtain ⟨hall, -, -⟩ := decode_eq_ok_iff.mp h
  have hcharge (field : Bytes × Bytes) (entries : List HeaderEntry)
      (hwritten : HeaderEntry.Written field.1 field.2 entries) :
      (entries.map fun _ => 1).sum ≤ HeaderName.entryCount field := by
    rw [List.map_const', List.sum_replicate_nat, Nat.mul_one, hwritten.length_eq]
  have hweight := (HeaderView.holds_withCapacity d.guess).weight_addAll_le (fun _ => 1)
    HeaderName.entryCount hall hcharge
  rw [← start, weight_start, Nat.zero_add] at hweight
  rw [HeaderView.size_eq_weight]
  exact hweight

theorem stored_le (h : d.decode fields = .ok (v, next)) :
    v.stored ≤ (fields.map fun field => field.2.length).sum := by
  obtain ⟨hall, -, -⟩ := decode_eq_ok_iff.mp h
  have hweight := (HeaderView.holds_withCapacity d.guess).weight_addAll_le List.length
    (fun field => field.2.length) hall fun field entries hwritten => hwritten.sum_length_le
  rwa [← start, weight_start, Nat.zero_add] at hweight

/-- Each comma that makes one more entry is itself a part of the field. -/
theorem entryCount_add_le (field : Bytes × Bytes) :
    HeaderName.entryCount field + 31 ≤ fieldSize field := by
  have hcommas : field.2.count 0x2C ≤ field.2.length := List.count_le_length
  unfold HeaderName.entryCount fieldSize
  split <;> omega

theorem size_add_le (h : d.decode fields = .ok (v, next)) (hlimit : d.limit.toNat < 2 ^ 64 - 1) :
    v.size + 31 * fields.length ≤ d.limit.toNat := by
  calc
    v.size + 31 * fields.length ≤
        (fields.map HeaderName.entryCount).sum + 31 * fields.length :=
      Nat.add_le_add_right (size_le_entryCount h) _
    _ ≤ (fields.map fieldSize).sum := sum_map_add_length_le entryCount_add_le fields
    _ ≤ d.limit.toNat := sum_fieldSize_le h hlimit

theorem stored_add_le (h : d.decode fields = .ok (v, next))
    (hlimit : d.limit.toNat < 2 ^ 64 - 1) :
    v.stored + 32 * fields.length ≤ d.limit.toNat := by
  have hfield (field : Bytes × Bytes) : field.2.length + 32 ≤ fieldSize field := by
    unfold fieldSize
    omega
  calc
    v.stored + 32 * fields.length ≤
        (fields.map fun field => field.2.length).sum + 32 * fields.length :=
      Nat.add_le_add_right (stored_le h) _
    _ ≤ (fields.map fieldSize).sum := sum_map_add_length_le hfield fields
    _ ≤ d.limit.toNat := sum_fieldSize_le h hlimit

/-- The first room is what the limit lets expect, whatever came before; from there a table only grows
with its entries. -/
theorem capacity_le (h : d.decode fields = .ok (v, next)) (hlimit : d.limit.toNat < 2 ^ 64 - 1) :
    v.table.capacity ≤ max 1 (3 * d.limit.toNat / 2) := by
  obtain ⟨hall, -, -⟩ := decode_eq_ok_iff.mp h
  have hgrows := ((HeaderView.holds_withCapacity d.guess).growsTo_addAll hall).capacity
  have hstart : (HeaderView.withCapacity d.guess : HeaderView side).table.capacity =
      max d.guess 1 := by
    simp [HeaderView.withCapacity, HeaderTable.withCapacity, HeaderTable.capacity]
  have hguess : d.guess ≤ max 1 (d.limit.toNat / 32) := by
    unfold guess clampEntries maxEntries fieldOverhead
    omega
  have hentries : v.table.length ≤ v.size := Nat.le_add_left _ _
  have hsize := size_add_le h hlimit
  omega

/-- Whatever a decoder has read before, and under whatever limits, a list that it takes makes no more
than its limit pays for: in entries, in bytes of values and in room of the table. -/
theorem decode_storage_le_limit (d : HeaderDecoder side) (calls : List DecoderCall)
    (fields : List (Bytes × Bytes)) (v : HeaderView side) (next : HeaderDecoder side)
    (hlimit : (d.run calls).limit.toNat < 2 ^ 64 - 1)
    (h : (d.run calls).decode fields = .ok (v, next)) :
    v.size + 31 * fields.length ≤ (d.run calls).limit.toNat ∧
      v.stored + 32 * fields.length ≤ (d.run calls).limit.toNat ∧
      v.table.capacity ≤ max 1 (3 * (d.run calls).limit.toNat / 2) :=
  ⟨size_add_le h hlimit, stored_add_le h hlimit, capacity_le h hlimit⟩

/-- A long list came before, and the limit has been lowered to just the size of the value `,,,,` of
`x-bin`. This becomes five entries, for which a table of one grows four times. -/
theorem decode_storage_le_limit_after_lowering :
    let d : HeaderDecoder .request := ofLimits ⟨8192, 8⟩
    let calls := [DecoderCall.decode [([0x61], [0x31]), ([0x62], [0x32])], .setLimit 41]
    let fields : List (Bytes × Bytes) :=
      [([0x78, 0x2D, 0x62, 0x69, 0x6E], [0x2C, 0x2C, 0x2C, 0x2C])]
    (d.run calls).limit.toNat < 2 ^ 64 - 1 ∧ (d.run calls).limit = 41 ∧
      ∃ v next, (d.run calls).decode fields = .ok (v, next) ∧ v.size = 5 ∧ v.table.capacity = 6 ∧
        v.size + 31 * fields.length ≤ 41 ∧ v.stored + 32 * fields.length ≤ 41 ∧
        v.table.capacity ≤ max 1 (3 * 41 / 2) := by
  intro d calls fields
  have hlimit : (d.run calls).limit = 41 := rfl
  have hbound : (d.run calls).limit.toNat < 2 ^ 64 - 1 := by decide
  obtain ⟨v, next, hv, hsize, hroom⟩ : ∃ v next, (d.run calls).decode fields = .ok (v, next) ∧
      v.size = 5 ∧ v.table.capacity = 6 := ⟨_, _, rfl, by decide +kernel, by decide +kernel⟩
  exact ⟨hbound, hlimit, v, next, hv, hsize, hroom,
    decode_storage_le_limit d calls fields v next hbound hv⟩

end HeaderDecoder
end SecureChannel
