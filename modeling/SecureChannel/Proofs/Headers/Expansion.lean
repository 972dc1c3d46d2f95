import SecureChannel.Proofs.Headers.Storage
import SecureChannel.Proofs.Headers.Wire

/-! How many entries a header list becomes. There is one for each field and for each comma of a binary
value, but for values of `te` that were replaced. So the limit divided among fields without text is
no bound on the entries of a list, unless its binary values are without commas. -/
namespace SecureChannel

namespace HeaderDecoder

/-- The commas in binary values. -/
def commas (fields : List (Bytes × Bytes)) : Nat :=
  (fields.map fun field =>
    if Bytes.ofString "-bin" <:+ field.1 then field.2.count 0x2C else 0).sum

/-- The values of `te` that later ones replace. -/
def replaced (side : Side) (fields : List (Bytes × Bytes)) : Nat :=
  fields.countP (side.hoisted? ·.1 = some .te) - 1

theorem sum_entryCount (fields : List (Bytes × Bytes)) :
    (fields.map HeaderName.entryCount).sum = fields.length + commas fields := by
  induction fields with
  | nil => rfl
  | cons field fields ih =>
    unfold commas at ih ⊢
    rw [List.map_cons, List.map_cons, List.sum_cons, List.sum_cons, ih, List.length_cons,
      HeaderName.entryCount]
    split <;> omega

theorem commas_eq_zero {fields : List (Bytes × Bytes)}
    (h : ∀ field ∈ fields, Bytes.ofString "-bin" <:+ field.1 → 0x2C ∉ field.2) :
    commas fields = 0 := by
  rw [commas, List.sum_eq_zero_iff_forall_eq_nat]
  intro n hn
  obtain ⟨field, hfield, rfl⟩ := List.mem_map.mp hn
  split
  · rename_i hbinary
    exact List.count_eq_zero.mpr (h field hfield hbinary)
  · rfl

end HeaderDecoder

namespace HeaderView

variable {side : Side} {v w : HeaderView side} {l : List HeaderEntry} {name value : Bytes}
  {fields : List (Bytes × Bytes)}

/-- One if a value of `te` is held. -/
def heldTe (v : HeaderView side) : Nat := v.slotWeight (fun _ => 1) .te

theorem hoisted?_eq_te_iff {k : Hoisted} (hk : side.hoisted? name = some k) :
    side.hoisted? name = some .te ↔ k = .te := by
  rw [hk, Option.some_inj]

/-- The only slot that counts for this is that of `te`. -/
theorem heldTe_add (hadd : v.add name value = .ok w) :
    w.heldTe = if side.hoisted? name = some .te then 1 else v.heldTe := by
  rcases add_cases hadd with ⟨k, hk, rfl⟩ | ⟨htabled, t, -, rfl⟩
  · by_cases hte : k = .te
    · subst hte
      rw [if_pos hk, heldTe, slotWeight, slots_setSlot]
      rfl
    · have hother := mt (hoisted?_eq_te_iff hk).mp hte
      rw [if_neg hother, heldTe, slotWeight, slots_setSlot_of_ne v (Ne.symm hte)]
      rfl
  · rw [if_neg (by simp [htabled.1])]
    rfl

/-- A pseudo-header finds its slot empty. Only `te` may replace a value. -/
theorem Holds.size_add (h : v.Holds l) (hadd : v.add name value = .ok w) :
    w.size + (if side.hoisted? name = some .te then v.heldTe else 0) =
      v.size + HeaderName.entryCount (name, value) := by
  rw [size_eq_weight, size_eq_weight]
  obtain ⟨k, hk, hweight⟩ | ⟨entries, hwritten, hnone, hweight⟩ := h.weight_add (fun _ => 1) hadd
  · have hcount : HeaderName.entryCount (name, value) = 1 :=
      if_neg (Side.plain_of_hoisted? hk).2
    have hheld : (if side.hoisted? name = some .te then v.heldTe else 0) =
        v.slotWeight (fun _ => 1) k := by
      by_cases hte : k = .te
      · subst hte
        exact if_pos hk
      · have hother := mt (hoisted?_eq_te_iff hk).mp hte
        have hpseudo : name.head? = some 0x3A := by
          rw [(Side.hoisted?_eq_some hk).2]
          exact (Side.head?_headerName k).mpr hte
        rw [add_of_hoisted hk] at hadd
        rw [if_neg hother, slotWeight]
        cases hslot : v.slots k with
        | none => rfl
        | some held => simp [hpseudo, hslot] at hadd
    omega
  · have hentries : (entries.map fun _ => 1).sum = HeaderName.entryCount (name, value) := by
      rw [List.map_const', List.sum_replicate_nat, Nat.mul_one, hwritten.length_eq]
    rw [if_neg (by simp [hnone])]
    omega

theorem heldTe_le_one (v : HeaderView side) : v.heldTe ≤ 1 := by
  unfold heldTe slotWeight
  cases v.slots .te <;> simp

/-- Of the values of `te`, one is left in the end. -/
theorem Holds.size_addAll (h : v.Holds l) (hall : v.addAll fields = .ok w) :
    w.size + (v.heldTe + fields.countP (side.hoisted? ·.1 = some .te) - 1) =
      v.size + (fields.map HeaderName.entryCount).sum := by
  induction fields generalizing v l with
  | nil =>
    obtain rfl := Except.ok.inj hall
    have hheld := v.heldTe_le_one
    simp only [List.countP_nil, List.map_nil, List.sum_nil]
    omega
  | cons field fields ih =>
    obtain ⟨name, value⟩ := field
    obtain ⟨u, hadd, hrest⟩ : ∃ u, v.add name value = .ok u ∧ u.addAll fields = .ok w :=
      (addAll_cons_eq_ok_iff _).mp hall
    obtain ⟨entries, hu⟩ := h.add hadd
    have hheld := heldTe_add hadd
    have hfield := h.size_add hadd
    have hfields := ih hu hrest
    rw [List.countP_cons, List.map_cons, List.sum_cons]
    simp only [decide_eq_true_eq]
    by_cases hte : side.hoisted? name = some .te
    · rw [if_pos hte] at hheld hfield ⊢
      omega
    · rw [if_neg hte] at hheld hfield ⊢
      omega

end HeaderView

namespace HeaderDecoder

variable {side : Side} {d : HeaderDecoder side} {fields : List (Bytes × Bytes)}
  {v : HeaderView side} {next : HeaderDecoder side}

/-- How many entries a list becomes is told by the list alone. -/
theorem size_add_replaced (h : d.decode fields = .ok (v, next)) :
    v.size + replaced side fields = fields.length + commas fields := by
  obtain ⟨hall, -, -⟩ := decode_eq_ok_iff.mp h
  have hcount := (HeaderView.holds_withCapacity d.guess).size_addAll hall
  have hsize : (HeaderView.withCapacity d.guess : HeaderView side).size = 0 := rfl
  have hheld : (HeaderView.withCapacity d.guess : HeaderView side).heldTe = 0 := rfl
  rw [hsize, hheld, sum_entryCount, Nat.zero_add, Nat.zero_add] at hcount
  exact hcount

/-- Without commas a field is one entry, and pays for it. -/
theorem length_le_maxEntries (h : d.decode fields = .ok (v, next))
    (hlimit : d.limit.toNat < 2 ^ 64 - 1) : fields.length ≤ maxEntries d.limit := by
  have hsize := sum_fieldSize_le h hlimit
  have hfield (field : Bytes × Bytes) : 0 + 32 ≤ fieldSize field := by
    unfold fieldSize
    omega
  have hpaid := sum_map_add_length_le hfield fields
  unfold maxEntries fieldOverhead
  omega

theorem size_le_of_no_commas (h : d.decode fields = .ok (v, next))
    (hlimit : d.limit.toNat < 2 ^ 64 - 1)
    (hcommas : ∀ field ∈ fields, Bytes.ofString "-bin" <:+ field.1 → 0x2C ∉ field.2) :
    v.size ≤ maxEntries d.limit := by
  have hcount := size_add_replaced h
  have hlength := length_le_maxEntries h hlimit
  rw [commas_eq_zero hcommas] at hcount
  omega

section Extremes

/-- The shortest name of binary values. -/
def shortestBinary : Bytes := [0x2D, 0x62, 0x69, 0x6E]

/-- A field that becomes more than one entry has at least the shortest name. -/
theorem entryCount_le (field : Bytes × Bytes) :
    HeaderName.entryCount field ≤ max 1 (fieldSize field - 35) := by
  have hcommas : field.2.count 0x2C ≤ field.2.length := List.count_le_length
  unfold HeaderName.entryCount
  split
  · rename_i hbinary
    have hname : 4 ≤ field.1.length := hbinary.length_le
    unfold fieldSize
    omega
  · omega

theorem sum_entryCount_le (fields : List (Bytes × Bytes)) :
    (fields.map HeaderName.entryCount).sum ≤ max 1 ((fields.map fieldSize).sum - 35) := by
  induction fields with
  | nil => simp
  | cons field fields ih =>
    have hfield := entryCount_le field
    have hsize : 32 ≤ fieldSize field := by
      unfold fieldSize
      omega
    rw [List.map_cons, List.map_cons, List.sum_cons, List.sum_cons]
    cases fields with
    | nil =>
      simp only [List.map_nil, List.sum_nil]
      omega
    | cons other rest =>
      have hother : 32 ≤ fieldSize other := by
        unfold fieldSize
        omega
      rw [List.map_cons, List.map_cons, List.sum_cons, List.sum_cons] at ih ⊢
      omega

/-- The true bound: one field with nothing but commas makes the most entries. -/
theorem size_le_sub (h : d.decode fields = .ok (v, next)) (hlimit : d.limit.toNat < 2 ^ 64 - 1) :
    v.size ≤ max 1 (d.limit.toNat - 35) := by
  have hentries := size_le_entryCount h
  have hmost := sum_entryCount_le fields
  have hsize := sum_fieldSize_le h hlimit
  omega

theorem tabled_shortestBinary (side : Side) : side.Tabled shortestBinary := by
  cases side <;> decide

/-- Between commas there is nothing, which is the text of no bytes. -/
theorem not_refuses_commas (count : Nat) (e : HeaderError) :
    ¬ HeaderError.Refuses shortestBinary (List.replicate count 0x2C) e := by
  intro h
  cases h with
  | name upper => exact absurd upper (by decide)
  | @value before wire after fault _ _ parts _ malformed =>
    have hwire : wire ∈ (List.replicate count 0x2C).splitOn 0x2C := by simp [parts]
    rw [eq_nil_of_mem_splitOn_replicate hwire] at malformed
    cases malformed

theorem exists_add_commas (v : HeaderView side) (count : Nat) :
    ∃ w, v.add shortestBinary (List.replicate count 0x2C) = .ok w := by
  rw [HeaderView.add_of_tabled (tabled_shortestBinary side)]
  cases hadd : v.table.add shortestBinary (List.replicate count 0x2C) with
  | ok t => exact ⟨{ v with table := t }, rfl⟩
  | error e => exact absurd (HeaderTable.add_eq_error_iff.mp hadd) (not_refuses_commas count e)

/-- A list of one field reaches the true bound. -/
theorem exists_decode_commas (d : HeaderDecoder side) (hlimit : 36 ≤ d.limit.toNat) :
    ∃ (fields : List (Bytes × Bytes)) (v : HeaderView side) (next : HeaderDecoder side),
      d.decode fields = .ok (v, next) ∧ fields.length = 1 ∧ v.size = d.limit.toNat - 35 := by
  let value : Bytes := List.replicate (d.limit.toNat - 36) 0x2C
  obtain ⟨v, hadd⟩ := exists_add_commas d.start (d.limit.toNat - 36)
  have hall : d.start.addAll [(shortestBinary, value)] = .ok v :=
    (HeaderView.addAll_cons_eq_ok_iff _).mpr ⟨v, hadd, rfl⟩
  have hvalue : value.length = d.limit.toNat - 36 := List.length_replicate
  have hsize : listSize [(shortestBinary, value)] ≤ d.limit.toNat := by
    have hname : shortestBinary.length = 4 := rfl
    simp only [listSize, List.map_cons, List.map_nil, List.sum_cons, List.sum_nil, hname, hvalue]
    omega
  have hdecode := decode_of_addAll hall hsize
  refine ⟨_, v, _, hdecode, rfl, ?_⟩
  have hcount := size_add_replaced hdecode
  have hkept : replaced side [(shortestBinary, value)] = 0 := by
    have hone : List.countP (side.hoisted? ·.1 = some .te) [(shortestBinary, value)] ≤ 1 :=
      List.countP_le_length
    unfold replaced
    omega
  have hcommas : commas [(shortestBinary, value)] = d.limit.toNat - 36 := by
    have hbinary : Bytes.ofString "-bin" <:+ shortestBinary := by decide +kernel
    simp only [commas, List.map_cons, List.map_nil, List.sum_cons, List.sum_nil, hbinary, if_true]
    exact List.count_replicate_self
  rw [hkept, hcommas, List.length_singleton] at hcount
  omega

/-- Just the smallest limits bound the entries of all lists. -/
theorem forall_size_le_iff (d : HeaderDecoder side) :
    (∀ fields v next, d.decode fields = .ok (v, next) → v.size ≤ maxEntries d.limit) ↔
      d.limit.toNat ≤ 36 := by
  constructor
  · intro hall
    by_contra hlarge
    obtain ⟨fields, v, next, hdecode, -, hsize⟩ := exists_decode_commas d (by omega)
    have hbound := hall fields v next hdecode
    unfold maxEntries fieldOverhead at hbound
    omega
  · intro hsmall fields v next hdecode
    have hsize := size_le_sub hdecode (by omega)
    unfold maxEntries
    omega

end Extremes

/-- How many entries a list has is told by its fields, their commas and the values of `te` that were
replaced, and so is whether the limit divided among fields without text bounds their number. It does
where binary values are without commas. Where they are not, a list of one field may have as many
entries as the limit has bytes, less 35, so that only limits up to 36 bound the entries of all lists. -/
theorem size_le_maxEntries_iff (d : HeaderDecoder side) :
    (∀ fields v next, d.decode fields = .ok (v, next) →
      (v.size ≤ maxEntries d.limit ↔
        fields.length + commas fields ≤ maxEntries d.limit + replaced side fields) ∧
      (d.limit.toNat < 2 ^ 64 - 1 →
        ((∀ field ∈ fields, Bytes.ofString "-bin" <:+ field.1 → 0x2C ∉ field.2) →
          v.size ≤ maxEntries d.limit) ∧
        v.size ≤ max 1 (d.limit.toNat - 35))) ∧
    ((∀ fields v next, d.decode fields = .ok (v, next) → v.size ≤ maxEntries d.limit) ↔
      d.limit.toNat ≤ 36) ∧
    (36 ≤ d.limit.toNat → ∃ fields v next, d.decode fields = .ok (v, next) ∧
      fields.length = 1 ∧ v.size = d.limit.toNat - 35) := by
  refine ⟨fun fields v next h => ⟨?_, fun hlimit => ⟨size_le_of_no_commas h hlimit,
    size_le_sub h hlimit⟩⟩, forall_size_le_iff d, exists_decode_commas d⟩
  have hcount := size_add_replaced h
  constructor <;> intro hle <;> omega

/-- Under the limit 64 there is room for two fields at the most, but `,,` under `x-bin` becomes three
entries. -/
theorem size_exceeds_maxEntries :
    let d : HeaderDecoder .request := ofLimits ⟨64, 1⟩
    let fields : List (Bytes × Bytes) := [([0x78, 0x2D, 0x62, 0x69, 0x6E], [0x2C, 0x2C])]
    maxEntries d.limit = 2 ∧ (d.decode fields).map (fun result => result.1.size) = .ok 3 := by
  decide +kernel

end HeaderDecoder
end SecureChannel
