import SecureChannel.Proofs.Headers.Decoding
import SecureChannel.Proofs.Headers.Routing
import SecureChannel.Proofs.Text.Split

/-! Headers in the form in which they were received. Whatever the calls that led to a table or to a
view, its fields as received make up the same headers again. -/
namespace SecureChannel

namespace HeaderEntry

/-- The field of the entry as received is stored as just this entry. -/
structure Faithful (e : HeaderEntry) : Prop where
  lower : e.name.any Bytes.isUpper = false
  written : Written e.name e.wire [e]

variable {name value : Bytes} {entries l l' : List HeaderEntry}

/-- The parts of a binary value have no separators, so each of them is a value of one part. -/
theorem Written.faithful (h : Written name value entries) (lower : name.any Bytes.isUpper = false) :
    ∀ e ∈ entries, e.Faithful := by
  cases h with
  | plain hplain =>
    intro e he
    obtain rfl := List.mem_singleton.mp he
    exact ⟨lower, .plain hplain⟩
  | binary hbinary parts =>
    have hcommas : List.Forall₂ (fun wire e => (0x2C : UInt8) ∉ wire ∧
        e.name = name ∧ e.wire = wire ∧ Base64.decode wire = .ok e.value)
        (value.splitOn 0x2C) entries :=
      (List.forall₂_and_left _ _).mpr ⟨fun _ => not_mem_of_mem_splitOn, parts⟩
    refine forall_of_forall₂ hcommas.flip fun e wire h => ?_
    obtain ⟨hcomma, rfl, rfl, hvalue⟩ := h
    refine ⟨lower, .binary hbinary ?_⟩
    rw [List.splitOn_eq_singleton hcomma]
    exact .cons ⟨rfl, rfl, hvalue⟩ .nil

theorem lower_of_not_refuses (h : ∀ e, ¬ HeaderError.Refuses name value e) :
    name.any Bytes.isUpper = false := by
  cases hname : name.any Bytes.isUpper with
  | true => exact absurd (.name hname) (h _)
  | false => rfl

/-- What a call adds is faithful, and what it leaves is not changed. -/
theorem Effect.faithful {c : HeaderCall} {answer : HeaderAnswer} (h : Effect c l answer l')
    (hl : ∀ e ∈ l, e.Faithful) : ∀ e ∈ l', e.Faithful := by
  have hkept (name : Bytes) : ∀ e ∈ l.filter (·.name ≠ name), e.Faithful :=
    fun e he => hl e (List.mem_of_mem_filter he)
  cases h with
  | added sound hwritten =>
    have hnew := hwritten.faithful (lower_of_not_refuses sound)
    exact List.forall_mem_append.mpr ⟨hl, hnew⟩
  | replaced sound hwritten =>
    have hnew := hwritten.faithful (lower_of_not_refuses sound)
    exact List.forall_mem_append.mpr ⟨hkept _, hnew⟩
  | refused => exact hl
  | misnamed => exact hl
  | lost => exact hkept _
  | removed => exact hkept _

end HeaderEntry

namespace HeaderTable

variable {t : HeaderTable} {l m : List HeaderEntry}

/-- Adds fields in order, and stops at the first that is refused. -/
def addAll (t : HeaderTable) (fields : List (Bytes × Bytes)) : Except HeaderError HeaderTable :=
  fields.foldlM (fun t field => t.add field.1 field.2) t

theorem Holds.run_faithful (h : t.Holds l) (hl : ∀ e ∈ l, e.Faithful) (calls : List HeaderCall) :
    ∃ l', (t.run calls).Holds l' ∧ ∀ e ∈ l', e.Faithful := by
  induction calls generalizing t l with
  | nil => exact ⟨l, h, hl⟩
  | cons c calls ih =>
    obtain ⟨l', heffect, h'⟩ := h.call c
    exact ih h' (heffect.faithful hl)

/-- A table has only one list. -/
theorem Holds.unique (hl : t.Holds l) (hm : t.Holds m) : l = m := by
  have hlength : l.length = m.length := hl.length.symm.trans hm.length
  apply List.ext_getElem? fun i => ?_
  by_cases hi : i < t.capacity
  · have hname := (hl.filled.names i hi).symm.trans (hm.filled.names i hi)
    have hvalue := (hl.filled.values i hi).symm.trans (hm.filled.values i hi)
    have hwire := (hl.filled.wires i hi).symm.trans (hm.filled.wires i hi)
    cases hli : l[i]? with
    | none =>
      rw [List.getElem?_eq_none_iff, hlength] at hli
      exact (List.getElem?_eq_none hli).symm
    | some e =>
      obtain ⟨f, hmi⟩ : ∃ f, m[i]? = some f := by
        cases hmi : m[i]? with
        | none => simp [hli, hmi] at hname
        | some f => exact ⟨f, rfl⟩
      rw [hmi]
      rw [hli, hmi] at hname hvalue hwire
      cases e
      cases f
      simp_all
  · have hle := hl.length_le
    rw [List.getElem?_eq_none (by omega), List.getElem?_eq_none (by omega)]

theorem Holds.addAll_faithful (h : t.Holds m) (hl : ∀ e ∈ l, e.Faithful) :
    ∃ u, t.addAll (l.map fun e => (e.name, e.wire)) = .ok u ∧ u.Holds (m ++ l) := by
  induction l generalizing t m with
  | nil => exact ⟨t, rfl, by simpa using h⟩
  | cons e l ih =>
    have he := hl e List.mem_cons_self
    obtain ⟨u, hadd, hu⟩ := h.add_written he.lower he.written
    obtain ⟨w, hall, hw⟩ := ih hu fun f hf => hl f (List.mem_cons_of_mem e hf)
    refine ⟨w, ?_, by simpa using hw⟩
    rw [addAll, List.map_cons, List.foldlM_cons, hadd]
    exact hall

end HeaderTable

namespace HeaderView

variable {side : Side} {v w : HeaderView side} {l m : List HeaderEntry}

theorem addAll_append (v : HeaderView side) (fields fields' : List (Bytes × Bytes)) :
    v.addAll (fields ++ fields') = (v.addAll fields).bind fun w => w.addAll fields' := by
  rw [addAll, List.foldlM_append]
  rfl

/-- Such fields are for the table alone. -/
theorem addAll_of_tabled (v : HeaderView side) {fields : List (Bytes × Bytes)}
    (h : ∀ field ∈ fields, side.Tabled field.1) :
    v.addAll fields = (v.table.addAll fields).map ({ v with table := · }) := by
  induction fields generalizing v with
  | nil => rfl
  | cons field fields ih =>
    rw [addAll, HeaderTable.addAll, List.foldlM_cons, List.foldlM_cons,
      add_of_tabled (h field List.mem_cons_self)]
    cases v.table.add field.1 field.2 with
    | error e => rfl
    | ok t => exact ih { v with table := t } fun f hf => h f (List.mem_cons_of_mem field hf)

/-- The headers of places, each for its own name, fill these places where they are free. -/
theorem addAll_places (v : HeaderView side) (held : Hoisted → Option Bytes) (places : List Hoisted)
    (hplaces : ∀ k ∈ places, side.hoisted? k.headerName = some k)
    (hfree : ∀ k ∈ places, v.slots k = none) (hnodup : places.Nodup) :
    v.addAll (places.filterMap fun k => (held k).map fun value => (k.headerName, value)) =
      .ok { v with slots := fun k => if k ∈ places then held k else v.slots k } := by
  induction places generalizing v with
  | nil => simp [addAll, pure, Except.pure]
  | cons k places ih =>
    obtain ⟨hk, hrest⟩ := List.nodup_cons.mp hnodup
    have hplaces' := fun j hj => hplaces j (List.mem_cons_of_mem k hj)
    have hfree' : ∀ j ∈ places, (v.setSlot k (held k)).slots j = none := by
      intro j hj
      rw [slots_setSlot_of_ne v (ne_of_mem_of_not_mem hj hk)]
      exact hfree j (List.mem_cons_of_mem k hj)
    have hslots : (fun j => if j ∈ places then held j else (v.setSlot k (held k)).slots j) =
        fun j => if j ∈ k :: places then held j else v.slots j := by
      funext j
      by_cases hj : j = k
      · subst hj
        simp [hk]
      · simp [hj, slots_setSlot_of_ne v hj]
    have hstep : v.addAll ((k :: places).filterMap fun k =>
          (held k).map fun value => (k.headerName, value)) =
        (v.setSlot k (held k)).addAll (places.filterMap fun k =>
          (held k).map fun value => (k.headerName, value)) := by
      cases hheld : held k with
      | none =>
        rw [← hfree k List.mem_cons_self, setSlot_self, List.filterMap_cons_none (by simp [hheld])]
      | some value =>
        rw [List.filterMap_cons_some (by simp [hheld]; rfl), addAll, List.foldlM_cons,
          add_of_hoisted (hplaces k List.mem_cons_self),
          if_neg (by simp [hfree k List.mem_cons_self])]
        rfl
    rw [hstep, ih _ hplaces' hfree' hrest, hslots]
    rfl

/-- Only requests have places. -/
theorem addAll_filled (v : HeaderView side) (hslots : side = .response → v.slots = fun _ => none)
    (guess : Nat) :
    (withCapacity guess).addAll v.filled =
      .ok (⟨v.slots, .withCapacity guess⟩ : HeaderView side) := by
  cases side with
  | request =>
    have hall (k : Hoisted) : k ∈ Hoisted.all := by cases k <;> decide
    have hplaced := addAll_places (withCapacity guess) v.slots Hoisted.all
      (fun k _ => Side.hoisted?_headerName k) (fun k _ => rfl) (by decide)
    simp only [hall, if_true] at hplaced
    exact hplaced
  | response =>
    have hfilled : v.filled = [] := by
      rw [filled, hslots rfl]
      rfl
    rw [hfilled, hslots rfl]
    rfl

theorem Holds.addAll_toList (h : v.Holds l) (hl : ∀ e ∈ l, e.Faithful)
    (hslots : side = .response → v.slots = fun _ => none) (guess : Nat) :
    ∃ w, (withCapacity guess : HeaderView side).addAll v.toList = .ok w ∧ v.Alike w := by
  have hempty := HeaderTable.holds_withCapacity guess
  obtain ⟨t, htable, ht⟩ := hempty.addAll_faithful hl
  have htabled : ∀ field ∈ l.map (fun e => (e.name, e.wire)), side.Tabled field.1 := by
    intro field hfield
    obtain ⟨e, he, rfl⟩ := List.mem_map.mp hfield
    exact h.tabled e he
  refine ⟨⟨v.slots, t⟩, ?_, rfl, l, h, ht, h.tabled⟩
  rw [toList, h.table.toList, addAll_append, addAll_filled v hslots]
  simp only [Except.bind]
  rw [addAll_of_tabled _ htabled, htable]
  rfl

theorem run_faithful (guess : Nat) (calls : List HeaderCall) :
    ∃ l, ((withCapacity guess : HeaderView side).run calls).Holds l ∧ ∀ e ∈ l, e.Faithful := by
  have hnew := @holds_withCapacity side guess
  obtain ⟨l, h⟩ := hnew.run calls
  obtain ⟨l', htable, hfaithful⟩ := hnew.table.run_faithful (by simp)
    (calls.filter (side.Tabled ·.name))
  rw [← hnew.run_table calls] at htable
  obtain rfl := h.table.unique htable
  exact ⟨l, h, hfaithful⟩

theorem slots_run_response (guess : Nat) (calls : List HeaderCall) :
    ((withCapacity guess : HeaderView .response).run calls).slots = fun _ => none :=
  slots_run_of_tabled _ fun _ _ => Side.tabled_response

end HeaderView

namespace HeaderDecoder

variable {side : Side} {v w : HeaderView side} {fields : List (Bytes × Bytes)} {limit : UInt64}

theorem listSize_take_le (fields : List (Bytes × Bytes)) (i : Nat) :
    listSize (fields.take i) ≤ listSize fields := by
  have hsum :
      ((fields.take i).map fun field => field.1.length + field.2.length + 32).sum ≤
      (fields.map fun field => field.1.length + field.2.length + 32).sum := by
    conv_rhs => rw [← List.take_append_drop i fields, List.map_append, List.sum_append]
    exact Nat.le_add_right _ _
  unfold listSize
  omega

theorem not_refused_of_addAll (h : v.addAll fields = .ok w) (i : Nat) (e : HeaderError) :
    ¬ Refused v fields i e := by
  rintro ⟨u, name, value, hfield, hbuilt, hadd⟩
  obtain ⟨hi, hget⟩ := List.getElem?_eq_some_iff.mp hfield
  rw [← List.take_append_drop i fields, List.drop_eq_getElem_cons hi, hget,
    HeaderView.addAll_append, hbuilt] at h
  simp [HeaderView.addAll, hadd, Except.bind, bind] at h

/-- A list that fits and that a view takes is decoded to this view. -/
theorem decode_of_addAll {d : HeaderDecoder side} (h : d.start.addAll fields = .ok w)
    (hsize : listSize fields ≤ d.limit.toNat) : d.decode fields = .ok (w, d.learn w.size) := by
  refine decode_eq_ok_iff.mpr ⟨h, rfl, fun i e hstop => ?_⟩
  cases hstop with
  | exceeds hlarge =>
    have hle := listSize_take_le fields (i + 1)
    have hlt := hlarge.2
    omega
  | refused _ hrefused => exact not_refused_of_addAll h i e hrefused

end HeaderDecoder

namespace HeaderView

/-- In every state that calls lead to, the fields of a table or of a view as received are taken by a
new one, and by every decoder that they fit. They become the same headers there: the same slots and
the same entries in the same order. -/
theorem toList_makes_same_headers (guess : Nat) (calls : List HeaderCall) :
    (let t := (HeaderTable.withCapacity guess).run calls
      ∃ l, t.Holds l ∧
        ∀ guess', ∃ u, (HeaderTable.withCapacity guess').addAll t.toList = .ok u ∧ u.Holds l) ∧
    ∀ side,
      let v : HeaderView side := (withCapacity guess).run calls
      (∀ guess', ∃ w, (withCapacity guess').addAll v.toList = .ok w ∧ v.Alike w) ∧
      ∀ d : HeaderDecoder side,
        (v.toList.map fun field => field.1.length + field.2.length + 32).sum ≤ d.limit.toNat →
          ∃ w next, d.decode v.toList = .ok (w, next) ∧ v.Alike w := by
  constructor
  · intro t
    obtain ⟨l, h, hl⟩ := (HeaderTable.holds_withCapacity guess).run_faithful (by simp) calls
    have htable : t.toList = l.map fun e => (e.name, e.wire) := h.toList
    refine ⟨l, h, fun guess' => ?_⟩
    rw [htable]
    exact (HeaderTable.holds_withCapacity guess').addAll_faithful hl
  · intro side v
    obtain ⟨l, h, hl⟩ := @run_faithful side guess calls
    have hslots : side = .response → v.slots = fun _ => none := by
      rintro rfl
      exact slots_run_response guess calls
    refine ⟨h.addAll_toList hl hslots, fun d hfits => ?_⟩
    obtain ⟨w, hbuilt, halike⟩ := h.addAll_toList hl hslots d.guess
    have hsize : HeaderDecoder.listSize v.toList ≤ d.limit.toNat :=
      Nat.le_trans (Nat.min_le_right _ _) hfits
    exact ⟨w, _, HeaderDecoder.decode_of_addAll hbuilt hsize, halike⟩

/-- The limit is just the size of the list. The value `AQ==,Aw` of `x-bin` has become two fields, and
`te` was replaced. -/
theorem toList_makes_same_headers_at_limit :
    let xBin : Bytes := [0x78, 0x2D, 0x62, 0x69, 0x6E]
    let te := Hoisted.te.headerName
    let v : HeaderView .request := (withCapacity 1).run
      [.add xBin [0x41, 0x51, 0x3D, 0x3D, 0x2C, 0x41, 0x77], .add te [0x61], .add [0x61] [0x31],
        .set [0x41] [0x32], .add te [0x62], .remove [0x61]]
    let d : HeaderDecoder .request := HeaderDecoder.ofLimits ⟨115, 1⟩
    v.toList = [(te, [0x62]), (xBin, [0x41, 0x51, 0x3D, 0x3D]), (xBin, [0x41, 0x77])] ∧
      (v.toList.map fun field => field.1.length + field.2.length + 32).sum = d.limit.toNat ∧
      ∃ w next, d.decode v.toList = .ok (w, next) ∧ v.Alike w := by
  intro xBin te v d
  have hsize : (v.toList.map fun field => field.1.length + field.2.length + 32).sum =
      d.limit.toNat := by decide +kernel
  have hviews := toList_makes_same_headers 1
    [.add xBin [0x41, 0x51, 0x3D, 0x3D, 0x2C, 0x41, 0x77], .add te [0x61], .add [0x61] [0x31],
      .set [0x41] [0x32], .add te [0x62], .remove [0x61]]
  exact ⟨by decide +kernel, hsize, (hviews.2 .request).2 d (Nat.le_of_eq hsize)⟩

end HeaderView
end SecureChannel
