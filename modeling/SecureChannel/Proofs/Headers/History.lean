import SecureChannel.Proofs.Headers.Decoding

/-! Decoders along a connection. What a decoder has read before decides how much room the next list
gets, never what the list means, and a list that was refused leaves no trace. -/
namespace SecureChannel

namespace HeaderTable

variable {t u : HeaderTable} {l : List HeaderEntry}

/-- The even slots hold names and the odd ones values, so all of them are told by the list. -/
theorem Holds.slots_getElem? (ht : t.Holds l) (hu : u.Holds l) (hcap : t.capacity = u.capacity)
    (k : Nat) : t.slots[k]? = u.slots[k]? := by
  have hts := ht.filled.size
  have hus := hu.filled.size
  by_cases hk : k < 2 * t.capacity
  · have hhalf : k / 2 < t.capacity := by omega
    have hhalf' : k / 2 < u.capacity := by omega
    rcases Nat.mod_two_eq_zero_or_one k with heven | hodd
    · have hname : k = 2 * (k / 2) := by omega
      rw [hname, ht.filled.names _ hhalf, hu.filled.names _ hhalf']
    · have hvalue : k = 2 * (k / 2) + 1 := by omega
      rw [hvalue, ht.filled.values _ hhalf, hu.filled.values _ hhalf']
  · rw [Array.getElem?_eq_none (by omega), Array.getElem?_eq_none (by omega)]

/-- Tables of one list and of the same room are the same. -/
theorem Holds.eq_of_capacity (ht : t.Holds l) (hu : u.Holds l) (hcap : t.capacity = u.capacity) :
    t = u := by
  have hslots : t.slots = u.slots := Array.ext_getElem? (ht.slots_getElem? hu hcap)
  have hwires : t.wires = u.wires := by
    apply Array.ext_getElem?
    intro k
    by_cases hk : k < t.capacity
    · rw [ht.filled.wires k hk, hu.filled.wires k (hcap ▸ hk)]
    · have htw := size_wires t
      have huw := size_wires u
      rw [Array.getElem?_eq_none (by omega), Array.getElem?_eq_none (by omega)]
  have hlength : t.length = u.length := ht.length.trans hu.length.symm
  cases t
  cases u
  simp_all

end HeaderTable

namespace HeaderView

variable {side : Side} {v w : HeaderView side}

theorem Alike.toList_eq (h : v.Alike w) : v.toList = w.toList := by
  obtain ⟨l, hv, hw⟩ := h.entries
  have hfilled : v.filled = w.filled := by simp only [filled, h.slots]
  rw [toList, toList, hfilled, hv.table.toList, hw.table.toList]

theorem Alike.size_eq (h : v.Alike w) : v.size = w.size := by
  obtain ⟨l, hv, hw⟩ := h.entries
  have hfilled : v.filled = w.filled := by simp only [filled, h.slots]
  rw [HeaderView.size_eq, HeaderView.size_eq, hfilled, hv.table.length, hw.table.length]

theorem Alike.display_eq (h : v.Alike w) : v.display = w.display := by
  rw [display, display, h.toList_eq]

theorem Alike.getAll_eq (h : v.Alike w) (name : Bytes) : v.getAll name = w.getAll name := by
  obtain ⟨l, hv, hw⟩ := h.entries
  unfold getAll
  cases side.hoisted? name with
  | some k => simp only [h.slots]
  | none => simp only [hv.table.getAll, hw.table.getAll]

/-- Nothing but the room of their tables tells such views apart. -/
theorem Alike.eq_of_capacity (h : v.Alike w) (hcap : v.table.capacity = w.table.capacity) :
    v = w := by
  obtain ⟨l, hv, hw⟩ := h.entries
  have hslots := h.slots
  have htable := hv.table.eq_of_capacity hw.table hcap
  cases v
  cases w
  simp_all

end HeaderView

/-- What a connection asks of its decoder. -/
inductive DecoderCall
  | decode (fields : List (Bytes × Bytes))
  | setLimit (limit : UInt64)

inductive DecoderAnswer (side : Side)
  | view (v : HeaderView side)
  | refused (e : HeaderError)
  | done

/-- All that is seen of a decoder once it has answered. -/
structure DecoderReport (side : Side) where
  answer : DecoderAnswer side
  guess : Nat
  limit : UInt64

namespace HeaderDecoder

variable {side : Side} {d d' : HeaderDecoder side} {fields : List (Bytes × Bytes)}
  {v : HeaderView side} {e : HeaderError} {c : DecoderCall}

def call (d : HeaderDecoder side) : DecoderCall → DecoderAnswer side × HeaderDecoder side
  | .decode fields =>
    match d.decodeStep fields with
    | (.ok view, next) => (.view view, next)
    | (.error e, next) => (.refused e, next)
  | .setLimit limit => (.done, d.setLimit limit)

def run (d : HeaderDecoder side) (calls : List DecoderCall) : HeaderDecoder side :=
  calls.foldl (fun d c => (d.call c).2) d

def report (d : HeaderDecoder side) (c : DecoderCall) : DecoderReport side :=
  ⟨(d.call c).1, (d.call c).2.guess, (d.call c).2.limit⟩

/-- What is seen of a decoder along calls. -/
def reports (d : HeaderDecoder side) : List DecoderCall → List (DecoderReport side)
  | [] => []
  | c :: calls => d.report c :: (d.call c).2.reports calls

section Outcomes

theorem decodeStep_eq_error_iff :
    (d.decodeStep fields).1 = .error e ↔ d.decode fields = .error e := by
  rw [decodeStep_eq]
  cases d.decode fields <;> simp

theorem decodeStep_eq_ok_iff :
    (d.decodeStep fields).1 = .ok v ↔ ∃ next, d.decode fields = .ok (v, next) := by
  rw [decodeStep_eq]
  cases d.decode fields with
  | error e => simp
  | ok result => simp [Prod.ext_iff]

theorem decodeStep_of_refused (h : (d.decodeStep fields).1 = .error e) :
    (d.decodeStep fields).2 = d := by
  rw [decodeStep_eq, decodeStep_eq_error_iff.mp h]

end Outcomes

section Refusals

theorem call_of_refused (h : (d.call c).1 = .refused e) : (d.call c).2 = d := by
  cases c with
  | setLimit limit => cases h
  | decode fields =>
    simp only [call, decodeStep_eq] at h ⊢
    cases hdecode : d.decode fields with
    | error e' => rfl
    | ok result => simp [hdecode] at h

/-- A refused list may as well not have come. -/
theorem reports_eraseIdx (d : HeaderDecoder side) (calls : List DecoderCall) (i : Nat)
    (h : (d.reports calls)[i]?.map (·.answer) = some (.refused e)) :
    d.reports (calls.eraseIdx i) = (d.reports calls).eraseIdx i ∧
      d.run (calls.eraseIdx i) = d.run calls := by
  induction calls generalizing d i with
  | nil => exact ⟨rfl, rfl⟩
  | cons c calls ih =>
    cases i with
    | zero =>
      have hrefused : (d.call c).1 = .refused e := by simpa [reports, report] using h
      have hsame := call_of_refused hrefused
      constructor
      · simp only [reports, List.eraseIdx_cons_zero, hsame]
      · simp only [run, List.eraseIdx_cons_zero, List.foldl_cons, hsame]
    | succ i =>
      obtain ⟨hreports, hrun⟩ := ih (d.call c).2 i (by simpa [reports] using h)
      constructor
      · simp only [reports, List.eraseIdx_cons_succ, hreports]
      · exact hrun

end Refusals

section Histories

/-- Where views hold the same headers, the same field stops a list. -/
theorem stops_iff_of_alike {limit : UInt64} {v w : HeaderView side} {i : Nat} (h : v.Alike w) :
    Stops limit v fields i e ↔ Stops limit w fields i e := by
  constructor
  · intro hstop
    cases hstop with
    | exceeds hlarge => exact .exceeds hlarge
    | refused hfits hrefused => exact .refused hfits (hrefused.of_alike h)
  · intro hstop
    cases hstop with
    | exceeds hlarge => exact .exceeds hlarge
    | refused hfits hrefused => exact .refused hfits (hrefused.of_alike h.symm)

theorem decode_error_iff_of_limit (h : d.limit = d'.limit) :
    d.decode fields = .error e ↔ d'.decode fields = .error e := by
  have hstart : d.start.Alike d'.start := HeaderView.alike_withCapacity ..
  rw [decode_eq_error_iff, decode_eq_error_iff, h]
  simp only [stops_iff_of_alike hstart]

/-- Decoders with the same limit give the same meaning to a list, whatever they have read before. A
list that is refused changes nothing in a decoder, so it can be left out of what was read. -/
theorem decode_forgets_history (d d' : HeaderDecoder side) (calls calls' : List DecoderCall)
    (h : (d.run calls).limit = (d'.run calls').limit) (fields : List (Bytes × Bytes)) :
    (∀ e, ((d.run calls).decodeStep fields).1 = .error e ↔
      ((d'.run calls').decodeStep fields).1 = .error e) ∧
    (∀ v, ((d.run calls).decodeStep fields).1 = .ok v →
      ∃ v', ((d'.run calls').decodeStep fields).1 = .ok v' ∧ v.Alike v' ∧
        v.toList = v'.toList ∧ v.size = v'.size ∧ v.display = v'.display ∧
        (∀ name, v.getAll name = v'.getAll name) ∧
        (v.table.capacity = v'.table.capacity → v = v')) ∧
    (∀ e, ((d.run calls).decodeStep fields).1 = .error e →
      ((d.run calls).decodeStep fields).2 = d.run calls) ∧
    ∀ i e, (d.reports calls)[i]?.map (·.answer) = some (.refused e) →
      d.reports (calls.eraseIdx i) = (d.reports calls).eraseIdx i ∧
        d.run (calls.eraseIdx i) = d.run calls := by
  refine ⟨fun e => ?_, fun v hv => ?_, fun e => decodeStep_of_refused,
    fun i e => reports_eraseIdx d calls i⟩
  · rw [decodeStep_eq_error_iff, decodeStep_eq_error_iff]
    exact decode_error_iff_of_limit h
  · have hle : (d.run calls).limit ≤ (d'.run calls').limit :=
      UInt64.le_iff_toNat_le.mpr (Nat.le_of_eq (congrArg UInt64.toNat h))
    obtain ⟨next, hdecode⟩ := decodeStep_eq_ok_iff.mp hv
    obtain ⟨v', next', hdecode', halike⟩ := decode_of_le hle hdecode
    exact ⟨v', decodeStep_eq_ok_iff.mpr ⟨next', hdecode'⟩, halike, halike.toList_eq,
      halike.size_eq, halike.display_eq, halike.getAll_eq, halike.eq_of_capacity⟩

/-- The one decoder has refused a list and expects eight headers, the other one has a new limit and
expects one. Both find the same headers, in tables of different room. -/
theorem decode_forgets_history_of_limits :
    let d : HeaderDecoder .request := ofLimits ⟨8192, 8⟩
    let d' : HeaderDecoder .request := ofLimits ⟨64, 1⟩
    let calls := [DecoderCall.decode [([0x41], [])]]
    let calls' := [DecoderCall.setLimit 8192]
    let fields := [(Hoisted.path.headerName, [0x2F]), ([0x61], [0x31]), ([0x62], [0x32])]
    (d.run calls).limit = (d'.run calls').limit ∧
      (d.run calls).guess = 8 ∧ (d'.run calls').guess = 1 ∧
      d.run (calls.eraseIdx 0) = d.run calls ∧
      ∃ v v', ((d.run calls).decodeStep fields).1 = .ok v ∧
        ((d'.run calls').decodeStep fields).1 = .ok v' ∧ v.toList = fields ∧
        v.toList = v'.toList ∧ v.table.capacity = 8 ∧ v'.table.capacity = 2 := by
  intro d d' calls calls' fields
  have hlimit : (d.run calls).limit = (d'.run calls').limit := by decide +kernel
  obtain ⟨-, hok, -, hdelete⟩ := decode_forgets_history d d' calls calls' hlimit fields
  obtain ⟨v, hv, hfields, hroom⟩ : ∃ v, ((d.run calls).decodeStep fields).1 = .ok v ∧
      v.toList = fields ∧ v.table.capacity = 8 := ⟨_, rfl, by decide +kernel, by decide +kernel⟩
  obtain ⟨v', hv', -, hsame, -⟩ := hok v hv
  have hroom' : ((d'.run calls').decodeStep fields).1.map (·.table.capacity) = .ok 2 := by
    decide +kernel
  refine ⟨hlimit, by decide +kernel, by decide +kernel, (hdelete 0 (.invalidName [0x41]) rfl).2,
    v, v', hv, hv', hfields, hsame, hroom, ?_⟩
  rw [hv'] at hroom'
  exact Except.ok.inj hroom'

end Histories
end HeaderDecoder
end SecureChannel
