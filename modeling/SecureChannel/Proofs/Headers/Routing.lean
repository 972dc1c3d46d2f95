import SecureChannel.Proofs.Headers.Replacement

/-! Where the calls on a view go. A view is a plain table beside places for single values. The table
and each place see the calls for their own names, and no others. -/
namespace SecureChannel

/-- The name that a call is about. -/
def HeaderCall.name : HeaderCall → Bytes
  | .add name _ => name
  | .set name _ => name
  | .remove name => name

/-- The answer where no place and no table takes the name. -/
def HeaderCall.rejection : HeaderCall → HeaderAnswer
  | .remove _ => .removed false
  | .add name _ | .set name _ =>
    .refused (if name.any Bytes.isUpper then .invalidName name else .illegalPseudoHeader name)

namespace Hoisted

/-- A place for one value under calls for its name. A pseudo-header must find it empty, and `te`
replaces what it finds. -/
def call (k : Hoisted) (held : Option Bytes) : HeaderCall → HeaderAnswer × Option Bytes
  | .add name value =>
    if k ≠ .te ∧ held.isSome then (.refused (.duplicatePseudoHeader name), held)
    else (.done, some value)
  | .set _ value => (.done, some value)
  | .remove _ => (.removed held.isSome, none)

def run (k : Hoisted) (held : Option Bytes) (calls : List HeaderCall) : Option Bytes :=
  calls.foldl (fun held c => (k.call held c).2) held

end Hoisted

/-- Names that are neither pseudo-headers nor `te`. -/
def HeaderName.isOrdinary (name : Bytes) : Bool :=
  name.head? != some 0x3A && name != Hoisted.te.headerName

namespace Side

variable {side : Side} {name : Bytes}

instance (side : Side) : DecidablePred side.Tabled :=
  fun name => inferInstanceAs (Decidable (side.hoisted? name = none ∧ _))

theorem hoisted?_headerName (k : Hoisted) : Side.request.hoisted? k.headerName = some k := by
  cases k <;> decide +kernel

theorem hoisted?_request_eq_none_iff :
    Side.request.hoisted? name = none ↔ ∀ k : Hoisted, name ≠ k.headerName := by
  constructor
  · intro h k hname
    rw [hname, hoisted?_headerName] at h
    cases h
  · intro h
    cases hk : Side.request.hoisted? name with
    | none => rfl
    | some k => exact absurd (hoisted?_eq_some hk).2 (h k)

theorem head?_headerName (k : Hoisted) : k.headerName.head? = some 0x3A ↔ k ≠ .te := by
  cases k <;> decide +kernel

theorem tabled_request_iff : Side.request.Tabled name ↔ HeaderName.isOrdinary name = true := by
  have hordinary : HeaderName.isOrdinary name = true ↔
      name.head? ≠ some 0x3A ∧ name ≠ Hoisted.te.headerName := by
    simp [HeaderName.isOrdinary]
  rw [hordinary, Tabled, hoisted?_request_eq_none_iff]
  constructor
  · intro h
    exact ⟨fun hpseudo => h.2 ⟨rfl, hpseudo⟩, h.1 .te⟩
  · intro h
    refine ⟨fun k hk => ?_, by simp [h.1]⟩
    by_cases hte : k = .te
    · exact h.2 (hte ▸ hk)
    · have hpseudo := (head?_headerName k).mpr hte
      exact h.1 (hk ▸ hpseudo)

theorem tabled_response : Side.response.Tabled name := ⟨rfl, by simp⟩

end Side

namespace HeaderView

section Calls

variable {side : Side} {v : HeaderView side} {l : List HeaderEntry} {name : Bytes} {c : HeaderCall}
  {k : Hoisted}

theorem slots_setSlot_of_ne (v : HeaderView side) {j : Hoisted} (h : j ≠ k) (value : Option Bytes) :
    (v.setSlot k value).slots j = v.slots j := by
  simp [setSlot, h]

@[simp] theorem setSlot_setSlot (v : HeaderView side) (k : Hoisted) (a b : Option Bytes) :
    (v.setSlot k a).setSlot k b = v.setSlot k b := by
  simp only [setSlot, mk.injEq, and_true]
  funext j
  split <;> rfl

@[simp] theorem setSlot_self (v : HeaderView side) (k : Hoisted) : v.setSlot k (v.slots k) = v := by
  obtain ⟨slots, table⟩ := v
  simp only [setSlot, mk.injEq, and_true]
  funext j
  split
  · rename_i h
    rw [h]
  · rfl

theorem call_of_tabled (h : side.Tabled c.name) :
    v.call c = ((v.table.call c).1, { v with table := (v.table.call c).2 }) := by
  cases c with
  | add name value =>
    rw [HeaderCall.name] at h
    rw [call_add, HeaderTable.call_add, add_of_tabled h]
    cases v.table.add name value <;> rfl
  | set name value =>
    rw [HeaderCall.name] at h
    simp only [HeaderView.call, HeaderTable.call, set_of_tabled h]
    cases hset : v.table.set name value with
    | mk result u => cases result <;> rfl
  | remove name =>
    rw [HeaderCall.name] at h
    simp only [HeaderView.call, HeaderTable.call, HeaderView.erase, h.1]

theorem call_of_hoisted (h : side.hoisted? c.name = some k) :
    v.call c = ((k.call (v.slots k) c).1, v.setSlot k (k.call (v.slots k) c).2) := by
  cases c with
  | add name value =>
    rw [HeaderCall.name] at h
    have hpseudo : name.head? = some 0x3A ↔ k ≠ .te := by
      rw [(Side.hoisted?_eq_some h).2, Side.head?_headerName]
    simp only [call_add, Hoisted.call, add_of_hoisted h, hpseudo]
    by_cases htaken : k ≠ .te ∧ (v.slots k).isSome
    · simp only [if_pos htaken, setSlot_self]
    · simp only [if_neg htaken]
  | set name value =>
    rw [HeaderCall.name] at h
    simp only [HeaderView.call, Hoisted.call, set_of_hoisted h, setSlot_setSlot]
  | remove name =>
    rw [HeaderCall.name] at h
    simp only [HeaderView.call, Hoisted.call, HeaderView.erase, h]

/-- Such a name is never found in the table either. -/
theorem Holds.call_of_rejected (h : v.Holds l) (hoisted : side.hoisted? c.name = none)
    (hname : ¬ side.Tabled c.name) : v.call c = (c.rejection, v) := by
  have hpseudo : side = .request ∧ c.name.head? = some 0x3A := by
    by_contra hplain
    exact hname ⟨hoisted, hplain⟩
  have hremove := h.remove_of_not_tabled hoisted hname
  have hadd (value : Bytes) : v.add c.name value =
      .error (if c.name.any Bytes.isUpper then .invalidName c.name
        else .illegalPseudoHeader c.name) := by
    cases hcase : c.name.any Bytes.isUpper with
    | true => exact add_of_upper hcase
    | false => exact add_of_illegal hcase hoisted hpseudo
  cases c with
  | add name value =>
    rw [HeaderCall.name] at hadd
    simp only [call_add, HeaderCall.rejection, hadd value]
  | set name value =>
    rw [HeaderCall.name] at hadd hremove
    cases hcase : name.any Bytes.isUpper with
    | true => simp only [HeaderView.call, HeaderCall.rejection, set_of_upper hcase, hcase, if_true]
    | false =>
      simp only [HeaderView.call, HeaderCall.rejection, set_of_lower hcase, hremove, hadd value]
  | remove name =>
    have habsent : v.table.contains name = false := by
      rw [h.table.contains, List.any_eq_false]
      intro e he heq
      exact hname (of_decide_eq_true heq ▸ h.tabled e he)
    rw [HeaderCall.name] at hoisted
    simp only [HeaderView.call, HeaderCall.rejection, HeaderView.erase, hoisted,
      HeaderTable.erase_of_not_contains habsent]

/-- A call for another name does not reach the table. -/
theorem Holds.table_call (h : v.Holds l) (hname : ¬ side.Tabled c.name) :
    (v.call c).2.table = v.table := by
  cases hoisted : side.hoisted? c.name with
  | some k => rw [call_of_hoisted hoisted, table_setSlot]
  | none => rw [h.call_of_rejected hoisted hname]

/-- A call for another name does not reach a place. -/
theorem Holds.slots_call (h : v.Holds l) (hname : c.name ≠ k.headerName) :
    (v.call c).2.slots k = v.slots k := by
  by_cases htabled : side.Tabled c.name
  · rw [call_of_tabled htabled]
  · cases hoisted : side.hoisted? c.name with
    | none => rw [h.call_of_rejected hoisted htabled]
    | some j =>
      have hj : k ≠ j := by
        rintro rfl
        exact hname (Side.hoisted?_eq_some hoisted).2
      rw [call_of_hoisted hoisted, slots_setSlot_of_ne v hj]

end Calls

section Runs

variable {side : Side} {v : HeaderView side} {l : List HeaderEntry}

theorem Holds.run_table (h : v.Holds l) (calls : List HeaderCall) :
    (v.run calls).table = v.table.run (calls.filter (side.Tabled ·.name)) := by
  induction calls generalizing v l with
  | nil => rfl
  | cons c calls ih =>
    obtain ⟨l', h'⟩ := h.call c
    have hrest : (v.run (c :: calls)).table =
        (v.call c).2.table.run (calls.filter (side.Tabled ·.name)) := ih h'
    by_cases hname : side.Tabled c.name
    · rw [hrest, call_of_tabled hname, List.filter_cons_of_pos (by simpa using hname)]
      rfl
    · rw [hrest, h.table_call hname, List.filter_cons_of_neg (by simpa using hname)]

theorem Holds.run_slots (h : v.Holds l) {k : Hoisted} (hk : side.hoisted? k.headerName = some k)
    (calls : List HeaderCall) :
    (v.run calls).slots k = k.run (v.slots k) (calls.filter (·.name = k.headerName)) := by
  induction calls generalizing v l with
  | nil => rfl
  | cons c calls ih =>
    obtain ⟨l', h'⟩ := h.call c
    have hrest : (v.run (c :: calls)).slots k =
        k.run ((v.call c).2.slots k) (calls.filter (·.name = k.headerName)) := ih h'
    by_cases hname : c.name = k.headerName
    · have hslot : (v.call c).2.slots k = (k.call (v.slots k) c).2 := by
        rw [call_of_hoisted (hname ▸ hk), slots_setSlot]
      rw [hrest, hslot, List.filter_cons_of_pos (by simpa using hname)]
      rfl
    · rw [hrest, h.slots_call hname, List.filter_cons_of_neg (by simpa using hname)]

/-- Without calls for their names all places stay as they are. -/
theorem slots_run_of_tabled (v : HeaderView side) {calls : List HeaderCall}
    (h : ∀ c ∈ calls, side.Tabled c.name) : (v.run calls).slots = v.slots := by
  induction calls generalizing v with
  | nil => rfl
  | cons c calls ih =>
    have hslots : (v.call c).2.slots = v.slots := by rw [call_of_tabled (h c List.mem_cons_self)]
    exact (ih (v.call c).2 fun d hd => h d (List.mem_cons_of_mem c hd)).trans hslots

end Runs

/-- On the given names a view is a table: it has the outcome of every call on the table and the
answer to every question, and a call changes nothing else in it. -/
structure IsTableOn {side : Side} (v : HeaderView side) (names : Bytes → Bool) (t : HeaderTable) :
    Prop where
  table : v.table = t
  call : ∀ c : HeaderCall, names c.name = true →
    v.call c = ((t.call c).1, { v with table := (t.call c).2 })
  observed : ∀ name, names name = true →
    v.get? name = t.get? name ∧ v.getAll name = t.getAll name ∧ v.contains name = t.contains name

/-- How the headers of a request treat the names that are not for its table. -/
structure KeepsSlots (v : HeaderView .request) : Prop where
  /-- None of them is in the table. -/
  apart : ∃ l, v.table.Holds l ∧ ∀ e ∈ l, HeaderName.isOrdinary e.name = true
  held : ∀ k : Hoisted, v.get? k.headerName = v.slots k ∧
    v.getAll k.headerName = (v.slots k).toList ∧ (v.getAll k.headerName).length ≤ 1
  misnamed : ∀ name value, name.any Bytes.isUpper = true →
    v.call (.add name value) = (.refused (.invalidName name), v) ∧
    v.call (.set name value) = (.refused (.invalidName name), v)
  /-- A pseudo-header is stored exactly if it has no value yet. -/
  pseudo : ∀ k ≠ Hoisted.te, ∀ value, v.call (.add k.headerName value) =
    if v.contains k.headerName then (.refused (.duplicatePseudoHeader k.headerName), v)
    else (.done, v.setSlot k (some value))
  te : ∀ value, v.call (.add Hoisted.te.headerName value) = (.done, v.setSlot .te (some value))
  illegal : ∀ c : HeaderCall, c.name.head? = some 0x3A →
    (∀ k : Hoisted, c.name ≠ k.headerName) → v.call c = (c.rejection, v)
  refused : ∀ name value e, (v.call (.add name value)).1 = .refused e →
    (v.call (.add name value)).2 = v
  /-- Calls for them do not touch the table. -/
  frame : ∀ c : HeaderCall, HeaderName.isOrdinary c.name = false → (v.call c).2.table = v.table

section States

variable {side : Side} {l : List HeaderEntry}

theorem Holds.isTableOn {v : HeaderView side} (h : v.Holds l) {names : Bytes → Bool}
    (hnames : ∀ name, names name = true → side.Tabled name) : v.IsTableOn names v.table where
  table := rfl
  call c hname := call_of_tabled (hnames _ hname)
  observed name hname := by
    have htabled := hnames name hname
    refine ⟨?_, ?_, h.contains_of_tabled htabled⟩
    · rw [HeaderView.get?, htabled.1]
    · rw [HeaderView.getAll, htabled.1]

theorem call_add_hoisted (v : HeaderView .request) (k : Hoisted) (value : Bytes) :
    v.call (.add k.headerName value) =
      if k ≠ .te ∧ v.contains k.headerName then
        (.refused (.duplicatePseudoHeader k.headerName), v)
      else (.done, v.setSlot k (some value)) := by
  have hcontains : v.contains k.headerName = (v.slots k).isSome := by
    rw [HeaderView.contains, HeaderView.get?, Side.hoisted?_headerName]
  rw [call_of_hoisted (Side.hoisted?_headerName k), Hoisted.call, hcontains]
  split
  · rw [setSlot_self]
  · rfl

theorem Holds.keepsSlots {v : HeaderView .request} (h : v.Holds l) : v.KeepsSlots where
  apart := ⟨l, h.table, fun e he => Side.tabled_request_iff.mp (h.tabled e he)⟩
  held k := by
    have hget : v.get? k.headerName = v.slots k := by
      rw [HeaderView.get?, Side.hoisted?_headerName]
    have hall : v.getAll k.headerName = (v.slots k).toList := by
      rw [HeaderView.getAll, Side.hoisted?_headerName]
    exact ⟨hget, hall, hall ▸ Option.length_toList_le⟩
  misnamed name value upper := by
    constructor
    · simp only [call_add, add_of_upper upper]
    · simp only [HeaderView.call, set_of_upper upper]
  pseudo k hk value := by simp only [call_add_hoisted, ne_eq, hk, not_false_eq_true, true_and]
  te value := by simp [call_add_hoisted]
  illegal c pseudo unplaced :=
    h.call_of_rejected (Side.hoisted?_request_eq_none_iff.mpr unplaced) fun htabled =>
      htabled.2 ⟨rfl, pseudo⟩
  refused _ _ _ := call_add_of_refused
  frame c hname := h.table_call (by simp [Side.tabled_request_iff, hname])

/-- Whatever the calls, the headers of a request are a table that was asked only for the ordinary
names, beside places for one value each that were asked only for their own. Those of a response are
a table alone. -/
theorem run_simulates_slots_and_table (guess : Nat) (calls : List HeaderCall) :
    (∃ v : HeaderView .request, v = (withCapacity guess).run calls ∧ v.KeepsSlots ∧
      v.IsTableOn HeaderName.isOrdinary
        ((HeaderTable.withCapacity guess).run (calls.filter (HeaderName.isOrdinary ·.name))) ∧
      ∀ k, v.slots k = k.run none (calls.filter (·.name = k.headerName))) ∧
    ∃ v : HeaderView .response, v = (withCapacity guess).run calls ∧
      v.IsTableOn (fun _ => true) ((HeaderTable.withCapacity guess).run calls) ∧
      v.size = v.table.length ∧ v.toList = v.table.toList := by
  constructor
  · have hnew := @holds_withCapacity .request guess
    obtain ⟨l, h⟩ := hnew.run calls
    have htable := hnew.run_table calls
    simp only [Side.tabled_request_iff, Bool.decide_eq_true] at htable
    refine ⟨_, rfl, h.keepsSlots, ?_, fun k => hnew.run_slots (Side.hoisted?_headerName k) calls⟩
    have hon := h.isTableOn fun name => Side.tabled_request_iff.mpr
    rwa [htable] at hon
  · have hnew := @holds_withCapacity .response guess
    obtain ⟨l, h⟩ := hnew.run calls
    have htable := hnew.run_table calls
    have hall : calls.filter (Side.response.Tabled ·.name) = calls :=
      List.filter_eq_self.mpr fun _ _ => decide_eq_true Side.tabled_response
    rw [hall] at htable
    have hslots := slots_run_of_tabled (withCapacity guess) fun c (_ : c ∈ calls) =>
      (Side.tabled_response : Side.response.Tabled c.name)
    have hfilled : ((withCapacity guess : HeaderView .response).run calls).filled = [] := by
      rw [HeaderView.filled, hslots]
      rfl
    have hon : IsTableOn _ (fun _ => true) _ := h.isTableOn fun _ _ => Side.tabled_response
    refine ⟨_, rfl, ?_, ?_, ?_⟩
    · rwa [htable] at hon
    · simp [HeaderView.size_eq, hfilled]
    · simp [HeaderView.toList, hfilled]

end States
end HeaderView
end SecureChannel
