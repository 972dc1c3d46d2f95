import SecureChannel.Headers.View
import SecureChannel.Proofs.Headers.Calls

/-! Views of headers under calls. Names that a view keeps elsewhere, or does not take at all, never
get into its table. -/
namespace SecureChannel

/-- Fields of such names go to the table. -/
def Side.Tabled (side : Side) (name : Bytes) : Prop :=
  side.hoisted? name = none ∧ ¬ (side = .request ∧ name.head? = some 0x3A)

namespace HeaderView

variable {side : Side}

/-- The table of the view holds the list, and nothing in it belongs elsewhere. -/
structure Holds (v : HeaderView side) (l : List HeaderEntry) : Prop where
  table : v.table.Holds l
  tabled : ∀ e ∈ l, side.Tabled e.name

def call (v : HeaderView side) : HeaderCall → HeaderAnswer × HeaderView side
  | .add name value =>
    match v.addStep name value with
    | (.ok (), w) => (.done, w)
    | (.error e, w) => (.refused e, w)
  | .set name value =>
    match v.set name value with
    | (.ok (), w) => (.done, w)
    | (.error e, w) => (.refused e, w)
  | .remove name => (.removed (v.erase name).1, (v.erase name).2)

def run (v : HeaderView side) (calls : List HeaderCall) : HeaderView side :=
  calls.foldl (fun v c => (v.call c).2) v

/-- Slots are counted apart from their listing, with the same result. -/
theorem filledCount_eq (v : HeaderView side) : v.filledCount = v.filled.length := by
  simp [filledCount, filled, List.length_filterMap_eq_countP]

theorem size_eq (v : HeaderView side) : v.size = v.filled.length + v.table.length := by
  rw [size, filledCount_eq]

end HeaderView

theorem Side.hoisted?_eq_some {side : Side} {name : Bytes} {k : Hoisted}
    (h : side.hoisted? name = some k) : side = .request ∧ name = k.headerName := by
  cases side with
  | response => simp [Side.hoisted?] at h
  | request =>
    have hname := List.find?_some (show Hoisted.all.find? (·.headerName = name) = some k from h)
    exact ⟨rfl, (of_decide_eq_true hname).symm⟩

/-- Names of slots are in order, and their values are plain. -/
theorem Side.plain_of_hoisted? {side : Side} {name : Bytes} {k : Hoisted}
    (h : side.hoisted? name = some k) :
    name.any Bytes.isUpper = false ∧ ¬ Bytes.ofString "-bin" <:+ name := by
  obtain ⟨-, rfl⟩ := Side.hoisted?_eq_some h
  cases k <;> decide +kernel

namespace HeaderView

section Adding

variable {side : Side} {v w : HeaderView side} {l : List HeaderEntry} {name value : Bytes}
  {k : Hoisted}

@[simp] theorem table_setSlot (v : HeaderView side) (k : Hoisted) (value : Option Bytes) :
    (v.setSlot k value).table = v.table := rfl

@[simp] theorem slots_setSlot (v : HeaderView side) (k : Hoisted) (value : Option Bytes) :
    (v.setSlot k value).slots k = value := by simp [setSlot]

/-- A refused header leaves the view as it was: each check comes before what it guards. -/
theorem addStep_eq (v : HeaderView side) (name value : Bytes) :
    v.addStep name value =
      match v.add name value with
      | .ok w => (.ok (), w)
      | .error e => (.error e, v) := by
  unfold HeaderView.add addStep
  cases HeaderName.check name with
  | error e => rfl
  | ok _ =>
    cases side.hoisted? name with
    | some k =>
      dsimp only
      split <;> rfl
    | none =>
      dsimp only
      split
      · rfl
      · rw [HeaderTable.addStep_eq]
        cases v.table.add name value <;> rfl

theorem call_add (v : HeaderView side) (name value : Bytes) :
    v.call (.add name value) =
      match v.add name value with
      | .ok w => (.done, w)
      | .error e => (.refused e, v) := by
  rw [HeaderView.call, addStep_eq]
  cases v.add name value <;> rfl

theorem call_add_of_refused {e : HeaderError} (h : (v.call (.add name value)).1 = .refused e) :
    (v.call (.add name value)).2 = v := by
  rw [call_add] at h ⊢
  cases hadd : v.add name value with
  | error e' => rfl
  | ok w => simp [hadd] at h

theorem add_of_upper (upper : name.any Bytes.isUpper = true) :
    v.add name value = .error (.invalidName name) := by
  simp only [HeaderView.add, addStep, HeaderName.check_of_upper upper, Except.map]

theorem add_of_hoisted (h : side.hoisted? name = some k) :
    v.add name value =
      if name.head? = some 0x3A ∧ (v.slots k).isSome then .error (.duplicatePseudoHeader name)
      else .ok (v.setSlot k (some value)) := by
  have hcheck := HeaderName.check_of_lower (Side.plain_of_hoisted? h).1
  simp only [HeaderView.add, addStep, hcheck, h, HeaderName.isPseudo_iff]
  split <;> rfl

theorem add_of_tabled (h : side.Tabled name) :
    v.add name value = (v.table.add name value).map ({ v with table := · }) := by
  cases hname : name.any Bytes.isUpper with
  | true =>
    rw [add_of_upper hname, HeaderTable.add_of_upper hname]
    rfl
  | false =>
    simp only [HeaderView.add, addStep, HeaderName.check_of_lower hname, h.1,
      HeaderName.isPseudo_iff, if_neg h.2, HeaderTable.addStep_eq]
    cases v.table.add name value <;> rfl

/-- Other pseudo-headers have no place in a request. -/
theorem add_of_illegal (lower : name.any Bytes.isUpper = false) (hoisted : side.hoisted? name = none)
    (pseudo : side = .request ∧ name.head? = some 0x3A) :
    v.add name value = .error (.illegalPseudoHeader name) := by
  simp only [HeaderView.add, addStep, HeaderName.check_of_lower lower, hoisted,
    HeaderName.isPseudo_iff, if_pos pseudo]
  rfl

theorem Holds.add (h : v.Holds l) (hadd : v.add name value = .ok w) :
    ∃ entries, w.Holds (l ++ entries) := by
  cases hhoisted : side.hoisted? name with
  | some k =>
    rw [add_of_hoisted hhoisted] at hadd
    split at hadd
    · cases hadd
    · cases hadd
      exact ⟨[], by simpa using h.table, by simpa using h.tabled⟩
  | none =>
    by_cases hpseudo : side = .request ∧ name.head? = some 0x3A
    · cases hname : name.any Bytes.isUpper with
      | true => simp [add_of_upper hname] at hadd
      | false => simp [add_of_illegal hname hhoisted hpseudo] at hadd
    · have htabled : side.Tabled name := ⟨hhoisted, hpseudo⟩
      rw [add_of_tabled htabled] at hadd
      cases htable : v.table.add name value with
      | error e => simp [htable, Except.map] at hadd
      | ok u =>
        obtain rfl : { v with table := u } = w := by simpa [htable, Except.map] using hadd
        obtain ⟨entries, hwritten, hu⟩ := h.table.add htable
        refine ⟨entries, hu, fun e he => ?_⟩
        rcases List.mem_append.mp he with he | he
        · exact h.tabled e he
        · rw [hwritten.name_eq e he]
          exact htabled

end Adding

section Removing

variable {side : Side} {v : HeaderView side} {l : List HeaderEntry} {name value : Bytes}

theorem set_of_upper (upper : name.any Bytes.isUpper = true) :
    v.set name value = (.error (.invalidName name), v) := by
  simp only [HeaderView.set, HeaderName.check_of_upper upper]

theorem set_of_lower (lower : name.any Bytes.isUpper = false) :
    v.set name value =
      match (v.remove name).add name value with
      | .ok w => (.ok (), w)
      | .error e => (.error e, v.remove name) := by
  simp only [HeaderView.set, HeaderName.check_of_lower lower]
  exact (v.remove name).addStep_eq name value

/-- The list has no entry of a name that is kept elsewhere, so removals can be told alike. -/
theorem Holds.remove (h : v.Holds l) (name : Bytes) :
    (v.remove name).Holds (l.filter (·.name ≠ name)) := by
  have htabled (e) (he : e ∈ l.filter (·.name ≠ name)) : side.Tabled e.name :=
    h.tabled e (List.mem_of_mem_filter he)
  cases hhoisted : side.hoisted? name with
  | none =>
    refine ⟨?_, htabled⟩
    simpa [HeaderView.remove, HeaderView.erase, hhoisted] using (h.table.erase name).2.1
  | some k =>
    have hkeep : l.filter (·.name ≠ name) = l := by
      refine List.filter_eq_self.mpr fun e he => decide_eq_true fun hname => ?_
      have := (h.tabled e he).1
      simp [hname, hhoisted] at this
    refine ⟨?_, htabled⟩
    rw [hkeep]
    simpa [HeaderView.remove, HeaderView.erase, hhoisted] using h.table

theorem Holds.call (h : v.Holds l) (c : HeaderCall) : ∃ l', (v.call c).2.Holds l' := by
  cases c with
  | add name value =>
    cases hadd : v.add name value with
    | error e => exact ⟨l, by simpa only [call_add, hadd] using h⟩
    | ok w =>
      obtain ⟨entries, hw⟩ := h.add hadd
      exact ⟨_, by simpa only [call_add, hadd] using hw⟩
  | set name value =>
    cases hname : name.any Bytes.isUpper with
    | true => exact ⟨l, by simpa [HeaderView.call, set_of_upper hname] using h⟩
    | false =>
      have hrest := h.remove name
      cases hadd : (v.remove name).add name value with
      | error e => exact ⟨_, by simpa only [HeaderView.call, set_of_lower hname, hadd] using hrest⟩
      | ok w =>
        obtain ⟨entries, hw⟩ := hrest.add hadd
        exact ⟨_, by simpa only [HeaderView.call, set_of_lower hname, hadd] using hw⟩
  | remove name => exact ⟨_, h.remove name⟩

theorem Holds.run (h : v.Holds l) (calls : List HeaderCall) : ∃ l', (v.run calls).Holds l' := by
  induction calls generalizing v l with
  | nil => exact ⟨l, h⟩
  | cons c calls ih =>
    obtain ⟨l', h'⟩ := h.call c
    exact ih h'

theorem holds_withCapacity (guess : Nat) : (withCapacity guess : HeaderView side).Holds [] :=
  ⟨HeaderTable.holds_withCapacity guess, nofun⟩

end Removing
end HeaderView
end SecureChannel
