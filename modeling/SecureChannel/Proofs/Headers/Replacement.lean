import SecureChannel.Proofs.Headers.Views

/-! Replacements that are refused. Old values are removed before the new one is decoded, so a malformed
value loses the values its name had; nothing else is ever lost. -/
namespace SecureChannel

/-- The name is in order and asks for binary values, but some part of the value is not one. -/
def HeaderError.Malformed (name value : Bytes) : Prop :=
  name.any Bytes.isUpper = false ∧ Bytes.ofString "-bin" <:+ name ∧
    ∃ wire ∈ value.splitOn 0x2C, ∃ fault, Base64.decode wire = .error fault

/-- The replacement finds values, and is refused only after it has removed them. -/
def HeaderTable.Loses (t : HeaderTable) (name value : Bytes) : Prop :=
  t.contains name = true ∧ HeaderError.Malformed name value

def HeaderView.Loses {side : Side} (v : HeaderView side) (name value : Bytes) : Prop :=
  v.contains name = true ∧ HeaderError.Malformed name value

namespace HeaderError

variable {name value : Bytes}

/-- Some part is malformed exactly if there is a first one. -/
theorem exists_refuses_iff (lower : name.any Bytes.isUpper = false) :
    (∃ e, Refuses name value e) ↔ Malformed name value := by
  constructor
  · intro hrefused
    obtain ⟨e, h⟩ := hrefused
    cases h with
    | name upper => simp [lower] at upper
    | value _ binary parts _ malformed =>
      exact ⟨lower, binary, _, by simp [parts], _, malformed⟩
  · intro hrefused
    obtain ⟨-, binary, wire, hwire, fault, hfault⟩ := hrefused
    cases hparts : HeaderTable.segments name value with
    | error e =>
      obtain ⟨before, part, after, fault, hvalue, hsound, hpart, -⟩ :=
        HeaderTable.segments_eq_error_iff.mp hparts
      exact ⟨_, .value lower binary hvalue hsound hpart⟩
    | ok parts =>
      rw [HeaderTable.segments, mapM_eq_ok_iff] at hparts
      have hsegments : ∀ w ∈ value.splitOn 0x2C, ∃ part, HeaderTable.segment name w = .ok part :=
        forall_of_forall₂ hparts fun _ part h => ⟨part, h⟩
      obtain ⟨part, hpart⟩ := hsegments wire hwire
      obtain ⟨-, hbytes⟩ := (HeaderTable.segment_eq_ok_iff _ _).mp hpart
      simp [hbytes] at hfault

end HeaderError

namespace HeaderTable

variable {t : HeaderTable} {l : List HeaderEntry} {name value : Bytes} {e : HeaderError}

theorem remove_of_not_contains (h : t.contains name = false) : t.remove name = t := by
  rw [remove, erase_of_not_contains h]

theorem Holds.length_remove_lt (h : t.Holds l) (hname : t.contains name = true) :
    (t.remove name).length < t.length := by
  rw [h.contains] at hname
  rw [remove, (h.erase name).2.1.length, h.length]
  exact List.length_filter_lt_length_iff_exists.mpr (by simpa using hname)

/-- A refused replacement either comes too early to have changed anything, or loses. -/
theorem set_eq_of_error (h : (t.set name value).1 = .error e) (hkeep : ¬ t.Loses name value) :
    (t.set name value).2 = t := by
  cases hname : name.any Bytes.isUpper with
  | true => rw [set_of_upper hname]
  | false =>
    rw [set_of_lower hname] at h ⊢
    cases hadd : (t.remove name).add name value with
    | ok u => simp [hadd] at h
    | error e' =>
      have hmalformed : HeaderError.Malformed name value :=
        (HeaderError.exists_refuses_iff hname).mp ⟨e', add_eq_error_iff.mp hadd⟩
      have habsent : t.contains name = false := by
        rw [← Bool.not_eq_true]
        exact fun hcontains => hkeep ⟨hcontains, hmalformed⟩
      exact remove_of_not_contains habsent

theorem set_of_malformed (h : HeaderError.Malformed name value) :
    ∃ e, t.set name value = (.error e, t.remove name) := by
  obtain ⟨e, he⟩ := (HeaderError.exists_refuses_iff h.1).mpr h
  refine ⟨e, ?_⟩
  rw [set_of_lower h.1, add_eq_error_iff.mpr he]

theorem Holds.refused_set (h : t.Holds l) (name value : Bytes) :
    ((∀ e, (t.set name value).1 = .error e → (t.set name value).2 = t) ↔ ¬ t.Loses name value) ∧
      (t.Loses name value → (∃ e, (t.set name value).1 = .error e) ∧
        (t.set name value).2.Holds (l.filter (·.name ≠ name)) ∧
        (t.set name value).2.length < t.length) := by
  have hlost (hloses : t.Loses name value) : (∃ e, (t.set name value).1 = .error e) ∧
      (t.set name value).2.Holds (l.filter (·.name ≠ name)) ∧
      (t.set name value).2.length < t.length := by
    obtain ⟨e, he⟩ := set_of_malformed (t := t) hloses.2
    rw [he]
    exact ⟨⟨e, rfl⟩, (h.erase name).2.1, h.length_remove_lt hloses.1⟩
  refine ⟨⟨fun hkeep hloses => ?_, fun hloses e he => set_eq_of_error he hloses⟩, hlost⟩
  obtain ⟨⟨e, he⟩, -, hlength⟩ := hlost hloses
  rw [hkeep e he] at hlength
  exact Nat.lt_irrefl _ hlength

end HeaderTable

namespace HeaderView

variable {side : Side} {v : HeaderView side} {l : List HeaderEntry} {name value : Bytes}
  {e : HeaderError}

theorem Holds.remove_of_not_tabled (h : v.Holds l) (hoisted : side.hoisted? name = none)
    (hname : ¬ side.Tabled name) : v.remove name = v := by
  have habsent : v.table.contains name = false := by
    rw [h.table.contains, List.any_eq_false]
    intro e he heq
    exact hname (of_decide_eq_true heq ▸ h.tabled e he)
  simp [HeaderView.remove, HeaderView.erase, hoisted, HeaderTable.erase_of_not_contains habsent]

theorem Holds.contains_of_tabled (h : v.Holds l) (hname : side.Tabled name) :
    v.contains name = v.table.contains name := by
  rw [HeaderView.contains, HeaderView.get?, hname.1, h.table.contains, Bool.eq_iff_iff]
  simp [h.table.get?, List.find?_isSome]

theorem remove_of_tabled (hname : side.Tabled name) :
    v.remove name = { v with table := v.table.remove name } := by
  simp [HeaderView.remove, HeaderView.erase, hname.1, HeaderTable.remove]

/-- Such a name is replaced in the table. -/
theorem set_of_tabled (hname : side.Tabled name) :
    v.set name value =
      ((v.table.set name value).1, { v with table := (v.table.set name value).2 }) := by
  cases hcase : name.any Bytes.isUpper with
  | true => rw [set_of_upper hcase, HeaderTable.set_of_upper hcase]
  | false =>
    rw [set_of_lower hcase, HeaderTable.set_of_lower hcase, remove_of_tabled hname,
      add_of_tabled hname]
    cases (v.table.remove name).add name value <;> rfl

/-- A slot refuses no value once it is empty. -/
theorem set_of_hoisted {k : Hoisted} (hname : side.hoisted? name = some k) :
    v.set name value = (.ok (), (v.setSlot k none).setSlot k (some value)) := by
  have hremove : v.remove name = v.setSlot k none := by
    simp [HeaderView.remove, HeaderView.erase, hname]
  rw [set_of_lower (Side.plain_of_hoisted? hname).1, hremove, add_of_hoisted hname,
    if_neg (by simp)]

/-- Binary values are never kept in slots. -/
theorem Loses.tabled (h : v.Loses name value) (hv : v.Holds l) : side.Tabled name := by
  obtain ⟨hcontains, hlower, hbinary, -⟩ := h
  have hoisted : side.hoisted? name = none := by
    cases hk : side.hoisted? name with
    | none => rfl
    | some k => exact absurd hbinary (Side.plain_of_hoisted? hk).2
  rw [HeaderView.contains, HeaderView.get?, hoisted] at hcontains
  simp only [hv.table.get?, Option.isSome_map, List.find?_isSome] at hcontains
  obtain ⟨e, he, heq⟩ := hcontains
  exact of_decide_eq_true heq ▸ hv.tabled e he

theorem Holds.set_eq_of_error (h : v.Holds l) (herror : (v.set name value).1 = .error e)
    (hkeep : ¬ v.Loses name value) : (v.set name value).2 = v := by
  by_cases htabled : side.Tabled name
  · rw [set_of_tabled htabled] at herror ⊢
    have hkeep' : ¬ v.table.Loses name value := by
      rwa [HeaderTable.Loses, ← h.contains_of_tabled htabled]
    rw [HeaderTable.set_eq_of_error herror hkeep']
  · cases hoisted : side.hoisted? name with
    | some k => simp [set_of_hoisted hoisted] at herror
    | none =>
      -- There is nothing to remove under a name that no request takes.
      cases hname : name.any Bytes.isUpper with
      | true => rw [set_of_upper hname]
      | false =>
        rw [set_of_lower hname, h.remove_of_not_tabled hoisted htabled] at herror ⊢
        cases hadd : v.add name value with
        | ok w => simp [hadd] at herror
        | error e' => rfl

theorem Holds.set_of_loses (h : v.Holds l) (hloses : v.Loses name value) :
    ∃ e, v.set name value = (.error e, { v with table := v.table.remove name }) := by
  obtain ⟨e, he⟩ := HeaderTable.set_of_malformed (t := v.table) hloses.2
  exact ⟨e, by rw [set_of_tabled (hloses.tabled h), he]⟩

theorem Holds.refused_set (h : v.Holds l) (name value : Bytes) :
    ((∀ e, (v.set name value).1 = .error e → (v.set name value).2 = v) ↔ ¬ v.Loses name value) ∧
      (v.Loses name value → (∃ e, (v.set name value).1 = .error e) ∧
        (v.set name value).2.slots = v.slots ∧
        (v.set name value).2.table.Holds (l.filter (·.name ≠ name)) ∧
        (v.set name value).2.size < v.size) := by
  have hlost (hloses : v.Loses name value) : (∃ e, (v.set name value).1 = .error e) ∧
      (v.set name value).2.slots = v.slots ∧
      (v.set name value).2.table.Holds (l.filter (·.name ≠ name)) ∧
      (v.set name value).2.size < v.size := by
    have hcontains := hloses.1
    rw [h.contains_of_tabled (hloses.tabled h)] at hcontains
    obtain ⟨e, he⟩ := h.set_of_loses hloses
    rw [he]
    exact ⟨⟨e, rfl⟩, rfl, (h.table.erase name).2.1,
      Nat.add_lt_add_left (h.table.length_remove_lt hcontains) _⟩
  refine ⟨⟨fun hkeep hloses => ?_, fun hloses e he => h.set_eq_of_error he hloses⟩, hlost⟩
  obtain ⟨⟨e, he⟩, -, -, hsize⟩ := hlost hloses
  rw [hkeep e he] at hsize
  exact Nat.lt_irrefl _ hsize

/-- In every state of a table or of a view, a refused replacement changes nothing exactly if it does
not lose. Where it loses, the values of its name are gone and all else stays. -/
theorem refused_set_unchanged_iff (guess : Nat) (calls : List HeaderCall) (name value : Bytes) :
    (∃ (t : HeaderTable) (l : List HeaderEntry),
      t = (HeaderTable.withCapacity guess).run calls ∧ t.Holds l ∧
      ((∀ e, (t.set name value).1 = .error e → (t.set name value).2 = t) ↔
        ¬ t.Loses name value) ∧
      (t.Loses name value → (∃ e, (t.set name value).1 = .error e) ∧
        (t.set name value).2.Holds (l.filter (·.name ≠ name)) ∧
        (t.set name value).2.length < t.length)) ∧
    ∀ side, ∃ (v : HeaderView side) (l : List HeaderEntry),
      v = (HeaderView.withCapacity guess).run calls ∧ v.Holds l ∧
      ((∀ e, (v.set name value).1 = .error e → (v.set name value).2 = v) ↔
        ¬ v.Loses name value) ∧
      (v.Loses name value → (∃ e, (v.set name value).1 = .error e) ∧
        (v.set name value).2.slots = v.slots ∧
        (v.set name value).2.table.Holds (l.filter (·.name ≠ name)) ∧
        (v.set name value).2.size < v.size) := by
  constructor
  · obtain ⟨l, h⟩ := (HeaderTable.holds_withCapacity guess).run calls
    exact ⟨_, l, rfl, h, h.refused_set name value⟩
  · intro side
    obtain ⟨l, h⟩ := (@HeaderView.holds_withCapacity side guess).run calls
    exact ⟨_, l, rfl, h, h.refused_set name value⟩

/-- The value `AQID` of `x-bin` is gone once `!!` was refused in its place. -/
theorem refused_set_loses_value :
    let name : Bytes := [0x78, 0x2D, 0x62, 0x69, 0x6E]
    let t := HeaderTable.empty.run [.add name [0x41, 0x51, 0x49, 0x44]]
    t.toList = [(name, [0x41, 0x51, 0x49, 0x44])] ∧
      (t.set name [0x21, 0x21]).1 = .error (.invalidBinaryValue name (.symbol 0x21 0)) ∧
      (t.set name [0x21, 0x21]).2.toList = [] := by
  decide +kernel

end HeaderView
end SecureChannel
