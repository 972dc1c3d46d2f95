import SecureChannel.Proofs.Headers.Views

/-! Views that hold the same headers. However much room their tables have, they take the same fields,
and refuse the others for the same reasons. -/
namespace SecureChannel

/-- Why a view refuses a field. Of the headers that it holds, only those in slots matter. -/
inductive Side.Refuses (side : Side) (slots : Hoisted → Option Bytes) (name value : Bytes) :
    HeaderError → Prop
  | misnamed (upper : name.any Bytes.isUpper = true) : Refuses side slots name value (.invalidName name)
  | taken {k} (hoisted : side.hoisted? name = some k) (pseudo : name.head? = some 0x3A)
      (held : (slots k).isSome) : Refuses side slots name value (.duplicatePseudoHeader name)
  | illegal (lower : name.any Bytes.isUpper = false) (hoisted : side.hoisted? name = none)
      (pseudo : side = .request ∧ name.head? = some 0x3A) :
      Refuses side slots name value (.illegalPseudoHeader name)
  | tabled {e} (tabled : side.Tabled name) (h : HeaderError.Refuses name value e) :
      Refuses side slots name value e

namespace HeaderView

variable {side : Side} {v w v' w' : HeaderView side} {l : List HeaderEntry} {name value : Bytes}
  {e : HeaderError}

/-- A name has a slot, belongs in the table, or has no place at all. -/
theorem hoisted_or_tabled_or_illegal (side : Side) (name : Bytes) :
    (∃ k, side.hoisted? name = some k) ∨ side.Tabled name ∨
      (side.hoisted? name = none ∧ side = .request ∧ name.head? = some 0x3A) := by
  cases hoisted : side.hoisted? name with
  | some k => exact .inl ⟨k, rfl⟩
  | none =>
    by_cases hpseudo : side = .request ∧ name.head? = some 0x3A
    · exact .inr (.inr ⟨rfl, hpseudo⟩)
    · exact .inr (.inl ⟨hoisted, hpseudo⟩)

theorem add_eq_error_iff : v.add name value = .error e ↔ side.Refuses v.slots name value e := by
  constructor
  · intro h
    cases hcase : name.any Bytes.isUpper with
    | true =>
      rw [add_of_upper hcase] at h
      cases h
      exact .misnamed hcase
    | false =>
      rcases hoisted_or_tabled_or_illegal side name with ⟨k, hoisted⟩ | htabled | ⟨hoisted, hpseudo⟩
      · rw [add_of_hoisted hoisted] at h
        split at h
        · rename_i htaken
          cases h
          exact .taken hoisted htaken.1 htaken.2
        · cases h
      · refine .tabled htabled ((HeaderTable.add_eq_error_iff (t := v.table)).mp ?_)
        rw [add_of_tabled htabled] at h
        cases hadd : v.table.add name value with
        | ok t => simp [hadd, Except.map] at h
        | error e' => simpa [hadd, Except.map] using h
      · rw [add_of_illegal hcase hoisted hpseudo] at h
        cases h
        exact .illegal hcase hoisted hpseudo
  · intro h
    cases h with
    | misnamed upper => exact add_of_upper upper
    | taken hoisted pseudo held => rw [add_of_hoisted hoisted, if_pos ⟨pseudo, held⟩]
    | illegal lower hoisted pseudo => exact add_of_illegal lower hoisted pseudo
    | tabled htabled h =>
      rw [add_of_tabled htabled, HeaderTable.add_eq_error_iff.mpr h]
      rfl

/-- All that adding a field can do: it fills a slot, or it is stored in the table. -/
theorem add_cases (h : v.add name value = .ok w) :
    (∃ k, side.hoisted? name = some k ∧ w = v.setSlot k (some value)) ∨
      side.Tabled name ∧ ∃ t, v.table.add name value = .ok t ∧ w = { v with table := t } := by
  rcases hoisted_or_tabled_or_illegal side name with ⟨k, hoisted⟩ | htabled | ⟨hoisted, hpseudo⟩
  · rw [add_of_hoisted hoisted] at h
    split at h
    · cases h
    · cases h
      exact .inl ⟨k, hoisted, rfl⟩
  · rw [add_of_tabled htabled] at h
    cases hadd : v.table.add name value with
    | error e => simp [hadd, Except.map] at h
    | ok t =>
      obtain rfl : { v with table := t } = w := by simpa [hadd, Except.map] using h
      exact .inr ⟨htabled, t, rfl, rfl⟩
  · cases hcase : name.any Bytes.isUpper with
    | true => simp [add_of_upper hcase] at h
    | false => simp [add_of_illegal hcase hoisted hpseudo] at h

/-- Both views hold the same headers. Their tables may have different room. -/
structure Alike (v w : HeaderView side) : Prop where
  slots : v.slots = w.slots
  entries : ∃ l, v.Holds l ∧ w.Holds l

theorem alike_withCapacity (guess guess' : Nat) :
    (withCapacity guess : HeaderView side).Alike (withCapacity guess') :=
  ⟨rfl, [], holds_withCapacity guess, holds_withCapacity guess'⟩

theorem Alike.symm (h : v.Alike w) : w.Alike v := by
  obtain ⟨l, hv, hw⟩ := h.entries
  exact ⟨h.slots.symm, l, hw, hv⟩

theorem Alike.add_eq_error_iff (h : v.Alike w) :
    v.add name value = .error e ↔ w.add name value = .error e := by
  rw [HeaderView.add_eq_error_iff, HeaderView.add_eq_error_iff, h.slots]

/-- What is stored in the one view is stored in the other. -/
theorem Alike.added (h : v.Alike w) (hv : v.add name value = .ok v')
    (hw : w.add name value = .ok w') : v'.Alike w' := by
  obtain ⟨l, hvl, hwl⟩ := h.entries
  have hslots := h.slots
  rcases add_cases hv with ⟨k, hk, rfl⟩ | ⟨htabled, t, ht, rfl⟩
  · rcases add_cases hw with ⟨k', hk', rfl⟩ | ⟨htabled, -⟩
    · obtain rfl : k = k' := Option.some.inj (hk.symm.trans hk')
      refine ⟨?_, l, ⟨hvl.table, hvl.tabled⟩, ⟨hwl.table, hwl.tabled⟩⟩
      simp only [setSlot, hslots]
    · simp [htabled.1] at hk
  · rcases add_cases hw with ⟨k', hk', -⟩ | ⟨-, u, hu, rfl⟩
    · simp [htabled.1] at hk'
    · obtain ⟨entries, hwritten, ht'⟩ := hvl.table.add ht
      obtain ⟨entries', hwritten', hu'⟩ := hwl.table.add hu
      obtain rfl := hwritten.unique hwritten'
      have hall : ∀ e ∈ l ++ entries, side.Tabled e.name := by
        intro e he
        rcases List.mem_append.mp he with he | he
        · exact hvl.tabled e he
        · exact hwritten.name_eq e he ▸ htabled
      exact ⟨hslots, l ++ entries, ⟨ht', hall⟩, ⟨hu', hall⟩⟩

theorem Alike.add (h : v.Alike w) (hv : v.add name value = .ok v') :
    ∃ w', w.add name value = .ok w' ∧ v'.Alike w' := by
  cases hw : w.add name value with
  | error e => simp [h.add_eq_error_iff.mpr hw] at hv
  | ok w' => exact ⟨w', rfl, h.added hv hw⟩

end HeaderView
end SecureChannel
