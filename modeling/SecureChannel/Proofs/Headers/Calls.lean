import SecureChannel.Proofs.Headers.Fields

/-! Calls that change a header table, one after the other. Whatever the calls and their outcomes, the
table holds a list of entries, and each call has a plain effect on this list. -/
namespace SecureChannel

/-- A change that is asked of a table or of a view. -/
inductive HeaderCall
  | add (name value : Bytes)
  | set (name value : Bytes)
  | remove (name : Bytes)
deriving DecidableEq

/-- The outcome of a call. A removal tells whether there was anything to remove. -/
inductive HeaderAnswer
  | done
  | refused (e : HeaderError)
  | removed (found : Bool)
deriving DecidableEq

namespace HeaderEntry

/-- The effect of a call on a list, with its outcome. A new value replaces all values of its name,
but where it is refused the old ones are gone. -/
inductive Effect : HeaderCall → List HeaderEntry → HeaderAnswer → List HeaderEntry → Prop
  | added {name value l entries} (sound : ∀ e, ¬ HeaderError.Refuses name value e)
      (h : Written name value entries) : Effect (.add name value) l .done (l ++ entries)
  | refused {name value l e} (h : HeaderError.Refuses name value e) :
      Effect (.add name value) l (.refused e) l
  | replaced {name value l entries} (sound : ∀ e, ¬ HeaderError.Refuses name value e)
      (h : Written name value entries) :
      Effect (.set name value) l .done (l.filter (·.name ≠ name) ++ entries)
  | misnamed {name value l} (h : name.any Bytes.isUpper = true) :
      Effect (.set name value) l (.refused (.invalidName name)) l
  | lost {name value l e} (lower : name.any Bytes.isUpper = false)
      (h : HeaderError.Refuses name value e) :
      Effect (.set name value) l (.refused e) (l.filter (·.name ≠ name))
  | removed {name l} :
      Effect (.remove name) l (.removed (l.any (·.name = name))) (l.filter (·.name ≠ name))

end HeaderEntry

namespace HeaderTable

def call (t : HeaderTable) : HeaderCall → HeaderAnswer × HeaderTable
  | .add name value =>
    match t.addStep name value with
    | (.ok (), u) => (.done, u)
    | (.error e, u) => (.refused e, u)
  | .set name value =>
    match t.set name value with
    | (.ok (), u) => (.done, u)
    | (.error e, u) => (.refused e, u)
  | .remove name => (.removed (t.erase name).1, (t.erase name).2)

def run (t : HeaderTable) (calls : List HeaderCall) : HeaderTable :=
  calls.foldl (fun t c => (t.call c).2) t

variable {t u : HeaderTable} {l : List HeaderEntry} {name value : Bytes}

theorem call_add (t : HeaderTable) (name value : Bytes) :
    t.call (.add name value) =
      match t.add name value with
      | .ok u => (.done, u)
      | .error e => (.refused e, t) := by
  rw [HeaderTable.call, addStep_eq]
  cases t.add name value <;> rfl

theorem call_add_of_refused {e : HeaderError} (h : (t.call (.add name value)).1 = .refused e) :
    (t.call (.add name value)).2 = t := by
  rw [call_add] at h ⊢
  cases hadd : t.add name value with
  | error e' => rfl
  | ok u => simp [hadd] at h

theorem set_of_upper (upper : name.any Bytes.isUpper = true) :
    t.set name value = (.error (.invalidName name), t) := by
  simp only [HeaderTable.set, HeaderName.check_of_upper upper]

/-- A name in order is removed first, and then added. -/
theorem set_of_lower (lower : name.any Bytes.isUpper = false) :
    t.set name value =
      match (t.remove name).add name value with
      | .ok u => (.ok (), u)
      | .error e => (.error e, t.remove name) := by
  simp only [HeaderTable.set, HeaderName.check_of_lower lower]
  exact (t.remove name).addStep_eq name value

private theorem not_refuses (hadd : t.add name value = .ok u) (e : HeaderError) :
    ¬ HeaderError.Refuses name value e := by
  rw [← add_eq_error_iff (t := t), hadd]
  nofun

theorem Holds.call (h : t.Holds l) (c : HeaderCall) :
    ∃ l', HeaderEntry.Effect c l (t.call c).1 l' ∧ (t.call c).2.Holds l' := by
  cases c with
  | add name value =>
    cases hadd : t.add name value with
    | error e =>
      refine ⟨l, ?_, ?_⟩ <;> simp only [call_add, hadd]
      · exact .refused (add_eq_error_iff.mp hadd)
      · exact h
    | ok u =>
      obtain ⟨entries, hwritten, hu⟩ := h.add hadd
      refine ⟨l ++ entries, ?_, ?_⟩ <;> simp only [call_add, hadd]
      · exact .added (not_refuses hadd) hwritten
      · exact hu
  | set name value =>
    cases hname : name.any Bytes.isUpper with
    | true =>
      refine ⟨l, ?_, ?_⟩ <;> simp only [HeaderTable.call, set_of_upper hname]
      · exact .misnamed hname
      · exact h
    | false =>
      have hrest : (t.remove name).Holds (l.filter (·.name ≠ name)) := (h.erase name).2.1
      cases hadd : (t.remove name).add name value with
      | error e =>
        refine ⟨l.filter (·.name ≠ name), ?_, ?_⟩ <;>
          simp only [HeaderTable.call, set_of_lower hname, hadd]
        · exact .lost hname (add_eq_error_iff.mp hadd)
        · exact hrest
      | ok u =>
        obtain ⟨entries, hwritten, hu⟩ := hrest.add hadd
        refine ⟨l.filter (·.name ≠ name) ++ entries, ?_, ?_⟩ <;>
          simp only [HeaderTable.call, set_of_lower hname, hadd]
        · exact .replaced (not_refuses hadd) hwritten
        · exact hu
  | remove name =>
    obtain ⟨hfound, hrest, -⟩ := h.erase name
    refine ⟨l.filter (·.name ≠ name), ?_, hrest⟩
    simp only [HeaderTable.call, hfound]
    exact .removed

theorem Holds.run (h : t.Holds l) (calls : List HeaderCall) : ∃ l', (t.run calls).Holds l' := by
  induction calls generalizing t l with
  | nil => exact ⟨l, h⟩
  | cons c calls ih =>
    obtain ⟨l', -, h'⟩ := h.call c
    exact ih h'

/-- In every state that calls lead to, a table is a list of entries: its slots hold just this list,
all questions are answered from it, and each further call has its effect on it. -/
theorem run_refines_list (guess : Nat) (calls : List HeaderCall) :
    ∃ (t : HeaderTable) (l : List HeaderEntry), t = (withCapacity guess).run calls ∧ t.Holds l ∧
      (∀ name, t.get? name = (l.find? (·.name = name)).map (·.value) ∧
        t.getAll name = (l.filter (·.name = name)).map (·.value) ∧
        t.contains name = l.any (·.name = name)) ∧
      t.toList = l.map (fun e => (e.name, e.wire)) ∧
      (∀ c, ∃ l', HeaderEntry.Effect c l (t.call c).1 l' ∧ (t.call c).2.Holds l') ∧
      (∀ name value e, (t.call (.add name value)).1 = .refused e →
        (t.call (.add name value)).2 = t) ∧
      ∀ name, (t.call (.remove name)).2.capacity = t.capacity := by
  obtain ⟨l, h⟩ := (holds_withCapacity guess).run calls
  exact ⟨_, l, rfl, h, fun name => ⟨h.get? name, h.getAll name, h.contains name⟩, h.toList, h.call,
    fun _ _ _ => call_add_of_refused, fun name => (h.erase name).2.2⟩

end HeaderTable
end SecureChannel
