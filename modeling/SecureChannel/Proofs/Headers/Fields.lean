import SecureChannel.Proofs.Except
import SecureChannel.Proofs.Headers.Entries

/-! Fields that enter a header table: the entries they become, and the fields that are refused. -/
namespace SecureChannel

/-- The entries that a field becomes. A binary value has one for each of its parts, in order. -/
inductive HeaderEntry.Written (name value : Bytes) : List HeaderEntry → Prop
  | plain (h : ¬ Bytes.ofString "-bin" <:+ name) : Written name value [⟨name, value, value⟩]
  | binary {entries : List HeaderEntry} (h : Bytes.ofString "-bin" <:+ name)
      (parts : List.Forall₂
        (fun wire e => e.name = name ∧ e.wire = wire ∧ Base64.decode wire = .ok e.value)
        (value.splitOn 0x2C) entries) :
      Written name value entries

/-- A field is refused for its name, or for the first malformed part of its value. -/
inductive HeaderError.Refuses (name value : Bytes) : HeaderError → Prop
  | name (h : name.any Bytes.isUpper = true) : Refuses name value (.invalidName name)
  | value {before wire after fault} (lower : name.any Bytes.isUpper = false)
      (binary : Bytes.ofString "-bin" <:+ name)
      (parts : value.splitOn 0x2C = before ++ wire :: after)
      (sound : ∀ w ∈ before, ∃ bytes, Base64.decode w = .ok bytes)
      (malformed : Base64.decode wire = .error fault) :
      Refuses name value (.invalidBinaryValue name fault)

/-- What the pairs say of their left parts. -/
theorem forall_of_forall₂ {α β : Type} {R : α → β → Prop} {P : α → Prop} {l : List α} {m : List β}
    (h : List.Forall₂ R l m) (hP : ∀ a b, R a b → P a) : ∀ a ∈ l, P a := by
  have hboth : List.Forall₂ (fun a b => P a ∧ R a b) l m := h.imp fun a b hab => ⟨hP a b hab, hab⟩
  exact ((List.forall₂_and_left _ _).mp hboth).1

theorem HeaderEntry.Written.name_eq {name value : Bytes} {entries : List HeaderEntry}
    (h : Written name value entries) : ∀ e ∈ entries, e.name = name := by
  cases h with
  | plain => simp
  | binary _ parts => exact forall_of_forall₂ parts.flip fun _ _ h => h.1

/-- Whatever is stored for a field follows from the field. -/
theorem HeaderEntry.Written.unique {name value : Bytes} {entries entries' : List HeaderEntry}
    (h : Written name value entries) (h' : Written name value entries') : entries = entries' := by
  cases h with
  | plain hplain =>
    cases h' with
    | plain => rfl
    | binary hbinary => exact absurd hbinary hplain
  | binary hbinary parts =>
    cases h' with
    | plain hplain => exact absurd hbinary hplain
    | binary _ parts' =>
      refine List.right_unique_forall₂' ?_ parts parts'
      intro wire e e' he he'
      obtain ⟨hname, hwire, hvalue⟩ := he
      obtain ⟨hname', hwire', hvalue'⟩ := he'
      have hsame : e.value = e'.value := Except.ok.inj (hvalue.symm.trans hvalue')
      cases e
      cases e'
      simp_all

/-- What is stored for a field is reason enough not to refuse it. -/
theorem HeaderEntry.Written.not_refuses {name value : Bytes} {entries : List HeaderEntry}
    (h : Written name value entries) (lower : name.any Bytes.isUpper = false) (e : HeaderError) :
    ¬ HeaderError.Refuses name value e := by
  intro hrefuses
  cases hrefuses with
  | name upper => simp [lower] at upper
  | @value before wire after fault _ hbinary hparts _ hmalformed =>
    cases h with
    | plain hplain => exact absurd hbinary hplain
    | binary _ parts =>
      have hdecoded : ∀ w ∈ value.splitOn 0x2C, ∃ bytes, Base64.decode w = .ok bytes :=
        forall_of_forall₂ parts fun _ e h => ⟨e.value, h.2.2⟩
      obtain ⟨bytes, hbytes⟩ := hdecoded wire (by rw [hparts]; simp)
      simp [hbytes] at hmalformed

namespace HeaderTable

variable {t u : HeaderTable} {l : List HeaderEntry} {name value : Bytes} {e : HeaderError}

theorem segment_eq_ok_iff (wire : Bytes) (part : Bytes × Bytes) :
    segment name wire = .ok part ↔ part.2 = wire ∧ Base64.decode wire = .ok part.1 := by
  obtain ⟨bytes, w⟩ := part
  unfold segment
  cases Base64.decode wire <;> simp [and_comm, eq_comm]

theorem segment_eq_error_iff (wire : Bytes) :
    segment name wire = .error e ↔
      ∃ fault, Base64.decode wire = .error fault ∧ e = .invalidBinaryValue name fault := by
  unfold segment
  cases Base64.decode wire <;> simp [eq_comm]

theorem segments_eq_error_iff :
    segments name value = .error e ↔ ∃ before wire after fault,
      value.splitOn 0x2C = before ++ wire :: after ∧
      (∀ w ∈ before, ∃ bytes, Base64.decode w = .ok bytes) ∧
      Base64.decode wire = .error fault ∧ e = .invalidBinaryValue name fault := by
  rw [segments, mapM_eq_error_iff]
  simp only [segment_eq_ok_iff, segment_eq_error_iff, Prod.exists, exists_and_left]
  constructor
  · intro hparts
    obtain ⟨before, wire, after, hparts, hsound, fault, hbad, rfl⟩ := hparts
    exact ⟨before, wire, after, hparts, fun w hw => by simpa using hsound w hw, fault, hbad, rfl⟩
  · intro hparts
    obtain ⟨before, wire, after, hparts, hsound, fault, hbad, rfl⟩ := hparts
    exact ⟨before, wire, after, hparts, fun w hw => by simpa using hsound w hw, fault, hbad, rfl⟩

/-- A refused field leaves the table as it was: nothing is stored before all of it is in order. -/
theorem addStep_eq (t : HeaderTable) (name value : Bytes) :
    t.addStep name value =
      match t.add name value with
      | .ok u => (.ok (), u)
      | .error e => (.error e, t) := by
  unfold HeaderTable.add addStep
  cases HeaderName.check name with
  | error e => rfl
  | ok _ =>
    cases HeaderName.isBinary name with
    | false => rfl
    | true => cases segments name value <;> rfl

/-- What remains of adding a field whose name is in order. -/
theorem add_of_lower (lower : name.any Bytes.isUpper = false) :
    t.add name value =
      if Bytes.ofString "-bin" <:+ name then
        (segments name value).map (·.foldl (fun t (bytes, wire) => t.push name bytes wire) t)
      else .ok (t.push name value value) := by
  simp only [HeaderTable.add, addStep, HeaderName.check_of_lower lower, HeaderName.isBinary_iff]
  split
  · cases segments name value <;> rfl
  · rfl

theorem add_of_upper (upper : name.any Bytes.isUpper = true) :
    t.add name value = .error (.invalidName name) := by
  simp only [HeaderTable.add, addStep, HeaderName.check_of_upper upper, Except.map]

theorem add_eq_error_iff : t.add name value = .error e ↔ HeaderError.Refuses name value e := by
  cases hname : name.any Bytes.isUpper with
  | true =>
    rw [add_of_upper hname]
    constructor
    · rintro ⟨⟩
      exact .name hname
    · intro h
      cases h with
      | name => rfl
      | value lower => simp [lower] at hname
  | false =>
    rw [add_of_lower hname]
    by_cases hbinary : Bytes.ofString "-bin" <:+ name
    · have hmap : (segments name value).map
            (·.foldl (fun t (bytes, wire) => t.push name bytes wire) t) = .error e ↔
          segments name value = .error e := by
        cases segments name value <;> simp [Except.map]
      rw [if_pos hbinary, hmap, segments_eq_error_iff]
      constructor
      · intro hparts
        obtain ⟨before, wire, after, fault, hparts, hsound, hbad, rfl⟩ := hparts
        exact .value hname hbinary hparts hsound hbad
      · intro h
        cases h with
        | name upper => simp [upper] at hname
        | value _ _ parts sound malformed => exact ⟨_, _, _, _, parts, sound, malformed, rfl⟩
    · simp only [if_neg hbinary, reduceCtorEq, false_iff]
      intro h
      cases h with
      | name upper => simp [upper] at hname
      | value _ binary => exact hbinary binary

/-- Stores entries one after the other. -/
def storeAll (t : HeaderTable) (entries : List HeaderEntry) : HeaderTable :=
  entries.foldl (fun t e => t.push e.name e.value e.wire) t

theorem Holds.storeAll (h : t.Holds l) (entries : List HeaderEntry) :
    (t.storeAll entries).Holds (l ++ entries) := by
  induction entries generalizing t l with
  | nil => simpa [HeaderTable.storeAll] using h
  | cons e entries ih => simpa [HeaderTable.storeAll] using ih (h.push e).1

theorem segments_eq_ok {parts : List (Bytes × Bytes)} (hbinary : Bytes.ofString "-bin" <:+ name)
    (h : segments name value = .ok parts) :
    HeaderEntry.Written name value (parts.map fun part => ⟨name, part.1, part.2⟩) := by
  refine .binary hbinary ?_
  rw [List.forall₂_map_right_iff]
  rw [segments, mapM_eq_ok_iff] at h
  refine h.imp fun wire part hpart => ?_
  obtain ⟨hwire, hdecode⟩ := (segment_eq_ok_iff wire part).mp hpart
  exact ⟨rfl, hwire, hdecode⟩

/-- A field that is not refused has its entries stored, and nothing else is done. -/
theorem add_eq_ok (hadd : t.add name value = .ok u) :
    name.any Bytes.isUpper = false ∧
      ∃ entries, HeaderEntry.Written name value entries ∧ u = t.storeAll entries := by
  cases hname : name.any Bytes.isUpper with
  | true => simp [add_of_upper hname] at hadd
  | false =>
    refine ⟨rfl, ?_⟩
    rw [add_of_lower hname] at hadd
    by_cases hbinary : Bytes.ofString "-bin" <:+ name
    · cases hparts : segments name value with
      | error e => simp [hbinary, hparts, Except.map] at hadd
      | ok parts =>
        obtain rfl : parts.foldl (fun t (bytes, wire) => t.push name bytes wire) t = u := by
          simpa [hbinary, hparts, Except.map] using hadd
        refine ⟨_, segments_eq_ok hbinary hparts, ?_⟩
        rw [HeaderTable.storeAll, List.foldl_map]
    · obtain rfl : t.push name value value = u := by simpa [hbinary] using hadd
      exact ⟨_, .plain hbinary, rfl⟩

theorem Holds.add (h : t.Holds l) (hadd : t.add name value = .ok u) :
    ∃ entries, HeaderEntry.Written name value entries ∧ u.Holds (l ++ entries) := by
  obtain ⟨-, entries, hwritten, rfl⟩ := add_eq_ok hadd
  exact ⟨entries, hwritten, h.storeAll entries⟩

theorem Holds.add_written {entries : List HeaderEntry} (h : t.Holds l)
    (lower : name.any Bytes.isUpper = false) (hwritten : HeaderEntry.Written name value entries) :
    ∃ u, t.add name value = .ok u ∧ u.Holds (l ++ entries) := by
  cases hadd : t.add name value with
  | error e => exact absurd (add_eq_error_iff.mp hadd) (hwritten.not_refuses lower e)
  | ok u =>
    obtain ⟨entries', hwritten', hu⟩ := h.add hadd
    obtain rfl := hwritten.unique hwritten'
    exact ⟨u, rfl, hu⟩

end HeaderTable
end SecureChannel
