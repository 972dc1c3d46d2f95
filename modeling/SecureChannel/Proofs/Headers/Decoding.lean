import Mathlib.Algebra.GroupWithZero.Nat
import SecureChannel.Headers.Decoder
import SecureChannel.Proofs.Except
import SecureChannel.Proofs.Headers.Likeness

/-! What becomes of a header list. The first field that goes over the limit or is refused ends it,
and the size is looked at before the field. -/
namespace SecureChannel

/-- Adds fields in order, and stops at the first that is refused. -/
def HeaderView.addAll {side : Side} (v : HeaderView side) (fields : List (Bytes × Bytes)) :
    Except HeaderError (HeaderView side) :=
  fields.foldlM (fun v field => v.add field.1 field.2) v

theorem HeaderView.addAll_cons_eq_ok_iff {side : Side} {v w : HeaderView side}
    {fields : List (Bytes × Bytes)} (field : Bytes × Bytes) :
    v.addAll (field :: fields) = .ok w ↔
      ∃ u, v.add field.1 field.2 = .ok u ∧ u.addAll fields = .ok w := bind_eq_ok_iff

namespace HeaderDecoder

/-- The size of fields: their text, and 32 more for each of them. It does not go beyond what 64 bits
hold. -/
def listSize (fields : List (Bytes × Bytes)) : Nat :=
  min (2 ^ 64 - 1) (fields.map fun field => field.1.length + field.2.length + 32).sum

/-- The empty view that the next list is read into. -/
def start {side : Side} (d : HeaderDecoder side) : HeaderView side := .withCapacity d.guess

/-- With this field the list goes over the limit. -/
def Exceeds (limit : UInt64) (fields : List (Bytes × Bytes)) (i : Nat) : Prop :=
  i < fields.length ∧ limit.toNat < listSize (fields.take (i + 1))

variable {side : Side}

/-- The field is refused by the view that holds those before it. -/
def Refused (v : HeaderView side) (fields : List (Bytes × Bytes)) (i : Nat) (e : HeaderError) :
    Prop :=
  ∃ w name value, fields[i]? = some (name, value) ∧ v.addAll (fields.take i) = .ok w ∧
    w.add name value = .error e

/-- Why a list ends at a field. A field over the limit is not looked at. -/
inductive Stops (limit : UInt64) (v : HeaderView side) (fields : List (Bytes × Bytes)) (i : Nat) :
    HeaderError → Prop
  | exceeds (h : Exceeds limit fields i) :
      Stops limit v fields i (.listTooLarge (listSize (fields.take (i + 1))) limit.toNat)
  | refused {e} (fits : ¬ Exceeds limit fields i) (h : Refused v fields i e) :
      Stops limit v fields i e

/-- The outcome of a list, and where it comes from. -/
inductive Outcome (limit : UInt64) (v : HeaderView side) (fields : List (Bytes × Bytes)) :
    Except HeaderError (HeaderView side) → Prop
  | filled {w} (built : v.addAll fields = .ok w) (quiet : ∀ i e, ¬ Stops limit v fields i e) :
      Outcome limit v fields (.ok w)
  | stopped {i e} (h : Stops limit v fields i e) (first : ∀ j < i, ∀ e', ¬ Stops limit v fields j e') :
      Outcome limit v fields (.error e)

/-- The running size, which stops growing at each field, is the size of the fields so far. -/
theorem listSize_append_singleton (done : List (Bytes × Bytes)) (name value : Bytes) :
    listSize (done ++ [(name, value)]) = grownSize (listSize done) name value := by
  have hmax : maxSize = 2 ^ 64 - 1 := rfl
  simp only [listSize, grownSize, hmax, fieldOverhead, List.map_append, List.map_cons,
    List.map_nil, List.sum_append, List.sum_cons, List.sum_nil]
  omega

section Filling

variable {limit : UInt64} {v w : HeaderView side} {done rest : List (Bytes × Bytes)}
  {name value : Bytes} {e : HeaderError} {i : Nat}

theorem take_append_cons (done rest : List (Bytes × Bytes)) (field : Bytes × Bytes) :
    (done ++ field :: rest).take (done.length + 1) = done ++ [field] := by
  rw [List.take_length_add_append]
  rfl

theorem exceeds_next_iff : Exceeds limit (done ++ (name, value) :: rest) done.length ↔
    limit.toNat < grownSize (listSize done) name value := by
  rw [Exceeds, take_append_cons, listSize_append_singleton]
  simp

theorem refused_next_iff (built : v.addAll done = .ok w) :
    Refused v (done ++ (name, value) :: rest) done.length e ↔ w.add name value = .error e := by
  simp [Refused, built]

theorem addAll_append_singleton (built : v.addAll done = .ok w) :
    v.addAll (done ++ [(name, value)]) = w.add name value := by
  rw [HeaderView.addAll, List.foldlM_append, ← HeaderView.addAll, built]
  cases hadd : w.add name value <;> simp [bind, Except.bind, pure, Except.pure, hadd]

/-- What has been added is a part of the list, and nothing in it has stopped the list. -/
theorem fill_outcome (built : v.addAll done = .ok w)
    (quiet : ∀ j < done.length, ∀ e, ¬ Stops limit v (done ++ rest) j e) :
    Outcome limit v (done ++ rest) (fill limit (listSize done) w rest) := by
  induction rest generalizing done w with
  | nil =>
    refine .filled (by simpa using built) fun i e h => ?_
    have hi : i < done.length := by
      cases h with
      | exceeds h => simpa using h.1
      | refused _ h =>
        obtain ⟨_, _, _, hfield, -⟩ := h
        simpa using (List.getElem?_eq_some_iff.mp hfield).1
    exact quiet i hi e h
  | cons field rest ih =>
    obtain ⟨name, value⟩ := field
    rw [fill]
    split
    · rename_i hlarge
      have hexceeds : Exceeds limit (done ++ (name, value) :: rest) done.length :=
        exceeds_next_iff.mpr hlarge
      have hstop := Stops.exceeds (v := v) hexceeds
      rw [take_append_cons, listSize_append_singleton] at hstop
      exact .stopped hstop quiet
    · rename_i hfits
      have hfits' : ¬ Exceeds limit (done ++ (name, value) :: rest) done.length :=
        fun h => hfits (exceeds_next_iff.mp h)
      cases hadd : w.add name value with
      | error e => exact .stopped (.refused hfits' ((refused_next_iff built).mpr hadd)) quiet
      | ok w' =>
        have hstep : v.addAll (done ++ [(name, value)]) = .ok w' :=
          (addAll_append_singleton built).trans hadd
        have hquiet : ∀ j < (done ++ [(name, value)]).length, ∀ e,
            ¬ Stops limit v (done ++ [(name, value)] ++ rest) j e := by
          intro j hj e hstop
          rw [List.append_assoc, List.singleton_append] at hstop
          rcases Nat.lt_succ_iff_lt_or_eq.mp (by simpa using hj) with hj | rfl
          · exact quiet j hj e hstop
          · cases hstop with
            | exceeds h => exact hfits' h
            | refused _ h =>
              rw [refused_next_iff built, hadd] at h
              cases h
        have hrest := ih hstep hquiet
        rw [listSize_append_singleton, List.append_assoc, List.singleton_append] at hrest
        exact hrest

theorem Refused.unique {fields : List (Bytes × Bytes)} {e' : HeaderError}
    (h : Refused v fields i e) (h' : Refused v fields i e') : e = e' := by
  obtain ⟨w, name, value, hfield, hbuilt, hadd⟩ := h
  obtain ⟨w', name', value', hfield', hbuilt', hadd'⟩ := h'
  rw [hfield] at hfield'
  cases hfield'
  rw [hbuilt] at hbuilt'
  cases hbuilt'
  rw [hadd] at hadd'
  exact Except.error.inj hadd'

theorem Stops.unique {fields : List (Bytes × Bytes)} {e' : HeaderError}
    (h : Stops limit v fields i e) (h' : Stops limit v fields i e') : e = e' := by
  cases h with
  | exceeds h =>
    cases h' with
    | exceeds => rfl
    | refused fits => exact absurd h fits
  | refused fits h =>
    cases h' with
    | exceeds h' => exact absurd h' fits
    | refused _ h' => exact h.unique h'

theorem exists_stops_iff {fields : List (Bytes × Bytes)} :
    (∃ e, Stops limit v fields i e) ↔ Exceeds limit fields i ∨ ∃ e, Refused v fields i e := by
  constructor
  · rintro ⟨e, h⟩
    cases h with
    | exceeds h => exact .inl h
    | refused _ h => exact .inr ⟨e, h⟩
  · rintro (h | ⟨e, h⟩)
    · exact ⟨_, .exceeds h⟩
    · by_cases hfits : Exceeds limit fields i
      · exact ⟨_, .exceeds hfits⟩
      · exact ⟨e, .refused hfits h⟩

end Filling

section Likeness

variable {limit limit' : UInt64} {v w u : HeaderView side} {fields : List (Bytes × Bytes)}
  {e : HeaderError} {i : Nat}

theorem alike_addAll (h : v.Alike w) (hv : v.addAll fields = .ok u) :
    ∃ u', w.addAll fields = .ok u' ∧ u.Alike u' := by
  induction fields generalizing v w with
  | nil =>
    cases hv
    exact ⟨w, rfl, h⟩
  | cons field fields ih =>
    obtain ⟨v', hadd, hrest⟩ := (HeaderView.addAll_cons_eq_ok_iff field).mp hv
    obtain ⟨w', hw, h'⟩ := h.add hadd
    obtain ⟨u', hrest', halike⟩ := ih h' hrest
    exact ⟨u', (HeaderView.addAll_cons_eq_ok_iff field).mpr ⟨w', hw, hrest'⟩, halike⟩

theorem Refused.of_alike (h : v.Alike w) (hv : Refused v fields i e) : Refused w fields i e := by
  obtain ⟨u, name, value, hfield, hbuilt, hadd⟩ := hv
  obtain ⟨u', hbuilt', h'⟩ := alike_addAll h hbuilt
  exact ⟨u', name, value, hfield, hbuilt', h'.add_eq_error_iff.mp hadd⟩

theorem Exceeds.of_le (hle : limit ≤ limit') (h : Exceeds limit' fields i) :
    Exceeds limit fields i :=
  ⟨h.1, Nat.lt_of_le_of_lt (UInt64.le_iff_toNat_le.mp hle) h.2⟩

/-- Where a list ends under the larger limit, it does so under the smaller one. -/
theorem Stops.of_le (hle : limit ≤ limit') (hvw : v.Alike w) (h : Stops limit' w fields i e) :
    Stops limit v fields i e ∨ Exceeds limit fields i := by
  by_cases hlarge : Exceeds limit fields i
  · exact .inr hlarge
  · cases h with
    | exceeds h => exact absurd (h.of_le hle) hlarge
    | refused _ h => exact .inl (.refused hlarge (h.of_alike hvw.symm))

/-- A field that fits the smaller limit is refused under the larger one as well. -/
theorem Stops.of_fits (hle : limit ≤ limit') (hvw : v.Alike w) (h : Stops limit v fields i e)
    (hfits : ¬ Exceeds limit fields i) : Stops limit' w fields i e := by
  cases h with
  | exceeds h => exact absurd h hfits
  | refused _ h => exact .refused (fun hlarge => hfits (hlarge.of_le hle)) (h.of_alike hvw)

end Likeness

section Lists

variable {d : HeaderDecoder side} {fields : List (Bytes × Bytes)} {e : HeaderError}

theorem decode_eq (d : HeaderDecoder side) (fields : List (Bytes × Bytes)) :
    d.decode fields = (fill d.limit 0 d.start fields).map fun view => (view, d.learn view.size) := by
  unfold decode decodeStep start
  cases fill d.limit 0 (.withCapacity d.guess) fields <;> simp only [Except.map]

/-- A refused list leaves the decoder as it was: nothing is learnt before all of it is taken. -/
theorem decodeStep_eq (d : HeaderDecoder side) (fields : List (Bytes × Bytes)) :
    d.decodeStep fields =
      match d.decode fields with
      | .ok (view, next) => (.ok view, next)
      | .error e => (.error e, d) := by
  unfold decode decodeStep
  cases fill d.limit 0 (.withCapacity d.guess) fields <;> rfl

theorem decode_outcome (d : HeaderDecoder side) (fields : List (Bytes × Bytes)) :
    Outcome d.limit d.start fields (fill d.limit 0 d.start fields) := by
  have h : Outcome d.limit d.start ([] ++ fields) (fill d.limit (listSize []) d.start fields) :=
    fill_outcome rfl nofun
  simpa [listSize] using h

theorem decode_eq_error_iff : d.decode fields = .error e ↔
    ∃ i, Stops d.limit d.start fields i e ∧ ∀ j < i, ∀ e', ¬ Stops d.limit d.start fields j e' := by
  have houtcome := decode_outcome d fields
  rw [decode_eq]
  cases hfill : fill d.limit 0 d.start fields with
  | ok w =>
    rw [hfill] at houtcome
    cases houtcome with
    | filled _ quiet =>
      constructor
      · nofun
      · rintro ⟨i, h, -⟩
        exact absurd h (quiet i e)
  | error e₀ =>
    rw [hfill] at houtcome
    cases houtcome with
    | @stopped i _ h first =>
      constructor
      · rintro ⟨⟩
        exact ⟨i, h, first⟩
      · rintro ⟨j, hj, hfirst⟩
        have hij : i = j := by
          rcases Nat.lt_trichotomy i j with hlt | heq | hlt
          · exact absurd h (hfirst i hlt e₀)
          · exact heq
          · exact absurd hj (first j hlt e)
        subst hij
        rw [h.unique hj]
        rfl

theorem decode_eq_ok_iff {w : HeaderView side} {d₁ : HeaderDecoder side} :
    d.decode fields = .ok (w, d₁) ↔ d.start.addAll fields = .ok w ∧ d₁ = d.learn w.size ∧
      ∀ i e, ¬ Stops d.limit d.start fields i e := by
  have houtcome := decode_outcome d fields
  rw [decode_eq]
  cases hfill : fill d.limit 0 d.start fields with
  | ok u =>
    rw [hfill] at houtcome
    cases houtcome with
    | filled built quiet =>
      constructor
      · rintro ⟨⟩
        exact ⟨built, rfl, quiet⟩
      · rintro ⟨built', rfl, -⟩
        obtain rfl : u = w := Except.ok.inj (built.symm.trans built')
        rfl
  | error e₀ =>
    rw [hfill] at houtcome
    cases houtcome with
    | stopped h =>
      constructor
      · nofun
      · rintro ⟨-, -, quiet⟩
        exact absurd h (quiet _ _)

/-- Any field that stops a list leads to a first one, and so to a refusal. -/
theorem exists_error_of_stops {i : Nat} (h : Stops d.limit d.start fields i e) :
    ∃ e', d.decode fields = .error e' := by
  cases hdecode : d.decode fields with
  | error e' => exact ⟨e', rfl⟩
  | ok result => exact absurd h ((decode_eq_ok_iff.mp hdecode).2.2 i e)

theorem decode_of_le {d' : HeaderDecoder side} (hle : d.limit ≤ d'.limit)
    {w : HeaderView side} {d₁ : HeaderDecoder side} (h : d.decode fields = .ok (w, d₁)) :
    ∃ w' d₁', d'.decode fields = .ok (w', d₁') ∧ w.Alike w' := by
  obtain ⟨hbuilt, -, hquiet⟩ := decode_eq_ok_iff.mp h
  have hstart : d.start.Alike d'.start := HeaderView.alike_withCapacity ..
  obtain ⟨w', hbuilt', halike⟩ := alike_addAll hstart hbuilt
  have hquiet' (i : Nat) (e : HeaderError) : ¬ Stops d'.limit d'.start fields i e := by
    intro hstop
    rcases hstop.of_le hle hstart with hstop | hlarge
    · exact hquiet i e hstop
    · exact hquiet i _ (.exceeds hlarge)
  exact ⟨w', d'.learn w'.size, decode_eq_ok_iff.mpr ⟨hbuilt', rfl, hquiet'⟩, halike⟩

/-- The smaller limit may stop the list earlier, but then only for its size. -/
theorem decode_error_of_le {d' : HeaderDecoder side} (hle : d.limit ≤ d'.limit)
    (h : d'.decode fields = .error e) :
    d.decode fields = .error e ∨
      ∃ size, d.decode fields = .error (.listTooLarge size d.limit.toNat) := by
  obtain ⟨i, hstop, hfirst⟩ := decode_eq_error_iff.mp h
  have hstart : d.start.Alike d'.start := HeaderView.alike_withCapacity ..
  have hexists : ∃ e', d.decode fields = .error e' := by
    rcases hstop.of_le hle hstart with hstop' | hlarge
    · exact exists_error_of_stops hstop'
    · exact exists_error_of_stops (.exceeds hlarge)
  obtain ⟨e', he'⟩ := hexists
  obtain ⟨j, hstop', hfirst'⟩ := decode_eq_error_iff.mp he'
  by_cases hlarge : Exceeds d.limit fields j
  · obtain rfl := hstop'.unique (.exceeds hlarge)
    exact .inr ⟨_, he'⟩
  · -- A field that fits stops both lists, so it is the first to do so in either.
    have hboth := hstop'.of_fits hle hstart hlarge
    have hij : i = j := by
      rcases Nat.lt_trichotomy i j with hlt | heq | hlt
      · rcases hstop.of_le hle hstart with hstop | hlarge
        · exact absurd hstop (hfirst' i hlt e)
        · exact absurd (.exceeds hlarge) (hfirst' i hlt _)
      · exact heq
      · exact absurd hboth (hfirst j hlt e')
    subst hij
    rw [hstop.unique hboth]
    exact .inl he'

/-- The first field that goes over the limit or is refused by the view of the fields before it is
the one that counts, and its size comes first. A list without such a field becomes the view of all
its fields. So a larger limit accepts all that a smaller one accepts, and what it refuses the smaller
one refuses too, for the same reason or for the size. -/
theorem decode_ends_at_first_stop (d : HeaderDecoder side) (fields : List (Bytes × Bytes)) :
    ((∃ e, d.decode fields = .error e) ↔
      ∃ i, Exceeds d.limit fields i ∨ ∃ e, Refused d.start fields i e) ∧
    (∀ e, d.decode fields = .error e ↔
      ∃ i, Stops d.limit d.start fields i e ∧
        ∀ j < i, ¬ (Exceeds d.limit fields j ∨ ∃ e', Refused d.start fields j e')) ∧
    ((∀ e, d.decode fields ≠ .error e) → ∃ w, d.start.addAll fields = .ok w ∧
      d.decode fields = .ok (w, d.learn w.size)) ∧
    ∀ d' : HeaderDecoder side, d.limit ≤ d'.limit →
      (∀ w d₁, d.decode fields = .ok (w, d₁) →
        ∃ w' d₁', d'.decode fields = .ok (w', d₁') ∧ w.Alike w') ∧
      ∀ e, d'.decode fields = .error e → d.decode fields = .error e ∨
        ∃ size, d.decode fields = .error (.listTooLarge size d.limit.toNat) := by
  refine ⟨⟨?_, ?_⟩, fun e => ?_, fun hok => ?_, fun d' hle =>
    ⟨fun w d₁ => decode_of_le hle, fun e => decode_error_of_le hle⟩⟩
  · rintro ⟨e, he⟩
    obtain ⟨i, hstop, -⟩ := decode_eq_error_iff.mp he
    exact ⟨i, exists_stops_iff.mp ⟨e, hstop⟩⟩
  · rintro ⟨i, h⟩
    obtain ⟨e, hstop⟩ := exists_stops_iff.mpr h
    exact exists_error_of_stops hstop
  · simp only [← exists_stops_iff (v := d.start), not_exists]
    exact decode_eq_error_iff
  · cases hdecode : d.decode fields with
    | error e => exact absurd hdecode (hok e)
    | ok result =>
      obtain ⟨hbuilt, hlearnt, -⟩ := decode_eq_ok_iff.mp hdecode
      exact ⟨result.1, hbuilt, by rw [← hlearnt]⟩

end Lists
end HeaderDecoder
end SecureChannel
