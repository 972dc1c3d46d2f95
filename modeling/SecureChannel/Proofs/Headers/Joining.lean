import SecureChannel.Proofs.Headers.Wire

/-! Binary values that are joined with commas. To store a joined value is to store the values one after
the other, and where one of them is refused the joined value is refused for the same reason. -/
namespace SecureChannel

/-- What is said of adding values to a table or to a view under one name: joined values are taken if
each of them would be, and all that comes of them is what comes of the values in turn. -/
structure AddsInTurn {σ : Type} (add : σ → Bytes → Except HeaderError σ) : Prop where
  taken (s : σ) (a b : Bytes) : (∃ u, add s (a ++ 0x2C :: b) = .ok u) ↔
    (∃ u, add s a = .ok u) ∧ ∃ u, add s b = .ok u
  pair (s : σ) (a b : Bytes) : add s (a ++ 0x2C :: b) = add s a >>= fun u => add u b
  allTaken (s : σ) (values : List Bytes) (h : values ≠ []) :
    (∃ u, add s ([0x2C].intercalate values) = .ok u) ↔ ∀ value ∈ values, ∃ u, add s value = .ok u
  all (s : σ) (values : List Bytes) (h : values ≠ []) :
    add s ([0x2C].intercalate values) = values.foldlM add s

section Turns

variable {σ : Type} {add : σ → Bytes → Except HeaderError σ}

variable (pair : ∀ s a b, add s (a ++ 0x2C :: b) = add s a >>= fun u => add u b)
include pair

/-- With one comma done, any number of them is. -/
theorem intercalate_eq_foldlM (s : σ) {values : List Bytes} (h : values ≠ []) :
    add s ([0x2C].intercalate values) = values.foldlM add s := by
  induction values generalizing s with
  | nil => exact absurd rfl h
  | cons value rest ih =>
    by_cases hrest : rest = []
    · subst hrest
      rw [List.intercalate_singleton, List.foldlM_cons]
      cases add s value <;> rfl
    · rw [List.intercalate_cons_of_ne_nil hrest, List.append_assoc, List.singleton_append, pair,
        List.foldlM_cons]
      simp only [ih _ hrest]

/-- Values that do not get in each other's way are taken together if each of them is. -/
theorem addsInTurn_of_pair
    (apart : ∀ s u a b, add s a = .ok u → ((∃ w, add u b = .ok w) ↔ ∃ w, add s b = .ok w)) :
    AddsInTurn add := by
  have taken (s : σ) (a b : Bytes) : (∃ u, add s (a ++ 0x2C :: b) = .ok u) ↔
      (∃ u, add s a = .ok u) ∧ ∃ u, add s b = .ok u := by
    simp only [pair, bind_eq_ok_iff]
    constructor
    · intro ⟨w, u, ha, hb⟩
      exact ⟨⟨u, ha⟩, (apart s u a b ha).mp ⟨w, hb⟩⟩
    · intro ⟨⟨u, ha⟩, hb⟩
      obtain ⟨w, hw⟩ := (apart s u a b ha).mpr hb
      exact ⟨w, u, ha, hw⟩
  refine ⟨taken, pair, ?_, fun s _ => intercalate_eq_foldlM pair s⟩
  intro s values h
  induction values with
  | nil => exact absurd rfl h
  | cons value rest ih =>
    by_cases hrest : rest = []
    · subst hrest
      rw [List.intercalate_singleton]
      simp
    · rw [List.intercalate_cons_of_ne_nil hrest, List.append_assoc, List.singleton_append, taken,
        ih hrest, List.forall_mem_cons]

end Turns

namespace HeaderTable

variable {t t' : HeaderTable} {name value : Bytes}

theorem segments_append_cons (name a b : Bytes) :
    segments name (a ++ 0x2C :: b) = do return (← segments name a) ++ (← segments name b) := by
  unfold segments
  rw [List.splitOn_append_cons_self, List.mapM_append]

/-- No table refuses a field that another one takes. -/
theorem exists_add_iff (t t' : HeaderTable) (name value : Bytes) :
    (∃ u, t.add name value = .ok u) ↔ ∃ u, t'.add name value = .ok u := by
  cases h : t.add name value with
  | error e =>
    have h' : t'.add name value = .error e := add_eq_error_iff.mpr (add_eq_error_iff.mp h)
    simp [h']
  | ok u =>
    cases h' : t'.add name value with
    | error e =>
      have := (add_eq_error_iff (t := t)).mpr (add_eq_error_iff.mp h')
      simp [h] at this
    | ok u' => simp

/-- The parts of both values are decoded before any is stored, which comes to the same. -/
theorem add_append_cons (t : HeaderTable) (binary : Bytes.ofString "-bin" <:+ name) (a b : Bytes) :
    t.add name (a ++ 0x2C :: b) = t.add name a >>= fun u => u.add name b := by
  cases hname : name.any Bytes.isUpper with
  | true =>
    rw [add_of_upper hname, add_of_upper hname]
    rfl
  | false =>
    simp only [add_of_lower hname, if_pos binary, segments_append_cons]
    cases segments name a with
    | error e => rfl
    | ok before =>
      cases segments name b with
      | error e => rfl
      | ok after =>
        show Except.ok ((before ++ after).foldl _ t) = _
        rw [List.foldl_append]
        rfl

theorem addsInTurn (binary : Bytes.ofString "-bin" <:+ name) :
    AddsInTurn fun (t : HeaderTable) value => t.add name value :=
  addsInTurn_of_pair (fun t a b => t.add_append_cons binary a b)
    fun t u _ b _ => u.exists_add_iff t name b

end HeaderTable

namespace HeaderView

variable {side : Side} {v w : HeaderView side} {name : Bytes}

/-- A name that has no place is refused with every value. -/
theorem add_of_placeless (hoisted : side.hoisted? name = none)
    (pseudo : side = .request ∧ name.head? = some 0x3A) :
    ∃ e, ∀ (v : HeaderView side) value, v.add name value = .error e := by
  cases hname : name.any Bytes.isUpper with
  | true => exact ⟨_, fun v value => add_of_upper hname⟩
  | false => exact ⟨_, fun v value => add_of_illegal hname hoisted pseudo⟩

/-- Slots hold no binary values. -/
theorem tabled_or_placeless (side : Side) (binary : Bytes.ofString "-bin" <:+ name) :
    side.Tabled name ∨ ∃ e, ∀ (v : HeaderView side) value, v.add name value = .error e := by
  rcases hoisted_or_tabled_or_illegal side name with ⟨k, hoisted⟩ | htabled | ⟨hoisted, hpseudo⟩
  · exact absurd binary (Side.plain_of_hoisted? hoisted).2
  · exact .inl htabled
  · exact .inr (add_of_placeless hoisted hpseudo)

theorem add_append_cons (v : HeaderView side) (binary : Bytes.ofString "-bin" <:+ name)
    (a b : Bytes) : v.add name (a ++ 0x2C :: b) = v.add name a >>= fun w => w.add name b := by
  rcases tabled_or_placeless side binary with htabled | ⟨e, he⟩
  · simp only [add_of_tabled htabled, v.table.add_append_cons binary]
    cases v.table.add name a with
    | error e => rfl
    | ok t => rfl
  · rw [he, he]
    rfl

theorem exists_add_iff (binary : Bytes.ofString "-bin" <:+ name) (v w : HeaderView side)
    (value : Bytes) : (∃ u, v.add name value = .ok u) ↔ ∃ u, w.add name value = .ok u := by
  rcases tabled_or_placeless side binary with htabled | ⟨e, he⟩
  · have hmap (v : HeaderView side) : (∃ u, v.add name value = .ok u) ↔
        ∃ t, v.table.add name value = .ok t := by
      rw [add_of_tabled htabled]
      cases v.table.add name value <;> simp [Except.map]
    rw [hmap, hmap]
    exact v.table.exists_add_iff w.table name value
  · rw [he, he]

theorem addsInTurn (binary : Bytes.ofString "-bin" <:+ name) :
    AddsInTurn fun (v : HeaderView side) value => v.add name value :=
  addsInTurn_of_pair (fun v a b => v.add_append_cons binary a b)
    fun v u _ b _ => exists_add_iff binary u v b

end HeaderView

/-- A binary value is stored part by part, in tables and in views of either side. Values that are
joined with commas are taken if each of them would be, and then all is as if they had been added in
turn: the entries, their order, and the room for them. -/
theorem joined_values_add_in_turn (name : Bytes) (binary : Bytes.ofString "-bin" <:+ name) :
    AddsInTurn (fun (t : HeaderTable) value => t.add name value) ∧
      ∀ side, AddsInTurn fun (v : HeaderView side) value => v.add name value :=
  ⟨HeaderTable.addsInTurn binary, fun _ => HeaderView.addsInTurn binary⟩

/-- The values `AQ==,` and `Aw` of `x-bin` are joined to `AQ==,,Aw`, and a full table grows more than
once. With `!` among them the values are refused. -/
theorem joined_values_add_in_turn_at_growth :
    let name : Bytes := [0x78, 0x2D, 0x62, 0x69, 0x6E]
    let t := (HeaderTable.withCapacity 1).run [.add name [0x41, 0x51, 0x49, 0x44]]
    let first : Bytes := [0x41, 0x51, 0x3D, 0x3D, 0x2C]
    let second : Bytes := [0x41, 0x77]
    Bytes.ofString "-bin" <:+ name ∧ t.capacity = 1 ∧
      (∃ u, t.add name (first ++ 0x2C :: second) = .ok u ∧
        u.getAll name = [[1, 2, 3], [1], [], [3]] ∧ u.capacity = 4 ∧
        (t.add name first >>= fun u => u.add name second) = .ok u) ∧
      ¬ ∃ u, t.add name ([0x2C].intercalate [first, [0x21], second]) = .ok u := by
  intro name t first second
  obtain ⟨htable, -⟩ := joined_values_add_in_turn name (by decide +kernel)
  refine ⟨by decide +kernel, by decide, ?_, ?_⟩
  · obtain ⟨u, hu⟩ : ∃ u, t.add name (first ++ 0x2C :: second) = .ok u := ⟨_, rfl⟩
    have hpair := htable.pair t first second
    have hstored : (t.add name (first ++ 0x2C :: second)).map
        (fun u => (u.getAll name, u.capacity)) = .ok ([[1, 2, 3], [1], [], [3]], 4) := by
      decide +kernel
    rw [hu] at hstored
    obtain ⟨hvalues, hcapacity⟩ := Prod.mk.inj (Except.ok.inj hstored)
    exact ⟨u, hu, hvalues, hcapacity, hpair.symm.trans hu⟩
  · intro hjoint
    have heach := (htable.allTaken t [first, [0x21], second] (by decide)).mp hjoint
    obtain ⟨w, hw⟩ := heach [0x21] (by decide)
    have hrefused : (t.add name [0x21]).toOption = none := by decide +kernel
    rw [hw] at hrefused
    cases hrefused

end SecureChannel
