import SecureChannel.Proofs.Headers.Calls
import SecureChannel.Proofs.Text.Base64
import SecureChannel.Proofs.Text.Split

/-! Binary values in a header table. What is stored for such a value are the bytes that its parts
encode, and parts that encode nothing are not taken. -/
namespace SecureChannel

/-- The entries of parts as received, with the bytes of each. -/
def HeaderEntry.ofParts (name : Bytes) (wires values : List Bytes) : List HeaderEntry :=
  wires.zipWith (fun wire value => ⟨name, value, wire⟩) values

namespace HeaderTable

/-- The one table has become the other one through parts of a binary value. These come after all that
was there before, in their order. -/
structure Appends (t : HeaderTable) (name : Bytes) (wires values : List Bytes) (u : HeaderTable) :
    Prop where
  spelled : List.Forall₂ Base64.Spells wires values
  getAll : u.getAll name = t.getAll name ++ values
  toList : u.toList = t.toList ++ wires.map (name, ·)
  entries : ∃ l, t.Holds l ∧ u.Holds (l ++ HeaderEntry.ofParts name wires values)

end HeaderTable

namespace HeaderEntry

variable {name value : Bytes} {wires values : List Bytes} {entries : List HeaderEntry}

theorem decoded_iff_spelled : List.Forall₂
      (fun wire e => e.name = name ∧ e.wire = wire ∧ Base64.decode wire = .ok e.value) wires entries ↔
    ∃ values, List.Forall₂ Base64.Spells wires values ∧ entries = ofParts name wires values := by
  constructor
  · intro h
    induction h with
    | nil => exact ⟨[], .nil, rfl⟩
    | @cons wire e wires entries he _ ih =>
      obtain ⟨values, hspelled, rfl⟩ := ih
      obtain ⟨rfl, rfl, hvalue⟩ := he
      exact ⟨e.value :: values, .cons (Base64.decode_eq_ok_iff.mp hvalue) hspelled, rfl⟩
  · rintro ⟨values, hspelled, rfl⟩
    induction hspelled with
    | nil => exact .nil
    | cons hspells _ ih => exact .cons ⟨rfl, rfl, Base64.decode_eq_ok_iff.mpr hspells⟩ ih

theorem written_binary_iff (binary : Bytes.ofString "-bin" <:+ name) :
    Written name value entries ↔ ∃ values,
      List.Forall₂ Base64.Spells (value.splitOn 0x2C) values ∧
        entries = ofParts name (value.splitOn 0x2C) values := by
  rw [← decoded_iff_spelled]
  constructor
  · intro h
    cases h with
    | plain plain => exact absurd binary plain
    | binary _ parts => exact parts
  · exact .binary binary

theorem ofParts_values (h : List.Forall₂ Base64.Spells wires values) :
    ((ofParts name wires values).filter (·.name = name)).map (·.value) = values := by
  induction h with
  | nil => rfl
  | cons _ _ ih => simpa [ofParts] using ih

theorem ofParts_wires (h : List.Forall₂ Base64.Spells wires values) :
    (ofParts name wires values).map (fun e => (e.name, e.wire)) = wires.map (name, ·) := by
  induction h with
  | nil => rfl
  | cons _ _ ih => simpa [ofParts] using ih

end HeaderEntry

namespace HeaderTable

variable {t u : HeaderTable} {l : List HeaderEntry} {name value : Bytes} {wires values : List Bytes}

theorem Holds.appends (ht : t.Holds l) (hspelled : List.Forall₂ Base64.Spells wires values)
    (hu : u.Holds (l ++ HeaderEntry.ofParts name wires values)) : t.Appends name wires values u := by
  refine ⟨hspelled, ?_, ?_, l, ht, hu⟩
  · rw [hu.getAll, ht.getAll, List.filter_append, List.map_append,
      HeaderEntry.ofParts_values hspelled]
  · rw [hu.toList, ht.toList, List.map_append, HeaderEntry.ofParts_wires hspelled]

/-- Parts without commas come apart again at the commas between them. -/
theorem Holds.add_intercalate (h : t.Holds l) (lower : name.any Bytes.isUpper = false)
    (binary : Bytes.ofString "-bin" <:+ name) (hne : values ≠ [])
    (hspelled : List.Forall₂ Base64.Spells wires values) :
    ∃ u, t.add name ([0x2C].intercalate wires) = .ok u ∧ t.Appends name wires values u := by
  have hcommas : ∀ wire ∈ wires, (0x2C : UInt8) ∉ wire :=
    forall_of_forall₂ hspelled fun _ _ hspells => hspells.comma_not_mem
  have hwires : wires ≠ [] := by
    rintro rfl
    cases hspelled
    exact hne rfl
  have hparts := List.splitOn_intercalate 0x2C hcommas hwires
  have hwritten : HeaderEntry.Written name ([0x2C].intercalate wires)
      (HeaderEntry.ofParts name wires values) := by
    rw [HeaderEntry.written_binary_iff binary, hparts]
    exact ⟨values, hspelled, rfl⟩
  obtain ⟨u, hadd, hu⟩ := h.add_written lower hwritten
  exact ⟨u, hadd, h.appends hspelled hu⟩

theorem Holds.appends_of_add (h : t.Holds l) (binary : Bytes.ofString "-bin" <:+ name)
    (hadd : t.add name value = .ok u) : ∃ values, t.Appends name (value.splitOn 0x2C) values u := by
  obtain ⟨entries, hwritten, hu⟩ := h.add hadd
  obtain ⟨values, hspelled, rfl⟩ := (HeaderEntry.written_binary_iff binary).mp hwritten
  exact ⟨values, h.appends hspelled hu⟩

/-- Bytes that were stored for a part tell this part but for its padding. -/
theorem Appends.value_eq_iff {t' u' : HeaderTable} {name' : Bytes} {wires' values' : List Bytes}
    (h : t.Appends name wires values u) (h' : t'.Appends name' wires' values' u')
    {part part' : Bytes × Bytes} (hpart : part ∈ wires.zip values)
    (hpart' : part' ∈ wires'.zip values') :
    part.2 = part'.2 ↔ part.1.rdropWhile (· = Base64.padding) =
      part'.1.rdropWhile (· = Base64.padding) := by
  have hspells : Base64.Spells part.1 part.2 := (List.forall₂_iff_zip.mp h.spelled).2 hpart
  have hspells' : Base64.Spells part'.1 part'.2 := (List.forall₂_iff_zip.mp h'.spelled).2 hpart'
  rw [hspells.rdropWhile_padding, hspells'.rdropWhile_padding]
  constructor
  · intro hvalue
    rw [hvalue]
  · exact Base64.encode_injective

/-- In every state of a table, a binary value whose parts are the encodings of bytes, with any part of
their padding, is stored as these bytes. No other value is stored, and only parts that differ in their
padding at most are stored as the same bytes. -/
theorem add_binary_stores_encoded (guess : Nat) (calls : List HeaderCall) (name : Bytes)
    (lower : name.any Bytes.isUpper = false) (binary : Bytes.ofString "-bin" <:+ name) :
    let t := (withCapacity guess).run calls
    (∀ wires values, values ≠ [] → List.Forall₂ Base64.Spells wires values →
      ∃ u, t.add name ([0x2C].intercalate wires) = .ok u ∧ t.Appends name wires values u) ∧
    (∀ value u, t.add name value = .ok u →
      ∃ values, t.Appends name (value.splitOn 0x2C) values u) ∧
    ∀ (t' u u' : HeaderTable) (name' : Bytes) (wires values wires' values' : List Bytes),
      t.Appends name wires values u → t'.Appends name' wires' values' u' →
        ∀ part ∈ wires.zip values, ∀ part' ∈ wires'.zip values',
          (part.2 = part'.2 ↔ part.1.rdropWhile (· = Base64.padding) =
            part'.1.rdropWhile (· = Base64.padding)) := by
  intro t
  obtain ⟨l, h⟩ := (holds_withCapacity guess).run calls
  refine ⟨fun wires values hne hspelled => h.add_intercalate lower binary hne hspelled,
    fun value u hadd => h.appends_of_add binary hadd, ?_⟩
  intro t' u u' name' wires values wires' values' happends happends' part hpart part' hpart'
  exact happends.value_eq_iff happends' hpart hpart'

/-- The value `AQ=,` has a part that lacks some padding, and an empty one. -/
theorem add_binary_stores_encoded_in_part :
    let name : Bytes := [0x78, 0x2D, 0x62, 0x69, 0x6E]
    let t := (withCapacity 1).run [.add name [0x41, 0x51, 0x49, 0x44]]
    name.any Bytes.isUpper = false ∧ Bytes.ofString "-bin" <:+ name ∧
      List.Forall₂ Base64.Spells [[0x41, 0x51, 0x3D], []] [[1], []] ∧
      ∃ u, t.add name [0x41, 0x51, 0x3D, 0x2C] = .ok u ∧
        u.getAll name = [[1, 2, 3], [1], []] := by
  intro name t
  have hspelled : List.Forall₂ Base64.Spells [[0x41, 0x51, 0x3D], []] [[1], []] :=
    .cons ⟨1, by decide, by decide⟩ (.cons ⟨0, by decide, by decide⟩ .nil)
  obtain ⟨hstores, -⟩ := add_binary_stores_encoded 1 [.add name [0x41, 0x51, 0x49, 0x44]]
    name (by decide) (by decide +kernel)
  obtain ⟨u, hadd, happends⟩ := hstores _ _ (List.cons_ne_nil _ _) hspelled
  refine ⟨by decide, by decide +kernel, hspelled, u, hadd, ?_⟩
  rw [happends.getAll]
  decide +kernel

end HeaderTable
end SecureChannel
