import SecureChannel.Proofs.Config.Fields

/-! Configurations are kept by the documents they are written as. -/
namespace SecureChannel

open Json (Text Value)
open Json.Value (Reordered)
open Config

namespace Config

section Documents

variable {α : Type} (names : List String) (write : α → Value) (read : Value → Option α)

/-- Records with these fields live on in their documents. -/
structure Kept : Prop where
  /-- What is written is read back. -/
  written (a : α) : readText? read (write a).render = some a
  /-- A document may be replaced by what is written for its record. -/
  rewritten {text : String} {a : α} : readText? read text = some a →
    readText? read (write a).render = readText? read text
  /-- Members may trade places in any objects of a document. -/
  reordered {text text' : String} {v w : Value} : Value.parse? text = some v →
    Value.parse? text' = some w → Reordered v w → readText? read text' = readText? read text
  /-- Documents with members in other places exist. -/
  rendered {text : String} {v w : Value} : Value.parse? text = some v → Reordered v w →
    readText? read w.render = readText? read text
  /-- Members that are no fields do not count. -/
  ignored {name : String} {v : Value} {members : List (Text × Value)} : name ∉ names →
    read (.object ((some name, v) :: members)) = read (.object members)
  /-- Fields may be given without their names. -/
  positional {items : List Value} : items.length ≤ names.length →
    read (.array items) = read (.object ((names.map some).zip items))

variable {names write read}

theorem Stable.reordered {v w : Value} (hread : Stable read) (h : Reordered v w) :
    read v = read w := by
  induction h with
  | refl => rfl
  | tail _ hstep ih => rw [ih, hread _ _ hstep]

theorem kept (hnames : names.Nodup) (hlegible : ∀ a, (write a).Legible)
    (hread : ∀ a, read (write a) = some a) (hstable : Stable read)
    (hfields : ∀ v w, fields? names v = fields? names w → read v = read w) :
    Kept names write read := by
  have hwritten : ∀ a, readText? read (write a).render = some a := by
    intro a
    unfold readText?
    rw [Value.parse?_render (hlegible a)]
    exact hread a
  have hreordered : ∀ {text text' v w}, Value.parse? text = some v → Value.parse? text' = some w →
      Reordered v w → readText? read text' = readText? read text := by
    intro text text' v w hv hw h
    unfold readText?
    rw [hv, hw]
    exact (hstable.reordered h).symm
  constructor
  · exact hwritten
  · intro text a h
    rw [h]
    exact hwritten a
  · exact hreordered
  · intro text v w hv h
    have hlegible : w.Legible := h.legible (Value.legible_of_parse? hv)
    exact hreordered hv (Value.parse?_render hlegible) h
  · intro name v members hname
    exact hfields _ _ (fields?_cons_of_not_mem hname)
  · intro items hfits
    exact hfields _ _ (fields?_array hnames hfits)

end Documents
end Config

namespace MatcherSpec

theorem stable_ofJson? : Stable ofJson? := by
  apply stable_fields
  rintro _ _ (_ | ⟨h₁, _ | ⟨h₂, _ | ⟨h₃, _ | ⟨h₄, _ | ⟨h₅, _ | ⟨h₆, _ | _⟩⟩⟩⟩⟩⟩)
  all_goals try rfl
  simp only [stable_pattern?.field? none h₁, stable_pattern?.field? none h₂,
    stable_pattern?.field? none h₃, stable_pattern?.field? none h₄,
    stable_pattern?.field? none h₅, stable_flag?.field? false h₆]

variable (spec : MatcherSpec)

theorem toJson_eq_written : spec.toJson = .object (written fieldNames
    [spec.exact.map .text, spec.leading.map .text, spec.trailing.map .text,
      spec.contained.map .text, spec.safeRegex.map .text, some (.bool spec.ignoreCase)]) := by
  have hpatterns := written_texts [("exact", spec.exact), ("prefix", spec.leading),
    ("suffix", spec.trailing), ("contains", spec.contained), ("safe-regex", spec.safeRegex)]
  unfold toJson patterns
  rw [← hpatterns]
  exact congrArg Value.object
    (written_append ["ignore-case"] [some (.bool spec.ignoreCase)] rfl).symm

theorem legible_toJson : spec.toJson.Legible := by
  unfold toJson
  rw [Value.legible_object_iff, List.forall_mem_append]
  constructor
  · intro member hmember
    obtain ⟨pattern, -, rfl⟩ := List.mem_map.mp hmember
    exact legible_text pattern.2
  · exact List.forall_mem_singleton.mpr (legible_bool spec.ignoreCase)

theorem ofJson?_toJson : ofJson? spec.toJson = some spec := by
  unfold ofJson?
  rw [toJson_eq_written, fields?_written (by decide) rfl]
  simp only [Option.bind_eq_bind, Option.bind_some, pattern?_text]
  rfl

theorem ofJson?_congr (v w : Value) (h : fields? fieldNames v = fields? fieldNames w) :
    ofJson? v = ofJson? w := by
  unfold ofJson?
  rw [h]

end MatcherSpec

namespace ValidationContext

variable (context : ValidationContext)

theorem stable_ofJson? : Stable ofJson? := by
  apply stable_fields
  rintro _ _ (_ | ⟨h, _ | _⟩)
  all_goals try rfl
  simp only [MatcherSpec.stable_ofJson?.items?.field? [] h]

theorem legible_toJson : context.toJson.Legible := by
  unfold toJson
  rw [Value.legible_object_iff, List.forall_mem_singleton, Value.legible_array_iff]
  intro item hitem
  obtain ⟨spec, -, rfl⟩ := List.mem_map.mp hitem
  exact spec.legible_toJson

theorem ofJson?_toJson : ofJson? context.toJson = some context := by
  have hwritten : context.toJson =
      .object (written fieldNames [some (.array (context.matchers.map MatcherSpec.toJson))]) := rfl
  have hmatchers := items?_map MatcherSpec.ofJson?_toJson context.matchers
  unfold ofJson?
  rw [hwritten, fields?_written (by decide) rfl]
  simp only [Option.bind_eq_bind, Option.bind_some, field?, hmatchers]
  rfl

theorem ofJson?_congr (v w : Value) (h : fields? fieldNames v = fields? fieldNames w) :
    ofJson? v = ofJson? w := by
  unfold ofJson?
  rw [h]

end ValidationContext

namespace HeaderLimits

variable (limits : HeaderLimits)

theorem stable_ofJson? : Stable ofJson? := by
  apply stable_fields
  rintro _ _ (_ | ⟨h₁, _ | ⟨h₂, _ | _⟩⟩)
  all_goals try rfl
  simp only [stable_limit?.field? 8192 h₁, stable_limit?.field? 8 h₂]

theorem legible_toJson : limits.toJson.Legible := by
  unfold toJson
  rw [Value.legible_object_iff, List.forall_mem_cons, List.forall_mem_singleton]
  exact ⟨legible_nat _, legible_nat _⟩

theorem ofJson?_toJson : ofJson? limits.toJson = some limits := by
  have hwritten : limits.toJson = .object (written fieldNames
      [some (.nat limits.maxListSize.toNat), some (.nat limits.initialGuess.toNat)]) := rfl
  unfold ofJson?
  rw [hwritten, fields?_written (by decide) rfl]
  simp only [Option.bind_eq_bind, Option.bind_some, field?, limit?_nat]
  rfl

theorem ofJson?_congr (v w : Value) (h : fields? fieldNames v = fields? fieldNames w) :
    ofJson? v = ofJson? w := by
  unfold ofJson?
  rw [h]

end HeaderLimits

namespace TransportConfig

variable (config : TransportConfig)

theorem stable_ofJson? : Stable ofJson? := by
  apply stable_fields
  rintro _ _ (_ | ⟨h₁, _ | ⟨h₂, _ | _⟩⟩)
  all_goals try rfl
  simp only [ValidationContext.stable_ofJson?.field? {} h₁, HeaderLimits.stable_ofJson?.field? {} h₂]

theorem legible_toJson : config.toJson.Legible := by
  unfold toJson
  rw [Value.legible_object_iff, List.forall_mem_cons, List.forall_mem_singleton]
  exact ⟨config.validation.legible_toJson, config.headers.legible_toJson⟩

theorem ofJson?_toJson : ofJson? config.toJson = some config := by
  have hwritten : config.toJson = .object (written fieldNames
      [some config.validation.toJson, some config.headers.toJson]) := rfl
  unfold ofJson?
  rw [hwritten, fields?_written (by decide) rfl]
  simp only [Option.bind_eq_bind, Option.bind_some, field?, ValidationContext.ofJson?_toJson,
    HeaderLimits.ofJson?_toJson]
  rfl

theorem ofJson?_congr (v w : Value) (h : fields? fieldNames v = fields? fieldNames w) :
    ofJson? v = ofJson? w := by
  unfold ofJson?
  rw [h]

end TransportConfig

/-- Configurations of every kind are kept by their documents. -/
theorem configurations_kept :
    Kept TransportConfig.fieldNames TransportConfig.toJson TransportConfig.ofJson? ∧
      Kept ValidationContext.fieldNames ValidationContext.toJson ValidationContext.ofJson? ∧
        Kept MatcherSpec.fieldNames MatcherSpec.toJson MatcherSpec.ofJson? ∧
          Kept HeaderLimits.fieldNames HeaderLimits.toJson HeaderLimits.ofJson? := by
  refine ⟨?_, ?_, ?_, ?_⟩
  · exact kept (by decide) TransportConfig.legible_toJson TransportConfig.ofJson?_toJson
      TransportConfig.stable_ofJson? TransportConfig.ofJson?_congr
  · exact kept (by decide) ValidationContext.legible_toJson ValidationContext.ofJson?_toJson
      ValidationContext.stable_ofJson? ValidationContext.ofJson?_congr
  · exact kept (by decide) MatcherSpec.legible_toJson MatcherSpec.ofJson?_toJson
      MatcherSpec.stable_ofJson? MatcherSpec.ofJson?_congr
  · exact kept (by decide) HeaderLimits.legible_toJson HeaderLimits.ofJson?_toJson
      HeaderLimits.stable_ofJson? HeaderLimits.ofJson?_congr

/-- Members out of order, an unknown one, a pattern that is null and limits given by position. -/
theorem configurations_kept_in_disorder :
    let spec : MatcherSpec := { trailing := some ".example", ignoreCase := true }
    let config : TransportConfig := { validation := ⟨[spec]⟩, headers := { maxListSize := 16384 } }
    let matcher : Value := .object
      [(some "ignore-case", .bool true), (some "exact", .null), (some "suffix", .text ".example")]
    let document : Value := .object
      [(some "headers", .array [.nat 16384]), (some "note", .text "any"),
        (some "validation-context", .object [(some "match-subject-alt-names", .array [matcher])])]
    readText? TransportConfig.ofJson? config.toJson.render =
        readText? TransportConfig.ofJson? document.render ∧
      readText? TransportConfig.ofJson? config.toJson.render = some config := by
  intro spec config matcher document
  have hread : readText? TransportConfig.ofJson? document.render = some config := by decide +kernel
  exact ⟨configurations_kept.1.rewritten hread, configurations_kept.1.written config⟩

end SecureChannel
