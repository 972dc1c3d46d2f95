import Mathlib.Data.List.Forall2
import Mathlib.Logic.Relation
import SecureChannel.Config.Document
import SecureChannel.Proofs.Json.Value
import SecureChannel.Proofs.Option

/-! Fields of records. They are found again where they were written, and where the members of objects
have traded places. -/
namespace SecureChannel

namespace Json.Value

/-- Somewhere in a value, the members of one object trade places. -/
inductive Reorders : Value → Value → Prop
  | members {members members' : List (Text × Value)} :
      members.Perm members' → Reorders (.object members) (.object members')
  | item {v w : Value} (before after : List Value) :
      Reorders v w → Reorders (.array (before ++ v :: after)) (.array (before ++ w :: after))
  | member {v w : Value} (before : List (Text × Value)) (name : Text)
      (after : List (Text × Value)) : Reorders v w →
      Reorders (.object (before ++ (name, v) :: after)) (.object (before ++ (name, w) :: after))

/-- Members of objects trade places, within any objects and as often as it may be. -/
abbrev Reordered : Value → Value → Prop := Relation.ReflTransGen Reorders

theorem Reorders.legible {v w : Value} (h : Reorders v w) (hv : v.Legible) : w.Legible := by
  induction h with
  | members hperm =>
    rw [legible_object_iff] at hv ⊢
    exact fun m hm => hv m (hperm.mem_iff.mpr hm)
  | item before after _ ih =>
    rw [legible_array_iff, List.forall_mem_append, List.forall_mem_cons] at hv ⊢
    exact ⟨hv.1, ih hv.2.1, hv.2.2⟩
  | member before name after _ ih =>
    rw [legible_object_iff, List.forall_mem_append, List.forall_mem_cons] at hv ⊢
    exact ⟨hv.1, ih hv.2.1, hv.2.2⟩

theorem Reordered.legible {v w : Value} (h : Reordered v w) (hv : v.Legible) : w.Legible := by
  induction h with
  | refl => exact hv
  | tail _ hstep ih => exact hstep.legible ih

end Json.Value

namespace Config

open Json (Text Value)
open Json.Value (Reorders)

section Writing

/-- The members for the fields that are set. -/
def written : List String → List (Option Value) → List (Text × Value)
  | name :: names, some v :: values => (some name, v) :: written names values
  | _ :: names, none :: values => written names values
  | _, _ => []

variable {names : List String} {values : List (Option Value)} {name : String}
  {member : Text × Value} {members : List (Text × Value)}

theorem exists_name_of_mem_written (h : member ∈ written names values) :
    ∃ name ∈ names, member.1 = some name := by
  induction names generalizing values with
  | nil => cases h
  | cons name names ih =>
    match values with
    | [] => cases h
    | none :: values =>
      obtain ⟨other, hother, heq⟩ := ih h
      exact ⟨other, List.mem_cons_of_mem _ hother, heq⟩
    | some v :: values =>
      rcases List.mem_cons.mp h with rfl | h
      · exact ⟨name, List.mem_cons_self, rfl⟩
      · obtain ⟨other, hother, heq⟩ := ih h
        exact ⟨other, List.mem_cons_of_mem _ hother, heq⟩

theorem filter_written_eq_nil (h : name ∉ names) :
    (written names values).filter (·.1 == some name) = [] := by
  rw [List.filter_eq_nil_iff]
  intro member hmember hname
  obtain ⟨other, hother, heq⟩ := exists_name_of_mem_written hmember
  rw [heq, beq_iff_eq, Option.some.injEq] at hname
  exact h (hname ▸ hother)

theorem given?_cons_of_ne (h : member.1 ≠ some name) :
    given? (member :: members) name = given? members name := by
  unfold given?
  rw [List.filter_cons_of_neg (by simpa using h)]

theorem mapM_given?_cons {v : Value} (hname : name ∉ names) :
    names.mapM (given? ((some name, v) :: members)) = names.mapM (given? members) := by
  induction names with
  | nil => rfl
  | cons other names ih =>
    obtain ⟨hne, hmore⟩ := not_or.mp (List.mem_cons.not.mp hname)
    have hother : (some name : Text) ≠ some other := fun heq => hne (Option.some.inj heq)
    rw [List.mapM_cons, List.mapM_cons, given?_cons_of_ne hother, ih hmore]

/-- Each field is found under its name. -/
theorem mapM_given?_written (hnames : names.Nodup) (hlength : values.length = names.length) :
    names.mapM (given? (written names values)) = some values := by
  induction names generalizing values with
  | nil =>
    obtain rfl : values = [] := List.eq_nil_of_length_eq_zero hlength
    rfl
  | cons name names ih =>
    obtain ⟨hname, hnodup⟩ := List.nodup_cons.mp hnames
    match values with
    | [] => cases hlength
    | value :: values =>
      have hmore := ih hnodup (Nat.succ.inj hlength)
      have hfirst : given? (written (name :: names) (value :: values)) name = some value := by
        cases value with
        | none => simp [given?, written, filter_written_eq_nil hname]
        | some v => simp [given?, written, filter_written_eq_nil hname]
      have hothers : names.mapM (given? (written (name :: names) (value :: values))) =
          names.mapM (given? (written names values)) := by
        cases value with
        | none => rfl
        | some v => exact mapM_given?_cons hname
      rw [List.mapM_cons, hfirst, hothers, hmore]
      rfl

theorem fields?_written (hnames : names.Nodup) (hlength : values.length = names.length) :
    fields? names (.object (written names values)) = some values := by
  have hkeys : ¬ (written names values).any (·.1.isNone) = true := by
    rw [List.any_eq_true]
    intro ⟨member, hmember, hnone⟩
    obtain ⟨name, -, heq⟩ := exists_name_of_mem_written hmember
    rw [heq] at hnone
    cases hnone
  show (if _ then _ else _) = _
  rw [if_neg hkeys]
  exact mapM_given?_written hnames hlength

theorem written_append (names' : List String) (values' : List (Option Value))
    (hlength : values.length = names.length) :
    written (names ++ names') (values ++ values') = written names values ++ written names' values' := by
  induction names generalizing values with
  | nil =>
    obtain rfl : values = [] := List.eq_nil_of_length_eq_zero hlength
    rfl
  | cons name names ih =>
    match values with
    | [] => cases hlength
    | none :: values => exact ih (Nat.succ.inj hlength)
    | some v :: values => exact congrArg ((some name, v) :: ·) (ih (Nat.succ.inj hlength))

/-- Items without names are the first fields. -/
theorem written_range (names : List String) (items : List Value) :
    written names ((List.range names.length).map (items[·]?)) = (names.map some).zip items := by
  induction names generalizing items with
  | nil => rfl
  | cons name names ih =>
    rw [List.length_cons, List.range_succ_eq_map, List.map_cons, List.map_map]
    cases items with
    | nil =>
      have hmore := ih []
      rw [List.zip_nil_right] at hmore
      exact hmore
    | cons item items => exact congrArg ((some name, item) :: ·) (ih items)

/-- An array gives its items the names of the fields, in their declared order. -/
theorem fields?_array {items : List Value} (hnames : names.Nodup)
    (hfits : items.length ≤ names.length) :
    fields? names (.array items) = fields? names (.object ((names.map some).zip items)) := by
  have hlength : ((List.range names.length).map (items[·]?)).length = names.length := by simp
  rw [← written_range, fields?_written hnames hlength]
  exact if_pos hfits

/-- A member that is no field is ignored. -/
theorem fields?_cons_of_not_mem {v : Value} (hname : name ∉ names) :
    fields? names (.object ((some name, v) :: members)) = fields? names (.object members) := by
  show (if _ then none else names.mapM _) = if _ then none else names.mapM _
  rw [mapM_given?_cons hname, List.any_cons]
  rfl

/-- Texts that are not set are left out. -/
theorem written_texts (texts : List (String × Option String)) :
    written (texts.map (·.1)) (texts.map (·.2.map .text)) =
      (texts.filterMap fun (name, text) => text.map fun t => (name, t)).map
        fun (name, t) => (some name, .text t) := by
  induction texts with
  | nil => rfl
  | cons field texts ih =>
    match field with
    | (name, none) => exact ih
    | (name, some t) => exact congrArg ((some name, .text t) :: ·) ih

end Writing

section Forms

theorem legible_text (s : String) : (Value.text s).Legible := List.forall_mem_singleton.mpr trivial

theorem legible_bool (b : Bool) : (Value.bool b).Legible := List.forall_mem_singleton.mpr trivial

theorem legible_nat (n : Nat) : (Value.nat n).Legible := List.forall_mem_singleton.mpr rfl

theorem pattern?_text (pattern : Option String) :
    field? none pattern? (pattern.map .text) = some pattern := by
  cases pattern <;> rfl

theorem limit?_nat (limit : UInt64) : limit? (.nat limit.toNat) = some limit := by
  show (if limit.toNat < UInt64.size then some (UInt64.ofNat limit.toNat) else none) = some limit
  rw [if_pos limit.toNat_lt, UInt64.ofNat_toNat]

theorem items?_map {α : Type} {write : α → Value} {read : Value → Option α}
    (h : ∀ a, read (write a) = some a) (items : List α) :
    items? read (.array (items.map write)) = some items :=
  mapM_map_of_inverse fun a _ => h a

end Forms

section Order

/-- Equal, or with the members of one object in other places. -/
abbrev Near : Value → Value → Prop := Relation.ReflGen Reorders

/-- A reader that does not mind the order of members. -/
def Stable {α : Type} (read : Value → Option α) : Prop := ∀ v w, Reorders v w → read v = read w

variable {α : Type} {v w : Value} {value value' : Option Value} {read : Value → Option α}
  {members members' : List (Text × Value)} {names : List String}

theorem near_refl (value : Option Value) : Option.Rel Near value value :=
  optionRel_refl (fun _ => .refl) value

theorem given?_perm (h : members.Perm members') : given? members = given? members' := by
  funext name
  have hfilter := h.filter (·.1 == some name)
  unfold given?
  generalize members.filter (·.1 == some name) = found at hfilter ⊢
  generalize members'.filter (·.1 == some name) = found' at hfilter ⊢
  match found, found' with
  | [], _ => rw [hfilter.nil_eq]
  | [_], _ => rw [hfilter.singleton_eq]
  | _ :: _ :: _, _ :: _ :: _ => rfl
  | _ :: _ :: _, [] => cases hfilter.length_eq
  | _ :: _ :: _, [_] => cases hfilter.length_eq

theorem given?_near (before after : List (Text × Value)) (key : Text) (name : String)
    (h : Reorders v w) : Option.Rel (Option.Rel Near)
      (given? (before ++ (key, v) :: after) name) (given? (before ++ (key, w) :: after) name) := by
  by_cases hkey : (key == some name) = true
  · have hfilter : ∀ value : Value, (before ++ (key, value) :: after).filter (·.1 == some name) =
        before.filter (·.1 == some name) ++ (key, value) :: after.filter (·.1 == some name) :=
      fun _ => by rw [List.filter_append, List.filter_cons, if_pos hkey]
    unfold given?
    rw [hfilter, hfilter]
    generalize before.filter (·.1 == some name) = first
    generalize after.filter (·.1 == some name) = last
    -- the member is read only where it is the one of its name
    match first, last with
    | [], [] => exact .some (.some (.single h))
    | [], _ :: _ => exact .none
    | [_], _ => exact .none
    | _ :: _ :: _, _ => exact .none
  · have hfilter : ∀ value : Value, (before ++ (key, value) :: after).filter (·.1 == some name) =
        before.filter (·.1 == some name) ++ after.filter (·.1 == some name) :=
      fun _ => by rw [List.filter_append, List.filter_cons, if_neg hkey]
    unfold given?
    rw [hfilter, hfilter]
    exact optionRel_refl near_refl _

theorem getElem?_near (before after : List Value) (h : Reorders v w) (i : Nat) :
    Option.Rel Near (before ++ v :: after)[i]? (before ++ w :: after)[i]? := by
  rcases lt_trichotomy i before.length with hlt | heq | hgt
  · rw [List.getElem?_append_left hlt, List.getElem?_append_left hlt]
    exact near_refl _
  · subst heq
    rw [List.getElem?_append_right le_rfl, List.getElem?_append_right le_rfl, Nat.sub_self]
    exact .some (.single h)
  · obtain ⟨k, hk⟩ : ∃ k, i - before.length = k + 1 := ⟨i - before.length - 1, by omega⟩
    rw [List.getElem?_append_right hgt.le, List.getElem?_append_right hgt.le, hk]
    exact near_refl _

/-- Each field is given as it was, up to the order of members in it. -/
theorem fields?_near (names : List String) (h : Reorders v w) :
    Option.Rel (List.Forall₂ (Option.Rel Near)) (fields? names v) (fields? names w) := by
  cases h with
  | @members members members' hperm =>
    have hkeys : members.any (·.1.isNone) = members'.any (·.1.isNone) := hperm.any_eq
    show Option.Rel _ (if _ then none else names.mapM _) (if _ then none else names.mapM _)
    rw [hkeys, given?_perm hperm]
    exact optionRel_refl (fun _ => List.forall₂_same.mpr fun value _ => near_refl value) _
  | @item v w before after h =>
    have hlength : (before ++ v :: after).length = (before ++ w :: after).length := by
      rw [List.length_append, List.length_append]
      rfl
    show Option.Rel _ (if _ then some _ else none) (if _ then some _ else none)
    rw [hlength]
    by_cases hfits : (before ++ w :: after).length ≤ names.length
    · rw [if_pos hfits, if_pos hfits]
      apply Option.Rel.some
      rw [List.forall₂_map_left_iff, List.forall₂_map_right_iff]
      exact List.forall₂_same.mpr fun i _ => getElem?_near before after h i
    · rw [if_neg hfits, if_neg hfits]
      exact .none
  | @member v w before key after h =>
    have hkeys : (before ++ (key, v) :: after).any (·.1.isNone) =
        (before ++ (key, w) :: after).any (·.1.isNone) := by
      rw [List.any_append, List.any_append]
      rfl
    show Option.Rel _ (if _ then none else names.mapM _) (if _ then none else names.mapM _)
    rw [hkeys]
    by_cases hbroken : (before ++ (key, w) :: after).any (·.1.isNone) = true
    · rw [if_pos hbroken, if_pos hbroken]
      exact .none
    · rw [if_neg hbroken, if_neg hbroken]
      apply mapM_rel (List.forall₂_same.mpr fun name _ => (rfl : name = name))
      intro name _ heq
      subst heq
      exact given?_near before after key name h

theorem Stable.near (hread : Stable read) (h : Near v w) : read v = read w := by
  cases h with
  | refl => rfl
  | single h => exact hread v w h

theorem Stable.field? (hread : Stable read) (default : α) (h : Option.Rel Near value value') :
    Config.field? default read value = Config.field? default read value' := by
  cases h with
  | none => rfl
  | some hnear => exact hread.near hnear

/-- A record is read from its fields, which do not mind the order of members. -/
theorem stable_fields {build : List (Option Value) → Option α}
    (h : ∀ values values', List.Forall₂ (Option.Rel Near) values values' →
      build values = build values') : Stable fun v => fields? names v >>= build := by
  intro v w hvw
  have hfields := fields?_near names hvw
  show fields? names v >>= build = fields? names w >>= build
  generalize fields? names v = values, fields? names w = values' at hfields
  cases hfields with
  | none => rfl
  | some hvalues => exact h _ _ hvalues

theorem stable_pattern? : Stable pattern? := by
  intro v w h
  cases h <;> rfl

theorem stable_flag? : Stable flag? := by
  intro v w h
  cases h <;> rfl

theorem stable_limit? : Stable limit? := by
  intro v w h
  cases h <;> rfl

theorem Stable.items? (hread : Stable read) : Stable (Config.items? read) := by
  intro v w h
  cases h with
  | members _ => rfl
  | member _ _ _ _ => rfl
  | @item v w before after h =>
    show (before ++ v :: after).mapM read = (before ++ w :: after).mapM read
    rw [List.mapM_append, List.mapM_append, List.mapM_cons, List.mapM_cons, hread v w h]

end Order

end Config
end SecureChannel
