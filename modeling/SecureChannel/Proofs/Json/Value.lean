import SecureChannel.Json.Value
import SecureChannel.Proofs.Json.Token

/-! Values are read back from their text, and all that is read can be written. -/
namespace SecureChannel.Json

namespace Progress

variable {stack : List Frame} {rest : List Token} {t : Token}

theorem run_cons (p : Progress) (t : Token) (rest : List Token) :
    run p (t :: rest) = (step p t).bind (run · rest) := rfl

theorem step_firstItem (ht : t ≠ .endArray) :
    step (.firstItem stack) t = step (.value (.array [] :: stack)) t := by
  cases t <;> first | rfl | exact absurd rfl ht

end Progress

namespace Value

open Progress (run run_cons step_firstItem)

/-- What holds of a container as soon as it holds of all that it contains holds of all values. -/
@[elab_as_elim]
theorem induction {motive : Value → Prop} (null : motive .null) (bool : ∀ b, motive (.bool b))
    (number : ∀ n, motive (.number n)) (string : ∀ t, motive (.string t))
    (array : ∀ items, (∀ v ∈ items, motive v) → motive (.array items))
    (object : ∀ members, (∀ m ∈ members, motive m.2) → motive (.object members)) :
    ∀ v, motive v
  | .null => null
  | .bool b => bool b
  | .number n => number n
  | .string t => string t
  | .array items => array items fun v _ => induction null bool number string array object v
  | .object members => object members fun m _ => induction null bool number string array object m.2
termination_by v => sizeOf v
decreasing_by
  · have hsize := List.sizeOf_lt_of_mem ‹v ∈ items›
    rw [Value.array.sizeOf_spec]
    omega
  · have hsize := List.sizeOf_lt_of_mem ‹m ∈ members›
    obtain ⟨name, v⟩ := m
    rw [Prod.mk.sizeOf_spec] at hsize
    rw [Value.object.sizeOf_spec]
    show sizeOf v < _
    omega

section Reading

/-- The tokens of a value are read as this value, whatever is open around it. -/
def ReadBack (v : Value) : Prop :=
  ∀ stack rest, run (.value stack) (v.tokens ++ rest) = run (.ended v stack) rest

variable {items done : List Value} {members known : List (Text × Value)} {stack : List Frame}
  {rest : List Token}

theorem exists_tokens_eq_cons (v : Value) : ∃ t more, v.tokens = t :: more ∧ t ≠ .endArray := by
  cases v with
  | array items => exact ⟨.beginArray, _, rfl, nofun⟩
  | object members => exact ⟨.beginObject, _, rfl, nofun⟩
  | _ => exact ⟨_, [], rfl, nofun⟩

theorem exists_itemTokens_eq_append (v : Value) (items : List Value) :
    ∃ more, itemTokens (v :: items) = v.tokens ++ more := by
  cases items with
  | nil => exact ⟨[], (List.append_nil _).symm⟩
  | cons w items => exact ⟨_, rfl⟩

/-- An array that is not empty begins with a value. -/
theorem run_firstItem (v : Value) (items : List Value) (stack : List Frame) (rest : List Token) :
    run (.firstItem stack) (itemTokens (v :: items) ++ rest) =
      run (.value (.array [] :: stack)) (itemTokens (v :: items) ++ rest) := by
  obtain ⟨more, hmore⟩ := exists_itemTokens_eq_append v items
  obtain ⟨t, tokens, htokens, ht⟩ := v.exists_tokens_eq_cons
  rw [hmore, htokens, List.cons_append, List.cons_append, run_cons, run_cons, step_firstItem ht]

/-- An object that is not empty begins with a name. -/
theorem run_firstName (member : Text × Value) (members : List (Text × Value)) (stack : List Frame)
    (rest : List Token) :
    run (.firstName stack) (memberTokens (member :: members) ++ rest) =
      run (.nextName [] stack) (memberTokens (member :: members) ++ rest) := by
  obtain ⟨name, v⟩ := member
  cases members <;> rfl

/-- Items are read one by one, each into the array that is open. -/
theorem run_itemTokens (hitems : ∀ v ∈ items, ReadBack v) (hne : items ≠ []) :
    run (.value (.array done :: stack)) (itemTokens items ++ .endArray :: rest) =
      run (.ended (.array (done.reverse ++ items)) stack) rest := by
  induction items generalizing done with
  | nil => exact absurd rfl hne
  | cons v items ih =>
    obtain ⟨hv, hmore⟩ := List.forall_mem_cons.mp hitems
    have hdone : (v :: done).reverse ++ items = done.reverse ++ v :: items := by simp
    cases items with
    | nil =>
      rw [itemTokens, hv, ← hdone, List.append_nil]
      rfl
    | cons w items =>
      rw [itemTokens, List.append_assoc, hv, ← hdone, ← ih hmore (List.cons_ne_nil _ _)]
      rfl

/-- Members are read one by one, each into the object that is open. -/
theorem run_memberTokens (hmembers : ∀ m ∈ members, ReadBack m.2) (hne : members ≠ []) :
    run (.nextName known stack) (memberTokens members ++ .endObject :: rest) =
      run (.ended (.object (known.reverse ++ members)) stack) rest := by
  induction members generalizing known with
  | nil => exact absurd rfl hne
  | cons member members ih =>
    obtain ⟨name, v⟩ := member
    obtain ⟨hv, hmore⟩ := List.forall_mem_cons.mp hmembers
    have hknown : ((name, v) :: known).reverse ++ members = known.reverse ++ (name, v) :: members := by
      simp
    have hname (more : List Token) :
        run (.nextName known stack) (.string name :: .colon :: (v.tokens ++ more)) =
          run (.ended v (.object known name :: stack)) more := hv (.object known name :: stack) more
    cases members with
    | nil =>
      simp only [memberTokens, List.cons_append]
      rw [hname, ← hknown, List.append_nil]
      rfl
    | cons next members =>
      simp only [memberTokens, List.cons_append, List.append_assoc]
      rw [hname, ← hknown, ← ih hmore (List.cons_ne_nil _ _)]
      rfl

theorem readBack (v : Value) : ReadBack v := by
  induction v using induction with
  | null | bool | number | string => exact fun _ _ => rfl
  | array items ih =>
    intro stack rest
    cases items with
    | nil => rfl
    | cons v items =>
      simp only [tokens, List.cons_append, List.append_assoc]
      show run (.firstItem stack) (itemTokens (v :: items) ++ .endArray :: rest) = _
      rw [run_firstItem, run_itemTokens ih (List.cons_ne_nil _ _)]
      rfl
  | object members ih =>
    intro stack rest
    cases members with
    | nil => rfl
    | cons member members =>
      simp only [tokens, List.cons_append, List.append_assoc]
      show run (.firstName stack) (memberTokens (member :: members) ++ .endObject :: rest) = _
      rw [run_firstName, run_memberTokens ih (List.cons_ne_nil _ _)]
      rfl

theorem ofTokens?_tokens (v : Value) : ofTokens? v.tokens = some v := by
  have hrun : run (.value []) v.tokens = some (.ended v []) := by
    have hread := readBack v [] []
    rwa [List.append_nil] at hread
  unfold ofTokens?
  rw [hrun]

end Reading

section Parting

open Token (Parted)

/-- Behind the tokens of a value anything may stand that is no word. -/
def EndsFreely (v : Value) : Prop :=
  ∀ rest, Parted rest → (∀ t ∈ rest.head?, t.isWord = false) → Parted (v.tokens ++ rest)

variable {items : List Value} {members : List (Text × Value)} {t : Token} {rest : List Token}

theorem parted_cons (ht : t.isWord = false) (hrest : Parted rest) : Parted (t :: rest) := by
  apply List.IsChain.cons hrest
  intro _ _ hword
  rw [ht] at hword
  cases hword

theorem parted_itemTokens (hitems : ∀ v ∈ items, EndsFreely v) (hrest : Parted rest) :
    Parted (itemTokens items ++ .endArray :: rest) := by
  have hend : Parted (.endArray :: rest) := parted_cons rfl hrest
  induction items with
  | nil => exact hend
  | cons v items ih =>
    obtain ⟨hv, hmore⟩ := List.forall_mem_cons.mp hitems
    cases items with
    | nil => exact hv _ hend (by rintro _ ⟨⟩; rfl)
    | cons w items =>
      rw [itemTokens, List.append_assoc]
      exact hv _ (parted_cons rfl (ih hmore)) (by rintro _ ⟨⟩; rfl)

theorem parted_memberTokens (hmembers : ∀ m ∈ members, EndsFreely m.2) (hrest : Parted rest) :
    Parted (memberTokens members ++ .endObject :: rest) := by
  have hend : Parted (.endObject :: rest) := parted_cons rfl hrest
  induction members with
  | nil => exact hend
  | cons member members ih =>
    obtain ⟨name, v⟩ := member
    obtain ⟨hv, hmore⟩ := List.forall_mem_cons.mp hmembers
    cases members with
    | nil =>
      have hvalue := hv _ hend (by rintro _ ⟨⟩; rfl)
      exact parted_cons rfl (parted_cons rfl hvalue)
    | cons next members =>
      simp only [memberTokens, List.cons_append, List.append_assoc]
      have hcomma := parted_cons (t := .comma) rfl (ih hmore)
      have hvalue := hv _ hcomma (by rintro _ ⟨⟩; rfl)
      exact parted_cons rfl (parted_cons rfl hvalue)

theorem endsFreely (v : Value) : EndsFreely v := by
  have hsingle : ∀ (t : Token) (rest : List Token), Parted rest →
      (∀ u ∈ rest.head?, u.isWord = false) → Parted ([t] ++ rest) :=
    fun t rest hrest hhead => List.IsChain.cons hrest fun u hu _ => hhead u hu
  induction v using induction with
  | null | bool | number | string => exact hsingle _
  | array items ih =>
    intro rest hrest _
    simp only [tokens, List.cons_append, List.append_assoc]
    exact parted_cons rfl (parted_itemTokens ih hrest)
  | object members ih =>
    intro rest hrest _
    simp only [tokens, List.cons_append, List.append_assoc]
    exact parted_cons rfl (parted_memberTokens ih hrest)

theorem parted_tokens (v : Value) : Parted v.tokens := by
  have hparted := endsFreely v [] .nil nofun
  rwa [List.append_nil] at hparted

end Parting

section Legibility

/-- All numbers in a value are legible. -/
def Legible (v : Value) : Prop := ∀ t ∈ v.tokens, t.Legible

variable {items : List Value} {members : List (Text × Value)} {v : Value}

theorem forall_mem_itemTokens_iff :
    (∀ t ∈ itemTokens items, t.Legible) ↔ ∀ v ∈ items, v.Legible := by
  induction items with
  | nil => simp [itemTokens]
  | cons v items ih =>
    rw [List.forall_mem_cons, ← ih]
    cases items with
    | nil => simp [itemTokens, Legible]
    | cons w items =>
      rw [itemTokens, List.forall_mem_append, List.forall_mem_cons]
      exact and_congr_right fun _ => and_iff_right trivial

theorem forall_mem_memberTokens_iff :
    (∀ t ∈ memberTokens members, t.Legible) ↔ ∀ m ∈ members, m.2.Legible := by
  induction members with
  | nil => simp [memberTokens]
  | cons member members ih =>
    obtain ⟨name, v⟩ := member
    rw [List.forall_mem_cons, ← ih]
    have hname : (Token.string name).Legible := trivial
    have hcolon : Token.Legible .colon := trivial
    have hcomma : Token.Legible .comma := trivial
    cases members with
    | nil => simp [memberTokens, Legible, hname, hcolon]
    | cons next members =>
      simp only [memberTokens, List.forall_mem_cons, List.forall_mem_append, List.cons_append, hname,
        hcolon, hcomma, true_and]
      exact Iff.rfl

theorem legible_array_iff : (array items).Legible ↔ ∀ v ∈ items, v.Legible := by
  have hend : Token.Legible .endArray := trivial
  have hbegin : Token.Legible .beginArray := trivial
  rw [← forall_mem_itemTokens_iff]
  simp [Legible, tokens, hbegin, hend, or_imp, forall_and]

theorem legible_object_iff : (object members).Legible ↔ ∀ m ∈ members, m.2.Legible := by
  have hend : Token.Legible .endObject := trivial
  have hbegin : Token.Legible .beginObject := trivial
  rw [← forall_mem_memberTokens_iff]
  simp [Legible, tokens, hbegin, hend, or_imp, forall_and]

/-- A legible value is found again in its text. -/
theorem parse?_render (h : v.Legible) : parse? v.render = some v := by
  unfold parse? render
  rw [String.toList_ofList, Token.scan?_flatMap_toChars v.parted_tokens h]
  exact ofTokens?_tokens v

end Legibility

end Value

/-- All that a container holds so far is legible. -/
def Frame.Legible : Frame → Prop
  | .array items => ∀ v ∈ items, v.Legible
  | .object members _ => ∀ m ∈ members, m.2.Legible

namespace Progress

/-- All values that have been read are legible. -/
def Legible : Progress → Prop
  | .value stack | .firstItem stack | .firstName stack => ∀ f ∈ stack, f.Legible
  | .nextName members stack | .colon members _ stack =>
    (∀ m ∈ members, m.2.Legible) ∧ ∀ f ∈ stack, f.Legible
  | .ended v stack => v.Legible ∧ ∀ f ∈ stack, f.Legible

variable {p q : Progress} {stack : List Frame} {v : Value} {t : Token}

theorem legible_of_beginValue (hstack : ∀ f ∈ stack, f.Legible) (ht : t.Legible)
    (h : Progress.beginValue stack t = some q) : q.Legible := by
  have hone : ∀ u ∈ [t], u.Legible := by simpa using ht
  cases t with
  | null | bool _ | number _ | string _ =>
    obtain rfl := Option.some.inj h
    exact ⟨hone, hstack⟩
  | beginArray | beginObject =>
    obtain rfl := Option.some.inj h
    exact hstack
  | endArray | endObject | colon | comma => cases h

theorem legible_of_afterValue (hv : v.Legible) (hstack : ∀ f ∈ stack, f.Legible)
    (h : Progress.afterValue v stack t = some q) : q.Legible := by
  cases stack with
  | nil => cases h
  | cons frame rest =>
    obtain ⟨hframe, hrest⟩ := List.forall_mem_cons.mp hstack
    cases frame with
    | array items =>
      have hitems : ∀ w ∈ v :: items, w.Legible := List.forall_mem_cons.mpr ⟨hv, hframe⟩
      cases t with
      | comma =>
        obtain rfl := Option.some.inj h
        exact List.forall_mem_cons.mpr ⟨hitems, hrest⟩
      | endArray =>
        obtain rfl := Option.some.inj h
        exact ⟨Value.legible_array_iff.mpr fun w hw => hitems w (List.mem_reverse.mp hw), hrest⟩
      | _ => cases h
    | object members name =>
      have hmembers : ∀ m ∈ (name, v) :: members, m.2.Legible :=
        List.forall_mem_cons.mpr ⟨hv, hframe⟩
      cases t with
      | comma =>
        obtain rfl := Option.some.inj h
        exact ⟨hmembers, hrest⟩
      | endObject =>
        obtain rfl := Option.some.inj h
        exact ⟨Value.legible_object_iff.mpr fun m hm => hmembers m (List.mem_reverse.mp hm), hrest⟩
      | _ => cases h

theorem Legible.step (hp : p.Legible) (ht : t.Legible) (h : Progress.step p t = some q) :
    q.Legible := by
  cases p with
  | value stack => exact legible_of_beginValue hp ht h
  | firstItem stack =>
    by_cases hend : t = .endArray
    · subst hend
      obtain rfl := Option.some.inj h
      exact ⟨Value.legible_array_iff.mpr nofun, hp⟩
    · have hempty : (Frame.array []).Legible := List.forall_mem_nil _
      rw [step_firstItem hend] at h
      exact legible_of_beginValue (List.forall_mem_cons.mpr ⟨hempty, hp⟩) ht h
  | firstName stack =>
    cases t with
    | endObject =>
      obtain rfl := Option.some.inj h
      exact ⟨Value.legible_object_iff.mpr nofun, hp⟩
    | string name =>
      obtain rfl := Option.some.inj h
      exact ⟨nofun, hp⟩
    | _ => cases h
  | nextName members stack =>
    cases t with
    | string name =>
      obtain rfl := Option.some.inj h
      exact hp
    | _ => cases h
  | colon members name stack =>
    cases t with
    | colon =>
      obtain rfl := Option.some.inj h
      exact List.forall_mem_cons.mpr hp
    | _ => cases h
  | ended v stack => exact legible_of_afterValue hp.1 hp.2 h

theorem Legible.run {tokens : List Token} (hp : p.Legible) (htokens : ∀ t ∈ tokens, t.Legible)
    (h : Progress.run p tokens = some q) : q.Legible := by
  induction tokens generalizing p with
  | nil =>
    obtain rfl := Option.some.inj h
    exact hp
  | cons t tokens ih =>
    obtain ⟨ht, hmore⟩ := List.forall_mem_cons.mp htokens
    rw [run_cons] at h
    obtain ⟨p', hstep, hrun⟩ := Option.bind_eq_some_iff.mp h
    exact ih (hp.step ht hstep) hmore hrun

end Progress

namespace Value

theorem legible_of_parse? {text : String} {v : Value} (h : parse? text = some v) : v.Legible := by
  unfold parse? at h
  obtain ⟨tokens, hscan, hvalue⟩ := Option.bind_eq_some_iff.mp h
  unfold ofTokens? at hvalue
  split at hvalue
  · rename_i v' hrun
    obtain rfl := Option.some.inj hvalue
    have hstart : Progress.Legible (.value []) := nofun
    exact (hstart.run (Token.legible_of_scan? hscan) hrun).1
  · cases hvalue

end Value
end SecureChannel.Json
