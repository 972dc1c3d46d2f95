import Mathlib.Data.List.Forall2
import SecureChannel.Regex.Parser.Escape

/-! Patterns set before a closing bracket. What is read off a pattern alone is read off it there as
well, and what is left of the text goes on with the bracket, unless a comment has swallowed it. -/
namespace SecureChannel.Regex.Parser

/-- The end of an anchored pattern. -/
def closing : List Char := [')', '\\', 'z']

/-- The second text goes on where the first one ends. A comment at the end leaves nothing of it. -/
inductive Continues : List Char → List Char → Prop
  | more (cs) : Continues cs (cs ++ closing)
  | swallowed : Continues [] []

/-- What is read first is also read second, with a rest that goes on. -/
def Extends {α : Type} (o o' : Option (α × List Char)) : Prop :=
  ∀ x rest, o = some (x, rest) → ∃ rest', o' = some (x, rest') ∧ Continues rest rest'

/-- Steps through a text, and through one that goes on. -/
inductive StepsContinue : List (Char × List Char) → List (Char × List Char) → Prop
  | done {more} (h : ∀ s ∈ more.head?, s.1 = ')') : StepsContinue [] more
  | step {c rest rest' ss ss'} (hrest : Continues rest rest') (h : StepsContinue ss ss') :
      StepsContinue ((c, rest) :: ss) ((c, rest') :: ss')

section Extends

variable {α β : Type} {o o' : Option (α × List Char)}

theorem Extends.none : Extends none o' := nofun

theorem Extends.some {x : α} {rest rest' : List Char} (h : Continues rest rest') :
    Extends (some (x, rest)) (some (x, rest')) := by
  rintro y more ⟨⟩
  exact ⟨rest', rfl, h⟩

theorem Extends.pair (o : Option α) {rest rest' : List Char} (h : Continues rest rest') :
    Extends (o.map (·, rest)) (o.map (·, rest')) := by
  cases o with
  | none => exact .none
  | some x => exact .some h

theorem Extends.map (h : Extends o o') (f : α → β) :
    Extends (o.map fun p => (f p.1, p.2)) (o'.map fun p => (f p.1, p.2)) := by
  intro y rest hy
  obtain ⟨⟨x, rest⟩, hx, heq⟩ := Option.map_eq_some_iff.mp hy
  cases heq
  obtain ⟨rest', hx', hrest⟩ := h x rest hx
  exact ⟨rest', by rw [hx']; rfl, hrest⟩

theorem Extends.bind {f f' : α × List Char → Option (β × List Char)} (h : Extends o o')
    (hf : ∀ x rest rest', Continues rest rest' → Extends (f (x, rest)) (f' (x, rest'))) :
    Extends (o.bind f) (o'.bind f') := by
  intro y more hy
  obtain ⟨⟨x, rest⟩, hx, hfx⟩ := Option.bind_eq_some_iff.mp hy
  obtain ⟨rest', hx', hrest⟩ := h x rest hx
  rw [hx']
  exact hf x rest rest' hrest y more hfx

end Extends

section Blanks

variable {cs cs' : List Char}

theorem Continues.cons_eq {c : Char} (h : Continues (c :: cs) cs') :
    ∃ rest, cs' = c :: rest ∧ Continues cs rest := by
  cases h
  exact ⟨_, rfl, .more cs⟩

theorem Continues.nil_eq (h : Continues [] cs') : cs' = closing ∨ cs' = [] := by
  cases h
  · exact .inl rfl
  · exact .inr rfl

theorem Continues.head_ne {c : Char} (h : Continues cs cs') (hc : c ≠ ')')
    (hne : ∀ rest, cs = c :: rest → False) (rest : List Char) : cs' = c :: rest → False := by
  rintro rfl
  generalize hcs' : c :: rest = cs' at h
  cases h with
  | more =>
    cases cs with
    | nil => exact hc (List.cons_eq_cons.mp hcs').1
    | cons d cs =>
      obtain ⟨rfl, -⟩ := List.cons_eq_cons.mp hcs'
      exact hne _ rfl
  | swallowed => cases hcs'

theorem Continues.head?_ne {c : Char} (h : Continues cs cs') (hc : c ≠ ')') :
    (cs.head? != some c) = (cs'.head? != some c) := by
  cases h with
  | more =>
    cases cs with
    | nil => simp [closing, bne, hc.symm]
    | cons d cs => rfl
  | swallowed => rfl

private theorem isBlank_closing : isBlank ')' = false := by decide +kernel

private theorem skipFrom_continues (cs : List Char) (comment : Bool) :
    Continues (skipFrom comment cs) (skipFrom comment (cs ++ closing)) := by
  induction cs generalizing comment with
  | nil =>
    cases comment with
    | false =>
      have hclosing : skipFrom false closing = closing := by
        simp [closing, skipFrom, isBlank_closing]
      rw [List.nil_append, hclosing]
      exact .more []
    | true => exact .swallowed
  | cons c cs ih =>
    cases comment with
    | false =>
      simp only [List.cons_append, skipFrom]
      split
      · exact ih false
      · split
        · exact ih true
        · exact .more (c :: cs)
    | true => exact ih (c != '\n')

theorem Continues.skip (h : Continues cs cs') (verbose : Bool) :
    Continues (skip verbose cs) (skip verbose cs') := by
  cases verbose with
  | false => exact h
  | true =>
    cases h with
    | more => exact skipFrom_continues cs false
    | swallowed => exact .swallowed

private theorem stepsFrom_continues (verbose : Bool) (last : Char → Bool) (cs : List Char)
    (comment : Bool) :
    StepsContinue (stepsFrom verbose last comment cs)
      (stepsFrom verbose last comment (cs ++ closing)) := by
  induction cs generalizing comment with
  | nil =>
    cases comment with
    | false =>
      refine .done ?_
      simp [closing, stepsFrom, isBlank_closing]
    | true => exact .done nofun
  | cons c cs ih =>
    cases comment with
    | false =>
      simp only [List.cons_append, stepsFrom]
      split
      · exact ih false
      · split
        · exact ih true
        · refine .step (.more cs) ?_
          split
          · exact .done nofun
          · exact ih false
    | true => exact ih (c != '\n')

theorem Continues.steps (h : Continues cs cs') (verbose : Bool) (last : Char → Bool) :
    StepsContinue (steps verbose last cs) (steps verbose last cs') := by
  cases h with
  | more => exact stepsFrom_continues verbose last cs false
  | swallowed => exact .done nofun

end Blanks

section Steps

variable {ss ss' : List (Char × List Char)} {p : Char → Bool}

theorem StepsContinue.cons_eq {c : Char} {rest : List Char} (h : StepsContinue ((c, rest) :: ss) ss') :
    ∃ rest' more, ss' = (c, rest') :: more ∧ Continues rest rest' ∧ StepsContinue ss more := by
  cases h with
  | step hrest h => exact ⟨_, _, rfl, hrest, h⟩

/-- A step that is found is found at the same place. -/
theorem StepsContinue.dropWhile_of_found (p : Char → Bool) {found : Char × List Char} {more : List (Char × List Char)}
    (h : StepsContinue ss ss') (hfound : ss.dropWhile (p ·.1) = found :: more) :
    StepsContinue (ss.dropWhile (p ·.1)) (ss'.dropWhile (p ·.1)) ∧
      (ss'.takeWhile (p ·.1)).map (·.1) = (ss.takeWhile (p ·.1)).map (·.1) := by
  induction h with
  | done => simp at hfound
  | @step c rest rest' ss ss' hrest h ih =>
    by_cases hp : p c = true
    · simp only [List.dropWhile_cons, hp, if_true] at hfound ⊢
      simpa [hp] using ih hfound
    · simpa [hp] using StepsContinue.step hrest h

/-- Steps that the bracket ends are passed alike, found or not. -/
theorem StepsContinue.dropWhile (h : StepsContinue ss ss') (hp : p ')' = false) :
    StepsContinue (ss.dropWhile (p ·.1)) (ss'.dropWhile (p ·.1)) ∧
      (ss'.takeWhile (p ·.1)).map (·.1) = (ss.takeWhile (p ·.1)).map (·.1) := by
  induction h with
  | @done more hmore =>
    cases more with
    | nil => exact ⟨.done nofun, rfl⟩
    | cons s more =>
      obtain ⟨c, rest⟩ := s
      obtain rfl : c = ')' := hmore _ rfl
      simpa [hp] using StepsContinue.done hmore
  | @step c rest rest' ss ss' hrest h ih =>
    by_cases hc : p c = true
    · simpa [hc] using ih
    · simpa [hc] using StepsContinue.step hrest h

theorem marked?_extends (h : StepsContinue ss ss') (mark : Char) (hmark : mark ≠ ')') :
    (marked? mark ss = none → marked? mark ss' = none) ∧
      ∀ cs more, marked? mark ss = some (cs, more) → ∃ cs' more',
        marked? mark ss' = some (cs', more') ∧ Continues cs cs' ∧ StepsContinue more more' := by
  cases h with
  | done hmore =>
    refine ⟨fun _ => ?_, nofun⟩
    cases ss' with
    | nil => rfl
    | cons s more =>
      obtain ⟨c, rest⟩ := s
      obtain rfl : c = ')' := hmore _ rfl
      exact if_neg hmark.symm
  | @step c rest rest' ss ss' hrest h =>
    simp only [marked?]
    by_cases hc : c = mark
    · simp only [if_pos hc]
      refine ⟨nofun, ?_⟩
      rintro _ _ ⟨⟩
      exact ⟨rest', ss', rfl, hrest, h⟩
    · simp [if_neg hc]

/-- The first steps, with what follows the last of them. -/
theorem StepsContinue.take (h : StepsContinue ss ss') {width : Nat} (hwidth : width ≤ ss.length) :
    width ≤ ss'.length ∧ (ss'.take width).map (·.1) = (ss.take width).map (·.1) ∧
      ∀ s, (ss.take width).getLast? = some s →
        ∃ s', (ss'.take width).getLast? = some s' ∧ Continues s.2 s'.2 := by
  induction width generalizing ss ss' with
  | zero => simp
  | succ width ih =>
    cases h with
    | done => simp at hwidth
    | @step c rest rest' ss ss' hrest h =>
      obtain ⟨hlength, hmap, hlast⟩ := ih h (by simpa using hwidth)
      refine ⟨by simpa using hlength, by simpa using hmap, ?_⟩
      intro s hs
      rw [List.take_succ_cons, List.getLast?_cons] at hs ⊢
      cases htake : (ss.take width).getLast? with
      | some t =>
        obtain ⟨t', ht', hcontinues⟩ := hlast t htake
        obtain rfl : t = s := by simpa [htake] using hs
        exact ⟨t', by rw [ht']; rfl, hcontinues⟩
      | none =>
        obtain rfl : (c, rest) = s := by simpa [htake] using hs
        have htake' : (ss'.take width).getLast? = none := by
          rw [List.getLast?_eq_none_iff] at htake ⊢
          rw [htake, List.map_nil, List.map_eq_nil_iff] at hmap
          exact hmap
        exact ⟨(c, rest'), by rw [htake']; rfl, hrest⟩

theorem count?_extends (h : StepsContinue ss ss') {n : Option Nat} {rest : List (Char × List Char)}
    (hcount : count? ss = some (n, rest)) :
    ∃ rest', count? ss' = some (n, rest') ∧ StepsContinue rest rest' := by
  have hblanks := (h.dropWhile isBlank_closing).1
  obtain ⟨hdigits, hsame⟩ := hblanks.dropWhile (p := Char.isDigit) rfl
  have hrest := (hdigits.dropWhile isBlank_closing).1
  simp only [count?] at hcount ⊢
  rw [hsame]
  split at hcount
  · next hempty =>
    cases hcount
    exact ⟨_, by rw [if_pos hempty], hrest⟩
  · next hempty =>
    obtain ⟨k, hk, heq⟩ := Option.map_eq_some_iff.mp hcount
    cases heq
    exact ⟨_, by rw [if_neg hempty, hk]; rfl, hrest⟩

end Steps

section Escapes

variable {cs cs' : List Char}

theorem withBounds_extends (h : Continues cs cs') (min : Nat) (max : Option Nat) :
    Extends (some (withBounds min max cs)) (some (withBounds min max cs')) := by
  cases cs with
  | nil => obtain rfl | rfl := h.nil_eq <;> exact .some h
  | cons c cs =>
    obtain ⟨rest, rfl, hrest⟩ := h.cons_eq
    by_cases hc : c = '?'
    · subst hc
      exact .some hrest
    · have hplain (cs : List Char) : withBounds min max (c :: cs) = (⟨false, min, max⟩, c :: cs) := by
        simp [withBounds, hc]
      rw [hplain, hplain]
      exact .some h

theorem bounds?_extends (h : Continues cs cs') (verbose : Bool) :
    Extends (bounds? verbose cs) (bounds? verbose cs') := by
  intro b rest hb
  simp only [bounds?, bind, Option.bind_eq_some_iff] at hb ⊢
  obtain ⟨⟨least, ss⟩, hcount, n, hn, hb⟩ := hb
  obtain ⟨ss', hcount', hss⟩ := count?_extends (h.steps verbose _) hcount
  subst hn
  simp only [hcount', Option.some.injEq, exists_eq_left']
  obtain ⟨hopen, hclosed⟩ := marked?_extends hss '}' (by decide)
  cases hbrace : marked? '}' ss with
  | some found =>
    obtain ⟨cs, more⟩ := found
    obtain ⟨cs', more', hbrace', hcs, -⟩ := hclosed cs more hbrace
    simp only [hbrace, hbrace'] at hb ⊢
    exact withBounds_extends (hcs.skip verbose) n (some n) b rest hb
  | none =>
    simp only [hbrace, hopen hbrace, Option.bind_eq_some_iff] at hb ⊢
    obtain ⟨⟨comma, ss⟩, hcomma, hb⟩ := hb
    obtain ⟨comma', ss', hcomma', -, hss⟩ := (marked?_extends hss ',' (by decide)).2 comma ss hcomma
    simp only [hcomma', Option.some.injEq, exists_eq_left']
    obtain ⟨hopen, hclosed⟩ := marked?_extends hss '}' (by decide)
    cases hbrace : marked? '}' ss with
    | some found =>
      obtain ⟨cs, more⟩ := found
      obtain ⟨cs', more', hbrace', hcs, -⟩ := hclosed cs more hbrace
      simp only [hbrace, hbrace'] at hb ⊢
      exact withBounds_extends (hcs.skip verbose) n none b rest hb
    | none =>
      simp only [hbrace, hopen hbrace, Option.bind_eq_some_iff] at hb ⊢
      obtain ⟨⟨most, ss⟩, hcount, m, hm, ⟨cs, more⟩, hbrace, hb⟩ := hb
      obtain ⟨ss', hcount', hss⟩ := count?_extends hss hcount
      subst hm
      obtain ⟨cs', more', hbrace', hcs, -⟩ := (marked?_extends hss '}' (by decide)).2 cs more hbrace
      simp only [hcount', Option.some.injEq, exists_eq_left', hbrace']
      split at hb
      · next hle =>
        rw [if_pos hle]
        exact withBounds_extends (hcs.skip verbose) n (some m) b rest hb
      · cases hb

theorem braced?_extends (h : Continues cs cs') (verbose : Bool) :
    Extends (braced? verbose cs) (braced? verbose cs') := by
  intro name rest hname
  simp only [braced?] at hname ⊢
  split at hname
  · next mark rest more hfound =>
    cases hname
    obtain ⟨hdrop, htake⟩ := (h.steps verbose (· == '}')).dropWhile_of_found (· != '}') hfound
    rw [hfound] at hdrop
    obtain ⟨rest', more', hfound', hrest, -⟩ := hdrop.cons_eq
    rw [hfound', htake]
    exact ⟨rest', rfl, hrest⟩
  · cases hname

theorem digits?_extends (h : Continues cs cs') (verbose : Bool) (width : Nat) :
    Extends (digits? verbose width cs) (digits? verbose width cs') := by
  intro digits rest hdigits
  simp only [digits?] at hdigits ⊢
  split at hdigits
  · cases hdigits
  · next hwidth =>
    obtain ⟨hlength, hmap, hlast⟩ := (h.steps verbose (Bytes.hexValue? · |>.isNone)).take
      (show width ≤ _ by rw [List.length_take] at hwidth; omega)
    obtain ⟨s, hs, heq⟩ := Option.map_eq_some_iff.mp hdigits
    cases heq
    obtain ⟨s', hs', hrest⟩ := hlast s hs
    refine ⟨s'.2, ?_, hrest⟩
    rw [if_neg (by rw [List.length_take]; omega), hs', hmap]
    rfl

theorem hexDigits?_extends (h : Continues cs cs') (verbose : Bool) (width : Nat) :
    Extends (hexDigits? verbose width cs) (hexDigits? verbose width cs') := by
  intro digits rest hdigits
  have hskip := h.skip verbose
  unfold hexDigits? at hdigits ⊢
  split at hdigits
  · next inside heq =>
    rw [heq] at hskip
    obtain ⟨inside', heq', hinside⟩ := hskip.cons_eq
    obtain ⟨hbraced, hempty⟩ := Option.filter_eq_some_iff.mp hdigits
    obtain ⟨rest', hbraced', hrest⟩ := braced?_extends hinside verbose digits rest hbraced
    rw [heq']
    exact ⟨rest', Option.filter_eq_some_iff.mpr ⟨hbraced', hempty⟩, hrest⟩
  · next hne =>
    split
    · next inside heq => exact (hskip.head_ne (by decide) hne inside heq).elim
    · exact digits?_extends hskip verbose width digits rest hdigits

theorem hexEscape?_extends (h : Continues cs cs') (verbose : Bool) (width : Nat) :
    Extends (hexEscape? verbose width cs) (hexEscape? verbose width cs') := by
  refine (hexDigits?_extends h verbose width).bind fun digits rest rest' hrest => ?_
  intro c more hc
  simp only [bind, Option.bind_eq_some_iff] at hc ⊢
  obtain ⟨n, hn, c, hc, heq⟩ := hc
  cases heq
  exact ⟨_, ⟨n, hn, c, hc, rfl⟩, hrest.skip verbose⟩

theorem property?_extends (h : Continues cs cs') (verbose : Bool) :
    Extends (property? verbose cs) (property? verbose cs') := by
  intro property rest hproperty
  have hskip := h.skip verbose
  unfold property? at hproperty ⊢
  split at hproperty
  · next inside heq =>
    rw [heq] at hskip
    obtain ⟨inside', heq', hinside⟩ := hskip.cons_eq
    rw [heq']
    exact (braced?_extends hinside verbose).map propertyName property rest hproperty
  · next c ds hne heq =>
    rw [heq] at hskip
    obtain ⟨ds', heq', hds⟩ := hskip.cons_eq
    rw [heq']
    split
    · next heq => exact (hne (List.cons_eq_cons.mp heq).1).elim
    · next heq =>
      obtain ⟨rfl, rfl⟩ := List.cons_eq_cons.mp heq
      split at hproperty
      · cases hproperty
      · next hc =>
        rw [if_neg hc]
        exact Extends.some (hds.skip verbose) property rest hproperty
    · next heq => cases heq
  · cases hproperty

theorem narrowed?_extends (h : Continues cs cs') (verbose : Bool) :
    Extends (narrowed? verbose cs) (narrowed? verbose cs') := by
  cases h with
  | swallowed => exact .none
  | more =>
    have hsteps := (Continues.more cs).steps verbose (!isBoundaryChar ·)
    obtain ⟨hdrop, htake⟩ := hsteps.dropWhile (p := isBoundaryChar) rfl
    have hempty : (steps verbose (!isBoundaryChar ·) cs).isEmpty = false →
        (steps verbose (!isBoundaryChar ·) (cs ++ closing)).isEmpty = false := by
      intro hss
      cases heq : steps verbose (!isBoundaryChar ·) cs with
      | nil => simp [heq] at hss
      | cons s ss =>
        rw [heq] at hsteps
        obtain ⟨rest', more, hmore, -⟩ := hsteps.cons_eq
        rw [hmore, List.isEmpty_cons]
    intro anchor rest hanchor
    simp only [narrowed?, htake] at hanchor ⊢
    cases hss : (steps verbose (!isBoundaryChar ·) cs).isEmpty with
    | true => simp [hss] at hanchor
    | false =>
      rw [hss] at hanchor
      rw [hempty hss]
      simp only [Bool.false_eq_true, if_false] at hanchor ⊢
      split at hanchor
      · next hname =>
        rw [if_pos hname]
        exact Extends.some (.more ('{' :: cs)) anchor rest hanchor
      · next hname =>
        rw [if_neg hname]
        simp only [bind, Option.bind_eq_some_iff] at hanchor ⊢
        obtain ⟨⟨inner, more⟩, hbrace, named, hnamed, heq⟩ := hanchor
        cases heq
        obtain ⟨rest', more', hbrace', hrest, -⟩ :=
          (marked?_extends hdrop '}' (by decide)).2 _ _ hbrace
        exact ⟨rest', ⟨_, hbrace', _, hnamed, rfl⟩, hrest⟩

theorem boundary?_extends (h : Continues cs cs') (verbose : Bool) :
    Extends (boundary? verbose cs) (boundary? verbose cs') := by
  intro anchor rest hanchor
  unfold boundary? at hanchor ⊢
  split at hanchor
  · next inside =>
    obtain ⟨inside', rfl, hinside⟩ := h.cons_eq
    exact narrowed?_extends hinside verbose anchor rest hanchor
  · next hne =>
    split
    · next inside => exact (h.head_ne (by decide) hne inside rfl).elim
    · exact Extends.some h anchor rest hanchor

theorem escape?_extends (h : Continues cs cs') (verbose : Bool) :
    Extends (escape? verbose cs) (escape? verbose cs') := by
  cases cs with
  | nil => exact .none
  | cons c cs =>
    obtain ⟨cs', rfl, hcs⟩ := h.cons_eq
    simp only [escape?, ← (hcs.skip verbose).head?_ne (c := '{') (by decide)]
    split_ifs
    · exact (hexEscape?_extends hcs verbose 2).map fun ch => Primitive.literal ⟨ch, _⟩
    · exact (hexEscape?_extends hcs verbose 4).map fun ch => Primitive.literal ⟨ch, false⟩
    · exact (hexEscape?_extends hcs verbose 8).map fun ch => Primitive.literal ⟨ch, false⟩
    · exact (property?_extends hcs verbose).map fun p => Primitive.property p.1 ((c == 'P') != p.2)
    · exact (boundary?_extends hcs verbose).map Primitive.anchor
    · exact .some hcs
    · exact .pair (letter? c) hcs

end Escapes
end SecureChannel.Regex.Parser
