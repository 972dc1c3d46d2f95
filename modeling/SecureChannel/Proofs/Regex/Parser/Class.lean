import Mathlib.Data.List.TakeWhile
import SecureChannel.Proofs.Regex.Parser.Escape
import SecureChannel.Regex.Parser.Class

/-! Bracketed classes before a closing bracket. -/
namespace SecureChannel.Regex.Parser

section Marks

/-- What ends a run ends it also before other text. -/
theorem run_append {p : Char → Bool} {cs rest : List Char} {c : Char}
    (h : cs.dropWhile p = c :: rest) (more : List Char) :
    (cs ++ more).takeWhile p = cs.takeWhile p ∧ (cs ++ more).dropWhile p = c :: (rest ++ more) := by
  have hlength : (cs.takeWhile p).length ≠ cs.length := by
    have hsplit := congrArg List.length (List.takeWhile_append_dropWhile (p := p) (l := cs))
    rw [h, List.length_append, List.length_cons] at hsplit
    omega
  rw [List.takeWhile_append, if_neg hlength, List.dropWhile_append, h]
  exact ⟨rfl, rfl⟩

/-- The name of a POSIX class ends at a colon, and the end of a pattern has none. -/
private theorem posixNamed?_append (negated : Bool) (cs : List Char) :
    posixNamed? negated (cs ++ closing) =
      (posixNamed? negated cs).map fun p => (p.1, p.2 ++ closing) := by
  unfold posixNamed?
  cases hrest : cs.dropWhile (· != ':') with
  | nil => simp [List.dropWhile_append, hrest, closing]
  | cons c rest =>
    obtain ⟨htake, hdrop⟩ := run_append hrest closing
    rw [htake, hdrop]
    cases rest with
    | nil => simp [closing]
    | cons d rest =>
      by_cases hmarks : c = ':' ∧ d = ']'
      · obtain ⟨rfl, rfl⟩ := hmarks
        simp [Function.comp_def]
      · rw [List.cons_append]
        split <;> split <;> simp_all

theorem posix?_append (cs : List Char) :
    posix? (cs ++ closing) = (posix? cs).map fun p => (p.1, p.2 ++ closing) := by
  match cs with
  | [] => rfl
  | [c] =>
    by_cases hc : c = ':'
    · subst hc
      exact posixNamed?_append false []
    · simp [posix?, hc]
  | c :: d :: cs =>
    by_cases hc : c = ':'
    · subst hc
      by_cases hd : d = '^'
      · subst hd
        exact posixNamed?_append true cs
      · simpa [posix?, hd] using posixNamed?_append false (d :: cs)
    · simp [posix?, hc]

theorem setOperator?_append (cs : List Char) :
    setOperator? (cs ++ closing) = (setOperator? cs).map fun p => (p.1, p.2 ++ closing) := by
  match cs with
  | [] => rfl
  | [c] => simp [setOperator?, closing]
  | c :: d :: cs =>
    simp only [setOperator?, List.cons_append]
    split <;> simp_all

/-- Marks that a bracket cannot complete are found alike. -/
private theorem extends_of_append {α : Type} {f : List Char → Option (α × List Char)}
    (hnil : f [] = none) (hf : ∀ cs, f (cs ++ closing) = (f cs).map fun p => (p.1, p.2 ++ closing))
    {cs cs' : List Char} (h : Continues cs cs') :
    (f cs = none → f cs' = none) ∧ Extends (f cs) (f cs') := by
  cases h with
  | more =>
    rw [hf]
    refine ⟨fun hnone => by rw [hnone]; rfl, ?_⟩
    rintro x rest hx
    exact ⟨_, by rw [hx]; rfl, .more rest⟩
  | swallowed =>
    rw [hnil]
    exact ⟨fun _ => rfl, .none⟩

theorem posix?_extends {cs cs' : List Char} (h : Continues cs cs') :
    (posix? cs = none → posix? cs' = none) ∧ Extends (posix? cs) (posix? cs') :=
  extends_of_append rfl posix?_append h

theorem setOperator?_extends {cs cs' : List Char} (h : Continues cs cs') :
    (setOperator? cs = none → setOperator? cs' = none) ∧
      Extends (setOperator? cs) (setOperator? cs') :=
  extends_of_append rfl setOperator?_append h

end Marks

section Items

variable {cs cs' : List Char}

theorem caret_continues (h : Continues cs cs') (verbose : Bool) :
    (caret verbose cs).1 = (caret verbose cs').1 ∧
      Continues (caret verbose cs).2 (caret verbose cs').2 := by
  have hskip := h.skip verbose
  unfold caret
  split
  · next rest heq =>
    rw [heq] at hskip
    obtain ⟨rest', heq', hrest⟩ := hskip.cons_eq
    rw [heq']
    exact ⟨rfl, hrest.skip verbose⟩
  · next hne =>
    split
    · next rest heq => exact (hskip.head_ne (by decide) hne rest heq).elim
    · exact ⟨rfl, hskip⟩

theorem hyphens_continues (h : Continues cs cs') (verbose : Bool) (items : List ClassSet)
    {ss ss' : List (Char × List Char)} (hss : StepsContinue ss ss') :
    (hyphens verbose cs items ss).1 = (hyphens verbose cs' items ss').1 ∧
      Continues (hyphens verbose cs items ss).2 (hyphens verbose cs' items ss').2 := by
  induction hss generalizing cs cs' items with
  | @done more hmore =>
    cases more with
    | nil => exact ⟨rfl, h⟩
    | cons s more =>
      obtain ⟨c, rest⟩ := s
      obtain rfl : c = ')' := hmore _ rfl
      simpa [hyphens] using h
  | @step c rest rest' ss ss' hrest hss ih =>
    by_cases hc : c = '-'
    · subst hc
      simpa [hyphens] using ih (hrest.skip verbose) _
    · simpa [hyphens, hc] using h

theorem firstBracket_continues (h : Continues cs cs') (verbose : Bool) (items : List ClassSet) :
    (firstBracket verbose items cs).1 = (firstBracket verbose items cs').1 ∧
      Continues (firstBracket verbose items cs).2 (firstBracket verbose items cs').2 := by
  unfold firstBracket
  split
  · next rest =>
    obtain ⟨rest', rfl, hrest⟩ := h.cons_eq
    exact ⟨rfl, hrest.skip verbose⟩
  · next hne =>
    split
    · next rest => exact (h.head_ne (by decide) (fun rest => hne rest rfl) rest rfl).elim
    · exact ⟨rfl, h⟩

theorem openClass?_extends (h : Continues cs cs') (verbose : Bool) :
    Extends (openClass? verbose cs) (openClass? verbose cs') := by
  obtain ⟨hnegated, hcaret⟩ := caret_continues h verbose
  obtain ⟨hitems, hhyphens⟩ := hyphens_continues hcaret verbose [] (hcaret.steps verbose (· != '-'))
  obtain ⟨hfirst, hrest⟩ := firstBracket_continues hhyphens verbose
    (hyphens verbose (caret verbose cs).2 [] (steps verbose (· != '-') (caret verbose cs).2)).1
  rw [hitems] at hrest hfirst
  simp only [openClass?, hnegated, hitems, hfirst]
  revert hrest
  generalize (firstBracket verbose _ (hyphens verbose (caret verbose cs).2 _ _).2).2 = ds
  intro hrest
  cases ds with
  | nil => exact .none
  | cons d ds =>
    obtain ⟨ds', heq, -⟩ := hrest.cons_eq
    rw [heq] at hrest ⊢
    exact .some hrest

theorem classPrimitive?_extends (h : Continues cs cs') (verbose : Bool) :
    Extends (classPrimitive? verbose cs) (classPrimitive? verbose cs') := by
  intro p rest hp
  unfold classPrimitive? at hp ⊢
  split at hp
  · cases hp
  · next cs =>
    obtain ⟨cs', rfl, hcs⟩ := h.cons_eq
    exact escape?_extends hcs verbose p rest hp
  · next c cs hne =>
    obtain ⟨cs', rfl, hcs⟩ := h.cons_eq
    split
    · next heq => cases heq
    · next heq => exact (hne (List.cons_eq_cons.mp heq).1).elim
    · next heq =>
      obtain ⟨rfl, rfl⟩ := List.cons_eq_cons.mp heq
      exact Extends.some hcs p rest hp

/-- Neither a bracket nor a hyphen comes into view that was not there. -/
theorem peek_eq_iff (h : Continues cs cs') (verbose : Bool) (c : Char)
    (hc : c ≠ ')' ∧ isBlank c = false ∧ c ≠ '#') :
    peek verbose cs' = some c ↔ peek verbose cs = some c := by
  cases h with
  | swallowed => rfl
  | more =>
    cases verbose with
    | false => cases cs <;> simp [peek, closing, hc.1.symm]
    | true =>
      obtain ⟨hbracket, hblank, hcomment⟩ := hc
      have hclosing : closing.dropWhile isBlank = closing := by decide +kernel
      simp only [peek, Bool.not_true, Bool.false_eq_true, if_false, List.dropWhile_append]
      cases hrest : cs.dropWhile isBlank with
      | nil =>
        have hhead : cs.head? ≠ some c := by
          intro heq
          have := List.dropWhile_eq_nil_iff.mp hrest c (List.mem_of_head? heq)
          simp [hblank] at this
        rw [List.isEmpty_nil, if_pos rfl, hclosing]
        simpa [closing, hhead] using hbracket.symm
      | cons d ds =>
        have hhead : (cs ++ closing).head? = cs.head? := by
          cases cs with
          | nil => simp at hrest
          | cons => rfl
        rw [List.isEmpty_cons, if_neg (by simp), List.cons_append]
        by_cases hd : d = '#'
        · subst hd
          simp only [hhead, List.dropWhile_append]
          cases hafter : ds.dropWhile isBlank with
          | nil =>
            have hcs : cs.head? ≠ some c := by
              intro heq
              obtain ⟨tail, rfl⟩ := List.head?_eq_some_iff.mp heq
              rw [List.dropWhile_cons_of_neg (by simp [hblank])] at hrest
              exact hcomment (List.cons_eq_cons.mp hrest).1
            rw [List.isEmpty_nil, if_pos rfl, hclosing]
            simpa [closing, hcs] using hbracket.symm
          | cons => simp
        · simp

theorem classRange?_extends (h : Continues cs cs') (verbose : Bool) (first : Primitive) :
    Extends (classRange? verbose first cs) (classRange? verbose first cs') := by
  refine (classPrimitive?_extends (h.skip verbose) verbose).bind fun last rest rest' hrest => ?_
  intro set more hset
  simp only [bind, Option.bind_eq_some_iff] at hset ⊢
  obtain ⟨a, ha, b, hb, hset⟩ := hset
  split at hset
  · next hle =>
    cases hset
    exact ⟨rest', ⟨a, ha, b, hb, if_pos hle⟩, hrest⟩
  · cases hset

theorem classItem?_extends (h : Continues cs cs') (verbose : Bool) :
    Extends (classItem? verbose cs) (classItem? verbose cs') := by
  refine (classPrimitive?_extends h verbose).bind fun first rest rest' hrest => ?_
  dsimp only
  have hskip := hrest.skip verbose
  cases hs : skip verbose rest with
  | nil => exact .none
  | cons c ds =>
    rw [hs] at hskip
    obtain ⟨ds', heq, hds⟩ := hskip.cons_eq
    rw [heq] at hskip ⊢
    have hbracket := peek_eq_iff hds verbose ']' (by decide +kernel)
    have hhyphen := peek_eq_iff hds verbose '-' (by decide +kernel)
    simp only [ne_eq, hbracket, hhyphen]
    split
    · exact classRange?_extends hds verbose first
    · exact .pair first.toItem? hskip

end Items

theorem classFrom?_extends {cs cs' : List Char} (h : Continues cs cs') (verbose : Bool)
    {fuel fuel' : Nat} (hfuel : fuel ≤ fuel') (stack : List ClassFrame) (items : List ClassSet) :
    Extends (classFrom? verbose fuel stack items cs) (classFrom? verbose fuel' stack items cs') := by
  induction fuel generalizing fuel' stack items cs cs' with
  | zero => exact .none
  | succ fuel ih =>
    obtain ⟨fuel', rfl⟩ : ∃ n, fuel' = n + 1 := ⟨fuel' - 1, by omega⟩
    have hle : fuel ≤ fuel' := by omega
    have hskip := h.skip verbose
    rw [classFrom?, classFrom?]
    cases hs : skip verbose cs with
    | nil => exact .none
    | cons c ds =>
      rw [hs] at hskip
      obtain ⟨ds', heq, hds⟩ := hskip.cons_eq
      rw [heq] at hskip ⊢
      dsimp only
      split_ifs
      · obtain ⟨hnone, hsome⟩ := posix?_extends hds
        cases hposix : posix? ds with
        | some p =>
          obtain ⟨rest', hposix', hrest⟩ := hsome p.1 p.2 hposix
          rw [hposix']
          exact ih hrest hle _ _
        | none =>
          rw [hnone hposix]
          exact (openClass?_extends hds verbose).bind fun opened rest rest' hrest => ih hrest hle _ _
      · split
        · exact .some hds
        · exact ih hds hle _ _
        · exact .none
      · obtain ⟨hnone, hsome⟩ := setOperator?_extends hskip
        cases hop : setOperator? (c :: ds) with
        | some p =>
          obtain ⟨rest', hop', hrest⟩ := hsome p.1 p.2 hop
          rw [hop']
          exact ih hrest hle _ _
        | none =>
          rw [hnone hop]
          exact (classItem?_extends hskip verbose).bind fun item rest rest' hrest => ih hrest hle _ _

theorem class?_extends {cs cs' : List Char} (h : Continues cs cs') (verbose : Bool)
    {fuel fuel' : Nat} (hfuel : fuel ≤ fuel') :
    Extends (class? verbose fuel cs) (class? verbose fuel' cs') := by
  refine (openClass?_extends h verbose).bind fun opened rest rest' hrest => ?_
  refine (classFrom?_extends hrest verbose (Nat.succ_le_succ hfuel) _ _).bind
    fun closed rest rest' hrest => ?_
  exact .some hrest

end SecureChannel.Regex.Parser
