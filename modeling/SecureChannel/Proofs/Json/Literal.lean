import SecureChannel.Json.Token
import SecureChannel.Proofs.Text.Split

/-! Literals of strings and numbers are read as what they were written for. -/
namespace SecureChannel.Json

namespace Text

variable {c : Char} {rest : List Char}

theorem units?_cons (hc : c ≠ '\\') : units? (c :: rest) = (units? rest).map (c.toNat :: ·) := by
  rw [units?]
  · cases units? rest <;> rfl
  · rintro a b d e more rfl
    simp at hc
  · rintro e more rfl
    simp at hc

theorem units?_escape {e : Char} {unit : Nat} (he : escape? e = some unit) :
    units? ('\\' :: e :: rest) = (units? rest).map (unit :: ·) := by
  rw [units?, he]
  · cases units? rest <;> rfl
  · rintro a b d f more rfl
    simp [escape?] at he

/-- Control characters are written with four digits. -/
theorem units?_control {n : Nat} (hn : n < 32) :
    units? ('\\' :: 'u' :: '0' :: '0' :: Bytes.hexDigit (n / 16) :: Bytes.hexDigit (n % 16) :: rest) =
      (units? rest).map (n :: ·) := by
  have hdigits : ∀ n < 32,
      ['0', '0', Bytes.hexDigit (n / 16), Bytes.hexDigit (n % 16)].mapM Bytes.hexValue? =
        some [0, 0, n / 16, n % 16] := by decide +kernel
  have hvalue : [0, 0, n / 16, n % 16].foldl (fun n d => n * 16 + d) 0 = n := by
    simp only [List.foldl_cons, List.foldl_nil]
    omega
  rw [units?, hdigits n hn]
  cases units? rest with
  | none => rfl
  | some units => exact congrArg (fun m => some (m :: units)) hvalue

/-- A character is written with a letter of its own, with four digits or as it is. -/
theorem escapeChar_cases (c : Char) :
    (∃ e, escapeChar c = ['\\', e] ∧ escape? e = some c.toNat ∧ ¬ e.toNat < 0x20) ∨
      (c.toNat < 0x20 ∧ escapeChar c =
        ['\\', 'u', '0', '0', Bytes.hexDigit (c.toNat / 16), Bytes.hexDigit (c.toNat % 16)]) ∨
      c ≠ '"' ∧ c ≠ '\\' ∧ ¬ c.toNat < 0x20 ∧ escapeChar c = [c] := by
  by_cases hc : c ∈ ['"', '\\', '\x08', '\x0C', '\n', '\r', '\t']
  · simp only [List.mem_cons, List.not_mem_nil, or_false] at hc
    left
    rcases hc with rfl | rfl | rfl | rfl | rfl | rfl | rfl <;> exact ⟨_, rfl, rfl, by decide⟩
  · simp only [List.mem_cons, List.not_mem_nil, or_false, not_or] at hc
    obtain ⟨hquote, hslash, hback, hfeed, hline, hreturn, htab⟩ := hc
    unfold escapeChar
    rw [if_neg hquote, if_neg hslash, if_neg hback, if_neg hfeed, if_neg hline, if_neg hreturn,
      if_neg htab]
    by_cases hsmall : c.toNat < 0x20
    · exact .inr (.inl ⟨hsmall, if_pos hsmall⟩)
    · exact .inr (.inr ⟨hquote, hslash, hsmall, if_neg hsmall⟩)

theorem units?_escapeChar (c : Char) (rest : List Char) :
    units? (escapeChar c ++ rest) = (units? rest).map (c.toNat :: ·) := by
  rcases escapeChar_cases c with ⟨e, hc, he, -⟩ | ⟨hsmall, hc⟩ | ⟨-, hslash, -, hc⟩
  · rw [hc]
    exact units?_escape he
  · rw [hc]
    exact units?_control hsmall
  · rw [hc]
    exact units?_cons hslash

theorem units?_flatMap_escapeChar (text : List Char) :
    units? (text.flatMap escapeChar) = some (text.map Char.toNat) := by
  induction text with
  | nil => rfl
  | cons c text ih =>
    rw [List.flatMap_cons, units?_escapeChar, ih]
    rfl

/-- Characters are no halves of a pair. -/
theorem not_surrogate (c : Char) : ¬ (0xD800 ≤ c.toNat ∧ c.toNat < 0xE000) := by
  have hvalid : c.toNat < 0xD800 ∨ 0xDFFF < c.toNat ∧ c.toNat < 0x110000 := c.valid
  omega

theorem chars?_map_toNat (text : List Char) : chars? (text.map Char.toNat) = some text := by
  induction text with
  | nil => rfl
  | cons c text ih =>
    have hc := not_surrogate c
    cases text with
    | nil => simp [chars?, hc]
    | cons d text =>
      have hpair : ¬ (0xD800 ≤ c.toNat ∧ c.toNat < 0xDC00 ∧ 0xDC00 ≤ d.toNat ∧ d.toNat < 0xE000) := by
        omega
      rw [List.map_cons, List.map_cons, chars?, if_neg hpair, if_neg hc, ← List.map_cons, ih,
        Char.ofNat_toNat]
      rfl

end Text

namespace Number

open Nat (toDigits)

theorem head?_toDigits_ne_zero {n : Nat} (hn : 0 < n) : (toDigits 10 n).head? ≠ some '0' := by
  induction n using Nat.strongRecOn with
  | ind n ih =>
    rw [Nat.toDigits_eq_if (by decide)]
    split
    · rename_i hsmall
      have hdigits : ∀ n < 10, 0 < n → [n.digitChar].head? ≠ some '0' := by decide
      exact hdigits n hsmall hn
    · have hfront := ih (n / 10) (by omega) (by omega)
      obtain ⟨d, digits, hd⟩ :=
        List.exists_cons_of_ne_nil (Nat.toDigits_ne_nil (n := n / 10) (b := 10))
      rw [hd] at hfront ⊢
      exact hfront

/-- A number has no digits to spare in front. -/
theorem not_leadingZero (n : Nat) :
    ((toDigits 10 n).isEmpty || ((toDigits 10 n).length > 1 && (toDigits 10 n).head? == some '0')) =
      false := by
  rcases Nat.eq_zero_or_pos n with rfl | hn
  · rfl
  · have hhead : ((toDigits 10 n).head? == some '0') = false :=
      beq_eq_false_iff_ne.mpr (head?_toDigits_ne_zero hn)
    simp [hhead, Nat.toDigits_ne_nil]

theorem foldl_toDigits (n : Nat) :
    (toDigits 10 n).foldl (fun n d => n * 10 + (d.toNat - 0x30)) 0 = n := by
  have hstep : (fun (n : Nat) (d : Char) => n * 10 + (d.toNat - 0x30)) =
      fun n d => 10 * n + (d.toNat - '0'.toNat) := by
    funext n d
    rw [Nat.mul_comm]
    rfl
  rw [hstep]
  exact Nat.ofDigitChars_ten_toDigits

/-- What numbers are written with beside digits. -/
def marks : List Char := ['-', '+', '.', 'e', 'E']

theorem of_isDigits {cs : List Char} (h : isDigits cs = true) : ∀ c ∈ cs, c.isDigit = true := by
  unfold isDigits at h
  rw [Bool.and_eq_true, List.all_eq_true] at h
  exact h.2

theorem of_isExponent {cs : List Char} (h : isExponent cs = true) :
    (∀ c ∈ cs.head?, c ∈ marks) ∧ ∀ c ∈ cs, c.isDigit = true ∨ c ∈ marks := by
  have hletter : ∀ e : Char, (e == 'e' || e == 'E') = true → e ∈ marks := by
    intro e he
    simp only [Bool.or_eq_true, beq_iff_eq] at he
    rcases he with rfl | rfl <;> decide
  unfold isExponent at h
  split at h
  · exact ⟨nofun, nofun⟩
  all_goals
    rw [Bool.and_eq_true] at h
    obtain ⟨he, hdigits⟩ := h
    have hmark := hletter _ he
    have hrest := of_isDigits hdigits
    refine ⟨by simpa using hmark, ?_⟩
    simp only [List.mem_cons]
    grind [marks]

/-- A fraction or an exponent begins with a mark. -/
theorem of_isTail {tail : List Char} (h : isTail tail = true) :
    (∀ c ∈ tail.head?, c ∈ marks) ∧ ∀ c ∈ tail, c.isDigit = true ∨ c ∈ marks := by
  unfold isTail at h
  split at h
  · rename_i cs
    rw [Bool.and_eq_true] at h
    have hfraction := of_isDigits h.1
    have hexponent := (of_isExponent h.2).2
    refine ⟨by simp [marks], ?_⟩
    intro c hc
    rcases List.mem_cons.mp hc with rfl | hc
    · exact .inr (by decide)
    · rw [← List.takeWhile_append_dropWhile (p := Char.isDigit) (l := cs), List.mem_append] at hc
      rcases hc with hc | hc
      · exact .inl (hfraction c hc)
      · exact hexponent c hc
  · exact of_isExponent h

theorem isDigit_of_mem_marks {c : Char} (h : c ∈ marks) : c.isDigit = false := by
  have hmarks : marks.all (fun c => !c.isDigit) = true := by decide
  simpa using List.all_eq_true.mp hmarks c h

theorem unsigned?_toDigits {negative : Bool} {n : Nat} {tail : List Char} (h : isTail tail = true) :
    unsigned? negative (toDigits 10 n ++ tail) = some ⟨negative, n, tail⟩ := by
  have hdigits : ∀ c ∈ toDigits 10 n, c.isDigit = true := fun c hc =>
    Nat.isDigit_of_mem_toDigits (by decide) (by decide) hc
  have htail : ∀ c ∈ tail.head?, c.isDigit = false := fun c hc =>
    isDigit_of_mem_marks ((of_isTail h).1 c hc)
  obtain ⟨htake, hdrop⟩ := takeWhile_dropWhile_append hdigits htail
  unfold unsigned?
  simp only [htake, hdrop, h, not_leadingZero, foldl_toDigits]
  rfl

theorem ofChars?_toChars {n : Number} (h : isTail n.tail = true) : ofChars? n.toChars = some n := by
  obtain ⟨negative, whole, tail⟩ := n
  cases negative with
  | true => exact unsigned?_toDigits h
  | false =>
    have hread : unsigned? false (toDigits 10 whole ++ tail) = some ⟨false, whole, tail⟩ :=
      unsigned?_toDigits h
    obtain ⟨d, digits, hd⟩ := List.exists_cons_of_ne_nil (Nat.toDigits_ne_nil (n := whole) (b := 10))
    have hdigit : d.isDigit = true :=
      Nat.isDigit_of_mem_toDigits (by decide) (by decide) (hd ▸ List.mem_cons_self)
    show ofChars? (toDigits 10 whole ++ tail) = _
    rw [← hread, hd, List.cons_append, ofChars?]
    intro _ hminus
    rw [(List.cons.inj hminus).1] at hdigit
    cases hdigit

theorem isTail_of_ofChars? {n : Number} {chars : List Char} (h : ofChars? chars = some n) :
    isTail n.tail = true := by
  have hread : ∀ negative rest, unsigned? negative rest = some n → isTail n.tail = true := by
    intro negative rest hrest
    unfold unsigned? at hrest
    dsimp only at hrest
    split at hrest
    · cases hrest
    · rename_i hvalid
      obtain rfl := Option.some.inj hrest
      simp only [Bool.or_eq_true, not_or, Bool.not_eq_true', Bool.not_eq_false] at hvalid
      exact hvalid.2
  unfold ofChars? at h
  split at h <;> exact hread _ _ h

theorem of_mem_toChars {n : Number} (h : isTail n.tail = true) {c : Char} (hc : c ∈ n.toChars) :
    c.isDigit = true ∨ c ∈ marks := by
  unfold toChars at hc
  rw [List.mem_append, List.mem_append] at hc
  rcases hc with (hsign | hdigit) | htail
  · split at hsign
    · rw [List.mem_singleton.mp hsign]
      exact .inr (by decide)
    · cases hsign
  · exact .inl (Nat.isDigit_of_mem_toDigits (by decide) (by decide) hdigit)
  · exact (of_isTail h).2 c htail

end Number
end SecureChannel.Json
