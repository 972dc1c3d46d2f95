import SecureChannel.Matcher
import SecureChannel.Proofs.Text.Utf8

/-! Literal patterns. They are compared with names byte by byte, and this is a comparison of
characters: no character is cut, and only ASCII letters lose their case. -/
namespace SecureChannel

namespace Bytes

theorem occursIn_iff {part bytes : Bytes} : occursIn part bytes = true ↔ part <:+: bytes := by
  induction bytes with
  | nil => simp [occursIn]
  | cons b rest ih =>
    rw [occursIn, Bool.or_eq_true, List.isPrefixOf_iff_prefix, ih, List.infix_cons_iff]

end Bytes

namespace Matcher

/-- The characters that literal patterns compare. -/
def folded (ignoreCase : Bool) (text : String) : List Char :=
  if ignoreCase then text.toList.map Char.toLower else text.toList

variable {ignoreCase : Bool} {text candidate : String}

theorem key_eq_encode (ignoreCase : Bool) (text : String) :
    key ignoreCase text = Utf8.encode (folded ignoreCase text) := by
  unfold key folded Bytes.ofString
  cases ignoreCase with
  | false => rfl
  | true => exact Utf8.map_toLower_encode text.toList

theorem length_key (ignoreCase : Bool) (text : String) :
    (key ignoreCase text).length = text.utf8ByteSize := by
  have hbytes := Bytes.length_ofString text
  unfold key
  cases ignoreCase with
  | false => exact hbytes
  | true => simpa using hbytes

/-- Folding keeps the number of bytes. -/
theorem length_encode_folded (ignoreCase : Bool) (text : String) :
    (Utf8.encode (folded ignoreCase text)).length = text.utf8ByteSize := by
  rw [← key_eq_encode, length_key]

theorem folded_ofList_take (n : Nat) :
    folded ignoreCase (String.ofList (text.toList.take n)) = (folded ignoreCase text).take n := by
  unfold folded
  rw [String.toList_ofList]
  cases ignoreCase <;> simp [List.map_take]

theorem folded_ne_nil (h : text ≠ "") : folded ignoreCase text ≠ [] := by
  have hchars : text.toList ≠ [] := by simpa using h
  unfold folded
  cases ignoreCase <;> simpa using hchars

section Comparisons

theorem and_given_iff {b : Bool} : (!candidate.isEmpty && (!text.isEmpty && b)) = true ↔
    (text ≠ "" ∧ candidate ≠ "") ∧ b = true := by
  simp only [Bool.and_eq_true, Bool.not_eq_true', String.isEmpty_eq_false_iff]
  exact ⟨fun ⟨hcandidate, htext, h⟩ => ⟨⟨htext, hcandidate⟩, h⟩,
    fun ⟨⟨htext, hcandidate⟩, h⟩ => ⟨hcandidate, htext, h⟩⟩

theorem accepts_exact_iff : accepts ⟨.exact text, ignoreCase⟩ candidate = true ↔
    (text ≠ "" ∧ candidate ≠ "") ∧ key ignoreCase text = key ignoreCase candidate :=
  and_given_iff.trans (and_congr_right fun _ => beq_iff_eq)

theorem accepts_leading_iff : accepts ⟨.leading text, ignoreCase⟩ candidate = true ↔
    (text ≠ "" ∧ candidate ≠ "") ∧ key ignoreCase text <+: key ignoreCase candidate := by
  rw [← List.isPrefixOf_iff_prefix]
  exact and_given_iff

theorem accepts_trailing_iff : accepts ⟨.trailing text, ignoreCase⟩ candidate = true ↔
    (text ≠ "" ∧ candidate ≠ "") ∧ key ignoreCase text <:+ key ignoreCase candidate := by
  rw [← List.isSuffixOf_iff_suffix]
  exact and_given_iff

theorem accepts_contained_iff : accepts ⟨.contained text, ignoreCase⟩ candidate = true ↔
    (text ≠ "" ∧ candidate ≠ "") ∧ key ignoreCase text <:+: key ignoreCase candidate := by
  rw [← Bytes.occursIn_iff]
  exact and_given_iff

end Comparisons

section Characters

theorem key_eq_iff :
    key ignoreCase text = key ignoreCase candidate ↔
      folded ignoreCase candidate = folded ignoreCase text := by
  rw [key_eq_encode, key_eq_encode, Utf8.encode_inj, eq_comm]

theorem key_prefix_iff :
    key ignoreCase text <+: key ignoreCase candidate ↔
      ∃ rest, folded ignoreCase candidate = folded ignoreCase text ++ rest := by
  rw [key_eq_encode, key_eq_encode, Utf8.encode_prefix_iff]
  simp only [List.IsPrefix, eq_comm]

theorem key_suffix_iff (h : text ≠ "") :
    key ignoreCase text <:+ key ignoreCase candidate ↔
      ∃ front, folded ignoreCase candidate = front ++ folded ignoreCase text := by
  rw [key_eq_encode, key_eq_encode, Utf8.encode_suffix_iff (folded_ne_nil h)]
  simp only [List.IsSuffix, eq_comm]

theorem key_infix_iff (h : text ≠ "") :
    key ignoreCase text <:+: key ignoreCase candidate ↔
      ∃ front rest, folded ignoreCase candidate = front ++ folded ignoreCase text ++ rest := by
  rw [key_eq_encode, key_eq_encode, Utf8.encode_infix_iff (folded_ne_nil h)]
  simp only [List.IsInfix, eq_comm]

/-- Characters outside ASCII stay what they are, and nothing becomes one of them. -/
theorem folded_getElem?_eq_iff {c : Char} (hc : 128 ≤ c.toNat) (i : Nat) :
    (folded ignoreCase text)[i]? = some c ↔ text.toList[i]? = some c := by
  unfold folded
  cases ignoreCase with
  | false => rfl
  | true =>
    show (text.toList.map Char.toLower)[i]? = some c ↔ _
    rw [List.getElem?_map, Option.map_eq_some_iff]
    simp only [toLower_eq_iff (isAlpha_of_not_ascii hc), exists_eq_right]

end Characters

section Places

open String.Pos.Raw (IsValid)

/-- Where folded characters are parted, so are the characters they come from. -/
theorem isValid_of_folded_eq {front rest : List Char}
    (h : folded ignoreCase candidate = front ++ rest) :
    IsValid candidate ⟨(Utf8.encode front).length⟩ := by
  apply String.Pos.Raw.isValid_iff_exists_take_toList.mpr
  refine ⟨front.length, ?_⟩
  show (Utf8.encode front).length = _
  rw [← length_encode_folded ignoreCase, folded_ofList_take, h, List.take_left]

theorem isValid_of_prefix {rest : List Char}
    (h : folded ignoreCase candidate = folded ignoreCase text ++ rest) :
    IsValid candidate ⟨text.utf8ByteSize⟩ := by
  have hvalid := isValid_of_folded_eq h
  rwa [length_encode_folded] at hvalid

theorem isValid_of_suffix {front : List Char}
    (h : folded ignoreCase candidate = front ++ folded ignoreCase text) :
    IsValid candidate ⟨candidate.utf8ByteSize - text.utf8ByteSize⟩ := by
  have hsizes : candidate.utf8ByteSize = (Utf8.encode front).length + text.utf8ByteSize := by
    rw [← length_encode_folded ignoreCase, h, Utf8.encode_append, List.length_append,
      length_encode_folded]
  have hplace : candidate.utf8ByteSize - text.utf8ByteSize = (Utf8.encode front).length := by omega
  have hvalid := isValid_of_folded_eq h
  rwa [hplace]

end Places

section Slices

theorem key_true (text : String) : key true text = (Bytes.ofString text).map Bytes.toLower := rfl

theorem key_prefix_iff_slice : key true text <+: key true candidate ↔
    text.utf8ByteSize ≤ candidate.utf8ByteSize ∧
      Bytes.eqIgnoreCase ((Bytes.ofString candidate).take text.utf8ByteSize)
        (Bytes.ofString text) = true := by
  rw [Bytes.eqIgnoreCase_iff, List.map_take, ← key_true, ← key_true]
  constructor
  · intro h
    have hsize := h.length_le
    rw [length_key, length_key] at hsize
    have htake := List.prefix_iff_eq_take.mp h
    rw [length_key] at htake
    exact ⟨hsize, htake.symm⟩
  · intro ⟨_, h⟩
    rw [← h]
    exact List.take_prefix _ _

theorem key_suffix_iff_slice : key true text <:+ key true candidate ↔
    text.utf8ByteSize ≤ candidate.utf8ByteSize ∧
      Bytes.eqIgnoreCase
        ((Bytes.ofString candidate).drop (candidate.utf8ByteSize - text.utf8ByteSize))
        (Bytes.ofString text) = true := by
  rw [Bytes.eqIgnoreCase_iff, List.map_drop, ← key_true, ← key_true]
  constructor
  · intro h
    have hsize := h.length_le
    rw [length_key, length_key] at hsize
    have hdrop := List.suffix_iff_eq_drop.mp h
    rw [length_key, length_key] at hdrop
    exact ⟨hsize, hdrop.symm⟩
  · intro ⟨_, h⟩
    rw [← h]
    exact List.drop_suffix _ _

end Slices

/-- Neither an empty pattern nor an empty name matches anything. All others are compared by their
characters, of which only those of ASCII are folded. Slices of bytes that are compared without regard
to case are within the name, and those that match begin and end between characters. -/
theorem literal_accepts_characters (ignoreCase : Bool) (text candidate : String) :
    let Accepts (pattern : NamePattern) := accepts ⟨pattern, ignoreCase⟩ candidate = true
    let given := text ≠ "" ∧ candidate ≠ ""
    let fold := folded ignoreCase
    let last := candidate.utf8ByteSize - text.utf8ByteSize
    let Fits (slice : Bytes) := text.utf8ByteSize ≤ candidate.utf8ByteSize ∧
      Bytes.eqIgnoreCase slice (Bytes.ofString text) = true
    (Accepts (.exact text) ↔ given ∧ fold candidate = fold text) ∧
    (Accepts (.leading text) ↔ given ∧ ∃ rest, fold candidate = fold text ++ rest) ∧
    (Accepts (.trailing text) ↔ given ∧ ∃ front, fold candidate = front ++ fold text) ∧
    (Accepts (.contained text) ↔ given ∧ ∃ front rest, fold candidate = front ++ fold text ++ rest) ∧
    (ignoreCase = true →
      (Accepts (.leading text) ↔
        given ∧ Fits ((Bytes.ofString candidate).take text.utf8ByteSize)) ∧
      (Accepts (.trailing text) ↔ given ∧ Fits ((Bytes.ofString candidate).drop last))) ∧
    (Accepts (.leading text) → String.Pos.Raw.IsValid candidate ⟨text.utf8ByteSize⟩) ∧
    (Accepts (.trailing text) → String.Pos.Raw.IsValid candidate ⟨last⟩) ∧
    ∀ (i : Nat) (c : Char), 128 ≤ c.toNat →
      ((fold candidate)[i]? = some c ↔ candidate.toList[i]? = some c) := by
  intro Accepts given fold last Fits
  have hleading : Accepts (.leading text) ↔ given ∧ ∃ rest, fold candidate = fold text ++ rest := by
    rw [← key_prefix_iff]
    exact accepts_leading_iff
  have htrailing : Accepts (.trailing text) ↔
      given ∧ ∃ front, fold candidate = front ++ fold text :=
    accepts_trailing_iff.trans (and_congr_right fun hgiven => key_suffix_iff hgiven.1)
  refine ⟨?_, hleading, htrailing, ?_, ?_, ?_, ?_, fun i c hc => folded_getElem?_eq_iff hc i⟩
  · rw [← key_eq_iff]
    exact accepts_exact_iff
  · exact accepts_contained_iff.trans (and_congr_right fun hgiven => key_infix_iff hgiven.1)
  · rintro rfl
    exact ⟨accepts_leading_iff.trans (and_congr_right fun _ => key_prefix_iff_slice),
      accepts_trailing_iff.trans (and_congr_right fun _ => key_suffix_iff_slice)⟩
  · intro h
    obtain ⟨-, rest, hrest⟩ := hleading.mp h
    exact isValid_of_prefix hrest
  · intro h
    obtain ⟨-, front, hfront⟩ := htrailing.mp h
    exact isValid_of_suffix hfront

/-- A letter with an accent keeps its case, and the letter beside it does not. -/
theorem literal_accepts_characters_accented :
    accepts ⟨.trailing "TÉ", true⟩ "étÉ" = true ∧ accepts ⟨.trailing "TÉ", true⟩ "été" = false ∧
      String.Pos.Raw.IsValid "étÉ" ⟨2⟩ ∧ (folded true "étÉ")[2]? = some 'É' := by
  obtain ⟨-, -, -, -, hslices, -, hvalid, hkept⟩ := literal_accepts_characters true "TÉ" "étÉ"
  obtain ⟨-, -, htrailing, -⟩ := literal_accepts_characters true "TÉ" "été"
  have haccepts : accepts ⟨.trailing "TÉ", true⟩ "étÉ" = true := by
    apply (hslices rfl).2.mpr
    decide +kernel
  have hrefuses : accepts ⟨.trailing "TÉ", true⟩ "été" = false := by
    rw [Bool.eq_false_iff]
    intro h
    obtain ⟨-, front, hfront⟩ := htrailing.mp h
    have hlast := congrArg List.getLast? hfront
    simp [folded] at hlast
  exact ⟨haccepts, hrefuses, hvalid haccepts, (hkept 2 'É' (by decide)).mpr (by decide)⟩

end Matcher
end SecureChannel
