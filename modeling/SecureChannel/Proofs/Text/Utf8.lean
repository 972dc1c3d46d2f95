import SecureChannel.Text.Utf8

/-! Texts and their bytes. Where the bytes of a text hold those of another one, no character is cut:
the text itself holds the other one, at the same place. Letters lose their case alike as bytes and as
characters. -/
namespace SecureChannel

namespace Utf8

open String (utf8EncodeChar)

variable {c d : Char} {part text : List Char} {front rest : Bytes}

theorem encode_append (text more : List Char) :
    encode (text ++ more) = encode text ++ encode more := List.flatMap_append

theorem encode_cons (c : Char) (text : List Char) :
    encode (c :: text) = utf8EncodeChar c ++ encode text := List.flatMap_cons

theorem encode_eq_nil_iff : encode text = [] ↔ text = [] := by
  cases text with
  | nil => simp [encode]
  | cons c text => simp [encode_cons]

theorem length_encode (text : List Char) :
    (encode text).length = (String.ofList text).utf8ByteSize := by
  have hbytes : (String.ofList text).toByteArray = (encode text).toByteArray := rfl
  unfold String.utf8ByteSize
  rw [hbytes, List.size_toByteArray]

/-- A character is known from its bytes, whatever follows them. -/
theorem utf8EncodeChar_append_inj {rest' : Bytes}
    (h : utf8EncodeChar c ++ rest = utf8EncodeChar d ++ rest') : c = d ∧ rest = rest' := by
  have hread : ∀ (x : Char) (more : Bytes),
      (utf8EncodeChar x ++ more).toByteArray.utf8DecodeChar? 0 = some x := by
    intro x more
    rw [List.toByteArray_append]
    exact ByteArray.utf8DecodeChar?_utf8EncodeChar_append
  have hc := hread c rest
  rw [h, hread d rest'] at hc
  obtain rfl := Option.some.inj hc
  exact ⟨rfl, List.append_cancel_left h⟩

/-- Only the first byte of a character has the form of a first byte. -/
theorem eq_nil_of_isUTF8FirstByte {b : UInt8} (h : utf8EncodeChar c = front ++ b :: rest)
    (hb : b.IsUTF8FirstByte) : front = [] := by
  have hlength : front.length < (utf8EncodeChar c).length := by
    rw [h, List.length_append, List.length_cons]
    omega
  have hbyte : (utf8EncodeChar c)[front.length] = b := by simp [h]
  have hfirst : front.length = 0 := by
    apply UInt8.isUTF8FirstByte_getElem_utf8EncodeChar.mp
    rw [hbyte]
    exact hb
  exact List.eq_nil_of_length_eq_zero hfirst

theorem isUTF8FirstByte_of_encode {b : UInt8} (h : encode text = b :: rest) :
    b.IsUTF8FirstByte := by
  cases text with
  | nil => cases h
  | cons c text =>
    obtain ⟨b', bytes, hbytes⟩ : ∃ b' bytes, utf8EncodeChar c = b' :: bytes :=
      List.exists_cons_of_ne_nil String.utf8EncodeChar_ne_nil
    have hfirst : b'.IsUTF8FirstByte := by
      have hzero := UInt8.isUTF8FirstByte_getElem_zero_utf8EncodeChar (c := c)
      simpa [hbytes] using hzero
    rw [encode_cons, hbytes] at h
    obtain rfl : b' = b := (List.cons.inj h).1
    exact hfirst

/-- Bytes that begin with those of a text go on with those of another one. -/
theorem eq_append_of_encode_append (h : encode part ++ rest = encode text) :
    ∃ after, text = part ++ after ∧ rest = encode after := by
  induction part generalizing text with
  | nil => exact ⟨text, rfl, h⟩
  | cons c part ih =>
    cases text with
    | nil => simp [encode] at h
    | cons d text =>
      rw [encode_cons, encode_cons, List.append_assoc] at h
      obtain ⟨rfl, hrest⟩ := utf8EncodeChar_append_inj h
      obtain ⟨after, rfl, hafter⟩ := ih hrest
      exact ⟨after, rfl, hafter⟩

/-- The bytes of a text that is not empty are found only where its characters stand. -/
theorem eq_append_of_append_encode_append (hpart : part ≠ [])
    (h : front ++ encode part ++ rest = encode text) :
    ∃ before after, text = before ++ part ++ after ∧ front = encode before ∧ rest = encode after := by
  induction text generalizing front with
  | nil =>
    have hnil : encode part = [] := by simp_all [encode]
    exact absurd (encode_eq_nil_iff.mp hnil) hpart
  | cons c text ih =>
    rw [encode_cons, List.append_assoc] at h
    -- The part begins behind the first character, or before its last byte.
    rcases List.append_eq_append_iff.mp h with ⟨inside, hc, htext⟩ | ⟨front', rfl, htext⟩
    · cases inside with
      | nil =>
        have hrest : [] ++ encode part ++ rest = encode text := htext
        obtain ⟨before, after, rfl, hbefore, hafter⟩ := ih hrest
        obtain rfl : before = [] := encode_eq_nil_iff.mp hbefore.symm
        exact ⟨[c], after, rfl, by simpa [encode] using hc.symm, hafter⟩
      | cons b inside =>
        obtain ⟨b', bytes, hbytes⟩ : ∃ b' bytes, encode part = b' :: bytes :=
          List.exists_cons_of_ne_nil fun hnil => hpart (encode_eq_nil_iff.mp hnil)
        obtain rfl : b' = b := by
          rw [hbytes] at htext
          exact (List.cons.inj htext).1
        obtain rfl := eq_nil_of_isUTF8FirstByte hc (isUTF8FirstByte_of_encode hbytes)
        rw [← encode_cons] at h
        obtain ⟨after, htext, hafter⟩ := eq_append_of_encode_append h
        exact ⟨[], after, htext, rfl, hafter⟩
    · have hshort : front' ++ encode part ++ rest = encode text := by
        rw [htext, List.append_assoc]
      obtain ⟨before, after, rfl, rfl, hafter⟩ := ih hshort
      exact ⟨c :: before, after, rfl, by rw [encode_cons], hafter⟩

theorem encode_prefix_iff : encode part <+: encode text ↔ part <+: text := by
  constructor
  · intro ⟨rest, h⟩
    obtain ⟨after, rfl, -⟩ := eq_append_of_encode_append h
    exact List.prefix_append part after
  · intro ⟨after, h⟩
    exact ⟨encode after, by rw [← encode_append, h]⟩

theorem encode_suffix_iff (hpart : part ≠ []) : encode part <:+ encode text ↔ part <:+ text := by
  constructor
  · intro ⟨front, h⟩
    rw [← List.append_nil (front ++ encode part)] at h
    obtain ⟨before, after, rfl, -, hafter⟩ := eq_append_of_append_encode_append hpart h
    rw [encode_eq_nil_iff.mp hafter.symm, List.append_nil]
    exact List.suffix_append before part
  · intro ⟨before, h⟩
    exact ⟨encode before, by rw [← encode_append, h]⟩

theorem encode_infix_iff (hpart : part ≠ []) : encode part <:+: encode text ↔ part <:+: text := by
  constructor
  · intro ⟨front, rest, h⟩
    obtain ⟨before, after, rfl, -, -⟩ := eq_append_of_append_encode_append hpart h
    exact List.infix_append before part after
  · intro ⟨before, after, h⟩
    exact ⟨encode before, encode after, by rw [← encode_append, ← encode_append, h]⟩

theorem encode_inj : encode part = encode text ↔ part = text := by
  constructor
  · intro h
    rw [← List.append_nil (encode part)] at h
    obtain ⟨after, rfl, hafter⟩ := eq_append_of_encode_append h
    rw [encode_eq_nil_iff.mp hafter.symm, List.append_nil]
  · rintro rfl
    rfl

/-- All bytes of a character outside ASCII are outside ASCII. -/
theorem le_of_mem_utf8EncodeChar {b : UInt8} (hc : 128 ≤ c.toNat) (hb : b ∈ utf8EncodeChar c) :
    128 ≤ b.toNat := by
  have hbyte : ∀ n, 128 ≤ n → n < 256 → 128 ≤ (UInt8.ofNat n).toNat := by
    intro n hlow hhigh
    rw [UInt8.toNat_ofNat_of_lt' hhigh]
    exact hlow
  have hval : 128 ≤ c.val.toNat := hc
  unfold String.utf8EncodeChar at hb
  dsimp only at hb
  -- One case for each number of bytes; the first byte of several is at least 192.
  split at hb; · omega
  split at hb
  · simp only [List.mem_cons, List.not_mem_nil, or_false] at hb
    rcases hb with rfl | rfl <;> apply hbyte <;> omega
  split at hb
  · simp only [List.mem_cons, List.not_mem_nil, or_false] at hb
    rcases hb with rfl | rfl | rfl <;> apply hbyte <;> omega
  · simp only [List.mem_cons, List.not_mem_nil, or_false] at hb
    rcases hb with rfl | rfl | rfl | rfl <;> apply hbyte <;> omega

end Utf8

namespace Bytes

theorem eqIgnoreCase_iff {a b : Bytes} :
    eqIgnoreCase a b = true ↔ a.map toLower = b.map toLower := by
  unfold eqIgnoreCase
  rw [beq_iff_eq]

theorem toLower_of_le {b : UInt8} (hb : 128 ≤ b.toNat) : toLower b = b := by
  have hupper : ¬ isUpper b = true := by
    simp only [isUpper, Bool.and_eq_true, decide_eq_true_eq, UInt8.le_iff_toNat_le]
    have hlast : (0x5A : UInt8).toNat = 90 := rfl
    omega
  unfold toLower
  rw [if_neg hupper]

theorem length_ofString (text : String) : (ofString text).length = text.utf8ByteSize := by
  unfold ofString
  rw [Utf8.length_encode, String.ofList_toList]

end Bytes

section Case
variable {c d : Char}

/-- What is true of every ASCII character can be found out one by one. -/
theorem of_ascii {P : Char → Prop} (h : ∀ n < 128, P (Char.ofNat n)) (hc : c.toNat < 128) : P c := by
  have hchar := h c.toNat hc
  rwa [Char.ofNat_toNat] at hchar

/-- Only letters come from letters, and all other characters stay what they are. -/
theorem toLower_eq_iff (hd : d.isAlpha = false) : c.toLower = d ↔ c = d := by
  by_cases hupper : c.val ≥ 'A'.val ∧ c.val ≤ 'Z'.val
  · have hsmall : c.toNat < 128 := Nat.lt_of_le_of_lt hupper.2 (by decide)
    have hletter : c.isUpper = true → c.isAlpha = true ∧ c.toLower.isAlpha = true :=
      of_ascii (P := fun c => c.isUpper = true → c.isAlpha = true ∧ c.toLower.isAlpha = true)
        (by decide +kernel) hsmall
    obtain ⟨hc, hlower⟩ := hletter (decide_eq_true hupper)
    constructor
    · rintro rfl
      rw [hlower] at hd
      cases hd
    · rintro rfl
      rw [hc] at hd
      cases hd
  · unfold Char.toLower
    rw [dif_neg hupper]

theorem isAlpha_of_not_ascii (hc : 128 ≤ c.toNat) : c.isAlpha = false := by
  rw [Bool.eq_false_iff]
  intro halpha
  have hletter : (decide (c.val ≥ 'A'.val ∧ c.val ≤ 'Z'.val) ||
      decide (c.val ≥ 'a'.val) && decide (c.val ≤ 'z'.val)) = true := halpha
  simp only [Bool.or_eq_true, Bool.and_eq_true, decide_eq_true_eq] at hletter
  have hlast : c.toNat ≤ 'z'.toNat := by
    rcases hletter with ⟨-, hz⟩ | ⟨-, hz⟩
    · exact Nat.le_trans hz (by decide)
    · exact hz
  have hz : 'z'.toNat = 122 := rfl
  omega

theorem map_toLower_eq_iff {text lower : List Char} (h : ∀ c ∈ lower, c.isAlpha = false) :
    text.map Char.toLower = lower ↔ text = lower := by
  induction text generalizing lower with
  | nil => simp
  | cons c text ih =>
    cases lower with
    | nil => simp
    | cons d lower =>
      obtain ⟨hd, hlower⟩ := List.forall_mem_cons.mp h
      rw [List.map_cons, List.cons.injEq, List.cons.injEq, toLower_eq_iff hd, ih hlower]

end Case

namespace Utf8

open String (utf8EncodeChar)

/-- Letters lose their case alike as characters and as bytes. -/
theorem map_toLower_utf8EncodeChar (c : Char) :
    (utf8EncodeChar c).map Bytes.toLower = utf8EncodeChar c.toLower := by
  by_cases hc : c.toNat < 128
  · exact of_ascii (P := fun c => (utf8EncodeChar c).map Bytes.toLower = utf8EncodeChar c.toLower)
      (by decide +kernel) hc
  · have hlarge : 128 ≤ c.toNat := by omega
    rw [(toLower_eq_iff (isAlpha_of_not_ascii hlarge)).mpr rfl]
    have hbytes : ∀ b ∈ utf8EncodeChar c, Bytes.toLower b = b := fun b hb =>
      Bytes.toLower_of_le (le_of_mem_utf8EncodeChar hlarge hb)
    rw [List.map_congr_left hbytes, List.map_id']

theorem map_toLower_encode (text : List Char) :
    (encode text).map Bytes.toLower = encode (text.map Char.toLower) := by
  unfold encode
  rw [List.map_flatMap, List.flatMap_map]
  simp only [map_toLower_utf8EncodeChar]

/-- Texts that differ in case only have as many bytes as each other. -/
theorem length_encode_map_toLower (text : List Char) :
    (encode (text.map Char.toLower)).length = (encode text).length := by
  rw [← map_toLower_encode, List.length_map]

end Utf8
end SecureChannel
