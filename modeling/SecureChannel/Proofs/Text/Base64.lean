import Mathlib.Data.List.DropRight
import SecureChannel.Proofs.Except
import SecureChannel.Proofs.Text.Split
import SecureChannel.Text.Base64

/-! Base64 in both directions. A text is decoded to bytes exactly if it is their encoding, with any
part of its padding. -/
namespace SecureChannel.Base64

/-- Symbols that are missing in the last group of four. -/
def missing (bytes : Bytes) : Nat := (3 - bytes.length % 3) % 3

/-- The text consists of the symbols for the bytes, and of padding for some of the missing symbols. -/
def Spells (text bytes : Bytes) : Prop :=
  ∃ k ≤ missing bytes, text = encode bytes ++ List.replicate k padding

/-- Groups of six bits that bytes fill: the last of them has only zeros where no byte goes on. -/
structure Whole (vs : List Nat) : Prop where
  small : ∀ v ∈ vs, v < 64
  length : vs.length % 4 ≠ 1
  leftover : ∀ v, vs.getLast? = some v → leftover (vs.length % 4) v = 0

section Symbols

variable {b : UInt8} {v offset : Nat} {text : Bytes} {vs : List Nat}

theorem value?_symbol : ∀ v < 64, value? (symbol v) = some v := by decide +kernel

theorem symbol_of_value? (h : value? b = some v) : v < 64 ∧ symbol v = b := by
  have hall : ∀ n < 256, (value? (UInt8.ofNat n)).all fun v => v < 64 ∧ symbol v = UInt8.ofNat n := by
    decide +kernel
  have hb := hall b.toNat b.toNat_lt
  rw [UInt8.ofNat_toNat, h] at hb
  simpa using hb

theorem symbol_ne_padding (h : v < 64) : symbol v ≠ padding := by
  intro hpadding
  have hvalue := value?_symbol v h
  rw [hpadding] at hvalue
  cases hvalue

theorem symbols_map (hvs : ∀ v ∈ vs, v < 64) : symbols offset (vs.map symbol) = .ok vs := by
  induction vs generalizing offset with
  | nil => rfl
  | cons v vs ih =>
    have hv := value?_symbol v (hvs v List.mem_cons_self)
    have hrest : symbols (offset + 1) (vs.map symbol) = .ok vs :=
      ih fun w hw => hvs w (List.mem_cons_of_mem v hw)
    simp only [List.map_cons, symbols, hv, hrest]
    rfl

theorem eq_map_of_symbols (h : symbols offset text = .ok vs) :
    text = vs.map symbol ∧ ∀ v ∈ vs, v < 64 := by
  induction text generalizing offset vs with
  | nil =>
    cases h
    exact ⟨rfl, nofun⟩
  | cons b rest ih =>
    rw [symbols] at h
    cases hb : value? b with
    | none => simp [hb] at h
    | some v =>
      cases hrest : symbols (offset + 1) rest with
      | error e => simp [hb, hrest, bind, Except.bind] at h
      | ok ws =>
        obtain rfl : v :: ws = vs := by simpa [hb, hrest, bind, Except.bind, pure, Except.pure] using h
        obtain ⟨rfl, hws⟩ := ih hrest
        obtain ⟨hv, rfl⟩ := symbol_of_value? hb
        exact ⟨rfl, List.forall_mem_cons.mpr ⟨hv, hws⟩⟩

end Symbols

section Groups

variable {a b c d : Nat} {vs rest : List Nat}

theorem ofNat_eq_of_toNat {n : Nat} {b : UInt8} (h : n = b.toNat) : UInt8.ofNat n = b := by
  rw [h, UInt8.ofNat_toNat]

theorem toNat_ofNat_of_lt {n : Nat} (h : n < 256) : (UInt8.ofNat n).toNat = n :=
  UInt8.toNat_ofNat_of_lt' h

/-- A group of four symbols in front leaves nothing over. -/
theorem whole_quad_iff : Whole (a :: b :: c :: d :: rest) ↔
    (a < 64 ∧ b < 64 ∧ c < 64 ∧ d < 64) ∧ Whole rest := by
  have hlength : (a :: b :: c :: d :: rest).length % 4 = rest.length % 4 := by
    simp only [List.length_cons]
    omega
  have hlast : (∀ v, (a :: b :: c :: d :: rest).getLast? = some v → leftover (rest.length % 4) v = 0) ↔
      ∀ v, rest.getLast? = some v → leftover (rest.length % 4) v = 0 := by
    cases rest with
    | nil => simp [leftover]
    | cons x rest => simp only [List.getLast?_cons_cons]
  constructor
  · intro h
    have hsmall := h.small
    simp only [List.forall_mem_cons] at hsmall
    obtain ⟨ha, hb, hc, hd, hrest⟩ := hsmall
    refine ⟨⟨ha, hb, hc, hd⟩, hrest, hlength ▸ h.length, hlast.mp ?_⟩
    rw [← hlength]
    exact h.leftover
  · rintro ⟨⟨ha, hb, hc, hd⟩, h⟩
    refine ⟨?_, hlength ▸ h.length, ?_⟩
    · simp only [List.forall_mem_cons]
      exact ⟨ha, hb, hc, hd, h.small⟩
    · rw [hlength]
      exact hlast.mpr h.leftover

theorem unpack_pack (bytes : Bytes) : unpack (pack bytes) = bytes := by
  fun_induction pack bytes with
  | case1 a b c rest ih =>
    have ha := a.toNat_lt
    have hb := b.toNat_lt
    have hc := c.toNat_lt
    rw [unpack, ih, ofNat_eq_of_toNat (b := a) (by omega), ofNat_eq_of_toNat (b := b) (by omega),
      ofNat_eq_of_toNat (b := c) (by omega)]
  | case2 a b =>
    have ha := a.toNat_lt
    have hb := b.toNat_lt
    rw [unpack, ofNat_eq_of_toNat (b := a) (by omega), ofNat_eq_of_toNat (b := b) (by omega)]
  | case3 a =>
    have ha := a.toNat_lt
    rw [unpack, ofNat_eq_of_toNat (b := a) (by omega)]
  | case4 => rfl

theorem whole_pack (bytes : Bytes) : Whole (pack bytes) := by
  fun_induction pack bytes with
  | case1 a b c rest ih =>
    have ha := a.toNat_lt
    have hb := b.toNat_lt
    have hc := c.toNat_lt
    exact whole_quad_iff.mpr ⟨⟨by omega, by omega, by omega, by omega⟩, ih⟩
  | case2 a b =>
    have ha := a.toNat_lt
    have hb := b.toNat_lt
    refine ⟨?_, by simp, by simp [leftover]⟩
    simp only [List.forall_mem_cons]
    exact ⟨by omega, by omega, by omega, nofun⟩
  | case3 a =>
    have ha := a.toNat_lt
    refine ⟨?_, by simp, by simp [leftover]⟩
    simp only [List.forall_mem_cons]
    exact ⟨by omega, by omega, nofun⟩
  | case4 => exact ⟨nofun, by simp, nofun⟩

theorem Whole.pack_unpack : ∀ {vs : List Nat}, Whole vs → pack (unpack vs) = vs
  | a :: b :: c :: d :: rest, h => by
    obtain ⟨⟨ha, hb, hc, hd⟩, hrest⟩ := whole_quad_iff.mp h
    rw [unpack, pack, hrest.pack_unpack]
    simp only [toNat_ofNat_of_lt (show a * 4 + b / 16 < 256 by omega),
      toNat_ofNat_of_lt (show b % 16 * 16 + c / 4 < 256 by omega),
      toNat_ofNat_of_lt (show c % 4 * 64 + d < 256 by omega)]
    congr <;> omega
  | [a, b, c], h => by
    have hsmall := h.small
    simp only [List.forall_mem_cons] at hsmall
    obtain ⟨ha, hb, hc, -⟩ := hsmall
    have hzeros : c % 4 = 0 := h.leftover c rfl
    simp only [unpack, pack, toNat_ofNat_of_lt (show a * 4 + b / 16 < 256 by omega),
      toNat_ofNat_of_lt (show b % 16 * 16 + c / 4 < 256 by omega)]
    congr <;> omega
  | [a, b], h => by
    have hsmall := h.small
    simp only [List.forall_mem_cons] at hsmall
    obtain ⟨ha, hb, -⟩ := hsmall
    have hzeros : b % 16 = 0 := h.leftover b rfl
    simp only [unpack, pack, toNat_ofNat_of_lt (show a * 4 + b / 16 < 256 by omega)]
    congr <;> omega
  | [_], h => absurd rfl h.length
  | [], _ => rfl

theorem missing_eq (bytes : Bytes) : missing bytes = (4 - (pack bytes).length % 4) % 4 := by
  fun_induction pack bytes with
  | case1 a b c rest ih =>
    simp only [missing, List.length_cons] at ih ⊢
    omega
  | case2 a b => rfl
  | case3 a => rfl
  | case4 => rfl

end Groups

section Texts

variable {offset k : Nat} {group text bytes : Bytes} {vs : List Nat}

theorem takeWhile_padded (hvs : ∀ v ∈ vs, v < 64) (k : Nat) :
    (vs.map symbol ++ List.replicate k padding).takeWhile (· ≠ padding) = vs.map symbol ∧
      (vs.map symbol ++ List.replicate k padding).dropWhile (· ≠ padding) =
        List.replicate k padding := by
  have hsymbols : ∀ b ∈ vs.map symbol, decide (b ≠ padding) = true := by
    intro b hb
    obtain ⟨v, hv, rfl⟩ := List.mem_map.mp hb
    exact decide_eq_true (symbol_ne_padding (hvs v hv))
  refine takeWhile_dropWhile_append hsymbols fun b hb => ?_
  have hmem : b ∈ List.replicate k padding := List.mem_of_mem_head? hb
  simp [List.eq_of_mem_replicate hmem]

/-- The last symbol of a group has only zeros where no byte goes on. -/
theorem zeros_eq_ok_iff {data : Bytes} {values : List Nat} :
    (match data.getLast?, values.getLast? with
      | some b, some v =>
        if leftover data.length v ≠ 0 then
          Except.error (Fault.lastSymbol b (offset + data.length - 1))
        else .ok values
      | _, _ => .ok values) = .ok vs ↔
    values = vs ∧ ∀ b v, data.getLast? = some b → vs.getLast? = some v →
      leftover data.length v = 0 := by
  cases data.getLast? with
  | none => simp
  | some b =>
    cases hlast : values.getLast? with
    | none =>
      simp only [Except.ok.injEq, iff_self_and]
      rintro rfl
      simp [hlast]
    | some v =>
      simp only [ite_error_eq_ok_iff, Except.ok.injEq]
      constructor
      · rintro ⟨hzero, rfl⟩
        refine ⟨rfl, ?_⟩
        rintro _ w - hw
        obtain rfl : v = w := Option.some.inj (hlast.symm.trans hw)
        exact not_not.mp hzero
      · rintro ⟨rfl, hzero⟩
        exact ⟨not_not.mpr (hzero b v rfl hlast), rfl⟩

/-- All that the last group is checked for. -/
theorem lastGroup_eq_ok_iff : lastGroup offset group = .ok vs ↔
    symbols offset (group.takeWhile (· ≠ padding)) = .ok vs ∧
    (group.dropWhile (· ≠ padding)).any (· ≠ padding) = false ∧
    (group ≠ [] → 2 ≤ (group.takeWhile (· ≠ padding)).length) ∧
    ∀ b v, (group.takeWhile (· ≠ padding)).getLast? = some b → vs.getLast? = some v →
      leftover (group.takeWhile (· ≠ padding)).length v = 0 := by
  simp only [lastGroup, throw, throwThe, MonadExceptOf.throw, bind, Except.bind, pure, Except.pure]
  have hgroup : group.dropWhile (· ≠ padding) ≠ [] → group ≠ [] := by
    rintro hrest rfl
    exact hrest rfl
  generalize group.takeWhile (· ≠ padding) = data at *
  generalize group.dropWhile (· ≠ padding) = rest at *
  cases symbols offset data with
  | error e => simp
  | ok values =>
    simp only [ite_error_eq_ok_iff, Except.ok.injEq]
    refine (and_congr_right' (and_congr_right' zeros_eq_ok_iff)).trans ?_
    constructor
    · rintro ⟨hpadding, hlong, rfl, hleft⟩
      refine ⟨rfl, ?_, fun hne => ?_, hleft⟩
      · rw [← Bool.not_eq_true]
        intro hstray
        have hrest : rest ≠ [] := by
          rintro rfl
          cases hstray
        exact hpadding ⟨hrest, .inr hstray⟩
      · by_contra hshort
        exact hlong ⟨hne, by omega⟩
    · rintro ⟨rfl, hpadding, hlong, hleft⟩
      refine ⟨?_, ?_, rfl, hleft⟩
      · rintro ⟨hrest, hshort | hstray⟩
        · have htwo := hlong (hgroup hrest)
          omega
        · rw [hpadding] at hstray
          cases hstray
      · rintro ⟨hne, hshort⟩
        have htwo := hlong hne
        omega

/-- A last group has at least two symbols, and nothing but padding after them. -/
theorem lastGroup_eq_ok_iff_padded (hne : group ≠ []) : lastGroup offset group = .ok vs ↔
    (∃ k, group = vs.map symbol ++ List.replicate k padding) ∧ (∀ v ∈ vs, v < 64) ∧
      2 ≤ vs.length ∧ ∀ v, vs.getLast? = some v → leftover vs.length v = 0 := by
  rw [lastGroup_eq_ok_iff]
  constructor
  · rintro ⟨hsymbols, hpadding, hlong, hleft⟩
    obtain ⟨hdata, hsmall⟩ := eq_map_of_symbols hsymbols
    have hrest : group.dropWhile (· ≠ padding) =
        List.replicate (group.dropWhile (· ≠ padding)).length padding := by
      rw [List.eq_replicate_iff]
      exact ⟨rfl, by simpa using hpadding⟩
    rw [hdata, List.length_map] at hlong hleft
    refine ⟨⟨(group.dropWhile (· ≠ padding)).length, ?_⟩, hsmall, hlong hne, fun v hv => ?_⟩
    · rw [← hrest, ← hdata, List.takeWhile_append_dropWhile]
    · exact hleft (symbol v) v (by rw [List.getLast?_map, hv]; rfl) hv
  · rintro ⟨⟨k, rfl⟩, hsmall, hlong, hleft⟩
    obtain ⟨htake, hdrop⟩ := takeWhile_padded hsmall k
    rw [htake, hdrop, List.length_map]
    exact ⟨symbols_map hsmall, by simp, fun _ => hlong, fun _ v _ => hleft v⟩

/-- Texts of symbols and padding have no stray end. -/
theorem strayEnd_padded (hvs : ∀ v ∈ vs, v < 64) (k : Nat) :
    strayEnd (vs.map symbol ++ List.replicate k padding) = .ok () := by
  unfold strayEnd
  split
  · rfl
  · rename_i b hb
    have hmem := List.mem_of_getLast? hb
    refine if_neg fun hstray => ?_
    rcases List.mem_append.mp hmem with hsymbol | hpadding
    · obtain ⟨v, hv, rfl⟩ := List.mem_map.mp hsymbol
      simp [value?_symbol v (hvs v hv)] at hstray
    · exact hstray.2.1 (List.eq_of_mem_replicate hpadding)

theorem decode_eq_ok_iff_parts : decode text = .ok bytes ↔ strayEnd text = .ok () ∧
    ∃ front last, symbols 0 (text.take ((text.length - 1) / 4 * 4)) = .ok front ∧
      lastGroup ((text.length - 1) / 4 * 4) (text.drop ((text.length - 1) / 4 * 4)) = .ok last ∧
      unpack (front ++ last) = bytes := by
  simp only [decode, bind_eq_ok_iff, pure, Except.pure, Except.ok.injEq, exists_and_left]
  constructor
  · rintro ⟨_, hend, front, hfront, last, hlast, hbytes⟩
    exact ⟨hend, front, hfront, last, hlast, hbytes⟩
  · rintro ⟨hend, front, hfront, last, hlast, hbytes⟩
    exact ⟨(), hend, front, hfront, last, hlast, hbytes⟩

/-- What is decoded is the text of whole groups with padding. -/
theorem exists_whole_of_decode (h : decode text = .ok bytes) :
    ∃ vs k, Whole vs ∧ k ≤ (4 - vs.length % 4) % 4 ∧ bytes = unpack vs ∧
      text = vs.map symbol ++ List.replicate k padding := by
  obtain ⟨-, front, last, hfront, hlast, rfl⟩ := decode_eq_ok_iff_parts.mp h
  by_cases hne : text = []
  · subst hne
    cases hfront
    cases hlast
    exact ⟨[], 0, ⟨nofun, by simp, nofun⟩, by simp, rfl, rfl⟩
  · have hpos := List.length_pos_iff.mpr hne
    obtain ⟨htake, hsmall⟩ := eq_map_of_symbols hfront
    have hdrop : text.drop ((text.length - 1) / 4 * 4) ≠ [] := by
      rw [List.ne_nil_iff_length_pos, List.length_drop]
      omega
    obtain ⟨⟨k, hgroup⟩, hsmall', htwo, hleft⟩ := (lastGroup_eq_ok_iff_padded hdrop).mp hlast
    have hfour : front.length = (text.length - 1) / 4 * 4 := by
      have hlength := congrArg List.length htake
      rw [List.length_take, List.length_map] at hlength
      omega
    have hroom : last.length + k ≤ 4 := by
      have hlength := congrArg List.length hgroup
      rw [List.length_drop, List.length_append, List.length_map, List.length_replicate] at hlength
      omega
    have hmod : (front ++ last).length % 4 = last.length % 4 := by
      rw [List.length_append]
      omega
    have hlastne : last ≠ [] := List.ne_nil_of_length_pos (by omega)
    refine ⟨front ++ last, k, ⟨List.forall_mem_append.mpr ⟨hsmall, hsmall'⟩, ?_, fun v hv => ?_⟩, ?_,
      rfl, ?_⟩
    · rw [hmod]
      omega
    · rw [List.getLast?_append_of_ne_nil _ hlastne] at hv
      have hzeros := hleft v hv
      rw [hmod]
      obtain hfull | hpart : last.length = 4 ∨ last.length % 4 = last.length := by omega
      · rw [hfull]
        rfl
      · rw [hpart]
        exact hzeros
    · rw [hmod]
      omega
    · rw [List.map_append, List.append_assoc, ← htake, ← hgroup, List.take_append_drop]

theorem decode_padded (h : Whole vs) (hk : k ≤ (4 - vs.length % 4) % 4) :
    decode (vs.map symbol ++ List.replicate k padding) = .ok (unpack vs) := by
  by_cases hne : vs = []
  · subst hne
    obtain rfl : k = 0 := by simpa using hk
    rfl
  · have hpos := List.length_pos_iff.mpr hne
    have hone := h.length
    have hlength : (vs.map symbol ++ List.replicate k padding).length = vs.length + k := by simp
    rw [decode_eq_ok_iff_parts, hlength]
    generalize hstart : (vs.length + k - 1) / 4 * 4 = start
    have hle : start + 2 ≤ vs.length := by omega
    refine ⟨strayEnd_padded h.small k, vs.take start, vs.drop start, ?_, ?_, ?_⟩
    · rw [List.take_append_of_le_length (by simp; omega), ← List.map_take]
      exact symbols_map fun v hv => h.small v (List.mem_of_mem_take hv)
    · rw [List.drop_append_of_le_length (by simp; omega), ← List.map_drop]
      have hlast : (vs.drop start).map symbol ≠ [] := by
        rw [List.ne_nil_iff_length_pos, List.length_map, List.length_drop]
        omega
      refine (lastGroup_eq_ok_iff_padded (List.append_ne_nil_of_left_ne_nil hlast _)).mpr
        ⟨⟨k, rfl⟩, fun v hv => h.small v (List.mem_of_mem_drop hv), ?_, fun v hv => ?_⟩
      · rw [List.length_drop]
        omega
      · rw [List.getLast?_drop, if_neg (by omega)] at hv
        have hzeros := h.leftover v hv
        rw [List.length_drop]
        obtain hfull | hpart : vs.length - start = 4 ∨ vs.length - start = vs.length % 4 := by omega
        · rw [hfull]
          rfl
        · rw [hpart]
          exact hzeros
    · rw [List.take_append_drop]

/-- A text is decoded to bytes exactly if it spells them. -/
theorem decode_eq_ok_iff : decode text = .ok bytes ↔ Spells text bytes := by
  constructor
  · intro h
    obtain ⟨vs, k, hvs, hk, rfl, rfl⟩ := exists_whole_of_decode h
    refine ⟨k, ?_, ?_⟩
    · rwa [missing_eq, hvs.pack_unpack]
    · rw [encode, hvs.pack_unpack]
  · rintro ⟨k, hk, rfl⟩
    rw [missing_eq] at hk
    rw [encode, decode_padded (whole_pack bytes) hk, unpack_pack]

theorem encode_injective {a b : Bytes} (h : encode a = encode b) : a = b := by
  have ha : decode (encode a) = .ok a := decode_eq_ok_iff.mpr ⟨0, Nat.zero_le _, by simp⟩
  have hb : decode (encode b) = .ok b := decode_eq_ok_iff.mpr ⟨0, Nat.zero_le _, by simp⟩
  rw [h] at ha
  exact Except.ok.inj (ha.symm.trans hb)

theorem symbol_of_mem_encode {b : UInt8} (h : b ∈ encode bytes) : (value? b).isSome = true := by
  obtain ⟨v, hv, rfl⟩ := List.mem_map.mp h
  rw [value?_symbol v ((whole_pack bytes).small v hv)]
  rfl

theorem length_le_pack (bytes : Bytes) : bytes.length ≤ (pack bytes).length := by
  induction bytes using pack.induct with
  | case1 a b c rest ih =>
    simp only [pack, List.length_cons]
    omega
  | case2 | case3 | case4 => simp [pack]

/-- A text is no shorter than the bytes that it spells. -/
theorem Spells.length_le (h : Spells text bytes) : bytes.length ≤ text.length := by
  obtain ⟨k, -, rfl⟩ := h
  have hpack := length_le_pack bytes
  rw [List.length_append, encode, List.length_map]
  omega

/-- Neither symbols nor padding separate parts of a value. -/
theorem Spells.comma_not_mem (h : Spells text bytes) : 0x2C ∉ text := by
  obtain ⟨k, -, rfl⟩ := h
  intro hmem
  rcases List.mem_append.mp hmem with hsymbol | hpadding
  · have hvalue := symbol_of_mem_encode hsymbol
    cases hvalue
  · have hbyte := List.eq_of_mem_replicate hpadding
    cases hbyte

theorem Spells.rdropWhile_padding (h : Spells text bytes) :
    text.rdropWhile (· = padding) = encode bytes := by
  obtain ⟨k, -, rfl⟩ := h
  induction k with
  | zero =>
    rw [List.replicate_zero, List.append_nil, List.rdropWhile_eq_self_iff]
    intro hne hpadding
    have hvalue := symbol_of_mem_encode (List.getLast_mem hne)
    rw [of_decide_eq_true hpadding] at hvalue
    cases hvalue
  | succ k ih =>
    rw [List.replicate_succ', ← List.append_assoc, List.rdropWhile_concat_pos _ _ _ (by simp), ih]

end Texts
end SecureChannel.Base64
