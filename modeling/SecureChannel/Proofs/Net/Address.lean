import SecureChannel.Net.Address
import SecureChannel.Proofs.Option
import SecureChannel.Proofs.Text.Split

/-! Addresses are read back from their canonical text. -/
namespace SecureChannel.IpAddress

open Nat (toDigits)

variable {bytes : Bytes} {text digits : List Char} {numbers : List Nat} {n : Nat} {c : Char}

theorem decimalByte?_toDigits :
    ∀ n < 256, decimalByte? (toDigits 10 n) = some (UInt8.ofNat n) := by
  decide +kernel

theorem isDigit_of_decimalByte? (h : (decimalByte? digits).isSome = true) (hc : c ∈ digits) :
    c.isDigit = true := by
  simp only [decimalByte?] at h
  split at h
  · rename_i hvalid
    exact List.all_eq_true.mp hvalid.2.2.1 c hc
  · cases h

theorem toList_dotted (bytes : Bytes) :
    (dotted bytes).toList = ['.'].intercalate (bytes.map fun b => toDigits 10 b.toNat) := by
  simp [dotted, String.toList_intercalate, Function.comp_def, toString, Nat.toList_repr]

theorem decimalByte?_toNat (b : UInt8) : decimalByte? (toDigits 10 b.toNat) = some b := by
  simpa using decimalByte?_toDigits b.toNat b.toNat_lt

theorem isDigit_of_mem_toDigits (b : UInt8) (hc : c ∈ toDigits 10 b.toNat) : c.isDigit = true :=
  isDigit_of_decimalByte? (by simp [decimalByte?_toNat]) hc

theorem dotted?_dotted (h : bytes.length = 4) : dotted? (dotted bytes).toList = some bytes := by
  have hparts : (dotted bytes).toList.splitOn '.' = bytes.map fun b => toDigits 10 b.toNat := by
    rw [toList_dotted]
    refine List.splitOn_intercalate '.' ?_ (by simpa using List.ne_nil_of_length_eq_add_one h)
    simp only [List.mem_map, forall_exists_index, and_imp]
    rintro part b - rfl hdot
    exact absurd (isDigit_of_mem_toDigits b hdot) (by decide)
  rw [dotted?, hparts, mapM_map_of_inverse fun b _ => decimalByte?_toNat b]
  simp [h]

theorem point_mem_dotted (h : 2 ≤ bytes.length) : '.' ∈ (dotted bytes).toList := by
  match bytes, h with
  | a :: b :: rest, _ => simp [toList_dotted]

theorem dotted?_eq_none_of_colon (h : ':' ∈ text) : dotted? text = none := by
  obtain ⟨part, hpart, hcolon⟩ := (mem_splitOn (s := '.') (by decide)).mpr h
  cases hparts : (text.splitOn '.').mapM decimalByte? with
  | none => simp [dotted?, hparts]
  | some bytes =>
    have := isDigit_of_decimalByte? (isSome_of_mem_mapM hparts hpart) hcolon
    exact absurd this (by decide)

/-- The two bytes of a group. -/
def groupBytes (n : Nat) : Bytes := [UInt8.ofNat (n / 256), UInt8.ofNat (n % 256)]

def ofGroups (numbers : List Nat) : Bytes := numbers.flatMap groupBytes

theorem ofGroups_cons : ofGroups (n :: numbers) = groupBytes n ++ ofGroups numbers := rfl

theorem ofGroups_append (front back : List Nat) :
    ofGroups (front ++ back) = ofGroups front ++ ofGroups back := by
  simp [ofGroups]

@[simp] theorem length_ofGroups : (ofGroups numbers).length = 2 * numbers.length := by
  induction numbers with
  | nil => rfl
  | cons n rest ih =>
    rw [ofGroups_cons, List.length_append, ih, List.length_cons, Nat.mul_succ, Nat.add_comm]
    rfl

theorem ofGroups_zeros (count : Nat) :
    ofGroups (List.replicate count 0) = List.replicate (2 * count) 0 := by
  induction count with
  | zero => rfl
  | succ count ih =>
    rw [List.replicate_succ, ofGroups_cons, ih]
    rfl

theorem groupBytes_number (high low : UInt8) :
    groupBytes (256 * high.toNat + low.toNat) = [high, low] := by
  have hlow := low.toNat_lt
  have hdiv : (256 * high.toNat + low.toNat) / 256 = high.toNat := by omega
  have hmod : (256 * high.toNat + low.toNat) % 256 = low.toNat := by omega
  simp [groupBytes, hdiv, hmod]

theorem lt_of_mem_groups (hn : n ∈ groups bytes) : n < 65536 := by
  induction bytes using groups.induct with
  | case1 high low rest ih =>
    rcases List.mem_cons.mp hn with rfl | hn
    · have hhigh := high.toNat_lt
      have hlow := low.toNat_lt
      omega
    · exact ih hn
  | case2 bytes hshort => simp [groups] at hn

/-- An even number of bytes is made of groups. -/
theorem ofGroups_groups (h : bytes.length % 2 = 0) : ofGroups (groups bytes) = bytes := by
  induction bytes using groups.induct with
  | case1 high low rest ih =>
    have hrest := ih (by simp only [List.length_cons] at h; omega)
    simp [groups, ofGroups_cons, hrest, groupBytes_number]
  | case2 bytes hshort =>
    match bytes, hshort with
    | [], _ => rfl
    | [b], _ => simp at h
    | high :: low :: rest, hshort => exact absurd rfl (hshort high low rest)

theorem hexValue?_digitChar : ∀ n < 16, Bytes.hexValue? n.digitChar = some n := by decide +kernel

theorem mapM_hexValue?_toDigits (n : Nat) :
    ∃ values, (toDigits 16 n).mapM Bytes.hexValue? = some values ∧
      values.foldl (fun n d => 16 * n + d) 0 = n := by
  induction n using Nat.strongRecOn with
  | ind n ih =>
    rw [Nat.toDigits_eq_if (by decide)]
    split
    · rename_i hn
      exact ⟨[n], by simp [hexValue?_digitChar n hn], by simp⟩
    · obtain ⟨values, hvalues, hfold⟩ := ih (n / 16) (by omega)
      have hlast := hexValue?_digitChar (n % 16) (by omega)
      refine ⟨values ++ [n % 16], by simp [hvalues, hlast], ?_⟩
      rw [List.foldl_append, hfold]
      simp only [List.foldl_cons, List.foldl_nil]
      omega

theorem isSome_hexValue?_of_mem_toDigits (hc : c ∈ toDigits 16 n) :
    (Bytes.hexValue? c).isSome = true := by
  obtain ⟨values, hvalues, -⟩ := mapM_hexValue?_toDigits n
  exact isSome_of_mem_mapM hvalues hc

theorem group?_toDigits (hn : n < 65536) : group? (toDigits 16 n) = some (groupBytes n) := by
  obtain ⟨values, hvalues, hfold⟩ := mapM_hexValue?_toDigits n
  have hlength : (toDigits 16 n).length ≤ 4 :=
    (Nat.length_toDigits_le_iff (by decide) (by decide)).mpr hn
  simp [group?, hvalues, hfold, hlength, Nat.toDigits_ne_nil, groupBytes]

theorem toList_colons (numbers : List Nat) :
    (colons numbers).toList = [':'].intercalate (numbers.map (toDigits 16)) := by
  simp [colons, String.toList_intercalate, Function.comp_def]

theorem not_colon_mem_toDigits : ∀ part ∈ numbers.map (toDigits 16), ':' ∉ part := by
  simp only [List.mem_map, forall_exists_index, and_imp]
  rintro part n - rfl hcolon
  exact absurd (isSome_hexValue?_of_mem_toDigits hcolon) (by decide)

theorem group?_eq_none_of_point (h : '.' ∈ digits) : group? digits = none := by
  cases hvalues : digits.mapM Bytes.hexValue? with
  | none => simp [group?, hvalues]
  | some values => exact absurd (isSome_of_mem_mapM hvalues h) (by decide)

theorem not_point_mem_colons : '.' ∉ (colons numbers).toList := by
  rw [toList_colons, mem_intercalate (by decide)]
  rintro ⟨part, hpart, hpoint⟩
  obtain ⟨n, -, rfl⟩ := List.mem_map.mp hpart
  exact absurd (isSome_hexValue?_of_mem_toDigits hpoint) (by decide)

theorem pieceBytes?_toDigits (h : ∀ n ∈ numbers, n < 65536) :
    pieceBytes? (numbers.map (toDigits 16)) = some (ofGroups numbers) := by
  induction numbers with
  | nil => rfl
  | cons n rest ih =>
    have hn := group?_toDigits (h n List.mem_cons_self)
    cases rest with
    | nil => simp [pieceBytes?, hn, ofGroups]
    | cons m others =>
      have hrest := ih fun k hk => h k (List.mem_cons_of_mem _ hk)
      simp only [List.map_cons] at hrest ⊢
      simp [pieceBytes?, hn, hrest, ofGroups_cons]

theorem colonBytes?_colons (h : ∀ n ∈ numbers, n < 65536) :
    colonBytes? (colons numbers).toList = some (ofGroups numbers) := by
  rw [toList_colons, colonBytes?]
  cases numbers with
  | nil => rfl
  | cons n rest =>
    have hne : [':'].intercalate ((n :: rest).map (toDigits 16)) ≠ [] := by
      obtain ⟨d, ds, hd⟩ := List.exists_cons_of_ne_nil (Nat.toDigits_ne_nil (n := n) (b := 16))
      simp [hd, List.intercalate_cons_cons_left]
    rw [if_neg (by simpa using hne), List.splitOn_intercalate ':' not_colon_mem_toDigits (by simp),
      pieceBytes?_toDigits h]

/-- A double colon is not found in groups, which are never empty. -/
theorem cut?_colons (numbers : List Nat) (rest : List Char) :
    cut? [':', ':'] ((colons numbers).toList ++ rest) = (cut? [':', ':'] rest).map
      fun (before, after) => ((colons numbers).toList ++ before, after) := by
  rw [toList_colons]
  refine cut?_double_intercalate not_colon_mem_toDigits ?_ rest
  simp [Nat.toDigits_ne_nil]

theorem take_takeWhile_zero (numbers : List Nat) :
    numbers.take (numbers.takeWhile (· == 0)).length =
      List.replicate (numbers.takeWhile (· == 0)).length 0 := by
  rw [← List.prefix_iff_eq_take.mp (List.takeWhile_prefix (· == 0))]
  refine List.eq_replicate_of_mem fun n hn => ?_
  simpa using List.all_eq_true.mp List.all_takeWhile n hn

/-- What is left out of the text is zeros. -/
theorem longestZeros_spec {start length : Nat} (h : longestZeros numbers = (start, length)) :
    numbers.take start ++ List.replicate length 0 ++ numbers.drop (start + length) = numbers := by
  induction numbers generalizing start length with
  | nil =>
    cases h
    rfl
  | cons n rest ih =>
    simp only [longestZeros] at h
    split at h
    · cases h
      rw [← take_takeWhile_zero, List.take_zero, List.nil_append, Nat.zero_add,
        List.take_append_drop]
    · cases h
      rw [Nat.add_right_comm, List.take_succ_cons, List.drop_succ_cons, List.cons_append,
        List.cons_append, ih rfl]

/-- Groups, a double colon, and a text without one. -/
theorem colons?_double {after : List Char} {back : Bytes} (h : ∀ n ∈ numbers, n < 65536)
    (hback : colonBytes? after = some back) (hfit : 2 * numbers.length + back.length ≤ 14) :
    colons? ((colons numbers).toList ++ ':' :: ':' :: after) =
      some (ofGroups numbers ++
        List.replicate (16 - 2 * numbers.length - back.length) 0 ++ back) := by
  have hcut : cut? [':', ':'] (':' :: ':' :: after) = some ([], after) := by simp [cut?]
  rw [colons?, cut?_colons, hcut]
  simp [colonBytes?_colons h, hback, hfit, not_point_mem_colons]

theorem colons?_colons (h : ∀ n ∈ numbers, n < 65536) (hlength : numbers.length = 8) :
    colons? (colons numbers).toList = some (ofGroups numbers) := by
  have hcut := cut?_colons numbers []
  rw [List.append_nil] at hcut
  rw [colons?, hcut]
  simp [cut?, colonBytes?_colons h, hlength]

/-- The end of the text is no group, as it has points, and so a dotted address. -/
theorem colonBytes?_mapped (h : bytes.length = 4) :
    colonBytes? ("ffff:".toList ++ (dotted bytes).toList) = some ([0xFF, 0xFF] ++ bytes) := by
  have hcolon : ':' ∉ (dotted bytes).toList := by
    intro hmem
    have := dotted?_dotted h
    simp [dotted?_eq_none_of_colon hmem] at this
  have hparts : ("ffff:".toList ++ (dotted bytes).toList).splitOn ':' =
      ["ffff".toList, (dotted bytes).toList] := by
    have htext : "ffff:".toList ++ (dotted bytes).toList =
        [':'].intercalate ["ffff".toList, (dotted bytes).toList] := by
      simp [List.intercalate_cons_cons]
    rw [htext, List.splitOn_intercalate ':' (by simpa using hcolon) (by simp)]
  have hfirst : group? "ffff".toList = some [0xFF, 0xFF] := by decide +kernel
  have hlast : group? (dotted bytes).toList = none :=
    group?_eq_none_of_point (point_mem_dotted (by omega))
  rw [colonBytes?, hparts, if_neg (by simp), pieceBytes?, pieceBytes?, hfirst, hlast,
    dotted?_dotted h]
  · rfl
  · simp

theorem colon_mem_colons (h : 2 ≤ numbers.length) : ':' ∈ (colons numbers).toList := by
  match numbers, h with
  | n :: m :: rest, _ => simp [toList_colons]

/-- The text of an address that maps a four-byte one. -/
theorem colons?_mapped {inner : Bytes} (h : inner.length = 4) :
    colons? ("::ffff:" ++ dotted inner).toList =
      some (List.replicate 10 0 ++ [0xFF, 0xFF] ++ inner) := by
  have hnone : ∀ n ∈ ([] : List Nat), n < 65536 := nofun
  have hdouble := colons?_double hnone (colonBytes?_mapped h) (by simp [h])
  simpa [colons, ofGroups, h] using hdouble

/-- The text of groups with the longest run of zeros left out. -/
theorem colons?_short {start length : Nat} (h : ∀ n ∈ numbers, n < 65536)
    (hcount : numbers.length = 8) (hzeros : longestZeros numbers = (start, length))
    (hlength : 2 ≤ length) :
    colons? (colons (numbers.take start) ++ "::" ++ colons (numbers.drop (start + length))).toList =
      some (ofGroups numbers) := by
  have hsplit := longestZeros_spec hzeros
  have hsize := congrArg List.length hsplit
  have hfront : ∀ n ∈ numbers.take start, n < 65536 := fun n hn => h n (List.mem_of_mem_take hn)
  have hback := colonBytes?_colons fun n (hn : n ∈ numbers.drop (start + length)) =>
    h n (List.mem_of_mem_drop hn)
  simp only [List.length_append, List.length_take, List.length_replicate, List.length_drop,
    hcount] at hsize
  have hdouble := colons?_double hfront hback
    (by simp only [length_ofGroups, List.length_take, List.length_drop, hcount]; omega)
  have hfill : 16 - 2 * (numbers.take start).length -
      (ofGroups (numbers.drop (start + length))).length = 2 * length := by
    simp only [length_ofGroups, List.length_take, List.length_drop, hcount]
    omega
  -- The zeros that are filled in are those of the run.
  rw [hfill, ← ofGroups_zeros, ← ofGroups_append, ← ofGroups_append, hsplit] at hdouble
  simpa using hdouble

/-- Sixteen bytes are written with colons, and read again from there. -/
theorem colons?_display {address : IpAddress} (h : address.bytes.length = 16) :
    ':' ∈ address.display.toList ∧ colons? address.display.toList = some address.bytes := by
  have hnumbers : ∀ n ∈ groups address.bytes, n < 65536 := fun n => lt_of_mem_groups
  have hgroups : ofGroups (groups address.bytes) = address.bytes := ofGroups_groups (by omega)
  have hcount : (groups address.bytes).length = 8 := by
    have := congrArg List.length hgroups
    rw [length_ofGroups] at this
    omega
  rw [display, if_neg (by omega)]
  split
  · rename_i hmapped
    obtain ⟨inner, hinner⟩ := hmapped
    have hsize : inner.length = 4 := by
      have := congrArg List.length hinner
      simp only [List.length_append, List.length_replicate, List.length_cons, List.length_nil] at this
      omega
    rw [← hinner]
    exact ⟨by simp, colons?_mapped hsize⟩
  · obtain ⟨start, length, hzeros⟩ :
        ∃ start length, longestZeros (groups address.bytes) = (start, length) := ⟨_, _, rfl⟩
    simp only [hzeros]
    split
    · rw [colons?_colons hnumbers hcount, hgroups]
      exact ⟨colon_mem_colons (by omega), rfl⟩
    · rw [colons?_short hnumbers hcount hzeros (by omega), hgroups]
      exact ⟨by simp, rfl⟩

/-- An address is found again in its canonical text. -/
theorem parse?_display (address : IpAddress) : parse? address.display = some address := by
  have hbytes : ofBytes? address.bytes = some address := dif_pos address.length_bytes
  rcases address.length_bytes with hfour | hsixteen
  · have hdisplay : address.display = dotted address.bytes := if_pos hfour
    simp [parse?, hdisplay, dotted?_dotted hfour, hbytes]
  · obtain ⟨hcolon, hcolons⟩ := colons?_display hsixteen
    simp [parse?, dotted?_eq_none_of_colon hcolon, hcolons, hbytes]

end SecureChannel.IpAddress
