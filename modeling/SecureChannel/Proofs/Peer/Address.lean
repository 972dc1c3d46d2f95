import SecureChannel.Proofs.Matcher.Literal
import SecureChannel.Proofs.Net.Address
import SecureChannel.Proofs.Peer.NamePolicy

/-! Addresses among the names of a peer. Matchers see their canonical text, which has no upper-case
letters and can be read back. So an exact matcher for the text of an address accepts just the entries
with its bytes, whether or not it looks at case, and entries of impossible length are never accepted. -/
namespace SecureChannel

namespace IpAddress

open Nat (toDigits)

variable {a b address : IpAddress} {bytes : Bytes} {numbers : List Nat} {base n : Nat}
  {c separator : Char}

section LowerCase

theorem toLower_digitChar : ∀ n < 16, n.digitChar.toLower = n.digitChar := by decide

theorem toLower_of_mem_toDigits (hone : 1 < base) (hbase : base ≤ 16) (hc : c ∈ toDigits base n) :
    c.toLower = c := by
  induction n using Nat.strongRecOn with
  | ind n ih =>
    rw [Nat.toDigits_eq_if hone] at hc
    split at hc
    · rename_i hn
      obtain rfl := List.mem_singleton.mp hc
      exact toLower_digitChar n (by omega)
    · rename_i hn
      rcases List.mem_append.mp hc with hfront | hlast
      · exact ih (n / base) (Nat.div_lt_self (by omega) hone) hfront
      · obtain rfl := List.mem_singleton.mp hlast
        have hdigit : n % base < base := Nat.mod_lt n (by omega)
        exact toLower_digitChar _ (by omega)

/-- Numbers between separators. -/
theorem toLower_of_mem_intercalate (hone : 1 < base) (hbase : base ≤ 16)
    (hseparator : separator.toLower = separator)
    (hc : c ∈ [separator].intercalate (numbers.map (toDigits base))) : c.toLower = c := by
  by_cases hsame : c = separator
  · rw [hsame, hseparator]
  · obtain ⟨part, hpart, hc⟩ := (mem_intercalate hsame).mp hc
    obtain ⟨n, -, rfl⟩ := List.mem_map.mp hpart
    exact toLower_of_mem_toDigits hone hbase hc

theorem toLower_of_mem_dotted (hc : c ∈ (dotted bytes).toList) : c.toLower = c := by
  have hparts : bytes.map (fun b => toDigits 10 b.toNat) =
      (bytes.map UInt8.toNat).map (toDigits 10) := by
    rw [List.map_map]
    rfl
  rw [toList_dotted, hparts] at hc
  exact toLower_of_mem_intercalate (by decide) (by decide) rfl hc

theorem toLower_of_mem_colons (hc : c ∈ (colons numbers).toList) : c.toLower = c := by
  rw [toList_colons] at hc
  exact toLower_of_mem_intercalate (by decide) (by decide) rfl hc

theorem toLower_of_all {chars : List Char} (h : chars.all (fun c => c.toLower = c) = true)
    (hc : c ∈ chars) : c.toLower = c :=
  of_decide_eq_true (List.all_eq_true.mp h c hc)

theorem toLower_of_mem_display (hc : c ∈ address.display.toList) : c.toLower = c := by
  unfold display at hc
  split at hc
  · exact toLower_of_mem_dotted hc
  split at hc
  · rw [String.toList_append] at hc
    rcases List.mem_append.mp hc with hmark | hinner
    · exact toLower_of_all (by decide) hmark
    · exact toLower_of_mem_dotted hinner
  · simp only at hc
    split at hc
    · exact toLower_of_mem_colons hc
    · rw [String.toList_append, String.toList_append] at hc
      rcases List.mem_append.mp hc with hfront | hback
      · rcases List.mem_append.mp hfront with hfront | hmark
        · exact toLower_of_mem_colons hfront
        · exact toLower_of_all (by decide) hmark
      · exact toLower_of_mem_colons hback

theorem folded_display (ignoreCase : Bool) (address : IpAddress) :
    Matcher.folded ignoreCase address.display = address.display.toList := by
  cases ignoreCase with
  | false => rfl
  | true =>
    have hkept : address.display.toList.map Char.toLower = address.display.toList.map id :=
      List.map_congr_left fun c hc => toLower_of_mem_display hc
    rwa [List.map_id] at hkept

end LowerCase

/-- The sixteen bytes that map an address of four. -/
def mapped (inner : Bytes) : Bytes := List.replicate 10 0 ++ [0xFF, 0xFF] ++ inner

theorem length_mapped (inner : Bytes) : (mapped inner).length = inner.length + 12 := by
  simp [mapped]

theorem display_inj : a.display = b.display ↔ a = b := by
  constructor
  · intro h
    have hparsed := congrArg parse? h
    rwa [parse?_display, parse?_display, Option.some_inj] at hparsed
  · rintro rfl
    rfl

theorem display_ne_empty (address : IpAddress) : address.display ≠ "" := by
  intro h
  have hparsed := parse?_display address
  have hnone : parse? "" = none := by decide +kernel
  rw [h, hnone] at hparsed
  cases hparsed

theorem accepts_display_iff (ignoreCase : Bool) :
    Matcher.accepts ⟨.exact a.display, ignoreCase⟩ b.display = true ↔ a = b := by
  rw [Matcher.accepts_exact_iff, Matcher.key_eq_iff, folded_display, folded_display,
    String.toList_inj, display_inj]
  exact ⟨fun h => h.2.symm, fun h => ⟨⟨a.display_ne_empty, b.display_ne_empty⟩, h.symm⟩⟩

end IpAddress

namespace AltName

variable {raw : Bytes} {text : String}

theorem ofAddressBytes_bytes (address : IpAddress) : ofAddressBytes address.bytes = .ip address := by
  have hbytes : IpAddress.ofBytes? address.bytes = some address := dif_pos address.length_bytes
  rw [ofAddressBytes, hbytes]

theorem ofAddressBytes_of_length (h : ¬ (raw.length = 4 ∨ raw.length = 16)) :
    ofAddressBytes raw = .ineligible .address := by
  have hbytes : IpAddress.ofBytes? raw = none := dif_neg h
  rw [ofAddressBytes, hbytes]

theorem readsAs_ofAddressBytes_iff : (ofAddressBytes raw).ReadsAs text ↔
    ∃ address : IpAddress, address.bytes = raw ∧ address.display = text := by
  constructor
  · intro h
    by_cases hlength : raw.length = 4 ∨ raw.length = 16
    · obtain ⟨address, rfl⟩ : ∃ address : IpAddress, address.bytes = raw := ⟨⟨raw, hlength⟩, rfl⟩
      rw [ofAddressBytes_bytes] at h
      cases h
      exact ⟨address, rfl, rfl⟩
    · rw [ofAddressBytes_of_length hlength] at h
      cases h
  · rintro ⟨address, rfl, rfl⟩
    rw [ofAddressBytes_bytes]
    exact .ip address

theorem matchText?_bytes (address : IpAddress) :
    (ofAddressBytes address.bytes).matchText? = some address.display := by
  rw [ofAddressBytes_bytes]
  rfl

theorem matchText?_of_length (h : ¬ (raw.length = 4 ∨ raw.length = 16)) :
    (ofAddressBytes raw).matchText? = none := by
  rw [ofAddressBytes_of_length h]
  rfl

/-- No two entries have the same text. -/
theorem matchText?_eq_display_iff (address : IpAddress) (raw : Bytes) :
    (ofAddressBytes raw).matchText? = some address.display ↔ raw = address.bytes := by
  rw [matchText?_eq_some_iff, readsAs_ofAddressBytes_iff]
  constructor
  · rintro ⟨other, rfl, hother⟩
    rw [IpAddress.display_inj.mp hother]
  · rintro rfl
    exact ⟨address, rfl, rfl⟩

/-- The reader of names keeps the bytes of an entry for an address. -/
theorem altName_of_address {input rest : Bytes} {constructed : Bool}
    (h : Der.Lenient.element input = some (⟨⟨.context, constructed, 7⟩, raw⟩, rest)) :
    Outline.altName input = some (ofAddressBytes raw, rest) := by
  unfold Outline.altName
  show (Der.Lenient.element input).bind _ = _
  rw [h]
  rfl

end AltName

namespace NamePolicy

/-- The policy of one exact matcher. -/
def ofExact (text : String) (ignoreCase : Bool) : NamePolicy := ⟨[⟨.exact text, ignoreCase⟩]⟩

variable {raw : Bytes} {raws : List Bytes} {address : IpAddress}

theorem admits_of_length (h : ¬ (raw.length = 4 ∨ raw.length = 16)) (policy : NamePolicy) :
    policy.admits [.ofAddressBytes raw] = false := by
  rw [AltName.ofAddressBytes_of_length h]
  rfl

theorem ofExact_meets_iff (ignoreCase : Bool) :
    (ofExact address.display ignoreCase).Meets (raws.map .ofAddressBytes) ↔ address.bytes ∈ raws := by
  constructor
  · rintro ⟨name, hname, text, hreads, m, hm, haccepts⟩
    obtain ⟨raw, hraw, rfl⟩ := List.mem_map.mp hname
    obtain ⟨other, rfl, rfl⟩ := AltName.readsAs_ofAddressBytes_iff.mp hreads
    obtain rfl := List.mem_singleton.mp hm
    obtain rfl := (IpAddress.accepts_display_iff ignoreCase).mp haccepts
    exact hraw
  · intro hraw
    exact ⟨_, List.mem_map_of_mem hraw, address.display,
      AltName.readsAs_ofAddressBytes_iff.mpr ⟨address, rfl, rfl⟩, _, List.mem_singleton_self _,
      (IpAddress.accepts_display_iff ignoreCase).mpr rfl⟩

theorem ofExact_admits_iff (ignoreCase : Bool) (raws : List Bytes) :
    (ofExact address.display ignoreCase).admits (raws.map .ofAddressBytes) = true ↔
      address.bytes ∈ raws :=
  admits_iff.trans (ofExact_meets_iff ignoreCase)

theorem ofExact_refuses (h : address.bytes ≠ raw) (ignoreCase : Bool) :
    (ofExact address.display ignoreCase).admits [.ofAddressBytes raw] = false := by
  rw [Bool.eq_false_iff]
  intro hadmits
  have hmem : address.bytes ∈ [raw] := (ofExact_admits_iff ignoreCase [raw]).mp hadmits
  exact h (List.mem_singleton.mp hmem)

theorem ofExact_checkLeaf_iff (ignoreCase : Bool) {leaf : Bytes}
    (h : altNames leaf = .ok (raws.map .ofAddressBytes)) :
    (ofExact address.display ignoreCase).checkLeaf leaf = .ok () ↔ address.bytes ∈ raws := by
  have hmatchers : (ofExact address.display ignoreCase).matchers ≠ [] := List.cons_ne_nil _ _
  rw [checkLeaf_eq_ok_iff hmatchers, ← ofExact_meets_iff ignoreCase]
  constructor
  · rintro ⟨names, hnames, hmeets⟩
    obtain rfl := Except.ok.inj (h.symm.trans hnames)
    exact hmeets
  · intro hmeets
    exact ⟨_, h, hmeets⟩

/-- Entries for addresses are told apart by their bytes. Those that have neither four nor sixteen of
them have no text, and nothing accepts them. All others have a text each, and among the entries for
addresses an exact matcher for one of these accepts just those with the same bytes, whether or not it
looks at case. So an address of four bytes and the one of sixteen that maps it are never confused. -/
theorem addresses_match_by_bytes (raw : Bytes) :
    let entry := AltName.ofAddressBytes
    (∀ input constructed rest,
      Der.Lenient.element input = some (⟨⟨.context, constructed, 7⟩, raw⟩, rest) →
        Outline.altName input = some (entry raw, rest)) ∧
    (¬ (raw.length = 4 ∨ raw.length = 16) →
      (entry raw).matchText? = none ∧ ∀ policy : NamePolicy, policy.admits [entry raw] = false) ∧
    (raw.length = 4 ∨ raw.length = 16 → ∃ text, (entry raw).matchText? = some text ∧
      (∀ other, (entry other).matchText? = some text ↔ other = raw) ∧
      ∀ ignoreCase (raws : List Bytes),
        ((ofExact text ignoreCase).admits (raws.map entry) = true ↔ raw ∈ raws) ∧
        ∀ leaf, altNames leaf = .ok (raws.map entry) →
          ((ofExact text ignoreCase).checkLeaf leaf = .ok () ↔ raw ∈ raws)) ∧
    (raw.length = 4 → ∃ text text', (entry raw).matchText? = some text ∧
      (entry (IpAddress.mapped raw)).matchText? = some text' ∧ text ≠ text' ∧
      ∀ ignoreCase, (ofExact text ignoreCase).admits [entry (IpAddress.mapped raw)] = false ∧
        (ofExact text' ignoreCase).admits [entry raw] = false) := by
  intro entry
  refine ⟨fun _ _ _ => AltName.altName_of_address, ?_, ?_, ?_⟩
  · intro h
    exact ⟨AltName.matchText?_of_length h, admits_of_length h⟩
  · intro h
    let address : IpAddress := ⟨raw, h⟩
    refine ⟨address.display, AltName.matchText?_bytes address,
      AltName.matchText?_eq_display_iff address, ?_⟩
    intro ignoreCase raws
    exact ⟨ofExact_admits_iff ignoreCase raws, fun _ => ofExact_checkLeaf_iff ignoreCase⟩
  · intro h
    have hmapped := IpAddress.length_mapped raw
    let short : IpAddress := ⟨raw, .inl h⟩
    let long : IpAddress := ⟨IpAddress.mapped raw, .inr (by omega)⟩
    have hne : short.bytes ≠ long.bytes := by
      intro hsame
      have hlength : raw.length = (IpAddress.mapped raw).length := congrArg List.length hsame
      omega
    refine ⟨short.display, long.display, AltName.matchText?_bytes short,
      AltName.matchText?_bytes long, ?_, ?_⟩
    · intro hsame
      exact hne (congrArg IpAddress.bytes (IpAddress.display_inj.mp hsame))
    · intro ignoreCase
      exact ⟨ofExact_refuses hne ignoreCase, ofExact_refuses hne.symm ignoreCase⟩

/-- A certificate with an entry of three bytes, an address, and the one that maps it. -/
theorem addresses_match_by_bytes_mapped :
    let inner : Bytes := [127, 0, 0, 1]
    let outer := IpAddress.mapped inner
    let certificate (raws : List Bytes) := bareCertificate (raws.flatMap (shortElement 0x87))
    let policy := ofExact "::ffff:127.0.0.1" true
    Outline.altName (shortElement 0x87 outer) = some (.ofAddressBytes outer, []) ∧
      policy.admits [.ofAddressBytes [127, 0, 0]] = false ∧
      policy.admits [.ofAddressBytes inner] = false ∧
      policy.checkLeaf (certificate [[127, 0, 0], inner, outer]) = .ok () ∧
      policy.checkLeaf (certificate [[127, 0, 0], inner]) ≠ .ok () := by
  intro inner outer certificate policy
  have htext : (AltName.ofAddressBytes outer).matchText? = some "::ffff:127.0.0.1" := by
    decide +kernel
  obtain ⟨-, hshort, -⟩ := addresses_match_by_bytes [127, 0, 0]
  obtain ⟨-, -, -, hmaps⟩ := addresses_match_by_bytes inner
  obtain ⟨hread, -, hexact, -⟩ := addresses_match_by_bytes outer
  obtain ⟨-, hnone⟩ := hshort (by decide)
  obtain ⟨_, text, -, houter, -, hapart⟩ := hmaps rfl
  obtain rfl := Option.some.inj (houter.symm.trans htext)
  obtain ⟨text, houter, -, haccepts⟩ := hexact (.inr rfl)
  obtain rfl := Option.some.inj (houter.symm.trans htext)
  have hentry := hread (shortElement 0x87 outer) false [] (by decide +kernel)
  have haccepted : policy.checkLeaf (certificate [[127, 0, 0], inner, outer]) = .ok () :=
    ((haccepts true [[127, 0, 0], inner, outer]).2 _ (by decide +kernel)).mpr (by decide)
  have hrefused : policy.checkLeaf (certificate [[127, 0, 0], inner]) ≠ .ok () := by
    intro h
    have hmem := ((haccepts true [[127, 0, 0], inner]).2 _ (by decide +kernel)).mp h
    exact absurd hmem (by decide)
  exact ⟨hentry, hnone policy, (hapart true).2, haccepted, hrefused⟩

end NamePolicy
end SecureChannel
