import SecureChannel.Peer.Identity
import SecureChannel.Proofs.Peer.NamePolicy
import SecureChannel.Proofs.Spiffe.Grammar
import SecureChannel.Proofs.Text.Utf8

/-! The identity that a chain claims. It is told from the URIs of the first certificate alone, and a
text is taken for an identity exactly if the reader of identities finds its scheme in it. -/
namespace SecureChannel

namespace SpiffeId

/-- What stands before the first `://`. -/
def IsSchemeOf (scheme : List Char) (text : String) : Prop :=
  ∃ rest, text.toList = scheme ++ "://".toList ++ rest ∧
    ∀ before after, text.toList = before ++ "://".toList ++ after → scheme.length ≤ before.length

variable {text : String} {id : SpiffeId} {fault : Fault}

theorem hasScheme_iff : hasScheme text = true ↔
    ∃ scheme rest, text.toList = scheme ++ "://".toList ++ rest ∧
      scheme.map Char.toLower = "spiffe".toList := by
  unfold hasScheme
  rw [beq_iff_eq]
  constructor
  · intro h
    have hparts : (text.toList.take 9).map Char.toLower = "spiffe".toList ++ "://".toList := h
    obtain ⟨scheme, separator, htake, hscheme, hseparator⟩ := List.map_eq_append_iff.mp hparts
    obtain rfl := (map_toLower_eq_iff (by simp)).mp hseparator
    refine ⟨scheme, text.toList.drop 9, ?_, hscheme⟩
    rw [← htake, List.take_append_drop]
  · intro ⟨scheme, rest, htext, hscheme⟩
    have hlength : (scheme ++ "://".toList).length = 9 := by
      rw [List.length_append, length_scheme hscheme]
      rfl
    rw [htext, ← hlength, List.take_left, List.map_append, hscheme]
    rfl

/-- The scheme ends where the first separator begins, since it has no colon. -/
theorem hasScheme_iff_isSchemeOf : hasScheme text = true ↔
    ∃ scheme, IsSchemeOf scheme text ∧ scheme.map Char.toLower = "spiffe".toList := by
  rw [hasScheme_iff]
  constructor
  · intro ⟨scheme, rest, htext, hscheme⟩
    refine ⟨scheme, ⟨rest, htext, ?_⟩, hscheme⟩
    intro before after htext'
    by_contra hshort
    have hcolon : text.toList[before.length]? = some ':' := by
      rw [htext', List.append_assoc, List.getElem?_append_right (Nat.le_refl _), Nat.sub_self]
      rfl
    rw [htext, List.append_assoc, List.getElem?_append_left (by omega)] at hcolon
    exact colon_not_mem_of_scheme hscheme (List.mem_of_getElem? hcolon)
  · intro ⟨scheme, ⟨rest, htext, _⟩, hscheme⟩
    exact ⟨scheme, rest, htext, hscheme⟩

/-- The scheme is found by its bytes. Where there are not as many, or the last of them is within a
character, there is no scheme. -/
theorem hasScheme_iff_slice : hasScheme text = true ↔
    String.Pos.Raw.IsValid text ⟨9⟩ ∧
      Bytes.eqIgnoreCase ((Bytes.ofString text).take 9) (Bytes.ofString "spiffe://") = true := by
  have hsame : (Bytes.ofString "spiffe://").map Bytes.toLower = Utf8.encode "spiffe://".toList := by
    decide +kernel
  have hlength : (Utf8.encode "spiffe://".toList).length = 9 := by decide +kernel
  unfold hasScheme
  rw [beq_iff_eq, Bytes.eqIgnoreCase_iff, hsame]
  constructor
  · intro h
    have hfront : (Utf8.encode (text.toList.take 9)).map Bytes.toLower =
        Utf8.encode "spiffe://".toList := by
      rw [Utf8.map_toLower_encode, h]
    have hnine : (Utf8.encode (text.toList.take 9)).length = 9 := by
      rw [← List.length_map Bytes.toLower, hfront, hlength]
    constructor
    · apply String.Pos.Raw.isValid_iff_exists_take_toList.mpr
      refine ⟨9, ?_⟩
      rw [← Utf8.length_encode, hnine]
    · have hsplit : Bytes.ofString text =
          Utf8.encode (text.toList.take 9) ++ Utf8.encode (text.toList.drop 9) := by
        unfold Bytes.ofString
        rw [← Utf8.encode_append, List.take_append_drop]
      rw [hsplit, List.take_left' hnine, hfront]
  · intro ⟨_, h⟩
    have hprefix : Utf8.encode "spiffe://".toList <+: Utf8.encode (text.toList.map Char.toLower) := by
      rw [← Utf8.map_toLower_encode, ← h, List.map_take]
      exact List.take_prefix _ _
    have hchars := List.prefix_iff_eq_take.mp (Utf8.encode_prefix_iff.mp hprefix)
    rw [List.map_take]
    exact hchars.symm

theorem hasScheme_of_parse (h : parse text = .ok id) : hasScheme text = true := by
  obtain ⟨-, scheme, hwritten⟩ := parse_eq_ok_iff.mp h
  apply hasScheme_iff.mpr
  refine ⟨scheme.toList, id.trustDomain.toList ++ id.path.toList, ?_, hwritten.scheme_eq⟩
  rw [hwritten.toList_eq, List.append_assoc]

section Faults

/-- Faults that deny that a text is meant for an identity. -/
def Fault.OfScheme (fault : Fault) : Prop := fault = .missingScheme ∨ fault = .wrongScheme

instance : DecidablePred Fault.OfScheme := fun fault =>
  inferInstanceAs (Decidable (fault = .missingScheme ∨ fault = .wrongScheme))

theorem Fault.ofScheme_iff_message : fault.OfScheme ↔
    fault.message = "missing scheme" ∨ fault.message = "scheme must be 'spiffe'" := by
  cases fault <;> decide

theorem not_ofScheme_of_domainFault? {domain : List Char} (h : domainFault? domain = some fault) :
    ¬ fault.OfScheme := by
  unfold domainFault? at h
  repeat' split at h
  all_goals cases h
  all_goals decide

theorem not_ofScheme_of_pathFault? {path : List Char} (h : pathFault? path = some fault) :
    ¬ fault.OfScheme := by
  unfold pathFault? at h
  split at h; · cases h
  split at h
  · cases h
    decide
  · obtain ⟨segment, -, hsegment⟩ := List.exists_of_findSome?_eq_some h
    unfold segmentFault? at hsegment
    repeat' split at hsegment
    all_goals cases hsegment
    all_goals decide

/-- Where the scheme is found, the reader of identities finds it too. -/
theorem not_ofScheme_of_parse (hscheme : hasScheme text = true) (h : parse text = .error fault) :
    ¬ fault.OfScheme := by
  obtain ⟨scheme, rest, htext, hlower⟩ := hasScheme_iff.mp hscheme
  have hcut : cut? [':', '/', '/'] text.toList = some (scheme, rest) := by
    have hseparator := cut?_self_append [':', '/', '/'] rest
    have hparts : text.toList = scheme ++ ([':', '/', '/'] ++ rest) := by
      rw [htext, List.append_assoc]
      rfl
    rw [hparts, cut?_append_of_not_mem (colon_not_mem_of_scheme hlower), hseparator]
    simp
  unfold parse at h
  rw [hcut] at h
  dsimp only at h
  rw [if_neg (not_not.mpr hlower)] at h
  split at h
  · cases h
    decide
  split at h
  · cases h
    decide
  split at h
  · rename_i fault' hfault
    obtain rfl := Except.error.inj h
    cases hdomain : domainFault? (rest.takeWhile (· ≠ '/')) with
    | some domainFault =>
      rw [hdomain] at hfault
      obtain rfl : domainFault = fault' := Option.some.inj hfault
      exact not_ofScheme_of_domainFault? hdomain
    | none =>
      rw [hdomain] at hfault
      exact not_ofScheme_of_pathFault? hfault
  · cases h

end Faults
end SpiffeId

open SpiffeId

/-- What the URIs of the first certificate tell. -/
def idOfUris : List String → Except PeerError (Option SpiffeId)
  | [] => .ok none
  | [uri] => if hasScheme uri then (peerId uri).map some else .ok none
  | _ => .error .multipleUris

variable {leaf : Bytes} {rest : Chain} {names : List AltName} {uris : List String}
  {uri text : String} {id : SpiffeId} {fault : Fault}

theorem claimedId_cons (leaf : Bytes) (rest : Chain) :
    claimedId (leaf :: rest) =
      (peerNames leaf).bind fun names => idOfUris (names.filterMap AltName.uri?) := rfl

theorem claimedId_of_names (h : peerNames leaf = .ok names) :
    claimedId (leaf :: rest) = idOfUris (names.filterMap AltName.uri?) := by
  rw [claimedId_cons, h]
  rfl

theorem idOfUris_of_hasScheme (h : hasScheme uri = true) :
    idOfUris [uri] = (peerId uri).map some := if_pos h

theorem idOfUris_of_not_hasScheme (h : ¬ hasScheme uri = true) : idOfUris [uri] = .ok none :=
  if_neg h

theorem idOfUris_of_two_le (h : 2 ≤ uris.length) : idOfUris uris = .error .multipleUris := by
  match uris with
  | [] => cases h
  | [_] => simp at h
  | _ :: _ :: _ => rfl

theorem idOfUris_eq_some_iff : idOfUris [uri] = .ok (some id) ↔ peerId uri = .ok id := by
  by_cases hscheme : hasScheme uri = true
  · rw [idOfUris_of_hasScheme hscheme]
    cases peerId uri <;> simp [Except.map]
  · rw [idOfUris_of_not_hasScheme hscheme]
    refine iff_of_false nofun fun hread => ?_
    exact hscheme (hasScheme_of_parse (mapError_eq_ok_iff.mp hread))

theorem idOfUris_eq_none_iff : idOfUris [uri] = .ok none ↔ ¬ hasScheme uri = true := by
  by_cases hscheme : hasScheme uri = true
  · rw [idOfUris_of_hasScheme hscheme]
    cases peerId uri <;> simp [Except.map, hscheme]
  · exact iff_of_true (idOfUris_of_not_hasScheme hscheme) hscheme

theorem not_ofScheme_of_idOfUris (h : idOfUris uris = .error (.invalidSpiffeId text fault)) :
    ¬ fault.OfScheme := by
  match uris with
  | [] => cases h
  | _ :: _ :: _ => cases h
  | [uri] =>
    by_cases hscheme : hasScheme uri = true
    · rw [idOfUris_of_hasScheme hscheme, peerId] at h
      cases hparse : SpiffeId.parse uri with
      | ok id =>
        rw [hparse] at h
        cases h
      | error fault' =>
        rw [hparse] at h
        have hfault : fault' = fault := (PeerError.invalidSpiffeId.inj (Except.error.inj h)).2
        exact hfault ▸ not_ofScheme_of_parse hscheme hparse
    · rw [idOfUris_of_not_hasScheme hscheme] at h
      cases h

theorem not_ofScheme_of_claimedId {chain : Chain}
    (h : claimedId chain = .error (.invalidSpiffeId text fault)) : ¬ fault.OfScheme := by
  cases chain with
  | nil => cases h
  | cons leaf rest =>
    rw [claimedId_cons, peerNames] at h
    cases hnames : altNames leaf with
    | error e =>
      rw [hnames] at h
      cases h
    | ok names =>
      rw [hnames] at h
      exact not_ofScheme_of_idOfUris h

/-- A chain claims the identity that its first certificate gives as its only URI. Several URIs are an
error, whatever they are. No identity is claimed by an empty chain, without URIs, and by a text in
which the reader of identities would not find the scheme; so the scheme is never what is wrong with a
claimed identity. -/
theorem claimedId_agrees_with_reader :
    claimedId [] = .ok none ∧
    (∀ leaf rest e, peerNames leaf = .error e → claimedId (leaf :: rest) = .error e) ∧
    (∀ leaf rest names, peerNames leaf = .ok names →
      let uris := names.filterMap AltName.uri?
      let claimed := claimedId (leaf :: rest)
      (∀ leaf' rest' names', peerNames leaf' = .ok names' → names'.filterMap AltName.uri? = uris →
        claimedId (leaf' :: rest') = claimed) ∧
      (uris = [] → claimed = .ok none) ∧
      (2 ≤ uris.length → claimed = .error .multipleUris) ∧
      ∀ uri, uris = [uri] →
        (∀ id, claimed = .ok (some id) ↔ peerId uri = .ok id) ∧
        (claimed = .ok none ↔
          ¬ ∃ scheme, IsSchemeOf scheme uri ∧ scheme.map Char.toLower = "spiffe".toList)) ∧
    (∀ chain text fault, claimedId chain = .error (.invalidSpiffeId text fault) →
      fault.message ≠ "missing scheme" ∧ fault.message ≠ "scheme must be 'spiffe'") ∧
    (∀ uri, hasScheme uri = true ↔ String.Pos.Raw.IsValid uri ⟨9⟩ ∧
      Bytes.eqIgnoreCase ((Bytes.ofString uri).take 9) (Bytes.ofString "spiffe://") = true) := by
  refine ⟨rfl, ?_, ?_, ?_, fun _ => hasScheme_iff_slice⟩
  · intro leaf rest e h
    rw [claimedId_cons, h]
    rfl
  · intro leaf rest names hnames uris claimed
    have hclaimed : claimed = idOfUris uris := claimedId_of_names hnames
    refine ⟨?_, ?_, ?_, ?_⟩
    · intro leaf' rest' names' hnames' huris
      rw [hclaimed, ← huris]
      exact claimedId_of_names hnames'
    · intro hnil
      rw [hclaimed, hnil]
      rfl
    · intro htwo
      rw [hclaimed, idOfUris_of_two_le htwo]
    · intro uri huri
      rw [hclaimed, huri, idOfUris_eq_none_iff, hasScheme_iff_isSchemeOf]
      exact ⟨fun id => idOfUris_eq_some_iff, Iff.rfl⟩
  · intro chain text fault h
    have hscheme := not_ofScheme_of_claimedId h
    rw [Fault.ofScheme_iff_message] at hscheme
    exact not_or.mp hscheme

/-- A host beside the URI does no harm, a slash too few makes it another URI, and a capital in the
domain makes it a false identity. -/
theorem claimedId_agrees_with_reader_uris :
    let uri (text : String) := NamePolicy.shortElement 0x86 (Bytes.ofString text)
    let host := NamePolicy.shortElement 0x82 [0x61]
    let claimed (names : Bytes) := claimedId [NamePolicy.bareCertificate names]
    claimedId [[]] = .error (.parseFailed (.names .certificate)) ∧
    claimed (host ++ uri "SPIFFE://a/b") = .ok (some ⟨"a", "/b"⟩) ∧
    claimed (uri "spiffe:/a/b") = .ok none ∧
    claimed (uri "x" ++ uri "spiffe://a/b") = .error .multipleUris ∧
    claimed host = .ok none ∧
    claimed (uri "spiffe://A") = .error (.invalidSpiffeId "spiffe://A" .domainCharacter) ∧
    SpiffeId.Fault.message .domainCharacter ≠ "missing scheme" := by
  intro uri host claimed
  obtain ⟨-, hunread, hread, hfaults, hslice⟩ := claimedId_agrees_with_reader
  have hsingle : peerNames (NamePolicy.bareCertificate (host ++ uri "SPIFFE://a/b")) =
      .ok [.dns "a", .uri "SPIFFE://a/b"] := by decide +kernel
  have hforeign : peerNames (NamePolicy.bareCertificate (uri "spiffe:/a/b")) =
      .ok [.uri "spiffe:/a/b"] := by decide +kernel
  have hseveral : peerNames (NamePolicy.bareCertificate (uri "x" ++ uri "spiffe://a/b")) =
      .ok [.uri "x", .uri "spiffe://a/b"] := by decide +kernel
  have hnone : peerNames (NamePolicy.bareCertificate host) = .ok [.dns "a"] := by decide +kernel
  have hfalse : claimed (uri "spiffe://A") =
      .error (.invalidSpiffeId "spiffe://A" .domainCharacter) := by decide +kernel
  refine ⟨hunread [] [] _ (by decide +kernel), ?_, ?_, ?_, ?_, hfalse, (hfaults _ _ _ hfalse).1⟩
  · obtain ⟨-, -, -, hone⟩ := hread _ [] _ hsingle
    exact ((hone "SPIFFE://a/b" rfl).1 _).mpr (by decide +kernel)
  · obtain ⟨-, -, -, hone⟩ := hread _ [] _ hforeign
    apply (hone "spiffe:/a/b" rfl).2.mpr
    rw [← hasScheme_iff_isSchemeOf, hslice]
    rintro ⟨-, hbytes⟩
    revert hbytes
    decide +kernel
  · exact (hread _ [] _ hseveral).2.2.1 (by decide)
  · exact (hread _ [] _ hnone).2.1 rfl

end SecureChannel
