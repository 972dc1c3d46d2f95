import SecureChannel.Proofs.Spiffe.Grammar
import SecureChannel.Proofs.Text.Utf8

/-! The text of an identity. It is read back as this identity, and all other texts that are differ from
it in the case of the scheme only. -/
namespace SecureChannel

namespace SpiffeId

/-- At most the case of ASCII letters differs, and only in the first six characters. -/
structure AlikeBehindScheme (text text' : String) : Prop where
  scheme : (text.toList.take 6).map Char.toLower = (text'.toList.take 6).map Char.toLower
  rest : text.toList.drop 6 = text'.toList.drop 6

variable {text text' scheme scheme' : String} {id id' : SpiffeId}

theorem AlikeBehindScheme.length_eq (h : AlikeBehindScheme text text') :
    text.length = text'.length := by
  have hscheme := congrArg List.length h.scheme
  have hrest := congrArg List.length h.rest
  simp only [List.length_map, List.length_take, List.length_drop, String.length_toList]
    at hscheme hrest
  omega

theorem utf8ByteSize_scheme (h : scheme.toList.map Char.toLower = "spiffe".toList) :
    scheme.utf8ByteSize = 6 := by
  rw [← Bytes.length_ofString, Bytes.ofString, ← Utf8.length_encode_map_toLower, h]
  rfl

namespace IsWritten

theorem take_eq (h : IsWritten text scheme id) : text.toList.take 6 = scheme.toList := by
  rw [h.toList_eq, ← length_scheme h.scheme_eq, List.take_left]

theorem drop_eq (h : IsWritten text scheme id) :
    text.toList.drop 6 = "://".toList ++ (id.trustDomain.toList ++ id.path.toList) := by
  rw [h.toList_eq, ← length_scheme h.scheme_eq, List.drop_left]

theorem utf8ByteSize_eq (h : IsWritten text scheme id) :
    text.utf8ByteSize = 9 + id.trustDomain.utf8ByteSize + id.path.utf8ByteSize := by
  have hseparator : "://".utf8ByteSize = 3 := rfl
  rw [h.text_eq, String.utf8ByteSize_append, String.utf8ByteSize_append,
    String.utf8ByteSize_append, utf8ByteSize_scheme h.scheme_eq, hseparator]

protected theorem display (h : IsWritten text scheme id) : IsWritten id.display "spiffe" id :=
  ⟨rfl, by decide, h.domain, h.path⟩

/-- Two texts stand for one identity exactly if they differ at most in the case of the scheme. -/
theorem alike_iff (h : IsWritten text scheme id) (h' : IsWritten text' scheme' id') :
    AlikeBehindScheme text text' ↔ id = id' := by
  constructor
  · intro halike
    have hrest := halike.rest
    rw [h.drop_eq, h'.drop_eq] at hrest
    have hdisplay : id.display = id'.display := by
      apply String.toList_inj.mp
      rw [h.display.toList_eq, h'.display.toList_eq, hrest]
    have hwritten : IsWritten id.display "spiffe" id' := hdisplay ▸ h'.display
    exact (h.display.unique hwritten).2
  · rintro rfl
    refine ⟨?_, ?_⟩
    · rw [h.take_eq, h'.take_eq, h.scheme_eq, h'.scheme_eq]
    · rw [h.drop_eq, h'.drop_eq]

end IsWritten
end SpiffeId

open SpiffeId

theorem peerId_display {text : String} {id : SpiffeId} (h : peerId text = .ok id) :
    peerId id.display = .ok id := by
  obtain ⟨hsize, scheme, hwritten⟩ := peerId_eq_ok_iff.mp h
  apply peerId_eq_ok_iff.mpr
  refine ⟨?_, "spiffe", hwritten.display⟩
  rwa [hwritten.display.utf8ByteSize_eq, ← hwritten.utf8ByteSize_eq]

/-- The text of an identity is read back as it, and is as long as any text it was read from. Identities
are the same if their texts are, and if those they were read from differ in the scheme's case only. -/
theorem peerId_has_canonical_text :
    (∀ text id, peerId text = .ok id →
      peerId id.display = .ok id ∧ id.display.utf8ByteSize = text.utf8ByteSize ∧
      id.display.length = text.length ∧ AlikeBehindScheme text id.display) ∧
    (∀ text text' id id', peerId text = .ok id → peerId text' = .ok id' →
      (id = id' ↔ id.display = id'.display) ∧ (id = id' ↔ AlikeBehindScheme text text')) := by
  constructor
  · intro text id h
    obtain ⟨-, scheme, hwritten⟩ := peerId_eq_ok_iff.mp h
    have halike : AlikeBehindScheme text id.display := (hwritten.alike_iff hwritten.display).mpr rfl
    refine ⟨peerId_display h, ?_, halike.length_eq.symm, halike⟩
    rw [hwritten.display.utf8ByteSize_eq, hwritten.utf8ByteSize_eq]
  · intro text text' id id' h h'
    obtain ⟨-, scheme, hwritten⟩ := peerId_eq_ok_iff.mp h
    obtain ⟨-, scheme', hwritten'⟩ := peerId_eq_ok_iff.mp h'
    refine ⟨⟨congrArg display, ?_⟩, (hwritten.alike_iff hwritten').symm⟩
    intro hdisplay
    have hread := peerId_display h
    rw [hdisplay, peerId_display h'] at hread
    exact (Except.ok.inj hread).symm

/-- A path keeps its capitals, so it tells identities apart that the scheme does not. -/
theorem peerId_has_canonical_text_capitals :
    peerId "spiffe://example.org/A" = .ok ⟨"example.org", "/A"⟩ ∧
    AlikeBehindScheme "SPIFFE://example.org/A" "spiffe://example.org/A" ∧
    ¬ AlikeBehindScheme "SPIFFE://example.org/A" "SPIFFE://example.org/a" := by
  have hcapital : peerId "SPIFFE://example.org/A" = .ok ⟨"example.org", "/A"⟩ := by decide +kernel
  have hsmall : peerId "SPIFFE://example.org/a" = .ok ⟨"example.org", "/a"⟩ := by decide +kernel
  obtain ⟨hdisplay, hdistinct⟩ := peerId_has_canonical_text
  obtain ⟨hread, -, -, halike⟩ := hdisplay _ _ hcapital
  refine ⟨hread, halike, ?_⟩
  rw [← (hdistinct _ _ _ _ hcapital hsmall).2]
  decide

end SecureChannel
