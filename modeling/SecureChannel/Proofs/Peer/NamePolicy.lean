import SecureChannel.Peer.NamePolicy
import SecureChannel.Proofs.Except

/-! The policy for names. A certificate is accepted if one of its names and one of the matchers go
together, and it does not matter in which order names and matchers are looked at, or how often. -/
namespace SecureChannel

/-- The text that matchers see of a name. There is none for names of other kinds, nor for addresses of
impossible length. -/
inductive AltName.ReadsAs : AltName → String → Prop
  | dns (host : String) : ReadsAs (.dns host) host
  | uri (uri : String) : ReadsAs (.uri uri) uri
  | ip (address : IpAddress) : ReadsAs (.ip address) address.display

theorem AltName.matchText?_eq_some_iff {name : AltName} {text : String} :
    name.matchText? = some text ↔ name.ReadsAs text := by
  constructor
  · intro h
    cases name with
    | dns host =>
      obtain rfl := Option.some.inj h
      exact .dns host
    | uri uri =>
      obtain rfl := Option.some.inj h
      exact .uri uri
    | ip address =>
      obtain rfl := Option.some.inj h
      exact .ip address
    | ineligible => cases h
  · rintro (_ | _ | _) <;> rfl

namespace NamePolicy

/-- Some name and some matcher go together. -/
def Meets (policy : NamePolicy) (names : List AltName) : Prop :=
  ∃ name ∈ names, ∃ text, name.ReadsAs text ∧ ∃ m ∈ policy.matchers, m.accepts text = true

/-- What a policy that has matchers says of a certificate, by what is read of its names. -/
inductive Judges (policy : NamePolicy) :
    Except Outline.Fault (List AltName) → Except PeerError Unit → Prop
  | unread (fault : Outline.Fault) :
      Judges policy (.error fault) (.error (.parseFailed (.names fault)))
  | nameless : Judges policy (.ok []) (.error .missingNames)
  | met {names} (meets : policy.Meets names) : Judges policy (.ok names) (.ok ())
  | unmet {names} (named : names ≠ []) (meets : ¬ policy.Meets names) :
      Judges policy (.ok names) (.error .namesRefused)

variable {policy policy' : NamePolicy} {names names' : List AltName} {leaf leaf' : Bytes}
  {r r' : Except PeerError Unit}

theorem admits_iff : policy.admits names = true ↔ policy.Meets names := by
  rw [admits, List.any_eq_true]
  constructor
  · intro ⟨name, hname, hmatch⟩
    cases htext : name.matchText? with
    | none => simp [htext] at hmatch
    | some text =>
      rw [htext] at hmatch
      exact ⟨name, hname, text, AltName.matchText?_eq_some_iff.mp htext, List.any_eq_true.mp hmatch⟩
  · intro ⟨name, hname, text, hreads, hmatch⟩
    refine ⟨name, hname, ?_⟩
    rw [AltName.matchText?_eq_some_iff.mpr hreads]
    exact List.any_eq_true.mpr hmatch

/-- More matchers and more names only make it easier. -/
theorem Meets.mono (h : policy.Meets names) (hmatchers : policy.matchers ⊆ policy'.matchers)
    (hnames : names ⊆ names') : policy'.Meets names' := by
  obtain ⟨name, hname, text, hreads, m, hm, haccepts⟩ := h
  exact ⟨name, hnames hname, text, hreads, m, hmatchers hm, haccepts⟩

theorem not_meets_nil (policy : NamePolicy) : ¬ policy.Meets [] := by
  intro ⟨name, hname, _⟩
  cases hname

theorem checkLeaf_of_isEmpty (h : policy.matchers = []) (leaf : Bytes) :
    policy.checkLeaf leaf = .ok () := by
  have hempty : policy.isEmpty = true := by simp [isEmpty, h]
  rw [checkLeaf, if_pos hempty]

theorem checkLeaf_of_matchers (h : policy.matchers ≠ []) (leaf : Bytes) :
    policy.checkLeaf leaf = (peerNames leaf).bind fun names =>
      if names.isEmpty then .error .missingNames
      else if policy.admits names then .ok () else .error .namesRefused := by
  have hempty : ¬ policy.isEmpty = true := by simpa [isEmpty] using h
  rw [checkLeaf, if_neg hempty]
  rfl

theorem judges_checkLeaf (h : policy.matchers ≠ []) (leaf : Bytes) :
    policy.Judges (altNames leaf) (policy.checkLeaf leaf) := by
  rw [checkLeaf_of_matchers h, peerNames]
  cases altNames leaf with
  | error fault => exact .unread fault
  | ok names =>
    show policy.Judges (.ok names) (if names.isEmpty then _ else _)
    split
    · rename_i hnil
      obtain rfl := List.isEmpty_iff.mp hnil
      exact .nameless
    · rename_i hne
      have hnamed : names ≠ [] := by simpa using hne
      split
      · rename_i hadmits
        exact .met (admits_iff.mp hadmits)
      · rename_i hrefuses
        exact .unmet hnamed fun hmeets => hrefuses (admits_iff.mpr hmeets)

variable {read : Except Outline.Fault (List AltName)}

/-- Names are read in one way only, and only one thing can be said of them. -/
theorem Judges.unique (h : policy.Judges read r) (h' : policy.Judges read r') : r = r' := by
  cases h with
  | unread fault =>
    cases h'
    rfl
  | nameless =>
    cases h' with
    | nameless => rfl
    | met meets => exact absurd meets policy.not_meets_nil
    | unmet named => exact absurd rfl named
  | met meets =>
    cases h' with
    | nameless => exact absurd meets policy.not_meets_nil
    | met => rfl
    | unmet _ unmet => exact absurd meets unmet
  | unmet named unmet =>
    cases h' with
    | nameless => exact absurd rfl named
    | met meets => exact absurd meets unmet
    | unmet => rfl

theorem checkLeaf_eq_iff (h : policy.matchers ≠ []) :
    policy.checkLeaf leaf = r ↔ policy.Judges (altNames leaf) r := by
  constructor
  · rintro rfl
    exact judges_checkLeaf h leaf
  · intro hjudges
    exact (judges_checkLeaf h leaf).unique hjudges

section Order

/-- Matchers in another order, or some of them more than once. -/
theorem Judges.congr_matchers (h : policy.Judges read r)
    (hmatchers : ∀ m, m ∈ policy'.matchers ↔ m ∈ policy.matchers) : policy'.Judges read r := by
  have hmeets (names : List AltName) : policy'.Meets names ↔ policy.Meets names := by
    simp only [Meets, hmatchers]
  cases h with
  | unread fault => exact .unread fault
  | nameless => exact .nameless
  | met meets => exact .met ((hmeets _).mpr meets)
  | unmet named unmet => exact .unmet named fun meets => unmet ((hmeets _).mp meets)

/-- Names in another order, or some of them more than once. -/
theorem Judges.congr_names (h : policy.Judges (.ok names) r)
    (hnames : ∀ name, name ∈ names' ↔ name ∈ names) : policy.Judges (.ok names') r := by
  have hmeets : policy.Meets names' ↔ policy.Meets names := by simp only [Meets, hnames]
  have hnil : names' = [] ↔ names = [] := by
    simp only [List.eq_nil_iff_forall_not_mem, hnames]
  cases h with
  | nameless =>
    obtain rfl := hnil.mpr rfl
    exact .nameless
  | met meets => exact .met (hmeets.mpr meets)
  | unmet named unmet =>
    exact .unmet (fun h => named (hnil.mp h)) fun meets => unmet (hmeets.mp meets)

theorem check_congr_matchers (h : policy.matchers ≠ [])
    (hmatchers : ∀ m, m ∈ policy'.matchers ↔ m ∈ policy.matchers) :
    policy'.check = policy.check ∧ policy'.checkLeaf = policy.checkLeaf := by
  have h' : policy'.matchers ≠ [] := by
    obtain ⟨m, hm⟩ := List.exists_mem_of_ne_nil _ h
    exact List.ne_nil_of_mem ((hmatchers m).mpr hm)
  have hleaf : policy'.checkLeaf = policy.checkLeaf := by
    funext leaf
    exact (checkLeaf_eq_iff h').mpr ((judges_checkLeaf h leaf).congr_matchers hmatchers)
  refine ⟨?_, hleaf⟩
  funext chain
  cases chain with
  | nil => simp [check, isEmpty, h, h']
  | cons leaf rest => exact congrFun hleaf leaf

theorem checkLeaf_congr_names (h : policy.matchers ≠ []) (hleaf : altNames leaf = .ok names)
    (hleaf' : altNames leaf' = .ok names') (hnames : ∀ name, name ∈ names' ↔ name ∈ names) :
    policy.checkLeaf leaf' = policy.checkLeaf leaf := by
  have hjudges := judges_checkLeaf h leaf
  rw [hleaf] at hjudges
  apply (checkLeaf_eq_iff h).mpr
  rw [hleaf']
  exact hjudges.congr_names hnames

end Order

section Growth

theorem checkLeaf_eq_ok_iff (h : policy.matchers ≠ []) :
    policy.checkLeaf leaf = .ok () ↔ ∃ names, altNames leaf = .ok names ∧ policy.Meets names := by
  rw [checkLeaf_eq_iff h]
  constructor
  · intro hjudges
    cases hread : altNames leaf with
    | error fault =>
      rw [hread] at hjudges
      cases hjudges
    | ok names =>
      rw [hread] at hjudges
      cases hjudges with
      | met meets => exact ⟨names, rfl, meets⟩
  · intro ⟨names, hread, meets⟩
    rw [hread]
    exact .met meets

theorem check_of_more_matchers (h : policy.matchers ≠ [])
    (hmatchers : policy.matchers ⊆ policy'.matchers) {chain : Chain}
    (hcheck : policy.check chain = .ok ()) : policy'.check chain = .ok () := by
  have h' : policy'.matchers ≠ [] := by
    obtain ⟨m, hm⟩ := List.exists_mem_of_ne_nil _ h
    exact List.ne_nil_of_mem (hmatchers hm)
  cases chain with
  | nil => simp [check, isEmpty, h] at hcheck
  | cons leaf rest =>
    obtain ⟨names, hread, meets⟩ := (checkLeaf_eq_ok_iff h).mp hcheck
    exact (checkLeaf_eq_ok_iff h').mpr ⟨names, hread, meets.mono hmatchers (List.Subset.refl _)⟩

theorem checkLeaf_of_more_names (h : policy.matchers ≠ []) (hleaf : altNames leaf = .ok names)
    (hleaf' : altNames leaf' = .ok names') (hnames : names ⊆ names')
    (hcheck : policy.checkLeaf leaf = .ok ()) : policy.checkLeaf leaf' = .ok () := by
  obtain ⟨read, hread, meets⟩ := (checkLeaf_eq_ok_iff h).mp hcheck
  obtain rfl : names = read := Except.ok.inj (hleaf.symm.trans hread)
  exact (checkLeaf_eq_ok_iff h).mpr
    ⟨names', hleaf', meets.mono (List.Subset.refl _) hnames⟩

end Growth

/-- Without matchers a policy accepts everything. With matchers it needs a first certificate, and looks
at no other. Of this it asks for one name that goes with one matcher, and each other outcome has its
own reason. So neither order nor repetition of matchers or of names counts, and with more of either
a policy accepts no less. -/
theorem check_asks_for_one_match (policy : NamePolicy) :
    (policy.matchers = [] →
      (∀ chain, policy.check chain = .ok ()) ∧ ∀ leaf, policy.checkLeaf leaf = .ok ()) ∧
    (policy.matchers ≠ [] →
      policy.check [] = .error .missingCertificates ∧
      (∀ leaf rest, policy.check (leaf :: rest) = policy.checkLeaf leaf) ∧
      (∀ leaf r, policy.checkLeaf leaf = r ↔ policy.Judges (altNames leaf) r) ∧
      (∀ policy' : NamePolicy, (∀ m, m ∈ policy'.matchers ↔ m ∈ policy.matchers) →
        policy'.check = policy.check ∧ policy'.checkLeaf = policy.checkLeaf) ∧
      (∀ policy' : NamePolicy, policy.matchers ⊆ policy'.matchers →
        ∀ chain, policy.check chain = .ok () → policy'.check chain = .ok ()) ∧
      ∀ leaf leaf' names names', altNames leaf = .ok names → altNames leaf' = .ok names' →
        ((∀ name, name ∈ names' ↔ name ∈ names) →
          policy.checkLeaf leaf' = policy.checkLeaf leaf) ∧
        (names ⊆ names' → policy.checkLeaf leaf = .ok () → policy.checkLeaf leaf' = .ok ())) := by
  constructor
  · intro h
    refine ⟨fun chain => ?_, checkLeaf_of_isEmpty h⟩
    cases chain with
    | nil => simp [check, isEmpty, h]
    | cons leaf rest => exact checkLeaf_of_isEmpty h leaf
  · intro h
    refine ⟨by simp [check, isEmpty, h], fun _ _ => rfl, fun _ _ => checkLeaf_eq_iff h,
      fun _ => check_congr_matchers h, fun _ hmatchers _ => check_of_more_matchers h hmatchers, ?_⟩
    intro leaf leaf' names names' hleaf hleaf'
    exact ⟨checkLeaf_congr_names h hleaf hleaf', checkLeaf_of_more_names h hleaf hleaf'⟩

/-- An element whose content is shorter than 128 bytes. -/
def shortElement (tag : UInt8) (content : Bytes) : Bytes :=
  tag :: UInt8.ofNat content.length :: content

/-- A certificate with nothing in it but what it must have and names. -/
def bareCertificate (names : Bytes) : Bytes :=
  let sequence := shortElement 0x30
  let algorithm := sequence (shortElement 0x06 [0x2A])
  let signature := shortElement 0x03 [0x00]
  let midnight := shortElement 0x17 (Bytes.ofString "250101000000Z")
  let extension :=
    sequence (shortElement 0x06 Outline.altNamesOid ++ shortElement 0x04 (sequence names))
  let body := shortElement 0x02 [0x01] ++ algorithm ++ sequence [] ++ sequence (midnight ++ midnight)
    ++ sequence [] ++ sequence (algorithm ++ signature) ++ shortElement 0xA3 (sequence extension)
  sequence (sequence body ++ algorithm ++ signature)

/-- With the mail address first and the host twice, a certificate is accepted as before. -/
theorem check_asks_for_one_match_reordered :
    let policy : NamePolicy := ⟨[⟨.exact "a", false⟩]⟩
    let host := shortElement 0x82 [0x61]
    let mail := shortElement 0x81 [0x62]
    policy.matchers ≠ [] ∧
    policy.checkLeaf (bareCertificate (host ++ mail)) = .ok () ∧
    policy.checkLeaf (bareCertificate (mail ++ host ++ host)) = .ok () := by
  intro policy host mail
  have hmatchers : policy.matchers ≠ [] := by decide
  have hread : altNames (bareCertificate (host ++ mail)) =
      .ok [.dns "a", .ineligible .email] := by decide +kernel
  have hreread : altNames (bareCertificate (mail ++ host ++ host)) =
      .ok [.ineligible .email, .dns "a", .dns "a"] := by decide +kernel
  obtain ⟨-, -, hverdict, -, -, hleaves⟩ := (check_asks_for_one_match policy).2 hmatchers
  have haccepted : policy.checkLeaf (bareCertificate (host ++ mail)) = .ok () := by
    apply (hverdict _ _).mpr
    rw [hread]
    exact .met ⟨.dns "a", by simp, "a", .dns "a", ⟨.exact "a", false⟩, by simp [policy],
      by decide +kernel⟩
  refine ⟨hmatchers, haccepted, ?_⟩
  rw [(hleaves _ _ _ _ hread hreread).1 (by simp [or_comm])]
  exact haccepted

end NamePolicy
end SecureChannel
