import SecureChannel.Peer.Error
import SecureChannel.Proofs.Except
import SecureChannel.Proofs.Text.Split

/-! The grammar of identities: how they are written, and that only these writings are read. -/
namespace SecureChannel.SpiffeId

/-- Letters are lower case in a trust domain. -/
def IsDomainChar (c : Char) : Prop :=
  ('a' ≤ c ∧ c ≤ 'z') ∨ ('0' ≤ c ∧ c ≤ '9') ∨ c = '.' ∨ c = '-' ∨ c = '_'

def IsPathChar (c : Char) : Prop := ('A' ≤ c ∧ c ≤ 'Z') ∨ IsDomainChar c

/-- One to 255 bytes. -/
structure IsDomain (domain : List Char) : Prop where
  ne_nil : domain ≠ []
  size_le : (String.ofList domain).utf8ByteSize ≤ 255
  chars : ∀ c ∈ domain, IsDomainChar c

structure IsSegment (segment : List Char) : Prop where
  ne_nil : segment ≠ []
  ne_dot : segment ≠ ['.']
  ne_dots : segment ≠ ['.', '.']
  chars : ∀ c ∈ segment, IsPathChar c

/-- Any number of segments, each behind a slash. -/
inductive IsPath : List Char → Prop
  | nil : IsPath []
  | cons {segment path : List Char} :
      IsSegment segment → IsPath path → IsPath ('/' :: (segment ++ path))

/-- The scheme is spelled in any mixture of cases. -/
structure IsWritten (text scheme : String) (id : SpiffeId) : Prop where
  text_eq : text = scheme ++ "://" ++ id.trustDomain ++ id.path
  scheme_eq : scheme.toList.map Char.toLower = "spiffe".toList
  domain : IsDomain id.trustDomain.toList
  path : IsPath id.path.toList

section Characters
variable {c : Char}

theorem isMark_iff : isMark c = true ↔ c = '.' ∨ c = '-' ∨ c = '_' := by
  simp [isMark, or_assoc]

theorem isLower_iff : c.isLower = true ↔ 'a' ≤ c ∧ c ≤ 'z' := by
  show (decide ('a' ≤ c) && decide (c ≤ 'z')) = true ↔ _
  rw [Bool.and_eq_true, decide_eq_true_eq, decide_eq_true_eq]

theorem isUpper_iff : c.isUpper = true ↔ 'A' ≤ c ∧ c ≤ 'Z' := decide_eq_true_iff

theorem isDigit_iff : c.isDigit = true ↔ '0' ≤ c ∧ c ≤ '9' := by
  show (decide ('0' ≤ c) && decide (c ≤ '9')) = true ↔ _
  rw [Bool.and_eq_true, decide_eq_true_eq, decide_eq_true_eq]

theorem isDomainChar_iff : isDomainChar c = true ↔ IsDomainChar c := by
  unfold isDomainChar IsDomainChar
  simp only [Bool.or_eq_true, isMark_iff, isLower_iff, isDigit_iff, or_assoc]

theorem isPathChar_iff : isPathChar c = true ↔ IsPathChar c := by
  have hkinds : isPathChar c = (c.isUpper || c.isLower || c.isDigit || isMark c) := rfl
  unfold IsPathChar IsDomainChar
  simp only [hkinds, Bool.or_eq_true, isMark_iff, isUpper_iff, isLower_iff, isDigit_iff, or_assoc]

theorem IsDomainChar.isPathChar (h : IsDomainChar c) : IsPathChar c := .inr h

theorem IsPathChar.ascii (h : IsPathChar c) : c.toNat < 128 := by
  have hbound : ∀ d : Char, d.toNat < 128 → c ≤ d → c.toNat < 128 := fun d hd hcd =>
    Nat.lt_of_le_of_lt hcd hd
  rcases h with ⟨-, hz⟩ | ⟨-, hz⟩ | ⟨-, hz⟩ | rfl | rfl | rfl
  · exact hbound 'Z' (by decide) hz
  · exact hbound 'z' (by decide) hz
  · exact hbound '9' (by decide) hz
  all_goals decide

/-- Characters that end or split a part of an identity, or that stand for parts it has not. -/
theorem IsPathChar.ne_reserved (h : IsPathChar c) :
    c ≠ '/' ∧ c ≠ ':' ∧ c ≠ '@' ∧ c ≠ '?' ∧ c ≠ '#' := by
  have hreserved : ['/', ':', '@', '?', '#'].all (fun d => !isPathChar d) = true := rfl
  have hc := isPathChar_iff.mpr h
  have hne : ∀ d ∈ ['/', ':', '@', '?', '#'], c ≠ d := by
    rintro d hd rfl
    have hnone := List.all_eq_true.mp hreserved c hd
    rw [hc] at hnone
    cases hnone
  simpa using hne

theorem ascii_of_all {l : List Char} (h : l.all (·.toNat < 128) = true) (hc : c ∈ l) :
    c.toNat < 128 :=
  of_decide_eq_true (List.all_eq_true.mp h c hc)

end Characters

section Checks
variable {p : Prop} [Decidable p] {fault : Fault} {rest : Option Fault}

theorem check_eq_none_iff : (if p then some fault else rest) = none ↔ ¬ p ∧ rest = none := by
  by_cases hp : p <;> simp [hp]

theorem lastCheck_eq_none_iff : (if p then none else some fault) = none ↔ p := by
  by_cases hp : p <;> simp [hp]

end Checks

theorem domainFault?_eq_none_iff {domain : List Char} :
    domainFault? domain = none ↔ IsDomain domain := by
  unfold domainFault?
  simp only [check_eq_none_iff, lastCheck_eq_none_iff, List.all_eq_true, isDomainChar_iff]
  constructor
  · rintro ⟨hempty, -, -, hsize, hchars⟩
    exact ⟨by simpa using hempty, Nat.le_of_not_lt hsize, hchars⟩
  · intro h
    -- The signs of user information and of a port are no characters of a domain.
    have hat : '@' ∉ domain := fun hc => (h.chars _ hc).isPathChar.ne_reserved.2.2.1 rfl
    have hcolon : ':' ∉ domain := fun hc => (h.chars _ hc).isPathChar.ne_reserved.2.1 rfl
    exact ⟨by simpa using h.ne_nil, hat, hcolon, Nat.not_lt.mpr h.size_le, h.chars⟩

theorem segmentFault?_eq_none_iff {segment : List Char} :
    segmentFault? segment = none ↔ IsSegment segment := by
  unfold segmentFault?
  simp only [check_eq_none_iff, lastCheck_eq_none_iff, List.all_eq_true, isPathChar_iff]
  constructor
  · rintro ⟨hempty, hdots, hchars⟩
    obtain ⟨hdot, hdots⟩ := not_or.mp hdots
    exact ⟨by simpa using hempty, hdot, hdots, hchars⟩
  · intro h
    exact ⟨by simpa using h.ne_nil, not_or.mpr ⟨h.ne_dot, h.ne_dots⟩, h.chars⟩

theorem IsSegment.slash_not_mem {segment : List Char} (h : IsSegment segment) : '/' ∉ segment :=
  fun hc => (h.chars _ hc).ne_reserved.1 rfl

/-- A path that is not empty is what stands behind its first slash, in segments. -/
theorem isPath_slash_iff {tail : List Char} :
    IsPath ('/' :: tail) ↔
      ∃ segments ≠ [], (∀ s ∈ segments, IsSegment s) ∧ tail = ['/'].intercalate segments := by
  constructor
  · intro h
    generalize hpath : '/' :: tail = path at h
    -- Behind a segment the path has ended, or it goes on with the slash between two segments.
    induction h generalizing tail with
    | nil => cases hpath
    | @cons segment rest hsegment hrest ih =>
      obtain rfl : tail = segment ++ rest := by simpa using hpath
      cases hrest with
      | nil => exact ⟨[segment], by simp, by simpa using hsegment, by simp⟩
      | cons hnext hmore =>
        obtain ⟨segments, hne, hall, htail⟩ := ih rfl
        refine ⟨segment :: segments, by simp, by simpa using ⟨hsegment, hall⟩, ?_⟩
        rw [List.intercalate_cons_of_ne_nil hne, htail, List.append_assoc]
        rfl
  · rintro ⟨segments, hne, hall, rfl⟩
    induction segments with
    | nil => exact absurd rfl hne
    | cons segment more ih =>
      obtain ⟨hsegment, hmore⟩ := List.forall_mem_cons.mp hall
      by_cases hnil : more = []
      · subst hnil
        simpa using IsPath.cons hsegment .nil
      · rw [List.intercalate_cons_of_ne_nil hnil, List.append_assoc]
        exact .cons hsegment (ih hnil hmore)

theorem IsPath.getLast?_ne {path : List Char} (h : IsPath path) : path.getLast? ≠ some '/' := by
  induction h with
  | nil => nofun
  | @cons segment rest hsegment _ ih =>
    intro hlast
    rw [← List.cons_append, List.getLast?_append] at hlast
    cases hend : rest.getLast? with
    | none =>
      rw [hend, Option.none_or, List.getLast?_cons_of_ne_nil hsegment.ne_nil] at hlast
      exact hsegment.slash_not_mem (List.mem_of_getLast? hlast)
    | some c =>
      rw [hend, Option.some_or] at hlast
      exact ih (hend.trans hlast)

/-- The check for a final slash would not be missed: it leaves an empty part, which is no segment. -/
theorem pathFault?_eq_none_iff {path : List Char}
    (hslash : path = [] ∨ ∃ tail, path = '/' :: tail) :
    pathFault? path = none ↔ IsPath path := by
  rcases hslash with rfl | ⟨tail, rfl⟩
  · exact iff_of_true rfl .nil
  unfold pathFault?
  rw [if_neg (by simp), check_eq_none_iff, List.tail_cons, List.findSome?_eq_none_iff]
  constructor
  · rintro ⟨-, h⟩
    refine isPath_slash_iff.mpr ⟨tail.splitOn '/', List.splitOn_ne_nil _ _, ?_, ?_⟩
    · exact fun s hs => segmentFault?_eq_none_iff.mp (h s hs)
    · exact (List.intercalate_splitOn '/').symm
  · intro h
    obtain ⟨segments, hne, hall, htail⟩ := isPath_slash_iff.mp h
    have hsegments : tail.splitOn '/' = segments := by
      rw [htail]
      exact List.splitOn_intercalate '/' (fun s hs => (hall s hs).slash_not_mem) hne
    rw [hsegments]
    exact ⟨h.getLast?_ne, fun s hs => segmentFault?_eq_none_iff.mpr (hall s hs)⟩

theorem IsPath.chars {path : List Char} (h : IsPath path) :
    ∀ c ∈ path, c = '/' ∨ IsPathChar c := by
  induction h with
  | nil => nofun
  | cons hsegment _ ih =>
    intro c hc
    rcases List.mem_cons.mp hc with rfl | hc
    · exact .inl rfl
    · rcases List.mem_append.mp hc with hc | hc
      · exact .inr (hsegment.chars c hc)
      · exact ih c hc

theorem IsPath.nil_or_slash {path : List Char} (h : IsPath path) :
    path = [] ∨ ∃ tail, path = '/' :: tail := by
  cases h with
  | nil => exact .inl rfl
  | cons => exact .inr ⟨_, rfl⟩

/-- The scheme is spelled with letters, so it ends before the first colon. -/
theorem colon_not_mem_of_scheme {scheme : List Char}
    (h : scheme.map Char.toLower = "spiffe".toList) : ':' ∉ scheme := by
  intro hc
  have hmem : Char.toLower ':' ∈ scheme.map Char.toLower := List.mem_map_of_mem hc
  rw [h] at hmem
  exact absurd hmem (by decide)

theorem length_scheme {scheme : List Char} (h : scheme.map Char.toLower = "spiffe".toList) :
    scheme.length = 6 := by
  have hlength := congrArg List.length h
  rw [List.length_map] at hlength
  exact hlength

theorem ascii_of_scheme {scheme : List Char} (h : scheme.map Char.toLower = "spiffe".toList) :
    ∀ c ∈ scheme, c.toNat < 128 := by
  intro c hc
  have hmem : c.toLower ∈ "spiffe".toList := h ▸ List.mem_map_of_mem hc
  have hlower : c.toLower.toNat < 128 := ascii_of_all (by decide) hmem
  unfold Char.toLower at hlower
  split at hlower
  · rename_i hupper
    exact Nat.lt_of_le_of_lt hupper.2 (by decide)
  · exact hlower

/-- The first slash parts the domain from the path. -/
theorem takeWhile_dropWhile_slash {domain path : List Char} (hdomain : IsDomain domain)
    (hpath : IsPath path) :
    (domain ++ path).takeWhile (· ≠ '/') = domain ∧
      (domain ++ path).dropWhile (· ≠ '/') = path := by
  have hslash : ∀ c ∈ domain, decide (c ≠ '/') = true := fun c hc =>
    decide_eq_true (hdomain.chars c hc).isPathChar.ne_reserved.1
  apply takeWhile_dropWhile_append hslash
  rcases hpath.nil_or_slash with rfl | ⟨tail, rfl⟩
  · simp
  · simp

theorem dropWhile_slash (rest : List Char) :
    rest.dropWhile (· ≠ '/') = [] ∨ ∃ tail, rest.dropWhile (· ≠ '/') = '/' :: tail := by
  induction rest with
  | nil => exact .inl rfl
  | cons c rest ih =>
    by_cases hc : c = '/'
    · subst hc
      exact .inr ⟨rest, by simp⟩
    · rw [List.dropWhile_cons_of_pos (by simpa using hc)]
      exact ih

variable {text scheme : String} {id : SpiffeId}

theorem IsWritten.toList_eq (h : IsWritten text scheme id) :
    text.toList = scheme.toList ++ ("://".toList ++ (id.trustDomain.toList ++ id.path.toList)) := by
  rw [h.text_eq, String.toList_append, String.toList_append, String.toList_append,
    List.append_assoc, List.append_assoc]

theorem IsWritten.cut?_eq (h : IsWritten text scheme id) :
    cut? [':', '/', '/'] text.toList =
      some (scheme.toList, id.trustDomain.toList ++ id.path.toList) := by
  have hrest := cut?_self_append [':', '/', '/'] (id.trustDomain.toList ++ id.path.toList)
  have htext : text.toList =
      scheme.toList ++ ([':', '/', '/'] ++ (id.trustDomain.toList ++ id.path.toList)) := h.toList_eq
  rw [htext, cut?_append_of_not_mem (colon_not_mem_of_scheme h.scheme_eq), hrest]
  simp

/-- A text is written in one way only. -/
theorem IsWritten.unique {scheme' : String} {id' : SpiffeId} (h : IsWritten text scheme id)
    (h' : IsWritten text scheme' id') : scheme = scheme' ∧ id = id' := by
  have hcut := h.cut?_eq.symm.trans h'.cut?_eq
  obtain ⟨hscheme, hrest⟩ := Prod.mk.inj (Option.some.inj hcut)
  obtain ⟨hdomain, hpath⟩ := takeWhile_dropWhile_slash h.domain h.path
  obtain ⟨hdomain', hpath'⟩ := takeWhile_dropWhile_slash h'.domain h'.path
  rw [hrest] at hdomain hpath
  have hdomains : id.trustDomain = id'.trustDomain :=
    String.toList_inj.mp (hdomain.symm.trans hdomain')
  have hpaths : id.path = id'.path := String.toList_inj.mp (hpath.symm.trans hpath')
  refine ⟨String.toList_inj.mp hscheme, ?_⟩
  cases id
  cases id'
  simpa using ⟨hdomains, hpaths⟩

theorem IsWritten.ascii (h : IsWritten text scheme id) : ∀ c ∈ text.toList, c.toNat < 128 := by
  intro c hc
  rw [h.toList_eq, List.mem_append, List.mem_append, List.mem_append] at hc
  rcases hc with hc | hc | hc | hc
  · exact ascii_of_scheme h.scheme_eq c hc
  · exact ascii_of_all (by decide) hc
  · exact (h.domain.chars c hc).isPathChar.ascii
  · rcases h.path.chars c hc with rfl | hpath
    · decide
    · exact hpath.ascii

/-- Neither a query nor a fragment is written. -/
theorem IsWritten.query_not_mem (h : IsWritten text scheme id) :
    ¬ ('?' ∈ id.trustDomain.toList ++ id.path.toList ∨
      '#' ∈ id.trustDomain.toList ++ id.path.toList) := by
  have hne : ∀ c ∈ id.trustDomain.toList ++ id.path.toList, c ≠ '?' ∧ c ≠ '#' := by
    intro c hc
    rcases List.mem_append.mp hc with hc | hc
    · exact (h.domain.chars c hc).isPathChar.ne_reserved.2.2.2
    · rcases h.path.chars c hc with rfl | hpath
      · decide
      · exact hpath.ne_reserved.2.2.2
  rintro (hc | hc)
  · exact (hne _ hc).1 rfl
  · exact (hne _ hc).2 rfl

theorem parse_eq_ok_iff :
    parse text = .ok id ↔ text.utf8ByteSize ≤ 2048 ∧ ∃ scheme, IsWritten text scheme id := by
  constructor
  · intro h
    unfold parse maxLength at h
    split at h; · cases h
    rename_i hsize
    refine ⟨by omega, ?_⟩
    split at h; · cases h
    rename_i scheme rest hcut
    obtain ⟨hscheme, h⟩ := ite_error_eq_ok_iff.mp h
    obtain ⟨-, h⟩ := ite_error_eq_ok_iff.mp h
    dsimp only at h
    split at h; · cases h
    rename_i hfaults
    obtain ⟨hdomain, hpath⟩ : domainFault? (rest.takeWhile (· ≠ '/')) = none ∧
        pathFault? (rest.dropWhile (· ≠ '/')) = none := by simpa using hfaults
    obtain rfl := Except.ok.inj h
    refine ⟨String.ofList scheme, ?_, ?_, ?_, ?_⟩
    · have htext := eq_append_of_cut? hcut
      apply String.toList_inj.mp
      rw [htext]
      simp [String.toList_append, List.takeWhile_append_dropWhile]
    · simpa using hscheme
    · rw [String.toList_ofList]
      exact domainFault?_eq_none_iff.mp hdomain
    · rw [String.toList_ofList]
      exact (pathFault?_eq_none_iff (dropWhile_slash rest)).mp hpath
  · rintro ⟨hsize, scheme, h⟩
    obtain ⟨hdomain, hpath⟩ := takeWhile_dropWhile_slash h.domain h.path
    unfold parse maxLength
    rw [if_neg (by omega), h.cut?_eq]
    dsimp only
    rw [if_neg (not_not.mpr h.scheme_eq), if_neg h.query_not_mem, hdomain, hpath,
      domainFault?_eq_none_iff.mpr h.domain,
      (pathFault?_eq_none_iff h.path.nil_or_slash).mpr h.path]
    simp

/-- Cutting a text before one of its characters is cutting it between two of its texts. -/
theorem isValid_of_append {left right : List Char} :
    String.Pos.Raw.IsValid (String.ofList (left ++ right)) (String.ofList left).rawEndPos := by
  rw [String.ofList_append]
  exact String.Pos.Raw.isValid_rawEndPos.append_right _

end SecureChannel.SpiffeId

namespace SecureChannel
open SpiffeId

theorem peerId_eq_ok_iff {text : String} {id : SpiffeId} :
    peerId text = .ok id ↔ text.utf8ByteSize ≤ 2048 ∧ ∃ scheme, IsWritten text scheme id := by
  unfold peerId
  rw [mapError_eq_ok_iff, parse_eq_ok_iff]

/-- A refusal names the whole text. -/
theorem peerId_refuses {text : String} (h : ∀ id, peerId text ≠ .ok id) :
    ∃ fault, peerId text = .error (.invalidSpiffeId text fault) := by
  unfold peerId at h ⊢
  cases hparse : parse text with
  | error fault => exact ⟨fault, rfl⟩
  | ok id => exact absurd (mapError_eq_ok_iff.mpr hparse) (h id)

/-- The texts that are read are those of the grammar, each in one way; all others are refused, with
the text named, and so is all that is not ASCII. A text is cut only where characters begin. -/
theorem peerId_accepts_grammar (text : String) :
    (∀ id, peerId text = .ok id ↔
      text.utf8ByteSize ≤ 2048 ∧ ∃ scheme, IsWritten text scheme id) ∧
    (∀ scheme scheme' id id', IsWritten text scheme id → IsWritten text scheme' id' →
      scheme = scheme' ∧ id = id') ∧
    ((∀ scheme id, text.utf8ByteSize ≤ 2048 → ¬ IsWritten text scheme id) →
      ∃ fault, peerId text = .error (.invalidSpiffeId text fault)) ∧
    ((∃ c ∈ text.toList, 128 ≤ c.toNat) →
      ∃ fault, peerId text = .error (.invalidSpiffeId text fault)) ∧
    (∀ scheme rest, cut? [':', '/', '/'] text.toList = some (scheme, rest) →
      let domain := rest.takeWhile (· ≠ '/')
      let path := rest.dropWhile (· ≠ '/')
      text = String.ofList scheme ++ "://" ++ String.ofList rest ∧
      String.Pos.Raw.IsValid (String.ofList rest) (String.ofList domain).rawEndPos ∧
      (path ≠ [] → String.Pos.Raw.IsValid (String.ofList path) ⟨1⟩)) := by
  have hrefused : (∀ scheme id, text.utf8ByteSize ≤ 2048 → ¬ IsWritten text scheme id) →
      ∃ fault, peerId text = .error (.invalidSpiffeId text fault) := by
    intro hnone
    apply peerId_refuses
    intro id hok
    obtain ⟨hsize, scheme, hwritten⟩ := peerId_eq_ok_iff.mp hok
    exact hnone scheme id hsize hwritten
  refine ⟨fun id => peerId_eq_ok_iff, fun _ _ _ _ h h' => h.unique h', hrefused, ?_, ?_⟩
  · rintro ⟨c, hc, hlarge⟩
    apply hrefused
    intro scheme id _ hwritten
    have hsmall := hwritten.ascii c hc
    omega
  · intro scheme rest hcut domain path
    have hrest : domain ++ path = rest := List.takeWhile_append_dropWhile
    refine ⟨?_, ?_, ?_⟩
    · apply String.toList_inj.mp
      rw [eq_append_of_cut? hcut]
      simp [String.toList_append]
    · rw [← hrest]
      exact isValid_of_append
    · intro hpath
      rcases dropWhile_slash rest with hnil | ⟨tail, htail⟩
      · exact absurd hnil hpath
      · have hslash : path = ['/'] ++ tail := htail
        rw [hslash]
        exact isValid_of_append

/-- A scheme in capitals is read, and a path with a dot in a segment. -/
theorem peerId_accepts_grammar_capitals :
    peerId "SPIFFE://example.org/ns/a.b" = .ok ⟨"example.org", "/ns/a.b"⟩ := by
  have hdomain : IsDomain "example.org".toList := domainFault?_eq_none_iff.mp (by decide)
  have hpath : IsPath "/ns/a.b".toList :=
    (pathFault?_eq_none_iff (.inr ⟨_, rfl⟩)).mp (by decide)
  have hwritten : IsWritten "SPIFFE://example.org/ns/a.b" "SPIFFE" ⟨"example.org", "/ns/a.b"⟩ :=
    ⟨by decide, by decide, hdomain, hpath⟩
  exact ((peerId_accepts_grammar _).1 _).mpr ⟨by decide, "SPIFFE", hwritten⟩

end SecureChannel
