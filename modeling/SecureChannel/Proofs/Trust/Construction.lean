import SecureChannel.Proofs.Except
import SecureChannel.Proofs.Trust.Branches

/-! Making trees of routes. Two routes to one domain are refused, then what is wrong with the policy
for names; in all other cases there is a tree, which does not depend on the order of the routes. -/
namespace SecureChannel

namespace MatcherSpec

/-- Why there is no matcher that does what is specified. -/
inductive Defect (spec : MatcherSpec) : ConfigError → Prop
  | unset (h : spec.patterns = []) : Defect spec .noMatchPattern
  | several (h : 1 < spec.patterns.length) :
      Defect spec (.multipleMatchPatterns (spec.patterns.map (·.1)))
  | regex {pattern} (h : spec.patterns = [("safe-regex", pattern)])
      (invalid : Regex.anchored? pattern spec.ignoreCase = none) :
      Defect spec (.invalidRegex pattern)

theorem patterns_labels (spec : MatcherSpec) {pattern : String × String}
    (h : pattern ∈ spec.patterns) :
    pattern.1 ∈ ["exact", "prefix", "suffix", "contains", "safe-regex"] := by
  obtain ⟨field, hfield, hpattern⟩ := List.mem_filterMap.mp h
  obtain ⟨_, -, rfl⟩ := Option.map_eq_some_iff.mp hpattern
  simp only [List.mem_cons, List.not_mem_nil, or_false] at hfield
  rcases hfield with rfl | rfl | rfl | rfl | rfl <;> simp

end MatcherSpec

/-- The first matcher that has a defect gives the reason. -/
def ValidationContext.Defect (context : ValidationContext) (e : ConfigError) : Prop :=
  ∃ before spec after, context.matchers = before ++ spec :: after ∧
    (∀ other ∈ before, ∀ e', ¬ other.Defect e') ∧ spec.Defect e

section Policies

variable {spec : MatcherSpec} {context : ValidationContext} {e : ConfigError}

theorem Matcher.ofSpec_eq_error_iff : ofSpec spec = .error e ↔ spec.Defect e := by
  constructor
  · intro h
    unfold ofSpec at h
    split at h
    · cases h
      exact .unset ‹_›
    · cases h
      exact .several (by simp [*])
    · rename_i name text hpatterns
      have hmem : (name, text) ∈ spec.patterns := by simp [hpatterns]
      have hname := spec.patterns_labels hmem
      split_ifs at h with hexact hleading htrailing hcontained
      split at h
      · cases h
      · rename_i hregex
        cases h
        have hlabel : name = "safe-regex" := by simp_all
        exact .regex (hlabel ▸ hpatterns) hregex
  · intro h
    cases h with
    | unset h => simp [ofSpec, h]
    | several h =>
      match hpatterns : spec.patterns, h with
      | _ :: _ :: _, _ => simp [ofSpec, hpatterns]
    | regex h invalid => simp [ofSpec, h, invalid]

theorem Matcher.exists_ofSpec_iff :
    (∃ m, ofSpec spec = .ok m) ↔ ∀ e, ¬ spec.Defect e := by
  simp only [← ofSpec_eq_error_iff]
  cases ofSpec spec <;> simp

theorem NamePolicy.ofContext_eq_error_iff : ofContext context = .error e ↔ context.Defect e := by
  have hspecs : ofContext context = .error e ↔ Matcher.ofSpecs context.matchers = .error e := by
    unfold ofContext
    cases Matcher.ofSpecs context.matchers <;> simp [bind, Except.bind, pure, Except.pure]
  rw [hspecs, Matcher.ofSpecs, mapM_eq_error_iff]
  simp only [ValidationContext.Defect, Matcher.exists_ofSpec_iff, Matcher.ofSpec_eq_error_iff]

end Policies

namespace TrustTree

variable {Leaf : Type}

/-- A domain that occurs before, where none of those before it do. -/
def RepeatsFirst (domains : List String) (domain : String) : Prop :=
  ∃ before after, domains = before ++ domain :: after ∧ before.Nodup ∧ domain ∈ before

section Repeating

variable {seen domains : List String} {domain : String}

/-- What was seen before counts as well. -/
theorem firstRepeated?_eq_some_iff : firstRepeated? seen domains = some domain ↔
    ∃ before after, domains = before ++ domain :: after ∧ before.Nodup ∧
      (∀ d ∈ before, d ∉ seen) ∧ (domain ∈ before ∨ domain ∈ seen) := by
  induction domains generalizing seen with
  | nil => simp [firstRepeated?]
  | cons s rest ih =>
    rw [firstRepeated?]
    by_cases hs : s ∈ seen
    · rw [if_pos hs]
      constructor
      · intro h
        obtain rfl := Option.some.inj h
        exact ⟨[], rest, rfl, List.nodup_nil, by simp, .inr hs⟩
      · intro h
        obtain ⟨before, after, hsplit, -, hbefore, -⟩ := h
        cases before with
        | nil => exact congrArg some (List.cons.inj hsplit).1
        | cons d before =>
          obtain ⟨rfl, -⟩ := List.cons.inj hsplit
          exact absurd hs (hbefore s List.mem_cons_self)
    · rw [if_neg hs, ih]
      constructor
      · intro h
        obtain ⟨before, after, rfl, hnodup, hbefore, hdomain⟩ := h
        exact ⟨s :: before, after, rfl, by grind, by grind, by grind⟩
      · intro h
        obtain ⟨before, after, hsplit, hnodup, hbefore, hdomain⟩ := h
        cases before with
        | nil =>
          obtain ⟨rfl, -⟩ := List.cons.inj hsplit
          simp_all
        | cons d before =>
          obtain ⟨rfl, rfl⟩ := List.cons.inj hsplit
          exact ⟨before, after, rfl, by grind, by grind, by grind⟩

theorem firstRepeated?_nil_eq_some_iff :
    firstRepeated? [] domains = some domain ↔ RepeatsFirst domains domain := by
  simp [firstRepeated?_eq_some_iff, RepeatsFirst]

theorem RepeatsFirst.not_nodup (h : RepeatsFirst domains domain) : ¬ domains.Nodup := by
  obtain ⟨before, after, rfl, -, hdomain⟩ := h
  exact fun hnodup => List.disjoint_of_nodup_append hnodup hdomain List.mem_cons_self

theorem firstRepeated?_nil_eq_none_iff : firstRepeated? [] domains = none ↔ domains.Nodup := by
  constructor
  · intro h
    exact (nodup_of_firstRepeated? h).1
  · intro h
    rw [Option.eq_none_iff_forall_ne_some]
    intro domain hdomain
    exact (firstRepeated?_nil_eq_some_iff.mp hdomain).not_nodup h

theorem exists_repeatsFirst_iff : (∃ domain, RepeatsFirst domains domain) ↔ ¬ domains.Nodup := by
  rw [← firstRepeated?_nil_eq_none_iff, ← ne_eq, Option.ne_none_iff_exists']
  simp only [firstRepeated?_nil_eq_some_iff]

end Repeating

section Making

variable {context : Option ValidationContext} {source : IdSource} {domain : String}
  {routes routes' : List (String × TrustTree Leaf)} {t : TrustTree Leaf} {e : ConfigError}

theorem policy?_eq_error_iff :
    policy? context = .error e ↔ ∃ c, context = some c ∧ c.Defect e := by
  cases context with
  | none => simp [policy?]
  | some c =>
    have hmap : policy? (some c) = .error e ↔ NamePolicy.ofContext c = .error e := by
      rw [policy?]
      cases NamePolicy.ofContext c <;> simp [Except.map]
    simp [hmap, NamePolicy.ofContext_eq_error_iff]

theorem ofRoutes_of_repeatsFirst (h : RepeatsFirst (routes.map (·.1)) domain) :
    ofRoutes context source routes = .error (.duplicateTrustDomain domain) := by
  have hrepeated := firstRepeated?_nil_eq_some_iff.mpr h
  unfold ofRoutes
  split
  · simp_all
  · simp_all

/-- Without repeated domains only the policy can be wrong. -/
theorem ofRoutes_of_nodup (context : Option ValidationContext) (source : IdSource)
    (h : (routes.map (·.1)).Nodup) :
    ∃ (domains : List String) (ascending : domains.Pairwise (· < ·))
      (delegates : Fin domains.length → TrustTree Leaf),
      (branches domains delegates).Perm routes ∧
      ofRoutes context source routes =
        (policy? context).map fun policy =>
          federated policy source domains ascending delegates := by
  have hnone := firstRepeated?_nil_eq_none_iff.mpr h
  refine ⟨_, sortRoutes_ascending hnone,
    fun i => ((sortRoutes routes).get ⟨i.val, by simpa using i.isLt⟩).2, ?_, ?_⟩
  · rw [branches_get]
    exact List.mergeSort_perm ..
  · unfold ofRoutes
    split
    · simp_all
    · cases policy? context <;> rfl

/-- The tree has just the given routes as its branches. -/
theorem ofRoutes_eq_ok_iff : ofRoutes context source routes = .ok t ↔
    ∃ policy domains ascending delegates, policy? context = .ok policy ∧
      (branches domains delegates).Perm routes ∧
      t = federated policy source domains ascending delegates := by
  constructor
  · intro h
    have hnodup : (routes.map (·.1)).Nodup := by
      by_contra hno
      obtain ⟨domain, hdomain⟩ := exists_repeatsFirst_iff.mpr hno
      simp [ofRoutes_of_repeatsFirst hdomain] at h
    obtain ⟨domains, ascending, delegates, hperm, htree⟩ := ofRoutes_of_nodup context source hnodup
    rw [htree] at h
    cases hpolicy : policy? context with
    | error e => simp [hpolicy, Except.map] at h
    | ok policy =>
      have ht : federated policy source domains ascending delegates = t := by
        simpa [hpolicy, Except.map] using h
      exact ⟨policy, domains, ascending, delegates, rfl, hperm, ht.symm⟩
  · intro h
    obtain ⟨policy, domains, ascending, delegates, hpolicy, hperm, rfl⟩ := h
    have hdomains : domains.Perm (routes.map (·.1)) := by
      have hmap := hperm.map (·.1)
      rwa [map_fst_branches] at hmap
    have hnodup : (routes.map (·.1)).Nodup :=
      hdomains.nodup_iff.mp (ascending.imp fun hlt => String.ne_of_lt hlt)
    obtain ⟨domains', ascending', delegates', hperm', htree⟩ :=
      ofRoutes_of_nodup context source hnodup
    have hbranches : branches domains' delegates' = branches domains delegates :=
      eq_of_ascending (by rwa [map_fst_branches]) (by rwa [map_fst_branches])
        (hperm'.trans hperm.symm)
    rw [htree, hpolicy, Except.map, federated_eq_of_branches hbranches]

/-- Other orders of the routes make the same tree. -/
theorem ofRoutes_perm (h : ofRoutes context source routes = .ok t) (hperm : routes'.Perm routes) :
    ofRoutes context source routes' = .ok t := by
  obtain ⟨policy, domains, ascending, delegates, hpolicy, hbranches, rfl⟩ := ofRoutes_eq_ok_iff.mp h
  exact ofRoutes_eq_ok_iff.mpr
    ⟨policy, domains, ascending, delegates, hpolicy, hbranches.trans hperm.symm, rfl⟩

theorem ofRoutes_eq_duplicate_iff :
    ofRoutes context source routes = .error (.duplicateTrustDomain domain) ↔
      RepeatsFirst (routes.map (·.1)) domain := by
  refine ⟨fun h => ?_, ofRoutes_of_repeatsFirst⟩
  by_cases hnodup : (routes.map (·.1)).Nodup
  · obtain ⟨domains, ascending, delegates, -, htree⟩ := ofRoutes_of_nodup context source hnodup
    rw [htree] at h
    cases hpolicy : policy? context with
    | ok policy => simp [hpolicy, Except.map] at h
    | error e =>
      obtain rfl : e = .duplicateTrustDomain domain := by simpa [hpolicy, Except.map] using h
      obtain ⟨c, -, before, spec, after, -, -, hdefect⟩ := policy?_eq_error_iff.mp hpolicy
      cases hdefect
  · obtain ⟨domain', hdomain⟩ := exists_repeatsFirst_iff.mpr hnodup
    rw [ofRoutes_of_repeatsFirst hdomain] at h
    cases h
    exact hdomain

theorem ofRoutes_eq_error_iff_of_nodup (h : (routes.map (·.1)).Nodup) :
    ofRoutes context source routes = .error e ↔ ∃ c, context = some c ∧ c.Defect e := by
  obtain ⟨domains, ascending, delegates, -, htree⟩ := ofRoutes_of_nodup context source h
  rw [htree, ← policy?_eq_error_iff]
  cases policy? context <;> simp [Except.map]

/-- Routes are a map from domains to delegates. Where a domain is given twice, the first repetition
is named, whatever the policy; else the first matcher with a defect is what is wrong, if there is
one. A tree has all domains in ascending order, and any other order of the routes makes a tree that
answers and judges just the same. -/
theorem ofRoutes_is_map (context : Option ValidationContext) (source : IdSource)
    (routes : List (String × TrustTree Leaf)) :
    (∀ domain, ofRoutes context source routes = .error (.duplicateTrustDomain domain) ↔
      RepeatsFirst (routes.map (·.1)) domain) ∧
    ((∃ domain, RepeatsFirst (routes.map (·.1)) domain) ↔ ¬ (routes.map (·.1)).Nodup) ∧
    ((routes.map (·.1)).Nodup → ∀ e,
      ofRoutes context source routes = .error e ↔ ∃ c, context = some c ∧ c.Defect e) ∧
    ∀ t, ofRoutes context source routes = .ok t →
      t.trustDomains.Perm (routes.map (·.1)) ∧ t.trustDomains.Pairwise (· < ·) ∧
      ∀ routes', routes'.Perm routes → ∃ t', ofRoutes context source routes' = .ok t' ∧
        t'.trustDomains = t.trustDomains ∧ (∀ ofLeaf, t'.issuers ofLeaf = t.issuers ofLeaf) ∧
        (∀ judge q, check judge t' q = check judge t q) ∧
        ∀ chain, t'.checkPolicy chain = t.checkPolicy chain := by
  refine ⟨fun domain => ofRoutes_eq_duplicate_iff, exists_repeatsFirst_iff,
    fun h e => ofRoutes_eq_error_iff_of_nodup h, fun t ht => ⟨?_, ?_, fun routes' hperm => ?_⟩⟩
  · obtain ⟨policy, domains, ascending, delegates, -, hperm, rfl⟩ := ofRoutes_eq_ok_iff.mp ht
    have hmap := hperm.map (·.1)
    rwa [map_fst_branches] at hmap
  · obtain ⟨policy, domains, ascending, delegates, -, -, rfl⟩ := ofRoutes_eq_ok_iff.mp ht
    exact ascending
  · exact ⟨t, ofRoutes_perm ht hperm, rfl, fun _ => rfl, fun _ _ => rfl, fun _ => rfl⟩

theorem ofRoutes_is_map_of_two :
    let context : Option ValidationContext := some ⟨[{ exact := some "svc.example.org" }]⟩
    let routes : List (String × TrustTree Nat) := [("b.org", .leaf 2), ("a.org", .leaf 1)]
    (routes.map (·.1)).Nodup ∧ (∀ e, ofRoutes context claimedId routes ≠ .error e) ∧
      ∃ t, ofRoutes context claimedId routes = .ok t ∧ t.trustDomains = ["a.org", "b.org"] ∧
        routes.reverse.Perm routes ∧ ∃ t', ofRoutes context claimedId routes.reverse = .ok t' ∧
          t'.trustDomains = ["a.org", "b.org"] ∧
          ∀ judge q, check judge t' q = check judge t q := by
  intro context routes
  have hnodup : (routes.map (·.1)).Nodup := by decide
  obtain ⟨-, -, herror, hok⟩ := ofRoutes_is_map context claimedId routes
  have hpolicy : policy? context =
      .ok (some ⟨[⟨.exact "svc.example.org", false⟩]⟩) := rfl
  have hsound (e : ConfigError) : ofRoutes context claimedId routes ≠ .error e := by
    rw [ne_eq, herror hnodup e, ← policy?_eq_error_iff, hpolicy]
    nofun
  cases ht : ofRoutes context claimedId routes with
  | error e => exact absurd ht (hsound e)
  | ok t =>
    obtain ⟨hperm, hascending, hall⟩ := hok t ht
    have hdomains : t.trustDomains = ["a.org", "b.org"] := by
      refine List.Perm.eq_of_pairwise
        (fun a b _ _ (hab : a < b) hba => absurd hba (String.lt_asymm hab)) hascending (by decide) ?_
      exact hperm.trans (List.Perm.swap ..)
    have hreverse : routes.reverse.Perm routes := List.reverse_perm routes
    obtain ⟨t', ht', hsame, -, hcheck, -⟩ := hall routes.reverse hreverse
    exact ⟨hnodup, ht ▸ hsound, t, rfl, hdomains, hreverse, t', ht', hsame.trans hdomains, hcheck⟩

end Making

end TrustTree
end SecureChannel
