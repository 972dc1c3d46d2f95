import Mathlib.Data.List.Nodup
import SecureChannel.Trust.Tree

/-! The one route that a check takes through a tree of trust managers, and what the check makes of
it. Nothing that lies off the route has a say. -/
namespace SecureChannel.TrustTree

variable {Leaf : Type}

/-- One step down: to the only delegate, or to the one stored under the trust domain of the identity
that is found for the chain. -/
inductive Delegates (chain : Chain) : TrustTree Leaf → TrustTree Leaf → Prop
  | fixed {policy delegate} : Delegates chain (.fixed policy delegate) delegate
  | federated {policy source domains ascending delegates id} {i : Fin domains.length}
      (found : source chain = .ok (some id)) (stored : domains.get i = id.trustDomain) :
      Delegates chain (.federated policy source domains ascending delegates) (delegates i)

/-- The policy for names that is stored at a node. Leaves have none. -/
def Stores : TrustTree Leaf → NamePolicy → Prop
  | .leaf _, _ => False
  | .fixed stored _, policy => stored = some policy
  | .federated stored _ _ _ _, policy => stored = some policy

/-- Inner nodes in the order they are passed, and the node from which no step leads on. -/
structure Route (Leaf : Type) where
  nodes : List (TrustTree Leaf)
  last : TrustTree Leaf

inductive Follows (chain : Chain) : TrustTree Leaf → Route Leaf → Prop
  | stop {t} (h : ∀ d, ¬ Delegates chain t d) : Follows chain t ⟨[], t⟩
  | step {t d r} (h : Delegates chain t d) (rest : Follows chain d r) :
      Follows chain t ⟨t :: r.nodes, r.last⟩

/-- Why a federated node has no delegate for a chain. -/
inductive Stranded (chain : Chain) : TrustTree Leaf → PeerError → Prop
  | source {policy source domains ascending delegates e} (h : source chain = .error e) :
      Stranded chain (.federated policy source domains ascending delegates) e
  | anonymous {policy source domains ascending delegates} (h : source chain = .ok none) :
      Stranded chain (.federated policy source domains ascending delegates) .noSpiffeId
  | unknown {policy source domains ascending delegates id} (found : source chain = .ok (some id))
      (h : id.trustDomain ∉ domains) :
      Stranded chain (.federated policy source domains ascending delegates)
        (.unknownTrustDomain id.trustDomain)

/-- Two trees that differ at most in what a check of the chain does not come across. -/
inductive SameAlong (chain : Chain) : TrustTree Leaf → TrustTree Leaf → Prop
  | leaf {l} : SameAlong chain (.leaf l) (.leaf l)
  | fixed {policy d d'} (h : SameAlong chain d d') :
      SameAlong chain (.fixed policy d) (.fixed policy d')
  | routed {policy source id domains ascending delegates domains' ascending' delegates'}
      {i : Fin domains.length} {j : Fin domains'.length}
      (found : source chain = .ok (some id)) (stored : domains.get i = id.trustDomain)
      (stored' : domains'.get j = id.trustDomain)
      (h : SameAlong chain (delegates i) (delegates' j)) :
      SameAlong chain (.federated policy source domains ascending delegates)
        (.federated policy source domains' ascending' delegates')
  | stranded {policy source domains ascending delegates domains' ascending' delegates'}
      (h : ∀ id, source chain = .ok (some id) →
        id.trustDomain ∉ domains ∧ id.trustDomain ∉ domains') :
      SameAlong chain (.federated policy source domains ascending delegates)
        (.federated policy source domains' ascending' delegates')

namespace Route

/-- What the last node is asked. Every node passed on the way hands on its own question, and it does
so with the same effect as the first. -/
def question (r : Route Leaf) (q : Question) : Question := if r.nodes = [] then q else q.delegated

/-- The last node is asked if it is a leaf. -/
def calls (r : Route Leaf) (q : Question) : List (Leaf × Question) :=
  match r.last with
  | .leaf l => [(l, r.question q)]
  | _ => []

/-- The outcome of a check along a route: what the last node has to say comes first, and then the
policies that are stored on the way, from the last node up. -/
inductive Yields (judge : Leaf → Question → Except PeerError Unit) (q : Question) (r : Route Leaf) :
    Except PeerError Unit → Prop
  | stranded {e} (h : Stranded q.chain r.last e) : Yields judge q r (.error e)
  | refused {l e} (hl : r.last = .leaf l) (h : judge l (r.question q) = .error e) :
      Yields judge q r (.error e)
  | vetoed {l above node below policy e} (hl : r.last = .leaf l)
      (h : judge l (r.question q) = .ok ()) (nodes : r.nodes = above ++ node :: below)
      (passed : ∀ n ∈ below, ∀ p, n.Stores p → p.check q.chain = .ok ())
      (stored : node.Stores policy) (veto : policy.check q.chain = .error e) :
      Yields judge q r (.error e)
  | accepted {l} (hl : r.last = .leaf l) (h : judge l (r.question q) = .ok ())
      (passed : ∀ n ∈ r.nodes, ∀ p, n.Stores p → p.check q.chain = .ok ()) :
      Yields judge q r (.ok ())

end Route

@[simp] theorem delegated_chain (q : Question) : q.delegated.chain = q.chain := by
  unfold Question.delegated
  split <;> rfl

/-- Switching identification off again changes nothing. -/
@[simp] theorem delegated_delegated (q : Question) : q.delegated.delegated = q.delegated := by
  obtain ⟨role, chain, authType, params⟩ := q
  cases role
  · rfl
  · cases params <;> rfl

private theorem get_injective {domains : List String} (h : domains.Pairwise (· < ·))
    {i j : Fin domains.length} (hij : domains.get i = domains.get j) : i = j := by
  have hn : domains.Nodup := h.imp fun hlt heq => by subst heq; exact String.lt_irrefl _ hlt
  exact List.nodup_iff_injective_get.mp hn hij

section Policies

variable {stored : Option NamePolicy} {t : TrustTree Leaf} {chain : Chain} {e : PeerError}

theorem checkNames_eq_ok_iff :
    checkNames stored chain = .ok () ↔ ∀ p, stored = some p → p.check chain = .ok () := by
  cases stored with
  | none => simp [checkNames]
  | some policy => simp [checkNames]

theorem checkNames_eq_error_iff :
    checkNames stored chain = .error e ↔ ∃ p, stored = some p ∧ p.check chain = .error e := by
  cases stored with
  | none => simp [checkNames]
  | some policy => simp [checkNames]

/-- The policy of a node accepts a chain if what the node stores does. -/
theorem checkPolicy_eq_ok_iff :
    t.checkPolicy chain = .ok () ↔ ∀ p, t.Stores p → p.check chain = .ok () := by
  cases t with
  | leaf => simp [checkPolicy, Stores]
  | fixed => exact checkNames_eq_ok_iff
  | federated => exact checkNames_eq_ok_iff

theorem checkPolicy_eq_error_iff :
    t.checkPolicy chain = .error e ↔ ∃ p, t.Stores p ∧ p.check chain = .error e := by
  cases t with
  | leaf => simp [checkPolicy, Stores]
  | fixed => exact checkNames_eq_error_iff
  | federated => exact checkNames_eq_error_iff

end Policies

section Choice

variable {source : IdSource} {domains : List String} {chain : Chain}

theorem chosen_eq_ok_iff (ascending : domains.Pairwise (· < ·)) (i : Fin domains.length) :
    chosen source domains chain = .ok i ↔
      ∃ id, source chain = .ok (some id) ∧ domains.get i = id.trustDomain := by
  unfold chosen
  cases hs : source chain with
  | error e => simp [bind, Except.bind]
  | ok found =>
    cases found with
    | none => simp [bind, Except.bind, throw, throwThe, MonadExceptOf.throw]
    | some id =>
      cases hd : domains.finIdxOf? id.trustDomain with
      | none =>
        have hno : id.trustDomain ∉ domains := by simpa using hd
        have : ∀ i, domains.get i ≠ id.trustDomain := fun i h => hno (h ▸ List.get_mem _ _)
        simpa [bind, Except.bind, hd, throw, throwThe, MonadExceptOf.throw] using this i
      | some j =>
        have hj : domains.get j = id.trustDomain := by
          have := (List.finIdxOf?_eq_some_iff.mp hd).1
          simpa using this
        have : i = j ↔ domains.get i = id.trustDomain :=
          ⟨fun h => h ▸ hj, fun h => get_injective ascending (h.trans hj.symm)⟩
        simp [bind, Except.bind, hd, pure, Except.pure]
        grind

theorem chosen_eq_error_iff {Leaf : Type} (policy : Option NamePolicy)
    (ascending : domains.Pairwise (· < ·)) (delegates : Fin domains.length → TrustTree Leaf)
    (e : PeerError) :
    chosen source domains chain = .error e ↔
      Stranded chain (.federated policy source domains ascending delegates) e := by
  constructor
  · intro h
    unfold chosen at h
    cases hs : source chain with
    | error e' =>
      obtain rfl : e' = e := by simpa [hs, bind, Except.bind] using h
      exact .source hs
    | ok found =>
      cases found with
      | none =>
        obtain rfl : PeerError.noSpiffeId = e := by
          simpa [hs, bind, Except.bind, throw, throwThe, MonadExceptOf.throw] using h
        exact .anonymous hs
      | some id =>
        cases hd : domains.finIdxOf? id.trustDomain with
        | some j => simp [hs, hd, bind, Except.bind, pure, Except.pure] at h
        | none =>
          obtain rfl : PeerError.unknownTrustDomain id.trustDomain = e := by
            simpa [hs, hd, bind, Except.bind, throw, throwThe, MonadExceptOf.throw] using h
          exact .unknown hs (by simpa using hd)
  · intro h
    cases h with
    | source h => simp [chosen, h, bind, Except.bind]
    | anonymous h => simp [chosen, h, bind, Except.bind, throw, throwThe, MonadExceptOf.throw]
    | unknown found h =>
      have hd := List.finIdxOf?_eq_none_iff.mpr h
      simp [chosen, found, hd, bind, Except.bind, throw, throwThe, MonadExceptOf.throw]

end Choice

section Paths

variable {chain : Chain} {t d d' : TrustTree Leaf} {r r' : Route Leaf}

theorem Delegates.unique (h : Delegates chain t d) (h' : Delegates chain t d') : d = d' := by
  cases h with
  | fixed => cases h'; rfl
  | @federated _ _ _ ascending _ id i found stored =>
    cases h' with
    | @federated _ _ _ _ _ id' j found' stored' =>
      obtain rfl : id = id' := by simpa using found.symm.trans found'
      rw [get_injective ascending (stored.trans stored'.symm)]

theorem Follows.unique (h : Follows chain t r) (h' : Follows chain t r') : r = r' := by
  induction h generalizing r' with
  | stop h =>
    cases h' with
    | stop => rfl
    | step hd => exact absurd hd (h _)
  | step hd _ ih =>
    cases h' with
    | stop h => exact absurd hd (h _)
    | step hd' rest' =>
      obtain rfl := hd.unique hd'
      rw [ih rest']

theorem Stranded.not_leaf {e : PeerError} {l : Leaf} : ¬ Stranded chain (.leaf l) e := nofun

theorem Stranded.not_delegates {e : PeerError} (h : Stranded chain t e) : ¬ Delegates chain t d := by
  intro hd
  cases h with
  | source h => cases hd with | federated found => simp [h] at found
  | anonymous h => cases hd with | federated found => simp [h] at found
  | unknown found h =>
    cases hd with
    | @federated _ _ _ _ _ _ i found' stored =>
      have hid := found.symm.trans found'
      simp only [Except.ok.injEq, Option.some.injEq] at hid
      subst hid
      exact h (stored ▸ List.get_mem _ _)

end Paths

section Outcome

variable {judge judge' : Leaf → Question → Except PeerError Unit} {q : Question}

@[simp] theorem subject_result (v : Verdict Leaf) (policy : Except PeerError Unit) :
    (v.subject policy).result = (do v.result; policy) := by
  unfold Verdict.subject
  split <;> simp [*, bind, Except.bind]

@[simp] theorem subject_calls (v : Verdict Leaf) (policy : Except PeerError Unit) :
    (v.subject policy).calls = v.calls := by
  unfold Verdict.subject
  split <;> rfl

namespace Route

variable {r : Route Leaf} {t : TrustTree Leaf} {result : Except PeerError Unit}

theorem question_step : (⟨t :: r.nodes, r.last⟩ : Route Leaf).question q = r.question q.delegated := by
  simp [question]

theorem calls_step : (⟨t :: r.nodes, r.last⟩ : Route Leaf).calls q = r.calls q.delegated := by
  simp only [calls, question_step]

/-- A node adds its policy after all that happens below it. -/
theorem Yields.step (h : Yields judge q.delegated r result) :
    Yields judge q ⟨t :: r.nodes, r.last⟩ (do result; t.checkPolicy q.chain) := by
  cases h with
  | stranded h => exact .stranded (by simpa using h)
  | refused hl h => exact .refused hl (by rwa [question_step])
  | @vetoed l above node below policy e hl h nodes passed stored veto =>
    rw [delegated_chain] at passed veto
    have hnodes : t :: r.nodes = (t :: above) ++ node :: below := by rw [nodes, List.cons_append]
    exact .vetoed hl (by rwa [question_step]) hnodes passed stored veto
  | @accepted l hl h passed =>
    rw [delegated_chain] at passed
    have hasked : judge l (Route.question ⟨t :: r.nodes, r.last⟩ q) = .ok () := by
      rwa [question_step]
    cases hpolicy : t.checkPolicy q.chain with
    | error e =>
      obtain ⟨policy, stored, veto⟩ := checkPolicy_eq_error_iff.mp hpolicy
      exact .vetoed hl hasked (List.nil_append _).symm passed stored veto
    | ok _ =>
      have hown := checkPolicy_eq_ok_iff.mp hpolicy
      exact .accepted hl hasked (List.forall_mem_cons.mpr ⟨hown, passed⟩)

theorem Yields.eq_ok_iff (h : Yields judge q r result) :
    result = .ok () ↔ (∃ l, r.last = .leaf l ∧ judge l (r.question q) = .ok ()) ∧
      ∀ node ∈ r.nodes, ∀ p, node.Stores p → p.check q.chain = .ok () := by
  cases h with
  | stranded h =>
    have hno : ∀ l, r.last ≠ .leaf l := fun l hl => Stranded.not_leaf (hl ▸ h)
    simp [hno]
  | refused hl h => simp [hl, h]
  | @vetoed l above node below policy e hl h nodes passed stored veto =>
    constructor
    · nofun
    · intro hboth
      have hnode : node ∈ r.nodes := by simp [nodes]
      have haccepts := hboth.2 node hnode policy stored
      rw [veto] at haccepts
      cases haccepts
  | @accepted l hl h passed => exact iff_of_true rfl ⟨⟨l, hl, h⟩, passed⟩

end Route

/-- A check has the outcome of a route that leads from the root. -/
theorem exists_route (judge : Leaf → Question → Except PeerError Unit) (t : TrustTree Leaf)
    (q : Question) : ∃ r : Route Leaf, Follows q.chain t r ∧
      r.Yields judge q (check judge t q).result ∧ (check judge t q).calls = r.calls q := by
  induction t generalizing q with
  | leaf l =>
    refine ⟨⟨[], .leaf l⟩, .stop nofun, ?_, rfl⟩
    cases h : judge l q with
    | error e =>
      rw [check, h]
      exact .refused rfl h
    | ok _ =>
      rw [check, h]
      exact .accepted rfl h nofun
  | fixed policy delegate ih =>
    obtain ⟨r, hf, hy, hc⟩ := ih q.delegated
    rw [delegated_chain] at hf
    refine ⟨⟨.fixed policy delegate :: r.nodes, r.last⟩, .step .fixed hf, ?_, ?_⟩
    · rw [check, subject_result]
      exact hy.step
    · simp [check, hc, Route.calls_step]
  | federated policy source domains ascending delegates ih =>
    cases hchosen : chosen source domains q.chain with
    | error e =>
      have hs := (chosen_eq_error_iff policy ascending delegates e).mp hchosen
      refine ⟨⟨[], .federated policy source domains ascending delegates⟩,
        .stop fun d => hs.not_delegates, ?_, ?_⟩
      · rw [check, hchosen]
        exact .stranded hs
      · simp [check, hchosen, Verdict.refused, Route.calls]
    | ok i =>
      obtain ⟨id, found, stored⟩ := (chosen_eq_ok_iff ascending i).mp hchosen
      obtain ⟨r, hf, hy, hc⟩ := ih i q.delegated
      rw [delegated_chain] at hf
      refine ⟨_, .step (.federated found stored) hf, ?_, ?_⟩
      · rw [check, hchosen]
        simp only [subject_result]
        exact hy.step
      · simp [check, hchosen, hc, Route.calls_step]

/-- Trees that are the same along the way have the same outcome, if the leaves that are asked judge
in the same way. -/
theorem SameAlong.check_eq {t t' : TrustTree Leaf} {chain : Chain} (h : SameAlong chain t t')
    (hq : q.chain = chain)
    (hj : ∀ call ∈ (check judge t q).calls, judge' call.1 call.2 = judge call.1 call.2) :
    check judge' t' q = check judge t q := by
  induction h generalizing q with
  | leaf => simpa [check] using hj
  | fixed _ ih =>
    have hd := ih (q := q.delegated) (by simpa using hq) (by simpa [check] using hj)
    simp only [check, hd]
  | @routed policy source id domains ascending delegates domains' ascending' delegates' i j
      found stored stored' _ ih =>
    subst hq
    have hi := (chosen_eq_ok_iff ascending i).mpr ⟨id, found, stored⟩
    have hj' := (chosen_eq_ok_iff ascending' j).mpr ⟨id, found, stored'⟩
    have hd := ih (q := q.delegated) (by simp) (by simpa [check, hi] using hj)
    simp only [check, hi, hj', hd]
  | @stranded policy source domains ascending delegates domains' ascending' delegates' h =>
    subst hq
    cases hchosen : chosen source domains q.chain with
    | ok i =>
      obtain ⟨id, found, stored⟩ := (chosen_eq_ok_iff ascending i).mp hchosen
      exact absurd (stored ▸ List.get_mem _ _) (h id found).1
    | error e =>
      have hs : Stranded q.chain (.federated policy source domains' ascending' delegates') e := by
        cases (chosen_eq_error_iff policy ascending delegates e).mp hchosen with
        | source h => exact .source h
        | anonymous h => exact .anonymous h
        | unknown found _ => exact .unknown found (h _ found).2
      have hchosen' := (chosen_eq_error_iff policy ascending' delegates' e).mpr hs
      simp only [check, hchosen, hchosen']

/-- A check takes the one route that the identities of the chain lead along. Its result is what this
route yields: it succeeds iff the route ends in a leaf that accepts and every policy stored on the way
accepts. Only that leaf is asked, and whatever lies off the route may be exchanged. -/
theorem check_takes_one_route (judge : Leaf → Question → Except PeerError Unit)
    (t : TrustTree Leaf) (q : Question) :
    (∃ r : Route Leaf, (∀ r', Follows q.chain t r' ↔ r' = r) ∧
      r.Yields judge q (check judge t q).result ∧
      ((check judge t q).result = .ok () ↔
        (∃ l, r.last = .leaf l ∧ judge l (r.question q) = .ok ()) ∧
          ∀ node ∈ r.nodes, ∀ p, node.Stores p → p.check q.chain = .ok ()) ∧
      (check judge t q).calls = r.calls q) ∧
    (check judge t q).calls.length ≤ 1 ∧
    ((check judge t q).result = .ok () → (check judge t q).calls.length = 1) ∧
    ∀ (judge' : Leaf → Question → Except PeerError Unit) (t' : TrustTree Leaf),
      SameAlong q.chain t t' →
      (∀ call ∈ (check judge t q).calls, judge' call.1 call.2 = judge call.1 call.2) →
      check judge' t' q = check judge t q := by
  obtain ⟨r, hf, hy, hc⟩ := exists_route judge t q
  refine ⟨⟨r, fun r' => ⟨fun h => h.unique hf, fun h => h ▸ hf⟩, hy, hy.eq_ok_iff, hc⟩, ?_, ?_,
    fun judge' t' h hj => h.check_eq rfl hj⟩
  · rw [hc, Route.calls]
    split <;> simp
  · intro hok
    obtain ⟨l, hl, _⟩ := (hy.eq_ok_iff.mp hok).1
    simp [hc, Route.calls, hl]

end Outcome
end SecureChannel.TrustTree
