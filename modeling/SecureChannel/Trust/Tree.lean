import SecureChannel.Peer.Identity
import SecureChannel.Trust.Question

/-! Trees of trust managers. Leaves judge chains. Inner nodes choose a delegate, and add a policy
for the names of the peer. -/
namespace SecureChannel

/-- Where the identity of a peer is taken from. -/
abbrev IdSource := Chain → Except PeerError (Option SpiffeId)

inductive TrustTree (Leaf : Type)
  | leaf (leaf : Leaf)
  /-- One delegate for all peers. -/
  | fixed (policy : Option NamePolicy) (delegate : TrustTree Leaf)
  /-- A delegate for each trust domain. The domains are in ascending order, so none is repeated. -/
  | federated (policy : Option NamePolicy) (source : IdSource) (domains : List String)
      (ascending : domains.Pairwise (· < ·)) (delegates : Fin domains.length → TrustTree Leaf)

/-- The outcome of a check, with the parameters of the handshake after it and the leaves that were
asked, each with what it was asked. -/
structure Verdict (Leaf : Type) where
  result : Except PeerError Unit
  params : Option SslParams
  calls : List (Leaf × Question)

namespace Verdict

variable {Leaf : Type}

/-- The leaf that was asked first. -/
def asked (v : Verdict Leaf) : Option (Leaf × Question) := v.calls.head?

/-- Nobody was asked. -/
def refused (q : Question) (e : PeerError) : Verdict Leaf := ⟨.error e, q.params, []⟩

/-- The policy is looked at only if the delegate accepts. -/
def subject (v : Verdict Leaf) (policy : Except PeerError Unit) : Verdict Leaf :=
  match v.result with
  | .ok () => { v with result := policy }
  | .error _ => v

end Verdict

namespace TrustTree

variable {Leaf : Type}

def checkNames (policy : Option NamePolicy) (chain : Chain) : Except PeerError Unit :=
  match policy with
  | some policy => policy.check chain
  | none => .ok ()

/-- The place of the trust domain that a chain claims. -/
def chosen (source : IdSource) (domains : List String) (chain : Chain) :
    Except PeerError (Fin domains.length) := do
  match ← source chain with
  | none => throw .noSpiffeId
  | some id =>
    match domains.finIdxOf? id.trustDomain with
    | none => throw (.unknownTrustDomain id.trustDomain)
    | some i => return i

/-- Checks a chain, given how leaves judge. -/
def check (judge : Leaf → Question → Except PeerError Unit) :
    TrustTree Leaf → Question → Verdict Leaf
  | .leaf l, q => ⟨judge l q, q.params, [(l, q)]⟩
  | .fixed policy delegate, q =>
    (check judge delegate q.delegated).subject (checkNames policy q.chain)
  | .federated policy source domains _ delegates, q =>
    match chosen source domains q.chain with
    | .error e => .refused q.delegated e
    | .ok i => (check judge (delegates i) q.delegated).subject (checkNames policy q.chain)

/-- The issuers that the leaves accept. Federated trees do not repeat any. -/
def issuers (ofLeaf : Leaf → List Bytes) : TrustTree Leaf → List Bytes
  | .leaf l => ofLeaf l
  | .fixed _ delegate => issuers ofLeaf delegate
  | .federated _ _ domains _ delegates =>
    ((List.finRange domains.length).flatMap fun i => issuers ofLeaf (delegates i)).eraseDups

def isFederated : TrustTree Leaf → Bool
  | .federated _ _ _ _ _ => true
  | _ => false

def trustDomains : TrustTree Leaf → List String
  | .federated _ _ domains _ _ => domains
  | _ => []

/-- The policy for names alone. -/
def checkPolicy : TrustTree Leaf → Chain → Except PeerError Unit
  | .leaf _, _ => .ok ()
  | .fixed policy _, chain => checkNames policy chain
  | .federated policy _ _ _ _, chain => checkNames policy chain

def policy? (context : Option ValidationContext) : Except ConfigError (Option NamePolicy) :=
  match context with
  | none => .ok none
  | some context => (NamePolicy.ofContext context).map some

def ofDelegate (context : Option ValidationContext) (delegate : TrustTree Leaf) :
    Except ConfigError (TrustTree Leaf) :=
  return .fixed (← policy? context) delegate

/-- The first item that occurs before. -/
def firstRepeated? : List String → List String → Option String
  | _, [] => none
  | seen, s :: rest => if s ∈ seen then some s else firstRepeated? (s :: seen) rest

theorem nodup_of_firstRepeated? {seen domains : List String}
    (h : firstRepeated? seen domains = none) : domains.Nodup ∧ ∀ s ∈ domains, s ∉ seen := by
  induction domains generalizing seen with
  | nil => simp
  | cons s rest ih =>
    simp only [firstRepeated?] at h
    split at h
    · cases h
    · rename_i hs
      obtain ⟨hn, hr⟩ := ih h
      have hnot : s ∉ rest := fun hm => hr s hm List.mem_cons_self
      refine ⟨List.nodup_cons.mpr ⟨hnot, hn⟩, ?_⟩
      intro d hd
      rcases List.mem_cons.mp hd with rfl | hd
      · exact hs
      · exact fun hm => hr d hd (List.mem_cons_of_mem _ hm)

/-- Routes in the order of their domains. -/
def sortRoutes (routes : List (String × TrustTree Leaf)) : List (String × TrustTree Leaf) :=
  routes.mergeSort fun a b => decide (a.1 ≤ b.1)

theorem sortRoutes_ascending {routes : List (String × TrustTree Leaf)}
    (h : firstRepeated? [] (routes.map (·.1)) = none) :
    ((sortRoutes routes).map (·.1)).Pairwise (· < ·) := by
  have hle : (sortRoutes routes).Pairwise fun a b => decide (a.1 ≤ b.1) = true :=
    List.pairwise_mergeSort (by simpa using fun _ _ _ _ _ _ => String.le_trans)
      (by simpa using fun a _ b _ => String.le_total a b) routes
  have hn : ((sortRoutes routes).map (·.1)).Nodup :=
    ((List.mergeSort_perm routes _).map _).nodup_iff.mpr (nodup_of_firstRepeated? h).1
  have hle' : ((sortRoutes routes).map (·.1)).Pairwise (· ≤ ·) :=
    List.pairwise_map.mpr (hle.imp fun h => by simpa using h)
  refine (List.pairwise_and_iff.mpr ⟨hle', hn⟩).imp fun {a b} h => ?_
  exact Std.lt_of_le_of_ne h.1 h.2

/-- A tree with a route to each domain. No domain may have two. -/
def ofRoutes (context : Option ValidationContext) (source : IdSource)
    (routes : List (String × TrustTree Leaf)) : Except ConfigError (TrustTree Leaf) :=
  match h : firstRepeated? [] (routes.map (·.1)) with
  | some domain => .error (.duplicateTrustDomain domain)
  | none => do
    let policy ← policy? context
    return .federated policy source ((sortRoutes routes).map (·.1)) (sortRoutes_ascending h)
      fun i => ((sortRoutes routes).get ⟨i.val, by simpa using i.isLt⟩).2

end TrustTree
end SecureChannel
