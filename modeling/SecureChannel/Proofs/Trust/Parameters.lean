import SecureChannel.Proofs.Trust.Route

/-! What a check makes of the parameters of a handshake, and what it lets the leaves see of them. -/
namespace SecureChannel

namespace SslParams

variable (p : SslParams)

@[simp] theorem identifies_withoutIdentification : p.withoutIdentification.identifies = false := by
  simp [identifies, withoutIdentification]

@[simp] theorem serverName_withoutIdentification :
    p.withoutIdentification.serverName = p.serverName := rfl

@[simp] theorem time_withoutIdentification : p.withoutIdentification.time = p.time := rfl

end SslParams

@[simp] theorem Question.delegated_server (chain : Chain) (authType : String)
    (params : Option SslParams) :
    (⟨.server, chain, authType, params⟩ : Question).delegated =
      ⟨.server, chain, authType, params.map SslParams.withoutIdentification⟩ := rfl

namespace TrustTree

variable {Leaf : Type} {judge judge' : Leaf → Question → Except PeerError Unit}
  {t : TrustTree Leaf} {q q' : Question}

/-- Inner nodes hand questions on. -/
def IsDelegating : TrustTree Leaf → Prop
  | .leaf _ => False
  | _ => True

@[simp] theorem subject_params (v : Verdict Leaf) (policy : Except PeerError Unit) :
    (v.subject policy).params = v.params := by
  unfold Verdict.subject
  split <;> rfl

/-- An inner node treats a question as the one it hands on. -/
theorem IsDelegating.check_delegated (ht : t.IsDelegating) :
    check judge t q.delegated = check judge t q := by
  cases t with
  | leaf => exact ht.elim
  | fixed => simp [check]
  | federated => simp [check]

/-- A question that nodes hand on as it is reaches the leaves as it is, and so do the parameters the
end of the check. -/
theorem check_of_delegated (hq : q.delegated = q) :
    (check judge t q).params = q.params ∧ ∀ call ∈ (check judge t q).calls, call.2 = q := by
  induction t with
  | leaf l => simp [check]
  | fixed policy delegate ih => simpa [check, hq] using ih
  | federated policy source domains ascending delegates ih =>
    cases hc : chosen source domains q.chain with
    | error e => simp [check, hc, Verdict.refused, hq]
    | ok i => simpa [check, hc, hq] using ih i

theorem IsDelegating.check_params (ht : t.IsDelegating) :
    (check judge t q).params = q.delegated.params := by
  rw [← ht.check_delegated]
  exact (check_of_delegated (delegated_delegated q)).1

theorem IsDelegating.eq_delegated (ht : t.IsDelegating) {call : Leaf × Question}
    (hcall : call ∈ (check judge t q).calls) : call.2 = q.delegated := by
  rw [← ht.check_delegated] at hcall
  exact (check_of_delegated (delegated_delegated q)).2 call hcall

/-- Nodes look at the chain alone; the rest of a question is for the leaves. -/
theorem result_congr (hq : q.delegated = q) (hq' : q'.delegated = q') (hchain : q'.chain = q.chain)
    (hjudge : ∀ l, judge' l q' = judge l q) :
    (check judge' t q').result = (check judge t q).result := by
  induction t with
  | leaf l => exact hjudge l
  | fixed policy delegate ih => simp only [check, subject_result, hq, hq', hchain, ih]
  | federated policy source domains ascending delegates ih =>
    cases hc : chosen source domains q.chain with
    | error e => simp [check, hchain, hc, Verdict.refused]
    | ok i => simp only [check, hchain, hc, subject_result, hq, hq', ih i]

theorem IsDelegating.result_congr (ht : t.IsDelegating) (hchain : q'.chain = q.chain)
    (hjudge : ∀ l, judge' l q'.delegated = judge l q.delegated) :
    (check judge' t q').result = (check judge t q).result := by
  rw [← ht.check_delegated, ← ht.check_delegated (q := q)]
  exact TrustTree.result_congr (delegated_delegated q) (delegated_delegated q')
    (by simpa using hchain) hjudge

/-- Checks of clients change no parameters, and leaves see them all. Checks of servers switch the
transport's own identification off, before any leaf is asked, and change nothing else. Both holds
whatever comes of the check. -/
theorem check_effect_on_params (judge : Leaf → Question → Except PeerError Unit)
    (t : TrustTree Leaf) (ht : t.IsDelegating) (chain : Chain) (authType : String)
    (params : Option SslParams) :
    ((check judge t ⟨.client, chain, authType, params⟩).params = params ∧
      ∀ call ∈ (check judge t ⟨.client, chain, authType, params⟩).calls,
        call.2 = ⟨.client, chain, authType, params⟩) ∧
    (check judge t ⟨.server, chain, authType, params⟩).params =
      params.map (fun p => { p with algorithm := some "" }) ∧
    ∀ call ∈ (check judge t ⟨.server, chain, authType, params⟩).calls,
      (call.2.role = .server ∧ call.2.chain = chain ∧ call.2.authType = authType) ∧
      (params = none → call.2.params = none) ∧
      ∀ p, params = some p → ∃ seen, call.2.params = some seen ∧ seen.identifies = false ∧
        seen.serverName = p.serverName ∧ seen.time = p.time := by
  refine ⟨⟨ht.check_params, fun call hcall => ht.eq_delegated hcall⟩, ht.check_params, ?_⟩
  intro call hcall
  rw [ht.eq_delegated hcall, Question.delegated_server]
  refine ⟨⟨rfl, rfl, rfl⟩, ?_, ?_⟩
  · rintro rfl
    rfl
  · rintro p rfl
    exact ⟨p.withoutIdentification, rfl, p.identifies_withoutIdentification,
      p.serverName_withoutIdentification, p.time_withoutIdentification⟩

/-- The leaf refuses below two nodes, and identification is off all the same. -/
theorem check_effect_on_params_nested :
    let t : TrustTree Unit :=
      .federated none (fun _ => .ok (some ⟨"example.org", ""⟩)) ["example.org"]
        (List.pairwise_singleton _ _) fun _ => .fixed none (.leaf ())
    let v := check (fun _ _ => .error .missingCertificates) t
      ⟨.server, [], "RSA", some ⟨some "HTTPS", some "api.example.org", some 5⟩⟩
    t.IsDelegating ∧ v.result = .error .missingCertificates ∧ v.calls.length = 1 ∧
      v.params = some ⟨some "", some "api.example.org", some 5⟩ ∧
      ∀ call ∈ v.calls, ∃ seen, call.2.params = some seen ∧ seen.identifies = false ∧
        seen.serverName = some "api.example.org" ∧ seen.time = some 5 := by
  intro t v
  have heffect := check_effect_on_params (fun _ _ => .error .missingCertificates) t trivial [] "RSA"
    (some ⟨some "HTTPS", some "api.example.org", some 5⟩)
  exact ⟨trivial, rfl, rfl, heffect.2.1, fun call hcall => (heffect.2.2 call hcall).2.2 _ rfl⟩

end TrustTree
end SecureChannel
