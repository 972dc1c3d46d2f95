import SecureChannel.Handshake.Verifier
import SecureChannel.Proofs.Except
import SecureChannel.Proofs.Net.Host
import SecureChannel.Proofs.Trust.Parameters
import SecureChannel.Trust.Anchored

/-! Who decides on the name of a server. Anchors that are asked by the transport itself do. Below a
node that hands questions on, nobody does. -/
namespace SecureChannel.AnchoredTrust

/-- A chain begins with this certificate of a server, and leads to an anchor. -/
inductive Reaches (t : AnchoredTrust) (time : Nat) : Chain → Certificate → Prop
  | intro {leaf intermediates c} (parsed : Certificate.ofBytes leaf = .ok c)
      (path : Path.check ⟨t.anchors, intermediates, .serverAuth, time⟩ c = .ok ()) :
      Reaches t time (leaf :: intermediates) c

variable {t : AnchoredTrust} {now now' : Nat} {chain : Chain} {authType : String} {p p' : SslParams}

theorem distrusted_eq_ok_iff {α : Type} {a : α} {r : Except PathError α} :
    distrusted r = .ok a ↔ r = .ok a :=
  mapError_eq_ok_iff

/-- Without identification the name does not count. -/
theorem checkServerName_of_not_identifies {leaf : Certificate} (h : p.identifies = false) :
    checkServerName leaf (some p) = .ok () := by
  simp [checkServerName, Option.filter, h]

theorem checkServerName_eq_ok_iff {leaf : Certificate} :
    checkServerName leaf (some p) = .ok () ↔
      (p.identifies = true → ∀ name, p.serverName = some name →
        ∃ expected, ServerName.parse? name = some expected ∧
          leaf.checkServerName expected = .ok ()) := by
  cases hidentifies : p.identifies with
  | false => simp [checkServerName_of_not_identifies hidentifies]
  | true =>
    cases hname : p.serverName with
    | none => simp [checkServerName, Option.filter, hidentifies, hname]
    | some name =>
      cases hparse : ServerName.parse? name with
      | none => simp [checkServerName, Option.filter, hidentifies, hname, hparse]
      | some expected =>
        simp [checkServerName, Option.filter, hidentifies, hname, hparse, distrusted_eq_ok_iff]

theorem judge_server_eq_ok_iff :
    t.judge now ⟨.server, chain, authType, some p⟩ = .ok () ↔
      ∃ c, t.Reaches (p.time.getD now) chain c ∧ checkServerName c (some p) = .ok () := by
  cases chain with
  | nil =>
    constructor
    · nofun
    · rintro ⟨c, ⟨⟩, -⟩
  | cons leaf intermediates =>
    simp only [judge, bind_eq_ok_iff, mapError_eq_ok_iff, distrusted_eq_ok_iff]
    constructor
    · rintro ⟨c, parsed, _, path, hname⟩
      exact ⟨c, ⟨parsed, path⟩, hname⟩
    · rintro ⟨c, ⟨parsed, path⟩, hname⟩
      exact ⟨c, parsed, (), path, hname⟩

/-- Without identification only the chain and the time count. -/
theorem judge_withoutIdentification (htime : p.time.getD now = p'.time.getD now') :
    t.judge now ⟨.server, chain, authType, some p.withoutIdentification⟩ =
      t.judge now' ⟨.server, chain, authType, some p'.withoutIdentification⟩ := by
  cases chain with
  | nil => rfl
  | cons leaf intermediates =>
    simp [judge, request, verificationTime, checkServerName_of_not_identifies, htime]

/-- Below a node that hands questions on, neither the name nor its identification counts. -/
theorem result_eq_of_time {tree : TrustTree AnchoredTrust} (htree : tree.IsDelegating)
    (htime : p.time.getD now = p'.time.getD now') :
    (tree.check (judge now) ⟨.server, chain, authType, some p⟩).result =
      (tree.check (judge now') ⟨.server, chain, authType, some p'⟩).result :=
  htree.result_congr rfl fun _ => judge_withoutIdentification htime

/-- In a handshake, anchors alone want the leaf to have the name that was dialed. -/
theorem outcome_eq_ok_iff {leaf : Bytes} {intermediates : List Bytes} {time : Nat}
    {name : ServerName} (hname : name.IsValid) :
    Handshake.outcome ((TrustTree.leaf t).check (judge now)
        (Handshake.serverQuestion leaf intermediates name time)).result = .ok () ↔
      ∃ c, t.Reaches time (leaf :: intermediates) c ∧ c.checkServerName name = .ok () := by
  rw [Handshake.outcome, mapError_eq_ok_iff, TrustTree.check, Handshake.serverQuestion]
  simp only [judge_server_eq_ok_iff, checkServerName_eq_ok_iff, SslParams.identifies]
  simp [ServerName.parse?_display hname]

/-- Who decides on the name of a server. Anchors accept a chain that begins with a certificate,
leads to an anchor and, if the transport identifies servers, has the name. A tree of nodes comes to
the same result for all names and identifications. So it does in a handshake, where anchors alone
accept the certificates of the dialed name only. -/
theorem server_name_decides_without_nodes :
    (∀ (t : AnchoredTrust) (now : Nat) (chain : Chain) (authType : String) (p : SslParams),
      t.judge now ⟨.server, chain, authType, some p⟩ = .ok () ↔
        ∃ c, t.Reaches (p.time.getD now) chain c ∧
          (p.identifies = true → ∀ name, p.serverName = some name →
            ∃ expected, ServerName.parse? name = some expected ∧
              c.checkServerName expected = .ok ())) ∧
    (∀ tree : TrustTree AnchoredTrust, tree.IsDelegating →
      (∀ (now now' : Nat) (chain : Chain) (authType : String) (p p' : SslParams),
        p.time.getD now = p'.time.getD now' →
        (tree.check (judge now) ⟨.server, chain, authType, some p⟩).result =
          (tree.check (judge now') ⟨.server, chain, authType, some p'⟩).result) ∧
      ∀ (now now' : Nat) (leaf : Bytes) (intermediates : List Bytes) (time : Nat)
        (name name' : ServerName),
        Handshake.outcome (tree.check (judge now)
            (Handshake.serverQuestion leaf intermediates name time)).result =
          Handshake.outcome (tree.check (judge now')
            (Handshake.serverQuestion leaf intermediates name' time)).result) ∧
    ∀ (t : AnchoredTrust) (now : Nat) (leaf : Bytes) (intermediates : List Bytes) (time : Nat)
      (name : ServerName), name.IsValid →
      (Handshake.outcome ((TrustTree.leaf t).check (judge now)
          (Handshake.serverQuestion leaf intermediates name time)).result = .ok () ↔
        ∃ c, t.Reaches time (leaf :: intermediates) c ∧ c.checkServerName name = .ok ()) := by
  refine ⟨?_, fun tree htree => ⟨?_, ?_⟩, ?_⟩
  · intro t now chain authType p
    simp only [judge_server_eq_ok_iff, checkServerName_eq_ok_iff]
  · intro now now' chain authType p p' htime
    exact result_eq_of_time htree htime
  · intro now now' leaf intermediates time name name'
    exact congrArg Handshake.outcome (result_eq_of_time htree rfl)
  · intro t now leaf intermediates time name hname
    exact outcome_eq_ok_iff hname

end SecureChannel.AnchoredTrust
