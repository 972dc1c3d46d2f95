import SecureChannel.Peer.NamePolicy

/-! What trust managers are asked about a peer, and what they know of the handshake. -/
namespace SecureChannel

/-- The peer's part in the handshake. -/
inductive Role
  | client
  | server
deriving DecidableEq

def Role.label : Role → String
  | .client => "client"
  | .server => "server"

/-- Parameters of a handshake. Without a time, the current one counts. -/
structure SslParams where
  /-- How the transport itself identifies the server; nothing and the empty text mean not at all. -/
  algorithm : Option String
  serverName : Option String
  time : Option Nat
deriving DecidableEq

namespace SslParams

def identifies (p : SslParams) : Bool := p.algorithm.any (· ≠ "")

def withoutIdentification (p : SslParams) : SslParams := { p with algorithm := some "" }

end SslParams

/-- Without parameters there is no handshake. -/
structure Question where
  role : Role
  chain : Chain
  authType : String
  params : Option SslParams
deriving DecidableEq

/-- For servers, the policy for names takes the place of the transport's own identification. -/
def Question.delegated (q : Question) : Question :=
  match q.role with
  | .client => q
  | .server => { q with params := q.params.map SslParams.withoutIdentification }

end SecureChannel
