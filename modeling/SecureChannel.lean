import SecureChannel.Config.Document
import SecureChannel.Handshake.Verifier
import SecureChannel.Headers.Decoder
import SecureChannel.Trust.Anchored
import SecureChannel.Proofs.Headers.Entries
import SecureChannel.Proofs.Trust.Route
import SecureChannel.Proofs.Trust.Parameters
import SecureChannel.Proofs.Headers.Fields
import SecureChannel.Proofs.Headers.Calls
import SecureChannel.Proofs.Headers.Views
import SecureChannel.Proofs.Headers.Replacement
import SecureChannel.Proofs.Headers.Routing
import SecureChannel.Proofs.Headers.Likeness
import SecureChannel.Proofs.Headers.Decoding
import SecureChannel.Proofs.Headers.History
import SecureChannel.Proofs.Net.Host
import SecureChannel.Proofs.Regex.Search
import SecureChannel.Proofs.Regex.Parser.Escape
import SecureChannel.Proofs.Regex.Parser.Class
import SecureChannel.Proofs.Regex.Parser.Pattern
import SecureChannel.Proofs.Regex.Bounds
import SecureChannel.Proofs.Matcher.Anchoring
import SecureChannel.Proofs.Trust.HostName
import SecureChannel.Proofs.Headers.Wire
import SecureChannel.Proofs.Headers.Binary
import SecureChannel.Proofs.Headers.Joining
import SecureChannel.Proofs.Spiffe.Grammar
import SecureChannel.Proofs.Headers.Storage
import SecureChannel.Proofs.Headers.Expansion
import SecureChannel.Proofs.Peer.NamePolicy
import SecureChannel.Proofs.Matcher.Literal
import SecureChannel.Proofs.Spiffe.Display
import SecureChannel.Proofs.Peer.Identity
import SecureChannel.Proofs.Json.Literal
import SecureChannel.Proofs.Json.Token
import SecureChannel.Proofs.Json.Value
import SecureChannel.Proofs.Config.Fields
import SecureChannel.Proofs.Config.Document
import SecureChannel.Proofs.Headers.Observers
import SecureChannel.Proofs.Trust.Branches
import SecureChannel.Proofs.Trust.Issuers
import SecureChannel.Proofs.Trust.Construction
import SecureChannel.Proofs.Unicode.CharSet
import SecureChannel.Proofs.Unicode.Letters
import SecureChannel.Proofs.Unicode.AsciiCase
import SecureChannel.Proofs.Regex.AsciiCase
import SecureChannel.Proofs.Regex.Flags
import SecureChannel.Proofs.Matcher.IgnoreCase
import SecureChannel.Proofs.Peer.Address
import SecureChannel.Proofs.Headers.Capacity
