import Turnstile.Cache.Attempts
import Turnstile.Sql.Policies

/-!
Stores outside of the program: accounts, sessions and policies in a database, and attempts on a
key-value server. The state is that of both connections.
-/

namespace Turnstile

/-- Statements over the first of two connections. -/
def SqlWire.fromFirst {σ τ : Type} (wire : SqlWire σ) : SqlWire (σ × τ) :=
  ⟨fun statement s =>
    let (reply, first) := wire.send statement s.1
    (reply, first, s.2)⟩

/-- Commands over the second of two connections. -/
def CacheLink.fromSecond {σ τ : Type} (link : CacheLink τ) : CacheLink (σ × τ) :=
  ⟨fun command now s =>
    let (reply, second) := link.send command now s.2
    (reply, s.1, second)⟩

/-- The stores behind a connection to a database and one to a key-value server. -/
def Stores.remote {σ τ : Type} (wire : SqlWire σ) (link : CacheLink τ) : Stores (σ × τ) :=
  let wire : SqlWire (σ × τ) := wire.fromFirst
  let link : CacheLink (σ × τ) := link.fromSecond
  ⟨wire.userStore, wire.sessionStore, link.attemptStore, wire.policyStore⟩

end Turnstile
