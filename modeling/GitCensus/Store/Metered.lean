import GitCensus.Store.Basic
/-!
# Metered stores

A store behind a meter answers as it would alone, keeps the list of requests it
was asked, and refuses all requests after the last one allowed.
-/

namespace GitCensus

/-- A store's state with the requests answered so far, newest first, and the number
of requests still allowed, if limited. -/
structure Metered (σ : Type) where
  inner : σ
  requests : List Request := []
  remaining : Option Nat := none

namespace Metered

variable {σ α : Type}

def pass (request : Request) (ask : σ → Except Fault α × σ) (m : Metered σ) :
    Except Fault α × Metered σ :=
  if m.remaining = some 0 then (.error (.channel .limitReached), m)
  else
    let (answer, inner) := ask m.inner
    (answer, { inner, requests := request :: m.requests, remaining := m.remaining.map (· - 1) })

def store (S : Store σ) : Store (Metered σ) where
  readHeader id := pass (.header id) (S.readHeader id)
  readTree id := pass (.tree id) (S.readTree id)

end Metered

end GitCensus
