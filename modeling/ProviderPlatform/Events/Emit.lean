import ProviderPlatform.Runtime.Host

/-! # Awaiting and emitting

Promises over the platform's interface, and the helpers that emit one event
for each PP in scope. Emission never rejects: errors are logged there. -/
namespace ProviderPlatform
open Async

/-- An async function of the platform. -/
abbrev Promise (α : Type) := Task platform α

def query (q : Query) : Promise q.Ans := Task.call (I := platform) (.query q)
def command (c : Command) : Promise c.Ans := Task.call (I := platform) (.command c)
def rpc (r : Rpc) : Promise r.Ans := Task.call (I := platform) (.rpc r)
def run (o : Op) : Promise o.Out := Task.op (I := platform) o
def reject {α : Type} (e : Err) : Promise α := Task.fail (I := platform) e

/-- The bundles named by an event that goes to each PP of a list of bundles; the
events sent to the PP of one bundle name none. -/
def EventPayload.fannedOut : EventPayload → List BundleId
  | .bundleAdded _ _ _ _ _ _ _ | .bundleExpired _ _ => []
  | .transactionSubmitted _ bundleIds _ | .executionFailed bundleIds _ _
  | .bundleCompleted _ bundleIds _ | .bundleFailed _ bundleIds _ _ => bundleIds
  | .depositCompleted bundleId _ _ _ _ | .withdrawCompleted bundleId _ _ _ _ => [bundleId]

/-- Resolves the scope of a PP and emits a single event. -/
def emitInScope (payload : EventPayload) (ppPublicKey : PublicKey) : Promise Unit := do
  let scope : Option EventScope ← query (.resolveScopeForPp ppPublicKey)
  match scope with
  | none => pure ()
  | some scope => run (.emit scope payload)

/-- Resolves the scope for a known PP and emits a single event. -/
def emitForPp (ppPublicKey : PublicKey) (payload : EventPayload) : Promise Unit :=
  if ppPublicKey = "" then pure ()
  else (emitInScope payload ppPublicKey).recover fun _ => pure ()

/-- The distinct PPs of the rows, without the absent and the empty ones. -/
def distinctPps (rows : List (Option PublicKey)) : List PublicKey :=
  ((rows.filterMap id).filter (· != "")).eraseDups

/-- Looks up the distinct PPs that own the bundles and emits one event per PP. -/
def emitForBundles (bundleIds : List BundleId) (payload : EventPayload) : Promise Unit :=
  if bundleIds.isEmpty then pure ()
  else Task.recover (I := platform)
    (do
      let rows : List (Option PublicKey) ← query (.findBundlePps bundleIds)
      Task.forEach (emitInScope payload) (distinctPps rows))
    fun _ => pure ()

end ProviderPlatform
