import ProviderPlatform.Events.Emit
import ProviderPlatform.Bundle.Service

/-! # The mempool

The methods of `Mempool` that await the database, and the hydration of slot
bundles from their rows. What each does to the slots is one operation on the
queue of slots. -/
namespace ProviderPlatform
open Async

/-! ## Hydration -/

/-- Parses the operations; rejects at the first string that does not parse. -/
def parseOperations (cfg : Config) (operationsMLXDR : List MLXDR) :
    Except Err (List MoonlightOperation) :=
  match operationsMLXDR.find? fun mlxdr => (cfg.fromMLXDR mlxdr).isNone with
  | some mlxdr => .error (.invalidMlxdr mlxdr)
  | none => .ok (operationsMLXDR.filterMap cfg.fromMLXDR)

/-- The submitter's entity, as the slot bundle shows it; `!pubkey` is true of
the empty string. -/
def lookupSubmitter (pubkey : Option AccountId) : Promise (Option String × List String) :=
  match pubkey.filter (· ≠ "") with
  | none => pure (none, [])
  | some pubkey => do
    let account : Option Account ← query (.findAccountById pubkey)
    match account with
    | none => pure (none, [])
    | some account => do
      let entity : Option Entity ← query (.findEntityById account.entityId)
      match entity with
      | none => pure (none, [])
      | some entity => pure (entity.name, entity.jurisdictions.getD [])

/-- Creates a SlotBundle from a row. -/
def createSlotBundleFromEntity (cfg : Config) (bundle : OperationsBundle) :
    Promise SlotBundle := do
  let operations ← Task.done (I := platform) (parseOperations cfg bundle.operationsMLXDR)
  let classified := classifyOperations operations
  let now : Time ← run .now
  let submitter ← lookupSubmitter bundle.createdBy
  pure {
    bundleId := bundle.id
    channelContractId := bundle.channelContractId.getD ""
    operationsMLXDR := bundle.operationsMLXDR
    operations := classified
    fee := bundle.fee
    weight := calculateBundleWeight classified cfg.weightConfig
    ttl := bundle.ttl
    createdAt := bundle.createdAt
    priorityScore := calculatePriorityScore now bundle.fee bundle.ttl bundle.createdAt
    retryCount := bundle.retryCount
    lastFailureReason := bundle.lastFailureReason
    ppPublicKey := bundle.ppPublicKey.getD ""
    entityName := submitter.1
    jurisdictions := submitter.2
    amount := aggregateBundleAmount classified }

/-- A PROCESSING bundle with a linked transaction is left to the verifier. -/
def unlessSubmitted (bundle : OperationsBundle) : Promise (Option OperationsBundle) :=
  if bundle.status = .processing then do
    let links : List BundleTransaction ← query (.findLinksByBundleId bundle.id)
    pure (if links.length > 0 then none else some bundle)
  else pure (some bundle)

/-- Loads pending and processing bundles from database. -/
def loadPendingBundlesFromDB (cfg : Config) : Promise (List SlotBundle) := do
  let bundles : List OperationsBundle ← query .findPendingOrProcessing
  let resubmittable ← Task.collect (I := platform) unlessSubmitted bundles
  Task.collect (I := platform) (createSlotBundleFromEntity cfg) (resubmittable.filterMap id)

namespace Mempool

/-! ## Adding -/

def bundleExpiredPayload (bundle : SlotBundle) : EventPayload :=
  .bundleExpired bundle.bundleId bundle.channelContractId

def bundleAddedPayload (bundle : SlotBundle) (newSlot : Bool) : EventPayload :=
  .bundleAdded bundle.bundleId bundle.weight bundle.channelContractId newSlot bundle.entityName
    bundle.jurisdictions bundle.amount

/-- Mark a bundle EXPIRED and say so. -/
def markExpired (bundle : SlotBundle) : Promise Unit := do
  let _ ← command (.updateBundle bundle.bundleId { status := some .expired })
  emitForPp bundle.ppPublicKey (bundleExpiredPayload bundle)

/-- The status update at the end of `addBundle`: a bundle that is no longer
active, or whose update throws, leaves the queue again. -/
def activate (bundle : SlotBundle) : Promise Unit :=
  Task.recover (I := platform)
    (do
      let updated : Bool ←
        command (.updateStatusIfActive bundle.bundleId .processing BundleStatus.active)
      if updated then pure ()
      else do
        let _ ← run (.purgeBundles [bundle.bundleId])
        pure ())
    fun e => do
      let _ ← run (.purgeBundles [bundle.bundleId])
      reject e

/-- Adds a bundle to the mempool. Tries to fit in existing slots, creates new
slot if necessary. -/
def addBundle (cfg : Config) (bundleData : SlotBundle) : Promise Unit := do
  let now : Time ← run .now
  if isBundleExpired now bundleData then markExpired bundleData
  else do
    let placement : Placement ← run (.place bundleData)
    match placement with
    | .slotFull => reject (.slotFull bundleData.weight cfg.slotCapacity)
    | .existingSlot => do
      emitForPp bundleData.ppPublicKey (bundleAddedPayload bundleData false)
      activate bundleData
    | .newSlot => do
      emitForPp bundleData.ppPublicKey (bundleAddedPayload bundleData true)
      activate bundleData

/-- Re-adds bundles to the mempool after execution failure. -/
def reAddBundles (cfg : Config) (bundles : List SlotBundle) : Promise Unit :=
  Task.forEach (I := platform)
    (fun bundle => (addBundle cfg bundle).recover fun _ => pure ()) bundles

/-- Expires bundles that have passed their TTL. -/
def expireBundles : Promise Unit := do
  let expired : List SlotBundle ← run .takeExpired
  Task.forEach (I := platform) markExpired expired

/-! ## Initialization -/

def startupExpiryBatchLimit : Nat := 10000

/-- Expire stale rows batch by batch, until a batch is not full. -/
def expireStale (cutoff : Time) : Nat → Promise Unit
  | 0 => reject (.error "startup expiry: out of fuel")
  | fuel + 1 => do
    let batch : List BundleId ←
      command (.expireOlderThan cutoff BundleStatus.active startupExpiryBatchLimit)
    if batch.length ≥ startupExpiryBatchLimit then expireStale cutoff fuel else pure ()

/-- Startup expiry, disabled by a maximal age of zero. -/
def startupExpiry (cfg : Config) (fuel : Nat) : Promise Unit :=
  if cfg.startupMaxBundleAgeMs > 0 then do
    let now : Time ← run .now
    expireStale (now - cfg.startupMaxBundleAgeMs) fuel
  else pure ()

/-- `Mempool.initialize`: loads pending and processing bundles from the
database. -/
def initializeMempool (cfg : Config) (fuel : Nat) : Promise Unit := do
  startupExpiry cfg fuel
  let bundles ← loadPendingBundlesFromDB cfg
  Task.forEach (I := platform) (addBundle cfg) bundles

end Mempool
end ProviderPlatform
