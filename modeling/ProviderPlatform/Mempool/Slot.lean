import ProviderPlatform.Bundle.Types
import Mathlib.Algebra.Order.Ring.Rat
import Mathlib.Data.List.Sort

/-! # Slots and the queue of slots

The in-memory part of the mempool, one definition for each method of `Slot`
and for the synchronous part of each method of `Mempool`. A slot is emptied
and refilled in place in the source; here every method returns the new slot. -/
namespace ProviderPlatform

/-! ## Priorities and TTLs -/

/-- At most zero when `a` comes first. -/
def compareBundlePriority (a b : SlotBundle) : Rat := b.priorityScore - a.priorityScore

/-- `bundles.sort(compareBundlePriority)`; the sort is stable. -/
def sortByPriority (bundles : List SlotBundle) : List SlotBundle :=
  bundles.insertionSort fun a b => compareBundlePriority a b ≤ 0

/-- Checks if a bundle has expired based on its TTL. -/
def isBundleExpired (now : Time) (bundle : SlotBundle) : Bool := decide (bundle.ttl ≤ now)

/-- The first bundle of lowest priority. -/
def findLowestPriorityBundle : List SlotBundle → Option SlotBundle
  | [] => none
  | b :: bundles => some (bundles.foldl
      (fun lowest current =>
        if current.priorityScore < lowest.priorityScore then current else lowest) b)

/-! ## Slot -/

/-- Bundles of one channel within a capacity limit. -/
structure Slot where
  channelContractId : ContractId
  capacity : Nat
  bundles : List SlotBundle
  currentWeight : Nat
  deriving DecidableEq

namespace Slot

def new (capacity : Nat) (channelContractId : ContractId) : Slot :=
  ⟨channelContractId, capacity, [], 0⟩

/-- Checks if a bundle can fit in this slot. -/
def canFit (slot : Slot) (bundle : SlotBundle) : Bool :=
  decide (slot.currentWeight + bundle.weight ≤ slot.capacity)

/-- The occupant that `add` would take out to make place for a bundle. -/
def replaceable (slot : Slot) (bundle : SlotBundle) : Option SlotBundle :=
  (findLowestPriorityBundle slot.bundles).filter fun lowest =>
    decide (lowest.priorityScore < bundle.priorityScore)

/-- Put a bundle in, in priority order. -/
def push (slot : Slot) (bundle : SlotBundle) : Slot :=
  { slot with
    bundles := sortByPriority (slot.bundles ++ [bundle])
    currentWeight := slot.currentWeight + bundle.weight }

/-- Take an occupant out. -/
def drop (slot : Slot) (bundle : SlotBundle) : Slot :=
  { slot with
    bundles := slot.bundles.erase bundle
    currentWeight := slot.currentWeight - bundle.weight }

/-- Attempts to add a bundle to the slot. Returns the bundle that is left over
(the displaced occupant, or the bundle itself), if any. -/
def add (slot : Slot) (bundle : SlotBundle) : Slot × Option SlotBundle :=
  if slot.canFit bundle then (slot.push bundle, none)
  else match slot.replaceable bundle with
    | some lowest => ((slot.drop lowest).push bundle, some lowest)
    | none => (slot, some bundle)

/-- Removes and returns the first bundle (highest priority). -/
def removeFirst (slot : Slot) : Slot × Option SlotBundle :=
  match slot.bundles with
  | [] => (slot, none)
  | b :: bundles =>
    ({ slot with bundles := bundles, currentWeight := slot.currentWeight - b.weight }, some b)

def isEmpty (slot : Slot) : Bool := slot.bundles.isEmpty
def getTotalWeight (slot : Slot) : Nat := slot.currentWeight
def getBundleCount (slot : Slot) : Nat := slot.bundles.length
def getBundles (slot : Slot) : List SlotBundle := slot.bundles

/-- Removes the first bundle with the given id; true if there was one. -/
def removeBundle (slot : Slot) (bundleId : BundleId) : Slot × Bool :=
  match slot.bundles.find? (·.bundleId == bundleId) with
  | some b =>
    ({ slot with
        bundles := slot.bundles.eraseP (·.bundleId == bundleId)
        currentWeight := slot.currentWeight - b.weight }, true)
  | none => (slot, false)

/-- Remove by id every bundle of the snapshot that satisfies a condition. -/
def removeWhere (slot : Slot) (p : SlotBundle → Bool) : Slot :=
  (slot.getBundles.filter p).foldl (fun s b => (s.removeBundle b.bundleId).1) slot

end Slot

/-! ## Mempool -/

/-- The queue of slots. -/
structure Mempool where
  capacity : Nat
  slots : List Slot
  deriving DecidableEq

/-- Where `addBundle` put its bundle. -/
inductive Placement
  | existingSlot
  | newSlot
  | slotFull
  deriving DecidableEq

namespace Mempool

def new (capacity : Nat) : Mempool := ⟨capacity, []⟩

/-- Offer a bundle to the slots of its channel in order; a displaced occupant
is offered to the later ones. Returns what is left over. -/
def offer (channel : ContractId) : List Slot → SlotBundle → List Slot × Option SlotBundle
  | [], bundle => ([], some bundle)
  | slot :: slots, bundle =>
    if slot.channelContractId ≠ channel then
      (slot :: (offer channel slots bundle).1, (offer channel slots bundle).2)
    else match slot.add bundle with
      | (slot', none) => (slot' :: slots, none)
      | (slot', some removed) =>
        (slot' :: (offer channel slots removed).1, (offer channel slots removed).2)

/-- The synchronous part of `addBundle`, for a bundle within its TTL. -/
def place (mempool : Mempool) (bundleData : SlotBundle) : Placement × Mempool :=
  let channel := bundleData.channelContractId
  match offer channel mempool.slots bundleData with
  | (slots, none) => (.existingSlot, { mempool with slots := slots })
  | (slots, some bundleToAdd) =>
    match (Slot.new mempool.capacity channel).add bundleToAdd with
    | (slot, none) => (.newSlot, { mempool with slots := slots ++ [slot] })
    | (_, some _) => (.slotFull, { mempool with slots := slots })

/-- Removes and returns the first slot. -/
def removeFirstSlot (mempool : Mempool) : Option Slot × Mempool :=
  match mempool.slots with
  | [] => (none, mempool)
  | slot :: slots => (some slot, { mempool with slots := slots })

/-- Take the bundles that satisfy a condition out of every slot, from the last
slot to the first, and the slots that are empty then out of the queue. -/
def sweep (p : SlotBundle → Bool) : List Slot → List SlotBundle × List Slot
  | [] => ([], [])
  | slot :: slots =>
    let swept := sweep p slots
    let slot' := slot.removeWhere p
    (swept.1 ++ slot.getBundles.filter p, if slot'.isEmpty then swept.2 else slot' :: swept.2)

/-- The scan of `expireBundles`: the expired bundles, taken out of the queue. -/
def takeExpired (mempool : Mempool) (now : Time) : List SlotBundle × Mempool :=
  ((sweep (isBundleExpired now) mempool.slots).1,
    { mempool with slots := (sweep (isBundleExpired now) mempool.slots).2 })

/-- Evicts a set of bundles by their IDs and returns how many were found. -/
def purgeBundles (mempool : Mempool) (bundleIds : List BundleId) : Nat × Mempool :=
  if bundleIds.isEmpty then (0, mempool)
  else
    ((sweep (fun b => bundleIds.contains b.bundleId) mempool.slots).1.length,
      { mempool with slots := (sweep (fun b => bundleIds.contains b.bundleId) mempool.slots).2 })

/-- Every queued bundle, slot by slot. -/
def queued (mempool : Mempool) : List SlotBundle := mempool.slots.flatMap (·.bundles)

/-- The ids of the queued bundles. -/
def queuedIds (mempool : Mempool) : List BundleId := mempool.queued.map (·.bundleId)

end Mempool
end ProviderPlatform
