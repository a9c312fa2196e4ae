import ProviderPlatform.Async.Refinement
import ProviderPlatform.Lifecycle.RetryBound
import ProviderPlatform.Mempool.Admission
import ProviderPlatform.Mempool.Bag

/-! # The runs of the bag

Whatever admissions, ticks, sweeps, purges, failures and restarts interleave, the
mempool does what a bag of bundles does. The one operation that needs the ids to
be distinct, the sweep, is the first of its task, and the ids are distinct at
every await. -/
namespace ProviderPlatform
open Async Store Transition

/-! ## Only the sweep takes what is expired -/

/-- The scan of the TTL sweep. -/
def Op.Sweeping (o : Op) : Prop := o = .takeExpired

theorem permits_unswept : Permits (fun o => ¬o.Sweeping) fun _ => True where
  query _ := trivial
  rpc _ := trivial
  now := nofun
  emit _ _ := nofun
  isDisabled _ := nofun

theorem mayAdd_unswept : Mempool.MayAdd (fun o => ¬o.Sweeping) fun _ => True where
  toAnnounces := permits_unswept.toAnnounces
  place _ := nofun
  purge _ := nofun
  expire _ := trivial
  activate _ := trivial

theorem mayExecute_unswept : MayExecute (fun o => ¬o.Sweeping) fun _ => True where
  toMayAdd := mayAdd_unswept
  emit _ _ := nofun
  isProcessing := nofun
  setProcessing _ := nofun
  removeFirstSlot := nofun
  returned _ _ := nofun
  evict _ := trivial
  failure _ _ _ := trivial
  insufficient _ _ _ := trivial
  createTransaction _ _ := trivial
  createLink _ := trivial

theorem mayVerify_unswept : MayVerify (fun o => ¬o.Sweeping) fun _ => True where
  toPermits := permits_unswept
  updateTransaction _ _ := trivial
  complete _ := trivial
  failure _ _ _ := trivial

theorem addOperationsBundle_unswept (cfg : Config) (input : BundleRequest) :
    Keeps (fun o => ¬o.Sweeping) (fun _ => True) (addOperationsBundle cfg input) := by
  have h := permits_unswept
  refine (checkRequest_keeps h.toAnnounces (fun _ _ => trivial) cfg input).bind fun adm => ?_
  refine (persistBundle_keeps h.toReads (fun _ _ _ => trivial) fun _ _ _ => trivial).bind
    fun entity => ?_
  refine (enqueueBundle_keeps mayAdd_unswept (fun _ => trivial) (fun _ _ => trivial) cfg input adm
    entity).bind fun _ => ?_
  exact keeps_pure _

/-- A task scans for expired bundles at its very beginning, if at all. -/
theorem Call.program_opens (cfg : Config) (fuel : Nat) (l : Call) :
    (l.program cfg fuel).Opens Op.Sweeping := by
  have h := mayAdd_unswept
  cases l with
  | launch =>
    have hboot := Mempool.initializeMempool_keeps h (fun _ _ => trivial) cfg fuel
    exact (hboot.bind fun _ => keeps_run (by nofun)).opens
  | addOperationsBundle input =>
    exact ((addOperationsBundle_unswept cfg input).bind fun _ => keeps_pure _).opens
  | executeNext => exact (executeNext_keeps mayExecute_unswept (fun _ _ _ => nofun) cfg).opens
  | verifyTransactions => exact (verifyTransactions_keeps mayVerify_unswept cfg).opens
  | expireBundles =>
    have hmark (expired : List SlotBundle) :
        Keeps (fun o => ¬o.Sweeping) (fun _ => True) (Task.forEach Mempool.markExpired expired) :=
      Task.Uses.forEach fun b _ => Mempool.markExpired_keeps h.toAnnounces h.expire b
    exact fun expired => hmark expired
  | addBundle bundle => exact (Mempool.addBundle_keeps h cfg bundle).opens
  | reAddBundles bundles => exact (Mempool.reAddBundles_keeps h cfg bundles).opens
  | purgeBundles _ | removeFirstSlot => exact fun _ => trivial
  | expireByIds ids =>
    have hexpire : Keeps (fun o => ¬o.Sweeping) (fun _ => True)
        (command (.expireByIds ids BundleStatus.active)) := keeps_command trivial
    exact (hexpire.bind fun _ => keeps_pure _).opens

/-! ## Refinement -/

/-- Keeps what a run shows of the bag. -/
def bagEvents : Observer platform State Call (List BagEvent) :=
  Observer.events State.bagEvents .restarted

section Runs
variable {cfg : Config} {fuel : Nat} {s : State} {c : ProviderPool} {es : List BagEvent}

theorem operated_refines (cfg : Config) (fuel : Nat) :
    (operated cfg fuel).Refines (bagOf cfg.slotCapacity) (fun s => s.memory.mempool.bag)
      State.bagEvents .restarted (State.Shelved cfg.slotCapacity) Op.Sweeping
      fun s => s.memory.mempool.queuedIds.Nodup where
  op s o h hsafe := by
    refine ⟨h.runOp o, ?_⟩
    cases o with
    | place bundle => exact h.place bundle
    | takeExpired => exact State.bagged_takeExpired (hsafe rfl)
    | purgeBundles ids => exact s.bagged_purgeBundles ids
    | removeFirstSlot => exact h.pull
    | _ => exact .nil
  serve s q h := by
    cases q with
    | _ => exact ⟨⟨h.booked, h.oneChannel, h.capacity⟩, rfl⟩
  drift s d h := by
    have hmempool : (drift d s).memory.mempool = s.memory.mempool := drift_mempool d s
    refine ⟨⟨?_, ?_, ?_⟩, congrArg Mempool.bag hmempool⟩
    · exact (congrArg Mempool.Booked hmempool).mpr h.booked
    · exact fun slot hslot => h.oneChannel slot (hmempool ▸ hslot)
    · exact (congrArg Mempool.capacity hmempool).trans h.capacity
  crash s _ := ⟨⟨nofun, nofun, rfl⟩, .restart _⟩
  opens := Call.program_opens cfg fuel

/-- **The mempool is a bag.** Along every run from a launch the operations on the
slots show a trace of the bag, which ends with what is queued; so each bundle that
was put in since the last restart is queued, or was taken out, and just once. -/
theorem mempool_refines_bag (hboot : s.memory = .boot cfg)
    (h : (operated cfg fuel).Observed bagEvents Machine.Free ((operated cfg fuel).init s) [] c es) :
    (bagOf cfg.slotCapacity).Traces 0 es c.state.memory.mempool.queued ∧
      ((BagEvent.life es).map BagEvent.incoming).sum =
        ((BagEvent.life es).map BagEvent.outgoing).sum + c.state.memory.mempool.queued := by
  have hsafe (c : ProviderPool) (hr : (operated cfg fuel).Run Machine.Free
      ((operated cfg fuel).init s) c) : c.state.memory.mempool.queuedIds.Nodup :=
    (queued_reachable hboot hr).1
  have hempty : s.memory.mempool.bag = 0 := by rw [hboot]; rfl
  have hinv : State.Shelved cfg.slotCapacity s := by
    refine ⟨?_, ?_, by rw [hboot]; rfl⟩
    · rw [State.Booked, hboot]
      exact List.forall_mem_nil _
    · rw [State.OneChannel, hboot]
      exact List.forall_mem_nil _
  have hopen : AllOpen Op.Sweeping ((operated cfg fuel).init s) :=
    List.forall_mem_singleton.mpr (Call.program_opens cfg fuel .launch)
  obtain ⟨-, htraces⟩ := h.refines (operated_refines cfg fuel) hsafe hopen hinv
  have htraces : (bagOf cfg.slotCapacity).Traces s.memory.mempool.bag es
      c.state.memory.mempool.queued := htraces
  rw [hempty] at htraces
  exact ⟨htraces, bag_balance htraces⟩

end Runs

namespace Small

/-- Bundles that a process left PENDING: the second displaces the first, which
fills a slot of its own, and the third expires soon. -/
def survivors : List SlotBundle :=
  [slotBundle "slow" 10 1 "GPP", { slotBundle "urgent" 9 1 "GPP" with fee := 5000000 },
    { slotBundle "late" 1 1 "GPP" with ttl := 5, fee := 0 }]

/-- The boot, a sweep when the third has expired, and a tick. -/
def sweptThenPulled : List ProviderChoice :=
  serves 0 13 ++ [.resume 0, .drift (.elapse 10), .start .expireBundles, .resume 1,
    .start .executeNext, .resume 2]

/-- The bundles that an event takes out. -/
def taken : BagEvent → List BundleId
  | .pulled bundles | .expired _ bundles | .purged _ bundles => bundles.map (·.bundleId)
  | _ => []

end Small

/-- Three bundles come in; the expired one and the first slot go out. -/
theorem mempool_refines_bag_small : ∃ (c : ProviderPool) (es : List BagEvent),
    es.map (fun e => (e.incoming.card, Small.taken e)) =
      [(1, []), (1, []), (1, []), (0, ["late"]), (0, ["urgent"])] ∧
    c.state.memory.mempool.queuedIds = ["slow"] ∧
    (bagOf 10).Traces 0 es c.state.memory.mempool.queued ∧
      ((BagEvent.life es).map BagEvent.incoming).sum =
        ((BagEvent.life es).map BagEvent.outgoing).sum + c.state.memory.mempool.queued := by
  let shows (s : State) (es : List BagEvent) : Bool :=
    es.map (fun e => (e.incoming.card, Small.taken e)) ==
      [(1, []), (1, []), (1, []), (0, ["late"]), (0, ["urgent"])] &&
    s.memory.mempool.queuedIds == ["slow"]
  have hwatch : ((operated Small.config 9).watch bagEvents Machine.Free Small.sweptThenPulled
      ((operated Small.config 9).init (Small.holding [] Small.survivors)) []).map
        (fun r => shows r.1.state r.2) = some true := by decide +kernel
  obtain ⟨c, es, h, hp⟩ := Machine.exists_observed Small.sweptThenPulled shows hwatch
  obtain ⟨hevents, hqueued⟩ := Bool.and_eq_true_iff.mp hp
  exact ⟨c, es, eq_of_beq hevents, eq_of_beq hqueued, mempool_refines_bag rfl h⟩

end ProviderPlatform
