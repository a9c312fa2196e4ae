import ProviderPlatform.Executor.Preflight
import ProviderPlatform.Executor.Stranding

/-! # A tick that nothing disturbs

No request of the tick rejects, and what the network answers lets a transaction
of the slot be built, paid for and accepted. Then each bundle of the slot is past
its TTL, or linked to a transaction that waits for the verifier. -/
namespace ProviderPlatform
open Async Store

/-! ## The network and the slot -/

/-- Nothing that the network answers stops a tick: each channel resolves, a UTXO
is free, each fee payer can pay, and what is sent is accepted under a new hash. -/
structure Network.Obliging (cfg : Config) (net : Network) : Prop where
  resolves : ∀ channel pp, ∃ ctx, net.context channel pp = .ok ctx
  hasUtxo : ∀ ctx, ∃ utxo, (net.freeUtxos ctx).head? = some utxo
  covered : ∀ operations pp, ∃ fee, net.simulate operations = .ok fee ∧
    cfg.networkFee + fee ≤ spendable cfg (net.accountState pp)
  accepts : ∀ operations, ∃ hash, net.invoke operations = .ok hash ∧ hash ∉ net.accepted

/-- The bundles of the slot name a channel and a PP, and the builder accepts the
operations of any of them. -/
structure Slot.Executable (cfg : Config) (slot : Slot) : Prop where
  named : ∀ b ∈ slot.bundles, b.channelContractId ≠ "" ∧ b.ppPublicKey ≠ ""
  builds : ∀ bundles, bundles.Sublist slot.bundles → bundles ≠ [] → ∀ utxo,
    ∃ operations, slotOperations cfg bundles utxo = .ok operations

/-- The requests of the task are answered, and it returns. -/
abbrev Smooth {α : Type} (P : State → Prop) (t : Promise α) (B : α → State → Prop) : Prop :=
  Task.Guided host Step.Answered P t B fun _ => False

section Parts
variable {α : Type} {cfg : Config} {s s' : State} {P : State → Prop} {t : Promise α}
  {B : α → State → Prop}

theorem smooth_of {p : Prop} (h : p → Smooth P t B) : Smooth (fun s => p ∧ P s) t B :=
  fun bs s hg hp => h hp.1 bs s hg hp.2

/-! ## Waiting and announcing -/

theorem emitForPp_smooth (hemit : ∀ s scope payload, P s → P (runOp (.emit scope payload) s).2)
    (hpass : ∀ n s, P s → P (host.pass n s)) (pp : PublicKey) (payload : EventPayload) :
    Smooth P (emitForPp pp payload) fun _ => P :=
  emitForPp_lives hemit hpass (fun _ _ h => h) pp payload

theorem emitForBundles_smooth
    (hemit : ∀ s scope payload, P s → P (runOp (.emit scope payload) s).2)
    (hpass : ∀ n s, P s → P (host.pass n s)) (ids : List BundleId) (payload : EventPayload) :
    Smooth P (emitForBundles ids payload) fun _ => P := by
  unfold emitForBundles
  split
  · exact .pure fun _ hs => hs
  · refine Task.Guided.recover_lives (E := P) (fun _ _ h => h) ?_ fun _ => .pure fun _ hs => hs
    refine Task.Guided.bind (B := fun _ => P) ?_ fun rows => ?_
    · exact Task.Guided.call hpass (fun _ hs _ => hs) (fun _ _ hs _ => hs) fun _ hs _ => hs
    · exact Task.Guided.forEach_keeps (emitInScope_guided hemit hpass payload) _

/-- Only time has passed, and what nobody reads back was written. -/
structure Waited (s s' : State) : Prop where
  clock : s.clock ≤ s'.clock
  db : s'.db = s.db
  memory : s'.memory = s.memory
  network : s'.network = s.network

namespace Waited

theorem refl (s : State) : Waited s s := ⟨le_refl _, rfl, rfl, rfl⟩

theorem pass (h : Waited s s') (n : Nat) : Waited s (host.pass n s') where
  clock := by
    have hclock := h.clock
    show s.clock ≤ s'.clock + n
    unfold Time at *
    omega
  db := h.db
  memory := h.memory
  network := h.network

theorem note (h : Waited s s') (submission : Submission) :
    Waited s (runOp (.note submission) s').2 := ⟨h.clock, h.db, h.memory, h.network⟩

end Waited

/-- A call that the network answers without a change. -/
theorem rpc_smooth {r : Rpc} {a : r.Ans} (hrun : r.run s.network = (.ok a, s.network)) :
    Smooth (Waited s) (rpc r) fun a' s' => a' = a ∧ Waited s s' := by
  refine Task.Guided.answered (fun n _ h => h.pass n) fun s' h => ⟨a, ?_, rfl, ?_⟩
  · show (r.run s'.network).1 = .ok a
    rw [h.network, hrun]
  · refine ⟨h.clock, h.db, h.memory, ?_⟩
    show (r.run s'.network).2 = s.network
    rw [h.network, hrun]

theorem note_smooth (submission : Submission) :
    Smooth (Waited s) (run (.note submission)) fun _ => Waited s :=
  Task.Guided.op fun _ h _ => h.note submission

theorem now_smooth : Smooth (Waited s) (run .now) fun _ => Waited s :=
  Task.Guided.op fun _ h _ => h

theorem readAccountSeq_smooth (source : PublicKey) :
    Smooth (Waited s) (readAccountSeq source) fun _ => Waited s := by
  refine Task.Guided.recover (E := fun _ => False) ?_ (fun _ => .pure fun _ h => h.elim)
    fun _ h => h
  exact (rpc_smooth (a := ()) rfl).mono (fun _ h => h) (fun _ _ h => h.2) fun _ h => h

/-! ## Preparing the transaction -/

theorem buildTransactionFromSlot_smooth (hok : s.network.Obliging cfg) {bundles : List SlotBundle}
    (hne : bundles ≠ [])
    (hbuilds : ∀ utxo, ∃ operations, slotOperations cfg bundles utxo = .ok operations)
    (ctx : ChannelContext) :
    Smooth (Waited s) (buildTransactionFromSlot cfg bundles ctx) fun build s' =>
      build.bundleIds = bundles.map (·.bundleId) ∧ Waited s s' := by
  obtain ⟨utxo, hutxo⟩ := hok.hasUtxo ctx
  obtain ⟨operations, hoperations⟩ := hbuilds utxo
  unfold buildTransactionFromSlot
  rw [if_neg (by simpa using hne)]
  refine (rpc_smooth (a := (some utxo, (s.network.freeUtxos ctx).length)) ?_).bind
    fun reserved => ?_
  · show (Except.ok ((s.network.freeUtxos ctx).head?, (s.network.freeUtxos ctx).length),
      s.network) = _
    rw [hutxo]
  · refine smooth_of fun hreserved => ?_
    subst hreserved
    dsimp only
    rw [hoperations]
    exact .pure fun _ h => ⟨rfl, h⟩

theorem getTransactionExpiration_smooth :
    Smooth (Waited s) (getTransactionExpiration cfg) fun _ => Waited s :=
  (rpc_smooth (a := s.network.latestLedger) rfl).bind fun _ => .pure fun _ h => h.2

theorem runPreflightOpexFeeCheck_smooth (hok : s.network.Obliging cfg)
    (operations : List MoonlightOperation) (feePayer : PublicKey) :
    Smooth (Waited s) (runPreflightOpexFeeCheck cfg operations feePayer) fun _ => Waited s := by
  obtain ⟨fee, hfee, hcovered⟩ := hok.covered operations feePayer
  unfold runPreflightOpexFeeCheck
  refine (rpc_smooth (a := s.network.accountState feePayer) rfl).bind fun account => ?_
  refine smooth_of fun haccount => ?_
  subst haccount
  refine (rpc_smooth (a := (0 : Int)) rfl).bind fun _ => ?_
  refine smooth_of fun _ => ?_
  refine (rpc_smooth (a := fee) ?_).bind fun charged => ?_
  · show (s.network.simulate operations, s.network) = _
    rw [hfee]
  · refine smooth_of fun hcharged => ?_
    subst hcharged
    have hpays : ¬ (computePreflightResult feePayer
        (((s.network.accountState feePayer).map (·.balanceStroops)).getD 0)
        (((s.network.accountState feePayer).map (·.numSubEntries)).getD 0)
        cfg.baseReserveStroops cfg.networkFee charged).shortfallStroops > 0 := by
      unfold spendable at hcovered
      simp only [computePreflightResult]
      omega
    dsimp only
    rw [if_neg hpays]
    exact .pure fun _ h => h

/-- The transaction of a slot that is not empty is built and can be paid for. -/
theorem prepareSlot_smooth (hok : s.network.Obliging cfg) {slot : Slot} {first : SlotBundle}
    (hne : slot.bundles ≠ [])
    (hbuilds : ∀ utxo, ∃ operations, slotOperations cfg slot.bundles utxo = .ok operations) :
    Smooth (Waited s) (prepareSlot cfg slot first) fun prepared s' =>
      prepared.1.bundleIds = slot.bundles.map (·.bundleId) ∧ Waited s s' := by
  obtain ⟨ctx, hctx⟩ := hok.resolves first.channelContractId first.ppPublicKey
  unfold prepareSlot
  refine (rpc_smooth (a := ctx) ?_).bind fun ctx' => ?_
  · show (s.network.context _ _, s.network) = _
    rw [hctx]
  · refine smooth_of fun _ => ?_
    refine (buildTransactionFromSlot_smooth hok hne hbuilds ctx').bind fun build => ?_
    refine smooth_of fun hids => ?_
    refine getTransactionExpiration_smooth.bind fun expiration => ?_
    refine (runPreflightOpexFeeCheck_smooth hok _ _).bind fun _ => ?_
    exact .pure fun _ h => ⟨hids, h⟩

/-! ## Submitting it -/

/-- The network has accepted one more transaction. -/
def State.accepting (s : State) (hash : TxHash) : State :=
  { s with network := { s.network with accepted := hash :: s.network.accepted } }

theorem invokeRaw_smooth (hok : s.network.Obliging cfg) (ctx : ChannelContext)
    (operations : List MoonlightOperation) :
    Smooth (Waited s) (rpc (.invokeRaw ctx operations)) fun hash s' =>
      hash ∉ s.network.accepted ∧ Waited (s.accepting hash) s' := by
  refine Task.Guided.answered (fun n _ h => h.pass n) fun s' h => ?_
  obtain ⟨hash, hinvoke, hnew⟩ := hok.accepts operations
  have hrun : (Rpc.invokeRaw ctx operations).run s'.network =
      (.ok hash, { s.network with accepted := hash :: s.network.accepted }) := by
    rw [h.network]
    simp [Rpc.run, hinvoke, hnew]
  refine ⟨hash, congrArg Prod.fst hrun, hnew, h.clock, h.db, h.memory, ?_⟩
  exact congrArg Prod.snd hrun

theorem submitTransactionToNetwork_smooth (hok : s.network.Obliging cfg)
    (operations : List MoonlightOperation) (expiration : Nat) (channel : ContractId)
    (pp : PublicKey) :
    Smooth (Waited s) (submitTransactionToNetwork cfg operations expiration channel pp)
      fun hash s' => hash ∉ s.network.accepted ∧ Waited (s.accepting hash) s' := by
  obtain ⟨ctx, hctx⟩ := hok.resolves channel pp
  unfold submitTransactionToNetwork
  refine (rpc_smooth (a := ctx) ?_).bind fun ctx' => ?_
  · show (s.network.context _ _, s.network) = _
    rw [hctx]
  · refine smooth_of fun _ => ?_
    refine (readAccountSeq_smooth _).bind fun _ => ?_
    refine (rpc_smooth (a := ()) rfl).bind fun _ => ?_
    refine smooth_of fun _ => ?_
    refine Task.Guided.recover (E := fun _ => False) ?_
      (fun e bs s' _ h => h.elim) fun _ h => h
    refine (invokeRaw_smooth hok _ _).bind fun hash => ?_
    refine smooth_of fun hnew => ?_
    refine (readAccountSeq_smooth _).bind fun _ => ?_
    exact .pure fun _ h => ⟨hnew, h⟩

/-! ## Recording it -/

theorem State.Intact.of_db (h : s.Intact) (hdb : s'.db = s.db) : s'.Intact :=
  h.same (fun _ => by rw [hdb]) (fun _ => by rw [hdb]) fun _ => by rw [hdb]

/-- While the bundles are linked to a transaction that has a row: the links of
`rest` are missing. -/
structure Filing (s : State) (hash : TxHash) (ids rest : List BundleId) (s' : State) : Prop where
  clock : s.clock ≤ s'.clock
  memory : s'.memory = s.memory
  network : s'.network = s.network
  bundles : s'.db.operationsBundles = s.db.operationsBundles
  known : ∀ other, (s'.db.transactions.find other).isSome = true →
    other = hash ∨ (s.db.transactions.find other).isSome = true
  opened : s'.Open hash
  intact : s'.Intact
  nodup : rest.Nodup
  listed : rest ⊆ ids
  missing : ∀ id ∈ rest, s'.db.bundlesTransactions.find (id, hash) = none
  linked : ∀ id ∈ ids, id ∈ rest ∨ s'.Awaited id

variable {hash : TxHash} {ids rest : List BundleId} {x : BundleId}

theorem Filing.later {s'' : State} (h : Filing s hash ids rest s') (hclock : s'.clock ≤ s''.clock)
    (hdb : s''.db = s'.db) (hmemory : s''.memory = s'.memory)
    (hnetwork : s''.network = s'.network) :
    Filing s hash ids rest s'' where
  clock := h.clock.trans hclock
  memory := hmemory.trans h.memory
  network := hnetwork.trans h.network
  bundles := by rw [hdb]; exact h.bundles
  known := by rw [hdb]; exact h.known
  opened := by rw [State.Open, hdb]; exact h.opened
  intact := h.intact.of_db hdb
  nodup := h.nodup
  listed := h.listed
  missing := by rw [hdb]; exact h.missing
  linked id hid := (h.linked id hid).imp_right fun hawaited => by
    rw [State.Awaited, hdb]
    exact hawaited

theorem Filing.pass (h : Filing s hash ids rest s') (n : Nat) :
    Filing s hash ids rest (host.pass n s') := by
  refine h.later ?_ rfl rfl rfl
  show s'.clock ≤ s'.clock + n
  unfold Time at *
  omega

/-- A link that is inserted beside the others. -/
theorem awaited_insert {t : Store.Table BundleTransaction.key} {link : BundleTransaction}
    {id : BundleId} (hinsert : s.db.bundlesTransactions.insert? link = some t) (hdb : s'.db =
      { s.db with bundlesTransactions := t }) (h : s.Awaited id) : s'.Awaited id := by
  obtain ⟨txId, transaction, hrow, hlive, hstatus, old, hold, hdeleted⟩ := awaited_iff.mp h
  rw [awaited_iff, hdb]
  refine ⟨txId, transaction, hrow, hlive, hstatus, old, ?_, hdeleted⟩
  rw [Store.Table.find_insert hinsert, if_neg, hold]
  intro hkey
  have hnone := (Store.Table.insert?_eq_some hinsert).1
  rw [hkey, hold] at hnone
  cases hnone

/-- The links are made one after the other. -/
theorem createLink_smooth (hrows : ∀ id ∈ ids, s.HasRow id) :
    Smooth (Filing s hash ids (x :: rest)) (createLink hash x) fun _ => Filing s hash ids rest := by
  have hnow : Smooth (Filing s hash ids (x :: rest)) (run .now)
      fun _ => Filing s hash ids (x :: rest) := Task.Guided.op fun _ h _ => h
  refine hnow.bind fun now => ?_
  have hcreate (data : NewBundleTransaction) (hbundle : data.bundleId = x)
      (htx : data.transactionId = hash) : Smooth (Filing s hash ids (x :: rest))
      (command (.createLink data)) fun _ => Filing s hash ids rest := by
    refine Task.Guided.answered (fun n _ h => h.pass n) fun s' h => ?_
    obtain ⟨hnotin, hnodup⟩ := List.nodup_cons.mp h.nodup
    have hkey : (data.row s'.clock).key = (x, hash) := by rw [← hbundle, ← htx]; rfl
    have hrow : (s'.db.operationsBundles.find x).isSome = true := by
      rw [h.bundles]
      exact hrows x (h.listed List.mem_cons_self)
    obtain ⟨transaction, hfound, hlive, hstatus⟩ := h.opened
    cases hinsert : s'.db.bundlesTransactions.insert? (data.row s'.clock) with
    | none =>
      obtain ⟨link, hlink⟩ := Store.Table.insert?_eq_none hinsert
      have hmissing := h.missing x List.mem_cons_self
      rw [← hkey, hlink] at hmissing
      cases hmissing
    | some t =>
      have hrun : (Command.createLink data).run s'.clock s'.db =
          (.ok (data.row s'.clock), { s'.db with bundlesTransactions := t }) := by
        simp [Command.run, Database.hasBundle, hbundle, htx, hrow, hfound, hinsert]
      have hdb : (serve (.command (.createLink data)) s').2.db =
          { s'.db with bundlesTransactions := t } := congrArg Prod.snd hrun
      refine ⟨data.row s'.clock, congrArg Prod.fst hrun, ?_⟩
      refine
        { clock := h.clock
          memory := h.memory
          network := h.network
          bundles := ?_
          known := ?_
          opened := ?_
          intact := h.intact.serve _
          nodup := hnodup
          listed := fun id hid => h.listed (.tail x hid)
          missing := fun id hid => ?_
          linked := fun id hid => ?_ }
      · show (serve (.command (.createLink data)) s').2.db.operationsBundles = _
        rw [hdb]
        exact h.bundles
      · show ∀ other,
          ((serve (.command (.createLink data)) s').2.db.transactions.find other).isSome = true → _
        rw [hdb]
        exact h.known
      · show (serve (.command (.createLink data)) s').2.Open hash
        rw [State.Open, hdb]
        exact h.opened
      · show (serve (.command (.createLink data)) s').2.db.bundlesTransactions.find (id, hash) =
          none
        rw [hdb]
        show t.find (id, hash) = none
        rw [Store.Table.find_insert hinsert, hkey, if_neg, h.missing id (.tail x hid)]
        intro hsame
        exact hnotin ((Prod.mk.inj hsame).1 ▸ hid)
      · rcases h.linked id hid with hrest | hawaited
        · rcases List.mem_cons.mp hrest with rfl | hrest
          · right
            show (serve (.command (.createLink data)) s').2.Awaited id
            rw [awaited_iff, hdb]
            refine ⟨hash, transaction, hfound, hlive, hstatus, data.row s'.clock, ?_, rfl⟩
            show t.find (id, hash) = _
            rw [Store.Table.find_insert hinsert, if_pos hkey]
          · exact .inl hrest
        · exact .inr (awaited_insert hinsert hdb hawaited)
  exact (hcreate _ rfl rfl).bind fun _ => .pure fun _ h => h

/-- The transaction has no row, and then it has one and its bundles are linked to it. -/
theorem createTransactionRecord_smooth (hintact : s.Intact) (hnodup : ids.Nodup)
    (hrows : ∀ id ∈ ids, s.HasRow id) (hnew : s.db.transactions.find hash = none) :
    Smooth (Waited s) (createTransactionRecord cfg hash ids) fun _ => Filing s hash ids [] := by
  unfold createTransactionRecord
  refine (rpc_smooth (a := s.network.latestLedger) rfl).bind fun _ => ?_
  refine smooth_of fun _ => ?_
  refine now_smooth.bind fun now => ?_
  have hcreate (data : NewTransaction) (hid : data.id = hash)
      (hstatus : data.status = .unverified) :
      Smooth (Waited s) (command (.createTransaction data)) fun _ => Filing s hash ids ids := by
    refine Task.Guided.answered (fun n _ h => h.pass n) fun s' h => ?_
    have hkey : (data.row s'.clock).id = hash := hid
    have hnone : s'.db.transactions.find hash = none := by rw [h.db]; exact hnew
    cases hinsert : s'.db.transactions.insert? (data.row s'.clock) with
    | none =>
      obtain ⟨row, hrow⟩ := Store.Table.insert?_eq_none hinsert
      rw [hkey, hnone] at hrow
      cases hrow
    | some t =>
      have hrun : (Command.createTransaction data).run s'.clock s'.db =
          (.ok (data.row s'.clock), { s'.db with transactions := t }) := by
        simp [Command.run, hinsert]
      have hfind (other : TxHash) : t.find other =
          if hash = other then some (data.row s'.clock) else s.db.transactions.find other := by
        rw [Store.Table.find_insert hinsert, hkey, h.db]
      have hdb : (serve (.command (.createTransaction data)) s').2.db =
          { s'.db with transactions := t } := congrArg Prod.snd hrun
      refine ⟨data.row s'.clock, congrArg Prod.fst hrun, ?_⟩
      refine
        { clock := h.clock
          memory := h.memory
          network := h.network
          bundles := ?_
          known := fun other hother => ?_
          opened := ?_
          intact := (hintact.of_db h.db).serve _
          nodup := hnodup
          listed := List.Subset.refl _
          missing := fun id _ => ?_
          linked := fun id hid => .inl hid }
      · show (serve (.command (.createTransaction data)) s').2.db.operationsBundles = _
        rw [hdb, h.db]
      · have hother : (t.find other).isSome = true := by
          rw [← show (serve (.command (.createTransaction data)) s').2.db.transactions = t by
            rw [hdb]]
          exact hother
        rw [hfind] at hother
        split at hother
        · exact .inl (Eq.symm ‹_›)
        · exact .inr hother
      · show (serve (.command (.createTransaction data)) s').2.Open hash
        rw [State.Open, hdb]
        exact ⟨data.row s'.clock, by rw [hfind, if_pos rfl], rfl, hstatus⟩
      · show (serve (.command (.createTransaction data)) s').2.db.bundlesTransactions.find
          (id, hash) = none
        rw [hdb, h.db]
        cases hlink : s.db.bundlesTransactions.find (id, hash) with
        | none => rfl
        | some link =>
          have hreferenced := hintact.referenced _ _ hlink
          rw [hnew] at hreferenced
          cases hreferenced
  refine (hcreate _ rfl rfl).bind fun _ => ?_
  exact Task.Guided.forEach fun x rest => createLink_smooth hrows

/-- Every transaction that has a row was accepted. -/
def State.TransactionsAccepted (s : State) : Prop :=
  ∀ hash, (s.db.transactions.find hash).isSome = true → hash ∈ s.network.accepted

/-- The slot has been sent under a new hash, and its bundles are linked to it. -/
def Filed (s : State) (ids : List BundleId) (s' : State) : Prop :=
  ∃ hash, hash ∉ s.network.accepted ∧ Filing (s.accepting hash) hash ids [] s'

theorem submitSlot_smooth (hok : s.network.Obliging cfg) (hintact : s.Intact)
    (haccepted : s.TransactionsAccepted) {slot : Slot} {first : SlotBundle}
    {build : TransactionBuildResult} {expiration : Nat} (hids : build.bundleIds = ids)
    (hnodup : ids.Nodup) (hrows : ∀ id ∈ ids, s.HasRow id) :
    Smooth (Waited s) (submitSlot cfg slot first build expiration) fun _ => Filed s ids := by
  unfold submitSlot
  rw [hids]
  refine (note_smooth _).bind fun _ => ?_
  refine (submitTransactionToNetwork_smooth hok _ _ _ _).bind fun hash => ?_
  refine smooth_of fun hnew => ?_
  have hnone : s.db.transactions.find hash = none := by
    by_contra hrow
    exact hnew (haccepted hash (Option.isSome_iff_ne_none.mpr hrow))
  have hintact' : (s.accepting hash).Intact := hintact.of_db rfl
  refine (note_smooth _).bind fun _ => ?_
  refine (createTransactionRecord_smooth hintact' hnodup hrows hnone).bind fun _ => ?_
  refine (emitForBundles_smooth ?_ (fun n _ h => h.pass n) _ _).mono (fun _ h => h)
    (fun _ _ h => ⟨hash, hnew, h⟩) fun _ h => h
  exact fun _ _ _ h => h.later (le_refl _) rfl rfl rfl

theorem executeSlot_smooth (hok : s.network.Obliging cfg) (hintact : s.Intact)
    (haccepted : s.TransactionsAccepted) {slot : Slot} (hne : slot.bundles ≠ [])
    (hexecutable : slot.Executable cfg) (hnodup : (slot.bundles.map (·.bundleId)).Nodup)
    (hrows : ∀ b ∈ slot.bundles, s.HasRow b.bundleId) :
    Smooth (Waited s) (executeSlot cfg slot) fun _ => Filed s (slot.bundles.map (·.bundleId)) := by
  obtain ⟨first, rest, hbundles⟩ := List.exists_cons_of_ne_nil hne
  have hfirst : slot.getBundles.head? = some first := by rw [Slot.getBundles, hbundles]; rfl
  obtain ⟨hchannel, hpp⟩ := hexecutable.named first (by rw [hbundles]; exact List.mem_cons_self)
  unfold executeSlot
  rw [hfirst]
  simp only [if_neg hchannel, if_neg hpp]
  refine (prepareSlot_smooth hok hne (hexecutable.builds _ (List.Sublist.refl _) hne)).bind
    fun prepared => ?_
  refine smooth_of fun hids => ?_
  refine submitSlot_smooth hok hintact haccepted hids hnodup fun id hid => ?_
  obtain ⟨b, hb, rfl⟩ := List.mem_map.mp hid
  exact hrows b hb

/-! ## The TTL gate -/

/-- The row of the bundle is neither PENDING nor PROCESSING. -/
def State.Inactive (s : State) (id : BundleId) : Prop :=
  ∃ F, s.status id = some F ∧ F ∉ BundleStatus.active

/-- Rows of bundles change from an active status to EXPIRED, if at all. -/
def Expires (s s' : State) : Prop :=
  ∀ id, s'.status id = s.status id ∨
    (∃ F ∈ BundleStatus.active, s.status id = some F) ∧ s'.status id = some .expired

theorem Expires.refl (s : State) : Expires s s := fun _ => .inl rfl

theorem Expires.trans {s'' : State} (h : Expires s s') (h' : Expires s' s'') : Expires s s'' := by
  intro id
  rcases h' id with hsame' | ⟨⟨F, hF, hactive'⟩, hexpired'⟩
  · rw [hsame']
    exact h id
  · rcases h id with hsame | ⟨hactive, -⟩
    · exact .inr ⟨⟨F, hF, hsame ▸ hactive'⟩, hexpired'⟩
    · exact .inr ⟨hactive, hexpired'⟩

theorem Expires.inactive (h : Expires s s') (hid : s.Inactive x) : s'.Inactive x := by
  obtain ⟨F, hF, hnot⟩ := hid
  rcases h x with hsame | ⟨-, hexpired⟩
  · exact ⟨F, hsame.trans hF, hnot⟩
  · exact ⟨.expired, hexpired, by decide⟩

theorem Expires.hasRow (h : Expires s s') (hid : s.HasRow x) : s'.HasRow x := by
  have hsome : (s.status x).isSome = true := by simpa [State.status, State.HasRow] using hid
  have hkept : (s'.status x).isSome = true := by
    rcases h x with hsame | ⟨-, hexpired⟩
    · rwa [hsame]
    · rw [hexpired]
      rfl
  simpa [State.status, State.HasRow] using hkept

/-- The update that marks a bundle EXPIRED, on a table without soft-deleted rows. -/
theorem expire_status (hintact : s.Intact) (id : BundleId) :
    Expires s (serve (.command (.updateStatusIfActive id .expired BundleStatus.active)) s).2 ∧
      (s.HasRow id →
        (serve (.command (.updateStatusIfActive id .expired BundleStatus.active)) s).2.Inactive
          id) := by
  have hstatus (other : BundleId) :
      (serve (.command (.updateStatusIfActive id .expired BundleStatus.active)) s).2.status other =
        (s.db.operationsBundles.find other).map fun row =>
          if other = id ∧ row.status ∈ BundleStatus.active then .expired else row.status := by
    unfold State.status
    rw [updateStatusIfActive_find, Option.map_map]
    refine Option.map_congr fun row hrow => ?_
    have hkey : row.id = other := Store.Table.find_key hrow
    have hkept : row.deletedAt = none := hintact.kept other row hrow
    have hactive : row.isIn BundleStatus.active = decide (row.status ∈ BundleStatus.active) := by
      simp [OperationsBundle.isIn, hkept]
    simp only [Function.comp_apply, hkey, hactive, Bool.and_eq_true, beq_iff_eq, decide_eq_true_eq]
    split
    · rfl
    · rfl
  constructor
  · intro other
    rw [hstatus, State.status]
    cases s.db.operationsBundles.find other with
    | none => exact .inl rfl
    | some row =>
      by_cases hexpires : other = id ∧ row.status ∈ BundleStatus.active
      · exact .inr ⟨⟨row.status, hexpires.2, rfl⟩, by simp [hexpires]⟩
      · exact .inl (by simp [hexpires])
  · intro hrow
    obtain ⟨row, hrow⟩ := Option.isSome_iff_exists.mp hrow
    rw [State.Inactive, hstatus, hrow, Option.map_some]
    by_cases hactive : row.status ∈ BundleStatus.active
    · exact ⟨.expired, by simp [hactive], by decide⟩
    · exact ⟨row.status, by simp [hactive], hactive⟩

/-- At the gate: only rows of bundles have changed. -/
structure AtGate (s s' : State) : Prop where
  clock : s.clock ≤ s'.clock
  memory : s'.memory = s.memory
  network : s'.network = s.network
  transactions : s'.db.transactions = s.db.transactions
  intact : s'.Intact
  expires : Expires s s'

theorem AtGate.pass (h : AtGate s s') (n : Nat) : AtGate s (host.pass n s') where
  clock := by
    have hclock := h.clock
    show s.clock ≤ s'.clock + n
    unfold Time at *
    omega
  memory := h.memory
  network := h.network
  transactions := h.transactions
  intact := h.intact.of_db rfl
  expires := h.expires

theorem AtGate.emit (h : AtGate s s') (scope : EventScope) (payload : EventPayload) :
    AtGate s (runOp (.emit scope payload) s').2 :=
  ⟨h.clock, h.memory, h.network, h.transactions, h.intact.of_db rfl, h.expires⟩

theorem AtGate.evict (h : AtGate s s') (id : BundleId) :
    AtGate s (serve (.command (.updateStatusIfActive id .expired BundleStatus.active)) s').2 where
  clock := h.clock
  memory := h.memory
  network := h.network
  transactions := h.transactions
  intact := h.intact.serve _
  expires := h.expires.trans (expire_status h.intact id).1

/-- The bundles of `expired` but those of `rest` have been marked. -/
def Gating (s : State) (expired rest : List SlotBundle) (s' : State) : Prop :=
  AtGate s s' ∧ ∀ b ∈ expired, b ∈ rest ∨ s'.Inactive b.bundleId

theorem persistEviction_smooth {expired rest : List SlotBundle} {b : SlotBundle}
    (hrow : s.HasRow b.bundleId) :
    Smooth (Gating s expired (b :: rest)) (persistEviction b) fun _ => Gating s expired rest := by
  have hwrite : Smooth (Gating s expired (b :: rest))
      (command (.updateStatusIfActive b.bundleId .expired BundleStatus.active))
      fun _ => Gating s expired rest := by
    refine Task.Guided.answered (fun n s' h => ⟨h.1.pass n, h.2⟩) fun s' h => ⟨_, rfl, ?_⟩
    obtain ⟨hexpires, hinactive⟩ := expire_status h.1.intact b.bundleId
    refine ⟨h.1.evict _, fun b' hb' => ?_⟩
    rcases h.2 b' hb' with hrest | hmarked
    · rcases List.mem_cons.mp hrest with rfl | hrest
      · exact .inr (hinactive (h.1.expires.hasRow hrow))
      · exact .inl hrest
    · exact .inr (hexpires.inactive hmarked)
  refine Task.Guided.recover (E := fun _ => False) (hwrite.bind fun _ => ?_)
    (fun _ => .pure fun _ h => h.elim) fun _ h => h
  exact emitForPp_smooth (fun _ _ _ h => ⟨h.1.emit _ _, h.2⟩) (fun n _ h => ⟨h.1.pass n, h.2⟩) _ _

/-- What the gate leaves of a slot, and what becomes of the rest of it. -/
structure GatedTo (slot left : Slot) (s s' : State) : Prop where
  gate : AtGate s s'
  sublist : left.bundles.Sublist slot.bundles
  evicted : ∀ b ∈ slot.bundles, b ∈ left.bundles ∨
    b.ttl ≤ s'.clock ∧ s'.Inactive b.bundleId

theorem expireSlotBundlesPastTtl_smooth (hintact : s.Intact) {slot : Slot}
    (hnodup : (slot.bundles.map (·.bundleId)).Nodup)
    (hrows : ∀ b ∈ slot.bundles, s.HasRow b.bundleId) :
    Smooth (· = s) (expireSlotBundlesPastTtl slot) fun left => GatedTo slot left s := by
  have hnow : Smooth (· = s) (run .now) fun now s' => now = s.clock ∧ s' = s :=
    Task.Guided.op fun s' h _ => by
      subst h
      exact ⟨rfl, rfl⟩
  refine hnow.bind fun now => smooth_of fun hnow => ?_
  subst hnow
  let expired := slot.getBundles.filter (isBundleExpired s.clock)
  have hloop (rest : List SlotBundle) (hrest : rest ⊆ expired) :
      Smooth (Gating s expired rest) (Task.forEach persistEviction rest)
        fun _ => Gating s expired [] := by
    induction rest with
    | nil => exact .pure fun _ h => h
    | cons b rest ih =>
      obtain ⟨hb, hrest⟩ := List.cons_subset.mp hrest
      have hmem : b ∈ slot.bundles := (List.mem_filter.mp hb).1
      exact (persistEviction_smooth (hrows b hmem)).bind fun _ => ih hrest
  refine ((hloop expired (List.Subset.refl _)).mono ?_ (fun _ _ h => h) fun _ h => h).bind
    fun _ => .pure fun s' h => ?_
  · rintro _ rfl
    exact ⟨⟨le_refl _, rfl, rfl, rfl, hintact, .refl _⟩, fun b hb => .inl hb⟩
  · have hleft := Slot.removeWhere_bundles hnodup (isBundleExpired s.clock)
    refine ⟨h.1, hleft ▸ List.filter_sublist, fun b hb => ?_⟩
    rw [hleft, List.mem_filter]
    cases hexpired : isBundleExpired s.clock b with
    | false => exact .inl ⟨hb, rfl⟩
    | true =>
      have hmarked := (h.2 b (List.mem_filter.mpr ⟨hb, hexpired⟩)).resolve_left List.not_mem_nil
      have hclock := h.1.clock
      have httl : b.ttl ≤ s.clock := by simpa [isBundleExpired] using hexpired
      exact .inr ⟨httl.trans hclock, hmarked⟩

/-! ## The tick -/

/-- What an undisturbed tick comes to for the bundles it pulled. -/
structure Processed (bundles : List SlotBundle) (s s' : State) : Prop where
  clock : s.clock ≤ s'.clock
  memory : s'.memory = s.memory
  intact : s'.Intact
  accepted : s'.TransactionsAccepted
  expires : Expires s s'
  passed : ∀ b ∈ bundles, s'.Awaited b.bundleId ∨ b.ttl ≤ s'.clock ∧ s'.Inactive b.bundleId

theorem AtGate.accepted (h : AtGate s s') (haccepted : s.TransactionsAccepted) :
    s'.TransactionsAccepted := by
  rw [State.TransactionsAccepted, h.transactions, h.network]
  exact haccepted

theorem Filing.status (h : Filing s hash ids rest s') (id : BundleId) :
    s'.status id = s.status id := by
  rw [State.status, State.status, h.bundles]

theorem Filing.accepted (h : Filing (s.accepting hash) hash ids rest s')
    (haccepted : s.TransactionsAccepted) : s'.TransactionsAccepted := by
  intro other hother
  rw [h.network]
  rcases h.known other hother with rfl | hold
  · exact List.mem_cons_self
  · exact List.mem_cons_of_mem _ (haccepted other hold)

theorem processSlot_smooth (hok : s.network.Obliging cfg) (hintact : s.Intact)
    (haccepted : s.TransactionsAccepted) {pulled : Slot} (hexecutable : pulled.Executable cfg)
    (hnodup : (pulled.bundles.map (·.bundleId)).Nodup)
    (hrows : ∀ b ∈ pulled.bundles, s.HasRow b.bundleId) :
    Smooth (· = s) (processSlot cfg pulled) fun _ => Processed pulled.bundles s := by
  refine (expireSlotBundlesPastTtl_smooth hintact hnodup hrows).bind fun left => ?_
  refine Task.Guided.of_state fun s₁ h => ?_
  split
  · rename_i hempty
    have hnil : left.bundles = [] := List.isEmpty_iff.mp hempty
    refine .pure fun s' hs' => ?_
    subst hs'
    refine ⟨h.gate.clock, h.gate.memory, h.gate.intact, h.gate.accepted haccepted, h.gate.expires,
      fun b hb => .inr ?_⟩
    exact (h.evicted b hb).resolve_left (by rw [hnil]; exact List.not_mem_nil)
  · rename_i hnonempty
    have hne : left.bundles ≠ [] := fun hnil => hnonempty (List.isEmpty_iff.mpr hnil)
    have hexecutable' : left.Executable cfg :=
      ⟨fun b hb => hexecutable.named b (h.sublist.subset hb),
        fun bundles hsub => hexecutable.builds bundles (hsub.trans h.sublist)⟩
    have hok' : s₁.network.Obliging cfg := h.gate.network ▸ hok
    have hrows' : ∀ b ∈ left.bundles, s₁.HasRow b.bundleId := fun b hb =>
      h.gate.expires.hasRow (hrows b (h.sublist.subset hb))
    have hexecute := executeSlot_smooth hok' h.gate.intact (h.gate.accepted haccepted) hne
      hexecutable' ((h.sublist.map _).nodup hnodup) hrows'
    refine Task.Guided.recover (E := fun _ => False) (hexecute.mono ?_ ?_ fun _ h => h)
      (fun e bs s' _ hs' => hs'.elim) fun _ h => h
    · rintro _ rfl
      exact .refl _
    · rintro _ s₂ ⟨hash, -, hfiled⟩
      have hclock : s₁.clock ≤ s₂.clock := hfiled.clock
      have hexpires : Expires s₁ s₂ := fun id => .inl (hfiled.status id)
      refine ⟨h.gate.clock.trans hclock, hfiled.memory.trans h.gate.memory, hfiled.intact,
        hfiled.accepted (h.gate.accepted haccepted), h.gate.expires.trans hexpires, fun b hb => ?_⟩
      rcases h.evicted b hb with hleft | ⟨httl, hinactive⟩
      · exact .inl ((hfiled.linked _ (List.mem_map_of_mem hleft)).resolve_left List.not_mem_nil)
      · exact .inr ⟨httl.trans hclock, hexpires.inactive hinactive⟩

/-- The slots of the queue can be executed, and the bookkeeping is in order. -/
structure State.Serviceable (cfg : Config) (s : State) : Prop where
  idle : s.memory.isProcessing = false
  once : s.memory.mempool.queuedIds.Nodup
  rows : ∀ id ∈ s.memory.mempool.queuedIds, s.HasRow id
  executable : ∀ slot ∈ s.memory.mempool.slots, slot.Executable cfg
  intact : s.Intact
  accepted : s.TransactionsAccepted

/-- The bundles that the next tick pulls. -/
def State.pulled (s : State) : List SlotBundle :=
  (s.memory.mempool.removeFirstSlot.1.map (·.bundles)).getD []

/-- The state after a tick: the first slot is out of the queue. -/
def Ticked (s : State) : State → Prop :=
  Processed s.pulled
    { s with memory := { s.memory with mempool := s.memory.mempool.removeFirstSlot.2 } }

theorem executeNext_smooth (hs : s.Serviceable cfg) (hok : s.network.Obliging cfg) :
    Smooth (· = s) (executeNext cfg) fun _ => Ticked s := by
  have hread : Smooth (· = s) (run .isProcessing) fun b s' => b = false ∧ s' = s :=
    Task.Guided.op fun s' h _ => by
      subst h
      exact ⟨hs.idle, rfl⟩
  refine hread.bind fun isProcessing => smooth_of fun hidle => ?_
  subst hidle
  let busy : State := { s with memory := { s.memory with isProcessing := true } }
  let taken : State := { s with memory := ⟨s.memory.mempool.removeFirstSlot.2, true,
    s.memory.started, s.memory.disabledChannels⟩ }
  have hset : Smooth (· = s) (run (.setProcessing true)) fun _ s' => s' = busy :=
    Task.Guided.op fun s' h _ => by
      subst h
      rfl
  refine hset.bind fun _ => Task.Guided.ensure (E := fun _ => False)
    (B := fun _ => Processed s.pulled taken) ?_ (fun _ s' h => ?_) (fun _ h => h) fun _ h => h
  · have hremove : Smooth (· = busy) (run .removeFirstSlot) fun found s' =>
        found = s.memory.mempool.removeFirstSlot.1 ∧ s' = taken :=
      Task.Guided.op fun s' h _ => by
        subst h
        exact ⟨rfl, rfl⟩
    refine hremove.bind fun found => smooth_of fun hfound => ?_
    have hdone (hnil : s.pulled = []) : Processed s.pulled taken taken :=
      ⟨le_refl _, rfl, hs.intact.of_db rfl, hs.accepted, .refl _, by rw [hnil]; simp⟩
    cases found with
    | none =>
      refine .pure fun s' h => ?_
      subst h
      exact hdone (by rw [State.pulled, ← hfound]; rfl)
    | some slot =>
      have hbundles : s.pulled = slot.bundles := by rw [State.pulled, ← hfound]; rfl
      dsimp only
      split
      · rename_i hempty
        refine .pure fun s' h => ?_
        subst h
        exact hdone (hbundles.trans (List.isEmpty_iff.mp hempty))
      · have hqueue := Mempool.queued_of_removeFirstSlot hfound.symm
        have hmem : slot ∈ s.memory.mempool.slots := by
          unfold Mempool.removeFirstSlot at hfound
          split at hfound
          · cases hfound
          · rename_i hslots
            cases hfound
            rw [hslots]
            exact List.mem_cons_self
        have honce := hs.once
        rw [Mempool.queuedIds, hqueue, List.map_append] at honce
        rw [hbundles]
        refine processSlot_smooth (s := taken) hok (hs.intact.of_db rfl) hs.accepted
          (hs.executable slot hmem) honce.of_append_left fun b hb => ?_
        refine hs.rows _ ?_
        rw [Mempool.queuedIds, hqueue, List.map_append]
        exact List.mem_append_left _ (List.mem_map_of_mem hb)
  · have hmemory : s'.memory = taken.memory := h.memory
    refine ⟨h.clock, ?_, h.intact.of_db rfl, h.accepted, h.expires, h.passed⟩
    show { s'.memory with isProcessing := false } = _
    rw [hmemory, ← hs.idle]

end Parts

end ProviderPlatform
