import ProviderPlatform.Async.Log
import ProviderPlatform.Footprint

/-! # What a tick submits

Before a tick of the executor sends a transaction it has pulled a slot, put it
through the TTL gate, reserved a UTXO for the fee, built the operations, had
just those operations simulated and found the fee payer able to pay. All of
that is in the log of the tick, and a tick sends one transaction at most. -/
namespace ProviderPlatform
open Async Task

/-! ## What a log shows -/

/-- What a step sends to the network. -/
def submission : Step platform State → Option (ChannelContext × List MoonlightOperation)
  | .served _ (.rpc (.invokeRaw ctx operations)) => some (ctx, operations)
  | .rejected _ (.rpc (.invokeRaw ctx operations)) _ => some (ctx, operations)
  | _ => none

abbrev TickLog := List (Step platform State)

/-- The slot is what the TTL gate left of a slot that the tick pulled. -/
def Gated (slot : Slot) (log : TickLog) : Prop :=
  ∃ s s' pulled, .ran s .removeFirstSlot ∈ log ∧
    s.memory.mempool.removeFirstSlot.1 = some pulled ∧ .ran s' .now ∈ log ∧
    slot = pulled.removeWhere (isBundleExpired s'.clock)

/-- The channel and the PP of the bundle were resolved to the context. -/
def Resolved (first : SlotBundle) (ctx : ChannelContext) (log : TickLog) : Prop :=
  ∃ s, .served s (.rpc (.resolveChannelContext first.channelContractId first.ppPublicKey)) ∈ log ∧
    s.network.context first.channelContractId first.ppPublicKey = .ok ctx

/-- The operations are those of the slot, after the fee to a UTXO that was free. -/
def BuiltOf (cfg : Config) (slot : Slot) (ctx : ChannelContext)
    (operations : List MoonlightOperation) (log : TickLog) : Prop :=
  ∃ s utxo, .served s (.rpc (.reserveUTXOs ctx)) ∈ log ∧
    (s.network.freeUtxos ctx).head? = some utxo ∧
    slotOperations cfg slot.bundles utxo = .ok operations

/-- What an account can spend above its reserve; one that is missing has nothing. -/
def spendable (cfg : Config) (account : Option AccountState) : Int :=
  (account.map (·.balanceStroops)).getD 0 -
    (2 + (account.map (·.numSubEntries)).getD 0) * cfg.baseReserveStroops

/-- The operations were simulated, and the fee payer could spend their fee. -/
def Covered (cfg : Config) (feePayer : PublicKey) (operations : List MoonlightOperation)
    (log : TickLog) : Prop :=
  ∃ s s' fee, .served s (.rpc (.fetchFeePayerAccountState feePayer)) ∈ log ∧
    .served s' (.rpc (.simulateTransaction operations feePayer)) ∈ log ∧
    s'.network.simulate operations = .ok fee ∧
    cfg.networkFee + fee ≤ spendable cfg (s.network.accountState feePayer)

/-- The operations of a slot are ready to be sent. -/
structure Ready (cfg : Config) (slot : Slot) (first : SlotBundle)
    (operations : List MoonlightOperation) (log : TickLog) : Prop where
  gated : Gated slot log
  built : ∃ ctx, Resolved first ctx log ∧ BuiltOf cfg slot ctx operations log
  covered : Covered cfg first.ppPublicKey operations log

/-- They are the operations of a slot, sent with the context of its first bundle. -/
def Prepared (cfg : Config) (ctx : ChannelContext) (operations : List MoonlightOperation)
    (log : TickLog) : Prop :=
  ∃ slot first, slot.bundles.head? = some first ∧ Ready cfg slot first operations log ∧
    Resolved first ctx log

def Unsubmitted (log : TickLog) : Prop := ∀ st ∈ log, submission st = none

/-- What the step sends was prepared before, and it is the first. -/
def SendsPrepared (cfg : Config) (log : TickLog) (st : Step platform State) : Prop :=
  ∀ ctx operations, submission st = some (ctx, operations) →
    Prepared cfg ctx operations log ∧ Unsubmitted log

section Facts
variable {cfg : Config} {slot : Slot} {first : SlotBundle} {ctx : ChannelContext}
  {operations : List MoonlightOperation} {log : TickLog} {st : Step platform State}

/-- Holds of every longer log. -/
def Lasting (F : TickLog → Prop) : Prop := ∀ log st, F log → F (log ++ [st])

theorem Lasting.and {F G : TickLog → Prop} (hF : Lasting F) (hG : Lasting G) :
    Lasting fun log => F log ∧ G log := fun log st h => ⟨hF log st h.1, hG log st h.2⟩

theorem lasting_true : Lasting fun _ => True := fun _ _ _ => trivial

theorem lasting_mem {st : Step platform State} : Lasting (st ∈ ·) :=
  fun _ _ h => List.mem_append_left _ h

theorem lasting_gated : Lasting (Gated slot) := by
  rintro log st ⟨s, s', pulled, hpull, hfirst, hgate, hslot⟩
  exact ⟨s, s', pulled, lasting_mem _ _ hpull, hfirst, lasting_mem _ _ hgate, hslot⟩

theorem lasting_resolved : Lasting (Resolved first ctx) := by
  rintro log st ⟨s, hmem, hctx⟩
  exact ⟨s, lasting_mem _ _ hmem, hctx⟩

theorem lasting_builtOf : Lasting (BuiltOf cfg slot ctx operations) := by
  rintro log st ⟨s, utxo, hmem, hbuilt⟩
  exact ⟨s, utxo, lasting_mem _ _ hmem, hbuilt⟩

theorem lasting_covered {feePayer : PublicKey} : Lasting (Covered cfg feePayer operations) := by
  rintro log st ⟨s, s', fee, haccount, hsimulated, hcovered⟩
  exact ⟨s, s', fee, lasting_mem _ _ haccount, lasting_mem _ _ hsimulated, hcovered⟩

theorem lasting_ready : Lasting (Ready cfg slot first operations) := by
  rintro log st ⟨hgated, ⟨ctx, hresolved, hbuilt⟩, hcovered⟩
  exact ⟨lasting_gated _ _ hgated, ⟨ctx, lasting_resolved _ _ hresolved, lasting_builtOf _ _ hbuilt⟩,
    lasting_covered _ _ hcovered⟩

theorem Unsubmitted.snoc (h : Unsubmitted log) (hst : submission st = none) :
    Unsubmitted (log ++ [st]) := by
  intro st' hmem
  rcases List.mem_append.mp hmem with hold | hnew
  · exact h st' hold
  · rwa [List.mem_singleton.mp hnew]

theorem sendsPrepared_of_none (hst : submission st = none) : SendsPrepared cfg log st := by
  intro ctx operations hsends
  rw [hst] at hsends
  cases hsends

end Facts

/-! ## The silent parts of a tick -/

/-- Sends no transaction. -/
def Req.SendsNothing : Req → Prop
  | .rpc (.invokeRaw _ _) => False
  | _ => True

abbrev Hushed {α : Type} (t : Promise α) : Prop := Keeps (fun _ => True) Req.SendsNothing t

theorem submission_served {q : Req} (hq : q.SendsNothing) (s : State) :
    submission (.served s q) = none := by
  unfold submission
  split
  · rename_i heq
    cases heq
    exact hq.elim
  · rename_i heq
    cases heq
  · rfl

theorem submission_rejected {q : Req} (hq : q.SendsNothing) (s : State) (e : Err) :
    submission (.rejected s q e) = none := by
  unfold submission
  split
  · rename_i heq
    cases heq
  · rename_i heq
    cases heq
    exact hq.elim
  · rfl

section Silent
variable {cfg : Config}

theorem emitForPp_hushed (pp : PublicKey) (payload : EventPayload) : Hushed (emitForPp pp payload) :=
  emitForPp_uses (fun _ => trivial) (fun _ => trivial) pp

theorem emitForBundles_hushed (ids : List BundleId) (payload : EventPayload) :
    Hushed (emitForBundles ids payload) :=
  emitForBundles_uses (fun _ => trivial) (fun _ => trivial) (fun _ => trivial) ids

theorem readAccountSeq_hushed (source : PublicKey) : Hushed (readAccountSeq source) := by
  have hcall : Hushed (rpc (.getAccount source)) := Task.Uses.call trivial
  exact hcall.recover fun _ => keeps_pure _

theorem readFailedAccountSeq_hushed (source : PublicKey) (error : Err) :
    Hushed (readFailedAccountSeq cfg source error) :=
  keeps_ite (fun _ => readAccountSeq_hushed source) fun _ => keeps_pure _

theorem getTransactionExpiration_hushed : Hushed (getTransactionExpiration cfg) := by
  have hcall : Hushed (rpc .getLatestLedger) := Task.Uses.call trivial
  exact hcall.bind fun _ => keeps_pure _

theorem createTransactionRecord_hushed (hash : TxHash) (ids : List BundleId) :
    Hushed (createTransactionRecord cfg hash ids) := by
  have hcall : Hushed (rpc .getLatestLedger) := Task.Uses.call trivial
  refine hcall.bind fun _ => (keeps_run trivial).bind fun _ => ?_
  refine (keeps_command trivial).bind fun _ => Task.Uses.forEach fun id _ => ?_
  exact (keeps_run trivial).bind fun _ => (keeps_command trivial).bind fun _ => keeps_pure _

theorem persistEviction_hushed (bundle : SlotBundle) : Hushed (persistEviction bundle) :=
  ((keeps_command trivial).bind fun _ => emitForPp_hushed _ _).recover fun _ => keeps_pure _

theorem addBundle_hushed (bundle : SlotBundle) : Hushed (Mempool.addBundle cfg bundle) := by
  have hadded (newSlot : Bool) : Hushed (do
      emitForPp bundle.ppPublicKey (Mempool.bundleAddedPayload bundle newSlot)
      Mempool.activate bundle) :=
    (emitForPp_hushed _ _).bind fun _ =>
      Mempool.activate_keeps (fun _ => trivial) (fun _ => trivial) bundle
  refine (keeps_run trivial).bind fun now => keeps_ite (fun _ => ?_) fun _ => ?_
  · exact (keeps_command trivial).bind fun _ => emitForPp_hushed _ _
  · refine (keeps_run trivial).bind fun placement => ?_
    cases placement with
    | existingSlot => exact hadded false
    | newSlot => exact hadded true
    | slotFull => exact keeps_reject _

theorem failBundleExecution_hushed (error : Err) (reason : FailureReason) (id : BundleId) :
    Hushed (failBundleExecution cfg error reason id) := by
  refine Task.Uses.recover (Task.Uses.bind (Task.Uses.call trivial) fun bundle => ?_) fun _ =>
    keeps_pure _
  cases bundle with
  | none => exact keeps_pure _
  | some bundle =>
    dsimp only
    exact keeps_ite (fun _ => (keeps_command trivial).bind fun _ => keeps_pure _)
      fun _ => (keeps_command trivial).bind fun _ => keeps_pure _

theorem emitExecutionFailed_hushed (slot : Slot) (ids : List BundleId) (error : Err) :
    Hushed (emitExecutionFailed slot ids error) := by
  unfold emitExecutionFailed
  split
  · exact emitForBundles_hushed _ _
  · exact keeps_pure _

theorem handleSlotFailure_hushed (slot : Slot) (error : Err) :
    Hushed (handleSlotFailure cfg slot error) := by
  unfold handleSlotFailure
  split
  · exact (Task.Uses.forEach fun id _ => failInsufficientFees_keeps (fun _ _ _ => trivial) _ id).bind
      fun _ => emitExecutionFailed_hushed slot _ _
  · refine (keeps_run trivial).bind fun now => (emitExecutionFailed_hushed slot _ _).bind fun _ => ?_
    refine Task.Uses.bind ?_ fun results => ?_
    · exact (Task.Uses.collect fun id _ => failBundleExecution_hushed _ _ id).bind fun _ => keeps_pure _
    · exact keeps_ite (fun _ => Task.Uses.forEach fun b _ => (addBundle_hushed b).recover fun _ =>
        keeps_pure _) fun _ => keeps_pure _

end Silent

/-! ## The tick -/

section Spec
variable {α : Type} {cfg : Config} {slot : Slot} {first : SlotBundle}
  {operations : List MoonlightOperation} {F : TickLog → Prop}

abbrev TickLogged (cfg : Config) (P : TickLog → Prop) (t : Promise α)
    (B : Except Err α → TickLog → Prop) : Prop :=
  Logged host (fun _ => True) (SendsPrepared cfg) P t B

/-- A silent part keeps what was seen and sends nothing. -/
theorem hushed_logged {t : Promise α} (hF : Lasting F) (ht : Hushed t) :
    TickLogged cfg (fun log => Unsubmitted log ∧ F log) t fun _ log => Unsubmitted log ∧ F log := by
  apply Logged.of_steps ?_ ?_ ?_ ht
  · rintro log s o - ⟨hlog, hf⟩
    exact ⟨sendsPrepared_of_none rfl, hlog.snoc rfl, hF _ _ hf⟩
  · rintro log s q hq ⟨hlog, hf⟩
    have hnone := submission_served hq s
    exact ⟨sendsPrepared_of_none hnone, hlog.snoc hnone, hF _ _ hf⟩
  · rintro log s q e hq ⟨hlog, hf⟩
    have hnone := submission_rejected hq s e
    exact ⟨sendsPrepared_of_none hnone, hlog.snoc hnone, hF _ _ hf⟩

/-- So does it after the transaction was sent. -/
theorem hushed_after {t : Promise α} (ht : Hushed t) :
    TickLogged cfg (fun _ => True) t fun _ _ => True := by
  apply Logged.of_steps ?_ ?_ ?_ ht
  · exact fun log s o _ _ => ⟨sendsPrepared_of_none rfl, trivial⟩
  · exact fun log s q hq _ => ⟨sendsPrepared_of_none (submission_served hq s), trivial⟩
  · exact fun log s q e hq _ => ⟨sendsPrepared_of_none (submission_rejected hq s e), trivial⟩

/-- A silent call, with what its answer shows. -/
theorem call_logged {q : Req} (hq : q.SendsNothing) (hF : Lasting F)
    {C : Except Err q.Ans → TickLog → Prop}
    (hserve : ∀ log s, F log → C (serve q s).1 (log ++ [.served s q]))
    (hreject : ∀ log e, C (.error e) log) :
    TickLogged cfg (fun log => Unsubmitted log ∧ F log) (Task.call (I := platform) q)
      fun r log => Unsubmitted log ∧ F log ∧ C r log := by
  apply Logged.call
  · rintro log s ⟨hlog, hf⟩ -
    have hnone := submission_served hq s
    exact ⟨sendsPrepared_of_none hnone, hlog.snoc hnone, hF _ _ hf, hserve log s hf⟩
  · rintro log s e ⟨hlog, hf⟩ -
    have hnone := submission_rejected hq s e
    exact ⟨sendsPrepared_of_none hnone, hlog.snoc hnone, hF _ _ hf, hreject _ e⟩

theorem resolve_logged (hF : Lasting F) :
    TickLogged cfg (fun log => Unsubmitted log ∧ F log)
      (rpc (.resolveChannelContext first.channelContractId first.ppPublicKey))
      fun r log => Unsubmitted log ∧ F log ∧ ∀ ctx, r = .ok ctx → Resolved first ctx log := by
  apply call_logged (q := .rpc (.resolveChannelContext first.channelContractId first.ppPublicKey)) trivial hF
  · intro log s _ ctx hctx
    exact ⟨s, List.mem_append_right _ (List.mem_singleton_self _), hctx⟩
  · exact fun _ _ _ => nofun

theorem buildTransactionFromSlot_logged (hF : Lasting F) (ctx : ChannelContext) :
    TickLogged cfg (fun log => Unsubmitted log ∧ F log)
      (buildTransactionFromSlot cfg slot.getBundles ctx)
      fun r log => Unsubmitted log ∧ F log ∧
        ∀ build, r = .ok build → BuiltOf cfg slot ctx build.operations log := by
  unfold buildTransactionFromSlot
  split
  · exact .done fun log h => ⟨h.1, h.2, fun _ => nofun⟩
  have hreserve : TickLogged cfg (fun log => Unsubmitted log ∧ F log) (rpc (.reserveUTXOs ctx))
      fun r log => Unsubmitted log ∧ F log ∧ ∀ reserved : Option UtxoId × Nat,
        r = .ok reserved → ∀ utxo, reserved.1 = some utxo → ∃ s,
          .served s (.rpc (.reserveUTXOs ctx)) ∈ log ∧ (s.network.freeUtxos ctx).head? = some utxo := by
    apply call_logged (q := .rpc (.reserveUTXOs ctx)) trivial hF
    · rintro log s - _ ⟨⟩ utxo hutxo
      exact ⟨s, List.mem_append_right _ (List.mem_singleton_self _), hutxo⟩
    · exact fun _ _ _ => nofun
  apply hreserve.bind
  · intro reserved
    cases hutxo : reserved.1 with
    | none => exact .done fun log h => ⟨h.1, h.2.1, fun _ => nofun⟩
    | some utxo =>
      dsimp only
      cases hops : slotOperations cfg slot.getBundles utxo with
      | error e => exact .done fun log h => ⟨h.1, h.2.1, fun _ => nofun⟩
      | ok operations =>
        apply Logged.done
        rintro log ⟨hlog, hf, hfree⟩
        refine ⟨hlog, hf, ?_⟩
        rintro _ ⟨⟩
        obtain ⟨s, hmem, hhead⟩ := hfree reserved rfl utxo hutxo
        exact ⟨s, utxo, hmem, hhead, hops⟩
  · exact fun e log h => ⟨h.1, h.2.1, fun _ => nofun⟩

/-- The check passes only for a fee payer that can pay for what was simulated. -/
theorem runPreflightOpexFeeCheck_logged (hF : Lasting F) (feePayer : PublicKey) :
    TickLogged cfg (fun log => Unsubmitted log ∧ F log)
      (runPreflightOpexFeeCheck cfg operations feePayer)
      fun r log => Unsubmitted log ∧ F log ∧
        ∀ result, r = .ok result → Covered cfg feePayer operations log := by
  let Fetched (account : Option AccountState) (log : TickLog) : Prop := ∃ s,
    .served s (.rpc (.fetchFeePayerAccountState feePayer)) ∈ log ∧
      s.network.accountState feePayer = account
  have hfetched (account : Option AccountState) : Lasting (Fetched account) := by
    rintro log st ⟨s, hmem, haccount⟩
    exact ⟨s, lasting_mem _ _ hmem, haccount⟩
  have hfetch : TickLogged cfg (fun log => Unsubmitted log ∧ F log)
      (rpc (.fetchFeePayerAccountState feePayer))
      fun r log => Unsubmitted log ∧ F log ∧ ∀ account, r = .ok account → Fetched account log := by
    apply call_logged (q := .rpc (.fetchFeePayerAccountState feePayer)) trivial hF
    · rintro log s - _ ⟨⟩
      exact ⟨s, List.mem_append_right _ (List.mem_singleton_self _), rfl⟩
    · exact fun _ _ _ => nofun
  apply hfetch.bind
  · intro account
    have hseen := hF.and (hfetched account)
    have hsequence : Hushed (rpc (.getFeePayerSequence feePayer)) := Task.Uses.call trivial
    have hasked : TickLogged cfg (fun log => Unsubmitted log ∧ F log ∧ Fetched account log)
        (rpc (.getFeePayerSequence feePayer)) fun _ log =>
          Unsubmitted log ∧ F log ∧ Fetched account log := hushed_logged hseen hsequence
    apply (hasked.mono (fun log h => ⟨h.1, h.2.1, h.2.2 account rfl⟩) fun _ _ h => h).bind
    · intro _
      have hsimulate : TickLogged cfg (fun log => Unsubmitted log ∧ F log ∧ Fetched account log)
          (rpc (.simulateTransaction operations feePayer))
          fun r log => Unsubmitted log ∧ (F log ∧ Fetched account log) ∧
            ∀ fee, r = .ok fee → ∃ s,
              .served s (.rpc (.simulateTransaction operations feePayer)) ∈ log ∧
                s.network.simulate operations = .ok fee := by
        apply call_logged (q := .rpc (.simulateTransaction operations feePayer)) trivial hseen
        · intro log s _ fee hfee
          exact ⟨s, List.mem_append_right _ (List.mem_singleton_self _), hfee⟩
        · exact fun _ _ _ => nofun
      apply hsimulate.bind
      · intro fee
        dsimp only
        split
        · exact .done fun log h => ⟨h.1, h.2.1.1, fun _ => nofun⟩
        · rename_i hcovers
          apply Logged.done
          rintro log ⟨hlog, ⟨hf, s, haccount, rfl⟩, hfee⟩
          obtain ⟨s', hsimulated, hanswer⟩ := hfee fee rfl
          refine ⟨hlog, hf, fun _ _ => ⟨s, s', fee, haccount, hsimulated, hanswer, ?_⟩⟩
          simp only [computePreflightResult] at hcovers
          rw [spendable]
          omega
      · exact fun e log h => ⟨h.1, h.2.1.1, fun _ => nofun⟩
    · exact fun e log h => ⟨h.1, h.2.1, fun _ => nofun⟩
  · exact fun e log h => ⟨h.1, h.2.1, fun _ => nofun⟩

theorem prepareSlot_logged (first : SlotBundle) :
    TickLogged cfg (fun log => Unsubmitted log ∧ Gated slot log) (prepareSlot cfg slot first)
      fun r log => Unsubmitted log ∧ ∀ prepared, r = .ok prepared →
        Ready cfg slot first prepared.1.operations log := by
  apply (resolve_logged lasting_gated).bind
  · intro ctx
    have hgot : Lasting fun log => Gated slot log ∧ Resolved first ctx log :=
      lasting_gated.and lasting_resolved
    apply ((buildTransactionFromSlot_logged hgot ctx).mono
      (fun log h => ⟨h.1, h.2.1, h.2.2 ctx rfl⟩) fun _ _ h => h).bind
    · intro build
      have hbuilt : Lasting fun log =>
          (Gated slot log ∧ Resolved first ctx log) ∧ BuiltOf cfg slot ctx build.operations log :=
        hgot.and lasting_builtOf
      apply ((hushed_logged hbuilt getTransactionExpiration_hushed).mono
        (fun log h => ⟨h.1, h.2.1, h.2.2 build rfl⟩) fun _ _ h => h).bind
      · intro expiration
        apply (runPreflightOpexFeeCheck_logged hbuilt first.ppPublicKey).bind
        · intro result
          apply Logged.done
          rintro log ⟨hlog, ⟨⟨hgated, hresolved⟩, hops⟩, hcovered⟩
          refine ⟨hlog, ?_⟩
          rintro _ ⟨⟩
          exact ⟨hgated, ⟨ctx, hresolved, hops⟩, hcovered result rfl⟩
        · exact fun e log h => ⟨h.1, fun _ => nofun⟩
      · exact fun e log h => ⟨h.1, fun _ => nofun⟩
    · exact fun e log h => ⟨h.1, fun _ => nofun⟩
  · exact fun e log h => ⟨h.1, fun _ => nofun⟩

/-- The one call that sends something. -/
theorem invokeRaw_logged (hfirst : slot.bundles.head? = some first) (ctx : ChannelContext) :
    TickLogged cfg (fun log => Unsubmitted log ∧ Ready cfg slot first operations log ∧
        Resolved first ctx log) (rpc (.invokeRaw ctx operations)) fun _ _ => True := by
  have hsends (log : TickLog) (hlog : Unsubmitted log)
      (hready : Ready cfg slot first operations log) (hresolved : Resolved first ctx log)
      (st : Step platform State) (hst : submission st = some (ctx, operations)) :
      SendsPrepared cfg log st := by
    intro ctx' operations' hsubmits
    rw [hst] at hsubmits
    cases hsubmits
    exact ⟨⟨slot, first, hfirst, hready, hresolved⟩, hlog⟩
  apply Logged.call
  · exact fun log s h _ => ⟨hsends log h.1 h.2.1 h.2.2 _ rfl, trivial⟩
  · exact fun log s e h _ => ⟨hsends log h.1 h.2.1 h.2.2 _ rfl, trivial⟩

theorem submitTransactionToNetwork_logged (hfirst : slot.bundles.head? = some first)
    (expiration : Nat) :
    TickLogged cfg (fun log => Unsubmitted log ∧ Ready cfg slot first operations log)
      (submitTransactionToNetwork cfg operations expiration first.channelContractId
        first.ppPublicKey) fun _ _ => True := by
  apply (resolve_logged lasting_ready).bind
  · intro ctx
    have hready : Lasting fun log => Ready cfg slot first operations log ∧ Resolved first ctx log :=
      lasting_ready.and lasting_resolved
    apply ((hushed_logged hready (readAccountSeq_hushed ctx.signer)).mono
      (fun log h => ⟨h.1, h.2.1, h.2.2 ctx rfl⟩) fun _ _ h => h).bind
    · intro _
      have hsign : Hushed (rpc (.signWithProvider ctx.signer expiration)) := Task.Uses.call trivial
      apply (hushed_logged hready hsign).bind
      · intro _
        apply Logged.recover (B := fun _ _ => True)
        · apply (invokeRaw_logged hfirst ctx).bind
          · exact fun hash => hushed_after
              ((readAccountSeq_hushed ctx.signer).bind fun _ => keeps_pure hash)
          · exact fun _ _ _ => trivial
        · exact fun _ _ _ => trivial
        · exact fun e => hushed_after
            ((readFailedAccountSeq_hushed ctx.signer e).bind fun _ => keeps_reject _)
      · exact fun _ _ _ => trivial
    · exact fun _ _ _ => trivial
  · exact fun _ _ _ => trivial

theorem executeSlot_logged :
    TickLogged cfg (fun log => Unsubmitted log ∧ Gated slot log) (executeSlot cfg slot)
      fun _ _ => True := by
  unfold executeSlot
  split
  · exact .done fun _ _ => trivial
  rename_i first hfirst
  split
  · exact .done fun _ _ => trivial
  split
  · exact .done fun _ _ => trivial
  apply (prepareSlot_logged first).bind
  · intro prepared
    have hnote (submission : Submission) : Hushed (run (.note submission)) := keeps_run trivial
    apply ((hushed_logged lasting_ready (hnote _)).mono
      (fun log h => ⟨h.1, h.2 prepared rfl⟩) fun _ _ h => h).bind
    · intro _
      apply (submitTransactionToNetwork_logged hfirst prepared.2).bind
      · exact fun hash => hushed_after ((hnote _).bind fun _ =>
          (createTransactionRecord_hushed hash _).bind fun _ => emitForBundles_hushed _ _)
      · exact fun _ _ _ => trivial
    · exact fun _ _ _ => trivial
  · exact fun _ _ _ => trivial

/-- The clock of the gate is read after the pull. -/
theorem expireSlotBundlesPastTtl_logged (pulled : Slot) :
    TickLogged cfg (fun log => Unsubmitted log ∧ ∃ s, .ran s .removeFirstSlot ∈ log ∧
        s.memory.mempool.removeFirstSlot.1 = some pulled) (expireSlotBundlesPastTtl pulled)
      fun r log => Unsubmitted log ∧ ∀ slot, r = .ok slot → Gated slot log := by
  let Pulled (log : TickLog) : Prop := ∃ s, .ran s .removeFirstSlot ∈ log ∧
    s.memory.mempool.removeFirstSlot.1 = some pulled
  let Clocked (now : Time) (log : TickLog) : Prop := ∃ s, .ran s .now ∈ log ∧ s.clock = now
  have hpulled : Lasting Pulled := by
    rintro log st ⟨s, hmem, hfirst⟩
    exact ⟨s, lasting_mem _ _ hmem, hfirst⟩
  have hclocked (now : Time) : Lasting (Clocked now) := by
    rintro log st ⟨s, hmem, hclock⟩
    exact ⟨s, lasting_mem _ _ hmem, hclock⟩
  have hnow : TickLogged cfg (fun log => Unsubmitted log ∧ Pulled log) (run .now)
      fun r log => Unsubmitted log ∧ Pulled log ∧ ∀ now, r = .ok now → Clocked now log := by
    apply Logged.op
    rintro log s ⟨hlog, hp⟩ -
    refine ⟨sendsPrepared_of_none rfl, hlog.snoc rfl, hpulled _ _ hp, ?_⟩
    rintro _ ⟨⟩
    exact ⟨s, List.mem_append_right _ (List.mem_singleton_self _), rfl⟩
  apply hnow.bind
  · intro now
    have hevictions : Hushed (Task.forEach (I := platform) persistEviction
        (pulled.getBundles.filter (isBundleExpired now))) :=
      Task.Uses.forEach fun b _ => persistEviction_hushed b
    apply ((hushed_logged (hpulled.and (hclocked now)) hevictions).mono
      (fun log h => ⟨h.1, h.2.1, h.2.2 now rfl⟩) fun _ _ h => h).bind
    · intro _
      apply Logged.done
      rintro log ⟨hlog, ⟨s, hmem, hfirst⟩, s', hgate, rfl⟩
      refine ⟨hlog, ?_⟩
      rintro _ ⟨⟩
      exact ⟨s, s', pulled, hmem, hfirst, hgate, rfl⟩
    · exact fun e log h => ⟨h.1, fun _ => nofun⟩
  · exact fun e log h => ⟨h.1, fun _ => nofun⟩

theorem processSlot_logged (pulled : Slot) :
    TickLogged cfg (fun log => Unsubmitted log ∧ ∃ s, .ran s .removeFirstSlot ∈ log ∧
        s.memory.mempool.removeFirstSlot.1 = some pulled) (processSlot cfg pulled)
      fun _ _ => True := by
  apply (expireSlotBundlesPastTtl_logged pulled).bind
  · intro slot
    split
    · exact .done fun _ _ => trivial
    · apply Logged.recover (B := fun _ _ => True)
      · exact executeSlot_logged.mono (fun log h => ⟨h.1, h.2 slot rfl⟩) fun _ _ h => h
      · exact fun _ _ _ => trivial
      · exact fun e => hushed_after (handleSlotFailure_hushed slot e)
  · exact fun _ _ _ => trivial

theorem executeNext_logged : TickLogged cfg (· = []) (executeNext cfg) fun _ _ => True := by
  have hop (o : Op) : Hushed (run o) := keeps_run trivial
  have hempty : ∀ log : TickLog, log = [] → Unsubmitted log ∧ True := by
    rintro _ rfl
    exact ⟨fun _ => nofun, trivial⟩
  apply ((hushed_logged lasting_true (hop .isProcessing)).mono hempty fun _ _ h => h).bind
  · intro isProcessing
    split
    · exact .done fun _ _ => trivial
    apply (hushed_logged lasting_true (hop (.setProcessing true))).bind
    · intro _
      apply Logged.settle (B := fun _ _ => True)
      · have hpull : TickLogged cfg (fun log => Unsubmitted log ∧ True) (run .removeFirstSlot)
            fun r log => Unsubmitted log ∧ ∀ pulled, r = .ok (some pulled) → ∃ s,
              .ran s .removeFirstSlot ∈ log ∧ s.memory.mempool.removeFirstSlot.1 = some pulled := by
          apply Logged.op
          rintro log s ⟨hlog, -⟩ -
          refine ⟨sendsPrepared_of_none rfl, hlog.snoc rfl, fun pulled hslot => ?_⟩
          exact ⟨s, List.mem_append_right _ (List.mem_singleton_self _), Except.ok.inj hslot⟩
        apply hpull.bind
        · intro slot
          cases slot with
          | none => exact .done fun _ _ => trivial
          | some pulled =>
            dsimp only
            split
            · exact .done fun _ _ => trivial
            · exact (processSlot_logged pulled).mono (fun log h => ⟨h.1, h.2 pulled rfl⟩)
                fun _ _ h => h
        · exact fun _ _ _ => trivial
      · intro r
        exact hushed_after (Task.Uses.bind (hop (.setProcessing false)) fun _ => keeps_done r)
    · exact fun _ _ _ => trivial
  · exact fun _ _ _ => trivial

end Spec

/-! ## Every run -/

/-- **A tick sends what it prepared, once.** In every run of a process, whatever
else it does, a transaction that a tick sends, answered or not, consists of the
fee and the operations of one slot that the tick pulled and that passed the TTL
gate; just these operations were simulated, the fee payer could spend their fee
above its reserve, and the tick sent nothing before. -/
theorem tick_sendsPrepared {cfg : Config} {fuel : Nat} {allowed : State → Call → Bool}
    {s : State} {c : ProviderPool} {logs : List TickLog} {i : Nat} {t : Promise Unit} {log : TickLog}
    (h : (process cfg fuel allowed).Recorded Machine.Free s c logs)
    (ht : c.tasks[i]? = some (.executeNext, t)) (hlog : logs[i]? = some log) :
    Meets (SendsPrepared cfg) log := by
  have htick : Logged (process cfg fuel allowed).host (fun _ => True) (SendsPrepared cfg) (· = [])
      ((process cfg fuel allowed).program .executeNext) fun _ _ => True := executeNext_logged
  exact h.meets (fun _ _ h => h) htick ht hlog trivial

theorem tick_sendsPrepared_small :
    ∃ log : TickLog, (∃ st ∈ log, (submission st).isSome = true) ∧
      Meets (SendsPrepared Small.config) log := by
  obtain ⟨c, logs, l, t, log, hrec, ht, hlog, hp⟩ := Machine.exists_recorded
    (M := provider Small.config 1) (s := Small.state) Small.submitted 2
    (fun l log => l == .executeNext && log.any fun st => (submission st).isSome) (by decide +kernel)
  simp only [Bool.and_eq_true, beq_iff_eq, List.any_eq_true] at hp
  obtain ⟨rfl, hsent⟩ := hp
  exact ⟨log, hsent, tick_sendsPrepared hrec ht hlog⟩

end ProviderPlatform
