import ProviderPlatform.Lifecycle.Handover
import ProviderPlatform.Lifecycle.Receipts

/-! # What is COMPLETED happened on-chain

Only the verifier writes COMPLETED, and it does so for the bundles that are
linked to a transaction; only the executor writes links, for the bundles it
handed over and the hash that came back. So behind every COMPLETED bundle there
is one transaction that the network accepted and reported as a success. -/
namespace ProviderPlatform
open Async Store

/-! ## The tasks -/

def receipting : Discipline platform Informed (Multiset Receipt) where
  inv := OnReceipt
  mayRun _ _ := True
  mayServe _ _ := True
  mayReject _ _ := True

/-- Needs nothing on receipt. -/
def Op.Plain (o : Op) : Prop := ∀ p, o.Backed p

def Req.Plain (q : Req) : Prop := ∀ p, q.Backed p

abbrev ReceiptTriple {α : Type} (l : Call) (own : Multiset Receipt) (t : Promise α)
    (B : Except Err α → Multiset Receipt → Prop) : Prop :=
  Task.Triple (host.observe successes l) receipting own t B

theorem receipting_passes (l : Call) :
    Task.Passes (host.observe successes l) receipting Op.Plain Req.Plain where
  run _ ho p _ h _ := OnReceipt.runOp h (ho p)
  serve _ hq p _ h _ := OnReceipt.serve h (hq p)

theorem permits_plain : Permits Op.Plain Req.Plain where
  query _ _ := trivial
  rpc _ _ := trivial
  now _ := trivial
  emit _ _ _ := trivial
  isDisabled _ _ := trivial

theorem mayExpire_plain (id : BundleId) :
    Req.Plain (.command (.updateBundle id { status := some .expired })) :=
  fun _ => nofun

theorem mayAdd_plain : Mempool.MayAdd Op.Plain Req.Plain where
  toAnnounces := permits_plain.toAnnounces
  place _ _ := trivial
  purge _ _ := trivial
  expire := mayExpire_plain
  activate _ _ := nofun

theorem failure_plain : FailureUpdate Req.Plain := by
  rintro id data (hfailed | ⟨hpending, -⟩) p hcompleted
  · rw [hfailed] at hcompleted
    cases hcompleted
  · rw [hpending] at hcompleted
    cases hcompleted

theorem updateFailed_plain (id : BundleId) (data : OperationsBundlePatch)
    (hdata : data.status = some .failed) : Req.Plain (.command (.updateBundle id data)) := by
  intro p hcompleted
  rw [hdata] at hcompleted
  cases hcompleted

section Triples
variable {cfg : Config} {l : Call} {own : Multiset Receipt} {hash : TxHash} {ids : List BundleId}

/-- A note on receipt, and what it tells. -/
theorem note_receipt {submission : Submission} {k : Receipt}
    (hbacked : ∀ p r, OnReceipt p (own + r) → (Op.note submission).Backed p)
    (hk : ∀ p : Informed, k.Holds ((runOp (.note submission) p.1).2, p.2)) :
    ReceiptTriple l own (run (.note submission)) fun _ o => o = {k} + own := by
  apply Task.Triple.op
  intro p r h _
  refine ⟨{k} + own, rfl, ?_⟩
  rw [add_assoc]
  apply (OnReceipt.runOp h (hbacked p r h)).learn
  intro k' hk'
  rw [Multiset.mem_singleton.mp hk']
  exact hk p

/-- A request that needs no receipt, and what its answer tells. -/
theorem call_receipt {q : Req} {C : Except Err (Req.Ans q) → Multiset Receipt → Prop}
    (hq : q.Plain) (herr : ∀ e, C (.error e) own)
    (hanswer : ∀ p : Informed, ∃ new : Multiset Receipt, C (serve q p.1).1 (new + own) ∧
      ∀ k ∈ new, k.Holds ((serve q p.1).2, successes.onServe l p.1 q p.2)) :
    ReceiptTriple l own (Task.call (I := platform) q) C := by
  apply Task.Triple.call
  · intro p r h _
    obtain ⟨new, hC, hnew⟩ := hanswer p
    refine ⟨new + own, hC, ?_⟩
    rw [add_assoc]
    exact (OnReceipt.serve h (hq p)).learn hnew
  · exact fun p r h _ e => ⟨own, herr e, h⟩

/-- A write on receipt. -/
theorem command_receipt {w : Command}
    (hbacked : ∀ p r, OnReceipt p (own + r) → (Req.command w).Backed p) :
    ReceiptTriple l own (command w) fun _ o => o = own := by
  apply Task.Triple.call
  · exact fun p r h _ => ⟨own, rfl, OnReceipt.serve h (hbacked p r h)⟩
  · exact fun p r h _ e => ⟨own, rfl, h⟩

theorem OnReceipt.held {p : Informed} {r : Multiset Receipt} {k : Receipt} (h : OnReceipt p (own + r))
    (hk : k ∈ own) : k.Holds p := h.holds k (Multiset.mem_add.mpr (.inl hk))

/-! ### The executor -/

/-- A submission that returned is on receipt. -/
def Accepted (own : Multiset Receipt) (r : Except Err TxHash) (o : Multiset Receipt) : Prop :=
  own ⊆ o ∧ ∀ hash, r = .ok hash → .accepted hash ∈ o

theorem invokeRaw_receipt (ctx : ChannelContext) (operations : List MoonlightOperation) :
    ReceiptTriple l own (rpc (.invokeRaw ctx operations)) (Accepted own) := by
  apply call_receipt
  · exact fun _ => trivial
  · exact fun e => ⟨Multiset.Subset.refl _, fun _ => nofun⟩
  · intro p
    rcases Rpc.run_invokeRaw p.1.network ctx operations with ⟨e, hrun⟩ | ⟨hash, -, hrun⟩
    · refine ⟨0, ⟨by simp, fun hash he => ?_⟩, fun _ hk => absurd hk (Multiset.notMem_zero _)⟩
      simp [serve, hrun] at he
    · refine ⟨{.accepted hash}, ⟨fun k hk => Multiset.mem_add.mpr (.inr hk), fun hash' he => ?_⟩,
        fun k hk => ?_⟩
      · have hhash : hash = hash' := by simpa [serve, hrun] using he
        exact hhash ▸ Multiset.mem_add.mpr (.inl (Multiset.mem_singleton_self _))
      · rw [Multiset.mem_singleton.mp hk]
        simp [Receipt.Holds, serve, hrun]

theorem submitTransactionToNetwork_receipt (operations : List MoonlightOperation)
    (expiration : Nat) (channel : ContractId) (pp : PublicKey) :
    ReceiptTriple l own (submitTransactionToNetwork cfg operations expiration channel pp)
      (Accepted own) := by
  have hp := permits_plain
  have hnone (e : Err) : Accepted own (.error e) own :=
    ⟨Multiset.Subset.refl _, fun _ => nofun⟩
  apply (receipting_passes l).bind (keeps_rpc hp.toReads _)
  · intro ctx
    apply (receipting_passes l).bind (readAccountSeq_keeps hp.rpc _)
    · intro _
      apply (receipting_passes l).bind (keeps_rpc hp.toReads _)
      · intro _
        apply Task.Triple.recover (B := Accepted own)
        · apply (invokeRaw_receipt ctx operations).bind
          · intro hash o ho
            apply ((receipting_passes l).uses (readAccountSeq_keeps hp.rpc ctx.signer) o).bind
            · rintro _ _ rfl
              apply Task.Triple.done
              refine ⟨ho.1, ?_⟩
              rintro _ ⟨⟩
              exact ho.2 hash rfl
            · rintro e _ rfl
              exact ⟨ho.1, fun _ => nofun⟩
          · exact fun _ _ ho => ⟨ho.1, fun _ => nofun⟩
        · exact fun _ _ ho => ho
        · intro e o ho
          apply ((receipting_passes l).uses (readFailedAccountSeq_keeps hp.rpc cfg ctx.signer e) o).bind
          · rintro _ _ rfl
            exact .done ⟨ho.1, fun _ => nofun⟩
          · rintro _ _ rfl
            exact ⟨ho.1, fun _ => nofun⟩
      · exact hnone
    · exact hnone
  · exact hnone

theorem createLink_receipt (hreturned : .returned hash ids ∈ own) {id : BundleId} (hid : id ∈ ids) :
    ReceiptTriple l own (createLink hash id) fun _ o => o = own := by
  apply (receipting_passes l).bind (keeps_run permits_plain.now)
  · intro now
    have hcall : ReceiptTriple l own (command (.createLink ⟨id, hash, now, "system"⟩))
        fun _ o => o = own := command_receipt fun p r h => ⟨ids, h.held hreturned, hid⟩
    apply hcall.bind
    · rintro _ _ rfl
      exact .done rfl
    · exact fun _ _ ho => ho
  · exact fun _ => rfl

/-- The row is for a transaction that was accepted, the links for the bundles it
was returned for. -/
theorem createTransactionRecord_receipt (haccepted : .accepted hash ∈ own)
    (hreturned : .returned hash ids ∈ own) :
    ReceiptTriple l own (createTransactionRecord cfg hash ids) fun _ o => o = own := by
  have hp := permits_plain.toReads
  apply (receipting_passes l).bind (keeps_rpc hp .getLatestLedger)
  · intro latestLedger
    apply (receipting_passes l).bind (keeps_run hp.now)
    · intro now
      have hrow (timeout : Time) (ledgerSequence : String) :
          ReceiptTriple l own (command (.createTransaction
            ⟨hash, .unverified, timeout, ledgerSequence, now, "system"⟩)) fun _ o => o = own :=
        command_receipt fun p r h => ⟨nofun, h.held haccepted⟩
      apply (hrow _ _).bind
      · rintro _ _ rfl
        exact Task.Triple.forEach fun id hid => createLink_receipt hreturned hid
      · exact fun _ _ ho => ho
    · exact fun _ => rfl
  · exact fun _ => rfl

theorem submitSlot_receipt {slot : Slot} {build : TransactionBuildResult}
    (hids : build.bundleIds = slot.bundles.map (·.bundleId)) (first : SlotBundle)
    (expiration : Nat) :
    ReceiptTriple l own (submitSlot cfg slot first build expiration) fun _ _ => True := by
  have hhanded : ReceiptTriple l own
      (run (.note (.handed first.channelContractId first.ppPublicKey slot.getBundles)))
      fun _ o => o = {.handed build.bundleIds} + own := by
    apply note_receipt
    · exact fun _ _ _ => trivial
    · exact fun p => ⟨_, _, _, List.mem_append_right _ (List.mem_singleton_self _), hids.symm⟩
  apply hhanded.bind
  · rintro _ _ rfl
    apply (submitTransactionToNetwork_receipt _ _ _ _).bind
    · intro hash o ho
      have hheld : .handed build.bundleIds ∈ o :=
        ho.1 (Multiset.mem_add.mpr (.inl (Multiset.mem_singleton_self _)))
      have hreturned : ReceiptTriple l o (run (.note (.returned hash build.bundleIds)))
          fun _ o' => o' = {.returned hash build.bundleIds} + o := by
        apply note_receipt
        · exact fun p r h => ⟨h.held (ho.2 hash rfl), h.held hheld⟩
        · exact fun p => List.mem_append_right _ (List.mem_singleton_self _)
      apply hreturned.bind
      · rintro _ _ rfl
        apply (createTransactionRecord_receipt
          (Multiset.mem_add.mpr (.inr (ho.2 hash rfl)))
          (Multiset.mem_add.mpr (.inl (Multiset.mem_singleton_self _)))).bind
        · rintro _ o' rfl
          exact ((receipting_passes l).uses (emitForBundles_keeps permits_plain _ _) _).mono
            fun _ _ _ => trivial
        · exact fun _ _ _ => trivial
      · exact fun _ _ _ => trivial
    · exact fun _ _ _ => trivial
  · exact fun _ _ _ => trivial

theorem executeSlot_receipt (slot : Slot) :
    ReceiptTriple l own (executeSlot cfg slot) fun _ _ => True := by
  unfold executeSlot
  split
  · exact .done trivial
  rename_i first _
  split
  · exact .done trivial
  split
  · exact .done trivial
  apply ((receipting_passes l).yields (prepareSlot_keeps permits_plain.rpc cfg slot first)
    (prepareSlot_yields slot first) own).bind
  · rintro prepared _ ⟨rfl, hids⟩
    exact submitSlot_receipt (hids prepared rfl) first _
  · exact fun _ _ _ => trivial

theorem handleSlotFailure_plain (slot : Slot) (error : Err) :
    Keeps Op.Plain Req.Plain (handleSlotFailure cfg slot error) := by
  have hp := permits_plain
  unfold handleSlotFailure
  split
  · exact (Task.Uses.forEach fun id _ => failInsufficientFees_keeps updateFailed_plain _ id).bind
      fun _ => emitExecutionFailed_keeps hp slot _ _
  · refine (keeps_run hp.now).bind fun now => (emitExecutionFailed_keeps hp slot _ _).bind fun _ => ?_
    refine (handleExecutionFailure_keeps hp.toReads failure_plain cfg _ _ _).bind fun results => ?_
    exact keeps_ite (fun _ => Mempool.reAddBundles_keeps mayAdd_plain cfg _) fun _ => keeps_pure _

theorem processSlot_receipt (slot : Slot) :
    ReceiptTriple l own (processSlot cfg slot) fun _ _ => True := by
  apply (receipting_passes l).bind (expireSlotBundlesPastTtl_keeps permits_plain.toAnnounces
    (fun _ _ => nofun) slot)
  · intro left
    split
    · exact .done trivial
    · apply (executeSlot_receipt left).recover
      · exact fun _ _ _ => trivial
      · exact fun e o _ => ((receipting_passes l).uses (handleSlotFailure_plain left e) o).mono
          fun _ _ _ => trivial
  · exact fun _ => trivial

theorem executeNext_receipt : ReceiptTriple l own (executeNext cfg) fun _ _ => True := by
  have hop (o : Op) (ho : o.Plain) : Keeps Op.Plain Req.Plain (run o) := keeps_run ho
  apply (receipting_passes l).bind (hop .isProcessing fun _ => trivial)
  · intro isProcessing
    split
    · exact .done trivial
    apply (receipting_passes l).bind (hop (.setProcessing true) fun _ => trivial)
    · intro _
      apply Task.Triple.ensure
      · apply (receipting_passes l).bind (hop .removeFirstSlot fun _ => trivial)
        · intro slot
          cases slot with
          | none => exact .done trivial
          | some slot =>
            dsimp only
            split
            · exact .done trivial
            · exact processSlot_receipt slot
        · exact fun _ => trivial
      · exact fun p r h _ => OnReceipt.runOp h trivial
    · exact fun _ => trivial
  · exact fun _ => trivial

/-! ### The verifier -/

/-- The bundles that a query found linked. -/
theorem findLinks_receipt :
    ReceiptTriple l own (query (.findLinksByTransactionId hash)) fun r o => own ⊆ o ∧
      ∀ links : List BundleTransaction, r = .ok links →
        ∀ id ∈ links.map (·.bundleId), .linked id hash ∈ o := by
  apply call_receipt
  · exact fun _ => trivial
  · exact fun e => ⟨Multiset.Subset.refl _, fun _ => nofun⟩
  · intro p
    let links : List BundleTransaction := Query.run p.1.db (.findLinksByTransactionId hash)
    refine ⟨(links.map fun link => {.linked link.bundleId hash}).sum,
      ⟨fun k hk => Multiset.mem_add.mpr (.inr hk), ?_⟩, ?_⟩
    · rintro _ ⟨⟩ id hid
      obtain ⟨link, hlink, rfl⟩ := List.mem_map.mp hid
      exact Multiset.mem_add.mpr (.inl (mem_sum_singletons.mpr ⟨link, hlink, rfl⟩))
    · intro k hk
      obtain ⟨link, hlink, rfl⟩ := mem_sum_singletons.mp hk
      obtain ⟨hmem, hto⟩ := Table.mem_select.mp hlink
      have hto : link.transactionId = hash := eq_of_beq (Bool.and_eq_true_iff.mp hto).2
      have hfind : p.1.db.bundlesTransactions.find (link.bundleId, link.transactionId) = some link :=
        Table.find_of_mem hmem
      rw [hto] at hfind
      exact Option.isSome_of_eq_some hfind

theorem getTransaction_receipt :
    ReceiptTriple l own (rpc (.getTransaction hash)) fun r o => own ⊆ o ∧
      (r = .ok (some .success) → .succeeded hash ∈ o) := by
  apply call_receipt
  · exact fun _ => trivial
  · exact fun e => ⟨Multiset.Subset.refl _, nofun⟩
  · intro p
    by_cases hsuccess : p.1.network.transaction hash = some .success
    · refine ⟨{.succeeded hash}, ⟨fun k hk => Multiset.mem_add.mpr (.inr hk), fun _ => ?_⟩,
        fun k hk => ?_⟩
      · exact Multiset.mem_add.mpr (.inl (Multiset.mem_singleton_self _))
      · rw [Multiset.mem_singleton.mp hk]
        simp [Receipt.Holds, successes, hsuccess]
    · refine ⟨0, ⟨by simp, fun he => absurd (Except.ok.inj he) hsuccess⟩,
        fun _ hk => absurd hk (Multiset.notMem_zero _)⟩

/-- `verified` is the answer SUCCESS and nothing else. -/
theorem verifyTransactionOnNetwork_receipt :
    ReceiptTriple l own (verifyTransactionOnNetwork hash) fun r o => own ⊆ o ∧
      (r = .ok .verified → .succeeded hash ∈ o) := by
  apply Task.Triple.recover (B := fun r o => own ⊆ o ∧ (r = .ok .verified → .succeeded hash ∈ o))
  · apply getTransaction_receipt.bind
    · intro response o ho
      split
      · exact .done ⟨ho.1, fun _ => ho.2 rfl⟩
      · exact .done ⟨ho.1, nofun⟩
      · exact .done ⟨ho.1, nofun⟩
    · exact fun _ _ ho => ⟨ho.1, nofun⟩
  · exact fun _ _ ho => ho
  · exact fun _ _ ho => .done ⟨ho.1, nofun⟩

theorem handleVerificationSuccess_receipt (hlinked : ∀ id ∈ ids, .linked id hash ∈ own)
    (hsucceeded : .succeeded hash ∈ own) :
    ReceiptTriple l own (handleVerificationSuccess cfg hash ids) fun _ _ => True := by
  have hstatus : ReceiptTriple l own (updateTransactionStatus hash .verified)
      fun _ o => o = own := by
    have hcall : ReceiptTriple l own (command (.updateTransaction hash .verified))
        fun _ o => o = own := command_receipt fun p r h _ => h.held hsucceeded
    apply hcall.bind
    · rintro _ _ rfl
      exact .done rfl
    · exact fun _ _ ho => ho
  have hcomplete : ∀ id ∈ ids, ReceiptTriple l own (completeBundle id) fun _ o => o = own := by
    intro id hid
    have hcall : ReceiptTriple l own (command (.updateBundle id { status := some .completed }))
        fun _ o => o = own :=
      command_receipt fun p r h _ => ⟨hash, h.held (hlinked id hid), h.held hsucceeded⟩
    apply Task.Triple.recover (B := fun _ o => o = own)
    · apply hcall.bind
      · rintro _ _ rfl
        exact .done rfl
      · exact fun _ _ ho => ho
    · exact fun _ _ ho => ho
    · rintro _ _ rfl
      exact .done rfl
  apply (receipting_passes l).bind (findFirstBundleChannel_keeps permits_plain.toReads ids)
  · intro channel
    apply hstatus.bind
    · rintro _ _ rfl
      apply (Task.Triple.forEach hcomplete).bind
      · rintro _ o rfl
        exact ((receipting_passes l).uses (emitCompleted_keeps permits_plain cfg hash ids channel)
          o).mono fun _ _ _ => trivial
      · exact fun _ _ _ => trivial
    · exact fun _ _ _ => trivial
  · exact fun _ => trivial

theorem settleTransaction_receipt {tx : Transaction} {result : VerificationResult}
    (hlinked : ∀ id ∈ ids, .linked id tx.id ∈ own)
    (hsucceeded : result = .verified → .succeeded tx.id ∈ own) :
    ReceiptTriple l own (settleTransaction cfg tx ids result) fun _ _ => True := by
  have hp := permits_plain
  have hfailure (reason detail) : Keeps Op.Plain Req.Plain
      (handleVerificationFailure cfg tx.id reason ids true detail) :=
    handleVerificationFailure_keeps hp.toReads cfg reason detail (fun _ => nofun)
      fun id _ => updateFailed_plain id
  cases result with
  | verified => exact handleVerificationSuccess_receipt hlinked (hsucceeded rfl)
  | failed reason =>
    have hkeeps : Keeps Op.Plain Req.Plain (settleTransaction cfg tx ids (.failed reason)) :=
      (findFirstBundleChannel_keeps hp.toReads _).bind fun channel =>
        (hfailure _ _).bind fun _ => emitFailed_keeps hp _ _ _ _
    exact ((receipting_passes l).uses hkeeps own).mono fun _ _ _ => trivial
  | pending =>
    have hkeeps : Keeps Op.Plain Req.Plain (settleTransaction cfg tx ids .pending) :=
      (keeps_run hp.now).bind fun now =>
        keeps_ite (fun _ => hfailure _ _) fun _ => keeps_pure _
    exact ((receipting_passes l).uses hkeeps own).mono fun _ _ _ => trivial

theorem verifyTransaction_receipt (tx : Transaction) :
    ReceiptTriple l 0 (verifyTransaction cfg tx) fun _ _ => True := by
  apply Task.Triple.recover (B := fun _ _ => True)
  · apply findLinks_receipt.bind
    · intro links o ho
      dsimp only
      split
      · exact .done trivial
      apply verifyTransactionOnNetwork_receipt.bind
      · intro result o' ho'
        exact settleTransaction_receipt (fun id hid => ho'.1 (ho.2 links rfl id hid))
          fun hverified => ho'.2 (by rw [hverified])
      · exact fun _ _ _ => trivial
    · exact fun _ _ _ => trivial
  · exact fun _ _ _ => trivial
  · exact fun _ _ _ => .done trivial

theorem verifyTransactions_receipt : ReceiptTriple l 0 (verifyTransactions cfg) fun _ _ => True := by
  apply Task.Triple.recover (B := fun _ _ => True)
  · apply (receipting_passes l).bind (keeps_query permits_plain.toReads _)
    · intro txs
      have hall : ReceiptTriple l ((txs : List Transaction).map fun _ => (0 : Multiset Receipt)).sum
          (Task.forEach (I := platform) (verifyTransaction cfg) txs) fun _ _ => True :=
        Task.Triple.forEach_rest fun tx _ => verifyTransaction_receipt tx
      simpa using hall
    · exact fun _ => trivial
  · exact fun _ _ _ => trivial
  · exact fun _ _ _ => .done trivial

/-! ### Every call -/

theorem addOperationsBundle_plain (input : BundleRequest) :
    Keeps Op.Plain Req.Plain (addOperationsBundle cfg input) := by
  have hp := permits_plain.toAnnounces
  refine (checkRequest_keeps hp (fun _ _ _ => trivial) cfg input).bind fun adm => ?_
  refine (persistBundle_keeps hp.toReads ?_ ?_).bind fun entity => ?_
  · intro data hpending _ p hcompleted
    rw [hpending] at hcompleted
    cases hcompleted
  · intro data _ hpending p hcompleted
    rw [hpending] at hcompleted
    cases hcompleted
  · exact (enqueueBundle_keeps mayAdd_plain (fun _ _ => trivial) (fun _ _ _ => trivial) cfg input adm
      entity).bind fun _ => keeps_pure _

theorem Call.program_receipt (fuel : Nat) (call : Call) :
    ReceiptTriple l 0 (call.program cfg fuel) fun _ _ => True := by
  have hplain (h : Keeps Op.Plain Req.Plain (call.program cfg fuel)) :
      ReceiptTriple l 0 (call.program cfg fuel) fun _ _ => True :=
    ((receipting_passes l).uses h 0).mono fun _ _ _ => trivial
  cases call with
  | executeNext => exact executeNext_receipt
  | verifyTransactions => exact verifyTransactions_receipt
  | launch =>
    apply hplain
    exact (Mempool.initializeMempool_keeps mayAdd_plain (fun _ _ _ => trivial) cfg fuel).bind
      fun _ => keeps_run fun _ => trivial
  | addOperationsBundle input =>
    exact hplain ((addOperationsBundle_plain input).bind fun _ => keeps_pure _)
  | expireBundles =>
    exact hplain (Mempool.expireBundles_keeps permits_plain.toAnnounces (fun _ => trivial)
      mayExpire_plain)
  | addBundle bundle => exact hplain (Mempool.addBundle_keeps mayAdd_plain cfg bundle)
  | reAddBundles bundles => exact hplain (Mempool.reAddBundles_keeps mayAdd_plain cfg bundles)
  | purgeBundles ids =>
    have hpurge : Op.Plain (.purgeBundles ids) := fun _ => trivial
    exact hplain ((keeps_run hpurge).bind fun _ => keeps_pure _)
  | removeFirstSlot =>
    have hremove : Op.Plain .removeFirstSlot := fun _ => trivial
    exact hplain ((keeps_run hremove).bind fun _ => keeps_pure _)
  | expireByIds ids =>
    have hexpire : Req.Plain (.command (.expireByIds ids BundleStatus.active)) := fun _ => trivial
    exact hplain ((keeps_command hexpire).bind fun _ => keeps_pure _)

end Triples

/-! ## Every run -/

/-- One submission, from the hand-over of a slot to the network's SUCCESS, that
had the bundle in it. -/
structure SettledOnChain (s : State) (answered : List TxHash) (id : BundleId) (hash : TxHash) :
    Prop where
  submitted : ∃ channel pp bundles, .handed channel pp bundles ∈ s.history ∧
    .returned hash (bundles.map (·.bundleId)) ∈ s.history ∧ id ∈ bundles.map (·.bundleId)
  accepted : hash ∈ s.network.accepted
  linked : (s.db.bundlesTransactions.find (id, hash)).isSome = true
  recorded : (s.db.transactions.find hash).isSome = true
  succeeded : hash ∈ answered

section Runs
variable {cfg : Config} {fuel : Nat} {allowed : State → Call → Bool} {s : State} {c : ProviderPool}
  {answered : List TxHash}

theorem OnReceipt.onChain {p : Informed} {known : Multiset Receipt} (h : OnReceipt p known)
    (hreferenced : p.1.Referenced) {id : BundleId} {hash : TxHash}
    (hconfirms : Confirms p id hash) : SettledOnChain p.1 p.2 id hash := by
  obtain ⟨ids, hreturned, hid⟩ := h.linked id hash hconfirms.1
  obtain ⟨haccepted, channel, pp, bundles, hhanded, rfl⟩ := h.returned hash ids hreturned
  obtain ⟨link, hlink⟩ := Option.isSome_iff_exists.mp hconfirms.1
  exact ⟨⟨channel, pp, bundles, hhanded, hreturned, hid⟩, haccepted, hconfirms.1,
    hreferenced (id, hash) link hlink, hconfirms.2⟩

/-- In every state a run reaches, all that is said is on receipt. -/
theorem onReceipt_reachable (hfresh : Fresh cfg s)
    (h : (process cfg fuel allowed).Observed successes Machine.Free
      ((process cfg fuel allowed).init s) [] c answered) :
    ∃ known, OnReceipt (c.state, answered) known := by
  have hshares : Shares (host.observe successes) (fun _ => receipting) OnReceipt (fun _ _ _ => True)
      (c.state, answered) c.tasks := by
    apply h.shares (K := fun _ => receipting) (fun _ => rfl) (Call.program_receipt fuel .launch)
    · exact fun _ l _ => Call.program_receipt fuel l
    · exact ⟨fun _ _ _ _ _ _ _ _ _ => trivial, fun _ _ _ _ _ _ _ _ => trivial,
        fun _ _ _ _ _ _ _ _ _ => trivial⟩
    · exact fun _ _ d _ _ hi => OnReceipt.drift hi d
    · exact fun _ _ _ _ hi => OnReceipt.reboot hi cfg
    · exact shares_single (Call.program_receipt fuel .launch) (OnReceipt.fresh hfresh)
  exact hshares.holds

/-- **COMPLETED is settled on-chain.** In every run from a fresh database, with
any calls, crashes and failures in any order, a bundle that is COMPLETED was in
a slot handed over under a transaction that was accepted, returned, recorded, linked to
it and answered SUCCESS; and a transaction that is VERIFIED was answered SUCCESS. -/
theorem completed_onChain (hfresh : Fresh cfg s)
    (h : (process cfg fuel allowed).Observed successes Machine.Free
      ((process cfg fuel allowed).init s) [] c answered) :
    (∀ id row, c.state.db.operationsBundles.find id = some row → row.status = .completed →
      ∃ hash, SettledOnChain c.state answered id hash) ∧
    ∀ hash row, c.state.db.transactions.find hash = some row → row.status = .verified →
      hash ∈ answered := by
  obtain ⟨known, honReceipt⟩ := onReceipt_reachable hfresh h
  refine ⟨fun id row hrow hstatus => ?_, honReceipt.verified⟩
  obtain ⟨hash, hconfirms⟩ := honReceipt.completed id row hrow hstatus
  have hintact : c.state.Intact := State.Intact.run h.run hfresh.intact
  exact ⟨hash, honReceipt.onChain hintact.referenced hconfirms⟩

end Runs

namespace Small

/-- The tick of the verifier that settles it. -/
def settled : List ProviderChoice :=
  submitted ++ [.start .verifyTransactions] ++ serves 3 9 ++ [.resume 3]

end Small

/-- One deposit, admitted, submitted and verified. -/
theorem completed_onChain_small : ∃ (c : ProviderPool) (answered : List TxHash),
    answered = ["tx"] ∧ SettledOnChain c.state answered "deposit 10" "tx" := by
  have hwatch : ((provider Small.config 1).watch successes Machine.Free Small.settled
      ((provider Small.config 1).init Small.state) []).map
        (fun r => r.2 == ["tx"] && (r.1.state.db.operationsBundles.find "deposit 10").any
          (·.status == .completed)) = some true := by
    decide +kernel
  obtain ⟨c, answered, h, hp⟩ := Machine.exists_observed Small.settled
    (fun (s : State) (answered : List TxHash) => answered == ["tx"] &&
      (s.db.operationsBundles.find "deposit 10").any (·.status == .completed)) hwatch
  obtain ⟨htold, hcompleted⟩ := Bool.and_eq_true_iff.mp hp
  obtain ⟨row, hrow, hstatus⟩ := (Option.any_eq_true _ _).mp hcompleted
  obtain ⟨hash, honchain⟩ :=
    (completed_onChain Small.fresh h).1 "deposit 10" row hrow (eq_of_beq hstatus)
  have hhash : hash = "tx" := by
    have hmem := honchain.succeeded
    rw [eq_of_beq htold] at hmem
    exact List.mem_singleton.mp hmem
  exact ⟨c, answered, eq_of_beq htold, hhash ▸ honchain⟩

end ProviderPlatform
