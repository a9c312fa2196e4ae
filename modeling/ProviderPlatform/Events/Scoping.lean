import ProviderPlatform.Events.Owners
import ProviderPlatform.Lifecycle.Handover

/-! # The scope of an event

`emitForBundles` looks up the PPs of a list of bundles and sends each of them
the same payload, with the ids of all the bundles. Each task of the mempool, the
executor and the verifier finds out of one PP whatever it passes there, and a
run in which PPs stay apart tells every PP of its own bundles only. -/
namespace ProviderPlatform
open Async Store

/-! ## The tasks -/

/-- Bundles join their kin, and no write moves a row to another PP. -/
def scoping : Discipline platform State (Multiset Finding) where
  inv := Scoped
  mayRun s (o : Op) := ∀ offer ∈ o.offers s, offer.1.TakesKin offer.2
  mayServe := KeepsPp
  mayReject _ _ := True

/-- Queues no bundle, and names none in what it fans out. -/
def Op.Discreet : Op → Prop
  | .place _ => False
  | .emit _ payload => payload.fannedOut = []
  | _ => True

/-- The task knows that these bundles are the PP's. -/
def Grants (own : Multiset Finding) (pp : PublicKey) (ids : List BundleId) : Prop :=
  ∀ id ∈ ids, .owned pp id ∈ own

abbrev ScopeTriple {α : Type} (own : Multiset Finding) (t : Promise α)
    (B : Except Err α → Multiset Finding → Prop) : Prop :=
  Task.Triple host scoping own t B

theorem scoping_passes : Task.Passes host scoping Op.Discreet Req.Quiet where
  run o ho s r h hkin := by
    apply Scoped.runOp h hkin
    · rintro bundle rfl
      exact ho.elim
    · rintro scope payload rfl id hid
      rw [show payload.fannedOut = [] from ho] at hid
      cases hid
  serve q hq s r h hkeeps := by
    cases q with
    | command w => exact Scoped.command h hkeeps hq
    | query q => exact h
    | rpc rpc => exact Scoped.same h (.refl _) h.slots h.events

theorem announces_discreet : Announces Op.Discreet Req.Quiet where
  query _ := trivial
  rpc _ := trivial
  now := trivial
  notice _ _ h := h
  isDisabled _ := trivial

section Events
variable {own : Multiset Finding} {pp : PublicKey} {ids : List BundleId} {payload : EventPayload}

/-- What a query tells, and what the task learns from it. -/
theorem query_scoped {q : Query} {C : q.Ans → Multiset Finding → Prop}
    (h : ∀ s r, Scoped s (own + r) → ∃ o, C (q.run s.db) o ∧ Scoped s (o + r)) :
    ScopeTriple own (query q) fun r o => (∀ a, r = .ok a → C a o) ∧ ∀ e, r = .error e → o = own := by
  apply Task.Triple.call
  · intro s r hi _
    obtain ⟨o, ho, hi⟩ := h s r hi
    refine ⟨o, ⟨fun a ha => ?_, fun _ => nofun⟩, hi⟩
    cases ha
    exact ho
  · exact fun s r hi _ e => ⟨own, ⟨fun _ => nofun, fun _ _ => rfl⟩, hi⟩

theorem Grants.owner {s : State} {r : Multiset Finding} (h : Grants own pp ids)
    (hi : Scoped s (own + r)) : ∀ id ∈ ids, s.ownerOf id = some pp :=
  fun id hid => hi.holds _ (Multiset.mem_add.mpr (.inl (h id hid)))

/-- Bundles of one PP are looked up as that PP's. -/
theorem distinctPps_of_owner {s : State} (h : ∀ id ∈ ids, s.ownerOf id = some pp) :
    ∀ pp' ∈ distinctPps (Query.run s.db (.findBundlePps ids)), pp' = pp := by
  intro pp' hmem
  have hmem := (List.mem_filter.mp (List.mem_eraseDups.mp hmem)).1
  obtain ⟨_, hrows, rfl⟩ := List.mem_filterMap.mp hmem
  obtain ⟨row, hrow, hpp⟩ := List.mem_map.mp hrows
  obtain ⟨hrow, hid⟩ := Table.mem_select.mp hrow
  have hown := h row.id (by simpa using hid)
  rw [State.ownerOf, Table.find_of_mem hrow, Option.bind_some, hpp] at hown
  exact Option.some.inj hown

theorem emitInScope_scoped (h : Grants own pp payload.fannedOut) :
    ScopeTriple own (emitInScope payload pp) fun _ o => o = own := by
  have hscope : ScopeTriple own (query (.resolveScopeForPp pp)) fun r o =>
      (∀ scope, r = .ok scope → (∀ sc ∈ scope, sc.ppPublicKey = pp) ∧ o = own) ∧
        ∀ e, r = .error e → o = own := by
    apply query_scoped
    refine fun s r hi => ⟨own, ⟨fun sc hsc => ?_, rfl⟩, hi⟩
    obtain ⟨row, hrow, rfl⟩ := Option.map_eq_some_iff.mp hsc
    have hkey : row.publicKey = pp := Table.find_key hrow
    exact hkey
  apply hscope.bind
  · intro scope o ho
    obtain ⟨hpp, rfl⟩ := ho.1 scope rfl
    cases scope with
    | none => exact .done rfl
    | some sc =>
      apply Task.Triple.op
      intro s r hi hkin
      refine ⟨o, rfl, Scoped.runOp hi hkin (fun _ => nofun) fun scope' payload' he id hid => ?_⟩
      cases he
      rw [hpp sc rfl]
      exact h.owner hi id hid
  · exact fun e o ho => ho.2 e rfl

/-- **One PP is sent what is all its own.** -/
theorem emitForBundles_scoped (h : Grants own pp ids) (hpayload : payload.fannedOut ⊆ ids) :
    ScopeTriple own (emitForBundles ids payload) fun _ o => o = own := by
  unfold emitForBundles
  split
  · exact .done rfl
  have hrows : ScopeTriple own (query (.findBundlePps ids)) fun r o =>
      (∀ rows, r = .ok rows → (∀ pp' ∈ distinctPps rows, pp' = pp) ∧ o = own) ∧
        ∀ e, r = .error e → o = own :=
    query_scoped fun s r hi => ⟨own, ⟨distinctPps_of_owner (h.owner hi), rfl⟩, hi⟩
  apply Task.Triple.recover (B := fun _ o => o = own)
  · apply hrows.bind
    · intro rows o ho
      obtain ⟨hpps, rfl⟩ := ho.1 rows rfl
      apply Task.Triple.forEach
      intro pp' hpp'
      rw [hpps pp' hpp']
      exact emitInScope_scoped fun id hid => h id (hpayload hid)
    · exact fun e o ho => ho.2 e rfl
  · exact fun _ _ ho => ho
  · rintro _ _ rfl
    exact .done rfl

end Events

section Triples
variable {cfg : Config} {own : Multiset Finding} {slot : Slot} {bundle : SlotBundle}

/-! ### Queueing -/

theorem place_scoped (h : .owned bundle.ppPublicKey bundle.bundleId ∈ own) :
    ScopeTriple own (run (.place bundle)) fun _ o => o = own := by
  apply Task.Triple.op
  intro s r hi hkin
  refine ⟨own, rfl, Scoped.runOp hi hkin (fun b he => ?_) fun _ _ => nofun⟩
  cases he
  exact hi.holds _ (Multiset.mem_add.mpr (.inl h))

theorem addBundle_scoped (h : .owned bundle.ppPublicKey bundle.bundleId ∈ own) :
    ScopeTriple own (Mempool.addBundle cfg bundle) fun _ o => o = own :=
  addBundle_owned scoping_passes announces_discreet (fun _ => trivial) (fun _ => trivial)
    (fun _ => trivial) rfl (place_scoped h)

theorem reAddBundles_scoped {bundles : List SlotBundle}
    (h : ∀ b ∈ bundles, .owned b.ppPublicKey b.bundleId ∈ own) :
    ScopeTriple own (Mempool.reAddBundles cfg bundles) fun _ o => o = own := by
  apply Task.Triple.forEach
  intro b hb
  apply (addBundle_scoped (h b hb)).recover
  · exact fun _ _ ho => ho
  · rintro _ _ rfl
    exact .done rfl

/-- The boot reads the PP of each row beside the row. -/
theorem initializeMempool_scoped (fuel : Nat) :
    ScopeTriple 0 (Mempool.initializeMempool cfg fuel) fun _ _ => True := by
  have h := announces_discreet
  have hexpiry : Keeps Op.Discreet Req.Quiet (Mempool.startupExpiry cfg fuel) :=
    Mempool.startupExpiry_keeps h.toReads (fun _ _ => trivial) cfg fuel
  let finding (row : OperationsBundle) : Multiset Finding :=
    {.owned (row.ppPublicKey.getD "") row.id}
  have hread : ScopeTriple 0 (query .findPendingOrProcessing) fun r o =>
      ∀ rows : List OperationsBundle, r = .ok rows → o = (rows.map finding).sum + 0 := by
    apply Task.Triple.mono (query_scoped (C := fun rows o => o = (rows.map finding).sum) ?_)
    · exact fun r o ho rows he => (ho.1 rows he).trans (add_zero _).symm
    · intro s r hi
      rw [zero_add] at hi
      refine ⟨_, rfl, hi.learn_all fun row hrow => ?_⟩
      have hfind := Table.find_of_mem (Table.mem_select.mp hrow).1
      obtain ⟨pp, hpp⟩ := Option.isSome_iff_exists.mp (hi.rows row.id row hfind)
      rw [State.ownerOf, hfind, Option.bind_some, hpp, Option.getD_some]
  apply scoping_passes.bind hexpiry
  · intro _
    apply (loadPendingBundlesFromDB_owned scoping_passes h hread).bind
    · intro bundles o ho
      obtain ⟨rows, spare, hall, rfl⟩ := ho bundles rfl
      have hadd : ScopeTriple (rows.map finding).sum
          (Task.forEach (I := platform) (Mempool.addBundle cfg) bundles) fun _ _ => True := by
        apply Task.Triple.forEach_zip hall
        intro row b hmirrors
        apply (addBundle_scoped _).mono fun _ _ _ => trivial
        obtain ⟨operations, -, hbundle⟩ := hmirrors
        rw [hbundle]
        exact Multiset.mem_singleton_self _
      rw [add_zero]
      exact (hadd.frame spare).mono fun _ _ _ => trivial
    · exact fun _ _ _ => trivial
  · exact fun _ => trivial

/-! ### The executor -/

/-- The bundles of the slot are of one PP, and the task knows it. -/
structure Attested (own : Multiset Finding) (slot : Slot) : Prop where
  onePp : slot.OnePp
  owned : ∀ b ∈ slot.bundles, .owned b.ppPublicKey b.bundleId ∈ own

theorem Attested.sublist {slot' : Slot} (h : Attested own slot)
    (hsub : slot'.bundles.Sublist slot.bundles) : Attested own slot' :=
  ⟨fun b hb b' hb' => h.onePp b (hsub.subset hb) b' (hsub.subset hb'),
    fun b hb => h.owned b (hsub.subset hb)⟩

theorem Attested.mono {own' : Multiset Finding} (h : Attested own slot) (hsub : own ⊆ own') :
    Attested own' slot :=
  ⟨h.onePp, fun b hb => hsub (h.owned b hb)⟩

/-- They are all of the PP of any of them. -/
theorem Attested.grants (h : Attested own slot) {first : SlotBundle} (hfirst : first ∈ slot.bundles) :
    Grants own first.ppPublicKey (slot.bundles.map (·.bundleId)) := by
  intro id hid
  obtain ⟨b, hb, rfl⟩ := List.mem_map.mp hid
  rw [h.onePp first hfirst b hb]
  exact h.owned b hb

theorem removeFirstSlot_scoped :
    ScopeTriple 0 (run .removeFirstSlot) fun r o => ∀ slot, r = .ok (some slot) → Attested o slot := by
  apply Task.Triple.op
  intro s r hi hkin
  rw [zero_add] at hi
  have hnext : Scoped (runOp .removeFirstSlot s).2 r :=
    Scoped.runOp hi hkin (fun _ => nofun) fun _ _ => nofun
  cases hpull : s.memory.mempool.removeFirstSlot.1 with
  | none =>
    refine ⟨0, fun slot he => ?_, by rwa [zero_add]⟩
    have hnone : s.memory.mempool.removeFirstSlot.1 = some slot := Except.ok.inj he
    rw [hpull] at hnone
    cases hnone
  | some slot =>
    have hvouched := hi.slots slot (Mempool.removeFirstSlot_mem hpull)
    refine ⟨_, fun slot' he => ?_, hnext.learn_all hvouched.owned⟩
    have hslot : s.memory.mempool.removeFirstSlot.1 = some slot' := Except.ok.inj he
    rw [hpull] at hslot
    cases hslot
    exact ⟨hvouched.onePp, fun b hb => mem_sum_singletons.mpr ⟨b, hb, rfl⟩⟩

theorem createLink_scoped {hash : TxHash} {pp : PublicKey} {id : BundleId}
    (hopened : .opened hash pp ∈ own) (howned : .owned pp id ∈ own) :
    ScopeTriple own (createLink hash id) fun _ o => o = own := by
  apply scoping_passes.bind (keeps_run announces_discreet.now)
  · intro now
    have hcall : ScopeTriple own (command (.createLink ⟨id, hash, now, "system"⟩))
        fun _ o => o = own := by
      apply Task.Triple.call
      · intro s r hi _
        exact ⟨own, rfl, Scoped.createLink hi (Multiset.mem_add.mpr (.inl hopened))
          (Multiset.mem_add.mpr (.inl howned))⟩
      · exact fun s r hi _ e => ⟨own, rfl, hi⟩
    apply hcall.bind
    · rintro _ _ rfl
      exact .done rfl
    · exact fun _ _ ho => ho
  · exact fun _ => rfl

/-- Whoever creates a transaction opens it for a PP of its choice. -/
theorem createTransaction_scoped (data : NewTransaction) (pp : PublicKey) :
    ScopeTriple own (command (.createTransaction data)) fun r o =>
      own ⊆ o ∧ ∀ row, r = .ok row → .opened data.id pp ∈ o := by
  apply Task.Triple.call
  · intro s r hi _
    obtain ⟨t, hinsert, -, -⟩ | ⟨hanswer, hstate⟩ := serve_createTransaction data s
    · refine ⟨{.opened data.id pp} + own, ⟨fun k hk => ?_, fun _ _ => ?_⟩, ?_⟩
      · exact Multiset.mem_add.mpr (.inr hk)
      · exact Multiset.mem_add.mpr (.inl (Multiset.mem_singleton_self _))
      · rw [add_assoc]
        exact Scoped.createTransaction hi hinsert pp
    · refine ⟨own, ⟨fun _ hk => hk, fun row he => ?_⟩, ?_⟩
      · have he : (serve (.command (.createTransaction data)) s).1 = .ok row := he
        rw [hanswer] at he
        cases he
      · show Scoped (serve (.command (.createTransaction data)) s).2 _
        rw [hstate]
        exact hi
  · exact fun s r hi _ e => ⟨own, ⟨fun _ hk => hk, fun _ => nofun⟩, hi⟩

/-- The transaction is opened, and every link made, for the one PP. -/
theorem createTransactionRecord_scoped {hash : TxHash} {pp : PublicKey} {ids : List BundleId}
    (h : Grants own pp ids) :
    ScopeTriple own (createTransactionRecord cfg hash ids) fun _ o => own ⊆ o := by
  have hreads := announces_discreet.toReads
  apply scoping_passes.bind (keeps_rpc hreads .getLatestLedger)
  · intro latestLedger
    apply scoping_passes.bind (keeps_run hreads.now)
    · intro now
      apply (createTransaction_scoped _ pp).bind
      · intro row o ho
        have hlinks : ScopeTriple o (Task.forEach (I := platform) (createLink hash) ids)
            fun _ o' => o' = o :=
          Task.Triple.forEach fun id hid => createLink_scoped (ho.2 row rfl) (ho.1 (h id hid))
        apply hlinks.mono
        rintro _ _ rfl
        exact ho.1
      · exact fun _ _ ho => ho.1
    · exact fun _ _ hk => hk
  · exact fun _ _ hk => hk

theorem submitSlot_scoped (h : Attested own slot) {first : SlotBundle} (hfirst : first ∈ slot.bundles)
    {build : TransactionBuildResult} (hids : build.bundleIds = slot.bundles.map (·.bundleId))
    (expiration : Nat) :
    ScopeTriple own (submitSlot cfg slot first build expiration) fun _ o => own ⊆ o := by
  have hnote (submission : Submission) :
      Keeps Op.Discreet Req.Quiet (run (.note submission)) := keeps_run trivial
  have hgrants : Grants own first.ppPublicKey build.bundleIds := hids ▸ h.grants hfirst
  apply scoping_passes.bind (hnote _)
  · intro _
    apply scoping_passes.bind (submitTransactionToNetwork_keeps announces_discreet.rpc cfg _ _ _ _)
    · intro hash
      apply scoping_passes.bind (hnote _)
      · intro _
        apply (createTransactionRecord_scoped hgrants).bind
        · intro _ o ho
          have hkept : Grants o first.ppPublicKey build.bundleIds := fun id hid => ho (hgrants id hid)
          apply (emitForBundles_scoped hkept (List.Subset.refl _)).mono
          rintro _ _ rfl
          exact ho
        · exact fun _ _ ho => ho
      · exact fun _ _ hk => hk
    · exact fun _ _ hk => hk
  · exact fun _ _ hk => hk

theorem executeSlot_scoped (h : Attested own slot) :
    ScopeTriple own (executeSlot cfg slot) fun _ o => own ⊆ o := by
  have hkept : own ⊆ own := fun _ hk => hk
  unfold executeSlot
  split
  · exact .done hkept
  rename_i first hfirst
  have hmem : first ∈ slot.bundles := List.mem_of_head? hfirst
  split
  · exact .done hkept
  split
  · exact .done hkept
  apply (scoping_passes.yields (prepareSlot_keeps announces_discreet.rpc cfg slot first)
    (prepareSlot_yields slot first) own).bind
  · rintro prepared _ ⟨rfl, hids⟩
    exact submitSlot_scoped h hmem (hids prepared rfl) _
  · rintro _ _ ⟨rfl, -⟩
    exact hkept

theorem emitExecutionFailed_scoped (h : Attested own slot) (error : Err) :
    ScopeTriple own (emitExecutionFailed slot (slot.bundles.map (·.bundleId)) error)
      fun _ o => o = own := by
  unfold emitExecutionFailed
  split
  · rename_i channel hchannel
    obtain ⟨first, hfirst, -⟩ := Option.map_eq_some_iff.mp (Option.filter_eq_some_iff.mp hchannel).1
    exact emitForBundles_scoped (h.grants (List.mem_of_head? hfirst)) fun _ hid => hid
  · exact .done rfl

/-- What is retried is of the slot, under the same PP. -/
theorem buildRetryBundles_attested (h : Attested own slot) (metaList : List ExecutionFailureResult) :
    ∀ b ∈ buildRetryBundles slot metaList, .owned b.ppPublicKey b.bundleId ∈ own := by
  intro b hb
  obtain ⟨b', hmem, hretry⟩ := List.mem_filterMap.mp hb
  obtain ⟨m, -, rfl⟩ := Option.map_eq_some_iff.mp hretry
  exact h.owned b' hmem

theorem handleSlotFailure_scoped (h : Attested own slot) (error : Err) :
    ScopeTriple own (handleSlotFailure cfg slot error) fun _ _ => True := by
  have hemit := emitExecutionFailed_scoped h error
  unfold handleSlotFailure
  split
  · apply scoping_passes.bind (Task.Uses.forEach fun id _ =>
      failInsufficientFees_keeps (fun _ _ _ => trivial) _ id)
    · exact fun _ => hemit.mono fun _ _ _ => trivial
    · exact fun _ => trivial
  · apply scoping_passes.bind (keeps_run announces_discreet.now)
    · intro now
      apply hemit.bind
      · rintro _ _ rfl
        apply scoping_passes.bind (handleExecutionFailure_keeps announces_discreet.toReads
          (fun _ _ _ => trivial) cfg _ _ _)
        · intro results
          dsimp only
          split
          · exact (reAddBundles_scoped (buildRetryBundles_attested h results)).mono
              fun _ _ _ => trivial
          · exact .done trivial
        · exact fun _ => trivial
      · exact fun _ _ _ => trivial
    · exact fun _ => trivial

theorem processSlot_scoped (h : Attested own slot) :
    ScopeTriple own (processSlot cfg slot) fun _ _ => True := by
  apply (scoping_passes.yields
    (expireSlotBundlesPastTtl_keeps announces_discreet (fun _ => trivial) slot)
    (expireSlotBundlesPastTtl_yields slot) own).bind
  · rintro left o ⟨rfl, hsub⟩
    have hleft : Attested o left := h.sublist (hsub left rfl)
    split
    · exact .done trivial
    · apply (executeSlot_scoped hleft).recover
      · exact fun _ _ _ => trivial
      · exact fun e o' ho => handleSlotFailure_scoped (hleft.mono ho) e
  · exact fun _ _ _ => trivial

theorem executeNext_scoped : ScopeTriple 0 (executeNext cfg) fun _ _ => True := by
  have hprocessing : Keeps Op.Discreet Req.Quiet (run .isProcessing) := keeps_run trivial
  have hset : Keeps Op.Discreet Req.Quiet (run (.setProcessing true)) := keeps_run trivial
  apply scoping_passes.bind hprocessing
  · intro isProcessing
    split
    · exact .done trivial
    apply scoping_passes.bind hset
    · intro _
      apply Task.Triple.ensure
      · apply removeFirstSlot_scoped.bind
        · intro slot o ho
          cases slot with
          | none => exact .done trivial
          | some slot =>
            dsimp only
            split
            · exact .done trivial
            · exact processSlot_scoped (ho slot rfl)
        · exact fun _ _ _ => trivial
      · exact fun s r hi hkin => scoping_passes.run (.setProcessing false) trivial s r hi hkin
    · exact fun _ => trivial
  · exact fun _ => trivial

/-! ### The verifier -/

/-- The links of a transaction are of one PP. -/
theorem findLinks_scoped (txId : TxHash) :
    ScopeTriple 0 (query (.findLinksByTransactionId txId)) fun r o =>
      ∀ links : List BundleTransaction, r = .ok links → ∃ pp, Grants o pp (links.map (·.bundleId)) := by
  have hread : ScopeTriple 0 (query (.findLinksByTransactionId txId)) fun r o =>
      (∀ links : List BundleTransaction, r = .ok links →
        ∃ pp, Grants o pp (links.map (·.bundleId))) ∧ ∀ e, r = .error e → o = 0 := by
    apply query_scoped
    intro s r hi
    rw [zero_add] at hi
    obtain ⟨pp, hpp⟩ := hi.transactions txId
    let links : List BundleTransaction := Query.run s.db (.findLinksByTransactionId txId)
    have howner : ∀ link ∈ links, s.ownerOf link.bundleId = some pp := by
      intro link hlink
      obtain ⟨hmem, hto⟩ := Table.mem_select.mp hlink
      have hto : link.transactionId = txId := eq_of_beq (Bool.and_eq_true_iff.mp hto).2
      have hfind : s.db.bundlesTransactions.find (link.bundleId, txId) = some link := by
        rw [← hto]
        exact Table.find_of_mem hmem
      exact hpp link.bundleId link hfind
    refine ⟨_, ⟨pp, fun id hid => ?_⟩, hi.learn_all howner⟩
    obtain ⟨link, hlink, rfl⟩ := List.mem_map.mp hid
    exact mem_sum_singletons.mpr ⟨link, hlink, rfl⟩
  exact hread.mono fun _ _ ho => ho.1

section Verifier
variable {pp : PublicKey} {ids : List BundleId} (h : Grants own pp ids)
include h

theorem emitBundleEvents_scoped (txId : TxHash) (channel : ContractId) {id : BundleId}
    (hid : id ∈ ids) :
    ScopeTriple own (emitBundleEvents cfg txId channel id) fun _ o => o = own := by
  have hone : Grants own pp [id] := by
    intro id' hid'
    rw [List.mem_singleton.mp hid']
    exact h id hid
  apply scoping_passes.bind (keeps_query announces_discreet.toReads _)
  · intro bundle
    apply Task.Triple.forEach
    intro mlxdr _
    unfold emitForOperation
    split
    · exact emitForBundles_scoped hone (List.Subset.refl _)
    · exact emitForBundles_scoped hone (List.Subset.refl _)
    · exact .done rfl
  · exact fun _ => rfl

theorem emitCompleted_scoped (txId : TxHash) (channel : Option ContractId) :
    ScopeTriple own (emitCompleted cfg txId ids channel) fun _ o => o = own := by
  cases channel with
  | none => exact .done rfl
  | some channel =>
    apply (emitForBundles_scoped h (List.Subset.refl _)).bind
    · rintro _ _ rfl
      exact Task.Triple.forEach fun id hid => emitBundleEvents_scoped h txId channel hid
    · exact fun _ _ ho => ho

theorem emitFailed_scoped (txId : TxHash) (reason : String) (channel : Option ContractId) :
    ScopeTriple own (emitFailed txId ids reason channel) fun _ o => o = own := by
  cases channel with
  | none => exact .done rfl
  | some channel => exact emitForBundles_scoped h (List.Subset.refl _)

theorem settleTransaction_scoped (tx : Transaction) (result : VerificationResult) :
    ScopeTriple own (settleTransaction cfg tx ids result) fun _ o => o = own := by
  have hreads := announces_discreet.toReads
  have hfailure (reason : String) (detail : StructuredFailureDetail) :
      Keeps Op.Discreet Req.Quiet
        (handleVerificationFailure cfg tx.id reason ids true detail) :=
    handleVerificationFailure_keeps hreads cfg reason detail trivial fun _ _ _ _ => trivial
  have hstatus : Keeps Op.Discreet Req.Quiet (updateTransactionStatus tx.id .verified) :=
    (keeps_command trivial).bind fun _ => keeps_pure _
  have hcomplete : Keeps Op.Discreet Req.Quiet
      (Task.forEach (I := platform) completeBundle ids) :=
    Task.Uses.forEach fun _ _ => ((keeps_command trivial).bind fun _ => keeps_pure _).recover
      fun _ => keeps_pure _
  cases result with
  | verified =>
    apply scoping_passes.bind (findFirstBundleChannel_keeps hreads ids)
    · intro channel
      apply scoping_passes.bind hstatus
      · intro _
        apply scoping_passes.bind hcomplete
        · exact fun _ => emitCompleted_scoped h tx.id channel
        · exact fun _ => rfl
      · exact fun _ => rfl
    · exact fun _ => rfl
  | failed reason =>
    apply scoping_passes.bind (findFirstBundleChannel_keeps hreads ids)
    · intro channel
      apply scoping_passes.bind (hfailure _ _)
      · exact fun _ => emitFailed_scoped h tx.id reason channel
      · exact fun _ => rfl
    · exact fun _ => rfl
  | pending =>
    apply scoping_passes.bind (keeps_run hreads.now)
    · intro now
      split
      · exact scoping_passes.uses (hfailure _ _) own
      · exact .done rfl
    · exact fun _ => rfl

end Verifier

theorem verifyTransaction_scoped (tx : Transaction) :
    ScopeTriple 0 (verifyTransaction cfg tx) fun _ _ => True := by
  apply Task.Triple.recover (B := fun _ _ => True)
  · apply (findLinks_scoped tx.id).bind
    · intro links o ho
      obtain ⟨pp, hpp⟩ := ho links rfl
      dsimp only
      split
      · exact .done trivial
      apply scoping_passes.bind (verifyTransactionOnNetwork_keeps announces_discreet.toReads tx.id)
      · exact fun result => (settleTransaction_scoped hpp tx result).mono fun _ _ _ => trivial
      · exact fun _ => trivial
    · exact fun _ _ _ => trivial
  · exact fun _ _ _ => trivial
  · exact fun _ _ _ => .done trivial

theorem verifyTransactions_scoped : ScopeTriple 0 (verifyTransactions cfg) fun _ _ => True := by
  apply Task.Triple.recover (B := fun _ _ => True)
  · apply scoping_passes.bind (keeps_query announces_discreet.toReads _)
    · intro txs
      have hall : ScopeTriple ((txs : List Transaction).map fun _ => (0 : Multiset Finding)).sum
          (Task.forEach (I := platform) (verifyTransaction cfg) txs) fun _ _ => True :=
        Task.Triple.forEach_rest fun tx _ => verifyTransaction_scoped tx
      simpa using hall
    · exact fun _ => trivial
  · exact fun _ _ _ => trivial
  · exact fun _ _ _ => .done trivial

/-! ### Admission -/

/-- Whose the row that was inserted is. -/
def RowOwned (entity : Written OperationsBundle) (own : Multiset Finding) : Prop :=
  ∀ row, entity = .row row → .owned (row.ppPublicKey.getD "") row.id ∈ own

theorem createBundle_scoped (data : NewOperationsBundle) :
    ScopeTriple own (command (.createBundle data)) fun r o =>
      ∀ row : OperationsBundle, r = .ok row → RowOwned (.row row) o := by
  apply Task.Triple.call
  · intro s r hi _
    have hkept : Scoped (serve (.command (.createBundle data)) s).2 (own + r) :=
      Scoped.command (w := .createBundle data) hi trivial trivial
    obtain ⟨-, hanswer, hfind⟩ | ⟨-, hanswer, -⟩ := serve_createBundle data s
    · have hown : (serve (.command (.createBundle data)) s).2.ownerOf data.id =
          some data.ppPublicKey := by
        rw [State.ownerOf, hfind, if_pos rfl]
        rfl
      refine ⟨{.owned data.ppPublicKey data.id} + own, fun row he row' hrow => ?_, ?_⟩
      · have he : (serve (.command (.createBundle data)) s).1 = .ok row := he
        rw [hanswer] at he
        cases he
        cases hrow
        exact Multiset.mem_add.mpr (.inl (Multiset.mem_singleton_self _))
      · rw [add_assoc]
        exact hkept.learn hown
    · refine ⟨own, fun row he => ?_, hkept⟩
      have he : (serve (.command (.createBundle data)) s).1 = .ok row := he
      rw [hanswer] at he
      cases he
  · exact fun s r hi _ e => ⟨own, fun _ he => (by cases he), hi⟩

theorem persistBundle_scoped (input : BundleRequest) (adm : Admission) :
    ScopeTriple own (persistBundle input adm) fun r o =>
      ∀ entity, r = .ok entity → RowOwned entity o := by
  have hreset (data : OperationsBundlePatch) : Keeps Op.Discreet Req.Quiet
      (command (.updateBundle adm.bundleId data)) := keeps_command trivial
  unfold persistBundle
  split
  · apply scoping_passes.bind (hreset _)
    · intro updated
      apply Task.Triple.done
      rintro _ ⟨⟩ _ ⟨⟩
    · exact fun _ _ => nofun
  · apply scoping_passes.bind (keeps_run announces_discreet.now)
    · intro now
      apply (createBundle_scoped _).bind
      · intro row o ho
        apply Task.Triple.done
        rintro _ ⟨⟩
        exact ho row rfl
      · exact fun _ _ _ _ => nofun
    · exact fun _ _ => nofun

theorem enqueueBundle_scoped (input : BundleRequest) (adm : Admission)
    {entity : Written OperationsBundle} (h : RowOwned entity own) :
    ScopeTriple own (enqueueBundle cfg input adm entity) fun _ _ => True := by
  have hreads := announces_discreet.toReads
  apply scoping_passes.bind (persistCreateOperations_keeps hreads (fun _ => trivial) _ _ _)
  · intro _
    apply scoping_passes.bind (persistSpendOperations_keeps hreads (fun _ _ => trivial) _ _ _ _ _)
    · intro _
      apply scoping_passes.bind (keeps_run hreads.now)
      · intro now
        have hmade := scoping_passes.yields (keeps_done (createSlotBundle cfg now entity
          adm.classified (adm.entity.bind (·.name)) ((adm.entity.bind (·.jurisdictions)).getD [])))
          (fun _ he => he) own
        apply hmade.bind
        · rintro bundle o ⟨rfl, hbundle⟩
          have hbundle := hbundle bundle rfl
          cases entity with
          | array rows => cases hbundle
          | row row =>
            cases hbundle
            exact (addBundle_scoped (h row rfl)).mono fun _ _ _ => trivial
        · exact fun _ _ _ => trivial
      · exact fun _ => trivial
    · exact fun _ => trivial
  · exact fun _ => trivial

theorem addOperationsBundle_scoped (input : BundleRequest) :
    ScopeTriple 0 (addOperationsBundle cfg input) fun _ _ => True := by
  apply scoping_passes.bind (checkRequest_keeps announces_discreet (fun _ _ => trivial) cfg input)
  · intro adm
    apply (persistBundle_scoped input adm).bind
    · intro entity o ho
      apply (enqueueBundle_scoped input adm (ho entity rfl)).bind
      · exact fun _ _ _ => .done trivial
      · exact fun _ _ _ => trivial
    · exact fun _ _ _ => trivial
  · exact fun _ => trivial

/-! ### Every call -/

theorem Call.service_scoped (fuel : Nat) {l : Call} (hl : l.isService = true) :
    ScopeTriple 0 (l.program cfg fuel) fun _ _ => True := by
  cases l with
  | addOperationsBundle input =>
    apply (addOperationsBundle_scoped input).bind
    · exact fun _ _ _ => .done trivial
    · exact fun _ _ _ => trivial
  | executeNext => exact executeNext_scoped
  | verifyTransactions => exact verifyTransactions_scoped
  | expireBundles =>
    have hexpire : Keeps Op.Discreet Req.Quiet Mempool.expireBundles :=
      Mempool.expireBundles_keeps announces_discreet trivial fun _ => trivial
    exact (scoping_passes.uses hexpire 0).mono fun _ _ _ => trivial
  | launch | addBundle _ | reAddBundles _ | purgeBundles _ | removeFirstSlot | expireByIds _ =>
    cases hl

theorem launch_scoped (fuel : Nat) :
    ScopeTriple 0 (Call.launch.program cfg fuel) fun _ _ => True := by
  have hstarted : Keeps Op.Discreet Req.Quiet (run .setStarted) := keeps_run trivial
  apply (initializeMempool_scoped fuel).bind
  · exact fun _ o _ => (scoping_passes.uses hstarted o).mono fun _ _ _ => trivial
  · exact fun _ _ _ => trivial

end Triples

/-! ## Every run -/

/-- Bundles only join bundles of their PP, and no row is moved to another PP. -/
def PpsApart (c : ProviderPool) (ch : ProviderChoice) : Prop :=
  OffersMeet Slot.TakesKin c ch ∧ ServesMeet KeepsPp c ch

instance (c : ProviderPool) (ch : ProviderChoice) : Decidable (PpsApart c ch) :=
  inferInstanceAs (Decidable (_ ∧ _))

section Runs
variable {cfg : Config} {fuel : Nat} {s : State} {c : ProviderPool}

theorem scoping_respects : (provider cfg fuel).Respects (fun _ => scoping) PpsApart where
  run c i l t hg ht := by
    have hoffers := hg.1
    simp only [OffersMeet, Choice.ops, ht] at hoffers
    exact hoffers
  serve c i l q k hg ht := by
    apply hg.2 (l, q)
    simp only [Choice.served, ht, Option.mem_def]
  reject _ _ _ _ _ _ _ _ := trivial

/-- Nothing is stored, queued or emitted on a fresh state. -/
theorem Scoped.fresh (h : Fresh cfg s) (hevents : s.events = []) : Scoped s 0 := by
  have hlinks (key : BundleId × TxHash) : s.db.bundlesTransactions.find key = none := by
    have hempty : s.db.bundlesTransactions = .empty := Table.eq_of_rows h.links
    rw [hempty, Table.find_empty]
  have hrows (id : BundleId) : s.db.operationsBundles.find id = none := by
    have hempty : s.db.operationsBundles = .empty := Table.eq_of_rows h.bundles
    rw [hempty, Table.find_empty]
  constructor
  · constructor
    · intro id row hrow
      rw [hrows] at hrow
      cases hrow
    · intro key link hlink
      rw [hlinks] at hlink
      cases hlink
  · intro id row hrow
    rw [hrows] at hrow
    cases hrow
  · rw [h.memory]
    exact fun _ => nofun
  · refine fun hash => ⟨"", fun id link hlink => ?_⟩
    rw [hlinks] at hlink
    cases hlink
  · unfold State.EventsScoped
    rw [hevents]
    exact fun _ => nofun
  · exact fun _ hk => absurd hk (Multiset.notMem_zero _)
  · exact fun _ _ _ hk => absurd hk (Multiset.notMem_zero _)

/-- **Every PP is told of its own bundles.** In every run from a fresh database
in which bundles only join bundles of their PP and no row is moved to another
PP, each event that was fanned out to a PP names bundles of that PP alone. -/
theorem events_scoped (hfresh : Fresh cfg s) (hevents : s.events = [])
    (h : (provider cfg fuel).Run PpsApart ((provider cfg fuel).init s) c) :
    c.state.EventsScoped := by
  have howned : (provider cfg fuel).Owned (fun _ => scoping) Scoped c := by
    apply Machine.Run.owned (fun _ => rfl) (launch_scoped fuel) _ scoping_respects _ _ h
    · exact Machine.owned_init (launch_scoped fuel) (Scoped.fresh hfresh hevents)
    · intro s l hl
      exact Call.service_scoped fuel (Bool.and_eq_true_iff.mp hl).2
    · exact fun _ d _ _ hi => Scoped.drift hi d
    · exact fun _ _ _ hi => Scoped.reboot hi cfg
  obtain ⟨_, hi⟩ := howned.holds
  exact hi.events

end Runs

namespace Small

/-- Two PPs, both with the submitter approved. -/
def twoPps : State :=
  { state with db := { database with
      approvals := ⟨[⟨"GPP", "GSUB", .approved, 0, none⟩, ⟨"GPP2", "GSUB", .approved, 0, none⟩],
        by decide⟩
      directory := { database.directory with
        paymentProviders := ⟨[⟨"GPP", none⟩, ⟨"GPP2", none⟩], by decide⟩ } } }

def asks (operationsMLXDR : List MLXDR) (ppPublicKey : PublicKey) : ProviderChoice :=
  .start (.addOperationsBundle { request operationsMLXDR with ppPublicKey := ppPublicKey })

/-- A bundle of GPP and one of `pp` are queued and submitted. -/
def submitsBoth (pp : PublicKey) : List ProviderChoice :=
  serves 0 1 ++ [.resume 0, asks ["deposit 10"] "GPP"] ++ serves 1 10 ++
    [.resume 1, asks ["deposit 10", "deposit 10"] pp] ++ serves 2 10 ++
    [.resume 2, .start .executeNext] ++ serves 3 17 ++ [.resume 3]

/-- The transaction fails; before the verifier says so, one of its two bundles is
resubmitted under another PP. -/
def movesOne : List ProviderChoice :=
  submitsBoth "GPP" ++
    [.drift (.network { network with transaction := fun _ => some (.failed none) }),
      .start .verifyTransactions] ++ serves 4 9 ++
    [asks ["deposit 10"] "GPP2"] ++ serves 5 8 ++ serves 4 3 ++ [.resume 4]

end Small

/-- Neither condition is enough. Two PPs that share a slot are sent each other's
bundles; and so they are, with each in slots of its own, when a bundle is moved
to another PP under way. -/
theorem events_scoped_needs_both :
    (¬ ∀ (cfg : Config) (fuel : Nat) (s : State) (c : ProviderPool), Fresh cfg s → s.events = [] →
      (provider cfg fuel).Run (ServesMeet KeepsPp) ((provider cfg fuel).init s) c →
      c.state.EventsScoped) ∧
    ¬ ∀ (cfg : Config) (fuel : Nat) (s : State) (c : ProviderPool), Fresh cfg s → s.events = [] →
      (provider cfg fuel).Run (OffersMeet Slot.TakesKin) ((provider cfg fuel).init s) c →
      c.state.EventsScoped := by
  have hfresh : Fresh Small.config Small.twoPps := ⟨rfl, rfl, rfl, rfl, rfl, rfl⟩
  constructor
  · intro h
    obtain ⟨c, hr, hp⟩ := Machine.exists_run_of_replay (M := provider Small.config 1)
      (G := ServesMeet KeepsPp) (c := (provider Small.config 1).init Small.twoPps)
      (Small.submitsBoth "GPP2") (fun s => s.events.any fun event => event.payload.fannedOut.any
        fun id => s.ownerOf id ≠ some event.scope.ppPublicKey) (by decide +kernel)
    obtain ⟨event, he, hp⟩ := List.any_eq_true.mp hp
    obtain ⟨id, hid, hne⟩ := List.any_eq_true.mp hp
    exact of_decide_eq_true hne (h _ _ _ c hfresh rfl hr event he id hid)
  · intro h
    obtain ⟨c, hr, hp⟩ := Machine.exists_run_of_replay (M := provider Small.config 1)
      (G := OffersMeet Slot.TakesKin) (c := (provider Small.config 1).init Small.twoPps)
      Small.movesOne (fun s => s.events.any fun event => event.scope.ppPublicKey == "GPP2" &&
        event.payload.fannedOut.any fun id => s.ownerOf id ≠ some event.scope.ppPublicKey)
      (by decide +kernel)
    obtain ⟨event, he, hp⟩ := List.any_eq_true.mp hp
    obtain ⟨id, hid, hne⟩ := List.any_eq_true.mp (Bool.and_eq_true_iff.mp hp).2
    exact of_decide_eq_true hne (h _ _ _ c hfresh rfl hr event he id hid)

/-- So an event does reach a PP with the bundles of another. -/
theorem events_not_scoped :
    ¬ ∀ (cfg : Config) (fuel : Nat) (s : State) (c : ProviderPool), Fresh cfg s → s.events = [] →
      (provider cfg fuel).Run Machine.Free ((provider cfg fuel).init s) c →
      c.state.EventsScoped := by
  intro h
  apply events_scoped_needs_both.1
  exact fun cfg fuel s c hfresh hevents hr =>
    h cfg fuel s c hfresh hevents (hr.mono fun _ _ _ => trivial)

/-- The run with both bundles of one PP, up to the submission. -/
theorem events_scoped_small :
    ∃ c : ProviderPool, c.state.EventsScoped ∧
      c.state.events.any (fun event => event.payload.fannedOut.length == 2) = true := by
  have hfresh : Fresh Small.config Small.twoPps := ⟨rfl, rfl, rfl, rfl, rfl, rfl⟩
  obtain ⟨c, hr, hp⟩ := Machine.exists_run_of_replay (M := provider Small.config 1) (G := PpsApart)
    (c := (provider Small.config 1).init Small.twoPps) (Small.submitsBoth "GPP")
    (fun s => s.events.any fun event => event.payload.fannedOut.length == 2) (by decide +kernel)
  exact ⟨c, events_scoped hfresh rfl hr, hp⟩

end ProviderPlatform
