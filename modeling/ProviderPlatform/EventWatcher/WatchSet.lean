import ProviderPlatform.EventWatcher.Councils
import ProviderPlatform.EventWatcher.Memberships

/-! # The contract set covers the live memberships

The watcher sees the events of a council only while the council is in its set.
The join handler puts the council of a membership there before it answers; the
scan at the start puts there the councils that some PP is active in, and the
reference count keeps those. A membership that neither of them finds, one that
is pending or stands behind another active one of its PP, is lost to a restart
or to the removal of another member. Where they find every council with a live
membership the set covers them all, after every operation. -/
namespace ProviderPlatform
open Async Task Store

/-! ## Coverage -/

/-- A membership whose events are still to be seen. -/
def CouncilMembership.Live (row : CouncilMembership) : Prop :=
  row.deletedAt = none ∧ row.status ≠ .rejected

instance : DecidablePred CouncilMembership.Live := fun row =>
  inferInstanceAs (Decidable (row.deletedAt = none ∧ row.status ≠ .rejected))

namespace WatchState

/-- The live memberships are among the rows that satisfy `p`. -/
def LiveIn (s : WatchState) (p : CouncilMembership → Prop) : Prop :=
  ∀ row ∈ s.councilMemberships.rows, row.Live → p row

instance (s : WatchState) (p : CouncilMembership → Prop) [DecidablePred p] :
    Decidable (s.LiveIn p) :=
  inferInstanceAs (Decidable (∀ row ∈ s.councilMemberships.rows, row.Live → p row))

/-- The watcher polls the council of every live membership. -/
def Covered (s : WatchState) : Prop := s.LiveIn (·.channelAuthId ∈ s.watcher.contractIds)

instance (s : WatchState) : Decidable s.Covered :=
  inferInstanceAs (Decidable (s.LiveIn (·.channelAuthId ∈ s.watcher.contractIds)))

/-- The active membership that is found for one of the PPs is in the council. -/
def ActiveAmong (s : WatchState) (pps : List PaymentProvider) (channelAuthId : ContractId) :
    Prop :=
  ∃ pp ∈ pps, (s.getActiveForPp pp.publicKey).map (·.channelAuthId) = some channelAuthId

instance (s : WatchState) (pps : List PaymentProvider) (channelAuthId : ContractId) :
    Decidable (s.ActiveAmong pps channelAuthId) :=
  inferInstanceAs (Decidable
    (∃ pp ∈ pps, (s.getActiveForPp pp.publicKey).map (·.channelAuthId) = some channelAuthId))

/-- Some PP is active in the council, as the scan and the count see it. -/
def HasActiveMember (s : WatchState) (channelAuthId : ContractId) : Prop :=
  s.ActiveAmong s.paymentProviders.rows channelAuthId

instance (s : WatchState) (channelAuthId : ContractId) :
    Decidable (s.HasActiveMember channelAuthId) :=
  inferInstanceAs (Decidable (s.ActiveAmong s.paymentProviders.rows channelAuthId))

/-- What a scan from the start adds, with what is there, covers everything. -/
def CoveredBy (pps : List PaymentProvider) (s : WatchState) : Prop :=
  s.LiveIn fun row => row.channelAuthId ∈ s.watcher.contractIds ∨
    (row.channelAuthId ≠ "" ∧ s.ActiveAmong pps row.channelAuthId)

end WatchState

/-! ## The condition -/

/-- No repository call fails. The count finds the council of every live
membership that it is asked about, and a rejected membership is revived only
while its council is watched. -/
def CountsMembers : Step watching WatchState → Prop
  | .ran s (.removeContract channelAuthId) =>
    s.LiveIn fun row => row.channelAuthId = channelAuthId → s.HasActiveMember channelAuthId
  | .served s (.updateMembership id data) =>
    data.status ≠ .rejected → ∀ row ∈ s.councilMemberships.rows, row.id = id →
      row.deletedAt = none → row.status = .rejected →
        row.channelAuthId ∈ s.watcher.contractIds
  | .rejected _ q _ => q.isRepository = false
  | .stopped _ _ => False
  | _ => True

theorem CountsMembers.repositoryServes :
    ∀ st : Step watching WatchState, CountsMembers st → RepositoryServes st
  | .ran _ _, _ => trivial
  | .served _ _, _ => trivial
  | .rejected _ _ _, h => h
  | .stopped _ _, h => h

/-! ## The watcher -/

/-- Everything but the removal of a contract. -/
def WatchOp.KeepsSet : WatchOp → Prop
  | .removeContract _ => False
  | _ => True

theorem WatchOp.Activates.keepsSet {o : WatchOp} (h : o.Activates) : o.KeepsSet := by
  cases o with
  | removeContract contractId => exact h.elim
  | _ => trivial

/-- The rows of the memberships are those of before and no contract is lost. -/
theorem covered_of_grows {s s' : WatchState} (hs : s.Covered)
    (hrows : s'.councilMemberships = s.councilMemberships)
    (hset : ∀ c ∈ s.watcher.contractIds, c ∈ s'.watcher.contractIds) : s'.Covered := by
  intro row hrow hlive
  rw [hrows] at hrow
  exact hset _ (hs row hrow hlive)

theorem mem_addContract {s : WatchState} {channelAuthId c : ContractId} :
    c ∈ (watchOp (.addContract channelAuthId) s).2.watcher.contractIds ↔
      c ∈ s.watcher.contractIds ∨ c = channelAuthId := by
  simp only [watchOp, WatchState.withWatcher_watcher]
  split
  · rename_i hmem
    constructor
    · exact .inl
    · rintro (hc | rfl)
      · exact hc
      · exact hmem
  · simp

theorem covered_op {o : WatchOp} {s : WatchState} (ho : o.KeepsSet) (hs : s.Covered) :
    (watchOp o s).2.Covered := by
  cases o with
  | removeContract channelAuthId => exact ho.elim
  | addContract channelAuthId =>
    exact covered_of_grows hs rfl fun c hc => mem_addContract.mpr (.inl hc)
  | _ => exact covered_of_grows hs rfl fun c hc => hc

/-- A live row after an update was live before, or was revived by it. -/
theorem live_of_set {row : CouncilMembership} {now : Time} {data : CouncilMembershipPatch}
    (h : (row.set now data).Live) :
    row.Live ∨ (data.status ≠ .rejected ∧ row.deletedAt = none ∧ row.status = .rejected) := by
  obtain ⟨hdeleted, hstatus⟩ := h
  by_cases hrejected : row.status = .rejected
  · exact .inr ⟨hstatus, hdeleted, hrejected⟩
  · exact .inl ⟨hdeleted, hrejected⟩

theorem covered_serve {q : WatchReq} {s : WatchState} (hg : CountsMembers (.served s q))
    (hs : s.Covered) : (watchServe q s).2.Covered := by
  cases q with
  | updateMembership id data =>
    intro row hrow hlive
    obtain ⟨row₀, hrow₀, rfl⟩ :=
      (Table.mem_update (CouncilMembership.set_id s.clock data)).mp hrow
    by_cases hid : (row₀.id == id) = true
    · rw [if_pos hid] at hlive ⊢
      rcases live_of_set hlive with hlive | ⟨hstatus, hdeleted, hrejected⟩
      · exact hs row₀ hrow₀ hlive
      · exact hg hstatus row₀ hrow₀ (beq_iff_eq.mp hid) hdeleted hrejected
    · rw [if_neg hid] at hlive ⊢
      exact hs row₀ hrow₀ hlive
  | _ => exact hs

/-- A task that removes no contract. -/
theorem covered_uses {α : Type} {t : WatchPromise α} (ht : t.Uses WatchOp.KeepsSet fun _ => True) :
    Guided watchHost CountsMembers WatchState.Covered t (fun _ => WatchState.Covered)
      WatchState.Covered := by
  apply Guided.of_steps ?_ ?_ (fun _ _ hs => hs) ht
  · exact fun o s ho hs _ => covered_op ho hs
  · exact fun q s _ hs hg => covered_serve hg hs

theorem covered_getCurrentForPp (ppPublicKey : PublicKey) :
    Guided watchHost CountsMembers WatchState.Covered (getCurrentForPp ppPublicKey)
      (fun _ => WatchState.Covered) WatchState.Covered :=
  covered_uses (getCurrentForPp_uses ppPublicKey)

/-! ## The reference count -/

/-- The count has seen no active member so far. -/
def UnseenBut (channelAuthId : ContractId) (pps : List PaymentProvider) (s : WatchState) : Prop :=
  s.Covered ∧ ∀ pp ∈ s.paymentProviders.rows, pp ∈ pps ∨
    (s.getActiveForPp pp.publicKey).map (·.channelAuthId) ≠ some channelAuthId

/-- A count that ends with `false` has found no active member. -/
theorem hasActiveMember_counts (channelAuthId : ContractId) (pps : List PaymentProvider) :
    Guided watchHost CountsMembers (UnseenBut channelAuthId pps)
      (hasActiveMember channelAuthId pps)
      (fun used s => s.Covered ∧ (used = false → ¬ s.HasActiveMember channelAuthId))
      WatchState.Covered := by
  induction pps with
  | nil =>
    apply Guided.pure
    rintro s ⟨hs, hunseen⟩
    refine ⟨hs, fun _ => ?_⟩
    rintro ⟨pp, hpp, hactive⟩
    rcases hunseen pp hpp with hnil | hne
    · cases hnil
    · exact hne hactive
  | cons pp pps ih =>
    apply Guided.bind (B := fun membership s => UnseenBut channelAuthId (pp :: pps) s ∧
      membership = s.getActiveForPp pp.publicKey)
    · apply Guided.call
      · exact fun _ _ hs => hs
      · exact fun s hs _ => ⟨hs, rfl⟩
      · exact fun s _ hs _ => hs.1
      · exact fun s _ hg => hg.elim
    · intro membership
      split
      · apply Guided.pure
        rintro s ⟨⟨hs, -⟩, -⟩
        exact ⟨hs, nofun⟩
      · rename_i hother
        apply ih.mono ?_ (fun _ _ h => h) fun _ h => h
        rintro s ⟨⟨hs, hunseen⟩, rfl⟩
        refine ⟨hs, fun pp' hpp' => ?_⟩
        rcases hunseen pp' hpp' with hmem | hne
        · rcases List.mem_cons.mp hmem with rfl | hmem
          · exact .inr hother
          · exact .inl hmem
        · exact .inr hne

/-- A contract is removed only if it has no live membership. -/
theorem covered_unwatch (channelAuthId : ContractId) :
    Guided watchHost CountsMembers WatchState.Covered
      (unwatchCouncilContractIfUnused channelAuthId) (fun _ => WatchState.Covered)
      WatchState.Covered := by
  apply Guided.bind (B := fun (pps : List PaymentProvider) => UnseenBut channelAuthId pps)
  · apply Guided.call
    · exact fun _ _ hs => hs
    · exact fun s hs _ => ⟨hs, fun pp hpp => .inl hpp⟩
    · exact fun s _ hs _ => hs
    · exact fun s _ hg => hg.elim
  · intro pps
    apply (hasActiveMember_counts channelAuthId pps).bind
    intro used
    cases used with
    | true => exact .pure fun _ hs => hs.1
    | false =>
      apply Guided.op
      rintro s ⟨hs, hunused⟩ hg row hrow hlive
      have hne : row.channelAuthId ≠ channelAuthId :=
        fun he => hunused rfl (hg row hrow hlive he)
      exact (List.mem_erase_of_ne hne).mpr (hs row hrow hlive)

theorem covered_deactivate (ppPublicKey : PublicKey) (channelAuthId : ContractId) :
    Guided watchHost CountsMembers WatchState.Covered
      (deactivateMembership ppPublicKey channelAuthId) (fun _ => WatchState.Covered)
      WatchState.Covered := by
  apply Guided.recover (E := WatchState.Covered) ?_ (fun _ => .pure fun _ hs => hs)
    fun _ hs => hs
  apply (covered_getCurrentForPp ppPublicKey).bind
  intro membership
  cases membership with
  | none => exact .pure fun _ hs => hs
  | some membership =>
    simp only
    split
    · exact .pure fun _ hs => hs
    · split
      · exact .pure fun _ hs => hs
      · apply (covered_uses (Uses.call trivial)).bind
        exact fun _ => covered_unwatch channelAuthId

/-! ## Events -/

/-- A provider event keeps the set complete. -/
theorem covered_watchEvent (event : ChannelAuthEvent) :
    Guided watchHost CountsMembers WatchState.Covered (watchEvent event)
      (fun _ => WatchState.Covered) WatchState.Covered := by
  have hhandle : Guided watchHost CountsMembers WatchState.Covered
      (watchRun (.handleEvent event)) (fun _ => WatchState.Covered) WatchState.Covered :=
    covered_uses (Uses.op trivial)
  have hemit : ∀ councilEvent, Guided watchHost CountsMembers WatchState.Covered
      (emitCouncilEvent event.address councilEvent) (fun _ => WatchState.Covered)
      WatchState.Covered :=
    fun councilEvent => covered_uses (emitCouncilEvent_uses _ fun _ => trivial)
  unfold watchEvent
  split
  · exact hhandle
  · apply (covered_uses (t := watchRun (.isRegistered event.address)) (Uses.op trivial)).bind
    intro registered
    cases registered with
    | true =>
      apply hhandle.bind
      intro _
      rw [followProvider]
      cases event.type with
      | providerAdded =>
        apply (covered_uses ((activateMembership_uses _ _).mono (fun _ h => h.keepsSet)
          fun _ h => h)).bind
        exact fun _ => hemit _
      | providerRemoved => exact (covered_deactivate _ _).bind fun _ => hemit _
      | _ => exact .pure fun _ hs => hs
    | false =>
      simp only [Bool.false_eq_true, if_false]
      split
      · exact hhandle
      · exact .pure fun _ hs => hs

/-! ## The scan -/

/-- Everything but the write to a membership. -/
def WatchReq.Reads : WatchReq → Prop
  | .updateMembership _ _ => False
  | _ => True

section Scan
variable {pp : PaymentProvider} {pps : List PaymentProvider}

theorem coveredBy_of_grows {s s' : WatchState} (hs : s.CoveredBy pps)
    (hrows : s'.councilMemberships = s.councilMemberships)
    (hset : ∀ c ∈ s.watcher.contractIds, c ∈ s'.watcher.contractIds) : s'.CoveredBy pps := by
  intro row hrow hlive
  rw [hrows] at hrow
  rcases hs row hrow hlive with hmem | ⟨hne, pp, hpp, hactive⟩
  · exact .inl (hset _ hmem)
  · refine .inr ⟨hne, pp, hpp, ?_⟩
    rw [WatchState.getActiveForPp, WatchState.membershipsOf, hrows]
    exact hactive

/-- A scan is done with a PP once the council of its active membership is
watched. -/
theorem coveredBy_tail {s : WatchState} (hs : s.CoveredBy (pp :: pps))
    (hdone : ∀ row, s.getActiveForPp pp.publicKey = some row → row.channelAuthId ≠ "" →
      row.channelAuthId ∈ s.watcher.contractIds) : s.CoveredBy pps := by
  intro row hrow hlive
  rcases hs row hrow hlive with hmem | ⟨hne, pp', hpp', hactive⟩
  · exact .inl hmem
  · rcases List.mem_cons.mp hpp' with rfl | hpp'
    · obtain ⟨found, hfound, hid⟩ := Option.map_eq_some_iff.mp hactive
      rw [← hid] at hne ⊢
      exact .inl (hdone found hfound hne)
    · exact .inr ⟨hne, pp', hpp', hactive⟩

theorem coveredBy_uses {α : Type} {t : WatchPromise α}
    (ht : t.Uses WatchOp.Activates WatchReq.Reads) :
    Guided watchHost CountsMembers (WatchState.CoveredBy pps) t
      (fun _ => WatchState.CoveredBy pps) (WatchState.CoveredBy pps) := by
  apply Guided.of_uses ?_ ?_ (fun _ _ hs => hs) ht
  · intro o s ho hs _
    cases o with
    | applyChannelState channelContractId enabled => exact hs
    | emit scope event => exact hs
    | _ => exact ho.elim
  · intro q s hq hs
    cases q with
    | updateMembership id data => exact hq.elim
    | _ => exact hs

/-- What is found for a PP is its active membership, if it has one. -/
theorem getCurrentForPp_scans (ppPublicKey : PublicKey) :
    Guided watchHost CountsMembers (WatchState.CoveredBy pps) (getCurrentForPp ppPublicKey)
      (fun found s => s.CoveredBy pps ∧ found = s.currentForPp ppPublicKey) fun _ => False := by
  apply Guided.of_state
  intro s₀ hs₀
  have hspec := (@getCurrentForPp_spec s₀ ppPublicKey).of_guard
    CountsMembers.repositoryServes
  have hkeeps : Guided watchHost CountsMembers (WatchState.CoveredBy pps)
      (getCurrentForPp ppPublicKey) (fun _ => WatchState.CoveredBy pps)
      (WatchState.CoveredBy pps) := by
    apply coveredBy_uses
    apply Uses.bind (Uses.call trivial)
    intro active
    cases active with
    | none => exact Uses.call trivial
    | some active => exact .pure _
  apply (hspec.and hkeeps).mono
  · rintro s rfl
    exact ⟨rfl, hs₀⟩
  · rintro found s ⟨⟨hrows, hfound⟩, hs⟩
    refine ⟨hs, hfound.trans ?_⟩
    rw [WatchState.currentForPp, WatchState.currentForPp, WatchState.getActiveForPp,
      WatchState.getActiveForPp, WatchState.membershipsOf, WatchState.membershipsOf, hrows]
  · exact fun _ h => h.1

theorem getActiveForPp_active {s : WatchState} {ppPublicKey : PublicKey}
    {row : CouncilMembership} (h : s.getActiveForPp ppPublicKey = some row) :
    row.status = .active :=
  beq_iff_eq.mp (List.find?_some h :)

theorem watchCurrentCouncil_scans :
    Guided watchHost CountsMembers (WatchState.CoveredBy (pp :: pps)) (watchCurrentCouncil pp)
      (fun _ => WatchState.CoveredBy pps) fun _ => False := by
  apply (getCurrentForPp_scans pp.publicKey).bind
  intro found
  cases found with
  | none =>
    apply Guided.pure
    rintro s ⟨hs, hfound⟩
    apply coveredBy_tail hs
    intro row hrow
    rw [WatchState.currentForPp, hrow] at hfound
    cases hfound
  | some membership =>
    simp only
    split
    · -- the council of the active membership is put into the set
      apply Guided.bind (B := fun _ => WatchState.CoveredBy pps)
      · apply Guided.op
        rintro s ⟨hs, hfound⟩ -
        have hgrown : (watchOp (.addContract membership.channelAuthId) s).2.CoveredBy
            (pp :: pps) :=
          coveredBy_of_grows hs rfl fun c hc => mem_addContract.mpr (.inl hc)
        apply coveredBy_tail hgrown
        intro row hrow _
        have hactive : s.getActiveForPp pp.publicKey = some row := hrow
        rw [WatchState.currentForPp, hactive] at hfound
        cases hfound
        exact mem_addContract.mpr (.inr rfl)
      · exact fun _ => Guided.op fun s hs _ => hs
    · rename_i hother
      apply Guided.pure
      rintro s ⟨hs, hfound⟩
      apply coveredBy_tail hs
      intro row hrow hne
      rw [WatchState.currentForPp, hrow] at hfound
      cases hfound
      exact absurd ⟨getActiveForPp_active hrow, hne⟩ hother

end Scan

/-- The scan watches every council that some PP is active in. -/
theorem covered_initFromDb :
    Guided watchHost CountsMembers (fun s => s.CoveredBy s.paymentProviders.rows) initFromDb
      (fun _ => WatchState.Covered) fun _ => False := by
  apply Guided.recover (E := fun _ => False) ?_ (fun _ => .pure fun _ hs => hs.elim)
    fun _ hs => hs
  apply Guided.bind (B := fun (pps : List PaymentProvider) => WatchState.CoveredBy pps)
  · apply Guided.call
    · exact fun _ _ hs => hs
    · exact fun s hs _ => hs
    · exact fun s e _ hg => nomatch hg
    · exact fun s _ hg => hg
  · intro pps
    apply Guided.bind (B := fun _ => WatchState.CoveredBy pps)
    · apply Guided.forEach_keeps
      intro pp
      apply Guided.op
      exact fun s hs _ => hs
    · intro _
      apply (Guided.forEach (J := WatchState.CoveredBy) fun pp rest =>
        watchCurrentCouncil_scans).mono (fun _ h => h) ?_ fun _ h => h
      intro _ s hs row hrow hlive
      rcases hs row hrow hlive with hmem | ⟨-, pp, hpp, -⟩
      · exact hmem
      · cases hpp

/-! ## The dashboard -/

/-- The requests to the repositories. -/
def CouncilReq.isRepository : CouncilReq → Bool
  | .watch q => q.isRepository
  | .postJoinRequest _ _ _ | .getMembershipStatus _ _ _ => false
  | _ => true

/-- The condition on the steps of an operation. At a start the council of every
live membership is one that the scan finds. -/
def CouncilsCount : Step councils CouncilsState → Prop
  | .ran s (.watch o) => CountsMembers (.ran s.watch o)
  | .ran s (.createWatcher _) =>
    s.watch.LiveIn fun row =>
      row.channelAuthId ≠ "" ∧ s.watch.HasActiveMember row.channelAuthId
  | .served s (.watch q) => CountsMembers (.served s.watch q)
  | .rejected _ q _ => q.isRepository = false
  | .stopped _ _ => False
  | _ => True

theorem councilsCount_guides :
    ofWatching.Guides CouncilsState.watch CouncilErr.lower CouncilsCount CountsMembers where
  ran _ _ h := h
  served _ _ h := h
  rejected _ _ _ h := h
  stopped _ _ h := h

namespace CouncilsState

def Covered (s : CouncilsState) : Prop := s.watch.Covered

instance (s : CouncilsState) : Decidable s.Covered := inferInstanceAs (Decidable s.watch.Covered)

end CouncilsState

/-- A task that keeps the contract set complete, however it ends. -/
def KeepsCovered {α : Type} (t : CouncilPromise α) : Prop :=
  Guided councilsHost CouncilsCount CouncilsState.Covered t (fun _ => CouncilsState.Covered)
    CouncilsState.Covered

section Keeps
variable {α β : Type}

theorem KeepsCovered.pure (a : α) : KeepsCovered (Pure.pure a) := Guided.pure fun _ hs => hs

theorem KeepsCovered.bind {t : CouncilPromise α} {k : α → CouncilPromise β} (ht : KeepsCovered t)
    (hk : ∀ a, KeepsCovered (k a)) : KeepsCovered (t >>= k) :=
  Guided.bind ht hk

theorem KeepsCovered.recover {t : CouncilPromise α} {h : CouncilErr → CouncilPromise α}
    (ht : KeepsCovered t) (hh : ∀ e, KeepsCovered (h e)) : KeepsCovered (t.recover h) :=
  Guided.recover ht hh fun _ hs => hs

/-- A promise of the watcher keeps what it keeps on its own. -/
theorem KeepsCovered.of_watch {t : WatchPromise α}
    (ht : Guided watchHost CountsMembers WatchState.Covered t (fun _ => WatchState.Covered)
      WatchState.Covered) : KeepsCovered (ofWatch t) :=
  Guided.embed ofWatching_hosts councilsCount_guides ht

/-- The operations that neither start a process nor remove a contract. -/
def CouncilOp.KeepsSet : CouncilOp → Prop
  | .watch o => o.KeepsSet
  | .createWatcher _ => False
  | .randomUUID => True

/-- The requests that insert no membership. -/
def CouncilReq.KeepsRows : CouncilReq → Prop
  | .createMembership _ => False
  | _ => True

theorem councils_covered_serve {q : CouncilReq} {s : CouncilsState} (hq : q.KeepsRows)
    (hg : CouncilsCount (.served s q)) (hs : s.Covered) : (councilServe q s).2.Covered := by
  cases q with
  | watch q => exact covered_serve hg hs
  | createMembership data => exact hq.elim
  | createPp data =>
    simp only [councilServe]
    split
    · exact hs
    · split
      · exact hs
      · exact hs
  | _ => exact hs

theorem KeepsCovered.of_uses {t : CouncilPromise α}
    (ht : t.Uses CouncilOp.KeepsSet CouncilReq.KeepsRows) : KeepsCovered t := by
  apply Guided.of_steps ?_ ?_ (fun _ _ hs => hs) ht
  · intro o s ho hs _
    cases o with
    | watch o => exact covered_op ho hs
    | createWatcher startLedgerBlock => exact ho.elim
    | randomUUID => exact hs
  · exact fun q s hq hs hg => councils_covered_serve hq hg hs

theorem KeepsCovered.call {q : CouncilReq} (hq : q.KeepsRows) : KeepsCovered (councilCall q) :=
  .of_uses (Uses.call hq)

end Keeps

/-! ## Joins -/

/-- The council of a new membership may still be missing. -/
def WatchState.CoveredBut (channelAuthId : ContractId) (s : WatchState) : Prop :=
  s.LiveIn fun row =>
    row.channelAuthId ∈ s.watcher.contractIds ∨ row.channelAuthId = channelAuthId

theorem covered_watchCouncilContract (channelAuthId : ContractId) :
    Guided watchHost CountsMembers (WatchState.CoveredBut channelAuthId)
      (watchCouncilContract channelAuthId) (fun _ => WatchState.Covered) fun _ => False := by
  apply Guided.bind (B := fun _ => WatchState.Covered)
  · apply Guided.op
    intro s hs _ row hrow hlive
    exact mem_addContract.mpr (hs row hrow hlive)
  · exact fun _ => Guided.op fun s hs _ => hs

theorem covered_insert (data : NewCouncilMembership) :
    Guided councilsHost CouncilsCount CouncilsState.Covered
      (councilCall (.createMembership data))
      (fun _ s => s.watch.CoveredBut data.channelAuthId) CouncilsState.Covered := by
  apply Guided.call
  · exact fun _ _ hs => hs
  · intro s hs _
    simp only [councilsHost, councilServe]
    split
    · rename_i rows hinsert
      intro row hrow hlive
      obtain ⟨-, hrows⟩ := Table.insert?_eq_some hinsert
      simp only [CouncilsState.withWatch_watch] at hrow
      rw [hrows] at hrow
      rcases List.mem_append.mp hrow with hrow | hrow
      · exact .inl (hs row hrow hlive)
      · cases List.mem_singleton.mp hrow
        exact .inr rfl
    · exact hs
  · exact fun s e _ hg => nomatch hg
  · exact fun s _ hg => hg.elim

theorem createMembership_covered (ppPublicKey : PublicKey) (baseUrl : String)
    (councilName : Option String) (councilId : ContractId) (joinRequestId : Option String) :
    KeepsCovered (createMembership ppPublicKey baseUrl councilName councilId joinRequestId) := by
  apply (KeepsCovered.of_uses (t := councilRun .randomUUID) (Uses.op trivial)).bind
  intro id
  apply (KeepsCovered.of_uses (t := councilRun (.watch .now)) (Uses.op trivial)).bind
  intro now
  apply Guided.bind (covered_insert _)
  intro _
  have hwatch : Guided councilsHost CouncilsCount (fun s => s.watch.CoveredBut councilId)
      (ofWatch (watchCouncilContract councilId)) (fun _ => CouncilsState.Covered)
      CouncilsState.Covered :=
    (Guided.embed ofWatching_hosts councilsCount_guides
      (covered_watchCouncilContract councilId)).mono (fun _ h => h) (fun _ _ h => h)
      fun _ h => h.elim
  apply Guided.bind hwatch
  intro _
  exact KeepsCovered.of_uses (Uses.bind (Uses.op trivial) fun _ => .pure _)

theorem joinCouncil_covered (env : CouncilEnv) (ppPublicKey : PublicKey) (body : JoinBody) :
    KeepsCovered (joinCouncil env ppPublicKey body) := by
  unfold joinCouncil
  split
  · exact KeepsCovered.pure _
  · apply KeepsCovered.bind (.call (by exact trivial))
    intro existing
    cases existing with
    | some existing => exact KeepsCovered.pure _
    | none =>
      simp only
      split
      · exact KeepsCovered.pure _
      · apply Guided.settle (KeepsCovered.call (by exact trivial))
        · intro res
          simp only
          split
          · exact KeepsCovered.pure _
          · split
            · exact KeepsCovered.pure _
            · split
              · exact KeepsCovered.of_uses (.fail _)
              · exact createMembership_covered _ _ _ _ _
        · intro e
          cases e with
          | abort => exact KeepsCovered.pure _
          | other error => exact KeepsCovered.of_uses (.fail _)
        · exact fun _ hs => hs

theorem handleJoinCouncil_covered (env : CouncilEnv) (ppPublicKey : PublicKey)
    (body : Option JoinBody) : KeepsCovered (handleJoinCouncil env ppPublicKey body) := by
  apply KeepsCovered.recover ?_ fun _ => .pure _
  cases body with
  | none => exact KeepsCovered.of_uses (.fail _)
  | some body => exact joinCouncil_covered env ppPublicKey body

/-! ## The other operations -/

theorem handleSyncMembership_covered (ppPublicKey : PublicKey) :
    KeepsCovered (handleSyncMembership ppPublicKey) := by
  apply KeepsCovered.recover ?_ fun _ => .pure _
  apply KeepsCovered.bind (.of_watch (covered_getCurrentForPp ppPublicKey))
  intro membership
  cases membership with
  | none => exact .pure _
  | some membership =>
    apply KeepsCovered.bind
    · apply KeepsCovered.recover ?_ fun _ => .pure _
      exact KeepsCovered.bind (.call (by exact trivial)) fun _ => .pure _
    · intro remote
      split
      · apply KeepsCovered.bind
        · apply KeepsCovered.of_watch
          apply covered_uses
          exact Uses.recover (Uses.call trivial) fun _ => .pure _
        · intro data
          exact KeepsCovered.bind (.call (by exact trivial)) fun _ => .pure _
      · split
        · exact KeepsCovered.bind (.call (by exact trivial)) fun _ => .pure _
        · exact .pure _

theorem handleRegisterPp_uses (env : CouncilEnv) (ownerPublicKey : PublicKey)
    (body : Option RegisterBody) :
    (handleRegisterPp env ownerPublicKey body).Uses CouncilOp.KeepsSet CouncilReq.KeepsRows := by
  apply Uses.recover ?_ fun _ => .pure _
  cases body with
  | none => exact .fail _
  | some body =>
    simp only
    unfold registerPp
    split
    · exact .pure _
    · split
      · exact .pure _
      · apply Uses.bind (Uses.call trivial)
        intro existing
        cases existing with
        | some existing =>
          simp only
          split
          · exact .pure _
          · split
            · exact .pure _
            · apply Uses.bind (Uses.call trivial)
              intro _
              exact Uses.bind (Uses.op trivial) fun _ => .pure _
        | none =>
          apply Uses.bind (Uses.op trivial)
          intro id
          apply Uses.bind (Uses.call trivial)
          intro _
          exact Uses.bind (Uses.op trivial) fun _ => .pure _

theorem convergeChannelStatuses_uses (seen : List String) (pps : List PaymentProvider) :
    (convergeChannelStatuses seen pps).Uses WatchOp.KeepsSet fun _ => True := by
  induction pps generalizing seen with
  | nil => exact .pure ()
  | cons pp pps ih =>
    apply Uses.bind (Uses.call trivial)
    intro membership
    split
    · exact ih seen
    · simp only
      split
      · exact ih seen
      · apply Uses.bind (Uses.recover (Uses.call trivial) fun _ => .pure _)
        intro data
        cases data with
        | none => exact ih _
        | some data =>
          exact Uses.bind ((reconcileChannelStatuses_uses data).mono (fun _ h => h.keepsSet)
            fun _ h => h) fun _ => ih _

theorem convergeMembership_covered (pp : PaymentProvider) :
    KeepsCovered (convergeMembership pp) := by
  apply KeepsCovered.bind (.call (by exact trivial))
  intro membership
  split
  · exact .pure ()
  · apply KeepsCovered.bind
    · apply KeepsCovered.recover ?_ fun _ => .pure _
      exact KeepsCovered.bind (.call (by exact trivial)) fun _ => .pure _
    · intro status
      split
      · exact .of_watch (covered_deactivate _ _)
      · exact .pure ()

/-- The start of a process watches every council with a live membership. -/
theorem startEventWatcher_covered (env : CouncilEnv) : KeepsCovered (startEventWatcher env) := by
  apply Guided.bind (B := fun _ (s : CouncilsState) =>
    s.watch.CoveredBy s.watch.paymentProviders.rows)
  · apply Guided.op
    intro s _ hg row hrow hlive
    exact .inr (hg row hrow hlive)
  · intro _
    apply Guided.bind (B := fun _ => CouncilsState.Covered)
    · exact (Guided.embed ofWatching_hosts councilsCount_guides covered_initFromDb).mono
        (fun _ h => h) (fun _ _ h => h) fun _ h => h.elim
    · intro _
      apply KeepsCovered.bind
      · apply KeepsCovered.of_watch
        apply covered_uses
        apply Uses.recover ?_ fun _ => .pure _
        exact Uses.bind (Uses.call trivial) fun pps => convergeChannelStatuses_uses [] pps
      · intro _
        apply KeepsCovered.recover ?_ fun _ => .pure _
        apply KeepsCovered.bind (.call (by exact trivial))
        exact fun pps => Guided.forEach_keeps convergeMembership_covered pps

/-! ## Runs -/

/-- An operation of a run. -/
inductive CouncilAction
  | join (ppPublicKey : PublicKey) (body : Option JoinBody)
  | sync (ppPublicKey : PublicKey)
  | event (channelAuthEvent : ChannelAuthEvent)
  | register (ownerPublicKey : PublicKey) (body : Option RegisterBody)
  | restart

/-- What the process does; its answer, if any, is `some`. -/
def CouncilAction.program (env : CouncilEnv) :
    CouncilAction → CouncilPromise (Option CouncilResponse)
  | .join ppPublicKey body => do
    let response ← handleJoinCouncil env ppPublicKey body
    pure (some response)
  | .sync ppPublicKey => do
    let response ← handleSyncMembership ppPublicKey
    pure (some response)
  | .event channelAuthEvent => do
    ofWatch (watchEvent channelAuthEvent)
    pure none
  | .register ownerPublicKey body => do
    let response ← handleRegisterPp env ownerPublicKey body
    pure (some response)
  | .restart => do
    startEventWatcher env
    pure none

/-- The operations of a run, each with what becomes of its requests. -/
abbrev CouncilRun := List (CouncilAction × List (Beat CouncilErr))

namespace CouncilRun

/-- The state that an operation leaves. -/
def after (env : CouncilEnv) (turn : CouncilAction × List (Beat CouncilErr)) (s : CouncilsState) :
    CouncilsState :=
  ((turn.1.program env).eval councilsHost turn.2 s).2.2

/-- The state after each operation. -/
def states (env : CouncilEnv) : CouncilRun → CouncilsState → List CouncilsState
  | [], _ => []
  | turn :: run, s => after env turn s :: states env run (after env turn s)

/-- The steps of all operations. -/
def steps (env : CouncilEnv) : CouncilRun → CouncilsState → List (Step councils CouncilsState)
  | [], _ => []
  | turn :: run, s =>
    (turn.1.program env).trace councilsHost turn.2 s ++ steps env run (after env turn s)

end CouncilRun

theorem program_covered (env : CouncilEnv) (action : CouncilAction) :
    KeepsCovered (action.program env) := by
  cases action with
  | join ppPublicKey body =>
    exact (handleJoinCouncil_covered env ppPublicKey body).bind fun _ => .pure _
  | sync ppPublicKey => exact (handleSyncMembership_covered ppPublicKey).bind fun _ => .pure _
  | event channelAuthEvent =>
    exact (KeepsCovered.of_watch (covered_watchEvent channelAuthEvent)).bind fun _ => .pure _
  | register ownerPublicKey body =>
    exact (KeepsCovered.of_uses (handleRegisterPp_uses env ownerPublicKey body)).bind
      fun _ => .pure _
  | restart => exact (startEventWatcher_covered env).bind fun _ => .pure _

/-- **In every run the watcher polls the councils of all live memberships after
each operation**, if at each start and each removal the scan and the count find
the councils of the live memberships, and a rejected membership is revived only
while its council is watched. -/
theorem watch_set_covers (env : CouncilEnv) (run : CouncilRun) (s : CouncilsState)
    (hs : s.Covered) (hcount : ∀ st ∈ run.steps env s, CouncilsCount st) :
    ∀ s' ∈ run.states env s, s'.Covered := by
  induction run generalizing s with
  | nil =>
    intro s' hs'
    cases hs'
  | cons turn run ih =>
    obtain ⟨hturn, hrest⟩ := List.forall_mem_append.mp hcount
    have hafter : (CouncilRun.after env turn s).Covered :=
      Guided.keeps (program_covered env turn.1) hturn hs
    intro s' hs'
    rcases List.mem_cons.mp hs' with rfl | hs'
    · exact hafter
    · exact ih _ hafter hrest s' hs'

/-! ## One council -/

instance : DecidablePred CountsMembers
  | .ran s o => by
    cases o with
    | removeContract channelAuthId =>
      exact inferInstanceAs (Decidable (s.LiveIn fun row =>
        row.channelAuthId = channelAuthId → s.HasActiveMember channelAuthId))
    | _ => exact inferInstanceAs (Decidable True)
  | .served s q => by
    cases q with
    | updateMembership id data =>
      exact inferInstanceAs (Decidable (data.status ≠ .rejected →
        ∀ row ∈ s.councilMemberships.rows, row.id = id → row.deletedAt = none →
          row.status = .rejected → row.channelAuthId ∈ s.watcher.contractIds))
    | _ => exact inferInstanceAs (Decidable True)
  | .rejected _ q _ => inferInstanceAs (Decidable (q.isRepository = false))
  | .stopped _ _ => inferInstanceAs (Decidable False)

instance : DecidablePred CouncilsCount
  | .ran s o => by
    cases o with
    | watch o => exact inferInstanceAs (Decidable (CountsMembers (.ran s.watch o)))
    | createWatcher startLedgerBlock =>
      exact inferInstanceAs (Decidable (s.watch.LiveIn fun row =>
        row.channelAuthId ≠ "" ∧ s.watch.HasActiveMember row.channelAuthId))
    | randomUUID => exact inferInstanceAs (Decidable True)
  | .served s q => by
    cases q with
    | watch q => exact inferInstanceAs (Decidable (CountsMembers (.served s.watch q)))
    | _ => exact inferInstanceAs (Decidable True)
  | .rejected _ q _ => inferInstanceAs (Decidable (q.isRepository = false))
  | .stopped _ _ => inferInstanceAs (Decidable False)

namespace OneCouncil

def env : CouncilEnv where
  mode := "production"
  providerBaseUrl := "https://p.org"
  bootSyncStartLedgerBlock := none
  parseUrl url := if url = "https://c.org" then some ⟨"https:", "c.org"⟩ else none
  publicKeyOf secretKey := if secretKey = "S" then some "P" else none

/-- An empty database; the council takes every request, and calls every
provider active. -/
def fresh : CouncilsState where
  watch := .boot (fun _ => ⟨0, 0, fun _ _ => .ok ⟨[], 0⟩⟩) (.new [] none)
  registrations := .empty
  uuid n := String.ofList (List.replicate n 'u')
  uuids := 0
  join _ _ _ := ⟨200, some (some "r")⟩
  membershipStatus _ _ _ _ := ⟨200, none⟩

def register : CouncilAction := .register "owner" (some ⟨some "S", none⟩)

def join : CouncilAction := .join "P" (some {
  councilUrl := some "https://c.org"
  councilId := some "C"
  councilName := none
  signedEnvelope := some ⟨some "\x7b\x7d", "s", "P"⟩ })

/-- Every request of the run is served at once. -/
def calmly (actions : List CouncilAction) : CouncilRun := actions.map fun action => (action, [])

def added : CouncilAction := .event ⟨.providerAdded, "P", 7, "C", none, none, none⟩
def removed : CouncilAction := .event ⟨.providerRemoved, "P", 9, "C", none, none, none⟩

end OneCouncil

open OneCouncil in
/-- A membership that becomes active before the restart stays watched to its
end. -/
theorem watch_set_covers_active : ((calmly [register, join, added, .sync "P", .restart,
    removed]).states env fresh).Forall CouncilsState.Covered :=
  List.forall_iff_forall_mem.mpr (watch_set_covers env _ fresh (by decide +kernel) (by decide +kernel))

/-- No repository call fails. -/
def CouncilsServe : Step councils CouncilsState → Prop
  | .ran _ _ => True
  | .served s q => q.isRepository = true → (councilServe q s).1.isOk = true
  | .rejected _ q _ => q.isRepository = false
  | .stopped _ _ => False

instance : DecidablePred CouncilsServe
  | .ran _ _ => inferInstanceAs (Decidable True)
  | .served s q => inferInstanceAs (Decidable (q.isRepository = true →
      (councilServe q s).1.isOk = true))
  | .rejected _ q _ => inferInstanceAs (Decidable (q.isRepository = false))
  | .stopped _ _ => inferInstanceAs (Decidable False)

open OneCouncil in
/-- A PP joins a council and the process restarts while the request is pending:
the scan passes the membership over. -/
theorem pending_unwatched_by_restart :
    fresh.Covered ∧
    (∀ st ∈ (calmly [register, join, .restart]).steps env fresh, CouncilsServe st) ∧
    ¬ ∀ s ∈ (calmly [register, join, .restart]).states env fresh, s.Covered := by
  decide +kernel

end ProviderPlatform
