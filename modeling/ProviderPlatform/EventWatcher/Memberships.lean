import ProviderPlatform.EventWatcher.Delivery

/-! # Which membership an event reaches

The handler picks one membership of the PP and looks at its council only then.
The event reaches the membership of its own council exactly if that is the one
picked; no other row changes in any case. -/
namespace ProviderPlatform
open Async Task Store

/-! ## The claim about an event -/

/-- What the event asks of the membership of its PP in its council. -/
def ChannelAuthEvent.Asks (event : ChannelAuthEvent) (status : CouncilMembershipStatus) : Prop :=
  match event.type with
  | .providerAdded => status = .active
  | .providerRemoved => status ≠ .active
  | _ => True

instance (event : ChannelAuthEvent) : DecidablePred event.Asks := fun status => by
  unfold ChannelAuthEvent.Asks
  cases event.type with
  | providerAdded => exact inferInstanceAs (Decidable (status = .active))
  | providerRemoved => exact inferInstanceAs (Decidable (status ≠ .active))
  | _ => exact inferInstanceAs (Decidable True)

namespace WatchState

/-- The memberships of the PP of an event in its council. -/
def concerned (s : WatchState) (event : ChannelAuthEvent) : List CouncilMembership :=
  (s.membershipsOf event.address).filter (·.channelAuthId == event.contractId)

/-- The membership `getCurrentForPp` finds. -/
def currentForPp (s : WatchState) (ppPublicKey : PublicKey) : Option CouncilMembership :=
  s.getActiveForPp ppPublicKey <|> lastUpdated (s.membershipsOf ppPublicKey)

end WatchState

/-- The membership of the event's PP in its council is as the event asks, and
every other row is unchanged. -/
structure MembershipFollows (event : ChannelAuthEvent) (s s' : WatchState) : Prop where
  own : ∀ membership ∈ s'.concerned event, event.Asks membership.status
  others : ∀ id, (∀ membership ∈ s.concerned event, membership.id ≠ id) →
    s'.councilMemberships.find id = s.councilMemberships.find id

/-- The requests to the repositories. -/
def WatchReq.isRepository : WatchReq → Bool
  | .listAllPps | .getActiveForPp _ | .getLastUpdatedForPp _ | .updateMembership _ _
  | .resolveScopeForPp _ => true
  | _ => false

/-- No repository call fails, and the process does not stop. -/
def RepositoryServes : Step watching WatchState → Prop
  | .rejected _ q _ => q.isRepository = false
  | .stopped _ _ => False
  | _ => True

theorem repositoryServes_calm {t : WatchPromise α} {s : WatchState} :
    ∀ st ∈ t.trace watchHost [] s, RepositoryServes st := by
  intro st hst
  rcases trace_serves watchHost t [] s (by simp) st hst with ⟨s', o, rfl⟩ | ⟨s', q, rfl⟩
  · trivial
  · trivial

/-! ## What the handler does to the rows -/

/-- The rows are those of another state. -/
def SameRows (s₀ s : WatchState) : Prop := s.councilMemberships = s₀.councilMemberships

/-- The rows are as they were, which is what is asked of the picked membership;
or the picked membership is one of the council and what is asked was written
to it. -/
def RowWritten (s₀ : WatchState) (ppPublicKey : PublicKey) (council : ContractId)
    (asks : CouncilMembershipStatus → Prop) (s : WatchState) : Prop :=
  (SameRows s₀ s ∧ ∀ membership, s₀.currentForPp ppPublicKey = some membership →
    membership.channelAuthId = council → asks membership.status) ∨
  ∃ membership now data, s₀.currentForPp ppPublicKey = some membership ∧
    membership.channelAuthId = council ∧ asks data.status ∧
    s.councilMemberships = s₀.councilMemberships.update (·.id == membership.id)
      (CouncilMembership.set now data) (CouncilMembership.set_id now data)

section Spec
variable {s₀ : WatchState} {P : WatchState → Prop} {ppPublicKey : PublicKey} {council : ContractId}

/-- A repository call returns. -/
theorem guided_repository {q : WatchReq} {B : q.Ans → WatchState → Prop}
    (hq : q.isRepository = true) (hpass : ∀ n s, P s → P (watchHost.pass n s))
    (hserve : ∀ s, P s → ∃ a, (watchServe q s).1 = .ok a ∧ B a (watchServe q s).2) :
    Guided watchHost RepositoryServes P (watchCall q) B fun _ => False := by
  apply Guided.call hpass
  · intro s hs _
    obtain ⟨a, ha, hB⟩ := hserve s hs
    have hans : watchHost.serve q s = (.ok a, (watchServe q s).2) := Prod.ext ha rfl
    rw [hans]
    exact hB
  · intro s e _ hg
    cases hq.symm.trans hg
  · exact fun _ _ hg => hg

theorem getCurrentForPp_spec :
    Guided watchHost RepositoryServes (SameRows s₀) (getCurrentForPp ppPublicKey)
      (fun found s => SameRows s₀ s ∧ found = s₀.currentForPp ppPublicKey) fun _ => False := by
  have hrows : ∀ s, SameRows s₀ s → s.membershipsOf ppPublicKey = s₀.membershipsOf ppPublicKey := by
    intro s hs
    rw [WatchState.membershipsOf, hs]
    rfl
  apply Guided.bind (B := fun active s => SameRows s₀ s ∧ active = s₀.getActiveForPp ppPublicKey)
  · apply guided_repository rfl (fun _ _ hs => hs)
    intro s hs
    refine ⟨_, rfl, hs, ?_⟩
    rw [WatchState.getActiveForPp, hrows s hs]
    rfl
  · intro active
    cases active with
    | some active =>
      apply Guided.pure
      rintro s ⟨hs, hactive⟩
      refine ⟨hs, ?_⟩
      rw [WatchState.currentForPp, ← hactive]
      rfl
    | none =>
      apply guided_repository rfl (fun _ _ hs => hs)
      rintro s ⟨hs, hactive⟩
      refine ⟨_, rfl, hs, ?_⟩
      rw [WatchState.currentForPp, ← hactive, hrows s hs]
      rfl

theorem reconcileChannelStatuses_spec (data : CouncilConfigData) :
    Guided watchHost RepositoryServes (SameRows s₀) (reconcileChannelStatuses data)
      (fun _ => SameRows s₀) fun _ => False := by
  apply Guided.forEach_keeps
  intro channel
  cases channel.1.filter (· != "") with
  | none => exact .pure fun _ hs => hs
  | some channelContractId => exact Guided.op fun s hs _ => hs

theorem fetchCouncilConfig_spec (councilUrl : String) (channelAuthId : ContractId) :
    Guided watchHost RepositoryServes (SameRows s₀) (fetchCouncilConfig councilUrl channelAuthId)
      (fun _ => SameRows s₀) fun _ => False := by
  apply Guided.recover_lives (E := SameRows s₀)
  · exact fun s q h => h
  · apply Guided.call
    · exact fun _ _ hs => hs
    · exact fun s hs _ => hs
    · exact fun s e hs _ => hs
    · exact fun s _ h => h.elim
  · exact fun e => .pure fun _ hs => hs

theorem updateMembership_spec {membership : CouncilMembership} {data : CouncilMembershipPatch}
    (asks : CouncilMembershipStatus → Prop)
    (hcurrent : s₀.currentForPp ppPublicKey = some membership)
    (hcouncil : membership.channelAuthId = council) (hasks : asks data.status) :
    Guided watchHost RepositoryServes (SameRows s₀)
      (watchCall (.updateMembership membership.id data))
      (fun _ => RowWritten s₀ ppPublicKey council asks) fun _ => False := by
  apply guided_repository rfl (fun _ _ hs => hs)
  intro s hs
  refine ⟨_, rfl, .inr ⟨membership, s.clock, data, hcurrent, hcouncil, hasks, ?_⟩⟩
  rw [← hs]
  rfl

/-- The picked membership is already as asked, or of another council. -/
theorem unchanged {s : WatchState} {membership : CouncilMembership}
    (asks : CouncilMembershipStatus → Prop) (hs : SameRows s₀ s)
    (hcurrent : s₀.currentForPp ppPublicKey = some membership)
    (h : membership.channelAuthId = council → asks membership.status) :
    RowWritten s₀ ppPublicKey council asks s := by
  refine .inl ⟨hs, ?_⟩
  intro found hfound
  cases hcurrent.symm.trans hfound
  exact h

theorem activateMembership_spec :
    Guided watchHost RepositoryServes (SameRows s₀) (activateMembership ppPublicKey council)
      (fun _ => RowWritten s₀ ppPublicKey council (· = .active)) fun _ => False := by
  apply Guided.recover (E := fun _ => False) ?_ (fun _ => .pure fun _ hs => hs.elim)
    fun _ hs => hs
  apply Guided.bind getCurrentForPp_spec
  intro found
  apply Guided.of_state
  rintro s ⟨hs, rfl⟩
  cases hcurrent : s₀.currentForPp ppPublicKey with
  | none =>
    apply Guided.pure
    rintro s' rfl
    refine .inl ⟨hs, ?_⟩
    intro membership hmembership
    cases hcurrent.symm.trans hmembership
  | some membership =>
    simp only
    split
    · rename_i hactive
      apply Guided.pure
      rintro s' rfl
      exact unchanged (· = .active) hs hcurrent fun _ => hactive
    · split
      · rename_i hother
        apply Guided.pure
        rintro s' rfl
        exact unchanged (· = .active) hs hcurrent fun h => absurd h hother
      · rename_i hcouncil
        have hnamed : ∀ s', s' = s → SameRows s₀ s' := by
          rintro s' rfl
          exact hs
        apply Guided.bind ((fetchCouncilConfig_spec membership.councilUrl council).mono hnamed
          (fun _ _ h => h) fun _ h => h)
        intro data
        have hupdate : Guided watchHost RepositoryServes (SameRows s₀) (do
            let _ ← watchCall (.updateMembership membership.id (activation membership data))
            Pure.pure () : WatchPromise Unit)
            (fun _ => RowWritten s₀ ppPublicKey council (· = .active)) fun _ => False := by
          apply Guided.bind
          · apply updateMembership_spec (· = .active) hcurrent (not_not.mp hcouncil)
            cases data with
            | none => rfl
            | some data => rfl
          · exact fun _ => .pure fun _ h => h
        cases data with
        | none => exact hupdate
        | some data => exact (reconcileChannelStatuses_spec data).bind fun _ => hupdate

/-! ## What comes after the write -/

/-- What only the rows decide. -/
def OfRows (W : WatchState → Prop) : Prop :=
  ∀ s s', s'.councilMemberships = s.councilMemberships → W s → W s'

theorem written_ofRows (s₀ : WatchState) (ppPublicKey : PublicKey) (council : ContractId)
    (asks : CouncilMembershipStatus → Prop) : OfRows (RowWritten s₀ ppPublicKey council asks) := by
  rintro s s' h (⟨hs, hasked⟩ | ⟨membership, now, data, hcurrent, hcouncil, hasks, hs⟩)
  · exact .inl ⟨h.trans hs, hasked⟩
  · exact .inr ⟨membership, now, data, hcurrent, hcouncil, hasks, h.trans hs⟩

section After
variable {W : WatchState → Prop} (hW : OfRows W)
include hW

theorem emitCouncilEvent_spec (publicKey : PublicKey) (event : CouncilEvent) :
    Guided watchHost RepositoryServes W (emitCouncilEvent publicKey event) (fun _ => W)
      fun _ => False := by
  unfold emitCouncilEvent
  split
  · exact .pure fun _ hs => hs
  · apply Guided.recover (E := fun _ => False)
    · apply Guided.bind (B := fun _ => W)
      · apply guided_repository rfl
        · exact fun n s hs => hW s _ rfl hs
        · exact fun s hs => ⟨_, rfl, hs⟩
      · intro scope
        cases scope with
        | none => exact .pure fun _ hs => hs
        | some scope => exact Guided.op fun s hs _ => hW s _ rfl hs
    · exact fun _ => .pure fun _ hs => hs.elim
    · exact fun _ hs => hs

theorem hasActiveMember_spec (channelAuthId : ContractId) (pps : List PaymentProvider) :
    Guided watchHost RepositoryServes W (hasActiveMember channelAuthId pps) (fun _ => W)
      fun _ => False := by
  induction pps with
  | nil => exact .pure fun _ hs => hs
  | cons pp pps ih =>
    apply Guided.bind (B := fun _ => W)
    · apply guided_repository rfl
      · exact fun n s hs => hW s _ rfl hs
      · exact fun s hs => ⟨_, rfl, hs⟩
    · intro membership
      split
      · exact .pure fun _ hs => hs
      · exact ih

theorem unwatchCouncilContractIfUnused_spec (channelAuthId : ContractId) :
    Guided watchHost RepositoryServes W (unwatchCouncilContractIfUnused channelAuthId)
      (fun _ => W) fun _ => False := by
  apply Guided.bind (B := fun _ => W)
  · apply guided_repository rfl
    · exact fun n s hs => hW s _ rfl hs
    · exact fun s hs => ⟨_, rfl, hs⟩
  · intro pps
    apply (hasActiveMember_spec hW channelAuthId pps).bind
    intro used
    cases used with
    | true => exact .pure fun _ hs => hs
    | false => exact Guided.op fun s hs _ => hW s _ rfl hs

end After

theorem deactivateMembership_spec :
    Guided watchHost RepositoryServes (SameRows s₀) (deactivateMembership ppPublicKey council)
      (fun _ => RowWritten s₀ ppPublicKey council (· ≠ .active)) fun _ => False := by
  apply Guided.recover (E := fun _ => False) ?_ (fun _ => .pure fun _ hs => hs.elim)
    fun _ hs => hs
  apply Guided.bind getCurrentForPp_spec
  intro found
  apply Guided.of_state
  rintro s ⟨hs, rfl⟩
  cases hcurrent : s₀.currentForPp ppPublicKey with
  | none =>
    apply Guided.pure
    rintro s' rfl
    refine .inl ⟨hs, ?_⟩
    intro membership hmembership
    cases hcurrent.symm.trans hmembership
  | some membership =>
    simp only
    split
    · rename_i hinactive
      apply Guided.pure
      rintro s' rfl
      exact unchanged (· ≠ .active) hs hcurrent fun _ => hinactive
    · split
      · rename_i hother
        apply Guided.pure
        rintro s' rfl
        exact unchanged (· ≠ .active) hs hcurrent fun h => absurd h hother
      · rename_i hcouncil
        apply Guided.bind (B := fun _ => RowWritten s₀ ppPublicKey council (· ≠ .active))
        · apply (updateMembership_spec (· ≠ .active) hcurrent (not_not.mp hcouncil)
            (by decide)).mono
          · rintro s' rfl
            exact hs
          · exact fun _ _ h => h
          · exact fun _ h => h
        · exact fun _ => unwatchCouncilContractIfUnused_spec (written_ofRows _ _ _ _) council

end Spec

/-! ## The handler -/

/-- What an event asks, in the words of the two functions. -/
theorem followProvider_spec {s₀ : WatchState} (event : ChannelAuthEvent) :
    Guided watchHost RepositoryServes (SameRows s₀) (followProvider event)
      (fun _ => RowWritten s₀ event.address event.contractId event.Asks) fun _ => False := by
  rw [followProvider]
  unfold ChannelAuthEvent.Asks
  cases event.type with
  | providerAdded =>
    apply activateMembership_spec.bind
    intro _
    apply emitCouncilEvent_spec
    exact written_ofRows s₀ event.address event.contractId (· = .active)
  | providerRemoved =>
    apply deactivateMembership_spec.bind
    intro _
    apply emitCouncilEvent_spec
    exact written_ofRows s₀ event.address event.contractId (· ≠ .active)
  | _ => exact .pure fun _ hs => .inl ⟨hs, fun _ _ _ => trivial⟩

/-- What the handler leaves behind; a PP that is not registered is ignored. -/
def Followed (s₀ : WatchState) (event : ChannelAuthEvent) (s : WatchState) : Prop :=
  if event.address ∈ s₀.registeredProviders then
    RowWritten s₀ event.address event.contractId event.Asks s
  else SameRows s₀ s

theorem watchEvent_spec {s₀ : WatchState} (event : ChannelAuthEvent) :
    Guided watchHost RepositoryServes (· = s₀) (watchEvent event)
      (fun _ => Followed s₀ event) fun _ => False := by
  have hhandle : ∀ {P : WatchState → Prop}, (∀ s, P s → SameRows s₀ s) →
      Guided watchHost RepositoryServes P (watchRun (.handleEvent event)) (fun _ => SameRows s₀)
        fun _ => False := fun hP => Guided.op fun s hs _ => hP s hs
  unfold watchEvent
  split
  · rename_i htype
    have hasks : ∀ status, event.Asks status := by
      intro status
      rw [ChannelAuthEvent.Asks, htype]
      trivial
    apply (hhandle (P := (· = s₀)) (fun _ h => h ▸ rfl)).mono (fun _ h => h) _ fun _ h => h
    intro _ s hs
    unfold Followed
    split
    · exact .inl ⟨hs, fun _ _ _ => hasks _⟩
    · exact hs
  · apply Guided.bind (B := fun registered s =>
      s = s₀ ∧ registered = decide (event.address ∈ s₀.registeredProviders))
    · apply Guided.op
      rintro s rfl -
      exact ⟨rfl, rfl⟩
    · intro registered
      unfold Followed
      cases registered with
      | true =>
        apply Guided.of_state
        rintro s ⟨rfl, hregistered⟩
        simp only [of_decide_eq_true hregistered.symm, if_true]
        have hfirst := hhandle (P := (· = s)) fun _ h => h ▸ rfl
        exact hfirst.bind fun _ => followProvider_spec event
      | false =>
        apply Guided.of_state
        rintro s ⟨rfl, hregistered⟩
        simp only [of_decide_eq_false hregistered.symm, Bool.false_eq_true, if_false]
        split
        · exact hhandle fun _ h => h ▸ rfl
        · exact .pure fun _ h => h ▸ rfl

/-! ## What it means for the memberships -/

theorem lastUpdated_mem {rows : List CouncilMembership} {row : CouncilMembership}
    (h : lastUpdated rows = some row) : row ∈ rows := by
  cases rows with
  | nil => cases h
  | cons first rows =>
    have hfold : ∀ (rows : List CouncilMembership) (last : CouncilMembership),
        rows.foldl (fun last current =>
          if last.updatedAt < current.updatedAt then current else last) last ∈ last :: rows := by
      intro rows
      induction rows with
      | nil => exact fun last => List.mem_cons_self
      | cons current rows ih =>
        intro last
        rcases List.mem_cons.mp (ih (if last.updatedAt < current.updatedAt then current else last))
          with heq | hmem
        · simp only [List.foldl_cons, heq]
          split
          · exact .tail _ List.mem_cons_self
          · exact List.mem_cons_self
        · exact .tail _ (.tail _ hmem)
    rw [← Option.some.inj h]
    exact hfold rows first

theorem currentForPp_mem {s : WatchState} {ppPublicKey : PublicKey} {row : CouncilMembership}
    (h : s.currentForPp ppPublicKey = some row) : row ∈ s.membershipsOf ppPublicKey := by
  unfold WatchState.currentForPp at h
  cases hactive : s.getActiveForPp ppPublicKey with
  | none =>
    rw [hactive] at h
    exact lastUpdated_mem h
  | some active =>
    rw [hactive] at h
    cases h
    exact List.mem_of_find?_eq_some hactive

theorem mem_membershipsOf {s : WatchState} {ppPublicKey : PublicKey} {row : CouncilMembership} :
    row ∈ s.membershipsOf ppPublicKey ↔ row ∈ s.councilMemberships.rows ∧
      row.ppPublicKey = ppPublicKey ∧ row.deletedAt = none := by
  simp [WatchState.membershipsOf, Table.mem_select]

theorem mem_concerned {s : WatchState} {event : ChannelAuthEvent} {row : CouncilMembership} :
    row ∈ s.concerned event ↔
      row ∈ s.membershipsOf event.address ∧ row.channelAuthId = event.contractId := by
  simp [WatchState.concerned]

/-- Memberships of a PP in different councils: one for each council. -/
theorem concerned_unique {s : WatchState} {event : ChannelAuthEvent} {row row' : CouncilMembership}
    (h : ((s.membershipsOf event.address).map (·.channelAuthId)).Nodup)
    (hr : row ∈ s.concerned event) (hr' : row' ∈ s.concerned event) : row = row' := by
  obtain ⟨hrow, hcouncil⟩ := mem_concerned.mp hr
  obtain ⟨hrow', hcouncil'⟩ := mem_concerned.mp hr'
  exact List.inj_on_of_nodup_map h hrow hrow' (hcouncil.trans hcouncil'.symm)

theorem sameRows_concerned {s₀ s : WatchState} (h : SameRows s₀ s) (event : ChannelAuthEvent) :
    s.concerned event = s₀.concerned event := by
  rw [WatchState.concerned, WatchState.membershipsOf, h]
  rfl

theorem sameRows_follows {s₀ s : WatchState} {event : ChannelAuthEvent} (h : SameRows s₀ s) :
    MembershipFollows event s₀ s ↔ ∀ row ∈ s₀.concerned event, event.Asks row.status := by
  constructor
  · intro hfollows row hrow
    exact hfollows.own row (sameRows_concerned h event ▸ hrow)
  · intro hasks
    constructor
    · intro row hrow
      exact hasks row (sameRows_concerned h event ▸ hrow)
    · intro id _
      rw [h]

section Update
variable {s₀ s : WatchState} {event : ChannelAuthEvent} {membership : CouncilMembership}
  {now : Time} {data : CouncilMembershipPatch}
  (hmem : membership ∈ s₀.concerned event)
  (hs : s.councilMemberships = s₀.councilMemberships.update (·.id == membership.id)
    (CouncilMembership.set now data) (CouncilMembership.set_id now data))
include hmem hs

theorem update_follows (hasks : event.Asks data.status)
    (hunique : ∀ row ∈ s₀.concerned event, row = membership) :
    MembershipFollows event s₀ s := by
  constructor
  · intro row hrow
    obtain ⟨hrow, hcouncil⟩ := mem_concerned.mp hrow
    obtain ⟨hrow, hkey, hlive⟩ := mem_membershipsOf.mp hrow
    rw [hs] at hrow
    obtain ⟨row₀, hrow₀, heq⟩ := (Table.mem_update _).mp hrow
    split at heq
    · rw [← heq]
      exact hasks
    · rename_i hother
      have hconcerned : row₀ ∈ s₀.concerned event := by
        rw [heq]
        exact mem_concerned.mpr ⟨mem_membershipsOf.mpr ⟨heq ▸ hrow₀, hkey, hlive⟩, hcouncil⟩
      rw [hunique row₀ hconcerned] at hother
      exact absurd (beq_iff_eq.mpr rfl) hother
  · intro id hid
    have hne : membership.id ≠ id := hid membership hmem
    rw [hs, Table.find_update]
    cases hfind : s₀.councilMemberships.find id with
    | none => rfl
    | some row =>
      have hkey : row.id ≠ membership.id := fun h => hne (h ▸ Table.find_key hfind)
      simp [hkey]

end Update

/-! ## The claim -/

/-- **Which events reach their membership.** If no repository call fails, the
event reaches the membership of its council, and no other row, exactly if that
membership is as asked already or is the one the handler picks. -/
theorem membership_follows_iff (event : ChannelAuthEvent) (s : WatchState)
    (bs : List (Beat WatchErr))
    (hcouncils : ((s.membershipsOf event.address).map (·.channelAuthId)).Nodup)
    (hserves : ∀ st ∈ (watchEvent event).trace watchHost bs s, RepositoryServes st) :
    MembershipFollows event s ((watchEvent event).eval watchHost bs s).2.2 ↔
      ∀ row ∈ s.concerned event, event.Asks row.status ∨
        event.address ∈ s.registeredProviders ∧ s.currentForPp event.address = some row := by
  have hend := watchEvent_spec event bs s hserves rfl
  have hfollowed : Followed s event ((watchEvent event).eval watchHost bs s).2.2 := by
    revert hend
    rcases ((watchEvent event).eval watchHost bs s).1 with _ | e | a
    · exact False.elim
    · exact False.elim
    · exact id
  unfold Followed at hfollowed
  by_cases hregistered : event.address ∈ s.registeredProviders
  · rw [if_pos hregistered] at hfollowed
    rcases hfollowed with ⟨hsame, hpicked⟩ | ⟨membership, now, data, hcurrent, hcouncil, hasks, hs⟩
    · rw [sameRows_follows hsame]
      constructor
      · exact fun h row hrow => .inl (h row hrow)
      · intro h row hrow
        rcases h row hrow with hasks | ⟨-, hcurrent⟩
        · exact hasks
        · exact hpicked row hcurrent (mem_concerned.mp hrow).2
    · have hmem : membership ∈ s.concerned event :=
        mem_concerned.mpr ⟨currentForPp_mem hcurrent, hcouncil⟩
      have hunique : ∀ row ∈ s.concerned event, row = membership :=
        fun row hrow => concerned_unique hcouncils hrow hmem
      constructor
      · intro _ row hrow
        rw [hunique row hrow]
        exact .inr ⟨hregistered, hcurrent⟩
      · exact fun _ => update_follows hmem hs hasks hunique
  · rw [if_neg hregistered] at hfollowed
    rw [sameRows_follows hfollowed]
    constructor
    · exact fun h row hrow => .inl (h row hrow)
    · intro h row hrow
      rcases h row hrow with hasks | ⟨hin, -⟩
      · exact hasks
      · exact absurd hin hregistered

/-- The memberships of the PP "P", one in each of the councils "A" and "B". -/
def membershipOfP (council : ContractId) (status : CouncilMembershipStatus) :
    CouncilMembership where
  createdAt := 0
  updatedAt := 0
  id := council
  councilUrl := ""
  councilName := none
  channelAuthId := council
  status := status
  configJson := none
  ppPublicKey := "P"

def twoCouncils (statusOfA statusOfB : CouncilMembershipStatus) : WatchState :=
  { WatchState.boot (wholeServer [] 1) (.new ["A", "B"] none) with
    registeredProviders := ["P"]
    councilMemberships :=
      ⟨[membershipOfP "A" statusOfA, membershipOfP "B" statusOfB], by
        simp [membershipOfP]⟩ }

/-- "B" adds the provider "P". -/
def addedByB : ChannelAuthEvent :=
  { type := .providerAdded, address := "P", ledger := 1, contractId := "B" }

/-- "B" removes a provider that "A" turned down. -/
theorem membership_follows_iff_removed :
    MembershipFollows { addedByB with type := .providerRemoved } (twoCouncils .rejected .active)
      ((watchEvent { addedByB with type := .providerRemoved }).eval watchHost []
        (twoCouncils .rejected .active)).2.2 :=
  (membership_follows_iff { addedByB with type := .providerRemoved } (twoCouncils .rejected .active)
    [] (by decide +kernel) repositoryServes_calm).mpr (by decide +kernel)

/-- A provider that is active in "A" was added by "B" and stays pending there. -/
theorem addedByB_pending :
    (∀ st ∈ (watchEvent addedByB).trace watchHost [] (twoCouncils .active .pending),
      RepositoryServes st) ∧
    ¬ MembershipFollows addedByB (twoCouncils .active .pending)
      ((watchEvent addedByB).eval watchHost [] (twoCouncils .active .pending)).2.2 := by
  constructor
  · exact repositoryServes_calm
  · intro hfollows
    have hpending : ∃ row ∈ ((watchEvent addedByB).eval watchHost []
        (twoCouncils .active .pending)).2.2.concerned addedByB, ¬ addedByB.Asks row.status := by
      decide +kernel
    obtain ⟨row, hrow, hasks⟩ := hpending
    exact hasks (hfollows.own row hrow)

end ProviderPlatform
