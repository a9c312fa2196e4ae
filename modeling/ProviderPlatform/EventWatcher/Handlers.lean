import ProviderPlatform.EventWatcher.Process

/-! # The handler of the one watcher

Which events reach the registry, and what `provider_added` and
`provider_removed` do to the membership of the provider. A PP has one current
membership, the active one or the one updated last; whether it is for the
council of the event is looked at only after it was picked. -/
namespace ProviderPlatform
open Async

/-- Resolves the scope of a PP and emits one event; errors are logged. -/
def emitCouncilEvent (ppPublicKey : PublicKey) (event : CouncilEvent) : WatchPromise Unit :=
  if ppPublicKey = "" then pure ()
  else Task.recover (I := watching)
    (do
      let scope : Option EventScope ← watchCall (.resolveScopeForPp ppPublicKey)
      match scope with
      | none => pure ()
      | some scope => watchRun (.emit scope event))
    fun _ => pure ()

/-- The active membership of a PP, else the one updated last. -/
def getCurrentForPp (ppPublicKey : PublicKey) : WatchPromise (Option CouncilMembership) := do
  let active : Option CouncilMembership ← watchCall (.getActiveForPp ppPublicKey)
  match active with
  | some active => pure (some active)
  | none => watchCall (.getLastUpdatedForPp ppPublicKey)

/-- A council that cannot be reached has no public state. -/
def fetchCouncilConfig (councilUrl : String) (channelAuthId : ContractId) :
    WatchPromise (Option CouncilConfigData) :=
  Task.recover (I := watching) (watchCall (.fetchCouncilConfig councilUrl channelAuthId))
    fun _ => pure none

/-- Apply the statuses of the channels of a council. -/
def reconcileChannelStatuses (data : CouncilConfigData) : WatchPromise Unit :=
  Task.forEach (I := watching)
    (fun channel =>
      match channel.1.filter (· != "") with
      | none => pure ()
      | some channelContractId =>
        watchRun (.applyChannelState channelContractId (channel.2 != some "disabled")))
    data.channels

/-! ## Memberships -/

/-- What `activateMembership` writes to a membership. -/
def activation (membership : CouncilMembership) :
    Option CouncilConfigData → CouncilMembershipPatch
  | none => ⟨.active, some none, some membership.councilName⟩
  | some data =>
    ⟨.active, some (some data.json), some (data.councilName <|> membership.councilName)⟩

def activateMembership (ppPublicKey : PublicKey) (channelAuthId : ContractId) :
    WatchPromise Unit :=
  Task.recover (I := watching)
    (do
      let membership ← getCurrentForPp ppPublicKey
      match membership with
      | none => pure ()
      | some membership =>
        if membership.status = .active then pure ()
        else if membership.channelAuthId ≠ channelAuthId then pure ()
        else do
          let data ← fetchCouncilConfig membership.councilUrl channelAuthId
          match data with
          | none => pure ()
          | some data => reconcileChannelStatuses data
          let _ ← watchCall (.updateMembership membership.id (activation membership data))
          pure ())
    fun _ => pure ()

/-- Whether one of the PPs has its active membership in the council. -/
def hasActiveMember (channelAuthId : ContractId) : List PaymentProvider → WatchPromise Bool
  | [] => pure false
  | pp :: pps => do
    let membership : Option CouncilMembership ← watchCall (.getActiveForPp pp.publicKey)
    if membership.map (·.channelAuthId) = some channelAuthId then pure true
    else hasActiveMember channelAuthId pps

def unwatchCouncilContractIfUnused (channelAuthId : ContractId) : WatchPromise Unit := do
  let pps : List PaymentProvider ← watchCall .listAllPps
  let used ← hasActiveMember channelAuthId pps
  if used then pure () else watchRun (.removeContract channelAuthId)

def deactivateMembership (ppPublicKey : PublicKey) (channelAuthId : ContractId) :
    WatchPromise Unit :=
  Task.recover (I := watching)
    (do
      let membership ← getCurrentForPp ppPublicKey
      match membership with
      | none => pure ()
      | some membership =>
        if membership.status ≠ .active then pure ()
        else if membership.channelAuthId ≠ channelAuthId then pure ()
        else do
          let _ ← watchCall (.updateMembership membership.id { status := .rejected })
          unwatchCouncilContractIfUnused channelAuthId)
    fun _ => pure ()

/-! ## The handler -/

/-- What a provider event does besides the registry. -/
def followProvider (event : ChannelAuthEvent) : WatchPromise Unit :=
  match event.type with
  | .providerAdded => do
    activateMembership event.address event.contractId
    emitCouncilEvent event.address (.providerAdded event.contractId)
  | .providerRemoved => do
    deactivateMembership event.address event.contractId
    emitCouncilEvent event.address (.providerRemoved event.contractId)
  | _ => pure ()

/-- The handler `createWatcher` registers. -/
def watchEvent : EventHandler := fun event =>
  if event.type = .channelStateChanged then watchRun (.handleEvent event)
  else do
    let registered : Bool ← watchRun (.isRegistered event.address)
    if registered then do
      watchRun (.handleEvent event)
      followProvider event
    else if event.type = .contractInitialized then watchRun (.handleEvent event)
    else pure ()

/-! ## What the handler does -/

/-- The operations that follow an activation. -/
def WatchOp.Activates : WatchOp → Prop
  | .applyChannelState _ _ | .emit _ _ => True
  | _ => False

/-- The operations that follow a provider event. -/
def WatchOp.Follows : WatchOp → Prop
  | .applyChannelState _ _ | .emit _ _ | .removeContract _ => True
  | _ => False

theorem WatchOp.Activates.follows {o : WatchOp} (h : o.Activates) : o.Follows := by
  cases o with
  | applyChannelState channelContractId enabled => trivial
  | emit scope event => trivial
  | _ => exact h.elim

section Uses
variable {okOp : WatchOp → Prop}

theorem emitCouncilEvent_uses (ppPublicKey : PublicKey) {councilEvent : CouncilEvent}
    (hemit : ∀ scope, okOp (.emit scope councilEvent)) :
    (emitCouncilEvent ppPublicKey councilEvent).Uses okOp fun _ => True := by
  unfold emitCouncilEvent
  split
  · exact .pure ()
  · apply Task.Uses.recover
    · apply Task.Uses.bind (Task.Uses.call trivial)
      intro scope
      cases scope with
      | none => exact .pure ()
      | some scope => exact Task.Uses.op (hemit scope)
    · exact fun _ => .pure ()

theorem getCurrentForPp_uses (ppPublicKey : PublicKey) :
    (getCurrentForPp ppPublicKey).Uses okOp fun _ => True := by
  apply Task.Uses.bind (Task.Uses.call trivial)
  intro active
  cases active with
  | none => exact Task.Uses.call trivial
  | some active => exact .pure _

theorem hasActiveMember_uses (channelAuthId : ContractId) (pps : List PaymentProvider) :
    (hasActiveMember channelAuthId pps).Uses okOp fun _ => True := by
  induction pps with
  | nil => exact .pure false
  | cons pp pps ih =>
    apply Task.Uses.bind (Task.Uses.call trivial)
    intro membership
    split
    · exact .pure true
    · exact ih

/-- A deactivation removes the contract at most. -/
theorem deactivateMembership_uses (ppPublicKey : PublicKey) {channelAuthId : ContractId}
    (hremove : okOp (.removeContract channelAuthId)) :
    (deactivateMembership ppPublicKey channelAuthId).Uses okOp fun _ => True := by
  apply Task.Uses.recover ?_ fun _ => .pure ()
  apply Task.Uses.bind (getCurrentForPp_uses ppPublicKey)
  intro membership
  cases membership with
  | none => exact .pure ()
  | some membership =>
    simp only
    split
    · exact .pure ()
    · split
      · exact .pure ()
      · apply Task.Uses.bind (Task.Uses.call trivial)
        intro _
        apply Task.Uses.bind (Task.Uses.call trivial)
        intro pps
        apply Task.Uses.bind (hasActiveMember_uses channelAuthId pps)
        intro used
        cases used with
        | true => exact .pure ()
        | false => exact Task.Uses.op hremove

end Uses

theorem reconcileChannelStatuses_uses (data : CouncilConfigData) :
    (reconcileChannelStatuses data).Uses WatchOp.Activates fun _ => True := by
  apply Task.Uses.forEach
  intro channel _
  cases channel.1.filter (· != "") with
  | none => exact .pure ()
  | some channelContractId => exact Task.Uses.op trivial

theorem activateMembership_uses (ppPublicKey : PublicKey) (channelAuthId : ContractId) :
    (activateMembership ppPublicKey channelAuthId).Uses WatchOp.Activates fun _ => True := by
  apply Task.Uses.recover ?_ fun _ => .pure ()
  apply Task.Uses.bind (getCurrentForPp_uses ppPublicKey)
  intro membership
  cases membership with
  | none => exact .pure ()
  | some membership =>
    simp only
    split
    · exact .pure ()
    · split
      · exact .pure ()
      · apply Task.Uses.bind (Task.Uses.recover (Task.Uses.call trivial) fun _ => .pure _)
        intro data
        have hupdate : ∀ patch, (do
            let _ ← watchCall (.updateMembership membership.id patch)
            Pure.pure () : WatchPromise Unit).Uses WatchOp.Activates fun _ => True :=
          fun patch => Task.Uses.bind (Task.Uses.call trivial) fun _ => .pure ()
        cases data with
        | none => exact hupdate _
        | some data => exact Task.Uses.bind (reconcileChannelStatuses_uses data) fun _ => hupdate _

theorem followProvider_uses (event : ChannelAuthEvent) :
    (followProvider event).Uses WatchOp.Follows fun _ => True := by
  have hemit (councilEvent : CouncilEvent) :
      (emitCouncilEvent event.address councilEvent).Uses WatchOp.Follows fun _ => True :=
    emitCouncilEvent_uses _ fun _ => trivial
  rw [followProvider]
  cases event.type with
  | providerAdded =>
    apply Task.Uses.bind ?_ fun _ => hemit _
    exact (activateMembership_uses _ _).mono (fun _ h => h.follows) fun _ h => h
  | providerRemoved => exact Task.Uses.bind (deactivateMembership_uses _ trivial) fun _ => hemit _
  | _ => exact .pure ()

/-- The operations of the handler. -/
def WatchOp.Handler : WatchOp → Prop
  | .handleEvent _ | .isRegistered _ => True
  | o => o.Follows

theorem WatchOp.Follows.handler {o : WatchOp} (h : o.Follows) : o.Handler := by
  cases o with
  | handleEvent event => trivial
  | isRegistered publicKey => trivial
  | _ => exact h

theorem watchEvent_uses (event : ChannelAuthEvent) :
    (watchEvent event).Uses WatchOp.Handler fun _ => True := by
  have hhandle : (watchRun (.handleEvent event)).Uses WatchOp.Handler fun _ => True :=
    Task.Uses.op trivial
  unfold watchEvent
  split
  · exact hhandle
  · apply Task.Uses.bind (Task.Uses.op trivial)
    intro registered
    cases registered with
    | true =>
      apply Task.Uses.bind hhandle
      intro _
      exact (followProvider_uses event).mono (fun _ h => h.handler) fun _ h => h
    | false =>
      simp only [Bool.false_eq_true, if_false]
      split
      · exact hhandle
      · exact .pure ()

end ProviderPlatform
