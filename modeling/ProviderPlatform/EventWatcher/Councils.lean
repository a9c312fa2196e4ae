import ProviderPlatform.Async.Embed
import ProviderPlatform.EventWatcher.Handlers
import ProviderPlatform.Runtime.Text

/-! # Councils

What fills the contract set of the watcher: the scan of the memberships at the
start of the process, and the handler that joins a council. With them the
convergence queries of the start, the sync of a membership and the registration
of a PP. Their interface is that of the watcher, with the requests of the
dashboard. -/
namespace ProviderPlatform
open Async Store

/-! ## The start of the watcher -/

/-- Add a contract to the watcher's set and track it in the registry. -/
def watchCouncilContract (channelAuthId : ContractId) : WatchPromise Unit := do
  watchRun (.addContract channelAuthId)
  watchRun (.addChannel channelAuthId)

/-- Watch the council of the current membership of a PP, if that is active. -/
def watchCurrentCouncil (pp : PaymentProvider) : WatchPromise Unit := do
  let membership ← getCurrentForPp pp.publicKey
  match membership with
  | none => pure ()
  | some membership =>
    if membership.status = .active ∧ membership.channelAuthId ≠ "" then
      watchCouncilContract membership.channelAuthId
    else pure ()

def initFromDb : WatchPromise Unit :=
  Task.recover (I := watching)
    (do
      let pps : List PaymentProvider ← watchCall .listAllPps
      Task.forEach (I := watching) (fun pp => watchRun (.addProvider pp.publicKey)) pps
      Task.forEach (I := watching) watchCurrentCouncil pps)
    fun _ => pure ()

/-- Query the council of every active membership once. -/
def convergeChannelStatuses (seen : List String) : List PaymentProvider → WatchPromise Unit
  | [] => pure ()
  | pp :: pps => do
    let membership : Option CouncilMembership ← watchCall (.getActiveForPp pp.publicKey)
    match membership.filter (·.channelAuthId != "") with
    | none => convergeChannelStatuses seen pps
    | some membership =>
      let key := membership.councilUrl ++ "|" ++ membership.channelAuthId
      if key ∈ seen then convergeChannelStatuses seen pps
      else do
        let data ← fetchCouncilConfig membership.councilUrl membership.channelAuthId
        match data with
        | none => pure ()
        | some data => reconcileChannelStatuses data
        convergeChannelStatuses (key :: seen) pps

def convergeChannelStatusesOnBoot : WatchPromise Unit :=
  Task.recover (I := watching)
    (do
      let pps : List PaymentProvider ← watchCall .listAllPps
      convergeChannelStatuses [] pps)
    fun _ => pure ()

/-! ## The interface -/

/-- The columns of a PP that its registration uses. -/
structure PpRegistration where
  id : String
  publicKey : PublicKey
  ownerPublicKey : Option PublicKey
  isActive : Bool
  deriving DecidableEq

structure NewPaymentProvider where
  id : String
  publicKey : PublicKey
  ownerPublicKey : PublicKey
  isActive : Bool
  label : Option String
  deriving DecidableEq

structure NewCouncilMembership where
  id : String
  councilUrl : String
  councilName : Option String
  channelAuthId : ContractId
  status : CouncilMembershipStatus
  ppPublicKey : PublicKey
  createdAt : Time
  updatedAt : Time
  deriving DecidableEq

/-- The inserted row, with the column defaults. -/
def NewCouncilMembership.row (data : NewCouncilMembership) : CouncilMembership where
  id := data.id
  councilUrl := data.councilUrl
  councilName := data.councilName
  channelAuthId := data.channelAuthId
  status := data.status
  configJson := none
  ppPublicKey := data.ppPublicKey
  createdAt := data.createdAt
  updatedAt := data.updatedAt

/-- A signed join request; a part that is falsy is `none` or empty. -/
structure SignedEnvelope where
  payload : Option String
  signature : String
  publicKey : PublicKey
  deriving DecidableEq

/-- What a council answers to a join request; the body may not be one with
`data` in it. -/
structure JoinAnswer where
  status : Nat
  body : Option (Option String)
  deriving DecidableEq

/-- What a council answers about a membership: the code, and `status` in the
body. -/
structure StatusAnswer where
  status : Nat
  body : Option String
  deriving DecidableEq

/-- A thrown value: the abort of a request, or any other. -/
inductive CouncilErr
  | abort
  | other (error : WatchErr)
  deriving DecidableEq

inductive CouncilOp
  | watch (o : WatchOp)
  /-- A process starts and builds its watcher. -/
  | createWatcher (startLedgerBlock : Option Ledger)
  | randomUUID

@[reducible] def CouncilOp.Out : CouncilOp → Type
  | watch o => o.Out
  | createWatcher _ => Unit
  | randomUUID => String

inductive CouncilReq
  | watch (q : WatchReq)
  | findByCouncilUrlAndPp (url : String) (ppPublicKey : PublicKey)
  | createMembership (data : NewCouncilMembership)
  | postJoinRequest (baseUrl : String) (signedEnvelope : SignedEnvelope) (providerUrl : String)
  | getMembershipStatus (councilUrl : String) (channelAuthId : ContractId)
      (publicKey : PublicKey)
  | findPpByPublicKey (publicKey : PublicKey)
  | activatePp (id : String)
  | createPp (data : NewPaymentProvider)

@[reducible] def CouncilReq.Ans : CouncilReq → Type
  | watch q => q.Ans
  | findByCouncilUrlAndPp _ _ => Option CouncilMembership
  | createMembership _ => CouncilMembership
  | postJoinRequest _ _ _ => JoinAnswer
  | getMembershipStatus _ _ _ => StatusAnswer
  | findPpByPublicKey _ => Option PpRegistration
  | activatePp _ => Unit
  | createPp _ => PpRegistration

abbrev councils : Interface := ⟨CouncilOp, CouncilOp.Out, CouncilReq, CouncilReq.Ans, CouncilErr⟩

/-- An async function of the dashboard. -/
abbrev CouncilPromise (α : Type) := Task councils α

def CouncilErr.lower : CouncilErr → WatchErr
  | .abort => ⟨"The signal has been aborted"⟩
  | .other error => error

def ofWatching : Embedding watching councils where
  op := .watch
  out _ a := a
  req := .watch
  answer _ r := r.mapError CouncilErr.lower
  raise := .other

/-! ## What they do -/

/-- The database and the watcher are those of the watcher's state; a PP has its
registration beside its row there. -/
structure CouncilsState where
  watch : WatchState
  registrations : Table PpRegistration.publicKey
  uuid : Nat → String
  uuids : Nat
  join : Time → String → SignedEnvelope → JoinAnswer
  membershipStatus : Time → String → ContractId → PublicKey → StatusAnswer

namespace CouncilsState

def withWatch (s : CouncilsState) (watch : WatchState) : CouncilsState := { s with watch := watch }

@[simp] theorem withWatch_watch (s : CouncilsState) (watch : WatchState) :
    (s.withWatch watch).watch = watch := rfl

end CouncilsState

/-- The watcher's part of a process that just started, over the same database. -/
def WatchState.restart (s : WatchState) (startLedgerBlock : Option Ledger) : WatchState :=
  { s with
    watcher := .new [] startLedgerBlock
    registry := .new []
    registeredProviders := [] }

def councilOp : (o : CouncilOp) → CouncilsState → o.Out × CouncilsState
  | .watch o, s => ((watchOp o s.watch).1, s.withWatch (watchOp o s.watch).2)
  | .createWatcher startLedgerBlock, s => ((), s.withWatch (s.watch.restart startLedgerBlock))
  | .randomUUID, s => (s.uuid s.uuids, { s with uuids := s.uuids + 1 })

/-- A violated primary key or unique column. -/
def uniqueViolation : CouncilErr := .other ⟨"duplicate key value violates unique constraint"⟩

def councilServe : (q : CouncilReq) → CouncilsState → Except CouncilErr q.Ans × CouncilsState
  | .watch q, s =>
    ((watchServe q s.watch).1.mapError .other, s.withWatch (watchServe q s.watch).2)
  | .findByCouncilUrlAndPp url ppPublicKey, s =>
    (.ok ((s.watch.membershipsOf ppPublicKey).find? (·.councilUrl == url)), s)
  | .createMembership data, s =>
    match s.watch.councilMemberships.insert? data.row with
    | some rows => (.ok data.row, s.withWatch { s.watch with councilMemberships := rows })
    | none => (.error uniqueViolation, s)
  | .postJoinRequest baseUrl signedEnvelope _, s =>
    (.ok (s.join s.watch.clock baseUrl signedEnvelope), s)
  | .getMembershipStatus councilUrl channelAuthId publicKey, s =>
    (.ok (s.membershipStatus s.watch.clock councilUrl channelAuthId publicKey), s)
  | .findPpByPublicKey publicKey, s => (.ok (s.registrations.find publicKey), s)
  | .activatePp id, s =>
    let registrations := s.registrations.update (·.id == id)
      (fun row => { row with isActive := true }) fun _ => rfl
    (.ok (), { s with registrations := registrations })
  | .createPp data, s =>
    let row : PpRegistration :=
      ⟨data.id, data.publicKey, some data.ownerPublicKey, data.isActive⟩
    if s.registrations.rows.any (·.id == data.id) then (.error uniqueViolation, s)
    else
      match s.registrations.insert? row,
          s.watch.paymentProviders.insert? ⟨data.publicKey, data.label⟩ with
      | some registrations, some paymentProviders =>
        (.ok row, { s with
          registrations := registrations
          watch := { s.watch with paymentProviders := paymentProviders } })
      | _, _ => (.error uniqueViolation, s)

def councilsHost : Host councils CouncilsState where
  runOp := councilOp
  serve := councilServe
  pass n s := s.withWatch (watchHost.pass n s.watch)

def councilRun (o : CouncilOp) : CouncilPromise o.Out := Task.op (I := councils) o
def councilCall (q : CouncilReq) : CouncilPromise q.Ans := Task.call (I := councils) q

theorem ofWatching_hosts :
    ofWatching.Hosts watchHost councilsHost CouncilsState.watch CouncilErr.lower where
  out _ _ := rfl
  op _ _ := rfl
  answer q s := by
    change ((watchServe q s.watch).1.mapError CouncilErr.other).mapError CouncilErr.lower = _
    cases hserve : (watchServe q s.watch).1 with
    | ok a => exact hserve.symm
    | error e => exact hserve.symm
  serve _ _ := rfl
  reject _ _ := rfl
  pass _ _ := rfl

/-! ## The convergence of the memberships -/

/-- A promise of the watcher, in the process of the dashboard. -/
def ofWatch {α : Type} (t : WatchPromise α) : CouncilPromise α := t.embed ofWatching

/-- The verdict of a council about a membership. -/
inductive MembershipStatus
  | active
  | pending
  | notFound
  | unknown
  deriving DecidableEq

def StatusAnswer.verdict (answer : StatusAnswer) : MembershipStatus :=
  if answer.status = 200 then .active
  else if answer.status = 202 then .pending
  else if answer.status = 404 then .notFound
  else .unknown

/-- Ask a council whether a PP is still a provider; it never throws. -/
def fetchMembershipStatus (councilUrl : String) (channelAuthId : ContractId)
    (publicKey : PublicKey) : CouncilPromise MembershipStatus :=
  Task.recover (I := councils)
    (do
      let answer : StatusAnswer ←
        councilCall (.getMembershipStatus (stripSlashes councilUrl) channelAuthId publicKey)
      pure answer.verdict)
    fun _ => pure .unknown

/-- Demote the active membership of a PP if its council no longer knows it. -/
def convergeMembership (pp : PaymentProvider) : CouncilPromise Unit := do
  let membership : Option CouncilMembership ←
    councilCall (.watch (.getActiveForPp pp.publicKey))
  match membership.filter (·.channelAuthId != "") with
  | none => pure ()
  | some membership => do
    let status ← fetchMembershipStatus membership.councilUrl membership.channelAuthId pp.publicKey
    if status = .notFound then
      ofWatch (deactivateMembership pp.publicKey membership.channelAuthId)
    else pure ()

def convergeMembershipStatusesOnBoot : CouncilPromise Unit :=
  Task.recover (I := councils)
    (do
      let pps : List PaymentProvider ← councilCall (.watch .listAllPps)
      Task.forEach (I := councils) convergeMembership pps)
    fun _ => pure ()

/-! ## The environment -/

structure Url where
  protocol : String
  hostname : String
  deriving DecidableEq

/-- The configuration of the process, and the parsers it calls. -/
structure CouncilEnv where
  mode : String
  providerBaseUrl : String
  bootSyncStartLedgerBlock : Option Ledger
  parseUrl : String → Option Url
  publicKeyOf : String → Option PublicKey

def startEventWatcher (env : CouncilEnv) : CouncilPromise Unit := do
  councilRun (.createWatcher env.bootSyncStartLedgerBlock)
  ofWatch initFromDb
  ofWatch convergeChannelStatusesOnBoot
  convergeMembershipStatusesOnBoot

/-! ## The dashboard -/

/-- An answer of the dashboard: its code, its message and the membership it
speaks of. -/
structure CouncilResponse where
  status : Nat
  message : String
  membershipStatus : Option CouncilMembershipStatus := none
  joinRequestId : Option String := none
  deriving DecidableEq

/-- Whether a host name is all digits, or a number in base 16. -/
def isNumericHost (host : String) : Bool :=
  (!host.toList.isEmpty && host.toList.all Char.isDigit) ||
    (beginsWith host "0x" && decide (2 < host.toList.length) &&
      (host.toList.drop 2).all fun c => c.isDigit || ('a' ≤ c && c ≤ 'f'))

/-- The private ranges of addresses, by what a name in them begins with. -/
def privateRanges : List String :=
  ["127.", "10.", "192.168."] ++ (List.range' 16 16).map fun n => "172." ++ toString n ++ "."

/-- Reject URLs that target internal addresses, except in development. -/
def isInternalUrl (env : CouncilEnv) (url : Url) : Bool :=
  if env.mode = "development" then false
  else if url.protocol ≠ "http:" ∧ url.protocol ≠ "https:" then true
  else
    let host := String.ofList
      ((url.hostname.toList.map Char.toLower).filter fun c => c != '[' && c != ']')
    !host.toList.contains '.' || isNumericHost host ||
      host == "::1" || beginsWith host "::ffff:" || beginsWith host "fe80:" ||
      host == "0.0.0.0" || finishesWith host ".local" || finishesWith host ".internal" ||
      host == "169.254.169.254" || privateRanges.any (beginsWith host)

/-- The URL of the council in a request, or what is wrong with it. -/
def checkCouncilUrl (env : CouncilEnv) (councilUrl : Option String) : Except String String :=
  match councilUrl.filter (· != "") with
  | none => .error "councilUrl is required"
  | some councilUrl =>
    match env.parseUrl councilUrl with
    | none => .error "councilUrl must be a valid URL"
    | some url =>
      if url.protocol ≠ "http:" ∧ url.protocol ≠ "https:" then
        .error "councilUrl must be a valid HTTP(S) URL"
      else if isInternalUrl env url then
        .error "councilUrl must not target internal addresses"
      else .ok councilUrl

/-- The body of a join request; a value that is not a string is `none`. -/
structure JoinBody where
  councilUrl : Option String
  councilId : Option String
  councilName : Option String
  signedEnvelope : Option SignedEnvelope
  deriving DecidableEq

def SignedEnvelope.isComplete (envelope : SignedEnvelope) : Bool :=
  envelope.payload.isSome && envelope.signature != "" && envelope.publicKey != ""

/-- The council and the envelope of a request, or what is wrong with them. -/
def checkEnvelope (ppPublicKey : PublicKey) (body : JoinBody) :
    Except String (ContractId × SignedEnvelope) :=
  match body.councilId.filter (· != "") with
  | none => .error "councilId is required"
  | some councilId =>
    match body.signedEnvelope.filter (·.isComplete) with
    | none =>
      .error "signedEnvelope is required (payload, signature, publicKey, timestamp)"
    | some signedEnvelope =>
      if signedEnvelope.publicKey ≠ ppPublicKey then
        .error "signedEnvelope publicKey does not match ppPublicKey"
      else .ok (councilId, signedEnvelope)

def CouncilMembershipStatus.lowerCase : CouncilMembershipStatus → String
  | .pending => "pending"
  | .active => "active"
  | .rejected => "rejected"

/-- Create the membership of a PP and watch its council. -/
def createMembership (ppPublicKey : PublicKey) (baseUrl : String) (councilName : Option String)
    (councilId : ContractId) (joinRequestId : Option String) : CouncilPromise CouncilResponse := do
  let id : String ← councilRun .randomUUID
  let now : Time ← councilRun (.watch .now)
  let _ ← councilCall (.createMembership {
    id := id
    councilUrl := baseUrl
    councilName := councilName
    channelAuthId := councilId
    status := .pending
    ppPublicKey := ppPublicKey
    createdAt := now
    updatedAt := now })
  ofWatch (watchCouncilContract councilId)
  councilRun (.watch (.addProvider ppPublicKey))
  pure ⟨200, "Join request submitted", some .pending, joinRequestId⟩

/-- Relay the envelope to the council; a membership is created if it accepts. -/
def relayJoinRequest (env : CouncilEnv) (ppPublicKey : PublicKey) (baseUrl : String)
    (councilName : Option String) (councilId : ContractId) (signedEnvelope : SignedEnvelope) :
    CouncilPromise CouncilResponse :=
  Task.settle (I := councils)
    (councilCall (.postJoinRequest baseUrl signedEnvelope env.providerBaseUrl))
    fun
      | .error .abort => pure { status := 504, message := "Council join request timed out" }
      | .error (.other error) => Task.fail (I := councils) (.other error)
      | .ok res =>
        if res.status = 409 then
          pure { status := 409, message := "A pending request already exists for this provider" }
        else if res.status < 200 ∨ 300 ≤ res.status then
          pure { status := 502, message := "Council rejected the request" }
        else
          match res.body with
          | none => Task.fail (I := councils) (.other ⟨"Unexpected response body"⟩)
          | some joinRequestId =>
            createMembership ppPublicKey baseUrl councilName councilId joinRequestId

def joinCouncil (env : CouncilEnv) (ppPublicKey : PublicKey) (body : JoinBody) :
    CouncilPromise CouncilResponse :=
  match checkCouncilUrl env body.councilUrl with
  | .error message => pure { status := 400, message := message }
  | .ok councilUrl => do
    let baseUrl := stripSlashes councilUrl
    let existing : Option CouncilMembership ←
      councilCall (.findByCouncilUrlAndPp baseUrl ppPublicKey)
    match existing with
    | some existing =>
      pure {
        status := 409
        message := "This PP is already " ++ existing.status.lowerCase ++ " for this council"
        membershipStatus := some existing.status }
    | none =>
      match checkEnvelope ppPublicKey body with
      | .error message => pure { status := 400, message := message }
      | .ok (councilId, signedEnvelope) =>
        relayJoinRequest env ppPublicKey baseUrl body.councilName councilId signedEnvelope

/-- `POST /providers/:ppPublicKey/council/join`; a body that cannot be read is
`none`. -/
def handleJoinCouncil (env : CouncilEnv) (ppPublicKey : PublicKey) (body : Option JoinBody) :
    CouncilPromise CouncilResponse :=
  Task.recover (I := councils)
    (match body with
      | none => Task.fail (I := councils) (.other ⟨"Unexpected request body"⟩)
      | some body => joinCouncil env ppPublicKey body)
    fun _ => pure { status := 500, message := "Failed to submit join request" }

/-- What a sync writes to a membership that its council calls active. -/
def syncedToActive (membership : CouncilMembership) :
    Option CouncilConfigData → CouncilMembershipPatch
  | none => ⟨.active, some membership.configJson, some membership.councilName⟩
  | some data =>
    ⟨.active, some (some data.json), some (data.councilName <|> membership.councilName)⟩

/-- The council turned the provider down, or no longer knows of a request that
is pending here. -/
def StatusAnswer.rejects (answer : StatusAnswer) (membership : CouncilMembership) : Bool :=
  answer.body == some "REJECTED" ||
    (answer.status == 404 && answer.body == some "NOT_FOUND" && membership.status == .pending)

def syncMembership (ppPublicKey : PublicKey) : CouncilPromise CouncilResponse := do
  let membership ← ofWatch (getCurrentForPp ppPublicKey)
  match membership with
  | none => pure { status := 200, message := "No membership" }
  | some membership => do
    let remote : Option StatusAnswer ← Task.recover (I := councils)
      (do
        let answer : StatusAnswer ← councilCall
          (.getMembershipStatus membership.councilUrl membership.channelAuthId ppPublicKey)
        pure (some answer))
      fun _ => pure none
    if remote.map (·.status) = some 200 ∧ membership.status ≠ .active then do
      let data ← ofWatch (fetchCouncilConfig membership.councilUrl membership.channelAuthId)
      let _ ← councilCall
        (.watch (.updateMembership membership.id (syncedToActive membership data)))
      pure { status := 200, message := "Membership synced", membershipStatus := some .active }
    else if remote.any (·.rejects membership) ∧ membership.status ≠ .rejected then do
      let _ ← councilCall (.watch (.updateMembership membership.id { status := .rejected }))
      pure { status := 200, message := "Membership synced", membershipStatus := some .rejected }
    else
      pure {
        status := 200
        message := "Membership unchanged"
        membershipStatus := some membership.status }

/-- `POST /providers/:ppPublicKey/council/membership`. -/
def handleSyncMembership (ppPublicKey : PublicKey) : CouncilPromise CouncilResponse :=
  Task.recover (I := councils) (syncMembership ppPublicKey)
    fun _ => pure { status := 500, message := "Failed to sync membership" }

/-! ## The registration of a PP -/

/-- The body of a registration; a value that is not a string is `none`. -/
structure RegisterBody where
  secretKey : Option String
  label : Option String
  deriving DecidableEq

def registerPp (env : CouncilEnv) (ownerPublicKey : PublicKey) (body : RegisterBody) :
    CouncilPromise CouncilResponse :=
  match body.secretKey.filter (· != "") with
  | none => pure { status := 400, message := "secretKey is required" }
  | some secretKey =>
    match env.publicKeyOf secretKey with
    | none => pure { status := 400, message := "Invalid Stellar secret key" }
    | some publicKey => do
      let existing : Option PpRegistration ← councilCall (.findPpByPublicKey publicKey)
      match existing with
      | some existing =>
        if (existing.ownerPublicKey.filter (· != "")).any (· != ownerPublicKey) then
          pure { status := 403, message := "This provider belongs to another user" }
        else do
          if existing.isActive then pure ()
          else do
            councilCall (.activatePp existing.id)
            councilRun (.watch (.addProvider publicKey))
          pure { status := 200, message := "Provider already registered" }
      | none => do
        let id : String ← councilRun .randomUUID
        let _ ← councilCall (.createPp {
          id := id
          publicKey := publicKey
          ownerPublicKey := ownerPublicKey
          isActive := true
          label := body.label.map fun label => String.ofList (jsTrim label.toList) })
        councilRun (.watch (.addProvider publicKey))
        pure { status := 200, message := "Provider registered" }

/-- `POST /dashboard/pp/register`; a body that cannot be read is `none`. -/
def handleRegisterPp (env : CouncilEnv) (ownerPublicKey : PublicKey) (body : Option RegisterBody) :
    CouncilPromise CouncilResponse :=
  Task.recover (I := councils)
    (match body with
      | none => Task.fail (I := councils) (.other ⟨"Unexpected request body"⟩)
      | some body => registerPp env ownerPublicKey body)
    fun _ => pure { status := 500, message := "Failed to register provider" }

end ProviderPlatform
