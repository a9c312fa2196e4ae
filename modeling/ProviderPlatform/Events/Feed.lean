import Mathlib.Data.List.Basic
import Mathlib.Logic.Function.Basic
import ProviderPlatform.Events.Wire
import ProviderPlatform.Runtime.Text
import ProviderPlatform.Transition.System

/-! # The event feed

Any number of machines share one Postgres. What one of them emits is notified
to all that listen, each hands it to its subscribers, and a subscriber is a
socket that an operator opened for one PP. A NOTIFY may be overtaken or fail, a
connection may drop, a process may end: what was under way there is gone. -/
namespace ProviderPlatform
open Transition

/-! ## Opening a socket -/

/-- What the handler reads of a request. -/
structure UpgradeRequest where
  isUpgradable : Bool
  secWebSocketProtocol : Option String
  ppPublicKey : Option PublicKey

/-- The claims of a token that its verification accepts. -/
structure JwtClaims where
  exp : Option Int
  sub : Option PublicKey
  deriving DecidableEq

structure OwnedProvider extends PaymentProvider where
  ownerPublicKey : PublicKey
  deriving DecidableEq

def bearerProtoPrefix : List Char := "bearer.".toList

/-- The token of an entry of the header, if it carries one. -/
def bearerEntry (entry : List Char) : Option String :=
  if bearerProtoPrefix.isPrefixOf entry then
    let token := entry.drop bearerProtoPrefix.length
    if token.isEmpty then none else some (String.ofList token)
  else none

def extractBearerToken (headerValue : Option String) : Option String :=
  match headerValue with
  | none => none
  | some value =>
    if value.isEmpty then none
    else ((value.toList.splitOn ',').map jsTrim).findSome? bearerEntry

section Handler
variable (verify : Time → String → Option JwtClaims)

/-- `verifyJwtToken`: the account a token is for, at a time in milliseconds. -/
def verifyJwtToken (now : Time) (token : String) : Option PublicKey :=
  match verify now token with
  | none => none
  | some payload =>
    if payload.exp.any fun exp => decide (exp < now / 1000) then none else payload.sub

/-- `handleEventsWs` up to the lookup of the PP: the status and text of a
refusal, or the PP asked for and the account that asks. -/
def handleEventsWs (now : Time) (request : UpgradeRequest) :
    Except (Nat × String) (PublicKey × PublicKey) :=
  if ¬ request.isUpgradable then .error (426, "WebSocket upgrade required")
  else
    match extractBearerToken request.secWebSocketProtocol with
    | none => .error (401, "Missing bearer.<jwt> Sec-WebSocket-Protocol entry")
    | some token =>
      match verifyJwtToken verify now token with
      | none => .error (401, "Invalid or expired token")
      | some sub =>
        match request.ppPublicKey with
        | none => .error (400, "Missing :ppPublicKey URL path param")
        | some ppPublicKey =>
          if ppPublicKey.isEmpty then .error (400, "Missing :ppPublicKey URL path param")
          else .ok (ppPublicKey, sub)

/-- The header of the request carries a token that verifies and is not over, for the
account. -/
def Authenticated (now : Time) (request : UpgradeRequest) (sub : PublicKey) : Prop :=
  ∃ token claims, extractBearerToken request.secWebSocketProtocol = some token ∧
    verify now token = some claims ∧ claims.sub = some sub ∧
      ∀ exp ∈ claims.exp, (now / 1000 : Int) ≤ exp

variable {verify}

theorem authenticated_of_handle {now : Time} {request : UpgradeRequest} {pp sub : PublicKey}
    (h : handleEventsWs verify now request = .ok (pp, sub)) :
    Authenticated verify now request sub ∧ request.ppPublicKey = some pp := by
  unfold handleEventsWs at h
  split at h
  · cases h
  · split at h
    · cases h
    · rename_i token htoken
      split at h
      · cases h
      · rename_i account haccount
        have hasked : account = sub ∧ request.ppPublicKey = some pp := by
          split at h
          · cases h
          · rename_i hpp
            split at h
            · cases h
            · cases h
              exact ⟨rfl, hpp⟩
        obtain ⟨rfl, hpp⟩ := hasked
        unfold verifyJwtToken at haccount
        split at haccount
        · cases haccount
        · rename_i claims hclaims
          split at haccount
          · cases haccount
          · rename_i hexp
            refine ⟨⟨token, claims, htoken, hclaims, haccount, fun exp hmem => ?_⟩, hpp⟩
            rw [Option.mem_def.mp hmem] at hexp
            simpa using hexp

end Handler

/-- `findByPublicKeyAndOwner`. -/
def findByPublicKeyAndOwner (rows : List OwnedProvider) (publicKey ownerPublicKey : PublicKey) :
    Option OwnedProvider :=
  rows.find? fun row => row.publicKey == publicKey && row.ownerPublicKey == ownerPublicKey

/-! ## The parties -/

/-- A request that waits for the lookup of its PP. -/
structure Handshake where
  machine : Nat
  ppPublicKey : PublicKey
  sub : PublicKey
  deriving DecidableEq

/-- An upgraded connection, the variables of its handler, and the frames sent. -/
structure EventsSocket where
  machine : Nat
  boundPpPublicKey : PublicKey
  sub : PublicKey
  readyState : ReadyState
  unsubscribe : Bool
  closed : Bool
  frames : List String
  deriving DecidableEq

/-- The bus of a machine, its LISTEN connection and what has arrived there. -/
structure EventsMachine where
  bus : PgNotifyEventBus
  listening : Bool
  queue : List String

/-- All machines with their sockets, the NOTIFYs under way and the rows of the
PPs; and what was emitted, and what became of it in Postgres. -/
structure EventsFeed where
  now : Time
  machines : Nat → EventsMachine
  sockets : List EventsSocket
  handshakes : List Handshake
  inFlight : List String
  paymentProviders : List OwnedProvider
  emitted : List BusEvent
  notified : List String
  lost : List String

/-! ## The steps -/

/-- A process that has just started. -/
def EventsMachine.fresh : EventsMachine := ⟨⟨[], false⟩, false, []⟩

/-- What a NOTIFY leaves with a machine. -/
def EventsMachine.notify (payload : String) (machine : EventsMachine) : EventsMachine :=
  if machine.listening then { machine with queue := machine.queue ++ [payload] } else machine

def PgNotifyEventBus.subscribe (bus : PgNotifyEventBus) (id : Nat) : PgNotifyEventBus :=
  if id ∈ bus.listeners then bus else { bus with listeners := bus.listeners ++ [id] }

def PgNotifyEventBus.remove (bus : PgNotifyEventBus) (id : Nat) : PgNotifyEventBus :=
  { bus with listeners := bus.listeners.erase id }

namespace EventsSocket

/-- What a socket does with an event that its machine publishes. -/
def hear (event : Encoding.Json) (socket : EventsSocket) : EventsSocket :=
  match listener socket.boundPpPublicKey socket.readyState event with
  | .sent frame => { socket with frames := socket.frames ++ [frame] }
  | _ => socket

/-- The end of the process that holds it. -/
def abandoned (machine : Nat) (socket : EventsSocket) : EventsSocket :=
  if socket.machine = machine then { socket with readyState := .closed } else socket

end EventsSocket

/-- The payload that an effect hands to the transport. -/
def BusEffect.payload : BusEffect → Option String
  | .notifier payload => some payload
  | .listener _ _ => none

namespace EventsFeed

def setMachine (feed : EventsFeed) (m : Nat) (machine : EventsMachine) : EventsFeed :=
  { feed with machines := Function.update feed.machines m machine }

def setBus (feed : EventsFeed) (m : Nat) (bus : PgNotifyEventBus) : EventsFeed :=
  feed.setMachine m { feed.machines m with bus := bus }

/-- The process of a machine starts anew. -/
def boot (feed : EventsFeed) (m : Nat) : EventsFeed :=
  { feed.setMachine m .fresh with
    sockets := feed.sockets.map (·.abandoned m)
    handshakes := feed.handshakes.filter (·.machine ≠ m) }

/-- LISTEN is subscribed, for the first time or again. After the first time the
bootstrap wires the NOTIFY transport. -/
def listen (feed : EventsFeed) (m : Nat) : EventsFeed :=
  feed.setMachine m ⟨{ (feed.machines m).bus with notifier := true }, true, []⟩

/-- The LISTEN connection drops, with what it has not handed over. -/
def disconnect (feed : EventsFeed) (m : Nat) : EventsFeed :=
  feed.setMachine m ⟨(feed.machines m).bus, false, []⟩

/-- A service of the machine emits. Nothing does before the transport is wired. -/
def emit (feed : EventsFeed) (m : Nat) (event : BusEvent) : Option EventsFeed :=
  if (feed.machines m).bus.notifier then
    some { feed with
      emitted := feed.emitted ++ [event]
      inFlight := feed.inFlight ++ ((feed.machines m).bus.emit event).filterMap BusEffect.payload }
  else none

/-- A NOTIFY under way reaches Postgres, which hands it to all that listen. -/
def commit (feed : EventsFeed) (i : Nat) : Option EventsFeed :=
  match feed.inFlight[i]? with
  | none => none
  | some payload =>
    if payload.utf8ByteSize < postgresPayloadLimit then
      some { feed with
        inFlight := feed.inFlight.eraseIdx i
        notified := feed.notified ++ [payload]
        machines := fun m => (feed.machines m).notify payload }
    else none

/-- A NOTIFY under way fails. -/
def lose (feed : EventsFeed) (i : Nat) : Option EventsFeed :=
  match feed.inFlight[i]? with
  | none => none
  | some payload =>
    some { feed with inFlight := feed.inFlight.eraseIdx i, lost := feed.lost ++ [payload] }

/-- `publishLocal`: every listener of the machine in turn. -/
def publishLocal (event : Encoding.Json) (listeners : List Nat) (sockets : List EventsSocket) :
    List EventsSocket :=
  listeners.foldl (fun sockets id => sockets.modify id (·.hear event)) sockets

/-- The listener task of a machine takes the oldest payload. -/
def receive (feed : EventsFeed) (m : Nat) : Option EventsFeed :=
  match (feed.machines m).queue with
  | [] => none
  | payload :: rest =>
    let feed := feed.setMachine m { feed.machines m with queue := rest }
    match onNotify payload with
    | none => some feed
    | some event =>
      some { feed with
        sockets := publishLocal event (feed.machines m).bus.listeners feed.sockets }

/-- A request for a socket arrives at a machine that serves. -/
def request (verify : Time → String → Option JwtClaims) (feed : EventsFeed) (m : Nat)
    (request : UpgradeRequest) : Option EventsFeed :=
  if (feed.machines m).bus.notifier then
    match handleEventsWs verify feed.now request with
    | .error _ => some feed
    | .ok (ppPublicKey, sub) =>
      some { feed with handshakes := feed.handshakes ++ [⟨m, ppPublicKey, sub⟩] }
  else none

/-- The lookup of a waiting request: 403, or the upgrade. -/
def lookup (feed : EventsFeed) (i : Nat) : Option EventsFeed :=
  match feed.handshakes[i]? with
  | none => none
  | some handshake =>
    let feed := { feed with handshakes := feed.handshakes.eraseIdx i }
    match findByPublicKeyAndOwner feed.paymentProviders handshake.ppPublicKey handshake.sub with
    | none => some feed
    | some pp =>
      some { feed with
        sockets := feed.sockets ++
          [⟨handshake.machine, pp.publicKey, handshake.sub, .connecting, false, false, []⟩] }

/-- The lookup fails, and the request with it. -/
def abort (feed : EventsFeed) (i : Nat) : EventsFeed :=
  { feed with handshakes := feed.handshakes.eraseIdx i }

/-- `onopen`. -/
def opened (feed : EventsFeed) (id : Nat) : Option EventsFeed :=
  match feed.sockets[id]? with
  | none => none
  | some socket =>
    if socket.readyState = .connecting then
      some { feed.setBus socket.machine ((feed.machines socket.machine).bus.subscribe id) with
        sockets := feed.sockets.set id { socket with readyState := .open, unsubscribe := true } }
    else none

/-- The closing handshake of a socket has begun. -/
def closing (feed : EventsFeed) (id : Nat) : Option EventsFeed :=
  match feed.sockets[id]? with
  | none => none
  | some socket =>
    if socket.readyState = .open ∨ socket.readyState = .connecting then
      some { feed with sockets := feed.sockets.set id { socket with readyState := .closing } }
    else none

/-- `cleanup`. -/
def cleanup (feed : EventsFeed) (id : Nat) (socket : EventsSocket) : EventsFeed :=
  if socket.closed then feed
  else
    let feed :=
      if socket.unsubscribe then
        feed.setBus socket.machine ((feed.machines socket.machine).bus.remove id)
      else feed
    { feed with sockets := feed.sockets.set id { socket with closed := true, unsubscribe := false } }

/-- `onclose` and `onerror` of a socket whose connection is over. -/
def ended (feed : EventsFeed) (id : Nat) : Option EventsFeed :=
  match feed.sockets[id]? with
  | none => none
  | some socket =>
    some (feed.cleanup id { socket with readyState := .closed })

end EventsFeed

inductive FeedChoice
  | boot (m : Nat)
  | listen (m : Nat)
  | disconnect (m : Nat)
  | emit (m : Nat) (event : BusEvent)
  | commit (i : Nat)
  | lose (i : Nat)
  | receive (m : Nat)
  | request (m : Nat) (request : UpgradeRequest)
  | lookup (i : Nat)
  | abort (i : Nat)
  | opened (id : Nat)
  | closing (id : Nat)
  | ended (id : Nat)
  | directory (rows : List OwnedProvider)
  | tick (now : Time)

/-- The feed, with the verification of tokens as the library has it. -/
def feedSystem (verify : Time → String → Option JwtClaims) : System FeedChoice EventsFeed where
  step
    | .boot m, feed => some (feed.boot m)
    | .listen m, feed => if (feed.machines m).listening then none else some (feed.listen m)
    | .disconnect m, feed => some (feed.disconnect m)
    | .emit m event, feed => feed.emit m event
    | .commit i, feed => feed.commit i
    | .lose i, feed => feed.lose i
    | .receive m, feed => feed.receive m
    | .request m request, feed => feed.request verify m request
    | .lookup i, feed => feed.lookup i
    | .abort i, feed => some (feed.abort i)
    | .opened id, feed => feed.opened id
    | .closing id, feed => feed.closing id
    | .ended id, feed => feed.ended id
    | .directory rows, feed => some { feed with paymentProviders := rows }
    | .tick now, feed => some { feed with now := now }

/-- No process runs yet. -/
def EventsFeed.initial (now : Time) (rows : List OwnedProvider) : EventsFeed :=
  ⟨now, fun _ => .fresh, [], [], [], rows, [], [], []⟩

end ProviderPlatform
