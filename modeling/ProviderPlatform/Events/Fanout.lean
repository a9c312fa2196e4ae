import Mathlib.Data.List.Perm.Lattice
import ProviderPlatform.Events.Feed

/-! # What a subscriber is sent

Three facts are kept by every step of the feed: each payload in Postgres is the
text of an event that was emitted, each machine waits for a part of what was
notified, and each socket has been sent a part of that, of its own PP, with what
its machine still waits for behind it. -/
namespace ProviderPlatform
open Transition Encoding

/-! ## Publishing to the sockets of a machine -/

/-- The payload is for the PP. -/
def isFor (pp : PublicKey) (payload : String) : Bool := payloadScope payload == some pp

@[simp] theorem isFor_text (pp : PublicKey) (event : BusEvent) :
    isFor pp event.text = (event.scope.ppPublicKey == pp) := by
  rw [isFor, payloadScope_text]
  rfl

namespace EventsSocket
variable {event : Encoding.Json} {socket : EventsSocket}

/-- The connection is the same, whatever has happened on it. -/
structure SameConnection (socket socket' : EventsSocket) : Prop where
  machine : socket'.machine = socket.machine
  boundPpPublicKey : socket'.boundPpPublicKey = socket.boundPpPublicKey
  sub : socket'.sub = socket.sub

theorem sameConnection_refl (socket : EventsSocket) : socket.SameConnection socket :=
  ⟨rfl, rfl, rfl⟩

theorem SameConnection.trans {socket' socket'' : EventsSocket} (h : socket.SameConnection socket')
    (h' : socket'.SameConnection socket'') : socket.SameConnection socket'' :=
  ⟨h'.machine.trans h.machine, h'.boundPpPublicKey.trans h.boundPpPublicKey, h'.sub.trans h.sub⟩

theorem sameConnection_hear (event : Encoding.Json) (socket : EventsSocket) :
    socket.SameConnection (socket.hear event) := by
  unfold hear
  split
  · exact ⟨rfl, rfl, rfl⟩
  · exact sameConnection_refl socket

theorem hear_readyState (event : Encoding.Json) (socket : EventsSocket) :
    (socket.hear event).readyState = socket.readyState := by
  unfold hear
  split
  · rfl
  · rfl

theorem sameConnection_abandoned (m : Nat) (socket : EventsSocket) :
    socket.SameConnection (socket.abandoned m) := by
  unfold abandoned
  split
  · exact ⟨rfl, rfl, rfl⟩
  · exact sameConnection_refl socket

theorem abandoned_frames (m : Nat) (socket : EventsSocket) :
    (socket.abandoned m).frames = socket.frames := by
  unfold abandoned
  split
  · rfl
  · rfl

/-- An open socket is sent the text of an event for its PP, and nothing else. -/
theorem hear_frames (event : BusEvent) (socket : EventsSocket) :
    (socket.hear event.toJson).frames = socket.frames ++
      if socket.readyState = .open then [event.text].filter (isFor socket.boundPpPublicKey)
      else [] := by
  rw [hear, listener_toJson, List.filter_singleton, isFor_text]
  by_cases hscope : event.scope.ppPublicKey = socket.boundPpPublicKey
  · by_cases hopen : socket.readyState = .open
    · simp only [hscope, hopen, if_true, beq_self_eq_true]
      rfl
    · simp only [hscope, hopen, if_true, if_false, List.append_nil]
  · have hne : (event.scope.ppPublicKey == socket.boundPpPublicKey) = false := by
      simp [hscope]
    simp only [hscope, hne, if_false, Bool.cond_false, ite_self, List.append_nil]

end EventsSocket

namespace EventsFeed

theorem publishLocal_getElem? (event : Encoding.Json) {listeners : List Nat} (hnodup : listeners.Nodup)
    (sockets : List EventsSocket) (id : Nat) :
    (publishLocal event listeners sockets)[id]? =
      if id ∈ listeners then sockets[id]?.map (·.hear event) else sockets[id]? := by
  induction listeners generalizing sockets with
  | nil => rfl
  | cons first listeners ih =>
    obtain ⟨hfirst, hrest⟩ := List.nodup_cons.mp hnodup
    rw [publishLocal, List.foldl_cons, ← publishLocal, ih hrest, List.getElem?_modify]
    by_cases hid : first = id
    · subst hid
      rw [if_neg hfirst, if_pos List.mem_cons_self]
      simp
    · simp only [hid, if_false, List.mem_cons, Ne.symm hid, false_or, id_map']

/-! ## Where the payloads are -/

/-- The events that the bus passed on, as texts. -/
def handedOver (feed : EventsFeed) : List String :=
  (feed.emitted.filter fun event => !PgNotifyEventBus.oversize event).map BusEvent.text

/-- Every event that was passed on is under way, was notified, or failed. -/
def Accounted (feed : EventsFeed) : Prop :=
  (feed.notified ++ feed.inFlight ++ feed.lost).Perm feed.handedOver

/-- What waits with a machine was notified, in this order. -/
def Queued (feed : EventsFeed) : Prop :=
  ∀ m, (feed.machines m).queue.Sublist feed.notified

/-- What a socket was sent, and after it what still waits for it, was notified
for its PP in this order. -/
def Ordered (feed : EventsFeed) : Prop :=
  ∀ (id : Nat) (socket : EventsSocket), feed.sockets[id]? = some socket →
    (socket.frames ++
      (feed.machines socket.machine).queue.filter (isFor socket.boundPpPublicKey)).Sublist
    (feed.notified.filter (isFor socket.boundPpPublicKey))

/-- The listeners of a machine are sockets of its own, each once. -/
structure Subscribed (feed : EventsFeed) : Prop where
  nodup : ∀ m, (feed.machines m).bus.listeners.Nodup
  own : ∀ m, ∀ id ∈ (feed.machines m).bus.listeners,
    ∃ socket : EventsSocket, feed.sockets[id]? = some socket ∧ socket.machine = m

/-! ## Steps on which nothing is sent -/

/-- The connections stay. -/
def Kept (sockets sockets' : List EventsSocket) : Prop :=
  ∀ (id : Nat) (socket : EventsSocket), sockets[id]? = some socket →
    ∃ socket', sockets'[id]? = some socket' ∧ socket.SameConnection socket'

/-- The connections are the same ones, and no frame is sent on any. -/
structure Carried (sockets sockets' : List EventsSocket) : Prop where
  kept : Kept sockets sockets'
  unsent : ∀ (id : Nat) (socket' : EventsSocket), sockets'[id]? = some socket' →
    ∃ socket : EventsSocket, sockets[id]? = some socket ∧
      socket.SameConnection socket' ∧ socket'.frames = socket.frames

section Carried
variable {sockets : List EventsSocket}

theorem carried_refl (sockets : List EventsSocket) : Carried sockets sockets :=
  ⟨fun _ socket h => ⟨socket, h, socket.sameConnection_refl⟩,
    fun _ socket h => ⟨socket, h, socket.sameConnection_refl, rfl⟩⟩

theorem carried_map {f : EventsSocket → EventsSocket}
    (hsame : ∀ socket, EventsSocket.SameConnection socket (f socket))
    (hframes : ∀ socket, (f socket).frames = socket.frames) :
    Carried sockets (sockets.map f) := by
  constructor
  · intro id socket h
    exact ⟨f socket, by rw [List.getElem?_map, h, Option.map_some], hsame socket⟩
  · intro id socket' h
    rw [List.getElem?_map, Option.map_eq_some_iff] at h
    obtain ⟨socket, hsocket, rfl⟩ := h
    exact ⟨socket, hsocket, hsame socket, hframes socket⟩

theorem carried_set {n : Nat} {old new : EventsSocket} (hold : sockets[n]? = some old)
    (hsame : old.SameConnection new) (hframes : new.frames = old.frames) :
    Carried sockets (sockets.set n new) := by
  obtain ⟨hlt, -⟩ := List.getElem?_eq_some_iff.mp hold
  constructor
  · intro id socket h
    by_cases hid : n = id
    · subst hid
      rw [hold] at h
      cases h
      exact ⟨new, List.getElem?_set_self hlt, hsame⟩
    · exact ⟨socket, by rw [List.getElem?_set_ne hid, h], socket.sameConnection_refl⟩
  · intro id socket' h
    by_cases hid : n = id
    · subst hid
      rw [List.getElem?_set_self hlt] at h
      cases h
      exact ⟨old, hold, hsame, hframes⟩
    · rw [List.getElem?_set_ne hid] at h
      exact ⟨socket', h, socket'.sameConnection_refl, rfl⟩

theorem kept_append (new : EventsSocket) : Kept sockets (sockets ++ [new]) := by
  intro id socket h
  obtain ⟨hlt, -⟩ := List.getElem?_eq_some_iff.mp h
  exact ⟨socket, by rw [List.getElem?_append_left hlt, h], socket.sameConnection_refl⟩

/-- A connection of the longer list is an old one or the last. -/
theorem getElem?_append_new {new socket : EventsSocket} {id : Nat}
    (h : (sockets ++ [new])[id]? = some socket) : sockets[id]? = some socket ∨ socket = new := by
  by_cases hlt : id < sockets.length
  · exact .inl (by rwa [List.getElem?_append_left hlt] at h)
  · rw [List.getElem?_append_right (by omega)] at h
    exact .inr (List.mem_singleton.mp (List.mem_of_getElem? h))

end Carried

/-- The step looks the PP of a waiting request up, finds it, and makes a socket. -/
structure Granted (feed feed' : EventsFeed) (socket : EventsSocket) : Prop where
  fresh : socket.readyState = .connecting ∧ socket.frames = []
  lookup : ∃ i handshake, feed.handshakes[i]? = some handshake ∧ feed.lookup i = some feed' ∧
    handshake.machine = socket.machine ∧ handshake.ppPublicKey = socket.boundPpPublicKey ∧
      handshake.sub = socket.sub
  row : ∃ row ∈ feed.paymentProviders,
    row.publicKey = socket.boundPpPublicKey ∧ row.ownerPublicKey = socket.sub

/-- The step takes a request in, which waits for the lookup of its PP. -/
def Asked (verify : Time → String → Option JwtClaims) (feed feed' : EventsFeed)
    (handshake : Handshake) : Prop :=
  ∃ request, feed.request verify handshake.machine request = some feed' ∧
    handleEventsWs verify feed.now request = .ok (handshake.ppPublicKey, handshake.sub)

/-- The connections of a step on which nothing is sent. -/
def Unsent (feed feed' : EventsFeed) : Prop :=
  Carried feed.sockets feed'.sockets ∨
    ∃ socket, Granted feed feed' socket ∧ feed'.sockets = feed.sockets ++ [socket]

/-- What a socket is sent from one state to another, and after it what waits for it in
the end, waited before or was notified meanwhile, in this order. -/
def Hears (feed feed' : EventsFeed) (id : Nat) (socket : EventsSocket) : Prop :=
  ∃ socket', feed'.sockets[id]? = some socket' ∧ socket.SameConnection socket' ∧
    ∃ fresh sent, feed'.notified = feed.notified ++ fresh ∧
      socket'.frames = socket.frames ++ sent ∧
      (sent ++ (feed'.machines socket.machine).queue.filter (isFor socket.boundPpPublicKey)).Sublist
        (((feed.machines socket.machine).queue ++ fresh).filter (isFor socket.boundPpPublicKey))

/-- A step that notifies nothing and sends nothing. -/
structure Quiet (verify : Time → String → Option JwtClaims) (feed feed' : EventsFeed) :
    Prop where
  notified : feed'.notified = feed.notified
  queue : ∀ m, (feed'.machines m).queue.Sublist (feed.machines m).queue
  sockets : Unsent feed feed'
  handshakes : ∀ handshake ∈ feed'.handshakes, handshake ∈ feed.handshakes ∨
    Asked verify feed feed' handshake
  accounted : Accounted feed → Accounted feed'
  subscribed : Subscribed feed → Subscribed feed'

section Quiet
variable {verify : Time → String → Option JwtClaims} {feed feed' : EventsFeed}

theorem Unsent.kept (h : Unsent feed feed') : Kept feed.sockets feed'.sockets := by
  rcases h with hcarried | ⟨socket, -, hsockets⟩
  · exact hcarried.kept
  · rw [hsockets]
    exact kept_append socket

theorem Quiet.queued (h : Quiet verify feed feed') (hqueued : Queued feed) : Queued feed' := by
  intro m
  rw [h.notified]
  exact (h.queue m).trans (hqueued m)

/-- What is there of a connection after a quiet step. -/
theorem Quiet.hears (h : Quiet verify feed feed') {id : Nat} {socket : EventsSocket}
    (hsocket : feed.sockets[id]? = some socket) : Hears feed feed' id socket := by
  have hsent : ∃ socket', feed'.sockets[id]? = some socket' ∧ socket.SameConnection socket' ∧
      socket'.frames = socket.frames := by
    rcases h.sockets with hcarried | ⟨new, -, hsockets⟩
    · obtain ⟨socket', hsocket', -⟩ := hcarried.kept id socket hsocket
      obtain ⟨old, hold, hsame, hframes⟩ := hcarried.unsent id socket' hsocket'
      obtain rfl : socket = old := Option.some.inj (hsocket.symm.trans hold)
      exact ⟨socket', hsocket', hsame, hframes⟩
    · obtain ⟨hlt, -⟩ := List.getElem?_eq_some_iff.mp hsocket
      refine ⟨socket, ?_, socket.sameConnection_refl, rfl⟩
      rw [hsockets, List.getElem?_append_left hlt, hsocket]
  obtain ⟨socket', hsocket', hsame, hframes⟩ := hsent
  refine ⟨socket', hsocket', hsame, [], [], ?_, ?_, ?_⟩
  · rw [h.notified, List.append_nil]
  · rw [hframes, List.append_nil]
  · simpa using (h.queue _).filter _

/-- Fewer listeners, and the connections kept. -/
theorem Subscribed.mono (h : Subscribed feed)
    (hlisteners : ∀ m, (feed'.machines m).bus.listeners.Sublist (feed.machines m).bus.listeners)
    (hkept : Kept feed.sockets feed'.sockets) : Subscribed feed' := by
  refine ⟨fun m => (h.nodup m).sublist (hlisteners m), fun m id hid => ?_⟩
  obtain ⟨socket, hsocket, hm⟩ := h.own m id ((hlisteners m).subset hid)
  obtain ⟨socket', hsocket', hsame⟩ := hkept id socket hsocket
  exact ⟨socket', hsocket', hsame.machine.trans hm⟩

/-- The NOTIFYs are where they were. -/
structure SameBooks (feed feed' : EventsFeed) : Prop where
  emitted : feed'.emitted = feed.emitted
  inFlight : feed'.inFlight = feed.inFlight
  notified : feed'.notified = feed.notified
  lost : feed'.lost = feed.lost

theorem SameBooks.accounted (h : SameBooks feed feed') (haccounted : Accounted feed) :
    Accounted feed' := by
  rw [Accounted, handedOver, h.notified, h.inFlight, h.lost, h.emitted]
  exact haccounted

/-- No request is new. -/
theorem old_handshakes (h : feed'.handshakes.Sublist feed.handshakes) :
    ∀ handshake ∈ feed'.handshakes, handshake ∈ feed.handshakes ∨
      Asked verify feed feed' handshake :=
  fun _ hmem => .inl (h.subset hmem)

/-- A step on the sockets and the requests alone. -/
theorem quiet_of_machines (hbooks : SameBooks feed feed')
    (hmachines : feed'.machines = feed.machines) (hsockets : Unsent feed feed')
    (hhandshakes : ∀ handshake ∈ feed'.handshakes, handshake ∈ feed.handshakes ∨
      Asked verify feed feed' handshake) : Quiet verify feed feed' where
  notified := hbooks.notified
  queue := fun m => by rw [hmachines]
  sockets := hsockets
  handshakes := hhandshakes
  accounted := hbooks.accounted
  subscribed := fun h => h.mono (fun m => by rw [hmachines]) hsockets.kept

/-- A step on one machine, which gets nothing to wait for. -/
theorem quiet_setMachine {m : Nat} {machine : EventsMachine} (hbooks : SameBooks feed feed')
    (hmachines : feed'.machines = Function.update feed.machines m machine)
    (hqueue : machine.queue.Sublist (feed.machines m).queue)
    (hsockets : Carried feed.sockets feed'.sockets)
    (hhandshakes : feed'.handshakes.Sublist feed.handshakes)
    (hsubscribed : Subscribed feed → Subscribed feed') : Quiet verify feed feed' where
  notified := hbooks.notified
  queue := fun k => by
    rw [hmachines]
    by_cases hk : k = m
    · subst hk
      rw [Function.update_self]
      exact hqueue
    · rw [Function.update_of_ne hk]
  sockets := .inl hsockets
  handshakes := old_handshakes hhandshakes
  accounted := hbooks.accounted
  subscribed := hsubscribed

theorem setMachine_listeners {m : Nat} {machine : EventsMachine}
    (h : machine.bus.listeners.Sublist (feed.machines m).bus.listeners) (k : Nat) :
    (Function.update feed.machines m machine k).bus.listeners.Sublist
      (feed.machines k).bus.listeners := by
  by_cases hk : k = m
  · subst hk
    rw [Function.update_self]
    exact h
  · rw [Function.update_of_ne hk]

theorem quiet_boot (feed : EventsFeed) (m : Nat) : Quiet verify feed (feed.boot m) := by
  have hsockets : Carried feed.sockets (feed.boot m).sockets :=
    carried_map (EventsSocket.sameConnection_abandoned m) (EventsSocket.abandoned_frames m)
  exact quiet_setMachine ⟨rfl, rfl, rfl, rfl⟩ rfl (List.nil_sublist _) hsockets List.filter_sublist
    fun h => h.mono (setMachine_listeners (List.nil_sublist _)) hsockets.kept

theorem quiet_listen (feed : EventsFeed) (m : Nat) : Quiet verify feed (feed.listen m) :=
  quiet_setMachine ⟨rfl, rfl, rfl, rfl⟩ rfl (List.nil_sublist _) (carried_refl _)
    (List.Sublist.refl _) fun h => h.mono (setMachine_listeners (List.Sublist.refl _)) (carried_refl _).kept

theorem quiet_disconnect (feed : EventsFeed) (m : Nat) :
    Quiet verify feed (feed.disconnect m) :=
  quiet_setMachine ⟨rfl, rfl, rfl, rfl⟩ rfl (List.nil_sublist _) (carried_refl _)
    (List.Sublist.refl _) fun h => h.mono (setMachine_listeners (List.Sublist.refl _)) (carried_refl _).kept

/-- A wired bus passes on the text of what is not too long. -/
theorem emit_payload {bus : PgNotifyEventBus} (hwired : bus.notifier = true) (event : BusEvent) :
    (bus.emit event).filterMap BusEffect.payload =
      ([event].filter fun event => !PgNotifyEventBus.oversize event).map BusEvent.text := by
  rw [PgNotifyEventBus.emit, if_pos hwired, List.filter_singleton]
  by_cases hover : PgNotifyEventBus.oversize event = true
  · simp only [hover, if_true, Bool.not_true, Bool.cond_false]
    rfl
  · rw [Bool.not_eq_true] at hover
    simp only [hover, Bool.false_eq_true, if_false, Bool.not_false, Bool.cond_true]
    rfl

theorem quiet_emit {m : Nat} {event : BusEvent} (h : feed.emit m event = some feed') :
    Quiet verify feed feed' := by
  unfold emit at h
  split at h
  · rename_i hwired
    cases h
    refine ⟨rfl, fun _ => List.Sublist.refl _, .inl (carried_refl _),
      old_handshakes (List.Sublist.refl _), fun hold => ?_,
      fun hsubscribed => hsubscribed.mono (fun _ => List.Sublist.refl _) (carried_refl _).kept⟩
    rw [Accounted, handedOver]
    simp only [emit_payload hwired, List.filter_append, List.map_append]
    generalize ([event].filter fun event => !PgNotifyEventBus.oversize event).map BusEvent.text =
      payloads
    have hlast := (@List.perm_append_comm _ payloads feed.lost).append_left
      (feed.notified ++ feed.inFlight)
    simp only [← List.append_assoc] at hlast ⊢
    exact hlast.trans (hold.append_right payloads)
  · cases h

/-- A NOTIFY under way, and the others. -/
theorem inFlight_perm {i : Nat} {payload : String} (h : feed.inFlight[i]? = some payload) :
    (payload :: feed.inFlight.eraseIdx i).Perm feed.inFlight := by
  obtain ⟨hlt, rfl⟩ := List.getElem?_eq_some_iff.mp h
  exact List.getElem_cons_eraseIdx_perm hlt

theorem quiet_lose {i : Nat} (h : feed.lose i = some feed') : Quiet verify feed feed' := by
  unfold lose at h
  split at h
  · cases h
  · rename_i payload hpayload
    cases h
    refine ⟨rfl, fun _ => List.Sublist.refl _, .inl (carried_refl _),
      old_handshakes (List.Sublist.refl _), fun hold => ?_,
      fun hsubscribed => hsubscribed.mono (fun _ => List.Sublist.refl _) (carried_refl _).kept⟩
    have hlast := List.perm_append_singleton payload (feed.inFlight.eraseIdx i ++ feed.lost)
    have hmove := (hlast.trans ((inFlight_perm hpayload).append_right feed.lost)).append_left
      feed.notified
    simp only [← List.append_assoc] at hmove
    rw [Accounted]
    simp only [← List.append_assoc]
    exact hmove.trans hold

theorem quiet_request {m : Nat} {request : UpgradeRequest}
    (h : feed.request verify m request = some feed') : Quiet verify feed feed' := by
  unfold EventsFeed.request at h
  split at h
  · rename_i hserves
    split at h
    · cases h
      exact quiet_of_machines ⟨rfl, rfl, rfl, rfl⟩ rfl (.inl (carried_refl _))
        (old_handshakes (List.Sublist.refl _))
    · rename_i ppPublicKey sub hhandle
      cases h
      refine quiet_of_machines ⟨rfl, rfl, rfl, rfl⟩ rfl (.inl (carried_refl _)) ?_
      intro handshake hmem
      rcases List.mem_append.mp hmem with hold | hnew
      · exact .inl hold
      · rw [List.mem_singleton.mp hnew]
        refine .inr ⟨request, ?_, hhandle⟩
        rw [EventsFeed.request, if_pos hserves, hhandle]
  · cases h

theorem quiet_lookup {i : Nat} (h : feed.lookup i = some feed') : Quiet verify feed feed' := by
  have hlookup := h
  unfold lookup at h
  split at h
  · cases h
  · rename_i handshake hhandshake
    simp only at h
    split at h
    · cases h
      exact quiet_of_machines ⟨rfl, rfl, rfl, rfl⟩ rfl (.inl (carried_refl _))
        (old_handshakes (List.eraseIdx_sublist _ _))
    · rename_i pp hpp
      have hfound := List.find?_some hpp
      rw [Bool.and_eq_true, beq_iff_eq, beq_iff_eq] at hfound
      cases h
      exact quiet_of_machines ⟨rfl, rfl, rfl, rfl⟩ rfl (.inr ⟨_, ⟨⟨rfl, rfl⟩,
        ⟨i, handshake, hhandshake, hlookup, rfl, hfound.1.symm, rfl⟩,
        ⟨pp, List.mem_of_find?_eq_some hpp, rfl, hfound.2⟩⟩, rfl⟩)
        (old_handshakes (List.eraseIdx_sublist _ _))

theorem subscribe_nodup {bus : PgNotifyEventBus} (h : bus.listeners.Nodup) (id : Nat) :
    (bus.subscribe id).listeners.Nodup := by
  unfold PgNotifyEventBus.subscribe
  split
  · exact h
  · rename_i hid
    exact List.nodup_append.mpr ⟨h, List.nodup_singleton id, fun a ha b hb => by
      rw [List.mem_singleton.mp hb]
      exact fun hab => hid (hab ▸ ha)⟩

theorem mem_subscribe {bus : PgNotifyEventBus} {id k : Nat} :
    k ∈ (bus.subscribe id).listeners ↔ k ∈ bus.listeners ∨ k = id := by
  unfold PgNotifyEventBus.subscribe
  split
  · rename_i hid
    exact ⟨.inl, fun h => h.elim (·) fun hk => hk ▸ hid⟩
  · simp

/-- A socket that opens is a new listener of its own machine. -/
theorem quiet_opened {id : Nat} (h : feed.opened id = some feed') : Quiet verify feed feed' := by
  unfold opened at h
  split at h
  · cases h
  · rename_i socket hsocket
    split at h
    · cases h
      have hsockets : Carried feed.sockets
          (feed.sockets.set id { socket with readyState := .open, unsubscribe := true }) :=
        carried_set hsocket ⟨rfl, rfl, rfl⟩ rfl
      refine quiet_setMachine ⟨rfl, rfl, rfl, rfl⟩ rfl (List.Sublist.refl _) hsockets
        (List.Sublist.refl _) fun hsubscribed => ⟨fun m => ?_, fun m k hk => ?_⟩
      · by_cases hm : m = socket.machine
        · subst hm
          simpa [setBus, setMachine] using subscribe_nodup (hsubscribed.nodup _) id
        · simpa [setBus, setMachine, hm] using hsubscribed.nodup m
      · have hold : k ∈ (feed.machines m).bus.listeners ∨ k = id ∧ m = socket.machine := by
          by_cases hm : m = socket.machine
          · subst hm
            have hmem : k ∈ ((feed.machines socket.machine).bus.subscribe id).listeners := by
              simpa [setBus, setMachine] using hk
            exact (mem_subscribe.mp hmem).imp_right fun hid => ⟨hid, rfl⟩
          · exact .inl (by simpa [setBus, setMachine, hm] using hk)
        rcases hold with hmem | ⟨rfl, rfl⟩
        · obtain ⟨own, hown, hm⟩ := hsubscribed.own m k hmem
          obtain ⟨own', hown', hsame⟩ := hsockets.kept k own hown
          exact ⟨own', hown', hsame.machine.trans hm⟩
        · obtain ⟨own', hown', hsame⟩ := hsockets.kept k socket hsocket
          exact ⟨own', hown', hsame.machine⟩
    · cases h

theorem quiet_closing {id : Nat} (h : feed.closing id = some feed') : Quiet verify feed feed' := by
  unfold closing at h
  split at h
  · cases h
  · rename_i socket hsocket
    split at h
    · cases h
      exact quiet_of_machines ⟨rfl, rfl, rfl, rfl⟩ rfl
        (.inl (carried_set hsocket ⟨rfl, rfl, rfl⟩ rfl)) (old_handshakes (List.Sublist.refl _))
    · cases h

theorem quiet_ended {id : Nat} (h : feed.ended id = some feed') : Quiet verify feed feed' := by
  unfold ended at h
  split at h
  · cases h
  · rename_i socket hsocket
    cases h
    unfold cleanup
    split
    · exact quiet_of_machines ⟨rfl, rfl, rfl, rfl⟩ rfl (.inl (carried_refl _))
        (old_handshakes (List.Sublist.refl _))
    · have hsockets : Carried feed.sockets (feed.sockets.set id
          { socket with readyState := .closed, closed := true, unsubscribe := false }) :=
        carried_set hsocket ⟨rfl, rfl, rfl⟩ rfl
      split
      · exact quiet_setMachine ⟨rfl, rfl, rfl, rfl⟩ rfl (List.Sublist.refl _) hsockets
          (List.Sublist.refl _)
          fun h => h.mono (setMachine_listeners List.erase_sublist) hsockets.kept
      · exact quiet_of_machines ⟨rfl, rfl, rfl, rfl⟩ rfl (.inl hsockets)
          (old_handshakes (List.Sublist.refl _))

end Quiet

/-! ## Notifying and receiving -/

section Deliver
variable {feed feed' : EventsFeed}

theorem notify_queue (payload : String) (machine : EventsMachine) :
    (machine.notify payload).queue =
      machine.queue ++ if machine.listening then [payload] else [] := by
  unfold EventsMachine.notify
  split
  · rfl
  · rw [List.append_nil]

theorem notify_queue_sublist (payload : String) (machine : EventsMachine) :
    ((machine.notify payload).queue).Sublist (machine.queue ++ [payload]) := by
  rw [notify_queue]
  split
  · exact List.Sublist.refl _
  · exact (List.Sublist.refl _).append (List.nil_sublist _)

/-- What a NOTIFY that succeeds does. -/
theorem commit_eq {i : Nat} (h : feed.commit i = some feed') :
    ∃ payload, feed.inFlight[i]? = some payload ∧ feed' = { feed with
      inFlight := feed.inFlight.eraseIdx i
      notified := feed.notified ++ [payload]
      machines := fun m => (feed.machines m).notify payload } := by
  unfold commit at h
  split at h
  · cases h
  · rename_i payload hpayload
    split at h
    · exact ⟨payload, hpayload, (Option.some.inj h).symm⟩
    · cases h

theorem commit_queued {i : Nat} (h : feed.commit i = some feed') (hqueued : Queued feed) :
    Queued feed' := by
  obtain ⟨payload, -, rfl⟩ := commit_eq h
  intro m
  exact (notify_queue_sublist payload _).trans ((hqueued m).append (List.Sublist.refl _))

theorem commit_accounted {i : Nat} (h : feed.commit i = some feed') (hold : Accounted feed) :
    Accounted feed' := by
  obtain ⟨payload, hpayload, rfl⟩ := commit_eq h
  have hmove := ((inFlight_perm hpayload).append_left feed.notified).append_right feed.lost
  have hpart : feed.notified ++ [payload] ++ feed.inFlight.eraseIdx i ++ feed.lost =
      feed.notified ++ (payload :: feed.inFlight.eraseIdx i) ++ feed.lost := by simp
  exact (hpart ▸ hmove).trans hold

theorem commit_subscribed {i : Nat} (h : feed.commit i = some feed')
    (hsubscribed : Subscribed feed) : Subscribed feed' := by
  obtain ⟨payload, -, rfl⟩ := commit_eq h
  refine hsubscribed.mono (fun m => ?_) (carried_refl _).kept
  simp only [EventsMachine.notify]
  split
  · exact List.Sublist.refl _
  · exact List.Sublist.refl _

theorem commit_hears {i : Nat} (h : feed.commit i = some feed') {id : Nat} {socket : EventsSocket}
    (hsocket : feed.sockets[id]? = some socket) : Hears feed feed' id socket := by
  obtain ⟨payload, -, rfl⟩ := commit_eq h
  refine ⟨socket, hsocket, socket.sameConnection_refl, [payload], [], rfl, ?_, ?_⟩
  · rw [List.append_nil]
  · exact (notify_queue_sublist payload (feed.machines socket.machine)).filter _

/-- The texts in Postgres are texts of events. -/
theorem Accounted.text (h : Accounted feed) {payload : String} (hp : payload ∈ feed.notified) :
    ∃ event ∈ feed.emitted, payload = event.text := by
  have hmem : payload ∈ feed.handedOver :=
    h.subset (List.mem_append_left _ (List.mem_append_left _ hp))
  obtain ⟨event, hevent, rfl⟩ := List.mem_map.mp hmem
  exact ⟨event, (List.mem_filter.mp hevent).1, rfl⟩

theorem setMachine_queue {m : Nat} {machine : EventsMachine}
    (h : machine.queue.Sublist (feed.machines m).queue) (k : Nat) :
    ((feed.setMachine m machine).machines k).queue.Sublist (feed.machines k).queue := by
  by_cases hk : k = m
  · subst hk
    simpa [setMachine] using h
  · simp [setMachine, hk]

/-- What the listener task does with the oldest payload. -/
theorem receive_eq (haccounted : Accounted feed) (hqueued : Queued feed) {m : Nat}
    (h : feed.receive m = some feed') : ∃ event rest,
      (feed.machines m).queue = BusEvent.text event :: rest ∧ feed' =
        { feed.setMachine m { feed.machines m with queue := rest } with
          sockets := publishLocal event.toJson (feed.machines m).bus.listeners feed.sockets } := by
  unfold receive at h
  split at h
  · cases h
  · rename_i payload rest hqueue
    have hmem : payload ∈ feed.notified := by
      apply (hqueued m).subset
      rw [hqueue]
      exact List.mem_cons_self
    obtain ⟨event, -, rfl⟩ := haccounted.text hmem
    refine ⟨event, rest, hqueue, ?_⟩
    simp only [onNotify_text] at h
    rw [← Option.some.inj h]
    simp [setMachine]

/-- The sockets after a payload: those that listen have heard it. -/
theorem receive_socket (hsubscribed : Subscribed feed) (event : BusEvent) (m id : Nat) :
    (publishLocal event.toJson (feed.machines m).bus.listeners feed.sockets)[id]? =
      if id ∈ (feed.machines m).bus.listeners then
        feed.sockets[id]?.map (·.hear event.toJson)
      else feed.sockets[id]? :=
  publishLocal_getElem? _ (hsubscribed.nodup m) _ _

theorem receive_queued (haccounted : Accounted feed) {m : Nat} (h : feed.receive m = some feed')
    (hqueued : Queued feed) : Queued feed' := by
  obtain ⟨event, rest, hqueue, rfl⟩ := receive_eq haccounted hqueued h
  intro k
  have htail : rest.Sublist (feed.machines m).queue := by
    rw [hqueue]
    exact List.sublist_cons_self _ _
  exact (setMachine_queue htail k).trans (hqueued k)

theorem receive_hears (haccounted : Accounted feed) (hqueued : Queued feed)
    (hsubscribed : Subscribed feed) {m : Nat} (h : feed.receive m = some feed') {id : Nat}
    {socket : EventsSocket} (hsocket : feed.sockets[id]? = some socket) :
    Hears feed feed' id socket := by
  obtain ⟨event, rest, hqueue, rfl⟩ := receive_eq haccounted hqueued h
  have htail : rest.Sublist (feed.machines m).queue := by
    rw [hqueue]
    exact List.sublist_cons_self _ _
  have hheard := receive_socket hsubscribed event m id
  by_cases hid : id ∈ (feed.machines m).bus.listeners
  · obtain ⟨own, hown, rfl⟩ := hsubscribed.own m id hid
    obtain rfl : socket = own := Option.some.inj (hsocket.symm.trans hown)
    rw [if_pos hid, hsocket, Option.map_some] at hheard
    have hqueue' : ((feed.setMachine socket.machine { feed.machines socket.machine with
        queue := rest }).machines socket.machine).queue = rest := by simp [setMachine]
    have hsent : ((if socket.readyState = .open then [event.text].filter (isFor socket.boundPpPublicKey)
        else []) ++ rest.filter (isFor socket.boundPpPublicKey)).Sublist
          ((event.text :: rest).filter (isFor socket.boundPpPublicKey)) := by
      rw [show event.text :: rest = [event.text] ++ rest from rfl, List.filter_append]
      refine List.Sublist.append ?_ (List.Sublist.refl _)
      split
      · exact List.Sublist.refl _
      · exact List.nil_sublist _
    refine ⟨socket.hear event.toJson, hheard, socket.sameConnection_hear _, [], _,
      (List.append_nil _).symm, EventsSocket.hear_frames event socket, ?_⟩
    simp only [hqueue', hqueue, List.append_nil]
    exact hsent
  · rw [if_neg hid, hsocket] at hheard
    refine ⟨socket, hheard, socket.sameConnection_refl, [], [], (List.append_nil _).symm,
      (List.append_nil _).symm, ?_⟩
    rw [List.nil_append, List.append_nil]
    exact (setMachine_queue htail _).filter _

theorem receive_kept (haccounted : Accounted feed) (hqueued : Queued feed)
    (hsubscribed : Subscribed feed) {m : Nat} (h : feed.receive m = some feed') :
    Kept feed.sockets feed'.sockets := by
  intro id socket hsocket
  obtain ⟨socket', hsocket', hsame, -⟩ := receive_hears haccounted hqueued hsubscribed h hsocket
  exact ⟨socket', hsocket', hsame⟩

end Deliver


/-! ## The run -/

/-- What is known of the feed throughout. -/
structure Sound (feed : EventsFeed) : Prop where
  accounted : Accounted feed
  queued : Queued feed
  subscribed : Subscribed feed
  ordered : Ordered feed

section Run
variable {verify : Time → String → Option JwtClaims} {feed feed' : EventsFeed}

/-- A step sends nothing, or is one of the two that deliver. -/
theorem step_cases {ch : FeedChoice} (h : (feedSystem verify).step ch feed = some feed') :
    Quiet verify feed feed' ∨ (∃ i, ch = .commit i ∧ feed.commit i = some feed') ∨
      ∃ m, ch = .receive m ∧ feed.receive m = some feed' := by
  cases ch with
  | boot m =>
    cases h
    exact .inl (quiet_boot feed m)
  | listen m =>
    simp only [feedSystem] at h
    split at h
    · cases h
    · cases h
      exact .inl (quiet_listen feed m)
  | disconnect m =>
    cases h
    exact .inl (quiet_disconnect feed m)
  | emit m event => exact .inl (quiet_emit h)
  | commit i => exact .inr (.inl ⟨i, rfl, h⟩)
  | lose i => exact .inl (quiet_lose h)
  | receive m => exact .inr (.inr ⟨m, rfl, h⟩)
  | request m request => exact .inl (quiet_request h)
  | lookup i => exact .inl (quiet_lookup h)
  | abort i =>
    cases h
    exact .inl (quiet_of_machines ⟨rfl, rfl, rfl, rfl⟩ rfl (.inl (carried_refl _))
      (old_handshakes (List.eraseIdx_sublist _ _)))
  | opened id => exact .inl (quiet_opened h)
  | closing id => exact .inl (quiet_closing h)
  | ended id => exact .inl (quiet_ended h)
  | directory rows =>
    cases h
    exact .inl (quiet_of_machines ⟨rfl, rfl, rfl, rfl⟩ rfl (.inl (carried_refl _))
      (old_handshakes (List.Sublist.refl _)))
  | tick now =>
    cases h
    exact .inl (quiet_of_machines ⟨rfl, rfl, rfl, rfl⟩ rfl (.inl (carried_refl _))
      (old_handshakes (List.Sublist.refl _)))

/-- What a step sends on a connection. -/
theorem Sound.hears (hsound : Sound feed) {ch : FeedChoice}
    (h : (feedSystem verify).step ch feed = some feed') {id : Nat} {socket : EventsSocket}
    (hsocket : feed.sockets[id]? = some socket) : Hears feed feed' id socket := by
  rcases step_cases h with hquiet | ⟨i, rfl, hcommit⟩ | ⟨m, rfl, hreceive⟩
  · exact hquiet.hears hsocket
  · exact commit_hears hcommit hsocket
  · exact receive_hears hsound.accounted hsound.queued hsound.subscribed hreceive hsocket

/-- A connection that a step makes is one that it grants. -/
theorem Sound.granted (hsound : Sound feed) {ch : FeedChoice}
    (h : (feedSystem verify).step ch feed = some feed') {id : Nat} {socket : EventsSocket}
    (hnone : feed.sockets[id]? = none) (hsome : feed'.sockets[id]? = some socket) :
    Granted feed feed' socket := by
  have hkept (hcarried : ∃ old : EventsSocket, feed.sockets[id]? = some old) :
      Granted feed feed' socket := by
    obtain ⟨old, hold⟩ := hcarried
    rw [hnone] at hold
    cases hold
  rcases step_cases h with hquiet | ⟨i, rfl, hcommit⟩ | ⟨m, rfl, hreceive⟩
  · rcases hquiet.sockets with hcarried | ⟨new, hnew, hsockets⟩
    · obtain ⟨old, hold, -⟩ := hcarried.unsent id socket hsome
      exact hkept ⟨old, hold⟩
    · rw [hsockets] at hsome
      rcases getElem?_append_new hsome with hold | rfl
      · exact hkept ⟨socket, hold⟩
      · exact hnew
  · obtain ⟨payload, -, rfl⟩ := commit_eq hcommit
    exact hkept ⟨socket, hsome⟩
  · obtain ⟨event, rest, -, rfl⟩ := receive_eq hsound.accounted hsound.queued hreceive
    have hheard := receive_socket hsound.subscribed event m id
    rw [hnone, Option.map_none, ite_self] at hheard
    rw [hheard] at hsome
    cases hsome

theorem Sound.queued_next (hsound : Sound feed) {ch : FeedChoice}
    (h : (feedSystem verify).step ch feed = some feed') : Queued feed' := by
  rcases step_cases h with hquiet | ⟨i, rfl, hcommit⟩ | ⟨m, rfl, hreceive⟩
  · exact hquiet.queued hsound.queued
  · exact commit_queued hcommit hsound.queued
  · exact receive_queued hsound.accounted hreceive hsound.queued

theorem Sound.ordered_next (hsound : Sound feed) {ch : FeedChoice}
    (h : (feedSystem verify).step ch feed = some feed') : Ordered feed' := by
  intro id socket' hsocket'
  cases hold : feed.sockets[id]? with
  | none =>
    rw [(hsound.granted h hold hsocket').fresh.2, List.nil_append]
    exact (hsound.queued_next h _).filter _
  | some socket =>
    obtain ⟨last, hlast, hsame, fresh, sent, hnotified, hframes, hsent⟩ := hsound.hears h hold
    obtain rfl : socket' = last := Option.some.inj (hsocket'.symm.trans hlast)
    rw [List.filter_append] at hsent
    rw [hsame.machine, hsame.boundPpPublicKey, hframes, hnotified, List.append_assoc,
      List.filter_append]
    refine ((List.Sublist.refl socket.frames).append hsent).trans ?_
    rw [← List.append_assoc]
    exact (hsound.ordered id socket hold).append (List.Sublist.refl _)

theorem receive_books (hsound : Sound feed) {m : Nat} (h : feed.receive m = some feed') :
    Accounted feed' ∧ Subscribed feed' := by
  have hkept := receive_kept hsound.accounted hsound.queued hsound.subscribed h
  obtain ⟨event, rest, -, rfl⟩ := receive_eq hsound.accounted hsound.queued h
  exact ⟨SameBooks.accounted ⟨rfl, rfl, rfl, rfl⟩ hsound.accounted,
    hsound.subscribed.mono (setMachine_listeners (List.Sublist.refl _)) hkept⟩

theorem Sound.next (hsound : Sound feed) {ch : FeedChoice}
    (h : (feedSystem verify).step ch feed = some feed') : Sound feed' := by
  have hbooks : Accounted feed' ∧ Subscribed feed' := by
    rcases step_cases h with hquiet | ⟨i, rfl, hcommit⟩ | ⟨m, rfl, hreceive⟩
    · exact ⟨hquiet.accounted hsound.accounted, hquiet.subscribed hsound.subscribed⟩
    · exact ⟨commit_accounted hcommit hsound.accounted, commit_subscribed hcommit hsound.subscribed⟩
    · exact receive_books hsound hreceive
  exact ⟨hbooks.1, hsound.queued_next h, hbooks.2, hsound.ordered_next h⟩

theorem sound_initial (now : Time) (rows : List OwnedProvider) : Sound (.initial now rows) where
  accounted := List.Perm.refl []
  queued := fun _ => List.Sublist.refl _
  subscribed := ⟨fun _ => List.nodup_nil, fun _ _ hid => by cases hid⟩
  ordered := fun _ _ hsocket => by cases hsocket

theorem Sound.run (hsound : Sound feed) {G : EventsFeed → FeedChoice → Prop}
    (h : (feedSystem verify).Run G feed feed') : Sound feed' :=
  h.invariant (fun _ _ _ hs _ hstep => hs.next hstep) hsound

theorem Hears.trans {feed'' : EventsFeed} {id : Nat} {socket : EventsSocket}
    (h : Hears feed feed' id socket)
    (h' : ∀ socket', feed'.sockets[id]? = some socket' → Hears feed' feed'' id socket') :
    Hears feed feed'' id socket := by
  obtain ⟨socket', hsocket', hsame, fresh, sent, hnotified, hframes, hsent⟩ := h
  obtain ⟨socket'', hsocket'', hsame', fresh', sent', hnotified', hframes', hsent'⟩ := h' _ hsocket'
  refine ⟨socket'', hsocket'', hsame.trans hsame', fresh ++ fresh', sent ++ sent', ?_, ?_, ?_⟩
  · rw [hnotified', hnotified, List.append_assoc]
  · rw [hframes', hframes, List.append_assoc]
  · rw [hsame.machine, hsame.boundPpPublicKey, List.filter_append] at hsent'
    rw [List.append_assoc, ← List.append_assoc _ fresh, List.filter_append]
    refine ((List.Sublist.refl sent).append hsent').trans ?_
    rw [← List.append_assoc]
    exact hsent.append (List.Sublist.refl _)

/-- What a run sends on a connection. -/
theorem Sound.hears_run (hsound : Sound feed) {G : EventsFeed → FeedChoice → Prop}
    (h : (feedSystem verify).Run G feed feed') {id : Nat} {socket : EventsSocket}
    (hsocket : feed.sockets[id]? = some socket) : Hears feed feed' id socket := by
  induction h with
  | refl =>
    refine ⟨socket, hsocket, socket.sameConnection_refl, [], [], ?_, ?_, ?_⟩
    · rw [List.append_nil]
    · rw [List.append_nil]
    · rw [List.nil_append, List.append_nil]
  | step ch hrun _ hstep ih =>
    exact ih.trans fun socket' hsocket' => (hsound.run hrun).hears hstep hsocket'

end Run

end EventsFeed
end ProviderPlatform
