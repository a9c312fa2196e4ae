import ProviderPlatform.Events.Fanout

/-! # What an operator's socket shows

A socket shows events of its PP only, in the order in which they were notified
and each once; the PP is one that the account of a valid token owned when the
socket was opened. As long as the connection lasts it shows all of them. -/
namespace ProviderPlatform
open Transition

namespace EventsFeed

/-! ## Nothing else, and in order -/

/-- The step of a run that made a socket. -/
structure Made (verify : Time → String → Option JwtClaims) (start asked made feed : EventsFeed)
    (id : Nat) (first : EventsSocket) : Prop where
  before : (feedSystem verify).Run System.Free start asked
  absent : asked.sockets[id]? = none
  granted : Granted asked made first
  present : made.sockets[id]? = some first
  since : (feedSystem verify).Run System.Free made feed

/-- What a socket shows in a state of the feed. -/
structure ShowsOwn (verify : Time → String → Option JwtClaims) (start feed : EventsFeed) (id : Nat)
    (socket : EventsSocket) : Prop where
  events : ∃ events : List BusEvent, socket.frames = events.map BusEvent.text ∧
    ∀ event ∈ events, event ∈ feed.emitted ∧ event.scope.ppPublicKey = socket.boundPpPublicKey
  order : socket.frames.Sublist feed.notified
  once : feed.notified.Subperm feed.handedOver
  /-- It is a part of what waited at its machine when it was made and of what was
  notified since. -/
  since : ∃ asked made first fresh, Made verify start asked made feed id first ∧
    feed.notified = made.notified ++ fresh ∧
    socket.frames.Sublist (((made.machines socket.machine).queue ++ fresh).filter
      (isFor socket.boundPpPublicKey))

section Own
variable {verify : Time → String → Option JwtClaims} {feed : EventsFeed}

/-- Frames that are texts of events of some kind. -/
theorem exists_events {P : BusEvent → Prop} : ∀ {frames : List String},
    (∀ frame ∈ frames, ∃ event, P event ∧ frame = BusEvent.text event) →
      ∃ events : List BusEvent, frames = events.map BusEvent.text ∧ ∀ event ∈ events, P event
  | [], _ => ⟨[], rfl, fun _ h => by cases h⟩
  | frame :: frames, h => by
    obtain ⟨⟨event, hevent, rfl⟩, hrest⟩ := List.forall_mem_cons.mp h
    obtain ⟨events, rfl, hevents⟩ := exists_events hrest
    exact ⟨event :: events, rfl, List.forall_mem_cons.mpr ⟨hevent, hevents⟩⟩

/-- A socket was made in the run. -/
theorem exists_made (now : Time) (rows : List OwnedProvider)
    (hrun : (feedSystem verify).Run System.Free (.initial now rows) feed) {id : Nat}
    {socket : EventsSocket} (hsocket : feed.sockets[id]? = some socket) :
    ∃ asked made first, Made verify (.initial now rows) asked made feed id first ∧
      Hears made feed id first := by
  have hstart := sound_initial now rows
  obtain ⟨asked, ch, made, hasked, hnone, -, hstep, hsome, hrest⟩ :=
    hrun.turn (P := fun feed => feed.sockets[id]? ≠ none) (by simp [EventsFeed.initial])
      (by simp [hsocket])
  obtain ⟨first, hfirst⟩ := Option.ne_none_iff_exists'.mp hsome
  have hsound := hstart.run hasked
  have habsent := not_not.mp hnone
  exact ⟨asked, made, first,
    ⟨hasked, habsent, hsound.granted hstep habsent hfirst, hfirst, hrest⟩,
    (hsound.next hstep).hears_run hrest hfirst⟩

/-- **A socket shows its own PP only.** And only what its machine still had for it
when it was made, or got since. -/
theorem socket_showsOwn (now : Time) (rows : List OwnedProvider)
    (hrun : (feedSystem verify).Run System.Free (.initial now rows) feed) {id : Nat}
    {socket : EventsSocket} (hsocket : feed.sockets[id]? = some socket) :
    ShowsOwn verify (.initial now rows) feed id socket := by
  have hsound := (sound_initial now rows).run hrun
  have hframes := (List.sublist_append_left _ _).trans (hsound.ordered id socket hsocket)
  refine ⟨exists_events fun frame hframe => ?_, hframes.trans List.filter_sublist, ?_, ?_⟩
  · obtain ⟨hmem, hpp⟩ := List.mem_filter.mp (hframes.subset hframe)
    obtain ⟨event, hemitted, rfl⟩ := hsound.accounted.text hmem
    rw [isFor_text] at hpp
    exact ⟨event, ⟨hemitted, eq_of_beq hpp⟩, rfl⟩
  · have hpart : feed.notified.Sublist (feed.notified ++ feed.inFlight ++ feed.lost) := by
      rw [List.append_assoc]
      exact List.sublist_append_left _ _
    exact hpart.subperm.trans hsound.accounted.subperm
  · obtain ⟨asked, made, first, hmade, hhears⟩ := exists_made now rows hrun hsocket
    obtain ⟨last, hlast, hsame, fresh, sent, hnotified, hsentFrames, hsent⟩ := hhears
    obtain rfl : socket = last := Option.some.inj (hsocket.symm.trans hlast)
    refine ⟨asked, made, first, fresh, hmade, hnotified, ?_⟩
    rw [hsentFrames, hmade.granted.fresh.2, List.nil_append, hsame.machine, hsame.boundPpPublicKey]
    exact (List.sublist_append_left _ _).trans hsent

end Own

/-! ### One machine and one operator -/

def oneToken (_ : Time) (token : String) : Option JwtClaims :=
  if token = "token" then some ⟨some 100, some "GOWNER"⟩ else none

def oneProvider : List OwnedProvider := [⟨⟨"GPP", none⟩, "GOWNER"⟩]

/-- The operator opens a socket for the PP. -/
def oneConnects : List FeedChoice :=
  [.listen 0, .request 0 ⟨true, some "moonlight.events.v1, bearer.token", some "GPP"⟩, .lookup 0,
    .opened 0]

/-- An event of the PP, and one of another. -/
def twoEvents : List FeedChoice :=
  [.emit 0 ⟨1, ⟨"GPP", none⟩, .channelProviderAdded "C"⟩,
    .emit 0 ⟨2, ⟨"GOTHER", none⟩, .channelProviderAdded "C"⟩, .commit 1, .commit 0, .receive 0,
    .receive 0]

/-- The operator is shown the one event. -/
theorem socket_showsOwn_one : ∃ feed socket, socket.frames.length = 1 ∧
    feed.notified.length = 2 ∧
      ShowsOwn oneToken (.initial 0 oneProvider) feed 0 socket := by
  obtain ⟨feed, hrun, hp⟩ := System.exists_run_of_replay (S := feedSystem oneToken)
    (s := .initial 0 oneProvider) (oneConnects ++ twoEvents) (fun _ _ _ => trivial)
    (fun feed => decide (feed.sockets.map (·.frames.length) = [1] ∧ feed.notified.length = 2))
    (by decide +kernel)
  obtain ⟨hsockets, hnotified⟩ := of_decide_eq_true hp
  obtain ⟨socket, hall, hframes⟩ := List.map_eq_singleton_iff.mp hsockets
  exact ⟨feed, socket, hframes, hnotified,
    @socket_showsOwn oneToken feed 0 oneProvider hrun 0 socket
      (by rw [hall]; rfl)⟩

/-! ## Whose it is -/

section Owner
variable {verify : Time → String → Option JwtClaims} {feed feed' : EventsFeed}

/-- A request that a step leaves waiting was taken in by it. -/
theorem Sound.asked (hsound : Sound feed) {ch : FeedChoice}
    (h : (feedSystem verify).step ch feed = some feed') {handshake : Handshake}
    (hnew : handshake ∈ feed'.handshakes) (hold : handshake ∉ feed.handshakes) :
    Asked verify feed feed' handshake := by
  rcases step_cases h with hquiet | ⟨i, rfl, hcommit⟩ | ⟨m, rfl, hreceive⟩
  · rcases hquiet.handshakes handshake hnew with hmem | hasked
    · exact absurd hmem hold
    · exact hasked
  · obtain ⟨payload, -, rfl⟩ := commit_eq hcommit
    exact absurd hnew hold
  · obtain ⟨event, rest, -, rfl⟩ := receive_eq hsound.accounted hsound.queued hreceive
    exact absurd hnew hold

/-- The steps of a run that opened a socket: its request was taken in, with a token for
its account in the header, and the lookup of its PP found a row of that account. -/
structure OpenedFor (verify : Time → String → Option JwtClaims) (start feed : EventsFeed) (id : Nat)
    (socket : EventsSocket) : Prop where
  steps : ∃ (before waiting asked made : EventsFeed) (request : UpgradeRequest) (i : Nat)
      (first : EventsSocket),
    (feedSystem verify).Run System.Free start before ∧
    before.request verify socket.machine request = some waiting ∧
    Authenticated verify before.now request socket.sub ∧
    request.ppPublicKey = some socket.boundPpPublicKey ∧
    (feedSystem verify).Run System.Free waiting asked ∧
    asked.handshakes[i]? = some ⟨socket.machine, socket.boundPpPublicKey, socket.sub⟩ ∧
    asked.lookup i = some made ∧ Made verify start asked made feed id first ∧
    ∃ row ∈ asked.paymentProviders,
      row.publicKey = socket.boundPpPublicKey ∧ row.ownerPublicKey = socket.sub

/-- **A socket belongs to the owner of its PP.** -/
theorem socket_openedFor (now : Time) (rows : List OwnedProvider)
    (hrun : (feedSystem verify).Run System.Free (.initial now rows) feed) {id : Nat}
    {socket : EventsSocket} (hsocket : feed.sockets[id]? = some socket) :
    OpenedFor verify (.initial now rows) feed id socket := by
  obtain ⟨asked, made, first, hmade, last, hlast, hsame, -⟩ := exists_made now rows hrun hsocket
  obtain rfl : socket = last := Option.some.inj (hsocket.symm.trans hlast)
  obtain ⟨i, handshake, hhandshake, hlookup, hm, hpp, hsub⟩ := hmade.granted.lookup
  obtain ⟨row, hrow, hkey, howner⟩ := hmade.granted.row
  obtain ⟨before, ch, waiting, hbefore, hold, -, hstep, hwaits, hwaiting⟩ :=
    hmade.before.turn (P := fun feed => handshake ∈ feed.handshakes) (by simp [EventsFeed.initial])
      (List.mem_of_getElem? hhandshake)
  obtain ⟨request, hrequest, hhandle⟩ :=
    ((sound_initial now rows).run hbefore).asked hstep hwaits hold
  obtain ⟨hauth, hasksFor⟩ := authenticated_of_handle hhandle
  obtain ⟨machine, ppPublicKey, sub⟩ := handshake
  subst hm hpp hsub
  rw [← hsame.machine] at hrequest
  rw [← hsame.sub] at hauth
  rw [← hsame.boundPpPublicKey] at hasksFor
  refine ⟨before, waiting, asked, made, request, i, first, hbefore, hrequest, hauth, hasksFor,
    hwaiting, ?_, hlookup, hmade, row, hrow, ?_, ?_⟩
  · rw [hsame.machine, hsame.boundPpPublicKey, hsame.sub]
    exact hhandshake
  · rw [hsame.boundPpPublicKey, hkey]
  · rw [hsame.sub, howner]

theorem socket_openedFor_one : ∃ feed socket, socket.boundPpPublicKey = "GPP" ∧
    OpenedFor oneToken (.initial 0 oneProvider) feed 0 socket := by
  obtain ⟨feed, hrun, hp⟩ := System.exists_run_of_replay (S := feedSystem oneToken)
    (s := .initial 0 oneProvider) oneConnects (fun _ _ _ => trivial)
    (fun feed => decide (feed.sockets.map (·.boundPpPublicKey) = ["GPP"])) (by decide +kernel)
  obtain ⟨socket, hall, hpp⟩ := List.map_eq_singleton_iff.mp (of_decide_eq_true hp)
  exact ⟨feed, socket, hpp,
    @socket_openedFor oneToken feed 0 oneProvider hrun 0 socket (by rw [hall]; rfl)⟩

end Owner

/-! ## All of it, while the connection lasts -/

/-- What still waits for a socket at its machine. -/
def waiting (feed : EventsFeed) (socket : EventsSocket) : List String :=
  (feed.machines socket.machine).queue.filter (isFor socket.boundPpPublicKey)

/-- The socket is open and its machine listens. -/
structure Attached (feed : EventsFeed) (id : Nat) (socket : EventsSocket) : Prop where
  present : feed.sockets[id]? = some socket
  opened : socket.readyState = .open
  listening : (feed.machines socket.machine).listening = true
  subscribed : id ∈ (feed.machines socket.machine).bus.listeners

/-- The choices that end a connection, or that of its machine to Postgres. -/
def severs (m id : Nat) : FeedChoice → Bool
  | .boot k | .disconnect k => k == m
  | .closing k | .ended k => k == id
  | _ => false

/-- The socket and what it waits for are as they were, and nothing is notified. -/
structure Steady (feed feed' : EventsFeed) (id : Nat) (socket : EventsSocket) : Prop where
  attached : Attached feed' id socket
  waiting : waiting feed' socket = waiting feed socket
  notified : feed'.notified = feed.notified

section Lasting
variable {verify : Time → String → Option JwtClaims} {feed feed' : EventsFeed} {id : Nat}
  {socket : EventsSocket}

theorem Attached.steady (h : Attached feed id socket)
    (hmachine : feed'.machines socket.machine = feed.machines socket.machine)
    (hsocket : feed'.sockets[id]? = some socket) (hnotified : feed'.notified = feed.notified) :
    Steady feed feed' id socket := by
  refine ⟨⟨hsocket, h.opened, ?_, ?_⟩, ?_, hnotified⟩
  · rw [hmachine]
    exact h.listening
  · rw [hmachine]
    exact h.subscribed
  · rw [EventsFeed.waiting, EventsFeed.waiting, hmachine]

/-- A bus of its machine that still has it is no matter. -/
theorem Attached.steady_setBus (h : Attached feed id socket) {m : Nat} {bus : PgNotifyEventBus}
    {sockets : List EventsSocket} (hsocket : sockets[id]? = some socket)
    (hbus : id ∈ (feed.machines m).bus.listeners → id ∈ bus.listeners) :
    Steady feed { feed.setBus m bus with sockets := sockets } id socket := by
  by_cases hm : m = socket.machine
  · subst hm
    refine ⟨⟨hsocket, h.opened, ?_, ?_⟩, ?_, rfl⟩
    · simpa [setBus, setMachine] using h.listening
    · simpa [setBus, setMachine] using hbus h.subscribed
    · simp [EventsFeed.waiting, setBus, setMachine]
  · exact h.steady (Function.update_of_ne (Ne.symm hm) _ _) hsocket rfl

/-- What a step that does not sever a connection does to it. -/
theorem Attached.step (h : Attached feed id socket) {ch : FeedChoice}
    (hch : severs socket.machine id ch = false)
    (hstep : (feedSystem verify).step ch feed = some feed') :
    Steady feed feed' id socket ∨ (∃ i, feed.commit i = some feed') ∨
      ∃ m, feed.receive m = some feed' := by
  cases ch with
  | boot m =>
    cases hstep
    have hm : socket.machine ≠ m := fun hm => by simp [severs, hm] at hch
    refine .inl (h.steady (Function.update_of_ne hm _ _) ?_ rfl)
    simp [boot, h.present, EventsSocket.abandoned, hm]
  | listen m =>
    simp only [feedSystem] at hstep
    split at hstep
    · cases hstep
    · rename_i hlisten
      cases hstep
      have hm : socket.machine ≠ m := fun hm => hlisten (hm ▸ h.listening)
      exact .inl (h.steady (Function.update_of_ne hm _ _) h.present rfl)
  | disconnect m =>
    cases hstep
    have hm : socket.machine ≠ m := fun hm => by simp [severs, hm] at hch
    exact .inl (h.steady (Function.update_of_ne hm _ _) h.present rfl)
  | emit m event =>
    simp only [feedSystem, emit] at hstep
    split at hstep
    · cases hstep
      exact .inl (h.steady rfl h.present rfl)
    · cases hstep
  | commit i => exact .inr (.inl ⟨i, hstep⟩)
  | lose i =>
    simp only [feedSystem, lose] at hstep
    split at hstep
    · cases hstep
    · cases hstep
      exact .inl (h.steady rfl h.present rfl)
  | receive m => exact .inr (.inr ⟨m, hstep⟩)
  | request m request =>
    simp only [feedSystem, EventsFeed.request] at hstep
    split at hstep
    · split at hstep
      · cases hstep
        exact .inl (h.steady rfl h.present rfl)
      · cases hstep
        exact .inl (h.steady rfl h.present rfl)
    · cases hstep
  | lookup i =>
    have hlong (new : EventsSocket) : (feed.sockets ++ [new])[id]? = some socket := by
      obtain ⟨hlt, -⟩ := List.getElem?_eq_some_iff.mp h.present
      rw [List.getElem?_append_left hlt, h.present]
    simp only [feedSystem, lookup] at hstep
    split at hstep
    · cases hstep
    · split at hstep
      · cases hstep
        exact .inl (h.steady rfl h.present rfl)
      · cases hstep
        exact .inl (h.steady rfl (hlong _) rfl)
  | abort i =>
    cases hstep
    exact .inl (h.steady rfl h.present rfl)
  | opened k =>
    simp only [feedSystem, EventsFeed.opened] at hstep
    split at hstep
    · cases hstep
    · rename_i other hother
      split at hstep
      · rename_i hconnecting
        cases hstep
        have hk : k ≠ id := by
          rintro rfl
          rw [h.present] at hother
          cases hother
          rw [h.opened] at hconnecting
          cases hconnecting
        refine .inl (h.steady_setBus ?_ fun hmem => mem_subscribe.mpr (.inl hmem))
        rw [List.getElem?_set_ne hk]
        exact h.present
      · cases hstep
  | closing k =>
    have hk : k ≠ id := fun hk => by simp [severs, hk] at hch
    simp only [feedSystem, closing] at hstep
    split at hstep
    · cases hstep
    · split at hstep
      · cases hstep
        refine .inl (h.steady rfl ?_ rfl)
        rw [List.getElem?_set_ne hk]
        exact h.present
      · cases hstep
  | ended k =>
    have hk : k ≠ id := fun hk => by simp [severs, hk] at hch
    simp only [feedSystem, ended] at hstep
    split at hstep
    · cases hstep
    · rename_i other hother
      cases hstep
      have hother' (new : EventsSocket) : (feed.sockets.set k new)[id]? = some socket := by
        rw [List.getElem?_set_ne hk]
        exact h.present
      unfold cleanup
      split
      · exact .inl (h.steady rfl h.present rfl)
      · split
        · exact .inl (h.steady_setBus (hother' _)
            fun hmem => (List.mem_erase_of_ne (Ne.symm hk)).mpr hmem)
        · exact .inl (h.steady rfl (hother' _) rfl)
  | directory rows =>
    cases hstep
    exact .inl (h.steady rfl h.present rfl)
  | tick now =>
    cases hstep
    exact .inl (h.steady rfl h.present rfl)

/-- What a connection has shown and still waits for, from one state to another. -/
structure Follows (feed feed' : EventsFeed) (id : Nat) (socket socket' : EventsSocket) : Prop where
  attached : Attached feed' id socket'
  same : socket.SameConnection socket'
  fresh : ∃ fresh, feed'.notified = feed.notified ++ fresh ∧
    socket'.frames ++ waiting feed' socket' =
      socket.frames ++ waiting feed socket ++ fresh.filter (isFor socket.boundPpPublicKey)

/-- The machine of a socket hands it the oldest payload that waits. -/
theorem Attached.receive_own (hsound : Sound feed) (h : Attached feed id socket)
    (hreceive : feed.receive socket.machine = some feed') :
    ∃ socket', Follows feed feed' id socket socket' := by
  obtain ⟨event, rest, hqueue, rfl⟩ := receive_eq hsound.accounted hsound.queued hreceive
  have hheard := receive_socket hsound.subscribed event socket.machine id
  rw [if_pos h.subscribed, h.present, Option.map_some] at hheard
  have hsame := socket.sameConnection_hear event.toJson
  have hmachine : (feed.setMachine socket.machine
      { feed.machines socket.machine with queue := rest }).machines socket.machine =
        { feed.machines socket.machine with queue := rest } := by simp [setMachine]
  refine ⟨socket.hear event.toJson, ⟨hheard, ?_, ?_, ?_⟩, hsame, [], ?_, ?_⟩
  · rw [EventsSocket.hear_readyState]
    exact h.opened
  · rw [hsame.machine]
    simpa [setMachine] using h.listening
  · rw [hsame.machine]
    simpa [setMachine] using h.subscribed
  · rw [List.append_nil]
    rfl
  · rw [EventsFeed.waiting, EventsFeed.waiting, hsame.machine, hsame.boundPpPublicKey,
      EventsSocket.hear_frames, if_pos h.opened, hqueue, List.filter_nil, List.append_nil,
      hmachine, List.filter_cons, List.filter_cons, List.filter_nil, List.append_assoc]
    cases isFor socket.boundPpPublicKey event.text <;> rfl

/-- The other machines do not touch it. -/
theorem Attached.receive_other (hsound : Sound feed) (h : Attached feed id socket) {m : Nat}
    (hm : socket.machine ≠ m) (hreceive : feed.receive m = some feed') :
    Steady feed feed' id socket := by
  obtain ⟨event, rest, -, rfl⟩ := receive_eq hsound.accounted hsound.queued hreceive
  have hheard := receive_socket hsound.subscribed event m id
  have hid : id ∉ (feed.machines m).bus.listeners := by
    intro hmem
    obtain ⟨own, hown, hown'⟩ := hsound.subscribed.own m id hmem
    rw [h.present] at hown
    cases hown
    exact hm hown'
  rw [if_neg hid, h.present] at hheard
  exact h.steady (Function.update_of_ne hm _ _) hheard rfl

theorem Steady.follows (h : Steady feed feed' id socket) : Follows feed feed' id socket socket := by
  refine ⟨h.attached, socket.sameConnection_refl, [], ?_, ?_⟩
  · rw [h.notified, List.append_nil]
  · rw [h.waiting, List.filter_nil, List.append_nil]

theorem Attached.next (hsound : Sound feed) (h : Attached feed id socket) {ch : FeedChoice}
    (hch : severs socket.machine id ch = false)
    (hstep : (feedSystem verify).step ch feed = some feed') :
    ∃ socket', Follows feed feed' id socket socket' := by
  rcases h.step hch hstep with hsteady | ⟨i, hcommit⟩ | ⟨m, hreceive⟩
  · exact ⟨socket, hsteady.follows⟩
  · obtain ⟨payload, -, rfl⟩ := commit_eq hcommit
    refine ⟨socket, ⟨h.present, h.opened, ?_, ?_⟩, socket.sameConnection_refl, [payload], rfl, ?_⟩
    · simp only [EventsMachine.notify, h.listening, if_true]
    · simp only [EventsMachine.notify, h.listening, if_true]
      exact h.subscribed
    · simp only [EventsFeed.waiting, notify_queue, h.listening, if_true, List.filter_append,
        List.append_assoc]
  · by_cases hm : socket.machine = m
    · subst hm
      exact h.receive_own hsound hreceive
    · exact ⟨socket, (h.receive_other hsound hm hreceive).follows⟩

theorem Follows.trans {feed'' : EventsFeed} {socket' socket'' : EventsSocket}
    (h : Follows feed feed' id socket socket') (h' : Follows feed' feed'' id socket' socket'') :
    Follows feed feed'' id socket socket'' := by
  obtain ⟨fresh, hnotified, hframes⟩ := h.fresh
  obtain ⟨fresh', hnotified', hframes'⟩ := h'.fresh
  refine ⟨h'.attached, ⟨h'.same.machine.trans h.same.machine,
    h'.same.boundPpPublicKey.trans h.same.boundPpPublicKey, h'.same.sub.trans h.same.sub⟩,
    fresh ++ fresh', ?_, ?_⟩
  · rw [hnotified', hnotified, List.append_assoc]
  · rw [hframes', hframes, h.same.boundPpPublicKey, List.filter_append, List.append_assoc]

/-- **Nothing is missed.** As long as a socket is open and its machine listens,
what it shows and what waits for it grow by what is notified for its PP. -/
theorem Attached.follows (hsound : Sound feed) (h : Attached feed id socket)
    (hrun : (feedSystem verify).Run (fun _ ch => severs socket.machine id ch = false) feed feed') :
    ∃ socket', Follows feed feed' id socket socket' := by
  induction hrun with
  | refl => exact ⟨socket, (h.steady rfl h.present rfl).follows⟩
  | step ch hrun hch hstep ih =>
    obtain ⟨middle, hfollows⟩ := ih
    rw [← hfollows.same.machine] at hch
    obtain ⟨socket', hnext⟩ := hfollows.attached.next (hsound.run hrun) hch hstep
    exact ⟨socket', hfollows.trans hnext⟩

/-- A machine that waits can take the oldest payload. -/
theorem exists_receive (hsound : Sound feed) {m : Nat} {payload : String} {rest : List String}
    (hqueue : (feed.machines m).queue = payload :: rest) :
    ∃ feed', feed.receive m = some feed' ∧ (feed'.machines m).queue = rest ∧
      feed'.notified = feed.notified := by
  have hmem : payload ∈ feed.notified := by
    apply (hsound.queued m).subset
    rw [hqueue]
    exact List.mem_cons_self
  obtain ⟨event, -, rfl⟩ := hsound.accounted.text hmem
  have htakes : ∃ feed', feed.receive m = some feed' := by
    simp only [receive, hqueue, onNotify_text]
    exact ⟨_, rfl⟩
  obtain ⟨feed', hreceive⟩ := htakes
  obtain ⟨event', rest', hqueue', rfl⟩ := receive_eq hsound.accounted hsound.queued hreceive
  obtain ⟨-, rfl⟩ := List.cons.inj (hqueue.symm.trans hqueue')
  exact ⟨_, hreceive, by simp [setMachine], rfl⟩

/-- What waits for a socket reaches it as its machine takes what it has. -/
theorem Attached.drained (verify : Time → String → Option JwtClaims) (hsound : Sound feed)
    (h : Attached feed id socket) : ∃ feed' socket',
      (feedSystem verify).replay (List.replicate (feed.machines socket.machine).queue.length
        (.receive socket.machine)) feed = some feed' ∧ Attached feed' id socket' ∧
      socket'.frames = socket.frames ++ waiting feed socket := by
  generalize hn : (feed.machines socket.machine).queue.length = n
  induction n generalizing feed socket with
  | zero =>
    have hnil := List.length_eq_zero_iff.mp hn
    refine ⟨feed, socket, rfl, h, ?_⟩
    rw [EventsFeed.waiting, hnil, List.filter_nil, List.append_nil]
  | succ n ih =>
    obtain ⟨payload, rest, hqueue⟩ := List.exists_cons_of_length_eq_add_one hn
    obtain ⟨next, hreceive, hrest, hnotified⟩ := exists_receive hsound hqueue
    obtain ⟨middle, hattached, hsame, fresh, hfresh, hframes⟩ := h.receive_own hsound hreceive
    have hnone : fresh = [] := by
      rw [hnotified] at hfresh
      exact List.self_eq_append_right.mp hfresh
    rw [hnone, List.filter_nil, List.append_nil] at hframes
    have hstep : (feedSystem verify).step (.receive socket.machine) feed = some next := hreceive
    have hlength : (next.machines middle.machine).queue.length = n := by
      rw [hsame.machine, hrest]
      simpa [hqueue] using hn
    obtain ⟨feed', socket', hreplay, hlast, hall⟩ := ih (hsound.next hstep) hattached hlength
    refine ⟨feed', socket', ?_, hlast, by rw [hall, hframes]⟩
    rw [List.replicate_succ, System.replay, hstep, Option.bind_some, ← hsame.machine]
    exact hreplay

/-- What is known of a socket that has stayed open on a machine that listens. -/
structure MissesNothing (verify : Time → String → Option JwtClaims) (feed feed' : EventsFeed)
    (id : Nat) (socket : EventsSocket) : Prop where
  follows : ∃ socket', Follows feed feed' id socket socket'
  drained : ∃ last shown fresh,
    (feedSystem verify).replay (List.replicate (feed'.machines socket.machine).queue.length
      (.receive socket.machine)) feed' = some last ∧ Attached last id shown ∧
    feed'.notified = feed.notified ++ fresh ∧ shown.frames = socket.frames ++
      waiting feed socket ++ fresh.filter (isFor socket.boundPpPublicKey)

/-- **Nothing is missed while the connection lasts.** -/
theorem socket_missesNothing (now : Time) (rows : List OwnedProvider)
    (hrun : (feedSystem verify).Run System.Free (.initial now rows) feed)
    (h : Attached feed id socket)
    (hlast : (feedSystem verify).Run (fun _ ch => severs socket.machine id ch = false)
      feed feed') : MissesNothing verify feed feed' id socket := by
  have hsound := (sound_initial now rows).run hrun
  obtain ⟨socket', hfollows⟩ := h.follows hsound hlast
  obtain ⟨fresh, hnotified, hframes⟩ := hfollows.fresh
  obtain ⟨last, shown, hreplay, hattached, hall⟩ :=
    hfollows.attached.drained verify (hsound.run hlast)
  rw [hfollows.same.machine] at hreplay
  exact ⟨⟨socket', hfollows⟩, last, shown, fresh, hreplay, hattached, hnotified,
    hall.trans hframes⟩

end Lasting

theorem socket_missesNothing_one : ∃ feed feed' socket, feed.notified.length = 0 ∧
    feed'.notified.length = 2 ∧ MissesNothing oneToken feed feed' 0 socket := by
  obtain ⟨feed, hrun, hp⟩ := System.exists_run_of_replay (S := feedSystem oneToken)
    (s := .initial 0 oneProvider) oneConnects (fun _ _ _ => trivial)
    (fun feed => decide (feed.sockets.map (fun socket => (socket.machine, socket.readyState)) =
        [(0, .open)] ∧ (feed.machines 0).listening = true ∧
          0 ∈ (feed.machines 0).bus.listeners ∧ feed.notified.length = 0 ∧
        (((feedSystem oneToken).replay twoEvents feed).map (·.notified.length)) = some 2))
    (by decide +kernel)
  obtain ⟨hsockets, hlistening, hsubscribed, hnone, hlast⟩ := of_decide_eq_true hp
  obtain ⟨socket, hall, hsocket⟩ := List.map_eq_singleton_iff.mp hsockets
  obtain ⟨hmachine, hopen⟩ := Prod.mk.inj hsocket
  obtain ⟨feed', hreplay, htwo⟩ := Option.map_eq_some_iff.mp hlast
  have hattached : Attached feed 0 socket :=
    ⟨by rw [hall]; rfl, hopen, by rw [hmachine]; exact hlistening,
      by rw [hmachine]; exact hsubscribed⟩
  have hlasts : (feedSystem oneToken).Run (fun _ ch => severs socket.machine 0 ch = false)
      feed feed' := by
    refine System.replay_run (fun ch hch _ => ?_) hreplay
    simp only [twoEvents, List.mem_cons, List.not_mem_nil, or_false] at hch
    rcases hch with rfl | rfl | rfl | rfl | rfl | rfl <;> rfl
  exact ⟨feed, feed', socket, hnone, htwo, socket_missesNothing 0 oneProvider hrun hattached hlasts⟩

end EventsFeed
end ProviderPlatform
