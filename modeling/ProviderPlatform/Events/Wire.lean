import ProviderPlatform.Encoding.JsonParse
import ProviderPlatform.Events.Notify

/-! # The event on the wire

An event goes to Postgres as a text, comes back to every machine as one, is
parsed there, and goes to the subscribers as a text again. The text stands for
one event only, and what a subscriber is sent is the text that was notified. -/
namespace ProviderPlatform
open Encoding

/-! ## What a machine does with a payload -/

/-- `typeof event.kind === "string"`. -/
def recognizable (event : Encoding.Json) : Bool :=
  match event.member "kind" with
  | some (.string _) => true
  | _ => false

/-- `onNotify` of the listener task: the event it publishes, if it finds one. -/
def onNotify (payload : String) : Option Encoding.Json :=
  match Encoding.Json.parse payload.toList with
  | none => none
  | some event => if recognizable event then some event else none

inductive ReadyState
  | connecting
  | open
  | closing
  | closed
  deriving DecidableEq

/-- What the listener of a socket makes of an event. -/
inductive Heard
  | thrown
  | otherScope
  | notOpen
  | sent (frame : String)

/-- `event.scope.ppPublicKey`; reading it throws where there is no scope. -/
def scopeKey (event : Encoding.Json) : Except Unit (Option Encoding.Json) :=
  match event.member "scope" with
  | none | some .null => .error ()
  | some scope => .ok (scope.member "ppPublicKey")

/-- The text that a value is, if it is one. -/
def asText : Option Encoding.Json → Option String
  | some (.string text) => some text
  | _ => none

/-- The listener of a socket that is bound to a PP. -/
def listener (boundPpPublicKey : PublicKey) (readyState : ReadyState) (event : Encoding.Json) : Heard :=
  match scopeKey event with
  | .error _ => .thrown
  | .ok key =>
    if asText key ≠ some boundPpPublicKey then .otherScope
    else if readyState ≠ .open then .notOpen
    else .sent (String.ofList event.stringify)

/-- The PP that a payload is for, as the machines read it. -/
def payloadScope (payload : String) : Option String :=
  match onNotify payload with
  | none => none
  | some event =>
    match scopeKey event with
    | .error _ => none
    | .ok key => asText key

/-! ## The text of an event -/

namespace BusEvent

/-- `JSON.stringify(event)` as the transport gets it. -/
def text (event : BusEvent) : String := String.ofList event.payloadText

end BusEvent

section Text
variable {event : BusEvent}

theorem onNotify_text (event : BusEvent) : onNotify event.text = some event.toJson := by
  have hparse : Encoding.Json.parse event.text.toList = some event.toJson := by
    rw [BusEvent.text, String.toList_ofList]
    exact parse_stringify event.toJson
  rw [onNotify, hparse]
  exact if_pos rfl

theorem scopeKey_toJson (event : BusEvent) :
    scopeKey event.toJson = .ok (some (.string event.scope.ppPublicKey)) := rfl

theorem payloadScope_text (event : BusEvent) :
    payloadScope event.text = some event.scope.ppPublicKey := by
  rw [payloadScope, onNotify_text]
  rfl

/-- A subscriber of the PP gets the text as it was notified, one of another PP
nothing. -/
theorem listener_toJson (pp : PublicKey) (state : ReadyState) (event : BusEvent) :
    listener pp state event.toJson =
      if event.scope.ppPublicKey = pp then
        if state = .open then .sent event.text else .notOpen
      else .otherScope := by
  rw [listener, scopeKey_toJson]
  simp only [asText, ne_eq, Option.some.injEq, ite_not]
  rfl

end Text

/-! ## One text, one event -/

theorem nullable_injective : Function.Injective BusPayload.nullable := by
  intro text other h
  cases text with
  | none =>
    cases other with
    | none => rfl
    | some other => cases h
  | some text =>
    cases other with
    | none => cases h
    | some other =>
      cases h
      rfl

theorem strings_injective : Function.Injective BusPayload.strings := by
  intro texts others h
  have hmap : texts.map Encoding.Json.string = others.map Encoding.Json.string := Encoding.Json.array.inj h
  exact List.map_injective_iff.mpr (fun _ _ => Encoding.Json.string.inj) hmap

/-- A payload of a kind is read off its value. -/
theorem BusPayload.toJson_injective {payload other : BusPayload} (hkind : payload.kind = other.kind)
    (h : payload.toJson = other.toJson) : payload = other := by
  cases payload with
  | mempoolBundleAdded =>
    cases other with
    | mempoolBundleAdded =>
      simpa [BusPayload.toJson, nullable_injective.eq_iff, strings_injective.eq_iff] using h
    | _ => simp [BusPayload.kind] at hkind
  | mempoolBundleExpired =>
    cases other with
    | mempoolBundleExpired =>
      simpa [BusPayload.toJson, nullable_injective.eq_iff, strings_injective.eq_iff] using h
    | _ => simp [BusPayload.kind] at hkind
  | executorTransactionSubmitted =>
    cases other with
    | executorTransactionSubmitted =>
      simpa [BusPayload.toJson, nullable_injective.eq_iff, strings_injective.eq_iff] using h
    | _ => simp [BusPayload.kind] at hkind
  | executorExecutionFailed =>
    cases other with
    | executorExecutionFailed =>
      simpa [BusPayload.toJson, nullable_injective.eq_iff, strings_injective.eq_iff] using h
    | _ => simp [BusPayload.kind] at hkind
  | verifierBundleCompleted =>
    cases other with
    | verifierBundleCompleted =>
      simpa [BusPayload.toJson, nullable_injective.eq_iff, strings_injective.eq_iff] using h
    | _ => simp [BusPayload.kind] at hkind
  | verifierBundleFailed =>
    cases other with
    | verifierBundleFailed =>
      simpa [BusPayload.toJson, nullable_injective.eq_iff, strings_injective.eq_iff] using h
    | _ => simp [BusPayload.kind] at hkind
  | channelProviderAdded =>
    cases other with
    | channelProviderAdded =>
      simpa [BusPayload.toJson, nullable_injective.eq_iff, strings_injective.eq_iff] using h
    | _ => simp [BusPayload.kind] at hkind
  | channelProviderRemoved =>
    cases other with
    | channelProviderRemoved =>
      simpa [BusPayload.toJson, nullable_injective.eq_iff, strings_injective.eq_iff] using h
    | _ => simp [BusPayload.kind] at hkind
  | bundleDepositCompleted =>
    cases other with
    | bundleDepositCompleted =>
      simpa [BusPayload.toJson, nullable_injective.eq_iff, strings_injective.eq_iff] using h
    | _ => simp [BusPayload.kind] at hkind
  | bundleWithdrawCompleted =>
    cases other with
    | bundleWithdrawCompleted =>
      simpa [BusPayload.toJson, nullable_injective.eq_iff, strings_injective.eq_iff] using h
    | _ => simp [BusPayload.kind] at hkind

/-- **The text names the event.** -/
theorem BusEvent.text_injective : Function.Injective BusEvent.text := by
  intro event other h
  have hjson : event.toJson = other.toJson := by
    have hparse := onNotify_text event
    rw [h, onNotify_text] at hparse
    exact (Option.some.inj hparse).symm
  obtain ⟨ts, ⟨key, label⟩, payload⟩ := event
  obtain ⟨ts', ⟨key', label'⟩, payload'⟩ := other
  simp only [BusEvent.toJson, Encoding.Json.object.injEq, List.cons.injEq, Prod.mk.injEq, true_and,
    Encoding.Json.string.injEq, Encoding.Json.number.injEq, and_true, nullable_injective.eq_iff] at hjson
  obtain ⟨hkind, hts, ⟨hkey, hlabel⟩, hpayload⟩ := hjson
  have hpayload := BusPayload.toJson_injective hkind hpayload
  have hts : ts = ts' := by exact_mod_cast hts
  subst hts hkey hlabel hpayload
  rfl

/-- **The wire loses nothing.** Every machine parses the text back to the event,
a subscriber of its PP is sent the text it was notified as, and no other event
has it. -/
theorem wire_exact (event : BusEvent) : onNotify event.text = some event.toJson ∧
    (∀ pp state, listener pp state event.toJson = if event.scope.ppPublicKey = pp then
        if state = .open then .sent event.text else .notOpen
      else .otherScope) ∧
    ∀ other : BusEvent, other.text = event.text → other = event :=
  ⟨onNotify_text event, fun pp state => listener_toJson pp state event,
    fun _ h => BusEvent.text_injective h⟩

end ProviderPlatform
