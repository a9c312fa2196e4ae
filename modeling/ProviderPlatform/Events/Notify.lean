import ProviderPlatform.Encoding.Json
import ProviderPlatform.Runtime.Host

/-! # The event bus

Once the NOTIFY transport is wired every event goes through Postgres, whose
payloads stay below 8000 bytes. The bus drops what is longer by its own cap, but
measures the text in UTF-16 code units: what passes the cap is short in bytes
exactly as long as its characters beyond ASCII add little. -/
namespace ProviderPlatform
open Encoding

/-! ## The taxonomy -/

inductive BusPayload
  | mempoolBundleAdded (bundleId : String) (weight : Nat) (channelContractId : String)
      (newSlot : Bool) (entityName : Option String) (jurisdictions : List String)
      (amount : Option String)
  | mempoolBundleExpired (bundleId channelContractId : String)
  | executorTransactionSubmitted (txHash : String) (bundleIds : List String)
      (channelContractId : String)
  | executorExecutionFailed (bundleIds : List String) (channelContractId : Option String)
      (reason : String)
  | verifierBundleCompleted (txId : String) (bundleIds : List String) (channelContractId : String)
  | verifierBundleFailed (txId : String) (bundleIds : List String) (channelContractId : String)
      (reason : String)
  | channelProviderAdded (channelContractId : String)
  | channelProviderRemoved (channelContractId : String)
  | bundleDepositCompleted (bundleId txId channelContractId depositorAddress amount : String)
  | bundleWithdrawCompleted (bundleId txId channelContractId recipientAddress amount : String)

/-- An event as the bus gets it, its errors and amounts made texts. -/
structure BusEvent where
  ts : Time
  scope : EventScope
  payload : BusPayload

namespace BusPayload

def kind : BusPayload → String
  | .mempoolBundleAdded .. => "mempool.bundle_added"
  | .mempoolBundleExpired .. => "mempool.bundle_expired"
  | .executorTransactionSubmitted .. => "executor.transaction_submitted"
  | .executorExecutionFailed .. => "executor.execution_failed"
  | .verifierBundleCompleted .. => "verifier.bundle_completed"
  | .verifierBundleFailed .. => "verifier.bundle_failed"
  | .channelProviderAdded .. => "channel.provider_added"
  | .channelProviderRemoved .. => "channel.provider_removed"
  | .bundleDepositCompleted .. => "bundle.deposit_completed"
  | .bundleWithdrawCompleted .. => "bundle.withdraw_completed"

/-- A string or `null`. -/
def nullable : Option String → Json
  | none => .null
  | some text => .string text

def strings (texts : List String) : Json := .array (texts.map .string)

def toJson : BusPayload → Json
  | .mempoolBundleAdded bundleId weight channelContractId newSlot entityName jurisdictions amount =>
    .object [("bundleId", .string bundleId), ("weight", .number weight),
      ("channelContractId", .string channelContractId), ("newSlot", .bool newSlot),
      ("entityName", nullable entityName), ("jurisdictions", strings jurisdictions),
      ("amount", nullable amount)]
  | .mempoolBundleExpired bundleId channelContractId =>
    .object [("bundleId", .string bundleId), ("channelContractId", .string channelContractId)]
  | .executorTransactionSubmitted txHash bundleIds channelContractId =>
    .object [("txHash", .string txHash), ("bundleIds", strings bundleIds),
      ("channelContractId", .string channelContractId)]
  | .executorExecutionFailed bundleIds channelContractId reason =>
    .object [("bundleIds", strings bundleIds), ("channelContractId", nullable channelContractId),
      ("reason", .string reason)]
  | .verifierBundleCompleted txId bundleIds channelContractId =>
    .object [("txId", .string txId), ("bundleIds", strings bundleIds),
      ("channelContractId", .string channelContractId)]
  | .verifierBundleFailed txId bundleIds channelContractId reason =>
    .object [("txId", .string txId), ("bundleIds", strings bundleIds),
      ("channelContractId", .string channelContractId), ("reason", .string reason)]
  | .channelProviderAdded channelContractId =>
    .object [("channelContractId", .string channelContractId)]
  | .channelProviderRemoved channelContractId =>
    .object [("channelContractId", .string channelContractId)]
  | .bundleDepositCompleted bundleId txId channelContractId depositorAddress amount =>
    .object [("bundleId", .string bundleId), ("txId", .string txId),
      ("channelContractId", .string channelContractId),
      ("depositorAddress", .string depositorAddress), ("amount", .string amount)]
  | .bundleWithdrawCompleted bundleId txId channelContractId recipientAddress amount =>
    .object [("bundleId", .string bundleId), ("txId", .string txId),
      ("channelContractId", .string channelContractId),
      ("recipientAddress", .string recipientAddress), ("amount", .string amount)]

end BusPayload

/-- What a service emits, with the text of an error as the emitter takes it. -/
def EventPayload.onBus (errorText : Err → String) : EventPayload → BusPayload
  | .bundleAdded bundleId weight channelContractId newSlot entityName jurisdictions amount =>
    .mempoolBundleAdded bundleId weight channelContractId newSlot entityName jurisdictions amount
  | .bundleExpired bundleId channelContractId => .mempoolBundleExpired bundleId channelContractId
  | .transactionSubmitted txHash bundleIds channelContractId =>
    .executorTransactionSubmitted txHash bundleIds channelContractId
  | .executionFailed bundleIds channelContractId reason =>
    .executorExecutionFailed bundleIds (some channelContractId) (errorText reason)
  | .bundleCompleted txId bundleIds channelContractId =>
    .verifierBundleCompleted txId bundleIds channelContractId
  | .bundleFailed txId bundleIds channelContractId reason =>
    .verifierBundleFailed txId bundleIds channelContractId reason
  | .depositCompleted bundleId txId channelContractId depositorAddress amount =>
    .bundleDepositCompleted bundleId txId channelContractId depositorAddress (toString amount)
  | .withdrawCompleted bundleId txId channelContractId recipientAddress amount =>
    .bundleWithdrawCompleted bundleId txId channelContractId recipientAddress (toString amount)

def ProviderEvent.onBus (errorText : Err → String) (event : ProviderEvent) : BusEvent :=
  ⟨event.ts, event.scope, event.payload.onBus errorText⟩

namespace BusEvent

def toJson (event : BusEvent) : Json :=
  .object [("kind", .string event.payload.kind), ("ts", .number event.ts),
    ("scope", .object [("ppPublicKey", .string event.scope.ppPublicKey),
      ("ppLabel", BusPayload.nullable event.scope.ppLabel)]),
    ("payload", event.payload.toJson)]

/-- `JSON.stringify(event)`. -/
def payloadText (event : BusEvent) : List Char := event.toJson.stringify

end BusEvent

/-! ## The bus -/

def maxNotifyPayloadBytes : Nat := 7900

/-- The limit of Postgres on a NOTIFY payload, in bytes. -/
def postgresPayloadLimit : Nat := 8000

/-- What the bus does for an event. -/
inductive BusEffect
  | listener (id : Nat) (event : BusEvent)
  | notifier (payload : String)

structure PgNotifyEventBus where
  listeners : List Nat
  notifier : Bool

namespace PgNotifyEventBus

/-- Every listener gets the event; what one throws is caught. -/
def publishLocal (bus : PgNotifyEventBus) (event : BusEvent) : List BusEffect :=
  bus.listeners.map fun id => .listener id event

/-- The event is longer than the cap, by `payload.length`. -/
def oversize (event : BusEvent) : Bool :=
  decide (utf16Length event.payloadText ≥ maxNotifyPayloadBytes)

def emit (bus : PgNotifyEventBus) (event : BusEvent) : List BusEffect :=
  if bus.notifier then
    if oversize event then [] else [.notifier (String.ofList event.payloadText)]
  else bus.publishLocal event

end PgNotifyEventBus

/-! ## The bound -/

/-- What reaches the notifier is below the limit, and what is not is dropped. -/
structure PayloadBounded (bus : PgNotifyEventBus) (event : BusEvent) : Prop where
  short : ∀ payload, .notifier payload ∈ bus.emit event →
    payload.utf8ByteSize < postgresPayloadLimit
  dropped : postgresPayloadLimit ≤ (String.ofList event.payloadText).utf8ByteSize →
    ∀ payload, .notifier payload ∉ bus.emit event

/-- The event is over the cap, or what the characters of its texts add to the
length stays below the limit. -/
def ExtraFits (event : BusEvent) : Prop :=
  PgNotifyEventBus.oversize event = true ∨
    utf16Length event.payloadText + event.toJson.extra < postgresPayloadLimit

section Bound
variable {bus : PgNotifyEventBus} {event : BusEvent} {payload : String}

/-- The bytes of the payload. -/
theorem payload_bytes (event : BusEvent) : (String.ofList event.payloadText).utf8ByteSize =
    utf16Length event.payloadText + event.toJson.extra := by
  rw [utf8ByteSize_eq]
  exact congrArg _ (extra_stringify event.toJson)

theorem notifier_mem_emit : .notifier payload ∈ bus.emit event ↔
    bus.notifier = true ∧ PgNotifyEventBus.oversize event = false ∧
      payload = String.ofList event.payloadText := by
  unfold PgNotifyEventBus.emit
  cases bus.notifier with
  | false => simp [PgNotifyEventBus.publishLocal]
  | true =>
    cases hover : PgNotifyEventBus.oversize event with
    | true => simp
    | false => simp

theorem PayloadBounded.extraFits (h : PayloadBounded bus event) (hwired : bus.notifier = true) :
    ExtraFits event := by
  cases hover : PgNotifyEventBus.oversize event with
  | true => exact .inl hover
  | false =>
    have hshort := h.short _ (notifier_mem_emit.mpr ⟨hwired, hover, rfl⟩)
    rw [payload_bytes] at hshort
    exact .inr hshort

/-- **The payload bound.** It holds of a wired bus exactly where the characters
beyond ASCII fit, and of an unwired one always. -/
theorem payloadBounded_iff (bus : PgNotifyEventBus) (event : BusEvent) :
    PayloadBounded bus event ↔ (bus.notifier = true → ExtraFits event) := by
  constructor
  · exact PayloadBounded.extraFits
  · intro hfits
    have hshort (payload : String) (hmem : .notifier payload ∈ bus.emit event) :
        payload.utf8ByteSize < postgresPayloadLimit := by
      obtain ⟨hwired, hover, rfl⟩ := notifier_mem_emit.mp hmem
      rcases hfits hwired with hdropped | hbytes
      · rw [hover] at hdropped
        cases hdropped
      · rw [payload_bytes]
        exact hbytes
    refine ⟨hshort, fun hlong payload hmem => ?_⟩
    have hbytes := hshort payload hmem
    obtain ⟨-, -, rfl⟩ := notifier_mem_emit.mp hmem
    exact absurd hbytes (Nat.not_lt.mpr hlong)

end Bound

/-! ## A payload over the limit -/

/-- A bundle of a submitter of one jurisdiction, a text of any length. -/
def ofJurisdiction (jurisdiction : String) : BusEvent :=
  ProviderEvent.onBus (fun _ => "") ⟨1, ⟨"GPP", none⟩,
    .bundleAdded "bundle" 1 "channel" true none [jurisdiction] none⟩

theorem ofJurisdiction_toJson (jurisdiction : String) : (ofJurisdiction jurisdiction).toJson =
    .object [("kind", .string "mempool.bundle_added"), ("ts", .number 1),
      ("scope", .object [("ppPublicKey", .string "GPP"), ("ppLabel", .null)]),
      ("payload", .object [("bundleId", .string "bundle"), ("weight", .number 1),
        ("channelContractId", .string "channel"), ("newSlot", .bool true), ("entityName", .null),
        ("jurisdictions", .array [.string jurisdiction]), ("amount", .null)])] := rfl

theorem ofJurisdiction_length (jurisdiction : String) :
    utf16Length (ofJurisdiction jurisdiction).payloadText =
      222 + utf16Length (quote jurisdiction) := by
  have hone : ((Int.repr 1).toList.map codeUnits).sum = 1 := by decide
  have htrue : ((toString true).toList.map codeUnits).sum = 4 := by decide
  rw [BusEvent.payloadText, ofJurisdiction_toJson]
  simp only [Json.stringify, stringifyMembers, stringifyElements, separated, List.intercalate,
    List.intersperse, List.flatten_cons, List.flatten_nil, List.append_nil, utf16Length_append]
  generalize utf16Length (quote jurisdiction) = n
  simp [utf16Length, quote, escape, codeUnits, hone, htrue]
  omega

theorem ofJurisdiction_extra (jurisdiction : String) :
    (ofJurisdiction jurisdiction).toJson.extra = extra jurisdiction.toList := by
  rw [ofJurisdiction_toJson]
  simp only [Json.extra, extraMembers, extraElements]
  generalize extra jurisdiction.toList = n
  simp [extra, extraBytes]

/-- Each of these characters is one code unit and three bytes. -/
theorem ofJurisdiction_chinese (n : Nat) :
    let event := ofJurisdiction (String.ofList (List.replicate n '中'))
    utf16Length event.payloadText = 224 + n ∧ event.toJson.extra = 2 * n := by
  have hlength : utf16Length (List.replicate n '中') = n := by
    simp [utf16Length, codeUnits]
  have hextra : extra (List.replicate n '中') = n * 2 := by
    simp [extra, extraBytes]
  have hmark : utf16Length "\"".toList = 1 := by decide
  refine ⟨?_, ?_⟩
  · rw [ofJurisdiction_length, quote_replicate (by decide), utf16Length_append, utf16Length_append,
      hlength, hmark]
    omega
  · rw [ofJurisdiction_extra, String.toList_ofList, hextra, Nat.mul_comm]

/-- 2924 code units are under the cap, their 8324 bytes are over the limit. -/
theorem chinese_jurisdiction_not_bounded :
    ¬ PayloadBounded ⟨[], true⟩ (ofJurisdiction (String.ofList (List.replicate 2700 '中'))) := by
  obtain ⟨hlength, hextra⟩ := ofJurisdiction_chinese 2700
  intro hbounded
  rcases hbounded.extraFits rfl with hdropped | hbytes
  · have hover := of_decide_eq_true hdropped
    rw [hlength] at hover
    unfold maxNotifyPayloadBytes at hover
    omega
  · rw [hlength, hextra] at hbytes
    unfold postgresPayloadLimit at hbytes
    omega

end ProviderPlatform
