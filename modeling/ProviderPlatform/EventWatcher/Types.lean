import ProviderPlatform.Bundle.Types
import Mathlib.Data.List.Infix

/-! # Channel Auth events

The events of the council contracts as the RPC returns them and as the watcher
hands them on, and the errors an RPC call rejects with. The decoders of the SDK
are parameters. -/
namespace ProviderPlatform

/-- A ledger sequence number; a cursor may stand one before the first. -/
abbrev Ledger := Int

/-! ## Errors -/

/-- A thrown value, by its text. -/
structure WatchErr where
  message : String
  deriving DecidableEq

/-- `s.includes(pattern)`. -/
def includes (s pattern : String) : Bool := decide (pattern.toList <:+: s.toList)

/-- The "startLedger out of retention" condition of the RPC. -/
def isOutOfRetentionError (error : WatchErr) : Bool :=
  let msg := error.message.toLower
  includes msg "startledger" ||
    (includes msg "ledger" &&
      ["retention", "oldest", "before", "out of range", "not within"].any (includes msg))

/-! ## Raw events -/

/-- A value of the host environment: a symbol by its name, any other by its
serialization. -/
inductive ScVal
  | symbol (name : String)
  | xdr (value : String)
  deriving DecidableEq

structure RawEvent where
  topic : Option (List ScVal)
  value : ScVal
  ledger : Ledger
  contractId : Option ContractId
  deriving DecidableEq

/-- The decoders of the SDK, which throw on values of another kind:
`Address.fromScVal`, and `scValToNative` as a truth value. -/
structure Sdk where
  addressFromScVal : ScVal → Except WatchErr String
  scValToBoolean : ScVal → Except WatchErr Bool

/-! ## Parsed events -/

/-- What a topic name is mapped to: one of the four known types, or, for a name
that every object inherits, the property of that name. -/
inductive ChannelAuthEventType
  | contractInitialized
  | providerAdded
  | providerRemoved
  | channelStateChanged
  | inherited (property : String)
  deriving DecidableEq

/-- One of the four types of the declaration. -/
def ChannelAuthEventType.isKnown : ChannelAuthEventType → Bool
  | .inherited _ => false
  | _ => true

structure ChannelAuthEvent where
  type : ChannelAuthEventType
  address : String
  ledger : Ledger
  contractId : ContractId
  /-- The privacy-channel contract. -/
  channel : Option ContractId := none
  asset : Option ContractId := none
  enabled : Option Bool := none
  deriving DecidableEq

/-! ## The RPC -/

structure EventFilter where
  contractIds : List ContractId
  deriving DecidableEq

structure EventsPage where
  events : List RawEvent
  latestLedger : Ledger
  deriving DecidableEq

/-- What the RPC server answers at one moment. -/
structure RpcView where
  latestLedger : Ledger
  oldestLedger : Ledger
  getEvents : Ledger → List EventFilter → Except WatchErr EventsPage

end ProviderPlatform
