import ProviderPlatform.Async.Pool
import ProviderPlatform.Executor.ChannelResolver
import ProviderPlatform.Providers.SecretKeys
import ProviderPlatform.Runtime.Text

/-! # Registering and deleting PPs

`POST /dashboard/pp/register` and `DELETE /providers/:ppPublicKey`, the only
writers of the PPs, with the keys that they store. An operator who is signed in
registers the secret key of a PP, which becomes theirs; the middleware lets only
its owner delete it. -/
namespace ProviderPlatform
namespace PpCustody
open Async Store Encoding

/-! ## The process -/

/-- What the handlers are configured with: Web Crypto, the public key of a Stellar
secret key, and the secret that the stored keys are encrypted under. -/
structure PpEnv where
  web : WebPlatform
  fromSecret : String → Except Err PublicKey
  serviceAuthSecret : String

structure PpRow extends PpAccount where
  id : String
  derivationIndex : Int
  ownerPublicKey : Option PublicKey
  kycSubmissionUrl : Option String
  deriving DecidableEq

structure PpState where
  clock : Time
  paymentProviders : Table fun row : PpRow => row.publicKey
  councilMemberships : Table CouncilMembership.id
  registeredProviders : List PublicKey
  uuid : Nat → String
  uuids : Nat
  random : Nat → UInt8
  randoms : Nat

/-- The body, as far as its fields have the type they should have. -/
structure RegisterBody where
  secretKey : Option String
  derivationIndex : Option Int
  label : Option String
  kycSubmissionUrl : Option String
  deriving DecidableEq

/-- What is inserted; a missing index is refused by the database. -/
structure NewPaymentProvider where
  id : String
  publicKey : PublicKey
  encryptedSk : String
  derivationIndex : Option Int
  ownerPublicKey : PublicKey
  label : Option String
  kycSubmissionUrl : Option String
  deriving DecidableEq

inductive PpOp
  | getRandomValues (length : Nat)
  | randomUUID
  | addProviderAddress (publicKey : PublicKey)
  | removeProviderAddress (publicKey : PublicKey)

@[reducible] def PpOp.Out : PpOp → Type
  | getRandomValues _ => Encoding.Bytes
  | randomUUID => String
  | addProviderAddress _ => Unit
  | removeProviderAddress _ => Unit

inductive PpReq
  | readBody (body : RegisterBody)
  | findByPublicKey (publicKey : PublicKey)
  | findByPublicKeyAndOwner (publicKey ownerPublicKey : PublicKey)
  | activate (id : String)
  | deriveKey (material salt : Encoding.Bytes)
  | encrypt (key iv plaintext : Encoding.Bytes)
  | create (data : NewPaymentProvider)
  | listAllForPp (ppPublicKey : PublicKey)
  | deleteMembership (id : String)
  | hardDelete (id : String)

@[reducible] def PpReq.Ans : PpReq → Type
  | readBody _ => RegisterBody
  | findByPublicKey _ => Option PpRow
  | findByPublicKeyAndOwner _ _ => Option PpRow
  | activate _ => Unit
  | deriveKey _ _ => Encoding.Bytes
  | encrypt _ _ _ => Encoding.Bytes
  | create _ => PpRow
  | listAllForPp _ => List CouncilMembership
  | deleteMembership _ => Unit
  | hardDelete _ => Unit

abbrev ppPlatform : Interface := ⟨PpOp, PpOp.Out, PpReq, PpReq.Ans, Err⟩

abbrev PpPromise (α : Type) := Task ppPlatform α

namespace PpState

def setProviders (s : PpState) (t : Table fun row : PpRow => row.publicKey) : PpState :=
  { s with paymentProviders := t }

/-- The next random bytes. -/
def randomBytes (s : PpState) (length : Nat) : Encoding.Bytes :=
  (List.range length).map fun i => s.random (s.randoms + i)

/-- The rows as the resolver of channels reads them. -/
def fleet (s : PpState) : Fleet where
  paymentProviders :=
    ⟨s.paymentProviders.rows.map (·.toPpAccount), by
      rw [List.map_map]
      exact s.paymentProviders.nodup⟩
  councilMemberships := s.councilMemberships

end PpState

def runPpOp : (o : PpOp) → PpState → o.Out × PpState
  | .getRandomValues length, s => (s.randomBytes length, { s with randoms := s.randoms + length })
  | .randomUUID, s => (s.uuid s.uuids, { s with uuids := s.uuids + 1 })
  | .addProviderAddress publicKey, s =>
    ((), { s with registeredProviders := s.registeredProviders.insert publicKey })
  | .removeProviderAddress publicKey, s =>
    ((), { s with registeredProviders := s.registeredProviders.filter (· != publicKey) })

/-- The row that is inserted. -/
def NewPaymentProvider.row (data : NewPaymentProvider) (derivationIndex : Int) : PpRow where
  publicKey := data.publicKey
  label := data.label
  encryptedSk := data.encryptedSk
  isActive := true
  id := data.id
  derivationIndex := derivationIndex
  ownerPublicKey := some data.ownerPublicKey
  kycSubmissionUrl := data.kycSubmissionUrl

/-- The insert: the id is the primary key, the public key is unique, and the
index may not be missing. -/
def insertProvider (t : Table fun row : PpRow => row.publicKey) (data : NewPaymentProvider) :
    Option (PpRow × Table fun row : PpRow => row.publicKey) := do
  let derivationIndex ← data.derivationIndex
  if t.rows.any (·.id == data.id) then none
  else do
    let t' ← t.insert? (data.row derivationIndex)
    pure (data.row derivationIndex, t')

def servePp (env : PpEnv) : (q : PpReq) → PpState → Except Err q.Ans × PpState
  | .readBody body, s => (.ok body, s)
  | .findByPublicKey publicKey, s => (.ok (s.paymentProviders.find publicKey), s)
  | .findByPublicKeyAndOwner publicKey ownerPublicKey, s =>
    (.ok ((s.paymentProviders.find publicKey).filter
      (·.ownerPublicKey == some ownerPublicKey)), s)
  | .activate id, s =>
    (.ok (), s.setProviders (s.paymentProviders.update (·.id == id)
      (fun row => { row with isActive := true }) fun _ => rfl))
  | .deriveKey material salt, s => (.ok (env.web.deriveKey material salt), s)
  | .encrypt key iv plaintext, s => (.ok (env.web.encrypt key iv plaintext), s)
  | .create data, s =>
    match insertProvider s.paymentProviders data with
    | some (row, t) => (.ok row, s.setProviders t)
    | none => (.error constraintViolation, s)
  | .listAllForPp ppPublicKey, s =>
    (.ok (s.councilMemberships.select fun row =>
      row.ppPublicKey == ppPublicKey && row.deletedAt.isNone), s)
  | .deleteMembership id, s =>
    let memberships := s.councilMemberships.update (·.id == id)
      (fun row => { row with deletedAt := some s.clock }) fun _ => rfl
    (.ok (), { s with councilMemberships := memberships })
  | .hardDelete id, s => (.ok (), s.setProviders (s.paymentProviders.filter (·.id != id)))

def ppHost (env : PpEnv) : Host ppPlatform PpState where
  runOp := runPpOp
  serve := servePp env
  pass n s := { s with clock := s.clock + n }

/-! ## The handlers -/

structure PpReply where
  status : Nat
  message : String
  data : Option (PublicKey × Bool) := none
  deriving DecidableEq

def ppCall (q : PpReq) : PpPromise q.Ans := Task.call (I := ppPlatform) q

def ppRun (o : PpOp) : PpPromise o.Out := Task.op (I := ppPlatform) o

/-- Encrypt a secret key for storage. -/
def encryptSk (plaintext secret : String) : PpPromise String := do
  let salt : Encoding.Bytes ← ppRun (.getRandomValues saltLength)
  let key : Encoding.Bytes ← ppCall (.deriveKey (encodeText secret) salt)
  let iv : Encoding.Bytes ← ppRun (.getRandomValues ivLength)
  let encrypted : Encoding.Bytes ← ppCall (.encrypt key iv (encodeText plaintext))
  pure (sealedSk salt iv encrypted)

def activateProvider (publicKey : PublicKey) (existing : PpRow) : PpPromise Unit :=
  if existing.isActive then pure ()
  else do
    ppCall (.activate existing.id)
    ppRun (.addProviderAddress publicKey)

/-- The PP is registered already: it stays its owner's, and is active again. -/
def reactivate (ownerPublicKey publicKey : PublicKey) (existing : PpRow) : PpPromise PpReply :=
  if (existing.ownerPublicKey.filter (· != "")).any (· != ownerPublicKey) then
    pure { status := 403, message := "This provider belongs to another user" }
  else do
    activateProvider publicKey existing
    pure { status := 200, message := "Provider already registered", data := some (publicKey, true) }

/-- What is inserted for a request. -/
def RegisterBody.provider (body : RegisterBody) (id encryptedSk : String)
    (publicKey ownerPublicKey : PublicKey) : NewPaymentProvider where
  id := id
  publicKey := publicKey
  encryptedSk := encryptedSk
  derivationIndex := body.derivationIndex
  ownerPublicKey := ownerPublicKey
  label := body.label.map fun label => String.ofList (jsTrim label.toList)
  kycSubmissionUrl :=
    (body.kycSubmissionUrl.map fun url => String.ofList (jsTrim url.toList)).filter (· != "")

def createProvider (env : PpEnv) (ownerPublicKey publicKey : PublicKey) (secretKey : String)
    (body : RegisterBody) : PpPromise PpReply := do
  let encrypted ← encryptSk secretKey env.serviceAuthSecret
  let id : String ← ppRun .randomUUID
  let pp : PpRow ← ppCall (.create (body.provider id encrypted publicKey ownerPublicKey))
  ppRun (.addProviderAddress publicKey)
  pure { status := 200, message := "Provider registered", data := some (pp.publicKey, pp.isActive) }

/-- The handler up to its `catch`. -/
def tryRegisterPp (env : PpEnv) (ownerPublicKey : PublicKey) (body : RegisterBody) :
    PpPromise PpReply := do
  let body : RegisterBody ← ppCall (.readBody body)
  match body.secretKey.filter (· != "") with
  | none => pure { status := 400, message := "secretKey is required" }
  | some secretKey =>
    match env.fromSecret secretKey with
    | .error _ => pure { status := 400, message := "Invalid Stellar secret key" }
    | .ok publicKey => do
      let existing : Option PpRow ← ppCall (.findByPublicKey publicKey)
      match existing with
      | some existing => reactivate ownerPublicKey publicKey existing
      | none => createProvider env ownerPublicKey publicKey secretKey body

def handleRegisterPp (env : PpEnv) (ownerPublicKey : PublicKey) (body : RegisterBody) :
    PpPromise PpReply :=
  (tryRegisterPp env ownerPublicKey body).recover fun _ =>
    pure { status := 500, message := "Failed to register provider" }

/-- The PP of the path, if the operator who is signed in owns it. -/
def requirePpOwnership (sub ppPublicKey : PublicKey) (next : PpRow → PpPromise PpReply) :
    PpPromise PpReply :=
  if ppPublicKey = "" then
    pure { status := 400, message := "ppPublicKey is required in URL path" }
  else if sub = "" then pure { status := 401, message := "Authentication required" }
  else do
    let pp : Option PpRow ← ppCall (.findByPublicKeyAndOwner ppPublicKey sub)
    match pp with
    | none => pure { status := 404, message := "Provider not found" }
    | some pp => next pp

def handleDeletePp (pp : PpRow) : PpPromise PpReply :=
  Task.recover (I := ppPlatform)
    (do
      ppRun (.removeProviderAddress pp.publicKey)
      let memberships : List CouncilMembership ← ppCall (.listAllForPp pp.publicKey)
      Task.forEach (fun m => ppCall (.deleteMembership m.id)) memberships
      ppCall (.hardDelete pp.id)
      pure { status := 200, message := "Provider deleted" })
    fun _ => pure { status := 500, message := "Failed to delete provider" }

/-! ## The machine -/

/-- A request of an operator who is signed in. The number tells one delete from
another; nothing reads it. -/
inductive PpCall
  | launch
  | registerPp (sub : PublicKey) (body : RegisterBody)
  | deletePp (number : Nat) (sub ppPublicKey : PublicKey)
  deriving DecidableEq

def PpCall.program (env : PpEnv) : PpCall → PpPromise Unit
  | .launch => pure ()
  | .registerPp sub body => do
    let _ ← handleRegisterPp env sub body
    pure ()
  | .deletePp _ sub ppPublicKey => do
    let _ ← requirePpOwnership sub ppPublicKey handleDeletePp
    pure ()

/-- What else moves: time, and the memberships, which the councils write. -/
inductive PpDrift
  | elapse (ms : Nat)
  | councilMemberships (memberships : Table CouncilMembership.id)

def ppMachine (env : PpEnv) : Machine ppPlatform PpState PpCall PpDrift where
  host := ppHost env
  program := PpCall.program env
  startable _ _ := true
  boot := .launch
  drift
    | .elapse ms, s => { s with clock := s.clock + ms }
    | .councilMemberships memberships, s => { s with councilMemberships := memberships }
  reboot s := { s with registeredProviders := [] }

end PpCustody
end ProviderPlatform
