import ProviderPlatform.Async.Ownership
import ProviderPlatform.Bundle.Types
import ProviderPlatform.Store.Table

/-! # Challenges of wallet owners

The operator login of the dashboard and the KYC submission of an entity each
keep a store of pending challenges in memory. A challenge is looked up, checked
and deleted before the verification first awaits anything, so that part is one
synchronous operation; the signature checks, the request to Horizon and the
token come after it. -/
namespace ProviderPlatform
open Async Store

/-! ## The stores -/

structure PendingChallenge where
  nonce : String
  publicKey : PublicKey
  createdAt : Time
  deriving DecidableEq

/-- The pending challenges by their nonce. -/
abbrev ChallengeStore := Table PendingChallenge.nonce

def maxPendingChallenges : Nat := 1000

/-- Which of the two stores. -/
inductive Surface
  | dashboard
  | entity
  deriving DecidableEq

/-- What the lookup of a challenge comes to. -/
inductive Consumption
  | notFound
  | expired
  | mismatch
  | consumed
  deriving DecidableEq

def PendingChallenge.isExpired (challengeTtlMs now : Time) (challenge : PendingChallenge) : Bool :=
  decide (now - challenge.createdAt > challengeTtlMs)

namespace ChallengeStore

/-- Drop the challenges that have expired. -/
def cleanupExpired (store : ChallengeStore) (challengeTtlMs now : Time) : ChallengeStore :=
  store.filter fun challenge => !challenge.isExpired challengeTtlMs now

def delete (store : ChallengeStore) (nonce : String) : ChallengeStore :=
  store.filter fun challenge => challenge.nonce != nonce

/-- Store a fresh challenge, unless too many are pending. -/
def create (store : ChallengeStore) (challengeTtlMs now : Time) (nonce : String)
    (publicKey : PublicKey) : Bool × ChallengeStore :=
  let pending := store.cleanupExpired challengeTtlMs now
  if pending.rows.length ≥ maxPendingChallenges then (false, pending)
  else (true, pending.upsert ⟨nonce, publicKey, now⟩)

/-- Look a challenge up for a public key; consume it if it is good. -/
def consume (store : ChallengeStore) (challengeTtlMs now : Time) (nonce : String)
    (publicKey : PublicKey) : Consumption × ChallengeStore :=
  match store.find nonce with
  | none => (.notFound, store)
  | some challenge =>
    if challenge.isExpired challengeTtlMs now then (.expired, store.delete nonce)
    else if challenge.publicKey ≠ publicKey then (.mismatch, store)
    else (.consumed, store.delete nonce)

end ChallengeStore

/-! ## The environment -/

abbrev Bytes := List UInt8

/-- The public keys, signatures, digests and encodings of the SDK and the
platform, and the signer of tokens; a check of a signature may throw. -/
structure AuthEnv where
  ttl : Surface → Time
  isPublicKey : PublicKey → Bool
  verify : PublicKey → Bytes → Bytes → Except Err Bool
  utf8 : String → Bytes
  hex : String → Bytes
  base64 : String → Bytes
  hexDigits : Bytes → String
  sha256 : Bytes → Bytes
  token : PublicKey → String → String

/-- The signers of an account, by their weight. -/
abbrev Signers := List (PublicKey × Nat)

/-- A source of random nonces that gives out none twice. -/
structure NonceSource where
  draw : Nat → String
  fresh : Function.Injective draw

/-- A nonce that was given out, or one that was verified, with the moment of
the call. -/
structure Ticket where
  surface : Surface
  nonce : String
  publicKey : PublicKey
  time : Time
  deriving DecidableEq

structure AuthState where
  clock : Time
  /-- What Horizon answers; nothing where the answer is not `ok`. -/
  account : String → PublicKey → Option Signers
  source : NonceSource
  draws : Nat
  pending : Surface → ChallengeStore
  issued : List Ticket
  verified : List Ticket

inductive AuthOp
  | now
  | create (surface : Surface) (publicKey : PublicKey)
  | consume (surface : Surface) (nonce : String) (publicKey : PublicKey)
  | noteVerified (ticket : Ticket)

@[reducible] def AuthOp.Out : AuthOp → Type
  | now => Time
  | create _ _ => Option String
  | consume _ _ _ => Consumption
  | noteVerified _ => Unit

inductive AuthReq
  | digest (payload : Bytes)
  | fetchAccount (horizonUrl : String) (accountId : PublicKey)
  | generateToken (subject : PublicKey) (sessionId : String)

@[reducible] def AuthReq.Ans : AuthReq → Type
  | digest _ => Bytes
  | fetchAccount _ _ => Option Signers
  | generateToken _ _ => String

abbrev authPlatform : Interface := ⟨AuthOp, AuthOp.Out, AuthReq, AuthReq.Ans, Err⟩

abbrev AuthPromise (α : Type) := Task authPlatform α

namespace AuthState

def setPending (s : AuthState) (surface : Surface) (store : ChallengeStore) : AuthState :=
  { s with pending := Function.update s.pending surface store }

@[simp] theorem setPending_self (s : AuthState) (surface : Surface) (store : ChallengeStore) :
    (s.setPending surface store).pending surface = store := Function.update_self ..

theorem setPending_of_ne (s : AuthState) {surface other : Surface} (store : ChallengeStore)
    (h : other ≠ surface) : (s.setPending surface store).pending other = s.pending other :=
  Function.update_of_ne h _ _

end AuthState

def runAuthOp (env : AuthEnv) : (o : AuthOp) → AuthState → o.Out × AuthState
  | .now, s => (s.clock, s)
  | .create surface publicKey, s =>
    let nonce := s.source.draw s.draws
    match (s.pending surface).create (env.ttl surface) s.clock nonce publicKey with
    | (false, pending) => (none, s.setPending surface pending)
    | (true, pending) =>
      (some nonce, { s.setPending surface pending with
        draws := s.draws + 1
        issued := s.issued ++ [⟨surface, nonce, publicKey, s.clock⟩] })
  | .consume surface nonce publicKey, s =>
    let r := (s.pending surface).consume (env.ttl surface) s.clock nonce publicKey
    (r.1, s.setPending surface r.2)
  | .noteVerified ticket, s => ((), { s with verified := s.verified ++ [ticket] })

def serveAuth (env : AuthEnv) : (q : AuthReq) → AuthState → Except Err q.Ans × AuthState
  | .digest payload, s => (.ok (env.sha256 payload), s)
  | .fetchAccount horizonUrl accountId, s => (.ok (s.account horizonUrl accountId), s)
  | .generateToken subject sessionId, s => (.ok (env.token subject sessionId), s)

def authHost (env : AuthEnv) : Host authPlatform AuthState where
  runOp := runAuthOp env
  serve := serveAuth env
  pass n s := { s with clock := s.clock + n }

/-! ## Signatures -/

/-- `/^[0-9a-f]+$/i` -/
def isHex (text : String) : Bool :=
  !text.isEmpty && text.toList.all fun c =>
    c.isDigit || ('a' ≤ c && c ≤ 'f') || ('A' ≤ c && c ≤ 'F')

def AuthEnv.sigBuffer (env : AuthEnv) (signature : String) : Bytes :=
  if isHex signature then env.hex signature else env.base64 signature

/-- A length as four bytes, the highest first. -/
def uint32BE (n : Nat) : Bytes :=
  [24, 16, 8, 0].map fun shift => UInt8.ofNat (n / 2 ^ shift)

def AuthEnv.sep43Payload (env : AuthEnv) (nonce : String) : Bytes :=
  [0, 0] ++ uint32BE (env.utf8 nonce).length ++ env.utf8 nonce

def AuthEnv.sep53Payload (env : AuthEnv) (nonce : String) : Bytes :=
  env.utf8 "Stellar Signed Message:\n" ++ env.utf8 nonce

/-- The signature is one of the key over the nonce, in one of three formats. -/
def checkSignature (env : AuthEnv) (publicKey : PublicKey) (nonce signature : String) :
    AuthPromise Bool := do
  if !env.isPublicKey publicKey then Task.fail (.error "invalid public key")
  else
    let sigBuffer := env.sigBuffer signature
    let sep43Hash ← Task.call (AuthReq.digest (env.sep43Payload nonce))
    let sep43 ← Task.done (env.verify publicKey sep43Hash sigBuffer)
    if sep43 then pure true
    else
      let sep53Hash ← Task.call (AuthReq.digest (env.sep53Payload nonce))
      let sep53 ← Task.done (env.verify publicKey sep53Hash sigBuffer)
      if sep53 then pure true
      else Task.done (env.verify publicKey (env.base64 nonce) sigBuffer)

/-- False on any error. -/
def verifyStellarSignature (env : AuthEnv) (publicKey : PublicKey) (nonce signature : String) :
    AuthPromise Bool :=
  (checkSignature env publicKey nonce signature).recover fun _ => pure false

/-! ## The entity's challenge -/

def tooManyPending : Err := .error "Too many pending challenges. Try again later."

def createEntityChallenge (publicKey : PublicKey) : AuthPromise String := do
  match ← Task.op (I := authPlatform) (.create .entity publicKey) with
  | some nonce => pure nonce
  | none => Task.fail tooManyPending

/-- Verify an entity's challenge, which is consumed if it is good. -/
def verifyEntityChallenge (env : AuthEnv) (publicKey : PublicKey) (nonce signature : String) :
    AuthPromise Bool := do
  match ← Task.op (I := authPlatform) (.consume .entity nonce publicKey) with
  | .consumed => verifyStellarSignature env publicKey nonce signature
  | _ => pure false

/-! ## The operator's challenge -/

def createDashboardChallenge (publicKey : PublicKey) : AuthPromise String := do
  match ← Task.op (I := authPlatform) (.create .dashboard publicKey) with
  | some nonce => pure nonce
  | none => Task.fail tooManyPending

structure DashboardAuthConfig where
  providerPublicKey : PublicKey
  horizonUrl : Option String

/-- The key is the account itself, or one of its signers. -/
def isAuthorizedSigner (signerKey accountId : PublicKey) (horizonUrl : Option String) :
    AuthPromise Bool :=
  if signerKey = accountId then pure true
  else match horizonUrl.filter (· != "") with
    | none => pure false
    | some url =>
      (do
        match ← Task.call (I := authPlatform) (.fetchAccount url accountId) with
        | none => pure false
        | some signers => pure (signers.any fun s => s.1 == signerKey && decide (s.2 > 0))
        ).recover fun _ => pure false

/-- Verify a signed challenge and issue a session token. -/
def verifyDashboardChallenge (env : AuthEnv) (nonce signature : String) (publicKey : PublicKey)
    (config : DashboardAuthConfig) : AuthPromise String := do
  match ← Task.op (I := authPlatform) (.consume .dashboard nonce publicKey) with
  | .notFound => Task.fail (.error "Challenge not found or expired")
  | .expired => Task.fail (.error "Challenge expired")
  | .mismatch => Task.fail (.error "Public key mismatch")
  | .consumed =>
    let valid ← verifyStellarSignature env publicKey nonce signature
    if !valid then Task.fail (.error "Invalid signature")
    else
      let isAuth ← isAuthorizedSigner publicKey config.providerPublicKey config.horizonUrl
      if !isAuth then Task.fail (.error "Signer is not authorized on the provider account")
      else
        let hashBytes ← Task.call (I := authPlatform) (.digest (env.utf8 nonce))
        Task.call (I := authPlatform) (.generateToken publicKey (env.hexDigits (hashBytes.take 16)))

/-! ## The process -/

/-- The calls of the process. -/
inductive AuthCall
  | idle
  | create (surface : Surface) (publicKey : PublicKey)
  | verifyDashboard (nonce signature : String) (publicKey : PublicKey)
      (config : DashboardAuthConfig)
  | verifyEntity (publicKey : PublicKey) (nonce signature : String)

/-- A call; a verification notes the moment it was started when it succeeds. -/
def AuthCall.program (env : AuthEnv) : AuthCall → AuthPromise Unit
  | .idle => pure ()
  | .create .dashboard publicKey => do
    let _ ← createDashboardChallenge publicKey
    pure ()
  | .create .entity publicKey => do
    let _ ← createEntityChallenge publicKey
    pure ()
  | .verifyDashboard nonce signature publicKey config => do
    let startedAt ← Task.op (I := authPlatform) .now
    let _ ← verifyDashboardChallenge env nonce signature publicKey config
    Task.op (I := authPlatform) (.noteVerified ⟨.dashboard, nonce, publicKey, startedAt⟩)
  | .verifyEntity publicKey nonce signature => do
    let startedAt ← Task.op (I := authPlatform) .now
    let sigOk ← verifyEntityChallenge env publicKey nonce signature
    if sigOk then Task.op (I := authPlatform) (.noteVerified ⟨.entity, nonce, publicKey, startedAt⟩)
    else pure ()

inductive AuthDrift
  | elapse (ms : Nat)
  | horizon (account : String → PublicKey → Option Signers)

/-- The stores are lost with the process, and time only passes. -/
def authProcess (env : AuthEnv) : Machine authPlatform AuthState AuthCall AuthDrift where
  host := authHost env
  program := AuthCall.program env
  startable _ _ := true
  boot := .idle
  drift
    | .elapse ms, s => { s with clock := s.clock + ms }
    | .horizon account, s => { s with account := account }
  reboot s := { s with pending := fun _ => .empty }

/-! ## A small installation -/

namespace Small

/-- Signatures that are all good, and nonces that are unary numbers. -/
def authEnv : AuthEnv where
  ttl _ := 300000
  isPublicKey _ := true
  verify _ _ _ := .ok true
  utf8 _ := []
  hex _ := []
  base64 _ := []
  hexDigits _ := "00"
  sha256 payload := payload
  token subject _ := subject

def nonces : NonceSource where
  draw n := String.ofList (List.replicate (n + 1) 'n')
  fresh n m h := by
    have hlen := congrArg (fun text : String => text.toList.length) h
    simpa using hlen

def authState : AuthState where
  clock := 0
  account _ _ := none
  source := nonces
  draws := 0
  pending _ := .empty
  issued := []
  verified := []

end Small

end ProviderPlatform
