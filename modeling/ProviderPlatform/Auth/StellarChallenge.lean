import ProviderPlatform.Entities.PostEntity

/-! # The wallet's login

`GET` and `POST /stellar/auth`: the service hands out a challenge, which is a
Stellar transaction that it has signed, and gives a token to the wallet that
posts it back with its own signature. The token is made before the session is
written, and answered after it. -/
namespace ProviderPlatform
open Async Store

/-! ## Challenge transactions -/

structure TimeBounds where
  minTime : Nat
  maxTime : Nat
  deriving DecidableEq

inductive StellarOperation
  | manageData (source : Option PublicKey) (name : String) (value : Option String)
  | other (type : String) (source : Option PublicKey)
  deriving DecidableEq

/-- What the hash of a transaction is taken of; `extra` is the memo and the
preconditions that nothing here looks at. -/
structure StellarPayload where
  source : PublicKey
  sequence : String
  fee : String
  timeBounds : Option TimeBounds
  operations : List StellarOperation
  extra : String := ""
  deriving DecidableEq

structure StellarTransaction where
  payload : StellarPayload
  signatures : List Bytes
  deriving DecidableEq

/-- An envelope in base64, as the SDK decodes it. -/
inductive EnvelopeXdr
  | malformed
  | feeBump
  | transaction (tx : StellarTransaction)
  deriving DecidableEq

structure JwtPayload where
  iss : String
  sub : PublicKey
  iat : Int
  exp : Int
  sessionId : String
  deriving DecidableEq

/-! ## Errors -/

inductive StellarErr
  | invalidPayload (issues : List Issue)
  | failedToParseBody (error : StellarErr)
  | invalidQueryParams (issues : List Issue)
  | failedToCreateChallenge (error : StellarErr)
  | invalidSequenceNumber (sequence : String)
  | missingTimeBounds
  | wrongOperationType (expectedType actualType : String)
  | operationKeyMismatch (expectedKey actualKey : String)
  | challengeTooEarly (currentTime : Int) (minTime : Nat)
  | challengeExpired (currentTime : Int) (maxTime : Nat)
  | missingClientAccount
  | missingServerSignature
  | missingClientSignature
  | challengeVerificationFailed (error : StellarErr)
  | challengeIsNotTransaction
  | challengeNotFound (challengeId : String)
  | missingNonceOperation
  | missingNonce
  | nonceMismatch (expectedNonce providedNonce : String)
  | clientAccountMismatch (expectedAccount providedAccount : PublicKey)
  | challengeTtlMismatch (expectedTtl providedTtl : Time)
  | challengeHasNoOperations (sessionId : String)
  | challengeNotFoundInDatabase (challengeId : String)
  | failedToStoreChallengeInDatabase (error : StellarErr)
  | failedToCacheChallengeInLiveSessions (error : StellarErr)
  | sessionAlreadyExists (sessionId : String)
  | typeError (message : String)
  | sdk (message : String)
  | database (message : String)

/-- The errors that carry an answer of their own. -/
def StellarErr.isPlatformError : StellarErr → Bool
  | typeError _ | sdk _ | database _ => false
  | _ => true

/-! ## The environment -/

/-- The configuration, the SDK and the signer of tokens. -/
structure StellarEnv where
  serviceDomain : String
  /-- In seconds. -/
  challengeTtl : Nat
  sessionTtl : Nat
  providerKey : PublicKey
  decode : String → EnvelopeXdr
  hash : StellarPayload → String
  /-- The provider's signature of a hash. -/
  sign : String → Bytes
  verify : PublicKey → String → Bytes → Bool
  isEd25519PublicKey : String → Bool
  /-- The regular expression of the query, which does not check the checksum. -/
  matchesPublicKey : String → Bool
  /-- `Date.prototype.toDateString`, in the time zone of the server. -/
  toDateString : Time → String
  token : JwtPayload → String
  /-- The subject of a decoded token, if it has one. -/
  subject : String → Except StellarErr (Option PublicKey)

/-! ## The tables -/

inductive ChallengeStatus
  | verified
  | unverified
  deriving DecidableEq

structure Challenge where
  id : String
  accountId : AccountId
  status : ChallengeStatus
  ttl : Time
  txHash : String
  txXDR : EnvelopeXdr
  updatedAt : Time
  deriving DecidableEq

inductive SessionStatus
  | active
  | inactive
  deriving DecidableEq

structure WalletSession where
  id : String
  status : SessionStatus
  accountId : AccountId
  jwtToken : Option String
  createdAt : Time
  updatedAt : Time
  deriving DecidableEq

structure KycListing where
  publicKey : PublicKey
  kycSubmissionUrl : Option String
  deriving DecidableEq

/-- A handshake that is kept in memory. -/
structure LiveSession where
  txHash : String
  clientAccount : Option PublicKey
  requestId : String
  expiresAt : Time
  status : String
  deriving DecidableEq

abbrev LiveSessions := Table LiveSession.txHash

namespace LiveSessions

/-- The session if it has not expired; one that has is dropped. -/
def get (sessions : LiveSessions) (now : Time) (txHash : String) :
    Option LiveSession × LiveSessions :=
  match (sessions.find txHash).filter fun session => now < session.expiresAt with
  | some session => (some session, sessions)
  | none => (none, sessions.filter (·.txHash != txHash))

/-- Replace a session that is there; nobody waits for the failure of this. -/
def update (sessions : LiveSessions) (now : Time) (session : LiveSession) : LiveSessions :=
  match sessions.get now session.txHash with
  | (some _, sessions) => sessions.upsert session
  | (none, sessions) => sessions

def cleanupExpired (sessions : LiveSessions) (now : Time) : LiveSessions :=
  sessions.filter fun session => !decide (session.expiresAt < now)

end LiveSessions

/-! ## The process -/

structure PostAuthBody where
  signedChallenge : String
  ppPublicKey : PublicKey
  deriving DecidableEq

structure PostAuthData where
  jwt : String
  entityStatus : EntityStatus
  kycSubmissionUrl : Option String
  deriving DecidableEq

/-- A request that was answered with a token, and when its time bounds were
checked. -/
structure Answered where
  body : PostAuthBody
  data : PostAuthData
  verifiedAt : Time
  deriving DecidableEq

structure StellarState where
  clock : Time
  challenges : Table Challenge.id
  accounts : Table Account.id
  entities : Table Entity.id
  sessions : Table WalletSession.id
  paymentProviders : Table KycListing.publicKey
  approvals : Table PpEntityApproval.key
  live : LiveSessions
  uuid : Nat → String
  uuids : Nat
  nonce : Nat → String
  nonces : Nat
  /-- Nothing in the code reads it. -/
  answered : List Answered

inductive StellarOp
  | now
  | randomUUID
  | randomNonce
  | getSession (txHash : String)
  | addSession (session : LiveSession)
  | updateSession (session : LiveSession)
  | noteAnswered (answer : Answered)

@[reducible] def StellarOp.Out : StellarOp → Type
  | now => Time
  | randomUUID => String
  | randomNonce => String
  | getSession _ => Option LiveSession
  | _ => Unit

inductive StellarReq
  | readBody (raw : Option Json)
  | signJwt (payload : JwtPayload)
  | findOneByTxHash (txHash : String)
  | createChallenge (row : Challenge)
  | updateChallenge (id : String) (row : Challenge)
  | findAccountById (id : AccountId)
  | createEntity (id : String)
  | createAccount (id : AccountId) (entityId : String)
  | createSession (row : WalletSession)
  | findByPublicKey (publicKey : PublicKey)
  | findByPpAndAccount (ppPublicKey : PublicKey) (accountPubkey : AccountId)
  | recordInteraction (ppPublicKey : PublicKey) (accountPubkey : AccountId)

@[reducible] def StellarReq.Ans : StellarReq → Type
  | readBody _ => Json
  | signJwt _ => String
  | findOneByTxHash _ => Option Challenge
  | findAccountById _ => Option Account
  | findByPublicKey _ => Option KycListing
  | findByPpAndAccount _ _ => Option PpEntityApproval
  | _ => Unit

abbrev stellarPlatform : Interface :=
  ⟨StellarOp, StellarOp.Out, StellarReq, StellarReq.Ans, StellarErr⟩

abbrev StellarPromise (α : Type) := Task stellarPlatform α

def runStellarOp : (o : StellarOp) → StellarState → o.Out × StellarState
  | .now, s => (s.clock, s)
  | .randomUUID, s => (s.uuid s.uuids, { s with uuids := s.uuids + 1 })
  | .randomNonce, s => (s.nonce s.nonces, { s with nonces := s.nonces + 1 })
  | .getSession txHash, s =>
    let r := s.live.get s.clock txHash
    (r.1, { s with live := r.2 })
  | .addSession session, s => ((), { s with live := s.live.upsert session })
  | .updateSession session, s => ((), { s with live := s.live.update s.clock session })
  | .noteAnswered answer, s => ((), { s with answered := s.answered ++ [answer] })

def violation : StellarErr := .database "constraint violation"

/-- What a request does once it is served; the hash of a challenge is unique. -/
def serveStellar (env : StellarEnv) :
    (q : StellarReq) → StellarState → Except StellarErr q.Ans × StellarState
  | .readBody raw, s =>
    match raw with
    | some raw => (.ok raw, s)
    | none => (.error (.sdk "invalid JSON"), s)
  | .signJwt payload, s => (.ok (env.token payload), s)
  | .findOneByTxHash txHash, s => (.ok (s.challenges.select (·.txHash == txHash)).head?, s)
  | .createChallenge row, s =>
    if s.challenges.rows.any (·.txHash == row.txHash) ∨ s.accounts.find row.accountId = none then
      (.error violation, s)
    else match s.challenges.insert? row with
      | some challenges => (.ok (), { s with challenges := challenges })
      | none => (.error violation, s)
  | .updateChallenge id row, s =>
    let challenges := s.challenges.update (·.id == id)
      (fun old => { row with id := old.id, updatedAt := s.clock }) fun _ => rfl
    (.ok (), { s with challenges := challenges })
  | .findAccountById id, s => (.ok ((s.accounts.find id).filter (·.deletedAt.isNone)), s)
  | .createEntity id, s =>
    match s.entities.insert? ⟨id, none, none, none⟩ with
    | some entities => (.ok (), { s with entities := entities })
    | none => (.error violation, s)
  | .createAccount id entityId, s =>
    if s.entities.find entityId = none then (.error violation, s)
    else match s.accounts.insert? ⟨id, entityId, none⟩ with
      | some accounts => (.ok (), { s with accounts := accounts })
      | none => (.error violation, s)
  | .createSession row, s =>
    if s.accounts.find row.accountId = none then (.error violation, s)
    else match s.sessions.insert? row with
      | some sessions => (.ok (), { s with sessions := sessions })
      | none => (.error violation, s)
  | .findByPublicKey publicKey, s => (.ok (s.paymentProviders.find publicKey), s)
  | .findByPpAndAccount ppPublicKey accountPubkey, s =>
    (.ok ((s.approvals.find (ppPublicKey, accountPubkey)).filter (·.deletedAt.isNone)), s)
  | .recordInteraction ppPublicKey accountPubkey, s =>
    match s.approvals.insert? ⟨ppPublicKey, accountPubkey, .unverified, s.clock, none⟩ with
    | some approvals => (.ok (), { s with approvals := approvals })
    | none =>
      let approvals := s.approvals.update
        (fun row => row.key == (ppPublicKey, accountPubkey) && row.status == .unverified)
        (fun row => { row with updatedAt := s.clock }) fun _ => rfl
      (.ok (), { s with approvals := approvals })

def stellarHost (env : StellarEnv) : Host stellarPlatform StellarState where
  runOp := runStellarOp
  serve := serveStellar env
  pass n s := { s with clock := s.clock + n }

end ProviderPlatform
