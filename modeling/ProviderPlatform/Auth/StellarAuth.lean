import ProviderPlatform.Auth.StellarChallenge

/-! # The steps of the wallet's login

The pipelines of `GET` and `POST /stellar/auth`, a function for each of their
processes. What a transaction has to be like is checked on the posted one; that
the service stored it is checked by its hash. -/
namespace ProviderPlatform
open Async Store

/-! ## The transaction -/

/-- `new Transaction(xdr)`, which takes no fee bump. -/
def newTransaction (env : StellarEnv) (xdr : String) : Except StellarErr StellarTransaction :=
  match env.decode xdr with
  | .transaction tx => .ok tx
  | .feeBump => .error (.sdk "Invalid TransactionEnvelope")
  | .malformed => .error (.sdk "XDR Read Error")

def noFirstOperation : StellarErr :=
  .typeError "Cannot read properties of undefined (reading 'type')"

/-- The time bounds and the source of the first operation. The check for an
operation asks whether a boolean is defined, so an empty list fails only when
its first entry is read. -/
def checkOperation (env : StellarEnv) (payload : StellarPayload) :
    Except StellarErr (TimeBounds × Option PublicKey) :=
  if payload.sequence ≠ "0" then .error (.invalidSequenceNumber payload.sequence)
  else match payload.timeBounds with
    | none => .error .missingTimeBounds
    | some timeBounds =>
      match payload.operations with
      | [] => .error noFirstOperation
      | .other type _ :: _ => .error (.wrongOperationType "manageData" type)
      | .manageData source name _ :: _ =>
        if (env.serviceDomain ++ " auth").toList.isPrefixOf name.toList then
          .ok (timeBounds, source)
        else .error (.operationKeyMismatch (env.serviceDomain ++ " auth") name)

def checkTimeBounds (timeBounds : TimeBounds) (currentTime : Int) : Except StellarErr Unit :=
  if currentTime < timeBounds.minTime then
    .error (.challengeTooEarly currentTime timeBounds.minTime)
  else if timeBounds.maxTime < currentTime then
    .error (.challengeExpired currentTime timeBounds.maxTime)
  else .ok ()

def StellarTransaction.signedBy (env : StellarEnv) (tx : StellarTransaction)
    (publicKey : PublicKey) : Bool :=
  tx.signatures.any fun signature => env.verify publicKey (env.hash tx.payload) signature

/-- Both the service and the client have signed. -/
def checkSignatures (env : StellarEnv) (tx : StellarTransaction)
    (clientPublicKey : Option PublicKey) : Except StellarErr Unit :=
  match clientPublicKey.filter env.isEd25519PublicKey with
  | none => .error .missingClientAccount
  | some clientPublicKey =>
    if !tx.signedBy env env.providerKey then .error .missingServerSignature
    else if !tx.signedBy env clientPublicKey then .error .missingClientSignature
    else .ok ()

/-- All that is asked of a posted challenge at a moment. -/
def checkChallenge (env : StellarEnv) (signedChallenge : String) (now : Time) :
    Except StellarErr Unit := do
  let tx ← newTransaction env signedChallenge
  let first ← checkOperation env tx.payload
  checkTimeBounds first.1 (now / 1000)
  checkSignatures env tx first.2

/-- The nonce and the client account of a challenge. -/
def extractOperationFromChallengeTx (payload : StellarPayload) :
    Except StellarErr (String × PublicKey) :=
  match payload.operations with
  | [] => .error .missingNonceOperation
  | .other type _ :: _ => .error (.wrongOperationType "manageData" type)
  | .manageData source _ value :: _ =>
    match source, value with
    | none, _ => .error .missingClientAccount
    | some _, none => .error .missingNonce
    | some clientAccount, some nonce => .ok (nonce, clientAccount)

def extractChallengeTtl (payload : StellarPayload) : Time :=
  match payload.timeBounds with
  | some timeBounds => timeBounds.maxTime * 1000
  | none => 0

/-! ## The posted challenge -/

def parsePostAuthBody : Json → Except (List Issue) PostAuthBody
  | .object fields =>
    let signedChallenge : Except (List Issue) String :=
      match fields.lookup "signedChallenge" with
      | some (.string text) => .ok text
      | _ => .error [["signedChallenge"]]
    let ppPublicKey := stringField ["ppPublicKey"] none (fields.lookup "ppPublicKey")
    match signedChallenge, ppPublicKey with
    | .ok signedChallenge, .ok ppPublicKey => .ok ⟨signedChallenge, ppPublicKey⟩
    | _, _ => .error (issuesOf signedChallenge ++ issuesOf ppPublicKey)
  | _ => .error [[]]

def parseRequestBody (raw : Option Json) : StellarPromise PostAuthBody := do
  let bodyPayload : Json ← (Task.call (I := stellarPlatform) (.readBody raw)).recover fun error =>
    Task.fail (.failedToParseBody error)
  match parsePostAuthBody bodyPayload with
  | .ok body => pure body
  | .error issues => Task.fail (.invalidPayload issues)

/-- `P_VerifyChallenge`; it hands on when it checked. -/
def verifyChallenge (env : StellarEnv) (signedChallenge : String) : StellarPromise Time :=
  (do
    let now : Time ← Task.op (I := stellarPlatform) .now
    Task.done (I := stellarPlatform) (checkChallenge env signedChallenge now)
    pure now).recover fun error =>
      if error.isPlatformError then Task.fail error
      else Task.fail (.challengeVerificationFailed error)

/-- What is compared of a posted challenge and the stored one. -/
def checkStored (env : StellarEnv) (payload : StellarPayload) (localChallenge : Challenge) :
    Except StellarErr Unit :=
  match localChallenge.txXDR with
  | .malformed => .error (.sdk "XDR Read Error")
  | .feeBump => .error .challengeIsNotTransaction
  | .transaction localTx => do
    let local' ← extractOperationFromChallengeTx localTx.payload
    let incoming ← extractOperationFromChallengeTx payload
    if local'.1 ≠ incoming.1 then .error (.nonceMismatch local'.1 incoming.1)
    else if local'.2 ≠ incoming.2 then .error (.clientAccountMismatch local'.2 incoming.2)
    else if env.toDateString localChallenge.ttl ≠ env.toDateString (extractChallengeTtl payload) then
      .error (.challengeTtlMismatch localChallenge.ttl (extractChallengeTtl payload))
    else .ok ()

/-- `P_CompareChallenge` -/
def compareChallenge (env : StellarEnv) (signedChallenge : String) : StellarPromise Unit := do
  let tx ← Task.done (I := stellarPlatform) (newTransaction env signedChallenge)
  let txHash := env.hash tx.payload
  let localChallenge : Option Challenge ←
    Task.call (I := stellarPlatform) (.findOneByTxHash txHash)
  match localChallenge with
  | none => Task.fail (.challengeNotFound txHash)
  | some localChallenge =>
    Task.done (I := stellarPlatform) (checkStored env tx.payload localChallenge)

def StellarOperation.source : StellarOperation → Option PublicKey
  | manageData source _ _ => source
  | other _ source => source

/-- Seconds since the epoch, as `getNumericDate` rounds them. -/
def getNumericDate (now : Time) (seconds : Nat) : Int := (now + 1000 * seconds + 500) / 1000

/-- `P_GenerateChallengeJWT` -/
def generateChallengeJwt (env : StellarEnv) (signedChallenge : String) : StellarPromise String := do
  let tx ← Task.done (I := stellarPlatform) (newTransaction env signedChallenge)
  match tx.payload.operations with
  | [] => Task.fail noFirstOperation
  | operation :: _ =>
    match operation.source with
    | none => Task.fail .missingClientAccount
    | some clientAccount => do
      let now : Time ← Task.op (I := stellarPlatform) .now
      Task.call (I := stellarPlatform) (.signJwt {
        iss := "https://" ++ env.serviceDomain
        sub := clientAccount
        iat := getNumericDate now 0
        exp := getNumericDate now env.sessionTtl
        sessionId := env.hash tx.payload })

/-- The handshake that is kept in memory becomes ACTIVE, if it is there. -/
def updateLiveSession (env : StellarEnv) (key : String) : StellarPromise Unit := do
  let memorySession : Option LiveSession ← Task.op (I := stellarPlatform) (.getSession key)
  match memorySession with
  | none => pure ()
  | some memorySession => do
    let now : Time ← Task.op (I := stellarPlatform) .now
    Task.op (I := stellarPlatform) (.updateSession {
      txHash := memorySession.txHash
      clientAccount := none
      requestId := memorySession.requestId
      expiresAt := now + env.sessionTtl * 1000
      status := "ACTIVE" })

/-- Write the session of a client, who may have no account. -/
def createSession (key jwt : String) (txClientAccount : PublicKey) : StellarPromise Unit := do
  let account : Option Account ←
    Task.call (I := stellarPlatform) (.findAccountById txClientAccount)
  match account with
  | none => pure ()
  | some account => do
    let now : Time ← Task.op (I := stellarPlatform) .now
    Task.call (I := stellarPlatform) (.createSession {
      id := key
      status := .active
      accountId := account.id
      jwtToken := some jwt
      createdAt := now
      updatedAt := now })

/-- `P_UpdateChallengeSession` -/
def updateChallengeSession (env : StellarEnv) (signedChallenge jwt : String) :
    StellarPromise Unit := do
  let tx ← Task.done (I := stellarPlatform) (newTransaction env signedChallenge)
  let key := env.hash tx.payload
  updateLiveSession env key
  match tx.payload.operations with
  | [] => Task.fail (.challengeHasNoOperations key)
  | txOperation :: _ =>
    match txOperation.source with
    | none => Task.fail .missingClientAccount
    | some txClientAccount => createSession key jwt txClientAccount

/-- `P_UpdateChallengeDB` -/
def updateChallengeDb (env : StellarEnv) (signedChallenge : String) : StellarPromise Unit := do
  let tx ← Task.done (I := stellarPlatform) (newTransaction env signedChallenge)
  let hash := env.hash tx.payload
  let challenge : Option Challenge ← Task.call (I := stellarPlatform) (.findOneByTxHash hash)
  match challenge with
  | none => Task.fail (.challengeNotFoundInDatabase hash)
  | some challenge =>
    Task.call (I := stellarPlatform)
      (.updateChallenge challenge.id { challenge with status := .verified })

/-- Best effort: a failure of the write does not break the answer. -/
def recordConnect (ppPublicKey : PublicKey) (accountPubkey : AccountId) : StellarPromise Unit :=
  (Task.call (I := stellarPlatform) (.recordInteraction ppPublicKey accountPubkey)).recover
    fun _ => pure ()

/-- The standing of an account with a PP; an account that has none, or is
UNVERIFIED, becomes visible to the operator. -/
def entityStatusOf (ppPublicKey : PublicKey) (accountPubkey : AccountId) :
    StellarPromise EntityStatus := do
  let approval : Option PpEntityApproval ←
    Task.call (I := stellarPlatform) (.findByPpAndAccount ppPublicKey accountPubkey)
  match approval with
  | none => do
    recordConnect ppPublicKey accountPubkey
    pure .unverified
  | some approval =>
    if approval.status = .unverified then do
      recordConnect ppPublicKey accountPubkey
      pure .unverified
    else pure approval.status

/-- `P_AttachEntityStatus` -/
def attachEntityStatus (env : StellarEnv) (ppPublicKey : PublicKey) (jwt : String) :
    StellarPromise PostAuthData := do
  let sub ← Task.done (I := stellarPlatform) (env.subject jwt)
  match sub.filter (· != "") with
  | none => pure ⟨jwt, .unverified, none⟩
  | some accountPubkey => do
    let pp : Option KycListing ← Task.call (I := stellarPlatform) (.findByPublicKey ppPublicKey)
    match pp with
    | none => pure ⟨jwt, .unverified, none⟩
    | some pp => do
      let entityStatus ← entityStatusOf ppPublicKey accountPubkey
      pure ⟨jwt, entityStatus, pp.kycSubmissionUrl⟩

/-- The pipeline of `POST /stellar/auth`. -/
def handlePostAuth (env : StellarEnv) (raw : Option Json) : StellarPromise Answered := do
  let body ← parseRequestBody raw
  let verifiedAt ← verifyChallenge env body.signedChallenge
  compareChallenge env body.signedChallenge
  let jwt ← generateChallengeJwt env body.signedChallenge
  updateChallengeSession env body.signedChallenge jwt
  updateChallengeDb env body.signedChallenge
  let data ← attachEntityStatus env body.ppPublicKey jwt
  pure ⟨body, data, verifiedAt⟩

/-! ## The challenge that is handed out -/

structure ChallengeData where
  txHash : String
  clientAccount : PublicKey
  xdr : EnvelopeXdr
  requestId : String
  expiresAt : Time
  deriving DecidableEq

/-- The transaction of a challenge, built on the sequence number -1. -/
def challengePayload (env : StellarEnv) (clientAccount : PublicKey) (nonce : String) (now : Time) :
    StellarPayload where
  source := env.providerKey
  sequence := "0"
  fee := "0"
  timeBounds := some ⟨(now / 1000).toNat, (now / 1000).toNat + env.challengeTtl⟩
  operations := [.manageData (some clientAccount) (env.serviceDomain ++ " auth") (some nonce)]

/-- `P_CreateChallenge`; an operation needs a valid source. -/
def createChallenge (env : StellarEnv) (clientAccount : PublicKey) (requestId : String) :
    StellarPromise ChallengeData := do
  let nonce : String ← Task.op (I := stellarPlatform) .randomNonce
  let now : Time ← Task.op (I := stellarPlatform) .now
  if !env.isEd25519PublicKey clientAccount then
    Task.fail (.failedToCreateChallenge (.sdk "Source address is invalid"))
  else
    let payload := challengePayload env clientAccount nonce now
    let txHash := env.hash payload
    pure {
      txHash := txHash
      clientAccount := clientAccount
      xdr := .transaction ⟨payload, [env.sign txHash]⟩
      requestId := requestId
      expiresAt := extractChallengeTtl payload }

/-- The id of the account of a client, which is made if there is none. -/
def findOrCreateAccount (clientAccount : PublicKey) : StellarPromise AccountId := do
  let account : Option Account ← Task.call (I := stellarPlatform) (.findAccountById clientAccount)
  match account with
  | some account => pure account.id
  | none => do
    let entityId : String ← Task.op (I := stellarPlatform) .randomUUID
    Task.call (I := stellarPlatform) (.createEntity entityId)
    Task.call (I := stellarPlatform) (.createAccount clientAccount entityId)
    pure clientAccount

/-- `P_CreateChallengeDB` -/
def createChallengeDb (challengeData : ChallengeData) : StellarPromise Unit :=
  (do
    let accountId ← findOrCreateAccount challengeData.clientAccount
    let id : String ← Task.op (I := stellarPlatform) .randomUUID
    let now : Time ← Task.op (I := stellarPlatform) .now
    Task.call (I := stellarPlatform) (.createChallenge {
      id := id
      accountId := accountId
      status := .unverified
      ttl := challengeData.expiresAt
      txHash := challengeData.txHash
      txXDR := challengeData.xdr
      updatedAt := now })).recover fun error =>
        Task.fail (.failedToStoreChallengeInDatabase error)

/-- `P_CreateChallengeMemory` -/
def createChallengeMemory (challengeData : ChallengeData) : StellarPromise Unit := do
  let existingSession : Option LiveSession ←
    Task.op (I := stellarPlatform) (.getSession challengeData.txHash)
  match existingSession with
  | some _ =>
    Task.fail (.failedToCacheChallengeInLiveSessions (.sessionAlreadyExists challengeData.txHash))
  | none =>
    Task.op (I := stellarPlatform) (.addSession {
      txHash := challengeData.txHash
      clientAccount := some challengeData.clientAccount
      requestId := challengeData.requestId
      expiresAt := challengeData.expiresAt
      status := "PENDING" })

/-- The pipeline of `GET /stellar/auth`: the hash and the challenge. -/
def handleGetAuth (env : StellarEnv) (account : Option String) (requestId : String) :
    StellarPromise (String × EnvelopeXdr) :=
  match account.filter env.matchesPublicKey with
  | none => Task.fail (.invalidQueryParams [["account"]])
  | some clientAccount => do
    let challengeData ← createChallenge env clientAccount requestId
    createChallengeDb challengeData
    createChallengeMemory challengeData
    pure (challengeData.txHash, challengeData.xdr)

end ProviderPlatform
