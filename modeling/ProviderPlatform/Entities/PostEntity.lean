import ProviderPlatform.Async.Embed
import ProviderPlatform.Auth.Challenges
import ProviderPlatform.Bundle.AddBundle
import ProviderPlatform.Runtime.Text

/-! # The KYC submission of an entity

`POST /providers/:ppPublicKey/entities`: the body is checked, the caller proves
that the wallet is theirs, the identity is written, and the approval of the
pair of PP and account is set to APPROVED. The process also admits bundles and
records interactions, so its interface is that of the platform and that of the
challenges together with the writes of this endpoint. -/
namespace ProviderPlatform
open Async Store

/-! ## The body -/

inductive Json
  | null
  | bool (b : Bool)
  | number
  | string (text : String)
  | array (items : List Json)
  | object (fields : List (String × Json))

def Json.field (key : String) : Json → Option Json
  | .object fields => fields.lookup key
  | _ => none

/-- The path of a field that does not fit the schema. -/
abbrev Issue := List String

/-- The length in UTF-16 code units. -/
def jsLength (text : String) : Nat :=
  (text.toList.map fun c => if c.val < 0x10000 then 1 else 2).sum

def nameMaxLen : Nat := 250

/-- A string of at least one code unit, and of at most `max` if one is given. -/
def stringField (path : Issue) (max : Option Nat) : Option Json → Except (List Issue) String
  | some (.string text) =>
    if jsLength text < 1 ∨ max.any (decide <| jsLength text > ·) then .error [path] else .ok text
  | _ => .error [path]

/-- An array of strings, empty if it is absent. -/
def jurisdictionsField : Option Json → Except (List Issue) (List String)
  | none => .ok []
  | some (.array items) =>
    let issues := items.zipIdx.filterMap fun p => match p.1 with
      | .string _ => none
      | _ => some ["jurisdictions", toString p.2]
    if issues.isEmpty then
      .ok (items.filterMap fun item => match item with
        | .string text => some text
        | _ => none)
    else .error issues
  | some _ => .error [["jurisdictions"]]

structure SignedChallenge where
  nonce : String
  signature : String

def signedChallengeField : Option Json → Except (List Issue) SignedChallenge
  | some (.object fields) =>
    match stringField ["signedChallenge", "nonce"] none (fields.lookup "nonce"),
      stringField ["signedChallenge", "signature"] none (fields.lookup "signature") with
    | .ok nonce, .ok signature => .ok ⟨nonce, signature⟩
    | .error issues, .error issues' => .error (issues ++ issues')
    | .error issues, .ok _ => .error issues
    | .ok _, .error issues' => .error issues'
  | _ => .error [["signedChallenge"]]

structure EntityBody where
  pubkey : PublicKey
  name : String
  jurisdictions : List String
  signedChallenge : SignedChallenge

/-- The issues of a field. -/
def issuesOf {α : Type} : Except (List Issue) α → List Issue
  | .ok _ => []
  | .error issues => issues

/-- `bodySchema.safeParse`: the body, or the issues of all its fields. -/
def parseEntityBody : Json → Except (List Issue) EntityBody
  | .object fields =>
    let pubkey := stringField ["pubkey"] none (fields.lookup "pubkey")
    let name := stringField ["name"] (some nameMaxLen) (fields.lookup "name")
    let jurisdictions := jurisdictionsField (fields.lookup "jurisdictions")
    let signedChallenge := signedChallengeField (fields.lookup "signedChallenge")
    match pubkey, name, jurisdictions, signedChallenge with
    | .ok pubkey, .ok name, .ok jurisdictions, .ok signedChallenge =>
      .ok ⟨pubkey, name, jurisdictions, signedChallenge⟩
    | _, _, _, _ =>
      .error (issuesOf pubkey ++ issuesOf name ++ issuesOf jurisdictions ++
        issuesOf signedChallenge)
  | _ => .error [[]]

/-- `/<[^>]*>/g` replaced by nothing: a `<` without a `>` after it stays. -/
def stripTags : List Char → List Char
  | [] => []
  | c :: rest =>
    if c = '<' then
      match h : rest.dropWhile (· != '>') with
      | [] => c :: stripTags rest
      | _ :: after =>
        have : after.length ≤ rest.length := by
          have := (List.dropWhile_suffix (p := (· != '>')) (l := rest)).length_le
          rw [h] at this
          simp only [List.length_cons] at this
          omega
        stripTags after
    else c :: stripTags rest
termination_by text => text.length
decreasing_by all_goals simp only [List.length_cons]; omega

/-- `/\s+/g` replaced by one blank. -/
def collapseSpaces : List Char → List Char
  | [] => []
  | c :: rest =>
    if isJsSpace c then
      match rest with
      | c' :: _ => if isJsSpace c' then collapseSpaces rest else ' ' :: collapseSpaces rest
      | [] => [' ']
    else c :: collapseSpaces rest

/-- Strip HTML tags from a name, collapse whitespace and trim. -/
def sanitiseName (raw : String) : String :=
  String.ofList (jsTrim (collapseSpaces (stripTags raw.toList)))

/-! ## The process -/

structure KycState where
  platform : State
  auth : AuthState
  uuid : Nat → String
  uuids : Nat
  /-- The pairs of PP and account that passed the admission gate. -/
  admitted : List (PublicKey × AccountId)

inductive KycOp
  | platform (o : Op)
  | auth (o : AuthOp)
  | randomUUID
  | noteAdmitted (ppPublicKey : PublicKey) (accountId : AccountId)

@[reducible] def KycOp.Out : KycOp → Type
  | platform o => o.Out
  | auth o => o.Out
  | randomUUID => String
  | noteAdmitted _ _ => Unit

inductive KycReq
  | platform (q : Req)
  | auth (q : AuthReq)
  | readBody (raw : Json)
  | updateEntity (id : String) (name : String) (jurisdictions : List String)
  | createEntity (id : String) (name : String) (jurisdictions : List String)
  | createAccount (id : AccountId) (entityId : String)
  | promoteApproval (ppPublicKey : PublicKey) (accountPubkey : AccountId)
  | createApproval (ppPublicKey : PublicKey) (accountPubkey : AccountId)

@[reducible] def KycReq.Ans : KycReq → Type
  | platform q => q.Ans
  | auth q => q.Ans
  | readBody _ => Json
  | _ => Unit

abbrev kycPlatform : Interface := ⟨KycOp, KycOp.Out, KycReq, KycReq.Ans, Err⟩

abbrev KycPromise (α : Type) := Task kycPlatform α

def ofPlatform : Embedding ProviderPlatform.platform kycPlatform where
  op := .platform
  out _ a := a
  req := .platform
  answer _ r := r
  raise e := e

def ofAuth : Embedding authPlatform kycPlatform where
  op := .auth
  out _ a := a
  req := .auth
  answer _ r := r
  raise e := e

def runKycOp (env : AuthEnv) : (o : KycOp) → KycState → o.Out × KycState
  | .platform o, s => ((runOp o s.platform).1, { s with platform := (runOp o s.platform).2 })
  | .auth o, s => ((runAuthOp env o s.auth).1, { s with auth := (runAuthOp env o s.auth).2 })
  | .randomUUID, s => (s.uuid s.uuids, { s with uuids := s.uuids + 1 })
  | .noteAdmitted ppPublicKey accountId, s =>
    ((), { s with admitted := s.admitted ++ [(ppPublicKey, accountId)] })

namespace KycState

def setDb (s : KycState) (db : Database) : KycState :=
  { s with platform := { s.platform with db := db } }

def setApprovals (s : KycState) (approvals : Table PpEntityApproval.key) : KycState :=
  s.setDb { s.platform.db with approvals := approvals }

def setDirectory (s : KycState) (directory : Directory) : KycState :=
  s.setDb { s.platform.db with directory := directory }

end KycState

/-- The writes of the endpoint, which sets every approval it writes to APPROVED.
An approval is found by its id, which stands for its unique pair of PP and
account. -/
def serveKyc (env : AuthEnv) : (q : KycReq) → KycState → Except Err q.Ans × KycState
  | .platform q, s => ((serve q s.platform).1, { s with platform := (serve q s.platform).2 })
  | .auth q, s => ((serveAuth env q s.auth).1, { s with auth := (serveAuth env q s.auth).2 })
  | .readBody raw, s => (.ok raw, s)
  | .updateEntity id name jurisdictions, s =>
    let directory := s.platform.db.directory
    let entities := directory.entities.update (·.id == id)
      (fun row => { row with name := some name, jurisdictions := some jurisdictions }) fun _ => rfl
    (.ok (), s.setDirectory { directory with entities := entities })
  | .createEntity id name jurisdictions, s =>
    let directory := s.platform.db.directory
    match directory.entities.insert? ⟨id, some name, some jurisdictions, none⟩ with
    | some entities => (.ok (), s.setDirectory { directory with entities := entities })
    | none => (.error constraintViolation, s)
  | .createAccount id entityId, s =>
    let directory := s.platform.db.directory
    if (directory.entities.find entityId).isSome then
      match directory.accounts.insert? ⟨id, entityId, none⟩ with
      | some accounts => (.ok (), s.setDirectory { directory with accounts := accounts })
      | none => (.error constraintViolation, s)
    else (.error constraintViolation, s)
  | .promoteApproval ppPublicKey accountPubkey, s =>
    (.ok (), s.setApprovals (s.platform.db.approvals.update
      (·.key == (ppPublicKey, accountPubkey))
      (fun row => { row with status := .approved, updatedAt := s.platform.clock }) fun _ => rfl))
  | .createApproval ppPublicKey accountPubkey, s =>
    match s.platform.db.approvals.insert?
      ⟨ppPublicKey, accountPubkey, .approved, s.platform.clock, none⟩ with
    | some approvals => (.ok (), s.setApprovals approvals)
    | none => (.error constraintViolation, s)

def kycHost (env : AuthEnv) : Host kycPlatform KycState where
  runOp := runKycOp env
  serve := serveKyc env
  pass n s := { s with
    platform := ProviderPlatform.host.pass n s.platform
    auth := (authHost env).pass n s.auth }

/-! ## The handler -/

structure EntityData where
  pubkey : PublicKey
  ppPublicKey : PublicKey
  entityId : String
  status : EntityStatus
  deriving DecidableEq

structure EntityResponse where
  status : Nat
  message : String
  issues : List Issue := []
  data : Option EntityData := none
  deriving DecidableEq

/-- Create or update the entity and the account. The update hands back an
array, so the id of the entity is the account's. -/
def writeIdentity (pubkey : PublicKey) (name : String) (jurisdictions : List String) :
    KycPromise String := do
  let existingAccount : Option Account ←
    Task.call (I := kycPlatform) (.platform (.query (.findAccountById pubkey)))
  match existingAccount with
  | some existingAccount => do
    Task.call (I := kycPlatform) (.updateEntity existingAccount.entityId name jurisdictions)
    pure existingAccount.entityId
  | none => do
    let entityId ← Task.op (I := kycPlatform) .randomUUID
    Task.call (I := kycPlatform) (.createEntity entityId name jurisdictions)
    Task.call (I := kycPlatform) (.createAccount pubkey entityId)
    pure entityId

/-- Set the approval of the pair of PP and account to APPROVED. -/
def writeApproval (ppPublicKey pubkey : PublicKey) (entityId : String) :
    KycPromise EntityResponse := do
  let data : Option EntityData := some ⟨pubkey, ppPublicKey, entityId, .approved⟩
  let existingApproval : Option PpEntityApproval ←
    Task.call (I := kycPlatform) (.platform (.query (.findByPpAndAccount ppPublicKey pubkey)))
  match existingApproval with
  | some existingApproval =>
    if existingApproval.status = .approved then
      pure (EntityResponse.mk 409 "Entity already approved for this provider" [] data)
    else do
      Task.call (I := kycPlatform) (.promoteApproval ppPublicKey pubkey)
      pure (EntityResponse.mk 200 "Entity approval updated" [] data)
  | none => do
    Task.call (I := kycPlatform) (.createApproval ppPublicKey pubkey)
    pure (EntityResponse.mk 201 "Entity approved" [] data)

/-- The part of the handler that follows the parsed body. -/
def submitEntity (env : AuthEnv) (ppPublicKey : PublicKey) (body : EntityBody) :
    KycPromise EntityResponse :=
  let name := sanitiseName body.name
  let jurisdictions := (body.jurisdictions.map fun j => String.ofList (jsTrim j.toList)).filter
    (· != "")
  if name = "" then pure ⟨400, "name must contain at least one non-tag character", [], none⟩
  else do
    let sigOk ← (verifyEntityChallenge env body.pubkey body.signedChallenge.nonce
      body.signedChallenge.signature).embed ofAuth
    if !sigOk then pure ⟨401, "Invalid or expired signed challenge", [], none⟩
    else do
      let entityId ← writeIdentity body.pubkey name jurisdictions
      writeApproval ppPublicKey body.pubkey entityId

/-- The handler up to its `catch`. -/
def tryPostEntity (env : AuthEnv) (ppPublicKey : Option PublicKey) (raw : Json) :
    KycPromise EntityResponse :=
  match ppPublicKey.filter (· != "") with
  | none => pure ⟨400, "ppPublicKey path param is required", [], none⟩
  | some ppPublicKey => do
    let raw ← Task.call (I := kycPlatform) (.readBody raw)
    match parseEntityBody raw with
    | .error issues => pure ⟨400, "Invalid body", issues, none⟩
    | .ok body => submitEntity env ppPublicKey body

def handlePostEntity (env : AuthEnv) (ppPublicKey : Option PublicKey) (raw : Json) :
    KycPromise EntityResponse :=
  (tryPostEntity env ppPublicKey raw).recover fun _ =>
    pure ⟨500, "Failed to create/update entity", [], none⟩

end ProviderPlatform
