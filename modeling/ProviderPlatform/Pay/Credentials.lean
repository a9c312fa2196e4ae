import ProviderPlatform.Async.Pool
import ProviderPlatform.Encoding.Json
import ProviderPlatform.Pay.Types
import ProviderPlatform.Persistence.Repository
import ProviderPlatform.Providers.SecretKeys
import ProviderPlatform.Runtime.Text

/-! # Custodial credentials

`POST /pay/custodial/register` and `POST /pay/custodial/login`: an account is made
under a name that is free, with a hash of its password, and whoever tells the name
and the password is given a token for the account. -/
namespace ProviderPlatform
namespace Credentials
open Async Store Encoding

/-! ## Hashes -/

/-- The value of a hexadecimal digit. -/
def hexDigit (c : Char) : Option Nat :=
  if 48 ≤ c.toNat ∧ c.toNat ≤ 57 then some (c.toNat - 48)
  else if 97 ≤ c.toNat ∧ c.toNat ≤ 102 then some (c.toNat - 87)
  else if 65 ≤ c.toNat ∧ c.toNat ≤ 70 then some (c.toNat - 55)
  else none

/-- `parseInt` of two characters, written to an array of bytes; what is no number is
written as 0. -/
def parsePair (high low : Char) : UInt8 :=
  if isJsSpace high ∨ high = '+' then UInt8.ofNat ((hexDigit low).getD 0)
  else if high = '-' then UInt8.ofNat (256 - (hexDigit low).getD 0)
  else
    match hexDigit high, hexDigit low with
    | some h, some l => UInt8.ofNat (16 * h + l)
    | some h, none => UInt8.ofNat h
    | none, _ => 0

def bytesToHex (bytes : Encoding.Bytes) : List Char :=
  bytes.flatMap fun b => [Nat.digitChar (b.toNat / 16), Nat.digitChar (b.toNat % 16)]

def hexToBytes : List Char → Encoding.Bytes
  | high :: low :: rest => parsePair high low :: hexToBytes rest
  | _ => []

/-- What `hashPassword` hands back. -/
def storedHash (salt derived : Encoding.Bytes) : String :=
  String.ofList (bytesToHex salt ++ ':' :: bytesToHex derived)

/-- The first two parts of `hash.split(":")`; a part that is missing is empty. -/
def hashParts (hash : String) : List Char × List Char :=
  let text := hash.toList
  (text.takeWhile (· != ':'), ((text.dropWhile (· != ':')).drop 1).takeWhile (· != ':'))

/-! ## The process -/

/-- Web Crypto and the tokens. -/
structure CredEnv where
  /-- PBKDF2 of a password and a salt, with 100000 iterations of SHA-256. -/
  deriveBits : Encoding.Bytes → Encoding.Bytes → Encoding.Bytes
  /-- 256 bits are asked for. -/
  derived : ∀ password salt, (deriveBits password salt).length = 32
  /-- HMAC-SHA256 under the dummy key. -/
  sign : Encoding.Bytes → Encoding.Bytes
  token : AccountId → String → String

structure CredRow extends PayCustodialAccount where
  username : String
  passwordHash : String
  deriving DecidableEq

structure CredState where
  clock : Time
  payCustodialAccounts : Table fun row : CredRow => row.username
  uuid : Nat → String
  uuids : Nat
  random : Nat → UInt8
  randoms : Nat
  keypair : Nat → PublicKey
  keypairs : Nat

/-- A body whose fields are strings, where it has them. -/
structure CredBody where
  username : Option String
  password : Option String
  deriving DecidableEq

inductive CredOp
  | getRandomValues (length : Nat)
  | randomUUID
  | randomKeypair
  | now

@[reducible] def CredOp.Out : CredOp → Type
  | getRandomValues _ => Encoding.Bytes
  | randomUUID => String
  | randomKeypair => PublicKey
  | now => Time

inductive CredReq
  | readBody (body : CredBody)
  | findByUsername (username : String)
  | deriveBits (password salt : Encoding.Bytes)
  | sign (bytes : Encoding.Bytes)
  | create (row : CredRow)
  | generateJwt (sub : AccountId) (sessionId : String)

@[reducible] def CredReq.Ans : CredReq → Type
  | readBody _ => CredBody
  | findByUsername _ => Option CredRow
  | deriveBits _ _ => Encoding.Bytes
  | sign _ => Encoding.Bytes
  | create _ => Unit
  | generateJwt _ _ => String

abbrev credPlatform : Interface := ⟨CredOp, CredOp.Out, CredReq, CredReq.Ans, Err⟩

abbrev CredPromise (α : Type) := Task credPlatform α

def runCredOp : (o : CredOp) → CredState → o.Out × CredState
  | .getRandomValues length, s =>
    ((List.range length).map fun i => s.random (s.randoms + i),
      { s with randoms := s.randoms + length })
  | .randomUUID, s => (s.uuid s.uuids, { s with uuids := s.uuids + 1 })
  | .randomKeypair, s => (s.keypair s.keypairs, { s with keypairs := s.keypairs + 1 })
  | .now, s => (s.clock, s)

/-- The insert: the id is the primary key, and the name is unique. -/
def insertAccount (t : Table fun row : CredRow => row.username) (row : CredRow) :
    Option (Table fun row : CredRow => row.username) :=
  if t.rows.any (·.id == row.id) then none else t.insert? row

def serveCred (env : CredEnv) : (q : CredReq) → CredState → Except Err q.Ans × CredState
  | .readBody body, s => (.ok body, s)
  | .findByUsername username, s => (.ok (s.payCustodialAccounts.find username), s)
  | .deriveBits password salt, s => (.ok (env.deriveBits password salt), s)
  | .sign bytes, s => (.ok (env.sign bytes), s)
  | .create row, s =>
    match insertAccount s.payCustodialAccounts row with
    | some t => (.ok (), { s with payCustodialAccounts := t })
    | none => (.error constraintViolation, s)
  | .generateJwt sub sessionId, s => (.ok (env.token sub sessionId), s)

def credHost (env : CredEnv) : Host credPlatform CredState where
  runOp := runCredOp
  serve := serveCred env
  pass n s := { s with clock := s.clock + n }

/-! ## The handlers -/

structure CredReply where
  status : Nat
  message : String
  token : Option String := none
  depositAddress : Option PublicKey := none
  deriving DecidableEq

def credCall (q : CredReq) : CredPromise q.Ans := Task.call (I := credPlatform) q

def credRun (o : CredOp) : CredPromise o.Out := Task.op (I := credPlatform) o

def hashPassword (password : String) : CredPromise String := do
  let salt : Encoding.Bytes ← credRun (.getRandomValues 16)
  let derived : Encoding.Bytes ← credCall (.deriveBits (encodeText password) salt)
  pure (storedHash salt derived)

/-- The two are signed, and the signatures have no bit that differs. -/
def timingSafeEqual (a b : Encoding.Bytes) : CredPromise Bool :=
  if a.length ≠ b.length then pure false
  else do
    let sigA : Encoding.Bytes ← credCall (.sign a)
    let sigB : Encoding.Bytes ← credCall (.sign b)
    pure (sigA == sigB)

def verifyPassword (password hash : String) : CredPromise Bool :=
  let (salt, stored) := hashParts hash
  if salt = [] ∨ stored = [] then pure false
  else do
    let derivedBytes : Encoding.Bytes ←
      credCall (.deriveBits (encodeText password) (hexToBytes salt))
    let storedBytes := hexToBytes stored
    if derivedBytes.length ≠ storedBytes.length then pure false
    else timingSafeEqual derivedBytes storedBytes

def required : CredReply := { status := 400, message := "username and password are required" }

def invalidCredentials : CredReply := { status := 401, message := "Invalid credentials" }

/-- The account is made, and its owner is signed in. -/
def createAccount (username password : String) : CredPromise CredReply := do
  let existing : Option CredRow ← credCall (.findByUsername username)
  if existing.isSome then pure { status := 400, message := "Registration failed" }
  else do
    let passwordHash ← hashPassword password
    let depositAddress : PublicKey ← credRun .randomKeypair
    let accountId : String ← credRun .randomUUID
    let now : Time ← credRun .now
    credCall (.create {
      id := accountId, username := username, passwordHash := passwordHash,
      depositAddress := depositAddress, balance := 0, status := .active, updatedAt := now })
    let sessionId : String ← credRun .randomUUID
    let token : String ← credCall (.generateJwt accountId sessionId)
    pure { status := 200, message := "Account created", token := some token,
           depositAddress := some depositAddress }

def tryRegister (body : CredBody) : CredPromise CredReply := do
  let body : CredBody ← credCall (.readBody body)
  match body.username.filter (· != ""), body.password.filter (· != "") with
  | some username, some password =>
    if utf16Length username.toList < 3 ∨ utf16Length username.toList > 50 then
      pure { status := 400, message := "Username must be 3-50 characters" }
    else if utf16Length password.toList < 8 then
      pure { status := 400, message := "Password must be at least 8 characters" }
    else createAccount username password
  | _, _ => pure required

/-- Whatever is thrown is answered so. -/
def invalidBody (reply : CredPromise CredReply) : CredPromise CredReply :=
  reply.recover fun _ => pure { status := 400, message := "Invalid request body" }

def handlePostCustodialRegister (body : CredBody) : CredPromise CredReply :=
  invalidBody (tryRegister body)

/-- A token for the account, if the password is its own and it is not suspended. -/
def signIn (password : String) (account : CredRow) : CredPromise CredReply := do
  let valid ← verifyPassword password account.passwordHash
  if valid = false then pure invalidCredentials
  else if account.status = .suspended then pure invalidCredentials
  else do
    let sessionId : String ← credRun .randomUUID
    let token : String ← credCall (.generateJwt account.id sessionId)
    pure { status := 200, message := "Login successful", token := some token }

def tryLogin (body : CredBody) : CredPromise CredReply := do
  let body : CredBody ← credCall (.readBody body)
  match body.username.filter (· != ""), body.password.filter (· != "") with
  | some username, some password => do
    let account : Option CredRow ← credCall (.findByUsername username)
    match account with
    | none => pure invalidCredentials
    | some account => signIn password account
  | _, _ => pure required

def handlePostCustodialLogin (body : CredBody) : CredPromise CredReply :=
  invalidBody (tryLogin body)

/-! ## The machine -/

inductive CredCall
  | launch
  | register (body : CredBody)
  | login (body : CredBody)
  deriving DecidableEq

def CredCall.program : CredCall → CredPromise Unit
  | .launch => pure ()
  | .register body => do
    let _ ← handlePostCustodialRegister body
    pure ()
  | .login body => do
    let _ ← handlePostCustodialLogin body
    pure ()

/-- What else moves: time, and what the payments write to the accounts. -/
inductive CredDrift
  | elapse (ms : Nat)
  | write (balance : CredRow → Int) (status : CredRow → PayCustodialStatus)

/-- What the payments leave of a row. -/
def CredRow.written (balance : CredRow → Int) (status : CredRow → PayCustodialStatus)
    (row : CredRow) : CredRow :=
  { row with balance := balance row, status := status row }

def credMachine (env : CredEnv) : Machine credPlatform CredState CredCall CredDrift where
  host := credHost env
  program := CredCall.program
  startable _ _ := true
  boot := .launch
  drift
    | .elapse ms, s => { s with clock := s.clock + ms }
    | .write balance status, s =>
      let accounts := s.payCustodialAccounts.update (fun _ => true) (.written balance status)
        fun _ => rfl
      { s with payCustodialAccounts := accounts }
  reboot s := s

end Credentials
end ProviderPlatform
