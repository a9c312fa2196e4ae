import ProviderPlatform.Pay.Types

/-! # Custodial sends and escrow claims

`POST /pay/custodial/send` debits the sender in one transaction and, when the
receiver is not verified, creates an escrow after that transaction;
`claimEscrowForAddress` pays every escrow held for an address into the
custodial account of that address. -/
namespace ProviderPlatform
open Async Store

/-- `drizzleClient.transaction`: roll back if the body rejects, else commit. -/
def transaction {α : Type} (body : Nat → PayPromise α) : PayPromise α := do
  let tx : Nat ← Task.call (I := payPlatform) .begin
  let result ← (body tx).recover fun error => do
    Task.call (I := payPlatform) (.rollback tx)
    Task.fail error
  Task.call (I := payPlatform) (.commit tx)
  pure result

/-- `SELECT … FOR UPDATE` on the accounts. -/
def selectAccountsForUpdate (tx : Nat) (cond : AccountWhere) :
    PayPromise (List PayCustodialAccount) := do
  let ids : List AccountId ← Task.call (I := payPlatform) (.scanAccounts tx cond)
  let rows : List (Option PayCustodialAccount) ← Task.collect (fun id =>
    Task.call (I := payPlatform) (.lockAccount tx cond id)) ids
  pure (rows.filterMap id)

/-- `SELECT … FOR UPDATE` on the escrows held for an address. -/
def selectHeldForUpdate (tx : Nat) (address : PublicKey) : PayPromise (List PayEscrow) := do
  let ids : List EscrowId ← Task.call (I := payPlatform) (.scanEscrows tx address)
  let rows : List (Option PayEscrow) ← Task.collect (fun id =>
    Task.call (I := payPlatform) (.lockEscrow tx address id)) ids
  pure (rows.filterMap id)

/-! ## Escrows -/

structure EscrowOptions where
  senderAddress : PublicKey
  receiverAddress : PublicKey
  amount : Int
  mode : PayMode
  bundleId : Option String := none
  utxoPublicKeys : Option (List String) := none

/-- Create an escrow record for a send to an unverified address. -/
def createEscrow (opts : EscrowOptions) : PayPromise EscrowId := do
  let id : String ← Task.op (I := payPlatform) .randomUUID
  let now : Time ← Task.op (I := payPlatform) .now
  Task.call (I := payPlatform) (.createEscrow {
    id := id
    heldForAddress := opts.receiverAddress
    senderAddress := opts.senderAddress
    amount := opts.amount
    status := .held
    utxoPublicKeys := opts.utxoPublicKeys
    bundleId := opts.bundleId
    mode := opts.mode
    createdAt := now
    updatedAt := now })
  pure id

structure Claimed where
  claimed : Nat
  totalAmount : Int
  deriving DecidableEq

/-- Pay an escrow into the account of the address, if it has one. -/
def creditAccount (tx : Nat) (address : PublicKey) (escrow : PayEscrow) : PayPromise Unit := do
  let accounts ← selectAccountsForUpdate tx (.depositAddress address)
  match accounts.head? with
  | some account => do
    let now : Time ← Task.op (I := payPlatform) .now
    Task.call (I := payPlatform) (.updateBalance tx account.id (account.balance + escrow.amount)
      now (.credit account.id escrow.id escrow.amount))
  | none => pure ()

/-- The part of a round that only an escrow of mode custodial has. -/
def creditEscrow (tx : Nat) (address : PublicKey) (escrow : PayEscrow) : PayPromise Unit :=
  if escrow.mode = .custodial then creditAccount tx address escrow else pure ()

/-- One round of the loop over the held escrows. -/
def claimEscrow (tx : Nat) (address : PublicKey) (kyc : PayKyc) (escrow : PayEscrow) :
    PayPromise Unit := do
  creditEscrow tx address escrow
  let now : Time ← Task.op (I := payPlatform) .now
  Task.call (I := payPlatform) (.markClaimed tx escrow.id now)
  let now : Time ← Task.op (I := payPlatform) .now
  let id : String ← Task.op (I := payPlatform) .randomUUID
  Task.call (I := payPlatform) (.insertTransaction tx {
    id := id
    type := .receive
    status := .completed
    amount := escrow.amount
    assetCode := escrow.assetCode
    fromAddress := some escrow.senderAddress
    toAddress := some address
    jurisdictionFrom := none
    jurisdictionTo := kyc.jurisdiction
    accountId := address
    mode := escrow.mode
    createdAt := now
    updatedAt := now })

/-- The transaction of a claim. -/
def claimHeld (address : PublicKey) (kyc : PayKyc) (tx : Nat) : PayPromise Claimed := do
  let held ← selectHeldForUpdate tx address
  Task.forEach (claimEscrow tx address kyc) held
  pure ⟨held.length, (held.map (·.amount)).sum⟩

/-- Claim all escrows held for an address that is verified. -/
def claimEscrowForAddress (address : PublicKey) : PayPromise Claimed := do
  let kyc : Option PayKyc ← Task.call (I := payPlatform) (.findKyc address)
  match kyc.filter (·.status = .verified) with
  | none => Task.fail (.error "KYC not verified for this address")
  | some kyc => transaction (claimHeld address kyc)

/-! ## Sends -/

inductive JwtType
  | sep10
  | custodial
  deriving DecidableEq

structure JwtSessionData where
  sub : String
  type : Option JwtType

structure SendData where
  bundleId : String
  escrowed : Bool
  escrowId : Option EscrowId
  deriving DecidableEq

structure SendResponse where
  status : Nat
  message : String
  data : Option SendData := none
  deriving DecidableEq

/-- Why a debit is turned down. -/
structure Rejection where
  error : String
  status : Nat

structure Debited where
  txId : String
  isVerified : Bool
  depositAddress : PublicKey

/-- `/^\d+$/` -/
def isDigits (text : String) : Bool := text != "" && text.toList.all Char.isDigit

/-- `BigInt` of a string of digits. -/
def bigInt (text : String) : Int := text.toList.foldl (fun n c => 10 * n + (c.toNat - 48 : Nat)) 0

/-- What the checks on the body leave: the receiver and the amount. -/
def checkSend (isValidEd25519PublicKey : String → Bool) (body : SendBody) :
    Except SendResponse (PublicKey × Int) :=
  if !body.toAddress.truthy || !body.amount.truthy then .error ⟨400, "to and amount are required", none⟩
  else match body.toAddress with
    | .string toAddress =>
      if !isValidEd25519PublicKey toAddress then
        .error ⟨400, "to must be a valid Stellar public key (G...)", none⟩
      else match body.amount with
        | .string amount =>
          if !isDigits amount then
            .error ⟨400, "amount must be a valid positive integer string", none⟩
          else if bigInt amount ≤ 0 then .error ⟨400, "Amount must be positive", none⟩
          else .ok (toAddress, bigInt amount)
        | _ => .error ⟨400, "amount must be a valid positive integer string", none⟩
    | _ => .error ⟨400, "to must be a valid Stellar public key (G...)", none⟩

/-- The transaction of a send: lock the row, check it, debit it, write the record. -/
def debitAccount (accountId : AccountId) (toAddress : PublicKey) (sendAmount : Int)
    (receiverIsVerified : Bool) (tx : Nat) : PayPromise (Except Rejection Debited) := do
  let accounts ← selectAccountsForUpdate tx (.id accountId)
  match accounts.head? with
  | none => pure (.error ⟨"Account not found", 404⟩)
  | some account =>
    if account.status = .suspended then pure (.error ⟨"Account suspended", 403⟩)
    else if account.balance < sendAmount then pure (.error ⟨"Insufficient balance", 400⟩)
    else do
      let now : Time ← Task.op (I := payPlatform) .now
      Task.call (I := payPlatform) (.updateBalance tx accountId (account.balance - sendAmount) now
        (.debit accountId sendAmount))
      let txId : String ← Task.op (I := payPlatform) .randomUUID
      let now : Time ← Task.op (I := payPlatform) .now
      Task.call (I := payPlatform) (.insertTransaction tx {
        id := txId
        type := .send
        status := if receiverIsVerified then .pending else .completed
        amount := sendAmount
        assetCode := "XLM"
        fromAddress := some account.depositAddress
        toAddress := some toAddress
        jurisdictionFrom := none
        jurisdictionTo := none
        accountId := accountId
        mode := .custodial
        createdAt := now
        updatedAt := now })
      pure (.ok ⟨txId, receiverIsVerified, account.depositAddress⟩)

/-- What follows the committed debit. -/
def finishSend (toAddress : PublicKey) (sendAmount : Int) (debited : Debited) :
    PayPromise SendResponse :=
  if debited.isVerified then
    pure ⟨200, "Send initiated", some ⟨debited.txId, false, none⟩⟩
  else do
    let escrowId ← createEscrow {
      senderAddress := debited.depositAddress
      receiverAddress := toAddress
      amount := sendAmount
      mode := .custodial
      bundleId := some debited.txId }
    pure ⟨200, "Send initiated (held in escrow)", some ⟨debited.txId, true, some escrowId⟩⟩

/-- The handler after its checks. -/
def sendFrom (accountId : AccountId) (toAddress : PublicKey) (sendAmount : Int) :
    PayPromise SendResponse := do
  let receiverKyc : Option PayKyc ← Task.call (I := payPlatform) (.findKyc toAddress)
  let receiverIsVerified := receiverKyc.any (·.status = .verified)
  let result ← transaction (debitAccount accountId toAddress sendAmount receiverIsVerified)
  match result with
  | .error rejection => pure ⟨rejection.status, rejection.error, none⟩
  | .ok debited => finishSend toAddress sendAmount debited

/-- The handler up to its `catch`. -/
def trySend (isValidEd25519PublicKey : String → Bool) (session : JwtSessionData)
    (body : Option SendBody) : PayPromise SendResponse := do
  let body : Option SendBody ← Task.call (I := payPlatform) (.readBody body)
  match body with
  | none => Task.fail (.typeError "Cannot destructure property 'to' of 'body' as it is null.")
  | some body =>
    match checkSend isValidEd25519PublicKey body with
    | .error response => pure response
    | .ok (toAddress, sendAmount) =>
      if session.type ≠ some .custodial then
        pure ⟨403, "Custodial authentication required", none⟩
      else sendFrom session.sub toAddress sendAmount

def handlePostCustodialSend (isValidEd25519PublicKey : String → Bool) (session : JwtSessionData)
    (body : Option SendBody) : PayPromise SendResponse :=
  (trySend isValidEd25519PublicKey session body).recover fun _ =>
    pure ⟨400, "Invalid request body", none⟩

end ProviderPlatform
