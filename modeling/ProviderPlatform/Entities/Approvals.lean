import ProviderPlatform.Entities.PostEntity
import ProviderPlatform.Frame
import Mathlib.Algebra.Order.Group.Multiset

/-! # The standing of an account with a PP

`recordInteraction` never touches an APPROVED, PENDING or BLOCKED row, but
`handlePostEntity` promotes whatever row it finds. As long as it finds no
BLOCKED row, nothing an entity can do changes which accounts are blocked, and
none of them passes the admission gate. -/
namespace ProviderPlatform
open Async Store

/-! ## The process -/

/-- What an entity can call. -/
inductive KycCall
  | idle
  | createChallenge (publicKey : PublicKey)
  | postEntity (ppPublicKey : Option PublicKey) (raw : Json)
  | addOperationsBundle (input : BundleRequest)
  | recordInteraction (ppPublicKey : PublicKey) (accountPubkey : AccountId)

/-- The tasks; an admission notes the pair that passed its gate. -/
def KycCall.program (cfg : Config) (env : AuthEnv) : KycCall → KycPromise Unit
  | .idle => pure ()
  | .createChallenge publicKey => do
    let _ ← (createEntityChallenge publicKey).embed ofAuth
    pure ()
  | .postEntity ppPublicKey raw => do
    let _ ← handlePostEntity env ppPublicKey raw
    pure ()
  | .addOperationsBundle input => do
    let adm ← (checkRequest cfg input).embed ofPlatform
    Task.op (I := kycPlatform) (.noteAdmitted input.ppPublicKey adm.accountId)
    let bundleEntity ← (persistBundle input adm).embed ofPlatform
    (enqueueBundle cfg input adm bundleEntity).embed ofPlatform
  | .recordInteraction ppPublicKey accountPubkey =>
    (command (.recordInteraction ppPublicKey accountPubkey)).embed ofPlatform

inductive KycDrift
  | elapse (ms : Nat)
  | platform (d : Drift)
  | horizon (account : String → PublicKey → Option Signers)

def kycProcess (cfg : Config) (env : AuthEnv) : Machine kycPlatform KycState KycCall KycDrift where
  host := kycHost env
  program := KycCall.program cfg env
  startable _ _ := true
  boot := .idle
  drift
    | .elapse ms, s => (kycHost env).pass ms s
    | .platform d, s => { s with platform := drift d s.platform }
    | .horizon account, s => { s with auth := { s.auth with account := account } }
  reboot s := { s with
    platform := reboot cfg s.platform
    auth := { s.auth with pending := fun _ => .empty } }

abbrev KycPool := Pool kycPlatform KycState KycCall
abbrev KycChoice := Choice kycPlatform KycCall KycDrift

/-! ## The standing -/

/-- A PP and an account. -/
abbrev Pair := PublicKey × AccountId

def Database.standing (db : Database) (pair : Pair) : Option EntityStatus :=
  (db.approvals.find pair).map (·.status)

def KycState.standing (s : KycState) (pair : Pair) : Option EntityStatus :=
  s.platform.db.standing pair

theorem standing_of_found {db : Database} {ppPublicKey : PublicKey} {accountPubkey : AccountId}
    {row : PpEntityApproval}
    (h : Query.run db (.findByPpAndAccount ppPublicKey accountPubkey) = some row) :
    db.standing (ppPublicKey, accountPubkey) = some row.status := by
  have hfind : db.approvals.find (ppPublicKey, accountPubkey) = some row :=
    (Option.filter_eq_some_iff.mp h).1
  rw [Database.standing, hfind]
  rfl

theorem Database.standing_updated {db : Database} {p : PpEntityApproval → Bool}
    {f : PpEntityApproval → PpEntityApproval} (hf : ∀ row, (f row).key = row.key) (pair : Pair) :
    { db with approvals := db.approvals.update p f hf }.standing pair =
      (db.approvals.find pair).map fun row => (if p row then f row else row).status := by
  simp only [standing]
  rw [Table.find_update, Option.map_map]
  rfl

/-- A write that keeps the status of a pair. -/
theorem Database.standing_update {db : Database} {p : PpEntityApproval → Bool}
    {f : PpEntityApproval → PpEntityApproval} (hf : ∀ row, (f row).key = row.key) (pair : Pair)
    (h : ∀ row, row.key = pair → p row = true → (f row).status = row.status) :
    { db with approvals := db.approvals.update p f hf }.standing pair = db.standing pair := by
  rw [standing_updated, standing]
  cases hfind : db.approvals.find pair with
  | none => rfl
  | some row =>
    have hkey := Table.find_key hfind
    by_cases hp : p row = true
    · simp only [Option.map_some, if_pos hp, h row hkey hp]
    · simp only [Option.map_some, if_neg hp]

/-- A new row has a pair that had none. -/
theorem Database.standing_insert {db : Database} {row : PpEntityApproval}
    {approvals : Table PpEntityApproval.key} (h : db.approvals.insert? row = some approvals)
    (pair : Pair) : { db with approvals := approvals }.standing pair =
      if row.key = pair then some row.status else db.standing pair := by
  simp only [standing]
  rw [Table.find_insert h]
  split <;> rfl

theorem Database.standing_of_insert {db : Database} {row : PpEntityApproval}
    {approvals : Table PpEntityApproval.key} (h : db.approvals.insert? row = some approvals) :
    db.standing row.key = none := by
  rw [standing, (Table.insert?_eq_some h).1]
  rfl

/-- A command of the platform gives a standing only to a pair that has none. -/
theorem Command.run_standing (w : Command) (now : Time) (db : Database) (pair : Pair) :
    (w.run now db).2.standing pair = db.standing pair ∨
      db.standing pair = none ∧ (w.run now db).2.standing pair = some .unverified := by
  cases w with
  | recordInteraction ppPublicKey accountPubkey =>
    simp only [Command.run]
    cases hinsert : db.approvals.insert? ⟨ppPublicKey, accountPubkey, .unverified, now, none⟩ with
    | some approvals =>
      have hnone := Database.standing_of_insert hinsert
      have hnew := Database.standing_insert hinsert pair
      split at hnew
      · rename_i hkey
        exact .inr ⟨hkey ▸ hnone, hnew⟩
      · exact .inl hnew
    | none => exact .inl (Database.standing_update _ pair fun _ _ _ => rfl)
  | createBundle data | createTransaction data =>
    left
    simp only [Command.run]
    split <;> rfl
  | createUtxo data | createLink data =>
    left
    simp only [Command.run]
    split
    · split <;> rfl
    · rfl
  | updateUtxo id data =>
    left
    simp only [Command.run]
    split <;> rfl
  | _ => exact .inl rfl

/-- A pair of the platform keeps its standing, or gets its first one. -/
theorem serve_standing (q : Req) (s : State) (pair : Pair) :
    (serve q s).2.db.standing pair = s.db.standing pair ∨
      s.db.standing pair = none ∧ (serve q s).2.db.standing pair = some .unverified := by
  cases q with
  | query q => exact .inl rfl
  | rpc r => exact .inl rfl
  | command w => exact w.run_standing s.clock s.db pair

theorem runKycOp_standing (env : AuthEnv) (o : KycOp) (s : KycState) (pair : Pair) :
    (runKycOp env o s).2.standing pair = s.standing pair := by
  cases o with
  | platform o => exact congrArg (fun db : Database => db.standing pair) (runOp_db o s.platform)
  | auth o => rfl
  | randomUUID => rfl
  | noteAdmitted ppPublicKey accountId => rfl

/-- What a request does to the standing of a pair: nothing, or it gives it its
first one, or it promotes it. -/
theorem serveKyc_standing (env : AuthEnv) (q : KycReq) (s : KycState) (pair : Pair) :
    (serveKyc env q s).2.standing pair = s.standing pair ∨
    (s.standing pair = none ∧ ((serveKyc env q s).2.standing pair = some .unverified ∨
      (serveKyc env q s).2.standing pair = some .approved)) ∨
    (q = .promoteApproval pair.1 pair.2 ∧
      (serveKyc env q s).2.standing pair = some .approved) := by
  cases q with
  | platform q =>
    rcases serve_standing q s.platform pair with h | ⟨hnone, h⟩
    · exact .inl h
    · exact .inr (.inl ⟨hnone, .inl h⟩)
  | auth q => exact .inl rfl
  | readBody raw => exact .inl rfl
  | updateEntity id name jurisdictions => exact .inl rfl
  | createEntity id name jurisdictions =>
    left
    simp only [serveKyc]
    split <;> rfl
  | createAccount id entityId =>
    left
    simp only [serveKyc]
    split
    · split <;> rfl
    · rfl
  | promoteApproval ppPublicKey accountPubkey =>
    by_cases hpair : pair = (ppPublicKey, accountPubkey)
    · subst hpair
      cases hfind : s.platform.db.approvals.find (ppPublicKey, accountPubkey) with
      | none =>
        left
        apply (Database.standing_updated _ _).trans
        rw [KycState.standing, Database.standing, hfind]
        rfl
      | some row =>
        have hkey := Table.find_key hfind
        refine .inr (.inr ⟨rfl, (Database.standing_updated _ _).trans ?_⟩)
        rw [hfind, Option.map_some, hkey, beq_self_eq_true, if_pos rfl]
    · left
      apply Database.standing_update _ pair
      intro row hkey hp
      exact absurd (hkey.symm.trans (eq_of_beq hp)) hpair
  | createApproval ppPublicKey accountPubkey =>
    simp only [serveKyc]
    split
    · rename_i approvals hinsert
      have hnew := Database.standing_insert hinsert pair
      split at hnew
      · rename_i hkey
        exact .inr (.inl ⟨hkey ▸ Database.standing_of_insert hinsert, .inr hnew⟩)
      · exact .inl hnew
    · exact .inl rfl

/-- APPROVED is never taken back. -/
theorem serveKyc_approved (env : AuthEnv) (q : KycReq) {s : KycState} {pair : Pair}
    (h : s.standing pair = some .approved) :
    (serveKyc env q s).2.standing pair = some .approved := by
  rcases serveKyc_standing env q s pair with hsame | ⟨hnone, -⟩ | ⟨-, hnew⟩
  · rw [hsame, h]
  · rw [hnone] at h
    cases h
  · exact hnew

/-- Only a promotion changes whether a pair is blocked. -/
theorem serveKyc_blocked (env : AuthEnv) (q : KycReq) {s : KycState} {pair : Pair}
    (h : q ≠ .promoteApproval pair.1 pair.2 ∨ s.standing pair ≠ some .blocked) :
    (serveKyc env q s).2.standing pair = some .blocked ↔ s.standing pair = some .blocked := by
  rcases serveKyc_standing env q s pair with hsame | ⟨hnone, hnew | hnew⟩ | ⟨hq, hnew⟩
  · rw [hsame]
  · rw [hnone, hnew]
    simp
  · rw [hnone, hnew]
    simp
  · rw [hnew]
    rcases h with hne | hne
    · exact absurd hq hne
    · simp [hne]

/-! ## What a submission knows -/

/-- The pair whose approval a KYC submission looks up. -/
def KycCall.looksUp : KycCall → KycReq → Option Pair
  | .postEntity _ _, .platform (.query (.findByPpAndAccount ppPublicKey accountPubkey)) =>
    some (ppPublicKey, accountPubkey)
  | _, _ => none

/-- The approval that a KYC submission looks up is not BLOCKED. -/
def KycCall.Clears (s : KycState) (l : KycCall) (q : KycReq) : Prop :=
  ∀ pair ∈ l.looksUp q,
    (Query.run s.platform.db (.findByPpAndAccount pair.1 pair.2)).map (·.status) ≠ some .blocked

instance (s : KycState) (l : KycCall) (q : KycReq) : Decidable (l.Clears s q) :=
  inferInstanceAs (Decidable (∀ pair ∈ l.looksUp q, _))

/-- The blocked pairs are those of `blocked`; none of them passed the gate, and
none is among the pairs that submissions found not to be blocked. -/
structure Standing (blocked : Pair → Prop) (s : KycState) (cleared : Multiset Pair) : Prop where
  same : ∀ pair, s.standing pair = some .blocked ↔ blocked pair
  admitted : ∀ pair ∈ s.admitted, ¬ blocked pair
  cleared : ∀ pair ∈ cleared, ¬ blocked pair

/-- Under the condition on lookups. -/
def clearing (blocked : Pair → Prop) (l : KycCall) :
    Discipline kycPlatform KycState (Multiset Pair) where
  inv := Standing blocked
  mayRun _ _ := True
  mayServe s q := l.Clears s q
  mayReject _ _ := True

section Triples
variable {blocked : Pair → Prop} {env : AuthEnv} {cfg : Config} {l : KycCall} {α : Type}

abbrev KycTriple (blocked : Pair → Prop) (env : AuthEnv) (l : KycCall) (cleared : Multiset Pair)
    (t : KycPromise α) (B : Except Err α → Multiset Pair → Prop) : Prop :=
  Task.Triple (kycHost env) (clearing blocked l) cleared t B

theorem Standing.runOp {s : KycState} {cleared : Multiset Pair} {o : KycOp}
    (h : Standing blocked s cleared) (ho : ∀ pp account, o ≠ .noteAdmitted pp account) :
    Standing blocked (runKycOp env o s).2 cleared := by
  constructor
  · intro pair
    rw [runKycOp_standing]
    exact h.same pair
  · cases o with
    | noteAdmitted pp account => exact absurd rfl (ho pp account)
    | _ => exact h.admitted
  · exact h.cleared

/-- No promotion of a pair that is not cleared. -/
theorem Standing.serve {s : KycState} {cleared : Multiset Pair} {q : KycReq}
    (h : Standing blocked s cleared)
    (hq : ∀ pair : Pair, q = .promoteApproval pair.1 pair.2 → ¬ blocked pair) :
    Standing blocked (serveKyc env q s).2 cleared := by
  constructor
  · intro pair
    apply (serveKyc_blocked env q _).trans (h.same pair)
    by_cases hp : q = .promoteApproval pair.1 pair.2
    · exact .inr fun hs => hq pair hp ((h.same pair).mp hs)
    · exact .inl hp
  · have hadmitted : (serveKyc env q s).2.admitted = s.admitted := by
      cases q with
      | createEntity id name jurisdictions =>
        simp only [serveKyc]
        split <;> rfl
      | createAccount id entityId =>
        simp only [serveKyc]
        split
        · split <;> rfl
        · rfl
      | createApproval ppPublicKey accountPubkey =>
        simp only [serveKyc]
        split <;> rfl
      | _ => rfl
    rw [hadmitted]
    exact h.admitted
  · exact h.cleared

/-- Everything a task does but noting an admission and promoting. -/
def KycOp.Quiet : KycOp → Prop
  | .noteAdmitted _ _ => False
  | _ => True

def KycReq.Quiet : KycReq → Prop
  | .promoteApproval _ _ => False
  | _ => True

/-- A quiet task owns nothing, and returns what it yields. -/
theorem quiet_triple {t : KycPromise α} {Q : α → Prop} (ht : t.Uses KycOp.Quiet KycReq.Quiet)
    (hy : t.Yields Q) (cleared : Multiset Pair) :
    KycTriple blocked env l cleared t fun r o => o = cleared ∧ ∀ a, r = .ok a → Q a := by
  apply Task.Triple.of_yields _ _ ht hy cleared
  · intro o ho s r hinv _
    apply hinv.runOp
    rintro pp account rfl
    exact ho
  · intro q hq s r hinv _
    apply hinv.serve
    rintro pair rfl
    exact hq.elim

theorem platform_uses (t : Promise α) :
    (t.embed ofPlatform).Uses KycOp.Quiet KycReq.Quiet :=
  t.uses_any.embed ofPlatform (fun _ _ => trivial) fun _ _ => trivial

theorem auth_uses (t : AuthPromise α) : (t.embed ofAuth).Uses KycOp.Quiet KycReq.Quiet :=
  t.uses_any.embed ofAuth (fun _ _ => trivial) fun _ _ => trivial

/-- A step of the platform that says nothing about what it returns. -/
theorem platform_bind {β : Type} {t : Promise α} {k : α → KycPromise β}
    {B : Except Err β → Multiset Pair → Prop} {cleared : Multiset Pair}
    (hk : ∀ a, KycTriple blocked env l cleared (k a) B) (herr : ∀ e, B (.error e) cleared) :
    KycTriple blocked env l cleared (t.embed ofPlatform >>= k) B := by
  apply (quiet_triple (platform_uses t) (t.yields_any.embed ofPlatform) cleared).bind
  · rintro a o ⟨rfl, -⟩
    exact hk a
  · rintro e o ⟨rfl, -⟩
    exact herr e

/-- A query, whose answer is about the state it was served in. -/
theorem query_bind {β : Type} {q : Query} {k : q.Ans → KycPromise β}
    {B : Except Err β → Multiset Pair → Prop} {cleared : Multiset Pair}
    (hk : ∀ s r, Standing blocked s r → l.Clears s (.platform (.query q)) →
      KycTriple blocked env l cleared (k (q.run s.platform.db)) B)
    (herr : ∀ e, B (.error e) cleared) :
    KycTriple blocked env l cleared ((query q).embed ofPlatform >>= k) B := by
  have hquery : KycTriple blocked env l cleared ((query q).embed ofPlatform) fun r o =>
      o = cleared ∧ ∀ a, r = .ok a → ∃ s r', Standing blocked s r' ∧
        l.Clears s (.platform (.query q)) ∧ a = q.run s.platform.db := by
    intro s f hinv
    refine ⟨cleared, hinv, fun s f hinv => ⟨fun hm => ?_, fun hm e => ?_⟩⟩
    · refine ⟨cleared, hinv, fun s' f' hinv' => ⟨cleared, ⟨rfl, ?_⟩, hinv'⟩⟩
      intro a ha
      cases ha
      exact ⟨s, _, hinv, hm, rfl⟩
    · refine ⟨cleared, hinv, fun s' f' hinv' => ⟨cleared, ⟨rfl, ?_⟩, hinv'⟩⟩
      intro a ha
      cases ha
  apply hquery.bind
  · rintro a o ⟨rfl, ha⟩
    obtain ⟨s, r, hinv, hclears, rfl⟩ := ha a rfl
    exact hk s r hinv hclears
  · rintro e o ⟨rfl, -⟩
    exact herr e

/-! ## The gate -/

theorem rejectSubmitter_yields (ppPublicKey : PublicKey) (accountId : AccountId) :
    (rejectSubmitter ppPublicKey accountId : Promise α).Yields fun _ => False :=
  (Task.yields_any _).bind fun _ _ => Task.Yields.fail _

/-- A submitter that is let through is not blocked. -/
theorem validateSubmitter_triple (ppPublicKey : PublicKey) (sessionId : String)
    (cleared : Multiset Pair) :
    KycTriple blocked env l cleared ((validateSubmitter ppPublicKey sessionId).embed ofPlatform)
      fun r o => o = cleared ∧ ∀ a, r = .ok a → ¬ blocked (ppPublicKey, a.1) := by
  have herr : ∀ e, cleared = cleared ∧ ∀ a : AccountId × Option Entity,
      (Except.error e : Except Err _) = .ok a → ¬ blocked (ppPublicKey, a.1) := by
    intro e
    refine ⟨rfl, ?_⟩
    intro a ha
    cases ha
  have hreject : ∀ accountId : AccountId, KycTriple blocked env l cleared
      ((rejectSubmitter ppPublicKey accountId).embed ofPlatform) fun r o =>
        o = cleared ∧ ∀ a : AccountId × Option Entity, r = .ok a →
          ¬ blocked (ppPublicKey, a.1) := by
    intro accountId
    apply (quiet_triple (platform_uses _) ((rejectSubmitter_yields _ _).embed _) cleared).mono
    rintro r o ⟨rfl, hfalse⟩
    exact ⟨rfl, fun a ha => (hfalse a ha).elim⟩
  unfold validateSubmitter
  rw [Task.embed_bind]
  apply platform_bind _ herr
  intro userSession
  rw [Task.embed_bind]
  apply query_bind _ herr
  intro s r hinv _
  cases haccount : Query.run s.platform.db (.findAccountById userSession.accountId) with
  | none => exact hreject userSession.accountId
  | some account =>
    have hid : account.id = userSession.accountId :=
      Table.find_key (Option.filter_eq_some_iff.mp haccount).1
    dsimp only
    rw [Task.embed_bind]
    apply query_bind _ herr
    intro s r hinv _
    split
    · rename_i happroved
      obtain ⟨row, hrow, hstatus⟩ := Option.map_eq_some_iff.mp happroved
      have hclear : ¬ blocked (ppPublicKey, userSession.accountId) := by
        rw [← hid, ← hinv.same]
        have hstanding := standing_of_found hrow
        rw [hstatus] at hstanding
        rw [KycState.standing, hstanding]
        simp
      rw [Task.embed_bind]
      apply platform_bind _ herr
      intro entity
      apply Task.Triple.done
      refine ⟨rfl, ?_⟩
      intro a ha
      cases ha
      exact hclear
    · exact hreject userSession.accountId

/-- A request that passes the gate is of a pair that is not blocked. -/
theorem checkRequest_triple (input : BundleRequest) (cleared : Multiset Pair) :
    KycTriple blocked env l cleared ((checkRequest cfg input).embed ofPlatform) fun r o =>
      o = cleared ∧ ∀ adm, r = .ok adm → ¬ blocked (input.ppPublicKey, adm.accountId) := by
  have herr : ∀ e, cleared = cleared ∧ ∀ adm : Admission,
      (Except.error e : Except Err _) = .ok adm → ¬ blocked (input.ppPublicKey, adm.accountId) := by
    intro e
    refine ⟨rfl, ?_⟩
    intro a ha
    cases ha
  unfold checkRequest
  split
  · exact Task.Triple.done (herr _)
  split
  · exact Task.Triple.done (herr _)
  rw [Task.embed_bind]
  apply platform_bind _ herr
  intro channelCtx
  rw [Task.embed_bind]
  apply (validateSubmitter_triple input.ppPublicKey input.sessionId cleared).bind
  · rintro submitter o ⟨rfl, hclear⟩
    have hrest : ∀ t : Promise Admission, t.Yields (fun adm => adm.accountId = submitter.1) →
        KycTriple blocked env l o (t.embed ofPlatform) fun r o' =>
          o' = o ∧ ∀ adm, r = .ok adm → ¬ blocked (input.ppPublicKey, adm.accountId) := by
      intro t ht
      apply (quiet_triple (platform_uses t) (ht.embed ofPlatform) o).mono
      rintro r o' ⟨rfl, hyield⟩
      refine ⟨rfl, ?_⟩
      intro adm hadm
      rw [hyield adm hadm]
      exact hclear submitter rfl
    apply hrest
    apply (Task.yields_any _).bind
    intro isBundleExpired _
    apply (Task.yields_any _).bind
    intro operations _
    apply (Task.yields_any _).bind
    intro _ _
    apply (Task.yields_any _).bind
    intro isDisabled _
    split
    · exact Task.Yields.fail _
    · apply (Task.yields_any _).bind
      intro feeAndTtl _
      exact Task.Yields.pure rfl
  · rintro e o ⟨rfl, -⟩
    exact herr e

/-! ## The calls -/

theorem writeIdentity_uses (pubkey : PublicKey) (name : String) (jurisdictions : List String) :
    (writeIdentity pubkey name jurisdictions).Uses KycOp.Quiet KycReq.Quiet := by
  unfold writeIdentity
  apply (Task.Uses.call trivial).bind
  intro account
  cases account with
  | some account =>
    apply (Task.Uses.call trivial).bind
    intro _
    trivial
  | none =>
    apply (Task.Uses.op trivial).bind
    intro entityId
    apply (Task.Uses.call trivial).bind
    intro _
    apply (Task.Uses.call trivial).bind
    intro _
    trivial

/-- What the lookup of an approval leaves a submission with: the pair is cleared
if it has a row. -/
theorem lookup_triple (raw : Json) (pp : Option PublicKey) (ppPublicKey pubkey : PublicKey) :
    KycTriple blocked env (.postEntity pp raw) 0
      (Task.call (I := kycPlatform) (.platform (.query (.findByPpAndAccount ppPublicKey pubkey))))
      fun r o => o = {(ppPublicKey, pubkey)} ∨ ∀ row : PpEntityApproval, r ≠ .ok (some row) := by
  apply Task.Triple.call
  · intro s f hinv hclears
    cases hrow : Query.run s.platform.db (.findByPpAndAccount ppPublicKey pubkey) with
    | none =>
      refine ⟨0, .inr ?_, hinv⟩
      intro row h
      have hnone : Query.run s.platform.db (.findByPpAndAccount ppPublicKey pubkey) = some row :=
        Except.ok.inj h
      rw [hrow] at hnone
      cases hnone
    | some row =>
      have hstatus : row.status ≠ .blocked := by
        intro hblocked
        apply hclears (ppPublicKey, pubkey) rfl
        rw [hrow, Option.map_some, hblocked]
      have hclear : ¬ blocked (ppPublicKey, pubkey) := by
        rw [← hinv.same, KycState.standing, standing_of_found hrow]
        simpa using hstatus
      refine ⟨{(ppPublicKey, pubkey)}, .inl rfl, hinv.same, hinv.admitted, ?_⟩
      intro pair hpair
      rcases Multiset.mem_add.mp hpair with hpair | hpair
      · rw [Multiset.mem_singleton.mp hpair]
        exact hclear
      · exact hinv.cleared pair (Multiset.mem_add.mpr (.inr hpair))
  · intro s f hinv _ e
    refine ⟨0, .inr ?_, hinv⟩
    intro row h
    cases h

/-- A promotion of a pair that is cleared. -/
theorem promote_triple (ppPublicKey pubkey : PublicKey) :
    KycTriple blocked env l {(ppPublicKey, pubkey)}
      (Task.call (I := kycPlatform) (.promoteApproval ppPublicKey pubkey)) fun _ _ => True := by
  apply Task.Triple.call
  · intro s f hinv _
    have hnext : Standing blocked (serveKyc env (.promoteApproval ppPublicKey pubkey) s).2
        ({(ppPublicKey, pubkey)} + f) := by
      apply Standing.serve hinv
      intro pair hpair
      apply hinv.cleared
      cases hpair
      exact Multiset.mem_add.mpr (.inl (Multiset.mem_singleton_self _))
    exact ⟨{(ppPublicKey, pubkey)}, trivial, hnext⟩
  · intro s f hinv _ e
    exact ⟨{(ppPublicKey, pubkey)}, trivial, hinv⟩

theorem writeApproval_triple (raw : Json) (pp : Option PublicKey) (ppPublicKey pubkey : PublicKey)
    (entityId : String) :
    KycTriple blocked env (.postEntity pp raw) 0 (writeApproval ppPublicKey pubkey entityId)
      fun _ _ => True := by
  unfold writeApproval
  apply (lookup_triple raw pp ppPublicKey pubkey).bind
  · intro approval o ho
    cases approval with
    | none =>
      have hcreate : KycTriple blocked env (.postEntity pp raw) o
          (Task.call (I := kycPlatform) (.createApproval ppPublicKey pubkey)) fun _ _ => True :=
        (quiet_triple (Task.Uses.call (by exact trivial)) (Task.yields_any _) o).mono
          fun _ _ _ => trivial
      apply hcreate.bind
      · exact fun _ _ _ => Task.Triple.done trivial
      · exact fun _ _ _ => trivial
    | some row =>
      have hown : o = {(ppPublicKey, pubkey)} := ho.resolve_right fun h => h row rfl
      subst hown
      dsimp only
      split
      · exact Task.Triple.done trivial
      · apply (promote_triple ppPublicKey pubkey).bind
        · exact fun _ _ _ => Task.Triple.done trivial
        · exact fun _ _ _ => trivial
  · exact fun _ _ _ => trivial

theorem tryPostEntity_triple (raw : Json) (pp : Option PublicKey) :
    KycTriple blocked env (.postEntity pp raw) 0 (tryPostEntity env pp raw) fun _ _ => True := by
  have hquiet : ∀ {β : Type} (t : KycPromise β), t.Uses KycOp.Quiet KycReq.Quiet →
      KycTriple blocked env (.postEntity pp raw) 0 t fun _ o => o = 0 :=
    fun t ht => (quiet_triple ht t.yields_any 0).mono fun _ _ h => h.1
  unfold tryPostEntity
  split
  · exact Task.Triple.done trivial
  rename_i ppPublicKey _
  apply (hquiet _ (Task.Uses.call (by exact trivial))).bind
  · rintro json o rfl
    split
    · exact Task.Triple.done trivial
    rename_i body _
    unfold submitEntity
    dsimp only
    split
    · exact Task.Triple.done trivial
    apply (hquiet _ (auth_uses _)).bind
    · rintro sigOk o rfl
      cases sigOk with
      | false => exact Task.Triple.done trivial
      | true =>
        apply (hquiet _ (writeIdentity_uses _ _ _)).bind
        · rintro entityId o rfl
          exact writeApproval_triple raw pp ppPublicKey body.pubkey entityId
        · exact fun _ _ _ => trivial
    · exact fun _ _ _ => trivial
  · exact fun _ _ _ => trivial

theorem note_admitted_triple {ppPublicKey : PublicKey} {accountId : AccountId}
    (h : ¬ blocked (ppPublicKey, accountId)) :
    KycTriple blocked env l 0 (Task.op (I := kycPlatform) (.noteAdmitted ppPublicKey accountId))
      fun _ o => o = 0 := by
  apply Task.Triple.op
  intro s f hinv _
  refine ⟨0, rfl, hinv.same, ?_, hinv.cleared⟩
  intro pair hpair
  rcases List.mem_append.mp hpair with hpair | hpair
  · exact hinv.admitted pair hpair
  · rw [List.mem_singleton.mp hpair]
    exact h

theorem kycProgram_triple (l : KycCall) :
    KycTriple blocked env l 0 (l.program cfg env) fun _ _ => True := by
  have hquiet : ∀ {t : KycPromise Unit}, t.Uses KycOp.Quiet KycReq.Quiet →
      KycTriple blocked env l 0 t fun _ _ => True :=
    fun ht => (quiet_triple ht (Task.yields_any _) 0).mono fun _ _ _ => trivial
  cases l with
  | idle => exact Task.Triple.done trivial
  | createChallenge publicKey => exact hquiet ((auth_uses _).bind fun _ => trivial)
  | recordInteraction ppPublicKey accountPubkey => exact hquiet (platform_uses _)
  | postEntity pp raw =>
    have hhandler : KycTriple blocked env (.postEntity pp raw) 0 (handlePostEntity env pp raw)
        fun _ _ => True :=
      (tryPostEntity_triple raw pp).recover (fun _ _ _ => trivial)
        fun _ _ _ => Task.Triple.done trivial
    apply hhandler.bind
    · exact fun _ _ _ => Task.Triple.done trivial
    · exact fun _ _ _ => trivial
  | addOperationsBundle input =>
    apply (checkRequest_triple input 0).bind
    · rintro adm o ⟨rfl, hclear⟩
      apply (note_admitted_triple (hclear adm rfl)).bind
      · rintro _ o rfl
        exact hquiet ((platform_uses _).bind fun _ => platform_uses _)
      · exact fun _ _ _ => trivial
    · exact fun _ _ _ => trivial

end Triples

/-! ## Every run -/

/-- No KYC submission looks up the approval of a pair that is blocked. -/
def NoneBlocked (c : KycPool) (ch : KycChoice) : Prop :=
  ∀ p ∈ ch.served c, p.1.Clears c.state p.2

instance (c : KycPool) (ch : KycChoice) : Decidable (NoneBlocked c ch) :=
  inferInstanceAs (Decidable (∀ p ∈ ch.served c, p.1.Clears c.state p.2))

section Runs
variable {cfg : Config} {env : AuthEnv} {s : KycState} {c c' : KycPool}

theorem kycDrift_standing (d : KycDrift) (s : KycState) (pair : Pair) :
    ((kycProcess cfg env).drift d s).standing pair = s.standing pair := by
  cases d with
  | elapse ms => rfl
  | horizon account => rfl
  | platform d => cases d <;> rfl

theorem standing_respects (blocked : Pair → Prop) :
    (kycProcess cfg env).Respects (clearing blocked) NoneBlocked where
  run _ _ _ _ _ _ _ _ := trivial
  serve c i l q k hg ht := by
    apply hg (l, q)
    simp only [Choice.served, ht, Option.mem_def]
  reject _ _ _ _ _ _ _ _ := trivial

/-- The blocked pairs of a guarded run are those it started with, and none of
them passed the gate. -/
theorem run_standing (hfresh : s.admitted = [])
    (h : (kycProcess cfg env).Run NoneBlocked ((kycProcess cfg env).init s) c) :
    ∃ cleared, Standing (fun pair => s.standing pair = some .blocked) c.state cleared := by
  let blocked : Pair → Prop := fun pair => s.standing pair = some .blocked
  have hprog : ∀ l, Task.Triple (kycProcess cfg env).host (clearing blocked l) 0
      ((kycProcess cfg env).program l) fun _ _ => True := fun l => kycProgram_triple l
  apply Machine.Owned.holds (M := kycProcess cfg env) (K := clearing blocked)
  apply Machine.Run.owned (K := clearing blocked) (fun _ => rfl) (hprog _) (fun _ l _ => hprog l)
    (standing_respects blocked) _ _ h
  · apply Machine.owned_init (hprog _)
    refine ⟨fun _ => Iff.rfl, ?_, fun _ hpair => absurd hpair (Multiset.notMem_zero _)⟩
    rw [hfresh]
    exact fun _ hpair => absurd hpair List.not_mem_nil
  · intro c d r _ hinv
    refine ⟨?_, ?_, hinv.cleared⟩
    · intro pair
      rw [kycDrift_standing]
      exact hinv.same pair
    · cases d <;> exact hinv.admitted
  · intro c r _ hinv
    exact ⟨hinv.same, hinv.admitted, fun _ hpair => absurd hpair (Multiset.notMem_zero _)⟩

/-- APPROVED stays, whatever is submitted. -/
theorem run_approved (h : (kycProcess cfg env).Run NoneBlocked c c') {pair : Pair}
    (happroved : c.state.standing pair = some .approved) :
    c'.state.standing pair = some .approved := by
  apply h.state_invariant (P := fun s => s.standing pair = some .approved) (g := fun _ _ => True)
    (fun _ _ _ _ _ => trivial) _ _ _ _ happroved
  · intro s o hs _
    exact (runKycOp_standing env o s pair).trans hs
  · intro s q hs
    exact serveKyc_approved env q hs
  · intro s d hs
    exact (kycDrift_standing d s pair).trans hs
  · exact fun s hs => hs

/-- **The standing of an account is not its own to change.** In every run whose
KYC submissions look up no BLOCKED approval, a BLOCKED pair stays BLOCKED, an
APPROVED pair stays APPROVED, and no pair that is BLOCKED passed the admission
gate. -/
theorem approvals_hold (cfg : Config) (env : AuthEnv) {s : KycState} {c c' : KycPool}
    (hfresh : s.admitted = [])
    (h : (kycProcess cfg env).Run NoneBlocked ((kycProcess cfg env).init s) c)
    (h' : (kycProcess cfg env).Run NoneBlocked c c') :
    (∀ pair, c.state.standing pair = some .blocked → c'.state.standing pair = some .blocked) ∧
    (∀ pair, c.state.standing pair = some .approved → c'.state.standing pair = some .approved) ∧
    ∀ pair ∈ c'.state.admitted, c'.state.standing pair ≠ some .blocked := by
  obtain ⟨r, hinv⟩ := run_standing hfresh h
  obtain ⟨r', hinv'⟩ := run_standing hfresh (h.trans h')
  refine ⟨?_, ?_, ?_⟩
  · intro pair hblocked
    exact (hinv'.same pair).mpr ((hinv.same pair).mp hblocked)
  · intro pair happroved
    exact run_approved h' happroved
  · intro pair hpair hblocked
    exact hinv'.admitted pair hpair ((hinv'.same pair).mp hblocked)

end Runs

namespace Small

/-- An entity's submission to "GPP" for the account "GSUB". -/
def submission : Json :=
  .object [("pubkey", .string "GSUB"), ("name", .string "<b>Ada</b>"),
    ("signedChallenge", .object [("nonce", .string "n"), ("signature", .string "00")])]

/-- The standings of three accounts with "GPP". -/
def kycState (status : EntityStatus) : KycState where
  platform := { state with db := { database with
    approvals := ⟨[⟨"GPP", "GSUB", status, 0, none⟩, ⟨"GPP", "GBAN", .blocked, 0, none⟩,
      ⟨"GPP", "GOLD", .approved, 0, none⟩], by simp [PpEntityApproval.key]⟩ } }
  auth := authState
  uuid n := String.ofList (List.replicate n 'u')
  uuids := 0
  admitted := []

/-- The entity asks for a challenge and submits. -/
def submits : List KycChoice :=
  [.start (.createChallenge "GSUB"), .resume 1, .start (.postEntity (some "GPP") submission)] ++
    (List.replicate 6 [.resume 2, .serve 2]).flatten ++ [.resume 2]

/-- And it submits a bundle, which passes the gate. -/
def admits : List KycChoice :=
  submits ++ [.start (.addOperationsBundle (request ["deposit 10"]))] ++
    (List.replicate 10 [.resume 3, .serve 3]).flatten ++ [.resume 3]

end Small

theorem approvals_hold_pending :
    ∃ c, (kycProcess Small.config Small.authEnv).Run NoneBlocked
        ((kycProcess Small.config Small.authEnv).init (Small.kycState .pending)) c ∧
      c.state.standing ("GPP", "GSUB") = some .approved ∧ c.state.admitted = [("GPP", "GSUB")] ∧
      c.state.standing ("GPP", "GBAN") = some .blocked ∧
      c.state.standing ("GPP", "GOLD") = some .approved ∧
      ∀ pair ∈ c.state.admitted, c.state.standing pair ≠ some .blocked := by
  obtain ⟨c, hr, hp⟩ := Machine.exists_run_of_replay
    (M := kycProcess Small.config Small.authEnv) (G := NoneBlocked) Small.admits
    (c := (kycProcess Small.config Small.authEnv).init (Small.kycState .pending))
    (fun s => decide (s.standing ("GPP", "GSUB") = some .approved ∧
      s.admitted = [("GPP", "GSUB")])) (by decide +kernel)
  obtain ⟨hblocked, happroved, hadmitted⟩ :=
    approvals_hold Small.config Small.authEnv rfl (.refl _) hr
  obtain ⟨hsubmitter, hpairs⟩ := of_decide_eq_true hp
  exact ⟨c, hr, hsubmitter, hpairs, hblocked ("GPP", "GBAN") (by decide +kernel),
    happroved ("GPP", "GOLD") (by decide +kernel), hadmitted⟩

/-- A BLOCKED account approves itself. -/
theorem blocked_approves_itself :
    ¬ ∀ (cfg : Config) (env : AuthEnv) (s : KycState) (c c' : KycPool), s.admitted = [] →
      (kycProcess cfg env).Run Machine.Free ((kycProcess cfg env).init s) c →
      (kycProcess cfg env).Run Machine.Free c c' → ∀ pair,
        c.state.standing pair = some .blocked → c'.state.standing pair = some .blocked := by
  intro h
  obtain ⟨c, hr, hp⟩ := Machine.exists_run_of_replay
    (M := kycProcess Small.config Small.authEnv) (G := Machine.Free) Small.submits
    (c := (kycProcess Small.config Small.authEnv).init (Small.kycState .blocked))
    (fun s => decide (s.standing ("GPP", "GSUB") = some .approved)) (by decide +kernel)
  have hblocked := h Small.config Small.authEnv (Small.kycState .blocked) _ c rfl (.refl _) hr
    ("GPP", "GSUB") (by decide +kernel)
  rw [of_decide_eq_true hp] at hblocked
  cases hblocked

end ProviderPlatform
