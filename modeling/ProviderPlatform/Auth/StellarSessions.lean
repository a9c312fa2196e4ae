import ProviderPlatform.Auth.StellarAuth
import ProviderPlatform.Async.Ownership
import Mathlib.Algebra.Order.Group.Multiset
import Mathlib.Algebra.Group.Prod

/-! # A challenge gives one token

A login writes its session under the hash of its challenge before it answers,
and two sessions cannot have one key. A login owns the hash of the session it
has written until it answers; the hashes that are owned and those that were
answered are all different, and each of them has a session. The write is
skipped for a client without an account, but the client of a stored challenge
always has one. -/
namespace ProviderPlatform
open Async Store

/-! ## What a token says -/

/-- The source of the first operation. -/
def StellarPayload.client (payload : StellarPayload) : Option PublicKey :=
  payload.operations.head?.bind (·.source)

/-- The posted transaction may be answered with a token at a moment. -/
structure StellarTransaction.Proven (env : StellarEnv) (tx : StellarTransaction) (now : Time) :
    Prop where
  sequence : tx.payload.sequence = "0"
  provider : tx.signedBy env env.providerKey = true
  client : ∃ client, tx.payload.client = some client ∧ tx.signedBy env client = true
  timely : ∃ timeBounds, tx.payload.timeBounds = some timeBounds ∧
    (timeBounds.minTime : Int) ≤ now / 1000 ∧ now / 1000 ≤ timeBounds.maxTime

theorem checkOperation_ok {env : StellarEnv} {payload : StellarPayload} {timeBounds : TimeBounds}
    {source : Option PublicKey} (h : checkOperation env payload = .ok (timeBounds, source)) :
    payload.sequence = "0" ∧ payload.timeBounds = some timeBounds ∧ payload.client = source := by
  unfold checkOperation at h
  split at h
  · cases h
  · rename_i hsequence
    split at h
    · cases h
    · rename_i timeBounds' htimeBounds
      split at h
      · cases h
      · cases h
      · rename_i source' name value rest hoperations
        split at h
        · cases h
          refine ⟨not_not.mp hsequence, htimeBounds, ?_⟩
          rw [StellarPayload.client, hoperations]
          rfl
        · cases h

theorem checkTimeBounds_ok {timeBounds : TimeBounds} {currentTime : Int}
    (h : checkTimeBounds timeBounds currentTime = .ok ()) :
    timeBounds.minTime ≤ currentTime ∧ currentTime ≤ timeBounds.maxTime := by
  unfold checkTimeBounds at h
  split at h
  · cases h
  · split at h
    · cases h
    · omega

theorem checkSignatures_ok {env : StellarEnv} {tx : StellarTransaction}
    {clientPublicKey : Option PublicKey} (h : checkSignatures env tx clientPublicKey = .ok ()) :
    tx.signedBy env env.providerKey = true ∧
      ∃ client, clientPublicKey = some client ∧ tx.signedBy env client = true := by
  unfold checkSignatures at h
  split at h
  · cases h
  · rename_i client hclient
    split at h
    · cases h
    · rename_i hprovider
      split at h
      · cases h
      · rename_i hsigned
        refine ⟨?_, client, (Option.filter_eq_some_iff.mp hclient).1, ?_⟩
        · simpa using hprovider
        · simpa using hsigned

/-- What the checks of a posted challenge establish. -/
theorem checkChallenge_ok {env : StellarEnv} {signedChallenge : String} {now : Time}
    (h : checkChallenge env signedChallenge now = .ok ()) :
    ∃ tx, env.decode signedChallenge = .transaction tx ∧ tx.Proven env now := by
  unfold checkChallenge newTransaction at h
  cases hdecode : env.decode signedChallenge with
  | malformed =>
    rw [hdecode] at h
    cases h
  | feeBump =>
    rw [hdecode] at h
    cases h
  | transaction tx =>
    rw [hdecode] at h
    refine ⟨tx, rfl, ?_⟩
    cases hoperation : checkOperation env tx.payload with
    | error e =>
      simp only [bind, Except.bind, hoperation] at h
      cases h
    | ok first =>
      obtain ⟨timeBounds, source⟩ := first
      simp only [bind, Except.bind, hoperation] at h
      cases htime : checkTimeBounds timeBounds (now / 1000) with
      | error e =>
        rw [htime] at h
        cases h
      | ok u =>
        rw [htime] at h
        obtain ⟨hsequence, hbounds, hsource⟩ := checkOperation_ok hoperation
        obtain ⟨hprovider, client, hclient, hsigned⟩ := checkSignatures_ok h
        exact ⟨hsequence, hprovider, ⟨client, hsource.trans hclient, hsigned⟩,
          timeBounds, hbounds, checkTimeBounds_ok htime⟩

/-- The hash of the transaction that a request posted. -/
def Answered.hash (env : StellarEnv) (answer : Answered) : Option String :=
  match env.decode answer.body.signedChallenge with
  | .transaction tx => some (env.hash tx.payload)
  | _ => none

def StellarState.HasStored (s : StellarState) (txHash : String) : Prop :=
  ∃ challenge ∈ s.challenges.rows, challenge.txHash = txHash

/-- The request was due a token. -/
def Answered.Legitimate (env : StellarEnv) (s : StellarState) (answer : Answered) : Prop :=
  ∃ tx, env.decode answer.body.signedChallenge = .transaction tx ∧
    tx.Proven env answer.verifiedAt ∧ s.HasStored (env.hash tx.payload)

/-! ## What lasts -/

def Challenge.client (challenge : Challenge) : Option PublicKey :=
  match challenge.txXDR with
  | .transaction tx => tx.payload.client
  | _ => none

/-- The columns that are never changed. -/
structure Challenge.Same (row challenge : Challenge) : Prop where
  id : row.id = challenge.id
  txHash : row.txHash = challenge.txHash
  txXDR : row.txXDR = challenge.txXDR

theorem Challenge.Same.trans {a b c : Challenge} (h : a.Same b) (h' : b.Same c) : a.Same c :=
  ⟨h.id.trans h'.id, h.txHash.trans h'.txHash, h.txXDR.trans h'.txXDR⟩

theorem Challenge.Same.client {row challenge : Challenge} (h : row.Same challenge) :
    row.client = challenge.client := by
  rw [Challenge.client, h.txXDR]
  rfl

def StellarState.HasAccount (s : StellarState) (id : AccountId) : Prop :=
  ∃ account, s.accounts.find id = some account ∧ account.deletedAt = none

/-- What a task has read that no step undoes. -/
inductive StellarFact
  | account (id : AccountId)
  | stored (challenge : Challenge)

def StellarState.Keeps (s : StellarState) (challenge : Challenge) : Prop :=
  ∃ row ∈ s.challenges.rows, row.Same challenge

def StellarFact.Holds (s : StellarState) : StellarFact → Prop
  | account id => s.HasAccount id
  | stored challenge => s.Keeps challenge ∧ ∀ client, challenge.client = some client →
      s.HasAccount client

/-- The hashes of the sessions that a task has written and not answered yet,
and the facts it relies on. -/
abbrev StellarOwn := Multiset String × Multiset StellarFact

def StellarState.answeredHashes (env : StellarEnv) (s : StellarState) : Multiset String :=
  s.answered.filterMap (·.hash env)

structure Guarded (env : StellarEnv) (s : StellarState) (own : StellarOwn) : Prop where
  once : (own.1 + s.answeredHashes env).Nodup
  spent : ∀ hash ∈ own.1 + s.answeredHashes env, (s.sessions.find hash).isSome
  facts : ∀ fact ∈ own.2, fact.Holds s
  accounts : ∀ challenge ∈ s.challenges.rows, ∀ client, challenge.client = some client →
    s.HasAccount client
  legitimate : ∀ answer ∈ s.answered, answer.Legitimate env s

/-- Rows are added, and the rows that were there are kept. -/
structure StellarState.Grows (s s' : StellarState) : Prop where
  accounts : ∀ id, s.HasAccount id → s'.HasAccount id
  challenges : ∀ challenge, s.Keeps challenge → s'.Keeps challenge
  sessions : ∀ id, (s.sessions.find id).isSome → (s'.sessions.find id).isSome

section Guarded
variable {env : StellarEnv} {s s' : StellarState} {own : StellarOwn}

theorem keeps_of_mem {challenge : Challenge} (h : challenge ∈ s.challenges.rows) :
    s.Keeps challenge := ⟨challenge, h, ⟨rfl, rfl, rfl⟩⟩

theorem StellarState.Grows.fact (h : s.Grows s') {fact : StellarFact} (hfact : fact.Holds s) :
    fact.Holds s' := by
  cases fact with
  | account id => exact h.accounts id hfact
  | stored challenge =>
    exact ⟨h.challenges challenge hfact.1, fun client hclient => h.accounts _ (hfact.2 client hclient)⟩

theorem StellarState.Grows.hasStored (h : s.Grows s') {txHash : String}
    (hstored : s.HasStored txHash) : s'.HasStored txHash := by
  obtain ⟨challenge, hmem, rfl⟩ := hstored
  obtain ⟨row, hrow, hsame⟩ := h.challenges challenge (keeps_of_mem hmem)
  exact ⟨row, hrow, hsame.txHash⟩

/-- A step that adds rows, whose new challenges are of clients with an account. -/
theorem Guarded.grow (h : Guarded env s own) (hgrows : s.Grows s')
    (hanswered : s'.answered = s.answered)
    (hnew : ∀ challenge ∈ s'.challenges.rows, ∀ client, challenge.client = some client →
      s'.HasAccount client) : Guarded env s' own := by
  have hhashes : s'.answeredHashes env = s.answeredHashes env := by
    rw [StellarState.answeredHashes, hanswered]
    rfl
  constructor
  · rw [hhashes]
    exact h.once
  · rw [hhashes]
    exact fun hash hmem => hgrows.sessions hash (h.spent hash hmem)
  · exact fun fact hmem => hgrows.fact (h.facts fact hmem)
  · exact hnew
  · intro answer hmem
    rw [hanswered] at hmem
    obtain ⟨tx, hdecode, hproven, hstored⟩ := h.legitimate answer hmem
    exact ⟨tx, hdecode, hproven, hgrows.hasStored hstored⟩

/-- A step that leaves the challenges alone. -/
theorem Guarded.keep (h : Guarded env s own) (hchallenges : s'.challenges = s.challenges)
    (haccounts : ∀ id, s.HasAccount id → s'.HasAccount id)
    (hsessions : ∀ id, (s.sessions.find id).isSome → (s'.sessions.find id).isSome)
    (hanswered : s'.answered = s.answered) : Guarded env s' own := by
  have hgrows : s.Grows s' := by
    refine ⟨haccounts, ?_, hsessions⟩
    intro challenge hkeeps
    rwa [StellarState.Keeps, hchallenges]
  apply h.grow hgrows hanswered
  intro challenge hmem client hclient
  rw [hchallenges] at hmem
  exact haccounts client (h.accounts challenge hmem client hclient)

theorem Guarded.same (h : Guarded env s own) (hchallenges : s'.challenges = s.challenges)
    (haccounts : s'.accounts = s.accounts) (hsessions : s'.sessions = s.sessions)
    (hanswered : s'.answered = s.answered) : Guarded env s' own := by
  apply h.keep hchallenges _ _ hanswered
  · intro id hid
    rwa [StellarState.HasAccount, haccounts]
  · intro id hid
    rwa [hsessions]

/-- A fact that holds may be noted. -/
theorem Guarded.learn (h : Guarded env s own) {fact : StellarFact} (hfact : fact.Holds s) :
    Guarded env s (own + (0, {fact})) := by
  refine ⟨?_, ?_, ?_, h.accounts, h.legitimate⟩
  · rw [Prod.fst_add, add_zero]
    exact h.once
  · rw [Prod.fst_add, add_zero]
    exact h.spent
  · intro fact' hmem
    rw [Prod.snd_add, Multiset.mem_add, Multiset.mem_singleton] at hmem
    rcases hmem with hmem | rfl
    · exact h.facts fact' hmem
    · exact hfact

theorem Guarded.challenge_holds (h : Guarded env s own) {challenge : Challenge}
    (hmem : challenge ∈ s.challenges.rows) : (StellarFact.stored challenge).Holds s :=
  ⟨keeps_of_mem hmem, h.accounts challenge hmem⟩

/-- A new session has a hash that nobody has used. -/
theorem Guarded.session (h : Guarded env s own) {row : WalletSession}
    {sessions : Table WalletSession.id} (hinsert : s.sessions.insert? row = some sessions) :
    Guarded env { s with sessions := sessions } (({row.id}, 0) + own) := by
  obtain ⟨hnone, -⟩ := Table.insert?_eq_some hinsert
  have hfind := Table.find_insert hinsert
  constructor
  · show (({row.id} + own.1) + s.answeredHashes env).Nodup
    rw [add_assoc, Multiset.singleton_add, Multiset.nodup_cons]
    refine ⟨?_, h.once⟩
    intro hmem
    have hspent := h.spent row.id hmem
    rw [hnone] at hspent
    cases hspent
  · intro hash hmem
    rw [show (({row.id}, 0) + own : StellarOwn).1 = {row.id} + own.1 from rfl, add_assoc,
      Multiset.mem_add, Multiset.mem_singleton] at hmem
    rw [hfind]
    rcases hmem with rfl | hmem
    · rw [if_pos rfl]
      rfl
    · split
      · rfl
      · exact h.spent hash hmem
  · intro fact hmem
    rw [show (({row.id}, 0) + own : StellarOwn).2 = 0 + own.2 from rfl, zero_add] at hmem
    have hfact := h.facts fact hmem
    cases fact <;> exact hfact
  · exact h.accounts
  · exact h.legitimate

/-- The answer gives the hash away. -/
theorem Guarded.answered {answer : Answered} {hash : String}
    (h : Guarded env s (({hash}, 0) + own)) (hhash : answer.hash env = some hash)
    (hlegitimate : answer.Legitimate env s) :
    Guarded env { s with answered := s.answered ++ [answer] } own := by
  have hhashes : StellarState.answeredHashes env { s with answered := s.answered ++ [answer] } =
      s.answeredHashes env + {hash} := by
    simp only [StellarState.answeredHashes, List.filterMap_append, List.filterMap_cons, hhash,
      List.filterMap_nil, ← Multiset.coe_add, Multiset.coe_singleton]
  have hall : own.1 + (s.answeredHashes env + {hash}) =
      (({hash}, 0) + own : StellarOwn).1 + s.answeredHashes env := by
    rw [Prod.fst_add]
    abel
  constructor
  · rw [hhashes, hall]
    exact h.once
  · rw [hhashes, hall]
    exact h.spent
  · intro fact hmem
    have hfact := h.facts fact (by rw [Prod.snd_add, zero_add]; exact hmem)
    cases fact <;> exact hfact
  · exact h.accounts
  · intro answer' hmem
    rcases List.mem_append.mp hmem with hmem | hmem
    · exact h.legitimate answer' hmem
    · rw [List.mem_singleton.mp hmem]
      exact hlegitimate

/-- A new challenge of a client with an account. -/
theorem Guarded.challenge (h : Guarded env s own) {row : Challenge}
    {challenges : Table Challenge.id} (hinsert : s.challenges.insert? row = some challenges)
    (hclient : ∀ client, row.client = some client → s.HasAccount client) :
    Guarded env { s with challenges := challenges } own := by
  obtain ⟨-, hrows⟩ := Table.insert?_eq_some hinsert
  have hgrows : s.Grows { s with challenges := challenges } := by
    refine ⟨fun _ hid => hid, ?_, fun _ hid => hid⟩
    rintro challenge ⟨old, hmem, hsame⟩
    refine ⟨old, ?_, hsame⟩
    show old ∈ challenges.rows
    rw [hrows]
    exact List.mem_append_left _ hmem
  apply h.grow hgrows rfl
  intro challenge hmem client hsome
  rw [show StellarState.challenges { s with challenges := challenges } = challenges from rfl,
    hrows, List.mem_append, List.mem_singleton] at hmem
  rcases hmem with hmem | rfl
  · exact h.accounts challenge hmem client hsome
  · exact hclient client hsome

/-- An update that changes none of the lasting columns. -/
theorem Guarded.update (h : Guarded env s own) {p : Challenge → Bool} {f : Challenge → Challenge}
    {hf : ∀ row, (f row).id = row.id}
    (hsame : ∀ row ∈ s.challenges.rows, p row = true → (f row).Same row) :
    Guarded env { s with challenges := s.challenges.update p f hf } own := by
  have hrow : ∀ row ∈ s.challenges.rows, (if p row then f row else row).Same row := by
    intro row hmem
    split
    · rename_i hp
      exact hsame row hmem hp
    · exact ⟨rfl, rfl, rfl⟩
  have hgrows : s.Grows { s with challenges := s.challenges.update p f hf } := by
    refine ⟨fun _ hid => hid, ?_, fun _ hid => hid⟩
    rintro challenge ⟨old, hmem, hold⟩
    exact ⟨_, (Table.mem_update hf).mpr ⟨old, hmem, rfl⟩, (hrow old hmem).trans hold⟩
  apply h.grow hgrows rfl
  intro challenge hmem client hclient
  obtain ⟨old, hold, rfl⟩ := (Table.mem_update hf).mp hmem
  rw [(hrow old hold).client] at hclient
  exact h.accounts old hold client hclient

theorem guarded_drop {facts : Multiset StellarFact} (h : Guarded env s (own + (0, facts))) :
    Guarded env s own := by
  refine ⟨?_, ?_, ?_, h.accounts, h.legitimate⟩
  · have honce := h.once
    rwa [Prod.fst_add, add_zero] at honce
  · have hspent := h.spent
    rwa [Prod.fst_add, add_zero] at hspent
  · intro fact hmem
    apply h.facts fact
    rw [Prod.snd_add]
    exact Multiset.mem_add.mpr (.inl hmem)

end Guarded

/-! ## The steps -/

/-- The answers are noted at the end of a call, and every other step keeps the
books. -/
def guarding (env : StellarEnv) : Discipline stellarPlatform StellarState StellarOwn where
  inv := Guarded env
  mayRun _ _ := True
  mayServe _ _ := True
  mayReject _ _ := True

def StellarOp.Quiet : StellarOp → Prop
  | noteAnswered _ => False
  | _ => True

/-- A request that writes neither a challenge nor a session. -/
def StellarReq.Quiet : StellarReq → Prop
  | createChallenge _ | updateChallenge _ _ | createSession _ => False
  | _ => True

section Triples
variable {env : StellarEnv} {own : StellarOwn} {α : Type}

theorem runStellarOp_kept {o : StellarOp} (ho : o.Quiet) {s : StellarState}
    (h : Guarded env s own) : Guarded env (runStellarOp o s).2 own := by
  cases o with
  | noteAnswered answer => exact ho.elim
  | _ => exact h.same rfl rfl rfl rfl

theorem hasAccount_insert {s : StellarState} {row : Account} {accounts : Table Account.id}
    (hinsert : s.accounts.insert? row = some accounts) {id : AccountId} (hid : s.HasAccount id) :
    StellarState.HasAccount { s with accounts := accounts } id := by
  obtain ⟨account, hfind, hlive⟩ := hid
  have hnew := Table.find_insert hinsert id
  by_cases hkey : row.id = id
  · subst hkey
    rw [(Table.insert?_eq_some hinsert).1] at hfind
    cases hfind
  · rw [if_neg hkey] at hnew
    exact ⟨account, hnew.trans hfind, hlive⟩

theorem serveStellar_kept {q : StellarReq} (hq : q.Quiet) {s : StellarState}
    (h : Guarded env s own) : Guarded env (serveStellar env q s).2 own := by
  cases q with
  | createChallenge row => exact hq.elim
  | updateChallenge id row => exact hq.elim
  | createSession row => exact hq.elim
  | createEntity id =>
    simp only [serveStellar]
    split
    · exact h.same rfl rfl rfl rfl
    · exact h
  | createAccount id entityId =>
    simp only [serveStellar]
    split
    · exact h
    · split
      · rename_i accounts hinsert
        exact h.keep rfl (fun _ => hasAccount_insert hinsert) (fun _ hsome => hsome) rfl
      · exact h
  | recordInteraction ppPublicKey accountPubkey =>
    simp only [serveStellar]
    split <;> exact h.same rfl rfl rfl rfl
  | readBody raw => cases raw <;> exact h
  | _ => exact h

abbrev StellarTriple (env : StellarEnv) (own : StellarOwn) (t : StellarPromise α)
    (B : Except StellarErr α → StellarOwn → Prop) : Prop :=
  Task.Triple (stellarHost env) (guarding env) own t B

theorem stellarCall_triple {q : StellarReq} {B : Except StellarErr q.Ans → StellarOwn → Prop}
    (hserve : ∀ s f, Guarded env s (own + f) → ∃ own', B (serveStellar env q s).1 own' ∧
      Guarded env (serveStellar env q s).2 (own' + f))
    (hreject : ∀ s f, Guarded env s (own + f) → ∀ e, ∃ own', B (.error e) own' ∧
      Guarded env s (own' + f)) :
    StellarTriple env own (Task.call (I := stellarPlatform) q) B :=
  Task.Triple.call (fun s f h _ => hserve s f h) fun s f h _ e => hreject s f h e

/-- A part of the pipeline that only reads, or writes other tables. -/
theorem stellarQuiet_triple {t : StellarPromise α} {Q : α → Prop}
    (ht : t.Uses StellarOp.Quiet StellarReq.Quiet) (hy : t.Yields Q) (own : StellarOwn) :
    StellarTriple env own t fun r o => o = own ∧ ∀ a, r = .ok a → Q a :=
  Task.Triple.of_yields (fun _ ho _ _ h _ => runStellarOp_kept ho h)
    (fun _ hq _ _ h _ => serveStellar_kept hq h) ht hy own

theorem stellarQuiet_bind {β : Type} {t : StellarPromise α} {k : α → StellarPromise β} {Q : α → Prop}
    {B : Except StellarErr β → StellarOwn → Prop}
    (ht : t.Uses StellarOp.Quiet StellarReq.Quiet) (hy : t.Yields Q)
    (hk : ∀ a, Q a → StellarTriple env own (k a) B) (herr : ∀ e, B (.error e) own) :
    StellarTriple env own (t >>= k) B := by
  apply (stellarQuiet_triple ht hy own).bind
  · rintro a o ⟨rfl, hQ⟩
    exact hk a (hQ a rfl)
  · rintro e o ⟨rfl, -⟩
    exact herr e

/-- The stored challenge that a hash finds, which is a fact from then on. -/
theorem findOneByTxHash_triple (txHash : String) (own : StellarOwn) :
    StellarTriple env own (Task.call (I := stellarPlatform) (.findOneByTxHash txHash)) fun r o =>
      (∃ challenge : Challenge, r = .ok (some challenge) ∧ challenge.txHash = txHash ∧
        o = own + (0, {.stored challenge})) ∨
      ((∀ challenge, r ≠ .ok (some challenge)) ∧ o = own) := by
  apply stellarCall_triple
  · intro s f h
    cases hfound : (s.challenges.select (·.txHash == txHash)).head? with
    | none =>
      refine ⟨own, .inr ⟨?_, rfl⟩, h⟩
      intro challenge heq
      have hnone : (serveStellar env (.findOneByTxHash txHash) s).1 = .ok none :=
        congrArg Except.ok hfound
      rw [hnone] at heq
      cases heq
    | some challenge =>
      obtain ⟨hmem, hhash⟩ := Table.mem_select.mp (List.mem_of_head? hfound)
      refine ⟨own + (0, {.stored challenge}), .inl ⟨challenge, ?_, eq_of_beq hhash, rfl⟩, ?_⟩
      · exact congrArg Except.ok hfound
      · have hlearnt := h.learn (h.challenge_holds hmem)
        rwa [add_right_comm] at hlearnt
  · exact fun s f h e => ⟨own, .inr ⟨nofun, rfl⟩, h⟩

/-! ### The posted challenge -/

theorem parseRequestBody_uses (raw : Option Json) :
    (parseRequestBody raw).Uses StellarOp.Quiet StellarReq.Quiet := by
  unfold parseRequestBody
  apply Task.Uses.bind
  · exact (Task.Uses.call (by exact trivial)).recover fun _ => trivial
  · intro bodyPayload
    split <;> trivial

theorem verifyChallenge_uses (signedChallenge : String) :
    (verifyChallenge env signedChallenge).Uses StellarOp.Quiet StellarReq.Quiet := by
  unfold verifyChallenge
  apply Task.Uses.recover
  · apply Task.Uses.bind (Task.Uses.op (by exact trivial))
    intro now
    exact Task.Uses.bind (by exact trivial) fun _ => trivial
  · intro error
    split <;> trivial

theorem verifyChallenge_yields (signedChallenge : String) :
    (verifyChallenge env signedChallenge).Yields fun now =>
      checkChallenge env signedChallenge now = .ok () := by
  unfold verifyChallenge
  apply Task.Yields.recover
  · apply (Task.yields_any _).bind
    intro now _
    cases hcheck : checkChallenge env signedChallenge now with
    | error e => exact Task.Yields.fail (I := stellarPlatform) e
    | ok u => exact Task.Yields.pure (I := stellarPlatform) hcheck
  · intro error
    split <;> exact Task.Yields.fail _

theorem generateChallengeJwt_uses (signedChallenge : String) :
    (generateChallengeJwt env signedChallenge).Uses StellarOp.Quiet StellarReq.Quiet := by
  unfold generateChallengeJwt
  apply Task.Uses.bind (by exact trivial)
  intro tx
  split
  · trivial
  · split
    · trivial
    · apply Task.Uses.bind (Task.Uses.op (by exact trivial))
      intro now
      exact Task.Uses.call (by exact trivial)

theorem updateLiveSession_uses (key : String) :
    (updateLiveSession env key).Uses StellarOp.Quiet StellarReq.Quiet := by
  unfold updateLiveSession
  apply Task.Uses.bind (Task.Uses.op (by exact trivial))
  intro memorySession
  split
  · trivial
  · apply Task.Uses.bind (Task.Uses.op (by exact trivial))
    intro now
    exact Task.Uses.op (by exact trivial)

theorem recordConnect_uses (ppPublicKey : PublicKey) (accountPubkey : AccountId) :
    (recordConnect ppPublicKey accountPubkey).Uses StellarOp.Quiet StellarReq.Quiet :=
  (Task.Uses.call (by exact trivial)).recover fun _ => trivial

theorem entityStatusOf_uses (ppPublicKey : PublicKey) (accountPubkey : AccountId) :
    (entityStatusOf ppPublicKey accountPubkey).Uses StellarOp.Quiet StellarReq.Quiet := by
  unfold entityStatusOf
  apply Task.Uses.bind (Task.Uses.call (by exact trivial))
  intro approval
  split
  · exact (recordConnect_uses _ _).bind fun _ => trivial
  · split
    · exact (recordConnect_uses _ _).bind fun _ => trivial
    · trivial

theorem attachEntityStatus_uses (ppPublicKey : PublicKey) (jwt : String) :
    (attachEntityStatus env ppPublicKey jwt).Uses StellarOp.Quiet StellarReq.Quiet := by
  unfold attachEntityStatus
  apply Task.Uses.bind (by exact trivial)
  intro sub
  split
  · trivial
  · apply Task.Uses.bind (Task.Uses.call (by exact trivial))
    intro pp
    split
    · trivial
    · exact (entityStatusOf_uses _ _).bind fun _ => trivial

theorem extractOperation_client {payload : StellarPayload} {nonce : String} {client : PublicKey}
    (h : extractOperationFromChallengeTx payload = .ok (nonce, client)) :
    payload.client = some client := by
  unfold extractOperationFromChallengeTx at h
  split at h
  · cases h
  · cases h
  · rename_i source name value rest hoperations
    split at h
    · cases h
    · cases h
    · cases h
      rw [StellarPayload.client, hoperations]
      rfl

/-- The client of a stored challenge is the one of the posted transaction. -/
theorem checkStored_client {payload : StellarPayload} {challenge : Challenge}
    (h : checkStored env payload challenge = .ok ()) : challenge.client = payload.client := by
  unfold checkStored at h
  split at h
  · cases h
  · cases h
  · rename_i localTx hxdr
    cases hlocal : extractOperationFromChallengeTx localTx.payload with
    | error e =>
      simp only [bind, Except.bind, hlocal] at h
      cases h
    | ok l =>
      cases hincoming : extractOperationFromChallengeTx payload with
      | error e =>
        simp only [bind, Except.bind, hlocal, hincoming] at h
        cases h
      | ok i =>
        simp only [bind, Except.bind, hlocal, hincoming] at h
        split at h
        · cases h
        · split at h
          · cases h
          · rename_i hclient
            rw [Challenge.client, hxdr]
            show localTx.payload.client = payload.client
            rw [extractOperation_client hlocal, extractOperation_client hincoming,
              not_not.mp hclient]

theorem compareChallenge_triple {signedChallenge : String} {tx : StellarTransaction}
    (hdecode : env.decode signedChallenge = .transaction tx) (own : StellarOwn) :
    StellarTriple env own (compareChallenge env signedChallenge) fun r o =>
      r = .ok () → ∃ challenge : Challenge, challenge.txHash = env.hash tx.payload ∧
        challenge.client = tx.payload.client ∧ o = own + (0, {.stored challenge}) := by
  have hnew : newTransaction env signedChallenge = .ok tx := by
    simp only [newTransaction, hdecode]
  unfold compareChallenge
  rw [hnew]
  apply (findOneByTxHash_triple (env.hash tx.payload) own).bind
  · rintro found o (⟨challenge, hfound, hhash, rfl⟩ | ⟨hnone, rfl⟩)
    · cases hfound
      apply Task.Triple.done
      intro hok
      exact ⟨challenge, hhash, checkStored_client hok, rfl⟩
    · cases found with
      | none => exact Task.Triple.done nofun
      | some challenge => exact absurd rfl (hnone challenge)
  · exact fun _ _ _ => nofun

theorem serve_createSession {s : StellarState} (row : WalletSession) :
    (∃ sessions, s.sessions.insert? row = some sessions ∧
      serveStellar env (.createSession row) s = (.ok (), { s with sessions := sessions })) ∨
    serveStellar env (.createSession row) s = (.error violation, s) := by
  by_cases haccount : s.accounts.find row.accountId = none
  · exact .inr (by simp only [serveStellar, if_pos haccount])
  · cases hinsert : s.sessions.insert? row with
    | none => exact .inr (by simp only [serveStellar, if_neg haccount, hinsert])
    | some sessions =>
      exact .inl ⟨sessions, rfl, by simp only [serveStellar, if_neg haccount, hinsert]⟩

theorem owns_session (key : String) (facts : Multiset StellarFact) :
    (({key}, 0) : StellarOwn) + (0, facts) = ({key}, facts) :=
  Prod.ext (add_zero _) (zero_add _)

/-- The client of a stored challenge has an account, so its session is written. -/
theorem createSession_triple {challenge : Challenge} {client : PublicKey}
    (hclient : challenge.client = some client) (key jwt : String) :
    StellarTriple env (0, {.stored challenge}) (createSession key jwt client) fun r o =>
      r = .ok () → o = ({key}, {.stored challenge}) := by
  have hfind : StellarTriple env (0, {.stored challenge})
      (Task.call (I := stellarPlatform) (.findAccountById client)) fun r o =>
        o = (0, {.stored challenge}) ∧ r ≠ .ok none := by
    apply stellarCall_triple
    · intro s f h
      refine ⟨_, ⟨rfl, ?_⟩, h⟩
      have hfact : (StellarFact.stored challenge).Holds s := by
        apply h.facts
        rw [Prod.snd_add]
        exact Multiset.mem_add.mpr (.inl (Multiset.mem_singleton_self _))
      obtain ⟨account, hfound, hlive⟩ := hfact.2 client hclient
      intro hnone
      have hnone : (s.accounts.find client).filter (·.deletedAt.isNone) = none :=
        Except.ok.inj hnone
      rw [hfound] at hnone
      simp [Option.filter, hlive] at hnone
    · exact fun s f h e => ⟨_, ⟨rfl, nofun⟩, h⟩
  unfold createSession
  apply hfind.bind
  · rintro account o ⟨rfl, hsome⟩
    cases account with
    | none => exact absurd rfl hsome
    | some account =>
      apply stellarQuiet_bind (Task.Uses.op (by exact trivial)) (Task.yields_any _)
      · intro now _
        apply stellarCall_triple
        · intro s f h
          rcases @serve_createSession env s _ with ⟨sessions, hinsert, heq⟩ | heq
          · rw [heq]
            refine ⟨({key}, {.stored challenge}), fun _ => rfl, ?_⟩
            have hwritten := h.session hinsert
            rwa [← add_assoc, owns_session] at hwritten
          · rw [heq]
            exact ⟨_, nofun, h⟩
        · exact fun s f h e => ⟨_, nofun, h⟩
      · exact fun _ => nofun
  · exact fun _ _ _ => nofun

theorem updateChallengeSession_triple {signedChallenge : String} {tx : StellarTransaction}
    (hdecode : env.decode signedChallenge = .transaction tx) {challenge : Challenge}
    (hclient : challenge.client = tx.payload.client) (jwt : String) :
    StellarTriple env (0, {.stored challenge}) (updateChallengeSession env signedChallenge jwt)
      fun r o => r = .ok () → o = ({env.hash tx.payload}, {.stored challenge}) := by
  have hnew : newTransaction env signedChallenge = .ok tx := by
    simp only [newTransaction, hdecode]
  unfold updateChallengeSession
  rw [hnew]
  apply stellarQuiet_bind (updateLiveSession_uses (env.hash tx.payload)) (Task.yields_any _)
  · intro u _
    split
    · exact Task.Triple.done nofun
    · rename_i operation rest hoperations
      split
      · exact Task.Triple.done nofun
      · rename_i client hsource
        apply createSession_triple
        rw [hclient, StellarPayload.client, hoperations]
        exact hsource
  · exact fun _ => nofun

theorem updateChallengeDb_triple (signedChallenge : String) (own : StellarOwn) :
    StellarTriple env own (updateChallengeDb env signedChallenge) fun r o =>
      r = .ok () → o = own := by
  unfold updateChallengeDb
  cases newTransaction env signedChallenge with
  | error e => exact Task.Triple.done nofun
  | ok tx =>
    apply (findOneByTxHash_triple (env.hash tx.payload) own).bind
    · rintro found o (⟨challenge, hfound, -, rfl⟩ | ⟨hnone, rfl⟩)
      · cases hfound
        apply stellarCall_triple
        · intro s f h
          refine ⟨own, fun _ => rfl, ?_⟩
          have hfact : (StellarFact.stored challenge).Holds s := by
            apply h.facts
            rw [Prod.snd_add, Prod.snd_add, Multiset.mem_add, Multiset.mem_add]
            exact .inl (.inr (Multiset.mem_singleton_self _))
          obtain ⟨⟨row, hmem, hsame⟩, -⟩ := hfact
          rw [add_right_comm] at h
          apply (guarded_drop h).update
          intro old hold hid
          have heq : old = row :=
            Table.eq_of_key_eq hold hmem ((eq_of_beq hid).trans hsame.id.symm)
          subst heq
          exact ⟨rfl, hsame.txHash.symm, hsame.txXDR.symm⟩
        · intro s f h e
          rw [add_right_comm] at h
          exact ⟨own, nofun, guarded_drop h⟩
      · cases found with
        | none => exact Task.Triple.done nofun
        | some challenge => exact absurd rfl (hnone challenge)
    · exact fun _ _ _ => nofun

/-- A login that is about to be answered owns the hash of its challenge. -/
def AnswerDue (env : StellarEnv) (answer : Answered) (own : StellarOwn) : Prop :=
  ∃ tx challenge, env.decode answer.body.signedChallenge = .transaction tx ∧
    tx.Proven env answer.verifiedAt ∧ challenge.txHash = env.hash tx.payload ∧
    own = ({env.hash tx.payload}, {.stored challenge})

theorem handlePostAuth_triple (raw : Option Json) :
    StellarTriple env 0 (handlePostAuth env raw) fun r o =>
      ∀ answer, r = .ok answer → AnswerDue env answer o := by
  unfold handlePostAuth
  apply stellarQuiet_bind (parseRequestBody_uses raw) (Task.yields_any _) _ fun _ => nofun
  intro body _
  apply stellarQuiet_bind (verifyChallenge_uses _) (verifyChallenge_yields _) _ fun _ => nofun
  intro verifiedAt hcheck
  obtain ⟨tx, hdecode, hproven⟩ := checkChallenge_ok hcheck
  apply (compareChallenge_triple hdecode 0).bind _ fun _ _ _ => nofun
  intro u o hcompared
  obtain ⟨challenge, hhash, hclient, rfl⟩ := hcompared rfl
  rw [zero_add]
  apply stellarQuiet_bind (generateChallengeJwt_uses _) (Task.yields_any _) _ fun _ => nofun
  intro jwt _
  apply (updateChallengeSession_triple hdecode hclient jwt).bind _ fun _ _ _ => nofun
  intro u o hwritten
  rw [hwritten rfl]
  apply (updateChallengeDb_triple _ _).bind _ fun _ _ _ => nofun
  intro u o hupdated
  rw [hupdated rfl]
  apply stellarQuiet_bind (attachEntityStatus_uses _ _) (Task.yields_any _) _ fun _ => nofun
  intro data _
  apply Task.Triple.done
  rintro answer ⟨⟩
  exact ⟨tx, challenge, hdecode, hproven, hhash, rfl⟩

theorem noteAnswered_triple {answer : Answered} {own : StellarOwn} (hdue : AnswerDue env answer own) :
    StellarTriple env own (Task.op (I := stellarPlatform) (.noteAnswered answer))
      fun _ _ => True := by
  obtain ⟨tx, challenge, hdecode, hproven, hhash, rfl⟩ := hdue
  apply Task.Triple.op
  intro s f h _
  have hguard : Guarded env s (({env.hash tx.payload}, {.stored challenge}) + f) := h
  refine ⟨0, trivial, ?_⟩
  have hfact : (StellarFact.stored challenge).Holds s := by
    apply hguard.facts
    rw [Prod.snd_add]
    exact Multiset.mem_add.mpr (.inl (Multiset.mem_singleton_self _))
  obtain ⟨⟨row, hmem, hsame⟩, -⟩ := hfact
  have hanswer : answer.hash env = some (env.hash tx.payload) := by
    simp only [Answered.hash, hdecode]
  rw [← owns_session, add_right_comm] at hguard
  have hnoted := (guarded_drop hguard).answered hanswer
    ⟨tx, hdecode, hproven, row, hmem, hsame.txHash.trans hhash⟩
  rwa [zero_add]

/-! ### The challenge that is handed out -/

theorem findOrCreateAccount_triple (clientAccount : PublicKey) :
    StellarTriple env 0 (findOrCreateAccount clientAccount) fun r o =>
      ∀ id, r = .ok id → o = (0, {.account clientAccount}) := by
  have hfind : StellarTriple env 0 (Task.call (I := stellarPlatform) (.findAccountById clientAccount))
      fun r o => (∀ account : Account, r = .ok (some account) → o = (0, {.account clientAccount})) ∧
        (r = .ok none → o = 0) := by
    apply stellarCall_triple
    · intro s f h
      cases hfound : (s.accounts.find clientAccount).filter (·.deletedAt.isNone) with
      | none =>
        refine ⟨0, ⟨?_, fun _ => rfl⟩, h⟩
        intro account heq
        have heq : (s.accounts.find clientAccount).filter (·.deletedAt.isNone) = some account :=
          Except.ok.inj heq
        rw [hfound] at heq
        cases heq
      | some account =>
        refine ⟨(0, {.account clientAccount}), ⟨fun _ _ => rfl, ?_⟩, ?_⟩
        · intro heq
          have heq : (s.accounts.find clientAccount).filter (·.deletedAt.isNone) = none :=
            Except.ok.inj heq
          rw [hfound] at heq
          cases heq
        · obtain ⟨hrow, hlive⟩ := Option.filter_eq_some_iff.mp hfound
          rw [zero_add] at h
          rw [add_comm]
          exact h.learn ⟨account, hrow, Option.isNone_iff_eq_none.mp hlive⟩
    · exact fun s f h e => ⟨0, ⟨fun _ he => (by cases he), fun he => by cases he⟩, h⟩
  have hcreate : ∀ entityId, StellarTriple env 0
      (Task.call (I := stellarPlatform) (.createAccount clientAccount entityId)) fun r o =>
        r = .ok () → o = (0, {.account clientAccount}) := by
    intro entityId
    apply stellarCall_triple
    · intro s f h
      have hkept := serveStellar_kept (q := .createAccount clientAccount entityId) trivial h
      by_cases hentity : s.entities.find entityId = none
      · refine ⟨0, ?_, hkept⟩
        simp only [serveStellar, if_pos hentity]
        intro he
        cases he
      · cases hinsert : s.accounts.insert? ⟨clientAccount, entityId, none⟩ with
        | none =>
          refine ⟨0, ?_, hkept⟩
          simp only [serveStellar, if_neg hentity, hinsert]
          intro he
          cases he
        | some accounts =>
          refine ⟨(0, {.account clientAccount}), fun _ => rfl, ?_⟩
          have hserved : serveStellar env (.createAccount clientAccount entityId) s =
              (.ok (), { s with accounts := accounts }) := by
            simp only [serveStellar, if_neg hentity, hinsert]
          rw [hserved, zero_add] at hkept
          rw [hserved, add_comm]
          apply hkept.learn
          refine ⟨⟨clientAccount, entityId, none⟩, ?_, rfl⟩
          exact (Table.find_insert hinsert clientAccount).trans (if_pos rfl)
    · exact fun s f h e => ⟨0, fun he => (by cases he), h⟩
  unfold findOrCreateAccount
  apply hfind.bind
  · rintro found o ⟨hsome, hnone⟩
    cases found with
    | some account =>
      rw [hsome account rfl]
      exact Task.Triple.done fun _ _ => rfl
    | none =>
      rw [hnone rfl]
      apply stellarQuiet_bind (Task.Uses.op (by exact trivial)) (Task.yields_any _) _
        fun _ _ he => by cases he
      intro entityId _
      apply stellarQuiet_bind (Task.Uses.call (by exact trivial)) (Task.yields_any _) _
        fun _ _ he => by cases he
      intro u _
      apply (hcreate entityId).bind
      · intro u o ho
        rw [ho rfl]
        exact Task.Triple.done fun _ _ => rfl
      · exact fun _ _ _ _ he => by cases he
  · exact fun _ _ _ _ he => by cases he

theorem createChallengeRow_triple {row : Challenge} {clientAccount : PublicKey}
    (hclient : row.client = some clientAccount) :
    StellarTriple env (0, {.account clientAccount})
      (Task.call (I := stellarPlatform) (.createChallenge row)) fun _ _ => True := by
  apply stellarCall_triple
  · intro s f h
    refine ⟨(0, {.account clientAccount}), trivial, ?_⟩
    simp only [serveStellar]
    split
    · exact h
    · split
      · rename_i challenges hinsert
        apply h.challenge hinsert
        intro client hsome
        rw [hclient, Option.some.injEq] at hsome
        subst hsome
        have hfact : (StellarFact.account clientAccount).Holds s := by
          apply h.facts
          rw [Prod.snd_add]
          exact Multiset.mem_add.mpr (.inl (Multiset.mem_singleton_self _))
        exact hfact
      · exact h
  · exact fun s f h e => ⟨_, trivial, h⟩

theorem createChallengeDb_triple {challengeData : ChallengeData} {tx : StellarTransaction}
    (hxdr : challengeData.xdr = .transaction tx)
    (hclient : tx.payload.client = some challengeData.clientAccount) :
    StellarTriple env 0 (createChallengeDb challengeData) fun _ _ => True := by
  unfold createChallengeDb
  apply Task.Triple.recover (B := fun _ _ => True)
  · apply (findOrCreateAccount_triple challengeData.clientAccount).bind
    · intro accountId o ho
      rw [ho accountId rfl]
      apply stellarQuiet_bind (Task.Uses.op (by exact trivial)) (Task.yields_any _) _
        fun _ => trivial
      intro id _
      apply stellarQuiet_bind (Task.Uses.op (by exact trivial)) (Task.yields_any _) _
        fun _ => trivial
      intro now _
      apply createChallengeRow_triple
      rw [Challenge.client, hxdr]
      exact hclient
    · exact fun _ _ _ => trivial
  · exact fun _ _ _ => trivial
  · exact fun _ _ _ => Task.Triple.done trivial

theorem createChallengeMemory_uses (challengeData : ChallengeData) :
    (createChallengeMemory challengeData).Uses StellarOp.Quiet StellarReq.Quiet := by
  unfold createChallengeMemory
  apply Task.Uses.bind (Task.Uses.op (by exact trivial))
  intro existingSession
  split
  · trivial
  · exact Task.Uses.op (by exact trivial)

/-- The challenge that is built is a transaction of the client. -/
theorem challengeData_yields (clientAccount : PublicKey) (requestId : String) :
    (createChallenge env clientAccount requestId).Yields fun challengeData =>
      ∃ tx, challengeData.xdr = .transaction tx ∧
        tx.payload.client = some challengeData.clientAccount := by
  unfold createChallenge
  apply (Task.yields_any _).bind
  intro nonce _
  apply (Task.yields_any _).bind
  intro now _
  split
  · exact Task.Yields.fail _
  · exact Task.Yields.pure ⟨_, rfl, rfl⟩

theorem challengeData_uses (clientAccount : PublicKey) (requestId : String) :
    (createChallenge env clientAccount requestId).Uses StellarOp.Quiet StellarReq.Quiet := by
  unfold createChallenge
  apply Task.Uses.bind (Task.Uses.op (by exact trivial))
  intro nonce
  apply Task.Uses.bind (Task.Uses.op (by exact trivial))
  intro now
  split <;> trivial

theorem handleGetAuth_triple (account : Option String) (requestId : String) :
    StellarTriple env 0 (handleGetAuth env account requestId) fun _ _ => True := by
  unfold handleGetAuth
  split
  · exact Task.Triple.done trivial
  · apply stellarQuiet_bind (challengeData_uses _ _) (challengeData_yields _ _) _
      fun _ => trivial
    rintro challengeData ⟨tx, hxdr, hclient⟩
    apply (createChallengeDb_triple hxdr hclient).bind _ fun _ _ _ => trivial
    intro u o _
    apply stellarQuiet_bind (createChallengeMemory_uses _) (Task.yields_any _) _ fun _ => trivial
    intro u _
    exact Task.Triple.done trivial

end Triples

/-! ## Every run -/

/-- The requests to the endpoint. -/
inductive StellarCall
  | idle
  | getAuth (account : Option String) (requestId : String)
  | postAuth (raw : Option Json)

/-- A request that is answered with a token is noted. -/
def StellarCall.program (env : StellarEnv) : StellarCall → StellarPromise Unit
  | .idle => pure ()
  | .getAuth account requestId => do
    let _ ← handleGetAuth env account requestId
    pure ()
  | .postAuth raw => do
    let answer ← handlePostAuth env raw
    Task.op (I := stellarPlatform) (.noteAnswered answer)

/-- The clock, the timer of the live sessions, and the other endpoints. -/
inductive StellarDrift
  | elapse (ms : Nat)
  | cleanupExpired
  | createAccount (entity : Entity) (account : Account)
  | paymentProviders (rows : Table KycListing.publicKey)
  | approvals (rows : Table PpEntityApproval.key)

/-- An account that another endpoint makes, if the keys are free. -/
def StellarState.addAccount (s : StellarState) (entity : Entity) (account : Account) :
    StellarState :=
  match s.entities.insert? entity, s.accounts.insert? account with
  | some entities, some accounts => { s with entities := entities, accounts := accounts }
  | _, _ => s

/-- The live sessions are lost with the process. -/
def stellarProcess (env : StellarEnv) :
    Machine stellarPlatform StellarState StellarCall StellarDrift where
  host := stellarHost env
  program := StellarCall.program env
  startable _ _ := true
  boot := .idle
  drift
    | .elapse ms, s => { s with clock := s.clock + ms }
    | .cleanupExpired, s => { s with live := s.live.cleanupExpired s.clock }
    | .createAccount entity account, s => s.addAccount entity account
    | .paymentProviders rows, s => { s with paymentProviders := rows }
    | .approvals rows, s => { s with approvals := rows }
  reboot s := { s with live := .empty }

abbrev StellarPool := Pool stellarPlatform StellarState StellarCall

/-- Nothing is answered yet, and the client of every stored challenge has an
account. -/
structure StellarState.Fresh (s : StellarState) : Prop where
  answered : s.answered = []
  accounts : ∀ challenge ∈ s.challenges.rows, ∀ client, challenge.client = some client →
    s.HasAccount client

section Runs
variable {env : StellarEnv} {s : StellarState} {c : StellarPool}

theorem StellarState.Fresh.guarded (h : s.Fresh) : Guarded env s 0 := by
  have hhashes : s.answeredHashes env = 0 := by
    rw [StellarState.answeredHashes, h.answered]
    rfl
  constructor
  · rw [hhashes]
    exact Multiset.nodup_zero
  · rw [hhashes]
    exact fun hash hmem => absurd hmem (Multiset.notMem_zero hash)
  · exact fun fact hmem => absurd hmem (Multiset.notMem_zero fact)
  · exact h.accounts
  · rw [h.answered]
    exact nofun

theorem stellarProgram_triple (l : StellarCall) :
    StellarTriple env 0 (l.program env) fun _ _ => True := by
  cases l with
  | idle => exact Task.Triple.done trivial
  | getAuth account requestId =>
    apply (handleGetAuth_triple account requestId).bind
    · exact fun _ _ _ => Task.Triple.done trivial
    · exact fun _ _ _ => trivial
  | postAuth raw =>
    apply (handlePostAuth_triple raw).bind
    · intro answer o hdue
      exact noteAnswered_triple (hdue answer rfl)
    · exact fun _ _ _ => trivial

theorem Guarded.addAccount {own : StellarOwn} (h : Guarded env s own) (entity : Entity)
    (account : Account) : Guarded env (s.addAccount entity account) own := by
  unfold StellarState.addAccount
  split
  · rename_i entities accounts _ hinsert
    have haccounts : ∀ id, s.HasAccount id →
        StellarState.HasAccount { s with entities := entities, accounts := accounts } id :=
      fun id hid => hasAccount_insert hinsert hid
    exact h.keep rfl haccounts (fun _ hsome => hsome) rfl
  · exact h

theorem run_guarded (hfresh : s.Fresh)
    (h : (stellarProcess env).Run Machine.Free ((stellarProcess env).init s) c) :
    ∃ own, Guarded env c.state own := by
  apply Machine.Owned.holds (M := stellarProcess env) (K := fun _ => guarding env)
  apply Machine.Run.owned (K := fun _ => guarding env) (fun _ => rfl)
    (@stellarProgram_triple env .idle) (fun _ l _ => stellarProgram_triple l) _ _ _ h
  · exact Machine.owned_init (@stellarProgram_triple env .idle) hfresh.guarded
  · exact ⟨fun _ _ _ _ _ _ _ _ => trivial, fun _ _ _ _ _ _ _ => trivial,
      fun _ _ _ _ _ _ _ _ => trivial⟩
  · intro c d r _ hinv
    have hguard : Guarded env c.state r := hinv
    cases d with
    | createAccount entity account => exact hguard.addAccount entity account
    | _ => exact hguard.same rfl rfl rfl rfl
  · intro c r _ hinv
    have hguard : Guarded env c.state r := hinv
    refine ⟨?_, ?_, fun fact hmem => absurd hmem (Multiset.notMem_zero fact), hguard.accounts,
      hguard.legitimate⟩
    · exact Multiset.nodup_of_le (add_le_add_left (Multiset.zero_le _) _) hguard.once
    · intro hash hmem
      exact hguard.spent hash (Multiset.mem_of_le (add_le_add_left (Multiset.zero_le _) _) hmem)

/-- **A challenge gives one token, and only to who signed it.** In every state
that any interleaving of requests for challenges and of logins reaches, each
hash was answered with a token at most once, and every request that was has
posted a transaction with sequence number 0, signed by the provider and by the
source of its first operation, within its time bounds, whose hash is that of a
stored challenge. -/
theorem stellar_sessions_single_use (env : StellarEnv) {s : StellarState} {c : StellarPool}
    (hfresh : s.Fresh)
    (h : (stellarProcess env).Run Machine.Free ((stellarProcess env).init s) c) :
    (∀ txHash, (c.state.answered.filterMap (·.hash env)).count txHash ≤ 1) ∧
      ∀ answer ∈ c.state.answered, answer.Legitimate env c.state := by
  obtain ⟨own, hguard⟩ := run_guarded hfresh h
  refine ⟨?_, hguard.legitimate⟩
  intro txHash
  have hnodup : (c.state.answered.filterMap (·.hash env)).Nodup :=
    Multiset.coe_nodup.mp (Multiset.nodup_of_le (Multiset.le_add_left _ _) hguard.once)
  exact List.nodup_iff_count_le_one.mp hnodup txHash

end Runs

namespace Small

/-- The challenge of "GW" with both signatures. -/
def signedChallenge : StellarTransaction where
  payload := {
    source := "GP", sequence := "0", fee := "0", timeBounds := some ⟨0, 900⟩
    operations := [.manageData (some "GW") "example.com auth" (some "n")] }
  signatures := [[1], [2]]

/-- The provider signs with the byte 1, and everyone else with the byte 2. -/
def stellarEnv : StellarEnv where
  serviceDomain := "example.com"
  challengeTtl := 900
  sessionTtl := 3600
  providerKey := "GP"
  decode text := if text = "signed" then .transaction signedChallenge else .malformed
  hash payload := match payload.operations with
    | .manageData _ _ (some nonce) :: _ => nonce
    | _ => ""
  sign _ := [1]
  verify publicKey _ signature := signature == if publicKey = "GP" then [1] else [2]
  isEd25519PublicKey _ := true
  matchesPublicKey _ := true
  toDateString _ := "Thu Jan 01 1970"
  token payload := payload.sub
  subject jwt := .ok (some jwt)

def stellarState : StellarState where
  clock := 0
  challenges := .empty
  accounts := .empty
  entities := .empty
  sessions := .empty
  paymentProviders := .empty
  approvals := .empty
  live := .empty
  uuid n := String.ofList (List.replicate n 'u')
  uuids := 0
  nonce n := String.ofList (List.replicate (n + 1) 'n')
  nonces := 0
  answered := []

def loginBody : Json :=
  .object [("signedChallenge", .string "signed"), ("ppPublicKey", .string "GPP")]

/-- "GW" asks for a challenge and posts it twice at the same time. -/
def doubleLogin : List (Choice stellarPlatform StellarCall StellarDrift) :=
  let turns := fun i n => (List.replicate n [.resume i, .serve i]).flatten
  [.start (.getAuth (some "GW") "r")] ++ turns 1 4 ++ [.resume 1, .start (.postAuth (some loginBody)),
    .start (.postAuth (some loginBody))] ++ turns 2 4 ++ turns 3 5 ++ turns 2 1 ++ turns 3 3 ++
    [.resume 3, .resume 2]

theorem stellarState_fresh : stellarState.Fresh := ⟨rfl, nofun⟩

end Small

theorem stellar_sessions_double_login :
    ∃ c, (stellarProcess Small.stellarEnv).Run Machine.Free
        ((stellarProcess Small.stellarEnv).init Small.stellarState) c ∧
      c.state.answered.length = 1 ∧
      (∀ txHash, (c.state.answered.filterMap (·.hash Small.stellarEnv)).count txHash ≤ 1) := by
  obtain ⟨c, hr, hp⟩ := Machine.exists_run_of_replay (M := stellarProcess Small.stellarEnv)
    (G := Machine.Free) Small.doubleLogin
    (c := (stellarProcess Small.stellarEnv).init Small.stellarState)
    (fun s => s.answered.length == 1) (by decide +kernel)
  exact ⟨c, hr, eq_of_beq hp,
    (stellar_sessions_single_use Small.stellarEnv Small.stellarState_fresh hr).1⟩

end ProviderPlatform
