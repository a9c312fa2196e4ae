import Mathlib.Algebra.Order.PUnit
import ProviderPlatform.Async.Eval
import ProviderPlatform.Async.Hindsight
import ProviderPlatform.Async.Returning
import ProviderPlatform.Pay.Credentials

/-! # Who is given a token

A record is kept beside the run of the accounts that are found, those that are
made, and the tokens. A token goes to the request that made its account, or to one
that told the name of the account and a password with the hash of its own. -/
namespace ProviderPlatform
namespace Credentials
open Async Store Encoding

/-! ## A hash tells its password -/

theorem hexDigit_digitChar : ∀ n < 16, hexDigit (Nat.digitChar n) = some n := by decide

theorem digitChar_plain : ∀ n < 16, isJsSpace (Nat.digitChar n) = false ∧
    Nat.digitChar n ≠ '+' ∧ Nat.digitChar n ≠ '-' ∧ Nat.digitChar n ≠ ':' := by decide

theorem parsePair_digits (b : UInt8) :
    parsePair (Nat.digitChar (b.toNat / 16)) (Nat.digitChar (b.toNat % 16)) = b := by
  have hb := b.toNat_lt
  have hhigh : b.toNat / 16 < 16 := by omega
  have hlow : b.toNat % 16 < 16 := by omega
  obtain ⟨hspace, hplus, hminus, -⟩ := digitChar_plain _ hhigh
  unfold parsePair
  rw [if_neg (by simp [hspace, hplus]), if_neg hminus, hexDigit_digitChar _ hhigh,
    hexDigit_digitChar _ hlow]
  dsimp only
  rw [Nat.div_add_mod, UInt8.ofNat_toNat]

theorem bytesToHex_cons (b : UInt8) (bytes : Encoding.Bytes) : bytesToHex (b :: bytes) =
    Nat.digitChar (b.toNat / 16) :: Nat.digitChar (b.toNat % 16) :: bytesToHex bytes := rfl

theorem hexToBytes_bytesToHex (bytes : Encoding.Bytes) : hexToBytes (bytesToHex bytes) = bytes := by
  induction bytes with
  | nil => rfl
  | cons b bytes ih => rw [bytesToHex_cons, hexToBytes, parsePair_digits, ih]

theorem bytesToHex_ne_colon (bytes : Encoding.Bytes) :
    ∀ c ∈ bytesToHex bytes, (c != ':') = true := by
  intro c hc
  obtain ⟨b, -, hdigit⟩ := List.mem_flatMap.mp hc
  have hb := b.toNat_lt
  have hhigh := (digitChar_plain (b.toNat / 16) (by omega)).2.2.2
  have hlow := (digitChar_plain (b.toNat % 16) (by omega)).2.2.2
  simp only [List.mem_cons, List.not_mem_nil, or_false] at hdigit
  rcases hdigit with rfl | rfl
  · exact bne_iff_ne.mpr hhigh
  · exact bne_iff_ne.mpr hlow

theorem hashParts_storedHash (salt derived : Encoding.Bytes) :
    hashParts (storedHash salt derived) = (bytesToHex salt, bytesToHex derived) := by
  have hsalt := bytesToHex_ne_colon salt
  have hderived := bytesToHex_ne_colon derived
  unfold hashParts storedHash
  rw [String.toList_ofList]
  dsimp only
  rw [List.takeWhile_append_of_pos hsalt, List.dropWhile_append_of_pos hsalt]
  simp [List.takeWhile_eq_self_iff.mpr hderived]

/-- The password has the hash. -/
def Verifies (env : CredEnv) (password hash : String) : Prop :=
  env.sign (env.deriveBits (encodeText password) (hexToBytes (hashParts hash).1)) =
    env.sign (hexToBytes (hashParts hash).2)

/-- A stored hash is that of the passwords that derive the same bits. -/
theorem verifies_storedHash {env : CredEnv} {password : String} {salt derived : Encoding.Bytes} :
    Verifies env password (storedHash salt derived) ↔
      env.sign (env.deriveBits (encodeText password) salt) = env.sign derived := by
  rw [Verifies, hashParts_storedHash, hexToBytes_bytesToHex, hexToBytes_bytesToHex]

/-! ## The record -/

inductive Deed
  | found (l : CredCall) (row : CredRow)
  | created (l : CredCall) (row : CredRow)
  | token (l : CredCall) (sub : AccountId)
  deriving DecidableEq

def CredReq.deeds (l : CredCall) (s : CredState) : CredReq → List Deed
  | .findByUsername username => ((s.payCustodialAccounts.find username).map (Deed.found l)).toList
  | .create row =>
    if (insertAccount s.payCustodialAccounts row).isSome then [.created l row] else []
  | .generateJwt sub _ => [.token l sub]
  | _ => []

theorem mem_deeds_find {l : CredCall} {s : CredState} {username : String} {d : Deed} :
    d ∈ (CredReq.findByUsername username).deeds l s ↔
      ∃ row, s.payCustodialAccounts.find username = some row ∧ .found l row = d := by
  rw [CredReq.deeds, Option.mem_toList, Option.map_eq_some_iff]

def deeds : Observer credPlatform CredState CredCall (List Deed) where
  onOp _ _ _ m := m
  onServe l s q m := m ++ q.deeds l s
  onCrash m := m

theorem deeds_looksback (M : List Deed) : deeds.Looksback (· ⊆ M) where
  op _ _ _ _ h := h
  serve _ _ _ _ h := fun _ hd => h (List.mem_append_left _ hd)
  crash _ h := h

/-- The rows are of one account, with one name and one hash. -/
structure CredRow.Same (a b : CredRow) : Prop where
  id : a.id = b.id
  username : a.username = b.username
  passwordHash : a.passwordHash = b.passwordHash

theorem CredRow.Same.refl (a : CredRow) : a.Same a := ⟨rfl, rfl, rfl⟩

theorem CredRow.Same.symm {a b : CredRow} (h : a.Same b) : b.Same a :=
  ⟨h.id.symm, h.username.symm, h.passwordHash.symm⟩

theorem CredRow.Same.trans {a b c : CredRow} (h : a.Same b) (h' : b.Same c) : a.Same c :=
  ⟨h.id.trans h'.id, h.username.trans h'.username, h.passwordHash.trans h'.passwordHash⟩

/-! ## Accounts stay -/

/-- What was found or made is in the table, and what is in the table was made; no two
accounts have one id. -/
structure CredState.Kept (s : CredState) (m : List Deed) : Prop where
  found : ∀ l row, .found l row ∈ m → ∃ r ∈ s.payCustodialAccounts.rows, r.Same row
  created : ∀ l row, .created l row ∈ m → ∃ r ∈ s.payCustodialAccounts.rows, r.Same row
  origin : ∀ r ∈ s.payCustodialAccounts.rows, ∃ l row, .created l row ∈ m ∧ r.Same row
  ids : (s.payCustodialAccounts.rows.map (·.id)).Nodup

section Kept
variable {env : CredEnv} {s : CredState} {m : List Deed}

theorem insertAccount_eq_some {t t' : Table fun row : CredRow => row.username} {row : CredRow}
    (h : insertAccount t row = some t') :
    t'.rows = t.rows ++ [row] ∧ ∀ r ∈ t.rows, r.id ≠ row.id := by
  unfold insertAccount at h
  split at h
  · cases h
  · rename_i hany
    exact ⟨(Table.insert?_eq_some h).2, by simpa using hany⟩

/-- The table is as it was, and so is all that matters of the record. -/
theorem CredState.Kept.same {s' : CredState} (h : s.Kept m)
    (hs : s'.payCustodialAccounts = s.payCustodialAccounts) : s'.Kept m := by
  refine ⟨?_, ?_, ?_, ?_⟩ <;> rw [hs]
  exacts [h.found, h.created, h.origin, h.ids]

/-- The table is as it was, and what is added to the record was found in it. -/
theorem CredState.Kept.noted {m' : List Deed} (h : s.Kept m)
    (hfound : ∀ l row, .found l row ∈ m' → ∃ r ∈ s.payCustodialAccounts.rows, r.Same row)
    (hcreated : ∀ l row, .created l row ∉ m') : s.Kept (m ++ m') := by
  refine ⟨fun l row hd => ?_, fun l row hd => ?_, fun r hr => ?_, h.ids⟩
  · exact (List.mem_append.mp hd).elim (h.found l row) (hfound l row)
  · exact (List.mem_append.mp hd).elim (h.created l row) fun hd => absurd hd (hcreated l row)
  · obtain ⟨l, row, hd, hsame⟩ := h.origin r hr
    exact ⟨l, row, List.mem_append_left _ hd, hsame⟩

theorem CredState.Kept.inserted {s' : CredState} {row : CredRow} (h : s.Kept m) (l : CredCall)
    (hrows : s'.payCustodialAccounts.rows = s.payCustodialAccounts.rows ++ [row])
    (hids : ∀ r ∈ s.payCustodialAccounts.rows, r.id ≠ row.id) :
    s'.Kept (m ++ [.created l row]) := by
  have hold {row' : CredRow} (hkept : ∃ r ∈ s.payCustodialAccounts.rows, r.Same row') :
      ∃ r ∈ s'.payCustodialAccounts.rows, r.Same row' := by
    obtain ⟨r, hr, hsame⟩ := hkept
    exact ⟨r, hrows ▸ List.mem_append_left _ hr, hsame⟩
  refine ⟨fun l' row' hd => ?_, fun l' row' hd => ?_, fun r hr => ?_, ?_⟩
  · exact hold (h.found l' row' (by simpa using hd))
  · rcases List.mem_append.mp hd with hd | hd
    · exact hold (h.created l' row' hd)
    · cases List.mem_singleton.mp hd
      exact ⟨row, by simp [hrows], .refl _⟩
  · rw [hrows] at hr
    rcases List.mem_append.mp hr with hr | hr
    · obtain ⟨l', row', hd, hsame⟩ := h.origin r hr
      exact ⟨l', row', List.mem_append_left _ hd, hsame⟩
    · cases List.mem_singleton.mp hr
      exact ⟨l, row, by simp, .refl _⟩
  · rw [hrows, List.map_append, List.nodup_append]
    refine ⟨h.ids, List.nodup_singleton _, fun a ha b hb => ?_⟩
    obtain ⟨r, hr, rfl⟩ := List.mem_map.mp ha
    rw [List.map_singleton, List.mem_singleton] at hb
    rw [hb]
    exact hids r hr

theorem CredState.Kept.serve (h : s.Kept m) (l : CredCall) (q : CredReq) :
    (serveCred env q s).2.Kept (m ++ q.deeds l s) := by
  cases q with
  | findByUsername username =>
    refine h.noted (fun l' row hd => ?_) fun l' row hd => ?_
    · obtain ⟨found, hfind, hd⟩ := mem_deeds_find.mp hd
      cases hd
      exact ⟨row, Table.find_mem hfind, .refl _⟩
    · obtain ⟨found, -, hd⟩ := mem_deeds_find.mp hd
      cases hd
  | create row =>
    cases hins : insertAccount s.payCustodialAccounts row with
    | none =>
      have hserve : (serveCred env (.create row) s).2 = s := by simp [serveCred, hins]
      rw [hserve]
      exact h.noted (by simp [CredReq.deeds, hins]) (by simp [CredReq.deeds, hins])
    | some t =>
      obtain ⟨hrows, hids⟩ := insertAccount_eq_some hins
      have hserve : (serveCred env (.create row) s).2.payCustodialAccounts.rows =
          s.payCustodialAccounts.rows ++ [row] := by simp [serveCred, hins, hrows]
      have hdeeds : (CredReq.create row).deeds l s = [.created l row] := by
        simp [CredReq.deeds, hins]
      rw [hdeeds]
      exact h.inserted l hserve hids
  | generateJwt sub sessionId => exact h.noted (by simp [CredReq.deeds]) (by simp [CredReq.deeds])
  | readBody _ | deriveBits _ _ | sign _ =>
    exact h.noted (by simp [CredReq.deeds]) (by simp [CredReq.deeds])

theorem CredRow.written_same (balance : CredRow → Int) (status : CredRow → PayCustodialStatus)
    (row : CredRow) : (row.written balance status).Same row := ⟨rfl, rfl, rfl⟩

theorem drift_write_rows (balance : CredRow → Int) (status : CredRow → PayCustodialStatus) :
    ((credMachine env).drift (.write balance status) s).payCustodialAccounts.rows =
      s.payCustodialAccounts.rows.map (CredRow.written balance status) := by
  simp [credMachine, Table.update]

theorem CredState.Kept.drift (env : CredEnv) (h : s.Kept m) (d : CredDrift) :
    ((credMachine env).drift d s).Kept m := by
  cases d with
  | elapse ms => exact h.same rfl
  | write balance status =>
    have hkept {row : CredRow} (hrow : ∃ r ∈ s.payCustodialAccounts.rows, r.Same row) :
        ∃ r ∈ s.payCustodialAccounts.rows.map (CredRow.written balance status), r.Same row := by
      obtain ⟨r, hr, hsame⟩ := hrow
      exact ⟨_, List.mem_map_of_mem hr, (r.written_same balance status).trans hsame⟩
    refine ⟨?_, ?_, ?_, ?_⟩ <;> rw [drift_write_rows]
    · exact fun l row hd => hkept (h.found l row hd)
    · exact fun l row hd => hkept (h.created l row hd)
    · intro r' hr'
      obtain ⟨r, hr, rfl⟩ := List.mem_map.mp hr'
      obtain ⟨l, row, hd, hsame⟩ := h.origin r hr
      exact ⟨l, row, hd, (r.written_same balance status).trans hsame⟩
    · rw [List.map_map]
      exact h.ids

theorem kept_reachable {G : Pool credPlatform CredState CredCall →
      Choice credPlatform CredCall CredDrift → Prop} {c : Pool credPlatform CredState CredCall}
    (hfresh : s.payCustodialAccounts = .empty)
    (h : (credMachine env).Observed deeds G ((credMachine env).init s) [] c m) :
    c.state.Kept m := by
  apply h.state_invariant (P := fun p => p.1.Kept p.2)
  · intro l s o m hk
    exact hk.same (by cases o <;> rfl)
  · exact fun l s q m hk => hk.serve l q
  · exact fun d s m hk => hk.drift env d
  · exact fun s m hk => hk
  · refine ⟨nofun, nofun, fun r hr => ?_, ?_⟩
    · have hnone : r ∈ s.payCustodialAccounts.rows := hr
      rw [hfresh] at hnone
      cases hnone
    · show (s.payCustodialAccounts.rows.map _).Nodup
      rw [hfresh]
      exact List.nodup_nil

end Kept

/-! ## What the requests do -/

/-- The hash is of the password, with some salt. -/
def HashOf (env : CredEnv) (password hash : String) : Prop :=
  ∃ salt, salt ≠ [] ∧ hash = storedHash salt (env.deriveBits (encodeText password) salt)

/-- The request made the account: its name, and a hash of its password. -/
structure Registered (env : CredEnv) (body : CredBody) (password : String) (row : CredRow) :
    Prop where
  name : body.username = some row.username
  named : row.username ≠ ""
  secret : body.password = some password
  given : password ≠ ""
  hash : HashOf env password row.passwordHash

/-- The request may be given a token for the account. -/
def Granted (env : CredEnv) (M : List Deed) (sub : AccountId) : CredCall → Prop
  | .launch => False
  | .register body => ∃ row, .created (.register body) row ∈ M ∧ row.id = sub ∧
      body.username = some row.username
  | .login body => ∃ row password, .found (.login body) row ∈ M ∧ row.id = sub ∧
      body.username = some row.username ∧ body.password = some password ∧
      Verifies env password row.passwordHash

def Vouched (env : CredEnv) (M : List Deed) : Deed → Prop
  | .found _ _ => True
  | .created l row => ∃ body password, l = .register body ∧ Registered env body password row
  | .token l sub => Granted env M sub l

section Tasks
variable (env : CredEnv) (M : List Deed) (l : CredCall)

/-- All that is done is vouched for by what is done in the end. -/
def crediting : Discipline credPlatform (CredState × List Deed) Unit where
  inv p _ := ∀ d ∈ p.2, Vouched env M d
  mayRun _ _ := True
  mayServe p q := p.2 ++ q.deeds l p.1 ⊆ M
  mayReject _ _ := True

abbrev Credits {α : Type} (t : CredPromise α) (Q : α → Prop) : Prop :=
  Task.Returning ((credHost env).observe deeds l) (crediting env M l) () t Q

variable {env M l}

theorem call_credits {q : CredReq} {Q : q.Ans → Prop}
    (hvouch : ∀ s, ∀ d ∈ q.deeds l s, Vouched env M d)
    (hQ : ∀ s a, q.deeds l s ⊆ M → (serveCred env q s).1 = .ok a → Q a) :
    Credits env M l (credCall q) Q := by
  refine Task.Returning.call fun p _ hs hmay => ⟨fun a ha => ?_, fun d hd => ?_⟩
  · exact hQ p.1 a (fun d hd => hmay (List.mem_append_right _ hd)) ha
  · exact (List.mem_append.mp hd).elim (hs d) (hvouch p.1 d)

theorem run_credits (o : CredOp) : Credits env M l (credRun o) fun _ => True :=
  Task.Returning.op fun _ _ hs _ => ⟨trivial, hs⟩

theorem getRandomValues_credits (length : Nat) :
    Credits env M l (credRun (.getRandomValues length)) fun bytes => bytes.length = length :=
  Task.Returning.op fun _ _ hs _ => ⟨by simp [credHost, Host.observe, runCredOp], hs⟩

/-- A call that leaves no record. -/
theorem pure_call_credits {q : CredReq} {answer : q.Ans} (hdeeds : ∀ s, q.deeds l s = [])
    (hanswer : ∀ s, (serveCred env q s).1 = .ok answer) :
    Credits env M l (credCall q) fun a => a = answer := by
  refine call_credits (fun s d hd => ?_) fun s a _ ha => ?_
  · rw [hdeeds] at hd
    cases hd
  · exact (Except.ok.inj ((hanswer s).symm.trans ha)).symm

theorem readBody_credits (body : CredBody) :
    Credits env M l (credCall (.readBody body)) fun a => a = body :=
  pure_call_credits (q := .readBody body) (fun _ => rfl) fun _ => rfl

theorem deriveBits_credits (password salt : Encoding.Bytes) :
    Credits env M l (credCall (.deriveBits password salt)) fun a =>
      a = env.deriveBits password salt :=
  pure_call_credits (q := .deriveBits password salt) (fun _ => rfl) fun _ => rfl

theorem sign_credits (bytes : Encoding.Bytes) :
    Credits env M l (credCall (.sign bytes)) fun a => a = env.sign bytes :=
  pure_call_credits (q := .sign bytes) (fun _ => rfl) fun _ => rfl

theorem findByUsername_credits (username : String) :
    Credits env M l (credCall (.findByUsername username)) fun found =>
      ∀ row, found = some row → .found l row ∈ M ∧ row.username = username := by
  refine call_credits (fun s d hd => ?_) fun s found hsub hanswer row hrow => ?_
  · obtain ⟨row, -, rfl⟩ := mem_deeds_find.mp hd
    trivial
  · have hfind : s.payCustodialAccounts.find username = some row :=
      (Except.ok.inj hanswer).trans hrow
    exact ⟨hsub (mem_deeds_find.mpr ⟨row, hfind, rfl⟩), Table.find_key hfind⟩

theorem create_credits {row : CredRow} (hrow : Vouched env M (.created l row)) :
    Credits env M l (credCall (.create row)) fun _ => .created l row ∈ M := by
  refine call_credits (fun s d hd => ?_) fun s _ hsub hanswer => hsub ?_
  · simp only [CredReq.deeds] at hd
    split at hd
    · cases List.mem_singleton.mp hd
      exact hrow
    · cases hd
  · cases hins : insertAccount s.payCustodialAccounts row with
    | none => simp [serveCred, hins] at hanswer
    | some t => simp [CredReq.deeds, hins]

theorem generateJwt_credits {sub : AccountId} (h : Granted env M sub l) (sessionId : String) :
    Credits env M l (credCall (.generateJwt sub sessionId)) fun _ => True := by
  refine call_credits (fun s d hd => ?_) fun _ _ _ _ => trivial
  cases List.mem_singleton.mp hd
  exact h

/-! ### Passwords -/

theorem hashPassword_credits (password : String) :
    Credits env M l (hashPassword password) (HashOf env password) := by
  refine Task.Returning.bind (getRandomValues_credits _) fun salt hlength => ?_
  refine Task.Returning.bind (deriveBits_credits _ _) fun derived hderived => ?_
  have hsalt : salt ≠ [] := List.ne_nil_of_length_pos (by omega)
  exact .pure ⟨salt, hsalt, by rw [hderived]⟩

theorem verifyPassword_credits (password hash : String) :
    Credits env M l (verifyPassword password hash) fun valid =>
      valid = true → Verifies env password hash := by
  unfold verifyPassword
  dsimp only
  split
  · exact .pure nofun
  refine Task.Returning.bind (deriveBits_credits _ _) fun derived hderived => ?_
  split
  · exact .pure nofun
  unfold timingSafeEqual
  split
  · exact .pure nofun
  refine Task.Returning.bind (sign_credits _) fun sigA hsigA => ?_
  refine Task.Returning.bind (sign_credits _) fun sigB hsigB => .pure fun hvalid => ?_
  rw [hderived] at hsigA
  exact hsigA.symm.trans ((eq_of_beq hvalid).trans hsigB)

/-! ### The handlers -/

theorem createAccount_credits {body : CredBody} {username password : String}
    (hname : body.username = some username) (hnamed : username ≠ "")
    (hpassword : body.password = some password) (hgiven : password ≠ "") :
    Credits env M (.register body) (createAccount username password) fun _ => True := by
  refine Task.Returning.bind (findByUsername_credits _) fun existing _ => ?_
  split
  · exact .pure trivial
  refine Task.Returning.bind (hashPassword_credits _) fun hash hhash => ?_
  refine Task.Returning.bind (run_credits _) fun depositAddress _ => ?_
  refine Task.Returning.bind (run_credits _) fun accountId _ => ?_
  refine Task.Returning.bind (run_credits _) fun now _ => ?_
  refine Task.Returning.bind
    (create_credits ⟨body, password, rfl, hname, hnamed, hpassword, hgiven, hhash⟩)
    fun _ hcreated => ?_
  refine Task.Returning.bind (run_credits _) fun sessionId _ => ?_
  have hgranted : Granted env M accountId (.register body) := ⟨_, hcreated, rfl, hname⟩
  exact Task.Returning.bind (generateJwt_credits hgranted _) fun _ _ => .pure trivial

theorem signIn_credits {body : CredBody} {password : String} {account : CredRow}
    (hfound : .found (.login body) account ∈ M) (hname : body.username = some account.username)
    (hpassword : body.password = some password) :
    Credits env M (.login body) (signIn password account) fun _ => True := by
  refine Task.Returning.bind (verifyPassword_credits _ _) fun valid hvalid => ?_
  split
  · exact .pure trivial
  rename_i hnot
  split
  · exact .pure trivial
  refine Task.Returning.bind (run_credits _) fun sessionId _ => ?_
  have hgranted : Granted env M account.id (.login body) :=
    ⟨account, password, hfound, rfl, hname, hpassword, hvalid (by simpa using hnot)⟩
  exact Task.Returning.bind (generateJwt_credits hgranted _) fun _ _ => .pure trivial

theorem invalidBody_credits {reply : CredPromise CredReply}
    (h : Credits env M l reply fun _ => True) :
    Credits env M l (invalidBody reply) fun _ => True :=
  Task.Returning.recover h fun _ => .pure trivial

theorem register_credits (body : CredBody) :
    Credits env M (.register body) (handlePostCustodialRegister body) fun _ => True := by
  refine invalidBody_credits (Task.Returning.bind (readBody_credits body) fun read hread => ?_)
  subst hread
  split
  · rename_i username password husername hpassword
    split
    · exact .pure trivial
    split
    · exact .pure trivial
    obtain ⟨hname, hnamed⟩ := Option.filter_eq_some_iff.mp husername
    obtain ⟨hpassword, hgiven⟩ := Option.filter_eq_some_iff.mp hpassword
    exact createAccount_credits hname (bne_iff_ne.mp hnamed) hpassword (bne_iff_ne.mp hgiven)
  · exact .pure trivial

theorem login_credits (body : CredBody) :
    Credits env M (.login body) (handlePostCustodialLogin body) fun _ => True := by
  refine invalidBody_credits (Task.Returning.bind (readBody_credits body) fun read hread => ?_)
  subst hread
  split
  · rename_i username password husername hpassword
    have hname := (Option.filter_eq_some_iff.mp husername).1
    refine Task.Returning.bind (findByUsername_credits _) fun account hfound => ?_
    cases account with
    | none => exact .pure trivial
    | some account =>
      obtain ⟨hmem, husername⟩ := hfound account rfl
      exact signIn_credits hmem (husername ▸ hname) (Option.filter_eq_some_iff.mp hpassword).1
  · exact .pure trivial

theorem program_credits (l : CredCall) : Credits env M l l.program fun _ => True := by
  cases l with
  | launch => exact .pure trivial
  | register body => exact (register_credits body).bind fun _ _ => .pure trivial
  | login body => exact (login_credits body).bind fun _ _ => .pure trivial

end Tasks

/-! ## Runs -/

theorem vouched_reachable {env : CredEnv} {s : CredState} {m : List Deed}
    {c : Pool credPlatform CredState CredCall}
    (h : (credMachine env).Observed deeds Machine.Free ((credMachine env).init s) [] c m) :
    ∀ d ∈ m, Vouched env m d := by
  have hshares : Shares ((credHost env).observe deeds) (crediting env m)
      (fun p _ => ∀ d ∈ p.2, Vouched env m d) (fun _ _ _ => True) (c.state, m) c.tasks := by
    refine h.shares_within (K := crediting env m) (fun _ => rfl) (deeds_looksback m)
      (fun _ _ _ _ _ => trivial) (fun _ _ _ _ h => h) (fun _ _ _ => trivial)
      ((program_credits .launch).mono fun _ _ _ => trivial)
      (fun _ l _ => (program_credits l).mono fun _ _ _ => trivial) (fun _ _ _ _ h => h)
      (fun _ _ _ h => h) ?_ (List.Subset.refl m)
    exact shares_single ((program_credits .launch).mono fun _ _ _ => trivial) (List.forall_mem_nil _)
  obtain ⟨-, hvouched⟩ := hshares.holds
  exact hvouched

/-- Who is given a token, and that an account keeps its name and its hash. -/
structure TokensForOwners (env : CredEnv) (m : List Deed) : Prop where
  /-- A login knew a password that the stored hash takes for the one that the account
  was made with. -/
  login : ∀ body sub, .token (.login body) sub ∈ m → ∃ body₀ row password password₀ salt,
    .created (.register body₀) row ∈ m ∧ row.id = sub ∧
    body.username = some row.username ∧ body.password = some password ∧
    body₀.username = some row.username ∧ body₀.password = some password₀ ∧
    row.passwordHash = storedHash salt (env.deriveBits (encodeText password₀) salt) ∧
    Verifies env password row.passwordHash ∧
    env.sign (env.deriveBits (encodeText password) salt) =
      env.sign (env.deriveBits (encodeText password₀) salt)
  register : ∀ body sub, .token (.register body) sub ∈ m →
    ∃ row, .created (.register body) row ∈ m ∧ row.id = sub ∧ body.username = some row.username
  once : ∀ l l' row row', .created l row ∈ m → .created l' row' ∈ m →
    row.username = row'.username ∨ row.id = row'.id → row.Same row'

/-- **Tokens are for owners.** In every run from an empty table, however the
registrations, logins and crashes interleave, a token for an account went to the
request that made it, or to a login with its name and a password that cannot be told
from its own; and no later registration takes a name or an id over. -/
theorem tokens_for_owners {env : CredEnv} {s : CredState} {m : List Deed}
    {c : Pool credPlatform CredState CredCall} (hfresh : s.payCustodialAccounts = .empty)
    (h : (credMachine env).Observed deeds Machine.Free ((credMachine env).init s) [] c m) :
    TokensForOwners env m := by
  have hkept := kept_reachable hfresh h
  have hvouched := vouched_reachable h
  refine ⟨fun body sub hd => ?_, fun body sub hd => hvouched _ hd, ?_⟩
  · obtain ⟨row, password, hfound, hid, hname, hpassword, hverifies⟩ := hvouched _ hd
    obtain ⟨r, hr, hsame⟩ := hkept.found _ _ hfound
    obtain ⟨l, row₀, hcreated, hsame₀⟩ := hkept.origin r hr
    obtain ⟨body₀, password₀, rfl, hregistered⟩ := hvouched _ hcreated
    obtain ⟨salt, -, hhash⟩ := hregistered.hash
    have hrow := hsame.symm.trans hsame₀
    rw [hrow.passwordHash] at hverifies
    refine ⟨body₀, row₀, password, password₀, salt, hcreated, hrow.id.symm.trans hid,
      hrow.username ▸ hname, hpassword, hregistered.name, hregistered.secret, hhash, hverifies, ?_⟩
    rw [hhash] at hverifies
    exact verifies_storedHash.mp hverifies
  · intro l l' row row' hd hd' heq
    obtain ⟨r, hr, hsame⟩ := hkept.created l row hd
    obtain ⟨r', hr', hsame'⟩ := hkept.created l' row' hd'
    have hrow : r = r' := by
      rcases heq with hname | hid
      · exact Table.eq_of_key_eq hr hr' (hsame.username.trans (hname.trans hsame'.username.symm))
      · exact List.inj_on_of_nodup_map hkept.ids hr hr'
          (hsame.id.trans (hid.trans hsame'.id.symm))
    subst hrow
    exact hsame.symm.trans hsame'

/-! ## The owner is not turned away -/

section Granting
variable {env : CredEnv} {t : Table fun row : CredRow => row.username} {α β : Type}

/-- With this table, and if nothing fails, the task returns a value with the property. -/
abbrev Returns (env : CredEnv) (t : Table fun row : CredRow => row.username) (task : CredPromise α)
    (Q : α → Prop) : Prop :=
  Task.Settles (credHost env) Beat.Serves (·.payCustodialAccounts = t) task
    (fun a s => s.payCustodialAccounts = t ∧ Q a) fun _ => False

theorem Returns.pure {a : α} {Q : α → Prop} (h : Q a) : Returns env t (Pure.pure a) Q :=
  Task.Settles.pure fun _ hs => ⟨hs, h⟩

theorem Returns.bind {task : CredPromise α} {k : α → CredPromise β} {Q : α → Prop} {Q' : β → Prop}
    (h : Returns env t task Q) (hk : ∀ a, Q a → Returns env t (k a) Q') :
    Returns env t (task >>= k) Q' :=
  Task.Settles.bind h fun a bs s hb hs => hk a hs.2 bs s hb hs.1

theorem Returns.call {q : CredReq} {answer : q.Ans}
    (h : ∀ s, s.payCustodialAccounts = t → serveCred env q s = (.ok answer, s)) :
    Returns env t (credCall q) fun a => a = answer := by
  refine Task.Settles.call (fun _ _ hs => hs) (fun s hs => ?_) fun b hb hne => absurd hb hne
  have hserved : (credHost env).serve q s = (.ok answer, s) := h s hs
  rw [hserved]
  exact ⟨hs, rfl⟩

theorem Returns.randomUUID : Returns env t (credRun .randomUUID) fun _ => True :=
  Task.Settles.op fun _ hs => ⟨hs, trivial⟩

theorem bytesToHex_ne_nil {bytes : Encoding.Bytes} (h : bytes ≠ []) : bytesToHex bytes ≠ [] := by
  cases bytes with
  | nil => exact absurd rfl h
  | cons b bytes => simp [bytesToHex_cons]

theorem verifyPassword_returns {password : String} {salt : Encoding.Bytes} (hsalt : salt ≠ []) :
    Returns env t (verifyPassword password
      (storedHash salt (env.deriveBits (encodeText password) salt))) fun valid => valid = true := by
  have hderived : env.deriveBits (encodeText password) salt ≠ [] := by
    refine List.ne_nil_of_length_pos ?_
    rw [env.derived]
    exact Nat.succ_pos 31
  unfold verifyPassword
  rw [hashParts_storedHash]
  dsimp only
  rw [if_neg (not_or.mpr ⟨bytesToHex_ne_nil hsalt, bytesToHex_ne_nil hderived⟩),
    hexToBytes_bytesToHex, hexToBytes_bytesToHex]
  refine Returns.bind (Returns.call fun _ _ => rfl) fun derived hsame => ?_
  subst hsame
  rw [if_neg (fun h => h rfl), timingSafeEqual, if_neg (fun h => h rfl)]
  refine Returns.bind (Returns.call fun _ _ => rfl) fun sigA hsigA => ?_
  refine Returns.bind (Returns.call fun _ _ => rfl) fun sigB hsigB => Returns.pure ?_
  rw [hsigA, hsigB]
  exact beq_self_eq_true _

/-- The reply has a token for the account. -/
def CredReply.Grants (env : CredEnv) (sub : AccountId) (reply : CredReply) : Prop :=
  reply.status = 200 ∧ ∃ sessionId, reply.token = some (env.token sub sessionId)

/-- A login with the name of an account that is not suspended, and the password that
its hash was made of, is given a token for it, if nothing fails. -/
theorem login_granted {body : CredBody} {username password : String} {row : CredRow}
    (hname : body.username = some username) (hnamed : username ≠ "")
    (hpassword : body.password = some password) (hgiven : password ≠ "")
    (hrow : t.find username = some row) (hhash : HashOf env password row.passwordHash)
    (hactive : row.status = .active) :
    Returns env t (handlePostCustodialLogin body) (CredReply.Grants env row.id) := by
  obtain ⟨salt, hsalt, hhash⟩ := hhash
  have hsignIn : Returns env t (signIn password row) (CredReply.Grants env row.id) := by
    have hverified : Returns env t (verifyPassword password row.passwordHash)
        fun valid => valid = true := by
      rw [hhash]
      exact verifyPassword_returns hsalt
    refine Returns.bind hverified fun valid hvalid => ?_
    rw [if_neg (by simp [hvalid]), if_neg (by simp [hactive])]
    refine Returns.bind Returns.randomUUID fun sessionId _ => ?_
    refine Returns.bind (Returns.call fun _ _ => rfl) fun token htoken => ?_
    exact Returns.pure ⟨rfl, sessionId, congrArg some htoken⟩
  have hfind : Returns env t (credCall (.findByUsername username)) fun a => a = some row :=
    Returns.call fun s hs => by rw [serveCred, hs, hrow]
  have hlogin : Returns env t (tryLogin body) (CredReply.Grants env row.id) := by
    refine Returns.bind (Returns.call fun _ _ => rfl) fun read hread => ?_
    subst hread
    have husername : read.username.filter (· != "") = some username := by
      simp [hname, hnamed]
    have hsecret : read.password.filter (· != "") = some password := by
      simp [hpassword, hgiven]
    rw [husername, hsecret]
    refine Returns.bind hfind fun account haccount => ?_
    subst haccount
    exact hsignIn
  exact Task.Settles.recover hlogin (fun _ _ _ _ hs => hs.elim) fun _ => id

end Granting

namespace Small

/-- The bits that are derived are the first of the password and the salt. -/
def env : CredEnv where
  deriveBits password salt := (password ++ salt ++ List.replicate 32 0).take 32
  derived password salt := by
    rw [List.length_take, List.length_append, List.length_replicate]
    omega
  sign bytes := bytes
  token sub sessionId := sub ++ sessionId

def state : CredState where
  clock := 0
  payCustodialAccounts := .empty
  uuid n := if n = 0 then "account" else "session"
  uuids := 0
  random _ := 7
  randoms := 0
  keypair _ := "GDEP"
  keypairs := 0

def body : CredBody := ⟨some "alice", some "password"⟩

def row : CredRow where
  id := "account"
  username := "alice"
  passwordHash :=
    let salt := List.replicate 16 7
    storedHash salt (env.deriveBits (encodeText "password") salt)
  depositAddress := "GDEP"
  balance := 0
  status := .active
  updatedAt := 0

/-- An account is made, and its owner logs in. -/
def signsIn : List (Choice credPlatform CredCall CredDrift) :=
  [.start (.register body)] ++ (List.replicate 5 [.resume 1, .serve 1]).flatten ++ [.resume 1] ++
    [.start (.login body)] ++ (List.replicate 6 [.resume 2, .serve 2]).flatten ++ [.resume 2]

end Small

/-- The owner is given a token twice. -/
theorem tokens_for_owners_small : ∃ m : List Deed,
    .token (.register Small.body) "account" ∈ m ∧ .token (.login Small.body) "account" ∈ m ∧
      TokensForOwners Small.env m := by
  have hwatch : ((credMachine Small.env).watch deeds Machine.Free Small.signsIn
      ((credMachine Small.env).init Small.state) []).map (fun r =>
        r.2.contains (.token (.register Small.body) "account") &&
          r.2.contains (.token (.login Small.body) "account")) = some true := by decide +kernel
  obtain ⟨c, m, h, hp⟩ := Machine.exists_observed Small.signsIn (fun _ (m : List Deed) =>
    m.contains (.token (.register Small.body) "account") &&
      m.contains (.token (.login Small.body) "account")) hwatch
  simp only [Bool.and_eq_true, List.contains_iff_mem] at hp
  exact ⟨m, hp.1, hp.2, tokens_for_owners rfl h⟩

/-- **The owner is not turned away.** Whatever ran since an account was made, the
request that made it, sent as a login, is given a token for it, if the account is
not suspended, the accounts stay as they are meanwhile and nothing fails. -/
theorem owner_granted {env : CredEnv} {s : CredState} {m : List Deed}
    {c : Pool credPlatform CredState CredCall} {body : CredBody} {row : CredRow}
    (hfresh : s.payCustodialAccounts = .empty)
    (h : (credMachine env).Observed deeds Machine.Free ((credMachine env).init s) [] c m)
    (hcreated : .created (.register body) row ∈ m)
    (hactive : ∀ r ∈ c.state.payCustodialAccounts.find row.username, r.status = .active) :
    Returns env c.state.payCustodialAccounts (handlePostCustodialLogin body)
      (CredReply.Grants env row.id) := by
  obtain ⟨body', password, hbody, hregistered⟩ := vouched_reachable h _ hcreated
  cases hbody
  obtain ⟨r, hr, hsame⟩ := (kept_reachable hfresh h).created _ _ hcreated
  have hfind : c.state.payCustodialAccounts.find row.username = some r := by
    rw [← hsame.username]
    exact Table.find_of_mem hr
  have hgranted := login_granted hregistered.name hregistered.named hregistered.secret
    hregistered.given hfind (hsame.passwordHash ▸ hregistered.hash) (hactive r hfind)
  rwa [hsame.id] at hgranted

/-- The account was made, and is the only one. -/
def Small.madeTest (s : CredState) (m : List Deed) : Bool :=
  m.contains (.created (.register body) row) && s.payCustodialAccounts.rows == [row]

/-- The owner, who has logged in, can log in again. -/
theorem owner_granted_small : ∃ t : Table fun row : CredRow => row.username, Small.row ∈ t.rows ∧
    Returns Small.env t (handlePostCustodialLogin Small.body)
      (CredReply.Grants Small.env "account") := by
  have hwatch : ((credMachine Small.env).watch deeds Machine.Free Small.signsIn
      ((credMachine Small.env).init Small.state) []).map (fun r =>
        Small.madeTest r.1.state r.2) = some true := by decide +kernel
  obtain ⟨c, m, h, hp⟩ := Machine.exists_observed Small.signsIn Small.madeTest hwatch
  simp only [Small.madeTest, Bool.and_eq_true, List.contains_iff_mem, beq_iff_eq] at hp
  obtain ⟨hcreated, hrows⟩ := hp
  have hactive : ∀ r ∈ c.state.payCustodialAccounts.find Small.row.username, r.status = .active := by
    intro r hr
    have hmem := Table.find_mem hr
    rw [hrows] at hmem
    cases List.mem_singleton.mp hmem
    rfl
  exact ⟨c.state.payCustodialAccounts, by simp [hrows], owner_granted rfl h hcreated hactive⟩

end Credentials
end ProviderPlatform
