import ProviderPlatform.Async.Log
import ProviderPlatform.Footprint
import Mathlib.Data.List.Chain

/-! # When the verifier may fail a bundle

A thrown RPC error reads as "pending", and "pending" past the timeout fails the
bundles. So a failure is justified by an answer of the network as long as no
call is left unanswered across the timeout of its transaction. -/
namespace ProviderPlatform
open Async Task

/-- What a task did. -/
abbrev Log := List (Step platform State)

/-! ## What a log shows -/

/-- The transactions a cycle read. -/
def listed (log : Log) : List Transaction :=
  log.flatMap fun
    | .served s (.query (.findTransactionsByStatus status)) =>
      (Query.findTransactionsByStatus status).run s.db
    | _ => []

/-- The bundles it found linked to a transaction. -/
def linkedBundles (txId : TxHash) (log : Log) : List BundleId :=
  log.flatMap fun
    | .served s (.query (.findLinksByTransactionId hash)) =>
      if hash = txId then ((Query.findLinksByTransactionId hash).run s.db).map (·.bundleId) else []
    | _ => []

/-- The step moves the bundle to FAILED. -/
def Fails (id : BundleId) : Step platform State → Prop
  | .served _ (.command (.updateBundle bundleId data)) =>
    bundleId = id ∧ data.status = some .failed
  | _ => False

/-- The network answers that the transaction failed, or, past its timeout, that
it does not know the transaction. -/
def Refutes (tx : Transaction) : Step platform State → Prop
  | .served s (.rpc (.getTransaction hash)) =>
    hash = tx.id ∧ match s.network.transaction hash with
      | some (.failed _) => True
      | some .success => False
      | _ => tx.timeout < s.clock
  | _ => False

/-- The call for the transaction throws, or is answered within its timeout. -/
def Unanswered (tx : Transaction) : Step platform State → Prop
  | .rejected _ (.rpc (.getTransaction hash)) _ => hash = tx.id
  | .served s (.rpc (.getTransaction hash)) => hash = tx.id ∧ s.clock ≤ tx.timeout
  | _ => False

/-- The clock is read past the timeout of the transaction. -/
def PastTimeout (tx : Transaction) : Step platform State → Prop
  | .ran s .now => tx.timeout < s.clock
  | _ => False

/-! ## The claim and the condition -/

/-- The cycle read the transaction of the bundle, and the network refuted it. -/
def FailureEvidence (log : Log) (id : BundleId) : Prop :=
  ∃ tx ∈ listed log, id ∈ linkedBundles tx.id log ∧ ∃ st ∈ log, Refutes tx st

/-- The step fails no bundle without evidence. -/
def Justified (log : Log) (st : Step platform State) : Prop :=
  ∀ id, Fails id st → FailureEvidence log id

/-- No call for a transaction that is unanswered within the timeout is followed
by a reading of the clock past it. -/
def AnsweredInTime (log : Log) : Prop :=
  ∀ tx ∈ listed log, log.IsChain fun st st' => Unanswered tx st → ¬ PastTimeout tx st'

section Logs
variable {log : Log} {st : Step platform State} {tx : Transaction} {ids : List BundleId}

theorem listed_mono (h : tx ∈ listed log) : tx ∈ listed (log ++ [st]) := by
  rw [listed, List.flatMap_append]
  exact List.mem_append_left _ h

theorem linkedBundles_mono {txId : TxHash} {id : BundleId} (h : id ∈ linkedBundles txId log) :
    id ∈ linkedBundles txId (log ++ [st]) := by
  rw [linkedBundles, List.flatMap_append]
  exact List.mem_append_left _ h

theorem answeredInTime_prefix (h : AnsweredInTime (log ++ [st])) : AnsweredInTime log :=
  fun tx htx => (h tx (listed_mono htx)).left_of_append

/-- The transaction and its bundles are known. -/
structure Knows (tx : Transaction) (ids : List BundleId) (log : Log) : Prop where
  listed : tx ∈ listed log
  linked : ∀ id ∈ ids, id ∈ linkedBundles tx.id log

theorem Knows.mono (h : Knows tx ids log) : Knows tx ids (log ++ [st]) :=
  ⟨listed_mono h.listed, fun id hid => linkedBundles_mono (h.linked id hid)⟩

/-- They are, and the transaction was refuted. -/
structure Refuted (tx : Transaction) (ids : List BundleId) (log : Log) : Prop
    extends Knows tx ids log where
  refuted : ∃ st ∈ log, Refutes tx st

theorem Refuted.mono (h : Refuted tx ids log) : Refuted tx ids (log ++ [st]) := by
  obtain ⟨st', hst', hrefutes⟩ := h.refuted
  exact ⟨h.toKnows.mono, st', List.mem_append_left _ hst', hrefutes⟩

theorem Refuted.evidence (h : Refuted tx ids log) {id : BundleId} (hid : id ∈ ids) :
    FailureEvidence log id :=
  ⟨tx, h.listed, h.linked id hid, h.refuted⟩

end Logs

/-! ## The cycle -/

/-- Only the named bundles are moved to FAILED. -/
def MayFail (ids : List BundleId) : Req → Prop
  | .command (.updateBundle id data) => data.status = some .failed → id ∈ ids
  | _ => True

theorem mayFail_permits (ids : List BundleId) : Permits (fun _ => True) (MayFail ids) where
  query _ := trivial
  rpc _ := trivial
  now := trivial
  emit _ _ := trivial
  isDisabled _ := trivial

section Spec
variable {tx : Transaction} {ids : List BundleId} {α : Type}

/-- A task that fails no bundle but those of a refuted transaction. -/
theorem logged_refuted {t : Promise α} (ht : Keeps (fun _ => True) (MayFail ids) t) :
    Logged host AnsweredInTime Justified (Refuted tx ids) t fun _ => Refuted tx ids := by
  apply Logged.of_uses (fun _ _ h => h.mono) ?_ ?_ ?_ ht
  · exact fun _ _ _ _ _ _ h => h.elim
  · intro log s q hq hlog id hfails
    cases q with
    | command w =>
      cases w with
      | updateBundle bundleId data =>
        obtain ⟨rfl, hstatus⟩ := hfails
        exact hlog.evidence (hq hstatus)
      | _ => exact hfails.elim
    | _ => exact hfails.elim
  · exact fun _ _ _ _ _ _ _ h => h.elim

/-- A task that fails no bundle. -/
theorem logged_harmless {P : Log → Prop} (hP : ∀ log st, P log → P (log ++ [st])) {t : Promise α}
    (ht : Keeps (fun _ => True) (MayFail []) t) :
    Logged host AnsweredInTime Justified P t fun _ => P := by
  apply Logged.of_uses hP ?_ ?_ ?_ ht
  · exact fun _ _ _ _ _ _ h => h.elim
  · intro log s q hq _ id hfails
    cases q with
    | command w =>
      cases w with
      | updateBundle bundleId data => exact absurd (hq hfails.2) List.not_mem_nil
      | _ => exact hfails.elim
    | _ => exact hfails.elim
  · exact fun _ _ _ _ _ _ _ h => h.elim

/-- What an outcome says of the log. -/
def Told (tx : Transaction) (ids : List BundleId) : VerificationResult → Log → Prop
  | .verified, log => Knows tx ids log
  | .failed _, log => Refuted tx ids log
  | .pending, log => Knows tx ids log ∧
    ∃ before st, log = before ++ [st] ∧ (Unanswered tx st ∨ Refutes tx st)

/-- What the answer about the transaction says of the step that gave it. -/
def Supports (tx : Transaction) (st : Step platform State) : Except Err (Option TxResponse) → Prop
  | .ok (some .success) => True
  | .ok (some (.failed _)) => Refutes tx st
  | _ => Unanswered tx st ∨ Refutes tx st

/-- A lookup that throws is told as pending. -/
def ToldByCall (tx : Transaction) (ids : List BundleId) : Except Err VerificationResult → Log → Prop
  | .ok result, log => Told tx ids result log
  | .error _, log => Told tx ids .pending log

/-- A call that is no write fails no bundle. -/
theorem justified_rpc {log : Log} {s : State} {r : Rpc} : Justified log (.served s (.rpc r)) :=
  fun _ h => h.elim

theorem justified_rejected {log : Log} {s : State} {q : Req} {e : Err} :
    Justified log (.rejected s q e) := fun _ h => h.elim

theorem verifyTransactionOnNetwork_logged :
    Logged host AnsweredInTime Justified (Knows tx ids) (verifyTransactionOnNetwork tx.id)
      fun r log => ∃ result, r = .ok result ∧ Told tx ids result log := by
  apply Logged.recover (B := ToldByCall tx ids)
  · apply Logged.bind (B := fun r log => Knows tx ids log ∧ ∃ before st, log = before ++ [st] ∧
      Supports tx st r)
    · apply Logged.call
      · intro log s hknows _
        refine ⟨justified_rpc, hknows.mono, log, _, rfl, ?_⟩
        show Supports tx _ (.ok (s.network.transaction tx.id))
        cases hanswer : s.network.transaction tx.id with
        | none =>
          rcases le_or_gt s.clock tx.timeout with hle | hlt
          · exact .inl ⟨rfl, hle⟩
          · exact .inr ⟨rfl, by rw [hanswer]; exact hlt⟩
        | some response =>
          cases response with
          | success => trivial
          | failed resultXdr => exact ⟨rfl, by rw [hanswer]; trivial⟩
          | notFound =>
            rcases le_or_gt s.clock tx.timeout with hle | hlt
            · exact .inl ⟨rfl, hle⟩
            · exact .inr ⟨rfl, by rw [hanswer]; exact hlt⟩
      · exact fun log s e hknows _ =>
          ⟨justified_rejected, hknows.mono, log, _, rfl, .inl rfl⟩
    · intro txResponse
      rcases txResponse with _ | _ | resultXdr | _
      · exact .pure fun log h => h
      · exact .pure fun log h => h.1
      · apply Logged.pure
        rintro log ⟨hknows, before, st, rfl, hrefutes⟩
        exact ⟨hknows, st, List.mem_append_right _ List.mem_cons_self, hrefutes⟩
      · exact .pure fun log h => h
    · exact fun e log h => h
  · exact fun result log h => ⟨result, rfl, h⟩
  · exact fun e => .pure fun log h => ⟨.pending, rfl, h⟩

theorem settleTransaction_logged (cfg : Config) (result : VerificationResult) :
    Logged host AnsweredInTime Justified (Told tx ids result)
      (settleTransaction cfg tx ids result) fun _ log => tx ∈ listed log := by
  have hfailure (reason detail) : Keeps (fun _ => True) (MayFail ids)
      (handleVerificationFailure cfg tx.id reason ids true detail) :=
    handleVerificationFailure_keeps (mayFail_permits ids).toReads cfg reason detail trivial
      fun id hid data _ _ => hid
  cases result with
  | verified =>
    have hsuccess : Keeps (fun _ => True) (MayFail [])
        (handleVerificationSuccess cfg tx.id ids) := by
      apply handleVerificationSuccess_keeps (mayFail_permits []) cfg trivial
      intro id _ hstatus
      cases hstatus
    apply (logged_harmless (P := fun log => tx ∈ listed log) (fun _ _ => listed_mono) hsuccess).mono
    · exact fun log h => h.listed
    · exact fun _ _ h => h
  | failed reason =>
    apply (@logged_refuted tx ids _ _ _).mono
    · exact fun log h => h
    · exact fun _ _ h => h.listed
    · refine (findFirstBundleChannel_keeps (mayFail_permits ids).toReads _).bind fun channel => ?_
      refine (hfailure _ _).bind fun _ => ?_
      exact emitFailed_keeps (mayFail_permits ids) _ _ _ _
  | pending =>
    apply Logged.bind (B := fun r log => Knows tx ids log ∧
      ∀ now, r = .ok now → tx.timeout < now → Refuted tx ids log)
    · apply Logged.op
      rintro _ s ⟨hknows, before, st, rfl, hst⟩ hA
      refine ⟨fun _ h => h.elim, hknows.mono, ?_⟩
      rintro _ ⟨⟩ hlate
      refine ⟨hknows.mono, st, by simp, ?_⟩
      rcases hst with hunanswered | hrefutes
      · have hchain := hA tx (listed_mono hknows.listed)
        rw [List.append_assoc] at hchain
        have hpair := hchain.right_of_append
        exact absurd hlate (List.isChain_pair.mp hpair hunanswered)
      · exact hrefutes
    · intro now
      split
      · rename_i hlate
        apply (@logged_refuted tx _ _ _ (hfailure _ _)).mono
        · exact fun log h => h.2 now rfl hlate
        · exact fun _ _ h => h.listed
      · exact .pure fun log h => h.1.listed
    · exact fun e log h => h.1.listed

theorem verifyTransaction_logged (cfg : Config) :
    Logged host AnsweredInTime Justified (fun log => tx ∈ listed log) (verifyTransaction cfg tx)
      fun _ log => tx ∈ listed log := by
  apply Logged.recover (B := fun _ log => tx ∈ listed log)
  · apply Logged.bind (B := fun r log => tx ∈ listed log ∧ ∀ links, r = .ok links →
      ∀ id ∈ links.map (·.bundleId), id ∈ linkedBundles tx.id log)
    · apply Logged.call
      · intro log s htx _
        refine ⟨fun _ h => h.elim, listed_mono htx, ?_⟩
        rintro _ ⟨⟩ id hid
        rw [linkedBundles, List.flatMap_append]
        apply List.mem_append_right
        simpa using hid
      · exact fun log s e htx _ => ⟨justified_rejected, listed_mono htx, nofun⟩
    · intro links
      simp only
      split
      · exact .pure fun log h => h.1
      · apply Logged.bind (verifyTransactionOnNetwork_logged.mono _ fun _ _ h => h)
        · intro result
          apply (settleTransaction_logged cfg result).mono
          · rintro log ⟨_, ⟨⟩, htold⟩
            exact htold
          · exact fun _ _ h => h
        · rintro e log ⟨_, ⟨⟩, _⟩
        · exact fun log h => ⟨h.1, h.2 links rfl⟩
    · exact fun e log h => h.1
  · exact fun _ log h => h
  · exact fun e => .pure fun log h => h

theorem verifyTransactions_logged (cfg : Config) :
    Logged host AnsweredInTime Justified (· = []) (verifyTransactions cfg) fun _ _ => True := by
  apply Logged.recover (B := fun _ _ => True)
  · apply Logged.bind (B := fun r log => ∀ txs, r = .ok txs → ∀ tx ∈ txs, tx ∈ listed log)
    · apply Logged.call
      · intro log s hlog _
        refine ⟨fun _ h => h.elim, ?_⟩
        rintro _ ⟨⟩ tx htx
        rw [hlog, listed]
        simpa using htx
      · exact fun log s e _ _ => ⟨justified_rejected, nofun⟩
    · intro txs
      apply (Logged.forEach (P := fun log => ∀ tx ∈ txs, tx ∈ listed log) _).mono
      · exact fun log h => h txs rfl
      · exact fun _ _ _ => trivial
      · intro tx htx
        have hframe := (@verifyTransaction_logged tx cfg).frame
          (F := fun log => ∀ tx ∈ txs, tx ∈ listed log)
          fun _ _ h tx' htx' => listed_mono (h tx' htx')
        exact hframe.mono (fun log h => ⟨h, h tx htx⟩) fun _ _ h => h.1
    · exact fun _ _ _ => trivial
  · exact fun _ _ _ => trivial
  · exact fun e => .pure fun _ _ => trivial

end Spec

/-! ## Every run -/

/-- **A failure has a reason.** In every run of a process, whatever else it
does, a cycle whose calls are all answered in time moves a bundle to FAILED only
after the network refuted its transaction in that cycle. -/
theorem verifier_failures_justified {cfg : Config} {fuel : Nat} {allowed : State → Call → Bool}
    {s : State} {c : ProviderPool} {logs : List Log} {i : Nat} {t : Promise Unit} {log : Log}
    (h : (process cfg fuel allowed).Recorded Machine.Free s c logs)
    (ht : c.tasks[i]? = some (.verifyTransactions, t)) (hlog : logs[i]? = some log)
    (hanswered : AnsweredInTime log) : Meets Justified log := by
  have hcycle : Logged (process cfg fuel allowed).host AnsweredInTime Justified (· = [])
      ((process cfg fuel allowed).program .verifyTransactions) fun _ _ => True :=
    verifyTransactions_logged cfg
  exact h.meets (fun _ _ => answeredInTime_prefix) hcycle ht hlog hanswered

/-! ## An outage -/

-- The predicates on steps as tests, so that the log of a replayed run decides them.
def failsTest (id : BundleId) : Step platform State → Bool
  | .served _ (.command (.updateBundle bundleId data)) =>
    decide (bundleId = id ∧ data.status = some .failed)
  | _ => false

theorem failsTest_iff {id : BundleId} {st : Step platform State} :
    failsTest id st = true ↔ Fails id st := by
  unfold failsTest Fails
  split
  · exact decide_eq_true_iff
  · exact iff_of_false Bool.false_ne_true not_false

instance (id : BundleId) : DecidablePred (Fails id) := fun _ => decidable_of_iff _ failsTest_iff

def unansweredTest (tx : Transaction) : Step platform State → Bool
  | .rejected _ (.rpc (.getTransaction hash)) _ => decide (hash = tx.id)
  | .served s (.rpc (.getTransaction hash)) => decide (hash = tx.id ∧ s.clock ≤ tx.timeout)
  | _ => false

theorem unansweredTest_iff {tx : Transaction} {st : Step platform State} :
    unansweredTest tx st = true ↔ Unanswered tx st := by
  unfold unansweredTest Unanswered
  split
  · exact decide_eq_true_iff
  · exact decide_eq_true_iff
  · exact iff_of_false Bool.false_ne_true not_false

instance (tx : Transaction) : DecidablePred (Unanswered tx) :=
  fun _ => decidable_of_iff _ unansweredTest_iff

def pastTimeoutTest (tx : Transaction) : Step platform State → Bool
  | .ran s .now => decide (tx.timeout < s.clock)
  | _ => false

theorem pastTimeoutTest_iff {tx : Transaction} {st : Step platform State} :
    pastTimeoutTest tx st = true ↔ PastTimeout tx st := by
  unfold pastTimeoutTest PastTimeout
  split
  · exact decide_eq_true_iff
  · exact iff_of_false Bool.false_ne_true not_false

instance (tx : Transaction) : DecidablePred (PastTimeout tx) :=
  fun _ => decidable_of_iff _ pastTimeoutTest_iff

instance (log : Log) : Decidable (AnsweredInTime log) :=
  inferInstanceAs (Decidable (∀ tx ∈ listed log, log.IsChain _))

/-- The network answered a call for a transaction. -/
def answersTransaction : Step platform State → Bool
  | .served _ (.rpc (.getTransaction _)) => true
  | _ => false

theorem Refutes.answers {tx : Transaction} {st : Step platform State} (h : Refutes tx st) :
    answersTransaction st = true := by
  unfold Refutes at h
  split at h
  · rfl
  · exact h.elim

namespace Small

/-- The transaction fails on-chain; a cycle reads that and fails the bundle. -/
def refuted : List ProviderChoice :=
  submitted ++ [.drift (.network { network with transaction := fun _ => some (.failed none) }),
    .start .verifyTransactions] ++ serves 3 7

/-- The transaction succeeds on-chain; the call of a cycle fails past the
timeout, and the cycle fails the bundle. -/
def outage : List ProviderChoice :=
  submitted ++ [.start .verifyTransactions] ++ serves 3 2 ++
    [.resume 3, .drift (.elapse 6000), .reject 3 (.timeout "getTransaction")] ++ serves 3 3

end Small

theorem verifier_failures_justified_small :
    ∃ log : Log, (∃ st ∈ log, Fails "deposit 10" st) ∧ Meets Justified log := by
  obtain ⟨c, logs, l, t, log, hrec, ht, hlog, hp⟩ := Machine.exists_recorded
    (M := provider Small.config 1) (s := Small.state) Small.refuted 3
    (fun l log => l == .verifyTransactions && log.any (fun st => decide (Fails "deposit 10" st)) &&
      decide (AnsweredInTime log)) (by decide +kernel)
  simp only [Bool.and_eq_true, beq_iff_eq, List.any_eq_true, decide_eq_true_eq] at hp
  obtain ⟨⟨rfl, hfails⟩, hanswered⟩ := hp
  exact ⟨log, hfails, verifier_failures_justified hrec ht hlog hanswered⟩

/-- A bundle whose transaction was applied is failed by a cycle whose call threw. -/
theorem outage_fails_unjustified :
    ¬ ∀ (cfg : Config) (fuel : Nat) (s : State) (c : ProviderPool) (logs : List Log) (i : Nat)
      (t : Promise Unit) (log : Log), Fresh cfg s →
      (provider cfg fuel).Recorded Machine.Free s c logs →
      c.tasks[i]? = some (.verifyTransactions, t) → logs[i]? = some log → Meets Justified log := by
  intro h
  obtain ⟨c, logs, l, t, log, hrec, ht, hlog, hp⟩ := Machine.exists_recorded
    (M := provider Small.config 1) (s := Small.state) Small.outage 3
    (fun l log => l == .verifyTransactions && log.any (fun st => decide (Fails "deposit 10" st)) &&
      !log.any answersTransaction) (by decide +kernel)
  simp only [Bool.and_eq_true, beq_iff_eq, List.any_eq_true, decide_eq_true_eq,
    Bool.not_eq_true', List.any_eq_false] at hp
  obtain ⟨⟨rfl, st, hst, hfails⟩, hnone⟩ := hp
  obtain ⟨before, after, rfl⟩ := List.append_of_mem hst
  have hmeets := h _ _ _ c logs 3 t _ Small.fresh hrec ht hlog
  obtain ⟨tx, -, -, st', hst', hrefutes⟩ := hmeets before st after rfl _ hfails
  exact hnone st' (List.mem_append_left _ hst') hrefutes.answers

end ProviderPlatform
