import ProviderPlatform.Auth.Challenges
import Mathlib.Algebra.Order.Group.Multiset

/-! # Challenges are used once

A verification that consumes a challenge owns a ticket for it until it notes
its success. The nonces that are pending, those of the tickets and those that
were verified are all different, and each was issued for the surface and the
key it is used with; so however verifications interleave, a nonce leads to at
most one success. -/
namespace ProviderPlatform
open Async Store

/-! ## One store -/

namespace ChallengeStore
variable {store : ChallengeStore} {challengeTtlMs now : Time} {nonce : String}
  {publicKey : PublicKey} {challenge : PendingChallenge}

theorem mem_cleanupExpired : challenge ∈ (store.cleanupExpired challengeTtlMs now).rows ↔
    challenge ∈ store.rows ∧ challenge.isExpired challengeTtlMs now = false := by
  unfold cleanupExpired Table.filter
  rw [List.mem_filter, Bool.not_eq_true']

theorem cleanupExpired_length :
    (store.cleanupExpired challengeTtlMs now).rows.length ≤ store.rows.length :=
  List.length_filter_le _ _

theorem mem_delete :
    challenge ∈ (store.delete nonce).rows ↔ challenge ∈ store.rows ∧ challenge.nonce ≠ nonce := by
  unfold delete Table.filter
  rw [List.mem_filter, bne_iff_ne]

theorem delete_length : (store.delete nonce).rows.length ≤ store.rows.length :=
  List.length_filter_le _ _

theorem find_delete_self : (store.delete nonce).find nonce = none := by
  rw [Table.find_eq_none]
  intro challenge hmem
  exact (mem_delete.mp hmem).2

/-- The three things a lookup can do: consume, drop an expired challenge, or
leave the store alone. -/
theorem consume_cases (store : ChallengeStore) (challengeTtlMs now : Time) (nonce : String)
    (publicKey : PublicKey) :
    (store.consume challengeTtlMs now nonce publicKey = (.consumed, store.delete nonce) ∧
      ∃ challenge ∈ store.rows, challenge.nonce = nonce ∧ challenge.publicKey = publicKey ∧
        now - challenge.createdAt ≤ challengeTtlMs) ∨
    (store.consume challengeTtlMs now nonce publicKey = (.expired, store.delete nonce) ∧
      ∀ challenge ∈ store.rows, challenge.nonce = nonce →
        challenge.isExpired challengeTtlMs now = true) ∨
    (∃ r, r ≠ .consumed ∧ store.consume challengeTtlMs now nonce publicKey = (r, store)) := by
  cases hfind : store.find nonce with
  | none =>
    refine .inr (.inr ⟨.notFound, by decide, ?_⟩)
    simp only [consume, hfind]
  | some challenge =>
    have hmem := Table.find_mem hfind
    have hnonce := Table.find_key hfind
    cases hexpired : challenge.isExpired challengeTtlMs now with
    | true =>
      refine .inr (.inl ⟨?_, ?_⟩)
      · simp only [consume, hfind, hexpired, if_true]
      · intro other hother hsame
        rw [Table.eq_of_key_eq hother hmem (hsame.trans hnonce.symm)]
        exact hexpired
    | false =>
      by_cases hkey : challenge.publicKey = publicKey
      · refine .inl ⟨?_, challenge, hmem, hnonce, hkey, ?_⟩
        · simp only [consume, hfind, hexpired, hkey, ne_eq, not_true, if_false,
            Bool.false_eq_true]
        · simpa [PendingChallenge.isExpired] using hexpired
      · refine .inr (.inr ⟨.mismatch, by decide, ?_⟩)
        simp only [consume, hfind, hexpired, hkey, ne_eq, not_false_eq_true, if_true, if_false,
          Bool.false_eq_true]

theorem create_cases (store : ChallengeStore) (challengeTtlMs now : Time) (nonce : String)
    (publicKey : PublicKey) :
    (store.create challengeTtlMs now nonce publicKey =
      (true, (store.cleanupExpired challengeTtlMs now).upsert ⟨nonce, publicKey, now⟩) ∧
      (store.cleanupExpired challengeTtlMs now).rows.length < maxPendingChallenges) ∨
    store.create challengeTtlMs now nonce publicKey =
      (false, store.cleanupExpired challengeTtlMs now) := by
  by_cases hfull : (store.cleanupExpired challengeTtlMs now).rows.length ≥ maxPendingChallenges
  · exact .inr (by simp only [create, if_pos hfull])
  · exact .inl ⟨by simp only [create, if_neg hfull], Nat.lt_of_not_le hfull⟩

end ChallengeStore

/-! ## What is accounted for -/

def PendingChallenge.ticket (surface : Surface) (challenge : PendingChallenge) : Ticket :=
  ⟨surface, challenge.nonce, challenge.publicKey, challenge.createdAt⟩

/-- The ticket is for a nonce issued to its surface and key, and its call was
started within the time to live of the challenge. -/
def AuthState.Backs (s : AuthState) (ttl : Surface → Time) (ticket : Ticket) : Prop :=
  ∃ challenge ∈ s.issued, challenge.surface = ticket.surface ∧ challenge.nonce = ticket.nonce ∧
    challenge.publicKey = ticket.publicKey ∧ ticket.time - challenge.time ≤ ttl ticket.surface

/-- The state and the tickets that verifications hold. -/
structure Accounted (ttl : Surface → Time) (s : AuthState) (tickets : Multiset Ticket) : Prop where
  bounded : ∀ surface, (s.pending surface).rows.length ≤ maxPendingChallenges
  drawn : ∀ ticket ∈ s.issued, ∃ i < s.draws, ticket.nonce = s.source.draw i
  unique : (s.issued.map (·.nonce)).Nodup
  pending : ∀ surface, ∀ challenge ∈ (s.pending surface).rows,
    challenge.ticket surface ∈ s.issued
  backed : ∀ ticket ∈ tickets + s.verified, s.Backs ttl ticket
  once : ((tickets + s.verified).map (·.nonce)).Nodup
  spent : ∀ ticket ∈ tickets + s.verified, ∀ surface, (s.pending surface).find ticket.nonce = none

theorem Accounted.issued_eq {ttl : Surface → Time} {s : AuthState} {tickets : Multiset Ticket}
    (h : Accounted ttl s tickets) {t t' : Ticket} (ht : t ∈ s.issued) (ht' : t' ∈ s.issued)
    (hsame : t.nonce = t'.nonce) : t = t' :=
  List.inj_on_of_nodup_map h.unique ht ht' hsame

section Moves
variable {env : AuthEnv} {s : AuthState} {tickets : Multiset Ticket} {surface : Surface}
  {nonce : String} {publicKey : PublicKey}

/-- Stores that only lose entries. -/
theorem Accounted.shrink {store : ChallengeStore} (h : Accounted env.ttl s tickets)
    (hlen : store.rows.length ≤ (s.pending surface).rows.length)
    (hsub : ∀ challenge ∈ store.rows, challenge ∈ (s.pending surface).rows) :
    Accounted env.ttl (s.setPending surface store) tickets := by
  have hpending : ∀ other challenge, challenge ∈ ((s.setPending surface store).pending other).rows →
      challenge ∈ (s.pending other).rows := by
    intro other challenge hmem
    by_cases hother : other = surface
    · subst hother
      rw [AuthState.setPending_self] at hmem
      exact hsub challenge hmem
    · rwa [AuthState.setPending_of_ne _ _ hother] at hmem
  constructor
  · intro other
    by_cases hother : other = surface
    · subst hother
      rw [AuthState.setPending_self]
      exact hlen.trans (h.bounded other)
    · rw [AuthState.setPending_of_ne _ _ hother]
      exact h.bounded other
  · exact h.drawn
  · exact h.unique
  · exact fun other challenge hmem => h.pending other challenge (hpending other challenge hmem)
  · exact h.backed
  · exact h.once
  · intro ticket hticket other
    rw [Table.find_eq_none]
    intro challenge hmem
    exact Table.find_eq_none.mp (h.spent ticket hticket other) challenge
      (hpending other challenge hmem)

/-- A lookup that does not consume leaves the tickets as they are … -/
theorem Accounted.looked (h : Accounted env.ttl s tickets)
    (hr : (runAuthOp env (.consume surface nonce publicKey) s).1 ≠ .consumed) :
    Accounted env.ttl (runAuthOp env (.consume surface nonce publicKey) s).2 tickets := by
  rcases (s.pending surface).consume_cases (env.ttl surface) s.clock nonce publicKey with
    ⟨heq, -⟩ | ⟨heq, -⟩ | ⟨r, -, heq⟩
  · simp only [runAuthOp, heq, ne_eq, not_true] at hr
  · simp only [runAuthOp, heq]
    exact h.shrink ChallengeStore.delete_length fun _ hmem => (ChallengeStore.mem_delete.mp hmem).1
  · simp only [runAuthOp, heq]
    exact h.shrink le_rfl fun _ hmem => hmem

/-- … and one that does gives out a ticket. -/
theorem Accounted.consumed (h : Accounted env.ttl s tickets)
    (hr : (runAuthOp env (.consume surface nonce publicKey) s).1 = .consumed) :
    Accounted env.ttl (runAuthOp env (.consume surface nonce publicKey) s).2
      (⟨surface, nonce, publicKey, s.clock⟩ ::ₘ tickets) := by
  rcases (s.pending surface).consume_cases (env.ttl surface) s.clock nonce publicKey with
    ⟨heq, challenge, hmem, rfl, rfl, httl⟩ | ⟨heq, -⟩ | ⟨r, hne, heq⟩
  · have hshrunk : Accounted env.ttl
        (s.setPending surface ((s.pending surface).delete challenge.nonce)) tickets :=
      h.shrink ChallengeStore.delete_length fun _ hmem => (ChallengeStore.mem_delete.mp hmem).1
    have hissued := h.pending surface challenge hmem
    have hfresh : challenge.nonce ∉ (tickets + s.verified).map (·.nonce) := by
      intro hspent
      obtain ⟨ticket, hticket, hsame⟩ := Multiset.mem_map.mp hspent
      have hnone := h.spent ticket hticket surface
      rw [hsame] at hnone
      exact Table.find_eq_none.mp hnone challenge hmem rfl
    simp only [runAuthOp, heq]
    constructor
    · exact hshrunk.bounded
    · exact hshrunk.drawn
    · exact hshrunk.unique
    · exact hshrunk.pending
    · intro ticket hticket
      rw [Multiset.cons_add] at hticket
      rcases Multiset.mem_cons.mp hticket with rfl | hticket
      · exact ⟨challenge.ticket surface, hissued, rfl, rfl, rfl, httl⟩
      · exact hshrunk.backed ticket hticket
    · rw [Multiset.cons_add, Multiset.map_cons]
      exact Multiset.nodup_cons.mpr ⟨hfresh, hshrunk.once⟩
    · intro ticket hticket other
      rw [Multiset.cons_add] at hticket
      rcases Multiset.mem_cons.mp hticket with rfl | hticket
      · by_cases hother : other = surface
        · subst hother
          rw [AuthState.setPending_self]
          exact ChallengeStore.find_delete_self
        · rw [AuthState.setPending_of_ne _ _ hother, Table.find_eq_none]
          intro challenge' hmem' hsame
          have heq := h.issued_eq (h.pending other challenge' hmem') hissued hsame
          exact hother (congrArg Ticket.surface heq)
      · exact hshrunk.spent ticket hticket other
  · simp only [runAuthOp, heq] at hr
    cases hr
  · simp only [runAuthOp, heq] at hr
    exact absurd hr hne

/-- A fresh challenge has a nonce of its own. -/
theorem Accounted.created (h : Accounted env.ttl s tickets) :
    Accounted env.ttl (runAuthOp env (.create surface publicKey) s).2 tickets := by
  let store := (s.pending surface).cleanupExpired (env.ttl surface) s.clock
  have hshrunk : Accounted env.ttl (s.setPending surface store) tickets :=
    h.shrink ChallengeStore.cleanupExpired_length
      fun _ hmem => (ChallengeStore.mem_cleanupExpired.mp hmem).1
  rcases (s.pending surface).create_cases (env.ttl surface) s.clock (s.source.draw s.draws)
    publicKey with ⟨heq, hroom⟩ | heq
  · have hnew : ∀ ticket ∈ s.issued, ticket.nonce ≠ s.source.draw s.draws := by
      intro ticket hticket hsame
      obtain ⟨i, hi, hdraw⟩ := h.drawn ticket hticket
      have := s.source.fresh (hdraw.symm.trans hsame)
      omega
    simp only [runAuthOp, heq]
    constructor
    · intro other
      by_cases hother : other = surface
      · subst hother
        show ((s.setPending other _).pending other).rows.length ≤ _
        rw [AuthState.setPending_self]
        exact (Table.length_upsert_le _ _).trans hroom
      · show ((s.setPending surface _).pending other).rows.length ≤ _
        rw [AuthState.setPending_of_ne _ _ hother]
        exact h.bounded other
    · intro ticket hticket
      rcases List.mem_append.mp hticket with hticket | hticket
      · obtain ⟨i, hi, hdraw⟩ := h.drawn ticket hticket
        exact ⟨i, Nat.lt_succ_of_lt hi, hdraw⟩
      · rw [List.mem_singleton.mp hticket]
        exact ⟨s.draws, Nat.lt_succ_self _, rfl⟩
    · rw [List.map_append, List.map_singleton]
      apply List.nodup_append.mpr ⟨h.unique, List.nodup_singleton _, ?_⟩
      intro nonce hnonce other hother
      obtain ⟨ticket, hticket, rfl⟩ := List.mem_map.mp hnonce
      rw [List.mem_singleton.mp hother]
      exact hnew ticket hticket
    · intro other challenge hmem
      apply List.mem_append.mpr
      by_cases hother : other = surface
      · subst hother
        rw [show ((s.setPending other _).pending other) = _ from AuthState.setPending_self ..] at hmem
        rcases Table.mem_upsert hmem with rfl | hmem
        · exact .inr (List.mem_singleton_self _)
        · exact .inl (h.pending other challenge (ChallengeStore.mem_cleanupExpired.mp hmem).1)
      · rw [show ((s.setPending surface _).pending other) = _ from
          AuthState.setPending_of_ne _ _ hother] at hmem
        exact .inl (h.pending other challenge hmem)
    · intro ticket hticket
      obtain ⟨challenge, hchallenge, hrest⟩ := h.backed ticket hticket
      exact ⟨challenge, List.mem_append_left _ hchallenge, hrest⟩
    · exact h.once
    · intro ticket hticket other
      obtain ⟨challenge, hchallenge, -, hsame, -⟩ := h.backed ticket hticket
      have hne : s.source.draw s.draws ≠ ticket.nonce :=
        fun hn => hnew challenge hchallenge (hsame.trans hn.symm)
      have hspent := hshrunk.spent ticket hticket other
      by_cases hother : other = surface
      · subst hother
        rw [AuthState.setPending_self] at hspent
        show ((s.setPending other _).pending other).find _ = none
        rw [AuthState.setPending_self, Table.find_upsert, if_neg hne]
        exact hspent
      · rw [AuthState.setPending_of_ne _ _ hother] at hspent
        show ((s.setPending surface _).pending other).find _ = none
        rw [AuthState.setPending_of_ne _ _ hother]
        exact hspent
  · simp only [runAuthOp, heq]
    exact hshrunk

/-- A success spends the ticket. -/
theorem Accounted.noted {ticket : Ticket} (h : Accounted env.ttl s (ticket ::ₘ tickets)) :
    Accounted env.ttl (runAuthOp env (.noteVerified ticket) s).2 tickets := by
  have hsame : tickets + (s.verified ++ [ticket] : List Ticket) =
      (ticket ::ₘ tickets) + s.verified := by
    rw [← Multiset.coe_add, Multiset.coe_singleton, ← add_assoc, Multiset.cons_add,
      ← Multiset.singleton_add]
    exact add_comm _ _
  constructor
  · exact h.bounded
  · exact h.drawn
  · exact h.unique
  · exact h.pending
  · intro t ht
    exact h.backed t (hsame ▸ ht)
  · show ((tickets + (s.verified ++ [ticket] : List Ticket)).map _).Nodup
    rw [hsame]
    exact h.once
  · intro t ht
    exact h.spent t (hsame ▸ ht)

/-- Tickets that are not used are dropped. -/
theorem Accounted.drop {held : Multiset Ticket} (h : Accounted env.ttl s (held + tickets)) :
    Accounted env.ttl s tickets := by
  have hle : tickets + s.verified ≤ held + tickets + s.verified := by
    rw [add_assoc]
    exact Multiset.le_add_left _ _
  constructor
  · exact h.bounded
  · exact h.drawn
  · exact h.unique
  · exact h.pending
  · exact fun t ht => h.backed t (Multiset.mem_of_le hle ht)
  · exact Multiset.nodup_of_le (Multiset.map_le_map hle) h.once
  · exact fun t ht => h.spent t (Multiset.mem_of_le hle ht)

end Moves

/-! ## Verifications -/

/-- Every operation may run and every request be answered or fail, but a success
is noted only by the verification that holds the ticket. -/
def accounting (ttl : Surface → Time) : Discipline authPlatform AuthState (Multiset Ticket) where
  inv := Accounted ttl
  mayRun _ _ := True
  mayServe _ _ := True
  mayReject _ _ := True

section Triples
variable {env : AuthEnv} {α : Type}

abbrev AuthTriple (env : AuthEnv) (tickets : Multiset Ticket) (t : AuthPromise α)
    (B : Except Err α → Multiset Ticket → Prop) : Prop :=
  Task.Triple (authHost env) (accounting env.ttl) tickets t B

/-- Requests change nothing that is accounted for. -/
theorem calls_triple {t : AuthPromise α} (ht : t.Uses (fun _ => False) fun _ => True)
    (tickets : Multiset Ticket) : AuthTriple env tickets t fun _ o => o = tickets := by
  apply Task.Triple.of_uses _ _ ht tickets
  · intro o hfalse
    exact hfalse.elim
  · intro q _ s r hinv _
    cases q <;> exact hinv

theorem checkSignature_uses {okOp : AuthOp → Prop} (publicKey : PublicKey)
    (nonce signature : String) :
    (checkSignature env publicKey nonce signature).Uses okOp fun _ => True := by
  have hdone : ∀ r : Except Err Bool,
      (Task.done (I := authPlatform) r).Uses okOp fun _ => True := fun _ => trivial
  unfold checkSignature
  split
  · trivial
  apply Task.Uses.bind (Task.Uses.call trivial)
  intro sep43Hash
  apply Task.Uses.bind (hdone _)
  intro sep43
  split
  · trivial
  apply Task.Uses.bind (Task.Uses.call trivial)
  intro sep53Hash
  apply Task.Uses.bind (hdone _)
  intro sep53
  split <;> trivial

theorem verifyStellarSignature_uses {okOp : AuthOp → Prop} (publicKey : PublicKey)
    (nonce signature : String) :
    (verifyStellarSignature env publicKey nonce signature).Uses okOp fun _ => True :=
  (checkSignature_uses publicKey nonce signature).recover fun _ => trivial

theorem isAuthorizedSigner_uses {okOp : AuthOp → Prop} (signerKey accountId : PublicKey)
    (horizonUrl : Option String) :
    (isAuthorizedSigner signerKey accountId horizonUrl).Uses okOp fun _ => True := by
  unfold isAuthorizedSigner
  split
  · trivial
  split
  · trivial
  apply Task.Uses.recover
  · apply Task.Uses.bind (Task.Uses.call trivial)
    intro signers
    split <;> trivial
  · exact fun _ => trivial

/-- A verification reads the clock and looks its challenge up in one go, so the
ticket it gets has the time of its start. -/
theorem verification_triple {surface : Surface} {nonce : String} {publicKey : PublicKey}
    {k : Time → Consumption → AuthPromise Unit}
    (hconsumed : ∀ at', AuthTriple env {⟨surface, nonce, publicKey, at'⟩} (k at' .consumed)
      fun _ _ => True)
    (hother : ∀ at' r, r ≠ .consumed → AuthTriple env 0 (k at' r) fun _ _ => True) :
    AuthTriple env 0 (do
      let at' ← Task.op (I := authPlatform) .now
      let r ← Task.op (I := authPlatform) (.consume surface nonce publicKey)
      k at' r) fun _ _ => True := by
  intro s f hinv _ _
  rw [zero_add] at hinv
  by_cases hr : (runAuthOp env (.consume surface nonce publicKey) s).1 = .consumed
  · have hnext := hinv.consumed hr
    have htask := hconsumed s.clock
    rw [← hr] at htask
    exact htask _ f hnext
  · have hnext := hinv.looked hr
    apply hother s.clock _ hr _ f
    rwa [zero_add]

theorem note_triple (ticket : Ticket) :
    AuthTriple env {ticket} (Task.op (I := authPlatform) (.noteVerified ticket)) fun _ _ => True := by
  apply Task.Triple.op
  intro s f hinv _
  refine ⟨0, trivial, ?_⟩
  rw [Multiset.singleton_add] at hinv
  rw [zero_add]
  exact hinv.noted

theorem create_triple (surface : Surface) (publicKey : PublicKey) (k : Option String → AuthPromise α)
    (hk : ∀ r, AuthTriple env 0 (k r) fun _ _ => True) :
    AuthTriple env 0 (Task.op (I := authPlatform) (.create surface publicKey) >>= k)
      fun _ _ => True := by
  intro s f hinv _
  rw [zero_add] at hinv
  apply hk _ _ f
  rw [zero_add]
  exact hinv.created

/-- After the lookup a verification only makes requests, and notes at the end. -/
theorem settle_triple {t : AuthPromise α} {ticket : Ticket} {k : α → AuthPromise Unit}
    (ht : t.Uses (fun _ => False) fun _ => True)
    (hk : ∀ a, AuthTriple env {ticket} (k a) fun _ _ => True) :
    AuthTriple env {ticket} (t >>= k) fun _ _ => True := by
  apply (calls_triple ht {ticket}).bind
  · rintro a o rfl
    exact hk a
  · exact fun _ _ _ => trivial

theorem program_triple (l : AuthCall) : AuthTriple env 0 (l.program env) fun _ _ => True := by
  cases l with
  | idle => exact Task.Triple.done trivial
  | create surface publicKey =>
    cases surface with
    | dashboard =>
      apply create_triple .dashboard publicKey
      intro r
      cases r <;> exact Task.Triple.done trivial
    | entity =>
      apply create_triple .entity publicKey
      intro r
      cases r <;> exact Task.Triple.done trivial
  | verifyDashboard nonce signature publicKey config =>
    simp only [AuthCall.program, verifyDashboardChallenge, Task.bind_assoc]
    apply verification_triple
    · intro startedAt
      simp only [Task.bind_assoc]
      apply settle_triple (verifyStellarSignature_uses publicKey nonce signature)
      intro valid
      cases valid with
      | false => exact Task.Triple.done trivial
      | true =>
        simp only [Bool.not_true, Bool.false_eq_true, if_false, Task.bind_assoc]
        apply settle_triple (isAuthorizedSigner_uses publicKey _ _)
        intro isAuth
        cases isAuth with
        | false => exact Task.Triple.done trivial
        | true =>
          simp only [Bool.not_true, Bool.false_eq_true, if_false, Task.bind_assoc]
          apply settle_triple (Task.Uses.call trivial)
          intro hashBytes
          apply settle_triple (Task.Uses.call trivial)
          intro token
          exact note_triple _
    · intro startedAt r hr
      cases r with
      | consumed => exact absurd rfl hr
      | notFound | expired | mismatch => exact Task.Triple.done trivial
  | verifyEntity publicKey nonce signature =>
    simp only [AuthCall.program, verifyEntityChallenge, Task.bind_assoc]
    apply verification_triple
    · intro startedAt
      apply settle_triple (verifyStellarSignature_uses publicKey nonce signature)
      intro sigOk
      cases sigOk with
      | true => exact note_triple _
      | false => exact Task.Triple.done trivial
    · intro startedAt r hr
      cases r with
      | consumed => exact absurd rfl hr
      | notFound | expired | mismatch => exact Task.Triple.done trivial

end Triples

/-! ## What takes a challenge out of its store -/

/-- The challenge a verification is for, and the key it is made with. -/
def AuthCall.attempt : AuthCall → Option (Surface × String × PublicKey)
  | .verifyDashboard nonce _ publicKey _ => some (.dashboard, nonce, publicKey)
  | .verifyEntity publicKey nonce _ => some (.entity, nonce, publicKey)
  | _ => none

/-- A call looks up only the challenge that it is for. -/
def AuthCall.MayRun (l : AuthCall) : AuthOp → Prop
  | .consume surface nonce publicKey => l.attempt = some (surface, nonce, publicKey)
  | _ => True

section Leaves
variable {env : AuthEnv}

theorem createChallenge_uses (l : AuthCall) (surface : Surface) (publicKey : PublicKey)
    (k : Option String → AuthPromise Unit) (hk : ∀ r, (k r).Uses l.MayRun fun _ => True) :
    (Task.op (I := authPlatform) (.create surface publicKey) >>= k).Uses l.MayRun fun _ => True :=
  (Task.Uses.op trivial).bind hk

theorem verifyDashboard_uses (nonce signature : String) (publicKey : PublicKey)
    (config : DashboardAuthConfig) {l : AuthCall}
    (hl : l.attempt = some (.dashboard, nonce, publicKey)) :
    (verifyDashboardChallenge env nonce signature publicKey config).Uses l.MayRun
      fun _ => True := by
  unfold verifyDashboardChallenge
  apply (Task.Uses.op hl).bind
  intro r
  cases r with
  | notFound | expired | mismatch => trivial
  | consumed =>
    apply (verifyStellarSignature_uses publicKey nonce signature).bind
    intro valid
    cases valid with
    | false => trivial
    | true =>
      apply (isAuthorizedSigner_uses publicKey _ _).bind
      intro isAuth
      cases isAuth with
      | false => trivial
      | true =>
        apply (Task.Uses.call trivial).bind
        intro hashBytes
        exact Task.Uses.call trivial

theorem program_uses (l : AuthCall) : (l.program env).Uses l.MayRun fun _ => True := by
  cases l with
  | idle => trivial
  | create surface publicKey =>
    cases surface with
    | dashboard =>
      apply createChallenge_uses _ .dashboard publicKey
      intro r
      cases r <;> trivial
    | entity =>
      apply createChallenge_uses _ .entity publicKey
      intro r
      cases r <;> trivial
  | verifyDashboard nonce signature publicKey config =>
    apply (Task.Uses.op trivial).bind
    intro startedAt
    apply (verifyDashboard_uses nonce signature publicKey config rfl).bind
    intro token
    exact Task.Uses.op trivial
  | verifyEntity publicKey nonce signature =>
    apply (Task.Uses.op trivial).bind
    intro startedAt
    apply Task.Uses.bind
    · unfold verifyEntityChallenge
      apply (Task.Uses.op (by exact rfl)).bind
      intro r
      cases r with
      | notFound | expired | mismatch => trivial
      | consumed => exact verifyStellarSignature_uses publicKey nonce signature
    · intro sigOk
      cases sigOk with
      | true => exact Task.Uses.op trivial
      | false => trivial

/-- A challenge that is in its store, at a certain time. -/
structure AuthState.Holds (s : AuthState) (surface : Surface) (challenge : PendingChallenge)
    (now : Time) : Prop where
  pending : challenge ∈ (s.pending surface).rows
  drawn : ∃ i < s.draws, challenge.nonce = s.source.draw i
  clock : s.clock = now

variable {surface : Surface} {challenge : PendingChallenge} {now : Time} {l : AuthCall}

/-- An operation leaves a challenge that has not expired in its store, unless
the call is for it and has its key. -/
theorem runAuthOp_holds {o : AuthOp} {s : AuthState} (h : s.Holds surface challenge now)
    (ho : l.MayRun o) (hlive : challenge.isExpired (env.ttl surface) now = false)
    (hl : l.attempt ≠ some (surface, challenge.nonce, challenge.publicKey)) :
    (runAuthOp env o s).2.Holds surface challenge now := by
  obtain ⟨hmem, hdrawn, rfl⟩ := h
  cases o with
  | now => exact ⟨hmem, hdrawn, rfl⟩
  | noteVerified ticket => exact ⟨hmem, hdrawn, rfl⟩
  | create other publicKey =>
    obtain ⟨i, hi, hdraw⟩ := hdrawn
    have hne : s.source.draw s.draws ≠ challenge.nonce := by
      intro hsame
      have := s.source.fresh (hdraw.symm.trans hsame.symm)
      omega
    rcases (s.pending other).create_cases (env.ttl other) s.clock (s.source.draw s.draws) publicKey
      with ⟨heq, -⟩ | heq
    · simp only [runAuthOp, heq]
      refine ⟨?_, ⟨i, Nat.lt_succ_of_lt hi, hdraw⟩, rfl⟩
      by_cases hother : surface = other
      · subst hother
        show challenge ∈ ((s.setPending surface _).pending surface).rows
        rw [AuthState.setPending_self]
        exact Table.mem_upsert_of_ne (ChallengeStore.mem_cleanupExpired.mpr ⟨hmem, hlive⟩) hne
      · show challenge ∈ ((s.setPending other _).pending surface).rows
        rwa [AuthState.setPending_of_ne _ _ hother]
    · simp only [runAuthOp, heq]
      refine ⟨?_, ⟨i, hi, hdraw⟩, rfl⟩
      by_cases hother : surface = other
      · subst hother
        rw [AuthState.setPending_self]
        exact ChallengeStore.mem_cleanupExpired.mpr ⟨hmem, hlive⟩
      · rwa [AuthState.setPending_of_ne _ _ hother]
  | consume other nonce publicKey =>
    have hattempt : l.attempt = some (other, nonce, publicKey) := ho
    refine ⟨?_, hdrawn, rfl⟩
    by_cases hother : surface = other
    · subst hother
      simp only [runAuthOp]
      rw [AuthState.setPending_self]
      rcases (s.pending surface).consume_cases (env.ttl surface) s.clock nonce publicKey with
        ⟨heq, found, hfound, rfl, rfl, -⟩ | ⟨heq, hexpired⟩ | ⟨r, -, heq⟩
      · rw [heq]
        apply ChallengeStore.mem_delete.mpr ⟨hmem, ?_⟩
        intro hsame
        rw [← Table.eq_of_key_eq hmem hfound hsame] at hattempt
        exact hl hattempt
      · rw [heq]
        apply ChallengeStore.mem_delete.mpr ⟨hmem, ?_⟩
        intro hsame
        rw [hexpired challenge hmem hsame] at hlive
        cases hlive
      · rw [heq]
        exact hmem
    · simp only [runAuthOp]
      rwa [AuthState.setPending_of_ne _ _ hother]

end Leaves

/-! ## Every run -/

/-- No challenge was created yet. -/
structure AuthState.Fresh (s : AuthState) : Prop where
  pending : ∀ surface, s.pending surface = .empty
  issued : s.issued = []
  verified : s.verified = []

/-- What holds of the challenges issued and verified so far. -/
structure ChallengeLaw (ttl : Surface → Time) (s : AuthState) : Prop where
  atMostOnce : (s.verified.map (·.nonce)).Nodup
  created : ∀ ticket ∈ s.verified, ∃ challenge ∈ s.issued, challenge.nonce = ticket.nonce
  bound : ∀ ticket ∈ s.verified, ∀ challenge ∈ s.issued, challenge.nonce = ticket.nonce →
    challenge.surface = ticket.surface ∧ challenge.publicKey = ticket.publicKey ∧
      ticket.time - challenge.time ≤ ttl challenge.surface
  bounded : ∀ surface, (s.pending surface).rows.length ≤ maxPendingChallenges

theorem Accounted.law {ttl : Surface → Time} {s : AuthState} {tickets : Multiset Ticket}
    (h : Accounted ttl s tickets) : ChallengeLaw ttl s := by
  have hmem : ∀ ticket ∈ s.verified, ticket ∈ tickets + (s.verified : Multiset Ticket) :=
    fun ticket ht => Multiset.mem_add.mpr (.inr (Multiset.mem_coe.mpr ht))
  constructor
  · have honce := Multiset.nodup_of_le (Multiset.map_le_map (Multiset.le_add_left _ tickets)) h.once
    rwa [Multiset.map_coe, Multiset.coe_nodup] at honce
  · intro ticket ht
    obtain ⟨challenge, hissued, -, hsame, -⟩ := h.backed ticket (hmem ticket ht)
    exact ⟨challenge, hissued, hsame⟩
  · intro ticket ht challenge hissued hsame
    obtain ⟨backing, hbacking, hsurface, hnonce, hkey, htime⟩ := h.backed ticket (hmem ticket ht)
    rw [h.issued_eq hissued hbacking (hsame.trans hnonce.symm)]
    exact ⟨hsurface, hkey, hsurface ▸ htime⟩
  · exact h.bounded

theorem AuthState.Fresh.accounted {s : AuthState} (h : s.Fresh) (ttl : Surface → Time) :
    Accounted ttl s 0 := by
  have hnone : ∀ ticket, ticket ∉ (0 : Multiset Ticket) + s.verified := by
    intro ticket ht
    rw [h.verified] at ht
    exact absurd ht (Multiset.notMem_zero _)
  constructor
  · intro surface
    rw [h.pending]
    exact Nat.zero_le _
  · intro ticket ht
    rw [h.issued] at ht
    cases ht
  · rw [h.issued]
    exact List.nodup_nil
  · intro surface challenge hmem
    rw [h.pending] at hmem
    cases hmem
  · exact fun ticket ht => absurd ht (hnone ticket)
  · rw [h.verified]
    exact Multiset.nodup_zero
  · exact fun ticket ht => absurd ht (hnone ticket)

section Runs
variable {env : AuthEnv} {s : AuthState} {c : Pool authPlatform AuthState AuthCall}

theorem run_accounted (hfresh : s.Fresh)
    (h : (authProcess env).Run Machine.Free ((authProcess env).init s) c) :
    ∃ tickets, Accounted env.ttl c.state tickets := by
  have hprog : ∀ l, Task.Triple (authProcess env).host (accounting env.ttl) 0
      ((authProcess env).program l) fun _ _ => True := fun l => program_triple l
  apply Machine.Owned.holds (K := fun _ => accounting env.ttl)
  apply Machine.Run.owned (fun _ => rfl) (hprog _) (fun _ l _ => hprog l) _ _ _ h
  · exact Machine.owned_init (hprog _) (hfresh.accounted env.ttl)
  · exact ⟨fun _ _ _ _ _ _ _ _ => trivial, fun _ _ _ _ _ _ _ => trivial,
      fun _ _ _ _ _ _ _ _ => trivial⟩
  · intro c d r _ hinv
    have hkept : Accounted env.ttl c.state r := hinv
    cases d <;> exact ⟨hkept.bounded, hkept.drawn, hkept.unique, hkept.pending, hkept.backed,
      hkept.once, hkept.spent⟩
  · intro c r _ hinv
    have hempty : Accounted env.ttl ((authProcess env).reboot c.state) r := by
      constructor
      · exact fun _ => Nat.zero_le _
      · exact hinv.drawn
      · exact hinv.unique
      · intro surface challenge hmem
        cases hmem
      · exact hinv.backed
      · exact hinv.once
      · exact fun _ _ _ => rfl
    rw [← add_zero r] at hempty
    exact hempty.drop

/-- A step takes a challenge out of its store only if it has expired, if the
process stops, or if it starts a verification of it with its own key. -/
theorem step_leaves (haccounted : ∃ tickets, Accounted env.ttl c.state tickets)
    (huses : Machine.AllUse AuthCall.MayRun (fun _ _ => True) c) {c' : Pool authPlatform AuthState AuthCall}
    {ch : Choice authPlatform AuthCall AuthDrift} (hs : (authProcess env).step ch c = some c')
    {surface : Surface} {challenge : PendingChallenge}
    (hmem : challenge ∈ (c.state.pending surface).rows) :
    challenge ∈ (c'.state.pending surface).rows ∨ ch = .crash ∨
      challenge.isExpired (env.ttl surface) c.state.clock = true ∨
      ∃ i l t, ch = .resume i ∧ c.tasks[i]? = some (l, t) ∧
        l.attempt = some (surface, challenge.nonce, challenge.publicKey) := by
  rcases (authProcess env).step_cases hs with ⟨l, rfl, -, rfl⟩ | ⟨i, l, t, rfl, ht, rfl⟩ |
    ⟨i, l, q, k, rfl, ht, rfl⟩ | ⟨i, l, q, k, e, rfl, ht, rfl⟩ | ⟨d, rfl, rfl⟩ | ⟨rfl, rfl⟩
  · exact .inl hmem
  · cases hlive : challenge.isExpired (env.ttl surface) c.state.clock with
    | true => exact .inr (.inr (.inl rfl))
    | false =>
      by_cases hl : l.attempt = some (surface, challenge.nonce, challenge.publicKey)
      · exact .inr (.inr (.inr ⟨i, l, t, rfl, ht, hl⟩))
      · left
        obtain ⟨tickets, hinv⟩ := haccounted
        have hdrawn := hinv.drawn _ (hinv.pending surface challenge hmem)
        have hholds : c.state.Holds surface challenge c.state.clock := ⟨hmem, hdrawn, rfl⟩
        have hops : ∀ p ∈ t.opsRun (authProcess env).host c.state, l.MayRun p.2 :=
          (huses.at ht).opsRun (authProcess env).host
        exact (Task.advance_keeps (authProcess env).host
          (P := fun s => s.Holds surface challenge c.state.clock) (g := fun _ o => l.MayRun o)
          (fun _ _ hs ho => runAuthOp_holds hs ho hlive hl) t _ hholds hops).pending
  · cases q <;> exact .inl hmem
  · exact .inl hmem
  · cases d <;> exact .inl hmem
  · exact .inr (.inl rfl)

/-- **Challenges are single-use, bound and bounded.** In every state that any
number of creations and interleaved verifications reach, a nonce has led to at
most one success, for its own surface and key and in time, and no store holds
more than its maximum; and nothing but its own key takes a challenge that has
not expired out of its store. -/
theorem challenges_single_use (env : AuthEnv) {s : AuthState}
    {c : Pool authPlatform AuthState AuthCall} (hfresh : s.Fresh)
    (h : (authProcess env).Run Machine.Free ((authProcess env).init s) c) :
    ChallengeLaw env.ttl c.state ∧
      ∀ ch c', (authProcess env).step ch c = some c' →
        ∀ surface, ∀ challenge ∈ (c.state.pending surface).rows,
          challenge ∈ (c'.state.pending surface).rows ∨ ch = .crash ∨
            challenge.isExpired (env.ttl surface) c.state.clock = true ∨
            ∃ i l t, ch = .resume i ∧ c.tasks[i]? = some (l, t) ∧
              l.attempt = some (surface, challenge.nonce, challenge.publicKey) := by
  have haccounted := run_accounted hfresh h
  have huses : Machine.AllUse AuthCall.MayRun (fun _ _ => True) c :=
    h.allUse (fun l => program_uses l) (Machine.AllUse.init (fun l => program_uses l) s)
  constructor
  · obtain ⟨tickets, hinv⟩ := haccounted
    exact hinv.law
  · intro ch c' hs surface challenge hmem
    exact step_leaves haccounted huses hs hmem

end Runs

namespace Small

theorem authState_fresh : authState.Fresh := ⟨fun _ => rfl, rfl, rfl⟩

/-- The operator asks for a challenge and verifies it at the last moment. -/
def login : List (Choice authPlatform AuthCall AuthDrift) :=
  [.start (.create .dashboard "GPP"), .resume 1, .drift (.elapse 300000),
    .start (.verifyDashboard "n" "" "GPP" ⟨"GPP", none⟩), .resume 2, .serve 2, .resume 2, .serve 2,
    .resume 2, .serve 2, .resume 2]

/-- Another key tries the challenge when it has expired. -/
def lateAttempt : List (Choice authPlatform AuthCall AuthDrift) :=
  [.start (.create .dashboard "GPP"), .resume 1, .drift (.elapse 300001),
    .start (.verifyDashboard "n" "" "GOTHER" ⟨"GPP", none⟩)]

end Small

theorem challenges_single_use_login :
    ∃ c, (authProcess Small.authEnv).Run Machine.Free
        ((authProcess Small.authEnv).init Small.authState) c ∧
      c.state.verified.length = 1 ∧ ChallengeLaw Small.authEnv.ttl c.state := by
  obtain ⟨c, hr, hp⟩ := Machine.exists_run_of_replay (M := authProcess Small.authEnv)
    (G := Machine.Free) Small.login (c := (authProcess Small.authEnv).init Small.authState)
    (fun s => s.verified.length == 1) (by decide +kernel)
  refine ⟨c, hr, by simpa using hp, ?_⟩
  exact (challenges_single_use Small.authEnv Small.authState_fresh hr).1

/-- An attempt with another key drops a challenge that has expired. -/
theorem mismatch_drops_expired :
    ¬ ∀ (env : AuthEnv) (s : AuthState) (c c' : Pool authPlatform AuthState AuthCall)
        (i : Nat) (l : AuthCall) (t : AuthPromise Unit) (surface : Surface)
        (challenge : PendingChallenge) (publicKey : PublicKey), s.Fresh →
        (authProcess env).Run Machine.Free ((authProcess env).init s) c →
        c.tasks[i]? = some (l, t) → l.attempt = some (surface, challenge.nonce, publicKey) →
        publicKey ≠ challenge.publicKey → challenge ∈ (c.state.pending surface).rows →
        (authProcess env).step (.resume i) c = some c' →
        challenge ∈ (c'.state.pending surface).rows := by
  intro h
  let M := authProcess Small.authEnv
  let challenge : PendingChallenge := ⟨"n", "GPP", 0⟩
  let late := M.replay Machine.Free Small.lateAttempt (M.init Small.authState)
  obtain ⟨c, hc⟩ : ∃ c, late = some c := Option.isSome_iff_exists.mp (by decide +kernel)
  have htask : (late.bind fun c => c.tasks[2]?.map fun p => p.1.attempt) =
      some (some (.dashboard, "n", "GOTHER")) := by decide +kernel
  have hpending : (late.map fun c => decide (challenge ∈ (c.state.pending .dashboard).rows)) =
      some true := by decide +kernel
  have hafter : (late.bind fun c => (M.step (.resume 2) c).map fun c' =>
      decide (challenge ∈ (c'.state.pending .dashboard).rows)) = some false := by decide +kernel
  rw [hc] at htask hpending hafter
  obtain ⟨⟨l, t⟩, ht, hl⟩ := Option.map_eq_some_iff.mp htask
  obtain ⟨c', hs, hgone⟩ := Option.map_eq_some_iff.mp hafter
  have hkept := h Small.authEnv Small.authState c c' 2 l t .dashboard challenge "GOTHER"
    Small.authState_fresh (Machine.replay_run hc) ht hl (by decide)
    (of_decide_eq_true (Option.some.inj hpending)) hs
  exact absurd hkept (of_decide_eq_false hgone)

end ProviderPlatform
