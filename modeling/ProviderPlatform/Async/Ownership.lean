import ProviderPlatform.Async.Pool
import Mathlib.Algebra.BigOperators.Group.List.Basic
import Mathlib.Algebra.Order.Group.Multiset
import Mathlib.Tactic.Abel

/-! # Ownership for interleaved tasks

Every task owns some resources, elements of a commutative monoid, and one
invariant relates the state to the total of what all tasks own. `Triple own t
B` says that `t`, started with `own`, re-establishes the invariant at
every await whatever the other tasks did meanwhile, and ends owning something
`B` allows. Triples compose along the structure of a task
(`Triple.settle`, `Triple.forEach`, ...), and a pool whose tasks all have a
triple keeps the invariant along every guarded run (`Run.owned`). -/
namespace Async

/-- An invariant over the state and the owned total, and which operations may
run, and which requests may be served and may reject, while it holds. -/
structure Discipline (I : Interface) (σ R : Type) where
  inv : σ → R → Prop
  mayRun : σ → I.Op → Prop
  mayServe : σ → I.Req → Prop
  mayReject : σ → I.Req → Prop

namespace Task
variable {I : Interface} {σ R α β γ : Type} [AddCommMonoid R]
variable (H : Host I σ) (K : Discipline I σ R)

/-- Weakest precondition. The second argument of the conditions is what the
other tasks own. At an await the task fixes what it owns, and the state may
change in any way that keeps the invariant, both before the request is served
and before the answer is picked up. -/
def wp : Task I α → (Except I.Err α → σ → R → Prop) → σ → R → Prop
  | .done r, Q, s, f => Q r s f
  | .sync o k, Q, s, f => K.mayRun s o → (k (H.runOp o s).1).wp Q (H.runOp o s).2 f
  | .await q k, Q, s, f => ∃ own, K.inv s (own + f) ∧ ∀ s f, K.inv s (own + f) →
      (K.mayServe s q → ∃ own', K.inv (H.serve q s).2 (own' + f) ∧
        ∀ s' f', K.inv s' (own' + f') → (k (H.serve q s).1).wp Q s' f') ∧
      (K.mayReject s q → ∀ e, ∃ own', K.inv s (own' + f) ∧
        ∀ s' f', K.inv s' (own' + f') → (k (.error e)).wp Q s' f')

theorem wp_mono {t : Task I α} {Q Q' : Except I.Err α → σ → R → Prop}
    (hQ : ∀ r s f, Q r s f → Q' r s f) : ∀ {s f}, t.wp H K Q s f → t.wp H K Q' s f := by
  induction t with
  | done r => exact hQ _ _ _
  | sync o k ih => exact fun h hm => ih _ (h hm)
  | await q k ih =>
    rintro s f ⟨own, hi, h⟩
    refine ⟨own, hi, fun s f hi => ⟨fun hm => ?_, fun hm e => ?_⟩⟩
    · obtain ⟨own', hi', h'⟩ := (h s f hi).1 hm
      exact ⟨own', hi', fun s' f' hs => ih _ (h' s' f' hs)⟩
    · obtain ⟨own', hi', h'⟩ := (h s f hi).2 hm e
      exact ⟨own', hi', fun s' f' hs => ih _ (h' s' f' hs)⟩

theorem wp_settle {t : Task I α} {k : Except I.Err α → Task I β}
    {Q : Except I.Err β → σ → R → Prop} :
    ∀ {s f}, t.wp H K (fun r s f => (k r).wp H K Q s f) s f → (t.settle k).wp H K Q s f := by
  induction t with
  | done r => exact id
  | sync o k' ih => exact fun h hm => ih _ (h hm)
  | await q k' ih =>
    rintro s f ⟨own, hi, h⟩
    refine ⟨own, hi, fun s f hi => ⟨fun hm => ?_, fun hm e => ?_⟩⟩
    · obtain ⟨own', hi', h'⟩ := (h s f hi).1 hm
      exact ⟨own', hi', fun s' f' hs => ih _ (h' s' f' hs)⟩
    · obtain ⟨own', hi', h'⟩ := (h s f hi).2 hm e
      exact ⟨own', hi', fun s' f' hs => ih _ (h' s' f' hs)⟩

/-- Resources the task leaves alone can be counted among the other tasks'. -/
theorem wp_frame {t : Task I α} {Q Q' : Except I.Err α → σ → R → Prop} {g : R}
    (hQ : ∀ r s f, Q r s (g + f) → Q' r s f) :
    ∀ {s f}, t.wp H K Q s (g + f) → t.wp H K Q' s f := by
  induction t with
  | done r => exact hQ _ _ _
  | sync o k ih => exact fun h hm => ih _ (h hm)
  | await q k ih =>
    rintro s f ⟨own, hi, h⟩
    refine ⟨own + g, by rwa [add_assoc], fun s f hi => ?_⟩
    rw [add_assoc] at hi
    refine ⟨fun hm => ?_, fun hm e => ?_⟩
    · obtain ⟨own', hi', h'⟩ := (h s (g + f) hi).1 hm
      refine ⟨own' + g, by rwa [add_assoc], fun s' f' hs => ih _ (h' s' (g + f') ?_)⟩
      rwa [← add_assoc]
    · obtain ⟨own', hi', h'⟩ := (h s (g + f) hi).2 hm e
      refine ⟨own' + g, by rwa [add_assoc], fun s' f' hs => ih _ (h' s' (g + f') ?_)⟩
      rwa [← add_assoc]

/-- Started with `own`, the task keeps the invariant and ends with a result
and resources that `B` allows. -/
def Triple (own : R) (t : Task I α) (B : Except I.Err α → R → Prop) : Prop :=
  ∀ s f, K.inv s (own + f) →
    t.wp H K (fun r s f => ∃ own', B r own' ∧ K.inv s (own' + f)) s f

variable {H K}
variable {own : R} {B : Except I.Err α → R → Prop}

theorem Triple.done {r : Except I.Err α} (h : B r own) : Triple H K own (.done r) B :=
  fun _ _ hi => ⟨own, h, hi⟩

theorem Triple.mono {t : Task I α} {C : Except I.Err α → R → Prop}
    (h : Triple H K own t B) (hp : ∀ r o, B r o → C r o) : Triple H K own t C :=
  fun s f hi => wp_mono H K (fun _ _ _ ⟨o, ho, hi⟩ => ⟨o, hp _ _ ho, hi⟩) (h s f hi)

theorem Triple.settle {t : Task I α} {k : Except I.Err α → Task I β}
    {C : Except I.Err β → R → Prop} (h : Triple H K own t B)
    (hk : ∀ r o, B r o → Triple H K o (k r) C) : Triple H K own (t.settle k) C :=
  fun s f hi => wp_settle H K (wp_mono H K (fun r s f ⟨o, ho, hi⟩ => hk r o ho s f hi) (h s f hi))

/-- What the invariant lets go of. -/
theorem Triple.discard {t : Task I α} {own' : R} (ht : Triple H K own' t B)
    (h : ∀ s f, K.inv s (own + f) → K.inv s (own' + f)) : Triple H K own t B :=
  fun s f hi => ht s f (h s f hi)

/-- Sequencing: the error case is passed on as it is. -/
theorem Triple.bind {t : Task I α} {k : α → Task I β} {C : Except I.Err β → R → Prop}
    (h : Triple H K own t B) (hok : ∀ a o, B (.ok a) o → Triple H K o (k a) C)
    (herr : ∀ e o, B (.error e) o → C (.error e) o) : Triple H K own (t >>= k) C :=
  h.settle fun r o ho => match r with
    | .ok a => hok a o ho
    | .error e => .done (herr e o ho)

theorem Triple.recover {t : Task I α} {h : I.Err → Task I α} {C : Except I.Err α → R → Prop}
    (ht : Triple H K own t B) (hok : ∀ a o, B (.ok a) o → C (.ok a) o)
    (herr : ∀ e o, B (.error e) o → Triple H K o (h e) C) :
    Triple H K own (t.recover h) C :=
  ht.settle fun r o ho => match r with
    | .ok a => .done (hok a o ho)
    | .error e => herr e o ho

theorem Triple.ensure {t : Task I α} {o : I.Op} (ht : Triple H K own t B)
    (ho : ∀ s r, K.inv s r → K.mayRun s o → K.inv (H.runOp o s).2 r) :
    Triple H K own (t.ensure o) B :=
  ht.settle fun _ own' hp s _ hi hm => ⟨own', hp, ho s _ hi hm⟩

/-- The operation at the end may use what the task ends with. -/
theorem Triple.ensure_own {t : Task I α} {o : I.Op} {C : Except I.Err α → R → Prop}
    (ht : Triple H K own t B) (ho : ∀ r own s f, B r own → K.inv s (own + f) → K.mayRun s o →
      ∃ own', C r own' ∧ K.inv (H.runOp o s).2 (own' + f)) : Triple H K own (t.ensure o) C :=
  ht.settle fun r own hB s f hi hm => ho r own s f hB hi hm

theorem Triple.frame {t : Task I α} (h : Triple H K own t B) (g : R) :
    Triple H K (own + g) t fun r o => ∃ o', B r o' ∧ o = o' + g := by
  intro s f hi
  rw [add_assoc] at hi
  refine wp_frame H K ?_ (h s (g + f) hi)
  rintro r s f ⟨o, ho, hi⟩
  exact ⟨o + g, ⟨o, ho, rfl⟩, by rwa [add_assoc]⟩

theorem Triple.op {o : I.Op} {B : Except I.Err (I.Out o) → R → Prop}
    (h : ∀ s f, K.inv s (own + f) → K.mayRun s o →
      ∃ own', B (.ok (H.runOp o s).1) own' ∧ K.inv (H.runOp o s).2 (own' + f)) :
    Triple H K own (Task.op o) B :=
  fun s f hi hm => h s f hi hm

theorem Triple.call {q : I.Req} {B : Except I.Err (I.Ans q) → R → Prop}
    (hs : ∀ s f, K.inv s (own + f) → K.mayServe s q →
      ∃ own', B (H.serve q s).1 own' ∧ K.inv (H.serve q s).2 (own' + f))
    (hr : ∀ s f, K.inv s (own + f) → K.mayReject s q → ∀ e,
      ∃ own', B (.error e) own' ∧ K.inv s (own' + f)) :
    Triple H K own (Task.call q) B := by
  intro s f hi
  refine ⟨own, hi, fun s f hi => ⟨fun hm => ?_, fun hm e => ?_⟩⟩
  · obtain ⟨own', hp, hi'⟩ := hs s f hi hm
    exact ⟨own', hi', fun s' f' hs => ⟨own', hp, hs⟩⟩
  · obtain ⟨own', hp, hi'⟩ := hr s f hi hm e
    exact ⟨own', hi', fun s' f' hs => ⟨own', hp, hs⟩⟩

/-- A task made of operations and requests that keep the invariant, whatever
is owned, needs nothing and gives nothing away; its values are those it yields. -/
theorem Triple.of_yields {okOp : I.Op → Prop} {okReq : I.Req → Prop} {Q : α → Prop}
    (ho : ∀ o, okOp o → ∀ s r, K.inv s r → K.mayRun s o → K.inv (H.runOp o s).2 r)
    (hq : ∀ q, okReq q → ∀ s r, K.inv s r → K.mayServe s q → K.inv (H.serve q s).2 r)
    {t : Task I α} (ht : t.Uses okOp okReq) (hy : t.Yields Q) (own : R) :
    Triple H K own t fun r o => o = own ∧ ∀ a, r = .ok a → Q a := by
  induction t with
  | done r => exact .done ⟨rfl, hy⟩
  | sync o k ih => exact fun s f hi hm => ih _ (ht.2 _) (hy _) _ f (ho o ht.1 s _ hi hm)
  | await q k ih =>
    intro s f hi
    refine ⟨own, hi, fun s f hi => ⟨fun hm => ?_, fun hm e => ?_⟩⟩
    · exact ⟨own, hq q ht.1 s _ hi hm, ih _ (ht.2 _) (hy _)⟩
    · exact ⟨own, hi, ih _ (ht.2 _) (hy _)⟩

theorem Triple.of_uses {okOp : I.Op → Prop} {okReq : I.Req → Prop}
    (ho : ∀ o, okOp o → ∀ s r, K.inv s r → K.mayRun s o → K.inv (H.runOp o s).2 r)
    (hq : ∀ q, okReq q → ∀ s r, K.inv s r → K.mayServe s q → K.inv (H.serve q s).2 r)
    {t : Task I α} (ht : t.Uses okOp okReq) (own : R) :
    Triple H K own t fun _ o => o = own :=
  (Triple.of_yields ho hq ht t.yields_any own).mono fun _ _ h => h.1

variable (H K) in
/-- The invariant survives these operations and requests, whatever is owned. -/
structure Passes (okOp : I.Op → Prop) (okReq : I.Req → Prop) : Prop where
  run : ∀ o, okOp o → ∀ s r, K.inv s r → K.mayRun s o → K.inv (H.runOp o s).2 r
  serve : ∀ q, okReq q → ∀ s r, K.inv s r → K.mayServe s q → K.inv (H.serve q s).2 r

theorem Passes.yields {okOp : I.Op → Prop} {okReq : I.Req → Prop} {Q : α → Prop}
    (h : Passes H K okOp okReq) {t : Task I α} (ht : t.Uses okOp okReq) (hy : t.Yields Q)
    (own : R) : Triple H K own t fun r o => o = own ∧ ∀ a, r = .ok a → Q a :=
  Triple.of_yields h.run h.serve ht hy own

theorem Passes.uses {okOp : I.Op → Prop} {okReq : I.Req → Prop} (h : Passes H K okOp okReq)
    {t : Task I α} (ht : t.Uses okOp okReq) (own : R) : Triple H K own t fun _ o => o = own :=
  Triple.of_uses h.run h.serve ht own

/-- A first part that passes the invariant on, whatever it returns. -/
theorem Passes.bind {okOp : I.Op → Prop} {okReq : I.Req → Prop} (h : Passes H K okOp okReq)
    {t : Task I α} {k : α → Task I β} {C : Except I.Err β → R → Prop} (ht : t.Uses okOp okReq)
    (hk : ∀ a, Triple H K own (k a) C) (herr : ∀ e, C (.error e) own) :
    Triple H K own (t >>= k) C := by
  apply (h.uses ht own).bind
  · rintro a _ rfl
    exact hk a
  · rintro e _ rfl
    exact herr e

theorem wp_yields {t : Task I α} {Q : α → Prop} {C : Except I.Err α → σ → R → Prop}
    (hy : t.Yields Q) : ∀ {s f}, t.wp H K C s f →
      t.wp H K (fun r s f => C r s f ∧ ∀ a, r = .ok a → Q a) s f := by
  induction t with
  | done r => exact fun h => ⟨h, hy⟩
  | sync o k ih => exact fun h hm => ih _ (hy _) (h hm)
  | await q k ih =>
    rintro s f ⟨own, hi, h⟩
    refine ⟨own, hi, fun s f hi => ⟨fun hm => ?_, fun hm e => ?_⟩⟩
    · obtain ⟨own', hi', h'⟩ := (h s f hi).1 hm
      exact ⟨own', hi', fun s' f' hs => ih _ (hy _) (h' s' f' hs)⟩
    · obtain ⟨own', hi', h'⟩ := (h s f hi).2 hm e
      exact ⟨own', hi', fun s' f' hs => ih _ (hy _) (h' s' f' hs)⟩

/-- What a task yields can be added to what it ends with. -/
theorem Triple.yields {t : Task I α} {Q : α → Prop} (h : Triple H K own t B) (hy : t.Yields Q) :
    Triple H K own t fun r o => B r o ∧ ∀ a, r = .ok a → Q a := by
  intro s f hi
  apply wp_mono H K ?_ (wp_yields hy (h s f hi))
  rintro r s' f' ⟨⟨own', hB, hi'⟩, hQ⟩
  exact ⟨own', ⟨hB, hQ⟩, hi'⟩

/-- A loop whose body gives back what it was given. -/
theorem Triple.forEach {f : β → Task I Unit} {xs : List β}
    (h : ∀ x ∈ xs, Triple H K own (f x) fun _ o => o = own) :
    Triple H K own (Task.forEach f xs) fun _ o => o = own := by
  induction xs with
  | nil => exact .done rfl
  | cons x xs ih =>
    refine Triple.bind (h x (by simp)) ?_ (fun _ _ ho => ho)
    rintro _ o rfl
    exact ih fun y hy => h y (by simp [hy])

/-- A loop whose body cannot fail, with what is owned before each element. -/
theorem Triple.forEach_inv {f : β → Task I Unit} {J : List β → R → Prop}
    (h : ∀ x xs o, J (x :: xs) o → Triple H K o (f x) fun r o' => r = .ok () ∧ J xs o') :
    ∀ xs o, J xs o → Triple H K o (Task.forEach f xs) fun r o' => r = .ok () ∧ J [] o' := by
  intro xs
  induction xs with
  | nil => exact fun o ho => .done ⟨rfl, ho⟩
  | cons x xs ih =>
    intro o ho
    apply (h x xs o ho).bind
    · exact fun _ o' ho' => ih o' ho'.2
    · exact fun _ _ he => nomatch he.1

/-- A loop whose body can fail, with what is owned before each element and
what is owned after an error. -/
theorem Triple.forEach_until {f : β → Task I Unit} {Inv : List β → R → Prop} {Bad : R → Prop}
    (h : ∀ x xs o, Inv (x :: xs) o → Triple H K o (f x) fun r o' =>
      (r = .ok () → Inv xs o') ∧ ∀ e, r = .error e → Bad o') :
    ∀ xs o, Inv xs o → Triple H K o (Task.forEach f xs) fun r o' =>
      (r = .ok () → Inv [] o') ∧ ∀ e, r = .error e → Bad o' := by
  intro xs
  induction xs with
  | nil => exact fun o ho => .done ⟨fun _ => ho, fun _ he => nomatch he⟩
  | cons x xs ih =>
    intro o ho
    apply (h x xs o ho).bind
    · exact fun _ o' ho' => ih o' (ho'.1 rfl)
    · exact fun e o' ho' => ⟨nofun, fun _ _ => ho'.2 e rfl⟩

/-- A search for each element: `Own` is owned with what was found so far, and
`N` holds where nothing was. -/
theorem Triple.collect_found {f : β → Task I (Option γ)} {Own : List γ → R} {key : γ → β}
    {P : γ → Prop} {N : β → Prop} (h : ∀ x known, Triple H K (Own known) (f x) fun r o =>
      (∃ y, r = .ok (some y) ∧ key y = x ∧ P y ∧ o = Own (known ++ [y])) ∨
      (r = .ok none ∧ N x ∧ o = Own known) ∨ ((∃ e, r = .error e) ∧ o = Own known)) :
    ∀ xs known, Triple H K (Own known) (Task.collect f xs) fun r o =>
      ∃ found, o = Own (known ++ found) ∧ ∀ ys, r = .ok ys → ys.filterMap id = found ∧
        (found.map key).Sublist xs ∧ (∀ y ∈ found, P y) ∧ (found = [] → ∀ x ∈ xs, N x) := by
  intro xs
  induction xs with
  | nil =>
    intro known
    apply Triple.done
    refine ⟨[], by simp, ?_⟩
    rintro ys ⟨⟩
    simp
  | cons x xs ih =>
    intro known
    have herror : ∀ (e : I.Err) (found : List γ), ∃ found', Own (known ++ found) = Own (known ++ found') ∧
        ∀ ys, (Except.error e : Except I.Err (List (Option γ))) = .ok ys →
          ys.filterMap id = found' ∧ (found'.map key).Sublist (x :: xs) ∧ (∀ y ∈ found', P y) ∧
            (found' = [] → ∀ x' ∈ x :: xs, N x') :=
      fun e found => ⟨found, rfl, nofun⟩
    apply (h x known).bind
    · intro a o ho
      have hfound : ∃ first : List γ, o = Own (known ++ first) ∧ a.toList = first ∧
          (first.map key).Sublist [x] ∧ (∀ y ∈ first, P y) ∧ (first = [] → N x) := by
        rcases ho with ⟨y, hy, hkey, hP, rfl⟩ | ⟨hnone, hN, rfl⟩ | ⟨⟨e, he⟩, -⟩
        · cases hy
          exact ⟨[y], rfl, rfl, by simp [hkey], by simpa using hP, nofun⟩
        · cases hnone
          exact ⟨[], by simp, rfl, by simp, by simp, fun _ => hN⟩
        · cases he
      obtain ⟨first, rfl, hfirst, hkeys, hP, hN⟩ := hfound
      apply (ih (known ++ first)).bind
      · rintro ys o ⟨found, rfl, hrest⟩
        obtain ⟨hys, hsub, hPs, hNs⟩ := hrest ys rfl
        apply Triple.done
        refine ⟨first ++ found, by rw [List.append_assoc], ?_⟩
        rintro ys' ⟨⟩
        refine ⟨?_, ?_, ?_, ?_⟩
        · rw [← hfirst, ← hys]
          cases a <;> rfl
        · rw [List.map_append]
          exact hkeys.append hsub
        · intro y hy
          rcases List.mem_append.mp hy with hy | hy
          · exact hP y hy
          · exact hPs y hy
        · intro hnil x' hx'
          obtain ⟨hfirst, hfound⟩ := List.append_eq_nil_iff.mp hnil
          rcases List.mem_cons.mp hx' with rfl | hx'
          · exact hN hfirst
          · exact hNs hfound x' hx'
      · rintro e o ⟨found, rfl, -⟩
        rw [List.append_assoc]
        exact herror e (first ++ found)
    · intro e o ho
      rcases ho with ⟨y, hy, -⟩ | ⟨hnone, -⟩ | ⟨-, rfl⟩
      · cases hy
      · cases hnone
      · simpa using herror e []

/-- A loop whose body uses up what belongs to its element. -/
theorem Triple.forEach_split {f : β → Task I Unit} {g : β → R} {xs : List β}
    (h : ∀ x ∈ xs, Triple H K (g x) (f x) fun r o => r = .ok () → o = 0) :
    Triple H K (xs.map g).sum (Task.forEach f xs) fun r o => r = .ok () → o = 0 := by
  induction xs with
  | nil => exact .done fun _ => rfl
  | cons x xs ih =>
    obtain ⟨hx, hxs⟩ := List.forall_mem_cons.mp h
    refine (hx.frame (xs.map g).sum).bind (fun _ o ho => ?_) fun _ _ _ => nofun
    obtain ⟨o', ho', rfl⟩ := ho
    rw [ho' rfl, zero_add]
    exact ih hxs

/-- The same for a loop that collects results, each owning what `g'` says. -/
theorem Triple.collect_split {f : β → Task I γ} {g : β → R} {g' : γ → R} {xs : List β}
    (h : ∀ x ∈ xs, Triple H K (g x) (f x) fun r o => ∀ y, r = .ok y → o = g' y) :
    Triple H K (xs.map g).sum (Task.collect f xs)
      fun r o => ∀ ys, r = .ok ys → o = (ys.map g').sum := by
  induction xs with
  | nil =>
    refine .done fun ys hys => ?_
    cases hys
    rfl
  | cons x xs ih =>
    obtain ⟨hx, hxs⟩ := List.forall_mem_cons.mp h
    refine (hx.frame (xs.map g).sum).bind (fun y o ho => ?_) fun _ _ _ _ => nofun
    obtain ⟨o', ho', rfl⟩ := ho
    rw [ho' y rfl, add_comm]
    refine ((ih hxs).frame (g' y)).bind (fun ys o ho => ?_) fun _ _ _ _ => nofun
    obtain ⟨o', ho', rfl⟩ := ho
    refine .done fun ys' hys' => ?_
    cases hys'
    rw [ho' ys rfl, List.map_cons, List.sum_cons, add_comm]

/-- A loop over what was made of some elements, whose body may keep some of what
belongs to the element. -/
theorem Triple.forEach_zip {f : γ → Task I Unit} {g : β → R} {P : β → γ → Prop} {xs : List β}
    {ys : List γ} (hall : List.Forall₂ P xs ys)
    (h : ∀ x y, P x y → Triple H K (g x) (f y) fun _ _ => True) :
    Triple H K (xs.map g).sum (Task.forEach f ys) fun _ _ => True := by
  induction hall with
  | nil => exact .done trivial
  | @cons x y xs ys hxy hall ih =>
    apply ((h x y hxy).frame (xs.map g).sum).bind
    · rintro _ o ⟨rest, -, rfl⟩
      rw [add_comm]
      exact (ih.frame rest).mono fun _ _ _ => trivial
    · exact fun _ _ _ => trivial

/-- The same over the elements themselves. -/
theorem Triple.forEach_rest {f : β → Task I Unit} {g : β → R} {xs : List β}
    (h : ∀ x ∈ xs, Triple H K (g x) (f x) fun _ _ => True) :
    Triple H K (xs.map g).sum (Task.forEach f xs) fun _ _ => True := by
  have hall : List.Forall₂ (fun x y => x = y ∧ y ∈ xs) xs xs :=
    List.forall₂_same.mpr fun x hx => ⟨rfl, hx⟩
  apply Triple.forEach_zip hall
  rintro x _ ⟨rfl, hx⟩
  exact h x hx

/-- A loop that collects results; each owns at least what `g'` says of it and
its element. -/
theorem Triple.collect_zip {f : β → Task I γ} {g : β → R} {g' : β → γ → R} {P : β → γ → Prop}
    {xs : List β} (h : ∀ x ∈ xs, Triple H K (g x) (f x) fun r o => ∀ y, r = .ok y →
      P x y ∧ ∃ rest, o = g' x y + rest) :
    Triple H K (xs.map g).sum (Task.collect f xs) fun r o => ∀ ys, r = .ok ys →
      List.Forall₂ P xs ys ∧ ∃ rest, o = (List.zipWith g' xs ys).sum + rest := by
  induction xs with
  | nil =>
    apply Triple.done
    intro ys hys
    cases hys
    exact ⟨.nil, 0, (add_zero _).symm⟩
  | cons x xs ih =>
    obtain ⟨hx, hxs⟩ := List.forall_mem_cons.mp h
    apply (hx.frame (xs.map g).sum).bind
    · rintro y o ⟨o', ho', rfl⟩
      obtain ⟨hy, rest, rfl⟩ := ho' y rfl
      rw [add_comm]
      apply ((ih hxs).frame (g' x y + rest)).bind
      · rintro ys o ⟨o'', ho'', rfl⟩
        obtain ⟨hys, rest', rfl⟩ := ho'' ys rfl
        apply Triple.done
        intro ys' hys'
        cases hys'
        refine ⟨.cons hy hys, rest' + rest, ?_⟩
        rw [List.zipWith_cons_cons, List.sum_cons]
        abel
      · exact fun _ _ _ _ => nofun
    · exact fun _ _ _ _ => nofun

theorem zipWith_of_forall₂ {δ : Type} {P : β → γ → Prop} {g : γ → δ} {xs : List β} {ys : List γ}
    (h : List.Forall₂ P xs ys) : List.zipWith (fun _ => g) xs ys = ys.map g := by
  induction h with
  | nil => rfl
  | cons _ _ ih => rw [List.zipWith_cons_cons, List.map_cons, ih]

theorem zipWith_left_of_forall₂ {δ : Type} {P : β → γ → Prop} {g : β → δ} {xs : List β}
    {ys : List γ} (h : List.Forall₂ P xs ys) : List.zipWith (fun x _ => g x) xs ys = xs.map g := by
  induction h with
  | nil => rfl
  | cons _ _ ih => rw [List.zipWith_cons_cons, List.map_cons, ih]

/-- The same where the result alone says what it owns. -/
theorem Triple.collect_rest {f : β → Task I γ} {g : β → R} {g' : γ → R} {xs : List β}
    (h : ∀ x ∈ xs, Triple H K (g x) (f x) fun r o => ∀ y, r = .ok y → ∃ rest, o = g' y + rest) :
    Triple H K (xs.map g).sum (Task.collect f xs)
      fun r o => ∀ ys, r = .ok ys → ∃ rest, o = (ys.map g').sum + rest := by
  have hzip : Triple H K (xs.map g).sum (Task.collect f xs) fun r o => ∀ ys, r = .ok ys →
      List.Forall₂ (fun _ _ => True) xs ys ∧
        ∃ rest, o = (List.zipWith (fun _ => g') xs ys).sum + rest :=
    Triple.collect_zip fun x hx => (h x hx).mono fun _ _ ho y hy => ⟨trivial, ho y hy⟩
  apply hzip.mono
  intro r o ho ys hys
  obtain ⟨hlen, rest, rfl⟩ := ho ys hys
  rw [zipWith_of_forall₂ hlen]
  exact ⟨rest, rfl⟩

/-! ## Soundness -/

theorem wp_advance {t : Task I α} : ∀ {s f},
    t.wp H K (fun r s f => ∃ own', B r own' ∧ K.inv s (own' + f)) s f →
    (∀ p ∈ t.opsRun H s, K.mayRun p.1 p.2) →
    ∃ own', K.inv (t.advance H s).2 (own' + f) ∧ Triple H K own' (t.advance H s).1 B := by
  induction t with
  | done r =>
    rintro s f ⟨own', hp, hi⟩ -
    exact ⟨own', hi, .done hp⟩
  | sync o k ih =>
    intro s f h hops
    simp only [opsRun, List.mem_cons, forall_eq_or_imp] at hops
    exact ih _ (h hops.1) hops.2
  | await q k =>
    rintro s f ⟨own', hi, h⟩ -
    exact ⟨own', hi, fun s f hi => ⟨own', hi, h⟩⟩

theorem Triple.advance {t : Task I α} {s : σ} {f : R} (h : Triple H K own t B)
    (hi : K.inv s (own + f)) (hops : ∀ p ∈ t.opsRun H s, K.mayRun p.1 p.2) :
    ∃ own', K.inv (t.advance H s).2 (own' + f) ∧ Triple H K own' (t.advance H s).1 B :=
  wp_advance (h s f hi) hops

theorem Triple.serve {q : I.Req} {k : Except I.Err (I.Ans q) → Task I α} {s : σ} {f : R}
    (h : Triple H K own (.await q k) B) (hi : K.inv s (own + f)) (hm : K.mayServe s q) :
    ∃ own', K.inv (H.serve q s).2 (own' + f) ∧ Triple H K own' (k (H.serve q s).1) B := by
  obtain ⟨own₀, hi₀, h₀⟩ := h s f hi
  exact (h₀ s f hi₀).1 hm

theorem Triple.reject {q : I.Req} {k : Except I.Err (I.Ans q) → Task I α} {s : σ} {f : R}
    (h : Triple H K own (.await q k) B) (hi : K.inv s (own + f)) (hm : K.mayReject s q)
    (e : I.Err) : ∃ own', K.inv s (own' + f) ∧ Triple H K own' (k (.error e)) B := by
  obtain ⟨own₀, hi₀, h₀⟩ := h s f hi
  exact (h₀ s f hi₀).2 hm e

end Task

/-- One summand of a sum, with the rest as a frame. -/
theorem sum_set_frame {R : Type} [AddCommMonoid R] :
    ∀ {rs : List R} {i : Nat} {r : R}, rs[i]? = some r →
      ∃ f, rs.sum = r + f ∧ ∀ r', (rs.set i r').sum = r' + f
  | [], i, r, h => by simp at h
  | x :: rs, 0, r, h => by
    simp only [List.getElem?_cons_zero, Option.some.injEq] at h
    subst h
    exact ⟨rs.sum, by simp, fun r' => by simp⟩
  | x :: rs, i + 1, r, h => by
    simp only [List.getElem?_cons_succ] at h
    obtain ⟨f, hf, hset⟩ := sum_set_frame h
    refine ⟨x + f, by simp [hf, add_left_comm], fun r' => ?_⟩
    simp [hset, add_left_comm]

/-- What belongs to the results that are there. -/
theorem sum_map_filterMap {R β : Type} [AddCommMonoid R] (g : β → R) (xs : List (Option β)) :
    (xs.map fun x => (x.map g).getD 0).sum = ((xs.filterMap id).map g).sum := by
  induction xs with
  | nil => rfl
  | cons x xs ih =>
    cases x with
    | none => simpa using ih
    | some b =>
      rw [List.map_cons, List.sum_cons, ih]
      rfl

/-- One token for each element. -/
theorem mem_sum_singletons {β γ : Type} {f : β → γ} {xs : List β} {t : γ} :
    t ∈ (xs.map fun x => ({f x} : Multiset γ)).sum ↔ ∃ x ∈ xs, f x = t := by
  induction xs with
  | nil => simp
  | cons x xs ih => simp [ih, eq_comm]

/-! ## What the tasks of a pool own together -/

section Shares
variable {I : Interface} {τ L R : Type} [AddCommMonoid R]

/-- Every task has a triple under its label, and the invariant holds of the
state and of what they own together. -/
def Shares (Hs : L → Host I τ) (K : L → Discipline I τ R) (inv : τ → R → Prop)
    (post : L → Except I.Err Unit → R → Prop) (s : τ) (tasks : List (L × Task I Unit)) : Prop :=
  ∃ owns : List R, inv s owns.sum ∧ owns.length = tasks.length ∧
    ∀ (i : Nat) l t r, tasks[i]? = some (l, t) → owns[i]? = some r →
      Task.Triple (Hs l) (K l) r t (post l)

variable {Hs : L → Host I τ} {K : L → Discipline I τ R} {inv : τ → R → Prop}
  {post : L → Except I.Err Unit → R → Prop} {s s' : τ} {tasks : List (L × Task I Unit)}

theorem Shares.holds (h : Shares Hs K inv post s tasks) : ∃ r, inv s r := by
  obtain ⟨owns, hi, -⟩ := h
  exact ⟨owns.sum, hi⟩

theorem Shares.state (h : Shares Hs K inv post s tasks) (hs : ∀ r, inv s r → inv s' r) :
    Shares Hs K inv post s' tasks := by
  obtain ⟨owns, hi, hrest⟩ := h
  exact ⟨owns, hs _ hi, hrest⟩

theorem shares_nil (hi : inv s 0) : Shares Hs K inv post s [] := by
  refine ⟨[], hi, rfl, ?_⟩
  intro i l t r ht _
  simp at ht

theorem shares_single {l : L} {t : Task I Unit} {r₀ : R}
    (ht : Task.Triple (Hs l) (K l) r₀ t (post l)) (hi : inv s r₀) :
    Shares Hs K inv post s [(l, t)] := by
  refine ⟨[r₀], by simpa using hi, rfl, ?_⟩
  intro i l' t' r hj hr
  cases i with
  | zero =>
    cases hj
    cases hr
    exact ht
  | succ i => simp at hr

/-- A task that starts owns nothing. -/
theorem Shares.start {l : L} {t : Task I Unit} (h : Shares Hs K inv post s tasks)
    (ht : Task.Triple (Hs l) (K l) 0 t (post l)) : Shares Hs K inv post s (tasks ++ [(l, t)]) := by
  obtain ⟨owns, hi, hlen, hall⟩ := h
  refine ⟨owns ++ [0], by simpa using hi, by simp [hlen], ?_⟩
  intro i l' t' r hj hr
  rcases Nat.lt_trichotomy i tasks.length with hlt | rfl | hgt
  · rw [List.getElem?_append_left hlt] at hj
    rw [List.getElem?_append_left (hlen ▸ hlt)] at hr
    exact hall i l' t' r hj hr
  · rw [← hlen] at hr
    simp only [List.getElem?_concat_length, Option.some.injEq, Prod.mk.injEq] at hj hr
    obtain ⟨rfl, rfl⟩ := hj
    subst hr
    exact ht
  · rw [List.getElem?_eq_none (by simp; omega)] at hj
    cases hj

/-- One task moves on: from what it owns and any frame, the invariant is kept
with what it owns then. -/
theorem Shares.move {i : Nat} {l : L} {t t' : Task I Unit} (h : Shares Hs K inv post s tasks)
    (ht : tasks[i]? = some (l, t))
    (hmove : ∀ own f, Task.Triple (Hs l) (K l) own t (post l) → inv s (own + f) →
      ∃ own', inv s' (own' + f) ∧ Task.Triple (Hs l) (K l) own' t' (post l)) :
    Shares Hs K inv post s' (tasks.set i (l, t')) := by
  obtain ⟨owns, hi, hlen, hall⟩ := h
  obtain ⟨r, hr⟩ : ∃ r, owns[i]? = some r :=
    ⟨_, List.getElem?_eq_getElem (hlen ▸ (List.getElem?_eq_some_iff.mp ht).1)⟩
  obtain ⟨f, hsum, hset⟩ := sum_set_frame hr
  obtain ⟨own', hi', ht'⟩ := hmove r f (hall i l t r ht hr) (hsum ▸ hi)
  refine ⟨owns.set i own', by rw [hset]; exact hi', by simp [hlen], ?_⟩
  intro j l' t'' r' hj hr'
  simp only [List.getElem?_set] at hj hr'
  by_cases hij : i = j
  · rw [if_pos hij] at hj hr'
    split at hj <;> split at hr' <;> cases hj <;> cases hr'
    exact ht'
  · rw [if_neg hij] at hj hr'
    exact hall j l' t'' r' hj hr'

variable (hinv : ∀ l, (K l).inv = inv)
include hinv

theorem Shares.resume {i : Nat} {l : L} {t : Task I Unit} (h : Shares Hs K inv post s tasks)
    (ht : tasks[i]? = some (l, t)) (hops : ∀ p ∈ t.opsRun (Hs l) s, (K l).mayRun p.1 p.2) :
    Shares Hs K inv post (t.advance (Hs l) s).2 (tasks.set i (l, (t.advance (Hs l) s).1)) := by
  apply h.move ht
  intro own f htriple hi
  have hkept := htriple.advance (f := f) (by rw [hinv]; exact hi) hops
  rwa [hinv] at hkept

theorem Shares.serve {i : Nat} {l : L} {q : I.Req} {k : Except I.Err (I.Ans q) → Task I Unit}
    (h : Shares Hs K inv post s tasks) (ht : tasks[i]? = some (l, .await q k))
    (hmay : (K l).mayServe s q) :
    Shares Hs K inv post ((Hs l).serve q s).2 (tasks.set i (l, k ((Hs l).serve q s).1)) := by
  apply h.move ht
  intro own f htriple hi
  have hkept := htriple.serve (f := f) (by rw [hinv]; exact hi) hmay
  rwa [hinv] at hkept

theorem Shares.reject {i : Nat} {l : L} {q : I.Req} {k : Except I.Err (I.Ans q) → Task I Unit}
    (h : Shares Hs K inv post s tasks) (ht : tasks[i]? = some (l, .await q k))
    (hmay : (K l).mayReject s q) (e : I.Err) :
    Shares Hs K inv post s (tasks.set i (l, k (.error e))) := by
  apply h.move ht
  intro own f htriple hi
  have hkept := htriple.reject (f := f) (by rw [hinv]; exact hi) hmay e
  rwa [hinv] at hkept

/-- What two tasks that have ended own. -/
theorem Shares.ended {i j : Nat} {l l' : L} {r r' : Except I.Err Unit}
    (h : Shares Hs K inv post s tasks) (hne : i ≠ j) (hi : tasks[i]? = some (l, .done r))
    (hj : tasks[j]? = some (l', .done r')) :
    ∃ own own' f, inv s (own + (own' + f)) ∧ post l r own ∧ post l' r' own' := by
  obtain ⟨owns, hinvs, hlen, hall⟩ := h
  obtain ⟨a, ha⟩ : ∃ a, owns[i]? = some a :=
    ⟨_, List.getElem?_eq_getElem (hlen ▸ (List.getElem?_eq_some_iff.mp hi).1)⟩
  obtain ⟨b, hb⟩ : ∃ b, owns[j]? = some b :=
    ⟨_, List.getElem?_eq_getElem (hlen ▸ (List.getElem?_eq_some_iff.mp hj).1)⟩
  obtain ⟨f, hsum, hset⟩ := sum_set_frame ha
  have hbset : (owns.set i 0)[j]? = some b := by rwa [List.getElem?_set_ne hne]
  obtain ⟨f', hsum', -⟩ := sum_set_frame hbset
  have hf : f = b + f' := by rw [← zero_add f, ← hset, hsum']
  rw [hsum, hf, ← hinv l] at hinvs
  obtain ⟨own, hown, hinvs⟩ := hall i l _ a hi ha s _ hinvs
  rw [add_left_comm, hinv l, ← hinv l'] at hinvs
  obtain ⟨own', hown', hinvs⟩ := hall j l' _ b hj hb s _ hinvs
  rw [add_left_comm, hinv l'] at hinvs
  exact ⟨own, own', f', hinvs, hown, hown'⟩

end Shares

namespace Machine
variable {I : Interface} {σ L D R : Type} [AddCommMonoid R]

/-- Every task of the pool has a triple, and the invariant holds of the state
and of what they own together. -/
def Owned (M : Machine I σ L D) (K : L → Discipline I σ R) (inv : σ → R → Prop)
    (c : Pool I σ L) : Prop :=
  ∃ owns : List R, inv c.state owns.sum ∧ owns.length = c.tasks.length ∧
    ∀ (i : Nat) l t r, c.tasks[i]? = some (l, t) → owns[i]? = some r →
      Task.Triple M.host (K l) r t fun _ _ => True

variable {M : Machine I σ L D} {K : L → Discipline I σ R} {inv : σ → R → Prop}

theorem owned_iff {c : Pool I σ L} : M.Owned K inv c ↔
    Shares (fun _ => M.host) K inv (fun _ _ _ => True) c.state c.tasks := Iff.rfl

theorem Owned.holds {c : Pool I σ L} (h : M.Owned K inv c) : ∃ r, inv c.state r :=
  Shares.holds (owned_iff.mp h)

theorem owned_init {r₀ : R}
    (hboot : Task.Triple M.host (K M.boot) r₀ (M.program M.boot) fun _ _ => True)
    {s : σ} (hi : inv s r₀) : M.Owned K inv (M.init s) :=
  owned_iff.mpr (shares_single hboot hi)

theorem owned_nil {s : σ} (hi : inv s 0) : M.Owned K inv ⟨s, []⟩ :=
  owned_iff.mpr (shares_nil hi)

/-- What a guard promises: the operations it lets run, the requests it lets be
served and reject are those the label's discipline allows. -/
structure Respects (M : Machine I σ L D) (K : L → Discipline I σ R)
    (G : Pool I σ L → Choice I L D → Prop) : Prop where
  run : ∀ c i l t, G c (.resume i) → c.tasks[i]? = some (l, t) →
    ∀ p ∈ t.opsRun M.host c.state, (K l).mayRun p.1 p.2
  serve : ∀ c i l q k, G c (.serve i) → c.tasks[i]? = some (l, .await q k) →
    (K l).mayServe c.state q
  reject : ∀ c i e l q k, G c (.reject i e) → c.tasks[i]? = some (l, .await q k) →
    (K l).mayReject c.state q

/-- **Soundness of ownership.** When the boot program has a triple from `r₀` and
every program that may start has one from nothing, the disciplines share one
invariant, the guard respects them, and drift and crash keep the invariant, the
pool stays owned along every guarded run. -/
theorem Run.owned {G : Pool I σ L → Choice I L D → Prop} {r₀ : R}
    (hinv : ∀ l, (K l).inv = inv)
    (hboot : Task.Triple M.host (K M.boot) r₀ (M.program M.boot) fun _ _ => True)
    (hprog : ∀ s l, M.startable s l = true →
      Task.Triple M.host (K l) 0 (M.program l) fun _ _ => True)
    (hG : M.Respects K G)
    (hdrift : ∀ c d r, G c (.drift d) → inv c.state r → inv (M.drift d c.state) r)
    (hcrash : ∀ c r, G c .crash → inv c.state r → inv (M.reboot c.state) r₀)
    {c c' : Pool I σ L} (h : M.Run G c c') (h0 : M.Owned K inv c) : M.Owned K inv c' := by
  apply h.invariant (P := M.Owned K inv) ?_ h0
  intro c ch c' hc hg hs
  have hshares := owned_iff.mp hc
  apply owned_iff.mpr
  rcases M.step_cases hs with ⟨l, rfl, hstart, rfl⟩ | ⟨i, l, t, rfl, ht, rfl⟩ |
    ⟨i, l, q, k, rfl, ht, rfl⟩ | ⟨i, l, q, k, e, rfl, ht, rfl⟩ | ⟨d, rfl, rfl⟩ | ⟨rfl, rfl⟩
  · exact hshares.start (hprog _ _ hstart)
  · exact hshares.resume hinv ht (hG.run _ _ _ _ hg ht)
  · exact hshares.serve hinv ht (hG.serve _ _ _ _ _ hg ht)
  · exact hshares.reject hinv ht (hG.reject _ _ e _ _ _ hg ht) e
  · exact hshares.state fun r => hdrift _ _ r hg
  · obtain ⟨r, hr⟩ := hc.holds
    exact shares_single hboot (hcrash _ _ hg hr)

end Machine
end Async
