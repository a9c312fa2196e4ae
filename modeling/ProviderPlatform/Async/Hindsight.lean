import ProviderPlatform.Async.Observer

/-! # Observed runs in hindsight

What is kept of a run up to one of its states was already within that when each
earlier step was made. A discipline may therefore be about the end of the run:
what the steps may do is bounded by what is kept in the end. -/
namespace Async

variable {I : Interface} {σ L D μ R α : Type}

/-- What held of the value kept in the end held of the earlier ones. -/
structure Observer.Looksback (O : Observer I σ L μ) (ok : μ → Prop) : Prop where
  op : ∀ l s o m, ok (O.onOp l s o m) → ok m
  serve : ∀ l s q m, ok (O.onServe l s q m) → ok m
  crash : ∀ m, ok (O.onCrash m) → ok m

/-- Keeps nothing. -/
def Observer.blind : Observer I σ L Unit := ⟨fun _ _ _ => id, fun _ _ _ => id, id⟩

theorem looksback_true (O : Observer I σ L μ) : O.Looksback fun _ => True :=
  ⟨fun _ _ _ _ _ => trivial, fun _ _ _ _ _ => trivial, fun _ _ => trivial⟩

variable {H : Host I σ} {O : Observer I σ L μ} {ok : μ → Prop}

theorem Observer.Looksback.advance (h : O.Looksback ok) {l : L} {t : Task I α} :
    ∀ {s : σ} {m : μ}, ok (t.advance (H.observe O l) (s, m)).2.2 → ok m := by
  induction t with
  | done r => exact id
  | await q k => exact id
  | sync o k ih => exact fun hm => h.op _ _ _ _ (ih _ hm)

/-- Each operation of a task that is resumed left something that was fine. -/
theorem Observer.Looksback.opsRun (h : O.Looksback ok) {l : L} {t : Task I α} :
    ∀ {s : σ} {m : μ}, ok (t.advance (H.observe O l) (s, m)).2.2 →
      ∀ p ∈ t.opsRun (H.observe O l) (s, m), ok (O.onOp l p.1.1 p.2 p.1.2) := by
  induction t with
  | done r => exact fun _ p hp => absurd hp List.not_mem_nil
  | await q k => exact fun _ p hp => absurd hp List.not_mem_nil
  | sync o k ih =>
    intro s m hm
    exact List.forall_mem_cons.mpr ⟨h.advance hm, ih _ hm⟩

section Soundness
variable [AddCommMonoid R] {M : Machine I σ L D} {G : Pool I σ L → Choice I L D → Prop}
  {c₀ c : Pool I σ L} {m₀ m : μ}

/-- **Soundness in hindsight.** As `Observed.shares`: a step need only be one the
disciplines allow if what is kept after it is fine, and it is if the end is. -/
theorem Machine.Observed.shares_within {K : L → Discipline I (σ × μ) R} {inv : σ × μ → R → Prop}
    {post : L → Except I.Err Unit → R → Prop} {r₀ : R} (hinv : ∀ l, (K l).inv = inv)
    (hback : O.Looksback ok)
    (hrun : ∀ l s o m, ok (O.onOp l s o m) → (K l).mayRun (s, m) o)
    (hserve : ∀ l s q m, ok (O.onServe l s q m) → (K l).mayServe (s, m) q)
    (hreject : ∀ l p q, (K l).mayReject p q)
    (hboot : Task.Triple (M.host.observe O M.boot) (K M.boot) r₀ (M.program M.boot) (post M.boot))
    (hprog : ∀ s l, M.startable s l = true →
      Task.Triple (M.host.observe O l) (K l) 0 (M.program l) (post l))
    (hdrift : ∀ s m d r, inv (s, m) r → inv (M.drift d s, m) r)
    (hcrash : ∀ s m r, inv (s, m) r → inv (M.reboot s, O.onCrash m) r₀)
    (h0 : Shares (M.host.observe O) K inv post (c₀.state, m₀) c₀.tasks)
    (h : M.Observed O G c₀ m₀ c m) (hm : ok m) :
    Shares (M.host.observe O) K inv post (c.state, m) c.tasks := by
  induction h with
  | refl => exact h0
  | @step c c' m ch hr hg hs ih =>
    rcases M.step_cases hs with ⟨l, rfl, hstart, rfl⟩ | ⟨i, l, t, rfl, ht, rfl⟩ |
      ⟨i, l, q, k, rfl, ht, rfl⟩ | ⟨i, l, q, k, e, rfl, ht, rfl⟩ | ⟨d, rfl, rfl⟩ | ⟨rfl, rfl⟩
    · exact (ih hm).start (hprog _ _ hstart)
    · simp only [Observer.after, ht] at hm ⊢
      have hkept := (ih (hback.advance hm)).resume hinv ht fun p hp =>
        hrun l p.1.1 p.2 p.1.2 (hback.opsRun hm p hp)
      obtain ⟨htask, hstate⟩ := advance_observe M.host O l t c.state m
      rw [htask] at hkept
      rw [← hstate]
      exact hkept
    · simp only [Observer.after, ht] at hm ⊢
      exact (ih (hback.serve l _ q m hm)).serve hinv ht (hserve l _ q m hm)
    · exact (ih hm).reject hinv ht (hreject l _ q) e
    · exact (ih hm).state fun r => hdrift _ _ _ r
    · obtain ⟨r, hr⟩ := (ih (hback.crash m hm)).holds
      exact shares_single hboot (hcrash _ _ _ hr)

end Soundness
end Async
