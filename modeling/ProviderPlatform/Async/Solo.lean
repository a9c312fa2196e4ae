import ProviderPlatform.Async.Ownership
import ProviderPlatform.Async.Trace

/-! # A triple for one task on its own

A triple holds whatever other tasks do. For a task that runs alone it says
what the state and the task's resources are at its end, under every schedule
whose steps the discipline allows. -/
namespace Async

variable {I : Interface} {σ R α : Type}

/-- The discipline allows the step. -/
def Discipline.Allows (K : Discipline I σ R) : Step I σ → Prop
  | .ran s o => K.mayRun s o
  | .served s q => K.mayServe s q
  | .rejected s q _ => K.mayReject s q
  | .stopped _ _ => False

namespace Task
variable [AddCommMonoid R] {H : Host I σ} {K : Discipline I σ R}

theorem wp_eval (hpass : ∀ n s r, K.inv s r → K.inv (H.pass n s) r) {t : Task I α}
    {Q : Except I.Err α → σ → R → Prop} : ∀ {bs s}, t.wp H K Q s 0 →
      (∀ st ∈ t.trace H bs s, K.Allows st) →
      ∃ r, (t.eval H bs s).1 = some r ∧ Q r (t.eval H bs s).2.2 0 := by
  induction t with
  | done r => exact fun h _ => ⟨r, rfl, h⟩
  | sync o k ih =>
    intro bs s h hallows
    obtain ⟨hrun, hrest⟩ := List.forall_mem_cons.mp hallows
    exact ih _ (h hrun) hrest
  | await q k ih =>
    rintro bs s ⟨own, hinv, h⟩ hallows
    have hlater := h _ 0 (hpass (bs.headD .calm).elapsed s _ hinv)
    simp only [trace, eval] at hallows ⊢
    split
    · rename_i hfate
      rw [hfate] at hallows
      obtain ⟨hserve, hrest⟩ := List.forall_mem_cons.mp hallows
      obtain ⟨own', hinv', hnext⟩ := hlater.1 hserve
      exact ih _ (hnext _ 0 hinv') hrest
    · rename_i e hfate
      rw [hfate] at hallows
      obtain ⟨hreject, hrest⟩ := List.forall_mem_cons.mp hallows
      obtain ⟨own', hinv', hnext⟩ := hlater.2 hreject e
      exact ih _ (hnext _ 0 hinv') hrest
    · rename_i hfate
      rw [hfate] at hallows
      exact absurd (hallows _ List.mem_cons_self) id

/-- A task that runs alone ends as its triple says. -/
theorem Triple.eval (hpass : ∀ n s r, K.inv s r → K.inv (H.pass n s) r) {own : R}
    {t : Task I α} {B : Except I.Err α → R → Prop} (h : Triple H K own t B)
    {bs : List (Beat I.Err)} {s : σ} (hinv : K.inv s own)
    (hallows : ∀ st ∈ t.trace H bs s, K.Allows st) :
    ∃ r own', (t.eval H bs s).1 = some r ∧ B r own' ∧ K.inv (t.eval H bs s).2.2 own' := by
  obtain ⟨r, hr, own', hB, hinv'⟩ := wp_eval hpass (h s 0 (by rwa [add_zero])) hallows
  exact ⟨r, own', hr, hB, by rwa [add_zero] at hinv'⟩

end Task
end Async
