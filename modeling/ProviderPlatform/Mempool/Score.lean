import ProviderPlatform.Provider
import ProviderPlatform.Mempool.Bookkeeping
import Mathlib.Data.Int.ConditionallyCompleteOrder
import Mathlib.Order.Monotone.Basic
import Mathlib.Tactic.GCongr
import Mathlib.Tactic.Linarith

/-! # What the score prefers

The score is a sum of three terms. The fee enters linearly, so it decides
strictly; the age is capped at a day and the time to the TTL cut off at zero, so
these two only never count against an older or a more urgent bundle. -/
namespace ProviderPlatform

def feeScore (fee : Int) : Rat := fee / 1000000

/-- One from an age of 24 hours on; negative for a bundle of the future. -/
def ageScore (now createdAt : Time) : Rat :=
  min ((now - createdAt : Int) / (1000 * 60 * 60) / 24) 1

/-- Zero once the TTL has passed. -/
def timeRemainingHours (now ttl : Time) : Rat := max 0 ((ttl - now : Int) / (1000 * 60 * 60))

def ttlScore (timeRemainingHours : Rat) : Rat :=
  if timeRemainingHours > 0 then 24 / (timeRemainingHours + 1) else 24

theorem calculatePriorityScore_eq (now : Time) (fee : Int) (ttl createdAt : Time) :
    calculatePriorityScore now fee ttl createdAt =
      feeScore fee * (6 / 10) + ageScore now createdAt * (3 / 10) +
        ttlScore (timeRemainingHours now ttl) * (1 / 10) := rfl

/-! ## One term at a time -/

theorem feeScore_strictMono : StrictMono feeScore := by
  intro fee fee' hlt
  have hcast : (fee : Rat) < fee' := Int.cast_lt.mpr hlt
  unfold feeScore
  gcongr

theorem ageScore_antitone (now : Time) : Antitone (ageScore now) := by
  intro createdAt createdAt' hle
  have hcast : ((now - createdAt' : Int) : Rat) ≤ (now - createdAt : Int) :=
    Int.cast_le.mpr (Int.sub_le_sub_left hle now)
  unfold ageScore
  gcongr

theorem timeRemainingHours_mono (now : Time) : Monotone (timeRemainingHours now) := by
  intro ttl ttl' hle
  have hcast : ((ttl - now : Int) : Rat) ≤ (ttl' - now : Int) :=
    Int.cast_le.mpr (Int.sub_le_sub_right hle now)
  unfold timeRemainingHours
  gcongr

theorem timeRemainingHours_nonneg (now ttl : Time) : 0 ≤ timeRemainingHours now ttl :=
  le_max_left 0 _

/-- The two branches meet: at zero the fraction is 24 as well. -/
theorem ttlScore_eq {hours : Rat} (h : 0 ≤ hours) : ttlScore hours = 24 / (hours + 1) := by
  unfold ttlScore
  split
  · rfl
  · rename_i hnot
    have hzero : hours = 0 := le_antisymm (not_lt.mp hnot) h
    rw [hzero, zero_add, div_one]

theorem ttlScore_antitone (now : Time) : Antitone fun ttl => ttlScore (timeRemainingHours now ttl) := by
  intro ttl ttl' hle
  have hmono := timeRemainingHours_mono now hle
  have hnonneg := timeRemainingHours_nonneg now ttl
  have hpos : 0 < timeRemainingHours now ttl + 1 := by linarith
  simp only [ttlScore_eq hnonneg, ttlScore_eq (timeRemainingHours_nonneg now ttl')]
  gcongr

/-! ## The score -/

/-- The bundle carries the score of a moment. -/
def SlotBundle.ScoredAt (bundle : SlotBundle) (now : Time) : Prop :=
  bundle.priorityScore = calculatePriorityScore now bundle.fee bundle.ttl bundle.createdAt

theorem calculatePriorityScore_lt {now : Time} {fee fee' : Int} {ttl ttl' createdAt createdAt' : Time}
    (hfee : fee < fee') (hcreated : createdAt' ≤ createdAt) (httl : ttl' ≤ ttl) :
    calculatePriorityScore now fee ttl createdAt <
      calculatePriorityScore now fee' ttl' createdAt' := by
  have hfeeScore := feeScore_strictMono hfee
  have hageScore := ageScore_antitone now hcreated
  have httlScore : ttlScore (timeRemainingHours now ttl) ≤ ttlScore (timeRemainingHours now ttl') :=
    ttlScore_antitone now httl
  rw [calculatePriorityScore_eq, calculatePriorityScore_eq]
  linarith

theorem calculatePriorityScore_le {now : Time} {fee : Int} {ttl ttl' createdAt createdAt' : Time}
    (hcreated : createdAt' ≤ createdAt) (httl : ttl' ≤ ttl) :
    calculatePriorityScore now fee ttl createdAt ≤
      calculatePriorityScore now fee ttl' createdAt' := by
  have hageScore := ageScore_antitone now hcreated
  have httlScore : ttlScore (timeRemainingHours now ttl) ≤ ttlScore (timeRemainingHours now ttl') :=
    ttlScore_antitone now httl
  rw [calculatePriorityScore_eq, calculatePriorityScore_eq]
  linarith

/-- A bundle that compares before another is never sorted behind it. -/
theorem sortByPriority_before {a b : SlotBundle} (h : compareBundlePriority a b < 0)
    (bundles : List SlotBundle) : ¬ [b, a].Sublist (sortByPriority bundles) := by
  intro hsub
  have hsorted := (Slot.sortByPriority_sorted bundles).sublist hsub
  obtain ⟨hle, -⟩ := List.pairwise_cons.mp hsorted
  exact absurd (hle a List.mem_cons_self) (not_le.mpr (sub_neg.mp h))

/-- **The order of priority.** At a fixed time the score rises strictly with the
fee and never falls when a bundle is older or nearer to its TTL. So of two
bundles, the one that pays more and is at least as old and as urgent comes
first, in the comparison and in every sorted slot. -/
theorem priority_prefers (now : Time) :
    (∀ ttl createdAt, StrictMono fun fee => calculatePriorityScore now fee ttl createdAt) ∧
    (∀ fee ttl, Antitone fun createdAt => calculatePriorityScore now fee ttl createdAt) ∧
    (∀ fee createdAt, Antitone fun ttl => calculatePriorityScore now fee ttl createdAt) ∧
    ∀ a b : SlotBundle, a.ScoredAt now → b.ScoredAt now → b.fee < a.fee →
      a.createdAt ≤ b.createdAt → a.ttl ≤ b.ttl →
      compareBundlePriority a b < 0 ∧
        ∀ bundles, ¬ [b, a].Sublist (sortByPriority bundles) := by
  refine ⟨?_, ?_, ?_, ?_⟩
  · intro ttl createdAt fee fee' hfee
    exact calculatePriorityScore_lt hfee (le_refl _) (le_refl _)
  · intro fee ttl createdAt createdAt' hcreated
    exact calculatePriorityScore_le hcreated (le_refl _)
  · intro fee createdAt ttl ttl' httl
    exact calculatePriorityScore_le (le_refl _) httl
  · intro a b ha hb hfee hcreated httl
    have hlt : compareBundlePriority a b < 0 := by
      refine sub_neg.mpr ?_
      rw [ha, hb]
      exact calculatePriorityScore_lt hfee hcreated httl
    exact ⟨hlt, sortByPriority_before hlt⟩

/-- A bundle of some deposits with its score at a moment. -/
def Small.scored (weight : Nat) (now : Time) : SlotBundle :=
  { Small.slotBundle "deposits" weight 0 "GPP" with
    priorityScore := calculatePriorityScore now (10 * weight) 1000 0 }

/-- Twice the fee, at the same age and with the same TTL. -/
theorem priority_prefers_small : compareBundlePriority (Small.scored 2 500) (Small.scored 1 500) < 0 :=
  ((priority_prefers 500).2.2.2 (Small.scored 2 500) (Small.scored 1 500) rfl rfl (by decide)
    (by decide) (by decide)).1

end ProviderPlatform
