import ProviderPlatform.Frame

/-! # Terminal statuses

The bulk and the gated updates leave a terminal row alone. The update by id
does not look at the status, so it keeps a terminal row exactly when it
writes the status the row has, or is the reset of a resubmission. -/
namespace ProviderPlatform
open Async Store

/-! ## Commands on a terminal row -/

/-- Every update that names statuses names the active ones. -/
def Command.Gated : Command → Prop
  | .updateStatusIfActive _ _ activeStatuses => activeStatuses = BundleStatus.active
  | .updateIfStatusIn _ _ activeStatuses => activeStatuses = BundleStatus.active
  | .expireOlderThan _ statuses _ => statuses = BundleStatus.active
  | .expireByIds _ activeStatuses => activeStatuses = BundleStatus.active
  | _ => True

theorem Call.mayWrite.gated {l : Call} {w : Command} (h : l.mayWrite w) : w.Gated := by
  cases w <;> first | exact h | trivial

section Rows
variable {db : Database} {now : Time} {id : BundleId} {row : OperationsBundle}

theorem not_isIn_active (h : row.status ∉ BundleStatus.active) :
    row.isIn BundleStatus.active = false := by
  simp [OperationsBundle.isIn, h]

/-- The bulk expiry picks rows in the statuses it names. -/
theorem isIn_of_mem_staleIds {statuses : List BundleStatus} {t : Time} {n : Nat}
    (hrow : db.operationsBundles.find id = some row) (hmem : row.id ∈ db.staleIds t statuses n) :
    row.isIn statuses = true := by
  obtain ⟨r, hr, hid⟩ := List.mem_map.mp hmem
  have hr := ((List.perm_insertionSort _ _).mem_iff).mp (List.mem_of_mem_take hr)
  obtain ⟨hr, hp⟩ := Table.mem_select.mp hr
  rw [Table.eq_of_key_eq hr (Table.find_mem hrow) hid, Bool.and_eq_true] at hp
  exact hp.1

theorem not_mem_staleIds (hrow : db.operationsBundles.find id = some row)
    (h : row.status ∉ BundleStatus.active) (t : Time) (n : Nat) :
    row.id ∉ db.staleIds t BundleStatus.active n := by
  intro hmem
  have hin := isIn_of_mem_staleIds hrow hmem
  rw [not_isIn_active h] at hin
  cases hin

/-- **Only the update by id writes a terminal row.** -/
theorem Command.keeps_terminal (now : Time) {w : Command} (hw : w.Gated)
    (hrow : db.operationsBundles.find id = some row) (h : row.status ∉ BundleStatus.active)
    (hne : ∀ data, w ≠ .updateBundle id data) :
    (w.run now db).2.operationsBundles.find id = some row := by
  have hset (p : OperationsBundle → Bool) (data) (hp : p row = false) :
      (db.setBundles now p data).2.operationsBundles.find id = some row := by
    rw [Database.setBundles_find, hrow, Option.map_some, hp]
    rfl
  cases w with
  | createBundle data =>
    simp only [Command.run]
    split
    · rename_i t ht
      rw [Table.find_insert ht]
      obtain ⟨hnone, -⟩ := Table.insert?_eq_some ht
      split
      · rename_i hk
        rw [hk, hrow] at hnone
        cases hnone
      · exact hrow
    · exact hrow
  | updateBundle id' data =>
    refine hset _ _ ?_
    rw [Table.find_key hrow, beq_eq_false_iff_ne]
    rintro rfl
    exact hne data rfl
  | updateStatusIfActive _ _ _ =>
    refine hset _ _ ?_
    rw [show _ = BundleStatus.active from hw, not_isIn_active h, Bool.and_false]
  | updateIfStatusIn _ _ _ =>
    refine hset _ _ ?_
    rw [show _ = BundleStatus.active from hw, not_isIn_active h, Bool.and_false]
  | expireByIds _ _ =>
    refine hset _ _ ?_
    rw [show _ = BundleStatus.active from hw, not_isIn_active h, Bool.and_false]
  | expireOlderThan _ _ _ =>
    refine hset _ _ ?_
    rw [show _ = BundleStatus.active from hw]
    simpa using not_mem_staleIds hrow h _ _
  | createUtxo _ | updateUtxo _ _ | createTransaction _ | createLink _ | recordInteraction _ _ =>
    simp only [Command.run]
    repeat' split
    all_goals exact hrow
  | updateTransaction _ _ => exact hrow

end Rows

/-! ## Runs -/

/-- The status of a bundle's row. -/
def State.statusOf (s : State) (id : BundleId) : Option BundleStatus :=
  (s.db.operationsBundles.find id).map (·.status)

/-- The step serves the reset of a bundle by a resubmission. -/
def Resubmits (ch : ProviderChoice) (c : ProviderPool) (id : BundleId) : Prop :=
  ∃ input data, ch.served c =
    some (.addOperationsBundle input, .command (.updateBundle id data)) ∧
    data.status = some .pending

/-- A COMPLETED row keeps its status; an EXPIRED or FAILED one keeps it or is
reset to PENDING by a resubmission. -/
def KeepsTerminal (c : ProviderPool) (ch : ProviderChoice) (c' : ProviderPool) : Prop :=
  ∀ id, (c.state.statusOf id = some .completed → c'.state.statusOf id = some .completed) ∧
    ∀ status, status = .expired ∨ status = .failed → c.state.statusOf id = some status →
      c'.state.statusOf id = some status ∨
        c'.state.statusOf id = some .pending ∧ Resubmits ch c id

/-- An update by id that is served finds its row PENDING or PROCESSING, or in
the status it writes, or resets an EXPIRED or FAILED one to PENDING. -/
def FindsActive (c : ProviderPool) (ch : ProviderChoice) : Prop :=
  ∀ l id data, ch.served c = some (l, .command (.updateBundle id data)) →
    ∀ status, c.state.statusOf id = some status →
      status ∈ BundleStatus.active ∨ data.status = some status ∨
        (status = .expired ∨ status = .failed) ∧ data.status = some .pending

section Runs
variable {cfg : Config} {fuel : Nat} {allowed : State → Call → Bool}
variable {c c' : ProviderPool} {ch : ProviderChoice}

theorem statusOf_of_agrees {s s' : State} (h : s'.db.Agrees s.db) (id : BundleId) :
    s'.statusOf id = s.statusOf id := by
  simp only [State.statusOf, h.bundles]

theorem statusOf_eq_some {s : State} {id : BundleId} {status : BundleStatus}
    (h : s.statusOf id = some status) :
    ∃ row, s.db.operationsBundles.find id = some row ∧ row.status = status :=
  Option.map_eq_some_iff.mp h

/-- In a step that serves no update of the row by id, a terminal status stays. -/
theorem step_statusOf {id : BundleId} {status : BundleStatus}
    (huse : Machine.AllUse Call.mayRun Call.mayAwait c)
    (hs : (process cfg fuel allowed).step ch c = some c')
    (hst : c.state.statusOf id = some status) (hterm : status ∉ BundleStatus.active)
    (hne : ∀ l data, ch.served c ≠ some (l, .command (.updateBundle id data))) :
    c'.state.statusOf id = some status := by
  obtain ⟨row, hrow, rfl⟩ := statusOf_eq_some hst
  rcases step_agrees hs with ⟨l, w, hserved, hdb⟩ | ⟨-, hagree⟩
  · have hw : l.mayWrite w := huse.served hserved
    have hkeep := Command.keeps_terminal c.state.clock hw.gated hrow hterm
      fun data he => hne l data (he ▸ hserved)
    rw [State.statusOf, hdb, hkeep, Option.map_some]
  · rw [statusOf_of_agrees hagree, hst]

/-- A served update of the row by id writes the status it names. -/
theorem step_statusOf_updateBundle {id : BundleId} {status : BundleStatus} {l : Call}
    {data : OperationsBundlePatch} (hs : (process cfg fuel allowed).step ch c = some c')
    (hserved : ch.served c = some (l, .command (.updateBundle id data)))
    (hst : c.state.statusOf id = some status) :
    c'.state.statusOf id = some (data.status.getD status) := by
  obtain ⟨row, hrow, rfl⟩ := statusOf_eq_some hst
  rcases step_agrees hs with ⟨l', w, hserved', hdb⟩ | ⟨hnone, -⟩
  · rw [hserved] at hserved'
    cases hserved'
    rw [State.statusOf, hdb, Command.updateBundle_find, hrow]
    rfl
  · exact absurd hserved (hnone _ _)

/-- Only admission resets a row to PENDING. -/
theorem mayWrite_pending {l : Call} {id : BundleId} {data : OperationsBundlePatch}
    (h : l.mayWrite (.updateBundle id data)) (hd : data.status = some .pending) :
    ∃ input, l = .addOperationsBundle input := by
  rcases h with h | ⟨h, -⟩ | ⟨-, h⟩ | ⟨-, h⟩
  · rw [hd] at h; cases h
  · exact h
  · rw [hd] at h; cases h
  · rw [hd] at h; cases h

/-- Every update by id names a status. -/
theorem mayWrite_status {l : Call} {id : BundleId} {data : OperationsBundlePatch}
    (h : l.mayWrite (.updateBundle id data)) : ∃ status, data.status = some status := by
  rcases h with h | ⟨-, h⟩ | ⟨-, h⟩ | ⟨-, h⟩ <;> exact ⟨_, h⟩

theorem FindsActive.keepsTerminal (huse : Machine.AllUse Call.mayRun Call.mayAwait c)
    (hs : (process cfg fuel allowed).step ch c = some c') (hg : FindsActive c ch) :
    KeepsTerminal c ch c' := by
  have key (id : BundleId) (status : BundleStatus) (hst : c.state.statusOf id = some status)
      (hterm : status ∉ BundleStatus.active) : c'.state.statusOf id = some status ∨
        (status = .expired ∨ status = .failed) ∧ c'.state.statusOf id = some .pending ∧
          Resubmits ch c id := by
    by_cases hne : ∃ l data, ch.served c = some (l, .command (.updateBundle id data))
    · obtain ⟨l, data, hserved⟩ := hne
      have hnew := step_statusOf_updateBundle hs hserved hst
      rcases hg l id data hserved status hst with hact | hsame | ⟨hreset, hpend⟩
      · exact absurd hact hterm
      · rw [hsame] at hnew
        exact .inl hnew
      · rw [hpend] at hnew
        have hw : l.mayWrite (.updateBundle id data) := huse.served hserved
        obtain ⟨input, rfl⟩ := mayWrite_pending hw hpend
        exact .inr ⟨hreset, hnew, input, data, hserved, hpend⟩
    · push Not at hne
      exact .inl (step_statusOf huse hs hst hterm hne)
  intro id
  refine ⟨fun hst => ?_, fun status hterm hst => ?_⟩
  · rcases key id _ hst (by decide) with h | ⟨h, -⟩
    · exact h
    · rcases h with h | h <;> cases h
  · have hnot : status ∉ BundleStatus.active := by rcases hterm with rfl | rfl <;> decide
    rcases key id status hst hnot with h | ⟨-, h⟩
    · exact .inl h
    · exact .inr h

theorem KeepsTerminal.findsActive (huse : Machine.AllUse Call.mayRun Call.mayAwait c)
    (hs : (process cfg fuel allowed).step ch c = some c') (h : KeepsTerminal c ch c') :
    FindsActive c ch := by
  intro l id data hserved status hst
  have hw : l.mayWrite (.updateBundle id data) := huse.served hserved
  obtain ⟨status', hd⟩ := mayWrite_status hw
  have hnew := step_statusOf_updateBundle hs hserved hst
  rw [hd, Option.getD_some] at hnew
  have hterm (hor : status = .expired ∨ status = .failed) :
      data.status = some status ∨ data.status = some .pending := by
    rcases (h id).2 status hor hst with h | ⟨h, -⟩
    · rw [hnew] at h; exact .inl (hd.trans h)
    · rw [hnew] at h; exact .inr (hd.trans h)
  cases status with
  | pending => exact .inl (by decide)
  | processing => exact .inl (by decide)
  | completed =>
    have := (h id).1 hst
    rw [hnew] at this
    exact .inr (.inl (hd.trans this))
  | expired => exact .inr ((hterm (.inl rfl)).imp_right fun h => ⟨.inl rfl, h⟩)
  | failed => exact .inr ((hterm (.inr rfl)).imp_right fun h => ⟨.inr rfl, h⟩)

/-- **Terminal statuses along runs.** In every run, whatever calls a process
may make, a step keeps the terminal rows exactly when an update by id that it
serves finds its row active, in the status it writes, or to be reset; and when
every step does, COMPLETED stays to the end of the run. -/
theorem terminal_statuses_absorbing (s : State)
    (h : (process cfg fuel allowed).Run Machine.Free ((process cfg fuel allowed).init s) c) :
    (∀ ch c', (process cfg fuel allowed).step ch c = some c' →
      (KeepsTerminal c ch c' ↔ FindsActive c ch)) ∧
    ∀ c', (process cfg fuel allowed).Run FindsActive c c' →
      ∀ id, c.state.statusOf id = some .completed → c'.state.statusOf id = some .completed := by
  have hprog := fun l => Call.program_keeps cfg fuel l
  have huse := h.allUse hprog (Machine.AllUse.init hprog s)
  refine ⟨fun ch c' hs => ⟨fun hk => hk.findsActive huse hs, fun hg => hg.keepsTerminal huse hs⟩,
    fun c' hr id hst => ?_⟩
  have hinv := hr.invariant
    (P := fun c => Machine.AllUse Call.mayRun Call.mayAwait c ∧
      c.state.statusOf id = some .completed)
    (fun c₁ ch c₂ hc hg hs => ⟨Machine.AllUse.step (process cfg fuel allowed) hprog hc.1 hs,
      ((FindsActive.keepsTerminal hc.1 hs hg) id).1 hc.2⟩) ⟨huse, hst⟩
  exact hinv.2

end Runs

namespace Small

/-- Two verifier cycles read the transaction as UNVERIFIED. The first settles
it as a success. The call of the second to the network fails once the
transaction is past its timeout, and it is about to fail the bundle. -/
def overtaken : List ProviderChoice :=
  submitted ++ [.start .verifyTransactions, .start .verifyTransactions] ++ serves 4 2 ++
    serves 3 6 ++ [.drift (.elapse 6000), .resume 4, .reject 4 (.timeout "getTransaction")] ++
    serves 4 2 ++ [.resume 4]

end Small

/-- The slow cycle turns a COMPLETED bundle into a FAILED one. -/
theorem terminal_statuses_not_absorbing :
    ¬ ∀ (cfg : Config) (fuel : Nat) (s : State) (c c' : ProviderPool) (ch : ProviderChoice),
      Fresh cfg s → (provider cfg fuel).Run Machine.Free ((provider cfg fuel).init s) c →
      (provider cfg fuel).step ch c = some c' → KeepsTerminal c ch c' := by
  intro h
  obtain ⟨c, c', hr, hs, hp⟩ := Machine.exists_step_of_replay
    (M := provider Small.config 1) (G := Machine.Free)
    (c := (provider Small.config 1).init Small.state)
    Small.overtaken (.serve 4)
    (fun s s' => s.statusOf "deposit 10" == some .completed &&
      s'.statusOf "deposit 10" == some .failed) (by decide +kernel)
  simp only [Bool.and_eq_true, beq_iff_eq] at hp
  have := ((h _ _ _ c c' _ Small.fresh hr hs) "deposit 10").1 hp.1
  rw [hp.2] at this
  cases this

/-- The run up to the success of the first cycle. -/
theorem terminal_statuses_absorbing_small :
    ∃ c, c.state.statusOf "deposit 10" = some .completed ∧
      (∀ ch c', (provider Small.config 1).step ch c = some c' →
        (KeepsTerminal c ch c' ↔ FindsActive c ch)) ∧
      ∀ c', (provider Small.config 1).Run FindsActive c c' →
        ∀ id, c.state.statusOf id = some .completed → c'.state.statusOf id = some .completed := by
  obtain ⟨c, hr, hp⟩ := Machine.exists_run_of_replay
    (M := provider Small.config 1) (G := Machine.Free)
    (c := (provider Small.config 1).init Small.state)
    Small.overtaken (fun s => s.statusOf "deposit 10" == some .completed) (by decide +kernel)
  exact ⟨c, by simpa using hp, terminal_statuses_absorbing Small.state hr⟩

end ProviderPlatform
