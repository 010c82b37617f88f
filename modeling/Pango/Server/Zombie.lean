import Pango.Server.Device

/-!
# A connection that is gone, and its slot

The backup thread keeps charging a slot as long as it is marked connected.  When
a connection thread ends, is the mark gone?

Each way out of the receive loop clears the mark at a place of its own, if it clears it
at all, and a slot is never used again; so a mark that is left stays, and the time used of
the device grows for ever, whether it parks or not.

* `zombie_after_bad_frame` — not in general: a frame that fails the CRC check
  ends a started connection with the mark still set.
* `LeavesConnected` — the three kinds of step that end the loop with the mark
  set, in terms of the frame, the slot and the failing SQLite calls.
* `connected_pangoClientStep` — without them, the mark is gone at every program point
  behind the loop.
* `not_connected_of_done` — in every run without such a step, the slot of every
  thread that has ended is not connected, and no pass writes for it.
-/

namespace Pango.Server

variable {D : Type*} [CDouble D] {cfg : Config D}

/-- The program points after the receive loop. -/
def Pc.afterLoop : Pc → Bool
  | .pay | .remove | .update | .sendErrMsg | .closeFd | .done => true
  | _ => false

/-- A step that leaves the receive loop with the slot marked connected: a frame
that fails its check on a connected slot, a resumption that fails on one or
after it has marked the slot, or a registration that fails on a slot already
connected. -/
def LeavesConnected (env : Env) (client : PangoData D) (t : Thread) : Prop :=
  (t.pc = .check ∧ client.connected = true ∧ ¬ CrcValid t.clientDataBuff)
  ∨ (t.pc = .retriev ∧ ((env.fails 0 = true ∧ client.connected = true)
      ∨ (env.fails 0 = false ∧ (env.fails 2 = true ∨ env.fails 4 = true))))
  ∨ (t.pc = .process ∧ client.connected = true ∧ (env.fails 0 = true ∨ env.fails 2 = true))

/-- The condition on a step of the server. -/
def NotLeftConnected (s : State D) : Label → Prop
  | .client i env => ∀ t ∈ s.thread i, ¬ LeavesConnected env (s.client i) t
  | _ => True

instance (env : Env) (client : PangoData D) (t : Thread) :
    Decidable (LeavesConnected env client t) := inferInstanceAs (Decidable (_ ∨ _ ∨ _))

instance (s : State D) : (l : Label) → Decidable (NotLeftConnected s l)
  | .client i _ => inferInstanceAs (Decidable (∀ t ∈ s.thread i, _))
  | .accept .. | .backup .. => isTrue trivial

omit [CDouble D] in
theorem afterLoop_switchStatus (status : UInt8) : (switchStatus status).afterLoop = false := by
  unfold switchStatus
  split_ifs <;> rfl

/-- If no step leaves the loop with the mark set, the mark is gone at every program point
after the loop. -/
theorem connected_pangoClientStep {env : Env} {client : PangoData D} {t : Thread}
    {rows : List Row} {r : Turn D} (hC : ¬ LeavesConnected env client t)
    (hJ : t.pc.afterLoop = true → client.connected = false)
    (h : pangoClientStep cfg env client t rows = some r) :
    r.thread.pc.afterLoop = true → r.client.connected = false := by
  cases hpc : t.pc with
  | recv =>
    simp only [pangoClientStep, hpc] at h
    split at h <;> cases h <;> intro hafter <;> cases hafter
  | check =>
    rcases check_cases hpc h with ⟨hv, rfl⟩ | ⟨-, -, rfl⟩ | ⟨-, -, m, -, rfl⟩
    · intro _
      by_contra hcon
      exact hC (.inl ⟨hpc, by simpa using hcon, hv⟩)
    · intro hafter
      cases hafter
    · intro hafter
      rw [afterLoop_switchStatus] at hafter
      cases hafter
  | exist =>
    simp only [pangoClientStep, hpc] at h
    cases h
    intro hafter
    unfold afterLookup at hafter
    split_ifs at hafter <;> cases hafter
  | retriev =>
    obtain ⟨_, _, _, hc⟩ := retrievClientData_client cfg env client t.status rows
    simp only [pangoClientStep, hpc] at h
    split at h <;> cases h
    · intro hafter
      cases hafter
    · rename_i hq
      rw [not_not, retrievClientData_eq_quit_iff] at hq
      intro _
      rw [hc]
      -- the failing preparation cannot be one of those behind `connected = TRUE`
      cases h0 : env.fails 0 with
      | true =>
        by_contra hcon
        exact hC (.inr (.inl ⟨hpc, .inl ⟨h0, by simpa using hcon⟩⟩))
      | false =>
        exact absurd (.inr (.inl ⟨hpc, .inr ⟨h0, by simpa [h0] using hq⟩⟩)) hC
  | process =>
    have hq : (processClientData cfg env client t.status rows).returnValue = .quit ↔ _ :=
      processClientData_eq_quit_iff cfg env client t.status rows
    obtain ⟨_, _, _, _, _, heq⟩ := processClientData_eq cfg env client t.status
    rw [heq] at hq
    simp only [pangoClientStep, hpc, heq] at h
    cases h
    dsimp only
    split_ifs with hret
    · intro hafter
      cases hafter
    · intro _
      by_contra hcon
      exact hC (.inr (.inr ⟨hpc, by simpa using hcon, hq.mp (not_not.mp hret)⟩))
  | lost | close =>
    simp only [pangoClientStep, hpc] at h
    cases h
    exact fun _ => rfl
  | init | sendLocation | setConnected =>
    simp only [pangoClientStep, hpc] at h
    cases h
    intro hafter
    cases hafter
  | pay | remove | update | sendErrMsg | closeFd =>
    simp only [pangoClientStep, hpc] at h
    cases h
    exact fun _ => hJ (by rw [hpc]; rfl)
  | done => simp [pangoClientStep, hpc] at h

/-- **No zombie client.**  In every run without a step that leaves the loop
connected, a thread that has ended has a slot that is not connected, and a
backup pass writes for no such slot. -/
theorem not_connected_of_done {rows : List Row} {ls : List Label} {s : State D}
    (h : (server cfg).Exec NotLeftConnected (.start rows) ls s) {i : ℕ} {t : Thread}
    (ht : s.thread i = some t) (hdone : t.pc = .done) :
    (s.client i).connected = false ∧ i ∉ backupSlots cfg.updateThreadMaxNumClients s.client := by
  have hJ := (local_invariant (J := fun _ c t _ => t.pc.afterLoop = true → c.connected = false) h
    (fun _ _ hafter => nomatch hafter)
    fun s i env t r hC ht hJ hr => connected_pangoClientStep (hC t ht) hJ hr).1 i t ht
  have hcon := hJ (by rw [hdone]; rfl)
  refine ⟨hcon, fun hmem => ?_⟩
  have := (List.mem_filter.mp hmem).2
  rw [hcon] at this
  cases this

/-- The rule at work on a whole parking. -/
theorem not_connected_after_parking : ∃ s : State Int, ∃ t, s.thread 0 = some t ∧ t.pc = .done ∧
    (s.client 0).connected = false ∧ 0 ∉ backupSlots 10 s.client := by
  have hrun : ((server samplePrices).runIf NotLeftConnected (.start [])
      (sampleStart 0 100 ++ sampleClose 0 160)).map (fun s => (s.thread 0).map Thread.pc)
      = some (some .done) := by decide +kernel
  obtain ⟨s, hs, hpc⟩ := Option.map_eq_some_iff.mp hrun
  obtain ⟨t, ht, hdone⟩ := Option.map_eq_some_iff.mp hpc
  exact ⟨s, t, ht, hdone, not_connected_of_done (Lts.exec_of_runIf _ hs) ht hdone⟩

/-! ## A run with a zombie -/

/-- A device starts parking, then a frame of zeros arrives, which fails its
check. -/
def zombieRun : List Label :=
  sampleStart 0 100 ++
    [.client 0 { recv := recvFrame (.fill 10 0) }, .client 0 {}, .client 0 {}, .client 0 {}]

/-- **A zombie.**  It is not true that the slot of every thread that has ended is
not connected. -/
theorem zombie_after_bad_frame :
    ¬ ∀ (rows : List Row) (ls : List Label) (s : State Int),
      (server samplePrices).Exec (fun _ _ => True) (.start rows) ls s →
      ∀ i t, s.thread i = some t → t.pc = .done → (s.client i).connected = false := by
  intro hclaim
  have hrun : ((server samplePrices).run (.start []) zombieRun).map (fun s =>
      ((s.thread 0).map Thread.pc, (s.client 0).connected)) = some (some .done, true) := by
    decide +kernel
  obtain ⟨s, hs, hparts⟩ := Option.map_eq_some_iff.mp hrun
  obtain ⟨hpc, hcon⟩ := Prod.mk.inj hparts
  obtain ⟨t, ht, hdone⟩ := Option.map_eq_some_iff.mp hpc
  have := hclaim [] zombieRun s (Lts.exec_of_run _ hs) 0 t ht hdone
  rw [hcon] at this
  cases this

end Pango.Server
