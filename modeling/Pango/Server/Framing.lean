import Pango.Server.Device

/-!
# Frames over a byte stream

A connection is a stream of bytes, and `recv` returns as many of the next bytes
as it likes.  The thread calls it once for each frame and hands the buffer over,
whatever has arrived; the buffer is not cleared, so the end of a short frame is that of
the frame before it.

If a frame arrives in two pieces, the check is given the first piece over the old bytes,
and if it fails, as it most often does, the client is taken for broken.

* `Framed` — the invariant: one frame is handed over for each `recv`, and if
  every `recv` filled the buffer, the frames are what was received.
* `framing_iff` — the frames handed over are the frames sent exactly if every
  `recv` returned a whole one.
* `torn_frame` — a frame that arrives in two pieces is handed over torn.
-/

namespace Pango.Server

variable {D : Type*}

/-! ## What was received and what was handed over -/

/-- The bytes an action takes from the socket. -/
def Event.received : Event D → Option (List UInt8)
  | .recv bytes => some bytes
  | _ => none

/-- The frame an action hands to `CRC_8_check` and `store_client_data_in_struct`. -/
def Event.handed : Event D → Option Frame
  | .check f => some f
  | _ => none

/-- What `recv` returned on connection `i`, call by call. -/
def received (i : ℕ) (s : State D) : List (List UInt8) :=
  (own i s).filterMap Event.received

/-- The frames connection `i` handed over. -/
def handed (i : ℕ) (s : State D) : List Frame :=
  (own i s).filterMap Event.handed

/-- No `recv` of connection `i` fails. -/
def NoRecvError (i : ℕ) : Label → Prop
  | .client j env => j = i → env.recv ≠ .error
  | _ => True

instance (i : ℕ) : (l : Label) → Decidable (NoRecvError i l)
  | .client j env => inferInstanceAs (Decidable (j = i → env.recv ≠ .error))
  | .accept .. | .backup .. => isTrue trivial

/-- The frame that has been received but not handed over. -/
def Thread.pending (t : Thread) : List Frame := if t.pc = .check then [t.clientDataBuff] else []

/-- Bytes and frames are in step. -/
structure Framed (bytes : List (List UInt8)) (frames : List Frame) : Prop where
  /-- No `recv` returns more than a frame. -/
  fits : ∀ c ∈ bytes, c.length ≤ 10
  /-- There is one frame for each `recv`. -/
  count : frames.length = bytes.length
  /-- If every `recv` returned a whole frame, the frames are what it returned. -/
  whole : (∀ c ∈ bytes, c.length = 10) → frames.map Buf.toList = bytes

/-! ## One step -/

section Step

variable [CDouble D] {cfg : Config D} {env : Env} {client : PangoData D} {t : Thread}
  {rows : List Row} {r : Turn D}

omit [CDouble D] in
/-- The two critical sections of the `START_APP` case take nothing from the
socket and hand nothing over. -/
theorem start_events (cfg : Config D) (env : Env) (client : PangoData D) (status : UInt8)
    (rows : List Row) :
    (∀ e ∈ (retrievClientData cfg env client status rows).events,
        e.received = none ∧ e.handed = none)
    ∧ ∀ e ∈ (processClientData cfg env client status rows).events,
        e.received = none ∧ e.handed = none := by
  unfold retrievClientData processClientData
  dsimp only
  refine ⟨?_, ?_⟩ <;> split_ifs <;> simp [Event.received, Event.handed]

/-- Only `recv` brings a thread before the check. -/
theorem check_pangoClientStep (h : pangoClientStep cfg env client t rows = some r)
    (hpc : t.pc ≠ .recv) : r.thread.pc ≠ .check := by
  have hnext := pc_pangoClientStep h
  intro hr
  cases hpc' : t.pc with
  | recv => exact absurd hpc' hpc
  | _ => simp [hr, hpc', Pc.next] at hnext

/-- Bytes are taken by `recv` only, and handed over is the buffer that waits to be. -/
theorem taken_pangoClientStep (h : pangoClientStep cfg env client t rows = some r) :
    (t.pc ≠ .recv → r.events.filterMap Event.received = []) ∧
      r.events.filterMap Event.handed = t.pending := by
  have hstart := start_events cfg env client t.status rows
  cases hpc : t.pc with
  | recv | check =>
    simp only [pangoClientStep, hpc] at h
    split at h <;> cases h <;> simp [Event.received, Event.handed, Thread.pending, hpc]
  | retriev =>
    simp only [pangoClientStep, hpc] at h
    split at h <;> cases h <;>
      simp only [Thread.pending, hpc, reduceCtorEq, if_false, List.filterMap_eq_nil_iff] <;>
      exact ⟨fun _ e he => (hstart.1 e he).1, fun e he => (hstart.1 e he).2⟩
  | process =>
    simp only [pangoClientStep, hpc] at h
    cases h
    simp only [Thread.pending, hpc, reduceCtorEq, if_false, List.filterMap_eq_nil_iff]
    exact ⟨fun _ e he => (hstart.2 e he).1, fun e he => (hstart.2 e he).2⟩
  | lost | exist | init | sendLocation | setConnected | close | pay | remove | update
  | sendErrMsg | closeFd =>
    simp only [pangoClientStep, hpc] at h
    cases h
    simp [Event.received, Event.handed, Thread.pending, hpc, updateClientData, removeClientData]
  | done => simp [pangoClientStep, hpc] at h

theorem framed_pangoClientStep {bytes : List (List UInt8)} {frames : List Frame}
    (herr : env.recv ≠ .error) (hJ : Framed bytes (frames ++ t.pending))
    (h : pangoClientStep cfg env client t rows = some r) :
    Framed (bytes ++ r.events.filterMap Event.received)
      (frames ++ r.events.filterMap Event.handed ++ r.thread.pending) := by
  by_cases hpc : t.pc = .recv
  · have hpend : t.pending = [] := by simp [Thread.pending, hpc]
    rw [hpend, List.append_nil] at hJ
    simp only [pangoClientStep, hpc] at h
    split at h <;> cases h
    · show Framed (bytes ++ []) (frames ++ [] ++ [])
      simpa using hJ
    · rename_i c hc _
      show Framed (bytes ++ [c]) (frames ++ [] ++ [t.clientDataBuff.write 0 c])
      rw [List.append_nil]
      refine ⟨?_, by simp [hJ.count], fun hall => ?_⟩
      · simpa [or_imp, forall_and] using ⟨hJ.fits, hc.2⟩
      · have hc10 : c.length = 10 := hall c (by simp)
        have hbuf : t.clientDataBuff.write 0 c = ⟨c, hc10⟩ := Buf.write_full _ ⟨c, hc10⟩
        rw [hbuf, List.map_append, hJ.whole fun d hd => hall d (List.mem_append_left _ hd)]
        rfl
    · exact absurd ‹_› herr
  · have hpend : r.thread.pending = [] := by simp [Thread.pending, check_pangoClientStep h hpc]
    obtain ⟨hrecv, hhand⟩ := taken_pangoClientStep h
    rw [hrecv hpc, hhand, hpend, List.append_nil, List.append_nil]
    exact hJ

end Step

/-! ## Runs -/

section Run

variable [CDouble D] {cfg : Config D} {rows : List Row} {ls : List Label} {s : State D}

/-- On a connection whose `recv` does not fail, bytes and frames are in step. -/
theorem framed_of_exec {i : ℕ}
    (h : (server cfg).Exec (fun _ l => NoRecvError i l) (.start rows) ls s) :
    Locally (fun j _ t events => j = i → Framed (events.filterMap Event.received)
      (events.filterMap Event.handed ++ t.pending)) s := by
  refine local_invariant h (fun _ _ _ => ⟨by simp, rfl, fun _ => rfl⟩) ?_
  intro s j env t r hC ht hJ hr hji
  rw [List.filterMap_append, List.filterMap_append]
  exact framed_pangoClientStep (hC hji) (hJ hji) hr

/-- The frames handed over are what was received, and they are the first of the
frames sent, so that none of them fails the check. -/
def Faithful (sent : List Frame) (bytes : List (List UInt8)) (frames : List Frame) : Prop :=
  (frames.map Buf.toList).flatten = bytes.flatten ∧ frames <+: sent ∧ ∀ f ∈ frames, CrcValid f

/-- **Framing.**  Let a client send frames that pass the check, and let the bytes
received so far be the first of the bytes sent, and let no `recv` on its connection
fail.  Whenever no frame is waiting to be handed over, the frames handed over are the
ones sent exactly if every `recv` returned a whole frame. -/
theorem framing_iff {i : ℕ}
    (h : (server cfg).Exec (fun _ l => NoRecvError i l) (.start rows) ls s)
    {t : Thread} (ht : s.thread i = some t) (hpc : t.pc ≠ .check) {sent : List Frame}
    (hsent : ∀ f ∈ sent, CrcValid f)
    (hstream : (received i s).flatten <+: (sent.map Buf.toList).flatten) :
    Faithful sent (received i s) (handed i s) ↔ ∀ c ∈ received i s, c.length = 10 := by
  have hJ : Framed (received i s) (handed i s ++ t.pending) :=
    (framed_of_exec h).1 i t ht rfl
  have hpend : t.pending = [] := by simp [Thread.pending, hpc]
  rw [hpend, List.append_nil] at hJ
  constructor
  · rintro ⟨heq, -, -⟩
    -- one frame of ten bytes for each `recv`: a short one leaves bytes too many
    have hsum := congrArg List.length heq
    rw [Buf.length_flatten_toList, hJ.count] at hsum
    exact Buf.length_eq_of_flatten hJ.fits hsum.symm
  · intro hall
    have heq := congrArg List.flatten (hJ.whole hall)
    have hpre : handed i s <+: sent := Buf.prefix_of_flatten_prefix (by decide) (heq ▸ hstream)
    exact ⟨heq, hpre, fun f hf => hsent f (hpre.subset hf)⟩

end Run

/-- The rule at work on a parking, whose two frames arrive whole. -/
theorem framing_of_parking : ∃ s : State Int,
    Faithful [sampleFrame startApp, sampleFrame closeApp] (received 0 s) (handed 0 s) := by
  have hrun : ((server samplePrices).runIf (fun _ l => NoRecvError 0 l) (.start [])
      (sampleStart 0 100 ++ sampleClose 0 160)).map (fun s =>
        ((s.thread 0).map Thread.pc, received 0 s))
      = some (some .done, [(sampleFrame startApp).toList, (sampleFrame closeApp).toList]) := by
    decide +kernel
  obtain ⟨s, hs, hparts⟩ := Option.map_eq_some_iff.mp hrun
  obtain ⟨hpc, hrecv⟩ := Prod.mk.inj hparts
  obtain ⟨t, ht, hdone⟩ := Option.map_eq_some_iff.mp hpc
  refine ⟨s, (framing_iff (Lts.exec_of_runIf _ hs) ht (by rw [hdone]; decide) ?_ ?_).mpr ?_⟩
  · decide +kernel
  · rw [hrecv]
    exact List.prefix_rfl
  · rw [hrecv]
    decide +kernel

/-! ## A torn frame -/

/-- The first four bytes of a frame arrive, and the rest later. -/
def tornRun : List Label :=
  [.accept 0 4,
    .client 0 { recv := .data ((sampleFrame startApp).toList.take 4) (by decide +kernel) },
    .client 0 {}]

/-- **A torn frame.**  It is not true that the frames handed over are always the
frames sent. -/
theorem torn_frame :
    ¬ ∀ (rows : List Row) (ls : List Label) (s : State Int) (i : ℕ) (t : Thread)
      (sent : List Frame),
      (server samplePrices).Exec (fun _ l => NoRecvError i l) (.start rows) ls s →
      s.thread i = some t → t.pc ≠ .check → (∀ f ∈ sent, CrcValid f) →
      (received i s).flatten <+: (sent.map Buf.toList).flatten →
      Faithful sent (received i s) (handed i s) := by
  intro hclaim
  have hrun : ((server samplePrices).runIf (fun _ l => NoRecvError 0 l) (.start []) tornRun).map
      (fun s => ((s.thread 0).map Thread.pc, received 0 s, (handed 0 s).map Buf.toList))
      = some (some .sendErrMsg, [(sampleFrame startApp).toList.take 4],
          [(sampleFrame startApp).toList.take 4 ++ List.replicate 6 0]) := by decide +kernel
  obtain ⟨s, hs, hparts⟩ := Option.map_eq_some_iff.mp hrun
  obtain ⟨hpc, hparts⟩ := Prod.mk.inj hparts
  obtain ⟨hrecv, hhand⟩ := Prod.mk.inj hparts
  obtain ⟨t, ht, hdone⟩ := Option.map_eq_some_iff.mp hpc
  obtain ⟨heq, -, -⟩ := hclaim [] tornRun s 0 t [sampleFrame startApp] (Lts.exec_of_runIf _ hs) ht
    (by rw [hdone]; decide) (by decide +kernel) (by rw [hrecv]; decide +kernel)
  rw [hrecv, hhand] at heq
  exact absurd heq (by decide +kernel)

end Pango.Server
