import Pango.Server.Device

/-!
# Devices do not disturb each other

All devices share one table, one scan over all slots and one mutex.  Still, what
a device can observe of the server — the rows filed under its address, the slots
of its connections, every reply it is sent — depends on its own connections
only.

This is not said of one step but by comparing two runs, the one that takes place and the
one in which the others have never come.  The steps of the other connections are taken out
and everything else is kept; a backup pass concerns every device and stays, but writes for
fewer slots.

* `Agree` — two servers look the same to a device.
* `agree_backedUp` — a backup pass, on a server with other devices and on one without.
* `isolation` — **noninterference**: take the steps of all other connections out
  of a run, keep the rest with the same clock readings, and the device sees the
  same.
-/

namespace Pango.Server

variable {D : Type*} [CDouble D] {cfg : Config D} {macOf : ℕ → Buf UInt8 6} {m : Buf UInt8 6}

/-- The steps a device can know of: those of its own connections, and the backup
passes. -/
def concerns (macOf : ℕ → Buf UInt8 6) (m : Buf UInt8 6) : Label → Bool
  | .accept i _ => decide (macOf i = m)
  | .client i _ => decide (macOf i = m)
  | .backup .. => true

/-- Two servers look the same to the device `m`. -/
structure Agree (macOf : ℕ → Buf UInt8 6) (m : Buf UInt8 6) (s s' : State D) : Prop where
  /-- The rows of the device. -/
  rows : selectMac (macKey m) s.yourTable = selectMac (macKey m) s'.yourTable
  /-- The slots of its connections. -/
  client : ∀ i, macOf i = m → s.client i = s'.client i
  /-- Where its connections stand. -/
  thread : ∀ i, macOf i = m → s.thread i = s'.thread i
  /-- Everything its connections did, the replies among them. -/
  events : eventsOf (macOf · = m) s.trace = eventsOf (macOf · = m) s'.trace

/-- The other devices have never been there. -/
def Alone (macOf : ℕ → Buf UInt8 6) (m : Buf UInt8 6) (s : State D) : Prop :=
  ∀ i, macOf i ≠ m → s.thread i = none ∧ s.client i = .zero

/-! ## The three kinds of step -/

section Step

variable {s s' : State D} {i : ℕ}

omit [CDouble D] in
theorem agree_accepted (hR : Agree macOf m s s') (fd : Int) :
    Agree macOf m (s.accepted i fd) (s'.accepted i fd) := by
  refine ⟨hR.rows, fun j hj => ?_, fun j hj => ?_, hR.events⟩ <;> by_cases hji : j = i
  · subst hji
    rw [accepted_client_self, accepted_client_self, hR.client j hj]
  · rw [accepted_client_of_ne s fd hji, accepted_client_of_ne s' fd hji, hR.client j hj]
  · subst hji
    rw [accepted_thread_self, accepted_thread_self]
  · rw [accepted_thread_of_ne s fd hji, accepted_thread_of_ne s' fd hji, hR.thread j hj]

omit [CDouble D] in
theorem agree_turn (hR : Agree macOf m s s') (hi : macOf i = m) {r r' : Turn D}
    (hclient : r'.client = r.client) (hthread : r'.thread = r.thread)
    (hevents : r'.events = r.events)
    (hrows : selectMac (macKey m) r.yourTable = selectMac (macKey m) r'.yourTable) :
    Agree macOf m (s.turn i r) (s'.turn i r') := by
  refine ⟨hrows, fun j hj => ?_, fun j hj => ?_, ?_⟩
  · by_cases hji : j = i
    · subst hji
      rw [turn_client_self, turn_client_self, hclient]
    · rw [turn_client_of_ne s r hji, turn_client_of_ne s' r' hji, hR.client j hj]
  · by_cases hji : j = i
    · subst hji
      rw [turn_thread_self, turn_thread_self, hthread]
    · rw [turn_thread_of_ne s r hji, turn_thread_of_ne s' r' hji, hR.thread j hj]
  · rw [eventsOf_turn (macOf · = m) s hi, eventsOf_turn (macOf · = m) s' hi, hR.events, hevents]

/-- A backup pass acts on the rows of the device through its own slots only. -/
theorem agree_backedUp (hs : AllFiled macOf s) (ha : Alone macOf m s') (hR : Agree macOf m s s')
    (n : ℕ) (clock : ℕ → Int) (sqlFails : List ℕ) :
    Agree macOf m (s.backedUp n clock sqlFails) (s'.backedUp n clock sqlFails) := by
  refine ⟨select_updateClients_congr clock sqlFails hR.rows fun i hact => ?_, hR.client,
    hR.thread, ?_⟩
  · by_cases hi : macOf i = m
    · exact hR.client i hi
    · rcases hact with ⟨-, hmac⟩ | ⟨hcon, -⟩
      · exact absurd hmac (mac_ne_of_filed hs hi)
      · rw [(ha i hi).2] at hcon
        cases hcon
  · rw [eventsOf_backedUp, eventsOf_backedUp, hR.events]

theorem agree_turn_of_ne (hs : AllFiled macOf s) (hR : Agree macOf m s s') (hi : macOf i ≠ m)
    {env : Env} {t : Thread} {r : Turn D}
    (hr : pangoClientStep cfg env (s.client i) t s.yourTable = some r) :
    Agree macOf m (s.turn i r) s' := by
  have hji : ∀ j, macOf j = m → j ≠ i := by
    rintro j hj rfl
    exact hi hj
  refine ⟨(select_turn_of_ne hs hi hr).trans hR.rows, fun j hj => ?_, fun j hj => ?_, ?_⟩
  · rw [turn_client_of_ne s r (hji j hj), hR.client j hj]
  · rw [turn_thread_of_ne s r (hji j hj), hR.thread j hj]
  · rw [eventsOf_turn_of_not (macOf · = m) s hi, hR.events]

/-- A step of the device's own connection is taken in the same way. -/
theorem agree_step_self (hs : AllFiled macOf s) (hR : Agree macOf m s s') (hi : macOf i = m)
    {env : Env} {t : Thread} {r : Turn D} (ht : s.thread i = some t)
    (hr : pangoClientStep cfg env (s.client i) t s.yourTable = some r) :
    ∃ r', pangoClientStep cfg env (s'.client i) t s'.yourTable = some r' ∧
      Agree macOf m (s.turn i r) (s'.turn i r') := by
  have hread : t.pc = .exist ∨ t.pc = .retriev →
      selectMac (s.client i).mac s.yourTable = selectMac (s.client i).mac s'.yourTable := by
    intro hpc
    rcases hs.1 i t ht with hkey | ⟨-, hne, hnr⟩
    · rw [hkey, hi]
      exact hR.rows
    · exact (hpc.elim hne hnr).elim
  obtain ⟨r', hr', hclient, hthread, hevents, hrows⟩ := pangoClientStep_congr hread hr
  rw [hR.client i hi] at hr'
  exact ⟨r', hr', agree_turn hR hi hclient hthread hevents (hrows _ hR.rows)⟩

end Step

/-! ## Runs -/

/-- **Noninterference.**  Take any run whose connections each carry one MAC
address, and any device.  The same run without the steps of the connections of
all other devices is a run, and it ends in a server that looks the same to the
device.  (Every prefix of a run is a run, so it looks the same all along.) -/
theorem isolation {rows : List Row} {ls : List Label} {s : State D}
    (h : (server cfg).Exec (OneMac macOf) (.start rows) ls s) (m : Buf UInt8 6) :
    ∃ s', (server cfg).Exec (fun _ _ => True) (.start rows) (ls.filter (concerns macOf m)) s' ∧
      Agree macOf m s s' := by
  have hfiled := (filed_of_exec (fun _ _ => id) h).1
  have hpurge : ∃ s', (server cfg).Exec (fun _ _ => True) (.start rows)
      (ls.filter (concerns macOf m)) s' ∧ Agree macOf m s s' ∧ Alone macOf m s' := by
    refine hfiled.purge (R := fun s s' => Agree macOf m s s' ∧ Alone macOf m s') (concerns macOf m)
      ⟨⟨rfl, fun _ _ => rfl, fun _ _ => rfl, rfl⟩, fun _ _ => ⟨rfl, rfl⟩⟩ ?_ ?_
    · rintro t t' l u ⟨-, hs⟩ ⟨hR, ha⟩ hrel hstep
      have hother : ∀ i, macOf i = m → ∀ j, macOf j ≠ m → j ≠ i := by
        rintro i hi j hj rfl
        exact hj hi
      rcases step_cases hstep with ⟨i, fd, rfl, hi, rfl⟩ | ⟨i, env, th, r, rfl, hth, hr, rfl⟩
        | ⟨c, f, rfl, rfl⟩
      · have hm : macOf i = m := of_decide_eq_true hrel
        refine ⟨t'.accepted i fd, if_pos (hR.thread i hm ▸ hi), agree_accepted hR fd,
          fun j hj => ?_⟩
        rw [accepted_thread_of_ne t' fd (hother i hm j hj),
          accepted_client_of_ne t' fd (hother i hm j hj)]
        exact ha j hj
      · have hm : macOf i = m := of_decide_eq_true hrel
        obtain ⟨r', hr', hR'⟩ := agree_step_self hs hR hm hth hr
        refine ⟨t'.turn i r', ?_, hR', fun j hj => ?_⟩
        · simp [server, ← hR.thread i hm, hth, hr']
        · rw [turn_thread_of_ne t' r' (hother i hm j hj),
            turn_client_of_ne t' r' (hother i hm j hj)]
          exact ha j hj
      · exact ⟨_, rfl, agree_backedUp hs ha hR _ c f, ha⟩
    · rintro t t' l u ⟨-, hs⟩ ⟨hR, ha⟩ hirr hstep
      refine ⟨?_, ha⟩
      rcases step_cases hstep with ⟨i, fd, rfl, hi, rfl⟩ | ⟨i, env, th, r, rfl, hth, hr, rfl⟩
        | ⟨c, f, rfl, rfl⟩
      · have hm : macOf i ≠ m := of_decide_eq_false hirr
        have hji : ∀ j, macOf j = m → j ≠ i := by
          rintro j hj rfl
          exact hm hj
        refine ⟨hR.rows, fun j hj => ?_, fun j hj => ?_, hR.events⟩
        · rw [accepted_client_of_ne t fd (hji j hj), hR.client j hj]
        · rw [accepted_thread_of_ne t fd (hji j hj), hR.thread j hj]
      · exact agree_turn_of_ne hs hR (of_decide_eq_false hirr) hr
      · cases hirr
  obtain ⟨s', hexec, hR, -⟩ := hpurge
  exact ⟨s', hexec, hR⟩

/-- A second device, in Herzliya. -/
def otherMac : Buf UInt8 6 := ⟨[2, 9, 4, 16, 0, 1], rfl⟩

/-- Two devices park, one on each connection; the first sees the server it would
see without the second. -/
theorem isolation_of_two : ∃ s s' : State Int, s.yourTable.length = 2 ∧
    Agree (fun i => if i = 0 then sampleMac else otherMac) sampleMac s s' := by
  have hrun : ((server samplePrices).runIf (OneMac fun i => if i = 0 then sampleMac else otherMac)
      (.start []) (sampleStart 0 100 ++ [.accept 1 5,
        .client 1 {
          recv := recvFrame (Stm.fillSendBuff ⟨startApp, otherMac, 100, 90⟩ (.fill 10 0)) },
        .client 1 {}, .client 1 {}, .client 1 { now := 110 }, .client 1 {}])).map
        (fun s => s.yourTable.length) = some 2 := by decide +kernel
  obtain ⟨s, hs, hlen⟩ := Option.map_eq_some_iff.mp hrun
  obtain ⟨s', -, hR⟩ := isolation (Lts.exec_of_runIf _ hs) sampleMac
  exact ⟨s, s', hlen, hR⟩

end Pango.Server
