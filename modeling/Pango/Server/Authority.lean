import Pango.Server.Intake

/-!
# For whom a connection writes

Every frame overwrites the slot's MAC address, before its status byte is looked at; start
time, price and `connected` stay as the `START_APP` frame left them.  The three writers —
the close, the disconnect and the backup pass — take their key from the slot.  A client
that starts a parking and then names another address therefore makes the server write, and
with a close even delete, the row of somebody else.

Nothing authenticates a client, so the question is not whether this can be done on purpose
but which frames do it.

* `acts` — what a step does in the name of a connection.
* `ownRows_iff` — no row but the starter's is updated or deleted, exactly if at every
  write the last frame taken in carries the starter's address, or one without a row.
* `foreign_row_overwritten` — a backup pass that writes over another device's row.
-/

namespace Pango.Server

variable {D : Type*}

/-! ## Writing in the name of a connection -/

/-- The address whose rows an action updates or deletes. -/
def Event.overwrites : Event D → Option (List UInt8)
  | .exec (.update _ mac) true => some mac
  | .exec (.delete mac) true => some mac
  | _ => none

/-- What a step does in the name of connection `i`: its own actions, and those of the backup
thread for its slot. -/
def acts [CDouble D] (cfg : Config D) (i : ℕ) (s : State D) : Label → List (Event D)
  | .accept .. => []
  | .client j env =>
    if j = i then
      ((s.thread i).bind fun t =>
        pangoClientStep cfg env (s.client i) t s.yourTable).elim [] Turn.events
    else []
  | .backup clock sqlFails =>
    if i < cfg.updateThreadMaxNumClients then slotEvents s.client clock sqlFails i else []

/-- No row but those of `key` is updated or deleted in the name of connection `i`. -/
def OwnRows [CDouble D] (cfg : Config D) (i : ℕ) (key : List UInt8) (s : State D) (l : Label) :
    Prop :=
  ∀ mac ∈ (acts cfg i s l).filterMap Event.overwrites, ∀ row ∈ s.yourTable, row.macAdr = mac →
    row.macAdr = key

/-- All frames checked on connection `i` pass; the first is a `START_APP` frame with MAC address
`m`, the others are none, with any address. -/
def StartedAs (i : ℕ) (m : Buf UInt8 6) (s : State D) : Label → Prop
  | .client j _ => j = i → ∀ t ∈ s.thread i, t.pc = .check → CrcValid t.clientDataBuff ∧
      (handed i s = [] → t.clientDataBuff.status = startApp ∧ t.clientDataBuff.mac = m.toList) ∧
      (handed i s ≠ [] → t.clientDataBuff.status ≠ startApp)
  | _ => True

/-- The last frame taken in carries `key`, or an address without a row. -/
def LastIsOwn (i : ℕ) (key : List UInt8) (s : State D) : Prop :=
  lastMac (handed i s) = key ∨ ∀ row ∈ s.yourTable, row.macAdr ≠ lastMac (handed i s)

/-- So it is whenever the thread of connection `i` succeeds in an `UPDATE` or a `DELETE`, or a
backup pass in an `UPDATE` for its connected slot. -/
def OwnAtWrites (cfg : Config D) (i : ℕ) (key : List UInt8) (s : State D) : Label → Prop
  | .accept .. => True
  | .client j env => j = i → ∀ t ∈ s.thread i, (t.pc = .close ∨ t.pc = .update ∨ t.pc = .remove) →
      env.fails 0 = false → LastIsOwn i key s
  | .backup _ sqlFails => i < cfg.updateThreadMaxNumClients → (s.client i).connected = true →
      i ∉ sqlFails → LastIsOwn i key s

section Step

variable [CDouble D] {cfg : Config D} {env : Env} {client : PangoData D} {t : Thread}
  {rows : List Row} {r : Turn D}

/-- A thread overwrites the rows of the slot's address only, and these at three program
points. -/
theorem overwrites_pangoClientStep (h : pangoClientStep cfg env client t rows = some r) :
    r.events.filterMap Event.overwrites
      = if (t.pc = .close ∨ t.pc = .update ∨ t.pc = .remove) ∧ env.fails 0 = false then [client.mac]
        else [] := by
  have hstart :
      (retrievClientData cfg env client t.status rows).events.filterMap Event.overwrites = [] ∧
      (processClientData cfg env client t.status rows).events.filterMap Event.overwrites = [] := by
    unfold retrievClientData processClientData
    dsimp only
    refine ⟨?_, ?_⟩ <;> split_ifs <;> simp [Event.overwrites]
  cases hpc : t.pc with
  | recv | check =>
    simp only [pangoClientStep, hpc] at h
    split at h <;> cases h <;> simp [Event.overwrites]
  | retriev =>
    simp only [pangoClientStep, hpc] at h
    split at h <;> cases h <;> simp [hstart.1]
  | process =>
    simp only [pangoClientStep, hpc] at h
    cases h
    simp [hstart.2]
  | close | update | remove =>
    simp only [pangoClientStep, hpc, updateClientData, removeClientData] at h
    cases h
    by_cases hf : env.fails 0 = true
    · simp [hf, List.filterMap_cons, Event.overwrites]
    · simp [hf, List.filterMap_cons, Event.overwrites]
  | lost | exist | init | sendLocation | setConnected | pay | sendErrMsg | closeFd =>
    simp only [pangoClientStep, hpc] at h
    cases h
    simp [Event.overwrites]
  | done => simp [pangoClientStep, hpc] at h

omit [CDouble D] in
theorem overwrites_slotEvents (client : ℕ → PangoData D) (clock : ℕ → Int) (sqlFails : List ℕ)
    (i : ℕ) :
    (slotEvents client clock sqlFails i).filterMap Event.overwrites
      = if (client i).connected = true ∧ i ∉ sqlFails then [(client i).mac] else [] := by
  unfold slotEvents
  by_cases hc : (client i).connected = true <;> by_cases hf : i ∈ sqlFails <;>
    simp [hc, hf, List.filterMap_cons, Event.overwrites, backupStmt]

/-- **One step** overwrites the starter's rows only, exactly if at every write the last frame taken
in is the starter's. -/
theorem ownRows_iff_ownAtWrites {i : ℕ} {key : List UInt8} {s : State D} {l : Label}
    (hmac : (s.client i).mac = lastMac (handed i s)) :
    OwnRows cfg i key s l ↔ OwnAtWrites cfg i key s l := by
  have hlast :
      (∀ mac ∈ [(s.client i).mac], ∀ row ∈ s.yourTable, row.macAdr = mac → row.macAdr = key) ↔
      LastIsOwn i key s := by
    rw [LastIsOwn, hmac]
    simp only [List.mem_singleton, forall_eq]
    constructor
    · intro h
      by_cases hown : lastMac (handed i s) = key
      · exact .inl hown
      · exact .inr fun row hrow heq => hown (heq.symm.trans (h row hrow heq))
    · rintro (hown | hnone) row hrow heq
      · exact heq.trans hown
      · exact absurd heq (hnone row hrow)
  cases l with
  | accept j fd => simp [OwnRows, OwnAtWrites, acts]
  | client j env =>
    by_cases hij : j = i
    · subst hij
      cases ht : s.thread j with
      | none => simp [OwnRows, OwnAtWrites, acts, ht]
      | some t =>
        cases hr : pangoClientStep cfg env (s.client j) t s.yourTable with
        | none =>
          have hdone : t.pc = .done := pc_of_pangoClientStep_none hr
          simp [OwnRows, OwnAtWrites, acts, ht, hr, hdone]
        | some r =>
          simp only [OwnRows, OwnAtWrites, acts, ht, hr, if_true, Option.bind_some,
            Option.elim_some, overwrites_pangoClientStep hr, Option.mem_some_iff, forall_eq',
            true_imp_iff]
          split_ifs with hw
          · rw [hlast]
            exact ⟨fun h _ _ => h, fun h => h hw.1 hw.2⟩
          · exact iff_of_true (by simp) fun hpc hf => absurd ⟨hpc, hf⟩ hw
    · simp [OwnRows, OwnAtWrites, acts, hij]
  | backup clock sqlFails =>
    by_cases hn : i < cfg.updateThreadMaxNumClients
    · simp only [OwnRows, OwnAtWrites, acts, hn, if_true, overwrites_slotEvents, true_imp_iff]
      split_ifs with hw
      · rw [hlast]
        exact ⟨fun h _ _ => h, fun h => h hw.1 hw.2⟩
      · exact iff_of_true (by simp) fun hc hf => absurd ⟨hc, hf⟩ hw
    · simp [OwnRows, OwnAtWrites, acts, hn]

/-- **A connection writes for its starter only**, in exactly the runs in which at every write the
last frame taken in carries the starter's address, or one without a row. -/
theorem ownRows_iff {i : ℕ} {m : Buf UInt8 6} {ls : List Label} {s : State D} :
    (server cfg).Exec (fun s l => StartedAs i m s l ∧ OwnRows cfg i (macKey m) s l)
    (.start rows) ls s ↔
      (server cfg).Exec (fun s l => StartedAs i m s l ∧ OwnAtWrites cfg i (macKey m) s l)
        (.start rows) ls s := by
  have hvalid : ∀ (s : State D) l, StartedAs i m s l → ValidOn i s l := by
    rintro s (_ | ⟨j, env⟩ | _) hC
    · trivial
    · exact fun hji t ht hpc => (hC hji t ht hpc).1
    · trivial
  refine Lts.Exec.exact (J := Locally fun j client t events => j = i →
    TakenIn (events.filterMap Event.handed) client t) (locally_start rows) (fun s l _ hJ => ?_)
    fun s l s' hC hJ _ hs => takenIn_step (hvalid s l hC) hJ hs
  refine ownRows_iff_ownAtWrites ?_
  cases ht : s.thread i with
  | none =>
    obtain ⟨hzero, hown⟩ := hJ.2 i ht
    rw [hzero, handed, hown, mac_zero]
    rfl
  | some t => exact (hJ.1 i t ht rfl).mac

end Step

instance (i : ℕ) (m : Buf UInt8 6) (s : State D) : (l : Label) → Decidable (StartedAs i m s l)
  | .client j _ => inferInstanceAs (Decidable (j = i → ∀ t ∈ s.thread i, _))
  | .accept .. | .backup .. => isTrue trivial

/-- Another device. -/
def foreignMac : Buf UInt8 6 := ⟨[2, 0, 94, 16, 0, 9], rfl⟩

/-- A parking of one device, and then a frame with the address of the other. -/
def foreignFrame : List Label :=
  sampleStart 0 100 ++
    [.client 0 { recv := recvFrame (Stm.fillSendBuff ⟨7, foreignMac, 10, 20⟩ (.fill 10 0)) },
     .client 0 {}]

/-- **Another device's row.**  It is not true that a connection only writes for its starter: the
next backup pass files the time of the connection under the other device. -/
theorem foreign_row_overwritten :
    ¬ ∀ (rows : List Row) (ls : List Label) (s : State Int) (i : ℕ) (m : Buf UInt8 6) (l : Label),
      (server samplePrices).Exec (StartedAs i m) (.start rows) ls s → StartedAs i m s l →
      OwnRows samplePrices i (macKey m) s l := by
  intro hall
  have hrun : ((server samplePrices).runIf (StartedAs 0 sampleMac)
      (.start [⟨macKey foreignMac, 7, ashkelon⟩]) foreignFrame).map (fun s =>
        ((acts samplePrices 0 s (.backup (fun _ => 130) [])).filterMap Event.overwrites,
         s.yourTable))
      = some ([macKey foreignMac],
        [⟨macKey foreignMac, 7, ashkelon⟩, ⟨macKey sampleMac, 0, ashkelon⟩]) := by
    decide +kernel
  obtain ⟨s, hs, hparts⟩ := Option.map_eq_some_iff.mp hrun
  obtain ⟨hwrites, htable⟩ := Prod.mk.inj hparts
  have hown : macKey foreignMac = macKey sampleMac :=
    hall _ _ s 0 sampleMac (.backup (fun _ => 130) []) (Lts.exec_of_runIf _ hs) trivial
    (macKey foreignMac)
      (by rw [hwrites]; simp) ⟨macKey foreignMac, 7, ashkelon⟩ (by rw [htable]; simp) rfl
  exact absurd (macKey_injective hown) (by decide)

end Pango.Server
