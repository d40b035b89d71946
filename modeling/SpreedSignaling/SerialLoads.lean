import SpreedSignaling.Interleaving

/-!
# Loads that do not overlap close every replaced client once

`load` reads `prev`, closes it and stores its own client with no lock. When two loads run
between their `prev := c.getEtcdClient()` and their `c.client.Store(client)` at the same time,
both read the same `prev`: it is closed twice, and the client the first of them stores is
replaced without ever being closed. A program that reloads its configuration from one goroutine
never lets two loads overlap, and then the replacement is exact.

`Serial w` says that at most one load of `w` is in that section; `serialRun w as` that this
holds before every step of the schedule `as`, and that no `Close()` call closes a client during
it: `Close()` leaves the closed client in the slot and closes it again when called again, so the
statements below are about the time before shutdown. Readers, listener calls and the first step
of `Close()` interleave freely. `Closes` is the invariant of such runs:

* the `prev` a load has read is still the client in the slot;
* a client has been closed exactly when a load has stored it and it is no longer in the slot,
  or it is in the slot while a load is between its `Close` and its `Store`;
* no client has been closed twice.

`closes_of_serial_loads` states it of every such run from a fresh `EtcdClient`, and
`close_after_serial_loads` adds `Close()` at the end of such a run: when no load is left in the
section, every client a load has stored is then closed exactly once.
-/

namespace SpreedSignaling

/-- The step of a `Close()` call that closes the client it read. -/
def Action.closesClient {L : Type} : Action L → Bool
  | .closeClient _ => true
  | _ => false

/-- The load is between `prev := c.getEtcdClient()` and `c.client.Store(client)`. -/
def LoadPc.replacing : LoadPc → Bool
  | .readPrev _ | .closedPrev => true
  | _ => false

namespace World

variable {L : Type} [DecidableEq L]

/-! ### Non-overlapping loads -/

/-- At most one load is between reading `prev` and storing its client. Handles from `fresh` on
belong to no load yet, so the handles below `fresh` are all there is to check. -/
def Serial (w : World L) : Prop :=
  ∀ h < w.fresh, ∀ h' < w.fresh, (w.pc h).replacing → (w.pc h').replacing → h = h'

instance (w : World L) : Decidable w.Serial :=
  inferInstanceAs (Decidable (∀ h < w.fresh, ∀ h' < w.fresh,
    (w.pc h).replacing → (w.pc h').replacing → h = h'))

/-- Before every step of the schedule `as` run from `w`, the loads do not overlap, and no step is
a `Close()` call closing a client. -/
def serialRun : World L → List (Action L) → Bool
  | _, [] => true
  | w, a :: as => decide w.Serial && !a.closesClient && serialRun (w.step a) as

omit [DecidableEq L] in
/-- A load in the section has a handle below `fresh`. -/
theorem lt_fresh_of_replacing {w : World L} (hw : Inv w) {h : Nat} (hr : (w.pc h).replacing) :
    h < w.fresh :=
  Nat.lt_of_not_le fun hge => by simp [hw.fresh_idle h hge, LoadPc.replacing] at hr

omit [DecidableEq L] in
/-- Two loads in the section at once are the same load. -/
theorem Serial.eq {w : World L} (hs : w.Serial) (hw : Inv w) {h h' : Nat}
    (hh : (w.pc h).replacing) (hh' : (w.pc h').replacing) : h = h' :=
  hs h (lt_fresh_of_replacing hw hh) h' (lt_fresh_of_replacing hw hh') hh hh'

/-! ### Moving one load -/

/-- Moving a load between two states that agree on being installed keeps every load's. -/
theorem installed_update_eq {pc : Nat → LoadPc} {h₀ : Nat} {p : LoadPc}
    (hp : p.installed = (pc h₀).installed) (h : Nat) :
    (Function.update pc h₀ p h).installed = (pc h).installed := by
  rcases eq_or_ne h h₀ with rfl | hne
  · rw [Function.update_same, hp]
  · rw [Function.update_noteq hne]

/-- Moving a load between two states other than `q` keeps whether some load is at `q`. -/
theorem exists_update_eq_iff {pc : Nat → LoadPc} {h₀ : Nat} {p q : LoadPc} (hp : p ≠ q)
    (hp₀ : pc h₀ ≠ q) : (∃ h, Function.update pc h₀ p h = q) ↔ ∃ h, pc h = q := by
  constructor
  · rintro ⟨h, hh⟩
    exact ⟨h, eq_of_update_eq hh hp⟩
  · rintro ⟨h, hh⟩
    exact ⟨h, by rwa [update_of_pc_ne (by rw [hh]; exact hp₀.symm)]⟩

/-! ### The invariant -/

/-- What the closes of a run with non-overlapping loads are. -/
structure Closes (w : World L) : Prop where
  /-- A load that has read `prev` read the client still in the slot. -/
  prev_current : ∀ h prev, w.pc h = .readPrev prev → prev = w.etcd.client
  /-- The closed clients: those stored and replaced, and the one in the slot while a load is
  between its `Close` and its `Store`. -/
  closed_iff : ∀ h, Effect.close h ∈ w.effects ↔
    (w.pc h).installed ∧ (w.etcd.client ≠ some h ∨ ∃ h', w.pc h' = .closedPrev)
  /-- No client is closed twice. -/
  count_le : ∀ h, w.effects.count (.close h) ≤ 1

theorem closes_init (compatSection : String) : Closes (init compatSection : World L) where
  prev_current _ _ h := by cases h
  closed_iff _ := by simp [init, LoadPc.installed]
  count_le _ := by simp [init]

section Preservation

variable {w : World L} (hc : Closes w)
include hc

/-- A step that closes nothing and leaves the slot alone keeps `Closes` when it keeps which
loads are installed and whether one is between `Close` and `Store`, and a load it finds
reading `prev` was already reading it or read the slot. -/
theorem Closes.of_frame {w' : World L} (hslot : w'.etcd.client = w.etcd.client)
    (heff : ∀ h, w'.effects.count (.close h) = w.effects.count (.close h))
    (hinst : ∀ h, (w'.pc h).installed = (w.pc h).installed)
    (hwin : (∃ h, w'.pc h = .closedPrev) ↔ ∃ h, w.pc h = .closedPrev)
    (hprev : ∀ h prev, w'.pc h = .readPrev prev →
      w.pc h = .readPrev prev ∨ prev = w.etcd.client) : Closes w' where
  prev_current h prev hh := by
    rw [hslot]
    exact (hprev h prev hh).elim (hc.prev_current h prev) id
  closed_iff h := by
    rw [← List.count_pos_iff, heff, List.count_pos_iff, hc.closed_iff, hinst, hslot, hwin]
  count_le h := heff h ▸ hc.count_le h

theorem Closes.newClient (hw : Inv w) : Closes (w.step .newClient) := by
  have hidle := hw.fresh_idle w.fresh le_rfl
  refine hc.of_frame rfl (fun _ => rfl) (installed_update_eq (by rw [hidle]; rfl))
    (exists_update_eq_iff nofun (by rw [hidle]; nofun)) fun h prev hh => ?_
  exact .inl (eq_of_update_eq hh nofun)

theorem Closes.readPrev (h₀ : Nat) : Closes (w.step (.readPrev h₀)) := by
  by_cases hr : w.pc h₀ = .created
  swap
  · simpa [step, hr] using hc
  rw [step_readPrev hr]
  refine hc.of_frame rfl (fun _ => rfl) (installed_update_eq (by rw [hr]; rfl))
    (exists_update_eq_iff nofun (by rw [hr]; nofun)) fun h prev hh => ?_
  dsimp only at hh
  rcases eq_or_ne h h₀ with rfl | hne
  · -- the load reads the slot
    simp only [Function.update_same, LoadPc.readPrev.injEq] at hh
    exact .inr hh.symm
  · rw [Function.update_noteq hne] at hh
    exact .inl hh

theorem Closes.closePrev (hw : Inv w) (hs : w.Serial) (h₀ : Nat) :
    Closes (w.step (.closePrev h₀)) := by
  by_cases hr : ∃ prev, w.pc h₀ = .readPrev prev
  swap
  · rwa [step_closePrev_of_not hr]
  obtain ⟨prev, hr⟩ := hr
  rw [step_closePrev hr]
  have hprev : prev = w.etcd.client := hc.prev_current h₀ prev hr
  -- the load is the only one in the section, so no other has closed its `prev`
  have hopen : ¬∃ h, w.pc h = .closedPrev := fun ⟨h, hh⟩ => by
    obtain rfl := hs.eq hw (by rw [hh]; rfl) (by rw [hr]; rfl)
    rw [hr] at hh
    cases hh
  have hclosed : ∀ h, Effect.close h ∈ w.effects ↔
      (w.pc h).installed ∧ w.etcd.client ≠ some h := fun h => by
    simp only [hc.closed_iff h, hopen, or_false]
  refine ⟨fun h p hh => ?_, fun h => ?_, fun h => ?_⟩
  · exact hc.prev_current h p (eq_of_update_eq hh nofun)
  · dsimp only
    rw [installed_update_eq (by rw [hr]; rfl), List.mem_append, hclosed, hprev]
    have hslot : w.etcd.client = some h → (w.pc h).installed := hw.slot_installed h
    have hnow : ∃ h', Function.update w.pc h₀ .closedPrev h' = .closedPrev :=
      ⟨h₀, Function.update_same _ _ _⟩
    by_cases hh : w.etcd.client = some h <;> simp [hh, hslot, Option.mem_toList, hnow]
  · dsimp only
    rw [List.count_append, hprev]
    by_cases hh : w.etcd.client = some h
    · -- the slot's client is closed now, and was not before
      have h0 : w.effects.count (.close h) = 0 :=
        List.count_eq_zero.mpr fun hm => ((hclosed h).mp hm).2 hh
      simp [hh, h0]
    · have h0 : (w.etcd.client.map (Effect.close (L := L))).toList.count (.close h) = 0 := by
        cases hcl : w.etcd.client <;> simp_all [List.count_singleton']
      rw [h0]
      exact hc.count_le h

theorem Closes.store (hw : Inv w) (hs : w.Serial) (h₀ : Nat) :
    Closes (w.step (.store h₀)) := by
  by_cases hr : w.pc h₀ = .closedPrev
  swap
  · simpa [step, hr] using hc
  rw [step_store hr]
  -- the load is the only one in the section
  have hother : ∀ h, (w.pc h).replacing → h = h₀ := fun h hh =>
    hs.eq hw hh (by rw [hr]; rfl)
  have hopen : ¬∃ h, Function.update w.pc h₀ .stored h = .closedPrev := by
    rintro ⟨h, hh⟩
    obtain rfl := hother h (by rw [eq_of_update_eq hh nofun]; rfl)
    simp at hh
  refine ⟨fun h p hh => ?_, fun h => ?_, hc.count_le⟩
  · obtain rfl := hother h (by rw [eq_of_update_eq hh nofun]; rfl)
    simp at hh
  · dsimp only
    rw [hc.closed_iff h]
    rcases eq_or_ne h h₀ with rfl | hne
    · simp [hr, LoadPc.installed, hopen]
    · have hwin : ∃ h', w.pc h' = .closedPrev := ⟨h₀, hr⟩
      simp [Function.update_noteq hne, hopen, hne.symm, hwin]

theorem Closes.notify (h₀ : Nat) : Closes (w.step (.notify h₀)) := by
  by_cases hr : w.pc h₀ = .stored
  swap
  · simpa [step, hr] using hc
  rw [step_notify hr]
  refine hc.of_frame rfl (fun h => ?_) (installed_update_eq (by rw [hr]; rfl))
    (exists_update_eq_iff nofun (by rw [hr]; nofun)) fun h prev hh => ?_
  · simp
  · exact .inl (eq_of_update_eq hh nofun)

theorem Closes.step (hw : Inv w) (hs : w.Serial) :
    ∀ a : Action L, a.closesClient = false → Closes (w.step a)
  | .newClient, _ => hc.newClient hw
  | .readPrev h₀, _ => hc.readPrev h₀
  | .closePrev h₀, _ => hc.closePrev hw hs h₀
  | .store h₀, _ => hc.store hw hs h₀
  | .notify h₀, _ => hc.notify h₀
  | .read, _ => hc.of_frame rfl (fun _ => rfl) (fun _ => rfl) Iff.rfl fun _ _ hh => .inl hh
  | .addListener l, _ =>
    hc.of_frame rfl (fun h => by simp [World.step, List.count_eq_zero]) (fun _ => rfl) Iff.rfl
      fun _ _ hh => .inl hh
  | .removeListener _, _ =>
    hc.of_frame rfl (fun _ => rfl) (fun _ => rfl) Iff.rfl fun _ _ hh => .inl hh
  -- a `Close()` call may read the slot; its `closeClient` step is ruled out by `a.closesClient`
  | .closeRead k, _ =>
    hc.of_frame (by simp) (by simp) (by simp) (by simp) fun _ _ hh => .inl (by simpa using hh)

end Preservation

theorem Closes.run {w : World L} (hw : Inv w) (hc : Closes w) :
    ∀ as : List (Action L), serialRun w as → Closes (w.run as)
  | [], _ => hc
  | a :: as, hs => by
    simp only [serialRun, Bool.and_eq_true, decide_eq_true_eq, Bool.not_eq_true'] at hs
    exact (hc.step hw hs.1.1 a hs.1.2).run (hw.step a) as hs.2

/-- **Loads that do not overlap close every replaced client once.** In every run from a fresh
`EtcdClient` in which no two loads are between reading `prev` and storing at the same time and
no `Close()` call closes a client, with readers and listener calls interleaved anywhere, no
client is closed twice, and a client
has been closed exactly when a load has stored it and it is no longer in the slot, or it is in
the slot while a load is between its `Close` and its `Store`. So no replaced client is left
open. -/
theorem closes_of_serial_loads (compatSection : String) (as : List (Action L))
    (hs : serialRun (init compatSection) as) :
    let w : World L := (init compatSection).run as
    ∀ h, w.effects.count (.close h) ≤ 1 ∧ (Effect.close h ∈ w.effects ↔
      (w.pc h).installed ∧ (w.etcd.client ≠ some h ∨ ∃ h', w.pc h' = .closedPrev)) := by
  intro w h
  have hc := (closes_init compatSection).run (inv_init compatSection) as hs
  exact ⟨hc.count_le h, hc.closed_iff h⟩

/-- Three loads one after the other, with a reader inside the second: client `0` is closed once,
by the second load. -/
theorem closes_of_serial_loads_sample :
    let as : List (Action Nat) := [.newClient, .readPrev 0, .closePrev 0, .store 0, .notify 0,
      .newClient, .readPrev 1, .read, .closePrev 1, .store 1, .notify 1, .newClient,
      .readPrev 2, .closePrev 2, .store 2]
    let w : World Nat := (init "").run as
    serialRun (init "") as ∧ w.effects.count (.close 0) ≤ 1 ∧
      (Effect.close 0 ∈ w.effects ↔
        (w.pc 0).installed ∧ (w.etcd.client ≠ some 0 ∨ ∃ h', w.pc h' = .closedPrev)) :=
  ⟨by decide, closes_of_serial_loads "" _ (by decide) 0⟩

/- Two loads that overlap: both read client `0` as `prev` and close it, and client `1`, stored
first, is replaced without being closed. -/
example :
    let w : World Nat := (init "").run [.newClient, .readPrev 0, .closePrev 0, .store 0,
      .notify 0, .newClient, .newClient, .readPrev 1, .readPrev 2, .closePrev 1, .closePrev 2,
      .store 1, .store 2]
    w.effects.count (.close 0) = 2 ∧ w.effects.count (.close 1) = 0 ∧
      w.etcd.client = some 2 := by
  decide

/-! ### Shutdown -/

/-- **Nothing is left open at shutdown.** After a run as in `closes_of_serial_loads` that leaves
no load between reading `prev` and storing its client, `Close()` leaves every client a load has
stored closed exactly once, and no other client closed. -/
theorem close_after_serial_loads {E : Type} (closeClient : Nat → Option E)
    (compatSection : String) (as : List (Action L)) (hs : serialRun (init compatSection) as)
    (hidle : ∀ h < ((init compatSection : World L).run as).fresh,
      (((init compatSection : World L).run as).pc h).replacing = false) :
    let w : World L := (init compatSection).run as
    ∀ h, (w.effects ++ (w.etcd.close closeClient).2).count (.close h) =
      if (w.pc h).installed then 1 else 0 := by
  intro w h
  have hw : Inv w := (inv_init compatSection).run as
  have hc : Closes w := (closes_init compatSection).run (inv_init compatSection) as hs
  -- no load is between its `Close` and its `Store`
  have hopen : ¬∃ h', w.pc h' = .closedPrev := fun ⟨h', hh'⟩ => by
    have := hidle h' (lt_fresh_of_replacing hw (by rw [hh']; rfl))
    rw [hh'] at this
    cases this
  have hcount : w.effects.count (.close h) =
      if (w.pc h).installed ∧ w.etcd.client ≠ some h then 1 else 0 := by
    have hmem := hc.closed_iff h
    simp only [hopen, or_false] at hmem
    split_ifs with hp
    · have := List.count_pos_iff.mpr (hmem.mpr hp)
      have := hc.count_le h
      omega
    · exact List.count_eq_zero.mpr fun hm => hp (hmem.mp hm)
  rw [List.count_append, hcount]
  unfold EtcdClient.close EtcdClient.getEtcdClient
  cases hslot : w.etcd.client with
  | none => simp
  | some x =>
    rcases eq_or_ne x h with rfl | hx
    · -- `Close` closes the client in the slot, which no load has closed
      simp [hw.slot_installed x hslot]
    · simp [hx, List.count_singleton']

/-- Two loads one after the other, then `Close()`: client `1`, in the slot, is closed once. -/
theorem close_after_serial_loads_sample :
    let as : List (Action Nat) := [.newClient, .readPrev 0, .closePrev 0, .store 0, .notify 0,
      .newClient, .readPrev 1, .closePrev 1, .store 1, .notify 1]
    let w : World Nat := (init "").run as
    serialRun (init "") as ∧ (∀ h < w.fresh, (w.pc h).replacing = false) ∧
      (w.effects ++ (w.etcd.close fun _ => (none : Option Unit)).2).count (.close 1) =
        if (w.pc 1).installed then 1 else 0 :=
  ⟨by decide, by decide, close_after_serial_loads (fun _ => none) "" _ (by decide) (by decide) 1⟩

end World

end SpreedSignaling
