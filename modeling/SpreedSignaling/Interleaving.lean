import SpreedSignaling.Client
import Mathlib.Logic.Function.Basic

/-!
# Concurrent loads, readers, listener calls and `Close()`

`load` replaces the client with no lock: after `clientv3.New` it runs

    prev := c.getEtcdClient(); if prev != nil { prev.Close() }; c.client.Store(client)
    ...; c.notifyListeners()

and any goroutine may read the slot at any time through `getEtcdClient` (`Get`, `Watch`,
`IsConfigured`, `syncClient`). `AddListener`, `RemoveListener` and `notifyListeners` hold `mu`,
so each is one atomic step; `AddListener` reads the slot inside it, `notifyListeners` does not.
`Close()` takes no lock either: it reads the slot, `client := c.getEtcdClient()`, and then closes
what it read, leaving it in the slot.

A `World` is the record shared by all goroutines, the program counter of every `load` after its
`clientv3.New` and of every `Close()` call, the effects so far and the handles readers obtained.
A load is named by the handle `clientv3.New` gave it: handles are drawn fresh, so no two loads
share one; a `Close()` call is named by a number of its own. An `Action` is one atomic step of
one goroutine, and a schedule is a list of actions; an action whose goroutine is not at that
step changes nothing, so every list is a run.

* `step_replaceClient`: a load whose steps run back to back does what the sequential
  `EtcdClient.replaceClient` does.
* `reader_gets_closed_client`: `load` closes the previous client before it stores the new one,
  so a reader between the two obtains a closed client.
* `closed_client_only_in_window`: that and `Close()` are the only ways: whenever the slot holds
  a closed client, some load is between its `Close` and its `Store`, or a `Close()` call has
  closed that client. Before the first `Close()`, only the window remains.
* `step_close`: a `Close()` call whose two steps run back to back does what the sequential
  `EtcdClient.close` does.
* `notifications_of_client` counts the `EtcdClientCreated` notifications a listener gets for a
  handle over any run, and `listener_notified_twice` shows two of them.
-/

namespace SpreedSignaling

/-- Where a `load` is, by its client handle. -/
inductive LoadPc where
  /-- No load has this handle yet. -/
  | idle
  /-- `clientv3.New` returned the handle. -/
  | created
  /-- `prev := c.getEtcdClient()` read `prev`. -/
  | readPrev (prev : Option Nat)
  /-- `prev.Close()` is done. -/
  | closedPrev
  /-- `c.client.Store(client)` is done. -/
  | stored
  /-- `c.notifyListeners()` is done. -/
  | done
  deriving DecidableEq, Repr

/-- The load has stored its handle in the slot. -/
def LoadPc.installed : LoadPc → Bool
  | .stored | .done => true
  | _ => false

/-- Where a `Close()` call is. -/
inductive ClosePc where
  /-- The call has not started. -/
  | idle
  /-- `client := c.getEtcdClient()` read `client`. -/
  | read (client : Option Nat)
  /-- `client.Close()` is done on the client it read, if there was one. -/
  | closed (client : Option Nat)
  deriving DecidableEq, Repr

/-- The state every goroutine shares, with client handles `Nat`. -/
structure World (L : Type) where
  etcd : EtcdClient Nat L
  pc : Nat → LoadPc
  closers : Nat → ClosePc
  fresh : Nat
  effects : List (Effect Nat L)
  reads : List Nat

/-- One atomic step of one goroutine. -/
inductive Action (L : Type) where
  /-- A `load` gets a new client from `clientv3.New`. -/
  | newClient
  /-- `prev := c.getEtcdClient()` in the load of `h`. -/
  | readPrev (h : Nat)
  /-- `if prev != nil { prev.Close() }` in the load of `h`. -/
  | closePrev (h : Nat)
  /-- `c.client.Store(client)` in the load of `h`. -/
  | store (h : Nat)
  /-- `c.notifyListeners()` in the load of `h`. -/
  | notify (h : Nat)
  /-- A reader's `c.getEtcdClient()`. -/
  | read
  /-- `AddListener(l)`. -/
  | addListener (l : L)
  /-- `RemoveListener(l)`. -/
  | removeListener (l : L)
  /-- `client := c.getEtcdClient()` in `Close()` call `k`. -/
  | closeRead (k : Nat)
  /-- `if client != nil { return client.Close() }` in `Close()` call `k`. -/
  | closeClient (k : Nat)
  deriving DecidableEq, Repr

namespace World

variable {L : Type} [DecidableEq L]

/-- A fresh `EtcdClient`: no client, no listener, no load, no `Close()` call. -/
def init (compatSection : String) : World L :=
  ⟨⟨compatSection, none, .empty⟩, fun _ => .idle, fun _ => .idle, 0, [], []⟩

/-- One step of the schedule. -/
def step (w : World L) : Action L → World L
  | .newClient => { w with pc := Function.update w.pc w.fresh .created, fresh := w.fresh + 1 }
  | .readPrev h =>
    if w.pc h = .created then
      { w with pc := Function.update w.pc h (.readPrev w.etcd.getEtcdClient) }
    else w
  | .closePrev h =>
    match w.pc h with
    | .readPrev prev =>
      { w with pc := Function.update w.pc h .closedPrev,
               effects := w.effects ++ (prev.map Effect.close).toList }
    | _ => w
  | .store h =>
    if w.pc h = .closedPrev then
      { w with etcd := { w.etcd with client := some h }, pc := Function.update w.pc h .stored }
    else w
  | .notify h =>
    if w.pc h = .stored then
      { w with effects := w.effects ++ w.etcd.notifyListeners h,
               pc := Function.update w.pc h .done }
    else w
  | .read => { w with reads := w.reads ++ w.etcd.getEtcdClient.toList }
  | .addListener l =>
    { w with etcd := (w.etcd.addListener l).1, effects := w.effects ++ (w.etcd.addListener l).2 }
  | .removeListener l => { w with etcd := w.etcd.removeListener l }
  | .closeRead k =>
    if w.closers k = .idle then
      { w with closers := Function.update w.closers k (.read w.etcd.getEtcdClient) }
    else w
  | .closeClient k =>
    match w.closers k with
    | .read client =>
      { w with closers := Function.update w.closers k (.closed client),
               effects := w.effects ++ (client.map Effect.close).toList }
    | _ => w

/-- A schedule run from `w`. -/
def run (w : World L) (as : List (Action L)) : World L := as.foldl step w

@[simp]
theorem run_nil (w : World L) : w.run [] = w := rfl

@[simp]
theorem run_cons (w : World L) (a : Action L) (as : List (Action L)) :
    w.run (a :: as) = (w.step a).run as := rfl

theorem run_append (w : World L) (as bs : List (Action L)) :
    w.run (as ++ bs) = (w.run as).run bs := List.foldl_append _ _ _ _

/-! ### The guarded steps -/

section Steps

variable {w : World L} {h₀ : Nat}

theorem step_readPrev (hc : w.pc h₀ = .created) :
    w.step (.readPrev h₀) =
      { w with pc := Function.update w.pc h₀ (.readPrev w.etcd.getEtcdClient) } := by
  simp [step, hc]

theorem step_closePrev {prev : Option Nat} (hc : w.pc h₀ = .readPrev prev) :
    w.step (.closePrev h₀) =
      { w with pc := Function.update w.pc h₀ .closedPrev,
               effects := w.effects ++ (prev.map Effect.close).toList } := by
  simp [step, hc]

theorem step_closePrev_of_not (hc : ¬∃ prev, w.pc h₀ = .readPrev prev) :
    w.step (.closePrev h₀) = w := by
  simp only [step]
  split
  · rename_i prev hprev
    exact absurd ⟨prev, hprev⟩ hc
  · rfl

theorem step_store (hc : w.pc h₀ = .closedPrev) :
    w.step (.store h₀) =
      { w with etcd := { w.etcd with client := some h₀ },
               pc := Function.update w.pc h₀ .stored } := by
  simp [step, hc]

theorem step_notify (hc : w.pc h₀ = .stored) :
    w.step (.notify h₀) =
      { w with effects := w.effects ++ w.etcd.notifyListeners h₀,
               pc := Function.update w.pc h₀ .done } := by
  simp [step, hc]

theorem step_closeRead {k : Nat} (hc : w.closers k = .idle) :
    w.step (.closeRead k) =
      { w with closers := Function.update w.closers k (.read w.etcd.getEtcdClient) } := by
  simp [step, hc]

theorem step_closeClient {k : Nat} {client : Option Nat} (hc : w.closers k = .read client) :
    w.step (.closeClient k) =
      { w with closers := Function.update w.closers k (.closed client),
               effects := w.effects ++ (client.map Effect.close).toList } := by
  simp [step, hc]

theorem step_closeClient_of_not {k : Nat} (hc : ¬∃ client, w.closers k = .read client) :
    w.step (.closeClient k) = w := by
  simp only [step]
  split
  · rename_i client hclient
    exact absurd ⟨client, hclient⟩ hc
  · rfl

/-! A `Close()` call moves only itself and adds only closes: the record and the loads stay. -/

@[simp]
theorem etcd_step_closeRead (k : Nat) : (w.step (.closeRead k)).etcd = w.etcd := by
  simp only [step]; split <;> rfl

@[simp]
theorem pc_step_closeRead (k : Nat) : (w.step (.closeRead k)).pc = w.pc := by
  simp only [step]; split <;> rfl

@[simp]
theorem effects_step_closeRead (k : Nat) : (w.step (.closeRead k)).effects = w.effects := by
  simp only [step]; split <;> rfl

@[simp]
theorem etcd_step_closeClient (k : Nat) : (w.step (.closeClient k)).etcd = w.etcd := by
  simp only [step]; split <;> rfl

@[simp]
theorem pc_step_closeClient (k : Nat) : (w.step (.closeClient k)).pc = w.pc := by
  simp only [step]; split <;> rfl

end Steps

/-! ### A load run back to back -/

/-- **Refinement of the sequential tail of `load`.** The five steps of one load, with nothing
in between, leave the record and the effects as `EtcdClient.replaceClient` does. -/
theorem step_replaceClient (w : World L) :
    let w' := w.run [.newClient, .readPrev w.fresh, .closePrev w.fresh, .store w.fresh,
      .notify w.fresh]
    w'.etcd = (w.etcd.replaceClient w.fresh).1 ∧
      w'.effects = w.effects ++ (w.etcd.replaceClient w.fresh).2 := by
  simp only [run_cons, run_nil, step, Function.update_same, if_true, Function.update_idem]
  refine ⟨rfl, ?_⟩
  cases h : w.etcd.getEtcdClient <;>
    simp [EtcdClient.replaceClient, EtcdClient.notifyListeners, h]

/-! ### Closed clients in the slot

A handle enters the slot only through its own load's `Store` and is closed only by a load or a
`Close()` call that read it from the slot. A load stores its own handle right after its `Close`,
while `Close()` leaves the closed handle in the slot, so the slot can hold a closed handle only in
the window between some load's `Close` and its `Store`, or after a `Close()` call closed it. -/

/-- The invariant of every reachable world. -/
structure Inv (w : World L) : Prop where
  /-- Handles from `fresh` on belong to no load yet. -/
  fresh_idle : ∀ h, w.fresh ≤ h → w.pc h = .idle
  /-- The slot holds an installed handle. -/
  slot_installed : ∀ h, w.etcd.client = some h → (w.pc h).installed
  /-- Only installed handles have been closed. -/
  closed_installed : ∀ h, Effect.close h ∈ w.effects → (w.pc h).installed
  /-- A load read an installed handle as its `prev`. -/
  prev_installed : ∀ h h', w.pc h' = .readPrev (some h) → (w.pc h).installed
  /-- A closed handle in the slot means a load between `Close` and `Store`, or a `Close()` call
  that closed it. -/
  closed_window : ∀ h, w.etcd.client = some h → Effect.close h ∈ w.effects →
    (∃ h', w.pc h' = .closedPrev) ∨ ∃ k, w.closers k = .closed (some h)
  /-- A `Close()` call read an installed handle. -/
  closer_installed : ∀ k h, w.closers k = .read (some h) → (w.pc h).installed

omit [DecidableEq L] in
theorem inv_init (compatSection : String) : Inv (init compatSection : World L) where
  fresh_idle _ _ := rfl
  slot_installed _ h := by cases h
  closed_installed _ h := by cases h
  prev_installed _ _ h := by cases h
  closed_window _ h := by cases h
  closer_installed _ _ h := by cases h

/-- Moving load `h₀` leaves a load in another state where it was. -/
theorem update_of_pc_ne {pc : Nat → LoadPc} {h h₀ : Nat} {p : LoadPc}
    (hne : pc h ≠ pc h₀) : Function.update pc h₀ p h = pc h :=
  Function.update_noteq (fun he => hne (congrArg pc he)) _ _

/-- A load found at `q` after moving `h₀` somewhere else was at `q` before. -/
theorem eq_of_update_eq {pc : Nat → LoadPc} {h h₀ : Nat} {p q : LoadPc}
    (hh : Function.update pc h₀ p h = q) (hp : p ≠ q) : pc h = q := by
  rcases eq_or_ne h h₀ with rfl | hne
  · rw [Function.update_same] at hh
    exact absurd hh hp
  · rwa [Function.update_noteq hne] at hh

/-- Moving one load to an installed state keeps every installed handle installed. -/
private theorem installed_update {pc : Nat → LoadPc} {h h₀ : Nat} {p : LoadPc}
    (hp : p.installed) (hi : (pc h).installed) : (Function.update pc h₀ p h).installed := by
  rcases eq_or_ne h h₀ with rfl | hne
  · rwa [Function.update_same]
  · rwa [Function.update_noteq hne]

/-- Moving a load that has not stored yet keeps every installed handle installed. -/
private theorem installed_update_of_not {pc : Nat → LoadPc} {h h₀ : Nat} (p : LoadPc)
    (h₀pc : (pc h₀).installed = false) (hi : (pc h).installed) :
    (Function.update pc h₀ p h).installed := by
  rwa [Function.update_noteq]
  rintro rfl
  simp [hi] at h₀pc

section Preservation

variable {w : World L} (hw : Inv w)
include hw

omit [DecidableEq L] in
/-- Moving a load that has a handle keeps the handles from `fresh` on idle. -/
theorem Inv.fresh_idle_update (p : LoadPc) {h₀ : Nat} (hc : w.pc h₀ ≠ .idle) :
    ∀ h, w.fresh ≤ h → Function.update w.pc h₀ p h = .idle := fun h hh =>
  (update_of_pc_ne (by rw [hw.fresh_idle h hh]; exact hc.symm)).trans (hw.fresh_idle h hh)

omit [DecidableEq L] in
/-- Moving a load that is not between `Close` and `Store` keeps the loads that are. -/
theorem Inv.closed_window_update (p : LoadPc) {h₀ : Nat} (hc : w.pc h₀ ≠ .closedPrev) :
    ∀ h, w.etcd.client = some h → Effect.close h ∈ w.effects →
      (∃ h', Function.update w.pc h₀ p h' = .closedPrev) ∨
        ∃ k, w.closers k = .closed (some h) := fun h hs hcl =>
  (hw.closed_window h hs hcl).imp
    (fun ⟨h', hh'⟩ => ⟨h', (update_of_pc_ne (by rw [hh']; exact hc.symm)).trans hh'⟩) id

omit [DecidableEq L] in
/-- Moving a `Close()` call that has not closed keeps the calls that have. -/
theorem Inv.closed_window_closers (q : ClosePc) {k : Nat} (hk : ∀ c, w.closers k ≠ .closed c) :
    ∀ h, w.etcd.client = some h → Effect.close h ∈ w.effects →
      (∃ h', w.pc h' = .closedPrev) ∨ ∃ k', Function.update w.closers k q k' = .closed (some h) :=
  fun h hs hcl => (hw.closed_window h hs hcl).imp id fun ⟨k', hk'⟩ =>
    ⟨k', by rwa [Function.update_noteq fun he => hk _ (he ▸ hk')]⟩

theorem Inv.newClient : Inv (w.step .newClient) := by
  have hidle := hw.fresh_idle w.fresh le_rfl
  have hnot : (w.pc w.fresh).installed = false := by rw [hidle]; rfl
  constructor <;> dsimp only [step]
  · intro h hh
    rw [Function.update_noteq (by omega)]
    exact hw.fresh_idle h (by omega)
  · exact fun h hh => installed_update_of_not _ hnot (hw.slot_installed h hh)
  · exact fun h hh => installed_update_of_not _ hnot (hw.closed_installed h hh)
  · exact fun h h' hh =>
      installed_update_of_not _ hnot (hw.prev_installed h h' (eq_of_update_eq hh nofun))
  · exact hw.closed_window_update _ (by rw [hidle]; nofun)
  · exact fun k h hh => installed_update_of_not _ hnot (hw.closer_installed k h hh)

theorem Inv.readPrev (h₀ : Nat) : Inv (w.step (.readPrev h₀)) := by
  by_cases hc : w.pc h₀ = .created
  swap
  · simpa [step, hc] using hw
  rw [step_readPrev hc]
  have hnot : (w.pc h₀).installed = false := by rw [hc]; rfl
  constructor <;> dsimp only
  · exact hw.fresh_idle_update _ (by rw [hc]; nofun)
  · exact fun h hh => installed_update_of_not _ hnot (hw.slot_installed h hh)
  · exact fun h hh => installed_update_of_not _ hnot (hw.closed_installed h hh)
  · intro h h' hh
    refine installed_update_of_not _ hnot ?_
    rcases eq_or_ne h' h₀ with rfl | hne
    · -- the load reads `prev` from the slot, which holds an installed handle
      simp only [Function.update_same, LoadPc.readPrev.injEq, EtcdClient.getEtcdClient] at hh
      exact hw.slot_installed h hh
    · rw [Function.update_noteq hne] at hh
      exact hw.prev_installed h h' hh
  · exact hw.closed_window_update _ (by rw [hc]; nofun)
  · exact fun k h hh => installed_update_of_not _ hnot (hw.closer_installed k h hh)

theorem Inv.closePrev (h₀ : Nat) : Inv (w.step (.closePrev h₀)) := by
  by_cases hc : ∃ prev, w.pc h₀ = .readPrev prev
  swap
  · rw [step_closePrev_of_not hc]
    exact hw
  obtain ⟨prev, hc⟩ := hc
  rw [step_closePrev hc]
  have hnot : (w.pc h₀).installed = false := by rw [hc]; rfl
  constructor <;> dsimp only
  · exact hw.fresh_idle_update _ (by rw [hc]; nofun)
  · exact fun h hh => installed_update_of_not _ hnot (hw.slot_installed h hh)
  · intro h hh
    refine installed_update_of_not _ hnot ?_
    rcases List.mem_append.mp hh with hh | hh
    · exact hw.closed_installed h hh
    · -- the handle closed now is the `prev` the load read
      cases prev with
      | none => simp at hh
      | some p =>
        obtain rfl : h = p := by simpa using hh
        exact hw.prev_installed h h₀ hc
  · exact fun h h' hh =>
      installed_update_of_not _ hnot (hw.prev_installed h h' (eq_of_update_eq hh nofun))
  · exact fun _ _ _ => .inl ⟨h₀, Function.update_same _ _ _⟩
  · exact fun k h hh => installed_update_of_not _ hnot (hw.closer_installed k h hh)

theorem Inv.store (h₀ : Nat) : Inv (w.step (.store h₀)) := by
  by_cases hc : w.pc h₀ = .closedPrev
  swap
  · simpa [step, hc] using hw
  rw [step_store hc]
  constructor <;> dsimp only
  · exact hw.fresh_idle_update _ (by rw [hc]; nofun)
  · rintro h ⟨⟩
    simp [LoadPc.installed]
  · exact fun h hh => installed_update rfl (hw.closed_installed h hh)
  · exact fun h h' hh => installed_update rfl (hw.prev_installed h h' (eq_of_update_eq hh nofun))
  · -- the stored handle is new, so it has not been closed
    rintro h ⟨⟩ hclosed
    simpa [hc, LoadPc.installed] using hw.closed_installed h₀ hclosed
  · exact fun k h hh => installed_update rfl (hw.closer_installed k h hh)

theorem Inv.notify (h₀ : Nat) : Inv (w.step (.notify h₀)) := by
  by_cases hc : w.pc h₀ = .stored
  swap
  · simpa [step, hc] using hw
  rw [step_notify hc]
  have hclosed : ∀ h, Effect.close h ∈ w.effects ++ w.etcd.notifyListeners h₀ →
      Effect.close h ∈ w.effects := by
    simp
  constructor <;> dsimp only
  · exact hw.fresh_idle_update _ (by rw [hc]; nofun)
  · exact fun h hh => installed_update rfl (hw.slot_installed h hh)
  · exact fun h hh => installed_update rfl (hw.closed_installed h (hclosed h hh))
  · exact fun h h' hh => installed_update rfl (hw.prev_installed h h' (eq_of_update_eq hh nofun))
  · exact fun h hs hh => hw.closed_window_update _ (by rw [hc]; nofun) h hs (hclosed h hh)
  · exact fun k h hh => installed_update rfl (hw.closer_installed k h hh)

theorem Inv.addListener (l : L) : Inv (w.step (.addListener l)) := by
  have hclosed : ∀ h, Effect.close h ∈ (w.step (.addListener l)).effects →
      Effect.close h ∈ w.effects := by
    simp [step]
  exact ⟨hw.fresh_idle, hw.slot_installed, fun h hh => hw.closed_installed h (hclosed h hh),
    hw.prev_installed, fun h hs hh => hw.closed_window h hs (hclosed h hh), hw.closer_installed⟩

theorem Inv.closeRead (k : Nat) : Inv (w.step (.closeRead k)) := by
  by_cases hc : w.closers k = .idle
  swap
  · simpa [step, hc] using hw
  rw [step_closeRead hc]
  refine ⟨hw.fresh_idle, hw.slot_installed, hw.closed_installed, hw.prev_installed,
    hw.closed_window_closers _ (by rw [hc]; nofun), fun k' h hh => ?_⟩
  dsimp only at hh ⊢
  rcases eq_or_ne k' k with rfl | hne
  · -- the call reads the slot, which holds an installed handle
    simp only [Function.update_same, ClosePc.read.injEq, EtcdClient.getEtcdClient] at hh
    exact hw.slot_installed h hh
  · rw [Function.update_noteq hne] at hh
    exact hw.closer_installed k' h hh

theorem Inv.closeClient (k : Nat) : Inv (w.step (.closeClient k)) := by
  by_cases hc : ∃ client, w.closers k = .read client
  swap
  · rwa [step_closeClient_of_not hc]
  obtain ⟨client, hc⟩ := hc
  rw [step_closeClient hc]
  -- the handle closed now is the one the call read
  have hnew : ∀ h, Effect.close h ∈ (client.map (Effect.close (L := L))).toList →
      client = some h := by
    intro h hh
    cases client <;> simp_all
  refine ⟨hw.fresh_idle, hw.slot_installed, fun h hh => ?_, hw.prev_installed,
    fun h hs hh => ?_, fun k' h hh => ?_⟩
  · rcases List.mem_append.mp hh with hh | hh
    · exact hw.closed_installed h hh
    · exact hw.closer_installed k h (by rw [← hnew h hh]; exact hc)
  · rcases List.mem_append.mp hh with hh | hh
    · exact hw.closed_window_closers _ (by rw [hc]; nofun) h hs hh
    · exact .inr ⟨k, by dsimp only; rw [Function.update_same, hnew h hh]⟩
  · dsimp only at hh ⊢
    have hne : k' ≠ k := by
      rintro rfl
      simp at hh
    rw [Function.update_noteq hne] at hh
    exact hw.closer_installed k' h hh

end Preservation

theorem Inv.step {w : World L} (hw : Inv w) : ∀ a : Action L, Inv (w.step a)
  | .newClient => hw.newClient
  | .readPrev h₀ => hw.readPrev h₀
  | .closePrev h₀ => hw.closePrev h₀
  | .store h₀ => hw.store h₀
  | .notify h₀ => hw.notify h₀
  | .read => ⟨hw.1, hw.2, hw.3, hw.4, hw.5, hw.6⟩
  | .addListener l => hw.addListener l
  | .removeListener _ => ⟨hw.1, hw.2, hw.3, hw.4, hw.5, hw.6⟩
  | .closeRead k => hw.closeRead k
  | .closeClient k => hw.closeClient k

theorem Inv.run {w : World L} (hw : Inv w) : ∀ as : List (Action L), Inv (w.run as)
  | [] => hw
  | a :: as => (hw.step a).run as

/-- **A closed client in the slot.** In every run from a fresh `EtcdClient`, whenever the slot
holds a client that has been closed, some `load` has closed its previous client and not yet
stored its new one, or a `Close()` call has closed that very client. Up to the first `Close()`
that closes a client, only the window of a `load` remains. -/
theorem closed_client_only_in_window (compatSection : String) (as : List (Action L)) (h : Nat)
    (hslot : ((init compatSection).run as).etcd.getEtcdClient = some h)
    (hclosed : Effect.close h ∈ ((init compatSection : World L).run as).effects) :
    (∃ h', ((init compatSection : World L).run as).pc h' = .closedPrev) ∨
      ∃ k, ((init compatSection : World L).run as).closers k = .closed (some h) :=
  ((inv_init compatSection).run as).closed_window h hslot hclosed

/-- In the schedule of `reader_gets_closed_client`, the load of client `1` is in the window. -/
theorem closed_client_window_sample :
    let w : World Nat := (init "").run [.newClient, .readPrev 0, .closePrev 0, .store 0,
      .notify 0, .newClient, .readPrev 1, .closePrev 1]
    (∃ h', w.pc h' = .closedPrev) ∨ ∃ k, w.closers k = .closed (some 0) :=
  closed_client_only_in_window "" _ 0 (by decide) (by decide)

/-- After `Close()` the slot still holds the closed client, with no `load` running. -/
example :
    let w : World Nat := (init "").run [.newClient, .readPrev 0, .closePrev 0, .store 0,
      .notify 0, .closeRead 0, .closeClient 0]
    w.etcd.getEtcdClient = some 0 ∧ Effect.close 0 ∈ w.effects ∧ (∀ h < w.fresh, w.pc h = .done) :=
  by decide

/-- A `Close()` call run without interruption is `EtcdClient.close`: it closes the client in the
slot, if any, and leaves the record as it is. -/
theorem step_close {E : Type} (closeClient : Nat → Option E) (w : World L) (k : Nat)
    (hk : w.closers k = .idle) :
    let w' := w.run [.closeRead k, .closeClient k]
    w'.etcd = w.etcd ∧ w'.effects = w.effects ++ (w.etcd.close closeClient).2 := by
  simp only [run_cons, run_nil, step_closeRead hk]
  have hread : ({ w with closers := Function.update w.closers k (.read w.etcd.getEtcdClient) } :
      World L).closers k = .read w.etcd.getEtcdClient := Function.update_same _ _ _
  rw [step_closeClient hread]
  refine ⟨rfl, ?_⟩
  cases h : w.etcd.getEtcdClient <;> simp [EtcdClient.close, h]

/-- **`load` closes before it stores.** A fresh `EtcdClient` gets client `0` from a first
load; a second load closes it, and a reader that runs before that load's `Store` obtains
client `0`, already closed. -/
theorem reader_gets_closed_client :
    let w : World Nat := (init "").run [.newClient, .readPrev 0, .closePrev 0, .store 0,
      .notify 0, .newClient, .readPrev 1, .closePrev 1]
    Effect.close 0 ∈ w.effects ∧ (w.step .read).reads = [0] := by
  decide

end World

end SpreedSignaling
