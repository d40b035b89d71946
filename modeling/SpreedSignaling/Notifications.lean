import SpreedSignaling.Interleaving

/-!
# `EtcdClientCreated` notifications over a run

A listener hears of a client handle in two ways: from `notifyListeners` in the `load` that
installed the handle, if the listener is registered at that step, and from the goroutine
`AddListener` starts when the handle is current at the `AddListener` call. Nothing links the
two: `load` stores the handle before it takes `mu` to notify, and `AddListener` reads the slot
under `mu`, so a listener added between the `Store` and the `notifyListeners` of a load hears
of its handle twice, and so does a listener added twice.

`notifications_of_client` counts, over every schedule, the notifications a listener gets for a
handle: one for each step of either kind, where the load's own `notifyListeners` happens at
most once. `listener_notified_twice` gives the two schedules with a second notification.
-/

namespace SpreedSignaling

namespace World

variable {L : Type} [DecidableEq L]

/-- The number of steps of the schedule `as` from `w` at which `p` holds of the world before
the step and the step. -/
def countAlong (p : World L → Action L → Bool) : World L → List (Action L) → Nat
  | _, [] => 0
  | w, a :: as => (if p w a then 1 else 0) + countAlong p (w.step a) as

/-- The load of `h` runs `notifyListeners` while `l` is registered. -/
def notifiesAt (l : L) (h : Nat) (w : World L) (a : Action L) : Bool :=
  a = .notify h && w.pc h = .stored && l ∈ w.etcd.listeners.toList

/-- `AddListener(l)` runs while `h` is the current client. -/
def addsWhileCurrent (l : L) (h : Nat) (w : World L) (a : Action L) : Bool :=
  a = .addListener l && w.etcd.client = some h

theorem countAlong_pos {p : World L → Action L → Bool} {w : World L}
    {pre : List (Action L)} {a : Action L} (post : List (Action L)) (hp : p (w.run pre) a) :
    0 < countAlong p w (pre ++ a :: post) := by
  induction pre generalizing w with
  | nil =>
    rw [run_nil] at hp
    simp only [List.nil_append, countAlong, hp, if_true]
    omega
  | cons b pre ih =>
    simp only [List.cons_append, countAlong]
    exact Nat.lt_of_lt_of_le (ih hp) (Nat.le_add_left _ _)

/-! ### One step -/

/-- A step adds a notification of `h` to `l` exactly when it is the `notifyListeners` of the
load of `h` with `l` registered, or an `AddListener(l)` with `h` current. -/
theorem count_created_step (w : World L) (a : Action L) (l : L) (h : Nat) :
    (w.step a).effects.count (.created l h) = w.effects.count (.created l h) +
      ((if notifiesAt l h w a then 1 else 0) + (if addsWhileCurrent l h w a then 1 else 0)) := by
  cases a with
  | newClient => simp [step, notifiesAt, addsWhileCurrent]
  | readPrev h₀ =>
    by_cases hc : w.pc h₀ = .created <;> simp [step, hc, notifiesAt, addsWhileCurrent]
  | closePrev h₀ =>
    simp only [step, notifiesAt, addsWhileCurrent]
    split <;> simp [List.count_eq_zero]
  | store h₀ =>
    by_cases hc : w.pc h₀ = .closedPrev <;> simp [step, hc, notifiesAt, addsWhileCurrent]
  | notify h₀ =>
    rcases eq_or_ne h₀ h with rfl | hh <;> by_cases hc : w.pc h₀ = .stored <;>
      simp [step, hc, notifiesAt, addsWhileCurrent, *]
  | read => simp [step, notifiesAt, addsWhileCurrent]
  | addListener l' =>
    simp only [step, EtcdClient.addListener, notifiesAt, addsWhileCurrent,
      EtcdClient.getEtcdClient]
    split
    · rename_i h' hcl
      by_cases hl : l' = l <;> by_cases hh : h' = h <;> simp [hcl, hl, hh, List.count_singleton']
    · rename_i hcl
      simp [hcl]
  | removeListener l' => simp [step, notifiesAt, addsWhileCurrent]
  | closeRead k => simp [notifiesAt, addsWhileCurrent]
  | closeClient k =>
    simp only [step, notifiesAt, addsWhileCurrent]
    split <;> simp [List.count_eq_zero]

/-- What is left of the `notifyListeners` of the load of `h`: one call until it is done. -/
def notifyBudget (p : LoadPc) : Nat := if p = .done then 0 else 1

/-- A step spends the budget of `h` when it notifies for `h`, and never restores it. -/
theorem budget_step {w : World L} (hw : Inv w) (a : Action L) (l : L) (h : Nat) :
    (if notifiesAt l h w a then 1 else 0) + notifyBudget ((w.step a).pc h) ≤
      notifyBudget (w.pc h) := by
  cases a with
  | newClient =>
    rcases eq_or_ne h w.fresh with rfl | hne
    · simp [step, notifiesAt, notifyBudget, hw.fresh_idle _ le_rfl]
    · simp [step, notifiesAt, Function.update_noteq hne]
  | readPrev h₀ =>
    by_cases hc : w.pc h₀ = .created <;> rcases eq_or_ne h h₀ with rfl | hne <;>
      simp [step, hc, notifiesAt, notifyBudget, Function.update_noteq, *]
  | closePrev h₀ =>
    by_cases hc : ∃ prev, w.pc h₀ = .readPrev prev
    · obtain ⟨prev, hc⟩ := hc
      rw [step_closePrev hc]
      rcases eq_or_ne h h₀ with rfl | hne
      · simp [notifiesAt, notifyBudget, hc]
      · simp [notifiesAt, Function.update_noteq hne]
    · rw [step_closePrev_of_not hc]
      simp [notifiesAt]
  | store h₀ =>
    by_cases hc : w.pc h₀ = .closedPrev <;> rcases eq_or_ne h h₀ with rfl | hne <;>
      simp [step, hc, notifiesAt, notifyBudget, Function.update_noteq, *]
  | notify h₀ =>
    by_cases hc : w.pc h₀ = .stored
    · rw [step_notify hc]
      rcases eq_or_ne h h₀ with rfl | hne
      · simp only [notifiesAt, hc, Function.update_same, notifyBudget]
        split <;> simp
      · simp [notifiesAt, Function.update_noteq hne, hne.symm]
    · rcases eq_or_ne h₀ h with rfl | hne <;> simp [step, hc, notifiesAt, *]
  | read => simp [step, notifiesAt]
  | addListener l' => simp [step, notifiesAt]
  | removeListener l' => simp [step, notifiesAt]
  | closeRead k => simp [notifiesAt]
  | closeClient k => simp [notifiesAt]

/-! ### Whole runs -/

theorem count_created_run (w : World L) (as : List (Action L)) (l : L) (h : Nat) :
    (w.run as).effects.count (.created l h) = w.effects.count (.created l h) +
      countAlong (notifiesAt l h) w as + countAlong (addsWhileCurrent l h) w as := by
  induction as generalizing w with
  | nil => simp [countAlong]
  | cons a as ih =>
    simp only [run_cons, ih, count_created_step, countAlong]
    omega

theorem countAlong_notifiesAt_le {w : World L} (hw : Inv w) (as : List (Action L)) (l : L)
    (h : Nat) :
    countAlong (notifiesAt l h) w as + notifyBudget ((w.run as).pc h) ≤
      notifyBudget (w.pc h) := by
  induction as generalizing w with
  | nil => simp [countAlong]
  | cons a as ih =>
    have := ih (hw.step a)
    have := budget_step hw a l h
    simp only [countAlong, run_cons]
    omega

/-- **Notifications of one client handle.** In every run from a fresh `EtcdClient`, a
listener `l` gets as many `EtcdClientCreated` notifications for a handle `h` as the run has
steps where the load of `h` runs `notifyListeners` with `l` registered, which happens at most
once, and steps where `AddListener(l)` runs while `h` is current. In particular `l` gets at
least one if it is registered at that `notifyListeners` or added while `h` is current. -/
theorem notifications_of_client (compatSection : String) (as : List (Action L)) (l : L)
    (h : Nat) :
    let w₀ : World L := init compatSection
    let n := (w₀.run as).effects.count (.created l h)
    n = countAlong (notifiesAt l h) w₀ as + countAlong (addsWhileCurrent l h) w₀ as ∧
    countAlong (notifiesAt l h) w₀ as ≤ 1 ∧
    ∀ pre a post, as = pre ++ a :: post →
      notifiesAt l h (w₀.run pre) a ∨ addsWhileCurrent l h (w₀.run pre) a → 0 < n := by
  dsimp only
  refine ⟨by simp [count_created_run, init], ?_, ?_⟩
  · have hle := countAlong_notifiesAt_le (inv_init compatSection) as l h
    have hbudget : notifyBudget ((init compatSection : World L).pc h) = 1 := rfl
    omega
  · rintro pre a post rfl hp
    rw [count_created_run]
    rcases hp with hp | hp
    · have := countAlong_pos post hp
      omega
    · have := countAlong_pos post hp
      omega

/-- **Two notifications for one handle.** A listener added between the `Store` and the
`notifyListeners` of the load of client `0` hears of it twice, and so does a listener added
twice while client `0` is current. -/
theorem listener_notified_twice :
    ((init "" : World Nat).run [.newClient, .readPrev 0, .closePrev 0, .store 0,
      .addListener 7, .notify 0]).effects.count (.created 7 0) = 2 ∧
    ((init "" : World Nat).run [.newClient, .readPrev 0, .closePrev 0, .store 0, .notify 0,
      .addListener 7, .addListener 7]).effects.count (.created 7 0) = 2 := by
  decide

end World

end SpreedSignaling
