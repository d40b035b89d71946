import Mathlib.Algebra.BigOperators.Group.List
import Mathlib.Tactic.Positivity

/-!
# `EtcdClient.WaitForConnection`: capped exponential backoff

`WaitForConnection` calls `syncClient` until it succeeds. After a failure it sleeps for
`waitDelay`, doubles it and caps it at `maxWaitDelay`. `time.Duration` is Go's `int64`, so
`waitDelay * 2` wraps around and the cap is a signed comparison; the model uses `BitVec 64` with
`toInt` for both. `initialWaitDelay` and `maxWaitDelay` are constants of the package that are
not part of this file, so they are parameters.

The loop never gives up, so the model runs on fuel: `waitForConnection ... fuel` is `none` when
the fuel runs out first. The outcomes of the successive `syncClient` calls are a sequence; the
error value only chooses the log line, which is not modelled.

* `waitDelays_toInt`: while `maxWaitDelay < 2^62`, the `k`-th delay is
  `min (initialWaitDelay * 2^k) maxWaitDelay` and the doubling never overflows.
* `waitForConnection_backoff`: after `N` failures and a success, with any fuel above `N`,
  the run is `N` rounds of a call and a sleep for those delays, then the successful call.
* `waitForConnection_returns_iff`: the loop returns exactly when a call succeeds, so it never
  gives up while `syncClient` keeps failing.
* `waitForConnection_overflows`: at `maxWaitDelay = 2^62` the doubling does overflow.
-/

namespace SpreedSignaling

/-- `time.Duration`: a signed 64-bit count of nanoseconds. -/
abbrev Duration := BitVec 64

/-- What `WaitForConnection` does, in order. -/
inductive WaitStep where
  /-- A call of `syncClient`. -/
  | sync
  /-- `time.Sleep(d)`. -/
  | sleep (d : Duration)
  deriving DecidableEq, Repr

/-- The delay after a failed attempt: `waitDelay * 2`, set to `maxWaitDelay` when it is
greater. -/
def nextWaitDelay (maxWaitDelay waitDelay : Duration) : Duration :=
  let waitDelay := waitDelay * 2
  if waitDelay.toInt > maxWaitDelay.toInt then maxWaitDelay else waitDelay

/-- The retry loop from the `n`-th call of `syncClient`, whose outcomes are given, with the
current `waitDelay` and at most `fuel` iterations. -/
def waitLoop {E : Type} (maxWaitDelay : Duration) (syncClient : Nat → Option E) :
    Nat → Nat → Duration → Option (List WaitStep)
  | 0, _, _ => none
  | fuel + 1, n, waitDelay =>
    match syncClient n with
    | some _ =>
      (waitLoop maxWaitDelay syncClient fuel (n + 1) (nextWaitDelay maxWaitDelay waitDelay)).map
        (.sync :: .sleep waitDelay :: ·)
    | none => some [.sync]

/-- `WaitForConnection`, with at most `fuel` iterations. -/
def waitForConnection {E : Type} (initialWaitDelay maxWaitDelay : Duration)
    (syncClient : Nat → Option E) (fuel : Nat) : Option (List WaitStep) :=
  waitLoop maxWaitDelay syncClient fuel 0 initialWaitDelay

/-- The value of `waitDelay` in the `k`-th iteration. -/
def waitDelays (initialWaitDelay maxWaitDelay : Duration) : Nat → Duration
  | 0 => initialWaitDelay
  | k + 1 => nextWaitDelay maxWaitDelay (waitDelays initialWaitDelay maxWaitDelay k)

/-- A run that sleeps for `delays` between failed calls and ends with a successful one. -/
def backoffTrace (delays : List Duration) : List WaitStep :=
  delays.flatMap (fun d => [.sync, .sleep d]) ++ [.sync]

/-- The time a step sleeps. -/
def sleepTime : WaitStep → Int
  | .sync => 0
  | .sleep d => d.toInt

/-- The total time a run sleeps. -/
def totalDelay (steps : List WaitStep) : Int := (steps.map sleepTime).sum

/-! ### The delays -/

section Delays

variable {initialWaitDelay maxWaitDelay : Duration}

/-- Doubling a positive delay below `2^62` does not overflow. -/
theorem toInt_mul_two {d : Duration} (h0 : 0 < d.toInt) (h1 : d.toInt < 2 ^ 62) :
    (d * 2).toInt = d.toInt * 2 := by
  rw [BitVec.toInt_mul, show (2 : Duration).toInt = 2 from rfl]
  simp only [Int.bmod]
  omega

/-- **Delays.** While `0 < initialWaitDelay ≤ maxWaitDelay < 2^62`, the `k`-th delay is
`min (initialWaitDelay * 2^k) maxWaitDelay` and its doubling does not overflow. -/
theorem waitDelays_toInt (hinit : 0 < initialWaitDelay.toInt)
    (hle : initialWaitDelay.toInt ≤ maxWaitDelay.toInt) (hmax : maxWaitDelay.toInt < 2 ^ 62) :
    ∀ k, (waitDelays initialWaitDelay maxWaitDelay k).toInt =
        min (initialWaitDelay.toInt * 2 ^ k) maxWaitDelay.toInt ∧
      (waitDelays initialWaitDelay maxWaitDelay k * 2).toInt =
        (waitDelays initialWaitDelay maxWaitDelay k).toInt * 2
  | 0 => by
    refine ⟨by simp [waitDelays, hle], toInt_mul_two hinit (by simp only [waitDelays]; omega)⟩
  | k + 1 => by
    obtain ⟨hk, hmul⟩ := waitDelays_toInt hinit hle hmax k
    have hpos : 0 < initialWaitDelay.toInt * 2 ^ k := Int.mul_pos hinit (by positivity)
    have hpow : initialWaitDelay.toInt * 2 ^ (k + 1) = initialWaitDelay.toInt * 2 ^ k * 2 := by
      rw [pow_succ, mul_assoc]
    have hnext : (waitDelays initialWaitDelay maxWaitDelay (k + 1)).toInt =
        min (initialWaitDelay.toInt * 2 ^ (k + 1)) maxWaitDelay.toInt := by
      simp only [waitDelays, nextWaitDelay, hmul, hk, hpow]
      split_ifs <;> omega
    exact ⟨hnext, toInt_mul_two (by omega) (by omega)⟩

end Delays

/-! ### The loop -/

theorem totalDelay_backoffTrace (delays : List Duration) :
    totalDelay (backoffTrace delays) = (delays.map BitVec.toInt).sum := by
  induction delays with
  | nil => simp [totalDelay, backoffTrace, sleepTime]
  | cons d ds ih =>
    simp only [totalDelay, backoffTrace, List.flatMap_cons, List.cons_append, List.map_cons,
      List.sum_cons, sleepTime, List.nil_append] at ih ⊢
    rw [ih]
    omega

/-- From the `j`-th iteration, `m` failures and a success make `m` rounds of a call and a
sleep for the delays of iterations `j` to `j + m - 1`, then the successful call. -/
theorem waitLoop_eq {E : Type} (initialWaitDelay maxWaitDelay : Duration)
    (syncClient : Nat → Option E) :
    ∀ (m j fuel : Nat), (∀ k, j ≤ k → k < j + m → (syncClient k).isSome) →
      syncClient (j + m) = none → m < fuel →
      waitLoop maxWaitDelay syncClient fuel j (waitDelays initialWaitDelay maxWaitDelay j) =
        some (backoffTrace ((List.range' j m).map (waitDelays initialWaitDelay maxWaitDelay)))
  | _, _, 0, _, _, hfuel => absurd hfuel (Nat.not_lt_zero _)
  | 0, j, fuel + 1, _, hok, _ => by
    rw [Nat.add_zero] at hok
    simp [waitLoop, hok, backoffTrace]
  | m + 1, j, fuel + 1, hfail, hok, hfuel => by
    obtain ⟨err, herr⟩ := Option.isSome_iff_exists.mp (hfail j le_rfl (by omega))
    have ih := waitLoop_eq initialWaitDelay maxWaitDelay syncClient m (j + 1) fuel
      (fun k hk hk' => hfail k (by omega) (by omega)) (by rw [← hok]; congr 1; omega) (by omega)
    have hnext : nextWaitDelay maxWaitDelay (waitDelays initialWaitDelay maxWaitDelay j) =
        waitDelays initialWaitDelay maxWaitDelay (j + 1) := rfl
    simp only [waitLoop, herr, hnext, ih, Option.map_some', backoffTrace,
      List.range'_succ, List.map_cons, List.flatMap_cons, List.cons_append, List.nil_append]

/-- **Capped exponential backoff.** Let `0 < initialWaitDelay ≤ maxWaitDelay < 2^62`. If
`syncClient` fails `N` times and then succeeds, `WaitForConnection` with any fuel above `N` calls
it `N + 1` times and returns after the success; the `k`-th of its `N` sleeps lasts
`min (initialWaitDelay * 2^k) maxWaitDelay`, so it sleeps the sum of those delays in total, and
the doubling of the delay never overflows. -/
theorem waitForConnection_backoff {E : Type} (initialWaitDelay maxWaitDelay : Duration)
    (syncClient : Nat → Option E) (N fuel : Nat) (hinit : 0 < initialWaitDelay.toInt)
    (hle : initialWaitDelay.toInt ≤ maxWaitDelay.toInt) (hmax : maxWaitDelay.toInt < 2 ^ 62)
    (hfail : ∀ k < N, (syncClient k).isSome) (hok : syncClient N = none) (hfuel : N < fuel) :
    let delay := fun k : Nat => min (initialWaitDelay.toInt * 2 ^ k) maxWaitDelay.toInt
    ∃ steps, waitForConnection initialWaitDelay maxWaitDelay syncClient fuel = some steps ∧
      steps = backoffTrace ((List.range N).map fun k => BitVec.ofInt 64 (delay k)) ∧
      totalDelay steps = ((List.range N).map delay).sum ∧
      ∀ k, (waitDelays initialWaitDelay maxWaitDelay k * 2).toInt =
        (waitDelays initialWaitDelay maxWaitDelay k).toInt * 2 := by
  intro delay
  have hdelays := waitDelays_toInt hinit hle hmax
  have hofInt : waitDelays initialWaitDelay maxWaitDelay = fun k => BitVec.ofInt 64 (delay k) :=
    funext fun k => BitVec.eq_of_toInt_eq (by
      have hpos : 0 < initialWaitDelay.toInt * 2 ^ k := Int.mul_pos hinit (by positivity)
      rw [BitVec.toInt_ofInt, (hdelays k).1]
      simp only [delay, Int.bmod]
      omega)
  have hrun := waitLoop_eq initialWaitDelay maxWaitDelay syncClient N 0 fuel
    (fun k _ hk => hfail k (by omega)) (by simpa using hok) hfuel
  refine ⟨_, hrun, ?_, ?_, fun k => (hdelays k).2⟩
  · rw [hofInt, List.range_eq_range']
  · rw [totalDelay_backoffTrace, ← List.range_eq_range', List.map_map]
    exact congrArg List.sum (List.map_congr_left fun k _ => (hdelays k).1)

/-- From the `n`-th call, the loop returns within `fuel` iterations exactly when one of the next
`fuel` calls succeeds, whatever the delays. -/
theorem waitLoop_isSome_iff {E : Type} (maxWaitDelay : Duration) (syncClient : Nat → Option E) :
    ∀ (fuel n : Nat) (waitDelay : Duration),
      (waitLoop maxWaitDelay syncClient fuel n waitDelay).isSome ↔
        ∃ k < fuel, syncClient (n + k) = none
  | 0, _, _ => by simp [waitLoop]
  | fuel + 1, n, waitDelay => by
    cases h : syncClient n with
    | none => simpa [waitLoop, h] using ⟨0, Nat.succ_pos fuel, h⟩
    | some err =>
      simp only [waitLoop, h, Option.isSome_map', waitLoop_isSome_iff _ _ fuel (n + 1)]
      constructor
      · rintro ⟨k, hk, hs⟩
        exact ⟨k + 1, by omega, by rwa [← Nat.add_assoc, Nat.add_right_comm]⟩
      · rintro ⟨_ | k, hk, hs⟩
        · simp [h] at hs
        · exact ⟨k, by omega, by rwa [Nat.add_right_comm, Nat.add_assoc]⟩

/-- **`WaitForConnection` never gives up.** Whatever the delays, `WaitForConnection` returns
within `fuel` iterations exactly when one of the first `fuel` calls of `syncClient` succeeds:
it stops at a success and at nothing else. -/
theorem waitForConnection_returns_iff {E : Type} (initialWaitDelay maxWaitDelay : Duration)
    (syncClient : Nat → Option E) (fuel : Nat) :
    (waitForConnection initialWaitDelay maxWaitDelay syncClient fuel).isSome ↔
      ∃ k < fuel, syncClient k = none := by
  simpa using waitLoop_isSome_iff maxWaitDelay syncClient fuel 0 initialWaitDelay

/-- One second doubled up to eight seconds: three failures sleep 1 s, 2 s and 4 s. -/
theorem waitForConnection_backoff_sample :
    waitForConnection (BitVec.ofInt 64 1000000000) (BitVec.ofInt 64 8000000000)
        (fun n => if n < 3 then some () else none) 4 =
      some (backoffTrace [BitVec.ofInt 64 1000000000, BitVec.ofInt 64 2000000000,
        BitVec.ofInt 64 4000000000]) := by
  obtain ⟨steps, hrun, rfl, -, -⟩ := waitForConnection_backoff (BitVec.ofInt 64 1000000000)
    (BitVec.ofInt 64 8000000000) (fun n => if n < 3 then some () else none) 3 4
    (by decide) (by decide) (by decide) (by decide) (by decide) (by decide)
  rw [hrun]
  decide

/-- **Overflow at the bound `2^62`.** With `initialWaitDelay = maxWaitDelay = 2^62` and two
failures, the second sleep is `-2^63` nanoseconds, where the capped doubling would give
`2^62`: `2^62 * 2` wraps around, and the wrapped delay is not above the cap. -/
theorem waitForConnection_overflows :
    waitForConnection (BitVec.ofInt 64 (2 ^ 62)) (BitVec.ofInt 64 (2 ^ 62))
        (fun n => if n < 2 then some () else none) 3 =
      some [.sync, .sleep (BitVec.ofInt 64 (2 ^ 62)), .sync, .sleep (BitVec.ofInt 64 (-2 ^ 63)),
        .sync] ∧
    (BitVec.ofInt 64 (-2 ^ 63)).toInt ≠ min ((BitVec.ofInt 64 (2 ^ 62)).toInt * 2 ^ 1)
      (BitVec.ofInt 64 (2 ^ 62)).toInt := by
  decide

end SpreedSignaling
