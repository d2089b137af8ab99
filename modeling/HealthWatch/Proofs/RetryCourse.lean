import HealthWatch.Service.Checked

/-!
# The course of a run of attempts

A run of attempts is settled by the first attempt that ends it (`EndsAt`): one that succeeds,
one whose error is not worth another attempt, or the last one allowed.  Every attempt before
it fails, and is followed by a rest.

`course` writes down a run up to the attempt that ends it, and `attempts_eq_course` says that
this is what is done.  The induction is on the attempts that are left, and what it carries is
the instant at which the next one begins (`begun`).  `run_course` is the course of a whole run.

A rest lasts as long as the pause, but never longer than `longestRest`, so a run with a pause
beyond that is over before its calls and pauses add up (`long_pause_cut`).
-/

namespace HealthWatch.RetryPolicy

variable {ε α : Type}

/-- How long the first `i` calls take together. -/
def spent (operation : Nat → Answer ε α) : Nat → Nat
  | 0 => 0
  | i + 1 => spent operation i + (operation (i + 1)).wait

variable (p : RetryPolicy) (operation : Nat → Answer ε α) (hook : Instant → ε → Decision)
  (text : ε → String) (start : Instant)

/-- When attempt `i` ends in a run that gets so far. -/
def ended (i : Nat) : Instant := start + spent operation i + (i - 1) * p.rest

/-- When attempt `i` begins in a run that gets so far. -/
def begun (i : Nat) : Instant := start + spent operation (i - 1) + (i - 1) * p.rest

theorem begun_one : p.begun operation start 1 = start := by simp [begun, spent]

theorem ended_eq {i : Nat} (hi : 1 ≤ i) :
    p.ended operation start i = p.begun operation start i + (operation i).wait := by
  obtain ⟨j, rfl⟩ := Nat.exists_eq_add_of_le' hi
  simp only [ended, begun, spent, Nat.add_sub_cancel]
  ac_rfl

theorem begun_succ {i : Nat} (hi : 1 ≤ i) :
    p.begun operation start (i + 1) = p.ended operation start i + p.rest := by
  obtain ⟨j, rfl⟩ := Nat.exists_eq_add_of_le' hi
  simp only [ended, begun, Nat.add_sub_cancel, Nat.succ_mul]
  ac_rfl

/-- Attempt `i` ends a run: it succeeds, or its error is not worth another attempt, or it is
the last one allowed. -/
def EndsAt (i : Nat) : Prop :=
  match (operation i).outcome with
  | .ok _ => True
  | .error e => hook (p.ended operation start i) e = .giveUp ∨ i = p.maxAttempts

/-- Attempt `k` is the first that ends a run. -/
structure EndsFirstAt (k : Nat) : Prop where
  one_le : 1 ≤ k
  ends : p.EndsAt operation hook start k
  goes : ∀ i, 1 ≤ i → i < k → ¬ p.EndsAt operation hook start i

/-- What is told of a failed attempt that another one follows. -/
def retryTold (i : Nat) : List (Instant × RetryEvent) :=
  match (operation i).outcome with
  | .ok _ => []
  | .error e => [(p.ended operation start i, .retrying i (text e) (.ofMillis p.pause))]

/-- What is told of the attempt that ends a run. -/
def lastTold (i : Nat) : List (Instant × RetryEvent) :=
  match (operation i).outcome with
  | .ok _ => []
  | .error e =>
    [(p.ended operation start i,
      match hook (p.ended operation start i) e with
      | .giveUp => .nonRetryable (text e)
      | .retry => .exhausted i (text e))]

/-- The error of an attempt, and when it came. -/
def failure (i : Nat) : List (Instant × ε) :=
  match (operation i).outcome with
  | .ok _ => []
  | .error e => [(p.ended operation start i, e)]

/-- A run from attempt `i` on that attempt `i + more` ends. -/
def course (i more : Nat) : Trace ε α where
  calls := (List.range' i (more + 1)).map (p.begun operation start)
  decided := (List.range' i (more + 1)).flatMap (p.failure operation start)
  events := (List.range' i more).flatMap (p.retryTold operation text start) ++
    p.lastTold operation hook text start (i + more)
  finished := p.ended operation start (i + more)
  outcome := (operation (i + more)).outcome

/-- An attempt before the one that ends the run comes before the rest of its course. -/
theorem course_succ (i more : Nat) :
    let rest := p.course operation hook text start (i + 1) more
    p.course operation hook text start i (more + 1) =
      ⟨p.begun operation start i :: rest.calls,
        p.failure operation start i ++ rest.decided,
        p.retryTold operation text start i ++ rest.events, rest.finished, rest.outcome⟩ := by
  have hlast : i + (more + 1) = i + 1 + more := by omega
  simp only [course, hlast, List.range'_succ (s := i), List.map_cons, List.flatMap_cons,
    List.append_assoc]

/-- An attempt that ends the run is all of the rest of it. -/
theorem attempts_last {left i : Nat} {now : Instant} (hi : 1 ≤ i)
    (hnow : now = p.begun operation start i) (hleft : i + left = p.maxAttempts)
    (hends : p.EndsAt operation hook start i) :
    p.attempts operation hook text left i now = p.course operation hook text start i 0 := by
  have hended : now + (operation i).wait = p.ended operation start i := by
    rw [hnow, p.ended_eq operation start hi]
  cases houtcome : (operation i).outcome with
  | ok value =>
      cases left <;> simp [attempts, course, failure, lastTold, houtcome, hended, ← hnow]
  | error e =>
      cases hdecision : hook (p.ended operation start i) e with
      | giveUp =>
          cases left <;> simp [attempts, course, failure, lastTold, afterFailure, houtcome,
            hended, hdecision, ← hnow]
      | retry =>
          simp only [EndsAt, houtcome, hdecision, reduceCtorEq, false_or] at hends
          obtain rfl : left = 0 := by omega
          simp [attempts, course, failure, lastTold, afterFailure, houtcome, hended, hdecision,
            ← hnow, ← hends]

/-- An attempt that does not end the run fails, and the next one begins after a rest. -/
theorem attempts_next {left i : Nat} {now : Instant} (hi : 1 ≤ i)
    (hnow : now = p.begun operation start i) (hleft : i + (left + 1) = p.maxAttempts)
    (hgoes : ¬ p.EndsAt operation hook start i) :
    let rest := p.attempts operation hook text left (i + 1) (p.begun operation start (i + 1))
    p.attempts operation hook text (left + 1) i now =
      ⟨now :: rest.calls, p.failure operation start i ++ rest.decided,
        p.retryTold operation text start i ++ rest.events, rest.finished, rest.outcome⟩ := by
  have hended : now + (operation i).wait = p.ended operation start i := by
    rw [hnow, p.ended_eq operation start hi]
  have hmore : ¬ p.maxAttempts ≤ i := by omega
  cases houtcome : (operation i).outcome with
  | ok value => simp [EndsAt, houtcome] at hgoes
  | error e =>
      cases hdecision : hook (p.ended operation start i) e with
      | giveUp => simp [EndsAt, houtcome, hdecision] at hgoes
      | retry =>
          simp [attempts, failure, retryTold, afterFailure, houtcome, hended, hdecision, hmore,
            p.begun_succ operation start hi]

/-- The attempts from `i` on take the course that ends with the first of them that ends the
run. -/
theorem attempts_eq_course {left i : Nat} {now : Instant} (hi : 1 ≤ i)
    (hnow : now = p.begun operation start i) (hleft : i + left = p.maxAttempts) :
    ∃ more, more ≤ left ∧ p.EndsAt operation hook start (i + more) ∧
      (∀ j, i ≤ j → j < i + more → ¬ p.EndsAt operation hook start j) ∧
      p.attempts operation hook text left i now =
        p.course operation hook text start i more := by
  induction left generalizing i now with
  | zero =>
      have hends : p.EndsAt operation hook start i := by
        unfold EndsAt
        split
        · trivial
        · exact .inr hleft
      exact ⟨0, Nat.le_refl _, hends, fun j hj hlt => absurd hj (Nat.not_le_of_lt hlt),
        p.attempts_last operation hook text start hi hnow hleft hends⟩
  | succ left ih =>
      by_cases hends : p.EndsAt operation hook start i
      · exact ⟨0, Nat.zero_le _, hends, fun j hj hlt => absurd hj (Nat.not_le_of_lt hlt),
          p.attempts_last operation hook text start hi hnow hleft hends⟩
      · obtain ⟨more, hle, hlast, hbefore, heq⟩ :=
          ih (i := i + 1) (by omega) rfl (by omega)
        have hsucc : i + 1 + more = i + (more + 1) := by omega
        refine ⟨more + 1, by omega, hsucc ▸ hlast, fun j hj hlt => ?_, ?_⟩
        · obtain rfl | hlt' := Nat.eq_or_lt_of_le hj
          · exact hends
          · exact hbefore j hlt' (hsucc ▸ hlt)
        · rw [p.attempts_next operation hook text start hi hnow hleft hends, heq,
            p.course_succ operation hook text start, hnow]

/-- **The course of a run.**  A policy of `n` attempts, of which none counts as one, makes
attempts up to the first that succeeds, or fails with an error that is not worth another
attempt, or is the last one allowed.  The run answers what that attempt answers, and it ends
when the calls up to then and one rest between every two of them are over.  Each failure is
decided on once, when it comes, and no success is.  Each failure but the last is told as one
that another attempt follows, and the last one as not worth it or as the end of the attempts.
No attempt has a number that a machine has not. -/
theorem run_course (n : UInt32) (pause : Nat) :
    ∃ k, k ≤ max n.toNat 1 ∧ (of n.toNat pause).EndsFirstAt operation hook start k ∧
      let p := of n.toNat pause
      p.run operation hook text start =
        { calls := (List.range' 1 k).map (p.begun operation start)
          decided := (List.range' 1 k).flatMap (p.failure operation start)
          events := (List.range' 1 (k - 1)).flatMap (p.retryTold operation text start) ++
            p.lastTold operation hook text start k
          finished := start + spent operation k + (k - 1) * min pause longestRest
          outcome := (operation k).outcome } ∧
      ∀ i, i < k → next? i = some (i + 1) := by
  let p := of n.toNat pause
  have hmost : p.maxAttempts = max n.toNat 1 := rfl
  have hall : 1 + (p.maxAttempts - 1) = p.maxAttempts := Nat.add_sub_of_le p.maxAttempts_pos
  obtain ⟨more, hle, hends, hfirst, heq⟩ :=
    p.attempts_eq_course operation hook text start (Nat.le_refl 1)
      (p.begun_one operation start).symm hall
  rw [Nat.add_comm 1 more] at hends hfirst
  have hn : max n.toNat 1 < Nat.pow 2 32 := Nat.max_lt.mpr ⟨n.toNat_lt, by decide⟩
  refine ⟨more + 1, by omega, ⟨Nat.le_add_left _ _, hends, hfirst⟩, ?_, fun i hi => ?_⟩
  · rw [run, heq, course, Nat.add_comm 1 more]
    rfl
  · exact if_pos (by omega)

/-- No rest follows the last attempt. -/
example : ((RetryPolicy.of 3 2000).run (fun _ => (⟨0, .error "down"⟩ : Answer String Unit))
    (fun _ _ => .retry) id 0).finished = 4000 := by decide

/-- An operation that fails after sixteen years, and succeeds when it is called again. -/
def patient : Nat → Answer String Nat :=
  scripted [⟨500000000000, .error "a"⟩, ⟨0, .ok 1⟩] ⟨0, .ok 0⟩

/-- A pause of more than thirty years is over after thirty. -/
theorem long_pause_cut :
    let t := (RetryPolicy.of 2 1000000000000).run patient (fun _ _ => .retry) id 0
    t.calls = [0, 1446080000000] ∧ t.outcome = .ok 1 ∧
      t.finished ≠ 0 + spent patient 2 + (2 - 1) * 1000000000000 := by
  refine ⟨by decide, rfl, by decide⟩

end HealthWatch.RetryPolicy
