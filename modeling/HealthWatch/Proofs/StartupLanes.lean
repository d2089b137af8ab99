import HealthWatch.Startup
import Mathlib.Data.List.Chain

/-!
# The attempts of one dependency

A dependency that is being connected makes its attempts one after another: the first at
the beginning, and each later one after a failed answer and a pause (`InTurn`).  It makes
the last when it is answered without an error or when no more are allowed.

`Lane.Course` says how far a lane has come after the attempts that it has made.  A lane
that moves when it has something to do stays on its course, with one more attempt if it
begins one (`Lane.Course.move`).
-/

namespace HealthWatch.Startup

/-- An attempt to connect: when it begins, and how it is going to be answered. -/
structure Attempt where
  time : Instant
  reply : Reply Unit

namespace Attempt

/-- The call that the attempt makes. -/
def call (a : Attempt) : Call Unit := a.reply.unbounded a.time

/-- Whether the attempt is answered without an error. -/
def succeeded (a : Attempt) : Bool :=
  match a.reply with
  | .after _ (.ok _) => true
  | _ => false

/-- The second attempt follows the failed first one after a pause. -/
def FollowedBy (pause : Nat) (a b : Attempt) : Prop :=
  ∃ wait error, a.reply = .after wait (.error error) ∧ b.time = a.time + wait + pause

/-- An attempt that is answered has succeeded, or may be followed by another one. -/
theorem answered {a : Attempt} {ends : Instant} (h : a.call.ends = some ends) :
    (a.call.outcome = .ok () ∧ a.succeeded = true) ∨
      ∃ error, a.call.outcome = .error error ∧ a.succeeded = false ∧
        ∀ pause reply, FollowedBy pause a ⟨ends + pause, reply⟩ := by
  obtain ⟨time, reply⟩ := a
  cases reply with
  | never => cases h
  | after wait outcome =>
      cases h
      cases outcome with
      | ok value => exact .inl ⟨rfl, rfl⟩
      | error error => exact .inr ⟨error, rfl, rfl, fun pause reply => ⟨wait, error, rfl, rfl⟩⟩

/-- No call ends before it begins. -/
theorem le_ends {a : Attempt} {ends : Instant} (h : a.call.ends = some ends) :
    a.time ≤ ends := by
  obtain ⟨time, reply⟩ := a
  cases reply with
  | never => cases h
  | after wait outcome =>
      cases h
      exact Nat.le_add_right _ _

end Attempt

/-- Attempts that were made one after another, the first at `start`. -/
structure InTurn (start : Instant) (pause : Nat) (attempts : List Attempt) : Prop where
  first : ∀ a ∈ attempts.head?, a.time = start
  next : attempts.IsChain (Attempt.FollowedBy pause)

/-- A first attempt. -/
theorem InTurn.single (start : Instant) (pause : Nat) (reply : Reply Unit) :
    InTurn start pause [⟨start, reply⟩] where
  first a ha := by
    cases ha
    rfl
  next := .singleton _

/-- One more attempt. -/
theorem InTurn.snoc {start : Instant} {pause : Nat} {attempts : List Attempt} {a b : Attempt}
    (h : InTurn start pause (attempts ++ [a])) (hb : a.FollowedBy pause b) :
    InTurn start pause (attempts ++ [a] ++ [b]) where
  first x hx := by
    rw [List.head?_append_of_ne_nil _ (by simp)] at hx
    exact h.first x hx
  next := by
    refine List.isChain_append.mpr ⟨h.next, .singleton b, fun x hx y hy => ?_⟩
    rw [List.getLast?_concat] at hx
    cases hx
    cases hy
    exact hb

/-- When the last of these attempts is answered. -/
def lastEnd (attempts : List Attempt) : Option Instant := attempts.getLast?.bind (·.call.ends)

/-- Whether the last of these attempts is answered without an error. -/
def lastSucceeded (attempts : List Attempt) : Bool := attempts.getLast?.any (·.succeeded)

/-- All attempts but the last have failed. -/
theorem failed_of_chain {pause : Nat} {attempts : List Attempt} {a : Attempt}
    (h : (attempts ++ [a]).IsChain (Attempt.FollowedBy pause)) :
    ∀ b ∈ attempts, b.succeeded = false := by
  induction attempts with
  | nil => simp
  | cons b attempts ih =>
      obtain ⟨hhead, htail⟩ := List.isChain_cons.mp h
      refine List.forall_mem_cons.mpr ⟨?_, ih htail⟩
      obtain ⟨next, hnext⟩ : ∃ next, (attempts ++ [a]).head? = some next := by
        cases attempts <;> exact ⟨_, rfl⟩
      obtain ⟨wait, error, hreply, _⟩ := hhead next hnext
      simp [Attempt.succeeded, hreply]

/-- **How many attempts there are.**  If the last of them succeeded or was the last one
allowed, their number is that of the first success, or as many as are allowed if that is
less. -/
theorem InTurn.length_eq {start : Instant} {pause most : Nat} {attempts : List Attempt}
    {a : Attempt} (h : InTurn start pause (attempts ++ [a])) (hmore : attempts.length < most)
    (hlast : a.succeeded = false → attempts.length + 1 = most) :
    (attempts ++ [a]).length = min ((attempts ++ [a]).findIdx (·.succeeded) + 1) most := by
  have hnone : attempts.findIdx (·.succeeded) = attempts.length :=
    List.findIdx_eq_length.mpr (failed_of_chain h.next)
  rw [List.findIdx_append, hnone, if_neg (Nat.lt_irrefl _), List.length_append]
  cases hsucceeded : a.succeeded with
  | true =>
      simp [List.findIdx_cons, hsucceeded]
      omega
  | false =>
      have hall := hlast hsucceeded
      simp [List.findIdx_cons, hsucceeded]
      omega

variable {δ Env : Type}

/-- A lane that began at `start` and has made these attempts, at a time at which it is not
late. -/
inductive Lane.Course (start now : Instant) (l : Lane δ) : List Attempt → Prop
  | due {attempts : List Attempt} {time : Instant}
      (hstage : l.stage = .due (attempts.length + 1) time) (hnow : now ≤ time)
      (hmore : attempts.length < l.policy.maxAttempts)
      (hturn : ∀ reply, InTurn start l.policy.rest (attempts ++ [⟨time, reply⟩])) :
      Lane.Course start now l attempts
  | calling {attempts : List Attempt} {a : Attempt}
      (hstage : l.stage = .calling (attempts.length + 1) a.call)
      (hnow : ∀ ends, a.call.ends = some ends → now ≤ ends)
      (hmore : attempts.length < l.policy.maxAttempts)
      (hturn : InTurn start l.policy.rest (attempts ++ [a])) :
      Lane.Course start now l (attempts ++ [a])
  | settled {attempts : List Attempt} {a : Attempt} {ends : Instant}
      (hstage : l.stage = .settled a.succeeded) (hends : a.call.ends = some ends)
      (hnow : ends ≤ now) (hmore : attempts.length < l.policy.maxAttempts)
      (hlast : a.succeeded = false → attempts.length + 1 = l.policy.maxAttempts)
      (hturn : InTurn start l.policy.rest (attempts ++ [a])) :
      Lane.Course start now l (attempts ++ [a])

variable [Dependency δ Env] {start now time : Instant} {l : Lane δ} {attempts : List Attempt}

/-- The attempt that a lane begins if it moves. -/
def Lane.attempt? (l : Lane δ) (now : Instant) (env : Env) : Option Attempt :=
  match l.stage with
  | .due .. => some ⟨now, (l.handle.connect now env).1⟩
  | _ => none

/-- A lane that begins. -/
theorem Lane.Course.begin (now : Instant) (name : String) (dependency : δ)
    (c : DependencyConfig) : (laneOf now name dependency c).Course now now [] :=
  .due rfl (Nat.le_refl _) (laneOf now name dependency c).policy.maxAttempts_pos
    fun reply => .single now _ reply

omit [Dependency δ Env] in
/-- A lane that does not move stays on its course as long as it is not late. -/
theorem Lane.Course.wait (h : l.Course start now attempts) (hle : now ≤ time)
    (hwake : ∀ w, l.wake = some w → time ≤ w) : l.Course start time attempts := by
  cases h with
  | due hstage hnow hmore hturn =>
      exact .due hstage (hwake _ (by simp [wake, hstage])) hmore hturn
  | calling hstage hnow hmore hturn =>
      exact .calling hstage (fun ends hends => hwake _ (by simp [wake, hstage, hends])) hmore hturn
  | settled hstage hends hnow hmore hlast hturn =>
      exact .settled hstage hends (Nat.le_trans hnow hle) hmore hlast hturn

/-- **One move.**  A lane that moves when it has something to do stays on its course, with
one more attempt if it begins one. -/
theorem Lane.Course.move (h : l.Course start now attempts) (hwake : l.wake = some time)
    (env : Env) :
    (l.move time env).1.Course start time (attempts ++ (l.attempt? time env).toList) := by
  cases h with
  | @due _ begins hstage hnow hmore hturn =>
      obtain rfl : begins = time := by simpa [wake, hstage] using hwake
      have hattempt : (l.attempt? begins env).toList =
          [⟨begins, (l.handle.connect begins env).1⟩] := by
        simp [attempt?, hstage]
      rw [hattempt]
      refine .calling (by simp [Lane.move, hstage, Attempt.call]) ?_ ?_ ?_
      · exact fun ends hends => Attempt.le_ends hends
      · simpa [Lane.move, hstage] using hmore
      · simpa [Lane.move, hstage] using hturn _
  | @calling before a hstage hnow hmore hturn =>
      have hends : a.call.ends = some time := by simpa [wake, hstage] using hwake
      have hattempt : (l.attempt? time env).toList = [] := by simp [attempt?, hstage]
      rw [hattempt, List.append_nil]
      rcases Attempt.answered hends with ⟨hok, hsucceeded⟩ | ⟨e, herror, hfailed, hfollows⟩
      · refine .settled ?_ hends (Nat.le_refl _) ?_ ?_ ?_
        · simp [Lane.move, hstage, answered, hok, hsucceeded]
        · simpa [Lane.move, hstage] using hmore
        · simp [hsucceeded]
        · simpa [Lane.move, hstage] using hturn
      · by_cases hlast : l.policy.maxAttempts ≤ before.length + 1
        · have hall : before.length + 1 = l.policy.maxAttempts := Nat.le_antisymm hmore hlast
          refine .settled ?_ hends (Nat.le_refl _) ?_ ?_ ?_
          · simp [Lane.move, hstage, answered, herror, hfailed, RetryPolicy.afterFailure, hlast]
          · simpa [Lane.move, hstage] using hmore
          · simpa [Lane.move, hstage] using fun _ => hall
          · simpa [Lane.move, hstage] using hturn
        · have hdue : (l.move time env).1.stage =
              .due (before.length + 1 + 1) (time + l.policy.rest) := by
            simp [Lane.move, hstage, answered, herror, RetryPolicy.afterFailure, hlast]
          refine .due (by simpa using hdue) (Nat.le_add_right _ _) ?_ fun reply => ?_
          · simpa [Lane.move, hstage] using Nat.lt_of_not_le hlast
          · simpa [Lane.move, hstage] using hturn.snoc (hfollows _ reply)
  | settled hstage => simp [wake, hstage] at hwake

/-- A lane that a move settles has its last answer then. -/
theorem Lane.Course.move_ends (h : l.Course start now attempts) (hwake : l.wake = some time)
    (env : Env) (hsettled : (l.move time env).1.isSettled = true) :
    lastEnd (attempts ++ (l.attempt? time env).toList) = some time := by
  cases h with
  | due hstage => simp [Lane.move, isSettled, hstage] at hsettled
  | @calling before a hstage =>
      have hends : a.call.ends = some time := by simpa [wake, hstage] using hwake
      simpa [lastEnd, attempt?, hstage] using hends
  | settled hstage => simp [wake, hstage] at hwake

/-- What a move leaves alone, and the calls that it counts. -/
theorem Lane.move_spec (l : Lane δ) (time : Instant) (env : Env) :
    (l.move time env).1.name = l.name ∧ (l.move time env).1.policy = l.policy ∧
      (l.move time env).1.handle.tally.checks =
        l.handle.tally.checks + (l.attempt? time env).toList.length := by
  cases hstage : l.stage <;>
    simp [Lane.move, attempt?, hstage, Handle.connect, Handle.leave, Tally.leave]

/-- A lane that has something to do has less to do when it has moved. -/
theorem Lane.movesLeft_move_lt (hwake : l.wake = some time) (now : Instant) (env : Env) :
    (l.move now env).1.movesLeft < l.movesLeft := by
  cases hstage : l.stage with
  | due attempt begins => simp [Lane.move, movesLeft, hstage]
  | calling attempt call =>
      cases houtcome : call.outcome with
      | ok value => simp [Lane.move, answered, movesLeft, hstage, houtcome]
      | error e =>
          by_cases hlast : l.policy.maxAttempts ≤ attempt
          · simp [Lane.move, answered, movesLeft, hstage, houtcome, RetryPolicy.afterFailure, hlast]
          · simp [Lane.move, answered, movesLeft, hstage, houtcome, RetryPolicy.afterFailure, hlast]
            omega
  | settled connected => simp [wake, hstage] at hwake

omit [Dependency δ Env] in
/-- A lane on its course is never late. -/
theorem Lane.Course.le_wake (h : l.Course start now attempts) (hwake : l.wake = some time) :
    now ≤ time := by
  cases h with
  | @due _ begins hstage hnow =>
      obtain rfl : begins = time := by simpa [wake, hstage] using hwake
      exact hnow
  | calling hstage hnow => exact hnow time (by simpa [wake, hstage] using hwake)
  | settled hstage => simp [wake, hstage] at hwake

omit [Dependency δ Env] in
/-- **A lane that has settled** has made all its attempts, and its last answer came. -/
theorem Lane.Course.settled_spec (h : l.Course start now attempts)
    (hsettled : l.isSettled = true) :
    InTurn start l.policy.rest attempts ∧
      attempts.length = min (attempts.findIdx (·.succeeded) + 1) l.policy.maxAttempts ∧
      l.isConnected = lastSucceeded attempts ∧ ∃ ends ≤ now, lastEnd attempts = some ends := by
  cases h with
  | due hstage => simp [isSettled, hstage] at hsettled
  | calling hstage => simp [isSettled, hstage] at hsettled
  | @settled before a ends hstage hends hnow hmore hlast hturn =>
      refine ⟨hturn, hturn.length_eq hmore hlast, ?_, ends, hnow, ?_⟩
      · simp [isConnected, lastSucceeded, hstage]
      · simpa [lastEnd] using hends

omit [Dependency δ Env] in
/-- A lane that has nothing to do and has not settled waits for an answer that never
comes. -/
theorem Lane.Course.never_of_wake (h : l.Course start now attempts) (hwake : l.wake = none)
    (hsettled : l.isSettled = false) : ∃ a ∈ attempts, a.reply = .never := by
  cases h with
  | due hstage => simp [wake, hstage] at hwake
  | @calling before a hstage =>
      refine ⟨a, List.mem_append_right _ List.mem_cons_self, ?_⟩
      have hends : a.call.ends = none := by simpa [wake, hstage] using hwake
      obtain ⟨time, reply⟩ := a
      cases reply with
      | never => rfl
      | after wait outcome => cases hends
  | settled hstage => simp [isSettled, hstage] at hsettled

end HealthWatch.Startup
