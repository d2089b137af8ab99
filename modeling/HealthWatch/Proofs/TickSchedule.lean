import HealthWatch.Proofs.TickerLoop
import HealthWatch.Proofs.TimeGoesOn
import Mathlib.Order.Interval.Set.Nat

/-!
# The ticker keeps its schedule

Of a loop that began at `start` and was not told to stop, the `k`-th cycle begins `k`
intervals after `start`, neither sooner nor later, and is completed before the next
one (`ticker_on_schedule`).  Nothing that happens beside the loop shifts this, be it
other requests, cycles that were asked for directly, or dependencies that never answer.

`OnTime.act` is what one action does to the schedule.  This file adds up the actions
of a run: `begun` and `completed` list the moments at which cycles begin and are
completed, and `Schedule` says how these lists and the clock fit together.
-/

namespace HealthWatch.Service

variable {δ Env : Type} {s : Service δ Env} {id : Nat}

/-! ## Moments in a row -/

/-- What holds of the moments of a list, which are numbered from the one after `n`. -/
def Numbered (P : Nat → Instant → Prop) (n : Nat) (l : List Instant) : Prop :=
  ∀ k time, l[k]? = some time → P (n + k + 1) time

theorem Numbered.nil (P : Nat → Instant → Prop) (n : Nat) : Numbered P n [] := by
  intro k time hk
  cases hk

theorem Numbered.singleton {P : Nat → Instant → Prop} {n : Nat} {time : Instant}
    (h : P (n + 1) time) : Numbered P n [time] := by
  intro k time' hk
  obtain ⟨rfl, rfl⟩ : k = 0 ∧ time = time' := by
    cases k with
    | zero => exact ⟨rfl, Option.some.inj hk⟩
    | succ k => cases hk
  exact h

theorem Numbered.append {P : Nat → Instant → Prop} {n : Nat} {l l' : List Instant}
    (h : Numbered P n l) (h' : Numbered P (n + l.length) l') : Numbered P n (l ++ l') := by
  intro k time hk
  by_cases hlt : k < l.length
  · rw [List.getElem?_append_left hlt] at hk
    exact h k time hk
  · have hle := Nat.le_of_not_lt hlt
    rw [List.getElem?_append_right hle] at hk
    have hnumber : n + l.length + (k - l.length) + 1 = n + k + 1 := by omega
    exact hnumber ▸ h' _ time hk

/-- The `k`-th cycle of a loop that began at `start` is due at this moment. -/
def BeginsAt (start : Instant) (interval k : Nat) (time : Instant) : Prop :=
  time = start + k * interval

/-- The `k`-th cycle of a loop that began at `start` is completed in time at this moment. -/
def CompletedAt (start : Instant) (interval bound k : Nat) (time : Instant) : Prop :=
  start + k * interval ≤ time ∧ time ≤ start + k * interval + bound

/-! ## What the clock says -/

/-- How the cycles of a loop that began at `start` fit together with the clock, if they
began and were completed at these moments. -/
structure Schedule (start : Instant) (interval bound : Nat) (now : Instant)
    (begun completed : List Instant) : Prop where
  begins_at : Numbered (BeginsAt start interval) 0 begun
  completed_at : Numbered (CompletedAt start interval bound) 0 completed
  one_in_flight : completed.length ≤ begun.length ∧ begun.length ≤ completed.length + 1
  none_early : ∀ k, 0 < k → k ≤ begun.length → start + k * interval ≤ now
  none_missed : ∀ k, start + k * interval < now → k ≤ begun.length
  none_late : ∀ k, start + k * interval + bound < now → k ≤ completed.length

/-- The clock cannot tell more cycles of a loop than `OnTime` counts. -/
theorem OnTime.clock {start : Instant} {b c : Nat} (h : OnTime start id s b c)
    (hinterval : s.ticker.interval ≠ 0) :
    (c ≤ b ∧ b ≤ c + 1) ∧ (∀ k, 0 < k → k ≤ b → start + k * s.ticker.interval ≤ s.now) ∧
      (∀ k, start + k * s.ticker.interval < s.now → k ≤ b) ∧
      ∀ k, start + k * s.ticker.interval + s.cycleBound < s.now → k ≤ c := by
  have hle : s.cycleBound < s.ticker.interval :=
    Nat.lt_of_le_of_lt (Nat.min_le_left _ _) (Nat.div_lt_self (by omega) (by omega))
  have hmono : ∀ {k m : Nat}, k ≤ m → k * s.ticker.interval ≤ m * s.ticker.interval :=
    fun h => Nat.mul_le_mul_right _ h
  have hcancel : ∀ {k m : Nat}, k * s.ticker.interval < (m + 1) * s.ticker.interval → k ≤ m :=
    fun h => Nat.le_of_lt_succ (Nat.lt_of_mul_lt_mul_right h)
  cases h with
  | starting hl hnow => exact ⟨by omega, by grind, by grind, by grind⟩
  | idle hl hfrom hto =>
      refine ⟨by omega, fun k _ hk => ?_, fun k hk => hcancel ?_, fun k hk => hcancel ?_⟩
      · have hk' := hmono hk
        grind
      · grind
      · grind
  | cycling hl hfrom hg =>
      have hto := hg.now_le
      refine ⟨by omega, fun k _ hk => ?_, fun k hk => hcancel ?_, fun k hk => hcancel ?_⟩
      · have hk' := hmono hk
        grind
      · have hnext : (c + 1 + 1) * s.ticker.interval =
            (c + 1) * s.ticker.interval + s.ticker.interval := Nat.succ_mul _ _
        grind
      · grind

theorem OnTime.exists_loop {start : Instant} {b c : Nat} (h : OnTime start id s b c) :
    ∃ l, s.loop? id = some l := by
  cases h with
  | starting hl => exact ⟨_, hl⟩
  | idle hl => exact ⟨_, hl⟩
  | cycling hl => exact ⟨_, hl⟩

/-- **Counting.**  By the clock alone, the number of completed cycles lies between that
of the ticks half an interval ago and that of all ticks. -/
theorem Schedule.length_completed {start now : Instant} {interval bound : Nat}
    {begun completed : List Instant}
    (h : Schedule start interval bound now begun completed) (hinterval : interval ≠ 0)
    (hbound : bound ≤ interval / 2) :
    {k : Nat | 0 < k ∧ start + k * interval + interval / 2 < now}.ncard ≤ completed.length ∧
      completed.length ≤ {k : Nat | 0 < k ∧ start + k * interval ≤ now}.ncard := by
  constructor
  · have hsub : {k : Nat | 0 < k ∧ start + k * interval + interval / 2 < now} ⊆
        Set.Icc 1 completed.length := by
      intro k hk
      refine ⟨hk.1, h.none_late k (Nat.lt_of_le_of_lt ?_ hk.2)⟩
      exact Nat.add_le_add_left hbound _
    have hle := Set.ncard_le_ncard hsub (Set.finite_Icc 1 completed.length)
    rwa [Set.ncard_Icc_nat, Nat.add_sub_cancel] at hle
  · have hsub : Set.Icc 1 completed.length ⊆
        {k : Nat | 0 < k ∧ start + k * interval ≤ now} := by
      intro k hk
      exact ⟨hk.1, h.none_early k hk.1 (Nat.le_trans hk.2 h.one_in_flight.1)⟩
    have hfinite : {k : Nat | 0 < k ∧ start + k * interval ≤ now}.Finite := by
      refine (Set.finite_Iic now).subset fun k hk => ?_
      calc k ≤ k * interval := Nat.le_mul_of_pos_right k (Nat.pos_of_ne_zero hinterval)
        _ ≤ start + k * interval := Nat.le_add_left _ _
        _ ≤ now := hk.2
    have hle := Set.ncard_le_ncard hsub hfinite
    rwa [Set.ncard_Icc_nat, Nat.add_sub_cancel] at hle

/-! ## A run of the loop -/

variable [Dependency δ Env]

/-- When the cycles of a loop begin in a run. -/
def begun (id : Nat) : Service δ Env → List (Action δ) → List Instant
  | _, [] => []
  | s, a :: rest => begunBy id s (s.act a) ++ begun id (s.act a) rest

/-- When the cycles of a loop are completed in a run. -/
def completed (id : Nat) : Service δ Env → List (Action δ) → List Instant
  | _, [] => []
  | s, a :: rest => completedBy id s (s.act a) ++ completed id (s.act a) rest

/-- A loop on schedule, of a service that can run it and has not told it to stop. -/
structure Ticks (start : Instant) (id : Nat) (s : Service δ Env) (begun completed : Nat) :
    Prop where
  onTime : OnTime start id s begun completed
  sound : s.Sound
  even : s.ticker.interval % 2 = 0
  interval : s.ticker.interval ≠ 0
  signalled : s.ticker.signalled = false

/-- One action adds to the cycles of a loop that have begun and have been completed. -/
theorem Ticks.act {start : Instant} {b c : Nat} {a : Action δ} (h : Ticks start id s b c)
    (hsignal : a ≠ .signal) (ha : a ≠ .drop id) :
    Ticks start id (s.act a) (b + (begunBy id s (s.act a)).length)
        (c + (completedBy id s (s.act a)).length) ∧
      Numbered (BeginsAt start s.ticker.interval) b (begunBy id s (s.act a)) ∧
      Numbered (CompletedAt start s.ticker.interval s.cycleBound) c
        (completedBy id s (s.act a)) := by
  obtain ⟨honTime, hs, heven, hinterval, hsignalled⟩ := h
  have hsame := (Continues.act s a).interval
  have hticks : ∀ {b c}, OnTime start id (s.act a) b c → Ticks start id (s.act a) b c :=
    fun h => ⟨h, hs.act a, hsame ▸ heven, hsame ▸ hinterval,
      (act_signalled hsignal).trans hsignalled⟩
  rcases honTime.act hs heven hinterval hsignalled ha with
    ⟨h, hbegun, hcompleted⟩ | ⟨h, hbegun, hcompleted⟩ | ⟨time, h, hbegun, hcompleted, hbounds⟩
  · rw [hbegun, hcompleted]
    exact ⟨hticks h, .nil _ _, .nil _ _⟩
  · rw [hbegun, hcompleted]
    exact ⟨hticks h, .singleton rfl, .nil _ _⟩
  · rw [hbegun, hcompleted]
    exact ⟨hticks h, .nil _ _, .singleton hbounds⟩

/-- **A whole run.**  A loop on schedule stays so: cycles begin at their ticks, one after
another, and are completed within the bound, one after another. -/
theorem Ticks.run {start : Instant} {b c : Nat} {actions : List (Action δ)}
    (h : Ticks start id s b c) (hsignal : .signal ∉ actions) (hkept : .drop id ∉ actions) :
    Ticks start id (s.run actions) (b + (begun id s actions).length)
        (c + (completed id s actions).length) ∧
      Numbered (BeginsAt start s.ticker.interval) b (begun id s actions) ∧
      Numbered (CompletedAt start s.ticker.interval s.cycleBound) c
        (completed id s actions) := by
  induction actions generalizing s b c with
  | nil => exact ⟨h, .nil _ _, .nil _ _⟩
  | cons a actions ih =>
      have hcontinues := Continues.act s a
      have hbound : (s.act a).cycleBound = s.cycleBound := by
        rw [cycleBound, cycleBound, hcontinues.interval, hcontinues.prober]
      obtain ⟨hticks, hbegun, hcompleted⟩ := h.act (List.ne_of_not_mem_cons hsignal).symm
        (List.ne_of_not_mem_cons hkept).symm
      obtain ⟨hticks', hbegun', hcompleted'⟩ := ih hticks
        (List.not_mem_of_not_mem_cons hsignal) (List.not_mem_of_not_mem_cons hkept)
      rw [hcontinues.interval] at hbegun' hcompleted'
      rw [hbound] at hcompleted'
      refine ⟨?_, hbegun.append hbegun', hcompleted.append hcompleted'⟩
      rw [begun, completed, List.length_append, List.length_append, ← Nat.add_assoc,
        ← Nat.add_assoc]
      exact hticks'

/-! ## Counting cycles -/

/-- Whether a job completes cycles. -/
def makesCycles : Job → Bool
  | .reporting .cycle _ => true
  | .ticking _ => true
  | _ => false

/-- No task but `id` completes cycles. -/
def OnlyCycles (id : Nat) (s : Service δ Env) : Prop :=
  ∀ (other : Nat) (span : Option Span) (job : Job), other ≠ id →
    s.tasks[other]? = some (.running span job) → makesCycles job = false

/-- A move makes no job complete cycles that did not. -/
theorem JobMove.makesCycles_eq {span span' : Option Span} {job job' : Job}
    (h : JobMove s span job (.running span' job')) (hjob : makesCycles job = false) :
    makesCycles job' = false := by
  generalize htask : Task.running span' job' = task at h
  cases h with
  | rest => cases htask; exact hjob
  | @probe p h hdue hhandle =>
      cases hprogress : (p.resume s.prober s.now h s.env).progress with
      | going q =>
          rw [hprogress] at htask
          cases htask
          rfl
      | done finding =>
          rw [hprogress] at htask
          cases htask
  | @lane purpose g g' hlane =>
      cases htask
      cases purpose <;> first | rfl | cases hjob
  | closed => cases htask; rfl
  | closeNext => cases htask; rfl
  | started => cases hjob
  | tick => cases hjob
  | cycleLane => cases hjob
  | cycle => cases hjob
  | _ => cases htask

/-- A job that completes no cycles completes none by a move. -/
theorem completions_eq_zero {job : Job} (hjob : makesCycles job = false) (task : Task) :
    completions job task = 0 := by
  unfold completions
  split
  · cases hjob
  · cases hjob
  · rfl

/-- No other task comes to complete cycles by itself. -/
theorem OnlyCycles.act {a : Action δ} (h : OnlyCycles id s) (hcycle : a ≠ .beginCycle)
    (hticker : a ≠ .beginTicker) : OnlyCycles id (s.act a) := by
  intro other span job hne hother
  rcases running_act hother with hsame | hbegins | ⟨span', job', hother', hmove⟩
  · exact h other span job hne hsame
  · cases hbegins with
    | cycle => exact absurd rfl hcycle
    | ticker => exact absurd rfl hticker
    | _ => rfl
  · exact hmove.makesCycles_eq (h other span' job' hne hother')

omit [Dependency δ Env] in
/-- Nothing is completed where a task stays as it is. -/
theorem completedBy_of_same {s' : Service δ Env} (h : s'.tasks[id]? = s.tasks[id]?) :
    completedBy id s s' = [] := by
  have hloop : s'.loop? id = s.loop? id := by rw [loop?, loop?, h]
  rw [completedBy, hloop]
  split
  · next hidle => simp_all
  · rfl

omit [Dependency δ Env] in
/-- What a move of a loop completes. -/
theorem length_completedBy {s' : Service δ Env} {span : Option Span} {l : Loop} {task : Task}
    (hid : s.tasks[id]? = some (.running span (.ticking l)))
    (hid' : s'.tasks[id]? = some task) :
    (completedBy id s s').length = completions (.ticking l) task := by
  have hbefore : s.loop? id = some l := by simp [loop?, hid]
  rw [completedBy, hbefore]
  by_cases hafter : ∃ span' l', task = .running span' (.ticking l')
  · obtain ⟨span', l', rfl⟩ := hafter
    have hloop : s'.loop? id = some l' := by simp [loop?, hid']
    rw [hloop]
    cases l <;> cases l' <;> rfl
  · have hloop : s'.loop? id = none := by
      unfold loop?
      rw [hid']
      split
      · next htask => exact absurd ⟨_, _, Option.some.inj htask⟩ hafter
      · rfl
    have hnone : completions (.ticking l) task = 0 := by
      unfold completions
      split
      · next hjob => cases hjob
      · exact absurd ⟨_, _, rfl⟩ hafter
      · rfl
    rw [hloop, hnone]
    cases l <;> rfl

/-- What a loop completes by an action is counted, and nothing else if no other task
completes cycles. -/
theorem OnlyCycles.act_cycles {l : Loop} {a : Action δ} (h : OnlyCycles id s)
    (hl : s.loop? id = some l) (ha : a ≠ .drop id) :
    (s.act a).ticker.cycles = s.ticker.cycles + (completedBy id s (s.act a)).length := by
  obtain ⟨span, hid⟩ := loop?_eq_some_iff.mp hl
  have hlt := (List.getElem?_eq_some_iff.mp hid).1
  generalize hs' : s.act a = s'
  have htasks := s.act_tasks a
  rw [hs'] at htasks
  cases htasks with
  | same htasks hcycles =>
      rw [completedBy_of_same (by rw [htasks]), hcycles]
      rfl
  | begun hbegins htasks hcycles =>
      rw [completedBy_of_same (by rw [htasks, List.getElem?_append_left hlt]), hcycles]
      rfl
  | @moved _ id' part span' job task hid' hmoved =>
      rw [hmoved.cycles]
      by_cases heq : id' = id
      · subst heq
        cases hid.symm.trans hid'
        have htask : s'.tasks[id']? = some task := by
          rw [hmoved.tasks, List.getElem?_set_self hlt]
        rw [length_completedBy hid htask]
      · rw [completedBy_of_same (by rw [hmoved.tasks, List.getElem?_set_ne heq]),
          completions_eq_zero (h id' span' job heq hid')]
        rfl
  | @dropped _ id' span' job hid' htasks hcycles =>
      have hne : id' ≠ id := fun heq => ha (heq ▸ rfl)
      rw [completedBy_of_same (by rw [htasks, List.getElem?_set_ne hne]), hcycles]
      rfl

/-- All along a run, what a loop completes is counted, and nothing else if no other task
completes cycles. -/
theorem Ticks.run_cycles {start : Instant} {b c : Nat} {actions : List (Action δ)}
    (h : Ticks start id s b c) (honly : OnlyCycles id s) (hsignal : .signal ∉ actions)
    (hkept : .drop id ∉ actions)
    (hothers : ∀ a ∈ actions, a ≠ .beginCycle ∧ a ≠ .beginTicker) :
    (s.run actions).ticker.cycles = s.ticker.cycles + (completed id s actions).length := by
  induction actions generalizing s b c with
  | nil => rfl
  | cons a actions ih =>
      have ha := (List.ne_of_not_mem_cons hkept).symm
      obtain ⟨⟨hcycle, hticker⟩, hrest⟩ := List.forall_mem_cons.mp hothers
      obtain ⟨l, hl⟩ := h.onTime.exists_loop
      have hticks := (h.act (List.ne_of_not_mem_cons hsignal).symm ha).1
      have hcycles := ih hticks (honly.act hcycle hticker) (List.not_mem_of_not_mem_cons hsignal)
        (List.not_mem_of_not_mem_cons hkept) hrest
      rw [honly.act_cycles hl ha] at hcycles
      rw [completed, List.length_append, ← Nat.add_assoc]
      exact hcycles

/-- A loop that begins is on schedule. -/
theorem Ticks.begin (hs : s.Sound) (heven : s.ticker.interval % 2 = 0)
    (hinterval : s.ticker.interval ≠ 0) (hsignalled : s.ticker.signalled = false) :
    Ticks s.now s.tasks.length (s.act .beginTicker) 0 0 where
  onTime := .starting (by simp [loop?, Service.act, beginTicker, spawn]) rfl
  sound := hs.act _
  even := heven
  interval := hinterval
  signalled := hsignalled

omit [Dependency δ Env] in
/-- A new task leaves the others where they are. -/
theorem getElem?_concat {tasks : List Task} {new : Task} {other : Nat}
    (hne : other ≠ tasks.length) : (tasks ++ [new])[other]? = tasks[other]? := by
  rcases Nat.lt_or_gt_of_ne hne with hlt | hgt
  · exact List.getElem?_append_left hlt
  · rw [List.getElem?_eq_none (by simpa using hgt), List.getElem?_eq_none (Nat.le_of_lt hgt)]

/-- A loop that begins is the only one if there was none. -/
theorem OnlyCycles.begin (h : OnlyCycles s.tasks.length s) :
    OnlyCycles s.tasks.length (s.act .beginTicker) := by
  intro other span job hne hother
  have hold : s.tasks[other]? = some (.running span job) := by
    rwa [Service.act, beginTicker, spawn, getElem?_concat hne] at hother
  exact h other span job hne hold

/-- What a loop on schedule did since it began is as its schedule says. -/
theorem Ticks.schedule {start : Instant} {actions : List (Action δ)}
    (h : Ticks start id s 0 0) (hsignal : .signal ∉ actions) (hkept : .drop id ∉ actions) :
    Schedule start s.ticker.interval s.cycleBound (s.run actions).now (begun id s actions)
      (completed id s actions) := by
  obtain ⟨hticks, hbegun, hcompleted⟩ := h.run hsignal hkept
  rw [Nat.zero_add, Nat.zero_add] at hticks
  have hcontinues := Continues.run s actions
  have hbound : (s.run actions).cycleBound = s.cycleBound := by
    rw [cycleBound, cycleBound, hcontinues.interval, hcontinues.prober]
  have hclock := hticks.onTime.clock hticks.interval
  rw [hcontinues.interval, hbound] at hclock
  obtain ⟨hone, hearly, hmissed, hlate⟩ := hclock
  exact ⟨hbegun, hcompleted, hone, hearly, hmissed, hlate⟩

/-- **The ticker keeps its schedule.**  Let a loop begin in a reachable service that has
an even, positive interval, and let anything happen after it but the signal to stop and
the dropping of the loop.  Then its cycles begin and are completed as `Schedule` says.
The number of completed ones is bounded by the clock, and it is what the ticker counts
unless other tasks complete cycles too.  And time goes on, so every tick comes. -/
theorem ticker_on_schedule (hs : s.Reachable) (hinterval : s.ticker.interval ≠ 0)
    (heven : s.ticker.interval % 2 = 0) (hsignalled : s.ticker.signalled = false)
    (after : List (Action δ)) (hsignal : .signal ∉ after)
    (hkept : .drop s.tasks.length ∉ after) :
    let begun := begun s.tasks.length (s.act .beginTicker) after
    let completed := completed s.tasks.length (s.act .beginTicker) after
    let s' := (s.act .beginTicker).run after
    Schedule s.now s.ticker.interval s.cycleBound s'.now begun completed ∧
      {k : Nat | 0 < k ∧ s.now + k * s.ticker.interval + s.ticker.interval / 2 < s'.now}.ncard ≤
        completed.length ∧
      completed.length ≤ {k : Nat | 0 < k ∧ s.now + k * s.ticker.interval ≤ s'.now}.ncard ∧
      (OnlyCycles s.tasks.length s → (∀ a ∈ after, a ≠ .beginCycle ∧ a ≠ .beginTicker) →
        s'.ticker.cycles = s.ticker.cycles + completed.length) ∧
      ∀ time, s'.now ≤ time →
        ∃ more : List (Action δ), (∀ a ∈ more, a.IsOwn) ∧ (s'.run more).now = time := by
  intro begun completed s'
  have hticks := Ticks.begin hs.sound heven hinterval hsignalled
  have hschedule : Schedule s.now s.ticker.interval s.cycleBound s'.now begun completed :=
    hticks.schedule hsignal hkept
  obtain ⟨hfrom, hto⟩ := hschedule.length_completed hinterval (Nat.min_le_left _ _)
  refine ⟨hschedule, hfrom, hto, fun honly hothers => ?_, fun time htime => ?_⟩
  · exact hticks.run_cycles honly.begin hsignal hkept hothers
  · exact ((hs.sound.act _).run after).time_goes_on htime

/-- A first cycle begins and is completed although the dependency never answers. -/
theorem silent_on_schedule :
    let after : List (Action Scripted) := [.move 0 .whole, .pass 1000, .move 0 .whole,
      .move 0 (.lane 0), .pass 1500, .move 0 (.lane 0), .move 0 .whole]
    Schedule 0 1000 500 1500 [1000] [1500] ∧
      (((silent 1000).act .beginTicker).run after).ticker.cycles = 1 := by
  intro after
  have hkept : .drop (silent 1000).tasks.length ∉ after := by simp [after]
  obtain ⟨hschedule, _, _, hcycles, _⟩ := ticker_on_schedule (silent_reachable 1000)
    (by decide) (by decide) rfl after (by simp [after]) hkept
  refine ⟨hschedule, hcycles ?_ (by simp [after])⟩
  intro other span job _ hother
  cases hother

end HealthWatch.Service
