import HealthWatch.Proofs.CallsUnderWay
import HealthWatch.Proofs.TickerSignal

/-!
# The ticker stops when it is told to

`StopsWhenTold` says what a loop does that began at one moment, if its ticker was told to
stop at another: it ends at the later of the two.  After that it makes no calls, completes
no cycles and tells nothing.  Any loop that can run at all is one of these, whenever it is
told (`ticker_stops`).

The ticker shows that it has stopped when a loop was stopped (`run_stopped`).  If there is
but one loop, it shows this from the end of that loop on.
-/

namespace HealthWatch

/-- Whether a task is a loop that was stopped. -/
def Task.hasStopped : Task → Bool
  | .ended _ .stopped => true
  | _ => false

/-- Whether a task is a loop that goes on or was stopped. -/
def Task.isLoop : Task → Bool
  | .running _ (.ticking _) => true
  | task => task.hasStopped

namespace Service

variable {δ Env : Type} {s s' : Service δ Env} {id : Nat}

/-- The state of the ticker tells of its loops: it has stopped if one of them was. -/
def ShowsStop (s : Service δ Env) : Prop := s.ticker.stopped = s.tasks.any Task.hasStopped

/-- No task but `id` is a loop. -/
def OnlyLoop (id : Nat) (s : Service δ Env) : Prop :=
  ∀ (other : Nat) (task : Task), other ≠ id → s.tasks[other]? = some task → task.isLoop = false

/-- Where one element is replaced that did not count, the new one counts. -/
theorem any_set {α : Type} {p : α → Bool} {l : List α} {n : Nat} {a : α} (hn : l[n]? = some a)
    (ha : p a = false) (b : α) : (l.set n b).any p = (l.any p || p b) := by
  induction l generalizing n with
  | nil => cases hn
  | cons x l ih =>
      cases n with
      | zero =>
          obtain rfl : x = a := Option.some.inj hn
          simp [ha, Bool.or_comm]
      | succ n => rw [List.set_cons_succ, List.any_cons, List.any_cons, ih hn, Bool.or_assoc]

variable [Dependency δ Env]

/-- A move stops the ticker if it stops a loop. -/
theorem Does.stopped_eq {span : Option Span} {job : Job} {task : Task}
    (hdoes : Does s span job task s') :
    s'.ticker.stopped = (s.ticker.stopped || task.hasStopped) := by
  have hsame := (Bool.or_false s.ticker.stopped).symm
  cases hdoes with
  | probe p =>
      rw [(s.moveProbe_frame span p).2.2]
      cases (s.moveProbe span p).2 <;> exact hsame
  | lane purpose g n => rw [(s.moveLane_spec span g n).2.2.2]; exact hsame
  | report purpose => cases purpose <;> exact hsame
  | unstarted => exact (Bool.or_true _).symm
  | stopped => exact (Bool.or_true _).symm
  | cycleLane next g n => rw [(s.moveLane_spec span g n).2.2.2]; exact hsame
  | _ => exact hsame

/-- A ticker that has stopped never runs again. -/
theorem run_stopped (h : s.ticker.stopped = true) (actions : List (Action δ)) :
    (s.run actions).ticker.stopped = true := by
  induction actions generalizing s with
  | nil => exact h
  | cons a actions ih =>
      refine ih (s := s.act a) ?_
      rcases s.act_cases a with hrest | ⟨id, span, job, task, s', hid, hdoes, heq⟩ | hno
      · rw [hrest, h]
      · rw [heq]
        exact hdoes.stopped_eq.trans (by rw [h, Bool.true_or])
      · rw [(s.act_aside hno).stopped, h]

theorem ShowsStop.act (h : ShowsStop s) (a : Action δ) : ShowsStop (s.act a) := by
  rcases s.act_cases a with hrest | ⟨id, span, job, task, s', hid, hdoes, heq⟩ | hno
  · rw [hrest]
    exact h
  · rw [heq, ShowsStop, setTask, hdoes.tasks_eq, any_set hid rfl, ← h]
    exact hdoes.stopped_eq
  · rw [ShowsStop, (s.act_aside hno).stopped, h]
    generalize hs' : s.act a = s'
    have htasks := s.act_tasks a
    rw [hs'] at htasks
    cases htasks with
    | same htasks => rw [htasks]
    | begun hbegins htasks =>
        rw [htasks, List.any_append]
        cases hbegins <;> exact (Bool.or_false _).symm
    | moved => exact absurd rfl (hno _ _)
    | dropped hid htasks => rw [htasks, any_set hid rfl]; exact (Bool.or_false _).symm

theorem ShowsStop.run (h : ShowsStop s) (actions : List (Action δ)) :
    ShowsStop (s.run actions) := by
  induction actions generalizing s with
  | nil => exact h
  | cons a actions ih => exact ih (h.act a)

/-- No job but a loop becomes one. -/
theorem JobMove.isLoop_eq {span : Option Span} {job : Job} {task : Task}
    (hmove : JobMove s span job task) (hjob : ∀ l, job ≠ .ticking l) : task.isLoop = false := by
  cases hmove with
  | rest =>
      cases job with
      | ticking l => exact absurd rfl (hjob l)
      | _ => rfl
  | @probe p h => cases (p.resume s.prober s.now h s.env).progress <;> rfl
  | @report purpose => cases purpose <;> rfl
  | lane => rfl
  | connect => rfl
  | closed => rfl
  | closeNext => rfl
  | allClosed => rfl
  | _ => exact absurd rfl (hjob _)

/-- No other loop comes about by itself. -/
theorem OnlyLoop.act {a : Action δ} (h : OnlyLoop id s) (ha : a ≠ .beginTicker) :
    OnlyLoop id (s.act a) := by
  intro other task hne hother
  rcases task_act hother with hsame | hbegins | ⟨span, job, hother', hmove⟩ | rfl
  · exact h other task hne hsame
  · cases hbegins with
    | ticker => exact absurd rfl ha
    | _ => rfl
  · refine hmove.isLoop_eq ?_
    rintro l rfl
    cases h other _ hne hother'
  · rfl

/-- A loop that begins is the only one if there was none. -/
theorem OnlyLoop.begin (h : OnlyLoop s.tasks.length s) :
    OnlyLoop s.tasks.length (s.act .beginTicker) := by
  intro other task hne hother
  have hold : s.tasks[other]? = some task := by
    rwa [Service.act, beginTicker, spawn, getElem?_concat hne] at hother
  exact h other task hne hold

theorem OnlyLoop.run {actions : List (Action δ)} (h : OnlyLoop id s)
    (hactions : .beginTicker ∉ actions) : OnlyLoop id (s.run actions) := by
  induction actions generalizing s with
  | nil => exact h
  | cons a actions ih =>
      exact ih (h.act (List.ne_of_not_mem_cons hactions).symm)
        (List.not_mem_of_not_mem_cons hactions)

omit [Dependency δ Env] in
/-- The ticker of a single loop has stopped when that loop was stopped. -/
theorem OnlyLoop.stopped_iff (h : OnlyLoop id s) (hshows : ShowsStop s) :
    s.ticker.stopped = true ↔ ∃ time, s.tasks[id]? = some (.ended time .stopped) := by
  rw [hshows, List.any_eq_true]
  constructor
  · rintro ⟨task, htask, hstopped⟩
    obtain ⟨other, hother⟩ := List.getElem?_of_mem htask
    cases task with
    | running span job => cases hstopped
    | dropped => cases hstopped
    | ended time outcome =>
        cases outcome with
        | stopped =>
            by_cases hid : other = id
            · exact ⟨time, hid ▸ hother⟩
            · cases h other _ hid hother
        | _ => cases hstopped
  · rintro ⟨time, hid⟩
    exact ⟨_, List.mem_of_getElem? hid, rfl⟩

/-! ## A loop without an interval -/

/-- A loop with an interval of zero ends at its first turn, and is not stopped. -/
def CannotRun (start : Instant) (id : Nat) (s : Service δ Env) : Prop :=
  (s.loop? id = some .starting ∧ s.now = start) ∨ s.tasks[id]? = some (.ended start .noInterval)

theorem CannotRun.act {start : Instant} {a : Action δ} (h : CannotRun start id s)
    (hinterval : s.ticker.interval = 0) (ha : a ≠ .drop id) : CannotRun start id (s.act a) := by
  rcases h with ⟨hl, hnow⟩ | hid
  swap
  · exact .inr (act_ended hid a)
  have hwake : s.jobWake (.ticking .starting) = some s.now := by simp [jobWake]
  have hstill : (s.act a).now = s.now :=
    Nat.le_antisymm (act_now_le a hl hwake (Nat.le_refl _)) (Continues.act s a).now_le
  obtain ⟨span, hid⟩ := loop?_eq_some_iff.mp hl
  rcases act_getElem? hid a with hsame | ⟨part, _, _, task, rfl, htask, hid', _⟩ | ⟨hdrop, _⟩
  · exact .inl ⟨loop?_eq_some_iff.mpr ⟨_, hsame⟩, hstill.trans hnow⟩
  · rcases s.move_does id part with hrest | ⟨span', job, task', s', hid'', hdoes, heq⟩
    · have hsame : s.act (.move id part) = s := hrest
      rw [hsame]
      exact .inl ⟨hl, hnow⟩
    · cases hid.symm.trans hid''
      have hafter : (s.act (.move id part)).tasks[id]? = some task' := by
        rw [Service.act, heq, setTask, hdoes.tasks_eq]
        exact List.getElem?_set_self (List.getElem?_eq_some_iff.mp hid).1
      cases hdoes with
      | rest => exact .inl ⟨loop?_eq_some_iff.mpr ⟨_, hafter⟩, hstill.trans hnow⟩
      | noInterval => exact .inr (hnow ▸ hafter)
      | started hne => exact absurd hinterval hne
      | unstarted hne => exact absurd hinterval hne
      | stopped hl => exact absurd rfl hl
  · exact absurd hdrop ha

theorem CannotRun.run {start : Instant} {actions : List (Action δ)} (h : CannotRun start id s)
    (hinterval : s.ticker.interval = 0) (hkept : .drop id ∉ actions) :
    CannotRun start id (s.run actions) := by
  induction actions generalizing s with
  | nil => exact h
  | cons a actions ih =>
      exact ih (h.act hinterval (List.ne_of_not_mem_cons hkept).symm)
        ((Continues.act s a).interval.trans hinterval) (List.not_mem_of_not_mem_cons hkept)

/-! ## The end of a loop -/

/-- What holds of a loop that began at `start`, in any later state, if its ticker was told
to stop at `told`, if it was. -/
structure StopsWhenTold (start : Instant) (told : Option Instant) (id : Nat)
    (s : Service δ Env) : Prop where
  /-- Nobody told it: it goes on. -/
  goes_on : told = none → ∃ l, s.loop? id = some l
  /-- It was told: it ends then, or when it begins if that is later.  If it goes on it is
  still that moment, and it has a move by which it ends. -/
  stops : ∀ x, told = some x →
    ((∃ l, s.loop? id = some l) ∧ s.now = max x start ∧
        ∃ part, (s.act (.move id part)).tasks[id]? = some (.ended (max x start) .stopped)) ∨
      s.tasks[id]? = some (.ended (max x start) .stopped)
  /-- When it has ended it stays so and does nothing any more, and every call that is under
  way is one of another task. -/
  is_over : s.loop? id = none →
    (∀ more : List (Action δ), (s.run more).tasks[id]? = s.tasks[id]?) ∧
      (∀ part, s.act (.move id part) = s) ∧
      ∀ k, (s.tallyOf k).inFlight = total (Task.callsOn k) (s.tasks.eraseIdx id)
  /-- What it counts and tells of a cycle it does when the last of the results has just
  come. -/
  cycles : ∀ part,
    ((s.act (.move id part)).ticker.cycles = s.ticker.cycles ∧
        (s.act (.move id part)).told .cycle = s.told .cycle) ∨
      ∃ next g results, s.loop? id = some (.cycling next g) ∧ g.results? = some results ∧
        s.JustIn next results ∧ (s.act (.move id part)).ticker.cycles = s.ticker.cycles + 1 ∧
        (s.act (.move id part)).told .cycle =
          s.told .cycle ++ cycleEvents ⟨.ofList results, s.uptime, s.now⟩
  /-- When it was told it begins at most one more cycle: at once, and only if the tick is due
  at this moment. -/
  begins : told.isSome → ∀ more : List (Action δ), .drop id ∉ more →
    begun id s more = [] ∨
      begun id s more = [s.now] ∧ ∃ l, s.loop? id = some l ∧ l.next? = some s.now

/-- A sum without one of its terms. -/
theorem total_eraseIdx {α : Type} {f : α → Nat} {l : List α} {n : Nat} {a : α}
    (hn : l[n]? = some a) : total f l = f a + total f (l.eraseIdx n) := by
  induction l generalizing n with
  | nil => cases hn
  | cons x l ih =>
      cases n with
      | zero =>
          obtain rfl : x = a := Option.some.inj hn
          rfl
      | succ n =>
          rw [List.eraseIdx_cons_succ, total_cons, total_cons, ih hn]
          omega

/-- A loop that heeds the signal stops when it is told to. -/
theorem Heeds.stopsWhenTold {start : Instant} {told : Option Instant}
    (h : Heeds start told id s) (hcalls : s.Accounted) : StopsWhenTold start told id s := by
  constructor
  case goes_on =>
    intro htold
    rcases h.loop with ⟨l, hl, _⟩ | ⟨x, hx, _⟩
    · exact ⟨l, hl⟩
    · rw [htold] at hx
      cases hx
  case stops =>
    intro x hx
    rcases h.loop with ⟨l, hl, _, hnow⟩ | ⟨y, hy, hid⟩
    · have hstill := hnow x hx
      have hsignalled : s.ticker.signalled = true := by rw [h.signalled, hx]; rfl
      exact .inl ⟨⟨l, hl⟩, hstill, hstill ▸ exists_stop hl h.interval hsignalled⟩
    · cases hy.symm.trans hx
      exact .inr hid
  case is_over =>
    intro hnone
    rcases h.loop with ⟨l, hl, _⟩ | ⟨x, _, hid⟩
    · cases hnone.symm.trans hl
    · refine ⟨fun more => (run_ended hid more).trans hid.symm,
        fun part => by simp only [Service.act, move, hid], fun k => ?_⟩
      · rw [hcalls k, callsOn, total_eraseIdx hid]
        exact Nat.zero_add _
  case cycles =>
    intro part
    rcases s.move_does id part with hrest | ⟨span, job, task, s', hid, hdoes, heq⟩
    · rw [Service.act, hrest]
      exact .inl ⟨rfl, rfl⟩
    · rcases h.loop with ⟨l, hl, hintime, _⟩ | ⟨_, _, hended⟩
      · obtain ⟨_, hid'⟩ := loop?_eq_some_iff.mp hl
        cases hid.symm.trans hid'
        rw [Service.act, heq]
        rcases hdoes.cycle_cases with hnone | ⟨next, g, results, rfl, hresults, hcycle⟩
        · exact .inl hnone
        · refine .inr ⟨next, g, results, hl, hresults, ?_, hcycle⟩
          cases hintime with
          | cycling _ _ hjust => exact hjust results hresults
      · cases hid.symm.trans hended
  case begins =>
    intro htold more hkept
    obtain ⟨x, rfl⟩ := Option.isSome_iff_exists.mp htold
    exact h.begun_after hkept

/-- **The ticker stops when it is told to.**  Let a loop begin in a service, at any time, and
let anything happen before and after but the dropping of the loop.  Then it stops when it is
told to, unless it cannot run at all.  The ticker, once it has stopped, never runs again; and
if the loop is its only one, it has stopped exactly if the loop was stopped. -/
theorem ticker_stops (env : Env) (prober : Prober) (interval upBefore : Nat)
    (metrics : Option Metrics) (before after : List (Action δ))
    (hkept : .drop ((new env prober interval upBefore metrics).run before).tasks.length ∉ after) :
    let first : Service δ Env := new env prober interval upBefore metrics
    let s := first.run before
    let id := s.tasks.length
    let s' := (s.act .beginTicker).run after
    (interval ≠ 0 →
        StopsWhenTold s.now (firstTold first (before ++ .beginTicker :: after)) id s') ∧
      (interval = 0 → CannotRun s.now id s') ∧
      (s'.ticker.stopped = true → ∀ more, (s'.run more).ticker.stopped = true) ∧
      (.beginTicker ∉ before ++ after →
        (s'.ticker.stopped = true ↔ ∃ time, s'.tasks[id]? = some (.ended time .stopped))) := by
  intro first s id s'
  have hs : s.Sound := ((Reachable.new env prober interval upBefore metrics).run before).sound
  have hinterval : s.ticker.interval = interval := (Continues.run first before).interval
  have hrun : s' = first.run (before ++ .beginTicker :: after) := by
    rw [Service.run, List.foldl_append]
    rfl
  refine ⟨fun hne => ?_, fun hzero => ?_, fun hstopped more => ?_, fun honly => ?_⟩
  · have hsignalled : s.ticker.signalled = (firstTold first before).isSome := by
      rw [run_signalled]
      rfl
    have hbegin : Heeds s.now (firstTold first before) id (s.act .beginTicker) :=
      .begin hs (hinterval ▸ hne) hsignalled fun x hx => firstTold_le hx
    have hheeds := hbegin.run hkept
    rw [firstTold_append]
    refine hheeds.stopsWhenTold ?_
    have hcalls := (Accounted.new env prober interval upBefore metrics : first.Accounted).run
      (before ++ .beginTicker :: after)
    rwa [← hrun] at hcalls
  · have hbegin : CannotRun s.now id (s.act .beginTicker) := by
      refine .inl ⟨?_, rfl⟩
      simp [loop?, Service.act, beginTicker, spawn, id]
    exact hbegin.run (hinterval.trans hzero) hkept
  · exact run_stopped hstopped more
  · have hnew : OnlyLoop id first := fun other task _ hother => by cases hother
    obtain ⟨hbefore, hafter⟩ := not_or.mp (List.mem_append.not.mp honly)
    have hshows : ShowsStop first := rfl
    have hlone : OnlyLoop id (s.act .beginTicker) := (hnew.run hbefore).begin
    refine (hlone.run hafter).stopped_iff ?_
    have hrun' := hshows.run (before ++ .beginTicker :: after)
    rwa [← hrun] at hrun'

/-- A ticker that is told to stop while its first cycle waits for an answer. -/
def stopInCycle : List (Action Scripted) :=
  [.move 0 .whole, .pass 1000, .move 0 .whole, .move 0 (.lane 0), .pass 1200, .signal, .signal,
    .move 0 .signal]

theorem silent_stops :
    let before : List (Action Scripted) := [.register "db" (.ofLists [.never] [] none)]
    let s := (new () .standard 1000 0 none).run before
    .drop s.tasks.length ∉ stopInCycle ∧
      StopsWhenTold 0 (some 1200) 0 ((s.act .beginTicker).run stopInCycle) := by
  intro before s
  have hkept : .drop s.tasks.length ∉ stopInCycle := by simp [stopInCycle]
  exact ⟨hkept,
    (ticker_stops () .standard 1000 0 none before stopInCycle hkept).1 (by decide)⟩

/-- The cycle is given up: its call no longer runs, and nothing was counted. -/
example :
    let s := ((silent 1000).act .beginTicker).run stopInCycle
    s.ticker.stopped = true ∧ s.ticker.cycles = 0 ∧
      s.handles.map (·.tally) = [⟨1, 0, 0, 0, 1⟩] := by decide

end Service

end HealthWatch
