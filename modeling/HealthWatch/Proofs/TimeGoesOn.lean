import HealthWatch.Proofs.ReportCourse

/-!
# Time goes on

Bounds on when a task ends say nothing about a service that gets stuck: one in
which time cannot pass because some task is due for ever.  This file shows that
there is none.  Whatever is under way in a service, moves of its tasks
and the passing of time take it to any later time (`Sound.time_goes_on`).

The measure is `Service.effort`, the number of moves that the tasks can make
before each of them waits for the clock.  A task that is due has a move which
lowers it (`exists_move_lt`), so after finitely many moves none is due, and time
passes up to the next moment.  A loop with an interval of zero would be due again
after every tick; it ends at its first turn instead (`Sound.loops`).
-/

namespace HealthWatch.Service

variable {δ Env : Type}

/-! ## The moves that are left -/

/-- The sum of what the elements of a list count for. -/
def total {α : Type} (f : α → Nat) (l : List α) : Nat := l.foldr (fun a n => f a + n) 0

/-- The moves that the lanes of a report can make. -/
def lanesEffort (s : Service δ Env) (g : Gathering) : Nat := total s.lanesMoves g.lanes

/-- The moves that a loop can make which waits for the tick at `next`.  If that
is due, a cycle comes first. -/
def idleEffort (s : Service δ Env) (next : Instant) : Nat :=
  if next ≤ s.now then
    s.lanesEffort (.start s.prober s.registry (s.now + s.ticker.budget) s.now) + 3
  else 1

/-- The moves that a job can make. -/
def jobEffort (s : Service δ Env) : Job → Nat
  | .probing p => p.movesLeft s.prober
  | .reporting _ g => s.lanesEffort g + 1
  | .connecting .. => 1
  | .closing c => 2 * c.remaining.length + (if c.current.isSome then 1 else 0) + 1
  | .ticking .starting => 2
  | .ticking (.idle next) => s.idleEffort next
  | .ticking (.cycling next g) => s.lanesEffort g + s.idleEffort next + 1

/-- The moves that a task can make. -/
def taskEffort (s : Service δ Env) : Task → Nat
  | .running _ job => s.jobEffort job
  | _ => 0

/-- The moves that all tasks can make before time has to pass. -/
def effort (s : Service δ Env) : Nat := total s.taskEffort s.tasks

theorem idleEffort_pos (s : Service δ Env) (next : Instant) : 0 < s.idleEffort next := by
  unfold idleEffort
  split <;> omega

/-- A job under way has at least one move to make. -/
theorem jobEffort_pos (s : Service δ Env) (job : Job) : 0 < s.jobEffort job := by
  unfold jobEffort
  split
  · exact Probe.movesLeft_pos _ _
  all_goals first | exact s.idleEffort_pos _ | omega

/-- A sum gets smaller with one of its terms. -/
theorem total_set_lt {α : Type} (f : α → Nat) {l : List α} {n : Nat} {a b : α}
    (hn : l[n]? = some a) (hlt : f b < f a) : total f (l.set n b) < total f l := by
  induction l generalizing n with
  | nil => cases hn
  | cons x l ih =>
      cases n with
      | zero =>
          obtain rfl : x = a := Option.some.inj hn
          exact Nat.add_lt_add_right hlt _
      | succ n => exact Nat.add_lt_add_left (ih hn) _

/-! ## A move that lowers the effort -/

variable [Dependency δ Env]

/-- The effort is measured with what moves leave alone. -/
theorem Frame.taskEffort_eq {s s' : Service δ Env} (h : Frame s s') :
    s'.taskEffort = s.taskEffort := by
  have hlane : s'.lanesMoves = s.lanesMoves := by
    funext lane
    cases lane <;> simp only [lanesMoves, h.prober]
  have hlanes : s'.lanesEffort = s.lanesEffort := by
    funext g
    simp only [lanesEffort, hlane]
  have hidle : s'.idleEffort = s.idleEffort := by
    funext next
    simp only [idleEffort, hlanes, h.now, h.prober, h.registry, Ticker.budget, h.interval]
  have hjob : s'.jobEffort = s.jobEffort := by
    funext job
    unfold jobEffort
    split <;> simp only [hlanes, hidle, h.prober]
  funext task
  unfold taskEffort
  split <;> simp only [hjob]

/-- A move that leaves a task less to do lowers the effort. -/
theorem Moved.effort_lt {s s' : Service δ Env} {id : Nat} {span : Option Span} {job : Job}
    {task : Task} (hmoved : Moved s s' id span job task)
    (hid : s.tasks[id]? = some (.running span job)) (hlt : s.taskEffort task < s.jobEffort job) :
    s'.effort < s.effort := by
  rw [effort, hmoved.frame.taskEffort_eq, hmoved.tasks]
  exact total_set_lt s.taskEffort hid hlt

variable {s : Service δ Env} {id : Nat} {span : Option Span}

/-- The moves of a lane after one of them. -/
theorem lanesMoves_laneAfter_lt {p : Probe} {h : Handle δ} :
    s.lanesMoves (laneAfter p s.now (p.resume s.prober s.now h s.env).progress) <
      p.movesLeft s.prober := by
  cases hprogress : (p.resume s.prober s.now h s.env).progress with
  | going q => exact Probe.movesLeft_resume_lt hprogress
  | done finding => exact Probe.movesLeft_pos _ _

/-- A lane that is due can move, and then has less to do. -/
theorem exists_lane_lt (span : Option Span) {g : Gathering} {limit : Instant} {p : Probe}
    (hg : g.Sound s.prober s.handles.length limit s.now) (hp : Lane.running p ∈ g.lanes)
    (hdue : p.wake ≤ s.now) : ∃ n, s.lanesEffort (s.moveLane span g n).2 < s.lanesEffort g := by
  obtain ⟨n, hn⟩ := List.getElem?_of_mem hp
  have hh := List.getElem?_eq_getElem (hg.lane p hp).1.handle_lt
  refine ⟨n, ?_⟩
  rw [(moveLane_due span hn hdue).2, (moveProbe_spec span hh).1]
  exact total_set_lt s.lanesMoves hn lanesMoves_laneAfter_lt

/-- A loop has less to do after its first turn. -/
theorem startLoop_lt {task : Task} (hnew : ∀ span', task ≠ .running span' (.ticking .starting))
    (hmove : JobMove s span (.ticking .starting) task) : s.taskEffort task < 2 := by
  cases hmove with
  | rest => exact absurd rfl (hnew span)
  | noInterval => exact Nat.two_pos
  | started hinterval =>
      have hlater : ¬ s.now + s.ticker.interval ≤ s.now := by
        grind
      simp only [taskEffort, jobEffort, idleEffort, if_neg hlater]
      exact Nat.lt_succ_self _
  | stopped => exact Nat.two_pos

/-- A task that is due has a move that leaves it less to do. -/
theorem exists_part_lt {job : Job} {w : Instant}
    (hjob : JobSound s.prober s.handles.length s.now job)
    (hloop : ∀ l, job = .ticking l → l = .starting ∨ s.ticker.interval ≠ 0)
    (hwake : s.jobWake job = some w) (hdue : w ≤ s.now) :
    ∃ part task, Moved s (s.moveJob id span job part) id span job task ∧
      s.taskEffort task < s.jobEffort job := by
  cases job with
  | probing p =>
      obtain rfl : p.wake = w := Option.some.inj hwake
      obtain ⟨h, hh⟩ : ∃ h, s.handles[p.handle]? = some h :=
        ⟨_, List.getElem?_eq_getElem hjob.handle_lt⟩
      refine ⟨.whole, _, .probe hdue hh, ?_⟩
      cases hprogress : (p.resume s.prober s.now h s.env).progress with
      | going q => exact Probe.movesLeft_resume_lt hprogress
      | done finding => exact Probe.movesLeft_pos _ _
  | reporting purpose g =>
      obtain rfl : g.wake s.now = w := Option.some.inj hwake
      obtain ⟨limit, hg⟩ := hjob
      rcases g.wake_eq s.now with ⟨p, hp, hwake⟩ | ⟨⟨results, hresults⟩, _⟩
      · obtain ⟨n, hlt⟩ := exists_lane_lt span hg hp (hwake ▸ hdue)
        exact ⟨.lane n, _, .lane s id span purpose g n, Nat.succ_lt_succ hlt⟩
      · exact ⟨.whole, _, .report hresults, Nat.succ_pos _⟩
  | connecting handle call => exact ⟨.whole, _, .connect hwake hdue, Nat.one_pos⟩
  | closing c =>
      obtain ⟨remaining, current, failures⟩ := c
      cases current with
      | some x =>
          obtain ⟨name, handle, call⟩ := x
          exact ⟨.whole, _, .closed rfl hwake hdue, by simp [taskEffort, jobEffort]⟩
      | none =>
          cases remaining with
          | nil => exact ⟨.whole, _, .allClosed rfl rfl, Nat.succ_pos _⟩
          | cons x rest =>
              have hh := List.getElem?_eq_getElem (hjob x List.mem_cons_self)
              refine ⟨.whole, _, .closeNext rfl rfl hh, ?_⟩
              simp only [taskEffort, jobEffort, List.length_cons, Option.isSome]
              simp
              omega
  | ticking l =>
      by_cases hstarting : l = .starting
      · subst hstarting
        obtain ⟨task, hnew, hmoved⟩ := Moved.startLoop s id span
        exact ⟨.whole, task, hmoved, startLoop_lt hnew hmoved.move⟩
      have hinterval := (hloop l rfl).resolve_left hstarting
      by_cases hsignalled : s.ticker.signalled = true
      · exact ⟨.signal, _, .signal hstarting hsignalled, s.jobEffort_pos _⟩
      · simp only [jobWake, if_neg hsignalled] at hwake
        cases l with
        | starting => exact absurd rfl hstarting
        | idle next =>
            obtain rfl : next = w := Option.some.inj hwake
            have hlater : ¬ s.now + s.ticker.interval ≤ s.now := by
              grind
            refine ⟨.whole, _, .tick hdue, ?_⟩
            simp only [taskEffort, jobEffort, idleEffort, if_pos hdue, if_neg hlater]
            exact Nat.lt_succ_self _
        | cycling next g =>
            obtain rfl : g.wake s.now = w := Option.some.inj hwake
            obtain ⟨limit, hg⟩ := hjob
            rcases g.wake_eq s.now with ⟨p, hp, hwake⟩ | ⟨⟨results, hresults⟩, _⟩
            · obtain ⟨n, hlt⟩ := exists_lane_lt span hg hp (hwake ▸ hdue)
              refine ⟨.lane n, _, .cycleLane s id span next g n, ?_⟩
              exact Nat.succ_lt_succ (Nat.add_lt_add_right hlt _)
            · exact ⟨.whole, _, .cycle hresults, Nat.lt_succ_of_le (Nat.le_add_left _ _)⟩

/-! ## Up to any time -/

/-- What a service does by itself: its tasks move and time passes. -/
def Action.IsOwn : Action δ → Prop
  | .move .. | .pass _ => True
  | _ => False

/-- As long as a task is due, a move lowers the effort. -/
theorem Sound.exists_move_lt (hs : s.Sound) {w : Instant} (hw : s.wake = some w)
    (hdue : w ≤ s.now) :
    ∃ id part, (s.move id part).now = s.now ∧ (s.move id part).effort < s.effort := by
  obtain ⟨id, span, job, hid, hwake⟩ := wake_mem hw
  obtain ⟨part, task, hmoved, hlt⟩ := exists_part_lt (hs.jobs id span job hid)
    (fun l hl => hs.loops id span l (hl ▸ hid)) hwake hdue
  have hmove : s.move id part = s.moveJob id span job part := by simp only [move, hid]
  rw [← hmove] at hmoved
  exact ⟨id, part, hmoved.frame.now, hmoved.effort_lt hid hlt⟩

/-- Finitely many moves take a service to where none of its tasks is due. -/
theorem Sound.settles (hs : s.Sound) :
    ∃ moves : List (Action δ), (∀ a ∈ moves, a.IsOwn) ∧ (s.run moves).now = s.now ∧
      ∀ w ∈ (s.run moves).wake, s.now < w := by
  generalize heffort : s.effort = effort
  induction effort using Nat.strongRecOn generalizing s with
  | ind effort ih =>
      by_cases hdue : ∃ w, s.wake = some w ∧ w ≤ s.now
      · obtain ⟨w, hw, hle⟩ := hdue
        obtain ⟨id, part, hnow, hlt⟩ := hs.exists_move_lt hw hle
        obtain ⟨moves, hown, hnow', hwaits⟩ :=
          ih _ (heffort ▸ hlt) (hs.act (.move id part)) rfl
        refine ⟨.move id part :: moves, ?_, hnow'.trans hnow, ?_⟩
        · exact List.forall_mem_cons.mpr ⟨trivial, hown⟩
        · intro w hw
          exact hnow ▸ hwaits w hw
      · refine ⟨[], fun a ha => absurd ha List.not_mem_nil, rfl, fun w hw => ?_⟩
        exact Nat.lt_of_not_le fun hle => hdue ⟨w, hw, hle⟩

/-- **Time goes on.**  By moves of its tasks and the passing of time a service
comes to any later time, whatever its dependencies answer or do not answer. -/
theorem Sound.time_goes_on (hs : s.Sound) {time : Instant} (htime : s.now ≤ time) :
    ∃ actions : List (Action δ), (∀ a ∈ actions, a.IsOwn) ∧ (s.run actions).now = time := by
  generalize hleft : time - s.now = left
  induction left using Nat.strongRecOn generalizing s with
  | ind left ih =>
      by_cases hend : s.now = time
      · exact ⟨[], fun a ha => absurd ha List.not_mem_nil, hend⟩
      obtain ⟨moves, hmoves, hnow, hwaits⟩ := hs.settles
      -- Time passes to the next moment of a task, or at once to the end.
      let next := (s.run moves).wake.elim time (min time)
      have hnext : s.now < next ∧ next ≤ time := by
        have hlt : s.now < time := Nat.lt_of_le_of_ne htime hend
        cases hw : (s.run moves).wake with
        | none => simpa [next, hw] using hlt
        | some w =>
            have hle := hwaits w hw
            simp only [next, hw, Option.elim]
            grind
      have hpass : ((s.run moves).pass next).now = next := by
        have hallowed : (s.run moves).now ≤ next ∧ ∀ w ∈ (s.run moves).wake, next ≤ w := by
          refine ⟨hnow ▸ Nat.le_of_lt hnext.1, fun w hw => ?_⟩
          simp only [next, Option.mem_def.mp hw, Option.elim]
          exact Nat.min_le_right _ _
        simp only [pass, if_pos hallowed]
      have hlater : time - next < left := by
        grind
      obtain ⟨actions, hactions, hrun⟩ :=
        ih _ hlater ((hs.run moves).act (.pass next)) (by rw [Service.act, hpass]; exact hnext.2)
          (by rw [Service.act, hpass])
      refine ⟨moves ++ .pass next :: actions, ?_, ?_⟩
      · intro a ha
        rcases List.mem_append.mp ha with ha | ha
        · exact hmoves a ha
        · rcases List.mem_cons.mp ha with rfl | ha
          · trivial
          · exact hactions a ha
      · rw [Service.run, List.foldl_append]
        exact hrun

/-! ## What is under way ends -/

/-- Nothing that a service does by itself drops a task. -/
theorem not_drop_of_own {actions : List (Action δ)} (hown : ∀ a ∈ actions, a.IsOwn) (id : Nat) :
    .drop id ∉ actions := fun h => hown _ h

/-- What has ended stays so without anything more. -/
theorem ended_ends {time : Instant} {outcome : Outcome}
    (hid : s.tasks[id]? = some (.ended time outcome)) :
    ∃ more : List (Action δ), (∀ a ∈ more, a.IsOwn) ∧
      ((s.run more).outcome? id).isSome = true := by
  refine ⟨[], by simp, ?_⟩
  rw [Service.run, List.foldl_nil, outcome?_eq_some_iff.mpr hid]
  rfl

/-- A report under way comes to its end. -/
theorem Sound.report_ends (hs : s.Sound) {purpose : Purpose} {g : Gathering}
    (hid : s.tasks[id]? = some (.running span (.reporting purpose g))) :
    ∃ more : List (Action δ), (∀ a ∈ more, a.IsOwn) ∧
      ((s.run more).outcome? id).isSome = true := by
  obtain ⟨limit, hg⟩ := hs.jobs id span _ hid
  obtain ⟨more, hown, hnow⟩ := hs.time_goes_on (Nat.le_succ_of_le hg.now_le)
  refine ⟨more, hown, ?_⟩
  rcases run_reporting hid hg (not_drop_of_own hown id) with hle | hended
  · exact absurd (hnow ▸ hle) (Nat.not_succ_le_self _)
  · exact hended

/-- A probe under way comes to its end. -/
theorem Sound.probe_ends (hs : s.Sound) {p : Probe}
    (hid : s.tasks[id]? = some (.running span (.probing p))) :
    ∃ more : List (Action δ), (∀ a ∈ more, a.IsOwn) ∧
      ((s.run more).outcome? id).isSome = true := by
  have hp : p.Sound s.prober s.handles.length s.now := hs.jobs id span _ hid
  obtain ⟨more, hown, hnow⟩ := hs.time_goes_on (Nat.le_succ_of_le hp.now_le)
  refine ⟨more, hown, ?_⟩
  rcases run_probing hs hid (not_drop_of_own hown id) with hle | hended
  · exact absurd (hnow ▸ hle) (Nat.not_succ_le_self _)
  · exact hended

/-! ## A service that never hears from its dependency -/

/-- A service whose only dependency never answers a check. -/
def silent (interval : Nat) : Service Scripted Unit :=
  (new () .standard interval 0 none).act (.register "db" (.ofLists [.never] [] none))

theorem silent_reachable (interval : Nat) : (silent interval).Reachable :=
  (Reachable.new () .standard interval 0 none).act _

end HealthWatch.Service
