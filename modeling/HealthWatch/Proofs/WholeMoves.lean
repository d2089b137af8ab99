import HealthWatch.Proofs.ServiceRuns

/-!
# What a move does to the whole service

`Moved` says what becomes of the task that moves.  `Does` also says what becomes of the
rest: it lists the moves of each kind of job, with the task that comes of it and the
service that is left when that task has yet to be put in its place.  Every move of a
task is one of these (`move_does`), so what a move records, tells, begins and ends is
read off `Does` case by case.

`changes` compares the tasks of two states of a service, and `observed` adds up what is
seen so all along a run.  Only a move shows anything (`OfMoves.act`).
-/

namespace HealthWatch

/-- What events are about. -/
inductive Topic where
  | probe
  | report
  | cycle
  | loop
  | closing
  /-- Something was asked from outside. -/
  | asked
  /-- The process beside the service. -/
  | process
deriving DecidableEq

/-- What an event is about. -/
def Event.topic : Event → Topic
  | .retry _ | .probeSucceeded .. | .diagnosed .. | .diagnosticsFailed .. | .probeFailed .. =>
    .probe
  | .reportBuilt .. | .reportServed _ => .report
  | .cycleHealthy .. | .cycleUnhealthy .. | .cycleComplete .. => .cycle
  | .tickerStarted _ | .tickerStopped => .loop
  | .dependencyClosed _ | .closeFailed .. | .registryClosed .. => .closing
  | .registered _ | .replaced _ | .healthRequested => .asked
  | _ => .process

namespace Service

variable {δ Env : Type}

/-- What is told of a handle that was closed. -/
def closeEvent (name : String) : Except DependencyError Unit → Event
  | .ok () => .dependencyClosed name
  | .error e => .closeFailed name e

/-- Whether a handle could not be closed. -/
def closeFails : Except DependencyError Unit → Bool
  | .ok () => false
  | .error _ => true

/-- A ticker's loop has stopped. -/
def halt (s : Service δ Env) : Service δ Env :=
  ({ s with ticker := { s.ticker with stopped := true } }).tell (some .ticker) [.tickerStopped]

variable [Dependency δ Env]

/-- What one move makes of a job, and the service it leaves. -/
inductive Does (s : Service δ Env) (span : Option Span) : Job → Task → Service δ Env → Prop
  | rest (job : Job) : Does s span job (.running span job) s
  | probe (p : Probe) (hdue : p.wake ≤ s.now) :
      Does s span (.probing p) (probingAfter span s.now (s.moveProbe span p).2)
        (s.moveProbe span p).1
  | lane (purpose : Purpose) (g : Gathering) (n : Nat) :
      Does s span (.reporting purpose g)
        (.running span (.reporting purpose (s.moveLane span g n).2)) (s.moveLane span g n).1
  | report (purpose : Purpose) {g : Gathering} {results : List (String × ProbeResult)}
      (hresults : g.results? = some results) :
      Does s span (.reporting purpose g)
        (.ended s.now (purpose.outcome (s.finishReport span results).2))
        ((s.finishReport span results).1.serveReport span purpose
          (s.finishReport span results).2)
  | connect (handle : Nat) {call : Call Unit} {ends : Instant} (hends : call.ends = some ends)
      (hdue : ends ≤ s.now) :
      Does s span (.connecting handle call) (.ended s.now (.connected call.outcome))
        (s.modifyHandle handle Handle.leave)
  | closed {c : Closing} {name : String} {handle : Nat} {call : Call Unit} {ends : Instant}
      (hcurrent : c.current = some (name, handle, call)) (hends : call.ends = some ends)
      (hdue : ends ≤ s.now) :
      Does s span (.closing c)
        (.running none (.closing { c with
          current := none
          failures := c.failures + (closeFails call.outcome).toNat }))
        ((s.modifyHandle handle Handle.leave).tell none [closeEvent name call.outcome])
  | closeNext {c : Closing} {name : String} {handle : Nat} {rest : List (String × Nat)}
      {h : Handle δ} (hcurrent : c.current = none)
      (hremaining : c.remaining = (name, handle) :: rest)
      (hhandle : s.handles[handle]? = some h) :
      Does s span (.closing c)
        (.running none (.closing { c with
          remaining := rest
          current := some (name, handle, (h.close s.now s.env).1.unbounded s.now) }))
        { s with
          env := (h.close s.now s.env).2.2
          handles := s.handles.set handle (h.close s.now s.env).2.1 }
  | allClosed {c : Closing} (hcurrent : c.current = none) (hremaining : c.remaining = []) :
      Does s span (.closing c) (.ended s.now .closed)
        (s.tell none [.registryClosed s.registry.size c.failures])
  | noInterval (hinterval : s.ticker.interval = 0) :
      Does s span (.ticking .starting) (.ended s.now .noInterval) s
  | started (hinterval : s.ticker.interval ≠ 0) (hsilent : s.ticker.signalled = false) :
      Does s span (.ticking .starting)
        (.running (some .ticker) (.ticking (.idle (s.now + s.ticker.interval))))
        (s.tell (some .ticker) [.tickerStarted (.ofMillis s.ticker.interval)])
  | unstarted (hinterval : s.ticker.interval ≠ 0) (hsignalled : s.ticker.signalled = true) :
      Does s span (.ticking .starting) (.ended s.now .stopped)
        (s.tell (some .ticker) [.tickerStarted (.ofMillis s.ticker.interval)]).halt
  | stopped {l : Loop} (hl : l ≠ .starting) (hsignalled : s.ticker.signalled = true) :
      Does s span (.ticking l) (.ended s.now .stopped) (s.abandonJob (.ticking l)).halt
  | tick {next : Instant} (hdue : next ≤ s.now) :
      Does s span (.ticking (.idle next))
        (.running (some .ticker) (.ticking (.cycling (s.now + s.ticker.interval)
          (.start s.prober s.registry (s.now + s.ticker.budget) s.now)))) s
  | cycleLane (next : Instant) (g : Gathering) (n : Nat) :
      Does s span (.ticking (.cycling next g))
        (.running span (.ticking (.cycling next (s.moveLane span g n).2)))
        (s.moveLane span g n).1
  | cycle (next : Instant) {g : Gathering} {results : List (String × ProbeResult)}
      (hresults : g.results? = some results) :
      Does s span (.ticking (.cycling next g))
        (.running (some .ticker) (.ticking (.idle next)))
        ((s.finishReport (some .ticker) results).1.finishCycle (some .ticker)
          (s.finishReport (some .ticker) results).2)

variable {s : Service δ Env} {id : Nat} {span : Option Span}

omit [Dependency δ Env] in
/-- A task put in its own place changes nothing. -/
theorem setTask_self {task : Task} (hid : s.tasks[id]? = some task) : s.setTask id task = s := by
  obtain ⟨hlt, hget⟩ := List.getElem?_eq_some_iff.mp hid
  rw [setTask, ← hget, List.set_getElem_self]

/-- What a move of a closing does. -/
theorem moveClosing_does {c : Closing}
    (hid : s.tasks[id]? = some (.running span (.closing c))) :
    ∃ task s', Does s span (.closing c) task s' ∧ s.moveClosing id c = s'.setTask id task := by
  have hrest := setTask_self hid
  cases hcurrent : c.current with
  | none =>
      cases hremaining : c.remaining with
      | nil =>
          refine ⟨_, _, .allClosed hcurrent hremaining, ?_⟩
          simp only [moveClosing, hcurrent, hremaining]
      | cons x rest =>
          obtain ⟨name, handle⟩ := x
          cases hh : s.handles[handle]? with
          | none =>
              refine ⟨_, _, .rest _, ?_⟩
              simp only [moveClosing, hcurrent, hremaining, hh, hrest]
          | some h =>
              refine ⟨_, _, .closeNext hcurrent hremaining hh, ?_⟩
              simp only [moveClosing, hcurrent, hremaining, hh]
  | some x =>
      obtain ⟨name, handle, call⟩ := x
      by_cases hdue : ∃ ends, call.ends = some ends ∧ ends ≤ s.now
      · obtain ⟨ends, hends, hdue⟩ := hdue
        refine ⟨_, _, .closed hcurrent hends hdue, ?_⟩
        simp only [moveClosing, hcurrent, hends, if_pos hdue]
        cases call.outcome <;> rfl
      · refine ⟨_, _, .rest _, ?_⟩
        simp only [moveClosing, hcurrent, hrest]
        split
        · rfl
        · next ends hends => exact if_neg fun hle => hdue ⟨ends, hends, hle⟩

/-- What a move of a loop does, other than one of its lanes. -/
theorem moveLoop_does {l : Loop} (hid : s.tasks[id]? = some (.running span (.ticking l))) :
    ∃ task s', Does s span (.ticking l) task s' ∧ s.moveLoop id l = s'.setTask id task := by
  have hrest := setTask_self hid
  cases l with
  | starting =>
      by_cases hinterval : s.ticker.interval = 0
      · exact ⟨_, _, .noInterval hinterval, if_pos hinterval⟩
      · cases hsignalled : s.ticker.signalled with
        | false =>
            refine ⟨_, _, .started hinterval hsignalled, ?_⟩
            simp [moveLoop, startLoop, tell, hinterval, hsignalled]
        | true =>
            refine ⟨_, _, .unstarted hinterval hsignalled, ?_⟩
            simp [moveLoop, startLoop, stopLoop, halt, tell, hinterval, hsignalled]
  | idle next =>
      by_cases hdue : next ≤ s.now
      · exact ⟨_, _, .tick hdue, if_pos hdue⟩
      · exact ⟨_, _, .rest _, (if_neg hdue).trans hrest.symm⟩
  | cycling next g =>
      cases hresults : g.results? with
      | some results =>
          refine ⟨_, _, .cycle next hresults, ?_⟩
          simp only [moveLoop, hresults]
      | none =>
          refine ⟨_, _, .rest _, ?_⟩
          simp only [moveLoop, hresults, hrest]

/-- A loop that may be told to stop notices it, unless it has not had its first turn. -/
theorem noticeSignal_does {l : Loop} (hid : s.tasks[id]? = some (.running span (.ticking l))) :
    ∃ task s', Does s span (.ticking l) task s' ∧ s.noticeSignal id l = s'.setTask id task := by
  have hrest := setTask_self hid
  cases hsignalled : s.ticker.signalled with
  | false =>
      refine ⟨_, _, .rest _, ?_⟩
      simp [noticeSignal, hsignalled, hrest]
  | true =>
      cases l with
      | starting =>
          refine ⟨_, _, .rest _, ?_⟩
          simp [noticeSignal, hrest]
      | idle next =>
          refine ⟨_, _, .stopped (by simp) hsignalled, ?_⟩
          simp only [noticeSignal, if_pos hsignalled]
          rfl
      | cycling next g =>
          have hstop : (s.abandonLanes g).stopLoop id =
              (s.abandonLanes g).halt.setTask id (.ended (s.abandonLanes g).now .stopped) := rfl
          refine ⟨_, _, .stopped (by simp) hsignalled, ?_⟩
          simp only [noticeSignal, if_pos hsignalled]
          rw [hstop, (s.abandonLanes_frame g).1.now]
          rfl

/-- Every move of a job is one of those that `Does` lists. -/
theorem moveJob_does {job : Job} (part : Part) (hid : s.tasks[id]? = some (.running span job)) :
    ∃ task s', Does s span job task s' ∧ s.moveJob id span job part = s'.setTask id task := by
  have hrest := setTask_self hid
  cases job with
  | probing p =>
      cases part with
      | whole =>
          by_cases hdue : p.wake ≤ s.now
          · refine ⟨_, _, .probe p hdue, ?_⟩
            have hnow := (s.moveProbe_frame span p).1.now
            simp only [moveJob, if_pos hdue]
            cases hmove : s.moveProbe span p with
            | mk s' progress =>
                rw [hmove] at hnow
                cases progress with
                | going q => rfl
                | done finding => simp only [probingAfter, show s'.now = s.now from hnow]
          · exact ⟨_, _, .rest _, (if_neg hdue).trans hrest.symm⟩
      | lane n => exact ⟨_, _, .rest _, hrest.symm⟩
      | signal => exact ⟨_, _, .rest _, hrest.symm⟩
  | reporting purpose g =>
      cases part with
      | lane n => exact ⟨_, _, .lane purpose g n, rfl⟩
      | whole =>
          cases hresults : g.results? with
          | none =>
              refine ⟨_, _, .rest _, ?_⟩
              simp only [moveJob, hresults, hrest]
          | some results =>
              refine ⟨_, _, .report purpose hresults, ?_⟩
              simp only [moveJob, hresults]
              rfl
      | signal => exact ⟨_, _, .rest _, hrest.symm⟩
  | connecting handle call =>
      cases part with
      | whole =>
          by_cases hdue : ∃ ends, call.ends = some ends ∧ ends ≤ s.now
          · obtain ⟨ends, hends, hdue⟩ := hdue
            refine ⟨_, _, .connect handle hends hdue, ?_⟩
            simp only [moveJob, hends, if_pos hdue]
          · refine ⟨_, _, .rest _, ?_⟩
            simp only [moveJob, hrest]
            split
            · rfl
            · next ends hends => exact if_neg fun hle => hdue ⟨ends, hends, hle⟩
      | lane n => exact ⟨_, _, .rest _, hrest.symm⟩
      | signal => exact ⟨_, _, .rest _, hrest.symm⟩
  | closing c =>
      cases part with
      | whole => exact moveClosing_does hid
      | lane n => exact ⟨_, _, .rest _, hrest.symm⟩
      | signal => exact ⟨_, _, .rest _, hrest.symm⟩
  | ticking l =>
      cases part with
      | whole => cases l <;> exact moveLoop_does hid
      | signal => cases l <;> exact noticeSignal_does hid
      | lane n =>
          cases l with
          | cycling next g => exact ⟨_, _, .cycleLane next g n, rfl⟩
          | starting => exact ⟨_, _, .rest _, hrest.symm⟩
          | idle next => exact ⟨_, _, .rest _, hrest.symm⟩

/-- **Every move of a task** leaves the service as it is or is one of those that `Does`
lists. -/
theorem move_does (s : Service δ Env) (id : Nat) (part : Part) :
    s.move id part = s ∨ ∃ span job task s', s.tasks[id]? = some (.running span job) ∧
      Does s span job task s' ∧ s.move id part = s'.setTask id task := by
  cases hid : s.tasks[id]? with
  | none => exact .inl (by simp only [move, hid])
  | some old =>
      cases old with
      | running span job =>
          obtain ⟨task, s', hdoes, heq⟩ := moveJob_does part hid
          exact .inr ⟨span, job, task, s', rfl, hdoes, by simp only [move, hid, heq]⟩
      | ended time outcome => exact .inl (by simp only [move, hid])
      | dropped => exact .inl (by simp only [move, hid])

/-- **Every action** leaves the service as it is, or makes one of the moves that `Does` lists,
or is no move. -/
theorem act_cases (s : Service δ Env) (a : Action δ) :
    s.act a = s ∨
      (∃ id span job task s', s.tasks[id]? = some (.running span job) ∧
        Does s span job task s' ∧ s.act a = s'.setTask id task) ∨
      ∀ id part, a ≠ .move id part := by
  by_cases hmove : ∃ id part, a = .move id part
  · obtain ⟨id, part, rfl⟩ := hmove
    rcases s.move_does id part with hrest | ⟨span, job, task, s', hmoved⟩
    · exact .inl hrest
    · exact .inr (.inl ⟨id, span, job, task, s', hmoved⟩)
  · exact .inr (.inr fun id part heq => hmove ⟨id, part, heq⟩)

/-- A lane that is not due rests. -/
theorem moveLane_rest (span : Option Span) {g : Gathering} {n : Nat}
    (hrests : ¬∃ p, g.lanes[n]? = some (.running p) ∧ p.wake ≤ s.now) :
    s.moveLane span g n = (s, g) := by
  simp only [moveLane]
  split
  · next p hlane => exact if_neg fun hdue => hrests ⟨p, hlane, hdue⟩
  · rfl

/-! ## Giving up -/

omit [Dependency δ Env] in
theorem abandonProbe_eq (s : Service δ Env) (p : Probe) :
    s.abandonProbe p = { s with handles := (s.abandonProbe p).handles } := by
  unfold abandonProbe
  split <;> rfl

omit [Dependency δ Env] in
theorem abandonLanes_eq (s : Service δ Env) (g : Gathering) :
    s.abandonLanes g = { s with handles := (s.abandonLanes g).handles } := by
  obtain ⟨lanes⟩ := g
  unfold abandonLanes
  induction lanes generalizing s with
  | nil => rfl
  | cons lane lanes ih =>
      rw [List.foldl_cons]
      cases lane with
      | running p =>
          simp only
          rw [ih (s.abandonProbe p), s.abandonProbe_eq p]
      | finished name result => exact ih s

omit [Dependency δ Env] in
/-- Giving up a job changes nothing but the handles. -/
theorem abandonJob_eq (s : Service δ Env) (job : Job) :
    s.abandonJob job = { s with handles := (s.abandonJob job).handles } := by
  unfold abandonJob
  split
  · exact s.abandonProbe_eq _
  · exact s.abandonLanes_eq _
  · rfl
  · split <;> rfl
  · exact s.abandonLanes_eq _
  · rfl

/-- A move changes no list of tasks before its task is put in place. -/
theorem Does.tasks_eq {job : Job} {task : Task} {s' : Service δ Env}
    (hdoes : Does s span job task s') : s'.tasks = s.tasks := by
  cases hdoes with
  | probe p => exact (s.moveProbe_frame span p).2.1
  | lane purpose g n => exact (s.moveLane_spec span g n).2.2.1
  | report purpose => exact (serveReport_frame _ span purpose _).2.1
  | stopped => exact (s.abandonJob_frame _).2.1
  | cycleLane next g n => exact (s.moveLane_spec span g n).2.2.1
  | _ => rfl

/-! ## Actions that are no moves -/

/-- What only moves change: what is recorded and counted, whether the ticker has stopped,
and what is told of anything but what was asked from outside. -/
structure Aside (s s' : Service δ Env) : Prop where
  metrics : s'.metrics = s.metrics
  stopped : s'.ticker.stopped = s.ticker.stopped
  cycles : s'.ticker.cycles = s.ticker.cycles
  log : ∃ more : List LogEntry, s'.log = more ++ s.log ∧ ∀ e ∈ more, e.event.topic = .asked

omit [Dependency δ Env] in
theorem Aside.of_log {s s' : Service δ Env} (hmetrics : s'.metrics = s.metrics)
    (hstopped : s'.ticker.stopped = s.ticker.stopped)
    (hcycles : s'.ticker.cycles = s.ticker.cycles) (hlog : s'.log = s.log) : Aside s s' :=
  ⟨hmetrics, hstopped, hcycles, [], hlog, by simp⟩

theorem act_aside (s : Service δ Env) {a : Action δ} (ha : ∀ id part, a ≠ .move id part) :
    Aside s (s.act a) := by
  cases a with
  | register name dependency =>
      refine ⟨rfl, rfl, rfl, [_], rfl, ?_⟩
      intro e he
      cases List.mem_singleton.mp he
      cases s.registry.handles.get? name <;> rfl
  | beginProbe name deadline =>
      simp only [act, beginProbe]
      split <;> exact .of_log rfl rfl rfl rfl
  | beginReport deadline => exact .of_log rfl rfl rfl rfl
  | beginCycle => exact .of_log rfl rfl rfl rfl
  | beginRequest => exact ⟨rfl, rfl, rfl, [_], rfl, by simp [Event.topic]⟩
  | beginConnect name =>
      simp only [act, beginConnect]
      split
      · exact .of_log rfl rfl rfl rfl
      · split <;> exact .of_log rfl rfl rfl rfl
  | beginClosing order =>
      simp only [act, beginClosing]
      split
      · exact .of_log rfl rfl rfl rfl
      · split <;> exact .of_log rfl rfl rfl rfl
  | beginTicker => exact .of_log rfl rfl rfl rfl
  | signal => exact .of_log rfl rfl rfl rfl
  | move id part => exact absurd rfl (ha id part)
  | drop id =>
      simp only [act, drop]
      split
      · next span job hid =>
        rw [s.abandonJob_eq job]
        exact .of_log rfl rfl rfl rfl
      · exact .of_log rfl rfl rfl rfl
  | pass time =>
      simp only [act, pass]
      split <;> exact .of_log rfl rfl rfl rfl

/-! ## What is seen of a run -/

/-- What is seen where the elements of a list changed, one after another. -/
def changes {τ α : Type} (see : τ → τ → List α) (before after : List τ) : List α :=
  (List.zipWith see before after).flatten

variable {τ α : Type} {see : τ → τ → List α}

theorem changes_cons (x y : τ) (l l' : List τ) :
    changes see (x :: l) (y :: l') = see x y ++ changes see l l' := rfl

/-- What is seen is seen of one of the elements. -/
theorem mem_changes {l l' : List τ} {a : α} (ha : a ∈ changes see l l') :
    ∃ (n : Nat) (x y : τ), l[n]? = some x ∧ l'[n]? = some y ∧ a ∈ see x y := by
  obtain ⟨_, hseen, ha⟩ := List.mem_flatten.mp ha
  obtain ⟨n, hn⟩ := List.getElem?_of_mem hseen
  obtain ⟨x, y, hx, hy, rfl⟩ := List.getElem?_zipWith_eq_some.mp hn
  exact ⟨n, x, y, hx, hy, ha⟩

/-- Nothing is seen of what stays as it is. -/
theorem changes_self (hsame : ∀ x, see x x = []) (l : List τ) : changes see l l = [] := by
  induction l with
  | nil => rfl
  | cons x l ih => rw [changes_cons, hsame, ih, List.append_nil]

/-- Nothing is seen of what is new. -/
theorem changes_append (l l' more : List τ) (hlength : l.length = l'.length) :
    changes see l (l' ++ more) = changes see l l' := by
  induction l generalizing l' with
  | nil =>
      obtain rfl : l' = [] := List.eq_nil_of_length_eq_zero hlength.symm
      rfl
  | cons x l ih =>
      cases l' with
      | nil => cases hlength
      | cons y l' => rw [List.cons_append, changes_cons, changes_cons, ih l' (Nat.succ.inj hlength)]

/-- If one element changes, what is seen is what is seen of it. -/
theorem changes_set (hsame : ∀ x, see x x = []) {l : List τ} {n : Nat} {x y : τ}
    (hn : l[n]? = some x) : changes see l (l.set n y) = see x y := by
  induction l generalizing n with
  | nil => cases hn
  | cons z l ih =>
      cases n with
      | zero =>
          obtain rfl : z = x := Option.some.inj hn
          rw [List.set_cons_zero, changes_cons, changes_self hsame, List.append_nil]
      | succ n => rw [List.set_cons_succ, changes_cons, hsame, List.nil_append, ih hn]

/-- What is seen of the tasks all along a run. -/
def observed (see : Service δ Env → Task → Task → List α) :
    Service δ Env → List (Action δ) → List α
  | _, [] => []
  | s, a :: rest => changes (see s) s.tasks (s.act a).tasks ++ observed see (s.act a) rest

theorem observed_append (see : Service δ Env → Task → Task → List α) (s : Service δ Env)
    (actions more : List (Action δ)) :
    observed see s (actions ++ more) =
      observed see s actions ++ observed see (s.run actions) more := by
  induction actions generalizing s with
  | nil => rfl
  | cons a actions ih =>
      rw [List.cons_append, observed, ih, observed, List.append_assoc]
      rfl

/-- **Where something is seen.**  It is seen of one action, and what is seen before it is seen
of the actions before that one, or of the same. -/
theorem observed_split {see : Service δ Env → Task → Task → List α} {actions : List (Action δ)}
    {earlier later : List α} {x : α} (h : observed see s actions = earlier ++ x :: later) :
    ∃ first a rest before after, actions = first ++ a :: rest ∧
      earlier = observed see s first ++ before ∧
      changes (see (s.run first)) (s.run first).tasks ((s.run first).act a).tasks =
        before ++ x :: after := by
  induction actions generalizing s earlier with
  | nil => simp [observed] at h
  | cons a actions ih =>
      have hlater : ∀ {more : List α}, observed see (s.act a) actions = more ++ x :: later →
          earlier = changes (see s) s.tasks (s.act a).tasks ++ more →
          ∃ first a' rest before after, a :: actions = first ++ a' :: rest ∧
            earlier = observed see s first ++ before ∧
            changes (see (s.run first)) (s.run first).tasks ((s.run first).act a').tasks =
              before ++ x :: after := by
        intro more hmore hearlier
        obtain ⟨first, a', rest, before, after, rfl, rfl, hchanges⟩ := ih hmore
        refine ⟨a :: first, a', rest, before, after, rfl, ?_, hchanges⟩
        rw [hearlier, observed, List.append_assoc]
      rw [observed] at h
      rcases List.append_eq_append_iff.mp h with ⟨more, hearlier, hmore⟩ | ⟨more, hnow, hmore⟩
      · exact hlater hmore hearlier
      · cases more with
        | nil =>
            have hnone : observed see (s.act a) actions = [] ++ x :: later := hmore.symm
            exact hlater hnone (by simpa using hnow.symm)
        | cons y more =>
            obtain ⟨rfl, -⟩ := List.cons.inj hmore
            exact ⟨[], a, actions, earlier, more, rfl, rfl, hnow⟩

/-- Of the tasks only those show anything that move. -/
structure OfMoves (see : Task → Task → List α) : Prop where
  same : ∀ task, see task task = []
  dropped : ∀ task, see task .dropped = []

/-- Where no task moves nothing is seen. -/
theorem OfMoves.act {see : Task → Task → List α} (hsee : OfMoves see) {a : Action δ}
    (ha : ∀ id part, a ≠ .move id part) : changes see s.tasks (s.act a).tasks = [] := by
  generalize hs' : s.act a = s'
  have htasks := s.act_tasks a
  rw [hs'] at htasks
  cases htasks with
  | same htasks => rw [htasks, changes_self hsee.same]
  | begun _ htasks => rw [htasks, changes_append _ _ _ rfl, changes_self hsee.same]
  | moved => exact absurd rfl (ha _ _)
  | dropped hid htasks => rw [htasks, changes_set hsee.same hid, hsee.dropped]

/-- Where a task moves that move is seen. -/
theorem OfMoves.does {see : Task → Task → List α} (hsee : OfMoves see) {job : Job} {task : Task}
    {s' : Service δ Env} (hid : s.tasks[id]? = some (.running span job))
    (hdoes : Does s span job task s') :
    changes see s.tasks (s'.setTask id task).tasks = see (.running span job) task := by
  rw [setTask, hdoes.tasks_eq, changes_set hsee.same hid]

end Service

end HealthWatch
