import HealthWatch.Proofs.NameMapEntries
import HealthWatch.Proofs.TaskMoves

/-!
# Runs of a service

A service is `Reachable` if it comes about by any actions, in any order, from one
that has no tasks and whose names all have handles.  This file says what a run
keeps:

* `Continues` — settings stay, time and the handles only go on;
* `act_getElem?` — a given task stays as it is, makes a `JobMove`, or is dropped;
* `Sound` — every name and every task has its handle, and every probe and report
  under way is on time (`Reachable.sound`).

That a report is on time is where the guard of `Service.pass` comes in: time stops
at the moment at which a task has something to do (`pass_spec`).
-/

namespace HealthWatch.Service

variable {δ Env : Type}

/-! ## The passing of time -/

/-- A service has something to do when one of its tasks has. -/
theorem wake_mem {s : Service δ Env} {w : Instant} (h : s.wake = some w) :
    ∃ (id : Nat) (span : Option Span) (job : Job),
      s.tasks[id]? = some (.running span job) ∧ s.jobWake job = some w := by
  obtain ⟨task, htask, hwake⟩ := List.mem_filterMap.mp (List.min?_eq_some_iff.mp h).1
  obtain ⟨id, hid⟩ := List.getElem?_of_mem htask
  cases task with
  | running span job => exact ⟨id, span, job, hid, hwake⟩
  | ended time outcome => cases hwake
  | dropped => cases hwake

/-- A service has something to do no later than each of its tasks. -/
theorem wake_le {s : Service δ Env} {id : Nat} {span : Option Span} {job : Job} {w : Instant}
    (hid : s.tasks[id]? = some (.running span job)) (hw : s.jobWake job = some w) :
    ∃ w', s.wake = some w' ∧ w' ≤ w := by
  have hleast : ∀ {l : List Instant}, w ∈ l → ∃ w', l.min? = some w' ∧ w' ≤ w := by
    intro l hmem
    obtain ⟨w', hw'⟩ := Option.isSome_iff_exists.mp (List.isSome_min?_of_mem hmem)
    exact ⟨w', hw', (List.min?_eq_some_iff.mp hw').2 w hmem⟩
  exact hleast (List.mem_filterMap.mpr ⟨_, List.mem_of_getElem? hid, hw⟩)

/-- **Time.**  Time passes only up to the moment at which a task has something
to do, and nothing else changes with it. -/
theorem pass_spec (s : Service δ Env) (time : Instant) :
    s.pass time = s ∨
      s.pass time = { s with now := time } ∧ s.now ≤ time ∧
        ∀ (id : Nat) (span : Option Span) (job : Job) (w : Instant),
          s.tasks[id]? = some (.running span job) → s.jobWake job = some w → time ≤ w := by
  unfold pass
  split
  · next h =>
    refine .inr ⟨rfl, h.1, fun id span job w hid hw => ?_⟩
    obtain ⟨w', hw', hle⟩ := wake_le hid hw
    exact Nat.le_trans (h.2 w' hw') hle
  · exact .inl rfl

/-! ## Jobs that are on time -/

/-- A job all of whose dependencies are among the first `handles`, and whose
probes and report are on time at `now`. -/
def JobSound (prober : Prober) (handles : Nat) (now : Instant) : Job → Prop
  | .probing p => p.Sound prober handles now
  | .reporting _ g => ∃ limit, g.Sound prober handles limit now
  | .connecting .. => True
  | .closing c => ∀ x ∈ c.remaining, x.2 < handles
  | .ticking (.cycling _ g) => ∃ limit, g.Sound prober handles limit now
  | .ticking _ => True

theorem JobSound.mono {prober : Prober} {handles more : Nat} {now : Instant} {job : Job}
    (h : JobSound prober handles now job) (hle : handles ≤ more) :
    JobSound prober more now job := by
  cases job with
  | probing p => exact Probe.Sound.mono h hle
  | reporting purpose g => exact h.imp fun _ hg => hg.mono hle
  | connecting handle call => trivial
  | closing c => exact fun x hx => Nat.lt_of_lt_of_le (h x hx) hle
  | ticking l =>
      cases l with
      | starting => trivial
      | idle next => trivial
      | cycling next g => exact h.imp fun _ hg => Gathering.Sound.mono hg hle

/-- Time passes only as far as leaves a job on time. -/
theorem JobSound.wait {s : Service δ Env} {time : Instant} {job : Job}
    (hjob : JobSound s.prober s.handles.length s.now job) (hfrom : s.now ≤ time)
    (hto : ∀ w, s.jobWake job = some w → time ≤ w) :
    JobSound s.prober s.handles.length time job := by
  cases job with
  | probing p => exact Probe.Sound.wait hjob hfrom (hto _ rfl)
  | reporting purpose g => exact hjob.imp fun _ hg => hg.wait hfrom (hto _ rfl)
  | connecting handle call => trivial
  | closing c => exact hjob
  | ticking l =>
      cases l with
      | starting => trivial
      | idle next => trivial
      | cycling next g =>
          by_cases hsignalled : s.ticker.signalled = true
          · have hle : time ≤ s.now := hto _ (by simp [jobWake, hsignalled])
            rw [Nat.le_antisymm hle hfrom]
            exact hjob
          · exact hjob.imp fun _ hg => Gathering.Sound.wait hg hfrom
              (hto _ (by simp [jobWake, hsignalled]))

/-- A service all of whose names have handles, and all of whose tasks are on time.
A loop gets beyond its first turn only if it has an interval. -/
structure Sound (s : Service δ Env) : Prop where
  registry : ∀ e ∈ s.registry.all, e.2 < s.handles.length
  jobs : ∀ (id : Nat) (span : Option Span) (job : Job),
    s.tasks[id]? = some (.running span job) → JobSound s.prober s.handles.length s.now job
  loops : ∀ (id : Nat) (span : Option Span) (l : Loop),
    s.tasks[id]? = some (.running span (.ticking l)) → l = .starting ∨ s.ticker.interval ≠ 0

/-- The tasks that actions add to a service. -/
inductive Begins (s : Service δ Env) : Action δ → Task → Prop
  | probe {name : String} {handle : Nat} {deadline : Instant}
      (hname : s.registry.get? name = some handle) :
      Begins s (.beginProbe name deadline)
        (.running none (.probing (.start s.prober name handle deadline s.now)))
  | report (deadline : Instant) :
      Begins s (.beginReport deadline)
        (.running none (.reporting .report (.start s.prober s.registry deadline s.now)))
  | cycle :
      Begins s .beginCycle (.running none (.reporting .cycle
        (.start s.prober s.registry (s.now + s.ticker.budget) s.now)))
  | request :
      Begins s .beginRequest (.running (some .request) (.reporting .request
        (.start s.prober s.registry (s.now + s.prober.ceiling) s.now)))
  | connect {name : String} (handle : Nat) (call : Call Unit) :
      Begins s (.beginConnect name) (.running none (.connecting handle call))
  | closing {order : List (String × Nat)} (horder : order.Perm s.registry.all) :
      Begins s (.beginClosing order) (.running none (.closing ⟨order, none, 0⟩))
  | closed {order : List (String × Nat)} : Begins s (.beginClosing order) (.ended s.now .closed)
  | ticker : Begins s .beginTicker (.running (some .ticker) (.ticking .starting))

/-- What an action begins is on time. -/
theorem Begins.sound {s : Service δ Env} {a : Action δ} {span : Option Span} {job : Job}
    (hs : s.Sound) (hbegins : Begins s a (.running span job)) :
    JobSound s.prober s.handles.length s.now job := by
  cases hbegins with
  | probe hname =>
      have hmem := NameMap.get?_eq_some_iff.mp hname
      exact .start _ _ (hs.registry _ hmem)
  | report => exact ⟨_, .ofEntries hs.registry⟩
  | cycle => exact ⟨_, .ofEntries hs.registry⟩
  | request => exact ⟨_, .ofEntries hs.registry⟩
  | connect => trivial
  | closing horder => exact fun x hx => hs.registry x (horder.subset hx)
  | ticker => trivial

/-- A task that is on time can be added to a service. -/
theorem Sound.spawn {s : Service δ Env} (hs : s.Sound) {span : Option Span} {job : Job}
    (hjob : JobSound s.prober s.handles.length s.now job) (hloop : ∀ l, job ≠ .ticking l) :
    (s.spawn span job).Sound := by
  have hcases : ∀ {id : Nat} {span' : Option Span} {job' : Job},
      (s.spawn span job).tasks[id]? = some (.running span' job') →
        (∃ id' : Nat, s.tasks[id']? = some (.running span' job')) ∨ job' = job := by
    intro id span' job' hid
    rcases List.mem_append.mp (List.mem_of_getElem? hid) with hold | hnew
    · exact .inl (List.getElem?_of_mem hold)
    · cases List.mem_singleton.mp hnew
      exact .inr rfl
  refine ⟨hs.registry, fun id span' job' hid => ?_, fun id span' l hid => ?_⟩
  · rcases hcases hid with ⟨id', hid'⟩ | rfl
    · exact hs.jobs id' span' job' hid'
    · exact hjob
  · rcases hcases hid with ⟨id', hid'⟩ | heq
    · exact hs.loops id' span' l hid'
    · exact absurd heq.symm (hloop l)

variable [Dependency δ Env]

/-! ## What actions leave alone -/

/-- What holds of two services of which the second comes after the first. -/
structure Continues (s s' : Service δ Env) : Prop where
  prober : s'.prober = s.prober
  upBefore : s'.upBefore = s.upBefore
  interval : s'.ticker.interval = s.ticker.interval
  signalled : s.ticker.signalled = true → s'.ticker.signalled = true
  now_le : s.now ≤ s'.now
  handles : HandlesLater s.handles s'.handles
  tasks_length : s.tasks.length ≤ s'.tasks.length

namespace Continues

theorem refl (s : Service δ Env) : Continues s s :=
  ⟨rfl, rfl, rfl, id, Nat.le_refl _, .refl _, Nat.le_refl _⟩

theorem trans {s₁ s₂ s₃ : Service δ Env} (h₁ : Continues s₁ s₂) (h₂ : Continues s₂ s₃) :
    Continues s₁ s₃ :=
  ⟨h₂.prober.trans h₁.prober, h₂.upBefore.trans h₁.upBefore, h₂.interval.trans h₁.interval,
    h₂.signalled ∘ h₁.signalled, Nat.le_trans h₁.now_le h₂.now_le,
    h₁.handles.trans h₂.handles, Nat.le_trans h₁.tasks_length h₂.tasks_length⟩

/-- The number of handles only grows. -/
theorem handles_length {s s' : Service δ Env} (h : Continues s s') :
    s.handles.length ≤ s'.handles.length := h.handles.length_le

theorem of_frame {s s' : Service δ Env} (h : Frame s s')
    (htasks : s.tasks.length ≤ s'.tasks.length) : Continues s s' :=
  ⟨h.prober, h.upBefore, h.interval, fun hs => h.signalled.trans hs,
    Nat.le_of_eq h.now.symm, h.handles, htasks⟩

/-- A new task. -/
theorem spawn (s : Service δ Env) (span : Option Span) (job : Job) :
    Continues s (s.spawn span job) :=
  ⟨rfl, rfl, rfl, id, Nat.le_refl _, .refl _, by simp [Service.spawn]⟩

/-- A new handle. -/
theorem register (s : Service δ Env) (name : String) (dependency : δ) :
    Continues s (s.register name dependency).2 :=
  ⟨rfl, rfl, rfl, id, Nat.le_refl _,
    fun k h hk => ⟨h, by
      rw [← hk]
      exact List.getElem?_append_left (List.getElem?_eq_some_iff.mp hk).1, .refl _⟩,
    Nat.le_refl _⟩

theorem move (s : Service δ Env) (id : Nat) (part : Part) : Continues s (s.move id part) := by
  unfold Service.move
  split
  · next span job hid =>
    obtain ⟨task, hmoved⟩ := moveJob_spec part hid
    exact .of_frame hmoved.frame (Nat.le_of_eq (by rw [hmoved.tasks, List.length_set]))
  · exact .refl s

theorem drop (s : Service δ Env) (id : Nat) : Continues s (s.drop id) := by
  unfold Service.drop
  split
  · next span job hid =>
    obtain ⟨hframe, htasks, _⟩ := s.abandonJob_frame job
    exact .of_frame (hframe.trans (.setTask _ _ _)) (by simp [setTask, htasks])
  · exact .refl s

theorem pass (s : Service δ Env) (time : Instant) : Continues s (s.pass time) := by
  unfold Service.pass
  split
  · next h => exact ⟨rfl, rfl, rfl, id, h.1, .refl _, Nat.le_refl _⟩
  · exact .refl s

theorem beginConnect (s : Service δ Env) (name : String) :
    Continues s (s.beginConnect name) := by
  unfold Service.beginConnect
  split
  · exact .refl s
  · next handle hname =>
    split
    · exact .refl s
    · next h hh =>
      have hlater : Dependency.Later h.dependency (h.connect s.now s.env).2.1.dependency :=
        .connect s.now s.env (.refl _)
      have hcall := Frame.call (h.connect s.now s.env).2.2 hh hlater
      exact (of_frame hcall (Nat.le_refl _)).trans (.spawn _ _ _)

theorem act (s : Service δ Env) (a : Action δ) : Continues s (s.act a) := by
  cases a with
  | register name dependency => exact .register s name dependency
  | beginProbe name deadline =>
      simp only [Service.act, Service.beginProbe]
      split
      · exact .spawn _ _ _
      · exact .refl s
  | beginReport deadline => exact .spawn _ _ _
  | beginCycle => exact .spawn _ _ _
  | beginRequest => exact (of_frame (.tell s _ _) (Nat.le_refl _)).trans (.spawn _ _ _)
  | beginConnect name => exact .beginConnect s name
  | beginClosing order =>
      simp only [Service.act, Service.beginClosing]
      split
      · exact ⟨rfl, rfl, rfl, id, Nat.le_refl _, .refl _, by simp⟩
      · split
        · exact ⟨rfl, rfl, rfl, id, Nat.le_refl _, .refl _, by simp [Service.spawn]⟩
        · exact .refl s
  | beginTicker => exact .spawn _ _ _
  | signal => exact ⟨rfl, rfl, rfl, fun _ => rfl, Nat.le_refl _, .refl _, Nat.le_refl _⟩
  | move id part => exact .move s id part
  | drop id => exact .drop s id
  | pass time => exact .pass s time

theorem run (s : Service δ Env) (actions : List (Action δ)) : Continues s (s.run actions) := by
  induction actions generalizing s with
  | nil => exact .refl s
  | cons a actions ih => exact (act s a).trans (ih (s.act a))

end Continues

/-- What actions of a kind keep is kept by a run of them. -/
theorem run_keeps {P : Service δ Env → Prop} {kind : Action δ → Prop}
    (hact : ∀ s a, P s → kind a → P (s.act a)) {s : Service δ Env} (h : P s)
    {actions : List (Action δ)} (hactions : ∀ a ∈ actions, kind a) : P (s.run actions) := by
  induction actions generalizing s with
  | nil => exact h
  | cons a actions ih =>
      obtain ⟨ha, hrest⟩ := List.forall_mem_cons.mp hactions
      exact ih (hact s a h ha) hrest

/-! ## What actions do to tasks -/

/-- What an action does to the tasks of a service. -/
inductive TasksAfter (s : Service δ Env) : Action δ → Service δ Env → Prop
  | same {a : Action δ} {s' : Service δ Env} (htasks : s'.tasks = s.tasks)
      (hcycles : s'.ticker.cycles = s.ticker.cycles) : TasksAfter s a s'
  | begun {a : Action δ} {s' : Service δ Env} {task : Task} (hbegins : Begins s a task)
      (htasks : s'.tasks = s.tasks ++ [task])
      (hcycles : s'.ticker.cycles = s.ticker.cycles) : TasksAfter s a s'
  | moved {s' : Service δ Env} {id : Nat} {part : Part} {span : Option Span} {job : Job}
      {task : Task} (hid : s.tasks[id]? = some (.running span job))
      (hmoved : Moved s s' id span job task) : TasksAfter s (.move id part) s'
  | dropped {s' : Service δ Env} {id : Nat} {span : Option Span} {job : Job}
      (hid : s.tasks[id]? = some (.running span job))
      (htasks : s'.tasks = s.tasks.set id .dropped)
      (hcycles : s'.ticker.cycles = s.ticker.cycles) : TasksAfter s (.drop id) s'

theorem act_tasks (s : Service δ Env) (a : Action δ) : TasksAfter s a (s.act a) := by
  cases a with
  | register name dependency => exact .same rfl rfl
  | beginProbe name deadline =>
      simp only [act, beginProbe]
      split
      · next handle hname => exact .begun (.probe hname) rfl rfl
      · exact .same rfl rfl
  | beginReport deadline => exact .begun (.report deadline) rfl rfl
  | beginCycle => exact .begun .cycle rfl rfl
  | beginRequest => exact .begun .request rfl rfl
  | beginConnect name =>
      simp only [act, beginConnect]
      split
      · exact .same rfl rfl
      · split
        · exact .same rfl rfl
        · exact .begun (.connect _ _) rfl rfl
  | beginClosing order =>
      simp only [act, beginClosing]
      split
      · exact .begun .closed rfl rfl
      · split
        · next horder => exact .begun (.closing horder) rfl rfl
        · exact .same rfl rfl
  | beginTicker => exact .begun .ticker rfl rfl
  | signal => exact .same rfl rfl
  | move id part =>
      simp only [act, move]
      split
      · next span job hid =>
        obtain ⟨task, hmoved⟩ := moveJob_spec part hid
        exact .moved hid hmoved
      · exact .same rfl rfl
  | drop id =>
      simp only [act, drop]
      split
      · next span job hid =>
        obtain ⟨_, htasks, hticker⟩ := s.abandonJob_frame job
        refine .dropped hid ?_ ?_
        · simp only [setTask, htasks]
        · simp only [setTask, hticker]
      · exact .same rfl rfl
  | pass time =>
      simp only [act, pass]
      split <;> exact .same rfl rfl

/-- **One task.**  Whatever happens to a service, a given task stays as it is, or
makes a move, or is dropped. -/
theorem act_getElem? {s : Service δ Env} {id : Nat} {task : Task}
    (hid : s.tasks[id]? = some task) (a : Action δ) :
    (s.act a).tasks[id]? = some task ∨
      (∃ part span job task', a = .move id part ∧ task = .running span job ∧
        (s.act a).tasks[id]? = some task' ∧ Moved s (s.act a) id span job task') ∨
      (a = .drop id ∧ (s.act a).tasks[id]? = some .dropped) := by
  obtain ⟨hlt, _⟩ := List.getElem?_eq_some_iff.mp hid
  generalize hs' : s.act a = s'
  have htasks := s.act_tasks a
  rw [hs'] at htasks
  cases htasks with
  | same htasks => exact .inl (by rw [htasks, hid])
  | begun _ htasks => exact .inl (by rw [htasks, List.getElem?_append_left hlt, hid])
  | @moved _ id' part span job task' hid' hmoved =>
      by_cases heq : id' = id
      · subst heq
        refine .inr (.inl ⟨part, span, job, task', rfl, ?_, ?_, hmoved⟩)
        · exact Option.some.inj (hid.symm.trans hid')
        · rw [hmoved.tasks, List.getElem?_set_self hlt]
      · exact .inl (by rw [hmoved.tasks, List.getElem?_set_ne heq, hid])
  | @dropped _ id' span job hid' htasks =>
      by_cases heq : id' = id
      · subst heq
        exact .inr (.inr ⟨rfl, by rw [htasks, List.getElem?_set_self hlt]⟩)
      · exact .inl (by rw [htasks, List.getElem?_set_ne heq, hid])

/-- What has ended stays so. -/
theorem act_ended {s : Service δ Env} {id : Nat} {time : Instant} {outcome : Outcome}
    (hid : s.tasks[id]? = some (.ended time outcome)) (a : Action δ) :
    (s.act a).tasks[id]? = some (.ended time outcome) := by
  by_cases ha : a = .drop id
  · subst ha
    simp only [act, drop, hid]
  · rcases act_getElem? hid a with hsame | ⟨_, _, _, _, _, htask, _⟩ | ⟨hdrop, _⟩
    · exact hsame
    · cases htask
    · exact absurd hdrop ha

/-- **All tasks.**  A task that is there after an action was there before, or was begun by
it, or is what a move made of a job, or is dropped. -/
theorem task_act {s : Service δ Env} {a : Action δ} {id : Nat} {task : Task}
    (hid : (s.act a).tasks[id]? = some task) :
    s.tasks[id]? = some task ∨ Begins s a task ∨
      (∃ (span : Option Span) (job : Job), s.tasks[id]? = some (.running span job) ∧
        JobMove s span job task) ∨ task = .dropped := by
  by_cases hlt : id < s.tasks.length
  · rcases act_getElem? (List.getElem?_eq_getElem hlt) a with
      hsame | ⟨_, span, job, task', _, htask, hid', hmoved⟩ | ⟨_, hdropped⟩
    · exact .inl ((List.getElem?_eq_getElem hlt).trans (hsame.symm.trans hid))
    · cases hid'.symm.trans hid
      exact .inr (.inr (.inl ⟨span, job, htask ▸ List.getElem?_eq_getElem hlt, hmoved.move⟩))
    · cases hdropped.symm.trans hid
      exact .inr (.inr (.inr rfl))
  · have hge := Nat.le_of_not_lt hlt
    generalize hs' : s.act a = s' at hid
    have htasks := s.act_tasks a
    rw [hs'] at htasks
    cases htasks with
    | same htasks =>
        rw [htasks, List.getElem?_eq_none hge] at hid
        cases hid
    | begun hbegins htasks =>
        rw [htasks, List.getElem?_append_right hge] at hid
        cases List.mem_singleton.mp (List.mem_of_getElem? hid)
        exact .inr (.inl hbegins)
    | moved hid' hmoved =>
        rw [hmoved.tasks, List.getElem?_eq_none (by rwa [List.length_set])] at hid
        cases hid
    | dropped hid' htasks =>
        rw [htasks, List.getElem?_eq_none (by rwa [List.length_set])] at hid
        cases hid

/-- A task under way after an action was under way before, or was begun by it, or is what a
move made of a job. -/
theorem running_act {s : Service δ Env} {a : Action δ} {id : Nat} {span : Option Span} {job : Job}
    (hid : (s.act a).tasks[id]? = some (.running span job)) :
    s.tasks[id]? = some (.running span job) ∨ Begins s a (.running span job) ∨
      ∃ (span' : Option Span) (job' : Job), s.tasks[id]? = some (.running span' job') ∧
        JobMove s span' job' (.running span job) := by
  rcases task_act hid with hsame | hbegins | hmove | hdropped
  · exact .inl hsame
  · exact .inr (.inl hbegins)
  · exact .inr (.inr hmove)
  · cases hdropped

/-- What an action leaves alone that neither lets time pass, nor tells the ticker to
stop, nor registers. -/
structure Keeps (s : Service δ Env) (a : Action δ) (s' : Service δ Env) : Prop where
  now : (∀ time, a ≠ .pass time) → s'.now = s.now
  signalled : a ≠ .signal → s'.ticker.signalled = s.ticker.signalled
  names : (∀ name dependency, a ≠ .register name dependency) → s'.registry.all = s.registry.all
  handles_length : (∀ name dependency, a ≠ .register name dependency) →
    s'.handles.length = s.handles.length

theorem Keeps.of_frame {a : Action δ} {s s' : Service δ Env} (h : Frame s s') : Keeps s a s' :=
  ⟨fun _ => h.now, fun _ => h.signalled, fun _ => congrArg Registry.all h.registry,
    fun _ => h.handles_length⟩

theorem act_keeps (s : Service δ Env) (a : Action δ) : Keeps s a (s.act a) := by
  cases a with
  | register name dependency =>
      exact ⟨fun _ => rfl, fun _ => rfl, fun h => absurd rfl (h name dependency),
        fun h => absurd rfl (h name dependency)⟩
  | beginProbe name deadline =>
      simp only [act, beginProbe]
      split <;> exact ⟨fun _ => rfl, fun _ => rfl, fun _ => rfl, fun _ => rfl⟩
  | beginReport deadline => exact ⟨fun _ => rfl, fun _ => rfl, fun _ => rfl, fun _ => rfl⟩
  | beginCycle => exact ⟨fun _ => rfl, fun _ => rfl, fun _ => rfl, fun _ => rfl⟩
  | beginRequest => exact ⟨fun _ => rfl, fun _ => rfl, fun _ => rfl, fun _ => rfl⟩
  | beginConnect name =>
      simp only [act, beginConnect]
      split
      · exact ⟨fun _ => rfl, fun _ => rfl, fun _ => rfl, fun _ => rfl⟩
      · split
        · exact ⟨fun _ => rfl, fun _ => rfl, fun _ => rfl, fun _ => rfl⟩
        · exact ⟨fun _ => rfl, fun _ => rfl, fun _ => rfl, fun _ => List.length_set⟩
  | beginClosing order =>
      simp only [act, beginClosing]
      split
      · exact ⟨fun _ => rfl, fun _ => rfl, fun _ => rfl, fun _ => rfl⟩
      · split <;> exact ⟨fun _ => rfl, fun _ => rfl, fun _ => rfl, fun _ => rfl⟩
  | beginTicker => exact ⟨fun _ => rfl, fun _ => rfl, fun _ => rfl, fun _ => rfl⟩
  | signal => exact ⟨fun _ => rfl, fun h => absurd rfl h, fun _ => rfl, fun _ => rfl⟩
  | move id part =>
      simp only [act, move]
      split
      · next span job hid =>
        obtain ⟨task, hmoved⟩ := moveJob_spec part hid
        exact .of_frame hmoved.frame
      · exact ⟨fun _ => rfl, fun _ => rfl, fun _ => rfl, fun _ => rfl⟩
  | drop id =>
      simp only [act, drop]
      split
      · next span job hid => exact .of_frame ((s.abandonJob_frame job).1.trans (.setTask _ _ _))
      · exact ⟨fun _ => rfl, fun _ => rfl, fun _ => rfl, fun _ => rfl⟩
  | pass time =>
      simp only [act, pass]
      split <;> exact ⟨fun h => absurd rfl (h time), fun _ => rfl, fun _ => rfl, fun _ => rfl⟩

theorem act_now {s : Service δ Env} {a : Action δ} (ha : ∀ time, a ≠ .pass time) :
    (s.act a).now = s.now := (s.act_keeps a).now ha

theorem act_signalled {s : Service δ Env} {a : Action δ} (ha : a ≠ .signal) :
    (s.act a).ticker.signalled = s.ticker.signalled := (s.act_keeps a).signalled ha

/-! ## Services that are on time -/

/-- A move of a lane leaves a report on time. -/
theorem LaneMove.sound {s : Service δ Env} {g g' : Gathering} {limit : Instant}
    (hmove : LaneMove s g g') (hg : g.Sound s.prober s.handles.length limit s.now) :
    g'.Sound s.prober s.handles.length limit s.now := by
  cases hmove with
  | rest => exact hg
  | @move n p h hlane hdue hhandle =>
      refine hg.set fun q hq => ?_
      obtain ⟨hp, hlimit⟩ := hg.lane p (List.mem_of_getElem? hlane)
      cases hprogress : (p.resume s.prober s.now h s.env).progress with
      | going r =>
          rw [hprogress] at hq
          obtain rfl : r = q := Lane.running.inj hq
          have hsound := hp.resume hprogress
          obtain ⟨stage, _, rfl⟩ := Probe.resume_going hprogress
          exact ⟨hsound, hlimit⟩
      | done finding =>
          rw [hprogress] at hq
          cases hq

/-- A move leaves a job on time. -/
theorem JobMove.sound {s : Service δ Env} {span span' : Option Span} {job job' : Job}
    (hs : s.Sound) (hmove : JobMove s span job (.running span' job'))
    (hjob : JobSound s.prober s.handles.length s.now job) :
    JobSound s.prober s.handles.length s.now job' := by
  generalize htask : Task.running span' job' = task at hmove
  cases hmove with
  | rest => cases htask; exact hjob
  | @probe p h hdue hhandle =>
      cases hprogress : (p.resume s.prober s.now h s.env).progress with
      | going q =>
          rw [hprogress] at htask
          cases htask
          exact Probe.Sound.resume hjob hprogress
      | done finding =>
          rw [hprogress] at htask
          cases htask
  | lane hlane => cases htask; exact hjob.imp fun _ hg => hlane.sound hg
  | report => cases htask
  | connect => cases htask
  | closed => cases htask; exact hjob
  | closeNext hcurrent hremaining hhandle =>
      cases htask
      exact fun x hx => hjob x (hremaining ▸ List.mem_cons_of_mem _ hx)
  | allClosed => cases htask
  | noInterval => cases htask
  | started => cases htask; trivial
  | stopped => cases htask
  | tick => cases htask; exact ⟨_, .ofEntries hs.registry⟩
  | cycleLane hlane => cases htask; exact hjob.imp fun _ hg => hlane.sound hg
  | cycle => cases htask; trivial

/-- A loop after a move was as it is, or had its first turn, or was beyond that. -/
theorem JobMove.of_loop {s : Service δ Env} {span span' : Option Span} {job : Job} {l : Loop}
    (hmove : JobMove s span' job (.running span (.ticking l))) :
    job = .ticking l ∨ s.ticker.interval ≠ 0 ∨ ∃ l', job = .ticking l' ∧ l' ≠ .starting := by
  generalize htask : Task.running span (.ticking l) = task at hmove
  cases hmove with
  | @probe p h hdue hhandle =>
      cases hprogress : (p.resume s.prober s.now h s.env).progress <;>
        simp [hprogress, probingAfter] at htask
  | rest => cases htask; exact .inl rfl
  | started hinterval => exact .inr (.inl hinterval)
  | tick => exact .inr (.inr ⟨_, rfl, by simp⟩)
  | cycleLane => exact .inr (.inr ⟨_, rfl, by simp⟩)
  | cycle => exact .inr (.inr ⟨_, rfl, by simp⟩)
  | _ => cases htask

omit [Dependency δ Env] in
/-- A registration brings one handle. -/
theorem register_handles_length (s : Service δ Env) (name : String) (dependency : δ) :
    (s.register name dependency).2.handles.length = s.handles.length + 1 := by
  simp [register, adopt, tell]

/-- Every name has a handle after whatever happens. -/
theorem Sound.act_registry {s : Service δ Env} (hs : s.Sound) (a : Action δ) :
    ∀ e ∈ (s.act a).registry.all, e.2 < (s.act a).handles.length := by
  intro e he
  by_cases hregister : ∃ name dependency, a = .register name dependency
  · obtain ⟨name, dependency, rfl⟩ := hregister
    rw [act, register_handles_length]
    rcases NameMap.mem_entries_insert he with rfl | he
    · exact Nat.lt_succ_self _
    · exact Nat.lt_succ_of_lt (hs.registry e he)
  · have hnames := (s.act_keeps a).names fun name dependency ha => hregister ⟨name, dependency, ha⟩
    rw [hnames] at he
    exact Nat.lt_of_lt_of_le (hs.registry e he) (Continues.act s a).handles_length

/-- A loop still has its interval after whatever happens. -/
theorem Sound.act_loops {s : Service δ Env} (hs : s.Sound) (a : Action δ) (id : Nat)
    (span : Option Span) (l : Loop)
    (hid : (s.act a).tasks[id]? = some (.running span (.ticking l))) :
    l = .starting ∨ (s.act a).ticker.interval ≠ 0 := by
  rw [(Continues.act s a).interval]
  rcases running_act hid with hid' | hbegins | ⟨span', job, hid', hmove⟩
  · exact hs.loops id span l hid'
  · cases hbegins
    exact .inl rfl
  · rcases hmove.of_loop with rfl | hinterval | ⟨l', rfl, hbegun⟩
    · exact hs.loops id span' l hid'
    · exact .inr hinterval
    · exact .inr ((hs.loops id span' l' hid').resolve_left hbegun)

/-- Whatever happens leaves every task on time. -/
theorem Sound.act {s : Service δ Env} (hs : s.Sound) (a : Action δ) : (s.act a).Sound := by
  refine ⟨hs.act_registry a, fun id span job hid => ?_, hs.act_loops a⟩
  have hcontinues := Continues.act s a
  by_cases hpass : ∃ time, a = .pass time
  · obtain ⟨time, rfl⟩ := hpass
    rcases s.pass_spec time with hrest | ⟨hpassed, hfrom, hto⟩
    · have hsame : s.act (.pass time) = s := hrest
      rw [hsame] at hid ⊢
      exact hs.jobs id span job hid
    · have htime : s.act (.pass time) = { s with now := time } := hpassed
      rw [htime] at hid
      rw [hcontinues.prober, htime]
      exact (hs.jobs id span job hid).wait hfrom (hto id span job · hid)
  · have hnow : (s.act a).now = s.now := act_now fun time ha => hpass ⟨time, ha⟩
    rw [hnow, hcontinues.prober]
    refine JobSound.mono ?_ hcontinues.handles_length
    rcases running_act hid with hid' | hbegins | ⟨span', job', hid', hmove⟩
    · exact hs.jobs id span job hid'
    · exact hbegins.sound hs
    · exact hmove.sound hs (hs.jobs id span' job' hid')

/-! ## Reachable services -/

/-- A service of which nothing has been asked yet, and all of whose names have
handles. -/
structure Fresh (s : Service δ Env) : Prop where
  tasks : s.tasks = []
  registry : ∀ e ∈ s.registry.all, e.2 < s.handles.length

/-- A service that comes about by any actions from one of which nothing had been
asked. -/
inductive Reachable : Service δ Env → Prop
  | fresh {s : Service δ Env} (h : s.Fresh) : Reachable s
  | act {s : Service δ Env} (h : Reachable s) (a : Action δ) : Reachable (s.act a)

/-- A service without names is reachable. -/
theorem Reachable.new (env : Env) (prober : Prober) (interval upBefore : Nat)
    (metrics : Option Metrics) :
    Reachable (Service.new env prober interval upBefore metrics : Service δ Env) :=
  .fresh ⟨rfl, fun _ he => absurd he List.not_mem_nil⟩

theorem Sound.run {s : Service δ Env} (hs : s.Sound) (actions : List (Action δ)) :
    (s.run actions).Sound := by
  induction actions generalizing s with
  | nil => exact hs
  | cons a actions ih => exact ih (hs.act a)

theorem Reachable.run {s : Service δ Env} (h : s.Reachable) (actions : List (Action δ)) :
    (s.run actions).Reachable := by
  induction actions generalizing s with
  | nil => exact h
  | cons a actions ih => exact ih (h.act a)

/-- Every task of a reachable service is on time. -/
theorem Reachable.sound {s : Service δ Env} (h : s.Reachable) : s.Sound := by
  induction h with
  | fresh h =>
      exact ⟨h.registry, fun id span job hid => by simp [h.tasks] at hid,
        fun id span l hid => by simp [h.tasks] at hid⟩
  | act _ a ih => exact ih.act a

end HealthWatch.Service
