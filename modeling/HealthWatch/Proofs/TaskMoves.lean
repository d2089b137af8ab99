import HealthWatch.Proofs.ReportLanes
import HealthWatch.Service.Moves

/-!
# What moves do to a service

`JobMove` lists, for each kind of job, the tasks that one move can make of it,
with the guards of the move.  `moveJob_spec` says that a move does exactly one of
these things to its task, and that the rest of the service stays in `Frame`: the
clock, the registry, the settings and the number of handles are the same, and
every handle holds what it held, after some calls.

`act_getElem?` is the form in which later modules use this: whatever happens to a
service, a given task stays as it is, or makes a `JobMove`, or is dropped.
-/

namespace HealthWatch

variable {δ Env : Type} [Dependency δ Env]

/-- The second dependency is the first one after some calls. -/
inductive Dependency.Later : δ → δ → Prop
  | refl (d : δ) : Later d d
  | check {d d' : δ} (now : Instant) (env : Env) (h : Later d d') :
      Later d (Dependency.check now d' env).2.1
  | details {d d' : δ} (now : Instant) (env : Env) (h : Later d d') :
      Later d (Dependency.details now d' env).2.1
  | close {d d' : δ} (now : Instant) (env : Env) (h : Later d d') :
      Later d (Dependency.close now d' env).2.1
  | connect {d d' : δ} (now : Instant) (env : Env) (h : Later d d') :
      Later d (Dependency.connect now d' env).2.1

namespace Dependency.Later

theorem trans {d₁ d₂ d₃ : δ} (h₁ : Later d₁ d₂) (h₂ : Later d₂ d₃) : Later d₁ d₃ := by
  induction h₂ with
  | refl => exact h₁
  | check now env _ ih => exact ih.check now env
  | details now env _ ih => exact ih.details now env
  | close now env _ ih => exact ih.close now env
  | connect now env _ ih => exact ih.connect now env

/-- Calls do not change whether there are diagnostics. -/
theorem hasDetails_eq {d d' : δ} (h : Later d d') :
    Dependency.hasDetails d' = Dependency.hasDetails d := by
  induction h with
  | refl => rfl
  | check now env _ ih => rw [Dependency.hasDetails_check, ih]
  | details now env _ ih => rw [Dependency.hasDetails_details, ih]
  | close now env _ ih => rw [Dependency.hasDetails_close, ih]
  | connect now env _ ih => rw [Dependency.hasDetails_connect, ih]

end Dependency.Later

open Dependency (Later)

/-- A move of a probe makes at most one call. -/
theorem Probe.resume_later (prober : Prober) (p : Probe) (now : Instant) (h : Handle δ)
    (env : Env) : Later h.dependency (p.resume prober now h env).handle.dependency := by
  unfold Probe.resume
  split
  · unfold Probe.begin
    split
    · exact .details now env (.refl _)
    · exact .check now env (.refl _)
  · exact .refl _
  · exact .refl _

namespace Service

/-! ## What moves leave alone -/

/-- The handles of the second list hold what those of the first held, after
some calls. -/
def HandlesLater (l l' : List (Handle δ)) : Prop :=
  ∀ (k : Nat) (h : Handle δ), l[k]? = some h →
    ∃ h' : Handle δ, l'[k]? = some h' ∧ Later h.dependency h'.dependency

theorem HandlesLater.refl (l : List (Handle δ)) : HandlesLater l l :=
  fun _ h hk => ⟨h, hk, .refl _⟩

theorem HandlesLater.trans {l₁ l₂ l₃ : List (Handle δ)} (h₁ : HandlesLater l₁ l₂)
    (h₂ : HandlesLater l₂ l₃) : HandlesLater l₁ l₃ := by
  intro k h hk
  obtain ⟨h', hk', hlater⟩ := h₁ k h hk
  obtain ⟨h'', hk'', hlater'⟩ := h₂ k h' hk'
  exact ⟨h'', hk'', hlater.trans hlater'⟩

theorem HandlesLater.length_le {l l' : List (Handle δ)} (h : HandlesLater l l') :
    l.length ≤ l'.length := by
  refine Nat.le_of_not_lt fun hlt => ?_
  obtain ⟨h', hk', _⟩ := h l'.length _ (List.getElem?_eq_getElem hlt)
  simp at hk'

/-- A call on one handle. -/
theorem HandlesLater.set {l : List (Handle δ)} {k : Nat} {h h' : Handle δ}
    (hk : l[k]? = some h) (hlater : Later h.dependency h'.dependency) :
    HandlesLater l (l.set k h') := by
  intro j x hj
  by_cases hkj : k = j
  · subst hkj
    obtain rfl : h = x := Option.some.inj (hk.symm.trans hj)
    exact ⟨h', List.getElem?_set_self (List.getElem?_eq_some_iff.mp hk).1, hlater⟩
  · exact ⟨x, by rw [List.getElem?_set_ne hkj, hj], .refl _⟩

/-- What no move of a task changes. -/
structure Frame (s s' : Service δ Env) : Prop where
  now : s'.now = s.now
  registry : s'.registry = s.registry
  prober : s'.prober = s.prober
  upBefore : s'.upBefore = s.upBefore
  interval : s'.ticker.interval = s.ticker.interval
  signalled : s'.ticker.signalled = s.ticker.signalled
  handles_length : s'.handles.length = s.handles.length
  handles : HandlesLater s.handles s'.handles

namespace Frame

theorem refl (s : Service δ Env) : Frame s s :=
  ⟨rfl, rfl, rfl, rfl, rfl, rfl, rfl, .refl _⟩

theorem trans {s₁ s₂ s₃ : Service δ Env} (h₁ : Frame s₁ s₂) (h₂ : Frame s₂ s₃) : Frame s₁ s₃ :=
  ⟨h₂.now.trans h₁.now, h₂.registry.trans h₁.registry, h₂.prober.trans h₁.prober,
    h₂.upBefore.trans h₁.upBefore, h₂.interval.trans h₁.interval,
    h₂.signalled.trans h₁.signalled, h₂.handles_length.trans h₁.handles_length,
    h₁.handles.trans h₂.handles⟩

theorem tell (s : Service δ Env) (span : Option Span) (events : List Event) :
    Frame s (s.tell span events) :=
  ⟨rfl, rfl, rfl, rfl, rfl, rfl, rfl, .refl _⟩

theorem record (s : Service δ Env) (change : Metrics → Metrics) : Frame s (s.record change) :=
  ⟨rfl, rfl, rfl, rfl, rfl, rfl, rfl, .refl _⟩

theorem setTask (s : Service δ Env) (id : Nat) (task : Task) : Frame s (s.setTask id task) :=
  ⟨rfl, rfl, rfl, rfl, rfl, rfl, rfl, .refl _⟩

/-- The end of a call. -/
theorem leave (s : Service δ Env) (handle : Nat) : Frame s (s.modifyHandle handle Handle.leave) :=
  ⟨rfl, rfl, rfl, rfl, rfl, rfl, List.length_modify .., by
    intro k h hk
    by_cases hkj : handle = k
    · subst hkj
      exact ⟨h.leave, by simp [modifyHandle, hk], .refl _⟩
    · exact ⟨h, by simp [modifyHandle, hkj, hk], .refl _⟩⟩

/-- A call on one handle, with what it does to the surroundings. -/
theorem call {s : Service δ Env} {k : Nat} {h h' : Handle δ} (env : Env)
    (hk : s.handles[k]? = some h) (hlater : Later h.dependency h'.dependency) :
    Frame s { s with env := env, handles := s.handles.set k h' } :=
  ⟨rfl, rfl, rfl, rfl, rfl, rfl, List.length_set .., .set hk hlater⟩

end Frame

/-! ## Moves of probes and lanes -/

/-- A move of a probe resumes it with its handle, and changes nothing but that
handle, the surroundings, what is recorded and what is told. -/
theorem moveProbe_spec {s : Service δ Env} {p : Probe} {h : Handle δ} (span : Option Span)
    (hh : s.handles[p.handle]? = some h) :
    (s.moveProbe span p).2 = (p.resume s.prober s.now h s.env).progress ∧
      (s.moveProbe span p).1.handles =
        s.handles.set p.handle (p.resume s.prober s.now h s.env).handle ∧
      (s.moveProbe span p).1.env = (p.resume s.prober s.now h s.env).env := by
  simp only [moveProbe, hh]
  split
  · next q hq => exact ⟨hq.symm, rfl, rfl⟩
  · next finding hf => exact ⟨hf.symm, rfl, rfl⟩

theorem moveProbe_frame (s : Service δ Env) (span : Option Span) (p : Probe) :
    Frame s (s.moveProbe span p).1 ∧ (s.moveProbe span p).1.tasks = s.tasks ∧
      (s.moveProbe span p).1.ticker = s.ticker := by
  simp only [moveProbe]
  split
  · exact ⟨.refl s, rfl, rfl⟩
  · next h hh =>
    have hcall : Frame s { s with
        env := (p.resume s.prober s.now h s.env).env
        handles := s.handles.set p.handle (p.resume s.prober s.now h s.env).handle } :=
      .call _ hh (p.resume_later s.prober s.now h s.env)
    split
    · exact ⟨hcall.trans (.tell _ _ _), rfl, rfl⟩
    · exact ⟨(hcall.trans (.tell _ _ _)).trans (.record _ _), rfl, rfl⟩

/-- A lane after a move of its probe. -/
def laneAfter (p : Probe) (now : Instant) : Probe.Progress → Lane
  | .going q => .running q
  | .done finding => .finished p.name ⟨finding, now⟩

/-- What one move can make of the lanes of a report. -/
inductive LaneMove (s : Service δ Env) (g : Gathering) : Gathering → Prop
  | rest : LaneMove s g g
  | move {n : Nat} {p : Probe} {h : Handle δ} (hlane : g.lanes[n]? = some (.running p))
      (hdue : p.wake ≤ s.now) (hhandle : s.handles[p.handle]? = some h) :
      LaneMove s g
        ⟨g.lanes.set n (laneAfter p s.now (p.resume s.prober s.now h s.env).progress)⟩

/-- The move of a lane that is due. -/
theorem moveLane_due {s : Service δ Env} {g : Gathering} {n : Nat} {p : Probe}
    (span : Option Span) (hlane : g.lanes[n]? = some (.running p)) (hdue : p.wake ≤ s.now) :
    (s.moveLane span g n).1 = (s.moveProbe span p).1 ∧
      (s.moveLane span g n).2 =
        ⟨g.lanes.set n (laneAfter p s.now (s.moveProbe span p).2)⟩ := by
  have hnow := (s.moveProbe_frame span p).1.now
  simp only [moveLane, hlane, if_pos hdue]
  split
  · next s' q hq => simp [hq, laneAfter]
  · next s' finding hf =>
    have hnow' : s'.now = s.now := by rw [hf] at hnow; exact hnow
    simp [hf, laneAfter, hnow']

/-- A lane rests, or is due and resumes its probe with its handle. -/
theorem moveLane_cases (s : Service δ Env) (span : Option Span) (g : Gathering) (n : Nat) :
    s.moveLane span g n = (s, g) ∨
      ∃ (p : Probe) (h : Handle δ), g.lanes[n]? = some (.running p) ∧ p.wake ≤ s.now ∧
        s.handles[p.handle]? = some h ∧
        (s.moveLane span g n).1 = (s.moveProbe span p).1 ∧
        (s.moveLane span g n).2 =
          ⟨g.lanes.set n (laneAfter p s.now (p.resume s.prober s.now h s.env).progress)⟩ := by
  by_cases hmoves : ∃ p, g.lanes[n]? = some (.running p) ∧ p.wake ≤ s.now
  · obtain ⟨p, hlane, hdue⟩ := hmoves
    obtain ⟨hservice, hlanes⟩ := moveLane_due span hlane hdue
    cases hh : s.handles[p.handle]? with
    | none =>
        have hsame : s.moveProbe span p = (s, .going p) := by simp [moveProbe, hh]
        have hset : g.lanes.set n (.running p) = g.lanes := by
          obtain ⟨hn, hget⟩ := List.getElem?_eq_some_iff.mp hlane
          rw [← hget, List.set_getElem_self]
        rw [hsame] at hservice hlanes
        simp only [laneAfter, hset] at hlanes
        exact .inl (Prod.ext hservice hlanes)
    | some h =>
        refine .inr ⟨p, h, hlane, hdue, hh, hservice, ?_⟩
        rw [hlanes, (moveProbe_spec span hh).1]
  · refine .inl ?_
    simp only [moveLane]
    split
    · next p hlane => exact if_neg fun hdue => hmoves ⟨p, hlane, hdue⟩
    · rfl

theorem moveLane_spec (s : Service δ Env) (span : Option Span) (g : Gathering) (n : Nat) :
    LaneMove s g (s.moveLane span g n).2 ∧ Frame s (s.moveLane span g n).1 ∧
      (s.moveLane span g n).1.tasks = s.tasks ∧ (s.moveLane span g n).1.ticker = s.ticker := by
  rcases s.moveLane_cases span g n with hrest | ⟨p, h, hlane, hdue, hh, hservice, hlanes⟩
  · rw [hrest]
    exact ⟨.rest, .refl s, rfl, rfl⟩
  · rw [hservice, hlanes]
    exact ⟨.move hlane hdue hh, s.moveProbe_frame span p⟩

/-! ## Reports that are finished -/

theorem finishReport_frame (s : Service δ Env) (span : Option Span)
    (results : List (String × ProbeResult)) :
    Frame s (s.finishReport span results).1 ∧ (s.finishReport span results).1.tasks = s.tasks ∧
      (s.finishReport span results).1.ticker = s.ticker :=
  ⟨(Frame.tell s _ _).trans (.record _ _), rfl, rfl⟩

theorem finishCycle_frame (s : Service δ Env) (span : Option Span) (r : Report) :
    Frame s (s.finishCycle span r) ∧ (s.finishCycle span r).tasks = s.tasks ∧
      (s.finishCycle span r).ticker.cycles = s.ticker.cycles + 1 :=
  ⟨⟨rfl, rfl, rfl, rfl, rfl, rfl, rfl, .refl _⟩, rfl, rfl⟩

/-- A report that was made as a cycle counts as one. -/
theorem serveReport_frame (s : Service δ Env) (span : Option Span) (purpose : Purpose)
    (r : Report) :
    Frame s (s.serveReport span purpose r) ∧ (s.serveReport span purpose r).tasks = s.tasks ∧
      (s.serveReport span purpose r).ticker.cycles =
        s.ticker.cycles + if purpose = .cycle then 1 else 0 := by
  cases purpose with
  | report => exact ⟨.refl s, rfl, rfl⟩
  | cycle => exact s.finishCycle_frame span r
  | request => exact ⟨.tell s _ _, rfl, rfl⟩

/-! ## Giving up -/

theorem abandonProbe_frame (s : Service δ Env) (p : Probe) :
    Frame s (s.abandonProbe p) ∧ (s.abandonProbe p).tasks = s.tasks ∧
      (s.abandonProbe p).ticker = s.ticker := by
  unfold abandonProbe
  split
  · exact ⟨.leave s p.handle, rfl, rfl⟩
  · exact ⟨.refl s, rfl, rfl⟩

theorem abandonLanes_frame (s : Service δ Env) (g : Gathering) :
    Frame s (s.abandonLanes g) ∧ (s.abandonLanes g).tasks = s.tasks ∧
      (s.abandonLanes g).ticker = s.ticker := by
  obtain ⟨lanes⟩ := g
  unfold abandonLanes
  induction lanes generalizing s with
  | nil => exact ⟨.refl s, rfl, rfl⟩
  | cons lane lanes ih =>
      rw [List.foldl_cons]
      cases lane with
      | running p =>
          obtain ⟨hframe, htasks, hticker⟩ := s.abandonProbe_frame p
          obtain ⟨hframe', htasks', hticker'⟩ := ih (s.abandonProbe p)
          exact ⟨hframe.trans hframe', htasks'.trans htasks, hticker'.trans hticker⟩
      | finished name result => exact ih s

theorem abandonJob_frame (s : Service δ Env) (job : Job) :
    Frame s (s.abandonJob job) ∧ (s.abandonJob job).tasks = s.tasks ∧
      (s.abandonJob job).ticker = s.ticker := by
  unfold abandonJob
  split
  · exact s.abandonProbe_frame _
  · exact s.abandonLanes_frame _
  · exact ⟨.leave s _, rfl, rfl⟩
  · split
    · exact ⟨.leave s _, rfl, rfl⟩
    · exact ⟨.refl s, rfl, rfl⟩
  · exact s.abandonLanes_frame _
  · exact ⟨.refl s, rfl, rfl⟩

/-! ## Moves of tasks -/

/-- A task that probes one dependency, after a move. -/
def probingAfter (span : Option Span) (now : Instant) : Probe.Progress → Task
  | .going q => .running span (.probing q)
  | .done finding => .ended now (.probed ⟨finding, now⟩)

/-- What one move can make of a job. -/
inductive JobMove (s : Service δ Env) (span : Option Span) : Job → Task → Prop
  | rest (job : Job) : JobMove s span job (.running span job)
  | probe {p : Probe} {h : Handle δ} (hdue : p.wake ≤ s.now)
      (hhandle : s.handles[p.handle]? = some h) :
      JobMove s span (.probing p)
        (probingAfter span s.now (p.resume s.prober s.now h s.env).progress)
  | lane {purpose : Purpose} {g g' : Gathering} (hlane : LaneMove s g g') :
      JobMove s span (.reporting purpose g) (.running span (.reporting purpose g'))
  | report {purpose : Purpose} {g : Gathering} {results : List (String × ProbeResult)}
      (hresults : g.results? = some results) :
      JobMove s span (.reporting purpose g)
        (.ended s.now (purpose.outcome ⟨.ofList results, s.uptime, s.now⟩))
  | connect {handle : Nat} {call : Call Unit} {ends : Instant} (hends : call.ends = some ends)
      (hdue : ends ≤ s.now) :
      JobMove s span (.connecting handle call) (.ended s.now (.connected call.outcome))
  | closed {c : Closing} {name : String} {handle : Nat} {call : Call Unit} {ends : Instant}
      (hcurrent : c.current = some (name, handle, call)) (hends : call.ends = some ends)
      (hdue : ends ≤ s.now) :
      JobMove s span (.closing c) (.running none (.closing { c with
        current := none
        failures := match call.outcome with
          | .ok () => c.failures
          | .error _ => c.failures + 1 }))
  | closeNext {c : Closing} {name : String} {handle : Nat} {rest : List (String × Nat)}
      {h : Handle δ} (hcurrent : c.current = none)
      (hremaining : c.remaining = (name, handle) :: rest)
      (hhandle : s.handles[handle]? = some h) :
      JobMove s span (.closing c) (.running none (.closing { c with
        remaining := rest
        current := some (name, handle, (h.close s.now s.env).1.unbounded s.now) }))
  | allClosed {c : Closing} (hcurrent : c.current = none) (hremaining : c.remaining = []) :
      JobMove s span (.closing c) (.ended s.now .closed)
  | noInterval (hinterval : s.ticker.interval = 0) :
      JobMove s span (.ticking .starting) (.ended s.now .noInterval)
  | started (hinterval : s.ticker.interval ≠ 0) (hsilent : s.ticker.signalled = false) :
      JobMove s span (.ticking .starting)
        (.running (some .ticker) (.ticking (.idle (s.now + s.ticker.interval))))
  | stopped {l : Loop} (hsignalled : s.ticker.signalled = true) :
      JobMove s span (.ticking l) (.ended s.now .stopped)
  | tick {next : Instant} (hdue : next ≤ s.now) :
      JobMove s span (.ticking (.idle next))
        (.running (some .ticker) (.ticking (.cycling (s.now + s.ticker.interval)
          (.start s.prober s.registry (s.now + s.ticker.budget) s.now))))
  | cycleLane {next : Instant} {g g' : Gathering} (hlane : LaneMove s g g') :
      JobMove s span (.ticking (.cycling next g)) (.running span (.ticking (.cycling next g')))
  | cycle {next : Instant} {g : Gathering} {results : List (String × ProbeResult)}
      (hresults : g.results? = some results) :
      JobMove s span (.ticking (.cycling next g))
        (.running (some .ticker) (.ticking (.idle next)))

/-- How many cycles are completed when a job becomes a task by one move. -/
def completions : Job → Task → Nat
  | .reporting .cycle _, .ended .. => 1
  | .ticking (.cycling ..), .running _ (.ticking (.idle _)) => 1
  | _, _ => 0

/-- A service after a move by which task `id`, whose job was `job`, became
`task`. -/
structure Moved (s s' : Service δ Env) (id : Nat) (span : Option Span) (job : Job)
    (task : Task) : Prop where
  move : JobMove s span job task
  tasks : s'.tasks = s.tasks.set id task
  frame : Frame s s'
  cycles : s'.ticker.cycles = s.ticker.cycles + completions job task

variable {s : Service δ Env} {id : Nat} {span : Option Span}

/-- A move that does nothing. -/
theorem Moved.rest {job : Job} (hid : s.tasks[id]? = some (.running span job)) :
    Moved s s id span job (.running span job) where
  move := .rest job
  tasks := by
    obtain ⟨hlt, hget⟩ := List.getElem?_eq_some_iff.mp hid
    rw [← hget, List.set_getElem_self]
  frame := .refl s
  cycles := by
    unfold completions
    split <;> simp_all

/-! ### One lemma for each kind of move -/

theorem Moved.probe {p : Probe} {h : Handle δ} (hdue : p.wake ≤ s.now)
    (hh : s.handles[p.handle]? = some h) :
    Moved s (s.moveJob id span (.probing p) .whole) id span (.probing p)
      (probingAfter span s.now (p.resume s.prober s.now h s.env).progress) := by
  have hprogress := (moveProbe_spec span hh).1
  obtain ⟨hframe, htasks, hticker⟩ := s.moveProbe_frame span p
  have hmove : JobMove s span _ _ := .probe hdue hh
  rw [← hprogress] at hmove ⊢
  simp only [moveJob, if_pos hdue]
  cases hresult : s.moveProbe span p with
  | mk s' progress =>
      rw [hresult] at hmove hframe htasks hticker
      have hnow : s'.now = s.now := hframe.now
      cases progress with
      | going q =>
          exact ⟨hmove, congrArg (List.set · id _) htasks, hframe.trans (.setTask _ _ _),
            congrArg Ticker.cycles hticker⟩
      | done finding =>
          refine ⟨hmove, ?_, hframe.trans (.setTask _ _ _), congrArg Ticker.cycles hticker⟩
          simp only [setTask, hnow, probingAfter]
          exact congrArg (List.set · id _) htasks

theorem Moved.lane (s : Service δ Env) (id : Nat) (span : Option Span) (purpose : Purpose)
    (g : Gathering) (n : Nat) :
    Moved s (s.moveJob id span (.reporting purpose g) (.lane n)) id span
      (.reporting purpose g) (.running span (.reporting purpose (s.moveLane span g n).2)) := by
  obtain ⟨hlane, hframe, htasks, hticker⟩ := s.moveLane_spec span g n
  refine ⟨.lane hlane, congrArg (List.set · id _) htasks, hframe.trans (.setTask _ _ _), ?_⟩
  cases purpose <;> exact congrArg Ticker.cycles hticker

theorem Moved.report {purpose : Purpose} {g : Gathering}
    {results : List (String × ProbeResult)} (hresults : g.results? = some results) :
    Moved s (s.moveJob id span (.reporting purpose g) .whole) id span (.reporting purpose g)
      (.ended s.now (purpose.outcome ⟨.ofList results, s.uptime, s.now⟩)) := by
  obtain ⟨hfinish, htasks, hticker⟩ := s.finishReport_frame span results
  obtain ⟨hserve, htasks', hcycles⟩ := (s.finishReport span results).1.serveReport_frame span
    purpose (s.finishReport span results).2
  have hframe := hfinish.trans hserve
  simp only [moveJob, hresults]
  refine ⟨.report hresults, ?_, hframe.trans (.setTask _ _ _), ?_⟩
  · simp only [setTask, hframe.now, htasks', htasks]
    rfl
  · simp only [setTask, hcycles, hticker]
    cases purpose <;> rfl

theorem Moved.connect {handle : Nat} {call : Call Unit} {ends : Instant}
    (hends : call.ends = some ends) (hdue : ends ≤ s.now) :
    Moved s (s.moveJob id span (.connecting handle call) .whole) id span
      (.connecting handle call) (.ended s.now (.connected call.outcome)) := by
  simp only [moveJob, hends, if_pos hdue]
  exact ⟨.connect hends hdue, rfl, (Frame.leave s handle).trans (.setTask _ _ _), rfl⟩

theorem Moved.closed {c : Closing} {name : String} {handle : Nat} {call : Call Unit}
    {ends : Instant} (hcurrent : c.current = some (name, handle, call))
    (hends : call.ends = some ends) (hdue : ends ≤ s.now) :
    Moved s (s.moveJob id span (.closing c) .whole) id span (.closing c)
      (.running none (.closing { c with
        current := none
        failures := match call.outcome with
          | .ok () => c.failures
          | .error _ => c.failures + 1 })) := by
  have hmove : JobMove s span _ _ := .closed hcurrent hends hdue
  simp only [moveJob, moveClosing, hcurrent, hends, if_pos hdue]
  cases hcall : call.outcome with
  | ok value =>
      rw [hcall] at hmove
      exact ⟨hmove, rfl,
        ((Frame.leave s handle).trans (.tell _ _ _)).trans (.setTask _ _ _), rfl⟩
  | error e =>
      rw [hcall] at hmove
      exact ⟨hmove, rfl,
        ((Frame.leave s handle).trans (.tell _ _ _)).trans (.setTask _ _ _), rfl⟩

theorem Moved.closeNext {c : Closing} {name : String} {handle : Nat}
    {rest : List (String × Nat)} {h : Handle δ} (hcurrent : c.current = none)
    (hremaining : c.remaining = (name, handle) :: rest) (hh : s.handles[handle]? = some h) :
    Moved s (s.moveJob id span (.closing c) .whole) id span (.closing c)
      (.running none (.closing { c with
        remaining := rest
        current := some (name, handle, (h.close s.now s.env).1.unbounded s.now) })) := by
  simp only [moveJob, moveClosing, hcurrent, hremaining, hh]
  exact ⟨.closeNext hcurrent hremaining hh, rfl,
    (Frame.call _ hh (.close s.now s.env (.refl _))).trans (.setTask _ _ _), rfl⟩

theorem Moved.allClosed {c : Closing} (hcurrent : c.current = none)
    (hremaining : c.remaining = []) :
    Moved s (s.moveJob id span (.closing c) .whole) id span (.closing c)
      (.ended s.now .closed) := by
  simp only [moveJob, moveClosing, hcurrent, hremaining]
  exact ⟨.allClosed hcurrent hremaining, rfl, (Frame.tell s _ _).trans (.setTask _ _ _), rfl⟩

theorem Moved.stopLoop {l : Loop} (hsignalled : s.ticker.signalled = true) :
    Moved s (s.stopLoop id) id span (.ticking l) (.ended s.now .stopped) where
  move := .stopped hsignalled
  tasks := rfl
  frame := ⟨rfl, rfl, rfl, rfl, rfl, rfl, rfl, .refl _⟩
  cycles := by cases l <;> rfl

/-- The first turn of a loop: it starts, unless it was told to stop before, or
cannot run. -/
theorem Moved.startLoop (s : Service δ Env) (id : Nat) (span : Option Span) :
    ∃ task, (∀ span', task ≠ .running span' (.ticking .starting)) ∧
      Moved s (s.moveJob id span (.ticking .starting) .whole) id span (.ticking .starting)
        task := by
  have htell := Frame.tell s (some .ticker) [.tickerStarted (.ofMillis s.ticker.interval)]
  simp only [moveJob, moveLoop, Service.startLoop]
  split
  · next hinterval =>
    exact ⟨_, by simp, .noInterval hinterval, rfl, .setTask _ _ _, rfl⟩
  · next hinterval =>
    split
    · next hsignalled =>
      have hstop : Moved (s.tell (some .ticker) _) _ id span (.ticking .starting) _ :=
        .stopLoop hsignalled
      exact ⟨_, by simp, .stopped hsignalled, hstop.tasks, htell.trans hstop.frame,
        hstop.cycles⟩
    · next hsilent =>
      exact ⟨_, by simp, .started hinterval (Bool.eq_false_iff.mpr hsilent), rfl,
        htell.trans (.setTask _ _ _), rfl⟩

theorem Moved.tick {next : Instant} (hdue : next ≤ s.now) :
    Moved s (s.moveJob id span (.ticking (.idle next)) .whole) id span (.ticking (.idle next))
      (.running (some .ticker) (.ticking (.cycling (s.now + s.ticker.interval)
        (.start s.prober s.registry (s.now + s.ticker.budget) s.now)))) := by
  simp only [moveJob, moveLoop, if_pos hdue]
  exact ⟨.tick hdue, rfl, .setTask _ _ _, rfl⟩

theorem Moved.cycleLane (s : Service δ Env) (id : Nat) (span : Option Span) (next : Instant)
    (g : Gathering) (n : Nat) :
    Moved s (s.moveJob id span (.ticking (.cycling next g)) (.lane n)) id span
      (.ticking (.cycling next g))
      (.running span (.ticking (.cycling next (s.moveLane span g n).2))) := by
  obtain ⟨hlane, hframe, htasks, hticker⟩ := s.moveLane_spec span g n
  exact ⟨.cycleLane hlane, congrArg (List.set · id _) htasks, hframe.trans (.setTask _ _ _),
    congrArg Ticker.cycles hticker⟩

theorem Moved.cycle {next : Instant} {g : Gathering} {results : List (String × ProbeResult)}
    (hresults : g.results? = some results) :
    Moved s (s.moveJob id span (.ticking (.cycling next g)) .whole) id span
      (.ticking (.cycling next g)) (.running (some .ticker) (.ticking (.idle next))) := by
  obtain ⟨hfinish, htasks, hticker⟩ := s.finishReport_frame (some .ticker) results
  obtain ⟨hcycle, htasks', hcycles⟩ := (s.finishReport (some .ticker) results).1.finishCycle_frame
    (some .ticker) (s.finishReport (some .ticker) results).2
  simp only [moveJob, moveLoop, hresults]
  refine ⟨.cycle hresults, ?_, (hfinish.trans hcycle).trans (.setTask _ _ _), ?_⟩
  · simp only [setTask, htasks', htasks]
  · simp only [setTask, hcycles, hticker, completions]

/-- A loop that has begun notices that it is to stop. -/
theorem Moved.signal {l : Loop} (hl : l ≠ .starting) (hsignalled : s.ticker.signalled = true) :
    Moved s (s.moveJob id span (.ticking l) .signal) id span (.ticking l)
      (.ended s.now .stopped) := by
  cases l with
  | starting => exact absurd rfl hl
  | idle next =>
      simp only [moveJob, noticeSignal, if_pos hsignalled]
      exact .stopLoop hsignalled
  | cycling next g =>
      obtain ⟨hframe, htasks, hticker⟩ := s.abandonLanes_frame g
      have hstop : Moved (s.abandonLanes g) _ id span (.ticking (.cycling next g)) _ :=
        .stopLoop (by rw [hticker]; exact hsignalled)
      simp only [moveJob, noticeSignal, if_pos hsignalled]
      refine ⟨.stopped hsignalled, ?_, hframe.trans hstop.frame, ?_⟩
      · rw [hstop.tasks, htasks, hframe.now]
      · rw [hstop.cycles, hticker]
        rfl

/-! ### Every move is one of these -/

theorem moveClosing_spec {c : Closing}
    (hid : s.tasks[id]? = some (.running span (.closing c))) :
    ∃ task, Moved s (s.moveJob id span (.closing c) .whole) id span (.closing c) task := by
  cases hcurrent : c.current with
  | none =>
      cases hremaining : c.remaining with
      | nil => exact ⟨_, .allClosed hcurrent hremaining⟩
      | cons x rest =>
          obtain ⟨name, handle⟩ := x
          cases hh : s.handles[handle]? with
          | none =>
              simp only [moveJob, moveClosing, hcurrent, hremaining, hh]
              exact ⟨_, .rest hid⟩
          | some h => exact ⟨_, .closeNext hcurrent hremaining hh⟩
  | some x =>
      obtain ⟨name, handle, call⟩ := x
      cases hends : call.ends with
      | none =>
          simp only [moveJob, moveClosing, hcurrent, hends]
          exact ⟨_, .rest hid⟩
      | some ends =>
          by_cases hdue : ends ≤ s.now
          · exact ⟨_, .closed hcurrent hends hdue⟩
          · simp only [moveJob, moveClosing, hcurrent, hends, if_neg hdue]
            exact ⟨_, .rest hid⟩

theorem moveLoop_spec {l : Loop} (part : Part)
    (hid : s.tasks[id]? = some (.running span (.ticking l))) :
    ∃ task, Moved s (s.moveJob id span (.ticking l) part) id span (.ticking l) task := by
  cases part with
  | lane n =>
      cases l with
      | starting => exact ⟨_, .rest hid⟩
      | idle next => exact ⟨_, .rest hid⟩
      | cycling next g => exact ⟨_, .cycleLane s id span next g n⟩
  | whole =>
      cases l with
      | starting =>
          obtain ⟨task, _, hmoved⟩ := Moved.startLoop s id span
          exact ⟨task, hmoved⟩
      | idle next =>
          by_cases hdue : next ≤ s.now
          · exact ⟨_, .tick hdue⟩
          · simp only [moveJob, moveLoop, if_neg hdue]
            exact ⟨_, .rest hid⟩
      | cycling next g =>
          cases hresults : g.results? with
          | some results => exact ⟨_, .cycle hresults⟩
          | none =>
              simp only [moveJob, moveLoop, hresults]
              exact ⟨_, .rest hid⟩
  | signal =>
      by_cases hstops : l ≠ .starting ∧ s.ticker.signalled = true
      · exact ⟨_, .signal hstops.1 hstops.2⟩
      · have hrest : s.moveJob id span (.ticking l) .signal = s := by
          simp only [moveJob, noticeSignal]
          split
          · next hsignalled => cases l <;> simp_all
          · rfl
        rw [hrest]
        exact ⟨_, .rest hid⟩

/-- **One move.**  A move of a task makes of its job what `JobMove` says, and
leaves the rest of the service in its frame. -/
theorem moveJob_spec {job : Job} (part : Part)
    (hid : s.tasks[id]? = some (.running span job)) :
    ∃ task, Moved s (s.moveJob id span job part) id span job task := by
  cases job with
  | probing p =>
      cases part with
      | whole =>
          by_cases hdue : p.wake ≤ s.now
          · cases hh : s.handles[p.handle]? with
            | some h => exact ⟨_, .probe hdue hh⟩
            | none =>
                have hsame : s.moveProbe span p = (s, .going p) := by simp [moveProbe, hh]
                simp only [moveJob, if_pos hdue, hsame]
                exact ⟨_, .rest _, rfl, .setTask _ _ _, rfl⟩
          · simp only [moveJob, if_neg hdue]
            exact ⟨_, .rest hid⟩
      | lane n => exact ⟨_, .rest hid⟩
      | signal => exact ⟨_, .rest hid⟩
  | reporting purpose g =>
      cases part with
      | lane n => exact ⟨_, .lane s id span purpose g n⟩
      | whole =>
          cases hresults : g.results? with
          | some results => exact ⟨_, .report hresults⟩
          | none =>
              simp only [moveJob, hresults]
              exact ⟨_, .rest hid⟩
      | signal => exact ⟨_, .rest hid⟩
  | connecting handle call =>
      cases part with
      | whole =>
          cases hends : call.ends with
          | none =>
              simp only [moveJob, hends]
              exact ⟨_, .rest hid⟩
          | some ends =>
              by_cases hdue : ends ≤ s.now
              · exact ⟨_, .connect hends hdue⟩
              · simp only [moveJob, hends, if_neg hdue]
                exact ⟨_, .rest hid⟩
      | lane n => exact ⟨_, .rest hid⟩
      | signal => exact ⟨_, .rest hid⟩
  | closing c =>
      cases part with
      | whole => exact moveClosing_spec hid
      | lane n => exact ⟨_, .rest hid⟩
      | signal => exact ⟨_, .rest hid⟩
  | ticking l => exact moveLoop_spec part hid

end Service

end HealthWatch
