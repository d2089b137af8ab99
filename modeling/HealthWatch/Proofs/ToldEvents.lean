import HealthWatch.Proofs.WholeMoves

/-!
# What a service tells

Every event has a `Topic`, and `told topic` is what was told on one topic, in the order in
which it was told.  Probes, reports, cycles, loops and closings each tell on their own
topic only, so what is told of closings and of cycles comes from those moves that close
a handle or complete a cycle (`Does.told_closing`, `Does.told_cycle`).
-/

namespace HealthWatch

namespace Probe

theorem topic_diagnosed (p : Probe) (outcome : Except DependencyError Diagnostics)
    (now : Instant) : ∀ e ∈ (p.diagnosed outcome now).1, e.topic = .probe := by
  cases outcome <;> simp [diagnosed, Event.topic]

theorem topic_checked (prober : Prober) (p : Probe) (attempt : Nat)
    (outcome : Except DependencyError Unit) (now : Instant) :
    ∀ e ∈ (checked prober p attempt outcome now).1, e.topic = .probe := by
  cases outcome with
  | ok value => simp [checked, Event.topic]
  | error e =>
      simp only [checked]
      split <;> simp [Event.topic]

/-- All that a probe tells is of itself. -/
theorem topic_resume {δ Env : Type} [Dependency δ Env] (prober : Prober) (p : Probe)
    (now : Instant) (h : Handle δ) (env : Env) :
    ∀ e ∈ (p.resume prober now h env).events, e.topic = .probe := by
  unfold resume
  split
  · unfold begin
    split <;> simp
  · exact p.topic_diagnosed _ now
  · exact topic_checked prober p _ _ now

end Probe

namespace Service

/-- What a completed cycle tells is of cycles. -/
theorem topic_cycleEvents (r : Report) : ∀ e ∈ cycleEvents r, e.topic = .cycle := by
  intro e he
  rcases List.mem_append.mp he with he | he
  · obtain ⟨x, _, rfl⟩ := List.mem_map.mp he
    unfold cycleLine
    split <;> rfl
  · cases List.mem_singleton.mp he
    rfl

variable {δ Env : Type} {s s' : Service δ Env} {topic : Topic}

/-- What was told on a topic, in this order. -/
def told (topic : Topic) (s : Service δ Env) : List Event :=
  ((s.log.map (·.event)).filter (·.topic = topic)).reverse

theorem told_of_log (h : s'.log = s.log) : s'.told topic = s.told topic := by rw [told, told, h]

@[simp] theorem told_setTask (s : Service δ Env) (id : Nat) (task : Task) :
    (s.setTask id task).told topic = s.told topic := rfl

theorem told_tell (s : Service δ Env) (span : Option Span) (events : List Event) :
    (s.tell span events).told topic = s.told topic ++ events.filter (·.topic = topic) := by
  simp [told, tell, List.filter_reverse, Function.comp_def]

/-- What is told on other topics does not matter. -/
theorem told_tell_of_ne (s : Service δ Env) (span : Option Span) {events : List Event}
    (hevents : ∀ e ∈ events, e.topic ≠ topic) :
    (s.tell span events).told topic = s.told topic := by
  rw [told_tell, List.filter_eq_nil_iff.mpr fun e he => by simpa using hevents e he,
    List.append_nil]

/-- What is asked from outside is told as such. -/
theorem Aside.told_eq (h : Aside s s') (htopic : topic ≠ .asked) :
    s'.told topic = s.told topic := by
  obtain ⟨more, hlog, hmore⟩ := h.log
  have hnone : (more.map (·.event)).filter (·.topic = topic) = [] := by
    refine List.filter_eq_nil_iff.mpr fun e he => ?_
    obtain ⟨entry, hentry, rfl⟩ := List.mem_map.mp he
    rw [hmore entry hentry]
    simpa using htopic.symm
  rw [told, told, hlog, List.map_append, List.filter_append, hnone, List.nil_append]

theorem told_halt (s : Service δ Env) (htopic : topic ≠ .loop) :
    s.halt.told topic = s.told topic :=
  told_tell_of_ne { s with ticker := { s.ticker with stopped := true } } _
    (by simpa [Event.topic] using htopic.symm)

theorem told_abandonJob (s : Service δ Env) (job : Job) :
    (s.abandonJob job).told topic = s.told topic :=
  told_of_log (by rw [s.abandonJob_eq])

/-- A report that is finished tells of itself, and of a cycle if it was made as one. -/
theorem told_serveReport (s : Service δ Env) (span : Option Span) (purpose : Purpose)
    (results : List (String × ProbeResult)) (htopic : topic ≠ .report)
    (hcycle : purpose = .cycle → topic ≠ .cycle) :
    ((s.finishReport span results).1.serveReport span purpose
      (s.finishReport span results).2).told topic = s.told topic := by
  have hbuilt : (s.finishReport span results).1.told topic = s.told topic :=
    told_tell_of_ne s span (by simpa [Event.topic] using htopic.symm)
  rw [← hbuilt]
  cases purpose with
  | report => rfl
  | cycle =>
      refine told_tell_of_ne (s.finishReport span results).1 span fun e he => ?_
      rw [topic_cycleEvents _ e he]
      exact (hcycle rfl).symm
  | request =>
      exact told_tell_of_ne (s.finishReport span results).1 span
        (by simpa [Event.topic] using htopic.symm)

variable [Dependency δ Env] {span : Option Span}

theorem told_moveProbe (s : Service δ Env) (span : Option Span) (p : Probe)
    (htopic : topic ≠ .probe) : (s.moveProbe span p).1.told topic = s.told topic := by
  simp only [moveProbe]
  split
  · rfl
  · next h hh =>
    have hevents := p.topic_resume s.prober s.now h s.env
    have htold := told_tell_of_ne { s with
        env := (p.resume s.prober s.now h s.env).env
        handles := s.handles.set p.handle (p.resume s.prober s.now h s.env).handle } span
      fun e he => by rw [hevents e he]; exact htopic.symm
    split
    · exact htold
    · exact htold

theorem told_moveLane (s : Service δ Env) (span : Option Span) (g : Gathering) (n : Nat)
    (htopic : topic ≠ .probe) : (s.moveLane span g n).1.told topic = s.told topic := by
  by_cases hmoves : ∃ p, g.lanes[n]? = some (.running p) ∧ p.wake ≤ s.now
  · obtain ⟨p, hlane, hdue⟩ := hmoves
    rw [(moveLane_due span hlane hdue).1, told_moveProbe s span p htopic]
  · rw [moveLane_rest span hmoves]

/-- A move tells of what its job is about, and of cycles only if it completes one. -/
theorem Does.told_eq {job : Job} {task : Task} (hdoes : Does s span job task s')
    (htopic : topic ≠ .probe ∧ topic ≠ .report ∧ topic ≠ .loop)
    (hclosing : topic = .closing → ∀ c, job ≠ .closing c)
    (hcycle : topic = .cycle → completions job task = 0) : s'.told topic = s.told topic := by
  obtain ⟨hprobe, hreport, hloop⟩ := htopic
  cases hdoes with
  | probe p => exact told_moveProbe s span p hprobe
  | lane purpose g n => exact told_moveLane s span g n hprobe
  | report purpose =>
      refine told_serveReport s span purpose _ hreport ?_
      rintro rfl heq
      cases hcycle heq
  | @closed c name handle call ends =>
      have hne : topic ≠ .closing := fun heq => hclosing heq c rfl
      exact told_tell_of_ne (s.modifyHandle handle Handle.leave) _
        (by cases call.outcome <;> simpa [closeEvent, Event.topic] using hne.symm)
  | @allClosed c =>
      have hne : topic ≠ .closing := fun heq => hclosing heq c rfl
      exact told_tell_of_ne s _ (by simpa [Event.topic] using hne.symm)
  | started => exact told_tell_of_ne s _ (by simpa [Event.topic] using hloop.symm)
  | unstarted =>
      rw [told_halt _ hloop]
      exact told_tell_of_ne s _ (by simpa [Event.topic] using hloop.symm)
  | stopped => rw [told_halt _ hloop, told_abandonJob]
  | cycleLane next g n => exact told_moveLane s span g n hprobe
  | cycle next =>
      refine told_serveReport s (some .ticker) .cycle _ hreport ?_
      rintro - heq
      cases hcycle heq
  | _ => rfl

/-- Nothing is told of closings but by the moves of a closing. -/
theorem Does.told_closing {job : Job} {task : Task} (hdoes : Does s span job task s')
    (hjob : ∀ c, job ≠ .closing c) : s'.told .closing = s.told .closing :=
  hdoes.told_eq (by simp) (fun _ => hjob) (by simp)

/-- Nothing is told of cycles but by the moves that complete one. -/
theorem Does.told_cycle {job : Job} {task : Task} (hdoes : Does s span job task s')
    (hnone : completions job task = 0) : s'.told .cycle = s.told .cycle :=
  hdoes.told_eq (by simp) (by simp) fun _ => hnone

/-- No move tells of what is asked from outside. -/
theorem Does.told_asked {job : Job} {task : Task} (hdoes : Does s span job task s') :
    s'.told .asked = s.told .asked :=
  hdoes.told_eq (by simp) (by simp) (by simp)

end Service

end HealthWatch
