import HealthWatch.Proofs.WholeMoves

/-!
# What is recorded is what ended

Metrics are changed in three places: where a probe ends, where a report is finished and
where a cycle is completed.  Here this becomes one statement.  `endings` reads off two
states of a task what ran to its end between them, without looking at metrics, and
what is recorded in a run is exactly this, in this order, each ending once
(`run_metrics`).  A task that is dropped, at whatever point, adds nothing to what it had
recorded by then.
-/

namespace HealthWatch

/-- Something that ran to its end. -/
inductive Ending where
  | probe (name : String) (finding : Finding) (elapsed : Duration)
  | report (r : Report)
  | cycle

namespace Ending

/-- The number of cycles that were completed. -/
def cycles (l : List Ending) : Nat :=
  l.countP fun
    | .cycle => true
    | _ => false

theorem cycles_append (l l' : List Ending) : cycles (l ++ l') = cycles l + cycles l' :=
  List.countP_append

end Ending

namespace Metrics

/-- What is counted when something ends. -/
def note (m : Metrics) : Ending → Metrics
  | .probe name finding elapsed => m.recordProbe name finding elapsed
  | .report r => m.recordReport r
  | .cycle => m.recordCycle

/-- What is counted when several things end, one after another. -/
def noteAll (m : Metrics) (l : List Ending) : Metrics := l.foldl note m

theorem noteAll_append (m : Metrics) (l l' : List Ending) :
    m.noteAll (l ++ l') = (m.noteAll l).noteAll l' := List.foldl_append

theorem map_noteAll_nil (m : Option Metrics) : m.map (·.noteAll []) = m := by
  cases m <;> rfl

end Metrics

/-- What ended where a lane changed. -/
def Lane.endings : Lane → Lane → List Ending
  | .running p, .finished _ result => [.probe p.name result.finding (p.elapsed result.checkedAt)]
  | _, _ => []

theorem Lane.endings_self (lane : Lane) : lane.endings lane = [] := by
  cases lane <;> rfl

/-- What ends with a report. -/
def Purpose.endings (purpose : Purpose) (r : Report) : List Ending :=
  .report r :: if purpose = .cycle then [.cycle] else []

namespace Service

variable {δ Env : Type} {s : Service δ Env} {id : Nat} {span : Option Span}

/-- What ended where a task changed. -/
def endings (s : Service δ Env) : Task → Task → List Ending
  | .running _ (.probing p), .ended time (.probed result) =>
    [.probe p.name result.finding (p.elapsed time)]
  | .running _ (.reporting _ g), .running _ (.reporting _ g') =>
    changes Lane.endings g.lanes g'.lanes
  | .running _ (.reporting purpose _), .ended _ (.reported r) => purpose.endings r
  | .running _ (.reporting purpose _), .ended _ (.served r) => purpose.endings r
  | .running _ (.ticking (.cycling _ g)), .running _ (.ticking (.cycling _ g')) =>
    changes Lane.endings g.lanes g'.lanes
  | .running _ (.ticking (.cycling _ g)), .running _ (.ticking (.idle _)) =>
    match g.results? with
    | some results => Purpose.cycle.endings ⟨.ofList results, s.uptime, s.now⟩
    | none => []
  | _, _ => []

/-- Nothing ends where a task stays as it is or is dropped. -/
theorem endings_ofMoves (s : Service δ Env) : OfMoves s.endings where
  same task := by
    unfold endings
    split <;> simp_all [changes_self Lane.endings_self]
  dropped task := by
    unfold endings
    split <;> simp_all

/-! ## Moves -/

variable [Dependency δ Env]

/-- What a probe records by a move is that it ended, if it did. -/
theorem moveProbe_metrics (s : Service δ Env) (span : Option Span) (p : Probe) :
    (s.moveProbe span p).1.metrics = s.metrics.map
      (·.noteAll (Lane.endings (.running p) (laneAfter p s.now (s.moveProbe span p).2))) := by
  simp only [moveProbe]
  split
  · exact (Metrics.map_noteAll_nil _).symm
  · split
    · exact (Metrics.map_noteAll_nil _).symm
    · rfl

/-- What a report records by the move of a lane is what ended with it. -/
theorem moveLane_metrics (s : Service δ Env) (span : Option Span) (g : Gathering) (n : Nat) :
    (s.moveLane span g n).1.metrics = s.metrics.map
      (·.noteAll (changes Lane.endings g.lanes (s.moveLane span g n).2.lanes)) := by
  by_cases hmoves : ∃ p, g.lanes[n]? = some (.running p) ∧ p.wake ≤ s.now
  · obtain ⟨p, hlane, hdue⟩ := hmoves
    obtain ⟨hservice, hlanes⟩ := moveLane_due span hlane hdue
    rw [hservice, hlanes, changes_set Lane.endings_self hlane, moveProbe_metrics]
  · rw [moveLane_rest span hmoves, changes_self Lane.endings_self, Metrics.map_noteAll_nil]

omit [Dependency δ Env] in
/-- What is recorded when a report is finished and what it was made for is done. -/
theorem serveReport_metrics (s : Service δ Env) (span : Option Span) (purpose : Purpose)
    (results : List (String × ProbeResult)) :
    ((s.finishReport span results).1.serveReport span purpose
        (s.finishReport span results).2).metrics =
      s.metrics.map (·.noteAll (purpose.endings ⟨.ofList results, s.uptime, s.now⟩)) := by
  cases purpose <;> cases hm : s.metrics <;>
    simp [serveReport, finishReport, finishCycle, record, tell, hm, Purpose.endings,
      Metrics.noteAll, Metrics.note]

/-- **One move** records what ended with it. -/
theorem Does.metrics_eq {job : Job} {task : Task} {s' : Service δ Env}
    (hdoes : Does s span job task s') :
    s'.metrics = s.metrics.map (·.noteAll (s.endings (.running span job) task)) := by
  have hnothing := (Metrics.map_noteAll_nil s.metrics).symm
  cases hdoes with
  | rest => rw [s.endings_ofMoves.same, ← hnothing]
  | probe p =>
      rw [moveProbe_metrics]
      cases (s.moveProbe span p).2 <;> rfl
  | lane purpose g n => exact s.moveLane_metrics span g n
  | report purpose =>
      rw [serveReport_metrics]
      cases purpose <;> rfl
  | @stopped l hl hsignalled =>
      rw [s.abandonJob_eq]
      cases l <;> exact hnothing
  | cycleLane next g n => exact s.moveLane_metrics span g n
  | @cycle next g results hresults =>
      have hserved := s.serveReport_metrics (some .ticker) .cycle results
      simp only [endings, hresults]
      exact hserved
  | connect => exact hnothing
  | closed => exact hnothing
  | closeNext => exact hnothing
  | allClosed => exact hnothing
  | noInterval => exact hnothing
  | started => exact hnothing
  | unstarted => exact hnothing
  | tick => exact hnothing

/-- **One action** records what ended with it. -/
theorem act_metrics (s : Service δ Env) (a : Action δ) :
    (s.act a).metrics =
      s.metrics.map (·.noteAll (changes s.endings s.tasks (s.act a).tasks)) := by
  rcases s.act_cases a with hrest | ⟨id, span, job, task, s', hid, hdoes, heq⟩ | ha
  · rw [hrest, changes_self s.endings_ofMoves.same, Metrics.map_noteAll_nil]
  · rw [heq, s.endings_ofMoves.does hid hdoes]
    exact hdoes.metrics_eq
  · rw [s.endings_ofMoves.act ha, Metrics.map_noteAll_nil]
    exact (s.act_aside ha).metrics

/-- **A whole run** records what ended in it, in this order. -/
theorem run_metrics (s : Service δ Env) (actions : List (Action δ)) :
    (s.run actions).metrics = s.metrics.map (·.noteAll (observed endings s actions)) := by
  induction actions generalizing s with
  | nil => exact (Metrics.map_noteAll_nil _).symm
  | cons a actions ih =>
      have hrun : s.run (a :: actions) = (s.act a).run actions := rfl
      rw [hrun, ih, act_metrics, Option.map_map, observed]
      congr 1
      funext m
      exact (Metrics.noteAll_append _ _ _).symm

/-! ## Completed cycles -/

/-- No cycle ends with a lane. -/
theorem cycles_lanes (lanes lanes' : List Lane) :
    Ending.cycles (changes Lane.endings lanes lanes') = 0 := by
  refine List.countP_eq_zero.mpr fun e he => ?_
  obtain ⟨_, lane, lane', _, _, hlane⟩ := mem_changes he
  cases lane with
  | finished name result => cases hlane
  | running p =>
      cases lane' with
      | running q => cases hlane
      | finished name result =>
          cases List.mem_singleton.mp hlane
          simp

/-- **One move** counts the cycles that ended with it. -/
theorem Does.cycles_eq {job : Job} {task : Task} {s' : Service δ Env}
    (hdoes : Does s span job task s') :
    s'.ticker.cycles =
      s.ticker.cycles + Ending.cycles (s.endings (.running span job) task) := by
  cases hdoes with
  | rest => rw [s.endings_ofMoves.same]; rfl
  | probe p =>
      rw [(s.moveProbe_frame span p).2.2]
      cases (s.moveProbe span p).2 <;> rfl
  | lane purpose g n =>
      rw [(s.moveLane_spec span g n).2.2.2]
      exact congrArg (s.ticker.cycles + ·) (cycles_lanes _ _).symm
  | report purpose => cases purpose <;> rfl
  | @stopped l hl hsignalled =>
      rw [s.abandonJob_eq]
      cases l <;> rfl
  | cycleLane next g n =>
      rw [(s.moveLane_spec span g n).2.2.2]
      exact congrArg (s.ticker.cycles + ·) (cycles_lanes _ _).symm
  | cycle next hresults =>
      simp only [endings, hresults]
      rfl
  | _ => rfl

/-- **One action** counts the cycles that ended with it. -/
theorem act_cycles (s : Service δ Env) (a : Action δ) :
    (s.act a).ticker.cycles =
      s.ticker.cycles + Ending.cycles (changes s.endings s.tasks (s.act a).tasks) := by
  rcases s.act_cases a with hrest | ⟨id, span, job, task, s', hid, hdoes, heq⟩ | ha
  · rw [hrest, changes_self s.endings_ofMoves.same]
    rfl
  · rw [heq, s.endings_ofMoves.does hid hdoes]
    exact hdoes.cycles_eq
  · rw [s.endings_ofMoves.act ha]
    exact (s.act_aside ha).cycles

/-- A whole run counts the cycles that ended in it. -/
theorem run_cycles (s : Service δ Env) (actions : List (Action δ)) :
    (s.run actions).ticker.cycles =
      s.ticker.cycles + Ending.cycles (observed endings s actions) := by
  induction actions generalizing s with
  | nil => rfl
  | cons a actions ih =>
      have hrun : s.run (a :: actions) = (s.act a).run actions := rfl
      rw [hrun, ih, act_cycles, observed, Ending.cycles_append, Nat.add_assoc]

end Service

end HealthWatch
