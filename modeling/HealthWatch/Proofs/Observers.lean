import HealthWatch.Proofs.MetricsReachable

/-!
# Looking changes nothing

Some steps of a session only look: they ask the registry, the ticker or the tallies, or they
send a request that is not one for a report.  Such a step is answered at its first turn and
leaves the whole session as it is (`begin_look`).

So it makes no difference where somebody looks.  Between the moves of tasks this is so because
nothing happens at all (`watch_eq`).  Among steps that run together a look has its place in the
list of those that take turns: `Follows` says how the steps under way look with it and without
it.  The relation holds when the steps begin, each turn keeps it (`Follows.pollAll`) and takes
both sessions to the same one, and the clock goes to the same moments (`Follows.alarms`).
-/

namespace HealthWatch

/-- The health endpoint makes a report for one path and one method only. -/
theorem Http.routeHealth_eq_report_iff {request : Http.Request} :
    Http.routeHealth request = .report ↔
      request.path = Http.healthPath ∧ request.method = "GET" := by
  unfold Http.routeHealth
  split
  · next hpath => simp [hpath]
  · next hpath =>
    split
    · next hmethod => simp [hmethod]
    · next hmethod => simp [not_not.mp hpath, not_not.mp hmethod]

/-- A step that only looks: it asks the registry, the tallies, the ticker or the metrics, or it
is a request to the health endpoint for another path or with another method. -/
def Step.IsLook {δ : Type} : Step δ → Prop
  | .get _ | .all | .registry | .tallies | .tickerState | .metrics _ => True
  | .health request => request.path ≠ Http.healthPath ∨ request.method ≠ "GET"
  | _ => False

/-- A step that only looks. -/
structure Look (δ : Type) where
  step : Step δ
  isLook : step.IsLook

namespace Session

variable {δ Env : Type} [Dependency δ Env]

/-- **A look.**  It is answered at once, and leaves the session as it is. -/
theorem begin_look (s : Session δ Env) (look : Look δ) :
    ∃ a, s.begin look.step = (s, .done a) := by
  obtain ⟨st, hlook⟩ := look
  cases st with
  | get | all | registry | tallies | tickerState | metrics =>
      rw [begin]
      exact ⟨_, rfl⟩
  | health request =>
      rw [begin, requestHealth]
      split
      · exact ⟨_, rfl⟩
      · next hreport =>
        obtain ⟨hpath, hmethod⟩ := Http.routeHealth_eq_report_iff.mp hreport
        exact absurd hlook (not_or.mpr ⟨not_not.mpr hpath, not_not.mpr hmethod⟩)
  | _ => cases hlook

theorem step_look (s : Session δ Env) (look : Look δ) :
    ∃ a, s.begin look.step = (s, .done a) ∧ s.step look.step = (s, a) := by
  obtain ⟨a, ha⟩ := s.begin_look look
  exact ⟨a, ha, by rw [step, ha]; exact await_done _ s a⟩

/-! ## Between the moves of a service -/

/-- Something happens: the service acts, or somebody looks. -/
inductive Occurrence (δ : Type) where
  | act (a : Service.Action δ)
  | look (l : Look δ)

/-- What the service does. -/
def Occurrence.action? : Occurrence δ → Option (Service.Action δ)
  | .act a => some a
  | .look _ => none

/-- A session after what happened, with the looks that were begun. -/
def watch (s : Session δ Env) : List (Occurrence δ) → Session δ Env × List Pending
  | [] => (s, [])
  | .act a :: rest => watch (s.within (·.act a)) rest
  | .look look :: rest =>
    let (s, p) := s.begin look.step
    let (s, l) := watch s rest
    (s, p :: l)

/-- Looks between the moves of a service are answered at once, and the service runs as it does
without them. -/
theorem watch_eq (s : Session δ Env) (l : List (Occurrence δ)) :
    (s.watch l).1 = s.within (·.run (l.filterMap Occurrence.action?)) ∧
      ∀ p ∈ (s.watch l).2, ∃ a, p = .done a := by
  induction l generalizing s with
  | nil => exact ⟨rfl, fun p hp => absurd hp List.not_mem_nil⟩
  | cons o l ih =>
      -- A look leaves the session as it is, so what follows begins in the same one.
      cases o with
      | act a => exact ih (s.within (·.act a))
      | look look =>
          obtain ⟨a, ha⟩ := s.begin_look look
          obtain ⟨hsession, hdone⟩ := ih s
          simp only [watch, ha, List.filterMap_cons, Occurrence.action?]
          exact ⟨hsession, List.forall_mem_cons.mpr ⟨⟨a, rfl⟩, hdone⟩⟩

/-! ## Among steps -/

/-- Steps in order, with looks among them.  The looks stand between the steps, or among those
that run together. -/
inductive Watched (δ : Type) where
  | nil
  | step (st : Step δ) (rest : Watched δ)
  | look (l : Look δ) (rest : Watched δ)
  | together (inner rest : Watched δ)

namespace Watched

/-- All the steps. -/
def full : Watched δ → List (Step δ)
  | nil => []
  | step st rest => st :: rest.full
  | look l rest => l.step :: rest.full
  | together inner rest => .together inner.full :: rest.full

/-- The steps without the looks. -/
def bare : Watched δ → List (Step δ)
  | nil => []
  | step st rest => st :: rest.bare
  | look _ rest => rest.bare
  | together inner rest => .together inner.bare :: rest.bare

/-- Of the answers to all the steps those that do not answer a look. -/
def others : Watched δ → List Answer → List Answer
  | step _ rest, a :: l => a :: rest.others l
  | look _ rest, _ :: l => rest.others l
  | together inner rest, .all answers :: l => .all (inner.others answers) :: rest.others l
  | together _ rest, a :: l => a :: rest.others l
  | _, _ => []

/-- An answer to steps that ran together, without the answers to looks. -/
def othersIn (w : Watched δ) : Answer → Answer
  | .all answers => .all (w.others answers)
  | a => a

theorem others_together (inner rest : Watched δ) (a : Answer) (l : List Answer) :
    (together inner rest).others (a :: l) = inner.othersIn a :: rest.others l := by
  cases a <;> rfl

end Watched

/-- How steps under way look without the looks, and with them. -/
inductive Follows : Watched δ → List Pending → List Pending → Prop
  | nil : Follows .nil [] []
  | step {st : Step δ} {rest : Watched δ} {l l' : List Pending} (p : Pending)
      (hrest : Follows rest l l') : Follows (.step st rest) (p :: l) (p :: l')
  | look {look : Look δ} {rest : Watched δ} {l l' : List Pending} (a : Answer)
      (hrest : Follows rest l l') : Follows (.look look rest) l (.done a :: l')
  | waiting {inner rest : Watched δ} {k k' l l' : List Pending} (hinner : Follows inner k k')
      (hrest : Follows rest l l') :
      Follows (.together inner rest) (.together k :: l) (.together k' :: l')
  | answered {inner rest : Watched δ} {l l' : List Pending} (answers : List Answer)
      (hrest : Follows rest l l') :
      Follows (.together inner rest) (.done (.all (inner.others answers)) :: l)
        (.done (.all answers) :: l')

/-- How steps that run together look without the looks, and with them. -/
inductive Alike (inner : Watched δ) : Pending → Pending → Prop
  | waiting {k k' : List Pending} (hinner : Follows inner k k') :
      Alike inner (.together k) (.together k')
  | answered (answers : List Answer) :
      Alike inner (.done (.all (inner.others answers))) (.done (.all answers))

variable {w inner rest : Watched δ} {l l' : List Pending} {p p' : Pending}

omit [Dependency δ Env] in
theorem Alike.follows (h : Alike inner p p') (hrest : Follows rest l l') :
    Follows (.together inner rest) (p :: l) (p' :: l') := by
  cases h with
  | waiting hinner => exact .waiting hinner hrest
  | answered answers => exact .answered answers hrest

/-- The answer to a step that has been answered. -/
def answer? : Pending → Option Answer
  | .done a => some a
  | _ => none

theorem settled_eq (l : List Pending) :
    settled l = match l.mapM answer? with
      | some answers => .done (.all answers)
      | none => .together l := rfl

/-- The looks have all been answered, so the others have if all have. -/
theorem Follows.answers (h : Follows w l l') :
    l.mapM answer? = (l'.mapM answer?).map w.others := by
  induction h with
  | nil => rfl
  | step p hrest ih =>
      rw [List.mapM_cons, List.mapM_cons, ih]
      cases answer? p with
      | none => rfl
      | some a => cases List.mapM answer? _ <;> rfl
  | look a hrest ih =>
      rw [List.mapM_cons, ih]
      cases List.mapM answer? _ <;> rfl
  | waiting hinner hrest => rfl
  | answered answers hrest ih =>
      rw [List.mapM_cons, List.mapM_cons, ih]
      cases List.mapM answer? _ <;> rfl

theorem Follows.settled (h : Follows w l l') :
    Alike w (Session.settled l) (Session.settled l') := by
  rw [settled_eq, settled_eq, h.answers]
  cases l'.mapM answer? with
  | none => exact .waiting h
  | some answers => exact .answered answers

/-! ## Turns -/

/-- A turn of all of them takes both sessions to the same one. -/
theorem Follows.pollAll (h : Follows w l l') (s : Session δ Env) :
    (Session.pollAll s l').1 = (Session.pollAll s l).1 ∧
      Follows w (Session.pollAll s l).2 (Session.pollAll s l').2 := by
  induction h generalizing s with
  | nil =>
      simp only [Session.pollAll]
      exact ⟨trivial, .nil⟩
  | step p hrest ih =>
      simp only [Session.pollAll]
      obtain ⟨hsession, hfollows⟩ := ih (poll s p).1
      exact ⟨hsession, .step _ hfollows⟩
  | look a hrest ih =>
      simp only [Session.pollAll, poll]
      obtain ⟨hsession, hfollows⟩ := ih s
      exact ⟨hsession, .look a hfollows⟩
  | waiting hinner hrest ihinner ih =>
      simp only [Session.pollAll, poll]
      obtain ⟨hsession, hfollows⟩ := ihinner s
      rw [hsession]
      obtain ⟨hsession', hfollows'⟩ := ih (Session.pollAll s _).1
      exact ⟨hsession', hfollows.settled.follows hfollows'⟩
  | answered answers hrest ih =>
      simp only [Session.pollAll, poll]
      obtain ⟨hsession, hfollows⟩ := ih s
      exact ⟨hsession, .answered answers hfollows⟩

/-- A look waits for nothing. -/
theorem Follows.alarms (h : Follows w l l') : Session.alarms l' = Session.alarms l := by
  induction h with
  | nil => rfl
  | step p hrest ih => simp only [Session.alarms, ih]
  | look a hrest ih =>
      simp only [Session.alarms, alarm, ih]
  | waiting hinner hrest ihinner ih => simp only [Session.alarms, alarm, ihinner, ih]
  | answered answers hrest ih => simp only [Session.alarms, alarm, ih]

theorem Alike.alarm (h : Alike inner p p') : Session.alarm p' = Session.alarm p := by
  cases h with
  | waiting hinner =>
      simp only [Session.alarm]
      exact hinner.alarms
  | answered => simp only [Session.alarm]

theorem Alike.poll (h : Alike inner p p') (s : Session δ Env) :
    (Session.poll s p').1 = (Session.poll s p).1 ∧
      Alike inner (Session.poll s p).2 (Session.poll s p').2 := by
  cases h with
  | waiting hinner =>
      simp only [Session.poll]
      obtain ⟨hsession, hfollows⟩ := hinner.pollAll s
      exact ⟨hsession, hfollows.settled⟩
  | answered answers =>
      simp only [Session.poll]
      exact ⟨trivial, .answered answers⟩

/-- What becomes of steps that run together after a turn. -/
def afterTurn (fuel : Nat) : Session δ Env × Pending → Session δ Env × Answer
  | (s, .done a) => (s, a)
  | (s, p) =>
    match earlier s.service.wake (Session.alarm p) with
    | none => (s, .nothing)
    | some time =>
      let (s, p) := Session.poll (s.within (·.pass time)) p
      Session.await fuel s p

theorem await_together (fuel : Nat) (s : Session δ Env) (l : List Pending) :
    Session.await (fuel + 1) s (.together l) =
      afterTurn fuel (Session.poll s.turnLoops (.together l)) := by
  rw [Session.await]
  · generalize Session.poll s.turnLoops (.together l) = polled
    obtain ⟨t, q⟩ := polled
    cases q <;> rfl
  · intro a ha
    cases ha

/-- Steps that run together come to the same end, at the same moments. -/
theorem Alike.await (h : Alike inner p p') (fuel : Nat) (s : Session δ Env) :
    (Session.await fuel s p').1 = (Session.await fuel s p).1 ∧
      inner.othersIn (Session.await fuel s p').2 = (Session.await fuel s p).2 := by
  induction fuel generalizing s p p' with
  | zero =>
      cases h with
      | waiting hinner => exact ⟨rfl, rfl⟩
      | answered answers => exact ⟨rfl, rfl⟩
  | succ fuel ih =>
      cases h with
      | answered answers => exact ⟨rfl, rfl⟩
      | @waiting k k' hinner =>
          rw [await_together, await_together]
          obtain ⟨hsession, halike⟩ := (Alike.waiting hinner).poll s.turnLoops
          generalize Session.poll s.turnLoops (.together k) = polled at hsession halike ⊢
          generalize Session.poll s.turnLoops (.together k') = polled' at hsession halike ⊢
          obtain ⟨t, q⟩ := polled
          obtain ⟨t', q'⟩ := polled'
          obtain rfl : t' = t := hsession
          cases halike with
          | answered answers => exact ⟨rfl, rfl⟩
          | waiting hinner =>
              -- Neither the tasks nor the alarms differ, so the clock goes to the same moment.
              have halarm := (Alike.waiting hinner).alarm
              simp only [afterTurn, halarm]
              cases earlier t'.service.wake (Session.alarm (.together _)) with
              | none => exact ⟨rfl, rfl⟩
              | some time =>
                  obtain ⟨hsession, halike⟩ :=
                    (Alike.waiting hinner).poll (t'.within (·.pass time))
                  simp only [hsession]
                  exact ih halike _

/-! ## Whole sessions -/

theorem beginAll_follows (w : Watched δ) (s : Session δ Env) :
    (beginAll s w.full).1 = (beginAll s w.bare).1 ∧
      Follows w (beginAll s w.bare).2 (beginAll s w.full).2 := by
  induction w generalizing s with
  | nil =>
      simp only [Watched.full, Watched.bare, beginAll]
      exact ⟨trivial, .nil⟩
  | step st rest ih =>
      simp only [Watched.full, Watched.bare, beginAll]
      obtain ⟨hsession, hfollows⟩ := ih (begin s st).1
      exact ⟨hsession, .step _ hfollows⟩
  | look look rest ih =>
      obtain ⟨a, ha⟩ := s.begin_look look
      simp only [Watched.full, Watched.bare, beginAll, ha]
      obtain ⟨hsession, hfollows⟩ := ih s
      exact ⟨hsession, .look a hfollows⟩
  | together inner rest ihinner ih =>
      simp only [Watched.full, Watched.bare, beginAll, begin]
      obtain ⟨hsession, hfollows⟩ := ihinner s
      rw [hsession]
      obtain ⟨hsession', hfollows'⟩ := ih (beginAll s inner.bare).1
      exact ⟨hsession', hfollows.settled.follows hfollows'⟩

theorem step_together (s : Session δ Env) (inner : Watched δ) :
    (s.step (.together inner.full)).1 = (s.step (.together inner.bare)).1 ∧
      inner.othersIn (s.step (.together inner.full)).2 = (s.step (.together inner.bare)).2 := by
  obtain ⟨hsession, hfollows⟩ := beginAll_follows inner s
  simp only [Session.step, begin, hsession]
  exact hfollows.settled.await maxMoments _

/-- What the steps of a session answer. -/
def answers (s : Session δ Env) : List (Step δ) → List Answer
  | [] => []
  | st :: l => (s.step st).2 :: (s.step st).1.answers l

theorem steps_watched (w : Watched δ) (s : Session δ Env) :
    s.steps w.full = s.steps w.bare ∧ w.others (s.answers w.full) = s.answers w.bare := by
  induction w generalizing s with
  | nil => exact ⟨rfl, rfl⟩
  | step st rest ih =>
      obtain ⟨hsession, hanswers⟩ := ih (s.step st).1
      refine ⟨hsession, ?_⟩
      simp only [Watched.full, Watched.bare, answers, Watched.others, hanswers]
  | look look rest ih =>
      obtain ⟨a, _, ha⟩ := s.step_look look
      simp only [Watched.full, Watched.bare, answers, Watched.others, steps, List.foldl_cons, ha]
      exact ih s
  | together inner rest ihinner ih =>
      obtain ⟨hsession, hanswer⟩ := s.step_together inner
      obtain ⟨hsession', hanswers⟩ := ih (s.step (.together inner.bare)).1
      simp only [Watched.full, Watched.bare, answers, steps, List.foldl_cons,
        Watched.others_together, hsession, hanswer, hanswers]
      exact ⟨hsession', trivial⟩

/-- **Looking changes nothing.**  A look is answered at its first turn, without a call and
without any waiting, and leaves the whole session as it is.  So a session runs in the same way
whether or not somebody looks: between any moves of its tasks, between its steps, and among
those that run together; after any number of steps it is the same session, and the steps that
are no looks answer the same.  To a request for another path the health endpoint answers that
there is nothing, whatever the method, and to one with another method which method it allows. -/
theorem looking_changes_nothing (s : Session δ Env) :
    (∀ look : Look δ, ∃ a, s.begin look.step = (s, .done a) ∧ s.step look.step = (s, a)) ∧
    (∀ l : List (Occurrence δ),
      (s.watch l).1 = s.within (·.run (l.filterMap Occurrence.action?)) ∧
        ∀ p ∈ (s.watch l).2, ∃ a, p = .done a) ∧
    (∀ w : Watched δ,
      s.steps w.full = s.steps w.bare ∧ w.others (s.answers w.full) = s.answers w.bare) ∧
    ∀ request : Http.Request,
      (request.path ≠ "/health" →
        ∃ r, s.step (.health request) = (s, .response r) ∧ r.status = 404) ∧
      (request.path = "/health" → request.method ≠ "GET" →
        ∃ r, s.step (.health request) = (s, .response r) ∧ r.status = 405 ∧
          r.headers = [("allow", "GET")]) := by
  refine ⟨s.step_look, s.watch_eq, fun w => steps_watched w s, fun request => ⟨?_, ?_⟩⟩
  · intro hpath
    have hroute : Http.routeHealth request = .respond .notFound := if_pos hpath
    refine ⟨.notFound, ?_, rfl⟩
    rw [step, begin, requestHealth, hroute]
    exact await_done _ s _
  · intro hpath hmethod
    have hroute : Http.routeHealth request = .respond (.methodNotAllowed "GET") :=
      (if_neg (not_not.mpr hpath)).trans (if_pos hmethod)
    refine ⟨.methodNotAllowed "GET", ?_, rfl, rfl⟩
    rw [step, begin, requestHealth, hroute]
    exact await_done _ s _

/-- A session with a service that has nothing registered. -/
def unused : Session Scripted Unit where
  service := .new () .standard 1000 0 (some .empty)
  names := []
  metricsPath := "/metrics"
  loops := []
  joinable := none
  stamp _ := ""

/-- A cycle with a slow dependency, and the metrics that are asked for at the same time. -/
def watchedCycle : Watched Scripted :=
  .step (.register "db" (.ofLists [.after 1500 (.ok ())] [] none))
    (.together (.look ⟨.metrics ⟨"GET", "/metrics"⟩, trivial⟩ (.step .cycle .nil)) .nil)

theorem watchedCycle_unchanged :
    unused.steps watchedCycle.full = unused.steps watchedCycle.bare ∧
      (∃ r, unused.step (.health ⟨"GET", "/"⟩) = (unused, .response r) ∧ r.status = 404) ∧
      ∃ r, unused.step (.health ⟨"PUT", "/health"⟩) = (unused, .response r) ∧ r.status = 405 ∧
        r.headers = [("allow", "GET")] := by
  obtain ⟨_, _, hwatched, hrequests⟩ := unused.looking_changes_nothing
  exact ⟨(hwatched watchedCycle).1, (hrequests ⟨"GET", "/"⟩).1 (by decide),
    (hrequests ⟨"PUT", "/health"⟩).2 rfl (by decide)⟩

end Session

end HealthWatch
