import HealthWatch.Proofs.ProbeAttempts
import HealthWatch.Proofs.RequestAnswered

/-!
# The course of a probe

Whatever else happens to a service, a probe that it has begun moves only when it wakes up, so by
induction over a run it goes on from each of its stages as `Probe.Stage.GoesOn` says
(`goesOn_of_outcome`).  `Probing.course` puts this together: what a
probe asks its dependency, when it ends and what it finds are given by the answers alone.
-/

namespace HealthWatch.Service

variable {δ Env : Type} [Dependency δ Env] {s : Service δ Env} {id : Nat} {span : Option Span}

/-- What an action makes a probe that is task `id` ask its dependency. -/
def asks (s : Service δ Env) (id : Nat) : Action δ → List Probe.Question
  | .move n .whole =>
    match s.job? n with
    | some (.probing p) =>
      if n = id ∧ p.wake ≤ s.now then
        s.handles[p.handle]?.elim [] fun h => p.asks s.now h s.env
      else []
    | _ => []
  | _ => []

/-- What a probe that is task `id` asks its dependency in a run. -/
def asked (s : Service δ Env) (id : Nat) : List (Action δ) → List Probe.Question
  | [] => []
  | a :: actions => s.asks id a ++ (s.act a).asked id actions

/-- A task asks nothing but by a move of its own while it probes and is due. -/
theorem asks_eq_nil {a : Action δ} (h : ∀ p, s.job? id = some (.probing p) →
    ¬ (a = .move id .whole ∧ p.wake ≤ s.now)) : s.asks id a = [] := by
  unfold asks
  split
  · next n =>
    split
    · next p hjob =>
      refine if_neg fun ⟨hn, hdue⟩ => ?_
      subst hn
      exact h p hjob ⟨rfl, hdue⟩
    · rfl
  · rfl

theorem asks_of_ended {time : Instant} {outcome : Outcome}
    (hid : s.tasks[id]? = some (.ended time outcome)) (a : Action δ) : s.asks id a = [] :=
  asks_eq_nil fun p hjob => by simp [job?, hid] at hjob

theorem asked_of_ended {time : Instant} {outcome : Outcome} {actions : List (Action δ)}
    (hid : s.tasks[id]? = some (.ended time outcome)) : s.asked id actions = [] := by
  induction actions generalizing s with
  | nil => rfl
  | cons a actions ih => rw [asked, asks_of_ended hid, ih (act_ended hid a), List.append_nil]

theorem asks_of_resting {p : Probe} (hid : s.tasks[id]? = some (.running span (.probing p)))
    {a : Action δ} (hrest : ¬ (a = .move id .whole ∧ p.wake ≤ s.now)) : s.asks id a = [] := by
  refine asks_eq_nil fun q hjob => ?_
  simp only [job?, hid, Option.some.injEq, Job.probing.injEq] at hjob
  exact hjob ▸ hrest

/-- A probe asks by the move with which it goes on. -/
theorem asks_of_due {p : Probe} {h : Handle δ}
    (hid : s.tasks[id]? = some (.running span (.probing p))) (hwake : p.wake = s.now)
    (hh : s.handles[p.handle]? = some h) :
    s.asks id (.move id .whole) = p.asks s.now h s.env := by
  simp [asks, job?, hid, hwake, hh]

/-- **A whole run.**  A probe that has ended went on from where it was. -/
theorem goesOn_of_outcome (hs : s.Sound) {p : Probe} {actions : List (Action δ)} {time : Instant}
    {outcome : Outcome} (hid : s.tasks[id]? = some (.running span (.probing p)))
    (hkept : .drop id ∉ actions) (houtcome : (s.run actions).outcome? id = some (time, outcome)) :
    ∃ finding, outcome = .probed ⟨finding, time⟩ ∧
      p.stage.GoesOn s.prober p.started p.deadline (s.detailed p.handle) (s.asked id actions) time
        finding := by
  induction actions generalizing s p with
  | nil => cases hid.symm.trans (outcome?_eq_some_iff.mp houtcome)
  | cons a actions ih =>
      have ha : a ≠ .drop id := (List.ne_of_not_mem_cons hkept).symm
      have hkeeps := List.not_mem_of_not_mem_cons hkept
      have hcontinues := Continues.act s a
      have hp : p.Sound s.prober s.handles.length s.now := hs.jobs id span _ hid
      rw [asked]
      -- The action leaves the probe where it is, or takes it one stage on.
      rcases act_probing hs hid ha with ⟨hsame, hrest⟩ | ⟨rfl, hwake, h, hh, hnext⟩
      · have hgoes := ih (hs.act a) hsame hkeeps houtcome
        rw [hcontinues.prober, hcontinues.detailed_eq hp.handle_lt] at hgoes
        rwa [asks_of_resting hid hrest, List.nil_append]
      · rw [asks_of_due hid hwake hh]
        have hdetailed : s.detailed p.handle = Dependency.hasDetails h.dependency := by
          simp [detailed, hh]
        have hstep := Probe.goesOn_resume s.prober h s.env hwake
        cases hprogress : (p.resume s.prober s.now h s.env).progress with
        | going q =>
            rw [hprogress] at hnext hstep
            obtain ⟨stage, _, rfl⟩ := Probe.resume_going hprogress
            obtain ⟨finding, hfinding, hgoes⟩ := ih (hs.act _) hnext hkeeps houtcome
            rw [hcontinues.prober, hcontinues.detailed_eq hp.handle_lt, hdetailed] at hgoes
            rw [hdetailed]
            exact ⟨finding, hfinding, hstep _ _ _ hgoes⟩
        | done finding =>
            rw [hprogress] at hnext hstep
            -- What has ended asks nothing more, so this move was the last.
            have hended := (run_ended hnext actions).symm.trans (outcome?_eq_some_iff.mp houtcome)
            cases hended
            rw [asked_of_ended hnext, List.append_nil, hdetailed]
            exact ⟨finding, rfl, hstep⟩

/-! ## Probes of registered dependencies -/

/-- A run in which a probe of a dependency that is registered in `s` begins and is not given
up. -/
structure Probing (s : Service δ Env) where
  name : String
  handle : Nat
  deadline : Instant
  after : List (Action δ)
  registered : s.registry.get? name = some handle
  kept : .drop s.tasks.length ∉ after

namespace Probing

variable (R : Probing s)

/-- The service in which the probe begins. -/
def begun : Service δ Env := s.act (.beginProbe R.name R.deadline)

/-- When the probe has to be over. -/
def limit : Instant := min R.deadline (s.now + s.prober.ceiling)

/-- What the probe has asked at the end of the run. -/
def asked : List Probe.Question := R.begun.asked s.tasks.length R.after

/-- What the probe has ended with at the end of the run. -/
def outcome? : Option (Instant × Outcome) := (R.begun.run R.after).outcome? s.tasks.length

theorem begun_task : R.begun.tasks[s.tasks.length]? =
    some (.running none (.probing (.start s.prober R.name R.handle R.deadline s.now))) := by
  simp [begun, Service.act, beginProbe, R.registered, Service.spawn]

omit [Dependency δ Env] in
theorem handle_lt (hs : s.Sound) : R.handle < s.handles.length :=
  hs.registry (R.name, R.handle) (NameMap.get?_eq_some_iff.mp R.registered)

/-- A probe that has ended went on from its first attempt. -/
theorem goesOn (hs : s.Sound) {time : Instant} {outcome : Outcome}
    (houtcome : R.outcome? = some (time, outcome)) :
    ∃ finding, outcome = .probed ⟨finding, time⟩ ∧
      (Probe.Stage.due 1 s.now).GoesOn s.prober s.now R.limit (s.detailed R.handle) R.asked time
        finding := by
  have hcontinues : Continues s R.begun := .act s _
  have hsound : R.begun.Sound := hs.act _
  have hgoes := goesOn_of_outcome hsound R.begun_task R.kept houtcome
  rwa [hcontinues.prober, show (Probe.start ..).handle = R.handle from rfl,
    hcontinues.detailed_eq (R.handle_lt hs)] at hgoes

/-- Past its limit the probe has ended. -/
theorem ended_of_late (hs : s.Sound) {more : List (Action δ)} (hkept : .drop s.tasks.length ∉ more)
    (hlate : max s.now R.limit < ((R.begun.run R.after).run more).now) :
    (((R.begun.run R.after).run more).outcome? s.tasks.length).isSome = true := by
  have hsound : R.begun.Sound := hs.act _
  have hrun : (R.begun.run R.after).run more = R.begun.run (R.after ++ more) :=
    (List.foldl_append ..).symm
  have hall : .drop s.tasks.length ∉ R.after ++ more := by
    rw [List.mem_append]
    exact not_or.mpr ⟨R.kept, hkept⟩
  rw [hrun] at hlate ⊢
  exact (run_probing hsound R.begun_task hall).resolve_left (Nat.not_le_of_lt hlate)

/-- Without anything more from outside the probe comes to its end. -/
theorem ends (hs : s.Sound) :
    ∃ more : List (Action δ), (∀ a ∈ more, a.IsOwn) ∧
      (((R.begun.run R.after).run more).outcome? s.tasks.length).isSome = true := by
  have hsound : (R.begun.run R.after).Sound := (hs.act _).run _
  obtain ⟨more, hown, hnow⟩ :=
    hsound.time_goes_on (Nat.le_max_left _ (max s.now R.limit + 1))
  refine ⟨more, hown, R.ended_of_late hs (not_drop_of_own hown _) ?_⟩
  rw [hnow]
  exact Nat.le_max_right _ _

/-- **The course of a probe.**  A probe that `s` begins and that is not given up ends, and by
its limit unless that is over when it begins.  If its dependency has no diagnostics, it makes
`Probe.Attempts` as they follow from the answers (`Probe.Attempts.unique`), all but the first of
which begin before the limit; it ends when the last of them ends, and finds what that comes to.
If the dependency has diagnostics, it asks for them once. -/
theorem course (hs : s.Reachable) :
    (∀ time outcome, R.outcome? = some (time, outcome) →
      time ≤ max s.now R.limit ∧
      (s.detailed R.handle = false → ∃ attempts last,
        Probe.Attempts s.prober s.now R.limit (s.prober.retry.maxAttempts - 1) s.now attempts
          last ∧
        R.asked = attempts.map Probe.Attempt.question ∧ attempts.getLast? = some last ∧
        (∀ a ∈ attempts.tail, a.begins < R.limit) ∧
        time = last.ends ∧ outcome = .probed ⟨Probe.checkFinding last.outcome, time⟩) ∧
      (s.detailed R.handle = true → ∃ a : Probe.Attempt Diagnostics,
        a.begins = s.now ∧ a.Within s.now R.limit ∧ R.asked = [.details a.begins a.reply] ∧
        time = a.ends ∧ outcome = .probed ⟨Probe.diagnosis s.now a.ends a.outcome, time⟩)) ∧
    ∃ more : List (Action δ), (∀ a ∈ more, a.IsOwn) ∧
      (((R.begun.run R.after).run more).outcome? s.tasks.length).isSome = true := by
  refine ⟨fun time outcome houtcome => ?_, R.ends hs.sound⟩
  obtain ⟨finding, rfl, hgoes⟩ := R.goesOn hs.sound houtcome
  cases hdetailed : s.detailed R.handle with
  | false =>
      rw [hdetailed] at hgoes
      obtain ⟨attempts, last, hasked, hattempts, rfl, rfl⟩ := hgoes.attempts
      refine ⟨hattempts.ends_le, fun _ => ?_, fun h => absurd h Bool.false_ne_true⟩
      exact ⟨attempts, last, hattempts, hasked, hattempts.getLast?_eq, hattempts.begins_lt, rfl,
        rfl⟩
  | true =>
      rw [hdetailed] at hgoes
      obtain ⟨a, hbegins, hwithin, hasked, rfl, rfl⟩ := hgoes.diagnosis
      exact ⟨hbegins ▸ hwithin.ends_le, fun h => absurd h.symm Bool.false_ne_true,
        fun _ => ⟨a, hbegins, hwithin, hasked, rfl, rfl⟩⟩

end Probing

/-- A service with a dependency that refuses the first check and answers the next one. -/
def recovering (prober : Prober) : Service Scripted Unit :=
  (new () prober 1000 0 none).act
    (.register "db" (.ofLists [.after 0 (.error (.connection "refused")), .after 0 (.ok ())] []
      none))

/-- A probe that rests for `rest` before it tries again. -/
def retried (prober : Prober) (deadline rest : Instant) : Probing (recovering prober) where
  name := "db"
  handle := 0
  deadline := deadline
  after := [.move 0 .whole, .move 0 .whole, .pass rest, .move 0 .whole, .move 0 .whole]
  registered := rfl
  kept := by simp

/-- The second attempt of a standard probe begins when the first has failed and the pause is
over. -/
theorem retried_course : ∃ attempts last, Probe.Attempts .standard 0 5000 2 0 attempts last ∧
    (retried .standard 9000 2000).asked = attempts.map Probe.Attempt.question ∧
    last.begins = 2000 ∧ last.ends = 2000 ∧
    (retried .standard 9000 2000).outcome? =
      some (2000, .probed ⟨Probe.checkFinding last.outcome, 2000⟩) := by
  have houtcome : (retried .standard 9000 2000).outcome? =
      some (2000, .probed ⟨.healthy none none, 2000⟩) := rfl
  have h := (retried .standard 9000 2000).course ((Reachable.new () .standard 1000 0 none).act _)
  obtain ⟨attempts, last, hattempts, hasked, hlast, _, hends, hfound⟩ :=
    (h.1 2000 _ houtcome).2.1 rfl
  refine ⟨attempts, last, hattempts, hasked, ?_, hends.symm, houtcome.trans (by rw [hfound])⟩
  have hsecond : (attempts.map Probe.Attempt.question).getLast? =
      some (.check 2000 (.after 0 (.ok ()))) := by rw [← hasked]; rfl
  rw [List.getLast?_map, hlast] at hsecond
  exact (Probe.Question.check.inj (Option.some.inj hsecond)).1

/-- A probe with a pause of more than thirty-one years. -/
def retriedPatiently : Probing (recovering ⟨2000000000000, .of 2 1000000000000⟩) :=
  retried _ 2000000000000 946080000000

/-- Its pause is over after thirty. -/
theorem retried_early :
    retriedPatiently.asked = [.check 0 (.after 0 (.error (.connection "refused"))),
      .check 946080000000 (.after 0 (.ok ()))] ∧
    retriedPatiently.outcome? =
      some (946080000000, .probed ⟨.healthy none none, 946080000000⟩) ∧
    0 + 1000000000000 < retriedPatiently.limit ∧
    retriedPatiently.asked[1]? ≠ some (.check (0 + 1000000000000) (.after 0 (.ok ()))) := by
  have hasked : retriedPatiently.asked = [.check 0 (.after 0 (.error (.connection "refused"))),
      .check 946080000000 (.after 0 (.ok ()))] := rfl
  refine ⟨hasked, rfl, by decide, ?_⟩
  rw [hasked]
  simp

end HealthWatch.Service
