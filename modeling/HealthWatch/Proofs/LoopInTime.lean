import HealthWatch.Proofs.TickerLoop

/-!
# Loops that are in time

`OnTime` counts the cycles of a loop that nobody has told to stop.  A loop that was told
to stop goes on for as long as it has not noticed, and may begin and complete cycles
meanwhile.  `Loop.InTime` is the invariant of both: the loop has never missed the moment
at which it had something to do.  In particular it is not past its next tick, and if the
cycle under way has all its results, the last of them has just come.

`InTime.act` says what an action can do to such a loop.  Either it goes on, or it was
told to stop and ends; and once it was told, time does not pass as long as it goes on.
-/

namespace HealthWatch

/-- The next tick of a loop, once it has had its first turn. -/
def Loop.next? : Loop → Option Instant
  | .starting => none
  | .idle next => some next
  | .cycling next _ => some next

namespace Service

variable {δ Env : Type}

/-- The results of a cycle after which the next tick comes at `next` have just come: the
last of its probes ended now, or it has no probes and began now. -/
def JustIn (s : Service δ Env) (next : Instant) (results : List (String × ProbeResult)) : Prop :=
  (results = [] ∧ next = s.now + s.ticker.interval) ∨ ∃ r ∈ results, r.2.checkedAt = s.now

/-- A loop that began at `start` and has missed nothing since. -/
inductive InTime (start : Instant) (s : Service δ Env) : Loop → Prop
  | starting (hnow : s.now = start) : InTime start s .starting
  | idle {next : Instant} (hnow : s.now ≤ next) : InTime start s (.idle next)
  | cycling {next limit : Instant} {g : Gathering}
      (hg : g.Sound s.prober s.handles.length limit s.now) (hlimit : limit ≤ next)
      (hjust : ∀ results, g.results? = some results → s.JustIn next results) :
      InTime start s (.cycling next g)

variable [Dependency δ Env] {s s' : Service δ Env} {id : Nat} {start : Instant}

/-- Where no time passes a loop stays in time. -/
theorem InTime.continues {l : Loop} (h : InTime start s l) (hcontinues : Continues s s')
    (hnow : s'.now = s.now) : InTime start s' l := by
  cases h with
  | starting hstart => exact .starting (hnow.trans hstart)
  | idle hle => exact .idle (hnow ▸ hle)
  | cycling hg hlimit hjust =>
      refine .cycling (hcontinues.sound_gathering hnow hg) hlimit fun results hresults => ?_
      rw [JustIn, hnow, hcontinues.interval]
      exact hjust results hresults

omit [Dependency δ Env] in
/-- Time passes only as far as leaves a loop in time, and not at all once the loop was told
to stop. -/
theorem InTime.pass {span : Option Span} {l : Loop} (h : InTime start s l)
    (hid : s.tasks[id]? = some (.running span (.ticking l))) (time : Instant) :
    InTime start (s.pass time) l ∧ (s.ticker.signalled = true → (s.pass time).now = s.now) := by
  rcases s.pass_spec time with hrest | ⟨hpassed, hfrom, hto⟩
  · rw [hrest]
    exact ⟨h, fun _ => rfl⟩
  replace hto := fun w => hto id span (.ticking l) w hid
  have hstill : s.jobWake (.ticking l) = some s.now → s.pass time = s := by
    intro hwake
    have hsame : time = s.now := Nat.le_antisymm (hto _ hwake) hfrom
    rw [hpassed, hsame]
  by_cases hsignalled : s.ticker.signalled = true
  · rw [hstill (by simp [jobWake, hsignalled])]
    exact ⟨h, fun _ => rfl⟩
  refine ⟨?_, fun htold => absurd htold hsignalled⟩
  simp only [jobWake, if_neg hsignalled] at hstill hto
  cases h with
  | starting hnow =>
      rw [hstill rfl]
      exact .starting hnow
  | idle hnow =>
      rw [hpassed]
      exact .idle (hto _ rfl)
  | @cycling next limit g hg hlimit hjust =>
      cases hresults : g.results? with
      | some results =>
          have hwake : g.wake s.now = s.now := by
            rcases g.wake_eq s.now with ⟨p, hp, _⟩ | ⟨_, hwake⟩
            · rw [Gathering.results?_eq_some_iff.mp hresults] at hp
              obtain ⟨x, _, hx⟩ := List.mem_map.mp hp
              cases hx
            · exact hwake
          rw [hstill (congrArg some hwake)]
          exact .cycling hg hlimit hjust
      | none =>
          rw [hpassed]
          refine .cycling (hg.wait hfrom (hto _ rfl)) hlimit fun results hsome => ?_
          rw [hresults] at hsome
          cases hsome

/-- The results that a lane's move completes have just come. -/
theorem LaneMove.justIn {g g' : Gathering} {next : Instant} (hmove : LaneMove s g g')
    (hjust : ∀ results, g.results? = some results → s.JustIn next results) :
    ∀ results, g'.results? = some results → s.JustIn next results := by
  intro results hresults
  cases hmove with
  | rest => exact hjust results hresults
  | @move n p h hlane hdue hhandle =>
      have hlt := (List.getElem?_eq_some_iff.mp hlane).1
      have hmem := List.mem_of_getElem? (List.getElem?_set_self (a := laneAfter p s.now
        (p.resume s.prober s.now h s.env).progress) hlt)
      have hlanes : g.lanes.set n _ = _ := Gathering.results?_eq_some_iff.mp hresults
      rw [hlanes] at hmem
      obtain ⟨r, hr, hlast⟩ := List.mem_map.mp hmem
      cases hprogress : (p.resume s.prober s.now h s.env).progress with
      | going q =>
          rw [hprogress] at hlast
          cases hlast
      | done finding =>
          rw [hprogress] at hlast
          refine .inr ⟨r, hr, ?_⟩
          rw [(Lane.finished.inj hlast).2]

omit [Dependency δ Env] in
/-- A cycle that begins has its results at once only if it has no probes. -/
theorem justIn_start (s : Service δ Env) (deadline : Instant)
    (results : List (String × ProbeResult))
    (hresults : (Gathering.start s.prober s.registry deadline s.now).results? = some results) :
    s.JustIn (s.now + s.ticker.interval) results := by
  have hlanes := Gathering.results?_eq_some_iff.mp hresults
  cases results with
  | nil => exact .inl ⟨rfl, rfl⟩
  | cons r results =>
      have hmem : Lane.finished r.1 r.2 ∈
          (Gathering.start s.prober s.registry deadline s.now).lanes := by
        rw [hlanes]
        exact List.mem_cons_self
      obtain ⟨e, _, he⟩ := List.mem_map.mp hmem
      cases he

omit [Dependency δ Env] in
/-- A cycle has to be over by the next tick. -/
theorem limit_le_tick (hinterval : s.ticker.interval ≠ 0) (time : Instant) :
    Gathering.limit s.prober (time + s.ticker.budget) time ≤ time + s.ticker.interval := by
  grind [Gathering.limit, Ticker.budget]

/-- What a move leaves of a loop is in time. -/
theorem InTime.move {span span' : Option Span} {l l' : Loop} (h : InTime start s l)
    (hs : s.Sound) (hinterval : s.ticker.interval ≠ 0)
    (hmove : JobMove s span (.ticking l) (.running span' (.ticking l'))) : InTime start s l' := by
  cases hmove with
  | rest => exact h
  | started => exact .idle (Nat.le_add_right _ _)
  | tick hdue =>
      refine .cycling (.ofEntries hs.registry) (limit_le_tick hinterval _) ?_
      exact s.justIn_start _
  | cycleLane hlane =>
      cases h with
      | cycling hg hlimit hjust => exact .cycling (hlane.sound hg) hlimit (hlane.justIn hjust)
  | cycle =>
      cases h with
      | cycling hg hlimit => exact .idle (Nat.le_trans hg.now_le hlimit)

/-- What a move makes of a loop: it is a loop again, or it was told to stop and has ended. -/
theorem JobMove.of_ticking {span : Option Span} {l : Loop} {task : Task}
    (hinterval : s.ticker.interval ≠ 0) (hmove : JobMove s span (.ticking l) task) :
    (∃ span' l', task = .running span' (.ticking l')) ∨
      s.ticker.signalled = true ∧ task = .ended s.now .stopped := by
  cases hmove with
  | noInterval hzero => exact absurd hzero hinterval
  | stopped hsignalled => exact .inr ⟨hsignalled, rfl⟩
  | _ => exact .inl ⟨_, _, rfl⟩

/-- **One action.**  A loop that is not dropped goes on, in time, or was told to stop and
ends.  Once it was told, no time passes until then. -/
theorem InTime.act {l : Loop} {a : Action δ} (hl : s.loop? id = some l) (h : InTime start s l)
    (hs : s.Sound) (hinterval : s.ticker.interval ≠ 0) (ha : a ≠ .drop id) :
    ((∃ l', (s.act a).loop? id = some l' ∧ InTime start (s.act a) l') ∨
        s.ticker.signalled = true ∧ (s.act a).tasks[id]? = some (.ended s.now .stopped)) ∧
      (s.ticker.signalled = true → (s.act a).now = s.now) := by
  obtain ⟨span, hid⟩ := loop?_eq_some_iff.mp hl
  by_cases hpass : ∃ time, a = .pass time
  · obtain ⟨time, rfl⟩ := hpass
    have htasks : (s.pass time).tasks = s.tasks := by
      unfold Service.pass
      split <;> rfl
    obtain ⟨hintime, hnow⟩ := h.pass hid time
    refine ⟨.inl ⟨l, ?_, hintime⟩, hnow⟩
    rw [loop?, Service.act, htasks]
    exact hl
  have hnow : (s.act a).now = s.now := act_now fun time ha => hpass ⟨time, ha⟩
  have hcontinues := Continues.act s a
  refine ⟨?_, fun _ => hnow⟩
  rcases act_loop hl ha with hsame | ⟨span, task, hid', hmoved⟩
  · exact .inl ⟨l, hsame, h.continues hcontinues hnow⟩
  · rcases hmoved.move.of_ticking hinterval with ⟨span', l', rfl⟩ | ⟨hsignalled, rfl⟩
    · refine .inl ⟨l', loop?_eq_some_iff.mpr ⟨_, hid'⟩, ?_⟩
      exact (h.move hs hinterval hmoved.move).continues hcontinues hnow
    · exact .inr ⟨hsignalled, hid'⟩

end Service

end HealthWatch
