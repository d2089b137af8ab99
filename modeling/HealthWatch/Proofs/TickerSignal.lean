import HealthWatch.Proofs.LoopInTime
import HealthWatch.Proofs.TickSchedule
import HealthWatch.Proofs.ToldEvents

/-!
# Loops that heed the signal to stop

A ticker is told to stop for the first time at `firstTold`, which may be before its loop
begins.  `Heeds` is the invariant of the loop: until it is told it goes on, and from then on
it has ended or is still at the moment at which it was told (`Heeds.run`).

As long as it goes on it may still begin and complete cycles.  It begins at most one more,
and only if its tick was due at that very moment (`Heeds.begun_after`).  What it says of a
cycle it says when it has counted it, so of a cycle that is given up nothing is counted or
told (`Does.cycle_cases`).
-/

namespace HealthWatch

namespace Service

variable {δ Env : Type} [Dependency δ Env] {s : Service δ Env} {id : Nat}

/-! ## When the ticker is told -/

/-- The moment at which an action tells the ticker to stop, if it does. -/
def tells (s : Service δ Env) : Action δ → Option Instant
  | .signal => some s.now
  | _ => none

/-- When the ticker is told to stop for the first time in a run. -/
def firstTold : Service δ Env → List (Action δ) → Option Instant
  | _, [] => none
  | s, a :: rest => (s.tells a).or (firstTold (s.act a) rest)

theorem firstTold_append (s : Service δ Env) (actions more : List (Action δ)) :
    firstTold s (actions ++ more) = (firstTold s actions).or (firstTold (s.run actions) more) := by
  induction actions generalizing s with
  | nil => rfl
  | cons a actions ih =>
      rw [List.cons_append, firstTold, ih, firstTold, Option.or_assoc]
      rfl

omit [Dependency δ Env] in
theorem tells_eq_some_iff {a : Action δ} {x : Instant} :
    s.tells a = some x ↔ a = .signal ∧ s.now = x := by
  cases a <;> simp [tells]

/-- The ticker has been told what an action tells it. -/
theorem act_signalled_eq (s : Service δ Env) (a : Action δ) :
    (s.act a).ticker.signalled = (s.ticker.signalled || (s.tells a).isSome) := by
  by_cases ha : a = .signal
  · subst ha
    simp [act, signal, tells]
  · have hnone : s.tells a = none :=
      Option.eq_none_iff_forall_ne_some.mpr fun x hx => ha (tells_eq_some_iff.mp hx).1
    rw [act_signalled ha, hnone, Option.isSome_none, Bool.or_false]

theorem run_signalled (s : Service δ Env) (actions : List (Action δ)) :
    (s.run actions).ticker.signalled = (s.ticker.signalled || (firstTold s actions).isSome) := by
  induction actions generalizing s with
  | nil => exact (Bool.or_false _).symm
  | cons a actions ih =>
      have hrun : s.run (a :: actions) = (s.act a).run actions := rfl
      rw [hrun, ih, act_signalled_eq, firstTold, Option.isSome_or, Bool.or_assoc]

/-- The ticker is told in the course of a run. -/
theorem firstTold_le {actions : List (Action δ)} {x : Instant}
    (hx : firstTold s actions = some x) : x ≤ (s.run actions).now := by
  induction actions generalizing s with
  | nil => cases hx
  | cons a actions ih =>
      rcases Option.or_eq_some_iff.mp hx with htells | ⟨_, hrest⟩
      · obtain ⟨_, rfl⟩ := tells_eq_some_iff.mp htells
        exact (Continues.run s (a :: actions)).now_le
      · exact ih hrest

/-! ## Loops that heed the signal -/

/-- A loop that began at `start`, of a ticker that was told to stop at `told`, if it was.
Either it goes on, in time and still at the moment at which it was told; or it has ended
at that moment. -/
structure Heeds (start : Instant) (told : Option Instant) (id : Nat) (s : Service δ Env) :
    Prop where
  sound : s.Sound
  interval : s.ticker.interval ≠ 0
  signalled : s.ticker.signalled = told.isSome
  started : start ≤ s.now
  loop : (∃ l, s.loop? id = some l ∧ InTime start s l ∧ ∀ x ∈ told, s.now = max x start) ∨
    ∃ x ∈ told, s.tasks[id]? = some (.ended (max x start) .stopped)

variable {start : Instant} {told : Option Instant}

/-- A loop that begins has missed nothing. -/
theorem Heeds.begin (hs : s.Sound) (hinterval : s.ticker.interval ≠ 0)
    (hsignalled : s.ticker.signalled = told.isSome) (htold : ∀ x ∈ told, x ≤ s.now) :
    Heeds s.now told s.tasks.length (s.act .beginTicker) where
  sound := hs.act _
  interval := hinterval
  signalled := hsignalled
  started := Nat.le_refl _
  loop := by
    refine .inl ⟨.starting, ?_, .starting rfl, fun x hx => ?_⟩
    · simp [loop?, Service.act, beginTicker, spawn]
    · exact (Nat.max_eq_right (htold x hx)).symm

/-- **One action** leaves a loop heeding the signal. -/
theorem Heeds.act {a : Action δ} (h : Heeds start told id s) (ha : a ≠ .drop id) :
    Heeds start (told.or (s.tells a)) id (s.act a) := by
  have hcontinues := Continues.act s a
  refine ⟨h.sound.act a, hcontinues.interval ▸ h.interval, ?_,
    Nat.le_trans h.started hcontinues.now_le, ?_⟩
  · rw [act_signalled_eq, h.signalled, Option.isSome_or]
  rcases h.loop with ⟨l, hl, hintime, hnow⟩ | ⟨x, hx, hid⟩
  · obtain ⟨hafter, hstill⟩ := hintime.act hl h.sound h.interval ha
    rcases hafter with ⟨l', hl', hintime'⟩ | ⟨hsignalled, hended⟩
    · refine .inl ⟨l', hl', hintime', fun x hx => ?_⟩
      rcases Option.or_eq_some_iff.mp hx with htold | ⟨_, htells⟩
      · rw [hstill (by rw [h.signalled, htold]; rfl)]
        exact hnow x htold
      · obtain ⟨rfl, rfl⟩ := tells_eq_some_iff.mp htells
        exact (Nat.max_eq_left h.started).symm
    · rw [h.signalled] at hsignalled
      obtain ⟨x, hx⟩ := Option.isSome_iff_exists.mp hsignalled
      refine .inr ⟨x, by rw [hx]; rfl, ?_⟩
      rw [← hnow x hx]
      exact hended
  · refine .inr ⟨x, ?_, act_ended hid a⟩
    rw [Option.mem_def.mp hx]
    rfl

/-- **A whole run** leaves a loop heeding the signal. -/
theorem Heeds.run {actions : List (Action δ)} (h : Heeds start told id s)
    (hkept : .drop id ∉ actions) :
    Heeds start (told.or (firstTold s actions)) id (s.run actions) := by
  induction actions generalizing s told with
  | nil =>
      rw [firstTold, Option.or_none]
      exact h
  | cons a actions ih =>
      have hrest := ih (h.act (List.ne_of_not_mem_cons hkept).symm)
        (List.not_mem_of_not_mem_cons hkept)
      rw [Option.or_assoc] at hrest
      exact hrest

/-- A loop that was told to stop and goes on has a move by which it ends. -/
theorem exists_stop {l : Loop} (hl : s.loop? id = some l) (hinterval : s.ticker.interval ≠ 0)
    (hsignalled : s.ticker.signalled = true) :
    ∃ part, (s.act (.move id part)).tasks[id]? = some (.ended s.now .stopped) := by
  obtain ⟨span, hid⟩ := loop?_eq_some_iff.mp hl
  have hlt := (List.getElem?_eq_some_iff.mp hid).1
  have hmove : ∀ part, s.act (.move id part) = s.moveJob id span (.ticking l) part := by
    intro part
    simp only [act, move, hid]
  by_cases hstarting : l = .starting
  · subst hstarting
    refine ⟨.whole, ?_⟩
    rw [hmove]
    simp [moveJob, moveLoop, startLoop, stopLoop, hinterval, hsignalled, tell, setTask, hlt]
  · refine ⟨.signal, ?_⟩
    rw [hmove, (Moved.signal hstarting hsignalled).tasks, List.getElem?_set_self hlt]

/-! ## Cycles after the signal -/

/-- What one action adds to the cycles of a loop that was told to stop: one more cycle only
if its tick is due now, and then the next tick is not due. -/
theorem InTime.act_begun {l : Loop} {a : Action δ} (hl : s.loop? id = some l)
    (h : InTime start s l) (hinterval : s.ticker.interval ≠ 0)
    (hsignalled : s.ticker.signalled = true) (hstill : (s.act a).now = s.now)
    (ha : a ≠ .drop id) :
    (begunBy id s (s.act a) = [] ∧ ∀ l', (s.act a).loop? id = some l' →
        l'.next? = some s.now → l.next? = some s.now) ∨
      begunBy id s (s.act a) = [s.now] ∧ l.next? = some s.now ∧
        ∀ l', (s.act a).loop? id = some l' → l'.next? ≠ some s.now := by
  rcases act_loop hl ha with hsame | ⟨span, task, hid', hmoved⟩
  · refine .inl ⟨?_, fun l' hl' hnext => ?_⟩
    · cases l <;> simp [begunBy, hl, hsame]
    · cases hsame.symm.trans hl'
      exact hnext
  have hloop : ∀ {span' l'}, task = .running span' (.ticking l') →
      (s.act a).loop? id = some l' := by
    rintro span' l' rfl
    exact loop?_eq_some_iff.mpr ⟨_, hid'⟩
  have hended : ∀ {time outcome}, task = .ended time outcome → (s.act a).loop? id = none := by
    rintro time outcome rfl
    rw [loop?, hid']
  cases hmoved.move with
  | rest =>
      refine .inl ⟨?_, fun l' hl' hnext => ?_⟩
      · cases l <;> simp [begunBy, hl, hloop rfl]
      · cases (hloop rfl).symm.trans hl'
        exact hnext
  | noInterval hzero => exact absurd hzero hinterval
  | started _ hsilent => rw [hsignalled] at hsilent; cases hsilent
  | stopped =>
      refine .inl ⟨by simp [begunBy, hended rfl], fun l' hl' => ?_⟩
      cases (hended rfl).symm.trans hl'
  | @tick next hdue =>
      have hnext : next = s.now := by
        cases h with
        | idle hle => exact Nat.le_antisymm hdue hle
      refine .inr ⟨by simp [begunBy, hl, hloop rfl, hstill], congrArg some hnext, ?_⟩
      intro l' hl'
      cases (hloop rfl).symm.trans hl'
      simpa [Loop.next?] using hinterval
  | cycleLane =>
      refine .inl ⟨by simp [begunBy, hl], fun l' hl' hnext => ?_⟩
      cases (hloop rfl).symm.trans hl'
      exact hnext
  | cycle =>
      refine .inl ⟨by simp [begunBy, hl], fun l' hl' hnext => ?_⟩
      cases (hloop rfl).symm.trans hl'
      exact hnext

omit [Dependency δ Env] in
theorem loop?_of_ended {time : Instant} {outcome : Outcome}
    (hid : s.tasks[id]? = some (.ended time outcome)) : s.loop? id = none := by rw [loop?, hid]

/-- A loop that was told to stop begins at most one more cycle: now, if its tick is due
now. -/
theorem Heeds.begun_after {x : Instant} {actions : List (Action δ)}
    (h : Heeds start (some x) id s) (hkept : .drop id ∉ actions) :
    begun id s actions = [] ∨
      begun id s actions = [s.now] ∧ ∃ l, s.loop? id = some l ∧ l.next? = some s.now := by
  induction actions generalizing s with
  | nil => exact .inl rfl
  | cons a actions ih =>
      have ha := (List.ne_of_not_mem_cons hkept).symm
      have hafter : Heeds start (some x) id (s.act a) := h.act ha
      have hrest := ih hafter (List.not_mem_of_not_mem_cons hkept)
      rw [begun]
      rcases h.loop with ⟨l, hl, hintime, _⟩ | ⟨_, _, hid⟩
      · have hstill : (s.act a).now = s.now :=
          (hintime.act hl h.sound h.interval ha).2 h.signalled
        rw [hstill] at hrest
        rcases hintime.act_begun hl h.interval h.signalled hstill ha with
          ⟨hnone, hdue⟩ | ⟨hone, hdue, hlater⟩
        · rw [hnone, List.nil_append]
          rcases hrest with hrest | ⟨hbegun, l', hl', hnext⟩
          · exact .inl hrest
          · exact .inr ⟨hbegun, l, hl, hdue l' hl' hnext⟩
        · refine .inr ⟨?_, l, hl, hdue⟩
          rcases hrest with hrest | ⟨_, l', hl', hnext⟩
          · rw [hone, hrest, List.append_nil]
          · exact absurd hnext (hlater l' hl')
      · have hnone := loop?_of_ended hid
        rw [begunBy, hnone, List.nil_append]
        rcases hrest with hrest | ⟨_, l', hl', _⟩
        · exact .inl hrest
        · cases (loop?_of_ended (act_ended hid a)).symm.trans hl'

/-- What a move of a loop does to its cycles: either nothing is counted and nothing told,
or a cycle is complete, and is counted and told of as a whole. -/
theorem Does.cycle_cases {span : Option Span} {l : Loop} {task : Task} {s' : Service δ Env}
    (hdoes : Does s span (.ticking l) task s') :
    (s'.ticker.cycles = s.ticker.cycles ∧ s'.told .cycle = s.told .cycle) ∨
      ∃ next g results, l = .cycling next g ∧ g.results? = some results ∧
        s'.ticker.cycles = s.ticker.cycles + 1 ∧
        s'.told .cycle = s.told .cycle ++ cycleEvents ⟨.ofList results, s.uptime, s.now⟩ := by
  by_cases hnone : completions (.ticking l) task = 0
  · refine .inl ⟨?_, hdoes.told_cycle hnone⟩
    cases hdoes with
    | stopped => rw [s.abandonJob_eq]; rfl
    | cycleLane next g n => rw [(s.moveLane_spec span g n).2.2.2]
    | cycle => cases hnone
    | _ => rfl
  · cases hdoes with
    | @cycle next g results hresults =>
        refine .inr ⟨next, g, results, rfl, hresults, rfl, ?_⟩
        have hbuilt : (s.finishReport (some .ticker) results).1.told .cycle = s.told .cycle :=
          told_tell_of_ne s _ (by simp [Event.topic])
        have hlines : ((s.finishReport (some .ticker) results).1.tell (some .ticker)
            (cycleEvents (s.finishReport (some .ticker) results).2)).told .cycle = _ :=
          told_tell _ _ _
        rw [hbuilt, List.filter_eq_self.mpr fun e he => by simpa using topic_cycleEvents _ e he]
          at hlines
        exact hlines
    | rest => exact absurd (by cases l <;> rfl) hnone
    | stopped => exact absurd (by cases l <;> rfl) hnone
    | _ => exact absurd rfl hnone

end Service

end HealthWatch
