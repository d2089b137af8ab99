import HealthWatch.Proofs.ReportCourse

/-!
# The ticker's loop

A loop that was not told to stop goes round: it waits for its next tick, a cycle
begins exactly then, the cycle's report runs as any report does, and the loop waits
again.  One lemma for each of these stages says what an action can do to it, and when.

`OnTime` is the invariant of the loop that began at `start`.  It says how many cycles
have begun and how many are completed, that the next tick comes at a whole number of
intervals after `start`, and that a cycle under way is on time for a limit that lies
before that tick.
-/

namespace HealthWatch.Service

variable {δ Env : Type} {s : Service δ Env} {id : Nat}

/-- The loop that a task runs. -/
def loop? (s : Service δ Env) (id : Nat) : Option Loop :=
  match s.tasks[id]? with
  | some (.running _ (.ticking l)) => some l
  | _ => none

theorem loop?_eq_some_iff {l : Loop} :
    s.loop? id = some l ↔ ∃ span, s.tasks[id]? = some (.running span (.ticking l)) := by
  unfold loop?
  split
  · next span l' hid => simp [hid]
  · next hother =>
    simp only [reduceCtorEq, false_iff]
    rintro ⟨span, hid⟩
    exact hother span l hid

variable [Dependency δ Env]

/-- What a loop becomes by one action: it stays as it is or makes a `JobMove`. -/
theorem act_loop {l : Loop} {a : Action δ} (hl : s.loop? id = some l) (ha : a ≠ .drop id) :
    (s.act a).loop? id = some l ∨ ∃ span task, (s.act a).tasks[id]? = some task ∧
      Moved s (s.act a) id span (.ticking l) task := by
  obtain ⟨span, hid⟩ := loop?_eq_some_iff.mp hl
  rcases act_getElem? hid a with hsame | ⟨_, _, _, task, _, htask, hid', hmoved⟩ | ⟨hdrop, _⟩
  · exact .inl (loop?_eq_some_iff.mpr ⟨span, hsame⟩)
  · cases htask
    exact .inr ⟨span, task, hid', hmoved⟩
  · exact absurd hdrop ha

/-- Time does not pass the moment at which a loop has something to do. -/
theorem act_now_le {l : Loop} {w : Instant} (a : Action δ) (hl : s.loop? id = some l)
    (hwake : s.jobWake (.ticking l) = some w) (hle : s.now ≤ w) : (s.act a).now ≤ w := by
  obtain ⟨span, hid⟩ := loop?_eq_some_iff.mp hl
  by_cases hpass : ∃ time, a = .pass time
  · obtain ⟨time, rfl⟩ := hpass
    rcases s.pass_spec time with hrest | ⟨hpassed, _, hto⟩
    · have hsame : s.act (.pass time) = s := hrest
      rwa [hsame]
    · have htime : s.act (.pass time) = { s with now := time } := hpassed
      rw [htime]
      exact hto id span _ w hid hwake
  · rw [act_now fun time ha => hpass ⟨time, ha⟩]
    exact hle

variable {a : Action δ}

/-- A loop that has not had its first turn has it before time passes. -/
theorem act_starting (hl : s.loop? id = some .starting) (ha : a ≠ .drop id)
    (hsignalled : s.ticker.signalled = false) (hinterval : s.ticker.interval ≠ 0) :
    (s.act a).now = s.now ∧ ((s.act a).loop? id = some .starting ∨
      (s.act a).loop? id = some (.idle (s.now + s.ticker.interval))) := by
  have hwake : s.jobWake (.ticking .starting) = some s.now := by simp [jobWake]
  refine ⟨Nat.le_antisymm (act_now_le a hl hwake (Nat.le_refl _)) (Continues.act s a).now_le, ?_⟩
  rcases act_loop hl ha with hsame | ⟨span, task, hid', hmoved⟩
  · exact .inl hsame
  · cases hmoved.move with
    | rest => exact .inl (loop?_eq_some_iff.mpr ⟨_, hid'⟩)
    | noInterval hzero => exact absurd hzero hinterval
    | started => exact .inr (loop?_eq_some_iff.mpr ⟨_, hid'⟩)
    | stopped htold => simp [hsignalled] at htold

/-- A loop that waits does so until its tick, and then a cycle begins. -/
theorem act_idle {next : Instant} (hs : s.Sound) (hl : s.loop? id = some (.idle next))
    (hle : s.now ≤ next) (ha : a ≠ .drop id) (hsignalled : s.ticker.signalled = false) :
    (s.act a).loop? id = some (.idle next) ∧ (s.act a).now ≤ next ∨
      ∃ g, (s.act a).loop? id = some (.cycling (next + s.ticker.interval) g) ∧
        s.now = next ∧ (s.act a).now = next ∧
        g.Sound (s.act a).prober (s.act a).handles.length
          (Gathering.limit s.prober (next + s.ticker.budget) next) (s.act a).now := by
  have hwake : s.jobWake (.ticking (.idle next)) = some next := by simp [jobWake, hsignalled]
  have hle' := act_now_le a hl hwake hle
  rcases act_loop hl ha with hsame | ⟨span, task, hid', hmoved⟩
  · exact .inl ⟨hsame, hle'⟩
  · cases hmoved.move with
    | rest => exact .inl ⟨loop?_eq_some_iff.mpr ⟨_, hid'⟩, hle'⟩
    | stopped htold => simp [hsignalled] at htold
    | tick hdue =>
        obtain rfl : s.now = next := Nat.le_antisymm hle hdue
        refine .inr ⟨_, loop?_eq_some_iff.mpr ⟨_, hid'⟩, rfl, hmoved.frame.now, ?_⟩
        exact (Continues.act s a).sound_gathering hmoved.frame.now (.ofEntries hs.registry)

/-- A cycle under way goes on, on time, or is completed. -/
theorem act_cycling {next limit : Instant} {g : Gathering}
    (hl : s.loop? id = some (.cycling next g))
    (hg : g.Sound s.prober s.handles.length limit s.now) (ha : a ≠ .drop id)
    (hsignalled : s.ticker.signalled = false) :
    (∃ g', (s.act a).loop? id = some (.cycling next g') ∧
        g'.Sound (s.act a).prober (s.act a).handles.length limit (s.act a).now) ∨
      (s.act a).loop? id = some (.idle next) ∧ (s.act a).now = s.now := by
  obtain ⟨span, hid⟩ := loop?_eq_some_iff.mp hl
  have hwake : s.jobWake (.ticking (.cycling next g)) = some (g.wake s.now) := by
    simp [jobWake, hsignalled]
  rcases act_loop hl ha with hsame | ⟨span, task, hid', hmoved⟩
  · exact .inl ⟨g, hsame, act_sound_gathering a hid hwake hg⟩
  · have hcontinues := Continues.act s a
    have hnow := hmoved.frame.now
    cases hmoved.move with
    | rest => exact .inl ⟨g, loop?_eq_some_iff.mpr ⟨_, hid'⟩, hcontinues.sound_gathering hnow hg⟩
    | stopped htold => simp [hsignalled] at htold
    | cycleLane hlane =>
        exact .inl ⟨_, loop?_eq_some_iff.mpr ⟨_, hid'⟩,
          hcontinues.sound_gathering hnow (hlane.sound hg)⟩
    | cycle => exact .inr ⟨loop?_eq_some_iff.mpr ⟨_, hid'⟩, hnow⟩

/-! ## The schedule of a loop -/

/-- The most that a cycle takes: no probe gets more than half an interval, nor more
than the ceiling. -/
def cycleBound (s : Service δ Env) : Nat := min (s.ticker.interval / 2) s.prober.ceiling

omit [Dependency δ Env] in
/-- The limit of a cycle is the bound if no half millisecond is lost. -/
theorem limit_cycle (heven : s.ticker.interval % 2 = 0) (time : Instant) :
    Gathering.limit s.prober (time + s.ticker.budget) time = time + s.cycleBound := by
  have hbudget : s.ticker.budget = s.ticker.interval / 2 := by
    grind [Ticker.budget]
  rw [hbudget]
  grind [Gathering.limit, cycleBound]

/-- A loop on schedule that began at `start`, after so many cycles have begun and so
many have been completed. -/
inductive OnTime (start : Instant) (id : Nat) (s : Service δ Env) : Nat → Nat → Prop
  | starting (hl : s.loop? id = some .starting) (hnow : s.now = start) : OnTime start id s 0 0
  | idle {n : Nat} (hl : s.loop? id = some (.idle (start + (n + 1) * s.ticker.interval)))
      (hfrom : start + n * s.ticker.interval ≤ s.now)
      (hto : s.now ≤ start + (n + 1) * s.ticker.interval) : OnTime start id s n n
  | cycling {n : Nat} {g : Gathering}
      (hl : s.loop? id = some (.cycling (start + (n + 2) * s.ticker.interval) g))
      (hfrom : start + (n + 1) * s.ticker.interval ≤ s.now)
      (hg : g.Sound s.prober s.handles.length
        (start + (n + 1) * s.ticker.interval + s.cycleBound) s.now) :
      OnTime start id s (n + 1) n

/-- The moment at which an action begins a cycle of a loop, if it does. -/
def begunBy (id : Nat) (s s' : Service δ Env) : List Instant :=
  match s.loop? id, s'.loop? id with
  | some (.idle _), some (.cycling ..) => [s'.now]
  | _, _ => []

/-- The moment at which an action completes a cycle of a loop, if it does. -/
def completedBy (id : Nat) (s s' : Service δ Env) : List Instant :=
  match s.loop? id, s'.loop? id with
  | some (.cycling ..), some (.idle _) => [s'.now]
  | _, _ => []

/-- **One action.**  A loop on schedule stays so.  The cycle that begins next does so at
its tick, and the one that is completed next is so within the bound. -/
theorem OnTime.act {start : Instant} {begun completed : Nat}
    (h : OnTime start id s begun completed) (hs : s.Sound)
    (heven : s.ticker.interval % 2 = 0) (hinterval : s.ticker.interval ≠ 0)
    (hsignalled : s.ticker.signalled = false) (ha : a ≠ .drop id) :
    (OnTime start id (s.act a) begun completed ∧ begunBy id s (s.act a) = [] ∧
        completedBy id s (s.act a) = []) ∨
      (OnTime start id (s.act a) (begun + 1) completed ∧
        begunBy id s (s.act a) = [start + (begun + 1) * s.ticker.interval] ∧
        completedBy id s (s.act a) = []) ∨
      ∃ time, OnTime start id (s.act a) begun (completed + 1) ∧ begunBy id s (s.act a) = [] ∧
        completedBy id s (s.act a) = [time] ∧
        start + (completed + 1) * s.ticker.interval ≤ time ∧
        time ≤ start + (completed + 1) * s.ticker.interval + s.cycleBound := by
  have hcontinues := Continues.act s a
  have hsame := hcontinues.interval
  have hbound : (s.act a).cycleBound = s.cycleBound := by
    rw [cycleBound, cycleBound, hsame, hcontinues.prober]
  cases h with
  | starting hl hnow =>
      obtain ⟨hnow', hl' | hl'⟩ := act_starting hl ha hsignalled hinterval
      · refine .inl ⟨.starting hl' (hnow'.trans hnow), ?_, ?_⟩ <;>
          simp [begunBy, completedBy, hl, hl']
      · refine .inl ⟨.idle ?_ ?_ ?_, ?_, ?_⟩
        · rw [hl', hnow, hsame, Nat.zero_add, Nat.one_mul]
        · grind
        · grind
        · simp [begunBy, hl]
        · simp [completedBy, hl]
  | @idle n hl hfrom hto =>
      rcases act_idle hs hl hto ha hsignalled with ⟨hl', hto'⟩ | ⟨g, hl', hnow, hnow', hg⟩
      · refine .inl ⟨.idle (hsame ▸ hl') ?_ (hsame ▸ hto'), ?_, ?_⟩
        · rw [hsame]
          exact Nat.le_trans hfrom hcontinues.now_le
        · simp [begunBy, hl, hl']
        · simp [completedBy, hl]
      · rw [limit_cycle heven] at hg
        have hnext : start + (begun + 2) * s.ticker.interval =
            start + (begun + 1) * s.ticker.interval + s.ticker.interval := by
          grind
        refine .inr (.inl ⟨.cycling (g := g) ?_ ?_ ?_, ?_, ?_⟩)
        · rw [hsame, hnext]
          exact hl'
        · exact Nat.le_of_eq (by rw [hsame, hnow'])
        · rw [hsame, hbound]
          exact hg
        · simp [begunBy, hl, hl', hnow']
        · simp [completedBy, hl]
  | @cycling n g hl hfrom hg =>
      rcases act_cycling hl hg ha hsignalled with ⟨g', hl', hg'⟩ | ⟨hl', hnow'⟩
      · refine .inl ⟨.cycling (g := g') (hsame ▸ hl') ?_ ?_, ?_, ?_⟩
        · rw [hsame]
          exact Nat.le_trans hfrom hcontinues.now_le
        · rw [hsame, hbound]
          exact hg'
        · simp [begunBy, hl]
        · simp [completedBy, hl, hl']
      · have hto := hg.now_le
        have hlate : s.cycleBound ≤ s.ticker.interval :=
          Nat.le_trans (Nat.min_le_left _ _) (Nat.div_le_self _ _)
        refine .inr (.inr ⟨s.now, .idle ?_ ?_ ?_, ?_, ?_, hfrom, hto⟩)
        · rw [hsame]
          exact hl'
        · rw [hsame, hnow']
          exact hfrom
        · rw [hsame, hnow']
          grind
        · simp [begunBy, hl]
        · simp [completedBy, hl, hl', hnow']

end HealthWatch.Service
