import HealthWatch.Proofs.StartupLanes
import HealthWatch.Proofs.TimeGoesOn

/-!
# The course of a startup

All lanes of a startup go on beside each other, each on its own course (`Underway`): a step
moves a lane whose time has come, and leaves the others where they are (`Underway.step`).
With every step there is less to do, so a startup goes on until nothing is left to do but to
wait for answers that never come (`run_next`).

`attempts` lists the attempts of a whole startup as its steps begin them, each with the name
of its dependency.
-/

namespace HealthWatch.Startup

/-- The attempts of one dependency. -/
def ofName (name : String) (trace : List (String × Attempt)) : List Attempt :=
  trace.filterMap fun x => if x.1 = name then some x.2 else none

theorem ofName_append (name : String) (trace more : List (String × Attempt)) :
    ofName name (trace ++ more) = ofName name trace ++ ofName name more :=
  List.filterMap_append

/-- Attempts of a dependency are its own. -/
theorem ofName_map (name other : String) (attempts : List Attempt) :
    ofName name (attempts.map (other, ·)) = if other = name then attempts else [] := by
  induction attempts with
  | nil => simp [ofName]
  | cons a attempts ih =>
      simp only [ofName] at ih ⊢
      by_cases h : other = name <;> simp_all

variable {δ Env : Type}

/-! ## Steps -/

/-- The next lane to move is one whose time has come first. -/
theorem next_spec {s : Startup δ Env} {time : Instant} {i : Nat} (h : s.next = some (time, i)) :
    ∃ l, s.lanes[i]? = some l ∧ l.wake = some time ∧
      ∀ l' ∈ s.lanes, ∀ w, l'.wake = some w → time ≤ w := by
  unfold next at h
  split at h
  · cases h
  · next least hleast =>
    obtain ⟨j, hj, heq⟩ := Option.map_eq_some_iff.mp h
    cases heq
    obtain ⟨hlt, hwake, _⟩ := List.findIdx?_eq_some_iff_getElem.mp hj
    refine ⟨s.lanes[i], List.getElem?_eq_getElem hlt, by simpa using hwake, ?_⟩
    intro l' hl' w hw
    exact (List.min?_eq_some_iff.mp hleast).2 w (List.mem_filterMap.mpr ⟨l', hl', hw⟩)

/-- If no lane is to move, all have settled or wait for an answer that never comes. -/
theorem next_none {s : Startup δ Env} (h : s.next = none) : ∀ l ∈ s.lanes, l.wake = none := by
  intro l hl
  cases hwake : l.wake with
  | none => rfl
  | some w =>
      have hmem : w ∈ s.lanes.filterMap Lane.wake := List.mem_filterMap.mpr ⟨l, hl, hwake⟩
      obtain ⟨least, hleast⟩ := Option.isSome_iff_exists.mp (List.isSome_min?_of_mem hmem)
      obtain ⟨l', hl', hw'⟩ := List.mem_filterMap.mp (List.min?_eq_some_iff.mp hleast).1
      simp only [next, hleast, Option.map_eq_none_iff] at h
      have hnot := List.findIdx?_eq_none_iff.mp h l' hl'
      simp [hw'] at hnot

variable [Dependency δ Env]

/-- The attempt that the next step begins, if it begins one. -/
def attempt? (s : Startup δ Env) : Option (String × Attempt) :=
  match s.next with
  | none => none
  | some (time, i) =>
    match s.lanes[i]? with
    | none => none
    | some l => (l.attempt? (max s.now time) s.env).map (l.name, ·)

/-- The attempts that at most so many steps begin. -/
def attemptsFor : (fuel : Nat) → Startup δ Env → List (String × Attempt)
  | 0, _ => []
  | fuel + 1, s => if s.next.isNone then [] else s.attempt?.toList ++ attemptsFor fuel s.step

/-- The attempts of a whole startup. -/
def attempts (s : Startup δ Env) : List (String × Attempt) := attemptsFor s.movesLeft s

/-- A startup whose lanes began at `start` and are on their courses after these attempts.
Unless one of them goes on, its time is that of the latest end. -/
structure Underway (start : Instant) (s : Startup δ Env) (trace : List (String × Attempt)) :
    Prop where
  names : (s.lanes.map Lane.name).Nodup
  course : ∀ l ∈ s.lanes, l.Course start s.now (ofName l.name trace)
  calls : ∀ l ∈ s.lanes, l.handle.tally.checks = (ofName l.name trace).length
  known : ∀ x ∈ trace, x.1 ∈ s.lanes.map Lane.name
  idle : s.lanes = [] → s.now = start
  latest : s.lanes ≠ [] → ∃ l ∈ s.lanes,
    l.isSettled = true → lastEnd (ofName l.name trace) = some s.now

variable {start : Instant} {s : Startup δ Env} {trace : List (String × Attempt)}

omit [Dependency δ Env] in
/-- Lanes that have distinct names are in distinct places. -/
theorem Underway.name_ne (h : Underway start s trace) {i j : Nat} {l l' : Lane δ}
    (hi : s.lanes[i]? = some l) (hj : s.lanes[j]? = some l') (hij : i ≠ j) :
    l.name ≠ l'.name := by
  intro heq
  have hlt : i < (s.lanes.map Lane.name).length := by
    rw [List.length_map]
    exact (List.getElem?_eq_some_iff.mp hi).1
  refine hij ((List.getElem?_inj hlt h.names).mp ?_)
  rw [List.getElem?_map, List.getElem?_map, hi, hj, Option.map_some, Option.map_some, heq]

/-- A step moves one lane whose time has come. -/
theorem step_eq {time : Instant} {i : Nat} {l : Lane δ} (hnext : s.next = some (time, i))
    (hi : s.lanes[i]? = some l) (hle : s.now ≤ time) :
    s.step.now = time ∧ s.step.lanes = s.lanes.set i (l.move time s.env).1 ∧
      s.attempt? = (l.attempt? time s.env).map (l.name, ·) := by
  simp only [step, attempt?, hnext, hi, Nat.max_eq_right hle, and_self]

/-- A step changes nothing of the lanes that a move leaves alone. -/
theorem step_map {α : Type} (f : Lane δ → α)
    (hf : ∀ (l : Lane δ) time env, f (l.move time env).1 = f l) :
    s.step.lanes.map f = s.lanes.map f := by
  unfold step
  split
  · rfl
  · split
    · rfl
    · next l hl =>
      obtain ⟨hlt, hget⟩ := List.getElem?_eq_some_iff.mp hl
      rw [List.map_set, hf, ← hget, List.map_set.symm, List.set_getElem_self]

/-- **One step** of a startup moves one lane along its course, and no time is lost for the
others. -/
theorem Underway.step {time : Instant} {i : Nat} (h : Underway start s trace)
    (hnext : s.next = some (time, i)) :
    Underway start s.step (trace ++ s.attempt?.toList) := by
  obtain ⟨l, hi, hwake, hleast⟩ := next_spec hnext
  have hl := List.mem_of_getElem? hi
  have hle : s.now ≤ time := (h.course l hl).le_wake hwake
  obtain ⟨hnow, hlanes, hattempt⟩ := step_eq hnext hi hle
  obtain ⟨hname, hpolicy, hcalls⟩ := l.move_spec time s.env
  have hnew : ∀ name, ofName name (trace ++ s.attempt?.toList) =
      ofName name trace ++ if l.name = name then (l.attempt? time s.env).toList else [] := by
    intro name
    rw [ofName_append, hattempt, ← ofName_map, Option.toList_map]
  have hmoved : ofName (l.move time s.env).1.name (trace ++ s.attempt?.toList) =
      ofName l.name trace ++ (l.attempt? time s.env).toList := by
    rw [hname, hnew, if_pos rfl]
  have hnames : s.step.lanes.map Lane.name = s.lanes.map Lane.name :=
    step_map Lane.name fun l time env => (l.move_spec time env).1
  -- A lane after the step is the one that moved, or was there before under another name.
  have hcases : ∀ l' ∈ s.step.lanes, l' = (l.move time s.env).1 ∨ l' ∈ s.lanes ∧
      ofName l'.name (trace ++ s.attempt?.toList) = ofName l'.name trace := by
    intro l' hl'
    rw [hlanes] at hl'
    obtain ⟨j, hj⟩ := List.getElem?_of_mem hl'
    by_cases hij : i = j
    · subst hij
      rw [List.getElem?_set_self (List.getElem?_eq_some_iff.mp hi).1] at hj
      exact .inl (Option.some.inj hj).symm
    · rw [List.getElem?_set_ne hij] at hj
      refine .inr ⟨List.mem_of_getElem? hj, ?_⟩
      rw [hnew, if_neg (h.name_ne hi hj hij), List.append_nil]
  have hmem : (l.move time s.env).1 ∈ s.step.lanes := by
    rw [hlanes]
    exact List.mem_of_getElem? (List.getElem?_set_self (List.getElem?_eq_some_iff.mp hi).1)
  constructor
  case names => rw [hnames]; exact h.names
  case course =>
    intro l' hl'
    rw [hnow]
    rcases hcases l' hl' with rfl | ⟨hold, hsame⟩
    · rw [hmoved]
      exact (h.course l hl).move hwake s.env
    · rw [hsame]
      exact (h.course l' hold).wait hle (hleast l' hold)
  case calls =>
    intro l' hl'
    rcases hcases l' hl' with rfl | ⟨hold, hsame⟩
    · rw [hmoved, List.length_append, hcalls, h.calls l hl]
    · rw [hsame]
      exact h.calls l' hold
  case known =>
    intro x hx
    rw [hnames]
    rcases List.mem_append.mp hx with hx | hx
    · exact h.known x hx
    · rw [hattempt] at hx
      obtain ⟨a, _, rfl⟩ := Option.map_eq_some_iff.mp (Option.mem_toList.mp hx)
      exact List.mem_map.mpr ⟨l, hl, rfl⟩
  case idle =>
    intro hnone
    rw [hnone] at hmem
    cases hmem
  case latest =>
    intro _
    refine ⟨_, hmem, fun hsettled => ?_⟩
    rw [hmoved, hnow]
    exact (h.course l hl).move_ends hwake s.env hsettled

/-! ## Runs -/

/-- With every step there is less to do. -/
theorem movesLeft_step_lt {next : Instant × Nat} (hnext : s.next = some next) :
    s.step.movesLeft < s.movesLeft := by
  obtain ⟨time, i⟩ := next
  obtain ⟨l, hi, hwake, _⟩ := next_spec hnext
  have hlanes : s.step.lanes = s.lanes.set i (l.move (max s.now time) s.env).1 := by
    simp only [step, hnext, hi]
  rw [movesLeft, hlanes]
  exact Service.total_set_lt Lane.movesLeft hi (Lane.movesLeft_move_lt hwake _ _)

/-- With enough steps a startup goes on until no lane is to move. -/
theorem runFor_next {fuel : Nat} (hfuel : s.movesLeft ≤ fuel) : (runFor fuel s).next = none := by
  induction fuel generalizing s with
  | zero =>
      cases hnext : s.next with
      | none => exact hnext
      | some next => exact absurd (movesLeft_step_lt hnext) (by omega)
  | succ fuel ih =>
      cases hnext : s.next with
      | none => simp [runFor, hnext]
      | some next =>
          have hless := movesLeft_step_lt hnext
          have hrest := ih (s := s.step) (by omega)
          simpa [runFor, hnext] using hrest

/-- **A startup goes on** until no lane is to move. -/
theorem run_next (s : Startup δ Env) : s.run.next = none := runFor_next (Nat.le_refl _)

/-- Steps change nothing of the lanes that a move leaves alone. -/
theorem runFor_map {α : Type} (f : Lane δ → α)
    (hf : ∀ (l : Lane δ) time env, f (l.move time env).1 = f l) (fuel : Nat) (s : Startup δ Env) :
    (runFor fuel s).lanes.map f = s.lanes.map f := by
  induction fuel generalizing s with
  | zero => rfl
  | succ fuel ih =>
      unfold runFor
      split
      · rfl
      · rw [ih, step_map f hf]

/-- A run changes nothing of the lanes that a move leaves alone. -/
theorem run_map {α : Type} (f : Lane δ → α)
    (hf : ∀ (l : Lane δ) time env, f (l.move time env).1 = f l) (s : Startup δ Env) :
    s.run.lanes.map f = s.lanes.map f := runFor_map f hf s.movesLeft s

/-- Any number of steps takes all lanes along their courses. -/
theorem Underway.runFor (h : Underway start s trace) (fuel : Nat) :
    Underway start (runFor fuel s) (trace ++ attemptsFor fuel s) := by
  induction fuel generalizing s trace with
  | zero => simpa [Startup.runFor, attemptsFor] using h
  | succ fuel ih =>
      cases hnext : s.next with
      | none => simpa [Startup.runFor, attemptsFor, hnext] using h
      | some next =>
          have hrest := ih (h.step hnext)
          simpa [Startup.runFor, attemptsFor, hnext] using hrest

/-- **A whole run** of a startup takes all lanes along their courses. -/
theorem Underway.run (h : Underway start s trace) :
    Underway start s.run (trace ++ s.attempts) := h.runFor s.movesLeft

end HealthWatch.Startup
