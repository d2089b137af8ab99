import HealthWatch.Proofs.TimeGoesOn
import HealthWatch.Proofs.WholeMoves

/-!
# The calls on a handle

A handle counts the calls that are under way on it and the times that it was closed.
This file reads both off the tasks.  `Task.callsOn` is how many calls of a task are
under way on a handle, and `closeCalls` lists the closes that a move of a task begins.

`Balance` is the step: what a handle counts changes by the calls that end, begin and are
closes (`act_balance`).  The invariant that follows is that a handle counts the calls of
the tasks and no others (`Accounted.run`), so a task that is over has left nothing under
way.
-/

namespace HealthWatch

/-- How many calls of a lane are under way on a handle. -/
def Lane.callsOn (k : Nat) : Lane → Nat
  | .running p => if p.isCalling = true ∧ p.handle = k then 1 else 0
  | .finished .. => 0

/-- How many calls of a report are under way on a handle. -/
def Gathering.callsOn (k : Nat) (g : Gathering) : Nat := Service.total (Lane.callsOn k) g.lanes

/-- How many calls of a job are under way on a handle. -/
def Job.callsOn (k : Nat) : Job → Nat
  | .probing p => Lane.callsOn k (.running p)
  | .reporting _ g => g.callsOn k
  | .connecting handle _ => if handle = k then 1 else 0
  | .closing c =>
    match c.current with
    | some (_, handle, _) => if handle = k then 1 else 0
    | none => 0
  | .ticking (.cycling _ g) => g.callsOn k
  | .ticking _ => 0

/-- How many calls of a task are under way on a handle. -/
def Task.callsOn (k : Nat) : Task → Nat
  | .running _ job => job.callsOn k
  | _ => 0

namespace Probe

variable {δ Env : Type} [Dependency δ Env]

/-- A probe that rests begins a call, which is no close. -/
theorem resume_begins {p : Probe} (hrests : p.isCalling = false) (prober : Prober)
    (now : Instant) (h : Handle δ) (env : Env) :
    (p.resume prober now h env).handle.tally.inFlight = h.tally.inFlight + 1 ∧
      (p.resume prober now h env).handle.tally.closes = h.tally.closes ∧
      ∃ q, (p.resume prober now h env).progress = .going q ∧ q.handle = p.handle ∧
        q.isCalling = true := by
  unfold resume
  split
  · unfold begin
    split <;> exact ⟨rfl, rfl, _, rfl, rfl, rfl⟩
  · next hstage => simp [isCalling, hstage] at hrests
  · next hstage => simp [isCalling, hstage] at hrests

/-- The call of a probe ends, and none is under way then. -/
theorem resume_ends {p : Probe} (hcalling : p.isCalling = true) (prober : Prober)
    (now : Instant) (h : Handle δ) (env : Env) :
    (p.resume prober now h env).handle = h.leave ∧
      ∀ q, (p.resume prober now h env).progress = .going q → q.isCalling = false := by
  unfold resume
  split
  · next hstage => simp [isCalling, hstage] at hcalling
  · refine ⟨rfl, fun q hq => ?_⟩
    simp only [diagnosed] at hq
    split at hq <;> cases hq
  · refine ⟨rfl, fun q hq => ?_⟩
    simp only [checked] at hq
    split at hq
    · cases hq
    · split at hq <;> cases hq
      rfl

end Probe

namespace Service

/-- The close that a task begins where it changed: a name, a handle and the call. -/
def closeCalls : Task → Task → List (String × Nat × Call Unit)
  | .running _ (.closing c), .running _ (.closing c') =>
    match c.current, c'.current with
    | none, some x => [x]
    | _, _ => []
  | _, _ => []

theorem closeCalls_ofMoves : OfMoves closeCalls where
  same task := by
    unfold closeCalls
    split
    · split <;> simp_all
    · rfl
  dropped task := by
    unfold closeCalls
    split <;> simp_all

/-! ## Sums -/

section Sums

variable {α : Type} {f : α → Nat} {l : List α} {n : Nat} {a : α}

theorem total_cons (f : α → Nat) (x : α) (l : List α) :
    total f (x :: l) = f x + total f l := rfl

theorem total_append (f : α → Nat) (l l' : List α) :
    total f (l ++ l') = total f l + total f l' := by
  induction l with
  | nil => exact (Nat.zero_add _).symm
  | cons x l ih => rw [List.cons_append, total_cons, total_cons, ih, Nat.add_assoc]

theorem total_eq_zero (h : ∀ a ∈ l, f a = 0) : total f l = 0 := by
  induction l with
  | nil => rfl
  | cons x l ih =>
      obtain ⟨hx, hl⟩ := List.forall_mem_cons.mp h
      rw [total_cons, ih hl, hx]

theorem le_total (hn : l[n]? = some a) : f a ≤ total f l := by
  induction l generalizing n with
  | nil => cases hn
  | cons x l ih =>
      cases n with
      | zero =>
          obtain rfl : x = a := Option.some.inj hn
          exact Nat.le_add_right _ _
      | succ n => exact Nat.le_trans (ih hn) (Nat.le_add_left _ _)

/-- A sum changes with one of its terms. -/
theorem total_set (hn : l[n]? = some a) (b : α) : total f (l.set n b) + f a = total f l + f b := by
  induction l generalizing n with
  | nil => cases hn
  | cons x l ih =>
      cases n with
      | zero =>
          obtain rfl : x = a := Option.some.inj hn
          rw [List.set_cons_zero, total_cons, total_cons]
          omega
      | succ n =>
          have hrest := ih hn
          rw [List.set_cons_succ, total_cons, total_cons]
          omega

end Sums

/-! ## What a handle counts -/

variable {δ Env : Type}

/-- What a handle counts, if there is one. -/
def tallyOf (s : Service δ Env) (k : Nat) : Tally := (s.handles[k]?).elim .zero (·.tally)

/-- Between two states some calls on a handle ended, some began and some of these were
closes. -/
structure Balance (k : Nat) (s s' : Service δ Env) (ended begun closed : Nat) : Prop where
  inFlight : ended ≤ (s.tallyOf k).inFlight →
    (s'.tallyOf k).inFlight + ended = (s.tallyOf k).inFlight + begun
  closes : (s'.tallyOf k).closes = (s.tallyOf k).closes + closed

namespace Balance

variable {k : Nat} {s s' : Service δ Env}

/-- Calls that go on. -/
theorem of_handles (h : s'.handles = s.handles) (n : Nat) : Balance k s s' n n 0 := by
  have htally : s'.tallyOf k = s.tallyOf k := by rw [tallyOf, tallyOf, h]
  exact ⟨fun _ => by rw [htally], by rw [htally, Nat.add_zero]⟩

theorem trans {s₁ s₂ s₃ : Service δ Env} {a b c m n : Nat} (h₁ : Balance k s₁ s₂ a b m)
    (h₂ : Balance k s₂ s₃ b c n) : Balance k s₁ s₃ a c (m + n) where
  inFlight hle := by
    have hfirst := h₁.inFlight hle
    have hsecond := h₂.inFlight (by omega)
    omega
  closes := by rw [h₂.closes, h₁.closes, Nat.add_assoc]

/-- Other calls on the same handle go on. -/
theorem within {a b c ended begun : Nat} (h : Balance k s s' a b c)
    (htotal : begun + a = ended + b) (hle : a ≤ ended) : Balance k s s' ended begun c where
  inFlight hended := by
    have hpart := h.inFlight (Nat.le_trans hle hended)
    omega
  closes := h.closes

/-- Calls on one handle. -/
theorem of_set {handle : Nat} {h h' : Handle δ} (ended begun closed : Nat)
    (hh : s.handles[handle]? = some h) (hset : s'.handles = s.handles.set handle h')
    (hinFlight : ended ≤ h.tally.inFlight →
      h'.tally.inFlight + ended = h.tally.inFlight + begun)
    (hcloses : h'.tally.closes = h.tally.closes + closed) :
    Balance k s s' (if handle = k then ended else 0) (if handle = k then begun else 0)
      (if handle = k then closed else 0) := by
  obtain ⟨hlt, _⟩ := List.getElem?_eq_some_iff.mp hh
  by_cases heq : handle = k
  · subst heq
    have hbefore : s.tallyOf handle = h.tally := by simp [tallyOf, hh]
    have hafter : s'.tallyOf handle = h'.tally := by simp [tallyOf, hset, hlt]
    simp only [if_true]
    rw [← hbefore, ← hafter] at hinFlight hcloses
    exact ⟨hinFlight, hcloses⟩
  · have hsame : s'.tallyOf k = s.tallyOf k := by simp [tallyOf, hset, heq]
    simp only [if_neg heq]
    exact ⟨fun _ => by rw [hsame], by rw [hsame, Nat.add_zero]⟩

/-- The end of a call. -/
theorem leave (k : Nat) (s : Service δ Env) (handle : Nat) :
    Balance k s (s.modifyHandle handle Handle.leave) (if handle = k then 1 else 0) 0 0 := by
  cases hh : s.handles[handle]? with
  | some h =>
      have hset : (s.modifyHandle handle Handle.leave).handles =
          s.handles.set handle h.leave := by
        obtain ⟨hlt, hget⟩ := List.getElem?_eq_some_iff.mp hh
        rw [modifyHandle, List.modify_eq_set_getElem?, hh]
        rfl
      simpa using of_set (k := k) 1 0 0 hh hset (fun hle => Nat.sub_add_cancel hle) rfl
  | none =>
      have hsame : (s.modifyHandle handle Handle.leave).handles = s.handles := by
        rw [modifyHandle, List.modify_eq_set_getElem?, hh]
        rfl
      have hzero : s.tallyOf handle = .zero := by simp [tallyOf, hh]
      have hrest := of_handles (k := k) hsame 0
      refine ⟨fun hle => ?_, hrest.closes⟩
      by_cases heq : handle = k
      · rw [if_pos heq, ← heq, hzero] at hle
        cases hle
      · rw [if_neg heq]
        exact hrest.inFlight (Nat.zero_le _)

end Balance

/-! ## Moves -/

variable [Dependency δ Env] {s : Service δ Env} {span : Option Span}

/-- A move of a probe begins a call, or ends the one that is under way. -/
theorem moveProbe_balance (k : Nat) (s : Service δ Env) (span : Option Span) (p : Probe) :
    Balance k s (s.moveProbe span p).1 (Lane.callsOn k (.running p))
      (Lane.callsOn k (laneAfter p s.now (s.moveProbe span p).2)) 0 := by
  cases hh : s.handles[p.handle]? with
  | none =>
      have hrest : s.moveProbe span p = (s, .going p) := by simp [moveProbe, hh]
      rw [hrest]
      exact .of_handles rfl _
  | some h =>
      obtain ⟨hprogress, hhandles, _⟩ := moveProbe_spec span hh
      rw [hprogress]
      cases hcalling : p.isCalling with
      | false =>
          obtain ⟨hinFlight, hcloses, q, hgoing, hhandle, hcalling'⟩ :=
            Probe.resume_begins hcalling s.prober s.now h s.env
          have hone := Balance.of_set (k := k) 0 1 0 hh
            hhandles (fun _ => hinFlight) hcloses
          simpa [hgoing, laneAfter, Lane.callsOn, hcalling, hcalling', hhandle] using hone
      | true =>
          obtain ⟨hleave, hrests⟩ := Probe.resume_ends hcalling s.prober s.now h s.env
          rw [hleave] at hhandles
          have hone := Balance.of_set (k := k) 1 0 0 hh
            hhandles (fun hle => Nat.sub_add_cancel hle) rfl
          have hafter : Lane.callsOn k (laneAfter p s.now
              (p.resume s.prober s.now h s.env).progress) = 0 := by
            cases hgoing : (p.resume s.prober s.now h s.env).progress with
            | going q => simp [laneAfter, Lane.callsOn, hrests q hgoing]
            | done finding => rfl
          rw [hafter]
          simpa [Lane.callsOn, hcalling] using hone

/-- The move of a lane is that of its probe; the other lanes go on. -/
theorem moveLane_balance (k : Nat) (s : Service δ Env) (span : Option Span) (g : Gathering)
    (n : Nat) :
    Balance k s (s.moveLane span g n).1 (g.callsOn k) ((s.moveLane span g n).2.callsOn k) 0 := by
  by_cases hmoves : ∃ p, g.lanes[n]? = some (.running p) ∧ p.wake ≤ s.now
  · obtain ⟨p, hlane, hdue⟩ := hmoves
    obtain ⟨hservice, hlanes⟩ := moveLane_due span hlane hdue
    rw [hservice, hlanes]
    exact (moveProbe_balance k s span p).within (total_set hlane _) (le_total hlane)
  · rw [moveLane_rest span hmoves]
    exact .of_handles rfl _

omit [Dependency δ Env] in
/-- The calls of a probe that is given up end. -/
theorem abandonProbe_balance (k : Nat) (s : Service δ Env) (p : Probe) :
    Balance k s (s.abandonProbe p) (Lane.callsOn k (.running p)) 0 0 := by
  cases hcalling : p.isCalling with
  | true => simpa [abandonProbe, Lane.callsOn, hcalling] using Balance.leave k s p.handle
  | false =>
      simpa [abandonProbe, Lane.callsOn, hcalling] using Balance.of_handles (s := s) rfl 0

omit [Dependency δ Env] in
/-- The calls of a report that is given up end. -/
theorem abandonLanes_balance (k : Nat) (s : Service δ Env) (g : Gathering) :
    Balance k s (s.abandonLanes g) (g.callsOn k) 0 0 := by
  obtain ⟨lanes⟩ := g
  unfold abandonLanes Gathering.callsOn
  induction lanes generalizing s with
  | nil => exact .of_handles rfl 0
  | cons lane lanes ih =>
      rw [List.foldl_cons, total_cons]
      cases lane with
      | running p =>
          have hfirst : Balance k s (s.abandonProbe p)
              (Lane.callsOn k (.running p) + total (Lane.callsOn k) lanes)
              (total (Lane.callsOn k) lanes) 0 :=
            (abandonProbe_balance k s p).within (by omega) (Nat.le_add_right _ _)
          exact hfirst.trans (ih (s.abandonProbe p))
      | finished name result =>
          rw [show Lane.callsOn k (.finished name result) = 0 from rfl, Nat.zero_add]
          exact ih s

omit [Dependency δ Env] in
/-- The calls of a job that is given up end. -/
theorem abandonJob_balance (k : Nat) (s : Service δ Env) (job : Job) :
    Balance k s (s.abandonJob job) (job.callsOn k) 0 0 := by
  cases job with
  | probing p => exact abandonProbe_balance k s p
  | reporting purpose g => exact abandonLanes_balance k s g
  | connecting handle call => exact .leave k s handle
  | closing c =>
      obtain ⟨remaining, current, failures⟩ := c
      cases current with
      | none => exact .of_handles rfl 0
      | some x => exact .leave k s x.2.1
  | ticking l =>
      cases l with
      | starting => exact .of_handles rfl 0
      | idle next => exact .of_handles rfl 0
      | cycling next g => exact abandonLanes_balance k s g

/-- A report that begins has no call under way. -/
theorem callsOn_start (k : Nat) (prober : Prober) (registry : Registry)
    (deadline now : Instant) : (Gathering.start prober registry deadline now).callsOn k = 0 := by
  refine total_eq_zero fun lane hlane => ?_
  obtain ⟨e, _, rfl⟩ := List.mem_map.mp hlane
  simp [Lane.callsOn, Probe.start, Probe.isCalling]

/-- A report with its results has no call under way. -/
theorem callsOn_results (k : Nat) {g : Gathering} {results : List (String × ProbeResult)}
    (hresults : g.results? = some results) : g.callsOn k = 0 := by
  refine total_eq_zero fun lane hlane => ?_
  rw [Gathering.results?_eq_some_iff.mp hresults] at hlane
  obtain ⟨x, _, rfl⟩ := List.mem_map.mp hlane
  rfl

/-- **One move.**  What a handle counts changes by the calls of the task that moves. -/
theorem Does.balance (k : Nat) {job : Job} {task : Task} {s' : Service δ Env}
    (hdoes : Does s span job task s') :
    Balance k s s' (job.callsOn k) (task.callsOn k)
      ((closeCalls (.running span job) task).countP (·.2.1 = k)) := by
  cases hdoes with
  | rest =>
      rw [closeCalls_ofMoves.same]
      exact .of_handles rfl _
  | probe p =>
      have hprobe := moveProbe_balance k s span p
      cases hprogress : (s.moveProbe span p).2 <;> rw [hprogress] at hprobe <;> exact hprobe
  | lane purpose g n => exact moveLane_balance k s span g n
  | report purpose hresults =>
      rw [Job.callsOn, callsOn_results k hresults]
      cases purpose <;> exact .of_handles (by rfl) 0
  | connect handle => exact .leave k s handle
  | @closed c name handle call ends hcurrent =>
      have hleave := Balance.leave k s handle
      simp only [Job.callsOn, hcurrent, closeCalls, Task.callsOn]
      exact ⟨hleave.inFlight, hleave.closes⟩
  | @closeNext c name handle rest h hcurrent hremaining hhandle =>
      have hclose : Balance k s { s with
          env := (h.close s.now s.env).2.2
          handles := s.handles.set handle (h.close s.now s.env).2.1 } _ _ _ :=
        .of_set 0 1 1 hhandle rfl (fun _ => rfl) rfl
      simpa [Job.callsOn, Task.callsOn, closeCalls, hcurrent, List.countP_cons] using hclose
  | allClosed hcurrent =>
      simp only [Job.callsOn, hcurrent]
      exact .of_handles (by rfl) 0
  | stopped => exact ⟨(abandonJob_balance k s _).inFlight, (abandonJob_balance k s _).closes⟩
  | tick =>
      simp only [Task.callsOn, Job.callsOn, callsOn_start]
      exact .of_handles (by rfl) 0
  | cycleLane next g n => exact moveLane_balance k s span g n
  | cycle next hresults =>
      rw [Job.callsOn, callsOn_results k hresults]
      exact .of_handles (by rfl) 0
  | noInterval => exact .of_handles (by rfl) 0
  | started => exact .of_handles (by rfl) 0
  | unstarted => exact .of_handles (by rfl) 0

/-! ## Runs -/

/-- How many calls of all tasks are under way on a handle. -/
def callsOn (k : Nat) (s : Service δ Env) : Nat := total (Task.callsOn k) s.tasks

omit [Dependency δ Env] in
/-- A task that begins without a call. -/
theorem begun_balance {s s' : Service δ Env} {task : Task} (k : Nat)
    (hhandles : s'.handles = s.handles) (htasks : s'.tasks = s.tasks ++ [task])
    (htask : task.callsOn k = 0) : Balance k s s' (s.callsOn k) (s'.callsOn k) 0 := by
  have hsame : s'.callsOn k = s.callsOn k := by
    rw [callsOn, htasks, total_append, total_cons, htask]
    rfl
  rw [hsame]
  exact .of_handles hhandles _

omit [Dependency δ Env] in
/-- Nothing happens to the calls. -/
theorem same_balance {s s' : Service δ Env} (k : Nat) (hhandles : s'.handles = s.handles)
    (htasks : s'.tasks = s.tasks) : Balance k s s' (s.callsOn k) (s'.callsOn k) 0 := by
  rw [callsOn, callsOn, htasks]
  exact .of_handles hhandles _

/-- A connect that begins. -/
theorem beginConnect_balance (k : Nat) (s : Service δ Env) (name : String) :
    Balance k s (s.beginConnect name) (s.callsOn k) ((s.beginConnect name).callsOn k) 0 := by
  simp only [beginConnect]
  split
  · exact .of_handles rfl _
  · next handle hname =>
    split
    · exact .of_handles rfl _
    · next h hh =>
      have hone : Balance k s { s with
          env := (h.connect s.now s.env).2.2
          handles := s.handles.set handle (h.connect s.now s.env).2.1 } _ _ _ :=
        .of_set 0 1 0 hh rfl (fun _ => rfl) rfl
      simp only [ite_self] at hone
      have hcalls : Balance k s _ (s.callsOn k) (s.callsOn k + if handle = k then 1 else 0) 0 :=
        hone.within (Nat.add_zero _) (Nat.zero_le _)
      simp only [callsOn, spawn, total_append, total_cons, Task.callsOn, Job.callsOn]
      exact ⟨hcalls.inFlight, hcalls.closes⟩

omit [Dependency δ Env] in
/-- A handle that is new has no calls. -/
theorem register_balance (k : Nat) (s : Service δ Env) (name : String) (dependency : δ) :
    Balance k s (s.register name dependency).2 (s.callsOn k) (s.callsOn k) 0 := by
  have hsame : (s.register name dependency).2.tallyOf k = s.tallyOf k := by
    have hhandles : (s.register name dependency).2.handles =
        s.handles ++ [Handle.new dependency] := rfl
    rw [tallyOf, tallyOf, hhandles]
    rcases Nat.lt_or_ge k s.handles.length with hlt | hge
    · rw [List.getElem?_append_left hlt]
    · rw [List.getElem?_append_right hge, List.getElem?_eq_none hge]
      cases k - s.handles.length <;> rfl
  exact ⟨fun _ => by rw [hsame], by rw [hsame, Nat.add_zero]⟩

/-- **One action.**  What a handle counts changes by the calls of the tasks. -/
theorem act_balance (k : Nat) (s : Service δ Env) (a : Action δ) :
    Balance k s (s.act a) (s.callsOn k) ((s.act a).callsOn k)
      ((changes closeCalls s.tasks (s.act a).tasks).countP (·.2.1 = k)) := by
  rcases s.act_cases a with hrest | ⟨id, span, job, task, s', hid, hdoes, heq⟩ | ha
  · rw [hrest, changes_self closeCalls_ofMoves.same]
    exact same_balance k rfl rfl
  · have hafter : (s'.setTask id task).callsOn k = total (Task.callsOn k) (s.tasks.set id task) := by
      rw [callsOn, setTask, hdoes.tasks_eq]
    rw [heq, closeCalls_ofMoves.does hid hdoes, hafter]
    have hpart := (hdoes.balance k).within (total_set (f := Task.callsOn k) hid task)
      (le_total (f := Task.callsOn k) hid)
    exact ⟨hpart.inFlight, hpart.closes⟩
  · rw [closeCalls_ofMoves.act ha, List.countP_nil]
    cases a with
    | register name dependency => exact register_balance k s name dependency
    | beginProbe name deadline =>
        simp only [act, beginProbe]
        split
        · exact begun_balance k rfl rfl rfl
        · exact same_balance k rfl rfl
    | beginReport deadline => exact begun_balance k rfl rfl (callsOn_start k _ _ _ _)
    | beginCycle => exact begun_balance k rfl rfl (callsOn_start k _ _ _ _)
    | beginRequest => exact begun_balance k rfl rfl (callsOn_start k _ _ _ _)
    | beginConnect name => exact beginConnect_balance k s name
    | beginClosing order =>
        simp only [act, beginClosing]
        split
        · exact begun_balance k rfl rfl rfl
        · split
          · exact begun_balance k rfl rfl rfl
          · exact same_balance k rfl rfl
    | beginTicker => exact begun_balance k rfl rfl rfl
    | signal => exact same_balance k rfl rfl
    | move id part => exact absurd rfl (ha id part)
    | drop id =>
        simp only [act, drop]
        split
        · next span job hid =>
          have hafter : ((s.abandonJob job).setTask id .dropped).callsOn k =
              total (Task.callsOn k) (s.tasks.set id .dropped) := by
            rw [callsOn, setTask, (s.abandonJob_frame job).2.1]
          have hpart := (abandonJob_balance k s job).within
            (total_set (f := Task.callsOn k) hid .dropped) (le_total (f := Task.callsOn k) hid)
          rw [hafter]
          exact ⟨hpart.inFlight, hpart.closes⟩
        · exact same_balance k rfl rfl
    | pass time =>
        simp only [act, pass]
        split <;> exact same_balance k rfl rfl

/-- Every handle counts the calls that the tasks have under way on it. -/
def Accounted (s : Service δ Env) : Prop := ∀ k, (s.tallyOf k).inFlight = s.callsOn k

omit [Dependency δ Env] in
theorem Accounted.new (env : Env) (prober : Prober) (interval upBefore : Nat)
    (metrics : Option Metrics) :
    Accounted (Service.new env prober interval upBefore metrics : Service δ Env) :=
  fun _ => rfl

/-- **All calls are accounted for** after whatever happens. -/
theorem Accounted.run {s : Service δ Env} (h : s.Accounted) (actions : List (Action δ)) :
    (s.run actions).Accounted := by
  induction actions generalizing s with
  | nil => exact h
  | cons a actions ih =>
      refine ih (s := s.act a) fun k => ?_
      have hstep := (act_balance k s a).inFlight (Nat.le_of_eq (h k).symm)
      rw [h k] at hstep
      omega

/-- **All closes are accounted for**: a handle counts those that tasks begin on it. -/
theorem run_closes (k : Nat) (s : Service δ Env) (actions : List (Action δ)) :
    ((s.run actions).tallyOf k).closes =
      (s.tallyOf k).closes +
        (observed (fun _ => closeCalls) s actions).countP (·.2.1 = k) := by
  induction actions generalizing s with
  | nil => rfl
  | cons a actions ih =>
      have hrun : s.run (a :: actions) = (s.act a).run actions := rfl
      rw [hrun, ih, (act_balance k s a).closes, observed, List.countP_append, Nat.add_assoc]

end Service

end HealthWatch
