import HealthWatch.Proofs.ProbeAlone
import HealthWatch.Proofs.ReportCourse
import HealthWatch.Proofs.TimeGoesOn

/-!
# Probes of one report are isolated

The entry of a name in a report is what probing its dependency alone finds
(`report_isolated`).  Nothing else enters into it: not what the other dependencies
answer or whether they answer at all, not the order in which the registry lists its
names, not how the moves of the probes interleave, and not what is registered while
the report is under way.

The invariant is `Comes`: played to its end from where it stands, a probe comes to
the same result as from its beginning.  Its own moves keep it, because a probe on
time makes them at the moments at which it makes them alone (`Probe.finish_resume`).
Whatever else happens keeps it, because it leaves the sight of the dependency.
-/

namespace HealthWatch

namespace Service

variable {δ Env : Type} [Dependency δ Env]

/-- The sight of the dependency behind a handle. -/
def sight (F : Footprint δ Env) (s : Service δ Env) (handle : Nat) : Option F.Sight :=
  s.handles[handle]?.map fun h => F.sight h.dependency s.env

/-- What probing the dependency of an entry finds that is left alone from now on. -/
def aloneResult (s : Service δ Env) (deadline : Instant) (e : String × Nat) :
    Option ProbeResult :=
  s.handles[e.2]?.map fun h =>
    (Probe.start s.prober e.1 e.2 deadline s.now).finish s.prober h s.env

/-- The result of probing alone depends on the sight of the dependency only. -/
theorem aloneResult_congr (F : Footprint δ Env) {s s' : Service δ Env}
    (hprober : s'.prober = s.prober) (hnow : s'.now = s.now) {e e' : String × Nat}
    (hsight : s'.sight F e'.2 = s.sight F e.2) (deadline : Instant) :
    s'.aloneResult deadline e' = s.aloneResult deadline e := by
  unfold sight at hsight
  unfold aloneResult
  cases hh : s.handles[e.2]? with
  | none =>
      rw [hh, Option.map_none, Option.map_eq_none_iff] at hsight
      simp [hsight]
  | some h =>
      rw [hh] at hsight
      obtain ⟨h', hh', hsight'⟩ := Option.map_eq_some_iff.mp hsight
      have halike : (Probe.start s.prober e'.1 e'.2 deadline s.now).Alike
          (.start s.prober e.1 e.2 deadline s.now) := ⟨rfl, rfl, rfl⟩
      rw [hh', hprober, hnow]
      exact congrArg some (Probe.finish_congr F halike hsight')

/-! ## Handles that are distinct and independent -/

/-- Entries whose handles are distinct, of dependencies that are apart. -/
structure Independent (F : Footprint δ Env) (s : Service δ Env)
    (entries : List (String × Nat)) : Prop where
  handle_ne : ∀ e ∈ entries, ∀ e' ∈ entries, e ≠ e' → e.2 ≠ e'.2
  apart : ∀ e ∈ entries, ∀ e' ∈ entries, e ≠ e' → ∀ h h' : Handle δ,
    s.handles[e.2]? = some h → s.handles[e'.2]? = some h' → F.Apart h.dependency h'.dependency

variable {F : Footprint δ Env} {s s' : Service δ Env} {entries : List (String × Nat)}

/-- Dependencies stay apart. -/
theorem Independent.continues (h : Independent F s entries)
    (hhandles : ∀ e ∈ entries, e.2 < s.handles.length) (hcontinues : Continues s s') :
    Independent F s' entries := by
  refine ⟨h.handle_ne, fun e he e' he' hne k k' hk hk' => ?_⟩
  obtain ⟨l, hl, hlater⟩ :=
    hcontinues.handles e.2 _ (List.getElem?_eq_getElem (hhandles e he))
  obtain ⟨l', hl', hlater'⟩ :=
    hcontinues.handles e'.2 _ (List.getElem?_eq_getElem (hhandles e' he'))
  cases hk.symm.trans hl
  cases hk'.symm.trans hl'
  exact F.apart_later (h.apart e he e' he' hne _ _ (List.getElem?_eq_getElem _)
    (List.getElem?_eq_getElem _)) hlater hlater'

/-- A service after a move of one of its probes. -/
structure Resumed (s s' : Service δ Env) (p : Probe) (h : Handle δ) : Prop where
  found : s.handles[p.handle]? = some h
  handles : s'.handles = s.handles.set p.handle (p.resume s.prober s.now h s.env).handle
  env : s'.env = (p.resume s.prober s.now h s.env).env
  prober : s'.prober = s.prober
  now : s'.now = s.now

/-- A move of one probe leaves the sights of the other entries. -/
theorem Resumed.sight_eq {p : Probe} {h : Handle δ} (hresumed : Resumed s s' p h)
    {handle : Nat} (hne : handle ≠ p.handle)
    (hapart : ∀ k, s.handles[handle]? = some k → F.Apart k.dependency h.dependency) :
    s'.sight F handle = s.sight F handle := by
  unfold sight
  rw [hresumed.handles, hresumed.env, List.getElem?_set_ne fun heq => hne heq.symm]
  cases hk : s.handles[handle]? with
  | none => rfl
  | some k => exact congrArg some (p.resume_sight F s.now s.env (hapart k hk))

/-! ## The result that a probe comes to -/

/-- Left alone, a probe under way comes to a result. -/
def Comes (s : Service δ Env) (p : Probe) (result : Option ProbeResult) : Prop :=
  ∃ h, s.handles[p.handle]? = some h ∧ result = some (p.finish s.prober h s.env)

/-- Whatever leaves the sight of its dependency leaves the result of a probe. -/
theorem Comes.of_sight {p : Probe} {result : Option ProbeResult} (hcomes : Comes s p result)
    (hprober : s'.prober = s.prober) (hsight : s'.sight F p.handle = s.sight F p.handle) :
    Comes s' p result := by
  obtain ⟨h, hh, hresult⟩ := hcomes
  unfold sight at hsight
  rw [hh] at hsight
  obtain ⟨h', hh', hsight'⟩ := Option.map_eq_some_iff.mp hsight
  refine ⟨h', hh', ?_⟩
  rw [hresult, hprober]
  exact congrArg some (Probe.finish_congr F ⟨rfl, rfl, rfl⟩ hsight'.symm)

/-- A move of its own leaves the result of a probe that is on time. -/
theorem Comes.resume {p : Probe} {h : Handle δ} {result : Option ProbeResult} {handles : Nat}
    (hcomes : Comes s p result) (hresumed : Resumed s s' p h)
    (hp : p.Sound s.prober handles s.now) (hdue : p.wake ≤ s.now) :
    match (p.resume s.prober s.now h s.env).progress with
    | .going q => Comes s' q result
    | .done finding => result = some ⟨finding, s.now⟩ := by
  obtain ⟨h', hh', rfl⟩ := hcomes
  cases hresumed.found.symm.trans hh'
  have hfinish := Probe.finish_resume h s.env hp hdue
  cases hprogress : (p.resume s.prober s.now h s.env).progress with
  | going q =>
      rw [hprogress] at hfinish
      obtain ⟨stage, _, rfl⟩ := Probe.resume_going hprogress
      refine ⟨(p.resume s.prober s.now h s.env).handle, ?_, ?_⟩
      · rw [hresumed.handles]
        exact List.getElem?_set_self (List.getElem?_eq_some_iff.mp hresumed.found).1
      · rw [hresumed.prober, hresumed.env]
        exact congrArg some hfinish
  | done finding =>
      rw [hprogress] at hfinish
      exact congrArg some hfinish

/-! ## Runs that leave dependencies alone -/

/-- Whether by an action something else than task `id` may call a dependency. -/
def Action.MayCall (id : Nat) : Action δ → Prop
  | .move other _ => other ≠ id
  | .beginConnect _ => True
  | _ => False

/-- What leaves handles and surroundings leaves sights. -/
theorem sight_eq_of_eq {handle : Nat} (hhandles : s'.handles[handle]? = s.handles[handle]?)
    (henv : s'.env = s.env) : s'.sight F handle = s.sight F handle := by
  rw [sight, sight, hhandles, henv]

theorem sight_leave (s : Service δ Env) (ended handle : Nat) :
    (s.modifyHandle ended Handle.leave).sight F handle = s.sight F handle := by
  by_cases heq : ended = handle
  · subst heq
    cases hh : s.handles[ended]? <;> simp [sight, modifyHandle, hh, Handle.leave]
  · exact sight_eq_of_eq (by simp [modifyHandle, heq]) rfl

theorem sight_abandonProbe (s : Service δ Env) (p : Probe) (handle : Nat) :
    (s.abandonProbe p).sight F handle = s.sight F handle := by
  unfold abandonProbe
  split
  · exact s.sight_leave _ _
  · rfl

theorem sight_abandonLanes (s : Service δ Env) (g : Gathering) (handle : Nat) :
    (s.abandonLanes g).sight F handle = s.sight F handle := by
  obtain ⟨lanes⟩ := g
  unfold abandonLanes
  induction lanes generalizing s with
  | nil => rfl
  | cons lane lanes ih =>
      rw [List.foldl_cons, ih]
      cases lane with
      | running p => exact s.sight_abandonProbe p handle
      | finished name result => rfl

/-- Giving up calls changes no sight. -/
theorem sight_abandonJob (s : Service δ Env) (job : Job) (handle : Nat) :
    (s.abandonJob job).sight F handle = s.sight F handle := by
  unfold abandonJob
  split
  · exact s.sight_abandonProbe _ _
  · exact s.sight_abandonLanes _ _
  · exact s.sight_leave _ _
  · split
    · exact s.sight_leave _ _
    · rfl
  · exact s.sight_abandonLanes _ _
  · rfl

/-- What calls nothing changes no sight of a dependency that is there. -/
theorem sight_act {id handle : Nat} {a : Action δ} (hhandle : handle < s.handles.length)
    (hmove : ∀ part, a ≠ .move id part) (hcalls : ¬ a.MayCall id) :
    (s.act a).sight F handle = s.sight F handle := by
  cases a with
  | register name dependency =>
      exact sight_eq_of_eq (List.getElem?_append_left hhandle) rfl
  | beginProbe name deadline =>
      simp only [act, beginProbe]
      split <;> rfl
  | beginReport deadline => rfl
  | beginCycle => rfl
  | beginRequest => rfl
  | beginConnect name => exact absurd trivial hcalls
  | beginClosing order =>
      simp only [act, beginClosing]
      split
      · rfl
      · split <;> rfl
  | beginTicker => rfl
  | signal => rfl
  | move other part =>
      by_cases hother : other = id
      · exact absurd (hother ▸ rfl) (hmove part)
      · exact absurd hother hcalls
  | drop other =>
      simp only [act, drop]
      split
      · next span job hid => exact s.sight_abandonJob job handle
      · rfl
  | pass time =>
      simp only [act, pass]
      split <;> rfl

/-- A run in which task `id` is not dropped, and in which whatever else calls
dependencies leaves the sights of `entries`. -/
def Quiet (F : Footprint δ Env) (id : Nat) (entries : List (String × Nat)) :
    Service δ Env → List (Action δ) → Prop
  | _, [] => True
  | s, a :: rest =>
    (a ≠ .drop id ∧ (a.MayCall id → ∀ e ∈ entries, (s.act a).sight F e.2 = s.sight F e.2)) ∧
      Quiet F id entries (s.act a) rest

/-- Moves of the task itself, registrations, new tasks other than connects, and the
passing of time are quiet. -/
theorem Quiet.of_calm {id : Nat} {actions : List (Action δ)}
    (h : ∀ a ∈ actions, a ≠ .drop id ∧ ¬ a.MayCall id) : Quiet F id entries s actions := by
  induction actions generalizing s with
  | nil => trivial
  | cons a actions ih =>
      obtain ⟨⟨hdrop, hcalls⟩, hrest⟩ := List.forall_mem_cons.mp h
      exact ⟨⟨hdrop, fun hcall => absurd hcall hcalls⟩, ih hrest⟩

/-! ## The lanes of a report -/

/-- A lane about an entry is on its way to what probing alone finds, or has found it. -/
def LaneComes (s : Service δ Env) (alone : String × Nat → Option ProbeResult)
    (e : String × Nat) : Lane → Prop
  | .running p => p.name = e.1 ∧ p.handle = e.2 ∧ s.Comes p (alone e)
  | .finished name result => name = e.1 ∧ alone e = some result ∧ result.checkedAt ≤ s.now

variable {alone : String × Nat → Option ProbeResult} {id : Nat} {span : Option Span}
  {purpose : Purpose} {g : Gathering}

/-- Whatever leaves the sight of its dependency leaves a lane on its way. -/
theorem LaneComes.of_sight {e : String × Nat} {lane : Lane} (hlane : s.LaneComes alone e lane)
    (hprober : s'.prober = s.prober) (hnow : s.now ≤ s'.now)
    (hsight : s'.sight F e.2 = s.sight F e.2) : s'.LaneComes alone e lane := by
  cases lane with
  | running p =>
      obtain ⟨hname, hhandle, hcomes⟩ := hlane
      exact ⟨hname, hhandle, hcomes.of_sight hprober (hhandle ▸ hsight)⟩
  | finished name result =>
      obtain ⟨hname, hresult, hle⟩ := hlane
      exact ⟨hname, hresult, Nat.le_trans hle hnow⟩

/-- The move of a probe resumes it. -/
theorem moveProbe_resumed {p : Probe} {h : Handle δ} (hh : s.handles[p.handle]? = some h) :
    Resumed s (s.moveProbe span p).1 p h := by
  obtain ⟨_, hhandles, henv⟩ := moveProbe_spec span hh
  have hframe := (s.moveProbe_frame span p).1
  exact ⟨hh, hhandles, henv, hframe.prober, hframe.now⟩

/-- A lane that moves stays on its way, and so do the others: their dependencies are
apart from the one that was called. -/
theorem lanesCome_moveLane {limit : Instant} (hg : g.Sound s.prober s.handles.length limit s.now)
    (hindependent : Independent F s entries) (hnodup : entries.Nodup)
    (hlanes : List.Forall₂ (s.LaneComes alone) entries g.lanes) (n : Nat) :
    List.Forall₂ ((s.moveLane span g n).1.LaneComes alone) entries
      (s.moveLane span g n).2.lanes := by
  rcases s.moveLane_cases span g n with hrest | ⟨p, h, hlane, hdue, hh, hservice, hmoved⟩
  · rw [hrest]
    exact hlanes
  · have hresumed : Resumed s (s.moveProbe span p).1 p h := moveProbe_resumed hh
    have hp := (hg.lane p (List.mem_of_getElem? hlane)).1
    rw [hservice, hmoved]
    refine forall₂_set hlanes hlane (fun e he hcomes => ?_)
      fun e he hcomes k e' lane hk he' hcomes' => ?_
    · obtain ⟨hname, hhandle, hcomes⟩ := hcomes
      have hnext := hcomes.resume hresumed hp hdue
      cases hprogress : (p.resume s.prober s.now h s.env).progress with
      | going q =>
          rw [hprogress] at hnext
          obtain ⟨stage, _, rfl⟩ := Probe.resume_going hprogress
          exact ⟨hname, hhandle, hnext⟩
      | done finding =>
          rw [hprogress] at hnext
          exact ⟨hname, hnext, Nat.le_of_eq hresumed.now.symm⟩
    · have hlt := (List.getElem?_eq_some_iff.mp he').1
      have hne : e' ≠ e := by
        rintro rfl
        exact hk ((List.getElem?_inj hlt hnodup).mp (he'.trans he.symm))
      have hmem := List.mem_of_getElem? he
      have hmem' := List.mem_of_getElem? he'
      obtain ⟨_, hhandle, _⟩ := hcomes
      have hsight : (s.moveProbe span p).1.sight F e'.2 = s.sight F e'.2 := by
        refine hresumed.sight_eq ?_ fun k hk => ?_
        · rw [hhandle]
          exact hindependent.handle_ne e' hmem' e hmem hne
        · exact hindependent.apart e' hmem' e hmem hne k h hk (hhandle ▸ hh)
      exact hcomes'.of_sight hresumed.prober (Nat.le_of_eq hresumed.now.symm) hsight

/-- **One action.**  A report whose lanes are on their way keeps them so, whatever
happens that is quiet, until it ends with what they have found. -/
theorem act_lanesCome {a : Action δ} (hs : s.Sound)
    (hid : s.tasks[id]? = some (.running span (.reporting purpose g)))
    (hlanes : List.Forall₂ (s.LaneComes alone) entries g.lanes)
    (hindependent : Independent F s entries) (hnodup : entries.Nodup)
    (hhandles : ∀ e ∈ entries, e.2 < s.handles.length) (ha : a ≠ .drop id)
    (hquiet : a.MayCall id → ∀ e ∈ entries, (s.act a).sight F e.2 = s.sight F e.2) :
    (∃ g', (s.act a).tasks[id]? = some (.running span (.reporting purpose g')) ∧
        List.Forall₂ ((s.act a).LaneComes alone) entries g'.lanes) ∨
      ∃ results, g.results? = some results ∧ (s.act a).tasks[id]? =
        some (.ended s.now (purpose.outcome ⟨.ofList results, s.uptime, s.now⟩)) := by
  have hlt := (List.getElem?_eq_some_iff.mp hid).1
  by_cases hmove : ∃ part, a = .move id part
  · obtain ⟨part, rfl⟩ := hmove
    have hact : s.act (.move id part) = s.moveJob id span (.reporting purpose g) part := by
      simp only [act, move, hid]
    cases part with
    | lane n =>
        have hmoved := Moved.lane s id span purpose g n
        rw [← hact] at hmoved
        obtain ⟨limit, hg⟩ := hs.jobs id span _ hid
        refine .inl ⟨_, by rw [hmoved.tasks, List.getElem?_set_self hlt], ?_⟩
        rw [hact]
        exact lanesCome_moveLane hg hindependent hnodup hlanes n
    | whole =>
        cases hresults : g.results? with
        | some results =>
            have hmoved : Moved s _ id span (.reporting purpose g) _ := .report hresults
            rw [← hact] at hmoved
            exact .inr ⟨results, rfl, by rw [hmoved.tasks, List.getElem?_set_self hlt]⟩
        | none =>
            have hsame : s.act (.move id .whole) = s := by simp only [hact, moveJob, hresults]
            rw [hsame]
            exact .inl ⟨g, hid, hlanes⟩
    | signal =>
        rw [hact]
        exact .inl ⟨g, hid, hlanes⟩
  · have hsame : (s.act a).tasks[id]? = some (.running span (.reporting purpose g)) := by
      rcases act_getElem? hid a with hsame | ⟨part, _, _, _, rfl, _⟩ | ⟨rfl, _⟩
      · exact hsame
      · exact absurd ⟨part, rfl⟩ hmove
      · exact absurd rfl ha
    have hcontinues := Continues.act s a
    refine .inl ⟨g, hsame, ?_⟩
    have hsight : ∀ e ∈ entries, (s.act a).sight F e.2 = s.sight F e.2 := by
      intro e he
      by_cases hcalls : a.MayCall id
      · exact hquiet hcalls e he
      · exact sight_act (hhandles e he) (fun part ha => hmove ⟨part, ha⟩) hcalls
    refine ((List.forall₂_and_left (p := (· ∈ entries)) _ _).mpr ⟨fun _ he => he, hlanes⟩).imp
      fun e lane h => ?_
    obtain ⟨he, hcomes⟩ := h
    exact hcomes.of_sight hcontinues.prober hcontinues.now_le (hsight e he)

end Service

end HealthWatch
