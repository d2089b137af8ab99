import HealthWatch.Proofs.WholeMoves

/-!
# Dependencies that refuse every call

A dependency that refuses answers every call at once with that it is closed, and nothing changes
by a call (`Refuses`); so it refuses for good.  A service all of whose dependencies refuse is
`Shut`.  It stays so as long as nothing is registered, and what its dependencies share stays as
it is, for nobody is asked (`Shut.run`).
-/

namespace HealthWatch

open Dependency (Later)

variable {δ Env : Type} [Dependency δ Env]

/-- A dependency that answers every call at once, and with that it is closed unless it is asked
to close.  Nothing changes by a call. -/
structure Dependency.Refuses (d : δ) : Prop where
  check : ∀ now (env : Env), Dependency.check now d env = (.after 0 (.error .closed), d, env)
  details : ∀ now (env : Env), Dependency.details now d env = (.after 0 (.error .closed), d, env)
  connect : ∀ now (env : Env), Dependency.connect now d env = (.after 0 (.error .closed), d, env)
  close : ∀ now (env : Env), Dependency.close now d env = (.after 0 (.ok ()), d, env)

open Dependency (Refuses)

/-- Calls change nothing about a dependency that refuses. -/
theorem Dependency.Refuses.later_eq {d d' : δ} (h : Refuses d) (hlater : Later d d') : d' = d := by
  induction hlater with
  | refl => rfl
  | check now env _ ih => rw [ih, h.check]
  | details now env _ ih => rw [ih, h.details]
  | close now env _ ih => rw [ih, h.close]
  | connect now env _ ih => rw [ih, h.connect]

/-! ## Probes that are refused -/

namespace Probe

/-- The stages of a probe that is refused at `time`: its first attempt is to begin, or has been
answered. -/
inductive Stage.Refused (time : Instant) : Stage → Prop
  | due : Refused time (.due 1 time)
  | diagnosing : Refused time (.diagnosing time (.error .closed))
  | checking : Refused time (.checking 1 time (.error .closed))

theorem Stage.Refused.wake_eq {p : Probe} {time : Instant} (h : p.stage.Refused time) :
    p.wake = time := by
  unfold wake
  cases hstage : p.stage with
  | due attempt begins => rw [hstage] at h; cases h; rfl
  | diagnosing ends outcome => rw [hstage] at h; cases h; rfl
  | checking attempt ends outcome => rw [hstage] at h; cases h; rfl

variable {h : Handle δ}

/-- A move of a probe of a dependency that refuses changes nothing that dependencies share. -/
theorem resume_env_eq (hrefuses : Refuses h.dependency) (prober : Prober) (p : Probe)
    (now : Instant) (env : Env) : (p.resume prober now h env).env = env := by
  unfold resume
  split
  · unfold Probe.begin
    split
    · simp only [Handle.details, hrefuses.details]
    · simp only [Handle.check, hrefuses.check]
  · rfl
  · rfl

/-- A probe that is refused makes its call and is answered at once, and with the answer it ends:
no other attempt follows. -/
theorem resume_refused (hrefuses : Refuses h.dependency) (prober : Prober) {p : Probe}
    {now : Instant} (hstage : p.stage.Refused now) (env : Env) :
    (p.isCalling = false ∧ ∃ q, (p.resume prober now h env).progress = .going q ∧
        q.name = p.name ∧ q.handle = p.handle ∧ q.isCalling = true ∧ q.stage.Refused now) ∨
      (p.isCalling = true ∧ ∃ latency, (p.resume prober now h env).progress =
        .done (.unhealthy DependencyError.closed.text latency)) := by
  cases hbefore : p.stage with
  | due attempt time =>
      rw [hbefore] at hstage
      cases hstage
      refine .inl ⟨by simp only [isCalling, hbefore], ?_⟩
      simp only [resume, hbefore, Probe.begin]
      split
      · refine ⟨_, rfl, rfl, rfl, rfl, ?_⟩
        simp only [Handle.details, hrefuses.details, Reply.within, true_or, if_true]
        exact .diagnosing
      · refine ⟨_, rfl, rfl, rfl, rfl, ?_⟩
        simp only [Handle.check, hrefuses.check, Reply.within, true_or, if_true]
        exact .checking
  | diagnosing ends outcome =>
      rw [hbefore] at hstage
      cases hstage
      refine .inr ⟨by simp only [isCalling, hbefore], ?_⟩
      simp only [resume, hbefore]
      exact ⟨_, rfl⟩
  | checking attempt ends outcome =>
      rw [hbefore] at hstage
      cases hstage
      refine .inr ⟨by simp only [isCalling, hbefore], ?_⟩
      simp only [resume, hbefore]
      exact ⟨_, rfl⟩

end Probe

namespace Service

variable {s s' : Service δ Env} {id : Nat} {span : Option Span}

/-! ## Services that are shut -/

/-- A service all of whose dependencies refuse. -/
def Shut (s : Service δ Env) : Prop := ∀ h ∈ s.handles, Refuses h.dependency

/-- An action that registers nothing. -/
def Action.RegistersNothing (a : Action δ) : Prop :=
  ∀ name dependency, a ≠ .register name dependency

/-- Without a registration the registry holds what it held. -/
theorem run_all {actions : List (Action δ)} (hactions : ∀ a ∈ actions, a.RegistersNothing) :
    (s.run actions).registry.all = s.registry.all :=
  run_keeps (P := fun t => t.registry.all = s.registry.all)
    (fun t a h ha => ((t.act_keeps a).names ha).trans h) rfl hactions

theorem Shut.resume_env (h : s.Shut) {p : Probe} {handle : Handle δ}
    (hhandle : s.handles[p.handle]? = some handle) :
    (p.resume s.prober s.now handle s.env).env = s.env :=
  p.resume_env_eq (h handle (List.mem_of_getElem? hhandle)) s.prober s.now s.env

theorem Shut.moveProbe_env (h : s.Shut) (span : Option Span) (p : Probe) :
    (s.moveProbe span p).1.env = s.env := by
  cases hhandle : s.handles[p.handle]? with
  | none => simp only [moveProbe, hhandle]
  | some handle => rw [(moveProbe_spec span hhandle).2.2, h.resume_env hhandle]

theorem Shut.moveLane_env (h : s.Shut) (span : Option Span) (g : Gathering) (n : Nat) :
    (s.moveLane span g n).1.env = s.env := by
  rcases s.moveLane_cases span g n with hrest | ⟨p, _, _, _, _, hservice, _⟩
  · rw [hrest]
  · rw [hservice, h.moveProbe_env]

/-- A move asks nobody. -/
theorem Shut.does_env (h : s.Shut) {job : Job} {task : Task} (hdoes : Does s span job task s') :
    s'.env = s.env := by
  cases hdoes with
  | probe p => exact h.moveProbe_env span p
  | lane purpose g n => exact h.moveLane_env span g n
  | report purpose => cases purpose <;> rfl
  | @closeNext _ name handle rest held hcurrent hremaining hhandle =>
      have hrefuses := h held (List.mem_of_getElem? hhandle)
      simp only [Handle.close, hrefuses.close]
  | @stopped l =>
      rw [s.abandonJob_eq]
      rfl
  | cycleLane next g n => exact h.moveLane_env span g n
  | _ => rfl

/-- **One action** asks nobody, unless it registers. -/
theorem Shut.act_env (h : s.Shut) {a : Action δ} (ha : a.RegistersNothing) :
    (s.act a).env = s.env := by
  rcases s.act_cases a with hrest | ⟨id, span, job, task, s', _, hdoes, hmoved⟩ | hno
  · rw [hrest]
  · have henv : s'.env = s.env := h.does_env hdoes
    rw [hmoved]
    exact henv
  · cases a with
    | register name dependency => exact absurd rfl (ha name dependency)
    | beginProbe name deadline =>
        simp only [act, beginProbe]
        split <;> rfl
    | beginConnect name =>
        simp only [act, beginConnect]
        split
        · rfl
        · split
          · rfl
          · next held hheld =>
            have hrefuses := h held (List.mem_of_getElem? hheld)
            simp only [spawn, Handle.connect, hrefuses.connect]
    | beginClosing order =>
        simp only [act, beginClosing]
        split
        · rfl
        · split <;> rfl
    | move id part => exact absurd rfl (hno id part)
    | drop id =>
        simp only [act, drop]
        split
        · next span job hid =>
          rw [s.abandonJob_eq]
          rfl
        · rfl
    | pass time =>
        simp only [act, pass]
        split <;> rfl
    | _ => rfl

theorem Shut.act (h : s.Shut) {a : Action δ} (ha : a.RegistersNothing) : (s.act a).Shut := by
  intro later hlater
  obtain ⟨k, hk⟩ := List.getElem?_of_mem hlater
  have hlt : k < s.handles.length := by
    rw [← (s.act_keeps a).handles_length ha]
    exact (List.getElem?_eq_some_iff.mp hk).1
  obtain ⟨later', hk', hcalls⟩ := (Continues.act s a).handles k _ (List.getElem?_eq_getElem hlt)
  cases hk.symm.trans hk'
  have hrefuses := h _ (List.getElem_mem hlt)
  rw [hrefuses.later_eq hcalls]
  exact hrefuses

/-- **A service that is shut** stays so, and asks nobody, as long as nothing is registered. -/
theorem Shut.run (h : s.Shut) {actions : List (Action δ)}
    (hactions : ∀ a ∈ actions, a.RegistersNothing) :
    (s.run actions).Shut ∧ (s.run actions).env = s.env :=
  run_keeps (P := fun t => t.Shut ∧ t.env = s.env)
    (fun _ _ ht ha => ⟨ht.1.act ha, (ht.1.act_env ha).trans ht.2⟩) ⟨h, rfl⟩ hactions

end Service

end HealthWatch
