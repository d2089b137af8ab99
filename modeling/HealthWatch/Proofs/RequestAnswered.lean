import HealthWatch.Http.Handler
import HealthWatch.Proofs.ReportBody
import HealthWatch.Proofs.ReportCourse
import HealthWatch.Proofs.TimeGoesOn

/-!
# Every request is answered in time

A request for the health report that is not dropped is answered no later than the
ceiling after it came, whatever the dependencies do and whatever else is under way,
and the answer is a report with one consistent entry for each name that was
registered when the request came (`request_answered`).

Two invariants carry the proof through a run.  `Gathering.Sound` bounds the clock
by the limit of the report as long as it is under way.  `Lane.Fits` says what a lane
is about: its name and handle, and whether diagnostics are asked for.  Since no call
changes whether a dependency has diagnostics, a finding has a latency exactly if
the dependency had them when the request came.
-/

namespace HealthWatch

/-- A finding that is in order, for a dependency with diagnostics or without. -/
structure Finding.Consistent (detailed : Bool) (f : Finding) : Prop where
  error_iff : f.error?.isSome = true ↔ f.isHealthy = false
  uptime_eq_none : f.isHealthy = false → f.uptime? = none
  plain : detailed = false → f.uptime? = none ∧ f.latency? = none
  diagnosed : detailed = true →
    f.latency?.isSome = true ∧ (f.uptime?.isSome = true ↔ f.isHealthy = true)

/-- What a probe is doing fits whether its dependency has diagnostics. -/
def Probe.Stage.Fits (detailed : Bool) : Probe.Stage → Prop
  | .due .. => True
  | .diagnosing .. => detailed = true
  | .checking .. => detailed = false

theorem Probe.Stage.Next.fits {prober : Prober} {deadline now : Instant} {detailed : Bool}
    {a b : Probe.Stage} (h : Next prober deadline now detailed a b) : b.Fits detailed := by
  cases h with
  | diagnose hdetailed => exact hdetailed
  | check hplain => exact hplain
  | retry => trivial

/-- A probe that does what fits ends with a consistent finding. -/
theorem Probe.Stage.Ends.consistent {detailed : Bool} {a : Probe.Stage} {f : Finding}
    (h : Ends a f) (hfits : a.Fits detailed) : f.Consistent detailed := by
  cases h <;> cases hfits <;> constructor <;>
    simp [Finding.error?, Finding.isHealthy, Finding.uptime?, Finding.latency?]

/-- A lane is about an entry of a registry: its name and handle are those, and what
it does or found fits whether the dependency has diagnostics. -/
def Lane.Fits (detailed : Nat → Bool) (e : String × Nat) : Lane → Prop
  | .running p => p.name = e.1 ∧ p.handle = e.2 ∧ p.stage.Fits (detailed e.2)
  | .finished name result => name = e.1 ∧ result.finding.Consistent (detailed e.2)

/-- The lanes of a report that begins fit what it is about. -/
theorem Gathering.start_fits (detailed : Nat → Bool) (prober : Prober) (registry : Registry)
    (deadline now : Instant) :
    List.Forall₂ (Lane.Fits detailed) registry.all
      (Gathering.start prober registry deadline now).lanes := by
  rw [Gathering.start, List.forall₂_map_right_iff, List.forall₂_same]
  exact fun e _ => ⟨rfl, rfl, trivial⟩

namespace Report

/-- A report is degraded exactly if one of its entries is unhealthy. -/
theorem status_eq_degraded_iff (r : Report) :
    r.status = .degraded ↔ ∃ e ∈ r.dependencies.entries, e.2.finding.isHealthy = false := by
  have hiff : r.status = .degraded ↔
      r.dependencies.values.all (·.finding.isHealthy) = false := by
    unfold status
    cases r.dependencies.values.all (·.finding.isHealthy) <;> simp
  rw [hiff, NameMap.values, List.all_map, List.all_eq_false]
  simp

/-- A report is ok exactly if all its entries are counted as healthy. -/
theorem status_eq_ok_iff (r : Report) : r.status = .ok ↔ r.healthyCount = r.total := by
  have hlength : r.total = r.dependencies.values.length := by
    simp [total, NameMap.size, NameMap.values]
  rw [hlength, healthyCount, List.length_filter_eq_length_iff]
  simp [status]

end Report

namespace Service

variable {δ Env : Type} [Dependency δ Env]

/-- Whether the dependency behind a handle has diagnostics. -/
def detailed (s : Service δ Env) (handle : Nat) : Bool :=
  s.handles[handle]?.any fun h => Dependency.hasDetails h.dependency

/-- Whether there are diagnostics is settled for as long as the service runs. -/
theorem Continues.detailed_eq {s s' : Service δ Env} (h : Continues s s') {handle : Nat}
    (hhandle : handle < s.handles.length) : s'.detailed handle = s.detailed handle := by
  obtain ⟨h', hh', hlater⟩ := h.handles handle _ (List.getElem?_eq_getElem hhandle)
  simp [detailed, hh', List.getElem?_eq_getElem hhandle, hlater.hasDetails_eq]

/-- A report that is in order as one on the registry of `s`. -/
structure Covers (s : Service δ Env) (r : Report) : Prop where
  names_eq : r.dependencies.names = s.registry.names
  degraded_iff : r.status = .degraded ↔
    ∃ e ∈ r.dependencies.entries, e.2.finding.isHealthy = false
  ok_iff : r.status = .ok ↔ r.healthyCount = r.total
  ok_of_empty : s.registry.names = [] → r.status = .ok
  description_eq : r.description = r.status.description
  consistent : ∀ e ∈ r.dependencies.entries, ∃ handle,
    s.registry.get? e.1 = some handle ∧ e.2.finding.Consistent (s.detailed handle)

/-- Results that fit the entries of a registry make a report on it. -/
theorem covers_of_fits {s : Service δ Env} {results : List (String × ProbeResult)}
    (hfits : List.Forall₂ (Lane.Fits s.detailed) s.registry.all
      (results.map fun x => .finished x.1 x.2)) (uptime : Duration) (now : Instant) :
    s.Covers ⟨.ofList results, uptime, now⟩ := by
  rw [List.forall₂_map_right_iff] at hfits
  have hnames : results.map Prod.fst = s.registry.names :=
    names_of_forall₂ (hfits.imp fun e x hx => hx.1)
  have hentries := NameMap.entries_ofList_of_names hnames
  have hnames' : (NameMap.ofList results).names = s.registry.names := by
    rw [NameMap.names, hentries]
    exact hnames
  refine ⟨hnames', Report.status_eq_degraded_iff _, Report.status_eq_ok_iff _, ?_, rfl, ?_⟩
  · intro hempty
    have hnone : results = [] := List.map_eq_nil_iff.mp (hnames.trans hempty)
    subst hnone
    rfl
  · intro x hx
    rw [hentries] at hx
    obtain ⟨e, he, hname, hconsistent⟩ := exists_of_forall₂ hfits hx
    exact ⟨e.2, NameMap.get?_eq_some_iff.mpr (hname ▸ he), hconsistent⟩

/-! ## The invariant of a request -/

/-- A move of a lane leaves lanes that fit what they are about. -/
theorem LaneMove.fits {s : Service δ Env} {detailed : Nat → Bool} {entries : List (String × Nat)}
    {g g' : Gathering} (hmove : LaneMove s g g')
    (hdetailed : ∀ e ∈ entries, s.detailed e.2 = detailed e.2)
    (hfits : List.Forall₂ (Lane.Fits detailed) entries g.lanes) :
    List.Forall₂ (Lane.Fits detailed) entries g'.lanes := by
  cases hmove with
  | rest => exact hfits
  | @move n p h hlane hdue hhandle =>
      refine forall₂_set hfits hlane (fun e he hp => ?_) fun _ _ _ _ _ _ _ _ hc => hc
      obtain ⟨hname, hp2, hstage⟩ := hp
      have hhas : Dependency.hasDetails h.dependency = detailed e.2 := by
        rw [← hdetailed e (List.mem_of_getElem? he), ← hp2]
        simp [Service.detailed, hhandle]
      cases hprogress : (p.resume s.prober s.now h s.env).progress with
      | going q =>
          obtain ⟨stage, hnext, rfl⟩ := Probe.resume_going hprogress
          exact ⟨hname, hp2, hhas ▸ hnext.fits⟩
      | done finding => exact ⟨hname, (Probe.resume_done hprogress).consistent hstage⟩

/-- Where the request that came to `s₀` as task `id` stands in a later service:
under way and on time, or answered in time with a report on the registry of `s₀`. -/
inductive Answering (s₀ : Service δ Env) (id : Nat) (s : Service δ Env) : Prop
  | pending {span : Option Span} {g : Gathering}
      (hid : s.tasks[id]? = some (.running span (.reporting .request g)))
      (hsound : g.Sound s.prober s.handles.length (s₀.now + s₀.prober.ceiling) s.now)
      (hfits : List.Forall₂ (Lane.Fits s₀.detailed) s₀.registry.all g.lanes)
  | answered {time : Instant} {r : Report}
      (hid : s.tasks[id]? = some (.ended time (.served r))) (hfrom : s₀.now ≤ time)
      (hto : time ≤ s₀.now + s₀.prober.ceiling) (hcovers : s₀.Covers r)

variable {s₀ s : Service δ Env} {id : Nat}

/-- A request that comes is under way. -/
theorem Answering.begin (hs : s.Sound) : Answering s s.tasks.length (s.act .beginRequest) := by
  have hid : (s.act .beginRequest).tasks[s.tasks.length]? = some (.running (some .request)
      (.reporting .request
        (.start s.prober s.registry (s.now + s.prober.ceiling) s.now))) := by
    simp [Service.act, beginRequest, spawn, tell]
  have hlimit : Gathering.limit s.prober (s.now + s.prober.ceiling) s.now =
      s.now + s.prober.ceiling := by
    grind [Gathering.limit]
  have hsound : Gathering.Sound s.prober s.handles.length
      (Gathering.limit s.prober (s.now + s.prober.ceiling) s.now) s.now
      (.start s.prober s.registry (s.now + s.prober.ceiling) s.now) := .ofEntries hs.registry
  rw [hlimit] at hsound
  exact .pending hid hsound (Gathering.start_fits _ _ _ _ _)

/-- Whatever happens, a request that is not dropped stays on time and gets its
answer in time. -/
theorem Answering.act (h : Answering s₀ id s) (hs₀ : s₀.Sound) (hcontinues : Continues s₀ s)
    {a : Action δ} (ha : a ≠ .drop id) : Answering s₀ id (s.act a) := by
  cases h with
  | pending hid hsound hfits =>
      rcases act_reporting hid hsound ha with ⟨g', hid', hlane, hsound'⟩ | ⟨results, hresults, hid'⟩
      · refine .pending hid' hsound' (hlane.fits (fun e he => ?_) hfits)
        exact hcontinues.detailed_eq (hs₀.registry e he)
      · rw [Gathering.results?_eq_some_iff.mp hresults] at hfits
        exact .answered hid' hcontinues.now_le hsound.now_le (covers_of_fits hfits _ _)
  | answered hid hfrom hto hcovers =>
      rcases act_getElem? hid a with hsame | ⟨part, span, job, task, _, htask, _⟩ | hdrop
      · exact .answered hsame hfrom hto hcovers
      · cases htask
      · exact absurd hdrop.1 ha

theorem Answering.run (h : Answering s₀ id s) (hs₀ : s₀.Sound) (hcontinues : Continues s₀ s)
    {actions : List (Action δ)} (hkept : .drop id ∉ actions) :
    Answering s₀ id (s.run actions) := by
  induction actions generalizing s with
  | nil => exact h
  | cons a actions ih =>
      exact ih (h.act hs₀ hcontinues (List.ne_of_not_mem_cons hkept).symm)
        (hcontinues.trans (.act s a)) (List.not_mem_of_not_mem_cons hkept)

/-- Past the limit a request has been answered. -/
theorem Answering.exists_answer (h : Answering s₀ id s)
    (hlate : s₀.now + s₀.prober.ceiling < s.now) :
    ∃ time r, s.outcome? id = some (time, .served r) := by
  cases h with
  | pending hid hsound => exact absurd hsound.now_le (Nat.not_le_of_lt hlate)
  | @answered time r hid => exact ⟨time, r, by simp only [outcome?, hid]⟩

/-- An answer comes in time, and is a report on the registry. -/
theorem Answering.of_outcome (h : Answering s₀ id s) {time : Instant} {outcome : Outcome}
    (houtcome : s.outcome? id = some (time, outcome)) :
    s₀.now ≤ time ∧ time ≤ s₀.now + s₀.prober.ceiling ∧
      ∃ r, outcome = .served r ∧ s₀.Covers r := by
  cases h with
  | pending hid =>
      simp only [outcome?, hid] at houtcome
      cases houtcome
  | answered hid hfrom hto hcovers =>
      simp only [outcome?, hid] at houtcome
      cases houtcome
      exact ⟨hfrom, hto, _, rfl, hcovers⟩

/-- **Every request is answered in time.**  Let a request for the health report come
to a reachable service, and let anything happen after it but the dropping of the
request.  Whatever it ends with is a report on the registry as it was, served with
200 no later than the ceiling after the request came, and the body of the answer is
read as just this report; once the clock is past that, it has ended; and until then
the service comes to its end by itself. -/
theorem request_answered (hs : s.Reachable) (request : Http.Request)
    (hpath : request.path = Http.healthPath) (hmethod : request.method = "GET")
    (after : List (Action δ)) (hkept : .drop s.tasks.length ∉ after)
    (stamp : Instant → String) :
    Http.routeHealth request = .report ∧
      (∀ time outcome,
        ((s.act .beginRequest).run after).outcome? s.tasks.length = some (time, outcome) →
          s.now ≤ time ∧ time ≤ s.now + s.prober.ceiling ∧
            ∃ r, outcome = .served r ∧ s.Covers r ∧
              (Http.healthResponse stamp r).status = 200 ∧
              (Http.healthResponse stamp r).headers.lookup "content-type" =
                some "application/json" ∧
              Digest.ofBody? (Http.healthResponse stamp r).body = some (r.digest stamp)) ∧
      (s.now + s.prober.ceiling < ((s.act .beginRequest).run after).now →
        ∃ time r,
          ((s.act .beginRequest).run after).outcome? s.tasks.length = some (time, .served r)) ∧
      ∃ more : List (Action δ), (∀ a ∈ more, a.IsOwn) ∧
        ∃ time r, (((s.act .beginRequest).run after).run more).outcome? s.tasks.length =
          some (time, .served r) := by
  have hbegun := Answering.begin hs.sound
  have hcontinues := Continues.act s .beginRequest
  have hanswering := hbegun.run hs.sound hcontinues hkept
  refine ⟨by simp [Http.routeHealth, hpath, hmethod], ?_, hanswering.exists_answer, ?_⟩
  · intro time outcome houtcome
    obtain ⟨hfrom, hto, r, hserved, hcovers⟩ := hanswering.of_outcome houtcome
    exact ⟨hfrom, hto, r, hserved, hcovers, rfl, rfl, r.digest_of_body stamp⟩
  · have hsound := (hs.sound.act .beginRequest).run after
    obtain ⟨more, hown, hnow⟩ := hsound.time_goes_on
      (Nat.le_max_left _ (s.now + s.prober.ceiling + 1))
    refine ⟨more, hown, ?_⟩
    have hmore : .drop s.tasks.length ∉ more := fun hdrop => hown _ hdrop
    have hlate : s.now + s.prober.ceiling < (((s.act .beginRequest).run after).run more).now := by
      rw [hnow]
      exact Nat.le_max_right _ _
    exact (hanswering.run hs.sound (hcontinues.trans (.run _ after)) hmore).exists_answer hlate

/-- An answer comes although the dependency never does. -/
theorem silent_answered : ∃ time r, (((silent 1000).act .beginRequest).run
    [.move 0 (.lane 0), .pass 5000, .move 0 (.lane 0), .move 0 .whole, .pass 5001]).outcome? 0 =
      some (time, .served r) := by
  have h := request_answered (silent_reachable 1000) ⟨"GET", "/health"⟩ rfl rfl
    [.move 0 (.lane 0), .pass 5000, .move 0 (.lane 0), .move 0 .whole, .pass 5001]
    (by simp) fun _ => ""
  exact h.2.2.1 (by decide)

end Service

end HealthWatch
