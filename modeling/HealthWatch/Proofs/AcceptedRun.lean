import HealthWatch.Program
import HealthWatch.Proofs.AcceptedConfig
import HealthWatch.Proofs.CheckedRun
import HealthWatch.Proofs.ReadyService

/-!
# Accepted configurations on a machine

The limits of an accepted configuration leave a machine room for whatever the service does that
is made from it.  No setting is longer than a day, so a clock below half of its range has room
for all of them (`Config.InRange.hasRoom`), and no number of attempts is more than 32 bits count.
-/

namespace HealthWatch

/-! ## Attempts to connect -/

namespace Startup

variable {δ Env ε : Type}

/-- A lane makes no attempt beyond those that are allowed. -/
def Lane.Counted (l : Lane δ) : Prop :=
  match l.stage with
  | .due attempt _ | .calling attempt _ => 1 ≤ attempt ∧ attempt ≤ l.policy.maxAttempts
  | .settled _ => True

theorem Lane.Course.counted {start now : Instant} {l : Lane δ} {attempts : List Attempt}
    (h : l.Course start now attempts) : l.Counted := by
  unfold Lane.Counted
  cases h with
  | due hstage hnow hmore =>
      rw [hstage]
      exact ⟨Nat.le_add_left 1 _, hmore⟩
  | calling hstage hnow hmore =>
      rw [hstage]
      exact ⟨Nat.le_add_left 1 _, hmore⟩
  | settled hstage =>
      rw [hstage]
      trivial

/-- After any number of steps each lane is within its attempts, and keeps the patience that it
was set up with. -/
theorem runFor_counted [Dependency δ Env] {build : DependencyKind → Except ε δ}
    {service : Service δ Env} {enabled : NameMap DependencyConfig} {lanes : List (Lane δ)}
    (hsetUp : setUp build service.now enabled.entries = .ok lanes) (steps : Nat) {l : Lane δ}
    (hl : l ∈ (runFor steps (ofLanes service lanes)).lanes) :
    l.Counted ∧ ∃ e ∈ enabled.entries, l.policy = e.2.connectRetry.policy := by
  have hnames : (enabled.entries.map Prod.fst).Nodup := List.pairwise_map.mpr enabled.pairwise_ne
  have hunderway := (underway_ofLanes hnames hsetUp).runFor steps
  refine ⟨(hunderway.course l hl).counted, ?_⟩
  have hpolicies : (runFor steps (ofLanes service lanes)).lanes.map
      (fun l => (l.name, l.policy)) =
        enabled.entries.map fun x => (x.1, x.2.connectRetry.policy) := by
    rw [← (setUp_ok hsetUp).2.1]
    refine runFor_map _ (fun l time env => ?_) _ _
    rw [(l.move_spec time env).1, (l.move_spec time env).2.1]
  have hmem : (l.name, l.policy) ∈ enabled.entries.map
      fun x => (x.1, x.2.connectRetry.policy) := by
    rw [← hpolicies]
    exact List.mem_map_of_mem hl
  obtain ⟨e, he, heq⟩ := List.mem_map.mp hmem
  exact ⟨e, he, (congrArg Prod.snd heq).symm⟩

end Startup

/-! ## Room for the settings -/

/-- A day in milliseconds. -/
def dayMillis : Nat := 24 * 60 * 60 * 1000

/-- A clock below half of its range has room for a day. -/
theorem Clock.later?_of_below {clock : Clock} {now : Instant} {span : Nat}
    (hnow : (clock.origin + now) / 1000 < Nat.pow 2 62) (hspan : span ≤ dayMillis) :
    clock.later? now span = some (now + span) := by
  have htwice : Nat.pow 2 62 + Nat.pow 2 62 = Nat.pow 2 63 := rfl
  have hday : dayMillis / 1000 < Nat.pow 2 62 := by decide
  unfold dayMillis at hspan hday
  exact if_pos (by omega)

/-- The attempts that an accepted configuration allows are counted in 32 bits. -/
theorem Config.InRange.maxAttempts_lt {config : Config} (h : config.InRange) :
    config.health.prober.retry.maxAttempts < Nat.pow 2 32 := by
  have hmost : config.health.retryAttempts < Nat.pow 2 32 := h.attempts.2
  refine Nat.lt_of_le_of_lt (Nat.le_of_eq (Startup.policy_ofSecs _ _).1) ?_
  exact Nat.max_lt.mpr ⟨hmost, by decide⟩

/-- A clock below half of its range has room for the settings of an accepted configuration. -/
theorem Config.InRange.hasRoom {config : Config} (h : config.InRange) {clock : Clock}
    {now : Instant} (hnow : (clock.origin + now) / 1000 < Nat.pow 2 62) {ticker : Ticker}
    (hinterval : ticker.interval = config.health.intervalSecs * 1000) :
    clock.HasRoom now config.health.prober ticker := by
  have hpause : config.health.prober.retry.pause = config.health.retryDelaySecs * 1000 :=
    (Startup.policy_ofSecs _ _).2
  have hfrom := h.interval
  have hceiling := h.ceiling
  have hdelay := h.delay
  simp only [maxIntervalSecs, maxWaitSecs] at hfrom hceiling hdelay
  constructor
  case ceiling =>
    refine Clock.later?_of_below hnow ?_
    show config.health.probeCeilingSecs * 1000 ≤ dayMillis
    unfold dayMillis
    omega
  case pause =>
    refine Clock.later?_of_below hnow (Nat.le_trans (Nat.le_of_eq hpause) ?_)
    unfold dayMillis
    omega
  case budget =>
    refine Clock.later?_of_below hnow ?_
    unfold Ticker.budget dayMillis
    omega
  case interval =>
    refine Clock.later?_of_below hnow ?_
    unfold dayMillis
    omega
  case period => omega
  case attempts => exact h.maxAttempts_lt

/-! ## Whole runs -/

section Runs

variable {δ Env ε : Type} [Dependency δ Env]

/-- **Accepted configurations on a machine.**  Let a configuration be accepted, and let a service
be made from it and its dependencies be connected, whatever they answer.  No attempt to connect
is beyond those allowed, which 32 bits count.  When the startup is ready, no probe makes an
attempt beyond those allowed, whatever is done; and as long as the clock is below half of its
range, all that is done is done on a machine too. -/
theorem accepted_run_on_machine {language : Language} {text : String} {config : Config}
    (hparse : Config.parse language text = .ok config) (build : DependencyKind → Except ε δ)
    (env : Env) (told : List Event) (clock : Clock) :
    let service : Service δ Env := (Program.serviceOf config env).tell none told
    (∀ lanes, Startup.setUp build service.now config.enabledDependencies.entries = .ok lanes →
      ∀ steps, ∀ l ∈ (Startup.runFor steps (Startup.ofLanes service lanes)).lanes,
        l.Counted ∧ l.policy.maxAttempts < Nat.pow 2 32) ∧
    ∀ ready, (Startup.connect build config service).2 = .ready ready →
      ∀ actions : List (Service.Action δ),
        ((ready.run actions).EveryProbe fun p => p.Counted ready.prober) ∧
        ready.prober.retry.maxAttempts < Nat.pow 2 32 ∧
        ((clock.origin + (ready.run actions).now) / 1000 < Nat.pow 2 62 →
          ready.run? clock actions = some (ready.run actions)) := by
  intro service
  have hrange : config.InRange := Config.inRange_of_parse hparse
  refine ⟨fun lanes hsetUp steps l hl => ?_, fun ready hready actions => ?_⟩
  · obtain ⟨hcounted, e, he, hpolicy⟩ := Startup.runFor_counted hsetUp steps hl
    have hretries : e.2.connectRetries < Nat.pow 2 32 :=
      (hrange.retries e (List.mem_filter.mp he).1).1
    refine ⟨hcounted, ?_⟩
    rw [hpolicy, (Startup.connectRetry_policy e.2).1]
    exact Nat.max_lt.mpr ⟨hretries, by decide⟩
  · obtain ⟨lanes, hmade, _⟩ := Startup.connect_made hready
    have hprober : ready.prober = config.health.prober := hmade.prober
    have hinterval : ready.ticker.interval = config.health.intervalSecs * 1000 :=
      congrArg Ticker.interval hmade.ticker
    have htasks : ready.tasks = [] := hmade.tasks
    have hroom : ∀ {now : Instant}, (clock.origin + now) / 1000 < Nat.pow 2 62 →
        clock.HasRoom now ready.prober ready.ticker := by
      intro now hnow
      rw [hprober]
      exact hrange.hasRoom hnow hinterval
    refine ⟨?_, ?_, fun hend => ?_⟩
    · have hbegin : ready.EveryProbe fun p => p.Counted ready.prober := by
        intro id span job hid
        rw [htasks] at hid
        cases hid
      exact hbegin.run (fun name handle deadline now => .start _ _ _ _ _)
        (fun p now h env q hp hgoing => hp.resume hgoing) actions
    · rw [hprober]
      exact hrange.maxAttempts_lt
    · refine Service.run?_eq fun time htime => hroom ?_
      have hsooner : clock.origin + time ≤ clock.origin + (ready.run actions).now :=
        Nat.add_le_add_left htime _
      omega

end Runs

/-- A configuration with as many attempts as can be counted, and without pauses. -/
def restless : String :=
  "\x7b\"health\":\x7b\"interval_secs\":1,\"probe_ceiling_secs\":3600," ++
  "\"retry_attempts\":4294967295,\"retry_delay_secs\":0\x7d," ++
  "\"dependencies\":\x7b\"cache\":\x7b\"kind\":\"tcp\",\"address\":\"cache:1\"," ++
  "\"connect_retries\":1\x7d\x7d\x7d"

/-- Nobody is there. -/
def absent : DependencyKind → Except String Scripted := fun _ =>
  let refused (wait : Nat) : Reply Unit := .after wait (.error (.connection "refused"))
  .ok (.ofLists [refused 0, refused 7] [] none)

/-- The service that a startup makes of a text if it finds nobody. -/
def readyOf? (text : String) : Option (Service Scripted Unit) :=
  match Config.parse .json text with
  | .error _ => none
  | .ok config =>
    (Startup.connect absent config ((Program.serviceOf config ()).tell none [])).2.ready?

theorem exists_ready {text : String} {p : Service Scripted Unit → Bool}
    (h : (readyOf? text).any p = true) :
    ∃ config ready, Config.parse .json text = .ok config ∧
      (Startup.connect absent config ((Program.serviceOf config ()).tell none [])).2 =
        .ready ready ∧ p ready = true := by
  unfold readyOf? at h
  split at h
  · cases h
  · next config hparse =>
    obtain ⟨ready, hready, hp⟩ := Startup.Outcome.exists_of_ready? h
    exact ⟨config, ready, hparse, hready, hp⟩

/-- A request for the report fails twice and is given up, and then the ticker ticks. -/
def requestThenTick : List (Service.Action Scripted) :=
  [.beginTicker, .move 0 .whole, .beginRequest, .move 1 (.lane 0), .pass 7, .move 1 (.lane 0),
    .move 1 (.lane 0), .pass 14, .move 1 (.lane 0), .drop 1, .pass 1000, .move 0 .whole]

theorem restless_on_machine :
    ∃ config ready, (Config.parse .json restless = .ok config ∧
        (Startup.connect absent config ((Program.serviceOf config ()).tell none [])).2 =
          .ready ready ∧
        (Nat.pow 2 61 * 1000 + (ready.run requestThenTick).now) / 1000 < Nat.pow 2 62) ∧
      ready.run? ⟨Nat.pow 2 61 * 1000⟩ requestThenTick = some (ready.run requestThenTick) := by
  have hbelow : (readyOf? restless).any (fun ready => decide
      ((Nat.pow 2 61 * 1000 + (ready.run requestThenTick).now) / 1000 < Nat.pow 2 62)) = true := by
    decide +kernel
  obtain ⟨config, ready, hparse, hready, hend⟩ := exists_ready hbelow
  have hclock := of_decide_eq_true hend
  exact ⟨config, ready, ⟨hparse, hready, hclock⟩,
    ((accepted_run_on_machine hparse absent () [] ⟨Nat.pow 2 61 * 1000⟩).2 ready hready
      requestThenTick).2.2 hclock⟩

end HealthWatch
