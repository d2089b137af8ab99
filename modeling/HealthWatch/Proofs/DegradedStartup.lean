import HealthWatch.Proofs.AcceptedConfig
import HealthWatch.Proofs.StartupCourse

/-!
# Degraded startup

A startup fails only if a dependency cannot be set up, and then nothing has been connected.
Otherwise every enabled dependency makes its attempts, beside the others and with its own
patience, and is registered whether or not it could be reached (`degraded_startup`).

The dependencies are set up and connected in the order of their names.  Nothing
that is said here depends on that order: `connectIn` takes them in any order, and `connect` is
one case of it.
-/

namespace HealthWatch.Startup

variable {δ Env ε : Type}

/-! ## Setting up -/

section SetUp

variable {build : DependencyKind → Except ε δ} {now : Instant}
  {order : List (String × DependencyConfig)}

/-- If dependencies are set up, all of them are, each with a lane that begins. -/
theorem setUp_ok {lanes : List (Lane δ)} (h : setUp build now order = .ok lanes) :
    (∀ x ∈ order, ∃ dependency, build x.2.kind = .ok dependency) ∧
      lanes.map (fun l => (l.name, l.policy)) =
        order.map (fun x => (x.1, x.2.connectRetry.policy)) ∧
      ∀ l ∈ lanes, ∃ name dependency c, l = laneOf now name dependency c := by
  induction order generalizing lanes with
  | nil =>
      cases h
      exact ⟨by simp, rfl, by simp⟩
  | cons x rest ih =>
      obtain ⟨name, c⟩ := x
      cases hbuild : build c.kind with
      | error cause => simp [setUp, hbuild] at h
      | ok dependency =>
          cases hrest : setUp build now rest with
          | error e => simp [setUp, hbuild, hrest] at h
          | ok more =>
              obtain rfl : laneOf now name dependency c :: more = lanes := by
                simpa [setUp, hbuild, hrest] using h
              obtain ⟨hall, hsettings, hnew⟩ := ih hrest
              refine ⟨?_, ?_, ?_⟩
              · exact List.forall_mem_cons.mpr ⟨⟨dependency, hbuild⟩, hall⟩
              · rw [List.map_cons, List.map_cons, hsettings]
                rfl
              · exact List.forall_mem_cons.mpr ⟨⟨name, dependency, c, rfl⟩, hnew⟩

/-- If dependencies are not set up, one of them could not be. -/
theorem setUp_error {e : SetupError ε} (h : setUp build now order = .error e) :
    ∃ c, (e.name, c) ∈ order ∧ build c.kind = .error e.cause := by
  induction order with
  | nil => cases h
  | cons x rest ih =>
      obtain ⟨name, c⟩ := x
      cases hbuild : build c.kind with
      | error cause =>
          obtain rfl : (⟨name, cause⟩ : SetupError ε) = e := by simpa [setUp, hbuild] using h
          exact ⟨c, List.mem_cons_self, hbuild⟩
      | ok dependency =>
          cases hrest : setUp build now rest with
          | error e' =>
              obtain rfl : e' = e := by simpa [setUp, hbuild, hrest] using h
              obtain ⟨c', hmem, hcause⟩ := ih hrest
              exact ⟨c', List.mem_cons_of_mem _ hmem, hcause⟩
          | ok more => simp [setUp, hbuild, hrest] at h

/-- What else could be set up does not matter. -/
theorem setUp_congr {other : DependencyKind → Except ε δ}
    (h : ∀ x ∈ order, other x.2.kind = build x.2.kind) :
    setUp other now order = setUp build now order := by
  induction order with
  | nil => rfl
  | cons x rest ih =>
      obtain ⟨hhead, htail⟩ := List.forall_mem_cons.mp h
      simp only [setUp, hhead, ih htail]

end SetUp

/-- A patience in whole seconds, as a policy. -/
theorem policy_ofSecs (attempts secs : Nat) :
    (Patience.policy ⟨attempts, .ofSecs secs⟩).maxAttempts = max attempts 1 ∧
      (Patience.policy ⟨attempts, .ofSecs secs⟩).pause = secs * 1000 := by
  refine ⟨rfl, ?_⟩
  simp only [Patience.policy, RetryPolicy.of, Duration.ofSecs, Duration.nanosPerSecond,
    Duration.nanosPerMilli]
  omega

theorem connectRetry_policy (c : DependencyConfig) :
    c.connectRetry.policy.maxAttempts = max c.connectRetries 1 ∧
      c.connectRetry.policy.rest = restTime (c.connectRetryDelaySecs * 1000) := by
  obtain ⟨hattempts, hpause⟩ := policy_ofSecs (max c.connectRetries 1) c.connectRetryDelaySecs
  exact ⟨hattempts.trans (by omega), congrArg restTime hpause⟩

/-- No delay of an accepted configuration is cut short. -/
theorem connectDelay_whole {language : Language} {text : String} {config : Config}
    (h : Config.parse language text = .ok config) {name : String} {c : DependencyConfig}
    (hc : config.enabledDependencies.get? name = some c) :
    restTime (c.connectRetryDelaySecs * 1000) = c.connectRetryDelaySecs * 1000 := by
  have hmem := (List.mem_filter.mp (NameMap.get?_eq_some_iff.mp hc)).1
  have hdelay := ((Config.inRange_of_parse h).retries _ hmem).2
  have hlongest : maxWaitSecs * 1000 ≤ longestRest := by decide
  exact restTime_of_le (Nat.le_trans (Nat.mul_le_mul_right 1000 hdelay) hlongest)

/-! ## Registering -/

/-- The handles that lanes get, one after another, by their names. -/
def places (lanes : List (Lane δ)) (first : Nat) : List (String × Nat) :=
  (lanes.zipIdx first).map fun x => (x.1.name, x.2)

theorem places_names (lanes : List (Lane δ)) (first : Nat) :
    (places lanes first).map Prod.fst = lanes.map Lane.name := by
  induction lanes generalizing first with
  | nil => rfl
  | cons l lanes ih => exact congrArg (l.name :: ·) (ih (first + 1))

/-- The service that has adopted lanes one after another. -/
def adoptAll (lanes : List (Lane δ)) (v : Service δ Env) : Service δ Env :=
  lanes.foldl (fun v l => (v.adopt l.name l.handle).2) v

theorem adoptAll_spec (lanes : List (Lane δ)) (v : Service δ Env) :
    (adoptAll lanes v).now = v.now ∧
      (adoptAll lanes v).handles = v.handles ++ lanes.map Lane.handle ∧
      (adoptAll lanes v).registry.handles = (places lanes v.handles.length).foldl
        (fun m e => m.insert e.1 e.2) v.registry.handles := by
  induction lanes generalizing v with
  | nil => exact ⟨rfl, (List.append_nil _).symm, rfl⟩
  | cons l lanes ih =>
      obtain ⟨hnow, hhandles, hregistry⟩ := ih (v.adopt l.name l.handle).2
      have hone : (v.adopt l.name l.handle).2.handles = v.handles ++ [l.handle] := rfl
      have hnames : (v.adopt l.name l.handle).2.registry.handles =
          v.registry.handles.insert l.name v.handles.length := rfl
      rw [hone] at hhandles hregistry
      rw [hnames, List.length_append] at hregistry
      refine ⟨hnow, ?_, hregistry⟩
      rw [List.append_assoc] at hhandles
      exact hhandles

/-- Lanes with distinct names that are adopted by a service without names are what it has
then. -/
theorem adoptAll_get? {lanes : List (Lane δ)} {v : Service δ Env} (hempty : v.registry = .empty)
    (hnames : (lanes.map Lane.name).Nodup) :
    (∀ name, ((adoptAll lanes v).registry.get? name).isSome = true ↔
        name ∈ lanes.map Lane.name) ∧
      ∀ l ∈ lanes, ∃ k, (adoptAll lanes v).registry.get? l.name = some k ∧
        (adoptAll lanes v).handles[k]? = some l.handle := by
  obtain ⟨_, hhandles, hregistry⟩ := adoptAll_spec lanes v
  have hfst := places_names lanes v.handles.length
  have hdistinct : (places lanes v.handles.length).Pairwise fun a b => a.1 ≠ b.1 := by
    rw [← hfst] at hnames
    exact List.pairwise_map.mp hnames
  have hget : ∀ name, (adoptAll lanes v).registry.get? name =
      NameMap.answer (places lanes v.handles.length) name := by
    intro name
    rw [Registry.get?, hregistry, NameMap.get?_foldl_insert hdistinct, hempty]
    exact Option.or_none
  refine ⟨fun name => ?_, fun l hl => ?_⟩
  · rw [hget, ← hfst, Option.isSome_iff_exists]
    constructor
    · rintro ⟨k, hk⟩
      exact List.mem_map.mpr ⟨_, NameMap.mem_of_answer hk, rfl⟩
    · intro hname
      obtain ⟨e, he, rfl⟩ := List.mem_map.mp hname
      exact ⟨e.2, NameMap.answer_of_mem hdistinct he⟩
  · obtain ⟨i, hi⟩ := List.getElem?_of_mem hl
    refine ⟨v.handles.length + i, ?_, ?_⟩
    · rw [hget]
      refine NameMap.answer_of_mem hdistinct (List.mem_of_getElem? (i := i) ?_)
      rw [places, List.getElem?_map, List.getElem?_zipIdx, hi]
      rfl
    · rw [hhandles, List.getElem?_append_right (Nat.le_add_right _ _), Nat.add_sub_cancel_left,
        List.getElem?_map, hi]
      rfl

/-! ## The end of a startup -/

variable [Dependency δ Env]

/-- The startup that begins with these lanes. -/
def ofLanes (service : Service δ Env) (lanes : List (Lane δ)) : Startup δ Env :=
  ⟨service.now, service.env, lanes, (service.tell none [.settingUp]).log⟩

/-- Connects dependencies that are set up in this order. -/
def connectIn (build : DependencyKind → Except ε δ) (order : List (String × DependencyConfig))
    (service : Service δ Env) : List LogEntry × Outcome δ Env ε :=
  let begun := service.tell none [.settingUp]
  match setUp build service.now order with
  | .error e => (begun.log, .failed e)
  | .ok lanes =>
    let s := (ofLanes service lanes).run
    if s.lanes.all Lane.isSettled then ((s.register begun).log, .ready (s.register begun))
    else (s.log, .hanging)

/-- The attempts to connect that are made if dependencies are set up in this order. -/
def attemptsIn (build : DependencyKind → Except ε δ) (order : List (String × DependencyConfig))
    (service : Service δ Env) : List (String × Attempt) :=
  match setUp build service.now order with
  | .error _ => []
  | .ok lanes => (ofLanes service lanes).attempts

/-- What a startup that began at `start` has made of the enabled dependencies by these
attempts. -/
structure Degraded (start : Instant) (enabled : NameMap DependencyConfig)
    (trace : List (String × Attempt)) (ready : Service δ Env) : Prop where
  /-- Exactly the enabled dependencies are registered. -/
  names : ready.registry.names = enabled.names
  /-- Each makes its attempts with its own patience. -/
  attempts : ∀ name c, enabled.get? name = some c →
    InTurn start (restTime (c.connectRetryDelaySecs * 1000)) (ofName name trace) ∧
      (ofName name trace).length =
        min ((ofName name trace).findIdx (·.succeeded) + 1) (max c.connectRetries 1)
  /-- These are the calls made on the handle that is registered. -/
  calls : ∀ name ∈ enabled.names, ∃ k h, ready.registry.get? name = some k ∧
    ready.handles[k]? = some h ∧ h.tally.checks = (ofName name trace).length
  /-- No other attempts are made. -/
  only : ∀ x ∈ trace, x.1 ∈ enabled.names
  /-- Every last attempt is answered, and the startup ends with the latest of these answers. -/
  ends : (∀ name ∈ enabled.names, (lastEnd (ofName name trace)).isSome = true) ∧
    ready.now = ((enabled.names.filterMap fun name => lastEnd (ofName name trace)).max?).getD start
  /-- The last line counts the dependencies and those whose last attempt succeeded. -/
  told : ∃ earlier, ready.log = ⟨ready.now, none, .registryReady
    (enabled.names.countP fun name => lastSucceeded (ofName name trace)) enabled.size
    enabled.names⟩ :: earlier

omit [Dependency δ Env] in
/-- All lanes of a startup are on their courses when it begins. -/
theorem underway_ofLanes {build : DependencyKind → Except ε δ} {service : Service δ Env}
    {order : List (String × DependencyConfig)} {lanes : List (Lane δ)}
    (hnames : (order.map Prod.fst).Nodup) (hsetUp : setUp build service.now order = .ok lanes) :
    Underway service.now (ofLanes service lanes) [] := by
  obtain ⟨_, hsettings, hnew⟩ := setUp_ok hsetUp
  have hsame : lanes.map Lane.name = order.map Prod.fst := by
    have hfst := congrArg (List.map Prod.fst) hsettings
    rwa [List.map_map, List.map_map] at hfst
  constructor
  case names => exact hsame ▸ hnames
  case course =>
    intro l hl
    obtain ⟨name, dependency, c, rfl⟩ := hnew l hl
    exact .begin service.now name dependency c
  case calls =>
    intro l hl
    obtain ⟨name, dependency, c, rfl⟩ := hnew l hl
    rfl
  case known => exact fun x hx => absurd hx List.not_mem_nil
  case idle => exact fun _ => rfl
  case latest =>
    intro hne
    obtain ⟨l, hl⟩ := List.exists_mem_of_ne_nil _ hne
    obtain ⟨name, dependency, c, rfl⟩ := hnew l hl
    exact ⟨_, hl, fun hsettled => by cases hsettled⟩

/-- All lanes of a startup are on their courses when it ends. -/
theorem underway_run {build : DependencyKind → Except ε δ} {service : Service δ Env}
    {order : List (String × DependencyConfig)} {lanes : List (Lane δ)}
    (hnames : (order.map Prod.fst).Nodup) (hsetUp : setUp build service.now order = .ok lanes) :
    Underway service.now (ofLanes service lanes).run (ofLanes service lanes).attempts :=
  (underway_ofLanes hnames hsetUp).run

variable {start : Instant} {s : Startup δ Env} {trace : List (String × Attempt)}

omit [Dependency δ Env] in
/-- A startup all of whose lanes have settled ends with the latest of their answers. -/
theorem Underway.ends (h : Underway start s trace) {names : List String}
    (hnames : (s.lanes.map Lane.name).Perm names) (hsettled : ∀ l ∈ s.lanes, l.isSettled = true) :
    (∀ name ∈ names, (lastEnd (ofName name trace)).isSome = true) ∧
      s.now = ((names.filterMap fun name => lastEnd (ofName name trace)).max?).getD start := by
  have hlast : ∀ name ∈ names, ∃ time ≤ s.now, lastEnd (ofName name trace) = some time := by
    intro name hname
    obtain ⟨l, hl, rfl⟩ := List.mem_map.mp (hnames.mem_iff.mpr hname)
    exact ((h.course l hl).settled_spec (hsettled l hl)).2.2.2
  constructor
  · intro name hname
    obtain ⟨time, _, htime⟩ := hlast name hname
    exact Option.isSome_iff_exists.mpr ⟨time, htime⟩
  · by_cases hnone : s.lanes = []
    · obtain rfl : names = [] := by
        rw [hnone] at hnames
        exact hnames.nil_eq.symm
      exact h.idle hnone
    · obtain ⟨l, hl, hlatest⟩ := h.latest hnone
      have hmax : (names.filterMap fun name => lastEnd (ofName name trace)).max? = some s.now := by
        refine List.max?_eq_some_iff.mpr ⟨?_, fun time htime => ?_⟩
        · refine List.mem_filterMap.mpr ⟨l.name, ?_, hlatest (hsettled l hl)⟩
          exact hnames.mem_iff.mp (List.mem_map.mpr ⟨l, hl, rfl⟩)
        · obtain ⟨name, hname, heq⟩ := List.mem_filterMap.mp htime
          obtain ⟨time', hle, heq'⟩ := hlast name hname
          cases heq.symm.trans heq'
          exact hle
      rw [hmax, Option.getD_some]

omit [Dependency δ Env] in
/-- The lanes that are connected are those whose last attempt succeeded. -/
theorem Underway.connected (h : Underway start s trace) {names : List String}
    (hnames : (s.lanes.map Lane.name).Perm names) (hsettled : ∀ l ∈ s.lanes, l.isSettled = true) :
    s.lanes.countP Lane.isConnected =
      names.countP fun name => lastSucceeded (ofName name trace) := by
  rw [← hnames.countP_eq, List.countP_map]
  refine List.countP_congr fun l hl => ?_
  rw [((h.course l hl).settled_spec (hsettled l hl)).2.2.1]
  rfl

omit [Dependency δ Env] in
/-- A startup all of whose lanes have settled has connected what could be reached, and has
registered all. -/
theorem Underway.degraded {enabled : NameMap DependencyConfig} {service : Service δ Env}
    (h : Underway start s trace) (hempty : service.registry = .empty)
    (hsettings : (s.lanes.map fun l => (l.name, l.policy)).Perm
      (enabled.entries.map fun x => (x.1, x.2.connectRetry.policy)))
    (hsettled : ∀ l ∈ s.lanes, l.isSettled = true) :
    Degraded start enabled trace (s.register service) := by
  let adopted := adoptAll s.lanes { service with now := s.now, env := s.env, log := s.log }
  have hnow : (s.register service).now = s.now := (adoptAll_spec _ _).1
  obtain ⟨hregistered, hhandles⟩ := adoptAll_get?
    (v := { service with now := s.now, env := s.env, log := s.log }) hempty h.names
  have hlanes : (s.lanes.map Lane.name).Perm enabled.names := by
    have hfst := hsettings.map Prod.fst
    rwa [List.map_map, List.map_map] at hfst
  have hnames : adopted.registry.names = enabled.names := by
    refine NameMap.names_eq fun name => ?_
    rw [Bool.eq_iff_iff, ← NameMap.mem_names_iff (m := enabled)]
    exact (hregistered name).trans hlanes.mem_iff
  have hsize : adopted.registry.size = enabled.size := by
    have hlength := congrArg List.length hnames
    rwa [Registry.names, NameMap.names, NameMap.names, List.length_map, List.length_map]
      at hlength
  have hspec := fun l (hl : l ∈ s.lanes) => (h.course l hl).settled_spec (hsettled l hl)
  constructor
  case names => exact hnames
  case attempts =>
    intro name c hc
    have hmem := hsettings.mem_iff.mpr (List.mem_map.mpr ⟨_, NameMap.get?_eq_some_iff.mp hc, rfl⟩)
    obtain ⟨l, hl, hsame⟩ := List.mem_map.mp hmem
    obtain ⟨rfl, hpolicy⟩ := Prod.mk.inj hsame
    obtain ⟨hturn, hlength, _⟩ := hspec l hl
    obtain ⟨hmost, hpause⟩ := connectRetry_policy c
    rw [hpolicy] at hturn hlength
    exact ⟨hpause ▸ hturn, hmost ▸ hlength⟩
  case calls =>
    intro name hname
    obtain ⟨l, hl, rfl⟩ := List.mem_map.mp (hlanes.mem_iff.mpr hname)
    obtain ⟨k, hk, hhandle⟩ := hhandles l hl
    exact ⟨k, _, hk, hhandle, h.calls l hl⟩
  case only => exact fun x hx => hlanes.mem_iff.mp (h.known x hx)
  case ends =>
    rw [hnow]
    exact h.ends hlanes hsettled
  case told =>
    refine ⟨adopted.log, ?_⟩
    rw [← hnames, ← hsize, ← h.connected (hnames ▸ hlanes) hsettled]
    rfl

variable {build : DependencyKind → Except ε δ} {order : List (String × DependencyConfig)}
  {service : Service δ Env} {lanes : List (Lane δ)}

/-- A startup that goes on forever waits for an attempt that is never answered. -/
theorem exists_never (hnames : (order.map Prod.fst).Nodup)
    (hsetUp : setUp build service.now order = .ok lanes)
    (hhanging : (ofLanes service lanes).run.lanes.all Lane.isSettled = false) :
    ∃ x ∈ (ofLanes service lanes).attempts, x.2.reply = .never := by
  have hrun := underway_run hnames hsetUp
  obtain ⟨l, hl, hsettled⟩ := List.all_eq_false.mp hhanging
  have hwake := next_none (run_next _) l hl
  obtain ⟨a, ha, hreply⟩ :=
    (hrun.course l hl).never_of_wake hwake (Bool.eq_false_iff.mpr hsettled)
  obtain ⟨x, hx, hname⟩ := List.mem_filterMap.mp ha
  split at hname
  · cases hname
    exact ⟨x, hx, hreply⟩
  · cases hname

/-- A startup whose lanes have all settled has made of the service what it should. -/
theorem degraded_of_settled {enabled : NameMap DependencyConfig}
    (horder : order.Perm enabled.entries) (hnames : (order.map Prod.fst).Nodup)
    (hempty : service.registry = .empty) (hsetUp : setUp build service.now order = .ok lanes)
    (hsettled : (ofLanes service lanes).run.lanes.all Lane.isSettled = true) :
    Degraded service.now enabled (ofLanes service lanes).attempts
      ((ofLanes service lanes).run.register (service.tell none [.settingUp])) := by
  have hsettings : (ofLanes service lanes).run.lanes.map (fun l => (l.name, l.policy)) =
      order.map fun x => (x.1, x.2.connectRetry.policy) := by
    rw [← (setUp_ok hsetUp).2.1]
    refine run_map _ (fun l time env => ?_) _
    rw [(l.move_spec time env).1, (l.move_spec time env).2.1]
  refine (underway_run hnames hsetUp).degraded hempty ?_ (List.all_eq_true.mp hsettled)
  rw [hsettings]
  exact horder.map _

/-- **Degraded startup.**  Let the enabled dependencies of a configuration be set up in any
order, be it that of their names, for a service that has none.  The startup fails exactly if one
of them cannot be set up: it names such a one, and no attempt to connect has been made.  Otherwise
it makes of the service what `Degraded` says, unless an attempt is never answered.  The pauses are
the delays of the configuration as they are, if it was accepted.  How a dependency would be set up
that is not enabled does not matter. -/
theorem degraded_startup (build : DependencyKind → Except ε δ) (config : Config)
    {order : List (String × DependencyConfig)}
    (horder : order.Perm config.enabledDependencies.entries) {service : Service δ Env}
    (hempty : service.registry = .empty) :
    let enabled := config.enabledDependencies
    let trace := attemptsIn build order service
    let outcome := (connectIn build order service).2
    connect build config service = connectIn build enabled.entries service ∧
      ((∃ e, outcome = .failed e) ↔
        ∃ name c cause, enabled.get? name = some c ∧ build c.kind = .error cause) ∧
      (∀ e, outcome = .failed e →
        (∃ c, enabled.get? e.name = some c ∧ build c.kind = .error e.cause) ∧ trace = [] ∧
          (connectIn build order service).1 = (service.tell none [.settingUp]).log) ∧
      (∀ ready, outcome = .ready ready → Degraded service.now enabled trace ready) ∧
      (outcome = .hanging → ∃ x ∈ trace, x.2.reply = .never) ∧
      (∀ language text, Config.parse language text = .ok config →
        ∀ name c, enabled.get? name = some c →
          restTime (c.connectRetryDelaySecs * 1000) = c.connectRetryDelaySecs * 1000) ∧
      ∀ other : DependencyKind → Except ε δ,
        (∀ name c, enabled.get? name = some c → other c.kind = build c.kind) →
          connectIn other order service = connectIn build order service := by
  intro enabled trace outcome
  have hmem : ∀ {name c}, enabled.get? name = some c ↔ (name, c) ∈ order :=
    NameMap.get?_eq_some_iff.trans horder.mem_iff.symm
  have hnames : (order.map Prod.fst).Nodup := by
    refine (horder.map Prod.fst).nodup_iff.mpr ?_
    exact List.pairwise_map.mpr enabled.pairwise_ne
  have hothers : ∀ other : DependencyKind → Except ε δ,
      (∀ name c, enabled.get? name = some c → other c.kind = build c.kind) →
        connectIn other order service = connectIn build order service := by
    intro other hsame
    simp only [connectIn, setUp_congr fun x hx => hsame x.1 x.2 (hmem.mpr hx)]
  have hdelays : ∀ language text, Config.parse language text = .ok config →
      ∀ name c, enabled.get? name = some c →
        restTime (c.connectRetryDelaySecs * 1000) = c.connectRetryDelaySecs * 1000 :=
    fun _ _ hparse _ _ hc => connectDelay_whole hparse hc
  cases hsetUp : setUp build service.now order with
  | error e =>
      have houtcome : outcome = .failed e := by simp only [outcome, connectIn, hsetUp]
      have htrace : trace = [] := by simp only [trace, attemptsIn, hsetUp]
      obtain ⟨c, hc, hcause⟩ := setUp_error hsetUp
      have htold : (connectIn build order service).1 = (service.tell none [.settingUp]).log := by
        simp only [connectIn, hsetUp]
      refine ⟨rfl, ⟨fun _ => ⟨e.name, c, e.cause, hmem.mpr hc, hcause⟩, fun _ => ⟨e, houtcome⟩⟩,
        fun e' he' => ?_, fun ready hready => ?_, fun hhanging => ?_, hdelays, hothers⟩
      · cases houtcome.symm.trans he'
        exact ⟨⟨c, hmem.mpr hc, hcause⟩, htrace, htold⟩
      · cases houtcome.symm.trans hready
      · cases houtcome.symm.trans hhanging
  | ok lanes =>
      have htrace : trace = (ofLanes service lanes).attempts := by
        simp only [trace, attemptsIn, hsetUp]
      have houtcome : outcome =
          if (ofLanes service lanes).run.lanes.all Lane.isSettled then
            .ready ((ofLanes service lanes).run.register (service.tell none [.settingUp]))
          else .hanging := by
        simp only [outcome, connectIn, hsetUp]
        split <;> rfl
      have hnotFailed : ∀ e, outcome ≠ .failed e := by
        intro e
        rw [houtcome]
        split <;> simp
      refine ⟨rfl, ⟨?_, ?_⟩, fun e he => absurd he (hnotFailed e), fun ready hready => ?_,
        fun hhanging => ?_, hdelays, hothers⟩
      · rintro ⟨e, he⟩
        exact absurd he (hnotFailed e)
      · rintro ⟨name, c, cause, hc, hcause⟩
        obtain ⟨dependency, hbuild⟩ := (setUp_ok hsetUp).1 _ (hmem.mp hc)
        cases hcause.symm.trans hbuild
      · rw [htrace]
        rw [houtcome] at hready
        split at hready
        · next hsettled =>
          cases hready
          exact degraded_of_settled horder hnames hempty hsetUp hsettled
        · cases hready
      · rw [htrace]
        rw [houtcome] at hhanging
        split at hhanging
        · cases hhanging
        · next hsettled => exact exists_never hnames hsetUp (Bool.eq_false_iff.mpr hsettled)

/-- Two dependencies that are watched, and one that is not and could not be set up. -/
def threeNames : Config where
  dependencies := .ofList [
    ("cache", { kind := .tcp "cache:1", connectRetries := 2 }),
    ("db", { kind := .tcp "db:1", connectRetries := 3, connectRetryDelaySecs := 1 }),
    ("old", { kind := .tcp "old:1", enabled := false })]

/-- The cache never lets anyone in, and the database does so the second time. -/
def setUpScripted : DependencyKind → Except String Scripted
  | .tcp "cache:1" => .ok (.ofLists [.after 0 (.error .closed)] [] none)
  | .tcp "db:1" => .ok (.ofLists [.after 5 (.error .closed), .after 0 (.ok ())] [] none)
  | _ => .error "unknown"

theorem threeNames_degraded :
    let enabled := threeNames.enabledDependencies
    let service : Service Scripted Unit := .new () .standard 1000 0 none
    (enabled.entries.reverse.Perm enabled.entries ∧ service.registry = .empty) ∧
      ∃ ready, (connectIn setUpScripted enabled.entries.reverse service).2 = .ready ready ∧
        Degraded 0 enabled (attemptsIn setUpScripted enabled.entries.reverse service) ready := by
  intro enabled service
  have horder := List.reverse_perm enabled.entries
  have hempty : service.registry = .empty := rfl
  obtain ⟨_, _, _, hdegraded, _⟩ := degraded_startup setUpScripted threeNames horder hempty
  have hready : (match (connectIn setUpScripted enabled.entries.reverse service).2 with
    | .ready _ => true
    | _ => false) = true := by decide +kernel
  cases houtcome : (connectIn setUpScripted enabled.entries.reverse service).2 with
  | ready ready => exact ⟨⟨horder, hempty⟩, ready, rfl, hdegraded ready houtcome⟩
  | failed e => simp [houtcome] at hready
  | hanging => simp [houtcome] at hready

/-- Each makes two attempts, with its own pause between them. -/
example :
    (attemptsIn setUpScripted threeNames.enabledDependencies.entries
      (.new () .standard 1000 0 none : Service Scripted Unit)).map (fun x => (x.1, x.2.time)) =
      [("cache", 0), ("db", 0), ("db", 1005), ("cache", 2000)] := by decide +kernel

end HealthWatch.Startup
