import HealthWatch.Proofs.DegradedStartup
import HealthWatch.Proofs.HeldHandles
import HealthWatch.Proofs.ServiceRuns

/-!
# The service that a startup makes

A startup that ends ready hands over the service it was begun for, with its settings, without
tasks and not closed, and every name that it registered has a handle (`Made`).  So what is known
of fresh services and of their runs is known of it.  If the service had no handles, every handle
is registered, each under one name (`Made.mem_all`).
-/

namespace HealthWatch.Startup

variable {δ Env ε : Type}

/-- The service that a startup makes, if it ends ready. -/
def Outcome.ready? : Outcome δ Env ε → Option (Service δ Env)
  | .ready service => some service
  | _ => none

/-- A startup that makes such a service ends ready with it. -/
theorem Outcome.exists_of_ready? {outcome : Outcome δ Env ε} {p : Service δ Env → Bool}
    (h : outcome.ready?.any p = true) : ∃ service, outcome = .ready service ∧ p service = true := by
  cases outcome with
  | ready service => exact ⟨service, rfl, h⟩
  | _ => cases h

/-- What a startup makes of a service: it takes over lanes, and nothing else changes. -/
structure Made (service : Service δ Env) (lanes : List (Lane δ)) (ready : Service δ Env) :
    Prop where
  prober : ready.prober = service.prober
  ticker : ready.ticker = service.ticker
  tasks : ready.tasks = service.tasks
  closed : ready.registry.closed = service.registry.closed
  handles : ready.handles = service.handles ++ lanes.map Lane.handle
  names : ready.registry.handles = (places lanes service.handles.length).foldl
    (fun m e => m.insert e.1 e.2) service.registry.handles

theorem adoptAll_keeps (lanes : List (Lane δ)) (v : Service δ Env) :
    (adoptAll lanes v).prober = v.prober ∧ (adoptAll lanes v).ticker = v.ticker ∧
      (adoptAll lanes v).tasks = v.tasks ∧
      (adoptAll lanes v).registry.closed = v.registry.closed := by
  induction lanes generalizing v with
  | nil => exact ⟨rfl, rfl, rfl, rfl⟩
  | cons l lanes ih => exact ih (v.adopt l.name l.handle).2

/-- Places are handed out one after another. -/
theorem lt_of_mem_places {lanes : List (Lane δ)} {first : Nat} {e : String × Nat}
    (he : e ∈ places lanes first) : e.2 < first + lanes.length := by
  obtain ⟨x, hx, rfl⟩ := List.mem_map.mp he
  have hlt := List.snd_lt_add_of_mem_zipIdx hx
  omega

/-- The places of the first lanes are where they stand. -/
theorem mem_places_zero {lanes : List (Lane δ)} {e : String × Nat} :
    e ∈ places lanes 0 ↔ ∃ l, lanes[e.2]? = some l ∧ l.name = e.1 := by
  constructor
  · intro he
    obtain ⟨x, hx, rfl⟩ := List.mem_map.mp he
    exact ⟨x.1, List.mem_zipIdx_iff_getElem?.mp hx, rfl⟩
  · rintro ⟨l, hl, hname⟩
    have hx : (l, e.2) ∈ lanes.zipIdx 0 := List.mem_zipIdx_iff_getElem?.mpr hl
    exact List.mem_map.mpr ⟨_, hx, Prod.ext hname rfl⟩

namespace Made

variable {service ready : Service δ Env} {lanes : List (Lane δ)}

theorem register (s : Startup δ Env) (service : Service δ Env) :
    Made service s.lanes (s.register service) := by
  let begun : Service δ Env := { service with now := s.now, env := s.env, log := s.log }
  obtain ⟨hprober, hticker, htasks, hclosed⟩ := adoptAll_keeps s.lanes begun
  obtain ⟨_, hhandles, hnames⟩ := adoptAll_spec s.lanes begun
  exact ⟨hprober, hticker, htasks, hclosed, hhandles, hnames⟩

/-- Every registered name has a handle. -/
theorem registry_lt (h : Made service lanes ready) (hempty : service.registry = .empty) :
    ∀ e ∈ ready.registry.all, e.2 < ready.handles.length := by
  intro e he
  rw [Registry.all, h.names, hempty] at he
  rw [h.handles, List.length_append, List.length_map]
  rcases NameMap.mem_entries_foldl_insert he with hplace | hold
  · exact lt_of_mem_places hplace
  · cases hold

theorem fresh (h : Made service lanes ready) (hempty : service.registry = .empty)
    (htasks : service.tasks = []) : ready.Fresh :=
  ⟨h.tasks.trans htasks, h.registry_lt hempty⟩

/-- Exactly the lanes are registered, each under the handle that it brings. -/
theorem mem_all (h : Made service lanes ready) (hempty : service.registry = .empty)
    (hnone : service.handles = []) (hnames : (lanes.map Lane.name).Nodup) {e : String × Nat} :
    e ∈ ready.registry.all ↔ ∃ l, lanes[e.2]? = some l ∧ l.name = e.1 := by
  have hdistinct : (places lanes 0).Pairwise fun a b => a.1 ≠ b.1 := by
    rw [← places_names lanes 0] at hnames
    exact List.pairwise_map.mp hnames
  have hget : ready.registry.handles.get? e.1 = NameMap.answer (places lanes 0) e.1 := by
    rw [h.names, hnone, List.length_nil, NameMap.get?_foldl_insert hdistinct, hempty]
    exact Option.or_none
  rw [← mem_places_zero, Registry.all, ← NameMap.get?_eq_some_iff, hget]
  exact ⟨NameMap.mem_of_answer, NameMap.answer_of_mem hdistinct⟩

theorem heldApart (h : Made service lanes ready) (hempty : service.registry = .empty)
    (hnone : service.handles = []) (hnames : (lanes.map Lane.name).Nodup) : ready.HeldApart := by
  refine ⟨h.registry_lt hempty, fun e he e' he' heq => ?_⟩
  obtain ⟨l, hl, hname⟩ := (h.mem_all hempty hnone hnames).mp he
  obtain ⟨l', hl', hname'⟩ := (h.mem_all hempty hnone hnames).mp he'
  rw [← heq] at hl'
  obtain rfl : l = l' := Option.some.inj (hl.symm.trans hl')
  exact Prod.ext (hname.symm.trans hname') heq

/-- No handle is without a name. -/
theorem exists_name (h : Made service lanes ready) (hempty : service.registry = .empty)
    (hnone : service.handles = []) (hnames : (lanes.map Lane.name).Nodup) {k : Nat}
    (hk : k < ready.handles.length) : ∃ name, (name, k) ∈ ready.registry.all := by
  rw [h.handles, hnone, List.nil_append, List.length_map] at hk
  exact ⟨_, (h.mem_all hempty hnone hnames).mpr ⟨lanes[k], List.getElem?_eq_getElem hk, rfl⟩⟩

end Made

variable [Dependency δ Env] {build : DependencyKind → Except ε δ} {config : Config}
  {service ready : Service δ Env}

/-- A startup that ends ready has set up all its lanes, and all have settled. -/
theorem connect_ready (h : (connect build config service).2 = .ready ready) :
    ∃ lanes, setUp build service.now config.enabledDependencies.entries = .ok lanes ∧
      (ofLanes service lanes).run.lanes.all Lane.isSettled = true ∧
      ready = (ofLanes service lanes).run.register (service.tell none [.settingUp]) := by
  unfold connect at h
  cases hsetUp : setUp build service.now config.enabledDependencies.entries with
  | error e => simp [Service.tell, hsetUp] at h
  | ok lanes =>
      have hsetUp' : setUp build (service.tell none [.settingUp]).now
          config.enabledDependencies.entries = .ok lanes := hsetUp
      simp only [hsetUp'] at h
      split at h
      · next hsettled =>
        cases h
        exact ⟨lanes, rfl, hsettled, rfl⟩
      · cases h

/-- A startup that ends ready has made its service, with a lane for each name. -/
theorem connect_made (h : (connect build config service).2 = .ready ready) :
    ∃ lanes, Made service lanes ready ∧ (lanes.map Lane.name).Nodup := by
  obtain ⟨lanes, hsetUp, _, rfl⟩ := connect_ready h
  have hmade := Made.register (ofLanes service lanes).run (service.tell none [.settingUp])
  have hnames : (config.enabledDependencies.entries.map Prod.fst).Nodup :=
    List.pairwise_map.mpr config.enabledDependencies.pairwise_ne
  exact ⟨_, ⟨hmade.prober, hmade.ticker, hmade.tasks, hmade.closed, hmade.handles, hmade.names⟩,
    (underway_run hnames hsetUp).names⟩

/-- A startup that ends ready has registered exactly the enabled dependencies. -/
theorem connect_names (h : (connect build config service).2 = .ready ready)
    (hempty : service.registry = .empty) :
    ready.registry.names = config.enabledDependencies.names := by
  obtain ⟨lanes, hsetUp, hsettled, rfl⟩ := connect_ready h
  have hnames : (config.enabledDependencies.entries.map Prod.fst).Nodup :=
    List.pairwise_map.mpr config.enabledDependencies.pairwise_ne
  exact (degraded_of_settled (.refl _) hnames hempty hsetUp hsettled).names

end HealthWatch.Startup
