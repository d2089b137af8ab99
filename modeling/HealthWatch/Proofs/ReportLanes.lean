import HealthWatch.Proofs.ProbeStages
import HealthWatch.Service.State

/-!
# The lanes of a report

A report under way is due when one of its running lanes is, and at once when
none is left (`wake_eq`).  `Gathering.Sound` says of all lanes what
`Probe.Sound` says of one probe, with one limit for the whole report: as long as
time stops at the moments at which the report is due, it never comes past the
limit (`Sound.wait`).
-/

namespace HealthWatch

namespace Gathering

@[simp] theorem results?_nil : results? ⟨[]⟩ = some [] := rfl

@[simp] theorem results?_running (p : Probe) (lanes : List Lane) :
    results? ⟨.running p :: lanes⟩ = none := by
  simp [results?, Lane.result?]

@[simp] theorem results?_finished (name : String) (result : ProbeResult) (lanes : List Lane) :
    results? ⟨.finished name result :: lanes⟩ =
      (results? ⟨lanes⟩).map ((name, result) :: ·) := by
  simp only [results?, List.mapM_cons, Lane.result?]
  cases List.mapM Lane.result? lanes <;> rfl

/-- A report has its results exactly when every lane has finished. -/
theorem results?_eq_some_iff {g : Gathering} {results : List (String × ProbeResult)} :
    g.results? = some results ↔ g.lanes = results.map fun x => .finished x.1 x.2 := by
  obtain ⟨lanes⟩ := g
  induction lanes generalizing results with
  | nil => cases results <;> simp
  | cons lane lanes ih =>
      cases lane with
      | running p => cases results <;> simp
      | finished name result =>
          rw [results?_finished, Option.map_eq_some_iff]
          constructor
          · rintro ⟨rest, hrest, rfl⟩
            simpa using ih.mp hrest
          · intro h
            cases results with
            | nil => simp at h
            | cons x rest =>
                obtain ⟨hlane, hrest⟩ := List.cons.inj h
                cases hlane
                exact ⟨rest, ih.mpr hrest, rfl⟩

/-- A report without its results has a running lane. -/
theorem exists_running {g : Gathering} (h : g.results? = none) :
    ∃ p, Lane.running p ∈ g.lanes := by
  obtain ⟨lanes⟩ := g
  induction lanes with
  | nil => simp at h
  | cons lane lanes ih =>
      cases lane with
      | running p => exact ⟨p, List.mem_cons_self⟩
      | finished name result =>
          rw [results?_finished, Option.map_eq_none_iff] at h
          obtain ⟨p, hp⟩ := ih h
          exact ⟨p, List.mem_cons_of_mem _ hp⟩

/-- A report is due no later than its running lanes. -/
theorem wake_le {g : Gathering} {p : Probe} (hp : Lane.running p ∈ g.lanes) (now : Instant) :
    g.wake now ≤ p.wake := by
  have hmem : p.wake ∈ g.lanes.filterMap Lane.wake := List.mem_filterMap.mpr ⟨_, hp, rfl⟩
  obtain ⟨w, hw⟩ := Option.isSome_iff_exists.mp (List.isSome_min?_of_mem hmem)
  rw [wake, hw]
  exact (List.min?_eq_some_iff.mp hw).2 _ hmem

/-- A report is due when one of its lanes is, and at once when all have finished. -/
theorem wake_eq (g : Gathering) (now : Instant) :
    (∃ p, Lane.running p ∈ g.lanes ∧ g.wake now = p.wake) ∨
      (∃ results, g.results? = some results) ∧ g.wake now = now := by
  cases hw : (g.lanes.filterMap Lane.wake).min? with
  | some w =>
      refine .inl ?_
      obtain ⟨lane, hlane, hwake⟩ := List.mem_filterMap.mp (List.min?_eq_some_iff.mp hw).1
      cases lane with
      | running p => exact ⟨p, hlane, by simpa [wake, hw] using (Option.some.inj hwake).symm⟩
      | finished name result => cases hwake
  | none =>
      refine .inr ⟨?_, by simp [wake, hw]⟩
      cases hr : g.results? with
      | some results => exact ⟨results, rfl⟩
      | none =>
          obtain ⟨p, hp⟩ := exists_running hr
          have hmem : p.wake ∈ g.lanes.filterMap Lane.wake := List.mem_filterMap.mpr ⟨_, hp, rfl⟩
          rw [List.min?_eq_none_iff.mp hw] at hmem
          cases hmem

/-! ## The limit of a report -/

/-- A report that is on time at `now` and has until `limit`. -/
structure Sound (prober : Prober) (handles : Nat) (limit now : Instant) (g : Gathering) :
    Prop where
  lane : ∀ p, Lane.running p ∈ g.lanes →
    p.Sound prober handles now ∧ max p.started p.deadline ≤ limit
  now_le : now ≤ limit

/-- When a report that begins at `now` has to be finished. -/
def limit (prober : Prober) (deadline now : Instant) : Instant :=
  max now (min deadline (now + prober.ceiling))

/-- The report that probes `entries` at once, listed in any order. -/
def ofEntries (prober : Prober) (entries : List (String × Nat)) (deadline now : Instant) :
    Gathering :=
  ⟨entries.map fun e => .running (.start prober e.1 e.2 deadline now)⟩

/-- A report that begins is on time. -/
theorem Sound.ofEntries {prober : Prober} {handles : Nat} {entries : List (String × Nat)}
    {deadline now : Instant} (hhandles : ∀ e ∈ entries, e.2 < handles) :
    Sound prober handles (limit prober deadline now) now
      (.ofEntries prober entries deadline now) where
  lane p hp := by
    obtain ⟨e, he, hpe⟩ := List.mem_map.mp hp
    cases hpe
    exact ⟨.start e.1 deadline (hhandles e he), Nat.le_refl _⟩
  now_le := Nat.le_max_left _ _

variable {prober : Prober} {handles : Nat} {limit now : Instant} {g : Gathering}

theorem Sound.mono {more : Nat} (hg : g.Sound prober handles limit now) (hle : handles ≤ more) :
    g.Sound prober more limit now :=
  { hg with lane := fun p hp => ⟨(hg.lane p hp).1.mono hle, (hg.lane p hp).2⟩ }

/-- Time can pass up to the moment at which the report is due, and that is not
past the limit. -/
theorem Sound.wait {time : Instant} (hg : g.Sound prober handles limit now)
    (hfrom : now ≤ time) (hto : time ≤ g.wake now) : g.Sound prober handles limit time where
  lane p hp :=
    ⟨(hg.lane p hp).1.wait hfrom (Nat.le_trans hto (wake_le hp now)), (hg.lane p hp).2⟩
  now_le := by
    rcases g.wake_eq now with ⟨p, hp, hwake⟩ | ⟨_, hwake⟩
    · have hlane := hg.lane p hp
      have hle := hlane.1.wake_le
      grind
    · have hle := hg.now_le
      grind

/-- A lane that moves on leaves a report on time. -/
theorem Sound.set {n : Nat} {lane : Lane} (hg : g.Sound prober handles limit now)
    (hlane : ∀ p, lane = .running p →
      p.Sound prober handles now ∧ max p.started p.deadline ≤ limit) :
    Sound prober handles limit now ⟨g.lanes.set n lane⟩ :=
  { hg with
    lane := fun p hp => by
      rcases List.mem_or_eq_of_mem_set hp with hp | hp
      · exact hg.lane p hp
      · exact hlane p hp.symm }

end Gathering

end HealthWatch
