import HealthWatch.Proofs.ServiceRuns
import HealthWatch.Service.Schedule
import Mathlib.Data.List.Forall2

/-!
# The course of a report

A report under way is a list of lanes, one for each name that the registry held
when it began.  Whatever happens to the service, either the lanes make a
`LaneMove` or the report is put together from their results
(`act_reporting`), and it stays on time with the limit that it had when it began
(`Gathering.Sound.act`).  What is known about each lane carries over with
`forall₂_set`, since a move changes one lane only.

A probe that is a task of its own goes on only when it wakes up (`act_probing`).
-/

namespace HealthWatch

/-- Two lists that are related entry by entry are so after a change at one place, if
the change leaves that place related, and every other one. -/
theorem forall₂_set {α β : Type} {R R' : α → β → Prop} {l : List α} {m : List β}
    (h : List.Forall₂ R l m) {n : Nat} {b b' : β} (hn : m[n]? = some b)
    (hset : ∀ a, l[n]? = some a → R a b → R' a b')
    (hothers : ∀ a, l[n]? = some a → R a b →
      ∀ k c x, k ≠ n → l[k]? = some c → R c x → R' c x) :
    List.Forall₂ R' l (m.set n b') := by
  rw [List.forall₂_iff_get] at h ⊢
  obtain ⟨hlength, hget⟩ := h
  simp only [List.get_eq_getElem] at hget ⊢
  obtain ⟨hm, rfl⟩ := List.getElem?_eq_some_iff.mp hn
  have hl : n < l.length := hlength ▸ hm
  refine ⟨by rw [hlength, List.length_set], fun k hk hk' => ?_⟩
  have hkm : k < m.length := hlength ▸ hk
  by_cases hkn : n = k
  · subst hkn
    rw [List.getElem_set_self]
    exact hset _ (List.getElem?_eq_getElem hl) (hget n hl hm)
  · rw [List.getElem_set_ne hkn]
    exact hothers _ (List.getElem?_eq_getElem hl) (hget n hl hm) k _ _ (Ne.symm hkn)
      (List.getElem?_eq_getElem hk) (hget k hk hkm)

/-- Every entry of the second list is related to one of the first. -/
theorem exists_of_forall₂ {α β : Type} {R : α → β → Prop} {l : List α} {m : List β}
    (h : List.Forall₂ R l m) {b : β} (hb : b ∈ m) : ∃ a ∈ l, R a b := by
  induction h with
  | nil => cases hb
  | cons hab hrest ih =>
      rcases List.mem_cons.mp hb with rfl | hb
      · exact ⟨_, List.mem_cons_self, hab⟩
      · obtain ⟨a, ha, hR⟩ := ih hb
        exact ⟨a, List.mem_cons_of_mem _ ha, hR⟩

/-- Two lists whose entries have the same names one by one list the same names. -/
theorem names_of_forall₂ {α β : Type} {l : List (String × α)} {m : List (String × β)}
    (h : List.Forall₂ (fun a b => b.1 = a.1) l m) : m.map Prod.fst = l.map Prod.fst := by
  rw [← List.forall₂_eq_eq_eq, List.forall₂_map_left_iff, List.forall₂_map_right_iff]
  exact h.flip

namespace Service

theorem outcome?_eq_some_iff {δ Env : Type} {s : Service δ Env} {id : Nat} {time : Instant}
    {outcome : Outcome} :
    s.outcome? id = some (time, outcome) ↔ s.tasks[id]? = some (.ended time outcome) := by
  unfold outcome?
  split
  · next time' outcome' hid => simp [hid]
  · next hother => exact iff_of_false (by simp) (hother time outcome)

variable {δ Env : Type} [Dependency δ Env] {s : Service δ Env} {id : Nat} {span : Option Span}

/-! ## A report stays on time -/

/-- A report on time stays so as long as the clock stands. -/
theorem Continues.sound_gathering {s' : Service δ Env} (h : Continues s s')
    (hnow : s'.now = s.now) {g : Gathering} {limit : Instant}
    (hg : g.Sound s.prober s.handles.length limit s.now) :
    g.Sound s'.prober s'.handles.length limit s'.now := by
  rw [h.prober, hnow]
  exact hg.mono h.handles_length

/-- A report that a task waits for stays on time whatever happens: time does not
pass the moment at which it is due. -/
theorem act_sound_gathering {job : Job} {g : Gathering} {limit : Instant} (a : Action δ)
    (hid : s.tasks[id]? = some (.running span job)) (hwake : s.jobWake job = some (g.wake s.now))
    (hg : g.Sound s.prober s.handles.length limit s.now) :
    g.Sound (s.act a).prober (s.act a).handles.length limit (s.act a).now := by
  by_cases hpass : ∃ time, a = .pass time
  · obtain ⟨time, rfl⟩ := hpass
    rcases s.pass_spec time with hrest | ⟨hpassed, hfrom, hto⟩
    · have hsame : s.act (.pass time) = s := hrest
      rwa [hsame]
    · have htime : s.act (.pass time) = { s with now := time } := hpassed
      rw [htime]
      exact hg.wait hfrom (hto id span job _ hid hwake)
  · exact (Continues.act s a).sound_gathering
      (act_now fun time ha => hpass ⟨time, ha⟩) hg

/-! ## The end of a report -/

/-- What a move makes of a report: its lanes move, or it is put together. -/
theorem JobMove.of_reporting {purpose : Purpose} {g : Gathering} {task : Task}
    (h : JobMove s span (.reporting purpose g) task) :
    (∃ g', LaneMove s g g' ∧ task = .running span (.reporting purpose g')) ∨
      ∃ results, g.results? = some results ∧
        task = .ended s.now (purpose.outcome ⟨.ofList results, s.uptime, s.now⟩) := by
  cases h with
  | rest => exact .inl ⟨g, .rest, rfl⟩
  | lane hlane => exact .inl ⟨_, hlane, rfl⟩
  | report hresults => exact .inr ⟨_, hresults, rfl⟩

/-- What a move makes of a probe: another stage, or a result. -/
theorem JobMove.of_probing {p : Probe} {task : Task} (h : JobMove s span (.probing p) task) :
    (∃ stage, task = .running span (.probing { p with stage := stage })) ∨
      ∃ finding, task = .ended s.now (.probed ⟨finding, s.now⟩) := by
  cases h with
  | rest => exact .inl ⟨p.stage, rfl⟩
  | @probe _ h hdue hhandle =>
      cases hprogress : (p.resume s.prober s.now h s.env).progress with
      | going q =>
          obtain ⟨stage, _, rfl⟩ := Probe.resume_going hprogress
          exact .inl ⟨stage, rfl⟩
      | done finding => exact .inr ⟨finding, rfl⟩

/-- A task that has ended stays so. -/
theorem run_ended {time : Instant} {outcome : Outcome}
    (hid : s.tasks[id]? = some (.ended time outcome)) (actions : List (Action δ)) :
    (s.run actions).tasks[id]? = some (.ended time outcome) := by
  induction actions generalizing s with
  | nil => exact hid
  | cons a actions ih => exact ih (act_ended hid a)

/-- **The course of a report.**  A report that is not dropped goes on, on time,
with its lanes moved or not, or ends with what its lanes found. -/
theorem act_reporting {purpose : Purpose} {g : Gathering} {limit : Instant} {a : Action δ}
    (hid : s.tasks[id]? = some (.running span (.reporting purpose g)))
    (hg : g.Sound s.prober s.handles.length limit s.now) (ha : a ≠ .drop id) :
    (∃ g', (s.act a).tasks[id]? = some (.running span (.reporting purpose g')) ∧
        LaneMove s g g' ∧ g'.Sound (s.act a).prober (s.act a).handles.length limit (s.act a).now) ∨
      ∃ results, g.results? = some results ∧ (s.act a).tasks[id]? =
        some (.ended s.now (purpose.outcome ⟨.ofList results, s.uptime, s.now⟩)) := by
  rcases act_getElem? hid a with hsame | ⟨part, span', job, task, rfl, htask, hid', hmoved⟩ | hdrop
  · exact .inl ⟨g, hsame, .rest, act_sound_gathering a hid rfl hg⟩
  · cases htask
    rcases hmoved.move.of_reporting with ⟨g', hlane, rfl⟩ | ⟨results, hresults, rfl⟩
    · refine .inl ⟨g', hid', hlane, ?_⟩
      exact (Continues.act s _).sound_gathering hmoved.frame.now (hlane.sound hg)
    · exact .inr ⟨results, hresults, hid'⟩
  · exact absurd hdrop.1 ha

/-- A report that is not dropped is under way on time, or has ended. -/
theorem run_reporting {purpose : Purpose} {g : Gathering} {limit : Instant}
    {actions : List (Action δ)} (hid : s.tasks[id]? = some (.running span (.reporting purpose g)))
    (hg : g.Sound s.prober s.handles.length limit s.now) (hkept : .drop id ∉ actions) :
    (s.run actions).now ≤ limit ∨ ((s.run actions).outcome? id).isSome = true := by
  simp only [Option.isSome_iff_exists, Prod.exists, outcome?_eq_some_iff]
  induction actions generalizing s g with
  | nil => exact .inl hg.now_le
  | cons a actions ih =>
      have hrest := List.not_mem_of_not_mem_cons hkept
      rcases act_reporting hid hg (List.ne_of_not_mem_cons hkept).symm with
        ⟨g', hid', _, hg'⟩ | ⟨results, _, hid'⟩
      · exact ih hid' hg' hrest
      · have hended := run_ended hid' actions
        exact .inr ⟨_, _, hended⟩

/-- A move of a probe that is not due changes nothing. -/
theorem act_resting {p : Probe} {part : Part}
    (hid : s.tasks[id]? = some (.running span (.probing p)))
    (hrest : ¬ (part = .whole ∧ p.wake ≤ s.now)) : s.act (.move id part) = s := by
  have hact : s.act (.move id part) = s.moveJob id span (.probing p) part := by
    simp only [act, move, hid]
  rw [hact]
  cases part with
  | whole => exact if_neg fun hdue => hrest ⟨rfl, hdue⟩
  | lane n => rfl
  | signal => rfl

/-- **The course of a probe.**  A probe that is not dropped stays as it is, or it goes on by a
move of its own, at the very moment it was to wake up. -/
theorem act_probing {p : Probe} {a : Action δ} (hs : s.Sound)
    (hid : s.tasks[id]? = some (.running span (.probing p))) (ha : a ≠ .drop id) :
    ((s.act a).tasks[id]? = some (.running span (.probing p)) ∧
        ¬ (a = .move id .whole ∧ p.wake ≤ s.now)) ∨
      (a = .move id .whole ∧ p.wake = s.now ∧ ∃ h, s.handles[p.handle]? = some h ∧
        (s.act a).tasks[id]? =
          some (probingAfter span s.now (p.resume s.prober s.now h s.env).progress)) := by
  have hp : p.Sound s.prober s.handles.length s.now := hs.jobs id span _ hid
  by_cases hmove : a = .move id .whole ∧ p.wake ≤ s.now
  · obtain ⟨rfl, hdue⟩ := hmove
    have hh := List.getElem?_eq_getElem hp.handle_lt
    have hact : s.act (.move id .whole) = s.moveJob id span (.probing p) .whole := by
      simp only [act, move, hid]
    have hmoved : Moved s _ id span (.probing p) _ := .probe hdue hh
    refine .inr ⟨rfl, Nat.le_antisymm hdue hp.now_le_wake, _, hh, ?_⟩
    rw [hact, hmoved.tasks, List.getElem?_set_self (List.getElem?_eq_some_iff.mp hid).1]
  · refine .inl ⟨?_, hmove⟩
    rcases act_getElem? hid a with hsame | ⟨part, _, _, _, rfl, _⟩ | ⟨hdrop, _⟩
    · exact hsame
    · rw [act_resting hid fun h => hmove ⟨h.1 ▸ rfl, h.2⟩, hid]
    · exact absurd hdrop ha

/-- A probe that is not dropped is under way on time, or has ended. -/
theorem run_probing {p : Probe} {actions : List (Action δ)} (hs : s.Sound)
    (hid : s.tasks[id]? = some (.running span (.probing p))) (hkept : .drop id ∉ actions) :
    (s.run actions).now ≤ max p.started p.deadline ∨
      ((s.run actions).outcome? id).isSome = true := by
  simp only [Option.isSome_iff_exists, Prod.exists, outcome?_eq_some_iff]
  induction actions generalizing s p with
  | nil => exact .inl (Probe.Sound.now_le (hs.jobs id span _ hid))
  | cons a actions ih =>
      have hrest := List.not_mem_of_not_mem_cons hkept
      rcases act_getElem? hid a with hsame | ⟨part, _, _, task, rfl, htask, hid', hmoved⟩ | hdrop
      · exact ih (hs.act a) hsame hrest
      · cases htask
        rcases hmoved.move.of_probing with ⟨stage, rfl⟩ | ⟨finding, rfl⟩
        · have hgoes := ih (hs.act _) hid' hrest
          exact hgoes
        · have hended := run_ended hid' actions
          exact .inr ⟨_, _, hended⟩
      · exact absurd hdrop.1 (List.ne_of_not_mem_cons hkept).symm

end Service

end HealthWatch
