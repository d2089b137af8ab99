import HealthWatch.Proofs.ServiceRuns
import Mathlib.Data.List.Nodup

/-!
# The handles that a registry holds

Every registration brings a handle of its own, so no handle is held under two names, and
a handle that was given back for another is never held again (`GivenBack.run`).  Nothing
but a registration changes what is held, and none takes a name out (`run_get?_isSome`).
-/

namespace HealthWatch.Service

variable {δ Env : Type}

/-- What is listed after a registration: the new handle, and all that was held under
other names. -/
theorem mem_all_register {r : Registry} {name : String} {handle : Nat} {e : String × Nat}
    (he : e ∈ (r.register name handle).2.all) : e = (name, handle) ∨ e ∈ r.all ∧ e.1 ≠ name := by
  have hget : (r.handles.insert name handle).get? e.1 = some e.2 := NameMap.get?_eq_some_iff.mpr he
  rw [NameMap.get?_insert] at hget
  by_cases hname : name = e.1
  · rw [if_pos hname] at hget
    exact .inl (Prod.ext hname.symm (Option.some.inj hget).symm)
  · rw [if_neg hname] at hget
    exact .inr ⟨NameMap.get?_eq_some_iff.mp hget, Ne.symm hname⟩

/-- The handles of a registry are among those of the service, and each is held once. -/
structure HeldApart (s : Service δ Env) : Prop where
  lt : ∀ e ∈ s.registry.all, e.2 < s.handles.length
  apart : ∀ e ∈ s.registry.all, ∀ e' ∈ s.registry.all, e.2 = e'.2 → e = e'

theorem HeldApart.new (env : Env) (prober : Prober) (interval upBefore : Nat)
    (metrics : Option Metrics) :
    HeldApart (Service.new env prober interval upBefore metrics : Service δ Env) :=
  ⟨fun _ he => absurd he List.not_mem_nil, fun _ he => absurd he List.not_mem_nil⟩

/-- No handle is listed twice. -/
theorem HeldApart.nodup {s : Service δ Env} (h : s.HeldApart) :
    (s.registry.all.map (·.2)).Nodup := by
  have hnames : s.registry.all.Nodup :=
    s.registry.handles.pairwise_ne.imp fun hne heq => hne (congrArg Prod.fst heq)
  exact List.Nodup.map_on h.apart hnames

/-- A handle of the service that the registry does not hold. -/
structure GivenBack (k : Nat) (s : Service δ Env) : Prop where
  lt : k < s.handles.length
  free : ∀ e ∈ s.registry.all, e.2 ≠ k

/-- The handle that a registration hands back is held no more. -/
theorem HeldApart.givenBack {s : Service δ Env} (h : s.HeldApart) {name : String}
    {dependency : δ} {k : Nat} (hold : (s.register name dependency).1 = some k) :
    GivenBack k (s.register name dependency).2 := by
  have hmem : (name, k) ∈ s.registry.all := NameMap.get?_eq_some_iff.mp hold
  have hlt := h.lt _ hmem
  refine ⟨?_, fun e he heq => ?_⟩
  · rw [register_handles_length]
    exact Nat.lt_succ_of_lt hlt
  · rcases mem_all_register he with rfl | ⟨he, hname⟩
    · exact absurd heq (Nat.ne_of_gt hlt)
    · exact hname (congrArg Prod.fst (h.apart _ he _ hmem heq))

variable [Dependency δ Env]

/-- Registrations are the only actions that change what is held. -/
theorem act_all (s : Service δ Env) (a : Action δ) :
    (∃ name dependency, a = .register name dependency) ∨
      (s.act a).registry.all = s.registry.all ∧ (s.act a).handles.length = s.handles.length := by
  by_cases hregister : ∃ name dependency, a = .register name dependency
  · exact .inl hregister
  · have hother : ∀ name dependency, a ≠ .register name dependency :=
      fun name dependency ha => hregister ⟨name, dependency, ha⟩
    exact .inr ⟨(s.act_keeps a).names hother, (s.act_keeps a).handles_length hother⟩

theorem HeldApart.act {s : Service δ Env} (h : s.HeldApart) (a : Action δ) :
    (s.act a).HeldApart := by
  rcases s.act_all a with ⟨name, dependency, rfl⟩ | ⟨hall, hlength⟩
  · refine ⟨fun e he => ?_, fun e he e' he' heq => ?_⟩
    · rw [Service.act, register_handles_length]
      rcases mem_all_register he with rfl | ⟨he, _⟩
      · exact Nat.lt_succ_self _
      · exact Nat.lt_succ_of_lt (h.lt e he)
    · rcases mem_all_register he with rfl | ⟨he, _⟩ <;>
        rcases mem_all_register he' with rfl | ⟨he', _⟩
      · rfl
      · exact absurd heq.symm (Nat.ne_of_lt (h.lt e' he'))
      · exact absurd heq (Nat.ne_of_lt (h.lt e he))
      · exact h.apart e he e' he' heq
  · exact ⟨fun e he => Nat.lt_of_lt_of_eq (h.lt e (hall ▸ he)) hlength.symm,
      fun e he e' he' => h.apart e (hall ▸ he) e' (hall ▸ he')⟩

theorem HeldApart.run {s : Service δ Env} (h : s.HeldApart) (actions : List (Action δ)) :
    (s.run actions).HeldApart := by
  induction actions generalizing s with
  | nil => exact h
  | cons a actions ih => exact ih (h.act a)

theorem GivenBack.act {s : Service δ Env} {k : Nat} (h : GivenBack k s) (a : Action δ) :
    GivenBack k (s.act a) := by
  refine ⟨Nat.lt_of_lt_of_le h.lt (Continues.act s a).handles_length, fun e he => ?_⟩
  rcases s.act_all a with ⟨name, dependency, rfl⟩ | ⟨hall, _⟩
  · rcases mem_all_register he with rfl | ⟨he, _⟩
    · exact Nat.ne_of_gt h.lt
    · exact h.free e he
  · exact h.free e (hall ▸ he)

/-- A handle that was given back is never held again. -/
theorem GivenBack.run {s : Service δ Env} {k : Nat} (h : GivenBack k s)
    (actions : List (Action δ)) : GivenBack k (s.run actions) := by
  induction actions generalizing s with
  | nil => exact h
  | cons a actions ih => exact ih (h.act a)

/-- What is held under a name changes only by a registration of that name. -/
theorem act_get? (s : Service δ Env) {a : Action δ} {name : String}
    (ha : ∀ dependency, a ≠ .register name dependency) :
    (s.act a).registry.get? name = s.registry.get? name := by
  rcases s.act_all a with ⟨other, dependency, rfl⟩ | ⟨hall, _⟩
  · have hne : other ≠ name := fun heq => ha dependency (heq ▸ rfl)
    exact (NameMap.get?_insert _ _ _ _).trans (if_neg hne)
  · exact congrArg (NameMap.answer · name) hall

/-- A run without registrations of a name leaves what is held under it. -/
theorem run_get? (s : Service δ Env) {actions : List (Action δ)} {name : String}
    (hactions : ∀ dependency, .register name dependency ∉ actions) :
    (s.run actions).registry.get? name = s.registry.get? name := by
  induction actions generalizing s with
  | nil => rfl
  | cons a actions ih =>
      have hrun : s.run (a :: actions) = (s.act a).run actions := rfl
      rw [hrun, ih _ fun dependency => List.not_mem_of_not_mem_cons (hactions dependency)]
      exact s.act_get? fun dependency heq =>
        hactions dependency (heq ▸ List.mem_cons_self)

/-- No name is taken out. -/
theorem run_get?_isSome {s : Service δ Env} {name : String}
    (hname : (s.registry.get? name).isSome = true) (actions : List (Action δ)) :
    ((s.run actions).registry.get? name).isSome = true := by
  induction actions generalizing s with
  | nil => exact hname
  | cons a actions ih =>
      refine ih (s := s.act a) ?_
      by_cases hregister : ∃ dependency, a = .register name dependency
      · obtain ⟨dependency, rfl⟩ := hregister
        have hnew : (s.act (.register name dependency)).registry.get? name =
            some s.handles.length := (NameMap.get?_insert _ _ _ _).trans (if_pos rfl)
        rw [hnew]
        rfl
      · rw [s.act_get? fun dependency heq => hregister ⟨dependency, heq⟩]
        exact hname

end HealthWatch.Service
