import HealthWatch.Proofs.HeldHandles
import HealthWatch.Proofs.ToldEvents

/-!
# The history of a registry

`registrations` reads off a run which handle came under which name, and which one was handed
back for it.  What a registry answers is settled by this history alone (`History`): the last
registration of a name is the one that counts, and every handle that was ever registered is
either held, under the one name that it was registered for, or was handed back to exactly one
later registration of that name.

A registration extends the history by one entry (`History.register`).  Every other action leaves
the registry as it is and adds nothing (`History.act`).
-/

namespace HealthWatch

/-- Whether an event tells of a registration. -/
def Event.isRegistration : Event → Bool
  | .registered _ | .replaced _ => true
  | _ => false

/-- One registration of a run. -/
structure Registration (δ : Type) where
  name : String
  dependency : δ
  /-- The number of the handle that came under the name. -/
  handle : Nat
  /-- The handle that was handed back for it. -/
  handedBack : Option Nat

namespace Registration

variable {δ : Type}

/-- What is told of a registration. -/
def event (x : Registration δ) : Event :=
  if x.handedBack.isSome then .replaced x.name else .registered x.name

/-- The handle of the last registration of a name. -/
def last? (l : List (Registration δ)) (name : String) : Option Nat :=
  (l.reverse.find? (·.name = name)).map (·.handle)

/-- The registry holds the handle, under its name and no other, and nobody has got it back. -/
structure HeldOnce (l : List (Registration δ)) (r : Registry) (x : Registration δ) : Prop where
  held : ∀ name, r.get? name = some x.handle ↔ name = x.name
  kept : ∀ y ∈ l, y.handedBack ≠ some x.handle

/-- The registry does not hold the handle, and just one registration has got it back, a later one
of its name. -/
structure HandedBackOnce (l : List (Registration δ)) (r : Registry) (x : Registration δ) :
    Prop where
  free : ∀ name, r.get? name ≠ some x.handle
  back : ∃ y, l.filter (·.handedBack = some x.handle) = [y] ∧ y.name = x.name ∧
    x.handle < y.handle

/-- What a registry shows after registrations. -/
structure Shown (l : List (Registration δ)) (r : Registry) : Prop where
  get?_eq : ∀ name, r.get? name = last? l name
  get?_eq_none : ∀ name, r.get? name = none ↔ ∀ x ∈ l, x.name ≠ name
  mem_all : ∀ name k, (name, k) ∈ r.all ↔ r.get? name = some k
  /-- The names of the entries are those that are listed, in some order and without
  repetition. -/
  all_names : (r.all.map (·.1)).Perm r.names ∧ (r.all.map (·.1)).Nodup
  increasing : r.names.Pairwise (· < ·)
  mem_names : ∀ name, name ∈ r.names ↔ ∃ x ∈ l, x.name = name
  size_eq : r.size = r.names.length
  isEmpty_iff : r.isEmpty = true ↔ r.size = 0

/-- A handle is not both held and handed back. -/
theorem HeldOnce.not_handedBack {l : List (Registration δ)} {r : Registry} {x : Registration δ}
    (h : x.HeldOnce l r) : ¬x.HandedBackOnce l r :=
  fun hback => hback.free x.name ((h.held x.name).mpr rfl)

/-! ## The last registration of a name -/

@[simp] theorem last?_nil (name : String) : last? ([] : List (Registration δ)) name = none := rfl

theorem last?_concat (l : List (Registration δ)) (x : Registration δ) (name : String) :
    last? (l ++ [x]) name = if x.name = name then some x.handle else last? l name := by
  rw [last?, List.reverse_concat, List.find?_cons]
  by_cases h : x.name = name <;> simp [h, last?]

/-- The last registration of a name is one of the name. -/
theorem exists_of_last? {l : List (Registration δ)} {name : String} {k : Nat}
    (h : last? l name = some k) : ∃ x ∈ l, x.name = name ∧ x.handle = k := by
  obtain ⟨x, hfind, rfl⟩ := Option.map_eq_some_iff.mp h
  exact ⟨x, List.mem_reverse.mp (List.mem_of_find?_eq_some hfind),
    by simpa using List.find?_some hfind, rfl⟩

theorem last?_isSome_iff {l : List (Registration δ)} {name : String} :
    (last? l name).isSome = true ↔ ∃ x ∈ l, x.name = name := by
  simp [last?]

/-- Of a name that was not registered there is no last registration. -/
theorem last?_eq_none_iff {l : List (Registration δ)} {name : String} :
    last? l name = none ↔ ∀ x ∈ l, x.name ≠ name := by
  simp [last?]

/-! ## One more registration -/

theorem get?_register (r : Registry) (name : String) (k : Nat) (other : String) :
    (r.register name k).2.get? other = if name = other then some k else r.get? other :=
  NameMap.get?_insert _ _ _ _

section

variable {l : List (Registration δ)} {r : Registry} {x new : Registration δ}

/-- A handle is handed back to the next registration of its name. -/
theorem HeldOnce.handBack (h : x.HeldOnce l r) (hback : new.handedBack = r.get? new.name)
    (hlater : x.handle < new.handle) (hname : new.name = x.name) :
    x.HandedBackOnce (l ++ [new]) (r.register new.name new.handle).2 := by
  refine ⟨fun other heq => ?_, new, ?_, hname, hlater⟩
  · rw [get?_register] at heq
    split at heq
    · exact Nat.ne_of_gt hlater (Option.some.inj heq)
    · next hother => exact hother (hname.trans ((h.held other).mp heq).symm)
  · have hnone : l.filter (·.handedBack = some x.handle) = [] :=
      List.filter_eq_nil_iff.mpr fun y hy => by simpa using h.kept y hy
    have hnew : new.handedBack = some x.handle := hback.trans ((h.held new.name).mpr hname)
    rw [List.filter_append, hnone]
    simp [hnew]

/-- A handle stays where it is when another name is registered. -/
theorem HeldOnce.stays (h : x.HeldOnce l r) (hback : new.handedBack = r.get? new.name)
    (hlater : x.handle < new.handle) (hname : new.name ≠ x.name) :
    x.HeldOnce (l ++ [new]) (r.register new.name new.handle).2 := by
  refine ⟨fun other => ?_, List.forall_mem_append.mpr ⟨h.kept, ?_⟩⟩
  · rw [get?_register]
    split
    · next hother =>
      refine ⟨fun heq => ?_, fun heq => absurd (hother.trans heq) hname⟩
      exact absurd (Option.some.inj heq) (Nat.ne_of_gt hlater)
    · exact h.held other
  · rw [List.forall_mem_singleton, hback]
    exact fun heq => hname ((h.held new.name).mp heq)

/-- What was handed back is neither held nor handed back again. -/
theorem HandedBackOnce.stays (h : x.HandedBackOnce l r) (hback : new.handedBack = r.get? new.name)
    (hlater : x.handle < new.handle) :
    x.HandedBackOnce (l ++ [new]) (r.register new.name new.handle).2 := by
  obtain ⟨hfree, y, hfilter, hy⟩ := h
  refine ⟨fun other heq => ?_, y, ?_, hy⟩
  · rw [get?_register] at heq
    split at heq
    · exact Nat.ne_of_gt hlater (Option.some.inj heq)
    · exact hfree other heq
  · have hnew : new.handedBack ≠ some x.handle := hback ▸ hfree new.name
    rw [List.filter_append, hfilter]
    simp [hnew]

/-- A new handle is held. -/
theorem HeldOnce.begins (hback : new.handedBack = r.get? new.name)
    (hfresh : ∀ name, r.get? name ≠ some new.handle)
    (hkept : ∀ y ∈ l, y.handedBack ≠ some new.handle) :
    new.HeldOnce (l ++ [new]) (r.register new.name new.handle).2 := by
  refine ⟨fun other => ?_, List.forall_mem_append.mpr ⟨hkept, ?_⟩⟩
  · rw [get?_register]
    split
    · next hother => exact ⟨fun _ => hother.symm, fun _ => rfl⟩
    · next hother => exact ⟨fun heq => absurd heq (hfresh other), fun heq => absurd heq.symm hother⟩
  · rw [List.forall_mem_singleton, hback]
    exact hfresh new.name

end

end Registration

namespace Service

open Dependency (Later)
open Registration (last?)

variable {δ Env : Type}

/-! ## What is told of registrations -/

/-- What was told of registrations, in this order. -/
def toldRegistrations (s : Service δ Env) : List Event :=
  (s.log.map (·.event)).reverse.filter (·.isRegistration)

/-- Registrations are told of as asked from outside. -/
theorem toldRegistrations_eq (s : Service δ Env) :
    s.toldRegistrations = (s.told .asked).filter (·.isRegistration) := by
  rw [toldRegistrations, told, ← List.filter_reverse, List.filter_filter]
  refine List.filter_congr fun e _ => ?_
  cases e <;> rfl

theorem toldRegistrations_tell (s : Service δ Env) (span : Option Span) (events : List Event) :
    (s.tell span events).toldRegistrations =
      s.toldRegistrations ++ events.filter (·.isRegistration) := by
  simp [toldRegistrations, tell, Function.comp_def]

variable [Dependency δ Env]

/-- Nothing is told by an action that neither moves a task, nor registers, nor begins to answer
a request. -/
theorem act_log (s : Service δ Env) {a : Action δ} (hmove : ∀ id part, a ≠ .move id part)
    (hregister : ∀ name dependency, a ≠ .register name dependency) (hrequest : a ≠ .beginRequest) :
    (s.act a).log = s.log := by
  cases a with
  | register name dependency => exact absurd rfl (hregister name dependency)
  | beginProbe name deadline =>
      simp only [act, beginProbe]
      split <;> rfl
  | beginRequest => exact absurd rfl hrequest
  | beginConnect name =>
      simp only [act, beginConnect]
      split
      · rfl
      · split <;> rfl
  | beginClosing order =>
      simp only [act, beginClosing]
      split
      · rfl
      · split <;> rfl
  | move id part => exact absurd rfl (hmove id part)
  | drop id =>
      simp only [act, drop]
      split
      · next span job hid => rw [s.abandonJob_eq job]; rfl
      · rfl
  | pass time =>
      simp only [act, pass]
      split <;> rfl
  | _ => rfl

/-- Only registrations are told of as registrations. -/
theorem act_toldRegistrations (s : Service δ Env) {a : Action δ}
    (ha : ∀ name dependency, a ≠ .register name dependency) :
    (s.act a).toldRegistrations = s.toldRegistrations := by
  rcases s.act_cases a with hrest | ⟨id, span, job, task, s', hid, hdoes, hmoved⟩ | hno
  · rw [hrest]
  · rw [toldRegistrations_eq, toldRegistrations_eq, hmoved, told_setTask, hdoes.told_asked]
  · by_cases hrequest : a = .beginRequest
    · subst hrequest
      simp [toldRegistrations, act, beginRequest, spawn, tell, Event.isRegistration]
    · rw [toldRegistrations, s.act_log hno ha hrequest, toldRegistrations]

/-! ## Histories -/

/-- The registration that an action is. -/
def registration? (s : Service δ Env) : Action δ → Option (Registration δ)
  | .register name dependency =>
    some ⟨name, dependency, s.handles.length, (s.register name dependency).1⟩
  | _ => none

omit [Dependency δ Env] in
theorem registration?_eq_none (s : Service δ Env) {a : Action δ}
    (ha : ∀ name dependency, a ≠ .register name dependency) : s.registration? a = none := by
  cases a with
  | register name dependency => exact absurd rfl (ha name dependency)
  | _ => rfl

/-- The registrations of a run, in this order. -/
def registrations (s : Service δ Env) : List (Action δ) → List (Registration δ)
  | [] => []
  | a :: rest => (s.registration? a).toList ++ (s.act a).registrations rest

theorem registrations_append (s : Service δ Env) (actions more : List (Action δ)) :
    s.registrations (actions ++ more) =
      s.registrations actions ++ (s.run actions).registrations more := by
  induction actions generalizing s with
  | nil => rfl
  | cons a actions ih =>
      rw [List.cons_append, registrations, registrations, ih, List.append_assoc]
      rfl

/-- What registrations make of a service. -/
structure History (l : List (Registration δ)) (s : Service δ Env) : Prop where
  length : l.length = s.handles.length
  nth : ∀ (i : Nat) (x : Registration δ), l[i]? = some x → x.handle = i ∧
    x.handedBack = last? (l.take i) x.name ∧
    ∃ h : Handle δ, s.handles[i]? = some h ∧ Later x.dependency h.dependency
  get?_eq : ∀ name, s.registry.get? name = last? l name
  placed : ∀ x ∈ l, x.HeldOnce l s.registry ∨ x.HandedBackOnce l s.registry
  told : s.toldRegistrations = l.map (·.event)

namespace History

theorem new (env : Env) (prober : Prober) (interval upBefore : Nat) (metrics : Option Metrics) :
    History [] (Service.new env prober interval upBefore metrics : Service δ Env) :=
  ⟨rfl, nofun, fun _ => rfl, nofun, rfl⟩

variable {l : List (Registration δ)} {s : Service δ Env}

theorem handle_lt (h : History l s) {x : Registration δ} (hx : x ∈ l) :
    x.handle < s.handles.length := by
  obtain ⟨i, hi⟩ := List.getElem?_of_mem hx
  rw [(h.nth i x hi).1, ← h.length]
  exact (List.getElem?_eq_some_iff.mp hi).1

/-- A handle was registered once. -/
theorem eq_of_handle (h : History l s) {x y : Registration δ} (hx : x ∈ l) (hy : y ∈ l)
    (heq : x.handle = y.handle) : x = y := by
  obtain ⟨i, hi⟩ := List.getElem?_of_mem hx
  obtain ⟨j, hj⟩ := List.getElem?_of_mem hy
  rw [(h.nth i x hi).1, (h.nth j y hj).1] at heq
  subst heq
  exact Option.some.inj (hi.symm.trans hj)

/-- What is held under a name was registered for it. -/
theorem exists_of_get? (h : History l s) {name : String} {k : Nat}
    (hget : s.registry.get? name = some k) : ∃ x ∈ l, x.name = name ∧ x.handle = k :=
  Registration.exists_of_last? (h.get?_eq name ▸ hget)

/-- What was handed back had been registered. -/
theorem handedBack_lt (h : History l s) {y : Registration δ} (hy : y ∈ l) {k : Nat}
    (hback : y.handedBack = some k) : k < s.handles.length := by
  obtain ⟨i, hi⟩ := List.getElem?_of_mem hy
  rw [(h.nth i y hi).2.1] at hback
  obtain ⟨x, hx, _, rfl⟩ := Registration.exists_of_last? hback
  exact h.handle_lt (List.mem_of_mem_take hx)

/-- Where the handles are after a registration. -/
theorem placed_register (h : History l s) {new : Registration δ}
    (hhandle : new.handle = s.handles.length) (hback : new.handedBack = s.registry.get? new.name) :
    ∀ x ∈ l ++ [new], x.HeldOnce (l ++ [new]) (s.registry.register new.name new.handle).2 ∨
      x.HandedBackOnce (l ++ [new]) (s.registry.register new.name new.handle).2 := by
  refine List.forall_mem_append.mpr ⟨fun x hx => ?_, List.forall_mem_singleton.mpr (.inl ?_)⟩
  · have hlater : x.handle < new.handle := hhandle ▸ h.handle_lt hx
    rcases h.placed x hx with hheld | hgone
    · by_cases hname : new.name = x.name
      · exact .inr (hheld.handBack hback hlater hname)
      · exact .inl (hheld.stays hback hlater hname)
    · exact .inr (hgone.stays hback hlater)
  · refine .begins hback (fun name hget => ?_) fun y hy heq => ?_
    · obtain ⟨x, hx, _, hx'⟩ := h.exists_of_get? hget
      exact Nat.ne_of_lt (h.handle_lt hx) (hx'.trans hhandle)
    · exact Nat.ne_of_lt (h.handedBack_lt hy heq) hhandle

/-- **A registration** extends the history. -/
theorem register (h : History l s) (name : String) (dependency : δ) :
    History (l ++ [⟨name, dependency, s.handles.length, s.registry.get? name⟩])
      (s.register name dependency).2 := by
  refine ⟨?_, fun i x hx => ?_, fun other => ?_, h.placed_register rfl rfl, ?_⟩
  · rw [List.length_append, List.length_singleton, h.length, register_handles_length]
  · rcases Nat.lt_trichotomy i l.length with hlt | rfl | hgt
    · rw [List.getElem?_append_left hlt] at hx
      obtain ⟨hhandle, hback, handle, hget, hlater⟩ := h.nth i x hx
      obtain ⟨handle', hget', hlater'⟩ := (Continues.register s name dependency).handles i handle hget
      refine ⟨hhandle, ?_, handle', hget', hlater.trans hlater'⟩
      rw [List.take_append_of_le_length (Nat.le_of_lt hlt), hback]
    · rw [List.getElem?_concat_length] at hx
      obtain rfl := Option.some.inj hx
      refine ⟨h.length.symm, ?_, Handle.new dependency, ?_, .refl _⟩
      · rw [List.take_left', h.get?_eq]
        rfl
      · rw [h.length]
        exact List.getElem?_concat_length
    · rw [List.getElem?_eq_none (by simpa using Nat.succ_le_of_lt hgt)] at hx
      cases hx
  · rw [Registration.last?_concat, ← h.get?_eq]
    exact Registration.get?_register _ _ _ _
  · have hevent : Event.isRegistration
        (if (s.registry.get? name).isSome then .replaced name else .registered name) = true := by
      split <;> rfl
    have htold : (s.register name dependency).2.toldRegistrations = s.toldRegistrations ++
        [if (s.registry.get? name).isSome then .replaced name else .registered name] := by
      rw [← List.filter_eq_self.mpr (List.forall_mem_singleton.mpr hevent)]
      exact toldRegistrations_tell _ _ _
    rw [htold, h.told, List.map_append]
    rfl

/-- **Every action** extends the history by the registration that it is, if it is one. -/
theorem act (h : History l s) (a : Action δ) :
    History (l ++ (s.registration? a).toList) (s.act a) := by
  by_cases hregister : ∃ name dependency, a = .register name dependency
  · obtain ⟨name, dependency, rfl⟩ := hregister
    exact h.register name dependency
  · have hother : ∀ name dependency, a ≠ .register name dependency :=
      fun name dependency ha => hregister ⟨name, dependency, ha⟩
    have hget : (s.act a).registry.get? = s.registry.get? :=
      funext fun name => s.act_get? (hother name)
    rw [s.registration?_eq_none hother, Option.toList_none, List.append_nil]
    refine ⟨?_, fun i x hx => ?_, hget ▸ h.get?_eq, fun x hx => ?_, ?_⟩
    · rw [(s.act_keeps a).handles_length hother, h.length]
    · obtain ⟨hhandle, hback, handle, hi, hlater⟩ := h.nth i x hx
      obtain ⟨handle', hi', hlater'⟩ := (Continues.act s a).handles i handle hi
      exact ⟨hhandle, hback, handle', hi', hlater.trans hlater'⟩
    · exact (h.placed x hx).imp (fun hheld => ⟨hget ▸ hheld.held, hheld.kept⟩)
        fun hgone => ⟨hget ▸ hgone.free, hgone.back⟩
    · rw [s.act_toldRegistrations hother, h.told]

/-- **Every run** is settled by its registrations. -/
theorem run (h : History l s) (actions : List (Action δ)) :
    History (l ++ s.registrations actions) (s.run actions) := by
  induction actions generalizing l s with
  | nil => rwa [registrations, List.append_nil]
  | cons a actions ih =>
      rw [registrations, ← List.append_assoc]
      exact ih (h.act a)

/-- What a registry shows is read off its history. -/
theorem shown (h : History l s) : Registration.Shown l s.registry where
  get?_eq := h.get?_eq
  get?_eq_none name := by rw [h.get?_eq, Registration.last?_eq_none_iff]
  mem_all name k := NameMap.get?_eq_some_iff.symm
  all_names := ⟨.refl _, s.registry.handles.names_increasing.imp NameMap.ne_of_lt⟩
  increasing := s.registry.handles.names_increasing
  mem_names name := by
    rw [← Registration.last?_isSome_iff, ← h.get?_eq]
    exact NameMap.mem_names_iff
  size_eq := by rw [Registry.names, NameMap.names, List.length_map]; rfl
  isEmpty_iff := by
    rw [Registry.isEmpty, NameMap.isEmpty, List.isEmpty_iff, ← List.length_eq_zero_iff]
    rfl

end History

/-- **No handle is lost, and none is duplicated.**  After any run the service has as many handles
as were registered, each registered once, with its own dependency behind it.  Each of them is in
just one of two places: the registry holds it, under its one name, or one later registration of
that name has got it back.  Under a name stands the handle of its last registration, the lists show
this and no more, and the log tells of every registration, of a replacement exactly if a handle
was handed back.  One more action changes no answer but to the name that it registers, and none
at all if it does not register. -/
theorem handles_accounted_for (env : Env) (prober : Prober) (interval upBefore : Nat)
    (metrics : Option Metrics) (actions : List (Action δ)) :
    let start : Service δ Env := .new env prober interval upBefore metrics
    let s := start.run actions
    let l := start.registrations actions
    History l s ∧
    (∀ x ∈ l, ∀ y ∈ l, x.handle = y.handle → x = y) ∧
    (∀ x ∈ l, ¬(x.HeldOnce l s.registry ∧ x.HandedBackOnce l s.registry)) ∧
    Registration.Shown l s.registry ∧
    (∀ x ∈ l, x.event.message =
      if x.handedBack.isSome then "Replaced dependency handle" else "Registered dependency") ∧
    ∀ a : Action δ,
      (∀ name, (∀ dependency, a ≠ .register name dependency) →
        (s.act a).registry.get? name = s.registry.get? name) ∧
      ((∀ name dependency, a ≠ .register name dependency) →
        (s.act a).registry.all = s.registry.all ∧ start.registrations (actions ++ [a]) = l) := by
  intro start s l
  have hhistory : History l s := (History.new env prober interval upBefore metrics).run actions
  refine ⟨hhistory, fun x hx y hy => hhistory.eq_of_handle hx hy,
    fun x _ h => h.1.not_handedBack h.2, hhistory.shown, fun x _ => ?_,
    fun a => ⟨fun name => s.act_get?, fun ha => ⟨(s.act_keeps a).names ha, ?_⟩⟩⟩
  · rw [Registration.event]
    split <;> rfl
  · have hnone : s.registrations [a] = [] := by
      rw [registrations, s.registration?_eq_none ha]
      rfl
    rw [start.registrations_append, hnone, List.append_nil]

/-- A dependency without any answers of its own. -/
def unasked : Scripted := .ofLists [] [] none

example : ((new () .standard 1000 0 none : Service Scripted Unit).registrations
      [.register "db" unasked, .beginClosing [("db", 0)], .register "web" unasked,
        .register "db" unasked]).map
        (fun x => (x.name, x.handle, x.handedBack)) =
    [("db", 0, none), ("web", 1, none), ("db", 2, some 0)] := by
  decide +kernel

end Service

end HealthWatch
