import HealthWatch.Proofs.ClosingCourse
import Mathlib.Data.List.Induction

/-!
# Every handle is closed once

Over a whole run the registry closes exactly what it held when its first closing began, in
any order, each handle once and by its dependency's own answer, whichever of them fail; a
later closing ends at once, no name is taken out, and what was given back before or
registered since is not closed (`closes_once`).

`Course` follows the calls of the closing, and `run_closes` finds them again in what the
handles count.  If no handle keeps its answer to itself, the closing comes to its end
(`closing_ends`): each of its moves leaves it less to do.
-/

namespace HealthWatch

/-- The moves that a closing can make but for its last. -/
def Closing.left (c : Closing) : Nat :=
  2 * c.remaining.length + if c.current.isSome then 1 else 0

/-- The answer for which a closing waits is going to come. -/
def Closing.WillHear (c : Closing) : Prop := ∀ x ∈ c.current, x.2.2.ends ≠ none

namespace Service

variable {δ Env : Type} [Dependency δ Env] {s : Service δ Env} {id : Nat}

/-! ## A closing ends -/

/-- Every handle answers when it is closed. -/
def CloseAnswers (δ : Type) {Env : Type} [Dependency δ Env] : Prop :=
  ∀ (now : Instant) (d : δ) (env : Env), (Dependency.close now d env).1 ≠ .never

/-- What a move makes of a closing: it leaves less to do, unless it rests. -/
theorem JobMove.of_closing_cases {span : Option Span} {c : Closing} {task : Task}
    (h : JobMove s span (.closing c) task) :
    task = .running span (.closing c) ∨
      (∃ c', task = .running none (.closing c') ∧ c'.left < c.left ∧
        (CloseAnswers δ → c'.WillHear)) ∨
      task = .ended s.now .closed := by
  cases h with
  | rest => exact .inl rfl
  | closed hcurrent =>
      refine .inr (.inl ⟨_, rfl, ?_, ?_⟩)
      · simp [Closing.left, hcurrent]
      · intro _ x hx
        cases hx
  | @closeNext _ name handle rest h hcurrent hremaining hhandle =>
      refine .inr (.inl ⟨_, rfl, ?_, ?_⟩)
      · simp [Closing.left, hcurrent, hremaining]
        omega
      · intro hanswers x hx
        cases hx
        have hreply : (h.close s.now s.env).1 ≠ .never := hanswers s.now h.dependency s.env
        cases hclose : (h.close s.now s.env).1 with
        | never => exact absurd hclose hreply
        | after wait outcome => simp [Reply.unbounded]
  | allClosed => exact .inr (.inr rfl)

/-- A closing that is not dropped rests, has less to do, or has ended. -/
theorem run_closing (hanswers : CloseAnswers δ) {span : Option Span} {c : Closing}
    {actions : List (Action δ)} (hid : s.tasks[id]? = some (.running span (.closing c)))
    (hhears : c.WillHear) (hkept : .drop id ∉ actions) :
    (∃ span' c', (s.run actions).tasks[id]? = some (.running span' (.closing c')) ∧
        c'.WillHear ∧ (c' = c ∨ c'.left < c.left)) ∨
      ∃ time, (s.run actions).tasks[id]? = some (.ended time .closed) := by
  induction actions generalizing s span c with
  | nil => exact .inl ⟨span, c, hid, hhears, .inl rfl⟩
  | cons a actions ih =>
      have hrest := List.not_mem_of_not_mem_cons hkept
      rcases act_getElem? hid a with hsame | ⟨_, _, _, task, rfl, htask, hid', hmoved⟩ | ⟨hdrop, _⟩
      · exact ih hsame hhears hrest
      · cases htask
        rcases hmoved.move.of_closing_cases with rfl | ⟨c', rfl, hless, hhears'⟩ | rfl
        · exact ih hid' hhears hrest
        · rcases ih hid' (hhears' hanswers) hrest with ⟨span'', c'', hid'', h, hleft⟩ | hended
          · refine .inl ⟨span'', c'', hid'', h, .inr ?_⟩
            rcases hleft with rfl | hlt
            · exact hless
            · exact Nat.lt_trans hlt hless
          · exact .inr hended
        · have hended := run_ended hid' actions
          exact .inr ⟨_, hended⟩
      · exact absurd hdrop (List.ne_of_not_mem_cons hkept).symm

omit [Dependency δ Env] in
/-- There is a time from which on a closing that will hear is due. -/
theorem closing_due {c : Closing} (h : c.WillHear) (now : Instant) :
    ∃ time, now ≤ time ∧ ∀ s : Service δ Env, time ≤ s.now →
      ∃ w, s.jobWake (.closing c) = some w ∧ w ≤ s.now := by
  cases hcurrent : c.current with
  | none =>
      refine ⟨now, Nat.le_refl _, fun s _ => ⟨s.now, ?_, Nat.le_refl _⟩⟩
      simp only [jobWake, hcurrent]
  | some x =>
      obtain ⟨ends, hends⟩ := Option.ne_none_iff_exists'.mp (h x hcurrent)
      refine ⟨max now ends, Nat.le_max_left _ _, fun s hle => ⟨ends, ?_, ?_⟩⟩
      · simp only [jobWake, hcurrent, hends]
      · exact Nat.le_trans (Nat.le_max_right _ _) hle

/-- **A closing ends** if every handle answers. -/
theorem closing_ends (hanswers : CloseAnswers δ) (hs : s.Sound) {span : Option Span}
    {c : Closing} (hid : s.tasks[id]? = some (.running span (.closing c)))
    (hhears : c.WillHear) :
    ∃ more : List (Action δ), (∀ a ∈ more, a.IsOwn) ∧
      ∃ time, (s.run more).tasks[id]? = some (.ended time .closed) := by
  generalize hleft : c.left = left
  induction left using Nat.strongRecOn generalizing s span c with
  | ind left ih =>
      -- More is left to do after these actions only if it is less than before.
      have hgo : ∀ {first : List (Action δ)} {span' : Option Span} {c' : Closing},
          (∀ a ∈ first, a.IsOwn) →
          (s.run first).tasks[id]? = some (.running span' (.closing c')) → c'.WillHear →
          c'.left < left → ∃ more : List (Action δ), (∀ a ∈ more, a.IsOwn) ∧
            ∃ time, (s.run more).tasks[id]? = some (.ended time .closed) := by
        intro first span' c' hfirst hid' hhears' hless
        obtain ⟨more, hmore, time, hended⟩ := ih _ hless (hs.run first) hid' hhears' rfl
        refine ⟨first ++ more, ?_, time, ?_⟩
        · exact fun a ha => (List.mem_append.mp ha).elim (hfirst a) (hmore a)
        · rw [Service.run, List.foldl_append]
          exact hended
      obtain ⟨time, hle, hdue⟩ := closing_due hhears s.now
      obtain ⟨first, hfirst, hnow⟩ := hs.time_goes_on hle
      rcases run_closing hanswers hid hhears (not_drop_of_own hfirst id) with
        ⟨span', c', hid', hhears', rfl | hless⟩ | ⟨time', hended⟩
      · obtain ⟨w, hwake, hw⟩ := hdue (s.run first) (Nat.le_of_eq hnow.symm)
        obtain ⟨part, task, hmoved, hlt⟩ :=
          exists_part_lt ((hs.run first).jobs id span' _ hid') (by simp) hwake hw
        have hmove : s.run (first ++ [.move id part]) =
            (s.run first).moveJob id span' (.closing c') part := by
          rw [Service.run, List.foldl_append]
          simp only [List.foldl_cons, List.foldl_nil, act, move]
          rw [← Service.run, hid']
        have hown : ∀ a ∈ first ++ [.move id part], a.IsOwn := by
          intro a ha
          rcases List.mem_append.mp ha with ha | ha
          · exact hfirst a ha
          · cases List.mem_singleton.mp ha
            trivial
        have hafter : (s.run (first ++ [.move id part])).tasks[id]? = some task := by
          rw [hmove, hmoved.tasks]
          exact List.getElem?_set_self (List.getElem?_eq_some_iff.mp hid').1
        rcases hmoved.move.of_closing_cases with rfl | ⟨c'', rfl, hless, hhears''⟩ | rfl
        · exact absurd hlt (Nat.lt_irrefl _)
        · exact hgo hown hafter (hhears'' hanswers) (hleft ▸ hless)
        · exact ⟨_, hown, _, hafter⟩
      · exact hgo hfirst hid' hhears' (hleft ▸ hless)
      · exact ⟨first, hfirst, time', hended⟩

/-! ## Before the first closing -/

/-- A service whose registry was not closed yet. -/
structure Untouched (s : Service δ Env) : Prop where
  opened : s.registry.closed = false
  only : OnlyClosing (fun _ => False) s
  told : s.told .closing = []

theorem Untouched.act {a : Action δ} (h : s.Untouched) (ha : ∀ order, a ≠ .beginClosing order) :
    (s.act a).Untouched ∧ changes closeCalls s.tasks (s.act a).tasks = [] := by
  have hquiet : (s.act a).told .closing = s.told .closing ∧
      changes closeCalls s.tasks (s.act a).tasks = [] := by
    rcases s.act_cases a with hrest | ⟨other, span, job, task, s', hid, hdoes, hmoved⟩ | hno
    · rw [hrest]
      exact ⟨rfl, changes_self closeCalls_ofMoves.same _⟩
    · have hjob : ∀ c, job ≠ .closing c := by
        rintro c rfl
        exact h.only other span c hid
      rw [hmoved, closeCalls_ofMoves.does hid hdoes]
      exact ⟨hdoes.told_closing hjob, closeCalls_eq_nil hjob task⟩
    · exact ⟨(s.act_aside hno).told_eq (by simp), closeCalls_ofMoves.act hno⟩
  refine ⟨⟨?_, h.only.act fun order heq => absurd heq (ha order), ?_⟩, hquiet.2⟩
  · rw [act_closed s ha, h.opened]
  · rw [hquiet.1, h.told]

/-- Up to its first closing a registry closes nothing. -/
theorem Untouched.run {actions : List (Action δ)} (h : s.Untouched)
    (hactions : ∀ order, .beginClosing order ∉ actions) :
    (s.run actions).Untouched ∧ observed (fun _ => closeCalls) s actions = [] := by
  induction actions generalizing s with
  | nil => exact ⟨h, rfl⟩
  | cons a actions ih =>
      obtain ⟨hact, hnone⟩ :=
        h.act fun order => (List.ne_of_not_mem_cons (hactions order)).symm
      obtain ⟨hrun, hnone'⟩ := ih hact fun order => List.not_mem_of_not_mem_cons (hactions order)
      refine ⟨hrun, ?_⟩
      rw [observed, hnone, hnone']
      rfl

omit [Dependency δ Env] in
theorem Untouched.new (env : Env) (prober : Prober) (interval upBefore : Nat)
    (metrics : Option Metrics) :
    Untouched (Service.new env prober interval upBefore metrics : Service δ Env) :=
  ⟨rfl, fun id span c hid => by simp [Service.new] at hid, rfl⟩

/-! ## The run of a closing -/

/-- The size that the registry has when task `id` ends in a run. -/
def SizeAtEnd (id : Nat) (s : Service δ Env) (actions : List (Action δ)) (size : Nat) : Prop :=
  ∃ first a time outcome, first ++ [a] <+: actions ∧
    (s.run first).tasks[id]? ≠ some (.ended time outcome) ∧
    ((s.run first).act a).tasks[id]? = some (.ended time outcome) ∧
    (s.run first).registry.size = size

theorem SizeAtEnd.snoc {actions : List (Action δ)} {a : Action δ} {size : Nat}
    (h : SizeAtEnd id s actions size) : SizeAtEnd id s (actions ++ [a]) size := by
  obtain ⟨first, last, time, outcome, hprefix, hbefore, hafter, hsize⟩ := h
  exact ⟨first, last, time, outcome, hprefix.trans (List.prefix_append _ _), hbefore, hafter,
    hsize⟩

/-- What the first closing of a registry makes of it. -/
theorem act_beginClosing (hopened : s.registry.closed = false) {order : List (String × Nat)}
    (horder : order.Perm s.registry.all) :
    s.act (.beginClosing order) = { s with
      registry := { s.registry with closed := true }
      tasks := s.tasks ++ [.running none (.closing ⟨order, none, 0⟩)] } := by
  simp [Service.act, beginClosing, hopened, horder, spawn]

/-- The first closing begins with all that the registry holds. -/
theorem Untouched.begin (h : s.Untouched) {order : List (String × Nat)}
    (horder : order.Perm s.registry.all) :
    Course order s.tasks.length (SizeAtEnd s.tasks.length (s.act (.beginClosing order)) [])
        [] (s.act (.beginClosing order)) ∧
      (s.act (.beginClosing order)).registry.closed = true ∧
      OnlyClosing (· = s.tasks.length) (s.act (.beginClosing order)) := by
  rw [act_beginClosing h.opened horder]
  have hnone : ([] : List CloseCall) = [] ++ (none : Option CloseCall).toList := rfl
  refine ⟨?_, rfl, fun id span c hid => ?_⟩
  · refine .closing (c := ⟨order, none, 0⟩) ?_ rfl hnone rfl h.told ?_
    · simp
    · simp
  · by_cases hlt : id < s.tasks.length
    · rw [List.getElem?_append_left hlt] at hid
      exact absurd hid fun hid => h.only id span c hid
    · have hle := Nat.le_of_not_lt hlt
      rw [List.getElem?_append_right hle] at hid
      obtain ⟨hlast, _⟩ := List.getElem?_eq_some_iff.mp hid
      simp at hlast
      omega

/-- The task that the first closing begins. -/
theorem Untouched.task (h : s.Untouched) {order : List (String × Nat)}
    (horder : order.Perm s.registry.all) :
    (s.act (.beginClosing order)).tasks[s.tasks.length]? =
      some (.running none (.closing ⟨order, none, 0⟩)) := by
  rw [act_beginClosing h.opened horder]
  exact List.getElem?_concat_length

/-- The first closing returns in time if every handle answers. -/
theorem Untouched.returns (h : s.Untouched) (hs : s.Sound) (hanswers : CloseAnswers δ)
    {order : List (String × Nat)} (horder : order.Perm s.registry.all)
    {after : List (Action δ)} (hkept : .drop s.tasks.length ∉ after) :
    ∃ more : List (Action δ), (∀ a ∈ more, a.IsOwn) ∧ ∃ time,
      (((s.act (.beginClosing order)).run after).run more).tasks[s.tasks.length]? =
        some (.ended time .closed) := by
  have hhears : (⟨order, none, 0⟩ : Closing).WillHear := fun x hx => by cases hx
  rcases run_closing hanswers (h.task horder) hhears hkept with
    ⟨span, c, hid, hhears', _⟩ | ⟨time, hended⟩
  · exact closing_ends hanswers ((hs.act _).run after) hid hhears'
  · exact ⟨[], by simp, time, hended⟩

/-- **A whole run** follows the course of a closing that is not dropped. -/
theorem Course.run {entries : List (String × Nat)}
    (h : Course entries id (SizeAtEnd id s []) [] s) (hclosed : s.registry.closed = true)
    (honly : OnlyClosing (· = id) s) {actions : List (Action δ)} (hkept : .drop id ∉ actions) :
    Course entries id (SizeAtEnd id s actions) (observed (fun _ => closeCalls) s actions)
        (s.run actions) ∧
      (s.run actions).registry.closed = true ∧ OnlyClosing (· = id) (s.run actions) := by
  induction actions using List.reverseRecOn with
  | nil => exact ⟨h, hclosed, honly⟩
  | append_singleton actions a ih =>
      obtain ⟨hcourse, hclosed, honly⟩ := ih fun hmem => hkept (List.mem_append_left _ hmem)
      have ha : a ≠ .drop id := by
        rintro rfl
        exact hkept (by simp)
      have hrun : s.run (actions ++ [a]) = (s.run actions).act a := by
        rw [Service.run, List.foldl_append]
        rfl
      have hlast : observed (fun _ => closeCalls) (s.run actions) [a] =
          changes closeCalls (s.run actions).tasks ((s.run actions).act a).tasks :=
        List.append_nil _
      rw [hrun, observed_append, hlast]
      refine ⟨?_, act_closed_of_closed hclosed a, honly.act fun _ _ => hclosed⟩
      refine hcourse.act honly ha (fun size => SizeAtEnd.snoc) fun time outcome hbefore hafter => ?_
      exact ⟨actions, a, time, outcome, List.prefix_refl _, hbefore, hafter, rfl⟩

/-! ## All closes of a run -/

/-- What the first closing of a registry does: after `before` it began in `s` as task `id`,
with what is held in this order, after `after` it is where `t` shows it, and these were all
the closes. -/
structure ClosesOnce (start s t : Service δ Env) (before after : List (Action δ))
    (order : List (String × Nat)) (id : Nat) (calls : List CloseCall) : Prop where
  /-- What is closed is what was held in the beginning, one entry after another. -/
  inTurn : calls.map CloseCall.entry <+: order
  /-- Each close is begun when those before it have ended, and its answer is the one that the
  dependency gives when it is closed then. -/
  own : ∀ earlier x later, calls = earlier ++ x :: later → ∃ first a rest,
    after = first ++ a :: rest ∧
      observed (fun _ => closeCalls) (s.act (.beginClosing order)) first = earlier ∧
      BeginsClose ((s.act (.beginClosing order)).run first) a x ∧
      ∀ y ∈ earlier, CloseCall.EndedBy ((s.act (.beginClosing order)).run first).now y
  /-- A handle that is closed is closed once. -/
  counted : ∀ k, (t.tallyOf k).closes = if k ∈ calls.map (·.2.1) then 1 else 0
  /-- What was not held in the beginning is not closed. -/
  spared : ∀ k, k ∉ s.registry.all.map (·.2) → (t.tallyOf k).closes = 0
  /-- What was handed back before is not closed. -/
  replaced : ∀ first name dependency rest k, before = first ++ .register name dependency :: rest →
    ((start.run first).register name dependency).1 = some k → (t.tallyOf k).closes = 0
  /-- What was registered since is not closed. -/
  registered : ∀ k, s.handles.length ≤ k → (t.tallyOf k).closes = 0
  /-- No name is taken out, and what is held under it stays until it is registered again. -/
  kept : ∀ name, (s.registry.get? name).isSome = true → (t.registry.get? name).isSome = true
  held : ∀ name, (∀ dependency, .register name dependency ∉ after) →
    t.registry.get? name = s.registry.get? name
  /-- A closing that is begun later has ended at once, and does nothing. -/
  again : ∀ order', t.act (.beginClosing order') =
    { t with tasks := t.tasks ++ [.ended t.now .closed] }
  /-- The first closing is under way or has returned. -/
  lasts : (∃ c, t.tasks[id]? = some (.running none (.closing c))) ∨
    ∃ time, t.tasks[id]? = some (.ended time .closed)
  /-- When it has returned every entry was closed, and told of, whether it failed or not. -/
  returned : ∀ time, t.tasks[id]? = some (.ended time .closed) →
    calls.map CloseCall.entry = order ∧ (∀ x ∈ calls, CloseCall.EndedBy time x) ∧
      ∃ size, SizeAtEnd id (s.act (.beginClosing order)) after size ∧
        t.told .closing = calls.map CloseCall.event ++
          [.registryClosed size (calls.countP CloseCall.failed)]
  /-- It does return if every handle answers. -/
  returns : CloseAnswers δ → ∃ more : List (Action δ), (∀ a ∈ more, a.IsOwn) ∧
    ∃ time, (t.run more).tasks[id]? = some (.ended time .closed)

omit [Dependency δ Env] in
/-- The calls of a closing are on a first part of its entries. -/
theorem Course.calls_prefix {entries : List (String × Nat)} {sizes : Nat → Prop}
    {calls : List CloseCall} (h : Course entries id sizes calls s) :
    calls.map CloseCall.entry <+: entries := by
  cases h with
  | closing hid hentries => exact ⟨_, hentries.symm⟩
  | closed hid hentries => exact ⟨[], by rw [hentries, List.append_nil]⟩

omit [Dependency δ Env] in
/-- A closing that is not dropped is under way or has returned. -/
theorem Course.lasts {entries : List (String × Nat)} {sizes : Nat → Prop}
    {calls : List CloseCall} (h : Course entries id sizes calls s) :
    (∃ c, s.tasks[id]? = some (.running none (.closing c))) ∨
      ∃ time, s.tasks[id]? = some (.ended time .closed) := by
  cases h with
  | closing hid => exact .inl ⟨_, hid⟩
  | closed hid => exact .inr ⟨_, hid⟩

/-- In a run whose first closing is not dropped, the closes are those of its course. -/
theorem Untouched.closes {start : Service δ Env} {before : List (Action δ)}
    (huntouched : start.Untouched) (hzero : ∀ k, (start.tallyOf k).closes = 0)
    (hfirst : ∀ order, .beginClosing order ∉ before) (order : List (String × Nat))
    (after : List (Action δ)) (k : Nat) :
    let s := start.run before
    let t := (s.act (.beginClosing order)).run after
    observed (fun _ => closeCalls) start (before ++ .beginClosing order :: after) =
        observed (fun _ => closeCalls) (s.act (.beginClosing order)) after ∧
      (t.tallyOf k).closes =
        ((observed (fun _ => closeCalls) (s.act (.beginClosing order)) after).map
          (·.2.1)).count k := by
  intro s t
  have hcalls : observed (fun _ => closeCalls) start (before ++ .beginClosing order :: after) =
      observed (fun _ => closeCalls) (s.act (.beginClosing order)) after := by
    rw [observed_append, (huntouched.run hfirst).2, List.nil_append, observed,
      closeCalls_ofMoves.act (by simp), List.nil_append]
  have hrun : t = start.run (before ++ .beginClosing order :: after) := by
    rw [Service.run, List.foldl_append]
    rfl
  refine ⟨hcalls, ?_⟩
  rw [hrun, run_closes, hzero, Nat.zero_add, hcalls, List.count, List.countP_map]
  rfl

/-- Each close of a closing has an action of its own. -/
theorem Course.own {entries : List (String × Nat)}
    (h : Course entries id (SizeAtEnd id s []) [] s) (hclosed : s.registry.closed = true)
    (honly : OnlyClosing (· = id) s) {actions : List (Action δ)} (hkept : .drop id ∉ actions)
    {earlier later : List CloseCall} {x : CloseCall}
    (hcalls : observed (fun _ => closeCalls) s actions = earlier ++ x :: later) :
    ∃ first a rest, actions = first ++ a :: rest ∧
      observed (fun _ => closeCalls) s first = earlier ∧ BeginsClose (s.run first) a x ∧
      ∀ y ∈ earlier, CloseCall.EndedBy (s.run first).now y := by
  obtain ⟨first, a, rest, before, after, rfl, rfl, hchanges⟩ := observed_split hcalls
  have hkept' : .drop id ∉ first := fun hmem => hkept (List.mem_append_left _ hmem)
  obtain ⟨hcourse, _, honly'⟩ := h.run hclosed honly hkept'
  obtain ⟨rfl, hbegins, hended⟩ := hcourse.begins honly' hchanges
  rw [List.append_nil]
  exact ⟨first, a, rest, rfl, rfl, hbegins, hended⟩

/-- **Every handle is closed once.**  Take any run whose first closing is not dropped. -/
theorem closes_once (env : Env) (prober : Prober) (interval upBefore : Nat)
    (metrics : Option Metrics) {before after : List (Action δ)} {order : List (String × Nat)}
    (hfirst : ∀ other, .beginClosing other ∉ before)
    (horder : order.Perm
      ((new env prober interval upBefore metrics : Service δ Env).run before).registry.all)
    (hkept : .drop ((new env prober interval upBefore metrics).run before).tasks.length ∉ after) :
    ClosesOnce (new env prober interval upBefore metrics)
      ((new env prober interval upBefore metrics).run before)
      ((((new env prober interval upBefore metrics).run before).act (.beginClosing order)).run
        after)
      before after order ((new env prober interval upBefore metrics).run before).tasks.length
      (observed (fun _ => closeCalls) (new env prober interval upBefore metrics)
        (before ++ .beginClosing order :: after)) := by
  have huntouched := Untouched.new (δ := δ) env prober interval upBefore metrics
  have hheld := HeldApart.new (δ := δ) env prober interval upBefore metrics
  have hreachable := Reachable.new (δ := δ) env prober interval upBefore metrics
  have hzero : ∀ k, ((new env prober interval upBefore metrics : Service δ Env).tallyOf k).closes =
      0 := fun _ => rfl
  generalize (new env prober interval upBefore metrics : Service δ Env) = start at *
  have hbefore := (huntouched.run hfirst).1
  have hcloses := huntouched.closes hzero hfirst order after
  obtain ⟨hbegin, hclosing, honly⟩ := hbefore.begin horder
  obtain ⟨hcourse, hclosed, _⟩ := hbegin.run hclosing honly hkept
  rw [(hcloses 0).1]
  replace hcloses := fun k => (hcloses k).2
  have hapart := hheld.run before
  generalize hcalls : observed (fun _ => closeCalls)
    ((start.run before).act (.beginClosing order)) after = calls at hcourse hcloses ⊢
  -- The handles that are closed are among those that were held.
  have hhandles : (calls.map (·.2.1)) <+: order.map (·.2) := by
    have hmapped := hcourse.calls_prefix.map (·.2)
    rwa [List.map_map] at hmapped
  have hsame : (order.map (·.2)).Perm ((start.run before).registry.all.map (·.2)) := horder.map _
  have hspared : ∀ k, k ∉ (start.run before).registry.all.map (·.2) →
      ((((start.run before).act (.beginClosing order)).run after).tallyOf k).closes = 0 := by
    intro k hk
    rw [hcloses k]
    exact List.count_eq_zero.mpr fun hmem => hk (hsame.subset (hhandles.subset hmem))
  constructor
  case inTurn => exact hcourse.calls_prefix
  case own =>
    intro earlier x later hsplit
    exact hbegin.own hclosing honly hkept (hcalls.trans hsplit)
  case counted =>
    intro k
    rw [hcloses k]
    exact List.Nodup.count (hhandles.sublist.nodup (hsame.nodup_iff.mpr hapart.nodup))
  case spared => exact hspared
  case replaced =>
    intro first name dependency rest k hsplit hold
    have hrun : start.run before =
        ((start.run first).register name dependency).2.run rest := by
      rw [hsplit, Service.run, List.foldl_append]
      rfl
    have hfree := ((hheld.run first).givenBack hold).run rest
    rw [← hrun] at hfree
    refine hspared k fun hmem => ?_
    obtain ⟨e, he, heq⟩ := List.mem_map.mp hmem
    exact hfree.free e he heq
  case registered =>
    intro k hk
    refine hspared k fun hmem => ?_
    obtain ⟨e, he, rfl⟩ := List.mem_map.mp hmem
    exact absurd (hapart.lt e he) (Nat.not_lt_of_le hk)
  case kept =>
    intro name hname
    exact run_get?_isSome hname (.beginClosing order :: after)
  case held =>
    intro name hname
    have hnever : ∀ dependency, .register name dependency ∉ .beginClosing order :: after :=
      fun dependency => by simpa using hname dependency
    exact run_get? (start.run before) hnever
  case again => exact beginClosing_again hclosed
  case lasts => exact hcourse.lasts
  case returned =>
    intro time hended
    cases hcourse with
    | closing hid => cases hended.symm.trans hid
    | closed hid hentries htold hends hsize =>
        cases hended.symm.trans hid
        exact ⟨hentries, hends, _, hsize, htold⟩
  case returns =>
    exact fun hanswers => hbefore.returns (hreachable.run before).sound hanswers horder hkept

/-- Two dependencies of which one fails when it is closed, and not at once. -/
def registerTwo : List (Action Scripted) :=
  [.register "cache" (.ofLists [] [.after 5 (.error .closed)] none),
    .register "db" (.ofLists [] [] none)]

/-- The order in which they are closed. -/
def laterFirst : List (String × Nat) := [("db", 1), ("cache", 0)]

/-- A closing that goes on when a second one has ended, and returns. -/
def closeTwo : List (Action Scripted) :=
  [.move 0 .whole, .move 0 .whole, .move 0 .whole, .beginClosing laterFirst, .pass 5,
    .move 0 .whole, .move 0 .whole]

theorem two_close_once :
    ((∀ other, .beginClosing other ∉ registerTwo) ∧
        laterFirst.Perm
          ((new () .standard 1000 0 none : Service Scripted Unit).run registerTwo).registry.all ∧
        .drop ((new () .standard 1000 0 none).run registerTwo).tasks.length ∉ closeTwo) ∧
      ClosesOnce (new () .standard 1000 0 none) ((new () .standard 1000 0 none).run registerTwo)
        ((((new () .standard 1000 0 none).run registerTwo).act (.beginClosing laterFirst)).run
          closeTwo)
        registerTwo closeTwo laterFirst
        ((new () .standard 1000 0 none).run registerTwo).tasks.length
        (observed (fun _ => closeCalls) (new () .standard 1000 0 none)
          (registerTwo ++ .beginClosing laterFirst :: closeTwo)) := by
  have hfirst : ∀ other, .beginClosing other ∉ registerTwo := by simp [registerTwo]
  have horder : laterFirst.Perm
      ((new () .standard 1000 0 none : Service Scripted Unit).run registerTwo).registry.all := by
    decide
  have hkept : .drop ((new () .standard 1000 0 none).run registerTwo).tasks.length ∉ closeTwo := by
    simp [closeTwo]
  exact ⟨⟨hfirst, horder, hkept⟩, closes_once () .standard 1000 0 none hfirst horder hkept⟩

/-- Both are closed in this run, each once. -/
example :
    ((((new () .standard 1000 0 none).run registerTwo).act (.beginClosing laterFirst)).run
      closeTwo).handles.map (·.tally.closes) = [1, 1] := by decide

end Service

end HealthWatch
