import HealthWatch.Registry.Cell
import Mathlib.Data.List.Induction

/-!
# Histories of a cell

A history is what happened to a cell since it was empty: callers came, initializers
ended, callers were dropped.  `Happens` says which histories there are.  A caller
comes once, only the initializer that runs can end, and only a caller that still
waits for its answer can be dropped; the order is arbitrary otherwise.

`InOrder` is the invariant of a history.  It compares the permit, the line and the
answers of the cell with what happened: the callers that came and were not dropped
are those that were answered, then the one whose initializer runs, then those in
line, all in the order in which they came.
-/

namespace HealthWatch.Cell

variable {α ε : Type}

/-! ## What happened -/

/-- What happened to a cell, whatever the cell made of it. -/
structure Past (α ε : Type) where
  /-- The callers that came, the first one first. -/
  arrivals : List Nat
  drops : List Nat
  /-- The callers whose initializers failed, with their errors. -/
  failures : List (Nat × ε)
  /-- The callers whose initializers succeeded, with their values. -/
  successes : List (Nat × α)

namespace Past

/-- Nothing happened. -/
def none : Past α ε := ⟨[], [], [], []⟩

/-- One more thing happens. -/
def add (p : Past α ε) : Action α ε → Past α ε
  | .arrive i => { p with arrivals := p.arrivals ++ [i] }
  | .finish i (.error e) => { p with failures := p.failures ++ [(i, e)] }
  | .finish i (.ok v) => { p with successes := p.successes ++ [(i, v)] }
  | .drop i => { p with drops := p.drops ++ [i] }

/-- The callers that came and were not dropped, the first one first. -/
def stayed (p : Past α ε) : List Nat := p.arrivals.filter fun i => !p.drops.contains i

end Past

/-- What happened in a history. -/
def past (actions : List (Action α ε)) : Past α ε := actions.foldl Past.add .none

/-- The cell after a history. -/
def run (actions : List (Action α ε)) : Cell α ε := actions.foldl act empty

/-- The callers that wait for their answers: the one whose initializer runs, and
those in line. -/
def pending (c : Cell α ε) : List Nat := c.running.toList ++ c.line

/-- Whether something can happen next. -/
def Allowed (p : Past α ε) (c : Cell α ε) : Action α ε → Prop
  | .arrive i => i ∉ p.arrivals
  | .finish i _ => c.running = some i
  | .drop i => i ∈ c.pending

instance (p : Past α ε) (c : Cell α ε) (a : Action α ε) : Decidable (Allowed p c a) :=
  match a with
  | .arrive i => inferInstanceAs (Decidable (i ∉ p.arrivals))
  | .finish i _ => inferInstanceAs (Decidable (c.running = some i))
  | .drop i => inferInstanceAs (Decidable (i ∈ c.pending))

/-- Everything in a history could happen when it did. -/
def Happens (actions : List (Action α ε)) : Prop :=
  ∀ before a, before ++ [a] <+: actions → Allowed (past before) (run before) a

theorem past_snoc (actions : List (Action α ε)) (a : Action α ε) :
    past (actions ++ [a]) = (past actions).add a := by
  rw [past, List.foldl_append]
  rfl

theorem run_snoc (actions : List (Action α ε)) (a : Action α ε) :
    run (actions ++ [a]) = (run actions).act a := by
  rw [run, List.foldl_append]
  rfl

theorem Happens.nil : Happens ([] : List (Action α ε)) := by
  intro before a hbegins
  simp at hbegins

theorem Happens.snoc {actions : List (Action α ε)} {a : Action α ε} (h : Happens actions)
    (ha : Allowed (past actions) (run actions) a) : Happens (actions ++ [a]) := by
  intro before b hbegins
  rcases List.prefix_concat_iff.mp hbegins with heq | hbegins
  · obtain ⟨rfl, hb⟩ := List.append_inj' heq rfl
    cases hb
    exact ha
  · exact h before b hbegins

theorem Happens.of_prefix {before actions : List (Action α ε)} (h : Happens actions)
    (hbegins : before <+: actions) : Happens before :=
  fun earlier a hearlier => h earlier a (hearlier.trans hbegins)

/-- Histories grow one action at a time. -/
theorem happens_snoc_iff {actions : List (Action α ε)} {a : Action α ε} :
    Happens (actions ++ [a]) ↔ Happens actions ∧ Allowed (past actions) (run actions) a :=
  ⟨fun h => ⟨h.of_prefix (List.prefix_append _ _), h actions a (List.prefix_refl _)⟩,
    fun h => h.1.snoc h.2⟩

/-- One looks at each action of a history to see whether it happens. -/
theorem happens_iff {actions : List (Action α ε)} : Happens actions ↔ ∀ n : Fin actions.length,
    Allowed (past (actions.take n)) (run (actions.take n)) actions[n] := by
  constructor
  · intro h n
    refine h _ _ ?_
    rw [Fin.getElem_fin, List.take_append_getElem n.isLt]
    exact List.take_prefix _ _
  · rintro h before a ⟨after, rfl⟩
    have hn := h ⟨before.length, by simp⟩
    simpa using hn

instance (actions : List (Action α ε)) : Decidable (Happens actions) :=
  decidable_of_iff _ happens_iff.symm

/-! ## The permit is handed on -/

section Next

variable (c : Cell α ε)

@[simp] theorem next_value : c.next.value = c.value := by
  unfold next
  split <;> rfl

@[simp] theorem next_answers : c.next.answers = c.answers := by
  unfold next
  split <;> rfl

/-- The next one in line gets the permit. -/
@[simp] theorem next_pending : c.next.pending = c.line := by
  unfold next
  split
  · next hline => simp [pending, hline]
  · next i rest hline => simp [pending, hline]

/-- Who is in line comes after who was started. -/
@[simp] theorem next_started_line :
    c.next.started ++ c.next.line = c.started ++ c.line := by
  unfold next
  split
  · rfl
  · next i rest hline => simp [hline]

/-- Nobody is in line if nobody could be given the permit. -/
theorem next_idle (h : c.next.running = none) : c.next.line = [] := by
  unfold next at h ⊢
  split
  · next hline => exact hline
  · next i rest hline => simp [hline] at h

/-- Nobody is forgotten who was started, and whoever has the permit was started. -/
theorem mem_next_started {i : Nat} :
    i ∈ c.next.started ↔ i ∈ c.started ∨ c.next.running = some i := by
  unfold next
  split
  · next hline => simp
  · next j rest hline => simp [eq_comm]

end Next

/-! ## The invariant -/

/-- How failures, successes, the value and the answers of a cell belong together:
those who failed have got their errors, and from the first success on everybody has got
its value. -/
inductive Outcomes : List (Nat × ε) → List (Nat × α) → Option α → List (Nat × Except ε α) → Prop
  | failing (errors : List (Nat × ε)) :
      Outcomes errors [] none (errors.map fun x => (x.1, .error x.2))
  | filled (errors : List (Nat × ε)) (winner : Nat) (v : α) (others : List Nat) :
      Outcomes errors [(winner, v)] (some v)
        (errors.map (fun x => (x.1, .error x.2)) ++ (winner :: others).map fun i => (i, .ok v))

/-- A full cell answers with its value. -/
theorem Outcomes.answer {errors : List (Nat × ε)} {winners : List (Nat × α)} {v : α}
    {answers : List (Nat × Except ε α)} (h : Outcomes errors winners (some v) answers) (i : Nat) :
    Outcomes errors winners (some v) (answers ++ [(i, .ok v)]) := by
  cases h with
  | filled winner _ others =>
      have h := Outcomes.filled errors winner v (others ++ [i])
      rw [← List.cons_append, List.map_append, ← List.append_assoc] at h
      exact h

/-- A failure is answered with its error. -/
theorem Outcomes.fail {errors : List (Nat × ε)} {winners : List (Nat × α)}
    {answers : List (Nat × Except ε α)} (h : Outcomes errors winners none answers) (i : Nat)
    (e : ε) : Outcomes (errors ++ [(i, e)]) winners none (answers ++ [(i, .error e)]) := by
  cases h with
  | failing =>
      have h := Outcomes.failing (α := α) (errors ++ [(i, e)])
      rw [List.map_append] at h
      exact h

/-- The first success answers everybody. -/
theorem Outcomes.fill {errors : List (Nat × ε)} {winners : List (Nat × α)}
    {answers : List (Nat × Except ε α)} (h : Outcomes errors winners none answers) (i : Nat)
    (v : α) (others : List Nat) : Outcomes errors (winners ++ [(i, v)]) (some v)
      (answers ++ (i :: others).map fun j => (j, .ok v)) := by
  cases h with
  | failing => exact .filled errors i v others

/-- A cell that served its callers in the order in which they came. -/
structure InOrder (p : Past α ε) (c : Cell α ε) : Prop where
  arrivals_nodup : p.arrivals.Nodup
  drops_subset : ∀ i ∈ p.drops, i ∈ p.arrivals
  stayed_eq : p.stayed = c.answers.map Prod.fst ++ c.pending
  starts : (c.started ++ c.line).Sublist p.arrivals
  idle : c.running = none → c.line = []
  full : c.value.isSome = true → c.pending = []
  running_started : ∀ i, c.running = some i → i ∈ c.started
  fate : ∀ i ∈ c.started, c.running = some i ∨ i ∈ p.drops ∨
    (∃ e, (i, e) ∈ p.failures) ∨ ∃ v, (i, v) ∈ p.successes
  outcomes : Outcomes p.failures p.successes c.value c.answers

namespace InOrder

variable {p : Past α ε} {c : Cell α ε} {i : Nat}

theorem empty : InOrder .none (empty : Cell α ε) where
  arrivals_nodup := .nil
  drops_subset := by simp [Past.none]
  stayed_eq := rfl
  starts := .slnil
  idle := fun _ => rfl
  full := fun _ => rfl
  running_started := by simp [Cell.empty]
  fate := by simp [Cell.empty]
  outcomes := .failing []

/-- Every caller is served at most once. -/
theorem nodup (h : InOrder p c) : (c.answers.map Prod.fst ++ c.pending).Nodup :=
  h.stayed_eq ▸ h.arrivals_nodup.filter _

theorem stayed_arrive (h : InOrder p c) (hnew : i ∉ p.arrivals) :
    (p.add (.arrive i)).stayed = p.stayed ++ [i] := by
  have hdrop : i ∉ p.drops := fun hi => hnew (h.drops_subset i hi)
  simp [Past.stayed, Past.add, hdrop]

/-- A caller that comes is answered at once, or starts, or is the last one in line. -/
theorem arrive (h : InOrder p c) (hnew : i ∉ p.arrivals) :
    InOrder (p.add (.arrive i)) (c.arrive i) := by
  have harrivals : (p.arrivals ++ [i]).Nodup :=
    List.nodup_append.mpr ⟨h.arrivals_nodup, by simp, by grind⟩
  have hdrops : ∀ j ∈ p.drops, j ∈ p.arrivals ++ [i] :=
    fun j hj => List.mem_append_left _ (h.drops_subset j hj)
  have hstayed := h.stayed_arrive hnew
  rw [h.stayed_eq] at hstayed
  have hstarts := h.starts.append (List.Sublist.refl [i])
  unfold Cell.arrive
  split
  · next v _ hvalue =>
    have hpending := h.full (by simp [hvalue])
    refine ⟨harrivals, hdrops, ?_, h.starts.trans (List.sublist_append_left _ _), h.idle,
      fun _ => hpending, h.running_started, h.fate, ?_⟩
    · rw [hpending, List.append_nil] at hstayed
      rw [hstayed, List.map_append, List.append_assoc]
      exact congrArg _ (congrArg _ hpending.symm)
    · exact hvalue ▸ (hvalue ▸ h.outcomes).answer i
  · next hvalue hrunning =>
    have hline := h.idle hrunning
    rw [hline] at hstarts
    refine ⟨harrivals, hdrops, ?_, ?_, by simp, ?_, ?_, ?_, h.outcomes⟩
    · simpa [pending, hline, hrunning] using hstayed
    · simpa [hline, Past.add] using hstarts
    · simp [hvalue]
    · simp
    · intro j hj
      rcases List.mem_append.mp hj with hj | hj
      · exact .inr ((h.fate j hj).resolve_left (by simp [hrunning]))
      · exact .inl (congrArg some (List.mem_singleton.mp hj).symm)
  · next j hvalue hrunning =>
    refine ⟨harrivals, hdrops, ?_, ?_, ?_, ?_, h.running_started, h.fate, h.outcomes⟩
    · simpa [pending, hrunning] using hstayed
    · simpa [Past.add] using hstarts
    · simp [hrunning]
    · simp [hvalue]

/-- An initializer that runs ends before there is a value. -/
theorem value_eq_none (h : InOrder p c) (hpending : i ∈ c.pending) : c.value = none := by
  cases hvalue : c.value with
  | none => rfl
  | some v =>
      rw [h.full (by simp [hvalue])] at hpending
      cases hpending

/-- The permit is handed on in order if everybody who had it is done. -/
theorem handOn (harrivals : p.arrivals.Nodup) (hdrops : ∀ i ∈ p.drops, i ∈ p.arrivals)
    (hstayed : p.stayed = c.answers.map Prod.fst ++ c.line)
    (hstarts : (c.started ++ c.line).Sublist p.arrivals) (hvalue : c.value = none)
    (hdone : ∀ i ∈ c.started, i ∈ p.drops ∨
      (∃ e, (i, e) ∈ p.failures) ∨ ∃ v, (i, v) ∈ p.successes)
    (houtcomes : Outcomes p.failures p.successes c.value c.answers) : InOrder p c.next where
  arrivals_nodup := harrivals
  drops_subset := hdrops
  stayed_eq := by rw [next_answers, next_pending, hstayed]
  starts := by rwa [next_started_line]
  idle := c.next_idle
  full := by simp [hvalue]
  running_started := fun i hi => c.mem_next_started.mpr (.inr hi)
  fate := fun i hi => (c.mem_next_started.mp hi).elim (fun hi => .inr (hdone i hi)) .inl
  outcomes := by rwa [next_value, next_answers]

/-- An initializer that fails leaves the cell empty and hands the permit on; one that
succeeds fills it. -/
theorem finish (h : InOrder p c) (hrunning : c.running = some i) (outcome : Except ε α) :
    InOrder (p.add (.finish i outcome)) (c.finish i outcome) := by
  have hvalue := h.value_eq_none (i := i) (by simp [pending, hrunning])
  have hstayed := h.stayed_eq
  have houtcomes := hvalue ▸ h.outcomes
  simp only [pending, hrunning, Option.toList, List.singleton_append] at hstayed
  simp only [Cell.finish, if_pos hrunning]
  cases outcome with
  | error e =>
      refine handOn h.arrivals_nodup h.drops_subset ?_ h.starts hvalue ?_ ?_
      · rw [List.map_append, List.append_assoc]
        exact hstayed
      · intro j hj
        rcases h.fate j hj with hj | hj | ⟨e', hj⟩ | hj
        · obtain rfl : i = j := Option.some.inj (hrunning.symm.trans hj)
          exact .inr (.inl ⟨e, List.mem_append_right _ List.mem_cons_self⟩)
        · exact .inl hj
        · exact .inr (.inl ⟨e', List.mem_append_left _ hj⟩)
        · exact .inr (.inr hj)
      · exact hvalue ▸ houtcomes.fail i e
  | ok v =>
      refine ⟨h.arrivals_nodup, h.drops_subset, ?_, ?_, fun _ => rfl, fun _ => rfl, by simp, ?_,
        houtcomes.fill i v c.line⟩
      · have hsame : (p.add (.finish i (.ok v))).stayed = p.stayed := rfl
        rw [hsame, hstayed]
        simp [pending, Function.comp_def]
      · rw [List.append_nil]
        exact (List.sublist_append_left _ _).trans h.starts
      · intro j hj
        rcases h.fate j hj with hj | hj | hj | ⟨v', hj⟩
        · obtain rfl : i = j := Option.some.inj (hrunning.symm.trans hj)
          exact .inr (.inr (.inr ⟨v, List.mem_append_right _ List.mem_cons_self⟩))
        · exact .inr (.inl hj)
        · exact .inr (.inr (.inl hj))
        · exact .inr (.inr (.inr ⟨v', List.mem_append_left _ hj⟩))

/-- Who is dropped leaves the others in order. -/
theorem stayed_drop (h : InOrder p c) (hpending : i ∈ c.pending) :
    (p.add (.drop i)).stayed = c.answers.map Prod.fst ++ c.pending.filter (· != i) := by
  have hanswers : i ∉ c.answers.map Prod.fst :=
    fun hi => (List.nodup_append.mp h.nodup).2.2 i hi i hpending rfl
  have hfilter : (p.add (.drop i)).stayed = p.stayed.filter (· != i) := by
    rw [Past.stayed, Past.stayed, List.filter_filter]
    refine List.filter_congr fun j _ => ?_
    by_cases hj : j = i <;> simp [Past.add, hj]
  rw [hfilter, h.stayed_eq, List.filter_append]
  refine congrArg (· ++ _) (List.filter_eq_self.mpr fun j hj => ?_)
  exact bne_iff_ne.mpr fun heq => hanswers (heq ▸ hj)

/-- Whoever is dropped leaves the line, or hands the permit on. -/
theorem drop (h : InOrder p c) (hpending : i ∈ c.pending) :
    InOrder (p.add (.drop i)) (c.drop i) := by
  have hvalue := h.value_eq_none hpending
  have hstayed := h.stayed_drop hpending
  have hdrops : ∀ j ∈ p.drops ++ [i], j ∈ p.arrivals := by
    intro j hj
    rcases List.mem_append.mp hj with hj | hj
    · exact h.drops_subset j hj
    · have hi : i ∈ p.stayed := h.stayed_eq ▸ List.mem_append_right _ hpending
      exact List.mem_singleton.mp hj ▸ (List.mem_filter.mp hi).1
  have hfate : ∀ j ∈ c.started, c.running = some j ∨ j ∈ p.drops ++ [i] ∨
      (∃ e, (j, e) ∈ p.failures) ∨ ∃ v, (j, v) ∈ p.successes :=
    fun j hj => (h.fate j hj).imp_right fun hj => hj.imp_left (List.mem_append_left _)
  unfold Cell.drop
  split
  · next hrunning =>
    have hnodup := (List.nodup_append.mp h.nodup).2.1
    simp only [pending, hrunning, Option.toList, List.singleton_append] at hstayed hnodup
    refine handOn h.arrivals_nodup hdrops ?_ h.starts hvalue ?_ h.outcomes
    · have hline : c.line.filter (· != i) = c.line :=
        List.filter_eq_self.mpr fun j hj => bne_iff_ne.mpr fun heq =>
          (List.nodup_cons.mp hnodup).1 (heq ▸ hj)
      rw [hstayed, List.filter_cons_of_neg (by simp), hline]
    · intro j hj
      refine (hfate j hj).elim (fun hj => ?_) id
      obtain rfl : i = j := Option.some.inj (hrunning.symm.trans hj)
      exact .inl (List.mem_append_right _ List.mem_cons_self)
  · next hrunning =>
    have hpermit : c.running.toList.filter (· != i) = c.running.toList := by
      refine List.filter_eq_self.mpr fun j hj => bne_iff_ne.mpr fun heq => hrunning ?_
      exact heq ▸ Option.mem_toList.mp hj
    refine ⟨h.arrivals_nodup, hdrops, ?_, ?_, fun hidle => ?_, ?_, h.running_started, hfate,
      h.outcomes⟩
    · rw [hstayed, pending, List.filter_append, hpermit]
      rfl
    · exact ((List.Sublist.refl _).append List.filter_sublist).trans h.starts
    · rw [h.idle hidle]
      rfl
    · simp [hvalue]

theorem act {a : Action α ε} (h : InOrder p c) (ha : Allowed p c a) :
    InOrder (p.add a) (c.act a) := by
  cases a with
  | arrive i => exact h.arrive ha
  | finish i outcome => exact h.finish ha outcome
  | drop i => exact h.drop ha

end InOrder

/-- **Every history.**  A cell serves its callers in order, whatever happens. -/
theorem Happens.inOrder {actions : List (Action α ε)} (h : Happens actions) :
    InOrder (past actions) (run actions) := by
  induction actions using List.reverseRecOn with
  | nil => exact .empty
  | append_singleton actions a ih =>
      obtain ⟨hbefore, ha⟩ := happens_snoc_iff.mp h
      rw [past_snoc, run_snoc]
      exact (ih hbefore).act ha

end HealthWatch.Cell
