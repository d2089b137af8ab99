import HealthWatch.Proofs.CellHistory

/-!
# The first success serves everyone

Whatever happens to a cell, its callers get what they would get if their initializers
ran one after another, in the order in which the callers came, until the first success
(`inTurn`).  `ServesInTurn` says this together with what it leaves open: that only one
initializer runs at a time and none is started once there is a value.

All of it follows from the invariant `InOrder` of a history.  At the end, callers that
come, take their time and are dropped at given times are seen to make up such a history
(`Timed.exists_history`).
-/

namespace HealthWatch.Cell

variable {α ε : Type}

/-- What callers get whose initializers run one after another until the first success. -/
def inTurn (outcome : Nat → Except ε α) : List Nat → List (Nat × Except ε α)
  | [] => []
  | i :: rest =>
    match outcome i with
    | .ok v => (i :: rest).map fun j => (j, .ok v)
    | .error e => (i, .error e) :: inTurn outcome rest

/-- Whether initializers ended as they do according to `outcome`. -/
structure Agrees (outcome : Nat → Except ε α) (p : Past α ε) : Prop where
  failures : ∀ x ∈ p.failures, outcome x.1 = .error x.2
  successes : ∀ x ∈ p.successes, outcome x.1 = .ok x.2

/-- Whether the initializer of a caller runs: it was started and has not ended, and the
caller was not dropped. -/
structure Runs (actions : List (Action α ε)) (i : Nat) : Prop where
  started : i ∈ (run actions).started
  not_failed : ∀ e, (i, e) ∉ (past actions).failures
  not_succeeded : ∀ v, (i, v) ∉ (past actions).successes
  not_dropped : i ∉ (past actions).drops

/-! ## Outcomes and answers -/

/-- Failures go to those who failed, and the others have their turns. -/
theorem inTurn_failures {outcome : Nat → Except ε α} {errors : List (Nat × ε)}
    (herrors : ∀ x ∈ errors, outcome x.1 = .error x.2) (rest : List Nat) :
    inTurn outcome (errors.map Prod.fst ++ rest) =
      errors.map (fun x => (x.1, .error x.2)) ++ inTurn outcome rest := by
  induction errors with
  | nil => rfl
  | cons x errors ih =>
      obtain ⟨hx, hrest⟩ := List.forall_mem_cons.mp herrors
      rw [List.map_cons, List.cons_append, inTurn, hx, ih hrest]
      rfl

namespace Outcomes

variable {errors : List (Nat × ε)} {winners : List (Nat × α)} {value : Option α}
  {answers : List (Nat × Except ε α)}

theorem error_mem_iff (h : Outcomes errors winners value answers) {i : Nat} {e : ε} :
    (i, .error e) ∈ answers ↔ (i, e) ∈ errors := by
  cases h with
  | failing => simp
  | filled winner v others => simp

theorem value_iff (h : Outcomes errors winners value answers) {v : α} :
    value = some v ↔ ∃ w, (w, v) ∈ winners := by
  cases h with
  | failing => simp
  | filled winner v' others => simp [eq_comm]

theorem ok_mem (h : Outcomes errors winners value answers) {i : Nat} {v : α}
    (hi : (i, .ok v) ∈ answers) : ∃ w, winners = [(w, v)] := by
  cases h with
  | failing => simp at hi
  | filled winner v' others =>
      obtain rfl : v' = v := by
        simp only [List.mem_append, List.mem_map] at hi
        rcases hi with ⟨_, _, heq⟩ | ⟨_, _, heq⟩
        · cases heq
        · cases heq
          rfl
      exact ⟨winner, rfl⟩

theorem winners_eq (h : Outcomes errors winners value answers) :
    winners = [] ∨ ∃ w v, winners = [(w, v)] := by
  cases h with
  | failing => exact .inl rfl
  | filled winner v others => exact .inr ⟨winner, v, rfl⟩

theorem winner_mem (h : Outcomes errors winners value answers) {w : Nat} {v : α}
    (hw : (w, v) ∈ winners) : (w, .ok v) ∈ answers := by
  cases h with
  | failing => cases hw
  | filled winner v' others =>
      cases List.mem_singleton.mp hw
      simp

/-- The winner is answered after those who failed and before everybody else. -/
theorem answered_eq (h : Outcomes errors winners value answers) {w : Nat} {v : α}
    (hw : (w, v) ∈ winners) :
    ∃ others, answers.map Prod.fst = errors.map Prod.fst ++ w :: others := by
  cases h with
  | failing => cases hw
  | filled winner v' others =>
      cases List.mem_singleton.mp hw
      exact ⟨others, by simp [Function.comp_def]⟩

/-- The answers are those of a turn each, as far as they go. -/
theorem inTurn_eq (h : Outcomes errors winners value answers) {outcome : Nat → Except ε α}
    (herrors : ∀ x ∈ errors, outcome x.1 = .error x.2)
    (hwinners : ∀ x ∈ winners, outcome x.1 = .ok x.2) {rest : List Nat}
    (hrest : value.isSome = true → rest = []) :
    inTurn outcome (answers.map Prod.fst ++ rest) = answers ++ inTurn outcome rest := by
  cases h with
  | failing =>
      have h := inTurn_failures herrors rest
      simpa [Function.comp_def] using h
  | filled winner v others =>
      rw [hrest rfl, List.append_nil, inTurn, List.append_nil]
      have h := inTurn_failures herrors (winner :: others)
      rw [inTurn, hwinners _ List.mem_cons_self] at h
      simpa [Function.comp_def] using h

end Outcomes

/-! ## What the invariant says -/

namespace InOrder

variable {p : Past α ε} {c : Cell α ε} {i : Nat}

/-- The one who has the permit is the one whose initializer runs. -/
theorem running_iff (h : InOrder p c) : c.running = some i ↔
    i ∈ c.started ∧ (∀ e, (i, e) ∉ p.failures) ∧ (∀ v, (i, v) ∉ p.successes) ∧ i ∉ p.drops := by
  constructor
  · intro hrunning
    have hpending : i ∈ c.pending := by simp [pending, hrunning]
    have hanswers : ∀ outcome, (i, outcome) ∉ c.answers := fun outcome hi =>
      (List.nodup_append.mp h.nodup).2.2 i (List.mem_map_of_mem hi) i hpending rfl
    refine ⟨h.running_started i hrunning, fun e he => ?_, fun v hv => ?_, fun hdrop => ?_⟩
    · exact hanswers _ (h.outcomes.error_mem_iff.mpr he)
    · exact hanswers _ (h.outcomes.winner_mem hv)
    · have hstayed : i ∈ p.stayed := h.stayed_eq ▸ List.mem_append_right _ hpending
      simp [Past.stayed, hdrop] at hstayed
  · rintro ⟨hstarted, hfailed, hsucceeded, hdropped⟩
    rcases h.fate i hstarted with hrunning | hdrop | ⟨e, he⟩ | ⟨v, hv⟩
    · exact hrunning
    · exact absurd hdrop hdropped
    · exact absurd he (hfailed e)
    · exact absurd hv (hsucceeded v)

/-- A full cell keeps its value and starts nobody. -/
theorem act_full {v : α} {a : Action α ε} (h : InOrder p c) (hvalue : c.value = some v)
    (ha : Allowed p c a) : (c.act a).value = some v ∧ (c.act a).started = c.started := by
  have hpending := h.full (by simp [hvalue])
  cases a with
  | arrive i => simp [Cell.act, Cell.arrive, hvalue]
  | finish i outcome =>
      have hrunning : c.running = some i := ha
      simp [pending, hrunning] at hpending
  | drop i =>
      have hi : i ∈ c.pending := ha
      rw [hpending] at hi
      cases hi

/-- The answers are those of a turn each, as far as they go. -/
theorem inTurn_stayed (h : InOrder p c) {outcome : Nat → Except ε α} (houtcome : Agrees outcome p) :
    inTurn outcome p.stayed = c.answers ++ inTurn outcome c.pending := by
  rw [h.stayed_eq]
  exact h.outcomes.inTurn_eq houtcome.failures houtcome.successes h.full

/-- A failure leaves the cell empty. -/
theorem value_finish_error (h : InOrder p c) (hrunning : c.running = some i) (e : ε) :
    (c.finish i (.error e)).value = none := by
  have hvalue := h.value_eq_none (i := i) (by simp [pending, hrunning])
  simp [Cell.finish, hrunning, hvalue]

/-- Nobody who came before the winner and stayed was spared a failure. -/
theorem first_wins (h : InOrder p c) {w : Nat} {v : α} (hw : (w, v) ∈ p.successes) :
    ∃ early late, p.stayed = early ++ w :: late ∧ ∀ i ∈ early, ∃ e, (i, e) ∈ p.failures := by
  obtain ⟨others, heq⟩ := h.outcomes.answered_eq hw
  refine ⟨p.failures.map Prod.fst, others ++ c.pending, ?_, fun i hi => ?_⟩
  · rw [h.stayed_eq, heq, List.append_assoc, List.cons_append]
  · obtain ⟨⟨i, e⟩, he, rfl⟩ := List.mem_map.mp hi
    exact ⟨e, he⟩

end InOrder

theorem Happens.runs_iff {actions : List (Action α ε)} (h : Happens actions) {i : Nat} :
    Runs actions i ↔ (run actions).running = some i := by
  rw [h.inOrder.running_iff]
  constructor
  · rintro ⟨hstarted, hfailed, hsucceeded, hdropped⟩
    exact ⟨hstarted, hfailed, hsucceeded, hdropped⟩
  · rintro ⟨hstarted, hfailed, hsucceeded, hdropped⟩
    exact ⟨hstarted, hfailed, hsucceeded, hdropped⟩

/-- Where no initializer runs nobody waits. -/
theorem Happens.pending_eq_nil {actions : List (Action α ε)} (h : Happens actions)
    (hnone : ∀ i, ¬ Runs actions i) : (run actions).pending = [] := by
  have hrunning : (run actions).running = none :=
    Option.eq_none_iff_forall_ne_some.mpr fun i hi => hnone i (h.runs_iff.mpr hi)
  simp [pending, hrunning, h.inOrder.idle hrunning]

/-- One initializer succeeds, or all that were started came to another end or run. -/
theorem Happens.one_succeeds {actions : List (Action α ε)} (h : Happens actions) :
    (∃ w v, (past actions).successes = [(w, v)]) ∨
      (past actions).successes = [] ∧ ∀ i ∈ (run actions).started,
        (∃ e, (i, e) ∈ (past actions).failures) ∨ i ∈ (past actions).drops ∨ Runs actions i := by
  rcases h.inOrder.outcomes.winners_eq with hnone | hone
  · refine .inr ⟨hnone, fun i hi => ?_⟩
    rcases h.inOrder.fate i hi with hrunning | hdrop | hfailed | ⟨v, hv⟩
    · exact .inr (.inr (h.runs_iff.mpr hrunning))
    · exact .inr (.inl hdrop)
    · exact .inl hfailed
    · rw [hnone] at hv
      cases hv
  · exact .inl hone

/-- From the first success on, a cell keeps its value and starts nobody. -/
theorem Happens.run_full {before after : List (Action α ε)} (h : Happens (before ++ after))
    {v : α} (hvalue : (run before).value = some v) : (run (before ++ after)).value = some v ∧
      (run (before ++ after)).started = (run before).started := by
  induction after using List.reverseRecOn with
  | nil =>
      rw [List.append_nil]
      exact ⟨hvalue, rfl⟩
  | append_singleton after a ih =>
      rw [← List.append_assoc] at h ⊢
      obtain ⟨hbefore, ha⟩ := happens_snoc_iff.mp h
      obtain ⟨hvalue', hstarted⟩ := ih hbefore
      obtain ⟨hvalue'', hstarted'⟩ := hbefore.inOrder.act_full hvalue' ha
      rw [run_snoc]
      exact ⟨hvalue'', hstarted'.trans hstarted⟩

/-! ## In turn until the first success -/

/-- What is true of a cell after a history: its callers' initializers ran one after
another in the order in which the callers came, until the first success. -/
structure ServesInTurn (actions : List (Action α ε)) : Prop where
  one_runs : ∀ i j, Runs actions i → Runs actions j → i = j
  starts_once : (run actions).started.Nodup
  starts_in_order : (run actions).started.Sublist (past actions).arrivals
  /-- One initializer succeeds, unless all that were started failed or were dropped, but
  for one that runs. -/
  one_succeeds : (∃ w v, (past actions).successes = [(w, v)]) ∨
    (past actions).successes = [] ∧ ∀ i ∈ (run actions).started,
      (∃ e, (i, e) ∈ (past actions).failures) ∨ i ∈ (past actions).drops ∨ Runs actions i
  none_starts_after : ∀ before, before <+: actions → (past before).successes ≠ [] →
    (run actions).started = (run before).started
  first_wins : ∀ w v, (w, v) ∈ (past actions).successes → ∃ early late,
    (past actions).stayed = early ++ w :: late ∧ ∀ i ∈ early, ∃ e, (i, e) ∈ (past actions).failures
  value_shared : ∀ i v, (i, .ok v) ∈ (run actions).answers →
    ∃ w, (past actions).successes = [(w, v)]
  own_error : ∀ i e, (i, .error e) ∈ (run actions).answers ↔ (i, e) ∈ (past actions).failures
  error_leaves_empty : ∀ before i e, before ++ [.finish i (.error e)] <+: actions →
    (run (before ++ [.finish i (.error e)])).value = none
  answered_once : ((run actions).answers.map Prod.fst).Nodup
  /-- Nobody waits for an answer unless an initializer runs. -/
  all_answered : (∀ i, ¬ Runs actions i) →
    (past actions).stayed = (run actions).answers.map Prod.fst
  value_iff : ∀ v, (run actions).value = some v ↔ ∃ w, (w, v) ∈ (past actions).successes
  value_kept : ∀ before, before <+: actions → ∀ v, (run before).value = some v →
    (run actions).value = some v
  /-- The answers are those of a turn each, as far as they go. -/
  in_turn : ∀ outcome, Agrees outcome (past actions) →
    (run actions).answers <+: inTurn outcome (past actions).stayed ∧
      ((∀ i, ¬ Runs actions i) → (run actions).answers = inTurn outcome (past actions).stayed)

/-- **The first success serves everyone.**  Whatever happens to a cell, in whichever
order, its callers are served in turn. -/
theorem serves_in_turn (actions : List (Action α ε)) (h : Happens actions) :
    ServesInTurn actions := by
  have hinOrder := h.inOrder
  have houtcomes := hinOrder.outcomes
  have hstarts : (run actions).started.Sublist (past actions).arrivals :=
    (List.sublist_append_left _ _).trans hinOrder.starts
  refine ⟨?_, hstarts.nodup hinOrder.arrivals_nodup, hstarts, h.one_succeeds, ?_,
    fun w v => hinOrder.first_wins, fun i v => houtcomes.ok_mem, fun i e => houtcomes.error_mem_iff,
    ?_, (List.nodup_append.mp hinOrder.nodup).1, ?_, fun v => houtcomes.value_iff, ?_, ?_⟩
  · intro i j hi hj
    exact Option.some.inj ((h.runs_iff.mp hi).symm.trans (h.runs_iff.mp hj))
  · rintro before ⟨after, rfl⟩ hsome
    have hbefore := (h.of_prefix (List.prefix_append _ _)).inOrder.outcomes
    obtain ⟨w, v, hone⟩ := hbefore.winners_eq.resolve_left hsome
    have hvalue := hbefore.value_iff.mpr ⟨w, hone ▸ List.mem_cons_self⟩
    exact (h.run_full hvalue).2
  · intro before i e hbegins
    obtain ⟨hbefore, hrunning⟩ := happens_snoc_iff.mp (h.of_prefix hbegins)
    rw [run_snoc]
    exact hbefore.inOrder.value_finish_error hrunning e
  · intro hnone
    rw [hinOrder.stayed_eq, h.pending_eq_nil hnone, List.append_nil]
  · rintro before ⟨after, rfl⟩ v hvalue
    exact (h.run_full hvalue).1
  · intro outcome houtcome
    have heq := hinOrder.inTurn_stayed houtcome
    refine ⟨heq ▸ List.prefix_append _ _, fun hnone => ?_⟩
    rw [heq, h.pending_eq_nil hnone, inTurn, List.append_nil]

/-- The first two initializers do not fill a cell, as one fails and the caller of the
other is dropped; the third does. -/
theorem third_serves : ServesInTurn ([.arrive 0, .arrive 1, .arrive 2, .arrive 3,
    .finish 0 (.error "bad config"), .drop 1, .finish 2 (.ok 7), .arrive 4] :
      List (Action Nat String)) :=
  serves_in_turn _ (by decide)

/-! ## Callers with times -/

/-- Whichever of several things is chosen, it is one of them. -/
theorem foldl_choose_mem {β : Type} (better : β → β → Bool) (l : List β) (b : β) :
    l.foldl (fun best o => if better best o then o else best) b ∈ b :: l := by
  induction l generalizing b with
  | nil => exact List.mem_singleton_self b
  | cons x l ih =>
      rw [List.foldl_cons]
      rcases List.mem_cons.mp (ih (if better b x then x else b)) with heq | hmem
      · rw [heq]
        split
        · exact List.mem_cons_of_mem _ List.mem_cons_self
        · exact List.mem_cons_self
      · exact List.mem_cons_of_mem _ (List.mem_cons_of_mem _ hmem)

theorem mem_of_earliest {options : List (Instant × Nat × Action α ε)} {time : Instant}
    {a : Action α ε} (h : earliest options = some (time, a)) :
    ∃ rank, (time, rank, a) ∈ options := by
  cases options with
  | nil => cases h
  | cons o rest =>
      have hmem := foldl_choose_mem (fun best o : Instant × Nat × Action α ε =>
        o.1 < best.1 || (o.1 == best.1 && decide (o.2.1 < best.2.1))) rest o
      obtain ⟨rfl, rfl⟩ := Prod.mk.inj (Option.some.inj h)
      exact ⟨_, hmem⟩

/-- What played callers made of a cell, and what happened to it. -/
structure Timed.Plays (callers : List (Caller α ε)) (t : Timed α ε) (actions : List (Action α ε)) :
    Prop where
  happens : Happens actions
  cell : t.cell = Cell.run actions
  arrived : t.arrived = (past actions).arrivals
  agrees : ∀ outcome : Nat → Except ε α,
    (∀ i c, callers[i]? = some c → outcome i = c.outcome) → Agrees outcome (past actions)

/-- What can happen next through a caller. -/
theorem Timed.of_mem_options {t : Timed α ε} {i : Nat} {c : Caller α ε} {time : Instant}
    {rank : Nat} {a : Action α ε} (ha : (time, rank, a) ∈ t.options i c) :
    (a = .finish i c.outcome ∧ t.cell.running = some i) ∨ (a = .arrive i ∧ i ∉ t.arrived) ∨
      a = .drop i := by
  unfold options at ha
  split at ha
  · cases ha
  rcases List.mem_append.mp ha with ha | ha
  · rcases List.mem_append.mp ha with ha | ha
    · split at ha
      · next hrunning =>
        cases List.mem_singleton.mp ha
        exact .inl ⟨rfl, hrunning⟩
      · cases ha
    · split at ha
      · cases ha
      · next harrived =>
        cases List.mem_singleton.mp ha
        exact .inr (.inl ⟨rfl, by simpa using harrived⟩)
  · split at ha
    · cases List.mem_singleton.mp ha
      exact .inr (.inr rfl)
    · cases ha

/-- A cell does not notice the drop of a caller that does not wait. -/
theorem drop_eq_self {c : Cell α ε} {i : Nat} (h : i ∉ c.pending) : c.drop i = c := by
  obtain ⟨hrunning, hline⟩ : ¬ c.running = some i ∧ i ∉ c.line := by
    simpa [pending, eq_comm] using h
  have hfilter : c.line.filter (· != i) = c.line :=
    List.filter_eq_self.mpr fun j hj => bne_iff_ne.mpr fun heq => hline (heq ▸ hj)
  rw [Cell.drop, if_neg hrunning, hfilter]

/-- What happens to timed callers happens to a cell, but for drops that it does not
notice. -/
theorem Timed.Plays.act {callers : List (Caller α ε)} {t : Timed α ε} {actions : List (Action α ε)}
    (h : Plays callers t actions) {i : Nat} {c : Caller α ε} (hc : callers[i]? = some c)
    {time : Instant} {rank : Nat} {a : Action α ε} (ha : (time, rank, a) ∈ t.options i c) :
    ∃ actions', Plays callers (t.act time a) actions' := by
  obtain ⟨hhappens, hcell, harrived, hagrees⟩ := h
  have hcell' : (t.act time a).cell = Cell.run (actions ++ [a]) := by
    rw [run_snoc, ← hcell]
    rfl
  rcases of_mem_options ha with ⟨rfl, hrunning⟩ | ⟨rfl, hnew⟩ | rfl
  · refine ⟨_, hhappens.snoc (hcell ▸ hrunning), hcell', ?_, fun outcome houtcome => ?_⟩
    · rw [past_snoc]
      cases c.outcome <;> exact harrived
    · have hends := houtcome i c hc
      obtain ⟨hfailures, hsuccesses⟩ := hagrees outcome houtcome
      rw [past_snoc]
      cases hresult : c.outcome with
      | error e =>
          refine ⟨List.forall_mem_append.mpr ⟨hfailures, ?_⟩, hsuccesses⟩
          exact List.forall_mem_singleton.mpr (hends.trans hresult)
      | ok v =>
          refine ⟨hfailures, List.forall_mem_append.mpr ⟨hsuccesses, ?_⟩⟩
          exact List.forall_mem_singleton.mpr (hends.trans hresult)
  · have hallowed : Allowed (past actions) (Cell.run actions) (.arrive i) := by
      rwa [harrived] at hnew
    refine ⟨_, hhappens.snoc hallowed, hcell', ?_, fun outcome houtcome => ?_⟩
    · rw [past_snoc]
      exact congrArg (· ++ [i]) harrived
    · rw [past_snoc]
      exact ⟨(hagrees outcome houtcome).1, (hagrees outcome houtcome).2⟩
  · by_cases hpending : i ∈ (Cell.run actions).pending
    · have hallowed : Allowed (past actions) (Cell.run actions) (.drop i) := hpending
      refine ⟨_, hhappens.snoc hallowed, hcell', ?_, fun outcome houtcome => ?_⟩
      · rw [past_snoc]
        exact harrived
      · rw [past_snoc]
        exact ⟨(hagrees outcome houtcome).1, (hagrees outcome houtcome).2⟩
    · refine ⟨actions, hhappens, ?_, harrived, hagrees⟩
      rw [hcell', run_snoc]
      exact drop_eq_self hpending

theorem Timed.Plays.play {callers : List (Caller α ε)} {t : Timed α ε} {actions : List (Action α ε)}
    (h : Plays callers t actions) (fuel : Nat) :
    ∃ actions', Plays callers (Timed.play callers fuel t) actions' := by
  induction fuel generalizing t actions with
  | zero => exact ⟨actions, h⟩
  | succ fuel ih =>
      rw [Timed.play]
      split
      · exact ⟨actions, h⟩
      · next time a hearliest =>
        obtain ⟨rank, hmem⟩ := mem_of_earliest hearliest
        obtain ⟨⟨c, i⟩, hc, ha⟩ := List.mem_flatMap.mp hmem
        obtain ⟨actions', h'⟩ := h.act (List.mem_zipIdx_iff_getElem?.mp hc) ha
        exact ih h'

/-- **Callers with times.**  Whenever callers come, however long they take, and whenever
they are dropped, the cell is that of a history in which their initializers end as they
should. -/
theorem Timed.exists_history (callers : List (Caller α ε)) :
    ∃ actions, Happens actions ∧ (Timed.run callers).cell = Cell.run actions ∧
      ∀ outcome : Nat → Except ε α, (∀ i c, callers[i]? = some c → outcome i = c.outcome) →
        Agrees outcome (past actions) := by
  have hnone : ∀ outcome : Nat → Except ε α, Agrees outcome (past ([] : List (Action α ε))) :=
    fun _ => ⟨by simp [past, Past.none], by simp [past, Past.none]⟩
  have hstart : Plays callers .start [] := ⟨.nil, rfl, rfl, fun outcome _ => hnone outcome⟩
  obtain ⟨actions, h⟩ := hstart.play (3 * callers.length)
  exact ⟨actions, h.happens, h.cell, h.agrees⟩

end HealthWatch.Cell
