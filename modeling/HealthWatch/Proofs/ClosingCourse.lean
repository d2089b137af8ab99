import HealthWatch.Proofs.CallsUnderWay
import HealthWatch.Proofs.HeldHandles
import HealthWatch.Proofs.ToldEvents

/-!
# The course of a closing

The first closing of a registry closes what the registry held when it began, one handle
after another, whether they fail or not.  `Course` is the invariant of the task that does
so: the calls it has begun and the entries that remain are together the entries of the
beginning, and for every call that was answered, and only for those, something was told.

No other task closes anything (`OnlyClosing`): a later closing finds the registry closed
and has ended when it begins (`beginClosing_again`).
-/

namespace HealthWatch

/-- A close that was begun: the name, the handle and the call. -/
abbrev CloseCall := String × Nat × Call Unit

namespace CloseCall

/-- The entry that is closed. -/
def entry (x : CloseCall) : String × Nat := (x.1, x.2.1)

/-- What is told when the answer comes. -/
def event (x : CloseCall) : Event := Service.closeEvent x.1 x.2.2.outcome

/-- Whether the handle could not be closed. -/
def failed (x : CloseCall) : Bool := Service.closeFails x.2.2.outcome

/-- The answer had come by then. -/
def EndedBy (time : Instant) (x : CloseCall) : Prop := ∃ ends, x.2.2.ends = some ends ∧ ends ≤ time

end CloseCall

namespace Service

variable {δ Env : Type} [Dependency δ Env] {s s' : Service δ Env} {id : Nat} {a : Action δ}

/-! ## Who closes -/

/-- Only such tasks close handles. -/
def OnlyClosing (only : Nat → Prop) (s : Service δ Env) : Prop :=
  ∀ (id : Nat) (span : Option Span) (c : Closing),
    s.tasks[id]? = some (.running span (.closing c)) → only id

/-- A move makes a closing only of a closing. -/
theorem JobMove.of_closing {span span' : Option Span} {job : Job} {c : Closing}
    (h : JobMove s span job (.running span' (.closing c))) : ∃ c', job = .closing c' := by
  generalize htask : Task.running span' (.closing c) = task at h
  cases h with
  | @probe p h hdue hhandle =>
      cases hprogress : (p.resume s.prober s.now h s.env).progress <;>
        simp [hprogress, probingAfter] at htask
  | rest => cases htask; exact ⟨c, rfl⟩
  | closed => exact ⟨_, rfl⟩
  | closeNext => exact ⟨_, rfl⟩
  | _ => cases htask

/-- A registry is closed by the first closing, and by nothing else. -/
theorem act_closed (s : Service δ Env) (ha : ∀ order, a ≠ .beginClosing order) :
    (s.act a).registry.closed = s.registry.closed := by
  cases a with
  | beginProbe name deadline =>
      simp only [act, beginProbe]
      split <;> rfl
  | beginConnect name =>
      simp only [act, beginConnect]
      split
      · rfl
      · split <;> rfl
  | beginClosing order => exact absurd rfl (ha order)
  | move id part =>
      simp only [act, move]
      split
      · next span job hid =>
        obtain ⟨task, hmoved⟩ := moveJob_spec part hid
        rw [hmoved.frame.registry]
      · rfl
  | drop id =>
      simp only [act, drop]
      split
      · next span job hid => rw [setTask, (s.abandonJob_frame job).1.registry]
      · rfl
  | pass time =>
      simp only [act, pass]
      split <;> rfl
  | _ => rfl

/-- A closed registry stays so. -/
theorem act_closed_of_closed (hclosed : s.registry.closed = true) (a : Action δ) :
    (s.act a).registry.closed = true := by
  by_cases ha : ∃ order, a = .beginClosing order
  · obtain ⟨order, rfl⟩ := ha
    simp [act, beginClosing, hclosed]
  · rw [act_closed s fun order heq => ha ⟨order, heq⟩, hclosed]

/-- A closed registry is not closed again: the task that asks for it has ended already. -/
theorem beginClosing_again (hclosed : s.registry.closed = true) (order : List (String × Nat)) :
    s.act (.beginClosing order) = { s with tasks := s.tasks ++ [.ended s.now .closed] } :=
  if_pos hclosed

/-- No other task comes to close handles, unless the registry is open and is closed. -/
theorem OnlyClosing.act {only : Nat → Prop} (h : OnlyClosing only s)
    (ha : ∀ order, a = .beginClosing order → s.registry.closed = true) :
    OnlyClosing only (s.act a) := by
  intro id span c hid
  by_cases hbegins : ∃ order, a = .beginClosing order
  · obtain ⟨order, rfl⟩ := hbegins
    rw [beginClosing_again (ha order rfl)] at hid
    by_cases hlt : id < s.tasks.length
    · rw [List.getElem?_append_left hlt] at hid
      exact h id span c hid
    · rw [List.getElem?_append_right (Nat.le_of_not_lt hlt)] at hid
      cases List.mem_singleton.mp (List.mem_of_getElem? hid)
  · rcases running_act hid with hsame | hnew | ⟨span', job, hid', hmove⟩
    · exact h id span c hsame
    · cases hnew with
      | closing => exact absurd ⟨_, rfl⟩ hbegins
    · obtain ⟨c', rfl⟩ := hmove.of_closing
      exact h id span' c' hid'

/-! ## The course of a closing -/

/-- Where the closing of these entries is that task `id` runs, after these calls.  Its last
word gives the size that the registry had then. -/
inductive Course (entries : List (String × Nat)) (id : Nat) (sizes : Nat → Prop)
    (calls : List CloseCall) (s : Service δ Env) : Prop
  | closing {c : Closing} {answered : List CloseCall}
      (hid : s.tasks[id]? = some (.running none (.closing c)))
      (hentries : entries = calls.map CloseCall.entry ++ c.remaining)
      (hcalls : calls = answered ++ c.current.toList)
      (hfailures : c.failures = answered.countP CloseCall.failed)
      (htold : s.told .closing = answered.map CloseCall.event)
      (hends : ∀ x ∈ answered, CloseCall.EndedBy s.now x)
  | closed {time : Instant} {size : Nat} (hid : s.tasks[id]? = some (.ended time .closed))
      (hentries : calls.map CloseCall.entry = entries)
      (htold : s.told .closing = calls.map CloseCall.event ++
        [.registryClosed size (calls.countP CloseCall.failed)])
      (hends : ∀ x ∈ calls, CloseCall.EndedBy time x)
      (hsize : sizes size)

variable {entries : List (String × Nat)} {sizes sizes' : Nat → Prop} {calls : List CloseCall}

omit [Dependency δ Env] in
/-- What happens beside a closing leaves it where it is. -/
theorem Course.beside (h : Course entries id sizes calls s)
    (htask : s'.tasks[id]? = s.tasks[id]?) (hsame : s'.told .closing = s.told .closing)
    (hnow : s.now ≤ s'.now) (hsizes : ∀ n, sizes n → sizes' n) :
    Course entries id sizes' calls s' := by
  cases h with
  | closing hid hentries hcalls hfailures htold hends =>
      refine .closing (htask.trans hid) hentries hcalls hfailures (hsame.trans htold) ?_
      intro x hx
      obtain ⟨ends, hcall, hle⟩ := hends x hx
      exact ⟨ends, hcall, Nat.le_trans hle hnow⟩
  | closed hid hentries htold hends hsize =>
      exact .closed (htask.trans hid) hentries (hsame.trans htold) hends (hsizes _ hsize)

/-- **One move of a closing**: it rests, or an answer comes and is told, or the next handle
is closed, or there is none left. -/
theorem Course.does {span : Option Span} {c : Closing} {task : Task}
    (h : Course entries id sizes calls s) (hid : s.tasks[id]? = some (.running span (.closing c)))
    (hdoes : Does s span (.closing c) task s')
    (hsize : ∀ time outcome, task = .ended time outcome → sizes' s.registry.size) :
    Course entries id sizes' (calls ++ closeCalls (.running span (.closing c)) task)
      (s'.setTask id task) := by
  have hlt := (List.getElem?_eq_some_iff.mp hid).1
  have htask : (s'.setTask id task).tasks[id]? = some task := by
    rw [setTask, hdoes.tasks_eq]
    exact List.getElem?_set_self hlt
  cases h with
  | closed hid' => cases hid.symm.trans hid'
  | @closing c answered hid' hentries hcalls hfailures htold hends =>
      cases hid.symm.trans hid'
      cases hdoes with
      | rest =>
          rw [closeCalls_ofMoves.same, List.append_nil]
          exact .closing htask hentries hcalls hfailures htold hends
      | @closed _ name handle call ends hcurrent hcall hdue =>
          have hnone : closeCalls (.running none (.closing c)) (.running none (.closing { c with
              current := none, failures := c.failures + (closeFails call.outcome).toNat })) =
              [] := by
            simp [closeCalls, hcurrent]
          have hall : calls = answered ++ [(name, handle, call)] := by
            rw [hcalls, hcurrent]
            rfl
          rw [hnone, List.append_nil]
          refine .closing htask hentries (List.append_nil _).symm ?_ ?_ ?_
          · rw [hall, List.countP_append, ← hfailures]
            cases hfails : closeFails call.outcome <;> simp [CloseCall.failed, hfails]
          · have hevent : (closeEvent name call.outcome).topic = .closing := by
              cases call.outcome <;> rfl
            have hbefore : (s.modifyHandle handle Handle.leave).told .closing =
                answered.map CloseCall.event := htold
            have hafter : ((s.modifyHandle handle Handle.leave).tell none
                [closeEvent name call.outcome]).told .closing = _ := told_tell _ _ _
            rw [hbefore] at hafter
            rw [hall, List.map_append]
            simpa [hevent, CloseCall.event] using hafter
          · intro x hx
            rw [hall] at hx
            rcases List.mem_append.mp hx with hx | hx
            · exact hends x hx
            · cases List.mem_singleton.mp hx
              exact ⟨ends, hcall, hdue⟩
      | @closeNext _ name handle rest h hcurrent hremaining hhandle =>
          have hone : closeCalls (.running none (.closing c)) (.running none (.closing { c with
              remaining := rest
              current := some (name, handle, (h.close s.now s.env).1.unbounded s.now) })) =
              [(name, handle, (h.close s.now s.env).1.unbounded s.now)] := by
            simp [closeCalls, hcurrent]
          have hall : calls = answered := by
            rw [hcalls, hcurrent, Option.toList_none, List.append_nil]
          rw [hone]
          refine .closing htask ?_ (by rw [hall]; rfl) hfailures htold hends
          rw [hentries, hremaining, List.map_append, List.append_assoc]
          rfl
      | allClosed hcurrent hremaining =>
          have hall : calls = answered := by
            rw [hcalls, hcurrent, Option.toList_none, List.append_nil]
          subst hall
          have hnone : closeCalls (.running none (.closing c)) (.ended s.now .closed) = [] := rfl
          rw [hnone, List.append_nil]
          refine .closed htask ?_ ?_ hends (hsize _ _ rfl)
          · rw [hentries, hremaining, List.append_nil]
          · have hafter : (s.tell none [.registryClosed s.registry.size c.failures]).told .closing =
                _ := told_tell _ _ _
            rw [htold, hfailures] at hafter
            simpa [Event.topic, hfailures] using hafter

/-- A job that is no closing begins no close. -/
theorem closeCalls_eq_nil {span : Option Span} {job : Job} (hjob : ∀ c, job ≠ .closing c)
    (task : Task) : closeCalls (.running span job) task = [] := by
  unfold closeCalls
  split
  · next heq =>
    cases heq
    exact absurd rfl (hjob _)
  · rfl

/-- **One action.**  A closing that is not dropped goes on, and nothing else closes. -/
theorem Course.act (h : Course entries id sizes calls s) (honly : OnlyClosing (· = id) s)
    (ha : a ≠ .drop id) (hsizes : ∀ n, sizes n → sizes' n)
    (hsize : ∀ time outcome, s.tasks[id]? ≠ some (.ended time outcome) →
      (s.act a).tasks[id]? = some (.ended time outcome) → sizes' s.registry.size) :
    Course entries id sizes' (calls ++ changes closeCalls s.tasks (s.act a).tasks) (s.act a) := by
  have hnow := (Continues.act s a).now_le
  rcases s.act_cases a with hrest | ⟨other, span, job, task, s', hid, hdoes, hmoved⟩ | hno
  · rw [hrest, changes_self closeCalls_ofMoves.same, List.append_nil]
    exact h.beside rfl rfl (Nat.le_refl _) hsizes
  · rw [hmoved] at hnow hsize ⊢
    rw [closeCalls_ofMoves.does hid hdoes]
    by_cases hother : other = id
    · subst hother
      have hclosing : ∃ c, job = .closing c := by
        cases h with
        | closing hid' => cases hid.symm.trans hid'; exact ⟨_, rfl⟩
        | closed hid' => cases hid.symm.trans hid'
      obtain ⟨c, rfl⟩ := hclosing
      refine h.does hid hdoes fun time outcome htask => ?_
      refine hsize time outcome (by simp [hid]) ?_
      rw [setTask, hdoes.tasks_eq, htask]
      exact List.getElem?_set_self (List.getElem?_eq_some_iff.mp hid).1
    · have hjob : ∀ c, job ≠ .closing c := by
        rintro c rfl
        exact hother (honly other span c hid)
      rw [closeCalls_eq_nil hjob, List.append_nil]
      refine h.beside ?_ (hdoes.told_closing hjob) hnow hsizes
      rw [setTask, hdoes.tasks_eq]
      exact List.getElem?_set_ne hother
  · rw [closeCalls_ofMoves.act hno, List.append_nil]
    refine h.beside ?_ ((s.act_aside hno).told_eq (by simp)) hnow hsizes
    obtain ⟨task, hid⟩ : ∃ task, s.tasks[id]? = some task := by
      cases h with
      | closing hid => exact ⟨_, hid⟩
      | closed hid => exact ⟨_, hid⟩
    rcases act_getElem? hid a with hsame | ⟨_, _, _, _, hmoves, _⟩ | ⟨hdrop, _⟩
    · rw [hsame, hid]
    · exact absurd hmoves (hno _ _)
    · exact absurd hdrop ha

/-! ## The next close -/

/-- What action `a` begins in `s` is this close: the call is what the dependency itself answers
when it is closed then, and what it makes of itself and of what is shared is kept. -/
def BeginsClose (s : Service δ Env) (a : Action δ) (x : CloseCall) : Prop :=
  ∃ (h h' : Handle δ) (reply : Reply Unit),
    s.handles[x.2.1]? = some h ∧ (s.act a).handles[x.2.1]? = some h' ∧
      Dependency.close s.now h.dependency s.env = (reply, h'.dependency, (s.act a).env) ∧
      x.2.2 = reply.unbounded s.now

/-- **One close.**  A closing begins one close at a time, by the dependency's own answer, and
not before all closes that it has begun have ended. -/
theorem Course.begins (h : Course entries id sizes calls s) (honly : OnlyClosing (· = id) s)
    {before after : List CloseCall} {x : CloseCall}
    (hx : changes closeCalls s.tasks (s.act a).tasks = before ++ x :: after) :
    before = [] ∧ BeginsClose s a x ∧ ∀ y ∈ calls, CloseCall.EndedBy s.now y := by
  rcases s.act_cases a with hrest | ⟨other, span, job, task, s', hid, hdoes, hmoved⟩ | hno
  · rw [hrest, changes_self closeCalls_ofMoves.same] at hx
    simp at hx
  · have hact := hmoved
    rw [hmoved, closeCalls_ofMoves.does hid hdoes] at hx
    by_cases hjob : ∃ c, job = .closing c
    · obtain ⟨c, rfl⟩ := hjob
      obtain rfl : other = id := honly other span c hid
      cases hdoes with
      | rest =>
          rw [closeCalls_ofMoves.same] at hx
          simp at hx
      | closed hcurrent => simp [closeCalls, hcurrent] at hx
      | @closeNext _ name handle rest held hcurrent hremaining hhandle =>
          have hone : before = [] ∧
              (name, handle, (held.close s.now s.env).1.unbounded s.now) = x ∧ after = [] := by
            cases before with
            | nil => simpa [closeCalls, hcurrent] using hx
            | cons y before => simp [closeCalls, hcurrent] at hx
          obtain ⟨rfl, rfl, -⟩ := hone
          refine ⟨rfl, ⟨held, (held.close s.now s.env).2.1, _, hhandle, ?_, ?_, rfl⟩, ?_⟩
          · rw [hact]
            exact List.getElem?_set_self (List.getElem?_eq_some_iff.mp hhandle).1
          · rw [hact]
            rfl
          · cases h with
            | closed hid' => cases hid.symm.trans hid'
            | @closing c' answered hid' hentries hcalls hfailures htold hends =>
                cases hid.symm.trans hid'
                rw [hcalls, hcurrent, Option.toList_none, List.append_nil]
                exact hends
      | allClosed => simp [closeCalls] at hx
    · rw [closeCalls_eq_nil (fun c heq => hjob ⟨c, heq⟩)] at hx
      simp at hx
  · rw [closeCalls_ofMoves.act hno] at hx
    simp at hx

end Service

end HealthWatch
