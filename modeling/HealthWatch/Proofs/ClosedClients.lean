import HealthWatch.Client.Traffic
import HealthWatch.Proofs.ClientOperations
import Mathlib.Logic.Relation

/-!
# Clients that were closed

Operations on a client take turns in any order, are given up, and hear any answers.  What was
closed stays closed (`Step.closed`), for the operations that are under way are all orderly.  An
operation that begins on a closed client stays what it is: it refuses, or it obliges, and it has
begun no exchange (`Shut`).  It can come to its end by itself, but for the lock, for which a
close may have to wait (`refusing_ends`, `obliging_ends`).

So a closed client is closed for good (`ClosedForGood.of_closed`).
-/

namespace HealthWatch.Client

open Operation Relation

namespace Visit

/-- How an operation has ended, if it has: with an error or with none. -/
def error? (v : Visit) : Option (Option DependencyError) :=
  match v.rest with
  | .done (.ok _) => some none
  | .done (.error e) => some (some e)
  | _ => none

end Visit

/-- How it ends on a closed client what is asked for there. -/
def Asked.whenClosed : Asked → Option DependencyError
  | .close => none
  | .connect | .check | .details => some .closed

namespace Traffic

/-- The traffic of a client that comes about. -/
def Reachable (w : Traffic) : Prop := ∃ adapter, ReflTransGen Step (start adapter) w

/-- The client is closed, and the operations that were begun as `first` or later find it so. -/
structure Refuses (first : Nat) (w : Traffic) : Prop where
  /-- The client is not opened again. -/
  closed : w.client.shared.closed = true
  /-- They begin no exchange. -/
  silent : ∀ id v, first ≤ id → w.visits[id]? = some (some v) → v.exchanges = 0
  /-- They end with that the client is closed; another close succeeds. -/
  outcome : ∀ id v e, first ≤ id → w.visits[id]? = some (some v) → v.error? = some e →
    e = v.asked.whenClosed
  /-- They can end without anybody else doing anything, unless a close has to wait for the lock. -/
  ends : ∀ id v, first ≤ id → w.visits[id]? = some (some v) →
    (v.asked = .close → w.holder = none ∨ w.holder = some id) →
      ∃ w', ReflTransGen (Turn id) w w' ∧ ∃ v', w'.visits[id]? = some (some v') ∧
        v'.error? = some v.asked.whenClosed

end Traffic

/-- A client that is closed for good, whatever operations were begun on it before, and wherever
they are. -/
structure ClosedForGood (c : Client) : Prop where
  closed : c.shared.closed = true
  /-- A connection that all operations share was given up. -/
  released : ∀ endpoint, c.adapter = .redis endpoint → c.shared.kept = false
  refuses : ∀ w : Traffic, w.client = c → w.Reachable →
    ∀ w', ReflTransGen Traffic.Step w w' → w'.Refuses w.visits.length

/-! ## Steps of an operation -/

namespace Operation

variable {α : Type} {op op' : Operation α} {id : Nat} {now : Instant} {s s' : Shared}
  {holder holder' : Option Nat}

/-- With its steps an operation takes and gives back the lock for itself only. -/
theorem step?_holder (hstep : op.step? id now s holder = some (op', s', holder')) {other : Nat}
    (hother : other ≠ id) : holder' = some other ↔ holder = some other := by
  cases op with
  | done outcome => cases hstep
  | clock next => cases hstep; rfl
  | update change next => cases hstep; rfl
  | lock next =>
      cases holder with
      | some _ => cases hstep
      | none => cases hstep; simp [Ne.symm hother]
  | unlock next =>
      cases hstep
      split
      · next hmine => simp [hmine, Ne.symm hother]
      · rfl
  | ask timeout endpoint request next => cases hstep

/-- An operation that has the lock has taken it before or does so now. -/
theorem step?_takes (hstep : op.step? id now s holder = some (op', s', holder')) {other : Nat}
    (hholds : holder' = some other) : holder = some other ∨ other = id := by
  by_cases hother : other = id
  · exact .inr hother
  · exact .inl ((step?_holder hstep hother).mp hholds)

/-- A step of an orderly operation opens nothing, and does with the lock what it says. -/
theorem Orderly.step (h : op.Orderly (decide (holder = some id)))
    (hstep : op.step? id now s holder = some (op', s', holder')) :
    op'.Orderly (decide (holder' = some id)) ∧ (s.closed = true → s'.closed = true) := by
  generalize hheld : decide (holder = some id) = held at h
  cases h with
  | done outcome => cases hstep
  | clock h =>
      cases hstep
      exact ⟨hheld ▸ h now, fun hs => hs⟩
  | update hkeeps h =>
      cases hstep
      exact ⟨hheld ▸ h s, hkeeps s⟩
  | lock h =>
      cases holder with
      | some other => cases hstep
      | none =>
          cases hstep
          exact ⟨by simpa using h, fun hs => hs⟩
  | unlock h =>
      have hmine : holder = some id := of_decide_eq_true hheld
      subst hmine
      cases hstep
      exact ⟨by simpa using h, fun hs => hs⟩
  | ask h => cases hstep

/-- An orderly operation stays so whatever is answered. -/
theorem Orderly.answered {held : Bool} {timeout : Nat} {endpoint : Endpoint} {request : Request}
    {next : Except DependencyError Message → Operation α}
    (h : op.Orderly held) (hop : op = .ask timeout endpoint request next)
    (answer : Except DependencyError Message) : (next answer).Orderly held := by
  subst hop
  cases h with
  | ask h => exact h answer

theorem Refusing.ne_ask {timeout : Nat} {endpoint : Endpoint} {request : Request}
    {next : Except DependencyError Message → Operation α} (h : op.Refusing) :
    op ≠ .ask timeout endpoint request next := by
  rintro rfl
  cases h

theorem Obliging.ne_ask {op : Operation Unit} {timeout : Nat} {endpoint : Endpoint}
    {request : Request} {next : Except DependencyError Message → Operation Unit}
    (h : op.Obliging) : op ≠ .ask timeout endpoint request next := by
  rintro rfl
  cases h

theorem Refusing.step (h : op.Refusing) (hs : s.closed = true)
    (hstep : op.step? id now s holder = some (op', s', holder')) : op'.Refusing := by
  cases h with
  | done => cases hstep
  | clock h => cases hstep; exact h now
  | look h => cases hstep; exact h s hs

theorem Obliging.step {op op' : Operation Unit} (h : op.Obliging) (hs : s.closed = true)
    (hstep : op.step? id now s holder = some (op', s', holder')) : op'.Obliging := by
  cases h with
  | done => cases hstep
  | update h => cases hstep; exact h s hs
  | lock h =>
      cases holder with
      | some other => cases hstep
      | none => cases hstep; exact h
  | unlock h => cases hstep; exact h

end Operation

/-! ## Steps of all operations -/

namespace Traffic

variable {w w' : Traffic} {id : Nat} {v v' : Visit}

/-- An operation that goes on stays in its place. -/
theorem getElem?_goOn (hid : w.visits[id]? = some (some v)) {rest : Operation v.asked.Result}
    {s : Shared} {holder : Option Nat} :
    (w.goOn id v rest s holder).visits[id]? = some (some { v with rest }) :=
  List.getElem?_set_self (List.getElem?_eq_some_iff.mp hid).1

/-- What a turn makes of its operation. -/
inductive Goes (id : Nat) (w : Traffic) (v : Visit) : Visit → Traffic → Prop
  | step {rest : Operation v.asked.Result} {s : Shared} {holder : Option Nat} {w' : Traffic}
      (hstep : v.rest.step? id w.now w.client.shared w.holder = some (rest, s, holder))
      (hshared : w'.client.shared = s) (hholder : w'.holder = holder) :
      Goes id w v { v with rest } w'
  | ask {timeout : Nat} {endpoint : Endpoint} {request : Request}
      {next : Except DependencyError Message → Operation v.asked.Result} {w' : Traffic}
      (hrest : v.rest = .ask timeout endpoint request next) (hholder : w'.holder = w.holder) :
      Goes id w v { v with awaiting := true, exchanges := v.exchanges + 1 } w'
  | answer {timeout : Nat} {endpoint : Endpoint} {request : Request}
      {next : Except DependencyError Message → Operation v.asked.Result} {w' : Traffic}
      (answer : Except DependencyError Message)
      (hrest : v.rest = .ask timeout endpoint request next) (hholder : w'.holder = w.holder) :
      Goes id w v { v with rest := next answer, awaiting := false } w'

/-- What is in a place after something was put in one. -/
theorem getElem?_put {other : Nat} {v : Option Visit} :
    (w.put other v).visits[id]? = some (some v') →
      (other = id ∧ v = some v') ∨ (other ≠ id ∧ w.visits[id]? = some (some v')) := by
  intro hid
  rw [put, List.getElem?_set] at hid
  split at hid
  · next heq =>
    split at hid
    · exact .inl ⟨heq, Option.some.inj hid⟩
    · cases hid
  · next hne => exact .inr ⟨hne, hid⟩

/-- **One operation.**  An operation that is under way after a step was as it is before, or has
begun, or went on. -/
theorem Step.visit (h : Step w w') (hid : w'.visits[id]? = some (some v')) :
    (w.visits[id]? = some (some v') ∧ (w'.holder = some id ↔ w.holder = some id)) ∨
      (id = w.visits.length ∧ w'.holder = w.holder ∧
        ∃ asked, v' = ⟨asked, w.client.adapter.operation asked, false, 0⟩) ∨
      ∃ v, w.visits[id]? = some (some v) ∧ Goes id w v v' w' := by
  cases h with
  | begin asked =>
      by_cases hlt : id < w.visits.length
      · rw [List.getElem?_append_left hlt] at hid
        exact .inl ⟨hid, Iff.rfl⟩
      · rw [List.getElem?_append_right (Nat.le_of_not_lt hlt)] at hid
        obtain ⟨hzero, hv⟩ := List.getElem?_eq_some_iff.mp hid
        have hlast : id = w.visits.length :=
          Nat.le_antisymm (Nat.sub_eq_zero_iff_le.mp (Nat.lt_one_iff.mp hzero))
            (Nat.le_of_not_lt hlt)
        subst hlast
        simp only [Nat.sub_self, List.getElem_cons_zero, Option.some.injEq] at hv
        exact .inr (.inl ⟨rfl, rfl, asked, hv.symm⟩)
  | turn other h =>
      cases h with
      | step hother hstep =>
          rcases getElem?_put hid with ⟨rfl, hv⟩ | ⟨hne, hid⟩
          · cases hv
            exact .inr (.inr ⟨_, hother, .step hstep rfl rfl⟩)
          · exact .inl ⟨hid, step?_holder hstep hne.symm⟩
      | ask hother hrest =>
          rcases getElem?_put hid with ⟨rfl, hv⟩ | ⟨hne, hid⟩
          · cases hv
            exact .inr (.inr ⟨_, hother, .ask hrest rfl⟩)
          · exact .inl ⟨hid, Iff.rfl⟩
      | answer answer hother hrest =>
          rcases getElem?_put hid with ⟨rfl, hv⟩ | ⟨hne, hid⟩
          · cases hv
            exact .inr (.inr ⟨_, hother, .answer answer hrest rfl⟩)
          · exact .inl ⟨hid, Iff.rfl⟩
  | drop other =>
      rcases getElem?_put hid with ⟨rfl, hv⟩ | ⟨hne, hid⟩
      · cases hv
      · refine .inl ⟨hid, ?_⟩
        dsimp only
        split
        · next hholds => simp [hholds, hne]
        · rfl
  | pass hle => exact .inl ⟨hid, Iff.rfl⟩

/-- There are no fewer operations after a step. -/
theorem Step.length_le (h : Step w w') : w.visits.length ≤ w'.visits.length := by
  cases h with
  | begin asked => simp
  | turn other h => cases h <;> simp [goOn, put]
  | drop other => simp [put]
  | pass hle => exact Nat.le_refl _

/-- The client is the same after a step, but for what its operations share. -/
theorem Step.adapter (h : Step w w') : w'.client.adapter = w.client.adapter := by
  cases h with
  | turn other h => cases h <;> rfl
  | _ => rfl

/-! ## Traffic that keeps to the rules -/

/-- Traffic whose operations are all orderly.  The lock is had by one of them, if at all. -/
structure AllOrderly (w : Traffic) : Prop where
  orderly : ∀ (id : Nat) (v : Visit), w.visits[id]? = some (some v) →
    v.rest.Orderly (decide (w.holder = some id))
  holder : ∀ id, w.holder = some id → id < w.visits.length

theorem orderly_operation (a : Adapter) (asked : Asked) : (a.operation asked).Orderly false := by
  cases asked with
  | connect => exact a.orderly_check
  | check => exact a.orderly_check
  | details => exact a.orderly_details
  | close => exact a.orderly_close

theorem AllOrderly.start (adapter : Adapter) : (start adapter).AllOrderly :=
  ⟨fun id v hid => by simp [Traffic.start] at hid, fun id hid => by simp [Traffic.start] at hid⟩

theorem AllOrderly.step (h : w.AllOrderly) (hstep : Step w w') : w'.AllOrderly := by
  constructor
  · intro id v hid
    rcases hstep.visit hid with ⟨hid', hsame⟩ | ⟨rfl, hsame, asked, rfl⟩ | ⟨v₀, hid', hgoes⟩
    · rw [decide_eq_decide.mpr hsame]
      exact h.orderly id v hid'
    · have hfree : ¬w.holder = some w.visits.length := fun hholds =>
        Nat.lt_irrefl _ (h.holder _ hholds)
      rw [hsame, decide_eq_false hfree]
      exact orderly_operation _ asked
    · have horderly := h.orderly id v₀ hid'
      cases hgoes with
      | step hstep hshared hholder => exact hholder ▸ (horderly.step hstep).1
      | ask hrest hholder => exact hholder ▸ horderly
      | answer answer hrest hholder =>
          rw [hholder]
          exact horderly.answered hrest answer
  · intro id hholds
    refine Nat.lt_of_lt_of_le ?_ hstep.length_le
    cases hstep with
    | begin asked => exact h.holder id hholds
    | turn other hturn =>
        cases hturn with
        | step hother hstep =>
            rcases step?_takes hstep hholds with hbefore | rfl
            · exact h.holder id hbefore
            · exact (List.getElem?_eq_some_iff.mp hother).1
        | ask => exact h.holder id hholds
        | answer => exact h.holder id hholds
    | drop other =>
        dsimp only at hholds
        split at hholds
        · cases hholds
        · exact h.holder id hholds
    | pass hle => exact h.holder id hholds

theorem Reachable.allOrderly (h : w.Reachable) : w.AllOrderly := by
  obtain ⟨adapter, hsteps⟩ := h
  induction hsteps with
  | refl => exact .start adapter
  | tail _ hstep ih => exact ih.step hstep

/-- What is closed stays closed. -/
theorem Step.closed (hstep : Step w w') (h : w.AllOrderly)
    (hclosed : w.client.shared.closed = true) : w'.client.shared.closed = true := by
  cases hstep with
  | turn other hturn =>
      cases hturn with
      | step hother hstep => exact ((h.orderly _ _ hother).step hstep).2 hclosed
      | ask => exact hclosed
      | answer => exact hclosed
  | _ => exact hclosed

/-! ## Operations that begin on a closed client -/

/-- An operation that was begun on a closed client. -/
inductive Shut : Visit → Prop
  | refusing {asked : Asked} {rest : Operation asked.Result} (hasked : asked ≠ .close)
      (h : rest.Refusing) : Shut ⟨asked, rest, false, 0⟩
  | obliging {rest : Operation Unit} (h : rest.Obliging) : Shut ⟨.close, rest, false, 0⟩

theorem Shut.begin (a : Adapter) (asked : Asked) : Shut ⟨asked, a.operation asked, false, 0⟩ := by
  cases asked with
  | connect => exact .refusing (by decide) a.refusing_check
  | check => exact .refusing (by decide) a.refusing_check
  | details => exact .refusing (by decide) a.refusing_details
  | close => exact .obliging a.obliging_close

/-- However such an operation goes on, it asks nobody. -/
theorem Shut.goes (h : Shut v) (hclosed : w.client.shared.closed = true)
    (hgoes : Goes id w v v' w') : Shut v' := by
  cases h with
  | refusing hasked h =>
      cases hgoes with
      | step hstep => exact .refusing hasked (h.step hclosed hstep)
      | ask hrest | answer _ hrest => exact absurd hrest h.ne_ask
  | obliging h =>
      cases hgoes with
      | step hstep => exact .obliging (h.step hclosed hstep)
      | ask hrest | answer _ hrest => exact absurd hrest h.ne_ask

/-- By its own steps a refusing operation comes to its end, whoever has the lock. -/
theorem refusing_ends {asked : Asked} {rest : Operation asked.Result} (h : rest.Refusing)
    (hclosed : w.client.shared.closed = true)
    (hid : w.visits[id]? = some (some ⟨asked, rest, false, 0⟩)) :
    ∃ w', ReflTransGen (Turn id) w w' ∧
      w'.visits[id]? = some (some ⟨asked, .done (.error .closed), false, 0⟩) := by
  induction h generalizing w with
  | done => exact ⟨w, .refl, hid⟩
  | clock _ ih =>
      have hturn : Turn id w (w.goOn id _ _ _ _) := .step hid rfl
      obtain ⟨w', hturns, hended⟩ := ih w.now (w := w.goOn id _ _ _ _) hclosed (getElem?_goOn hid)
      exact ⟨w', .head hturn hturns, hended⟩
  | look _ ih =>
      have hturn : Turn id w (w.goOn id _ _ _ _) := .step hid rfl
      obtain ⟨w', hturns, hended⟩ :=
        ih w.client.shared hclosed (w := w.goOn id _ _ _ _) hclosed (getElem?_goOn hid)
      exact ⟨w', .head hturn hturns, hended⟩

/-- By its own steps an obliging operation comes to its end, if nobody else has the lock. -/
theorem obliging_ends {rest : Operation Unit} (h : rest.Obliging)
    (horderly : rest.Orderly (decide (w.holder = some id)))
    (hfree : w.holder = none ∨ w.holder = some id) (hclosed : w.client.shared.closed = true)
    (hid : w.visits[id]? = some (some ⟨.close, rest, false, 0⟩)) :
    ∃ w', ReflTransGen (Turn id) w w' ∧
      w'.visits[id]? = some (some ⟨.close, .done (.ok ()), false, 0⟩) := by
  induction h generalizing w with
  | done => exact ⟨w, .refl, hid⟩
  | @update change next _ ih =>
      have hupdate : (Operation.update change next).step? id w.now w.client.shared w.holder =
          some _ := rfl
      obtain ⟨hrest, hkeeps⟩ := horderly.step hupdate
      obtain ⟨w', hturns, hended⟩ := ih w.client.shared hclosed (w := w.goOn id _ _ _ _) hrest hfree
        (hkeeps hclosed) (getElem?_goOn hid)
      exact ⟨w', .head (.step hid hupdate) hturns, hended⟩
  | @lock next _ ih =>
      rcases hfree with hnone | hmine
      · have hlock : (Operation.lock next).step? id w.now w.client.shared w.holder =
            some (next, w.client.shared, some id) := by simp [step?, hnone]
        obtain ⟨hrest, hkeeps⟩ := horderly.step hlock
        obtain ⟨w', hturns, hended⟩ :=
          ih (w := w.goOn id _ _ _ _) hrest (.inr rfl) (hkeeps hclosed) (getElem?_goOn hid)
        exact ⟨w', .head (.step hid hlock) hturns, hended⟩
      · rw [decide_eq_true hmine] at horderly
        cases horderly
  | @unlock next _ ih =>
      have hunlock : (Operation.unlock next).step? id w.now w.client.shared w.holder =
          some (next, w.client.shared, none) := by
        rcases hfree with hnone | hmine <;> simp [step?, *]
      obtain ⟨hrest, hkeeps⟩ := horderly.step hunlock
      obtain ⟨w', hturns, hended⟩ :=
        ih (w := w.goOn id _ _ _ _) hrest (.inl rfl) (hkeeps hclosed) (getElem?_goOn hid)
      exact ⟨w', .head (.step hid hunlock) hturns, hended⟩

/-! ## Operations alone -/

/-- What is put in a place is there. -/
theorem getElem?_put_self {v₀ v : Option Visit} (hid : w.visits[id]? = some v₀) :
    (w.put id v).visits[id]? = some v :=
  List.getElem?_set_self (List.getElem?_eq_some_iff.mp hid).1

/-- If an operation that asks is answered, its exchange is, and so is what follows. -/
theorem run_ask {α : Type} {timeout : Nat} {endpoint : Endpoint} {request : Request}
    {next : Except DependencyError Message → Operation α} {now : Instant} {wait : Nat}
    {n n' : Network} {s s' : Shared} {outcome : Except DependencyError α}
    (hrun : (Operation.ask timeout endpoint request next).run now s n =
      (.after wait outcome, s', n')) :
    ∃ first answer more, (n.ask timeout endpoint request).1 = .after first answer ∧
      wait = first + more ∧
      (next answer).run (now + first) s (n.ask timeout endpoint request).2 =
        (.after more outcome, s', n') := by
  rw [Operation.run] at hrun
  cases hasked : n.ask timeout endpoint request with
  | mk reply asked =>
      rw [hasked] at hrun
      cases reply with
      | never => cases hrun
      | after first answer =>
          refine ⟨first, answer, ?_⟩
          cases hmore : (next answer).run (now + first) s asked with
          | mk reply last =>
              simp only [hmore] at hrun
              cases reply with
              | never => cases hrun
              | after more outcome' =>
                  cases hrun
                  exact ⟨more, rfl, rfl, rfl⟩

/-- **An operation alone.**  What an operation comes to while no other is under way is one of the
things that it can come to: its own steps lead there, with the answers of this network and after
the same time. -/
theorem run_alone {asked : Asked} {op : Operation asked.Result} {exchanges wait : Nat}
    {n n' : Network} {s : Shared} {outcome : Except DependencyError asked.Result}
    (h : op.Orderly (decide (w.holder = some id)))
    (hfree : w.holder = none ∨ w.holder = some id)
    (hid : w.visits[id]? = some (some ⟨asked, op, false, exchanges⟩))
    (hrun : op.run w.now w.client.shared n = (.after wait outcome, s, n')) :
    ∃ w' exchanges', ReflTransGen Step w w' ∧ w'.now = w.now + wait ∧ w'.holder = none ∧
      w'.client = { w.client with shared := s } ∧
      w'.visits[id]? = some (some ⟨asked, .done outcome, false, exchanges'⟩) ∧
      n'.exchanges + exchanges = n.exchanges + exchanges' := by
  induction op generalizing w exchanges wait n with
  | done outcome =>
      cases hrun
      have hnone : w.holder = none := by
        refine hfree.resolve_right fun hmine => ?_
        rw [decide_eq_true hmine] at h
        cases h
      exact ⟨w, exchanges, .refl, rfl, hnone, rfl, hid, rfl⟩
  | clock next ih =>
      have hclock : (Operation.clock next).step? id w.now w.client.shared w.holder = some _ := rfl
      obtain ⟨w', exchanges', hsteps, hafter⟩ := ih w.now (w := w.goOn id _ _ _ _)
        (h.step hclock).1 hfree (getElem?_goOn hid) hrun
      exact ⟨w', exchanges', .head (.turn id (.step hid hclock)) hsteps, hafter⟩
  | update change next ih =>
      have hupdate : (Operation.update change next).step? id w.now w.client.shared w.holder =
          some _ := rfl
      obtain ⟨w', exchanges', hsteps, hafter⟩ := ih w.client.shared (w := w.goOn id _ _ _ _)
        (h.step hupdate).1 hfree (getElem?_goOn hid) hrun
      exact ⟨w', exchanges', .head (.turn id (.step hid hupdate)) hsteps, hafter⟩
  | lock next ih =>
      have hnone : w.holder = none := by
        refine hfree.resolve_right fun hmine => ?_
        rw [decide_eq_true hmine] at h
        cases h
      have hlock : (Operation.lock next).step? id w.now w.client.shared w.holder =
          some (next, w.client.shared, some id) := by simp [step?, hnone]
      obtain ⟨w', exchanges', hsteps, hafter⟩ := ih (w := w.goOn id _ _ _ _) (h.step hlock).1
        (.inr rfl) (getElem?_goOn hid) hrun
      exact ⟨w', exchanges', .head (.turn id (.step hid hlock)) hsteps, hafter⟩
  | unlock next ih =>
      have hunlock : (Operation.unlock next).step? id w.now w.client.shared w.holder =
          some (next, w.client.shared, none) := by
        rcases hfree with hnone | hmine <;> simp [step?, *]
      obtain ⟨w', exchanges', hsteps, hafter⟩ := ih (w := w.goOn id _ _ _ _) (h.step hunlock).1
        (.inl rfl) (getElem?_goOn hid) hrun
      exact ⟨w', exchanges', .head (.turn id (.step hid hunlock)) hsteps, hafter⟩
  | ask timeout endpoint request next ih =>
      have hcount := n.exchanges_ask timeout endpoint request
      obtain ⟨first, answer, more, hasked, rfl, hmore⟩ := run_ask hrun
      -- It asks, the time goes by that the answer takes, and the answer comes.
      let asks := w.put id (some ⟨asked, .ask timeout endpoint request next, true, exchanges + 1⟩)
      let waits : Traffic := { asks with now := w.now + first }
      let hears := waits.put id (some ⟨asked, next answer, false, exchanges + 1⟩)
      have hasks : asks.visits[id]? =
          some (some ⟨asked, .ask timeout endpoint request next, true, exchanges + 1⟩) :=
        getElem?_put_self hid
      have hturn : Turn id w asks := .ask hid rfl rfl
      have hpass : Step asks waits := .pass (Nat.le_add_right _ _)
      have hanswer : Turn id waits hears := .answer (w := waits) answer hasks rfl rfl
      obtain ⟨w', exchanges', hsteps, hnow, hholder, hclient, hended, hexchanges⟩ :=
        ih answer (w := hears) (h.answered rfl answer) hfree (getElem?_put_self hasks) hmore
      refine ⟨w', exchanges', ?_, ?_, hholder, hclient, hended, ?_⟩
      · exact .head (.turn id hturn) (.head hpass (.head (.turn id hanswer) hsteps))
      · rw [hnow]
        exact Nat.add_assoc _ _ _
      · omega

/-! ## Closed for good -/

/-- How an operation ends that was begun on a closed client. -/
theorem Shut.error?_eq (h : Shut v) {e : Option DependencyError} (he : v.error? = some e) :
    e = v.asked.whenClosed := by
  cases h with
  | @refusing asked rest hasked h =>
      cases h with
      | done =>
          cases he
          cases asked <;> first | rfl | exact absurd rfl hasked
      | clock | look => cases he
  | obliging h =>
      cases h with
      | done => cases he; rfl
      | update | lock | unlock => cases he

/-- An operation that was begun on a closed client can come to its end by itself, unless it has to
wait for the lock to close it again. -/
theorem Shut.ends (h : Shut v) (hw : w.AllOrderly) (hclosed : w.client.shared.closed = true)
    (hid : w.visits[id]? = some (some v))
    (hfree : v.asked = .close → w.holder = none ∨ w.holder = some id) :
    ∃ w', ReflTransGen (Turn id) w w' ∧ ∃ v', w'.visits[id]? = some (some v') ∧
      v'.error? = some v.asked.whenClosed := by
  cases h with
  | @refusing asked rest hasked h =>
      obtain ⟨w', hturns, hended⟩ := refusing_ends h hclosed hid
      refine ⟨w', hturns, _, hended, ?_⟩
      cases asked <;> first | rfl | exact absurd rfl hasked
  | obliging h =>
      obtain ⟨w', hturns, hended⟩ :=
        obliging_ends h (hw.orderly id _ hid) (hfree rfl) hclosed hid
      exact ⟨w', hturns, _, hended, rfl⟩

/-- Traffic on a closed client, all of whose operations from `first` on were begun on it. -/
structure ShutFrom (first : Nat) (w : Traffic) : Prop where
  orderly : w.AllOrderly
  closed : w.client.shared.closed = true
  begun : first ≤ w.visits.length
  shut : ∀ (id : Nat) (v : Visit), first ≤ id → w.visits[id]? = some (some v) → Shut v

theorem ShutFrom.step {first : Nat} (h : w.ShutFrom first) (hstep : Step w w') :
    w'.ShutFrom first where
  orderly := h.orderly.step hstep
  closed := hstep.closed h.orderly h.closed
  begun := Nat.le_trans h.begun hstep.length_le
  shut id v hle hid := by
    rcases hstep.visit hid with ⟨hid', _⟩ | ⟨_, _, asked, rfl⟩ | ⟨v₀, hid', hgoes⟩
    · exact h.shut id v hle hid'
    · exact .begin _ asked
    · exact (h.shut id v₀ hle hid').goes h.closed hgoes

theorem ShutFrom.refuses {first : Nat} (h : w.ShutFrom first) : w.Refuses first where
  closed := h.closed
  silent id v hle hid := by cases h.shut id v hle hid <;> rfl
  outcome id v e hle hid he := (h.shut id v hle hid).error?_eq he
  ends id v hle hid hfree := (h.shut id v hle hid).ends h.orderly h.closed hid hfree

/-- **A closed client** refuses whatever is begun on it, wherever the operations are that were
begun before, and whatever is answered to them. -/
theorem Reachable.refuses (h : w.Reachable) (hclosed : w.client.shared.closed = true)
    (hsteps : ReflTransGen Step w w') : w'.Refuses w.visits.length := by
  have hbefore : w.ShutFrom w.visits.length := by
    refine ⟨h.allOrderly, hclosed, Nat.le_refl _, fun id v hle hid => ?_⟩
    exact absurd (List.getElem?_eq_some_iff.mp hid).1 (Nat.not_lt_of_le hle)
  have hafter : w'.ShutFrom w.visits.length := by
    induction hsteps with
    | refl => exact hbefore
    | tail _ hstep ih => exact ih.step hstep
  exact hafter.refuses

end Traffic

end HealthWatch.Client
