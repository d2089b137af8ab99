import HealthWatch.Client

/-!
# Operations that are under way together

Operations on one client share what it keeps, and each of their steps may be followed by a step
of another.  `Traffic` is a client with the operations that are under way on it, and `Step` says
what can happen: an operation begins, takes its next step, asks, hears an answer, or is given up,
and time passes.  The answers may be any.
-/

namespace HealthWatch.Client

/-- What a client is asked for. -/
inductive Asked where
  | connect
  | check
  | details
  | close
deriving DecidableEq

/-- What is asked for, if it succeeds. -/
abbrev Asked.Result : Asked → Type
  | .details => Diagnostics
  | .connect | .check | .close => Unit

/-- What a client does for it; to connect is to check. -/
def Adapter.operation (a : Adapter) : (asked : Asked) → Operation asked.Result
  | .connect | .check => a.check
  | .details => a.details
  | .close => a.close

/-- An operation under way. -/
structure Visit where
  asked : Asked
  /-- What it still has to do. -/
  rest : Operation asked.Result
  /-- Whether it has asked what it asks next, and waits for the answer. -/
  awaiting : Bool
  /-- How many exchanges it has begun. -/
  exchanges : Nat

/-- A client with the operations on it. -/
structure Traffic where
  client : Client
  now : Instant
  /-- The operation that has the lock. -/
  holder : Option Nat
  /-- All operations that were begun; those that were given up are absent. -/
  visits : List (Option Visit)

/-- The next step of operation `id`, unless it asks, has ended, or waits for the lock: what it
still has to do then, what is shared, and who has the lock. -/
def Operation.step? {α : Type} (id : Nat) (now : Instant) (s : Shared) (holder : Option Nat) :
    Operation α → Option (Operation α × Shared × Option Nat)
  | .done _ => none
  | .clock next => some (next now, s, holder)
  | .update change next => some (next s, change s, holder)
  | .lock next => if holder.isNone then some (next, s, some id) else none
  | .unlock next => some (next, s, if holder = some id then none else holder)
  | .ask .. => none

namespace Traffic

/-- A client that was not called yet. -/
def start (adapter : Adapter) : Traffic := ⟨.new adapter, 0, none, []⟩

/-- Puts an operation in its place. -/
def put (w : Traffic) (id : Nat) (v : Option Visit) : Traffic :=
  { w with visits := w.visits.set id v }

/-- Operation `id` as it goes on, with what is shared and who has the lock. -/
def goOn (w : Traffic) (id : Nat) (v : Visit) (rest : Operation v.asked.Result) (s : Shared)
    (holder : Option Nat) : Traffic :=
  { w.put id (some { v with rest }) with
    client := { w.client with shared := s }
    holder := holder }

/-- What operation `id` can do next. -/
inductive Turn (id : Nat) (w : Traffic) : Traffic → Prop
  /-- It takes a step. -/
  | step {v : Visit} {rest : Operation v.asked.Result} {s : Shared} {holder : Option Nat}
      (hid : w.visits[id]? = some (some v))
      (hstep : v.rest.step? id w.now w.client.shared w.holder = some (rest, s, holder)) :
      Turn id w (w.goOn id v rest s holder)
  /-- It asks. -/
  | ask {v : Visit} {timeout : Nat} {endpoint : Endpoint} {request : Request}
      {next : Except DependencyError Message → Operation v.asked.Result}
      (hid : w.visits[id]? = some (some v))
      (hrest : v.rest = .ask timeout endpoint request next) (hasks : v.awaiting = false) :
      Turn id w (w.put id (some { v with awaiting := true, exchanges := v.exchanges + 1 }))
  /-- An answer comes. -/
  | answer {v : Visit} {timeout : Nat} {endpoint : Endpoint} {request : Request}
      {next : Except DependencyError Message → Operation v.asked.Result}
      (answer : Except DependencyError Message) (hid : w.visits[id]? = some (some v))
      (hrest : v.rest = .ask timeout endpoint request next) (hawaits : v.awaiting = true) :
      Turn id w (w.put id (some { v with rest := next answer, awaiting := false }))

/-- What can happen. -/
inductive Step (w : Traffic) : Traffic → Prop
  /-- An operation begins. -/
  | begin (asked : Asked) :
      Step w { w with visits :=
        w.visits ++ [some ⟨asked, w.client.adapter.operation asked, false, 0⟩] }
  /-- An operation goes on. -/
  | turn (id : Nat) {w' : Traffic} (h : Turn id w w') : Step w w'
  /-- An operation is given up, and with it the lock if it has that. -/
  | drop (id : Nat) :
      Step w { w.put id none with holder := if w.holder = some id then none else w.holder }
  /-- Time passes. -/
  | pass {time : Instant} (hle : w.now ≤ time) : Step w { w with now := time }

end Traffic

end HealthWatch.Client
