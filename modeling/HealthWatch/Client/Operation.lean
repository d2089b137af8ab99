import HealthWatch.Client.Network

/-!
# Operations of a client

What a client does when it is called is an `Operation`: it looks at the clock and at what the
operations of the client share, changes that, locks the connection, asks its peer, and ends.
It waits for the lock and for answers, and other operations go on meanwhile.

`Operation.run` runs an operation while no other is under way.  Operations that are under way
together are in `Client.Traffic`.
-/

namespace HealthWatch.Client

/-- What the operations of a client share. -/
structure Shared where
  closed : Bool
  /-- Whether an open connection is kept for the next operation. -/
  kept : Bool
deriving DecidableEq

namespace Shared

/-- What is shared before the first operation. -/
def fresh : Shared := ⟨false, false⟩

/-- The client is closed. -/
def close (s : Shared) : Shared := { s with closed := true }

/-- A connection is kept. -/
def keep (s : Shared) : Shared := { s with kept := true }

/-- No connection is kept any more. -/
def release (s : Shared) : Shared := { s with kept := false }

end Shared

/-- What an operation does next, and how it goes on. -/
inductive Operation (α : Type) where
  /-- It has ended. -/
  | done (outcome : Except DependencyError α)
  /-- It looks at the clock. -/
  | clock (next : Instant → Operation α)
  /-- It changes what is shared, and sees what was there. -/
  | update (change : Shared → Shared) (next : Shared → Operation α)
  /-- It waits until nobody else has the lock, and takes it. -/
  | lock (next : Operation α)
  /-- It gives back the lock. -/
  | unlock (next : Operation α)
  /-- It asks a peer and waits for the answer. -/
  | ask (timeout : Nat) (endpoint : Endpoint) (request : Request)
      (next : Except DependencyError Message → Operation α)

namespace Operation

variable {α β : Type}

/-- Goes on with what an operation ends with; a failure ends both. -/
def andThen (op : Operation α) (next : α → Operation β) : Operation β :=
  match op with
  | .done (.ok value) => next value
  | .done (.error e) => .done (.error e)
  | .clock rest => .clock fun now => (rest now).andThen next
  | .update change rest => .update change fun s => (rest s).andThen next
  | .lock rest => .lock (rest.andThen next)
  | .unlock rest => .unlock (rest.andThen next)
  | .ask timeout endpoint request rest =>
    .ask timeout endpoint request fun answer => (rest answer).andThen next

/-- Goes on only if the client is open. -/
def whenOpen (op : Operation α) : Operation α :=
  .update id fun s => if s.closed then .done (.error .closed) else op

/-- One exchange, whose answer is read. -/
def exchange (timeout : Nat) (endpoint : Endpoint) (request : Request)
    (read : Message → Except DependencyError α) : Operation α :=
  .ask timeout endpoint request fun answer => .done (answer.bind read)

/-- Runs an operation that begins at `now` while no other is under way: nobody has the lock, and
what is shared is changed by this operation only. -/
def run (now : Instant) (s : Shared) (n : Network) : Operation α → Reply α × Shared × Network
  | .done outcome => (.after 0 outcome, s, n)
  | .clock next => (next now).run now s n
  | .update change next => (next s).run now (change s) n
  | .lock next => next.run now s n
  | .unlock next => next.run now s n
  | .ask timeout endpoint request next =>
    match n.ask timeout endpoint request with
    | (.never, n) => (.never, s, n)
    | (.after wait answer, n) =>
      let (reply, s, n) := (next answer).run (now + wait) s n
      (reply.later wait, s, n)

end Operation

end HealthWatch.Client
