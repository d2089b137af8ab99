import HealthWatch.Client

/-!
# What the operations of clients do

Two things are said of operations.

* `Orderly` — an operation never opens a client that was closed, and it gives back the lock that
  it takes.  All operations of all clients are so (`Adapter.orderly_check`,
  `Adapter.orderly_details`, `Adapter.orderly_close`).
* `Refusing`, `Obliging` — on a closed client an operation only looks, and ends with that the
  client is closed; or it asks nobody, and succeeds.  Checks and diagnostics refuse
  (`Adapter.refusing_check`, `Adapter.refusing_details`), and to close obliges
  (`Adapter.obliging_close`).

Both are read off the steps of an operation, so they hold whatever other operations do meanwhile.
-/

namespace HealthWatch.Client

/-- Whoever is asked, it is one exchange. -/
theorem Network.exchanges_ask (n : Network) (timeout : Nat) (endpoint : Endpoint)
    (request : Request) : (n.ask timeout endpoint request).2.exchanges = n.exchanges + 1 := by
  unfold Network.ask
  split
  · rfl
  · split <;> rfl

namespace Operation

variable {α β γ : Type} {op : Operation α} {held : Bool}

theorem andThen_assoc (op : Operation α) (f : α → Operation β) (g : β → Operation γ) :
    (op.andThen f).andThen g = op.andThen fun a => (f a).andThen g := by
  induction op with
  | done outcome => cases outcome <;> rfl
  | clock next ih => simp only [andThen, ih]
  | update change next ih => simp only [andThen, ih]
  | lock next ih => simp only [andThen, ih]
  | unlock next ih => simp only [andThen, ih]
  | ask timeout endpoint request next ih => simp only [andThen, ih]

/-! ## Operations that keep to the rules -/

/-- An operation that leaves a closed client closed.  If it has the lock, as `held` says, it
gives it back before it ends, and otherwise it gives back what it takes. -/
inductive Orderly : Bool → Operation α → Prop
  | done (outcome : Except DependencyError α) : Orderly false (.done outcome)
  | clock {held : Bool} {next : Instant → Operation α} (h : ∀ now, Orderly held (next now)) :
      Orderly held (.clock next)
  | update {held : Bool} {change : Shared → Shared} {next : Shared → Operation α}
      (hkeeps : ∀ s, s.closed = true → (change s).closed = true)
      (h : ∀ s, Orderly held (next s)) : Orderly held (.update change next)
  | lock {next : Operation α} (h : Orderly true next) : Orderly false (.lock next)
  | unlock {next : Operation α} (h : Orderly false next) : Orderly true (.unlock next)
  | ask {held : Bool} {timeout : Nat} {endpoint : Endpoint} {request : Request}
      {next : Except DependencyError Message → Operation α}
      (h : ∀ answer, Orderly held (next answer)) : Orderly held (.ask timeout endpoint request next)

theorem Orderly.andThen (h : op.Orderly held) {next : α → Operation β}
    (hnext : ∀ value, (next value).Orderly false) : (op.andThen next).Orderly held := by
  induction h with
  | done outcome =>
      cases outcome with
      | error e => exact .done _
      | ok value => exact hnext value
  | clock _ ih => exact .clock ih
  | update hkeeps _ ih => exact .update hkeeps ih
  | lock _ ih => exact .lock ih
  | unlock _ ih => exact .unlock ih
  | ask _ ih => exact .ask ih

theorem Orderly.whenOpen (h : op.Orderly false) : (whenOpen op).Orderly false := by
  refine .update (fun s hs => hs) fun s => ?_
  split
  · exact .done _
  · exact h

/-! ## Operations on closed clients -/

/-- An operation that does no more than look if the client is closed, and ends with that it is. -/
inductive Refusing : Operation α → Prop
  | done : Refusing (.done (.error .closed))
  | clock {next : Instant → Operation α} (h : ∀ now, Refusing (next now)) : Refusing (.clock next)
  | look {next : Shared → Operation α} (h : ∀ s, s.closed = true → Refusing (next s)) :
      Refusing (.update id next)

/-- What looks first whether the client is open refuses, whatever it does then. -/
theorem refusing_whenOpen (op : Operation α) : (whenOpen op).Refusing := by
  refine .look fun s hs => ?_
  rw [if_pos hs]
  exact .done

theorem Refusing.andThen (h : op.Refusing) (next : α → Operation β) :
    (op.andThen next).Refusing := by
  induction h with
  | done => exact .done
  | clock _ ih => exact .clock ih
  | look _ ih => exact .look ih

/-- Alone, too, such an operation changes nothing and asks nobody. -/
theorem Refusing.run (h : op.Refusing) {s : Shared} (hs : s.closed = true) (now : Instant)
    (n : Network) : op.run now s n = (.after 0 (.error .closed), s, n) := by
  induction h with
  | done => rfl
  | clock _ ih => exact ih now
  | look _ ih => exact ih s hs

/-- An operation that asks nobody if the client is closed, and succeeds. -/
inductive Obliging : Operation Unit → Prop
  | done : Obliging (.done (.ok ()))
  | update {change : Shared → Shared} {next : Shared → Operation Unit}
      (h : ∀ s, s.closed = true → Obliging (next s)) : Obliging (.update change next)
  | lock {next : Operation Unit} (h : Obliging next) : Obliging (.lock next)
  | unlock {next : Operation Unit} (h : Obliging next) : Obliging (.unlock next)

end Operation

open Operation

/-! ## The operations of key-value stores -/

namespace Redis

variable (endpoint : Endpoint)

theorem orderly_connection : (connection endpoint).Orderly false := by
  refine .whenOpen (.lock (.update (fun s hs => hs) fun s => ?_))
  split
  · exact .unlock (.done _)
  · refine .ask fun answer => ?_
    cases answer with
    | ok message => exact .update (fun s hs => hs) fun s => .unlock (.done _)
    | error e => exact .unlock (.done _)

theorem orderly_query (command : String) : (query endpoint command).Orderly false := by
  refine (orderly_connection endpoint).andThen fun _ => .ask fun answer => ?_
  split
  · exact .lock (.update (fun s hs => hs) fun s => .unlock (.done _))
  · exact .done _

theorem refusing_query (command : String) : (query endpoint command).Refusing :=
  (refusing_whenOpen _).andThen _

end Redis

/-! ## The operations of relational databases -/

namespace Postgres

variable (endpoint : Endpoint) (timeout : Nat) (sql : String)

theorem orderly_executeOver : (executeOver endpoint timeout sql).Orderly false := by
  refine .ask fun answer => ?_
  split
  · exact .done _
  · exact .update (fun s hs => hs) fun s => .done _

theorem orderly_execute : (execute endpoint timeout sql).Orderly false := by
  refine .update (fun s hs => hs) fun s => ?_
  split
  · exact .done _
  · split
    · exact orderly_executeOver endpoint timeout sql
    · refine .ask fun answer => ?_
      cases answer with
      | ok message => exact orderly_executeOver endpoint timeout sql
      | error e => exact .done _

end Postgres

/-! ## All clients -/

namespace Adapter

theorem orderly_check (a : Adapter) : a.check.Orderly false := by
  cases a with
  | tcp address =>
      refine .whenOpen ?_
      split
      · exact .done _
      · exact .ask fun answer => .done _
  | http endpoint detailed created => exact .whenOpen (.ask fun answer => .done _)
  | redis endpoint => exact (Redis.orderly_query endpoint _).andThen fun _ => .done _
  | postgres endpoint timeout =>
      exact .whenOpen ((Postgres.orderly_execute endpoint timeout _).andThen fun _ => .done _)
  | mongo endpoint timeout => exact (Orderly.whenOpen (.ask .done)).andThen fun _ => .done _

theorem orderly_details (a : Adapter) : a.details.Orderly false := by
  cases a with
  | tcp address => exact .done _
  | http endpoint detailed created =>
      cases detailed with
      | false => exact .done _
      | true =>
          exact .clock fun _ => (orderly_check (.http endpoint true created)).andThen fun _ =>
            .clock fun _ => .done _
  | redis endpoint =>
      exact .clock fun _ => (orderly_check (.redis endpoint)).andThen fun _ =>
        .clock fun _ => (Redis.orderly_query endpoint _).andThen fun _ => .done _
  | postgres endpoint timeout => exact .done _
  | mongo endpoint timeout =>
      exact .clock fun _ => (orderly_check (.mongo endpoint timeout)).andThen fun _ =>
        .clock fun _ => (Orderly.whenOpen (.ask .done)).andThen fun _ => .done _

theorem orderly_close (a : Adapter) : a.close.Orderly false := by
  cases a with
  | tcp address => exact .update (fun s hs => rfl) fun s => .done _
  | http endpoint detailed created => exact .update (fun s hs => rfl) fun s => .done _
  | redis endpoint =>
      exact .update (fun s hs => rfl) fun s => .lock (.update (fun s hs => hs) fun s =>
        .unlock (.done _))
  | postgres endpoint timeout =>
      refine .lock (.update (fun s hs => rfl) fun s => ?_)
      split
      · exact .unlock (.done _)
      · exact .ask fun answer => .unlock (.done _)
  | mongo endpoint timeout =>
      refine .update (fun s hs => rfl) fun s => ?_
      split
      · exact .done _
      · exact .ask fun answer => .done _

/-- A closed client is not checked. -/
theorem refusing_check (a : Adapter) : a.check.Refusing := by
  cases a with
  | tcp address => exact refusing_whenOpen _
  | http endpoint detailed created => exact refusing_whenOpen _
  | redis endpoint => exact (Redis.refusing_query endpoint _).andThen _
  | postgres endpoint timeout => exact refusing_whenOpen _
  | mongo endpoint timeout => exact (refusing_whenOpen _).andThen _

/-- A closed client tells no diagnostics. -/
theorem refusing_details (a : Adapter) : a.details.Refusing := by
  cases a with
  | tcp address => exact .done
  | http endpoint detailed created =>
      cases detailed with
      | false => exact .done
      | true => exact .clock fun _ => (refusing_check (.http endpoint true created)).andThen _
  | redis endpoint => exact .clock fun _ => (refusing_check (.redis endpoint)).andThen _
  | postgres endpoint timeout => exact .done
  | mongo endpoint timeout =>
      exact .clock fun _ => (refusing_check (.mongo endpoint timeout)).andThen _

/-- A closed client can be closed again. -/
theorem obliging_close (a : Adapter) : a.close.Obliging := by
  cases a with
  | tcp address => exact .update fun s hs => .done
  | http endpoint detailed created => exact .update fun s hs => .done
  | redis endpoint => exact .update fun s hs => .lock (.update fun s hs => .unlock .done)
  | postgres endpoint timeout =>
      refine .lock (.update fun s hs => ?_)
      rw [if_pos hs]
      exact .unlock .done
  | mongo endpoint timeout =>
      refine .update fun s hs => ?_
      rw [if_pos hs]
      exact .done

end Adapter

end HealthWatch.Client
