import HealthWatch.Client.DatabaseUrl
import HealthWatch.Client.Operation
import HealthWatch.Client.StoreUri
import HealthWatch.Config

/-!
# Clients as dependencies

A `Client` watches one backing service through the service's own protocol.  A
check is the least exchange that shows the service answering: a connection, a
request, a `PING`, a `SELECT 1`, a `ping`.  Some clients also tell diagnostics.

Each kind of client has its own way to be closed.  Two of them only remember
it, one also gives up the connection that it keeps, and two wait until their
driver has given up its connections.  Whatever a client does begins by looking
whether the client was closed.

How a client's driver reads what it is told of its peer is left open: `Drivers`
says which clients can be made, and of which endpoints.

A call of the service is an operation that is run while no other is under way on
that client (`perform`).  What operations do that are under way together is in
`Client.Traffic`.
-/

namespace HealthWatch

namespace Client

/-- The milliseconds within which clients open a connection. -/
def connectTimeout : Nat := 5000

/-- Whether an answer shows that a connection did not last. -/
def isDropped {α : Type} : Except DependencyError α → Bool
  | .error (.connection _) => true
  | _ => false

/-- The milliseconds between two instants, as a double. -/
def elapsed (start now : Instant) : Float := (Duration.ofMillis (now - start)).toMillis

/-- Any answer will do. -/
def anyMessage (_ : Message) : Except DependencyError Unit := .ok ()

/-! ## Anything that accepts a connection -/

namespace Tcp

/-- A failure to connect, told with the address. -/
def withAddress {α : Type} (address : String) :
    Except DependencyError α → Except DependencyError α
  | .error (.connection reason) => .error (.connection (address ++ ": " ++ reason))
  | outcome => outcome

/-- Opens a connection, of which nothing else is asked. -/
def check (address : String) : Operation Unit :=
  .whenOpen <|
    match addressFault? address with
    | some fault => .done (withAddress address (.error (.connection fault)))
    | none =>
      .ask connectTimeout (.host address) .connect fun answer =>
        .done (withAddress address (answer.bind anyMessage))

/-- Remembers that the client is closed. -/
def close : Operation Unit := .update Shared.close fun _ => .done (.ok ())

end Tcp

/-! ## Endpoints over HTTP -/

namespace Http

/-- Every status from 200 to 299 will do. -/
def goodStatus : Message → Except DependencyError Unit
  | .status code =>
    if 200 ≤ code.toNat ∧ code.toNat < 300 then .ok () else .error (.status code)
  | _ => .error dropped

/-- Fetches the resource. -/
def check (endpoint : Endpoint) : Operation Unit :=
  .whenOpen (.exchange connectTimeout endpoint .fetch goodStatus)

/-- A check with the time that it took; the uptime is that of the client. -/
def details (endpoint : Endpoint) (created : Instant) : Operation Diagnostics :=
  .clock fun start => (check endpoint).andThen fun () => .clock fun now =>
    .done (.ok ⟨(Duration.ofMillis (now - created)).uptime, elapsed start now⟩)

/-- Remembers that the client is closed. -/
def close : Operation Unit := .update Shared.close fun _ => .done (.ok ())

end Http

/-! ## Key-value stores -/

namespace Redis

/-- Sees to it that a connection is kept.  Whoever opens one has the lock until it is there. -/
def connection (endpoint : Endpoint) : Operation Unit :=
  .whenOpen <| .lock <| .update id fun s =>
    if s.kept then .unlock (.done (.ok ()))
    else
      .ask connectTimeout endpoint .connect fun
        | .ok _ => .update Shared.keep fun _ => .unlock (.done (.ok ()))
        | .error e => .unlock (.done (.error e))

/-- Runs a command over the connection that is kept, which is given up if it did not last. -/
def query (endpoint : Endpoint) (command : String) : Operation Message :=
  (connection endpoint).andThen fun () =>
    .ask connectTimeout endpoint (.command command) fun answer =>
      if isDropped answer then
        .lock (.update Shared.release fun _ => .unlock (.done answer))
      else .done answer

/-- Only one answer to a `PING` will do. -/
def pong : Message → Except DependencyError Unit
  | .text s => if s = "PONG" then .ok () else .error (.protocol ("PING returned " ++ s))
  | _ => .error dropped

/-- Runs a `PING`. -/
def check (endpoint : Endpoint) : Operation Unit :=
  (query endpoint "PING").andThen fun answer => .done (pong answer)

/-- The lines of a text. -/
def lines (s : String) : List (List Char) :=
  (s.splitOn "\n").map fun line =>
    match line.toList.reverse with
    | '\r' :: rest => rest.reverse
    | cs => cs.reverse

/-- The uptime that a key-value store tells among the lines about itself: the last
line of that name counts. -/
def infoUptime? (info : String) : Option Nat := do
  let pairs := (lines info).filterMap fun line =>
    if line.head? = some '#' then none
    else splitFirst ":" (String.ofList line)
  countOfText? (Nat.pow 2 64) (← pairs.reverse.lookup "uptime_in_seconds")

/-- The diagnostics out of the answer to an `INFO`. -/
def infoMessage (latency : Float) : Message → Except DependencyError Diagnostics
  | .text s =>
    match infoUptime? s with
    | some secs => .ok ⟨(Duration.ofSecs secs).uptime, latency⟩
    | none => .error (.protocol "INFO has no uptime_in_seconds")
  | _ => .error dropped

/-- A check with the time that it took, and the uptime that the store tells. -/
def details (endpoint : Endpoint) : Operation Diagnostics :=
  .clock fun start => (check endpoint).andThen fun () => .clock fun now =>
    (query endpoint "INFO").andThen fun answer =>
      .done (infoMessage (elapsed start now) answer)

/-- Remembers that the client is closed, and gives up the connection that is kept. -/
def close : Operation Unit :=
  .update Shared.close fun _ => .lock <| .update Shared.release fun _ => .unlock (.done (.ok ()))

end Redis

/-! ## Relational databases -/

namespace Postgres

/-- The error of a pool that was closed. -/
def poolClosed : DependencyError :=
  PostgresFailure.poolClosed.toError "attempted to acquire a connection on a closed pool"

/-- Executes a statement over a connection that is out of the pool, and puts it back if it
lasted. -/
def executeOver (endpoint : Endpoint) (timeout : Nat) (sql : String) : Operation Message :=
  .ask timeout endpoint (.statement sql) fun answer =>
    if isDropped answer then .done answer else .update Shared.keep fun _ => .done answer

/-- Executes a statement over a connection out of the pool; if there is none, one is opened, which
has so many milliseconds. -/
def execute (endpoint : Endpoint) (timeout : Nat) (sql : String) : Operation Message :=
  .update Shared.release fun s =>
    if s.closed then .done (.error poolClosed)
    else if s.kept then executeOver endpoint timeout sql
    else
      .ask timeout endpoint .connect fun
        | .ok _ => executeOver endpoint timeout sql
        | .error e => .done (.error e)

/-- Executes a `SELECT 1`. -/
def check (endpoint : Endpoint) (timeout : Nat) : Operation Unit :=
  .whenOpen ((execute endpoint timeout "SELECT 1").andThen fun answer => .done (anyMessage answer))

/-- Closes the pool, and waits until its connections are given up; who closes it again waits for
the first to be through. -/
def close (endpoint : Endpoint) (timeout : Nat) : Operation Unit :=
  .lock <| .update Shared.close fun s =>
    if s.closed then .unlock (.done (.ok ()))
    else .ask timeout endpoint .leave fun _ => .unlock (.done (.ok ()))

end Postgres

/-! ## Document stores -/

namespace Mongo

/-- Runs a command. -/
def adminCommand (endpoint : Endpoint) (timeout : Nat) (command : String) : Operation Message :=
  .whenOpen (.ask timeout endpoint (.command command) .done)

/-- Runs a `ping`. -/
def check (endpoint : Endpoint) (timeout : Nat) : Operation Unit :=
  (adminCommand endpoint timeout "ping").andThen fun answer => .done (anyMessage answer)

/-- The diagnostics out of the answer to a `serverStatus`. -/
def statusDocument (latency : Float) : Message → Except DependencyError Diagnostics
  | .document fields =>
    match serverUptime? fields with
    | some secs => .ok ⟨(Duration.ofSecs secs).uptime, latency⟩
    | none => .error (.protocol "serverStatus has no uptime")
  | _ => .error (.protocol "serverStatus has no uptime")

/-- A check with the time that it took, and the uptime that the store tells. -/
def details (endpoint : Endpoint) (timeout : Nat) : Operation Diagnostics :=
  .clock fun start => (check endpoint timeout).andThen fun () => .clock fun now =>
    (adminCommand endpoint timeout "serverStatus").andThen fun answer =>
      .done (statusDocument (elapsed start now) answer)

/-- Remembers that the client is closed; the first time it waits until the driver has given up
its connections. -/
def close (endpoint : Endpoint) (timeout : Nat) : Operation Unit :=
  .update Shared.close fun s =>
    if s.closed then .done (.ok ())
    else .ask timeout endpoint .leave fun _ => .done (.ok ())

end Mongo

/-! ## Adapters -/

/-- What a client watches, and how. -/
inductive Adapter where
  /-- Anything that accepts a connection at an address. -/
  | tcp (address : String)
  /-- An endpoint over HTTP; only a `detailed` one tells diagnostics. -/
  | http (endpoint : Endpoint) (detailed : Bool) (created : Instant)
  /-- A key-value store, over a connection that all operations share. -/
  | redis (endpoint : Endpoint)
  /-- A relational database, over a pool of connections. -/
  | postgres (endpoint : Endpoint) (timeout : Nat)
  /-- A document store. -/
  | mongo (endpoint : Endpoint) (timeout : Nat)

namespace Adapter

/-- Asks whether the service is there. -/
def check : Adapter → Operation Unit
  | .tcp address => Tcp.check address
  | .http endpoint _ _ => Http.check endpoint
  | .redis endpoint => Redis.check endpoint
  | .postgres endpoint timeout => Postgres.check endpoint timeout
  | .mongo endpoint timeout => Mongo.check endpoint timeout

/-- Asks for diagnostics, if there are any. -/
def details? : Adapter → Option (Operation Diagnostics)
  | .tcp _ | .postgres .. => none
  | .http endpoint detailed created =>
    if detailed then some (Http.details endpoint created) else none
  | .redis endpoint => some (Redis.details endpoint)
  | .mongo endpoint timeout => some (Mongo.details endpoint timeout)

/-- Asks for diagnostics; nobody asks a client that tells none. -/
def details (a : Adapter) : Operation Diagnostics := a.details?.getD (.done (.error .closed))

/-- Gives up what the client holds. -/
def close : Adapter → Operation Unit
  | .tcp _ => Tcp.close
  | .http .. => Http.close
  | .redis _ => Redis.close
  | .postgres endpoint timeout => Postgres.close endpoint timeout
  | .mongo endpoint timeout => Mongo.close endpoint timeout

end Adapter

/-! ## Drivers -/

/-- How drivers read what they are told of their peers. -/
structure Drivers where
  http : Net.Url → Option Endpoint
  /-- An address, a password and the number of a database. -/
  redis : String → Option String → Option Nat → Option Endpoint
  postgres : String → Option Endpoint
  mongo : String → Option Endpoint

/-- The drivers of this library.  They look nothing up: neither the servers behind one name nor
certificates in files. -/
def Drivers.plain : Drivers where
  http url := some (.host url.text)
  redis := redisEndpoint?
  postgres := postgresEndpoint?
  mongo := mongoEndpoint?

/-- Why no client could be made. -/
inductive SetupFailure where
  | postgresPool
  | mongoClient
  | redisClient
  | httpClient
deriving DecidableEq

/-- What is told of a client that could not be made. -/
def SetupFailure.message : SetupFailure → String
  | .postgresPool => "Failed to create PostgreSQL pool"
  | .mongoClient => "Failed to create MongoDB client"
  | .redisClient => "Failed to create Redis client"
  | .httpClient => "Failed to create HTTP client"

end Client

/-- A client of a backing service. -/
structure Client where
  adapter : Client.Adapter
  shared : Client.Shared

namespace Client

/-- A client that was not called yet. -/
def new (adapter : Adapter) : Client := ⟨adapter, .fresh⟩

/-- A client of an endpoint that could be read. -/
def ofEndpoint (failure : SetupFailure) (adapter : Endpoint → Adapter) :
    Option Endpoint → Except SetupFailure Client
  | some endpoint => .ok (new (adapter endpoint))
  | none => .error failure

/-- The client of a configured dependency.  Nothing is connected yet. -/
def ofKind (drivers : Drivers) (timeout : Nat) (now : Instant) :
    DependencyKind → Except SetupFailure Client
  | .tcp address => .ok (new (.tcp address))
  | .http url detailed => ofEndpoint .httpClient (.http · detailed now) (drivers.http url)
  | .redis address password db =>
    ofEndpoint .redisClient .redis (drivers.redis address password db)
  | .postgres url => ofEndpoint .postgresPool (.postgres · timeout) (drivers.postgres url)
  | .mongo uri => ofEndpoint .mongoClient (.mongo · timeout) (drivers.mongo uri)

/-- Has a client perform an operation while no other is under way. -/
def perform {α : Type} (now : Instant) (c : Client) (n : Network) (op : Operation α) :
    Reply α × Client × Network :=
  let (reply, shared, n) := op.run now c.shared n
  (reply, { c with shared }, n)

instance : Dependency Client Network where
  hasDetails c := c.adapter.details?.isSome
  check now c n := c.perform now n c.adapter.check
  details now c n := c.perform now n c.adapter.details
  close now c n := c.perform now n c.adapter.close
  hasDetails_check _ _ _ := rfl
  hasDetails_details _ _ _ := rfl
  hasDetails_close _ _ _ := rfl
  hasDetails_connect _ _ _ := rfl

end Client

end HealthWatch
