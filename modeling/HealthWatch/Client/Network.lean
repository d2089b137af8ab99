import HealthWatch.Client.Bson
import HealthWatch.Client.Endpoint
import HealthWatch.Dependency

/-!
# Peers and exchanges

Clients live in a `Network`: the servers behind the sockets of this machine, and
whatever is reached over TCP.  A client asks and a peer answers; each of these
exchanges is counted, so that one can say that none took place.

A server answers from lists and remembers what it was asked.  It meets none of
the demands that a client may have beforehand.  Nothing is known of the peers that
are reached over TCP but how they answer.
-/

namespace HealthWatch.Client

/-- What a client asks. -/
inductive Request where
  /-- That a connection be opened. -/
  | connect
  /-- For a resource over HTTP. -/
  | fetch
  /-- That a command be run. -/
  | command (name : String)
  /-- That a statement be executed. -/
  | statement (sql : String)
  /-- That all connections be given up. -/
  | leave
deriving DecidableEq

/-- What a peer answers. -/
inductive Message where
  | accepted
  | status (code : UInt16)
  | text (s : String)
  | document (fields : List (String × Bson))

/-- How a server of a relational database answers. -/
inductive DatabaseReply where
  | ok
  | error (code text : String)
  /-- The server drops the connection. -/
  | close
deriving DecidableEq

/-- The word for how a statement ended. -/
def DatabaseReply.word : DatabaseReply → String
  | .ok => "run"
  | .error .. => "error"
  | .close => "close"

/-- A server of a relational database. -/
structure DatabaseServer where
  /-- The answer to the `n`-th connection, counted from one. -/
  startup : Nat → DatabaseReply
  /-- The answer to the `n`-th statement, counted from one. -/
  answer : Nat → DatabaseReply
  /-- How many connections were tried. -/
  started : Nat
  /-- How many statements were executed. -/
  executed : Nat
  /-- The statements that were executed, the latest first, and how they ended. -/
  seen : List (String × String)

/-- How a document store answers. -/
inductive StoreReply where
  | document (fields : List (String × Bson))
  | error (code : Nat) (text : String)
  /-- The server drops the connection. -/
  | close

/-- A document store. -/
structure DocumentServer where
  /-- The answer to a command that is sent for the `n`-th time, counted from
  one. -/
  answer : String → Nat → StoreReply
  /-- The commands that were sent, the latest first, and the database that they
  were sent to. -/
  seen : List (String × String)

/-- A server behind a socket. -/
inductive Server where
  | database (s : DatabaseServer)
  | documents (s : DocumentServer)

/-- Where clients find their peers. -/
structure Network where
  /-- The servers behind sockets, by path. -/
  sockets : NameMap Server
  /-- The answer to the `n`-th exchange, counted from one, if it is over TCP. -/
  overTcp : Nat → Reply Message
  /-- How many exchanges there were. -/
  exchanges : Nat

/-- The error of a connection that did not last. -/
def dropped : DependencyError := .connection "connection dropped by the peer"

/-- The error of a peer that is not there. -/
def unreachable : DependencyError := .connection "Network is unreachable (os error 101)"

/-- The error of a socket that nobody listens on. -/
def absent : DependencyError := .connection "No such file or directory (os error 2)"

/-- The error of a client whose demand is not met. -/
def unmet : Demand → DependencyError
  | .encryption => .connection "the server does not encrypt"
  | .membership => .connection "no server of the set was found"
  | .login => .protocol "the server does not know who asks"
  | .balancing => .protocol "the server stands for itself only"

namespace DatabaseServer

/-- The codes with which a server says that it may accept a connection later. -/
def isTransient (code : String) : Bool := code == "53300" || code == "57P03"

/-- The pause after one of `pause` milliseconds; they double up to a fifth of the
time that there is. -/
def nextPause (timeout pause : Nat) : Nat := min (2 * pause) (timeout / 5)

/-- Opens a connection within `timeout` milliseconds, of which `spent` have gone
by.  It is tried again as long as the server says that this may help.  `fuel`
bounds the number of tries. -/
def open? (timeout : Nat) : (fuel spent pause : Nat) → DatabaseServer →
    Reply Message × DatabaseServer
  | 0, _, _, s => (.after timeout (.error (.connection "pool timed out")), s)
  | fuel + 1, spent, pause, s =>
    let next := { s with started := s.started + 1 }
    match s.startup next.started with
    | .ok => (.after spent (.ok .accepted), next)
    | .close => (.after spent (.error dropped), next)
    | .error code text =>
      if !isTransient code then (.after spent (.error (.protocol text)), next)
      else if timeout ≤ spent + pause then
        (.after timeout (.error (.connection "pool timed out")), next)
      else open? timeout fuel (spent + pause) (nextPause timeout pause) next

/-- The pause after the first try that failed, in milliseconds. -/
def firstPause : Nat := 10

/-- Executes a statement. -/
def execute (s : DatabaseServer) (sql : String) : Except DependencyError Message × DatabaseServer :=
  let reply := s.answer (s.executed + 1)
  let s := { s with executed := s.executed + 1, seen := (sql, reply.word) :: s.seen }
  match reply with
  | .ok => (.ok .accepted, s)
  | .error _ text => (.error (.protocol text), s)
  | .close => (.error dropped, s)

end DatabaseServer

/-- Sends a command to a document store. -/
def DocumentServer.run (s : DocumentServer) (command : String) :
    Except DependencyError Message × DocumentServer :=
  let times := (s.seen.filter (·.1 == command)).length + 1
  let next := { s with seen := (command, "admin") :: s.seen }
  match s.answer command times with
  | .document fields => (.ok (.document fields), next)
  | .error _ text => (.error (.protocol text), next)
  | .close => (.error dropped, next)

/-- Asks a server; one of another kind does not understand the client. -/
def Server.ask (timeout : Nat) (s : Server) (request : Request) : Reply Message × Server :=
  match s, request with
  | .database d, .connect =>
    let (reply, d) := d.open? timeout (timeout + 1) 0 DatabaseServer.firstPause
    (reply, .database d)
  | .database d, .statement sql =>
    let (outcome, d) := d.execute sql
    (.after 0 outcome, .database d)
  | .documents d, .command name =>
    let (outcome, d) := d.run name
    (.after 0 outcome, .documents d)
  | s, _ => (.after 0 (.error dropped), s)

namespace Network

/-- The network of the given servers in which nothing is reached over TCP. -/
def ofSockets (sockets : NameMap Server) : Network :=
  ⟨sockets, fun _ => .after 0 (.error unreachable), 0⟩

/-- One exchange with the peer at an endpoint. -/
def ask (n : Network) (timeout : Nat) (endpoint : Endpoint) (request : Request) :
    Reply Message × Network :=
  let next := { n with exchanges := n.exchanges + 1 }
  match endpoint with
  | .host _ => (n.overTcp next.exchanges, next)
  | .socket path demand =>
    match n.sockets.get? path, demand with
    | none, _ => (.after 0 (.error absent), next)
    | some _, some demand => (.after 0 (.error (unmet demand)), next)
    | some server, none =>
      let (reply, server) := server.ask timeout request
      (reply, { next with sockets := n.sockets.insert path server })

end Network

end HealthWatch.Client
