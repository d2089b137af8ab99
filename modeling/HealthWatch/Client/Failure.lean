import HealthWatch.DependencyError
import HealthWatch.Net.Url

/-!
# What clients may meet

A dependency is reached through a client of its own protocol, and each of these
clients has failures of its own.  Whatever kept a client from talking to its
peer is a failed connection, and whatever the peer answered amiss is an
unexpected response.
-/

namespace HealthWatch

namespace Client

/-- What a Redis client may meet. -/
inductive RedisFailure where
  /-- The connection failed in one of the ways a socket fails. -/
  | io
  | responseError | authenticationFailed | typeError | execAborted | busyLoading
  | noScript | invalidConfig | moved | ask | tryAgain | clusterDown | masterDown
  | clientError | readOnly | parseError
deriving DecidableEq

/-- What a PostgreSQL client may meet. -/
inductive PostgresFailure where
  | io | tls | poolTimedOut | poolClosed
  | rowNotFound | workerCrashed | protocol | configuration | columnNotFound
  | typeNotFound | decode | columnIndex
deriving DecidableEq

/-- What a MongoDB client may meet. -/
inductive MongoFailure where
  | io
  /-- An error that the server or the caller reports. -/
  | custom
deriving DecidableEq

/-- A Redis failure as a dependency's error. -/
def RedisFailure.toError (reason : String) : RedisFailure → DependencyError
  | .io => .connection reason
  | _ => .protocol reason

/-- A PostgreSQL failure as a dependency's error: a connection that cannot be
had from the pool is a failed connection. -/
def PostgresFailure.toError (reason : String) : PostgresFailure → DependencyError
  | .io | .tls | .poolTimedOut | .poolClosed => .connection reason
  | _ => .protocol reason

/-- A MongoDB failure as a dependency's error. -/
def MongoFailure.toError (reason : String) : MongoFailure → DependencyError
  | .io => .connection reason
  | .custom => .protocol reason

/-- The error of an HTTP response, if its status is one of failure. -/
def statusError? (code : UInt16) : Option DependencyError :=
  if 400 ≤ code.toNat ∧ code.toNat < 600 then some (.status code) else none

end Client

end HealthWatch
