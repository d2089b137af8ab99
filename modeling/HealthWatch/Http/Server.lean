import HealthWatch.Net.SocketAddress

/-!
# Servers

A server takes a port and serves what it was given to serve until it is told to
stop.  Of two servers that want the same port, only the first gets it.
-/

namespace HealthWatch.Http

open HealthWatch.Net

/-- What a server serves. -/
inductive Endpoint where
  | health
  /-- The metrics, at a path. -/
  | metrics (path : String)
deriving DecidableEq

/-- Why a server does not serve. -/
inductive ServerError where
  /-- Nothing was given to serve. -/
  | noHandler
  /-- The port is taken. -/
  | cannotBind (address : SocketAddress)
deriving DecidableEq

/-- What is told of a server that does not serve. -/
def ServerError.message : ServerError → String
  | .noHandler => "handler must be set via with_handler()"
  | .cannotBind address => "Failed to bind " ++ address.text

/-- What is told of a server that does not serve, and why. -/
def ServerError.details : ServerError → String
  | .noHandler => ServerError.noHandler.message
  | .cannotBind address =>
    (ServerError.cannotBind address).message ++ ": Address already in use (os error 98)"

/-- The ports of this machine that are taken. -/
structure Ports where
  taken : List Nat
deriving DecidableEq

/-- Takes the port of an address.  Port zero stands for one that is free. -/
def Ports.bind (p : Ports) (address : SocketAddress) : Except ServerError Ports :=
  if address.port = 0 then .ok p
  else if p.taken.contains address.port then .error (.cannotBind address)
  else .ok ⟨address.port :: p.taken⟩

/-- A server that has not been started. -/
structure Server where
  address : SocketAddress
  endpoint : Option Endpoint

/-- Starts a server.  Whether it has anything to serve is looked at before its
port is taken. -/
def Server.start (s : Server) (p : Ports) : Except ServerError Ports :=
  match s.endpoint with
  | none => .error .noHandler
  | some _ => p.bind s.address

end HealthWatch.Http
