import HealthWatch.Http.Message
import HealthWatch.Metrics.Exposition
import HealthWatch.Report.Body

/-!
# The two endpoints

The health endpoint answers `GET /health` with a report.  A degraded report is
still a successful answer; the status stands in the body.  The metrics endpoint
answers any method at the path that it was given.
-/

namespace HealthWatch.Http

/-- The path of the health endpoint. -/
def healthPath : String := "/health"

/-- What the health endpoint does with a request. -/
inductive Routing where
  /-- It answers at once. -/
  | respond (r : Response)
  /-- It makes a report first. -/
  | report
deriving DecidableEq

/-- The path is looked at before the method. -/
def routeHealth (request : Request) : Routing :=
  if request.path ≠ healthPath then .respond .notFound
  else if request.method ≠ "GET" then .respond (.methodNotAllowed "GET")
  else .report

/-- The answer that a report makes; `stamp` writes its instants. -/
def healthResponse (stamp : Instant → String) (r : Report) : Response :=
  ⟨200, [("content-type", "application/json"), ("cache-control", "no-store")], r.body stamp⟩

/-- The answer of a metrics endpoint at `path`. -/
def metricsResponse (path : String) (m : Metrics) (request : Request) : Response :=
  if request.path ≠ path then .notFound
  else ⟨200, [("content-type", "text/plain; version=0.0.4")], m.exposition⟩

end HealthWatch.Http
