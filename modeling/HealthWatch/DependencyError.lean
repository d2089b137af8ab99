import HealthWatch.Duration

/-!
# How a dependency fails

A `DependencyError` says why a call on a dependency did not succeed.  Its text
is what reports and events show; the five kinds begin differently, so the text
tells the kind.
-/

namespace HealthWatch

/-- Why a call on a dependency failed. -/
inductive DependencyError where
  /-- No exchange with the peer took place, or it broke off. -/
  | connection (reason : String)
  /-- The peer answered something that the protocol does not allow for. -/
  | protocol (reason : String)
  /-- The peer answered with a status that means failure. -/
  | status (code : UInt16)
  /-- The call was cut off after this long. -/
  | deadlineExceeded (elapsed : Duration)
  /-- The dependency was closed before the call. -/
  | closed
deriving DecidableEq

namespace DependencyError

/-- The text of an error in reports and events. -/
def text : DependencyError → String
  | .connection reason => "connection failed: " ++ reason
  | .protocol reason => "unexpected response: " ++ reason
  | .status code => "unhealthy status: HTTP " ++ toString code.toNat
  | .deadlineExceeded elapsed => "deadline exceeded after " ++ elapsed.text
  | .closed => "dependency is closed"

/-- The word for the kind of an error. -/
def kind : DependencyError → String
  | .connection _ => "connection"
  | .protocol _ => "protocol"
  | .status _ => "status"
  | .deadlineExceeded _ => "deadline"
  | .closed => "closed"

end DependencyError

end HealthWatch
