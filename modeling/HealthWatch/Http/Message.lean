/-!
# Requests and responses
-/

namespace HealthWatch.Http

/-- What a request asks for. -/
structure Request where
  method : String
  path : String
deriving DecidableEq

/-- An answer to a request. -/
structure Response where
  status : Nat
  /-- Names and values. -/
  headers : List (String × String)
  body : String
deriving DecidableEq

namespace Response

/-- The phrase of a status that the service answers with. -/
def phrase : Nat → String
  | 200 => "OK"
  | 400 => "Bad Request"
  | 404 => "Not Found"
  | 405 => "Method Not Allowed"
  | 414 => "URI Too Long"
  | 431 => "Request Header Fields Too Large"
  | _ => ""

/-- The answer for a path that nothing is served at. -/
def notFound : Response := ⟨404, [], "Not Found"⟩

/-- The answer for a method other than the one allowed. -/
def methodNotAllowed (allowed : String) : Response :=
  ⟨405, [("allow", allowed)], "Method Not Allowed"⟩

end Response

end HealthWatch.Http
