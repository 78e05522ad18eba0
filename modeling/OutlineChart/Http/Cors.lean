import OutlineChart.Http.Message
import OutlineChart.Settings.Basic

/-! # Cross-origin requests

A browser asks first whether it may send a request from another origin; the answer names what is
allowed.  Every other response says that it depends on the origin, and names it if it is allowed.
-/

namespace OutlineChart

namespace Http

namespace Cors

def allowsAll (s : Settings) : Bool := s.corsOrigins.contains (Text.ofString "*")

def allows (s : Settings) (origin : String) : Bool :=
  allowsAll s || s.corsOrigins.contains (Text.ofString origin)

/-- The header that allows an origin, if it is allowed. -/
def allowOrigin (s : Settings) (origin : String) : Headers :=
  if allowsAll s then [("access-control-allow-origin", "*")]
  else if allows s origin then [("access-control-allow-origin", origin)]
  else []

def allowedMethods : List String :=
  ["DELETE", "GET", "HEAD", "OPTIONS", "PATCH", "POST", "PUT", "QUERY"]

/-- What an actual response says about origins. -/
def headers (s : Settings) (r : Request) : Headers :=
  ("vary", "Origin") :: ((r.headers.value? "origin").map (allowOrigin s)).getD []

/-! ## Preflights -/

/-- What a browser asks about: the origin and the method that it is going to use. -/
def preflight? (r : Request) : Option (String × String) :=
  if r.method = "OPTIONS" then
    match r.headers.value? "origin", r.headers.value? "access-control-request-method" with
    | some origin, some method => some (origin, method)
    | _, _ => none
  else none

/-- What is refused, in the order in which it is named. -/
def refusals (s : Settings) (r : Request) (origin method : String) : List String :=
  (if allows s origin then [] else ["origin"]) ++
    (if allowedMethods.contains method then [] else ["method"]) ++
    (if (r.headers.value? "access-control-request-private-network").isSome then
      ["private-network"] else [])

def preflightHeaders (s : Settings) (r : Request) (origin : String) : Headers :=
  [("vary", "Origin, Access-Control-Request-Method, Access-Control-Request-Headers, " ++
      "Access-Control-Request-Private-Network"),
    ("access-control-allow-methods", ", ".intercalate allowedMethods),
    ("access-control-max-age", "600")] ++
  allowOrigin s origin ++
  ((r.headers.value? "access-control-request-headers").map fun names =>
    ("access-control-allow-headers", names)).toList

def preflight (s : Settings) (r : Request) (origin method : String) : Response :=
  let answer := match refusals s r origin method with
    | [] => Response.plain 200 "OK".toList
    | refused => Response.plain 400 ("Disallowed CORS " ++ ", ".intercalate refused).toList
  answer.adding (preflightHeaders s r origin)

end Cors

end Http

end OutlineChart
