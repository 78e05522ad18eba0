import OutlineChart.Http.Body

/-! # Replies

What is replied to a request: a response, unless the request cannot be read or the response cannot
be written.  Then all that is sent is a bare server error.
-/

namespace OutlineChart

namespace Http

inductive Crash where
  | unread (obstacle : Body.Obstacle)
  /-- A text cannot be put into the bytes of a response. -/
  | encoding
  deriving DecidableEq, Repr

def Crash.name : Crash → String
  | unread obstacle => obstacle.name
  | encoding => "UnicodeEncodeError"

/-- A response, or what prevented one. -/
abbrev Reply := Except Crash Response

/-- What is sent when there is no response. -/
def serverError : Response := .plain 500 "Internal Server Error".toList

namespace Reply

/-- A text as a response, unless a surrogate stands alone in it. -/
def text (status : Nat) (own : Headers) (contentType : String) (t : Text) : Reply :=
  match Utf8.encode? t with
  | some body => .ok (.ofHeaders status own contentType body)
  | none => .error .encoding

def plain (status : Nat) (t : Text) : Reply := text status [] "text/plain; charset=utf-8" t

def json (status : Nat) (fields : List (String × Text)) (own : Headers := []) : Reply :=
  text status own "application/json" (Response.jsonObject fields)

def ofError (status : Nat) (message : Text) (details : Option Text) : Reply :=
  json status (("error", message) :: (details.map fun d => ("details", d)).toList)

def adding (reply : Reply) (hs : Headers) : Reply := reply.map fun response => response.adding hs

def sent : Reply → Response
  | .ok response => response
  | .error _ => serverError

end Reply

end Http

end OutlineChart
