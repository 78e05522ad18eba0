import OutlineChart.Json.Literal
import OutlineChart.Text.Utf8

/-! # HTTP messages

Requests and responses with their headers in order.  The name of a header is compared without
regard to case and the first header of a name counts; lengths are those of the bytes sent.
-/

namespace OutlineChart

namespace Http

/-- Names and Latin-1 values, in order. -/
abbrev Headers := List (String × String)

structure Request where
  /-- The name by which the server is known where the request comes in. -/
  server : String
  method : String
  /-- A path, perhaps with a query. -/
  target : String
  headers : Headers
  body : Bytes
  /-- The levels that a document in the body may nest where it is read. -/
  room : Nat
  deriving DecidableEq, Repr

structure Response where
  status : Nat
  headers : Headers
  body : Bytes
  deriving DecidableEq, Repr

/-- The value of the first header with a name in lower case. -/
def Headers.value? (hs : Headers) (name : String) : Option String :=
  (hs.find? fun header => header.1.toLower = name).map (·.2)

namespace Request

def path (r : Request) : String := String.ofList (r.target.toList.takeWhile (· ≠ '?'))

def query (r : Request) : String := String.ofList (r.target.toList.dropWhile (· ≠ '?'))

end Request

namespace Response

/-- A status of which no length is told. -/
def isBodiless (status : Nat) : Bool := status < 200 || status = 204 || status = 304

/-- A response with headers of its own.  Its length and type are told in addition, but neither of
them twice. -/
def ofHeaders (status : Nat) (own : Headers) (contentType : String) (body : Bytes) : Response where
  status := status
  headers := own.map (fun header => (header.1.toLower, header.2)) ++
    (if (own.value? "content-length").isSome || isBodiless status then []
      else [("content-length", toString body.length)]) ++
    (if (own.value? "content-type").isSome then [] else [("content-type", contentType)])
  body := body

def plain (status : Nat) (cs : List Char) : Response :=
  ofHeaders status [] "text/plain; charset=utf-8" (Utf8.encode cs)

/-- A flat JSON object without blanks. -/
def jsonObject (fields : List (String × Text)) : Text :=
  let members := fields.map fun (key, value) => Json.quote key ++ .char ':' :: Json.quote value
  .char '\x7b' :: [.char ','].intercalate members ++ [.char '\x7d']

def adding (r : Response) (hs : Headers) : Response := { r with headers := r.headers ++ hs }

end Response

end Http

end OutlineChart
