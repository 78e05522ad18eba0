import OutlineChart.Http.Cors
import OutlineChart.Http.Location
import OutlineChart.Http.Reply
import OutlineChart.Service

/-! # The HTTP interface

Outlines are compiled at one address, Mermaid text is rendered at another, and a third one tells
that the service is up.  What goes wrong in a service is answered; what goes wrong in reading a
request or in writing a response is not, and ends in a bare server error.
-/

namespace OutlineChart

namespace Http
open Browser

structure Services where
  generateDiagram : Option Text → Act Text
  generatePdf : Option Text → Act Render.Document

def Services.standard (b : Backend) (s : Settings) : Services where
  generateDiagram := Service.generateDiagram
  generatePdf := Service.generatePdf b s

/-! ## The services -/

def isLatin1 (s : String) : Bool := s.toList.all fun c => c.toNat < 0x100

def documentHeaders (d : Render.Document) : Headers :=
  [("Content-Disposition", "attachment; filename=\"" ++ d.filename ++ "\""),
    ("Content-Length", toString d.size)]

def pdfReply (d : Render.Document) : Reply :=
  if isLatin1 d.filename then
    .ok (.ofHeaders 200 (documentHeaders d) Render.Document.mediaType d.content)
  else .error .encoding

def tooLarge : Reply := .ofError 413 "Request body too large" none

def diagram (services : Services) (text : Text) : Act Reply := do
  match ← Act.attempt (services.generateDiagram (some text)) with
  | .ok mermaid => pure (.plain 200 mermaid)
  | .error (.failure (.diagram e) _) => pure (.ofError e.status e.message none)
  | .error (.failure f _) =>
      Act.log .diagramRequestFailed
      pure (.ofError 500 ("Diagram error: " ++ f.text) none)
  | .error other => Act.raise other

/-- The answer to a diagram error of a PDF request: a failed render is told apart. -/
def pdfError (e : DiagramError) : Reply :=
  if e.isRender then .ofError e.status "PDF generation failed" (some e.report)
  else .ofError e.status e.message e.details

def pdf (services : Services) (text : Text) : Act Reply := do
  match ← Act.attempt (services.generatePdf (some text)) with
  | .ok document => pure (pdfReply document)
  | .error (.failure (.diagram e) _) => pure (pdfError e)
  | .error (.failure f _) =>
      Act.log .pdfRequestFailed
      pure (.ofError 500 "PDF generation failed" (some f.text))
  | .error other => Act.raise other

def onText (s : Settings) (r : Request) (answer : Text → Act Reply) : Act Reply :=
  match r.read s.maxBodyBytes with
  | .ok (.text t) => answer t
  | .ok _ => pure tooLarge
  | .error obstacle => pure (.error (.unread obstacle))

/-! ## Routes -/

inductive Route where
  | health
  | diagram
  | pdf
  deriving DecidableEq, Repr

namespace Route

def all : List Route := [health, diagram, pdf]

def path : Route → String
  | health => "/health"
  | diagram => "/generate-diagram"
  | pdf => "/generate-pdf"

def method : Route → String
  | health => "GET"
  | diagram => "POST"
  | pdf => "POST"

/-- The route of a path.  A line feed at the end of a path is none of it. -/
def ofPath? (path : String) : Option Route :=
  all.find? fun route => path = route.path || path = route.path ++ "\n"

/-- The same path without the slashes at its end, or with one more if it has none. -/
def otherSlash (path : String) : String :=
  if path.endsWith "/" then String.ofList (path.toList.reverse.dropWhile (· = '/')).reverse
  else path ++ "/"

end Route

def notFound : Reply := .json 404 [("detail", "Not Found")]

def wrongMethod (route : Route) : Reply :=
  .json 405 [("detail", "Method Not Allowed")] [("Allow", route.method)]

/-- The way to the same place under the path that is known. -/
def redirect (r : Request) (path : String) : Response where
  status := 307
  headers := [("content-length", "0"), ("location", Location.ofPath r path)]
  body := []

/-- Answers a request, origins apart. -/
def route (services : Services) (s : Settings) (r : Request) : Act Reply :=
  match Route.ofPath? r.path with
  | some found =>
      if r.method ≠ found.method then pure (wrongMethod found)
      else match found with
        | .health => pure (.json 200 [("status", "ok")])
        | .diagram => onText s r (diagram services)
        | .pdf => onText s r (pdf services)
  | none =>
      let other := Route.otherSlash r.path
      if (Route.ofPath? other).isSome then pure (.ok (redirect r other)) else pure notFound

def handle (services : Services) (s : Settings) (r : Request) : Act Reply :=
  match Cors.preflight? r with
  | some (origin, method) => pure (.ok (Cors.preflight s r origin method))
  | none => do
      let reply ← route services s r
      pure (reply.adding (Cors.headers s r))

def runs (services : Services) (s : Settings) (o : Oracle) (rs : List Request) : List (Run Reply) :=
  Act.runs o (rs.map (handle services s))

end Http

end OutlineChart
