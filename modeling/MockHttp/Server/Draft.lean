import MockHttp.Json.Reader
import MockHttp.Step
import MockHttp.Text.Blank

/-!
# Drafts of responses

A handler writes a draft: a status, headers and a body of text. What is sent depends on the media
type that the headers announce: a body announced as JSON is read, any other is a string.
-/

namespace MockHttp.Server

open Http

/-- What a handler has written. -/
structure Draft where
  status : Nat := 200
  headers : Headers := .empty
  body : String := ""
  deriving DecidableEq, Repr

def contentType : String := "content-type"

def jsonMedia : String := "application/json"

/-- A content type announces JSON: that is what stands before the first semicolon, white space and
case aside. -/
def announcesJson (text : String) : Bool :=
  Text.sameName (String.ofList (Text.trimChars (text.toList.takeWhile (· != ';')))) jsonMedia

namespace Draft

def setStatus (d : Draft) (status : Nat) : Draft := { d with status := status }

def write (d : Draft) (text : String) : Draft := { d with body := d.body ++ text }

def setBody (d : Draft) (text : String) : Draft := { d with body := text }

def setHeader (d : Draft) (name value : String) : Draft :=
  { d with headers := d.headers.insert name value }

/-- The draft with a JSON value as its body, announced as such. -/
def setJson (d : Draft) (value : Json) : Draft :=
  (d.setHeader contentType jsonMedia).setBody value.compact

/-- The body is announced as JSON. -/
def isJson (d : Draft) : Bool := (d.headers.get? contentType).any announcesJson

/-- What the body stands for, if it stands for anything. A blank body announced as JSON is an empty
object. -/
def payload? (d : Draft) : Option Json :=
  if ¬d.isJson then some (.string d.body)
  else if d.body.toList.all Text.isBlank then some (.object [])
  else Json.parse? d.body

def send (d : Draft) : Traced Step Outcome :=
  match d.payload? with
  | some payload =>
    let response := Response.new d.status d.headers payload
    return if response.isSuccess then .ok response else .error (.business response)
  | none => do
    Step.emit .error .server "Handler declared JSON but body does not parse"
      [("error", .text "invalid JSON"), ("status", .number d.status)]
    return .error (.invalidBody d.headers d.body)

end Draft

inductive Ending where
  | finished
  /-- It returns an error. -/
  | failed (message : String)
  /-- It breaks off, perhaps with a message. -/
  | panicked (message : Option String)
  deriving DecidableEq, Repr

/-- What answers the requests of a route: it writes on a fresh draft. -/
abbrev Handler := Request → Draft → Draft × Ending

end MockHttp.Server
