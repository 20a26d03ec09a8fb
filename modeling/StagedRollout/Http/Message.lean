/-
Requests and responses. A request asks for a path under the service's address and names the client
by its token; a response has a status and a body. Sending is left to a library.
-/
import StagedRollout.Json.Reader
import StagedRollout.Settings.Basic

namespace StagedRollout.Http

/-! ## Requests -/

/-- With whom a request talks, as whom, and how many seconds it waits. -/
structure Access where
  address : Text
  user : Text
  password : Text
  timeout : Double

/-- The access of a client to its service: the token is a user without a password. -/
def Access.ofSettings (settings : Settings) : Access :=
  ⟨settings.baseAddress, settings.token, "", settings.timeout⟩

structure Request where
  access : Access
  path : String
  params : List (String × Text)
  headers : List (String × String)

namespace Request

/-- The name by which the library tells the service what it is. -/
def libraryName : String := "python"

def libraryVersion : String := "0.1.0"

/-- The parameters of every request. -/
def baseParams (settings : Settings) : List (String × Text) :=
  [("mp_lib", libraryName), ("lib_version", libraryVersion), ("token", settings.token)]

/-- The headers of every request, beside the parent of its trace. -/
def baseHeaders : List (String × String) :=
  [("Content-Type", "application/json"), ("X-Scheme", "https"), ("X-Forwarded-Proto", "https")]

/-- A request of a client for a path. -/
def make (settings : Settings) (path : String) (params : List (String × Text)) : Request :=
  ⟨Access.ofSettings settings, path, baseParams settings ++ params, baseHeaders⟩

end Request

/-! ## Responses -/

/-- A response. The text of its body is the library's, which may fail to make it. -/
structure Response where
  status : Nat
  body : List UInt8
  text : Except Fault Text

/-- The library that sends requests. First it makes a connection ready, then it gets the response;
either may fail in any way. `room` is how deep the lists and objects of an answer may lie inside one
another when it is read, and `contextRoom` how deep those of a context when it is written. -/
structure Library where
  connect : Access → Except Fault Unit
  get : Request → Except Fault Response
  room : Nat
  contextRoom : Nat

namespace Response

def isError (r : Response) : Bool := 400 ≤ r.status

/-- The fault that a response to a call is. -/
def fault (call : Text) (r : Response) : Fault :=
  match r.text with
  | .ok text => .service .http (call ++ ": HTTP " ++ toString r.status ++ ": " ++ text) none
  | .error f => f

/-- A fault of reading a body as a fault of the service; lack of room passes as it is. `subject`
names the content. -/
def wrap (subject : String) : Fault → Fault
  | .tooDeep => .tooDeep
  | f => .service .parse ("Invalid JSON in " ++ subject) (some f)

/-- The value of the body of a response to a call that is not an error. -/
def read (room : Nat) (call : Text) (subject : String) (r : Response) : Except Fault Value :=
  if r.isError then .error (r.fault call)
  else (Json.read room r.body).mapError (wrap subject)

end Response

end StagedRollout.Http
