/-
The library that sends requests over a transport: addresses are read, parameters take the form of a
query, and the text of a body is read in the encoding of its content type.
-/
import StagedRollout.Http.Message
import StagedRollout.Outer.Address
import StagedRollout.Outer.Base64
import StagedRollout.Outer.Charset

namespace StagedRollout.Http

/-! ## Requests on their way -/

/-- A request as the transport takes it. -/
structure Parcel where
  origin : String
  path : String
  params : List (String × Text)
  headers : List (String × String)
  timeout : Double

namespace Parcel

def method : String := "GET"

/-- The bytes of a text in the usual encoding. -/
def textBytes (s : String) : List UInt8 := s.toUTF8.toList

/-- The user and the password. -/
def authorization (access : Access) : Except Fault String :=
  match (access.user ++ ":" ++ access.password).string? with
  | some s => .ok ("Basic " ++ Base64.encode (textBytes s))
  | none => .error .unencodable

/-- The length of a text in a query, where a space takes one character and every byte of a
character that is not plain takes three. -/
def encodedLength (s : Text) : Nat :=
  (s.chars.map fun c => if isUnreserved c || c = ' ' then 1 else 3 * (charBytes c).length).foldl
    (· + ·) 0

/-- The length of parameters in a query. -/
def queryLength (params : List (String × Text)) : Nat :=
  (params.map fun p => encodedLength p.1 + encodedLength p.2 + 2).foldl (· + ·) 0 - 1

/-- The address of a service. -/
def address (access : Access) : Except Fault Address :=
  match access.address.string?.bind Address.ofText? with
  | some a => .ok a
  | none => .error .invalidAddress

/-- A request as it is sent, if it can be. -/
def ofRequest (r : Request) : Except Fault Parcel := do
  let address ← address r.access
  if Address.maxLength < queryLength r.params then throw .invalidAddress
  let a := address.under (r.path.dropWhile (· = '/')).copy
  let user ← authorization r.access
  return ⟨a.origin, a.pathText, r.params, ("authorization", user) ::
    r.headers.map fun h => (h.1.toLower, h.2), r.access.timeout⟩

end Parcel

/-! ## Answers -/

/-- What a transport brings back. -/
structure Answer where
  status : Nat
  body : List UInt8
  contentType : Option String

namespace Answer

/-- The body as text, in the encoding of its content type. -/
def text (a : Answer) : Except Fault Text :=
  let charset := Bytes.Charset.ofContentType a.contentType
  if charset.lacksMark a.body then .error .unmarked else .ok (charset.decode a.body).lenient

def response (a : Answer) : Response := ⟨a.status, a.body, a.text⟩

end Answer

/-- How deep lists and objects may lie inside one another: a thousand calls may be open at once, and a
few are when an answer is read or a context written. -/
def room : Nat := 970

/-- The library over a transport. -/
def Library.over (transport : Parcel → Except Fault Answer) : Library where
  connect access := (fun _ => ()) <$> Parcel.address access
  get r := do return (← transport (← Parcel.ofRequest r)).response
  room := Http.room
  contextRoom := Http.room

end StagedRollout.Http
