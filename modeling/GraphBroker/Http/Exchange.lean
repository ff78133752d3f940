import GraphBroker.Fault.Response
import GraphBroker.Http.MediaType
import GraphBroker.Http.Target

/-!
# Requests and responses

What is sent over HTTP and what comes back.

## Main definitions

* `Http.Request`, `Http.Response`: the two halves of an exchange.
* `Http.header?`: a header by its name.
* `Http.plain?`: a header as text.
-/

namespace GraphBroker.Http

/-- Headers by name, in their order. A name may come more than once. -/
abbrev Headers := List (String × String)

/-- The first header of the given name, in letters of either case. -/
def header? (headers : Headers) (name : String) : Option String :=
  (headers.find? fun entry => entry.1.toLower == name.toLower).map Prod.snd

/-- Whether a header with this value can be sent: it holds no control character but tabs. -/
def isSendable (value : String) : Bool :=
  value.toList.all fun c => c == '\t' || (' ' ≤ c && c != '\x7f')

/-- The value of a header if it can be read as text: printable characters of ASCII, and tabs. -/
def plain? (value : String) : Option String :=
  if value.toList.all fun c => c == '\t' || (' ' ≤ c && c ≤ '~') then some value else none

/-- Whether a text can name a method or a header. -/
def isName (name : String) : Bool :=
  !name.isEmpty && name.toList.all MediaType.isToken

/-- A request. -/
structure Request where
  /-- The method. -/
  method : String
  /-- The path with whatever follows it. -/
  target : String
  /-- The headers. -/
  headers : Headers := []
  /-- The bytes of the body. -/
  body : List UInt8 := []

namespace Request

/-- The path of the request, as it was written. -/
def path (r : Request) : String :=
  (Target.path? r.target).getD ""

/-- Whether the request can be sent. -/
def isSendable (r : Request) : Bool :=
  isName r.method && (Target.path? r.target).isSome &&
    r.headers.all fun header => isName header.1 && Http.isSendable header.2

/-- The text of a header, if it is there and can be read. -/
def header? (r : Request) (name : String) : Option String :=
  (Http.header? r.headers name).bind plain?

end Request

/-- What a response carries. -/
inductive Body where
  /-- Nothing. -/
  | empty
  /-- A JSON value. -/
  | json (value : Json)
  /-- A text for a person. -/
  | text (value : String)

/-- A response. -/
structure Response where
  /-- The status. -/
  status : Nat
  /-- The headers. -/
  headers : Headers := []
  /-- The body. -/
  body : Body := .empty

namespace Response

/-- A response that carries a JSON value. -/
def ofJson (status : Nat) (value : Json) (contentType : String := "application/json") :
    Response where
  status
  headers := [("content-type", contentType)]
  body := .json value

/-- A response that carries a text. -/
def ofText (status : Nat) (value : String) : Response where
  status
  headers := [("content-type", "text/plain; charset=utf-8")]
  body := .text value

/-- The response that tells of a fault. -/
def ofFault (fault : Fault) : Response :=
  ofJson fault.status fault.response.toJson

/-- The response with more headers. -/
def withHeaders (r : Response) (more : Headers) : Response :=
  { r with headers := r.headers ++ more }

/-- The response without its body. -/
def bare (r : Response) : Response :=
  { r with body := .empty }

end Response

end GraphBroker.Http
