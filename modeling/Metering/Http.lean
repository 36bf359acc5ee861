import Metering.Api
import Metering.Http.Body
import Metering.Http.Form
import Metering.Http.MediaType

/-!
# The service on the web

Requests of the web's protocol as calls of the service. A path leads to an
endpoint, which takes some methods; a request that cannot be read as a call is
rejected. Pages of every origin may use the answers.

* `Http.call`: the call that a request to an endpoint is, or why it is rejected;
* `Http.respond`: the response to a request, and what it does to the store.
-/

namespace Metering.Http

/-- A request. -/
structure Request where
  /-- The method. -/
  method : String
  /-- The path, and behind a question mark the query. -/
  target : String
  /-- The headers, by name. -/
  headers : List (String × String) := []
  /-- The body. -/
  body : String := ""

/-- The content of a response. -/
inductive Payload where
  /-- Nothing. -/
  | empty
  /-- The content of an answer. -/
  | content (c : Api.Content)
  /-- Some words on why the request was rejected. -/
  | objection

/-- A response. -/
structure Response where
  /-- The status. -/
  status : Nat
  /-- The type of the content. -/
  contentType? : Option String := none
  /-- The methods that the endpoint takes. -/
  allow? : Option String := none
  /-- The origins whose pages may use the response. -/
  allowOrigin : String := "*"
  /-- The content. -/
  payload : Payload := .empty

/-- Where a path leads. -/
inductive Endpoint where
  /-- The greeting. -/
  | root
  /-- The version. -/
  | version
  /-- The usage of a period. -/
  | usage
  /-- The removal of what is old. -/
  | purge
deriving Repr, DecidableEq

/-- The endpoint of a path. -/
def Endpoint.ofPath? (path : String) : Option Endpoint :=
  [("/", root), ("/version", version), ("/api/usage", usage), ("/api/purge", purge)].lookup path

/-- The methods that an endpoint takes. What can be got can be got without content. -/
def Endpoint.methods : Endpoint → List String
  | root | version | usage => ["GET", "HEAD"]
  | purge => ["POST"]

/-- The methods of an endpoint, as a header. -/
def Endpoint.allow (e : Endpoint) : String := String.intercalate "," e.methods

namespace Request

/-- The path of the target. -/
def path (r : Request) : String :=
  String.ofList (r.target.toList.takeWhile fun c => c ≠ '?' && c ≠ '#')

/-- The query of the target. -/
def query (r : Request) : List Char :=
  ((r.target.toList.takeWhile (· ≠ '#')).dropWhile (· ≠ '?')).drop 1

/-- The first header of some name, whose letters may be small or capital. -/
def header? (r : Request) (name : String) : Option String :=
  (r.headers.find? fun (n, _) => n.toLower = name).map (·.2)

end Request

/-- Why a request is no call. -/
inductive Rejection where
  /-- The query does not give the two instants of a period. -/
  | badQuery
  /-- The body is not said to be JSON. -/
  | unsupportedMediaType
  /-- The body is too long. -/
  | tooLarge
  /-- The body is at fault. -/
  | badBody (fault : BodyFault)
deriving Repr, DecidableEq

/-- The status of a rejection. -/
def Rejection.status : Rejection → Nat
  | badQuery => 400
  | unsupportedMediaType => 415
  | tooLarge => 413
  | badBody .malformed => 400
  | badBody .misshapen => 422

/-- The period that a query gives. -/
def period? (query : List Char) : Option Period := do
  let fields := Form.fields query
  let beginning ← (Form.only? fields "beginningMs").bind Text.int64?
  let ending ← (Form.only? fields "endingMs").bind Text.int64?
  pure ⟨beginning, ending⟩

/-- The body of a request is said to be JSON. -/
def Request.hasJson (r : Request) : Bool :=
  ((r.header? "content-type").bind MediaType.read?).any MediaType.isJson

/-- The longest body that is read, in bytes. -/
def maxBodySize : Nat := 2097152

/-- The call that a request to an endpoint is. -/
def call (e : Endpoint) (r : Request) : Except Rejection Api.Call :=
  match e with
  | .root => .ok .greeting
  | .version => .ok .version
  | .usage =>
    match period? r.query with
    | some period => .ok (.usage period)
    | none => .error .badQuery
  | .purge =>
    if r.hasJson then
      if r.body.utf8ByteSize ≤ maxBodySize then
        match Body.purge r.body with
        | .ok cutoffMs => .ok (.purge cutoffMs)
        | .error fault => .error (.badBody fault)
      else .error .tooLarge
    else .error .unsupportedMediaType

/-- The type of a plain text. -/
def plainText : String := "text/plain; charset=utf-8"

/-- The type of the content of an answer. -/
def contentType : Api.Content → String
  | .plain _ => plainText
  | .document _ => "application/json"

/-- An answer as a response. -/
def Response.ofAnswer (a : Api.Answer) : Response :=
  { status := a.status, contentType? := some (contentType a.content), payload := .content a.content }

/-- A rejection as a response. -/
def Response.ofRejection (r : Rejection) : Response :=
  { status := r.status, contentType? := some plainText, payload := .objection }

/-- The response to a request to an endpoint, and what it does to the store. -/
def Endpoint.respond {σ : Type} [SnapshotStore σ] (e : Endpoint) (policy : FetchPolicy)
    (r : Request) : StateM σ Response :=
  match call e r with
  | .ok c => do pure (.ofAnswer (← Api.answer policy c))
  | .error rejection => pure (.ofRejection rejection)

/-- The response to a request, and what it does to the store. A request for the
    options of a path is answered whatever the path. -/
def respond {σ : Type} [SnapshotStore σ] (policy : FetchPolicy) (r : Request) :
    StateM σ Response :=
  let endpoint? := Endpoint.ofPath? r.path
  if r.method = "OPTIONS" then pure { status := 200, allow? := endpoint?.map Endpoint.allow }
  else
    match endpoint? with
    | none => pure { status := 404 }
    | some e =>
      if r.method ∈ e.methods then do
        let response ← e.respond policy r
        pure (if r.method = "HEAD" then { response with payload := .empty } else response)
      else pure { status := 405, allow? := some e.allow }

end Metering.Http
