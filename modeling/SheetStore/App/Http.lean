import SheetStore.App.Store
import SheetStore.App.Body
import SheetStore.App.Request
import SheetStore.Page

/-! The web interface of the application: every request answered in one step against the
store, by the path of its target alone.
-/

set_option autoImplicit false

namespace SheetStore

/-- The body of a response. -/
inductive Payload where
  | text (s : String)
  /-- An event stream, left open. -/
  | events
  deriving DecidableEq

/-- A response of the application. -/
structure Response where
  status : Nat
  contentType : Option String
  payload : Payload

namespace Http

def mediaByte (c : Char) : Bool :=
  c.isAlphanum || "!#$&-^_.+".toList.contains c

/-- Whether a content type names JSON: the type `application`, and the subtype `json` or a
subtype with the suffix `+json`, in any case, parameters allowed after `;`. -/
def isJsonType (value : String) : Bool :=
  match value.splitOn ";" with
  | [] => false
  | essence :: params =>
    match essence.splitOn "/" with
    | [kind, sub] =>
      let kind := kind.toLower
      let sub := sub.toLower
      let (subtype, suffix) := match sub.splitOn "+" with
        | [s] => (s, none)
        | s :: rest => (s, some ("+".intercalate rest))
        | [] => ("", none)
      !kind.isEmpty && kind.toList.all mediaByte && !sub.isEmpty && sub.toList.all mediaByte &&
        params.all (fun p =>
          match (p.trimAscii.toString).splitOn "=" with
          | name :: _ :: _ => !name.isEmpty
          | _ => false) &&
        kind = "application" && (subtype = "json" || suffix = some "json")
    | _ => false

def text (status : Nat) (contentType : Option String) (body : String) : Response :=
  { status, contentType, payload := .text body }

def json (status : Nat) (v : Json) : Response := text status (some "application/json") v.write

def plain (status : Nat) (body : String) : Response :=
  text status (some "text/plain; charset=utf-8") body

def empty (status : Nat) : Response := text status none ""

def rejection : BodyFault → Response
  | .malformed e =>
    plain 400 ("Failed to parse the request body as JSON: " ++ PathStep.heading e.path ++ e.message)
  | .data error path position =>
    plain 422 ("Failed to deserialize the JSON body into the target type: " ++
      PathStep.heading path ++ error.message ++
      match position with
      | some (line, column) => " at line " ++ toString line ++ " column " ++ toString column
      | none => "")

def readOnlyConflict : Response :=
  json 409 (.obj [("status", .str "error"), ("message", .str "grid is read-only")])

def getOnly (method : String) (answer : AppRun Response) : AppRun Response := do
  if method = "GET" then answer
  else if method = "HEAD" then
    let r ← answer
    return { r with payload := match r.payload with
      | .text _ => .text ""
      | .events => .events }
  else return empty 405

def dispatchBody (contentType : Option String) (body : String) : AppRun Response := do
  if !(contentType.map isJsonType).getD false then
    return plain 415 "Expected request with `Content-Type: application/json`"
  match readActionBody body with
  | .error fault => return rejection fault
  | .ok action =>
    let readOnly := (← Run.state).state.settings.readOnly
    let refused := match action with
      | .editCells _ => readOnly
      | _ => false
    if refused then
      Run.log .info LogTarget.app ("rejected " ++ action.kind ++ " while read-only")
      return readOnlyConflict
    AppRun.dispatch action
    return json 200 (← Run.state).state.toJson

def page (path : String) : AppRun Response := do
  let found := Page.resolve path
  let html := renderPage (← Run.state).state found
  return text (if found.isSome then 200 else 404) (some "text/html; charset=utf-8") html

end Http

def respond (req : Request) : AppRun Response := do
  let path := req.path
  let method := req.method
  if method = "OPTIONS" then return Http.empty 200
  else if path = "/api/state" then
    Http.getOnly method do return Http.json 200 (← Run.state).state.toJson
  else if path = "/api/settings" then
    Http.getOnly method do return Http.json 200 (← Run.state).state.settings.toJson
  else if path = "/api/dispatch" then
    if method = "POST" then Http.dispatchBody req.contentType req.body else return Http.empty 405
  else if path = "/api/events" then
    Http.getOnly method do return { status := 200, contentType := some "text/event-stream", payload := .events }
  else if path = "/static" || path.startsWith "/static/" then
    if method = "GET" || method = "HEAD" then return Http.empty 404 else return Http.empty 405
  else if method = "GET" then Http.page path
  else return Http.empty 405

end SheetStore
