import Candlestick.Json.Parser
import Candlestick.Network.Dialogue

set_option autoImplicit false

/-! # JSON over HTTP

Parameters become the texts of a query; unset and empty ones are dropped. A reply with a status from
400 on is an error whose detail is dug out of its body; any other reply has to be JSON, where an
empty body counts as an empty object. -/

namespace Candlestick.Http

/-- The query of a request: the texts of the parameters that are set. -/
def query (params : List (String × Json)) : List (String × String) :=
  params.filterMap fun (key, value) =>
    match value with
    | .null => none
    | .str "" => none
    | value => some (key, value.display)

/-- What became of a request on the wire. -/
inductive Reply where
  /-- A reply with a status and a body. -/
  | body (status : Int) (text : String)
  /-- Nothing came in time. -/
  | timedOut
  /-- The transport failed. -/
  | broken (reason : String)
  /-- Nothing had come when the request was withdrawn. -/
  | withdrawn
  deriving Inhabited

/-- The members that may hold an error's explanation, the first choice first. -/
def explanationKeys : List String := ["msg", "retMsg", "message", "err-msg", "label", "error"]

/-- The first two hundred characters of a text that is not empty. -/
def excerpt (text : String) : Option String :=
  if text = "" then none else some (String.ofList (text.toList.take 200))

/-- The explanation in the body of an error: the first member that says something, or else the
    beginning of the body. -/
def explanation (text : String) : Option String :=
  let found := match Json.parse? (some Json.answerDigits) text with
    | some value =>
      explanationKeys.findSome? fun key =>
        (value.member? key).bind fun said => if said.isPresent then some said.display else none
    | none => none
  match found with
  | some said => some said
  | none => excerpt text

/-- An optional text as a JSON value. -/
def optional : Option String → Json
  | some text => .str text
  | none => .null

/-- The JSON value of a reply, or why there is none. -/
def read (provider : String) : Reply → Except Failure Json
  | .timedOut => .error (.provider provider .null (.str "request timed out"))
  | .broken reason => .error (.provider provider .null (.str reason))
  | .withdrawn => .error .aborted
  | .body status text =>
    if 400 ≤ status then .error (.provider provider (.int status) (optional (explanation text)))
    else if text = "" then .ok (.obj [])
    else match Json.parse? (some Json.answerDigits) text with
      | some value => .ok value
      | none => .error (.provider provider (.int status) (.str "invalid JSON response"))

end Candlestick.Http
