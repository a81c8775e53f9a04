import Compositor.Address.Target
import Compositor.Text.Utf8
import Compositor.World.Basic

/-!
# The network

A request goes to the prepared form of its address. It is recorded, takes its
time, and ends in a response or in a failure. A response may break off while its
body is read, and it may send the request on to another address, with what the
request carries. Requests that cannot be sent at all leave no trace.
-/
namespace Compositor

/-- Why there is no response. -/
inductive RequestError where
  | target (e : Address.TargetError)
  /-- A header text that no request may carry. -/
  | header (value : String)
  /-- A header whose value is no text. -/
  | headerKind (name : String) (value : Json)
  | exchange (family : ExchangeFailure) (text : String)
  /-- A response whose status is an error. -/
  | refused (code : Int) (reason url : String)
  deriving Repr

/-- The word for the kind of a value in messages. -/
def Json.kindWord : Json → String
  | .null => "NoneType"
  | .bool _ => "bool"
  | .int _ => "int"
  | .real _ => "float"
  | .str _ => "str"
  | .arr _ => "list"
  | .obj _ => "dict"

namespace RequestError

def message : RequestError → String
  | .target e => e.message
  | .header value =>
    "Invalid leading whitespace, reserved character(s), or return character(s) in header value: "
      ++ Text.quoted value
  | .headerKind name value =>
    "Header part (" ++ value.quoted ++ ") from (" ++ Text.quoted name ++ ", " ++ value.quoted ++
      ") must be of type str or bytes, not <class '" ++ value.kindWord ++ "'>"
  | .exchange _ text => text
  | .refused code reason url =>
    toString code ++ (if code < 500 then " Client Error: " else " Server Error: ") ++ reason
      ++ " for url: " ++ url

def family : RequestError → ExchangeFailure
  | .exchange family _ => family
  | _ => .other

end RequestError

namespace Response

/-- The value of a header, whatever the case of its name. -/
def header? (r : Response) (name : String) : Option String :=
  (r.headers.find? fun h => Text.lower h.1 == Text.lower name).map Prod.snd

/-- The body as a JSON document; without a status nothing is read. -/
def json (r : Response) : Except JsonError Json :=
  Json.read (if r.status == 0 then "" else r.text) r.room

/-- The response with its whole body, or the failure that ends the body early. -/
def whole (r : Response) : Except RequestError Response :=
  match r.cut with
  | some (family, text) => .error (.exchange family text)
  | none => .ok r

/-- Refuses a response whose status is an error; `url` is where it came from. -/
def checkStatus (r : Response) (url : String) : Except RequestError Unit :=
  if 400 ≤ r.status && r.status < 600 then .error (.refused r.status r.reason url) else .ok ()

end Response

structure Request where
  method : String
  url : String
  fields : List (String × String)
  /-- The values are kept as they were set. -/
  headers : List (String × Json)
  body : Body
  timeout : Json

namespace Request

/-- A header text starts with no blank and holds no line end. -/
def isHeaderText (value : String) : Bool :=
  match value.toList with
  | [] => true
  | first :: rest => !Text.isBlank first && rest.all fun c => c != '\r' && c != '\n'

/-- What is wrong with the first header that cannot be sent. -/
def headerError? : List (String × Json) → Option RequestError
  | [] => none
  | (name, value) :: rest =>
    match value with
    | .str text => if isHeaderText text then headerError? rest else some (.header text)
    | other => some (.headerKind name other)

end Request

namespace World

/-- Answers of servers, by method and address. -/
abbrev Replies := List (String × List HttpReply)

/-- The next answer for a key, and what is left. -/
def takeReply (key : String) : Replies → Option (HttpReply × Replies)
  | [] => none
  | (k, replies) :: rest =>
    if k == key then
      match replies with
      | [] => none
      | reply :: more => some (reply, (k, more) :: rest)
    else (takeReply key rest).map fun (reply, left) => (reply, (k, replies) :: left)

end World

/-! ## Redirects -/

/-- A request as it is sent. -/
structure Sending where
  method : String
  url : String
  headers : List (String × Json)
  body : Body

namespace Sending

def key (s : Sending) : String := s.method ++ " " ++ s.url

/-- The method after a redirect with a status. -/
def methodAfter (status : Int) (method : String) : String :=
  if (status == 303 || status == 302) && method != "HEAD" then "GET"
  else if status == 301 && method == "POST" then "GET"
  else method

/-- Whether a status asks for the same request at another address. -/
def keepsBody (status : Int) : Bool := status == 307 || status == 308

/-- A header that says something about the body. -/
def isBodyHeader (name : String) : Bool :=
  ["content-length", "content-type", "transfer-encoding"].contains (Text.lower name)

/-- The request with which the library goes on to an address. All headers stay but those of a
body that does. -/
def goOn (s : Sending) (status : Int) (url : String) : Sending where
  method := methodAfter status s.method
  url := url
  headers := if keepsBody status then s.headers
    else s.headers.filter fun header => !isBodyHeader header.1
  body := if keepsBody status then s.body else .none

/-- The record of a request and of those with which it was sent on. -/
def record (s : Sending) (timeout : Json) (hops : List Sending) : List Event :=
  .request s.method s.url s.headers s.body timeout ::
    hops.map fun hop => .hop hop.method hop.url hop.headers hop.body timeout

end Sending

/-- How a request ends, and at which address. -/
structure Ending where
  outcome : Except Failure Response
  place : String

/-- The end of a request for the one who made it. A failure that the library does not know
escapes. -/
def Ending.answer (e : Ending) : Except Fault (Except RequestError (Response × String)) :=
  match e.outcome with
  | .ok response => .ok (.ok (response, e.place))
  | .error (some family, text) => .ok (.error (.exchange family text))
  | .error (none, _) => .error .wrongValue

/-- What a request comes to: its end, the requests that it was sent on with, the times that the
answers took, and the answers that are left. -/
structure Outcome extends Ending where
  hops : List Sending
  times : List Float
  replies : World.Replies

/-- The number of redirects that are followed. -/
def maxRedirects : Nat := 30

/-- Why there are no more redirects. -/
def tooManyRedirects : Failure :=
  (some .other, "Exceeded " ++ toString maxRedirects ++ " redirects.")

/-- What comes of reading the body of a redirect: one that is broken off does no harm, unless
the server is gone. -/
def Response.drained (r : Response) : Except Failure Unit :=
  match r.cut with
  | none | some (.other, _) => .ok ()
  | some (family, text) => .error (some family, text)

/-- What an answer does to a request. -/
inductive Turn where
  | done (outcome : Except Failure Response)
  /-- It goes on to another address, if that can be made out. -/
  | on (status : Int) (target : Except Failure String)

def HttpReply.turn (reply : HttpReply) : Turn :=
  match reply.outcome with
  | .error failure => .done (.error failure)
  | .ok response =>
    match response.onward, response.drained with
    | .stays, _ => .done (.ok response)
    | _, .error failure => .done (.error failure)
    | .to url, .ok () => .on response.status (.ok url)
    | .fails failure, .ok () => .on response.status (.error failure)

namespace World

/-- Follows a request from answer to answer. Without an answer there is no connection. -/
def settle (budget : Nat) (replies : Replies) (s : Sending) : Outcome :=
  match takeReply s.key replies with
  | none => ⟨⟨.error (some .connection, "unscripted " ++ s.key), s.url⟩, [], [], replies⟩
  | some (reply, left) =>
    let ended (outcome : Except Failure Response) : Outcome :=
      ⟨⟨outcome, s.url⟩, [], [reply.elapsed], left⟩
    match reply.turn with
    | .done outcome => ended outcome
    | .on status target =>
      match budget with
      | 0 => ended (.error tooManyRedirects)
      | budget + 1 =>
        match target with
        | .error failure => ended (.error failure)
        | .ok url =>
          let next := s.goOn status url
          let rest := settle budget left next
          { rest with hops := next :: rest.hops, times := reply.elapsed :: rest.times }

/-- What comes of a request. -/
def courseOf (w : World) (s : Sending) : Outcome := settle maxRedirects w.exchanges s

/-- The world after a request, its redirects included. -/
def sent (w : World) (s : Sending) (timeout : Json) : World :=
  let o := w.courseOf s
  { w with
    clock := o.times.foldl (· + ·) w.clock
    exchanges := o.replies
    events := w.events ++ s.record timeout o.hops }

end World

namespace Act

/-- Sends a request and answers the response with the address it came from. The
body of the response may still break off. -/
def send (r : Request) : Act (Except RequestError (Response × String)) := do
  match Address.Target.prepare r.url r.fields with
  | .error e => return .error (.target e)
  | .ok url =>
    match Request.headerError? r.headers with
    | some e => return .error e
    | none =>
      let s : Sending := ⟨r.method, url, r.headers, r.body⟩
      let w ← get
      set (w.sent s r.timeout)
      ofExcept (w.courseOf s).answer

/-- Sends a request and waits for the whole body of the response. -/
def exchange (r : Request) : Act (Except RequestError (Response × String)) := do
  match ← send r with
  | .error e => return .error e
  | .ok (response, url) => return response.whole.map fun response => (response, url)

end Act

end Compositor
