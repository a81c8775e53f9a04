import Compositor.Job.Record
import Compositor.Json.Conversion
import Compositor.World.Network

/-!
# The client of the job service

Every call goes through `Client.request`, which answers the document of a
response or one of the errors of the service. An error response is told apart by
its status first and then by its text.
-/
namespace Compositor

/-- A client of the service (`BGRemoverClient`). -/
structure Client where
  baseUrl : String
  timeout : Json
  /-- The key as it was given; null stands for none. -/
  key : Json

namespace Client

def defaultBase : String := "https://api.videobgremover.com"

/-- How the client names itself. -/
def agent : String := "bgcompose-python/0.3.0"

/-- A client; slashes at the end of the base address do not count. -/
def ofKey (key : Json) (base : String) (timeout : Json) : Client where
  baseUrl := String.ofList (base.toList.reverse.dropWhile (· == '/')).reverse
  timeout := timeout
  key := key

def defaultTimeout : Json := .real 30

def toJson (c : Client) : Json :=
  .obj [("base_url", c.baseUrl), ("timeout", c.timeout), ("key", c.key), ("agent", agent)]

/-- A client with the key and the base address that the environment names (`from_env`). -/
def ofEnvironment : Act Client := do
  match (← Act.environment? "BGCOMPOSE_API_KEY").filter fun k => !k.isEmpty with
  | none => Act.fail (.media .apiKeyUnset)
  | some key =>
    let base := (← Act.environment? "BGCOMPOSE_BASE_URL").filter fun b => !b.isEmpty
    return ofKey key (base.getD defaultBase) defaultTimeout

/-- Whether the text of an error says that a job failed. -/
def tellsFailure (message : String) : Bool :=
  let lowered := Text.lower message
  ["processing", "failed"].any fun word => lowered.contains word

/-- The text of an error without a meaning of its own. -/
def errorText (status : Int) (data : Json) : String :=
  let plain := "HTTP " ++ toString status
  match data with
  | .obj fields =>
    match Json.lookup? fields "error" with
    | some v => if v.isTruthy then v.text else plain
    | none => plain
  | _ => plain

/-- The error for a response with a status and a document (`_error_for`). -/
def errorFor (status : Int) (data : Json) : ApiError :=
  if status == 401 then ⟨.general, "Invalid API key", status, data⟩
  else if status == 402 then ⟨.insufficientCredits, "Insufficient credits", status, data⟩
  else if status == 404 then ⟨.notFound, "Resource not found", status, data⟩
  else
    let message := errorText status data
    ⟨if tellsFailure message then .processing else .general, message, status, data⟩

/-- The error for a request without a response. -/
def exchangeError (c : Client) (e : RequestError) : ApiError :=
  let text := match e.family with
    | .timeout => "Request timed out after " ++ c.timeout.text ++ " seconds"
    | .connection => "Failed to connect to the API"
    | .other => "Request failed: " ++ e.message
  ⟨.general, text, none, .null⟩

/-- The document of a response, or the error it stands for. What is no document stands for
null in an error, unless it is nested too deep. -/
def answer (r : Response) : Except Fault Json :=
  if 400 ≤ r.status then
    match r.json with
    | .ok data => .error (.api (errorFor r.status data))
    | .error .tooDeep => .error (.ofJson .tooDeep)
    | .error _ => .error (.api (errorFor r.status .null))
  else r.json.mapError Fault.ofJson

/-- The headers of a request, with the key if there is one and the type of its body
if there is one. -/
def headers (c : Client) (body : Body) : List (String × Json) :=
  (c.key.some?.map fun key => ("X-Api-Key", key)).toList ++
    match body with
    | .none => []
    | _ => [("Content-Type", Json.str "application/json")]

/-- Sends a request to an endpoint and answers the document of the response (`_request`). -/
def request (c : Client) (method endpoint : String) (fields : List (String × String))
    (body : Body) : Act Json := do
  match ← Act.exchange ⟨method, c.baseUrl ++ endpoint, fields, c.headers body, body, c.timeout⟩ with
  | .error e => Act.fail (.api (c.exchangeError e))
  | .ok (response, _) => Act.ofExcept (answer response)

/-- Creates a job that a record describes. -/
def create (c : Client) (job : Json) : Act Json := c.request "POST" "/v1/jobs" [] (.json job)

/-- Creates a job for a video that is uploaded (`create_job_file`). -/
def createUpload (c : Client) (job : UploadJob) : Act Json := c.create job.toJson

/-- Creates a job for a video on the web (`create_job_url`). -/
def createLink (c : Client) (job : LinkJob) : Act Json := c.create job.toJson

mutual

/-- A document without the fields that are null. -/
def withoutNulls : Json → Json
  | .obj fields => .obj (fieldsWithoutNulls fields)
  | v => v

def fieldsWithoutNulls : List (String × Json) → List (String × Json)
  | [] => []
  | (_, .null) :: rest => fieldsWithoutNulls rest
  | (name, v) :: rest => (name, withoutNulls v) :: fieldsWithoutNulls rest

end

/-- Starts a job as a record says; what the record leaves open, the service decides. -/
def startWith (c : Client) (job settings : Json) : Act Json :=
  c.request "POST" ("/v1/jobs/" ++ job.text ++ "/start") [] (.json (withoutNulls settings))

/-- Starts a job; without a request, the service decides how (`start_job`). -/
def start (c : Client) (job : Json) (request : Option StartRequest) : Act Json :=
  c.startWith job ((request.map StartRequest.toJson).getD (.obj []))

/-- The state of a job (`status`). -/
def status (c : Client) (job : Json) : Act JobStatus := do
  let data ← c.request "GET" ("/v1/jobs/" ++ job.text ++ "/status") [] .none
  Act.ofExcept ((Record.object JobStatus.read data).toExcept)

/-- What is left to spend (`credits`). -/
def credits (c : Client) : Act CreditBalance := do
  let data ← c.request "GET" "/v1/credits" [] .none
  Act.ofExcept ((Record.object CreditBalance.read data).toExcept)

/-- The texts of one value of a form: those of its items, if it has any. -/
def formTexts : Json → List String
  | .arr items => items.map Json.text
  | .obj fields => fields.map Prod.fst
  | v => [v.text]

/-- A value as fields of a form: nothing for null, and one field for each item or for
each of the items of an item. -/
def formFields (name : String) (value : Json) : List (String × String) :=
  let values : List String := match value with
    | .null => []
    | .arr items => (items.filter fun (v : Json) => !v.isNull).flatMap formTexts
    | v => formTexts v
  values.map fun text => (name, text)

/-- The deliveries to the webhook of a job (`webhook_deliveries`). -/
def webhookDeliveries (c : Client) (video : Json) : Act Json :=
  c.request "GET" "/v1/webhooks/deliveries" (formFields "video_id" video) .none

end Client

end Compositor
