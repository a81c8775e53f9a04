import Compositor.Job.Removal
import Compositor.Proofs.World.Talking

/-!
# The protocol of a removal

A removal goes through stages. Each stage says which requests may be sent next, and what
came of a request leads to the next stage. Nothing may be sent behind an exchange that has
failed; only a question for the source may fail, and then the video is uploaded.
-/
namespace Compositor

namespace Exchange

/-- The response, although its body may break off. -/
def arrived? (e : Exchange) : Option Response := e.outcome.toOption

/-- The response, if it arrived as a whole. -/
def response? (e : Exchange) : Option Response :=
  e.arrived?.bind fun response => response.whole.toOption

/-- There is no whole response, or its status is an error. -/
def failed (e : Exchange) : Bool :=
  match e.response? with
  | some response => 400 ≤ response.status && response.status < 600
  | none => true

/-- The document that the service has answered with. -/
def document? (e : Exchange) : Option Json :=
  e.response?.bind fun response => (Client.answer response).toOption

/-- Whether the service can fetch the source itself, by an answer of its server. -/
def allowsLink (e : Exchange) : Bool :=
  match e.response? with
  | some response =>
    (response.status == 200 || response.status == 204) &&
      match Removal.isTooLarge (response.header? "Content-Length") with
      | .ok tooLarge => !tooLarge
      | .error _ => false
  | none => false

theorem failed_of_response {e : Exchange} {response : Response} (h : e.response? = some response) :
    e.failed = (400 ≤ response.status && response.status < 600) := by
  rw [failed, h]

theorem allowsLink_of_response {e : Exchange} {response : Response}
    (h : e.response? = some response) : e.allowsLink =
      ((response.status == 200 || response.status == 204) &&
        match Removal.isTooLarge (response.header? "Content-Length") with
        | .ok tooLarge => !tooLarge
        | .error _ => false) := by
  rw [allowsLink, h]

theorem document?_of_failed {e : Exchange} (h : e.failed = true) : e.document? = none := by
  cases hresponse : e.response? with
  | none => rw [document?, hresponse, Option.bind_none]
  | some response =>
    rw [failed_of_response hresponse, Bool.and_eq_true, decide_eq_true_eq] at h
    rw [document?, hresponse, Option.bind_some, Client.answer, if_pos h.1]
    cases response.json with
    | ok data => rfl
    | error e => cases e <;> rfl

end Exchange

namespace Removal

/-- Whether a source is on the web. -/
def isRemote (source : String) : Bool :=
  match Locator.sourceType source with
  | .ok .url => true
  | _ => false

/-- How far a removal has come. -/
inductive Stage where
  | opened
  /-- The service can fetch the source itself. -/
  | linkable
  /-- The service cannot, or nobody knows. -/
  | unlinkable
  /-- A job was created, and its video is to be uploaded. -/
  | reserved (answer : Json)
  /-- The same, and the source was fetched. -/
  | fetched (answer : Json)
  /-- The service has the video of the job, or knows where it is. -/
  | ready (answer : Json)
  | running (job : Json)
  | completed (status : JobStatus)
  | imported
  /-- Something has failed. -/
  | stopped

namespace Stage

/-- The request that uploads the video, by the answer to the creation of its job. -/
def uploads (answer : Json) : List (String × String) :=
  match field answer "upload_url" with
  | .ok target => [("PUT", target.text)]
  | .error _ => []

/-- The requests that may be sent next, each with its method and its address. -/
def asks (c : Client) (source : String) : Stage → List (String × String)
  | opened => (if isRemote source then [("HEAD", source)] else []) ++
      [("POST", c.baseUrl ++ "/v1/jobs")]
  | linkable | unlinkable => [("POST", c.baseUrl ++ "/v1/jobs")]
  | reserved answer => if isRemote source then [("GET", source)] else uploads answer
  | fetched answer => uploads answer
  | ready answer =>
    match field answer "id" with
    | .ok job => [("POST", c.baseUrl ++ ("/v1/jobs/" ++ job.text ++ "/start"))]
    | .error _ => []
  | running job => [("GET", c.baseUrl ++ ("/v1/jobs/" ++ job.text ++ "/status"))]
  | completed status =>
    match status.video with
    | some address => [("GET", address.text)]
    | none => []
  | imported | stopped => []

/-- Where a document leads; without one it is over. -/
def told (e : Exchange) (follow : Json → Stage) : Stage := (e.document?.map follow).getD stopped

/-- Where success leads. -/
def unlessFailed (e : Exchange) (s : Stage) : Stage := if e.failed then stopped else s

/-- Where an answer about a job leads. -/
def judged (job : Json) (status : JobStatus) : Stage :=
  match status.state with
  | .completed => completed status
  | .failed => stopped
  | _ => running job

/-- The stage that an exchange leads to. -/
def next : Stage → Exchange → Stage
  | opened, e =>
    if e.method == "HEAD" then (if e.allowsLink then linkable else unlinkable)
    else told e reserved
  | linkable, e => told e ready
  | unlinkable, e => told e reserved
  | reserved answer, e =>
    unlessFailed e (if e.method == "GET" then fetched answer else ready answer)
  | fetched answer, e => unlessFailed e (ready answer)
  | ready answer, e => told e fun _ =>
    match field answer "id" with
    | .ok job => running job
    | .error _ => stopped
  | running job, e => told e fun data =>
    match (Record.object JobStatus.read data).toExcept with
    | .ok status => judged job status
    | .error _ => stopped
  | completed _, e => unlessFailed e imported
  | imported, _ | stopped, _ => stopped

end Stage

/-- A removal of a source goes from one stage to another one while exchanges take place. -/
inductive Proceeds (c : Client) (source : String) : Stage → List Exchange → Stage → Prop
  | rest (s : Stage) : Proceeds c source s [] s
  | step {s s' : Stage} {e : Exchange} {talk : List Exchange} (address : String)
      (asked : (e.method, address) ∈ s.asks c source)
      (sent : Address.Target.prepare address [] = .ok e.url)
      (rest : Proceeds c source (s.next e) talk s') : Proceeds c source s (e :: talk) s'

variable {c : Client} {source : String} {s s' : Stage} {talk : List Exchange}

namespace Proceeds

/-- Nothing is sent when something has failed. -/
theorem of_stopped (h : Proceeds c source .stopped talk s') : talk = [] ∧ s' = .stopped := by
  cases h with
  | rest => exact ⟨rfl, rfl⟩
  | step address asked => cases asked

end Proceeds

/-- Only the question for the source may fail. -/
theorem Stage.next_of_failed {e : Exchange} (hfailed : e.failed = true)
    (hmethod : e.method ≠ "HEAD") (s : Stage) : s.next e = .stopped := by
  have hdocument := Exchange.document?_of_failed hfailed
  have htold (follow : Json → Stage) : told e follow = stopped := by rw [told, hdocument]; rfl
  have hunless (s : Stage) : unlessFailed e s = stopped := by rw [unlessFailed, if_pos hfailed]
  cases s with
  | opened => rw [next, if_neg (by simpa using hmethod), htold]
  | linkable | unlinkable | ready | running => exact htold _
  | reserved | fetched | completed => exact hunless _
  | imported | stopped => rfl

/-- An exchange that has failed is the last one, unless it was the question for the source. -/
theorem Proceeds.failed_last {before after : List Exchange} {e : Exchange}
    (h : Proceeds c source s (before ++ e :: after) s') (hfailed : e.failed = true)
    (hmethod : e.method ≠ "HEAD") : after = [] ∧ s' = .stopped := by
  induction before generalizing s with
  | nil =>
    cases h with
    | step address asked sent rest =>
      rw [Stage.next_of_failed hfailed hmethod] at rest
      exact rest.of_stopped
  | cons first before ih =>
    cases h with
    | step address asked sent rest => exact ih rest

end Removal

end Compositor
