import Compositor.Json.Notation
import Compositor.Proofs.Job.Patience
import Compositor.Proofs.Job.Removal

/-!
# The format that is asked for

The formats that were asked for are read off from the bodies of the requests that were sent.
All parts of a removal but one ask for none, and the start of the job asks for the format
that was chosen.
-/
namespace Compositor

variable {α β : Type}

/-- The transparent format that a body asks for; null if it asks for none. -/
def Body.format : Body → Json
  | .json v => (v.field "background").field "transparent_format"
  | _ => .null

/-- The transparent format that a request asks for. -/
def Event.format? : Event → Option Json
  | .request _ _ _ body _ => body.format.some?
  | _ => none

/-- The transparent formats that were asked for. -/
def World.formats (w : World) : List Json := w.events.filterMap Event.format?

namespace World

variable {w w' w'' : World} {asked asked' : List Json}

theorem formats_append {events : List Event} (h : w'.events = w.events ++ events) :
    w'.formats = w.formats ++ events.filterMap Event.format? := by
  rw [formats, h, List.filterMap_append]
  rfl

theorem formats_of_traffic (h : w'.traffic = w.traffic) : w'.formats = w.formats := by
  have hread (w : World) : w.traffic.2.filterMap Event.format? = w.formats := by
    refine Event.filterMap_transfers (fun e he => ?_) w.events
    cases e with
    | request => cases he
    | _ => rfl
  rw [← hread, h, hread]

/-- What was said to servers between two moments, and the formats that were asked for then. -/
structure Asked (w w' : World) (asked : List Json) : Prop where
  talked : ∃ talk, Talked w w' talk
  formats : w'.formats = w.formats ++ asked

theorem Asked.silent (h : w'.traffic = w.traffic) : Asked w w' [] :=
  ⟨⟨[], .silent h⟩, (formats_of_traffic h).trans (List.append_nil _).symm⟩

theorem Asked.trans (h : Asked w w' asked) (h' : Asked w' w'' asked') :
    Asked w w'' (asked ++ asked') := by
  obtain ⟨talk, htalk⟩ := h.talked
  obtain ⟨talk', htalk'⟩ := h'.talked
  exact ⟨⟨talk ++ talk', htalk.trans htalk'⟩,
    by rw [h'.formats, h.formats, List.append_assoc]⟩

/-- What follows an action and is silent asks for nothing more. -/
theorem Asked.bind {x : Act α} {f : α → Act β} (h : Asked w (x w).2 asked)
    (hf : ∀ a, (f a).IsSilent) : Asked w ((x >>= f) w).2 asked :=
  Act.bind_stays (P := fun w' => Asked w w' asked) h fun a w' h' =>
    asked.append_nil ▸ h'.trans (.silent (hf a w'))

end World

/-! ## Requests -/

/-- A request that is sent asks for the format in its body, on whatever way. -/
theorem Sending.record_formats (s : Sending) (timeout : Json) (hops : List Sending) :
    (s.record timeout hops).filterMap Event.format? = s.body.format.some?.toList := by
  have hhops : (hops.map fun hop =>
      Event.hop hop.method hop.url hop.headers hop.body timeout).filterMap Event.format? = [] := by
    simp [Event.format?, List.filterMap_map, Function.comp_def]
  have hrequest : (Event.request s.method s.url s.headers s.body timeout).format? =
      s.body.format.some? := rfl
  rw [record, List.filterMap_cons, hhops, hrequest]
  cases s.body.format.some? <;> rfl

theorem Request.leaves_formats {r : Request} {events : List Event} (h : r.Leaves events)
    (hnone : r.body.format = .null) : events.filterMap Event.format? = [] := by
  unfold Leaves at h
  split at h
  · obtain ⟨hops, rfl⟩ := h
    rw [Sending.record_formats, hnone]
    rfl
  · rw [h, List.filterMap_nil]

namespace Act

/-- A request asks for the formats in its record. -/
theorem send_asks (r : Request) (w : World) : ∃ events, r.Leaves events ∧
    World.Asked w (send r w).2 (events.filterMap Event.format?) := by
  obtain ⟨events, hevents, hleaves⟩ := send_records r w
  refine ⟨events, hleaves, ?_, World.formats_append hevents⟩
  rcases send_talked r w with ⟨error, hrun⟩ | ⟨e, -, -, -, htalked, -⟩
  · rw [hrun]
    exact ⟨[], .silent rfl⟩
  · exact ⟨[e], htalked⟩

theorem exchange_asks (r : Request) (w : World) : ∃ events, r.Leaves events ∧
    World.Asked w (exchange r w).2 (events.filterMap Event.format?) := by
  obtain ⟨events, hleaves, hasked⟩ := send_asks r w
  refine ⟨events, hleaves, World.Asked.bind hasked fun reply => ?_⟩
  cases reply with
  | error e => exact .pure _
  | ok answer => exact .pure _

end Act

namespace Client

theorem request_asks (c : Client) (method endpoint : String) (fields : List (String × String))
    (body : Body) (w : World) : ∃ events,
      Request.Leaves ⟨method, c.baseUrl ++ endpoint, fields, c.headers body, body, c.timeout⟩
        events ∧
      World.Asked w (c.request method endpoint fields body w).2
        (events.filterMap Event.format?) := by
  obtain ⟨events, hleaves, hasked⟩ := Act.exchange_asks
    ⟨method, c.baseUrl ++ endpoint, fields, c.headers body, body, c.timeout⟩ w
  refine ⟨events, hleaves, World.Asked.bind hasked fun reply => ?_⟩
  cases reply with
  | error e => exact .fail _
  | ok answer => exact .ofExcept _

/-- A request that was answered has been sent. -/
theorem request_sent {c : Client} {method endpoint : String} {fields : List (String × String)}
    {body : Body} {w w' : World} {data : Json} {events : List Event}
    (h : c.request method endpoint fields body w = (.ok data, w'))
    (hleaves : Request.Leaves
      ⟨method, c.baseUrl ++ endpoint, fields, c.headers body, body, c.timeout⟩ events) :
    events.filterMap Event.format? = body.format.some?.toList := by
  obtain ⟨reply, w₁, hexchange, hanswer⟩ := Act.bind_eq_ok h
  obtain ⟨answer, w₂, hsend, hwhole⟩ := Act.bind_eq_ok hexchange
  unfold Request.Leaves at hleaves
  unfold Act.send at hsend
  cases htarget : Address.Target.prepare (c.baseUrl ++ endpoint) fields with
  | error e =>
    rw [htarget] at hsend
    cases hsend
    cases hwhole
    cases hanswer
  | ok url =>
    cases hheaders : Request.headerError? (c.headers body) with
    | some e =>
      rw [htarget] at hsend
      dsimp only at hsend
      rw [hheaders] at hsend
      cases hsend
      cases hwhole
      cases hanswer
    | none =>
      rw [htarget, hheaders] at hleaves
      obtain ⟨hops, rfl⟩ := hleaves
      exact Sending.record_formats _ _ _

end Client

/-! ## Actions that ask for no format -/

/-- The action may talk to servers, but it asks for no format. -/
def Act.AsksNoFormat (x : Act α) : Prop := ∀ w, World.Asked w (x w).2 []

namespace Act.AsksNoFormat

variable {x : Act α}

theorem of_run (hx : x.AsksNoFormat) {w w' : World} {r : Except Fault α} (h : x w = (r, w')) :
    World.Asked w w' [] := by
  have hw := hx w
  rwa [h] at hw

theorem silent (hx : x.IsSilent) : x.AsksNoFormat := fun w => .silent (hx w)

theorem pure (a : α) : (Pure.pure a : Act α).AsksNoFormat := silent (.pure a)

theorem fail (e : Fault) : (Act.fail e : Act α).AsksNoFormat := silent (.fail e)

theorem ofExcept (r : Except Fault α) : (Act.ofExcept r).AsksNoFormat := silent (.ofExcept r)

theorem log (level : LogLevel) (text : String) : (log level text).AsksNoFormat :=
  silent (silent_log level text)

theorem bind {f : α → Act β} (hx : x.AsksNoFormat) (hf : ∀ a, (f a).AsksNoFormat) :
    (x >>= f).AsksNoFormat := fun w =>
  bind_stays (P := fun w' => World.Asked w w' []) (hx w) fun a w' h => h.trans (hf a w')

theorem ite {p : Prop} [Decidable p] {y : Act α} (hx : x.AsksNoFormat) (hy : y.AsksNoFormat) :
    (if p then x else y).AsksNoFormat := by
  split
  · exact hx
  · exact hy

theorem of_leaves {r : Request} (h : r.body.format = .null)
    (hx : ∀ w, ∃ events, r.Leaves events ∧ World.Asked w (x w).2 (events.filterMap Event.format?)) :
    x.AsksNoFormat := by
  intro w
  obtain ⟨events, hleaves, hasked⟩ := hx w
  exact Request.leaves_formats hleaves h ▸ hasked

theorem send {r : Request} (h : r.body.format = .null) : (send r).AsksNoFormat :=
  of_leaves h (send_asks r)

theorem exchange {r : Request} (h : r.body.format = .null) : (exchange r).AsksNoFormat :=
  of_leaves h (exchange_asks r)

theorem request (c : Client) (method endpoint : String) {body : Body}
    (h : body.format = .null) : (c.request method endpoint [] body).AsksNoFormat :=
  of_leaves (r := ⟨method, c.baseUrl ++ endpoint, [], c.headers body, body, c.timeout⟩) h
    (c.request_asks method endpoint [] body)

theorem toFile (url : String) {makePath : Json → Act String}
    (hpath : ∀ ext, (makePath ext).IsSilent) (default timeout : Json) :
    (Download.toFile url makePath default timeout).AsksNoFormat := by
  have hfetch : (Download.fetch url timeout).AsksNoFormat := by
    refine .bind (.send rfl) fun reply => ?_
    split
    · exact .fail _
    · split
      · exact .fail _
      · exact .pure _
  exact .bind (.log _ _) fun _ => .bind hfetch fun _ => .bind (.ofExcept _) fun _ =>
    .bind (.silent (hpath _)) fun _ =>
      .bind (.silent (.store World.traffic_hidesFiles _ _ _)) fun _ => .pure _

end Act.AsksNoFormat

/-! ## The parts of a removal -/

namespace Removal

open Act (AsksNoFormat)

variable {c : Client} {context : ContextId}

theorem isPublic_asks (url : String) : (isPublic url).AsksNoFormat := by
  refine .bind (.exchange rfl) fun reply => ?_
  split
  · exact .bind (.log _ _) fun _ => .pure _
  · exact .ite (.pure _) (.bind (.ofExcept _) fun _ => .pure _)

theorem createLinkJob_asks (source : String) : (createLinkJob source c).AsksNoFormat :=
  .bind (.ofExcept _) fun _ => .bind (.request _ _ _ rfl) fun _ => .ofExcept _

theorem upload_asks (url source contentType : String) :
    (upload url source contentType context).AsksNoFormat := by
  have hlocal : (localVideo source context).AsksNoFormat :=
    .bind (.ofExcept _) fun _ =>
      .ite (.toFile _ (fun _ => Context.silent_tempPath _ _ _) _ _) (.pure _)
  refine .bind hlocal fun path => .bind (.silent .look) fun w => ?_
  split
  · exact .fail _
  · refine .bind (.exchange rfl) fun result => ?_
    dsimp only
    split
    · exact .pure _
    · exact .fail _

theorem createUploadJob_asks (source : String) :
    (createUploadJob source c context).AsksNoFormat :=
  .bind (.ofExcept _) fun _ => .bind (.request _ _ _ rfl) fun _ => .bind (.ofExcept _) fun _ =>
    .bind (upload_asks _ _ _) fun _ => .ofExcept _

theorem createJob_asks (video : Video) (c : Client) (context : ContextId) :
    (createJob video c context).AsksNoFormat := by
  unfold createJob
  split
  · exact .bind (isPublic_asks _) fun _ => .ite (createLinkJob_asks _) (createUploadJob_asks _)
  · exact .bind (.pure _) fun _ => .ite (createLinkJob_asks _) (createUploadJob_asks _)

end Removal

namespace Client

variable {c : Client} {job interval : Json} {timeout : Option Json} {telling : Bool}
  {started : Float}

theorem status_asks (c : Client) (job : Json) : (c.status job).AsksNoFormat :=
  .bind (.request _ _ _ rfl) fun _ => .ofExcept _

theorem loop_asks (rounds : Nat) (last : Option JobState) :
    (Polling.loop (c.watch job interval timeout telling started) job timeout rounds
      last).AsksNoFormat := by
  induction rounds generalizing last with
  | zero => exact .pure _
  | succ rounds ih =>
    rw [Polling.loop_succ]
    refine .bind (status_asks c job) fun status => .bind (.silent (silent_news _ _)) fun _ =>
      .bind (.silent (silent_judge status)) fun final => ?_
    cases final with
    | some final => exact .pure _
    | none => exact .bind (.silent silent_rest) fun _ => ih _

theorem wait_asks (c : Client) (job interval : Json) (timeout : Option Json) (telling : Bool) :
    (c.wait job interval timeout telling).AsksNoFormat := by
  refine .bind (.silent .look) fun w => .bind ?_ fun final => ?_
  · exact .bind (.silent (.bind .look fun _ => .pure _)) fun _ => loop_asks _ none
  cases final with
  | some status => exact .pure _
  | none => exact status_asks c job

end Client

/-! ## Starting the job -/

namespace Checked

theorem ap_valid {f : Checked (α → β)} {a : Checked α} {b : β} (h : f <*> a = .valid b) :
    ∃ g x, f = .valid g ∧ a = .valid x ∧ b = g x := by
  cases f with
  | invalid issues => cases a <;> cases h
  | valid g =>
    cases a with
    | invalid issues => cases h
    | valid x =>
      cases h
      exact ⟨g, x, rfl, rfl, rfl⟩

theorem map_valid {f : α → β} {a : Checked α} {b : β} (h : f <$> a = .valid b) :
    ∃ x, a = .valid x ∧ b = f x := by
  cases a with
  | invalid issues => cases h
  | valid x =>
    cases h
    exact ⟨x, rfl, rfl⟩

theorem andThen_valid {a : Checked α} {rule : α → Checked β} {b : β}
    (h : a.andThen rule = .valid b) : ∃ x, a = .valid x ∧ rule x = .valid b := by
  cases a with
  | invalid issues => cases h
  | valid x => exact ⟨x, rfl, h⟩

theorem toExcept_ok {x : Checked α} {a : α} (h : x.toExcept = .ok a) : x = .valid a := by
  cases x with
  | invalid issues => cases h
  | valid b =>
    cases h
    rfl

end Checked

namespace Removal

variable {f : TransparentFormat} {options : RemovalOptions} {webhook : Json}
  {settings : StartRequest}

/-- The settings of a removal leave nothing but the format to the caller. -/
theorem startRequest_background (h : (startRequest f options webhook).toExcept = .ok settings) :
    settings.background = some ⟨.transparent, none, some f⟩ := by
  obtain ⟨withBackground, url, hbefore, -, heq⟩ := Checked.ap_valid (Checked.toExcept_ok h)
  obtain ⟨withModel, background, hbefore', hbackground, rfl⟩ := Checked.ap_valid hbefore
  obtain ⟨withFormat, model, hformat, -, rfl⟩ := Checked.ap_valid hbefore'
  obtain ⟨format, -, rfl⟩ := Checked.map_valid hformat
  have hread : Checked.valid (some (Backdrop.mk .transparent none (some f))) =
      .valid background := by
    rw [← hbackground]
    cases f <;> rfl
  cases hread
  rw [heq]

/-- The start of a job asks for the format in its settings. -/
theorem start_asks {c : Client} {job data : Json} {w w' : World}
    (hsettings : settings.background = some ⟨.transparent, none, some f⟩)
    (h : c.start job (some settings) w = (.ok data, w')) : World.Asked w w' [.str f.name] := by
  have hrun : c.request "POST" ("/v1/jobs/" ++ job.text ++ "/start") []
    (.json (Client.withoutNulls settings.toJson)) w = (.ok data, w') := h
  obtain ⟨events, hleaves, hasked⟩ := c.request_asks "POST" ("/v1/jobs/" ++ job.text ++ "/start")
    [] (.json (Client.withoutNulls settings.toJson)) w
  have hformat : (Body.json (Client.withoutNulls settings.toJson)).format = .str f.name := by
    obtain ⟨format, model, background, url⟩ := settings
    subst hsettings
    cases model <;> cases url <;> rfl
  rwa [hrun, Client.request_sent hrun hleaves, hformat] at hasked

end Removal

end Compositor
