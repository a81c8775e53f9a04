import Compositor.Proofs.World.Silence

/-!
# Two runs that differ in a key

What happened outside is only written down, and no action reads it. So with another record
to begin with, an action has the same result and leaves the same world, with the same events
added. `x.Mirrors y key` says this of two actions, of which the second one sends `key`
wherever the first one sends a key of its client. Actions without a key mirror themselves.
-/
namespace Compositor

variable {α β : Type}

/-! ## Keys in requests -/

namespace Request

/-- Whether a header carries the key of a client. The case of its name does not count. -/
def isKey (header : String × Json) : Bool := Text.lower header.1 == "x-api-key"

/-- The keys that headers carry. -/
def keys (headers : List (String × Json)) : List Json := (headers.filter isKey).map Prod.snd

/-- Headers with another key in the place of theirs. -/
def withKey (key : String) (headers : List (String × Json)) : List (String × Json) :=
  headers.map fun h => if isKey h then (h.1, .str key) else h

/-- Headers without a key stay as they are. -/
theorem withKey_of_keys {headers : List (String × Json)} (h : keys headers = []) (key : String) :
    withKey key headers = headers := by
  have hnone : ∀ header ∈ headers, ¬ isKey header = true :=
    List.filter_eq_nil_iff.mp (List.map_eq_nil_iff.mp h)
  calc withKey key headers
    _ = headers.map id := List.map_congr_left fun header hheader => if_neg (hnone header hheader)
    _ = headers := List.map_id headers

/-- A key that can be sent may take the place of another one that can. -/
theorem headerError?_withKey {key : String} (hkey : isHeaderText key)
    {headers : List (String × Json)}
    (h : ∀ value ∈ keys headers, ∃ text, value = .str text ∧ isHeaderText text) :
    headerError? (withKey key headers) = headerError? headers := by
  induction headers with
  | nil => rfl
  | cons header rest ih =>
    obtain ⟨name, value⟩ := header
    have hrest := ih fun value hvalue => h value <| by
      rw [keys, List.filter_cons]
      split
      · exact List.mem_cons_of_mem _ hvalue
      · exact hvalue
    by_cases hname : isKey (name, value) = true
    · obtain ⟨text, rfl, htext⟩ := h value (by simp [keys, hname])
      simp only [withKey, List.map_cons, hname, if_true, headerError?, hkey, htext]
      exact hrest
    · rw [withKey, List.map_cons, if_neg hname]
      unfold headerError?
      cases value with
      | str text =>
        dsimp only
        split
        · exact hrest
        · rfl
      | _ => rfl

end Request

/-- An event with another key in the place of the one that it carries. -/
def Event.withKey (key : String) : Event → Event
  | .request method url headers body timeout =>
    .request method url (Request.withKey key headers) body timeout
  | .hop method url headers body timeout =>
    .hop method url (Request.withKey key headers) body timeout
  | e => e

/-- The keys that a request carries, or one with which it was sent on. -/
def Event.keys : Event → List Json
  | .request _ _ headers _ _ | .hop _ _ headers _ _ => Request.keys headers
  | _ => []

namespace Sending

/-- A request with another key in the place of the one that it carries. -/
def withKey (key : String) (s : Sending) : Sending :=
  { s with headers := Request.withKey key s.headers }

/-- The key stays what it is on the way. -/
theorem goOn_withKey (s : Sending) (key : String) (status : Int) (url : String) :
    (s.withKey key).goOn status url = (s.goOn status url).withKey key := by
  have hname (header : String × Json) :
      isBodyHeader (if Request.isKey header then (header.1, .str key) else header).1 =
        isBodyHeader header.1 := by
    split <;> rfl
  by_cases hkept : keepsBody status = true
  · simp only [goOn, withKey, hkept, if_true]
  · simp only [goOn, withKey, hkept, Bool.false_eq_true, if_false, Request.withKey,
      List.filter_map, Function.comp_def, hname]

theorem record_withKey (s : Sending) (key : String) (timeout : Json) (hops : List Sending) :
    (s.withKey key).record timeout (hops.map (withKey key)) =
      (s.record timeout hops).map (Event.withKey key) := by
  simp only [record, List.map_cons, List.map_map]
  rfl

end Sending

/-- With another key a request takes the same way. -/
theorem World.settle_withKey (budget : Nat) (replies : Replies) (s : Sending) (key : String) :
    settle budget replies (s.withKey key) =
      let o := settle budget replies s
      { o with hops := o.hops.map (Sending.withKey key) } := by
  have hkey : (s.withKey key).key = s.key := rfl
  induction budget generalizing s replies with
  | zero =>
    unfold settle
    rw [hkey]
    cases takeReply s.key replies with
    | none => rfl
    | some found =>
      dsimp only
      cases found.1.turn <;> rfl
  | succ budget ih =>
    unfold settle
    rw [hkey]
    cases takeReply s.key replies with
    | none => rfl
    | some found =>
      obtain ⟨reply, left⟩ := found
      dsimp only
      cases reply.turn with
      | done outcome => rfl
      | on status target =>
        cases target with
        | error failure => rfl
        | ok url =>
          dsimp only
          rw [Sending.goOn_withKey, ih left (s.goOn status url) rfl]
          rfl

/-! ## The relation between two actions -/

namespace Act

/-- In the world with any other record, the second action has the same result, and it adds
the same events with its own key. -/
def Mirrors (x y : Act α) (key : String) : Prop :=
  ∀ w events, ∃ news, (x w).2.events = w.events ++ news ∧
    y { w with events } =
      ((x w).1, { (x w).2 with events := events ++ news.map (Event.withKey key) })

namespace Mirrors

variable {x y : Act α} {key : String}

/-- An action that adds nothing to the record. -/
theorem quiet (hkeeps : x.Keeps World.events)
    (h : ∀ w events, y { w with events } = ((x w).1, { (x w).2 with events })) :
    x.Mirrors y key := by
  intro w events
  refine ⟨[], by rw [List.append_nil]; exact hkeeps w, ?_⟩
  rw [List.map_nil, List.append_nil]
  exact h w events

theorem pure (a : α) : (Pure.pure a : Act α).Mirrors (Pure.pure a) key :=
  quiet (.pure a) fun _ _ => rfl

theorem fail (e : Fault) : (Act.fail e : Act α).Mirrors (Act.fail e) key :=
  quiet (.fail e) fun _ _ => rfl

theorem ofExcept (r : Except Fault α) : (Act.ofExcept r).Mirrors (Act.ofExcept r) key := by
  cases r with
  | ok a => exact .pure a
  | error e => exact .fail e

theorem bind {f g : α → Act β} (hxy : x.Mirrors y key) (hfg : ∀ a, (f a).Mirrors (g a) key) :
    (x >>= f).Mirrors (y >>= g) key := by
  intro w events
  obtain ⟨news, hnews, hrun⟩ := hxy w events
  rw [bind_apply, bind_apply, hrun]
  match hx : x w with
  | (.error e, v) =>
    rw [hx] at hnews
    exact ⟨news, hnews, rfl⟩
  | (.ok a, v) =>
    rw [hx] at hnews
    obtain ⟨more, hmore, hrest⟩ := hfg a v (events ++ news.map (Event.withKey key))
    refine ⟨news ++ more, by rw [hmore, hnews, List.append_assoc], ?_⟩
    rw [List.map_append, ← List.append_assoc]
    exact hrest

theorem ite {p : Prop} [Decidable p] {x' y' : Act α} (h : x.Mirrors y key)
    (h' : x'.Mirrors y' key) : (if p then x else x').Mirrors (if p then y else y') key := by
  split
  · exact h
  · exact h'

/-- The world is looked at, but for its record. -/
theorem look {f g : World → Act β}
    (h : ∀ w events, (f w).Mirrors (g { w with events }) key) :
    ((get : Act World) >>= f).Mirrors (get >>= g) key := fun w events => h w events w events

theorem change {f : World → World} (h : ∀ w, (f w).events = w.events)
    (hf : ∀ w events, f { w with events } = { f w with events }) :
    (modify f : Act Unit).Mirrors (modify f) key :=
  quiet h fun w events => congrArg (Prod.mk _) (hf w events)

theorem emit {e e' : Event} (h : e' = e.withKey key) : (emit e).Mirrors (emit e') key :=
  fun _ _ => ⟨[e], rfl, by rw [h]; rfl⟩

theorem log (level : LogLevel) (text : String) :
    (log level text).Mirrors (log level text) key :=
  .look fun _ _ => .ite (.emit rfl) (.pure _)

/-! ## Files and tools -/

theorem claim (make : FileTree → String → Except SystemError FileTree)
    (pathFor : String → Except Fault String) (tries : Nat) :
    (claim make pathFor tries).Mirrors (claim make pathFor tries) key := by
  induction tries with
  | zero => exact .fail _
  | succ tries ih =>
    have hname : freshName.Mirrors freshName key := quiet (fun _ => rfl) fun _ _ => rfl
    refine .bind hname fun name => .bind (.ofExcept _) fun path => .look fun w events => ?_
    dsimp only
    split
    · exact .bind (.change (fun _ => rfl) fun _ _ => rfl) fun _ => .pure _
    · exact ih
    · exact .fail _

theorem freshFile (directory : String) (before after : Json) :
    (freshFile directory before after).Mirrors (freshFile directory before after) key :=
  .look fun _ _ => .bind (.look fun _ _ => .pure _) fun _ => .claim _ _ _

theorem freshDirectory (directory before : Json) :
    (freshDirectory directory before).Mirrors (freshDirectory directory before) key :=
  .look fun _ _ => .bind (.look fun _ _ => .pure _) fun _ => .claim _ _ _

theorem runCommand (command : List Argument) (timeout : Nat) :
    (runCommand command timeout).Mirrors (runCommand command timeout) key := by
  refine .ite (.pure _) (.bind (.emit rfl) fun _ => ?_)
  cases hlast : command.getLast? with
  | none => exact .look fun _ _ => .fail _
  | some last =>
    cases last with
    | str last =>
      refine quiet (fun w => ?_) fun w events => ?_
      · rw [get_bind]
        dsimp only
        cases World.takeRun last w.runs <;> rfl
      · rw [get_bind, get_bind]
        dsimp only
        cases World.takeRun last w.runs <;> rfl
    | _ => exact .look fun _ _ => .fail _

/-! ## Requests -/

/-- A request is sent with another key in the same way, if that one can be sent at all. -/
theorem send {r : Request}
    (h : Request.headerError? (Request.withKey key r.headers) = Request.headerError? r.headers) :
    (send r).Mirrors (send { r with headers := Request.withKey key r.headers }) key := by
  intro w events
  cases htarget : Address.Target.prepare r.url r.fields with
  | error e =>
    rw [Act.send, Act.send, htarget]
    exact Mirrors.pure _ w events
  | ok url =>
    cases hheaders : Request.headerError? r.headers with
    | some e =>
      rw [Act.send, Act.send, htarget]
      dsimp only
      rw [h, hheaders]
      exact Mirrors.pure _ w events
    | none =>
      let s : Sending := ⟨r.method, url, r.headers, r.body⟩
      have hcourse : World.courseOf { w with events } (s.withKey key) =
          { w.courseOf s with hops := (w.courseOf s).hops.map (Sending.withKey key) } :=
        World.settle_withKey maxRedirects w.exchanges s key
      have hsend := send_apply (r := { r with headers := Request.withKey key r.headers }) htarget
        (h.trans hheaders) { w with events }
      rw [send_apply htarget hheaders, hsend]
      refine ⟨s.record r.timeout (w.courseOf s).hops, rfl, ?_⟩
      change ((World.courseOf { w with events } (s.withKey key)).answer,
        World.sent { w with events } (s.withKey key) r.timeout) = _
      unfold World.sent
      rw [hcourse]
      dsimp only
      rw [Sending.record_withKey]

/-- A request without a key does not depend on it. -/
theorem send_keyless {r : Request} (h : Request.keys r.headers = []) :
    (Act.send r).Mirrors (Act.send r) key := by
  have hsame := Request.withKey_of_keys h key
  have hsend : (Act.send r).Mirrors _ key := send (by rw [hsame])
  rw [hsame] at hsend
  exact hsend

theorem exchange {r r' : Request} (h : (Act.send r).Mirrors (Act.send r') key) :
    (exchange r).Mirrors (exchange r') key := by
  refine .bind h fun reply => ?_
  rcases reply with error | ⟨response, url⟩
  · exact .pure _
  · exact .pure _

end Mirrors

end Act

open Act (Mirrors)

variable {key : String}

/-! ## Downloads -/

theorem Download.mirrors_toFile (url : String) {makePath : Json → Act String}
    (hpath : ∀ ext, (makePath ext).Mirrors (makePath ext) key) (default timeout : Json) :
    (toFile url makePath default timeout).Mirrors (toFile url makePath default timeout) key := by
  have hfetch : (fetch url timeout).Mirrors (fetch url timeout) key := by
    refine .bind (.send_keyless rfl) fun reply => ?_
    split
    · exact .fail _
    · split
      · exact .fail _
      · exact .pure _
  have hstore (path : String) (response : Response) :
      (store url path response).Mirrors (store url path response) key := by
    refine .look fun w events => ?_
    dsimp only
    split
    · exact .fail _
    · refine .bind (.change (fun _ => rfl) fun _ _ => rfl) fun _ => ?_
      split
      · exact .fail _
      · exact .log _ _
  exact .bind (.log _ _) fun _ => .bind hfetch fun _ => .bind (.ofExcept _) fun ext =>
    .bind (hpath ext) fun _ => .bind (hstore _ _) fun _ => .pure _

/-! ## Contexts -/

namespace Context

theorem mirrors_ofId (id : ContextId) : (ofId id).Mirrors (ofId id) key := by
  refine .look fun w events => ?_
  dsimp only
  split
  · exact .pure _
  · exact .fail _

theorem mirrors_tempPath (id : ContextId) (suffix start : Json) :
    (tempPath id suffix start).Mirrors (tempPath id suffix start) key :=
  .bind (mirrors_ofId id) fun _ => .freshFile _ _ _

/-- The default context is made in the same way. -/
theorem mirrors_orDefault (context : Option ContextId) :
    (orDefault context).Mirrors (orDefault context) key := by
  have hcreate (ffmpeg ffprobe : Argument) (root : Option Json) :
      (create ffmpeg ffprobe root).Mirrors (create ffmpeg ffprobe root) key :=
    .look fun _ _ => .bind (.freshDirectory _ _) fun _ =>
      .bind (.change (fun _ => rfl) fun _ _ => rfl) fun _ => .pure _
  have hvariable (name : String) :
      (Act.environment? name).Mirrors (Act.environment? name) key :=
    .look fun _ _ => .pure _
  have henvironment : ofEnvironment.Mirrors ofEnvironment key :=
    .bind (hvariable _) fun _ => .bind (hvariable _) fun _ => .bind (hvariable _) fun _ =>
      hcreate _ _ _
  cases context with
  | some id => exact .pure _
  | none =>
    refine .look fun w events => ?_
    dsimp only
    split
    · exact .pure _
    · exact .bind henvironment fun _ => .bind (.change (fun _ => rfl) fun _ _ => rfl) fun _ =>
        .pure _

end Context

/-! ## Opening a clip -/

theorem StreamInfo.mirrors_probe (source : Json) (context : ContextId) :
    (probe source context).Mirrors (probe source context) key := by
  have hgiveUp (source reason : String) :
      (giveUp source reason).Mirrors (giveUp source reason) key :=
    .bind (.log _ _) fun _ => .ofExcept _
  have hreply (room : Nat) (source : String) (reply : RunReply) :
      (ofReply room source reply).Mirrors (ofReply room source reply) key := by
    refine .bind (.ofExcept _) fun document => ?_
    split
    · exact hgiveUp _ _
    · refine .bind (.ofExcept _) fun info => ?_
      split
      · exact hgiveUp _ _
      · exact .bind (.log _ _) fun _ => .pure _
  exact .bind (Context.mirrors_ofId _) fun _ => .bind (.ofExcept _) fun _ =>
    .bind (.runCommand _ _) fun _ => .look fun _ _ => hreply _ _ _

theorem Archive.mirrors_extract (path : Json) (context : ContextId) (start : Json) :
    (extract path context start).Mirrors (extract path context start) key := by
  have hdirectory : (Context.tempDirectory context start).Mirrors
      (Context.tempDirectory context start) key :=
    .bind (Context.mirrors_ofId _) fun _ => .freshDirectory _ _
  refine .bind hdirectory fun directory => ?_
  cases path with
  | str path =>
    refine .look fun w events => .bind (.ofExcept _) fun members => .look fun w events => ?_
    exact .bind (.change (fun _ => rfl) fun _ _ => rfl) fun _ => .bind (.ofExcept _) fun _ =>
      .bind (.log _ _) fun _ => .pure _
  | _ => exact .fail _

namespace Foreground

theorem mirrors_ofSource (format : ForegroundFormat) (path : Json) (context : ContextId) :
    (ofSource format path context).Mirrors (ofSource format path context) key :=
  .bind (StreamInfo.mirrors_probe _ _) fun _ => .ofExcept _

theorem mirrors_ofBundle (path soft : Json) (context : ContextId) :
    (ofBundle path soft context).Mirrors (ofBundle path soft context) key := by
  have hlocal : (localBundle path context).Mirrors (localBundle path context) key :=
    .bind (.ofExcept _) fun _ => .ite (.bind (Download.mirrors_toFile _
      (fun _ => Context.mirrors_tempPath _ _ _) _ _) fun _ => .pure _) (.pure _)
  have hneed (member : String) (path : String) (found : Option String) :
      (needMember member path found).Mirrors (needMember member path found) key := by
    cases found with
    | none => exact .fail _
    | some found => exact .pure _
  have hfiles (picture mask audio soft : Json) :
      (ofFiles picture mask audio soft context).Mirrors
        (ofFiles picture mask audio soft context) key :=
    .bind (StreamInfo.mirrors_probe _ _) fun _ => .ofExcept _
  exact .bind hlocal fun _ => .bind (Archive.mirrors_extract _ _ _) fun _ => .look fun _ _ =>
    .bind (.ofExcept _) fun _ => .bind (.ofExcept _) fun _ => .bind (.ofExcept _) fun _ =>
    .bind (hneed _ _ _) fun _ => .bind (hneed _ _ _) fun _ =>
    .bind (.log _ _) fun _ => hfiles _ _ _ _

theorem mirrors_ofLocator (path : Json) (context : Option ContextId) :
    (ofLocator path context).Mirrors (ofLocator path context) key := by
  refine .bind (Context.mirrors_orDefault _) fun context => .bind (.ofExcept _) fun ext => ?_
  split
  · rename_i format _
    cases format with
    | bundle => exact mirrors_ofBundle _ _ _
    | _ => exact mirrors_ofSource _ _ _
  · exact .fail _

end Foreground

end Compositor
