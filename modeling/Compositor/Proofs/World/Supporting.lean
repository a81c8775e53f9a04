import Compositor.Job.Removal
import Compositor.Proofs.Stream.Document
import Compositor.Proofs.World.Act

/-!
# Actions that support what they are given

Only the choice of a format can refuse a source because of its extension. What comes after the
choice may fail in many ways: the tool may answer nothing, a document may be of any shape, an
archive may be broken or lack a member. None of this is a refusal of the format.
-/
namespace Compositor

variable {α β : Type}

/-- A source or a format that is not supported. -/
def Fault.isUnsupported : Fault → Bool
  | .media e => e.family == .unsupported
  | _ => false

theorem Fault.isUnsupported_ofSystem (e : SystemError) :
    (Fault.ofSystem e).isUnsupported = false := by
  cases e <;> rfl

theorem Fault.isUnsupported_ofStep (step : String → StepError) (e : SystemError) :
    (Fault.ofStep step e).isUnsupported = false := by
  cases e <;> rfl

/-- A result that is no refusal of a format. -/
def Supported (x : Except Fault α) : Prop := ∀ e, x = .error e → e.isUnsupported = false

namespace Supported

theorem ok (a : α) : Supported (.ok a : Except Fault α) := nofun

theorem error {e : Fault} (h : e.isUnsupported = false) : Supported (.error e : Except Fault α) :=
  fun _ he => by cases he; exact h

theorem bind {x : Except Fault α} {f : α → Except Fault β} (hx : Supported x)
    (hf : ∀ a, Supported (f a)) : Supported (x >>= f) := by
  cases x with
  | ok a => exact hf a
  | error e => exact .error (hx e rfl)

theorem map {x : Except Fault α} (hx : Supported x) (f : α → β) : Supported (x.map f) := by
  cases x with
  | ok a => exact .ok _
  | error e => exact .error (hx e rfl)

theorem mapError {ε : Type} {x : Except ε α} {f : ε → Fault}
    (h : ∀ e, (f e).isUnsupported = false) : Supported (x.mapError f) := by
  cases x with
  | ok a => exact .ok _
  | error e => exact .error (h e)

theorem ite {p : Prop} [Decidable p] {x y : Except Fault α} (hx : Supported x)
    (hy : Supported y) : Supported (if p then x else y) := by
  split
  · exact hx
  · exact hy

/-- A record that is not valid is a fault of its own. -/
theorem toExcept (r : Checked α) : Supported r.toExcept := by
  unfold Checked.toExcept
  split
  · exact .ok _
  · exact .error rfl

theorem parts (s : String) : Supported (Address.parts s) :=
  .ite (.error rfl) (.ok _)

theorem typeOfValue (v : Json) : Supported (Locator.typeOfValue v) := by
  unfold Locator.typeOfValue
  split
  · exact .bind (.parts _) fun _ => .ok _
  · exact .ite (.error rfl) (.ok _)

theorem extension (s : String) : Supported (Locator.extension s) :=
  .bind (.parts s) fun _ => .ok _

theorem pathPart (default : String) (v : Json) : Supported (Act.pathPart default v) := by
  unfold Act.pathPart
  split
  · exact .ok _
  · exact .ok _
  · exact .error rfl

end Supported

/-! ## Documents -/

namespace ProbeDocument

theorem Converts.supported {x : Except Fault α} (hx : Converts x) : Supported x := by
  intro e h
  rcases hx e h with rfl | rfl | rfl <;> rfl

theorem supported_orIfUnreadable {x : Except Fault α} (hx : Converts x) (other : α) :
    Supported (orIfUnreadable x other) := by
  unfold orIfUnreadable
  split
  · exact .ok _
  · exact .ok _
  · exact hx.supported

theorem supported_get (v : Json) (name : String) : Supported (get v name) := by
  unfold get
  split
  · exact .ok _
  · exact .error rfl

theorem supported_firstOfType? (type : String) (items : List Json) :
    Supported (firstOfType? type items) := by
  induction items with
  | nil => exact .ok _
  | cons s rest ih => exact .bind (supported_get s _) fun _ => .ite (.ok _) ih

theorem supported_streams (data : Json) : Supported (streams data) := by
  refine .bind (supported_get data _) fun v => ?_
  unfold Json.items
  split
  · exact .ok _
  · exact .ok _
  · exact .ok _
  · exact .error rfl

theorem supported_rotation (stream : Json) : Supported (rotation stream) :=
  .bind (supported_get _ _) fun _ => .ite (supported_orIfUnreadable (converts_degrees _) 0)
    (.bind (supported_get _ _) fun _ => .bind (supported_get _ _) fun _ =>
      .ite (supported_orIfUnreadable (converts_degrees _) 0) (.ok _))

theorem supported_duration? (v : Json) : Supported (ProbeDocument.duration? v) := by
  rw [duration?_eq]
  refine supported_orIfUnreadable ?_ none
  intro e h
  cases hv : v.toReal with
  | ok x => rw [hv] at h; cases h
  | error e' => rw [hv] at h; cases h; exact converts_toReal v e hv

theorem supported_side (v : Json) : Supported (side v) := by
  have hint : Supported v.toInt := by
    unfold Json.toInt
    split
    · split
      · exact .ok _
      · exact .error rfl
    · refine .bind ?_ fun n => ?_
      · unfold Json.toNumber
        split
        · exact .ok _
        · exact .error rfl
      · split
        · exact .ok _
        · unfold Number.truncate
          split
          · exact .ok _
          · split <;> exact .error rfl
  exact .ite (.ok _) (hint.map _)

theorem supported_frameRate (v : Json) : Supported (frameRate v) := by
  refine .ite (.ok _) ?_
  split
  · exact .ok _
  · split <;> exact .error rfl
  · split <;> exact .error rfl
  · exact .error rfl

theorem supported_keepsAlphaInVp9 (codec pixelFormat : Json) :
    Supported (keepsAlphaInVp9 codec pixelFormat) := by
  refine .ite ?_ (.ok _)
  split
  · exact .ok _
  · exact .error rfl
  · exact .error rfl
  · exact .ok _

theorem supported_ofDocument? (source data : Json) :
    Supported (StreamInfo.ofDocument? source data) := by
  refine .bind (supported_streams data) fun all =>
    .bind (supported_firstOfType? _ _) fun found => ?_
  cases found with
  | none => exact .ok _
  | some video =>
    refine .bind (supported_get _ _) fun _ => .bind (supported_get _ _) fun _ =>
      .bind (supported_rotation _) fun _ => .bind (supported_get _ _) fun _ =>
      .bind (supported_duration? _) fun own => ?_
    dsimp only
    -- the container is looked at for the duration only, and what follows is the same
    cases own
    case' some d => refine .bind (.ok _) fun _ => ?_
    case' none =>
      refine .bind (supported_get _ _) fun _ => .bind (supported_get _ _) fun _ =>
        .bind (supported_duration? _) fun _ => ?_
    all_goals
      exact .bind (supported_get _ _) fun _ => .bind (supported_get _ _) fun _ =>
        .bind (.typeOfValue _) fun _ => .bind (supported_side _) fun _ =>
        .bind (supported_side _) fun _ => .bind (supported_get _ _) fun _ =>
        .bind (supported_frameRate _) fun _ => .bind (supported_firstOfType? _ _) fun _ =>
        .bind (supported_keepsAlphaInVp9 _ _) fun _ => .bind (.toExcept _) fun _ => .ok _

end ProbeDocument

/-! ## Archives -/

namespace Archive

theorem isUnsupported_fault (path : String) (e : ReadError) :
    (fault path e).isUnsupported = false := by
  cases e <;> rfl

theorem supported_unpackMember (path directory : String) (files : FileTree) (member : Member) :
    Supported (unpackMember path directory files member).2 := by
  unfold unpackMember
  split
  · exact .error (Fault.isUnsupported_ofStep _ _)
  · split
    · exact .error rfl
    · split
      · split
        · exact .ok _
        · split
          · exact .ok _
          · exact .error (Fault.isUnsupported_ofStep _ _)
      · unfold unpackData
        split
        · exact .error (isUnsupported_fault _ _)
        · split
          · exact .error (Fault.isUnsupported_ofStep _ _)
          · exact .map (Supported.mapError (isUnsupported_fault path)) _

-- a member must not be unpacked in order to see that the others come after it
attribute [local irreducible] unpackMember in
theorem unpackAll_cons (path directory : String) (files : FileTree) (member : Member)
    (rest : List Member) : unpackAll path directory files (member :: rest) =
      match unpackMember path directory files member with
      | (files, .ok ()) => unpackAll path directory files rest
      | (files, .error e) => (files, .error e) := rfl

theorem supported_unpackAll (path directory : String) (members : List Member) (files : FileTree) :
    Supported (unpackAll path directory files members).2 := by
  induction members generalizing files with
  | nil => exact .ok _
  | cons member rest ih =>
    have hmember := supported_unpackMember path directory files member
    rw [unpackAll_cons]
    match hrun : unpackMember path directory files member with
    | (files, .ok ()) => exact ih files
    | (files, .error e) =>
      rw [hrun] at hmember
      exact .error (hmember e rfl)

theorem supported_members (codecs : Codecs) (files : FileTree) (path : String) :
    Supported (members codecs files path) := by
  unfold members
  split
  · exact .error (Fault.isUnsupported_ofStep _ _)
  · exact .mapError (isUnsupported_fault path)

theorem supported_findMember (files : FileTree) (directory member : String) :
    Supported (findMember files directory member) := by
  refine .ite (.ok _) ?_
  split
  · exact .error (Fault.isUnsupported_ofSystem _)
  · exact .ok _

end Archive

/-! ## Actions -/

/-- The action refuses no format, in any world. -/
def Act.Supports (x : Act α) : Prop := ∀ w, Supported (x w).1

namespace Act.Supports

variable {x : Act α}

theorem pure (a : α) : (Pure.pure a : Act α).Supports := fun _ => .ok a

theorem fail {e : Fault} (h : e.isUnsupported = false) : (Act.fail e : Act α).Supports :=
  fun _ => .error h

theorem bind {f : α → Act β} (hx : x.Supports) (hf : ∀ a, (f a).Supports) :
    (x >>= f).Supports := by
  intro w e h
  rcases bind_error h with h | ⟨a, w', -, h⟩
  · exact hx w e h
  · exact hf a w' e h

theorem ite {p : Prop} [Decidable p] {y : Act α} (hx : x.Supports) (hy : y.Supports) :
    (if p then x else y).Supports := by
  split
  · exact hx
  · exact hy

theorem ofExcept {r : Except Fault α} (h : Supported r) : (Act.ofExcept r).Supports :=
  fun _ _ he => h _ (ofExcept_error he)

theorem look : (getThe World : Act World).Supports := fun _ => .ok _

theorem change (f : World → World) : (modify f : Act Unit).Supports := fun _ => .ok _

theorem log (level : LogLevel) (text : String) : (Act.log level text).Supports :=
  .bind .look fun _ => .ite (.change _) (.pure _)

theorem contextId (id : ContextId) : (Context.ofId id).Supports := by
  refine .bind .look fun w => ?_
  split
  · exact .pure _
  · exact .fail rfl

theorem claim {make : FileTree → String → Except SystemError FileTree}
    {pathFor : String → Except Fault String} (h : ∀ name, Supported (pathFor name)) (tries : Nat) :
    (Act.claim make pathFor tries).Supports := by
  induction tries with
  | zero => exact .fail rfl
  | succ tries ih =>
    have hname : freshName.Supports := .bind .look fun _ => .bind (.change _) fun _ => .pure _
    refine .bind hname fun name => .bind (.ofExcept (h name)) fun path => .bind .look fun w => ?_
    split
    · exact .bind (.change _) fun _ => .pure _
    · exact ih
    · exact .fail (Fault.isUnsupported_ofSystem _)

theorem tries : Act.tries.Supports := .bind .look fun _ => .pure _

theorem tempPath (id : ContextId) (suffix start : Json) :
    (Context.tempPath id suffix start).Supports :=
  .bind (.contextId id) fun _ => .bind .look fun _ => .bind .tries fun _ =>
    .claim (fun _ => .bind (.pathPart _ _) fun _ => .bind (.pathPart _ _) fun _ => .ok _) _

theorem tempDirectory (id : ContextId) (start : Json) :
    (Context.tempDirectory id start).Supports :=
  .bind (.contextId id) fun _ => .bind .look fun _ => .bind .tries fun _ =>
    .claim (fun _ => .bind (.pathPart _ _) fun _ => .ok _) _

theorem supported_answer (e : Ending) : Supported e.answer := by
  unfold Ending.answer
  split
  · exact .ok _
  · exact .ok _
  · exact .error rfl

theorem send (r : Request) : (Act.send r).Supports := by
  unfold Act.send
  split
  · exact .pure _
  · split
    · exact .pure _
    · exact .bind .look fun w => .bind (.change fun _ => w.sent _ _) fun _ =>
        .ofExcept (supported_answer _)

/-! ## Downloads -/

theorem toFile (url : String) {makePath : Json → Act String} (h : ∀ ext, (makePath ext).Supports)
    (default timeout : Json) : (Download.toFile url makePath default timeout).Supports := by
  have hfetch : (Download.fetch url timeout).Supports := by
    refine .bind (.send _) fun reply => ?_
    split
    · exact .fail rfl
    · split
      · exact .fail rfl
      · exact .pure _
  have hextension (contentType : Option String) :
      Supported (Download.extension MediaType.extension? contentType url default) := by
    unfold Download.extension
    split
    · exact .ok _
    · exact .bind (.bind (.parts url) fun _ => .ok _) fun _ => .ok _
  have hstore (path : String) (response : Response) :
      (Download.store url path response).Supports := by
    refine .bind .look fun w => ?_
    split
    · exact .fail (Fault.isUnsupported_ofStep _ _)
    · refine .bind (.change _) fun _ => ?_
      split
      · exact .fail rfl
      · exact .log _ _
  exact .bind (.log _ _) fun _ => .bind hfetch fun _ => .bind (.ofExcept (hextension _)) fun ext =>
    .bind (h ext) fun _ => .bind (hstore _ _) fun _ => .pure _

/-! ## Opening a clip of a known format -/

theorem probe (source : Json) (context : ContextId) :
    (StreamInfo.probe source context).Supports := by
  have hrun (command : List Argument) (timeout : Nat) :
      (Act.runCommand command timeout).Supports := by
    refine .ite (.pure _) (.bind (.change _) fun _ => .bind .look fun w => ?_)
    split
    · split
      · exact .bind (.change _) fun _ => .pure _
      · exact .pure _
    · exact .fail rfl
  have hplaceholder (source : String) : Supported (StreamInfo.placeholder source) := by
    have htype : Supported (Locator.sourceType source) := .bind (.parts source) fun _ => .ok _
    refine .bind htype fun _ => .bind (.bind htype fun type => ?_) fun _ => .ok _
    cases type with
    | stream => exact .ok _
    | _ => exact .bind (.extension source) fun _ => .ok _
  have hgiveUp (source reason : String) : (StreamInfo.giveUp source reason).Supports :=
    .bind (.log _ _) fun _ => .ofExcept (hplaceholder source)
  have hdocument (room : Nat) (source : String) (reply : RunReply) :
      Supported (StreamInfo.documentIn room source reply) := by
    unfold StreamInfo.documentIn
    repeat' split
    all_goals first | exact .ok _ | exact .error rfl
  refine .bind (.contextId _) fun _ => .bind (.ofExcept (.typeOfValue _)) fun _ =>
    .bind (hrun _ _) fun reply => ?_
  refine .bind .look fun w => .bind (.ofExcept (hdocument _ _ _)) fun document => ?_
  split
  · exact hgiveUp _ _
  · refine .bind (.ofExcept (ProbeDocument.supported_ofDocument? _ _)) fun info => ?_
    split
    · exact hgiveUp _ _
    · exact .bind (.log _ _) fun _ => .pure _

theorem extract (path : Json) (context : ContextId) (start : Json) :
    (Archive.extract path context start).Supports := by
  refine .bind (.tempDirectory _ _) fun directory => ?_
  split
  · exact .bind .look fun _ => .bind (.ofExcept (Archive.supported_members _ _ _)) fun _ =>
      .bind .look fun _ => .bind (.change _) fun _ =>
      .bind (.ofExcept (Archive.supported_unpackAll _ _ _ _)) fun _ =>
      .bind (.log _ _) fun _ => .pure _
  · exact .fail rfl

theorem ofBundle (path soft : Json) (context : ContextId) :
    (Foreground.ofBundle path soft context).Supports := by
  have hlocal : (Foreground.localBundle path context).Supports :=
    .bind (.ofExcept (.typeOfValue _)) fun _ =>
      .ite (.bind (.toFile _ (fun _ => .tempPath _ _ _) _ _) fun _ => .pure _) (.pure _)
  have hfind (files : FileTree) (directory member : String) :
      (Act.ofExcept (Archive.findMember files directory member)).Supports :=
    .ofExcept (Archive.supported_findMember _ _ _)
  have hneed (member path : String) (found : Option String) :
      (Foreground.needMember member path found).Supports := by
    cases found with
    | none => exact .fail rfl
    | some found => exact .pure _
  have hfiles (picture mask audio soft : Json) :
      (Foreground.ofFiles picture mask audio soft context).Supports :=
    .bind (.probe _ _) fun _ => .ofExcept (.toExcept _)
  exact .bind hlocal fun _ => .bind (.extract _ _ _) fun _ => .bind .look fun _ =>
    .bind (hfind _ _ _) fun _ => .bind (hfind _ _ _) fun _ => .bind (hfind _ _ _) fun _ =>
    .bind (hneed _ _ _) fun _ => .bind (hneed _ _ _) fun _ => .bind (.log _ _) fun _ =>
    hfiles _ _ _ _

/-- Opening a clip of a known format refuses no format. -/
theorem ofFormat (format : ForegroundFormat) (path : Json) (context : ContextId) :
    (Foreground.ofFormat format path context).Supports := by
  have hsource (format : ForegroundFormat) : (Foreground.ofSource format path context).Supports :=
    .bind (.probe _ _) fun _ => .ofExcept (.toExcept _)
  cases format with
  | bundle => exact .ofBundle _ _ _
  | webm | prores | stacked => exact hsource _

end Act.Supports

end Compositor
