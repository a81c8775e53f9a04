import Compositor.Proofs.Fault.Wiring
import Compositor.Stream.Document

/-!
# Which documents can be read

A document of the probing tool may have any shape. `Legible` says, of the document alone,
when it describes a source or says that there is no video: up to the first video stream the
streams have to be objects, and if there is one, its fields have to have the kinds that are
expected of them and no number may be too large for a double.
-/
namespace Compositor

variable {α β : Type}

namespace ProbeDocument

/-! ## The shape of documents -/

/-- The value of a field, null when it is missing. -/
def field (fields : Record.Fields) (name : String) : Json :=
  (Json.lookup? fields name).getD .null

/-- Whether a stream says that it is of a type. -/
def isOfType (type : String) : Json → Bool
  | .obj stream => Json.same (field stream "codec_type") type
  | _ => false

/-- All items up to the first stream of a type are objects. -/
def Reaches (type : String) (items : List Json) : Prop :=
  ∀ s ∈ items.takeWhile fun s => !isOfType type s, ∃ stream, s = .obj stream

/-- The items of the list of streams, which may be missing or empty in any way. -/
def streamItems? (data : Json) : Option (List Json) :=
  match data with
  | .obj fields =>
    match (field fields "streams").orElse (.arr []) with
    | .arr items => some items
    | _ => none
  | _ => none

/-- The first video stream. -/
def video? (data : Json) : Option Json :=
  (streamItems? data).bind fun items => items.find? (isOfType "video")

/-- A text, or a value that stands for nothing. -/
def Textual (v : Json) : Prop := v.isTruthy = true → ∃ s, v = .str s

/-- Not a number too large for a double. -/
def Bounded (v : Json) : Prop := v.toReal ≠ .error .overflow

/-- The fields of the rotation of a stream: its own comes before that of its tags. -/
def LegibleRotation (stream : Record.Fields) : Prop :=
  let own := field stream "rotation"
  if own.isTruthy then degrees own ≠ .error .overflow
  else ∃ tags, (field stream "tags").orElse (.obj []) = .obj tags ∧
    ((field tags "rotate").isTruthy = true → degrees (field tags "rotate") ≠ .error .overflow)

/-- The duration of a stream, and that of the container if the stream has none. -/
def LegibleDuration (stream : Record.Fields) (container : Json) : Prop :=
  let own := field stream "duration"
  Bounded own ∧ ((∀ x, own.toReal ≠ .ok x) →
    ∃ format, container.orElse (.obj []) = .obj format ∧ Bounded (field format "duration"))

/-- Each field of a video stream is of the kind that is expected of it. -/
structure LegibleVideo (stream : Record.Fields) (container : Json) : Prop where
  rotation : LegibleRotation stream
  duration : LegibleDuration stream container
  width : ∃ n, side (field stream "width") = .ok n
  height : ∃ n, side (field stream "height") = .ok n
  rate : Textual (field stream "r_frame_rate")
  codec : Textual (field stream "codec_name")
  pixelFormat : Textual (field stream "pix_fmt")

/-- The documents that can be read. -/
def Legible (data : Json) : Prop :=
  ∃ fields items, data = .obj fields ∧ streamItems? data = some items ∧ Reaches "video" items ∧
    ∀ video, items.find? (isOfType "video") = some video →
      Reaches "audio" items ∧
      ∃ stream, video = .obj stream ∧ LegibleVideo stream (field fields "format")

/-! ## The parts of a document -/

theorem get_obj (fields : Record.Fields) (name : String) :
    get (.obj fields) name = .ok (field fields name) := rfl

theorem isOfType_obj {type : String} {s : Json} (h : isOfType type s = true) :
    ∃ stream, s = .obj stream := by
  cases s with
  | obj stream => exact ⟨stream, rfl⟩
  | _ => cases h

/-- The search for a stream goes on until it finds one, and fails at what is no object. -/
theorem firstOfType?_eq_ok_iff {type : String} {items : List Json} {found : Option Json} :
    firstOfType? type items = .ok found ↔
      Reaches type items ∧ items.find? (isOfType type) = found := by
  unfold Reaches
  induction items with
  | nil => simp [firstOfType?]
  | cons s rest ih =>
    rw [firstOfType?]
    cases s with
    | obj stream =>
      rw [get_obj]
      cases hs : Json.same (field stream "codec_type") type with
      | true => simp [isOfType, hs, bind, Except.bind]
      | false => simpa [isOfType, hs, bind, Except.bind] using ih
    | _ => simp [get, isOfType, bind, Except.bind]

theorem Textual.iff_orElse {v : Json} {default : String} :
    Textual v ↔ ∃ s, v.orElse (.str default) = .str s := by
  unfold Textual Json.orElse
  cases v.isTruthy <;> simp

/-! ## Conversions of fields -/

/-- A conversion that fails meets a value of the wrong kind, outside the range, or too large
for a double. -/
def Converts (r : Except Fault α) : Prop :=
  ∀ e, r = .error e → e = .wrongType ∨ e = .wrongValue ∨ e = .overflow

theorem Converts.ok (a : α) : Converts (.ok a : Except Fault α) := nofun

theorem Converts.bind {x : Except Fault α} {f : α → Except Fault β} (hx : Converts x)
    (hf : ∀ a, Converts (f a)) : Converts (x >>= f) := by
  intro e h
  cases x with
  | ok a => exact hf a e h
  | error e' => exact hx e (by cases h; rfl)

theorem converts_toReal (v : Json) : Converts v.toReal := by
  unfold Json.toReal
  split
  · split
    · exact .ok _
    · exact fun e h => by cases h; simp
  · refine .bind ?_ fun n => ?_
    · unfold Json.toNumber
      split
      · exact .ok _
      · exact fun e h => by cases h; simp
    · unfold Number.toFloat
      split
      · split
        · exact .ok _
        · exact fun e h => by cases h; simp
      · exact .ok _

theorem converts_degrees (v : Json) : Converts (degrees v) := by
  refine .bind (converts_toReal v) fun x => .bind ?_ fun n => .ok _
  unfold Number.truncate
  split
  · exact .ok _
  · intro e h
    cases h
    cases x.isNaN <;> simp

/-- Only numbers that are too large are not answered by another result. -/
theorem orIfUnreadable_ok_iff {r : Except Fault α} (hr : Converts r) (other : α) :
    (∃ a, orIfUnreadable r other = .ok a) ↔ r ≠ .error .overflow := by
  cases r with
  | ok a => exact ⟨fun _ => nofun, fun _ => ⟨a, rfl⟩⟩
  | error e =>
    rcases hr e rfl with rfl | rfl | rfl
    · exact ⟨fun _ => nofun, fun _ => ⟨other, rfl⟩⟩
    · exact ⟨fun _ => nofun, fun _ => ⟨other, rfl⟩⟩
    · exact ⟨fun ⟨_, h⟩ => (nomatch h), fun h => absurd rfl h⟩

theorem rotation_ok_iff (stream : Record.Fields) :
    (∃ n, rotation (.obj stream) = .ok n) ↔ LegibleRotation stream := by
  unfold rotation LegibleRotation
  rw [get_obj, get_obj]
  by_cases hown : (field stream "rotation").isTruthy = true
  · simp only [bind, Except.bind, hown, if_true]
    exact orIfUnreadable_ok_iff (converts_degrees _) 0
  · simp only [bind, Except.bind, hown]
    cases htags : (field stream "tags").orElse (.obj []) with
    | obj tags =>
      rw [get_obj]
      by_cases htag : (field tags "rotate").isTruthy = true
      · simpa [htag] using orIfUnreadable_ok_iff (converts_degrees _) 0
      · simp [htag]
    | _ => simp [get]

theorem duration?_eq (v : Json) : duration? v = orIfUnreadable (v.toReal.map some) none := by
  have hempty : Decimal.readFloat? "" = none := by decide +kernel
  have habsent : Decimal.readFloat? "N/A" = none := by decide +kernel
  unfold duration?
  split
  · rfl
  · simp [Json.toReal, hempty, orIfUnreadable, Except.map]
  · simp [Json.toReal, habsent, orIfUnreadable, Except.map]
  · rfl

/-- A duration that is not too large is read, or there is none. -/
theorem duration?_ok_iff (v : Json) : (∃ d, duration? v = .ok d) ↔ Bounded v := by
  have hconverts : Converts (v.toReal.map some) := by
    intro e h
    cases hv : v.toReal with
    | ok x => rw [hv] at h; cases h
    | error e' => rw [hv] at h; cases h; exact converts_toReal v e hv
  rw [duration?_eq, orIfUnreadable_ok_iff hconverts, Bounded]
  cases v.toReal <;> simp [Except.map]

theorem duration?_eq_none {v : Json} (h : duration? v = .ok none) (x : Float) :
    v.toReal ≠ .ok x := by
  intro hx
  rw [duration?_eq, hx] at h
  cases h

theorem duration?_eq_some {v : Json} {d : Float} (h : duration? v = .ok (some d)) :
    v.toReal = .ok d := by
  rw [duration?_eq] at h
  cases hv : v.toReal with
  | ok x => rw [hv] at h; cases h; rfl
  | error e =>
    rw [hv] at h
    rcases converts_toReal v e hv with rfl | rfl | rfl <;> cases h

theorem frameRate_ok_iff (v : Json) : (∃ x, frameRate v = .ok x) ↔ Textual v := by
  unfold frameRate Textual
  by_cases hv : v.isTruthy = true
  · simp only [hv]
    cases v <;> simp
  · simp [hv]

/-! ## The list of streams -/

/-- A row of texts is no list of streams. -/
theorem not_reaches_texts {type : String} {texts : List String} (h : texts ≠ []) :
    ¬ Reaches type (texts.map Json.str) := by
  obtain ⟨text, rest, rfl⟩ := List.exists_cons_of_ne_nil h
  intro hreaches
  obtain ⟨stream, hstream⟩ := hreaches (.str text) (by simp [isOfType])
  cases hstream

/-- Text and objects have items too, but these are texts. -/
theorem orElse_items {v : Json} {items : List Json} (h : (v.orElse (.arr [])).items = .ok items) :
    v.orElse (.arr []) = .arr items ∨ ∃ texts : List String, texts ≠ [] ∧
      items = texts.map Json.str := by
  unfold Json.orElse at h ⊢
  by_cases hv : v.isTruthy = true
  · rw [if_pos hv] at h ⊢
    cases v with
    | arr list => cases h; exact .inl rfl
    | str s =>
      cases h
      refine .inr ⟨s.toList.map fun c => String.ofList [c], ?_, by simp⟩
      simpa [Json.isTruthy] using hv
    | obj list =>
      cases h
      refine .inr ⟨list.map Prod.fst, ?_, by simp⟩
      simpa [Json.isTruthy] using hv
    | _ => cases h
  · rw [if_neg hv] at h ⊢
    cases h
    exact .inl rfl

theorem streams_reaches_iff {data : Json} {items : List Json} {type : String} :
    streams data = .ok items ∧ Reaches type items ↔
      streamItems? data = some items ∧ Reaches type items := by
  refine and_congr_left fun hreaches => ?_
  unfold streams streamItems?
  cases data with
  | obj fields =>
    rw [get_obj]
    change ((field fields "streams").orElse (.arr [])).items = .ok items ↔ _
    constructor
    · intro h
      rcases orElse_items h with hlist | ⟨texts, hne, rfl⟩
      · simp only [hlist]
      · exact absurd hreaches (not_reaches_texts hne)
    · intro h
      cases hlist : (field fields "streams").orElse (.arr []) with
      | arr list => simpa [hlist, Json.items] using h
      | _ => simp [hlist] at h
  | _ => simp [get, bind, Except.bind]

/-! ## What a video stream says -/

/-- The fields of a description; the texts may be of any kind. -/
def description (source : String) (type : SourceType) (width height : Option Int) (turned : Int)
    (fps : Float) (duration : Option Float) (audio : Bool) (codec pixelFormat : Json)
    (needsVp9 : Bool) : Record.Fields :=
  [("source", .str source), ("source_type", .str type.name),
    ("codec_name", codec), ("pix_fmt", pixelFormat), ("width", .ofOption .int width),
    ("height", .ofOption .int height), ("rotation", .int turned), ("fps", .real fps),
    ("duration", .ofOption .real duration), ("has_audio", .bool audio),
    ("needs_vp9_decoder", .bool needsVp9)]

open Record in
/-- Only the texts of a description can be of the wrong kind. -/
theorem read_description (source : String) (type : SourceType) (width height : Option Int)
    (turned : Int) (fps : Float) (duration : Option Float) (audio : Bool)
    (codec pixelFormat : Json) (needsVp9 : Bool) :
    StreamInfo.read (description source type width height turned fps duration audio codec
      pixelFormat needsVp9) =
    (fun c p => (⟨source, type, c, p, width, height, turned, some fps, duration, audio,
        needsVp9⟩ : StreamInfo)) <$> (text codec).within (.field "codec_name") <*>
      (text pixelFormat).within (.field "pix_fmt") := by
  have htype : word SourceType.ofName? .literal (.str type.name) = .valid type := by
    cases type <;> rfl
  have hside : ∀ side : Option Int, nullable int (.ofOption .int side) = .valid side := by
    rintro (_ | n) <;> rfl
  have hduration : nullable real (.ofOption .real duration) = .valid duration := by
    cases duration <;> rfl
  change StreamInfo.mk <$> .valid source <*>
      (word SourceType.ofName? .literal (.str type.name)).within (.field "source_type") <*>
      (text codec).within (.field "codec_name") <*> (text pixelFormat).within (.field "pix_fmt") <*>
      (nullable int (.ofOption .int width)).within (.field "width") <*>
      (nullable int (.ofOption .int height)).within (.field "height") <*> .valid turned <*>
      .valid (some fps) <*>
      (nullable real (.ofOption .real duration)).within (.field "duration") <*>
      .valid audio <*> .valid needsVp9 = _
  rw [htype, hside, hside, hduration]
  generalize (text codec).within (.field "codec_name") = c
  generalize (text pixelFormat).within (.field "pix_fmt") = p
  cases c <;> cases p <;> rfl

/-- The duration of a stream, else that of the container. -/
def lengthIn (stream : Record.Fields) (container : Json) : Except Fault (Option Float) := do
  match ← duration? (field stream "duration") with
  | some d => .ok (some d)
  | none => do duration? (← get (container.orElse (.obj [])) "duration")

theorem lengthIn_ok_iff (stream : Record.Fields) (container : Json) :
    (∃ d, lengthIn stream container = .ok d) ↔ LegibleDuration stream container := by
  unfold lengthIn LegibleDuration
  dsimp only
  rw [← duration?_ok_iff]
  cases hown : duration? (field stream "duration") with
  | error e => simp [bind, Except.bind]
  | ok own =>
    cases own with
    | some d => simp [bind, Except.bind, duration?_eq_some hown]
    | none =>
      have hnone := duration?_eq_none hown
      cases hcontainer : container.orElse (.obj []) with
      | obj format => simp [bind, Except.bind, hnone, get_obj, duration?_ok_iff]
      | _ => simp [bind, Except.bind, hnone, get]

/-- What a video stream says about a source. The stream is one of `items`. -/
def describe (source : String) (type : SourceType) (container : Json) (items : List Json)
    (stream : Record.Fields) : Except Fault StreamInfo := do
  let turned ← rotation (.obj stream)
  let sides := upright turned (field stream "width") (field stream "height")
  let duration ← lengthIn stream container
  let codec := (field stream "codec_name").orElse StreamInfo.unknown
  let pixelFormat := (field stream "pix_fmt").orElse StreamInfo.unknown
  let width ← side sides.1
  let height ← side sides.2
  let fps ← frameRate (field stream "r_frame_rate")
  let audio ← firstOfType? "audio" items
  let needsVp9 ← keepsAlphaInVp9 codec pixelFormat
  (StreamInfo.read (description source type width height turned fps duration audio.isSome codec
    pixelFormat needsVp9)).toExcept

theorem ofDocument?_eq {source : String} {type : SourceType}
    (ht : Locator.sourceType source = .ok type) {fields stream : Record.Fields} {items : List Json}
    (hstreams : streams (.obj fields) = .ok items)
    (hfound : firstOfType? "video" items = .ok (some (.obj stream))) :
    StreamInfo.ofDocument? (.str source) (.obj fields) =
      (describe source type (field fields "format") items stream).map some := by
  have htype : Locator.typeOfValue (.str source) = .ok type := ht
  unfold StreamInfo.ofDocument? describe lengthIn
  rw [hstreams, htype]
  have hok : ∀ {α β : Type} (a : α) (f : α → Except Fault β), (.ok a >>= f) = f a :=
    fun _ _ => rfl
  change _ = some <$> _
  simp only [hok, hfound, get_obj, map_bind, bind_assoc]
  congr 1; funext turned
  congr 1; funext own
  cases own with
  | some d => simp only [map_eq_pure_bind]; rfl
  | none => simp only [map_eq_pure_bind, bind_assoc]; rfl

/-- Exchanging the sides does not matter. -/
theorem upright_ok_iff (turned : Int) (width height : Json) :
    ((∃ n, side (upright turned width height).1 = .ok n) ∧
      ∃ n, side (upright turned width height).2 = .ok n) ↔
    (∃ n, side width = .ok n) ∧ ∃ n, side height = .ok n := by
  unfold upright
  split
  · exact and_comm
  · exact Iff.rfl

/-- At the end only the texts can be of the wrong kind. -/
theorem texts_ok_iff (source : String) (type : SourceType) (width height : Option Int)
    (turned : Int) (fps : Float) (duration : Option Float) (audio : Bool)
    (codec pixelFormat : Json) :
    (∃ info, (do
      (StreamInfo.read (description source type width height turned fps duration audio codec
        pixelFormat (← keepsAlphaInVp9 codec pixelFormat))).toExcept) = .ok info) ↔
      (∃ s, codec = .str s) ∧ ∃ s, pixelFormat = .str s := by
  constructor
  · rintro ⟨info, h⟩
    obtain ⟨needsVp9, -, h⟩ := bind_eq_ok.mp h
    rw [read_description] at h
    cases codec with
    | str c =>
      cases pixelFormat with
      | str p => exact ⟨⟨c, rfl⟩, p, rfl⟩
      | _ => cases h
    | _ => cases pixelFormat <;> cases h
  · rintro ⟨⟨c, rfl⟩, p, rfl⟩
    have hneeds : ∃ needsVp9, keepsAlphaInVp9 (.str c) (.str p) = .ok needsVp9 := by
      unfold keepsAlphaInVp9
      split
      · exact ⟨_, rfl⟩
      · exact ⟨_, rfl⟩
    obtain ⟨needsVp9, hneeds⟩ := hneeds
    rw [hneeds]
    simp only [bind, Except.bind, read_description]
    exact ⟨_, rfl⟩

theorem describe_ok_iff (source : String) (type : SourceType) (container : Json)
    (items : List Json) (stream : Record.Fields) :
    (∃ info, describe source type container items stream = .ok info) ↔
      Reaches "audio" items ∧ LegibleVideo stream container := by
  have hrate := frameRate_ok_iff (field stream "r_frame_rate")
  have haudio : (∃ found, firstOfType? "audio" items = .ok found) ↔ Reaches "audio" items := by
    simp [firstOfType?_eq_ok_iff]
  have hsteps : (∃ info, describe source type container items stream = .ok info) ↔
      (∃ n, rotation (.obj stream) = .ok n) ∧ (∃ d, lengthIn stream container = .ok d) ∧
      ((∃ n, side (field stream "width") = .ok n) ∧ ∃ n, side (field stream "height") = .ok n) ∧
      (∃ x, frameRate (field stream "r_frame_rate") = .ok x) ∧
      (∃ found, firstOfType? "audio" items = .ok found) ∧
      (∃ s, (field stream "codec_name").orElse StreamInfo.unknown = .str s) ∧
      ∃ s, (field stream "pix_fmt").orElse StreamInfo.unknown = .str s := by
    refine bind_ok_iff fun turned _ => bind_ok_iff fun duration _ => ?_
    rw [← upright_ok_iff turned, and_assoc]
    exact bind_ok_iff fun width _ => bind_ok_iff fun height _ => bind_ok_iff fun fps _ =>
      bind_ok_iff fun audio _ =>
        texts_ok_iff source type width height turned fps duration audio.isSome _ _
  rw [hsteps, rotation_ok_iff, lengthIn_ok_iff, hrate, haudio, ← Textual.iff_orElse,
    ← Textual.iff_orElse]
  constructor
  · rintro ⟨hrotation, hduration, ⟨hwidth, hheight⟩, hrate, haudio, hcodec, hpixel⟩
    exact ⟨haudio, hrotation, hduration, hwidth, hheight, hrate, hcodec, hpixel⟩
  · rintro ⟨haudio, h⟩
    exact ⟨h.rotation, h.duration, ⟨h.width, h.height⟩, h.rate, haudio, h.codec, h.pixelFormat⟩

theorem describe_source {source : String} {type : SourceType} {container : Json}
    {items : List Json} {stream : Record.Fields} {info : StreamInfo}
    (h : describe source type container items stream = .ok info) : info.source = source := by
  simp only [describe, bind_eq_ok] at h
  obtain ⟨turned, -, duration, -, width, -, height, -, fps, -, audio, -, needsVp9, -, h⟩ := h
  rw [read_description] at h
  cases hcodec : (field stream "codec_name").orElse StreamInfo.unknown <;>
    cases hpixel : (field stream "pix_fmt").orElse StreamInfo.unknown <;>
    rw [hcodec, hpixel] at h <;> cases h
  rfl

end ProbeDocument

open ProbeDocument

namespace StreamInfo

variable {source : String} {type : SourceType} {data : Json} {found : Option StreamInfo}

/-- How a document is read: its streams are searched for a video, and that is described. -/
theorem ofDocument?_eq_ok_iff (ht : Locator.sourceType source = .ok type) :
    ofDocument? (.str source) data = .ok found ↔
      ∃ fields items, data = .obj fields ∧ streamItems? data = some items ∧
        Reaches "video" items ∧
        (items.find? (isOfType "video") = none ∧ found = none ∨
          ∃ stream info, items.find? (isOfType "video") = some (.obj stream) ∧
            describe source type (field fields "format") items stream = .ok info ∧
            found = some info) := by
  have hsearch : ∀ {items first}, streams data = .ok items →
      firstOfType? "video" items = .ok first → first = none →
      ofDocument? (.str source) data = .ok none := by
    rintro items first hstreams hfirst rfl
    simp only [ofDocument?, hstreams, hfirst, bind, Except.bind]
  constructor
  · intro h
    obtain ⟨items, hstreams, h'⟩ := bind_eq_ok.mp h
    obtain ⟨first, hfirst, -⟩ := bind_eq_ok.mp h'
    obtain ⟨hreaches, hfind⟩ := firstOfType?_eq_ok_iff.mp hfirst
    obtain ⟨hitems, -⟩ := streams_reaches_iff.mp ⟨hstreams, hreaches⟩
    cases data with
    | obj fields =>
      refine ⟨fields, items, rfl, hitems, hreaches, ?_⟩
      cases first with
      | none =>
        rw [hsearch hstreams hfirst rfl] at h
        exact .inl ⟨hfind, (Except.ok.inj h).symm⟩
      | some video =>
        obtain ⟨stream, rfl⟩ := isOfType_obj (List.find?_some hfind)
        rw [ofDocument?_eq ht hstreams hfirst] at h
        obtain ⟨info, hinfo, hfound⟩ := bind_eq_ok.mp ((map_eq_pure_bind _ _).symm.trans h)
        exact .inr ⟨stream, info, hfind, hinfo, (Except.ok.inj hfound).symm⟩
    | _ => cases hitems
  · rintro ⟨fields, items, rfl, hitems, hreaches, hfound⟩
    obtain ⟨hstreams, -⟩ := streams_reaches_iff.mpr ⟨hitems, hreaches⟩
    have hfirst := firstOfType?_eq_ok_iff.mpr ⟨hreaches, rfl⟩
    rcases hfound with ⟨hnone, rfl⟩ | ⟨stream, info, hsome, hinfo, rfl⟩
    · exact hsearch hstreams hfirst hnone
    · rw [ofDocument?_eq ht hstreams (hsome ▸ hfirst), hinfo]
      rfl

/-- A document is read exactly if it is legible. -/
theorem ofDocument?_ok_iff (ht : Locator.sourceType source = .ok type) (data : Json) :
    (∃ found, ofDocument? (.str source) data = .ok found) ↔ Legible data := by
  constructor
  · rintro ⟨found, h⟩
    obtain ⟨fields, items, rfl, hitems, hreaches, hfound⟩ := (ofDocument?_eq_ok_iff ht).mp h
    refine ⟨fields, items, rfl, hitems, hreaches, fun video hvideo => ?_⟩
    rcases hfound with ⟨hnone, -⟩ | ⟨stream, info, hsome, hinfo, -⟩
    · rw [hnone] at hvideo
      cases hvideo
    · obtain ⟨haudio, hstream⟩ := (describe_ok_iff _ _ _ _ _).mp ⟨info, hinfo⟩
      rw [hsome] at hvideo
      exact ⟨haudio, stream, (Option.some.inj hvideo).symm, hstream⟩
  · rintro ⟨fields, items, rfl, hitems, hreaches, hvideo⟩
    cases hfound : items.find? (isOfType "video") with
    | none => exact ⟨none, (ofDocument?_eq_ok_iff ht).mpr
        ⟨fields, items, rfl, hitems, hreaches, .inl ⟨hfound, rfl⟩⟩⟩
    | some video =>
      obtain ⟨haudio, stream, rfl, hstream⟩ := hvideo video hfound
      obtain ⟨info, hinfo⟩ := (describe_ok_iff source type _ _ _).mpr ⟨haudio, hstream⟩
      exact ⟨some info, (ofDocument?_eq_ok_iff ht).mpr
        ⟨fields, items, rfl, hitems, hreaches, .inr ⟨stream, info, hfound, hinfo, rfl⟩⟩⟩

/-- A document that is read describes the source if it has a video stream. -/
theorem ofDocument?_found (ht : Locator.sourceType source = .ok type)
    (h : ofDocument? (.str source) data = .ok found) :
    (found = none ↔ video? data = none) ∧ ∀ info, found = some info → info.source = source := by
  obtain ⟨fields, items, rfl, hitems, -, hfound⟩ := (ofDocument?_eq_ok_iff ht).mp h
  rw [video?, hitems, Option.bind_some]
  rcases hfound with ⟨hnone, rfl⟩ | ⟨stream, info, hsome, hinfo, rfl⟩
  · exact ⟨by simp [hnone], fun info hinfo => by cases hinfo⟩
  · refine ⟨by simp [hsome], fun info' hinfo' => ?_⟩
    cases hinfo'
    exact describe_source hinfo

end StreamInfo

end Compositor
