import Compositor.Composition.Picture
import Compositor.Proofs.Graph.Wording

/-!
# The expressions of the picture

The expressions of the picture are put together from the settings of layers. Settings that are
numbers never show a mark of the structure around them; only a position given as a text may, and
it is the one thing that has to be asked for.
-/
namespace Compositor

/-! ## The parameters of sizes -/

namespace Size

/-- The parameters of the scaling filter are numbers and arithmetic over them. -/
theorem unmarked_target? {size : Size Float} {canvas : Canvas} (hw : canvas.width.IsNumber)
    (hh : canvas.height.IsNumber) {w h : String}
    (htarget : size.target? canvas = .ok (some (w, h))) :
    Unmarked w ∧ Unmarked h := by
  have hauto : Unmarked "-1" := by decide
  have hiw : Unmarked "iw*" := by decide
  have hih : Unmarked "ih*" := by decide
  unfold target? at htarget
  generalize size.mode = mode at htarget
  cases mode with
  | pixels =>
    dsimp only at htarget
    split at htarget
    · split at htarget
      · cases htarget
      · cases htarget
        exact ⟨unmarked_paramText _, unmarked_paramText _⟩
    · cases htarget
  | percent =>
    obtain ⟨⟨a, b⟩, -, htarget⟩ := bind_eq_ok.mp htarget
    cases htarget
    exact ⟨unmarked_int a, unmarked_int b⟩
  | contain | cover =>
    cases htarget
    exact ⟨hw.unmarked, hh.unmarked⟩
  | fitWidth =>
    cases htarget
    exact ⟨hw.unmarked, hauto⟩
  | fitHeight =>
    cases htarget
    exact ⟨hauto, hh.unmarked⟩
  | factor =>
    cases hfactors : size.factors? with
    | none =>
      rw [hfactors] at htarget
      cases htarget
      decide
    | some factors =>
      rw [hfactors] at htarget
      cases htarget
      exact ⟨hiw.append (unmarked_paramText _), hih.append (unmarked_paramText _)⟩

theorem unmarked_scaleParams {size : Size Float} {canvas : Canvas} (hw : canvas.width.IsNumber)
    (hh : canvas.height.IsNumber) {params : String}
    (hparams : size.scaleParams canvas = .ok (some params)) : Unmarked params := by
  have hcolon : Unmarked ":" := by decide
  obtain ⟨target, htarget, hparams⟩ := bind_eq_ok.mp hparams
  cases target with
  | none => cases hparams
  | some sides =>
    cases hparams
    obtain ⟨hw', hh'⟩ := unmarked_target? hw hh htarget
    refine ((hw'.append hcolon).append hh').append ?_
    generalize size.mode = mode
    cases mode <;> decide

end Size

/-! ## Positions -/

theorem Align.unmarked_withOffset {base text : String} {offset : Json} (hbase : Unmarked base)
    (h : Align.withOffset base offset = .ok text) : Unmarked text := by
  unfold withOffset at h
  split at h
  · obtain ⟨sign, hsign, h⟩ := bind_eq_ok.mp h
    cases h
    exact hbase.append (Json.unmarked_signedText hsign)
  · cases h
    exact hbase

theorem Align.unmarked_base (a : Align) {side extent : String} (hside : Unmarked side)
    (hextent : Unmarked extent) : Unmarked (a.base side extent) := by
  have hopen : Unmarked "(" := by decide
  have hminus : Unmarked "-" := by decide
  have hhalf : Unmarked ")/2" := by decide
  cases a with
  | near =>
    show Unmarked "0"
    decide
  | middle => exact (((hopen.append hside).append hminus).append hextent).append hhalf
  | far => exact (hside.append hminus).append hextent

theorem Align.unmarked_inside (a : Align) {outer box extent : String} (houter : Unmarked outer)
    (hbox : Unmarked box) (hextent : Unmarked extent) : Unmarked (a.inside outer box extent) := by
  have hopen : Unmarked "(" := by decide
  have hplus : Unmarked ")+(" := by decide
  have hminus : Unmarked "-" := by decide
  have hhalf : Unmarked ")/2" := by decide
  have hclose : Unmarked ")" := by decide
  have hstart := (((hopen.append houter).append hplus).append hbox).append hminus |>.append hextent
  cases a with
  | near => exact houter
  | middle => exact hstart.append hhalf
  | far => exact hstart.append hclose

theorem Align.unmarked_position (a : Align) {side extent : String} (hside : Unmarked side)
    (hextent : Unmarked extent) {offset : Json} {box : Option String}
    (hbox : ∀ b, box = some b → Unmarked b) {text : String}
    (h : a.position side extent offset box = .ok text) : Unmarked text := by
  cases box with
  | none => exact unmarked_withOffset (a.unmarked_base hside hextent) h
  | some b =>
    obtain ⟨outer, houter, h⟩ := bind_eq_ok.mp h
    cases h
    have hb := hbox b rfl
    exact a.unmarked_inside (unmarked_withOffset (a.unmarked_base hside hb) houter) hb hextent

/-- The expressions of an anchor, with any offsets for which there are expressions at all. -/
theorem Anchor.unmarked_position {a : Anchor} {dx dy : Json} {box : Option (String × String)}
    (hbox : ∀ b, box = some b → Unmarked b.1 ∧ Unmarked b.2) {x y : String}
    (h : a.position dx dy box = .ok (x, y)) : Unmarked x ∧ Unmarked y := by
  have hsides : ∀ part : String × String → String, (∀ b, box = some b → Unmarked (part b)) →
      ∀ side, box.map part = some side → Unmarked side := by
    intro part hpart side hside
    obtain ⟨b, hb, rfl⟩ := Option.map_eq_some_iff.mp hside
    exact hpart b hb
  obtain ⟨x', hx, h⟩ := bind_eq_ok.mp h
  obtain ⟨y', hy, h⟩ := bind_eq_ok.mp h
  cases h
  constructor
  · exact a.horizontal.unmarked_position (by decide) (by decide)
      (hsides Prod.fst fun b hb => (hbox b hb).1) hx
  · exact a.vertical.unmarked_position (by decide) (by decide)
      (hsides Prod.snd fun b hb => (hbox b hb).2) hy

/-! ## Layers -/

namespace Layer

/-- Settings as they are meant: numbers, and expressions of its own that show no mark. -/
structure Declared (l : Layer) : Prop where
  rotation : l.rotation.IsNumber
  crop : ∀ r, l.crop = some r →
    r.x.IsNumber ∧ r.y.IsNumber ∧ r.width.IsNumber ∧ r.height.IsNumber
  start : ∀ v, l.placement.start = some v → v.IsNumber
  stop : ∀ v, l.placement.stop = some v → v.IsNumber
  x : Unmarked l.xExpr.text
  y : Unmarked l.yExpr.text

variable {l : Layer} {canvas : Canvas}

theorem Declared.delay {d : Json} (hl : l.Declared) (h : l.placement.delay? = .ok (some d)) :
    d.IsNumber := by
  unfold Placement.delay? at h
  split at h
  · cases h
  · rename_i start hstart
    split at h
    · cases h
    · obtain ⟨above, -, h⟩ := bind_eq_ok.mp h
      cases above with
      | true =>
        cases h
        exact hl.start d hstart
      | false => cases h

theorem Declared.startOrZero (hl : l.Declared) : l.placement.startOrZero.IsNumber := by
  unfold Placement.startOrZero
  split
  · rename_i start hstart
    split
    · exact ⟨.int 0, rfl⟩
    · exact hl.start start hstart
  · exact ⟨.int 0, rfl⟩

theorem Declared.windowEnd {d : Json} (hl : l.Declared)
    (h : l.placement.windowEnd = .ok (some d)) : d.IsNumber := by
  unfold Placement.windowEnd at h
  split at h
  · rename_i stop hstop
    cases h
    exact hl.stop d hstop
  · split at h
    · rename_i duration _
      cases hsum : Json.add l.placement.startOrZero duration with
      | error e =>
        rw [show Quantity.add l.placement.startOrZero duration = _ from hsum] at h
        cases h
      | ok sum =>
        rw [show Quantity.add l.placement.startOrZero duration = _ from hsum] at h
        cases h
        exact Json.isNumber_add hsum
    · cases h

theorem worded_shiftExpr (hl : l.Declared) {expr : String} (h : l.shiftExpr = .ok (some expr)) :
    Worded expr := by
  have hname : Worded "setpts=PTS-STARTPTS,setpts=PTS+" := by decide
  have hbase : Unmarked "/TB" := by decide
  obtain ⟨delay, hdelay, h⟩ := bind_eq_ok.mp h
  cases delay with
  | none => cases h
  | some d =>
    cases h
    exact (hname.append (hl.delay hdelay).unmarked).append hbase

theorem worded_cropExpr (hl : l.Declared) {expr : String} (h : l.cropExpr = some expr) :
    Worded expr := by
  have hname : Worded "crop=" := by decide
  have hcolon : Unmarked ":" := by decide
  obtain ⟨r, hr, rfl⟩ := Option.map_eq_some_iff.mp h
  obtain ⟨hx, hy, hwidth, hheight⟩ := hl.crop r hr
  have hbox := ((hname.append hwidth.unmarked).append hcolon).append hheight.unmarked
  exact (((hbox.append hcolon).append hx.unmarked).append hcolon).append hy.unmarked

theorem worded_scaleExpr (hw : canvas.width.IsNumber) (hh : canvas.height.IsNumber)
    {expr : String} (h : l.scaleExpr canvas = .ok (some expr)) : Worded expr := by
  have hname : Worded "scale=" := by decide
  obtain ⟨params, hparams, h⟩ := bind_eq_ok.mp h
  cases params with
  | none => cases h
  | some params =>
    cases h
    exact hname.append (Size.unmarked_scaleParams hw hh hparams)

theorem worded_rotateExpr (hl : l.Declared) {expr : String} (h : l.rotateExpr = some expr) :
    Worded expr := by
  have hname : Worded "rotate=" := by decide
  have hradians : Unmarked "*PI/180" := by decide
  unfold rotateExpr at h
  split at h
  · cases h
  · cases h
    exact (hname.append hl.rotation.unmarked).append hradians

theorem worded_opacityExpr {expr : String} (h : l.opacityExpr = some expr) : Worded expr := by
  have hname : Worded "colorchannelmixer=aa=" := by decide
  have hformat : Worded "format=rgba," := by decide
  have hexpr := hname.append (Decimal.unmarked_text l.opacity)
  unfold opacityExpr at h
  split at h
  · cases h
  · cases h
    split
    · exact hexpr
    · exact hformat.append hexpr.unmarked

theorem unmarked_position (hl : l.Declared) {x y : String} (h : l.position canvas = .ok (x, y)) :
    Unmarked x ∧ Unmarked y := by
  unfold position at h
  split at h
  · cases h
    exact ⟨hl.x, hl.y⟩
  · split at h
    · obtain ⟨⟨width, height⟩, -, h⟩ := bind_eq_ok.mp h
      obtain ⟨anchor, -, h⟩ := bind_eq_ok.mp h
      refine Anchor.unmarked_position (fun b hb => ?_) h
      cases hb
      exact ⟨unmarked_int width, unmarked_int height⟩
    · obtain ⟨anchor, -, h⟩ := bind_eq_ok.mp h
      have hnone : ∀ b : String × String, none = some b → Unmarked b.1 ∧ Unmarked b.2 := nofun
      exact Anchor.unmarked_position hnone h

theorem unmarked_windowParams (hl : l.Declared) {params : String}
    (h : l.windowParams = .ok params) : Unmarked params := by
  have hname : Unmarked ":enable='between(t," := by decide
  have hcomma : Unmarked "," := by decide
  have hclose : Unmarked ")'" := by decide
  obtain ⟨stop, hstop, h⟩ := bind_eq_ok.mp h
  cases stop with
  | none =>
    cases h
    decide
  | some stop =>
    cases h
    have hstart := (hname.append hl.startOrZero.unmarked).append hcomma
    exact (hstart.append (hl.windowEnd hstop).unmarked).append hclose

theorem worded_overlayParams (hl : l.Declared) {params : String}
    (h : l.overlayParams canvas = .ok params) : Worded ("overlay=" ++ params) := by
  have hname : Worded "overlay=" := by decide
  have hx : Unmarked "x='" := by decide
  have hy : Unmarked "':y='" := by decide
  have hpass : Unmarked "':eof_action=pass" := by decide
  obtain ⟨⟨x, y⟩, hposition, h⟩ := bind_eq_ok.mp h
  obtain ⟨window, hwindow, h⟩ := bind_eq_ok.mp h
  cases h
  obtain ⟨hx', hy'⟩ := unmarked_position hl hposition
  have hplace := (((hx.append hx').append hy).append hy').append hpass
  exact hname.append (hplace.append (unmarked_windowParams hl hwindow))

end Layer

end Compositor
