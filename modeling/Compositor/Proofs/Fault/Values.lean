import Compositor.Composition.Picture
import Compositor.Composition.Sound
import Compositor.Proofs.Fault.Wiring

/-!
# Settings never miswire

Computing with settings that are kept as given may be refused in many ways: a value of
the wrong kind, a number too large, a rate that is no number. None of these is a fault
of wiring, whatever the settings are.
-/
namespace Compositor

/-! ## Sorting -/

section Sorting

variable {α : Type} {less : Order.Less Fault α} (h : ∀ a b, Clean (less a b))
include h

theorem clean_takeRun (falling : Bool) (last : α) (l : List α) :
    Clean (Order.takeRun less falling last l) := by
  induction l generalizing last with
  | nil => exact clean_ok _
  | cons a rest ih =>
    exact .bind (h a last) fun _ => .ite (.bind (ih a) fun _ => clean_pure _) (clean_pure _)

theorem clean_firstRun (l : List α) : Clean (Order.firstRun less l) := by
  match l with
  | [] | [_] => exact clean_ok _
  | a :: b :: rest =>
    exact .bind (h b a) fun _ => .bind (clean_takeRun h _ _ _) fun _ => clean_pure _

theorem clean_placeOf (a : α) (sorted : List α) : Clean (Order.placeOf less a sorted) := by
  induction sorted using Order.placeOf.induct with
  | case1 => simp [Order.placeOf]
  | case2 sorted hne middle bound below above =>
    unfold Order.placeOf
    rw [dif_neg hne]
    exact .bind (h _ _) fun _ => .ite below (.bind above fun _ => clean_pure _)

theorem clean_insert (sorted : List α) (a : α) : Clean (Order.insert less sorted a) :=
  .bind (clean_placeOf h a sorted) fun _ => clean_pure _

theorem clean_sort (l : List α) : Clean (Order.sort less l) := by
  refine .bind (clean_firstRun h l) fun r => ?_
  obtain ⟨run, left⟩ := r
  change Clean (left.foldlM (Order.insert less) run)
  induction left generalizing run with
  | nil => exact clean_ok _
  | cons a left ih =>
    rw [List.foldlM_cons]
    exact .bind (clean_insert h _ _) fun s => ih s

end Sorting

/-! ## Numbers and other values -/

theorem Number.clean_toFloat (n : Number) : Clean n.toFloat := by
  unfold toFloat
  repeat' split
  all_goals simp [Fault.isWiring]

theorem Number.clean_combine (exact : Int → Int → Int) (rounded : Float → Float → Float)
    (a b : Number) : Clean (combine exact rounded a b) := by
  unfold combine
  split
  · exact clean_ok _
  · exact .bind a.clean_toFloat fun _ => .bind b.clean_toFloat fun _ => clean_ok _

theorem Number.clean_floor (x : Float) : Clean (floor x) := by
  unfold floor
  split
  · exact clean_ok _
  · split <;> simp [Fault.isWiring]

namespace Json

theorem clean_toNumber (v : Json) : Clean v.toNumber := by
  unfold toNumber
  split <;> simp [Fault.isWiring]

mutual

theorem clean_less (a b : Json) : Clean (less a b) := by
  unfold less
  split
  · exact clean_ok _
  · exact clean_lessItems _ _
  · exact .bind (clean_toNumber _) fun _ => .bind (clean_toNumber _) fun _ => clean_ok _

theorem clean_lessItems (a b : List Json) : Clean (lessItems a b) := by
  unfold lessItems
  split
  · exact clean_ok _
  · exact clean_ok _
  · exact clean_ok _
  · exact .ite (clean_lessItems _ _) (clean_less _ _)

end

theorem clean_add (a b : Json) : Clean (add a b) :=
  .bind a.clean_toNumber fun m => .bind b.clean_toNumber fun n =>
    (Number.clean_combine _ _ m n).map _

theorem clean_sub (a b : Json) : Clean (sub a b) :=
  .bind a.clean_toNumber fun m => .bind b.clean_toNumber fun n =>
    (Number.clean_combine _ _ m n).map _

theorem clean_signedText (v : Json) : Clean v.signedText := by
  unfold signedText
  split
  · exact clean_ok _
  · simp [Fault.isWiring]
  · refine .bind v.clean_toNumber fun n => ?_
    cases n <;> exact clean_ok _

theorem clean_onePlaceText (v : Json) : Clean v.onePlaceText := by
  unfold onePlaceText
  split
  · simp [Fault.isWiring]
  · exact .bind v.clean_toNumber fun n => .bind n.clean_toFloat fun _ => clean_ok _

end Json

/-! ## Time -/

namespace Quantity

theorem clean_least (a b : Json) : Clean (least a b) :=
  .bind (Json.clean_less b a) fun _ => .ite (clean_ok _) (clean_ok _)

theorem clean_greatest (a : Json) (l : List Json) : Clean (greatest a l) := by
  induction l generalizing a with
  | nil => exact clean_ok _
  | cons b rest ih => exact .bind (Json.clean_less a b) fun _ => .ite (ih b) (ih a)

end Quantity

namespace Trim

/-- What is left up to an end. -/
theorem clean_span (start stop : Json) : Clean (do
    if ← Quantity.less start stop then return some (← Quantity.sub stop start)
    return none : Except Fault (Option Json)) := by
  refine .bind (Json.clean_less _ _) fun below => ?_
  cases below with
  | true => exact .bind (Json.clean_sub _ _) fun _ => clean_pure _
  | false => exact clean_pure _

theorem clean_length (total : Json) (t : Option (Trim Json)) : Clean (length total t) := by
  unfold length
  split
  · exact clean_ok _
  · split
    · exact .bind (clean_ok _) fun stop => clean_span _ stop
    · exact .bind (Quantity.clean_least _ _) fun stop => clean_span _ stop

theorem clean_clipLength (probed : Option Json) (t : Option (Trim Json)) :
    Clean (clipLength probed t) := by
  unfold clipLength
  split
  · exact clean_ok _
  · exact .ite (clean_ok _) (clean_length _ _)

theorem clean_args (t : Option (Trim Json)) : Clean (args t) := by
  refine .map ?_ _
  unfold seek
  split
  · exact clean_ok _
  · split
    · exact clean_ok _
    · exact .bind (Json.clean_sub _ _) fun _ => clean_ok _

end Trim

namespace Placement

theorem clean_delay? (p : Placement Json) : Clean p.delay? := by
  unfold delay?
  split
  · exact clean_ok _
  · exact .ite (clean_ok _) (.bind (Json.clean_less _ _) fun _ => .ite (clean_ok _) (clean_ok _))

theorem clean_windowEnd (p : Placement Json) : Clean p.windowEnd := by
  unfold windowEnd
  split
  · exact clean_ok _
  · split
    · exact .map (Json.clean_add _ _) _
    · exact clean_ok _

end Placement

namespace Length

theorem clean_positive? (d : Option Json) : Clean (positive? d) := by
  unfold positive?
  split
  · exact clean_ok _
  · exact .ite (clean_ok _) (.bind (Json.clean_less _ _) fun _ => .ite (clean_ok _) (clean_ok _))

theorem clean_longest? (l : List (Option Json)) : Clean (longest? l) := by
  unfold longest?
  split
  · exact clean_ok _
  · exact .map (Quantity.clean_greatest _ _) _

theorem clean_resolve {explicit : Option Json} {background : Except Fault (Option Json)}
    {layers : Except Fault (List (Option Json))} (hb : Clean background) (hl : Clean layers) :
    Clean (resolve explicit background layers) := by
  unfold resolve
  split
  · exact clean_ok _
  · refine .bind hb fun _ => .bind (clean_positive? _) fun d => ?_
    cases d with
    | some d => exact clean_pure _
    | none =>
      refine .bind hl fun _ => .bind (clean_longest? _) fun d => ?_
      cases d with
      | some d => exact .bind (Json.clean_less _ _) fun _ => .ite (clean_pure _) (clean_pure _)
      | none => exact clean_pure _

end Length

/-! ## Layout -/

theorem Percentage.clean_side (canvas : Json) (own common : Option Float) :
    Clean (side canvas own common) := by
  have hshare : ∀ p : Float, Clean (share canvas p) := fun p =>
    .bind canvas.clean_toNumber fun n => .bind n.clean_toFloat fun _ => Number.clean_floor _
  have hwhole : Clean (whole Float canvas) := by
    refine .bind canvas.clean_toNumber fun n => ?_
    cases n with
    | int n => exact .bind (Number.clean_toFloat _) fun _ => Number.clean_floor _
    | real x => exact Number.clean_floor _
  unfold side
  split
  · exact hshare _
  · split
    · exact .ite hwhole (hshare _)
    · exact hwhole

namespace Size

theorem clean_box (size : Size Float) (canvas : Canvas) : Clean (size.box canvas) :=
  .bind (Percentage.clean_side _ _ _) fun _ => .bind (Percentage.clean_side _ _ _) fun _ =>
    clean_ok _

theorem clean_target? (size : Size Float) (canvas : Canvas) : Clean (size.target? canvas) := by
  unfold target?
  split
  · split <;> exact clean_ok _
  · exact .bind (clean_box _ _) fun _ => clean_ok _
  all_goals exact clean_ok _

theorem clean_scaleParams (size : Size Float) (canvas : Canvas) :
    Clean (size.scaleParams canvas) := by
  refine .bind (clean_target? _ _) fun t => ?_
  cases t <;> exact clean_ok _

end Size

theorem Align.clean_withOffset (base : String) (offset : Json) : Clean (withOffset base offset) :=
  .ite (.bind offset.clean_signedText fun _ => clean_ok _) (clean_ok _)

theorem Align.clean_position (a : Align) (side extent : String) (offset : Json)
    (box : Option String) : Clean (a.position side extent offset box) := by
  unfold position
  split
  · exact clean_withOffset _ _
  · exact .bind (clean_withOffset _ _) fun _ => clean_ok _

theorem Anchor.clean_position (a : Anchor) (dx dy : Json) (box : Option (String × String)) :
    Clean (a.position dx dy box) :=
  .bind (Align.clean_position _ _ _ _ _) fun _ => .bind (Align.clean_position _ _ _ _ _) fun _ =>
    clean_ok _

/-! ## Layers -/

namespace Layer

theorem clean_duration (l : Layer) : Clean l.duration := Trim.clean_clipLength _ _

theorem clean_startOffset (l : Layer) : Clean l.startOffset :=
  .bind l.placement.clean_delay? fun _ => clean_ok _

theorem clean_shiftExpr (l : Layer) : Clean l.shiftExpr :=
  .bind l.placement.clean_delay? fun _ => clean_ok _

theorem clean_scaleExpr (l : Layer) (canvas : Canvas) : Clean (l.scaleExpr canvas) :=
  .bind (l.size.clean_scaleParams canvas) fun _ => clean_ok _

theorem clean_properAnchor (l : Layer) : Clean l.properAnchor := by
  unfold properAnchor
  cases l.anchor with
  | ok anchor => exact clean_ok anchor
  | error _ => exact (clean_error .noAttribute).mpr rfl

theorem clean_position (l : Layer) (canvas : Canvas) : Clean (l.position canvas) :=
  .ite (clean_ok _) <| .ite
    (.bind (l.size.clean_box canvas) fun _ => .bind l.clean_properAnchor fun _ =>
      Anchor.clean_position _ _ _ _)
    (.bind l.clean_properAnchor fun _ => Anchor.clean_position _ _ _ _)

theorem clean_windowParams (l : Layer) : Clean l.windowParams := by
  refine .bind l.placement.clean_windowEnd fun stop => ?_
  cases stop <;> exact clean_ok _

theorem clean_overlayParams (l : Layer) (canvas : Canvas) : Clean (l.overlayParams canvas) :=
  .bind (l.clean_position canvas) fun _ => .bind l.clean_windowParams fun _ => clean_ok _

theorem clean_delaySeconds (delay : Json) : Clean (delaySeconds delay) := by
  unfold delaySeconds Checked.toExcept
  split <;> simp [Fault.isWiring]

end Layer

theorem AudioSource.clean_delayExpr (seconds : Float) : Clean (delayExpr seconds) :=
  .bind (Number.clean_floor _) fun _ => clean_ok _

/-! ## Compositions -/

theorem clean_mapM {α β : Type} {f : α → Except Fault β} (h : ∀ a, Clean (f a)) (l : List α) :
    Clean (l.mapM f) := by
  induction l with
  | nil => exact clean_ok _
  | cons a rest ih =>
    rw [List.mapM_cons]
    exact .bind (h a) fun _ => .bind ih fun _ => clean_pure _

namespace Composition

theorem clean_frame (c : Composition) : Clean c.frame := by
  unfold frame
  split <;> simp [Fault.isWiring]

theorem clean_lengthRule (c : Composition) : Clean c.lengthRule := by
  refine Length.clean_resolve ?_ (clean_mapM Layer.clean_duration _)
  unfold backgroundLength
  split
  · exact .ite (.ite (Trim.clean_clipLength _ _) (clean_ok _)) (clean_ok _)
  · exact clean_ok _

theorem clean_ordered (c : Composition) : Clean c.ordered :=
  clean_sort (fun _ _ => Json.clean_less _ _) _

end Composition

/-! ## Locators -/

namespace Locator

theorem clean_parts (s : String) : Clean (Address.parts s) := by
  unfold Address.parts
  exact .ite (by simp [Fault.isWiring]) (clean_ok _)

theorem clean_extension (s : String) : Clean (extension s) :=
  .bind (clean_parts s) fun _ => clean_ok _

theorem clean_sourceType (s : String) : Clean (sourceType s) :=
  .bind (clean_parts s) fun _ => clean_ok _

end Locator

end Compositor
