import Compositor.Layout.Position
import Compositor.Proofs.Fault.Wiring
import Compositor.Proofs.Json.Value
import Compositor.Proofs.Layout.Literal

/-!
# Where an anchor places a layer

The expressions of a position are texts. Read as formulas, they place the layer at its share of
the room that it leaves on the canvas, moved by the offset: at the beginning of the room for a
layer at the near edge, in its middle, or at its end. A box that stands around the layer makes the
texts longer, but not different in meaning.
-/
namespace Compositor

namespace Formula

/-! ## What a part of a text amounts to -/

/-- The value of a part of a text, whatever stands around it. -/
def Amounts (letters : Char → Option ℚ) (level : Level) (part : String) (value : ℚ) : Prop :=
  ∃ f, Means level part f ∧ f.eval letters = some value

namespace Amounts

variable {letters : Char → Option ℚ} {part part' : String} {x y : ℚ}

theorem number (h : IsLiteral part.toList x) : Amounts letters .factor part x :=
  ⟨_, .number h, rfl⟩

theorem letter {c : Char} (hpart : part.toList = [c]) (hdigit : c.isDigit = false)
    (hc : Token.ofChar? c = some (.letter c)) (h : letters c = some x) :
    Amounts letters .factor part x := ⟨_, .letter hpart hdigit hc, h⟩

theorem product (h : Amounts letters .factor part x) : Amounts letters .product part x := by
  obtain ⟨f, hmeans, heval⟩ := h
  exact ⟨f, hmeans.product, heval⟩

theorem sum (h : Amounts letters .product part x) : Amounts letters .sum part x := by
  obtain ⟨f, hmeans, heval⟩ := h
  exact ⟨f, hmeans.sum, heval⟩

theorem group (h : Amounts letters .sum part x) :
    Amounts letters .factor ("(" ++ part ++ ")") x := by
  obtain ⟨f, hmeans, heval⟩ := h
  exact ⟨f, hmeans.group, heval⟩

theorem add (h : Amounts letters .sum part x) (h' : Amounts letters .product part' y) :
    Amounts letters .sum (part ++ "+" ++ part') (x + y) := by
  obtain ⟨f, hmeans, heval⟩ := h
  obtain ⟨g, hmeans', heval'⟩ := h'
  exact ⟨_, hmeans.add hmeans', by rw [eval, heval, heval']; rfl⟩

theorem sub (h : Amounts letters .sum part x) (h' : Amounts letters .product part' y) :
    Amounts letters .sum (part ++ "-" ++ part') (x - y) := by
  obtain ⟨f, hmeans, heval⟩ := h
  obtain ⟨g, hmeans', heval'⟩ := h'
  exact ⟨_, hmeans.sub hmeans', by rw [eval, heval, heval']; rfl⟩

theorem half (h : Amounts letters .product part x) :
    Amounts letters .product (part ++ "/" ++ "2") (x / 2) := by
  obtain ⟨f, hmeans, heval⟩ := h
  refine ⟨_, hmeans.div (.number (isLiteral_nat 2)), ?_⟩
  have htwo : ((2 : ℕ) : ℚ) = 2 := rfl
  rw [eval, heval, eval, htwo]
  change (if (2 : ℚ) = 0 then none else some (x / 2)) = some (x / 2)
  exact if_neg two_ne_zero

/-- A signed numeral goes on with a sum. -/
theorem offset (h : Amounts letters .sum part x) (h' : IsSigned part' y) :
    Amounts letters .sum (part ++ part') (x + y) := by
  obtain ⟨negative, literal, size, rfl, hliteral, rfl⟩ := h'
  have hsize : Amounts letters .product literal size := (number hliteral).product
  rw [← String.append_assoc]
  cases negative with
  | false => exact h.add hsize
  | true =>
    have hsub := h.sub hsize
    rwa [sub_eq_add_neg] at hsub

theorem value?_eq (h : Amounts letters .sum part x) : value? letters part = some x := by
  obtain ⟨f, hmeans, heval⟩ := h
  rw [value?, hmeans.parse?_eq]
  exact heval

end Amounts

/-- A signed numeral alone has its value. -/
theorem value?_signed {letters : Char → Option ℚ} {text : String} {x : ℚ} (h : IsSigned text x) :
    value? letters text = some x := by
  obtain ⟨negative, literal, size, rfl, hliteral, rfl⟩ := h
  have hsize : Means .factor literal (.number size) := .number hliteral
  cases negative with
  | false =>
    have hpositive := hsize.positive
    exact Amounts.value?_eq ⟨_, hpositive.product.sum, rfl⟩
  | true =>
    have hnegative := hsize.negative
    exact Amounts.value?_eq ⟨_, hnegative.product.sum, rfl⟩

end Formula

open Formula (Amounts)

/-! ## Expressions for one axis -/

namespace Align

/-- The part of the free room along an axis that stands in front of a layer. -/
def share : Align → ℚ
  | .near => 0
  | .middle => 1 / 2
  | .far => 1

variable {letters : Char → Option ℚ} {base side extent box : String}

theorem withOffset_amounts {offset : Json} {x b : ℚ} (hoffset : offset.printed? = some x)
    (h : Amounts letters .sum base b) : ∃ text, withOffset base offset = .ok text ∧
      Amounts letters .sum text (b + x) := by
  unfold withOffset
  cases htruthy : offset.isTruthy with
  | false =>
    rw [Json.printed?_of_falsy htruthy hoffset, add_zero]
    exact ⟨base, rfl, h⟩
  | true =>
    obtain ⟨text, htext, hsigned⟩ := Json.isSigned_signedText hoffset
    rw [htext]
    exact ⟨base ++ text, rfl, h.offset hsigned⟩

/-! The marks between two parts of an expression, one by one. -/

theorem closing_half : ")/2" = ")" ++ ("/" ++ "2") := rfl

theorem closing_opening : ")+(" = ")" ++ ("+" ++ "(") := rfl

variable (a : Align) {S E B : ℚ}

theorem base_amounts (hside : Amounts letters .factor side S)
    (hextent : Amounts letters .factor extent E) :
    Amounts letters .sum (a.base side extent) (a.share * (S - E)) := by
  have hroom : Amounts letters .sum (side ++ "-" ++ extent) (S - E) :=
    hside.product.sum.sub hextent.product
  cases a with
  | near =>
    rw [share, zero_mul]
    exact (Amounts.number (isLiteral_nat 0)).product.sum
  | middle =>
    have hhalf := hroom.group.product.half.sum
    rw [share, one_div_mul_eq_div]
    simpa only [base, closing_half, String.append_assoc] using hhalf
  | far =>
    rw [share, one_mul]
    exact hroom

theorem inside_amounts {outer : String} {o : ℚ} (houter : Amounts letters .sum outer o)
    (hbox : Amounts letters .factor box B) (hextent : Amounts letters .factor extent E) :
    Amounts letters .sum (a.inside outer box extent) (o + a.share * (B - E)) := by
  have hroom : Amounts letters .factor ("(" ++ (box ++ "-" ++ extent) ++ ")") (B - E) :=
    (hbox.product.sum.sub hextent.product).group
  have hgroup : Amounts letters .sum ("(" ++ outer ++ ")") o := houter.group.product.sum
  cases a with
  | near =>
    rw [share, zero_mul, add_zero]
    exact houter
  | middle =>
    have hsum := hgroup.add hroom.product.half
    rw [share, one_div_mul_eq_div]
    simpa only [inside, closing_half, closing_opening, String.append_assoc] using hsum
  | far =>
    have hsum := hgroup.add hroom.product
    rw [share, one_mul]
    simpa only [inside, closing_opening, String.append_assoc] using hsum

/-- With or without a box, an expression amounts to the share of the room and the offset. -/
theorem position_amounts {offset : Json} {x : ℚ} (hoffset : offset.printed? = some x)
    (hside : Amounts letters .factor side S) (hextent : Amounts letters .factor extent E)
    (b : Option ℕ) : ∃ text, a.position side extent offset (b.map toString) = .ok text ∧
      Amounts letters .sum text (a.share * (S - E) + x) := by
  cases b with
  | none => exact withOffset_amounts hoffset (a.base_amounts hside hextent)
  | some n =>
    have hbox : Amounts letters .factor (toString n) n := .number (isLiteral_nat n)
    obtain ⟨outer, houter, hamounts⟩ := withOffset_amounts hoffset (a.base_amounts hside hbox)
    have hinside := a.inside_amounts hamounts hbox hextent
    have hvalue : a.share * (S - n) + x + a.share * (n - E) = a.share * (S - E) + x := by ring
    rw [hvalue] at hinside
    refine ⟨_, ?_, hinside⟩
    rw [Option.map_some, position, houter]
    rfl

end Align

/-! ## Both axes -/

/-- The sides of the canvas, and those of the layer that is drawn on it. -/
structure Scene where
  canvasWidth : ℚ
  canvasHeight : ℚ
  width : ℚ
  height : ℚ

namespace Scene

/-- What the letters of a position stand for. -/
def letters (s : Scene) : Char → Option ℚ
  | 'W' => some s.canvasWidth
  | 'H' => some s.canvasHeight
  | 'w' => some s.width
  | 'h' => some s.height
  | _ => none

/-- The place that two expressions denote. -/
def read? (s : Scene) (texts : String × String) : Option (ℚ × ℚ) := do
  return (← Formula.value? s.letters texts.1, ← Formula.value? s.letters texts.2)

/-- The place of a layer that has its share of the room before it, and is moved. -/
def place (s : Scene) (a : Anchor) (x y : ℚ) : ℚ × ℚ :=
  (a.horizontal.share * (s.canvasWidth - s.width) + x,
    a.vertical.share * (s.canvasHeight - s.height) + y)

/-- A layer that is not larger than the canvas keeps inside when it is not moved. -/
theorem share_inside (a : Align) {S E : ℚ} (h : E ≤ S) :
    0 ≤ a.share * (S - E) ∧ a.share * (S - E) + E ≤ S := by
  cases a with
  | near => simpa [Align.share] using h
  | middle =>
    rw [Align.share]
    constructor
    · linarith
    · linarith
  | far =>
    rw [Align.share]
    constructor
    · linarith
    · linarith

end Scene

namespace Json

/-- A number that is not infinite. -/
def IsFinite (v : Json) : Prop := ∃ p : ℚ, v.value? = some ((p : ℝ) : EReal)

/-- What a number is as it is written with its sign. -/
def Prints (v : Json) (x : ℚ) : Prop :=
  ∃ text, v.signedText = .ok text ∧ Formula.value? (fun _ => none) text = some x

theorem IsFinite.printed? {v : Json} (h : v.IsFinite) : ∃ x, v.printed? = some x := by
  obtain ⟨p, hp⟩ := h
  cases v with
  | bool b => exact ⟨_, rfl⟩
  | int n => exact ⟨_, rfl⟩
  | real y =>
    obtain ⟨d, hd, -⟩ := Decimal.exists_dyadic hp
    exact ⟨_, congrArg (Option.map _) hd⟩
  | _ => cases hp

theorem prints_of_printed? {v : Json} {x : ℚ} (h : v.printed? = some x) : v.Prints x := by
  obtain ⟨text, htext, hsigned⟩ := isSigned_signedText h
  exact ⟨text, htext, Formula.value?_signed hsigned⟩

end Json

namespace Anchor

/-- Where a layer is drawn whose box has sides in whole pixels, if it has one. -/
def drawnAt (a : Anchor) (dx dy : Json) (box : Option (ℕ × ℕ)) (s : Scene) :
    Except Fault (Option (ℚ × ℚ)) :=
  (a.position dx dy (box.map fun b => (toString b.1, toString b.2))).map s.read?

theorem drawnAt_eq (a : Anchor) {dx dy : Json} {x y : ℚ} (hx : dx.printed? = some x)
    (hy : dy.printed? = some y) (box : Option (ℕ × ℕ)) (s : Scene) :
    a.drawnAt dx dy box s = .ok (some (s.place a x y)) := by
  have hW : Amounts s.letters .factor "W" s.canvasWidth := .letter rfl rfl rfl rfl
  have hw : Amounts s.letters .factor "w" s.width := .letter rfl rfl rfl rfl
  have hH : Amounts s.letters .factor "H" s.canvasHeight := .letter rfl rfl rfl rfl
  have hh : Amounts s.letters .factor "h" s.height := .letter rfl rfl rfl rfl
  obtain ⟨left, hleft, hleft'⟩ := a.horizontal.position_amounts hx hW hw (box.map Prod.fst)
  obtain ⟨top, htop, htop'⟩ := a.vertical.position_amounts hy hH hh (box.map Prod.snd)
  have hposition : a.position dx dy (box.map fun b => (toString b.1, toString b.2)) =
      .ok (left, top) := by
    rw [Option.map_map] at hleft htop
    rw [position, Option.map_map, Option.map_map]
    change (a.horizontal.position "W" "w" dx (box.map (toString ∘ Prod.fst)) >>= _) = _
    rw [hleft]
    change (a.vertical.position "H" "h" dy (box.map (toString ∘ Prod.snd)) >>= _) = _
    rw [htop]
    rfl
  rw [drawnAt, hposition]
  change Except.ok (s.read? (left, top)) = _
  rw [Scene.read?, hleft'.value?_eq, htop'.value?_eq]
  rfl

/-- A position means what its anchor says: each axis has its share of the room in front of the
layer, plus the offset as it is written. A box changes nothing, and a layer that is not moved
along an axis lies inside the canvas there if it fits. -/
theorem position_meaning (a : Anchor) {dx dy : Json} (hdx : dx.IsFinite) (hdy : dy.IsFinite) :
    ∃ x y, dx.Prints x ∧ dy.Prints y ∧
      (∀ box s, a.drawnAt dx dy box s = .ok (some (s.place a x y))) ∧
      (∀ box s, a.drawnAt dx dy (some box) s = a.drawnAt dx dy none s) ∧
      ∀ box s, ∃ left top, a.drawnAt dx dy box s = .ok (some (left, top)) ∧
        (x = 0 → s.width ≤ s.canvasWidth → 0 ≤ left ∧ left + s.width ≤ s.canvasWidth) ∧
        (y = 0 → s.height ≤ s.canvasHeight → 0 ≤ top ∧ top + s.height ≤ s.canvasHeight) := by
  obtain ⟨x, hx⟩ := hdx.printed?
  obtain ⟨y, hy⟩ := hdy.printed?
  refine ⟨x, y, Json.prints_of_printed? hx, Json.prints_of_printed? hy, ?_, ?_, ?_⟩
  · exact a.drawnAt_eq hx hy
  · intro box s
    rw [a.drawnAt_eq hx hy, a.drawnAt_eq hx hy]
  · intro box s
    refine ⟨_, _, a.drawnAt_eq hx hy box s, ?_, ?_⟩
    · rintro rfl hfits
      rw [add_zero]
      exact Scene.share_inside a.horizontal hfits
    · rintro rfl hfits
      rw [add_zero]
      exact Scene.share_inside a.vertical hfits

/-- Of the room of 960 by 540 that a layer leaves, all and half are in front of it. -/
theorem placed_at_center_right : (Json.int (-20)).IsFinite ∧ (Json.real 2.5).IsFinite ∧
    (⟨.far, .middle⟩ : Anchor).drawnAt (.int (-20)) (.real 2.5) (some (640, 360))
      ⟨1280, 720, 320, 180⟩ = .ok (some (940, 545 / 2)) := by
  have hint : (Json.int (-20)).IsFinite := ⟨(-20 : ℤ), by simp [Json.value?_int]⟩
  have hd : Decimal.Dyadic.ofFloat? 2.5 = some ⟨false, 5 * 2 ^ 50, -51⟩ := by decide +kernel
  have hreal : (Json.real 2.5).IsFinite := ⟨_, Json.value?_real hd⟩
  obtain ⟨x, y, ⟨left, hleft, hx⟩, ⟨top, htop, hy⟩, hplace, -⟩ :=
    position_meaning ⟨.far, .middle⟩ hint hreal
  obtain rfl : "-20" = left := Except.ok.inj hleft
  have htext : (Json.real 2.5).signedText = .ok "+2.5" := ok_of_toOption (by decide +kernel)
  obtain rfl : "+2.5" = top := Except.ok.inj (htext.symm.trans htop)
  have hminus : Formula.value? (fun _ => none) "-20" = some (-20) := by decide +kernel
  have hplus : Formula.value? (fun _ => none) "+2.5" = some (5 / 2) := by decide +kernel
  obtain rfl : -20 = x := Option.some.inj (hminus.symm.trans hx)
  obtain rfl : 5 / 2 = y := Option.some.inj (hplus.symm.trans hy)
  refine ⟨hint, hreal, (hplace _ _).trans ?_⟩
  norm_num [Scene.place, Align.share]

end Anchor

end Compositor
