import Compositor.Composition.Picture
import Compositor.Proofs.Fault.Wiring
import Compositor.Proofs.Json.Value

/-!
# The box of a size in percent

Each side of the box is a percentage of a side of the canvas, rounded down: its own percentage,
else the one for both sides, else all of it. A percentage for both sides that is zero counts as
one that is missing. Apart from that the box grows with the percentages, and it stays inside the
canvas while none of them is above one hundred.

The rule is stated for exact numbers. Computed with doubles, the box is the same as long as no
share is rounded across a whole number.
-/
namespace Compositor

namespace Decimal

/-- The floor of a double is the floor of its value. -/
theorem Dyadic.floor_eq (d : Dyadic) : d.floor = ⌊d.value⌋ := by
  rw [floor, value, Int.fdiv_eq_ediv_of_nonneg _ (Int.natCast_nonneg _)]
  exact (Rat.floor_intCast_div_natCast d.numerator d.fraction.2).symm

theorem floor_of_value {x : Float} {p : ℚ} (h : value? x = some ((p : ℝ) : EReal)) :
    Number.floor x = .ok ⌊p⌋ := by
  obtain ⟨d, hd, rfl⟩ := exists_dyadic h
  rw [Number.floor, hd, ← d.floor_eq]

end Decimal

namespace Percentage

/-- Percentages of a side in exact numbers. -/
instance exact : Percentage ℚ ℚ where
  share side p := .ok ⌊side * p / 100⌋
  whole side := .ok ⌊side⌋
  isZero p := p == 0

/-- The percentage that a side of the box has. -/
def rate (own common : Option ℚ) : ℚ :=
  own.getD (match common with
    | some p => if p = 0 then 100 else p
    | none => 100)

variable {own own' common common' : Option ℚ} {side : ℚ}

theorem side_eq (side : ℚ) (own common : Option ℚ) :
    Percentage.side side own common = .ok ⌊side * rate own common / 100⌋ := by
  have hwhole : ⌊side * 100 / 100⌋ = ⌊side⌋ := by rw [mul_div_cancel_right₀ side (by norm_num)]
  cases own with
  | some p => rfl
  | none =>
    cases common with
    | none =>
      change Except.ok ⌊side⌋ = Except.ok ⌊side * 100 / 100⌋
      rw [hwhole]
    | some p =>
      by_cases hp : p = 0
      · subst hp
        change Except.ok ⌊side⌋ = Except.ok ⌊side * 100 / 100⌋
        rw [hwhole]
      · have hzero : isZero ℚ p = false := beq_eq_false_iff_ne.mpr hp
        simp [Percentage.side, rate, hzero, hp, share]

/-- A percentage for both sides is used as given unless it is zero. -/
theorem rate_of_settled (h : common = some 0 → own.isSome) :
    rate own common = own.getD (common.getD 100) := by
  cases own with
  | some p => rfl
  | none =>
    cases common with
    | none => rfl
    | some p =>
      have hp : p ≠ 0 := by
        rintro rfl
        exact absurd (h rfl) (by decide)
      exact if_neg hp

theorem rate_of_unsettled : rate none (some 0) = 100 := by norm_num [rate]

theorem rate_mono (hown : Option.Rel (· ≤ ·) own own')
    (hcommon : Option.Rel (· ≤ ·) common common') (hnonneg : ∀ p ∈ common, 0 ≤ p)
    (h : common = some 0 → own.isSome) : rate own common ≤ rate own' common' := by
  cases hown with
  | some hle => exact hle
  | none =>
    cases hcommon with
    | none => exact le_rfl
    | @some p q hle =>
      have hp : 0 < p := by
        refine (hnonneg p rfl).lt_of_ne ?_
        rintro rfl
        exact absurd (h rfl) (by decide)
      have hq : 0 < q := hp.trans_le hle
      have hp' : rate none (some p) = p := if_neg hp.ne'
      have hq' : rate none (some q) = q := if_neg hq.ne'
      rw [hp', hq']
      exact hle

/-- The percentage is one of those given, or one hundred. -/
theorem rate_cases (own common : Option ℚ) :
    rate own common ∈ own ∨ rate own common ∈ common ∨ rate own common = 100 := by
  cases own with
  | some p => exact .inl rfl
  | none =>
    cases common with
    | none => exact .inr (.inr rfl)
    | some p =>
      by_cases hp : p = 0
      · exact .inr (.inr (if_pos hp))
      · have hrate : rate none (some p) = p := if_neg hp
        rw [hrate]
        exact .inr (.inl rfl)

theorem share_mono (hside : 0 ≤ side) {p q : ℚ} (h : p ≤ q) :
    ⌊side * p / 100⌋ ≤ ⌊side * q / 100⌋ := by
  apply Int.floor_mono
  gcongr

/-- A share of at most one hundred percent lies inside the side. -/
theorem share_bounds (hside : 0 ≤ side) {p : ℚ} (hp : 0 ≤ p) (h : p ≤ 100) :
    0 ≤ ⌊side * p / 100⌋ ∧ (⌊side * p / 100⌋ : ℚ) ≤ side := by
  constructor
  · apply Int.floor_nonneg.mpr
    positivity
  · calc (⌊side * p / 100⌋ : ℚ) ≤ side * p / 100 := Int.floor_le _
      _ ≤ side * 100 / 100 := by gcongr
      _ = side := mul_div_cancel_right₀ side (by norm_num)

/-! ## Doubles -/

/-- A percentage in doubles whose share is not rounded across a whole number. -/
structure Faithful (side : ℕ) (x : Float) (p : ℚ) : Prop where
  value : Decimal.value? x = some ((p : ℝ) : EReal)
  share : ∃ q : ℚ, Decimal.value? (Float.ofInt side * x / 100) = some ((q : ℝ) : EReal) ∧
    ⌊q⌋ = ⌊side * p / 100⌋

section

variable {n : ℕ} (hn : n < 2 ^ 53)
include hn

theorem toFloat_natCast : Number.toFloat (.int n) = .ok (Float.ofInt n) := by
  simp only [Number.toFloat, Decimal.ofInt?_eq hn]

theorem share_double {x : Float} {p : ℚ} (h : Faithful n x p) :
    share (Json.int n) x = .ok ⌊n * p / 100⌋ := by
  obtain ⟨q, hq, hfloor⟩ := h.share
  change (Number.toFloat (.int n) >>= fun y => Number.floor (y * x / 100)) = _
  rw [toFloat_natCast hn, ← hfloor]
  exact Decimal.floor_of_value hq

theorem whole_double : whole Float (Json.int n) = .ok ⌊(n : ℚ)⌋ := by
  change (Number.toFloat (.int n) >>= fun y => Number.floor y) = _
  rw [toFloat_natCast hn]
  exact Decimal.floor_of_value (Decimal.value?_ofNat hn)

theorem side_double {own common : Option Float} {own' common' : Option ℚ}
    (hown : Option.Rel (Faithful n) own own') (hcommon : Option.Rel (Faithful n) common common') :
    Percentage.side (Json.int n) own common = Percentage.side (n : ℚ) own' common' := by
  cases hown with
  | some h => exact share_double hn h
  | none =>
    cases hcommon with
    | none => exact whole_double hn
    | @some x p h =>
      have hzero : isZero Json x = isZero ℚ p := by
        have hiff : (x == 0) = true ↔ (p == 0) = true := by
          rw [Decimal.beq_zero_iff, h.value, beq_iff_eq]
          norm_num
        exact Bool.eq_iff_iff.mpr hiff
      simp only [Percentage.side, hzero, share_double hn h, whole_double hn]
      rfl

end

end Percentage

open Percentage (Faithful rate)

namespace Size

/-- The sides of the canvas by the percentages of a size. -/
def fractions (s : Size ℚ) (W H : ℚ) : ℤ × ℤ :=
  (⌊W * s.width.getD (s.percent.getD 100) / 100⌋, ⌊H * s.height.getD (s.percent.getD 100) / 100⌋)

/-- A percentage that a size gives. -/
def Gives (s : Size ℚ) (p : ℚ) : Prop := p ∈ s.width ∨ p ∈ s.height ∨ p ∈ s.percent

/-- Nothing depends on a percentage for both sides that is zero. -/
def Settled (s : Size ℚ) : Prop := s.percent = some 0 → s.width.isSome ∧ s.height.isSome

/-- Another size with the same percentages or larger ones. -/
structure AtMost (s t : Size ℚ) : Prop where
  width : Option.Rel (· ≤ ·) s.width t.width
  height : Option.Rel (· ≤ ·) s.height t.height
  percent : Option.Rel (· ≤ ·) s.percent t.percent

/-- A size in doubles that stands for an exact one on a canvas. -/
structure StandsFor (size : Size Float) (s : Size ℚ) (W H : ℕ) : Prop where
  width : Option.Rel (Faithful W) size.width s.width
  height : Option.Rel (Faithful H) size.height s.height
  horizontal : Option.Rel (Faithful W) size.percent s.percent
  vertical : Option.Rel (Faithful H) size.percent s.percent

variable {s t : Size ℚ} {W H : ℚ}

theorem box_eq (s : Size ℚ) (W H : ℚ) : Percentage.box W H s =
    .ok (⌊W * rate s.width s.percent / 100⌋, ⌊H * rate s.height s.percent / 100⌋) := by
  rw [Percentage.box, Percentage.side_eq, Percentage.side_eq]
  rfl

theorem box_of_settled (h : s.Settled) (W H : ℚ) :
    Percentage.box W H s = .ok (s.fractions W H) := by
  rw [box_eq, fractions, Percentage.rate_of_settled fun hzero => (h hzero).1,
    Percentage.rate_of_settled fun hzero => (h hzero).2]

/-- Where a percentage of zero was to be taken for a side, all of that side is taken. -/
theorem box_of_unsettled (h : ¬ s.Settled) (hW : 1 ≤ W) (hH : 1 ≤ H) :
    Percentage.box W H s ≠ .ok (s.fractions W H) := by
  obtain ⟨hzero, hown⟩ := Classical.not_imp.mp h
  have hwhole {side : ℚ} (hside : 1 ≤ side) :
      ⌊side * rate none (some 0) / 100⌋ ≠ ⌊side * 0 / 100⌋ := by
    rw [Percentage.rate_of_unsettled, mul_div_cancel_right₀ side (by norm_num), mul_zero, zero_div,
      Int.floor_zero]
    have hpos : 1 ≤ ⌊side⌋ := Int.le_floor.mpr (by exact_mod_cast hside)
    omega
  rw [box_eq]
  intro hbox
  obtain ⟨hwidth, hheight⟩ := Prod.mk.inj (Except.ok.inj hbox)
  rw [hzero] at hwidth hheight
  cases hw : s.width with
  | none =>
    rw [hw] at hwidth
    exact hwhole hW hwidth
  | some p =>
    cases hh : s.height with
    | none =>
      rw [hh] at hheight
      exact hwhole hH hheight
    | some q => exact hown ⟨by rw [hw]; rfl, by rw [hh]; rfl⟩

theorem box_mono (hs : ∀ p, s.Gives p → 0 ≤ p) (h : s.Settled) (hle : s.AtMost t) (hW : 0 ≤ W)
    (hH : 0 ≤ H) : ∃ b c, Percentage.box W H s = .ok b ∧ Percentage.box W H t = .ok c ∧
      b.1 ≤ c.1 ∧ b.2 ≤ c.2 := by
  have hcommon : ∀ p ∈ s.percent, 0 ≤ p := fun p hp => hs p (.inr (.inr hp))
  have hwidth := Percentage.rate_mono hle.width hle.percent hcommon fun hzero => (h hzero).1
  have hheight := Percentage.rate_mono hle.height hle.percent hcommon fun hzero => (h hzero).2
  exact ⟨_, _, s.box_eq W H, t.box_eq W H, Percentage.share_mono hW hwidth,
    Percentage.share_mono hH hheight⟩

theorem box_inside (hs : ∀ p, s.Gives p → 0 ≤ p ∧ p ≤ 100) (hW : 0 ≤ W) (hH : 0 ≤ H) :
    ∃ b, Percentage.box W H s = .ok b ∧ (0 ≤ b.1 ∧ (b.1 : ℚ) ≤ W) ∧ 0 ≤ b.2 ∧ (b.2 : ℚ) ≤ H := by
  have hrate {own : Option ℚ} (hown : ∀ p ∈ own, s.Gives p) :
      0 ≤ rate own s.percent ∧ rate own s.percent ≤ 100 := by
    rcases Percentage.rate_cases own s.percent with h | h | h
    · exact hs _ (hown _ h)
    · exact hs _ (.inr (.inr h))
    · rw [h]
      norm_num
  obtain ⟨hwidth, hwidth'⟩ := hrate fun p hp => .inl hp
  obtain ⟨hheight, hheight'⟩ := hrate fun p hp => .inr (.inl hp)
  exact ⟨_, s.box_eq W H, Percentage.share_bounds hW hwidth hwidth',
    Percentage.share_bounds hH hheight hheight'⟩

theorem StandsFor.box_eq {size : Size Float} {W H : ℕ} (h : size.StandsFor s W H)
    (hW : W < 2 ^ 53) (hH : H < 2 ^ 53) :
    size.box ⟨.int W, .int H⟩ = Percentage.box (W : ℚ) (H : ℚ) s := by
  rw [box, Percentage.box, Percentage.box, Percentage.side_double hW h.width h.horizontal,
    Percentage.side_double hH h.height h.vertical]

end Size

/-! ## Layers -/

namespace Layer

variable {l : Layer} {canvas : Canvas} {w h : ℤ}

theorem scaleExpr_of_box (hmode : l.size.mode = .percent) (hbox : l.size.box canvas = .ok (w, h)) :
    l.scaleExpr canvas = .ok (some ("scale=" ++
      (toString w ++ ":" ++ toString h ++ ":force_original_aspect_ratio=decrease"))) := by
  have htarget : l.size.target? canvas = .ok (some (toString w, toString h)) := by
    rw [Size.target?, hmode]
    change (l.size.box canvas >>= _) = _
    rw [hbox]
    rfl
  have hparams : l.size.scaleParams canvas =
      .ok (some (toString w ++ ":" ++ toString h ++ ":force_original_aspect_ratio=decrease")) := by
    rw [Size.scaleParams, htarget, hmode]
    rfl
  rw [scaleExpr, hparams]
  rfl

theorem position_of_box (hmode : l.size.mode = .percent) (hbox : l.size.box canvas = .ok (w, h))
    (hplain : (l.xExpr.isTruthy && l.yExpr.isTruthy) = false) : l.position canvas =
      (do (← l.properAnchor).position l.dx l.dy (some (toString w, toString h))) := by
  have hpercent : (l.size.mode == .percent) = true := beq_iff_eq.mpr hmode
  rw [position, hplain, hpercent, hbox]
  rfl

end Layer

/-- Each side of the box is a percentage of a side of the canvas, rounded down: its own one if it
is given, else the common one if it is given, else one hundred. The one exception is a common
percentage of zero that a side would need, for which all of the side is taken. Otherwise the box
grows with every percentage. It is never larger than the canvas while the percentages are at most
one hundred. Doubles give the same box if they do not round a share across a whole number, and it
is this box into which a layer is scaled and at which it is placed. -/
theorem Size.box_by_percentages (s : Size ℚ) (hs : ∀ p, s.Gives p → 0 ≤ p) {W H : ℚ} (hW : 0 ≤ W)
    (hH : 0 ≤ H) :
    Percentage.box W H s =
      .ok (⌊W * rate s.width s.percent / 100⌋, ⌊H * rate s.height s.percent / 100⌋) ∧
    (s.Settled → Percentage.box W H s = .ok (s.fractions W H) ∧
      ∀ t, s.AtMost t → ∃ b c, Percentage.box W H s = .ok b ∧ Percentage.box W H t = .ok c ∧
        b.1 ≤ c.1 ∧ b.2 ≤ c.2) ∧
    (¬ s.Settled → 1 ≤ W → 1 ≤ H → Percentage.box W H s ≠ .ok (s.fractions W H)) ∧
    ((∀ p, s.Gives p → p ≤ 100) → ∃ b, Percentage.box W H s = .ok b ∧
      (0 ≤ b.1 ∧ (b.1 : ℚ) ≤ W) ∧ 0 ≤ b.2 ∧ (b.2 : ℚ) ≤ H) ∧
    (∀ (size : Size Float) (m n : ℕ), size.StandsFor s m n → m < 2 ^ 53 → n < 2 ^ 53 →
      size.box ⟨.int m, .int n⟩ = Percentage.box (m : ℚ) (n : ℚ) s) ∧
    ∀ (l : Layer) (canvas : Canvas) (w h : ℤ), l.size.mode = .percent →
      l.size.box canvas = .ok (w, h) →
      l.scaleExpr canvas = .ok (some ("scale=" ++
        (toString w ++ ":" ++ toString h ++ ":force_original_aspect_ratio=decrease"))) ∧
      ((l.xExpr.isTruthy && l.yExpr.isTruthy) = false → l.position canvas =
        (do (← l.properAnchor).position l.dx l.dy (some (toString w, toString h)))) := by
  refine ⟨s.box_eq W H, fun hsettled => ⟨box_of_settled hsettled W H, ?_⟩, box_of_unsettled, ?_,
    fun size m n hfor hm hn => hfor.box_eq hm hn, ?_⟩
  · exact fun t hle => box_mono hs hsettled hle hW hH
  · exact fun hle => box_inside (fun p hp => ⟨hs p hp, hle p hp⟩) hW hH
  · exact fun l canvas w h hmode hbox =>
      ⟨l.scaleExpr_of_box hmode hbox, l.position_of_box hmode hbox⟩

namespace Size

/-- A quarter of the width and half of the height, in doubles and in exact numbers. -/
def quarter : Size Float := ⟨.percent, some 25, none, some 50, none⟩

def exactQuarter : Size ℚ := ⟨.percent, some 25, none, some 50, none⟩

/-- A layer of that size. -/
def quarteredLayer : Layer :=
  { Layer.ofClip "clip" ⟨.webm, "a.webm", none, none, none, false, none⟩ 0 with size := quarter }

theorem quarter_standsFor : quarter.StandsFor exactQuarter 1920 1080 := by
  have hquarter : Decimal.Dyadic.ofFloat? 25 = some ⟨false, 25 * 2 ^ 48, -48⟩ := by decide +kernel
  have hhalf : Decimal.Dyadic.ofFloat? 50 = some ⟨false, 25 * 2 ^ 48, -47⟩ := by decide +kernel
  have hwidth : Decimal.Dyadic.ofFloat? (Float.ofInt (1920 : ℕ) * 25 / 100) =
      some ⟨false, 15 * 2 ^ 49, -44⟩ := by decide +kernel
  have hwide : Decimal.Dyadic.ofFloat? (Float.ofInt (1920 : ℕ) * 50 / 100) =
      some ⟨false, 15 * 2 ^ 49, -43⟩ := by decide +kernel
  have hheight : Decimal.Dyadic.ofFloat? (Float.ofInt (1080 : ℕ) * 50 / 100) =
      some ⟨false, 135 * 2 ^ 45, -43⟩ := by decide +kernel
  have hfaithful {side : ℕ} {x : Float} {p : ℚ} {d e : Decimal.Dyadic}
      (hx : Decimal.Dyadic.ofFloat? x = some d)
      (hshare : Decimal.Dyadic.ofFloat? (Float.ofInt side * x / 100) = some e)
      (hp : d.value = p) (hfloor : e.value = side * p / 100) : Faithful side x p :=
    ⟨hp ▸ Decimal.value?_of_dyadic hx, _, Decimal.value?_of_dyadic hshare, by rw [hfloor]⟩
  constructor
  · refine .some (hfaithful hquarter hwidth ?_ ?_) <;>
      norm_num [Decimal.Dyadic.value_eq, Decimal.Dyadic.magnitude]
  · exact .none
  · refine .some (hfaithful hhalf hwide ?_ ?_) <;>
      norm_num [Decimal.Dyadic.value_eq, Decimal.Dyadic.magnitude]
  · refine .some (hfaithful hhalf hheight ?_ ?_) <;>
      norm_num [Decimal.Dyadic.value_eq, Decimal.Dyadic.magnitude]

/-- On a canvas of 1920 by 1080. -/
theorem box_by_percentages_quarter :
    (∀ p, exactQuarter.Gives p → 0 ≤ p) ∧ exactQuarter.Settled ∧
    quarter.box ⟨.int (1920 : ℕ), .int (1080 : ℕ)⟩ = .ok (480, 540) ∧
    quarteredLayer.scaleExpr ⟨.int (1920 : ℕ), .int (1080 : ℕ)⟩ =
      .ok (some "scale=480:540:force_original_aspect_ratio=decrease") := by
  have hs : ∀ p, exactQuarter.Gives p → 0 ≤ p := by
    rintro p (h | h | h)
    · obtain rfl := Option.some.inj h
      norm_num
    · cases h
    · obtain rfl := Option.some.inj h
      norm_num
  have hsettled : exactQuarter.Settled := by
    intro hzero
    norm_num [exactQuarter] at hzero
  obtain ⟨-, hbox, -, -, hdouble, hlayer⟩ :=
    box_by_percentages exactQuarter hs (Nat.cast_nonneg 1920) (Nat.cast_nonneg 1080)
  have hsides : quarter.box ⟨.int (1920 : ℕ), .int (1080 : ℕ)⟩ = .ok (480, 540) := by
    rw [hdouble _ _ _ quarter_standsFor (by norm_num) (by norm_num), (hbox hsettled).1]
    norm_num [fractions, exactQuarter]
  have htext : "scale=" ++ (toString (480 : ℤ) ++ ":" ++ toString (540 : ℤ) ++
      ":force_original_aspect_ratio=decrease") =
      "scale=480:540:force_original_aspect_ratio=decrease" := by decide +kernel
  obtain ⟨hscale, -⟩ := hlayer quarteredLayer _ 480 540 rfl hsides
  rw [htext] at hscale
  exact ⟨hs, hsettled, hsides, hscale⟩

/-- No percent of a canvas of 100 by 100 are all of it, and more than half of it. -/
theorem zero_percent_is_all :
    (¬ ∀ (s : Size ℚ) (W H : ℚ), (∀ p, s.Gives p → 0 ≤ p) → 0 ≤ W → 0 ≤ H →
      Percentage.box W H s = .ok (s.fractions W H)) ∧
    (¬ ∀ (s t : Size ℚ) (W H : ℚ), (∀ p, s.Gives p → 0 ≤ p) → 0 ≤ W → 0 ≤ H → s.AtMost t →
      ∃ b c, Percentage.box W H s = .ok b ∧ Percentage.box W H t = .ok c ∧ b.1 ≤ c.1) ∧
    (Size.box ⟨.percent, none, none, some 0, none⟩ ⟨.int 100, .int 100⟩).toOption =
      some (100, 100) := by
  have hs : ∀ p, (⟨.percent, none, none, some 0, none⟩ : Size ℚ).Gives p → 0 ≤ p := by
    rintro p (h | h | h)
    · cases h
    · cases h
    · exact (Option.some.inj h).le
  refine ⟨fun hall => ?_, fun hall => ?_, by decide +kernel⟩
  · refine box_of_unsettled ?_ ?_ ?_ (hall _ 100 100 hs (by norm_num) (by norm_num))
    · intro hsettled
      exact absurd (hsettled rfl).1 (by decide)
    · norm_num
    · norm_num
  · obtain ⟨b, c, hb, hc, hle⟩ := hall ⟨.percent, none, none, some 0, none⟩
      ⟨.percent, none, none, some 50, none⟩ 100 100 hs (by norm_num) (by norm_num)
      ⟨.none, .none, .some (by norm_num)⟩
    rw [box_eq] at hb hc
    obtain rfl := Except.ok.inj hb
    obtain rfl := Except.ok.inj hc
    norm_num [rate] at hle

end Size

end Compositor
