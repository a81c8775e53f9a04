import Compositor.Proofs.Command.Limit
import Compositor.Proofs.Command.Outputs
import Compositor.Proofs.Timing.Counting

/-!
# The extent of what a trim leaves

A trim is a window onto the time of a source. The length of a trimmed source is the extent of the
part of that window in front of the end of the source. What lies in front of its beginning counts
too, so that a clip may last longer than its source if its trim starts below zero, and only then.
-/
namespace Compositor

/-- The distance from the least to the greatest point of an interval. -/
noncomputable def extent (s : Set EReal) : EReal := sSup s - sInf s

/-- What a closed interval leaves of one that is open at its end. -/
theorem extent_inter {a b c d : EReal} (h : max a c < min b d) :
    extent (Set.Ico a b ∩ Set.Icc c d) = min b d - max a c := by
  have hmem {x : EReal} : x ∈ Set.Ico a b ∩ Set.Icc c d ↔ max a c ≤ x ∧ x < b ∧ x ≤ d := by
    simp only [Set.mem_inter_iff, Set.mem_Ico, Set.mem_Icc, max_le_iff]
    tauto
  have hleast : IsLeast (Set.Ico a b ∩ Set.Icc c d) (max a c) :=
    ⟨hmem.mpr ⟨le_rfl, h.trans_le (min_le_left b d), h.le.trans (min_le_right b d)⟩,
      fun x hx => (hmem.mp hx).1⟩
  have hlub : IsLUB (Set.Ico a b ∩ Set.Icc c d) (min b d) := by
    refine ⟨fun x hx => le_min (hmem.mp hx).2.1.le (hmem.mp hx).2.2, fun u hu => ?_⟩
    by_contra hlt
    have hgap : max (max a c) u < min b d := max_lt h (not_le.mp hlt)
    obtain ⟨x, hlow, hhigh⟩ := exists_between hgap
    have hx : x ∈ Set.Ico a b ∩ Set.Icc c d :=
      hmem.mpr ⟨(le_max_left _ _).trans hlow.le, hhigh.trans_le (min_le_left b d),
        hhigh.le.trans (min_le_right b d)⟩
    exact absurd (hu hx) (not_le.mpr ((le_max_right _ _).trans_lt hlow))
  rw [extent, hlub.sSup_eq, hleast.isGLB.sInf_eq]

theorem extent_inter_nonpos {a b c d : EReal} (h : min b d ≤ max a c) :
    extent (Set.Ico a b ∩ Set.Icc c d) ≤ 0 := by
  refine EReal.sub_nonpos.mpr ?_
  calc sSup (Set.Ico a b ∩ Set.Icc c d) ≤ min b d :=
        sSup_le fun x hx => le_min hx.1.2.le hx.2.2
    _ ≤ max a c := h
    _ ≤ sInf (Set.Ico a b ∩ Set.Icc c d) := le_sInf fun x hx => max_le hx.1.1 hx.2.1

namespace Trim

/-- How long an amount lasts is all that matters about it, if it is more than nothing. -/
theorem Leaves.congr {x y : EReal} {v : Option Json} (h : Leaves (some x) v)
    (hpos : 0 < x → x = y) (hnonpos : x ≤ 0 → y ≤ 0) : Leaves (some y) v := by
  cases h with
  | seconds hx hd => exact .seconds (hpos hx ▸ hx) (hpos hx ▸ hd)
  | nothing hx =>
    refine .nothing fun z hz => ?_
    obtain rfl : y = z := Option.some.inj hz
    exact hnonpos (hx x rfl)

/-- The time that a trim selects; without an end of its own it ends with the source. -/
def window (total : Json) (t : Trim Json) : Set EReal :=
  {x | (∃ s ∈ t.start.value?, s ≤ x) ∧ ∃ e ∈ (t.stop.getD total).value?, x < e}

variable {total : Json} {t : Trim Json} {T s : EReal}

theorem window_eq {e : EReal} (hs : t.start.value? = some s)
    (he : (t.stop.getD total).value? = some e) : t.window total = Set.Ico s e := by
  ext x
  simp [window, hs, he]

theorem reach_eq {e : EReal} (hT : total.value? = some T)
    (he : (t.stop.getD total).value? = some e) : t.reach total = some (min e T) := by
  unfold reach
  cases hstop : t.stop with
  | none =>
    rw [hstop] at he
    obtain rfl : T = e := Option.some.inj (hT.symm.trans he)
    simp [hT]
  | some stop =>
    rw [hstop, Option.getD_some] at he
    simp [he, hT, boundedBy_some]

theorem exists_stop (hT : total.value? = some T) (hexact : t.Exact total) :
    ∃ e, (t.stop.getD total).value? = some e := by
  cases hstop : t.stop with
  | none => exact ⟨T, hT⟩
  | some stop =>
    obtain ⟨-, e, -, -, he, -⟩ := (hexact.span stop hstop).exact
    exact ⟨e, he⟩

theorem length_value (hT : total.value? = some T) (hexact : t.Exact total)
    (hs : t.start.value? = some s) {e : EReal} (he : (t.stop.getD total).value? = some e) :
    ∃ v, Trim.length total (some t) = .ok v ∧ Leaves (some (min e T - s)) v := by
  obtain ⟨v, hlength, hleaves⟩ := length_leaves (Json.isSome_number? hT) hexact hs
  rw [reach_eq hT he] at hleaves
  exact ⟨v, hlength, hleaves⟩

/-- The length of a trimmed source is the extent of the part of its window in some interval that
ends with the source, unless that interval begins inside the window. -/
theorem Leaves.extent {e low : EReal} {v : Option Json} (h : Leaves (some (min e T - s)) v)
    (hlow : low ≤ s ∨ v = none) :
    Leaves (some (extent (Set.Ico s e ∩ Set.Icc low T))) v := by
  refine h.congr (fun hpos => ?_) fun hnonpos => ?_
  · rcases hlow with hlow | rfl
    · have hlt : max s low < min e T := by
        rw [max_eq_left hlow]
        exact EReal.sub_pos.mp hpos
      rw [extent_inter hlt, max_eq_left hlow]
    · cases h with
      | nothing hx => exact absurd hpos (not_lt.mpr (hx _ rfl))
  · exact extent_inter_nonpos ((EReal.sub_nonpos.mp hnonpos).trans (le_max_left _ _))

/-- A trim that does not begin in front of the source. -/
def Nonneg (t : Trim Json) : Prop := ∀ s ∈ t.start.value?, 0 ≤ s

theorem nonneg_iff (hs : t.start.value? = some s) : t.Nonneg ↔ 0 ≤ s := by
  simp [Nonneg, hs]

/-- What lies in front of a source makes a difference. -/
theorem lt_sub_of_neg {r : EReal} (hr : 0 < r) (htop : r ≠ ⊤) (hs : s < 0) : r < r - s := by
  lift r to ℝ using ⟨htop, (bot_lt_iff_ne_bot.mp (EReal.bot_lt_zero.trans hr))⟩
  induction s with
  | bot => exact EReal.coe_lt_top r
  | top => exact absurd hs (not_lt.mpr le_top)
  | coe s =>
    norm_cast at hs ⊢
    linarith

/-- What a trim that begins in front of a source leaves is longer than what lies inside. -/
theorem Leaves.begins_inside {e : EReal} {v : Option Json} (h : Leaves (some (min e T - s)) v)
    (htop : T ≠ ⊤)
    (hinside : Leaves (some (Compositor.extent (Set.Ico s e ∩ Set.Icc 0 T))) v) :
    0 ≤ s ∨ v = none := by
  cases h with
  | nothing => exact .inr rfl
  | seconds hlong hlongd =>
    cases hinside with
    | seconds hshort hshortd =>
      refine .inl (not_lt.mp fun hneg => ?_)
      -- both amounts are the value of the length
      have hsame := Option.some.inj (hlongd.symm.trans hshortd)
      have hreach : max s 0 < min e T := by
        by_contra hnot
        exact absurd hshort (not_lt.mpr (extent_inter_nonpos (not_lt.mp hnot)))
      rw [extent_inter hreach, max_eq_right hneg.le, sub_zero] at hsame
      have hfinite : min e T ≠ ⊤ := ((min_le_right e T).trans_lt htop.lt_top).ne
      have hpos : 0 < min e T := (le_max_right s 0).trans_lt hreach
      exact absurd hsame (lt_sub_of_neg hpos hfinite hneg).ne'

/-- A trimmed source lasts no longer than it does without the trim. -/
theorem length_le (hT : total.value? = some T) {trim : Option (Trim Json)}
    (htrim : ∀ t ∈ trim, t.Exact total ∧ t.Nonneg) {v : Option Json}
    (h : Trim.length total trim = .ok v) :
    ∀ d ∈ v, ∃ x, d.value? = some x ∧ x ≤ T ∧ (0 < T → 0 < x) := by
  intro d hd
  cases trim with
  | none =>
    cases h
    obtain rfl : total = d := Option.some.inj hd
    exact ⟨T, hT, le_rfl, id⟩
  | some t =>
    obtain ⟨hexact, hnonneg⟩ := htrim t rfl
    obtain ⟨s, hs⟩ := Option.isSome_iff_exists.mp hexact.start
    obtain ⟨e, he⟩ := exists_stop hT hexact
    obtain ⟨v', hlength, hleaves⟩ := length_value hT hexact hs he
    obtain rfl : v = v' := Except.ok.inj (h.symm.trans hlength)
    cases hleaves with
    | nothing => cases hd
    | seconds hpos hvalue =>
      obtain rfl := Option.some.inj hd
      refine ⟨_, hvalue, ?_, fun _ => hpos⟩
      calc min e T - s ≤ T - 0 :=
            EReal.sub_le_sub (min_le_right e T) ((nonneg_iff hs).mp hnonneg)
        _ = T := sub_zero T

end Trim

/-! ## Lengths of parts and of a composition -/

/-- What has a length of its own: a clip, a video in the background, and a layer. -/
inductive Timed : Option StreamInfo → Option (Trim Json) → Except Fault (Option Json) → Prop
  | clip (f : Foreground) : Timed f.info f.trim f.duration
  | background (b : Background) (hkind : b.kind = .video) : Timed b.info b.trim b.duration
  | layer (l : Layer) : Timed l.clip.info l.effectiveTrim l.duration

theorem Timed.eq_clipLength {info : Option StreamInfo} {trim : Option (Trim Json)}
    {duration : Except Fault (Option Json)} (h : Timed info trim duration) :
    duration = Trim.clipLength (info.bind StreamInfo.length) trim := by
  cases h with
  | clip f => rfl
  | background b hkind => rw [Background.duration, hkind]; rfl
  | layer l => rfl

/-- A part whose length is known and not zero was probed. -/
theorem Timed.probed {info : Option StreamInfo} {trim : Option (Trim Json)}
    {duration : Except Fault (Option Json)} (h : Timed info trim duration) {d : Json}
    (hd : duration = .ok (some d)) : ∃ total, Probed info total := by
  rw [h.eq_clipLength] at hd
  cases hinfo : info.bind StreamInfo.length with
  | none =>
    rw [hinfo] at hd
    cases hd
  | some total =>
    refine ⟨total, hinfo, ?_⟩
    cases htruthy : total.isTruthy with
    | true => rfl
    | false =>
      have hzero : Quantity.isZero total = true := by
        change (!total.isTruthy) = true
        rw [htruthy]
        rfl
      rw [hinfo, Trim.clipLength, hzero] at hd
      cases hd

namespace Length

variable {α : Type} [Quantity α]

theorem positive?_some {known : Option α} {d : α} (h : positive? known = .ok (some d)) :
    known = some d ∧ Quantity.less Quantity.zero d = .ok true := by
  cases known with
  | none => cases h
  | some a =>
    dsimp only [positive?] at h
    split at h
    · cases h
    · obtain ⟨above, habove, h⟩ := bind_eq_ok.mp h
      cases above with
      | true =>
        cases h
        exact ⟨rfl, habove⟩
      | false => cases h

theorem longest?_mem {lengths : List (Option α)} {d : α} (h : longest? lengths = .ok (some d)) :
    some d ∈ lengths := by
  unfold longest? at h
  split at h
  · cases h
  · rename_i first rest hlengths
    obtain ⟨a, hgreatest, rfl⟩ : ∃ a, Quantity.greatest first rest = .ok a ∧ a = d := by
      cases hgreatest : Quantity.greatest first rest with
      | error e =>
        rw [hgreatest] at h
        cases h
      | ok a =>
        rw [hgreatest] at h
        cases h
        exact ⟨d, rfl, rfl⟩
    have hmem := greatest_mem hgreatest
    rw [← hlengths] at hmem
    obtain ⟨known, hknown, hid⟩ := List.mem_filterMap.mp (List.mem_filter.mp hmem).1
    exact hid ▸ hknown

/-- A length that is not explicit is above zero, and it is that of the background or of a
layer. -/
theorem resolve_cases {background : Except Fault (Option α)}
    {layers : Except Fault (List (Option α))} {d : α} {rule : LengthRule}
    (h : resolve none background layers = .ok (some d, rule)) :
    Quantity.less Quantity.zero d = .ok true ∧
      (background = .ok (some d) ∨ ∃ lengths, layers = .ok lengths ∧ some d ∈ lengths) := by
  obtain ⟨known, hknown, h⟩ := bind_eq_ok.mp h
  obtain ⟨fixed, hfixed, h⟩ := bind_eq_ok.mp h
  cases fixed with
  | some a =>
    cases h
    obtain ⟨rfl, hpos⟩ := positive?_some hfixed
    exact ⟨hpos, .inl hknown⟩
  | none =>
    obtain ⟨lengths, hlengths, h⟩ := bind_eq_ok.mp h
    obtain ⟨longest, hlongest, h⟩ := bind_eq_ok.mp h
    cases longest with
    | none => cases h
    | some a =>
      obtain ⟨above, habove, h⟩ := bind_eq_ok.mp h
      cases above with
      | true =>
        cases h
        exact ⟨habove, .inr ⟨lengths, hlengths, longest?_mem hlongest⟩⟩
      | false => cases h

end Length

namespace Composition

/-- The parts from which the length of a composition may come. -/
inductive Supplies (c : Composition) : Option StreamInfo → Option (Trim Json) →
    Except Fault (Option Json) → Prop
  | background {b : Background} (hb : c.background = some b) (hkind : b.kind = .video) :
    Supplies c b.info b.trim b.duration
  | layer {l : Layer} (hl : l ∈ c.layers) : Supplies c l.clip.info l.effectiveTrim l.duration

variable {c : Composition} {info : Option StreamInfo} {trim : Option (Trim Json)}
variable {duration : Except Fault (Option Json)}

theorem Supplies.timed (h : c.Supplies info trim duration) : Timed info trim duration := by
  cases h with
  | background hb hkind => exact .background _ hkind
  | layer hl => exact .layer _

theorem exists_supplies {d : Json} (hlength : c.length = none) (hd : c.duration = .ok (some d)) :
    Json.less (.int 0) d = .ok true ∧
      ∃ info trim duration, c.Supplies info trim duration ∧ duration = .ok (some d) := by
  unfold Composition.duration lengthRule at hd
  rw [hlength] at hd
  cases hrule : Length.resolve none c.backgroundLength (c.layers.mapM Layer.duration) with
  | error e =>
    rw [hrule] at hd
    cases hd
  | ok result =>
    obtain ⟨known, rule⟩ := result
    rw [hrule] at hd
    obtain rfl : known = some d := Except.ok.inj hd
    obtain ⟨hpos, hbackground | ⟨lengths, hlengths, hmem⟩⟩ := Length.resolve_cases hrule
    · refine ⟨hpos, ?_⟩
      unfold backgroundLength at hbackground
      cases hb : c.background with
      | none =>
        rw [hb] at hbackground
        cases hbackground
      | some b =>
        rw [hb] at hbackground
        dsimp only at hbackground
        split at hbackground
        · rename_i hvideo
          exact ⟨_, _, _, .background hb (eq_of_beq hvideo), hbackground⟩
        · cases hbackground
    · obtain ⟨l, hl, hduration⟩ := mem_of_mapM_ok hlengths _ hmem
      exact ⟨hpos, _, _, _, .layer hl, hduration⟩

/-- A length that is not explicit is at most that of a probed source. -/
theorem duration_le {d : Json} (hlength : c.length = none) (hd : c.duration = .ok (some d))
    (hparts : ∀ info trim duration total, c.Supplies info trim duration → Probed info total →
      total.value?.isSome ∧ ∀ t ∈ trim, t.Exact total ∧ t.Nonneg) :
    ∃ info trim duration total T x, c.Supplies info trim duration ∧ Probed info total ∧
      total.value? = some T ∧ d.value? = some x ∧ 0 < x ∧ x ≤ T := by
  obtain ⟨hless, info, trim, duration, hsupplies, hduration⟩ := exists_supplies hlength hd
  obtain ⟨total, hprobed⟩ := hsupplies.timed.probed hduration
  obtain ⟨hvalue, htrim⟩ := hparts _ _ _ _ hsupplies hprobed
  obtain ⟨T, hT⟩ := Option.isSome_iff_exists.mp hvalue
  rw [hsupplies.timed.eq_clipLength, hprobed.clipLength_eq] at hduration
  obtain ⟨x, hx, hle, -⟩ := Trim.length_le hT htrim hduration d rfl
  obtain ⟨below, hless', hbelow⟩ :=
    Json.less_of_numbers (a := .int 0) rfl (Json.isSome_number? hx)
  obtain rfl : true = below := Except.ok.inj (hless.symm.trans hless')
  obtain ⟨zero, hzero, y, hy, hlt⟩ := hbelow.mp rfl
  obtain rfl : x = y := Option.some.inj (hx.symm.trans hy)
  have hpos : 0 < x := by
    have hz : (Json.int 0).value? = some 0 := by simp [Json.value?_int]
    rwa [← Option.some.inj (hz.symm.trans hzero)] at hlt
  exact ⟨_, _, _, _, T, x, hsupplies, hprobed, hT, hx, hpos, hle⟩

end Composition

/-- The length of a trimmed source is the extent of the part of the window in front of the end of
the source. It is the extent of the part inside the source, or nothing if that is empty, unless
the window begins in front of the source. Where no window does, the lengths of clips, of videos
in the background and of layers are those of their sources at most, and so is the length of a
composition that is not explicit. -/
theorem Trim.lasts_within_source {total : Json} {T : EReal} (hT : total.value? = some T)
    (hpos : 0 < T) :
    (∀ t : Trim Json, t.Exact total → ∃ v, Trim.length total (some t) = .ok v ∧
      Leaves (some (extent (t.window total ∩ Set.Iic T))) v ∧
      (t.Nonneg ∨ v = none → Leaves (some (extent (t.window total ∩ Set.Icc 0 T))) v) ∧
      (T ≠ ⊤ → Leaves (some (extent (t.window total ∩ Set.Icc 0 T))) v →
        t.Nonneg ∨ v = none)) ∧
    (∀ (info : Option StreamInfo) (trim : Option (Trim Json))
      (duration : Except Fault (Option Json)), Timed info trim duration → Probed info total →
      (∀ t ∈ trim, t.Exact total ∧ t.Nonneg) →
      ∃ v, duration = .ok v ∧ ∀ d ∈ v, ∃ x, d.value? = some x ∧ 0 < x ∧ x ≤ T) ∧
    (∀ (c : Composition) (d : Json), c.length = none → c.duration = .ok (some d) →
      (∀ info trim duration total, c.Supplies info trim duration → Probed info total →
        total.value?.isSome ∧ ∀ t ∈ trim, t.Exact total ∧ t.Nonneg) →
      ∃ info trim duration total T x, c.Supplies info trim duration ∧ Probed info total ∧
        total.value? = some T ∧ d.value? = some x ∧ 0 < x ∧ x ≤ T) := by
  refine ⟨fun t hexact => ?_, fun info trim duration htimed hprobed htrim => ?_,
    fun c d hlength hd hparts => c.duration_le hlength hd hparts⟩
  · obtain ⟨s, hs⟩ := Option.isSome_iff_exists.mp hexact.start
    obtain ⟨e, he⟩ := exists_stop hT hexact
    obtain ⟨v, hv, hleaves⟩ := length_value hT hexact hs he
    rw [window_eq hs he, nonneg_iff hs, ← Set.Icc_bot]
    exact ⟨v, hv, hleaves.extent (.inl bot_le), hleaves.extent, hleaves.begins_inside⟩
  · obtain ⟨pairs, v, hlength, -⟩ :=
      exists_counted hprobed.isNumber fun t ht => (htrim t ht).1
    refine ⟨v, ?_, fun d hd => ?_⟩
    · rw [htimed.eq_clipLength, hprobed.clipLength_eq, hlength]
    · obtain ⟨x, hx, hle, hlt⟩ := length_le hT htrim hlength d hd
      exact ⟨x, hx, hlt hpos, hle⟩

theorem Trim.lasts_within_source_late :
    (Json.real 10).value? = some (((10 : ℚ) : ℝ) : EReal) ∧
    (0 : EReal) < (((10 : ℚ) : ℝ) : EReal) ∧ Probed Layer.late.clip.info (.real 10) ∧
    (∀ t ∈ Layer.late.effectiveTrim, t.Exact (.real 10) ∧ t.Nonneg) ∧
    (∃ v, Layer.late.duration = .ok v ∧ ∀ d ∈ v, ∃ x, d.value? = some x ∧ 0 < x ∧
      x ≤ (((10 : ℚ) : ℝ) : EReal)) ∧
    ∃ d, Composition.late.length = none ∧ Composition.late.duration = .ok (some d) ∧
      ∃ info trim duration total T x, Composition.late.Supplies info trim duration ∧
        Probed info total ∧ total.value? = some T ∧ d.value? = some x ∧ 0 < x ∧ x ≤ T := by
  have hten := Probed.tenSeconds_value
  have hpos : (0 : EReal) < (((10 : ℚ) : ℝ) : EReal) := by norm_num
  have hnonneg {stop : Option Json} : Trim.Nonneg ⟨.int 4, stop⟩ := by
    intro s hs
    obtain rfl := Option.some.inj (hs.symm.trans (Json.value?_int 4))
    norm_num
  have hlayer : ∀ t ∈ Layer.late.effectiveTrim, t.Exact (.real 10) ∧ t.Nonneg := by
    rintro t ⟨⟩
    exact ⟨exact_late fun e he => ⟨12, (Option.some.inj he).symm⟩, hnonneg⟩
  have hrun : (Composition.late.duration.toOption.join).isSome = true := by decide +kernel
  obtain ⟨d, hd⟩ := Option.isSome_iff_exists.mp hrun
  have hduration : Composition.late.duration = .ok (some d) :=
    ok_of_toOption (Option.join_eq_some_iff.mp hd)
  obtain ⟨-, hparts, hwhole⟩ := lasts_within_source hten hpos
  refine ⟨hten, hpos, Probed.tenSeconds, hlayer,
    hparts _ _ _ (.layer .late) Probed.tenSeconds hlayer, d, rfl, hduration,
    hwhole _ d rfl hduration ?_⟩
  intro info trim duration total hsupplies hprobed
  obtain rfl : total = .real 10 := by
    cases hsupplies with
    | background hb hkind =>
      obtain rfl := Option.some.inj hb
      exact (Option.some.inj hprobed.known).symm
    | layer hl =>
      obtain rfl := List.mem_singleton.mp hl
      exact (Option.some.inj hprobed.known).symm
  refine ⟨by rw [hten]; rfl, fun t ht => ?_⟩
  cases hsupplies with
  | background hb hkind =>
    obtain rfl := Option.some.inj hb
    obtain rfl := Option.some.inj ht
    exact ⟨exact_late nofun, hnonneg⟩
  | layer hl =>
    obtain rfl := List.mem_singleton.mp hl
    exact hlayer t ht

/-- A trim may begin in front of a source, and then the clip is longer than the source. -/
theorem Trim.lasts_beyond_source :
    (¬ ∀ (total : Json) (T : EReal) (t : Trim Json) (v : Option Json), total.value? = some T →
      0 < T → t.Exact total → Trim.length total (some t) = .ok v →
      Leaves (some (extent (t.window total ∩ Set.Icc 0 T))) v) ∧
    ∃ f, Layer.late.clip.subclip (.int (-5)) none = .ok f ∧ Probed f.info (.real 10) ∧
      f.duration = .ok (some (.real 15)) := by
  have hsub : (Number.sub (.real 10) (.int (-5))).toOption = some (.real 15) := by decide +kernel
  have hdiff : Json.sub (.real 10) (.int (-5)) = .ok (.real 15) := by
    change (Number.sub (.real 10) (.int (-5))).map Number.toJson = _
    rw [ok_of_toOption hsub]
    rfl
  have hbelow : Number.less (.int (-5)) (.real 10) = true := by decide +kernel
  have hlength : Trim.length (Json.real 10) (some ⟨Json.int (-5), none⟩) =
      .ok (some (.real 15)) := by
    rw [length_eq]
    change (if Number.less (.int (-5)) (.real 10) = true then
      (Json.sub (.real 10) (.int (-5))).map some else .ok none) = _
    rw [if_pos hbelow, hdiff]
    rfl
  refine ⟨fun hall => ?_, _, rfl, Probed.tenSeconds, hlength⟩
  have hd : Decimal.Dyadic.ofFloat? 15 = some ⟨false, 15 * 2 ^ 49, -49⟩ := by decide +kernel
  have hfifteen : (Json.real 15).value? = some (((10 - (-5 : Int) : ℚ) : ℝ) : EReal) := by
    rw [Json.value?_real hd]
    norm_num [Decimal.Dyadic.value_eq, Decimal.Dyadic.magnitude]
  have hexact : Trim.Exact (.real 10) ⟨.int (-5), none⟩ := by
    have hstart : (Json.int (-5)).value? = some ((((-5 : Int) : ℚ) : ℝ) : EReal) := by
      simp [Json.value?_int]
    refine ⟨rfl, fun e he => ?_, fun _ _ _ _ => ?_⟩
    · cases he
    · exact .of_rationals hdiff Probed.tenSeconds_value hstart hfifteen
  have hten := Probed.tenSeconds_value
  have hclaimed := hall _ _ _ _ hten (by norm_num) hexact hlength
  rw [window_eq (t := ⟨.int (-5), none⟩) (Json.value?_int (-5)) hten] at hclaimed
  have hinside : max (((-5 : Int) : ℝ) : EReal) 0 < min ((10 : ℚ) : ℝ) ((10 : ℚ) : ℝ) := by
    norm_num
  rw [extent_inter hinside] at hclaimed
  cases hclaimed with
  | seconds _ hvalue =>
    have hsame := Option.some.inj (hfifteen.symm.trans hvalue)
    rw [max_eq_right (by norm_num), min_self, sub_zero] at hsame
    norm_num at hsame

end Compositor
