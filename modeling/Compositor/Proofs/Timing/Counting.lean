import Compositor.Proofs.Command.Scoping
import Compositor.Proofs.Timing.Remainder

/-!
# The trims of a command and its lengths

A trim goes to the media tool as the options of an input, as a start and a span, and it goes into
the length of a layer or of a background as a start and an end. Both say the same: the length is
what the options leave of a source whose length is known.
-/
namespace Compositor

open Setting (texts ofPair)

namespace Trim

variable {total : Json}

/-- The length that is left of a source by the options of an input. -/
inductive Counts (total : Json) : List (String × String) → Option Json → Prop
  | whole : Counts total [] (some total)
  | rest {start : Json} {s : EReal} {v : Option Json} (hstart : start.value? = some s)
    (h : Leaves (total.value?.map (· - s)) v) : Counts total [("-ss", start.text)] v
  | span {start span : Json} {s d : EReal} {v : Option Json} (hstart : start.value? = some s)
    (hspan : span.value? = some d) (h : Leaves (boundedBy (total.value?.map (· - s)) d) v) :
    Counts total [("-ss", start.text), ("-t", span.text)] v

/-- The options for a trim, and the length of what it leaves. -/
structure Counted (total : Json) (trim : Option (Trim Json)) (pairs : List (String × String))
    (v : Option Json) : Prop where
  selected : Trim.pairs trim = .ok pairs
  emitted : Trim.args trim = .ok (texts pairs)
  counts : Counts total pairs v

theorem exists_counted (htotal : total.number?.isSome) {trim : Option (Trim Json)}
    (hexact : ∀ t ∈ trim, t.Exact total) :
    ∃ pairs v, Trim.length total trim = .ok v ∧ Counted total trim pairs v := by
  suffices h : ∃ pairs v, Trim.pairs trim = .ok pairs ∧ Trim.length total trim = .ok v ∧
      Counts total pairs v by
    obtain ⟨pairs, v, hpairs, hlength, hcounts⟩ := h
    refine ⟨pairs, v, hlength, hpairs, ?_, hcounts⟩
    rw [args_eq, hpairs]
    rfl
  cases trim with
  | none => exact ⟨[], some total, rfl, rfl, .whole⟩
  | some t =>
    have ht := hexact t rfl
    obtain ⟨s, hs⟩ := Option.isSome_iff_exists.mp ht.start
    obtain ⟨v, hlength, hleaves⟩ := length_leaves htotal ht hs
    obtain ⟨start, _ | stop⟩ := t
    · exact ⟨_, v, rfl, hlength, .rest hs hleaves⟩
    · -- the span is the end without the start, and so are the bounds of both
      obtain ⟨span, e, s', hspan, he, hs', hd⟩ := (ht.span stop rfl).exact
      obtain rfl : s = s' := Option.some.inj (hs.symm.trans hs')
      refine ⟨[("-ss", start.text), ("-t", span.text)], v, ?_, hlength, .span hs hd ?_⟩
      · simp only [Trim.pairs, hspan]
        rfl
      · rw [boundedBy_sub]
        simpa [reach, he] using hleaves

end Trim

/-- What probing found: a length that is not zero. -/
structure Probed (info : Option StreamInfo) (total : Json) : Prop where
  known : info.bind StreamInfo.length = some total
  nonzero : total.isTruthy = true

namespace Probed

variable {info : Option StreamInfo} {total : Json}

theorem isNumber (h : Probed info total) : total.number?.isSome := by
  obtain ⟨i, -, hlength⟩ := Option.bind_eq_some_iff.mp h.known
  obtain ⟨x, -, rfl⟩ := Option.map_eq_some_iff.mp hlength
  rfl

theorem clipLength_eq (h : Probed info total) (trim : Option (Trim Json)) :
    Trim.clipLength (info.bind StreamInfo.length) trim = Trim.length total trim := by
  have hzero : (Quantity.isZero total) = false := by
    change (!total.isTruthy) = false
    rw [h.nonzero]
    rfl
  rw [h.known, Trim.clipLength, hzero]
  rfl

end Probed

/-- What is counted for a layer is what its inputs are asked for, and so it is for a video in the
background and for a clip whose layer has no trim of its own. In each command that is returned
the inputs carry just these options. -/
theorem Trim.counted_as_emitted :
    (∀ (l : Layer) (total : Json), Probed l.clip.info total →
      (∀ t ∈ l.effectiveTrim, t.Exact total) →
      ∃ pairs v, Counted total l.effectiveTrim pairs v ∧ l.duration = .ok v ∧
        (l.trim = none → l.clip.duration = .ok v)) ∧
    (∀ (b : Background) (total : Json), b.kind = .video → Probed b.info total →
      (∀ t ∈ b.trim, t.Exact total) →
      ∃ pairs v, Counted total b.trim pairs v ∧ b.duration = .ok v) ∧
    (∀ (c : Composition) (outPath : Argument) (encoder : EncoderProfile) (format : Json)
      (manifest : Option ManifestId) (w : World) (argv : List Argument),
      (c.command outPath encoder format manifest w).1 = .ok argv →
      ∃ r frame backdrop groups, Reading.read argv.tail = some r ∧
        r.inputs = Composition.inputGroups backdrop groups ∧
        List.Forall₂ Layer.Scoped c.layers groups ∧ c.frame = .ok frame ∧
        c.BackgroundGroup frame manifest backdrop) := by
  refine ⟨fun l total hprobed hexact => ?_, fun b total hkind hprobed hexact => ?_, ?_⟩
  · obtain ⟨pairs, v, hlength, hcounted⟩ := exists_counted hprobed.isNumber hexact
    rw [← hprobed.clipLength_eq] at hlength
    refine ⟨pairs, v, hcounted, hlength, fun hnone => ?_⟩
    rw [Layer.effectiveTrim, hnone] at hlength
    exact hlength
  · obtain ⟨pairs, v, hlength, hcounted⟩ := exists_counted hprobed.isNumber hexact
    rw [← hprobed.clipLength_eq] at hlength
    refine ⟨pairs, v, hcounted, ?_⟩
    rw [Background.duration, hkind]
    exact hlength
  · intro c outPath encoder format manifest w argv h
    obtain ⟨o, r, hr⟩ := Composition.command_renders h
    obtain ⟨args, rfl, hread⟩ := hr.read
    exact ⟨_, o.frame, r.backdrop, r.groups, hread, rfl, hr.opened.layers, hr.opened.frame,
      hr.opened.background⟩

/-- A source of ten seconds. -/
def tenSeconds : StreamInfo :=
  ⟨"a.webm", .file, "vp9", "yuva420p", some 640, some 360, 0, some 30, some 10, false, false⟩

/-- A layer whose trim replaces that of its clip, and ends behind the end of the clip. -/
def Layer.late : Layer :=
  { ofClip "late" ⟨.webm, "a.webm", none, none, some ⟨.int 1, some (.int 3)⟩, false,
      some tenSeconds⟩ 0 with trim := some ⟨.int 4, some (.int 12)⟩ }

/-- A video without its first seconds. -/
def Background.late : Background :=
  ⟨.video, 640, 360, 30, none, some "b.mp4", some ⟨.int 4, none⟩, false, 1, some tenSeconds⟩

def Composition.late : Composition := ⟨some .late, [.late], none, none, ⟨0⟩⟩

theorem Probed.tenSeconds : Probed (some tenSeconds) (.real 10) where
  known := rfl
  nonzero := by decide +kernel

theorem Probed.tenSeconds_value : (Json.real 10).value? = some (((10 : ℚ) : ℝ) : EReal) := by
  have hten : Decimal.Dyadic.ofFloat? 10 = some ⟨false, 5 * 2 ^ 50, -49⟩ := by decide +kernel
  rw [Json.value?_real hten]
  norm_num [Decimal.Dyadic.value_eq, Decimal.Dyadic.magnitude]

theorem Trim.exact_late {stop : Option Json} (hstop : ∀ e ∈ stop, ∃ m : Int, e = .int m) :
    Trim.Exact (.real 10) ⟨.int 4, stop⟩ := by
  refine .of_whole (fun x hx => ?_) 4 hstop
  obtain rfl := Option.some.inj (hx.symm.trans Probed.tenSeconds_value)
  norm_num

theorem Trim.counted_as_emitted_late :
    Probed Layer.late.clip.info (.real 10) ∧ (∀ t ∈ Layer.late.effectiveTrim, t.Exact (.real 10)) ∧
    (∃ v, Counted (.real 10) Layer.late.effectiveTrim [("-ss", "4"), ("-t", "8")] v ∧
      Layer.late.duration = .ok v) ∧
    Probed Background.late.info (.real 10) ∧ (∀ t ∈ Background.late.trim, t.Exact (.real 10)) ∧
    (∃ v, Counted (.real 10) Background.late.trim [("-ss", "4")] v ∧
      Background.late.duration = .ok v) ∧
    ∃ argv, (Composition.late.command "out.mp4" EncoderProfile.h264 .null none
      Composition.ready).1 = .ok argv ∧
    ∃ r frame backdrop groups, Reading.read argv.tail = some r ∧
      r.inputs = Composition.inputGroups backdrop groups ∧
      List.Forall₂ Layer.Scoped Composition.late.layers groups ∧
      Composition.late.frame = .ok frame ∧
      Composition.late.BackgroundGroup frame none backdrop := by
  have hlayer : ∀ t ∈ Layer.late.effectiveTrim, t.Exact (.real 10) := by
    rintro t ⟨⟩
    exact exact_late fun e he => ⟨12, (Option.some.inj he).symm⟩
  have hvideo : ∀ t ∈ Background.late.trim, t.Exact (.real 10) := by
    rintro t ⟨⟩
    exact exact_late nofun
  have hrun : (Composition.late.command "out.mp4" EncoderProfile.h264 .null none
      Composition.ready).1.toOption.isSome = true := by decide +kernel
  obtain ⟨argv, hargv⟩ := Option.isSome_iff_exists.mp hrun
  have hcommand := ok_of_toOption hargv
  obtain ⟨hlayers, hbackgrounds, hcommands⟩ := counted_as_emitted
  obtain ⟨pairs, v, hcounted, hduration, -⟩ := hlayers .late _ Probed.tenSeconds hlayer
  obtain ⟨pairs', v', hcounted', hduration'⟩ := hbackgrounds .late _ rfl Probed.tenSeconds hvideo
  obtain rfl : [("-ss", "4"), ("-t", "8")] = pairs := Except.ok.inj hcounted.selected
  obtain rfl : [("-ss", "4")] = pairs' := Except.ok.inj hcounted'.selected
  exact ⟨Probed.tenSeconds, hlayer, ⟨v, hcounted, hduration⟩, Probed.tenSeconds, hvideo,
    ⟨v', hcounted', hduration'⟩, argv, hcommand, hcommands _ _ _ _ _ _ _ hcommand⟩

end Compositor
