import Compositor.Proofs.Fault.Wiring
import Compositor.Proofs.Json.Value
import Compositor.Timing.Trim

/-!
# What a trim leaves of a source

A trim ends where it says, or where the source ends if that is sooner, and what it leaves lasts
from its start to that end. The numbers here are the values of the seconds that were given, so
that this is what the computed length says as long as no difference is rounded. NaN bounds
nothing: a source of that length does not end before a trim does.
-/
namespace Compositor

/-- An amount, unless the bound is smaller. -/
noncomputable def boundedBy (bound : Option EReal) (x : EReal) : EReal :=
  (bound.map (min x)).getD x

theorem boundedBy_some (bound x : EReal) : boundedBy (some bound) x = min x bound := rfl

/-- Taking away the same from an amount and from its bound. -/
theorem boundedBy_sub (bound : Option EReal) (x s : EReal) :
    boundedBy (bound.map (· - s)) (x - s) = boundedBy bound x - s := by
  cases bound with
  | none => rfl
  | some b =>
    have hmono : Monotone fun y : EReal => y - s := fun y z h => EReal.sub_le_sub h le_rfl
    exact (hmono.map_min (a := x) (b := b)).symm

namespace Trim

/-- The length that some amount of seconds has: none if nothing is left. -/
inductive Leaves : Option EReal → Option Json → Prop
  | seconds {x : EReal} {d : Json} (hpos : 0 < x) (hd : d.value? = some x) :
    Leaves (some x) (some d)
  | nothing {amount : Option EReal} (h : ∀ x ∈ amount, x ≤ 0) : Leaves amount none

/-- The seconds of a trim are numbers, and where they are subtracted, none is rounded. So it is
with whole seconds (`Exact.of_whole`). -/
structure Exact (total : Json) (t : Trim Json) : Prop where
  start : t.start.value?.isSome
  span : ∀ stop ∈ t.stop, stop.SubtractsExactly t.start
  /-- The source only counts if it ends behind the start of the trim, but not behind its end. -/
  rest : ∀ x ∈ total.value?, (∀ s ∈ t.start.value?, s < x) →
    (∀ stop ∈ t.stop, ∃ y ∈ stop.value?, x ≤ y) → total.SubtractsExactly t.start

/-- Whole seconds are not rounded, unless the source lasts for ages. -/
theorem Exact.of_whole {total : Float}
    (htotal : ∀ x ∈ (Json.real total).value?, x < ((2 ^ 53 : ℚ) : ℝ)) (n : Nat)
    {stop : Option Json} (hstop : ∀ e ∈ stop, ∃ m : Int, e = .int m) :
    Exact (.real total) ⟨.int n, stop⟩ where
  start := rfl
  span := by
    intro e he
    obtain ⟨m, rfl⟩ := hstop e he
    exact Json.subtractsExactly_ints m n
  rest x hx hbehind _ :=
    Json.subtractsExactly_natCast hx (htotal x hx) (hbehind _ (Json.value?_int n))

/-- Where a trim ends in a source. -/
noncomputable def reach (total : Json) (t : Trim Json) : Option EReal :=
  match t.stop with
  | none => total.value?
  | some stop => stop.value?.map (boundedBy total.value?)

/-- The end that is computed for a trim. -/
def stopIn (total : Json) (t : Trim Json) : Except Fault Json :=
  match t.stop with
  | none => .ok total
  | some stop => Quantity.least stop total

theorem length_eq (total : Json) (t : Trim Json) :
    Trim.length total (some t) = (do
      let stop ← t.stopIn total
      if ← Json.less t.start stop then (Json.sub stop t.start).map some else .ok none) := by
  obtain ⟨start, _ | stop⟩ := t
  all_goals rfl

theorem stopIn_exact {total : Json} {t : Trim Json} (htotal : total.number?.isSome)
    (hexact : t.Exact total) :
    ∃ stop, t.stopIn total = .ok stop ∧ stop.number?.isSome ∧ stop.value? = t.reach total ∧
      ∀ x ∈ stop.value?, (∀ s ∈ t.start.value?, s < x) → stop.SubtractsExactly t.start := by
  unfold reach stopIn
  cases hstop : t.stop with
  | none =>
    refine ⟨total, rfl, htotal, rfl, fun x hx hlt => hexact.rest x hx hlt fun stop hs => ?_⟩
    rw [hstop] at hs
    cases hs
  | some stop =>
    obtain ⟨-, e, -, -, he, -⟩ := (hexact.span stop hstop).exact
    obtain ⟨below, hless, hbelow⟩ := Json.less_of_numbers htotal (Json.isSome_number? he)
    have hleast : Quantity.least stop total = .ok (if below then total else stop) := by
      rw [Quantity.least]
      change (Json.less total stop >>= _) = _
      rw [hless]
      cases below <;> rfl
    refine ⟨_, hleast, ?_⟩
    dsimp only
    cases below with
    | true =>
      obtain ⟨x, hx, y, hy, hxy⟩ := hbelow.mp rfl
      obtain rfl : e = y := Option.some.inj (he.symm.trans hy)
      refine ⟨htotal, ?_, fun z hz hlt => hexact.rest z hz hlt fun stop' hs => ?_⟩
      · rw [if_pos rfl, he, Option.map_some, hx, boundedBy_some, min_eq_right hxy.le]
      · obtain rfl : stop = stop' := Option.some.inj (hstop.symm.trans hs)
        obtain rfl : x = z := Option.some.inj (hx.symm.trans hz)
        exact ⟨e, he, hxy.le⟩
    | false =>
      refine ⟨Json.isSome_number? he, ?_, fun _ _ _ => hexact.span stop hstop⟩
      rw [if_neg Bool.false_ne_true, he, Option.map_some]
      cases hx : total.value? with
      | none => rfl
      | some x =>
        have hle : e ≤ x := not_lt.mp fun hlt => by
          cases hbelow.mpr ⟨x, hx, e, he, hlt⟩
        rw [boundedBy_some, min_eq_left hle]

/-- The length of a trimmed source lasts from the start of the trim to its end. -/
theorem length_leaves {total : Json} {t : Trim Json} (htotal : total.number?.isSome)
    (hexact : t.Exact total) {s : EReal} (hs : t.start.value? = some s) :
    ∃ v, Trim.length total (some t) = .ok v ∧ Leaves ((t.reach total).map (· - s)) v := by
  obtain ⟨stop, hstop, hnumber, hreach, hsub⟩ := stopIn_exact htotal hexact
  obtain ⟨below, hless, hbelow⟩ := Json.less_of_numbers (Json.isSome_number? hs) hnumber
  have hlength : Trim.length total (some t) =
      if below then (Json.sub stop t.start).map some else .ok none := by
    rw [length_eq, hstop]
    change (Json.less t.start stop >>= _) = _
    rw [hless]
    rfl
  rw [hlength, ← hreach]
  cases below with
  | true =>
    obtain ⟨p, hp, y, hy, hlt⟩ := hbelow.mp rfl
    obtain rfl : s = p := Option.some.inj (hs.symm.trans hp)
    have hbehind : ∀ s' ∈ t.start.value?, s' < y := by
      intro s' hs'
      obtain rfl : s = s' := Option.some.inj (hs.symm.trans hs')
      exact hlt
    obtain ⟨d, y', s', hd, hy', hs', hvalue⟩ := (hsub y hy hbehind).exact
    obtain rfl : y = y' := Option.some.inj (hy.symm.trans hy')
    obtain rfl : s = s' := Option.some.inj (hs.symm.trans hs')
    refine ⟨some d, ?_, ?_⟩
    · rw [if_pos rfl, hd]
      rfl
    · rw [hy]
      exact .seconds (EReal.sub_pos.mpr hlt) hvalue
  | false =>
    refine ⟨none, rfl, .nothing fun x hx => ?_⟩
    obtain ⟨y, hy, rfl⟩ := Option.map_eq_some_iff.mp hx
    have hle : y ≤ s := not_lt.mp fun hlt => by
      cases hbelow.mpr ⟨s, hs, y, hy, hlt⟩
    exact EReal.sub_nonpos.mpr hle

end Trim

end Compositor
