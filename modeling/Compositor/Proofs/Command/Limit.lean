import Compositor.Proofs.Command.Meaning

/-!
# The limit of the output

The length of a composition is computed in one place and put into the command in another, and
the two ask differently whether there is one. A length that the background or a layer gives is
never zero, so that they agree on it; an explicit length of zero is a length, but no limit.
-/
namespace Compositor

open Setting (ofPair)

/-! ## Lengths that are not explicit -/

namespace Length

variable {α : Type} [Quantity α]

theorem nonzero_of_positive? {known : Option α} {d : α} (h : positive? known = .ok (some d)) :
    Quantity.isZero d = false := by
  cases known with
  | none => cases h
  | some a =>
    dsimp only [positive?] at h
    by_cases hz : Quantity.isZero a = true
    · rw [if_pos hz] at h
      cases h
    · rw [if_neg hz] at h
      obtain ⟨above, -, h⟩ := bind_eq_ok.mp h
      cases above with
      | true =>
        cases h
        exact Bool.eq_false_iff.mpr hz
      | false => cases h

theorem greatest_mem {a d : α} {rest : List α} (h : Quantity.greatest a rest = .ok d) :
    d ∈ a :: rest := by
  induction rest generalizing a with
  | nil =>
    cases h
    exact List.mem_singleton_self d
  | cons b rest ih =>
    obtain ⟨above, -, h⟩ := bind_eq_ok.mp h
    cases above with
    | true => exact List.mem_cons_of_mem a (ih h)
    | false =>
      rcases List.mem_cons.mp (ih h) with rfl | hd
      · exact List.mem_cons_self
      · exact List.mem_cons_of_mem a (List.mem_cons_of_mem b hd)

theorem nonzero_of_longest? {lengths : List (Option α)} {d : α}
    (h : longest? lengths = .ok (some d)) : Quantity.isZero d = false := by
  unfold longest? at h
  split at h
  · cases h
  · rename_i first rest hlengths
    cases hgreatest : Quantity.greatest first rest with
    | error e =>
      rw [hgreatest] at h
      cases h
    | ok a =>
      rw [hgreatest] at h
      cases h
      have hmem : d ∈ (lengths.filterMap id).filter fun d => !Quantity.isZero d := by
        rw [hlengths]
        exact greatest_mem hgreatest
      simpa using (List.mem_filter.mp hmem).2

/-- A rule other than the explicit one never gives zero. -/
theorem nonzero_of_resolve {background : Except Fault (Option α)}
    {layers : Except Fault (List (Option α))} {d : α} {rule : LengthRule}
    (h : resolve none background layers = .ok (some d, rule)) : Quantity.isZero d = false := by
  obtain ⟨known, -, h⟩ := bind_eq_ok.mp h
  obtain ⟨fixed, hfixed, h⟩ := bind_eq_ok.mp h
  cases fixed with
  | some a =>
    cases h
    exact nonzero_of_positive? hfixed
  | none =>
    obtain ⟨lengths, -, h⟩ := bind_eq_ok.mp h
    obtain ⟨longest, hlongest, h⟩ := bind_eq_ok.mp h
    cases longest with
    | none => cases h
    | some a =>
      obtain ⟨above, -, h⟩ := bind_eq_ok.mp h
      cases above with
      | true =>
        cases h
        exact nonzero_of_longest? hlongest
      | false => cases h

end Length

/-! ## The option for the length -/

/-- The option that limits the output. -/
def Setting.limits (s : Setting) : Bool := s.name == "-t"

namespace Composition

theorem duration_explicit {c : Composition} {d : Json} (h : c.length = some d) :
    c.duration = .ok (some d) := by
  rw [duration, lengthRule, h]
  rfl

/-- A length that counts as nothing can only be an explicit one. -/
theorem explicit_of_duration {c : Composition} {d : Json} (h : c.duration = .ok (some d))
    (hd : d.isTruthy = false) : c.length = some d := by
  cases hlength : c.length with
  | some e =>
    rw [duration_explicit hlength] at h
    cases h
    rfl
  | none =>
    unfold duration lengthRule at h
    rw [hlength] at h
    cases hrule : Length.resolve none c.backgroundLength (c.layers.mapM Layer.duration) with
    | error e =>
      rw [hrule] at h
      cases h
    | ok result =>
      obtain ⟨known, rule⟩ := result
      rw [hrule] at h
      cases h
      have hzero : (!d.isTruthy) = false := Length.nonzero_of_resolve hrule
      rw [hd] at hzero
      cases hzero

/-- The options of an output that has a length, or none. -/
structure Limited (c : Composition) (r : Reading) (d : Option Json) : Prop where
  duration_eq : c.duration = .ok d
  explicit : ∀ e, c.length = some e → d = some e
  limited : ∀ e, d = some e → e.isTruthy = true →
    r.settings.filter Setting.limits = [ofPair ("-t", e.text)]
  unlimited : d = none → r.settings.filter Setting.limits = []
  /-- The gap between the two: zero. -/
  zero : ∀ e, d = some e → e.isTruthy = false →
    c.length = some e ∧ r.settings.filter Setting.limits = []

theorem settings_limits {r : Rendering} {d : Option Json} {coding : List (String × String)}
    (hothers : r.others = lengthPairs d ++ coding)
    (hcoding : ∀ p ∈ coding, p.1 ∉ Setting.streamwise) :
    r.settings.filter Setting.limits = (lengthPairs d).map ofPair := by
  have hgraph : r.graph.settings.filter Setting.limits = [] := by
    unfold FilterGraph.settings
    split <;> rfl
  have hstreams : [ofPair ("-map", r.picture.mapSpec), r.sound.setting].filter Setting.limits =
      [] := by
    cases r.sound <;> rfl
  have hlength : ((lengthPairs d).map ofPair).filter Setting.limits =
      (lengthPairs d).map ofPair := by
    rw [List.filter_eq_self]
    intro s hs
    obtain ⟨p, hp, rfl⟩ := List.mem_map.mp hs
    exact beq_iff_eq.mpr (lengthPairs_names d p hp)
  have hrest : (coding.map ofPair).filter Setting.limits = [] :=
    Rendering.others_filter hcoding fun s hs => by
      rw [eq_of_beq hs]
      decide
  rw [Rendering.settings, hothers, List.map_append, List.filter_append, List.filter_append,
    List.filter_append, hgraph, hstreams, hlength, hrest, List.append_nil,
    List.append_nil, List.nil_append]

/-- A command limits its output to the length of its composition, unless that length is an
explicit zero. -/
theorem command_limited {c : Composition} {outPath : Argument} {encoder : EncoderProfile}
    {format : Json} {manifest : Option ManifestId} {w : World} {argv : List Argument}
    (h : (c.command outPath encoder format manifest w).1 = .ok argv) :
    ∃ r d, Reading.read argv.tail = some r ∧ c.Limited r d := by
  obtain ⟨o, r, d, coding, hr, hduration, hothers, hcoding⟩ := command_parts h
  obtain ⟨args, rfl, hread⟩ := hr.read
  have hlimits : (r.reading outPath).settings.filter Setting.limits =
      (lengthPairs d).map ofPair := settings_limits hothers hcoding
  refine ⟨r.reading outPath, d, hread, hduration, fun e he => ?_, fun e he ht => ?_,
    fun he => ?_, fun e he ht => ⟨?_, ?_⟩⟩
  · rw [duration_explicit he] at hduration
    exact (Except.ok.inj hduration).symm
  · simp [hlimits, he, lengthPairs, ht]
  · simp [hlimits, he, lengthPairs]
  · exact explicit_of_duration (he ▸ hduration) ht
  · simp [hlimits, he, lengthPairs, ht]

/-- The same layers for five seconds, and for no time at all. -/
def lasting (seconds : Int) : Composition := { crossed with length := some (.int seconds) }

theorem command_limited_lasting : ∃ argv,
    ((lasting 5).command "out.mov" EncoderProfile.h264 .null none ready).1 = .ok argv ∧
    ∃ r, Reading.read argv.tail = some r ∧ (lasting 5).Limited r (some (.int 5)) ∧
      r.settings.filter Setting.limits = [ofPair ("-t", "5")] := by
  have hrun : ((lasting 5).command "out.mov" EncoderProfile.h264 .null none
      ready).1.toOption.isSome = true := by decide +kernel
  obtain ⟨argv, hargv⟩ := Option.isSome_iff_exists.mp hrun
  have h := ok_of_toOption hargv
  obtain ⟨r, d, hread, hlimited⟩ := command_limited h
  obtain rfl : d = some (.int 5) := hlimited.explicit (.int 5) rfl
  exact ⟨argv, h, r, hread, hlimited, hlimited.limited (.int 5) rfl rfl⟩

/-- The length of a composition may be known without a limit in its command. -/
theorem length_without_limit : ¬ ∀ (c : Composition) (outPath : Argument)
    (encoder : EncoderProfile) (format : Json) (manifest : Option ManifestId) (w : World)
    (argv : List Argument) (r : Reading) (d : Json),
    (c.command outPath encoder format manifest w).1 = .ok argv →
    Reading.read argv.tail = some r → c.duration = .ok (some d) →
    r.settings.filter Setting.limits = [ofPair ("-t", d.text)] := by
  intro hall
  have hrun : (((lasting 0).command "out.mov" EncoderProfile.h264 .null none ready).1.toOption.bind
      fun argv => (Reading.read argv.tail).map fun r => r.settings.any Setting.limits) =
      some false := by decide +kernel
  obtain ⟨argv, hargv, hread⟩ := Option.bind_eq_some_iff.mp hrun
  obtain ⟨r, hr, hnone⟩ := Option.map_eq_some_iff.mp hread
  have hlimits := hall (lasting 0) "out.mov" EncoderProfile.h264 .null none ready argv r (.int 0)
    (ok_of_toOption hargv) hr rfl
  have hmem : ofPair ("-t", (Json.int 0).text) ∈ r.settings.filter Setting.limits := by
    rw [hlimits]
    exact List.mem_singleton_self _
  exact List.any_eq_false.mp hnone _ (List.mem_of_mem_filter hmem) rfl

end Composition

end Compositor
