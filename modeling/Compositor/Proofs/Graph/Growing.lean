import Compositor.Graph.Builder
import Compositor.Proofs.Fault.Wiring
import Compositor.Proofs.Graph.Markup
import Compositor.Proofs.Graph.Taking

/-!
# What builders append

`Extends m P post`: run on any graph, the builder `m` leaves the statements there in front and
appends only statements with `P`, and `post` holds of its answer. An `Idiom` is a pair of
properties, of statements and of pads, that every worded statement hands on from the pads it reads
to the pads it makes; a long builder then only has to be worded.
-/
namespace Compositor

variable {α β : Type}

/-- A text that can stand in a statement as it is. -/
structure Worded (s : String) : Prop where
  unmarked : Unmarked s
  nonempty : s ≠ ""

instance (s : String) : Decidable (Worded s) :=
  decidable_of_iff (Unmarked s ∧ s ≠ "") ⟨fun h => ⟨h.1, h.2⟩, fun h => ⟨h.1, h.2⟩⟩

theorem Worded.append {s t : String} (hs : Worded s) (ht : Unmarked t) : Worded (s ++ t) where
  unmarked := hs.unmarked.append ht
  nonempty := fun h => hs.nonempty (String.append_eq_empty_iff.mp h).1

/-- A later state of a graph, in which all new statements have a property. -/
def FilterGraph.GrowsWith (P : FilterNode → Prop) (g g' : FilterGraph) : Prop :=
  ∃ more, g'.nodes = g.nodes ++ more ∧ ∀ n ∈ more, P n

namespace FilterGraph.GrowsWith

variable {P : FilterNode → Prop} {g g' g'' : FilterGraph}

theorem refl (P : FilterNode → Prop) (g : FilterGraph) : GrowsWith P g g :=
  ⟨[], (List.append_nil _).symm, nofun⟩

theorem trans (h : GrowsWith P g g') (h' : GrowsWith P g' g'') : GrowsWith P g g'' := by
  obtain ⟨more, hnodes, hmore⟩ := h
  obtain ⟨more', hnodes', hmore'⟩ := h'
  refine ⟨more ++ more', by rw [hnodes', hnodes, List.append_assoc], fun n hn => ?_⟩
  exact (List.mem_append.mp hn).elim (hmore n) (hmore' n)

theorem grow (g : FilterGraph) {n : FilterNode} (hn : P n) : GrowsWith P g (g.grow n) :=
  ⟨[n], rfl, List.forall_mem_singleton.mpr hn⟩

end FilterGraph.GrowsWith

/-- Properties of statements and of pads that worded statements hand on. -/
def Idiom (P : FilterNode → Prop) (Q : Pad → Prop) : Prop :=
  ∀ (g : FilterGraph) (n : FilterNode), g.Takes n → Worded n.expr →
    (∀ p ∈ n.outputs, Worded p.label) → (∀ p ∈ n.inputs, Q p) → P n ∧ ∀ p ∈ n.outputs, Q p

/-- Statements of one kind over pads of this kind. -/
theorem idiom_kind (kind : StreamKind) :
    Idiom (fun n => n.kind = kind) fun p => p.kind = kind := by
  intro g n hn _ _ hinputs
  obtain ⟨first, rest, hfirst⟩ := List.exists_cons_of_ne_nil hn.reads
  have hmem : first ∈ n.inputs := hfirst ▸ List.mem_cons_self
  have hkind : n.kind = kind := (hn.kind first hmem).symm.trans (hinputs first hmem)
  exact ⟨hkind, fun p hp => (hn.fresh.kind p hp).trans hkind⟩

/-- Legible statements over pads with unmarked labels. -/
theorem idiom_legible : Idiom FilterNode.Legible fun p => Unmarked p.label := by
  intro g n _ hexpr hlabels hinputs
  have houtputs : ∀ p ∈ n.outputs, Unmarked p.label := fun p hp => (hlabels p hp).unmarked
  exact ⟨⟨hexpr.unmarked, hexpr.nonempty, hinputs, houtputs⟩, houtputs⟩

namespace GraphBuilder

/-- The builder appends only statements with a property, and `post` holds of its answer. -/
def Extends (m : GraphBuilder α) (P : FilterNode → Prop) (post : α → Prop) : Prop :=
  ∀ g a g', m g = .ok (a, g') → g.GrowsWith P g' ∧ post a

namespace Extends

variable {P : FilterNode → Prop} {Q : Pad → Prop} {post : α → Prop} {m : GraphBuilder α}

theorem pure {a : α} (h : post a) : (Pure.pure a : GraphBuilder α).Extends P post := by
  intro g a' g' hrun
  cases hrun
  exact ⟨.refl P g, h⟩

theorem bind {f : α → GraphBuilder β} {post' : β → Prop} (hm : m.Extends P post)
    (hf : ∀ a, post a → (f a).Extends P post') : (m >>= f).Extends P post' := by
  intro g b g'' hrun
  obtain ⟨⟨a, g'⟩, hfirst, hrest⟩ := bind_eq_ok.mp (show (m g >>= fun r => f r.1 r.2) = _ from hrun)
  obtain ⟨hgrows, ha⟩ := hm g a g' hfirst
  obtain ⟨hgrows', hb⟩ := hf a ha g' b g'' hrest
  exact ⟨hgrows.trans hgrows', hb⟩

theorem bind_lift {x : Except Fault α} {f : α → GraphBuilder β} {post' : β → Prop}
    (hf : ∀ a, x = .ok a → (f a).Extends P post') :
    ((liftM x : GraphBuilder α) >>= f).Extends P post' := by
  intro g b g' hrun
  cases x with
  | ok a => exact hf a rfl g b g' hrun
  | error e => cases hrun

theorem ite {p : Prop} [Decidable p] {m' : GraphBuilder α} (hm : m.Extends P post)
    (hm' : m'.Extends P post) : (if p then m else m').Extends P post := by
  split
  · exact hm
  · exact hm'

theorem get : (MonadState.get : GraphBuilder FilterGraph).Extends P fun _ => True := by
  intro g a g' hrun
  cases hrun
  exact ⟨.refl P g, trivial⟩

theorem markOutput (pad : Pad) : (markOutput pad).Extends P fun _ => True := by
  intro g u g' hrun
  cases hrun
  exact ⟨.refl P g, trivial⟩

/-- A worded call that is answered appends a statement of an idiom. -/
theorem addMulti_idiom (hPQ : Idiom P Q) {g g' : FilterGraph} {expr : String} {ins : List Pad}
    {labels : List String} {kind : Option StreamKind} {pads : List Pad}
    (h : g.addMulti expr ins labels kind = (g', .ok pads)) (hexpr : Worded expr)
    (hlabels : ∀ l ∈ labels, Worded l) (hins : ∀ p ∈ ins, Q p) :
    g.GrowsWith P g' ∧ pads.length = labels.length ∧ ∀ p ∈ pads, Q p := by
  obtain ⟨n, hn, rfl, rfl, rfl, rfl, rfl⟩ := FilterGraph.addMulti_ok h
  obtain ⟨hP, hQ⟩ := hPQ g n hn hexpr (List.forall_mem_map.mp hlabels) hins
  exact ⟨.grow g hP, (List.length_map _).symm, hQ⟩

/-- A statement of an idiom. -/
theorem statement (hPQ : Idiom P Q) {expr label : String} {ins : List Pad} (hexpr : Worded expr)
    (hlabel : Worded label) (hins : ∀ p ∈ ins, Q p) : (statement expr ins label).Extends P Q := by
  intro g pad g' hrun
  unfold GraphBuilder.statement FilterGraph.add at hrun
  cases hadd : g.addMulti expr ins [label] none with
  | mk g₁ result =>
    rw [hadd] at hrun
    cases result with
    | error e => cases hrun
    | ok pads =>
      obtain ⟨hgrows, hlength, hQ⟩ :=
        addMulti_idiom hPQ hadd hexpr (List.forall_mem_singleton.mpr hlabel) hins
      obtain ⟨q, rfl⟩ := List.length_eq_one_iff.mp hlength
      cases hrun
      exact ⟨hgrows, hQ q (List.mem_singleton_self q)⟩

/-- A statement that reads one pad. -/
theorem through (hPQ : Idiom P Q) {expr label : String} {pad : Pad} (hexpr : Worded expr)
    (hlabel : Worded label) (hpad : Q pad) :
    (GraphBuilder.statement expr [pad] label).Extends P Q :=
  statement hPQ hexpr hlabel (List.forall_mem_singleton.mpr hpad)

/-- A statement that reads two pads. -/
theorem both (hPQ : Idiom P Q) {expr label : String} {a b : Pad} (hexpr : Worded expr)
    (hlabel : Worded label) (ha : Q a) (hb : Q b) :
    (GraphBuilder.statement expr [a, b] label).Extends P Q :=
  statement hPQ hexpr hlabel (List.forall_mem_cons.mpr ⟨ha, List.forall_mem_singleton.mpr hb⟩)

theorem fork (hPQ : Idiom P Q) {expr first second : String} {input : Pad} (hexpr : Worded expr)
    (hfirst : Worded first) (hsecond : Worded second) (hinput : Q input) :
    (fork expr input first second).Extends P fun pads => Q pads.1 ∧ Q pads.2 := by
  intro g pads g' hrun
  unfold GraphBuilder.fork at hrun
  cases hadd : g.addMulti expr [input] [first, second] none with
  | mk g₁ result =>
    rw [hadd] at hrun
    cases result with
    | error e => cases hrun
    | ok made =>
      have hlabels : ∀ l ∈ [first, second], Worded l :=
        List.forall_mem_cons.mpr ⟨hfirst, List.forall_mem_singleton.mpr hsecond⟩
      obtain ⟨hgrows, hlength, hQ⟩ :=
        addMulti_idiom hPQ hadd hexpr hlabels (List.forall_mem_singleton.mpr hinput)
      obtain ⟨a, b, rfl⟩ := List.length_eq_two.mp hlength
      cases hrun
      exact ⟨hgrows, hQ a List.mem_cons_self, hQ b (List.mem_cons_of_mem a List.mem_cons_self)⟩

end Extends

end GraphBuilder

end Compositor
