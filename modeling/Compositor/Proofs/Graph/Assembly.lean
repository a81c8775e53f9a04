import Compositor.Proofs.Fault.Wiring
import Compositor.Proofs.Graph.Link
import Compositor.Proofs.Graph.Term

/-!
# Assembling graphs

`Assembles m g post`: run on `g`, the builder `m` ends and `post` holds of its answer and
of the graph it leaves, or it ends in a fault that is none of wiring. The rules follow
the structure of builders, so that a statement about a long builder is put together from
its parts. `Carries` is what a part that answers one pad leaves behind.
-/
namespace Compositor

variable {α β : Type}

/-- Running a builder on a graph. -/
def GraphBuilder.Assembles (m : GraphBuilder α) (g : FilterGraph)
    (post : α → FilterGraph → Prop) : Prop :=
  match m g with
  | .ok (a, g') => post a g'
  | .error e => e.isWiring = false

namespace GraphBuilder.Assembles

variable {g : FilterGraph} {post : α → FilterGraph → Prop}

theorem of_ok {m : GraphBuilder α} (a : α) (g' : FilterGraph) (h : m g = .ok (a, g'))
    (hp : post a g') : m.Assembles g post := by
  unfold Assembles
  rw [h]
  exact hp

theorem post_of_ok {m : GraphBuilder α} (hm : m.Assembles g post) {a : α} {g' : FilterGraph}
    (h : m g = .ok (a, g')) : post a g' := by
  unfold Assembles at hm
  rwa [h] at hm

theorem clean {m : GraphBuilder α} (hm : m.Assembles g post) : Clean (m g) := by
  intro e h
  unfold Assembles at hm
  rwa [h] at hm

theorem mono {m : GraphBuilder α} {post' : α → FilterGraph → Prop} (hm : m.Assembles g post)
    (h : ∀ a g', post a g' → post' a g') : m.Assembles g post' := by
  unfold Assembles at hm ⊢
  split at hm
  · exact h _ _ hm
  · exact hm

theorem pure {a : α} (h : post a g) : (Pure.pure a : GraphBuilder α).Assembles g post := h

theorem bind {m : GraphBuilder α} {f : α → GraphBuilder β} {post' : β → FilterGraph → Prop}
    (hm : m.Assembles g post) (hf : ∀ a g', post a g' → (f a).Assembles g' post') :
    (m >>= f).Assembles g post' := by
  cases h : m g with
  | ok r =>
    obtain ⟨a, g'⟩ := r
    have hfa := hf a g' (hm.post_of_ok h)
    unfold Assembles at hfa ⊢
    simpa [Bind.bind, StateT.bind, Except.bind, h] using hfa
  | error e =>
    unfold Assembles
    simpa [Bind.bind, StateT.bind, Except.bind, h] using hm.clean e h

/-- A result that may be a fault leaves the graph alone. -/
theorem bind_lift {x : Except Fault α} {f : α → GraphBuilder β} {post : β → FilterGraph → Prop}
    (hx : Clean x) (hf : ∀ a, x = .ok a → (f a).Assembles g post) :
    ((liftM x : GraphBuilder α) >>= f).Assembles g post := by
  cases x with
  | ok a => exact hf a rfl
  | error e => exact hx e rfl

theorem ite {p : Prop} [Decidable p] {m m' : GraphBuilder α} (hm : p → m.Assembles g post)
    (hm' : ¬ p → m'.Assembles g post) : (if p then m else m').Assembles g post := by
  split
  · exact hm ‹_›
  · exact hm' ‹_›

end GraphBuilder.Assembles

namespace FilterGraph

open Pad (links)

/-- A wired graph all of whose labels spell links that are taken. -/
structure Holds (g : FilterGraph) (taken : Link → Prop) (live : List Pad) : Prop where
  wired : g.Wired live
  named : ∀ p ∈ g.produced, ∃ l, taken l ∧ p.label = l.label

theorem holds_empty : empty.Holds (fun _ => False) [] :=
  ⟨wired_empty, fun _ hp => nomatch hp⟩

variable {g : FilterGraph} {taken taken' : Link → Prop} {live rest : List Pad}

namespace Holds

theorem weaken (h : g.Holds taken live) (ht : ∀ l, taken l → taken' l) : g.Holds taken' live :=
  ⟨h.wired, fun p hp => (h.named p hp).imp fun l hl => ⟨ht l hl.1, hl.2⟩⟩

theorem perm {live' : List Pad} (h : g.Holds taken live) (hp : live.Perm live') :
    g.Holds taken live' := ⟨h.wired.perm hp, h.named⟩

/-- A link that is not taken has a new label. -/
theorem fresh (h : g.Holds taken live) {l : Link} (hl : ¬ taken l) :
    l.label ∉ g.produced.map Pad.label := by
  intro hm
  obtain ⟨p, hp, he⟩ := List.mem_map.mp hm
  obtain ⟨l', hl', he'⟩ := h.named p hp
  rw [he'] at he
  exact hl (Link.label_injective he ▸ hl')

theorem markOutput {p : Pad} (h : g.Holds taken (links [p] ++ rest)) :
    (g.markOutput p).Holds taken rest := ⟨h.wired.markOutput, h.named⟩

end Holds

/-- What a part of a builder leaves that was started on `g` and answers a pad for the
term `t`: a later state of `g` in which that pad waits besides `rest`. -/
structure Carries (g : FilterGraph) (taken : Link → Prop) (rest : List Pad) (kind : StreamKind)
    (t : Term) (pad : Pad) (g' : FilterGraph) : Prop where
  grows : g.Grows g'
  holds : g'.Holds taken (links [pad] ++ rest)
  kind_eq : pad.kind = kind
  unfolds : g'.Unfolds pad t

namespace Carries

variable {g₀ : FilterGraph} {kind : StreamKind} {t : Term} {pad : Pad}

theorem input (h : g.Holds taken rest) (index : Int) (kind : StreamKind) :
    g.Carries taken rest kind (.stream (Pad.input index kind).label) (Pad.input index kind) g :=
  ⟨.refl g, by simpa using h, rfl, .stream rfl⟩

theorem weaken (h : g₀.Carries taken rest kind t pad g) (ht : ∀ l, taken l → taken' l) :
    g₀.Carries taken' rest kind t pad g :=
  { h with holds := h.holds.weaken ht }

theorem since {g₁ : FilterGraph} (h : g₁.Carries taken rest kind t pad g) (hg : g₀.Grows g₁) :
    g₀.Carries taken rest kind t pad g :=
  { h with grows := hg.trans h.grows }

theorem here (h : g₀.Carries taken rest kind t pad g) : g.Carries taken rest kind t pad g :=
  { h with grows := .refl g }

/-- Going back to a pad that still waits while another one was built. -/
theorem turn {g₁ : FilterGraph} {rest' : List Pad} {t' : Term} {pad' : Pad}
    (h : g₀.Carries taken rest' kind t pad g₁)
    (h' : g₁.Carries taken' (links [pad] ++ rest) kind t' pad' g) :
    g₀.Carries taken' (links [pad'] ++ rest) kind t pad g where
  grows := h.grows.trans h'.grows
  holds := by
    refine h'.holds.perm ?_
    rw [← List.append_assoc, ← List.append_assoc]
    exact List.perm_append_comm.append_right rest
  kind_eq := h.kind_eq
  unfolds := h.unfolds.mono h'.grows

end Carries

/-- Appending a statement to a graph whose labels are all known. -/
theorem Holds.grow {n : FilterNode} {new : List Link} (h : g.Holds taken (links n.inputs ++ rest))
    (hk : ∀ p ∈ n.inputs, p.kind = n.kind)
    (ho : n.outputs = new.map fun l => Pad.link l.label n.kind) (hd : new.Nodup)
    (hnew : ∀ l ∈ new, ¬ taken l) :
    (g.grow n).Holds (fun l => taken l ∨ l ∈ new) (n.outputs ++ rest) := by
  have hout : ∀ p ∈ n.outputs, ∃ l ∈ new, p = Pad.link l.label n.kind := by
    intro p hp
    rw [ho] at hp
    obtain ⟨l, hl, rfl⟩ := List.mem_map.mp hp
    exact ⟨l, hl, rfl⟩
  constructor
  · refine h.wired.grow ?_ ?_ ?_ ?_
    · intro p hp
      rcases List.mem_append.mp hp with hp | hp
      · exact hk p hp
      · obtain ⟨l, _, rfl⟩ := hout p hp
        rfl
    · intro p hp
      obtain ⟨l, _, rfl⟩ := hout p hp
      rfl
    · rw [ho, List.map_map]
      exact hd.map Link.label_injective
    · intro p hp
      obtain ⟨l, hl, rfl⟩ := hout p hp
      exact h.fresh (hnew l hl)
  · intro p hp
    rcases List.mem_append.mp hp with hp | hp
    · obtain ⟨l, hl, he⟩ := h.named p hp
      exact ⟨l, .inl hl, he⟩
    · obtain ⟨l, hl, rfl⟩ := hout p hp
      exact ⟨l, .inr hl, rfl⟩

end FilterGraph

namespace GraphBuilder

open FilterGraph
open Pad (links)

/-- A pad is declared as an output, unless there are no statements. -/
theorem declare_apply (pad : Pad) (g : FilterGraph) : (do
    if !(← get).isEmpty then markOutput pad
    return pad : GraphBuilder Pad) g =
      .ok (pad, if g.isEmpty then g else g.markOutput pad) := by
  cases he : g.isEmpty <;>
    simp only [Bind.bind, StateT.bind, get, getThe, MonadStateOf.get, StateT.get, Except.bind,
      Pure.pure, Except.pure, he] <;> rfl

variable {g : FilterGraph} {taken : Link → Prop} {rest : List Pad} {kind : StreamKind}
variable {ins : List Pad} {ts : List Term}

/-- The new graph and pads of a statement whose inputs wait and whose labels are new. -/
theorem addMulti_eq (h : g.Holds taken (links ins ++ rest)) (hne : ins ≠ [])
    (hk : ∀ p ∈ ins, p.kind = kind) (expr : String) {new : List Link} (hd : new.Nodup)
    (hnew : ∀ l ∈ new, ¬ taken l) :
    g.addMulti expr ins (new.map Link.label) none =
      (g.grow ⟨expr, kind, ins, new.map fun l => Pad.link l.label kind⟩,
        .ok (new.map fun l => Pad.link l.label kind)) := by
  have hlive : ∀ p ∈ links ins, p.label ∈ g.produced.map Pad.label := fun p hp =>
    List.mem_map_of_mem (h.wired.live_produced (List.mem_append_left _ hp))
  have hfresh : ∀ label ∈ new.map Link.label, label ∉ g.produced.map Pad.label := by
    intro label hm
    obtain ⟨l, hl, rfl⟩ := List.mem_map.mp hm
    exact h.fresh (hnew l hl)
  rw [addMulti_eq_grow hne hk hlive (hd.map Link.label_injective) hfresh, List.map_map]
  rfl

/-- A statement answers the pad of its label, which carries its filter applied to what
its inputs carry. -/
theorem statement_named (h : g.Holds taken (links ins ++ rest)) (hne : ins ≠ [])
    (hk : ∀ p ∈ ins, p.kind = kind) (hts : g.UnfoldsAll ins ts) (expr : String) {l : Link}
    (hl : ¬ taken l) :
    (statement expr ins l.label).Assembles g fun pad g' => pad = Pad.link l.label kind ∧
      g.Carries (fun x => taken x ∨ x = l) rest kind (.apply expr ts) pad g' := by
  have hnew : ∀ x ∈ [l], ¬ taken x := by simpa using hl
  have hd : [l].Nodup := List.nodup_singleton l
  have ha := addMulti_eq h hne hk expr hd hnew
  have hg := Holds.grow (n := ⟨expr, kind, ins, [Pad.link l.label kind]⟩) h hk rfl hd hnew
  have hu := Unfolds.grow (n := ⟨expr, kind, ins, [Pad.link l.label kind]⟩) h.wired
    List.mem_cons_self rfl (h.fresh hl) hts
  refine .of_ok (Pad.link l.label kind) _ ?_
    ⟨rfl, .grow g _, hg.weaken (by simp), rfl, by simpa [Term.apply] using hu⟩
  rw [List.map_singleton] at ha
  simp only [statement, add, ha]
  rfl

theorem statement_carries (h : g.Holds taken (links ins ++ rest)) (hne : ins ≠ [])
    (hk : ∀ p ∈ ins, p.kind = kind) (hts : g.UnfoldsAll ins ts) (expr : String) {l : Link}
    (hl : ¬ taken l) :
    (statement expr ins l.label).Assembles g
      (g.Carries (fun x => taken x ∨ x = l) rest kind (.apply expr ts)) :=
  (statement_named h hne hk hts expr hl).mono fun _ _ hc => hc.2

/-- A statement on one pad. -/
theorem statement_through {g₀ : FilterGraph} {t : Term} {pad : Pad}
    (h : g₀.Carries taken rest kind t pad g) (expr : String) {l : Link} (hl : ¬ taken l) :
    (statement expr [pad] l.label).Assembles g
      (g₀.Carries (fun x => taken x ∨ x = l) rest kind (.apply expr [t])) :=
  (statement_carries h.holds (List.cons_ne_nil _ _) (by simpa using h.kind_eq)
    (.cons h.unfolds .nil) expr hl).mono fun _ _ hc => hc.since h.grows

/-- A statement on two pads that were built one after the other. -/
theorem statement_both {g₀ g₁ : FilterGraph} {taken₁ : Link → Prop} {rest₁ : List Pad}
    {t₁ t₂ : Term} {p₁ p₂ : Pad} (h₁ : g₀.Carries taken₁ rest₁ kind t₁ p₁ g₁)
    (h₂ : g₁.Carries taken (links [p₁] ++ rest) kind t₂ p₂ g) (expr : String) {l : Link}
    (hl : ¬ taken l) :
    (statement expr [p₁, p₂] l.label).Assembles g
      (g₀.Carries (fun x => taken x ∨ x = l) rest kind (.apply expr [t₁, t₂])) := by
  have hwait : g.Holds taken (links [p₁, p₂] ++ rest) := by
    refine (h₁.turn h₂).holds.perm ?_
    rw [← List.append_assoc, ← Pad.links_append]
    rfl
  have hkinds : ∀ p ∈ [p₁, p₂], p.kind = kind := by simp [h₁.kind_eq, h₂.kind_eq]
  have hterms : g.UnfoldsAll [p₁, p₂] [t₁, t₂] :=
    .cons (h₁.unfolds.mono h₂.grows) (.cons h₂.unfolds .nil)
  exact (statement_carries hwait (List.cons_ne_nil _ _) hkinds hterms expr hl).mono
    fun _ _ hc => hc.since (h₁.grows.trans h₂.grows)

/-- A statement with two outputs, which are told apart by their place. -/
theorem fork_carries {g₀ : FilterGraph} {t : Term} {pad : Pad}
    (h : g₀.Carries taken rest kind t pad g) (expr : String) (l₁ l₂ : Link) (hne : l₁ ≠ l₂)
    (h₁ : ¬ taken l₁) (h₂ : ¬ taken l₂) :
    (fork expr pad l₁.label l₂.label).Assembles g fun pads g' =>
      g'.Carries (fun x => taken x ∨ x = l₁ ∨ x = l₂) (links [pads.2] ++ rest) kind
        (.filter expr [t] 0) pads.1 g' ∧
      g₀.Carries (fun x => taken x ∨ x = l₁ ∨ x = l₂) (links [pads.1] ++ rest) kind
        (.filter expr [t] 1) pads.2 g' := by
  have hnew : ∀ x ∈ [l₁, l₂], ¬ taken x := by simp [h₁, h₂]
  have hd : [l₁, l₂].Nodup := by simp [hne]
  have hk : ∀ p ∈ [pad], p.kind = kind := by simpa using h.kind_eq
  have hts : g.UnfoldsAll [pad] [t] := .cons h.unfolds .nil
  have ha := addMulti_eq h.holds (List.cons_ne_nil _ _) hk expr hd hnew
  have hl : (l₁.label == l₂.label) = false :=
    beq_eq_false_iff_ne.mpr fun he => hne (Link.label_injective he)
  let n : FilterNode := ⟨expr, kind, [pad], [Pad.link l₁.label kind, Pad.link l₂.label kind]⟩
  have hg : (g.grow n).Holds (fun x => taken x ∨ x = l₁ ∨ x = l₂) (n.outputs ++ rest) :=
    (Holds.grow h.holds hk rfl hd hnew).weaken (by simp)
  have hu₁ := Unfolds.grow (n := n) (q := Pad.link l₁.label kind) h.holds.wired (by simp [n]) rfl
    (h.holds.fresh h₁) hts
  have hu₂ := Unfolds.grow (n := n) (q := Pad.link l₂.label kind) h.holds.wired (by simp [n]) rfl
    (h.holds.fresh h₂) hts
  refine .of_ok (Pad.link l₁.label kind, Pad.link l₂.label kind) _ ?_
    ⟨⟨.refl _, hg, rfl, ?_⟩, ⟨h.grows.trans (.grow g n), hg.perm (List.Perm.swap ..), rfl, ?_⟩⟩
  · rw [List.map_cons, List.map_singleton] at ha
    simp only [fork, ha]
    rfl
  · simpa [n, List.findIdx_cons] using hu₁
  · simpa [n, List.findIdx_cons, Pad.link, hl] using hu₂

end GraphBuilder

end Compositor
