import Compositor.Proofs.Order.Stable
import Compositor.Proofs.Picture.Shape

/-!
# The picture of a composition

Layers are drawn one by one over what is there. The invariant of the loop is that the
pad reached so far carries the picture drawn so far, and that no link of the layers and
steps to come is taken.
-/
namespace Compositor.Composition

open FilterGraph GraphBuilder
open Pad (links)

variable {g g₀ : FilterGraph} {taken : Link → Prop} {rest : List Pad} {b : Term} {below : Pad}

/-- One layer is drawn over what is there, with links of its own and one for the result. -/
theorem drawLayer_carries (h : g₀.Carries taken rest .video b below g) {n : Nat} {layer : Layer}
    (hfree : ∀ role, ¬ taken (.layer n role)) {l : Link} (hl : ¬ taken l)
    (hlayer : ∀ role, l ≠ .layer n role) {inputs : InputTable} {first : Int}
    (hfind : layer.clip.Finds (inputs.stream · .video) (Foreground.layerLabel (.int n)) first
      .video) (canvas : Canvas) :
    (drawLayer inputs canvas n layer below l.label).Assembles g fun pad g' =>
      ∃ top params, layer.shaped canvas
          (layer.clip.normalTerm first layer.alphaEnabled.isTruthy) = .ok top ∧
        layer.overlayParams canvas = .ok params ∧
        g₀.Carries (fun x => taken x ∨ (∃ role, x = .layer n role) ∨ x = l) rest .video
          (.apply ("overlay=" ++ params) [b, top]) pad g' := by
  refine .bind (Foreground.normalize_carries hfree h.holds hfind _) fun _ _ hclip => ?_
  refine .bind (Layer.transform_carries hfree layer canvas hclip) fun _ _ ⟨top, htop, hshape⟩ => ?_
  refine .bind_lift (layer.clean_overlayParams canvas) fun params hparams => ?_
  have hnew : ¬ (taken l ∨ ∃ role, l = .layer n role) := by
    rintro (ht | ⟨role, he⟩)
    · exact hl ht
    · exact hlayer role he
  refine (statement_both h hshape _ hnew).mono fun _ _ hc => ?_
  exact ⟨top, params, htop, hparams, hc.weaken fun x hx => by rwa [or_assoc] at hx⟩

/-- The links of some layers, of all steps, and of the final picture. -/
def Drawing (numbers : List Nat) (final : Link) (l : Link) : Prop :=
  (∃ n ∈ numbers, ∃ role, l = .layer n role) ∨ (∃ k, l = .step k) ∨ l = final

/-- Layers with different numbers are drawn over what is there. -/
theorem drawLayers_carries {inputs : InputTable} (canvas : Canvas) {first : Nat → Int}
    (final : Link) (hlayer : ∀ n role, final ≠ .layer n role) (hstep : ∀ k, final ≠ .step k)
    {layers : List (Nat × Layer)} (hdistinct : (layers.map Prod.fst).Nodup)
    (hfind : ∀ e ∈ layers, e.2.clip.Finds (inputs.stream · .video)
      (Foreground.layerLabel (.int e.1)) (first e.1) .video)
    (position : Nat) (h : g₀.Carries taken rest .video b below g)
    (hfree : ∀ n ∈ layers.map Prod.fst, ∀ role, ¬ taken (.layer n role))
    (hsteps : ∀ k, position ≤ k → ¬ taken (.step k)) (hfinal : ¬ taken final) :
    (drawLayers inputs canvas final.label position layers below).Assembles g fun pad g' =>
      ∃ t, drawn canvas first layers b = .ok t ∧
        g₀.Carries (fun x => taken x ∨ Drawing (layers.map Prod.fst) final x) rest .video t pad
          g' := by
  induction layers generalizing position taken b below g with
  | nil => exact .pure ⟨b, rfl, h.weaken fun _ => .inl⟩
  | cons e rest ih =>
    obtain ⟨n, layer⟩ := e
    have hn := hfree n List.mem_cons_self
    have hone := hfind (n, layer) List.mem_cons_self
    cases rest with
    | nil =>
      refine (drawLayer_carries h hn hfinal (hlayer n) hone canvas).mono ?_
      rintro pad g' ⟨top, params, htop, hparams, hc⟩
      refine ⟨_, ?_, hc.weaken fun x hx => hx.imp_right fun hx => ?_⟩
      · simp only [drawn, htop, hparams, bind, Except.bind]
      · rcases hx with ⟨role, he⟩ | he
        · exact .inl ⟨n, List.mem_cons_self, role, he⟩
        · exact .inr (.inr he)
    | cons e' rest =>
      have hdraw := drawLayer_carries h hn (hsteps position (Nat.le_refl _)) (by simp) hone canvas
      rw [List.map_cons, List.nodup_cons] at hdistinct
      refine .bind hdraw ?_
      rintro pad g' ⟨top, params, htop, hparams, hc⟩
      have hfree' : ∀ m ∈ (e' :: rest).map Prod.fst, ∀ role,
          ¬ (taken (.layer m role) ∨ (∃ role', Link.layer m role = .layer n role') ∨
            Link.layer m role = .step position) := by
        rintro m hm role (ht | ⟨role', he⟩ | he)
        · exact hfree m (List.mem_cons_of_mem _ hm) role ht
        · cases he
          exact hdistinct.1 hm
        · cases he
      have hsteps' : ∀ k, position + 1 ≤ k → ¬ (taken (.step k) ∨
          (∃ role', Link.step k = .layer n role') ∨ Link.step k = .step position) := by
        rintro k hk (ht | ⟨role', he⟩ | he)
        · exact hsteps k (Nat.le_of_succ_le hk) ht
        · cases he
        · cases he
          exact Nat.not_succ_le_self _ hk
      have hfinal' : ¬ (taken final ∨ (∃ role', final = .layer n role') ∨
          final = .step position) := by
        rintro (ht | ⟨role', he⟩ | he)
        · exact hfinal ht
        · exact hlayer n role' he
        · exact hstep position he
      refine (ih hdistinct.2 (fun e he => hfind e (List.mem_cons_of_mem _ he)) _ hc hfree' hsteps'
        hfinal').mono ?_
      rintro pad' g'' ⟨t, ht, hc'⟩
      refine ⟨t, ?_, hc'.weaken ?_⟩
      · simp only [drawn, htop, hparams, bind, Except.bind] at ht ⊢
        exact ht
      · rintro x ((hx | ⟨role, he⟩ | he) | ⟨m, hm, hx⟩ | hx)
        · exact .inl hx
        · exact .inr (.inl ⟨n, List.mem_cons_self, role, he⟩)
        · exact .inr (.inr (.inl ⟨position, he⟩))
        · exact .inr (.inl ⟨m, List.mem_cons_of_mem _ hm, hx⟩)
        · exact .inr (.inr hx)

/-- The links of a picture beside its alpha channel. -/
def stackLinks : List Link := [.colorSource, .alphaSource, .color, .mask, .out]

/-- A picture is split, and its two parts are put into one frame. -/
theorem stackAlpha_carries {t : Term} {pad : Pad} (h : g₀.Carries taken rest .video t pad g)
    (hfree : ∀ l ∈ stackLinks, ¬ taken l) (layout : StackLayout) :
    (stackAlpha pad layout).Assembles g
      (g₀.Carries (fun x => taken x ∨ x ∈ stackLinks) rest .video (stackedTerm layout t)) := by
  simp only [stackLinks, List.forall_mem_cons] at hfree
  obtain ⟨h₁, h₂, h₃, h₄, h₅, -⟩ := hfree
  refine .bind (fork_carries h _ .colorSource .alphaSource (by decide) h₁ h₂) ?_
  rintro ⟨colorSource, alphaSource⟩ g₁ ⟨hfirst, hsecond⟩
  refine .bind (statement_through (l := .color) hfirst _ (by simp [h₃])) fun color g₂ hcolor => ?_
  refine .bind (statement_through (l := .mask) (hsecond.turn hcolor).here _ (by simp [h₄]))
    fun mask g₃ hmask => ?_
  have hlast := statement_both (l := .out) (hcolor.since hsecond.grows) hmask (stacker layout)
    (by simp [h₅])
  cases layout <;> exact hlast.mono fun _ _ hc => hc.weaken fun x hx => by
    simpa [stackLinks, or_assoc] using hx

/-- The final picture is declared as an output, unless it is a stream of an input. -/
theorem closing_assembles {t : Term} {pad : Pad} (h : g₀.Carries taken [] .video t pad g) :
    (do
      if !(← get).isEmpty then markOutput pad
      return pad : GraphBuilder Pad).Assembles g fun p g' =>
        p = pad ∧ g'.Holds taken [] ∧ g'.Unfolds pad t := by
  by_cases he : g.isEmpty = true
  · have hnodes : g.nodes = [] := List.isEmpty_iff.mp he
    -- nothing is produced, so that the pad is no link
    have hnone : links [pad] ++ [] = [] := by
      rw [List.append_nil, List.eq_nil_iff_forall_not_mem]
      intro p hp
      have hmem := h.holds.wired.live_produced (List.mem_append_left _ hp)
      rw [h.holds.wired.produced_eq, hnodes] at hmem
      cases hmem
    refine .of_ok pad g ?_ ⟨rfl, hnone ▸ h.holds, h.unfolds⟩
    rw [declare_apply, if_pos he]
  · refine .of_ok pad (g.markOutput pad) ?_
      ⟨rfl, h.holds.markOutput, h.unfolds.mono (.markOutput g pad)⟩
    rw [declare_apply, if_neg he]

/-- The links of a picture for an encoder. -/
def PictureLink (l : Link) : Prop :=
  (∃ n role, l = .layer n role) ∨ (∃ k, l = .step k) ∨ l = .composed ∨ l ∈ stackLinks

theorem Drawing.pictureLink {numbers : List Nat} {final l : Link}
    (hf : final = .composed ∨ final = .out) (h : Drawing numbers final l) : PictureLink l := by
  rcases h with ⟨n, _, role, he⟩ | hstep | rfl
  · exact .inl ⟨n, role, he⟩
  · exact .inr (.inl hstep)
  · exact .inr (.inr (hf.imp id fun he => by simp [he, stackLinks]))

/-- The layers with their numbers, in the order in which they were added. -/
def numbered (c : Composition) : List (Nat × Layer) := c.layers.zipIdx.map fun (l, i) => (i, l)

theorem numbered_numbers (c : Composition) :
    c.numbered.map Prod.fst = List.range' 0 c.layers.length := by
  rw [numbered, List.map_map, ← List.zipIdx_map_snd 0 c.layers]
  rfl

theorem mem_numbered {c : Composition} {e : Nat × Layer} (h : e ∈ c.numbered) :
    c.layers[e.1]? = some e.2 := by
  obtain ⟨⟨l, i⟩, hi, rfl⟩ := List.mem_map.mp h
  exact List.mem_zipIdx_iff_getElem?.mp hi

theorem ordered_numbers {c : Composition} {layers : List (Nat × Layer)}
    (h : c.ordered = .ok layers) :
    (layers.map Prod.fst).Nodup ∧ ∀ e ∈ layers, c.layers[e.1]? = some e.2 := by
  have hperm : layers.Perm c.numbered := Order.sort_perm h
  refine ⟨?_, fun e he => mem_numbered (hperm.subset he)⟩
  rw [(hperm.map Prod.fst).nodup_iff, numbered_numbers]
  exact List.nodup_range'

/-- The second layer lies above the first one, or as high and was added later. -/
def Above (a b : Nat × Layer) : Prop :=
  ∃ m n, a.2.z = .int m ∧ b.2.z = .int n ∧ (m < n ∨ m = n ∧ a.1 < b.1)

/-- The height of a layer, if it is an integer. -/
def height (l : Layer) : Int :=
  match l.z with
  | .int n => n
  | _ => 0

/-- Layers with integer heights are ordered by them, and those of equal height as they
were added. -/
theorem ordered_stable {c : Composition} (hz : ∀ l ∈ c.layers, ∃ n, l.z = .int n) :
    ∃ layers, c.ordered = .ok layers ∧ layers.Perm c.numbered ∧ layers.Pairwise Above := by
  have hgood : ∀ e ∈ c.numbered, ∃ n, e.2.z = .int n := fun e he =>
    hz e.2 (List.mem_of_getElem? (mem_numbered he))
  have hless : Order.ComparesBy (fun a b => Json.less a.2.z b.2.z) (fun e => height e.2)
      fun e : Nat × Layer => ∃ n, e.2.z = .int n := by
    rintro a b ⟨m, hm⟩ ⟨n, hn⟩
    simp only [height, hm, hn]
    rfl
  have hadded : c.numbered.Pairwise fun a b => a.1 < b.1 := by
    rw [← List.pairwise_map (f := Prod.fst), numbered_numbers]
    exact List.pairwise_lt_range'
  obtain ⟨layers, hlayers, hperm, hsorted⟩ := Order.sort_stable hless hgood hadded
  refine ⟨layers, hlayers, hperm, ?_⟩
  refine hsorted.imp_of_mem fun {a b} ha hb hab => ?_
  obtain ⟨m, hm⟩ := hgood a (hperm.subset ha)
  obtain ⟨n, hn⟩ := hgood b (hperm.subset hb)
  refine ⟨m, n, hm, hn, ?_⟩
  simpa only [Order.Stands, height, hm, hn] using hab

/-- The picture that a composition stands for is what the pad of its statements carries. -/
theorem picture_assembles (c : Composition) {inputs : InputTable} (canvas : Canvas)
    (encoder : EncoderProfile) {first : Nat → Int}
    (hbackground : inputs.stream backgroundKey .video = .ok (Pad.input 0 .video))
    (hfind : ∀ (n : Nat) (l : Layer), c.layers[n]? = some l →
      l.clip.Finds (inputs.stream · .video) (Foreground.layerLabel (.int n)) (first n) .video) :
    (c.picture inputs canvas encoder).Assembles .empty fun pad g =>
      ∃ layers t, c.ordered = .ok layers ∧
        drawn canvas first layers (Foreground.streamTerm 0 .video) = .ok t ∧
        g.Holds PictureLink [] ∧ g.Unfolds pad (finished encoder t) := by
  have hstart := Foreground.source_carries holds_empty 0 .video
  refine .bind_found hbackground (.bind_lift c.clean_ordered fun layers hlayers => ?_)
  obtain ⟨hdistinct, hmem⟩ := ordered_numbers hlayers
  have hfind' := fun e he => hfind e.1 e.2 (hmem e he)
  cases hs : encoder.stacksAlpha with
  | false =>
    have hdraw := drawLayers_carries canvas .out (by simp) (by simp) hdistinct hfind' 0 hstart
      (by simp) (by simp) (by simp)
    refine .bind hdraw ?_
    rintro pad g ⟨t, ht, hc⟩
    have hpass : (pure pad : GraphBuilder Pad).Assembles g fun p g' => p = pad ∧ g' = g :=
      .pure ⟨rfl, rfl⟩
    refine .bind hpass ?_
    rintro _ _ ⟨rfl, rfl⟩
    refine (closing_assembles hc).mono ?_
    rintro _ g' ⟨rfl, hh, hu⟩
    refine ⟨layers, t, hlayers, ht, hh.weaken fun l hl => ?_, ?_⟩
    · exact (hl.resolve_left id).pictureLink (.inr rfl)
    · rwa [finished, hs]
  | true =>
    have hdraw := drawLayers_carries canvas .composed (by simp) (by simp) hdistinct hfind' 0 hstart
      (by simp) (by simp) (by simp)
    refine .bind hdraw ?_
    rintro pad g ⟨t, ht, hc⟩
    refine .bind (stackAlpha_carries hc (by simp [stackLinks, Drawing]) _) fun pad' g' hc' => ?_
    refine (closing_assembles hc').mono ?_
    rintro _ g' ⟨rfl, hh, hu⟩
    refine ⟨layers, t, hlayers, ht, hh.weaken fun l hl => ?_, ?_⟩
    · rcases hl with (hl | hl) | hl
      · exact hl.elim
      · exact hl.pictureLink (.inl rfl)
      · exact .inr (.inr (.inr hl))
    · rwa [finished, hs]

end Compositor.Composition
