import Compositor.Proofs.Fault.Values
import Compositor.Proofs.Graph.Assembly
import Compositor.Proofs.Picture.Meaning

/-!
# One layer in its shape

The statements that turn a clip into one picture and bring it into shape, as what they
carry. Each works on a graph in which no link of the layer is taken, and takes links of
the layer only.
-/
namespace Compositor

open FilterGraph GraphBuilder
open Pad (links)

variable {g g₀ g₁ g₂ : FilterGraph} {taken taken₁ taken₂ : Link → Prop} {rest : List Pad}
variable {t t₁ t₂ : Term} {pad p₁ p₂ : Pad}

/-- Going on with a stream that is found. -/
theorem GraphBuilder.Assembles.bind_found {α : Type} {x : Except Fault Pad}
    {f : Pad → GraphBuilder α} {post : α → FilterGraph → Prop} (h : x = .ok pad)
    (hf : (f pad).Assembles g post) : ((liftM x : GraphBuilder Pad) >>= f).Assembles g post := by
  rw [h]
  exact hf

/-! ## The links of one layer -/

/-- The links taken before, and some of one layer. -/
def Link.Used (taken : Link → Prop) (n : Nat) (roles : List Role) (l : Link) : Prop :=
  taken l ∨ ∃ role ∈ roles, l = .layer n role

section Layer

variable {n : Nat} {roles roles' : List Role} (hfree : ∀ role, ¬ taken (.layer n role))

theorem Link.Used.mono {l : Link} (h : roles ⊆ roles') (hl : Link.Used taken n roles l) :
    Link.Used taken n roles' l :=
  hl.imp_right fun ⟨role, hr, he⟩ => ⟨role, h hr, he⟩

theorem Link.used_nil (taken : Link → Prop) (n : Nat) : Link.Used taken n [] = taken := by
  funext l
  simp [Link.Used]

theorem Link.used_cons {role : Role} {l : Link}
    (h : Link.Used taken n roles l ∨ l = .layer n role) : Link.Used taken n (role :: roles) l := by
  rcases h with (ht | ⟨role', hr, he⟩) | he
  · exact .inl ht
  · exact .inr ⟨role', List.mem_cons_of_mem _ hr, he⟩
  · exact .inr ⟨role, List.mem_cons_self, he⟩

include hfree

theorem Link.not_used {role : Role} (h : role ∉ roles) :
    ¬ Link.Used taken n roles (.layer n role) := by
  rintro (ht | ⟨_, hr, he⟩)
  · exact hfree role ht
  · cases he
    exact h hr

theorem layer_through (h : g₀.Carries (Link.Used taken n roles) rest .video t pad g)
    (expr : String) (role : Role) (hr : role ∉ roles) :
    (statement expr [pad] (Link.layer n role).label).Assembles g
      (g₀.Carries (Link.Used taken n (role :: roles)) rest .video (.apply expr [t])) :=
  (statement_through h expr (Link.not_used hfree hr)).mono fun _ _ hc =>
    hc.weaken fun _ => Link.used_cons

theorem layer_both (h₁ : g₀.Carries (Link.Used taken n roles) rest .video t₁ p₁ g₁)
    (h₂ : g₁.Carries (Link.Used taken n roles') (links [p₁] ++ rest) .video t₂ p₂ g₂)
    (expr : String) (role : Role) (hr : role ∉ roles') :
    (statement expr [p₁, p₂] (Link.layer n role).label).Assembles g₂
      (g₀.Carries (Link.Used taken n (role :: roles')) rest .video (.apply expr [t₁, t₂])) :=
  (statement_both h₁ h₂ expr (Link.not_used hfree hr)).mono fun _ _ hc =>
    hc.weaken fun _ => Link.used_cons

end Layer

namespace Foreground

/-- Finding the streams of a clip by the names of its inputs, which are counted from
`first`. -/
def Finds (stream : String → Except Fault Pad) (f : Foreground) (label : String) (first : Int)
    (kind : StreamKind) : Prop :=
  ∀ (j : Nat) (source : String × String), (f.sources label)[j]? = some source →
    stream source.1 = .ok (Pad.input (first + j) kind)

theorem Finds.head {stream : String → Except Fault Pad} {f : Foreground} {label : String}
    {first : Int} {kind : StreamKind} (h : f.Finds stream label first kind)
    {source : String × String} {others : List (String × String)}
    (hs : f.sources label = source :: others) : stream source.1 = .ok (Pad.input first kind) := by
  have hstream := h 0 source (by rw [hs]; rfl)
  rwa [Int.natCast_zero, Int.add_zero] at hstream

theorem source_carries (h : g.Holds taken rest) (index : Int) (kind : StreamKind) :
    g.Carries taken rest kind (streamTerm index kind) (Pad.input index kind) g :=
  .input h index kind

variable {n : Nat} {roles : List Role} (hfree : ∀ role, ¬ taken (.layer n role))
include hfree

theorem matte_carries (h : g₀.Carries (Link.Used taken n roles) rest .video t pad g)
    (hg : .maskGray ∉ roles) (hb : .binaryMask ∉ roles) (soft : Bool) :
    (matte pad (layerLabel (.int n)) soft).Assembles g
      (g₀.Carries (Link.Used taken n (.binaryMask :: .maskGray :: roles)) rest .video
        (matteTerm soft t)) := by
  refine .bind (layer_through hfree h _ .maskGray hg) fun gray g' hgray => .ite ?_ ?_
  · intro hs
    refine .pure ?_
    simpa [matteTerm, hs] using hgray.weaken fun _ => Link.Used.mono (List.subset_cons_self _ _)
  · intro hs
    have hfresh : Role.binaryMask ∉ .maskGray :: roles := by simp [hb]
    refine (layer_through hfree hgray _ .binaryMask hfresh).mono fun _ _ hc => ?_
    simpa [matteTerm, hs] using hc

/-- A clip becomes one picture, and takes links of its own only. -/
theorem normalize_carries (h : g.Holds taken rest) {f : Foreground}
    {stream : String → Except Fault Pad} {first : Int}
    (hfind : f.Finds stream (layerLabel (.int n)) first .video) (alpha : Bool) :
    (f.normalize stream (layerLabel (.int n)) alpha).Assembles g
      (g.Carries (Link.Used taken n Role.clip) rest .video (f.normalTerm first alpha)) := by
  rw [← Link.used_nil taken n] at h
  have hsource := source_carries h first .video
  unfold normalize normalTerm
  cases hf : f.format with
  | webm | prores =>
    have hstream := hfind.head (by simp only [sources, hf]; rfl)
    refine .bind_found hstream (.ite ?_ ?_)
    · intro ha
      refine .pure ?_
      simpa only [ha, ↓reduceIte] using hsource.weaken fun _ => .mono (by decide)
    · intro ha
      refine (layer_through hfree hsource _ .merged (by decide)).mono fun _ _ hc => ?_
      simpa only [ha, ↓reduceIte] using hc.weaken fun _ => .mono (by decide)
  | bundle =>
    have hstream := hfind.head (by simp only [sources, hf]; rfl)
    refine .bind_found hstream (.ite ?_ ?_)
    · intro ha
      replace ha : alpha = false := by simpa using ha
      refine (layer_through hfree hsource _ .merged (by decide)).mono fun _ _ hc => ?_
      simpa only [ha, Bool.false_eq_true, ↓reduceIte] using hc.weaken fun _ => .mono (by decide)
    · intro ha
      replace ha : alpha = true := by simpa using ha
      have hmask := hfind 1 (layerLabel (.int n) ++ "_mask", f.mask.getD "") (by
        simp only [sources, hf]; rfl)
      refine .bind (layer_through hfree hsource _ .rgba (by decide)) fun rgba _ hr => ?_
      refine .bind_found hmask ?_
      refine .bind (matte_carries hfree (source_carries hr.holds (first + 1) .video) (by decide)
        (by decide) _) fun mask _ hm => ?_
      refine (layer_both hfree hr hm _ .merged (by decide)).mono fun _ _ hc => ?_
      simpa only [ha, ↓reduceIte] using hc.weaken fun _ => .mono (by decide)
  | stacked =>
    have hstream := hfind.head (by simp only [sources, hf]; rfl)
    refine .bind_found hstream ?_
    refine .bind (layer_through hfree hsource _ .top (by decide)) fun top _ ht => .ite ?_ ?_
    · intro ha
      replace ha : alpha = false := by simpa using ha
      refine (layer_through hfree ht _ .merged (by decide)).mono fun _ _ hc => ?_
      simpa only [ha, Bool.false_eq_true, ↓reduceIte] using hc.weaken fun _ => .mono (by decide)
    · intro ha
      replace ha : alpha = true := by simpa using ha
      refine .bind (layer_through hfree ht _ .topRgba (by decide)) fun rgba _ hr => ?_
      -- the lower half is cut from the same stream, which is no link and may be read again
      have hagain := source_carries hr.holds first .video
      refine .bind (layer_through hfree hagain _ .bottom (by decide)) fun bottom _ hb => ?_
      refine .bind (matte_carries hfree hb (by decide) (by decide) _) fun mask _ hm => ?_
      refine (layer_both hfree hr hm _ .merged (by decide)).mono fun _ _ hc => ?_
      simpa only [ha, ↓reduceIte] using hc.weaken fun _ => .mono (by decide)

end Foreground

/-- A term behind a filter, if there is one. -/
def Term.through (expr : Option String) (t : Term) : Term :=
  match expr with
  | some expr => .apply expr [t]
  | none => t

namespace Layer

/-! ## Expressions and the filters that they stand for -/

theorem isPositive_of_delay? {p : Placement Json} {offset : Json}
    (h : p.delay? = .ok (some offset)) : offset.isPositive = true := by
  unfold Placement.delay? at h
  split at h
  · cases h
  · rename_i start _
    split at h
    · cases h
    · cases hless : Quantity.less Quantity.zero start with
      | error e =>
        rw [hless] at h
        cases h
      | ok above =>
        rw [hless] at h
        cases above with
        | false => cases h
        | true =>
          cases h
          change Json.less (.int 0) offset = .ok true at hless
          rw [Json.isPositive, hless]

theorem through_shiftExpr {l : Layer} {expr : Option String} (h : l.shiftExpr = .ok expr)
    (t : Term) : ∃ offset, l.startOffset = .ok offset ∧ t.through expr = shifted offset t := by
  obtain ⟨delay, hd, he⟩ := bind_eq_ok.mp h
  cases he
  refine ⟨delay.getD (.real 0), by rw [startOffset, hd]; rfl, ?_⟩
  cases delay with
  | none =>
    have hzero : (Json.real 0).isPositive = false := by decide +kernel
    rw [shifted, Option.getD_none, hzero]
    rfl
  | some offset =>
    rw [shifted, Option.getD_some, isPositive_of_delay? hd]
    rfl

theorem through_cropExpr (l : Layer) (t : Term) : t.through l.cropExpr = cropped l.crop t := by
  unfold cropExpr cropped
  cases l.crop <;> rfl

theorem through_scaleExpr {l : Layer} {canvas : Canvas} {expr : Option String}
    (h : l.scaleExpr canvas = .ok expr) (t : Term) :
    ∃ params, l.size.scaleParams canvas = .ok params ∧ t.through expr = scaled params t := by
  obtain ⟨params, hp, he⟩ := bind_eq_ok.mp h
  cases he
  refine ⟨params, hp, ?_⟩
  cases params <;> rfl

theorem through_rotateExpr (l : Layer) (t : Term) :
    t.through l.rotateExpr = rotated l.rotation t := by
  unfold rotateExpr rotated
  split <;> rfl

theorem through_opacityExpr (l : Layer) (t : Term) :
    t.through l.opacityExpr = faded l.opacity l.alphaEnabled.isTruthy t := by
  unfold opacityExpr faded
  split
  · rfl
  · cases l.alphaEnabled.isTruthy
    · simp [Term.through, ← String.append_assoc]
    · simp [Term.through]

/-! ## Stages -/

variable {n : Nat} {roles : List Role} (hfree : ∀ role, ¬ taken (.layer n role))
include hfree

theorem stage_carries (h : g₀.Carries (Link.Used taken n roles) rest .video t pad g)
    (expr : Option String) (role : Role) (hr : role ∉ roles) :
    (stage expr pad (Link.layer n role).label).Assembles g
      (g₀.Carries (Link.Used taken n (role :: roles)) rest .video (t.through expr)) := by
  cases expr with
  | some expr => exact layer_through hfree h expr role hr
  | none => exact .pure (h.weaken fun _ => .mono (List.subset_cons_self _ _))

/-- A picture is brought into the shape that the layer gives it. -/
theorem transform_carries (l : Layer) (canvas : Canvas)
    (h : g₀.Carries (Link.Used taken n Role.clip) rest .video t pad g) :
    (l.transform (Foreground.layerLabel (.int n)) pad canvas).Assembles g fun pad g' =>
      ∃ t', l.shaped canvas t = .ok t' ∧
        g₀.Carries (fun x => taken x ∨ ∃ role, x = .layer n role) rest .video t' pad g' := by
  refine .bind_lift l.clean_shiftExpr fun shift hshift => ?_
  obtain ⟨offset, ho, hshifted⟩ := through_shiftExpr hshift t
  refine .bind (stage_carries hfree h shift .timed (by decide)) fun _ _ h => ?_
  refine .bind (stage_carries hfree h l.cropExpr .crop (by decide)) fun _ _ h => ?_
  refine .bind_lift (l.clean_scaleExpr canvas) fun scale hscale => ?_
  obtain ⟨params, hp, hscaled⟩ := through_scaleExpr hscale (cropped l.crop (shifted offset t))
  refine .bind (stage_carries hfree h scale .scale (by decide)) fun _ _ h => ?_
  refine .bind (stage_carries hfree h l.rotateExpr .rotate (by decide)) fun _ _ h => ?_
  refine (stage_carries hfree h l.opacityExpr .opacity (by decide)).mono fun _ _ h => ?_
  rw [through_opacityExpr, through_rotateExpr, through_cropExpr, hshifted, hscaled] at h
  refine ⟨_, ?_, h.weaken fun x hx => hx.imp_right fun ⟨role, _, he⟩ => ⟨role, he⟩⟩
  rw [shaped, ho]
  simp only [bind, Except.bind, hp]

end Layer

end Compositor
