import Compositor.Download
import Compositor.Proofs.World.Steps

/-!
# What actions leave alone

`x.Keeps view`: the action `x` leaves a view of the world as it is, whether it succeeds or
not. The rules follow the structure of actions. Files, temporary names and messages change
often; a view that hides them is kept by whatever only stores files. A view that hides
requests and manifests as well is kept by a download.
-/
namespace Compositor

variable {α β γ : Type}

/-- A view that shows nothing of files, temporary names and messages. -/
structure World.HidesFiles (view : World → γ) : Prop where
  files : ∀ w files, view { w with files } = view w
  names : ∀ w names, view { w with names } = view w
  message : ∀ (w : World) level text,
    view { w with events := w.events ++ [.log level text] } = view w

/-- A view that shows nothing of requests, answers of servers and manifests either. -/
structure World.HidesTransfers (view : World → γ) : Prop extends HidesFiles view where
  transfer : ∀ (w : World) (clock : Float) (exchanges : Replies) (events : List Event),
    (∀ e ∈ events, e.isTransfer = true) →
    view { w with clock, exchanges, events := w.events ++ events } = view w
  manifests : ∀ w manifests, view { w with manifests } = view w

namespace Act

def Keeps (x : Act α) (view : World → γ) : Prop := ∀ w, view (x w).2 = view w

namespace Keeps

variable {view : World → γ} {x : Act α}

theorem pure (a : α) : (Pure.pure a : Act α).Keeps view := fun _ => rfl

theorem fail (e : Fault) : (Act.fail e : Act α).Keeps view := fun _ => rfl

theorem ofExcept (r : Except Fault α) : (Act.ofExcept r).Keeps view := by
  intro w
  cases r <;> rfl

theorem look : (get : Act World).Keeps view := fun _ => rfl

theorem change {f : World → World} (h : ∀ w, view (f w) = view w) :
    (modify f : Act Unit).Keeps view := h

theorem bind {f : α → Act β} (hx : x.Keeps view) (hf : ∀ a, (f a).Keeps view) :
    (x >>= f).Keeps view := fun w =>
  bind_stays (P := fun w' => view w' = view w) (hx w) fun a w' h => (hf a w').trans h

theorem ite {p : Prop} [Decidable p] {y : Act α} (hx : x.Keeps view) (hy : y.Keeps view) :
    (if p then x else y).Keeps view := by
  split
  · exact hx
  · exact hy

theorem each {x : α → Act Unit} (hx : ∀ a, (x a).Keeps view) (l : List α) :
    (forIn l PUnit.unit fun a _ => do x a; Pure.pure (ForInStep.yield PUnit.unit)).Keeps view := by
  induction l with
  | nil => exact .pure _
  | cons a l ih =>
    rw [List.forIn_cons]
    refine .bind (.bind (hx a) fun _ => .pure _) fun step => ?_
    cases step with
    | done => exact .pure _
    | yield => exact ih

theorem manifestId (id : ManifestId) : (Manifest.ofId id).Keeps view := by
  refine .bind .look fun w => ?_
  split
  · exact .pure _
  · exact .fail _

/-! ## Actions that store files -/

section

variable (h : World.HidesFiles view)
include h

theorem log (level : LogLevel) (text : String) : (log level text).Keeps view := by
  intro w
  rw [log_apply]
  unfold World.messages
  split
  · exact h.message w level text
  · rw [List.append_nil]

theorem claim (make : FileTree → String → Except SystemError FileTree)
    (pathFor : String → Except Fault String) (tries : Nat) :
    (claim make pathFor tries).Keeps view := by
  induction tries with
  | zero => exact .fail _
  | succ tries ih =>
    have hname : freshName.Keeps view := fun w => h.names w (w.names + 1)
    refine .bind hname fun name => .bind (.ofExcept _) fun path => .bind .look fun w => ?_
    split
    · exact .bind (.change fun w => h.files w _) fun _ => .pure _
    · exact ih
    · exact .fail _

theorem freshFile (directory : String) (before after : Json) :
    (freshFile directory before after).Keeps view :=
  .bind .look fun _ => .bind (.bind .look fun _ => .pure _) fun _ => .claim h _ _ _

theorem store (url path : String) (response : Response) :
    (Download.store url path response).Keeps view := by
  refine .bind .look fun w => ?_
  split
  · exact .fail _
  · refine .bind (.change fun w => h.files w _) fun _ => ?_
    split
    · exact .fail _
    · exact .log h _ _

/-- A download is a request whose answer is stored. -/
theorem toFile {url : String} {timeout : Json}
    (hsend : (send ⟨"GET", url, [], [], .none, timeout⟩).Keeps view) {makePath : Json → Act String}
    (hpath : ∀ ext, (makePath ext).Keeps view) (default : Json) :
    (Download.toFile url makePath default timeout).Keeps view := by
  have hfetch : (Download.fetch url timeout).Keeps view := by
    refine .bind hsend fun reply => ?_
    split
    · exact .fail _
    · split
      · exact .fail _
      · exact .pure _
  exact .bind (.log h _ _) fun _ => .bind hfetch fun _ => .bind (.ofExcept _) fun ext =>
    .bind (hpath ext) fun _ => .bind (.store h _ _ _) fun _ => .pure _

end

/-! ## Downloads -/

variable (h : World.HidesTransfers view)
include h

theorem send (r : Request) : (send r).Keeps view := by
  intro w
  rcases send_cases r w with ⟨e, hsend⟩ | ⟨url, -, hsend⟩
  · rw [hsend]
  · rw [hsend]
    exact h.transfer w _ _ _ fun e he => Sending.transfers_of_mem_record he

theorem download (url : String) {makePath : Json → Act String}
    (hpath : ∀ ext, (makePath ext).Keeps view) (default timeout : Json) :
    (Download.toFile url makePath default timeout).Keeps view :=
  .toFile h.toHidesFiles (.send h _) hpath default

theorem manifestPath (id : ManifestId) (suffix start : Json) :
    (Manifest.path id suffix start).Keeps view :=
  .bind (.manifestId id) fun _ => .bind (.freshFile h.toHidesFiles _ _ _) fun _ =>
    .bind (.change fun w => h.manifests w _) fun _ => .pure _

theorem manifestRelease (id : ManifestId) : (Manifest.release id).Keeps view := by
  have hdelete (path : String) : (Manifest.deleteFile path).Keeps view := by
    intro w
    rw [Manifest.deleteFile, getThe_bind]
    split
    · cases w.files.remove path with
      | ok files => exact h.files w files
      | error e => exact Keeps.log h.toHidesFiles _ _ w
    · rfl
  exact .bind (.manifestId id) fun m => .bind (.each hdelete m.paths) fun _ =>
    .change fun w => h.manifests w _

end Keeps

end Act

end Compositor
