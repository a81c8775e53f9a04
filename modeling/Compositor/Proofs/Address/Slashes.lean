import Compositor.Address.Target
import Compositor.Proofs.World.Naming
import Mathlib.Data.List.Chain
import Mathlib.Data.List.TakeWhile

/-!
# Two slashes in a row

An address that a request can be sent to has two slashes in a row, and the path of a file
below a directory never has. So the path of a stored file is no address that can be
fetched. The scheme of such an address ends in front of its first dot.
-/
namespace Compositor

/-- No two slashes stand next to each other. -/
def Path.IsSpaced (s : String) : Prop := s.toList.IsChain fun a b => a = '/' → b ≠ '/'

namespace Path

theorem not_spaced {s : String} {before after : List Char}
    (h : s.toList = before ++ '/' :: '/' :: after) : ¬ IsSpaced s := fun hspaced =>
  List.isChain_iff_forall_rel_of_append_cons_cons.mp hspaced h rfl rfl

theorem IsPlain.spaced {s : String} (h : IsPlain s) : IsSpaced s := by
  rw [IsSpaced, List.isChain_iff_forall_rel_of_append_cons_cons]
  rintro a b before after heq rfl
  exact absurd (by simp [heq]) h

theorem spaced_append {s t : String} (hs : IsSpaced s) (ht : IsSpaced t)
    (hbetween : s.toList.getLast? = some '/' → t.toList.head? ≠ some '/') : IsSpaced (s ++ t) := by
  rw [IsSpaced, String.toList_append, List.isChain_append]
  refine ⟨hs, ht, fun a ha b hb hslash hslash' => ?_⟩
  rw [hslash] at ha
  rw [hslash'] at hb
  exact hbetween ha hb

theorem IsPlain.head?_ne {s : String} (h : IsPlain s) : s.toList.head? ≠ some '/' :=
  fun hhead => h (List.mem_of_head? hhead)

theorem IsPlain.getLast?_ne {s : String} (h : IsPlain s) : s.toList.getLast? ≠ some '/' :=
  fun hlast => h (List.mem_of_getLast? hlast)

/-- Names in a row, with one slash between two of them. -/
theorem spaced_intercalate {names : List String} (h : ∀ n ∈ names, IsPlain n ∧ n ≠ "") :
    IsSpaced (String.intercalate "/" names) ∧
      (String.intercalate "/" names).toList.head? ≠ some '/' := by
  have hslash : IsSpaced "/" := List.isChain_singleton _
  induction names with
  | nil => exact ⟨List.isChain_nil, nofun⟩
  | cons n names ih =>
    obtain ⟨⟨hplain, hempty⟩, hrest⟩ := List.forall_mem_cons.mp h
    obtain ⟨hspaced, hhead⟩ := ih hrest
    cases names with
    | nil =>
      rw [String.intercalate_singleton]
      exact ⟨hplain.spaced, hplain.head?_ne⟩
    | cons m names =>
      rw [String.intercalate_cons_of_ne_nil (List.cons_ne_nil m names)]
      refine ⟨spaced_append (spaced_append hplain.spaced hslash fun hlast => ?_) hspaced
        fun _ => hhead, ?_⟩
      · exact absurd hlast hplain.getLast?_ne
      · have hne : n.toList ≠ [] := fun hn => hempty (String.toList_eq_nil_iff.mp hn)
        rw [String.toList_append, String.toList_append, List.append_assoc,
          List.head?_append_of_ne_nil _ hne]
        exact hplain.head?_ne

theorem not_mem_of_mem_splitOn {cs part : List Char} (h : part ∈ cs.splitOn '/') : '/' ∉ part := by
  induction cs generalizing part with
  | nil =>
    rw [List.splitOn_nil, List.mem_singleton] at h
    exact h ▸ List.not_mem_nil
  | cons c cs ih =>
    rw [List.splitOn_cons_eq_if_modifyHead] at h
    split at h
    · rcases List.mem_cons.mp h with rfl | h
      · exact List.not_mem_nil
      · exact ih h
    · rename_i hc
      cases hsplit : cs.splitOn '/' with
      | nil => exact absurd hsplit (List.splitOn_ne_nil _ _)
      | cons first rest =>
        rw [hsplit] at h
        rcases List.mem_cons.mp h with rfl | h
        · have hfirst := ih (hsplit ▸ List.mem_cons_self)
          rw [List.mem_cons, not_or]
          exact ⟨fun heq => hc (beq_iff_eq.mpr heq.symm), hfirst⟩
        · exact ih (hsplit ▸ List.mem_cons_of_mem _ h)

theorem plain_of_mem_components {path c : String} (h : c ∈ components path) :
    IsPlain c ∧ c ≠ "" := by
  obtain ⟨hmem, hkept⟩ := List.mem_filter.mp h
  obtain ⟨part, hpart, rfl⟩ := List.mem_map.mp hmem
  refine ⟨?_, fun hempty => by simp [hempty] at hkept⟩
  rw [IsPlain, String.toList_ofList]
  exact not_mem_of_mem_splitOn hpart

/-- A step upward takes a name away, and any other one stands in the path. -/
theorem mem_of_mem_foldl (out names : List String) {n : String}
    (h : n ∈ names.foldl (fun out name => if name == ".." then out.dropLast else out ++ [name])
      out) : n ∈ out ∨ n ∈ names := by
  induction names generalizing out with
  | nil => exact .inl h
  | cons m names ih =>
    rcases ih _ h with h | h
    · dsimp only at h
      split at h
      · exact .inl (List.dropLast_subset out h)
      · rcases List.mem_append.mp h with h | h
        · exact .inl h
        · exact .inr (List.mem_singleton.mp h ▸ List.mem_cons_self)
    · exact .inr (List.mem_cons_of_mem _ h)

theorem spaced_normal (path : String) : IsSpaced (normal path) := by
  obtain ⟨hspaced, hhead⟩ := spaced_intercalate fun n hn =>
    plain_of_mem_components ((mem_of_mem_foldl [] (components path) hn).resolve_left
      List.not_mem_nil)
  have hstart : IsSpaced (if path.startsWith "/" then "/" else "") := by
    split
    · exact List.isChain_singleton _
    · exact List.isChain_nil
  exact spaced_append hstart hspaced fun _ => hhead

theorem spaced_join {directory file : String} (hdirectory : IsSpaced directory)
    (hfile : IsPlain file) : IsSpaced (join directory file) := by
  unfold join below
  split
  · exact hfile.spaced
  · split
    · exact spaced_append hdirectory hfile.spaced fun _ => hfile.head?_ne
    · rename_i h
      refine spaced_append (spaced_append hdirectory (by unfold IsSpaced; simp) ?_) hfile.spaced
        fun _ => hfile.head?_ne
      intro hlast
      rw [Bool.or_eq_true, not_or] at h
      obtain ⟨front, hfront⟩ := List.getLast?_eq_some_iff.mp hlast
      have hends : directory.endsWith "/" = true := endsWith_iff.mpr ⟨front, hfront.symm⟩
      exact absurd hends h.2

theorem spaced_joinFrom {roots : List Root} {directory file : String}
    (hdirectory : IsSpaced directory) (hfile : IsPlain file) :
    IsSpaced (joinFrom roots directory file) := by
  unfold joinFrom
  split
  · exact hfile.spaced
  · exact spaced_join hdirectory hfile

end Path

namespace Address.Target

/-- The scheme of an address with a location ends in a colon, which two slashes follow. -/
theorem divide_slashes {cs scheme location : List Char}
    (hscheme : (divide cs).scheme = some scheme)
    (hlocation : (divide cs).authority = some location) :
    ∃ before after, cs = before ++ '/' :: '/' :: after := by
  by_cases hstart : startsWithScheme cs = true
  · have hcs := List.take_append_drop (cs.takeWhile fun c => isSchemeChar c).length cs
    unfold divide at hscheme hlocation
    simp only [hstart, if_pos] at hscheme hlocation
    cases hword : cs.takeWhile fun c => isSchemeChar c with
    | nil => simp [hword] at hscheme
    | cons first word =>
      simp only [hword] at hscheme hlocation hcs
      cases hdrop : cs.drop (first :: word).length with
      | nil =>
        simp only [hdrop] at hscheme
        cases hscheme
      | cons mark rest =>
        simp only [hdrop] at hscheme hlocation hcs
        by_cases hmark : mark = ':'
        · subst hmark
          by_cases hfirst : first.isAlpha = true
          · simp only [hfirst, if_pos] at hlocation
            split at hlocation
            · exact ⟨_ ++ [':'], _, by rw [← hcs, List.append_assoc]; rfl⟩
            · cases hlocation
          · simp [hfirst] at hscheme
        · simp [hmark] at hscheme
  · -- an address without a scheme is divided behind two slashes, where no scheme can start
    unfold divide at hscheme
    simp [hstart, isSchemeChar] at hscheme

theorem read_nowhere (url : String) (isKnown : Bool) :
    Authority.read url isKnown [] = .ok ([], none) := by
  cases isKnown <;> rfl

theorem prepareHttp_scheme {url target : String} {fields : List (String × String)}
    (h : prepareHttp url fields = .ok target) :
    ∃ scheme, (divide url.toList).scheme = some scheme := by
  unfold prepareHttp at h
  dsimp only at h
  obtain ⟨⟨host, number⟩, -, h⟩ := bind_eq_ok.mp h
  cases hscheme : (divide url.toList).scheme with
  | none =>
    rw [hscheme] at h
    cases h
  | some scheme => exact ⟨scheme, rfl⟩

theorem prepareHttp_slashes {url target : String} {fields : List (String × String)}
    (h : prepareHttp url fields = .ok target) :
    ∃ before after, url.toList = before ++ '/' :: '/' :: after := by
  obtain ⟨scheme, hscheme⟩ := prepareHttp_scheme h
  cases hlocation : (divide url.toList).authority with
  | some location => exact divide_slashes hscheme hlocation
  | none =>
    unfold prepareHttp at h
    dsimp only at h
    obtain ⟨⟨host, number⟩, hread, h⟩ := bind_eq_ok.mp h
    rw [hlocation, Option.getD_none, show Authority.splitCredentials [] = ([], []) from rfl,
      read_nowhere] at hread
    cases hread
    rw [hscheme] at h
    cases h

theorem trimmed_suffix (url : String) : (trimmed url).toList <:+ url.toList := by
  rw [trimmed, String.toList_ofList]
  exact List.dropWhile_suffix _

/-- Only an address of the web can be requested. -/
theorem prepare_http {url target : String} {fields : List (String × String)}
    (h : prepare url fields = .ok target) :
    ∃ target', prepareHttp (trimmed url) fields = .ok target' := by
  unfold prepare at h
  dsimp only at h
  generalize trimmed url = kept at h
  split at h
  · rename_i hother
    rw [Bool.and_eq_true, Bool.not_eq_true'] at hother
    have hhttp (scheme : String) (hscheme : "http".toList <+: scheme.toList) :
        (Text.lower kept).startsWith scheme = false := by
      rw [String.startsWith_string_eq_false_iff] at hother ⊢
      exact fun hstart => hother.2 (hscheme.trans hstart)
    change (if _ then _ else _) = _ at h
    rw [hhttp "http://" (by decide), hhttp "https://" (by decide)] at h
    cases h
  · obtain ⟨target', htarget, -⟩ := bind_eq_ok.mp h
    exact ⟨target', htarget⟩

/-- An address to which a request is sent has two slashes in a row. -/
theorem prepare_slashes {url target : String} {fields : List (String × String)}
    (h : prepare url fields = .ok target) : ¬ Path.IsSpaced url := by
  obtain ⟨target', htarget⟩ := prepare_http h
  obtain ⟨blank, hblank⟩ := trimmed_suffix url
  obtain ⟨before, after, hslashes⟩ := prepareHttp_slashes htarget
  have hwhole : url.toList = (blank ++ before) ++ '/' :: '/' :: after := by
    rw [← hblank, hslashes, List.append_assoc]
  exact Path.not_spaced hwhole

/-- A scheme ends in a colon, and there is no dot in it. -/
theorem divide_colon {cs scheme : List Char} (hscheme : (divide cs).scheme = some scheme) :
    ∃ word rest, cs = word ++ ':' :: rest ∧ '.' ∉ word := by
  by_cases hstart : startsWithScheme cs = true
  · unfold startsWithScheme at hstart
    split at hstart
    · simp [divide, startsWithScheme, isSchemeChar] at hscheme
    · rename_i first rest _
      dsimp only at hstart
      rw [Bool.and_eq_true, beq_iff_eq] at hstart
      obtain ⟨tail, htail⟩ := List.head?_eq_some_iff.mp hstart.2
      have hcs := List.prefix_append_drop (List.takeWhile_prefix (l := first :: rest)
        fun c => c.isAlphanum || c == '+' || c == '-')
      rw [htail] at hcs
      exact ⟨_, tail, hcs, fun hdot => absurd (List.mem_takeWhile_imp hdot) (by decide)⟩
    · cases hstart
  · unfold divide at hscheme
    simp [hstart, isSchemeChar] at hscheme

/-- In front of the first dot of an address to which a request is sent its scheme ends. -/
theorem prepare_colon {url target : String} {fields : List (String × String)}
    (h : prepare url fields = .ok target) :
    ∃ front rest, url.toList = front ++ ':' :: rest ∧ '.' ∉ front := by
  obtain ⟨target', htarget⟩ := prepare_http h
  obtain ⟨scheme, hscheme⟩ := prepareHttp_scheme htarget
  obtain ⟨word, rest, hkept, hword⟩ := divide_colon hscheme
  rw [trimmed, String.toList_ofList] at hkept
  refine ⟨url.toList.takeWhile Text.isBlank ++ word, rest, ?_, ?_⟩
  · rw [List.append_assoc, ← hkept, List.takeWhile_append_dropWhile]
  · rw [List.mem_append, not_or]
    exact ⟨fun hdot => absurd (List.mem_takeWhile_imp hdot) (by decide), hword⟩

end Address.Target

end Compositor
