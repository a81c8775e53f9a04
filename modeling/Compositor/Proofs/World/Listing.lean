import Compositor.Proofs.Text.Pieces
import Compositor.Proofs.World.Consulting

/-!
# Names in listings

The media tool lists what it can do line by line: flags, then a name, then a description. The
text of a listing is searched for a name, and a search finds more than the names of entries:
also parts of longer names, and words of descriptions. It misses no entry, and where a name
stands nowhere but in its column, it finds the entries and nothing else.
-/
namespace Compositor

/-! ## Entries of a listing -/

namespace Listing

def lines (listing : String) : List (List Char) := Text.pieces (· == '\n') listing.toList

/-- The words of a line: what stands between its blanks. -/
def words (line : List Char) : List (List Char) :=
  (Text.pieces Text.isBlank line).filter fun word => !word.isEmpty

/-- The names of the entries: the second word of each line. -/
def entries (listing : String) : List String :=
  (lines listing).filterMap fun line => (words line)[1]?.map String.ofList

/-- A name that could be a word: it is not empty and has no blank. -/
def IsWord (name : String) : Prop :=
  name ≠ "" ∧ ∀ c ∈ name.toList, Text.isBlank c = false

instance : DecidablePred IsWord := fun name =>
  let _ := List.decidableBAll (fun c => Text.isBlank c = false) name.toList
  inferInstanceAs (Decidable (_ ∧ _))

variable {listing name : String}

theorem infix_of_word {line word : List Char} (hline : line ∈ lines listing)
    (hword : word ∈ words line) : word <:+: listing.toList :=
  (Text.infix_of_mem_pieces (List.mem_filter.mp hword).1).trans
    (Text.infix_of_mem_pieces hline)

/-- A search misses no entry. -/
theorem infix_of_entry (h : name ∈ entries listing) : name.toList <:+: listing.toList := by
  obtain ⟨line, hline, hsecond⟩ := List.mem_filterMap.mp h
  obtain ⟨word, hword, rfl⟩ := Option.map_eq_some_iff.mp hsecond
  rw [String.toList_ofList]
  exact infix_of_word hline (List.mem_of_getElem? hword)

/-- What a search for a word finds is a part of a word, in whatever column. -/
theorem infix_iff_in_word (hname : IsWord name) : name.toList <:+: listing.toList ↔
    ∃ line ∈ lines listing, ∃ word ∈ words line, name.toList <:+: word := by
  constructor
  · intro h
    have hfeed : ∀ c ∈ name.toList, (c == '\n') = false := fun c hc => by
      refine beq_eq_false_iff_ne.mpr fun hnewline => ?_
      have hblank := hname.2 c hc
      rw [hnewline] at hblank
      cases hblank
    obtain ⟨line, hline, hinline⟩ := Text.exists_piece_of_infix hfeed h
    obtain ⟨word, hword, hinword⟩ := Text.exists_piece_of_infix hname.2 hinline
    refine ⟨line, hline, word, List.mem_filter.mpr ⟨hword, ?_⟩, hinword⟩
    cases word with
    | nil => exact absurd (String.toList_eq_nil_iff.mp (List.infix_nil.mp hinword)) hname.1
    | cons c word => rfl
  · rintro ⟨line, hline, word, hword, hinword⟩
    exact hinword.trans (infix_of_word hline hword)

/-- Where a name stands in a listing, it stands as the name of an entry. -/
def Unmistakable (listing name : String) : Prop :=
  ∀ line ∈ lines listing, ∀ (column : Nat) (word : List Char), (words line)[column]? = some word →
    name.toList <:+: word → column = 1 ∧ word = name.toList

/-- Then a search finds the entries and nothing else. -/
theorem Unmistakable.infix_iff (h : Unmistakable listing name) (hname : IsWord name) :
    name.toList <:+: listing.toList ↔ name ∈ entries listing := by
  refine ⟨fun hinfix => ?_, infix_of_entry⟩
  obtain ⟨line, hline, word, hword, hinword⟩ := (infix_iff_in_word hname).mp hinfix
  obtain ⟨column, hcolumn⟩ := List.getElem?_of_mem hword
  obtain ⟨rfl, rfl⟩ := h line hline column word hcolumn hinword
  exact List.mem_filterMap.mpr ⟨line, hline, by rw [hcolumn, Option.map_some, String.ofList_toList]⟩

end Listing

/-! ## Answers of the tool -/

namespace RunReply

/-- The listing that a tool prints when it succeeds. -/
def listing? : RunReply → Option String
  | .finished code stdout _ => if code == 0 then some stdout else none
  | _ => none

/-- The text of the listing has the name somewhere. -/
def Finds (reply : RunReply) (name : String) : Prop :=
  ∃ listing ∈ reply.listing?, name.toList <:+: listing.toList

/-- The listing has an entry with exactly that name. -/
def Lists (reply : RunReply) (name : String) : Prop :=
  ∃ listing ∈ reply.listing?, name ∈ Listing.entries listing

variable {reply : RunReply} {name : String}

theorem listed_iff : Context.listed name reply = true ↔ reply.Finds name := by
  cases reply with
  | finished code stdout stderr =>
    by_cases hcode : (code == 0) = true <;>
      simp [Context.listed, Context.mentions, Finds, listing?, hcode]
  | _ => simp [Context.listed, Finds, listing?]

theorem Lists.finds (h : reply.Lists name) : reply.Finds name := by
  obtain ⟨listing, hlisting, hentry⟩ := h
  exact ⟨listing, hlisting, Listing.infix_of_entry hentry⟩

/-- The listing has the name nowhere but as the name of an entry. -/
def Unmistakable (reply : RunReply) (name : String) : Prop :=
  ∀ listing ∈ reply.listing?, Listing.Unmistakable listing name

theorem Unmistakable.finds_iff (h : reply.Unmistakable name) (hname : Listing.IsWord name) :
    reply.Finds name ↔ reply.Lists name := by
  constructor
  · rintro ⟨listing, hlisting, hinfix⟩
    exact ⟨listing, hlisting, ((h listing hlisting).infix_iff hname).mp hinfix⟩
  · exact Lists.finds

end RunReply

end Compositor
