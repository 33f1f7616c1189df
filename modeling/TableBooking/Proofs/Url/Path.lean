import TableBooking.Proofs.Text.Pieces
import TableBooking.Proofs.Url.Percent

/-!
Paths that a text is written into behind a slash. A text without backslashes, percent signs, ends
of the path and dot segments comes out encoded and otherwise as it is, whatever stands before it.
-/
namespace TableBooking.Url

/-- The characters that end a path, stand for others in it or are left out of it. -/
def pathMarks : List Char :=
  ['\\', '?', '#', '%', '\t', '\n', '\r']

/-- A text that means itself in a path: it has none of the marks, and none of its segments is a dot
segment. -/
structure Verbatim (s : List Char) : Prop where
  plain : ∀ c ∈ s, c ∉ pathMarks
  still : ∀ piece ∈ Text.pieces '/' s, piece ≠ ['.'] ∧ piece ≠ ['.', '.']

instance (s : List Char) : Decidable (Verbatim s) :=
  -- not by going through all characters there are
  haveI : Decidable (∀ c ∈ s, c ∉ pathMarks) := List.decidableBAll _ s
  decidable_of_iff
    ((∀ c ∈ s, c ∉ pathMarks) ∧ ∀ piece ∈ Text.pieces '/' s, piece ≠ ['.'] ∧ piece ≠ ['.', '.'])
    ⟨fun ⟨plain, still⟩ => ⟨plain, still⟩, fun ⟨plain, still⟩ => ⟨plain, still⟩⟩

variable {s t : List Char}

theorem Verbatim.not_mem (h : Verbatim s) {c : Char} (mark : c ∈ pathMarks) : c ∉ s :=
  fun there => h.plain c there mark

theorem Verbatim.separated (hs : Verbatim s) (ht : Verbatim t) : Verbatim (s ++ '/' :: t) where
  plain := by
    intro c hc
    rcases List.mem_append.1 hc with before | behind
    · exact hs.plain c before
    · rcases List.mem_cons.1 behind with rfl | behind
      · decide
      · exact ht.plain c behind
  still := by
    rw [Text.pieces_separated]
    intro piece hp
    rcases List.mem_append.1 hp with before | behind
    · exact hs.still piece before
    · exact ht.still piece behind

def Still (segment : List Char) : Prop :=
  dotsShown segment ≠ ['.'] ∧ dotsShown segment ≠ ['.', '.']

theorem Verbatim.still_segments (h : Verbatim s) :
    ∀ segment ∈ (Text.pieces '/' s).map (percentEncode inPathSet), Still segment := by
  intro segment there
  obtain ⟨piece, hp, rfl⟩ := List.mem_map.1 there
  have bare : '%' ∉ piece := fun inside => h.not_mem (by decide) (Text.mem_of_mem_pieces hp inside)
  obtain ⟨noDot, noDots⟩ := h.still piece hp
  constructor
  · exact fun dot => noDot ((dotsShown_percentEncode_eq bare (by decide) (by decide)).1 dot)
  · exact fun dots => noDots ((dotsShown_percentEncode_eq bare (by decide) (by decide)).1 dots)

theorem resolve_of_still {segments : List (List Char)} (h : ∀ segment ∈ segments, Still segment)
    (done : List (List Char)) : resolve done segments = done ++ segments := by
  induction segments generalizing done with
  | nil => simp [resolve]
  | cons segment segments ih =>
    rw [List.forall_mem_cons] at h
    obtain ⟨⟨noDot, noDots⟩, rest⟩ := h
    unfold resolve
    simp only [noDot, noDots, if_false, or_self, and_false]
    rw [ih rest, List.append_assoc]
    rfl

/-- Segments that are not followed come behind what the ones before them lead to. -/
theorem resolve_append (segments done : List (List Char)) :
    ∃ before, ∀ rest, rest ≠ [] → (∀ segment ∈ rest, Still segment) →
      resolve done (segments ++ rest) = before ++ rest := by
  induction segments generalizing done with
  | nil => exact ⟨done, fun rest _ still => resolve_of_still still done⟩
  | cons segment segments ih =>
    obtain ⟨before, found⟩ := ih
      (if dotsShown segment = ['.', '.'] then climb done
        else if dotsShown segment = ['.'] then done
        else done ++ [segment])
    refine ⟨before, fun rest some still => ?_⟩
    have more : (segments ++ rest).isEmpty = false := by
      cases segments <;> cases rest <;> simp_all
    rw [List.cons_append]
    unfold resolve
    simp only [more, Bool.false_eq_true, false_and, if_false]
    exact found rest some still

theorem intercalate_pieces (s : List Char) :
    List.intercalate ['/'] ((Text.pieces '/' s).map (percentEncode inPathSet)) =
      percentEncode inPathSet s := by
  induction s with
  | nil => rfl
  | cons c s ih =>
    unfold Text.pieces
    by_cases here : c = '/'
    · subst here
      have some : (Text.pieces '/' s).map (percentEncode inPathSet) ≠ [] := by
        simpa using Text.pieces_ne_nil '/' s
      rw [if_pos rfl, List.map_cons, List.intercalate_cons_of_ne_nil some, ih]
      rfl
    · rw [if_neg here]
      have front : percentEncode inPathSet (c :: s) =
          percentEncode inPathSet [c] ++ percentEncode inPathSet s :=
        percentEncode_append inPathSet [c] s
      cases split : Text.pieces '/' s with
      | nil => exact absurd split (Text.pieces_ne_nil '/' s)
      | cons piece others =>
        have first : percentEncode inPathSet (c :: piece) =
            percentEncode inPathSet [c] ++ percentEncode inPathSet piece :=
          percentEncode_append inPathSet [c] piece
        rw [front, ← ih, split]
        cases others with
        | nil => simp [first]
        | cons next others => simp [first, List.intercalate_cons_cons]

theorem segments_separated (special : Bool) (s t : List Char) :
    segments special (s ++ '/' :: t) = segments special s ++ segments special t := by
  unfold segments
  cases special with
  | false => exact Text.pieces_separated '/' s t
  | true =>
    simp only [if_true, List.map_append, List.map_cons]
    exact Text.pieces_separated '/' _ _

theorem Verbatim.segments (h : Verbatim s) (special : Bool) :
    Url.segments special s = Text.pieces '/' s := by
  unfold Url.segments
  cases special with
  | false => rfl
  | true =>
    have same : s.map (fun c => if c = '\\' then '/' else c) = s := by
      refine (List.map_congr_left fun c hc => ?_).trans s.map_id
      refine if_neg ?_
      rintro rfl
      exact h.not_mem (by decide) hc
    rw [if_pos rfl, same]

theorem readPath_verbatim (special : Bool) (h : Verbatim s) :
    readPath special s = '/' :: percentEncode inPathSet s := by
  unfold readPath
  rw [h.segments, resolve_of_still h.still_segments, List.nil_append, intercalate_pieces]

theorem intercalate_append {before rest : List (List Char)} (some : before ≠ [])
    (more : rest ≠ []) : List.intercalate ['/'] (before ++ rest) =
      List.intercalate ['/'] before ++ '/' :: List.intercalate ['/'] rest := by
  induction before with
  | nil => exact absurd rfl some
  | cons segment before ih =>
    cases before with
    | nil => simp [List.intercalate_cons_of_ne_nil more]
    | cons next before =>
      have ih := ih (List.cons_ne_nil next before)
      simp only [List.cons_append, List.intercalate_cons_cons, List.append_assoc] at ih ⊢
      rw [ih]

/-- What stands before the slash decides what the text is written behind. -/
theorem readPath_separated (special : Bool) (s : List Char) :
    ∃ front, ∀ t, Verbatim t →
      readPath special (s ++ '/' :: t) = front ++ percentEncode inPathSet t := by
  obtain ⟨before, resolved⟩ :=
    resolve_append ((segments special s).map (percentEncode inPathSet)) []
  have written : ∀ t, Verbatim t → readPath special (s ++ '/' :: t) =
      '/' :: List.intercalate ['/']
        (before ++ (Text.pieces '/' t).map (percentEncode inPathSet)) := by
    intro t ht
    have some : (Text.pieces '/' t).map (percentEncode inPathSet) ≠ [] := by
      simpa using Text.pieces_ne_nil '/' t
    unfold readPath
    rw [segments_separated, ht.segments, List.map_append, resolved _ some ht.still_segments]
  by_cases none : before = []
  · subst none
    refine ⟨['/'], fun t ht => ?_⟩
    rw [written t ht, List.nil_append, intercalate_pieces]
    rfl
  · refine ⟨'/' :: List.intercalate ['/'] before ++ ['/'], fun t ht => ?_⟩
    have some : (Text.pieces '/' t).map (percentEncode inPathSet) ≠ [] := by
      simpa using Text.pieces_ne_nil '/' t
    rw [written t ht, intercalate_append none some, intercalate_pieces]
    simp

theorem readPathBehindAuthority_separated (special : Bool) (s : List Char) :
    ∃ front, ∀ t, Verbatim t →
      readPathBehindAuthority special (s ++ '/' :: t) = front ++ percentEncode inPathSet t := by
  cases s with
  | nil =>
    refine ⟨['/'], fun t ht => ?_⟩
    exact readPath_verbatim special ht
  | cons c s =>
    obtain ⟨front, found⟩ := readPath_separated special
      (if c = '/' || (special && c = '\\') then s else c :: s)
    refine ⟨front, fun t ht => ?_⟩
    rw [← found t ht]
    unfold readPathBehindAuthority
    rw [List.cons_append]
    dsimp only
    split <;> rfl

end TableBooking.Url
