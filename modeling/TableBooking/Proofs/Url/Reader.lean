import TableBooking.Proofs.Text.Spans
import TableBooking.Proofs.Url.Path

/-!
URLs whose text ends in a slash and a verbatim text. Scheme and authority are read from what stands
before the slash, and the text behind it ends the path.
-/
namespace TableBooking

theorem Decimal.takeDigits_subset (s : List Char) : ∀ c ∈ (takeDigits s).2, c ∈ s := by
  induction s with
  | nil => simp [takeDigits]
  | cons d s ih =>
    unfold takeDigits
    split
    · intro c hc
      exact List.mem_cons_of_mem d (ih c hc)
    · exact fun c hc => hc

namespace Url

open Text (takeWhile_stopped dropWhile_stopped mem_dropWhile dropWhile_append_of_mem drop_takeWhile)

variable {s t : List Char}

section Cleaning

def isTrimmed (c : Char) : Bool :=
  c.toNat ≤ 0x20

def isBreak (c : Char) : Bool :=
  ['\t', '\n', '\r'].contains c

def cleanedFront (s : List Char) : List Char :=
  (s.dropWhile isTrimmed).filter (!isBreak ·)

theorem mem_cleanedFront {c : Char} (h : c ∈ cleanedFront s) : c ∈ s :=
  (List.dropWhile_sublist _).subset (List.mem_filter.1 h).1

theorem mem_cleaned {text : String} {c : Char} (h : c ∈ text.toList) (kept : isTrimmed c = false)
    (inline : isBreak c = false) : c ∈ cleaned text := by
  change c ∈ ((((text.toList.dropWhile isTrimmed).reverse.dropWhile isTrimmed).reverse).filter
    (!isBreak ·))
  rw [List.mem_filter, inline, List.mem_reverse]
  refine ⟨mem_dropWhile ?_ kept, rfl⟩
  rw [List.mem_reverse]
  exact mem_dropWhile h kept

/-- A text whose last character is not trimmed away. -/
def EndsVisible (s : List Char) : Prop :=
  ∀ c ∈ s.getLast?, isTrimmed c = false

theorem EndsVisible.behind_slash (h : EndsVisible t) (s : List Char) :
    EndsVisible (s ++ '/' :: t) := by
  intro c hc
  rw [List.getLast?_append, List.getLast?_cons, Option.some_or] at hc
  cases last : t.getLast? with
  | none =>
    rw [last] at hc
    cases hc
    rfl
  | some d =>
    rw [last] at hc
    cases hc
    exact h d last

theorem EndsVisible.dropWhile_reverse (h : EndsVisible s) :
    s.reverse.dropWhile isTrimmed = s.reverse := by
  rcases List.eq_nil_or_concat s with rfl | ⟨front, c, rfl⟩
  · rfl
  · have visible : isTrimmed c = false := h c (by simp)
    simp [visible]

theorem cleaned_separated (front : List Char) (verbatim : Verbatim t) (ends : EndsVisible t) :
    cleaned (String.ofList (front ++ '/' :: t)) = cleanedFront front ++ '/' :: t := by
  have kept : ('/' :: t).filter (!isBreak ·) = '/' :: t := by
    rw [List.filter_eq_self]
    intro c hc
    rcases List.mem_cons.1 hc with rfl | behind
    · rfl
    · have plain := verbatim.plain c behind
      unfold pathMarks at plain
      unfold isBreak
      simp_all
  have trimmed : ((front ++ '/' :: t).dropWhile isTrimmed).reverse.dropWhile isTrimmed =
      ((front ++ '/' :: t).dropWhile isTrimmed).reverse := by
    rw [dropWhile_stopped rfl]
    exact (ends.behind_slash _).dropWhile_reverse
  change ((((String.ofList (front ++ '/' :: t)).toList.dropWhile isTrimmed).reverse.dropWhile
    isTrimmed).reverse).filter (!isBreak ·) = _
  rw [String.toList_ofList, trimmed, List.reverse_reverse, dropWhile_stopped rfl,
    List.filter_append, kept]
  rfl

end Cleaning

section Scheme

theorem splitScheme?_separated (s t : List Char) :
    splitScheme? (s ++ '/' :: t) =
      (splitScheme? s).map fun (scheme, rest) => (scheme, rest ++ '/' :: t) := by
  cases s with
  | nil => rfl
  | cons first s =>
    unfold splitScheme?
    rw [List.cons_append]
    dsimp only
    by_cases letter : first.isAlpha
    · rw [if_pos letter, if_pos letter, ← List.cons_append, takeWhile_stopped rfl,
        List.drop_append_of_le_length (List.takeWhile_sublist _).length_le]
      generalize (first :: s).drop _ = rest
      cases rest with
      | nil => rfl
      | cons c rest =>
        rw [List.cons_append]
        by_cases colon : c = ':'
        · subst colon
          rfl
        · simp [colon]
    · rw [if_neg letter, if_neg letter]
      rfl

/-- A scheme stands before the first colon. -/
theorem splitScheme?_eq_some {scheme : String} {rest : List Char}
    (h : splitScheme? s = some (scheme, rest)) :
    ∃ name, s = name ++ ':' :: rest ∧ ∀ c ∈ name, isSchemeChar c = true := by
  unfold splitScheme? at h
  split at h
  · cases h
  · rename_i first tail
    split at h
    · dsimp only at h
      split at h
      · rename_i behind split
        cases h
        refine ⟨(first :: tail).takeWhile isSchemeChar, ?_, fun c hc => List.mem_takeWhile_imp hc⟩
        rw [← split, drop_takeWhile, List.takeWhile_append_dropWhile]
      · cases h
    · cases h

end Scheme

section Authority

variable {scheme : String} {credentials : Credentials} {authority : Authority}
  {unread : List Char}

theorem readPort_unread {port : Option Nat} (h : readPort s = .ok (port, unread)) :
    ∀ c ∈ unread, c ∈ s := by
  unfold readPort at h
  dsimp only at h
  split at h
  · cases h
  · cases h
    exact Decimal.takeDigits_subset s

theorem readHostAndPort_unread
    (h : readHostAndPort scheme credentials s = .ok (authority, unread)) :
    ∀ c ∈ unread, c ∈ s := by
  unfold readHostAndPort at h
  simp only [bind, Except.bind, pure, Except.pure, throw, throwThe, MonadExceptOf.throw] at h
  generalize left : s.drop (s.take (hostLength false s)).length = rest at h
  have inside : ∀ c ∈ rest, c ∈ s := by
    subst left
    exact fun c hc => List.drop_subset _ _ hc
  split at h
  · cases h
  · split at h
    -- special hosts and others are followed by the same port
    all_goals
      split at h
      · cases h
      · split at h
        · split at h
          · cases h
          · rename_i read
            cases h
            intro c hc
            exact inside c (List.mem_cons_of_mem ':' (readPort_unread read c hc))
        · cases h
          exact inside

theorem splitLastAt?_eq_some {before behind : List Char}
    (h : splitLastAt? s = some (before, behind)) : ∀ c ∈ behind, c ∈ s := by
  unfold splitLastAt? at h
  dsimp only at h
  split at h
  · cases h
  · cases h
    intro c hc
    exact List.mem_reverse.1 ((List.takeWhile_sublist _).subset (List.mem_reverse.1 hc))

/-- What is left over of an authority is part of its text. -/
theorem readAuthority_unread {more : Bool}
    (h : readAuthority scheme more s = .ok (authority, unread)) : ∀ c ∈ unread, c ∈ s := by
  unfold readAuthority at h
  split at h
  · exact readHostAndPort_unread h
  · split at h
    · cases h
    · intro c hc
      cases readHostAndPort_unread h c hc
  · rename_i behind _ split
    intro c hc
    exact splitLastAt?_eq_some split c (readHostAndPort_unread h c hc)
  · rename_i before behind _ _ split
    intro c hc
    exact splitLastAt?_eq_some split c (readHostAndPort_unread h c hc)

end Authority

section Tail

theorem takeWhile_ne_of_not_mem {mark : Char} (h : mark ∉ s) : s.takeWhile (· != mark) = s := by
  rw [List.takeWhile_eq_self_iff]
  intro c hc
  simpa using ne_of_mem_of_not_mem hc h

theorem not_mem_of_dropWhile_ne {mark : Char} (h : s.dropWhile (· != mark) = []) : mark ∉ s := by
  intro there
  have stops : (mark != mark) = false := bne_self_eq_false mark
  have := mem_dropWhile (p := (· != mark)) there stops
  rw [h] at this
  cases this

theorem splitTail_of_not_mem (query : '?' ∉ s) (fragment : '#' ∉ s) :
    splitTail s = (s, none, none) := by
  unfold splitTail
  simp only [takeWhile_ne_of_not_mem fragment, takeWhile_ne_of_not_mem query, List.drop_length]

theorem splitTail_eq_none {path : List Char} (h : splitTail s = (path, none, none)) :
    '?' ∉ s ∧ '#' ∉ s := by
  unfold splitTail at h
  dsimp only at h
  rw [drop_takeWhile, drop_takeWhile] at h
  split at h
  · rename_i noQuery
    split at h
    · rename_i noFragment
      have fragment : '#' ∉ s := not_mem_of_dropWhile_ne noFragment
      rw [takeWhile_ne_of_not_mem fragment] at noQuery
      exact ⟨not_mem_of_dropWhile_ne noQuery, fragment⟩
    · cases h
  · cases h

end Tail

section Whole

def inAuthority (scheme : String) (c : Char) : Bool :=
  !endsAuthority (schemeKind scheme ≠ .other) c

def isSlash (c : Char) : Bool :=
  c = '/' || c = '\\'

theorem inAuthority_slash (scheme : String) : inAuthority scheme '/' = false := by
  simp [inAuthority, endsAuthority]

variable {scheme : String} {url : Url}

theorem readHierarchical_eq_ok (h : readHierarchical scheme s = .ok url) :
    ∃ authority unread path query fragment,
      readAuthority scheme (!(s.dropWhile (inAuthority scheme)).isEmpty)
          (s.takeWhile (inAuthority scheme)) = .ok (authority, unread) ∧
      splitTail (unread ++ s.dropWhile (inAuthority scheme)) = (path, query, fragment) ∧
      url.scheme = scheme ∧
      url.path = readPathBehindAuthority (schemeKind scheme ≠ .other) path ∧
      url.query = query.map (percentEncode (inQuerySet (schemeKind scheme ≠ .other))) ∧
      url.fragment = fragment.map (percentEncode inFragmentSet) := by
  unfold readHierarchical at h
  simp only [bind, Except.bind, pure, Except.pure, drop_takeWhile] at h
  split at h
  · cases h
  · rename_i found read
    cases h
    exact ⟨found.1, found.2, _, _, _, read, rfl, rfl, rfl, rfl, rfl⟩

/-- Behind a text without query and fragment, a verbatim text ends the path. -/
theorem readHierarchical_separated (scheme : String) (query : '?' ∉ s) (fragment : '#' ∉ s) :
    ∃ front, ∀ t url, Verbatim t → readHierarchical scheme (s ++ '/' :: t) = .ok url →
      url.target = front ++ percentEncode inPathSet t := by
  have stops := inAuthority_slash scheme
  have more : ∀ t, (!(s.dropWhile (inAuthority scheme) ++ '/' :: t).isEmpty) = true := by
    simp
  cases read : readAuthority scheme true (s.takeWhile (inAuthority scheme)) with
  | error e =>
    refine ⟨[], fun t url _ h => ?_⟩
    obtain ⟨_, _, _, _, _, taken, _⟩ := readHierarchical_eq_ok h
    rw [takeWhile_stopped stops, dropWhile_stopped stops, more, read] at taken
    cases taken
  | ok found =>
    obtain ⟨authority, unread⟩ := found
    have before : ∀ c ∈ unread ++ s.dropWhile (inAuthority scheme), c ∈ s := by
      intro c hc
      rcases List.mem_append.1 hc with left | behind
      · exact (List.takeWhile_sublist _).subset (readAuthority_unread read c left)
      · exact (List.dropWhile_sublist _).subset behind
    obtain ⟨front, written⟩ := readPathBehindAuthority_separated (schemeKind scheme ≠ .other)
      (unread ++ s.dropWhile (inAuthority scheme))
    refine ⟨front, fun t url verbatim h => ?_⟩
    obtain ⟨_, _, _, _, _, taken, tail, _, path, query?, _⟩ := readHierarchical_eq_ok h
    rw [takeWhile_stopped stops, dropWhile_stopped stops, more, read] at taken
    cases taken
    have absent : ∀ mark, mark ∉ s → mark ≠ '/' → mark ∉ t →
        mark ∉ unread ++ s.dropWhile (inAuthority scheme) ++ '/' :: t := by
      intro mark notBefore notSlash notBehind there
      rcases List.mem_append.1 there with there | there
      · exact notBefore (before mark there)
      · rcases List.mem_cons.1 there with slash | there
        · exact notSlash slash
        · exact notBehind there
    rw [dropWhile_stopped stops, ← List.append_assoc, splitTail_of_not_mem
      (absent '?' query (by decide) (verbatim.not_mem (by decide)))
      (absent '#' fragment (by decide) (verbatim.not_mem (by decide)))] at tail
    cases tail
    unfold target
    rw [query?, path, written t verbatim]
    simp

theorem readFile_scheme (h : readFile s = .ok url) : url.scheme = "file" := by
  unfold readFile at h
  simp only [bind, Except.bind, pure, Except.pure] at h
  split at h
  · split at h
    · split at h
      · cases h
        rfl
      · split at h
        · cases h
        · cases h
          rfl
    · cases h
      rfl
  · cases h
    rfl

/-- A URL whose scheme is that of the web is read as one with an authority. -/
theorem ofText_eq_ok {text : String} (h : ofText text = .ok url)
    (web : url.scheme = "http" ∨ url.scheme = "https") :
    ∃ rest, splitScheme? (cleaned text) = some (url.scheme, rest) ∧
      readHierarchical url.scheme (rest.dropWhile isSlash) = .ok url := by
  have network : schemeKind url.scheme = .network := by
    rcases web with same | same <;> rw [same] <;> rfl
  unfold ofText at h
  split at h
  · cases h
  · rename_i scheme rest split
    split at h
    · obtain ⟨_, _, _, _, _, _, _, same, _⟩ := readHierarchical_eq_ok h
      rw [same]
      exact ⟨rest, split, h⟩
    · rw [readFile_scheme h] at network
      cases network
    · rename_i other
      have same : url.scheme = scheme := by
        split at h
        · obtain ⟨_, _, _, _, _, _, _, same, _⟩ := readHierarchical_eq_ok h
          exact same
        · cases h
          rfl
      rw [same, other] at network
      cases network

/-- A text without query and fragment that does not end in a mark of its own decides scheme and
authority; a verbatim text behind it ends the path. -/
theorem ofText_separated {front : List Char} {c : Char} (query : '?' ∉ front ++ [c])
    (fragment : '#' ∉ front ++ [c]) (visible : isTrimmed c = false ∧ isBreak c = false)
    (letter : c ≠ ':' ∧ c ≠ '/' ∧ c ≠ '\\') :
    ∃ before, ∀ t url, Verbatim t → EndsVisible t →
      ofText (String.ofList (front ++ [c] ++ '/' :: t)) = .ok url →
      url.scheme = "http" ∨ url.scheme = "https" →
      url.target = before ++ percentEncode inPathSet t := by
  have last : cleanedFront (front ++ [c]) = cleanedFront front ++ [c] := by
    unfold cleanedFront
    rw [dropWhile_stopped visible.1, List.filter_append, List.filter_cons_of_pos (by simp [visible])]
    rfl
  cases split : splitScheme? (cleanedFront (front ++ [c])) with
  | none =>
    refine ⟨[], fun t url verbatim ends read web => ?_⟩
    obtain ⟨_, found, _⟩ := ofText_eq_ok read web
    rw [cleaned_separated _ verbatim ends, splitScheme?_separated, split] at found
    cases found
  | some found =>
    obtain ⟨scheme, rest⟩ := found
    obtain ⟨name, whole, _⟩ := splitScheme?_eq_some split
    have inside : c ∈ rest := by
      have ends : (name ++ ':' :: rest).getLast? = some c := by
        rw [← whole, last, List.getLast?_concat]
      rw [List.getLast?_append, List.getLast?_cons, Option.some_or, Option.some.injEq] at ends
      cases final : rest.getLast? with
      | none =>
        rw [final] at ends
        exact absurd ends.symm letter.1
      | some d =>
        rw [final] at ends
        subst ends
        exact List.mem_of_getLast? final
    have part : ∀ mark ∈ rest.dropWhile isSlash, mark ∈ front ++ [c] := by
      intro mark there
      apply mem_cleanedFront
      rw [whole]
      have := (List.dropWhile_sublist _).subset there
      simp [this]
    obtain ⟨before, written⟩ := readHierarchical_separated scheme
      (fun there => query (part _ there)) (fun there => fragment (part _ there))
    refine ⟨before, fun t url verbatim ends read web => ?_⟩
    obtain ⟨_, found, hierarchical⟩ := ofText_eq_ok read web
    rw [cleaned_separated _ verbatim ends, splitScheme?_separated, split] at found
    simp only [Option.map_some, Option.some.injEq, Prod.mk.injEq] at found
    obtain ⟨same, rfl⟩ := found
    rw [← same, dropWhile_append_of_mem inside (by simp [isSlash, letter])] at hierarchical
    exact written t url verbatim hierarchical

/-- A URL of the web without query and fragment is written without question mark and number sign. -/
theorem not_mem_of_bare {text : String} (h : ofText text = .ok url)
    (web : url.scheme = "http" ∨ url.scheme = "https") (query : url.query = none)
    (fragment : url.fragment = none) : '?' ∉ text.toList ∧ '#' ∉ text.toList := by
  obtain ⟨rest, split, hierarchical⟩ := ofText_eq_ok h web
  obtain ⟨name, whole, schemeChars⟩ := splitScheme?_eq_some split
  obtain ⟨_, _, _, _, _, _, tail, _, _, hq, hf⟩ := readHierarchical_eq_ok hierarchical
  rw [query, eq_comm, Option.map_eq_none_iff] at hq
  rw [fragment, eq_comm, Option.map_eq_none_iff] at hf
  subst hq hf
  obtain ⟨noQuery, noFragment⟩ := splitTail_eq_none tail
  have reached : ∀ mark, mark = '?' ∨ mark = '#' → mark ∈ text.toList →
      mark ∈ (rest.dropWhile isSlash).dropWhile (inAuthority url.scheme) := by
    intro mark special there
    have kept : mark ∈ cleaned text := by
      rcases special with rfl | rfl
      · exact mem_cleaned there rfl rfl
      · exact mem_cleaned there rfl rfl
    have behind : mark ∈ rest := by
      rw [whole] at kept
      rcases List.mem_append.1 kept with inScheme | kept
      · have := schemeChars mark inScheme
        rcases special with rfl | rfl <;> exact absurd this (by decide)
      · rcases List.mem_cons.1 kept with colon | kept
        · rcases special with rfl | rfl <;> exact absurd colon (by decide)
        · exact kept
    rcases special with rfl | rfl
    · exact mem_dropWhile (mem_dropWhile behind rfl) (by simp [inAuthority, endsAuthority])
    · exact mem_dropWhile (mem_dropWhile behind rfl) (by simp [inAuthority, endsAuthority])
  exact ⟨fun there => noQuery (List.mem_append_right _ (reached '?' (Or.inl rfl) there)),
    fun there => noFragment (List.mem_append_right _ (reached '#' (Or.inr rfl) there))⟩

end Whole

end Url

end TableBooking
