import TableBooking.Proofs.Decimal.Numeral
import TableBooking.Proofs.Settings.Validity
import TableBooking.Proofs.Url.Reader
import TableBooking.TableService

/-!
What the table service is asked for. The name of a venue is written into an address as it is; so two
requests ask for the same only if they are for the same venue and number, as long as the names of
the venues mean themselves in a path.
-/
namespace TableBooking

theorem Decimal.plain_injective : Function.Injective plain := by
  intro m n same
  rw [← (plain_numeral m).value, same, (plain_numeral n).value]

theorem Decimal.not_mem_plain {c : Char} (h : c.isDigit = false) (n : Nat) : c ∉ plain n := by
  intro there
  rw [(plain_numeral n).digits c there] at h
  cases h

namespace Url

theorem verbatim_plain (n : Nat) : Verbatim (Decimal.plain n) where
  plain := by
    intro c hc special
    have noDigit : ∀ mark ∈ pathMarks, mark.isDigit = false := by simp [pathMarks]
    exact Decimal.not_mem_plain (noDigit c special) n hc
  still := by
    have dot : '.' ∉ Decimal.plain n := Decimal.not_mem_plain rfl n
    rw [Text.pieces_of_not_mem (Decimal.not_mem_plain rfl n)]
    intro piece hp
    rw [List.mem_singleton.1 hp]
    constructor <;> intro same <;> simp [same] at dot

theorem endsVisible_plain (n : Nat) : EndsVisible (Decimal.plain n) := by
  intro c hc
  have digit := (Decimal.plain_numeral n).digits c (List.mem_of_getLast? hc)
  rw [Char.isDigit_iff_toNat] at digit
  have : '0'.toNat = 48 := rfl
  unfold isTrimmed
  simp only [decide_eq_false_iff_not]
  omega

end Url

/-- An address is accepted if it is a URL of the web. -/
theorem Settings.checkUrl_eq_ok {field value : String} (h : checkUrl field value = .ok ()) :
    ∃ url, Url.ofText value = .ok url ∧ (url.scheme = "http" ∨ url.scheme = "https") :=
  checkUrl_eq_ok_iff.1 h

namespace TableService

open Url

variable {service : TableService} {venue venue' : VenueId}

theorem mem_ofRoot {root : String} {c : Char} (h : c ∈ (ofRoot root).root.toList) :
    c ∈ root.toList := by
  unfold ofRoot at h
  rw [String.toList_ofList, List.mem_reverse] at h
  exact List.mem_reverse.1 ((List.dropWhile_sublist _).subset h)

def numbered (service : TableService) (venue : VenueId) (kind : List Char) (n : Nat) : String :=
  String.ofList (service.root.toList ++ "/venue".toList ++ ['s'] ++
    '/' :: (venue.text.toList ++ '/' :: (kind ++ '/' :: Decimal.plain n)))

theorem tableAddress_eq (table : TableId) : service.tableAddress venue table =
    service.numbered venue "tables".toList table.number.toNat := by
  apply String.toList_injective
  unfold tableAddress tablesAddress numbered Decimal.plain
  simp [toString, String.toList_append]

theorem listAddress_eq (leastCapacity : UInt32) : service.listAddress venue leastCapacity =
    service.numbered venue "tables/capacity".toList leastCapacity.toNat := by
  apply String.toList_injective
  unfold listAddress tablesAddress numbered Decimal.plain
  simp [toString, String.toList_append]

theorem request_eq_ok {address : String} {url : Url} (h : request address = .ok url) :
    ∃ read, ofText address = .ok read ∧ (read.scheme = "http" ∨ read.scheme = "https") ∧
      url.target = read.target := by
  unfold request at h
  split at h
  · cases h
  · rename_i read found
    split at h
    · rename_i web
      cases h
      exact ⟨read, found, web, rfl⟩
    · cases h

/-- What is asked for of a venue, behind what the root alone decides. -/
theorem target_numbered (service : TableService) (query : '?' ∉ service.root.toList)
    (fragment : '#' ∉ service.root.toList) {kind : List Char} (verbatim : Verbatim kind) :
    ∃ before, ∀ venue n url, Verbatim venue.text.toList →
      request (service.numbered venue kind n) = .ok url →
      url.target = before ++
        percentEncode inPathSet (venue.text.toList ++ '/' :: (kind ++ '/' :: Decimal.plain n)) := by
  have absent : ∀ mark ∈ ['?', '#'], mark ∉ service.root.toList →
      mark ∉ service.root.toList ++ "/venue".toList ++ ['s'] := by
    intro mark special notInRoot there
    rw [List.append_assoc] at there
    rcases List.mem_append.1 there with inRoot | behind
    · exact notInRoot inRoot
    · have noMark : ∀ mark ∈ ['?', '#'], mark ∉ "/venue".toList ++ ['s'] := by simp
      exact noMark mark special behind
  obtain ⟨before, written⟩ := ofText_separated (absent '?' (by decide) query)
    (absent '#' (by decide) fragment) (by decide) (by decide)
  refine ⟨before, fun venue n url named asked => ?_⟩
  obtain ⟨read, found, web, same⟩ := request_eq_ok asked
  rw [same]
  have behind := verbatim.separated (verbatim_plain n)
  have ends := ((endsVisible_plain n).behind_slash kind).behind_slash venue.text.toList
  exact written _ _ (named.separated behind) ends found web

/-- Name and number can be told from the end of an address. -/
theorem named_inj {venue venue' kind : List Char} {n n' : Nat}
    (same : venue ++ '/' :: (kind ++ '/' :: Decimal.plain n) =
      venue' ++ '/' :: (kind ++ '/' :: Decimal.plain n')) : venue = venue' ∧ n = n' := by
  have last : ∀ n, Text.pieces '/' (Decimal.plain n) = [Decimal.plain n] := fun n =>
    Text.pieces_of_not_mem (Decimal.not_mem_plain rfl n)
  have split := congrArg (Text.pieces '/') same
  simp only [Text.pieces_separated, last, ← List.append_assoc] at split
  have digits : Decimal.plain n = Decimal.plain n' :=
    List.singleton_inj.1 (List.append_inj_right' split rfl)
  rw [digits] at same
  exact ⟨List.append_cancel_right same, Decimal.plain_injective digits⟩

/-- Requests of one kind at one root that ask for the same are for the same venue and number. -/
theorem numbered_inj {kind : List Char} {n n' : Nat} {url url' : Url}
    (query : '?' ∉ service.root.toList) (fragment : '#' ∉ service.root.toList)
    (verbatim : Verbatim kind) (named : Verbatim venue.text.toList)
    (named' : Verbatim venue'.text.toList)
    (asked : request (service.numbered venue kind n) = .ok url)
    (asked' : request (service.numbered venue' kind n') = .ok url')
    (same : url.target = url'.target) : venue = venue' ∧ n = n' := by
  obtain ⟨before, written⟩ := target_numbered service query fragment verbatim
  rw [written _ _ _ named asked, written _ _ _ named' asked'] at same
  have whole : ∀ {venue : VenueId} (n : Nat), Verbatim venue.text.toList →
      '%' ∉ venue.text.toList ++ '/' :: (kind ++ '/' :: Decimal.plain n) := fun n named =>
    (named.separated (verbatim.separated (verbatim_plain n))).not_mem (by decide)
  have texts := percentEncode_inj (whole n named) (whole n' named') (List.append_cancel_left same)
  obtain ⟨venues, numbers⟩ := named_inj texts
  exact ⟨congrArg VenueId.mk (String.toList_injective venues), numbers⟩

/-- At an accepted root without query and fragment, different venues whose names mean themselves in
a path are never asked for in the same way, nor are different tables or capacities of one venue. -/
theorem requests_apart {field root : String} (accepted : Settings.checkUrl field root = .ok ())
    (bare : ∀ url, Url.ofText root = .ok url → url.query = none ∧ url.fragment = none)
    (named : Verbatim venue.text.toList) (named' : Verbatim venue'.text.toList) :
    (∀ table table' url url', request ((ofRoot root).tableAddress venue table) = .ok url →
      request ((ofRoot root).tableAddress venue' table') = .ok url' →
      url.target = url'.target → venue = venue' ∧ table = table') ∧
    (∀ least least' url url', request ((ofRoot root).listAddress venue least) = .ok url →
      request ((ofRoot root).listAddress venue' least') = .ok url' →
      url.target = url'.target → venue = venue' ∧ least = least') := by
  obtain ⟨url, read, web⟩ := Settings.checkUrl_eq_ok accepted
  obtain ⟨noQuery, noFragment⟩ := bare url read
  obtain ⟨query, fragment⟩ := not_mem_of_bare read web noQuery noFragment
  have query : '?' ∉ (ofRoot root).root.toList := fun there => query (mem_ofRoot there)
  have fragment : '#' ∉ (ofRoot root).root.toList := fun there => fragment (mem_ofRoot there)
  constructor
  · intro table table' url url' asked asked' same
    rw [tableAddress_eq] at asked asked'
    obtain ⟨venues, numbers⟩ :=
      numbered_inj query fragment (by decide) named named' asked asked' same
    exact ⟨venues, congrArg TableId.mk (UInt32.toNat_inj.1 numbers)⟩
  · intro least least' url url' asked asked' same
    rw [listAddress_eq] at asked asked'
    obtain ⟨venues, numbers⟩ :=
      numbered_inj query fragment (by decide) named named' asked asked' same
    exact ⟨venues, UInt32.toNat_inj.1 numbers⟩

/-- A name may hold a slash and even look like the rest of an address. -/
theorem pub_and_its_tables_apart :
    let root := "http://[::1]:8080/"
    Settings.checkUrl "table_api_root" root = .ok () ∧ ∃ url url',
      request ((ofRoot root).tableAddress ⟨"pub"⟩ ⟨3⟩) = .ok url ∧
      request ((ofRoot root).tableAddress ⟨"pub/tables"⟩ ⟨3⟩) = .ok url' ∧
      url.target ≠ url'.target := by
  intro root
  have accepted : Settings.checkUrl "table_api_root" root = .ok () := by decide
  let authority : Authority := ⟨{}, .ipv6 [0, 0, 0, 0, 0, 0, 0, 1], some 8080⟩
  have bare : ∀ url, Url.ofText root = .ok url → url.query = none ∧ url.fragment = none := by
    have read : Url.ofText root = .ok ⟨"http", some authority, ['/'], none, none⟩ := by decide
    intro url again
    rw [read] at again
    cases again
    exact ⟨rfl, rfl⟩
  have asked : request ((ofRoot root).tableAddress ⟨"pub"⟩ ⟨3⟩) =
      .ok ⟨"http", some authority, "/venues/pub/tables/3".toList, none, none⟩ := by decide
  have asked' : request ((ofRoot root).tableAddress ⟨"pub/tables"⟩ ⟨3⟩) =
      .ok ⟨"http", some authority, "/venues/pub/tables/tables/3".toList, none, none⟩ := by decide
  refine ⟨accepted, _, _, asked, asked', fun same => ?_⟩
  obtain ⟨venues, _⟩ :=
    (requests_apart accepted bare (by decide) (by decide)).1 ⟨3⟩ ⟨3⟩ _ _ asked asked' same
  exact absurd venues (by decide)

/-- The name of one venue leads up and down again and asks for the tables of another one. -/
theorem roundabout_name_asks_for_pub :
    let root := "http://[::1]:8080/"
    let asked (venue : VenueId) :=
      ((request ((ofRoot root).tableAddress venue ⟨3⟩)).map target,
        (request ((ofRoot root).listAddress venue 4)).map target)
    Settings.checkUrl "table_api_root" root = .ok () ∧
      asked ⟨"pub"⟩ =
        (.ok "/venues/pub/tables/3".toList, .ok "/venues/pub/tables/capacity/4".toList) ∧
      asked ⟨"x/../pub"⟩ = asked ⟨"pub"⟩ := by
  decide +kernel

end TableService

end TableBooking
