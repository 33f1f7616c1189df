import TableBooking.Settings.Basic

/-!
Which settings are accepted. The checks accept what the settings are meant to be, field by field; but
the timeout is checked by what 64 bits keep of its milliseconds, so one that is far too long passes
when that rest is in the range.
-/
namespace TableBooking

def Text.Visible (s : String) : Prop :=
  ∃ c ∈ s.toList, isBlank c = false

theorem Text.visible_iff (s : String) : Visible s ↔ allBlank s = false := by
  rw [allBlank, List.all_eq_false]
  simp only [Visible, Bool.not_eq_true]

namespace Url

theorem ofText_empty : ofText "" = .error .noScheme := rfl

def IsWeb (value : String) : Prop :=
  ∃ url, ofText value = .ok url ∧ (url.scheme = "http" ∨ url.scheme = "https")

def IsDatabase (value : String) : Prop :=
  ∃ url, ofText value = .ok url ∧ (url.scheme = "postgres" ∨ url.scheme = "postgresql")

theorem not_isWeb_empty : ¬IsWeb "" := by
  rintro ⟨url, read, -⟩
  rw [ofText_empty] at read
  cases read

end Url

namespace Duration

theorem wholeMillis_ofMillis (ms : UInt64) : (ofMillis ms).wholeMillis = ms.toNat :=
  Nat.mul_div_cancel _ (by decide)

/-- Longer than a minute, but not as far as 64 bits of the milliseconds tell. -/
def Wraps (d : Duration) : Prop :=
  60000 < d.wholeMillis ∧
    1 ≤ d.wholeMillis % UInt64.size ∧ d.wholeMillis % UInt64.size ≤ 60000

end Duration

namespace Settings

section Steps

variable {ε α β : Type}

theorem bind_eq_ok_iff {first : Except ε α} {next : α → Except ε β} {b : β} :
    first >>= next = .ok b ↔ ∃ a, first = .ok a ∧ next a = .ok b := by
  cases first with
  | error e => exact iff_of_false nofun nofun
  | ok a => simp [bind, Except.bind]

theorem seq_eq_ok_iff {first : Except ε Unit} {next : Unit → Except ε β} {b : β} :
    first >>= next = .ok b ↔ first = .ok () ∧ next () = .ok b := by
  rw [bind_eq_ok_iff]
  constructor
  · rintro ⟨⟨⟩, passed, rest⟩
    exact ⟨passed, rest⟩
  · intro passed
    exact ⟨(), passed⟩

end Steps

section Checks

variable {field value : String}

theorem checkScheme_eq_ok_iff {schemes : List String} {kind : String} :
    checkScheme schemes kind field value = .ok () ↔
      ∃ url, Url.ofText value = .ok url ∧ url.scheme ∈ schemes := by
  unfold checkScheme
  cases Url.ofText value with
  | error e => simp
  | ok url => simp

theorem checkUrl_eq_ok_iff : checkUrl field value = .ok () ↔ Url.IsWeb value := by
  unfold checkUrl
  by_cases empty : value.isEmpty
  · -- the empty text is reported on its own, but it is no address anyway
    rw [if_pos empty, String.isEmpty_iff.1 empty]
    exact iff_of_false nofun Url.not_isWeb_empty
  · rw [if_neg empty, checkScheme_eq_ok_iff]
    simp only [List.mem_cons, List.not_mem_nil, or_false]
    rfl

theorem checkDatabaseUrl_eq_ok_iff :
    checkDatabaseUrl field value = .ok () ↔ Url.IsDatabase value := by
  unfold checkDatabaseUrl
  rw [checkScheme_eq_ok_iff]
  simp only [List.mem_cons, List.not_mem_nil, or_false]
  rfl

theorem checkOrigin_eq_ok_iff :
    checkOrigin field value = .ok () ↔ value = "*" ∨ Url.IsWeb value := by
  unfold checkOrigin
  by_cases any : value = "*"
  · simp [any]
  · rw [if_neg any, checkUrl_eq_ok_iff, or_iff_right any]

theorem checkNotBlank_eq_ok_iff : checkNotBlank field value = .ok () ↔ Text.Visible value := by
  unfold checkNotBlank
  rw [Text.visible_iff]
  cases Text.allBlank value <;> simp

theorem checkPresent_eq_ok_iff {check : String → String → Except SettingsError Unit}
    {setting : Option String} :
    checkPresent check field setting = .ok () ↔ ∀ value ∈ setting, check field value = .ok () := by
  cases setting <;> simp [checkPresent]

theorem checkRange_eq_ok_iff {n least greatest : Int} :
    checkRange field n least greatest = .ok () ↔ least ≤ n ∧ n ≤ greatest := by
  unfold checkRange
  by_cases outside : n < least ∨ greatest < n
  · rw [if_pos outside]
    exact iff_of_false nofun (by omega)
  · rw [if_neg outside]
    exact iff_of_true rfl (by omega)

end Checks

def Paired (domain audience : Option String) : Prop :=
  (domain = none ∧ audience = none) ∨
    ∃ d a, domain = some d ∧ audience = some a ∧ Text.Visible d ∧ Text.Visible a

theorem checkAuth_eq_ok_iff {domain audience : Option String} :
    checkAuth domain audience = .ok () ↔ Paired domain audience := by
  cases domain with
  | none => cases audience <;> simp [checkAuth, Paired]
  | some d =>
    cases audience with
    | none => simp [checkAuth, Paired]
    | some a =>
      simp only [checkAuth, seq_eq_ok_iff, checkNotBlank_eq_ok_iff]
      simp [Paired]

structure Sound (settings : Settings) : Prop where
  venueService : ∀ root ∈ settings.venueService, Url.IsWeb root
  tableService : ∀ root ∈ settings.tableService, Url.IsWeb root
  database : ∀ address ∈ settings.database, Url.IsDatabase address
  corsOrigin : ∀ origin ∈ settings.corsOrigin, origin = "*" ∨ Url.IsWeb origin
  tokens : Paired settings.authDomain settings.authAudience

/-- What the settings must be, with the whole milliseconds of the timeout from one to a minute. -/
structure Valid (settings : Settings) : Prop extends Sound settings where
  least : 1 ≤ settings.callTimeout.wholeMillis
  greatest : settings.callTimeout.wholeMillis ≤ 60000

variable {settings : Settings}

theorem check_eq_ok_iff : settings.check = .ok () ↔
    settings.Sound ∧ 1 ≤ settings.timeoutMillis ∧ settings.timeoutMillis ≤ 60000 := by
  simp only [check, seq_eq_ok_iff, checkPresent_eq_ok_iff, checkUrl_eq_ok_iff,
    checkDatabaseUrl_eq_ok_iff, checkOrigin_eq_ok_iff, checkAuth_eq_ok_iff, checkRange_eq_ok_iff]
  constructor
  · rintro ⟨venue, table, database, origin, tokens, least, greatest⟩
    exact ⟨⟨venue, table, database, origin, tokens⟩, by omega, by omega⟩
  · rintro ⟨⟨venue, table, database, origin, tokens⟩, least, greatest⟩
    exact ⟨venue, table, database, origin, tokens, by omega, by omega⟩

/-- As long as 64 bits hold the milliseconds, the settings that are accepted are the valid ones. -/
theorem check_eq_ok_iff_valid (held : settings.callTimeout.wholeMillis < UInt64.size) :
    settings.check = .ok () ↔ settings.Valid := by
  rw [check_eq_ok_iff, timeoutMillis, Nat.mod_eq_of_lt held]
  constructor
  · rintro ⟨sound, least, greatest⟩
    exact ⟨sound, least, greatest⟩
  · rintro ⟨sound, least, greatest⟩
    exact ⟨sound, least, greatest⟩

theorem not_valid_of_long (long : 60000 < settings.callTimeout.wholeMillis) : ¬settings.Valid := by
  intro valid
  have := valid.greatest
  omega

/-- The settings that are accepted are the valid ones, and those in which nothing is wrong but a
timeout whose milliseconds wrap into the range. -/
theorem accepted_iff_valid_or_wrapped (settings : Settings) :
    settings.check = .ok () ↔
      settings.Valid ∨ settings.Sound ∧ settings.callTimeout.Wraps := by
  rcases Nat.lt_or_ge settings.callTimeout.wholeMillis UInt64.size with held | beyond
  · have unwrapped : ¬settings.callTimeout.Wraps := by
      rintro ⟨long, -, rest⟩
      rw [Nat.mod_eq_of_lt held] at rest
      omega
    rw [check_eq_ok_iff_valid held, or_iff_left fun wrapped => unwrapped wrapped.2]
  · have long : 60000 < settings.callTimeout.wholeMillis := Nat.lt_of_lt_of_le (by decide) beyond
    rw [check_eq_ok_iff, or_iff_right (not_valid_of_long long)]
    apply and_congr_right
    intro _
    constructor
    · intro range
      exact ⟨long, range⟩
    · rintro ⟨-, range⟩
      exact range

/-- Settings with nothing but a timeout, of which 64 bits keep one millisecond. -/
def endless : Settings where
  callTimeout := ⟨(UInt64.size + 1) * 1_000_000, by decide⟩

/-- A timeout of half a billion years is accepted, although it is longer than a minute. -/
theorem endless_timeout_accepted :
    endless.callTimeout.wholeMillis = 18_446_744_073_709_551_617 ∧
      endless.check = .ok () ∧ ¬endless.Valid := by
  have counted : endless.callTimeout.wholeMillis = 18_446_744_073_709_551_617 := by decide
  refine ⟨counted, rfl, ?_⟩
  apply not_valid_of_long
  rw [counted]
  decide

end Settings

end TableBooking
