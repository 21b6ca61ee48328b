import Telecontrol.Proofs.Time.Instant

/-!
# Which tags have an instant

The bits of a tag hold numbers that no date and no time of the day has. A tag is resolved exactly if
its month, its day and its time exist in the year to which it refers, and that year and the instant
are supported (`Time56.resolve_eq_ok_iff`). Then the tag of the instant has the fields that were
read, except for the day of the week, which is found anew.

The year is not checked: its bits also hold the numbers from 100 to 127, which count on into the
century after the one that is meant. A tag with such a year is resolved like any other, and the tag
of its instant has another year (`Time56.resolved_as_read_iff`).
-/

namespace Telecontrol

namespace Time56

/-- The fields of a tag, apart from the year, spell a time in the year to which it refers. -/
structure SpellsTime (t : Time56) (start : Int) : Prop where
  month : 1 ≤ t.month.toNat ∧ t.month.toNat ≤ 12
  day : 1 ≤ t.day.toNat ∧ t.day.toNat ≤ daysInMonth (t.fullYear start) t.month.toNat
  hour : t.hour.toNat ≤ 23
  minute : t.minute.toNat ≤ 59
  milliseconds : t.milliseconds.toNat ≤ 59999

/-- The fields of a tag lie within their ranges. -/
structure InRange (t : Time56) (start : Int) : Prop extends t.SpellsTime start where
  year : t.year.toNat ≤ 99

/-- The local time that a tag spells, with its offset. -/
def zoned (t : Time56) (standard start : Int) : ZonedTime :=
  ⟨t.calendar start, shifted standard t.summerTime⟩

/-- A tag can be resolved, whatever its year is. -/
structure Resolvable (t : Time56) (standard start : Int) : Prop where
  offset : t.summerTime = true → IsOffset (standard + summerShift)
  time : t.SpellsTime start
  date : (t.calendar start).date.IsSupported
  instant : IsSupportedInstant (t.zoned standard start).millis

variable {t : Time56} {standard start : Int}

theorem localOffset_eq_ok_iff {summer : Bool} {offset : Int} :
    localOffset standard summer = .ok offset ↔
      (summer = true → IsOffset (standard + summerShift)) ∧ offset = shifted standard summer := by
  cases summer with
  | false => simp [localOffset, shifted, eq_comm]
  | true =>
    rw [localOffset, if_pos rfl, IsOffset]
    split
    · next h => simp [shifted, h, eq_comm]
    · next h => simp [h]

/-- The time of a tag exists exactly if its fields, apart from the year, spell one. -/
theorem spellsTime_iff :
    (t.calendar start).date.IsValid ∧ (t.calendar start).hour < 24 ∧
      (t.calendar start).minute < 60 ∧ (t.calendar start).second < 60 ↔ t.SpellsTime start := by
  simp only [calendar, Date.IsValid]
  constructor
  · rintro ⟨⟨hlow, hhigh, hfirst, hlast⟩, hhour, hminute, hsecond⟩
    exact ⟨⟨hlow, hhigh⟩, ⟨hfirst, hlast⟩, by omega, by omega, by omega⟩
  · rintro ⟨⟨hlow, hhigh⟩, ⟨hfirst, hlast⟩, hhour, hminute, hmilliseconds⟩
    exact ⟨⟨hlow, hhigh, hfirst, hlast⟩, by omega, by omega, by omega⟩

/-- A tag that can be resolved has the instant of the local time that it spells; no other tag has
one. -/
theorem resolve_eq_ok_iff {d : ZonedTime} :
    t.resolve standard start = .ok d ↔
      t.Resolvable standard start ∧ d = t.zoned standard start := by
  unfold resolve
  cases hlocal : localOffset standard t.summerTime with
  | error cause =>
    refine iff_of_false nofun fun h => ?_
    cases hlocal.symm.trans (localOffset_eq_ok_iff.mpr ⟨h.1.offset, rfl⟩)
  | ok offset =>
    obtain ⟨hoffset, rfl⟩ := localOffset_eq_ok_iff.mp hlocal
    simp only [bind, Except.bind]
    by_cases hdate : (t.calendar start).date.IsSupported
    · by_cases htime : t.SpellsTime start
      · rw [if_pos ⟨hdate, spellsTime_iff.mpr htime⟩]
        by_cases hinstant : IsSupportedInstant (t.zoned standard start).millis
        · rw [if_pos (by exact hinstant)]
          exact ⟨fun h => ⟨⟨hoffset, htime, hdate, hinstant⟩, (Except.ok.inj h).symm⟩,
            fun h => congrArg Except.ok h.2.symm⟩
        · rw [if_neg (by exact hinstant)]
          exact iff_of_false nofun fun h => hinstant h.1.instant
      · rw [if_neg fun h => htime (spellsTime_iff.mp h.2)]
        exact iff_of_false nofun fun h => htime h.1.time
    · rw [if_neg fun h => hdate h.1]
      exact iff_of_false nofun fun h => hdate h.1.date

theorem isOk_resolve_iff :
    (∃ d, t.resolve standard start = .ok d) ↔ t.Resolvable standard start := by
  simp only [resolve_eq_ok_iff, exists_and_left, exists_eq, and_true]

/-- A tag that cannot be resolved is refused. -/
theorem resolve_eq_error_iff :
    (∃ cause, t.resolve standard start = .error cause) ↔ ¬t.Resolvable standard start := by
  rw [← isOk_resolve_iff]
  cases t.resolve standard start <;> simp

/-! ### Years -/

/-- The year to which a tag refers has its two digits, and is in the century that begins with the
first one if the tag has no more than two. -/
theorem fullYear_bounds (hstart : 0 ≤ start) (t : Time56) :
    t.fullYear start % 100 = t.year.toNat % 100 ∧
      (t.year.toNat ≤ 99 → start ≤ t.fullYear start ∧ t.fullYear start ≤ start + 99) := by
  simp only [fullYear, Int.tdiv_eq_ediv_of_nonneg hstart, Int.tmod_eq_emod_of_nonneg hstart]
  split <;> omega

/-- The last two digits of a year are all of it if it has no more. -/
theorem year_kept_iff (t : Time56) :
    { t with year := t.year % 100 } = t ↔ t.year.toNat ≤ 99 := by
  constructor
  · intro hsame
    have hyear : (t.year % 100).toNat = t.year.toNat := congrArg (·.year.toNat) hsame
    rw [UInt8.toNat_mod] at hyear
    have hlt : t.year.toNat % 100 < 100 := Nat.mod_lt _ (by decide)
    exact Nat.le_of_lt_succ (hyear ▸ hlt)
  · intro hyear
    have hsame : t.year % 100 = t.year := by
      rw [← UInt8.toNat_inj, UInt8.toNat_mod]
      exact Nat.mod_eq_of_lt (Nat.lt_succ_of_le hyear)
    rw [hsame]

/-! ### The tag of the instant of a tag -/

/-- The tag of the local time that a tag spells has its fields, except for the day of the week; of
the year it has the last two digits. -/
theorem ofZoned_zoned (hstart : 0 ≤ start) (h : t.SpellsTime start) (standard : Int) :
    { ofZoned (t.zoned standard start) standard t.invalid with dayOfWeek := t.dayOfWeek } =
      { t with year := t.year % 100 } := by
  obtain ⟨hyear, -⟩ := fullYear_bounds hstart t
  have hmilliseconds := h.milliseconds
  have hwithin : min (t.milliseconds.toNat % 1000 * 1000000 / 1000000) 999 =
      t.milliseconds.toNat % 1000 := by
    omega
  have hwhole : t.milliseconds.toNat / 1000 * 1000 + t.milliseconds.toNat % 1000 =
      t.milliseconds.toNat := by
    omega
  have hdigits : UInt8.ofNat (t.fullYear start % 100).toNat = t.year % 100 := by
    have hmod : (t.fullYear start % 100).toNat = (t.year % 100).toNat := by
      rw [hyear, UInt8.toNat_mod]
      rfl
    rw [hmod, UInt8.ofNat_toNat]
  rw [ofZoned_eq rfl, ofCalendar]
  simp only [zoned, calendar, CalendarTime.millisecond, hwithin, hwhole, hdigits,
    UInt8.ofNat_toNat, UInt16.ofNat_toNat]

/-- Every tag that can be resolved has an instant, and no other tag has one: its fields, apart from
the year, must lie within their ranges. The instant lies in the century that begins with the first
year, and its tag has the fields that were read except for the day of the week, exactly if the year
has two digits; otherwise the tag of the instant has the last two of them. So it is only its year
for which a tag out of range may be resolved. -/
theorem resolved_as_read_iff (hstart : 0 ≤ start) (standard : Int) (t : Time56) :
    ((∃ d, t.resolve standard start = .ok d) ↔ t.Resolvable standard start) ∧
      (¬t.InRange start →
        ((∃ cause, t.resolve standard start = .error cause) ↔
          ¬(99 < t.year.toNat ∧ t.Resolvable standard start))) ∧
      ∀ d, t.resolve standard start = .ok d →
        { ofZoned d standard t.invalid with dayOfWeek := t.dayOfWeek } =
            { t with year := t.year % 100 } ∧
          (d.calendar.date.IsWithinCentury start ∧
              { ofZoned d standard t.invalid with dayOfWeek := t.dayOfWeek } = t ↔
            t.year.toNat ≤ 99) := by
  refine ⟨isOk_resolve_iff, fun hrange => ?_, fun d hd => ?_⟩
  · have hyear : t.Resolvable standard start → 99 < t.year.toNat := fun h =>
      Nat.lt_of_not_le fun hyear => hrange ⟨h.time, hyear⟩
    rw [resolve_eq_error_iff, and_iff_right_of_imp hyear]
  · obtain ⟨hresolvable, rfl⟩ := resolve_eq_ok_iff.mp hd
    obtain ⟨-, hcentury⟩ := fullYear_bounds hstart t
    have htag := ofZoned_zoned hstart hresolvable.time standard
    rw [htag, year_kept_iff]
    exact ⟨rfl, and_iff_right_of_imp hcentury⟩

/-- A time on the leap day of a year that ends in 24. -/
def onLeapDay : Time56 where
  milliseconds := 15500
  minute := 30
  hour := 12
  day := 29
  month := 2
  year := 24

/-- The leap day of the year 2024, which is found from its last two digits, has the tag from which
it was read. -/
theorem leap_day_resolved_as_read :
    (0 : Int) ≤ 1970 ∧
      decode [0x8C, 0x3C, 0x1E, 0x0C, 0x1D, 0x02, 0x18] = .ok (onLeapDay, []) ∧
      ∃ d, onLeapDay.resolve 3600 1970 = .ok d ∧ d.calendar.date = ⟨2024, 2, 29⟩ ∧
        d.calendar.date.IsWithinCentury 1970 ∧
        { ofZoned d 3600 false with dayOfWeek := 0 } = onLeapDay := by
  have hstart : (0 : Int) ≤ 1970 := by decide
  have hresolve : onLeapDay.resolve 3600 1970 = .ok (onLeapDay.zoned 3600 1970) := rfl
  obtain ⟨-, -, hresolved⟩ := resolved_as_read_iff hstart 3600 onLeapDay
  obtain ⟨-, hread⟩ := hresolved _ hresolve
  obtain ⟨hcentury, hsame⟩ := hread.mpr (by decide)
  exact ⟨hstart, rfl, _, hresolve, rfl, hcentury, hsame⟩

/-- A tag with the year 127 is resolved to the year 2027, and the tag of that instant has the year
27. -/
theorem year_out_of_range_resolved :
    ∃ t d, decode [0x00, 0x00, 0x00, 0x00, 0x01, 0x01, 0x7F] = .ok (t, []) ∧
      t.year = 127 ∧ ¬t.InRange 1970 ∧ t.resolve 0 1970 = .ok d ∧
        d.calendar.date = ⟨2027, 1, 1⟩ ∧ (ofZoned d 0 t.invalid).year = 27 :=
  ⟨{ day := 1, month := 1, year := 127 }, _, rfl, rfl, fun h => absurd h.year (by decide),
    rfl, rfl, rfl⟩

end Time56

end Telecontrol
