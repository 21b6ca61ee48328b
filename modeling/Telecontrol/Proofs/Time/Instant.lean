import Telecontrol.Proofs.Element.RoundTrip
import Telecontrol.Proofs.Time.Calendar
import Telecontrol.Time.Conversion

/-!
# Time tags keep instants

The fields of a tag spell local time in whole milliseconds (`Time56.calendar_ofCalendar`), and its
seven octets hold all of them (`Time56.decode_octets`). With the flag for summer time they lead back
to the instant of which the tag was made, if the years to which a tag may refer begin at most 99
years before it (`Time56.instants_kept`). So the hour that is repeated when summer time ends does
not confuse two instants.
-/

namespace Telecontrol

namespace CalendarTime

/-! ### Calendar time -/

/-- The time exists. Its nanoseconds may be those of a leap second. -/
structure IsValid (t : CalendarTime) : Prop where
  date : t.date.IsValid
  hour : t.hour < 24
  minute : t.minute < 60
  second : t.second < 60
  nanosecond : t.nanosecond < 2000000000

/-- The time in whole milliseconds, of which a leap second counts as the last one. -/
def truncated (t : CalendarTime) : CalendarTime :=
  { t with nanosecond := t.millisecond * 1000000 }

theorem isValid_ofMillis (millis : Int) : (ofMillis millis).IsValid := by
  have hday : 0 ≤ millis % 86400000 ∧ millis % 86400000 < 86400000 := by omega
  refine ⟨Date.isValid_ofDayNumber _, ?_, ?_, ?_, ?_⟩ <;>
    simp only [ofMillis, millisPerDay] <;> omega

/-- The time that was found for a number of milliseconds has as many. -/
theorem millis_ofMillis (millis : Int) : (ofMillis millis).millis = millis := by
  rw [CalendarTime.millis, ofMillis, Date.dayNumber_ofDayNumber, millisPerDay]
  simp only
  omega

theorem truncated_ofMillis (millis : Int) : (ofMillis millis).truncated = ofMillis millis := by
  have hmillisecond : min ((millis % millisPerDay).toNat % 1000 * 1000000 / 1000000) 999 =
      (millis % millisPerDay).toNat % 1000 := by
    omega
  simp only [truncated, millisecond, ofMillis, hmillisecond]

end CalendarTime

/-! ### Instants -/

/-- The instant lies within the supported years, by universal time. -/
def IsSupportedInstant (millis : Int) : Prop :=
  (Date.ofDayNumber (millis / millisPerDay)).IsSupported

instance (millis : Int) : Decidable (IsSupportedInstant millis) :=
  inferInstanceAs (Decidable (Date.IsSupported _))

namespace ZonedTime

/-- The local time of an instant given in milliseconds, at an offset. -/
def ofMillis (millis offset : Int) : ZonedTime :=
  ⟨CalendarTime.ofMillis (millis + 1000 * offset), offset⟩

/-- The time in whole milliseconds, at the same offset. -/
def truncated (t : ZonedTime) : ZonedTime := { t with calendar := t.calendar.truncated }

/-- The instant exists: its local time does, and it is supported. -/
structure IsValid (t : ZonedTime) : Prop where
  calendar : t.calendar.IsValid
  instant : IsSupportedInstant t.truncated.millis

theorem truncated_ofMillis (millis offset : Int) :
    (ofMillis millis offset).truncated = ofMillis millis offset := by
  rw [truncated, ofMillis, CalendarTime.truncated_ofMillis]

theorem millis_ofMillis (millis offset : Int) : (ofMillis millis offset).millis = millis := by
  show (CalendarTime.ofMillis _).millis - 1000 * offset = millis
  rw [CalendarTime.millis_ofMillis]
  omega

theorem isValid_ofMillis {millis : Int} (h : IsSupportedInstant millis) (offset : Int) :
    (ofMillis millis offset).IsValid := by
  refine ⟨CalendarTime.isValid_ofMillis _, ?_⟩
  rw [truncated_ofMillis, millis_ofMillis]
  exact h

end ZonedTime

/-- The offset of local time, which in summer is an hour more than that of standard time. -/
def shifted (standard : Int) (summer : Bool) : Int :=
  if summer then standard + summerShift else standard

theorem shifted_false (standard : Int) : shifted standard false = standard := rfl

theorem shifted_true (standard : Int) : shifted standard true = standard + 3600 := rfl

/-- An offset stays within a day. -/
def IsOffset (offset : Int) : Prop := -86400 < offset ∧ offset < 86400

instance (offset : Int) : Decidable (IsOffset offset) := inferInstanceAs (Decidable (_ ∧ _))

/-- A two-digit year refers to the year, if the first one to which it may refer is given. -/
def Date.IsWithinCentury (d : Date) (start : Int) : Prop :=
  start ≤ d.year ∧ d.year ≤ start + 99

instance (d : Date) (start : Int) : Decidable (d.IsWithinCentury start) :=
  inferInstanceAs (Decidable (_ ∧ _))

namespace Time56

variable {standard start millis : Int} {summer : Bool}

theorem localOffset_eq (h : IsOffset (shifted standard summer)) :
    localOffset standard summer = .ok (shifted standard summer) := by
  cases summer with
  | false => rfl
  | true => exact if_pos h

theorem shifted_ne_standard (standard : Int) (summer : Bool) :
    (shifted standard summer != standard) = summer := by
  cases summer with
  | false => exact bne_self_eq_false _
  | true =>
    rw [shifted, if_pos rfl, summerShift, bne_iff_ne]
    omega

/-! ### Tags of local time -/

section Calendar

variable {t : CalendarTime}

theorem fits_ofCalendar (h : t.IsValid) (summer invalid : Bool) :
    (ofCalendar t summer invalid).Fits := by
  obtain ⟨-, hmonth, -, hday⟩ := h.date
  have hhour := h.hour
  have hminute := h.minute
  have hlast := daysInMonth_le t.date.year t.date.month
  have hweekday : t.date.weekday ≤ 7 := by
    unfold Date.weekday
    omega
  constructor <;> simp only [ofCalendar, UInt8.toNat_ofNat'] <;> omega

/-- The year is found from its last two digits. -/
theorem fullYear_ofCalendar (hstart : 0 ≤ start) (hyear : t.date.IsWithinCentury start)
    (summer invalid : Bool) : (ofCalendar t summer invalid).fullYear start = t.date.year := by
  obtain ⟨hfirst, hlast⟩ := hyear
  have hdigits : (UInt8.ofNat (t.date.year % 100).toNat).toNat = (t.date.year % 100).toNat := by
    rw [UInt8.toNat_ofNat']
    omega
  simp only [fullYear, ofCalendar, hdigits, Int.tdiv_eq_ediv_of_nonneg hstart,
    Int.tmod_eq_emod_of_nonneg hstart]
  split <;> omega

/-- The fields of a tag spell the local time of which it was made, in whole milliseconds. -/
theorem calendar_ofCalendar (h : t.IsValid) (hstart : 0 ≤ start)
    (hyear : t.date.IsWithinCentury start) (summer invalid : Bool) :
    (ofCalendar t summer invalid).calendar start = t.truncated := by
  obtain ⟨-, hmonth, -, hday⟩ := h.date
  have hhour := h.hour
  have hminute := h.minute
  have hsecond := h.second
  have hlast := daysInMonth_le t.date.year t.date.month
  have hmillisecond : t.millisecond ≤ 999 := Nat.min_le_right _ _
  have hoctet : ∀ n < 256, (UInt8.ofNat n).toNat = n := fun n => UInt8.toNat_ofNat_of_lt'
  have hwithin : (UInt16.ofNat (t.second * 1000 + t.millisecond)).toNat =
      t.second * 1000 + t.millisecond :=
    UInt16.toNat_ofNat_of_lt' (Nat.lt_trans (m := 60000) (by omega) (by decide))
  have hquotient : (t.second * 1000 + t.millisecond) / 1000 = t.second := by omega
  have hremainder : (t.second * 1000 + t.millisecond) % 1000 = t.millisecond := by omega
  rw [calendar, fullYear_ofCalendar hstart hyear]
  simp only [ofCalendar, hwithin, hquotient, hremainder, CalendarTime.truncated]
  rw [hoctet _ (by omega), hoctet _ (by omega), hoctet _ (by omega), hoctet _ (by omega)]

end Calendar

/-- The octets of a tag hold its fields. -/
theorem decode_octets {tag : Time56} (h : tag.Fits) (rest : Octets) :
    decode (tag.octets ++ rest) = .ok (tag, rest) := by
  have hlength : tag.octets.length = width := Octets.length_ofNat _ _
  have hroom : ¬(tag.octets ++ rest).length < width := by
    rw [List.length_append, hlength]
    omega
  rw [decode, if_neg hroom, List.take_left' hlength, List.drop_left' hlength, octets,
    Octets.toNat_ofNat, Nat.mod_eq_of_lt tag.number_lt, ofNumber_number, h.clipped_eq]

theorem octets_injective {tag tag' : Time56} (h : tag.Fits) (h' : tag'.Fits)
    (heq : tag.octets = tag'.octets) : tag = tag' := by
  have hdecode := decode_octets h []
  rw [heq, decode_octets h' []] at hdecode
  exact (Prod.mk.inj (Except.ok.inj hdecode)).1.symm

/-! ### Tags of instants -/

/-- A tag leads back to the instant of which it was made. -/
theorem resolve_ofZoned {t : ZonedTime} (h : t.IsValid) (hstart : 0 ≤ start)
    (hoffset : t.offset = shifted standard summer) (hrange : IsOffset t.offset)
    (hyear : t.calendar.date.IsWithinCentury start) (hdate : t.calendar.date.IsSupported)
    (invalid : Bool) : (ofZoned t standard invalid).resolve standard start = .ok t.truncated := by
  have hlocal := localOffset_eq (hoffset ▸ hrange)
  have hsummer : (t.offset != standard) = summer := by
    rw [hoffset]
    exact shifted_ne_standard standard summer
  have hspelled := calendar_ofCalendar h.calendar hstart hyear summer invalid
  have hexists : t.calendar.truncated.date.IsSupported ∧ t.calendar.truncated.date.IsValid ∧
      t.calendar.truncated.hour < 24 ∧ t.calendar.truncated.minute < 60 ∧
      t.calendar.truncated.second < 60 :=
    ⟨hdate, h.calendar.date, h.calendar.hour, h.calendar.minute, h.calendar.second⟩
  have hzoned : (⟨t.calendar.truncated, shifted standard summer⟩ : ZonedTime) = t.truncated := by
    rw [← hoffset]
    rfl
  have hsupported : (Date.ofDayNumber (t.truncated.millis / millisPerDay)).IsSupported := h.instant
  have hflag : (ofCalendar t.calendar summer invalid).summerTime = summer := rfl
  rw [ofZoned, hsummer, resolve, hflag, hlocal]
  simp only [bind, Except.bind, hspelled, if_pos hexists, hzoned, if_pos hsupported]
  rfl

theorem ofMillis_of_supported (hoffset : IsOffset (shifted standard summer))
    (h : IsSupportedInstant millis) :
    ofMillis millis standard summer =
      .ok (ofZoned (ZonedTime.ofMillis millis (shifted standard summer)) standard false) := by
  have hsupported : (Date.ofDayNumber (millis / millisPerDay)).IsSupported := h
  rw [ofMillis, localOffset_eq hoffset]
  simp only [bind, Except.bind, if_pos hsupported]
  rfl

theorem ofMillis_of_not_supported (hoffset : IsOffset (shifted standard summer))
    (h : ¬IsSupportedInstant millis) :
    ofMillis millis standard summer = .error (.invalidAsdu .instantRange) := by
  have hsupported : ¬(Date.ofDayNumber (millis / millisPerDay)).IsSupported := h
  rw [ofMillis, localOffset_eq hoffset]
  simp only [bind, Except.bind, if_neg hsupported]

theorem ofZoned_eq {t : ZonedTime} (hoffset : t.offset = shifted standard summer)
    (invalid : Bool) : ofZoned t standard invalid = ofCalendar t.calendar summer invalid := by
  rw [ofZoned, hoffset, shifted_ne_standard]

/-- The tag of an instant, if it has one. -/
theorem eq_of_ofMillis {tag : Time56} (h : ofMillis millis standard summer = .ok tag) :
    tag =
      ofCalendar (ZonedTime.ofMillis millis (shifted standard summer)).calendar summer false := by
  have hmake : ∀ offset, localOffset standard summer = .ok offset →
      offset = shifted standard summer := by
    intro offset hlocal
    cases summer with
    | false => exact (Except.ok.inj hlocal).symm
    | true =>
      rw [localOffset, if_pos rfl] at hlocal
      split at hlocal
      · exact (Except.ok.inj hlocal).symm
      · cases hlocal
  rw [ofMillis] at h
  cases hlocal : localOffset standard summer with
  | error fault =>
    rw [hlocal] at h
    cases h
  | ok offset =>
    obtain rfl := hmake offset hlocal
    rw [hlocal] at h
    simp only [bind, Except.bind] at h
    split at h
    · cases h
      exact ofZoned_eq (t := ZonedTime.ofMillis millis (shifted standard summer)) rfl false
    · cases h

/-- An instant in summer time and the one an hour later in standard time have tags that spell the
same local time and differ in the flag for summer time, and in their octets. -/
theorem repeated_hour_distinct {tag tag' : Time56} (htag : ofMillis millis standard true = .ok tag)
    (htag' : ofMillis (millis + 3600000) standard false = .ok tag') :
    tag' = { tag with summerTime := false } ∧ tag.octets ≠ tag'.octets := by
  obtain rfl := eq_of_ofMillis htag
  obtain rfl := eq_of_ofMillis htag'
  have hsame : (ZonedTime.ofMillis (millis + 3600000) (shifted standard false)).calendar =
      (ZonedTime.ofMillis millis (shifted standard true)).calendar := by
    have hlocal : millis + 3600000 + 1000 * shifted standard false =
        millis + 1000 * shifted standard true := by
      rw [shifted_false, shifted_true]
      omega
    rw [ZonedTime.ofMillis, ZonedTime.ofMillis, hlocal]
  rw [hsame]
  refine ⟨rfl, fun heq => ?_⟩
  have hvalid : (ZonedTime.ofMillis millis (shifted standard true)).calendar.IsValid :=
    CalendarTime.isValid_ofMillis _
  have htags := octets_injective (fits_ofCalendar hvalid true false)
    (fits_ofCalendar hvalid false false) heq
  have hflags : true = false := congrArg summerTime htags
  cases hflags

/-- The octets of a tag hold it, and it leads back to the instant of which it was made. -/
theorem ofZoned_kept {t : ZonedTime} (h : t.IsValid) (hstart : 0 ≤ start)
    (hoffset : t.offset = shifted standard summer) (hrange : IsOffset t.offset)
    (hyear : t.calendar.date.IsWithinCentury start) (hdate : t.calendar.date.IsSupported)
    (invalid : Bool) :
    decode (ofZoned t standard invalid).octets = .ok (ofZoned t standard invalid, []) ∧
      (ofZoned t standard invalid).resolveMillis standard start = .ok t.truncated.millis := by
  constructor
  · have hfits := fits_ofCalendar h.calendar summer invalid
    rw [← ofZoned_eq hoffset] at hfits
    have hdecode := decode_octets hfits []
    rwa [List.append_nil] at hdecode
  · rw [resolveMillis, resolve_ofZoned h hstart hoffset hrange hyear hdate invalid]
    rfl

/-- A time of standard or of summer time is kept by its tag, and by the octets of the tag, if the
years to which the tag may refer begin at most 99 years before it.

An instant given in milliseconds has a tag if it is supported. One given as local time, which
exists, is kept in whole milliseconds. The two instants of an hour that is repeated when summer
time ends have tags that differ in nothing but the flag for summer time, and in their octets. -/
theorem instants_kept (hstart : 0 ≤ start) (hoffset : IsOffset (shifted standard summer)) :
    (∀ millis : Int,
      let spelled := (ZonedTime.ofMillis millis (shifted standard summer)).calendar
      spelled.date.IsWithinCentury start → spelled.date.IsSupported →
        (IsSupportedInstant millis →
          ∃ tag, ofMillis millis standard summer = .ok tag ∧ tag.octets.length = 7 ∧
            decode tag.octets = .ok (tag, []) ∧ tag.resolveMillis standard start = .ok millis) ∧
        (¬IsSupportedInstant millis →
          ofMillis millis standard summer = .error (.invalidAsdu .instantRange))) ∧
      (∀ (t : ZonedTime) (invalid : Bool), t.IsValid → t.offset = shifted standard summer →
        t.calendar.date.IsWithinCentury start → t.calendar.date.IsSupported →
          decode (ofZoned t standard invalid).octets = .ok (ofZoned t standard invalid, []) ∧
            (ofZoned t standard invalid).resolveMillis standard start =
              .ok t.truncated.millis) ∧
      ∀ (millis : Int) (tag tag' : Time56), ofMillis millis standard true = .ok tag →
        ofMillis (millis + 3600000) standard false = .ok tag' →
          tag' = { tag with summerTime := false } ∧ tag.octets ≠ tag'.octets := by
  refine ⟨?_, ?_, fun _ _ _ => repeated_hour_distinct⟩
  · intro millis spelled hyear hdate
    refine ⟨fun hsupported => ?_, ofMillis_of_not_supported hoffset⟩
    have hvalid := ZonedTime.isValid_ofMillis hsupported (shifted standard summer)
    obtain ⟨hdecode, hresolve⟩ := ofZoned_kept hvalid hstart rfl hoffset hyear hdate false
    rw [ZonedTime.truncated_ofMillis, ZonedTime.millis_ofMillis] at hresolve
    exact ⟨_, ofMillis_of_supported hoffset hsupported, Octets.length_ofNat _ _, hdecode,
      hresolve⟩
  · intro t invalid hvalid heq hyear hdate
    exact ofZoned_kept hvalid hstart heq (heq ▸ hoffset) hyear hdate invalid

/-- The last millisecond of summer time in the year 2018, one hour ahead of universal time in
winter, and the same local time an hour later. -/
theorem end_of_summer_kept :
    (0 : Int) ≤ 1970 ∧ IsOffset (shifted 3600 true) ∧
      ofMillis 1540688399999 3600 true =
        .ok (ofNumber (Octets.toNat [0x5F, 0xEA, 0x3B, 0x82, 0xFC, 0x0A, 0x12])) ∧
      ofMillis 1540691999999 3600 false =
        .ok (ofNumber (Octets.toNat [0x5F, 0xEA, 0x3B, 0x02, 0xFC, 0x0A, 0x12])) ∧
      (ofNumber (Octets.toNat [0x5F, 0xEA, 0x3B, 0x82, 0xFC, 0x0A, 0x12])).resolveMillis
        3600 1970 = .ok 1540688399999 := by
  have htag : ofMillis 1540688399999 3600 true =
      .ok (ofNumber (Octets.toNat [0x5F, 0xEA, 0x3B, 0x82, 0xFC, 0x0A, 0x12])) := rfl
  obtain ⟨hkept, -, -⟩ :=
    instants_kept (by decide : (0 : Int) ≤ 1970) (by decide : IsOffset (shifted 3600 true))
  obtain ⟨hsupported, -⟩ := hkept 1540688399999 (by decide) (by decide)
  obtain ⟨tag, hmade, -, -, hresolve⟩ := hsupported (by decide)
  obtain rfl := Except.ok.inj (hmade.symm.trans htag)
  exact ⟨by decide, by decide, htag, rfl, hresolve⟩

/-- The last hour of the supported years at an offset of one hour behind universal time. There the
next year has begun by universal time, so the instant is not supported. -/
theorem last_hour_without_tag :
    let millis : Int := 8210266876800000
    let spelled := ZonedTime.ofMillis millis (shifted (-3600) false)
    spelled.calendar = { date := ⟨262142, 12, 31⟩, hour := 23, minute := 0, second := 0 } ∧
      spelled.calendar.date.IsWithinCentury 262100 ∧ spelled.calendar.date.IsSupported ∧
      ofMillis millis (-3600) false = .error (.invalidAsdu .instantRange) := by
  exact ⟨by decide, by decide, by decide, rfl⟩

end Time56

end Telecontrol
