import Clearance.Proofs.Time.Text

/-!
# Moments of every zone

A timestamp of the calendar is read from its texts whatever its zone is, if that is less than a day
away.  The wall clock is read as it was; of the zone it may be only a part that is told.
-/

namespace Clearance

open Time Decimal

/-- A timestamp of the calendar in a zone less than a day away. -/
structure Timestamp.Genuine (t : Timestamp) : Prop where
  wall_lt : t.wall < wallLimit
  offset_lt : ∀ offset, t.offset = some offset -> offset.natAbs < microsPerDay

theorem Timestamp.Portable.genuine {t : Timestamp} (h : t.Portable) : t.Genuine := by
  refine ⟨h.wall_lt, fun offset hoffset => ?_⟩
  obtain ⟨minutes, hlt, habs⟩ := h.offset offset hoffset
  simp only [microsPerDay, microsPerSecond] at *
  omega

namespace Schema

/-- The zone of a text with the letter Z is hours and minutes behind a sign. -/
theorem exists_readOffset?_minutes {minutes : Nat} (h : minutes < 1440) {sign : Char}
    (hsign : sign = '+' ∨ sign = '-') :
    ∃ offset, readOffset? (sign :: ((padLeft 2 (minutes / 60)).toList ++
      ':' :: (padLeft 2 (minutes % 60)).toList)) = some (some offset) := by
  obtain ⟨h₁, h₂, hhours, hh⟩ := @exists_two (minutes / 60) (by omega)
  obtain ⟨m₁, m₂, hminutes, hm⟩ := @exists_two (minutes % 60) (by omega)
  have hrange : ¬(59 < minutes % 60 ∨ 24 ≤ minutes / 60) := by omega
  rw [hhours, hminutes]
  obtain rfl | rfl := hsign
  all_goals
    simp [readOffset?, twoDigits?_spells hh, twoDigits?_spells hm, hrange]

/-- Behind the time of day a text with the letter Z has a zone that can be read, or none. -/
theorem exists_zone_zuluText {t : Timestamp} (h : t.Genuine) :
    ∃ zone offset, t.zuluText.toList = (Timestamp.dateText t.date).toList ++
        'T' :: ((Timestamp.hourMinuteSecond t.clock).toList ++
          ((Timestamp.microText t.clock.micro).toList ++ zone)) ∧
      Text.Stops (fun c => isDigit c || c == '.' || c == ',') zone ∧
      readOffset? zone = some offset := by
  cases ht : t.offset with
  | none => exact ⟨[], none, by simp [Timestamp.zuluText, ht], Text.stops_nil _, rfl⟩
  | some offset =>
      by_cases hzero : offset = 0
      · exact ⟨['Z'], some 0, by simp [Timestamp.zuluText, ht, hzero], by simp [isDigit], rfl⟩
      · have hminutes : offset.natAbs / (60 * microsPerSecond) < 1440 := by
          have hlt := h.offset_lt offset ht
          simp only [microsPerDay, microsPerSecond] at *
          omega
        obtain ⟨sign, hsign, htext⟩ : ∃ sign, (sign = '+' ∨ sign = '-') ∧
            (if offset < 0 then "-" else "+").toList = [sign] := by
          split
          · exact ⟨'-', .inr rfl, rfl⟩
          · exact ⟨'+', .inl rfl, rfl⟩
        obtain ⟨read, hoffset⟩ := exists_readOffset?_minutes hminutes hsign
        refine ⟨_, some read, by simp [Timestamp.zuluText, ht, htext], ?_, hoffset⟩
        obtain rfl | rfl := hsign <;> rw [Text.stops_cons] <;> rfl

/-- A timestamp is read from its text with the letter Z, but for its zone. -/
theorem exists_readMoment_zuluText {t : Timestamp} (h : t.Genuine) :
    ∃ offset, readMoment t.zuluText = .ok { t with offset } := by
  obtain ⟨zone, offset, htext, hstops, hzone⟩ := exists_zone_zuluText h
  refine ⟨offset, readMoment_of_readDayAndTime ?_⟩
  rw [htext]
  exact @readDayAndTime_text { t with offset } h.wall_lt zone hstops hzone

end Schema

namespace Time

/-- An offset that is not of whole minutes is a sign with a time of day behind it. -/
theorem offsetText_of_seconds {offset : Int}
    (h : ¬offset.natAbs % (60 * microsPerSecond) = 0) {c : Clock}
    (hc : c = { hour := offset.natAbs / microsPerSecond / 3600
                minute := offset.natAbs / microsPerSecond / 60 % 60
                second := offset.natAbs / microsPerSecond % 60
                micro := offset.natAbs % microsPerSecond }) :
    (Timestamp.offsetText offset).toList = (if offset < 0 then '-' else '+') ::
      ((Timestamp.hourMinuteSecond c).toList ++ (Timestamp.microText c.micro).toList) := by
  subst hc
  simp only [Timestamp.offsetText, if_neg h, Timestamp.hourMinuteSecond, String.toList_append]
  split <;> simp

/-- A time of day behind a sign is a zone. -/
theorem exists_readZone?_of_readClock? {mark : Char} {rest : List Char} {c : Clock}
    (hmark : mark ≠ 'Z') (hclock : readClock? rest = some (c, true)) :
    ∃ offset, readZone? mark rest = some offset ∧ offset.natAbs ≤ c.micros := by
  rw [readZone?, if_neg hmark, hclock]
  exact ⟨_, rfl, by split <;> split <;> omega⟩

/-- The zone of an offset is read as an offset of less than a day. -/
theorem exists_readZone?_offsetText {offset : Int} (h : offset.natAbs < microsPerDay) :
    ∃ mark rest read, (Timestamp.offsetText offset).toList = mark :: rest ∧
      isZoneMark mark = true ∧ readZone? mark rest = some read ∧ read.natAbs < microsPerDay := by
  by_cases hminutes : offset.natAbs % (60 * microsPerSecond) = 0
  · have hwhole : WholeMinutes offset := by
      refine ⟨offset.natAbs / (60 * microsPerSecond), ?_, ?_⟩
      all_goals
        simp only [microsPerDay, microsPerSecond] at *
        omega
    obtain ⟨mark, rest, htext, hmark, hzone⟩ := readZone?_offsetText hwhole
    exact ⟨mark, rest, offset, htext, hmark, hzone, h⟩
  · obtain ⟨c, hc⟩ : ∃ c : Clock, c = { hour := offset.natAbs / microsPerSecond / 3600
                                        minute := offset.natAbs / microsPerSecond / 60 % 60
                                        second := offset.natAbs / microsPerSecond % 60
                                        micro := offset.natAbs % microsPerSecond } := ⟨_, rfl⟩
    have hvalid : c.Valid := by
      subst hc
      constructor
      all_goals
        simp only [microsPerDay, microsPerSecond] at *
        omega
    have hlt : c.micros < microsPerDay := by
      have := hvalid.hour_lt
      have := hvalid.minute_lt
      have := hvalid.second_lt
      have := hvalid.micro_lt
      simp only [Clock.micros, microsPerDay, microsPerSecond] at *
      omega
    have hmark : (if offset < 0 then '-' else '+') ≠ 'Z' := by split <;> decide
    obtain ⟨read, hzone, hle⟩ := exists_readZone?_of_readClock? hmark (readClock?_text hvalid)
    refine ⟨_, _, read, offsetText_of_seconds hminutes hc, ?_, hzone, by omega⟩
    split <;> rfl

/-- A timestamp is read from its standard text, but for its zone. -/
theorem exists_readIso_isoText {t : Timestamp} (h : t.Genuine) :
    ∃ offset, readIso t.isoText = .ok { t with offset } := by
  cases ht : t.offset with
  | none =>
      refine ⟨none, readIso_of_readTime h.wall_lt ?_⟩
      rw [ht]
      exact readTime_text t.valid_clock fun o ho => nomatch ho
  | some offset =>
      obtain ⟨mark, rest, read, htext, hmark, hzone, hday⟩ :=
        exists_readZone?_offsetText (h.offset_lt offset ht)
      refine ⟨some read, readIso_of_readTime h.wall_lt ?_⟩
      rw [ht, Option.map_some, Option.getD_some, htext]
      exact readTime_zone t.valid_clock hmark hzone hday

end Time

end Clearance
