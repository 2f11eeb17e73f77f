import Clearance.Proofs.Decimal.Digits
import Clearance.Proofs.Text.Front
import Clearance.Proofs.Time.Calendar
import Clearance.Schema.Moment
import Clearance.Time.Iso
import Mathlib.Data.List.Basic

/-!
# Timestamp texts read back

A timestamp whose offset is a whole number of minutes is read back from its standard text, by the
reader of standard texts, and from its text with the letter Z, by the reader of timestamps in data.
-/

namespace Clearance

/-- A text has no more characters than bytes. -/
theorem Text.length_le_utf8ByteSize (cs : List Char) :
    cs.length ≤ (String.ofList cs).utf8ByteSize := by
  induction cs with
  | nil => exact Nat.zero_le _
  | cons c rest ih =>
      have hc := Char.utf8Size_pos c
      have hsingle : (String.ofList [c]).utf8ByteSize = c.utf8Size := by
        rw [← String.size_toByteArray, String.toByteArray_ofList, List.utf8Encode_singleton,
          List.size_toByteArray, String.length_utf8EncodeChar]
      rw [← List.singleton_append, String.ofList_append, String.utf8ByteSize_append, hsingle,
        List.singleton_append, List.length_cons]
      omega

namespace Decimal

/-- Decimal digits that write a number. -/
structure Spells (n : Nat) (cs : List Char) : Prop where
  digits : ∀ c ∈ cs, isDigit c = true
  value : readNat? 10 cs = some n

theorem spells_padLeft (width n : Nat) : Spells n (padLeft width n).toList :=
  ⟨fun _ hc => isDigit_padLeft hc, readNat?_padLeft width n⟩

theorem exists_two {n : Nat} (h : n < 100) :
    ∃ a b, (padLeft 2 n).toList = [a, b] ∧ Spells n [a, b] := by
  obtain ⟨a, b, hab⟩ := List.length_eq_two.1 (@length_padLeft 2 n (by decide) h)
  exact ⟨a, b, hab, hab ▸ spells_padLeft 2 n⟩

theorem exists_four {n : Nat} (h : n < 10000) :
    ∃ a b c d, (padLeft 4 n).toList = [a, b, c, d] ∧ Spells n [a, b, c, d] := by
  have hlength := @length_padLeft 4 n (by decide) h
  have hspells := spells_padLeft 4 n
  match hcs : (padLeft 4 n).toList, hlength with
  | [a, b, c, d], _ => exact ⟨a, b, c, d, rfl, hcs ▸ hspells⟩

end Decimal

open Time Decimal

namespace Time

/-- An offset of whole minutes that is less than a day. -/
def WholeMinutes (offset : Int) : Prop :=
  ∃ minutes : Nat, minutes < 1440 ∧ offset.natAbs = minutes * (60 * microsPerSecond)

end Time

/-- A timestamp of the calendar that has no offset or one of whole minutes. -/
structure Timestamp.Portable (t : Timestamp) : Prop where
  wall_lt : t.wall < wallLimit
  offset : ∀ offset, t.offset = some offset -> WholeMinutes offset

namespace Time

theorem Date.Valid.month_lt {d : Date} (h : d.Valid) : d.month < 100 := by
  have := h.month_le
  omega

theorem Date.Valid.day_lt {d : Date} (h : d.Valid) : d.day < 100 := by
  have hle : ∀ n ∈ monthLengths d.year, n ≤ 31 := by
    unfold monthLengths
    split <;> decide
  have hlength : daysInMonth d.year d.month ≤ 31 := by
    unfold daysInMonth
    cases hn : (monthLengths d.year)[d.month - 1]? with
    | none => exact Nat.zero_le _
    | some n => exact hle n (List.mem_of_getElem? hn)
  have := h.day_le
  omega

/-- The text of a date: year, month and day with dashes between them. -/
theorem exists_dateText {d : Date} (h : d.Valid) :
    ∃ y₁ y₂ y₃ y₄ m₁ m₂ d₁ d₂,
      (Timestamp.dateText d).toList = [y₁, y₂, y₃, y₄, '-', m₁, m₂, '-', d₁, d₂] ∧
        Spells d.year [y₁, y₂, y₃, y₄] ∧ Spells d.month [m₁, m₂] ∧ Spells d.day [d₁, d₂] := by
  obtain ⟨y₁, y₂, y₃, y₄, hyear, hy⟩ := exists_four (Nat.lt_succ_of_le h.year_le)
  obtain ⟨m₁, m₂, hmonth, hm⟩ := exists_two h.month_lt
  obtain ⟨d₁, d₂, hday, hd⟩ := exists_two h.day_lt
  refine ⟨y₁, y₂, y₃, y₄, m₁, m₂, d₁, d₂, ?_, hy, hm, hd⟩
  simp only [Timestamp.dateText, String.toList_append, hyear, hmonth, hday]
  rfl

theorem exists_hourMinuteSecond {c : Clock} (h : c.Valid) :
    ∃ h₁ h₂ m₁ m₂ s₁ s₂,
      (Timestamp.hourMinuteSecond c).toList = [h₁, h₂, ':', m₁, m₂, ':', s₁, s₂] ∧
        Spells c.hour [h₁, h₂] ∧ Spells c.minute [m₁, m₂] ∧ Spells c.second [s₁, s₂] := by
  have hlt : c.hour < 100 ∧ c.minute < 100 ∧ c.second < 100 := by
    have := h.hour_lt
    have := h.minute_lt
    have := h.second_lt
    omega
  obtain ⟨h₁, h₂, hhour, hh⟩ := exists_two hlt.1
  obtain ⟨m₁, m₂, hminute, hm⟩ := exists_two hlt.2.1
  obtain ⟨s₁, s₂, hsecond, hs⟩ := exists_two hlt.2.2
  refine ⟨h₁, h₂, m₁, m₂, s₁, s₂, ?_, hh, hm, hs⟩
  simp only [Timestamp.hourMinuteSecond, String.toList_append, hhour, hminute, hsecond]
  rfl

/-- The text of an offset: a sign, and hours and minutes with a colon between them. -/
theorem exists_offsetText {offset : Int} (h : WholeMinutes offset) :
    ∃ sign h₁ h₂ m₁ m₂ hours minutes,
      (Timestamp.offsetText offset).toList = [sign, h₁, h₂, ':', m₁, m₂] ∧
        Spells hours [h₁, h₂] ∧ Spells minutes [m₁, m₂] ∧ hours < 24 ∧ minutes < 60 ∧
        (sign = '+' ∧ offset = (hours * 60 + minutes : Nat) * (60 * microsPerSecond : Nat) ∨
          sign = '-' ∧ offset = -((hours * 60 + minutes : Nat) * (60 * microsPerSecond : Nat))) := by
  obtain ⟨minutes, hlt, habs⟩ := h
  simp only [microsPerSecond] at habs
  obtain ⟨h₁, h₂, hhours, hh⟩ := @exists_two (minutes / 60) (by omega)
  obtain ⟨m₁, m₂, hminutes, hm⟩ := @exists_two (minutes % 60) (by omega)
  have hseconds : offset.natAbs / 1000000 / 3600 = minutes / 60 ∧
      offset.natAbs / 1000000 / 60 % 60 = minutes % 60 := by omega
  have hwhole : offset.natAbs % (60 * 1000000) = 0 := by omega
  refine ⟨if offset < 0 then '-' else '+', h₁, h₂, m₁, m₂, minutes / 60, minutes % 60, ?_, hh, hm,
    by omega, by omega, ?_⟩
  · simp only [Timestamp.offsetText, microsPerSecond, if_pos hwhole, String.toList_append, hseconds,
      hhours, hminutes]
    split <;> rfl
  · simp only [microsPerSecond]
    split
    · exact .inr ⟨rfl, by omega⟩
    · exact .inl ⟨rfl, by omega⟩

theorem zuluText_of_offset {t : Timestamp} {offset : Int} (ht : t.offset = some offset)
    (hne : offset ≠ 0) (h : WholeMinutes offset) : t.zuluText = t.isoText := by
  obtain ⟨minutes, hlt, habs⟩ := h
  have hwhole : offset.natAbs % (60 * microsPerSecond) = 0 := by
    rw [habs, Nat.mul_mod_left]
  have hhours : offset.natAbs / microsPerSecond / 3600
      = offset.natAbs / (60 * microsPerSecond) / 60 := by
    simp only [microsPerSecond]
    omega
  have hminutes : offset.natAbs / microsPerSecond / 60 % 60
      = offset.natAbs / (60 * microsPerSecond) % 60 := by
    simp only [microsPerSecond]
    omega
  simp only [Timestamp.zuluText, Timestamp.isoText, Timestamp.isoTextWith, ht, Option.map_some,
    Option.getD_some, Timestamp.offsetText, if_pos hwhole, hhours, hminutes]

theorem toList_isoText (t : Timestamp) : t.isoText.toList =
    (Timestamp.dateText t.date).toList ++ 'T' :: ((Timestamp.hourMinuteSecond t.clock).toList ++
      ((Timestamp.microText t.clock.micro).toList ++
        ((t.offset.map Timestamp.offsetText).getD "").toList)) := by
  simp [Timestamp.isoText, Timestamp.isoTextWith]

/-- The text of the microseconds: nothing, or a point and six digits. -/
theorem microText_cases {micro : Nat} (h : micro < microsPerSecond) :
    micro = 0 ∧ (Timestamp.microText micro).toList = [] ∨
      ∃ digits, (Timestamp.microText micro).toList = '.' :: digits ∧ digits.length = 6 ∧
        Spells micro digits := by
  unfold Timestamp.microText
  split
  · rename_i hzero
    exact .inl ⟨hzero, rfl⟩
  · refine .inr ⟨(padLeft 6 micro).toList, by simp, length_padLeft (by decide) h, ?_⟩
    exact spells_padLeft 6 micro

end Time

/-! ## By the reader of timestamps in data -/

namespace Schema

theorem twoDigits?_spells {n : Nat} {a b : Char} (h : Spells n [a, b]) (rest : List Char) :
    twoDigits? (a :: b :: rest) = some (n, rest) := by
  rw [twoDigits?, h.value]
  rfl

theorem readDay_dateText {d : Date} (h : d.Valid) (rest : List Char) :
    readDay ((Timestamp.dateText d).toList ++ rest) = .ok (d, rest) := by
  obtain ⟨y₁, y₂, y₃, y₄, m₁, m₂, d₁, d₂, hdate, hy, hm, hd⟩ := exists_dateText h
  have hsize := Text.length_le_utf8ByteSize ((Timestamp.dateText d).toList ++ rest)
  have hlong : ¬(String.ofList ((Timestamp.dateText d).toList ++ rest)).utf8ByteSize < 10 := by
    rw [List.length_append, hdate] at hsize
    rw [hdate]
    simp only [List.length_cons, List.length_nil] at hsize
    omega
  have hmonth : ¬(d.month < 1 ∨ 12 < d.month) := by
    have := h.month_pos
    have := h.month_le
    omega
  have hday : ¬(d.day < 1 ∨ daysInMonth d.year d.month < d.day) := by
    have := h.day_pos
    have := h.day_le
    omega
  have hyear : ¬d.year < 1 := Nat.not_lt.2 h.year_pos
  rw [readDay, if_neg hlong, hdate]
  simp only [List.cons_append, List.nil_append, List.take, List.drop, hy.value,
    twoDigits?_spells hm, twoDigits?_spells hd, Bool.or_eq_true, decide_eq_true_eq, if_neg hmonth,
    if_neg hday, if_neg hyear]

theorem readSeconds?_text {second micro : Nat} {s₁ s₂ : Char} {zone : List Char}
    (hs : Spells second [s₁, s₂]) (hsecond : second < 60) (hmicro : micro < microsPerSecond)
    (hzone : Text.Stops (fun c => isDigit c || c == '.' || c == ',') zone) :
    readSeconds? (':' :: s₁ :: s₂ :: ((Timestamp.microText micro).toList ++ zone))
      = some ((second, micro), zone) := by
  have hle : ¬59 < second := by omega
  rcases microText_cases hmicro with ⟨rfl, hnone⟩ | ⟨digits, hdigits, hlength, hspells⟩
  · rw [hnone, List.nil_append]
    cases zone with
    | nil => simp [readSeconds?, twoDigits?_spells hs, hle]
    | cons c more =>
        simp only [Text.stops_cons, Bool.or_eq_false_iff, beq_eq_false_iff_ne] at hzone
        simp [readSeconds?, twoDigits?_spells hs, hle, hzone]
  · have hstop : Text.Stops isDigit zone := by
      intro c hc
      have := hzone c hc
      simp only [Bool.or_eq_false_iff] at this
      exact this.1.1
    have htake := Text.takeWhile_append_stop hspells.digits hstop
    have hne : digits ≠ [] := List.ne_nil_of_length_pos (by omega)
    have hsix : digits.take 6 = digits := List.take_of_length_le (by omega)
    have hdrop : (digits ++ zone).drop 6 = zone := by rw [← hlength, List.drop_left]
    rw [hdigits]
    simp only [readSeconds?, List.cons_append, twoDigits?_spells hs, Option.bind_eq_bind,
      Option.bind_some, if_neg hle, htake, List.isEmpty_iff, hne, if_false, hsix, hspells.value,
      Option.map_some, hlength, hdrop]
    simp

theorem readOffset?_offsetText {offset : Int} (h : WholeMinutes offset) :
    readOffset? (Timestamp.offsetText offset).toList = some (some offset) := by
  obtain ⟨sign, h₁, h₂, m₁, m₂, hours, minutes, htext, hh, hm, hhours, hminutes, hvalue⟩ :=
    exists_offsetText h
  have hrange : ¬(59 < minutes ∨ 24 ≤ hours) := by omega
  rw [htext]
  rcases hvalue with ⟨rfl, hvalue⟩ | ⟨rfl, hvalue⟩
  all_goals simp [readOffset?, twoDigits?_spells hh, twoDigits?_spells hm, hrange, hvalue]

theorem readDayAndTime_text {t : Timestamp} (hwall : t.wall < wallLimit) {zone : List Char}
    (hzone : Text.Stops (fun c => isDigit c || c == '.' || c == ',') zone)
    (hoffset : readOffset? zone = some t.offset) :
    readDayAndTime ((Timestamp.dateText t.date).toList ++
      'T' :: ((Timestamp.hourMinuteSecond t.clock).toList ++
        ((Timestamp.microText t.clock.micro).toList ++ zone))) = .ok t := by
  have hclock := t.valid_clock
  obtain ⟨h₁, h₂, m₁, m₂, s₁, s₂, htext, hh, hm, hs⟩ := exists_hourMinuteSecond hclock
  have hrange : ¬(23 < t.clock.hour ∨ 59 < t.clock.minute) := by
    have := hclock.hour_lt
    have := hclock.minute_lt
    omega
  have hseconds := readSeconds?_text hs hclock.second_lt hclock.micro_lt hzone
  have hparts := Timestamp.ofParts_parts hwall
  rw [readDayAndTime, readDay_dateText (Timestamp.date_spec hwall).1, htext]
  simp [bind, Except.bind, pure, Except.pure, twoDigits?_spells hh, twoDigits?_spells hm, hrange,
    hseconds, hoffset, hparts]

theorem readMoment_of_readDayAndTime {s : String} {t : Timestamp}
    (h : readDayAndTime s.toList = .ok t) : readMoment s = .ok t := by
  simp only [readMoment, h]

/-- A timestamp of the calendar is read back from its text with the letter Z. -/
theorem readMoment_zuluText {t : Timestamp} (h : t.Portable) : readMoment t.zuluText = .ok t := by
  obtain ⟨hwall, hoffset⟩ := h
  refine readMoment_of_readDayAndTime ?_
  have hread := @readDayAndTime_text t hwall
  cases ht : t.offset with
  | none =>
      have hnone : t.zuluText = t.isoText := by
        simp [Timestamp.zuluText, Timestamp.isoText, Timestamp.isoTextWith, ht]
      rw [hnone, toList_isoText, ht]
      exact hread (Text.stops_nil _) (by rw [ht]; rfl)
  | some offset =>
      by_cases hzero : offset = 0
      · subst hzero
        have hzulu : t.zuluText.toList = (Timestamp.dateText t.date).toList ++
            'T' :: ((Timestamp.hourMinuteSecond t.clock).toList ++
              ((Timestamp.microText t.clock.micro).toList ++ ['Z'])) := by
          simp [Timestamp.zuluText, ht]
        rw [hzulu]
        exact hread (by simp [isDigit]) (by rw [ht]; rfl)
      · have hminutes := hoffset offset ht
        rw [zuluText_of_offset ht hzero hminutes, toList_isoText, ht]
        refine hread ?_ (by rw [ht]; exact readOffset?_offsetText hminutes)
        obtain ⟨sign, _, _, _, _, _, _, htext, -, -, -, -, hsign⟩ := exists_offsetText hminutes
        rw [Option.map_some, Option.getD_some, htext, Text.stops_cons]
        rcases hsign with ⟨rfl, -⟩ | ⟨rfl, -⟩ <;> rfl

end Schema

/-! ## By the reader of standard texts -/

namespace Time

theorem takeNat?_append {n : Nat} {cs : List Char} (h : Spells n cs) (rest : List Char) :
    takeNat? cs.length (cs ++ rest) = some (n, rest) := by
  simp [takeNat?, h.value]

theorem readUnits?_last {n : Nat} {a b : Char} (h : Spells n [a, b]) (more : Nat)
    (colons? : Option Bool) :
    readUnits? more colons? [a, b] = some { units := [n], isWhole := true } := by
  have hfront := takeNat?_append h []
  unfold readUnits?
  simp only [List.length_cons, List.length_nil, List.append_nil] at hfront
  simp [hfront]

/-- Behind a colon the finer units follow. -/
theorem readUnits?_colon {n more : Nat} {a b c : Char} (h : Spells n [a, b]) (rest : List Char)
    {colons? : Option Bool} (hcolons : colons?.getD true = true) :
    readUnits? (more + 1) colons? (a :: b :: ':' :: c :: rest) =
      (readUnits? more (some true) (c :: rest)).map fun r => { r with units := n :: r.units } := by
  have hfront := takeNat?_append h (':' :: c :: rest)
  simp only [List.length_cons, List.length_nil, List.cons_append, List.nil_append] at hfront
  rw [readUnits?]
  simp only [hfront]
  cases hfiner : readUnits? more (some true) (c :: rest) <;> simp [hfiner, hcolons]

/-- Behind a point the fraction follows. -/
theorem readUnits?_point {n micro more : Nat} {a b : Char} (h : Spells n [a, b])
    {digits : List Char} (hdigits : Spells micro digits) (hlength : digits.length = 6)
    (colons? : Option Bool) :
    readUnits? more colons? (a :: b :: '.' :: digits) =
      some { units := [n], micro, isWhole := true } := by
  have hfront := takeNat?_append h ('.' :: digits)
  simp only [List.length_cons, List.length_nil, List.cons_append, List.nil_append] at hfront
  have hsix : digits.take 6 = digits := List.take_of_length_le (by omega)
  have hnone : digits.drop 6 = [] := List.drop_of_length_le (by omega)
  have hfraction : readFraction? digits = some { units := [], micro, isWhole := true } := by
    simp [readFraction?, hsix, hnone, hdigits.value, hlength]
  have hpos : 0 < digits.length := by omega
  obtain ⟨d, rest, rfl⟩ := List.exists_cons_of_length_pos hpos
  unfold readUnits?
  simp [hfront, hfraction]

theorem readClock?_text {c : Clock} (h : c.Valid) :
    readClock? ((Timestamp.hourMinuteSecond c).toList ++ (Timestamp.microText c.micro).toList)
      = some (c, true) := by
  obtain ⟨h₁, h₂, m₁, m₂, s₁, s₂, htext, hh, hm, hs⟩ := exists_hourMinuteSecond h
  have hseconds : readUnits? 0 (some true) (s₁ :: s₂ :: (Timestamp.microText c.micro).toList) =
      some { units := [c.second], micro := c.micro, isWhole := true } := by
    rcases microText_cases h.micro_lt with ⟨hzero, hnone⟩ | ⟨digits, hdigits, hlength, hspells⟩
    · rw [hnone, readUnits?_last hs, hzero]
    · rw [hdigits, readUnits?_point hs hspells hlength]
  rw [htext]
  simp only [List.cons_append, List.nil_append, readClock?]
  rw [readUnits?_colon hh _ rfl, readUnits?_colon hm _ rfl, hseconds]
  rfl

/-- The marks that open a zone stand nowhere in a time of day. -/
theorem isZoneMark_text {c : Clock} (h : c.Valid) {x : Char}
    (hx : x ∈ (Timestamp.hourMinuteSecond c).toList ++ (Timestamp.microText c.micro).toList) :
    (!isZoneMark x) = true := by
  have hdigit : ∀ {d : Char}, isDigit d = true -> isZoneMark d = false := by
    intro d hd
    simp only [isZoneMark, Bool.or_eq_false_iff, beq_eq_false_iff_ne]
    refine ⟨⟨?_, ?_⟩, ?_⟩ <;> rintro rfl <;> simp [isDigit] at hd
  have hspelled : ∀ {n : Nat} {cs : List Char}, Spells n cs -> ∀ d ∈ cs, isZoneMark d = false :=
    fun hcs d hd => hdigit (hcs.digits d hd)
  obtain ⟨h₁, h₂, m₁, m₂, s₁, s₂, htext, hh, hm, hs⟩ := exists_hourMinuteSecond h
  rw [Bool.not_eq_true']
  rw [htext, List.mem_append] at hx
  rcases hx with hx | hx
  · have hhs := hspelled hh
    have hms := hspelled hm
    have hss := hspelled hs
    have hcolon : isZoneMark ':' = false := rfl
    simp only [List.mem_cons, List.not_mem_nil, or_false] at hx hhs hms hss
    rcases hx with rfl | rfl | rfl | rfl | rfl | rfl | rfl | rfl <;> simp [*]
  · rcases microText_cases h.micro_lt with ⟨-, hnone⟩ | ⟨digits, hdigits, -, hspells⟩
    · rw [hnone] at hx
      cases hx
    · rw [hdigits, List.mem_cons] at hx
      rcases hx with rfl | hx
      · rfl
      · exact hspelled hspells x hx

theorem readZone?_offsetText {offset : Int} (h : WholeMinutes offset) :
    ∃ mark rest, (Timestamp.offsetText offset).toList = mark :: rest ∧ isZoneMark mark = true ∧
      readZone? mark rest = some offset := by
  obtain ⟨sign, h₁, h₂, m₁, m₂, hours, minutes, htext, hh, hm, hhours, hminutes, hvalue⟩ :=
    exists_offsetText h
  have hclock : readClock? [h₁, h₂, ':', m₁, m₂] =
      some ({ hour := hours, minute := minutes, second := 0, micro := 0 }, true) := by
    rw [readClock?, readUnits?_colon hh _ rfl, readUnits?_last hm]
    rfl
  have hmicros : (if Clock.micros { hour := hours, minute := minutes, second := 0, micro := 0 }
      < microsPerSecond then (0 : Int)
      else Clock.micros { hour := hours, minute := minutes, second := 0, micro := 0 })
      = (hours * 60 + minutes : Nat) * (60 * microsPerSecond : Nat) := by
    by_cases hlt : Clock.micros { hour := hours, minute := minutes, second := 0, micro := 0 }
        < microsPerSecond
    · rw [if_pos hlt]
      simp only [Clock.micros, microsPerSecond] at hlt ⊢
      omega
    · rw [if_neg hlt]
      simp only [Clock.micros, microsPerSecond]
      omega
  refine ⟨sign, _, htext, ?_, ?_⟩
  · rcases hvalue with ⟨rfl, -⟩ | ⟨rfl, -⟩ <;> rfl
  · rcases hvalue with ⟨rfl, hvalue⟩ | ⟨rfl, hvalue⟩
    all_goals
      simp only [readZone?, hclock]
      rw [hmicros, hvalue]
      simp

theorem readTime_clock {c : Clock} (h : c.Valid) :
    readTime ((Timestamp.hourMinuteSecond c).toList ++ (Timestamp.microText c.micro).toList)
      = .ok (c, none) := by
  have hmarks := fun x hx => @isZoneMark_text c h x hx
  have hstop := Text.stops_nil (!isZoneMark ·)
  have htake := Text.takeWhile_append_stop hmarks hstop
  have hdrop := Text.dropWhile_append_stop hmarks hstop
  rw [List.append_nil] at htake hdrop
  simp only [readTime, htake, hdrop, readClock?_text h]

/-- A time of day with a zone behind it. -/
theorem readTime_zone {c : Clock} (h : c.Valid) {mark : Char} {rest : List Char} {offset : Int}
    (hmark : isZoneMark mark = true) (hzone : readZone? mark rest = some offset)
    (hday : offset.natAbs < microsPerDay) :
    readTime ((Timestamp.hourMinuteSecond c).toList ++ ((Timestamp.microText c.micro).toList ++
      mark :: rest)) = .ok (c, some offset) := by
  have hmarks := fun x hx => @isZoneMark_text c h x hx
  have hstop : Text.Stops (!isZoneMark ·) (mark :: rest) := by simp [hmark]
  rw [← List.append_assoc, readTime]
  simp only [Text.takeWhile_append_stop hmarks hstop, Text.dropWhile_append_stop hmarks hstop,
    readClock?_text h, hzone, if_pos hday]

theorem readTime_text {c : Clock} (h : c.Valid) {offset : Option Int}
    (hoffset : ∀ o, offset = some o -> WholeMinutes o) :
    readTime ((Timestamp.hourMinuteSecond c).toList ++ ((Timestamp.microText c.micro).toList ++
      ((offset.map Timestamp.offsetText).getD "").toList)) = .ok (c, offset) := by
  cases offset with
  | none => simpa using readTime_clock h
  | some o =>
      obtain ⟨minutes, hlt, habs⟩ := hoffset o rfl
      obtain ⟨mark, rest, htext, hmark, hzone⟩ := readZone?_offsetText ⟨minutes, hlt, habs⟩
      have hday : o.natAbs < microsPerDay := by
        simp only [microsPerDay, microsPerSecond] at *
        omega
      rw [Option.map_some, Option.getD_some, htext]
      exact readTime_zone h hmark hzone hday

theorem make_of_valid {d : Date} (h : d.Valid) : Date.make d.year d.month d.day = .ok d := by
  obtain ⟨hyear, hyears, hmonth, hmonths, hday, hdays⟩ := h
  simp only [Date.make, Bool.or_eq_true, decide_eq_true_eq]
  rw [if_neg (by omega), if_neg (by omega), if_neg (by omega)]

/-- A month does not look like a week. -/
theorem ne_week {month : Nat} {a b : Char} (h : Spells month [a, b]) : a ≠ 'W' := by
  rintro rfl
  have := h.digits 'W' (List.mem_cons_self ..)
  simp [isDigit] at this

theorem readDate_dateText {d : Date} (h : d.Valid) :
    readDate (Timestamp.dateText d).toList = .ok d := by
  obtain ⟨y₁, y₂, y₃, y₄, m₁, m₂, d₁, d₂, hdate, hy, hm, hd⟩ := exists_dateText h
  have hyear := takeNat?_append hy ['-', m₁, m₂, '-', d₁, d₂]
  have hmonth := takeNat?_append hm ['-', d₁, d₂]
  have hday := takeNat?_append hd []
  simp only [List.length_cons, List.length_nil, List.cons_append, List.nil_append, List.append_nil]
    at hyear hmonth hday
  have hweek := ne_week hm
  rw [hdate, readDate]
  simp [hyear, hmonth, hday, hweek, dropDash?, make_of_valid h, Except.mapError]

/-- A timestamp of the calendar is read from its standard text as far as its zone is. -/
theorem readIso_of_readTime {t : Timestamp} (hwall : t.wall < wallLimit) {offset : Option Int}
    (htime : readTime ((Timestamp.hourMinuteSecond t.clock).toList ++
      ((Timestamp.microText t.clock.micro).toList ++
        ((t.offset.map Timestamp.offsetText).getD "").toList)) = .ok (t.clock, offset)) :
    readIso t.isoText = .ok { t with offset } := by
  have hclock := t.valid_clock
  have hvalid := (Timestamp.date_spec hwall).1
  have hparts : Timestamp.ofParts t.date t.clock offset = { t with offset } :=
    @Timestamp.ofParts_parts { t with offset } hwall
  have hcheck : checkClock t.clock = .ok t.clock := by
    obtain ⟨hhour, hminute, hsecond, -⟩ := hclock
    rw [checkClock, if_neg (by omega), if_neg (by omega), if_neg (by omega)]
  have hlist := toList_isoText t
  generalize hrest : (Timestamp.hourMinuteSecond t.clock).toList ++
    ((Timestamp.microText t.clock.micro).toList ++
      ((t.offset.map Timestamp.offsetText).getD "").toList) = rest at hlist htime
  obtain ⟨y₁, y₂, y₃, y₄, m₁, m₂, d₁, d₂, hdate, hy, hm, hd⟩ := exists_dateText hvalid
  have hne : rest ≠ [] := by
    obtain ⟨_, _, _, _, _, _, htext, -⟩ := exists_hourMinuteSecond hclock
    rw [← hrest, htext]
    exact List.cons_ne_nil _ _
  have hread := readDate_dateText hvalid
  rw [hdate] at hlist hread
  have hstop : dateLength ([y₁, y₂, y₃, y₄, '-', m₁, m₂, '-', d₁, d₂] ++ 'T' :: rest) = 10 := by
    simp [dateLength, ne_week hm]
  have hlong : ¬t.isoText.utf8ByteSize < 7 := by
    have hsize := Text.length_le_utf8ByteSize t.isoText.toList
    rw [String.ofList_toList, hlist] at hsize
    simp only [List.length_append, List.length_cons] at hsize
    omega
  rw [readIso, if_neg hlong]
  simp only [hlist, hstop]
  simp [hread, hne, htime, hcheck, bind, Except.bind, pure, Except.pure, hparts]

/-- A timestamp of the calendar is read back from its standard text. -/
theorem readIso_isoText {t : Timestamp} (h : t.Portable) : readIso t.isoText = .ok t :=
  readIso_of_readTime h.wall_lt (readTime_text t.valid_clock h.offset)

end Time

end Clearance
