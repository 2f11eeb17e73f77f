import Clearance.Proofs.Yaml.Faults
import Clearance.Proofs.Yaml.Scalars.Real

/-!
# Plain scalars without a value

A plain scalar has the tag that its form gives it, and most forms fit what is read under their tags.
The exceptions are whole numbers whose mark is followed by no digit, numbers that are too long, and
moments that the calendar or the clock does not have.
-/

namespace Clearance.Yaml

namespace Content

/-! ## Flags and moments -/

theorem within_flag {text : String} (h : Form.isFlag text.toList = true) :
    Within (PlainFault .bool) (flag text) := by
  simp only [Form.isFlag, String.ofList_toList, List.contains_eq_mem, decide_eq_true_eq] at h
  have hall : ∀ word ∈ [ "yes", "Yes", "YES", "no", "No", "NO", "true", "True", "TRUE", "false",
      "False", "FALSE", "on", "On", "ON", "off", "Off", "OFF" ], (flag word).isOk = true := by
    decide +kernel
  exact within_of_isOk (hall text h)

theorem within_zoneOffset (zone : Form.Zone) :
    Within (PlainFault .timestamp) (zoneOffset zone) := by
  cases zone with
  | utc => exact within_ok 0
  | shifted behind hours minutes =>
      simp only [zoneOffset]
      split
      · exact within_ok _
      · exact within_error (.moment _)

/-- What has the form of a moment is one, or the calendar or the clock does not have it. -/
theorem within_moment {text : String} (h : Form.isMoment (withoutLastBreak text.toList) = true) :
    Within (PlainFault .timestamp) (moment text) := by
  rw [Form.isMoment, Option.any_eq_true] at h
  obtain ⟨m, hm, -⟩ := h
  have hdate : Within (PlainFault .timestamp)
      ((Time.Date.make m.year m.month m.day).mapError fun f => .moment (.date f)) :=
    within_mapError fun f => .moment (.date f)
  unfold moment
  simp only [hm]
  cases m.clock with
  | none => exact hdate.bind fun d => within_ok _
  | some c =>
      have hclock (clock : Time.Clock) : Within (PlainFault .timestamp)
          ((Time.checkClock clock).mapError ContentFault.moment) :=
        within_mapError fun f => .moment f
      simp only
      cases c.zone with
      | none => exact hdate.bind fun d => (hclock _).bind fun clock => within_ok _
      | some zone =>
          refine (within_zoneOffset zone).bind fun offset => ?_
          exact hdate.bind fun d => (hclock _).bind fun clock => within_ok _

/-! ## Plain scalars -/

/-- The form that gives a plain scalar its tag. -/
inductive PlainForm (cs : List Char) : Tag -> Prop where
  | null : PlainForm cs .null
  | flag (form : Form.isFlag cs = true) : PlainForm cs .bool
  | real (form : Form.isReal cs = true) : PlainForm cs .real
  | whole (form : Form.isWhole cs = true) : PlainForm cs .int
  | moment (form : Form.isMoment cs = true) : PlainForm cs .timestamp
  | merge : PlainForm cs .merge
  | value : PlainForm cs .value
  | str : PlainForm cs .str

theorem plainForm_ofPlain (text : String) :
    PlainForm (withoutLastBreak text.toList) (Tag.ofPlain text) := by
  unfold Tag.ofPlain
  simp only
  repeat' split
  · exact .null
  · exact .str
  · exact .null
  · exact .flag ‹_›
  · exact .real ‹_›
  · exact .whole ‹_›
  · exact .moment ‹_›
  · exact .merge
  · exact .value
  · exact .str

/--
A plain scalar has the value that its form promises, or it is flawed as a part of a text, or it is
a number without digits or a number or moment out of range.
-/
theorem within_plain {text : String} (h : text.toList.getLast? ≠ some '\n') :
    Within (fun f => f.IsOfText ∨ PlainFault (Tag.ofPlain text) f)
      (scalar (Tag.ofPlain text) text true) := by
  have hform := plainForm_ofPlain text
  rw [withoutLastBreak, if_neg h] at hform
  have hflawed (tag : Tag) :
      Within (fun f => f.IsOfText ∨ PlainFault tag f)
        (.error (.flaw .unknownTag) : Except ContentFault Value) :=
    within_error (.inl ⟨_, rfl, rfl⟩)
  generalize Tag.ofPlain text = tag at hform ⊢
  cases hform with
  | null => exact within_ok _
  | flag form => exact ((within_flag form).map _).mono fun f => .inr
  | real form => exact ((within_real form).map _).mono fun f => .inr
  | whole form => exact ((within_whole form).map _).mono fun f => .inr
  | moment form =>
      have hbreak : withoutLastBreak text.toList = text.toList := if_neg h
      exact (within_moment (hbreak.symm ▸ form)).mono fun f => .inr
  | merge => exact hflawed _
  | value => exact hflawed _
  | str => exact within_ok _

example : Tag.ofPlain "0x_" = .int ∧ whole "0x_" = .error (.whole 16 "") := by decide +kernel

end Content

end Clearance.Yaml
