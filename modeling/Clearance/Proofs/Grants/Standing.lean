import Clearance.Proofs.Grants.Effects
import Clearance.Proofs.Grants.History
import Mathlib.Data.List.Sort

/-!
# Searching the standing grants

The search for the standing grant that covers a name answers from the set of granted names alone,
and it has one answer for each set: the name itself, or the least that covers it.  How the set came
about makes no difference: the order in which its names were granted, a name that was granted again,
or one that was granted and revoked.  Such histories leave the same grants of every kind, for no
operation reads the standing grants but to answer a lookup.
-/

namespace Clearance.Grants

/-! ## What is found -/

/-- What a search for a name finds among the names that are granted. -/
structure Found (granted : String -> Prop) (name : String) (found : Option String) : Prop where
  none_iff : found = none ↔ ∀ other, granted other -> ¬ Pattern.GrantCovers other name
  itself_iff : found = some name ↔ granted name
  /-- A name that is not granted itself has the least of those that cover it, by code points. -/
  least : ¬ granted name -> ∀ other, found = some other ↔
    granted other ∧ Pattern.GrantCovers other name ∧
      ∀ another, granted another -> Pattern.GrantCovers another name -> other ≤ another

theorem found_standingCover? (name : String) (g : Grants) :
    Found (· ∈ g.standing) name (g.standingCover? name) where
  none_iff := by
    rw [standingCover?_eq_none_iff, Covers]
    simp only [not_exists, not_and]
  itself_iff := by
    rw [standingCover?_eq_some_iff]
    constructor
    · exact fun speaks => speaks.1
    · exact fun granted => ⟨granted, .inl rfl, .inl rfl⟩
  least := by
    intro ungranted other
    rw [standingCover?_eq_some_iff]
    constructor
    · rintro ⟨granted, covers, rfl | ⟨_, least⟩⟩
      · exact absurd granted ungranted
      · exact ⟨granted, covers, least⟩
    · rintro ⟨granted, covers, least⟩
      exact ⟨granted, covers, .inr ⟨ungranted, least⟩⟩

/-- A temporary or a limited grant for a name comes before the standing ones. -/
def InForce (name : String) (now : Timestamp) (g : Grants) : Prop :=
  g.Active name now ∨ g.HasUses name

/-- The standing grant that a lookup tells, if that is what approves it. -/
def grantedBy? (name : String) (now : Timestamp) (g : Grants) : Option String :=
  (g.consume name now).1.bind GrantMatch.grantedBy?

section

variable {name : String} {now : Timestamp} {g : Grants}

theorem grantedBy?_of_inForce (h : g.InForce name now) : g.grantedBy? name now = none := by
  unfold grantedBy?
  rcases consume_cases name now g with ⟨expiry, _, hconsume⟩ | ⟨n, _, _, hconsume⟩ |
    ⟨hexpiry, huses, _⟩
  · rw [hconsume]
    rfl
  · rw [hconsume]
    rfl
  · have hnone := And.intro (expiry?_eq_none_iff.1 hexpiry) (usesLeft_eq_zero_iff.1 huses)
    exact absurd h (not_or.2 hnone)

theorem grantedBy?_of_not_inForce (h : ¬ g.InForce name now) :
    g.grantedBy? name now = g.standingCover? name := by
  obtain ⟨hinactive, hspent⟩ := not_or.1 h
  have hconsume :=
    consume_of_no_uses (expiry?_eq_none_iff.2 hinactive) (usesLeft_eq_zero_iff.2 hspent)
  rw [grantedBy?, hconsume, standingMatch?]
  cases g.standingCover? name <;> rfl

/-- A lookup tells what the search finds, unless something comes before. -/
theorem grantedBy?_eq_some_iff {granted : String} :
    g.grantedBy? name now = some granted ↔
      ¬ g.InForce name now ∧ g.standingCover? name = some granted := by
  by_cases h : g.InForce name now
  · simp [grantedBy?_of_inForce h, h]
  · simp [grantedBy?_of_not_inForce h, h]

end

/-! ## Histories -/

/-- Standing grants are told by what is among them, for they are kept in order. -/
theorem standing_eq_of_mem_iff {g g' : Grants}
    (h : ∀ name, name ∈ g.standing ↔ name ∈ g'.standing) : g.standing = g'.standing :=
  g.sorted_standing.eq_of_mem_iff g'.sorted_standing h

/-- Two stores have the same temporary and limited grants. -/
structure NarrowAlike (g g' : Grants) : Prop where
  temporary : g.temporary = g'.temporary
  limited : g.limited = g'.limited

theorem NarrowAlike.chargeOf {g g' : Grants} (h : NarrowAlike g g') (name : String)
    (now : Timestamp) : g.chargeOf name now = g'.chargeOf name now := by
  simp only [Grants.chargeOf, expiry?, usesLeft, h.temporary, h.limited]

theorem NarrowAlike.charge {g g' : Grants} (h : NarrowAlike g g') (name : String) (c : Charge) :
    NarrowAlike (g.charge name c) (g'.charge name c) := by
  cases c with
  | nothing => exact h
  | use left => exact ⟨h.temporary, congrArg (Table.set name left) h.limited⟩
  | drop => exact ⟨h.temporary, congrArg (Table.erase name) h.limited⟩

theorem NarrowAlike.purge {g g' : Grants} (h : NarrowAlike g g') (now : Timestamp) :
    NarrowAlike (g.purge now) (g'.purge now) where
  temporary := by
    simp only [Grants.purge, h.temporary]
  limited := h.limited

/-- No operation looks at the standing grants for what it does to the others. -/
theorem NarrowAlike.after {g g' : Grants} (h : NarrowAlike g g') (op : Operation) :
    NarrowAlike (op.after g) (op.after g') := by
  cases op with
  | grant name => exact ⟨h.temporary, h.limited⟩
  | revoke name =>
      exact ⟨congrArg (Table.erase name) h.temporary, congrArg (Table.erase name) h.limited⟩
  | grantUntil name x now zone =>
      simp only [Operation.after]
      cases x.resolve zone now with
      | error f => exact h
      | ok expiry => exact ⟨congrArg (Table.set name expiry) h.temporary, h.limited⟩
  | grantUses name uses => exact ⟨h.temporary, congrArg (Table.set name uses) h.limited⟩
  | clear => exact ⟨rfl, rfl⟩
  | lookup name now zone =>
      simp only [Operation.after]
      cases now.localize zone with
      | error f => exact h
      | ok t =>
          simp only [snd_consume, h.chargeOf]
          exact (h.purge t).charge name _

/-- A standing grant is made. -/
def Operation.isGrant : Operation -> Bool
  | .grant _ => true
  | _ => false

namespace History

/-- A history without the making of standing grants; revocations stay. -/
def withoutGrants (past : History) : History :=
  past.filter fun op => !op.isGrant

/-- The standing grants leave no trace in the others. -/
theorem narrowAlike_withoutGrants (past : History) :
    NarrowAlike (replay past) (replay (withoutGrants past)) := by
  induction past with
  | nil => exact ⟨rfl, rfl⟩
  | cons op past ih =>
      cases op with
      | grant name => exact ⟨ih.temporary, ih.limited⟩
      | revoke name => exact ih.after (.revoke name)
      | grantUntil name x now zone => exact ih.after (.grantUntil name x now zone)
      | grantUses name uses => exact ih.after (.grantUses name uses)
      | clear => exact ih.after .clear
      | lookup name now zone => exact ih.after (.lookup name now zone)

section

variable {past past' : History} (h : ∀ name, Granted name past ↔ Granted name past')

include h

theorem standing_replay_congr : (replay past).standing = (replay past').standing := by
  refine standing_eq_of_mem_iff fun name => ?_
  rw [mem_standing_replay, mem_standing_replay]
  exact h name

/-- The search answers for the names that are granted, however they came to be. -/
theorem standingCover?_replay_congr (name : String) :
    (replay past).standingCover? name = (replay past').standingCover? name := by
  simp only [standingCover?, standing_replay_congr h]

/-- Histories that differ in their standing grants alone, and grant the same, leave the same. -/
theorem replay_congr (hothers : withoutGrants past = withoutGrants past') :
    replay past = replay past' := by
  have hpast := narrowAlike_withoutGrants past
  have hpast' := narrowAlike_withoutGrants past'
  rw [← hothers] at hpast'
  exact ext (standing_replay_congr h) (hpast.temporary.trans hpast'.temporary.symm)
    (hpast.limited.trans hpast'.limited.symm)

end

end History

open History (Granted withoutGrants)

/--
The search for a standing grant finds the name itself or the least that covers it, and a lookup
tells that grant if no temporary or limited one comes before.  Histories by which the same names are
granted have the same answer, and those that differ in nothing but how these grants were made leave
the same store.
-/
theorem standing_search_canonical (name : String) :
    (∀ g : Grants, Found (· ∈ g.standing) name (g.standingCover? name) ∧
      ∀ now granted, g.grantedBy? name now = some granted ↔
        ¬ g.InForce name now ∧ g.standingCover? name = some granted) ∧
    ∀ past past' : History, (∀ granted, Granted granted past ↔ Granted granted past') ->
      (replay past).standingCover? name = (replay past').standingCover? name ∧
      (∀ now, ((replay past).InForce name now ↔ (replay past').InForce name now) ->
        (replay past).grantedBy? name now = (replay past').grantedBy? name now) ∧
      (withoutGrants past = withoutGrants past' -> replay past = replay past') := by
  refine ⟨fun g => ⟨found_standingCover? name g, fun _ _ => grantedBy?_eq_some_iff⟩, ?_⟩
  intro past past' hgranted
  have hanswer := History.standingCover?_replay_congr hgranted name
  refine ⟨hanswer, fun now hnarrow => ?_, History.replay_congr hgranted⟩
  by_cases h : (replay past).InForce name now
  · rw [grantedBy?_of_inForce h, grantedBy?_of_inForce (hnarrow.1 h)]
  · rw [grantedBy?_of_not_inForce h, grantedBy?_of_not_inForce (mt hnarrow.2 h), hanswer]

/-- Names that are granted one after another, one of them again and one that is revoked. -/
def reorderedHistory : History :=
  [.grant "file", .revoke "f*", .grant "file.*", .grant "f*", .grantUses "file.read" 0,
    .grant "file"]

/-- The names that are left, in another order. -/
def directHistory : History :=
  [.revoke "f*", .grantUses "file.read" 0, .grant "file", .grant "file.*"]

theorem standing_search_canonical_reordered :
    (∀ granted, Granted granted reorderedHistory ↔ Granted granted directHistory) ∧
      withoutGrants reorderedHistory = withoutGrants directHistory ∧
      replay reorderedHistory = replay directHistory ∧
      (replay reorderedHistory).standingCover? "file.read" = some "file" ∧
      (replay directHistory).grantedBy? "file.read" (History.second 1) = some "file" := by
  have hnames {granted : String} :
      Granted granted reorderedHistory ↔ granted = "file" ∨ granted = "file.*" := by
    simp only [reorderedHistory, Granted, or_false]
    grind
  have hnames' {granted : String} :
      Granted granted directHistory ↔ granted = "file" ∨ granted = "file.*" := by
    simp only [directHistory, Granted, or_false]
    grind
  have hgranted (granted : String) :
      Granted granted reorderedHistory ↔ Granted granted directHistory := hnames.trans hnames'.symm
  obtain ⟨hsearch, hhistories⟩ := standing_search_canonical "file.read"
  obtain ⟨hanswer, _, hreplay⟩ := hhistories reorderedHistory directHistory hgranted
  obtain ⟨hfound, htold⟩ := hsearch (replay directHistory)
  have hmem {granted : String} :
      granted ∈ (replay directHistory).standing ↔ granted = "file" ∨ granted = "file.*" :=
    History.mem_standing_replay.trans hnames'
  have hfile : (replay directHistory).standingCover? "file.read" = some "file" := by
    refine (hfound.least (by rw [hmem]; decide) "file").2 ⟨hmem.2 (.inl rfl), ?_, ?_⟩
    · exact .inr (.inr ⟨by decide, "read".toList, rfl⟩)
    · intro another hanother _
      obtain rfl | rfl := hmem.1 hanother <;> decide
  have hnarrow : ¬ (replay directHistory).InForce "file.read" (History.second 1) := by
    rintro (⟨expiry, hexpiry, _⟩ | ⟨uses, huses, hpos⟩)
    · cases hexpiry
    · cases List.mem_singleton.1 huses
      cases hpos
  exact ⟨hgranted, rfl, hreplay rfl, hanswer.trans hfile, (htold _ _).2 ⟨hnarrow, hfile⟩⟩

end Clearance.Grants
