import Clearance.Grants
import Clearance.Proofs.Policy.Coverage

/-!
# Looking up a grant

What a lookup finds and what it leaves behind.  A temporary grant is found before a limited one,
and that before a standing one; which of the three cases holds is read off the entries for the
name alone, and `consume_cases` gives the answer and the grants afterwards in each of them.
-/

namespace Clearance

namespace Table

variable {α : Type}

theorem erase_of_get?_eq_none {name : String} {t : Table α} (h : get? name t = none) :
    erase name t = t := by
  induction t with
  | nil => rfl
  | cons p rest ih =>
      obtain ⟨n, a⟩ := p
      by_cases hn : n = name
      · simp [get?, hn] at h
      · have hrest : erase name rest = rest := ih (by simpa [get?, hn] using h)
        have hstep : erase name ((n, a) :: rest) = (n, a) :: erase name rest := by
          simp [erase, hn]
        rw [hstep, hrest]

end Table

namespace Grants

@[ext] theorem ext {g g' : Grants} (hs : g.standing = g'.standing)
    (ht : g.temporary = g'.temporary) (hl : g.limited = g'.limited) : g = g' := by
  cases g
  cases g'
  simp only at hs ht hl
  subst hs ht hl
  rfl

/-! ## The entries for a name -/

/-- When the temporary grant for a name runs out, if it has not run out at an instant. -/
def expiry? (name : String) (now : Timestamp) (g : Grants) : Option Timestamp :=
  (g.temporary.get? name).filter fun expiry => decide (now.instant < expiry.instant)

/-- The uses that the limited grant for a name has left. -/
def usesLeft (name : String) (g : Grants) : Nat :=
  ((g.limited.get? name).getD 0).toNat

/-- A temporary grant for a name has not run out at an instant. -/
def Active (name : String) (now : Timestamp) (g : Grants) : Prop :=
  ∃ expiry, (name, expiry) ∈ g.temporary ∧ now.instant < expiry.instant

/-- A limited grant for a name has uses left. -/
def HasUses (name : String) (g : Grants) : Prop :=
  ∃ uses, (name, uses) ∈ g.limited ∧ 0 < uses

theorem expiry?_eq_some_iff {name : String} {now expiry : Timestamp} {g : Grants} :
    g.expiry? name now = some expiry ↔
      (name, expiry) ∈ g.temporary ∧ now.instant < expiry.instant := by
  simp [expiry?, Option.filter_eq_some_iff, Table.get?_eq_some_iff g.nodup_temporary]

theorem expiry?_eq_none_iff {name : String} {now : Timestamp} {g : Grants} :
    g.expiry? name now = none ↔ ¬ g.Active name now := by
  rw [Option.eq_none_iff_forall_ne_some]
  simp only [Active, ne_eq, expiry?_eq_some_iff, not_exists]

theorem active_iff_exists_expiry {name : String} {now : Timestamp} {g : Grants} :
    g.Active name now ↔ ∃ expiry, g.expiry? name now = some expiry := by
  simp only [Active, expiry?_eq_some_iff]

theorem usesLeft_eq_zero_iff {name : String} {g : Grants} :
    g.usesLeft name = 0 ↔ ¬ g.HasUses name := by
  simp only [HasUses, ← Table.get?_eq_some_iff g.nodup_limited, usesLeft]
  cases g.limited.get? name <;> simp

theorem hasUses_iff_exists_usesLeft {name : String} {g : Grants} :
    g.HasUses name ↔ ∃ n, g.usesLeft name = n + 1 := by
  rw [← Classical.not_not (a := g.HasUses name), ← usesLeft_eq_zero_iff]
  constructor
  · exact Nat.exists_eq_add_one_of_ne_zero
  · rintro ⟨n, hn⟩
    omega

theorem limited_get?_of_usesLeft {name : String} {g : Grants} {n : Nat}
    (h : g.usesLeft name = n + 1) : g.limited.get? name = some ((n : Int) + 1) := by
  unfold usesLeft at h
  cases huses : g.limited.get? name with
  | none => simp [huses] at h
  | some uses =>
      simp only [huses, Option.getD_some] at h
      exact congrArg some (by omega)

theorem le_zero_of_usesLeft {name : String} {g : Grants} {uses : Int}
    (h : g.usesLeft name = 0) (huses : g.limited.get? name = some uses) : uses ≤ 0 := by
  simp only [usesLeft, huses, Option.getD_some] at h
  omega

/-! ## What the writes do to the entries -/

@[simp] theorem limited_purge (now : Timestamp) (g : Grants) :
    (g.purge now).limited = g.limited := rfl

theorem temporary_get?_purge (name : String) (now : Timestamp) (g : Grants) :
    Table.get? name (g.purge now).temporary = g.expiry? name now := by
  simp only [purge, Table.get?_keep g.nodup_temporary, expiry?]

@[simp] theorem usesLeft_purge (name : String) (now : Timestamp) (g : Grants) :
    (g.purge now).usesLeft name = g.usesLeft name := rfl

theorem usesLeft_grantUses (name other : String) (uses : Int) (g : Grants) :
    (g.grantUses name uses).usesLeft other
      = if other = name then uses.toNat else g.usesLeft other := by
  simp only [usesLeft, grantUses, Table.get?_set]
  split <;> rfl

theorem usesLeft_dropUses (name other : String) (g : Grants) :
    (g.dropUses name).usesLeft other = if other = name then 0 else g.usesLeft other := by
  simp only [usesLeft, dropUses, Table.get?_erase]
  split <;> rfl

theorem usesLeft_revoke (name other : String) (g : Grants) :
    (g.revoke name).usesLeft other = if other = name then 0 else g.usesLeft other := by
  simp only [usesLeft, revoke, Table.get?_erase]
  split <;> rfl

theorem dropUses_of_get?_eq_none {name : String} {g : Grants}
    (h : g.limited.get? name = none) : g.dropUses name = g :=
  ext rfl rfl (Table.erase_of_get?_eq_none h)

/-! ## The lookup -/

theorem consume_of_expiry {name : String} {now expiry : Timestamp} {g : Grants}
    (h : g.expiry? name now = some expiry) :
    g.consume name now = (some (.temporary expiry), g.purge now) := by
  simp only [consume, temporary_get?_purge, h]

theorem consume_of_usesLeft {name : String} {now : Timestamp} {g : Grants} {n : Nat}
    (hexpiry : g.expiry? name now = none) (huses : g.usesLeft name = n + 1) :
    g.consume name now = (some (.limited n), (g.purge now).grantUses name n) := by
  have hpos : 0 < (n : Int) + 1 := by omega
  have hrest : (n : Int) + 1 - 1 = n := by omega
  simp only [consume, temporary_get?_purge, hexpiry, limited_purge, limited_get?_of_usesLeft huses,
    if_pos hpos, hrest]

/-- Without uses left the limited grant is dropped, if there was one. -/
theorem consume_of_no_uses {name : String} {now : Timestamp} {g : Grants}
    (hexpiry : g.expiry? name now = none) (huses : g.usesLeft name = 0) :
    g.consume name now = (g.standingMatch? name, (g.purge now).dropUses name) := by
  simp only [consume, temporary_get?_purge, hexpiry, limited_purge]
  cases hlimited : g.limited.get? name with
  | none =>
      rw [dropUses_of_get?_eq_none (by simpa using hlimited)]
      rfl
  | some uses =>
      have hle : ¬ 0 < uses := by
        have := le_zero_of_usesLeft huses hlimited
        omega
      simp only [if_neg hle]
      rfl

/-- The three cases of a lookup, each with its answer and what is left of the grants. -/
theorem consume_cases (name : String) (now : Timestamp) (g : Grants) :
    (∃ expiry, g.expiry? name now = some expiry ∧
      g.consume name now = (some (.temporary expiry), g.purge now)) ∨
    (∃ n : Nat, g.expiry? name now = none ∧ g.usesLeft name = n + 1 ∧
      g.consume name now = (some (.limited n), (g.purge now).grantUses name n)) ∨
    (g.expiry? name now = none ∧ g.usesLeft name = 0 ∧
      g.consume name now = (g.standingMatch? name, (g.purge now).dropUses name)) := by
  cases hexpiry : g.expiry? name now with
  | some expiry => exact .inl ⟨expiry, rfl, consume_of_expiry hexpiry⟩
  | none =>
      cases huses : g.usesLeft name with
      | succ n => exact .inr (.inl ⟨n, rfl, rfl, consume_of_usesLeft hexpiry huses⟩)
      | zero => exact .inr (.inr ⟨rfl, rfl, consume_of_no_uses hexpiry huses⟩)

theorem standing_consume (name : String) (now : Timestamp) (g : Grants) :
    (g.consume name now).2.standing = g.standing := by
  rcases consume_cases name now g with ⟨expiry, -, hconsume⟩ | ⟨n, -, -, hconsume⟩ |
    ⟨-, -, hconsume⟩ <;> rw [hconsume] <;> rfl

theorem temporary_consume (name : String) (now : Timestamp) (g : Grants) :
    (g.consume name now).2.temporary = (g.purge now).temporary := by
  rcases consume_cases name now g with ⟨expiry, -, hconsume⟩ | ⟨n, -, -, hconsume⟩ |
    ⟨-, -, hconsume⟩ <;> rw [hconsume] <;> rfl

/-- What a lookup drops has run out for every later one. -/
theorem expiry?_consume {now later : Timestamp} (h : now.instant ≤ later.instant)
    (name other : String) (g : Grants) :
    (g.consume name now).2.expiry? other later = g.expiry? other later := by
  rw [expiry?, temporary_consume, temporary_get?_purge, expiry?, expiry?]
  cases g.temporary.get? other with
  | none => rfl
  | some expiry =>
      by_cases hlater : later.instant < expiry.instant
      · have hnow : now.instant < expiry.instant := by omega
        simp [Option.filter, hlater, hnow]
      · by_cases hnow : now.instant < expiry.instant <;> simp [Option.filter, hlater, hnow]

/-- A lookup takes one use of its own name if no temporary grant comes before, and no other. -/
theorem usesLeft_consume (name other : String) (now : Timestamp) (g : Grants) :
    (g.consume name now).2.usesLeft other =
      if other = name ∧ g.expiry? name now = none then g.usesLeft other - 1
      else g.usesLeft other := by
  rcases consume_cases name now g with ⟨expiry, hexpiry, hconsume⟩ |
    ⟨n, hexpiry, huses, hconsume⟩ | ⟨hexpiry, huses, hconsume⟩
  · simp [hconsume, hexpiry]
  · rw [hconsume, usesLeft_grantUses]
    by_cases h : other = name
    · subst h
      simp [hexpiry, huses]
    · simp [h]
  · rw [hconsume, usesLeft_dropUses]
    by_cases h : other = name
    · subst h
      simp [hexpiry, huses]
    · simp [h]

/-! ## Standing grants -/

/-- Some standing grant covers a name. -/
def Covers (name : String) (g : Grants) : Prop :=
  ∃ granted ∈ g.standing, Pattern.GrantCovers granted name

/-- A grant is the one that speaks for a name: the name itself, or the least that covers it. -/
def SpeaksFor (granted name : String) (g : Grants) : Prop :=
  granted ∈ g.standing ∧ Pattern.GrantCovers granted name ∧
    (granted = name ∨ name ∉ g.standing ∧
      ∀ other ∈ g.standing, Pattern.GrantCovers other name -> granted ≤ other)

theorem grantCovers_of_ne {granted name : String} (h : granted ≠ name) :
    (Pattern.wildcardCovers granted name || Pattern.hierarchyCovers granted name) = true ↔
      Pattern.GrantCovers granted name := by
  rw [← Pattern.grantCovers_iff]
  simp [Pattern.grantCovers, h]

/-- In code point order what is found first is the least. -/
theorem le_of_find? {names : List String} {test : String -> Bool} {found other : String}
    (hsorted : names.Pairwise (· < ·)) (hfind : names.find? test = some found)
    (hother : other ∈ names) (htest : test other = true) : found ≤ other := by
  obtain ⟨-, before, after, rfl, hbefore⟩ := List.find?_eq_some_iff_append.1 hfind
  rcases List.mem_append.1 hother with hother | hother
  · have hnot := hbefore other hother
    simp [htest] at hnot
  · rcases List.mem_cons.1 hother with rfl | hafter
    · exact String.le_refl _
    · have hpairs := (List.pairwise_append.1 hsorted).2.1
      have hlt := (List.pairwise_cons.1 hpairs).1 other hafter
      exact String.not_lt.1 (String.lt_asymm hlt)

theorem standingCover?_eq_none_iff {name : String} {g : Grants} :
    g.standingCover? name = none ↔ ¬ g.Covers name := by
  unfold standingCover? Covers
  by_cases hmem : name ∈ g.standing
  · have hcovers : Pattern.GrantCovers name name := .inl rfl
    simpa [hmem] using ⟨name, hmem, hcovers⟩
  · simp only [List.contains_iff_mem, hmem, if_false, List.find?_eq_none, not_exists, not_and]
    refine forall_congr' fun granted => forall_congr' fun hgranted => not_congr ?_
    exact grantCovers_of_ne fun heq => hmem (heq ▸ hgranted)

theorem speaksFor_of_standingCover? {name granted : String} {g : Grants}
    (h : g.standingCover? name = some granted) : g.SpeaksFor granted name := by
  unfold standingCover? at h
  by_cases hmem : name ∈ g.standing
  · simp only [List.contains_iff_mem, hmem, if_true, Option.some.injEq] at h
    subst h
    exact ⟨hmem, .inl rfl, .inl rfl⟩
  · have hne {other : String} (hother : other ∈ g.standing) : other ≠ name :=
      fun heq => hmem (heq ▸ hother)
    simp only [List.contains_iff_mem, hmem, if_false] at h
    have hin : granted ∈ g.standing := List.mem_of_find?_eq_some h
    have hcovers := (grantCovers_of_ne (hne hin)).1 (by simpa using List.find?_some h)
    refine ⟨hin, hcovers, .inr ⟨hmem, ?_⟩⟩
    intro other hother hother'
    exact le_of_find? g.sorted_standing h hother ((grantCovers_of_ne (hne hother)).2 hother')

/-- At most one grant speaks for a name. -/
theorem SpeaksFor.unique {name granted granted' : String} {g : Grants}
    (h : g.SpeaksFor granted name) (h' : g.SpeaksFor granted' name) : granted = granted' := by
  obtain ⟨hin, hcovers, rfl | ⟨hmem, hleast⟩⟩ := h
  · obtain ⟨-, -, rfl | ⟨hmem', -⟩⟩ := h'
    · rfl
    · exact absurd hin hmem'
  · obtain ⟨hin', hcovers', rfl | ⟨-, hleast'⟩⟩ := h'
    · exact absurd hin' hmem
    · exact String.le_antisymm (hleast _ hin' hcovers') (hleast' _ hin hcovers)

theorem standingCover?_eq_some_iff {name granted : String} {g : Grants} :
    g.standingCover? name = some granted ↔ g.SpeaksFor granted name := by
  constructor
  · exact speaksFor_of_standingCover?
  · intro h
    cases hfound : g.standingCover? name with
    | none => exact absurd ⟨granted, h.1, h.2.1⟩ (standingCover?_eq_none_iff.1 hfound)
    | some found => rw [(speaksFor_of_standingCover? hfound).unique h]

theorem standingCover?_isSome_iff {name : String} {g : Grants} :
    (g.standingCover? name).isSome ↔ g.Covers name := by
  rw [← Option.ne_none_iff_isSome, ne_eq, standingCover?_eq_none_iff, Classical.not_not]

end Grants

end Clearance
