import Clearance.Proofs.Grants.Lookup

/-!
# Revoking a name

A name may have grants of its own, and as a standing grant it may cover other names.  Revoking it
ends both and nothing else.  A later lookup of the name finds at most another standing grant that
covers it; a later lookup of any other name finds what it would have found without the revoked
entry.
-/

namespace Clearance.Grants

/-! ## What finds a grant -/

/-- A lookup finds something if a grant of any kind is in force. -/
theorem isSome_consume_iff {name : String} {now : Timestamp} {g : Grants} :
    (g.consume name now).1.isSome ↔ g.Active name now ∨ g.HasUses name ∨ g.Covers name := by
  rcases consume_cases name now g with ⟨expiry, hexpiry, hconsume⟩ |
    ⟨n, hexpiry, huses, hconsume⟩ | ⟨hexpiry, huses, hconsume⟩
  · have hactive : g.Active name now := active_iff_exists_expiry.2 ⟨expiry, hexpiry⟩
    simp [hconsume, hactive]
  · have hleft : g.HasUses name := hasUses_iff_exists_usesLeft.2 ⟨n, huses⟩
    simp [hconsume, hleft]
  · have hinactive : ¬ g.Active name now := expiry?_eq_none_iff.1 hexpiry
    have hspent : ¬ g.HasUses name := usesLeft_eq_zero_iff.1 huses
    rw [hconsume, standingMatch?, Option.isSome_map, standingCover?_isSome_iff]
    simp [hinactive, hspent]

/-- Without a narrow grant a lookup finds the standing grant that speaks for the name. -/
theorem speaksFor_of_consume {name : String} {now : Timestamp} {g : Grants} {m : GrantMatch}
    (hinactive : ¬ g.Active name now) (hspent : ¬ g.HasUses name)
    (h : (g.consume name now).1 = some m) :
    ∃ granted, g.SpeaksFor granted name ∧ m = .standing granted := by
  rw [consume_of_no_uses (expiry?_eq_none_iff.2 hinactive) (usesLeft_eq_zero_iff.2 hspent),
    standingMatch?, Option.map_eq_some_iff] at h
  obtain ⟨granted, hcover, rfl⟩ := h
  exact ⟨granted, standingCover?_eq_some_iff.1 hcover, rfl⟩

/-! ## What revoking leaves -/

/-- A standing grant other than a certain one covers a name. -/
def CoversWithout (revoked name : String) (g : Grants) : Prop :=
  ∃ granted ∈ g.standing, granted ≠ revoked ∧ Pattern.GrantCovers granted name

section

variable {name other : String} {now : Timestamp} {g : Grants}

theorem mem_standing_revoke :
    other ∈ (g.revoke name).standing ↔ other ∈ g.standing ∧ other ≠ name := by
  simp [revoke]

theorem temporary_get?_revoke : Table.get? other (g.revoke name).temporary =
    if other = name then none else Table.get? other g.temporary :=
  Table.get?_erase name other g.temporary

theorem limited_get?_revoke : Table.get? other (g.revoke name).limited =
    if other = name then none else Table.get? other g.limited :=
  Table.get?_erase name other g.limited

theorem active_revoke : (g.revoke name).Active other now ↔ other ≠ name ∧ g.Active other now := by
  simp only [active_iff_exists_expiry, expiry?, temporary_get?_revoke]
  by_cases h : other = name <;> simp [h]

theorem hasUses_revoke : (g.revoke name).HasUses other ↔ other ≠ name ∧ g.HasUses other := by
  simp only [hasUses_iff_exists_usesLeft, usesLeft_revoke]
  by_cases h : other = name <;> simp [h]

theorem covers_revoke : (g.revoke name).Covers other ↔ g.CoversWithout name other := by
  simp only [Covers, CoversWithout, mem_standing_revoke, and_assoc]

end

/-- What a store keeps for another name when one is revoked, and what is found for it then. -/
structure Spared (name other : String) (now : Timestamp) (g g' : Grants) : Prop where
  standing : other ∈ g'.standing ↔ other ∈ g.standing
  temporary : g'.temporary.get? other = g.temporary.get? other
  limited : g'.limited.get? other = g.limited.get? other
  found : (g'.consume other now).1.isSome ↔
    g.Active other now ∨ g.HasUses other ∨ g.CoversWithout name other

/-- What becomes of a store when a name is revoked. -/
structure Revoked (name : String) (now : Timestamp) (g g' : Grants) : Prop where
  standing : name ∉ g'.standing
  temporary : name ∉ g'.temporary.names
  limited : name ∉ g'.limited.names
  own : ∀ m, (g'.consume name now).1 = some m ->
    ∃ granted ∈ g.standing, granted ≠ name ∧
      (Pattern.Starred granted name ∨ '.' ∉ granted.toList ∧ Pattern.Above granted name) ∧
      m = .standing granted
  unfound : (g'.consume name now).1 = none ↔ ¬ g.CoversWithout name name
  others : ∀ other, other ≠ name -> Spared name other now g g'

theorem spared_revoke {name other : String} (h : other ≠ name) (now : Timestamp) (g : Grants) :
    Spared name other now g (g.revoke name) where
  standing := by simp [mem_standing_revoke, h]
  temporary := temporary_get?_revoke.trans (if_neg h)
  limited := limited_get?_revoke.trans (if_neg h)
  found := by simp [isSome_consume_iff, active_revoke, hasUses_revoke, covers_revoke, h]

/--
Revoking a name takes all its grants away: a lookup of it finds nothing, or another standing grant
that covers it.  Every other name keeps its grants, and is found a grant for just if one is in force
that is not the revoked one.
-/
theorem revoke_total_and_local (name : String) (now : Timestamp) (g : Grants) :
    Revoked name now g (g.revoke name) := by
  have hinactive : ¬ (g.revoke name).Active name now := fun h => (active_revoke.1 h).1 rfl
  have hspent : ¬ (g.revoke name).HasUses name := fun h => (hasUses_revoke.1 h).1 rfl
  constructor
  case standing => simp [mem_standing_revoke]
  case temporary => simp [revoke, Table.names, Table.erase]
  case limited => simp [revoke, Table.names, Table.erase]
  case own =>
    intro m hm
    obtain ⟨granted, ⟨hin, hcovers, -⟩, rfl⟩ := speaksFor_of_consume hinactive hspent hm
    obtain ⟨hgranted, hne⟩ := mem_standing_revoke.1 hin
    exact ⟨granted, hgranted, hne, hcovers.resolve_left hne, rfl⟩
  case unfound =>
    rw [← Option.not_isSome_iff_eq_none, isSome_consume_iff, covers_revoke]
    simp [hinactive, hspent]
  case others => exact fun other hother => spared_revoke hother now g

end Clearance.Grants
