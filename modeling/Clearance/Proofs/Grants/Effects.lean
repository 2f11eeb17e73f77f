import Clearance.Proofs.Grants.Lookup

/-!
# What a lookup changes

A lookup drops the temporary grants that have run out and charges the limited grant for its own
name: it takes a use, or drops an entry that has none.  All else it leaves alone, so two lookups
for different names at one time can be made in either order.
-/

namespace Clearance

namespace Table

variable {α : Type}

theorem erase_cons (name n : String) (a : α) (rest : Table α) :
    erase name ((n, a) :: rest) =
      if n = name then erase name rest else (n, a) :: erase name rest := by
  by_cases hn : n = name <;> simp [erase, hn]

theorem erase_comm (name other : String) (t : Table α) :
    erase name (erase other t) = erase other (erase name t) := by
  simp only [erase, List.filter_filter]
  exact List.filter_congr fun entry _ => Bool.and_comm _ _

theorem erase_set_of_ne {name other : String} (h : name ≠ other) (a : α) (t : Table α) :
    erase other (set name a t) = set name a (erase other t) := by
  induction t with
  | nil => simp [set, erase, h]
  | cons entry rest ih =>
      obtain ⟨n, b⟩ := entry
      by_cases hn : n = name
      · subst hn
        simp only [set, erase_cons, if_pos, if_neg h]
      · by_cases hother : n = other
        · simp only [set, erase_cons, if_neg hn, if_pos hother, ih]
        · simp only [set, erase_cons, if_neg hn, if_neg hother, ih]

/-- Two names can be set in either order if one of them has its place already. -/
theorem set_comm {name other : String} (h : name ≠ other) {t : Table α} (hmem : name ∈ t.names)
    (a b : α) : set name a (set other b t) = set other b (set name a t) := by
  induction t with
  | nil => cases hmem
  | cons entry rest ih =>
      obtain ⟨n, c⟩ := entry
      by_cases hn : n = name
      · subst hn
        simp only [set, if_pos, if_neg h]
      · have hrest : name ∈ names rest := (List.mem_cons.1 hmem).resolve_left (Ne.symm hn)
        by_cases hother : n = other
        · simp only [set, if_neg hn, if_pos hother]
        · simp only [set, if_neg hn, if_neg hother, ih hrest]

end Table

namespace Grants

/-! ## Charges -/

/-- What a lookup does to the limited grant for its own name. -/
inductive Charge where
  | nothing
  | use (left : Int)
  | drop

/-- The charge of a lookup at an instant. -/
def chargeOf (name : String) (now : Timestamp) (g : Grants) : Charge :=
  match g.expiry? name now, g.usesLeft name with
  | some _, _ => .nothing
  | none, left + 1 => .use left
  | none, 0 => .drop

def charge (name : String) (c : Charge) (g : Grants) : Grants :=
  match c with
  | .nothing => g
  | .use left => g.grantUses name left
  | .drop => g.dropUses name

theorem snd_consume (name : String) (now : Timestamp) (g : Grants) :
    (g.consume name now).2 = (g.purge now).charge name (g.chargeOf name now) := by
  rcases consume_cases name now g with ⟨expiry, hexpiry, hconsume⟩ |
    ⟨n, hexpiry, huses, hconsume⟩ | ⟨hexpiry, huses, hconsume⟩
  · simp only [hconsume, chargeOf, hexpiry, charge]
  · simp only [hconsume, chargeOf, hexpiry, huses, charge]
  · simp only [hconsume, chargeOf, hexpiry, huses, charge]

theorem purge_purge (now : Timestamp) (g : Grants) : (g.purge now).purge now = g.purge now :=
  ext rfl (by simp [purge, Table.keep]) rfl

theorem purge_charge (name : String) (c : Charge) (now : Timestamp) (g : Grants) :
    (g.charge name c).purge now = (g.purge now).charge name c := by
  cases c <;> rfl

/-- A use is taken only of a limited grant that is there. -/
theorem mem_names_of_chargeOf {name : String} {now : Timestamp} {g : Grants} {left : Int}
    (h : g.chargeOf name now = .use left) : name ∈ g.limited.names := by
  unfold chargeOf at h
  split at h
  · cases h
  · rename_i huses
    have hentry := limited_get?_of_usesLeft huses
    exact List.mem_map_of_mem ((Table.get?_eq_some_iff g.nodup_limited).1 hentry)
  · cases h

theorem charge_comm {name other : String} (h : name ≠ other) {c c' : Charge} {g : Grants}
    (hmem : ∀ left, c = .use left -> name ∈ g.limited.names) :
    (g.charge other c').charge name c = (g.charge name c).charge other c' := by
  cases c with
  | nothing => rfl
  | use left =>
      cases c' with
      | nothing => rfl
      | use left' => exact ext rfl rfl (Table.set_comm h (hmem left rfl) left left')
      | drop => exact ext rfl rfl (Table.erase_set_of_ne h left g.limited).symm
  | drop =>
      cases c' with
      | nothing => rfl
      | use left' => exact ext rfl rfl (Table.erase_set_of_ne h.symm left' g.limited)
      | drop => exact ext rfl rfl (Table.erase_comm name other g.limited)

/-! ## Two lookups -/

/-- The answer of a lookup depends on the entries for its name and the standing grants alone. -/
theorem fst_consume_congr {name : String} {now : Timestamp} {g g' : Grants}
    (hexpiry : g'.expiry? name now = g.expiry? name now)
    (huses : g'.usesLeft name = g.usesLeft name) (hstanding : g'.standing = g.standing) :
    (g'.consume name now).1 = (g.consume name now).1 := by
  rcases consume_cases name now g with ⟨expiry, hactive, hconsume⟩ |
    ⟨n, hinactive, hleft, hconsume⟩ | ⟨hinactive, hspent, hconsume⟩
  · rw [hconsume, consume_of_expiry (hexpiry.trans hactive)]
  · rw [hconsume, consume_of_usesLeft (hexpiry.trans hinactive) (huses.trans hleft)]
  · rw [hconsume, consume_of_no_uses (hexpiry.trans hinactive) (huses.trans hspent)]
    simp only [standingMatch?, standingCover?, hstanding]

section

variable {name other : String} (h : name ≠ other) (now : Timestamp) (g : Grants)

include h

theorem usesLeft_consume_of_ne : (g.consume name now).2.usesLeft other = g.usesLeft other := by
  rw [usesLeft_consume, if_neg fun hsame => h hsame.1.symm]

/-- A lookup has no part in what is found for another name. -/
theorem fst_consume_consume :
    ((g.consume name now).2.consume other now).1 = (g.consume other now).1 :=
  fst_consume_congr (expiry?_consume (Int.le_refl _) name other g) (usesLeft_consume_of_ne h now g)
    (standing_consume name now g)

theorem chargeOf_consume : (g.consume name now).2.chargeOf other now = g.chargeOf other now := by
  simp only [chargeOf, expiry?_consume (Int.le_refl _) name other g, usesLeft_consume_of_ne h now g]

theorem snd_consume_consume :
    ((g.consume name now).2.consume other now).2 =
      ((g.purge now).charge name (g.chargeOf name now)).charge other (g.chargeOf other now) := by
  rw [snd_consume, chargeOf_consume h, snd_consume, purge_charge, purge_purge]

/-- Two lookups for different names at one time leave the same, whichever comes first. -/
theorem snd_consume_comm :
    ((g.consume name now).2.consume other now).2 =
      ((g.consume other now).2.consume name now).2 := by
  rw [snd_consume_consume h, snd_consume_consume h.symm]
  exact (charge_comm (g := g.purge now) h fun left hleft =>
    mem_names_of_chargeOf (g := g) hleft).symm

end

/-! ## The entry for the name itself -/

/--
What becomes of the limited grant for the name of a lookup, and whether the lookup is approved by
it.  A use is taken if one is left, and an entry without uses is dropped; a temporary grant that is
in force comes before, and keeps the entry as it is.
-/
inductive Spending (name : String) (now : Timestamp) (g : Grants) : Bool -> Option Int -> Prop where
  | spent {uses : Int} (inactive : ¬ g.Active name now) (entry : (name, uses) ∈ g.limited)
      (positive : 0 < uses) : Spending name now g true (some (uses - 1))
  | dropped {uses : Int} (inactive : ¬ g.Active name now) (entry : (name, uses) ∈ g.limited)
      (exhausted : uses ≤ 0) : Spending name now g false none
  | kept (untouched : g.Active name now ∨ ∀ uses, (name, uses) ∉ g.limited) :
      Spending name now g false (g.limited.get? name)

theorem limited_consume_of_ne {name other : String} (h : other ≠ name) (now : Timestamp)
    (g : Grants) : (g.consume name now).2.limited.get? other = g.limited.get? other := by
  rw [snd_consume]
  cases g.chargeOf name now with
  | nothing => rfl
  | use left => exact (Table.get?_set name other left g.limited).trans (if_neg h)
  | drop => exact (Table.get?_erase name other g.limited).trans (if_neg h)

theorem spending_consume (name : String) (now : Timestamp) (g : Grants) :
    ∃ approved, Spending name now g approved ((g.consume name now).2.limited.get? name) ∧
      (approved = true ↔ ∃ left, (g.consume name now).1 = some (.limited left)) := by
  rcases consume_cases name now g with ⟨expiry, hexpiry, hconsume⟩ |
    ⟨n, hexpiry, huses, hconsume⟩ | ⟨hexpiry, huses, hconsume⟩
  · have hactive : g.Active name now := active_iff_exists_expiry.2 ⟨expiry, hexpiry⟩
    rw [hconsume]
    exact ⟨false, .kept (.inl hactive), by simp⟩
  · have hentry := (Table.get?_eq_some_iff g.nodup_limited).1 (limited_get?_of_usesLeft huses)
    have hleft : ((g.purge now).grantUses name n).limited.get? name = some ((n : Int) + 1 - 1) := by
      have hrest : (n : Int) + 1 - 1 = n := by omega
      rw [hrest]
      exact (Table.get?_set name name (n : Int) g.limited).trans (if_pos rfl)
    rw [hconsume, hleft]
    exact ⟨true, .spent (expiry?_eq_none_iff.1 hexpiry) hentry (by omega), by simp⟩
  · have hnot : ¬ ∃ left, g.standingMatch? name = some (.limited left) := by
      simp [standingMatch?]
    have hgone : ((g.purge now).dropUses name).limited.get? name = none :=
      (Table.get?_erase name name g.limited).trans (if_pos rfl)
    rw [hconsume, hgone]
    refine ⟨false, ?_, by simpa using hnot⟩
    cases hentry : g.limited.get? name with
    | none =>
        rw [← hentry]
        refine .kept (.inr fun uses huses => ?_)
        rw [(Table.get?_eq_some_iff g.nodup_limited).2 huses] at hentry
        cases hentry
    | some uses =>
        exact .dropped (expiry?_eq_none_iff.1 hexpiry)
          ((Table.get?_eq_some_iff g.nodup_limited).1 hentry) (le_zero_of_usesLeft huses hentry)

/-- What the lookup of a name at an instant changes, and whether a limited grant approves it. -/
structure Charged (name : String) (now : Timestamp) (approved : Bool) (g g' : Grants) : Prop where
  standing : g'.standing = g.standing
  temporary : g'.temporary =
    g.temporary.filter fun entry => decide (now.instant < entry.2.instant)
  others : ∀ other, other ≠ name -> g'.limited.get? other = g.limited.get? other
  own : Spending name now g approved (g'.limited.get? name)

/-- A lookup is approved by the limited grant for its name exactly if it takes a use of it. -/
theorem charged_consume (name : String) (now : Timestamp) (g : Grants) :
    ∃ approved, Charged name now approved g (g.consume name now).2 ∧
      (approved = true ↔ ∃ left, (g.consume name now).1 = some (.limited left)) := by
  obtain ⟨approved, hspending, happroved⟩ := spending_consume name now g
  exact ⟨approved, ⟨standing_consume name now g, temporary_consume name now g,
    fun _ hother => limited_consume_of_ne hother now g, hspending⟩, happroved⟩

end Grants

end Clearance
