import Clearance.Decision
import Clearance.Policy.Pattern
import Clearance.Table

/-!
# Grants

What has been granted: standing grants, which also cover names below them or by a star; temporary
grants, which run out at an instant; and limited grants, which have a number of uses.  The narrow
kinds are looked up first.
-/

namespace Clearance

/-- Puts a name into a list in code point order that does not hold it yet. -/
def insertName (name : String) : List String -> List String
  | [] => [name]
  | n :: rest =>
      if n = name then n :: rest
      else if name < n then name :: n :: rest
      else n :: insertName name rest

theorem mem_insertName {name other : String} {names : List String} :
    other ∈ insertName name names ↔ other = name ∨ other ∈ names := by
  induction names with
  | nil => simp [insertName]
  | cons n rest ih =>
      unfold insertName
      split
      · rename_i h
        simp [h]
      · split
        · simp
        · rw [List.mem_cons, ih, List.mem_cons]
          exact or_left_comm

theorem sorted_insertName {name : String} {names : List String}
    (h : names.Pairwise (· < ·)) : (insertName name names).Pairwise (· < ·) := by
  induction names with
  | nil => simp [insertName]
  | cons n rest ih =>
      obtain ⟨hn, hrest⟩ := List.pairwise_cons.1 h
      unfold insertName
      split
      · exact h
      · rename_i hne
        split
        · rename_i hlt
          refine List.pairwise_cons.2 ⟨?_, h⟩
          intro m hm
          rcases List.mem_cons.1 hm with rfl | hm
          · exact hlt
          · exact String.lt_trans hlt (hn m hm)
        · rename_i hge
          refine List.pairwise_cons.2 ⟨?_, ih hrest⟩
          intro m hm
          rcases mem_insertName.1 hm with rfl | hm
          · exact Decidable.byContradiction fun hlt =>
              hne (String.le_antisymm (String.not_lt.1 hge) (String.not_lt.1 hlt))
          · exact hn m hm

structure Grants where
  /-- The standing grants in code point order, each once. -/
  standing : List String := []
  /-- The temporary grants with the instants at which they run out. -/
  temporary : Table Timestamp := []
  /-- The limited grants with the uses that are left. -/
  limited : Table Int := []
  sorted_standing : standing.Pairwise (· < ·) := by exact .nil
  nodup_temporary : temporary.names.Nodup := by exact .nil
  nodup_limited : limited.names.Nodup := by exact .nil

/-- Nothing is granted. -/
def Grants.empty : Grants := {}

instance : Inhabited Grants := ⟨.empty⟩

/-- The grant that approves a request. -/
inductive GrantMatch where
  | temporary (expiresAt : Timestamp)
  /-- The uses are those that are left behind this one. -/
  | limited (remaining : Int)
  /-- A standing grant, by the name under which it was made. -/
  | standing (grantedBy : String)
  deriving Inhabited

namespace GrantMatch

def source : GrantMatch -> Source
  | .temporary _ => .temporaryGrant
  | .limited _ => .limitedGrant
  | .standing _ => .grant

def expiresAt? : GrantMatch -> Option Timestamp
  | .temporary t => some t
  | _ => none

def remaining? : GrantMatch -> Option Int
  | .limited n => some n
  | _ => none

def grantedBy? : GrantMatch -> Option String
  | .standing name => some name
  | _ => none

end GrantMatch

namespace Grants

def grant (name : String) (g : Grants) : Grants :=
  { g with
    standing := insertName name g.standing
    sorted_standing := sorted_insertName g.sorted_standing }

/-- Takes every kind of grant for a name away. -/
def revoke (name : String) (g : Grants) : Grants :=
  { standing := g.standing.filter (· != name)
    temporary := g.temporary.erase name
    limited := g.limited.erase name
    sorted_standing := g.sorted_standing.sublist List.filter_sublist
    nodup_temporary := Table.nodup_names_erase g.nodup_temporary
    nodup_limited := Table.nodup_names_erase g.nodup_limited }

/-- Grants until an instant. -/
def grantUntil (name : String) (expiry : Timestamp) (g : Grants) : Grants :=
  { g with
    temporary := g.temporary.set name expiry
    nodup_temporary := Table.nodup_names_set g.nodup_temporary }

/-- Grants a number of uses. -/
def grantUses (name : String) (uses : Int) (g : Grants) : Grants :=
  { g with
    limited := g.limited.set name uses
    nodup_limited := Table.nodup_names_set g.nodup_limited }

/-- Drops the limited grant for a name. -/
def dropUses (name : String) (g : Grants) : Grants :=
  { g with
    limited := g.limited.erase name
    nodup_limited := Table.nodup_names_erase g.nodup_limited }

/-- Drops the temporary grants that have run out. -/
def purge (now : Timestamp) (g : Grants) : Grants :=
  { g with
    temporary := g.temporary.keep fun expiry => decide (now.instant < expiry.instant)
    nodup_temporary := Table.nodup_names_keep g.nodup_temporary }

/-- The standing grant that covers a name: the name itself, else the least that covers it. -/
def standingCover? (name : String) (g : Grants) : Option String :=
  if g.standing.contains name then some name
  else g.standing.find? fun granted =>
    Pattern.wildcardCovers granted name || Pattern.hierarchyCovers granted name

/-- The standing grant for a name as a match. -/
def standingMatch? (name : String) (g : Grants) : Option GrantMatch :=
  (g.standingCover? name).map GrantMatch.standing

/--
Looks up the grant for a name at an instant and uses it.  Temporary grants that have run out are
dropped; a use of a limited grant is counted, and one without uses is dropped.
-/
def consume (name : String) (now : Timestamp) (g : Grants) : Option GrantMatch × Grants :=
  let g := g.purge now
  match g.temporary.get? name with
  | some expiry => (some (.temporary expiry), g)
  | none =>
      match g.limited.get? name with
      | some uses =>
          if 0 < uses then (some (.limited (uses - 1)), g.grantUses name (uses - 1))
          else (g.standingMatch? name, g.dropUses name)
      | none => (g.standingMatch? name, g)

end Grants

end Clearance
