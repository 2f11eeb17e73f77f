import Clearance.Decision

/-!
# The audit log

The decisions in the order in which they were made.  Entries come in at the end; the oldest may be
dropped.
-/

namespace Clearance

structure AuditLog where
  entries : List AuditEntry := []
  deriving Inhabited

namespace AuditLog

def append (e : AuditEntry) (l : AuditLog) : AuditLog :=
  { entries := l.entries ++ [e] }

def size (l : AuditLog) : Nat :=
  l.entries.length

/-- The entries that are wanted, in order. -/
def select (filter? : Option AuditFilter) (l : AuditLog) : List AuditEntry :=
  match filter? with
  | none => l.entries
  | some f => l.entries.filter f.accepts

/-- How many entries are dropped when so many are to be kept. -/
def excess (keep : Int) (l : AuditLog) : Nat :=
  l.size - keep.toNat

/-- Drops all but the newest entries. -/
def trim (keep : Int) (l : AuditLog) : AuditLog :=
  { entries := l.entries.drop (l.excess keep) }

theorem size_append (e : AuditEntry) (l : AuditLog) : (l.append e).size = l.size + 1 := by
  simp [append, size]

theorem size_trim (keep : Int) (l : AuditLog) : (l.trim keep).size = min l.size keep.toNat := by
  simp only [trim, excess, size, List.length_drop]
  omega

end AuditLog

end Clearance
