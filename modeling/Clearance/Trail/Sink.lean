import Clearance.Trail.Database

/-!
# Sinks

Where the entries of a log go besides the log.  A sink that fails loses the entry and disturbs
nothing else.
-/

namespace Clearance.Trail

inductive Sink where
  | absent
  /-- Takes nothing, as a trail that has been closed. -/
  | refusing
  /-- Keeps the permissions of the entries. -/
  | memory (permissions : List String)
  | trail (d : Database)
  /-- Keeps the entries that it is handed, but fails at some of them, by their places. -/
  | faulty (fails : Nat -> Bool) (handed : List AuditEntry)
  deriving Inhabited

namespace Sink

/-- The entries at which a sink does not fail. -/
def kept (fails : Nat -> Bool) (handed : List AuditEntry) : List AuditEntry :=
  (handed.zipIdx.filter fun (_, place) => !fails place).map Prod.fst

def record (e : AuditEntry) : Sink -> Sink
  | .absent => .absent
  | .refusing => .refusing
  | .memory permissions => .memory (permissions ++ [e.permission])
  | .trail d =>
      match d.record e with
      | .ok (_, d) => .trail d
      | .error _ => .trail d
  | .faulty fails handed => .faulty fails (handed ++ [e])

/-- The permissions that a sink in memory has seen. -/
def permissions? : Sink -> Option (List String)
  | .absent | .trail _ => none
  | .refusing => some []
  | .memory permissions => some permissions
  | .faulty fails handed => some ((kept fails handed).map AuditEntry.permission)

end Sink

end Clearance.Trail
