import Clearance.Permission
import Clearance.Table

/-!
# The catalog

The permissions that are known, each under its own name.  Registering a name again replaces its
permission in place.
-/

namespace Clearance

/-- Puts a permission into a list: one of the same name keeps its place. -/
def putPermission (p : Permission) : List Permission -> List Permission
  | [] => [p]
  | q :: rest => if q.name = p.name then p :: rest else q :: putPermission p rest

theorem mem_names_putPermission {p : Permission} {ps : List Permission} {name : String} :
    name ∈ (putPermission p ps).map Permission.name ↔
      name = p.name ∨ name ∈ ps.map Permission.name := by
  induction ps with
  | nil => simp [putPermission]
  | cons q rest ih =>
      unfold putPermission
      split
      · rename_i h
        simp [h]
      · rw [List.map_cons, List.mem_cons, ih, List.map_cons, List.mem_cons]
        constructor
        · rintro (h | h | h)
          · exact .inr (.inl h)
          · exact .inl h
          · exact .inr (.inr h)
        · rintro (h | h | h)
          · exact .inr (.inl h)
          · exact .inl h
          · exact .inr (.inr h)

theorem nodup_putPermission {p : Permission} {ps : List Permission}
    (h : (ps.map Permission.name).Nodup) : ((putPermission p ps).map Permission.name).Nodup := by
  induction ps with
  | nil => simp [putPermission]
  | cons q rest ih =>
      rw [List.map_cons, List.nodup_cons] at h
      unfold putPermission
      split
      · rename_i hq
        rw [List.map_cons, List.nodup_cons, ← hq]
        exact h
      · rename_i hq
        rw [List.map_cons, List.nodup_cons, mem_names_putPermission]
        exact ⟨fun hmem => hmem.elim hq h.1, ih h.2⟩

structure Catalog where
  /-- The permissions in the order in which their names were registered. -/
  permissions : List Permission
  nodup_names : (permissions.map Permission.name).Nodup

namespace Catalog

def empty : Catalog :=
  { permissions := [], nodup_names := by simp }

instance : Inhabited Catalog := ⟨empty⟩

def register (p : Permission) (c : Catalog) : Catalog :=
  { permissions := putPermission p c.permissions
    nodup_names := nodup_putPermission c.nodup_names }

/-- The catalog of these permissions, registered in order. -/
def ofList (ps : List Permission) : Catalog :=
  ps.foldl (fun c p => c.register p) empty

/-- Permissions under their names: of two of one name the later stands at the place of the earlier. -/
def byName (ps : List Permission) : Table Permission :=
  ps.foldl (fun t p => Table.set p.name p t) []

theorem map_set {p : Permission} {t : Table Permission} (h : ∀ entry ∈ t, entry.2.name = entry.1) :
    (Table.set p.name p t).map Prod.snd = putPermission p (t.map Prod.snd) := by
  induction t with
  | nil => rfl
  | cons first rest ih =>
      obtain ⟨n, q⟩ := first
      obtain ⟨hfirst, hrest⟩ := List.forall_mem_cons.1 h
      have hname : q.name = n := hfirst
      rw [Table.set, List.map_cons, putPermission, hname]
      by_cases hn : n = p.name
      · rw [if_pos hn, if_pos hn, List.map_cons]
      · rw [if_neg hn, if_neg hn, List.map_cons, ih hrest]

theorem map_foldl_set (ps : List Permission) {t : Table Permission} {c : Catalog}
    (h : ∀ entry ∈ t, entry.2.name = entry.1) (hc : t.map Prod.snd = c.permissions) :
    (ps.foldl (fun t p => Table.set p.name p t) t).map Prod.snd =
      (ps.foldl (fun c p => c.register p) c).permissions := by
  induction ps generalizing t c with
  | nil => exact hc
  | cons p rest ih =>
      have hnamed : ∀ entry ∈ Table.set p.name p t, entry.2.name = entry.1 := by
        intro entry hentry
        cases Table.eq_or_mem_of_mem_set hentry with
        | inl hnew => rw [hnew]
        | inr hold => exact h entry hold
      have hput : (Table.set p.name p t).map Prod.snd = (c.register p).permissions := by
        rw [map_set h, hc]
        rfl
      exact ih hnamed hput

/-- Permissions under their names are those of the catalog in which they are registered. -/
theorem map_byName (ps : List Permission) :
    (byName ps).map Prod.snd = (ofList ps).permissions :=
  map_foldl_set ps (fun _ hentry => nomatch hentry) rfl

/-- Takes other permissions for the whole catalog. -/
def replace (ps : List Permission) (_ : Catalog) : Catalog :=
  { permissions := (byName ps).map Prod.snd
    nodup_names := by
      rw [map_byName]
      exact (ofList ps).nodup_names }

theorem replace_eq_ofList (ps : List Permission) (c : Catalog) : c.replace ps = ofList ps := by
  have hpermissions : (c.replace ps).permissions = (ofList ps).permissions := map_byName ps
  cases hlist : ofList ps with
  | mk permissions hnodup =>
      rw [hlist] at hpermissions
      subst hpermissions
      rfl

/-- Every permission that comes with the program. -/
def builtinPermissions : List Permission :=
  [ { name := "file.read", scope := .file, risk := .low },
    { name := "file.write", scope := .file, risk := .medium },
    { name := "file.delete", scope := .file, risk := .high },
    { name := "bash.execute", scope := .system, risk := .high },
    { name := "network.request", scope := .network, risk := .medium },
    { name := "system.execute", scope := .system, risk := .high } ]

def get? (name : String) (c : Catalog) : Option Permission :=
  c.permissions.find? fun p => p.name == name

def contains (name : String) (c : Catalog) : Bool :=
  (c.get? name).isSome

def unregister (name : String) (c : Catalog) : Catalog :=
  { permissions := c.permissions.filter fun p => p.name != name
    nodup_names := c.nodup_names.sublist (List.filter_sublist.map Permission.name) }

def names (c : Catalog) : List String :=
  c.permissions.map Permission.name

def size (c : Catalog) : Nat :=
  c.permissions.length

def withRisk (risk : RiskLevel) (c : Catalog) : List Permission :=
  c.permissions.filter fun p => p.risk == risk

def withScope (scope : Scope) (c : Catalog) : List Permission :=
  c.permissions.filter fun p => p.scope == scope

end Catalog

end Clearance
