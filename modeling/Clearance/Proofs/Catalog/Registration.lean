import Clearance.Catalog
import Clearance.Proofs.FirstPlaces
import Mathlib.Data.List.Nodup

/-!
# What registering leaves in a catalog

A catalog of several permissions has each of their names once, in the order in which the names come
first, and under a name the permission that comes last.
-/

namespace Clearance

/-! ## Putting one permission -/

theorem names_putPermission {p : Permission} {ps : List Permission} :
    (putPermission p ps).map Permission.name =
      if p.name ∈ ps.map Permission.name then ps.map Permission.name
      else ps.map Permission.name ++ [p.name] := by
  induction ps with
  | nil => rfl
  | cons q rest ih =>
      by_cases hq : q.name = p.name
      · simp [putPermission, hq]
      · rw [putPermission, if_neg hq, List.map_cons, ih]
        by_cases hmem : p.name ∈ rest.map Permission.name
        · have hin : p.name ∈ (q :: rest).map Permission.name := List.mem_cons_of_mem _ hmem
          rw [if_pos hmem, if_pos hin, List.map_cons]
        · have hnot : p.name ∉ (q :: rest).map Permission.name := by
            rw [List.map_cons, List.mem_cons, not_or]
            exact ⟨Ne.symm hq, hmem⟩
          rw [if_neg hmem, if_neg hnot, List.map_cons, List.cons_append]

/-- The permissions of other names stay. -/
theorem eq_or_mem_of_mem_putPermission {p q : Permission} {ps : List Permission}
    (hnodup : (ps.map Permission.name).Nodup) (h : q ∈ putPermission p ps) :
    q = p ∨ q ∈ ps ∧ q.name ≠ p.name := by
  induction ps with
  | nil => exact .inl (List.mem_singleton.1 h)
  | cons first rest ih =>
      obtain ⟨hfresh, hrest⟩ := List.nodup_cons.1 hnodup
      by_cases hfirst : first.name = p.name
      · rw [putPermission, if_pos hfirst] at h
        cases List.mem_cons.1 h with
        | inl heq => exact .inl heq
        | inr hmem =>
            refine .inr ⟨List.mem_cons_of_mem _ hmem, ?_⟩
            intro hname
            apply hfresh
            rw [hfirst, ← hname]
            exact List.mem_map_of_mem hmem
      · rw [putPermission, if_neg hfirst] at h
        cases List.mem_cons.1 h with
        | inl heq =>
            subst heq
            exact .inr ⟨List.mem_cons_self, hfirst⟩
        | inr hmem =>
            cases ih hrest hmem with
            | inl heq => exact .inl heq
            | inr hkept => exact .inr ⟨List.mem_cons_of_mem _ hkept.1, hkept.2⟩

namespace Catalog

/-! ## Lookups -/

theorem get?_eq_some_iff {name : String} {p : Permission} {c : Catalog} :
    c.get? name = some p ↔ p ∈ c.permissions ∧ p.name = name := by
  constructor
  · intro h
    exact ⟨List.mem_of_find?_eq_some h, by simpa using List.find?_some h⟩
  · rintro ⟨hmem, rfl⟩
    cases hget : c.get? p.name with
    | none => simpa using List.find?_eq_none.1 hget p hmem
    | some q =>
        have hq : q ∈ c.permissions := List.mem_of_find?_eq_some hget
        have hname : q.name = p.name := by simpa using List.find?_some hget
        rw [List.inj_on_of_nodup_map c.nodup_names hq hmem hname]

theorem get?_register (p : Permission) (c : Catalog) (name : String) :
    (c.register p).get? name = if p.name = name then some p else c.get? name := by
  suffices h : ∀ ps : List Permission, (putPermission p ps).find? (fun q => q.name == name) =
      if p.name = name then some p else ps.find? fun q => q.name == name from h c.permissions
  intro ps
  induction ps with
  | nil => by_cases h : p.name = name <;> simp [putPermission, h]
  | cons q rest ih =>
      by_cases hq : q.name = p.name
      · rw [putPermission, if_pos hq]
        by_cases h : p.name = name <;> simp [h, hq]
      · rw [putPermission, if_neg hq, List.find?_cons, List.find?_cons, ih]
        by_cases h : p.name = name
        · have hother : (q.name == name) = false := beq_false_of_ne (h ▸ hq)
          rw [hother, if_pos h]
        · rw [if_neg h, if_neg h]

theorem get?_unregister (name other : String) (c : Catalog) :
    (c.unregister name).get? other = if name = other then none else c.get? other := by
  rw [get?, unregister, List.find?_filter]
  by_cases h : name = other
  · subst h
    rw [if_pos rfl, List.find?_eq_none]
    intro q _
    simp
  · rw [if_neg h, get?]
    congr 1
    funext q
    by_cases hq : q.name = other
    · simp [hq, Ne.symm h]
    · simp [hq]

theorem contains_iff {c : Catalog} {name : String} : c.contains name = true ↔ name ∈ c.names := by
  rw [contains, Option.isSome_iff_exists, names, List.mem_map]
  exact exists_congr fun p => get?_eq_some_iff

/-! ## Registering several -/

/--
A catalog holds what was supplied under each name: every name has the place at which it was
supplied first, and the permission with which it was supplied last.
-/
structure Keyed (supplied : List Permission) (c : Catalog) : Prop where
  names : c.names = (supplied.map Permission.name).eraseDups
  last : ∀ p ∈ c.permissions, ∃ before after, supplied = before ++ p :: after ∧
    p.name ∉ after.map Permission.name

theorem keyed_empty : Keyed [] empty where
  names := rfl
  last := by
    intro p hp
    cases hp

theorem Keyed.register {supplied : List Permission} {c : Catalog} (h : Keyed supplied c)
    (p : Permission) : Keyed (supplied ++ [p]) (c.register p) := by
  constructor
  case names =>
    have hnames : c.permissions.map Permission.name =
        (supplied.map Permission.name).eraseDups := h.names
    have hput : (c.register p).names = (putPermission p c.permissions).map Permission.name := rfl
    rw [hput, names_putPermission, hnames, List.map_append, List.map_singleton, eraseDups_concat]
    simp only [List.mem_eraseDups]
  case last =>
    intro q hq
    cases eq_or_mem_of_mem_putPermission c.nodup_names hq with
    | inl heq => exact ⟨supplied, [], by rw [heq], by simp⟩
    | inr hkept =>
        obtain ⟨before, after, hsplit, hafter⟩ := h.last q hkept.1
        refine ⟨before, after ++ [p], by rw [hsplit, List.append_assoc, List.cons_append], ?_⟩
        rw [List.map_append, List.mem_append, not_or]
        exact ⟨hafter, by simpa using hkept.2⟩

theorem Keyed.registerAll {supplied : List Permission} {c : Catalog} (h : Keyed supplied c)
    (ps : List Permission) : Keyed (supplied ++ ps) (ps.foldl (fun c p => c.register p) c) := by
  induction ps generalizing supplied c with
  | nil =>
      rw [List.append_nil]
      exact h
  | cons p rest ih =>
      have hsplit : supplied ++ p :: rest = (supplied ++ [p]) ++ rest := by simp
      rw [List.foldl_cons, hsplit]
      exact ih (h.register p)

/-- The catalog of some permissions holds them under their names. -/
theorem keyed_ofList (ps : List Permission) : Keyed ps (ofList ps) :=
  keyed_empty.registerAll ps

end Catalog

end Clearance
