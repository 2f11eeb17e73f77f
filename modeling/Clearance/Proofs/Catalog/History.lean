import Clearance.Proofs.Catalog.Registration
import Mathlib.Data.List.Flatten

/-!
# Catalogs by their history

What a catalog holds, told from the operations on it alone.  Permissions are numbered as they are
supplied, whatever operation supplies them.  Under a name stands the permission that was supplied
last since the name was last removed, and the names stand in the order in which they were first
supplied since then.
-/

namespace Clearance.Catalog

/-- What is done to a catalog. -/
inductive Operation where
  | register (p : Permission)
  | unregister (name : String)
  | replace (ps : List Permission)
  | clear

namespace Operation

/-- The catalog after an operation. -/
def after (op : Operation) (c : Catalog) : Catalog :=
  match op with
  | .register p => c.register p
  | .unregister name => c.unregister name
  | .replace ps => c.replace ps
  | .clear => .empty

/-- What an operation tells: whether there was something to unregister. -/
def reply (op : Operation) (c : Catalog) : Option Bool :=
  match op with
  | .unregister name => some (c.contains name)
  | _ => none

end Operation

/-- The operations so far, the newest first. -/
abbrev History := List Operation

/-- The catalog that a history leaves of one that is made of some permissions. -/
def replay (start : List Permission) : History -> Catalog
  | [] => ofList start
  | op :: past => op.after (replay start past)

/-- What is supplied under a name by some permissions, which are numbered on from a number. -/
def suppliedBy (ps : List Permission) (number : Nat) (name : String) : List (Permission × Nat) :=
  (ps.zipIdx number).filter fun supply => supply.1.name == name

namespace History

variable (start : List Permission)

/-- How many permissions were ever supplied. -/
def count : History -> Nat
  | [] => start.length
  | .register _ :: past => count past + 1
  | .replace ps :: past => count past + ps.length
  | _ :: past => count past

/-- What was supplied under a name since it was last removed, the oldest first. -/
def supplies (name : String) : History -> List (Permission × Nat)
  | [] => suppliedBy start 0 name
  | .register p :: past => supplies name past ++ suppliedBy [p] (count start past) name
  | .unregister other :: past => if other = name then [] else supplies name past
  | .replace ps :: past => suppliedBy ps (count start past) name
  | .clear :: _ => []

/-- The number of the first of these. -/
def firstSupply? (name : String) (past : History) : Option Nat :=
  (supplies start name past).head?.map Prod.snd

end History

open History (count supplies firstSupply?)

/-! ## Supplies -/

theorem suppliedBy_cons (p : Permission) (ps : List Permission) (number : Nat) (name : String) :
    suppliedBy (p :: ps) number name =
      suppliedBy [p] number name ++ suppliedBy ps (number + 1) name := by
  rw [suppliedBy, suppliedBy, suppliedBy, List.zipIdx_cons, List.zipIdx_cons, List.zipIdx_nil,
    ← List.filter_append, List.singleton_append]

theorem suppliedBy_singleton (p : Permission) (number : Nat) (name : String) :
    suppliedBy [p] number name = if p.name = name then [(p, number)] else [] := by
  by_cases h : p.name = name <;> simp [suppliedBy, h]

/--
A catalog holds what was supplied: under each name the last of its supplies, and the names in the
order of their first ones.
-/
structure Supplied (supplies : String -> List (Permission × Nat)) (count : Nat) (c : Catalog) :
    Prop where
  last : ∀ name, c.get? name = (supplies name).getLast?.map Prod.fst
  bound : ∀ name, ∀ supply ∈ supplies name, supply.2 < count
  ordered : c.names.Pairwise fun a b =>
    ∀ s ∈ (supplies a).head?, ∀ t ∈ (supplies b).head?, s.2 < t.2

theorem supplied_empty (count : Nat) : Supplied (fun _ => []) count empty where
  last := fun _ => rfl
  bound := fun _ _ h => nomatch h
  ordered := List.Pairwise.nil

section

variable {earlier : String -> List (Permission × Nat)} {number : Nat} {c : Catalog}

/-- The names of a catalog are those that were supplied. -/
theorem Supplied.mem_names_iff (h : Supplied earlier number c) {name : String} :
    name ∈ c.names ↔ earlier name ≠ [] := by
  rw [← contains_iff, contains, h.last]
  simp

theorem Supplied.register (h : Supplied earlier number c) (p : Permission) :
    Supplied (fun name => earlier name ++ suppliedBy [p] number name) (number + 1)
      (c.register p) where
  last := by
    intro name
    rw [get?_register, suppliedBy_singleton]
    by_cases hname : p.name = name
    · rw [if_pos hname, if_pos hname, List.getLast?_concat]
      rfl
    · rw [if_neg hname, if_neg hname, List.append_nil, h.last]
  bound := by
    intro name supply hsupply
    rw [suppliedBy_singleton] at hsupply
    cases List.mem_append.1 hsupply with
    | inl hold => exact Nat.lt_succ_of_lt (h.bound name supply hold)
    | inr hnew =>
        by_cases hname : p.name = name
        · rw [if_pos hname, List.mem_singleton] at hnew
          exact hnew ▸ Nat.lt_succ_self number
        · rw [if_neg hname] at hnew
          cases hnew
  ordered := by
    -- A name that is there has its first supply already, any other gets the greatest number.
    have hold {name : String} (hmem : name ∈ c.names) :
        (earlier name ++ suppliedBy [p] number name).head? = (earlier name).head? := by
      rw [List.head?_append, Option.or_of_isSome]
      exact List.isSome_head?.2 (h.mem_names_iff.1 hmem)
    have hordered : c.names.Pairwise fun a b =>
        ∀ s ∈ (earlier a ++ suppliedBy [p] number a).head?,
          ∀ t ∈ (earlier b ++ suppliedBy [p] number b).head?, s.2 < t.2 :=
      h.ordered.imp_of_mem fun ha hb hlt => by
        rw [hold ha, hold hb]
        exact hlt
    have hnames : (c.register p).names = _ := names_putPermission
    rw [hnames]
    by_cases hmem : p.name ∈ c.permissions.map Permission.name
    · rw [if_pos hmem]
      exact hordered
    · rw [if_neg hmem]
      refine List.pairwise_append.2 ⟨hordered, List.pairwise_singleton _ _, ?_⟩
      intro a ha b hb s hs t ht
      have hnone : earlier p.name = [] :=
        Decidable.byContradiction fun hne => hmem (h.mem_names_iff.2 hne)
      rw [List.mem_singleton.1 hb, hnone, suppliedBy_singleton, if_pos rfl] at ht
      rw [hold ha] at hs
      cases ht
      exact h.bound a s (List.mem_of_head? hs)

theorem Supplied.registerAll (h : Supplied earlier number c) (ps : List Permission) :
    Supplied (fun name => earlier name ++ suppliedBy ps number name) (number + ps.length)
      (ps.foldl (fun c p => c.register p) c) := by
  induction ps generalizing earlier number c with
  | nil =>
      have hnone : (fun name => earlier name ++ suppliedBy [] number name) = earlier :=
        funext fun name => List.append_nil (earlier name)
      rw [hnone]
      exact h
  | cons p rest ih =>
      have hsplit : (fun name => earlier name ++ suppliedBy (p :: rest) number name) = fun name =>
          (earlier name ++ suppliedBy [p] number name) ++ suppliedBy rest (number + 1) name := by
        funext name
        rw [suppliedBy_cons, List.append_assoc]
      have hcount : number + (p :: rest).length = number + 1 + rest.length := by
        rw [List.length_cons]
        omega
      rw [hsplit, hcount]
      exact ih (h.register p)

theorem supplied_ofList (ps : List Permission) (number : Nat) :
    Supplied (suppliedBy ps number) (number + ps.length) (ofList ps) :=
  (supplied_empty number).registerAll ps

theorem Supplied.unregister (h : Supplied earlier number c) (name : String) :
    Supplied (fun other => if name = other then [] else earlier other) number
      (c.unregister name) where
  last := by
    intro other
    rw [get?_unregister]
    by_cases hname : name = other
    · rw [if_pos hname, if_pos hname]
      rfl
    · rw [if_neg hname, if_neg hname, h.last]
  bound := by
    intro other supply hsupply
    by_cases hname : name = other
    · rw [if_pos hname] at hsupply
      cases hsupply
    · rw [if_neg hname] at hsupply
      exact h.bound other supply hsupply
  ordered := by
    have hsublist : (c.unregister name).names.Sublist c.names :=
      List.filter_sublist.map Permission.name
    refine (h.ordered.sublist hsublist).imp fun {a b} hlt => ?_
    intro s hs t ht
    by_cases ha : name = a
    · rw [if_pos ha] at hs
      cases hs
    · by_cases hb : name = b
      · rw [if_pos hb] at ht
        cases ht
      · rw [if_neg ha] at hs
        rw [if_neg hb] at ht
        exact hlt s hs t ht

end

/-! ## Histories -/

theorem supplied_replay (start : List Permission) (past : History) :
    Supplied (fun name => supplies start name past) (count start past) (replay start past) := by
  induction past with
  | nil =>
      have h := supplied_ofList start 0
      rw [Nat.zero_add] at h
      exact h
  | cons op past ih =>
      cases op with
      | register p => exact ih.register p
      | unregister name => exact ih.unregister name
      | replace ps =>
          have h := supplied_ofList ps (count start past)
          rw [← replace_eq_ofList ps (replay start past)] at h
          exact h
      | clear => exact supplied_empty (count start past)

/-- What holds of a catalog with a past. -/
structure Follows (start : List Permission) (past : History) (c : Catalog) : Prop where
  nodup : c.names.Nodup
  listed : ∀ p, p ∈ c.permissions ↔ c.get? p.name = some p
  /-- Under a name stands what was supplied last since the name was removed. -/
  last : ∀ name, c.get? name = (supplies start name past).getLast?.map Prod.fst
  /-- The names stand in the order of their first supplies since they were removed. -/
  ordered : c.names.Pairwise fun a b =>
    ∃ i j, firstSupply? start a past = some i ∧ firstSupply? start b past = some j ∧ i < j

theorem Supplied.exists_first {earlier : String -> List (Permission × Nat)} {number : Nat}
    {c : Catalog} (h : Supplied earlier number c) {name : String} (hname : name ∈ c.names) :
    ∃ supply, (earlier name).head? = some supply :=
  Option.isSome_iff_exists.1 (List.isSome_head?.2 (h.mem_names_iff.1 hname))

theorem follows_replay (start : List Permission) (past : History) :
    Follows start past (replay start past) where
  nodup := (replay start past).nodup_names
  listed := fun p => ⟨fun hp => get?_eq_some_iff.2 ⟨hp, rfl⟩, fun h => (get?_eq_some_iff.1 h).1⟩
  last := (supplied_replay start past).last
  ordered := by
    have h := supplied_replay start past
    refine h.ordered.imp_of_mem fun {a b} ha hb hlt => ?_
    obtain ⟨s, hs⟩ := h.exists_first ha
    obtain ⟨t, ht⟩ := h.exists_first hb
    exact ⟨s.2, t.2, congrArg (Option.map Prod.snd) hs, congrArg (Option.map Prod.snd) ht,
      hlt s hs t ht⟩

/-- To replace a catalog is to clear it and to register one permission after another. -/
theorem replay_registers (start ps : List Permission) (past : History) :
    replay start ((ps.map .register).reverse ++ past) =
      ps.foldl (fun c p => c.register p) (replay start past) := by
  induction ps generalizing past with
  | nil => rfl
  | cons p rest ih =>
      rw [List.map_cons, List.reverse_cons, List.append_assoc, List.singleton_append, ih]
      rfl

/-! ## Groups -/

/-- Elements that are picked by each of several keys are all the elements, if each has one. -/
theorem flatMap_filter_perm {α κ : Type} [DecidableEq κ] (key : α -> κ) {keys : List κ}
    (hnodup : keys.Nodup) {xs : List α} (hkeys : ∀ x ∈ xs, key x ∈ keys) :
    (keys.flatMap fun k => xs.filter fun x => key x == k).Perm xs := by
  induction keys generalizing xs with
  | nil =>
      cases xs with
      | nil => exact .refl _
      | cons x rest => cases hkeys x List.mem_cons_self
  | cons k others ih =>
      obtain ⟨hk, hothers⟩ := List.nodup_cons.1 hnodup
      -- The other keys pick nothing of what the first one picks.
      have hrest : (others.flatMap fun k' => xs.filter fun x => key x == k') =
          others.flatMap fun k' =>
            (xs.filter fun x => !(key x == k)).filter fun x => key x == k' := by
        refine List.flatMap_congr fun k' hk' => ?_
        rw [List.filter_filter]
        refine List.filter_congr fun x _ => ?_
        by_cases hx : key x = k'
        · have hne : key x ≠ k := fun heq => hk (heq ▸ hx ▸ hk')
          simp [hx ▸ hne, hx]
        · simp [hx]
      have hleft : ∀ x ∈ xs.filter fun x => !(key x == k), key x ∈ others := by
        intro x hx
        obtain ⟨hmem, hne⟩ := List.mem_filter.1 hx
        cases List.mem_cons.1 (hkeys x hmem) with
        | inl heq => simp [heq] at hne
        | inr hmem => exact hmem
      rw [List.flatMap_cons, hrest]
      exact ((ih hothers hleft).append_left _).trans (List.filter_append_perm _ xs)

/-- The groups of a catalog keep its order, and each of its permissions is in one of them. -/
structure Grouped {κ : Type} (key : Permission -> κ) (keys : List κ)
    (group : κ -> List Permission) (c : Catalog) : Prop where
  ordered : ∀ k, (group k).Sublist c.permissions
  alike : ∀ k, ∀ p ∈ group k, key p = k
  whole : (keys.flatMap group).Perm c.permissions

theorem grouped_filter {κ : Type} [DecidableEq κ] (key : Permission -> κ) {keys : List κ}
    (hnodup : keys.Nodup) (hall : ∀ k, k ∈ keys) (c : Catalog) :
    Grouped key keys (fun k => c.permissions.filter fun p => key p == k) c where
  ordered := fun _ => List.filter_sublist
  alike := fun _ _ hp => eq_of_beq (List.mem_filter.1 hp).2
  whole := flatMap_filter_perm key hnodup fun p _ => hall (key p)

/--
A catalog follows its history.  What is told of an unregistered name is whether there was something
under it, to replace the catalog is to clear it and to register one permission after another, and
the risk levels and the scopes divide it into groups.
-/
theorem replay_follows_history (start : List Permission) (past : History) :
    Follows start past (replay start past) ∧
      (∀ name, (Operation.unregister name).reply (replay start past) = some true ↔
        supplies start name past ≠ []) ∧
      (∀ ps, replay start (.replace ps :: past) =
          replay start ((ps.map .register).reverse ++ .clear :: past) ∧
        replay start (.replace ps :: past) = ofList ps) ∧
      Grouped Permission.risk RiskLevel.all (replay start past).withRisk (replay start past) ∧
      Grouped Permission.scope Scope.all (replay start past).withScope (replay start past) := by
  refine ⟨follows_replay start past, fun name => ?_, fun ps => ?_, ?_, ?_⟩
  · rw [← (supplied_replay start past).mem_names_iff, ← contains_iff]
    exact Option.some_inj
  · have hreplace : replay start (.replace ps :: past) = ofList ps :=
      replace_eq_ofList ps (replay start past)
    refine ⟨?_, hreplace⟩
    rw [hreplace, replay_registers]
    rfl
  · exact grouped_filter Permission.risk (by decide) RiskLevel.mem_all _
  · exact grouped_filter Permission.scope (by decide) Scope.mem_all _

end Clearance.Catalog
