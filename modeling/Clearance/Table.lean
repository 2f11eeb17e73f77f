/-!
# Tables

Values under names, in the order in which the names were first given.  Setting a name that is
there keeps its place.
-/

namespace Clearance

abbrev Table (α : Type) := List (String × α)

namespace Table

variable {α : Type}

def get? (name : String) : Table α -> Option α
  | [] => none
  | (n, a) :: rest => if n = name then some a else get? name rest

def set (name : String) (a : α) : Table α -> Table α
  | [] => [(name, a)]
  | (n, b) :: rest => if n = name then (n, a) :: rest else (n, b) :: set name a rest

def erase (name : String) (t : Table α) : Table α :=
  t.filter fun (n, _) => n != name

/-- The part of a table whose values pass a test. -/
def keep (test : α -> Bool) (t : Table α) : Table α :=
  t.filter fun (_, a) => test a

def names (t : Table α) : List String :=
  t.map Prod.fst

theorem get?_set (name other : String) (a : α) (t : Table α) :
    get? other (set name a t) = if other = name then some a else get? other t := by
  induction t with
  | nil => by_cases h : name = other <;> simp [set, get?, h, eq_comm]
  | cons p rest ih =>
      obtain ⟨n, b⟩ := p
      by_cases hn : n = name
      · subst hn
        by_cases h : other = n
        · simp [set, get?, h]
        · simp [set, get?, h, Ne.symm h]
      · by_cases h : n = other
        · subst h
          simp [set, get?, hn]
        · simp [set, get?, hn, h, ih]

theorem get?_erase (name other : String) (t : Table α) :
    get? other (erase name t) = if other = name then none else get? other t := by
  induction t with
  | nil => simp [erase, get?]
  | cons p rest ih =>
      obtain ⟨n, b⟩ := p
      have step : erase name ((n, b) :: rest)
          = if n = name then erase name rest else (n, b) :: erase name rest := by
        by_cases hn : n = name <;> simp [erase, hn]
      rw [step]
      by_cases hn : n = name
      · subst hn
        rw [if_pos rfl, ih]
        by_cases h : other = n
        · simp [h]
        · simp [get?, h, Ne.symm h]
      · rw [if_neg hn]
        by_cases h : n = other
        · subst h
          simp [get?, hn]
        · simp [get?, h, ih]

/-- Setting a name gives one entry and leaves the others. -/
theorem eq_or_mem_of_mem_set {name : String} {a : α} {t : Table α} {entry : String × α}
    (h : entry ∈ set name a t) : entry = (name, a) ∨ entry ∈ t := by
  induction t with
  | nil => exact .inl (List.mem_singleton.1 h)
  | cons first rest ih =>
      obtain ⟨n, b⟩ := first
      by_cases hn : n = name
      · subst hn
        rw [set, if_pos rfl] at h
        exact (List.mem_cons.1 h).imp_right (List.mem_cons_of_mem _)
      · rw [set, if_neg hn] at h
        cases List.mem_cons.1 h with
        | inl hfirst => exact .inr (hfirst ▸ List.mem_cons_self)
        | inr hrest => exact (ih hrest).imp_right (List.mem_cons_of_mem _)

/-! ## Names given once -/

theorem mem_names_set {name other : String} {a : α} {t : Table α} :
    other ∈ names (set name a t) ↔ other = name ∨ other ∈ names t := by
  induction t with
  | nil => simp [names, set]
  | cons p rest ih =>
      obtain ⟨n, b⟩ := p
      simp only [names] at ih
      by_cases hn : n = name
      · subst hn
        simp [names, set]
      · simp only [set, names, hn, if_false, List.map_cons, List.mem_cons, ih]
        exact or_left_comm

/-- Setting a name that is there leaves the names as they are. -/
theorem names_set_of_mem {name : String} {a : α} {t : Table α} (h : name ∈ t.names) :
    (set name a t).names = t.names := by
  induction t with
  | nil => cases h
  | cons p rest ih =>
      obtain ⟨n, b⟩ := p
      by_cases hn : n = name
      · simp [set, hn, names]
      · have hmem : name ∈ names rest := (List.mem_cons.1 h).resolve_left (Ne.symm hn)
        simpa [set, hn, names] using ih hmem

/-- A name that is not there is set at the end. -/
theorem set_of_notMem {name : String} {t : Table α} (h : name ∉ t.names) (a : α) :
    set name a t = t ++ [(name, a)] := by
  induction t with
  | nil => rfl
  | cons p rest ih =>
      simp only [names, List.map_cons, List.mem_cons, not_or] at h
      rw [set, if_neg (Ne.symm h.1), ih h.2]
      rfl

theorem nodup_names_set {name : String} {a : α} {t : Table α} (h : t.names.Nodup) :
    (set name a t).names.Nodup := by
  induction t with
  | nil => simp [names, set]
  | cons p rest ih =>
      obtain ⟨n, b⟩ := p
      have hrest : n ∉ names rest ∧ (names rest).Nodup := List.nodup_cons.1 h
      by_cases hn : n = name
      · subst hn
        simpa [names, set] using hrest
      · have hset : n ∉ names (set name a rest) := by
          rw [mem_names_set]
          exact fun hmem => hmem.elim hn hrest.1
        simpa [names, set, hn] using And.intro hset (ih hrest.2)

theorem nodup_names_erase {name : String} {t : Table α} (h : t.names.Nodup) :
    (erase name t).names.Nodup :=
  h.sublist (List.filter_sublist.map Prod.fst)

theorem nodup_names_keep {test : α -> Bool} {t : Table α} (h : t.names.Nodup) :
    (keep test t).names.Nodup :=
  h.sublist (List.filter_sublist.map Prod.fst)

theorem get?_eq_none_of_not_mem {name : String} {t : Table α} (h : name ∉ t.names) :
    get? name t = none := by
  induction t with
  | nil => rfl
  | cons p rest ih =>
      obtain ⟨n, b⟩ := p
      simp only [names, List.map_cons, List.mem_cons, not_or] at h
      simpa [get?, Ne.symm h.1] using ih h.2

/-- A name stands for the value of its entry. -/
theorem get?_eq_some_iff {t : Table α} (h : t.names.Nodup) {name : String} {a : α} :
    get? name t = some a ↔ (name, a) ∈ t := by
  induction t with
  | nil => simp [get?]
  | cons p rest ih =>
      obtain ⟨n, b⟩ := p
      have hrest : n ∉ names rest ∧ (names rest).Nodup := List.nodup_cons.1 h
      by_cases hn : n = name
      · subst hn
        have habsent : (n, a) ∉ rest := fun hmem => hrest.1 (List.mem_map_of_mem hmem)
        simp [get?, habsent, eq_comm]
      · simp [get?, hn, Ne.symm hn, ih hrest.2]

/-- A name is kept with its value, or is not there any more. -/
theorem get?_keep {test : α -> Bool} {t : Table α} (h : t.names.Nodup) (name : String) :
    get? name (keep test t) = (get? name t).filter test := by
  induction t with
  | nil => rfl
  | cons p rest ih =>
      obtain ⟨n, b⟩ := p
      have hrest : n ∉ names rest ∧ (names rest).Nodup := List.nodup_cons.1 h
      have hkeep : keep test ((n, b) :: rest)
          = if test b then (n, b) :: keep test rest else keep test rest := by
        simp [keep, List.filter_cons]
      rw [hkeep]
      by_cases hn : n = name
      · subst hn
        have hgone : get? n (keep test rest) = none := by
          rw [ih hrest.2, get?_eq_none_of_not_mem hrest.1]
          rfl
        cases hb : test b with
        | false => simp [get?, hgone, Option.filter, hb]
        | true => simp [get?, Option.filter, hb]
      · cases hb : test b with
        | false => simpa [get?, hn] using ih hrest.2
        | true => simpa [get?, hn] using ih hrest.2

end Table

end Clearance
