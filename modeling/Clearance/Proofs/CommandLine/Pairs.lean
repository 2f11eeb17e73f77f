import Clearance.Proofs.CommandLine.Words
import Clearance.Proofs.FirstPlaces

/-!
# Contexts from pairs

A pair is a key and a value with an equals sign between them, and it is read at the first one: the
value can have others.  The context of several pairs has their keys in the order in which they first
come, each with the value that comes last.  So a table of texts is read back from its pairs, whatever
its values are.
-/

namespace Clearance

/-! ## Tables of entries -/

namespace Table

variable {α : Type}

/-- The table in which entries are set, one after another. -/
def ofEntries (entries : List (String × α)) : Table α :=
  entries.foldl (fun t entry => set entry.1 entry.2 t) []

theorem ofEntries_concat (entries : List (String × α)) (entry : String × α) :
    ofEntries (entries ++ [entry]) = set entry.1 entry.2 (ofEntries entries) := by
  rw [ofEntries, List.foldl_append]
  rfl

/-- The names stand in the order in which they are first set. -/
theorem names_ofEntries (entries : List (String × α)) :
    (ofEntries entries).names = (entries.map Prod.fst).eraseDups := by
  induction entries using List.reverseRecOn with
  | nil => rfl
  | append_singleton entries entry ih =>
      have hmem : entry.1 ∈ (ofEntries entries).names ↔ entry.1 ∈ entries.map Prod.fst := by
        rw [ih, List.mem_eraseDups]
      rw [ofEntries_concat, List.map_append, List.map_singleton, eraseDups_concat]
      by_cases hold : entry.1 ∈ entries.map Prod.fst
      · rw [if_pos hold, names_set_of_mem (hmem.2 hold), ih]
      · rw [if_neg hold, set_of_notMem (mt hmem.1 hold), names, List.map_append, ← ih]
        rfl

theorem nodup_names_ofEntries (entries : List (String × α)) : (ofEntries entries).names.Nodup := by
  rw [names_ofEntries]
  exact nodup_eraseDups _

/-- Under a name stands what is set last. -/
theorem get?_ofEntries (name : String) (entries : List (String × α)) :
    get? name (ofEntries entries) =
      (entries.filter fun entry => entry.1 == name).getLast?.map Prod.snd := by
  induction entries using List.reverseRecOn with
  | nil => rfl
  | append_singleton entries entry ih =>
      rw [ofEntries_concat, get?_set, List.filter_append, List.filter_singleton]
      by_cases hname : name = entry.1
      · have hsame : (entry.1 == name) = true := beq_iff_eq.2 hname.symm
        rw [if_pos hname, hsame, cond_true, List.getLast?_concat]
        rfl
      · have hother : (entry.1 == name) = false := beq_false_of_ne (Ne.symm hname)
        rw [if_neg hname, hother, cond_false, List.append_nil, ih]

/-- A table whose names are all different is the table of its own entries. -/
theorem ofEntries_eq_self {t : Table α} (h : t.names.Nodup) : ofEntries t = t := by
  induction t using List.reverseRecOn with
  | nil => rfl
  | append_singleton t entry ih =>
      have hsplit : (names t ++ [entry.1]).Nodup := by
        have hnames : names (t ++ [entry]) = names t ++ [entry.1] := List.map_append
        rwa [← hnames]
      obtain ⟨hnodup, _, hfresh⟩ := List.nodup_append.1 hsplit
      have hnot : entry.1 ∉ names t := fun hmem =>
        hfresh _ hmem _ (List.mem_singleton.2 rfl) rfl
      rw [ofEntries_concat, ih hnodup, set_of_notMem hnot]

/-- A table is told by its names and by what stands under each of them. -/
theorem eq_of_get?_eq {t t' : Table α} (hnodup : t.names.Nodup) (hnames : t.names = t'.names)
    (hget : ∀ name, get? name t = get? name t') : t = t' := by
  induction t generalizing t' with
  | nil => exact (List.map_eq_nil_iff.1 hnames.symm).symm
  | cons entry rest ih =>
      obtain ⟨name, a⟩ := entry
      cases t' with
      | nil => cases hnames
      | cons entry' rest' =>
          obtain ⟨name', a'⟩ := entry'
          obtain ⟨rfl, hrest⟩ : name = name' ∧ names rest = names rest' := List.cons.inj hnames
          obtain ⟨hfresh, hnodup⟩ : name ∉ names rest ∧ (names rest).Nodup :=
            List.nodup_cons.1 hnodup
          have hvalue : a = a' := by simpa [get?] using hget name
          have hothers (other : String) : get? other rest = get? other rest' := by
            by_cases hother : name = other
            · subst hother
              rw [get?_eq_none_of_not_mem hfresh, get?_eq_none_of_not_mem (hrest ▸ hfresh)]
            · simpa [get?, hother] using hget other
          rw [hvalue, ih hnodup hrest hothers]

end Table

namespace CommandLine

/-! ## Pairs -/

/-- A key is not empty and has no equals sign. -/
def IsKey (key : String) : Prop :=
  key ≠ "" ∧ '=' ∉ key.toList

/-- A pair as it is written. -/
def pairText (entry : String × String) : String :=
  entry.1 ++ "=" ++ entry.2

theorem toList_pairText (entry : String × String) :
    (pairText entry).toList = entry.1.toList ++ '=' :: entry.2.toList := by
  simp [pairText]

theorem pairOf_pairText {entry : String × String} (h : IsKey entry.1) :
    pairOf (pairText entry) = .ok entry := by
  obtain ⟨hsome, hkey⟩ := h
  have hempty : entry.1.isEmpty = false := by
    rw [← Bool.not_eq_true, String.isEmpty_iff]
    exact hsome
  rw [pairOf, splitWord_of_append hkey (toList_pairText entry)]
  simp [hempty]

/-- What is read as a pair is one, and it is read as what was written. -/
theorem pairOf_eq_ok_iff {word : String} {entry : String × String} :
    pairOf word = .ok entry ↔ IsKey entry.1 ∧ pairText entry = word := by
  constructor
  · intro h
    obtain ⟨hmem, hhead⟩ := exists_pairOf_iff.1 ⟨entry, h⟩
    obtain ⟨key, value, hword, hkey⟩ := List.eq_append_cons_of_mem hmem
    have htext : pairText (String.ofList key, String.ofList value) = word := by
      rw [← String.toList_inj, toList_pairText, hword]
      simp
    have hproper : IsKey (String.ofList key) := by
      refine ⟨fun hempty => hhead ?_, by simpa using hkey⟩
      have hnil : key = [] := by simpa using hempty
      rw [hword, hnil]
      rfl
    rw [← htext, pairOf_pairText hproper] at h
    cases h
    exact ⟨hproper, htext⟩
  · rintro ⟨hkey, rfl⟩
    exact pairOf_pairText hkey

/-! ## Contexts -/

/-- The entries of a context whose values are texts. -/
def asTexts (entries : List (String × String)) : Context :=
  entries.map fun entry => (entry.1, .str entry.2)

theorem paired_eq_ok_iff {b c : Context} {word : String} :
    paired b word = .ok c ↔
      ∃ entry, IsKey entry.1 ∧ pairText entry = word ∧ Table.set entry.1 (.str entry.2) b = c := by
  constructor
  · intro h
    obtain ⟨entry, hentry, hset⟩ := exists_of_bind_ok h
    obtain ⟨hkey, htext⟩ := pairOf_eq_ok_iff.1 hentry
    exact ⟨entry, hkey, htext, Except.ok.inj hset⟩
  · rintro ⟨entry, hkey, rfl, rfl⟩
    rw [paired, pairOf_pairText hkey]
    rfl

theorem foldlM_paired_eq_ok_iff {pairs : List String} {b c : Context} :
    pairs.foldlM paired b = .ok c ↔
      ∃ entries : List (String × String), (∀ entry ∈ entries, IsKey entry.1) ∧
        entries.map pairText = pairs ∧
        (asTexts entries).foldl (fun t entry => Table.set entry.1 entry.2 t) b = c := by
  induction pairs generalizing b with
  | nil =>
      constructor
      · intro h
        exact ⟨[], List.forall_mem_nil _, rfl, Except.ok.inj h⟩
      · rintro ⟨entries, _, hpairs, hset⟩
        rw [List.map_eq_nil_iff] at hpairs
        subst hpairs hset
        rfl
  | cons pair rest ih =>
      rw [List.foldlM_cons]
      constructor
      · intro h
        obtain ⟨next, hnext, hrest⟩ := exists_of_bind_ok h
        obtain ⟨entry, hkey, htext, rfl⟩ := paired_eq_ok_iff.1 hnext
        obtain ⟨entries, hkeys, hpairs, hcontext⟩ := ih.1 hrest
        refine ⟨entry :: entries, List.forall_mem_cons.2 ⟨hkey, hkeys⟩, ?_, hcontext⟩
        rw [List.map_cons, htext, hpairs]
      · rintro ⟨entries, hkeys, hpairs, hcontext⟩
        obtain ⟨entry, others, rfl, hpair, hrest⟩ := List.map_eq_cons_iff.1 hpairs
        obtain ⟨hkey, hothers⟩ := List.forall_mem_cons.1 hkeys
        have hnext : paired b pair = .ok (Table.set entry.1 (.str entry.2) b) :=
          paired_eq_ok_iff.2 ⟨entry, hkey, hpair, rfl⟩
        rw [hnext]
        exact ih.2 ⟨others, hothers, hrest, hcontext⟩

theorem contextOf_eq_ok_iff {pairs : List String} {c : Context} :
    contextOf pairs = .ok c ↔
      ∃ entries : List (String × String), (∀ entry ∈ entries, IsKey entry.1) ∧
        entries.map pairText = pairs ∧ Table.ofEntries (asTexts entries) = c :=
  foldlM_paired_eq_ok_iff

/-- A context has the keys of some entries as they first come, each with its last value. -/
structure HoldsLast (entries : List (String × String)) (c : Context) : Prop where
  names : Table.names c = (entries.map Prod.fst).eraseDups
  last : ∀ key, Table.get? key c =
    (entries.filter fun entry => entry.1 == key).getLast?.map fun entry => .str entry.2

theorem holdsLast_ofEntries (entries : List (String × String)) :
    HoldsLast entries (Table.ofEntries (asTexts entries)) where
  names := by
    rw [Table.names_ofEntries, asTexts, List.map_map]
    rfl
  last := by
    intro key
    rw [Table.get?_ofEntries, asTexts, List.filter_map, List.getLast?_map, Option.map_map]
    rfl

/-- There is one such context. -/
theorem HoldsLast.ofEntries_eq {entries : List (String × String)} {c : Context}
    (h : HoldsLast entries c) : Table.ofEntries (asTexts entries) = c := by
  have hentries := holdsLast_ofEntries entries
  exact Table.eq_of_get?_eq (Table.nodup_names_ofEntries _) (hentries.names.trans h.names.symm)
    fun key => (hentries.last key).trans (h.last key).symm

theorem exists_contextOf_error_iff {pairs : List String} :
    (∃ usage, contextOf pairs = .error usage) ↔
      ∃ pair ∈ pairs, '=' ∉ pair.toList ∨ pair.toList.head? = some '=' := by
  have hread : (∃ usage, contextOf pairs = .error usage) ↔ ¬ ∃ c, contextOf pairs = .ok c := by
    cases contextOf pairs with
    | error usage => exact ⟨fun _ => nofun, fun _ => ⟨usage, rfl⟩⟩
    | ok c => exact ⟨nofun, fun h => absurd ⟨c, rfl⟩ h⟩
  rw [hread, exists_contextOf_iff]
  simp only [WellPaired, not_forall, exists_prop, not_and_or, ne_eq, not_not]

/-- A table of texts under proper keys is read back from its pairs. -/
theorem contextOf_pairText {t : Table String} (hnodup : t.names.Nodup)
    (hkeys : ∀ key ∈ t.names, IsKey key) :
    contextOf (t.map pairText) = .ok (asTexts t) := by
  have hnames : Table.names (asTexts t) = t.names := by
    rw [Table.names, asTexts, List.map_map]
    rfl
  refine contextOf_eq_ok_iff.2 ⟨t, fun entry hentry => ?_, rfl, ?_⟩
  · exact hkeys _ (List.mem_map_of_mem hentry)
  · exact Table.ofEntries_eq_self (hnames ▸ hnodup)

/--
Words make a context unless one of them has no equals sign or begins with it.  They are then the
texts of pairs, and the context has the keys of these in order, each with its last value.  A table
of texts comes back from its pairs as it was.
-/
theorem contextOf_inverts_pairText :
    (∀ pairs, (∃ usage, contextOf pairs = .error usage) ↔
      ∃ pair ∈ pairs, '=' ∉ pair.toList ∨ pair.toList.head? = some '=') ∧
    (∀ pairs c, contextOf pairs = .ok c ↔
      ∃ entries : List (String × String), (∀ entry ∈ entries, IsKey entry.1) ∧
        entries.map pairText = pairs ∧ HoldsLast entries c) ∧
    ∀ t : Table String, t.names.Nodup -> (∀ key ∈ t.names, IsKey key) ->
      contextOf (t.map pairText) = .ok (asTexts t) := by
  refine ⟨fun pairs => exists_contextOf_error_iff, fun pairs c => ?_, fun t => contextOf_pairText⟩
  rw [contextOf_eq_ok_iff]
  constructor
  · rintro ⟨entries, hkeys, hpairs, rfl⟩
    exact ⟨entries, hkeys, hpairs, holdsLast_ofEntries entries⟩
  · rintro ⟨entries, hkeys, hpairs, hlast⟩
    exact ⟨entries, hkeys, hpairs, hlast.ofEntries_eq⟩

/-- A value has equals signs of its own, and another one is empty. -/
theorem contextOf_inverts_pairText_command :
    let t : Table String := [("command", "A=1 make"), ("user", "")]
    t.names.Nodup ∧ (∀ key ∈ t.names, IsKey key) ∧
      t.map pairText = ["command=A=1 make", "user="] ∧
      contextOf ["command=A=1 make", "user="] =
        .ok [("command", .str "A=1 make"), ("user", .str "")] := by
  intro t
  have hnodup : t.names.Nodup := by decide
  have hkeys : ∀ key ∈ t.names, IsKey key := by
    intro key hkey
    obtain rfl | rfl : key = "command" ∨ key = "user" := by simpa [t, Table.names] using hkey
    · exact ⟨by decide, by decide⟩
    · exact ⟨by decide, by decide⟩
  have hpairs : t.map pairText = ["command=A=1 make", "user="] := by decide
  obtain ⟨_, _, hinverts⟩ := contextOf_inverts_pairText
  exact ⟨hnodup, hkeys, hpairs, hpairs ▸ hinverts t hnodup hkeys⟩

-- The key keeps its first place and takes its last value.
example : contextOf ["user=a", "path=x", "user=b=c"] =
    .ok [("user", .str "b=c"), ("path", .str "x")] := by rfl

end CommandLine

end Clearance
