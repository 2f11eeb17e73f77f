import Clearance.Proofs.Schema.Nodes

/-!
# Spellings

Some fields have a name and an alias, and some operators a name and a joined spelling.  Data in
which some of them are spelled the other way, at any depth, is read alike: as the same record, or
with the same issues but for where they lie.
-/

namespace Clearance.Schema

open Checked (app under)

/-! ## Data spelled in another way -/

/-- The two spellings of each field that has two. -/
def keySpellings : List (String × String) :=
  [ ("requires_confirmation", "requiresConfirmation"), ("default_allow", "defaultAllow"),
    ("context_key", "contextKey"), ("pattern", "permission") ]

/-- The two spellings of each operator that has two. -/
def operatorSpellings : List (String × String) :=
  [("starts_with", "startsWith"), ("ends_with", "endsWith")]

/-- Whether two texts are one text or spellings of one pair. -/
def SameIn (spellings : List (String × String)) (s t : String) : Prop :=
  s = t ∨ ∃ pair ∈ spellings, (s = pair.1 ∨ s = pair.2) ∧ (t = pair.1 ∨ t = pair.2)

instance (spellings : List (String × String)) (s t : String) : Decidable (SameIn spellings s t) :=
  inferInstanceAs (Decidable (_ ∨ ∃ pair ∈ spellings, _))

/-- Whether two keys are one key or the spellings of one field. -/
def SameKey (k l : Value) : Prop :=
  k = l ∨ ∃ s t, k = .str s ∧ l = .str t ∧ SameIn keySpellings s t

/-- Whether a key is one of two spellings. -/
def isSpelling (pair : String × String) : Value -> Bool
  | .str s => s == pair.1 || s == pair.2
  | _ => false

/-- No field is given in both its spellings. -/
def Unambiguous (entries : List (Value × Value)) : Prop :=
  ∀ pair ∈ keySpellings, entries.countP (fun entry => isSpelling pair entry.1) ≤ 1

instance (entries : List (Value × Value)) : Decidable (Unambiguous entries) :=
  inferInstanceAs (Decidable (∀ pair ∈ keySpellings, _ ≤ 1))

mutual

/--
Whether two values differ in spellings only: of keys at any depth, and of operators.  No dictionary
in which a spelling may have changed has both spellings of a key.
-/
inductive Respelled : Value -> Value -> Prop where
  | same (v : Value) : Respelled v v
  | list {items others : List Value} (h : ItemsRespelled items others) :
      Respelled (.list items) (.list others)
  | tuple {items others : List Value} (h : ItemsRespelled items others) :
      Respelled (.tuple items) (.tuple others)
  | set {items others : List Value} (h : ItemsRespelled items others) :
      Respelled (.set items) (.set others)
  | dict {entries others : List (Value × Value)} (h : EntriesRespelled entries others)
      (once : Unambiguous others) : Respelled (.dict entries) (.dict others)

inductive ItemsRespelled : List Value -> List Value -> Prop where
  | nil : ItemsRespelled [] []
  | cons {v w : Value} {items others : List Value} (head : Respelled v w)
      (tail : ItemsRespelled items others) : ItemsRespelled (v :: items) (w :: others)

inductive EntriesRespelled : List (Value × Value) -> List (Value × Value) -> Prop where
  | nil : EntriesRespelled [] []
  | entry {k l v w : Value} {entries others : List (Value × Value)} (key : SameKey k l)
      (value : Respelled v w) (tail : EntriesRespelled entries others) :
      EntriesRespelled ((k, v) :: entries) ((l, w) :: others)
  | operator {s t : String} {entries others : List (Value × Value)}
      (value : SameIn operatorSpellings s t) (tail : EntriesRespelled entries others) :
      EntriesRespelled ((.str "operator", .str s) :: entries) ((.str "operator", .str t) :: others)

end

/-- What may differ between two entries. -/
inductive EntryRespelled (e f : Value × Value) : Prop where
  | value (key : SameKey e.1 f.1) (h : Respelled e.2 f.2)
  | operator {s t : String} (he : e = (.str "operator", .str s))
      (hf : f = (.str "operator", .str t)) (h : SameIn operatorSpellings s t)

theorem EntryRespelled.sameKey {e f : Value × Value} (h : EntryRespelled e f) :
    SameKey e.1 f.1 := by
  cases h with
  | value key _ => exact key
  | operator he hf _ => exact .inl (by rw [he, hf])

theorem EntriesRespelled.forall₂ {entries others : List (Value × Value)} :
    EntriesRespelled entries others -> List.Forall₂ EntryRespelled entries others
  | .nil => .nil
  | .entry key value tail => .cons (.value key value) tail.forall₂
  | .operator value tail => .cons (.operator rfl rfl value) tail.forall₂

/-! ## Readings alike -/

/-- Two readings that give the same value, or issues of the same kinds. -/
inductive Checked.Alike {α : Type} : Checked α -> Checked α -> Prop where
  | ok (x : α) : Alike (.ok x) (.ok x)
  | error {issues others : List Issue} (h : issues.map Issue.kind = others.map Issue.kind) :
      Alike (.error issues) (.error others)

section Alike

open Checked (Alike)

variable {α β : Type} {c d : Checked α}

theorem Checked.Alike.refl (c : Checked α) : c.Alike c := by
  cases c with
  | ok x => exact .ok x
  | error issues => exact .error rfl

theorem kinds_under (step : Step) (issues : List Issue) :
    (issues.map (Issue.under step)).map Issue.kind = issues.map Issue.kind := by
  rw [List.map_map]
  rfl

theorem alike_under (h : c.Alike d) (step other : Step) :
    (under step c).Alike (under other d) := by
  cases h with
  | ok x => exact .ok x
  | error hkinds => exact .error (by rw [kinds_under, kinds_under, hkinds])

theorem alike_map (h : c.Alike d) (f : α -> β) :
    Checked.Alike (c.map f) (d.map f) := by
  cases h with
  | ok x => exact .ok (f x)
  | error hkinds => exact .error hkinds

theorem alike_app {f g : Checked (α -> β)} (hf : f.Alike g) (h : c.Alike d) :
    (app f c).Alike (app g d) := by
  cases hf with
  | ok f =>
      cases h with
      | ok x => exact .ok (f x)
      | error hkinds => exact .error hkinds
  | error hbefore =>
      cases h with
      | ok x => exact .error hbefore
      | error hkinds => exact .error (by rw [List.map_append, List.map_append, hbefore, hkinds])

theorem alike_refusing (h : c.Alike d) {issues others : List Issue}
    (hkinds : issues.map Issue.kind = others.map Issue.kind) :
    (c.refusing issues).Alike (d.refusing others) := by
  cases issues with
  | nil =>
      obtain rfl := List.map_eq_nil_iff.1 hkinds.symm
      cases h with
      | ok x => exact .ok x
      | error hbefore => exact .error (by simpa using hbefore)
  | cons first rest =>
      cases others with
      | nil => cases hkinds
      | cons other more =>
          cases h with
          | ok x => exact .error hkinds
          | error hbefore =>
              exact .error (by rw [List.map_append, List.map_append, hbefore, hkinds])

end Alike

/-- A reader that does not tell one spelling from the other. -/
def Blind {α : Type} (read : Value -> Checked α) : Prop :=
  ∀ ⦃v w : Value⦄, Respelled v w -> (read v).Alike (read w)

section Blind

variable {α : Type} {read : Value -> Checked α}

/-- A reader that refuses lists and dictionaries, each with one issue. -/
theorem blind_of_fails {kind : IssueKind}
    (hlist : ∀ items, read (.list items) = Checked.fail kind (.list items))
    (htuple : ∀ items, read (.tuple items) = Checked.fail kind (.tuple items))
    (hset : ∀ items, read (.set items) = Checked.fail kind (.set items))
    (hdict : ∀ entries, read (.dict entries) = Checked.fail kind (.dict entries)) : Blind read := by
  intro v w h
  cases h with
  | same v => exact .refl _
  | list _ =>
      rw [hlist, hlist]
      exact .error rfl
  | tuple _ =>
      rw [htuple, htuple]
      exact .error rfl
  | set _ =>
      rw [hset, hset]
      exact .error rfl
  | dict _ _ =>
      rw [hdict, hdict]
      exact .error rfl

theorem blind_text : Blind text :=
  blind_of_fails (fun _ => rfl) (fun _ => rfl) (fun _ => rfl) fun _ => rfl

theorem blind_nonemptyText : Blind nonemptyText :=
  blind_of_fails (fun _ => rfl) (fun _ => rfl) (fun _ => rfl) fun _ => rfl

theorem blind_flag : Blind flag :=
  blind_of_fails (fun _ => rfl) (fun _ => rfl) (fun _ => rfl) fun _ => rfl

theorem blind_oneOf (names : List String) (ofName? : String -> Option α) :
    Blind (oneOf names ofName?) :=
  blind_of_fails (fun _ => rfl) (fun _ => rfl) (fun _ => rfl) fun _ => rfl

theorem Blind.optional (hread : Blind read) : Blind (optional read) := by
  intro v w h
  cases h with
  | same v => exact .refl _
  | list h => exact alike_map (hread (.list h)) some
  | tuple h => exact alike_map (hread (.tuple h)) some
  | set h => exact alike_map (hread (.set h)) some
  | dict h once => exact alike_map (hread (.dict h once)) some

theorem Blind.items (hread : Blind read) {items others : List Value} :
    ItemsRespelled items others ->
      ∀ n, (Checked.items read n items).Alike (Checked.items read n others)
  | .nil, _ => .ok []
  | .cons head tail, n =>
      alike_app (alike_map (alike_under (hread head) _ _) List.cons) (hread.items tail (n + 1))

theorem Blind.listOf (hread : Blind read) : Blind (listOf read) := by
  intro v w h
  cases h with
  | same v => exact .refl _
  | list h => exact hread.items h 0
  | tuple h => exact hread.items h 0
  | set h => exact hread.items h 0
  | dict _ _ => exact .error rfl

/-- Where both values are no texts, the readings as lists of texts decide. -/
theorem alike_operand {v w : Value} (hv : text v = Checked.fail .stringType v)
    (hw : text w = Checked.fail .stringType w)
    (h : (Schema.listOf text v).Alike (Schema.listOf text w)) : (operand v).Alike (operand w) := by
  unfold operand
  rw [hv, hw]
  generalize Schema.listOf text v = c at h ⊢
  generalize Schema.listOf text w = d at h ⊢
  cases h with
  | ok options => exact .ok _
  | error hkinds =>
      refine .error ?_
      simp only [List.map_append, kinds_under, hkinds]
      rfl

theorem blind_operand : Blind operand := by
  intro v w h
  have htexts := blind_text.listOf h
  cases h with
  | same v => exact .refl _
  | _ => exact alike_operand rfl rfl htexts

end Blind

/-! ## Fields of records -/

/-- Whether the fields of a record have no spellings but a name and an alias of one pair. -/
def Paired (keys : List Key) : Prop :=
  ∀ key ∈ keys, (∀ other ∈ key.alias?, (key.name, other) ∈ keySpellings) ∧
    ∀ pair ∈ keySpellings, key.spells (.str pair.1) = key.spells (.str pair.2)

instance (keys : List Key) : Decidable (Paired keys) :=
  inferInstanceAs (Decidable (∀ key ∈ keys, _ ∧ _))

theorem spells_congr {keys : List Key} (hkeys : Paired keys) {key : Key} (hkey : key ∈ keys)
    {k l : Value} (h : SameKey k l) : key.spells k = key.spells l := by
  rcases h with rfl | ⟨s, t, rfl, rfl, rfl | ⟨pair, hpair, hs, ht⟩⟩
  · rfl
  · rfl
  · have hpaired := (hkeys key hkey).2 pair hpair
    rcases hs with rfl | rfl <;> rcases ht with rfl | rfl <;> simp [hpaired]

/-- A field is given once at most, if it has two spellings. -/
def Key.Once (key : Key) (entries : List (Value × Value)) : Prop :=
  key.alias?.isSome = true -> entries.countP (fun entry => key.spells entry.1) ≤ 1

/-- The first entry that gives a field, under the spelling that it has there. -/
def Key.first? (key : Key) : List (Value × Value) -> Option (String × Value)
  | [] => none
  | (.str s, v) :: rest => if key.spells (.str s) then some (s, v) else key.first? rest
  | _ :: rest => key.first? rest

theorem once_of_unambiguous {keys : List Key} (hkeys : Paired keys) {key : Key} (hkey : key ∈ keys)
    {entries : List (Value × Value)} (h : Unambiguous entries) : key.Once entries := by
  intro hsome
  obtain ⟨other, hother⟩ := Option.isSome_iff_exists.1 hsome
  have hsame : (fun entry : Value × Value => key.spells entry.1)
      = fun entry => isSpelling (key.name, other) entry.1 := by
    funext entry
    cases entry.1 with
    | str s =>
        simp only [Key.spells, isSpelling, hother, Option.some_beq_some]
        rw [Bool.beq_comm (a := other)]
    | _ => rfl
  rw [hsame]
  exact h _ ((hkeys key hkey).1 other hother)

theorem Key.Once.tail {key : Key} {entry : Value × Value} {rest : List (Value × Value)}
    (h : key.Once (entry :: rest)) : key.Once rest := by
  intro hsome
  have hle := h hsome
  rw [List.countP_cons] at hle
  omega

/-- Behind an entry that gives a field with two spellings no other one does. -/
theorem Key.Once.not_spells {key : Key} {entry : Value × Value} {rest : List (Value × Value)}
    (h : key.Once (entry :: rest)) (hsome : key.alias?.isSome = true)
    (hentry : key.spells entry.1 = true) : ∀ other ∈ rest, ¬ key.spells other.1 = true := by
  have hle := h hsome
  rw [List.countP_cons, if_pos hentry] at hle
  exact List.countP_eq_zero.1 (Nat.le_zero.1 (Nat.le_of_succ_le_succ hle))

theorem lookup_eq_none {s : String} {entries : List (Value × Value)}
    (h : ∀ entry ∈ entries, entry.1 ≠ .str s) : Value.lookup s entries = none := by
  induction entries with
  | nil => rfl
  | cons entry rest ih =>
      obtain ⟨hentry, hrest⟩ := List.forall_mem_cons.1 h
      rw [lookup_cons_of_ne hentry, ih hrest]

/-- An entry that gives another field, or none, is passed over. -/
theorem find?_cons_of_not_spells {key : Key} {k : Value} (hk : key.spells k = false) (v : Value)
    (rest : List (Value × Value)) : key.find? ((k, v) :: rest) = key.find? rest := by
  have hname : k ≠ .str key.name := by
    rintro rfl
    simp [Key.spells] at hk
  unfold Key.find?
  cases hother : key.alias? with
  | none => simp only [Option.bind_none, lookup_cons_of_ne hname]
  | some other =>
      have halias : k ≠ .str other := by
        rintro rfl
        simp [Key.spells, hother] at hk
      simp only [Option.bind_some, lookup_cons_of_ne hname, lookup_cons_of_ne halias]

/-- A field that is given once is found in the entry that gives it, whatever the spelling. -/
theorem find?_eq_first? {key : Key} {entries : List (Value × Value)} (h : key.Once entries) :
    key.find? entries = key.first? entries := by
  induction entries with
  | nil => cases hother : key.alias? <;> simp [Key.find?, Key.first?, Value.lookup, hother]
  | cons entry rest ih =>
      obtain ⟨k, v⟩ := entry
      cases hk : key.spells k with
      | false =>
          rw [find?_cons_of_not_spells hk, ih h.tail]
          cases k with
          | str s => simp [Key.first?, hk]
          | _ => rfl
      | true =>
          rcases Key.spells_iff.1 hk with rfl | ⟨other, hother, rfl⟩
          · have hfirst : key.first? ((.str key.name, v) :: rest) = some (key.name, v) := by
              simp [Key.first?, hk]
            rw [hfirst, Key.find?]
            cases hother : key.alias? with
            | none => simp [lookup_cons_self]
            | some other =>
                -- the alias is not there beside the name
                have hnone := h.not_spells (by rw [hother]; rfl) hk
                have hlookup : Value.lookup other rest = none := by
                  refine lookup_eq_none fun entry hentry heq => hnone entry hentry ?_
                  rw [heq]
                  exact Key.spells_iff.2 (.inr ⟨other, hother, rfl⟩)
                by_cases hne : key.name = other
                · simp [← hne, lookup_cons_self]
                · have hkey : Value.str key.name ≠ .str other := fun heq => hne (Value.str.inj heq)
                  simp [lookup_cons_of_ne hkey, hlookup, lookup_cons_self]
          · simp [Key.find?, Key.first?, hk, hother, lookup_cons_self]

theorem first?_cons_of_not_spells {key : Key} {k : Value} (hk : key.spells k = false) (v : Value)
    (rest : List (Value × Value)) : key.first? ((k, v) :: rest) = key.first? rest := by
  cases k with
  | str s => simp [Key.first?, hk]
  | _ => rfl

/-- An entry that gives a field is the one that the field is found in. -/
theorem exists_first?_of_mem {key : Key} {entries : List (Value × Value)} (h : key.Once entries)
    {s : String} {x : Value} (hmem : (.str s, x) ∈ entries) (hs : key.spells (.str s) = true) :
    ∃ v, key.first? entries = some (s, v) := by
  induction entries with
  | nil => cases hmem
  | cons entry rest ih =>
      obtain ⟨k, v⟩ := entry
      cases hk : key.spells k with
      | false =>
          rw [first?_cons_of_not_spells hk]
          refine ih h.tail ((List.mem_cons.1 hmem).resolve_left fun heq => ?_)
          obtain rfl : Value.str s = k := congrArg Prod.fst heq
          rw [hs] at hk
          cases hk
      | true =>
          have hkey : k = .str s := by
            rcases List.mem_cons.1 hmem with heq | hrest
            · exact (congrArg Prod.fst heq).symm
            · cases hother : key.alias? with
              | none =>
                  have hname {l : Value} (hl : key.spells l = true) : l = .str key.name := by
                    rcases Key.spells_iff.1 hl with hl | ⟨other, hsome, -⟩
                    · exact hl
                    · rw [hother] at hsome
                      cases hsome
                  rw [hname hk, hname hs]
              | some other => exact absurd hs (h.not_spells (by rw [hother]; rfl) hk _ hrest)
          subst hkey
          exact ⟨v, by simp [Key.first?, hs]⟩

/-! ## Records alike -/

/-- Whether two readings of the fields of a record find the same fields and the same stray keys. -/
structure FoundAlike (keys : List Key) (entries others : List (Value × Value)) : Prop where
  found : ∀ key ∈ keys, key.find? entries = none ∧ key.find? others = none ∨
    ∃ s t v w, key.find? entries = some (s, v) ∧ key.find? others = some (t, w) ∧
      EntryRespelled (.str s, v) (.str t, w)
  strays : (strays keys entries).map Issue.kind = (strays keys others).map Issue.kind

/-- The entries that give a field correspond. -/
theorem first?_respelled {keys : List Key} (hkeys : Paired keys) {key : Key} (hkey : key ∈ keys)
    {entries others : List (Value × Value)} (h : List.Forall₂ EntryRespelled entries others) :
    key.first? entries = none ∧ key.first? others = none ∨
      ∃ s t v w, key.first? entries = some (s, v) ∧ key.first? others = some (t, w) ∧
        EntryRespelled (.str s, v) (.str t, w) := by
  induction h with
  | nil => exact .inl ⟨rfl, rfl⟩
  | @cons e f entries others hentry _ ih =>
      obtain ⟨k, v⟩ := e
      obtain ⟨l, w⟩ := f
      have hspells : key.spells k = key.spells l := spells_congr hkeys hkey hentry.sameKey
      cases hk : key.spells k with
      | false =>
          rw [first?_cons_of_not_spells hk, first?_cons_of_not_spells (hspells ▸ hk)]
          exact ih
      | true =>
          have htext {m : Value} (hm : key.spells m = true) : ∃ s, m = .str s := by
            rcases Key.spells_iff.1 hm with hm | ⟨other, -, hm⟩
            · exact ⟨_, hm⟩
            · exact ⟨_, hm⟩
          obtain ⟨s, rfl⟩ := htext hk
          obtain ⟨t, rfl⟩ := htext (hspells ▸ hk)
          refine .inr ⟨s, t, v, w, ?_, ?_, hentry⟩
          · simp [Key.first?, hk]
          · simp [Key.first?, ← hspells, hk]

/-- The kind of the issue that a stray key makes. -/
def strayKind : Value -> IssueKind
  | .str _ => .extraForbidden
  | _ => .invalidKey

/-- The stray keys are those that give no field, if each field is given once. -/
theorem kinds_strays {keys : List Key} {entries : List (Value × Value)}
    (h : ∀ key ∈ keys, key.Once entries) :
    (strays keys entries).map Issue.kind =
      entries.filterMap fun entry =>
        if keys.any (fun key => key.spells entry.1) then none else some (strayKind entry.1) := by
  unfold strays
  rw [List.map_filterMap]
  refine List.filterMap_congr fun entry hentry => ?_
  obtain ⟨k, x⟩ := entry
  cases k with
  | str s =>
      have hused : (keys.filterMap fun key => (key.find? entries).map Prod.fst).contains s
          = keys.any fun key => key.spells (.str s) := by
        rw [Bool.eq_iff_iff, List.contains_iff_mem, List.mem_filterMap, List.any_eq_true]
        constructor
        · rintro ⟨key, hkey, hused⟩
          obtain ⟨⟨used, v⟩, hfind, rfl⟩ := Option.map_eq_some_iff.1 hused
          exact ⟨key, hkey, spells_of_find? hfind⟩
        · rintro ⟨key, hkey, hs⟩
          obtain ⟨v, hv⟩ := exists_first?_of_mem (h key hkey) hentry hs
          exact ⟨key, hkey, by rw [find?_eq_first? (h key hkey), hv]; rfl⟩
      simp only [hused]
      split <;> rfl
  | _ =>
      rw [if_neg (by simp [Key.spells])]
      rfl

theorem once_respelled {keys : List Key} (hkeys : Paired keys) {key : Key} (hkey : key ∈ keys)
    {entries others : List (Value × Value)} (h : List.Forall₂ EntryRespelled entries others)
    (honce : key.Once others) : key.Once entries := by
  have hcount : entries.countP (fun entry => key.spells entry.1)
      = others.countP (fun entry => key.spells entry.1) := by
    clear honce
    induction h with
    | nil => rfl
    | cons hentry _ ih =>
        rw [List.countP_cons, List.countP_cons, ih, spells_congr hkeys hkey hentry.sameKey]
  intro hsome
  rw [hcount]
  exact honce hsome

theorem strayKind_congr {k l : Value} (h : SameKey k l) : strayKind k = strayKind l := by
  rcases h with rfl | ⟨s, t, rfl, rfl, -⟩
  · rfl
  · rfl

theorem foundAlike {keys : List Key} (hkeys : Paired keys) {entries others : List (Value × Value)}
    (h : List.Forall₂ EntryRespelled entries others) (once : Unambiguous others) :
    FoundAlike keys entries others := by
  have hothers : ∀ key ∈ keys, key.Once others :=
    fun key hkey => once_of_unambiguous hkeys hkey once
  have hentries : ∀ key ∈ keys, key.Once entries :=
    fun key hkey => once_respelled hkeys hkey h (hothers key hkey)
  constructor
  case found =>
    intro key hkey
    rw [find?_eq_first? (hentries key hkey), find?_eq_first? (hothers key hkey)]
    exact first?_respelled hkeys hkey h
  case strays =>
    rw [kinds_strays hentries, kinds_strays hothers]
    clear hentries hothers once
    induction h with
    | nil => rfl
    | @cons e f _ _ hentry _ ih =>
        have hany : (keys.any fun key => key.spells e.1) = keys.any fun key => key.spells f.1 := by
          rw [Bool.eq_iff_iff, List.any_eq_true, List.any_eq_true]
          constructor
          · rintro ⟨key, hkey, hs⟩
            exact ⟨key, hkey, by rw [← spells_congr hkeys hkey hentry.sameKey, hs]⟩
          · rintro ⟨key, hkey, hs⟩
            exact ⟨key, hkey, by rw [spells_congr hkeys hkey hentry.sameKey, hs]⟩
        rw [List.filterMap_cons, List.filterMap_cons, ih, hany, strayKind_congr hentry.sameKey]

/-- A reader of a field that does not tell one spelling of an entry from the other. -/
def FieldBlind {α : Type} (key : Key) (read : Value -> Checked α) : Prop :=
  ∀ ⦃s t : String⦄ ⦃v w : Value⦄, key.spells (.str s) = true ->
    EntryRespelled (.str s, v) (.str t, w) -> (read v).Alike (read w)

theorem Blind.field {α : Type} {read : Value -> Checked α} (h : Blind read) {key : Key}
    (hkey : key.spells (.str "operator") = false) : FieldBlind key read := by
  intro s t v w hs hentry
  cases hentry with
  | value _ hvalue => exact h hvalue
  | operator he _ _ =>
      cases he
      rw [hkey] at hs
      cases hs

section Fields

variable {α : Type} {keys : List Key} {entries others : List (Value × Value)} {key : Key}
  {read : Value -> Checked α}

theorem required_alike (h : FoundAlike keys entries others) (hkey : key ∈ keys)
    (hread : FieldBlind key read) :
    (required key read entries).Alike (required key read others) := by
  unfold required
  rcases h.found key hkey with ⟨hnone, hnone'⟩ | ⟨s, t, v, w, hs, ht, hentry⟩
  · rw [hnone, hnone']
    exact .error rfl
  · rw [hs, ht]
    exact alike_under (hread (spells_of_find? hs) hentry) _ _

theorem defaulted_alike (h : FoundAlike keys entries others) (hkey : key ∈ keys)
    (hread : FieldBlind key read) (default : α) :
    (defaulted key read default entries).Alike (defaulted key read default others) := by
  unfold defaulted
  rcases h.found key hkey with ⟨hnone, hnone'⟩ | ⟨s, t, v, w, hs, ht, hentry⟩
  · rw [hnone, hnone']
    exact .refl _
  · rw [hs, ht]
    exact alike_under (hread (spells_of_find? hs) hentry) _ _

/-- A record is read alike if its fields are. -/
theorem blind_record {title : String} {read : List (Value × Value) -> Checked α}
    (hkeys : Paired keys)
    (h : ∀ {entries others}, FoundAlike keys entries others ->
      (read entries).Alike (read others)) :
    Blind fun v => (recordEntries title v).bind read := by
  intro v w hvalue
  cases hvalue with
  | same v => exact .refl _
  | dict hentries once => exact h (foundAlike hkeys hentries.forall₂ once)
  | _ => exact .error rfl

end Fields

/-! ## The records of a configuration -/

theorem blind_scope : Blind scope :=
  blind_oneOf _ _

theorem blind_risk : Blind risk :=
  blind_oneOf _ _

theorem blind_permission : Blind permission := by
  have hfields : ∀ {entries others}, FoundAlike PermissionKey.all entries others ->
      (permissionOf entries).Alike (permissionOf others) := by
    intro entries others h
    have hname := required_alike h (by simp [PermissionKey.all])
      (blind_nonemptyText.field (by decide : PermissionKey.name.spells _ = false))
    have hscope := required_alike h (by simp [PermissionKey.all])
      (blind_scope.field (by decide : PermissionKey.scope.spells _ = false))
    have hrisk := required_alike h (by simp [PermissionKey.all])
      (blind_risk.field (by decide : PermissionKey.risk.spells _ = false))
    have hconfirm := defaulted_alike h (by simp [PermissionKey.all])
      (blind_flag.field (by decide : PermissionKey.requiresConfirmation.spells _ = false)) false
    have hdescription := defaulted_alike h (by simp [PermissionKey.all])
      (blind_text.optional.field (by decide : PermissionKey.description.spells _ = false)) none
    have hparent := defaulted_alike h (by simp [PermissionKey.all])
      (blind_text.optional.field (by decide : PermissionKey.parent.spells _ = false)) none
    exact alike_refusing (alike_app (alike_app (alike_app (alike_app (alike_app
      (alike_map hname _) hscope) hrisk) hconfirm) hdescription) hparent) h.strays
  have hrecord := @blind_record _ _ "Permission" _ (by decide : Paired PermissionKey.all) hfields
  intro v w h
  cases h with
  | same v => exact .refl _
  | list h => exact hrecord (.list h)
  | tuple h => exact hrecord (.tuple h)
  | set h => exact hrecord (.set h)
  | dict h once => exact hrecord (.dict h once)

/-- An operator has the same meaning in either spelling. -/
theorem operator_sameIn {s t : String} (h : SameIn operatorSpellings s t) :
    operator (.str s) = operator (.str t) := by
  rcases h with rfl | ⟨pair, hpair, hs, ht⟩
  · rfl
  · simp only [operatorSpellings, List.mem_cons, List.not_mem_nil, or_false] at hpair
    rcases hpair with rfl | rfl <;> rcases hs with rfl | rfl <;> rcases ht with rfl | rfl <;> rfl

theorem fieldBlind_operator : FieldBlind ConditionKey.operator operator := by
  have hblind : Blind operator :=
    blind_of_fails (fun _ => rfl) (fun _ => rfl) (fun _ => rfl) fun _ => rfl
  intro s t v w _ hentry
  cases hentry with
  | value _ hvalue => exact hblind hvalue
  | operator he hf h =>
      cases he
      cases hf
      rw [operator_sameIn h]
      exact .refl _

theorem blind_condition : Blind condition := by
  refine blind_record (by decide : Paired ConditionKey.all) fun {entries others} h => ?_
  have hkind := required_alike h (by simp [ConditionKey.all])
    (blind_nonemptyText.field (by decide : ConditionKey.kind.spells _ = false))
  have hoperator := required_alike h (by simp [ConditionKey.all]) fieldBlind_operator
  have hoperand := required_alike h (by simp [ConditionKey.all])
    (blind_operand.field (by decide : ConditionKey.operand.spells _ = false))
  have hcontextKey := defaulted_alike h (by simp [ConditionKey.all])
    (blind_text.optional.field (by decide : ConditionKey.contextKey.spells _ = false)) none
  exact alike_refusing (alike_app (alike_app (alike_app (alike_map hkind _) hoperator) hoperand)
    hcontextKey) h.strays

theorem blind_rule : Blind rule := by
  refine blind_record (by decide : Paired RuleKey.all) fun {entries others} h => ?_
  have hpattern := required_alike h (by simp [RuleKey.all])
    (blind_nonemptyText.field (by decide : RuleKey.pattern.spells _ = false))
  have hallow := required_alike h (by simp [RuleKey.all])
    (blind_flag.field (by decide : RuleKey.allow.spells _ = false))
  have hconditions := defaulted_alike h (by simp [RuleKey.all])
    (blind_condition.listOf.field (by decide : RuleKey.conditions.spells _ = false)) []
  have hreason := defaulted_alike h (by simp [RuleKey.all])
    (blind_text.optional.field (by decide : RuleKey.reason.spells _ = false)) none
  exact alike_refusing (alike_app (alike_app (alike_app (alike_map hpattern _) hallow) hconditions)
    hreason) h.strays

theorem blind_policy : Blind policy := by
  refine blind_record (by decide : Paired PolicyKey.all) fun {entries others} h => ?_
  have hdefault := defaulted_alike h (by simp [PolicyKey.all])
    (blind_flag.field (by decide : PolicyKey.defaultAllow.spells _ = false)) false
  have hrules := defaulted_alike h (by simp [PolicyKey.all])
    (blind_rule.listOf.field (by decide : PolicyKey.rules.spells _ = false)) []
  exact alike_refusing (alike_app (alike_map hdefault _) hrules) h.strays

theorem blind_config : Blind config := by
  refine blind_record (by decide : Paired ConfigKey.all) fun {entries others} h => ?_
  have hpermissions := defaulted_alike h (by simp [ConfigKey.all])
    (blind_permission.listOf.optional.field
      (by decide : ConfigKey.permissions.spells _ = false)) none
  have hpolicy := defaulted_alike h (by simp [ConfigKey.all])
    (blind_policy.optional.field (by decide : ConfigKey.policy.spells _ = false)) none
  exact alike_refusing (alike_app (alike_map hpermissions _) hpolicy) h.strays

end Clearance.Schema

namespace Clearance.Config

open Schema

theorem ofValue_respelled {v w : Value} (h : Respelled v w) (source : String) :
    ofValue v source = ofValue w source ∨
      ∃ errors others, ofValue v source = .error (Fault.of (.configInvalid source errors)) ∧
        ofValue w source = .error (Fault.of (.configInvalid source others)) ∧
        others.length = errors.length := by
  have hconfig := blind_config h
  cases h with
  | same v => exact .inl rfl
  | dict _ _ =>
      unfold ofValue
      dsimp only
      generalize config (.dict _) = c at hconfig ⊢
      generalize config (.dict _) = d at hconfig ⊢
      cases hconfig with
      | ok config => exact .inl rfl
      | error hkinds =>
          refine .inr ⟨_, _, rfl, rfl, ?_⟩
          have hlength := congrArg List.length hkinds
          rw [List.length_map, List.length_map] at hlength
          rw [List.length_map, List.length_map, hlength]
  | _ => exact .inl rfl

/-- Data in another spelling is the same configuration, or is refused with as many errors. -/
theorem spelling_keeps_meaning {v w : Value} (h : Respelled v w) (source : String) :
    (∀ c, ofValue v source = .ok c ↔ ofValue w source = .ok c) ∧
      ∀ errors, ofValue v source = .error (Fault.of (.configInvalid source errors)) ->
        ∃ others, ofValue w source = .error (Fault.of (.configInvalid source others)) ∧
          others.length = errors.length := by
  rcases ofValue_respelled h source with heq | ⟨before, others, hv, hw, hlength⟩
  · rw [heq]
    exact ⟨fun c => Iff.rfl, fun errors hrefused => ⟨errors, hrefused, rfl⟩⟩
  · rw [hv, hw]
    refine ⟨fun c => ⟨nofun, nofun⟩, fun errors hrefused => ⟨others, rfl, ?_⟩⟩
    have hkind := congrArg Fault.kind (Except.error.inj hrefused)
    obtain rfl : before = errors := (FaultKind.configInvalid.inj hkind).2
    exact hlength

/-- A condition on the path, with a further field or none. -/
def pathCondition (operator value : String) (more : List (Value × Value)) : Value :=
  .dict
    ([(.str "type", .str "path"), (.str "operator", .str operator), (.str "value", .str value)] ++
      more)

/-- A configuration with every field and every operator that has two spellings. -/
def everySpelling (confirm default context pattern starts ends : String) : Value :=
  .dict
    [ (.str "permissions", .list
        [ .dict
            [ (.str "name", .str "file.read"), (.str "scope", .str "file"),
              (.str "risk", .str "low"), (.str confirm, .bool true) ] ]),
      (.str "policy", .dict
        [ (.str default, .bool false),
          (.str "rules", .list
            [ .dict
                [ (.str pattern, .str "file.*"), (.str "allow", .bool true),
                  (.str "conditions", .list
                    [ pathCondition starts "/srv/" [],
                      pathCondition ends ".txt" [(.str context, .str "resource")] ]) ] ]) ]) ]

/-- In snake case and in camel case it is the same configuration. -/
theorem spelling_keeps_meaning_camel :
    let snake := everySpelling "requires_confirmation" "default_allow" "context_key" "pattern"
      "starts_with" "ends_with"
    let camel := everySpelling "requiresConfirmation" "defaultAllow" "contextKey" "permission"
      "startsWith" "endsWith"
    Respelled snake camel ∧ ∃ c, ofValue snake = .ok c ∧ ofValue camel = .ok c := by
  intro snake camel
  have hkept (k v : Value) {entries others : List (Value × Value)}
      (h : EntriesRespelled entries others) :
      EntriesRespelled ((k, v) :: entries) ((k, v) :: others) :=
    .entry (.inl rfl) (.same v) h
  have hspelled {s t : String} (h : SameIn keySpellings s t) (v : Value)
      {entries others : List (Value × Value)} (hrest : EntriesRespelled entries others) :
      EntriesRespelled ((.str s, v) :: entries) ((.str t, v) :: others) :=
    .entry (.inr ⟨s, t, rfl, rfl, h⟩) (.same v) hrest
  have hstarts : Respelled (pathCondition "starts_with" "/srv/" [])
      (pathCondition "startsWith" "/srv/" []) :=
    .dict (hkept _ _ (.operator (by decide) (hkept _ _ .nil))) (by decide)
  have hends : Respelled (pathCondition "ends_with" ".txt" [(.str "context_key", .str "resource")])
      (pathCondition "endsWith" ".txt" [(.str "contextKey", .str "resource")]) :=
    .dict (hkept _ _ (.operator (by decide) (hkept _ _ (hspelled (by decide) _ .nil)))) (by decide)
  have hconditions := Respelled.list (.cons hstarts (.cons hends .nil))
  have hrule := Respelled.dict (hspelled (by decide : SameIn keySpellings "pattern" "permission")
    (.str "file.*") (hkept (.str "allow") (.bool true)
      (.entry (.inl (rfl : Value.str "conditions" = _)) hconditions .nil))) (by decide)
  have hpolicy := Respelled.dict
    (hspelled (by decide : SameIn keySpellings "default_allow" "defaultAllow") (.bool false)
      (.entry (.inl (rfl : Value.str "rules" = _)) (.list (.cons hrule .nil)) .nil)) (by decide)
  have hpermission := Respelled.dict
    (hkept (.str "name") (.str "file.read") (hkept (.str "scope") (.str "file")
      (hkept (.str "risk") (.str "low")
        (hspelled (by decide : SameIn keySpellings "requires_confirmation" "requiresConfirmation")
          (.bool true) .nil)))) (by decide)
  have hwhole : Respelled snake camel :=
    .dict (.entry (.inl rfl) (.list (.cons hpermission .nil))
      (.entry (.inl rfl) hpolicy .nil)) (by decide)
  have hsnake : ofValue snake = .ok _ := rfl
  exact ⟨hwhole, _, hsnake, ((spelling_keeps_meaning hwhole "<mapping>").1 _).1 hsnake⟩

end Clearance.Config
