import Clearance.Config
import Clearance.Proofs.Schema.Fields

/-!
# Nodes of a configuration

The dictionaries in a configuration are its nodes: the whole, each permission, the policy, each rule
and each condition.  A key of a node that is no field, or that gives a field once more, is refused,
and the issue that tells so names the node.
-/

namespace Clearance.Schema

open Checked (app under)

/-! ## Issues that are told -/

/-- Whether an issue is among those that stand in the way of a value. -/
def Checked.Tells {α : Type} (c : Checked α) (i : Issue) : Prop :=
  ∃ issues, c = .error issues ∧ i ∈ issues

/-- The issue seen from the start of a way. -/
def Issue.along (way : List Step) (i : Issue) : Issue :=
  { i with path := way ++ i.path }

section Tells

variable {α β : Type} {c : Checked α} {i : Issue}

theorem tells_under (h : c.Tells i) (step : Step) : (under step c).Tells (i.under step) := by
  obtain ⟨issues, rfl, hi⟩ := h
  exact ⟨_, rfl, List.mem_map_of_mem hi⟩

theorem tells_map (h : c.Tells i) (f : α -> β) : Checked.Tells (c.map f) i := by
  obtain ⟨issues, rfl, hi⟩ := h
  exact ⟨issues, rfl, hi⟩

theorem tells_app_function {f : Checked (α -> β)} (h : f.Tells i) : (app f c).Tells i := by
  obtain ⟨issues, rfl, hi⟩ := h
  cases c with
  | ok x => exact ⟨issues, rfl, hi⟩
  | error more => exact ⟨issues ++ more, rfl, List.mem_append_left more hi⟩

theorem tells_app_argument {f : Checked (α -> β)} (h : c.Tells i) : (app f c).Tells i := by
  obtain ⟨issues, rfl, hi⟩ := h
  cases f with
  | ok g => exact ⟨issues, rfl, hi⟩
  | error before => exact ⟨before ++ issues, rfl, List.mem_append_right before hi⟩

theorem tells_refusing_value (h : c.Tells i) (further : List Issue) :
    (c.refusing further).Tells i := by
  obtain ⟨issues, rfl, hi⟩ := h
  cases further with
  | nil => exact ⟨_, rfl, List.mem_append_left _ hi⟩
  | cons first rest => exact ⟨_, rfl, List.mem_append_left _ hi⟩

theorem tells_refusing_further {further : List Issue} (hi : i ∈ further) :
    (c.refusing further).Tells i := by
  cases further with
  | nil => cases hi
  | cons first rest =>
      cases c with
      | ok x => exact ⟨_, rfl, hi⟩
      | error issues => exact ⟨_, rfl, List.mem_append_right issues hi⟩

/-- What is told of an item is told of the list, under the place of the item. -/
theorem tells_items {read : Value -> Checked α} {items : List Value} {n : Nat} {v : Value}
    (hv : items[n]? = some v) (h : (read v).Tells i) (first : Nat) :
    (Checked.items read first items).Tells (i.under (.index (first + n))) := by
  induction items generalizing n first with
  | nil => cases hv
  | cons item rest ih =>
      cases n with
      | zero =>
          cases hv
          exact tells_app_function (tells_map (tells_under h (.index first)) List.cons)
      | succ n =>
          have hrest := ih hv (first + 1)
          rw [Nat.add_right_comm, Nat.add_assoc] at hrest
          exact tells_app_argument hrest

theorem tells_defaulted {key : Key} {read : Value -> Checked α} {default : α}
    {entries : List (Value × Value)} {used : String} {v : Value}
    (hv : key.find? entries = some (used, v)) (h : (read v).Tells i) :
    (defaulted key read default entries).Tells (i.under (.name used)) := by
  rw [defaulted, hv]
  exact tells_under h (.name used)

theorem tells_optional {read : Value -> Checked α} {v : Value} (hv : v ≠ .null)
    (h : (read v).Tells i) : (optional read v).Tells i := by
  unfold optional
  split
  · contradiction
  · exact tells_map h some

end Tells

/-! ## Parts of a value -/

/-- The part of a value to which a way leads. -/
def part? : List Step -> Value -> Option Value
  | [], v => some v
  | .name s :: way, .dict entries => (Value.lookup s entries).bind (part? way)
  | .index n :: way, v => ((listItems v).toOption.bind fun items => items[n]?).bind (part? way)
  | _, _ => none

/-- The entries with another value in the first entry of a name. -/
def changeEntry (s : String) (change : Value -> Value) :
    List (Value × Value) -> List (Value × Value)
  | [] => []
  | (.str k, v) :: rest =>
      if k = s then (.str k, change v) :: rest else (.str k, v) :: changeEntry s change rest
  | entry :: rest => entry :: changeEntry s change rest

/-- The value with another part at the end of a way. -/
def putPart (w : Value) : List Step -> Value -> Value
  | [], _ => w
  | .name s :: way, .dict entries => .dict (changeEntry s (putPart w way) entries)
  | .index n :: way, .list items => .list (items.modify n (putPart w way))
  | .index n :: way, .tuple items => .tuple (items.modify n (putPart w way))
  | .index n :: way, .set items => .set (items.modify n (putPart w way))
  | _, v => v

theorem part?_append (way more : List Step) (v : Value) :
    part? (way ++ more) v = (part? way v).bind (part? more) := by
  induction way generalizing v with
  | nil => rfl
  | cons step way ih =>
      have hpart : part? (way ++ more) = fun u => (part? way u).bind (part? more) := funext ih
      cases step with
      | index n => simp only [List.cons_append, part?, hpart, Option.bind_assoc]
      | name s =>
          cases v with
          | dict entries => simp only [List.cons_append, part?, hpart, Option.bind_assoc]
          | _ => rfl

theorem lookup_changeEntry (s : String) (change : Value -> Value)
    (entries : List (Value × Value)) :
    Value.lookup s (changeEntry s change entries) = (Value.lookup s entries).map change := by
  induction entries with
  | nil => rfl
  | cons entry rest ih =>
      obtain ⟨k, v⟩ := entry
      cases k with
      | str k =>
          by_cases hk : k = s
          · simp [changeEntry, Value.lookup, hk]
          · simp [changeEntry, Value.lookup, hk, ih]
      | _ => exact ih

/-- A part that was put is found. -/
theorem part?_putPart {way : List Step} {v u : Value} (h : part? way v = some u) (w : Value) :
    part? way (putPart w way v) = some w := by
  induction way generalizing v with
  | nil => rfl
  | cons step way ih =>
      cases step with
      | name s =>
          cases v with
          | dict entries =>
              obtain ⟨x, hx, hu⟩ := Option.bind_eq_some_iff.1 h
              rw [putPart, part?, lookup_changeEntry, hx]
              exact ih hu
          | _ => cases h
      | index n =>
          obtain ⟨x, hx, hu⟩ := Option.bind_eq_some_iff.1 h
          obtain ⟨items, hitems, hitem⟩ := Option.bind_eq_some_iff.1 hx
          cases v with
          | list _ | tuple _ | set _ =>
              cases hitems
              simp only [putPart, part?, listItems, Except.toOption, Option.bind_some,
                List.getElem?_modify_eq]
              rw [hitem]
              exact ih hu
          | _ => cases hitems

/-! ## Readers of nodes -/

/--
A reader that reads the part at the end of a way by another reader: what that one tells of the
part, it tells of the whole.
-/
def Passes {α β : Type} (read : Value -> Checked α) (way : List Step)
    (inner : Value -> Checked β) : Prop :=
  ∀ ⦃v w : Value⦄ ⦃i : Issue⦄, part? way v = some w -> w ≠ .null -> (inner w).Tells i ->
    (read v).Tells (i.along way)

section Passes

variable {α β γ : Type} {read : Value -> Checked α} {inner : Value -> Checked β}

theorem Passes.refl (read : Value -> Checked α) : Passes read [] read := by
  intro v w i hpart _ h
  cases hpart
  exact h

theorem Passes.trans {way more : List Step} {innermost : Value -> Checked γ}
    (h : Passes read way inner) (hmore : Passes inner more innermost) :
    Passes read (way ++ more) innermost := by
  intro v w i hpart hw htells
  rw [part?_append] at hpart
  obtain ⟨u, hu, hpart⟩ := Option.bind_eq_some_iff.1 hpart
  -- nothing is no dictionary and no list, so no way leads further from it
  have hne : u ≠ .null := by
    rintro rfl
    cases more with
    | nil => exact hw (Option.some.inj hpart).symm
    | cons step more => cases step <;> cases hpart
  have hwhole := h hu hne (hmore hpart hw htells)
  rwa [Issue.along, Issue.along, ← List.append_assoc] at hwhole

/-- A list is read item by item. -/
theorem passes_listOf (read : Value -> Checked α) (n : Nat) :
    Passes (listOf read) [.index n] read := by
  intro v w i hpart _ h
  obtain ⟨x, hx, hw⟩ := Option.bind_eq_some_iff.1 hpart
  cases hw
  obtain ⟨items, hitems, hx⟩ := Option.bind_eq_some_iff.1 hx
  have hlist : listItems v = .ok items := by
    cases hv : listItems v with
    | error issues => rw [hv] at hitems; cases hitems
    | ok found => rw [hv] at hitems; cases hitems; rfl
  have hread := tells_items hx h 0
  rw [Nat.zero_add] at hread
  simp only [listOf, hlist]
  exact hread

theorem passes_optional (read : Value -> Checked α) : Passes (optional read) [] read := by
  intro v w i hpart hw h
  cases hpart
  exact tells_optional hw h

/-- A field that goes by one name passes on what is told of it. -/
theorem tells_field {s : String} {entries : List (Value × Value)} {w : Value} {i : Issue}
    {default : α} (hpart : part? [.name s] (.dict entries) = some w) (h : (read w).Tells i) :
    (defaulted { name := s } read default entries).Tells (i.under (.name s)) := by
  obtain ⟨x, hx, hw⟩ := Option.bind_eq_some_iff.1 hpart
  cases hw
  have hfind : Key.find? { name := s } entries = some (s, w) := by
    simp [Key.find?, hx]
  exact tells_defaulted hfind h

theorem exists_dict_of_part? {s : String} {v w : Value} (h : part? [.name s] v = some w) :
    ∃ entries, v = .dict entries := by
  cases v with
  | dict entries => exact ⟨entries, rfl⟩
  | _ => cases h

end Passes

theorem passes_config_permissions :
    Passes config [.name "permissions"] (optional (listOf permission)) := by
  intro v w i hpart _ h
  obtain ⟨entries, rfl⟩ := exists_dict_of_part? hpart
  exact tells_refusing_value (tells_app_function (tells_map (tells_field hpart h) _)) _

theorem passes_config_policy : Passes config [.name "policy"] (optional policy) := by
  intro v w i hpart _ h
  obtain ⟨entries, rfl⟩ := exists_dict_of_part? hpart
  exact tells_refusing_value (tells_app_argument (tells_field hpart h)) _

theorem passes_policy_rules : Passes policy [.name "rules"] (listOf rule) := by
  intro v w i hpart _ h
  obtain ⟨entries, rfl⟩ := exists_dict_of_part? hpart
  exact tells_refusing_value (tells_app_argument (tells_field hpart h)) _

theorem passes_rule_conditions : Passes rule [.name "conditions"] (listOf condition) := by
  intro v w i hpart _ h
  obtain ⟨entries, rfl⟩ := exists_dict_of_part? hpart
  exact tells_refusing_value (tells_app_function (tells_app_argument (tells_field hpart h))) _

/-! ## Keys of a node -/

/-- Whether a key of a dictionary gives a field, by its name or its alias. -/
def Key.spells (key : Key) : Value -> Bool
  | .str s => s == key.name || key.alias? == some s
  | _ => false

/-- A key that has no place beside the entries of a record. -/
inductive Surplus (keys : List Key) (entries : List (Value × Value)) (k : Value) : Prop where
  /-- No field has this name or alias. -/
  | unknown (h : ∀ key ∈ keys, key.spells k = false)
  /-- The field is given in its other spelling. -/
  | again {key : Key} {l x : Value} (hkey : key ∈ keys) (hspells : key.spells k = true)
      (hmem : (l, x) ∈ entries) (hother : key.spells l = true) (hne : l ≠ k)

/-- Whether an issue is that of a key that is no field. -/
def Issue.IsStray (i : Issue) : Prop :=
  i.kind = .extraForbidden ∨ i.kind = .invalidKey

theorem Key.spells_iff {key : Key} {k : Value} :
    key.spells k = true ↔
      k = .str key.name ∨ ∃ other, key.alias? = some other ∧ k = .str other := by
  cases k with
  | str s =>
      simp only [Key.spells, Bool.or_eq_true, beq_iff_eq, Value.str.injEq]
      refine or_congr_right ⟨fun h => ⟨s, h, rfl⟩, ?_⟩
      rintro ⟨other, h, rfl⟩
      exact h
  | _ => simp [Key.spells]

theorem spells_of_find? {key : Key} {entries : List (Value × Value)} {used : String} {v : Value}
    (h : key.find? entries = some (used, v)) : key.spells (.str used) = true := by
  rw [Key.spells_iff]
  unfold Key.find? at h
  cases hother : key.alias? with
  | none =>
      rw [hother] at h
      obtain ⟨x, -, hused⟩ := Option.map_eq_some_iff.1 h
      cases hused
      exact .inl rfl
  | some other =>
      rw [hother] at h
      cases hlookup : Value.lookup other entries with
      | some x =>
          simp only [Option.bind_some, hlookup, Option.map_some, Option.orElse_some] at h
          cases h
          exact .inr ⟨used, rfl, rfl⟩
      | none =>
          simp only [Option.bind_some, hlookup, Option.map_none, Option.orElse_none] at h
          obtain ⟨x, -, hused⟩ := Option.map_eq_some_iff.1 h
          cases hused
          exact .inl rfl

theorem lookup_cons_self (s : String) (v : Value) (rest : List (Value × Value)) :
    Value.lookup s ((.str s, v) :: rest) = some v := by
  simp [Value.lookup]

theorem lookup_cons_of_ne {s : String} {k : Value} (h : k ≠ .str s) (v : Value)
    (rest : List (Value × Value)) : Value.lookup s ((k, v) :: rest) = Value.lookup s rest := by
  cases k with
  | str k =>
      have hk : k ≠ s := fun heq => h (congrArg Value.str heq)
      simp [Value.lookup, hk]
  | _ => rfl

theorem exists_lookup_of_mem {s : String} {x : Value} {entries : List (Value × Value)}
    (h : (.str s, x) ∈ entries) : ∃ y, Value.lookup s entries = some y := by
  induction entries with
  | nil => cases h
  | cons entry rest ih =>
      obtain ⟨k, v⟩ := entry
      by_cases hk : k = .str s
      · rw [hk]
        exact ⟨v, lookup_cons_self s v rest⟩
      · rw [lookup_cons_of_ne hk]
        refine ih ((List.mem_cons.1 h).resolve_left fun heq => hk ?_)
        exact (congrArg Prod.fst heq).symm

/-- A field that is given by its alias is found under it. -/
theorem find?_of_mem_alias {key : Key} {other : String} {x : Value}
    {entries : List (Value × Value)} (hother : key.alias? = some other)
    (h : (.str other, x) ∈ entries) : ∃ y, key.find? entries = some (other, y) := by
  obtain ⟨y, hy⟩ := exists_lookup_of_mem h
  exact ⟨y, by simp [Key.find?, hother, hy]⟩

/-- An entry under a key that no field is found under makes an issue. -/
theorem exists_stray_of_mem {keys : List Key} {entries : List (Value × Value)} {k x : Value}
    (hmem : (k, x) ∈ entries)
    (h : ∀ key ∈ keys, ∀ used v, key.find? entries = some (used, v) -> k ≠ .str used) :
    ∃ i ∈ strays keys entries, i.IsStray ∧ i.path = [keyStep k] := by
  unfold strays
  cases k with
  | str s =>
      have hunused : (keys.filterMap fun key => (key.find? entries).map Prod.fst).contains s
          = false := by
        rw [← Bool.not_eq_true, List.contains_iff_mem, List.mem_filterMap]
        rintro ⟨key, hkey, hused⟩
        obtain ⟨⟨used, v⟩, hfind, rfl⟩ := Option.map_eq_some_iff.1 hused
        exact h key hkey used v hfind rfl
      refine ⟨{ path := [.name s], kind := .extraForbidden, input := x }, ?_, .inl rfl, rfl⟩
      refine List.mem_filterMap.2 ⟨_, hmem, ?_⟩
      simp only [hunused]
      rfl
  | _ =>
      exact ⟨_, List.mem_filterMap.2 ⟨_, hmem, rfl⟩, .inr rfl, rfl⟩

/-- Of two different keys that spell a field one is the alias of the field, and one its name. -/
theorem exists_alias_and_name {key : Key} {k l x y : Value} {entries : List (Value × Value)}
    (hk : key.spells k = true) (hl : key.spells l = true) (hne : k ≠ l) (hx : (k, x) ∈ entries)
    (hy : (l, y) ∈ entries) :
    ∃ other z w, key.alias? = some other ∧ (.str other, z) ∈ entries ∧
      (.str key.name, w) ∈ entries := by
  rcases Key.spells_iff.1 hk with rfl | ⟨other, hother, rfl⟩ <;>
    rcases Key.spells_iff.1 hl with rfl | ⟨other', hother', rfl⟩
  · exact absurd rfl hne
  · exact ⟨other', y, x, hother', hy, hx⟩
  · exact ⟨other, x, y, hother, hx, hy⟩
  · rw [hother] at hother'
    cases hother'
    exact absurd rfl hne

/-- Where a field is found under its alias, its name is left over. -/
theorem ne_name_of_find? {keys : List Key} (hkeys : Distinct keys) {key : Key} (hkey : key ∈ keys)
    {other : String} {v : Value} {entries : List (Value × Value)}
    (hother : key.alias? = some other) (hfind : key.find? entries = some (other, v)) :
    ∀ key' ∈ keys, ∀ used v', key'.find? entries = some (used, v') ->
      Value.str key.name ≠ .str used := by
  intro key' hkey' used v' hfind' heq
  cases Value.str.inj heq
  rcases Key.spells_iff.1 (spells_of_find? hfind') with heq | ⟨other', hother', heq⟩
  · have hsame : key' = key :=
      List.inj_on_of_nodup_map hkeys.1 hkey' hkey (Value.str.inj heq).symm
    rw [hsame, hfind] at hfind'
    have hused : other = key.name := congrArg Prod.fst (Option.some.inj hfind')
    exact hkeys.2 key hkey key hkey (by rw [hother, hused])
  · exact hkeys.2 key' hkey' key hkey (by rw [hother', ← Value.str.inj heq])

/-- A surplus key makes an issue wherever it is put. -/
theorem Surplus.exists_stray {keys : List Key} (hkeys : Distinct keys)
    {before after : List (Value × Value)} {k : Value} (h : Surplus keys (before ++ after) k)
    (x : Value) :
    ∃ i ∈ strays keys (before ++ (k, x) :: after), i.IsStray ∧ ∃ step, i.path = [step] := by
  have hmem : (k, x) ∈ before ++ (k, x) :: after := by simp
  cases h with
  | unknown hunknown =>
      obtain ⟨i, hi, hstray, hpath⟩ := @exists_stray_of_mem keys _ _ _ hmem
        (by
          rintro key hkey used v hfind rfl
          have hspells := spells_of_find? hfind
          rw [hunknown key hkey] at hspells
          cases hspells)
      exact ⟨i, hi, hstray, _, hpath⟩
  | @again key l y hkey hspells hother hl hne =>
      have hmem' : (l, y) ∈ before ++ (k, x) :: after := by
        rcases List.mem_append.1 hother with hleft | hright
        · exact List.mem_append_left _ hleft
        · exact List.mem_append_right _ (List.mem_cons_of_mem _ hright)
      -- the reader finds the field under the alias, whichever of the two keys is the new one
      obtain ⟨other, z, w, hsome, halias, hname⟩ :=
        exists_alias_and_name hspells hl (Ne.symm hne) hmem hmem'
      obtain ⟨v, hv⟩ := find?_of_mem_alias hsome halias
      obtain ⟨i, hi, hstray, hpath⟩ :=
        exists_stray_of_mem hname (ne_name_of_find? hkeys hkey hsome hv)
      exact ⟨i, hi, hstray, _, hpath⟩

/-! ## Nodes -/

/-- The dictionaries of a configuration. -/
inductive Node where
  | top
  | permission (place : Nat)
  | policy
  | rule (place : Nat)
  | condition (rule place : Nat)
  deriving DecidableEq, Repr

namespace Node

/-- The fields of the record at a node. -/
def keys : Node -> List Key
  | .top => ConfigKey.all
  | .permission _ => PermissionKey.all
  | .policy => PolicyKey.all
  | .rule _ => RuleKey.all
  | .condition _ _ => ConditionKey.all

/-- The way to a node. -/
def way : Node -> List Step
  | .top => []
  | .permission n => [.name "permissions", .index n]
  | .policy => [.name "policy"]
  | .rule n => [.name "policy", .name "rules", .index n]
  | .condition m n => [.name "policy", .name "rules", .index m, .name "conditions", .index n]

theorem distinct_keys (node : Node) : Distinct node.keys := by
  cases node with
  | top => exact (by decide : Distinct ConfigKey.all)
  | permission _ => exact (by decide : Distinct PermissionKey.all)
  | policy => exact (by decide : Distinct PolicyKey.all)
  | rule _ => exact (by decide : Distinct RuleKey.all)
  | condition _ _ => exact (by decide : Distinct ConditionKey.all)

end Node

/-- An issue of the keys of a node is told of the configuration, under the way to the node. -/
theorem tells_config {node : Node} {v : Value} {entries : List (Value × Value)}
    (hpart : part? node.way v = some (.dict entries)) {i : Issue}
    (hi : i ∈ strays node.keys entries) : (config v).Tells (i.along node.way) := by
  have hne : Value.dict entries ≠ .null := Value.noConfusion
  have hrule (n : Nat) : Passes config [.name "policy", .name "rules", .index n] rule :=
    ((passes_config_policy.trans (passes_optional policy)).trans passes_policy_rules).trans
      (passes_listOf rule n)
  cases node with
  | top => exact Passes.refl config hpart hne (tells_refusing_further hi)
  | permission n =>
      refine ((passes_config_permissions.trans (passes_optional _)).trans
        (passes_listOf permission n)) hpart hne ?_
      exact tells_refusing_further hi
  | policy =>
      refine (passes_config_policy.trans (passes_optional policy)) hpart hne ?_
      exact tells_refusing_further hi
  | rule n => exact hrule n hpart hne (tells_refusing_further hi)
  | condition m n =>
      refine (((hrule m).trans passes_rule_conditions).trans (passes_listOf condition n))
        hpart hne ?_
      exact tells_refusing_further hi

end Clearance.Schema

namespace Clearance.Config

open Schema

theorem exists_dict_of_node {node : Node} {v w : Value} (h : part? node.way v = some w)
    (hw : ∃ entries, w = .dict entries) : ∃ entries, v = .dict entries := by
  cases v with
  | dict entries => exact ⟨entries, rfl⟩
  | _ =>
      cases node with
      | top =>
          cases h
          exact hw
      | _ => cases h

/--
Whatever the configuration, and wherever in a node the key is put: beside the entries of the node it
is refused, if it is no field there or gives a field once more, and the refusal names the node.
-/
theorem refused_of_surplus_key {v : Value} {node : Node} {before after : List (Value × Value)}
    (hnode : part? node.way v = some (.dict (before ++ after))) {k : Value}
    (hk : Surplus node.keys (before ++ after) k) (x : Value) (source : String) :
    ∃ issues : List Issue,
      Config.ofValue (putPart (.dict (before ++ (k, x) :: after)) node.way v) source =
        .error (Fault.of (.configInvalid source (issues.map Issue.line))) ∧
      ∃ i ∈ issues, i.IsStray ∧ ∃ step, i.path = node.way ++ [step] := by
  have hput := part?_putPart hnode (.dict (before ++ (k, x) :: after))
  obtain ⟨i, hi, hstray, step, hpath⟩ := hk.exists_stray node.distinct_keys x
  obtain ⟨issues, hissues, htold⟩ := tells_config hput hi
  obtain ⟨entries, hdict⟩ := exists_dict_of_node hput ⟨_, rfl⟩
  refine ⟨issues, ?_, _, htold, hstray, step, by rw [Issue.along, hpath]⟩
  rw [hdict] at hissues ⊢
  simp only [Config.ofValue, hissues]

/-- The entries of a condition that reads the field `owner`. -/
def ownerEntries : List (Value × Value) :=
  [ (.str "type", .str "path"), (.str "operator", .str "equals"), (.str "value", .str "ann"),
    (.str "context_key", .str "owner") ]

/-- A configuration of one rule, with the entries of the only condition of the rule. -/
def guardedBy (condition : List (Value × Value)) : Value :=
  .dict
    [ (.str "policy", .dict
        [ (.str "rules", .list
            [ .dict
                [ (.str "permission", .str "file.*"), (.str "allow", .bool true),
                  (.str "conditions", .list [.dict condition]) ] ]) ]) ]

/-- The field to read may be given in one spelling, but not in both. -/
theorem refused_of_surplus_key_owner :
    (∃ c, Config.ofValue (guardedBy ownerEntries) = .ok c) ∧
      ∃ issues : List Issue,
        Config.ofValue (guardedBy (ownerEntries ++ [(.str "contextKey", .str "path")])) =
          .error (Fault.of (.configInvalid "<mapping>" (issues.map Issue.line))) ∧
        ∃ i ∈ issues, i.IsStray ∧ ∃ step, i.path = (Node.condition 0 0).way ++ [step] := by
  refine ⟨⟨_, rfl⟩, ?_⟩
  have hnode : part? (Node.condition 0 0).way (guardedBy ownerEntries)
      = some (.dict (ownerEntries ++ [])) := rfl
  have hkey : Surplus (Node.condition 0 0).keys (ownerEntries ++ []) (.str "contextKey") :=
    @Surplus.again _ _ _ ConditionKey.contextKey (.str "context_key") (.str "owner")
      (by simp [Node.keys, ConditionKey.all]) (by decide) (by simp [ownerEntries]) (by decide)
      (by simp)
  exact refused_of_surplus_key hnode hkey (.str "path") "<mapping>"

end Clearance.Config
