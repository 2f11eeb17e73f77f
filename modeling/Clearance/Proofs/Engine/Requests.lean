import Clearance.Engine.Request
import Clearance.Proofs.Results
import Clearance.Proofs.Schema.Validity

/-!
# What makes a request

A request is proper if it names its permission by a text and gives nothing, or a mapping from
texts, for its context.  Other data make a request as well: the encodings of texts count as texts,
whatever is void counts as nothing, and a sequence of pairs counts as a mapping.  What counts is
told here in full; all other data are turned down.
-/

namespace Clearance

namespace Schema

/-- A value is a text, or the encoding of one. -/
def Textual (v : Value) : Prop :=
  ∃ s, text v = .ok s

/-- All keys are texts, or encodings of texts. -/
def TextKeys (entries : List (Value × Value)) : Prop :=
  ∀ entry ∈ entries, Textual entry.1

theorem textual_str (s : String) : Textual (.str s) :=
  ⟨s, rfl⟩

/-- Only texts and bytes can be textual. -/
theorem Textual.cases {v : Value} (h : Textual v) :
    (∃ s, v = .str s) ∨ ∃ b, v = .bytes b := by
  obtain ⟨s, hs⟩ := h
  cases v
  case str t => exact .inl ⟨t, rfl⟩
  case bytes b => exact .inr ⟨b, rfl⟩
  all_goals cases hs

theorem textKeys_nil : TextKeys [] :=
  List.forall_mem_nil _

theorem textKeys_cons_iff {k v : Value} {rest : List (Value × Value)} :
    TextKeys ((k, v) :: rest) ↔ Textual k ∧ TextKeys rest :=
  List.forall_mem_cons

/-- The entries of a dictionary are read if their keys are textual, whatever their values. -/
theorem exists_textEntries_iff {entries : List (Value × Value)} :
    (∃ c, textEntries entries = .ok c) ↔ TextKeys entries := by
  induction entries with
  | nil => exact ⟨fun _ => textKeys_nil, fun _ => ⟨[], rfl⟩⟩
  | cons entry rest ih =>
      obtain ⟨k, v⟩ := entry
      rw [textKeys_cons_iff, ← ih]
      constructor
      · rintro ⟨c, hc⟩
        obtain ⟨f, tail, hkey, htail, -⟩ := Checked.app_eq_ok.1 hc
        obtain ⟨s, hs, -⟩ := map_eq_ok.1 hkey
        exact ⟨⟨s, under_eq_ok.1 (under_eq_ok.1 hs)⟩, tail, htail⟩
      · rintro ⟨⟨s, hs⟩, tail, htail⟩
        refine ⟨(s, v) :: tail, Checked.app_eq_ok.2 ⟨_, tail, ?_, htail, rfl⟩⟩
        exact map_eq_ok.2 ⟨s, under_eq_ok.2 (under_eq_ok.2 hs), rfl⟩

end Schema

open Schema (Textual TextKeys)

namespace Value

theorem Textual.isHashable {v : Value} (h : Textual v) : v.isHashable = true := by
  obtain ⟨s, rfl⟩ | ⟨b, rfl⟩ := h.cases <;> rfl

/-- A key that is the same as a textual one is textual. -/
theorem textual_of_sameKey {k key : Value} (h : sameKey k key = true) (hk : Textual k) :
    Textual key := by
  obtain ⟨s, rfl⟩ | ⟨b, rfl⟩ := hk.cases
  · cases key
    case str t => exact Schema.textual_str t
    all_goals simp [sameKey, sameNumber, numeric?] at h
  · cases key
    case bytes b' =>
        obtain rfl : b = b' := by simpa [sameKey] using h
        exact hk
    all_goals simp [sameKey, sameNumber, numeric?] at h

theorem textKeys_insertEntry_iff {k v : Value} {entries : List (Value × Value)} :
    TextKeys (insertEntry k v entries) ↔ Textual k ∧ TextKeys entries := by
  induction entries with
  | nil => exact Schema.textKeys_cons_iff
  | cons entry rest ih =>
      obtain ⟨other, w⟩ := entry
      rw [insertEntry]
      split
      · rename_i hsame
        rw [Schema.textKeys_cons_iff, Schema.textKeys_cons_iff]
        exact ⟨fun h => ⟨textual_of_sameKey hsame h.1, h⟩, And.right⟩
      · rw [Schema.textKeys_cons_iff, Schema.textKeys_cons_iff, ih, and_left_comm]

/-- A dictionary has textual keys if all pairs that it is made of start with textual keys. -/
theorem textKeys_dictOf_iff {pairs : List (Value × Value)} :
    (∃ entries, dictOf pairs = .dict entries ∧ TextKeys entries) ↔ TextKeys pairs := by
  have hfold (before : List (Value × Value)) :
      TextKeys (pairs.foldl (fun acc pair => insertEntry pair.1 pair.2 acc) before) ↔
        TextKeys pairs ∧ TextKeys before := by
    induction pairs generalizing before with
    | nil => exact ⟨fun h => ⟨Schema.textKeys_nil, h⟩, And.right⟩
    | cons pair rest ih =>
        rw [List.foldl_cons, ih, textKeys_insertEntry_iff, Schema.textKeys_cons_iff]
        exact ⟨fun ⟨hrest, hk, hbefore⟩ => ⟨⟨hk, hrest⟩, hbefore⟩,
          fun ⟨⟨hk, hrest⟩, hbefore⟩ => ⟨hrest, hk, hbefore⟩⟩
  constructor
  · rintro ⟨entries, ⟨⟩, hkeys⟩
    exact ((hfold []).1 hkeys).1
  · exact fun h => ⟨_, rfl, (hfold []).2 ⟨h, Schema.textKeys_nil⟩⟩

end Value

namespace Engine

/-! ## Mappings -/

theorem mapM_id_eq_ok_iff {ε α : Type} {xs : List (Except ε α)} {ys : List α} :
    xs.mapM id = .ok ys ↔ xs = ys.map Except.ok := by
  induction xs generalizing ys with
  | nil => cases ys <;> simp [pure, Except.pure]
  | cons x rest ih =>
      rw [List.mapM_cons]
      cases x with
      | error fault => cases ys <;> simp [bind, Except.bind]
      | ok y =>
          cases hrest : rest.mapM id with
          | error fault => cases ys <;> simp [bind, Except.bind, ← ih, hrest]
          | ok others => cases ys <;> simp [bind, Except.bind, pure, Except.pure, ← ih, hrest]

theorem pairOf_eq_ok_iff {index : Nat} {v : Value} {pair : Value × Value} :
    pairOf index v = .ok pair ↔ itemsOf? v = some [pair.1, pair.2] ∧ pair.1.isHashable = true := by
  obtain ⟨key, value⟩ := pair
  unfold pairOf
  split
  · rename_i hitems
    simp [hitems]
  · rename_i key' value' hitems
    rw [hitems]
    split
    · rename_i hhash
      simp only [Except.ok.injEq, Prod.mk.injEq, Option.some.injEq, List.cons.injEq, and_true]
      exact ⟨fun ⟨hkey, hvalue⟩ => ⟨⟨hkey, hvalue⟩, hkey ▸ hhash⟩, And.left⟩
    · rename_i hhash
      simp only [reduceCtorEq, Option.some.injEq, List.cons.injEq, and_true, false_iff]
      rintro ⟨⟨rfl, -⟩, hkey⟩
      exact hhash hkey
  · rename_i items hnotTwo hitems
    rw [hitems]
    simp only [reduceCtorEq, Option.some.injEq, false_iff]
    rintro ⟨rfl, -⟩
    exact hnotTwo key value rfl

/-- A value is a pair that starts with a textual key. -/
def TextPair (v : Value) : Prop :=
  ∃ key value, itemsOf? v = some [key, value] ∧ Textual key

/-- The items of a sequence are read as pairs under textual keys if they all are such pairs. -/
theorem exists_pairs_iff {items : List Value} :
    (∃ pairs, items.mapIdx pairOf = pairs.map Except.ok ∧ TextKeys pairs) ↔
      ∀ item ∈ items, TextPair item := by
  suffices hfrom : ∀ n, (∃ pairs, items.mapIdx (fun i => pairOf (n + i)) = pairs.map Except.ok ∧
      TextKeys pairs) ↔ ∀ item ∈ items, TextPair item by
    simpa only [Nat.zero_add] using hfrom 0
  induction items with
  | nil => exact fun n => ⟨fun _ => List.forall_mem_nil _, fun _ => ⟨[], rfl, Schema.textKeys_nil⟩⟩
  | cons item rest ih =>
      intro n
      have htail : (fun i => pairOf (n + (i + 1))) = fun i => pairOf (n + 1 + i) := by
        funext i
        rw [Nat.add_right_comm, Nat.add_assoc]
      rw [List.mapIdx_cons, htail, List.forall_mem_cons, ← ih (n + 1)]
      constructor
      · rintro ⟨pairs, hpairs, hkeys⟩
        cases pairs with
        | nil => cases hpairs
        | cons pair others =>
            obtain ⟨hitem, hothers⟩ := List.cons.inj hpairs
            obtain ⟨hkey, hrest⟩ := Schema.textKeys_cons_iff.1 hkeys
            exact ⟨⟨_, _, (pairOf_eq_ok_iff.1 hitem).1, hkey⟩, others, hothers, hrest⟩
      · rintro ⟨⟨key, value, hitem, hkey⟩, others, hothers, hrest⟩
        refine ⟨(key, value) :: others, ?_, Schema.textKeys_cons_iff.2 ⟨hkey, hrest⟩⟩
        have hpair : pairOf (n + 0) item = .ok (key, value) :=
          pairOf_eq_ok_iff.2 ⟨hitem, Value.Textual.isHashable hkey⟩
        rw [hothers, hpair]
        rfl

/-- A value is a sequence of pairs that start with textual keys. -/
def TextPairs (v : Value) : Prop :=
  ∃ items, itemsOf? v = some items ∧ ∀ item ∈ items, TextPair item

/--
What counts as a mapping from texts: whatever is void, a dictionary, and a sequence of pairs that is
no dictionary.
-/
inductive Mappable : Value -> Prop where
  | void {v : Value} (void : v.isTruthy = false) : Mappable v
  | dict {entries : List (Value × Value)} (keys : TextKeys entries) : Mappable (.dict entries)
  | pairs {v : Value} (other : ∀ entries, v ≠ .dict entries) (pairs : TextPairs v) : Mappable v

/-- What is no dictionary is read as one if it is a sequence of pairs. -/
theorem exists_mappingOf_iff {v : Value} (other : ∀ entries, v ≠ .dict entries) :
    (∃ entries, mappingOf v = .ok (.dict entries) ∧ TextKeys entries) ↔ TextPairs v := by
  unfold mappingOf TextPairs
  split
  · exact absurd rfl (other _)
  · cases hitems : itemsOf? v with
    | none =>
        constructor
        · rintro ⟨entries, ⟨⟩, -⟩
        · rintro ⟨items, ⟨⟩, -⟩
    | some items =>
        simp only [Option.some.injEq, exists_eq_left', ← exists_pairs_iff, ← mapM_id_eq_ok_iff]
        cases (items.mapIdx pairOf).mapM id with
        | error fault =>
            constructor
            · rintro ⟨entries, ⟨⟩, -⟩
            · rintro ⟨pairs, ⟨⟩, -⟩
        | ok pairs =>
            simp only [bind, Except.bind, pure, Except.pure, Except.ok.injEq, exists_eq_left']
            exact Value.textKeys_dictOf_iff

/-! ## Requests -/

/-- The mapping that a context is taken for. -/
theorem exists_mapping_iff {context : Value} :
    (∃ entries, mappingOf (if context.isTruthy then context else .dict []) = .ok (.dict entries) ∧
      TextKeys entries) ↔ Mappable context := by
  cases hvoid : context.isTruthy with
  | false =>
      refine ⟨fun _ => .void hvoid, fun _ => ⟨[], rfl, Schema.textKeys_nil⟩⟩
  | true =>
      rw [if_pos rfl]
      by_cases hdict : ∃ entries, context = .dict entries
      · obtain ⟨entries, rfl⟩ := hdict
        constructor
        · rintro ⟨_, ⟨⟩, hkeys⟩
          exact .dict hkeys
        · intro h
          refine ⟨entries, rfl, ?_⟩
          cases h with
          | void hfalse => rw [hfalse] at hvoid; cases hvoid
          | dict hkeys => exact hkeys
          | pairs hother => exact absurd rfl (hother entries)
      · have hother : ∀ entries, context ≠ .dict entries := fun entries h => hdict ⟨entries, h⟩
        rw [exists_mappingOf_iff hother]
        constructor
        · exact .pairs hother
        · intro h
          cases h with
          | void hfalse => rw [hfalse] at hvoid; cases hvoid
          | dict hkeys => exact absurd rfl (hother _)
          | pairs _ hpairs => exact hpairs

/-- A record with just the two fields of a request is read field by field. -/
theorem request_eq_ok_iff {permission mapping : Value} {r : Request} :
    Schema.request (.dict [(.str "permission", permission), (.str "context", mapping)]) = .ok r ↔
      Schema.text permission = .ok r.permission ∧ Schema.textDict mapping = .ok r.context := by
  have hname : Schema.RequestKey.permission.find?
      [(.str "permission", permission), (.str "context", mapping)] =
        some ("permission", permission) := by
    simp [Schema.Key.find?, Schema.RequestKey.permission, Value.lookup]
  have hcontext : Schema.RequestKey.context.find?
      [(.str "permission", permission), (.str "context", mapping)] = some ("context", mapping) := by
    simp [Schema.Key.find?, Schema.RequestKey.context, Value.lookup]
  have hstrays : Schema.strays Schema.RequestKey.all
      [(.str "permission", permission), (.str "context", mapping)] = [] := by
    simp [Schema.strays, Schema.RequestKey.all, hname, hcontext]
  simp only [Schema.request, Schema.recordEntries, Except.bind, Schema.requestOf, hstrays,
    Schema.required, Schema.defaulted, hname, hcontext]
  constructor
  · intro h
    obtain ⟨g, c, hbuild, hmapping, rfl⟩ := Schema.Checked.app_eq_ok.1 (Schema.refusing_eq_ok h)
    obtain ⟨name, htext, rfl⟩ := Schema.map_eq_ok.1 hbuild
    exact ⟨Schema.under_eq_ok.1 htext, Schema.under_eq_ok.1 hmapping⟩
  · rintro ⟨htext, hmapping⟩
    rw [htext, hmapping]
    rfl

/-- A request is made of the text behind its permission and the mapping behind its context. -/
theorem requestOf_eq_ok_iff {permission context : Value} {r : Request} :
    requestOf permission context = .ok r ↔
      Schema.text permission = .ok r.permission ∧
      ∃ mapping, mappingOf (if context.isTruthy then context else .dict []) = .ok mapping ∧
        Schema.textDict mapping = .ok r.context := by
  unfold requestOf
  cases mappingOf (if context.isTruthy then context else .dict []) with
  | error fault =>
      constructor
      · rintro ⟨⟩
      · rintro ⟨-, mapping, ⟨⟩, -⟩
  | ok mapping =>
      simp only [bind, Except.bind, Except.mapError, Schema.titled, Except.ok.injEq,
        exists_eq_left', ← request_eq_ok_iff]
      cases Schema.request
          (.dict [(.str "permission", permission), (.str "context", mapping)]) with
      | error issues => constructor <;> rintro ⟨⟩
      | ok made => constructor <;> rintro ⟨⟩ <;> rfl

/-- Data make a request if the permission is textual and the context counts as a mapping. -/
theorem exists_requestOf_iff {permission context : Value} :
    (∃ r, requestOf permission context = .ok r) ↔ Textual permission ∧ Mappable context := by
  rw [← exists_mapping_iff]
  simp only [requestOf_eq_ok_iff]
  constructor
  · rintro ⟨r, hname, mapping, hmapping, hcontext⟩
    refine ⟨⟨_, hname⟩, ?_⟩
    cases mapping
    case dict entries =>
        exact ⟨entries, hmapping, Schema.exists_textEntries_iff.1 ⟨_, hcontext⟩⟩
    all_goals cases hcontext
  · rintro ⟨⟨name, hname⟩, entries, hmapping, hkeys⟩
    obtain ⟨c, hc⟩ := Schema.exists_textEntries_iff.2 hkeys
    exact ⟨{ permission := name, context := c }, hname, _, hmapping, hc⟩

/-- A text, and nothing or a mapping from texts, ask for what they say. -/
inductive Proper : Value -> Value -> Request -> Prop where
  | bare (name : String) : Proper (.str name) .null { permission := name }
  | full (r : Request) : Proper (.str r.permission) r.context.toValue r

/-- No context but nothing and a mapping is proper. -/
theorem Proper.null_or_dict {permission context : Value} {r : Request}
    (h : Proper permission context r) : context = .null ∨ ∃ entries, context = .dict entries := by
  cases h with
  | bare name => exact .inl rfl
  | full r => exact .inr ⟨_, rfl⟩

theorem Proper.requestOf {permission context : Value} {r : Request}
    (h : Proper permission context r) : requestOf permission context = .ok r := by
  rw [requestOf_eq_ok_iff]
  cases h with
  | bare name => exact ⟨rfl, _, rfl, rfl⟩
  | full r =>
      refine ⟨rfl, r.context.toValue, ?_, Schema.textEntries_named r.context⟩
      cases r.context <;> rfl

/-- Data that make a request although they are none themselves. -/
structure Coerced (permission context : Value) : Prop where
  improper : ∀ r, ¬ Proper permission context r
  name : Textual permission
  mapping : Mappable context

/-- Data that are not coerced make the requests that they are, and no others. -/
theorem requestOf_eq_ok_iff_proper {permission context : Value} (h : ¬ Coerced permission context)
    {r : Request} : requestOf permission context = .ok r ↔ Proper permission context r := by
  refine ⟨fun hrequest => ?_, Proper.requestOf⟩
  by_contra himproper
  obtain ⟨hname, hmapping⟩ := exists_requestOf_iff.1 ⟨r, hrequest⟩
  refine h ⟨fun r' hproper => himproper ?_, hname, hmapping⟩
  obtain rfl : r' = r := Except.ok.inj (hproper.requestOf.symm.trans hrequest)
  exact hproper

/-! ## Echoes -/

/-- What was asked can be told: neither the permission nor a key of the context refuses its text. -/
structure Tellable (permission context : Value) : Prop where
  name : ∀ message, permission ≠ .mute message
  keys : ∀ entries, context = .dict entries -> ∀ entry ∈ entries, ∀ message,
    entry.1 ≠ .mute message

theorem exists_text_iff {v : Value} : (∃ s, v.text = .ok s) ↔ ∀ message, v ≠ .mute message := by
  cases v
  case mute message =>
      constructor
      · rintro ⟨s, ⟨⟩⟩
      · exact fun h => absurd rfl (h message)
  all_goals exact ⟨fun _ => nofun, fun _ => ⟨_, rfl⟩⟩

theorem exists_echoEntries_iff {entries : List (Value × Value)} :
    (∃ c, echoEntries entries = .ok c) ↔
      ∀ entry ∈ entries, ∀ message, entry.1 ≠ .mute message := by
  have hstep (c : Context) (entry : Value × Value) :
      (∃ c', (do return Table.set (<- entry.1.text) (.str entry.2.literal) c) =
        (.ok c' : Except Value.NoText Context)) ↔ ∀ message, entry.1 ≠ .mute message := by
    rw [← exists_text_iff]
    cases entry.1.text with
    | error fault => exact ⟨nofun, nofun⟩
    | ok name => exact ⟨fun _ => ⟨name, rfl⟩, fun _ => ⟨_, rfl⟩⟩
  cases entries with
  | nil => exact ⟨fun _ => List.forall_mem_nil _, fun _ => ⟨[], rfl⟩⟩
  | cons entry rest => exact exists_foldlM_eq_ok_iff hstep []

/-- Data are echoed if they can be told. -/
theorem exists_echo_iff {permission context : Value} :
    (∃ r, echo permission context = .ok r) ↔ Tellable permission context := by
  have htellable : Tellable permission context ↔ (∃ name, permission.text = .ok name) ∧
      ∀ entries, context = .dict entries -> ∃ c, echoEntries entries = .ok c := by
    simp only [exists_text_iff, exists_echoEntries_iff]
    exact ⟨fun h => ⟨h.name, h.keys⟩, fun h => ⟨h.1, h.2⟩⟩
  rw [htellable]
  unfold echo
  cases permission.text with
  | error fault =>
      constructor
      · rintro ⟨r, ⟨⟩⟩
      · rintro ⟨⟨name, ⟨⟩⟩, -⟩
  | ok name =>
      cases context
      case dict entries =>
          cases hentries : echoEntries entries with
          | error fault =>
              constructor
              · rintro ⟨r, hecho⟩
                simp only [hentries] at hecho
                cases hecho
              · rintro ⟨-, h⟩
                obtain ⟨c, hc⟩ := h entries rfl
                rw [hentries] at hc
                cases hc
          | ok c =>
              simp only [hentries]
              refine ⟨fun _ => ⟨⟨name, rfl⟩, ?_⟩, fun _ => ⟨_, rfl⟩⟩
              rintro _ ⟨⟩
              exact ⟨c, hentries⟩
      all_goals exact ⟨fun _ => ⟨⟨name, rfl⟩, nofun⟩, fun _ => ⟨_, rfl⟩⟩

end Engine

end Clearance
