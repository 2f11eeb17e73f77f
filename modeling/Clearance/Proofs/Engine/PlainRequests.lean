import Clearance.Proofs.Engine.Requests

/-!
# Requests in plain data

A request that is made of plain data has a context of plain data, each name once.  So has the echo
of data that makes no request, of whatever kind the data is.
-/

namespace Clearance

namespace Value

/-- The text of a key, if the key is a text. -/
def keyText? : Value -> Option String
  | .str s => some s
  | _ => none

/-- The texts among keys. -/
def textKeys (entries : List (Value × Value)) : List String :=
  entries.filterMap fun entry => keyText? entry.1

theorem textKeys_cons (k v : Value) (rest : List (Value × Value)) :
    textKeys ((k, v) :: rest) = (keyText? k).toList ++ textKeys rest := by
  cases htext : keyText? k with
  | none => exact List.filterMap_cons_none htext
  | some s => exact List.filterMap_cons_some htext

theorem textKeys_named (fields : Table Value) : textKeys (named fields) = fields.names := by
  induction fields with
  | nil => rfl
  | cons field rest ih => exact congrArg (field.1 :: ·) ih

/-- A new entry takes the place of the one with its key, or comes last. -/
theorem nodup_textKeys_insertEntry {entries : List (Value × Value)}
    (h : (textKeys entries).Nodup) (k v : Value) :
    (textKeys (insertEntry k v entries)).Nodup ∧
      ∀ s ∈ textKeys (insertEntry k v entries), s ∈ textKeys entries ∨ k = .str s := by
  induction entries with
  | nil =>
      rw [insertEntry, textKeys_cons]
      cases k <;> simp [keyText?, textKeys]
  | cons entry rest ih =>
      obtain ⟨other, w⟩ := entry
      rw [textKeys_cons] at h ⊢
      rw [insertEntry]
      split
      · rw [textKeys_cons]
        exact ⟨h, fun s hs => .inl hs⟩
      · rename_i hother
        obtain ⟨hnodup, hkeys⟩ := ih (h.sublist (List.sublist_append_right _ _))
        rw [textKeys_cons]
        cases other
        case str t =>
          simp only [keyText?, Option.toList_some, List.cons_append, List.nil_append,
            List.nodup_cons] at h ⊢
          refine ⟨⟨fun hmem => ?_, hnodup⟩, ?_⟩
          · rcases hkeys t hmem with hrest | rfl
            · exact h.1 hrest
            · exact hother (by simp [sameKey_str])
          · intro s hs
            rcases List.mem_cons.1 hs with rfl | hs
            · exact .inl (List.mem_cons_self ..)
            · exact (hkeys s hs).imp_left (List.mem_cons_of_mem _)
        all_goals exact ⟨hnodup, hkeys⟩

/-- All keys and values of a dictionary are plain, and each text is a key once. -/
structure PlainEntries (entries : List (Value × Value)) : Prop where
  nodup : (textKeys entries).Nodup
  plain : ∀ entry ∈ entries, Plain entry.1 ∧ Plain entry.2

theorem mem_insertEntry {k v : Value} {entries : List (Value × Value)} {entry : Value × Value}
    (h : entry ∈ insertEntry k v entries) :
    (∃ w, (entry.1, w) ∈ (k, v) :: entries) ∧ (entry.2 = v ∨ entry ∈ entries) := by
  induction entries with
  | nil =>
      obtain rfl := List.mem_singleton.1 h
      exact ⟨⟨v, List.mem_cons_self ..⟩, .inl rfl⟩
  | cons first rest ih =>
      rw [insertEntry] at h
      split at h
      · rcases List.mem_cons.1 h with rfl | hrest
        · exact ⟨⟨first.2, by simp⟩, .inl rfl⟩
        · exact ⟨⟨entry.2, by simp [hrest]⟩, .inr (List.mem_cons_of_mem _ hrest)⟩
      · rcases List.mem_cons.1 h with rfl | hrest
        · exact ⟨⟨first.2, by simp⟩, .inr (List.mem_cons_self ..)⟩
        · obtain ⟨⟨w, hw⟩, hvalue⟩ := ih hrest
          refine ⟨⟨w, ?_⟩, hvalue.imp_right (List.mem_cons_of_mem _)⟩
          rcases List.mem_cons.1 hw with hnew | hold
          · exact hnew ▸ List.mem_cons_self ..
          · exact List.mem_cons_of_mem _ (List.mem_cons_of_mem _ hold)

theorem PlainEntries.insert {entries : List (Value × Value)} (h : PlainEntries entries)
    {k v : Value} (hk : Plain k) (hv : Plain v) : PlainEntries (insertEntry k v entries) := by
  refine ⟨(nodup_textKeys_insertEntry h.nodup k v).1, fun entry hentry => ?_⟩
  obtain ⟨⟨w, hw⟩, hvalue⟩ := mem_insertEntry hentry
  constructor
  · rcases List.mem_cons.1 hw with hnew | hold
    · obtain ⟨hkey, -⟩ := Prod.mk.inj hnew
      exact hkey ▸ hk
    · exact (h.plain _ hold).1
  · rcases hvalue with rfl | hold
    · exact hv
    · exact (h.plain _ hold).2

theorem plainEntries_dictOf {pairs : List (Value × Value)}
    (h : ∀ pair ∈ pairs, Plain pair.1 ∧ Plain pair.2) :
    ∃ entries, dictOf pairs = .dict entries ∧ PlainEntries entries := by
  suffices hfold : ∀ before, PlainEntries before ->
      PlainEntries (pairs.foldl (fun acc pair => insertEntry pair.1 pair.2 acc) before) by
    exact ⟨_, rfl, hfold [] ⟨List.nodup_nil, fun entry hentry => absurd hentry List.not_mem_nil⟩⟩
  induction pairs with
  | nil => exact fun before hbefore => hbefore
  | cons pair rest ih =>
      obtain ⟨⟨hk, hv⟩, hrest⟩ := List.forall_mem_cons.1 h
      exact fun before hbefore => ih hrest _ (hbefore.insert hk hv)

theorem Plain.entries {entries : List (Value × Value)} (h : Plain (.dict entries)) :
    PlainEntries entries := by
  cases h with
  | dict hnodup hplain =>
      refine ⟨by rwa [textKeys_named], fun entry hentry => ?_⟩
      obtain ⟨field, hfield, rfl⟩ := List.mem_map.1 hentry
      exact ⟨.str _, hplain field hfield⟩

end Value

namespace Engine

open Value (Plain PlainEntries)

theorem eq_named_of_textEntries {entries : List (Value × Value)}
    (h : ∀ entry ∈ entries, Plain entry.1) {c : Context}
    (hread : Schema.textEntries entries = .ok c) : entries = Value.named c := by
  induction entries generalizing c with
  | nil =>
      cases hread
      rfl
  | cons entry rest ih =>
      obtain ⟨k, v⟩ := entry
      obtain ⟨hk, hrest⟩ := List.forall_mem_cons.1 h
      obtain ⟨f, tail, hkey, htail, rfl⟩ := Schema.Checked.app_eq_ok.1 hread
      obtain ⟨s, hs, rfl⟩ := Schema.map_eq_ok.1 hkey
      have htext := Schema.under_eq_ok.1 (Schema.under_eq_ok.1 hs)
      rw [ih hrest htail]
      cases hk <;> cases htext
      rfl

theorem plain_of_entries {c : Context} (h : PlainEntries (Value.named c)) : c.toValue.Plain := by
  refine .dict (Value.textKeys_named c ▸ h.nodup) fun field hfield => ?_
  exact (h.plain (.str field.1, field.2) (List.mem_map.2 ⟨field, hfield, rfl⟩)).2

/-- Plain entries under texts make a plain context. -/
theorem plain_of_textDict {v : Value} {entries : List (Value × Value)} (hv : v = .dict entries)
    (h : PlainEntries entries) {c : Context} (hread : Schema.textDict v = .ok c) :
    c.toValue.Plain := by
  rw [hv] at hread
  obtain rfl := eq_named_of_textEntries (fun entry hentry => (h.plain entry hentry).1) hread
  exact plain_of_entries h

/-! ## Mappings -/

theorem plain_empty : (Context.toValue []).Plain :=
  @Value.Plain.dict [] List.nodup_nil fun _ hfield => nomatch hfield

theorem plain_itemsOf? {v : Value} (h : v.Plain) {items : List Value}
    (hitems : itemsOf? v = some items) : ∀ item ∈ items, item.Plain := by
  intro item hitem
  cases h with
  | str s =>
      cases hitems
      obtain ⟨ch, -, rfl⟩ := List.mem_map.1 hitem
      exact .str _
  | list hplain =>
      cases hitems
      exact hplain item hitem
  | @dict fields hnodup hplain =>
      cases hitems
      obtain ⟨entry, hentry, rfl⟩ := List.mem_map.1 hitem
      obtain ⟨field, -, rfl⟩ := List.mem_map.1 hentry
      exact .str _
  | null => cases hitems
  | bool b => cases hitems
  | int n => cases hitems
  | real hfinite => cases hitems

theorem plain_pairOf {index : Nat} {v : Value} (h : v.Plain) {pair : Value × Value}
    (hpair : pairOf index v = .ok pair) : pair.1.Plain ∧ pair.2.Plain := by
  have hplain := plain_itemsOf? h (pairOf_eq_ok_iff.1 hpair).1
  exact ⟨hplain pair.1 (by simp), hplain pair.2 (by simp)⟩

/-- The mapping that plain data stands for is plain. -/
theorem plain_mappingOf {v w : Value} (h : v.Plain) (hmapping : mappingOf v = .ok w) :
    ∃ entries, w = .dict entries ∧ PlainEntries entries := by
  unfold mappingOf at hmapping
  split at hmapping
  · cases hmapping
    exact ⟨_, rfl, h.entries⟩
  · split at hmapping
    · cases hmapping
    · rename_i items hitems
      have hplain := plain_itemsOf? h hitems
      cases hpairs : (items.mapIdx pairOf).mapM id with
      | error fault =>
          rw [hpairs] at hmapping
          cases hmapping
      | ok pairs =>
          rw [hpairs] at hmapping
          cases hmapping
          refine Value.plainEntries_dictOf fun pair hpair => ?_
          have hread : Except.ok pair ∈ items.mapIdx pairOf :=
            mapM_id_eq_ok_iff.1 hpairs ▸ List.mem_map_of_mem hpair
          obtain ⟨index, hindex, hpairOf⟩ := List.mem_mapIdx.1 hread
          exact plain_pairOf (hplain _ (List.getElem_mem hindex)) hpairOf

/-- The context of a request in plain data is plain. -/
theorem plain_requestOf {permission context : Value} (h : context.Plain) {r : Request}
    (hrequest : requestOf permission context = .ok r) : r.context.toValue.Plain := by
  have hplain : (if context.isTruthy then context else .dict []).Plain := by
    split
    · exact h
    · exact plain_empty
  obtain ⟨-, mapping, hmapping, hread⟩ := requestOf_eq_ok_iff.1 hrequest
  obtain ⟨entries, hentries, hplainEntries⟩ := plain_mappingOf hplain hmapping
  exact plain_of_textDict hentries hplainEntries hread

/-! ## Echoes -/

theorem plain_set {c : Context} (h : c.toValue.Plain) (name : String) {v : Value} (hv : v.Plain) :
    (Context.toValue (Table.set name v c)).Plain := by
  refine plain_of_entries ?_
  rw [← Value.insertEntry_str]
  exact PlainEntries.insert h.entries (.str name) hv

theorem plain_echoEntries (entries : List (Value × Value)) {c : Context}
    (hecho : echoEntries entries = .ok c) : c.toValue.Plain := by
  have hstep (b : Context) (entry : Value × Value) (c : Context) (hb : b.toValue.Plain)
      (hset : (do return Table.set (<- entry.1.text) (.str entry.2.literal) b) =
        (.ok c : Except Value.NoText Context)) : c.toValue.Plain := by
    obtain ⟨name, -, hset⟩ := exists_of_bind_ok hset
    cases hset
    exact plain_set hb name (.str _)
  cases entries with
  | nil =>
      cases hecho
      exact plain_empty
  | cons entry rest => exact foldlM_keeps hstep plain_empty hecho

/-- An echo has a plain context. -/
theorem plain_echo {permission context : Value} {r : Request}
    (hecho : echo permission context = .ok r) : r.context.toValue.Plain := by
  unfold echo at hecho
  cases hname : permission.text with
  | error fault =>
      rw [hname] at hecho
      cases hecho
  | ok name =>
      rw [hname] at hecho
      cases context
      case dict entries =>
          cases hentries : echoEntries entries with
          | error fault =>
              simp only [hentries] at hecho
              cases hecho
          | ok c =>
              simp only [hentries] at hecho
              cases hecho
              exact plain_echoEntries entries hentries
      all_goals
        cases hecho
        exact plain_empty

end Engine

end Clearance
