import Clearance.Proofs.Json.Data
import Clearance.Proofs.Results

/-!
# What is written can be read

Every document in ASCII is read, also one with numbers that are not finite.  All that are no numbers
are written by one word, so the document that is read has one number for them all.  The document of
a record has finite numbers only, whatever the record holds.
-/

namespace Clearance

/-! ## Numbers that are read for others -/

namespace Binary64

/-- The number that is read where a number is written. -/
def settled (x : Binary64) : Binary64 :=
  if x.isFinite then x else if x.isNaN then nan else infinity x.isNegative

theorem magnitude_of_isNaN {x : Binary64} (h : x.isNaN = true) : x.magnitude = .nan := by
  have hword : 2047 * 2 ^ 52 < x.magnitudeWord := of_decide_eq_true h
  have hsign : x.magnitudeWord < 2 ^ 63 := Nat.mod_lt _ (by decide)
  simp only [magnitude, Nat.pow_eq]
  rw [if_pos (by omega), if_neg (by omega)]

theorem magnitude_of_infinite {x : Binary64} (hfinite : x.isFinite = false)
    (hnan : x.isNaN = false) : x.magnitude = .infinite := by
  have hlow : ¬x.magnitudeWord < 2047 * 2 ^ 52 := of_decide_eq_false hfinite
  have hhigh : ¬2047 * 2 ^ 52 < x.magnitudeWord := of_decide_eq_false hnan
  simp only [magnitude, Nat.pow_eq]
  rw [if_pos (by omega), if_pos (by omega)]

theorem magnitude_infinity (negative : Bool) : (infinity negative).magnitude = .infinite := by
  cases negative <;> decide

theorem isNegative_infinity (negative : Bool) : (infinity negative).isNegative = negative := by
  cases negative <;> decide

theorem isFinite_settled (x : Binary64) : x.settled.isFinite = x.isFinite := by
  unfold settled
  cases hfinite : x.isFinite with
  | true => exact hfinite
  | false =>
      have hnan : nan.isFinite = false := by decide
      have hinfinity (negative : Bool) : (infinity negative).isFinite = false := by
        cases negative <;> decide
      rw [if_neg Bool.false_ne_true]
      split
      · exact hnan
      · exact hinfinity _

end Binary64

namespace Json

open Binary64

/-- A number and the one that is read for it have one text. -/
theorem text_settled (layout : Decimal.Layout) (x : Binary64) :
    layout.text x.settled = layout.text x := by
  unfold settled
  cases hfinite : x.isFinite with
  | true => rw [if_pos rfl]
  | false =>
      rw [if_neg Bool.false_ne_true]
      cases hnan : x.isNaN with
      | true =>
          have hword : nan.magnitude = .nan := by decide
          rw [if_pos rfl, Decimal.Layout.text, Decimal.Layout.text, magnitude_of_isNaN hnan, hword]
      | false =>
          rw [if_neg Bool.false_ne_true, Decimal.Layout.text, Decimal.Layout.text,
            magnitude_of_infinite hfinite hnan, magnitude_infinity, isNegative_infinity]

theorem tells_settled (spread : Spread) (x : Binary64) : (asciiStyle spread).Tells x.settled := by
  unfold settled
  cases hfinite : x.isFinite with
  | true =>
      rw [if_pos rfl]
      exact .inl ⟨hfinite, Decimal.scripted, rfl⟩
  | false =>
      have hnan : (Decimal.scripted.text nan).toList = "NaN".toList := by decide
      have hinfinity : (Decimal.scripted.text (infinity false)).toList = "Infinity".toList := by
        decide
      have hnegative : (Decimal.scripted.text (infinity true)).toList = "-Infinity".toList := by
        decide
      rw [if_neg Bool.false_ne_true]
      refine .inr ?_
      cases x.isNaN with
      | true => simp [words, asciiStyle, hnan]
      | false => cases x.isNegative <;> simp [words, asciiStyle, hinfinity, hnegative]

/-! ## Documents in ASCII -/

mutual

/-- A document with other numbers. -/
def mapReals (f : Binary64 -> Binary64) : Json -> Json
  | .real x => .real (f x)
  | .array items => .array (mapItems f items)
  | .object members => .object (mapMembers f members)
  | j => j

def mapItems (f : Binary64 -> Binary64) : List Json -> List Json
  | [] => []
  | item :: rest => mapReals f item :: mapItems f rest

def mapMembers (f : Binary64 -> Binary64) : List (String × Json) -> List (String × Json)
  | [] => []
  | (name, item) :: rest => (name, mapReals f item) :: mapMembers f rest

end

variable {f : Binary64 -> Binary64}

theorem mem_mapItems {item : Json} {items : List Json} (h : item ∈ mapItems f items) :
    ∃ old ∈ items, item = mapReals f old := by
  induction items with
  | nil => cases h
  | cons first rest ih =>
      obtain rfl | hrest := List.mem_cons.1 h
      · exact ⟨first, List.mem_cons_self .., rfl⟩
      · obtain ⟨old, hold, hitem⟩ := ih hrest
        exact ⟨old, List.mem_cons_of_mem _ hold, hitem⟩

theorem mem_mapMembers {member : String × Json} {members : List (String × Json)}
    (h : member ∈ mapMembers f members) : ∃ old ∈ members, member.2 = mapReals f old.2 := by
  induction members with
  | nil => cases h
  | cons first rest ih =>
      obtain rfl | hrest := List.mem_cons.1 h
      · exact ⟨first, List.mem_cons_self .., rfl⟩
      · obtain ⟨old, hold, hmember⟩ := ih hrest
        exact ⟨old, List.mem_cons_of_mem _ hold, hmember⟩

theorem mem_reals_mapReals {j : Json} {x : Binary64} (h : x ∈ (mapReals f j).reals) :
    ∃ y, x = f y := by
  induction j using nestedInduction with
  | real y =>
      rw [mapReals, reals, List.mem_singleton] at h
      exact ⟨y, h⟩
  | array items ih =>
      rw [mapReals, reals] at h
      obtain ⟨item, hitem, hx⟩ := mem_itemReals.1 h
      obtain ⟨old, hold, rfl⟩ := mem_mapItems hitem
      exact ih old hold hx
  | object members ih =>
      rw [mapReals, reals] at h
      obtain ⟨member, hmember, hx⟩ := mem_memberReals.1 h
      obtain ⟨old, hold, hmember⟩ := mem_mapMembers hmember
      rw [hmember] at hx
      exact ih old hold hx
  | null => cases h
  | bool b => cases h
  | int n => cases h
  | string s => cases h

/-- Numbers of one text may take each other's place. -/
theorem write_mapReals {style : Style} (hf : ∀ x, style.realText (f x) = style.realText x)
    (j : Json) : ∀ depth, write style depth (mapReals f j) = write style depth j := by
  induction j using nestedInduction with
  | real x =>
      intro depth
      rw [mapReals, write, write, hf]
  | array items ih =>
      have hitems (depth : Nat) :
          writeItems style depth (mapItems f items) = writeItems style depth items := by
        induction items with
        | nil => rfl
        | cons item rest ihrest =>
            obtain ⟨hitem, hrest⟩ := List.forall_mem_cons.1 ih
            rw [mapItems, writeItems, writeItems, hitem, ihrest hrest]
      intro depth
      rw [mapReals, write, write, hitems]
  | object members ih =>
      have hmembers (depth : Nat) :
          writeMembers style depth (mapMembers f members) = writeMembers style depth members := by
        induction members with
        | nil => rfl
        | cons member rest ihrest =>
            obtain ⟨hmember, hrest⟩ := List.forall_mem_cons.1 ih
            rw [mapMembers, writeMembers, writeMembers, hmember, ihrest hrest]
      intro depth
      rw [mapReals, write, write, hmembers]
  | null => exact fun _ => rfl
  | bool b => exact fun _ => rfl
  | int n => exact fun _ => rfl
  | string s => exact fun _ => rfl

/-- Every document in ASCII is read back, with the numbers that are read for its own. -/
theorem parse_render_ascii (spread : Spread) (j : Json) :
    parse (render (asciiStyle spread) j) = .ok (mapReals settled j) := by
  have htext : ∀ x, (asciiStyle spread).realText x.settled = (asciiStyle spread).realText x :=
    text_settled Decimal.scripted
  have hrender : render (asciiStyle spread) j = render (asciiStyle spread) (mapReals settled j) :=
    congrArg String.ofList (write_mapReals htext j 0).symm
  rw [hrender]
  refine parse_render_of_tellsAll _ fun x hx => ?_
  obtain ⟨y, rfl⟩ := mem_reals_mapReals hx
  exact tells_settled spread y

/-! ## Documents of dictionaries -/

/-- A dictionary under names is written as an object. -/
theorem exists_object_of_ofValue {form : Form} {entries : List (Value × Value)} {j : Json}
    (h : ofValue form (.dict entries) = .ok j) : ∃ members, j = .object members := by
  rw [ofValue, ofMembers] at h
  split at h
  · cases h
  · obtain ⟨members, -, hj⟩ := exists_of_bind_ok h
    exact ⟨members, (Except.ok.inj hj).symm⟩

theorem exists_object_of_valueDocument {keepNull : Bool} {entries : List (Value × Value)} {j : Json}
    (h : Schema.valueDocument keepNull (.dict entries) = .ok j) :
    ∃ members, j = .object members := by
  rw [Schema.valueDocument] at h
  obtain ⟨members, -, rfl⟩ := exists_of_map_ok h
  exact ⟨members, rfl⟩

/-- An object denotes a context. -/
theorem exists_context_of_object (members : List (String × Json)) :
    ∃ c : Context, (Json.object members).toValue = c.toValue := by
  rw [toValue, toEntries_eq_named]
  exact Value.exists_dictOf_named _

/-! ## Documents of records -/

theorem isFinite_permissionDocument (keepNull : Bool) (p : Permission) :
    (Schema.permissionDocument keepNull p).isFinite = true := by
  obtain ⟨name, scope, risk, confirm, description, parent⟩ := p
  refine haveFinite_iff.2 fun member hmember => ?_
  have hmember := (List.mem_filter.1 hmember).1
  simp only [List.mem_cons, List.not_mem_nil, or_false] at hmember
  obtain rfl | rfl | rfl | rfl | rfl | rfl := hmember
  · rfl
  · rfl
  · rfl
  · rfl
  · cases description <;> rfl
  · cases parent <;> rfl

mutual

/-- What is written of a value has finite numbers only. -/
theorem isFinite_of_valueDocument {keepNull : Bool} :
    ∀ {v : Value} {j : Json}, Schema.valueDocument keepNull v = .ok j -> j.isFinite = true
  | .null, _, h | .bool _, _, h | .int _, _, h | .str _, _, h | .timestamp _, _, h
  | .date _, _, h => by
      cases h
      rfl
  | .real x, _, h => by
      cases h
      split
      · assumption
      · rfl
  | .bytes b, _, h => by
      rw [Schema.valueDocument] at h
      split at h <;> cases h
      rfl
  | .list items, _, h | .tuple items, _, h | .set items, _, h => by
      rw [Schema.valueDocument] at h
      obtain ⟨js, hitems, rfl⟩ := exists_of_map_ok h
      exact areFinite_of_itemDocuments hitems
  | .dict entries, _, h => by
      rw [Schema.valueDocument] at h
      obtain ⟨members, hentries, rfl⟩ := exists_of_map_ok h
      exact haveFinite_of_entryDocuments hentries
  | .permission p, _, h => by
      cases h
      exact isFinite_permissionDocument keepNull p

theorem areFinite_of_itemDocuments {keepNull : Bool} :
    ∀ {items : List Value} {js : List Json},
      Schema.itemDocuments keepNull items = .ok js -> areFinite js = true
  | [], _, h => by
      cases h
      rfl
  | v :: rest, _, h => by
      rw [Schema.itemDocuments] at h
      obtain ⟨j, hv, h⟩ := exists_of_bind_ok h
      obtain ⟨js, hrest, h⟩ := exists_of_bind_ok h
      cases h
      rw [areFinite, isFinite_of_valueDocument hv, areFinite_of_itemDocuments hrest]
      rfl

theorem haveFinite_of_entryDocuments {keepNull : Bool} :
    ∀ {entries : List (Value × Value)} {members : List (String × Json)},
      Schema.entryDocuments keepNull entries = .ok members -> haveFinite members = true
  | [], _, h => by
      cases h
      rfl
  | (k, v) :: rest, _, h => by
      rw [Schema.entryDocuments] at h
      obtain ⟨name, -, h⟩ := exists_of_bind_ok h
      obtain ⟨j, hv, h⟩ := exists_of_bind_ok h
      obtain ⟨members, hrest, h⟩ := exists_of_bind_ok h
      cases h
      rw [haveFinite, isFinite_of_valueDocument hv, haveFinite_of_entryDocuments hrest]
      rfl

end

end Json

end Clearance
