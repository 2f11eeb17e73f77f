import Clearance.Proofs.Trail.Connection

/-!
# Recording is all or nothing

A trail is recorded in, closed and opened again, in any order.  Each record puts one row at the end
of the table, under a number greater than all that were told before it, or changes nothing.  So the
rows of the entries whose numbers were told stand behind those that were there at first, and these
entries are read as they were but for their contexts.
-/

namespace Clearance

/-- An entry whose moments can be told in whole minutes, whatever its contexts hold. -/
structure AuditEntry.Dated (e : AuditEntry) : Prop where
  timestamp : e.timestamp.Portable
  result : e.result.Valid

/-- Whether two entries are equal but for their contexts. -/
structure AuditEntry.KeptAs (e e' : AuditEntry) : Prop where
  timestamp : e'.timestamp = e.timestamp
  permission : e'.permission = e.permission
  result : e'.result = { e.result with context := e'.result.context }

namespace Trail

variable {name : String} {files : Files} {d : Database} {e : AuditEntry}

/-! ## Rows that are read back -/

/-- The decision of a row is read as it was but for its context. -/
theorem exists_readResult_of_valid {r : Decision} {j : Json} (hr : r.Valid)
    (h : Schema.decisionDocument true r = .ok j) :
    ∃ c, readResult (Json.render (Json.plainStyle .compact) j) = .ok { r with context := c } := by
  have hexpires : Schema.optional Schema.timestamp
      (Schema.optionalValue (fun t => .str t.zuluText) r.expiresAt) = .ok r.expiresAt :=
    Schema.optional_eq (fun _ => Value.noConfusion) fun t ht =>
      Schema.timestamp_eq (hr.expiresAt t ht)
  have hrule : Schema.optional Schema.rule
      (Schema.optionalValue (Schema.ruleValue true) r.rule) = .ok r.rule :=
    Schema.optional_eq (fun _ => Schema.Fields.value_ne_null true _)
      fun rule hmem => Schema.rule_value true (hr.rule rule hmem)
  obtain ⟨c, hc⟩ := readResult_iff h
  exact ⟨c, (hc _).2 ⟨r.timestamp, r.expiresAt, r.rule, Schema.timestamp_eq hr.timestamp, hexpires,
    hrule, rfl⟩⟩

theorem Row.Writes.exists_keptAs {r : Row} (h : r.Writes e) (he : e.Dated) :
    ∃ e', r.entry = .ok e' ∧ e.KeptAs e' := by
  obtain ⟨id, hrow⟩ := h
  obtain ⟨context, result, hcontext, hresult, rfl⟩ := exists_documents hrow
  obtain ⟨c, hc⟩ := exists_readResult_of_valid he.result hresult
  obtain ⟨c', hc'⟩ := exists_readContext hcontext
  refine ⟨{ e with context := c', result := { e.result with context := c } }, ?_, rfl, rfl, rfl⟩
  simp only [Row.entry, Cell.content, hc, Time.readIso_isoText he.timestamp, hc', Except.mapError]
  rfl

/-! ## Numbers -/

theorem Database.foldl_id_bounds (rows : List Row) (n : Nat) :
    n ≤ rows.foldl (fun n r => max n r.id) n ∧
      ∀ r ∈ rows, r.id ≤ rows.foldl (fun n r => max n r.id) n := by
  induction rows generalizing n with
  | nil => exact ⟨Nat.le_refl n, fun r hr => nomatch hr⟩
  | cons first rest ih =>
      obtain ⟨hle, hrest⟩ := ih (max n first.id)
      exact ⟨Nat.le_trans (Nat.le_max_left ..) hle,
        List.forall_mem_cons.2 ⟨Nat.le_trans (Nat.le_max_right ..) hle, hrest⟩⟩

/-- The next number is greater than those of all rows, however these came to be. -/
theorem Database.id_lt_nextId {rows : List Row} (htable : d.table? = some rows) :
    ∀ r ∈ rows, r.id < d.nextId := by
  intro r hr
  rw [Database.nextId, htable]
  exact Nat.lt_succ_of_le ((foldl_id_bounds rows d.lastId).2 r hr)

/-! ## Selections -/

/-- What a selection keeps of rows behind others: of those behind as if they stood alone. -/
theorem Selection.exists_keep_append (s : Selection) (xs ys : List Row) :
    ∃ front, front <:+ xs ∧ s.keep (xs ++ ys) = front ++ s.keep ys ∧
      ∀ n : Nat, s.limit? = some (n : Int) -> n ≤ ys.length -> front = [] := by
  obtain ⟨filter?, permission?, limit?⟩ := s
  rcases limit? with - | limit | limit
  · exact ⟨xs, List.suffix_refl _, rfl, fun n hn => nomatch hn⟩
  · refine ⟨xs.drop ((xs ++ ys).length - limit), List.drop_suffix .., ?_, ?_⟩
    · have hrest : (xs ++ ys).length - limit - xs.length = ys.length - limit := by
        rw [List.length_append]
        omega
      simp only [keep, List.drop_append, hrest]
    · intro n hn hle
      obtain rfl : limit = n := Int.ofNat_inj.1 (Option.some.inj hn)
      refine List.drop_eq_nil_of_le ?_
      rw [List.length_append]
      omega
  · exact ⟨xs, List.suffix_refl _, rfl, fun n hn => nomatch hn⟩

/-! ## Trails in use -/

/-- A trail in use, and the entries that were recorded in it, each under the number that was told. -/
structure Usage where
  trail : Connection
  files : Files
  told : List (Nat × AuditEntry) := []

namespace Usage

/-- What is done with a trail. -/
inductive Act where
  | record (e : AuditEntry)
  | close
  | reopen (path : String)

/-- A trail that was just opened. -/
def start (name : String) (files : Files) : Usage where
  trail := { file? := some name }
  files := files

def step (name : String) (s : Usage) : Act -> Usage
  | .record e =>
      match (s.trail.record e).run s.files with
      | (.ok id, files) => { s with files, told := s.told ++ [(id, e)] }
      | (.error _, files) => { s with files }
  | .close => { s with trail := s.trail.close }
  | .reopen path =>
      match s.files.kept.openTrail name path with
      | .ok files => { s with trail := { file? := some name }, files }
      | .error _ => s

def run (name : String) (s : Usage) (acts : List Act) : Usage :=
  acts.foldl (step name) s

/-- What is known of a trail in use: the rows of what was told stand behind those before. -/
structure Holds (s : Usage) (name : String) (earlier : List Row) (d : Database) : Prop where
  trail : ∀ other, s.trail.file? = some other -> other = name
  database : s.files.database name = .ok d
  rows : ∃ rows, d.table?.getD [] = earlier ++ rows ∧
    List.Forall₂ (fun (t : Nat × AuditEntry) r => Row.ofEntry t.1 t.2 = .ok r) s.told rows
  ids : ∀ t ∈ s.told, t.1 ≤ d.lastId

variable {s : Usage} {earlier : List Row}

theorem holds_start (h : files.database name = .ok d) :
    (start name files).Holds name (d.table?.getD []) d where
  trail := fun _ h => (Option.some.inj h).symm
  database := h
  rows := ⟨[], (List.append_nil _).symm, .nil⟩
  ids := fun _ ht => nomatch ht

/-- A record puts a row at the end, under a number of its own, where there is a table to put it in. -/
theorem run_record_of_row {rows : List Row} {r : Row} (hopen : s.trail.file? = some name)
    (hd : s.files.database name = .ok d) (htable : d.table? = some rows)
    (hrow : Row.ofEntry 0 e = .ok r) :
    (s.trail.record e).run s.files =
      (.ok d.nextId, Table.set name (.database
        { table? := some (rows ++ [{ r with id := d.nextId }]), lastId := d.nextId }) s.files) := by
  rw [Connection.run_record hopen, Files.record_eq hd, hrow, htable]

/-- A record that does not do so changes nothing. -/
theorem Holds.run_record_of_not (h : s.Holds name earlier d)
    (hnot : ¬(s.trail.file? = some name ∧ d.table?.isSome ∧ ∃ r, Row.ofEntry 0 e = .ok r)) :
    ∃ f, (s.trail.record e).run s.files = (.error f, s.files) := by
  cases hfile : s.trail.file? with
  | none => exact ⟨_, Connection.run_record_of_closed hfile⟩
  | some other =>
      obtain rfl := h.trail other hfile
      rw [Connection.run_record hfile, Files.record_eq h.database]
      cases hrow : Row.ofEntry 0 e with
      | error f => exact ⟨_, rfl⟩
      | ok r =>
          cases htable : d.table? with
          | none => exact ⟨_, rfl⟩
          | some rows => exact absurd ⟨hfile, by rw [htable]; rfl, r, hrow⟩ hnot

theorem database_set : Files.database name (Table.set name (.database d) files) = .ok d := by
  rw [Files.database, Table.get?_set, if_pos rfl]

theorem Holds.step_record (h : s.Holds name earlier d) (e : AuditEntry) :
    ∃ d', (s.step name (.record e)).Holds name earlier d' := by
  by_cases hwell : s.trail.file? = some name ∧ d.table?.isSome ∧ ∃ r, Row.ofEntry 0 e = .ok r
  · obtain ⟨hopen, htable, r, hrow⟩ := hwell
    obtain ⟨table, htable⟩ := Option.isSome_iff_exists.1 htable
    obtain ⟨rows, hrows, htold⟩ := h.rows
    rw [step, run_record_of_row hopen h.database htable hrow]
    refine ⟨_, h.trail, database_set, ⟨rows ++ [{ r with id := d.nextId }], ?_, ?_⟩, ?_⟩
    · rw [htable, Option.getD_some] at hrows
      rw [Option.getD_some, hrows, List.append_assoc]
    · exact List.rel_append htold (.cons (ofEntry_renumbered hrow d.nextId) .nil)
    · refine List.forall_mem_append.2 ⟨fun t ht => ?_, List.forall_mem_singleton.2 (Nat.le_refl _)⟩
      exact Nat.le_trans (h.ids t ht) (Nat.le_of_lt d.lastId_lt_nextId)
  · obtain ⟨f, hrun⟩ := h.run_record_of_not hwell
    rw [step, hrun]
    exact ⟨d, h⟩

/-- A trail that is opened again is as it was, or has the table that it did not have. -/
theorem exists_database_of_reopen {path : String} {opened : Files}
    (hd : files.database name = .ok d) (h : files.kept.openTrail name path = .ok opened) :
    ∃ d', opened.database name = .ok d' ∧ (d' = d ∨ d.table? = none ∧ d'.table? = some []) := by
  have hopened {d₁ : Database}
      (hcontent : (Table.get? name files.kept).getD (.database {}) = .database d₁) :
      opened.database name = .ok d₁.prepare := by
    rw [Files.database, get?_of_openTrail h hcontent]
  rw [Files.database] at hd
  split at hd
  · cases hd
  · rename_i found hfound
    cases hd
    cases htable : d.table? with
    | some rows =>
        have hprepare : d.prepare = d := by rw [Database.prepare, htable]
        refine ⟨d, hprepare ▸ hopened ?_, .inl rfl⟩
        rw [Files.get?_kept, hfound, Option.map_some, Option.getD_some,
          Content.ofKept_toText (by rw [htable]; rfl)]
    | none =>
        refine ⟨Database.prepare {}, hopened ?_, .inr ⟨rfl, rfl⟩⟩
        rw [Files.get?_kept, hfound, Option.map_some, Option.getD_some, Content.toText, htable]
        rfl
  · rename_i hnone
    cases hd
    refine ⟨Database.prepare {}, hopened ?_, .inr ⟨rfl, rfl⟩⟩
    rw [Files.get?_kept, hnone]
    rfl

theorem Holds.step_reopen (h : s.Holds name earlier d) (path : String) :
    ∃ d', (s.step name (.reopen path)).Holds name earlier d' := by
  rw [step]
  cases hopened : s.files.kept.openTrail name path with
  | error f => exact ⟨d, h⟩
  | ok opened =>
      obtain ⟨d', hd', rfl | ⟨hnone, hempty⟩⟩ := exists_database_of_reopen h.database hopened
      · exact ⟨d', fun _ h => (Option.some.inj h).symm, hd', h.rows, h.ids⟩
      · -- without a table nothing was told
        obtain ⟨rows, hrows, htold⟩ := h.rows
        rw [hnone, Option.getD_none] at hrows
        obtain ⟨rfl, rfl⟩ := List.append_eq_nil_iff.1 hrows.symm
        have hnothing : s.told = [] := List.forall₂_nil_right_iff.1 htold
        refine ⟨d', fun _ h => (Option.some.inj h).symm, hd', ⟨[], by rw [hempty]; rfl, htold⟩, ?_⟩
        rw [hnothing]
        exact fun _ ht => nomatch ht

/-- Whatever is done with a trail, what is known of it stays known. -/
theorem Holds.step (h : s.Holds name earlier d) (act : Act) :
    ∃ d', (s.step name act).Holds name earlier d' := by
  cases act with
  | record e => exact h.step_record e
  | close => exact ⟨d, (fun _ hopen => nomatch hopen), h.database, h.rows, h.ids⟩
  | reopen path => exact h.step_reopen path

theorem Holds.run (h : s.Holds name earlier d) (acts : List Act) :
    ∃ d', (s.run name acts).Holds name earlier d' := by
  induction acts generalizing s d with
  | nil => exact ⟨d, h⟩
  | cons act rest ih =>
      obtain ⟨d', h'⟩ := h.step act
      exact ih h'

/-! ## Records -/

/-- Whether a record puts the row of an entry behind the others, under a number greater than all. -/
def Appends (s : Usage) (name : String) (rows : List Row) (e : AuditEntry) : Prop :=
  ∃ id row, Row.ofEntry id e = .ok row ∧ (∀ t ∈ s.told, t.1 < id) ∧ (∀ r ∈ rows, r.id < id) ∧
    (s.trail.record e).run s.files =
      (.ok id, Table.set name (.database { table? := some (rows ++ [row]), lastId := id }) s.files)

/-- Whether a record fails and leaves the files as they were. -/
def Refuses (s : Usage) (e : AuditEntry) : Prop :=
  ∃ f, (s.trail.record e).run s.files = (.error f, s.files)

theorem Holds.appends (h : s.Holds name earlier d) (hopen : s.trail.file? = some name)
    (htable : d.table?.isSome) {r : Row} (hrow : Row.ofEntry 0 e = .ok r) :
    ∃ rows, d.table? = some rows ∧ s.Appends name rows e := by
  obtain ⟨rows, htable⟩ := Option.isSome_iff_exists.1 htable
  refine ⟨rows, htable, d.nextId, { r with id := d.nextId }, ofEntry_renumbered hrow d.nextId, ?_,
    Database.id_lt_nextId htable, run_record_of_row hopen h.database htable hrow⟩
  exact fun t ht => Nat.lt_of_le_of_lt (h.ids t ht) d.lastId_lt_nextId

theorem Holds.refuses_iff (h : s.Holds name earlier d) :
    s.Refuses e ↔ ¬(s.trail.file? = some name ∧ d.table?.isSome ∧ ∃ r, Row.ofEntry 0 e = .ok r) := by
  refine ⟨?_, h.run_record_of_not⟩
  rintro ⟨f, hrun⟩ ⟨hopen, htable, r, hrow⟩
  obtain ⟨rows, -, id, row, -, -, -, hrecord⟩ := h.appends hopen htable hrow
  rw [hrecord] at hrun
  cases hrun

/-! ## Queries -/

/-- The rows that a query selects: some of those before, and what it keeps of those that were told. -/
theorem Holds.exists_select (h : s.Holds name earlier d) (htold : s.told ≠ []) (sel : Selection) :
    ∃ front back kept, d.select sel = .ok (front ++ back) ∧
      front <:+ earlier.filter sel.accepts ∧
      (∀ n : Nat, sel.limit? = some (n : Int) ->
        n ≤ ((s.told.map Prod.snd).filter sel.wants).length -> front = []) ∧
      kept <:+ (s.told.map Prod.snd).filter sel.wants ∧
      kept.length = sel.room ((s.told.map Prod.snd).filter sel.wants).length ∧
      List.Forall₂ (fun e r => Row.Writes r e) kept back := by
  obtain ⟨rows, hrows, hwritten⟩ := h.rows
  have hwrites : List.Forall₂ (fun e r => Row.Writes r e) (s.told.map Prod.snd) rows :=
    List.forall₂_map_left_iff.2 (hwritten.imp fun t _ hrow => ⟨t.1, hrow⟩)
  have hwanted : ((s.told.map Prod.snd).filter sel.wants).length =
      (rows.filter sel.accepts).length := by
    refine (List.rel_filter (fun e r hrow => ?_) hwrites).length_eq
    simp only [sel.accepts_of_writes hrow]
  have htable : d.table? = some (earlier ++ rows) := by
    cases hd : d.table? with
    | some table => rw [← hrows, hd, Option.getD_some]
    | none =>
        rw [hd, Option.getD_none] at hrows
        obtain ⟨-, rfl⟩ := List.append_eq_nil_iff.1 hrows.symm
        exact absurd (List.forall₂_nil_right_iff.1 hwritten) htold
  obtain ⟨front, hfront, hkeep, hlimit⟩ :=
    sel.exists_keep_append (earlier.filter sel.accepts) (rows.filter sel.accepts)
  obtain ⟨back, kept, hback, hsuffix, hlength, hkept⟩ :=
    Database.Writes.select (d := { table? := some rows }) ⟨rows, rfl, hwrites⟩ sel
  obtain rfl : sel.keep (rows.filter sel.accepts) = back := Except.ok.inj hback
  refine ⟨front, _, kept, ?_, hfront, ?_, hsuffix, hlength, hkept⟩
  · rw [Database.select, Database.rows, htable, ← hkeep, ← List.filter_append]
    rfl
  · exact fun n hn hle => hlimit n hn (hwanted ▸ hle)

/--
Whether a query lists entries of rows that were there before, and behind them the entries that were
told, as they were but for their contexts: those that it wants, or the newest that its limit leaves.
-/
def Lists (s : Usage) (earlier : List Row) (sel : Selection) : Prop :=
  ∃ front before kept found, s.trail.list sel s.files = .ok (before ++ found) ∧
    front <:+ earlier.filter sel.accepts ∧
    List.Forall₂ (fun r e => Row.entry r = .ok e) front before ∧
    kept <:+ (s.told.map Prod.snd).filter sel.wants ∧
    kept.length = sel.room ((s.told.map Prod.snd).filter sel.wants).length ∧
    List.Forall₂ AuditEntry.KeptAs kept found

/-- A query fails at most for a row of those before that it selects and that is no entry. -/
theorem Holds.lists (h : s.Holds name earlier d) (hopen : s.trail.file? = some name)
    (htold : s.told ≠ []) (hdated : ∀ t ∈ s.told, t.2.Dated) {sel : Selection} (hshort : sel.Short)
    (hearlier : (∀ r ∈ earlier, sel.accepts r = true -> ∃ e, r.entry = .ok e) ∨
      ∃ n : Nat, sel.limit? = some (n : Int) ∧
        n ≤ ((s.told.map Prod.snd).filter sel.wants).length) :
    s.Lists earlier sel := by
  obtain ⟨front, back, kept, hselect, hfront, hlimit, hsuffix, hlength, hkept⟩ :=
    h.exists_select htold sel
  have hreadable : ∀ r ∈ front, ∃ e, r.entry.mapError TrailFault.unreadable = .ok e := by
    intro r hr
    simp only [mapError_eq_ok_iff]
    obtain hread | ⟨n, hn, hle⟩ := hearlier
    · obtain ⟨hmem, haccepts⟩ := List.mem_filter.1 (hfront.subset hr)
      exact hread r hmem haccepts
    · rw [hlimit n hn hle] at hr
      cases hr
  have hback : List.Forall₂ (fun e r => ∃ e', Row.entry r = .ok e' ∧ e.KeptAs e') kept back := by
    have hdates : ∀ e ∈ kept, e.Dated := by
      intro e he
      obtain ⟨t, ht, rfl⟩ := List.mem_map.1 (List.mem_filter.1 (hsuffix.subset he)).1
      exact hdated t ht
    refine ((List.forall₂_and_left kept back).2 ⟨hdates, hkept⟩).imp ?_
    exact fun e r ⟨hdate, hrow⟩ => hrow.exists_keptAs hdate
  obtain ⟨before, hbefore⟩ := exists_mapM_eq_ok_iff.2 hreadable
  obtain ⟨found, hfound, hall⟩ := Database.exists_entries_of_rows hback
  have hfound' := mapM_eq_ok_iff.1 hbefore
  simp only [mapError_eq_ok_iff] at hfound'
  refine ⟨front, before, kept, found, ?_, hfront, hfound', hsuffix, hlength, hall⟩
  have hcontent := Files.get?_of_select h.database hselect
  rw [Connection.list_of_open hopen, (Files.list_of_select hcontent hselect).1 hshort]
  exact mapM_eq_ok_iff.2 (List.rel_append (mapM_eq_ok_iff.1 hbefore) (mapM_eq_ok_iff.1 hfound))

/--
However a trail has been used, the rows of the entries that were told stand in order behind those
that were there at first.  A record puts one more row behind them, under a number greater than all,
or changes nothing; it does the latter exactly if the trail is closed, has no table, or the entry
has no row, whichever records failed before.  And queries list the entries that were told.
-/
theorem recording_all_or_nothing (hd : files.database name = .ok d) (acts : List Act)
    (hs : (start name files).run name acts = s) :
    ∃ now, s.Holds name (d.table?.getD []) now ∧
      (∀ e, (∃ rows, now.table? = some rows ∧ s.Appends name rows e) ∨ s.Refuses e) ∧
      (∀ e, s.Refuses e ↔
        ¬(s.trail.file? = some name ∧ now.table?.isSome ∧ ∃ r, Row.ofEntry 0 e = .ok r)) ∧
      ∀ sel : Selection, sel.Short -> s.trail.file? = some name -> s.told ≠ [] ->
        (∀ t ∈ s.told, t.2.Dated) ->
        ((∀ r ∈ d.table?.getD [], sel.accepts r = true -> ∃ e, r.entry = .ok e) ∨
          ∃ n : Nat, sel.limit? = some (n : Int) ∧
            n ≤ ((s.told.map Prod.snd).filter sel.wants).length) ->
        s.Lists (d.table?.getD []) sel := by
  obtain ⟨now, hnow⟩ := (holds_start hd).run acts
  rw [hs] at hnow
  refine ⟨now, hnow, fun e => ?_, fun e => hnow.refuses_iff, ?_⟩
  · by_cases hwell : s.trail.file? = some name ∧ now.table?.isSome ∧ ∃ r, Row.ofEntry 0 e = .ok r
    · obtain ⟨hopen, htable, r, hrow⟩ := hwell
      exact .inl (hnow.appends hopen htable hrow)
    · exact .inr (hnow.run_record_of_not hwell)
  · exact fun sel hshort hopen htold hdated hearlier =>
      hnow.lists hopen htold hdated hshort hearlier

/-! ## A trail that goes on behind a failure -/

/-- An entry in a context that has no text. -/
def muted : AuditEntry :=
  { visit false "files.write" 1 with context := [("note", .mute "no text")] }

/-- A record, one that fails, the trail opened again, and another record. -/
def visited : List Act :=
  [ .record (visit true "files.read" 0), .record muted, .reopen "t",
    .record (visit false "files.write" 2) ]

theorem muted_has_no_row : ¬∃ r, Row.ofEntry 0 muted = .ok r := by
  rintro ⟨r, h⟩
  obtain ⟨context, -, hcontext, -⟩ := exists_documents h
  have hnone : Json.ofValue contextForm muted.context.toValue = .error (.noText ⟨"no text"⟩) := by
    simp [muted, Context.toValue, Json.ofValue, Json.memberDocuments, Json.ofMembers, contextForm,
      Json.areOrdered, Json.sortMembers, Json.keyText, Json.ofText, Value.text]
    rfl
  rw [hnone] at hcontext
  cases hcontext

theorem exists_run_visited :
    ∃ files, (start "t" [("t", .database { table? := some [] })]).run "t" visited =
      { trail := { file? := some "t" }, files
        told := [(1, visit true "files.read" 0), (2, visit false "files.write" 2)] } := by
  obtain ⟨r₁, -, hrow₁, -⟩ := entry_ofEntry 0 (valid_visit true "files.read" (by decide : 0 < 86400))
  obtain ⟨r₂, -, hrow₂, -⟩ :=
    entry_ofEntry 0 (valid_visit false "files.write" (by decide : 2 < 86400))
  let first : Database := { table? := some [{ r₁ with id := 1 }], lastId := 1 }
  let second : Database := { table? := some [{ r₁ with id := 1 }, { r₂ with id := 2 }], lastId := 2 }
  let s₁ : Usage :=
    { trail := { file? := some "t" }, files := [("t", .database first)]
      told := [(1, visit true "files.read" 0)] }
  have hfirst : (start "t" [("t", .database { table? := some [] })]).step "t"
      (.record (visit true "files.read" 0)) = s₁ := by
    rw [step, run_record_of_row rfl rfl rfl hrow₁]
    rfl
  have hmuted : s₁.step "t" (.record muted) = s₁ := by
    rw [step, Connection.run_record rfl, Files.record_eq rfl]
    cases hrow : Row.ofEntry 0 muted with
    | error f => rfl
    | ok r => exact absurd ⟨r, hrow⟩ muted_has_no_row
  have hreopened : s₁.step "t" (.reopen "t") = s₁ := by
    have hkept : s₁.files.kept = s₁.files := by
      have hcontent := Content.ofKept_toText (d := first) rfl
      exact congrArg (fun content => [("t", content)]) hcontent
    have hopened : s₁.files.kept.openTrail "t" "t" = .ok s₁.files := by
      rw [hkept, Files.openTrail, Files.canHold_plain]
      rfl
    rw [step, hopened]
  refine ⟨[("t", .database second)], ?_⟩
  simp only [run, visited, List.foldl_cons, List.foldl_nil, hfirst, hmuted, hreopened]
  rw [step, run_record_of_row rfl rfl rfl hrow₂]
  rfl

theorem recording_all_or_nothing_visited :
    ∃ s found, (start "t" [("t", .database { table? := some [] })]).run "t" visited = s ∧
      s.told = [(1, visit true "files.read" 0), (2, visit false "files.write" 2)] ∧
      s.Refuses muted ∧ s.trail.list {} s.files = .ok found ∧
      List.Forall₂ AuditEntry.KeptAs [visit true "files.read" 0, visit false "files.write" 2]
        found := by
  obtain ⟨files, hrun⟩ := exists_run_visited
  obtain ⟨now, -, -, hrefuses, hlists⟩ := recording_all_or_nothing rfl visited hrun
  have hdated : ∀ granted permission second, second < 86400 ->
      (visit granted permission second).Dated := by
    intro granted permission second hsecond
    have hvalid := valid_visit granted permission hsecond
    exact ⟨hvalid.timestamp, hvalid.result⟩
  have hall := List.forall_mem_cons.2 ⟨hdated true "files.read" 0 (by decide),
    List.forall_mem_singleton.2 (hdated false "files.write" 2 (by decide))⟩
  obtain ⟨front, before, kept, found, hfound, hfront, hbefore, hkept, hlength, hread⟩ :=
    hlists {} (fun limit h => nomatch h) rfl (List.cons_ne_nil _ _)
      (fun t ht => hall t.2 (List.mem_map_of_mem ht)) (.inl fun r hr => nomatch hr)
  obtain rfl := List.suffix_nil.1 hfront
  cases hbefore
  obtain rfl := hkept.eq_of_length hlength
  exact ⟨_, found, hrun, rfl, (hrefuses muted).2 fun h => muted_has_no_row h.2.2, hfound, hread⟩

end Usage

end Trail

end Clearance
