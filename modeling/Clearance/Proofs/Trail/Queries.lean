import Clearance.Proofs.Trail.Mirror
import Clearance.Proofs.Trail.Recall

/-!
# What a trail lists

A trail has a row for every entry that was recorded, in order, also after it was closed and opened
again.  So a query lists what remains of the entries that are wanted: all of them, or the newest
that a limit leaves, oldest first.
-/

namespace Clearance.Trail

/-! ## Trails and what was recorded in them -/

/-- Whether a row was written of an entry. -/
def Row.Writes (r : Row) (e : AuditEntry) : Prop :=
  ∃ id, Row.ofEntry id e = .ok r

namespace Row.Writes

variable {r : Row} {e : AuditEntry}

theorem granted (h : r.Writes e) : r.granted = .int (if e.result.granted then 1 else 0) := by
  obtain ⟨id, hrow⟩ := h
  obtain ⟨context, result, -, -, rfl⟩ := exists_documents hrow
  rfl

theorem permission (h : r.Writes e) : r.permission = .text e.permission := by
  obtain ⟨id, hrow⟩ := h
  obtain ⟨context, result, -, -, rfl⟩ := exists_documents hrow
  rfl

theorem source (h : r.Writes e) : r.source = .text e.result.source.name := by
  obtain ⟨id, hrow⟩ := h
  obtain ⟨context, result, -, -, rfl⟩ := exists_documents hrow
  rfl

/-- A row is read alike whatever its number. -/
theorem entry_of_readAs (h : r.Writes e) {e' : AuditEntry} (hread : e.ReadAs e') :
    r.entry = .ok e' := by
  obtain ⟨id, hrow⟩ := h
  obtain ⟨r', hrow', hentry⟩ := hread
  obtain rfl : r' = { r with id := 0 } :=
    Except.ok.inj (hrow'.symm.trans (ofEntry_renumbered hrow 0))
  exact hentry

end Row.Writes

/-- Whether the rows of a trail were written of entries, in order. -/
def Database.Writes (d : Database) (entries : List AuditEntry) : Prop :=
  ∃ rows, d.table? = some rows ∧ List.Forall₂ (fun e r => Row.Writes r e) entries rows

/--
The entries that were recorded in a file since its trail was made.  In between the file may have
been closed and opened again.
-/
inductive Files.Recorded (name : String) : List AuditEntry -> Files -> Prop where
  | made {files opened : Files} {path : String} (new : Table.get? name files = none)
      (opens : files.openTrail name path = .ok opened) : Recorded name [] opened
  | record {entries : List AuditEntry} {files files' : Files} {e : AuditEntry} {id : Nat}
      (before : Recorded name entries files) (records : files.record name e = .ok (id, files')) :
      Recorded name (entries ++ [e]) files'
  | reopened {entries : List AuditEntry} {files opened : Files} {path : String}
      (before : Recorded name entries files) (opens : files.kept.openTrail name path = .ok opened) :
      Recorded name entries opened

variable {name : String} {entries : List AuditEntry} {files : Files} {d : Database}

/-- A file that is opened holds the database that was there, with its table in place. -/
theorem get?_of_openTrail {path : String} {opened : Files}
    (h : files.openTrail name path = .ok opened)
    (hcontent : (Table.get? name files).getD (.database {}) = .database d) :
    Table.get? name opened = some (.database d.prepare) := by
  rw [Files.openTrail] at h
  split at h
  · cases h
  · rw [hcontent] at h
    cases h
    rw [Table.get?_set, if_pos rfl]

/-- An entry that is recorded has the next row. -/
theorem Database.Writes.record (h : d.Writes entries) {e : AuditEntry} {id : Nat} {d' : Database}
    (hrecord : d.record e = .ok (id, d')) : d'.Writes (entries ++ [e]) := by
  obtain ⟨rows, htable, hrows⟩ := h
  rw [Database.record, htable] at hrecord
  obtain ⟨row, hrow, hrest⟩ := exists_of_bind_ok hrecord
  cases hrest
  exact ⟨rows ++ [row], rfl, List.rel_append hrows (.cons ⟨_, of_mapError_ok hrow⟩ .nil)⟩

/-- The trail of a file has a row for each entry that was recorded. -/
theorem Files.Recorded.exists_database (h : Files.Recorded name entries files) :
    ∃ d, Table.get? name files = some (.database d) ∧ d.Writes entries := by
  induction h with
  | made new opens =>
      refine ⟨Database.prepare {}, get?_of_openTrail opens ?_, [], rfl, .nil⟩
      rw [new]
      rfl
  | record _ records ih =>
      obtain ⟨d, hcontent, hwrites⟩ := ih
      rw [Files.record] at records
      obtain ⟨-, -, records⟩ := exists_of_bind_ok records
      obtain ⟨d', hd', records⟩ := exists_of_bind_ok records
      obtain ⟨⟨id, d''⟩, hd'', records⟩ := exists_of_bind_ok records
      cases records
      have hsame : d' = d := by
        have hfound := of_mapError_ok hd'
        rw [Files.database, hcontent] at hfound
        exact (Except.ok.inj hfound).symm
      subst hsame
      exact ⟨d'', by rw [Table.get?_set, if_pos rfl], hwrites.record (of_mapError_ok hd'')⟩
  | @reopened entries files opened path _ opens ih =>
      obtain ⟨d, hcontent, rows, htable, hrows⟩ := ih
      have hprepare : d.prepare = d := by
        rw [Database.prepare, htable]
      have hkept : Table.get? name files.kept = some (.database d) := by
        rw [Files.get?_kept, hcontent, Option.map_some, Content.ofKept_toText (by rw [htable]; rfl)]
      have hopened := @get?_of_openTrail name files.kept d path opened opens (by rw [hkept]; rfl)
      rw [hprepare] at hopened
      exact ⟨d, hopened, rows, htable, hrows⟩

/-- An entry that has a row is recorded. -/
theorem Files.Recorded.exists_record (h : Files.Recorded name entries files) {e : AuditEntry}
    {r : Row} (hrow : Row.ofEntry 0 e = .ok r) :
    ∃ id files', files.record name e = .ok (id, files') := by
  obtain ⟨d, hcontent, rows, htable, -⟩ := h.exists_database
  obtain ⟨d', hrecord⟩ : ∃ d', d.record e = .ok (d.nextId, d') := by
    rw [Database.record, ofEntry_renumbered hrow d.nextId, htable]
    exact ⟨_, rfl⟩
  refine ⟨d.nextId, Table.set name (.database d') files, ?_⟩
  rw [Files.record, hrow, Files.database, hcontent]
  simp only [bind, Except.bind, Except.mapError, hrecord]
  rfl

/-- Further entries that have rows are recorded one after the other. -/
theorem Files.Recorded.exists_append (h : Files.Recorded name entries files)
    {further : List AuditEntry} (hrows : ∀ e ∈ further, ∃ r, Row.ofEntry 0 e = .ok r) :
    ∃ recorded, Files.Recorded name (entries ++ further) recorded := by
  induction further generalizing entries files with
  | nil => exact ⟨files, by rwa [List.append_nil]⟩
  | cons e rest ih =>
      obtain ⟨⟨r, hrow⟩, hrest⟩ := List.forall_mem_cons.1 hrows
      obtain ⟨id, files', hrecord⟩ := h.exists_record hrow
      rw [List.append_cons]
      exact ih (h.record hrecord) hrest

/-! ## Selections -/

namespace Selection

/-- Whether an entry is wanted. -/
def wants (s : Selection) (e : AuditEntry) : Bool :=
  (s.filter?.all fun f => f.accepts e) && s.permission?.all fun p => e.permission == p

/-- How many of the entries that are wanted are kept. -/
def room (s : Selection) (wanted : Nat) : Nat :=
  match s.limit? with
  | none => wanted
  | some limit => if 0 ≤ limit then min limit.toNat wanted else wanted

/-- The limit, if there is one, has 64 bits. -/
def Short (s : Selection) : Prop :=
  ∀ limit, s.limit? = some limit -> -2 ^ 63 ≤ limit ∧ limit < 2 ^ 63

theorem accepts_of_writes (s : Selection) {r : Row} {e : AuditEntry} (h : r.Writes e) :
    s.accepts r = s.wants e := by
  have hfilter : ∀ f : AuditFilter,
      (r.granted == .int (if f = .granted then 1 else 0)) = f.accepts e := by
    intro f
    rw [h.granted, AuditFilter.accepts]
    cases f <;> cases e.result.granted <;> rfl
  have hpermission : ∀ p : String, (r.permission == .text p) = (e.permission == p) := by
    intro p
    rw [h.permission, Bool.eq_iff_iff, beq_iff_eq, beq_iff_eq, Cell.text.injEq]
  simp only [accepts, wants, hfilter, hpermission]

/-- A limit keeps the last rows, as many as it leaves. -/
theorem exists_kept (s : Selection) {rows : List Row}
    (h : List.Forall₂ (fun e r => Row.Writes r e) entries rows) :
    ∃ kept, kept <:+ entries ∧ kept.length = s.room entries.length ∧
      List.Forall₂ (fun e r => Row.Writes r e) kept (s.keep rows) := by
  obtain ⟨filter?, permission?, limit?⟩ := s
  rcases limit? with - | limit | limit
  · exact ⟨entries, List.suffix_refl _, rfl, h⟩
  · refine ⟨entries.drop (rows.length - limit), List.drop_suffix .., ?_, List.forall₂_drop _ h⟩
    rw [List.length_drop, ← h.length_eq, room]
    simp only [Int.ofNat_eq_natCast, Int.natCast_nonneg, if_true, Int.toNat_natCast]
    omega
  · exact ⟨entries, List.suffix_refl _, rfl, h⟩

end Selection

theorem Database.Writes.select (h : d.Writes entries) (s : Selection) :
    ∃ rows kept, d.select s = .ok rows ∧ kept <:+ entries.filter s.wants ∧
      kept.length = s.room (entries.filter s.wants).length ∧
      List.Forall₂ (fun e r => Row.Writes r e) kept rows := by
  obtain ⟨rows, htable, hrows⟩ := h
  have hwanted : List.Forall₂ (fun e r => Row.Writes r e) (entries.filter s.wants)
      (rows.filter s.accepts) := by
    refine List.rel_filter (fun e r hrow => ?_) hrows
    simp only [s.accepts_of_writes hrow]
  obtain ⟨kept, hsuffix, hlength, hkept⟩ := s.exists_kept hwanted
  refine ⟨s.keep (rows.filter s.accepts), kept, ?_, hsuffix, hlength, hkept⟩
  rw [Database.select, Database.rows, htable]
  rfl

/-! ## Queries -/

theorem Files.list_of_select {s : Selection} {rows : List Row}
    (hcontent : Table.get? name files = some (.database d)) (hselect : d.select s = .ok rows) :
    (s.Short -> files.list name s = rows.mapM fun r => r.entry.mapError TrailFault.unreadable) ∧
      (¬ s.Short -> files.list name s = .error .limit) := by
  obtain ⟨bound, hbound⟩ : ∃ bound : Int, bound = (Nat.pow 2 63 : Nat) := ⟨_, rfl⟩
  have hany : (s.limit?.any fun n => n < -bound || bound ≤ n) = true ↔ ¬ s.Short := by
    rw [Selection.Short, hbound]
    cases s.limit? with
    | none => simp
    | some limit =>
        simp only [Option.any_some, Bool.or_eq_true, decide_eq_true_eq, Option.some.injEq,
          forall_eq', Nat.pow_eq]
        omega
  rw [Files.list, look_of_database hcontent hselect]
  subst hbound
  exact ⟨fun hshort => if_neg fun h => hany.1 h hshort, fun hlong => if_pos (hany.2 hlong)⟩

/-- A query whose limit has 64 bits lists what remains of the entries that it keeps. -/
theorem Files.Recorded.exists_list (h : Files.Recorded name entries files)
    (hread : ∀ e ∈ entries, ∃ e', e.ReadAs e') {s : Selection} (hshort : s.Short) :
    ∃ kept found, files.list name s = .ok found ∧ kept <:+ entries.filter s.wants ∧
      kept.length = s.room (entries.filter s.wants).length ∧
      List.Forall₂ AuditEntry.Recalled kept found := by
  obtain ⟨d, hcontent, hwrites⟩ := h.exists_database
  obtain ⟨rows, kept, hselect, hsuffix, hlength, hkept⟩ := hwrites.select s
  have hrows : List.Forall₂ (fun e r => ∃ e', Row.entry r = .ok e' ∧ e.Recalled e') kept rows := by
    have hreads : ∀ e ∈ kept, ∃ e', e.ReadAs e' :=
      fun e he => hread e (List.mem_filter.1 (hsuffix.subset he)).1
    refine ((List.forall₂_and_left kept rows).2 ⟨hreads, hkept⟩).imp ?_
    rintro e r ⟨⟨e', he'⟩, hrow⟩
    exact ⟨e', hrow.entry_of_readAs he', recalled_of_readAs he'⟩
  obtain ⟨found, hfound, hall⟩ := Database.exists_entries_of_rows hrows
  exact ⟨kept, found, ((Files.list_of_select hcontent hselect).1 hshort).trans hfound, hsuffix,
    hlength, hall⟩

/-- Counting finds the entries that a filter accepts. -/
theorem Files.Recorded.count (h : Files.Recorded name entries files)
    (filter? : Option AuditFilter) :
    files.count name filter? =
      .ok (entries.filter (Selection.wants { filter? })).length := by
  obtain ⟨d, hcontent, hwrites⟩ := h.exists_database
  obtain ⟨rows, kept, hselect, -, hlength, hkept⟩ := hwrites.select { filter? }
  refine Files.look_of_database hcontent ?_
  rw [Database.count, hselect]
  exact congrArg Except.ok (hkept.length_eq.symm.trans hlength)

/--
A query lists what remains of the entries that are wanted, oldest first: the newest as many as its
limit leaves, and all of them if there is no limit or one below zero.  Counting finds as many as
are listed without a limit.  A limit that needs more than 64 bits is refused.
-/
theorem Files.list_selects_newest (h : Files.Recorded name entries files)
    (hread : ∀ e ∈ entries, ∃ e', e.ReadAs e') (s : Selection) :
    (s.Short -> ∃ kept found, files.list name s = .ok found ∧ kept <:+ entries.filter s.wants ∧
      kept.length = s.room (entries.filter s.wants).length ∧
      List.Forall₂ AuditEntry.Recalled kept found) ∧
    (¬ s.Short -> files.list name s = .error .limit) ∧
    ∃ found, files.list name { filter? := s.filter? } = .ok found ∧
      files.count name s.filter? = .ok found.length := by
  refine ⟨fun hshort => h.exists_list hread hshort, fun hlong => ?_, ?_⟩
  · obtain ⟨d, hcontent, hwrites⟩ := h.exists_database
    obtain ⟨rows, kept, hselect, -⟩ := hwrites.select s
    exact (Files.list_of_select hcontent hselect).2 hlong
  · have hunlimited : Selection.Short { filter? := s.filter? } := fun limit hlimit => nomatch hlimit
    obtain ⟨kept, found, hfound, -, hlength, hall⟩ := h.exists_list hread hunlimited
    refine ⟨found, hfound, ?_⟩
    rw [h.count, ← hall.length_eq, hlength]
    rfl

/-- An entry of the second day of the calendar, in an empty context. -/
def visit (granted : Bool) (permission : String) (second : Nat) : AuditEntry :=
  let moment : Timestamp := { wall := Time.microsPerDay + second * 1000000, offset := some 0 }
  { timestamp := moment, permission
    result :=
      { granted, permission := "files", timestamp := moment
        source := if granted then .grant else .default } }

theorem valid_visit (granted : Bool) (permission : String) {second : Nat} (h : second < 86400) :
    (visit granted permission second).Valid := by
  have hmoment : (visit granted permission second).timestamp.Portable := by
    refine ⟨?_, ?_⟩
    · change 86400 * 1000000 + second * 1000000 < _
      rw [Time.wallLimit, Time.dayCount_eq, Time.microsPerDay, Time.microsPerSecond]
      omega
    · rintro offset ⟨⟩
      exact ⟨0, by decide, by decide⟩
  have hempty : (Value.dict []).Plain :=
    @Value.Plain.dict [] List.nodup_nil fun f hf => absurd hf List.not_mem_nil
  refine ⟨hmoment, hempty, hempty, hmoment, ?_, ?_⟩
  · rintro t ⟨⟩
  · rintro r ⟨⟩

/-- Entries that can be told are recorded in a file of their own, and read from it. -/
theorem exists_recorded_of_valid {entries : List AuditEntry} (h : ∀ e ∈ entries, e.Valid) :
    ∃ files, Files.Recorded "t" entries files ∧ ∀ e ∈ entries, ∃ e', e.ReadAs e' := by
  have hopen : Files.openTrail "t" "t" [] = .ok [("t", .database (Database.prepare {}))] := by
    rw [Files.openTrail, Files.canHold_plain]
    rfl
  have hrows : ∀ e ∈ entries, ∃ e', e.ReadAs e' := by
    intro e he
    obtain ⟨r, e', hrow, -, -, hentry, -⟩ := entry_ofEntry 0 (h e he)
    exact ⟨e', r, hrow, hentry⟩
  obtain ⟨files, hfiles⟩ := (Files.Recorded.made rfl hopen).exists_append fun e he => by
    obtain ⟨e', r, hrow, -⟩ := hrows e he
    exact ⟨r, hrow⟩
  exact ⟨files, hfiles, hrows⟩

/-- Two reads and two writes, of which only the first read is granted. -/
def visits : List AuditEntry :=
  [ visit true "files.read" 0, visit false "files.write" 1, visit false "files.read" 2,
    visit false "files.write" 3 ]

theorem valid_visits : ∀ e ∈ visits, e.Valid := by
  simp only [visits, List.forall_mem_cons]
  exact ⟨valid_visit _ _ (by decide), valid_visit _ _ (by decide), valid_visit _ _ (by decide),
    valid_visit _ _ (by decide), fun e he => nomatch he⟩

theorem Files.list_selects_newest_write :
    ∃ files found, Files.Recorded "t" visits files ∧
      files.list "t"
          { filter? := some .denied, permission? := some "files.write", limit? := some 1 } =
        .ok found ∧
      found.map AuditEntry.timestamp = [(visit false "files.write" 3).timestamp] ∧
      ∃ denied, files.list "t" { filter? := some .denied } = .ok denied ∧
        files.count "t" (some .denied) = .ok denied.length := by
  obtain ⟨files, hrecorded, hread⟩ := exists_recorded_of_valid valid_visits
  obtain ⟨hlist, -, hcount⟩ := Files.list_selects_newest hrecorded hread
    { filter? := some .denied, permission? := some "files.write", limit? := some 1 }
  have hshort : Selection.Short
      { filter? := some .denied, permission? := some "files.write", limit? := some 1 } := by
    rintro limit ⟨⟩
    decide
  obtain ⟨kept, found, hfound, hsuffix, hlength, hall⟩ := hlist hshort
  have hkept : kept = [visit false "files.write" 3] := by
    rw [List.suffix_iff_eq_drop.1 hsuffix, hlength]
    rfl
  subst hkept
  obtain ⟨e', rest, hrecalled, hrest, rfl⟩ := List.forall₂_cons_left_iff.1 hall
  cases hrest
  have hagrees := hrecalled.agrees (valid_visit _ _ (by decide))
  exact ⟨files, [e'], hrecorded, hfound, congrArg (fun t => [t]) hagrees.timestamp.symm, hcount⟩

/-- A limit that would keep everything is refused when it needs more than 64 bits. -/
theorem Files.list_refuses_long_limit :
    ∃ files, Files.Recorded "t" visits files ∧ (∀ e ∈ visits, ∃ e', e.ReadAs e') ∧
      files.list "t" { limit? := some (2 ^ 63) } = .error .limit := by
  obtain ⟨files, hrecorded, hread⟩ := exists_recorded_of_valid valid_visits
  obtain ⟨d, hcontent, hwrites⟩ := hrecorded.exists_database
  obtain ⟨rows, kept, hselect, -⟩ := hwrites.select { limit? := some (2 ^ 63) }
  refine ⟨files, hrecorded, hread, (Files.list_of_select hcontent hselect).2 fun hshort => ?_⟩
  exact absurd (hshort _ rfl).2 (by decide)

end Clearance.Trail
