import Clearance.Report.Console
import Clearance.Proofs.Decimal.Digits
import Clearance.Proofs.Printed.Display
import Clearance.Proofs.Results

/-!
# Reports that can be shown

A report puts the texts of its entries into markup.  It can be shown exactly if the permission and
the details of each entry can; everything else in it can be shown whatever the entries are.  So it
is shown where no text of an entry has a tag that closes a style.
-/

namespace Clearance

/-! ## Names that are counted -/

theorem Counts.mem_of_mem_names_ofList {name : String} {names : List String}
    (h : name ∈ Table.names (Counts.ofList names)) : name ∈ names := by
  suffices hfold : ∀ c : Counts,
      name ∈ Table.names (names.foldl (fun (c : Counts) name => c.add name) c) ->
        name ∈ Table.names c ∨ name ∈ names from
    (hfold [] h).resolve_left List.not_mem_nil
  clear h
  induction names with
  | nil => exact fun c h => .inl h
  | cons first rest ih =>
      intro c h
      obtain h | h := ih (c.add first) h
      · obtain rfl | h := Table.mem_names_set.1 h
        · exact .inr List.mem_cons_self
        · exact .inl h
      · exact .inr (List.mem_cons_of_mem first h)

namespace Report

open Printed

variable (standard : String -> String) {verbose : Bool} {e : AuditEntry} {entries : List AuditEntry}

/-! ## Numbers and times -/

theorem isBracket_of_isDigit {c : Char} (h : Decimal.isDigit c = true) : isBracket c = false := by
  cases hbracket : isBracket c with
  | false => rfl
  | true =>
      rw [isBracket, Bool.or_eq_true, beq_iff_eq, beq_iff_eq] at hbracket
      obtain rfl | rfl := hbracket <;> exact absurd h (by decide)

theorem bare_natText (n : Nat) : Bare (Decimal.natText n).toList := by
  intro c hc
  rw [Decimal.toList_natText] at hc
  exact isBracket_of_isDigit (Decimal.isDigit_digitChars hc)

theorem bare_intText (n : Int) : Bare (Decimal.intText n).toList := by
  rw [Decimal.toList_intText, bare_append]
  refine ⟨by split <;> decide, fun c hc => ?_⟩
  exact isBracket_of_isDigit (Decimal.isDigit_digitChars hc)

theorem bare_padLeft (width n : Nat) : Bare (Decimal.padLeft width n).toList :=
  fun _ hc => isBracket_of_isDigit (Decimal.isDigit_padLeft hc)

theorem bare_hourMinuteSecond (c : Time.Clock) : Bare (Timestamp.hourMinuteSecond c).toList := by
  simp only [Timestamp.hourMinuteSecond, String.toList_append, bare_append]
  exact ⟨⟨⟨⟨bare_padLeft _ _, by decide⟩, bare_padLeft _ _⟩, by decide⟩, bare_padLeft _ _⟩

theorem bare_plainText (t : Timestamp) : Bare t.plainText.toList := by
  simp only [Timestamp.plainText, String.toList_append, bare_append]
  exact ⟨⟨⟨⟨⟨⟨bare_natText _, by decide⟩, bare_padLeft _ _⟩, by decide⟩, bare_padLeft _ _⟩,
    by decide⟩, bare_hourMinuteSecond _⟩

theorem bare_source (source : Source) : Bare source.name.toList := by
  cases source <;> decide

/-! ## Cells -/

variable {standard}

theorem isSome_display?_of_bare {s : String} (h : Bare s.toList) : (display? standard s).isSome :=
  Harmless.isSome_display? h.verbatim.unclosing.harmless

theorem isSome_display?_styled {style text : String} (hstyle : style ∈ styles)
    (h : Unclosing text.toList) : (display? standard (styled style text)).isSome :=
  Harmless.isSome_display? (harmless_styled (isStyle_of_mem _ hstyle) h)

theorem isSome_display?_mark (d : Decision) : (display? standard (mark d)).isSome := by
  unfold mark
  split
  · exact isSome_display?_styled (by decide) (by decide)
  · split
    · exact isSome_display?_styled (by decide) (by decide)
    · exact isSome_display?_styled (by decide) (by decide)

theorem isSome_display?_countText {style : String} (hstyle : style ∈ styles) (n : Nat) :
    (display? standard (countText style n)).isSome := by
  unfold countText
  split
  · exact isSome_display?_of_bare (by decide)
  · exact isSome_display?_styled hstyle (bare_natText n).verbatim.unclosing

/-- A name that is counted is shown if it can be shown on its own. -/
theorem isSome_display?_counted {name : String} (n : Nat)
    (h : (display? standard name).isSome) : (display? standard (counted name n)).isSome := by
  have htext : (counted name n).toList =
      "  • ".toList ++ (name.toList ++ (" (" ++ Decimal.natText n ++ ")").toList) := by
    simp [counted]
  have hcount : Bare (" (" ++ Decimal.natText n ++ ")").toList := by
    simp only [String.toList_append, bare_append]
    exact ⟨⟨by decide, bare_natText n⟩, by decide⟩
  rw [isSome_display?] at h ⊢
  have hmark : Literal "  • ".toList := by decide
  rw [pieces, htext, hmark.piecesFrom_append, openedBy_append, openedBy_map_char,
    Option.bind_some, openedBy_append_bare _ hcount]
  exact h

/-! ## Details -/

/-- What the details of an entry are made of. -/
inductive IsPart (verbose : Bool) (e : AuditEntry) : String -> Prop
  | reason {r style : String} (hreason : e.result.reason = some r) (hstyle : style ∈ styles) :
      IsPart verbose e (styled style r)
  | told {text : String} (htext : Bare text.toList) : IsPart verbose e (styled "dim" text)
  | rule {r : Rule} (hrule : e.result.rule = some r) :
      IsPart verbose e (styled "dim" ("rule: " ++ r.pattern))
  | context {text : String} (hverbose : verbose = true) (htext : contextText e.context = .ok text) :
      IsPart verbose e (styled "dim" "context:" ++ " " ++ text)

theorem exists_contextText {c : Context} (h : ∀ detail ∈ c, ∃ text, detail.2.text = .ok text) :
    ∃ text, contextText c = .ok text := by
  have hpart : ∀ detail ∈ c, ∃ part,
      (do return detail.1 ++ "=" ++ cut 40 (<- detail.2.text) : Except Value.NoText String) =
        .ok part := by
    intro detail hdetail
    obtain ⟨text, htext⟩ := h detail hdetail
    exact ⟨_, by rw [htext]; rfl⟩
  obtain ⟨parts, hparts⟩ := exists_mapM_eq_ok_iff.2 hpart
  exact ⟨_, by rw [contextText, hparts]; rfl⟩

theorem forall_mem_toList_map {α β : Type} {P : β -> Prop} {f : α -> β} {a? : Option α} :
    (∀ b ∈ (a?.map f).toList, P b) ↔ ∀ a, a? = some a -> P (f a) := by
  cases a? <;> simp

theorem isPart_of_mem_reason {part : String}
    (h : part ∈
      match e.result.reason with
      | some r => if r.isEmpty then [] else [styled (if e.result.granted then "dim" else "yellow") r]
      | none => []) :
    IsPart verbose e part := by
  split at h
  · rename_i r hreason
    split at h
    · exact absurd h List.not_mem_nil
    · obtain rfl := List.mem_singleton.1 h
      exact .reason hreason (by split <;> decide)
  · exact absurd h List.not_mem_nil

theorem exists_parts (verbose : Bool) (h : ∃ text, contextText e.context = .ok text) :
    ∃ parts, details verbose e = .ok ("\n".intercalate parts) ∧ ∀ p ∈ parts, IsPart verbose e p := by
  obtain ⟨text, htext⟩ := h
  have hexpiry : ∀ t, e.result.expiresAt = some t ->
      IsPart verbose e (styled "dim" ("expires " ++ t.plainText)) := by
    intro t _
    refine .told ?_
    rw [String.toList_append, bare_append]
    exact ⟨by decide, bare_plainText t⟩
  have huses : ∀ n, e.result.remainingUses = some n ->
      IsPart verbose e (styled "dim" (Decimal.intText n ++ " use(s) left")) := by
    intro n _
    refine .told ?_
    rw [String.toList_append, bare_append]
    exact ⟨bare_intText n, by decide⟩
  have hrule : ∀ r, e.result.rule = some r ->
      IsPart verbose e (styled "dim" ("rule: " ++ r.pattern)) := fun _ => .rule
  rw [details, htext]
  cases hwanted : verbose && !e.context.isEmpty with
  | false =>
      refine ⟨_, rfl, ?_⟩
      simp only [List.forall_mem_append, forall_mem_toList_map]
      exact ⟨⟨⟨⟨fun _ => isPart_of_mem_reason, hexpiry⟩, huses⟩, hrule⟩, fun _ hp => nomatch hp⟩
  | true =>
      have hverbose : verbose = true := (Bool.and_eq_true_iff.1 hwanted).1
      refine ⟨_, rfl, ?_⟩
      simp only [List.forall_mem_append, forall_mem_toList_map, List.forall_mem_singleton]
      exact ⟨⟨⟨⟨fun _ => isPart_of_mem_reason, hexpiry⟩, huses⟩, hrule⟩, .context hverbose htext⟩

/-- Whether no text of an entry closes a style. -/
structure Quiet (verbose : Bool) (e : AuditEntry) : Prop where
  permission : Unclosing e.permission.toList
  reason : ∀ r, e.result.reason = some r -> Unclosing r.toList
  rule : ∀ r, e.result.rule = some r -> Unclosing r.pattern.toList
  context : verbose = true -> ∀ text, contextText e.context = .ok text -> Unclosing text.toList

theorem IsPart.harmless {part : String} (h : IsPart verbose e part) (hquiet : Quiet verbose e) :
    Harmless standard part.toList ∧ part.toList.head? = some '[' := by
  have hdim : IsStyle "dim" := isStyle_of_mem _ (by decide)
  have hopens : ∀ style text : String, (styled style text).toList.head? = some '[' := by
    intro style text
    rw [toList_styled]
    rfl
  cases h with
  | @reason r style hreason hstyle =>
      exact ⟨harmless_styled (isStyle_of_mem _ hstyle) (hquiet.reason r hreason), hopens _ _⟩
  | told htext => exact ⟨harmless_styled hdim htext.verbatim.unclosing, hopens _ _⟩
  | @rule r hrule =>
      have htext : Unclosing ("rule: " ++ r.pattern).toList := by
        rw [String.toList_append]
        exact (hquiet.rule r hrule).literal_append (by decide)
      exact ⟨harmless_styled hdim htext, hopens _ _⟩
  | @context text hverbose htext =>
      have htail : Harmless standard text.toList := (hquiet.context hverbose text htext).harmless
      constructor
      · intro t hfirst hsteady
        rw [String.toList_append, String.toList_append, List.append_assoc, List.append_assoc]
        exact steady_styled hdim (by decide)
          (steady_char (by decide) (by decide) (htail t hfirst hsteady) 0)
      · rw [String.toList_append, String.toList_append, toList_styled]
        rfl

/-! ## The table -/

/-- Whether a report can show an entry. -/
def CanShow (standard : String -> String) (verbose : Bool) (e : AuditEntry) : Prop :=
  (display? standard e.permission).isSome ∧
    ∃ text, details verbose e = .ok text ∧ (display? standard text).isSome

theorem Quiet.canShow (h : Quiet verbose e) (hcontext : ∃ text, contextText e.context = .ok text) :
    CanShow standard verbose e := by
  obtain ⟨parts, hdetails, hare⟩ := exists_parts verbose hcontext
  refine ⟨h.permission.harmless.isSome_display?, _, hdetails, ?_⟩
  rw [isSome_display?]
  exact steady_lines (fun part hpart => (hare part hpart).harmless h) []

variable (standard) in
theorem exists_row (index : Nat) (h : ∃ text, details verbose e = .ok text) :
    ∃ cells, row verbose index e = .ok cells ∧
      ((∀ cell ∈ cells, (display? standard cell).isSome) ↔ CanShow standard verbose e) := by
  obtain ⟨text, htext⟩ := h
  refine ⟨_, by rw [row, htext]; rfl, ?_⟩
  have hindex : (display? standard (Decimal.natText (index + 1))).isSome :=
    isSome_display?_of_bare (bare_natText _)
  have htime : (display? standard e.timestamp.timeOfDay).isSome :=
    isSome_display?_of_bare (bare_hourMinuteSecond _)
  have hsource : (display? standard e.result.source.name).isSome :=
    isSome_display?_of_bare (bare_source _)
  simp [CanShow, htext, hindex, htime, hsource, isSome_display?_mark]

theorem exists_rows {P : AuditEntry -> List String -> Prop}
    {rowOf : Nat -> AuditEntry -> Except Value.NoText (List String)}
    (h : ∀ index, ∀ e ∈ entries, ∃ cells, rowOf index e = .ok cells ∧ P e cells) :
    ∃ rows, (entries.mapIdx rowOf).mapM id = .ok rows ∧ List.Forall₂ P entries rows := by
  induction entries generalizing rowOf with
  | nil => exact ⟨[], rfl, .nil⟩
  | cons e rest ih =>
      obtain ⟨cells, hcells, hp⟩ := h 0 e List.mem_cons_self
      obtain ⟨rows, hrows, hrest⟩ :=
        ih fun index e he => h (index + 1) e (List.mem_cons_of_mem _ he)
      refine ⟨cells :: rows, ?_, .cons hp hrest⟩
      rw [List.mapIdx_cons, List.mapM_cons, hcells, hrows]
      rfl

variable (standard) in
theorem table_renders_iff (h : ∀ e ∈ entries, ∃ text, details verbose e = .ok text) :
    ∃ t, table verbose entries = .ok t ∧
      (t.Renders standard ↔ ∀ e ∈ entries, CanShow standard verbose e) := by
  have hrow : ∀ index, ∀ e ∈ entries, ∃ cells, row verbose index e = .ok cells ∧
      ((∀ cell ∈ cells, (display? standard cell).isSome) ↔ CanShow standard verbose e) :=
    fun index e he => exists_row standard index (h e he)
  obtain ⟨rows, hrows, hshow⟩ := exists_rows hrow
  refine ⟨_, by rw [table, hrows]; rfl, ?_⟩
  have hheader : ∀ cell ∈ ["#", "Time", "", "Permission", "Source", "Details"],
      (display? standard cell).isSome := by
    have hbare : ∀ cell ∈ ["#", "Time", "", "Permission", "Source", "Details"],
        Bare cell.toList := by decide
    exact fun cell hcell => isSome_display?_of_bare (hbare cell hcell)
  simp only [Renders, Option.toList_some, List.forall_mem_append, List.forall_mem_singleton]
  rw [and_iff_right hheader]
  exact forall_mem_iff_of_forall₂ hshow

/-! ## The summary -/

theorem bare_of_mem_bySource {count : String × Nat} (h : count ∈ (Summary.of entries).bySource) :
    Bare count.1.toList := by
  have hname := Counts.mem_of_mem_names_ofList (List.mem_map_of_mem h)
  obtain ⟨e, -, heq⟩ := List.mem_map.1 hname
  rw [← heq]
  exact bare_source e.result.source

theorem exists_of_mem_deniedByPermission {count : String × Nat}
    (h : count ∈ (Summary.of entries).deniedByPermission) :
    ∃ e ∈ entries, e.permission = count.1 := by
  simp only [Summary.of, List.partition_eq_filter_filter] at h
  have hcount := List.mem_mergeSort.1 h
  obtain ⟨e, he, heq⟩ := List.mem_map.1
    (Counts.mem_of_mem_names_ofList (List.mem_map_of_mem hcount))
  exact ⟨e, List.mem_of_mem_filter he, heq⟩

theorem summaryRows_shown {s : Summary} (h : ∀ count ∈ s.bySource, Bare count.1.toList) :
    ∀ row ∈
      [["Total", Decimal.natText s.total], ["Granted", countText "green" s.granted],
        ["Denied", countText "yellow" s.denied]]
        ++ (s.bySource.mergeSort fun a b => decide (a.1 ≤ b.1)).map fun count =>
          ["  via " ++ count.1, Decimal.natText count.2],
      ∀ cell ∈ row, (display? standard cell).isSome := by
  simp only [List.forall_mem_append, List.forall_mem_cons, List.forall_mem_map,
    List.not_mem_nil, false_implies, implies_true, and_true]
  refine ⟨⟨⟨?_, ?_⟩, ⟨?_, ?_⟩, ?_, ?_⟩, fun count hcount => ⟨?_, ?_⟩⟩
  · exact isSome_display?_of_bare (by decide)
  · exact isSome_display?_of_bare (bare_natText s.total)
  · exact isSome_display?_of_bare (by decide)
  · exact isSome_display?_countText (by decide) s.granted
  · exact isSome_display?_of_bare (by decide)
  · exact isSome_display?_countText (by decide) s.denied
  · refine isSome_display?_of_bare ?_
    rw [String.toList_append, bare_append]
    exact ⟨by decide, h count (List.mem_mergeSort.1 hcount)⟩
  · exact isSome_display?_of_bare (bare_natText count.2)

/-- The line that tells how many permissions are left out. -/
theorem isSome_display?_more (n : Nat) :
    (display? standard ("  " ++
      styled "dim" ("... and " ++ Decimal.natText n ++ " more"))).isSome := by
  have htext : Bare ("... and " ++ Decimal.natText n ++ " more").toList := by
    simp only [String.toList_append, bare_append]
    exact ⟨⟨by decide, bare_natText n⟩, by decide⟩
  refine Harmless.isSome_display? ?_
  rw [String.toList_append]
  exact (harmless_styled (isStyle_of_mem _ (by decide)) htext.verbatim.unclosing).literal_append
    (by decide)

/-- A summary can be shown if the permissions can. -/
theorem summaryItems_render (h : ∀ e ∈ entries, (display? standard e.permission).isSome) :
    ∀ item ∈ summaryItems (Summary.of entries), item.Renders standard := by
  have hsources : ∀ count ∈ (Summary.of entries).bySource, Bare count.1.toList :=
    fun count hcount => bare_of_mem_bySource hcount
  have hdenied : ∀ count ∈ (Summary.of entries).deniedByPermission,
      (display? standard count.1).isSome := by
    intro count hcount
    obtain ⟨e, he, heq⟩ := exists_of_mem_deniedByPermission hcount
    exact heq ▸ h e he
  generalize Summary.of entries = s at hsources hdenied ⊢
  have hnone : ∀ item ∈ ([] : List Printed), item.Renders standard := by
    intro item hitem
    cases hitem
  have hblank : Renders standard blank := isSome_display?_of_bare (by decide)
  have hmost : ∀ item ∈ (s.deniedByPermission.take 5).map fun count =>
      markup (counted count.1 count.2), Renders standard item := by
    rw [List.forall_mem_map]
    exact fun count hcount => isSome_display?_counted count.2
      (hdenied count (List.mem_of_mem_take hcount))
  simp only [summaryItems, List.forall_mem_append, List.forall_mem_cons]
  refine ⟨⟨isSome_display?_styled (by decide) (by decide), hblank, summaryRows_shown hsources,
    hnone⟩, ?_⟩
  split
  · exact hnone
  · simp only [List.forall_mem_append, List.forall_mem_cons]
    refine ⟨⟨⟨hblank, isSome_display?_styled (by decide) (by decide), hnone⟩, hmost⟩, ?_⟩
    split
    · exact List.forall_mem_singleton.2 (isSome_display?_more _)
    · exact hnone

/--
A report is always printed to its end.  It can be shown exactly if the permission and the details
of each entry can, and so if no text of an entry closes a style.
-/
theorem report_renders_iff (standard : String -> String) (verbose : Bool)
    (htext : ∀ e ∈ entries, ∀ detail ∈ e.context, ∃ text, detail.2.text = .ok text) :
    (printed verbose entries).2 = .ok () ∧
      ((∀ item ∈ (printed verbose entries).1, item.Renders standard) ↔
        ∀ e ∈ entries, CanShow standard verbose e) ∧
      ((∀ e ∈ entries, Quiet verbose e) ->
        ∀ item ∈ (printed verbose entries).1, item.Renders standard) := by
  have hcontext : ∀ e ∈ entries, ∃ text, contextText e.context = .ok text :=
    fun e he => exists_contextText (htext e he)
  have hdetails : ∀ e ∈ entries, ∃ text, details verbose e = .ok text := by
    intro e he
    obtain ⟨parts, hparts, -⟩ := exists_parts verbose (hcontext e he)
    exact ⟨_, hparts⟩
  have hquiet : (∀ e ∈ entries, Quiet verbose e) -> ∀ e ∈ entries, CanShow standard verbose e :=
    fun h e he => (h e he).canShow (hcontext e he)
  suffices hprinted : (printed verbose entries).2 = .ok () ∧
      ((∀ item ∈ (printed verbose entries).1, item.Renders standard) ↔
        ∀ e ∈ entries, CanShow standard verbose e) from
    ⟨hprinted.1, hprinted.2, fun h => hprinted.2.2 (hquiet h)⟩
  obtain ⟨t, ht, hrenders⟩ := table_renders_iff standard hdetails
  rw [printed, ht]
  split
  · rename_i hempty
    obtain rfl := List.isEmpty_iff.1 hempty
    refine ⟨rfl, (fun _ _ he => nomatch he), fun _ => List.forall_mem_singleton.2 ?_⟩
    exact isSome_display?_styled (by decide) (by decide)
  · have hheading : (display? standard (styled "bold" "Decisions")).isSome :=
      isSome_display?_styled (by decide) (by decide)
    have hblank : (display? standard "").isSome := isSome_display?_of_bare (by decide)
    refine ⟨rfl, ?_⟩
    rw [← hrenders]
    simp only [List.forall_mem_append, List.forall_mem_cons]
    constructor
    · exact fun h => h.1.2.1
    · intro h
      have hsummary := summaryItems_render fun e he => (hrenders.1 h e he).1
      exact ⟨⟨⟨hheading, hblank, fun _ h => nomatch h⟩, h, hblank, fun _ h => nomatch h⟩, hsummary⟩

/-- A denial on the second day of the calendar. -/
def denial (permission reason : String) (context : Context) : AuditEntry :=
  let moment : Timestamp := { wall := Time.microsPerDay, offset := some 0 }
  { timestamp := moment, permission, context
    result :=
      { granted := false, reason := some reason, permission, timestamp := moment
        source := .default } }

/-- Entries with tags that open styles, and with backslashes before tags. -/
def drafts : List AuditEntry :=
  [ denial "files.[draft]" "kept in C:\\" [("path", .str "C:\\[red]notes\\")],
    denial "files.write" "\\[/x]" [] ]

theorem report_renders_iff_drafts :
    (printed true drafts).2 = .ok () ∧ ∀ item ∈ (printed true drafts).1, item.Renders id := by
  have htext : ∀ e ∈ drafts, ∀ detail ∈ e.context, ∃ text, detail.2.text = .ok text :=
    List.forall_mem_cons.2 ⟨List.forall_mem_singleton.2 ⟨_, rfl⟩,
      List.forall_mem_singleton.2 fun _ h => nomatch h⟩
  have hquiet : ∀ e ∈ drafts, Quiet true e := by
    refine List.forall_mem_cons.2 ⟨⟨by decide, ?_, nofun, ?_⟩,
      List.forall_mem_singleton.2 ⟨by decide, ?_, nofun, ?_⟩⟩
    all_goals
      intros
      rename_i h
      cases h
      decide
  obtain ⟨hprinted, -, hrenders⟩ := report_renders_iff id true htext
  exact ⟨hprinted, hrenders hquiet⟩

/-- A permission with a path in brackets cannot be shown, nor can the report of its denial. -/
theorem report_fails_on_closing_tag :
    (printed false [denial "files.read[/etc]" "unknown" []]).2 = .ok () ∧
      ∃ item ∈ (printed false [denial "files.read[/etc]" "unknown" []]).1, ¬item.Renders id := by
  refine ⟨rfl, _, List.mem_of_getElem? (i := 2) rfl, fun h => ?_⟩
  have hcell := h _ (List.mem_cons_of_mem _ List.mem_cons_self) "files.read[/etc]"
    (.tail _ (.tail _ (.tail _ (.head _))))
  exact absurd hcell (by decide)

end Report

end Clearance
