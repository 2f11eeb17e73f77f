import Clearance.CommandLine.Run
import Clearance.Proofs.CommandLine.Words
import Clearance.Proofs.Config.Refusals
import Clearance.Proofs.Engine.Unattended

/-!
# Checks on the command line

The exit code of a check is the decision of an engine that is made from the same inputs, and the
trail of the check has one more row that holds it.  A check that could not start is told by a code
of its own, and so is a configuration that is refused; one that loading does not answer for is not.
-/

namespace Clearance

open Engine (Clock Failure Management Operation Session Unattended)
open Trail (Content Database Files Row Sink)

namespace CommandLine

/-! ## Decisions -/

namespace CheckOptions

variable {o : CheckOptions} {text? : Option String} {clock : Clock}

/-- A new engine, with nothing but what every engine starts with. -/
def newEngine (clock : Clock) (o : CheckOptions) : Engine (List Operation) :=
  let unhandled : Unhandled := if o.allowUnconfirmed then .allow else .deny
  Engine.make { unhandledConfirmation := unhandled } {} [] none .absent clock

/-- What is done to the engine before the check: the import, if there is one, and the grants. -/
def preparations (text? : Option String) (o : CheckOptions) : List (Management (List Operation)) :=
  text?.toList.map .importText ++ o.grants.map .grant

/-- The engine that is made from the inputs of a check. -/
def engine (text? : Option String) (clock : Clock) (o : CheckOptions) :
    Except Failure (Engine (List Operation)) :=
  (o.newEngine clock).manageAll (o.preparations text?)

/-- What the engine decides in the context of the pairs, if both can be had. -/
def decision? (text? : Option String) (clock : Clock) (o : CheckOptions) : Option Decision :=
  match o.engine text? clock, contextOf o.context with
  | .ok engine, .ok context =>
      match (Session.perform (.check (.str o.permission) context.toValue) { engine }).1 with
      | .ok (.decision d) => some d
      | _ => none
  | _, _ => none

/-- Every pair of the context is a pair. -/
def Paired (o : CheckOptions) : Prop :=
  ∀ pair ∈ o.context, WellPaired pair

/-- A configuration that cannot be loaded, or is not valid. -/
def Refuses (text? : Option String) : Prop :=
  ∃ text f, text? = some text ∧ Config.ofText text = .error (.fault f)

/-- A configuration for which loading does not answer. -/
def Unanswered (text? : Option String) : Prop :=
  ∃ text f, text? = some text ∧ Config.ofText text = .error (.content f)

theorem Refuses.not_unanswered (h : Refuses text?) : ¬ Unanswered text? := by
  obtain ⟨text, f, rfl, hload⟩ := h
  rintro ⟨other, g, heq, hother⟩
  cases heq
  cases hload.symm.trans hother

theorem engine_of_ok {text : String} {c : Config} (h : Config.ofText text = .ok c) :
    o.engine (some text) clock =
      ((o.newEngine clock).takeOver c).manageAll (o.grants.map .grant) := by
  have himport : (o.newEngine clock).manage (.importText text) =
      (.ok .nothing, (o.newEngine clock).takeOver c) := by
    rw [Engine.manage, h]
    rfl
  exact Engine.manageAll_cons_of_ok himport _

theorem engine_of_error {text : String} {fault : ConfigFault}
    (h : Config.ofText text = .error fault) : ∃ f, o.engine (some text) clock = .error f := by
  have himport : ∃ f, (o.newEngine clock).manage (.importText text) =
      (.error f, o.newEngine clock) := by
    rw [Engine.manage, h]
    exact ⟨_, rfl⟩
  obtain ⟨f, hf⟩ := himport
  exact ⟨f, Engine.manageAll_cons_of_error hf _⟩

theorem decision?_of_ok {e : Engine (List Operation)} {context : Context} {d : Decision}
    (he : o.engine text? clock = .ok e) (hcontext : contextOf o.context = .ok context)
    (hd : (Session.perform (.check (.str o.permission) context.toValue) { engine := e }).1 =
      .ok (.decision d)) : o.decision? text? clock = some d := by
  simp only [decision?, he, hcontext, hd]

theorem decision?_of_unpaired (h : ¬ o.Paired) : o.decision? text? clock = none := by
  unfold decision?
  cases hcontext : contextOf o.context with
  | error usage => cases o.engine text? clock <;> rfl
  | ok context => exact absurd (exists_contextOf_iff.1 ⟨context, hcontext⟩) h

theorem decision?_of_error {text : String} {fault : ConfigFault}
    (h : Config.ofText text = .error fault) : o.decision? (some text) clock = none := by
  obtain ⟨f, hf⟩ := @engine_of_error o clock text fault h
  simp only [decision?, hf]

theorem Refuses.decision?_eq (h : Refuses text?) : o.decision? text? clock = none := by
  obtain ⟨text, f, rfl, hload⟩ := h
  exact decision?_of_error hload

theorem Unanswered.decision?_eq (h : Unanswered text?) : o.decision? text? clock = none := by
  obtain ⟨text, f, rfl, hload⟩ := h
  exact decision?_of_error hload

/-- How a check comes out, as the code tells that it exits with. -/
inductive ComesTo (o : CheckOptions) (text? : Option String) (clock : Clock) : Nat -> Prop where
  | decided {d : Decision} (h : o.decision? text? clock = some d) :
      ComesTo o text? clock (if d.granted then 0 else 1)
  | unpaired (h : ¬ o.Paired) : ComesTo o text? clock 2
  | refused (paired : o.Paired) (h : Refuses text?) : ComesTo o text? clock 2
  | unanswered (paired : o.Paired) (h : Unanswered text?) : ComesTo o text? clock 1

/-- The exit code tells a grant, a denial or a configuration without an answer, and a refusal. -/
theorem ComesTo.exit_iff {exit : Nat} (h : o.ComesTo text? clock exit) : exit ≤ 2 ∧
      (exit = 0 ↔ (o.decision? text? clock).map Decision.granted = some true) ∧
      (exit = 1 ↔ (o.decision? text? clock).map Decision.granted = some false ∨
        o.Paired ∧ Unanswered text?) ∧
      (exit = 2 ↔ ¬ o.Paired ∨ Refuses text?) := by
  cases h with
  | @decided d hd =>
      have hpaired : o.Paired := by
        by_contra hunpaired
        cases hd.symm.trans (decision?_of_unpaired hunpaired)
      have hrefuses : ¬ Refuses text? := fun h => nomatch hd.symm.trans h.decision?_eq
      have hunanswered : ¬ Unanswered text? := fun h => nomatch hd.symm.trans h.decision?_eq
      cases hgranted : d.granted <;> simp [hd, hgranted, hpaired, hrefuses, hunanswered]
  | unpaired h => simp [decision?_of_unpaired h, h]
  | refused hpaired h => simp [h.decision?_eq, h, h.not_unanswered]
  | unanswered hpaired h =>
      have hrefuses : ¬ Refuses text? := fun hrefuses => hrefuses.not_unanswered h
      simp [h.decision?_eq, h, hpaired, hrefuses]

end CheckOptions

/-! ## Files -/

namespace Workspace

variable {w : Workspace} {o : CheckOptions} {text? : Option String} {name : String}

/-- The rows of the trail in a file. -/
def rows (name : String) (w : Workspace) : List Row :=
  match Table.get? name w.files with
  | some (.database d) => d.table?.getD []
  | _ => []

theorem rows_of_database {d : Database} (h : Table.get? name w.files = some (.database d)) :
    w.rows name = d.table?.getD [] := by
  rw [rows, h]

/-- A place for a trail: there is or can be a file, and it holds nothing but a database. -/
structure Sound (w : Workspace) (name : String) : Prop where
  canHold : w.files.canHold name = true
  database : ∀ text, Table.get? name w.files ≠ some (.foreign text)

/-- The text of the configuration that a check is given, in a file of its own, if there is one. -/
inductive Configures (w : Workspace) (o : CheckOptions) : Option String -> Prop where
  | nothing (h : o.config? = none) : Configures w o none
  | file {path name text : String} (path_eq : o.config? = some path)
      (place : w.resolve? path = some name)
      (content : Table.get? name w.files = some (Content.ofText text))
      (apart : ∀ trail, o.trail? = some trail -> w.place trail ≠ name) :
      Configures w o (some text)

/-- Whether a text is that in a file. -/
inductive Reads (w : Workspace) : Option String -> Option String -> Prop where
  | nothing : Reads w none none
  | file {name text : String} (content : Table.get? name w.files = some (Content.ofText text)) :
      Reads w (some name) (some text)

theorem textOf_of_content {text : String}
    (h : Table.get? name w.files = some (Content.ofText text)) (fail : Fault -> Ending) :
    w.textOf name fail = .ok text := by
  rw [textOf, h]
  cases hempty : text.isEmpty with
  | true =>
      rw [String.isEmpty_iff.1 hempty]
      rfl
  | false =>
      rw [Content.ofText, hempty]
      rfl

theorem configOf_of_content {text : String}
    (h : Table.get? name w.files = some (Content.ofText text)) (fail : Fault -> Ending) :
    w.configOf name fail =
      (Config.ofText text (w.full name)).mapError fun e =>
        match e with
        | .fault f => fail f
        | .content f => .crashed (.content f) := by
  rw [configOf, textOf_of_content h]
  rfl

/-- How the engine of a check is made ready, with a sink in its place. -/
inductive Readies (o : CheckOptions) (text? : Option String) (clock : Clock) (sink : Sink)
    (fail : Fault -> Ending) : Attempt (Engine (List Operation)) -> Prop where
  | ready {e : Engine (List Operation)} (made : o.engine text? clock = .ok e)
      (unattended : e.Unattended clock) : Readies o text? clock sink fail (.ok (e.onSink sink))
  | refused (f : Fault) (h : CheckOptions.Refuses text?) :
      Readies o text? clock sink fail (.error (fail f))
  | unanswered (f : Yaml.ContentFault) (h : CheckOptions.Unanswered text?) :
      Readies o text? clock sink fail (.error (.crashed (.content f)))

/-- The grants come on top of an engine that takes over what there is to take over. -/
theorem Readies.ofTaken {config? : Option String} {sink : Sink} {fail : Fault -> Ending}
    {e : Engine (List Operation)} (hattended : o.interactive = false)
    (hmade : o.engine text? w.clock = e.manageAll (o.grants.map .grant))
    (hunattended : e.Unattended w.clock)
    (htaken : w.engineOf config? (if o.allowUnconfirmed then .allow else .deny) sink fail =
      .ok (e.onSink sink)) :
    Readies o text? w.clock sink fail (w.checkEngine o config? sink fail) := by
  have hcheck : w.checkEngine o config? sink fail =
      .ok (Engine.onSink sink
        { e with grants := o.grants.foldl (fun g name => g.grant name) e.grants }) := by
    rw [checkEngine, htaken, hattended]
    rfl
  rw [hcheck]
  exact .ready (hmade.trans (Engine.manageAll_grant _ _)) (hunattended.grantAll _)

theorem readies_checkEngine {config? : Option String} (hreads : w.Reads config? text?)
    (hattended : o.interactive = false) (sink : Sink) (fail : Fault -> Ending) :
    Readies o text? w.clock sink fail (w.checkEngine o config? sink fail) := by
  have hnew : (o.newEngine w.clock).Unattended w.clock := Engine.unattended_make _ _
  cases hreads with
  | nothing => exact .ofTaken (e := o.newEngine w.clock) hattended rfl hnew rfl
  | @file name text hcontent =>
      have hconfig := configOf_of_content hcontent fail
      have halike := Config.ofText_endsAlike text "<string>" (w.full name)
      generalize hload : Config.ofText text = load at halike
      generalize Config.ofText text (w.full name) = told at halike hconfig
      have hfails (e : Ending) (h : w.configOf name fail = .error e) :
          w.checkEngine o (some name) sink fail = .error e := by
        rw [checkEngine, engineOf, h]
        rfl
      cases halike with
      | loaded c =>
          refine .ofTaken (e := (o.newEngine w.clock).takeOver c) hattended
            (CheckOptions.engine_of_ok hload) (hnew.takeOver hload) ?_
          rw [engineOf, hconfig]
          rfl
      | refused f g =>
          rw [hfails (fail g) hconfig]
          exact .refused g ⟨text, f, rfl, hload⟩
      | unanswered f =>
          rw [hfails (.crashed (.content f)) hconfig]
          exact .unanswered f ⟨text, f, rfl, hload⟩

/-! ## Trails -/

/-- A workspace with its trail in its place, if there is to be one, and with the sink of it. -/
inductive Opened (w : Workspace) : Option String -> Sink × Workspace -> Prop where
  | nothing : Opened w none (.absent, w)
  | trail {name : String} {d : Database} (table : d.table? = some (w.rows name)) :
      Opened w (some name) (.trail d, { w with files := Table.set name (.database d) w.files })

theorem openTrail_of_database (hhold : w.files.canHold name = true) {d : Database}
    (hd : (Table.get? name w.files).getD (.database {}) = .database d) (fail : Fault -> Ending) :
    w.openTrail (some name) fail = .ok (.trail d.prepare,
      { w with files := Table.set name (.database d.prepare) w.files }) := by
  have hfiles : w.files.openTrail name (w.full name) =
      .ok (Table.set name (.database d.prepare) w.files) := by
    rw [Files.openTrail, hhold, hd]
    rfl
  rw [openTrail, hfiles]
  simp only [Except.mapError, bind, Except.bind, Table.get?_set, if_true]
  rfl

theorem exists_opened {name? : Option String} (h : ∀ name, name? = some name -> w.Sound name)
    (fail : Fault -> Ending) : ∃ x, w.openTrail name? fail = .ok x ∧ w.Opened name? x := by
  cases name? with
  | none => exact ⟨_, rfl, .nothing⟩
  | some name =>
      obtain ⟨hhold, hforeign⟩ := h name rfl
      cases hcontent : Table.get? name w.files with
      | none =>
          refine ⟨_, openTrail_of_database hhold (d := {}) (by rw [hcontent]; rfl) fail, .trail ?_⟩
          rw [rows, hcontent]
          rfl
      | some content =>
          cases content with
          | foreign text => exact absurd hcontent (hforeign text)
          | database d =>
              refine ⟨_, openTrail_of_database hhold (by rw [hcontent]; rfl) fail, .trail ?_⟩
              rw [rows_of_database hcontent, Database.table?_prepare]

theorem Opened.clock_eq {name? : Option String} {x : Sink × Workspace} (h : w.Opened name? x) :
    x.2.clock = w.clock := by
  cases h <;> rfl

/-- Where a trail is opened, its rows stay, and so does the text of every other file. -/
theorem Opened.rows_eq {sink : Sink} {w' : Workspace} (h : w.Opened (some name) (sink, w')) :
    w'.rows name = w.rows name := by
  cases h with
  | @trail _ d htable =>
      rw [rows_of_database (by rw [Table.get?_set, if_pos rfl]), htable]
      rfl

theorem Opened.reads {name? config? : Option String} {x : Sink × Workspace}
    (h : w.Opened name? x) (hreads : w.Reads config? text?)
    (happart : ∀ config name, config? = some config -> name? = some name -> name ≠ config) :
    x.2.Reads config? text? := by
  cases h with
  | nothing => exact hreads
  | @trail name d htable =>
      cases hreads with
      | nothing => exact .nothing
      | @file config text hcontent =>
          refine .file ?_
          rw [Table.get?_set, if_neg (happart config name rfl rfl).symm]
          exact hcontent

/-- What a check leaves behind the rows of its trail: a row that holds the decision, if any. -/
inductive Adds (clock : Clock) : Option Decision -> List Row -> Prop where
  | nothing : Adds clock none []
  | row {d : Decision} {id : Nat} {row : Row} (written : Row.ofEntry id d.entry = .ok row)
      (holds : clock.Portable -> row.Holds d.entry) : Adds clock (some d) [row]

/-- A decision in plain data is written in a row of its own behind the others. -/
theorem Opened.record {sink : Sink} {w' : Workspace} (h : w.Opened (some name) (sink, w'))
    {d : Decision} (hplain : d.context.toValue.Plain)
    (hvalid : w.clock.Portable -> d.entry.Valid) :
    ∃ added, Adds w.clock (some d) added ∧
      (w'.keepTrail (some name) (sink.record d.entry)).rows name = w.rows name ++ added := by
  cases h with
  | @trail _ db htable =>
      obtain ⟨row, hrow⟩ := Trail.exists_ofEntry (e := d.entry) db.nextId hplain hplain
      have hholds (hportable : w.clock.Portable) : row.Holds d.entry := by
        obtain ⟨row', e', hrow', -, hgranted, hread, hagrees⟩ :=
          Trail.entry_ofEntry db.nextId (hvalid hportable)
        cases hrow.symm.trans hrow'
        exact ⟨hgranted, e', hread, hagrees⟩
      have hrecord : db.record d.entry = .ok (db.nextId,
          { table? := some (w.rows name ++ [row]), lastId := db.nextId }) := by
        rw [Database.record, hrow, htable]
        rfl
      refine ⟨[row], .row hrow hholds, ?_⟩
      simp only [Sink.record, hrecord, keepTrail]
      rw [rows_of_database (by rw [Table.get?_set, if_pos rfl])]
      rfl

/-! ## Runs -/

/-- A check finds its configuration, in another file than that of its trail. -/
theorem exists_config (h : w.Configures o text?) : ∃ config?, w.existing? o.config? = .ok config? ∧
    w.Reads config? text? ∧
      ∀ config path, config? = some config -> o.trail? = some path -> w.place path ≠ config := by
  cases h with
  | nothing hnone =>
      rw [hnone]
      exact ⟨none, rfl, .nothing, nofun⟩
  | @file path name text hpath hplace hcontent happart =>
      refine ⟨some name, ?_, .file hcontent, ?_⟩
      · rw [hpath]
        simp only [existing?, existing, hplace, hcontent]
        rfl
      · rintro _ trail ⟨⟩ htrail
        exact happart trail htrail

theorem exit_failed (trace : String) (exit : Nat) (f : Fault) (asJson debug : Bool) :
    ((Ending.failed exit f asJson debug).output trace).exit = exit := by
  unfold Ending.output
  dsimp only
  split <;> rfl

/-- A decision in plain data is shown, and the exit code tells whether it grants. -/
theorem exit_checkEnding (o : CheckOptions) {d : Decision} (hplain : d.context.toValue.Plain)
    (trace : String) :
    ((checkEnding o (.ok (.decision d))).output trace).exit = if d.granted then 0 else 1 := by
  unfold checkEnding
  dsimp only
  obtain ⟨j, hj, -⟩ := Schema.decisionDocument_eq false hplain
  rw [hj]
  split <;> rfl

/-- The fault that a check fails with is told. -/
abbrev failing (o : CheckOptions) : Fault -> Ending :=
  fun f => .failed 2 f o.asJson o.debug

section

variable {config? : Option String} {context : Context} {x : Sink × Workspace}

theorem runCheck_of_error (hinputs : w.checkInputs o = .ok (config?, context))
    (hopen : w.openTrail (o.trail?.map w.place) (failing o) = .ok x) {ending : Ending}
    (hmade : x.2.checkEngine o config? x.1 (failing o) = .error ending) :
    w.runCheck o = (ending, [], x.2) := by
  simp only [runCheck, hinputs, hopen, hmade]

theorem runCheck_of_ok (hinputs : w.checkInputs o = .ok (config?, context))
    (hopen : w.openTrail (o.trail?.map w.place) (failing o) = .ok x)
    {e e' : Engine (List Operation)} (hmade : x.2.checkEngine o config? x.1 (failing o) = .ok e)
    {r : Engine.Result}
    (hperform : Session.perform (.check (.str o.permission) context.toValue) { engine := e } =
      (r, { engine := e' })) :
    w.runCheck o = (checkEnding o r, [], x.2.keepTrail (o.trail?.map w.place) e'.sink) := by
  simp only [runCheck, hinputs, hopen, hmade, hperform]

end

/--
A run of a check that exits with the code that its inputs come to.  The rows of its trail are those
that were there and, if there is a decision, one that holds it.
-/
structure RunsTo (w : Workspace) (o : CheckOptions) (text? : Option String) (trace : String)
    (run : Ending × List Confirmation.Sight × Workspace) : Prop where
  exit : o.ComesTo text? w.clock (run.1.output trace).exit
  rows : ∀ path, o.trail? = some path ->
    ∃ added, Adds w.clock (o.decision? text? w.clock) added ∧
      run.2.2.rows (w.place path) = w.rows (w.place path) ++ added

variable {trace : String}

theorem RunsTo.ofUndecided {run : Ending × List Confirmation.Sight × Workspace}
    (hexit : o.ComesTo text? w.clock (run.1.output trace).exit)
    (hnone : o.decision? text? w.clock = none)
    (hrows : ∀ path, o.trail? = some path ->
      run.2.2.rows (w.place path) = w.rows (w.place path)) : w.RunsTo o text? trace run where
  exit := hexit
  rows := fun path hpath => ⟨[], hnone ▸ .nothing, by rw [hrows path hpath, List.append_nil]⟩

/-- On an engine that is ready the check is decided, and the decision is shown and kept. -/
theorem exists_run_ready {x : Sink × Workspace} (hopened : w.Opened (o.trail?.map w.place) x)
    {context : Context} (hcontext : contextOf o.context = .ok context)
    {e : Engine (List Operation)} (he : o.engine text? w.clock = .ok e)
    (hunattended : e.Unattended w.clock) (hclock : w.clock.Readable) :
    ∃ r e', Session.perform (.check (.str o.permission) context.toValue)
        { engine := e.onSink x.1 } = (r, { engine := e' }) ∧
      w.RunsTo o text? trace
        (checkEnding o r, [], x.2.keepTrail (o.trail?.map w.place) e'.sink) := by
  have hplain : context.toValue.Plain := plain_contextOf hcontext
  obtain ⟨d, -, hdcontext, hcheck, hvalid⟩ :=
    hunattended.check hclock { permission := o.permission, context }
  obtain ⟨e', hsink, hperform⟩ := hcheck x.1
  have hdecided : o.decision? text? w.clock = some d := by
    obtain ⟨_, _, habsent⟩ := hcheck e.sink
    exact CheckOptions.decision?_of_ok he hcontext (congrArg Prod.fst habsent)
  have hshown : d.context.toValue.Plain := hdcontext ▸ hplain
  refine ⟨_, e', hperform, ?_, fun path hpath => ?_⟩
  · rw [exit_checkEnding o hshown trace]
    exact .decided hdecided
  · rw [hpath] at hopened
    rw [hpath, hsink, hdecided]
    exact Opened.record hopened hshown fun hportable => hvalid hportable hplain

/-- A check that nobody attends exits with the code that its inputs come to. -/
theorem runsTo_runCheck (hattended : o.interactive = false) (hconfig : w.Configures o text?)
    (htrail : ∀ path, o.trail? = some path -> w.Sound (w.place path))
    (hclock : w.clock.Readable) (trace : String) : w.RunsTo o text? trace (w.runCheck o) := by
  obtain ⟨config?, hexisting, hreads, happart⟩ := exists_config hconfig
  cases hcontext : contextOf o.context with
  | error usage =>
      have hunpaired : ¬ o.Paired := by
        intro hpaired
        obtain ⟨c, hc⟩ := exists_contextOf_iff.2 hpaired
        cases hcontext.symm.trans hc
      have hrun : w.runCheck o = (.usage, [], w) := by
        rw [runCheck, checkInputs, hexisting, hcontext]
        rfl
      rw [hrun]
      exact .ofUndecided (.unpaired hunpaired) (CheckOptions.decision?_of_unpaired hunpaired)
        fun _ _ => rfl
  | ok context =>
      have hpaired : o.Paired := exists_contextOf_iff.1 ⟨context, hcontext⟩
      have hinputs : w.checkInputs o = .ok (config?, context) := by
        rw [checkInputs, hexisting, hcontext]
        rfl
      have hsound : ∀ name, o.trail?.map w.place = some name -> w.Sound name := by
        intro name hname
        obtain ⟨path, hpath, rfl⟩ := Option.map_eq_some_iff.1 hname
        exact htrail path hpath
      obtain ⟨⟨sink, w'⟩, hopen, hopened⟩ := exists_opened hsound (failing o)
      have hready : Readies o text? w.clock sink (failing o)
          (w'.checkEngine o config? sink (failing o)) := by
        have hreads' : w'.Reads config? text? := by
          refine hopened.reads hreads fun config name hfound hname => ?_
          obtain ⟨path, hpath, rfl⟩ := Option.map_eq_some_iff.1 hname
          exact happart config path hfound hpath
        have hready := readies_checkEngine hreads' hattended sink (failing o)
        rw [hopened.clock_eq] at hready
        exact hready
      have hkept (path : String) (hpath : o.trail? = some path) :
          w'.rows (w.place path) = w.rows (w.place path) := by
        rw [hpath] at hopened
        exact Opened.rows_eq hopened
      generalize hmade : w'.checkEngine o config? sink (failing o) = made at hready
      cases hready with
      | refused f h =>
          rw [runCheck_of_error hinputs hopen hmade]
          refine .ofUndecided ?_ h.decision?_eq hkept
          rw [exit_failed]
          exact .refused hpaired h
      | unanswered f h =>
          rw [runCheck_of_error hinputs hopen hmade]
          exact .ofUndecided (.unanswered hpaired h) h.decision?_eq hkept
      | ready he hunattended =>
          obtain ⟨r, e', hperform, hruns⟩ :=
            exists_run_ready hopened hcontext he hunattended hclock
          rw [runCheck_of_ok hinputs hopen hmade hperform]
          exact hruns

theorem runWords_of_check {words : List String} (h : Invocation.ofWords words = .ok (.check o)) :
    w.runWords words = ((w.runCheck o).1, (w.runCheck o).2.2) := by
  rw [runWords, h]
  rfl

/-- A configuration that denies by default. -/
def closedText : String := "policy:\n  default_allow: false\n"

/-- A check that is granted, and is kept in a trail. -/
def keptCheck : CheckOptions :=
  { permission := "file.read", config? := some "c", context := ["path=/etc/hosts"]
    grants := ["file.read"], trail? := some "t" }

/-- A directory with a text and nothing else. -/
def lone (text : String) : Workspace :=
  { files := [("c", .foreign text)], root := "/work", clock := Engine.stillClock, reportTime := "" }

theorem granted_keptCheck :
    (keptCheck.decision? (some closedText) Engine.stillClock).map Decision.granted = some true := by
  let config : Config := { policy := some { defaultAllow := false } }
  have hload : Config.ofText closedText = .ok config := by
    have hsome : (Config.ofText closedText).toOption = some config := by decide +kernel
    cases hread : Config.ofText closedText with
    | error fault =>
        rw [hread] at hsome
        cases hsome
    | ok c =>
        rw [hread] at hsome
        cases hsome
        rfl
  have hengine : keptCheck.engine (some closedText) Engine.stillClock = _ :=
    (CheckOptions.engine_of_ok hload).trans (Engine.manageAll_grant _ _)
  simp only [CheckOptions.decision?, hengine]
  decide +kernel

theorem resolve?_lone (text : String) :
    (lone text).resolve? "c" = some "c" ∧ (lone text).resolve? "t" = some "t" := by
  have hc : "c".splitOn "/" = ["c"] := by
    rw [String.splitOn, if_neg (by decide), String.splitOnAux, if_neg (by decide),
      if_neg (by decide), String.splitOnAux, if_pos (by decide)]
    decide
  have ht : "t".splitOn "/" = ["t"] := by
    rw [String.splitOn, if_neg (by decide), String.splitOnAux, if_neg (by decide),
      if_neg (by decide), String.splitOnAux, if_pos (by decide)]
    decide
  have hrelative : "/".isPrefixOf "c" = false ∧ "/".isPrefixOf "t" = false := by decide +kernel
  simp only [resolve?, hc, ht, hrelative]
  exact ⟨rfl, rfl⟩

end Workspace

end CommandLine

end Clearance
