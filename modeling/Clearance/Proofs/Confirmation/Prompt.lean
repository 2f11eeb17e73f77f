import Clearance.Confirmation.Prompt
import Clearance.Proofs.Printed.Markup
import Clearance.Proofs.Results

/-!
# What a prompt shows

A prompt holds the texts of an inquiry as they are: the permission in its title and, in order, a
row for each detail of the context.  All of them are read as markup, so that they are shown as they
are exactly if there is no tag in them and no backslash that belongs to a bracket.
-/

namespace Clearance.Confirmation.Prompt

open Printed (styled display? Verbatim shown pieces piecesFrom openedBy IsStyle)

/-- The row of one detail. -/
def IsRow (detail : String × Value) (row : List String) : Prop :=
  ∃ text, detail.2.text = .ok text ∧ row = [detail.1, text]

/-- What the title is to show. -/
def heading (i : Inquiry) : String :=
  i.permission ++ " (" ++ i.risk.name ++ " risk)"

theorem contextRow_eq_ok_iff {name : String} {v : Value} {row : List String} :
    contextRow name v = .ok row ↔ IsRow (name, v) row := by
  rw [contextRow, IsRow]
  cases v.text with
  | error f =>
      refine iff_of_false (fun h => ?_) ?_
      · cases h
      · rintro ⟨text, h, -⟩
        cases h
  | ok text =>
      constructor
      · intro h
        cases h
        exact ⟨text, rfl, rfl⟩
      · rintro ⟨_, heq, rfl⟩
        cases heq
        rfl

theorem panel_eq {i : Inquiry} (hcontext : i.context ≠ [])
    (htext : ∀ detail ∈ i.context, ∃ text, detail.2.text = .ok text) :
    ∃ rows, panel i = .ok (.panel (title i) (.table none false rows)) ∧
      List.Forall₂ IsRow i.context rows := by
  have hrow : ∀ detail ∈ i.context, ∃ row, contextRow detail.1 detail.2 = .ok row := by
    intro detail hdetail
    obtain ⟨text, heq⟩ := htext detail hdetail
    exact ⟨_, contextRow_eq_ok_iff.2 ⟨text, heq, rfl⟩⟩
  obtain ⟨rows, hrows⟩ := exists_mapM_eq_ok_iff.2 hrow
  have hare := (mapM_eq_ok_iff.1 hrows).imp fun _ _ => contextRow_eq_ok_iff.1
  cases rows with
  | nil => exact absurd (List.forall₂_nil_right_iff.1 hare) hcontext
  | cons row rest =>
      refine ⟨row :: rest, ?_, hare⟩
      rw [panel, hrows]
      rfl

/-! ## The title -/

theorem isStyle_bold : IsStyle "bold" :=
  Printed.isStyle_of_mem _ (by decide)

theorem isStyle_style (risk : RiskLevel) : IsStyle (style risk) := by
  have hused : style risk ∈ Printed.styles := by cases risk <;> decide
  exact Printed.isStyle_of_mem _ hused

/-- The part of the title that tells the risk is never hidden. -/
theorem risk_verbatim (risk : RiskLevel) :
    Verbatim ("(" ++ risk.name ++ " risk)").toList ∧
      ("(" ++ risk.name ++ " risk)").toList.getLast? ≠ some '\\' := by
  cases risk <;> decide

section

variable (standard : String -> String)

theorem display?_title_iff (i : Inquiry) :
    display? standard (title i) = some (heading i) ↔
      Verbatim i.permission.toList ∧ i.permission.toList.getLast? ≠ some '\\' := by
  obtain ⟨hrisk, hlast⟩ := risk_verbatim i.risk
  have hstyle := isStyle_style i.risk
  let told := styled (style i.risk) ("(" ++ i.risk.name ++ " risk)")
  have htitle : (title i).toList =
      (styled "bold" i.permission).toList ++ ' ' :: (told.toList ++ []) := by
    simp [title, told]
  have hheading : (heading i).toList =
      i.permission.toList ++ ' ' :: ("(" ++ i.risk.name ++ " risk)").toList := by
    simp [heading]
  have hblank : piecesFrom 0 0 (' ' :: (told.toList ++ [])) =
      .char ' ' :: piecesFrom 0 0 (told.toList ++ []) :=
    Printed.piecesFrom_char (by decide) (by decide)
  have htold : shown (piecesFrom 0 0 (told.toList ++ [])) =
      ("(" ++ i.risk.name ++ " risk)").toList :=
    ((Printed.shown_styled_iff hstyle []).2 ⟨hrisk, hlast⟩).trans (List.append_nil _)
  have hshown : Printed.plain (title i) = heading i ↔
      Verbatim i.permission.toList ∧ i.permission.toList.getLast? ≠ some '\\' := by
    rw [← Printed.shown_styled_iff isStyle_bold (' ' :: (told.toList ++ [])), ← htitle, hblank,
      Printed.shown_cons_char, htold, ← hheading, ← String.toList_inj, Printed.plain,
      String.toList_ofList, pieces]
  rw [Printed.display?_eq_some_iff, hshown]
  refine and_iff_right_of_imp ?_
  rintro ⟨hverbatim, hpermission⟩
  rw [pieces, htitle, Printed.openedBy_styled isStyle_bold hverbatim hpermission, hblank,
    openedBy, Printed.openedBy_styled hstyle hrisk hlast]
  rfl

/-! ## The rows -/

theorem display?_row_iff {detail : String × Value} {row : List String} (h : IsRow detail row) :
    (∀ cell ∈ row, display? standard cell = some cell) ↔
      Verbatim detail.1.toList ∧ ∀ text, detail.2.text = .ok text -> Verbatim text.toList := by
  obtain ⟨text, htext, rfl⟩ := h
  simp [htext, Printed.display?_eq_self_iff]

theorem display?_rows_iff {c : Context} {rows : List (List String)}
    (h : List.Forall₂ IsRow c rows) :
    (∀ row ∈ rows, ∀ cell ∈ row, display? standard cell = some cell) ↔
      ∀ detail ∈ c, Verbatim detail.1.toList ∧
        ∀ text, detail.2.text = .ok text -> Verbatim text.toList :=
  forall_mem_iff_of_forall₂ (h.imp fun _ _ => display?_row_iff standard)

/--
A prompt shows the permission, and the texts of each detail, exactly if they have no tag and no
backslash that belongs to a bracket; the permission stands before the tag that closes its style, so
it may not end with a backslash.
-/
theorem ask_shows_iff_verbatim (default : Bool) (input : Input) {i : Inquiry}
    (hcontext : i.context ≠ [])
    (htext : ∀ detail ∈ i.context, ∃ text, detail.2.text = .ok text) :
    ∃ rows, (ask default input i).2.head? = some (.panel (title i) (.table none false rows)) ∧
      List.Forall₂ IsRow i.context rows ∧
      (display? standard (title i) = some (heading i) ↔
        Verbatim i.permission.toList ∧ i.permission.toList.getLast? ≠ some '\\') ∧
      ((∀ row ∈ rows, ∀ cell ∈ row, display? standard cell = some cell) ↔
        ∀ detail ∈ i.context, Verbatim detail.1.toList ∧
          ∀ text, detail.2.text = .ok text -> Verbatim text.toList) := by
  obtain ⟨rows, hpanel, hrows⟩ := panel_eq hcontext htext
  refine ⟨rows, ?_, hrows, display?_title_iff standard i, display?_rows_iff standard hrows⟩
  rw [ask, hpanel]
  rfl

end

/-- An inquiry with brackets, and none of them a tag. -/
def draft : Inquiry :=
  { permission := "file.write", risk := .high,
    context := [("path", .str "notes/[Draft].txt"), ("bytes", .int 12)] }

theorem ask_shows_iff_verbatim_draft :
    ∃ rows, (ask false { lines := ["y"] } draft).2.head? =
        some (.panel (title draft) (.table none false rows)) ∧
      List.Forall₂ IsRow draft.context rows ∧
      display? id (title draft) = some "file.write (high risk)" ∧
      ∀ row ∈ rows, ∀ cell ∈ row, display? id cell = some cell := by
  have htext : ∀ detail ∈ draft.context, ∃ text, detail.2.text = .ok text :=
    List.forall_mem_cons.2 ⟨⟨_, rfl⟩, List.forall_mem_singleton.2 ⟨_, rfl⟩⟩
  have hverbatim : ∀ detail ∈ draft.context, Verbatim detail.1.toList ∧
      ∀ text, detail.2.text = .ok text -> Verbatim text.toList := by
    refine List.forall_mem_cons.2 ⟨⟨by decide, fun text htext => ?_⟩,
      List.forall_mem_singleton.2 ⟨by decide, fun text htext => ?_⟩⟩
    all_goals
      cases htext
      decide
  obtain ⟨rows, hhead, hrows, htitle, hcells⟩ :=
    ask_shows_iff_verbatim id false { lines := ["y"] } (i := draft) (List.cons_ne_nil _ _) htext
  exact ⟨rows, hhead, hrows, htitle.2 (by decide), hcells.2 hverbatim⟩

/-- An inquiry with a tag and its end in a detail. -/
def painted : Inquiry :=
  { permission := "shell.run", risk := .high,
    context := [("command", .str "rm [red]-rf[/red] notes")] }

theorem ask_hides_tags :
    (ask false { lines := ["y"] } painted).2.head? =
        some (.panel (title painted)
          (.table none false [["command", "rm [red]-rf[/red] notes"]])) ∧
      display? id "rm [red]-rf[/red] notes" = some "rm -rf notes" :=
  ⟨rfl, by decide⟩

end Clearance.Confirmation.Prompt
