import Clearance.Proofs.Yaml.Printed

/-!
# Tokens of a whole text

A record that is rendered as a text is cut into its tokens and nothing else.
-/

namespace Clearance.Yaml

open Written (newLine)

/-- At the end of the text the block of the record is closed. -/
theorem Lexer.ComesTo.readAll_eq {l : Lexer} {allowed : Bool} {ts : List Token}
    (h : l.ComesTo allowed ts 0 [-1] 0 []) (fuel : Nat) :
    Lexer.readAll (fuel + 1) l = ((ts ++ [Token.blockEnd]).toArray, none) := by
  obtain ⟨c, hrest, hcolumn, -, l', hsettle, hcursor, hclose⟩ := h
  have hstanding : l'.closeBlocks l'.cursor.column = standing c allowed ts 0 [-1] := by
    rw [hcursor, hcolumn, hclose]
    exact closeBlocks_of_le (Int.le_refl 0)
  have hblock : (standing c allowed ts 0 [-1]).closeBlocks (-1) =
      standing c allowed (ts ++ [.blockEnd]) (-1) [] := by
    rw [closeBlocks_of_lt (by decide)]
    exact closeBlocks_of_le (Int.le_refl _)
  have hact : (standing c allowed ts 0 [-1]).act =
      .ok (standing c allowed (ts ++ [.blockEnd]) (-1) [], true) := by
    rw [act, show (standing c allowed ts 0 [-1]).cursor.rest = [] from hrest]
    simp only [hblock]
    rfl
  rw [readAll_succ, hsettle]
  simp only [Except.bind, hstanding, hact]
  rfl

namespace Tree

variable {n : Nat} {fields : List (String × Tree)}

theorem render_toList (hne : fields ≠ []) :
    (render fields).toList = fieldsText 0 fields ++ ['\n'] := by
  rw [render, if_neg (by simpa using hne), String.toList_ofList]

/-- A rendered record is cut into its tokens. -/
theorem read_render (h : Regular n (.record fields)) (hroom : Fits 0 n) :
    Token.read (render fields) = ((Tree.record fields).tokens.toArray, none) := by
  cases h with
  | @record n _ hne _ hnames hregular =>
      have htext := render_toList hne
      have hprinted : (render fields).toList.all isPrintable = true := by
        rw [htext, List.all_eq_true]
        refine Printed.append_iff.2 ⟨?_, .of_newLine 0⟩
        exact printed_fieldsText hnames (fun f hf => (regular_printed (hregular f hf)).1) 0
      have hlexed : ∀ f ∈ fields, LexedBehindColon n f.2 := fun f hf =>
        (regular_lexed (hregular f hf)).1
      have hstart : LineStart (fieldsText 0 fields ++ ['\n']) :=
        lineStart_fieldsText hne hnames 0 ['\n']
      have hmark : ({ rest := (render fields).toList } : Cursor).sees isByteOrderMark = false := by
        refine Cursor.sees_eq_false ?_
        rw [htext]
        exact hstart.stops_byteOrderMark
      have hcomes : ({ cursor := { rest := (render fields).toList } } : Lexer).ComesTo
          true [] (-1) [] 0 (fieldsText 0 fields ++ (newLine 0 ++ [])) :=
        @Lexer.Within.comesTo_spaces _ _ _ _ _ 0 ⟨rfl, rfl, rfl, rfl⟩
          (Lexer.sheer_of_lineStart hstart) htext (by simp [Lexer.Outdated])
      obtain ⟨l', hleads, hend⟩ := fields_lexed hne hnames hlexed hroom.of_succ (by decide)
        (Nat.le_refl 0) .nil hcomes
      obtain ⟨fuel, hfuel, hread⟩ := hleads (2 * (render fields).toList.length + 2)
        (by simp only [Lexer.size]; omega)
      obtain ⟨fuel, rfl⟩ := Nat.exists_eq_succ_of_ne_zero (Nat.ne_of_gt (Nat.zero_lt_of_lt hfuel))
      unfold Token.read
      simp only [hprinted, if_true, hmark, Bool.false_eq_true, if_false]
      rw [hread, hend.readAll_eq]
      simp [tokens]

end Tree

end Clearance.Yaml
