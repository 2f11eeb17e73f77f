import Clearance.Regex.Matcher

/-!
# The numbers of groups

A pattern that stands behind others has its groups numbered on from theirs.  Its groups, what refers
back to them and what asks about them are moved by the same number, and nothing that it matches
changes: neither its width, nor whether it is sound, nor the places where it matches.
-/

namespace Clearance.Regex

/-- A node behind so many groups. -/
def Node.shift (k : Nat) : Node -> Node
  | .empty => .empty
  | .seq first second => .seq (first.shift k) (second.shift k)
  | .alt left right => .alt (left.shift k) (right.shift k)
  | .code n => .code n
  | .notCode n => .notCode n
  | .any => .any
  | .set negated members => .set negated members
  | .anchor a => .anchor a
  | .scoped add drop body => .scoped add drop (body.shift k)
  | .capture index body => .capture (index + k) (body.shift k)
  | .repeated least most greed body => .repeated least most greed (body.shift k)
  | .atomic body => .atomic (body.shift k)
  | .lookAhead negated body => .lookAhead negated (body.shift k)
  | .lookBehind negated body => .lookBehind negated (body.shift k)
  | .backreference index width => .backreference (index + k) width
  | .conditional index yes no hasNo => .conditional (index + k) (yes.shift k) (no.shift k) hasNo

namespace Node

@[simp] theorem width_shift (k : Nat) (node : Node) : (node.shift k).width = node.width := by
  induction node with
  | seq first second ihFirst ihSecond => simp [shift, width, ihFirst, ihSecond]
  | alt left right ihLeft ihRight => simp [shift, width, ihLeft, ihRight]
  | conditional index yes no hasNo ihYes ihNo => simp [shift, width, ihYes, ihNo]
  | «scoped» add drop body ih => simp [shift, width, ih]
  | capture index body ih => simp [shift, width, ih]
  | repeated least most greed body ih => simp [shift, width, ih]
  | atomic body ih => simp [shift, width, ih]
  | _ => rfl

@[simp] theorem isSound_shift (k : Nat) (node : Node) (flags : Flags) :
    (node.shift k).isSound flags = node.isSound flags := by
  induction node generalizing flags with
  | seq first second ihFirst ihSecond => simp [shift, isSound, ihFirst, ihSecond]
  | alt left right ihLeft ihRight => simp [shift, isSound, ihLeft, ihRight]
  | conditional index yes no hasNo ihYes ihNo => simp [shift, isSound, ihYes, ihNo]
  | «scoped» add drop body ih => simp [shift, isSound, ih]
  | capture index body ih => simp [shift, isSound, ih]
  | repeated least most greed body ih => simp [shift, isSound, ih]
  | atomic body ih => simp [shift, isSound, ih]
  | lookAhead negated body ih => simp [shift, isSound, ih]
  | lookBehind negated body ih => simp [shift, isSound, ih]
  | _ => rfl

end Node

/-! ## States -/

def Group.shift (k : Nat) (g : Group) : Group :=
  { g with index := g.index + k }

/-- A state whose groups are numbered on from so many others. -/
def State.shift (k : Nat) (s : State) : State :=
  { s with groups := s.groups.map (Group.shift k) }

variable {k : Nat}

@[simp] theorem State.place_shift (s : State) : (s.shift k).place = s.place := rfl

@[simp] theorem State.groups_shift (s : State) :
    (s.shift k).groups = s.groups.map (Group.shift k) := rfl

theorem findGroup_shift (index : Nat) (groups : List Group) :
    findGroup (index + k) (groups.map (Group.shift k)) =
      (findGroup index groups).map (Group.shift k) := by
  unfold findGroup
  rw [List.find?_map]
  congr 1
  congr 1
  funext g
  rw [Function.comp_apply, Bool.eq_iff_iff, beq_iff_eq, beq_iff_eq]
  exact Nat.add_right_cancel_iff

theorem openGroup_shift (index : Nat) (s : State) :
    openGroup (index + k) (s.shift k) = (openGroup index s).shift k := by
  unfold openGroup
  rw [State.groups_shift, findGroup_shift]
  cases findGroup index s.groups <;> rfl

theorem closeGroup_shift (index : Nat) (s : State) :
    closeGroup (index + k) (s.shift k) = (closeGroup index s).shift k := by
  unfold closeGroup
  rw [State.groups_shift, findGroup_shift]
  cases findGroup index s.groups <;> rfl

theorem capturedText?_shift (index : Nat) (groups : List Group) :
    capturedText? (index + k) (groups.map (Group.shift k)) = capturedText? index groups := by
  unfold capturedText?
  rw [findGroup_shift]
  cases findGroup index groups <;> rfl

/-! ## Matchers -/

/-- A matcher that does in a shifted state what another one does in the state itself. -/
def Matcher.Shifts (k : Nat) (m m' : Matcher) : Prop :=
  ∀ (s : State) (next next' : Continuation),
    (∀ t, next' (t.shift k) = (next t).map (State.shift k)) ->
      m' (s.shift k) next' = (m s next).map (State.shift k)

open Matcher

theorem shifts_one (test : Char -> Bool) : Shifts k (one test) (one test) := by
  intro s next next' hnext
  unfold one
  rw [State.place_shift]
  cases s.place.next? with
  | none => rfl
  | some found =>
      dsimp only
      split
      · exact hnext { s with place := found.2 }
      · rfl

theorem shifts_literalRun (flags : Flags) (text : List Char) :
    Shifts k (literalRun flags text) (literalRun flags text) := by
  induction text with
  | nil =>
      intro s next next' hnext
      exact hnext s
  | cons c rest ih =>
      intro s next next' hnext
      unfold literalRun
      exact shifts_one _ s _ _ fun t => ih t next next' hnext

theorem orElse_map {α β : Type} (f : α -> β) (a? b? : Option α) :
    ((a?.map f).orElse fun _ => b?.map f) = (a?.orElse fun _ => b?).map f := by
  cases a? <;> rfl

section

variable {body body' : Matcher} (hbody : Shifts k body body')

include hbody

theorem shifts_rounds (least : Nat) (most : Option Nat) (eager : Bool) (fuel count : Nat)
    (last : Option Nat) :
    Shifts k (rounds least most eager body fuel count last)
      (rounds least most eager body' fuel count last) := by
  induction fuel generalizing count last with
  | zero =>
      intro s next next' hnext
      rfl
  | succ fuel ih =>
      intro s next next' hnext
      have hround (last : Option Nat) :
          body' (s.shift k) (fun t => rounds least most eager body' fuel (count + 1) last t next') =
            (body s fun t => rounds least most eager body fuel (count + 1) last t next).map
              (State.shift k) :=
        hbody s _ _ fun t => ih (count + 1) last t next next' hnext
      have hmore (more : Bool) (found? : Option State) :
          (if more then found?.map (State.shift k) else none) =
            (if more then found? else none).map (State.shift k) := by
        cases more <;> rfl
      unfold rounds
      simp only [State.place_shift, hround, hnext, hmore, orElse_map]
      split
      · rfl
      · split <;> rfl

theorem allRounds_shift (least : Nat) (most : Option Nat) (fuel count : Nat) (s : State) :
    allRounds least most body' fuel count (s.shift k) =
      (allRounds least most body fuel count s).map (State.shift k) := by
  induction fuel generalizing count s with
  | zero => rfl
  | succ fuel ih =>
      have hround : body' (s.shift k) some = (body s some).map (State.shift k) :=
        hbody s some some fun _ => rfl
      unfold allRounds
      rw [hround]
      split
      · rfl
      · cases body s some with
        | none =>
            dsimp only [Option.map_none]
            split <;> rfl
        | some t =>
            dsimp only [Option.map_some]
            simp only [State.place_shift, ih]
            split <;> rfl

theorem shifts_repeatedMatcher (least : Nat) (most : Option Nat) (greed : Greed) :
    Shifts k (repeatedMatcher least most body greed) (repeatedMatcher least most body' greed) := by
  intro s next next' hnext
  cases greed with
  | greedy => exact shifts_rounds hbody least most true _ 0 none s next next' hnext
  | lazy => exact shifts_rounds hbody least most false _ 0 none s next next' hnext
  | possessive =>
      change (allRounds least most body' (roundFuel least s) 0 (s.shift k)).bind next' =
        ((allRounds least most body (roundFuel least s) 0 s).bind next).map _
      rw [allRounds_shift hbody]
      cases allRounds least most body (roundFuel least s) 0 s with
      | none => rfl
      | some t => exact hnext t

theorem shifts_atomic : Shifts k (fun s next => (body s some).bind next)
    (fun s next => (body' s some).bind next) := by
  intro s next next' hnext
  have hsome : body' (s.shift k) some = (body s some).map (State.shift k) :=
    hbody s some some fun _ => rfl
  dsimp only
  rw [hsome]
  cases body s some with
  | none => rfl
  | some t => exact hnext t

end

/-- Moving the numbers of the groups moves them in what is matched, and changes nothing else. -/
theorem shifts_matcher (node : Node) (flags : Flags) :
    Shifts k (node.matcher flags) ((node.shift k).matcher flags) := by
  induction node generalizing flags with
  | empty => exact fun s next next' hnext => hnext s
  | seq first second ihFirst ihSecond =>
      intro s next next' hnext
      exact ihFirst flags s _ _ fun t => ihSecond flags t next next' hnext
  | alt left right ihLeft ihRight =>
      intro s next next' hnext
      simp only [Node.shift, Node.matcher, ihLeft flags s next next' hnext,
        ihRight flags s next next' hnext]
      exact orElse_map _ _ _
  | code n => exact shifts_one _
  | notCode n => exact shifts_one _
  | any => exact shifts_one _
  | set negated members => exact shifts_one _
  | anchor a =>
      intro s next next' hnext
      simp only [Node.shift, Node.matcher, State.place_shift, hnext]
      split <;> rfl
  | «scoped» add drop body ih => exact ih (flags.adjust add drop)
  | capture index body ih =>
      intro s next next' hnext
      simp only [Node.shift, Node.matcher, openGroup_shift]
      refine ih flags _ _ _ fun t => ?_
      rw [closeGroup_shift]
      exact hnext _
  | repeated least most greed body ih => exact shifts_repeatedMatcher (ih flags) least most greed
  | atomic body ih => exact shifts_atomic (ih flags)
  | lookAhead negated body ih =>
      intro s next next' hnext
      have hsome := ih flags s some some fun _ => rfl
      simp only [Node.shift, Node.matcher, hsome]
      cases body.matcher flags s some with
      | none =>
          cases negated with
          | false => rfl
          | true => exact hnext s
      | some t =>
          cases negated with
          | false => exact hnext { s with groups := t.groups }
          | true => rfl
  | lookBehind negated body ih =>
      intro s next next' hnext
      simp only [Node.shift, Node.matcher, Node.width_shift, State.place_shift]
      have hback :
          ((s.place.back? body.width.least).bind fun place =>
            (body.shift k).matcher flags { s.shift k with place } some) =
          ((s.place.back? body.width.least).bind fun place =>
            body.matcher flags { s with place } some).map (State.shift k) := by
        cases s.place.back? body.width.least with
        | none => rfl
        | some place => exact ih flags { s with place } some some fun _ => rfl
      rw [hback]
      cases (s.place.back? body.width.least).bind fun place =>
          body.matcher flags { s with place } some with
      | none =>
          cases negated with
          | false => rfl
          | true => exact hnext s
      | some t =>
          cases negated with
          | false => exact hnext { s with groups := t.groups }
          | true => rfl
  | backreference index width =>
      intro s next next' hnext
      simp only [Node.shift, Node.matcher, State.groups_shift, capturedText?_shift]
      cases capturedText? index s.groups with
      | none => rfl
      | some text => exact shifts_literalRun flags text s next next' hnext
  | conditional index yes no hasNo ihYes ihNo =>
      intro s next next' hnext
      simp only [Node.shift, Node.matcher, State.groups_shift, capturedText?_shift]
      split
      · exact ihYes flags s next next' hnext
      · exact ihNo flags s next next' hnext

/-- A pattern behind other groups matches at the same places. -/
theorem matchesAt_shift (k : Nat) (node : Node) (flags : Flags) (place : Place) :
    Pattern.matchesAt { node := node.shift k, flags } place =
      Pattern.matchesAt { node, flags } place := by
  have h := @shifts_matcher k node flags { place, groups := [] } some some fun _ => rfl
  unfold Pattern.matchesAt
  change ((node.shift k).matcher flags (State.shift k { place, groups := [] }) some).isSome = _
  rw [h, Option.isSome_map]

end Clearance.Regex
