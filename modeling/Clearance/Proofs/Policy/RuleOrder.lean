import Clearance.Proofs.Policy.FirstRule

/-!
# The order of rules

A policy is decided by its first rule that is not skipped: the rule that is found applies, and if
that rule comes to a condition without an answer, the policy has none either.  Rules that are
skipped only move the others down, and what stands behind a rule that is not skipped has no part in
the decision.
-/

namespace Clearance

namespace Rule

variable {c : Circumstances} {name : String} {r : Rule}

/-- The reasons that a denying rule gives. -/
inductive Denies (r : Rule) : String -> Prop where
  | timed (clock : ∃ condition ∈ r.conditions, condition.kind = "time") :
      Denies r "Access denied due to time restriction"
  | own {reason : String} (untimed : ∀ condition ∈ r.conditions, condition.kind ≠ "time")
      (given : r.reason = some reason) (nonempty : reason ≠ "") : Denies r reason
  | unsaid (untimed : ∀ condition ∈ r.conditions, condition.kind ≠ "time")
      (silent : ∀ reason, r.reason = some reason -> reason = "") :
      Denies r "Denied by policy rule"

theorem isTimed_iff : r.isTimed = true ↔ ∃ condition ∈ r.conditions, condition.kind = "time" := by
  simp [isTimed, Condition.timeKind]

theorem denies_denialReason (r : Rule) : r.Denies r.denialReason := by
  unfold denialReason
  by_cases htimed : r.isTimed = true
  · rw [if_pos htimed]
    exact .timed (isTimed_iff.1 htimed)
  · have huntimed : ∀ condition ∈ r.conditions, condition.kind ≠ "time" := by
      intro condition hmem hkind
      exact htimed (isTimed_iff.2 ⟨condition, hmem, hkind⟩)
    rw [if_neg htimed]
    cases hgiven : r.reason.filter (· != "") with
    | some reason =>
        obtain ⟨hreason, hnonempty⟩ := Option.filter_eq_some_iff.1 hgiven
        exact .own huntimed hreason (by simpa using hnonempty)
    | none =>
        apply Denies.unsaid huntimed
        intro reason hreason
        simpa using Option.filter_eq_none_iff.1 hgiven reason hreason

/-- A rule gives one reason. -/
theorem Denies.eq_denialReason {reason : String} (h : r.Denies reason) :
    reason = r.denialReason := by
  have htimed := @isTimed_iff r
  unfold denialReason
  cases h with
  | timed hclock =>
      rw [if_pos (htimed.2 hclock)]
      rfl
  | own huntimed hgiven hnonempty =>
      have hnot : ¬ r.isTimed = true := fun h => by
        obtain ⟨condition, hmem, hkind⟩ := htimed.1 h
        exact huntimed condition hmem hkind
      rw [if_neg hnot, hgiven, Option.filter_some, if_pos (by simpa using hnonempty)]
      rfl
  | unsaid huntimed hsilent =>
      have hnot : ¬ r.isTimed = true := fun h => by
        obtain ⟨condition, hmem, hkind⟩ := htimed.1 h
        exact huntimed condition hmem hkind
      have hnone : r.reason.filter (· != "") = none :=
        Option.filter_eq_none_iff.2 fun reason hreason => by simpa using hsilent reason hreason
      rw [if_neg hnot, hnone]
      rfl

theorem denies_iff {reason : String} : r.Denies reason ↔ r.denialReason = reason := by
  constructor
  · intro h
    exact h.eq_denialReason.symm
  · rintro rfl
    exact r.denies_denialReason

/-- Some condition of a rule has no answer. -/
def Raises (c : Circumstances) (r : Rule) : Prop :=
  ∃ condition ∈ r.conditions, ∃ fault, condition.holds c = .error fault

/-- A rule fails if it is not skipped and some condition of it has no answer. -/
theorem exists_fails_iff :
    (∃ fault, r.Fails c name fault) ↔ ¬ r.Skipped c name ∧ r.Raises c := by
  simp only [← applies_eq_error_iff, ← applies_eq_false_iff]
  constructor
  · rintro ⟨fault, hfails⟩
    refine ⟨by simp [hfails], ?_⟩
    obtain ⟨-, before, condition, after, hsplit, -, hholds⟩ := applies_eq_error_iff.1 hfails
    exact ⟨condition, by simp [hsplit], fault, hholds⟩
  · rintro ⟨hskipped, condition, hmem, fault, hholds⟩
    cases happlies : r.applies c name with
    | error fault => exact ⟨fault, rfl⟩
    | ok answer =>
        cases answer with
        | false => exact absurd happlies hskipped
        | true =>
            have htrue := (applies_eq_true_iff.1 happlies).2 condition hmem
            rw [hholds] at htrue
            cases htrue

end Rule

/-- A match among rules of which some were put in at a place. -/
def RuleMatch.movedFrom (place count : Nat) (m : RuleMatch) : RuleMatch :=
  if place ≤ m.index then { m with index := m.index + count } else m

namespace Policy

variable {c : Circumstances} {name : String}

/-- Rules are tried one list after the other. -/
theorem firstMatch_append (index : Nat) (front back : List Rule) :
    firstMatch c name index (front ++ back) =
      match firstMatch c name index front with
      | .ok none => firstMatch c name (index + front.length) back
      | found => found := by
  induction front generalizing index with
  | nil => rfl
  | cons rule rest ih =>
      rw [List.cons_append, firstMatch_cons, firstMatch_cons]
      cases rule.applies c name with
      | error fault => rfl
      | ok answer =>
          cases answer with
          | true => rfl
          | false =>
              dsimp only
              rw [ih, List.length_cons, Nat.add_right_comm, Nat.add_assoc]

/-- The place of a rule that is found is in the list. -/
theorem bounds_of_firstMatch {index : Nat} {rules : List Rule} {m : RuleMatch}
    (h : firstMatch c name index rules = .ok (some m)) :
    index ≤ m.index ∧ m.index < index + rules.length := by
  rcases skipped_or_reaches c name rules with
    hskipped | ⟨i, rule, hreach, happlies | ⟨fault, hfails⟩⟩
  · rw [firstMatch_of_skipped hskipped] at h
    cases h
  · have hi : i < rules.length := (List.getElem?_eq_some_iff.1 hreach.1).1
    rw [firstMatch_of_applies hreach happlies] at h
    cases h
    dsimp only
    omega
  · rw [firstMatch_of_fails hreach hfails] at h
    cases h

/-- Counting from a later place moves what is found by as much. -/
theorem firstMatch_add (index count : Nat) (rules : List Rule) :
    firstMatch c name (index + count) rules =
      (firstMatch c name index rules).map
        (Option.map fun m => { m with index := m.index + count }) := by
  induction rules generalizing index with
  | nil => rfl
  | cons rule rest ih =>
      rw [firstMatch_cons, firstMatch_cons]
      cases rule.applies c name with
      | error fault => rfl
      | ok answer =>
          cases answer with
          | true => rfl
          | false =>
              dsimp only
              rw [← ih, Nat.add_right_comm]

/-- Rules that are skipped move those behind them, and do nothing else. -/
theorem firstMatch_insert {front extra back : List Rule}
    (h : ∀ rule ∈ extra, rule.Skipped c name) :
    firstMatch c name 0 (front ++ extra ++ back) =
      (firstMatch c name 0 (front ++ back)).map
        (Option.map (RuleMatch.movedFrom front.length extra.length)) := by
  rw [List.append_assoc, firstMatch_append, firstMatch_append 0 front back]
  cases hfront : firstMatch c name 0 front with
  | error fault => rfl
  | ok found? =>
      cases found? with
      | some m =>
          have hbefore : ¬ front.length ≤ m.index := by
            have hbounds := bounds_of_firstMatch hfront
            omega
          simp [Except.map, RuleMatch.movedFrom, hbefore]
      | none =>
          dsimp only
          rw [firstMatch_append, firstMatch_of_skipped h]
          dsimp only
          rw [firstMatch_add]
          cases hback : firstMatch c name (0 + front.length) back with
          | error fault => rfl
          | ok found? =>
              cases found? with
              | none => rfl
              | some m =>
                  have hbehind : front.length ≤ m.index := by
                    have hbounds := bounds_of_firstMatch hback
                    omega
                  simp [Except.map, RuleMatch.movedFrom, hbehind]

/-- What stands behind a rule that is not skipped has no part in the decision. -/
theorem firstMatch_behind {rule : Rule} (h : ¬ rule.Skipped c name) (index : Nat)
    (front back back' : List Rule) :
    firstMatch c name index (front ++ rule :: back) =
      firstMatch c name index (front ++ rule :: back') := by
  rw [firstMatch_append, firstMatch_append index front (rule :: back')]
  cases firstMatch c name index front with
  | error fault => rfl
  | ok found? =>
      cases found? with
      | some m => rfl
      | none =>
          dsimp only
          rw [firstMatch_cons, firstMatch_cons]
          cases happlies : rule.applies c name with
          | error fault => rfl
          | ok answer =>
              cases answer with
              | true => rfl
              | false => exact absurd (Rule.applies_eq_false_iff.1 happlies) h

/-- What a list of rules comes to: no rule, the first that is not skipped, or its fault. -/
inductive Decided (c : Circumstances) (name : String) (rules : List Rule) :
    Except ConditionFault (Option RuleMatch) -> Prop where
  | skipped (all : ∀ rule ∈ rules, rule.Skipped c name) : Decided c name rules (.ok none)
  | found {m : RuleMatch} (reach : Reaches c name rules m.index m.rule)
      (applies : m.rule.Applies c name) : Decided c name rules (.ok (some m))
  | failed {i : Nat} {rule : Rule} {fault : ConditionFault} (reach : Reaches c name rules i rule)
      (fails : rule.Fails c name fault) : Decided c name rules (.error fault)

theorem Decided.findMatch_eq {p : Policy} {outcome : Except ConditionFault (Option RuleMatch)}
    (h : Decided c name p.rules outcome) : p.findMatch name c = outcome := by
  unfold findMatch
  cases h with
  | skipped hall => exact firstMatch_of_skipped hall 0
  | found hreach happlies => rw [firstMatch_of_applies hreach happlies, Nat.zero_add]
  | failed hreach hfails => exact firstMatch_of_fails hreach hfails 0

theorem decided_findMatch (p : Policy) (name : String) (c : Circumstances) :
    Decided c name p.rules (p.findMatch name c) := by
  rcases skipped_or_reaches c name p.rules with
    hskipped | ⟨i, rule, hreach, happlies | ⟨fault, hfails⟩⟩
  · have h := Decided.skipped hskipped
    rwa [h.findMatch_eq]
  · have h := Decided.found (m := { rule, index := i }) hreach happlies
    rwa [h.findMatch_eq]
  · have h := Decided.failed hreach hfails
    rwa [h.findMatch_eq]

theorem decided_iff {p : Policy} {outcome : Except ConditionFault (Option RuleMatch)} :
    Decided c name p.rules outcome ↔ p.findMatch name c = outcome := by
  constructor
  · exact Decided.findMatch_eq
  · rintro rfl
    exact decided_findMatch p name c

/--
The first rule that is not skipped decides.  It is found if it applies, and there is no answer if
one of its conditions has none; a rule that is found gives its own verdict, and its reason if it
denies.  Rules that are skipped only move the others, and the rules behind play no part.
-/
theorem first_unskipped_rule_decides (p : Policy) (name : String) (c : Circumstances) :
    (∀ m, p.findMatch name c = .ok (some m) ↔
      Reaches c name p.rules m.index m.rule ∧ m.rule.Applies c name) ∧
    (p.findMatch name c = .ok none ↔ ∀ rule ∈ p.rules, rule.Skipped c name) ∧
    ((∃ fault, p.findMatch name c = .error fault) ↔
      ∃ i rule, Reaches c name p.rules i rule ∧ ¬ rule.Skipped c name ∧ rule.Raises c) ∧
    (∀ m : RuleMatch, m.allowed = m.rule.allow ∧ (m.reason = none ↔ m.rule.allow = true) ∧
      ∀ reason, m.reason = some reason ↔ m.rule.allow = false ∧ m.rule.Denies reason) ∧
    (∀ front extra back, p.rules = front ++ back -> (∀ rule ∈ extra, rule.Skipped c name) ->
      findMatch { p with rules := front ++ extra ++ back } name c =
        (p.findMatch name c).map
          (Option.map (RuleMatch.movedFrom front.length extra.length))) ∧
    (∀ front rule back back', p.rules = front ++ rule :: back -> ¬ rule.Skipped c name ->
      findMatch { p with rules := front ++ rule :: back' } name c = p.findMatch name c) := by
  refine ⟨fun m => ?_, ?_, ?_, fun m => ⟨rfl, ?_, fun reason => ?_⟩, ?_, ?_⟩
  · rw [← decided_iff]
    constructor
    · rintro ⟨⟩
      exact ⟨‹_›, ‹_›⟩
    · rintro ⟨hreach, happlies⟩
      exact .found hreach happlies
  · rw [← decided_iff]
    constructor
    · rintro ⟨hall⟩
      exact hall
    · exact .skipped
  · simp only [← decided_iff, ← Rule.exists_fails_iff]
    constructor
    · rintro ⟨fault, ⟨⟩⟩
      exact ⟨_, _, ‹_›, fault, ‹_›⟩
    · rintro ⟨i, rule, hreach, fault, hfails⟩
      exact ⟨fault, .failed hreach hfails⟩
  · unfold RuleMatch.reason
    split <;> simp [*]
  · unfold RuleMatch.reason
    rw [Rule.denies_iff]
    split <;> simp [*]
  · intro front extra back hrules hskipped
    unfold findMatch
    rw [hrules]
    exact firstMatch_insert hskipped
  · intro front rule back back' hrules hrule
    unfold findMatch
    rw [hrules]
    exact firstMatch_behind hrule 0 front back' back

/-- A night rule denies at noon, whatever is put before it that does not cover the name. -/
theorem first_unskipped_rule_decides_curfew :
    let c : Circumstances :=
      { context := [("path", .str "x"), ("user", .mute "no text")]
        now := { wall := 63908136000000000, offset := some 0 } }
    let home : Rule :=
      { pattern := "file.*", allow := true
        conditions := [{ kind := "path", operator := .startsWith, operand := .one "/home" }] }
    let curfew : Rule :=
      { pattern := "file", allow := false, reason := some "closed"
        conditions :=
          [{ kind := "time", operator := .between, operand := .anyOf ["09:00", "17:00"] }] }
    let silent : Rule :=
      { pattern := "*", allow := true
        conditions := [{ kind := "user", operator := .equals, operand := .one "root" }] }
    let mail : Rule := { pattern := "mail.*", allow := true }
    let p : Policy := { rules := [home, curfew, silent] }
    mail.Skipped c "file.read" ∧ ¬ curfew.Skipped c "file.read" ∧
      p.findMatch "file.read" c = .ok (some { rule := curfew, index := 1 }) ∧
      curfew.Denies "Access denied due to time restriction" ∧
      Policy.findMatch { rules := [home, mail, mail, curfew, silent] } "file.read" c =
        .ok (some { rule := curfew, index := 3 }) ∧
      Policy.findMatch { rules := [home, curfew] } "file.read" c =
        .ok (some { rule := curfew, index := 1 }) := by
  intro c home curfew silent mail p
  have hmail : mail.Skipped c "file.read" := by
    apply Or.inl
    rw [← Pattern.covers_iff]
    decide
  have hcurfew : curfew.Applies c "file.read" :=
    Rule.applies_eq_true_iff.1 (ConditionFault.eq_ok_of_toOption (by decide +kernel))
  have hstays : ¬ curfew.Skipped c "file.read" := fun h => by
    have hfalse := Rule.applies_eq_false_iff.2 h
    rw [Rule.applies_eq_true_iff.2 hcurfew] at hfalse
    cases hfalse
  have hhome : home.Skipped c "file.read" :=
    Rule.applies_eq_false_iff.1 (ConditionFault.eq_ok_of_toOption (by decide +kernel))
  obtain ⟨hfound, -, -, hverdict, hinsert, hbehind⟩ :=
    first_unskipped_rule_decides p "file.read" c
  have hsecond : p.findMatch "file.read" c = .ok (some { rule := curfew, index := 1 }) :=
    (hfound _).2 ⟨reaches_succ.2 ⟨hhome, reaches_zero.2 rfl⟩, hcurfew⟩
  have hreason := ((hverdict { rule := curfew, index := 1 }).2.2 _).1 rfl
  have hboth : ∀ rule ∈ [mail, mail], rule.Skipped c "file.read" := by
    intro rule hmem
    obtain rfl : rule = mail := by simpa using hmem
    exact hmail
  refine ⟨hmail, hstays, hsecond, hreason.2, ?_, ?_⟩
  · have hmoved := hinsert [home] [mail, mail] [curfew, silent] rfl hboth
    rw [hsecond] at hmoved
    exact hmoved
  · have hcut := hbehind [home] curfew [silent] [] rfl hstays
    rw [hsecond] at hcut
    exact hcut

end Policy

end Clearance
