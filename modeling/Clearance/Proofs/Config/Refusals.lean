import Clearance.Proofs.Yaml.Untagged.Value

/-!
# How loading a configuration ends

Data is a configuration or it is refused as none.  A text is a configuration, or it is refused as a
text or as a configuration, unless something in it can not even be read: a number in an escape or a
directive, or a scalar whose text does not fit its tag.
-/

namespace Clearance.Config

open Yaml (ContentFault Graph)

/-- What loading is to end in: a configuration, or a fault that says what is wrong with it. -/
inductive Answered (source : String) : Except ConfigFault Config -> Prop where
  | loaded (c : Config) : Answered source (.ok c)
  | unreadable (underlying : String) :
      Answered source (.error (.fault (Fault.of (.configLoad source underlying))))
  | invalid (errors : List String) :
      Answered source (.error (.fault (Fault.of (.configInvalid source errors))))

/-- A part of a text that is not refused as a part of a text, with the fault that it ends in. -/
inductive Stumbles (text : String) : ContentFault -> Prop where
  | number {flaw : Yaml.Flaw} (unread : Graph.read text = .error flaw)
      (large : flaw.isOfText = false) : Stumbles text (.flaw flaw)
  | node {g : Graph} {n : Yaml.Node} {f : ContentFault} (read : Graph.read text = .ok (some g))
      (held : g.Holds n) (unfit : g.Unfit n f) : Stumbles text f

theorem ofValue_ends (v : Value) (source : String) :
    (∃ c, ofValue v source = .ok c) ∨
      ∃ errors, ofValue v source = .error (Fault.of (.configInvalid source errors)) := by
  unfold ofValue
  cases v with
  | null => exact .inl ⟨{}, rfl⟩
  | dict entries =>
      cases Schema.config (.dict entries) with
      | ok c => exact .inl ⟨c, rfl⟩
      | error issues => exact .inr ⟨_, rfl⟩
  | _ => exact .inr ⟨_, rfl⟩

theorem answered_ofValue (v : Value) (source : String) :
    Answered source ((ofValue v source).mapError ConfigFault.fault) := by
  rcases ofValue_ends v source with ⟨c, hc⟩ | ⟨errors, herrors⟩
  · rw [hc]
    exact .loaded c
  · rw [herrors]
    exact .invalid errors

/-- A text without a value is flawed as a text, or a part of it is at fault. -/
theorem ofText_or_stumbles {text : String} {f : ContentFault} (h : Yaml.load text = .error f) :
    f.IsOfText ∨ Stumbles text f := by
  unfold Yaml.load at h
  cases hread : Graph.read text with
  | error flaw =>
      rw [hread] at h
      cases h
      cases hlarge : flaw.isOfText with
      | true => exact .inl ⟨flaw, rfl, hlarge⟩
      | false => exact .inr (.number hread hlarge)
  | ok g? =>
      rw [hread] at h
      cases g? with
      | none => cases h
      | some g =>
          rcases Graph.blamed_of_value h with hflaw | ⟨n, held, unfit⟩
          · exact .inl hflaw
          · exact .inr (.node hread held unfit)

/-- A text whose reading ends in no answer has no value, and that is not for a flaw of a text. -/
theorem answered_or_unread (text source : String) :
    Answered source (ofText text source) ∨
      ∃ f, ofText text source = .error (.content f) ∧ Yaml.load text = .error f ∧ ¬ f.IsOfText := by
  unfold ofText
  cases hload : Yaml.load text with
  | ok v => exact .inl (answered_ofValue v source)
  | error f =>
      cases f with
      | flaw flaw =>
          cases hlarge : flaw.isOfText with
          | true =>
              simp only [hlarge, if_true]
              exact .inl (.unreadable flaw.message)
          | false =>
              simp only [hlarge]
              refine .inr ⟨_, rfl, rfl, ?_⟩
              rintro ⟨_, ⟨⟩, htext⟩
              rw [hlarge] at htext
              cases htext
      | _ => exact .inr ⟨_, rfl, rfl, by rintro ⟨_, ⟨⟩, -⟩⟩

/-- A part of a text without tags that is not refused as a part of a text, with its fault. -/
inductive Slips (text : String) : ContentFault -> Prop where
  | number {flaw : Yaml.Flaw} (unread : Graph.read text = .error flaw)
      (large : flaw.isOfText = false) : Slips text (.flaw flaw)
  | scalar {g : Graph} {plain : String} {f : ContentFault} (read : Graph.read text = .ok (some g))
      (held : g.Holds (.scalar (Yaml.Tag.ofPlain plain) plain true))
      (fault : Yaml.PlainFault (Yaml.Tag.ofPlain plain) f) : Slips text f

/--
Where no tag is written, loading ends in an answer, or in the fault of a number in the text or of a
plain scalar whose form promises a number or a moment that there is not.
-/
theorem ofText_of_untagged {text : String}
    (htags : ∀ t ∈ (Yaml.Token.read text).1, t.isTag = false) (source : String) :
    Answered source (ofText text source) ∨
      ∃ f, ofText text source = .error (.content f) ∧ Slips text f := by
  refine (answered_or_unread text source).imp_right ?_
  rintro ⟨f, hends, hload, hnot⟩
  refine ⟨f, hends, ?_⟩
  rcases Yaml.slips_of_load htags hload with ⟨flaw, hread, rfl⟩ | ⟨g, hread, hslips⟩
  · refine .number hread ?_
    cases hlarge : flaw.isOfText with
    | true => exact absurd ⟨flaw, rfl, hlarge⟩ hnot
    | false => rfl
  · obtain ⟨plain, held, fault⟩ := hslips.resolve_left hnot
    exact .scalar hread held fault

/-- Whether loading ends in the same way twice, but for what the fault of a refusal tells. -/
inductive EndsAlike : Except ConfigFault Config -> Except ConfigFault Config -> Prop where
  | loaded (c : Config) : EndsAlike (.ok c) (.ok c)
  | refused (f g : Fault) : EndsAlike (.error (.fault f)) (.error (.fault g))
  | unanswered (f : ContentFault) : EndsAlike (.error (.content f)) (.error (.content f))

/-- The source of a text is told, and has no other part in how loading ends. -/
theorem ofText_endsAlike (text source other : String) :
    EndsAlike (ofText text source) (ofText text other) := by
  unfold ofText
  cases Yaml.load text with
  | ok v =>
      unfold ofValue
      cases v with
      | null => exact .loaded {}
      | dict entries =>
          dsimp only
          cases Schema.config (.dict entries) with
          | ok c => exact .loaded c
          | error issues => exact .refused _ _
      | _ => exact .refused _ _
  | error f =>
      cases f with
      | flaw flaw =>
          dsimp only
          split
          · exact .refused _ _
          · exact .unanswered _
      | _ => exact .unanswered _

/-- The fault of a scalar or a number, if loading ended in one. -/
def contentFault? (r : Except ConfigFault Config) : Option ContentFault :=
  match r with
  | .error (.content f) => some f
  | _ => none

theorem eq_of_contentFault? {r : Except ConfigFault Config} {f : ContentFault}
    (h : contentFault? r = some f) : r = .error (.content f) := by
  match r with
  | .ok c => cases h
  | .error (.fault g) => cases h
  | .error (.content g) =>
      cases h
      rfl

end Clearance.Config
