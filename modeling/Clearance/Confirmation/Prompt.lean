import Clearance.Decision
import Clearance.Printed
import Clearance.Text.Blank

/-!
# Asking on a console

The question is asked until a line says yes or no.  Where a stream ends, the default is the answer;
on a terminal that is what an empty line means, and the end of the input is a failure.
-/

namespace Clearance.Confirmation.Prompt

/-- The lines of an input, the last of which may be unfinished. -/
def linesOf (input : String) : List String :=
  match (input.splitOn "\n").reverse with
  | [] => []
  | last :: before => before.reverse ++ if last.isEmpty then [] else [last]

/-- The style of a risk. -/
def style : RiskLevel -> String
  | .low => "green"
  | .medium => "yellow"
  | .high => "red"
  | .critical => "bold red"

def title (i : Inquiry) : String :=
  Printed.styled "bold" i.permission ++ " "
    ++ Printed.styled (style i.risk) ("(" ++ i.risk.name ++ " risk)")

def contextRow (name : String) (v : Value) : Except Value.NoText (List String) := do
  return [name, <- v.text]

/-- The panel that shows what is asked. -/
def panel (i : Inquiry) : Except Value.NoText Printed := do
  let rows <- i.context.mapM fun (name, v) => contextRow name v
  let rows := if rows.isEmpty then [["context", Printed.styled "dim" "(empty)"]] else rows
  return .panel (title i) (.table none false rows)

def question (default : Bool) : Printed :=
  .text ("Allow this operation? [y/n] (" ++ (if default then "y" else "n") ++ "): ")

def complaint : Printed :=
  .markup "[prompt.invalid]Please enter Y or N"

/-- The answer that a line gives. -/
def answerOf? (line : String) : Option Bool :=
  match Text.strip line.toList with
  | ['y'] | ['Y'] => some true
  | ['n'] | ['N'] => some false
  | _ => none

/-- What is read, and from where. -/
structure Input where
  lines : List String
  isTerminal : Bool := false
  deriving Repr, Inhabited

/-- Why there is no answer. -/
inductive Stop where
  | noText (f : Value.NoText)
  | endOfInput
  deriving DecidableEq, Repr

def Stop.message : Stop -> String
  | .noText f => f.message
  | .endOfInput => "EOF when reading a line"

/-- The answer, and what is printed on the way to it. -/
def answer (default isTerminal : Bool) : List String -> Except Stop Bool × List Printed
  | [] => (if isTerminal then .error .endOfInput else .ok default, [question default])
  | line :: rest =>
      match answerOf? line with
      | some yes => (.ok yes, [question default])
      | none =>
          if isTerminal && line.isEmpty then (.ok default, [question default])
          else
            let (r, printed) := answer default isTerminal rest
            (r, question default :: complaint :: printed)

/-- Shows an inquiry and asks; nothing is printed if the context cannot be shown. -/
def ask (default : Bool) (input : Input) (i : Inquiry) : Except Stop Bool × List Printed :=
  match panel i with
  | .error f => (.error (.noText f), [])
  | .ok p =>
      let (r, printed) := answer default input.isTerminal input.lines
      (r, p :: printed)

/-- Without a default of its own, only a line that says yes is a yes. -/
theorem exists_of_answer_eq_ok_true {isTerminal : Bool} {lines : List String}
    (h : (answer false isTerminal lines).1 = .ok true) :
    ∃ line ∈ lines, answerOf? line = some true := by
  induction lines with
  | nil => cases isTerminal <;> simp [answer] at h
  | cons line rest ih =>
      unfold answer at h
      split at h
      · rename_i yes hyes
        simp only [Except.ok.injEq] at h
        exact ⟨line, by simp, by rw [hyes, h]⟩
      · split at h
        · simp at h
        · obtain ⟨l, hl, h⟩ := ih h
          exact ⟨l, by simp [hl], h⟩

end Clearance.Confirmation.Prompt
