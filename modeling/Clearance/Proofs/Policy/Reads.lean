import Clearance.Policy.Match

/-!
# What a policy reads

The keys of a context that the conditions of a policy read, and whether they read the clock.  What
a policy finds does not change with anything else: neither with other keys, nor with the time if no
condition reads the clock.
-/

namespace Clearance

namespace Context

/-- The value under a key; one that is missing is nothing. -/
def value (key : String) (c : Context) : Value :=
  (c.lookup key).getD .null

end Context

namespace Condition

/-- A condition names no field of its own; an empty name is none. -/
def Unkeyed (condition : Condition) : Prop :=
  ∀ key, condition.contextKey = some key -> key = ""

/-- The keys that a condition reads. -/
inductive Reads (condition : Condition) : String -> Prop where
  | key {key : String} (given : condition.contextKey = some key) (nonempty : key ≠ "") :
      Reads condition key
  | resource {key : String} (unkeyed : condition.Unkeyed)
      (kind : condition.kind = "path" ∨ condition.kind = "resource")
      (fallback : key = "resource" ∨ key = "path") : Reads condition key
  | kind (unkeyed : condition.Unkeyed) (path : condition.kind ≠ "path")
      (resource : condition.kind ≠ "resource") (time : condition.kind ≠ "time") :
      Reads condition condition.kind

/-- A condition compares the time. -/
def ReadsClock (condition : Condition) : Prop :=
  condition.Unkeyed ∧ condition.kind = "time"

end Condition

namespace Policy

def Reads (p : Policy) (key : String) : Prop :=
  ∃ rule ∈ p.rules, ∃ condition ∈ rule.conditions, condition.Reads key

def ReadsClock (p : Policy) : Prop :=
  ∃ rule ∈ p.rules, ∃ condition ∈ rule.conditions, condition.ReadsClock

end Policy

/-! ## The same for a condition, a rule, a policy -/

/-- Circumstances that agree on some keys, and on the time of day if it matters. -/
structure Circumstances.Agree (reads : String -> Prop) (clock : Prop) (c c' : Circumstances) :
    Prop where
  context : ∀ key, reads key -> c'.context.value key = c.context.value key
  time : clock -> c'.now = c.now

section

variable {c c' : Circumstances}

theorem Circumstances.Agree.mono {reads reads' : String -> Prop} {clock clock' : Prop}
    (h : Agree reads clock c c') (hreads : ∀ key, reads' key -> reads key)
    (hclock : clock' -> clock) : Agree reads' clock' c c' :=
  ⟨fun key hkey => h.context key (hreads key hkey), fun htime => h.time (hclock htime)⟩

namespace Condition

variable {condition : Condition}

theorem resolve_congr (h : Circumstances.Agree condition.Reads condition.ReadsClock c c') :
    c'.resolve condition = c.resolve condition := by
  have hfield {key : String} (hkey : condition.Reads key) : c'.field key = c.field key :=
    congrArg comparedText (h.context key hkey)
  unfold Circumstances.resolve
  cases hgiven : condition.contextKey.filter (· != "") with
  | some key =>
      obtain ⟨hkey, hnonempty⟩ := Option.filter_eq_some_iff.1 hgiven
      exact hfield (.key hkey (by simpa using hnonempty))
  | none =>
      have hunkeyed : condition.Unkeyed := fun key hkey => by
        simpa using Option.filter_eq_none_iff.1 hgiven key hkey
      dsimp only
      split
      · rename_i hkind
        have hkind : condition.kind = "path" ∨ condition.kind = "resource" := by
          simpa [resourceKinds] using hkind
        have hresource := h.context "resource" (.resource hunkeyed hkind (.inl rfl))
        simp only [Circumstances.resource]
        simp only [Context.value] at hresource
        rw [hresource, hfield (.resource hunkeyed hkind (.inr rfl))]
      · rename_i hresource
        have hresource : condition.kind ≠ "path" ∧ condition.kind ≠ "resource" := by
          simpa [resourceKinds] using hresource
        split
        · rename_i htime
          rw [h.time ⟨hunkeyed, by simpa [timeKind] using htime⟩]
        · rename_i htime
          exact hfield (.kind hunkeyed hresource.1 hresource.2 (by simpa [timeKind] using htime))

theorem holds_congr (h : Circumstances.Agree condition.Reads condition.ReadsClock c c') :
    condition.holds c' = condition.holds c := by
  unfold holds
  rw [resolve_congr h]

theorem allHold_congr {conditions : List Condition}
    (h : ∀ condition ∈ conditions,
      Circumstances.Agree condition.Reads condition.ReadsClock c c') :
    allHold c' conditions = allHold c conditions := by
  induction conditions with
  | nil => rfl
  | cons condition rest ih =>
      obtain ⟨hcondition, hrest⟩ := List.forall_mem_cons.1 h
      rw [allHold, allHold, holds_congr hcondition, ih hrest]

end Condition

namespace Policy

theorem firstMatch_congr {name : String} {rules : List Rule}
    (h : ∀ rule ∈ rules, ∀ condition ∈ rule.conditions,
      Circumstances.Agree condition.Reads condition.ReadsClock c c') (index : Nat) :
    firstMatch c' name index rules = firstMatch c name index rules := by
  induction rules generalizing index with
  | nil => rfl
  | cons rule rest ih =>
      obtain ⟨hrule, hrest⟩ := List.forall_mem_cons.1 h
      have happlies : rule.applies c' name = rule.applies c name := by
        unfold Rule.applies
        rw [Condition.allHold_congr hrule]
      rw [firstMatch, firstMatch, happlies, ih hrest]

/-- What a policy finds depends on no more than it reads. -/
theorem findMatch_congr {p : Policy} (h : Circumstances.Agree p.Reads p.ReadsClock c c')
    (name : String) : p.findMatch name c' = p.findMatch name c := by
  refine firstMatch_congr (fun rule hrule condition hcondition => ?_) 0
  exact h.mono (fun key hkey => ⟨rule, hrule, condition, hcondition, hkey⟩)
    fun hclock => ⟨rule, hrule, condition, hcondition, hclock⟩

end Policy

end

end Clearance
