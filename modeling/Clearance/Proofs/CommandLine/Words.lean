import Clearance.CommandLine.Invocation
import Clearance.Proofs.Engine.PlainRequests
import Clearance.Proofs.Results

/-!
# Words of a check

A check can be spelled out whatever it asks for: every option under its full name, and the
permission behind a pair of dashes.  The pairs of its context are read if each has an equals sign
with something in front of it.
-/

namespace Clearance.CommandLine

/-! ## Pairs -/

/-- A pair has an equals sign, and a key in front of the first one. -/
def WellPaired (word : String) : Prop :=
  '=' ∈ word.toList ∧ word.toList.head? ≠ some '='

theorem takeWhile_notMem {key : List Char} (h : '=' ∉ key) (rest : List Char) :
    (key ++ rest).takeWhile (· != '=') = key ++ rest.takeWhile (· != '=') :=
  List.takeWhile_append_of_pos fun _ hc => bne_iff_ne.2 fun heq => h (heq ▸ hc)

theorem splitWord_of_notMem {word : String} (h : '=' ∉ word.toList) :
    splitWord word = (word, none) := by
  have hall : word.toList.takeWhile (· != '=') = word.toList := by
    simpa using takeWhile_notMem h []
  simp [splitWord, hall]

theorem splitWord_of_append {word : String} {key value : List Char} (h : '=' ∉ key)
    (hword : word.toList = key ++ '=' :: value) :
    splitWord word = (String.ofList key, some (String.ofList value)) := by
  have hname : (key ++ '=' :: value).takeWhile (· != '=') = key := by
    rw [takeWhile_notMem h]
    simp
  simp [splitWord, hword, hname]

theorem exists_pairOf_iff {word : String} :
    (∃ pair, pairOf word = .ok pair) ↔ WellPaired word := by
  unfold WellPaired
  by_cases hmem : '=' ∈ word.toList
  · obtain ⟨key, value, hword, hkey⟩ := List.eq_append_cons_of_mem hmem
    rw [pairOf, splitWord_of_append hkey hword, hword]
    cases key with
    | nil => simp
    | cons c key =>
        have hc : c ≠ '=' := fun heq => hkey (heq ▸ List.mem_cons_self)
        simp [String.isEmpty_iff, hc]
  · rw [pairOf, splitWord_of_notMem hmem]
    simp [hmem]

/-- A pair gives its value to its key. -/
def paired (c : Context) (word : String) : Except Usage Context := do
  let (key, value) <- pairOf word
  return Table.set key (.str value) c

theorem exists_paired_iff (c : Context) (word : String) :
    (∃ c', paired c word = .ok c') ↔ WellPaired word := by
  rw [← exists_pairOf_iff, paired]
  cases pairOf word with
  | error e => exact ⟨nofun, nofun⟩
  | ok pair => exact ⟨fun _ => ⟨pair, rfl⟩, fun _ => ⟨_, rfl⟩⟩

/-- Pairs make a context if each of them is a pair. -/
theorem exists_contextOf_iff {pairs : List String} :
    (∃ c, contextOf pairs = .ok c) ↔ ∀ pair ∈ pairs, WellPaired pair :=
  exists_foldlM_eq_ok_iff exists_paired_iff []

/-- The context that pairs make is plain data. -/
theorem plain_contextOf {pairs : List String} {c : Context} (h : contextOf pairs = .ok c) :
    c.toValue.Plain := by
  have hstep (b : Context) (word : String) (c : Context) (hb : b.toValue.Plain)
      (hpaired : paired b word = .ok c) : c.toValue.Plain := by
    obtain ⟨⟨key, value⟩, -, hset⟩ := exists_of_bind_ok hpaired
    cases hset
    exact Engine.plain_set hb key (.str value)
  exact foldlM_keeps hstep Engine.plain_empty h

/-! ## Options spelled out -/

/-- A switch that is found by its name, and by that alone. -/
structure Switch.Spelled (switches : List Switch) (s : Switch) : Prop where
  found : switches.find? (fun other => other.name == s.name) = some s
  isOption : isOption s.name = true
  ne : s.name ≠ "--"
  whole : splitWord s.name = (s.name, none)

/-- An option as words: its name, and its value if it has one. -/
def spelled (item : Switch × String) : List String :=
  if item.1.hasValue then [item.1.name, item.2] else [item.1.name]

/-- What an option comes to; one without a value has the empty text. -/
def option (item : Switch × String) : String × String :=
  (item.1.name, if item.1.hasValue then item.2 else "")

variable {switches : List Switch}

theorem readOption_spelled {item : Switch × String} (h : item.1.Spelled switches)
    (rest : List String) (a : Arguments) :
    ∃ words, spelled item ++ rest = item.1.name :: words ∧
      readOption switches item.1.name words a =
        .ok (a.addOption (option item).1 (option item).2, rest) := by
  obtain ⟨⟨name, letter?, hasValue⟩, value⟩ := item
  cases hasValue with
  | true =>
      refine ⟨value :: rest, rfl, ?_⟩
      rw [readOption, h.whole]
      dsimp only
      rw [h.found]
      rfl
  | false =>
      refine ⟨rest, rfl, ?_⟩
      rw [readOption, h.whole]
      dsimp only
      rw [h.found]
      rfl

/-- Options that are spelled out are read in order, and what follows the dashes is plain. -/
theorem readWords_spelled {items : List (Switch × String)}
    (h : ∀ item ∈ items, item.1.Spelled switches) {fuel : Nat} (hfuel : items.length < fuel)
    (plain : List String) (a : Arguments) :
    readWords switches false fuel (items.flatMap spelled ++ "--" :: plain) a =
      .ok { options := a.options ++ items.map option, plain := a.plain ++ plain } := by
  induction items generalizing fuel a with
  | nil =>
      obtain ⟨n, rfl⟩ := Nat.exists_eq_add_one.2 hfuel
      simp [readWords]
  | cons item rest ih =>
      obtain ⟨n, rfl⟩ := Nat.exists_eq_add_one.2 (Nat.zero_lt_of_lt hfuel)
      obtain ⟨hitem, hrest⟩ := List.forall_mem_cons.1 h
      obtain ⟨words, hwords, hread⟩ :=
        readOption_spelled hitem (rest.flatMap spelled ++ "--" :: plain) a
      rw [List.flatMap_cons, List.append_assoc, hwords, readWords, if_neg hitem.ne,
        if_pos hitem.isOption, hread]
      dsimp only
      rw [ih hrest (Nat.lt_of_succ_lt_succ hfuel)]
      simp [Arguments.addOption]

theorem spelled_checkSwitches : ∀ s ∈ checkSwitches, s.Spelled checkSwitches := by
  intro s hs
  simp only [checkSwitches, List.mem_cons, List.not_mem_nil, or_false] at hs
  rcases hs with rfl | rfl | rfl | rfl | rfl | rfl | rfl | rfl | rfl
  all_goals exact ⟨rfl, rfl, by decide, rfl⟩

/-! ## Checks spelled out -/

def contextSwitch : Switch := { name := "--context", letter? := some 'x', hasValue := true }
def grantSwitch : Switch := { name := "--grant", letter? := some 'g', hasValue := true }
def trailSwitch : Switch := { name := "--audit-db", hasValue := true }

/-- A switch that is there or not. -/
def flag (b : Bool) (name : String) (letter? : Option Char := none) : List (Switch × String) :=
  if b then [({ name, letter? }, "")] else []

/-- The options of a check, one after another. -/
def CheckOptions.items (o : CheckOptions) : List (Switch × String) :=
  o.config?.toList.map (configSwitch, ·) ++ o.context.map (contextSwitch, ·)
    ++ o.grants.map (grantSwitch, ·) ++ o.trail?.toList.map (trailSwitch, ·)
    ++ flag o.interactive "--interactive" 'i' ++ flag o.allowUnconfirmed "--allow-unconfirmed"
    ++ flag o.asJson "--json" ++ flag o.debug "--debug"

/-- A command line for a check. -/
def CheckOptions.words (o : CheckOptions) : List String :=
  "check" :: (o.items.flatMap spelled ++ ["--", o.permission])

theorem eq_of_mem_flag {b : Bool} {name : String} {letter? : Option Char} {item : Switch × String}
    (h : item ∈ flag b name letter?) : item = ({ name, letter? }, "") := by
  cases b with
  | true => exact List.mem_singleton.1 h
  | false => cases h

theorem CheckOptions.mem_checkSwitches {o : CheckOptions} {item : Switch × String}
    (h : item ∈ o.items) : item.1 ∈ checkSwitches := by
  simp only [items, List.mem_append, List.mem_map, or_assoc] at h
  rcases h with ⟨_, -, rfl⟩ | ⟨_, -, rfl⟩ | ⟨_, -, rfl⟩ | ⟨_, -, rfl⟩ | h | h | h | h
  case inl | inr.inl | inr.inr.inl | inr.inr.inr.inl =>
    simp [checkSwitches, contextSwitch, grantSwitch, trailSwitch]
  all_goals rw [eq_of_mem_flag h]
  all_goals simp [checkSwitches]

/-- The values of an option among options that are spelled out. -/
def valuesAmong (name : String) (items : List (Switch × String)) : List String :=
  (items.map option).filterMap fun (n, v) => if n = name then some v else none

theorem valuesAmong_append (name : String) (items more : List (Switch × String)) :
    valuesAmong name (items ++ more) = valuesAmong name items ++ valuesAmong name more := by
  rw [valuesAmong, List.map_append, List.filterMap_append]
  rfl

theorem valuesAmong_map (name : String) {s : Switch} (h : s.hasValue = true)
    (values : List String) :
    valuesAmong name (values.map (s, ·)) = if s.name = name then values else [] := by
  induction values with
  | nil => simp [valuesAmong]
  | cons value rest ih =>
      have hcons : valuesAmong name ((value :: rest).map (s, ·)) =
          valuesAmong name [(s, value)] ++ valuesAmong name (rest.map (s, ·)) :=
        valuesAmong_append name [(s, value)] _
      rw [hcons, ih]
      by_cases hname : s.name = name
      · simp [valuesAmong, option, h, hname]
      · simp [valuesAmong, option, hname]

theorem valuesAmong_flag (name : String) (b : Bool) (other : String) (letter? : Option Char) :
    valuesAmong name (flag b other letter?) = if other = name && b then [""] else [] := by
  cases b with
  | true => by_cases hname : other = name <;> simp [valuesAmong, flag, option, hname]
  | false => simp [valuesAmong, flag]

theorem length_le_spelled (items : List (Switch × String)) :
    items.length ≤ (items.flatMap spelled).length := by
  induction items with
  | nil => exact Nat.le_refl 0
  | cons item rest ih =>
      have hone : 1 ≤ (spelled item).length := by
        unfold spelled
        split <;> simp
      rw [List.flatMap_cons, List.length_append, List.length_cons]
      omega

theorem CheckOptions.valuesAmong_items (name : String) (o : CheckOptions) :
    valuesAmong name o.items =
      (if "--config" = name then o.config?.toList else []) ++
      (if "--context" = name then o.context else []) ++
      (if "--grant" = name then o.grants else []) ++
      (if "--audit-db" = name then o.trail?.toList else []) ++
      (if "--interactive" = name && o.interactive then [""] else []) ++
      (if "--allow-unconfirmed" = name && o.allowUnconfirmed then [""] else []) ++
      (if "--json" = name && o.asJson then [""] else []) ++
      (if "--debug" = name && o.debug then [""] else []) := by
  have hconfig := valuesAmong_map name (s := configSwitch) rfl o.config?.toList
  have hcontext := valuesAmong_map name (s := contextSwitch) rfl o.context
  have hgrant := valuesAmong_map name (s := grantSwitch) rfl o.grants
  have htrail := valuesAmong_map name (s := trailSwitch) rfl o.trail?.toList
  simp only [items, valuesAmong_append, valuesAmong_flag, hconfig, hcontext, hgrant, htrail]
  rfl

/-- The options of a check that are spelled out are read as the check. -/
theorem CheckOptions.checkOptions_items (o : CheckOptions) :
    let a : Arguments := { options := o.items.map option, plain := [o.permission] }
    a.has "--help" = false ∧ checkOptions a = .ok o := by
  intro a
  have hvalues (name : String) : a.values name = valuesAmong name o.items := rfl
  have hlast (value? : Option String) : value?.toList.getLast? = value? := by
    cases value? <;> rfl
  have hflag (b : Bool) : (!(if b then [""] else []).isEmpty) = b := by
    cases b <;> rfl
  refine ⟨by simp [Arguments.has, hvalues, valuesAmong_items], ?_⟩
  have hconfig : a.value? "--config" = o.config? := by
    simp [Arguments.value?, hvalues, valuesAmong_items, hlast]
  have hcontext : a.values "--context" = o.context := by
    simp [hvalues, valuesAmong_items]
  have hgrants : a.values "--grant" = o.grants := by
    simp [hvalues, valuesAmong_items]
  have htrail : a.value? "--audit-db" = o.trail? := by
    simp [Arguments.value?, hvalues, valuesAmong_items, hlast]
  have hinteractive : a.has "--interactive" = o.interactive := by
    simp [Arguments.has, hvalues, valuesAmong_items, hflag]
  have hunconfirmed : a.has "--allow-unconfirmed" = o.allowUnconfirmed := by
    simp [Arguments.has, hvalues, valuesAmong_items, hflag]
  have hjson : a.has "--json" = o.asJson := by
    simp [Arguments.has, hvalues, valuesAmong_items, hflag]
  have hdebug : a.has "--debug" = o.debug := by
    simp [Arguments.has, hvalues, valuesAmong_items, hflag]
  rw [checkOptions, hconfig, hcontext, hgrants, htrail, hinteractive, hunconfirmed, hjson, hdebug]
  rfl

/-- Every check has a command line. -/
theorem CheckOptions.ofWords_words (o : CheckOptions) :
    Invocation.ofWords o.words = .ok (.check o) := by
  have hbefore : Arguments.beforeCommand mainSwitches o.words = .ok { plain := o.words } := by
    rw [words, Arguments.beforeCommand, List.length_cons, readWords, if_neg (by decide),
      if_neg (by decide), if_pos rfl]
    rfl
  have hread : Arguments.ofWords checkSwitches (o.items.flatMap spelled ++ ["--", o.permission]) =
      .ok { options := o.items.map option, plain := [o.permission] } := by
    have hlength := length_le_spelled o.items
    rw [Arguments.ofWords, readWords_spelled fun item hitem =>
      spelled_checkSwitches _ (mem_checkSwitches hitem)]
    · rfl
    · rw [List.length_append]
      omega
  obtain ⟨hhelp, hoptions⟩ := o.checkOptions_items
  have hcommand : Invocation.ofCommand "check" (o.items.flatMap spelled ++ ["--", o.permission]) =
      .ok (.check o) := by
    change command checkSwitches _ _ = _
    rw [command, hread]
    change (if _ then _ else _) = _
    rw [hhelp]
    change (checkOptions _ >>= fun o => pure (Invocation.check o)) = _
    rw [hoptions]
    rfl
  simp only [Invocation.ofWords, hbefore, bind, Except.bind, List.find?_nil]
  exact hcommand

end Clearance.CommandLine
