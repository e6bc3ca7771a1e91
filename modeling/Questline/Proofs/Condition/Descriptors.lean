import Questline.Proofs.Condition.Reading
import Questline.Proofs.Requirement.Equality
import Questline.Records.Dialogue

/-!
# Descriptors and conditions

A descriptor of a dialogue response and the condition that says the same in a script have the
same requirement.

## Main definitions

* `statNames`: what scripts and descriptors call the scores of a character
* `Spelling`: how the condition of a descriptor begins in a script

## Main results

* `find?_stat`, `functionRequirement_stat`: the two tables of scores agree
* `Spelling.translate_eq`: a descriptor and its condition have equal requirements
-/

namespace Questline

/-! ### Scores of a character -/

/-- The scores that are neither attributes nor skills, with their kinds. -/
def otherStats : List (String × Kind) :=
  [("level", .level), ("reputation", .reputation), ("health", .health)]

/-- The scores of a character that scripts ask for with `Get` and descriptors with `pc`. -/
def statNames : List String :=
  skillNames ++ attributeNames ++ otherStats.map (·.1)

variable {stat : String} {i : Nat} (c : Comparison) (x : Float)

/-- The requirement of a score of the player. -/
def Command.onPlayer (k : Command) : Requirement :=
  { kind := k.kind, comparison := c, value := some x, object := some player,
    attributeIndex := k.attributeIndex, skillIndex := k.skillIndex }

theorem find?_skill : ∀ s ∈ skillNames, ∃ i, skillIndex? s = some i ∧
    Command.find? ("get" ++ s) = some { kind := .skill, skillIndex := some i } := by
  decide +kernel

theorem find?_attribute : ∀ s ∈ attributeNames, ∃ i, attributeIndex? s = some i ∧
    skillIndex? s = none ∧
    Command.find? ("get" ++ s) =
      some { kind := .characterAttribute, attributeIndex := some i } := by
  decide +kernel

theorem find?_other : ∀ k ∈ otherStats, skillIndex? k.1 = none ∧ attributeIndex? k.1 = none ∧
    Command.find? ("get" ++ k.1) = some { kind := k.2 } := by
  decide +kernel

/-- The scores of the player are known to descriptors as they are to scripts. -/
theorem functionRequirement_stat (hstat : stat ∈ statNames) :
    ∃ k, Command.find? ("get" ++ stat) = some k ∧
      functionRequirement ("pc" ++ stat) c x = k.onPlayer c x := by
  have hlist : ("pc" ++ stat).toList = 'p' :: 'c' :: stat.toList := String.toList_append
  have hchoice : "pc" ++ stat ≠ "choice" := fun h => by
    rw [h] at hlist
    exact absurd (List.cons.inj hlist).1 (by decide)
  unfold functionRequirement
  rewrite [if_neg hchoice]
  split
  · next s heq =>
    have hs : String.ofList s = stat := by
      rw [hlist] at heq
      obtain ⟨-, heq⟩ := List.cons.inj heq
      rw [← (List.cons.inj heq).2, String.ofList_toList]
    rewrite [hs]
    dsimp only
    rw [statNames, List.mem_append, List.mem_append] at hstat
    obtain (hskill | hattribute) | hother := hstat
    · obtain ⟨i, hi, hfind⟩ := find?_skill stat hskill
      refine ⟨_, hfind, ?_⟩
      rewrite [hi]
      rfl
    · obtain ⟨i, hi, hnone, hfind⟩ := find?_attribute stat hattribute
      refine ⟨_, hfind, ?_⟩
      rewrite [hi, hnone]
      rfl
    · obtain ⟨⟨name, kind⟩, hmem, rfl⟩ := List.mem_map.1 hother
      obtain ⟨hskill, hattribute, hfind⟩ := find?_other _ hmem
      refine ⟨_, hfind, ?_⟩
      rewrite [hskill, hattribute]
      simp only [otherStats, List.mem_cons, Prod.mk.injEq, List.not_mem_nil, or_false] at hmem
      obtain ⟨rfl, rfl⟩ | ⟨rfl, rfl⟩ | ⟨rfl, rfl⟩ := hmem
      · rfl
      · rfl
      · rfl
  · next hne => exact absurd hlist (hne _)

/-! ### Requirements of conditions -/

variable {c x}

/-- The name that a descriptor is about. -/
def descriptorName (n : String) : String :=
  (String.ofList (trim n.toList)).toLower

theorem nameOf_quoted (n : String) :
    nameOf ('"' :: (n.toList ++ ['"'])) = descriptorName n := by
  rw [nameOf, unquote_quoted, descriptorName]

section

variable {d : Decimal} {globals : Names} {scope : Scope} {w t : List Char}
  {object argument : Option (List Char)} {k : Command} {n : String}

/-- A known command that is compared with a decimal. -/
theorem requirement_of_find? (hx : Number.readFloat? d.text = some x)
    (hk : Command.find? (String.ofList w).toLower = some k) :
    Condition.requirement globals scope
        { scope := object, command := w, argument, test := some (c, d.text) } =
      ({ kind := k.kindFor (object.map nameOf), comparison := c, value := some x
         operand := argument.map nameOf
         object := (object.map nameOf).or
           (if playerOnly.contains (String.ofList w).toLower then some player else none)
         attributeIndex := k.attributeIndex, skillIndex := k.skillIndex }, none) := by
  rw [Condition.requirement, Condition.operand, Condition.commandName, hk]
  dsimp only
  rw [Requirement.against, hx]
  rfl

/-- Commands for the player only are commands. -/
theorem find?_isSome_of_mem_playerOnly :
    ∀ name ∈ playerOnly, (Command.find? name).isSome = true := by
  decide +kernel

/-- A global variable that is compared with a decimal. -/
theorem requirement_of_global (hx : Number.readFloat? d.text = some x)
    (hk : Command.find? (String.ofList w).toLower = none)
    (hlocal : (String.ofList w).toLower ∉ scope.locals)
    (hglobal : (String.ofList w).toLower ∈ globals) :
    Condition.requirement globals scope
        { scope := none, command := w, argument := none, test := some (c, d.text) } =
      ({ kind := .globalVariable, comparison := c, value := some x
         operand := some (String.ofList w).toLower }, none) := by
  have hplayer : playerOnly.contains (String.ofList w).toLower = false := by
    rw [← Bool.not_eq_true, List.contains_iff_mem]
    intro hmem
    have hsome := find?_isSome_of_mem_playerOnly _ hmem
    rw [hk] at hsome
    cases hsome
  have hlocal' : ¬scope.locals.contains (String.ofList w).toLower = true := hlocal
  have hglobal' : globals.contains (String.ofList w).toLower = true := hglobal
  have hoperand : Condition.operand globals scope
      { scope := none, command := w, argument := none, test := some (c, d.text) } =
        (.onGlobal c (String.ofList w).toLower, none) := by
    rw [Condition.operand, Condition.commandName, hk]
    dsimp only
    rw [if_neg hlocal', if_pos hglobal']
    rfl
  rw [Condition.requirement, hoperand, Condition.object, Condition.commandName, hplayer]
  dsimp only
  rw [Requirement.against, hx]
  rfl

theorem nameOf_player : nameOf "player".toList = player := by
  decide +kernel

theorem Command.kindFor_player (k : Command) : k.kindFor (some player) = k.kind := by
  rw [kindFor, Option.any_some, bne_self_eq_false]
  rfl

/-- A command with a quoted argument. -/
theorem translate_quoted (hx : Number.readFloat? d.text = some x) (hw : IsCommandText w)
    (hk : Command.find? (String.ofList w).toLower = some k) (hn : '"' ∉ n.toList) :
    translate globals scope (w ++ ' ' :: '"' :: (n.toList ++ '"' :: ' ' :: comparisonText c d)) =
      .ok ({ kind := k.kind, comparison := c, value := some x, operand := some (descriptorName n)
             object :=
               if playerOnly.contains (String.ofList w).toLower then some player else none
             attributeIndex := k.attributeIndex, skillIndex := k.skillIndex }, none) := by
  have htail := Condition.isTail_quoted c d hn
  have htrim := hw.isWordText.trim_append
    (' ' :: '"' :: (n.toList ++ '"' :: ' ' :: comparisonText c d))
  rw [trimEnd_quoted_comparisonText] at htrim
  rw [translate_command globals scope hw htail htrim, requirement_of_find? hx hk, Option.map_some,
    nameOf_quoted]
  rfl

/-- A command with a quoted argument that is applied to the player. -/
theorem translate_playerQuoted (hx : Number.readFloat? d.text = some x) (hw : IsCommandText w)
    (hk : Command.find? (String.ofList w).toLower = some k) (hn : '"' ∉ n.toList) :
    translate globals scope ("player->".toList ++
        (w ++ ' ' :: '"' :: (n.toList ++ '"' :: ' ' :: comparisonText c d))) =
      .ok ({ kind := k.kind, comparison := c, value := some x, operand := some (descriptorName n)
             object := some player
             attributeIndex := k.attributeIndex, skillIndex := k.skillIndex }, none) := by
  have htail := Condition.isTail_quoted c d hn
  have htrim := Condition.IsFront.player.trim_append hw.isWordText
    (' ' :: '"' :: (n.toList ++ '"' :: ' ' :: comparisonText c d))
  rw [trimEnd_quoted_comparisonText] at htrim
  rw [translate_playerCommand globals scope hw htail htrim, requirement_of_find? hx hk,
    Option.map_some, Option.map_some, nameOf_player, Command.kindFor_player, nameOf_quoted]
  rfl

/-- A command without an argument that is applied to the player. -/
theorem translate_playerTest (hx : Number.readFloat? d.text = some x) (hw : IsCommandText w)
    (hk : Command.find? (String.ofList w).toLower = some k) :
    translate globals scope ("player->".toList ++ (w ++ ' ' :: comparisonText c d)) =
      .ok (k.onPlayer c x, none) := by
  have hblank : ∀ a ∈ [' '], isBlank a = true := forall_mem_of_all (by decide)
  have htail := Condition.isTail_comparison c d (List.cons_ne_nil ' ' []) hblank
  have htrim := Condition.IsFront.player.trim_append hw.isWordText ([' '] ++ comparisonText c d)
  rw [trimEnd_append_comparisonText] at htrim
  have htranslate := translate_playerCommand globals scope hw htail htrim
  rw [requirement_of_find? hx hk, Option.map_some, nameOf_player, Command.kindFor_player]
    at htranslate
  exact htranslate

/-- A global variable. -/
theorem translate_global (hx : Number.readFloat? d.text = some x)
    (hn : IsCommandText (trim n.toList)) (hk : Command.find? (descriptorName n) = none)
    (hlocal : descriptorName n ∉ scope.locals) (hglobal : descriptorName n ∈ globals) :
    translate globals scope (n.toList ++ ' ' :: comparisonText c d) =
      .ok ({ kind := .globalVariable, comparison := c, value := some x
             operand := some (descriptorName n) }, none) := by
  obtain ⟨g, hg, hblank⟩ := exists_trimEnd_append (trimStart n.toList)
  rw [← trim] at hg
  have hgap : ∀ a ∈ g ++ [' '], isBlank a = true :=
    List.forall_mem_append.2 ⟨hblank, forall_mem_of_all (by decide)⟩
  have hne : g ++ [' '] ≠ [] := List.append_ne_nil_of_right_ne_nil g (List.cons_ne_nil _ _)
  have htail := Condition.isTail_comparison c d hne hgap
  have hne : trimStart n.toList ≠ [] := by
    rw [hg]
    exact List.append_ne_nil_of_left_ne_nil hn.isWordText.1 g
  have htrim : trim (n.toList ++ ' ' :: comparisonText c d) =
      trim n.toList ++ ((g ++ [' ']) ++ comparisonText c d) := by
    have h := trim_append_comparisonText c d (n.toList ++ [' '])
    rw [List.append_assoc, List.singleton_append] at h
    rw [h, trimStart, List.dropWhile_append, ← trimStart,
      if_neg (by rwa [List.isEmpty_iff]), List.append_assoc, List.singleton_append,
      ← List.append_assoc, ← hg]
  rw [translate_command globals scope hn htail htrim]
  exact congrArg Except.ok (requirement_of_global hx hk hlocal hglobal)

end

/-! ### The same in a script -/

/-- How the condition of a descriptor with the name `n` begins in a script, before the
comparison: a journal index, a number of items, a number of deaths, a score of the player, or
a global variable that is no command and is not hidden by a local one. -/
inductive Spelling (t : Translator) (scope : Scope) :
    (kind : DescriptorKind) → (n text : String) → Prop where
  | journal {n : String} (hn : '"' ∉ n.toList) :
      Spelling t scope .journal n ("GetJournalIndex \"" ++ n ++ "\"")
  | item {n : String} (hn : '"' ∉ n.toList) :
      Spelling t scope .item n ("player->GetItemCount \"" ++ n ++ "\"")
  | dead {n : String} (hn : '"' ∉ n.toList) :
      Spelling t scope .dead n ("GetDeadCount \"" ++ n ++ "\"")
  | function {n stat : String} (hstat : stat.toLower ∈ statNames)
      (hn : descriptorName n = "pc" ++ stat.toLower) :
      Spelling t scope .function n ("player->Get" ++ stat)
  | globalVariable {n : String} (hn : IsCommandText (trim n.toList))
      (hglobal : descriptorName n ∈ t.globals) (hcommand : Command.find? (descriptorName n) = none)
      (hlocal : descriptorName n ∉ scope.locals) :
      Spelling t scope .globalVariable n n

variable {t : Translator} {scope : Scope} {kind : DescriptorKind} {n text : String}

theorem toList_comparison (text : String) (c : Comparison) (d : Decimal) :
    (text ++ " " ++ c.symbol ++ " " ++ String.ofList d.text).toList =
      text.toList ++ ' ' :: comparisonText c d := by
  simp [comparisonText]

/-- The words that the descriptors of one name have in scripts. -/
theorem find?_getJournalIndex :
    Command.find? (String.ofList "GetJournalIndex".toList).toLower = some { kind := .journal } ∧
      playerOnly.contains (String.ofList "GetJournalIndex".toList).toLower = true := by
  decide +kernel

theorem find?_getItemCount :
    Command.find? (String.ofList "GetItemCount".toList).toLower =
      some { kind := .item, actorKind := some .actorItem } := by
  decide +kernel

theorem find?_getDeadCount :
    Command.find? (String.ofList "GetDeadCount".toList).toLower = some { kind := .dead } ∧
      playerOnly.contains (String.ofList "GetDeadCount".toList).toLower = false := by
  decide +kernel

theorem isWord_of_toLower_mem_statNames {stat : String} (h : stat.toLower ∈ statNames) :
    stat.toList.all isWord = true := by
  have hall : ∀ s ∈ statNames, s.toList.all isWord = true := by decide +kernel
  have hlower := hall _ h
  rw [toList_toLower, List.all_map] at hlower
  exact List.all_eq_true.2 fun c hc => isWord_of_isWord_toLower (List.all_eq_true.1 hlower c hc)

namespace Spelling

/-- The condition is read as the requirement of the descriptor. -/
theorem translate_eq (h : Spelling t scope kind n text) {d : Decimal}
    (hx : Number.readFloat? d.text = some x) (speaker : Option String) :
    translate t.globals scope (text.toList ++ ' ' :: comparisonText c d) =
      .ok (Descriptor.requirement { kind, comparison := c, name := n, value := x } speaker,
        none) := by
  cases h with
  | journal hn =>
    have hw : IsCommandText "GetJournalIndex".toList := ⟨_, _, rfl, by decide, by decide⟩
    have htext : ("GetJournalIndex \"" ++ n ++ "\"").toList ++ ' ' :: comparisonText c d =
        "GetJournalIndex".toList ++
          ' ' :: '"' :: (n.toList ++ '"' :: ' ' :: comparisonText c d) := by
      simp
    obtain ⟨hk, hplayer⟩ := find?_getJournalIndex
    rw [htext, translate_quoted hx hw hk hn, if_pos hplayer]
    rfl
  | item hn =>
    have hw : IsCommandText "GetItemCount".toList := ⟨_, _, rfl, by decide, by decide⟩
    have htext : ("player->GetItemCount \"" ++ n ++ "\"").toList ++ ' ' :: comparisonText c d =
        "player->".toList ++ ("GetItemCount".toList ++
          ' ' :: '"' :: (n.toList ++ '"' :: ' ' :: comparisonText c d)) := by
      simp
    rw [htext, translate_playerQuoted hx hw find?_getItemCount hn]
    rfl
  | dead hn =>
    have hw : IsCommandText "GetDeadCount".toList := ⟨_, _, rfl, by decide, by decide⟩
    have htext : ("GetDeadCount \"" ++ n ++ "\"").toList ++ ' ' :: comparisonText c d =
        "GetDeadCount".toList ++ ' ' :: '"' :: (n.toList ++ '"' :: ' ' :: comparisonText c d) := by
      simp
    obtain ⟨hk, hplayer⟩ := find?_getDeadCount
    rw [htext, translate_quoted hx hw hk hn, hplayer]
    rfl
  | @function n stat hstat hn =>
    have hword := isWord_of_toLower_mem_statNames hstat
    have hw : IsCommandText ("Get" ++ stat).toList := by
      refine ⟨'G', "et".toList ++ stat.toList, String.toList_append, by decide, ?_⟩
      rw [List.all_append, hword]
      decide
    have htext : ("player->Get" ++ stat).toList ++ ' ' :: comparisonText c d =
        "player->".toList ++ (("Get" ++ stat).toList ++ ' ' :: comparisonText c d) := by
      simp
    have hlower : (String.ofList ("Get" ++ stat).toList).toLower = "get" ++ stat.toLower := by
      have hget : "Get".toLower = "get" := by decide +kernel
      rw [String.ofList_toList, toLower_append, hget]
    obtain ⟨k, hk, hrequirement⟩ := functionRequirement_stat c x hstat
    rw [htext, translate_playerTest hx hw (hlower ▸ hk), ← hrequirement, ← hn]
    rfl
  | globalVariable hn hglobal hcommand hlocal =>
    rw [translate_global hx hn hcommand hlocal hglobal]
    rfl

/-- The descriptor compares with the number. -/
theorem value_requirement (h : Spelling t scope kind n text) (speaker : Option String) :
    (Descriptor.requirement { kind, comparison := c, name := n, value := x } speaker).value =
      some x := by
  cases h with
  | journal hn => rfl
  | item hn => rfl
  | dead hn => rfl
  | globalVariable hn hglobal hcommand hlocal => rfl
  | @function n stat hstat hn =>
    have hfunction : Descriptor.requirement
        { kind := .function, comparison := c, name := n, value := x } speaker =
          functionRequirement (descriptorName n) c x := rfl
    obtain ⟨k, -, hk⟩ := functionRequirement_stat c x hstat
    rw [hfunction, hn, hk]
    rfl

end Spelling

/-- A descriptor and the condition that is written the same way in a script have equal
requirements, and reading the condition leaves nothing to note. -/
theorem requirement_eq_of_spelling (h : Spelling t scope kind n text) (c : Comparison)
    (d : Decimal) :
    ∃ x, Number.readFloat? d.text = some x ∧ ∀ speaker, ∃ r,
      t.translate scope (text ++ " " ++ c.symbol ++ " " ++ String.ofList d.text).toList =
        (.ok r, t) ∧
      r = Descriptor.requirement { kind, comparison := c, name := n, value := x } speaker ∧
      (r == Descriptor.requirement { kind, comparison := c, name := n, value := x } speaker) =
        true := by
  obtain ⟨x, hx, hnan⟩ := d.readFloat?_text
  refine ⟨x, hx, fun speaker => ⟨_, ?_, rfl, ?_⟩⟩
  · rw [toList_comparison, Translator.translate, h.translate_eq hx speaker]
    rfl
  · rw [Requirement.beq_self_iff, Requirement.hasNaN, h.value_requirement]
    exact hnan

/-- Minus two and a half. -/
def minusTwoPointFive : Decimal :=
  ⟨true, ['2'], some ['5'], by decide, forall_mem_of_all (by decide), by decide, by
    rintro ds ⟨rfl⟩
    exact forall_mem_of_all (by decide)⟩

theorem day_requirement_eq_of_spelling :
    Spelling (.withGlobals ["Day"]) {} .globalVariable "\tDay " "\tDay " ∧
    ∃ x, Number.readFloat? "-2.5".toList = some x ∧ ∃ r,
      (Translator.withGlobals ["Day"]).translate {} "\tDay  <= -2.5".toList =
        (.ok r, .withGlobals ["Day"]) ∧
      (r == Descriptor.requirement
        { kind := .globalVariable, comparison := .lessOrEqual, name := "\tDay ", value := x }
        none) = true := by
  have hspelling : Spelling (.withGlobals ["Day"]) {} .globalVariable "\tDay " "\tDay " :=
    .globalVariable ⟨'D', "ay".toList, by decide +kernel, by decide, by decide⟩ (by decide +kernel)
      (by decide +kernel) (by decide +kernel)
  obtain ⟨x, hx, hequal⟩ := requirement_eq_of_spelling hspelling .lessOrEqual minusTwoPointFive
  obtain ⟨r, htranslate, -, hbeq⟩ := hequal none
  exact ⟨hspelling, x, hx, r, htranslate, hbeq⟩

end Questline
