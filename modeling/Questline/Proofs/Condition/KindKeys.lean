import Questline.Proofs.Condition.Acceptance
import Questline.Proofs.Condition.Descriptors
import Questline.Proofs.Requirement.Gate

/-!
# Kinds and their keys

A requirement is written with the key of its kind and read back by that key. Known kinds are found
again, and so is a kind of its own unless its key is that of a known kind. Scripts only make kinds
of their own from names of commands, none of which is such a key; a descriptor makes one of any
function that it calls and that has no meaning of its own, and the function can be called like a
known kind.

## Main definitions

* `Kind.IsReadBack`: the kinds that are found again by their keys
* `Descriptor.BorrowsKey`: the descriptors of a function that is called like a known kind

## Main results

* `Kind.isReadBack_custom_iff`: the kinds of their own that are found again
* `Command.isReadBack_kindFor`, `isReadBack_functionRequirement_iff`: the kinds of commands and
  of functions
* `isReadBack_requirements`: the kinds of all requirements that can come up
-/

namespace Questline

namespace Kind

variable {k : Kind}

/-- The kind is found again by its key. -/
def IsReadBack (k : Kind) : Prop :=
  ofKey k.key = k

instance : DecidablePred IsReadBack :=
  fun k => inferInstanceAs (Decidable (ofKey k.key = k))

/-- Only a kind of its own is not known. -/
theorem isReadBack_of_isCustom (h : k.isCustom = false) : k.IsReadBack := by
  refine ofKey_key_of_mem_known ?_
  cases k with
  | custom _ => cases h
  | _ => decide

/-- A kind of its own is found again if no known kind has its key. -/
theorem isReadBack_custom_iff {key : String} :
    (custom key).IsReadBack ↔ key ∉ known.map Kind.key := by
  unfold IsReadBack ofKey
  rw [Kind.key]
  cases h : known.find? (·.key == key) with
  | none =>
    simpa using h
  | some k =>
    have hk : k ∈ known := List.mem_of_find?_eq_some h
    have hkey : k.key = key := by simpa using List.find?_some h
    have hne : k ≠ custom key := by
      rintro rfl
      exact absurd hk (by simp [known])
    simp only [Option.getD_some, hne, false_iff, not_not]
    exact List.mem_map.2 ⟨k, hk, hkey⟩

end Kind

/-! ### Conditions -/

namespace Command

theorem isReadBack_table :
    ∀ e ∈ table, e.2.kind.IsReadBack ∧ (e.2.actorKind.getD e.2.kind).IsReadBack := by
  decide +kernel

/-- No command is called like a known kind. -/
theorem isReadBack_kindFor {name : String} {c : Command} (h : find? name = some c)
    (object : Option String) : (c.kindFor object).IsReadBack :=
  kindFor_of_table isReadBack_table h object

end Command

/-- The requirement of a condition has the kind of its command, or is about a variable. -/
theorem Condition.isReadBack_requirement (c : Condition) (globals : Names) (scope : Scope) :
    (c.requirement globals scope).1.kind.IsReadBack := by
  obtain ⟨value, text, hrequirement⟩ := c.exists_requirement_eq globals scope
  rw [hrequirement]
  change (c.operand globals scope).1.kind.IsReadBack
  unfold operand
  split
  · next hk => exact Command.isReadBack_kindFor hk _
  · have hlocal : Kind.localVariable.IsReadBack := by decide
    have hglobal : Kind.globalVariable.IsReadBack := by decide
    split_ifs
    · exact hlocal
    · exact hglobal
    · exact hlocal

theorem isReadBack_of_translate {globals : Names} {scope : Scope} {text : List Char}
    {r : Requirement} {novel : Option String} (h : translate globals scope text = .ok (r, novel)) :
    r.kind.IsReadBack := by
  cases hc : Condition.ofText? text with
  | some c =>
    rw [translate_of_ofText? hc] at h
    have hr : (c.requirement globals scope).1 = r := congrArg Prod.fst (Except.ok.inj h)
    exact hr ▸ c.isReadBack_requirement globals scope
  | none =>
    obtain ⟨e, he⟩ := exists_translate_error hc globals scope
    rw [he] at h
    cases h

/-! ### Descriptors -/

/-- The functions that are called like their kinds. -/
def namesakes : List String :=
  ["choice", "reputation", "level"]

/-- The keys of the other known kinds: functions that are called like these have no meaning. -/
def borrowedKeys : List String :=
  (Kind.known.map Kind.key).filter (· ∉ namesakes)

/-- A function has a known kind, or has no meaning and is a kind of its own. -/
theorem kind_functionRequirement_cases {name : String} {c : Comparison} {x : Float}
    {r : Requirement} (h : functionRequirement name c x = r) :
    r.kind.isCustom = false ∨
      r.kind = .custom name ∧ name ∉ namesakes := by
  unfold functionRequirement at h
  extract_lets plain onPlayer other at h
  split_ifs at h with hchoice
  · exact .inl (h ▸ rfl)
  · have hother : other.kind.isCustom = false ∨
        other.kind = .custom name ∧ name ∉ namesakes := by
      unfold other
      split
      · exact .inl rfl
      · exact .inl rfl
      · exact .inl rfl
      · exact .inl rfl
      · next _ hreputation hlevel _ _ =>
        refine .inr ⟨rfl, ?_⟩
        simp only [namesakes, List.mem_cons, List.not_mem_nil, or_false, not_or]
        exact ⟨hchoice, hreputation, hlevel⟩
    split at h
    · dsimp only at h
      split at h
      · exact .inl (h ▸ rfl)
      · exact .inl (h ▸ rfl)
      · split at h
        · exact .inl (h ▸ rfl)
        · exact .inl (h ▸ rfl)
        · exact .inl (h ▸ rfl)
        · exact .inl (h ▸ rfl)
        · exact .inl (h ▸ rfl)
        · exact .inl (h ▸ rfl)
        · exact h ▸ hother
    · exact h ▸ hother

theorem kind_functionRequirement_of_mem {name : String} (h : name ∈ borrowedKeys) (c : Comparison)
    (x : Float) : (functionRequirement name c x).kind = .custom name := by
  have hkeys : borrowedKeys = ["activated", "actor", "actorItem", "attribute", "cell", "class",
      "dead", "disabled", "disposition", "distance", "faction", "gender", "global", "health",
      "item", "journal", "local", "race", "rank", "skill", "spell", "topic", "unknown"] := by
    decide
  rw [hkeys] at h
  simp only [List.mem_cons, List.not_mem_nil, or_false] at h
  rcases h with rfl | rfl | rfl | rfl | rfl | rfl | rfl | rfl | rfl | rfl | rfl | rfl | rfl | rfl |
    rfl | rfl | rfl | rfl | rfl | rfl | rfl | rfl | rfl <;> rfl

/-- The kind of a function is found again unless the function is called like a known kind that
it is not. -/
theorem isReadBack_functionRequirement_iff {name : String} {c : Comparison} {x : Float} :
    (functionRequirement name c x).kind.IsReadBack ↔ name ∉ borrowedKeys := by
  constructor
  · intro h hname
    rw [kind_functionRequirement_of_mem hname, Kind.isReadBack_custom_iff] at h
    exact h (List.mem_filter.1 hname).1
  · intro h
    obtain hknown | ⟨hkind, hname⟩ := kind_functionRequirement_cases rfl
    · exact Kind.isReadBack_of_isCustom hknown
    · rw [hkind, Kind.isReadBack_custom_iff]
      exact fun hkey => h (List.mem_filter.2 ⟨hkey, by simpa using hname⟩)

namespace Descriptor

/-- The descriptor calls a function that is called like a known kind that it is not. -/
def BorrowsKey (d : Descriptor) : Prop :=
  d.kind = .function ∧ descriptorName d.name ∈ borrowedKeys

instance : DecidablePred BorrowsKey :=
  fun d => inferInstanceAs (Decidable (d.kind = .function ∧ descriptorName d.name ∈ borrowedKeys))

theorem isReadBack_requirement_iff {d : Descriptor} {speaker : Option String} :
    (d.requirement speaker).kind.IsReadBack ↔ ¬d.BorrowsKey := by
  cases hkind : d.kind with
  | function =>
    have hd : d.requirement speaker =
        functionRequirement (descriptorName d.name) d.comparison d.value := by
      unfold requirement
      rw [hkind]
      rfl
    rw [hd, isReadBack_functionRequirement_iff, BorrowsKey, hkind]
    simp
  | _ =>
    refine iff_of_true (Kind.isReadBack_of_isCustom ?_) fun h => ?_
    · unfold requirement
      rw [hkind]
      rfl
    · have hfunction := h.1
      rw [hkind] at hfunction
      cases hfunction

end Descriptor

/-! ### Responses -/

/-- What is added to a gate is there with its kind, if not itself. -/
theorem Gate.exists_mem_insertAll_kind {rs : List Requirement} {r : Requirement} (h : r ∈ rs)
    (g : Gate) : ∃ s ∈ (g.insertAll rs).requirements, s.kind = r.kind := by
  induction rs generalizing g with
  | nil => cases h
  | cons first rs ih =>
    rcases List.mem_cons.1 h with rfl | h
    · have hinsert : ∃ s ∈ (g.insert r).requirements, s.kind = r.kind := by
        rw [insert_eq]
        split
        · next hr =>
          obtain ⟨s, hs, hbeq⟩ := contains_iff.1 hr
          exact ⟨s, hs, (Requirement.beq_iff.1 hbeq).1.symm⟩
        · exact ⟨r, List.mem_append_right _ List.mem_cons_self, rfl⟩
      obtain ⟨s, hs, hkind⟩ := hinsert
      exact ⟨s, (isPrefix_requirements_insertAll (g.insert r) rs).subset hs, hkind⟩
    · exact ih h (g.insert first)

/-- All requirements have known kinds. -/
def AllKnown (rs : List Requirement) : Prop :=
  ∀ r ∈ rs, r.kind.isCustom = false

namespace AllKnown

variable {rs ss : List Requirement}

theorem append (hr : AllKnown rs) (hs : AllKnown ss) : AllKnown (rs ++ ss) :=
  List.forall_mem_append.2 ⟨hr, hs⟩

theorem singleton {r : Requirement} (h : r.kind.isCustom = false) : AllKnown [r] :=
  List.forall_mem_singleton.2 h

theorem toList_map {α : Type} {f : α → Requirement} (h : ∀ a, (f a).kind.isCustom = false)
    (o : Option α) : AllKnown (o.map f).toList := by
  intro r hr
  obtain ⟨a, -, rfl⟩ := Option.map_eq_some_iff.1 (Option.mem_toList.1 hr)
  exact h a

end AllKnown

namespace Response

variable (e : Response) (topic : Topic)

theorem allKnown_speakerRequirements : AllKnown (e.speakerRequirements topic) := by
  have hranked (f : String) : AllKnown (.named .faction f :: (e.rank.map (.ranked f)).toList) :=
    (AllKnown.singleton rfl).append (.toList_map (fun _ => rfl) e.rank)
  have htopic : AllKnown (if topic.kind = .topic then
      [{ kind := .topic, comparison := .equal, operand := some topic.id.toLower }] else []) := by
    split
    · exact .singleton rfl
    · exact List.forall_mem_nil _
  have hfaction : AllKnown
      (e.faction.elim [] fun f => .named .faction f :: (e.rank.map (.ranked f)).toList) := by
    cases e.faction with
    | none => exact List.forall_mem_nil _
    | some f => exact hranked f
  unfold speakerRequirements
  exact ((((htopic.append (.toList_map (fun _ => rfl) _)).append
    (.toList_map (fun _ => rfl) _)).append (.toList_map (fun _ => rfl) _)).append
    hfaction).append (.toList_map (fun _ => rfl) _)

theorem allKnown_playerRequirements : AllKnown e.playerRequirements := by
  unfold playerRequirements
  cases e.playerFaction with
  | none => exact List.forall_mem_nil _
  | some f =>
    rw [Option.elim_some, List.map_cons, ← List.singleton_append]
    refine AllKnown.append (.singleton rfl) fun r hr => ?_
    obtain ⟨q, hq, rfl⟩ := List.mem_map.1 hr
    exact AllKnown.toList_map (fun _ => rfl) _ q hq

theorem allKnown_otherRequirements : AllKnown e.otherRequirements := by
  unfold otherRequirements
  refine AllKnown.append ?_ (.toList_map (fun _ => rfl) _)
  split
  · exact .singleton rfl
  · exact List.forall_mem_nil _

/-- The kinds of a response are found again if those of its descriptors are: its filters have
known kinds, and repetitions that are left out have the kind of what they repeat. -/
theorem isReadBack_gate_iff : (∀ r ∈ (e.gate topic).requirements, r.kind.IsReadBack) ↔
    ∀ d ∈ e.descriptors, ¬d.BorrowsKey := by
  constructor
  · intro h d hd
    have hmem : d.requirement e.speaker ∈ e.requirements topic :=
      List.mem_append_right _ (List.mem_map_of_mem hd)
    obtain ⟨s, hs, hkind⟩ := Gate.exists_mem_insertAll_kind hmem {}
    rw [← Descriptor.isReadBack_requirement_iff, ← hkind]
    exact h s hs
  · intro h r hr
    have hfilters : AllKnown (e.speakerRequirements topic ++ e.playerRequirements ++
        e.otherRequirements) :=
      ((e.allKnown_speakerRequirements topic).append e.allKnown_playerRequirements).append
        e.allKnown_otherRequirements
    obtain hr | hr := Gate.mem_insertAll _ hr
    · cases hr
    · obtain hr | hr := List.mem_append.1 hr
      · exact Kind.isReadBack_of_isCustom (hfilters r hr)
      · obtain ⟨d, hd, rfl⟩ := List.mem_map.1 hr
        exact Descriptor.isReadBack_requirement_iff.2 (h d hd)

end Response

/-! ### All requirements -/

/-- The kinds of all requirements that come up are found again by their keys, those of conditions
that are read and of texts that are kept always, and those of descriptors and of responses unless
a function is called like a known kind that it is not. -/
theorem isReadBack_requirements (t : Translator) (scope : Scope) (text : List Char)
    (d : Descriptor) (speaker : Option String) (e : Response) (topic : Topic) :
    (∀ r, (t.translate scope text).1 = .ok r → Kind.ofKey r.kind.key = r.kind) ∧
    Kind.ofKey (verbatim text).kind.key = (verbatim text).kind ∧
    (Kind.ofKey (d.requirement speaker).kind.key = (d.requirement speaker).kind ↔
      ¬(d.kind = .function ∧ descriptorName d.name ∈ borrowedKeys)) ∧
    ((∀ r ∈ (e.gate topic).requirements, Kind.ofKey r.kind.key = r.kind) ↔
      ∀ d ∈ e.descriptors, ¬(d.kind = .function ∧ descriptorName d.name ∈ borrowedKeys)) := by
  refine ⟨fun r h => ?_, ?_, Descriptor.isReadBack_requirement_iff, e.isReadBack_gate_iff topic⟩
  · unfold Translator.translate at h
    split at h
    · next hread => exact Except.ok.inj h ▸ isReadBack_of_translate hread
    · cases h
  · rw [(kind_raw_verbatim text).1]
    exact Kind.isReadBack_of_isCustom rfl

/-- A function without a meaning of its own. -/
def crimeLevel : Descriptor :=
  { kind := .function, comparison := .equal, name := "PCCrimeLevel" }

theorem crimeLevel_isReadBack :
    (∃ r, (Translator.translate {} {} "GetPCSleep".toList).1 = .ok r ∧
      r.kind = .custom "getpcsleep" ∧ Kind.ofKey r.kind.key = r.kind) ∧
    (crimeLevel.requirement none).kind = .custom "pccrimelevel" ∧
    Kind.ofKey (crimeLevel.requirement none).kind.key = (crimeLevel.requirement none).kind := by
  obtain ⟨hcondition, -, hdescriptor, -⟩ :=
    isReadBack_requirements {} {} "GetPCSleep".toList crimeLevel none { id := "" } { id := "" }
  have hborrows : ¬crimeLevel.BorrowsKey := by decide +kernel
  refine ⟨?_, by decide +kernel, hdescriptor.2 hborrows⟩
  have hsleep : (Translator.translate {} {} "GetPCSleep".toList).1.toOption.map (·.kind) =
      some (.custom "getpcsleep") := by
    decide +kernel
  cases htranslate : (Translator.translate {} {} "GetPCSleep".toList).1 with
  | error e =>
    rw [htranslate] at hsleep
    cases hsleep
  | ok r =>
    rw [htranslate] at hsleep
    exact ⟨r, rfl, Option.some.inj hsleep, hcondition r htranslate⟩

/-- A function that is called like the gender of a character. -/
def genderFunction : Descriptor :=
  { kind := .function, comparison := .equal, name := "Gender" }

/-- The kind of the function is read back as the gender. -/
theorem genderFunction_not_isReadBack :
    (genderFunction.requirement none).kind = .custom "gender" ∧
      Kind.ofKey (genderFunction.requirement none).kind.key = .gender ∧
      Kind.ofKey (genderFunction.requirement none).kind.key ≠
        (genderFunction.requirement none).kind := by
  decide +kernel

end Questline
