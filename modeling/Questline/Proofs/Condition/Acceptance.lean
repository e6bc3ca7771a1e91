import Questline.Condition.Translator

/-!
# Texts that are conditions

Whether a text is read as a condition is a matter of the text alone: the local and the global
variables only say what its command stands for. A text that is not read is kept, and only such a
text is.

## Main definitions

* `Condition.ofText?`: the condition that a text is read as
* `rejected?`: what is kept of a text that is not read
* `Condition.IsNovel`: the conditions whose command is found nowhere

## Main results

* `translate_of_ofText?`, `exists_translate_error`: the texts that are read, and those that are not
* `Command.kindFor_of_table`: the kinds of known commands
* `Translator.raw_translateOrKeep`: the requirements that keep their text
* `Condition.requirement_snd_eq_some_iff`: the name that is noted
-/

namespace Questline

/-- A comparand is a number or a text, and nothing else of a requirement depends on it. -/
theorem Requirement.exists_against_eq (r : Requirement) (written : List Char) :
    ∃ value text, r.against written = { r with value, text } := by
  unfold against
  split
  · exact ⟨_, _, rfl⟩
  · exact ⟨_, _, rfl⟩

theorem Requirement.kind_against (r : Requirement) (written : List Char) :
    (r.against written).kind = r.kind := by
  obtain ⟨value, text, h⟩ := r.exists_against_eq written
  rw [h]

theorem Requirement.raw_against (r : Requirement) (written : List Char) :
    (r.against written).raw = r.raw := by
  obtain ⟨value, text, h⟩ := r.exists_against_eq written
  rw [h]

/-- What the kinds of all commands in the table have in common, the kind of a known command has. -/
theorem Command.kindFor_of_table {P : Kind → Prop}
    (hP : ∀ e ∈ table, P e.2.kind ∧ P (e.2.actorKind.getD e.2.kind)) {name : String} {k : Command}
    (h : find? name = some k) (object : Option String) : P (k.kindFor object) := by
  obtain ⟨before, after, htable, -⟩ := List.lookup_eq_some_iff.1 h
  have hmem : (name, k) ∈ table := by
    rw [htable]
    exact List.mem_append_right _ List.mem_cons_self
  obtain ⟨hkind, hactor⟩ := hP (name, k) hmem
  unfold kindFor
  split
  · exact hactor
  · exact hkind

namespace Condition

/-- The condition that a text is read as, if it is. -/
def ofText? (text : List Char) : Option Condition :=
  let t := stripParens text
  if t.isEmpty ∨ (MemberTest.read? t).isSome then none else read? t

/-- The command of the condition is none of the known ones, nor the name of a variable. -/
structure IsNovel (globals locals : Names) (c : Condition) : Prop where
  find?_eq : Command.find? c.commandName = none
  not_mem_globals : c.commandName ∉ globals
  not_mem_locals : c.commandName ∉ locals

/-- The requirement of a condition is what it tests, on an object and with a comparand. -/
theorem exists_requirement_eq (c : Condition) (globals : Names) (scope : Scope) :
    ∃ value text, c.requirement globals scope =
      ({ (c.operand globals scope).1 with object := c.object, value, text },
        (c.operand globals scope).2) := by
  unfold requirement
  dsimp only
  cases c.test with
  | some test =>
    obtain ⟨value, text, h⟩ := Requirement.exists_against_eq
      { (c.operand globals scope).1 with object := c.object } test.2
    exact ⟨value, text, Prod.ext h rfl⟩
  | none => exact ⟨_, _, rfl⟩

variable {globals : Names} {scope : Scope} {c : Condition}

/-- The name that is noted of a condition is that of its command, if it is found nowhere. -/
theorem requirement_snd_eq_some_iff {name : String} :
    (c.requirement globals scope).2 = some name ↔
      c.IsNovel globals scope.locals ∧ c.commandName = name := by
  obtain ⟨value, text, hrequirement⟩ := c.exists_requirement_eq globals scope
  rw [hrequirement, operand]
  cases hfind : Command.find? c.commandName with
  | some k => simpa using fun h : c.IsNovel _ _ => absurd h.find?_eq (by simp [hfind])
  | none =>
    by_cases hlocal : c.commandName ∈ scope.locals
    · simpa [hlocal] using fun h : c.IsNovel _ _ => absurd hlocal h.not_mem_locals
    · by_cases hglobal : c.commandName ∈ globals
      · simpa [hlocal, hglobal] using fun h : c.IsNovel _ _ => absurd hglobal h.not_mem_globals
      · simpa [hlocal, hglobal] using fun _ => ⟨hfind, hglobal, hlocal⟩

end Condition

/-! ### Reading a text -/

variable {globals : Names} {scope : Scope} {text : List Char} {c : Condition}

theorem translate_of_ofText? (h : Condition.ofText? text = some c) :
    translate globals scope text = .ok (c.requirement globals scope) := by
  unfold Condition.ofText? at h
  dsimp only at h
  split at h
  · cases h
  · next hnone =>
    obtain ⟨hempty, hmember⟩ := not_or.1 hnone
    rw [Option.not_isSome_iff_eq_none] at hmember
    unfold translate
    dsimp only
    rw [if_neg hempty, hmember, h]

theorem exists_translate_error (h : Condition.ofText? text = none) (globals : Names)
    (scope : Scope) : ∃ e, translate globals scope text = .error e := by
  unfold Condition.ofText? at h
  unfold translate
  dsimp only at h ⊢
  split
  · exact ⟨_, rfl⟩
  · next hempty =>
    cases hmember : MemberTest.read? (stripParens text) with
    | some m => exact ⟨_, rfl⟩
    | none =>
      have hnone : ¬((stripParens text).isEmpty = true ∨
          (MemberTest.read? (stripParens text)).isSome = true) := by
        rw [hmember]
        exact not_or.2 ⟨hempty, Bool.false_ne_true⟩
      rw [if_neg hnone] at h
      rw [h]
      exact ⟨_, rfl⟩

/-- What is kept of a text that is not read as a condition. -/
def rejected? (text : List Char) : Option String :=
  if (Condition.ofText? text).isSome then none else some (String.ofList (trim text))

theorem rejected?_of_ofText? (h : Condition.ofText? text = some c) : rejected? text = none := by
  rw [rejected?, h]
  rfl

theorem rejected?_eq_some (h : Condition.ofText? text = none) :
    rejected? text = some (String.ofList (trim text)) := by
  rw [rejected?, h]
  rfl

/-! ### The text of a requirement -/

theorem Condition.raw_requirement (c : Condition) (globals : Names) (scope : Scope) :
    (c.requirement globals scope).1.raw = none := by
  obtain ⟨value, text, hrequirement⟩ := c.exists_requirement_eq globals scope
  rw [hrequirement]
  change (c.operand globals scope).1.raw = none
  unfold operand
  cases Command.find? c.commandName with
  | some k => rfl
  | none =>
    dsimp only
    split
    · rfl
    · split <;> rfl

/-- The requirement that keeps a text is of unknown kind. -/
theorem kind_raw_verbatim (text : List Char) : (verbatim text).kind = .unknown ∧
    (verbatim text).raw = some (String.ofList (trim text)) := by
  unfold verbatim
  dsimp only
  split
  · split
    · exact ⟨Requirement.kind_against _ _, Requirement.raw_against _ _⟩
    · exact ⟨rfl, rfl⟩
  · exact ⟨rfl, rfl⟩

namespace Translator

variable (t : Translator) (scope : Scope) (text : List Char)

/-- A requirement keeps its text exactly if the text is not read. -/
theorem raw_translateOrKeep : (t.translateOrKeep scope text).1.raw = rejected? text := by
  unfold translateOrKeep
  cases h : Condition.ofText? text with
  | some c =>
    rw [translate_of_ofText? h, rejected?_of_ofText? h]
    exact c.raw_requirement t.globals scope
  | none =>
    obtain ⟨e, he⟩ := exists_translate_error h t.globals scope
    rw [he, rejected?_eq_some h]
    exact (kind_raw_verbatim text).2

/-- The texts that a translator rejects are those that are not read. -/
theorem exists_translate_eq_error_iff :
    (∃ e, (t.translate scope text).1 = .error e) ↔ (rejected? text).isSome = true := by
  unfold translate
  cases h : Condition.ofText? text with
  | some c =>
    rw [translate_of_ofText? h, rejected?_of_ofText? h]
    simp
  | none =>
    obtain ⟨e, he⟩ := exists_translate_error h t.globals scope
    rw [he, rejected?_eq_some h]
    simp

variable {t scope text}

theorem translate_fst_of_ofText? {c : Condition} (h : Condition.ofText? text = some c) :
    (t.translate scope text).1 = .ok (c.requirement t.globals scope).1 := by
  rw [translate, translate_of_ofText? h]

/-- A translator notes nothing of a text that it rejects. -/
theorem translate_snd_of_error {e : Misreading} (h : (t.translate scope text).1 = .error e) :
    (t.translate scope text).2 = t := by
  unfold translate at h ⊢
  cases htranslate : Questline.translate t.globals scope text with
  | ok x =>
    rw [htranslate] at h
    cases h
  | error e => rfl

end Translator

end Questline
