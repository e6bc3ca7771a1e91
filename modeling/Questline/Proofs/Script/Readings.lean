import Questline.Proofs.Script.Parts

/-!
# What a translator notes while a script is read

Which conditions of a script are read, in which order and in what scope, depends on its text and on
the global variables only, not on what was noted before. So a script adds the same notes to any
translator that knows the same global variables, and of several scripts each adds its own.

## Main definitions

* `Reading`: a condition with the scope that it is read in
* `Translator.readAll`: a translator that is given some conditions to read
* `Outline.readings`, `Branches.readings`: the conditions of an outline, in the order of reading
* `Reading.novel?`, `Reading.unread?`: what a translator notes of one condition

## Main results

* `Outline.translator_lay`: the conditions that are read while an outline is laid out
* `Tree.parse_snd`: those of a script
* `Translator.mem_unrecognized_readAll`, `Translator.failed_readAll`: all that is noted
-/

namespace Questline

/-- A condition with what is known where it stands. -/
structure Reading where
  scope : Scope
  text : List Char

namespace Translator

/-- The translator after it has read one more condition. -/
def read (t : Translator) (r : Reading) : Translator :=
  (t.translateOrKeep r.scope r.text).2

/-- The translator after it has read some conditions, in order. -/
def readAll (t : Translator) (rs : List Reading) : Translator :=
  rs.foldl read t

theorem readAll_append (t : Translator) (rs rs' : List Reading) :
    t.readAll (rs ++ rs') = (t.readAll rs).readAll rs' :=
  List.foldl_append

end Translator

/-! ### The conditions of an outline -/

namespace Context

/-- What is known where a condition stands in the context. -/
def scope (c : Context) : Scope where
  script := c.script.or c.owner
  locals := c.locals

/-- The context after some text that is the first to name the script `first`, if it names one. -/
def named (c : Context) (first : Option String) : Context :=
  { c with owner := c.owner.or first }

@[simp] theorem named_none (c : Context) : c.named none = c := by
  rw [named, Option.or_none]

theorem named_named (c : Context) (first second : Option String) :
    (c.named first).named second = c.named (first.or second) := by
  rw [named, named, named, Option.or_assoc]

/-- The conditions of the branches of a label. -/
def readings (c : Context) (conditions : List (Option (List Char))) : List Reading :=
  conditions.reduceOption.map fun text => { scope := c.scope, text }

end Context

mutual

/-- The conditions of an outline in the order in which they are read: those of all branches of a
label come before those of anything inside the label. -/
def Outline.readings (c : Context) : Outline → List Reading
  | .done => []
  | .text _ o => o.readings c
  | .declaration _ name o => o.readings { c with locals := c.locals.insert name }
  | .block opening body others o =>
    let inner := opening.context c
    inner.readings (opening.condition? :: others.conditions) ++
      body.readings { inner with script := opening.scriptId?.or c.script } ++
      others.readings (inner.named body.firstScript) ++
      o.readings ((inner.named body.firstScript).named others.firstScript)

/-- The conditions inside the branches of a choice. Their own are read before. -/
def Branches.readings (c : Context) : Branches → List Reading
  | .done => []
  | .branch _ body others =>
    body.readings c ++ others.readings (c.named body.firstScript)

end

theorem Progress.translator_translateAll (p : Progress) (s : Site)
    (conditions : List (Option (List Char))) :
    (p.translateAll s conditions).2.translator =
      p.translator.readAll ((p.context s).readings conditions) := by
  induction conditions generalizing p with
  | nil => rfl
  | cons condition conditions ih =>
    cases condition with
    | none => exact ih p
    | some text =>
      rw [translateAll]
      dsimp only
      rw [ih, p.context_translate]
      rfl

/-- To lay out an outline changes nothing of a context but the script that is named first. -/
theorem Outline.context_lay (o : Outline) (s s' : Site) (id : Nat) (pending : List String)
    (declared : Locals) (p : Progress) :
    (o.lay s id pending declared p).progress.context s' = (p.context s').named o.firstScript :=
  (o.isLaid s id pending declared p).context s'

theorem Branches.context_lay (b : Branches) (s s' : Site) (id : Nat) (gates : List Gate)
    (p : Progress) :
    (b.lay s id gates p).progress.context s' = (p.context s').named b.firstScript := by
  cases b with
  | done => exact (Context.named_none _).symm
  | branch condition body others =>
    rw [lay, firstScript, ← Context.named_named]
    dsimp only
    rw [others.context_lay, body.context_lay]

mutual

/-- While an outline is laid out its conditions are read. -/
theorem Outline.translator_lay (o : Outline) (s : Site) (id : Nat) (pending : List String)
    (declared : Locals) (p : Progress) :
    (o.lay s id pending declared p).progress.translator =
      p.translator.readAll (o.readings (p.context s)) := by
  cases o with
  | done => rfl
  | text line o => exact o.translator_lay s id _ declared p
  | declaration type name o =>
    exact o.translator_lay { s with locals := s.locals.insert name } id pending _ p
  | block opening body others o =>
    let p₁ : Progress := { p with owner := p.owner.or opening.scriptId? }
    have hcontext (s' : Site) :=
      p₁.context_translateAll s s' (opening.condition? :: others.conditions)
    have hread := p₁.translator_translateAll s (opening.condition? :: others.conditions)
    rw [Outline.lay, Outline.readings, Translator.readAll_append, Translator.readAll_append,
      Translator.readAll_append]
    dsimp only
    generalize p₁.translateAll s (opening.condition? :: others.conditions) = q at hcontext hread
    -- what is named in one branch is known in the next, and after the last
    rw [o.translator_lay, others.translator_lay, body.translator_lay, others.context_lay,
      body.context_lay, hread, hcontext, hcontext]
    rfl

/-- While the branches of a choice are laid out the conditions inside them are read. -/
theorem Branches.translator_lay (b : Branches) (s : Site) (id : Nat) (gates : List Gate)
    (p : Progress) :
    (b.lay s id gates p).progress.translator =
      p.translator.readAll (b.readings (p.context s)) := by
  cases b with
  | done => rfl
  | branch condition body others =>
    rw [Branches.lay, Branches.readings, Translator.readAll_append]
    dsimp only
    rw [others.translator_lay, body.translator_lay, body.context_lay]
    rfl

end

/-! ### The conditions of a script -/

/-- The conditions of a script in the order in which they are read. -/
def readingsOf (globals : Names) (source : String) : List Reading :=
  (Outline.ofLines (sourceLines source.toList)).readings { globals }

namespace Tree

variable (t : Translator)

theorem parse_snd (source : String) :
    (parse source t).2 = t.readAll (readingsOf t.globals source) :=
  (Outline.ofLines (sourceLines source.toList)).translator_lay {} 1 [] ∅ { translator := t }

/-- The gate of a dialogue result is not read. -/
theorem parseResult_snd (info result : String) (gate : Gate) :
    (parseResult info result gate t).2 =
      t.readAll (readingsOf t.globals (resultSource info result)) :=
  parse_snd t (resultSource info result)

end Tree

/-! ### What is noted -/

namespace Reading

/-- The name that is found nowhere when the condition is read, if there is one. -/
def novel? (globals : Names) (r : Reading) : Option String :=
  (translate globals r.scope r.text).toOption.bind (·.2)

/-- The text of the condition, if it cannot be read. -/
def unread? (globals : Names) (r : Reading) : Option String :=
  if (translate globals r.scope r.text).toOption.isSome then none
  else some (String.ofList (trim r.text))

end Reading

namespace Translator

variable (t : Translator) (r : Reading) (rs : List Reading)

/-- What a translator notes of one condition does not depend on what it noted before. -/
theorem read_eq : t.read r =
    { t with
      unrecognized := (r.novel? t.globals).elim t.unrecognized t.unrecognized.insert
      failed := t.failed ++ (r.unread? t.globals).toList } := by
  unfold read translateOrKeep Reading.novel? Reading.unread?
  cases Questline.translate t.globals r.scope r.text with
  | ok x => simp [note, Except.toOption]
  | error e => simp [Except.toOption]

@[simp] theorem globals_readAll : (t.readAll rs).globals = t.globals := by
  induction rs generalizing t with
  | nil => rfl
  | cons r rs ih =>
    rw [readAll, List.foldl_cons, ← readAll, ih, read, globals_translateOrKeep]

theorem mem_unrecognized_readAll {name : String} : name ∈ (t.readAll rs).unrecognized ↔
    name ∈ t.unrecognized ∨ name ∈ rs.filterMap (·.novel? t.globals) := by
  induction rs generalizing t with
  | nil => simp [readAll]
  | cons r rs ih =>
    rw [readAll, List.foldl_cons, ← readAll, ih, read_eq, List.filterMap_cons]
    cases hr : r.novel? t.globals with
    | none => rfl
    | some novel =>
      simp only [Option.elim_some, Std.ExtTreeSet.mem_insert, Std.LawfulEqCmp.compare_eq_iff_eq,
        List.mem_cons, eq_comm (a := name), or_assoc, or_left_comm]

theorem failed_readAll :
    (t.readAll rs).failed = t.failed ++ rs.filterMap (·.unread? t.globals) := by
  induction rs generalizing t with
  | nil => simp [readAll]
  | cons r rs ih =>
    rw [readAll, List.foldl_cons, ← readAll, ih, read_eq, List.filterMap_cons]
    cases hr : r.unread? t.globals with
    | none => simp
    | some text => simp

end Translator

end Questline
