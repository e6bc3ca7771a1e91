import Mathlib.Data.List.ReduceOption
import Questline.Proofs.Condition.LetterCase
import Questline.Proofs.Script.Kept
import Questline.Proofs.Script.Readings

/-!
# Scripts in lower case

A script in lower case has the same lines in lower case, and so the same outline. As long as every
condition of a script can be read, the blocks of the script in lower case are its own blocks, but
for the texts that they keep, and a translator notes the same of both.

## Main definitions

* `Line.lowered`, `Outline.lowered`: lines and outlines in lower case
* `Block.lowered`, `Tree.lowered`: blocks and trees with the texts that they keep in lower case

## Main results

* `Outline.ofLines_lowered`: the outline of lines in lower case
* `Outline.rest_lowered`: its parts
* `Tree.lowered_parse_toLower`, `Tree.parse_toLower_snd`: the tree, and what is noted
-/

namespace Questline

/-! ### Lines -/

namespace Opening

/-- The label with its condition in lower case. The id of a script is in lower case anyway. -/
def lowered : Opening → Opening
  | script name => script name
  | result name => result name
  | choice c => choice (Questline.lowered c)
  | loop c => loop (Questline.lowered c)

variable (o : Opening)

@[simp] theorem family_lowered : o.lowered.family = o.family := by
  cases o <;> rfl

@[simp] theorem kind_lowered : o.lowered.kind = o.kind := by
  cases o <;> rfl

@[simp] theorem scriptId?_lowered : o.lowered.scriptId? = o.scriptId? := by
  cases o <;> rfl

@[simp] theorem condition?_lowered : o.lowered.condition? = o.condition?.map Questline.lowered := by
  cases o <;> rfl

theorem toLower_label_lowered : o.lowered.label.toLower = o.label.toLower := by
  cases o with
  | script name => rfl
  | result name => rfl
  | choice c => exact toLower_ofList_lowered c
  | loop c => exact toLower_ofList_lowered c

end Opening

/-- The label with its condition in lower case. -/
def Label.lowered : Label → Label
  | opens o => opens o.lowered
  | divides c => divides (c.map Questline.lowered)
  | closes f => closes f

/-- The line with its text in lower case. -/
def Line.lowered : Line → Line
  | label l text => label l.lowered text.toLower
  | declaration type name => declaration type name
  | statement text => statement text.toLower

theorem Label.ofKeyword?_lowered (keyword : String) (rest : List Char) :
    ofKeyword? keyword (Questline.lowered rest) = (ofKeyword? keyword rest).map lowered := by
  unfold ofKeyword?
  rw [firstWord_lowered, nameOf_lowered]
  split <;> rfl

namespace Line

variable (t : List Char)

theorem declaration?_lowered : declaration? (Questline.lowered t) = declaration? t := by
  unfold declaration?
  rw [isCaseless_isWord.takeWhile, isCaseless_isWord.dropWhile, toLower_ofList_lowered]
  dsimp only
  rw [trim_lowered, isCaseless_isBlank.any_head?]
  cases VariableType.ofKeyword? (String.ofList (t.takeWhile isWord)).toLower with
  | none => rfl
  | some type =>
    cases trim (t.dropWhile isWord) with
    | nil => rfl
    | cons c r =>
      have hlower := toLower_ofList_lowered (c :: r)
      rw [lowered_cons] at hlower ⊢
      dsimp only
      rw [isCaseless_isFoldedLetter c, isCaseless_isWord.all, hlower]

theorem ofText_lowered : ofText (Questline.lowered t) = (ofText t).lowered := by
  rw [ofText, ofText, isCaseless_isWord.takeWhile, isCaseless_isWord.dropWhile,
    toLower_ofList_lowered, trim_lowered, Label.ofKeyword?_lowered, declaration?_lowered,
    ofList_lowered]
  cases Label.ofKeyword? _ _ with
  | some l => rfl
  | none =>
    cases declaration? t with
    | none => rfl
    | some d => rfl

end Line

theorem sourceTexts_lowered (source : List Char) :
    sourceTexts (lowered source) = (sourceTexts source).map lowered := by
  have hmap : (lines (lowered source)).map (fun l => trim (uncomment false l)) =
      ((lines source).map fun l => trim (uncomment false l)).map lowered := by
    rw [lines_lowered, List.map_map, List.map_map]
    refine List.map_congr_left fun l _ => ?_
    rw [Function.comp_apply, uncomment_lowered, trim_lowered]
    rfl
  rw [sourceTexts, sourceTexts, hmap, List.filter_map]
  refine congrArg (List.map lowered) (List.filter_congr fun t _ => ?_)
  rw [Function.comp_apply, isEmpty_lowered]

theorem sourceLines_lowered (source : List Char) :
    sourceLines (lowered source) = (sourceLines source).map Line.lowered := by
  rw [sourceLines, sourceLines, sourceTexts_lowered, List.map_map, List.map_map]
  exact List.map_congr_left fun t _ => Line.ofText_lowered t

/-! ### Outlines -/

/-- What a line in lower case means to an open label. -/
def Mark.lowered : Mark → Mark
  | opens => opens
  | divides c => divides (c.map Questline.lowered)
  | closes => closes
  | plain => plain

theorem Line.mark_lowered (f : Family) (l : Line) : l.lowered.mark f = (l.mark f).lowered := by
  cases l with
  | label l text =>
    cases l with
    | opens o =>
      rw [lowered, Label.lowered, mark, mark, Opening.family_lowered]
      split <;> rfl
    | divides c =>
      rw [lowered, Label.lowered, mark, mark]
      split <;> rfl
    | closes g =>
      rw [lowered, Label.lowered, mark, mark]
      split <;> rfl
  | declaration type name => rfl
  | statement text => rfl

/-- The lines of branches, with their conditions, in lower case. -/
def loweredBranch (b : Option (List Char) × List Line) : Option (List Char) × List Line :=
  (b.1.map lowered, b.2.map Line.lowered)

/-- The lines of a label in lower case. -/
def Cut.lowered (c : Cut) : Cut where
  body := c.body.map Line.lowered
  others := c.others.map loweredBranch
  rest := c.rest.map Line.lowered

theorem cut_lowered (f : Family) (n : Nat) (ls : List Line) :
    cut f n (ls.map Line.lowered) = (cut f n ls).lowered := by
  induction ls generalizing n with
  | nil => rfl
  | cons l r ih =>
    unfold cut
    rw [List.map_cons]
    dsimp only
    rw [Line.mark_lowered]
    cases l.mark f <;> cases n <;> simp only [Mark.lowered, ih] <;> rfl

mutual

/-- The outline with its texts and conditions in lower case. -/
def Outline.lowered : Outline → Outline
  | .done => .done
  | .text line o => .text line.toLower o.lowered
  | .declaration type name o => .declaration type name o.lowered
  | .block opening body others o =>
    .block opening.lowered body.lowered others.lowered o.lowered

/-- The branches with their texts and conditions in lower case. -/
def Branches.lowered : Branches → Branches
  | .done => .done
  | .branch c body others => .branch (c.map Questline.lowered) body.lowered others.lowered

end

theorem Outline.ofLines_lowered (ls : List Line) :
    ofLines (ls.map Line.lowered) = (ofLines ls).lowered := by
  induction ls using Outline.ofLines_induction (Q := fun bs =>
    Branches.ofLines (bs.map loweredBranch) = (Branches.ofLines bs).lowered) with
  | done => rw [List.map_nil, ofLines, lowered]
  | block o text r ihBody ihOthers ihRest =>
    rw [List.map_cons, Line.lowered, Label.lowered, ofLines, Opening.family_lowered, cut_lowered,
      Cut.lowered, ihBody, ihOthers, ihRest, ofLines, lowered]
  | label label text r hopens ih =>
    have hopens' : ∀ o, label.lowered ≠ .opens o := by
      cases label with
      | opens o => exact absurd rfl (hopens o)
      | divides c => exact nofun
      | closes f => exact nofun
    rw [List.map_cons, Line.lowered, ofLines_label hopens', ih, ofLines_label hopens, lowered]
  | declaration type name r ih => rw [List.map_cons, Line.lowered, ofLines, ih, ofLines, lowered]
  | statement text r ih => rw [List.map_cons, Line.lowered, ofLines, ih, ofLines, lowered]
  | none => rw [List.map_nil, Branches.ofLines, Branches.lowered]
  | branch condition ls r ihBody ihOthers =>
    rw [List.map_cons, loweredBranch, Branches.ofLines, ihBody, ihOthers, Branches.ofLines,
      Branches.lowered]

/-! ### What an outline says -/

theorem Outline.run_lowered (o : Outline) : o.lowered.run = o.run.map String.toLower := by
  cases o with
  | done => rfl
  | text line o => rw [lowered, run, o.run_lowered, run, List.map_cons]
  | declaration type name o => exact o.run_lowered
  | block opening body others o => rfl

theorem Outline.declarations_lowered (o : Outline) :
    o.lowered.declarations = o.declarations := by
  cases o with
  | done => rfl
  | text line o => exact o.declarations_lowered
  | declaration type name o => rw [lowered, declarations, o.declarations_lowered, declarations]
  | block opening body others o => exact o.declarations_lowered

theorem Outline.locals_lowered (o : Outline) : o.lowered.locals = o.locals := by
  rw [locals, declarations_lowered, locals]

mutual

theorem Outline.firstScript_lowered (o : Outline) : o.lowered.firstScript = o.firstScript := by
  cases o with
  | done => rfl
  | text line o => exact o.firstScript_lowered
  | declaration type name o => exact o.firstScript_lowered
  | block opening body others o =>
    rw [Outline.lowered, Outline.firstScript, Opening.scriptId?_lowered, body.firstScript_lowered,
      others.firstScript_lowered, o.firstScript_lowered, Outline.firstScript]

theorem Branches.firstScript_lowered (b : Branches) : b.lowered.firstScript = b.firstScript := by
  cases b with
  | done => rfl
  | branch condition body others =>
    rw [Branches.lowered, Branches.firstScript, body.firstScript_lowered,
      others.firstScript_lowered, Branches.firstScript]

end

/-! ### Conditions that are read -/

/-- The condition in lower case, where it stands. -/
def Reading.lowered (r : Reading) : Reading :=
  { r with text := Questline.lowered r.text }

theorem Branches.conditions_lowered (b : Branches) :
    b.lowered.conditions = b.conditions.map (Option.map Questline.lowered) := by
  cases b with
  | done => rfl
  | branch condition body others =>
    rw [lowered, conditions, others.conditions_lowered, conditions, List.map_cons]

theorem Context.readings_lowered (c : Context) (conditions : List (Option (List Char))) :
    c.readings (conditions.map (Option.map lowered)) =
      (c.readings conditions).map Reading.lowered := by
  rw [readings, readings, List.reduceOption_map, List.map_map, List.map_map]
  rfl

mutual

theorem Outline.readings_lowered (o : Outline) (c : Context) :
    o.lowered.readings c = (o.readings c).map Reading.lowered := by
  cases o with
  | done => rfl
  | text line o => exact o.readings_lowered c
  | declaration type name o => exact o.readings_lowered _
  | block opening body others o =>
    have hconditions : opening.lowered.condition? :: others.lowered.conditions =
        (opening.condition? :: others.conditions).map (Option.map lowered) := by
      rw [opening.condition?_lowered, others.conditions_lowered, List.map_cons]
    rw [Outline.lowered, Outline.readings, Outline.readings]
    dsimp only [Opening.context]
    rw [hconditions, opening.scriptId?_lowered, Context.readings_lowered, body.readings_lowered,
      others.readings_lowered, o.readings_lowered, body.firstScript_lowered,
      others.firstScript_lowered, List.map_append, List.map_append, List.map_append]

theorem Branches.readings_lowered (b : Branches) (c : Context) :
    b.lowered.readings c = (b.readings c).map Reading.lowered := by
  cases b with
  | done => rfl
  | branch condition body others =>
    rw [Branches.lowered, Branches.readings, Branches.readings, List.map_append,
      body.readings_lowered, others.readings_lowered, body.firstScript_lowered]

end

theorem readingsOf_toLower (globals : Names) (source : String) :
    readingsOf globals source.toLower = (readingsOf globals source).map Reading.lowered := by
  rw [readingsOf, toList_toLower, ← lowered, sourceLines_lowered, Outline.ofLines_lowered,
    Outline.readings_lowered, readingsOf]

/-- A condition that can be read says the same in lower case. -/
theorem Reading.exists_translate {globals : Names} {r : Reading} (h : r.unread? globals = none) :
    ∃ x, translate globals r.scope r.text = .ok x ∧
      translate globals r.scope (Questline.lowered r.text) = .ok x := by
  unfold unread? at h
  cases htranslate : translate globals r.scope r.text with
  | ok x => exact ⟨x, rfl, translate_lowered htranslate⟩
  | error e => simp [htranslate, Except.toOption] at h

/-- All of the conditions can be read. -/
def AreRead (globals : Names) (rs : List Reading) : Prop :=
  ∀ r ∈ rs, r.unread? globals = none

theorem areRead_append {globals : Names} {rs rs' : List Reading} :
    AreRead globals (rs ++ rs') ↔ AreRead globals rs ∧ AreRead globals rs' :=
  List.forall_mem_append

/-- Of conditions that can be read the same is noted in lower case. -/
theorem Translator.readAll_lowered (t : Translator) (rs : List Reading)
    (h : AreRead t.globals rs) :
    t.readAll (rs.map Reading.lowered) = t.readAll rs := by
  induction rs generalizing t with
  | nil => rfl
  | cons r rs ih =>
    rw [AreRead, List.forall_mem_cons] at h
    obtain ⟨x, htranslate, hlowered⟩ := r.exists_translate h.1
    have hread : t.read r.lowered = t.read r := by
      rw [read, read, Reading.lowered, translateOrKeep, translateOrKeep, htranslate, hlowered]
    rw [readAll, readAll, List.map_cons, List.foldl_cons, List.foldl_cons, hread]
    refine ih (t.read r) fun s hs => ?_
    rw [read, globals_translateOrKeep]
    exact h.2 s hs

/-! ### Parts -/

/-- The part with the texts that it keeps in lower case. -/
def Part.lowered (part : Part) : Part :=
  { part with lines := part.lines.map String.toLower, label := part.label.map String.toLower }

namespace Forest

/-- The forest with the texts that it keeps in lower case. -/
def lowered : Forest → Forest
  | nil => nil
  | cons part below next => cons part.lowered below.lowered next.lowered

theorem lowered_append (f g : Forest) : (f ++ g).lowered = f.lowered ++ g.lowered := by
  induction f with
  | nil => rfl
  | cons part below next _ ih => rw [cons_append, lowered, lowered, cons_append, ih]

theorem lowered_withRun (script : Option String) (run : List String) (f : Forest) :
    (withRun script run f).lowered = withRun script (run.map String.toLower) f.lowered := by
  rw [withRun, withRun, List.isEmpty_map]
  split <;> rfl

end Forest

/-- The texts that an outline begins with are the same in lower case, whatever comes after. -/
theorem Outline.lowered_withRun (o : Outline) (script : Option String) {f g : Forest}
    (h : f.lowered = g.lowered) :
    (Forest.withRun script o.lowered.run f).lowered = (Forest.withRun script o.run g).lowered := by
  rw [run_lowered, Forest.lowered_withRun, Forest.lowered_withRun, h, List.map_map]
  refine congrArg (Forest.withRun script · g.lowered) (List.map_congr_left fun line _ => ?_)
  exact toLower_toLower line

namespace Context

variable (c : Context)

theorem requirement_of_ok {text : List Char} {x : Requirement × Option String}
    (h : translate c.globals c.scope text = .ok x) : c.requirement text = x.1 := by
  rw [scope] at h
  rw [requirement, h]

theorem readings_cons (condition : Option (List Char)) (conditions : List (Option (List Char))) :
    c.readings (condition :: conditions) = c.readings [condition] ++ c.readings conditions := by
  cases condition <;> rfl

theorem map_requirement_lowered {condition : Option (List Char)}
    (h : AreRead c.globals (c.readings [condition])) :
    (condition.map lowered).map c.requirement = condition.map c.requirement := by
  cases condition with
  | none => rfl
  | some text =>
    obtain ⟨x, htext, hlowered⟩ := Reading.exists_translate (h _ (List.mem_singleton_self _))
    exact congrArg some ((c.requirement_of_ok hlowered).trans (c.requirement_of_ok htext).symm)

end Context

/-- The part of a label that opens differs from that in lower case in the text of the label. -/
theorem Opening.part_lowered (opening : Opening) (c : Context) (locals : Locals)
    (h : AreRead c.globals ((opening.context c).readings [opening.condition?])) :
    opening.lowered.part c locals =
      { opening.part c locals with label := some opening.lowered.label } := by
  have hcontext : opening.lowered.context c = opening.context c := by
    rw [context, context, scriptId?_lowered]
  rw [part, part, hcontext, kind_lowered, scriptId?_lowered, condition?_lowered,
    (opening.context c).map_requirement_lowered h]

mutual

/-- The parts of an outline are the same in lower case, if all of its conditions can be read. -/
theorem Outline.rest_lowered (o : Outline) (c : Context)
    (h : AreRead c.globals (o.readings c)) : (o.lowered.rest c).lowered = (o.rest c).lowered := by
  cases o with
  | done => rfl
  | text line o => exact o.rest_lowered c h
  | declaration type name o => exact o.rest_lowered _ h
  | block opening body others o =>
    rw [Outline.readings, areRead_append, areRead_append, areRead_append, Context.readings_cons,
      areRead_append] at h
    -- the conditions of all branches are read at the label, before anything inside a branch
    obtain ⟨⟨⟨⟨hcondition, hconditions⟩, hbody⟩, hothers⟩, ho⟩ := h
    have hcontext : opening.lowered.context c = opening.context c := by
      rw [Opening.context, Opening.context, opening.scriptId?_lowered]
    rw [Outline.lowered, Outline.rest, Outline.rest, hcontext, body.locals_lowered,
      body.firstScript_lowered, others.firstScript_lowered,
      opening.part_lowered c body.locals hcondition]
    dsimp only
    have hpart : { opening.part c body.locals with label := some opening.lowered.label }.lowered =
        (opening.part c body.locals).lowered := by
      simp only [Part.lowered, Option.map_some, opening.toLower_label_lowered]
      rfl
    have hbelow := body.rest_lowered
      { opening.context c with script := (opening.part c body.locals).script } hbody
    have hbranches := others.forest_lowered (opening.context c)
      ((opening.context c).owner.or body.firstScript) (opening.part c body.locals).requirements
      hconditions hothers
    have hnext := o.rest_lowered { opening.context c with
      owner := ((opening.context c).owner.or body.firstScript).or others.firstScript } ho
    rw [Forest.lowered, Forest.lowered, Forest.lowered_append, Forest.lowered_append, hpart,
      body.lowered_withRun _ hbelow, hbranches, o.lowered_withRun _ hnext]

theorem Branches.forest_lowered (b : Branches) (c : Context) (owner : Option String)
    (earlier : List Requirement) (hconditions : AreRead c.globals (c.readings b.conditions))
    (h : AreRead c.globals (b.readings { c with owner })) :
    (b.lowered.forest c owner earlier).lowered = (b.forest c owner earlier).lowered := by
  cases b with
  | done => rfl
  | branch condition body others =>
    rw [Branches.readings, areRead_append] at h
    rw [Branches.conditions, Context.readings_cons, areRead_append] at hconditions
    rw [Branches.lowered, Branches.forest, Branches.forest, c.map_requirement_lowered hconditions.1,
      body.locals_lowered, body.firstScript_lowered]
    have hlabel : ((condition.map lowered).elim "else" String.ofList).toLower =
        (condition.elim "else" String.ofList).toLower := by
      cases condition with
      | none => rfl
      | some text => exact toLower_ofList_lowered text
    have hbelow := body.rest_lowered { c with owner } h.1
    have hbranches := others.forest_lowered c (owner.or body.firstScript)
      (earlier ++ (condition.map c.requirement).toList) hconditions.2 h.2
    rw [Forest.lowered, Forest.lowered, body.lowered_withRun _ hbelow, hbranches]
    simp only [Part.lowered, Option.map_some, hlabel]

end

/-! ### Trees -/

/-- The block with the texts that it keeps in lower case. -/
def Block.lowered (b : Block) : Block :=
  { b with lines := b.lines.map String.toLower, label := b.label.map String.toLower }

/-- The tree with the texts that its blocks keep in lower case. -/
def Tree.lowered (t : Tree) : Tree :=
  { t with blocks := t.blocks.map Block.lowered }

namespace Forest

variable (f : Forest)

theorem size_lowered : f.lowered.size = f.size := by
  induction f with
  | nil => rfl
  | cons part below next ihb ihn => rw [lowered, size, ihb, ihn, size]

theorem roots_lowered (id : Nat) : f.lowered.roots id = f.roots id := by
  induction f generalizing id with
  | nil => rfl
  | cons part below next _ ih => rw [lowered, roots, ih, size_lowered, roots]

theorem blocks_lowered (parent id : Nat) :
    f.lowered.blocks parent id = (f.blocks parent id).map Block.lowered := by
  induction f generalizing parent id with
  | nil => rfl
  | cons part below next ihb ihn =>
    rw [lowered, blocks, ihb, ihn, size_lowered, roots_lowered, blocks, List.map_cons,
      List.map_append]
    rfl

theorem lowered_tree (locals : Locals) (owner : Option String) :
    (f.tree locals owner).lowered = f.lowered.tree locals owner := by
  rw [tree, tree, Tree.lowered, blocks_lowered, roots_lowered]
  simp only [List.map_cons, List.map_map, List.map_toArray]
  rfl

end Forest

namespace Tree

variable (source : String) (t : Translator)

/-- Where no text is kept all conditions were read. -/
theorem areRead_of_failed (h : (parse source t).2.failed = t.failed) :
    AreRead t.globals (readingsOf t.globals source) := by
  rw [parse_snd, Translator.failed_readAll] at h
  exact List.filterMap_eq_nil_iff.1 (List.append_cancel_left (h.trans (List.append_nil _).symm))

theorem parse_toLower_snd (h : AreRead t.globals (readingsOf t.globals source)) :
    (parse source.toLower t).2 = (parse source t).2 := by
  rw [parse_snd, parse_snd, readingsOf_toLower, t.readAll_lowered _ h]

theorem lowered_parse_toLower (h : AreRead t.globals (readingsOf t.globals source)) :
    (parse source.toLower t).1.lowered = (parse source t).1.lowered := by
  have houtline : Outline.ofLines (sourceLines source.toLower.toList) =
      (Outline.ofLines (sourceLines source.toList)).lowered := by
    rw [toList_toLower, ← Questline.lowered, sourceLines_lowered, Outline.ofLines_lowered]
  -- the facts about the outline come first: the trees are compared for any outline
  have hrest := (Outline.ofLines (sourceLines source.toList)).rest_lowered _ h
  rw [parse_fst, parse_fst, houtline]
  generalize Outline.ofLines (sourceLines source.toList) = o at hrest
  dsimp only
  rw [Forest.lowered_tree, Forest.lowered_tree, o.locals_lowered, o.firstScript_lowered,
    Outline.forest, Outline.forest, o.lowered_withRun _ hrest]

end Tree

end Questline
