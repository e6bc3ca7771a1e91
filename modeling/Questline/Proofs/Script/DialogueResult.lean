import Questline.Proofs.Script.Searching

/-!
# Trees of dialogue results

The text of a dialogue result is put between two labels and read as a script. If it has no
such labels itself, its tree is the tree that the text has on its own, one level further down
below a new root that carries what the result requires. Whatever the text is, nothing in it
can be reached without that.

## Main definitions

* `Block.lower`: a block one level further down
* `Tree.RequiresFirst`: trees in which everything found has some requirements in front

## Main results

* `Outline.progress_lay`: what is read does not depend on where it is laid out
* `Forest.block?_tree_cons`: a forest below one part
* `Tree.sourceLines_resultSource`: the lines of the text between the labels
* `Tree.parseResult_wraps`: the tree of a dialogue result
-/

namespace Questline

open scoped List

/-! ### What is read -/

/-- Sites at which conditions mean the same. -/
def Site.ReadsLike (s s' : Site) : Prop :=
  s.script = s'.script ∧ s.locals = s'.locals

namespace Progress

variable {s s' : Site}

theorem translate_congr (h : s.ReadsLike s') (p : Progress) (condition : List Char) :
    p.translate s condition = p.translate s' condition := by
  rw [translate, translate, h.1, h.2]

theorem translateAll_congr (h : s.ReadsLike s') (p : Progress) (cs : List (Option (List Char))) :
    p.translateAll s cs = p.translateAll s' cs := by
  induction cs generalizing p with
  | nil => rfl
  | cons c cs ih =>
    cases c with
    | none => rw [translateAll, translateAll, ih]
    | some c =>
      rw [translateAll, translateAll, translate_congr h]
      dsimp only
      rw [ih]

end Progress

mutual

/-- What is read of a level does not depend on the numbers of its blocks. -/
theorem Outline.progress_lay (o : Outline) {s s' : Site} (h : s.ReadsLike s') (id id' : Nat)
    (pending pending' : List String) (declared declared' : Locals) (p : Progress) :
    (o.lay s id pending declared p).progress = (o.lay s' id' pending' declared' p).progress := by
  cases o with
  | done => rw [Outline.lay, Outline.lay]
  | text line o =>
    rw [Outline.lay, Outline.lay]
    exact o.progress_lay h id id' _ _ declared declared' p
  | declaration type name o =>
    rw [Outline.lay, Outline.lay]
    have hinsert : ({ s with locals := s.locals.insert name } : Site).ReadsLike
        { s' with locals := s'.locals.insert name } := ⟨h.1, by rw [h.2]⟩
    exact o.progress_lay hinsert id id' pending pending' _ _ p
  | block opening body others o =>
    rw [Outline.lay, Outline.lay]
    dsimp only
    rw [Progress.translateAll_congr h]
    generalize Progress.translateAll _ s' (opening.condition? :: others.conditions) = q
    generalize id + (leaf s id pending).length = n
    generalize id' + (leaf s' id' pending').length = n'
    have hinner : ({ s with self := n, script := opening.scriptId?.or s.script } : Site).ReadsLike
        { s' with self := n', script := opening.scriptId?.or s'.script } :=
      ⟨by rw [h.1], h.2⟩
    rw [body.progress_lay hinner (n + 1) (n' + 1) [] [] ∅ ∅ q.2]
    generalize body.lay { s' with self := n', script := opening.scriptId?.or s'.script } (n' + 1)
      [] ∅ q.2 = first'
    rw [others.progress_lay h _ (n' + 1 + first'.blocks.length) (branchGates [] q.1).tail
      (branchGates [] q.1).tail first'.progress]
    exact o.progress_lay h _ _ [] [] declared declared' _

/-- What is read of the branches of a choice does not depend on the numbers of their blocks. -/
theorem Branches.progress_lay (b : Branches) {s s' : Site} (h : s.ReadsLike s') (id id' : Nat)
    (gates gates' : List Gate) (p : Progress) :
    (b.lay s id gates p).progress = (b.lay s' id' gates' p).progress := by
  cases b with
  | done => rw [Branches.lay, Branches.lay]
  | branch condition body others =>
    rw [Branches.lay, Branches.lay]
    dsimp only
    have hinner : ({ s with self := id } : Site).ReadsLike { s' with self := id' } := h
    rw [body.progress_lay hinner (id + 1) (id' + 1) [] [] ∅ ∅ p]
    exact others.progress_lay h _ _ _ _ _

end

/-! ### One level further down -/

/-- The block with a new root above its tree. -/
def Block.lower (b : Block) : Block :=
  { b with
    id := b.id + 1
    parent := some (b.parent.elim 0 (· + 1))
    children := b.children.map (· + 1)
    gate := { b.gate with block := some (b.id + 1) } }

namespace Forest

variable (f : Forest)

theorem roots_succ (id : Nat) : f.roots (id + 1) = (f.roots id).map (· + 1) := by
  induction f generalizing id with
  | nil => rfl
  | cons part below next _ ih =>
    rw [roots, roots, List.map_cons, ← ih, Nat.add_right_comm (id + 1)]

theorem blocks_succ (parent id : Nat) :
    f.blocks (parent + 1) (id + 1) = (f.blocks parent id).map Block.lower := by
  induction f generalizing parent id with
  | nil => rfl
  | cons part below next ihb ihn =>
    have hpart : part.block (parent + 1) (id + 1) (below.roots (id + 1 + 1)) =
        (part.block parent id (below.roots (id + 1))).lower := by
      rw [roots_succ]
      rfl
    rw [blocks, blocks, List.map_cons, List.map_append, ← ihb, ← ihn, hpart,
      Nat.add_right_comm (id + 1)]

theorem size_tree (locals : Locals) (owner : Option String) :
    (f.tree locals owner).size = f.size + 1 := by
  rw [Tree.size, tree, List.size_toArray, List.length_map, List.length_cons, length_blocks]

/-- A forest below one part is the tree of the forest, lowered, but for the root. -/
theorem block?_tree_cons (locals : Locals) (owner : Option String) (kind : BlockKind)
    (label : String) (k : Nat) :
    ((cons { kind, script := none, locals, label := some label } f nil).tree ∅ owner).block?
        (k + 1) =
      ((f.tree locals owner).block? k).map fun b =>
        if k = 0 then { b.lower with kind, label := some label } else b.lower := by
  rw [block?_tree_succ, blocks, blocks, List.append_nil]
  cases k with
  | zero =>
    rw [block?_tree_zero, roots_succ]
    rfl
  | succ k =>
    rw [List.getElem?_cons_succ, block?_tree_succ, blocks_succ, List.getElem?_map, Option.map_map,
      Option.map_map]
    rfl

end Forest

namespace Tree

/-! ### The text between the labels -/

/-- The name that stands in the label above a dialogue result. -/
def resultName (info : String) : String :=
  nameOf (firstWord (trim (uncomment false info.toList)))

/-- The lines of a dialogue result stand between two labels. -/
theorem sourceLines_resultSource {info : String} (hinfo : '\n' ∉ info.toList) (result : String) :
    ∃ text, sourceLines (resultSource info result).toList =
      .label (.opens (.result (resultName info))) text ::
        (sourceLines result.toList ++ [.label (.closes .script) "end"]) := by
  have hword : IsWordText "_dialog_".toList := by decide +kernel
  have hblank : uncomment false (' ' :: info.toList) = ' ' :: uncomment false info.toList := rfl
  have hfirst : IsLine ("_dialog_".toList ++ ' ' :: info.toList)
      (.label (.opens (.result (resultName info)))
        (String.ofList (trim ("_dialog_".toList ++ ' ' :: uncomment false info.toList)))) := by
    refine ⟨?_, ?_, ?_⟩
    · rw [List.mem_append, List.mem_cons, not_or, not_or]
      exact ⟨by decide, by decide, hinfo⟩
    · rw [hword.uncomment_append, hword.trim_append]
      exact List.append_ne_nil_of_left_ne_nil hword.1 _
    · have hlower : (String.ofList "_dialog_".toList).toLower = "_dialog_" := by decide +kernel
      rw [hword.uncomment_append, hblank]
      exact Line.ofText_keyword hword (by rw [hlower]; rfl)
  have hlast : IsLine "end".toList (.label (.closes .script) "end") :=
    .bare (by decide +kernel) (by decide +kernel) rfl
  have htext : (resultSource info result).toList =
      ("_dialog_".toList ++ ' ' :: info.toList) ++ '\n' ::
        (result.toList ++ '\n' :: "end".toList) := by
    simp [resultSource]
  refine ⟨String.ofList (trim ("_dialog_".toList ++ ' ' :: uncomment false info.toList)), ?_⟩
  rw [htext, sourceLines_append_break, sourceLines_append_break, hfirst.sourceLines_eq,
    hlast.sourceLines_eq]
  rfl

/-- The outline of a dialogue result without such labels is that of its text in a label. -/
theorem ofLines_resultSource {info result : String} (hinfo : '\n' ∉ info.toList)
    (hresult : ∀ l ∈ sourceLines result.toList, l.mark .script = .plain) :
    Outline.ofLines (sourceLines (resultSource info result).toList) =
      .block (.result (resultName info)) (.ofLines (sourceLines result.toList)) .done .done := by
  obtain ⟨text, htext⟩ := sourceLines_resultSource hinfo result
  rw [htext, Outline.ofLines, Opening.family, (Held.of_plain hresult).cut_closes]
  rw [Branches.ofLines, Outline.ofLines]

/-- A label around an outline changes nothing that is read. -/
theorem ofOutline_result_snd (name : String) (o : Outline) (t : Translator) :
    (ofOutline (.block (.result name) o .done .done) t).2 = (ofOutline o t).2 := by
  have hinner : ({ self := 1, script := none } : Site).ReadsLike {} := ⟨rfl, rfl⟩
  have hprogress := o.progress_lay hinner 2 1 [] [] ∅ ∅ { owner := none, translator := t }
  have hlay : ((Outline.block (.result name) o .done .done).lay {} 1 [] ∅
      { translator := t }).progress =
      (o.lay { self := 1, script := none } 2 [] ∅ { owner := none, translator := t }).progress := by
    rw [Outline.lay]
    dsimp only
    rw [Outline.lay, Branches.lay]
    rfl
  rw [ofOutline, ofOutline]
  dsimp only
  rw [hlay, hprogress]

/-- The tree of an outline with a label of a dialogue result around it. -/
theorem ofOutline_result_fst (name : String) (o : Outline) (t : Translator) :
    (ofOutline (.block (.result name) o .done .done) t).1 =
      (Forest.cons { kind := .script, script := none, locals := o.locals, label := some name }
        (o.forest { globals := t.globals }) .nil).tree ∅ o.firstScript := by
  have hfirst : (Outline.block (.result name) o .done .done).firstScript = o.firstScript := by
    rw [Outline.firstScript, Branches.firstScript, Outline.firstScript, Option.or_none,
      Option.or_none]
    exact Option.none_or
  have hforest : (Outline.block (.result name) o .done .done).forest { globals := t.globals } =
      .cons { kind := .script, script := none, locals := o.locals, label := some name }
        (o.forest { globals := t.globals }) .nil := by
    rw [Outline.forest, Outline.run, Outline.rest, Branches.forest, Outline.rest,
      Opening.context_eq_self rfl, Opening.part_eq rfl]
    rfl
  rw [ofOutline_fst, hfirst, hforest]
  rfl

/-- The tree of a dialogue result, block by block, when its text is a forest below one part. -/
theorem parseResult_of_tree {info result : String} (gate : Gate) {t : Translator} {u : Tree}
    {f : Forest} {locals : Locals} {owner : Option String} {name : String}
    (hparse : (parse (resultSource info result) t).1 =
      (Forest.cons { kind := .script, script := none, locals, label := some name } f .nil).tree ∅
        owner)
    (hu : u = f.tree locals owner) :
    (parseResult info result gate t).1.script = u.script ∧
      (parseResult info result gate t).1.size = u.size + 1 ∧
      (parseResult info result gate t).1.block? 0 = some
        { id := 0, kind := .sequential, script := u.script, children := [1],
          gate := { gate with block := some 0 } } ∧
      ∀ k, (parseResult info result gate t).1.block? (k + 1) = (u.block? k).map fun b =>
        if k = 0 then { b.lower with kind := .script, label := some name } else b.lower := by
  subst hu
  refine ⟨?_, ?_, ?_, fun k => ?_⟩
  · rw [parseResult]
    dsimp only
    rw [hparse]
    rfl
  · rw [parseResult, size, Array.size_modify, ← size, hparse, Forest.size_tree, Forest.size_tree]
    rfl
  · rw [block?_parseResult, hparse, Forest.block?_tree_zero]
    rfl
  · rw [block?_parseResult, hparse, Forest.block?_tree_cons, Option.map_map]
    rfl

/-! ### What everything requires -/

/-- Everything found in the tree has the requirements in front of its own. -/
structure RequiresFirst (t : Tree) (rs : List Requirement) : Prop where
  calls : ∀ p, ∀ c ∈ t.calls p, rs <+: c.gate.requirements
  assignments : ∀ a ∈ t.assignments, rs <+: a.gate.requirements

variable {t : Tree} {b : Block}

/-- What the root requires is required first on the way to each block. -/
theorem IsArena.isPrefix_gate (ht : t.IsArena) (hb : t.block? 0 = some b) (hd : b.gate.Distinct)
    {n : Nat} (hn : n < t.size) : b.gate.requirements <+: (t.gate n).requirements := by
  have hgate : (t.gate 0).requirements = b.gate.requirements := by
    rw [ht.gate_zero hb, Gate.insertAll_of_distinct (g := Gate.forBlock 0) hd]
    rfl
  have hmem : 0 ∈ t.path n := List.mem_of_mem_head? (ht.isPathTo hn).head?_eq
  exact hgate ▸ ht.gate_isPrefix hmem

theorem IsArena.requiresFirst (ht : t.IsArena) (hb : t.block? 0 = some b) (hd : b.gate.Distinct) :
    t.RequiresFirst b.gate.requirements where
  calls p c hc := by
    obtain ⟨d, hd', hc⟩ := List.mem_flatMap.1 hc
    obtain ⟨line, -, hc⟩ := List.mem_flatMap.1 hc
    obtain ⟨text, -, rfl⟩ := List.mem_map.1 hc
    exact ht.isPrefix_gate hb hd (ht.lt_size_of_mem hd')
  assignments a ha := by
    obtain ⟨d, hd', ha⟩ := List.mem_flatMap.1 ha
    obtain ⟨line, -, ha⟩ := List.mem_filterMap.1 ha
    obtain ⟨text, -, rfl⟩ := Option.map_eq_some_iff.1 ha
    exact ht.isPrefix_gate hb hd (ht.lt_size_of_mem hd')

/-- A tree with its started scripts has the root that it had, but for its children. -/
theorem block?_inline_zero {lookup : String → Option Tree} (ht : t.IsArena)
    (hl : ∀ id u, lookup id = some u → u.Numbered) (depth : Nat) (hb : t.block? 0 = some b) :
    ∃ children, (t.inline lookup depth).tree.block? 0 = some (b.adopt children) := by
  obtain ⟨cs, -, hgrow, -⟩ := Inlined.exists_grows_extend (x := { tree := t }) hl depth
    ht.numbered (Nat.zero_le _)
  refine ⟨startsUnder 0 cs, ?_⟩
  rw [inline, hgrow.block?_eq ht.size_pos, hb, Option.map_some]

/-- The tree of a dialogue result without labels of its own is that of its text, with all its
numbers one higher and its root, now the block of the result, under a new root that carries the
gate of the result; the conditions are read to the same effect. Whatever the text, everything
found in the tree, also with started scripts in it, requires what the gate requires first. -/
theorem parseResult_wraps (info result : String) {gate : Gate} (hgate : gate.Distinct)
    (t : Translator) :
    let inner := parse result t
    let outer := parseResult info result gate t
    ('\n' ∉ info.toList → (∀ l ∈ sourceLines result.toList, l.mark .script = .plain) →
      outer.2 = inner.2 ∧
      outer.1.script = inner.1.script ∧
      outer.1.size = inner.1.size + 1 ∧
      outer.1.block? 0 = some
        { id := 0, kind := .sequential, script := inner.1.script, children := [1],
          gate := { gate with block := some 0 } } ∧
      ∀ k, outer.1.block? (k + 1) = (inner.1.block? k).map fun b =>
        if k = 0 then { b.lower with kind := .script, label := some (resultName info) }
        else b.lower) ∧
    outer.1.RequiresFirst gate.requirements ∧
    ∀ (gates : Gate → Prop) (lookup : String → Option Tree) (depth : Nat),
      (∀ id u, lookup id = some u → u.Reachable gates) →
      (outer.1.inline lookup depth).tree.RequiresFirst gate.requirements := by
  intro inner outer
  have harena : outer.1.IsArena := isArena_parseResult info result gate t
  obtain ⟨root, hroot⟩ := exists_block?_of_lt harena.size_pos
  have hrootGate : root.gate.requirements = gate.requirements := by
    rw [block?_parseResult] at hroot
    obtain ⟨b, -, rfl⟩ := Option.map_eq_some_iff.1 hroot
    rfl
  have hdistinct : root.gate.Distinct := by rwa [Gate.Distinct, hrootGate]
  refine ⟨fun hinfo hresult => ?_, ?_, fun gates lookup depth hlookup => ?_⟩
  · have hfst := ofOutline_result_fst (resultName info) (.ofLines (sourceLines result.toList)) t
    have hsnd := ofOutline_result_snd (resultName info) (.ofLines (sourceLines result.toList)) t
    rw [← ofLines_resultSource hinfo hresult] at hfst hsnd
    have hinner := parse_fst result t
    exact ⟨hsnd, parseResult_of_tree gate hfst hinner⟩
  · exact hrootGate ▸ harena.requiresFirst hroot hdistinct
  · have hscripts : ∀ id u, lookup id = some u → u.IsArena :=
      fun id u hu => (hlookup id u hu).isArena
    have hinlined := inline_induction (fun _ h => h.numbered)
      (fun _ _ _ h h' hs => h.graft h' hs) harena hscripts depth
    obtain ⟨children, hchildren⟩ := block?_inline_zero harena
      (fun id u hu => (hscripts id u hu).numbered) depth hroot
    have hadoptGate : (root.adopt children).gate.requirements = gate.requirements := hrootGate
    exact hadoptGate ▸ hinlined.requiresFirst hchildren hdistinct

/-- A dialogue result that starts a script behind a condition that it leaves open. -/
def openResult : String := "short x\nif ( x == 1 )\nStartScript b"

/-- The script that `openResult` starts. -/
def startedScript? (id : String) : Option Tree :=
  if id = "b" then some (parse "set x to 2" {}).1 else none

theorem openResult_parseResult_wraps :
    let gate : Gate := { requirements := [verbatim "a".toList] }
    let outer := (parseResult "1 ; first" openResult gate {}).1
    (gate.Distinct ∧ '\n' ∉ "1 ; first".toList ∧
      ∀ l ∈ sourceLines openResult.toList, l.mark .script = .plain) ∧
    (outer.block? 3).map (·.lines) = ((parse openResult {}).1.block? 2).map (·.lines) ∧
    (outer.inline startedScript? 1).tree.RequiresFirst gate.requirements ∧
    (outer.inline startedScript? 1).tree.assignments.map (·.gate.size) = [2] := by
  intro gate outer
  have hgate : gate.Distinct := List.pairwise_singleton _ _
  have hinfo : '\n' ∉ "1 ; first".toList := by decide +kernel
  have hresult : ∀ l ∈ sourceLines openResult.toList, l.mark .script = .plain := by
    decide +kernel
  have hlookup (id : String) (u : Tree) (hu : startedScript? id = some u) :
      u.Reachable Gate.Distinct := by
    rw [startedScript?] at hu
    split at hu
    · obtain rfl := Option.some.inj hu
      exact .parse _ _
    · cases hu
  obtain ⟨htree, -, hinline⟩ := parseResult_wraps "1 ; first" openResult hgate {}
  obtain ⟨-, -, -, -, hblocks⟩ := htree hinfo hresult
  refine ⟨⟨hgate, hinfo, hresult⟩, ?_, hinline _ startedScript? 1 hlookup, by decide +kernel⟩
  rw [hblocks 2, Option.map_map]
  rfl

end Tree

end Questline
