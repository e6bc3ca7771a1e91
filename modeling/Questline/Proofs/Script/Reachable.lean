import Questline.Proofs.Script.Inlining
import Questline.Proofs.Script.Paths

/-!
# Trees that can be made

Trees are read from scripts and from dialogue results, and grow by copies of other trees that
are put under their blocks or started by them. The links of all these trees agree, so that a
walk upwards from a block comes to the root, and no block has two equal requirements.

## Main definitions

* `Tree.Reachable`: the trees that can be made
* `Tree.HasDistinctGates`: a tree whose blocks have no two equal requirements

## Main results

* `Tree.inline_induction`: what a copy keeps, started scripts keep
* `Tree.Reachable.isArena`, `Tree.Reachable.hasDistinctGates`
* `Tree.reachable_invariant`: links, paths, local variables and gates of such trees
-/

namespace Questline

open scoped List

namespace Tree

/-- The trees that can be made when the dialogue results have gates from `gates`. -/
inductive Reachable (gates : Gate → Prop) : Tree → Prop where
  | empty (script : Option String) : Reachable gates (Tree.empty script)
  | parse (source : String) (t : Translator) : Reachable gates (Tree.parse source t).1
  | parseResult (info result : String) {gate : Gate} (hg : gates gate) (t : Translator) :
      Reachable gates (Tree.parseResult info result gate t).1
  /-- A copy of one of them under a block of another one, which can be the same. -/
  | graft {t u : Tree} {site : Nat} (ht : Reachable gates t) (hu : Reachable gates u)
      (hs : site < t.size) : Reachable gates (t.graft site u)
  /-- One of them with its started scripts. -/
  | inline {t : Tree} {lookup : String → Option Tree} (ht : Reachable gates t)
      (hl : ∀ id u, lookup id = some u → Reachable gates u) (depth : Nat) :
      Reachable gates (t.inline lookup depth).tree

/-- No block of the tree has two equal requirements. -/
def HasDistinctGates (t : Tree) : Prop :=
  ∀ n b, t.block? n = some b → b.gate.Distinct

variable {gates : Gate → Prop} {t u : Tree} {lookup : String → Option Tree} {site n : Nat}

/-! ### Copies -/

/-- What holds of a tree and of the scripts that it starts, and is kept by a copy, holds of the
tree with its started scripts. -/
theorem inline_induction {P : Tree → Prop} (hnum : ∀ t, P t → t.Numbered)
    (hgraft : ∀ t u site, P t → P u → site < t.size → P (t.graft site u)) (ht : P t)
    (hl : ∀ id u, lookup id = some u → P u) (depth : Nat) : P (t.inline lookup depth).tree := by
  obtain ⟨cs, -, hgrow, -⟩ := Inlined.exists_grows_extend (x := { tree := t })
    (fun id u hu => hnum u (hl id u hu)) depth (hnum t ht) (Nat.zero_le _)
  rw [inline, hgrow.tree_eq]
  exact graftAll_induction ht hgrow.placed fun t c hc h hs =>
    hgraft t c.tree c.site h (hl c.target c.tree (hgrow.lookup_eq c hc)) hs

theorem HasDistinctGates.graft (ht : t.HasDistinctGates) (hu : u.HasDistinctGates)
    (hs : site < t.size) : (t.graft site u).HasDistinctGates := by
  intro n b hb
  obtain ⟨-, b', hb', rfl⟩ | ⟨k, b', -, hb', rfl⟩ := block?_graft_cases hs hb
  · exact ht n b' hb'
  · exact hu k b' hb'

/-! ### Scripts and dialogue results -/

theorem hasDistinctGates_tree (f : Forest) (locals : Locals) (owner : Option String) :
    (f.tree locals owner).HasDistinctGates := by
  intro n b hb
  cases n with
  | zero =>
    obtain rfl := Option.some.inj (Forest.block?_tree_zero.symm.trans hb)
    exact List.Pairwise.nil
  | succ k =>
    rw [Forest.block?_tree_succ] at hb
    obtain ⟨b', hb', rfl⟩ := Option.map_eq_some_iff.1 hb
    have hgates := f.map_blocks (g := (·.gate.requirements))
      (h := fun part => (Gate.ofList part.requirements).requirements) (fun _ _ _ _ => rfl) 0 1
    have hmem := List.mem_map_of_mem (f := (·.gate.requirements)) (List.mem_of_getElem? hb')
    rw [hgates] at hmem
    obtain ⟨part, -, heq⟩ := List.mem_map.1 hmem
    have hpart := Gate.distinct_ofList part.requirements
    rw [Gate.Distinct, heq] at hpart
    exact hpart

theorem hasDistinctGates_parse (source : String) (t : Translator) :
    (Tree.parse source t).1.HasDistinctGates := by
  rw [parse_fst]
  exact hasDistinctGates_tree _ _ _

/-- The tree of a dialogue result is that of its text, but for the gate of the root. -/
theorem block?_parseResult (info result : String) (gate : Gate) (t : Translator) (n : Nat) :
    (parseResult info result gate t).1.block? n =
      ((parse (resultSource info result) t).1.block? n).map fun b =>
        if n = 0 then { b with gate := { gate with block := some 0 } } else b := by
  rw [parseResult, block?, Array.getElem?_modify, block?]
  by_cases hn : n = 0
  · simp [hn]
  · simp [hn, Ne.symm hn]

theorem parent?_parseResult (info result : String) (gate : Gate) (t : Translator) (n : Nat) :
    (parseResult info result gate t).1.parent? n =
      (parse (resultSource info result) t).1.parent? n := by
  rw [parent?, block?_parseResult, parent?]
  cases (parse (resultSource info result) t).1.block? n with
  | none => rfl
  | some b =>
    rw [Option.map_some, Option.bind_some, Option.bind_some]
    split <;> rfl

theorem isArena_parseResult (info result : String) (gate : Gate) (t : Translator) :
    (parseResult info result gate t).1.IsArena := by
  have h := isArena_parse (resultSource info result) t
  refine ⟨?_, ?_, ?_⟩
  · have hsize := h.size_pos
    rwa [parseResult, size, Array.size_modify]
  · intro n b hb
    rw [block?_parseResult] at hb
    obtain ⟨b', hb', rfl⟩ := Option.map_eq_some_iff.1 hb
    have hat := h.isAt n b' hb'
    split
    · next hn =>
      exact ⟨hat.id_eq, congrArg some hn.symm, hat.parent_eq_none_iff, hat.parent_lt,
        hat.sorted_children, hat.lower_locals⟩
    · exact hat
  · intro n b hb c
    rw [parent?_parseResult]
    rw [block?_parseResult] at hb
    obtain ⟨b', hb', rfl⟩ := Option.map_eq_some_iff.1 hb
    rw [← h.mem_children_iff n b' hb']
    split <;> rfl

theorem hasDistinctGates_parseResult (info result : String) {gate : Gate} (hg : gate.Distinct)
    (t : Translator) : (parseResult info result gate t).1.HasDistinctGates := by
  intro n b hb
  rw [block?_parseResult] at hb
  obtain ⟨b', hb', rfl⟩ := Option.map_eq_some_iff.1 hb
  split
  · exact hg
  · exact hasDistinctGates_parse _ _ n b' hb'

/-! ### All trees -/

namespace Reachable

theorem isArena (h : t.Reachable gates) : t.IsArena := by
  induction h with
  | empty script => exact isArena_empty script
  | parse source t => exact isArena_parse source t
  | parseResult info result _ t => exact isArena_parseResult info result _ t
  | graft _ _ hs iht ihu => exact iht.graft ihu hs
  | inline _ _ depth iht ihl =>
    exact inline_induction (fun _ h => h.numbered) (fun _ _ _ h h' hs => h.graft h' hs) iht ihl
      depth

theorem hasDistinctGates (hg : ∀ g, gates g → g.Distinct) (h : t.Reachable gates) :
    t.HasDistinctGates := by
  induction h with
  | empty script => exact hasDistinctGates_tree .nil ∅ script
  | parse source t => exact hasDistinctGates_parse source t
  | parseResult info result hgate t =>
    exact hasDistinctGates_parseResult info result (hg _ hgate) t
  | graft _ _ hs iht ihu => exact iht.graft ihu hs
  | inline ht hl depth iht ihl =>
    -- started scripts are put where the numbers of the blocks say
    have hkeep := inline_induction (P := fun t => t.Numbered ∧ t.HasDistinctGates)
      (fun _ h => h.1) (fun _ _ _ h h' hs => ⟨h.1.graft h'.1 hs, h.2.graft h'.2 hs⟩)
      ⟨ht.isArena.numbered, iht⟩ (fun id u hu => ⟨(hl id u hu).isArena.numbered, ihl id u hu⟩)
      depth
    exact hkeep.2

end Reachable

/-- In every tree that can be made the links agree and a name is local when it is among the
local variables in sight. The path to a block leads there from the root, and the blocks on it
require part of what the block requires. No two requirements on the way to a block are equal,
nor two requirements of a block itself if that is so for the gates of dialogue results. -/
theorem reachable_invariant (h : t.Reachable gates) :
    t.IsArena ∧
      (∀ n name, t.isLocal n name = true ↔ name.toLower ∈ t.visibleLocals n) ∧
      (∀ n < t.size, t.IsPathTo n (t.path n) ∧
        ∀ a ∈ t.path n, (t.gate a).requirements <+: (t.gate n).requirements) ∧
      (∀ n, (t.gate n).Distinct) ∧
      ((∀ g, gates g → g.Distinct) → t.HasDistinctGates) := by
  have harena := h.isArena
  refine ⟨harena, fun n name => isLocal_iff, fun n hn => ⟨harena.isPathTo hn, ?_⟩,
    distinct_gate t, fun hg => h.hasDistinctGates hg⟩
  intro a ha
  exact harena.gate_isPrefix ha

/-- A script in its own first block, with the dialogue result that it starts. -/
def nestedTree : Tree :=
  let script := (parse "begin a\nshort x\nif ( x == 1 )\nStartScript b\nendif\nend" {}).1
  let result := (parseResult "b" "StartScript a" {} {}).1
  ((script.graft 1 script).inline (fun id => if id = "b" then some result else none) 2).tree

theorem nestedTree_reachable_invariant :
    nestedTree.Reachable Gate.Distinct ∧ nestedTree.size = 14 ∧ nestedTree.IsArena ∧
      nestedTree.IsPathTo 13 (nestedTree.path 13) ∧ nestedTree.HasDistinctGates := by
  have hscript : Reachable Gate.Distinct
      (parse "begin a\nshort x\nif ( x == 1 )\nStartScript b\nendif\nend" {}).1 := .parse _ _
  have hresult : Reachable Gate.Distinct (parseResult "b" "StartScript a" {} {}).1 :=
    .parseResult _ _ List.Pairwise.nil _
  have hreachable : nestedTree.Reachable Gate.Distinct := by
    refine .inline (.graft hscript hscript (by decide +kernel)) ?_ 2
    intro id u hu
    split at hu
    · obtain rfl := Option.some.inj hu
      exact hresult
    · cases hu
  have hsize : nestedTree.size = 14 := by decide +kernel
  obtain ⟨harena, -, hpaths, -, hgates⟩ := reachable_invariant hreachable
  exact ⟨hreachable, hsize, harena, (hpaths 13 (by omega)).1, hgates fun _ h => h⟩

end Tree

end Questline
