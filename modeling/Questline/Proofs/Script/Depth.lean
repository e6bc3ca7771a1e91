import Questline.Proofs.Script.Inlining
import Questline.Proofs.Script.Searching
import Questline.Script.Journal

/-!
# Deeper inlining only adds

The started scripts of a tree are put into it level by level. The copies of one more level come
behind everything that was there, and change nothing but which children a block has at its end.
What is found in a tree is therefore found first, and in the same order, in the tree with more
levels of started scripts.

## Main definitions

* `Tree.Extends`: a tree with more blocks behind those of another one

## Main results

* `Tree.Extends.gate_eq`, `Tree.Extends.calls_isPrefix`: what is found is found again
* `Inlined.extends_extend_of_le`: one pass after the other
* `Tree.inline_extends_of_le`: the tree with its started scripts, up to two depths
-/

namespace Questline

open scoped List

namespace Tree

variable {t u v : Tree} {n : Nat}

/-- The tree `u` has the blocks of `t` first, in their order, each with some more children behind
those it has at most. -/
structure Extends (u t : Tree) : Prop where
  script_eq : u.script = t.script
  exists_adopt (n : Nat) (b : Block) (h : t.block? n = some b) :
    ∃ children, u.block? n = some (b.adopt children)

namespace Extends

theorem refl (t : Tree) : t.Extends t :=
  ⟨rfl, fun n b hb => ⟨[], by rw [Block.adopt_nil, hb]⟩⟩

theorem trans (h : v.Extends u) (h' : u.Extends t) : v.Extends t where
  script_eq := h.script_eq.trans h'.script_eq
  exists_adopt n b hb := by
    obtain ⟨cs, hcs⟩ := h'.exists_adopt n b hb
    obtain ⟨ds, hds⟩ := h.exists_adopt n _ hcs
    exact ⟨cs ++ ds, by rw [hds, Block.adopt_adopt]⟩

theorem graft (t : Tree) (site : Nat) (u : Tree) : (t.graft site u).Extends t where
  script_eq := rfl
  exists_adopt n b hb := by
    rw [block?_graft_of_lt (lt_size_of_block? hb), hb]
    exact ⟨_, rfl⟩

/-- What does not depend on the children of a block is the same for it. -/
theorem map_block?_eq {α : Type} {f : Block → α} (h : u.Extends t)
    (hf : ∀ b cs, f (b.adopt cs) = f b) (hn : n < t.size) :
    (u.block? n).map f = (t.block? n).map f := by
  obtain ⟨b, hb⟩ := exists_block?_of_lt hn
  obtain ⟨cs, hcs⟩ := h.exists_adopt n b hb
  rw [hb, hcs, Option.map_some, Option.map_some, hf]

theorem parent?_eq (h : u.Extends t) (hn : n < t.size) : u.parent? n = t.parent? n := by
  obtain ⟨b, hb⟩ := exists_block?_of_lt hn
  obtain ⟨cs, hcs⟩ := h.exists_adopt n b hb
  rw [parent?, parent?, hb, hcs]
  rfl

theorem path_eq (h : u.Extends t) (hn : n < t.size) : u.path n = t.path n :=
  path_congr fun _ hk => h.parent?_eq (hk.trans_lt hn)

theorem gate_eq (h : u.Extends t) (hn : n < t.size) : u.gate n = t.gate n := by
  rw [gate_eq_insertAll_map, gate_eq_insertAll_map, map_enclosing, map_enclosing, h.path_eq hn]
  congr 2
  exact List.filterMap_congr fun k hk =>
    h.map_block?_eq (fun _ _ => rfl) ((le_of_mem_path hk).trans_lt hn)

/-- What is found block by block is found again, in the same order. -/
theorem flatMap_blocks_isPrefix {α : Type} {f : Block → List α} (h : u.Extends t)
    (hf : ∀ b cs, f (b.adopt cs) = f b) :
    t.blocks.toList.flatMap f <+: u.blocks.toList.flatMap f := by
  have hmap : t.blocks.toList.map f <+: u.blocks.toList.map f := by
    rw [List.prefix_iff_getElem?]
    intro n hn
    rw [List.length_map, length_toList_blocks] at hn
    have hmap := h.map_block?_eq hf hn
    rw [List.getElem?_map, ← block?_eq_getElem?, hmap, block?_eq_getElem?, ← List.getElem?_map]
    exact List.getElem?_eq_getElem _
  obtain ⟨rest, hrest⟩ := hmap
  exact ⟨rest.flatten, by rw [List.flatMap_def, List.flatMap_def, ← hrest, List.flatten_append]⟩

/-- The calls of a tree are the first calls of one with more blocks. -/
theorem calls_isPrefix (h : u.Extends t) (ht : t.Numbered) (p : CallPattern) :
    t.calls p <+: u.calls p := by
  have hcalls : t.calls p = t.blocks.toList.flatMap (u.callsIn p) := by
    refine List.flatMap_congr fun b hb => ?_
    obtain ⟨n, hn⟩ := List.mem_iff_getElem?.1 hb
    have hb : t.block? n = some b := block?_eq_getElem?.trans hn
    rw [callsIn, callsIn, ht n b hb, h.gate_eq (lt_size_of_block? hb)]
  rw [hcalls]
  exact h.flatMap_blocks_isPrefix fun _ _ => rfl

theorem journalUpdates_isPrefix (h : u.Extends t) (ht : t.Numbered) :
    t.journalUpdates <+: u.journalUpdates :=
  (h.calls_isPrefix ht journalPattern).filterMap _

end Extends

end Tree

namespace Inlined

variable {lookup : String → Option Tree} {x y z : Inlined} {start d e : Nat}

/-- Copies were put into `x`. -/
structure Extends (y x : Inlined) : Prop where
  tree : y.tree.Extends x.tree
  copies_le : x.copies ≤ y.copies

namespace Extends

theorem refl (x : Inlined) : x.Extends x :=
  ⟨.refl _, Nat.le_refl _⟩

theorem trans (h : z.Extends y) (h' : y.Extends x) : z.Extends x :=
  ⟨h.tree.trans h'.tree, h'.copies_le.trans h.copies_le⟩

theorem foldl {α : Type} {f : Inlined → α → Inlined} (h : ∀ (x : Inlined) (a : α), (f x a).Extends x)
    (l : List α) (x : Inlined) : (l.foldl f x).Extends x := by
  induction l generalizing x with
  | nil => exact refl x
  | cons a l ih => exact (ih (f x a)).trans (h x a)

theorem graftTargets (lookup : String → Option Tree) (x : Inlined) (b : Block) :
    (x.graftTargets lookup b).Extends x :=
  foldl (fun x u => ⟨.graft x.tree b.id u, Nat.le_succ _⟩) _ x

theorem extend (lookup : String → Option Tree) (x : Inlined) (start d : Nat) :
    (x.extend lookup start d).Extends x := by
  induction d generalizing x start with
  | zero => exact refl x
  | succ d ih =>
    have hpass := foldl (graftTargets lookup) (x.tree.blocks.toList.drop start) x
    rw [Inlined.extend]
    split
    · exact hpass
    · exact (ih _ _).trans hpass

end Extends

/-- More passes go on where fewer passes end. -/
theorem extends_extend_of_le (h : d ≤ e) (x : Inlined) (start : Nat) :
    (x.extend lookup start e).Extends (x.extend lookup start d) := by
  induction d generalizing x start e with
  | zero => exact .extend lookup x start e
  | succ d ih =>
    obtain ⟨e, rfl⟩ : ∃ e', e = e' + 1 := Nat.exists_eq_succ_of_ne_zero (by omega)
    rw [extend, extend]
    split
    · exact .refl _
    · exact ih (Nat.le_of_succ_le_succ h) _ _

end Inlined

namespace Tree

variable {t : Tree} {lookup : String → Option Tree} {d e : Nat}

/-- The started scripts that are put into a tree up to the depth `d` are put into it first when it
gets those up to a greater depth `e`: the blocks are the same, but for more children behind those
that a block has, and what else is put in comes after them. So the calls and the journal updates
that are found in the one tree are the first that are found in the other, with the same gates. -/
theorem inline_extends_of_le (ht : t.Numbered) (hl : ∀ id u, lookup id = some u → u.Numbered)
    (h : d ≤ e) :
    let shallow := t.inline lookup d
    let deep := t.inline lookup e
    deep.tree.Extends shallow.tree ∧
      (∀ p, shallow.tree.calls p <+: deep.tree.calls p) ∧
      shallow.tree.journalUpdates <+: deep.tree.journalUpdates ∧
      shallow.copies ≤ deep.copies := by
  intro shallow deep
  have hextends : deep.Extends shallow := Inlined.extends_extend_of_le h { tree := t } 0
  have hnumbered : shallow.tree.Numbered := by
    obtain ⟨cs, -, hgrow, -⟩ :=
      Inlined.exists_grows_extend (x := { tree := t }) hl d ht (Nat.zero_le _)
    exact hgrow.numbered ht hl
  exact ⟨hextends.tree, hextends.tree.calls_isPrefix hnumbered,
    hextends.tree.journalUpdates_isPrefix hnumbered, hextends.copies_le⟩

/-- A script that starts another one, which starts a third one, which writes the journal. -/
def chain? (id : String) : Option Tree :=
  if id = "a" then some (parse "begin a\nStartScript b\nend" {}).1
  else if id = "b" then some (parse "begin b\nStartScript c\nend" {}).1
  else if id = "c" then some (parse "begin c\nJournal Q 10\nend" {}).1
  else none

theorem chain_inline_extends :
    ∃ t, chain? "a" = some t ∧ t.Numbered ∧ (∀ id u, chain? id = some u → u.Numbered) ∧
      (t.inline chain? 3).tree.Extends (t.inline chain? 1).tree ∧
      (t.inline chain? 1).tree.calls startPattern <+: (t.inline chain? 3).tree.calls startPattern ∧
      (t.inline chain? 1).copies = 1 ∧ (t.inline chain? 3).copies = 2 ∧
      (t.inline chain? 1).tree.journalUpdates.length = 0 ∧
      (t.inline chain? 3).tree.journalUpdates.length = 1 := by
  have hnum : ∀ id u, chain? id = some u → u.Numbered := by
    intro id u hu
    unfold chain? at hu
    split_ifs at hu <;> obtain rfl := Option.some.inj hu <;> exact (isArena_parse _ _).numbered
  refine ⟨_, rfl, hnum "a" _ rfl, hnum, ?_⟩
  obtain ⟨hextends, hcalls, -, -⟩ := inline_extends_of_le (hnum "a" _ rfl) hnum (d := 1) (e := 3)
    (by decide)
  exact ⟨hextends, hcalls startPattern, by decide +kernel, by decide +kernel, by decide +kernel,
    by decide +kernel⟩

end Tree

end Questline
