import Mathlib.Data.List.Basic
import Questline.Script.Tree

/-!
# Trees with copies of other trees in them

Copies that are put into a tree stand behind its blocks, one after the other. The blocks that
are there stay as they are, but for new children at the end.

## Main definitions

* `Copy`: a copy of a tree, with the block it stands under and the script it is a copy of
* `Tree.graftAll`: a tree with copies in it
* `Placed`: copies that stand one after the other, each under a block before it

## Main results

* `Tree.block?_graftAll`: the blocks of a tree with copies in it
* `Tree.graftAll_induction`: what each copy keeps, all of them keep
-/

namespace Questline

/-! ### One copy -/

/-- The block with more children after those it has. -/
def Block.adopt (b : Block) (children : List Nat) : Block :=
  { b with children := b.children ++ children }

namespace Block

variable (b : Block) (cs ds : List Nat)

@[simp] theorem adopt_nil : b.adopt [] = b := by
  simp [adopt]

@[simp] theorem adopt_adopt : (b.adopt cs).adopt ds = b.adopt (cs ++ ds) := by
  simp [adopt]

end Block

namespace Tree

variable {t u : Tree} {site n : Nat}

theorem block?_eq_getElem? : t.block? n = t.blocks.toList[n]? := by
  rw [block?, Array.getElem?_toList]

theorem length_toList_blocks : t.blocks.toList.length = t.size := Array.length_toList

theorem lt_size_of_block? {b : Block} (h : t.block? n = some b) : n < t.size := by
  obtain ⟨hn, -⟩ := Array.getElem?_eq_some_iff.1 h
  exact hn

/-- The blocks of a tree with a copy in it that were there before. -/
theorem block?_graft_of_lt (hn : n < t.size) :
    (t.graft site u).block? n =
      (t.block? n).map (·.adopt (if site = n then [t.size] else [])) := by
  have hleft : (t.blocks ++ u.blocks.map (·.shift t.size site u.script))[n]? = t.blocks[n]? :=
    Array.getElem?_append_left hn
  rw [block?, graft, Array.getElem?_modify, hleft]
  by_cases hs : site = n
  · simp [hs, block?, Block.adopt]
  · simp [hs, block?]

/-- The blocks of the copy. -/
theorem block?_graft_add (hs : site < t.size) :
    (t.graft site u).block? (t.size + n) =
      (u.block? n).map (·.shift t.size site u.script) := by
  have hright : (t.blocks ++ u.blocks.map (·.shift t.size site u.script))[t.size + n]? =
      (u.blocks.map (·.shift t.size site u.script))[n]? := by
    rw [size, Array.getElem?_append_right (Nat.le_add_right _ _), Nat.add_sub_cancel_left]
  rw [block?, graft, Array.getElem?_modify, hright, if_neg (by omega), Array.getElem?_map, block?]

/-- A block of a tree with a copy in it was there before, or is a copied one. -/
theorem block?_graft_cases {b : Block} (hs : site < t.size)
    (hb : (t.graft site u).block? n = some b) :
    (n < t.size ∧ ∃ b', t.block? n = some b' ∧
      b'.adopt (if site = n then [t.size] else []) = b) ∨
    ∃ k b', k + t.size = n ∧ u.block? k = some b' ∧ b'.shift t.size site u.script = b := by
  by_cases hn : n < t.size
  · rw [block?_graft_of_lt hn] at hb
    exact .inl ⟨hn, Option.map_eq_some_iff.1 hb⟩
  · obtain ⟨k, rfl⟩ := Nat.exists_eq_add_of_le (Nat.le_of_not_lt hn)
    rw [block?_graft_add hs] at hb
    exact .inr ⟨k, (Option.map_eq_some_iff.1 hb).imp fun b' h => ⟨Nat.add_comm _ _, h⟩⟩

/-- The blocks of a tree carry the numbers of their places. So it is in all trees that can be
made. -/
def Numbered (t : Tree) : Prop :=
  ∀ n b, t.block? n = some b → b.id = n

theorem mem_drop_blocks {b : Block} {start : Nat} :
    b ∈ t.blocks.toList.drop start ↔ ∃ n, start ≤ n ∧ t.block? n = some b := by
  simp only [List.mem_iff_getElem?, List.getElem?_drop, ← block?_eq_getElem?]
  constructor
  · rintro ⟨k, hk⟩
    exact ⟨start + k, Nat.le_add_right _ _, hk⟩
  · rintro ⟨n, hn, hb⟩
    obtain ⟨k, rfl⟩ := Nat.exists_eq_add_of_le hn
    exact ⟨k, hb⟩

theorem Numbered.pairwise_id (ht : t.Numbered) : t.blocks.toList.Pairwise (·.id < ·.id) := by
  rw [List.pairwise_iff_getElem]
  intro i j hi hj hij
  have hid : ∀ k (hk : k < t.blocks.toList.length), t.blocks.toList[k].id = k := fun k hk =>
    ht k _ (block?_eq_getElem?.trans (List.getElem?_eq_getElem hk))
  rwa [hid i hi, hid j hj]

theorem Numbered.graft (ht : t.Numbered) (hu : u.Numbered) (hs : site < t.size) :
    (t.graft site u).Numbered := by
  intro n b hb
  obtain ⟨-, b', hb', rfl⟩ | ⟨k, b', rfl, hb', rfl⟩ := block?_graft_cases hs hb
  · exact ht n b' hb'
  · exact congrArg (· + t.size) (hu k b' hb')

end Tree

/-! ### Several copies -/

/-- A copy of a tree that was put into another one. -/
structure Copy where
  /-- The block that the copy stands under. -/
  site : Nat
  /-- The script that it is a copy of. -/
  target : String
  tree : Tree
  /-- The number of its first block. -/
  start : Nat

/-- The blocks of a copy, before other copies are put under them. -/
def Copy.blocks (c : Copy) : List Block :=
  c.tree.blocks.toList.map (·.shift c.start c.site c.tree.script)

/-- The numbers of the copies that stand under a block. -/
def startsUnder (site : Nat) (cs : List Copy) : List Nat :=
  (cs.filter (·.site = site)).map (·.start)

/-- The scripts whose copies stand under a block. -/
def targetsUnder (site : Nat) (cs : List Copy) : List String :=
  (cs.filter (·.site = site)).map (·.target)

theorem targetsUnder_append (site : Nat) (cs ds : List Copy) :
    targetsUnder site (cs ++ ds) = targetsUnder site cs ++ targetsUnder site ds := by
  simp [targetsUnder]

theorem targetsUnder_eq_map {site : Nat} {cs : List Copy} (h : ∀ c ∈ cs, c.site = site) :
    targetsUnder site cs = cs.map (·.target) := by
  rw [targetsUnder, List.filter_eq_self.2 (by simpa using h)]

theorem targetsUnder_eq_nil {site : Nat} {cs : List Copy} (h : ∀ c ∈ cs, c.site ≠ site) :
    targetsUnder site cs = [] := by
  rw [targetsUnder, List.filter_eq_nil_iff.2 (by simpa using h), List.map_nil]

/-- Copies that stand one after the other from number `n` on, each under a block before it. -/
def Placed (n : Nat) : List Copy → Prop
  | [] => True
  | c :: cs => c.start = n ∧ c.site < n ∧ Placed (n + c.tree.size) cs

namespace Tree

variable {t : Tree} {n : Nat} {cs ds : List Copy}

/-- Put copies into a tree. -/
def graftAll (t : Tree) (cs : List Copy) : Tree :=
  cs.foldl (fun t c => t.graft c.site c.tree) t

theorem graftAll_append : t.graftAll (cs ++ ds) = (t.graftAll cs).graftAll ds :=
  List.foldl_append

@[simp] theorem script_graftAll : (t.graftAll cs).script = t.script := by
  induction cs generalizing t with
  | nil => rfl
  | cons c cs ih => exact ih

theorem size_le_size_graftAll : t.size ≤ (t.graftAll cs).size := by
  induction cs generalizing t with
  | nil => exact Nat.le_refl _
  | cons c cs ih =>
    have h : (t.graft c.site c.tree).size ≤ (t.graftAll (c :: cs)).size := ih
    rw [size_graft] at h
    omega

end Tree

theorem placed_append {t : Tree} {cs ds : List Copy} :
    Placed t.size (cs ++ ds) ↔ Placed t.size cs ∧ Placed (t.graftAll cs).size ds := by
  induction cs generalizing t with
  | nil => simp [Placed, Tree.graftAll]
  | cons c cs ih =>
    have h := ih (t := t.graft c.site c.tree)
    rw [Tree.size_graft] at h
    simp only [List.cons_append, Placed, h, and_assoc]
    rfl

/-- Placed copies start behind what was there. -/
theorem Placed.le_start {n : Nat} {cs : List Copy} (h : Placed n cs) {c : Copy} (hc : c ∈ cs) :
    n ≤ c.start := by
  induction cs generalizing n with
  | nil => cases hc
  | cons d cs ih =>
    obtain ⟨hstart, -, hrest⟩ := h
    obtain rfl | hc := List.mem_cons.1 hc
    · omega
    · have := ih hrest hc
      omega

theorem Placed.start_add_le {t : Tree} {cs : List Copy} (h : Placed t.size cs) {c : Copy}
    (hc : c ∈ cs) : c.start + c.tree.size ≤ (t.graftAll cs).size := by
  induction cs generalizing t with
  | nil => cases hc
  | cons d cs ih =>
    obtain ⟨hstart, -, hrest⟩ := h
    rw [← Tree.size_graft t d.site] at hrest
    obtain rfl | hc := List.mem_cons.1 hc
    · have hle : (t.graft c.site c.tree).size ≤ (t.graftAll (c :: cs)).size :=
        Tree.size_le_size_graftAll
      rw [Tree.size_graft] at hle
      omega
    · exact ih hrest hc

/-- The blocks of a tree with copies in it: those of the tree, then those of the copies, with
the copies that were put under a block as its last children. -/
theorem Tree.block?_graftAll {t : Tree} {cs : List Copy} (h : Placed t.size cs) (n : Nat) :
    (t.graftAll cs).block? n =
      (t.blocks.toList ++ cs.flatMap Copy.blocks)[n]?.map (·.adopt (startsUnder n cs)) := by
  induction cs generalizing t with
  | nil => simp [graftAll, block?, startsUnder]
  | cons c cs ih =>
    obtain ⟨hstart, hsite, hrest⟩ := h
    have hsize : (t.graft c.site c.tree).size = t.size + c.tree.size := size_graft ..
    have hlen : c.blocks.length = c.tree.size := by simp [Copy.blocks, size]
    rw [← hsize] at hrest
    show ((t.graft c.site c.tree).graftAll cs).block? n = _
    rw [ih hrest, List.flatMap_cons, ← List.append_assoc]
    have hstarts : startsUnder n (c :: cs) =
        (if c.site = n then [t.size] else []) ++ startsUnder n cs := by
      by_cases hn : c.site = n <;> simp [startsUnder, hn, hstart]
    by_cases hn : n < (t.graft c.site c.tree).size
    · rw [List.getElem?_append_left (by rwa [length_toList_blocks]), ← block?_eq_getElem?]
      rw [List.getElem?_append_left (by
        rw [List.length_append, hlen, length_toList_blocks]; omega), hstarts]
      by_cases hold : n < t.size
      · rw [List.getElem?_append_left (by rwa [length_toList_blocks]), ← block?_eq_getElem?,
          block?_graft_of_lt hold, Option.map_map]
        simp [Function.comp_def]
      · obtain ⟨k, rfl⟩ := Nat.exists_eq_add_of_le (Nat.le_of_not_lt hold)
        rw [List.getElem?_append_right (by rw [length_toList_blocks]; omega), length_toList_blocks,
          block?_graft_add hsite, if_neg (by omega), Nat.add_sub_cancel_left, Copy.blocks,
          List.getElem?_map, ← block?_eq_getElem?, hstart]
        rfl
    · rw [List.getElem?_append_right (by rw [length_toList_blocks]; omega), length_toList_blocks,
        List.getElem?_append_right (by rw [List.length_append, hlen, length_toList_blocks]; omega),
        List.length_append, hlen, length_toList_blocks, hsize, hstarts, if_neg (by omega),
        List.nil_append]

/-- What holds of a tree, and is kept when one of the copies is put into it, holds of the tree
with all of them. -/
theorem Tree.graftAll_induction {P : Tree → Prop} {t : Tree} {cs : List Copy} (h : P t)
    (hp : Placed t.size cs)
    (hstep : ∀ t, ∀ c ∈ cs, P t → c.site < t.size → P (t.graft c.site c.tree)) :
    P (t.graftAll cs) := by
  induction cs generalizing t with
  | nil => exact h
  | cons c cs ih =>
    obtain ⟨-, hsite, hrest⟩ := hp
    rw [← size_graft t c.site] at hrest
    exact ih (hstep t c List.mem_cons_self h hsite) hrest
      fun t d hd => hstep t d (List.mem_cons_of_mem c hd)

end Questline
