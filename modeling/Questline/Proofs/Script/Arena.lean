import Questline.Proofs.Script.Copies
import Questline.Proofs.Script.Kept

/-!
# Trees whose links agree

The blocks of a tree are linked by number in both directions. In every tree that can be made
the numbers agree: a block carries the number of its place, its parent stands before it, and
its children are the blocks that have it for a parent.

## Main definitions

* `Block.IsAt`: a block that fits its place
* `Tree.IsArena`: a tree whose links agree

## Main results

* `Tree.IsArena.graft`: a copy keeps the links
* `Forest.isArena_tree`: numbering a forest gives such a tree
-/

namespace Questline

/-- A block that fits the place `n`. Its local variables are in lower case. -/
structure Block.IsAt (b : Block) (n : Nat) : Prop where
  id_eq : b.id = n
  block_gate : b.gate.block = some n
  parent_eq_none_iff : b.parent = none ↔ n = 0
  parent_lt : ∀ p, b.parent = some p → p < n
  sorted_children : b.children.Pairwise (· < ·)
  lower_locals : ∀ name ∈ b.locals, name.toLower = name

/-- A tree whose links agree: the blocks fit their places, and a block is a child of another
one exactly when that is its parent. -/
structure Tree.IsArena (t : Tree) : Prop where
  size_pos : 0 < t.size
  isAt : ∀ n b, t.block? n = some b → b.IsAt n
  mem_children_iff : ∀ n b, t.block? n = some b → ∀ c, c ∈ b.children ↔ t.parent? c = some n

namespace Block.IsAt

variable {b : Block} {n site offset : Nat}

/-- A copied block fits its place behind `offset` blocks. -/
theorem shift (h : b.IsAt n) (hs : site < offset) (owner : Option String) :
    (b.shift offset site owner).IsAt (n + offset) where
  id_eq := congrArg (· + offset) h.id_eq
  block_gate := congrArg (fun k => some (k + offset)) h.id_eq
  parent_eq_none_iff := ⟨(nomatch ·), fun hn => by omega⟩
  parent_lt p hp := by
    have hp : b.parent.elim site (· + offset) = p := Option.some.inj hp
    cases hb : b.parent with
    | none =>
      rw [hb, Option.elim_none] at hp
      omega
    | some q =>
      have := h.parent_lt q hb
      rw [hb, Option.elim_some] at hp
      omega
  sorted_children := by
    have hmono : ∀ i j : Nat, i < j → i + offset < j + offset := fun i j hij => by omega
    exact List.pairwise_map.2 (h.sorted_children.imp (hmono _ _))
  lower_locals := h.lower_locals

/-- A block can get a child that comes after those it has. -/
theorem adopt (h : b.IsAt n) {child : Nat} (hc : ∀ c ∈ b.children, c < child) :
    (b.adopt [child]).IsAt n where
  id_eq := h.id_eq
  block_gate := h.block_gate
  parent_eq_none_iff := h.parent_eq_none_iff
  parent_lt := h.parent_lt
  sorted_children := by
    refine List.pairwise_append.2 ⟨h.sorted_children, List.pairwise_singleton _ _, ?_⟩
    intro c hcb d hd
    obtain rfl := List.mem_singleton.1 hd
    exact hc c hcb
  lower_locals := h.lower_locals

end Block.IsAt

namespace Tree

variable {t u : Tree} {site n c : Nat} {b : Block}

theorem parent?_eq_some_iff {p : Nat} :
    t.parent? n = some p ↔ ∃ b, t.block? n = some b ∧ b.parent = some p :=
  Option.bind_eq_some_iff

theorem exists_block?_of_lt (h : n < t.size) : ∃ b, t.block? n = some b :=
  ⟨t.blocks[n], Array.getElem?_eq_getElem h⟩

theorem block?_eq_none_of_le (h : t.size ≤ n) : t.block? n = none :=
  Array.getElem?_eq_none h

theorem parent?_graft_of_lt (hn : n < t.size) : (t.graft site u).parent? n = t.parent? n := by
  rw [parent?, parent?, block?_graft_of_lt hn]
  cases t.block? n <;> rfl

theorem parent?_graft_add (hs : site < t.size) :
    (t.graft site u).parent? (t.size + n) =
      (u.block? n).map fun b => b.parent.elim site (· + t.size) := by
  rw [parent?, block?_graft_add hs]
  cases u.block? n <;> rfl

namespace IsArena

theorem numbered (ht : t.IsArena) : t.Numbered := fun n b hb => (ht.isAt n b hb).id_eq

theorem lt_of_parent? (ht : t.IsArena) {p : Nat} (h : t.parent? n = some p) :
    p < n ∧ n < t.size := by
  obtain ⟨b, hb, hp⟩ := parent?_eq_some_iff.1 h
  exact ⟨(ht.isAt n b hb).parent_lt p hp, lt_size_of_block? hb⟩

/-- Children are blocks of the tree. -/
theorem lt_size_of_mem_children (ht : t.IsArena) (hb : t.block? n = some b)
    (hc : c ∈ b.children) : c < t.size :=
  (ht.lt_of_parent? ((ht.mem_children_iff n b hb c).1 hc)).2

/-- The parents in a tree with a copy in it: those of the tree, the block that the copy stands
under, and those of the copy. -/
theorem parent?_graft_eq_some_iff (hu : u.IsArena) (hs : site < t.size) :
    (t.graft site u).parent? c = some n ↔
      t.parent? c = some n ∨ (c = t.size ∧ n = site) ∨
        ∃ k m, c = k + t.size ∧ n = m + t.size ∧ u.parent? k = some m := by
  by_cases hc : c < t.size
  · rw [parent?_graft_of_lt hc]
    refine ⟨.inl, ?_⟩
    rintro (h | ⟨rfl, -⟩ | ⟨k, m, rfl, -⟩)
    · exact h
    · omega
    · omega
  · obtain ⟨k, rfl⟩ := Nat.exists_eq_add_of_le (Nat.le_of_not_lt hc)
    have hnone : t.parent? (t.size + k) = none := by
      rw [parent?, block?_eq_none_of_le (Nat.le_add_right _ _), Option.bind_none]
    rw [parent?_graft_add hs, hnone]
    constructor
    · intro h
      obtain ⟨b, hb, hp⟩ := Option.map_eq_some_iff.1 h
      cases hroot : b.parent with
      | none =>
        obtain rfl := (hu.isAt k b hb).parent_eq_none_iff.1 hroot
        rw [hroot, Option.elim_none] at hp
        exact .inr (.inl ⟨rfl, hp.symm⟩)
      | some m =>
        rw [hroot, Option.elim_some] at hp
        exact .inr (.inr ⟨k, m, Nat.add_comm _ _, hp.symm, parent?_eq_some_iff.2 ⟨b, hb, hroot⟩⟩)
    · rintro (h | ⟨h, rfl⟩ | ⟨k', m, hk, rfl, h⟩)
      · cases h
      · obtain rfl : k = 0 := by omega
        obtain ⟨b, hb⟩ := exists_block?_of_lt hu.size_pos
        rw [hb, Option.map_some, (hu.isAt 0 b hb).parent_eq_none_iff.2 rfl, Option.elim_none]
      · obtain rfl : k = k' := by omega
        obtain ⟨b, hb, hp⟩ := parent?_eq_some_iff.1 h
        rw [hb, Option.map_some, hp, Option.elim_some]

/-- A copy under a block of the tree keeps the links. -/
theorem graft (ht : t.IsArena) (hu : u.IsArena) (hs : site < t.size) :
    (t.graft site u).IsArena where
  size_pos := by
    rw [size_graft]
    exact Nat.lt_of_lt_of_le ht.size_pos (Nat.le_add_right _ _)
  isAt n b hb := by
    obtain ⟨-, b', hb', rfl⟩ | ⟨k, b', rfl, hb', rfl⟩ := block?_graft_cases hs hb
    · by_cases hsite : site = n
      · rw [if_pos hsite]
        exact (ht.isAt n b' hb').adopt fun c hc => ht.lt_size_of_mem_children hb' hc
      · rw [if_neg hsite, Block.adopt_nil]
        exact ht.isAt n b' hb'
    · exact (hu.isAt k b' hb').shift hs u.script
  mem_children_iff n b hb c := by
    rw [parent?_graft_eq_some_iff hu hs]
    obtain ⟨hn, b', hb', rfl⟩ | ⟨m, b', rfl, hb', rfl⟩ := block?_graft_cases hs hb
    · have hcopy : ¬∃ k m, c = k + t.size ∧ n = m + t.size ∧ u.parent? k = some m := by
        rintro ⟨k, m, -, rfl, -⟩
        omega
      rw [or_iff_left hcopy, ← ht.mem_children_iff n b' hb', Block.adopt, List.mem_append]
      by_cases hsite : site = n
      · simp [hsite]
      · simp [hsite, Ne.symm hsite]
    · have hold : ¬t.parent? c = some (m + t.size) := fun h => by
        have := ht.lt_of_parent? h
        omega
      have hroot : ¬(c = t.size ∧ m + t.size = site) := fun h => by omega
      rw [or_iff_right hold, or_iff_right hroot, Block.shift, List.mem_map]
      constructor
      · rintro ⟨k, hk, rfl⟩
        exact ⟨k, m, rfl, rfl, (hu.mem_children_iff m b' hb' k).1 hk⟩
      · rintro ⟨k, m', rfl, hm, hk⟩
        obtain rfl : m = m' := by omega
        exact ⟨k, (hu.mem_children_iff m b' hb' k).2 hk, rfl⟩

end IsArena

end Tree

/-! ### Numbered forests -/

/-- Among the blocks, `c` has the parent `n`. -/
def IsChildIn (bs : List Block) (n c : Nat) : Prop :=
  ∃ b ∈ bs, b.id = c ∧ b.parent = some n

@[simp] theorem isChildIn_cons {b : Block} {bs : List Block} {n c : Nat} :
    IsChildIn (b :: bs) n c ↔ (b.id = c ∧ b.parent = some n) ∨ IsChildIn bs n c := by
  simp [IsChildIn]

@[simp] theorem isChildIn_append {bs bs' : List Block} {n c : Nat} :
    IsChildIn (bs ++ bs') n c ↔ IsChildIn bs n c ∨ IsChildIn bs' n c := by
  simp [IsChildIn, or_and_right, exists_or]

namespace Forest

variable {f : Forest} {parent id n c : Nat} {b : Block}

/-- The blocks of a forest are numbered one after the other. -/
theorem map_id_blocks (f : Forest) (parent id : Nat) :
    (f.blocks parent id).map (·.id) = List.range' id f.size := by
  induction f generalizing parent id with
  | nil => rfl
  | cons part below next ihb ihn =>
    have hsize : below.size + 1 + next.size = 1 + (below.size + next.size) := by omega
    rw [blocks, List.map_cons, List.map_append, ihb, ihn, size, hsize, ← List.range'_append,
      ← List.range'_append]
    simp [Part.block]

theorem id_of_getElem?_blocks {k : Nat} (h : (f.blocks parent id)[k]? = some b) :
    b.id = id + k := by
  have hid := congrArg (·[k]?) (f.map_id_blocks parent id)
  have hk : k < f.size := by
    have := (List.getElem?_eq_some_iff.1 h).1
    rwa [length_blocks] at this
  simp only [List.getElem?_map, h, Option.map_some, List.getElem?_range' hk] at hid
  have := Option.some.inj hid
  omega

theorem id_bounds (h : b ∈ f.blocks parent id) : id ≤ b.id ∧ b.id < id + f.size := by
  have hid := List.mem_map_of_mem (f := (·.id)) h
  rw [map_id_blocks] at hid
  simpa [List.mem_range'_1] using hid

/-- Parents stand before their children, below the block of the forest or in it. -/
theorem parent_bounds (h : b ∈ f.blocks parent id) :
    b.parent = some parent ∨ ∃ p, b.parent = some p ∧ id ≤ p ∧ p < b.id := by
  induction f generalizing parent id with
  | nil => cases h
  | cons part below next ihb ihn =>
    rw [blocks, List.mem_cons, List.mem_append] at h
    obtain rfl | h | h := h
    · exact .inl rfl
    · have hid := id_bounds h
      obtain hp | ⟨p, hp, hle, hlt⟩ := ihb h
      · exact .inr ⟨id, hp, Nat.le_refl id, by omega⟩
      · exact .inr ⟨p, hp, by omega, hlt⟩
    · obtain hp | ⟨p, hp, hle, hlt⟩ := ihn h
      · exact .inl hp
      · exact .inr ⟨p, hp, by omega, hlt⟩

theorem IsChildIn.bounds (h : IsChildIn (f.blocks parent id) n c) :
    n = parent ∨ (id ≤ n ∧ n < c ∧ c < id + f.size) := by
  obtain ⟨b, hb, rfl, hn⟩ := h
  have hid := id_bounds hb
  obtain hp | ⟨p, hp, hle, hlt⟩ := parent_bounds hb
  · exact .inl (Option.some.inj (hn.symm.trans hp))
  · obtain rfl := Option.some.inj (hn.symm.trans hp)
    exact .inr ⟨hle, hlt, hid.2⟩

/-- The roots of a forest are the children of the block it stands under. -/
theorem mem_roots_iff (hp : parent < id) :
    c ∈ f.roots id ↔ IsChildIn (f.blocks parent id) parent c := by
  induction f generalizing id with
  | nil => simp [roots, blocks, IsChildIn]
  | cons part below next _ ihn =>
    have hbelow : ¬IsChildIn (below.blocks id (id + 1)) parent c := fun h => by
      have := IsChildIn.bounds h
      omega
    rw [roots, blocks, List.mem_cons, ihn (by omega), isChildIn_cons, isChildIn_append,
      or_iff_right hbelow]
    simp [Part.block, eq_comm]

theorem mem_children_iff (hp : parent < id) (hb : b ∈ f.blocks parent id) :
    c ∈ b.children ↔ IsChildIn (f.blocks parent id) b.id c := by
  induction f generalizing parent id with
  | nil => cases hb
  | cons part below next ihb ihn =>
    rw [blocks, List.mem_cons, List.mem_append] at hb
    rw [blocks, isChildIn_cons, isChildIn_append]
    obtain rfl | hb | hb := hb
    · have hnext : ¬IsChildIn (next.blocks parent (id + 1 + below.size)) id c := fun h => by
        have := IsChildIn.bounds h
        omega
      have hself : id ≠ parent := by omega
      simp [Part.block, mem_roots_iff (Nat.lt_succ_self id), hnext, hself.symm]
    · have hid := id_bounds hb
      have hself : ¬(some parent = some b.id) := fun h => by
        have := Option.some.inj h
        omega
      have hnext : ¬IsChildIn (next.blocks parent (id + 1 + below.size)) b.id c := fun h => by
        have := IsChildIn.bounds h
        omega
      simp [Part.block, ihb (Nat.lt_succ_self id) hb, hnext, hself]
    · have hid := id_bounds hb
      have hself : ¬(some parent = some b.id) := fun h => by
        have := Option.some.inj h
        omega
      have hbelow : ¬IsChildIn (below.blocks id (id + 1)) b.id c := fun h => by
        have := IsChildIn.bounds h
        omega
      simp [Part.block, ihn (by omega) hb, hbelow, hself]

theorem sorted_roots (f : Forest) (id : Nat) : (f.roots id).Pairwise (· < ·) := by
  induction f generalizing id with
  | nil => exact .nil
  | cons part below next _ ihn =>
    refine List.pairwise_cons.2 ⟨?_, ihn _⟩
    intro c hc
    have hlt : id < id + 1 + below.size := by omega
    obtain ⟨b, hb, rfl, -⟩ := (mem_roots_iff hlt).1 hc
    exact Nat.lt_of_lt_of_le hlt (id_bounds hb).1

/-- The blocks of a forest fit their places, when the names that it declares are in lower
case. -/
theorem isAt_of_mem_blocks (hp : parent < id)
    (hl : ∀ name, f.Declares name → name.toLower = name) (hb : b ∈ f.blocks parent id) :
    b.IsAt b.id := by
  induction f generalizing parent id with
  | nil => cases hb
  | cons part below next ihb ihn =>
    simp only [declares_cons] at hl
    rw [blocks, List.mem_cons, List.mem_append] at hb
    obtain rfl | hb | hb := hb
    · refine ⟨rfl, rfl, ⟨fun h => ?_, fun h => ?_⟩, fun p h => ?_, below.sorted_roots _, ?_⟩
      · exact absurd h (Option.some_ne_none parent)
      · have : id = 0 := h
        omega
      · obtain rfl : parent = p := Option.some.inj h
        exact hp
      · exact fun name hname => hl name (.inl hname)
    · exact ihb (Nat.lt_succ_self id) (fun name h => hl name (.inr (.inl h))) hb
    · exact ihn (by omega) (fun name h => hl name (.inr (.inr h))) hb

variable {locals : Locals} {owner : Option String}

theorem block?_tree_zero : (f.tree locals owner).block? 0 =
    some { id := 0, kind := .sequential, script := owner, children := f.roots 1,
           gate := .forBlock 0, locals } := rfl

theorem block?_tree_succ {k : Nat} : (f.tree locals owner).block? (k + 1) =
    (f.blocks 0 1)[k]?.map fun b => { b with script := b.script.or owner } := by
  rw [Tree.block?_eq_getElem?, tree, List.toList_toArray, List.map_cons, List.getElem?_cons_succ,
    List.getElem?_map]

/-- The blocks of a forest stand in its tree under their numbers. -/
theorem block?_tree_of_mem (hb : b ∈ f.blocks 0 1) :
    (f.tree locals owner).block? b.id = some { b with script := b.script.or owner } := by
  obtain ⟨k, hk⟩ := List.mem_iff_getElem?.1 hb
  have hid : b.id = k + 1 := by rw [id_of_getElem?_blocks hk, Nat.add_comm]
  have htree : (f.tree locals owner).block? (k + 1) =
      some { b with script := b.script.or owner } := by
    rw [block?_tree_succ, hk, Option.map_some]
  rwa [← hid] at htree

theorem parent?_tree_eq_some_iff :
    (f.tree locals owner).parent? c = some n ↔ IsChildIn (f.blocks 0 1) n c := by
  rw [Tree.parent?_eq_some_iff]
  constructor
  · rintro ⟨b, hb, hp⟩
    cases c with
    | zero =>
      obtain rfl := Option.some.inj hb
      cases hp
    | succ k =>
      rw [block?_tree_succ] at hb
      obtain ⟨b', hb', rfl⟩ := Option.map_eq_some_iff.1 hb
      have hid := id_of_getElem?_blocks hb'
      exact ⟨b', List.mem_of_getElem? hb', by omega, hp⟩
  · rintro ⟨b, hb, rfl, hp⟩
    exact ⟨_, block?_tree_of_mem hb, hp⟩

/-- Numbering a forest below a root gives a tree whose links agree. -/
theorem isArena_tree (hlocals : ∀ name ∈ locals, name.toLower = name)
    (hl : ∀ name, f.Declares name → name.toLower = name) :
    (f.tree locals owner).IsArena where
  size_pos := by simp [Tree.size, tree]
  isAt n b hb := by
    cases n with
    | zero =>
      obtain rfl := Option.some.inj (block?_tree_zero.symm.trans hb)
      refine ⟨rfl, rfl, ⟨fun _ => rfl, fun _ => rfl⟩, ?_, f.sorted_roots 1, hlocals⟩
      exact fun p h => absurd h.symm (Option.some_ne_none p)
    | succ k =>
      rw [block?_tree_succ] at hb
      obtain ⟨b', hb', rfl⟩ := Option.map_eq_some_iff.1 hb
      have h := isAt_of_mem_blocks Nat.one_pos hl (List.mem_of_getElem? hb')
      rw [id_of_getElem?_blocks hb', Nat.add_comm] at h
      exact ⟨h.id_eq, h.block_gate, h.parent_eq_none_iff, h.parent_lt, h.sorted_children,
        h.lower_locals⟩
  mem_children_iff n b hb c := by
    rw [parent?_tree_eq_some_iff]
    cases n with
    | zero =>
      obtain rfl := Option.some.inj (block?_tree_zero.symm.trans hb)
      exact mem_roots_iff Nat.one_pos
    | succ k =>
      rw [block?_tree_succ] at hb
      obtain ⟨b', hb', rfl⟩ := Option.map_eq_some_iff.1 hb
      have hmem := List.mem_of_getElem? hb'
      rw [Nat.add_comm, ← id_of_getElem?_blocks hb']
      exact mem_children_iff (b := b') Nat.one_pos hmem

end Forest

namespace Tree

theorem isArena_empty (script : Option String) : (empty script).IsArena := by
  have h : (Forest.nil.tree ∅ script).IsArena := Forest.isArena_tree (by simp) (by simp)
  exact h

/-- A name that a line declares is in lower case. -/
theorem toLower_of_name? {t : List Char} {name : String}
    (h : (Line.ofText t).name? = some name) : name.toLower = name := by
  have hread : ∀ type, Line.declaration? t = some (type, name) → name.toLower = name := by
    intro type hread
    unfold Line.declaration? at hread
    dsimp only at hread
    split at hread
    · split at hread
      · cases hread
        exact toLower_toLower _
      · cases hread
    · cases hread
  unfold Line.ofText at h
  split at h
  · cases h
  · split at h
    · next type name' hd =>
      obtain rfl : name' = name := Option.some.inj h
      exact hread type hd
    · cases h

theorem isArena_parse (source : String) (t : Translator) : (Tree.parse source t).1.IsArena := by
  have hl : ∀ name, (∃ b ∈ (Tree.parse source t).1.blocks, name ∈ b.locals) →
      name.toLower = name := by
    intro name h
    obtain ⟨l, hl, hname⟩ := List.mem_filterMap.1 ((exists_mem_locals_parse source t).1 h)
    obtain ⟨text, -, rfl⟩ := List.mem_map.1 hl
    exact toLower_of_name? hname
  simp only [parse_fst, Forest.exists_mem_locals_tree] at hl
  rw [parse_fst]
  exact Forest.isArena_tree (fun name h => hl name (.inl h)) fun name h => hl name (.inr h)

end Tree

end Questline
