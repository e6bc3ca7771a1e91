import Questline.Proofs.Script.Arena
import Questline.Script.Inlining

/-!
# Which started scripts a tree gets

Started scripts are put into a tree level by level: a pass over the blocks of one level gives
each of them copies of the scripts that it starts, and the blocks of these copies are the next
level. After the last level nothing is added, so that scripts may start each other.

## Main definitions

* `startCalls`: the scripts that the calls of a block name
* `Inlined.Grows`: a tree that got copies of scripts that were looked up
* `Levels`: how many copies a block stands in

## Main results

* `Inlined.exists_grows_pass`: a pass gives each block the scripts that it starts
* `Inlined.exists_grows_extend`: so do all passes, for the blocks of all levels but the last
* `Tree.inline_copies`: the tree with its started scripts
-/

namespace Questline

/-! ### The scripts that a block starts -/

/-- The scripts, in lower case, that the calls of a block name, call by call. -/
def startCalls (b : Block) : List String :=
  (b.lines.flatMap fun line => startPattern.inLine line.toList).filterMap fun c =>
    c.arguments.head?.map nameOf

/-- Keeping what was not seen yet keeps the first of equal elements. -/
theorem foldl_unseen_eq_eraseDups (xs : List String) :
    xs.foldl (fun seen x => if seen.contains x then seen else seen ++ [x]) [] = xs.eraseDups := by
  -- what is new among the elements is added to what was seen
  suffices h : ∀ seen, xs.foldl (fun seen x => if seen.contains x then seen else seen ++ [x]) seen =
      seen ++ (xs.filter fun x => !seen.contains x).eraseDups by simpa using h []
  induction xs with
  | nil => simp
  | cons x xs ih =>
    intro seen
    rw [List.foldl_cons, ih]
    by_cases hx : seen.contains x = true
    · rw [if_pos hx, List.filter_cons_of_neg (by simpa using hx)]
    · have hnew : xs.filter (fun y => !(seen ++ [x]).contains y) =
          (xs.filter fun y => !seen.contains y).filter fun y => !y == x := by
        rw [List.filter_filter]
        apply List.filter_congr
        intro y _
        by_cases hy : y = x <;> simp [hy]
      rw [if_neg hx, List.filter_cons_of_pos (by simpa using hx), List.eraseDups_cons, hnew,
        List.append_assoc, List.singleton_append]

/-- A block starts the scripts that its calls name, each once, but for its own. -/
theorem startTargets_eq (b : Block) :
    startTargets b = (startCalls b).eraseDups.filter fun id => b.script != some id := by
  rw [← foldl_unseen_eq_eraseDups]
  rfl

@[simp] theorem startTargets_adopt (b : Block) (ids : List Nat) :
    startTargets (b.adopt ids) = startTargets b := rfl

/-! ### One pass -/

namespace Inlined

variable {lookup : String → Option Tree} {x y z : Inlined} {cs ds : List Copy} {site : Nat}

/-- `y` is `x` with copies of scripts that were looked up. -/
structure Grows (lookup : String → Option Tree) (x y : Inlined) (cs : List Copy) : Prop where
  tree_eq : y.tree = x.tree.graftAll cs
  copies_eq : y.copies = x.copies + cs.length
  placed : Placed x.tree.size cs
  lookup_eq : ∀ c ∈ cs, lookup c.target = some c.tree

namespace Grows

theorem refl (x : Inlined) : Grows lookup x x [] :=
  ⟨rfl, rfl, trivial, by simp⟩

theorem trans (h : Grows lookup x y cs) (h' : Grows lookup y z ds) :
    Grows lookup x z (cs ++ ds) where
  tree_eq := by rw [Tree.graftAll_append, ← h.tree_eq, h'.tree_eq]
  copies_eq := by rw [h'.copies_eq, h.copies_eq, List.length_append, Nat.add_assoc]
  placed := placed_append.2 ⟨h.placed, h.tree_eq ▸ h'.placed⟩
  lookup_eq c hc := (List.mem_append.1 hc).elim (h.lookup_eq c) (h'.lookup_eq c)

theorem graft {target : String} {u : Tree} (hs : site < x.tree.size)
    (hu : lookup target = some u) :
    Grows lookup x (x.graft site u) [⟨site, target, u, x.tree.size⟩] where
  tree_eq := rfl
  copies_eq := rfl
  placed := ⟨rfl, hs, trivial⟩
  lookup_eq c hc := by
    obtain rfl := List.mem_singleton.1 hc
    exact hu

theorem size_le (h : Grows lookup x y cs) : x.tree.size ≤ y.tree.size := by
  rw [h.tree_eq]
  exact Tree.size_le_size_graftAll

theorem numbered (h : Grows lookup x y cs) (hx : x.tree.Numbered)
    (hl : ∀ id u, lookup id = some u → u.Numbered) : y.tree.Numbered := by
  rw [h.tree_eq]
  exact Tree.graftAll_induction hx h.placed
    fun t c hc ht hs => ht.graft (hl c.target c.tree (h.lookup_eq c hc)) hs

/-- A block that was there has only new children. -/
theorem block?_eq (h : Grows lookup x y cs) {n : Nat} (hn : n < x.tree.size) :
    y.tree.block? n = (x.tree.block? n).map (·.adopt (startsUnder n cs)) := by
  rw [h.tree_eq, Tree.block?_graftAll h.placed,
    List.getElem?_append_left (by rwa [Tree.length_toList_blocks]), ← Tree.block?_eq_getElem?]

end Grows

/-- The scripts that a block gets copies of. -/
def found (lookup : String → Option Tree) (b : Block) : List String :=
  (startTargets b).filter fun id => (lookup id).isSome

theorem exists_grows_targets (lookup : String → Option Tree) (hs : site < x.tree.size)
    (targets : List String) :
    ∃ cs, Grows lookup x ((targets.filterMap lookup).foldl (·.graft site ·) x) cs ∧
      cs.map (·.target) = targets.filter (fun id => (lookup id).isSome) ∧
      ∀ c ∈ cs, c.site = site := by
  induction targets generalizing x with
  | nil => exact ⟨[], .refl x, rfl, by simp⟩
  | cons id targets ih =>
    cases hu : lookup id with
    | none =>
      obtain ⟨cs, hgrow, htargets, hsites⟩ := ih hs
      refine ⟨cs, ?_, ?_, hsites⟩
      · rwa [List.filterMap_cons_none hu]
      · rw [htargets, List.filter_cons_of_neg (by simp [hu])]
    | some u =>
      have hstep := Grows.graft hs hu
      obtain ⟨cs, hgrow, htargets, hsites⟩ := ih (Nat.lt_of_lt_of_le hs hstep.size_le)
      let c : Copy := ⟨site, id, u, x.tree.size⟩
      refine ⟨c :: cs, ?_, ?_, ?_⟩
      · rw [List.filterMap_cons_some hu]
        exact hstep.trans hgrow
      · rw [List.map_cons, htargets, List.filter_cons_of_pos (by simp [hu])]
      · exact List.forall_mem_cons.2 ⟨rfl, hsites⟩

/-- One pass over blocks gives each of them the scripts that it starts. -/
theorem exists_grows_pass (lookup : String → Option Tree) (bs : List Block)
    (hsorted : bs.Pairwise (·.id < ·.id)) (hb : ∀ b ∈ bs, b.id < x.tree.size) :
    ∃ cs, Grows lookup x (bs.foldl (graftTargets lookup) x) cs ∧
      (∀ c ∈ cs, ∃ b ∈ bs, c.site = b.id) ∧ cs.Pairwise (·.site ≤ ·.site) ∧
      ∀ b ∈ bs, targetsUnder b.id cs = found lookup b := by
  induction bs generalizing x with
  | nil => exact ⟨[], .refl x, by simp, .nil, by simp⟩
  | cons b bs ih =>
    obtain ⟨cs, hgrow, htargets, hsites⟩ :=
      exists_grows_targets lookup (hb b List.mem_cons_self) (startTargets b)
    rw [List.pairwise_cons] at hsorted
    obtain ⟨hbefore, hsorted⟩ := hsorted
    obtain ⟨ds, hgrow', hsites', hds, hfound⟩ := ih (x := graftTargets lookup x b) hsorted
      fun b' hb' => Nat.lt_of_lt_of_le (hb b' (List.mem_cons_of_mem b hb')) hgrow.size_le
    -- the copies of the pass over the other blocks stand under these
    have hlater : ∀ d ∈ ds, b.id < d.site := by
      intro d hd
      obtain ⟨b', hb', heq⟩ := hsites' d hd
      exact heq ▸ hbefore b' hb'
    refine ⟨cs ++ ds, hgrow.trans hgrow', ?_, ?_, ?_⟩
    · intro c hc
      obtain hc | hc := List.mem_append.1 hc
      · exact ⟨b, List.mem_cons_self, hsites c hc⟩
      · obtain ⟨b', hb', heq⟩ := hsites' c hc
        exact ⟨b', List.mem_cons_of_mem b hb', heq⟩
    · refine List.pairwise_append.2 ⟨?_, hds, ?_⟩
      · exact List.pairwise_of_forall_mem_list fun c hc d hd =>
          Nat.le_of_eq ((hsites c hc).trans (hsites d hd).symm)
      · intro c hc d hd
        rw [hsites c hc]
        exact Nat.le_of_lt (hlater d hd)
    · intro b' hb'
      rw [targetsUnder_append]
      obtain rfl | hb' := List.mem_cons.1 hb'
      · have hnone : targetsUnder b'.id ds = [] :=
          targetsUnder_eq_nil fun d hd => Nat.ne_of_gt (hlater d hd)
        rw [hnone, List.append_nil, targetsUnder_eq_map hsites, htargets, found]
      · have hnone : targetsUnder b'.id cs = [] := by
          refine targetsUnder_eq_nil fun c hc => ?_
          rw [hsites c hc]
          exact Nat.ne_of_lt (hbefore b' hb')
        rw [hnone, List.nil_append, hfound b' hb']

end Inlined

/-! ### Level by level -/

/-- How many copies each block stands in: none, for the blocks of the tree itself. -/
structure Levels (size : Nat) (cs : List Copy) (level : Nat → Nat) : Prop where
  of_lt : ∀ n < size, level n = 0
  of_copy : ∀ c ∈ cs, ∀ k < c.tree.size, level (c.start + k) = level c.site + 1

namespace Inlined

variable {lookup : String → Option Tree} {x : Inlined} {start : Nat}

/-- Without blocks to look at nothing is added. -/
theorem extend_of_size_le (h : x.tree.size ≤ start) (depth : Nat) :
    x.extend lookup start depth = x := by
  cases depth with
  | zero => rfl
  | succ depth =>
    have hnone : x.tree.blocks.toList.drop start = [] := List.drop_eq_nil_of_le h
    simp [extend, hnone]

/-- The blocks from `start` on get the scripts that they start. -/
theorem exists_grows_drop (lookup : String → Option Tree) (hx : x.tree.Numbered) (start : Nat) :
    ∃ cs, Grows lookup x ((x.tree.blocks.toList.drop start).foldl (graftTargets lookup) x) cs ∧
      (∀ c ∈ cs, start ≤ c.site ∧ c.site < x.tree.size) ∧ cs.Pairwise (·.site ≤ ·.site) ∧
      ∀ n b, start ≤ n → x.tree.block? n = some b → targetsUnder n cs = found lookup b := by
  have hid : ∀ b ∈ x.tree.blocks.toList.drop start, start ≤ b.id ∧ b.id < x.tree.size := by
    intro b hb
    obtain ⟨n, hn, hb⟩ := Tree.mem_drop_blocks.1 hb
    rw [hx n b hb]
    exact ⟨hn, Tree.lt_size_of_block? hb⟩
  obtain ⟨cs, hgrow, hsites, hcs, hfound⟩ := exists_grows_pass lookup
    (x.tree.blocks.toList.drop start) (hx.pairwise_id.sublist (List.drop_sublist _ _))
    fun b hb => (hid b hb).2
  refine ⟨cs, hgrow, ?_, hcs, ?_⟩
  · intro c hc
    obtain ⟨b, hb, heq⟩ := hsites c hc
    exact heq ▸ hid b hb
  · intro n b hn hb
    obtain rfl := hx n b hb
    exact hfound b (Tree.mem_drop_blocks.2 ⟨b.id, hn, hb⟩)

/-- A pass over the blocks from `start` on is followed by passes over the blocks of the copies,
whether it added any or not. -/
theorem extend_succ (hx : x.tree.Numbered) (depth : Nat) :
    x.extend lookup start (depth + 1) =
      ((x.tree.blocks.toList.drop start).foldl (graftTargets lookup) x).extend lookup
        x.tree.size depth := by
  obtain ⟨cs, hgrow, -⟩ := exists_grows_drop lookup hx start
  rw [extend]
  split
  · next heq =>
    -- a pass that adds nothing leaves no blocks for the next one
    have hcs : cs = [] := by
      rw [hgrow.copies_eq] at heq
      exact List.eq_nil_of_length_eq_zero (by omega)
    rw [extend_of_size_le]
    rw [hgrow.tree_eq, hcs]
    exact Nat.le_refl _
  · rfl

/-- Levels seen from one pass earlier: what was there is level 0, and all else is one higher. -/
def deeper (size : Nat) (level : Nat → Nat) (n : Nat) : Nat :=
  if n < size then 0 else level n + 1

theorem deeper_of_lt {size n : Nat} (level : Nat → Nat) (h : n < size) :
    deeper size level n = 0 :=
  if_pos h

theorem deeper_of_le {size n : Nat} (level : Nat → Nat) (h : size ≤ n) :
    deeper size level n = level n + 1 :=
  if_neg (Nat.not_lt_of_le h)

theorem Grows.levels_deeper {y z : Inlined} {cs ds : List Copy} {level : Nat → Nat}
    (h : Grows lookup x y cs) (h' : Grows lookup y z ds)
    (hcs : ∀ c ∈ cs, c.site < x.tree.size) (hds : ∀ d ∈ ds, x.tree.size ≤ d.site)
    (hlevels : Levels y.tree.size ds level) :
    Levels x.tree.size (cs ++ ds) (deeper x.tree.size level) where
  of_lt n hn := deeper_of_lt level hn
  of_copy c hc k hk := by
    have hsize := h.size_le
    obtain hc | hc := List.mem_append.1 hc
    · have hle := h.placed.le_start hc
      have hlt := h.placed.start_add_le hc
      rw [← h.tree_eq] at hlt
      rw [deeper_of_le level (by omega), deeper_of_lt level (hcs c hc),
        hlevels.of_lt _ (by omega)]
    · have hle := h'.placed.le_start hc
      rw [deeper_of_le level (by omega), deeper_of_le level (hds c hc),
        hlevels.of_copy c hc k hk]

/-- All passes together give each block that stands in fewer than `depth` copies the scripts
that it starts, and no other block anything. -/
theorem exists_grows_extend (hl : ∀ id u, lookup id = some u → u.Numbered) (depth : Nat)
    (hx : x.tree.Numbered) (hstart : start ≤ x.tree.size) :
    ∃ cs level, Grows lookup x (x.extend lookup start depth) cs ∧
      (∀ c ∈ cs, start ≤ c.site) ∧ cs.Pairwise (·.site ≤ ·.site) ∧
      Levels x.tree.size cs level ∧
      ∀ n b, start ≤ n → (x.extend lookup start depth).tree.block? n = some b →
        level n ≤ depth ∧ targetsUnder n cs = if level n < depth then found lookup b else [] := by
  induction depth generalizing x start with
  | zero =>
    refine ⟨[], fun _ => 0, .refl x, by simp, .nil, ⟨fun _ _ => rfl, by simp⟩, ?_⟩
    intro n b _ _
    exact ⟨Nat.le_refl 0, rfl⟩
  | succ depth ih =>
    rw [extend_succ hx]
    obtain ⟨cs, hgrow, hsites, hcs, hfound⟩ :=
      exists_grows_drop lookup hx start
    generalize (x.tree.blocks.toList.drop start).foldl (graftTargets lookup) x = y at hgrow
    obtain ⟨ds, level, hgrow', hsites', hds, hlevels, hlast⟩ :=
      ih (hgrow.numbered hx hl) hgrow.size_le
    have hall := hgrow.trans hgrow'
    refine ⟨cs ++ ds, deeper x.tree.size level, hall, ?_, ?_, ?_, ?_⟩
    · intro c hc
      obtain hc | hc := List.mem_append.1 hc
      · exact (hsites c hc).1
      · exact Nat.le_trans hstart (hsites' c hc)
    · refine List.pairwise_append.2 ⟨hcs, hds, ?_⟩
      intro c hc d hd
      exact Nat.le_of_lt (Nat.lt_of_lt_of_le (hsites c hc).2 (hsites' d hd))
    · exact hgrow.levels_deeper hgrow' (fun c hc => (hsites c hc).2) hsites' hlevels
    · intro n b hn hb
      rw [targetsUnder_append]
      by_cases hold : n < x.tree.size
      · -- a block that was there gets its copies in the first pass
        rw [hall.block?_eq hold] at hb
        obtain ⟨b', hb', rfl⟩ := Option.map_eq_some_iff.1 hb
        have hnone : targetsUnder n ds = [] :=
          targetsUnder_eq_nil fun d hd => Nat.ne_of_gt (Nat.lt_of_lt_of_le hold (hsites' d hd))
        rw [deeper_of_lt level hold, if_pos (Nat.succ_pos depth), hnone, List.append_nil,
          hfound n b' hn hb', found, found, startTargets_adopt]
        exact ⟨Nat.zero_le _, rfl⟩
      · -- a block of a copy gets its copies in a later pass
        have hle := Nat.le_of_not_lt hold
        have hnone : targetsUnder n cs = [] :=
          targetsUnder_eq_nil fun c hc => Nat.ne_of_lt (Nat.lt_of_lt_of_le (hsites c hc).2 hle)
        obtain ⟨hdepth, htargets⟩ := hlast n b hle hb
        rw [deeper_of_le level hle, hnone, List.nil_append, htargets]
        refine ⟨Nat.succ_le_succ hdepth, ?_⟩
        simp only [Nat.add_lt_add_iff_right]

end Inlined

namespace Tree

variable {t : Tree} {lookup : String → Option Tree}

/-- The tree with its started scripts has whole copies of scripts that were looked up behind
its own blocks, when all these trees are numbered as those of scripts are. Each block that stands
in fewer than `depth` copies has one copy for each script that its calls name, but for its own, in
the order of the first calls; the blocks that stand in `depth` copies have none. -/
theorem inline_copies (ht : t.Numbered) (hl : ∀ id u, lookup id = some u → u.Numbered)
    (depth : Nat) :
    ∃ (cs : List Copy) (level : Nat → Nat),
      (t.inline lookup depth).copies = cs.length ∧
      (t.inline lookup depth).tree.script = t.script ∧
      (∀ n, (t.inline lookup depth).tree.block? n =
        (t.blocks.toList ++ cs.flatMap Copy.blocks)[n]?.map (·.adopt (startsUnder n cs))) ∧
      Placed t.size cs ∧ cs.Pairwise (·.site ≤ ·.site) ∧
      (∀ c ∈ cs, lookup c.target = some c.tree) ∧
      Levels t.size cs level ∧
      ∀ n b, (t.inline lookup depth).tree.block? n = some b →
        level n ≤ depth ∧ targetsUnder n cs =
          if level n < depth then
            (startCalls b).eraseDups.filter fun id => b.script != some id && (lookup id).isSome
          else [] := by
  obtain ⟨cs, level, hgrow, -, hcs, hlevels, htargets⟩ :=
    Inlined.exists_grows_extend (x := { tree := t }) hl depth ht (Nat.zero_le _)
  refine ⟨cs, level, ?_, ?_, ?_, hgrow.placed, hcs, hgrow.lookup_eq, hlevels, ?_⟩
  · exact hgrow.copies_eq.trans (Nat.zero_add _)
  · rw [inline, hgrow.tree_eq, script_graftAll]
  · intro n
    rw [inline, hgrow.tree_eq, block?_graftAll hgrow.placed]
  · intro n b hb
    obtain ⟨hle, heq⟩ := htargets n b (Nat.zero_le n) hb
    refine ⟨hle, heq.trans ?_⟩
    rw [Inlined.found, startTargets_eq, List.filter_filter]
    simp only [Bool.and_comm]

/-- Two scripts, of which each starts the other one. -/
def circle? (id : String) : Option Tree :=
  if id = "a" then some (parse "begin a\nStartScript b\nend" {}).1
  else if id = "b" then some (parse "begin b\nStartScript a\nStartScript b\nend" {}).1
  else none

theorem circle_inline_copies :
    ∃ t, circle? "a" = some t ∧ t.Numbered ∧ (∀ id u, circle? id = some u → u.Numbered) ∧
      ∃ cs level, (t.inline circle? 4).copies = cs.length ∧ cs.length = 4 ∧ Placed t.size cs ∧
        (∀ c ∈ cs, circle? c.target = some c.tree) ∧ Levels t.size cs level := by
  have hnum : ∀ id u, circle? id = some u → u.Numbered := by
    intro id u hu
    unfold circle? at hu
    split at hu
    · obtain rfl := Option.some.inj hu
      exact (isArena_parse _ _).numbered
    · split at hu
      · obtain rfl := Option.some.inj hu
        exact (isArena_parse _ _).numbered
      · cases hu
  have hcopies : ((parse "begin a\nStartScript b\nend" {}).1.inline circle? 4).copies = 4 := by
    decide +kernel
  refine ⟨_, rfl, hnum "a" _ rfl, hnum, ?_⟩
  obtain ⟨cs, level, hlength, -, -, hplaced, -, hlookup, hlevels, -⟩ :=
    inline_copies (hnum "a" _ rfl) hnum 4
  exact ⟨cs, level, hlength, hlength.symm.trans hcopies, hplaced, hlookup, hlevels⟩

end Tree

end Questline
