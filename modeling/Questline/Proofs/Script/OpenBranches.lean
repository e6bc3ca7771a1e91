import Questline.Proofs.Script.Choices

/-!
# Branches that can be entered

The choices of a script are found by reading it level by level. However truth values are given
to requirements, exactly one branch of a choice that ends with `else` can be entered, and at
most one of any other choice. What is inside the branches, and whether their conditions can be
read, does not matter.

## Main definitions

* `Reads`: the lines that are left to read on some level of a script
* `choiceLines`: a choice that is written out
* `sourceChoices`: the choices of a script on all levels
* `Tree.isOpen`: whether the requirements of a block itself are all true

## Main results

* `Reads.exists_choices_subset`: what is read on some level has its choices among those of the
  script
* `Outline.exists_mem_choices`: a choice that is written out is a choice
* `Tree.one_branch_is_open`: one branch of each choice can be entered
-/

namespace Questline

/-! ### Reading level by level -/

/-- The lines `ms` are left to read on some level of a script with the lines `ls`. -/
inductive Reads (ls : List Line) : List Line → Prop where
  | start : Reads ls ls
  | skip {l : Line} {r : List Line} (hl : ∀ o text, l ≠ .label (.opens o) text)
      (h : Reads ls (l :: r)) : Reads ls r
  | body {o : Opening} {text : String} {r : List Line}
      (h : Reads ls (.label (.opens o) text :: r)) : Reads ls (cut o.family 0 r).body
  | branch {o : Opening} {text : String} {r ms : List Line} {condition : Option (List Char)}
      (h : Reads ls (.label (.opens o) text :: r))
      (hms : (condition, ms) ∈ (cut o.family 0 r).others) : Reads ls ms
  | rest {o : Opening} {text : String} {r : List Line}
      (h : Reads ls (.label (.opens o) text :: r)) : Reads ls (cut o.family 0 r).rest

/-- Inside a branch there are choices of the choice that the branch belongs to. -/
theorem Branches.exists_choices_subset {bs : List (Option (List Char) × List Line)}
    {condition : Option (List Char)} {ms : List Line} (h : (condition, ms) ∈ bs) (c : Context)
    (owner : Option String) (id : Nat) :
    ∃ c' site' id', (Outline.ofLines ms).choices c' site' id' ⊆
      (Branches.ofLines bs).choices c owner id := by
  induction bs generalizing owner id with
  | nil => cases h
  | cons b bs ih =>
    obtain ⟨condition', ls⟩ := b
    rw [Branches.ofLines, Branches.choices]
    obtain h | h := List.mem_cons.1 h
    · cases h
      exact ⟨_, _, _, List.subset_append_left _ _⟩
    · obtain ⟨c', site', id', hsub⟩ := ih h _ _
      exact ⟨c', site', id', List.Subset.trans hsub (List.subset_append_right _ _)⟩

/-- The choices of what is read on some level are among those of all lines. -/
theorem Reads.exists_choices_subset {ls ms : List Line} (h : Reads ls ms) (c : Context)
    (site id : Nat) :
    ∃ c' site' id', (Outline.ofLines ms).choices c' site' id' ⊆
      (Outline.ofLines ls).choices c site id := by
  induction h with
  | start => exact ⟨c, site, id, List.Subset.refl _⟩
  | @skip l r hl h ih =>
    obtain ⟨c', site', id', hsub⟩ := ih
    cases l with
    | label label text =>
      rw [Outline.ofLines_label (fun o ho => hl o text (by rw [ho]))] at hsub
      exact ⟨c', site', id', hsub⟩
    | declaration type name =>
      rw [Outline.ofLines] at hsub
      exact ⟨_, site', id', hsub⟩
    | statement text =>
      rw [Outline.ofLines] at hsub
      exact ⟨c', site', id', hsub⟩
  | body h ih =>
    obtain ⟨c', site', id', hsub⟩ := ih
    rw [Outline.ofLines] at hsub
    obtain ⟨-, hbody, -⟩ := Outline.forall_mem_choices_block.1 hsub
    exact ⟨_, _, _, hbody⟩
  | branch h hms ih =>
    obtain ⟨c', site', id', hsub⟩ := ih
    rw [Outline.ofLines] at hsub
    obtain ⟨-, -, hothers, -⟩ := Outline.forall_mem_choices_block.1 hsub
    obtain ⟨d, m, n, hbranch⟩ := Branches.exists_choices_subset hms _ _ _
    exact ⟨d, m, n, List.Subset.trans hbranch hothers⟩
  | rest h ih =>
    obtain ⟨c', site', id', hsub⟩ := ih
    rw [Outline.ofLines] at hsub
    obtain ⟨-, -, -, hrest⟩ := Outline.forall_mem_choices_block.1 hsub
    exact ⟨_, _, _, hrest⟩

/-! ### Choices that are written out -/

/-- The lines of branches, each with the label before it. -/
def branchesLines (bs : List (Option (List Char) × String × List Line)) : List Line :=
  bs.flatMap fun b => .label (.divides b.1) b.2.1 :: b.2.2

/-- The lines of a choice from its first label to the one that closes it. -/
def choiceLines (condition : List Char) (text : String) (body : List Line)
    (bs : List (Option (List Char) × String × List Line)) (closing : String) : List Line :=
  .label (.opens (.choice condition)) text ::
    (body ++ (branchesLines bs ++ [.label (.closes .choice) closing]))

section

variable {condition : List Char} {text closing : String} {body r : List Line}
  {bs : List (Option (List Char) × String × List Line)}

/-- Branches that leave the choice open are cut at their labels. -/
theorem cut_branchesLines (hbs : ∀ b ∈ bs, Held .choice 0 b.2.2) :
    cut .choice 0 (branchesLines bs ++ .label (.closes .choice) closing :: r) =
      { others := bs.map fun b => (b.1, b.2.2), rest := r } := by
  induction bs with
  | nil => exact cut_of_closes rfl
  | cons b bs ih =>
    obtain ⟨hb, hbs⟩ := List.forall_mem_cons.1 hbs
    have hlines : branchesLines (b :: bs) ++ .label (.closes .choice) closing :: r =
        .label (.divides b.1) b.2.1 ::
          (b.2.2 ++ (branchesLines bs ++ .label (.closes .choice) closing :: r)) := by
      simp [branchesLines]
    rw [hlines, cut_of_divides rfl, hb, ih hbs]
    simp [Cut.prepend, Cut.divide]

theorem Branches.conditions_heads (bs : List (Option (List Char) × List Line)) (c : Context)
    (owner : Option String) (id : Nat) :
    ((Branches.ofLines bs).heads c owner id).map (·.2) = bs.map (·.1) := by
  induction bs generalizing owner id with
  | nil => rw [Branches.ofLines, Branches.heads, List.map_nil, List.map_nil]
  | cons b bs ih =>
    rw [Branches.ofLines, Branches.heads, List.map_cons, List.map_cons, ih]

/-- A choice that is written out is among the choices of its outline. -/
theorem Outline.exists_mem_choices (hbody : Held .choice 0 body)
    (hbs : ∀ b ∈ bs, Held .choice 0 b.2.2) (c : Context) (site id : Nat) :
    ∃ ch ∈ (ofLines (choiceLines condition text body bs closing ++ r)).choices c site id,
      ch.conditions = some condition :: bs.map (·.1) := by
  have hlines : choiceLines condition text body bs closing ++ r =
      .label (.opens (.choice condition)) text ::
        (body ++ (branchesLines bs ++ .label (.closes .choice) closing :: r)) := by
    simp [choiceLines]
  rw [hlines, ofLines, Opening.family, hbody, cut_branchesLines hbs]
  refine ⟨_, List.mem_append_left _ (List.mem_append_left _ (List.mem_append_left _
    (List.mem_singleton.2 rfl))), ?_⟩
  rw [Choice.conditions, List.map_cons]
  dsimp only [Cut.prepend]
  rw [Branches.conditions_heads, List.map_map]
  rfl

end

/-! ### Trees -/

/-- The choices of a script on all levels. -/
def sourceChoices (source : String) (globals : Names) : List Choice :=
  let o := Outline.ofLines (sourceLines source.toList)
  o.choices { globals } 0 (1 + runSize o.run)

namespace Tree

/-- Whether the requirements of the block `n` itself are all true. -/
def isOpen (v : Requirement → Bool) (t : Tree) (n : Nat) : Bool :=
  (t.block? n).any (·.gate.holds v)

/-- The branches of a choice are blocks of the tree. -/
theorem forall₂_branches {f : Forest} {locals : Locals} {owner : Option String} {ch : Choice}
    (h : ch.IsIn (f.blocks 0 1)) :
    List.Forall₂ (fun branch gate => ∃ b, (f.tree locals owner).block? branch.1 = some b ∧
        b.IsBranch ch.site branch gate)
      ch.branches (branchGates [] ch.requirements) := by
  refine h.branchesIn.imp ?_
  rintro branch gate ⟨b, hb, hbranch⟩
  have hblock : (f.tree locals owner).block? b.id = _ := Forest.block?_tree_of_mem hb
  rw [hbranch.id_eq] at hblock
  exact ⟨_, hblock, rfl, hbranch.kind_eq, hbranch.parent_eq, hbranch.label_eq,
    hbranch.gate_eq⟩

/-- The conditional blocks of a tree are those of its forest. -/
theorem exists_conditional_tree_iff {f : Forest} {locals : Locals} {owner : Option String}
    {n : Nat} :
    (∃ b, (f.tree locals owner).block? n = some b ∧ b.kind = .conditional) ↔
      IsConditionalIn (f.blocks 0 1) n := by
  constructor
  · rintro ⟨b, hb, hkind⟩
    cases n with
    | zero =>
      obtain rfl := Option.some.inj (Forest.block?_tree_zero.symm.trans hb)
      cases hkind
    | succ k =>
      rw [Forest.block?_tree_succ] at hb
      obtain ⟨b', hb', rfl⟩ := Option.map_eq_some_iff.1 hb
      have hid := Forest.id_of_getElem?_blocks hb'
      exact ⟨b', List.mem_of_getElem? hb', by omega, hkind⟩
  · rintro ⟨b, hb, rfl, hkind⟩
    exact ⟨_, Forest.block?_tree_of_mem hb, hkind⟩

variable (source : String) (t : Translator)

theorem isIn_of_mem_sourceChoices :
    let f := (Outline.ofLines (sourceLines source.toList)).forest { globals := t.globals }
    ∀ ch ∈ sourceChoices source t.globals, ch.IsIn (f.blocks 0 1) :=
  Outline.isIn_of_mem_choices _ (Forest.blocks_subset_withRun ..)

/-- The branches of the choices of a script are blocks of its tree. -/
theorem forall₂_branches_parse {ch : Choice} (h : ch ∈ sourceChoices source t.globals) :
    List.Forall₂ (fun branch gate => ∃ b, (Tree.parse source t).1.block? branch.1 = some b ∧
        b.IsBranch ch.site branch gate)
      ch.branches (branchGates [] ch.requirements) := by
  rw [parse_fst]
  exact forall₂_branches (isIn_of_mem_sourceChoices source t ch h)

/-- A branch is open when its gate holds. -/
theorem map_isOpen_parse {ch : Choice} (h : ch ∈ sourceChoices source t.globals)
    (v : Requirement → Bool) :
    ch.branches.map (fun branch => (Tree.parse source t).1.isOpen v branch.1) =
      (branchGates [] ch.requirements).map (·.holds v) := by
  rw [← List.forall₂_eq_eq_eq, List.forall₂_map_left_iff, List.forall₂_map_right_iff]
  refine (forall₂_branches_parse source t h).imp ?_
  rintro branch gate ⟨b, hb, hbranch⟩
  rw [isOpen, hb, Option.any_some, hbranch.gate_eq]
  rfl

/-- The conditional blocks of a tree are the branches of the choices of its script. -/
theorem exists_conditional_parse_iff (n : Nat) :
    (∃ b, (Tree.parse source t).1.block? n = some b ∧ b.kind = .conditional) ↔
      n ∈ branchIds (sourceChoices source t.globals) := by
  rw [parse_fst]
  dsimp only
  rw [exists_conditional_tree_iff, Outline.forest, Forest.isConditionalIn_withRun,
    Outline.isConditionalIn_iff]
  rfl

/-- The choices of a script, among them those that are written out on any of its levels, have
the conditional blocks of its tree for branches, and no others are conditional. Whatever truth
values requirements have, a branch can be entered exactly when its own condition is true and
the conditions of the branches before it are false. So at most one branch of a choice can be
entered, and one of them can when the last one is for `else`. -/
theorem one_branch_is_open :
    let tree := (Tree.parse source t).1
    let choices := sourceChoices source t.globals
    (∀ condition text body bs closing r,
      Reads (sourceLines source.toList) (choiceLines condition text body bs closing ++ r) →
      Held .choice 0 body → (∀ b ∈ bs, Held .choice 0 b.2.2) →
        ∃ ch ∈ choices, ch.conditions = some condition :: bs.map (·.1)) ∧
    (∀ n, (∃ b, tree.block? n = some b ∧ b.kind = .conditional) ↔
      ∃ ch ∈ choices, ∃ condition, (n, condition) ∈ ch.branches) ∧
    ∀ ch ∈ choices,
      (∃ n condition, ch.branches.head? = some (n, some condition)) ∧
      ch.branches.Pairwise (·.1 < ·.1) ∧
      (∀ branch ∈ ch.branches, ∃ b, tree.block? branch.1 = some b ∧ b.kind = .conditional ∧
        b.parent = some ch.site ∧ b.label = some (branch.2.elim "else" String.ofList)) ∧
      ∀ v, IsTruth v →
        (∀ k n condition, ch.branches[k]? = some (n, condition) →
          (tree.isOpen v n = true ↔
            (∀ c ∈ condition, v (ch.context.requirement c) = true) ∧
            ∀ c, some c ∈ ch.conditions.take k → v (ch.context.requirement c) = false)) ∧
        (none ∉ ch.conditions.dropLast →
          ch.branches.countP (fun branch => tree.isOpen v branch.1) ≤ 1 ∧
          (ch.conditions.getLast? = some none →
            ch.branches.countP (fun branch => tree.isOpen v branch.1) = 1)) := by
  intro tree choices
  refine ⟨?_, ?_, ?_⟩
  · intro condition text body bs closing r hreads hbody hbs
    obtain ⟨c, site, id, hsub⟩ := hreads.exists_choices_subset { globals := t.globals } 0
      (1 + runSize (Outline.ofLines (sourceLines source.toList)).run)
    obtain ⟨ch, hch, hconditions⟩ := Outline.exists_mem_choices hbody hbs c site id
    exact ⟨ch, hsub hch, hconditions⟩
  · intro n
    rw [exists_conditional_parse_iff]
    simp [branchIds, choices]
  · intro ch hch
    have hin := isIn_of_mem_sourceChoices source t ch hch
    refine ⟨hin.head?_eq, hin.sorted, ?_, ?_⟩
    · intro branch hbranch
      obtain ⟨k, hk, rfl⟩ := List.mem_iff_getElem.1 hbranch
      have hblocks := forall₂_branches_parse source t hch
      obtain ⟨b, hb, hb'⟩ := hblocks.get hk (hblocks.length_eq ▸ hk)
      exact ⟨b, hb, hb'.kind_eq, hb'.parent_eq, hb'.label_eq⟩
    · intro v hv
      have hopen := map_isOpen_parse source t hch v
      have hcount : ch.branches.countP (fun branch => tree.isOpen v branch.1) =
          (branchGates [] ch.requirements).countP (·.holds v) := by
        have hids := congrArg (List.countP id) hopen
        rwa [List.countP_map, List.countP_map] at hids
      refine ⟨?_, ?_⟩
      · intro k n condition hk
        have hgate := congrArg (·[k]?) hopen
        simp only [List.getElem?_map, hk, Option.map_some] at hgate
        obtain ⟨g, hg, hholds⟩ := Option.map_eq_some_iff.1 hgate.symm
        have hcondition : ch.conditions[k]? = some condition := by
          rw [Choice.conditions, List.getElem?_map, hk, Option.map_some]
        rw [← Choice.holds_iff hv hcondition hg, hholds]
      · intro helse
        rw [hcount]
        exact ⟨Choice.countP_holds_le hv helse, Choice.countP_holds_eq hv helse⟩

/-- A choice of three branches, with another one in the first of them. -/
def nestedChoices : String :=
  "if ( a == 1 )\nif ( b == 1 )\nendif\nelseif ( a == 2 )\nset c to 1\nelse\nendif"

theorem nestedChoices_one_branch_is_open :
    ∃ v, IsTruth v ∧ ∃ ch ∈ sourceChoices nestedChoices ∅,
      ch.conditions = [some "( a == 1 )".toList, some "( a == 2 )".toList, none] ∧
      ch.branches.countP (fun branch => (Tree.parse nestedChoices {}).1.isOpen v branch.1) = 1 := by
  have hlines : sourceLines nestedChoices.toList =
      choiceLines "( a == 1 )".toList "if ( a == 1 )"
        [.label (.opens (.choice "( b == 1 )".toList)) "if ( b == 1 )",
          .label (.closes .choice) "endif"]
        [(some "( a == 2 )".toList, "elseif ( a == 2 )", [.statement "set c to 1"]),
          (none, "else", [])] "endif" ++ [] := by
    decide +kernel
  have hreads (ms : List Line) (h : sourceLines nestedChoices.toList = ms) :
      Reads (sourceLines nestedChoices.toList) ms := by
    rw [h]
    exact .start
  have hset : Held .choice 0 [.statement "set c to 1"] := .plain rfl .nil
  have hv : IsTruth (extendTruth fun _ => true) := isTruth_extend fun _ _ _ => rfl
  obtain ⟨hwritten, -, hchoices⟩ := one_branch_is_open nestedChoices {}
  obtain ⟨ch, hch, hconditions⟩ := hwritten _ _ _ _ _ _ (hreads _ hlines)
    (.block (fun _ _ => .nil) .nil) (by simp [hset, Held.nil])
  obtain ⟨-, -, -, htruth⟩ := hchoices ch hch
  refine ⟨_, hv, ch, hch, hconditions, ((htruth _ hv).2 ?_).2 ?_⟩
  · rw [hconditions]
    simp
  · rw [hconditions]
    rfl

end Tree

end Questline
