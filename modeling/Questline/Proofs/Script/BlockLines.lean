import Mathlib.Data.List.NodupEquivFin
import Mathlib.Order.Monotone.Defs
import Questline.Proofs.Script.DialogueResult
import Questline.Proofs.Script.Entries
import Questline.Proofs.Script.Scan

/-!
# The lines that begin blocks

Every block below the root of a tree is begun by a line of its own: by a label with which a branch
begins, or by the first of the statements that no label interrupts. In the order of the blocks these
are lines in the order of the script. So a tree has at most one block more than its script has
lines.

## Main definitions

* `Heading`: how a block begins
* `Line.Begins`: lines that a block can begin with
* `AreBegunIn`: headings of blocks that are begun by some of the lines, in order
* `Block.IsRun`, `Block.IsOpenedBy`: blocks of statements that hold nothing else, and the labels
  that begin the others

## Main results

* `AreBegunIn.exists_orderEmbedding`: the places of the lines
* `Outline.areBegunIn_headings`: the parts of an outline are begun by its lines
* `Outline.isRun_or_isLabelled`: blocks that no label begins hold statements only
* `Tree.lines_begin_blocks`: reading ends, and the blocks of the tree are begun by different lines
-/

namespace Questline

open scoped List

/-! ### Labels -/

namespace Head

def kind : Head → BlockKind
  | opens o => o.kind
  | divides _ => .conditional

def label : Head → String
  | opens o => o.label
  | divides condition => condition.elim "else" String.ofList

end Head

/-- The label that begins a branch on the line. -/
def Line.head? : Line → Option Head
  | .label (.opens o) _ => some (.opens o)
  | .label (.divides condition) _ => some (.divides condition)
  | _ => none

/-- How a block begins. -/
inductive Heading where
  | label (kind : BlockKind) (label : String)
  | text (line : String)

def Part.heading (p : Part) : Heading :=
  match p.label with
  | some label => .label p.kind label
  | none => .text (p.lines.headD "")

def Block.heading (b : Block) : Heading :=
  match b.label with
  | some label => .label b.kind label
  | none => .text (b.lines.headD "")

/-- A block with the given heading can begin with the line. -/
def Line.Begins (l : Line) : Heading → Prop
  | .label kind name => ∃ head, l.head? = some head ∧ head.kind = kind ∧ head.label = name
  | .text line => l.text? = some line

/-! ### Headings in order -/

/-- Some of the lines, in order, are those that begin blocks with the given headings. -/
def AreBegunIn (hs : List Heading) (ls : List Line) : Prop :=
  ∃ ms, ms <+ ls ∧ List.Forall₂ Line.Begins ms hs

namespace AreBegunIn

variable {hs hs' : List Heading} {ls ls' : List Line} {h : Heading} {l : Line}

theorem nil (ls : List Line) : AreBegunIn [] ls :=
  ⟨[], List.nil_sublist ls, .nil⟩

theorem cons (hl : l.Begins h) (hb : AreBegunIn hs ls) : AreBegunIn (h :: hs) (l :: ls) := by
  obtain ⟨ms, hms, hbegins⟩ := hb
  exact ⟨l :: ms, hms.cons_cons l, .cons hl hbegins⟩

theorem append (hb : AreBegunIn hs ls) (hb' : AreBegunIn hs' ls') :
    AreBegunIn (hs ++ hs') (ls ++ ls') := by
  obtain ⟨ms, hms, hbegins⟩ := hb
  obtain ⟨ms', hms', hbegins'⟩ := hb'
  exact ⟨ms ++ ms', hms.append hms', List.rel_append hbegins hbegins'⟩

/-- More lines make no difference. -/
theorem mono (hb : AreBegunIn hs ls) (hls : ls <+ ls') : AreBegunIn hs ls' := by
  obtain ⟨ms, hms, hbegins⟩ := hb
  exact ⟨ms, hms.trans hls, hbegins⟩

theorem of_append_right (hb : AreBegunIn (hs ++ hs') ls) : AreBegunIn hs' ls := by
  obtain ⟨ms, hms, hbegins⟩ := hb
  refine ⟨ms.drop hs.length, (List.drop_sublist _ ms).trans hms, ?_⟩
  exact List.forall₂_drop_append ms hs hs' hbegins

theorem length_le (hb : AreBegunIn hs ls) : hs.length ≤ ls.length := by
  obtain ⟨ms, hms, hbegins⟩ := hb
  exact hbegins.length_eq ▸ hms.length_le

/-- Different blocks are begun by lines in different places. -/
theorem exists_orderEmbedding (hb : AreBegunIn hs ls) :
    ∃ place : Nat ↪o Nat, ∀ n h, hs[n]? = some h → ∃ l, ls[place n]? = some l ∧ l.Begins h := by
  obtain ⟨ms, hms, hbegins⟩ := hb
  obtain ⟨place, hplace⟩ := List.sublist_iff_exists_orderEmbedding_getElem?_eq.1 hms
  refine ⟨place, fun n h hn => ?_⟩
  obtain ⟨hlt, rfl⟩ := List.getElem?_eq_some_iff.1 hn
  have hlt' : n < ms.length := hbegins.length_eq ▸ hlt
  refine ⟨ms[n], ?_, (List.forall₂_iff_get.1 hbegins).2 n hlt' hlt⟩
  rw [← hplace, List.getElem?_eq_getElem hlt']

end AreBegunIn

/-! ### The headings of a forest -/

/-- The headings of the parts of a forest, in the order of their numbers. -/
def Forest.headings (f : Forest) : List Heading :=
  f.parts.map Part.heading

namespace Forest

@[simp] theorem headings_nil : nil.headings = [] := rfl

@[simp] theorem headings_cons (part : Part) (below next : Forest) :
    (cons part below next).headings = part.heading :: (below.headings ++ next.headings) := by
  simp [headings, parts]

@[simp] theorem headings_append (f g : Forest) : (f ++ g).headings = f.headings ++ g.headings := by
  simp [headings]

/-- Statements in front of a forest begin with the first of them. -/
@[simp] theorem headings_withRun (script : Option String) (run : List String) (f : Forest) :
    (withRun script run f).headings = (run.head?.map .text).toList ++ f.headings := by
  cases run with
  | nil => rfl
  | cons line run =>
    rw [withRun, List.isEmpty_cons, if_neg Bool.false_ne_true, headings_cons]
    rfl

theorem map_heading_blocks (f : Forest) (parent id : Nat) :
    (f.blocks parent id).map Block.heading = f.headings :=
  f.map_blocks (fun _ _ _ _ => rfl) parent id

theorem length_headings (f : Forest) : f.headings.length = f.size := by
  rw [← f.map_heading_blocks 0 0, List.length_map, length_blocks]

end Forest

/-! ### Headings and lines -/

/-- The lines of branches of a choice after the first one, each with the label before it. -/
inductive AreLinesOf : List (Option (List Char) × List Line) → List Line → Prop where
  | nil : AreLinesOf [] []
  | cons (condition : Option (List Char)) (text : String) (ls : List Line)
      {bs : List (Option (List Char) × List Line)} {ks : List Line} : AreLinesOf bs ks →
      AreLinesOf ((condition, ls) :: bs) (.label (.divides condition) text :: (ls ++ ks))

/-- Only labels that divide have such a meaning to an open label. -/
theorem Line.exists_eq_of_mark {l : Line} {f : Family} {condition : Option (List Char)}
    (h : l.mark f = .divides condition) : ∃ text, l = .label (.divides condition) text := by
  have hitem := item?_of_divides h
  cases l with
  | label label text =>
    cases label with
    | divides c =>
      cases hitem
      exact ⟨text, rfl⟩
    | opens o => cases hitem
    | closes f => cases hitem
  | declaration _ _ => cases hitem
  | statement _ => cases hitem

/-- Cutting a label off leaves out no line but the one that closes it. -/
theorem exists_areLinesOf_cut (f : Family) (n : Nat) (ls : List Line) :
    ∃ ks, AreLinesOf (cut f n ls).others ks ∧
      (cut f n ls).body ++ (ks ++ (cut f n ls).rest) <+ ls := by
  have hpush {l : Line} {r : List Line} {c : Cut}
      (h : ∃ ks, AreLinesOf c.others ks ∧ c.body ++ (ks ++ c.rest) <+ r) :
      ∃ ks, AreLinesOf (c.push l).others ks ∧
        (c.push l).body ++ (ks ++ (c.push l).rest) <+ l :: r := by
    obtain ⟨ks, hks, hsub⟩ := h
    exact ⟨ks, hks, hsub.cons_cons l⟩
  fun_induction cut f n ls with
  | case1 => exact ⟨[], .nil, .refl []⟩
  | case2 l r n hmark ih => exact hpush ih
  | case3 l r hmark => exact ⟨[], .nil, (List.Sublist.refl r).cons l⟩
  | case4 l r n hmark ih => exact hpush ih
  | case5 l r c hmark ih =>
    obtain ⟨ks, hks, hsub⟩ := ih
    obtain ⟨text, rfl⟩ := Line.exists_eq_of_mark hmark
    refine ⟨_, .cons c text _ hks, ?_⟩
    simpa [Cut.divide] using hsub.cons_cons (Line.label (.divides c) text)
  | case6 l r n _ _ _ _ ih => exact hpush ih

/-- A line of text in front is the beginning of the statements that wait for their block. -/
theorem Outline.areBegunIn_headings_text {o : Outline} {c : Context} {line : String} {l : Line}
    {ls : List Line} (hl : l.text? = some line) (h : AreBegunIn (o.forest c).headings ls) :
    AreBegunIn ((Outline.text line o).forest c).headings (l :: ls) := by
  rw [Outline.forest, Forest.headings_withRun] at h ⊢
  exact h.of_append_right.cons hl

/-- The parts of an outline are begun by its lines. -/
theorem Outline.areBegunIn_headings (ls : List Line) (c : Context) :
    AreBegunIn ((ofLines ls).forest c).headings ls := by
  induction ls using Outline.ofLines_induction (Q := fun bs => ∀ ks, AreLinesOf bs ks →
    ∀ c owner earlier, AreBegunIn ((Branches.ofLines bs).forest c owner earlier).headings ks)
    generalizing c with
  | done =>
    rw [ofLines]
    exact .nil []
  | block o text r ihBody ihOthers ihRest =>
    obtain ⟨ks, hks, hsub⟩ := exists_areLinesOf_cut o.family 0 r
    have hhead : Line.Begins (.label (.opens o) text) (.label o.kind o.label) :=
      ⟨.opens o, rfl, rfl, rfl⟩
    rw [ofLines, forest, run, rest, Forest.headings_withRun, Forest.headings_cons,
      Forest.headings_append]
    refine .cons hhead (.mono ?_ hsub)
    exact (ihBody _).append ((ihOthers ks hks _ _ _).append (ihRest _))
  | label label text r hopens ih =>
    rw [ofLines_label hopens]
    exact areBegunIn_headings_text rfl (ih c)
  | declaration type name r ih =>
    rw [ofLines]
    exact (ih _).mono ((List.Sublist.refl r).cons _)
  | statement text r ih =>
    rw [ofLines]
    exact areBegunIn_headings_text rfl (ih c)
  | none ks hks =>
    rw [Branches.ofLines]
    exact .nil ks
  | branch condition ls r ihBody ihOthers ks hks =>
    rename_i c owner earlier
    cases hks with
    | cons _ text _ hks =>
      have hhead : Line.Begins (.label (.divides condition) text)
          (.label .conditional (condition.elim "else" String.ofList)) :=
        ⟨.divides condition, rfl, rfl, rfl⟩
      rw [Branches.ofLines, Branches.forest, Forest.headings_cons]
      refine .cons hhead ?_
      exact (ihBody _).append (ihOthers _ hks _ _ _)

/-! ### Blocks of statements -/

/-- A block of statements, which holds nothing else. -/
structure Block.IsRun (b : Block) : Prop where
  kind : b.kind = .sequential
  label : b.label = none
  lines : b.lines ≠ []
  locals : b.locals = ∅
  requirements : b.gate.requirements = []
  children : b.children = []

/-- To which script a block belongs makes no difference. -/
theorem Block.IsRun.withScript {b : Block} (h : b.IsRun) (script : Option String) :
    { b with script }.IsRun :=
  ⟨h.kind, h.label, h.lines, h.locals, h.requirements, h.children⟩

/-- A block that a label begins. -/
def Block.IsLabelled (b : Block) : Prop :=
  b.kind ≠ .sequential ∧ ∃ label, b.label = some label

theorem isRun_of_mem_leaf {s : Site} {id : Nat} {run : List String} {b : Block}
    (h : b ∈ leaf s id run) : b.IsRun := by
  unfold leaf at h
  split at h
  · cases h
  · next hrun =>
    obtain rfl := List.mem_singleton.1 h
    exact ⟨rfl, rfl, fun hnil => hrun (List.isEmpty_iff.2 hnil), rfl, rfl, rfl⟩

theorem Forest.isRun_or_mem_of_mem_withRun {script : Option String} {run : List String}
    {f : Forest} {parent id : Nat} {b : Block} (h : b ∈ (withRun script run f).blocks parent id) :
    b.IsRun ∨ b ∈ f.blocks parent (id + runSize run) := by
  rw [blocks_withRun, List.mem_append] at h
  exact h.imp_left isRun_of_mem_leaf

mutual

/-- Blocks that no label begins are blocks of statements. -/
theorem Outline.isRun_or_isLabelled_rest (o : Outline) {c : Context} {site id : Nat} {b : Block}
    (h : b ∈ (o.rest c).blocks site id) : b.IsRun ∨ b.IsLabelled := by
  cases o with
  | done => cases h
  | text line o => exact o.isRun_or_isLabelled_rest h
  | declaration type name o => exact o.isRun_or_isLabelled_rest h
  | block opening body others o =>
    rw [Outline.rest, Forest.blocks, Forest.blocks_append, List.mem_cons, List.mem_append,
      List.mem_append] at h
    obtain rfl | hbody | hothers | hafter := h
    · exact .inr ⟨opening.kind_ne_sequential, opening.label, rfl⟩
    · exact (Forest.isRun_or_mem_of_mem_withRun hbody).elim .inl body.isRun_or_isLabelled_rest
    · exact others.isRun_or_isLabelled hothers
    · exact (Forest.isRun_or_mem_of_mem_withRun hafter).elim .inl o.isRun_or_isLabelled_rest

theorem Branches.isRun_or_isLabelled (bs : Branches) {c : Context} {owner : Option String}
    {earlier : List Requirement} {site id : Nat} {b : Block}
    (h : b ∈ (bs.forest c owner earlier).blocks site id) : b.IsRun ∨ b.IsLabelled := by
  cases bs with
  | done => cases h
  | branch condition body others =>
    rw [Branches.forest, Forest.blocks, List.mem_cons, List.mem_append] at h
    obtain rfl | hbody | hothers := h
    · exact .inr ⟨BlockKind.noConfusion, _, rfl⟩
    · exact (Forest.isRun_or_mem_of_mem_withRun hbody).elim .inl body.isRun_or_isLabelled_rest
    · exact others.isRun_or_isLabelled hothers

end

theorem Outline.isRun_or_isLabelled (o : Outline) {c : Context} {site id : Nat} {b : Block}
    (h : b ∈ (o.forest c).blocks site id) : b.IsRun ∨ b.IsLabelled :=
  (Forest.isRun_or_mem_of_mem_withRun h).elim .inl o.isRun_or_isLabelled_rest

/-! ### The blocks of a script -/

namespace Block

variable {b : Block} {l : Line}

/-- The line is a label that begins the block. -/
def IsOpenedBy (b : Block) (l : Line) : Prop :=
  ∃ head, l.head? = some head ∧ b.kind = head.kind ∧ b.label = some head.label

theorem IsLabelled.isOpenedBy (h : b.IsLabelled) (hl : l.Begins b.heading) : b.IsOpenedBy l := by
  obtain ⟨-, label, hlabel⟩ := h
  rw [heading, hlabel] at hl
  obtain ⟨head, hhead, hkind, rfl⟩ := hl
  exact ⟨head, hhead, hkind.symm, hlabel⟩

theorem IsRun.text?_eq (h : b.IsRun) (hl : l.Begins b.heading) : l.text? = b.lines.head? := by
  rw [heading, h.label] at hl
  obtain ⟨line, rest, hlines⟩ := List.exists_cons_of_ne_nil h.lines
  rw [hlines] at hl ⊢
  exact hl

end Block

namespace Tree

/-- Reading a script ends. There is one way of reading that collects the lines of a level and reads
the branches of the level in the same way, every branch has fewer lines than its level, and the
tree is laid out from what is read. It has at most one block more than the script has lines that
are not empty without their comments: in the order of their numbers, the blocks below the root are
begun by lines in the order of the script. A block with a label is begun by that label, and a block
without one is begun by its first statement and holds nothing but statements. -/
theorem lines_begin_blocks (source : String) (t : Translator) :
    let tree := (parse source t).1
    let ls := sourceLines source.toList
    (∃ read : List Line → Outline, (∀ f, ReadsByLevel f ↔ f = read) ∧
      parse source t = ofOutline (read ls) t) ∧
    (∀ level, ∀ inner ∈ innerLevels level, inner.length < level.length) ∧
    tree.size ≤ ls.length + 1 ∧
    ∃ line : Nat → Nat, StrictMonoOn line {n | 0 < n} ∧
      ∀ n b, tree.block? n = some b →
        (b.kind ≠ .sequential → 0 < n ∧ ∃ l, ls[line n]? = some l ∧ b.IsOpenedBy l) ∧
        (b.kind = .sequential → 0 < n →
          b.IsRun ∧ ∃ l, ls[line n]? = some l ∧ l.text? = b.lines.head?) := by
  intro tree ls
  let f := (Outline.ofLines ls).forest { globals := t.globals }
  have htree : tree = f.tree (Outline.ofLines ls).locals (Outline.ofLines ls).firstScript :=
    parse_fst source t
  have hbegun : AreBegunIn f.headings ls := Outline.areBegunIn_headings ls _
  refine ⟨⟨Outline.ofLines, fun read => readsByLevel_iff, rfl⟩,
    fun level inner => length_lt_of_mem_innerLevels, ?_, ?_⟩
  · rw [htree, f.size_tree, ← f.length_headings]
    exact Nat.succ_le_succ hbegun.length_le
  · obtain ⟨place, hplace⟩ := hbegun.exists_orderEmbedding
    refine ⟨fun n => place (n - 1), fun m hm n _ hmn => ?_, fun n b hb => ?_⟩
    · have hm : 0 < m := hm
      exact place.strictMono (by omega)
    · rw [htree] at hb
      cases n with
      | zero =>
        -- the root is begun by no line
        obtain rfl := Option.some.inj (Forest.block?_tree_zero.symm.trans hb)
        exact ⟨fun h => absurd rfl h, fun _ h => absurd h (Nat.lt_irrefl 0)⟩
      | succ k =>
        rw [Forest.block?_tree_succ] at hb
        obtain ⟨b', hb', rfl⟩ := Option.map_eq_some_iff.1 hb
        have hheading : f.headings[k]? = some b'.heading := by
          rw [← f.map_heading_blocks 0 1, List.getElem?_map, hb', Option.map_some]
        obtain ⟨l, hl, hbegins⟩ := hplace k _ hheading
        obtain hrun | hlabelled := Outline.isRun_or_isLabelled _ (List.mem_of_getElem? hb')
        · refine ⟨fun h => absurd hrun.kind h, fun _ _ => ⟨hrun.withScript _, l, hl, ?_⟩⟩
          exact hrun.text?_eq hbegins
        · refine ⟨fun _ => ⟨k.succ_pos, l, hl, ?_⟩, fun h => absurd h hlabelled.1⟩
          exact hlabelled.isOpenedBy hbegins

-- each of the three lines begins a block below the root
example : (parse "if ( a == 1 )\nset b to 1\nelse" {}).1.size = 4 := by
  decide +kernel

end Tree

end Questline
