import Questline.Proofs.Script.Choices
import Questline.Proofs.Script.Paths
import Questline.Proofs.Script.Readings

/-!
# The entries of a script

Among the lines of a script are declarations, labels that open a block and labels that begin
another branch of a choice. Each of them stands on a level of the script, and the labels have a
block of their own in the tree.

## Main definitions

* `Item`, `Entry`: what these lines say, and where they stand
* `Outline.entries`: the entries of an outline in the order of its lines
* `sourceEntries`: the entries of a script
* `Entry.IsIn`: what blocks say of an entry

## Main results

* `areKept_sourceEntries`: the entries are lines of the script, and only labels that divide nothing
  are left out
* `Tree.openedIds_parse`: the blocks of labels are those of the entries
* `Tree.isIn_of_mem_sourceEntries`: where declarations and labels are in a tree, and what the gates
  of labels are made of
* `Tree.path_of_mem_sourceEntries`: the path to the block of a label
-/

namespace Questline

/-- What a line says that is more than text. -/
inductive Item where
  | declares (name : String)
  | opens (opening : Opening)
  | divides (condition : Option (List Char))
deriving DecidableEq

def Line.item? : Line → Option Item
  | .declaration _ name => some (.declares name)
  | .label (.opens o) _ => some (.opens o)
  | .label (.divides c) _ => some (.divides c)
  | .label (.closes _) _ => none
  | .statement _ => none

namespace Item

def isDivider : Item → Bool
  | divides _ => true
  | _ => false

def condition? : Item → Option (List Char)
  | declares _ => none
  | opens o => o.condition?
  | divides c => c

/-- All items are kept but some labels that divide. -/
structure AreKept (kept items : List Item) : Prop where
  sublist : kept.Sublist items
  filter_eq : kept.filter (!·.isDivider) = items.filter (!·.isDivider)

namespace AreKept

variable {kept kept' items items' : List Item}

theorem refl (items : List Item) : AreKept items items :=
  ⟨.refl items, rfl⟩

theorem append (h : AreKept kept items) (h' : AreKept kept' items') :
    AreKept (kept ++ kept') (items ++ items') where
  sublist := h.sublist.append h'.sublist
  filter_eq := by rw [List.filter_append, List.filter_append, h.filter_eq, h'.filter_eq]

theorem cons (i : Item) (h : AreKept kept items) : AreKept (i :: kept) (i :: items) :=
  (refl [i]).append h

theorem skip (condition : Option (List Char)) (h : AreKept kept items) :
    AreKept kept (divides condition :: items) where
  sublist := h.sublist.cons _
  filter_eq := h.filter_eq

end AreKept

end Item

/-! ### The entries of an outline -/

mutual

/-- The number of blocks of an outline after the texts that it begins with. -/
def Outline.count : Outline → Nat
  | .done => 0
  | .text _ o => o.count
  | .declaration _ _ o => o.count
  | .block _ body others o =>
    runSize body.run + body.count + 1 + (others.count + (runSize o.run + o.count))

/-- The number of blocks of the branches of a choice after the first one. -/
def Branches.count : Branches → Nat
  | .done => 0
  | .branch _ body others => runSize body.run + body.count + 1 + others.count

end

/-- A line of a script that says more than text. -/
structure Entry where
  /-- The block on whose level the line stands. -/
  level : Nat
  item : Item
  /-- The block that the line begins. -/
  block : Option Nat := none

namespace Entry

def condition? (e : Entry) : Option (List Char) :=
  e.item.condition?

end Entry

mutual

/-- The entries of an outline on the level of the block `level`, in the order of its lines, when
the first block after the texts that it begins with is `id`. -/
def Outline.entries (level id : Nat) : Outline → List Entry
  | .done => []
  | .text _ o => o.entries level id
  | .declaration _ name o => { level, item := .declares name } :: o.entries level id
  | .block opening body others o =>
    let next := id + 1 + (runSize body.run + body.count)
    { level, item := .opens opening, block := some id } ::
      (body.entries id (id + 1 + runSize body.run) ++
        (others.entries level next ++ o.entries level (next + others.count + runSize o.run)))

/-- The entries of the branches of a choice after the first one. -/
def Branches.entries (level id : Nat) : Branches → List Entry
  | .done => []
  | .branch condition body others =>
    { level, item := .divides condition, block := some id } ::
      (body.entries id (id + 1 + runSize body.run) ++
        others.entries level (id + 1 + (runSize body.run + body.count)))

end

/-- The entries of a script. -/
def sourceEntries (source : String) : List Entry :=
  let o := Outline.ofLines (sourceLines source.toList)
  o.entries 0 (1 + runSize o.run)

/-! ### Entries and lines -/

namespace Line

variable {l : Line} {f : Family}

theorem item?_of_divides {condition : Option (List Char)} (h : l.mark f = .divides condition) :
    l.item? = some (.divides condition) := by
  cases l with
  | label label text =>
    cases label with
    | opens o => simp only [mark] at h; split at h <;> cases h
    | divides c => simp only [mark] at h; split at h <;> cases h; rfl
    | closes f' => simp only [mark] at h; split at h <;> cases h
  | declaration _ _ => cases h
  | statement _ => cases h

theorem item?_of_closes (h : l.mark f = .closes) : l.item? = none := by
  cases l with
  | label label text =>
    cases label with
    | opens o => simp only [mark] at h; split at h <;> cases h
    | divides c => simp only [mark] at h; split at h <;> cases h
    | closes f' => rfl
  | declaration _ _ => cases h
  | statement _ => cases h

end Line

/-- The items of branches, each with the label before it. -/
def branchItems (bs : List (Option (List Char) × List Line)) : List Item :=
  bs.flatMap fun b => .divides b.1 :: b.2.filterMap Line.item?

/-- To cut lines loses none of their items. -/
theorem filterMap_item?_cut (f : Family) (n : Nat) (ls : List Line) :
    ls.filterMap Line.item? =
      (cut f n ls).body.filterMap Line.item? ++ (branchItems (cut f n ls).others ++
        (cut f n ls).rest.filterMap Line.item?) := by
  have hpush (l : Line) (r : List Line) (c : Cut)
      (h : r.filterMap Line.item? = c.body.filterMap Line.item? ++ (branchItems c.others ++
        c.rest.filterMap Line.item?)) :
      (l :: r).filterMap Line.item? = (c.push l).body.filterMap Line.item? ++
        (branchItems (c.push l).others ++ (c.push l).rest.filterMap Line.item?) := by
    rw [Cut.push, List.filterMap_cons, List.filterMap_cons, h]
    cases l.item? <;> rfl
  fun_induction cut f n ls with
  | case1 => rfl
  | case2 l r n hmark ih => exact hpush l r _ ih
  | case3 l r hmark =>
    rw [List.filterMap_cons, Line.item?_of_closes hmark]
    rfl
  | case4 l r n hmark ih => exact hpush l r _ ih
  | case5 l r c hmark ih =>
    rw [List.filterMap_cons, Line.item?_of_divides hmark, ih]
    simp [Cut.divide, branchItems]
  | case6 l r n _ _ _ _ ih => exact hpush l r _ ih

/-- The entries of an outline are its lines, and only labels that divide nothing are left out. -/
theorem Outline.areKept_entries (ls : List Line) (level id : Nat) :
    Item.AreKept (((ofLines ls).entries level id).map (·.item)) (ls.filterMap Line.item?) := by
  induction ls using Outline.ofLines_induction (Q := fun bs => ∀ level id,
    Item.AreKept (((Branches.ofLines bs).entries level id).map (·.item)) (branchItems bs))
    generalizing level id with
  | done => simpa [ofLines, Outline.entries] using Item.AreKept.refl []
  | block o text r ihBody ihOthers ihRest =>
    have hitems : (Line.label (.opens o) text :: r).filterMap Line.item? =
        .opens o :: r.filterMap Line.item? := rfl
    rw [ofLines, Outline.entries, hitems, filterMap_item?_cut o.family 0 r, List.map_cons,
      List.map_append, List.map_append]
    exact .cons _ ((ihBody _ _).append ((ihOthers _ _).append (ihRest _ _)))
  | label label text r hopens ih =>
    rw [ofLines_label hopens, Outline.entries]
    cases label with
    | opens o => exact absurd rfl (hopens o)
    | divides c => exact (ih level id).skip c
    | closes f => exact ih level id
  | declaration type name r ih =>
    rw [ofLines, Outline.entries, List.map_cons]
    exact .cons _ (ih level id)
  | statement text r ih =>
    rw [ofLines, Outline.entries]
    exact ih level id
  | none =>
    rw [Branches.ofLines, Branches.entries]
    exact .refl []
  | branch condition ls r ihBody ihOthers =>
    rename_i level id
    rw [Branches.ofLines, Branches.entries, branchItems, List.flatMap_cons, List.map_cons,
      List.map_append]
    exact .cons _ ((ihBody _ _).append (ihOthers _ _))

/-! ### Entries and blocks -/

@[simp] theorem Forest.size_append (f g : Forest) : (f ++ g).size = f.size + g.size := by
  induction f with
  | nil => simp [size]
  | cons part below next _ ih =>
    simp only [cons_append, size, ih]
    omega

@[simp] theorem Forest.size_withRun (script : Option String) (run : List String) (f : Forest) :
    (withRun script run f).size = runSize run + f.size := by
  unfold withRun runSize
  split
  · exact (Nat.zero_add _).symm
  · simp only [size]

mutual

theorem Outline.size_rest (o : Outline) (c : Context) : (o.rest c).size = o.count := by
  cases o with
  | done => rfl
  | text line o => exact o.size_rest c
  | declaration type name o => exact o.size_rest _
  | block opening body others o =>
    rw [Outline.rest, Forest.size, Forest.size_append, Forest.size_withRun, Forest.size_withRun,
      body.size_rest, others.size_forest, o.size_rest, Outline.count]

theorem Branches.size_forest (b : Branches) (c : Context) (owner : Option String)
    (earlier : List Requirement) : (b.forest c owner earlier).size = b.count := by
  cases b with
  | done => rfl
  | branch condition body others =>
    rw [Branches.forest, Forest.size, Forest.size_withRun, body.size_rest, others.size_forest,
      Branches.count]

end

/-- The numbers of the blocks that a label begins. -/
def openedIds (bs : List Block) : List Nat :=
  (bs.filter (·.kind ≠ .sequential)).map (·.id)

@[simp] theorem openedIds_append (bs bs' : List Block) :
    openedIds (bs ++ bs') = openedIds bs ++ openedIds bs' := by
  simp [openedIds]

@[simp] theorem openedIds_cons {part : Part} (h : part.kind ≠ .sequential) (parent id : Nat)
    (children : List Nat) (bs : List Block) :
    openedIds (part.block parent id children :: bs) = id :: openedIds bs := by
  simp [openedIds, Part.block, h]

@[simp] theorem openedIds_leaf (s : Site) (id : Nat) (run : List String) :
    openedIds (leaf s id run) = [] := by
  unfold leaf
  split <;> rfl

theorem openedIds_withRun (script : Option String) (run : List String) (f : Forest)
    (parent id : Nat) : openedIds ((Forest.withRun script run f).blocks parent id) =
      openedIds (f.blocks parent (id + runSize run)) := by
  rw [Forest.blocks_withRun, openedIds_append, openedIds_leaf, List.nil_append]

theorem Opening.kind_ne_sequential (o : Opening) : o.kind ≠ .sequential := by
  cases o <;> simp [Opening.kind]

mutual

/-- Every block that is not a block of statements is begun by one entry. -/
theorem Outline.openedIds_blocks_rest (o : Outline) (c : Context) (site level id : Nat) :
    openedIds ((o.rest c).blocks site id) = (o.entries level id).filterMap (·.block) := by
  cases o with
  | done => rfl
  | text line o => exact o.openedIds_blocks_rest c site level id
  | declaration type name o => exact o.openedIds_blocks_rest _ site level id
  | block opening body others o =>
    rw [Outline.rest, Forest.blocks, Forest.blocks_append, Forest.size_withRun, body.size_rest,
      others.size_forest, openedIds_cons opening.kind_ne_sequential, openedIds_append,
      openedIds_append, openedIds_withRun, openedIds_withRun, body.openedIds_blocks_rest _ _ id,
      others.openedIds_blocks_forest _ _ _ _ level, o.openedIds_blocks_rest _ _ level,
      Outline.entries, List.filterMap_cons, List.filterMap_append, List.filterMap_append]

theorem Branches.openedIds_blocks_forest (b : Branches) (c : Context) (owner : Option String)
    (earlier : List Requirement) (site level id : Nat) :
    openedIds ((b.forest c owner earlier).blocks site id) =
      (b.entries level id).filterMap (·.block) := by
  cases b with
  | done => rfl
  | branch condition body others =>
    have hkind : BlockKind.conditional ≠ .sequential := by decide
    rw [Branches.forest, Forest.blocks, Forest.size_withRun, body.size_rest, openedIds_cons hkind,
      openedIds_append, openedIds_withRun, body.openedIds_blocks_rest _ _ id,
      others.openedIds_blocks_forest _ _ _ _ level, Branches.entries, List.filterMap_cons,
      List.filterMap_append]

end

/-- The requirement that a condition is read as, or kept as. -/
def Reading.requirement (globals : Names) (r : Reading) : Requirement :=
  (Translator.translateOrKeep { globals } r.scope r.text).1

theorem Context.requirement_eq (c : Context) (text : List Char) :
    c.requirement text = Reading.requirement c.globals { scope := c.scope, text } := by
  unfold Context.requirement Reading.requirement Translator.translateOrKeep Context.scope
  dsimp only
  cases translate c.globals { script := c.script.or c.owner, locals := c.locals } text <;> rfl

/-- The condition of a branch, if it has one. -/
def Context.reading? (c : Context) (condition : Option (List Char)) : Option Reading :=
  condition.map fun text => { scope := c.scope, text }

theorem Context.map_text_reading? (c : Context) (condition : Option (List Char)) :
    (c.reading? condition).map (·.text) = condition := by
  cases condition <;> rfl

theorem Context.map_requirement_reading? (c : Context) (condition : Option (List Char)) :
    (c.reading? condition).map (·.requirement c.globals) = condition.map c.requirement := by
  cases condition with
  | none => rfl
  | some text => exact congrArg some (c.requirement_eq text).symm

theorem Context.readings_cons_eq (c : Context) (condition : Option (List Char))
    (conditions : List (Option (List Char))) :
    c.readings (condition :: conditions) =
      (c.reading? condition).toList ++ c.readings conditions := by
  cases condition <;> simp [Context.readings, Context.reading?, List.reduceOption]

/-- Among the blocks is the one on whose level a declaration stands, with the name, and the one
that a label begins. That one has a gate with the negations of conditions that were read before,
and with the condition of the label. -/
structure Entry.IsIn (bs : List Block) (globals : Names) (rs : List Reading) (e : Entry) :
    Prop where
  declares : ∀ name, e.item = .declares name → ∃ b ∈ bs, b.id = e.level ∧ name ∈ b.locals
  begins : ∀ n, e.block = some n → ∃ b ∈ bs, b.id = n ∧ b.parent = some e.level ∧
    ∃ earlier own, earlier ⊆ rs ∧ own ⊆ rs ∧ own.map (·.text) = e.condition?.toList ∧
      b.gate = { Gate.ofList (earlier.map (·.requirement globals |>.negated) ++
        own.map (·.requirement globals)) with block := some n }

section

variable {bs : List Block} {globals : Names} {rs : List Reading} {level id : Nat}

theorem Entry.isIn_declares {name : String} (h : ∃ b ∈ bs, b.id = level ∧ name ∈ b.locals) :
    ({ level, item := .declares name } : Entry).IsIn bs globals rs where
  declares name' hname := by
    cases hname
    exact h
  begins n hn := by cases hn

/-- The part of a label is the block that the label begins. -/
theorem Entry.isIn_part {item : Item} {part : Part} {children : List Nat} {earlier : List Reading}
    {own : Option Reading} (hitem : ∀ name, item ≠ .declares name)
    (hpart : part.block level id children ∈ bs) (hearlier : earlier ⊆ rs) (hown : own.toList ⊆ rs)
    (htext : own.map (·.text) = item.condition?)
    (hgate : part.requirements = earlier.map (·.requirement globals |>.negated) ++
      (own.map (·.requirement globals)).toList) :
    ({ level, item, block := some id } : Entry).IsIn bs globals rs where
  declares name hname := absurd hname (hitem name)
  begins n hn := by
    obtain rfl := Option.some.inj hn
    refine ⟨_, hpart, rfl, rfl, earlier, own.toList, hearlier, hown, ?_, ?_⟩
    · rw [Entry.condition?, ← htext]
      cases own <;> rfl
    · rw [Part.block, hgate]
      cases own <;> rfl

end

/-- The names that are declared on a level are in the block of the level. -/
theorem Outline.exists_mem_locals {o : Outline} {bs : List Block} {part : Part}
    {parent id : Nat} {children : List Nat} (h : part.block parent id children ∈ bs)
    (hlocals : part.locals = o.locals) :
    ∀ d ∈ o.declarations, ∃ b ∈ bs, b.id = id ∧ d.1 ∈ b.locals := by
  intro d hd
  refine ⟨_, h, rfl, ?_⟩
  rw [Part.block, hlocals, Outline.locals, mem_declareAll]
  exact .inr (List.mem_map_of_mem hd)

mutual

/-- The declarations of an outline are in the blocks of their levels, and its labels have blocks of
their own. -/
theorem Outline.isIn_of_mem_entries (o : Outline) {c : Context} {globals : Names} {site id : Nat}
    {bs : List Block} {rs : List Reading}
    (hsite : ∀ d ∈ o.declarations, ∃ b ∈ bs, b.id = site ∧ d.1 ∈ b.locals)
    (hbs : (o.rest c).blocks site id ⊆ bs) (hrs : o.readings c ⊆ rs)
    (hc : c.globals = globals) : ∀ e ∈ o.entries site id, e.IsIn bs globals rs := by
  cases o with
  | done => exact fun _ h => nomatch h
  | text line o => exact o.isIn_of_mem_entries hsite hbs hrs hc
  | declaration type name o =>
    obtain ⟨hname, hsite⟩ := List.forall_mem_cons.1 hsite
    exact List.forall_mem_cons.2
      ⟨Entry.isIn_declares hname, o.isIn_of_mem_entries hsite hbs hrs hc⟩
  | block opening body others o =>
    rw [Outline.rest, Forest.blocks, Forest.blocks_append, List.cons_subset, List.append_subset,
      List.append_subset, Forest.size_withRun, body.size_rest, others.size_forest] at hbs
    rw [Outline.readings, Context.readings_cons_eq, List.append_subset, List.append_subset,
      List.append_subset, List.append_subset] at hrs
    obtain ⟨hpart, hbody, hothers, hafter⟩ := hbs
    obtain ⟨⟨⟨⟨hown, hconditions⟩, hreadBody⟩, hreadOthers⟩, hreadAfter⟩ := hrs
    have hrequirements : (opening.part c body.locals).requirements =
        (((opening.context c).reading? opening.condition?).map (·.requirement globals)).toList := by
      subst hc
      exact congrArg Option.toList ((opening.context c).map_requirement_reading? _).symm
    rw [Outline.entries, List.forall_mem_cons, List.forall_mem_append, List.forall_mem_append]
    refine ⟨?_, ?_, ?_, ?_⟩
    · exact Entry.isIn_part (fun _ h => nomatch h) hpart (List.nil_subset rs) hown
        (Context.map_text_reading? ..) hrequirements
    · exact body.isIn_of_mem_entries (Outline.exists_mem_locals hpart rfl)
        (List.Subset.trans (Forest.blocks_subset_withRun ..) hbody) hreadBody hc
    · rw [hrequirements, Option.toList_map] at hothers
      exact others.isIn_of_mem_entries hown hothers hconditions hreadOthers hc
    · exact o.isIn_of_mem_entries hsite
        (List.Subset.trans (Forest.blocks_subset_withRun ..) hafter) hreadAfter hc

theorem Branches.isIn_of_mem_entries (b : Branches) {c : Context} {globals : Names}
    {owner : Option String} {earlier : List Reading} {site id : Nat} {bs : List Block}
    {rs : List Reading} (hearlier : earlier ⊆ rs)
    (hbs : (b.forest c owner (earlier.map (·.requirement globals))).blocks site id ⊆ bs)
    (hconditions : c.readings b.conditions ⊆ rs) (hbodies : b.readings { c with owner } ⊆ rs)
    (hc : c.globals = globals) : ∀ e ∈ b.entries site id, e.IsIn bs globals rs := by
  cases b with
  | done => exact fun _ h => nomatch h
  | branch condition body others =>
    rw [Branches.forest, Forest.blocks, List.cons_subset, List.append_subset, Forest.size_withRun,
      body.size_rest] at hbs
    rw [Branches.conditions, Context.readings_cons_eq, List.append_subset] at hconditions
    rw [Branches.readings, List.append_subset] at hbodies
    obtain ⟨hpart, hbody, hothers⟩ := hbs
    obtain ⟨hown, hconditions⟩ := hconditions
    obtain ⟨hreadBody, hreadOthers⟩ := hbodies
    have hrequirement : (condition.map c.requirement).toList =
        (c.reading? condition).toList.map (·.requirement globals) := by
      subst hc
      rw [← c.map_requirement_reading?, Option.toList_map]
    rw [Branches.entries, List.forall_mem_cons, List.forall_mem_append]
    refine ⟨?_, ?_, ?_⟩
    · refine Entry.isIn_part (fun _ h => nomatch h) hpart hearlier hown
        (Context.map_text_reading? ..) ?_
      rw [hrequirement, List.map_map, Option.toList_map]
      rfl
    · exact body.isIn_of_mem_entries (Outline.exists_mem_locals hpart rfl)
        (List.Subset.trans (Forest.blocks_subset_withRun ..) hbody) hreadBody hc
    · rw [hrequirement, ← List.map_append] at hothers
      exact others.isIn_of_mem_entries (List.append_subset.2 ⟨hearlier, hown⟩) hothers hconditions
        hreadOthers hc

end

/-! ### The entries of a script -/

section

variable {bs : List Block} {globals : Names} {rs : List Reading} {e : Entry}

/-- To which scripts the blocks belong makes no difference. -/
theorem Entry.IsIn.map_script (h : e.IsIn bs globals rs) (owner : Option String) :
    e.IsIn (bs.map fun b => { b with script := b.script.or owner }) globals rs where
  declares name hname := by
    obtain ⟨b, hb, hid, hlocals⟩ := h.declares name hname
    exact ⟨_, List.mem_map_of_mem hb, hid, hlocals⟩
  begins n hn := by
    obtain ⟨b, hb, hid, hparent, hgate⟩ := h.begins n hn
    exact ⟨_, List.mem_map_of_mem hb, hid, hparent, hgate⟩

theorem openedIds_map_script (bs : List Block) (owner : Option String) :
    openedIds (bs.map fun b => { b with script := b.script.or owner }) = openedIds bs := by
  rw [openedIds, List.filter_map, List.map_map]
  rfl

end

theorem areKept_sourceEntries (source : String) :
    Item.AreKept ((sourceEntries source).map (·.item))
      ((sourceLines source.toList).filterMap Line.item?) :=
  Outline.areKept_entries _ _ _

namespace Tree

variable (source : String) (t : Translator)

theorem toList_blocks_parse :
    let o := Outline.ofLines (sourceLines source.toList)
    let f := o.forest { globals := t.globals }
    (parse source t).1.blocks.toList =
      ({ id := 0, kind := .sequential, children := f.roots 1, gate := .forBlock 0,
         locals := o.locals } :: f.blocks 0 1).map
        fun b => { b with script := b.script.or o.firstScript } := by
  rw [parse_fst]
  rfl

/-- The declarations of a script are in the blocks of their levels, and its labels have blocks of
their own. -/
theorem isIn_of_mem_sourceEntries : ∀ e ∈ sourceEntries source,
    e.IsIn (parse source t).1.blocks.toList t.globals (readingsOf t.globals source) := by
  intro e he
  rw [toList_blocks_parse]
  refine Entry.IsIn.map_script ?_ _
  refine Outline.isIn_of_mem_entries _ (fun d hd => ⟨_, List.mem_cons_self, rfl, ?_⟩)
    (List.Subset.trans (Forest.blocks_subset_withRun ..) (List.subset_cons_self ..))
    (List.Subset.refl _) rfl e he
  exact mem_declareAll.2 (.inr (List.mem_map_of_mem hd))

/-- Every block that is not a block of statements is begun by one entry. -/
theorem openedIds_parse :
    openedIds (parse source t).1.blocks.toList = (sourceEntries source).filterMap (·.block) := by
  rw [toList_blocks_parse]
  rw [openedIds_map_script, sourceEntries,
    ← Outline.openedIds_blocks_rest _ { globals := t.globals } 0 0, Outline.forest,
    ← openedIds_withRun]
  rfl

/-- A block of a parsed script stands under its number. -/
theorem IsArena.block?_of_mem {t : Tree} (ht : t.IsArena) {b : Block} (hb : b ∈ t.blocks.toList) :
    t.block? b.id = some b := by
  obtain ⟨n, hn⟩ := List.mem_iff_getElem?.1 hb
  rw [← block?_eq_getElem?] at hn
  rwa [ht.numbered n b hn]

/-- The path to the block that a label begins leads through the block that the label stands in. -/
theorem path_of_mem_sourceEntries {e : Entry} (he : e ∈ sourceEntries source) {n : Nat}
    (hn : e.block = some n) :
    (parse source t).1.path n = (parse source t).1.path e.level ++ [n] := by
  have ht := isArena_parse source t
  obtain ⟨b, hb, rfl, hparent, -⟩ := (isIn_of_mem_sourceEntries source t e he).begins n hn
  exact ht.path_of_parent? (parent?_eq_some_iff.2 ⟨b, ht.block?_of_mem hb, hparent⟩)

end Tree

end Questline
