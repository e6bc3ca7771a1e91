import Questline.Proofs.Condition.Acceptance
import Questline.Proofs.Script.Entries

/-!
# What a script leaves noted

The conditions of a script are not read in the order of its lines: all those of a choice come
before anything inside the choice. Still each of them is read once, and the local variables that
are known when it is read are those that earlier lines declare, on its own level or around it. So
what a translator has noted when the script has been read can be told from the entries of the
script alone.

## Main definitions

* `IsDeclared`: the names that some entries declare in sight of a level
* `AreReadings`: the conditions of entries, with what is known of local variables where they stand

## Main results

* `Outline.exists_areReadings`: the conditions of an outline are those of its entries
* `Tree.parse_reports`: what is noted of a script, and what is not
-/

namespace Questline

open scoped List

/-! ### Declarations in sight -/

/-- Some entries declare the name on a level that is on the path to `level`. -/
def IsDeclared (path : Nat → List Nat) (entries : List Entry) (level : Nat) (name : String) :
    Prop :=
  ∃ d ∈ entries, d.item = .declares name ∧ d.level ∈ path level

section

variable {path : Nat → List Nat} {es fs : List Entry} {level id : Nat} {name : String}

theorem isDeclared_append_iff : IsDeclared path (es ++ fs) level name ↔
    IsDeclared path es level name ∨ IsDeclared path fs level name := by
  simp [IsDeclared, or_and_right, exists_or]

end

/-- The names `locals` are those that the entries `before` declare in sight of the level, and the
blocks from `id` on are still to come. -/
structure AreInSight (path : Nat → List Nat) (before : List Entry) (level id : Nat)
    (locals : Names) : Prop where
  mem_iff : ∀ name, name ∈ locals ↔ IsDeclared path before level name
  self_mem : level ∈ path level
  lt_of_mem_path : ∀ m ∈ path level, m < id
  lt_of_mem : ∀ d ∈ before, d.level < id

namespace AreInSight

variable {path : Nat → List Nat} {before es : List Entry} {level id id' : Nat} {locals : Names}

theorem level_lt (h : AreInSight path before level id locals) : level < id :=
  h.lt_of_mem_path level h.self_mem

/-- One more declaration on the level. -/
theorem declare (h : AreInSight path before level id locals) (name : String) :
    AreInSight path (before ++ [{ level, item := .declares name }]) level id
      (locals.insert name) where
  mem_iff name' := by
    have hnew : IsDeclared path [{ level, item := .declares name }] level name' ↔
        name = name' := by
      simp [IsDeclared, h.self_mem]
    rw [Std.ExtTreeSet.mem_insert, Std.LawfulEqCmp.compare_eq_iff_eq, h.mem_iff,
      isDeclared_append_iff, hnew, or_comm]
  self_mem := h.self_mem
  lt_of_mem_path := h.lt_of_mem_path
  lt_of_mem := List.forall_mem_append.2 ⟨h.lt_of_mem, List.forall_mem_singleton.2 h.level_lt⟩

/-- Entries that declare nothing, or that declare something out of sight, make no difference. -/
theorem skip (h : AreInSight path before level id locals) (hle : id ≤ id')
    (hes : ∀ e ∈ es, (∀ name, e.item ≠ .declares name) ∨ id ≤ e.level)
    (hlt : ∀ e ∈ es, e.level < id') : AreInSight path (before ++ es) level id' locals where
  mem_iff name := by
    have hout : ¬IsDeclared path es level name := by
      rintro ⟨d, hd, hitem, hpath⟩
      obtain hnone | hle := hes d hd
      · exact hnone name hitem
      · exact Nat.not_le.2 (h.lt_of_mem_path _ hpath) hle
    rw [h.mem_iff, isDeclared_append_iff, or_iff_left hout]
  self_mem := h.self_mem
  lt_of_mem_path m hm := Nat.lt_of_lt_of_le (h.lt_of_mem_path m hm) hle
  lt_of_mem := List.forall_mem_append.2
    ⟨fun d hd => Nat.lt_of_lt_of_le (h.lt_of_mem d hd) hle, hlt⟩

/-- In a block that is just begun, nothing more is declared than around it. -/
theorem enter (h : AreInSight path before level id locals) (hpath : path id = path level ++ [id])
    (hlt : id < id') : AreInSight path before id id' locals where
  mem_iff name := by
    rw [h.mem_iff]
    refine exists_congr fun d => and_congr_right fun hd => and_congr_right fun _ => ?_
    have hne : d.level ≠ id := Nat.ne_of_lt (h.lt_of_mem d hd)
    simp [hpath, hne]
  self_mem := by
    rw [hpath]
    exact List.mem_append_right _ (List.mem_singleton.2 rfl)
  lt_of_mem_path m hm := by
    rw [hpath, List.mem_append, List.mem_singleton] at hm
    obtain hm | rfl := hm
    · exact Nat.lt_trans (h.lt_of_mem_path m hm) hlt
    · exact hlt
  lt_of_mem d hd := Nat.lt_trans (h.lt_of_mem d hd) hlt

end AreInSight

/-! ### The levels of entries -/

mutual

/-- An entry of an outline stands on the level of the outline or in a block below. -/
theorem Outline.level_of_mem_entries (o : Outline) {level id : Nat} :
    ∀ e ∈ o.entries level id, e.level = level ∨ (id ≤ e.level ∧ e.level < id + o.count) := by
  cases o with
  | done => exact fun _ h => nomatch h
  | text line o => exact o.level_of_mem_entries
  | declaration type name o =>
    exact List.forall_mem_cons.2 ⟨.inl rfl, o.level_of_mem_entries⟩
  | block opening body others o =>
    rw [Outline.entries, List.forall_mem_cons, List.forall_mem_append, List.forall_mem_append,
      Outline.count]
    refine ⟨.inl rfl, fun e he => ?_, fun e he => ?_, fun e he => ?_⟩
    · have := body.level_of_mem_entries e he
      omega
    · have := others.level_of_mem_entries e he
      omega
    · have := o.level_of_mem_entries e he
      omega

/-- On the level of a choice itself its branches declare nothing. -/
theorem Branches.level_of_mem_entries (b : Branches) {level id : Nat} :
    ∀ e ∈ b.entries level id, (e.level = level ∧ ∀ name, e.item ≠ .declares name) ∨
      (id ≤ e.level ∧ e.level < id + b.count) := by
  cases b with
  | done => exact fun _ h => nomatch h
  | branch condition body others =>
    rw [Branches.entries, List.forall_mem_cons, List.forall_mem_append, Branches.count]
    refine ⟨.inl ⟨rfl, fun _ h => nomatch h⟩, fun e he => ?_, fun e he => ?_⟩
    · have := body.level_of_mem_entries e he
      omega
    · obtain h | h := others.level_of_mem_entries e he
      · exact .inl h
      · omega

end

/-! ### The conditions of entries -/

/-- The conditions of the entries `es`, which come after the entries `before`. Where a condition
stands, the local variables are those that the entries before it declare in sight. -/
inductive AreReadings (path : Nat → List Nat) : (before es : List Entry) → List Reading → Prop where
  | nil {before : List Entry} : AreReadings path before [] []
  | cons {before es : List Entry} {e : Entry} {own : Option Reading} {rs : List Reading}
      (htext : own.map (·.text) = e.condition?)
      (hlocals : ∀ r ∈ own, ∀ name,
        name ∈ r.scope.locals ↔ IsDeclared path before e.level name)
      (h : AreReadings path (before ++ [e]) es rs) :
      AreReadings path before (e :: es) (own.toList ++ rs)

namespace AreReadings

variable {path : Nat → List Nat} {before es fs : List Entry} {rs ss : List Reading}

theorem append (h : AreReadings path before es rs) (h' : AreReadings path (before ++ es) fs ss) :
    AreReadings path before (es ++ fs) (rs ++ ss) := by
  induction h with
  | nil => rwa [List.append_nil] at h'
  | cons htext hlocals _ ih =>
    rw [List.cons_append, List.append_assoc]
    exact .cons htext hlocals (ih (by rwa [List.append_assoc]))

theorem map_text (h : AreReadings path before es rs) :
    rs.map (·.text) = es.filterMap (·.condition?) := by
  induction h with
  | nil => rfl
  | @cons before es e own rs htext _ _ ih =>
    rw [List.map_append, ih, List.filterMap_cons, ← htext]
    cases own <;> rfl

theorem exists_of_mem (h : AreReadings path before es rs) {r : Reading} (hr : r ∈ rs) :
    ∃ earlier e later, es = earlier ++ e :: later ∧ e.condition? = some r.text ∧
      ∀ name, name ∈ r.scope.locals ↔ IsDeclared path (before ++ earlier) e.level name := by
  induction h with
  | nil => cases hr
  | @cons before es e own rs htext hlocals _ ih =>
    obtain hr | hr := List.mem_append.1 hr
    · rw [Option.mem_toList] at hr
      refine ⟨[], e, es, rfl, ?_, ?_⟩
      · rw [← htext, hr]
        rfl
      · rw [List.append_nil]
        exact hlocals r hr
    · obtain ⟨earlier, e', later, rfl, hcondition, hscope⟩ := ih hr
      refine ⟨e :: earlier, e', later, rfl, hcondition, ?_⟩
      rwa [List.append_assoc] at hscope

theorem exists_mem (h : AreReadings path before es rs) {earlier later : List Entry} {e : Entry}
    {text : List Char} (hes : es = earlier ++ e :: later) (he : e.condition? = some text) :
    ∃ r ∈ rs, r.text = text ∧
      ∀ name, name ∈ r.scope.locals ↔ IsDeclared path (before ++ earlier) e.level name := by
  induction h generalizing earlier with
  | nil => simp at hes
  | @cons before es e' own rs htext hlocals _ ih =>
    cases earlier with
    | nil =>
      obtain ⟨rfl, rfl⟩ := List.cons.inj hes
      rw [he, Option.map_eq_some_iff] at htext
      obtain ⟨r, rfl, hr⟩ := htext
      refine ⟨r, List.mem_append_left _ (Option.mem_toList.2 rfl), hr, ?_⟩
      rw [List.append_nil]
      exact hlocals r rfl
    | cons first earlier =>
      obtain ⟨rfl, rfl⟩ := List.cons.inj hes
      obtain ⟨r, hr, htext, hscope⟩ := ih rfl
      refine ⟨r, List.mem_append_right _ hr, htext, ?_⟩
      rwa [List.append_assoc] at hscope

end AreReadings

section

variable {path : Nat → List Nat} {before : List Entry} {level id : Nat}

/-- The condition of an entry on a level is read with the names in sight of the level. -/
theorem AreInSight.areReadings_cons {c : Context} (h : AreInSight path before level id c.locals)
    {item : Item} {es : List Entry} {rs : List Reading}
    (hrs : AreReadings path (before ++ [{ level, item, block := some id }]) es rs) :
    AreReadings path before ({ level, item, block := some id } :: es)
      ((c.reading? item.condition?).toList ++ rs) := by
  refine .cons (c.map_text_reading? _) (fun r hr => ?_) hrs
  obtain ⟨text, -, rfl⟩ := Option.map_eq_some_iff.1 hr
  exact h.mem_iff

/-- What is in sight of a level is in sight of the block that a label on it begins. -/
theorem AreInSight.begin {locals : Names} (h : AreInSight path before level id locals)
    {item : Item} (hitem : ∀ name, item ≠ .declares name) (hpath : path id = path level ++ [id])
    (run : Nat) :
    AreInSight path (before ++ [{ level, item, block := some id }]) id (id + 1 + run) locals := by
  have hlevel := h.level_lt
  refine (h.skip (Nat.le_refl id) ?_ ?_).enter hpath (by omega)
  · exact List.forall_mem_singleton.2 (.inl hitem)
  · exact List.forall_mem_singleton.2 hlevel

/-- What is in sight of a level is still in sight of it after a block that a label on it begins. -/
theorem AreInSight.leave {locals : Names} (h : AreInSight path before level id locals)
    {item : Item} (hitem : ∀ name, item ≠ .declares name) (body : Outline) :
    AreInSight path (before ++ [{ level, item, block := some id }] ++
      body.entries id (id + 1 + runSize body.run)) level
      (id + 1 + (runSize body.run + body.count)) locals := by
  have hlevel := h.level_lt
  rw [List.append_assoc]
  refine h.skip (by omega) ?_ ?_
  · refine List.forall_mem_append.2 ⟨List.forall_mem_singleton.2 (.inl hitem), fun e he => ?_⟩
    have := body.level_of_mem_entries e he
    omega
  · have hlt : level < id + 1 + (runSize body.run + body.count) := by omega
    refine List.forall_mem_append.2 ⟨List.forall_mem_singleton.2 hlt, fun e he => ?_⟩
    have := body.level_of_mem_entries e he
    omega

/-- It still is after the other branches of a choice. -/
theorem AreInSight.leaveOthers {locals : Names} (h : AreInSight path before level id locals)
    (others : Branches) (run : Nat) :
    AreInSight path (before ++ others.entries level id) level (id + others.count + run) locals := by
  have hlevel := h.level_lt
  refine h.skip (by omega) (fun e he => ?_) fun e he => ?_
  · exact (others.level_of_mem_entries e he).imp And.right And.left
  · have := others.level_of_mem_entries e he
    omega

end

/-- Conditions that come after a body in a script and are read before it. -/
theorem perm_of_conditions_first (own : List Reading)
    {rsBody rsOthers conditions body others : List Reading} (hbody : rsBody ~ body)
    (hothers : rsOthers ~ conditions ++ others) :
    own ++ (rsBody ++ rsOthers) ~ own ++ conditions ++ (body ++ others) :=
  calc own ++ (rsBody ++ rsOthers)
      ~ own ++ (body ++ (conditions ++ others)) := (hbody.append hothers).append_left own
    _ ~ own ++ (conditions ++ (body ++ others)) :=
      (List.perm_append_comm_assoc body conditions others).append_left own
    _ = own ++ conditions ++ (body ++ others) := (List.append_assoc ..).symm

mutual

/-- The conditions of an outline are those of its entries, although in another order. -/
theorem Outline.exists_areReadings (o : Outline) {path : Nat → List Nat} {before : List Entry}
    {level id : Nat} {c : Context} (h : AreInSight path before level id c.locals)
    (hpath : ∀ e ∈ o.entries level id, ∀ n, e.block = some n → path n = path e.level ++ [n]) :
    ∃ rs, rs ~ o.readings c ∧ AreReadings path before (o.entries level id) rs := by
  cases o with
  | done => exact ⟨[], .refl _, .nil⟩
  | text line o => exact o.exists_areReadings h hpath
  | declaration type name o =>
    obtain ⟨-, hpath⟩ := List.forall_mem_cons.1 hpath
    obtain ⟨rs, hperm, hrs⟩ :=
      o.exists_areReadings (c := { c with locals := c.locals.insert name }) (h.declare name) hpath
    have hnone : (none : Option Reading).map (·.text) =
        ({ level, item := .declares name } : Entry).condition? := rfl
    exact ⟨rs, hperm, .cons hnone (fun _ h => nomatch h) hrs⟩
  | block opening body others o =>
    rw [Outline.entries, List.forall_mem_cons, List.forall_mem_append, List.forall_mem_append]
      at hpath
    obtain ⟨hopening, hpathBody, hpathOthers, hpathAfter⟩ := hpath
    have hitem : ∀ name, Item.opens opening ≠ .declares name := fun _ h => nomatch h
    have hsite := h.leave hitem body
    obtain ⟨rsBody, hpermBody, hrsBody⟩ :=
      body.exists_areReadings
        (c := { opening.context c with script := opening.scriptId?.or c.script })
        (h.begin hitem (hopening id rfl) (runSize body.run)) hpathBody
    obtain ⟨rsOthers, hpermOthers, hrsOthers⟩ :=
      others.exists_areReadings (c := opening.context c)
        (d := (opening.context c).named body.firstScript) hsite rfl hpathOthers
    obtain ⟨rsAfter, hpermAfter, hrsAfter⟩ :=
      o.exists_areReadings
        (c := ((opening.context c).named body.firstScript).named others.firstScript)
        (hsite.leaveOthers others (runSize o.run)) hpathAfter
    refine ⟨_, ?_, h.areReadings_cons (c := opening.context c)
      (hrsBody.append (hrsOthers.append hrsAfter))⟩
    rw [Outline.readings, Context.readings_cons_eq, List.append_assoc, List.append_assoc]
    refine perm_of_conditions_first _ hpermBody ?_
    rw [← List.append_assoc]
    exact hpermOthers.append hpermAfter

/-- So are those of branches, with the conditions that divide them. -/
theorem Branches.exists_areReadings (b : Branches) {path : Nat → List Nat} {before : List Entry}
    {level id : Nat} {c d : Context} (h : AreInSight path before level id c.locals)
    (hd : d.locals = c.locals)
    (hpath : ∀ e ∈ b.entries level id, ∀ n, e.block = some n → path n = path e.level ++ [n]) :
    ∃ rs, rs ~ c.readings b.conditions ++ b.readings d ∧
      AreReadings path before (b.entries level id) rs := by
  cases b with
  | done => exact ⟨[], .refl _, .nil⟩
  | branch condition body others =>
    rw [Branches.entries, List.forall_mem_cons, List.forall_mem_append] at hpath
    obtain ⟨hdividing, hpathBody, hpathOthers⟩ := hpath
    have hitem : ∀ name, Item.divides condition ≠ .declares name := fun _ h => nomatch h
    obtain ⟨rsBody, hpermBody, hrsBody⟩ :=
      body.exists_areReadings (c := d) (hd ▸ h.begin hitem (hdividing id rfl) (runSize body.run))
        hpathBody
    obtain ⟨rsOthers, hpermOthers, hrsOthers⟩ :=
      others.exists_areReadings (c := c) (d := d.named body.firstScript) (h.leave hitem body) hd
        hpathOthers
    refine ⟨_, ?_, h.areReadings_cons (hrsBody.append hrsOthers)⟩
    rw [Branches.conditions, Context.readings_cons_eq, Branches.readings]
    exact perm_of_conditions_first _ hpermBody hpermOthers

end

/-! ### What is noted -/

namespace Reading

variable {globals : Names} {r : Reading}

/-- The name that is noted of a condition is that of a command which is found nowhere. -/
theorem novel?_eq_some_iff {name : String} : r.novel? globals = some name ↔
    ∃ c, Condition.ofText? r.text = some c ∧ c.IsNovel globals r.scope.locals ∧
      c.commandName = name := by
  unfold novel?
  cases h : Condition.ofText? r.text with
  | some c =>
    rw [translate_of_ofText? h]
    simpa [Except.toOption] using Condition.requirement_snd_eq_some_iff
  | none =>
    obtain ⟨e, he⟩ := exists_translate_error h globals r.scope
    rw [he]
    simp [Except.toOption]

theorem unread?_eq (globals : Names) (r : Reading) : r.unread? globals = rejected? r.text := by
  unfold unread?
  cases h : Condition.ofText? r.text with
  | some c =>
    rw [translate_of_ofText? h, rejected?_of_ofText? h]
    rfl
  | none =>
    obtain ⟨e, he⟩ := exists_translate_error h globals r.scope
    rw [he, rejected?_eq_some h]
    rfl

theorem raw_requirement (globals : Names) (r : Reading) :
    (r.requirement globals).raw = rejected? r.text :=
  Translator.raw_translateOrKeep _ _ _

end Reading

namespace Tree

theorem path_zero (t : Tree) : t.path 0 = [0] := by
  rw [path]
  split
  · exact if_neg (Nat.not_lt_zero _)
  · rfl

variable (source : String) (t : Translator)

/-- The conditions of a script are those of its entries. -/
theorem exists_areReadings_sourceEntries :
    ∃ rs, rs ~ readingsOf t.globals source ∧
      AreReadings (parse source t).1.path [] (sourceEntries source) rs := by
  have hroot := (parse source t).1.path_zero
  refine Outline.exists_areReadings _ ⟨fun name => ?_, ?_, ?_, fun _ h => nomatch h⟩
    fun e he n hn => path_of_mem_sourceEntries source t he hn
  · simp [IsDeclared]
  · rw [hroot]
    exact List.mem_singleton.2 rfl
  · rw [hroot, List.forall_mem_singleton, Nat.add_comm]
    exact Nat.succ_pos _

/-- A name is noted if it was noted before, or if it is that of the command of a condition, and is
neither known nor declared in sight by the entries before the condition. -/
theorem mem_unrecognized_parse_iff {name : String} :
    name ∈ (parse source t).2.unrecognized ↔ name ∈ t.unrecognized ∨
      ∃ earlier e later text c, sourceEntries source = earlier ++ e :: later ∧
        e.condition? = some text ∧ Condition.ofText? text = some c ∧ c.commandName = name ∧
        Command.find? name = none ∧ name ∉ t.globals ∧
        ¬IsDeclared (parse source t).1.path earlier e.level name := by
  obtain ⟨rs, hperm, hrs⟩ := exists_areReadings_sourceEntries source t
  rw [parse_snd, Translator.mem_unrecognized_readAll]
  refine or_congr_right ?_
  simp only [List.mem_filterMap, Reading.novel?_eq_some_iff, ← hperm.mem_iff]
  constructor
  · rintro ⟨r, hr, c, hc, hnovel, rfl⟩
    obtain ⟨earlier, e, later, hes, htext, hscope⟩ := hrs.exists_of_mem hr
    exact ⟨earlier, e, later, r.text, c, hes, htext, hc, rfl, hnovel.find?_eq,
      hnovel.not_mem_globals, fun h => hnovel.not_mem_locals ((hscope _).2 h)⟩
  · rintro ⟨earlier, e, later, text, c, hes, htext, hc, rfl, hfind, hglobals, hdeclared⟩
    obtain ⟨r, hr, rfl, hscope⟩ := hrs.exists_mem hes htext
    exact ⟨r, hr, c, hc, ⟨hfind, hglobals, fun h => hdeclared ((hscope _).1 h)⟩, rfl⟩

theorem map_text_readingsOf_perm (globals : Names) :
    (readingsOf globals source).map (·.text) ~ (sourceEntries source).filterMap (·.condition?) := by
  obtain ⟨rs, hperm, hrs⟩ := exists_areReadings_sourceEntries source { globals }
  rw [← hrs.map_text]
  exact (hperm.map _).symm

/-- The texts of the conditions that are not read are added to those that were kept before. -/
theorem exists_failed_parse_eq :
    ∃ failed, (parse source t).2.failed = t.failed ++ failed ∧
      failed ~ ((sourceEntries source).filterMap (·.condition?)).filterMap rejected? := by
  refine ⟨_, ?_, (map_text_readingsOf_perm source t.globals).filterMap rejected?⟩
  rw [parse_snd, Translator.failed_readAll, List.filterMap_map]
  congr 2
  exact funext (Reading.unread?_eq t.globals)

/-- The tree of a script depends on the script and the global variables only. The entries of the
script are its declarations, the labels that open and the labels that divide a choice, in the order
of its lines, and each of these labels has a block. A translator that has read the script has noted
in addition the names of those commands that are neither known nor declared before in sight of
their conditions, and it has kept in addition the conditions that are not read, each once. Their
requirements keep the texts of these conditions, and no others keep any. A translator that only
rejects a text notes nothing. -/
theorem parse_reports :
    let tree := (parse source t).1
    let after := (parse source t).2
    let entries := sourceEntries source
    let conditions := entries.filterMap (·.condition?)
    let readings := readingsOf t.globals source
    (∀ u : Translator, u.globals = t.globals → (parse source u).1 = tree) ∧
    (Item.AreKept (entries.map (·.item)) ((sourceLines source.toList).filterMap Line.item?) ∧
      openedIds tree.blocks.toList = entries.filterMap (·.block) ∧
      ∀ e ∈ entries, e.IsIn tree.blocks.toList t.globals readings) ∧
    (∀ name, name ∈ after.unrecognized ↔ name ∈ t.unrecognized ∨
      ∃ earlier e later text c, entries = earlier ++ e :: later ∧
        e.condition? = some text ∧ Condition.ofText? text = some c ∧ c.commandName = name ∧
        Command.find? name = none ∧ name ∉ t.globals ∧
        ¬IsDeclared tree.path earlier e.level name) ∧
    (∃ failed, after.failed = t.failed ++ failed ∧ failed ~ conditions.filterMap rejected?) ∧
    (readings.map (·.text) ~ conditions ∧
      ∀ r : Reading, (r.requirement t.globals).raw = rejected? r.text) ∧
    ∀ (u : Translator) scope text,
      (∀ c, Condition.ofText? text = some c →
        (u.translate scope text).1 = .ok (c.requirement u.globals scope).1) ∧
      ((∃ e, (u.translate scope text).1 = .error e) ↔ (rejected? text).isSome = true) ∧
      ∀ e, (u.translate scope text).1 = .error e → (u.translate scope text).2 = u := by
  intro tree after entries conditions readings
  refine ⟨fun u hu => ?_, ⟨areKept_sourceEntries source, openedIds_parse source t,
    isIn_of_mem_sourceEntries source t⟩, fun name => mem_unrecognized_parse_iff source t,
    exists_failed_parse_eq source t,
    ⟨map_text_readingsOf_perm source t.globals, Reading.raw_requirement t.globals⟩,
    fun u scope text => ⟨fun c hc => Translator.translate_fst_of_ofText? hc,
      u.exists_translate_eq_error_iff scope text, fun e => Translator.translate_snd_of_error⟩⟩
  rw [parse_fst, hu, ← parse_fst source t]

/-- A script in which a later branch is read before what is inside an earlier one. -/
def garbledScript : String :=
  "begin t\nshort a\nif ( a == 1 )\nshort b\nif ( b == a b )\nendif\nelseif ( b == 1 )\n" ++
    "elseif ( x.y )\nendif\nwhile ( Bar )\nendwhile\nend"

example : (parse garbledScript {}).2.failed = ["( x.y )", "( b == a b )"] ∧
    (parse garbledScript {}).2.unrecognized.toList = ["b", "bar"] := by
  decide +kernel

end Tree

end Questline
