import Questline.Proofs.Analysis.Sources
import Questline.Proofs.World.Registry

/-!
# The order of records

The trees of scripts, the leveled lists and the placed objects are collected into maps and counts,
in which the order of the records leaves no trace as long as no two have one id. What a translator
notes on the way depends on the order, but only the findings show it, and these are kept without
repetitions: another order of the records gives another order of the findings and nothing else.

## Main definitions

* `IsShuffled`: the same records, in another order only if all have different ids
* `Records.IsReordered`: the same records in another order

## Main results

* `IsShuffled.ofList_eq`: a map by ids does not show the order
* `Translator.findings_readAll_perm`, `Findings.items_perm`: findings show nothing but the order
* `Records.analyze_of_isReordered`: an analysis of the same records in another order
-/

namespace Questline

/-! ### Maps -/

/-- The order of values with distinct keys makes no difference to a map. -/
theorem insertMany_eq_of_perm {β : Type} {l l' : List (String × β)} (h : l.Perm l')
    (hkeys : (l.map (·.1)).Nodup) (m : Std.ExtTreeMap String β) :
    m.insertMany l = m.insertMany l' := by
  induction h generalizing m with
  | nil => rfl
  | cons e _ ih =>
    rw [Std.ExtTreeMap.insertMany_cons, Std.ExtTreeMap.insertMany_cons]
    exact ih (List.nodup_cons.1 hkeys).2 _
  | swap e e' l =>
    have hne : e'.1 ≠ e.1 := List.ne_of_not_mem_cons (List.nodup_cons.1 hkeys).1
    have hswap : (m.insert e'.1 e'.2).insert e.1 e.2 = (m.insert e.1 e.2).insert e'.1 e'.2 := by
      refine Std.ExtTreeMap.ext_getElem? fun k => ?_
      simp only [Std.ExtTreeMap.getElem?_insert, Std.LawfulEqCmp.compare_eq_iff_eq]
      by_cases hk : e.1 = k
      · rw [if_pos hk, if_neg (hk ▸ hne), if_pos hk]
      · rw [if_neg hk, if_neg hk]
    rw [Std.ExtTreeMap.insertMany_cons, Std.ExtTreeMap.insertMany_cons,
      Std.ExtTreeMap.insertMany_cons, Std.ExtTreeMap.insertMany_cons, hswap]
  | trans h _ ih ih' => exact (ih hkeys m).trans (ih' ((h.map _).nodup_iff.1 hkeys) m)

/-- The same records, in another order only if no two have one id in any letter case. -/
def IsShuffled {α : Type} (id : α → String) (l l' : List α) : Prop :=
  l = l' ∨ l.Perm l' ∧ (l.map fun x => (id x).toLower).Nodup

namespace IsShuffled

variable {α β : Type} {id : α → String} {l l' : List α}

theorem perm (h : IsShuffled id l l') : l.Perm l' :=
  h.elim (fun heq => heq ▸ .refl l) And.left

/-- A map by the ids of the records does not show their order. -/
theorem ofList_eq (h : IsShuffled id l l') (f : α → β) :
    Std.ExtTreeMap.ofList (l.map fun x => ((id x).toLower, f x)) =
      Std.ExtTreeMap.ofList (l'.map fun x => ((id x).toLower, f x)) := by
  obtain rfl | ⟨hperm, hids⟩ := h
  · rfl
  · have hkeys : ((l.map fun x => ((id x).toLower, f x)).map (·.1)).Nodup := by
      rwa [List.map_map]
    rw [Std.ExtTreeMap.ofList_eq_insertMany_empty, Std.ExtTreeMap.ofList_eq_insertMany_empty,
      insertMany_eq_of_perm (hperm.map _) hkeys]

end IsShuffled

/-! ### Findings -/

namespace Translator

variable {t : Translator} {rs rs' : List Reading}

/-- In another order the same conditions give the same notes. -/
theorem findings_readAll_perm (h : rs.Perm rs') :
    (t.readAll rs).findings.Perm (t.readAll rs').findings := by
  have hunrecognized : (t.readAll rs).unrecognized = (t.readAll rs').unrecognized := by
    refine Std.ExtTreeSet.ext_mem fun name => ?_
    rw [mem_unrecognized_readAll, mem_unrecognized_readAll, (h.filterMap _).mem_iff]
  have hfailed : (t.readAll rs).failed.Perm (t.readAll rs').failed := by
    rw [failed_readAll, failed_readAll]
    exact (h.filterMap _).append_left t.failed
  rw [findings, findings, hunrecognized]
  exact (hfailed.map _).append_left _

end Translator

namespace Findings

/-- Findings are kept without repetitions, so their order is all that can differ. -/
theorem items_perm {as as' bs bs' cs cs' : List Finding} (ha : as.Perm as') (hb : bs.Perm bs')
    (hc : cs.Perm cs') :
    (((pushAll {} as).pushAll bs).pushAll cs).items.Perm
      (((pushAll {} as').pushAll bs').pushAll cs').items := by
  have hnodup (as bs cs : List Finding) :
      (((pushAll {} as).pushAll bs).pushAll cs).items.Nodup :=
    nodup_items_pushAll (nodup_items_pushAll (nodup_items_pushAll .nil as) bs) cs
  rw [List.perm_ext_iff_of_nodup (hnodup as bs cs) (hnodup as' bs' cs')]
  intro f
  simp only [mem_items_pushAll, ha.mem_iff, hb.mem_iff, hc.mem_iff]

end Findings

/-! ### The world -/

/-- The ids of the objects that are placed in a cell and not deleted. -/
def Cell.placed (c : Cell) : List String :=
  (c.placements.filter (!·.deleted)).map (·.object)

namespace Registry

theorem place_right_comm (w : Registry) (a b : String) (m n : Nat) :
    (w.place a m).place b n = (w.place b n).place a m := by
  have hobjects : ((w.place a m).place b n).objects = ((w.place b n).place a m).objects := by
    refine Std.ExtTreeMap.ext_getElem? fun k => ?_
    simp only [place, getElem?_update]
    by_cases ha : a.toLower = k <;> by_cases hb : b.toLower = k <;>
      simp [ha, hb, Nat.add_right_comm]
  exact congrArg Registry.mk hobjects

/-- Cells count for what is placed in them. -/
theorem foldl_addCell (w : Registry) (cs : List Cell) :
    cs.foldl addCell w = (cs.flatMap Cell.placed).foldl (·.place · 1) w := by
  rw [List.foldl_flatMap]
  simp only [Cell.placed, List.foldl_map]
  rfl

end Registry

/-! ### Another order -/

/-- The same cell with what is placed in it in another order. -/
structure Cell.IsReordered (c c' : Cell) : Prop where
  name_eq : c'.name = c.name
  grid_eq : c'.grid = c.grid
  placements_perm : c.placements.Perm c'.placements

/-- The same records with the scripts, the leveled lists, the cells, what is placed in a cell and
the scripts that run from the start in another order. -/
structure Records.IsReordered (r r' : Records) : Prop where
  topics_eq : r'.topics = r.topics
  actors_eq : r'.actors = r.actors
  scripts : IsShuffled (·.id) r.scripts r'.scripts
  leveledLists : IsShuffled (·.id) r.leveledLists r'.leveledLists
  exists_cells : ∃ cs, r.cells.Perm cs ∧ List.Forall₂ Cell.IsReordered cs r'.cells
  startScripts_perm : r.startScripts.Perm r'.startScripts

namespace Records.IsReordered

variable {r r' : Records}

theorem placed_perm (h : r.IsReordered r') :
    (r.cells.flatMap Cell.placed).Perm (r'.cells.flatMap Cell.placed) := by
  have hplaced {cs cs' : List Cell} (hcs : List.Forall₂ Cell.IsReordered cs cs') :
      (cs.flatMap Cell.placed).Perm (cs'.flatMap Cell.placed) := by
    induction hcs with
    | nil => exact .nil
    | cons hc _ ih => exact ((hc.placements_perm.filter _).map _).append ih
  obtain ⟨cs, hperm, hcells⟩ := h.exists_cells
  exact (hperm.flatMap_right _).trans (hplaced hcells)

/-- The trees of the scripts are the same. -/
theorem scriptTrees_eq (h : r.IsReordered r') (settings : Settings) (starts : List String) :
    r'.scriptTrees { settings with startScripts := starts } = r.scriptTrees settings := by
  rw [scriptTrees, scriptTrees, parseScripts_eq, parseScripts_eq]
  exact (h.scripts.ofList_eq _).symm

/-- So is what is entered into the log. -/
theorem entries_eq (h : r.IsReordered r') (settings : Settings) (starts : List String) :
    r'.entries { settings with startScripts := starts } = r.entries settings := by
  have htrees := h.scriptTrees_eq settings starts
  simp only [entries, hits, sources, scriptSources, resultSources, resultSource, inlined,
    resultTree, results, htrees, h.topics_eq]

theorem survey_eq (h : r.IsReordered r') (settings : Settings) (starts : List String)
    (quests : Std.ExtTreeMap String Quest) (parsed : Trees) :
    surveyWorld r' { settings with startScripts := starts } quests parsed =
      surveyWorld r settings quests parsed := by
  have hlists : LeveledLists.ofRecords r'.leveledLists = LeveledLists.ofRecords r.leveledLists := by
    rw [LeveledLists.ofRecords, LeveledLists.ofRecords, h.leveledLists.ofList_eq]
  have hcells (s : Survey) : s.addCells r'.cells = s.addCells r.cells := by
    rw [Survey.addCells, Survey.addCells, Registry.foldl_addCell, Registry.foldl_addCell,
      h.placed_perm.foldl_eq' fun a _ b _ w => w.place_right_comm a b 1 1]
  rw [surveyWorld, surveyWorld, Survey.start, Survey.start, hlists, h.actors_eq, hcells]

theorem missingScripts_perm (h : r.IsReordered r') {settings : Settings} {starts : List String}
    (hstarts : settings.startScripts.Perm starts) (trees : Trees) :
    (r.missingScripts settings trees).Perm
      (r'.missingScripts { settings with startScripts := starts } trees) := by
  rw [missingScripts, missingScripts, h.actors_eq]
  exact ((h.startScripts_perm.append hstarts).flatMap_right _).append_left _

theorem readings_perm (h : r.IsReordered r') (settings : Settings) (starts : List String) :
    (r.readings settings).Perm (r'.readings { settings with startScripts := starts }) := by
  have hresults : r'.results = r.results := by
    rw [results, results, h.topics_eq]
  simp only [readings, resultReadings, hresults]
  exact (h.scripts.perm.flatMap_right _).append_right _

end Records.IsReordered

/-- The order of scripts and of leveled lists that all have different ids, and the order of cells,
placed objects and start scripts, makes no difference to the quests and objects of an analysis, and
none to its findings but their order. -/
theorem Records.analyze_of_isReordered {r r' : Records} (h : r.IsReordered r')
    (settings : Settings) {starts : List String} (hstarts : settings.startScripts.Perm starts) :
    let report := r.analyze settings
    let report' := r'.analyze { settings with startScripts := starts }
    report'.quests = report.quests ∧ report'.objects = report.objects ∧
      report.findings.items.Perm report'.findings.items := by
  have htrees := h.scriptTrees_eq settings starts
  have hquests : (r'.analyze { settings with startScripts := starts }).quests =
      (r.analyze settings).quests := by
    rw [quests_analyze, quests_analyze, h.entries_eq]
  refine ⟨hquests, ?_, ?_⟩
  · calc (r'.analyze { settings with startScripts := starts }).objects
      _ = surveyWorld r' { settings with startScripts := starts } (r.analyze settings).quests
          (r.scriptTrees settings) := by rw [← hquests, ← htrees]; rfl
      _ = (r.analyze settings).objects := h.survey_eq settings starts _ _
  · rw [findings_analyze, findings_analyze, h.entries_eq, htrees]
    exact Findings.items_perm (h.missingScripts_perm hstarts _) (.refl _)
      (Translator.findings_readAll_perm (h.readings_perm settings starts))

/-- A village in which a guard and a smith run scripts, with loot in two cells. -/
def village : Records where
  scripts := [{ id := "Guard", text := "if ( strolls == 1 )\nendif" },
    { id := "Smith", text := "if ( Journal \"Forge\" >= 10 )\nStopScript Guard\nendif" }]
  cells := [
    { name := "Smithy"
      placements := [{ object := "hammer" }, { object := "loot", deleted := true },
        { object := "anvil" }] },
    { grid := some (2, -3), placements := [{ object := "loot" }] }]
  leveledLists := [{ id := "Loot", members := ["hammer", "coins"] },
    { id := "Coins", members := ["gold"] }]
  startScripts := ["guard", "weather"]

/-- The village with its records the other way round. -/
def villageReversed : Records where
  scripts := village.scripts.reverse
  cells := (village.cells.map fun c => { c with placements := c.placements.reverse }).reverse
  leveledLists := village.leveledLists.reverse
  startScripts := village.startScripts.reverse

theorem village_isReordered : village.IsReordered villageReversed where
  topics_eq := rfl
  actors_eq := rfl
  scripts := .inr ⟨(List.reverse_perm _).symm, by decide +kernel⟩
  leveledLists := .inr ⟨(List.reverse_perm _).symm, by decide +kernel⟩
  exists_cells := ⟨village.cells.reverse, (List.reverse_perm _).symm,
    .cons ⟨rfl, rfl, .refl _⟩ (.cons ⟨rfl, rfl, (List.reverse_perm _).symm⟩ .nil)⟩
  startScripts_perm := (List.reverse_perm _).symm

theorem village_analyze_reversed :
    village.IsReordered villageReversed ∧ ["market", "weather"].Perm ["weather", "market"] ∧
      let report := village.analyze { startScripts := ["market", "weather"] }
      let report' := villageReversed.analyze { startScripts := ["weather", "market"] }
      report'.quests = report.quests ∧ report'.objects = report.objects ∧
        report.findings.items.Perm report'.findings.items :=
  have hstarts : ["market", "weather"].Perm ["weather", "market"] := .swap _ _ []
  ⟨village_isReordered, hstarts, Records.analyze_of_isReordered village_isReordered
    { startScripts := ["market", "weather"] } hstarts⟩

end Questline
