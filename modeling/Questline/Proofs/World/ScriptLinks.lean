import Questline.Proofs.Quest.Branches
import Questline.Proofs.World.Retelling

/-!
# The scripts that are linked to a stage

A script is linked to a stage through the origins that the stage keeps, one for each branch. An
update that repeats the requirements of an earlier one makes no branch, and its origin is not kept:
the stage is linked to the script that was first with the requirements.

## Main definitions

* `IsFirstHit`: a hit whose requirements none before it has
* `Credits`: the origins are those of the first hits

## Main results

* `Credits.addBranch`: one more hit on a stage
* `QuestLog.credits_recordAll`: any entries
* `QuestLog.first_hits_link_scripts`: the scripts that quests tell a registry about
* `QuestLog.second_script_is_not_linked`: a script that comes second
-/

namespace Questline

/-- No hit before has requirements that equal those of the hit. -/
def IsFirstHit (hs : List Hit) (h : Hit) : Prop :=
  ∃ past rest, hs = past ++ h :: rest ∧ ∀ h' ∈ past, (h'.gate == h.gate) = false

theorem isFirstHit_concat {hs : List Hit} {hit h : Hit} : IsFirstHit (hs ++ [hit]) h ↔
    IsFirstHit hs h ∨ h = hit ∧ ∀ h' ∈ hs, (h'.gate == hit.gate) = false := by
  constructor
  · rintro ⟨past, rest, hsplit, hpast⟩
    obtain rfl | ⟨rest, last, rfl⟩ := List.eq_nil_or_concat' rest
    · obtain ⟨rfl, hlast⟩ := List.append_inj' hsplit rfl
      obtain rfl := List.singleton_inj.1 hlast
      exact .inr ⟨rfl, hpast⟩
    · rw [← List.cons_append, ← List.append_assoc] at hsplit
      exact .inl ⟨past, rest, (List.append_inj' hsplit rfl).1, hpast⟩
  · rintro (⟨past, rest, rfl, hpast⟩ | ⟨rfl, hpast⟩)
    · exact ⟨past, rest ++ [hit], by simp, hpast⟩
    · exact ⟨hs, [], rfl, hpast⟩

/-- The branches `bs` with the origins `os` come from the hits `hs`, and each of the origins is
that of a first hit. Comparands that are no numbers are allowed. -/
structure Credits (bs : List Gate) (os : List Origin) (hs : List Hit) : Prop where
  exists_hit : ∀ b ∈ bs, ∃ h ∈ hs, h.gate = b
  complete : ∀ h ∈ hs, ∃ b ∈ bs, b = h.gate ∨ (b == h.gate) = true
  mem_origins : ∀ o, o ∈ os ↔ ∃ h, IsFirstHit hs h ∧ h.origin = o

namespace Credits

variable {bs : List Gate} {os : List Origin} {hs : List Hit}

theorem nil : Credits [] [] [] where
  exists_hit := by simp
  complete := by simp
  mem_origins o := by simp [IsFirstHit]

/-- A gate is among the branches exactly if an earlier hit had it. -/
theorem exists_beq_iff (h : Credits bs os hs) (g : Gate) :
    (∃ b ∈ bs, (b == g) = true) ↔ ∃ h ∈ hs, (h.gate == g) = true := by
  constructor
  · rintro ⟨b, hb, hbg⟩
    obtain ⟨x, hx, rfl⟩ := h.exists_hit b hb
    exact ⟨x, hx, hbg⟩
  · rintro ⟨x, hx, hxg⟩
    obtain ⟨b, hb, rfl | hbx⟩ := h.complete x hx
    · exact ⟨x.gate, hb, hxg⟩
    · exact ⟨b, hb, Gate.beq_trans hbx hxg⟩

/-- A hit with a gate that is there already is no first hit. -/
theorem repeated (h : Credits bs os hs) {hit : Hit} (hb : ∃ b ∈ bs, (b == hit.gate) = true) :
    Credits bs os (hs ++ [hit]) where
  exists_hit c hc := by
    obtain ⟨y, hy, hyc⟩ := h.exists_hit c hc
    exact ⟨y, List.mem_append_left _ hy, hyc⟩
  complete := by
    obtain ⟨b, hb, hbg⟩ := hb
    exact List.forall_mem_append.2
      ⟨h.complete, List.forall_mem_singleton.2 ⟨b, hb, .inr hbg⟩⟩
  mem_origins o := by
    obtain ⟨x, hx, hxg⟩ := (h.exists_beq_iff hit.gate).1 hb
    rw [h.mem_origins]
    refine exists_congr fun y => and_congr_left fun _ => ?_
    rw [isFirstHit_concat, or_iff_left]
    rintro ⟨-, hnone⟩
    exact Bool.false_ne_true ((hnone x hx).symm.trans hxg)

/-- A hit with a new gate is a first hit. -/
theorem new (h : Credits bs os hs) {hit : Hit} (hnew : ∀ b ∈ bs, (b == hit.gate) = false) :
    Credits (bs ++ [hit.gate]) (os ++ [hit.origin]) (hs ++ [hit]) where
  exists_hit := by
    refine List.forall_mem_append.2 ⟨fun c hc => ?_, List.forall_mem_singleton.2 ?_⟩
    · obtain ⟨y, hy, hyc⟩ := h.exists_hit c hc
      exact ⟨y, List.mem_append_left _ hy, hyc⟩
    · exact ⟨hit, List.mem_append_right _ List.mem_cons_self, rfl⟩
  complete := by
    refine List.forall_mem_append.2 ⟨fun y hy => ?_, List.forall_mem_singleton.2 ?_⟩
    · obtain ⟨b, hb, hby⟩ := h.complete y hy
      exact ⟨b, List.mem_append_left _ hb, hby⟩
    · exact ⟨hit.gate, List.mem_append_right _ List.mem_cons_self, .inl rfl⟩
  mem_origins o := by
    have hfirst : ∀ x ∈ hs, (x.gate == hit.gate) = false := by
      intro x hx
      rw [← Bool.not_eq_true]
      intro hxg
      obtain ⟨b, hb, hbg⟩ := (h.exists_beq_iff hit.gate).2 ⟨x, hx, hxg⟩
      exact Bool.false_ne_true ((hnew b hb).symm.trans hbg)
    simp only [List.mem_append, List.mem_singleton, h.mem_origins, isFirstHit_concat]
    constructor
    · rintro (⟨y, hy, hyo⟩ | rfl)
      · exact ⟨y, .inl hy, hyo⟩
      · exact ⟨hit, .inr ⟨rfl, hfirst⟩, rfl⟩
    · rintro ⟨y, hy | ⟨rfl, -⟩, hyo⟩
      · exact .inl ⟨y, hy, hyo⟩
      · exact .inr hyo.symm

/-- One more hit on a stage. -/
theorem addBranch {s : Stage} (h : Credits s.branches s.origins hs) (hit : Hit) :
    Credits ((s.addBranch? hit.gate hit.origin).getD s).branches
      ((s.addBranch? hit.gate hit.origin).getD s).origins (hs ++ [hit]) := by
  cases ht : s.addBranch? hit.gate hit.origin with
  | none => exact h.repeated (Stage.addBranch?_eq_none_iff.1 ht)
  | some t =>
    rw [Option.getD_some, Stage.addBranch?_cases ht]
    exact h.new (Stage.forall_of_addBranch?_eq_some ht)

end Credits

namespace QuestLog

variable {player id : String} {i : Int} {es : List LogEntry}

/-- After any entries, the origins of a stage are those of the first hits on it. -/
theorem credits_recordAll (player id : String) (i : Int) (es : List LogEntry) :
    Credits ((({ player } : QuestLog).recordAll es).pathsTo id i).1
      ((({ player } : QuestLog).recordAll es).pathsTo id i).2
      (({ player } : QuestLog).hitsOn id i es) := by
  have hnew : Credits (pathsTo { player } id i).1 (pathsTo { player } id i).2 [] := by
    rw [pathsTo_new]
    exact Credits.nil
  exact paths_recordAll (fun _ _ hit _ hs => hs.addBranch hit) hnew

/-- A hit with the requirements of an earlier one on its stage changes no quest. -/
theorem quests_add_of_repeated {l : QuestLog} {hit : Hit}
    (h : ∃ b ∈ (l.pathsTo hit.quest.toLower hit.index).1, (b == hit.gate) = true) :
    (l.add hit).quests = l.quests := by
  obtain ⟨hquests, -⟩ | ⟨q, s, t, hq, hs, ht, -⟩ :=
    l.addHit_cases hit.quest hit.index hit.gate hit.origin
  · exact hquests
  · have hstage : stageOf? l.quests hit.quest.toLower hit.index = some s := by
      rw [stageOf?, hq, Option.bind_some, hs]
    rw [pathsTo, hstage] at h
    cases (Stage.addBranch?_eq_none_iff.2 h).symm.trans ht

/-- The facts that the quests built from a log tell about a script that a stage keeps. -/
theorem mem_facts_of_mem_origins {l : QuestLog} (hl : l = ({ player } : QuestLog).recordAll es)
    (me : String) {s : Stage} (hs : stageOf? l.quests id i = some s) {script : String}
    (hscript : .script script ∈ s.origins) :
    id.toLower = id ∧ .kind script .script ∈ l.build.values.flatMap (Quest.facts me) ∧
      .mention script id i ∈ l.build.values.flatMap (Quest.facts me) := by
  -- to build changes no origins
  obtain ⟨q, t, hq, ht, horigins⟩ : ∃ q t, l.build[id]? = some q ∧ q.stages[i]? = some t ∧
      t.origins = s.origins := by
    obtain ⟨p, hp, hps⟩ := Option.bind_eq_some_iff.1 hs
    have hbuild : stageOf? l.build id i = _ := l.stageOf?_build
    rw [hp, Option.bind_some, hps, Option.map_some] at hbuild
    obtain ⟨q, hq, ht⟩ := Option.bind_eq_some_iff.1 hbuild
    exact ⟨q, _, hq, ht, rfl⟩
  have hkeyed : q.IsKeyed id := isKeyed_build_recordAll (hl ▸ hq)
  have hfacts : ∀ f ∈ Mention.facts ⟨id, i⟩ (script, .script),
      f ∈ l.build.values.flatMap (Quest.facts me) := by
    intro f hf
    refine List.mem_flatMap.2 ⟨q, mem_values_iff.2 ⟨id, hq⟩, List.mem_append_left _ ?_⟩
    refine List.mem_flatMap.2 ⟨t, mem_values_iff.2 ⟨i, ht⟩, List.mem_append_left _ ?_⟩
    refine List.mem_flatMap.2 ⟨.script script, horigins ▸ hscript, ?_⟩
    rw [hkeyed.id_eq, hkeyed.index_eq i t ht]
    exact hf
  exact ⟨hkeyed.toLower_id, hfacts _ List.mem_cons_self,
    hfacts _ (List.mem_cons_of_mem _ List.mem_cons_self)⟩

end QuestLog

theorem Fact.kindOf?_eq_some {f : Fact} {k : String} {what : ObjectKind} :
    f.kindOf? k = some what ↔ ∃ id, f = .kind id what ∧ id.toLower = k := by
  cases f with
  | kind id what =>
    simp only [kindOf?, Option.ite_none_right_eq_some, Option.some.injEq, kind.injEq]
    constructor
    · rintro ⟨hid, rfl⟩
      exact ⟨id, ⟨rfl, rfl⟩, hid⟩
    · rintro ⟨_, ⟨rfl, rfl⟩, hid⟩
      exact ⟨hid, rfl⟩
  | _ => simp [kindOf?]

namespace Registry

/-- An object that was told to be a script and that a stage mentions it: it is a script, unless it
was told to be something specific afterwards. -/
theorem get?_tellAll_script (w : Registry) {facts : List Fact} {script : String} {m : Mention}
    (hm : m.quest.toLower = m.quest) (hkind : .kind script .script ∈ facts)
    (hmention : .mention script m.quest m.index ∈ facts) :
    ∃ o, (w.tellAll facts).get? script = some o ∧ m ∈ o.involved ∧
      ∃ before after, facts = before ++ .kind script .script :: after ∧
        (o.kind = .script ∨ ∃ id kind, .kind id kind ∈ after ∧
          id.toLower = script.toLower ∧ kind ≠ .object) := by
  obtain ⟨o, ho⟩ : ∃ o, (w.tellAll facts).objects[script.toLower]? = some o := by
    rw [← Option.isSome_iff_exists, ← Std.ExtTreeMap.mem_iff_isSome_getElem?, mem_tellAll]
    exact .inr ⟨_, hkind, List.mem_singleton_self _⟩
  have htold := w.getD_tellAll facts script.toLower
  rw [ho, Option.getD_some] at htold
  obtain ⟨before, after, hsplit⟩ := List.append_of_mem hkind
  refine ⟨o, ho, ?_, before, after, hsplit, ?_⟩
  · rw [htold, WorldObject.mem_involved_tellAll]
    refine .inr ⟨_, hmention, ?_⟩
    rw [Fact.mentionOf?, if_pos rfl, hm]
  · -- what was told before the script makes no difference
    have hafter : o.kind = (after.filterMap (·.kindOf? script.toLower)).foldl ObjectKind.update
        .script := by
      have hhere : (Fact.kind script .script).kindOf? script.toLower = some .script := if_pos rfl
      rw [htold, WorldObject.kind_tellAll, hsplit, List.filterMap_append,
        List.filterMap_cons_some hhere, List.foldl_append, List.foldl_cons,
        ObjectKind.update_of_ne (by decide)]
    by_cases hall : ∀ kind ∈ after.filterMap (·.kindOf? script.toLower), kind = .object
    · rw [hafter, ObjectKind.foldl_update_of_forall hall (by decide)]
      exact .inl rfl
    · simp only [not_forall] at hall
      obtain ⟨kind, hmem, hne⟩ := hall
      obtain ⟨f, hf, hfk⟩ := List.mem_filterMap.1 hmem
      obtain ⟨id, rfl, hid⟩ := Fact.kindOf?_eq_some.1 hfk
      exact .inr ⟨id, kind, hf, hid, hne⟩

end Registry

namespace QuestLog

/-- The scripts that a stage is linked to. However a log is filled, the origins of a stage are those
of the first hits on it, those whose requirements no earlier hit on the stage has. When the quests
built from the log are added to a survey and whatever else is told, the script of a first hit is an
object that is involved with the stage; it is a script, unless it is registered as something
specific later. Any other hit changes no quest. -/
theorem first_hits_link_scripts (player : String) (es : List LogEntry) (survey : Survey)
    (later : List Fact) (id : String) (i : Int) :
    let hits := ({ player } : QuestLog).hitsOn id i es
    let l := ({ player } : QuestLog).recordAll es
    let told := l.build.values.flatMap (Quest.facts survey.player)
    let w := (survey.addQuests l.build.values).registry.tellAll later
    (∀ s, stageOf? l.quests id i = some s →
      ∀ o, o ∈ s.origins ↔ ∃ h, IsFirstHit hits h ∧ h.origin = o) ∧
    (∀ h script, IsFirstHit hits h → h.origin = .script script →
      ∃ o, w.get? script = some o ∧ ⟨id, i⟩ ∈ o.involved ∧
        ∃ before after, told ++ later = before ++ .kind script .script :: after ∧
          (o.kind = .script ∨ ∃ id kind, .kind id kind ∈ after ∧
            id.toLower = script.toLower ∧ kind ≠ .object)) ∧
    ∀ hit : Hit, hit.quest.toLower = id → hit.index = i →
      (∃ h ∈ hits, (h.gate == hit.gate) = true) → (l.add hit).quests = l.quests := by
  intro hits l told w
  have hcredits : Credits (l.pathsTo id i).1 (l.pathsTo id i).2 hits :=
    credits_recordAll player id i es
  refine ⟨fun s hs => ?_, fun h script hfirst horigin => ?_, ?_⟩
  · have horigins := hcredits.mem_origins
    rw [pathsTo, hs] at horigins
    exact horigins
  · have hmem := (hcredits.mem_origins (.script script)).2 ⟨h, hfirst, horigin⟩
    rw [pathsTo] at hmem
    cases hs : stageOf? l.quests id i with
    | none =>
      rw [hs] at hmem
      cases hmem
    | some s =>
      rw [hs] at hmem
      obtain ⟨hid, hkind, hmention⟩ := mem_facts_of_mem_origins (l := l) rfl survey.player hs hmem
      have hw : w = survey.registry.tellAll (told ++ later) := by
        rw [Registry.tellAll_append]
        exact congrArg (fun s : Survey => s.registry.tellAll later) (survey.addQuests_eq _)
      rw [hw]
      exact Registry.get?_tellAll_script (m := ⟨id, i⟩) _ hid (List.mem_append_left _ hkind)
        (List.mem_append_left _ hmention)
  · rintro hit rfl rfl hthere
    exact quests_add_of_repeated ((hcredits.exists_beq_iff hit.gate).2 hthere)

/-- Two scripts that make the same update. -/
def sharedUpdate : List LogEntry :=
  [.topic { id := "q", kind := .journal, responses := [{ id := "1", index := some 10 }] },
    .hit ⟨"q", 10, {}, .script "first"⟩, .hit ⟨"q", 10, {}, .script "second"⟩]

/-- The script that comes second makes an update of a stage that exists, but it is no object at
all when the quests are added. -/
theorem second_script_is_not_linked :
    let l := ({} : QuestLog).recordAll sharedUpdate
    (∃ h ∈ ({} : QuestLog).hitsOn "q" 10 sharedUpdate, h.origin = .script "second") ∧
      (({} : Survey).addQuests l.build.values).registry.get? "second" = none := by
  have hhits : ∃ h ∈ ({} : QuestLog).hitsOn "q" 10 sharedUpdate, h.origin = .script "second" := by
    decide +kernel
  have hnone : ((({} : Survey).addQuests
      (({} : QuestLog).recordAll sharedUpdate).build.values).registry.get? "second").isNone := by
    decide +kernel
  exact ⟨hhits, Option.isNone_iff_eq_none.1 hnone⟩

end QuestLog

end Questline
