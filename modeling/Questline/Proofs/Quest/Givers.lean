import Questline.Proofs.Quest.Transitions
import Questline.Proofs.Text.Lines

/-!
# Who can start a quest

A quest with more than one stage can be started by the objects that its first stage is about, the
one with the lowest index. The player is no such object, whichever way the player is named.

## Main definitions

* `Requirement.IsAbout`: the object that a requirement is about, other than the player
* `Quest.IsFirst`: the stage with the lowest index

## Main results

* `Quest.mem_firstSubjects_iff`: the objects that the first stage is about
* `Quest.mem_givers_inferGivers`, `Quest.givers_inferGivers_of_lt`: who can start a quest
-/

namespace Questline

namespace Requirement

variable {r s : Requirement} {me k : String}

/-- The requirement is about the object `k`, an id in lower case. The player, who goes by the id
`me` as well, does not count. -/
structure IsAbout (r : Requirement) (me k : String) : Prop where
  object_eq : ∃ o, r.object = some o ∧ o.toLower = k
  ne_player : k ≠ player.toLower
  ne_me : k ≠ me.toLower

theorem filter_subject?_eq_some {o : String} :
    r.subject?.filter (!sameName · me) = some o ↔
      r.object = some o ∧ o.toLower ≠ player.toLower ∧ o.toLower ≠ me.toLower := by
  rw [Option.filter_eq_some_iff, subject?, Option.filter_eq_some_iff, and_assoc, isPlayer]
  constructor
  · rintro ⟨ho, hplayer, hme⟩
    rw [ho] at hplayer
    exact ⟨ho, by simpa [sameName] using hplayer, by simpa [sameName] using hme⟩
  · rintro ⟨ho, hplayer, hme⟩
    rw [ho]
    exact ⟨rfl, by simpa [sameName] using hplayer, by simpa [sameName] using hme⟩

theorem isAbout_iff : r.IsAbout me k ↔
    ∃ o, r.subject?.filter (!sameName · me) = some o ∧ o.toLower = k := by
  simp only [filter_subject?_eq_some]
  constructor
  · rintro ⟨⟨o, ho, rfl⟩, hplayer, hme⟩
    exact ⟨o, ⟨ho, hplayer, hme⟩, rfl⟩
  · rintro ⟨o, ⟨ho, hplayer, hme⟩, rfl⟩
    exact ⟨⟨o, ho, rfl⟩, hplayer, hme⟩

/-- Equal requirements are about the same object. -/
theorem IsAbout.congr (h : (s == r) = true) (hr : r.IsAbout me k) : s.IsAbout me k := by
  obtain ⟨-, -, -, -, -, ho, -⟩ := beq_iff.1 h
  exact ⟨ho ▸ hr.object_eq, hr.ne_player, hr.ne_me⟩

end Requirement

namespace Quest

variable {q : Quest} {i : Int} {s : Stage} {me k : String}

/-- The stage `s` at `i` is the one with the lowest index. -/
structure IsFirst (q : Quest) (i : Int) (s : Stage) : Prop where
  stage_eq : q.stages[i]? = some s
  le (j : Int) (t : Stage) (h : q.stages[j]? = some t) : i ≤ j

theorem isFirst_iff_head? : q.IsFirst i s ↔ q.stages.toList.head? = some (i, s) := by
  have hmem (j : Int) (t : Stage) : (j, t) ∈ q.stages.toList ↔ q.stages[j]? = some t :=
    Std.ExtTreeMap.mem_toList_iff_getElem?_eq_some
  have hsorted := q.sorted_toList
  constructor
  · rintro ⟨hs, hle⟩
    rw [← hmem] at hs
    simp only [← hmem] at hle
    generalize q.stages.toList = l at hs hle hsorted
    cases l with
    | nil => cases hs
    | cons e l =>
      obtain rfl | hs := List.mem_cons.1 hs
      · rfl
      · have hlt := (List.pairwise_cons.1 hsorted).1 _ hs
        have hle := hle e.1 e.2 List.mem_cons_self
        exact absurd hlt (Int.not_lt.2 hle)
  · intro hhead
    refine ⟨(hmem i s).1 (List.mem_of_mem_head? hhead), fun j t ht => ?_⟩
    rw [← hmem] at ht
    obtain ⟨l, hl⟩ := List.head?_eq_some_iff.1 hhead
    rw [hl] at ht hsorted
    obtain heq | ht := List.mem_cons.1 ht
    · exact Int.le_of_eq (congrArg Prod.fst heq).symm
    · exact Int.le_of_lt ((List.pairwise_cons.1 hsorted).1 _ ht)

/-- The objects that the first stage is about. -/
theorem mem_firstSubjects_iff : k ∈ q.firstSubjects me ↔
    ∃ i s, q.IsFirst i s ∧ ∃ r ∈ s.requirements, r.IsAbout me k := by
  have hsubjects (s : Stage) :
      k ∈ ((s.requirements.filterMap (·.subject?)).filter (!sameName · me)).map String.toLower ↔
        ∃ r ∈ s.requirements, r.IsAbout me k := by
    simp only [List.mem_map, List.mem_filter, List.mem_filterMap, Requirement.isAbout_iff,
      Option.filter_eq_some_iff]
    constructor
    · rintro ⟨o, ⟨⟨r, hr, ho⟩, hme⟩, rfl⟩
      exact ⟨r, hr, o, ⟨ho, hme⟩, rfl⟩
    · rintro ⟨r, hr, o, ⟨ho, hme⟩, rfl⟩
      exact ⟨o, ⟨⟨r, hr, ho⟩, hme⟩, rfl⟩
  simp only [isFirst_iff_head?]
  unfold firstSubjects
  cases hl : q.stages.toList with
  | nil => simp
  | cons e l =>
    refine (hsubjects e.2).trans ⟨fun h => ⟨e.1, e.2, rfl, h⟩, ?_⟩
    rintro ⟨i, s, heq, h⟩
    obtain rfl := Option.some.inj heq
    exact h

/-- A quest with more than one stage can be started by the objects that its first stage is
about. -/
theorem mem_givers_inferGivers (h : 2 ≤ q.stages.size) : k ∈ (q.inferGivers me).givers ↔
    ∃ i s, q.IsFirst i s ∧ ∃ r ∈ s.requirements, r.IsAbout me k := by
  rw [inferGivers, if_neg (Nat.not_lt.2 h)]
  dsimp only
  rw [Std.ExtTreeSet.mem_ofList, List.contains_iff_mem, mem_firstSubjects_iff]

theorem givers_inferGivers_of_lt (h : q.stages.size < 2) :
    (q.inferGivers me).givers = q.givers := by
  rw [inferGivers, if_pos h]

end Quest

end Questline
