import Mathlib.Logic.Relation
import Questline.Proofs.Requirement.Equality
import Questline.Quest.Transitions

/-!
# Which stages follow which

Stages are linked by their places in the sorted list of a quest's stages. Said without the list, a
stage follows an earlier one that it asks for, and one that depends on a choice follows the
nearest earlier one that does not. Links go upwards, so that no stage comes back to itself.

## Main definitions

* `Requirement.AsksFor`, `Stage.AsksFor`: what asks for a stage
* `Stage.AsksChoice`: a stage that depends on a choice
* `Follows`: the stages that follow each other

## Main results

* `Quest.mem_links_iff`: the links of a quest
* `Quest.getElem?_linkStages`: what linking does to a stage
* `lt_of_transGen_follows`: links go upwards, so that no stage comes back to itself
-/

namespace Questline

namespace Requirement

variable {r s : Requirement} {quest : String} {index : Int}

/-- The requirement asks that the journal of `quest` stands at `index`, or has got that far. -/
structure AsksFor (r : Requirement) (quest : String) (index : Int) : Prop where
  kind_eq : r.kind = .journal
  comparison_eq : r.comparison = .equal ∨ r.comparison = .greaterOrEqual
  operand_eq : ∃ name, r.operand = some name ∧ name.toLower = quest.toLower
  value_eq : ∃ x, r.value = some x ∧ (x == Float.ofInt index) = true

theorem asksFor_iff : r.AsksFor quest index ↔ (r.kind == .journal &&
    (r.comparison == .equal || r.comparison == .greaterOrEqual) &&
    r.operand.any (sameName · quest) && r.value == some (Float.ofInt index)) = true := by
  have hvalue : (r.value == some (Float.ofInt index)) = true ↔
      ∃ x, r.value = some x ∧ (x == Float.ofInt index) = true := by
    cases r.value with
    | none => exact ⟨fun h => (Bool.false_ne_true h).elim, fun ⟨_, h, _⟩ => nomatch h⟩
    | some x => exact ⟨fun h => ⟨x, rfl, h⟩, fun ⟨_, h, hx⟩ => Option.some.inj h ▸ hx⟩
  simp only [Bool.and_eq_true, Bool.or_eq_true, beq_iff_eq, Option.any_eq_true, sameName, hvalue]
  exact ⟨fun ⟨hk, hc, ho, hv⟩ => ⟨⟨⟨hk, hc⟩, ho⟩, hv⟩,
    fun ⟨⟨⟨hk, hc⟩, ho⟩, hv⟩ => ⟨hk, hc, ho, hv⟩⟩

instance : Decidable (r.AsksFor quest index) :=
  decidable_of_iff' _ asksFor_iff

/-- Equal requirements ask for the same. -/
theorem AsksFor.congr (h : (s == r) = true) (hr : r.AsksFor quest index) :
    s.AsksFor quest index := by
  obtain ⟨hk, hc, hv, -, ho, -⟩ := beq_iff.1 h
  obtain ⟨x, hx, hxi⟩ := hr.value_eq
  refine ⟨hk.trans hr.kind_eq, hc ▸ hr.comparison_eq, ho ▸ hr.operand_eq, ?_⟩
  rw [hx] at hv
  cases hs : s.value with
  | none =>
    rw [hs] at hv
    contradiction
  | some y =>
    rw [hs] at hv
    exact ⟨y, rfl, Number.beq_trans hv hxi⟩

end Requirement

namespace Stage

variable {s : Stage} {quest : String} {index : Int}

/-- Some branch asks that the journal of `quest` stands at `index`, or has got that far. -/
def AsksFor (s : Stage) (quest : String) (index : Int) : Prop :=
  ∃ g ∈ s.branches, ∃ r ∈ g.requirements, r.AsksFor quest index

/-- Some branch depends on a choice in a dialogue. -/
def AsksChoice (s : Stage) : Prop :=
  ∃ g ∈ s.branches, ∃ r ∈ g.requirements, r.kind = .choice

theorem mem_requirements_iff {r : Requirement} :
    r ∈ s.requirements ↔ ∃ g ∈ s.branches, r ∈ g.requirements :=
  List.mem_flatMap

theorem hasChoice_iff : s.hasChoice = true ↔ s.AsksChoice := by
  simp only [hasChoice, List.any_eq_true, mem_requirements_iff, beq_iff_eq, AsksChoice]
  exact ⟨fun ⟨r, ⟨g, hg, hr⟩, h⟩ => ⟨g, hg, r, hr, h⟩, fun ⟨g, hg, r, hr, h⟩ => ⟨r, ⟨g, hg, hr⟩, h⟩⟩

theorem requiresIndex_iff : s.requiresIndex quest index = true ↔ s.AsksFor quest index := by
  simp only [requiresIndex, List.any_eq_true, ← Requirement.asksFor_iff, mem_requirements_iff,
    AsksFor]
  exact ⟨fun ⟨r, ⟨g, hg, hr⟩, h⟩ => ⟨g, hg, r, hr, h⟩, fun ⟨g, hg, r, hr, h⟩ => ⟨r, ⟨g, hg, hr⟩, h⟩⟩

end Stage

/-- Among the stages of a quest, `j` follows `i`: it comes later, and either asks for `i` or is the
first without a choice before `j`, which depends on one. -/
def Follows (quest : String) (stages : Int → Option Stage) (i j : Int) : Prop :=
  ∃ s t, stages i = some s ∧ stages j = some t ∧ i < j ∧
    (t.AsksFor quest i ∨ t.AsksChoice ∧ ¬s.AsksChoice ∧
      ∀ k u, stages k = some u → i < k → k < j → u.AsksChoice)

theorem lt_of_transGen_follows {quest : String} {stages : Int → Option Stage} {i j : Int}
    (h : Relation.TransGen (Follows quest stages) i j) : i < j := by
  induction h with
  | single h =>
    obtain ⟨_, _, _, _, hlt, _⟩ := h
    exact hlt
  | tail _ h ih =>
    obtain ⟨_, _, _, _, hlt, _⟩ := h
    exact Int.lt_trans ih hlt

namespace Quest

variable {q : Quest} {i j : Int} {l a b : List (Int × Stage)} {e s : Int × Stage}

/-! ### Sorted lists -/

/-- The stages are in increasing order. -/
def Sorted (l : List (Int × Stage)) : Prop :=
  l.Pairwise (·.1 < ·.1)

theorem Sorted.mem_before_iff (h : Sorted (a ++ s :: b)) : e ∈ a ↔ e ∈ a ++ s :: b ∧ e.1 < s.1 := by
  obtain ⟨-, hs, hlt⟩ := List.pairwise_append.1 h
  refine ⟨fun he => ⟨List.mem_append_left _ he, hlt e he s List.mem_cons_self⟩, ?_⟩
  rintro ⟨he, hes⟩
  obtain he | he := List.mem_append.1 he
  · exact he
  · obtain rfl | he := List.mem_cons.1 he
    · exact absurd hes (Int.lt_irrefl _)
    · exact absurd ((List.pairwise_cons.1 hs).1 e he) (Int.not_lt.2 (Int.le_of_lt hes))

theorem Sorted.mem_after_iff (h : Sorted (a ++ s :: b)) : e ∈ b ↔ e ∈ a ++ s :: b ∧ s.1 < e.1 := by
  obtain ⟨-, hs, hlt⟩ := List.pairwise_append.1 h
  refine ⟨fun he => ⟨List.mem_append_right _ (List.mem_cons_of_mem s he),
    (List.pairwise_cons.1 hs).1 e he⟩, ?_⟩
  rintro ⟨he, hse⟩
  obtain he | he := List.mem_append.1 he
  · exact absurd (hlt e he s List.mem_cons_self) (Int.not_lt.2 (Int.le_of_lt hse))
  · obtain rfl | he := List.mem_cons.1 he
    · exact absurd hse (Int.lt_irrefl _)
    · exact he

theorem sorted_toList (q : Quest) : Sorted q.stages.toList :=
  q.stages.ordered_keys_toList.imp fun h => Int.compare_eq_lt.1 h

/-! ### Links -/

/-- The nearest stage without a choice is one after which all depend on a choice. -/
theorem Sorted.lastPlain?_eq_some_iff (h : Sorted l) :
    lastPlain? l = some i ↔ ∃ s, (i, s) ∈ l ∧ ¬s.AsksChoice ∧
      ∀ e ∈ l, i < e.1 → e.2.AsksChoice := by
  simp only [lastPlain?, Option.map_eq_some_iff, List.find?_eq_some_iff_append, Bool.not_eq_true',
    ← Bool.not_eq_true, Stage.hasChoice_iff, Classical.not_not]
  -- the search runs over the reversed list: what it passes over comes after what it finds
  constructor
  · rintro ⟨⟨i, s⟩, ⟨hs, a, b, hl, hafter⟩, rfl⟩
    obtain rfl : l = b.reverse ++ (i, s) :: a.reverse := by
      rw [← List.reverse_inj, hl]
      simp
    refine ⟨s, by simp, hs, fun e he hlt => ?_⟩
    exact hafter e (List.mem_reverse.1 (h.mem_after_iff.2 ⟨he, hlt⟩))
  · rintro ⟨s, hmem, hs, hafter⟩
    obtain ⟨a, b, rfl⟩ := List.append_of_mem hmem
    refine ⟨(i, s), ⟨hs, b.reverse, a.reverse, by simp, fun e he => ?_⟩, rfl⟩
    obtain ⟨he, hlt⟩ := h.mem_after_iff.1 (List.mem_reverse.1 he)
    exact hafter e he hlt

theorem mem_linksTo_iff : (i, j) ∈ q.linksTo l s ↔
    s.1 = j ∧ ((s.2.AsksChoice ∧ lastPlain? l = some i) ∨
      s.2.AsksFor q.id i ∧ ∃ t, (i, t) ∈ l) := by
  have hchoice : (i, j) ∈ (if s.2.hasChoice = true then
      (lastPlain? l).toList.map fun i => (i, s.1) else []) ↔
      s.1 = j ∧ s.2.AsksChoice ∧ lastPlain? l = some i := by
    rw [← Stage.hasChoice_iff]
    split
    · next h =>
      rw [List.mem_map]
      simp only [Option.mem_toList, Prod.mk.injEq, h, true_and]
      exact ⟨fun ⟨_, hi, hij, hj⟩ => ⟨hj, hij ▸ hi⟩, fun ⟨hj, hi⟩ => ⟨i, hi, rfl, hj⟩⟩
    · next h => simp [h]
  have hask : (i, j) ∈ ((l.filter fun e => s.2.requiresIndex q.id e.1).map fun e => (e.1, s.1)) ↔
      s.1 = j ∧ s.2.AsksFor q.id i ∧ ∃ t, (i, t) ∈ l := by
    simp only [List.mem_map, List.mem_filter, Prod.mk.injEq, Stage.requiresIndex_iff]
    constructor
    · rintro ⟨⟨_, t⟩, ⟨ht, h⟩, rfl, rfl⟩
      exact ⟨rfl, h, t, ht⟩
    · rintro ⟨rfl, h, t, ht⟩
      exact ⟨(i, t), ⟨ht, h⟩, rfl, rfl⟩
  rw [linksTo, List.mem_append, hchoice, hask, ← and_or_left]

theorem mem_linksFrom_iff {p : Int × Int} : p ∈ q.linksFrom a l ↔
    ∃ b s c, l = b ++ s :: c ∧ p ∈ q.linksTo (a ++ b) s := by
  induction l generalizing a with
  | nil => simp [linksFrom]
  | cons s l ih =>
    rw [linksFrom, List.mem_append, ih]
    constructor
    · rintro (hp | ⟨b, t, c, rfl, hp⟩)
      · exact ⟨[], s, l, rfl, by rwa [List.append_nil]⟩
      · exact ⟨s :: b, t, c, rfl, by rwa [List.append_assoc] at hp⟩
    · rintro ⟨b, t, c, hl, hp⟩
      cases b with
      | nil =>
        obtain ⟨rfl, rfl⟩ := List.cons.inj hl
        exact .inl (by rwa [List.append_nil] at hp)
      | cons u b =>
        obtain ⟨rfl, rfl⟩ := List.cons.inj hl
        exact .inr ⟨b, t, c, rfl, by rwa [List.append_assoc]⟩

/-- Stages are linked when one follows the other. -/
theorem mem_links_iff : (i, j) ∈ q.links ↔ Follows q.id (q.stages[·]?) i j := by
  have hsorted := q.sorted_toList
  have hmem (k : Int) (t : Stage) : (k, t) ∈ q.stages.toList ↔ q.stages[k]? = some t :=
    Std.ExtTreeMap.mem_toList_iff_getElem?_eq_some
  simp only [links, mem_linksFrom_iff, List.nil_append, mem_linksTo_iff, Follows, ← hmem]
  constructor
  · rintro ⟨a, ⟨_, t⟩, b, hl, rfl, hlink⟩
    rw [hl] at hsorted ⊢
    have ha : Sorted a := (List.pairwise_append.1 hsorted).1
    rw [ha.lastPlain?_eq_some_iff] at hlink
    obtain ⟨hc, s, hs, hplain, hafter⟩ | ⟨hask, s, hs⟩ := hlink
    · obtain ⟨hs, hlt⟩ := hsorted.mem_before_iff.1 hs
      refine ⟨s, t, hs, by simp, hlt, .inr ⟨hc, hplain, fun k u hu hik hkj => ?_⟩⟩
      exact hafter (k, u) (hsorted.mem_before_iff.2 ⟨hu, hkj⟩) hik
    · obtain ⟨hs, hlt⟩ := hsorted.mem_before_iff.1 hs
      exact ⟨s, t, hs, by simp, hlt, .inl hask⟩
  · rintro ⟨s, t, hs, ht, hlt, hlink⟩
    obtain ⟨a, b, hl⟩ := List.append_of_mem ht
    rw [hl] at hsorted hs hlink
    have ha : Sorted a := (List.pairwise_append.1 hsorted).1
    have hs : (i, s) ∈ a := hsorted.mem_before_iff.2 ⟨hs, hlt⟩
    refine ⟨a, (j, t), b, hl, rfl, ?_⟩
    rw [ha.lastPlain?_eq_some_iff]
    obtain hask | ⟨hc, hplain, hbetween⟩ := hlink
    · exact .inr ⟨hask, s, hs⟩
    · refine .inl ⟨hc, s, hs, hplain, fun e he hie => ?_⟩
      obtain ⟨he, hej⟩ := hsorted.mem_before_iff.1 he
      exact hbetween e.1 e.2 he hie hej

/-! ### Linked stages -/

/-- What follows `i`, by the links. -/
def following (links : List (Int × Int)) (i : Int) : List Int :=
  (links.filter fun p => p.1 = i).map (·.2)

theorem mem_following_iff {links : List (Int × Int)} : j ∈ following links i ↔ (i, j) ∈ links := by
  simp [following]

theorem following_cons_self (links : List (Int × Int)) (i j : Int) :
    following ((i, j) :: links) i = j :: following links i := by
  simp [following]

theorem following_cons_of_ne {links : List (Int × Int)} {k : Int} (h : i ≠ k) :
    following ((i, j) :: links) k = following links k := by
  simp [following, h]

theorem getElem?_foldl_modify (links : List (Int × Int)) (m : Std.ExtTreeMap Int Stage) (k : Int) :
    (links.foldl (fun m (i, j) => m.modify i fun s => { s with next := s.next.insert j }) m)[k]? =
      (m[k]?).map fun s : Stage => { s with next := s.next.insertMany (following links k) } := by
  induction links generalizing m with
  | nil => exact Option.map_id'.symm
  | cons p links ih =>
    obtain ⟨i, j⟩ := p
    rw [List.foldl_cons, ih, Std.ExtTreeMap.getElem?_modify]
    by_cases hk : i = k
    · subst hk
      rw [if_pos Std.ReflCmp.compare_self, Option.map_map, following_cons_self]
      simp only [Std.ExtTreeSet.insertMany_cons, Function.comp_def]
    · rw [if_neg (mt Std.LawfulEqCmp.compare_eq_iff_eq.1 hk), following_cons_of_ne hk]

/-- Linking writes into each stage which stages follow it, and leaves the rest as it is. -/
theorem getElem?_linkStages (q : Quest) (i : Int) :
    q.linkStages.stages[i]? = (q.stages[i]?).map fun s : Stage =>
      { s with next := s.next.insertMany (following q.links i) } :=
  getElem?_foldl_modify q.links q.stages i

/-- The stages of a quest follow each other as their links say. -/
theorem exists_mem_next_linkStages_iff (hnext : ∀ s, q.stages[i]? = some s → s.next = ∅) :
    (∃ s, q.linkStages.stages[i]? = some s ∧ j ∈ s.next) ↔
      Follows q.id (q.stages[·]?) i j := by
  have hmem : j ∈ following q.links i ↔ Follows q.id (q.stages[·]?) i j :=
    mem_following_iff.trans mem_links_iff
  rw [getElem?_linkStages]
  constructor
  · rintro ⟨t, ht, hj⟩
    obtain ⟨s, hs, rfl⟩ := Option.map_eq_some_iff.1 ht
    dsimp only at hj
    rw [hnext s hs, Std.ExtTreeSet.mem_insertMany_list, List.contains_iff_mem, hmem] at hj
    obtain hj | hj := hj
    · exact absurd hj Std.ExtTreeSet.not_mem_empty
    · exact hj
  · intro h
    have ⟨s, _, hs, _⟩ := h
    refine ⟨_, Option.map_eq_some_iff.2 ⟨s, hs, rfl⟩, ?_⟩
    rw [Std.ExtTreeSet.mem_insertMany_list, List.contains_iff_mem, hmem]
    exact .inr h

end Quest

end Questline
