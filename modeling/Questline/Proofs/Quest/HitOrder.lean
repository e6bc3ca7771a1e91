import Mathlib.Data.List.Perm.Basic
import Questline.Proofs.Quest.Branches
import Questline.Proofs.Quest.Givers

/-!
# The order of hits

A stage merges equal hits, so the order in which hits are found decides which of several equal
gates it keeps, with which origin, and in which order its branches stand. Nothing else depends on
it: what follows a stage and who can start a quest is read off the branches in a way that does not
tell equal ones apart.

## Main definitions

* `Gate.IsSame`: a gate and one that equals it
* `SameBranches`: the same branches in another order
* `Stage.Agrees`, `Quest.Agrees`: stages and quests that differ in their branches so far only

## Main results

* `SameBranches.add_comm`: two hits in the other order
* `Quest.Agrees.build`: quests that agree still do when they are built
* `QuestLog.build_recordAll_perm`: hits in any order
-/

/-! ### Values that are there or not -/

namespace Option.Rel

variable {α β : Type} {R : α → α → Prop} {S : β → β → Prop} {x y z : Option α}

theorem refl (hR : ∀ a, R a a) (x : Option α) : Option.Rel R x x := by
  cases x with
  | none => exact .none
  | some a => exact .some (hR a)

theorem symm (hR : ∀ a b, R a b → R b a) (h : Option.Rel R x y) : Option.Rel R y x := by
  cases h with
  | none => exact .none
  | some h => exact .some (hR _ _ h)

theorem trans (hR : ∀ a b c, R a b → R b c → R a c) (h : Option.Rel R x y)
    (h' : Option.Rel R y z) : Option.Rel R x z := by
  cases h with
  | none => exact h'
  | some h =>
    cases h' with
    | some h' => exact .some (hR _ _ _ h h')

theorem map {f g : α → β} (hfg : ∀ a b, R a b → S (f a) (g b)) (h : Option.Rel R x y) :
    Option.Rel S (x.map f) (y.map g) := by
  cases h with
  | none => exact .none
  | some h => exact .some (hfg _ _ h)

theorem exists_eq_some {b : α} (h : Option.Rel R x y) (hy : y = Option.some b) :
    ∃ a, x = Option.some a ∧ R a b := by
  cases h with
  | none => cases hy
  | some h =>
    obtain rfl := Option.some.inj hy
    exact ⟨_, rfl, h⟩

end Option.Rel

namespace Questline

/-! ### Equal gates -/

namespace Gate

variable {g h i : Gate}

theorem beq_symm (hgh : (g == h) = true) : (h == g) = true := by
  have hlist (rs ss : List Requirement) (hrs : (rs == ss) = true) : (ss == rs) = true := by
    induction rs generalizing ss with
    | nil =>
      cases ss with
      | nil => rfl
      | cons s ss => contradiction
    | cons r rs ih =>
      cases ss with
      | nil => contradiction
      | cons s ss =>
        rw [List.cons_beq_cons, Bool.and_eq_true] at hrs ⊢
        exact ⟨Requirement.beq_symm hrs.1, ih ss hrs.2⟩
  exact hlist _ _ hgh

/-- What is in a gate is in an equal one, up to equality. -/
theorem exists_beq_of_beq (hgh : (g == h) = true) {r : Requirement} (hr : r ∈ g.requirements) :
    ∃ s ∈ h.requirements, (s == r) = true := by
  have hlist (rs ss : List Requirement) (hrs : (rs == ss) = true) (hr : r ∈ rs) :
      ∃ s ∈ ss, (s == r) = true := by
    induction rs generalizing ss with
    | nil => cases hr
    | cons r' rs ih =>
      cases ss with
      | nil => contradiction
      | cons s ss =>
        rw [List.cons_beq_cons, Bool.and_eq_true] at hrs
        obtain rfl | hr := List.mem_cons.1 hr
        · exact ⟨s, List.mem_cons_self, Requirement.beq_symm hrs.1⟩
        · obtain ⟨s', hs', hsr⟩ := ih ss hrs.2 hr
          exact ⟨s', List.mem_cons_of_mem s hs', hsr⟩
  exact hlist _ _ hgh hr

/-- Gates that are equal, or simply the same: one that compares with what is not a number does not
equal itself. -/
def IsSame (g h : Gate) : Prop :=
  g = h ∨ (g == h) = true

namespace IsSame

theorem refl (g : Gate) : g.IsSame g :=
  .inl rfl

theorem symm : g.IsSame h → h.IsSame g
  | .inl hgh => .inl hgh.symm
  | .inr hgh => .inr (beq_symm hgh)

theorem trans : g.IsSame h → h.IsSame i → g.IsSame i
  | .inl hgh, hhi => hgh ▸ hhi
  | hgh, .inl hhi => hhi ▸ hgh
  | .inr hgh, .inr hhi => .inr (beq_trans hgh hhi)

/-- The same gates equal the same gates. -/
theorem beq_eq (hgh : g.IsSame h) (i : Gate) : (g == i) = (h == i) := by
  obtain rfl | hgh := hgh
  · rfl
  · exact Bool.eq_iff_iff.2 ⟨beq_trans (beq_symm hgh), beq_trans hgh⟩

end IsSame

end Gate

/-! ### The same branches -/

/-- The same branches in another order, equal ones in place of each other. -/
def SameBranches (bs cs : List Gate) : Prop :=
  ∃ ds, bs.Perm ds ∧ List.Forall₂ Gate.IsSame ds cs

/-- The branches with one more, unless it is there already. -/
def addBranch (bs : List Gate) (g : Gate) : List Gate :=
  if bs.any (· == g) then bs else bs ++ [g]

section

variable {bs : List Gate} {g : Gate}

theorem addBranch_of_any (hg : bs.any (· == g) = true) : addBranch bs g = bs :=
  if_pos hg

theorem addBranch_of_not_any (hg : ¬bs.any (· == g) = true) : addBranch bs g = bs ++ [g] :=
  if_neg hg

theorem any_addBranch (hg : bs.any (· == g) = true) (h : Gate) :
    (addBranch bs h).any (· == g) = true := by
  unfold addBranch
  split
  · exact hg
  · rw [List.any_append, hg, Bool.true_or]

end

namespace SameBranches

variable {bs cs ds : List Gate} {g h : Gate}

theorem of_perm (hperm : bs.Perm cs) : SameBranches bs cs :=
  ⟨cs, hperm, List.forall₂_same.2 fun g _ => .refl g⟩

theorem refl (bs : List Gate) : SameBranches bs bs :=
  of_perm (.refl bs)

theorem symm (hbs : SameBranches bs cs) : SameBranches cs bs := by
  obtain ⟨ds, hperm, hsame⟩ := hbs
  have hflip : List.Forall₂ Gate.IsSame cs ds := (hsame.imp fun _ _ h => h.symm).flip
  have hcomp : Relation.Comp (List.Forall₂ Gate.IsSame) List.Perm cs bs := ⟨ds, hflip, hperm.symm⟩
  rwa [List.forall₂_comp_perm_eq_perm_comp_forall₂] at hcomp

theorem trans (hbs : SameBranches bs cs) (hcs : SameBranches cs ds) : SameBranches bs ds := by
  have hforall₂ {as bs cs : List Gate} (hab : List.Forall₂ Gate.IsSame as bs)
      (hbc : List.Forall₂ Gate.IsSame bs cs) : List.Forall₂ Gate.IsSame as cs := by
    induction hab generalizing cs with
    | nil => exact hbc
    | cons h _ ih =>
      cases hbc with
      | cons h' hbc => exact .cons (h.trans h') (ih hbc)
  obtain ⟨es, hperm, hsame⟩ := hbs
  obtain ⟨fs, hperm', hsame'⟩ := hcs
  -- the second reordering is done before the first replacement
  have hcomp : Relation.Comp (List.Forall₂ Gate.IsSame) List.Perm es fs := ⟨cs, hsame, hperm'⟩
  rw [List.forall₂_comp_perm_eq_perm_comp_forall₂] at hcomp
  obtain ⟨gs, hperm'', hsame''⟩ := hcomp
  exact ⟨gs, hperm.trans hperm'', hforall₂ hsame'' hsame'⟩

theorem append (hbs : SameBranches bs cs) (hgh : g.IsSame h) :
    SameBranches (bs ++ [g]) (cs ++ [h]) := by
  obtain ⟨ds, hperm, hsame⟩ := hbs
  exact ⟨ds ++ [g], hperm.append_right [g], List.rel_append hsame (.cons hgh .nil)⟩

/-- The same branches equal the same gates. -/
theorem any_beq (hbs : SameBranches bs cs) (g : Gate) : bs.any (· == g) = cs.any (· == g) := by
  obtain ⟨ds, hperm, hsame⟩ := hbs
  rw [hperm.any_eq]
  clear hperm
  induction hsame with
  | nil => rfl
  | cons h _ ih => rw [List.any_cons, List.any_cons, h.beq_eq, ih]

theorem exists_mem (hbs : SameBranches bs cs) (hg : g ∈ bs) : ∃ h ∈ cs, g.IsSame h := by
  obtain ⟨ds, hperm, hsame⟩ := hbs
  rw [hperm.mem_iff] at hg
  clear hperm
  induction hsame with
  | nil => cases hg
  | cons h _ ih =>
    obtain rfl | hg := List.mem_cons.1 hg
    · exact ⟨_, List.mem_cons_self, h⟩
    · obtain ⟨k, hk, hgk⟩ := ih hg
      exact ⟨k, List.mem_cons_of_mem _ hk, hgk⟩

theorem add (hbs : SameBranches bs cs) (g : Gate) :
    SameBranches (addBranch bs g) (addBranch cs g) := by
  rw [addBranch, addBranch, hbs.any_beq]
  split
  · exact hbs
  · exact hbs.append (.refl g)

/-- Two hits in the other order give the same branches. -/
theorem add_comm (bs : List Gate) (g h : Gate) :
    SameBranches (addBranch (addBranch bs g) h) (addBranch (addBranch bs h) g) := by
  have hthere {g : Gate} (hg : bs.any (· == g) = true) (h : Gate) :
      addBranch (addBranch bs g) h = addBranch (addBranch bs h) g := by
    rw [addBranch_of_any hg, addBranch_of_any (any_addBranch hg h)]
  by_cases hg : bs.any (· == g) = true
  · rw [hthere hg]
    exact refl _
  · by_cases hh : bs.any (· == h) = true
    · rw [hthere hh]
      exact refl _
    · rw [addBranch_of_not_any hg, addBranch_of_not_any hh]
      by_cases hgh : (g == h) = true
      -- of two equal gates the first one is kept
      · have hhg : (h == g) = true := Gate.beq_symm hgh
        rw [addBranch_of_any (by simp [hgh]), addBranch_of_any (by simp [hhg])]
        exact (refl bs).append (.inr hgh)
      · have hhg : ¬(h == g) = true := mt Gate.beq_symm hgh
        rw [addBranch_of_not_any (by simpa [hgh] using hh),
          addBranch_of_not_any (by simpa [hhg] using hg), List.append_assoc, List.append_assoc]
        exact of_perm ((List.Perm.swap h g []).append_left bs)

end SameBranches

/-! ### Stages -/

namespace Stage

variable {s t u : Stage} {g h : Gate} {o p : Origin}

/-- Stages that differ in their branches and origins only, and have the same branches. -/
structure Agrees (s t : Stage) : Prop where
  eq : t = { s with branches := t.branches, origins := t.origins }
  branches : SameBranches s.branches t.branches

/-- The stage with one more branch, unless it has the branch already. -/
def add (s : Stage) (g : Gate) (o : Origin) : Stage :=
  (s.addBranch? g o).getD s

theorem branches_add (s : Stage) (g : Gate) (o : Origin) :
    (s.add g o).branches = addBranch s.branches g := by
  rw [add, addBranch?, addBranch]
  split <;> rfl

theorem add_eq (s : Stage) (g : Gate) (o : Origin) :
    s.add g o = { s with branches := (s.add g o).branches, origins := (s.add g o).origins } := by
  rw [add, addBranch?]
  split <;> rfl

namespace Agrees

theorem refl (s : Stage) : s.Agrees s :=
  ⟨rfl, .refl _⟩

theorem trans (hst : s.Agrees t) (htu : t.Agrees u) : s.Agrees u where
  eq := by
    rw [htu.eq, hst.eq]
  branches := hst.branches.trans htu.branches

theorem add (hst : s.Agrees t) (g : Gate) (o : Origin) : (s.add g o).Agrees (t.add g o) where
  eq := by
    rw [t.add_eq, s.add_eq, hst.eq]
  branches := by
    rw [branches_add, branches_add]
    exact hst.branches.add g

theorem add_comm (s : Stage) (g h : Gate) (o p : Origin) :
    ((s.add g o).add h p).Agrees ((s.add h p).add g o) where
  eq := by
    rw [(s.add h p).add_eq, (s.add g o).add_eq, s.add_eq h, s.add_eq g]
  branches := by
    rw [branches_add, branches_add, branches_add, branches_add]
    exact .add_comm s.branches g h

/-- What some requirement of a stage is like, if it does not tell equal ones apart, some
requirement of the other stage is like. -/
theorem exists_requirement (hst : s.Agrees t) {P : Requirement → Prop}
    (hP : ∀ r r', (r' == r) = true → P r → P r') (h : ∃ r ∈ s.requirements, P r) :
    ∃ r ∈ t.requirements, P r := by
  obtain ⟨r, hr, hPr⟩ := h
  obtain ⟨g, hg, hrg⟩ := mem_requirements_iff.1 hr
  obtain ⟨k, hk, rfl | hgk⟩ := hst.branches.exists_mem hg
  · exact ⟨r, mem_requirements_iff.2 ⟨g, hk, hrg⟩, hPr⟩
  · obtain ⟨r', hr', hrr⟩ := Gate.exists_beq_of_beq hgk hrg
    exact ⟨r', mem_requirements_iff.2 ⟨k, hk, hr'⟩, hP r r' hrr hPr⟩

theorem symm (hst : s.Agrees t) : t.Agrees s where
  eq := by
    rw [hst.eq]
  branches := hst.branches.symm

theorem asksFor (hst : s.Agrees t) {quest : String} {index : Int} (h : s.AsksFor quest index) :
    t.AsksFor quest index := by
  obtain ⟨g, hg, r, hr, hasks⟩ := h
  obtain ⟨r', hr', hasks'⟩ := hst.exists_requirement (P := (·.AsksFor quest index))
    (fun _ _ => .congr) ⟨r, mem_requirements_iff.2 ⟨g, hg, hr⟩, hasks⟩
  obtain ⟨g', hg', hr'⟩ := mem_requirements_iff.1 hr'
  exact ⟨g', hg', r', hr', hasks'⟩

theorem asksChoice (hst : s.Agrees t) (h : s.AsksChoice) : t.AsksChoice := by
  obtain ⟨g, hg, r, hr, hchoice⟩ := h
  obtain ⟨r', hr', hchoice'⟩ := hst.exists_requirement (P := (·.kind = .choice))
    (fun _ _ heq hkind => (Requirement.beq_iff.1 heq).1.trans hkind)
    ⟨r, mem_requirements_iff.2 ⟨g, hg, hr⟩, hchoice⟩
  obtain ⟨g', hg', hr'⟩ := mem_requirements_iff.1 hr'
  exact ⟨g', hg', r', hr', hchoice'⟩

end Agrees

end Stage

/-! ### Quests -/

/-- Stages that agree follow each other in the same way. -/
theorem Follows.congr {quest : String} {stages stages' : Int → Option Stage} {i j : Int}
    (hrel : ∀ k, Option.Rel Stage.Agrees (stages k) (stages' k)) (h : Follows quest stages i j) :
    Follows quest stages' i j := by
  have hback (k : Int) : Option.Rel Stage.Agrees (stages' k) (stages k) :=
    (hrel k).symm fun _ _ => .symm
  obtain ⟨s, t, hs, ht, hlt, hlink⟩ := h
  obtain ⟨s', hs', hss⟩ := (hback i).exists_eq_some hs
  obtain ⟨t', ht', htt⟩ := (hback j).exists_eq_some ht
  refine ⟨s', t', hs', ht', hlt, ?_⟩
  obtain hasks | ⟨hchoice, hplain, hbetween⟩ := hlink
  · exact .inl (htt.symm.asksFor hasks)
  · refine .inr ⟨htt.symm.asksChoice hchoice, fun h => hplain (hss.asksChoice h), ?_⟩
    intro k u' hu' hik hkj
    obtain ⟨u, hu, huu⟩ := (hrel k).exists_eq_some hu'
    exact huu.asksChoice (hbetween k u hu hik hkj)

namespace Quest

variable {q q' q'' : Quest} {me : String}

/-- Quests that differ in the branches of their stages only, with stages that agree. -/
structure Agrees (q q' : Quest) : Prop where
  id_eq : q'.id = q.id
  name_eq : q'.name = q.name
  givers_eq : q'.givers = q.givers
  stages (i : Int) : Option.Rel Stage.Agrees q.stages[i]? q'.stages[i]?

/-- The quest with one more branch of a stage, if it has the stage. -/
def hit (q : Quest) (i : Int) (g : Gate) (o : Origin) : Quest :=
  { q with stages := q.stages.modify i (·.add g o) }

theorem getElem?_hit (q : Quest) (i k : Int) (g : Gate) (o : Origin) :
    (q.hit i g o).stages[k]? =
      if i = k then (q.stages[k]?).map (·.add g o) else q.stages[k]? := by
  rw [hit, Std.ExtTreeMap.getElem?_modify]
  by_cases h : i = k
  · rw [if_pos (Std.LawfulEqCmp.compare_eq_iff_eq.2 h), if_pos h, h]
  · rw [if_neg (mt Std.LawfulEqCmp.compare_eq_iff_eq.1 h), if_neg h]

/-- A hit that gives no new branch changes nothing. -/
theorem hit_eq_self {i : Int} {g : Gate} {o : Origin}
    (h : (q.stages[i]?).bind (·.addBranch? g o) = none) : q.hit i g o = q := by
  have hstages : (q.hit i g o).stages = q.stages := by
    refine Std.ExtTreeMap.ext_getElem? fun k => ?_
    rw [getElem?_hit]
    split
    · next hk =>
      subst hk
      cases hs : q.stages[i]? with
      | none => rfl
      | some s =>
        rw [hs, Option.bind_some] at h
        rw [Option.map_some, Stage.add, h, Option.getD_none]
    · rfl
  rw [hit] at hstages ⊢
  dsimp only at hstages
  rw [hstages]

theorem hit_eq_insert {i : Int} {s t : Stage} {g : Gate} {o : Origin}
    (hs : q.stages[i]? = some s) (ht : s.addBranch? g o = some t) :
    q.hit i g o = { q with stages := q.stages.insert i t } := by
  have hstages : (q.hit i g o).stages = q.stages.insert i t := by
    refine Std.ExtTreeMap.ext_getElem? fun k => ?_
    rw [getElem?_hit, Std.ExtTreeMap.getElem?_insert]
    by_cases hk : i = k
    · subst hk
      rw [if_pos rfl, if_pos Std.ReflCmp.compare_self, hs, Option.map_some, Stage.add, ht,
        Option.getD_some]
    · rw [if_neg hk, if_neg (mt Std.LawfulEqCmp.compare_eq_iff_eq.1 hk)]
  rw [hit] at hstages ⊢
  dsimp only at hstages
  rw [hstages]

namespace Agrees

theorem refl (q : Quest) : q.Agrees q :=
  ⟨rfl, rfl, rfl, fun _ => .refl .refl _⟩

theorem symm (h : q.Agrees q') : q'.Agrees q :=
  ⟨h.id_eq.symm, h.name_eq.symm, h.givers_eq.symm, fun i => (h.stages i).symm fun _ _ => .symm⟩

theorem trans (h : q.Agrees q') (h' : q'.Agrees q'') : q.Agrees q'' :=
  ⟨h'.id_eq.trans h.id_eq, h'.name_eq.trans h.name_eq, h'.givers_eq.trans h.givers_eq,
    fun i => (h.stages i).trans (fun _ _ _ => .trans) (h'.stages i)⟩

theorem hit (h : q.Agrees q') (i : Int) (g : Gate) (o : Origin) :
    (q.hit i g o).Agrees (q'.hit i g o) := by
  refine ⟨h.id_eq, h.name_eq, h.givers_eq, fun k => ?_⟩
  rw [getElem?_hit, getElem?_hit]
  split
  · exact (h.stages k).map fun _ _ hst => hst.add g o
  · exact h.stages k

theorem hit_comm (q : Quest) (i j : Int) (g h : Gate) (o p : Origin) :
    ((q.hit i g o).hit j h p).Agrees ((q.hit j h p).hit i g o) := by
  refine ⟨rfl, rfl, rfl, fun k => ?_⟩
  simp only [getElem?_hit]
  by_cases hi : i = k <;> by_cases hj : j = k
  · rw [if_pos hi, if_pos hi, if_pos hj, if_pos hj]
    cases q.stages[k]? with
    | none => exact .none
    | some s => exact .some (.add_comm s g h o p)
  · simp only [if_pos hi, if_neg hj]
    exact .refl .refl _
  · simp only [if_neg hi, if_pos hj]
    exact .refl .refl _
  · simp only [if_neg hi, if_neg hj]
    exact .refl .refl _

theorem size_eq (h : q.Agrees q') : q'.stages.size = q.stages.size := by
  have hkeys : (q'.stages.map fun _ _ => ()) = q.stages.map fun _ _ => () := by
    refine Std.ExtTreeMap.ext_getElem? fun i => ?_
    have hstage := h.stages i
    rw [Std.ExtTreeMap.getElem?_map, Std.ExtTreeMap.getElem?_map]
    generalize q.stages[i]? = x, q'.stages[i]? = y at hstage
    cases hstage <;> rfl
  rw [← Std.ExtTreeMap.size_map (f := fun (_ : Int) (_ : Stage) => ()), hkeys,
    Std.ExtTreeMap.size_map]

theorem isFirst (h : q.Agrees q') {i : Int} {s : Stage} (hs : q.IsFirst i s) :
    ∃ s', q'.IsFirst i s' ∧ s.Agrees s' := by
  obtain ⟨s', hs', hss⟩ := (h.symm.stages i).exists_eq_some hs.stage_eq
  refine ⟨s', ⟨hs', fun j t' ht' => ?_⟩, hss.symm⟩
  obtain ⟨t, ht, -⟩ := (h.stages j).exists_eq_some ht'
  exact hs.le j t ht

/-- Quests that agree can be started by the same objects. -/
theorem mem_givers (h : q.Agrees q') {k : String} (hk : k ∈ (q.inferGivers me).givers) :
    k ∈ (q'.inferGivers me).givers := by
  by_cases hsize : q.stages.size < 2
  · rw [givers_inferGivers_of_lt hsize] at hk
    rwa [givers_inferGivers_of_lt (h.size_eq ▸ hsize), h.givers_eq]
  · rw [mem_givers_inferGivers (Nat.not_lt.1 hsize)] at hk
    obtain ⟨i, s, hs, habout⟩ := hk
    obtain ⟨s', hs', hss⟩ := h.isFirst hs
    rw [mem_givers_inferGivers (h.size_eq ▸ Nat.not_lt.1 hsize)]
    exact ⟨i, s', hs', hss.exists_requirement (fun _ _ => .congr) habout⟩

theorem inferGivers (h : q.Agrees q') (me : String) :
    (q.inferGivers me).Agrees (q'.inferGivers me) where
  id_eq := by
    unfold Quest.inferGivers
    rw [h.size_eq]
    split <;> exact h.id_eq
  name_eq := by
    unfold Quest.inferGivers
    rw [h.size_eq]
    split <;> exact h.name_eq
  givers_eq := Std.ExtTreeSet.ext_mem fun _ => ⟨h.symm.mem_givers, h.mem_givers⟩
  stages i := by
    rw [QuestLog.stages_inferGivers, QuestLog.stages_inferGivers]
    exact h.stages i

/-- The stages of quests that agree are linked in the same way. -/
theorem mem_following (h : q.Agrees q') {i j : Int} (hj : j ∈ following q.links i) :
    j ∈ following q'.links i := by
  rw [mem_following_iff, mem_links_iff] at hj ⊢
  rw [h.id_eq]
  exact hj.congr h.stages

theorem linkStages (h : q.Agrees q') : q.linkStages.Agrees q'.linkStages := by
  refine ⟨h.id_eq, h.name_eq, h.givers_eq, fun i => ?_⟩
  rw [getElem?_linkStages, getElem?_linkStages]
  refine (h.stages i).map fun s t hst => ⟨?_, hst.branches⟩
  have hnext : t.next.insertMany (following q'.links i) =
      s.next.insertMany (following q.links i) := by
    refine Std.ExtTreeSet.ext_mem fun j => ?_
    have hlinks : j ∈ following q'.links i ↔ j ∈ following q.links i :=
      ⟨h.symm.mem_following, h.mem_following⟩
    rw [Std.ExtTreeSet.mem_insertMany_list, Std.ExtTreeSet.mem_insertMany_list,
      List.contains_iff_mem, List.contains_iff_mem, hlinks, hst.eq]
  rw [hnext, hst.eq]

/-- Quests that agree still do when they are built. -/
theorem build (h : q.Agrees q') (me : String) :
    (q.linkStages.inferGivers me).Agrees (q'.linkStages.inferGivers me) :=
  h.linkStages.inferGivers me

end Agrees

end Quest

namespace QuestLog

variable {l l' l'' : QuestLog} {hs hs' : List Hit}

/-- Logs of the same player whose quests agree. -/
structure Agrees (l l' : QuestLog) : Prop where
  player_eq : l'.player = l.player
  quests (id : String) : Option.Rel Quest.Agrees l.quests[id]? l'.quests[id]?

/-- A hit gives one stage of one quest a branch. -/
theorem getElem?_add (l : QuestLog) (h : Hit) (id : String) : (l.add h).quests[id]? =
    if h.quest.toLower = id then (l.quests[id]?).map (·.hit h.index h.gate h.origin)
    else l.quests[id]? := by
  rw [add]
  obtain ⟨hl, hnone⟩ | ⟨q, s, t, hq, hs, ht, hl⟩ :=
    addHit_cases l h.quest h.index h.gate h.origin
  · rw [hl]
    split
    · next hid =>
      subst hid
      cases hq : l.quests[h.quest.toLower]? with
      | none => rfl
      | some q =>
        rw [stageOf?, hq, Option.bind_some] at hnone
        rw [Option.map_some, Quest.hit_eq_self hnone]
    · rfl
  · rw [hl, Std.ExtTreeMap.getElem?_insert]
    by_cases hid : h.quest.toLower = id
    · subst hid
      rw [if_pos Std.ReflCmp.compare_self, if_pos rfl, hq, Option.map_some,
        Quest.hit_eq_insert hs ht]
    · rw [if_neg (mt Std.LawfulEqCmp.compare_eq_iff_eq.1 hid), if_neg hid]

namespace Agrees

theorem refl (l : QuestLog) : l.Agrees l :=
  ⟨rfl, fun _ => .refl .refl _⟩

theorem trans (h : l.Agrees l') (h' : l'.Agrees l'') : l.Agrees l'' :=
  ⟨h'.player_eq.trans h.player_eq, fun id => (h.quests id).trans (fun _ _ _ => .trans) (h'.quests id)⟩

theorem add (h : l.Agrees l') (hit : Hit) : (l.add hit).Agrees (l'.add hit) where
  player_eq := by
    rw [player_add, player_add, h.player_eq]
  quests id := by
    rw [getElem?_add, getElem?_add]
    split
    · exact (h.quests id).map fun _ _ hq => hq.hit hit.index hit.gate hit.origin
    · exact h.quests id

/-- Two hits in the other order. -/
theorem add_comm (l : QuestLog) (h h' : Hit) :
    ((l.add h).add h').Agrees ((l.add h').add h) where
  player_eq := by
    simp only [player_add]
  quests id := by
    simp only [getElem?_add]
    by_cases hid : h.quest.toLower = id <;> by_cases hid' : h'.quest.toLower = id
    · rw [if_pos hid, if_pos hid, if_pos hid', if_pos hid']
      cases l.quests[id]? with
      | none => exact .none
      | some q =>
        exact .some (.hit_comm q h.index h'.index h.gate h'.gate h.origin h'.origin)
    · simp only [if_pos hid, if_neg hid']
      exact .refl .refl _
    · simp only [if_neg hid, if_pos hid']
      exact .refl .refl _
    · simp only [if_neg hid, if_neg hid']
      exact .refl .refl _

theorem foldl_add (h : l.Agrees l') (hs : List Hit) :
    (hs.foldl QuestLog.add l).Agrees (hs.foldl QuestLog.add l') := by
  induction hs generalizing l l' with
  | nil => exact h
  | cons hit hs ih => exact ih (h.add hit)

/-- The same hits in another order. -/
theorem foldl_add_perm (l : QuestLog) (h : hs.Perm hs') :
    (hs.foldl QuestLog.add l).Agrees (hs'.foldl QuestLog.add l) := by
  induction h generalizing l with
  | nil => exact refl l
  | cons hit _ ih => exact ih (l.add hit)
  | swap hit hit' hs => exact (add_comm l hit' hit).foldl_add hs
  | trans _ _ ih ih' => exact (ih l).trans (ih' l)

end Agrees

/-- In whichever order hits are found, the quests that are built have the same names, stages and
givers, and the same stages come next after each of them. Their branches are the same up to their
order and up to which of several equal ones is kept. -/
theorem build_recordAll_perm (player : String) (es : List LogEntry) (h : hs.Perm hs')
    (id : String) :
    let l := ({ player } : QuestLog).recordAll es
    Option.Rel Quest.Agrees (l.recordAll (hs.map .hit)).build[id]?
      (l.recordAll (hs'.map .hit)).build[id]? := by
  intro l
  have hagree := Agrees.foldl_add_perm l h
  rw [recordAll_hits, recordAll_hits, build, build, Std.ExtTreeMap.getElem?_map,
    Std.ExtTreeMap.getElem?_map, hagree.player_eq]
  exact (hagree.quests id).map fun _ _ hq => hq.build _

/-- A journal with two stages. -/
def errand : Topic where
  id := "Errand"
  kind := .journal
  responses := [{ id := "1", index := some 10 }, { id := "2", index := some 20 }]

/-- Two equal ways to reach the second stage, found in different places: they ask for the first
stage. -/
def errandHits : List Hit :=
  let asked (raw : String) : Requirement :=
    { kind := .journal, comparison := .greaterOrEqual, value := some 10.0, operand := some "errand",
      raw := some raw }
  [⟨"errand", 20, { requirements := [asked "Journal Errand >= 10"] }, .script "baker"⟩,
    ⟨"ERRAND", 20, { requirements := [asked "journal errand >= 10.0"] }, .script "smith"⟩]

/-- The quests of the errand, after some hits. -/
def errandQuests (hs : List Hit) : Std.ExtTreeMap String Quest :=
  ((({} : QuestLog).recordAll [.topic errand]).recordAll (hs.map .hit)).build

theorem errandHits_build_recordAll_perm :
    errandHits.Perm errandHits.reverse ∧
      errandHits.Pairwise (fun h h' => (h.gate == h'.gate) = true ∧ h.origin ≠ h'.origin) ∧
      (stageOf? (errandQuests []) "errand" 20).isSome = true ∧
      Option.Rel Quest.Agrees (errandQuests errandHits)["errand"]?
        (errandQuests errandHits.reverse)["errand"]? := by
  have hperm : errandHits.Perm errandHits.reverse := (List.reverse_perm _).symm
  have hagree : Option.Rel Quest.Agrees (errandQuests errandHits)["errand"]?
      (errandQuests errandHits.reverse)["errand"]? :=
    build_recordAll_perm Questline.player [.topic errand] hperm "errand"
  exact ⟨hperm, by decide +kernel, by decide +kernel, hagree⟩

end QuestLog

end Questline
