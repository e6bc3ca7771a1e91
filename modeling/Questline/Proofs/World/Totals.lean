import Questline.Proofs.World.Registry

/-!
# What the total of an object depends on

An estimate of how many there are of an object looks one step back: at what contains the object, and
at how often that is placed. It does not look at what contains those, at what else they contain, or
at things that carry nothing, such as scripts. It reads no totals, so that it makes no difference
whether there are some already.

## Main definitions

* `Registry.IsCarrier`: the objects that carry what they contain
* `Registry.standing?`: what an object is and how often it is placed
* `Fact.carried?`: how many copies an object carries, by what was told

## Main results

* `Registry.carriedBy?_congr`, `Registry.totalOf_congr`: what a total depends on
* `Registry.getElem?_withTotals`: only totals are changed
* `Registry.Recounts.total_eq`: the totals of a registry that was told facts
* `Registry.withTotals_one_hop`: totals of two registries, and totals once more
-/

namespace Questline

namespace Fact

/-- How often some facts say that the object `k` is placed. -/
def placements (k : String) (facts : List Fact) : Nat :=
  (facts.filterMap (·.placed? k)).foldl (· + ·) 0

/-- How many copies the placed instances of the object `k` carry on an edge, by what some facts say of
it; only an owner or a generic object carries any. -/
def carried? (k : String) (e : Edge) (facts : List Fact) : Option Float :=
  let kind := ObjectKind.settle (facts.filterMap (·.kindOf? k))
  if kind = .owner ∨ kind = .object then some (Float.ofNat (placements k facts) * e.weighted)
  else none

end Fact

namespace Registry

variable {w w' : Registry} {k source : String} {o o' : WorldObject}

/-- The object `source` is known, and as an owner or a generic object carries what it contains. -/
def IsCarrier (w : Registry) (source : String) : Prop :=
  ∃ s, w.objects[source]? = some s ∧ (s.kind = .owner ∨ s.kind = .object)

/-- What an object is, and how often it is placed in the world. -/
def standing? (w : Registry) (id : String) : Option (ObjectKind × Nat) :=
  (w.objects[id]?).map fun o => (o.kind, o.positions)

theorem carriedBy?_eq (w : Registry) (source : String) (e : Edge) : w.carriedBy? source e =
    (w.standing? source).bind fun s =>
      if s.1 = .owner ∨ s.1 = .object then some (Float.ofNat s.2 * e.weighted) else none := by
  rw [carriedBy?, standing?, Option.bind_map]
  rfl

theorem carriedBy?_of_not_isCarrier (h : ¬w.IsCarrier source) (e : Edge) :
    w.carriedBy? source e = none := by
  rw [carriedBy?, Option.bind_eq_none_iff]
  intro s hs
  exact if_neg fun hkind => h ⟨s, hs, hkind⟩

/-- What is carried by an object depends on what it is and on how often it is placed, and on neither
of these if it carries nothing. -/
theorem carriedBy?_congr
    (h : w.IsCarrier source ∨ w'.IsCarrier source → w.standing? source = w'.standing? source)
    (e : Edge) : w.carriedBy? source e = w'.carriedBy? source e := by
  by_cases hcarrier : w.IsCarrier source ∨ w'.IsCarrier source
  · rw [carriedBy?_eq, carriedBy?_eq, h hcarrier]
  · rw [not_or] at hcarrier
    rw [carriedBy?_of_not_isCarrier hcarrier.1, carriedBy?_of_not_isCarrier hcarrier.2]

theorem mem_containedIn_of_mem_toList {p : String × Edge} (h : p ∈ o.containedIn.toList) :
    p.1 ∈ o.containedIn := by
  rw [Std.ExtTreeMap.mem_iff_isSome_getElem?, Std.ExtTreeMap.mem_toList_iff_getElem?_eq_some.1 h,
    Option.isSome_some]

/-- The total of an object depends on how often it is placed, on what contains it, and on what is
carried by that. -/
theorem totalOf_congr (hpositions : o.positions = o'.positions)
    (hcontained : o.containedIn = o'.containedIn)
    (h : ∀ source ∈ o.containedIn, ∀ e, w.carriedBy? source e = w'.carriedBy? source e) :
    w.totalOf o = w'.totalOf o' := by
  have hcarried : (o.containedIn.toList.filterMap fun p => w.carriedBy? p.1 p.2) =
      o'.containedIn.toList.filterMap fun p => w'.carriedBy? p.1 p.2 := by
    rw [← hcontained]
    exact List.filterMap_congr fun p hp => h p.1 (mem_containedIn_of_mem_toList hp) p.2
  exact congrArg₂ (fun n cs => Float.ofNat n + List.foldl (· + ·) 0.0 cs) hpositions hcarried

/-- Of every object only the total is changed. -/
theorem getElem?_withTotals (w : Registry) (k : String) : w.withTotals.objects[k]? =
    (w.objects[k]?).map fun o => { o with total := w.totalOf o } :=
  Std.ExtTreeMap.getElem?_map

theorem standing?_withTotals (w : Registry) (id : String) :
    w.withTotals.standing? id = w.standing? id := by
  rw [standing?, getElem?_withTotals, Option.map_map]
  rfl

theorem totalOf_withTotals (w : Registry) (o : WorldObject) (total : Float) :
    w.withTotals.totalOf { o with total } = w.totalOf o :=
  totalOf_congr rfl rfl fun source _ =>
    carriedBy?_congr fun _ => w.standing?_withTotals source

/-- Totals that are there make no difference to totals. -/
theorem withTotals_withTotals (w : Registry) : w.withTotals.withTotals = w.withTotals := by
  have hobjects : w.withTotals.withTotals.objects = w.withTotals.objects := by
    refine Std.ExtTreeMap.ext_getElem? fun k => ?_
    rw [getElem?_withTotals, getElem?_withTotals, Option.map_map]
    refine Option.map_congr fun o _ => ?_
    rw [Function.comp_apply, totalOf_withTotals]
  exact congrArg Registry.mk hobjects

/-! ### Registries that were told facts -/

section

variable {facts facts' : List Fact}

theorem Recounts.exists_object (hw : w.Recounts facts) (h : ∃ f ∈ facts, k ∈ f.ids) :
    ∃ o, w.objects[k]? = some o :=
  Option.isSome_iff_exists.1 (Std.ExtTreeMap.mem_iff_isSome_getElem?.1 ((hw.mem_objects k).2 h))

theorem Recounts.standing?_eq (hw : w.Recounts facts) (h : ∃ f ∈ facts, k ∈ f.ids) :
    w.standing? k =
      some (ObjectKind.settle (facts.filterMap (·.kindOf? k)), Fact.placements k facts) := by
  obtain ⟨o, ho⟩ := hw.exists_object h
  rw [standing?, ho, Option.map_some, (hw.object ho).kind, (hw.object ho).positions,
    Fact.placements]

theorem Recounts.kind_of_isCarrier (hw : w.Recounts facts) (h : w.IsCarrier k) :
    ObjectKind.settle (facts.filterMap (·.kindOf? k)) = .owner ∨
      ObjectKind.settle (facts.filterMap (·.kindOf? k)) = .object := by
  obtain ⟨o, ho, hkind⟩ := h
  rwa [(hw.object ho).kind] at hkind

/-- What contains an object was linked with it. -/
theorem Recounts.copies?_of_mem_containedIn (hw : w.Recounts facts) (ho : w.objects[k]? = some o)
    (h : source ∈ o.containedIn) : ∃ f ∈ facts, (f.copies? source k).isSome := by
  rw [Std.ExtTreeMap.mem_iff_isSome_getElem?, (hw.object ho).containedIn,
    Edge.isSome_ofCopies?] at h
  obtain ⟨c, hc⟩ := List.exists_mem_of_ne_nil _ h
  obtain ⟨f, hf, hfc⟩ := List.mem_filterMap.1 hc
  exact ⟨f, hf, Option.isSome_of_eq_some hfc⟩

/-- How many there are of an object by what was told: as many as were placed, and what is carried by
each of the things that contain it. -/
theorem Recounts.total_eq (hw : w.Recounts facts) (ho : w.objects[k]? = some o) :
    w.totalOf o = Float.ofNat (Fact.placements k facts) +
      (o.containedIn.toList.filterMap fun p => Fact.carried? p.1 p.2 facts).foldl (· + ·) 0.0 := by
  have hcarried : (o.containedIn.toList.filterMap fun p => w.carriedBy? p.1 p.2) =
      o.containedIn.toList.filterMap fun p => Fact.carried? p.1 p.2 facts := by
    refine List.filterMap_congr fun p hp => ?_
    obtain ⟨f, hf, hcopies⟩ :=
      hw.copies?_of_mem_containedIn ho (mem_containedIn_of_mem_toList hp)
    have hnamed : p.1 ∈ f.ids := by
      by_contra hnot
      rw [Fact.copies?_eq_none (.inl hnot)] at hcopies
      contradiction
    rw [carriedBy?_eq, hw.standing?_eq ⟨f, hf, hnamed⟩, Option.bind_some, Fact.carried?]
  have htotal : w.totalOf o = Float.ofNat o.positions +
      (o.containedIn.toList.filterMap fun p => w.carriedBy? p.1 p.2).foldl (· + ·) 0.0 := rfl
  rw [htotal, hcarried, (hw.object ho).positions, Fact.placements]

/-- Facts that do not name an object do not say what contains it. -/
theorem Recounts.containedIn_append (hw : w.Recounts facts)
    (hw' : w'.Recounts (facts ++ facts')) (h : ∀ f ∈ facts', k ∉ f.ids)
    (ho : w.objects[k]? = some o) (ho' : w'.objects[k]? = some o') :
    o.containedIn = o'.containedIn := by
  refine Std.ExtTreeMap.ext_getElem? fun source => ?_
  have hnone : facts'.filterMap (·.copies? source k) = [] :=
    List.filterMap_eq_nil_iff.2 fun f hf => Fact.copies?_eq_none (.inr (h f hf))
  rw [(hw.object ho).containedIn, (hw'.object ho').containedIn, List.filterMap_append, hnone,
    List.append_nil]

end

/-- Two registries, whatever they were told, give an object the same total if it is placed equally
often in both, the same things contain it, and those of them that carry something in one of the two
are of the same kind in both and placed equally often. The total adds up how often the object was
said to be placed and what is carried by each of the owners and generic objects that contain it. In
every registry nothing but totals is changed, and it changes nothing to do it once more. -/
theorem withTotals_one_hop :
    (∀ (w w' : Registry) (k : String) (o o' : WorldObject),
      w.objects[k]? = some o → w'.objects[k]? = some o' →
      o.positions = o'.positions → o.containedIn = o'.containedIn →
      (∀ source ∈ o.containedIn, w.IsCarrier source ∨ w'.IsCarrier source →
        w.standing? source = w'.standing? source) →
      ∃ total, (w.withTotals.objects[k]?).map (·.total) = some total ∧
        (w'.withTotals.objects[k]?).map (·.total) = some total) ∧
    (∀ (facts : List Fact) (k : String) (o : WorldObject),
      let w := ({} : Registry).tellAll facts
      w.objects[k]? = some o →
      (w.withTotals.objects[k]?).map (·.total) = some (Float.ofNat (Fact.placements k facts) +
        (o.containedIn.toList.filterMap fun p => Fact.carried? p.1 p.2 facts).foldl (· + ·) 0.0)) ∧
    (∀ (w : Registry) (k : String),
      (w.withTotals.objects[k]?).map (fun o => { o with total := 0.0 }) =
        (w.objects[k]?).map fun o => { o with total := 0.0 }) ∧
    ∀ w : Registry, w.withTotals.withTotals = w.withTotals := by
  refine ⟨fun w w' k o o' ho ho' hpositions hcontained h => ?_,
    ?_, fun w k => ?_, withTotals_withTotals⟩
  · have htotal : w.totalOf o = w'.totalOf o' := totalOf_congr hpositions hcontained
      fun source hsource => carriedBy?_congr (h source hsource)
    refine ⟨w.totalOf o, ?_, ?_⟩
    · rw [getElem?_withTotals, ho]
      rfl
    · rw [getElem?_withTotals, ho', htotal]
      rfl
  · intro facts k o w ho
    rw [getElem?_withTotals, ho, ← (recounts_tellAll facts).total_eq ho]
    rfl
  · rw [getElem?_withTotals, Option.map_map]
    rfl

/-- A sword lies in a chest, and a script of the smithy hands one out. -/
def armoury : List Fact :=
  [.kind "Chest" .owner, .placement "Chest" 2, .link "chest" "Sword" 3 0.5,
    .kind "Smithy" .script, .link "smithy" "sword" 1 1.0, .placement "sword" 1]

/-- What is told besides: the script is placed, and the chest holds gold and lies in crates. -/
def armouryStores : List Fact :=
  [.placement "smithy" 7, .link "Chest" "gold" 100 1.0, .placement "Crate" 9,
    .link "crate" "chest" 4 1.0]

theorem armoury_withTotals_one_hop :
    ∃ (w w' : Registry) (o o' : WorldObject),
      w = ({} : Registry).tellAll armoury ∧ w' = ({} : Registry).tellAll (armoury ++ armouryStores) ∧
      w.objects["sword"]? = some o ∧ w'.objects["sword"]? = some o' ∧
      o.positions = o'.positions ∧ o.containedIn = o'.containedIn ∧
      (∀ source ∈ o.containedIn, w.IsCarrier source ∨ w'.IsCarrier source →
        w.standing? source = w'.standing? source) ∧
      w.standing? "smithy" ≠ w'.standing? "smithy" ∧
      ∃ total, (w.withTotals.objects["sword"]?).map (·.total) = some total ∧
        (w'.withTotals.objects["sword"]?).map (·.total) = some total := by
  obtain ⟨w, hdef⟩ : ∃ w, w = ({} : Registry).tellAll armoury := ⟨_, rfl⟩
  obtain ⟨w', hdef'⟩ : ∃ w', w' = ({} : Registry).tellAll (armoury ++ armouryStores) := ⟨_, rfl⟩
  have hw : w.Recounts armoury := hdef ▸ recounts_tellAll armoury
  have hw' : w'.Recounts (armoury ++ armouryStores) := hdef' ▸ recounts_tellAll _
  obtain ⟨o, ho⟩ := hw.exists_object (k := "sword") (by decide +kernel)
  obtain ⟨o', ho'⟩ := hw'.exists_object (k := "sword") (by decide +kernel)
  have hpositions : o.positions = o'.positions := by
    rw [(hw.object ho).positions, (hw'.object ho').positions]
    decide +kernel
  have hcontained : o.containedIn = o'.containedIn :=
    hw.containedIn_append hw' (by decide +kernel) ho ho'
  have hchest : w.standing? "chest" = w'.standing? "chest" := by
    rw [hw.standing?_eq (by decide +kernel), hw'.standing?_eq (by decide +kernel)]
    decide +kernel
  have hsmithy : w.standing? "smithy" ≠ w'.standing? "smithy" := by
    rw [hw.standing?_eq (by decide +kernel), hw'.standing?_eq (by decide +kernel)]
    decide +kernel
  have halike : ∀ source ∈ o.containedIn, w.IsCarrier source ∨ w'.IsCarrier source →
      w.standing? source = w'.standing? source := by
    intro source hsource hcarrier
    have howner : source = "chest" ∨ source = "smithy" := by
      have hlower : "chest".toLower = "chest" ∧ "smithy".toLower = "smithy" := by decide +kernel
      obtain ⟨f, hf, hcopies⟩ := hw.copies?_of_mem_containedIn ho hsource
      simp only [armoury, List.mem_cons, List.not_mem_nil, or_false] at hf
      rcases hf with rfl | rfl | rfl | rfl | rfl | rfl <;>
        simp_all [Fact.copies?]
    obtain rfl | rfl := howner
    · exact hchest
    · -- the smithy carries nothing in either registry
      exact absurd (hcarrier.imp hw.kind_of_isCarrier hw'.kind_of_isCarrier) (by decide +kernel)
  exact ⟨w, w', o, o', hdef, hdef', ho, ho', hpositions, hcontained, halike, hsmithy,
    withTotals_one_hop.1 w w' "sword" o o' ho ho' hpositions hcontained halike⟩

end Registry

end Questline
