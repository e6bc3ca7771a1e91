import Questline.Proofs.Text.Lines
import Questline.World.Registry

/-!
# What a registry was told

A registry is told facts about objects, in any order and with ids in any letter case. Each object
that it keeps says what the facts that name it say, and nothing else; the two ends of a link agree,
since every link is written into both.

## Main definitions

* `Fact`: what a registry can be told, with `Fact.kindOf?` and the like for what it says of an id
* `Registry.tell`, `Registry.tellAll`: a registry that is told facts
* `WorldObject.Recounts`, `Registry.Recounts`: what is kept is what was told
* `Registry.edge?`, `Registry.backEdge?`: an edge at its two ends

## Main results

* `Registry.getElem?_tell`: a fact changes the objects that it names, each by itself
* `Registry.Recounts.tell`: one more fact
* `Registry.tellAll_recounts`: the registry after any facts
-/

namespace Questline

/-! ### Facts -/

/-- What a registry can be told of objects. -/
inductive Fact where
  | kind (id : String) (what : ObjectKind)
  | mention (id quest : String) (index : Int)
  | giver (id quest : String)
  | link (owner target : String) (count : Nat) (chance : Float)
  | placement (id : String) (count : Nat)

namespace Fact

/-- The ids of the objects that the fact is about, in lower case. -/
def ids : Fact → List String
  | kind id _ => [id.toLower]
  | mention id _ _ => [id.toLower]
  | giver id _ => [id.toLower]
  | link owner target _ _ => [owner.toLower, target.toLower]
  | placement id _ => [id.toLower]

/-- The kind that the object `k` is said to have. Here and below `k` is in lower case. -/
def kindOf? (k : String) : Fact → Option ObjectKind
  | kind id what => if id.toLower = k then some what else none
  | _ => none

/-- The stage that is said to mention the object `k`. -/
def mentionOf? (k : String) : Fact → Option Mention
  | mention id quest index => if id.toLower = k then some ⟨quest.toLower, index⟩ else none
  | _ => none

/-- The quest that the object `k` is said to start. -/
def startOf? (k : String) : Fact → Option String
  | giver id quest => if id.toLower = k then some quest.toLower else none
  | _ => none

/-- How many copies of `t` the object `k` is said to contain, and with what chance. -/
def copies? (k t : String) : Fact → Option (Nat × Float)
  | link owner target count chance =>
    if owner.toLower = k ∧ target.toLower = t then some (count, chance) else none
  | _ => none

/-- How often the object `k` is said to be placed. -/
def placed? (k : String) : Fact → Option Nat
  | placement id count => if id.toLower = k then some count else none
  | _ => none

variable {f : Fact} {k t : String}

theorem copies?_eq_some {c : Nat × Float} : f.copies? k t = some c ↔
    ∃ owner target, f = link owner target c.1 c.2 ∧ owner.toLower = k ∧ target.toLower = t := by
  cases f with
  | link owner target count chance =>
    simp only [copies?, Option.ite_none_right_eq_some, Option.some.injEq, link.injEq]
    constructor
    · rintro ⟨⟨ho, ht⟩, rfl⟩
      exact ⟨owner, target, ⟨rfl, rfl, rfl, rfl⟩, ho, ht⟩
    · rintro ⟨_, _, ⟨rfl, rfl, rfl, rfl⟩, ho, ht⟩
      exact ⟨⟨ho, ht⟩, rfl⟩
  | _ => simp [copies?]

/-- A link names both of its ends. -/
theorem copies?_eq_none (h : k ∉ f.ids ∨ t ∉ f.ids) : f.copies? k t = none := by
  rw [Option.eq_none_iff_forall_not_mem]
  intro c hc
  obtain ⟨owner, target, rfl, rfl, rfl⟩ := copies?_eq_some.1 hc
  simp [ids] at h

theorem toLower_of_mem_ids (h : k ∈ f.ids) : k.toLower = k := by
  cases f <;> simp only [ids, List.mem_cons, List.not_mem_nil, or_false] at h <;>
    rcases h with rfl | rfl <;> exact toLower_toLower _

end Fact

/-- What an object is after it was registered as each of some kinds: a generic object takes the
place of an owner only, any other kind that of every kind. It starts as a generic object. -/
def ObjectKind.settle (kinds : List ObjectKind) : ObjectKind :=
  kinds.foldl (fun
    | owner, object => object
    | old, object => old
    | _, new => new) object

theorem ObjectKind.settle_concat (kinds : List ObjectKind) (kind : ObjectKind) :
    settle (kinds ++ [kind]) = (settle kinds).update kind := by
  rw [settle, List.foldl_concat, ← settle]
  cases settle kinds <;> cases kind <;> rfl

/-- The edge between two objects that were linked by these counts and chances, if at all. -/
def Edge.ofCopies? : List (Nat × Float) → Option Edge
  | [] => none
  | c :: cs => some ((c :: cs).foldl (fun e c => e.add c.1 c.2) {})

theorem Edge.ofCopies?_concat (cs : List (Nat × Float)) (c : Nat × Float) :
    ofCopies? (cs ++ [c]) = some (((ofCopies? cs).getD {}).add c.1 c.2) := by
  cases cs with
  | nil => rfl
  | cons d cs =>
    rw [List.cons_append, ofCopies?, ofCopies?, ← List.cons_append, List.foldl_append]
    rfl

theorem Edge.isSome_ofCopies? {cs : List (Nat × Float)} : (ofCopies? cs).isSome ↔ cs ≠ [] := by
  cases cs <;> simp [ofCopies?]

/-- The count of an edge is the sum of the counts that were linked. -/
theorem Edge.count_ofCopies? {cs : List (Nat × Float)} {e : Edge} (h : ofCopies? cs = some e) :
    e.count = (cs.map (·.1)).foldl (· + ·) 0 := by
  have hfold (e : Edge) : (cs.foldl (fun e c => e.add c.1 c.2) e).count =
      (cs.map (·.1)).foldl (· + ·) e.count := by
    clear h
    induction cs generalizing e with
    | nil => rfl
    | cons c cs ih => exact ih (e.add c.1 c.2)
  cases cs with
  | nil => contradiction
  | cons c cs =>
    obtain rfl := Option.some.inj h
    exact hfold {}

/-! ### One object -/

/-- What the object `k` becomes when a fact is told. -/
def WorldObject.tell (o : WorldObject) (k : String) (f : Fact) : WorldObject :=
  match f with
  | .kind id kind => if id.toLower = k then { o with kind := o.kind.update kind } else o
  | .mention id quest index =>
    if id.toLower = k then { o with involved := o.involved.insert ⟨quest.toLower, index⟩ } else o
  | .giver id quest =>
    if id.toLower = k then { o with starts := o.starts.insert quest.toLower } else o
  | .link owner target count chance =>
    let grow (e : Option Edge) : Option Edge := some ((e.getD {}).add count chance)
    let o := if owner.toLower = k then
      { o with contains := o.contains.alter target.toLower grow } else o
    if target.toLower = k then
      { o with containedIn := o.containedIn.alter owner.toLower grow } else o
  | .placement id count =>
    if id.toLower = k then { o with positions := o.positions + count } else o

namespace WorldObject

variable (o : WorldObject) (f : Fact) (facts : List Fact) (k : String)

/-! What an object says after a fact: each part depends on what the fact says of it. -/

@[simp] theorem id_tell : (o.tell k f).id = o.id := by
  cases f <;> simp only [tell] <;> split_ifs <;> rfl

theorem kind_tell : (o.tell k f).kind = (f.kindOf? k).elim o.kind o.kind.update := by
  cases f <;> simp only [tell, Fact.kindOf?] <;> split_ifs <;> rfl

theorem mem_involved_tell {m : Mention} :
    m ∈ (o.tell k f).involved ↔ m ∈ o.involved ∨ f.mentionOf? k = some m := by
  cases f <;> simp only [tell, Fact.mentionOf?] <;> split_ifs <;>
    simp [or_comm]

theorem mem_starts_tell {q : String} :
    q ∈ (o.tell k f).starts ↔ q ∈ o.starts ∨ f.startOf? k = some q := by
  cases f <;> simp only [tell, Fact.startOf?] <;> split_ifs <;>
    simp [or_comm]

theorem contains_tell (t : String) : (o.tell k f).contains[t]? =
    (f.copies? k t).elim o.contains[t]? fun c => some ((o.contains[t]?.getD {}).add c.1 c.2) := by
  cases f <;> simp only [tell, Fact.copies?] <;> split_ifs <;>
    simp_all [Std.ExtTreeMap.getElem?_alter]

theorem containedIn_tell (s : String) : (o.tell k f).containedIn[s]? =
    (f.copies? s k).elim o.containedIn[s]?
      fun c => some ((o.containedIn[s]?.getD {}).add c.1 c.2) := by
  cases f <;> simp only [tell, Fact.copies?] <;> split_ifs <;>
    simp_all [Std.ExtTreeMap.getElem?_alter]

theorem positions_tell :
    (o.tell k f).positions = (f.placed? k).elim o.positions (o.positions + ·) := by
  cases f <;> simp only [tell, Fact.placed?] <;> split_ifs <;> rfl

variable {o f facts k}

theorem tell_of_notMem (h : k ∉ f.ids) : o.tell k f = o := by
  cases f <;> simp_all [Fact.ids, tell, eq_comm (a := k)]

/-- The object `k` says what some facts said of it. -/
structure Recounts (o : WorldObject) (facts : List Fact) (k : String) : Prop where
  id : o.id = k
  kind : o.kind = ObjectKind.settle (facts.filterMap (·.kindOf? k))
  mem_involved (m : Mention) : m ∈ o.involved ↔ m ∈ facts.filterMap (·.mentionOf? k)
  mem_starts (q : String) : q ∈ o.starts ↔ q ∈ facts.filterMap (·.startOf? k)
  contains (t : String) : o.contains[t]? = Edge.ofCopies? (facts.filterMap (·.copies? k t))
  containedIn (s : String) :
    o.containedIn[s]? = Edge.ofCopies? (facts.filterMap (·.copies? s k))
  positions : o.positions = (facts.filterMap (·.placed? k)).foldl (· + ·) 0

/-- Nothing is said of an object that was only just made. -/
theorem Recounts.new (k : String) : Recounts { id := k } [] k where
  id := rfl
  kind := rfl
  mem_involved m := by simp
  mem_starts q := by simp
  contains t := by simp [Edge.ofCopies?]
  containedIn s := by simp [Edge.ofCopies?]
  positions := rfl

/-- One more fact. -/
theorem Recounts.tell (h : o.Recounts facts k) (f : Fact) :
    (o.tell k f).Recounts (facts ++ [f]) k where
  id := by rw [id_tell, h.id]
  kind := by
    rw [kind_tell, h.kind, List.filterMap_append]
    cases hf : f.kindOf? k <;> simp [hf, ObjectKind.settle_concat]
  mem_involved m := by
    rw [mem_involved_tell, h.mem_involved]
    simp
  mem_starts q := by
    rw [mem_starts_tell, h.mem_starts]
    simp
  contains t := by
    rw [contains_tell, h.contains, List.filterMap_append]
    cases hf : f.copies? k t <;> simp [hf, Edge.ofCopies?_concat]
  containedIn s := by
    rw [containedIn_tell, h.containedIn, List.filterMap_append]
    cases hf : f.copies? s k <;> simp [hf, Edge.ofCopies?_concat]
  positions := by
    rw [positions_tell, h.positions, List.filterMap_append]
    cases hf : f.placed? k <;> simp [hf]

/-- Facts that do not name an object say nothing of it. -/
theorem Recounts.of_forall_notMem (h : ∀ f ∈ facts, k ∉ f.ids) : Recounts { id := k } facts k := by
  induction facts using List.reverseRecOn with
  | nil => exact new k
  | append_singleton facts f ih =>
    rw [List.forall_mem_append, List.forall_mem_singleton] at h
    have htold := (ih h.1).tell f
    rwa [tell_of_notMem h.2] at htold

end WorldObject

/-! ### The registry -/

namespace Registry

/-- The registry after it was told a fact. -/
def tell (w : Registry) : Fact → Registry
  | .kind id kind => w.register id kind
  | .mention id quest index => w.involve id quest index
  | .giver id quest => w.addGiver id quest
  | .link owner target count chance => w.link owner target count chance
  | .placement id count => w.place id count

/-- The registry after it was told some facts, in order. -/
def tellAll (w : Registry) (fs : List Fact) : Registry :=
  fs.foldl tell w

theorem getElem?_update (w : Registry) (id : String) (f : WorldObject → WorldObject) (k : String) :
    (w.update id f).objects[k]? =
      if id.toLower = k then some (f ((w.objects[k]?).getD { id := k })) else w.objects[k]? := by
  rw [update, Std.ExtTreeMap.getElem?_alter]
  by_cases h : id.toLower = k
  · rw [if_pos (Std.LawfulEqCmp.compare_eq_iff_eq.2 h), if_pos h, h]
  · rw [if_neg (mt Std.LawfulEqCmp.compare_eq_iff_eq.1 h), if_neg h]

/-- To register is to update the kind: an object that is not known is a generic one before. -/
theorem register_eq_update (w : Registry) (id : String) (kind : ObjectKind) :
    w.register id kind = w.update id fun o => { o with kind := o.kind.update kind } := by
  have hnew : ObjectKind.object.update kind = kind := by
    cases kind <;> rfl
  unfold register update
  congr 2
  funext o
  cases o with
  | none => simp only [Option.getD_none, hnew]
  | some o => rfl

/-- A fact changes the objects that it names, each by itself. -/
theorem getElem?_tell (w : Registry) (f : Fact) (k : String) :
    (w.tell f).objects[k]? =
      if k ∈ f.ids then some (((w.objects[k]?).getD { id := k }).tell k f)
      else w.objects[k]? := by
  cases f with
  | kind id kind =>
    rw [tell, register_eq_update, getElem?_update]
    by_cases h : id.toLower = k <;> simp [Fact.ids, WorldObject.tell, eq_comm (a := k), h]
  | mention id quest index =>
    rw [tell, involve, getElem?_update]
    by_cases h : id.toLower = k <;> simp [Fact.ids, WorldObject.tell, eq_comm (a := k), h]
  | giver id quest =>
    rw [tell, addGiver, getElem?_update]
    by_cases h : id.toLower = k <;> simp [Fact.ids, WorldObject.tell, eq_comm (a := k), h]
  | placement id count =>
    rw [tell, place, getElem?_update]
    by_cases h : id.toLower = k <;> simp [Fact.ids, WorldObject.tell, eq_comm (a := k), h]
  | link owner target count chance =>
    -- an object that is linked with itself is updated twice
    simp only [tell, link, getElem?_update]
    by_cases ho : owner.toLower = k <;> by_cases ht : target.toLower = k <;>
      simp [Fact.ids, WorldObject.tell, eq_comm (a := k), ho, ht]

/-- What a registry keeps is what it was told: an object is there when a fact names it, and says
what the facts say of it. -/
structure Recounts (w : Registry) (facts : List Fact) : Prop where
  mem_objects (k : String) : k ∈ w.objects ↔ ∃ f ∈ facts, k ∈ f.ids
  object {k : String} {o : WorldObject} (h : w.objects[k]? = some o) : o.Recounts facts k

variable {w : Registry} {facts : List Fact}

theorem Recounts.new : Recounts {} [] where
  mem_objects k := by simp
  object h := by simp at h

theorem Recounts.forall_notMem_ids (h : w.Recounts facts) {k : String}
    (hk : w.objects[k]? = none) : ∀ f ∈ facts, k ∉ f.ids := by
  intro f hf hkf
  have hmem := (h.mem_objects k).2 ⟨f, hf, hkf⟩
  rw [Std.ExtTreeMap.mem_iff_isSome_getElem?, hk] at hmem
  contradiction

/-- One more fact. -/
theorem Recounts.tell (h : w.Recounts facts) (f : Fact) : (w.tell f).Recounts (facts ++ [f]) where
  mem_objects k := by
    have hmem := h.mem_objects k
    rw [Std.ExtTreeMap.mem_iff_isSome_getElem?] at hmem ⊢
    rw [getElem?_tell]
    split_ifs with hk
    · simp [hk]
    · rw [hmem]
      simp [hk]
  object {k o} ho := by
    rw [getElem?_tell] at ho
    split_ifs at ho with hk
    · obtain rfl := Option.some.inj ho
      cases hold : w.objects[k]? with
      | some old => exact (h.object hold).tell f
      | none =>
        -- the first fact that names the object
        exact (WorldObject.Recounts.of_forall_notMem (h.forall_notMem_ids hold)).tell f
    · have htold := (h.object ho).tell f
      rwa [WorldObject.tell_of_notMem hk] at htold

/-- A registry that was told nothing but some facts recounts them. -/
theorem recounts_tellAll (facts : List Fact) : (({} : Registry).tellAll facts).Recounts facts := by
  induction facts using List.reverseRecOn with
  | nil => exact Recounts.new
  | append_singleton facts f ih =>
    rw [tellAll, List.foldl_concat]
    exact ih.tell f

/-- What `owner` contains of `target`, as `owner` has it. -/
def edge? (w : Registry) (owner target : String) : Option Edge :=
  (w.get? owner).bind (·.contains[target.toLower]?)

/-- What `owner` contains of `target`, as `target` has it. -/
def backEdge? (w : Registry) (owner target : String) : Option Edge :=
  (w.get? target).bind (·.containedIn[owner.toLower]?)

theorem Recounts.edge? (h : w.Recounts facts) (owner target : String) : w.edge? owner target =
    Edge.ofCopies? (facts.filterMap (·.copies? owner.toLower target.toLower)) := by
  unfold Registry.edge? get?
  cases ho : w.objects[owner.toLower]? with
  | some o => exact (h.object ho).contains _
  | none =>
    rw [List.filterMap_eq_nil_iff.2 fun f hf =>
      Fact.copies?_eq_none (.inl (h.forall_notMem_ids ho f hf))]
    rfl

theorem Recounts.backEdge? (h : w.Recounts facts) (owner target : String) :
    w.backEdge? owner target =
      Edge.ofCopies? (facts.filterMap (·.copies? owner.toLower target.toLower)) := by
  unfold Registry.backEdge? get?
  cases ht : w.objects[target.toLower]? with
  | some o => exact (h.object ht).containedIn _
  | none =>
    rw [List.filterMap_eq_nil_iff.2 fun f hf =>
      Fact.copies?_eq_none (.inr (h.forall_notMem_ids ht f hf))]
    rfl

/-- Objects are kept by their ids in lower case, each when a fact names it, and say what the facts
say of them. Two objects are linked when a fact links them, by all of the copies together, and both
ends have the same edge. -/
theorem tellAll_recounts (facts : List Fact) :
    let w := ({} : Registry).tellAll facts
    (∀ k, k ∈ w.objects ↔ ∃ f ∈ facts, k ∈ f.ids) ∧
    (∀ (k : String) (o : WorldObject), w.objects[k]? = some o →
      k.toLower = k ∧ o.Recounts facts k) ∧
    ∀ owner target : String,
      let copies := facts.filterMap (·.copies? owner.toLower target.toLower)
      ((w.edge? owner target).isSome ↔ ∃ o t count chance, .link o t count chance ∈ facts ∧
        o.toLower = owner.toLower ∧ t.toLower = target.toLower) ∧
      (∀ e, w.edge? owner target = some e → e.count = (copies.map (·.1)).foldl (· + ·) 0) ∧
      w.backEdge? owner target = w.edge? owner target := by
  intro w
  have hw : w.Recounts facts := recounts_tellAll facts
  refine ⟨hw.mem_objects, fun k o ho => ⟨?_, hw.object ho⟩,
    fun owner target => ⟨?_, fun e he => ?_, ?_⟩⟩
  · have hk : k ∈ w.objects := by
      rw [Std.ExtTreeMap.mem_iff_isSome_getElem?, ho, Option.isSome_some]
    obtain ⟨f, -, hf⟩ := (hw.mem_objects k).1 hk
    exact Fact.toLower_of_mem_ids hf
  · rw [hw.edge?, Edge.isSome_ofCopies?]
    constructor
    · intro hne
      obtain ⟨c, hc⟩ := List.exists_mem_of_ne_nil _ hne
      obtain ⟨f, hf, hfc⟩ := List.mem_filterMap.1 hc
      obtain ⟨o, t, rfl, ho, ht⟩ := Fact.copies?_eq_some.1 hfc
      exact ⟨o, t, c.1, c.2, hf, ho, ht⟩
    · rintro ⟨o, t, count, chance, hf, ho, ht⟩
      exact List.ne_nil_of_mem (a := (count, chance)) (List.mem_filterMap.2
        ⟨_, hf, Fact.copies?_eq_some.2 ⟨o, t, rfl, ho, ht⟩⟩)
  · rw [hw.edge?] at he
    exact Edge.count_ofCopies? he
  · rw [hw.edge?, hw.backEdge?]

end Registry

end Questline
