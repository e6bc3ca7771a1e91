import Questline.World.Object

/-!
# The registry of objects

Objects are kept by their ids in lower case. An object that is mentioned for the
first time is a generic one.

## Main definitions

* `Registry`: all objects known
* `Registry.register`, `involve`, `addGiver`, `link`, `place`: what is known grows
* `Registry.withTotals`: the registry with estimates of how many there are of each
-/

namespace Questline

/-- All objects known, by their ids in lower case. -/
structure Registry where
  objects : Std.ExtTreeMap String WorldObject := ∅

namespace Registry

variable (w : Registry)

def get? (id : String) : Option WorldObject :=
  w.objects[id.toLower]?

def size : Nat :=
  w.objects.size

/-- Change the object with an id, which is created if it is not known. -/
def update (id : String) (f : WorldObject → WorldObject) : Registry where
  objects := w.objects.alter id.toLower fun o => some (f (o.getD { id := id.toLower }))

def register (id : String) (kind : ObjectKind) : Registry where
  objects := w.objects.alter id.toLower fun o =>
    match o with
    | some o => some { o with kind := o.kind.update kind }
    | none => some { id := id.toLower, kind }

def involve (id quest : String) (index : Int) : Registry :=
  w.update id fun o => { o with involved := o.involved.insert ⟨quest.toLower, index⟩ }

def addGiver (id quest : String) : Registry :=
  w.update id fun o => { o with starts := o.starts.insert quest.toLower }

/-- Say that `owner` contains copies of `target`, present with a chance. -/
def link (owner target : String) (count : Nat) (chance : Float) : Registry :=
  let grow (e : Option Edge) : Option Edge := some ((e.getD {}).add count chance)
  (w.update owner fun o => { o with contains := o.contains.alter target.toLower grow }).update target
    fun o => { o with containedIn := o.containedIn.alter owner.toLower grow }

/-- Say that an object is placed in the world some more times. -/
def place (id : String) (count : Nat) : Registry :=
  w.update id fun o => { o with positions := o.positions + count }

/-- How many copies the placed instances of `source` carry. Only owners and
generic objects carry anything. -/
def carriedBy? (source : String) (e : Edge) : Option Float :=
  (w.objects[source]?).bind fun s =>
    if s.kind = .owner ∨ s.kind = .object then some (Float.ofNat s.positions * e.weighted) else none

/-- How many there are of an object: those placed, and those that placed objects
carry themselves. -/
def totalOf (o : WorldObject) : Float :=
  Float.ofNat o.positions +
    (o.containedIn.toList.filterMap fun (source, e) => w.carriedBy? source e).foldl (· + ·) 0.0

def withTotals : Registry where
  objects := w.objects.map fun _ o => { o with total := w.totalOf o }

end Registry

end Questline
