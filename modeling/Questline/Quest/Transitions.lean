import Questline.Quest.Basic

/-!
# How stages follow each other

A stage follows an earlier one whose index some branch of it requires. A stage
that depends on a choice follows the nearest earlier stage that does not.

## Main definitions

* `Quest.links`: the pairs of stages of which the second follows the first
* `Quest.linkStages`: a quest whose stages know what follows them
* `Quest.inferGivers`: a quest that knows who can start it
-/

namespace Questline.Quest

variable (q : Quest)

/-- The nearest index before the end of `earlier` whose stage depends on no choice. -/
def lastPlain? (earlier : List (Int × Stage)) : Option Int :=
  (earlier.reverse.find? fun s => !s.2.hasChoice).map (·.1)

/-- The links to a stage from the stages before it. -/
def linksTo (earlier : List (Int × Stage)) (s : Int × Stage) : List (Int × Int) :=
  (if s.2.hasChoice then (lastPlain? earlier).toList.map fun i => (i, s.1) else []) ++
    (earlier.filter fun e => s.2.requiresIndex q.id e.1).map fun e => (e.1, s.1)

/-- The links between stages, given those before in order. -/
def linksFrom (earlier : List (Int × Stage)) : List (Int × Stage) → List (Int × Int)
  | [] => []
  | s :: later => q.linksTo earlier s ++ linksFrom (earlier ++ [s]) later

def links : List (Int × Int) :=
  q.linksFrom [] q.stages.toList

/-- Write the links into the stages that they start from. -/
def linkStages : Quest :=
  { q with
    stages := q.links.foldl
      (fun m (i, j) => m.modify i fun s => { s with next := s.next.insert j }) q.stages }

/-- The objects that the first stage is about, as far as they are not the player. -/
def firstSubjects (player : String) : List String :=
  match q.stages.toList with
  | (_, s) :: _ =>
    ((s.requirements.filterMap (·.subject?)).filter (!sameName · player)).map String.toLower
  | [] => []

/-- Only a quest with more than one stage has givers. -/
def inferGivers (player : String) : Quest :=
  if q.stages.size < 2 then q
  else { q with givers := Std.ExtTreeSet.ofList (q.firstSubjects player) }

def linkCount : Nat :=
  q.stages.values.foldl (fun n s => n + s.next.size) 0

end Questline.Quest
