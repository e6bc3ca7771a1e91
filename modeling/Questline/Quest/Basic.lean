import Std.Data.ExtTreeMap
import Questline.Names
import Questline.Requirement.Gate

/-!
# Quests

A quest has a stage for each of its journal indexes. A stage is reached through
any one of its branches, each a gate whose requirements have to hold together.

## Main definitions

* `Origin`: where a journal update was found
* `Stage`, `Quest`: stages and quests
* `Stage.addBranch?`: a stage with one more way to reach it
-/

namespace Questline

/-- Where a journal update was found. -/
inductive Origin where
  | script (id : String)
  | dialogue (topic response : String)
deriving Repr, DecidableEq

def Origin.describe : Origin → String
  | script id => "script '" ++ id ++ "'"
  | dialogue topic response => "dialogue '" ++ topic ++ "' response " ++ response

structure Stage where
  quest : String
  index : Int
  text : String := ""
  finished : Bool := false
  restart : Bool := false
  branches : List Gate := []
  origins : List Origin := []
  next : Std.ExtTreeSet Int := ∅

namespace Stage

variable (s : Stage)

def requirements : List Requirement :=
  s.branches.flatMap (·.requirements)

/-- The stage with one more branch, unless it has the branch already. -/
def addBranch? (g : Gate) (o : Origin) : Option Stage :=
  if s.branches.any (· == g) then none
  else some { s with branches := s.branches ++ [g], origins := s.origins ++ [o] }

/-- Whether some branch depends on a choice in a dialogue. -/
def hasChoice : Bool :=
  s.requirements.any (·.kind == .choice)

/-- Whether some branch requires that the journal of `quest` stands at `index`, or
has got that far. -/
def requiresIndex (quest : String) (index : Int) : Bool :=
  s.requirements.any fun r =>
    r.kind == .journal && (r.comparison == .equal || r.comparison == .greaterOrEqual) &&
      r.operand.any (sameName · quest) && r.value == some (Float.ofInt index)

end Stage

/-- A quest with its stages by index. -/
structure Quest where
  id : String
  name : Option String := none
  stages : Std.ExtTreeMap Int Stage := ∅
  givers : Names := ∅

end Questline
