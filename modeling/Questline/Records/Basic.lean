import Std.Data.ExtTreeMap
import Questline.Requirement.Comparison

/-!
# Game records

What the analysis works on: dialogue topics with their responses, scripts,
actors, cells and leveled lists, as they come out of the game's data files. Ids
are written in any letter case.

## Main definitions

* `Topic`, `Response`, `Descriptor`: dialogue, journals among it
* `ScriptRecord`, `Actor`, `Cell`, `LeveledList`: the other records
* `Records`: all of them
-/

namespace Questline

inductive TopicKind where
  | topic
  | voice
  | greeting
  | persuasion
  | journal
deriving Repr, DecidableEq

namespace TopicKind

def word : TopicKind → String
  | topic => "topic"
  | voice => "voice"
  | greeting => "greeting"
  | persuasion => "persuasion"
  | journal => "journal"

def ofWord? (w : String) : Option TopicKind :=
  [topic, voice, greeting, persuasion, journal].find? (·.word == w)

end TopicKind

inductive Gender where
  | male
  | female
deriving Repr, DecidableEq

namespace Gender

def word : Gender → String
  | male => "male"
  | female => "female"

def ofWord? (w : String) : Option Gender :=
  [male, female].find? (·.word == w)

/-- The number that the game compares a gender with. -/
def value : Gender → Float
  | male => 0.0
  | female => 1.0

end Gender

inductive DescriptorKind where
  | function
  | globalVariable
  | localVariable
  | journal
  | item
  | dead
  | notId
  | notFaction
  | notClass
  | notRace
  | notCell
  | notLocal
deriving Repr, DecidableEq

namespace DescriptorKind

def word : DescriptorKind → String
  | function => "function"
  | globalVariable => "global"
  | localVariable => "local"
  | journal => "journal"
  | item => "item"
  | dead => "dead"
  | notId => "notId"
  | notFaction => "notFaction"
  | notClass => "notClass"
  | notRace => "notRace"
  | notCell => "notCell"
  | notLocal => "notLocal"

def ofWord? (w : String) : Option DescriptorKind :=
  [function, globalVariable, localVariable, journal, item, dead, notId, notFaction, notClass,
    notRace, notCell, notLocal].find? (·.word == w)

end DescriptorKind

/-- A condition on a response, as the game stores it. -/
structure Descriptor where
  kind : DescriptorKind
  comparison : Comparison
  /-- A function, a variable or a record, by the kind of the descriptor. -/
  name : String
  value : Float := 0.0

/-- A response in a topic, or an entry in a journal. -/
structure Response where
  id : String
  index : Option Int := none
  text : String := ""
  result : Option String := none
  finished : Bool := false
  restart : Bool := false
  /-- Whether the text of the entry is the name of the quest. -/
  namesQuest : Bool := false
  actor : Option String := none
  race : Option String := none
  characterClass : Option String := none
  faction : Option String := none
  rank : Option Int := none
  cell : Option String := none
  playerFaction : Option String := none
  playerRank : Option Int := none
  disposition : Int := 0
  gender : Option Gender := none
  descriptors : List Descriptor := []

/-- A dialogue topic. The id of a journal is the id of its quest. -/
structure Topic where
  id : String
  kind : TopicKind := .topic
  responses : List Response := []

structure ScriptRecord where
  id : String
  text : String := ""
deriving Repr, DecidableEq

inductive ActorKind where
  | npc
  | creature
  | container
deriving Repr, DecidableEq

namespace ActorKind

def word : ActorKind → String
  | npc => "npc"
  | creature => "creature"
  | container => "container"

def ofWord? (w : String) : Option ActorKind :=
  [npc, creature, container].find? (·.word == w)

end ActorKind

/-- Somebody or something that carries items. -/
structure Actor where
  id : String
  kind : ActorKind := .npc
  script : Option String := none
  inventory : Std.ExtTreeMap String Int := ∅

structure Placement where
  object : String
  deleted : Bool := false
deriving Repr, DecidableEq

/-- A part of the world: an interior has a name, an exterior a place in the grid. -/
structure Cell where
  name : String := ""
  grid : Option (Int × Int) := none
  placements : List Placement := []
deriving Repr, DecidableEq

/-- What a cell is known by: its name, or its place in the grid if it has none. -/
def Cell.key (c : Cell) : String :=
  match c.grid with
  | some (x, y) => if c.name.isEmpty then toString x ++ "," ++ toString y else c.name
  | none => c.name

inductive LeveledKind where
  | item
  | creature
deriving Repr, DecidableEq

namespace LeveledKind

def word : LeveledKind → String
  | item => "item"
  | creature => "creature"

def ofWord? (w : String) : Option LeveledKind :=
  [item, creature].find? (·.word == w)

end LeveledKind

/-- A list from which the game draws items or creatures. -/
structure LeveledList where
  id : String
  kind : LeveledKind := .item
  members : List String := []
deriving Repr, DecidableEq

structure Records where
  topics : List Topic := []
  scripts : List ScriptRecord := []
  actors : List Actor := []
  cells : List Cell := []
  leveledLists : List LeveledList := []
  startScripts : List String := []

end Questline
