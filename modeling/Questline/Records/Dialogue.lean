import Questline.Condition.Command
import Questline.Records.Basic
import Questline.Requirement.Gate
import Questline.Text.CharClass

/-!
# What a response requires

A response is available when the filters on its speaker and on the player hold,
and its descriptors too. All become requirements of the same form as those of
scripts.

## Main definitions

* `Descriptor.requirement`: the requirement of a descriptor
* `Response.gate`: the requirements of a response
-/

namespace Questline

/-- The requirement of a descriptor that calls a function. -/
def functionRequirement (name : String) (c : Comparison) (x : Float) : Requirement :=
  let plain (kind : Kind) : Requirement := { kind, comparison := c, value := some x }
  let onPlayer (kind : Kind) : Requirement := { plain kind with object := some player }
  let other :=
    match name with
    | "reputation" => plain .reputation
    | "level" => plain .level
    | "healthpercent" => plain .health
    | "samefaction" => plain .faction
    | _ => plain (.custom name)
  if name = "choice" then plain .choice
  else match name.toList with
    | 'p' :: 'c' :: stat =>
      let stat := String.ofList stat
      match skillIndex? stat, attributeIndex? stat with
      | some i, _ => { onPlayer .skill with skillIndex := some i }
      | none, some i => { onPlayer .characterAttribute with attributeIndex := some i }
      | none, none =>
        match stat with
        | "level" => onPlayer .level
        | "reputation" => onPlayer .reputation
        | "sex" => onPlayer .gender
        | "gender" => onPlayer .gender
        | "health" => onPlayer .health
        | "healthpercent" => onPlayer .health
        | _ => other
    | _ => other

/-- The requirement of a descriptor. Local variables are those of the speaker. -/
def Descriptor.requirement (d : Descriptor) (speaker : Option String) : Requirement :=
  let name := (String.ofList (trim d.name.toList)).toLower
  let test (kind : Kind) : Requirement :=
    { kind, comparison := d.comparison, value := some d.value, operand := some name }
  let not (kind : Kind) : Requirement := { kind, comparison := .notEqual }
  match d.kind with
  | .function => functionRequirement name d.comparison d.value
  | .globalVariable => test .globalVariable
  | .localVariable => { test .localVariable with object := speaker }
  | .journal => { test .journal with object := some player }
  | .item => { test .item with object := some player }
  | .dead => test .dead
  | .notId => { not .actor with operand := some name }
  | .notFaction => { not .faction with text := some name }
  | .notClass => { not .characterClass with text := some name }
  | .notRace => { not .race with text := some name }
  | .notCell => { not .cell with text := some name }
  | .notLocal =>
    { not .localVariable with operand := some name, value := some d.value, object := speaker }

/-- The requirement that something is what a text says. -/
def Requirement.named (kind : Kind) (name : String) : Requirement :=
  { kind, comparison := .equal, text := some name.toLower }

def Requirement.ranked (faction : String) (rank : Int) : Requirement :=
  { kind := .rank, comparison := .greaterOrEqual, operand := some faction.toLower,
    value := some (Float.ofInt rank) }

namespace Response

variable (r : Response)

def speaker : Option String :=
  r.actor.map String.toLower

/-- What the topic and the speaker have to be like. -/
def speakerRequirements (topic : Topic) : List Requirement :=
  (if topic.kind = .topic then
      [{ kind := .topic, comparison := .equal, operand := some topic.id.toLower }]
    else []) ++
    (r.speaker.map fun a => { kind := .actor, comparison := .equal, object := some a }).toList ++
    (r.race.map (.named .race)).toList ++
    (r.characterClass.map (.named .characterClass)).toList ++
    (r.faction.elim [] fun f => .named .faction f :: (r.rank.map (.ranked f)).toList) ++
    (r.cell.map (.named .cell)).toList

/-- What the player has to be like. -/
def playerRequirements : List Requirement :=
  r.playerFaction.elim [] fun f =>
    (Requirement.named .faction f :: (r.playerRank.map (.ranked f)).toList).map fun q =>
      { q with object := some player }

/-- What the speaker has to think of the player, and the gender of the speaker. -/
def otherRequirements : List Requirement :=
  (if r.disposition > 0 then
      [{ kind := .disposition, comparison := .greaterOrEqual,
         value := some (Float.ofInt r.disposition), object := r.speaker }]
    else []) ++
    (r.gender.map fun g => { kind := .gender, comparison := .equal, value := some g.value }).toList

/-- The requirements of a response, in the order of the filters. -/
def requirements (topic : Topic) : List Requirement :=
  r.speakerRequirements topic ++ r.playerRequirements ++ r.otherRequirements ++
    r.descriptors.map (·.requirement r.speaker)

def gate (topic : Topic) : Gate :=
  .ofList (r.requirements topic)

end Response

end Questline
