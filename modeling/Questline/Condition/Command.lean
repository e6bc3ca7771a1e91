import Questline.Requirement.Basic

/-!
# Commands

The functions that a condition can call. A name that is not listed here is a
variable.

## Main definitions

* `attributeIndex?`, `skillIndex?`: the place of a character's score in the game's order
* `Command.find?`: the command of a name
* `playerOnly`: the commands that only make sense for the player
-/

namespace Questline

def attributeNames : List String :=
  ["strength", "intelligence", "willpower", "agility", "speed", "endurance", "personality", "luck"]

def skillNames : List String :=
  ["block", "armorer", "mediumarmor", "heavyarmor", "bluntweapon", "longblade", "axe", "spear",
    "athletics", "enchant", "destruction", "alteration", "illusion", "conjuration", "mysticism",
    "restoration", "alchemy", "unarmored", "security", "sneak", "acrobatics", "lightarmor",
    "shortblade", "marksman", "mercantile", "speechcraft", "handtohand"]

/-- The place of an attribute, by its name in lower case. -/
def attributeIndex? (name : String) : Option Nat :=
  attributeNames.idxOf? name

/-- The place of a skill, by its name in lower case. -/
def skillIndex? (name : String) : Option Nat :=
  skillNames.idxOf? name

/-- What a command tests. `actorKind` takes the place of `kind` when the command is
applied to an actor other than the player. -/
structure Command where
  kind : Kind
  actorKind : Option Kind := none
  attributeIndex : Option Nat := none
  skillIndex : Option Nat := none
deriving Repr, DecidableEq

namespace Command

/-- Commands with a kind of requirement of their own. -/
def kinds : List (String × Kind) :=
  [("getjournalindex", .journal), ("getdeadcount", .dead), ("getdisposition", .disposition),
    ("getreputation", .reputation), ("getpcfacrep", .reputation), ("getlevel", .level),
    ("getpcrank", .rank), ("samefaction", .faction), ("getrace", .race), ("getpccell", .cell),
    ("onactivate", .activated), ("getspell", .spell), ("getspelleffects", .spell),
    ("gethealth", .health), ("gethealthgetratio", .health), ("getdistance", .distance),
    ("getdisabled", .disabled)]

/-- Commands whose requirement is known by the command's name only. -/
def plain : List String :=
  ["getpccrimelevel", "getpcsleep", "getpcinjail", "getpctraveling", "getpcjumping",
    "getpcrunning", "getpcsneaking", "getpcvisionbonus", "pcexpelled", "pcget3rdperson",
    "getbuttonpressed", "cellchanged", "ondeath", "onmurder", "onknockout", "onpcadd", "onpcdrop",
    "onpcequip", "onpchitme", "onrepair", "onpcsoulgemuse", "getdetected", "getlocked",
    "getcurrentaipackage", "getaipackagedone", "getstandingpc", "getstandingactor", "getmagicka",
    "getfatigue", "getsecondspassed", "getattacked", "getweapondrawn", "getspellreadied",
    "getcurrenttime", "scriptrunning", "random", "getrandompercent"]

/-- The commands by their names in lower case. -/
def table : List (String × Command) :=
  kinds.map (fun (name, kind) => (name, { kind := kind })) ++
    [("getitemcount", { kind := .item, actorKind := some .actorItem })] ++
    plain.map (fun name => (name, { kind := .custom name })) ++
    attributeNames.zipIdx.map
      (fun (name, i) => ("get" ++ name, { kind := .characterAttribute, attributeIndex := some i })) ++
    skillNames.zipIdx.map
      (fun (name, i) => ("get" ++ name, { kind := .skill, skillIndex := some i }))

def find? (name : String) : Option Command :=
  table.lookup name

/-- What the command tests when it is applied to `object`. -/
def kindFor (c : Command) (object : Option String) : Kind :=
  if object.any (· != player) then c.actorKind.getD c.kind else c.kind

end Command

/-- The commands that only make sense for the player, who is meant when no object
is given. -/
def playerOnly : List String :=
  ["getjournalindex", "getpccell", "getpcrank", "getpcfacrep", "getpccrimelevel", "getpcsleep",
    "getpcinjail", "getpctraveling", "getpcjumping", "getpcrunning", "getpcsneaking",
    "getpcvisionbonus", "pcexpelled", "pcget3rdperson", "getbuttonpressed", "cellchanged"]

end Questline
