import Questline.Records.Basic
import Questline.Ron.Parser

/-!
# Records in RON

A record is a structure. A field can be given once; one with a default can be
left out, and fields that are not known do not matter.

## Main definitions

* `Records.ofRon?`: the records of a text
-/

namespace Questline

namespace Ron

/-- The value of a field that has to be given. -/
def field? {α : Type} (fs : List (String × Ron)) (name : String) (read? : Ron → Option α) :
    Option α :=
  match fs.filter (·.1 == name) with
  | [f] => read? f.2
  | _ => none

/-- The value of a field that may be left out. -/
def fieldOr? {α : Type} (fs : List (String × Ron)) (name : String) (read? : Ron → Option α)
    (default : α) : Option α :=
  match fs.filter (·.1 == name) with
  | [] => some default
  | [f] => read? f.2
  | _ => none

def fieldOption? {α : Type} (fs : List (String × Ron)) (name : String) (read? : Ron → Option α) :
    Option (Option α) :=
  fieldOr? fs name
    (fun v => match v.optional? with
      | some none => some none
      | some (some v) => (read? v).map some
      | none => none)
    none

/-- The value of a field with a word for each of its values. -/
def word? {α : Type} (ofWord? : String → Option α) : Ron → Option α
  | word w => ofWord? w
  | _ => none

def pair? : Ron → Option (Int × Int)
  | tuple none [x, y] => do pure (← int? x, ← int? y)
  | _ => none

/-- A map from texts to integers; of two entries with one key the later counts. -/
def counts? : Ron → Option (Std.ExtTreeMap String Int)
  | map entries => entries.foldlM (fun m (k, v) => do pure (m.insert (← text? k) (← int? v))) ∅
  | _ => none

end Ron

open Ron

def Descriptor.ofRon? (v : Ron) : Option Descriptor := do
  let fs ← v.fieldsOf? "DialogueCondition"
  pure
    { kind := ← field? fs "kind" (word? DescriptorKind.ofWord?)
      comparison := ← field? fs "operator" (word? Comparison.ofWord?)
      name := ← field? fs "name" text?
      value := ← fieldOr? fs "value" float? 0.0 }

def Response.ofRon? (v : Ron) : Option Response := do
  let fs ← v.fieldsOf? "DialogueInfo"
  pure
    { id := ← field? fs "id" text?
      index := ← fieldOption? fs "journal_index" int?
      text := ← fieldOr? fs "text" text? ""
      result := ← fieldOption? fs "result" text?
      finished := ← fieldOr? fs "finished" bool? false
      restart := ← fieldOr? fs "restart" bool? false
      namesQuest := ← fieldOr? fs "quest_name" bool? false
      actor := ← fieldOption? fs "actor" text?
      race := ← fieldOption? fs "race" text?
      characterClass := ← fieldOption? fs "class" text?
      faction := ← fieldOption? fs "faction" text?
      rank := ← fieldOption? fs "rank" int?
      cell := ← fieldOption? fs "cell" text?
      playerFaction := ← fieldOption? fs "pc_faction" text?
      playerRank := ← fieldOption? fs "pc_rank" int?
      disposition := ← fieldOr? fs "disposition" int? 0
      gender := ← fieldOption? fs "gender" (word? Gender.ofWord?)
      descriptors := ← fieldOr? fs "conditions" (list? Descriptor.ofRon?) [] }

def Topic.ofRon? (v : Ron) : Option Topic := do
  let fs ← v.fieldsOf? "DialogueTopic"
  pure
    { id := ← field? fs "id" text?
      kind := ← fieldOr? fs "kind" (word? TopicKind.ofWord?) .topic
      responses := ← fieldOr? fs "infos" (list? Response.ofRon?) [] }

def ScriptRecord.ofRon? (v : Ron) : Option ScriptRecord := do
  let fs ← v.fieldsOf? "ScriptRecord"
  pure { id := ← field? fs "id" text?, text := ← fieldOr? fs "text" text? "" }

def Actor.ofRon? (v : Ron) : Option Actor := do
  let fs ← v.fieldsOf? "ActorRecord"
  pure
    { id := ← field? fs "id" text?
      kind := ← fieldOr? fs "kind" (word? ActorKind.ofWord?) .npc
      script := ← fieldOption? fs "script" text?
      inventory := ← fieldOr? fs "inventory" counts? ∅ }

def Placement.ofRon? (v : Ron) : Option Placement := do
  let fs ← v.fieldsOf? "CellReference"
  pure { object := ← field? fs "object" text?, deleted := ← fieldOr? fs "deleted" bool? false }

def Cell.ofRon? (v : Ron) : Option Cell := do
  let fs ← v.fieldsOf? "CellRecord"
  pure
    { name := ← fieldOr? fs "name" text? ""
      grid := ← fieldOption? fs "grid" pair?
      placements := ← fieldOr? fs "references" (list? Placement.ofRon?) [] }

def LeveledList.ofRon? (v : Ron) : Option LeveledList := do
  let fs ← v.fieldsOf? "LeveledListRecord"
  pure
    { id := ← field? fs "id" text?
      kind := ← fieldOr? fs "kind" (word? LeveledKind.ofWord?) .item
      members := ← fieldOr? fs "members" (list? text?) [] }

def Records.ofRon? (source : String) : Option Records := do
  let fs ← (← Ron.read? source.toList).fieldsOf? "GameRecords"
  pure
    { topics := ← fieldOr? fs "dialogues" (list? Topic.ofRon?) []
      scripts := ← fieldOr? fs "scripts" (list? ScriptRecord.ofRon?) []
      actors := ← fieldOr? fs "actors" (list? Actor.ofRon?) []
      cells := ← fieldOr? fs "cells" (list? Cell.ofRon?) []
      leveledLists := ← fieldOr? fs "leveled_lists" (list? LeveledList.ofRon?) []
      startScripts := ← fieldOr? fs "start_scripts" (list? text?) [] }

end Questline
