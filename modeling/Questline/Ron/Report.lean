import Questline.Analysis.Report
import Questline.Ron.Printer

/-!
# Reports in RON

A report is written with the quests, the objects and the findings in this order.
Of a requirement only the fields that it has are written.

## Main definitions

* `Report.toRon`: the value of a report
* `Report.render`: the text of a report
-/

namespace Questline

open Ron

/-- The fields of a requirement, with nothing for those that it does not have. -/
def Requirement.toRon (r : Requirement) : Ron :=
  let given (name : String) (v : Option Ron) : List (String × Ron) :=
    v.toList.map fun v => (name, .ofOption (some v))
  .struct none
    ([("kind", .string r.kind.key), ("operator", .word r.comparison.word)] ++
      given "value" (r.value.map .ofFloat) ++ given "text" (r.text.map .string) ++
      given "variable" (r.operand.map .string) ++ given "object" (r.object.map .string) ++
      given "attribute" (r.attributeIndex.map (.ofInt ·)) ++
      given "skill" (r.skillIndex.map (.ofInt ·)) ++
      given "script" (r.script.map .string) ++ given "raw" (r.raw.map .string))

def Gate.toRon (g : Gate) : Ron :=
  .list (g.requirements.map (·.toRon))

def Origin.toRon : Origin → Ron
  | script id => .tuple (some "script") [.string id]
  | dialogue topic response =>
    .struct (some "dialogue") [("topic", .string topic), ("info", .string response)]

def Stage.toRon (s : Stage) : Ron :=
  .struct none
    [("quest", .string s.quest), ("index", .ofInt s.index), ("text", .string s.text),
      ("finished", .ofBool s.finished), ("restart", .ofBool s.restart),
      ("branches", .list (s.branches.map (·.toRon))),
      ("origins", .list (s.origins.map (·.toRon))),
      ("next", .list (s.next.toList.map .ofInt))]

def Ron.ofNames (ns : Names) : Ron :=
  .list (ns.toList.map .string)

def Ron.ofNamed {α : Type} (f : α → Ron) (m : Std.ExtTreeMap String α) : Ron :=
  .map (m.toList.map fun (k, v) => (.string k, f v))

def Quest.toRon (q : Quest) : Ron :=
  .struct none
    [("id", .string q.id), ("name", .ofOption (q.name.map .string)),
      ("stages", .map (q.stages.toList.map fun (i, s) => (.ofInt i, s.toRon))),
      ("givers", .ofNames q.givers)]

def Edge.toRon (e : Edge) : Ron :=
  .struct none
    [("count", .ofInt e.count), ("normalized", .ofFloat e.weighted), ("chance", .ofFloat e.chance)]

def WorldObject.toRon (o : WorldObject) : Ron :=
  .struct none
    [("id", .string o.id), ("kind", .word o.kind.word),
      ("involved", .list (o.involved.toList.map fun m =>
        .tuple none [.string m.quest, .ofInt m.index])),
      ("starts", .ofNames o.starts), ("contains", .ofNamed (·.toRon) o.contains),
      ("linked_from", .ofNamed (·.toRon) o.containedIn), ("positions", .ofInt o.positions),
      ("total", .ofFloat o.total)]

def Finding.toRon : Finding → Ron
  | unrecognizedCommand command =>
    .struct (some "unrecognizedCommand") [("command", .string command)]
  | untranslatedCondition text => .struct (some "untranslatedCondition") [("text", .string text)]
  | missingStage quest index origin =>
    .struct (some "missingStage")
      [("quest", .string quest), ("index", .ofInt index), ("origin", .string origin)]
  | missingScript script referrer =>
    .struct (some "missingScript") [("script", .string script), ("referrer", .string referrer)]

def Report.toRon (r : Report) : Ron :=
  .struct none
    [("quests", .ofNamed (·.toRon) r.quests), ("objects", .ofNamed (·.toRon) r.objects),
      ("diagnostics", .list (r.findings.items.map (·.toRon)))]

/-- The text of a report. -/
def Report.render (r : Report) : String :=
  r.toRon.render

end Questline
