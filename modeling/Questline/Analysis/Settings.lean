import Questline.Requirement.Basic

/-!
# Settings

What an analysis can be told: how deep started scripts are followed, who the
player is, whether dialogue is looked at, which further scripts run from the
start, and which global variables there are.
-/

namespace Questline

structure Settings where
  inlineDepth : Nat := 3
  playerId : String := player
  dialogueResults : Bool := true
  startScripts : List String := []
  globals : List String := []
deriving Repr, DecidableEq

end Questline
