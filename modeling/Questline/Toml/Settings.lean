import Questline.Analysis.Settings
import Questline.Toml.Parser

/-!
# Settings in TOML

Each setting has a key of its own; those that are not given keep their defaults,
and other keys do not matter.

## Main definitions

* `Settings.ofToml?`: the settings of a document
-/

namespace Questline

namespace Toml

def nat? : Toml → Option Nat
  | integer n => if 0 ≤ n then some n.toNat else none
  | _ => none

def text? : Toml → Option String
  | string s => some s
  | _ => none

def bool? : Toml → Option Bool
  | boolean b => some b
  | _ => none

def texts? : Toml → Option (List String)
  | array items => items.mapM text?
  | _ => none

/-- The value of a key, which may be left out. -/
def get? {α : Type} (es : Entries) (key : String) (read? : Toml → Option α) (default : α) :
    Option α :=
  (es.lookup key).elim (some default) read?

end Toml

def Settings.ofToml? (source : String) : Option Settings := do
  let es ← Toml.read? source.toList
  let s : Settings := {}
  pure
    { inlineDepth := ← Toml.get? es "inline_depth" Toml.nat? s.inlineDepth
      playerId := ← Toml.get? es "player_id" Toml.text? s.playerId
      dialogueResults := ← Toml.get? es "dialogue_results" Toml.bool? s.dialogueResults
      startScripts := ← Toml.get? es "start_scripts" Toml.texts? s.startScripts
      globals := ← Toml.get? es "globals" Toml.texts? s.globals }

/-- The settings of a file, or the defaults if there is none or it cannot be read. -/
def Settings.load (source : Option String) : Settings :=
  (source.bind ofToml?).getD {}

end Questline
