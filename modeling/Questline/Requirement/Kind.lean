/-!
# What a requirement tests

Each kind has a key that other tools know it by. A key that names none of the
known kinds is a kind of its own.

## Main definitions

* `Kind`: the kinds
* `Kind.key`, `Kind.ofKey`: the key of a kind, and the kind a key names
-/

namespace Questline

inductive Kind where
  | activated
  | actor
  | actorItem
  | characterAttribute
  | cell
  | choice
  | characterClass
  | dead
  | disabled
  | disposition
  | distance
  | faction
  | gender
  | globalVariable
  | health
  | item
  | journal
  | level
  | localVariable
  | race
  | rank
  | reputation
  | skill
  | spell
  | topic
  | unknown
  | custom (key : String)
deriving Repr, DecidableEq

namespace Kind

def key : Kind → String
  | activated => "activated"
  | actor => "actor"
  | actorItem => "actorItem"
  | characterAttribute => "attribute"
  | cell => "cell"
  | choice => "choice"
  | characterClass => "class"
  | dead => "dead"
  | disabled => "disabled"
  | disposition => "disposition"
  | distance => "distance"
  | faction => "faction"
  | gender => "gender"
  | globalVariable => "global"
  | health => "health"
  | item => "item"
  | journal => "journal"
  | level => "level"
  | localVariable => "local"
  | race => "race"
  | rank => "rank"
  | reputation => "reputation"
  | skill => "skill"
  | spell => "spell"
  | topic => "topic"
  | unknown => "unknown"
  | custom key => key

def known : List Kind :=
  [activated, actor, actorItem, characterAttribute, cell, choice, characterClass, dead, disabled,
    disposition, distance, faction, gender, globalVariable, health, item, journal, level, localVariable, race,
    rank, reputation, skill, spell, topic, unknown]

/-- The known kind with the given key, or the custom kind of that key. -/
def ofKey (key : String) : Kind :=
  (known.find? (·.key == key)).getD (custom key)

def isCustom : Kind → Bool
  | custom _ => true
  | _ => false

/-- A known kind is found again by its key. -/
theorem ofKey_key_of_mem_known {k : Kind} (h : k ∈ known) : ofKey k.key = k := by
  simp only [known, List.mem_cons, List.not_mem_nil, or_false] at h
  rcases h with rfl | rfl | rfl | rfl | rfl | rfl | rfl | rfl | rfl | rfl | rfl | rfl | rfl | rfl |
    rfl | rfl | rfl | rfl | rfl | rfl | rfl | rfl | rfl | rfl | rfl | rfl <;> decide

/-- Reading a key and writing it again gives the same key. -/
@[simp] theorem key_ofKey (key : String) : (ofKey key).key = key := by
  unfold ofKey
  cases h : known.find? (·.key == key) with
  | none => simp [Kind.key]
  | some k => simpa using List.find?_some h

end Kind

end Questline
