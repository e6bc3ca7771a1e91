/-!
# Findings

What an analysis could not understand or could not find. None of it stops the
analysis.

## Main definitions

* `Finding`: one thing found
* `Findings`: the things found, each once, in the order in which they were met
-/

namespace Questline

inductive Finding where
  | unrecognizedCommand (command : String)
  | untranslatedCondition (text : String)
  | missingStage (quest : String) (index : Int) (origin : String)
  | missingScript (script referrer : String)
deriving Repr, DecidableEq

inductive Severity where
  | debug
  | warning
deriving Repr, DecidableEq

namespace Finding

def message : Finding → String
  | unrecognizedCommand command =>
    "unrecognized command '" ++ command ++ "' treated as a local variable"
  | untranslatedCondition text => "condition kept as raw text: " ++ text
  | missingStage quest index origin =>
    "journal update " ++ quest ++ " " ++ toString index ++ " from " ++ origin ++
      " has no matching stage"
  | missingScript script referrer =>
    "script '" ++ script ++ "' referenced by " ++ referrer ++ " does not exist"

/-- Whether the finding is a reference to something that does not exist. -/
def isBrokenReference : Finding → Bool
  | missingStage .. => true
  | missingScript .. => true
  | _ => false

/-- References to nothing deserve a warning; texts not understood are routine. -/
def severity (f : Finding) : Severity :=
  if f.isBrokenReference then .warning else .debug

end Finding

/-- Findings in the order in which they were met. -/
structure Findings where
  items : List Finding := []
deriving Repr, DecidableEq

namespace Findings

/-- Add a finding unless it is there. -/
def push (fs : Findings) (f : Finding) : Findings :=
  if f ∈ fs.items then fs else { items := fs.items ++ [f] }

/-- Add findings in order, each unless it is there. -/
def pushAll (fs : Findings) (new : List Finding) : Findings :=
  new.foldl push fs

def extend (fs other : Findings) : Findings :=
  fs.pushAll other.items

/-- The number of references to something that does not exist. -/
def brokenReferences (fs : Findings) : Nat :=
  fs.items.countP (·.isBrokenReference)

@[simp] theorem mem_items_push {fs : Findings} {f g : Finding} :
    g ∈ (fs.push f).items ↔ g ∈ fs.items ∨ g = f := by
  unfold push
  split
  · exact ⟨Or.inl, fun h => h.elim id fun e => e ▸ ‹_›⟩
  · simp

@[simp] theorem mem_items_pushAll {fs : Findings} {new : List Finding} {g : Finding} :
    g ∈ (fs.pushAll new).items ↔ g ∈ fs.items ∨ g ∈ new := by
  induction new generalizing fs with
  | nil => simp [pushAll]
  | cons f new ih =>
    rw [pushAll, List.foldl_cons, ← pushAll, ih, mem_items_push, List.mem_cons, or_assoc]

/-- Nothing is found twice. -/
theorem nodup_items_push {fs : Findings} (h : fs.items.Nodup) (f : Finding) :
    (fs.push f).items.Nodup := by
  unfold push
  split
  · exact h
  · next hf =>
    refine List.nodup_append.2 ⟨h, List.pairwise_singleton _ f, fun g hg f' hf' hgf => ?_⟩
    rw [List.mem_singleton.1 hf'] at hgf
    exact hf (hgf ▸ hg)

theorem nodup_items_pushAll {fs : Findings} (h : fs.items.Nodup) (new : List Finding) :
    (fs.pushAll new).items.Nodup := by
  induction new generalizing fs with
  | nil => exact h
  | cons f new ih => exact ih (nodup_items_push h f)

end Findings

end Questline
