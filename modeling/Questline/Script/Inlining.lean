import Questline.Script.Call

/-!
# Started scripts

A script can start another one with `StartScript`. What the other script does is
then reached through the call, so a copy of its tree is put under the calling
block. Copies are searched for further calls, level by level, up to a given
depth. A block gets one copy of each script it starts, and none of its own.

## Main definitions

* `startTargets`: the scripts that a block starts
* `Inlined.graftTargets`: the copies for one block
* `Tree.inline`: the copies for all blocks, up to a depth
-/

namespace Questline

def startPattern : CallPattern where
  functions := ["startscript"]
  arguments := [.any]

/-- The scripts, in lower case, that a block starts, each once and without its
own, in the order of the first calls. -/
def startTargets (b : Block) : List String :=
  let targets := (b.lines.flatMap fun line => startPattern.inLine line.toList).filterMap fun c =>
    c.arguments.head?.map nameOf
  (targets.foldl (fun seen x => if seen.contains x then seen else seen ++ [x]) []).filter
    fun x => b.script != some x

/-- A tree and the number of copies that were put into it. -/
structure Inlined where
  tree : Tree
  copies : Nat := 0

namespace Inlined

/-- Put one more copy under the block `site`. -/
def graft (x : Inlined) (site : Nat) (other : Tree) : Inlined where
  tree := x.tree.graft site other
  copies := x.copies + 1

/-- Put under a block the scripts that it starts. -/
def graftTargets (lookup : String → Option Tree) (x : Inlined) (b : Block) : Inlined :=
  ((startTargets b).filterMap lookup).foldl (·.graft b.id ·) x

/-- Put started scripts under the blocks from number `start` on, and under the
blocks of the copies, up to `depth` levels of copies. -/
def extend (lookup : String → Option Tree) (x : Inlined) (start : Nat) : Nat → Inlined
  | 0 => x
  | depth + 1 =>
    let y := (x.tree.blocks.toList.drop start).foldl (graftTargets lookup) x
    if y.copies = x.copies then y else y.extend lookup x.tree.size depth

end Inlined

/-- Put started scripts under the blocks that start them, up to `depth` levels. -/
def Tree.inline (lookup : String → Option Tree) (depth : Nat) (t : Tree) : Inlined :=
  Inlined.extend lookup { tree := t } 0 depth

end Questline
