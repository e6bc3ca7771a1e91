import Questline.Number.Reading
import Questline.Script.Call

/-!
# Journal updates

Scripts move a quest on by setting its journal index, with `Journal` or
`SetJournalIndex`. Only updates with a quest and an index written out can be
found; an index has 32 bits.

## Main definitions

* `JournalUpdate`: a call that sets a journal index
* `Tree.journalUpdates`: the updates in a tree
-/

namespace Questline

structure JournalUpdate where
  quest : String
  index : Int
  call : Call

def journalPattern : CallPattern where
  functions := ["journal", "setjournalindex"]
  arguments := [.any, .number]

def readIndex? (t : List Char) : Option Int :=
  Number.readInt? (-0x80000000) 0x7FFFFFFF t

/-- The update that a call makes, if its index can be read. -/
def Call.journalUpdate? (c : Call) : Option JournalUpdate :=
  match c.arguments with
  | [quest, index] =>
    (readIndex? index.toList).map fun index => { quest := quest.toLower, index, call := c }
  | _ => none

def Tree.journalUpdates (t : Tree) : List JournalUpdate :=
  (t.calls journalPattern).filterMap Call.journalUpdate?

end Questline
