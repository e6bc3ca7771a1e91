import Std.Data.ExtTreeSet

/-!
# Sets of names

Names of variables, quests and objects are kept in sets ordered by code point.
Names are compared in lower case; who puts a name into a set lowers it first.
-/

namespace Questline

abbrev Names := Std.ExtTreeSet String

end Questline
