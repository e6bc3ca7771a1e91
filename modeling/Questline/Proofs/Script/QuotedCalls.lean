import Questline.Proofs.Script.LineCalls
import Questline.Script.Journal
import Questline.Script.Layout

/-!
# Calls inside strings

The search for calls does not look at quotes. What it looks at is the character before a call, so
that a text between quotes is searched like any other one: a name right behind the opening quote is
no call, but one further on is, if it stands behind a delimiter or an arrow.

## Main definitions

* `HasOpenString`: a text with a string that is not closed in it
* `CanPrecede`: the texts that a function name can follow
* `FoundCall`, `CallPattern.found`: the calls in a line with their places
* `FoundCall.IsQuoted`: a call whose function name stands inside a string

## Main results

* `CallPattern.found_spec`: a function name is found in a string only behind a delimiter or an
  arrow
-/

namespace Questline

variable {r s t u w : List Char}

/-! ### Strings and delimiters -/

/-- A string is open at the end of a text, and `s` is what stands in it so far. Quotes are counted
from the start of the text. -/
def HasOpenString (t s : List Char) : Prop :=
  ∃ u, t = u ++ '"' :: s ∧ u.count '"' % 2 = 0 ∧ '"' ∉ s

/-- A function name can follow the text: there is a delimiter at its end, or an arrow with perhaps
white space after it. -/
def CanPrecede (t : List Char) : Prop :=
  (∃ u c, t = u ++ [c] ∧ CallPattern.isDelimiter c = true) ∨
    ∃ u v, t = u ++ ("->".toList ++ v) ∧ ∀ c ∈ v, isBlank c = true

theorem quote_not_isDelimiter : CallPattern.isDelimiter '"' = false := by
  decide

/-- The end of a text stands behind any character that is not in it. -/
theorem exists_append_of_not_mem {q : Char} (hq : q ∉ r) (h : u ++ q :: s = w ++ r) :
    ∃ v, s = v ++ r := by
  obtain ⟨v, -, hv⟩ | ⟨v, -, hv⟩ := List.append_eq_append_iff.1 h
  · cases v with
    | nil =>
      have hmem : q ∈ [] ++ r := hv ▸ List.mem_cons_self
      exact absurd hmem hq
    | cons c v => exact ⟨v, (List.cons.inj hv).2⟩
  · refine absurd ?_ hq
    rw [hv]
    exact List.mem_append_right v List.mem_cons_self

/-- What a function name follows stands inside the open string. -/
theorem CanPrecede.of_hasOpenString (h : CanPrecede t) (hs : HasOpenString t s) :
    CanPrecede s := by
  -- no end of a text that a function name can follow has a quote in it
  obtain ⟨u, rfl, -, -⟩ := hs
  obtain ⟨w, c, heq, hc⟩ | ⟨w, v, heq, hv⟩ := h
  · have hquote : '"' ∉ [c] := fun hmem =>
      Bool.false_ne_true (quote_not_isDelimiter.symm.trans (List.mem_singleton.1 hmem ▸ hc))
    obtain ⟨z, rfl⟩ := exists_append_of_not_mem hquote heq
    exact .inl ⟨z, c, rfl, hc⟩
  · have hquote : '"' ∉ "->".toList ++ v := fun hmem => by
      obtain hmem | hmem := List.mem_append.1 hmem
      · exact absurd hmem (by decide)
      · exact absurd (hv '"' hmem) (by decide)
    obtain ⟨z, rfl⟩ := exists_append_of_not_mem hquote heq
    exact .inr ⟨z, v, rfl, hv⟩

/-! ### Places of calls -/

/-- A call in a line, with the text of the line in front of the name of its function. -/
structure FoundCall where
  before : List Char
  call : CallText
deriving DecidableEq

namespace CallPattern

variable (p : CallPattern)

/-- The call at the front of a text with its place, and what follows it, when `before` stands in
front of the text. -/
def findAtFront? (before t : List Char) : Option (FoundCall × List Char) :=
  (scopes t).findSome? fun (scope, u) =>
    p.functions.findSome? fun name =>
      ((matchFolded? name.toList u).filter fun s => endsWord s.1 s.2).bind fun (function, v) =>
        (readArguments? p.arguments v).map fun (arguments, rest) =>
          ({ before := before ++ t.take (t.length - u.length),
             call := { scope, function, arguments } }, rest)

/-- The call that starts with a text, with its place. -/
def findHere? (lineStart : Bool) (before t : List Char) : Option (FoundCall × List Char) :=
  (if lineStart then p.findAtFront? before t else none).or
    (match t with
      | c :: r => if isDelimiter c then p.findAtFront? (before ++ [c]) r else none
      | [] => none)

/-- The calls in the rest of a line with their places, when `before` was searched already. -/
def findFrom (lineStart : Bool) (before t : List Char) : List FoundCall :=
  match p.findHere? lineStart before t with
  | some (f, rest) =>
    if rest.length < t.length then
      f :: findFrom false (before ++ t.take (t.length - rest.length)) rest
    else match t with
      | [] => [f]
      | c :: r => f :: findFrom false (before ++ [c]) r
  | none =>
    match t with
    | [] => []
    | c :: r => findFrom false (before ++ [c]) r
termination_by t.length

/-- The calls in a line with their places. -/
def found (line : List Char) : List FoundCall :=
  (p.findFrom true [] line).filter fun f => p.accepts f.call

variable {p} {before : List Char} {f : FoundCall} {lineStart : Bool}

theorem map_findAtFront? (before t : List Char) :
    (p.findAtFront? before t).map (fun s => (s.1.call, s.2)) = p.atFront? t := by
  rw [findAtFront?, atFront?, List.map_findSome?]
  congr 1
  funext s
  rw [Function.comp_apply, List.map_findSome?]
  congr 1
  funext name
  rw [Function.comp_apply, Option.map_bind]
  congr 1
  funext x
  rw [Function.comp_apply, Option.map_map]
  rfl

theorem map_findHere? (lineStart : Bool) (before t : List Char) :
    (p.findHere? lineStart before t).map (fun s => (s.1.call, s.2)) = p.here? lineStart t := by
  rw [findHere?.eq_def, here?.eq_def, Option.map_or]
  congr 1
  · cases lineStart with
    | true => exact map_findAtFront? before t
    | false => rfl
  · cases t with
    | nil => rfl
    | cons c r =>
      dsimp only
      split
      · exact map_findAtFront? _ r
      · rfl

theorem map_call_findFrom (lineStart : Bool) (before t : List Char) :
    (p.findFrom lineStart before t).map (·.call) = p.scan lineStart t := by
  fun_induction findFrom p lineStart before t with
  | case1 lineStart before t f rest hfind hlt ih =>
    have hhere : p.here? lineStart t = some (f.call, rest) := by
      rw [← map_findHere? lineStart before, hfind, Option.map_some]
    rw [scan.eq_def, hhere, List.map_cons, ih]
    exact (if_pos hlt).symm
  | case2 lineStart before f rest hfind hlt =>
    have hhere : p.here? lineStart [] = some (f.call, rest) := by
      rw [← map_findHere? lineStart before, hfind, Option.map_some]
    rw [scan.eq_def, hhere]
    exact (if_neg hlt).symm
  | case3 lineStart before f rest c r hfind hlt ih =>
    have hhere : p.here? lineStart (c :: r) = some (f.call, rest) := by
      rw [← map_findHere? lineStart before, hfind, Option.map_some]
    rw [scan.eq_def, hhere, List.map_cons, ih]
    exact (if_neg hlt).symm
  | case4 lineStart before hfind =>
    have hhere : p.here? lineStart [] = none := by
      rw [← map_findHere? lineStart before, hfind, Option.map_none]
    rw [scan.eq_def, hhere, List.map_nil]
  | case5 lineStart before c r hfind ih =>
    have hhere : p.here? lineStart (c :: r) = none := by
      rw [← map_findHere? lineStart before, hfind, Option.map_none]
    rw [scan.eq_def, hhere, ih]

theorem map_call_found (p : CallPattern) (line : List Char) :
    (p.found line).map (·.call) = p.inLine line := by
  rw [found, inLine, ← map_call_findFrom true [] line, List.filter_map]
  rfl

end CallPattern

/-- The name of the function stands between a quote that opens a string and the one that closes
it. -/
def FoundCall.IsQuoted (f : FoundCall) (line : List Char) : Prop :=
  ∃ s after, HasOpenString f.before s ∧ line = f.before ++ (f.call.function ++ after) ∧ '"' ∈ after

/-- The call stands in the line at its place, where a call can stand. -/
structure FoundCall.IsIn (f : FoundCall) (line : List Char) : Prop where
  exists_after : ∃ after, line = f.before ++ (f.call.function ++ after)
  canPrecede : f.before = [] ∨ CanPrecede f.before

theorem CanPrecede.append (h : CanPrecede t) (w : List Char) : CanPrecede (w ++ t) := by
  obtain ⟨u, c, rfl, hc⟩ | ⟨u, v, rfl, hv⟩ := h
  · exact .inl ⟨w ++ u, c, (List.append_assoc ..).symm, hc⟩
  · exact .inr ⟨w ++ u, v, (List.append_assoc ..).symm, hv⟩

namespace CallPattern

variable {p : CallPattern} {before rest : List Char} {f : FoundCall} {lineStart : Bool}

theorem isIn_of_findAtFront? (hb : before = [] ∨ CanPrecede before)
    (h : p.findAtFront? before t = some (f, rest)) : f.IsIn (before ++ t) ∧ rest <:+ t := by
  obtain ⟨⟨scope, u⟩, hu, h⟩ := List.exists_of_findSome?_eq_some h
  obtain ⟨name, -, h⟩ := List.exists_of_findSome?_eq_some h
  obtain ⟨⟨function, v⟩, hname, h⟩ := Option.bind_eq_some_iff.1 h
  obtain ⟨⟨arguments, _⟩, hread, heq⟩ := Option.map_eq_some_iff.1 h
  obtain ⟨rfl, rfl⟩ := Prod.mk.inj heq
  obtain ⟨hname, -⟩ := Option.filter_eq_some_iff.1 hname
  obtain ⟨w, rfl, hw⟩ := exists_of_mem_scopes hu
  have hfunction : function ++ v = u := append_of_matchFolded? hname
  have hv : v <:+ w ++ u := ⟨w ++ function, by rw [List.append_assoc, hfunction]⟩
  have htake : (w ++ u).take ((w ++ u).length - u.length) = w := by simp
  refine ⟨⟨⟨v, ?_⟩, ?_⟩, (isSuffix_of_readArguments? hread).trans hv⟩
  · dsimp only
    rw [htake, hfunction, List.append_assoc]
  · dsimp only
    rw [htake]
    obtain rfl | harrow := hw
    · rwa [List.append_nil]
    · exact .inr (CanPrecede.append (.inr harrow) before)

theorem isIn_of_findHere? (hb : lineStart = true → before = [])
    (h : p.findHere? lineStart before t = some (f, rest)) :
    f.IsIn (before ++ t) ∧ rest <:+ t := by
  rw [findHere?.eq_def] at h
  obtain h | ⟨-, h⟩ := Option.or_eq_some_iff.1 h
  · split at h
    · next hstart => exact isIn_of_findAtFront? (.inl (hb hstart)) h
    · contradiction
  · cases t with
    | nil => contradiction
    | cons c r =>
      dsimp only at h
      split at h
      · next hc =>
        have hdelimiter : CanPrecede (before ++ [c]) := .inl ⟨before, c, rfl, hc⟩
        obtain ⟨hf, hrest⟩ := isIn_of_findAtFront? (.inr hdelimiter) h
        rw [List.append_assoc] at hf
        exact ⟨hf, hrest.trans (List.suffix_cons c r)⟩
      · contradiction

/-- Every call that is found stands where a call can stand. -/
theorem isIn_of_mem_findFrom (hb : lineStart = true → before = [])
    (h : f ∈ p.findFrom lineStart before t) : f.IsIn (before ++ t) := by
  fun_induction findFrom p lineStart before t with
  | case1 lineStart before t g rest hfind hlt ih =>
    obtain ⟨hg, hrest⟩ := isIn_of_findHere? hb hfind
    obtain rfl | h := List.mem_cons.1 h
    · exact hg
    · have hf := ih (fun h => absurd h Bool.false_ne_true) h
      rwa [List.append_assoc, List.suffix_iff_eq_append.1 hrest] at hf
  | case2 lineStart before g rest hfind hlt =>
    obtain rfl := List.mem_singleton.1 h
    exact (isIn_of_findHere? hb hfind).1
  | case3 lineStart before g rest c r hfind hlt ih =>
    obtain rfl | h := List.mem_cons.1 h
    · exact (isIn_of_findHere? hb hfind).1
    · have hf := ih (fun h => absurd h Bool.false_ne_true) h
      rwa [List.append_assoc] at hf
  | case4 => exact absurd h List.not_mem_nil
  | case5 lineStart before c r hfind ih =>
    have hf := ih (fun h => absurd h Bool.false_ne_true) h
    rwa [List.append_assoc] at hf

/-- The calls that are found in a line, with their places. Where a string is open in front of the
name of the function, a delimiter stands right before the name, or an arrow with perhaps white
space after it, and it stands in the string. -/
theorem found_spec (p : CallPattern) (line : List Char) :
    (p.found line).map (·.call) = p.inLine line ∧
      ∀ f ∈ p.found line, (∃ after, line = f.before ++ (f.call.function ++ after)) ∧
        ∀ s, HasOpenString f.before s → CanPrecede s := by
  refine ⟨p.map_call_found line, fun f hf => ?_⟩
  obtain ⟨hf, -⟩ := List.mem_filter.1 hf
  have hin : f.IsIn line := isIn_of_mem_findFrom (fun _ => rfl) hf
  refine ⟨hin.exists_after, fun s hs => ?_⟩
  obtain hnil | hbefore := hin.canPrecede
  · obtain ⟨u, hu, -⟩ := hs
    rw [hnil] at hu
    exact absurd hu.symm (List.append_ne_nil_of_right_ne_nil u (List.cons_ne_nil _ s))
  · exact hbefore.of_hasOpenString hs

/-- A text that is shown on the screen, with an object and an arrow in it. -/
def shownArrow : String :=
  "MessageBox \"Tell Fargoth-> Journal q 10\""

theorem shownArrow_found_spec :
    ∃ f ∈ journalPattern.found shownArrow.toList,
      HasOpenString f.before "Tell Fargoth-> ".toList ∧ CanPrecede "Tell Fargoth-> ".toList := by
  obtain ⟨f, hf, hbefore⟩ : ∃ f ∈ journalPattern.found shownArrow.toList,
      f.before = "MessageBox \"Tell Fargoth-> ".toList := by
    decide +kernel
  have hs : HasOpenString f.before "Tell Fargoth-> ".toList :=
    ⟨"MessageBox ".toList, hbefore, by decide, by decide⟩
  exact ⟨f, hf, hs, ((found_spec journalPattern _).2 f hf).2 _ hs⟩

/-- A text that is shown on the screen, with a comma in it. -/
def shownComma : String :=
  "MessageBox \"Please, Journal q 10\""

/-- What a script only shows can set a journal index. -/
theorem shownComma_isQuoted :
    (∃ f ∈ journalPattern.found shownComma.toList, f.IsQuoted shownComma.toList) ∧
      (Tree.parse ("begin t\n" ++ shownComma ++ "\nend") {}).1.journalUpdates.map
        (fun u => (u.quest, u.index)) = [("q", 10)] := by
  obtain ⟨f, hf, hbefore, hfunction⟩ : ∃ f ∈ journalPattern.found shownComma.toList,
      f.before = "MessageBox \"Please, ".toList ∧ f.call.function = "Journal".toList := by
    decide +kernel
  have hopen : HasOpenString f.before "Please, ".toList :=
    ⟨"MessageBox ".toList, hbefore, by decide, by decide⟩
  have hline : shownComma.toList = f.before ++ (f.call.function ++ " q 10\"".toList) := by
    rw [hbefore, hfunction]
    decide
  have hupdates : (Tree.parse ("begin t\n" ++ shownComma ++ "\nend") {}).1.journalUpdates.map
      (fun u => (u.quest, u.index)) = [("q", 10)] := by
    decide +kernel
  exact ⟨⟨f, hf, _, _, hopen, hline, by decide⟩, hupdates⟩

end CallPattern

end Questline
