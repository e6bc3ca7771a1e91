import Questline.Proofs.Script.LetterCase
import Questline.Proofs.Script.Searching
import Questline.Script.Guard
import Questline.Script.Journal

/-!
# Letter case in scripts does not matter

What is found in a tree does not depend on the letter case of the texts that it keeps: the same
assignments and the same calls are found in lower case, with their own texts in lower case, and
gates are folded to the same gates. So a script says the same in every letter case, as long as
every condition in it can be read.

## Main definitions

* `Assignment.lowered`, `Call.lowered`, `JournalUpdate.lowered`: what is found, with its texts in
  lower case

## Main results

* `Tree.assignments_lowered`, `Tree.journalUpdates_lowered`: what is found in lower case
* `Tree.resolve_lowered`: gates are folded to the same gates
* `Tree.parse_toLower`: a script and the script in lower case
-/

namespace Questline

/-! ### Assignments -/

/-- What is read in steps is read in lower case when each step is. -/
theorem bind_map_of_comm {α β γ δ : Type} {f : α → β} {g : γ → δ} {x : Option α} {x' : Option β}
    {k : α → Option γ} {k' : β → Option δ} (hx : x' = x.map f)
    (hk : ∀ a, k' (f a) = (k a).map g) : x' >>= k' = (x >>= k).map g := by
  subst hx
  cases x with
  | none => rfl
  | some a => exact hk a

theorem readAssignment?_lowered (t : List Char) :
    readAssignment? (lowered t) = (readAssignment? t).map loweredCut := by
  refine bind_map_of_comm (matchFolded?_lowered t _) fun s => ?_
  obtain ⟨_, r⟩ := s
  refine bind_map_of_comm (afterBlanks?_lowered r) fun r => ?_
  have hname : afterBlanks? ((lowered r).dropWhile isWord) =
      (afterBlanks? (r.dropWhile isWord)).map lowered := by
    rw [isCaseless_isWord.dropWhile, afterBlanks?_lowered]
  refine bind_map_of_comm hname fun r' => ?_
  refine bind_map_of_comm (matchFolded?_lowered r' _) fun s => ?_
  obtain ⟨_, r'⟩ := s
  refine bind_map_of_comm (afterBlanks?_lowered r') fun r' => ?_
  rw [isCaseless_isWord.takeWhile, isCaseless_isFoldedLetter.any_head?, isEmpty_lowered,
    trimEnd_lowered]
  split <;> rfl

/-- The assignment with its value as written in lower case. -/
def Assignment.lowered (a : Assignment) : Assignment :=
  { a with text := a.text.toLower }

namespace Tree

variable (t : Tree) (n : Nat)

theorem block?_lowered : t.lowered.block? n = (t.block? n).map Block.lowered := by
  rw [block?, lowered, Array.getElem?_map, block?]

theorem parent?_lowered : t.lowered.parent? n = t.parent? n := by
  rw [parent?, block?_lowered, Option.bind_map, parent?]
  rfl

theorem path_lowered : t.lowered.path n = t.path n :=
  path_congr fun k _ => t.parent?_lowered k

theorem map_enclosing_lowered {α : Type} {g : Block → α} (hg : ∀ b, g b.lowered = g b) :
    (t.lowered.enclosing n).map g = (t.enclosing n).map g := by
  rw [map_enclosing, map_enclosing, path_lowered]
  refine List.filterMap_congr fun k _ => ?_
  rw [block?_lowered, Option.map_map]
  exact congrArg (Option.map · (t.block? k)) (funext hg)

theorem gate_lowered : t.lowered.gate n = t.gate n := by
  rw [gate_eq_insertAll_map, gate_eq_insertAll_map, map_enclosing_lowered _ _ fun _ => rfl]

theorem isLocal_lowered (name : String) : t.lowered.isLocal n name = t.isLocal n name := by
  rw [isLocal_eq_any_map, isLocal_eq_any_map, map_enclosing_lowered _ _ fun _ => rfl]

theorem assignment?_lowered (b : Block) (line : String) :
    t.lowered.assignment? b.lowered line.toLower =
      (t.assignment? b line).map Assignment.lowered := by
  rw [assignment?, assignment?, toList_toLower, ← Questline.lowered, readAssignment?_lowered,
    Option.map_map, Option.map_map]
  refine congrArg (Option.map · (readAssignment? line.toList)) (funext fun s => ?_)
  have hname := toLower_ofList_lowered s.1
  simp only [Function.comp_apply, loweredCut, hname, stripParens_lowered,
    Number.readFloat?_lowered, isLocal_lowered, gate_lowered, ofList_lowered s.2, Block.lowered,
    Assignment.lowered]

/-- The same assignments are found in lower case. -/
theorem assignments_lowered :
    t.lowered.assignments = t.assignments.map Assignment.lowered := by
  rw [assignments, assignments, lowered, Array.toList_map, List.flatMap_map, List.map_flatMap]
  refine List.flatMap_congr fun b _ => ?_
  rw [Block.lowered, List.filterMap_map, List.map_filterMap]
  exact List.filterMap_congr fun line _ => t.assignment?_lowered b line

end Tree

/-! ### Folding guards -/

theorem soleAssignment?_map_lowered (as : List Assignment) (r : Requirement) :
    soleAssignment? (as.map Assignment.lowered) r =
      (soleAssignment? as r).map Assignment.lowered := by
  have hconcerns : (fun a : Assignment => a.concerns r) ∘ Assignment.lowered =
      fun a => a.concerns r := rfl
  rw [soleAssignment?, soleAssignment?, List.filter_map, hconcerns]
  generalize as.filter _ = bs
  match bs with
  | [] | [_] | _ :: _ :: _ => rfl

namespace Gate

variable (as : List Assignment)

theorem fold?_map_lowered : fold? (as.map Assignment.lowered) = fold? as := by
  funext g i r
  rw [fold?, fold?, soleAssignment?_map_lowered]
  cases soleAssignment? as r <;> rfl

theorem sweep_map_lowered : sweep (as.map Assignment.lowered) = sweep as := by
  funext g n seen
  induction n generalizing seen with
  | zero => rfl
  | succ n ih =>
    rw [sweep, sweep, fold?_map_lowered]
    simp only [ih]

/-- Folding does not look at values as written. -/
theorem resolve_map_lowered (g : Gate) : g.resolve (as.map Assignment.lowered) = g.resolve as := by
  have hround : resolveFrom (as.map Assignment.lowered) = resolveFrom as := by
    -- the loop need not end, so its rounds are compared and not its results
    delta resolveFrom
    simp only [sweep_map_lowered]
  rw [resolve, resolve, hround]

end Gate

/-- Gates are folded to the same gates in lower case. -/
theorem Tree.resolve_lowered (t : Tree) (g : Gate) : t.lowered.resolve g = t.resolve g := by
  rw [resolve, resolve, assignments_lowered, Gate.resolve_map_lowered]

/-! ### Calls -/

/-- The number at the front of a text, after its sign. -/
def unsignedToken? (minus t : List Char) : Option (List Char × List Char) :=
  let whole := t.takeWhile isDigit
  let rest := t.dropWhile isDigit
  if whole.isEmpty then none
  else match rest with
    | '.' :: r =>
      let part := r.takeWhile isDigit
      if part.isEmpty then some (minus ++ whole, rest)
      else some (minus ++ whole ++ '.' :: part, r.dropWhile isDigit)
    | _ => some (minus ++ whole, rest)

theorem numberToken?_cons_minus (t : List Char) :
    numberToken? ('-' :: t) = unsignedToken? ['-'] t := rfl

theorem numberToken?_of_ne {t : List Char} (h : ∀ r, t = '-' :: r → False) :
    numberToken? t = unsignedToken? [] t := by
  unfold numberToken?
  split
  next minus r heq =>
    split at heq
    · next r => exact absurd rfl (h r)
    · cases heq
      rfl

theorem unsignedToken?_lowered {minus : List Char} (hminus : lowered minus = minus)
    (t : List Char) :
    unsignedToken? minus (lowered t) = (unsignedToken? minus t).map loweredCut := by
  unfold unsignedToken?
  rw [isCaseless_isDigit.takeWhile, isCaseless_isDigit.dropWhile]
  dsimp only
  rw [isEmpty_lowered]
  split
  · rfl
  · cases hrest : t.dropWhile isDigit with
    | nil => simp [loweredCut, hminus]
    | cons c r =>
      obtain ⟨rfl, hc⟩ | ⟨hc, hc'⟩ := toLower_cases (d := '.') (by decide) c
      · rw [lowered_cons, hc]
        simp only [isCaseless_isDigit.takeWhile, isCaseless_isDigit.dropWhile, isEmpty_lowered]
        split <;> simp [loweredCut, hminus, hc]
      · rw [lowered_cons]
        simp [loweredCut, hminus, hc, hc']

theorem numberToken?_lowered (t : List Char) :
    numberToken? (lowered t) = (numberToken? t).map loweredCut := by
  by_cases hminus : ∃ r, t = '-' :: r
  · obtain ⟨r, rfl⟩ := hminus
    have hsign : '-'.toLower = '-' := by decide
    rw [lowered_cons, hsign, numberToken?_cons_minus, numberToken?_cons_minus,
      unsignedToken?_lowered (by decide)]
  · have hplain : ∀ r, t = '-' :: r → False := not_exists.1 hminus
    rw [numberToken?_of_ne hplain, numberToken?_of_ne (lowered_ne_cons (by decide) hplain),
      unsignedToken?_lowered lowered_nil]

namespace Argument

variable (t : List Char)

theorem isCaseless_isChar : IsCaseless isChar :=
  ((isCaseless_isWord.or (isCaseless_beq (by decide))).or (isCaseless_beq (by decide))).or
    (isCaseless_beq (by decide))

theorem tokens_lowered (a : Argument) : a.tokens (lowered t) = (a.tokens t).map loweredCut := by
  cases a with
  | any =>
    rw [tokens, tokens, stringToken?_lowered, runs_lowered t isCaseless_isChar isCaseless_isChar,
      List.head?_map, ← Option.map_or, Option.toList_map]
  | literal text =>
    rw [tokens, tokens, matchFolded?_lowered, matchFolded?_lowered, filter_endsWord_lowered,
      Option.toList_map, Option.toList_map, List.map_append]
  | number => rw [tokens, tokens, numberToken?_lowered, Option.toList_map]

theorem separators_lowered : separators (lowered t) = (separators t).map lowered := by
  have hcut (l : List (List Char × List Char)) :
      (l.map loweredCut).map (·.2) = (l.map (·.2)).map lowered := by
    rw [List.map_map, List.map_map]
    rfl
  rw [separators, separators, trimStart_lowered, runs_lowered t isCaseless_isBlank isCaseless_isBlank,
    hcut, List.map_append]
  congr 1
  cases trimStart t with
  | nil => rfl
  | cons c r =>
    obtain ⟨rfl, hc⟩ | ⟨hc, hc'⟩ := toLower_cases (d := ',') (by decide) c
    · rw [lowered_cons, hc]
      exact (congrArg (List.map _) (splits_lowered r isCaseless_isBlank)).trans (hcut _)
    · rw [lowered_cons]
      simp [hc, hc']

end Argument

/-- Some pieces, and what follows them, in lower case. -/
def loweredPieces (s : List (List Char) × List Char) : List (List Char) × List Char :=
  (s.1.map lowered, lowered s.2)

theorem readArguments?_lowered (as : List Argument) (t : List Char) :
    readArguments? as (lowered t) = (readArguments? as t).map loweredPieces := by
  induction as generalizing t with
  | nil => rfl
  | cons a as ih =>
    rw [readArguments?, readArguments?, Argument.separators_lowered]
    refine findSome?_map_of_comm (fun r => ?_) _
    rw [Argument.tokens_lowered]
    refine findSome?_map_of_comm (fun s => ?_) _
    obtain ⟨token, r⟩ := s
    dsimp only [loweredCut]
    rw [ih, Option.map_map, Option.map_map]
    rfl

/-- The call as written, in lower case. -/
def CallText.lowered (c : CallText) : CallText where
  scope := c.scope.map Questline.lowered
  function := Questline.lowered c.function
  arguments := c.arguments.map Questline.lowered

/-- A call, and what follows it, in lower case. -/
def loweredCall (s : CallText × List Char) : CallText × List Char :=
  (s.1.lowered, lowered s.2)

namespace CallPattern

variable (p : CallPattern) (t : List Char)

theorem isCaseless_isDelimiter : IsCaseless isDelimiter :=
  ((isCaseless_isBlank.or (isCaseless_beq (by decide))).or (isCaseless_beq (by decide))).or
    (isCaseless_beq (by decide))

theorem scopes_lowered : scopes (lowered t) = (scopes t).map loweredOption := by
  rw [scopes, scopes, scopeTokens_lowered, List.map_append, List.flatMap_map, List.map_flatMap]
  refine congrArg (· ++ _) (List.flatMap_congr fun s _ => ?_)
  rw [loweredCut, splits_lowered _ isCaseless_isBlank, List.map_map, List.map_map]
  rfl

theorem atFront?_lowered : p.atFront? (lowered t) = (p.atFront? t).map loweredCall := by
  rw [atFront?, atFront?, scopes_lowered]
  refine findSome?_map_of_comm (fun s => ?_) _
  obtain ⟨scope, r⟩ := s
  dsimp only [loweredOption]
  rw [List.map_findSome?]
  refine congrArg (List.findSome? · p.functions) (funext fun name => ?_)
  rw [Function.comp_apply, matchFolded?_lowered, filter_endsWord_lowered]
  refine bind_map_of_comm rfl fun s => ?_
  obtain ⟨function, r⟩ := s
  dsimp only [loweredCut]
  rw [readArguments?_lowered, Option.map_map, Option.map_map]
  rfl

theorem here?_lowered (lineStart : Bool) :
    p.here? lineStart (lowered t) = (p.here? lineStart t).map loweredCall := by
  unfold here?
  rw [Option.map_or]
  congr 1
  · split
    · exact p.atFront?_lowered t
    · rfl
  · cases t with
    | nil => rfl
    | cons c r =>
      rw [lowered_cons]
      dsimp only
      rw [isCaseless_isDelimiter c, atFront?_lowered]
      split <;> rfl

theorem scan_lowered (lineStart : Bool) :
    p.scan lineStart (lowered t) = (p.scan lineStart t).map CallText.lowered := by
  fun_induction p.scan lineStart t with
  -- what follows a call is as long as before, so the search goes on in the same way
  | case1 lineStart t call rest h hlt ih =>
    have hhere := p.here?_lowered t lineStart
    have hlt' : (lowered rest).length < (lowered t).length := by
      rwa [length_lowered, length_lowered]
    rw [h] at hhere
    rw [scan.eq_def, hhere, List.map_cons, ← ih]
    exact if_pos hlt'
  | case2 lineStart call rest h hlt =>
    have hhere := p.here?_lowered [] lineStart
    rw [h] at hhere
    rw [scan.eq_def, hhere]
    exact if_neg (Nat.not_lt_zero _)
  | case3 lineStart call rest c r h hlt ih =>
    have hhere := p.here?_lowered (c :: r) lineStart
    have hlt' : ¬(lowered rest).length < (lowered (c :: r)).length := by
      rwa [length_lowered, length_lowered]
    rw [h] at hhere
    rw [scan.eq_def, hhere, List.map_cons, ← ih]
    exact if_neg hlt'
  | case4 lineStart h =>
    have hhere := p.here?_lowered [] lineStart
    rw [h] at hhere
    rw [scan.eq_def, hhere]
    rfl
  | case5 lineStart c r h ih =>
    have hhere := p.here?_lowered (c :: r) lineStart
    rw [h] at hhere
    rw [scan.eq_def, hhere, ← ih]
    rfl

theorem accepts_lowered (c : CallText) : p.accepts c.lowered = p.accepts c := by
  rw [accepts, accepts, CallText.lowered, map_nameOf_lowered]

theorem inLine_lowered : p.inLine (lowered t) = (p.inLine t).map CallText.lowered := by
  rw [inLine, inLine, scan_lowered, List.filter_map]
  exact congrArg (List.map _) (List.filter_congr fun c _ => p.accepts_lowered c)

end CallPattern

/-- The call with its arguments and its line in lower case. -/
def Call.lowered (c : Call) : Call :=
  { c with arguments := c.arguments.map String.toLower, line := c.line.toLower }

/-- The update with its call in lower case. -/
def JournalUpdate.lowered (u : JournalUpdate) : JournalUpdate :=
  { u with call := u.call.lowered }

theorem Call.journalUpdate?_lowered (c : Call) :
    c.lowered.journalUpdate? = c.journalUpdate?.map JournalUpdate.lowered := by
  unfold journalUpdate?
  rw [lowered]
  dsimp only
  match h : c.arguments with
  | [] | [_] | _ :: _ :: _ :: _ => rfl
  | [quest, index] =>
    have hindex : readIndex? index.toLower.toList = readIndex? index.toList := by
      rw [readIndex?, readIndex?, toList_toLower, ← Questline.lowered, Number.readInt?_lowered]
    simp only [List.map_cons, List.map_nil, hindex, toLower_toLower, Option.map_map]
    refine congrArg (Option.map · (readIndex? index.toList)) (funext fun i => ?_)
    rw [Function.comp_apply, JournalUpdate.lowered, lowered, h]
    rfl

namespace Tree

variable (t : Tree)

theorem callsIn_lowered (p : CallPattern) (b : Block) :
    t.lowered.callsIn p b.lowered = (t.callsIn p b).map Call.lowered := by
  rw [callsIn, callsIn, Block.lowered, List.flatMap_map, List.map_flatMap]
  refine List.flatMap_congr fun line _ => ?_
  rw [toList_toLower, ← Questline.lowered, CallPattern.inLine_lowered, List.map_map, List.map_map]
  refine List.map_congr_left fun c _ => ?_
  have hscope := map_nameOf_lowered c.scope
  have hfunction := toLower_ofList_lowered c.function
  have harguments : (c.arguments.map Questline.lowered).map (fun a => String.ofList (unquote a)) =
      (c.arguments.map fun a => String.ofList (unquote a)).map String.toLower := by
    rw [List.map_map, List.map_map]
    refine List.map_congr_left fun a _ => ?_
    rw [Function.comp_apply, unquote_lowered, ofList_lowered]
    rfl
  simp only [Function.comp_apply, CallText.lowered, Call.lowered, hscope, hfunction, harguments,
    gate_lowered]

/-- The same calls are found in lower case. -/
theorem calls_lowered (p : CallPattern) : t.lowered.calls p = (t.calls p).map Call.lowered := by
  rw [calls, calls, lowered, Array.toList_map, List.flatMap_map, List.map_flatMap]
  exact List.flatMap_congr fun b _ => t.callsIn_lowered p b

/-- The same journal updates are found in lower case. -/
theorem journalUpdates_lowered :
    t.lowered.journalUpdates = t.journalUpdates.map JournalUpdate.lowered := by
  rw [journalUpdates, journalUpdates, calls_lowered, List.filterMap_map, List.map_filterMap]
  exact List.filterMap_congr fun c _ => c.journalUpdate?_lowered

end Tree

/-! ### Scripts -/

namespace Tree

/-- If every condition of a script can be read, the script in lower case has the same tree, but for
the texts that the blocks keep, and a translator notes the same of it. The same assignments and the
same journal updates are found in both trees, and gates are folded to the same gates. -/
theorem parse_toLower (source : String) (t : Translator)
    (h : (parse source t).2.failed = t.failed) :
    (parse source.toLower t).1.lowered = (parse source t).1.lowered ∧
    (parse source.toLower t).2 = (parse source t).2 ∧
    (parse source.toLower t).1.assignments.map Assignment.lowered =
      (parse source t).1.assignments.map Assignment.lowered ∧
    (parse source.toLower t).1.journalUpdates.map JournalUpdate.lowered =
      (parse source t).1.journalUpdates.map JournalUpdate.lowered ∧
    ∀ g, (parse source.toLower t).1.resolve g = (parse source t).1.resolve g := by
  have hread := areRead_of_failed source t h
  have htree := lowered_parse_toLower source t hread
  refine ⟨htree, parse_toLower_snd source t hread, ?_, ?_, fun g => ?_⟩
  -- what is found in lower case is found in the tree in lower case, which both trees share
  · rw [← assignments_lowered, htree, assignments_lowered]
  · rw [← journalUpdates_lowered, htree, journalUpdates_lowered]
  · rw [← resolve_lowered, htree, resolve_lowered]

/-- A script with a guard and a journal update, in capital and small letters. -/
def mixedCase : String :=
  "Begin T\nShort A\nIf ( A == 0 )\nSet A To 1\nJournal Q 10\nEndIf\nEnd"

theorem mixedCase_parse_toLower :
    mixedCase.toLower ≠ mixedCase ∧ (parse mixedCase {}).2.failed = [] ∧
    (parse mixedCase.toLower {}).1.lowered = (parse mixedCase {}).1.lowered ∧
    (parse mixedCase.toLower {}).1.journalUpdates.map JournalUpdate.lowered =
      (parse mixedCase {}).1.journalUpdates.map JournalUpdate.lowered ∧
    (parse mixedCase {}).1.journalUpdates.length = 1 ∧
    (parse mixedCase.toLower {}).1.resolve ((parse mixedCase {}).1.gate 2) =
      (parse mixedCase {}).1.resolve ((parse mixedCase {}).1.gate 2) := by
  have hfailed : (parse mixedCase {}).2.failed = [] := by decide +kernel
  have hlength : (parse mixedCase {}).1.journalUpdates.length = 1 := by decide +kernel
  obtain ⟨htree, -, -, hupdates, hresolve⟩ := parse_toLower mixedCase {} hfailed
  exact ⟨by decide +kernel, hfailed, htree, hupdates, hlength, hresolve _⟩

end Tree

end Questline
