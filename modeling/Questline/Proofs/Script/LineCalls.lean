import Questline.Proofs.Number.Decimal
import Questline.Proofs.Text.Folded
import Questline.Proofs.Text.Objects
import Questline.Script.Call

/-!
# Calls in a line

A line in which the name of no function is met has no calls. A line that is a call without an
object, with its arguments up to the end, has that call and no other: the search finds it at
the start of the line, and nothing is left after it.

## Main definitions

* `IsGap`: what can stand in front of an argument

## Main results

* `CallPattern.inLine_eq_nil`: a line without calls
* `readArguments?_cons`: arguments are read one after the other
* `CallPattern.inLine_call`: a line that is one call
-/

namespace Questline

variable {w r t u v : List Char}

/-! ### What is left is the end of the text -/

theorem isSuffix_of_stringToken? {s : List Char × List Char} (h : stringToken? t = some s) :
    s.2 <:+ t := by
  obtain ⟨q, hq, rfl⟩ := Option.map_eq_some_iff.1 h
  unfold quoted? at hq
  split at hq
  · next r =>
    split at hq
    · next c rest hrest =>
      obtain rfl := Option.some.inj hq
      have hdrop : c :: rest <:+ r := hrest ▸ List.dropWhile_suffix _
      exact ((List.suffix_cons c rest).trans hdrop).trans (List.suffix_cons _ r)
    · cases hq
  · cases hq

theorem isSuffix_of_mem_objectTokens {s : List Char × List Char} (h : s ∈ objectTokens t) :
    s.2 <:+ t := by
  obtain h | h := List.mem_append.1 h
  · obtain ⟨hs, -⟩ := Option.filter_eq_some_iff.1 (Option.mem_toList.1 h)
    exact isSuffix_of_stringToken? hs
  · exact ⟨s.1, append_of_mem_runs h⟩

theorem append_of_stripLiteral? {p : List Char} (h : stripLiteral? p t = some r) : p ++ r = t := by
  fun_induction stripLiteral? p t with
  | case1 => exact (Option.some.inj h).symm
  | case2 => cases h
  | case3 p ps c t hpc ih => rw [List.cons_append, ih h, eq_of_beq hpc]
  | case4 => cases h

theorem isSuffix_of_numberToken? {s : List Char × List Char} (h : numberToken? t = some s) :
    s.2 <:+ t := by
  unfold numberToken? at h
  split at h
  next minus r hsign =>
  have hr : r <:+ t := by
    split at hsign
    · cases hsign
      exact List.suffix_cons '-' r
    · cases hsign
      exact List.suffix_rfl
  have hdrop : r.dropWhile isDigit <:+ t := (List.dropWhile_suffix _).trans hr
  dsimp only at h
  split at h
  · cases h
  · split at h
    · next u hu =>
      have hu : u <:+ t := (List.suffix_cons '.' u).trans (hu ▸ hdrop)
      split at h
      · exact Option.some.inj h ▸ hdrop
      · exact Option.some.inj h ▸ (List.dropWhile_suffix _).trans hu
    · exact Option.some.inj h ▸ hdrop

namespace Argument

theorem isSuffix_of_mem_tokens {a : Argument} {s : List Char × List Char} (h : s ∈ a.tokens t) :
    s.2 <:+ t := by
  cases a with
  | any =>
    obtain h | h := Option.or_eq_some_iff.1 (Option.mem_toList.1 h)
    · exact isSuffix_of_stringToken? h
    · exact ⟨s.1, append_of_mem_runs (List.mem_of_head? h.2)⟩
  | literal text =>
    obtain h | h := List.mem_append.1 h
    · exact ⟨s.1, append_of_matchFolded? (Option.mem_toList.1 h)⟩
    · obtain ⟨h, -⟩ := Option.filter_eq_some_iff.1 (Option.mem_toList.1 h)
      exact ⟨s.1, append_of_matchFolded? h⟩
  | number => exact isSuffix_of_numberToken? (Option.mem_toList.1 h)

theorem isSuffix_of_mem_separators (h : u ∈ separators t) : u <:+ t := by
  obtain h | h := List.mem_append.1 h
  · split at h
    · next r hr =>
      obtain ⟨s, hs, rfl⟩ := List.mem_map.1 h
      have hcomma : ',' :: r <:+ t := hr ▸ List.dropWhile_suffix _
      have hrest : s.2 <:+ r := ⟨s.1, append_of_mem_splits hs⟩
      exact hrest.trans ((List.suffix_cons ',' r).trans hcomma)
    · exact absurd h List.not_mem_nil
  · obtain ⟨s, hs, rfl⟩ := List.mem_map.1 h
    exact ⟨s.1, append_of_mem_runs hs⟩

end Argument

theorem isSuffix_of_readArguments? {as : List Argument} {s : List (List Char) × List Char}
    (h : readArguments? as t = some s) : s.2 <:+ t := by
  induction as generalizing t s with
  | nil =>
    obtain rfl := Option.some.inj h
    exact List.suffix_rfl
  | cons a as ih =>
    rw [readArguments?] at h
    obtain ⟨u, hu, h⟩ := List.exists_of_findSome?_eq_some h
    obtain ⟨x, hx, h⟩ := List.exists_of_findSome?_eq_some h
    obtain ⟨y, hy, rfl⟩ := Option.map_eq_some_iff.1 h
    have hsep : u <:+ t := Argument.isSuffix_of_mem_separators hu
    have htoken : x.2 <:+ u := Argument.isSuffix_of_mem_tokens hx
    exact (ih hy).trans (htoken.trans hsep)

namespace CallPattern

/-- An object that is cut off has an arrow behind it, with perhaps white space after it. -/
theorem exists_of_mem_scopes {x : Option (List Char) × List Char} (h : x ∈ scopes t) :
    ∃ w, t = w ++ x.2 ∧
      (w = [] ∨ ∃ u v, w = u ++ ("->".toList ++ v) ∧ ∀ c ∈ v, isBlank c = true) := by
  obtain h | h := List.mem_append.1 h
  · obtain ⟨a, ha, h⟩ := List.mem_flatMap.1 h
    obtain ⟨b, hb, rfl⟩ := List.mem_map.1 h
    obtain ⟨o, ho, harrow⟩ := List.mem_filterMap.1 ha
    obtain ⟨v, hv, rfl⟩ := Option.map_eq_some_iff.1 harrow
    obtain ⟨w, hw⟩ : trimStart o.2 <:+ t :=
      (List.dropWhile_suffix _).trans (isSuffix_of_mem_objectTokens ho)
    have hblanks : b.1 ++ b.2 = v := append_of_mem_splits hb
    refine ⟨w ++ ("->".toList ++ b.1), ?_, .inr ⟨w, b.1, rfl, ?_⟩⟩
    · rw [← hw, ← append_of_stripLiteral? hv, ← hblanks]
      simp
    · exact List.all_eq_true.1 (all_of_mem_splits hb)
  · obtain rfl := List.mem_singleton.1 h
    exact ⟨[], rfl, .inl rfl⟩

theorem isSuffix_of_mem_scopes {x : Option (List Char) × List Char} (h : x ∈ scopes t) :
    x.2 <:+ t := by
  obtain ⟨w, hw, -⟩ := exists_of_mem_scopes h
  exact ⟨w, hw.symm⟩

/-! ### Lines without calls -/

variable {p : CallPattern}

theorem atFront?_eq_none
    (h : ∀ name ∈ p.functions, ∀ u, u <:+ t → matchFolded? name.toList u = none) :
    p.atFront? t = none := by
  rw [atFront?, List.findSome?_eq_none_iff]
  intro s hs
  dsimp only
  rw [List.findSome?_eq_none_iff]
  intro name hname
  rw [h name hname _ (isSuffix_of_mem_scopes hs)]
  rfl

theorem scan_nil : p.scan false [] = [] := by
  have hhere : p.here? false [] = none := rfl
  rw [scan, hhere]

/-- No calls are found where the name of no function is met. -/
theorem scan_eq_nil (h : ∀ name ∈ p.functions, ∀ u, u <:+ t → matchFolded? name.toList u = none)
    (lineStart : Bool) : p.scan lineStart t = [] := by
  have hstart : (if lineStart then p.atFront? t else none) = none := by
    rw [atFront?_eq_none h]
    exact ite_self none
  induction t generalizing lineStart with
  | nil =>
    have hhere : p.here? lineStart [] = none := by rw [here?, hstart]; rfl
    rw [scan, hhere]
  | cons c t ih =>
    have hrest : ∀ name ∈ p.functions, ∀ u, u <:+ t → matchFolded? name.toList u = none :=
      fun name hname u hu => h name hname u (hu.trans (List.suffix_cons c t))
    have hhere : p.here? lineStart (c :: t) = none := by
      rw [here?, hstart, Option.none_or, atFront?_eq_none hrest]
      exact ite_self none
    rw [scan, hhere]
    exact ih hrest false rfl

theorem inLine_eq_nil
    (h : ∀ name ∈ p.functions, ∀ u, u <:+ t → matchFolded? name.toList u = none) :
    p.inLine t = [] := by
  rw [inLine, scan_eq_nil h]
  rfl

end CallPattern

/-! ### Arguments -/

/-- What can stand in front of an argument: white space, or a comma with or without it. -/
def IsGap (g : List Char) : Prop :=
  (g ≠ [] ∧ ∀ c ∈ g, isBlank c = true) ∨
    ∃ u v, g = u ++ ',' :: v ∧ (∀ c ∈ u, isBlank c = true) ∧ ∀ c ∈ v, isBlank c = true

namespace IsGap

variable {g : List Char}

theorem ne_nil (hg : IsGap g) : g ≠ [] := by
  obtain ⟨hne, -⟩ | ⟨u, v, rfl, -, -⟩ := hg
  · exact hne
  · exact List.append_ne_nil_of_right_ne_nil u (List.cons_ne_nil _ v)

theorem of_mem (hg : IsGap g) {c : Char} (hc : c ∈ g) : isBlank c = true ∨ c = ',' := by
  obtain ⟨-, hall⟩ | ⟨u, v, rfl, hu, hv⟩ := hg
  · exact .inl (hall c hc)
  · rw [List.mem_append, List.mem_cons] at hc
    obtain hc | rfl | hc := hc
    · exact .inl (hu c hc)
    · exact .inr rfl
    · exact .inl (hv c hc)

/-- A gap starts with white space or a comma. -/
theorem head_eq (hg : IsGap g) (t : List Char) :
    ∀ c ∈ (g ++ t).head?, isBlank c = true ∨ c = ',' := by
  obtain ⟨a, v, rfl⟩ := List.exists_cons_of_ne_nil hg.ne_nil
  intro c hc
  obtain rfl := Option.some.inj hc
  exact hg.of_mem List.mem_cons_self

theorem uncomment_append (hg : IsGap g) (t : List Char) :
    uncomment false (g ++ t) = g ++ uncomment false t :=
  Questline.uncomment_append
    ⟨fun h => absurd (hg.of_mem h) (by decide), fun h => absurd (hg.of_mem h) (by decide)⟩ t

theorem isWord_head (hg : IsGap g) (t : List Char) : ∀ c ∈ (g ++ t).head?, isWord c = false := by
  intro c hc
  obtain h | rfl := hg.head_eq t c hc
  · exact isWord_eq_false_of_isBlank h
  · decide

theorem isObjectChar_head (hg : IsGap g) (t : List Char) :
    ∀ c ∈ (g ++ t).head?, isObjectChar c = false := by
  intro c hc
  obtain h | rfl := hg.head_eq t c hc
  · exact isObjectChar_of_isBlank h
  · decide

/-- After the white space of a gap comes its comma or what is behind it. -/
theorem trimStart_append (hg : IsGap g) (ht : ∀ c ∈ t.head?, isBlank c = false) :
    trimStart (g ++ t) = t ∨ ∃ v, trimStart (g ++ t) = ',' :: (v ++ t) ∧
      ∀ c ∈ v, isBlank c = true := by
  obtain ⟨-, hall⟩ | ⟨u, v, rfl, hu, hv⟩ := hg
  · exact .inl (dropWhile_append_of_stop hall ht)
  · refine .inr ⟨v, ?_, hv⟩
    rw [List.append_assoc]
    refine dropWhile_append_of_stop hu fun c hc => ?_
    obtain rfl := Option.some.inj hc
    decide

/-- What follows a gap is the first that is tried. -/
theorem head?_separators (hg : IsGap g) (ht : ∀ c ∈ t.head?, isBlank c = false ∧ c ≠ ',') :
    (Argument.separators (g ++ t)).head? = some t := by
  have hstop : ∀ c ∈ t.head?, isBlank c = false := fun c hc => (ht c hc).1
  obtain ⟨hne, hall⟩ | ⟨u, v, rfl, hu, hv⟩ := hg
  · have htrim : trimStart (g ++ t) = t := dropWhile_append_of_stop hall hstop
    obtain ⟨a, g, rfl⟩ := List.exists_cons_of_ne_nil hne
    obtain ⟨ha, hg⟩ := List.forall_mem_cons.1 hall
    have hruns : (runs isBlank isBlank (a :: g ++ t)).head? = some (a :: g, t) := by
      rw [List.cons_append, head?_runs ha, takeWhile_append_of_stop hg hstop,
        dropWhile_append_of_stop hg hstop]
    rw [Argument.separators, htrim, List.head?_append, List.head?_map, hruns]
    split
    · exact absurd rfl (ht _ rfl).2
    · rfl
  · have htrim : trimStart (u ++ ',' :: v ++ t) = ',' :: (v ++ t) := by
      rw [List.append_assoc]
      refine dropWhile_append_of_stop hu fun c hc => ?_
      obtain rfl := Option.some.inj hc
      decide
    have hsplits : ((splits isBlank (v ++ t)).map (·.2)).head? = some t := by
      rw [List.head?_map, head?_splits, dropWhile_append_of_stop hv hstop]
      rfl
    rw [Argument.separators, htrim, List.head?_append]
    show Option.or ((splits isBlank (v ++ t)).map (·.2)).head? _ = some t
    rw [hsplits]
    rfl

end IsGap

/-- Arguments are read one after the other, each in the first way there is. -/
theorem readArguments?_cons {a : Argument} {as : List Argument} {token : List Char}
    {tokens : List (List Char)} (hgap : (Argument.separators r).head? = some t)
    (htoken : (a.tokens t).head? = some (token, u))
    (hrest : readArguments? as u = some (tokens, v)) :
    readArguments? (a :: as) r = some (token :: tokens, v) := by
  rw [readArguments?]
  refine findSome?_of_head? hgap (findSome?_of_head? htoken ?_)
  dsimp only
  rw [hrest]
  rfl

/-- A string can follow a gap. -/
theorem head_quoted (t : List Char) : ∀ c ∈ ('"' :: t).head?, isBlank c = false ∧ c ≠ ',' := by
  intro c hc
  obtain rfl := Option.some.inj hc
  decide

theorem head?_tokens_quoted {q : List Char} (hq : '"' ∉ q) (t : List Char) :
    (Argument.any.tokens ('"' :: (q ++ '"' :: t))).head? = some ('"' :: (q ++ ['"']), t) := by
  rw [Argument.tokens, stringToken?_append hq]
  rfl

/-- A decimal without a fraction is taken as a whole. -/
theorem numberToken?_text {d : Decimal} (hd : d.fraction? = none) :
    numberToken? d.text = some (d.text, []) := by
  have hmagnitude := Decimal.magnitude_eq_whole hd
  have hwhole : ∀ c ∈ d.whole, isDigit c = true :=
    fun c hc => isDigit_of_isDigit (d.isDigit_whole c hc)
  have htake : d.whole.takeWhile isDigit = d.whole := by
    simpa using takeWhile_append_of_stop (t := []) hwhole (by simp)
  have hdrop : d.whole.dropWhile isDigit = [] := by
    simpa using dropWhile_append_of_stop (t := []) hwhole (by simp)
  have hne : d.whole.isEmpty = false := List.isEmpty_eq_false_iff.2 d.whole_ne_nil
  cases hn : d.negative with
  | true =>
    rw [Decimal.text, hn, if_pos rfl, hmagnitude, numberToken?, htake, hdrop, hne]
    rfl
  | false =>
    rw [Decimal.text, hn, if_neg Bool.false_ne_true, hmagnitude, numberToken?, htake, hdrop, hne]
    · rfl
    · intro r hr
      have hdigit := d.isDigit_whole '-' (hr ▸ List.mem_cons_self)
      exact absurd hdigit (by decide)

/-- A call without an object. -/
def CallText.bare (function : List Char) (arguments : List (List Char)) : CallText where
  scope := none
  function := function
  arguments := arguments

namespace CallPattern

variable {p : CallPattern} {call : CallText}

theorem here?_of_atFront? {s : CallText × List Char} (h : p.atFront? t = some s) :
    p.here? true t = some s := by
  unfold here?
  rw [if_pos rfl, h, Option.some_or]

/-- The search goes on where a call ends. -/
theorem scan_eq_cons {lineStart : Bool} (h : p.here? lineStart t = some (call, u))
    (hlt : u.length < t.length) : p.scan lineStart t = call :: p.scan false u := by
  rw [scan.eq_def, h]
  dsimp only
  rw [if_pos hlt]

/-- A line that is one call without an object has that call and no other. -/
theorem inLine_call {arguments : List (List Char)} (hp : p.scope = none)
    (hw : IsWordText w) (hword : ∀ c ∈ r.head?, isObjectChar c = false)
    (harrow : (trimStart r).head? ≠ some '-')
    (hname : ∃ name ∈ p.functions, w.map foldCase = name.toList.map foldCase)
    (hnames : ∀ name ∈ p.functions, w.map foldCase = name.toList.map foldCase ∨
      matchFolded? name.toList (w ++ r) = none)
    (hr : readArguments? p.arguments r = some (arguments, [])) :
    p.inLine (w ++ r) = [.bare w arguments] := by
  have hscopes : scopes (w ++ r) = [(none, w ++ r)] := by
    rw [scopes, scopeTokens_eq_nil hw hword harrow]
    rfl
  have hend : endsWord w r = true := by
    refine endsWord_of_isWordText hw fun c hc => ?_
    rw [← Bool.not_eq_true]
    exact fun h => Bool.false_ne_true ((hword c hc).symm.trans (isObjectChar_of_isWord h))
  have hfront : p.atFront? (w ++ r) = some (.bare w arguments, []) := by
    have hcall : ∀ name : String, w.map foldCase = name.toList.map foldCase →
        (((matchFolded? name.toList (w ++ r)).filter fun s => endsWord s.1 s.2).bind fun s =>
          (readArguments? p.arguments s.2).map fun a =>
            (({ scope := none, function := s.1, arguments := a.1 } : CallText), a.2)) =
          some (.bare w arguments, []) := by
      intro name hfold
      rw [matchFolded?_append hfold, Option.filter_some, hend, if_pos rfl, Option.bind_some]
      dsimp only
      rw [hr]
      rfl
    rw [atFront?, hscopes, List.findSome?_singleton]
    refine findSome?_eq_some (fun name hmem => ?_) ?_
    · obtain hfold | hnone := hnames name hmem
      · exact .inl (hcall name hfold)
      · right
        rw [hnone]
        rfl
    · obtain ⟨name, hmem, hfold⟩ := hname
      exact ⟨name, hmem, hcall name hfold⟩
  have hscan : p.scan true (w ++ r) = [.bare w arguments] := by
    have hpos : ([] : List Char).length < (w ++ r).length := by
      rw [List.length_append]
      exact Nat.lt_add_right _ (List.length_pos_iff.2 hw.1)
    rw [scan_eq_cons (here?_of_atFront? hfront) hpos, scan_nil]
  rw [inLine, hscan, List.filter_singleton, accepts, hp]
  rfl

end CallPattern

end Questline
