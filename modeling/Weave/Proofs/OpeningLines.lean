import Mathlib.Data.List.DropRight
import Weave.Proofs.Directives

/-!
# Weave.Proofs.OpeningLines — the grammar of opening lines

What an opening line says is given by a grammar: the marker and the language, an annotation from the
first opening to the last closing brace, and words, of which the first directive decides. The grammar
mentions no function that reads a line, and the two agree on every line: whatever the grammar says of
a line is read from it, and nothing else.

1. **Words**: `Text.Separated` says how a text is cut at its white space (`words_eq_iff`).
2. **Annotations**: `Cut` says what is cut out of a line (`cutHighlight_eq_iff`).
3. **Kinds**: `Asks` says what kind of block words ask for (`kindOf_eq_iff`).
4. **Lines**: `Opens` and `Reads` put these together (`classify_eq_iff`).
-/

namespace Weave

/-! ## Words -/

namespace Text

/-- The words of a text: what stands between its white space, in order. A word ends where the text
ends or where white space follows. -/
inductive Separated : Text → List Text → Prop where
  | blank {gap : Text} (hgap : ∀ c ∈ gap, isBlank c = true) : Separated gap []
  | word {gap word rest : Text} {words : List Text} (hgap : ∀ c ∈ gap, isBlank c = true)
      (hne : word ≠ []) (hword : ∀ c ∈ word, isBlank c = false)
      (hend : ∀ c ∈ rest.head?, isBlank c = true) (hrest : Separated rest words) :
      Separated (gap ++ (word ++ rest)) (word :: words)

theorem words_blank_append {gap : Text} (hgap : ∀ c ∈ gap, isBlank c = true) (s : Text) :
    words (gap ++ s) = words s := by
  induction gap with
  | nil => rfl
  | cons c gap ih =>
    obtain ⟨hc, hgap⟩ := List.forall_mem_cons.1 hgap
    rw [← ih hgap, List.cons_append, words, List.splitOnP_cons_eq_if_modifyHead, if_pos hc]
    rfl

theorem words_word_append {word rest : Text} (hne : word ≠ [])
    (hword : ∀ c ∈ word, isBlank c = false) (hend : ∀ c ∈ rest.head?, isBlank c = true) :
    words (word ++ rest) = word :: words rest := by
  have hsplit : word.splitOnP isBlank = [word] := List.splitOnP_eq_singleton hword
  have hkept : ∀ ws : List Text,
      (word :: ws).filter (fun w => !w.isEmpty) = word :: ws.filter fun w => !w.isEmpty :=
    fun ws => List.filter_cons_of_pos (by simpa using hne)
  cases rest with
  | nil =>
    rw [List.append_nil, words, hsplit, hkept]
    rfl
  | cons c rest =>
    have hc : isBlank c = true := hend c rfl
    have hgap : ∀ d ∈ [c], isBlank d = true := by simpa
    have hrest : words (c :: rest) = words rest := words_blank_append hgap rest
    rw [hrest, words, List.splitOnP_append_cons word rest hc, hsplit, List.singleton_append, hkept]
    rfl

/-- Every text has words. -/
theorem exists_separated (s : Text) : ∃ words, Separated s words := by
  induction hlength : s.length using Nat.strong_induction_on generalizing s with
  | _ length ih =>
    have hgap : ∀ c ∈ s.takeWhile isBlank, isBlank c = true := fun c => List.mem_takeWhile_imp
    rw [← List.takeWhile_append_dropWhile (p := isBlank) (l := s)]
    cases hbehind : s.dropWhile isBlank with
    | nil => exact ⟨[], .blank (by simpa using hgap)⟩
    | cons c behind =>
      -- a word begins behind the gap, and it is the longest one
      have hc : isBlank c = false := by
        have hhead := List.head?_dropWhile_not isBlank s
        rw [hbehind] at hhead
        simpa using hhead
      have hword : ∀ d ∈ (c :: behind).takeWhile (!isBlank ·), isBlank d = false := by
        intro d hd
        simpa using List.mem_takeWhile_imp hd
      have hend : ∀ d ∈ ((c :: behind).dropWhile (!isBlank ·)).head?, isBlank d = true := by
        intro d hd
        have hhead := List.head?_dropWhile_not (!isBlank ·) (c :: behind)
        rw [Option.mem_def.1 hd] at hhead
        simpa using hhead
      have hshort : ((c :: behind).dropWhile (!isBlank ·)).length < length := by
        have hle := (List.dropWhile_sublist (!isBlank ·) (l := behind)).length_le
        have hle' := (List.dropWhile_sublist isBlank (l := s)).length_le
        rw [hbehind, List.length_cons] at hle'
        rw [List.dropWhile_cons_of_pos (by simp [hc])]
        omega
      obtain ⟨words, hrest⟩ := ih _ hshort _ rfl
      have hseparated := Separated.word hgap (by simp [hc]) hword hend hrest
      rw [List.takeWhile_append_dropWhile] at hseparated
      exact ⟨_, hseparated⟩

theorem words_eq_iff {s : Text} {ws : List Text} : words s = ws ↔ Separated s ws := by
  have hwords : ∀ {s ws}, Separated s ws → words s = ws := by
    intro s ws h
    induction h with
    | blank hgap =>
      have hnone := words_blank_append hgap []
      rw [List.append_nil] at hnone
      exact hnone
    | word hgap hne hword hend _ ih =>
      rw [words_blank_append hgap, words_word_append hne hword hend, ih]
  refine ⟨?_, hwords⟩
  rintro rfl
  obtain ⟨ws, h⟩ := exists_separated s
  rwa [hwords h]

end Text

namespace Fence

/-! ## Annotations -/

/-- What is left of a text when the annotation in it is cut out, and the annotation: from the first
opening to the last closing brace. It has none, and stays whole, if no opening brace has a closing one
behind it. -/
inductive Cut : Text → Text → Option Text → Prop where
  | braced {before inner after : Text} (hbefore : '\x7b' ∉ before) (hafter : '\x7d' ∉ after) :
      Cut (before ++ '\x7b' :: (inner ++ '\x7d' :: after)) (before ++ after)
        (some ('\x7b' :: (inner ++ ['\x7d'])))
  | whole {info : Text}
      (hnone : ∀ before inner after, info ≠ before ++ '\x7b' :: (inner ++ '\x7d' :: after)) :
      Cut info info none

theorem cutHighlight_braced_append {before inner after : Text} (hbefore : '\x7b' ∉ before)
    (hafter : '\x7d' ∉ after) :
    cutHighlight (before ++ '\x7b' :: (inner ++ '\x7d' :: after))
      = (before ++ after, some ('\x7b' :: (inner ++ ['\x7d']))) := by
  have hpass : ∀ c ∈ before, decide (c ≠ '\x7b') = true := by
    intro c hc
    exact decide_eq_true fun h => hbefore (h ▸ hc)
  have hpass' : ∀ c ∈ after.reverse, decide (c ≠ '\x7d') = true := by
    intro c hc
    exact decide_eq_true fun h => hafter (h ▸ List.mem_reverse.1 hc)
  have hfirst : (before ++ '\x7b' :: (inner ++ '\x7d' :: after)).takeWhile (· ≠ '\x7b')
      = before := by
    rw [List.takeWhile_append_of_pos hpass, List.takeWhile_cons_of_neg (by simp), List.append_nil]
  have hbehind : (before ++ '\x7b' :: (inner ++ '\x7d' :: after)).dropWhile (· ≠ '\x7b')
      = '\x7b' :: (inner ++ '\x7d' :: after) := by
    rw [List.dropWhile_append_of_pos hpass, List.dropWhile_cons_of_neg (by simp)]
  have hsplit : '\x7b' :: (inner ++ '\x7d' :: after)
      = ('\x7b' :: (inner ++ ['\x7d'])) ++ after := by simp
  have hcut : Text.trimEndWhere (· ≠ '\x7d') ('\x7b' :: (inner ++ '\x7d' :: after))
      = '\x7b' :: (inner ++ ['\x7d']) := by
    rw [hsplit, Text.trimEndWhere, List.reverse_append, List.dropWhile_append_of_pos hpass',
      ← List.cons_append, List.reverse_append, List.reverse_singleton, List.singleton_append,
      List.dropWhile_cons_of_neg (by simp), List.reverse_cons, List.reverse_reverse]
  have hrest : ('\x7b' :: (inner ++ '\x7d' :: after)).drop ('\x7b' :: (inner ++ ['\x7d'])).length
      = after := by
    rw [hsplit, List.drop_left]
  unfold cutHighlight
  simp only [hfirst, hbehind, hcut, hrest]
  rfl

/-- A closing brace behind an opening one is behind the first opening one. -/
theorem mem_dropWhile_of_braces (before inner after : Text) :
    '\x7d' ∈ (before ++ '\x7b' :: (inner ++ '\x7d' :: after)).dropWhile (· ≠ '\x7b') := by
  induction before with
  | nil => simp
  | cons c before ih =>
    by_cases hc : c = '\x7b'
    · simp [hc]
    · rw [List.cons_append, List.dropWhile_cons_of_pos (by simpa using hc)]
      exact ih

/-- An annotation is cut out as the grammar says. -/
theorem cut_cutHighlight (info : Text) : Cut info (cutHighlight info).1 (cutHighlight info).2 := by
  by_cases hmem : '\x7d' ∈ info.dropWhile (· ≠ '\x7b')
  · have hbefore : '\x7b' ∉ info.takeWhile (· ≠ '\x7b') := by
      intro h
      have hpass := List.mem_takeWhile_imp h
      simp at hpass
    have hsplit := List.takeWhile_append_dropWhile (p := (· ≠ '\x7b')) (l := info)
    have hhead := List.head?_dropWhile_not (· ≠ '\x7b') info
    obtain ⟨c, behind, hbehind⟩ := List.exists_cons_of_ne_nil (List.ne_nil_of_mem hmem)
    rw [hbehind] at hmem hsplit hhead
    obtain rfl : c = '\x7b' := by simpa using hhead
    -- the last closing brace is the first one from the end
    obtain ⟨after, inner, hreverse, hafter⟩ := List.eq_append_cons_of_mem
      (List.mem_reverse.2 ((List.mem_cons.1 hmem).resolve_left (by decide)))
    have hinner : behind = inner.reverse ++ '\x7d' :: after.reverse := by
      have h := congrArg List.reverse hreverse
      simpa using h
    rw [← hsplit, hinner, cutHighlight_braced_append hbefore (by simpa using hafter)]
    exact .braced hbefore (by simpa using hafter)
  · have hnone : Text.trimEndWhere (· ≠ '\x7d') (info.dropWhile (· ≠ '\x7b')) = [] := by
      refine List.rdropWhile_eq_nil_iff.2 fun c hc => ?_
      exact decide_eq_true fun h => hmem (h ▸ hc)
    have hwhole : cutHighlight info = (info, none) := by
      unfold cutHighlight
      simp only [hnone]
      rfl
    rw [hwhole]
    refine .whole ?_
    rintro before inner after rfl
    exact hmem (mem_dropWhile_of_braces before inner after)

theorem cutHighlight_eq_iff {info rest : Text} {highlight : Option Text} :
    cutHighlight info = (rest, highlight) ↔ Cut info rest highlight := by
  have hcut := cut_cutHighlight info
  constructor
  · intro h
    rwa [h] at hcut
  · intro h
    cases h with
    | braced hbefore hafter => exact cutHighlight_braced_append hbefore hafter
    | whole hnone =>
      generalize hresult : cutHighlight info = result at hcut
      obtain ⟨rest, highlight⟩ := result
      cases hcut with
      | braced hbefore hafter => exact absurd rfl (hnone _ _ _)
      | whole _ => rfl

/-! ## Kinds -/

open CollectionId

/-- The directives: `id` is what stands behind the last underscore, and `build` is the kind of block
that the word in front of it asks for. -/
inductive IsDirective : Text → Text → (CollectionId → BlockKind) → Prop where
  | collect {id : Text} (hid : IsForm id) :
      IsDirective ("-collect_".toList ++ id) id (.collect .run)
  | execute {id : Text} (hid : IsForm id) :
      IsDirective ("-execute_".toList ++ id) id (.execute .run)
  | testCollect {id : Text} (hid : IsForm id) :
      IsDirective ("-test_collect_".toList ++ id) id (.collect .test)
  | test {id : Text} (hid : IsForm id) : IsDirective ("-test_".toList ++ id) id (.execute .test)

/-- None of some words is a directive. -/
def Undirected (words : List Text) : Prop :=
  ∀ word ∈ words, ∀ id build, ¬ IsDirective word id build

/-- The first directive among some words, whatever stands behind it. -/
def First (words : List Text) (id : Text) (build : CollectionId → BlockKind) : Prop :=
  ∃ earlier word later, words = earlier ++ word :: later ∧ Undirected earlier ∧
    IsDirective word id build

/-- What the words of an opening line ask for, on a line with the given number. -/
inductive Asks (words : List Text) (line : Nat) : Except Failure BlockKind → Prop where
  /-- A number for which there is no room is an error. -/
  | tooLarge {id : Text} {build : CollectionId → BlockKind} (hfirst : First words id build)
      (hdigits : Text.isDigits id = true) (hlarge : 2 ^ 64 ≤ Text.decimal id) :
      Asks words line (.error (.collectionIdOutOfRange id line))
  /-- The public collection cannot be run. -/
  | wildcard {family : Family} (hfirst : First words ['*'] (.execute family)) :
      Asks words line (.error (.wildcardExecution family line))
  | everyone {family : Family} (hfirst : First words ['*'] (.collect family)) :
      Asks words line (.ok (.collect family .everyone))
  | number {id : Text} {build : CollectionId → BlockKind} (hfirst : First words id build)
      (hdigits : Text.isDigits id = true) (hroom : Text.decimal id < 2 ^ 64) :
      Asks words line (.ok (build (.number (.ofNat (Text.decimal id)))))
  | skip (hnone : Undirected words) (hskip : "-skip".toList ∈ words) : Asks words line (.ok .skip)
  | singleFile (hnone : Undirected words) (hskip : "-skip".toList ∉ words)
      (hsingle : "-singleFile".toList ∈ words) : Asks words line (.ok .singleFile)
  | plain (hnone : Undirected words) (hskip : "-skip".toList ∉ words)
      (hsingle : "-singleFile".toList ∉ words) : Asks words line (.ok .plain)

section

variable {words : List Text} {word id : Text} {build : CollectionId → BlockKind} {line : Nat}
  {result : Except Failure BlockKind}

/-- The rows of the table are the directives. -/
theorem isDirective_iff :
    IsDirective word id build ↔
      ∃ row ∈ directives, word = '-' :: (row.1 ++ id) ∧ IsForm id ∧ row.2 = build := by
  constructor
  · rintro (hid | hid | hid | hid)
    · exact ⟨_, .head _, rfl, hid, rfl⟩
    · exact ⟨_, .tail _ (.head _), rfl, hid, rfl⟩
    · exact ⟨_, .tail _ (.tail _ (.head _)), rfl, hid, rfl⟩
    · exact ⟨_, .tail _ (.tail _ (.tail _ (.head _))), rfl, hid, rfl⟩
  · rintro ⟨row, hrow, rfl, hid, rfl⟩
    simp only [directives, List.mem_cons, List.not_mem_nil, or_false] at hrow
    obtain rfl | rfl | rfl | rfl := hrow
    · exact .collect hid
    · exact .execute hid
    · exact .testCollect hid
    · exact .test hid

/-- A directive is read as such, -/
theorem readDirective_of_isDirective (h : IsDirective word id build) :
    readDirective word line = some ((named id line).map build) := by
  obtain ⟨row, hrow, hword, hid, rfl⟩ := isDirective_iff.1 h
  exact readDirective_eq_some_iff.2 ⟨row, hrow, id, hword, hid, rfl⟩

/-- and nothing else is. -/
theorem readDirective_eq_none_iff :
    readDirective word line = none ↔ ∀ id build, ¬ IsDirective word id build := by
  constructor
  · intro hnone id build h
    rw [readDirective_of_isDirective h] at hnone
    cases hnone
  · intro hnone
    refine Option.eq_none_iff_forall_ne_some.2 fun answer hread => ?_
    obtain ⟨row, hrow, id, hword, hid, -⟩ := readDirective_eq_some_iff.1 hread
    exact hnone id row.2 (isDirective_iff.2 ⟨row, hrow, hword, hid, rfl⟩)

theorem undirected_iff :
    words.findSome? (readDirective · line) = none ↔ Undirected words := by
  simp only [List.findSome?_eq_none_iff, readDirective_eq_none_iff, Undirected]

theorem findSome?_of_first (h : First words id build) :
    words.findSome? (readDirective · line) = some ((named id line).map build) := by
  obtain ⟨earlier, word, later, rfl, hnone, hword⟩ := h
  refine List.findSome?_eq_some_iff.2 ⟨earlier, word, later, rfl, ?_, fun w hw => ?_⟩
  · exact readDirective_of_isDirective hword
  · exact readDirective_eq_none_iff.2 (hnone w hw)

/-- Either no word is a directive, or one is the first. -/
theorem undirected_or_first (words : List Text) :
    Undirected words ∨ ∃ id build, First words id build := by
  cases hfound : words.findSome? (readDirective · 0) with
  | none => exact .inl (undirected_iff.1 hfound)
  | some answer =>
    obtain ⟨earlier, word, later, hwords, hread, hnone⟩ := List.findSome?_eq_some_iff.1 hfound
    obtain ⟨row, hrow, id, hword, hid, -⟩ := readDirective_eq_some_iff.1 hread
    exact .inr ⟨id, row.2, earlier, word, later, hwords,
      fun w hw => readDirective_eq_none_iff.1 (hnone w hw),
      isDirective_iff.2 ⟨row, hrow, hword, hid, rfl⟩⟩

/-- Directives collect or run. -/
theorem First.build_eq (h : First words id build) :
    IsForm id ∧ ((∃ family, build = .collect family) ∨ ∃ family, build = .execute family) := by
  obtain ⟨-, word, -, -, -, hword⟩ := h
  cases hword with
  | collect hid => exact ⟨hid, .inl ⟨_, rfl⟩⟩
  | execute hid => exact ⟨hid, .inr ⟨_, rfl⟩⟩
  | testCollect hid => exact ⟨hid, .inl ⟨_, rfl⟩⟩
  | test hid => exact ⟨hid, .inr ⟨_, rfl⟩⟩

/-- The first directive decides. -/
theorem kindOf_of_first (h : First words id build) :
    kindOf words line = match named id line with
      | .ok id => checkRunnable (build id) line
      | .error failure => .error failure := by
  rw [kindOf, findSome?_of_first h]
  cases named id line <;> rfl

theorem kindOf_of_undirected (h : Undirected words) :
    kindOf words line = .ok (modifiedKind words) := by
  rw [kindOf, undirected_iff.2 h]

theorem named_of_room (hdigits : Text.isDigits id = true) (hroom : Text.decimal id < 2 ^ 64) :
    named id line = .ok (.number (.ofNat (Text.decimal id))) := by
  rw [named, if_neg (ne_star_of_isDigits hdigits)]
  exact if_pos hroom

theorem named_of_large (hdigits : Text.isDigits id = true) (hlarge : 2 ^ 64 ≤ Text.decimal id) :
    named id line = .error (.collectionIdOutOfRange id line) :=
  (named_eq_error_iff.2 ⟨hdigits, hlarge, rfl⟩).2

/-- A numbered collection can be run. -/
theorem checkRunnable_number (h : First words id build) (value : UInt64) :
    checkRunnable (build (.number value)) line = .ok (build (.number value)) := by
  obtain ⟨-, ⟨family, rfl⟩ | ⟨family, rfl⟩⟩ := h.build_eq <;> rfl

/-- Without a directive, `-skip` wins over `-singleFile`. -/
theorem modifiedKind_eq (words : List Text) :
    modifiedKind words = if skipModifier ∈ words then .skip
      else if singleFileModifier ∈ words then .singleFile else .plain := by
  simp only [modifiedKind, List.contains_iff_mem]

theorem asks_modifiedKind (hnone : Undirected words) :
    Asks words line (.ok (modifiedKind words)) := by
  rw [modifiedKind_eq]
  split_ifs with hskip hsingle
  · exact .skip hnone hskip
  · exact .singleFile hnone hskip hsingle
  · exact .plain hnone hskip hsingle

/-- What words are read as is what they ask for. -/
theorem asks_kindOf (words : List Text) (line : Nat) : Asks words line (kindOf words line) := by
  rcases undirected_or_first words with hnone | ⟨id, build, hfirst⟩
  · rw [kindOf_of_undirected hnone]
    exact asks_modifiedKind hnone
  · rw [kindOf_of_first hfirst]
    obtain ⟨rfl | hdigits, hbuild⟩ := hfirst.build_eq
    · -- only the public collection can be one that cannot be run
      obtain ⟨family, rfl⟩ | ⟨family, rfl⟩ := hbuild
      · exact .everyone hfirst
      · exact .wildcard hfirst
    · by_cases hroom : Text.decimal id < 2 ^ 64
      · simp only [named_of_room hdigits hroom, checkRunnable_number hfirst]
        exact .number hfirst hdigits hroom
      · have hlarge := Nat.le_of_not_lt hroom
        simp only [named_of_large hdigits hlarge]
        exact .tooLarge hfirst hdigits hlarge

theorem kindOf_eq_iff : kindOf words line = result ↔ Asks words line result := by
  refine ⟨fun h => h ▸ asks_kindOf words line, fun h => ?_⟩
  cases h with
  | tooLarge hfirst hdigits hlarge =>
    rw [kindOf_of_first hfirst, named_of_large hdigits hlarge]
  | wildcard hfirst =>
    rw [kindOf_of_first hfirst]
    rfl
  | everyone hfirst =>
    rw [kindOf_of_first hfirst]
    rfl
  | number hfirst hdigits hroom =>
    rw [kindOf_of_first hfirst, named_of_room hdigits hroom]
    exact checkRunnable_number hfirst _
  | skip hnone hskip =>
    have hskip : skipModifier ∈ words := hskip
    rw [kindOf_of_undirected hnone, modifiedKind_eq, if_pos hskip]
  | singleFile hnone hskip hsingle =>
    have hskip : skipModifier ∉ words := hskip
    have hsingle : singleFileModifier ∈ words := hsingle
    rw [kindOf_of_undirected hnone, modifiedKind_eq, if_neg hskip, if_pos hsingle]
  | plain hnone hskip hsingle =>
    have hskip : skipModifier ∉ words := hskip
    have hsingle : singleFileModifier ∉ words := hsingle
    rw [kindOf_of_undirected hnone, modifiedKind_eq, if_neg hskip, if_neg hsingle]

end

/-! ## Lines -/

/-- A line that begins with the marker and the language, where the language ends: no letter, digit or
underscore follows. The rest of the line is `info`. -/
structure Opens (language line info : Text) : Prop where
  line_eq : line = "```".toList ++ (language ++ info)
  ended : ∀ c ∈ info.head?, Text.isAlphanumeric c = false ∧ c ≠ '_'

/-- What a line says that may open a block. -/
inductive Reads (language line : Text) (index : Nat) :
    Except Failure (Option Annotation) → Prop where
  /-- A line that begins otherwise opens no block. -/
  | copied (hnone : ∀ info, ¬ Opens language line info) : Reads language line index (.ok none)
  | opening {info rest : Text} {highlight : Option Text} {words : List Text} {kind : BlockKind}
      (hopens : Opens language line info) (hcut : Cut info rest highlight)
      (hwords : Text.Separated rest words) (hasks : Asks words (index + 1) (.ok kind)) :
      Reads language line index (.ok (some ⟨kind, highlight⟩))
  | refused {info rest : Text} {highlight : Option Text} {words : List Text} {failure : Failure}
      (hopens : Opens language line info) (hcut : Cut info rest highlight)
      (hwords : Text.Separated rest words) (hasks : Asks words (index + 1) (.error failure)) :
      Reads language line index (.error failure)

theorem info?_eq_some_iff {language line info : Text} :
    info? language line = some info ↔ Opens language line info := by
  have hended : ∀ rest : Text,
      (rest.head?.any fun c => Text.isAlphanumeric c || c = '_') = false ↔
        ∀ c ∈ rest.head?, Text.isAlphanumeric c = false ∧ c ≠ '_' := by
    intro rest
    cases rest <;> simp
  constructor
  · intro h
    obtain ⟨behind, hbehind, h⟩ := Option.bind_eq_some_iff.1 h
    obtain ⟨rest, hrest, h⟩ := Option.bind_eq_some_iff.1 h
    rw [Option.ite_none_left_eq_some, Bool.not_eq_true, hended] at h
    obtain ⟨hend, hinfo⟩ := h
    obtain rfl := Option.some.inj hinfo
    rw [Text.after?_eq_some_iff] at hbehind hrest
    exact ⟨by rw [hbehind, hrest]; rfl, hend⟩
  · rintro ⟨rfl, hend⟩
    have hmarker : Text.after? marker ("```".toList ++ (language ++ info))
        = some (language ++ info) :=
      Text.after?_eq_some_iff.2 rfl
    have hlanguage : Text.after? language (language ++ info) = some info :=
      Text.after?_eq_some_iff.2 rfl
    rw [info?, hmarker]
    simp only [Option.bind_eq_bind, Option.bind_some, hlanguage, (hended info).2 hend]
    rfl

/-- A line is read as the grammar says: whatever it says of a line is what the line is read as, and
there is nothing else that a line is read as. -/
theorem classify_eq_iff {language line : Text} {index : Nat}
    {result : Except Failure (Option Annotation)} :
    classify language line index = result ↔ Reads language line index result := by
  -- the parts of a line that the grammar names are the ones that it is read in
  have hread : ∀ {info rest highlight words kind}, Opens language line info →
      Cut info rest highlight → Text.Separated rest words → Asks words (index + 1) kind →
      classify language line index = kind.map fun kind => some ⟨kind, highlight⟩ := by
    intro info rest highlight words kind hopens hcut hwords hasks
    rw [classify, info?_eq_some_iff.2 hopens]
    simp only [cutHighlight_eq_iff.2 hcut, Text.words_eq_iff.2 hwords, kindOf_eq_iff.2 hasks]
  constructor
  · rintro rfl
    cases hinfo : info? language line with
    | none =>
      have hcopied : classify language line index = .ok none := by rw [classify, hinfo]
      rw [hcopied]
      refine .copied fun info hopens => ?_
      rw [info?_eq_some_iff.2 hopens] at hinfo
      cases hinfo
    | some info =>
      have hopens := info?_eq_some_iff.1 hinfo
      have hcut := cut_cutHighlight info
      have hwords : Text.Separated (cutHighlight info).1 (Text.words (cutHighlight info).1) :=
        Text.words_eq_iff.1 rfl
      have hasks := asks_kindOf (Text.words (cutHighlight info).1) (index + 1)
      rw [hread hopens hcut hwords hasks]
      cases hkind : kindOf (Text.words (cutHighlight info).1) (index + 1) with
      | ok kind => exact .opening hopens hcut hwords (hkind ▸ hasks)
      | error failure => exact .refused hopens hcut hwords (hkind ▸ hasks)
  · intro h
    cases h with
    | copied hnone =>
      have hinfo : info? language line = none :=
        Option.eq_none_iff_forall_ne_some.2 fun info h => hnone info (info?_eq_some_iff.1 h)
      rw [classify, hinfo]
    | opening hopens hcut hwords hasks => exact hread hopens hcut hwords hasks
    | refused hopens hcut hwords hasks => exact hread hopens hcut hwords hasks

/-- All from the first opening brace to the last closing one is cut out, `-collect_2` among it; then
the first directive that is left decides, and not the one behind it. -/
example :
    Fence.classify "zig".toList
        "```zig \x7ba\x7d -collect_2 \x7bb\x7d -skip -execute_* -test_3".toList 4
      = .error (.wildcardExecution .run 5) := by
  decide +kernel

end Fence

end Weave
