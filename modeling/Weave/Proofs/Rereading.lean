import Weave.Proofs.Requests

/-!
# Weave.Proofs.Rereading — the blocks of a page are those of its source

A page is a text like its source, and can be read again. What is found then are the blocks of the
source with their bodies and annotations, all of them plain, as long as nothing that was spliced in
looks like an opening line.

1. **Lines**: `Lined` says what cutting a text into lines comes to; texts that end in a line feed are
   cut on their own (`lines_append`).
2. **Echoes**: the opening line of an echo has the annotation of its block
   (`classify_openingLine`), the lines of its body are found again (`lines_bodyOf_append`,
   `closes_bodyLine`), and so is the block (`outline_echo_append`).
3. **Pages**: a page is printed from the parts of its source (`printed_of_renderParts`), whose blocks
   are found in it again (`outline_printed`, `closedBlocks_weave`).
-/

namespace Weave

/-! ## Lines of texts -/

namespace Text

theorem lines_ne_nil {c : Char} {s : Text} : lines (c :: s) ≠ [] := by
  rw [lines]
  split
  · simp
  · split <;> simp

/-- A line feed ends a line, whatever comes behind it. -/
theorem lines_append_newline (s rest : Text) :
    lines (s ++ '\n' :: rest) = lines (s ++ ['\n']) ++ lines rest := by
  induction s with
  | nil => rfl
  | cons c s ih =>
    rw [List.cons_append, List.cons_append, lines, lines, ih]
    split
    · rfl
    · cases hs : lines (s ++ ['\n']) with
      | nil =>
        -- a text that is not empty has a line
        obtain ⟨c, cs, hcs⟩ := List.exists_cons_of_ne_nil (List.append_ne_nil_of_right_ne_nil s
          (List.cons_ne_nil '\n' []))
        rw [hcs] at hs
        exact absurd hs lines_ne_nil
      | cons l ls => rfl

/-- A text that ends in a line feed is cut on its own. -/
theorem lines_append {s : Text} (h : s = [] ∨ ∃ start, s = start ++ ['\n']) (rest : Text) :
    lines (s ++ rest) = lines s ++ lines rest := by
  obtain rfl | ⟨start, rfl⟩ := h
  · rfl
  · rw [List.append_assoc, List.singleton_append, lines_append_newline]

/-- What is left when a text without line feeds is cut: one line. -/
theorem lines_of_noNewline {s : Text} (h : '\n' ∉ s) (hne : s ≠ []) : lines s = [s] := by
  induction s with
  | nil => exact absurd rfl hne
  | cons c s ih =>
    rw [List.mem_cons, not_or] at h
    rw [lines, if_neg (Ne.symm h.1)]
    cases s with
    | nil => rfl
    | cons d s => rw [ih h.2 (by simp)]

/-- A line is cut off as it was ended. -/
theorem lines_endLine_append {s : Text} (h : '\n' ∉ s) (rest : Text) :
    lines (endLine s ++ rest) = endLine s :: lines rest := by
  induction s with
  | nil => rfl
  | cons c s ih =>
    rw [List.mem_cons, not_or] at h
    have hs := ih h.2
    rw [endLine] at hs
    rw [endLine, List.cons_append, List.cons_append, lines, if_neg (Ne.symm h.1), hs]

end Text

/-- Lines as they come from a text: every one of them ends in its only line feed, but for the last one,
which may have none. -/
inductive Lined : List Text → Prop where
  | nil : Lined []
  | last (text : Text) (hnone : '\n' ∉ text) (hne : text ≠ []) : Lined [text]
  | cons (text : Text) (hnone : '\n' ∉ text) {lines : List Text} (hlines : Lined lines) :
      Lined (Text.endLine text :: lines)

theorem lined_lines (s : Text) : Lined (Text.lines s) := by
  fun_induction Text.lines s with
  | case1 => exact .nil
  | case2 cs ih => exact .cons [] (by simp) ih
  | case3 c cs hc hcs ih => exact .last [c] (by simpa using Ne.symm hc) (by simp)
  | case4 c cs hc l ls hcs ih =>
    rw [hcs] at ih
    cases ih with
    | last text hnone hne => exact .last (c :: l) (by simp [Ne.symm hc, hnone]) (by simp)
    | cons text hnone hlines => exact .cons (c :: text) (by simp [Ne.symm hc, hnone]) hlines

/-- The lines above another one all end in a line feed. -/
theorem Lined.of_append {above below : List Text} {line : Text}
    (h : Lined (above ++ line :: below)) :
    (∀ l ∈ above, ∃ text, l = Text.endLine text ∧ '\n' ∉ text) ∧ Lined below := by
  induction above with
  | nil =>
    cases h with
    | last text hnone hne => exact ⟨by simp, .nil⟩
    | cons text hnone hlines => exact ⟨by simp, hlines⟩
  | cons l above ih =>
    rw [List.cons_append] at h
    generalize hrest : above ++ line :: below = rest at h
    cases h with
    | last text hnone hne => simp at hrest
    | cons text hnone hlines =>
      obtain ⟨habove, hbelow⟩ := ih (hrest ▸ hlines)
      exact ⟨List.forall_mem_cons.2 ⟨⟨text, rfl, hnone⟩, habove⟩, hbelow⟩

/-! ## Lines without their terminators -/

namespace Text

theorem stripLast_subset (c : Char) (s : Text) : stripLast c s ⊆ s := by
  unfold stripLast
  split
  · exact List.dropLast_subset s
  · exact List.Subset.refl s

theorem stripLast_of_notMem {c : Char} {s : Text} (h : c ∉ s) : stripLast c s = s :=
  if_neg fun hlast => h (List.mem_of_getLast? hlast)

theorem chomp_endLine (s : Text) : chomp (endLine s) = stripLast '\r' s := by
  simp [chomp, endLine, stripLast]

theorem chomp_endLine_of_ne {s : Text} (h : s.getLast? ≠ some '\r') : chomp (endLine s) = s := by
  rw [chomp_endLine, stripLast, if_neg h]

/-- A line without its terminator ends in a carriage return only if there were two of them. -/
theorem chomp_endLine_of_getLast? {s : Text} (h : (chomp (endLine s)).getLast? = some '\r') :
    ∃ start, s = start ++ ['\r', '\r'] := by
  rw [chomp_endLine] at h
  by_cases hlast : s.getLast? = some '\r'
  · rw [stripLast, if_pos hlast] at h
    obtain ⟨front, hfront⟩ := List.getLast?_eq_some_iff.1 hlast
    rw [hfront, List.dropLast_concat] at h
    obtain ⟨start, hstart⟩ := List.getLast?_eq_some_iff.1 h
    exact ⟨start, by rw [hfront, hstart, List.append_assoc, List.singleton_append]⟩
  · rw [stripLast, if_neg hlast] at h
    exact absurd h hlast

end Text

/-! ## Annotations -/

namespace Fence

/-- An annotation as it is written: from an opening to a closing brace. -/
structure Braced (braces : Text) : Prop where
  opens : braces.head? = some '\x7b'
  closes : braces.getLast? = some '\x7d'

/-- What is cut out stands in braces, and nothing is in it that was not there. -/
theorem braced_of_cutHighlight {info braces : Text}
    (h : (cutHighlight info).2 = some braces) : Braced braces ∧ braces ⊆ info := by
  unfold cutHighlight at h
  simp only at h
  split at h
  · cases h
  · next hne =>
    obtain rfl := Option.some.inj h
    rw [List.isEmpty_iff] at hne
    have hcut : Text.trimEndWhere (· ≠ '\x7d') (info.dropWhile (· ≠ '\x7b'))
        <+: info.dropWhile (· ≠ '\x7b') :=
      List.rdropWhile_prefix _ _
    -- the cut stops at the first opening brace and at the last closing one
    have hlast := List.rdropWhile_last_not (· ≠ '\x7d') (info.dropWhile (· ≠ '\x7b')) hne
    have hfirst := List.head?_dropWhile_not (· ≠ '\x7b') info
    refine ⟨⟨?_, ?_⟩, List.Subset.trans hcut.subset (List.dropWhile_subset _)⟩
    · obtain ⟨c, cs, hcs⟩ := List.exists_cons_of_ne_nil hne
      rw [hcs] at hcut ⊢
      obtain ⟨rest, hrest⟩ := hcut
      rw [← hrest] at hfirst
      simpa using hfirst
    · rw [List.getLast?_eq_some_getLast hne]
      have hbrace : (List.rdropWhile (· ≠ '\x7d') (info.dropWhile (· ≠ '\x7b'))).getLast hne
          = '\x7d' := by
        simpa using hlast
      exact congrArg some hbrace

/-- An annotation behind a space is cut out again. -/
theorem cutHighlight_braced {braces : Text} (h : Braced braces) :
    cutHighlight (' ' :: braces) = ([' '], some braces) := by
  obtain ⟨rest, rfl⟩ : ∃ rest, braces = '\x7b' :: rest := by
    cases braces with
    | nil => cases h.opens
    | cons c rest => exact ⟨rest, by rw [Option.some.inj h.opens]⟩
  have hbefore : (' ' :: '\x7b' :: rest).takeWhile (· ≠ '\x7b') = [' '] := by simp
  have hbraced : (' ' :: '\x7b' :: rest).dropWhile (· ≠ '\x7b') = '\x7b' :: rest := by simp
  have hwhole : Text.trimEndWhere (· ≠ '\x7d') ('\x7b' :: rest) = '\x7b' :: rest := by
    refine List.rdropWhile_eq_self_iff.2 fun hne => ?_
    have hlast := h.closes
    rw [List.getLast?_eq_some_getLast hne] at hlast
    simpa using Option.some.inj hlast
  unfold cutHighlight
  simp only [hbefore, hbraced, hwhole, List.drop_length]
  rfl

theorem after?_append (start rest : Text) : Text.after? start (start ++ rest) = some rest := by
  induction start with
  | nil => cases rest <;> rfl
  | cons c start ih =>
    rw [Text.after?] at ih
    rw [Text.after?, List.cons_append, List.isPrefixOf?, if_pos (beq_self_eq_true c), ih]

/-- An opening line of a page asks for nothing but its annotation. -/
theorem classify_openingLine (language : Text) {highlight : Option Text}
    (hbraced : ∀ braces ∈ highlight, Braced braces) (index : Nat) :
    classify language (Loom.openingLine language highlight) index
      = .ok (some ⟨.plain, highlight⟩) := by
  cases highlight with
  | none =>
    have hinfo : info? language (Loom.openingLine language none) = some [] := by
      have hrest := after?_append language []
      rw [List.append_nil] at hrest
      simp [info?, Loom.openingLine, after?_append, hrest]
    rw [classify, hinfo]
    rfl
  | some braces =>
    have hinfo : info? language (Loom.openingLine language (some braces))
        = some (' ' :: braces) := by
      have hspace : (Text.isAlphanumeric ' ' || decide (' ' = '_')) = false := by decide +kernel
      simp only [info?, Loom.openingLine, List.append_assoc, after?_append, Option.bind_eq_bind,
        Option.bind_some, List.head?_cons, Option.any_some, hspace]
      rfl
    have hwords : Text.words [' '] = [] := by decide
    rw [classify, hinfo]
    simp only [cutHighlight_braced (hbraced braces rfl), hwords]
    rfl

/-- A line is no opening line exactly if nothing follows the marker and the language on it. -/
theorem classify_eq_none_iff {language line : Text} {index : Nat} :
    classify language line index = .ok none ↔ info? language line = none := by
  unfold classify
  cases info? language line with
  | none => simp
  | some info =>
    cases hkind : kindOf (Text.words (cutHighlight info).1) (index + 1) <;>
      simp [hkind, Except.map]

/-- What follows the marker and the language stands on the line. -/
theorem subset_of_info? {language line info : Text} (h : info? language line = some info) :
    info ⊆ line := by
  unfold info? at h
  obtain ⟨behind, hbehind, h⟩ := Option.bind_eq_some_iff.1 h
  obtain ⟨rest, hrest, h⟩ := Option.bind_eq_some_iff.1 h
  have hinfo : rest = info := by
    split at h
    · cases h
    · exact Option.some.inj h
  rw [← List.append_eq_of_isPrefixOf?_eq_some hbehind,
    ← List.append_eq_of_isPrefixOf?_eq_some hrest, hinfo]
  exact List.Subset.trans (List.subset_append_right language info) (List.subset_append_right marker _)

/-- The annotation of an opening line stands in braces on that line. -/
theorem braced_of_classify {language line : Text} {index : Nat} {opening : Annotation}
    (h : classify language line index = .ok (some opening)) :
    ∀ braces ∈ opening.highlight, Braced braces ∧ braces ⊆ line := by
  unfold classify at h
  split at h
  · cases h
  · next info hinfo =>
    cases hkind : kindOf (Text.words (cutHighlight info).1) (index + 1) with
    | error failure => simp [hkind, Except.map] at h
    | ok kind =>
      simp only [hkind, Except.map, Except.ok.injEq, Option.some.injEq] at h
      intro braces hbraces
      rw [← h] at hbraces
      obtain ⟨hbraced, hsubset⟩ := braced_of_cutHighlight hbraces
      exact ⟨hbraced, List.Subset.trans hsubset (subset_of_info? hinfo)⟩

end Fence

/-! ## Lines above other lines -/

/-- A line that is one again when it is put out without its terminator and ended anew. -/
structure Inner (line : Text) : Prop where
  newline : '\n' ∉ Text.chomp line
  carriage : (Text.chomp line).getLast? ≠ some '\r'

/-- Such is every line that ends in a line feed, unless two carriage returns stand before that. -/
theorem inner_endLine {text : Text} (hnone : '\n' ∉ text)
    (hsingle : ¬ ['\r', '\r', '\n'] <:+: Text.endLine text) : Inner (Text.endLine text) where
  newline := by
    rw [Text.chomp_endLine]
    exact fun h => hnone (Text.stripLast_subset _ _ h)
  carriage := by
    intro h
    obtain ⟨start, rfl⟩ := Text.chomp_endLine_of_getLast? h
    refine hsingle ⟨start, [], ?_⟩
    rw [Text.endLine, List.append_nil, List.append_assoc]
    rfl

/-- A line as it stands in a body. -/
def bodyLine (line : Text) : Text :=
  Text.endLine (Text.chomp line)

theorem chomp_bodyLine {line : Text} (h : Inner line) :
    Text.chomp (bodyLine line) = Text.chomp line :=
  Text.chomp_endLine_of_ne h.carriage

/-- The lines of a body are found again. -/
theorem lines_bodyOf_append {inner : List Text} (hinner : ∀ line ∈ inner, Inner line)
    (rest : Text) :
    Text.lines (bodyOf inner ++ rest) = inner.map bodyLine ++ Text.lines rest := by
  induction inner with
  | nil => rfl
  | cons line inner ih =>
    obtain ⟨hline, hinner⟩ := List.forall_mem_cons.1 hinner
    calc Text.lines (bodyOf (line :: inner) ++ rest)
        = Text.lines (bodyLine line ++ (bodyOf inner ++ rest)) := by
          simp [bodyOf, bodyLine]
      _ = bodyLine line :: Text.lines (bodyOf inner ++ rest) :=
          Text.lines_endLine_append hline.newline _
      _ = (line :: inner).map bodyLine ++ Text.lines rest := by
          rw [ih hinner, List.map_cons, List.cons_append]

/-- They make up the same body, -/
theorem bodyOf_map_bodyLine {inner : List Text} (hinner : ∀ line ∈ inner, Inner line) :
    bodyOf (inner.map bodyLine) = bodyOf inner := by
  induction inner with
  | nil => rfl
  | cons line inner ih =>
    obtain ⟨hline, hinner⟩ := List.forall_mem_cons.1 hinner
    have htail := ih hinner
    simp only [bodyOf] at htail ⊢
    rw [List.map_cons, List.flatMap_cons, List.flatMap_cons, htail, chomp_bodyLine hline]

/-- and none of them closes the block. -/
theorem closes_bodyLine {line : Text} (h : Inner line) : closes (bodyLine line) = closes line := by
  rw [closes, closes, chomp_bodyLine h]

/-! ## Outlines of lines -/

section

variable {language : Text}

/-- Lines that open no block add none. -/
theorem outline_append {copied : List Text}
    (hcopied : ∀ line ∈ copied, Fence.info? language (Text.chomp line) = none) (index : Nat)
    (rest : List Text) :
    (outline language index (copied ++ rest)).ending
        = (outline language (index + copied.length) rest).ending
      ∧ blocksOf (outline language index (copied ++ rest)).parts
        = blocksOf (outline language (index + copied.length) rest).parts := by
  induction copied generalizing index with
  | nil => exact ⟨rfl, rfl⟩
  | cons line copied ih =>
    obtain ⟨hline, hcopied⟩ := List.forall_mem_cons.1 hcopied
    have hclassify : Fence.classify language (Text.chomp line) index = .ok none :=
      Fence.classify_eq_none_iff.2 hline
    have hnext := ih hcopied (index + 1)
    rw [Nat.add_assoc, Nat.add_comm 1] at hnext
    rw [List.cons_append, outline, hclassify]
    exact hnext

/-- Lines that open a block and close it. -/
theorem outline_block {opener closer : Text} {index : Nat} {opening : Fence.Annotation}
    (hopener : Fence.classify language (Text.chomp opener) index = .ok (some opening))
    {inner : List Text} (hinner : ∀ line ∈ inner, closes line = false)
    (hcloser : closes closer = true) (rest : List Text) :
    outline language index (opener :: (inner ++ closer :: rest))
      = (outline language (index + inner.length + 2) rest).cons
          (.block (blockOf opening index inner)) := by
  have hopen : ∀ line ∈ inner, (!closes line) = true := by simpa using hinner
  have htake : innerLines (inner ++ closer :: rest) = inner := by
    rw [innerLines, List.takeWhile_append_of_pos hopen, List.takeWhile_cons_of_neg (by simp [hcloser]),
      List.append_nil]
  have hdrop : (inner ++ closer :: rest).dropWhile (!closes ·) = closer :: rest := by
    rw [List.dropWhile_append_of_pos hopen, List.dropWhile_cons_of_neg (by simp [hcloser])]
  rw [outline, hopener]
  simp only
  split
  · next hnone =>
    rw [hdrop] at hnone
    cases hnone
  · next closer' rest' hrest =>
    rw [hdrop] at hrest
    obtain ⟨-, rfl⟩ := List.cons.inj hrest
    rw [htake]

end

/-! ## Printed pages -/

/-- A text that is cut into lines on its own, none of which opens a block. -/
structure Silent (language text : Text) : Prop where
  ended : text = [] ∨ ∃ start, text = start ++ ['\n']
  copied : ∀ line ∈ Text.lines text, Fence.info? language (Text.chomp line) = none

theorem silent_nil (language : Text) : Silent language [] :=
  ⟨.inl rfl, by simp [Text.lines]⟩

/-- A report ends with the line that closes it. -/
theorem silent_resultSection {language resultTag report : Text}
    (h : ∀ line ∈ Text.lines (resultSection resultTag report),
      Fence.info? language (Text.chomp line) = none) :
    Silent language (resultSection resultTag report) where
  ended := by
    refine .inr ⟨'\n' :: Fence.marker ++ resultTag ++ "\n".toList ++ report ++ Fence.marker, ?_⟩
    simp [resultSection, Fence.marker]
  copied := h

/-- The pages that are printed from some parts: copied lines, and echoes with nothing below them but
what opens no block. -/
inductive Printed (language : Text) : List Part → Text → Prop where
  | nil : Printed language [] []
  | prose (line : Text) {parts : List Part} {text : Text} (hrest : Printed language parts text) :
      Printed language (.prose line :: parts) (line ++ text)
  | block (block : Block) {below : Text} (hbelow : Silent language below) {parts : List Part}
      {text : Text} (hrest : Printed language parts text) :
      Printed language (.block block :: parts) (echo language block ++ below ++ text)

section

variable {σ : Type} {options : Options} {runner : Runner σ}

/-- A block is shown as its echo, and what its request is answered stands below it. -/
theorem shown_of_renderBlock {closed : List Block} {block : Block} {session after : Session σ}
    {shown : Text} (h : renderBlock options runner closed block session = (.ok shown, after))
    (hsilent : ∀ call ∈ runner.calls (requestOf options closed block) session, ∀ report,
      call.answer = .ok report →
        Silent options.language (resultSection options.resultTag report)) :
    ∃ below, Silent options.language below ∧ shown = echo options.language block ++ below := by
  rcases renderBlock_cases h with ⟨-, rfl, -⟩ | ⟨request, report, hrequest, hrun, rfl⟩
  · exact ⟨[], silent_nil _, by rw [List.append_nil]⟩
  · refine ⟨resultSection options.resultTag report, ?_, rfl⟩
    simp only [requestOf, hrequest, Runner.calls, List.mem_singleton, forall_eq, hrun] at hsilent
    exact hsilent report rfl

/-- A page is printed from the parts of its source. -/
theorem printed_of_renderParts {parts : List Part} {closed : List Block}
    {session after : Session σ} {text : Text}
    (h : renderParts options runner closed parts session = (.ok text, after))
    (hsilent : ∀ call ∈ runner.calls (requestsOf options closed parts) session, ∀ report,
      call.answer = .ok report →
        Silent options.language (resultSection options.resultTag report)) :
    Printed options.language parts text := by
  induction parts generalizing closed session text with
  | nil =>
    obtain ⟨htext, -⟩ := Prod.mk.inj h
    rw [← Except.ok.inj htext]
    exact .nil
  | cons part parts ih =>
    cases part with
    | prose line =>
      rw [renderParts] at h
      split at h
      · simp at h
      · next more session' hparts =>
        obtain ⟨htext, rfl⟩ := Prod.mk.inj h
        rw [← Except.ok.inj htext]
        exact .prose line (ih hparts hsilent)
    | block block =>
      rw [renderParts] at h
      split at h
      · simp at h
      · next shown between hblock =>
        split at h
        · simp at h
        · next more session' hparts =>
          obtain ⟨htext, rfl⟩ := Prod.mk.inj h
          rw [requestsOf, Runner.calls_append, ← (session_renderBlock hblock).1] at hsilent
          obtain ⟨below, hbelow, hshown⟩ := shown_of_renderBlock hblock
            fun call hcall => hsilent call (List.mem_append_left _ hcall)
          rw [← Except.ok.inj htext, hshown]
          exact .block block hbelow
            (ih hparts fun call hcall => hsilent call (List.mem_append_right _ hcall))

end

/-! ## The blocks of a page -/

/-- The lines of an echo. -/
theorem lines_echo_append {language : Text} (hlanguage : '\n' ∉ language) {block : Block}
    (hhighlight : ∀ braces ∈ block.highlight, '\n' ∉ braces) {inner : List Text}
    (hinner : ∀ line ∈ inner, Inner line) (hbody : block.body = bodyOf inner) (rest : Text) :
    Text.lines (echo language block ++ rest)
      = Text.endLine (Loom.openingLine language block.highlight)
        :: (inner.map bodyLine ++ Text.endLine Fence.marker :: Text.lines rest) := by
  have hopening : '\n' ∉ Loom.openingLine language block.highlight := by
    cases hblock : block.highlight with
    | none => simp [Loom.openingLine, Fence.marker, hlanguage]
    | some braces =>
      simp [Loom.openingLine, Fence.marker, hlanguage, hhighlight braces hblock]
  rw [← shownBlock_eq_echo, Loom.shownBlock, List.append_assoc, List.append_assoc,
    Text.lines_endLine_append hopening, hbody, lines_bodyOf_append hinner,
    Text.lines_endLine_append (by simp [Fence.marker])]

/-- The opening line of an echo ends in no carriage return, unless the language does. -/
theorem chomp_openingLine {language : Text} (hlanguage : '\r' ∉ language) {highlight : Option Text}
    (hbraced : ∀ braces ∈ highlight, Fence.Braced braces) :
    Text.chomp (Text.endLine (Loom.openingLine language highlight))
      = Loom.openingLine language highlight := by
  apply Text.chomp_endLine_of_ne
  cases highlight with
  | none =>
    intro hlast
    have hmem := List.mem_of_getLast? hlast
    simp [Loom.openingLine, Fence.marker, hlanguage] at hmem
  | some braces =>
    have hlast : (' ' :: braces).getLast? = some '\x7d' := by
      rw [List.getLast?_cons, (hbraced braces rfl).closes]
      rfl
    rw [Loom.openingLine, List.getLast?_append, hlast, Option.some_or]
    decide

/-- A block is found again in its echo, whatever stands below that. -/
theorem outline_echo_append {language : Text} (hnewline : '\n' ∉ language)
    (hcarriage : '\r' ∉ language) (block : Block)
    (hhighlight : ∀ braces ∈ block.highlight, Fence.Braced braces ∧ '\n' ∉ braces)
    {inner : List Text} (hinner : ∀ line ∈ inner, Inner line ∧ closes line = false)
    (hbody : block.body = bodyOf inner) (index : Nat) (rest : Text) :
    outline language index (Text.lines (echo language block ++ rest))
      = (outline language (index + inner.length + 2) (Text.lines rest)).cons
          (.block ⟨.plain, block.body, index, block.highlight⟩) := by
  have hlines := lines_echo_append hnewline (fun braces h => (hhighlight braces h).2)
    (fun line h => (hinner line h).1) hbody rest
  have hopening := Fence.classify_openingLine language
    (fun braces h => (hhighlight braces h).1) index
  rw [← chomp_openingLine hcarriage fun braces h => (hhighlight braces h).1] at hopening
  have hopen : ∀ line ∈ inner.map bodyLine, closes line = false := by
    rw [List.forall_mem_map]
    intro line hline
    rw [closes_bodyLine (hinner line hline).1, (hinner line hline).2]
  have hcloser : closes (Text.endLine Fence.marker) = true := by decide
  have hblock := outline_block hopening hopen hcloser (Text.lines rest)
  rw [hlines, hblock, blockOf, bodyOf_map_bodyLine fun line h => (hinner line h).1, ← hbody,
    List.length_map]

/-- In a printed page are the blocks of the parts that it was printed from, as plain ones. -/
theorem outline_printed {language : Text} (hnewline : '\n' ∉ language) (hcarriage : '\r' ∉ language)
    {index : Nat} {lines : List Text} (hlined : Lined lines)
    (hsingle : ∀ line ∈ lines, ¬ ['\r', '\r', '\n'] <:+: line)
    (hcomplete : (outline language index lines).ending = .complete) {text : Text}
    (hprinted : Printed language (outline language index lines).parts text) (later : Nat) :
    (outline language later (Text.lines text)).ending = .complete
      ∧ (blocksOf (outline language later (Text.lines text)).parts).map
          (fun block => (block.kind, block.highlight, block.body))
        = (blocksOf (outline language index lines).parts).map
          (fun block => (.plain, block.highlight, block.body)) := by
  fun_induction outline language index lines generalizing text later with
  | case1 index =>
    -- no line is left
    cases hprinted
    simp [Text.lines, outline]
  | case2 index line lines failure hline => cases hcomplete
  | case3 index line lines hline ih =>
    -- the line is copied
    rw [Outline.parts_cons] at hprinted
    obtain ⟨-, hlines⟩ := Lined.of_append (List.nil_append (line :: lines) ▸ hlined)
    cases hprinted with
    | prose _ hrest =>
      next more =>
      -- only the last line of the source may lack a line feed, and nothing is printed below it
      have hcut : Text.lines (line ++ more) = [line] ++ Text.lines more := by
        cases hlined with
        | last _ hnone hne =>
          rw [outline] at hrest
          cases hrest
          rw [List.append_nil, Text.lines_of_noNewline hnone hne]
          rfl
        | cons _ hnone _ => exact Text.lines_endLine_append hnone more
      have hcopied : ∀ l ∈ [line], Fence.info? language (Text.chomp l) = none := by
        simpa using Fence.classify_eq_none_iff.1 hline
      obtain ⟨hending, hblocks⟩ := outline_append hcopied later (Text.lines more)
      rw [hcut, hending, hblocks]
      exact ih hlines (fun l hl => hsingle l (List.mem_cons_of_mem _ hl)) hcomplete hrest _
  | case4 index line lines opening hline hdrop => cases hcomplete
  | case5 index line lines opening hline closing rest hdrop ih =>
    -- the line opens a block that is closed
    rw [Outline.parts_cons] at hprinted
    obtain ⟨hlines, hcloses⟩ := innerLines_append hdrop
    rw [← hlines, ← List.cons_append] at hlined hsingle
    obtain ⟨hended, hrests⟩ := hlined.of_append
    have habove : ∀ l ∈ line :: innerLines lines, Inner l := by
      intro l hl
      obtain ⟨s, rfl, hnone⟩ := hended l hl
      exact inner_endLine hnone (hsingle _ (List.mem_append_left _ hl))
    obtain ⟨hopener, hinner⟩ := List.forall_mem_cons.1 habove
    have hhighlight : ∀ braces ∈ opening.highlight, Fence.Braced braces ∧ '\n' ∉ braces := by
      intro braces hbraces
      obtain ⟨hbraced, hsubset⟩ := Fence.braced_of_classify hline braces hbraces
      exact ⟨hbraced, fun h => hopener.newline (hsubset h)⟩
    cases hprinted with
    | block _ hbelow hrest =>
      next below more =>
      have hecho := outline_echo_append hnewline hcarriage
        (blockOf opening index (innerLines lines)) hhighlight
        (fun l hl => ⟨hinner l hl, closes_of_mem_innerLines l hl⟩) rfl later (below ++ more)
      obtain ⟨hending, hblocks⟩ := outline_append hbelow.copied
        (later + (innerLines lines).length + 2) (Text.lines more)
      obtain ⟨hcomplete', hblocks'⟩ := ih hrests
        (fun l hl => hsingle l (List.mem_append_right _ (List.mem_cons_of_mem _ hl))) hcomplete
        hrest (later + (innerLines lines).length + 2 + (Text.lines below).length)
      rw [List.append_assoc, hecho, Text.lines_append hbelow.ended]
      simp only [Outline.ending_cons, Outline.parts_cons, blocksOf_block, List.map_cons, hending,
        hblocks, hcomplete', hblocks', true_and]

/-- Reading a page finds the blocks of its source: as many, with the same bodies and annotations, in
the same order, all of them plain and closed. The reports that were spliced in must not look like
opening lines, and no line of the source may end in two carriage returns and a line feed. -/
theorem closedBlocks_weave {σ : Type} {options : Options} {runner : Runner σ} {content : Text}
    {session : Session σ} {page : Page}
    (hnewline : '\n' ∉ options.language) (hcarriage : '\r' ∉ options.language)
    (hpage : (weave options runner content session).result = .ok page)
    (hsingle : ¬ ['\r', '\r', '\n'] <:+: content)
    (hsilent : ∀ call ∈ runner.calls (asked options runner content session) session,
      ∀ report, call.answer = .ok report →
        ∀ line ∈ Text.lines (resultSection options.resultTag report),
          Fence.info? options.language (Text.chomp line) = none) :
    (outline options.language 0 (Text.lines page.content)).ending = .complete
      ∧ (closedBlocks options.language (Text.lines page.content)).map
          (fun block => (block.kind, block.highlight, block.body))
        = (closedBlocks options.language (Text.lines content)).map
          (fun block => (.plain, block.highlight, block.body)) := by
  have hparts := renderParts_of_weave hpage
  -- a page that was rendered is printed from its parts, and its source is complete
  rw [asked_eq hpage] at hsilent
  have hprinted := printed_of_renderParts hparts fun call hcall report hreport =>
    silent_resultSection (hsilent call hcall report hreport)
  have hlines : ∀ line ∈ Text.lines content, ¬ ['\r', '\r', '\n'] <:+: line := by
    intro line hline hwithin
    refine hsingle (hwithin.trans ?_)
    rw [← Text.flatten_lines content]
    exact List.infix_of_mem_flatten hline
  exact outline_printed hnewline hcarriage (lined_lines content) hlines (complete_of_weave hpage)
    hprinted 0

/-- The runner that reports the programs that it is given. -/
def Runner.reciting : Runner Unit :=
  fun request session => (.ok request.body, session)

/-- A page with an annotated block whose lines end in carriage returns, and a block that is only
shown. -/
def annotatedPage : Text :=
  "# t\n```zig \x7b.a\x7d -singleFile\r\nb\r\n``` \r\n```zig -skip\nc\n```".toList

/-- Both blocks are found on the page, the first one above its report. -/
theorem closedBlocks_weave_annotated : ∃ page,
    (weave .standard .reciting annotatedPage (.start ())).result = .ok page ∧
      (closedBlocks Options.standard.language (Text.lines page.content)).map
          (fun block => (block.kind, block.highlight, block.body))
        = [(.plain, some "\x7b.a\x7d".toList, "b\n".toList), (.plain, none, "c\n".toList)] := by
  let page : Page :=
    ⟨"# t\n```zig \x7b.a\x7d\nb\n```\n\n```ansi\nb\n```\n```zig\nc\n```\n".toList, 2⟩
  have hpage : (weave .standard .reciting annotatedPage (.start ())).result = .ok page := by
    decide +kernel
  have hanswers : (Runner.reciting.calls
      (asked .standard .reciting annotatedPage (.start ())) (.start ())).map Call.answer
      = [.ok "b\n".toList] := by
    decide +kernel
  have hsilent : ∀ line ∈ Text.lines (resultSection Options.standard.resultTag "b\n".toList),
      Fence.info? Options.standard.language (Text.chomp line) = none := by
    decide +kernel
  have hblocks : (closedBlocks Options.standard.language (Text.lines annotatedPage)).map
      (fun block => (block.highlight, block.body))
      = [(some "\x7b.a\x7d".toList, "b\n".toList), (none, "c\n".toList)] := by
    decide +kernel
  refine ⟨page, hpage, ?_⟩
  have hread := closedBlocks_weave (by decide) (by decide) hpage (by decide +kernel) ?_
  · rw [hread.2]
    have hplain := congrArg (List.map fun shown : Option Text × Text =>
      (BlockKind.plain, shown.1, shown.2)) hblocks
    rw [List.map_map] at hplain
    exact hplain
  · intro call hcall report hreport
    have hanswer := List.mem_map_of_mem (f := Call.answer) hcall
    rw [hanswers, List.mem_singleton, hreport] at hanswer
    rw [Except.ok.inj hanswer]
    exact hsilent

end Weave
