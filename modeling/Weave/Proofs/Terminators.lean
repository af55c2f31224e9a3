import Weave.Proofs.ProseEdits

/-!
# Weave.Proofs.Terminators — how the lines of a page end

A line ends in a line feed or in a carriage return and a line feed, and the last line may end with
the page. How they end makes no difference to what a page asks for, whether it fails, and what is
shown for its blocks. It is seen in one place only: a copied line stands on the page as it stands in
the source.

1. **Pages**: `Written` says which pages can be written from lines; what is read from them is these
   lines (`map_chomp_lines`).
2. **Outlines**: pages that are written from the same lines have the same blocks
   (`outline_alike`).
3. **Rendering**: `Reprinted` says how far two pages are the same (`renderParts_alike`).
4. **Passes**: `weave_terminators`.
-/

namespace Weave

variable {σ : Type}

/-! ## Pages from lines -/

/-- The pages that can be written from lines. Each line is ended by a line feed, with or without a
carriage return in front of it; the last one needs no end, unless it is empty. -/
inductive Written : List Text → Text → Prop where
  | nil : Written [] []
  | last (line : Text) (hne : line ≠ []) : Written [line] line
  | newline (line : Text) {lines : List Text} {content : Text} (hrest : Written lines content) :
      Written (line :: lines) (line ++ '\n' :: content)
  | carriage (line : Text) {lines : List Text} {content : Text} (hrest : Written lines content) :
      Written (line :: lines) (line ++ '\r' :: '\n' :: content)

/-- A page all lines of which end in a line feed, -/
theorem written_newline (lines : List Text) : Written lines (lines.flatMap (· ++ ['\n'])) := by
  induction lines with
  | nil => exact .nil
  | cons line lines ih =>
    rw [List.flatMap_cons, List.append_assoc]
    exact .newline line ih

/-- and one all lines of which have a carriage return in front of it. -/
theorem written_carriage (lines : List Text) :
    Written lines (lines.flatMap (· ++ ['\r', '\n'])) := by
  induction lines with
  | nil => exact .nil
  | cons line lines ih =>
    rw [List.flatMap_cons, List.append_assoc]
    exact .carriage line ih

namespace Text

theorem chomp_of_notMem {s : Text} (hnewline : '\n' ∉ s) (hcarriage : '\r' ∉ s) : chomp s = s := by
  rw [chomp, stripLast_of_notMem hnewline, stripLast_of_notMem hcarriage]

end Text

/-- What is read from a page is what it was written from. -/
theorem map_chomp_lines {lines : List Text} {content : Text} (h : Written lines content)
    (hlines : ∀ line ∈ lines, '\n' ∉ line ∧ '\r' ∉ line) :
    (Text.lines content).map Text.chomp = lines := by
  induction h with
  | nil => rfl
  | last line hne =>
    obtain ⟨hnewline, hcarriage⟩ := hlines line (List.mem_singleton_self line)
    rw [Text.lines_of_noNewline hnewline hne, List.map_singleton,
      Text.chomp_of_notMem hnewline hcarriage]
  | @newline line lines content hrest ih =>
    obtain ⟨⟨hnewline, hcarriage⟩, hlines⟩ := List.forall_mem_cons.1 hlines
    have hended : line ++ '\n' :: content = Text.endLine line ++ content := by simp [Text.endLine]
    rw [hended, Text.lines_endLine_append hnewline, List.map_cons, ih hlines, Text.chomp_endLine,
      Text.stripLast_of_notMem hcarriage]
  | @carriage line lines content hrest ih =>
    -- lines are cut behind line feeds only, so the carriage return is left to `chomp`
    obtain ⟨⟨hnewline, hcarriage⟩, hlines⟩ := List.forall_mem_cons.1 hlines
    have hended : line ++ '\r' :: '\n' :: content = Text.endLine (line ++ ['\r']) ++ content := by
      simp [Text.endLine]
    have hnone : '\n' ∉ line ++ ['\r'] := by simp [hnewline]
    have hstrip : Text.stripLast '\r' (line ++ ['\r']) = line := by simp [Text.stripLast]
    rw [hended, Text.lines_endLine_append hnone, List.map_cons, ih hlines, Text.chomp_endLine,
      hstrip]

/-! ## Outlines -/

/-- Parts that differ in nothing but how a copied line ends. -/
inductive Part.Alike : Part → Part → Prop where
  | prose {line other : Text} (hline : Text.chomp other = Text.chomp line) :
      Alike (.prose line) (.prose other)
  | block (block : Block) : Alike (.block block) (.block block)

/-- Outlines that differ in nothing but how copied lines end. -/
structure Outline.Alike (one other : Outline) : Prop where
  parts : List.Forall₂ Part.Alike one.parts other.parts
  ending : other.ending = one.ending

/-- One more part in front. -/
theorem Outline.Alike.cons {one other : Outline} (h : one.Alike other) {part part' : Part}
    (hpart : part.Alike part') : (one.cons part).Alike (other.cons part') :=
  ⟨.cons hpart h.parts, h.ending⟩

theorem bodyOf_eq_of_chomp {lines others : List Text}
    (h : others.map Text.chomp = lines.map Text.chomp) : bodyOf others = bodyOf lines := by
  have hbody : ∀ lines, bodyOf lines = (lines.map Text.chomp).flatMap Text.endLine := by
    intro lines
    rw [bodyOf, List.flatMap_map]
  rw [hbody, hbody, h]

theorem blockOf_eq_of_chomp {lines others : List Text}
    (h : others.map Text.chomp = lines.map Text.chomp) (opening : Fence.Annotation) (index : Nat) :
    blockOf opening index others = blockOf opening index lines := by
  rw [blockOf, blockOf, bodyOf_eq_of_chomp h]

theorem closes_of_chomp {lines others : List Text}
    (h : others.map Text.chomp = lines.map Text.chomp) (hlines : ∀ line ∈ lines, closes line = false) :
    ∀ line ∈ others, closes line = false := by
  have hchomped : ∀ text ∈ lines.map Text.chomp, Fence.isClose text = false :=
    List.forall_mem_map.2 hlines
  rw [← h] at hchomped
  exact List.forall_mem_map.1 hchomped

section

variable {language : Text}

theorem outline_refused {line : Text} {index : Nat} {failure : Failure}
    (hline : Fence.classify language (Text.chomp line) index = .error failure) (lines : List Text) :
    outline language index (line :: lines) = ⟨[], .refused failure⟩ := by
  rw [outline, hline]

/-- The outline of lines does not depend on how they end, but for the lines that are copied. The
induction follows the outline: a block takes all its lines at once. -/
theorem outline_alike (index : Nat) {lines others : List Text}
    (h : others.map Text.chomp = lines.map Text.chomp) :
    (outline language index lines).Alike (outline language index others) := by
  fun_induction outline language index lines generalizing others with
  | case1 index =>
    obtain rfl := List.map_eq_nil_iff.1 h
    rw [outline]
    exact ⟨.nil, rfl⟩
  | case2 index line lines failure hline =>
    obtain ⟨other, others, rfl, hother, -⟩ := List.map_eq_cons_iff.1 h
    rw [outline_refused (by rw [hother, hline])]
    exact ⟨.nil, rfl⟩
  | case3 index line lines hline ih =>
    obtain ⟨other, others, rfl, hother, hothers⟩ := List.map_eq_cons_iff.1 h
    rw [outline_prose (by rw [hother, hline])]
    exact (ih hothers).cons (.prose hother)
  | case4 index line lines opening hline hdrop =>
    obtain ⟨other, others, rfl, hother, hothers⟩ := List.map_eq_cons_iff.1 h
    have hinner := innerLines_eq_self hdrop
    have hnone : ∀ l ∈ others, closes l = false :=
      closes_of_chomp hothers (hinner ▸ closes_of_mem_innerLines)
    have hdrop' : others.dropWhile (!closes ·) = [] := by
      simpa using hnone
    rw [outline_unclosed (by rw [hother, hline]) hdrop', innerLines_eq_self hdrop', hinner,
      blockOf_eq_of_chomp hothers]
    exact ⟨.nil, rfl⟩
  | case5 index line lines opening hline closing rest hdrop ih =>
    obtain ⟨other, others, rfl, hother, hothers⟩ := List.map_eq_cons_iff.1 h
    obtain ⟨hlines, hcloses⟩ := innerLines_append hdrop
    rw [← hlines, List.map_append, List.map_cons] at hothers
    obtain ⟨inner, below, rfl, hinner, hbelow⟩ := List.map_eq_append_iff.1 hothers
    obtain ⟨closing', rest', rfl, hclosing, hrest⟩ := List.map_eq_cons_iff.1 hbelow
    -- so the block has the same body there, and closes at the same line
    have hopen : ∀ l ∈ inner, closes l = false :=
      closes_of_chomp hinner closes_of_mem_innerLines
    have hcloses' : closes closing' = true := by rwa [closes, hclosing]
    have hlength : inner.length = (innerLines lines).length := by
      simpa using congrArg List.length hinner
    rw [outline_block (by rw [hother, hline]) hopen hcloses', hlength, blockOf_eq_of_chomp hinner]
    exact (ih hrest).cons (.block _)

end

/-! ## Rendering -/

section

variable {options : Options} {runner : Runner σ} {closed : List Block} {parts others : List Part}

theorem blocksOf_alike (h : List.Forall₂ Part.Alike parts others) :
    blocksOf others = blocksOf parts := by
  induction h with
  | nil => rfl
  | cons hpart _ ih =>
    cases hpart with
    | prose => exact ih
    | block block => rw [blocksOf_block, blocksOf_block, ih]

theorem plannedIn_alike (h : List.Forall₂ Part.Alike parts others) :
    plannedIn options closed others = plannedIn options closed parts := by
  induction h generalizing closed with
  | nil => rfl
  | cons hpart _ ih =>
    cases hpart with
    | prose => exact ih
    | block block => simp only [plannedIn, ih]

/-- A block as it is shown, and the report on it, if there is one. -/
def shownWith (options : Options) (block : Block) (report : Option Text) : Text :=
  echo options.language block ++ report.elim [] (resultSection options.resultTag)

/-- Pages that are rendered from the parts of two sources: a copied line stands on each of them as it
stands in its source, and the blocks, their echoes and what is reported on them, are the same. -/
inductive Reprinted (options : Options) : List Part → List Part → Text → Text → Prop where
  | nil : Reprinted options [] [] [] []
  | prose {line other : Text} (hline : Text.chomp other = Text.chomp line) {parts others : List Part}
      {text text' : Text} (hrest : Reprinted options parts others text text') :
      Reprinted options (.prose line :: parts) (.prose other :: others) (line ++ text)
        (other ++ text')
  | block (block : Block) (report : Option Text) {parts others : List Part} {text text' : Text}
      (hrest : Reprinted options parts others text text') :
      Reprinted options (.block block :: parts) (.block block :: others)
        (shownWith options block report ++ text) (shownWith options block report ++ text')

theorem shownWith_of_renderBlock {block : Block} {session after : Session σ} {shown : Text}
    (h : renderBlock options runner closed block session = (.ok shown, after)) :
    ∃ report, shown = shownWith options block report := by
  rcases renderBlock_cases h with ⟨-, rfl, -⟩ | ⟨request, report, -, -, rfl⟩
  · exact ⟨none, by rw [shownWith, Option.elim_none, List.append_nil]⟩
  · exact ⟨some report, rfl⟩

/-- Parts that differ in how copied lines end leave the same session, and either fail the same way or
are rendered to pages that differ in these lines. -/
theorem renderParts_alike (options : Options) (runner : Runner σ)
    (h : List.Forall₂ Part.Alike parts others) (closed : List Block) (session : Session σ) :
    let one := renderParts options runner closed parts session
    let other := renderParts options runner closed others session
    other.2 = one.2 ∧
      ((∃ failure, one.1 = .error failure ∧ other.1 = .error failure) ∨
        ∃ text text', one.1 = .ok text ∧ other.1 = .ok text' ∧
          Reprinted options parts others text text') := by
  induction h generalizing closed session with
  | nil => exact ⟨rfl, .inr ⟨[], [], rfl, rfl, .nil⟩⟩
  | @cons part part' parts others hpart _ ih =>
    cases hpart with
    | prose hline =>
      -- nothing is asked for a copied line
      obtain ⟨hsession, hresult⟩ := ih closed session
      simp only [renderParts_prose, prefixed]
      refine ⟨hsession, ?_⟩
      obtain ⟨failure, hone, hother⟩ | ⟨text, text', hone, hother, hsame⟩ := hresult
      · exact .inl ⟨failure, by rw [hone]; rfl, by rw [hother]; rfl⟩
      · exact .inr ⟨_, _, by rw [hone]; rfl, by rw [hother]; rfl, .prose hline hsame⟩
    | block block =>
      -- both sides render the same block behind the same ones, in the same session
      rcases hblock : renderBlock options runner closed block session with ⟨failure | shown, after⟩
      · rw [renderParts_block_of_error hblock, renderParts_block_of_error hblock]
        exact ⟨rfl, .inl ⟨failure, rfl, rfl⟩⟩
      · obtain ⟨report, rfl⟩ := shownWith_of_renderBlock hblock
        obtain ⟨hsession, hresult⟩ := ih (closed ++ [block]) after
        simp only [renderParts_block_of_ok hblock, prefixed]
        refine ⟨hsession, ?_⟩
        obtain ⟨failure, hone, hother⟩ | ⟨text, text', hone, hother, hsame⟩ := hresult
        · exact .inl ⟨failure, by rw [hone]; rfl, by rw [hother]; rfl⟩
        · exact .inr ⟨_, _, by rw [hone]; rfl, by rw [hother]; rfl, .block block report hsame⟩

end

/-! ## Passes -/

/-- How lines end makes no difference to blocks. Two pages that are written from the same lines ask
the same and leave the same session. Either both fail, with the same failure, or both are rendered,
with the same number of blocks, and the pages differ in how copied lines end and in nothing else. -/
theorem weave_terminators {lines : List Text} {content content' : Text}
    (hlines : ∀ line ∈ lines, '\n' ∉ line ∧ '\r' ∉ line) (hwritten : Written lines content)
    (hwritten' : Written lines content') (options : Options) (runner : Runner σ)
    (session : Session σ) :
    let one := weave options runner content session
    let other := weave options runner content' session
    asked options runner content' session = asked options runner content session ∧
      other.session = one.session ∧
      ((∃ failure, one.result = .error failure ∧ other.result = .error failure) ∨
        ∃ text text' blocks, one.result = .ok ⟨text, blocks⟩ ∧ other.result = .ok ⟨text', blocks⟩ ∧
          Reprinted options (outline options.language 0 (Text.lines content)).parts
            (outline options.language 0 (Text.lines content')).parts text text') := by
  intro one other
  have hchomped : (Text.lines content').map Text.chomp = (Text.lines content).map Text.chomp := by
    rw [map_chomp_lines hwritten hlines, map_chomp_lines hwritten' hlines]
  have halike : (outline options.language 0 (Text.lines content)).Alike
      (outline options.language 0 (Text.lines content')) := outline_alike 0 hchomped
  have hasked : asked options runner content' session = asked options runner content session := by
    rw [asked_eq_planned, asked_eq_planned, planned, planned, plannedIn_alike halike.parts]
  have hone : one.result = _ := outcome_weave.1
  have hother : other.result = _ := outcome_weave.1
  rw [Outline.result_render] at hone hother
  rw [halike.ending, blocksOf_alike halike.parts] at hother
  refine ⟨hasked, ?_, ?_⟩
  · rw [session_weave, session_weave, hasked]
  · generalize (outline options.language 0 (Text.lines content)).ending = ending at hone hother
    obtain ⟨-, ⟨failure, hparts, hparts'⟩ | ⟨text, text', hparts, hparts', hsame⟩⟩ :=
      renderParts_alike options runner halike.parts [] session
    · rw [hparts] at hone
      rw [hparts'] at hother
      exact .inl ⟨failure, hone, hother⟩
    · rw [hparts] at hone
      rw [hparts'] at hother
      -- also a page the parts of which are all rendered fails if it ends badly
      cases ending with
      | complete => exact .inr ⟨text, text', _, hone, hother, hsame⟩
      | refused failure => exact .inl ⟨failure, hone, hother⟩
      | unclosed block => exact .inl ⟨_, hone, hother⟩

/-- The lines of a page that collects a program and runs it. -/
def programLines : List Text :=
  ["A note.", "```zig -collect_1", "a", "```", "```zig -execute_1", "b", "```", "The end."].map
    String.toList

/-- Carriage returns do not get into the program, and they stay in the lines around it. -/
theorem weave_terminators_program :
    let runner := Runner.cached Toolchain.counting .memory
    let plain := programLines.flatMap (· ++ ['\n'])
    let carried := programLines.flatMap (· ++ ['\r', '\n'])
    asked .standard runner carried countingSession = [⟨.run, "a\nb\n".toList⟩] ∧
      ∃ text text', (weave .standard runner plain countingSession).result = .ok ⟨text, 2⟩ ∧
        (weave .standard runner carried countingSession).result = .ok ⟨text', 2⟩ ∧
        Reprinted .standard (outline Options.standard.language 0 (Text.lines plain)).parts
          (outline Options.standard.language 0 (Text.lines carried)).parts text text' := by
  intro runner plain carried
  have hlines : ∀ line ∈ programLines, '\n' ∉ line ∧ '\r' ∉ line := by decide
  have hasked : asked .standard runner plain countingSession = [⟨.run, "a\nb\n".toList⟩] := by
    decide +kernel
  have hblocks : (weave .standard runner plain countingSession).result.toOption.map
      Page.managedBlocks = some 2 := by decide +kernel
  obtain ⟨hsame, -, hresult⟩ := weave_terminators hlines (written_newline programLines)
    (written_carriage programLines) .standard runner countingSession
  refine ⟨hsame.trans hasked, ?_⟩
  obtain ⟨failure, hone, -⟩ | ⟨text, text', blocks, hone, hother, hreprinted⟩ := hresult
  · rw [hone] at hblocks
    cases hblocks
  · rw [hone] at hblocks
    obtain rfl : blocks = 2 := Option.some.inj hblocks
    exact ⟨text, text', hone, hother, hreprinted⟩

end Weave
