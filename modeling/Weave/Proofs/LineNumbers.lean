import Weave.Process
import Weave.Proofs.OpeningLines
import Weave.Proofs.ProseEdits

/-!
# Weave.Proofs.LineNumbers — failures name the line of the block that is in error

A failure of a page names the line where a block is opened, or would be: not the line where the block
ends, although most failures are only found there. Lines are counted from one.

1. **Outlines** can be cut between any two of their parts (`exists_lines_of_parts`), so every block, and
   what ends an outline early, has an opening line that stands outside of all blocks
   (`exists_opener_of_mem`, `exists_opener_of_refused`, `exists_opener_of_unclosed`).
2. **Failures** that name a line are those of opening lines (`line_of_classify`) and of blocks
   (`line_of_request?`). What else fails is a request (`error_of_renderParts`).
3. **Pages**: `line_of_weave`.
-/

namespace Weave

variable {σ : Type}

/-! ## Lines of an outline -/

section

variable {language : Text} {index : Nat} {lines : List Text}

/-- The first part of an outline is a line that is copied, or has all lines of a block. The other parts
are those of the lines below. -/
theorem outline_cons {part : Part} {parts : List Part}
    (h : (outline language index lines).parts = part :: parts) :
    ∃ head rest, lines = head ++ rest ∧ outline language index head = ⟨[part], .complete⟩ ∧
      outline language (index + head.length) rest
        = ⟨parts, (outline language index lines).ending⟩ := by
  revert h
  fun_cases outline language index lines with
  | case1 => rintro ⟨⟩
  | case2 line lines failure hline => rintro ⟨⟩
  | case3 line lines hline =>
    intro h
    obtain ⟨rfl, rfl⟩ := List.cons.inj h
    refine ⟨[line], lines, rfl, ?_, rfl⟩
    rw [outline_prose hline, outline]
    rfl
  | case4 line lines opening hline hdrop => rintro ⟨⟩
  | case5 line lines opening hline closing rest hdrop =>
    intro h
    obtain ⟨rfl, rfl⟩ := List.cons.inj h
    obtain ⟨hlines, hcloses⟩ := innerLines_append hdrop
    refine ⟨line :: (innerLines lines ++ [closing]), rest, ?_, ?_, ?_⟩
    · rw [List.cons_append, List.append_assoc, List.singleton_append, hlines]
    · rw [outline_block hline closes_of_mem_innerLines hcloses, outline]
      rfl
    · have hindex : index + (line :: (innerLines lines ++ [closing])).length
          = index + (innerLines lines).length + 2 := by
        simp only [List.length_cons, List.length_append, List.length_nil]
        omega
      rw [hindex]
      rfl

/-- The lines of a page are those of its first parts and those of the other ones. -/
theorem exists_lines_of_parts {first second : List Part}
    (h : (outline language index lines).parts = first ++ second) :
    ∃ above below, lines = above ++ below ∧ outline language index above = ⟨first, .complete⟩ ∧
      outline language (index + above.length) below
        = ⟨second, (outline language index lines).ending⟩ := by
  induction first generalizing index lines with
  | nil =>
    refine ⟨[], lines, rfl, by rw [outline], ?_⟩
    rw [← List.nil_append second, ← h]
    rfl
  | cons part first ih =>
    obtain ⟨head, rest, rfl, hhead, hrest⟩ := outline_cons h
    obtain ⟨above, below, rfl, habove, hbelow⟩ := ih (congrArg Outline.parts hrest)
    have hcomplete : (outline language index head).ending = .complete := by rw [hhead]
    refine ⟨head ++ above, below, (List.append_assoc ..).symm, ?_, ?_⟩
    · rw [outline_append_of_complete hcomplete, hhead, habove]
      rfl
    · rw [List.length_append, ← Nat.add_assoc, hbelow, hrest]

/-! ## Opening lines -/

/-- The opening line of a first part that is a block. -/
theorem opener_of_block {block : Block} {parts : List Part}
    (h : (outline language index lines).parts = .block block :: parts) :
    ∃ opener below, lines = opener :: below ∧ block.startLine = index ∧
      Fence.classify language (Text.chomp opener) index
        = .ok (some ⟨block.kind, block.highlight⟩) ∧
      ∃ line ∈ below, closes line = true := by
  revert h
  fun_cases outline language index lines with
  | case1 => rintro ⟨⟩
  | case2 line lines failure hline => rintro ⟨⟩
  | case3 line lines hline => rintro ⟨⟩
  | case4 line lines opening hline hdrop => rintro ⟨⟩
  | case5 line lines opening hline closing rest hdrop =>
    intro h
    obtain ⟨hblock, -⟩ := List.cons.inj h
    obtain rfl : blockOf opening index (innerLines lines) = block := Part.block.inj hblock
    obtain ⟨hlines, hcloses⟩ := innerLines_append hdrop
    refine ⟨line, lines, rfl, rfl, hline, closing, ?_, hcloses⟩
    rw [← hlines]
    exact List.mem_append_right _ List.mem_cons_self

/-- The opening line of a block that is all of an outline and is not closed. -/
theorem opener_of_unclosed {block : Block}
    (h : outline language index lines = ⟨[], .unclosed block⟩) :
    ∃ opener below, lines = opener :: below ∧ block.startLine = index ∧
      Fence.classify language (Text.chomp opener) index
        = .ok (some ⟨block.kind, block.highlight⟩) ∧
      ∀ line ∈ below, closes line = false := by
  revert h
  fun_cases outline language index lines with
  | case1 => rintro ⟨⟩
  | case2 line lines failure hline => rintro ⟨⟩
  | case3 line lines hline => rintro ⟨⟩
  | case4 line lines opening hline hdrop =>
    intro h
    obtain rfl : blockOf opening index (innerLines lines) = block :=
      Ending.unclosed.inj (congrArg Outline.ending h)
    refine ⟨line, lines, rfl, rfl, hline, ?_⟩
    rw [← innerLines_eq_self hdrop]
    exact closes_of_mem_innerLines
  | case5 line lines opening hline closing rest hdrop => rintro ⟨⟩

/-- The line in error, if there is nothing before it. -/
theorem opener_of_refused {failure : Failure}
    (h : outline language index lines = ⟨[], .refused failure⟩) :
    ∃ opener below, lines = opener :: below ∧
      Fence.classify language (Text.chomp opener) index = .error failure := by
  revert h
  fun_cases outline language index lines with
  | case1 => rintro ⟨⟩
  | case2 line lines failure' hline =>
    intro h
    obtain rfl : failure' = failure := Ending.refused.inj (congrArg Outline.ending h)
    exact ⟨line, lines, rfl, hline⟩
  | case3 line lines hline => rintro ⟨⟩
  | case4 line lines opening hline hdrop => rintro ⟨⟩
  | case5 line lines opening hline closing rest hdrop => rintro ⟨⟩

/-- Line `n` of a page, counted from one, stands outside of all blocks: those that are opened above it
are closed there. -/
structure Outside (language : Text) (lines : List Text) (n : Nat) (line : Text) : Prop where
  pos : 1 ≤ n
  line : lines[n - 1]? = some line
  complete : (outline language 0 (lines.take (n - 1))).ending = .complete

theorem Outside.le_length {n : Nat} {line : Text} (h : Outside language lines n line) :
    n ≤ lines.length := by
  have hlength := (List.getElem?_eq_some_iff.1 h.line).1
  omega

theorem Outside.of_append {above : List Text}
    (h : (outline language 0 above).ending = .complete) (line : Text) (below : List Text) :
    Outside language (above ++ line :: below) (above.length + 1) line where
  pos := Nat.le_add_left 1 _
  line := by simp
  complete := by simpa using h

/-- Every block that is closed has an opening line. -/
theorem exists_opener_of_mem {block : Block} (h : block ∈ closedBlocks language lines) :
    ∃ opener, Outside language lines block.lineNumber opener ∧
      Fence.classify language (Text.chomp opener) block.startLine
        = .ok (some ⟨block.kind, block.highlight⟩) ∧
      ∃ line ∈ lines.drop block.lineNumber, closes line = true := by
  obtain ⟨part, hpart, hblock⟩ := List.mem_filterMap.1 h
  obtain rfl : part = .block block := by
    cases part with
    | prose line => cases hblock
    | block b => rw [Option.some.inj hblock]
  obtain ⟨first, second, hparts⟩ := List.append_of_mem hpart
  obtain ⟨above, below, rfl, habove, hbelow⟩ := exists_lines_of_parts hparts
  obtain ⟨opener, rest, rfl, hstart, hopener, hcloses⟩ :=
    opener_of_block (congrArg Outline.parts hbelow)
  rw [Nat.zero_add] at hstart hopener
  have hline : block.lineNumber = above.length + 1 := congrArg (· + 1) hstart
  have hdrop : (above ++ opener :: rest).drop (above.length + 1) = rest := by simp
  rw [hline, hstart, hdrop]
  exact ⟨opener, .of_append (by rw [habove]) opener rest, hopener, hcloses⟩

/-- So has the block that is not closed. -/
theorem exists_opener_of_unclosed {block : Block}
    (h : (outline language 0 lines).ending = .unclosed block) :
    ∃ opener, Outside language lines block.lineNumber opener ∧
      Fence.classify language (Text.chomp opener) block.startLine
        = .ok (some ⟨block.kind, block.highlight⟩) ∧
      ∀ line ∈ lines.drop block.lineNumber, closes line = false := by
  obtain ⟨above, below, rfl, habove, hbelow⟩ :=
    exists_lines_of_parts (List.append_nil (outline language 0 lines).parts).symm
  rw [h] at hbelow
  obtain ⟨opener, rest, rfl, hstart, hopener, hinside⟩ := opener_of_unclosed hbelow
  rw [Nat.zero_add] at hstart hopener
  have hline : block.lineNumber = above.length + 1 := congrArg (· + 1) hstart
  have hdrop : (above ++ opener :: rest).drop (above.length + 1) = rest := by simp
  rw [hline, hstart, hdrop]
  exact ⟨opener, .of_append (by rw [habove]) opener rest, hopener, hinside⟩

/-- The line in error is one that would open a block. -/
theorem exists_opener_of_refused {failure : Failure}
    (h : (outline language 0 lines).ending = .refused failure) :
    ∃ n opener, Outside language lines (n + 1) opener ∧
      Fence.classify language (Text.chomp opener) n = .error failure := by
  obtain ⟨above, below, rfl, habove, hbelow⟩ :=
    exists_lines_of_parts (List.append_nil (outline language 0 lines).parts).symm
  rw [h] at hbelow
  obtain ⟨opener, rest, rfl, hopener⟩ := opener_of_refused hbelow
  rw [Nat.zero_add] at hopener
  exact ⟨above.length, opener, .of_append (by rw [habove]) opener rest, hopener⟩

end

/-! ## Failures -/

namespace Text

theorem prefix_stripLast (c : Char) (s : Text) : stripLast c s <+: s := by
  unfold stripLast
  split
  · exact List.dropLast_prefix s
  · exact List.prefix_refl s

theorem prefix_chomp (line : Text) : chomp line <+: line :=
  (prefix_stripLast '\r' _).trans (prefix_stripLast '\n' line)

end Text

namespace Fence

variable {language line : Text} {index : Nat}

/-- A line that is not copied begins with the marker and the language. -/
theorem prefix_of_classify (h : classify language line index ≠ .ok none) :
    marker ++ language <+: line := by
  rw [ne_eq, classify_eq_none_iff] at h
  obtain ⟨info, hinfo⟩ := Option.ne_none_iff_exists'.1 h
  rw [(info?_eq_some_iff.1 hinfo).line_eq, ← List.append_assoc]
  exact List.prefix_append _ info

/-- What is wrong with a line is told with its number. -/
theorem line_of_classify {failure : Failure} (h : classify language line index = .error failure) :
    (∃ family, failure = .wildcardExecution family (index + 1)) ∨
      ∃ digits, failure = .collectionIdOutOfRange digits (index + 1) := by
  cases classify_eq_iff.1 h with
  | refused hopens hcut hwords hasks =>
    cases hasks with
    | tooLarge hfirst hdigits hlarge => exact .inr ⟨_, rfl⟩
    | wildcard hfirst => exact .inl ⟨_, rfl⟩

end Fence

/-- A block that asks for a collection is in error if nothing was gathered, and tells so with the
number of its opening line. Other blocks tell no line. -/
theorem line_of_request? {options : Options} {closed : List Block} {block : Block}
    {failure : Failure} (h : request? options closed block = .error failure) {n : Nat}
    (hline : failure.line? = some n) :
    ∃ family id, block.kind = .execute family id ∧ n = block.lineNumber ∧
      failure = .unresolvedCollection family id n := by
  unfold request? at h
  cases hkind : block.kind with
  | skip | collect | singleFile => simp [hkind] at h
  | plain =>
    simp only [hkind] at h
    cases hwrap : options.entryPoint.wrap block.body with
    | ok program => simp [hwrap] at h
    | error cause =>
      simp only [hwrap, Except.error.injEq] at h
      rw [← h] at hline
      cases hline
  | execute family id =>
    simp only [hkind] at h
    split at h
    · obtain rfl := Except.error.inj h
      obtain rfl := Option.some.inj hline
      exact ⟨family, id, rfl, rfl, rfl⟩
    · cases h

/-- What a failure tells of the line that it names, which is read as `reading`, and of the lines below.
Either that line opens a block that is never closed; or it asks for a collection for which nothing was
gathered, in a block that is closed; or it is in error by itself. -/
def Failure.Tells (failure : Failure) (reading : Except Failure (Option Fence.Annotation))
    (below : List Text) : Prop :=
  match failure with
  | .unterminatedBlock _ =>
    (∃ opening, reading = .ok (some opening)) ∧ ∀ line ∈ below, closes line = false
  | .unresolvedCollection family id _ =>
    (∃ highlight, reading = .ok (some ⟨.execute family id, highlight⟩)) ∧
      ∃ line ∈ below, closes line = true
  | failure => reading = .error failure

/-- Parts that are not rendered have a block that is in error, or a request that is refused. The
induction is on the parts, and its cases are those of a block: in error, without a request, refused, or
answered. -/
theorem error_of_renderParts {options : Options} {runner : Runner σ} {parts : List Part}
    {closed : List Block} {session after : Session σ} {failure : Failure}
    (h : renderParts options runner closed parts session = (.error failure, after)) :
    (∃ block ∈ blocksOf parts, ∃ above, request? options above block = .error failure) ∨
      ∃ call ∈ runner.calls (runner.untilFailure (plannedIn options closed parts) session) session,
        call.answer = .error failure := by
  induction parts generalizing closed session with
  | nil => cases h
  | cons part parts ih =>
    -- the failure is that of the parts behind, if there is something in front
    have hprefixed : ∀ {shown : Text} {rendered : Except Failure Text × Session σ},
        prefixed shown rendered = (.error failure, after) → rendered = (.error failure, after) := by
      rintro shown ⟨_ | text, _⟩ hrendered
      · exact hrendered
      · cases congrArg Prod.fst hrendered
    cases part with
    | prose line =>
      rw [renderParts_prose] at h
      exact ih (hprefixed h)
    | block block =>
      rw [plannedIn]
      cases hrequest : request? options closed block with
      | error failure' =>
        rw [renderParts_block_of_error (renderBlock_of_error hrequest)] at h
        obtain rfl := Except.error.inj (congrArg Prod.fst h)
        exact .inl ⟨block, List.mem_cons_self, closed, hrequest⟩
      | ok made =>
        cases made with
        | none =>
          rw [renderParts_block_of_ok (renderBlock_of_none hrequest)] at h
          refine (ih (hprefixed h)).imp_left ?_
          rintro ⟨b, hb, herror⟩
          exact ⟨b, List.mem_cons_of_mem _ hb, herror⟩
        | some request =>
          rcases hrun : runner request session with ⟨failure' | report, between⟩
          · rw [renderParts_block_of_error (renderBlock_of_refused hrequest hrun)] at h
            obtain rfl := Except.error.inj (congrArg Prod.fst h)
            rw [runner.untilFailure_cons_of_error hrun, Runner.calls, hrun]
            exact .inr ⟨_, List.mem_cons_self, rfl⟩
          · rw [renderParts_block_of_ok (renderBlock_of_answered hrequest hrun)] at h
            rw [runner.untilFailure_cons_of_ok hrun, Runner.calls, hrun]
            rcases ih (hprefixed h) with ⟨b, hb, herror⟩ | ⟨call, hcall, hanswer⟩
            · exact .inl ⟨b, List.mem_cons_of_mem _ hb, herror⟩
            · exact .inr ⟨call, List.mem_cons_of_mem _ hcall, hanswer⟩

/-! ## Requests -/

/-- What goes wrong when requests are run tells no line of a page. -/
def Toolchain.TellsNoLine (toolchain : Toolchain σ) : Prop :=
  ∀ request world failure, (toolchain.execute request world).1 = .error failure →
    failure.line? = none

/-- Nor does what goes wrong in a cache. -/
structure Cache.TellsNoLine (cache : Cache σ) : Prop where
  load : ∀ key world failure, cache.load key world = .error failure → failure.line? = Option.none
  store : ∀ key report world failure, (cache.store key report world).1 = .error failure →
    failure.line? = Option.none

theorem Toolchain.process_tellsNoLine {τ : Type} (programs : Programs) (settings : ToolSettings)
    (root : Text) :
    (Toolchain.process programs settings root : Toolchain (World τ)).TellsNoLine := by
  intro request world failure h
  simp only [process, Process.run] at h
  split at h
  · obtain rfl := Except.error.inj h
    rfl
  · split at h
    · obtain rfl := Except.error.inj h
      rfl
    · unfold Process.outcome at h
      split at h
      · cases h
      · obtain rfl := Except.error.inj h
        rfl

theorem Cache.disk_tellsNoLine {τ : Type} (dir : Text) :
    (Cache.disk dir : Cache (World τ)).TellsNoLine where
  load key world failure h := by
    simp only [disk] at h
    split at h
    · cases h
    · obtain rfl := Except.error.inj h
      rfl
  store key report world failure h := by
    simp only [disk] at h
    split at h
    · cases h
    · obtain rfl := Except.error.inj h
      rfl

/-- So failures of requests tell no line. -/
theorem Runner.line?_of_mem_calls {toolchain : Toolchain σ} {cache : Cache σ}
    (htoolchain : toolchain.TellsNoLine) (hcache : cache.TellsNoLine) (requests : List Request)
    (session : Session σ) :
    ∀ call ∈ (Runner.cached toolchain cache).calls requests session, ∀ failure,
      call.answer = .error failure → failure.line? = none := by
  intro call hcall failure hanswer
  have hserved := served toolchain cache call.request call.before
  rw [eq_of_mem_calls call hcall] at hserved
  generalize call.answer = answer, call.after = after at hserved hanswer
  cases hserved with
  | unread failure' hload =>
    obtain rfl := Except.error.inj hanswer
    exact hcache.load _ _ _ hload
  | hit report hload => cases hanswer
  | failed failure' world hload hrun =>
    obtain rfl := Except.error.inj hanswer
    exact htoolchain _ _ _ (congrArg Prod.fst hrun)
  | unstored output failure' ran world hload hrun hstore =>
    obtain rfl := Except.error.inj hanswer
    exact hcache.store _ _ _ _ (congrArg Prod.fst hstore)
  | stored output ran world hload hrun hstore => cases hanswer

/-! ## Pages -/

section

variable {options : Options} {runner : Runner σ} {content : Text} {session : Session σ}
  {failure : Failure}

/-- A page is in error because of one of its blocks, because of how it ends, or because a request is
refused. -/
theorem error_of_weave (h : (weave options runner content session).result = .error failure) :
    (∃ block ∈ closedBlocks options.language (Text.lines content), ∃ above,
      request? options above block = .error failure) ∨
    (outline options.language 0 (Text.lines content)).ending = .refused failure ∨
    (∃ block, (outline options.language 0 (Text.lines content)).ending = .unclosed block ∧
      failure = .unterminatedBlock block.lineNumber) ∨
    ∃ call ∈ runner.calls (asked options runner content session) session,
      call.answer = .error failure := by
  rw [outcome_weave.1, Outline.result_render] at h
  rw [asked_eq_planned, planned]
  rcases hrendered : renderParts options runner [] (outline options.language 0 (Text.lines content)).parts
    session with ⟨failure' | text, after⟩
  · rw [hrendered] at h
    obtain rfl : failure' = failure := Except.error.inj h
    rcases error_of_renderParts hrendered with hblock | hcall
    · exact .inl hblock
    · exact .inr (.inr (.inr hcall))
  · rw [hrendered] at h
    cases hending : (outline options.language 0 (Text.lines content)).ending with
    | complete =>
      rw [hending] at h
      cases h
    | refused failure' =>
      rw [hending] at h
      rw [Except.error.inj h]
      exact .inr (.inl rfl)
    | unclosed block =>
      rw [hending] at h
      exact .inr (.inr (.inl ⟨block, rfl, (Except.error.inj h).symm⟩))

/-- A failure that names a line names one of the page, which stands outside of all blocks and begins
with the marker and the language. It tells what is wrong there. A request that is refused tells no line
of the page, so its failure has to be another one. -/
theorem line_of_weave (h : (weave options runner content session).result = .error failure)
    (hrequests : ∀ call ∈ runner.calls (asked options runner content session) session,
      call.answer ≠ .error failure) {n : Nat} (hline : failure.line? = some n) :
    let lines := Text.lines content
    (1 ≤ n ∧ n ≤ lines.length) ∧ ∃ opener, Outside options.language lines n opener ∧
      Fence.marker ++ options.language <+: opener ∧
      failure.Tells (Fence.classify options.language (Text.chomp opener) (n - 1)) (lines.drop n) := by
  intro lines
  suffices hopener : ∃ opener, Outside options.language lines n opener ∧
      Fence.classify options.language (Text.chomp opener) (n - 1) ≠ .ok none ∧
      failure.Tells (Fence.classify options.language (Text.chomp opener) (n - 1))
        (lines.drop n) by
    obtain ⟨opener, houtside, hopens, htells⟩ := hopener
    exact ⟨⟨houtside.pos, houtside.le_length⟩, opener, houtside,
      (Fence.prefix_of_classify hopens).trans (Text.prefix_chomp opener), htells⟩
  rcases error_of_weave h with ⟨block, hblock, above, hrequest⟩ | hrefused | ⟨block, hunclosed, rfl⟩
    | ⟨call, hcall, hanswer⟩
  · -- a block for which nothing was gathered
    obtain ⟨family, id, hkind, rfl, rfl⟩ := line_of_request? hrequest hline
    obtain ⟨opener, houtside, hopener, hcloses⟩ := exists_opener_of_mem hblock
    rw [hkind] at hopener
    refine ⟨opener, houtside, ?_, ⟨_, hopener⟩, hcloses⟩
    exact fun hnone => by cases hopener.symm.trans hnone
  · -- a line in error
    obtain ⟨index, opener, houtside, hopener⟩ := exists_opener_of_refused hrefused
    have hnamed : failure.line? = some (index + 1) ∧ ∀ below,
        failure.Tells (.error failure) below := by
      rcases Fence.line_of_classify hopener with ⟨family, rfl⟩ | ⟨digits, rfl⟩
      · exact ⟨rfl, fun _ => rfl⟩
      · exact ⟨rfl, fun _ => rfl⟩
    obtain rfl : index + 1 = n := Option.some.inj (hnamed.1.symm.trans hline)
    have hreading : Fence.classify options.language (Text.chomp opener) (index + 1 - 1)
        = .error failure :=
      hopener
    refine ⟨opener, houtside, ?_, ?_⟩
    · rw [hreading]
      rintro ⟨⟩
    · rw [hreading]
      exact hnamed.2 _
  · -- a block that is never closed
    obtain ⟨opener, houtside, hopener, hinside⟩ := exists_opener_of_unclosed hunclosed
    obtain rfl : block.lineNumber = n := Option.some.inj hline
    refine ⟨opener, houtside, ?_, ⟨_, hopener⟩, hinside⟩
    exact fun hnone => by cases hopener.symm.trans hnone
  -- the runner itself is no part of the page
  · exact absurd hanswer (hrequests call hcall)

end

/-- A page that runs a program, shows what only looks like a block, and asks for what was not
collected. -/
def unresolvedPage : Text :=
  (["```zig -singleFile\n", "a\n", "```\n", "```zig -skip\n", "```zig -execute_*\n", "```\n",
    "```zig -test_2 \x7bb\x7d\n", "c\n", "``` \n", "d"].map String.toList).flatten

/-- A program that prints nothing. -/
def silentPrograms : Programs :=
  fun _ _ disk => .ok ⟨ByteArray.empty, ByteArray.empty, .code 0, disk⟩

/-- The failure names the line that asks, not the one where the block ends, nor the one that is shown in
the block above. -/
theorem line_of_weave_unresolved :
    let runner := Runner.cached (.process silentPrograms .standard ['/']) (.disk "cache".toList)
    let session := Session.start (World.ofDisk (Disk.blank ["w".toList]) ())
    (weave .standard runner unresolvedPage session).result
        = .error (.unresolvedCollection .test (.number 2) 7) ∧
      ∃ opener, Outside "zig".toList (Text.lines unresolvedPage) 7 opener ∧
        ∃ highlight, Fence.classify "zig".toList (Text.chomp opener) 6
          = .ok (some ⟨.execute .test (.number 2), highlight⟩) := by
  intro runner session
  have hfailure : (weave .standard runner unresolvedPage session).result
      = .error (.unresolvedCollection .test (.number 2) 7) := by
    decide +kernel
  have hrequests : ∀ call ∈ runner.calls (asked .standard runner unresolvedPage session) session,
      call.answer ≠ .error (.unresolvedCollection .test (.number 2) 7) := by
    intro call hcall hanswer
    have hline := Runner.line?_of_mem_calls (Toolchain.process_tellsNoLine _ _ _)
      (Cache.disk_tellsNoLine _) _ session call hcall _ hanswer
    cases hline
  obtain ⟨-, opener, houtside, -, hopens, -⟩ := line_of_weave hfailure hrequests rfl
  exact ⟨hfailure, opener, houtside, hopens⟩

end Weave
