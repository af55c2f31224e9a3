import Mathlib.Data.List.TakeWhile
import Weave.Loom

/-!
# Weave.Proofs.Outline — the parts of a page

A page is a sequence of parts: lines that are copied, and managed blocks. A block reaches from its
opening line to the first closing line below it, whatever stands between them. `outline` finds the
parts in the lines of a page without running anything.

* `runnable_of_classify`: no opening line asks for the public collection to be run.
* `feedAll_append`: a loom that reads lines in two goes reads them in one.
* `feed_refused`, `feed_prose`, `feed_opening`, `feed_body`, `feed_closing`: what a loom does with
  each kind of line.
* `feedAll_opening`: what it does with all lines of a block but the closing one.
-/

namespace Weave

/-! ## Parts -/

/-- A part of a page. -/
inductive Part where
  /-- A line outside managed blocks, with its terminator. -/
  | prose (line : Text)
  | block (block : Block)
deriving Repr, DecidableEq, Inhabited

/-- What comes after the last part of a page. -/
inductive Ending where
  /-- Nothing. -/
  | complete
  /-- A line that would open a block, were it not in error. -/
  | refused (failure : Failure)
  /-- A block that is never closed. -/
  | unclosed (block : Block)
deriving Repr, DecidableEq, Inhabited

/-- The parts of a page, up to the first one that is not whole. -/
structure Outline where
  parts : List Part
  ending : Ending
deriving Repr, DecidableEq, Inhabited

/-- The block that a part is, if it is one. -/
def Part.block? : Part → Option Block
  | .prose _ => none
  | .block b => some b

/-- The blocks among some parts, in order. -/
def blocksOf (parts : List Part) : List Block :=
  parts.filterMap Part.block?

@[simp] theorem blocksOf_nil : blocksOf [] = [] := rfl

@[simp] theorem blocksOf_prose (line : Text) (parts : List Part) :
    blocksOf (.prose line :: parts) = blocksOf parts := rfl

@[simp] theorem blocksOf_block (block : Block) (parts : List Part) :
    blocksOf (.block block :: parts) = block :: blocksOf parts := rfl

/-- An outline with one more part in front. -/
def Outline.cons (part : Part) (outline : Outline) : Outline :=
  { outline with parts := part :: outline.parts }

@[simp] theorem Outline.parts_cons (part : Part) (outline : Outline) :
    (outline.cons part).parts = part :: outline.parts := rfl

@[simp] theorem Outline.ending_cons (part : Part) (outline : Outline) :
    (outline.cons part).ending = outline.ending := rfl

/-! ## The outline of a page -/

/-- Whether a line, given with its terminator, closes a block. -/
def closes (line : Text) : Bool :=
  Fence.isClose (Text.chomp line)

/-- The body that lines make up: their texts, each ended by a line feed. -/
def bodyOf (lines : List Text) : Text :=
  lines.flatMap fun line => Text.endLine (Text.chomp line)

/-- The lines of a block whose opening line stands above `lines`: those up to the first closing
line. -/
def innerLines (lines : List Text) : List Text :=
  lines.takeWhile (!closes ·)

/-- The block that an opening line and the lines inside make up. -/
def blockOf (opening : Fence.Annotation) (index : Nat) (inner : List Text) : Block :=
  ⟨opening.kind, bodyOf inner, index, opening.highlight⟩

/-- The parts of a page in the given language, whose lines are given with their terminators. The
first line has the given index. -/
def outline (language : Text) (index : Nat) : List Text → Outline
  | [] => ⟨[], .complete⟩
  | line :: lines =>
    match Fence.classify language (Text.chomp line) index with
    | .error failure => ⟨[], .refused failure⟩
    | .ok none => (outline language (index + 1) lines).cons (.prose line)
    | .ok (some opening) =>
      match h : lines.dropWhile (!closes ·) with
      | [] => ⟨[], .unclosed (blockOf opening index (innerLines lines))⟩
      | _ :: rest =>
        (outline language (index + (innerLines lines).length + 2) rest).cons
          (.block (blockOf opening index (innerLines lines)))
termination_by lines => lines.length
decreasing_by
  · simp
  · have hle := (List.dropWhile_sublist (!closes ·) (l := lines)).length_le
    rw [h] at hle
    simp only [List.length_cons] at hle ⊢
    omega

theorem closes_of_mem_innerLines {lines : List Text} :
    ∀ line ∈ innerLines lines, closes line = false := by
  intro line hline
  simpa using List.mem_takeWhile_imp hline

/-- No line closes the block: all lines are inside. -/
theorem innerLines_eq_self {lines : List Text} (h : lines.dropWhile (!closes ·) = []) :
    innerLines lines = lines := by
  have hsplit := List.takeWhile_append_dropWhile (p := (!closes ·)) (l := lines)
  rwa [h, List.append_nil] at hsplit

/-- A line closes the block: what is above it is inside. -/
theorem innerLines_append {lines rest : List Text} {closing : Text}
    (h : lines.dropWhile (!closes ·) = closing :: rest) :
    innerLines lines ++ closing :: rest = lines ∧ closes closing = true := by
  constructor
  · rw [← h]
    exact List.takeWhile_append_dropWhile
  · have hhead := List.head?_dropWhile_not (!closes ·) lines
    rw [h] at hhead
    simpa using hhead

/-- The blocks that some lines close, in order. -/
def closedBlocks (language : Text) (lines : List Text) : List Block :=
  blocksOf (outline language 0 lines).parts

/-! ## Kinds that can be run -/

/-- Whether a kind is not that of a block that would run the public collection. -/
def BlockKind.Runnable (kind : BlockKind) : Prop :=
  ∀ family, kind ≠ .execute family .everyone

theorem runnable_of_checkRunnable {kind kind' : BlockKind} {line : Nat}
    (h : Fence.checkRunnable kind line = .ok kind') : kind'.Runnable := by
  unfold Fence.checkRunnable at h
  split at h
  · cases h
  · next hne =>
    cases h
    intro family heq
    exact hne family heq

theorem runnable_modifiedKind (tokens : List Text) : (Fence.modifiedKind tokens).Runnable := by
  intro family
  unfold Fence.modifiedKind
  split
  · simp
  · split <;> simp

theorem runnable_of_kindOf {tokens : List Text} {line : Nat} {kind : BlockKind}
    (h : Fence.kindOf tokens line = .ok kind) : kind.Runnable := by
  unfold Fence.kindOf at h
  split at h
  · exact runnable_of_checkRunnable h
  · cases h
  · cases h
    exact runnable_modifiedKind tokens

/-- No opening line asks for the public collection to be run. -/
theorem runnable_of_classify {language line : Text} {index : Nat} {opening : Fence.Annotation}
    (h : Fence.classify language line index = .ok (some opening)) :
    opening.kind.Runnable := by
  unfold Fence.classify at h
  split at h
  · cases h
  · next info _ =>
    cases hkind : Fence.kindOf (Text.words (Fence.cutHighlight info).1) (index + 1) with
    | error failure => simp [hkind, Except.map] at h
    | ok kind =>
      simp only [hkind, Except.map, Except.ok.injEq, Option.some.injEq] at h
      rw [← h]
      exact runnable_of_kindOf hkind

/-! ## Reading lines -/

namespace Loom

variable {σ : Type} (options : Options) (runner : Runner σ)

/-- Lines that are read in two goes. -/
theorem feedAll_append (first second : List Text) (loom : Loom) (index : Nat)
    (session : Session σ) :
    loom.feedAll options runner index (first ++ second) session
      = match loom.feedAll options runner index first session with
        | (.ok (), loom, session) =>
          loom.feedAll options runner (index + first.length) second session
        | (.error failure, loom, session) => (.error failure, loom, session) := by
  induction first generalizing loom index session with
  | nil => rfl
  | cons line lines ih =>
    simp only [List.cons_append, feedAll]
    rcases loom.feed options runner index line session with ⟨_ | _, loom', session'⟩
    · rfl
    · simp only [ih, List.length_cons]
      rw [Nat.add_right_comm, Nat.add_assoc]

/-- A line that is refused leaves the loom as it is. -/
theorem feed_refused {loom : Loom} (hphase : loom.phase = .outside) {line : Text} {index : Nat}
    {failure : Failure}
    (hline : Fence.classify options.language (Text.chomp line) index = .error failure)
    (session : Session σ) :
    loom.feed options runner index line session = (.error failure, loom, session) := by
  simp [feed, advance, hphase, readOutside, hline, settle]

/-- A line outside managed blocks is copied. -/
theorem feed_prose {loom : Loom} (hphase : loom.phase = .outside) {line : Text} {index : Nat}
    (hline : Fence.classify options.language (Text.chomp line) index = .ok none)
    (session : Session σ) :
    loom.feed options runner index line session = (.ok (), loom.emit line, session) := by
  simp [feed, advance, hphase, readOutside, hline, settle]

/-- An opening line opens a block and does nothing else. -/
theorem feed_opening {loom : Loom} (hphase : loom.phase = .outside) {line : Text} {index : Nat}
    {opening : Fence.Annotation}
    (hline : Fence.classify options.language (Text.chomp line) index = .ok (some opening))
    (session : Session σ) :
    ∃ warnings, loom.feed options runner index line session
      = (.ok (),
          { loom with
            phase := .inside (.opened opening.kind index opening.highlight)
            warnings := warnings }, session) := by
  refine ⟨loom.warnings ++ Fence.warnings options.language (Text.chomp line) index, ?_⟩
  simp [feed, advance, hphase, readOutside, hline, settle]

/-- A line that closes the block. -/
theorem feed_closing {loom : Loom} {block : Block} (hphase : loom.phase = .inside block)
    {line : Text} (hline : closes line = true) (index : Nat) (session : Session σ) :
    loom.feed options runner index line session
      = settle options runner (loom.readClosing options block) session := by
  have hclose : Fence.isClose (Text.chomp line) = true := hline
  simp [feed, advance, hphase, hclose]

/-- A line that does not close the block goes into its body. -/
theorem feed_body {line : Text} (hline : closes line = false) (loom : Loom) (block : Block)
    (index : Nat) (session : Session σ) :
    { loom with phase := .inside block }.feed options runner index line session
      = (.ok (), { loom with phase := .inside (block.addLine (Text.chomp line)) }, session) := by
  have hclose : Fence.isClose (Text.chomp line) = false := hline
  simp [feed, advance, hclose, settle]

/-- Lines that do not close the block go into its body. -/
theorem feedAll_body {inner : List Text} (hinner : ∀ line ∈ inner, closes line = false)
    (rest : List Text) (loom : Loom) (block : Block) (index : Nat) (session : Session σ) :
    { loom with phase := .inside block }.feedAll options runner index (inner ++ rest) session
      = { loom with phase := .inside { block with body := block.body ++ bodyOf inner } }.feedAll
          options runner (index + inner.length) rest session := by
  induction inner generalizing block index with
  | nil => simp [bodyOf]
  | cons line lines ih =>
    have hline : closes line = false := hinner line (by simp)
    have hlines : ∀ l ∈ lines, closes l = false := fun l hl => hinner l (by simp [hl])
    have hbody : block.body ++ bodyOf (line :: lines)
        = (block.addLine (Text.chomp line)).body ++ bodyOf lines := by
      simp [bodyOf, Block.addLine]
    have hindex : index + (line :: lines).length = index + 1 + lines.length := by
      rw [List.length_cons]
      omega
    rw [List.cons_append, feedAll, feed_body options runner hline, hbody, hindex]
    exact ih hlines (block.addLine (Text.chomp line)) (index + 1)

/-- An opening line and lines that do not close the block leave the loom inside that block. -/
theorem feedAll_opening {loom : Loom} (hphase : loom.phase = .outside) {line : Text}
    {index : Nat} {opening : Fence.Annotation}
    (hline : Fence.classify options.language (Text.chomp line) index = .ok (some opening))
    {inner : List Text} (hinner : ∀ l ∈ inner, closes l = false) (rest : List Text)
    (session : Session σ) :
    ∃ warnings, loom.feedAll options runner index (line :: (inner ++ rest)) session
      = { loom with
          phase := .inside (blockOf opening index inner), warnings := warnings }.feedAll
            options runner (index + inner.length + 1) rest session := by
  obtain ⟨warnings, hopen⟩ := feed_opening options runner hphase hline session
  refine ⟨warnings, ?_⟩
  have hindex : index + inner.length + 1 = index + 1 + inner.length := by omega
  rw [feedAll, hopen, hindex]
  exact feedAll_body options runner hinner rest { loom with warnings := warnings } _ _ session

end Loom

end Weave
