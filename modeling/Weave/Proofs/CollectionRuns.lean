import Weave.Proofs.Rendering

/-!
# Weave.Proofs.CollectionRuns — what is run when a collection is run

A block that runs a collection is turned into one request: the public text of its family, what was
collected under its id since the last run, and its own body. `runs_gathered` says so of every pass
over a page that comes to the closing line of such a block.
-/

namespace Weave

variable {σ : Type}

/-- The pass over a page has come to a line that closes a block: all lines above it were read
without a failure. -/
structure ComesToClose (options : Options) (runner : Runner σ) (content : Text)
    (session : Session σ) (above : List Text) (line : Text) (loom : Loom) (block : Block)
    (session' : Session σ) : Prop where
  lines : ∃ below, Text.lines content = above ++ line :: below
  reached : Loom.start.feedAll options runner 0 above session = (.ok (), loom, session')
  inside : loom.phase = .inside block
  closing : closes line = true

section

variable {options : Options} {runner : Runner σ} {content : Text} {session session' : Session σ}
  {above : List Text} {line : Text} {loom : Loom} {block : Block}

theorem ComesToClose.advance
    (h : ComesToClose options runner content session above line loom block session') :
    loom.advance options above.length line = loom.readClosing options block := by
  have hclose : Fence.isClose (Text.chomp line) = true := h.closing
  simp [Loom.advance, h.inside, hclose]

/-- A line that is read without a failure takes the pass further. -/
theorem ComesToClose.goOn {loom' : Loom} {after : Session σ}
    (h : ComesToClose options runner content session above line loom block session')
    (hfeed : loom.feed options runner above.length line session' = (.ok (), loom', after)) :
    Loom.start.feedAll options runner 0 (above ++ [line]) session = (.ok (), loom', after) := by
  rw [Loom.feedAll_append, h.reached]
  simp only [Nat.zero_add, Loom.feedAll, hfeed]

/-- A line that fails ends the pass. -/
theorem ComesToClose.fail {loom' : Loom} {after : Session σ} {failure : Failure}
    (h : ComesToClose options runner content session above line loom block session')
    (hfeed : loom.feed options runner above.length line session' = (.error failure, loom', after)) :
    (weave options runner content session).result = .error failure
      ∧ (weave options runner content session).session = after := by
  obtain ⟨below, hlines⟩ := h.lines
  unfold weave
  rw [hlines, Loom.feedAll_append, h.reached]
  simp only [Nat.zero_add, Loom.feedAll, hfeed]
  exact ⟨trivial, trivial⟩

/-- What a block that runs a collection asks for. It is refused exactly if nothing was gathered
under its id; else the runner gets one request, and a failure of the runner is one of the page.
Blocks that have nothing to do with the collection make no difference. -/
theorem runs_gathered {family : Family} {id : CollectionId}
    (h : ComesToClose options runner content session above line loom block session')
    (hkind : block.kind = .execute family id) :
    let closed := closedBlocks options.language above
    let request : Request := ⟨family.mode,
      bodies (publicBlocks family closed) ++ bodies (gathered family id closed) ++ block.body⟩
    let unresolved := Failure.unresolvedCollection family id block.lineNumber
    let weaving := weave options runner content session
    (∃ value, id = .number value) ∧
    (outline options.language 0 above).ending = .unclosed block ∧
    ((∃ shown, loom.advance options above.length line = .refused unresolved shown)
      ↔ gathered family id closed = []) ∧
    (gathered family id closed = [] →
      weaving.result = .error unresolved ∧ weaving.session = session') ∧
    (gathered family id closed ≠ [] →
      (∃ shown, loom.advance options above.length line
        = .awaiting ⟨request, some (family, id)⟩ shown) ∧
      (∀ report after, runner request session' = (.ok report, after) →
        ∃ loom', Loom.start.feedAll options runner 0 (above ++ [line]) session
          = (.ok (), loom', after)) ∧
      (∀ failure after, runner request session' = (.error failure, after) →
        weaving.result = .error failure ∧ weaving.session = after)) ∧
    (∀ others, others.filter (Concerns family id) = closed.filter (Concerns family id) →
      publicBlocks family others = publicBlocks family closed
        ∧ gathered family id others = gathered family id closed) := by
  intro closed request unresolved weaving
  obtain ⟨hending, hrunnable, text, hfollows⟩ := follows_of_inside h.reached h.inside
  have hadvance : loom.advance options above.length line
      = if gathered family id closed = [] then .refused unresolved (loom.showBlock options block)
        else .awaiting ⟨request, some (family, id)⟩ (loom.showBlock options block) := by
    rw [h.advance]
    exact readClosing_execute hfollows hrunnable hkind
  refine ⟨?_, hending, ?_, ?_, ?_, fun others => gathered_congr⟩
  · -- only numbered collections are run
    cases id with
    | number value => exact ⟨value, rfl⟩
    | everyone => exact absurd hkind (hrunnable family)
  · -- refused exactly if nothing was gathered
    by_cases hgathered : gathered family id closed = []
    · rw [if_pos hgathered] at hadvance
      exact ⟨fun _ => hgathered, fun _ => ⟨_, hadvance⟩⟩
    · rw [if_neg hgathered] at hadvance
      constructor
      · rintro ⟨shown, hrefused⟩
        rw [hadvance] at hrefused
        cases hrefused
      · intro hnone
        exact absurd hnone hgathered
  · -- the refusal ends the page, and the runner is not asked
    intro hgathered
    rw [if_pos hgathered] at hadvance
    apply h.fail
    rw [Loom.feed, hadvance]
    rfl
  · intro hgathered
    rw [if_neg hgathered] at hadvance
    refine ⟨⟨_, hadvance⟩, ?_, ?_⟩
    · -- the runner answers
      intro report after hrun
      have hfeed : loom.feed options runner above.length line session'
          = (.ok (), (loom.showBlock options block).answered options
              ⟨request, some (family, id)⟩ report, after) := by
        rw [Loom.feed, hadvance, Loom.settle, hrun]
      exact ⟨_, h.goOn hfeed⟩
    · -- the runner fails
      intro failure after hrun
      apply h.fail
      rw [Loom.feed, hadvance, Loom.settle, hrun]

end

/-- A page on which an id is collected, run, and collected again, with a collection of the other
family in between, down to the body of the second run. -/
def sampleLines : List Text :=
  ["```zig -collect_*\n", "p\n", "```\n", "```zig -collect_1\n", "x\n", "```\n",
    "```zig -execute_1\n", "```\n", "```zig -collect_1\n", "a\n", "```\n",
    "```zig -test_collect_1\n", "t\n", "```\n", "```zig -collect_1\n", "b\n", "```\n",
    "```zig -execute_1\n", "c\n"].map String.toList

/-- The runner that reports every program as it is. -/
def echoRunner : Runner Unit :=
  fun request session => (.ok request.body, session)

/-- The second run of the page gets the public text and what was collected since the first one. -/
theorem runs_gathered_sample :
    ComesToClose .standard echoRunner (sampleLines.flatten ++ "```\n".toList) (.start ())
        sampleLines "```\n".toList
        (Loom.start.feedAll .standard echoRunner 0 sampleLines (.start ())).2.1
        ⟨.execute .run (.number 1), "c\n".toList, 17, none⟩ (.start ()) ∧
      ∃ shown, (Loom.start.feedAll .standard echoRunner 0 sampleLines (.start ())).2.1.advance
          .standard 19 "```\n".toList
        = .awaiting ⟨⟨.run, "p\na\nb\nc\n".toList⟩, some (.run, .number 1)⟩ shown := by
  have hbefore : ComesToClose .standard echoRunner (sampleLines.flatten ++ "```\n".toList)
      (.start ()) sampleLines "```\n".toList
      (Loom.start.feedAll .standard echoRunner 0 sampleLines (.start ())).2.1
      ⟨.execute .run (.number 1), "c\n".toList, 17, none⟩ (.start ()) := by
    constructor
    · exact ⟨[], by decide +kernel⟩
    · have hok : (Loom.start.feedAll .standard echoRunner 0 sampleLines (.start ())).1.isOk
          = true := by
        decide +kernel
      have hstats : (Loom.start.feedAll .standard echoRunner 0 sampleLines (.start ())).2.2.stats
          = .zero := by
        decide +kernel
      generalize Loom.start.feedAll .standard echoRunner 0 sampleLines (.start ()) = run
        at hok hstats ⊢
      obtain ⟨failure | _, loom, ⟨_, stats⟩⟩ := run
      · cases hok
      · obtain rfl : stats = .zero := hstats
        rfl
    · decide +kernel
    · decide +kernel
  have hbodies : bodies (gathered .run (.number 1) (closedBlocks "zig".toList sampleLines))
      = "a\nb\n".toList := by
    decide +kernel
  have hpublic : bodies (publicBlocks .run (closedBlocks "zig".toList sampleLines))
      = "p\n".toList := by
    decide +kernel
  refine ⟨hbefore, ?_⟩
  obtain ⟨-, -, -, -, hruns, -⟩ := runs_gathered hbefore rfl
  have hgathered : gathered .run (.number 1) (closedBlocks "zig".toList sampleLines) ≠ [] := by
    intro hnone
    rw [hnone] at hbodies
    cases hbodies
  obtain ⟨⟨shown, hadvance⟩, -⟩ := hruns hgathered
  refine ⟨shown, ?_⟩
  have hbody : bodies (publicBlocks .run (closedBlocks "zig".toList sampleLines))
      ++ bodies (gathered .run (.number 1) (closedBlocks "zig".toList sampleLines))
      ++ "c\n".toList = "p\na\nb\nc\n".toList := by
    rw [hbodies, hpublic]
    rfl
  rw [← hbody]
  exact hadvance

end Weave
