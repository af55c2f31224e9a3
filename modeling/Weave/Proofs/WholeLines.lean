import Weave.Proofs.CacheDirectory
import Weave.Proofs.Reachable
import Weave.Proofs.Streams

/-!
# Weave.Proofs.WholeLines — no line is ever joined to another

What a loom keeps is put together from whole lines: the bodies of blocks, the fragments, and the page
that it puts out. So the fences that it puts out itself begin at the start of a line, and the program
of a collection has the lines of its three parts, one after the other. The last line of a page may lack
its line feed, and so may what a program prints; neither is ever followed by anything on the same line.

1. **Whole texts**: `Text.Whole`.
2. **Reports** end in a line feed, whether they were rendered now or are known to the cache
   (`EndsReports.cached`).
3. **Looms**: `whole_feed` is about one line and `whole_feedAll` about those of a page.
4. **Fences**: what a closing line puts out (`output_closing`), with its fences at the start of a line
   (`aligned_shown`).
5. `feedAll_wholeLines` puts these together.
-/

namespace Weave

variable {σ : Type}

/-! ## Whole texts -/

namespace Text

/-- A text of whole lines: it is empty or ends in a line feed. -/
def Whole (s : Text) : Prop :=
  s = [] ∨ ∃ start, s = endLine start

theorem whole_nil : Whole [] :=
  .inl rfl

theorem whole_append_endLine (s line : Text) : Whole (s ++ endLine line) :=
  .inr ⟨s ++ line, by rw [endLine, endLine, List.append_assoc]⟩

theorem whole_of_getLast? {s : Text} (h : s.getLast? = some '\n') : Whole s :=
  .inr (List.getLast?_eq_some_iff.1 h)

theorem Whole.append {s t : Text} (hs : Whole s) (ht : Whole t) : Whole (s ++ t) := by
  obtain rfl | ⟨start, rfl⟩ := ht
  · rwa [List.append_nil]
  · exact whole_append_endLine s start

/-- What stands behind a whole text begins a line. -/
theorem Whole.lines_append {s : Text} (hs : Whole s) (rest : Text) :
    lines (s ++ rest) = lines s ++ lines rest :=
  Text.lines_append hs rest

end Text

/-! ## Reports -/

/-- A report ends in a line feed, also if its streams do not. -/
theorem ToolOutput.getLast?_report (output : ToolOutput) :
    output.report.getLast? = some '\n' := by
  obtain ⟨start, hsection⟩ := exists_streamSection_eq "stderr".toList output.stderr
  rw [report, hsection, ← List.append_assoc, List.getLast?_concat]

/-- In good worlds every report that is known ends in a line feed. They stay good when a request is run
and when a report is stored that ends in one. -/
structure EndsReports (toolchain : Toolchain σ) (cache : Cache σ) (Good : σ → Prop) : Prop where
  loaded : ∀ {world request report}, Good world →
    cache.load (.ofRequest request) world = .ok (some report) → report.getLast? = some '\n'
  executed : ∀ {world} request, Good world → Good (toolchain.execute request world).2
  stored : ∀ {world} request {report : Text}, Good world → report.getLast? = some '\n' →
    Good (cache.store (.ofRequest request) report world).2

section

variable {toolchain : Toolchain σ} {cache : Cache σ} {Good : σ → Prop}

/-- Every answer ends in a line feed, and the world stays good whether there is one or not. -/
theorem EndsReports.cached (hreports : EndsReports toolchain cache Good) {session : Session σ}
    (hgood : Good session.world) (request : Request) :
    Good (Runner.cached toolchain cache request session).2.world ∧
      ∀ report, (Runner.cached toolchain cache request session).1 = .ok report →
        report.getLast? = some '\n' := by
  have hran := hreports.executed request hgood
  have hserved := Runner.served toolchain cache request session
  generalize Runner.cached toolchain cache request session = result at hserved ⊢
  cases hserved with
  | unread failure hload => exact ⟨hgood, by simp⟩
  | hit known hload =>
    refine ⟨hgood, ?_⟩
    rintro report ⟨⟩
    exact hreports.loaded hgood hload
  | failed failure world hload hrun =>
    rw [hrun] at hran
    exact ⟨hran, by simp⟩
  | unstored output failure ran world hload hrun hstore =>
    rw [hrun] at hran
    have hstored := hreports.stored request hran output.getLast?_report
    rw [hstore] at hstored
    exact ⟨hstored, by simp⟩
  | stored output ran world hload hrun hstore =>
    rw [hrun] at hran
    have hstored := hreports.stored request hran output.getLast?_report
    rw [hstore] at hstored
    refine ⟨hstored, ?_⟩
    rintro report ⟨⟩
    exact output.getLast?_report

theorem EndsReports.afterAll (hreports : EndsReports toolchain cache Good) (requests : List Request)
    {session : Session σ} (hgood : Good session.world) :
    Good ((Runner.cached toolchain cache).afterAll requests session).world := by
  induction requests generalizing session with
  | nil => exact hgood
  | cons request requests ih => exact ih (hreports.cached hgood request).1

/-- A cache whose entries change by stores alone. -/
theorem endsReports_of_keeps (hcache : cache.Keeps toolchain) :
    EndsReports toolchain cache fun world => ∀ request report,
      cache.load (.ofRequest request) world = .ok (some report) → report.getLast? = some '\n' where
  loaded hgood hload := hgood _ _ hload
  executed request hgood other report hload := by
    rw [hcache.executed] at hload
    exact hgood other report hload
  stored {world} request {report} hgood hreport other known hload := by
    generalize hstore : cache.store (.ofRequest request) report world = result at hload
    rcases result with ⟨failure | done, after⟩
    · rw [hcache.unstored hstore] at hload
      exact hgood other known hload
    · rw [hcache.stored hstore] at hload
      split at hload
      · cases hload
        exact hreport
      · exact hgood other known hload

end

/-- The cache in a directory, with a toolchain that has no hold of the disk. -/
theorem endsReports_disk {τ : Type} {toolchain : Toolchain (World τ)}
    (hdisk : ∀ request world, (toolchain.execute request world).2.disk = world.disk) (dir : Text) :
    EndsReports toolchain (.disk dir) fun world => ∃ memory, DiskCache.Mirrors dir memory world.disk ∧
      ∀ request report, memory.get? (.ofRequest request) = some report →
        report.getLast? = some '\n' where
  loaded := by
    rintro world request report ⟨memory, hmirrors, hended⟩ hload
    simp only [Cache.disk, DiskCache.load_of_mirrors hmirrors request, Except.ok.injEq] at hload
    exact hended request report hload
  executed := by
    rintro world request ⟨memory, hmirrors, hended⟩
    rw [hdisk]
    exact ⟨memory, hmirrors, hended⟩
  stored := by
    rintro world request report ⟨memory, hmirrors, hended⟩ hreport
    obtain ⟨after, hstore, -, hafter⟩ := DiskCache.store_of_mirrors hmirrors request report
    simp only [Cache.disk, hstore]
    refine ⟨_, hafter, fun other known hget => ?_⟩
    rw [Store.get?_insert] at hget
    split at hget
    · cases hget
      exact hreport
    · exact hended other known hget

/-! ## Looms -/

/-- The body of the block that is open and all fragments are made of whole lines. -/
structure Loom.Whole (loom : Loom) : Prop where
  block : ∀ block, loom.phase = .inside block → Text.Whole block.body
  fragments : ∀ family id fragment, loom.collections.get? family id = some fragment →
    Text.Whole fragment.body

theorem Loom.whole_start : Loom.start.Whole :=
  ⟨by rintro block ⟨⟩, by rintro family id fragment ⟨⟩⟩

theorem Loom.Whole.publicText {loom : Loom} (hloom : loom.Whole) (family : Family) :
    Text.Whole (loom.collections.publicText family) := by
  unfold Collections.publicText
  cases hget : loom.collections.get? family .everyone with
  | none => exact Text.whole_nil
  | some fragment => exact hloom.fragments family .everyone fragment hget

/-- A block adds whole lines to its fragment, or takes one away. -/
theorem Collections.whole_close {c : Collections} {block : Block}
    (hc : ∀ family id fragment, c.get? family id = some fragment → Text.Whole fragment.body)
    (hblock : Text.Whole block.body) (family : Family) (id : CollectionId) (fragment : Fragment)
    (hget : (c.close block).get? family id = some fragment) : Text.Whole fragment.body := by
  cases hkind : block.kind with
  | plain | skip | singleFile =>
    rw [close_eq_self (by simp [hkind]) (by simp [hkind])] at hget
    exact hc family id fragment hget
  | collect family' id' =>
    simp only [close, hkind, get?_record] at hget
    split at hget
    · -- the block goes behind a fragment that began on another line, or begins a new one
      cases hget
      unfold merged
      split
      · next old hold =>
        split
        · exact hblock
        · exact (hc _ _ old hold).append hblock
      · exact hblock
    · exact hc family id fragment hget
  | execute family' id' =>
    simp only [close, hkind, get?_consume] at hget
    split at hget
    · cases hget
    · exact hc family id fragment hget

/-! ## Fences -/

/-- A piece of what a closing line puts out. -/
inductive Put where
  | text (s : Text)
  /-- A fence line, without its line feed. -/
  | fence (line : Text)

/-- A piece on the page. -/
def Put.shown : Put → Text
  | .text s => s
  | .fence line => Text.endLine line

/-- Every fence among some pieces is at the start of a line, when they are put out behind a text. -/
def Aligned (out : Text) : List Put → Prop
  | [] => True
  | .text s :: puts => Aligned (out ++ s) puts
  | .fence line :: puts => Text.Whole out ∧ Aligned (out ++ Text.endLine line) puts

/-- The echo of a block in pieces, and below it the section with the report, if there is one. -/
def Block.puts (options : Options) (block : Block) (report? : Option Text) : List Put :=
  [.fence (Loom.openingLine options.language block.highlight), .text block.body,
    .fence Fence.marker] ++
    match report? with
    | none => []
    | some report => [.text ['\n'], .fence (Fence.marker ++ options.resultTag), .text report,
        .fence Fence.marker]

theorem Block.shown_puts (options : Options) (block : Block) (report? : Option Text) :
    (block.puts options report?).flatMap Put.shown
      = Loom.shownBlock options.language block
        ++ (report?.elim [] fun report => Loom.shownReport options.resultTag report) := by
  cases report? <;> simp [puts, Put.shown, Loom.shownBlock, Loom.shownReport]

theorem Block.aligned_puts {options : Options} {block : Block} {report? : Option Text} {out : Text}
    (hout : Text.Whole out) (hbody : Text.Whole block.body)
    (hreport : ∀ report ∈ report?, Text.Whole report) :
    Aligned out (block.puts options report?) := by
  have hopened := (Text.whole_append_endLine out
    (Loom.openingLine options.language block.highlight)).append hbody
  cases report? with
  | none => exact ⟨hout, hopened, trivial⟩
  | some report =>
    -- the line feed between echo and report makes an empty line, so the second fence is aligned too
    refine ⟨hout, hopened, Text.whole_append_endLine _ [], ?_⟩
    exact ⟨(Text.whole_append_endLine _ _).append (hreport report rfl), trivial⟩

section

variable {options : Options} {runner : Runner σ} {loom next : Loom} {index : Nat} {line : Text}
  {session after : Session σ} {result : Except Failure Unit}

/-- What a closing line puts out: the block, and the answer to what it asks, if there is one. -/
theorem Loom.output_closing {block : Block} (hphase : loom.phase = .inside block)
    (hline : closes line = true)
    (h : loom.feed options runner index line session = (result, next, after)) :
    ∃ report?, next.output = loom.output ++ (block.puts options report?).flatMap Put.shown ∧
      ∀ report ∈ report?, ∃ request ∈ (loom.advance options index line).asks,
        (runner request session).1 = .ok report := by
  have hshown : (loom.showBlock options block).output
      = loom.output ++ (block.puts options none).flatMap Put.shown := by
    rw [Block.shown_puts, Option.elim_none, List.append_nil]
    rfl
  cases closes_of_feed hphase hline h with
  | failed failure => exact ⟨none, hshown, by simp⟩
  | shown hwork => exact ⟨none, hshown, by simp⟩
  | collected hwork => exact ⟨none, hshown, by simp⟩
  | @answered job report hwork hanswer =>
    refine ⟨some report, ?_, ?_⟩
    · rw [Block.shown_puts, Option.elim_some, ← List.append_assoc]
      rfl
    · have hclose : Fence.isClose (Text.chomp line) = true := hline
      have hasks : (loom.advance options index line).asks = [job.request] := by
        simp [advance, hphase, hclose, readClosing, hwork, Step.asks]
      rintro _ ⟨⟩
      exact ⟨job.request, by rw [hasks]; exact List.mem_singleton.2 rfl, hanswer⟩

/-- A line that closes no block puts out no fence: it is copied, or nothing is put out. -/
theorem Loom.output_of_not_closing
    (hline : ∀ block, loom.phase = .inside block → closes line = false)
    (h : loom.feed options runner index line session = (result, next, after)) :
    next.output = loom.output ∨ next.output = loom.output ++ line := by
  have hopen : ∀ block, loom.phase = .inside block → closes line ≠ true := fun block hphase =>
    Bool.eq_false_iff.1 (hline block hphase)
  have hfed := fed options runner loom index line session
  rw [h] at hfed
  cases hfed with
  | refused failure hphase hrefused => exact .inl rfl
  | copied hphase => exact .inr rfl
  | opening block warnings hphase => exact .inl rfl
  | body block longer hphase hbody => exact .inl rfl
  | shown block hphase hclose hkind => exact absurd hclose (hopen block hphase)
  | collected block family id hphase hclose hkind => exact absurd hclose (hopen block hphase)
  | failed block failure after hphase hclose => exact absurd hclose (hopen block hphase)
  | answered block job report after hphase hclose hwork => exact absurd hclose (hopen block hphase)

/-! ## Lines -/

/-- A line makes nothing but whole lines of bodies and fragments, whether it is ended or not. -/
theorem Loom.Whole.feed (hloom : loom.Whole)
    (h : loom.feed options runner index line session = (result, next, after)) : next.Whole := by
  constructor
  case block =>
    intro block hinside
    obtain ⟨-, opening, -, rfl⟩ | ⟨before, hphase, rfl⟩ := inside_of_feed h hinside
    · exact Text.whole_nil
    · exact Text.whole_append_endLine before.body (Text.chomp line)
  case fragments =>
    rw [collections_feed h]
    rcases loom.closings_cases line result with hnone | ⟨block, hphase, -, hone⟩
    · rw [hnone]
      exact hloom.fragments
    · rw [hone]
      cases result with
      | error failure => exact hloom.fragments
      | ok done => exact Collections.whole_close hloom.fragments (hloom.block block hphase)

/-- The page stays one of whole lines if the line is ended. -/
theorem Loom.whole_output_feed (hout : Text.Whole loom.output) (hended : Text.Whole line)
    (h : loom.feed options runner index line session = (result, next, after)) :
    Text.Whole next.output := by
  by_cases hclose : ∃ block, loom.phase = .inside block ∧ closes line = true
  · obtain ⟨block, hphase, hline⟩ := hclose
    obtain ⟨report?, hnext, -⟩ := output_closing hphase hline h
    -- whatever was put out, the last piece is a fence
    rw [hnext]
    cases report? with
    | none =>
      rw [Block.shown_puts, Option.elim_none, List.append_nil, shownBlock, ← List.append_assoc]
      exact Text.whole_append_endLine _ _
    | some report =>
      rw [Block.shown_puts, Option.elim_some, shownReport, ← List.append_assoc,
        ← List.append_assoc]
      exact Text.whole_append_endLine _ _
  · have hline : ∀ block, loom.phase = .inside block → closes line = false := by
      intro block hphase
      exact Bool.eq_false_iff.2 fun hline => hclose ⟨block, hphase, hline⟩
    rcases output_of_not_closing hline h with hsame | hcopied
    · rwa [hsame]
    · rw [hcopied]
      exact hout.append hended

/-- The request for a collection has the lines of its three parts, one after the other. -/
theorem Loom.Whole.lines_asks (hloom : loom.Whole) {block : Block} {family : Family}
    {id : CollectionId} (hphase : loom.phase = .inside block)
    (hkind : block.kind = .execute family id) {request : Request}
    (hasks : request ∈ (loom.advance options index line).asks) :
    ∃ fragment, loom.collections.get? family id = some fragment ∧
      request.mode = family.mode ∧
      Text.lines request.body = Text.lines (loom.collections.publicText family)
        ++ Text.lines fragment.body ++ Text.lines block.body := by
  obtain ⟨-, fragment, hget, hasked⟩ := asks_execute hphase hkind (List.ne_nil_of_mem hasks)
  rw [hasked, List.mem_singleton] at hasks
  subst hasks
  refine ⟨fragment, hget, rfl, ?_⟩
  have hpublic := hloom.publicText family
  have hfragment := hloom.fragments family id fragment hget
  rw [(hpublic.append hfragment).lines_append, hpublic.lines_append]

end

/-! ## Pages -/

section

variable {toolchain : Toolchain σ} {cache : Cache σ} {Good : σ → Prop} {options : Options}

/-- Lines of a page, up to the first one that fails. -/
theorem whole_feedAll (hreports : EndsReports toolchain cache Good) (lines : List Text) (loom : Loom)
    (index : Nat) (session : Session σ) (hloom : loom.Whole) (hgood : Good session.world) :
    let fed := loom.feedAll options (Runner.cached toolchain cache) index lines session
    fed.2.1.Whole ∧ Good fed.2.2.world ∧
      (Text.Whole loom.output → (∀ line ∈ lines, Text.Whole line) → Text.Whole fed.2.1.output) := by
  induction lines generalizing loom index session with
  | nil => exact ⟨hloom, hgood, fun hout _ => hout⟩
  | cons line lines ih =>
    have hworld : Good (loom.feed options (Runner.cached toolchain cache) index line
        session).2.2.world := by
      rw [Loom.session_feed]
      exact hreports.afterAll _ hgood
    rw [Loom.feedAll]
    rcases hfeed : loom.feed options (Runner.cached toolchain cache) index line session with
      ⟨failure | done, next, after⟩
    all_goals
      have hnext := hloom.feed hfeed
      rw [hfeed] at hworld
    · exact ⟨hnext, hworld, fun hout hended =>
        Loom.whole_output_feed hout (hended line List.mem_cons_self) hfeed⟩
    · obtain ⟨hwhole, hlast, houtput⟩ := ih next (index + 1) after hnext hworld
      refine ⟨hwhole, hlast, fun hout hended => ?_⟩
      rw [List.forall_mem_cons] at hended
      exact houtput (Loom.whole_output_feed hout hended.1 hfeed) hended.2

/-- The lines above another one are whole. -/
theorem whole_of_lines {content : Text} {above below : List Text}
    (hlines : Text.lines content = above ++ below) (hbelow : below ≠ []) :
    ∀ line ∈ above, Text.Whole line := by
  obtain ⟨next, below, rfl⟩ := List.exists_cons_of_ne_nil hbelow
  -- only the last line of a text may lack its line feed
  have hlined := lined_lines content
  rw [hlines] at hlined
  intro line hline
  obtain ⟨text, rfl, -⟩ := hlined.of_append.1 line hline
  exact .inr ⟨text, rfl⟩

/-- A moment of a pass over a page, of which the lines `below` are left: no line was joined to another,
and the next line joins none. -/
structure WholeLines (options : Options) (runner : Runner σ) (below : List Text) (loom : Loom)
    (session : Session σ) : Prop where
  /-- The body of the block that is open is empty or ends in a line feed, -/
  block : ∀ block, loom.phase = .inside block → Text.Whole block.body
  /-- every fragment does, -/
  fragments : ∀ family id fragment, loom.collections.get? family id = some fragment →
    Text.Whole fragment.body
  /-- and the page does, if a line is still to come. -/
  output : below ≠ [] → Text.Whole loom.output
  /-- A line that closes no block puts out no fence: it is copied, or nothing is put out. -/
  copied : ∀ index line, (∀ block, loom.phase = .inside block → closes line = false) →
    let next := (loom.feed options runner index line session).2.1
    next.output = loom.output ∨ next.output = loom.output ++ line
  /-- A line that closes a block puts out its echo, and the section with the report if there is an
  answer. All fences of both are at the start of a line. -/
  fences : below ≠ [] → ∀ block, loom.phase = .inside block → ∀ index line, closes line = true →
    ∃ report?, (loom.feed options runner index line session).2.1.output
        = loom.output ++ (block.puts options report?).flatMap Put.shown ∧
      Aligned loom.output (block.puts options report?) ∧
      ∀ report ∈ report?, ∃ request ∈ (loom.advance options index line).asks,
        (runner request session).1 = .ok report
  /-- The request for a collection has the lines of the public text, then those of the fragment, and then
  those of the block. -/
  requests : ∀ block family id, loom.phase = .inside block → block.kind = .execute family id →
    ∀ index line, ∀ request ∈ (loom.advance options index line).asks,
      ∃ fragment, loom.collections.get? family id = some fragment ∧ request.mode = family.mode ∧
        Text.lines request.body = Text.lines (loom.collections.publicText family)
          ++ Text.lines fragment.body ++ Text.lines block.body

/-- At every moment of a pass over a page everything is made of whole lines, if the reports that the
cache knows end in a line feed; and they still do. -/
theorem feedAll_wholeLines (hreports : EndsReports toolchain cache Good) (options : Options)
    (content : Text) (session : Session σ) (hgood : Good session.world) (above below : List Text)
    (hlines : Text.lines content = above ++ below) :
    let runner := Runner.cached toolchain cache
    let fed := Loom.start.feedAll options runner 0 above session
    Good fed.2.2.world ∧ WholeLines options runner below fed.2.1 fed.2.2 := by
  intro runner fed
  obtain ⟨hwhole, hworld, hended⟩ : fed.2.1.Whole ∧ Good fed.2.2.world ∧
      (Text.Whole [] → (∀ line ∈ above, Text.Whole line) → Text.Whole fed.2.1.output) :=
    whole_feedAll hreports above .start 0 session Loom.whole_start hgood
  have houtput : below ≠ [] → Text.Whole fed.2.1.output := fun hbelow =>
    hended Text.whole_nil (whole_of_lines hlines hbelow)
  refine ⟨hworld, ?_⟩
  constructor
  case block => exact hwhole.block
  case fragments => exact hwhole.fragments
  case output => exact houtput
  case copied =>
    intro index line hline
    rcases hfeed : fed.2.1.feed options runner index line fed.2.2 with ⟨result, next, after⟩
    exact Loom.output_of_not_closing hline hfeed
  case fences =>
    intro hbelow block hphase index line hline
    rcases hfeed : fed.2.1.feed options runner index line fed.2.2 with ⟨result, next, after⟩
    obtain ⟨report?, hnext, hanswered⟩ := Loom.output_closing hphase hline hfeed
    have hreport : ∀ report ∈ report?, Text.Whole report := by
      intro report hknown
      obtain ⟨request, -, hanswer⟩ := hanswered report hknown
      exact Text.whole_of_getLast? ((hreports.cached hworld request).2 report hanswer)
    exact ⟨report?, hnext,
      Block.aligned_puts (houtput hbelow) (hwhole.block block hphase) hreport, hanswered⟩
  case requests =>
    intro block family id hphase hkind index line request hrequest
    exact hwhole.lines_asks hphase hkind hrequest

end

/-- A page whose last line has no line feed, with an empty block in a collection. -/
def unendedPage : Text :=
  "above\n```zig -collect_*\np\n```\n```zig -collect_1\n```\n```zig -execute_1\nb\n```".toList

/-- A session whose toolchain prints a line without a line feed. -/
def unendedSession : Session (World Script) :=
  .start (.ofDisk (.blank [])
    (.ofResponses [⟨none, some "p\nb\n".toList, false, .output ⟨"out".toList, []⟩⟩]))

/-- Where reports are kept: in memory, or in a directory that does not exist yet. -/
def unendedCaches : List (Cache (World Script)) :=
  [.memory, .disk "cache".toList]

/-- Neither of them knows a report. -/
theorem exists_endsReports_unended : ∀ cache ∈ unendedCaches, ∃ Good,
    EndsReports Toolchain.scripted cache Good ∧ Good unendedSession.world := by
  intro cache hcache
  obtain rfl | rfl : cache = .memory ∨ cache = .disk "cache".toList := by
    simpa [unendedCaches] using hcache
  · refine ⟨_, endsReports_of_keeps (Cache.memory_keeps fun _ _ => rfl), ?_⟩
    rintro request report ⟨⟩
  · refine ⟨_, endsReports_disk (fun _ _ => rfl) "cache".toList, .empty, ?_, ?_⟩
    · have hplace : DiskCache.Place "cache".toList unendedSession.world.disk :=
        DiskCache.place_of_entries (by decide +kernel) (by decide +kernel) (by decide +kernel)
          (by decide +kernel) (by decide +kernel)
      exact hplace.mirrors_empty fun location =>
        DiskCache.node?_below_of_entries (by decide +kernel) (by decide +kernel)
    · rintro request report ⟨⟩

/-- The last line closes a block: the program has the lines of the page, and the fences of the report
stand on lines of their own, wherever reports are kept. -/
theorem feedAll_wholeLines_unended : unendedCaches.Forall fun cache =>
    let runner := Runner.cached Toolchain.scripted cache
    let fed := Loom.start.feedAll .standard runner 0 ((Text.lines unendedPage).take 8) unendedSession
    let closing := "```".toList
    let block : Block := ⟨.execute .run (.number 1), "b\n".toList, 6, none⟩
    (Text.lines unendedPage).drop 8 = [closing] ∧ fed.2.1.phase = .inside block ∧
      Text.Whole fed.2.1.output ∧
      (∃ fragment, fed.2.1.collections.get? .run (.number 1) = some fragment ∧
        Text.lines "p\nb\n".toList = Text.lines (fed.2.1.collections.publicText .run)
          ++ Text.lines fragment.body ++ Text.lines block.body) ∧
      ∃ report?, (fed.2.1.feed .standard runner 8 closing fed.2.2).2.1.output
          = fed.2.1.output ++ (block.puts .standard report?).flatMap Put.shown ∧
        Aligned fed.2.1.output (block.puts .standard report?) := by
  rw [List.forall_iff_forall_mem]
  intro cache hcache runner fed closing block
  have hbelow : (Text.lines unendedPage).drop 8 = [closing] := by decide +kernel
  have hne : (Text.lines unendedPage).drop 8 ≠ [] := by simp [hbelow]
  -- nothing was asked above the last line, so this is computed for both caches
  have hphase : fed.2.1.phase = .inside block := by
    revert cache
    decide +kernel
  have hasks : (fed.2.1.advance .standard 8 closing).asks = [⟨.run, "p\nb\n".toList⟩] := by
    clear hphase
    revert cache
    decide +kernel
  have hsplit : Text.lines unendedPage
      = (Text.lines unendedPage).take 8 ++ (Text.lines unendedPage).drop 8 :=
    (List.take_append_drop 8 _).symm
  obtain ⟨Good, hreports, hgood⟩ := exists_endsReports_unended cache hcache
  have hmoment : WholeLines .standard runner ((Text.lines unendedPage).drop 8) fed.2.1 fed.2.2 := by
    have hfed : fed = Loom.start.feedAll .standard (Runner.cached Toolchain.scripted cache) 0
        ((Text.lines unendedPage).take 8) unendedSession := rfl
    rw [hfed]
    exact (feedAll_wholeLines hreports .standard unendedPage unendedSession hgood _ _ hsplit).2
  obtain ⟨fragment, hget, -, hlines⟩ := hmoment.requests block .run (.number 1) hphase rfl 8 closing
    ⟨.run, "p\nb\n".toList⟩ (by rw [hasks]; simp)
  obtain ⟨report?, houtput, haligned, -⟩ := hmoment.fences hne block hphase 8 closing (by decide)
  exact ⟨hbelow, hphase, hmoment.output hne, ⟨fragment, hget, hlines⟩, report?, houtput, haligned⟩

end Weave
