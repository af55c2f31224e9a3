import Weave.Proofs.Rereading
import Weave.Report

/-!
# Weave.Proofs.Streams — what a report tells of the streams

A report puts the two streams of a run one behind the other, each below a line that says which one
it is. The line of the second stream is where the first one ends, as long as the first has no such
line itself: then both streams can be read off the report, up to the line feeds that were added at
their ends.

* `streamSection_eq`: a section is its heading and its stream, every line of them ended.
* `lines_report`: the lines of a report.
* `report_unambiguous`: reports are the same only if the streams are.
-/

namespace Weave

/-! ## Ended texts -/

namespace Text

/-- The text of a stream, which ends in a line feed unless it is empty. -/
def ended (s : Text) : Text :=
  if s.isEmpty then [] else terminated s

theorem ended_eq_nil_iff {s : Text} : ended s = [] ↔ s = [] := by
  unfold ended terminated
  split
  · simp_all
  · split <;> simp_all

theorem eq_nil_iff_of_ended {s t : Text} (h : ended s = ended t) : s = [] ↔ t = [] := by
  rw [← ended_eq_nil_iff, h, ended_eq_nil_iff]

theorem ended_cases (s : Text) : ended s = [] ∨ ∃ start, ended s = start ++ ['\n'] := by
  unfold ended terminated
  split
  · exact .inl rfl
  · split
    · next hlast => exact .inr (List.getLast?_eq_some_iff.1 hlast)
    · exact .inr ⟨s, rfl⟩

theorem stripLast_endLine (line : Text) : stripLast '\n' (endLine line) = line := by
  simp [stripLast, endLine]

theorem ended_of_ne_nil {s : Text} (h : s ≠ []) : ended s = terminated s :=
  if_neg (by simpa using h)

theorem terminated_endLine (line : Text) : terminated (endLine line) = endLine line :=
  if_pos (by simp [endLine])

/-- Only the last line is ended. -/
theorem ended_endLine_append (line rest : Text) :
    ended (endLine line ++ rest) = endLine line ++ ended rest := by
  rw [ended_of_ne_nil (by simp [endLine])]
  by_cases hrest : rest = []
  · subst hrest
    rw [List.append_nil, terminated_endLine]
    exact (List.append_nil _).symm
  · rw [ended_of_ne_nil hrest, terminated, terminated, List.getLast?_append_of_ne_nil _ hrest]
    split
    · rfl
    · rw [List.append_assoc]

end Text

theorem Lined.lines_ended {lines : List Text} (h : Lined lines) :
    Text.lines (Text.ended lines.flatten)
      = lines.map fun line => Text.endLine (Text.stripLast '\n' line) := by
  induction h with
  | nil => rfl
  | last text hnone hne =>
    have hended : Text.ended text = Text.endLine text := by
      rw [Text.ended_of_ne_nil hne]
      exact if_neg fun hlast => hnone (List.mem_of_getLast? hlast)
    have hline := Text.lines_endLine_append hnone []
    rw [List.append_nil] at hline
    rw [List.flatten_singleton, hended, hline, List.map_singleton, Text.stripLast_of_notMem hnone]
    rfl
  | cons text hnone hlines ih =>
    rw [List.flatten_cons, Text.ended_endLine_append, Text.lines_endLine_append hnone, ih,
      List.map_cons, Text.stripLast_endLine]

/-- Every line of an ended text ends in one line feed. -/
theorem Text.lines_ended (s : Text) :
    lines (ended s) = (lines s).map fun line => endLine (stripLast '\n' line) := by
  have h := (lined_lines s).lines_ended
  rwa [flatten_lines] at h

/-! ## Sections -/

/-- The line above a stream. -/
def streamHeading (name content : Text) : Text :=
  '$' :: name ++ (if content.isEmpty then " returns nothing." else ":").toList

theorem streamHeading_congr {name content content' : Text} (h : content = [] ↔ content' = []) :
    streamHeading name content = streamHeading name content' := by
  have hempty : content.isEmpty = content'.isEmpty := by
    rw [Bool.eq_iff_iff, List.isEmpty_iff, List.isEmpty_iff, h]
  rw [streamHeading, streamHeading, hempty]

theorem streamSection_eq (name content : Text) :
    streamSection name content = Text.endLine (streamHeading name content) ++ Text.ended content := by
  unfold streamSection streamHeading Text.endLine Text.ended
  split <;> simp

/-- A section ends in a line feed. -/
theorem exists_streamSection_eq (name content : Text) :
    ∃ start, streamSection name content = start ++ ['\n'] := by
  rw [streamSection_eq, Text.endLine]
  rcases Text.ended_cases content with hnone | ⟨start, hcontent⟩
  · exact ⟨streamHeading name content, by rw [hnone, List.append_nil]⟩
  · exact ⟨streamHeading name content ++ ['\n'] ++ start, by rw [hcontent, ← List.append_assoc]⟩

theorem newline_notMem_streamHeading {name : Text} (h : '\n' ∉ name) (content : Text) :
    '\n' ∉ streamHeading name content := by
  unfold streamHeading
  split <;> simp [h]

/-! ## Reports -/

namespace ToolOutput

/-- A text without a line that could be the heading of the second stream. -/
def Unheaded (s : Text) : Prop :=
  ∀ line ∈ Text.lines s, Text.stripLast '\n' line ≠ "$stderr:".toList ∧
    Text.stripLast '\n' line ≠ "$stderr returns nothing.".toList

instance (s : Text) : Decidable (Unheaded s) :=
  inferInstanceAs (Decidable (∀ line ∈ Text.lines s, _))

theorem report_eq (output : ToolOutput) :
    output.report = Text.endLine (streamHeading "stdout".toList output.stdout)
      ++ (Text.ended output.stdout
        ++ (Text.endLine (streamHeading "stderr".toList output.stderr)
          ++ Text.ended output.stderr)) := by
  rw [report, streamSection_eq, streamSection_eq, List.append_assoc]

/-- The lines of a report: those of the two streams, each below its heading. -/
theorem lines_report (output : ToolOutput) :
    Text.lines output.report = Text.endLine (streamHeading "stdout".toList output.stdout)
      :: (Text.lines (Text.ended output.stdout)
        ++ Text.endLine (streamHeading "stderr".toList output.stderr)
          :: Text.lines (Text.ended output.stderr)) := by
  rw [report_eq,
    Text.lines_endLine_append (newline_notMem_streamHeading (by decide) output.stdout),
    Text.lines_append (Text.ended_cases output.stdout),
    Text.lines_endLine_append (newline_notMem_streamHeading (by decide) output.stderr)]

/-- Whether a line is no heading of the second stream. -/
def isUnheaded (line : Text) : Bool :=
  Text.stripLast '\n' line ≠ "$stderr:".toList ∧
    Text.stripLast '\n' line ≠ "$stderr returns nothing.".toList

theorem isUnheaded_heading (content : Text) :
    isUnheaded (Text.endLine (streamHeading "stderr".toList content)) = false := by
  rw [isUnheaded, Text.stripLast_endLine, streamHeading]
  split <;> decide

theorem Unheaded.isUnheaded {s : Text} (h : Unheaded s) :
    ∀ line ∈ Text.lines (Text.ended s), ToolOutput.isUnheaded line = true := by
  intro line hline
  rw [Text.lines_ended] at hline
  obtain ⟨source, hsource, rfl⟩ := List.mem_map.1 hline
  rw [ToolOutput.isUnheaded, Text.stripLast_endLine]
  exact decide_eq_true (h source hsource)

/-- What stands in front of the first item that a test refuses is told by the items together. -/
theorem append_cons_cancel {α : Type} {p : α → Bool} {xs ys rest rest' : List α} {x y : α}
    (hxs : ∀ a ∈ xs, p a = true) (hys : ∀ a ∈ ys, p a = true) (hx : p x = false) (hy : p y = false)
    (h : xs ++ x :: rest = ys ++ y :: rest') : xs = ys ∧ x :: rest = y :: rest' := by
  have hfront : ∀ zs rest (z : α), (∀ a ∈ zs, p a = true) → p z = false →
      (zs ++ z :: rest).takeWhile p = zs := by
    intro zs rest z hzs hz
    rw [List.takeWhile_append_of_pos hzs, List.takeWhile_cons_of_neg (by simp [hz]),
      List.append_nil]
  have hsame : xs = ys := by
    rw [← hfront xs rest x hxs hx, h, hfront ys rest' y hys hy]
  subst hsame
  exact ⟨rfl, List.append_cancel_left h⟩

/-- A report is never empty and ends in a line feed, and it tells the streams apart. Two outputs whose
first streams have no line that could be the heading of the second one have the same report only if
their streams are the same, up to a line feed at the end of a stream that is not empty; in
particular a stream that is empty is told from every other one. -/
theorem report_unambiguous (output : ToolOutput) :
    output.report ≠ [] ∧ output.report.getLast? = some '\n' ∧
    ∀ other : ToolOutput, Unheaded output.stdout → Unheaded other.stdout →
      (output.report = other.report ↔
        Text.ended output.stdout = Text.ended other.stdout ∧
        Text.ended output.stderr = Text.ended other.stderr) ∧
      (output.report = other.report →
        (output.stdout = [] ↔ other.stdout = []) ∧ (output.stderr = [] ↔ other.stderr = [])) := by
  have hlast : output.report.getLast? = some '\n' := by
    obtain ⟨start, hsection⟩ := exists_streamSection_eq "stderr".toList output.stderr
    rw [report, hsection, ← List.append_assoc, List.getLast?_concat]
  refine ⟨fun hempty => by simp [hempty] at hlast, hlast, fun other hunheaded hunheaded' => ?_⟩
  have hstreams : output.report = other.report →
      Text.ended output.stdout = Text.ended other.stdout ∧
      Text.ended output.stderr = Text.ended other.stderr := by
    intro hreport
    have hlines := congrArg Text.lines hreport
    rw [lines_report, lines_report] at hlines
    -- the first line that could be the heading of the second stream is that heading
    obtain ⟨hstdout, hrest⟩ := append_cons_cancel hunheaded.isUnheaded hunheaded'.isUnheaded
      (isUnheaded_heading output.stderr) (isUnheaded_heading other.stderr) (List.cons.inj hlines).2
    have hstderr := (List.cons.inj hrest).2
    have hflat : ∀ {s t : Text}, Text.lines s = Text.lines t → s = t := by
      intro s t hsame
      rw [← Text.flatten_lines s, hsame, Text.flatten_lines]
    exact ⟨hflat hstdout, hflat hstderr⟩
  refine ⟨⟨hstreams, ?_⟩, fun hreport => ?_⟩
  · rintro ⟨hstdout, hstderr⟩
    rw [report_eq, report_eq, streamHeading_congr (Text.eq_nil_iff_of_ended hstdout),
      streamHeading_congr (Text.eq_nil_iff_of_ended hstderr), hstdout, hstderr]
  · obtain ⟨hstdout, hstderr⟩ := hstreams hreport
    exact ⟨Text.eq_nil_iff_of_ended hstdout, Text.eq_nil_iff_of_ended hstderr⟩

/-- A stream has one report with a line feed at its end and without it, and another one if it is the
other stream. -/
theorem report_unambiguous_line :
    let bare : ToolOutput := ⟨"a".toList, []⟩
    let ended : ToolOutput := ⟨"a\n".toList, []⟩
    let other : ToolOutput := ⟨[], "a\n".toList⟩
    Unheaded bare.stdout ∧ Unheaded ended.stdout ∧ Unheaded other.stdout ∧
      bare.report = ended.report ∧ bare.report ≠ other.report := by
  intro bare ended other
  have hbare : Unheaded bare.stdout := by decide +kernel
  have hended : Unheaded ended.stdout := by decide +kernel
  have hother : Unheaded other.stdout := by decide +kernel
  obtain ⟨-, -, htold⟩ := report_unambiguous bare
  refine ⟨hbare, hended, hother, ?_, fun hreport => ?_⟩
  · exact (htold ended hbare hended).1.2 ⟨by decide +kernel, rfl⟩
  · -- the first stream is empty in one of them only
    obtain ⟨hstdout, -⟩ := (htold other hbare hother).2 hreport
    exact absurd (hstdout.2 rfl) (by decide +kernel)

/-- Two outputs with the same report: where one stream ends cannot be told from the text if it has a
heading of the other in it. -/
example : report ⟨"a\n$stderr:\nb".toList, []⟩
    = report ⟨"a".toList, "b\n$stderr returns nothing.".toList⟩ := by
  decide +kernel

end ToolOutput

end Weave
