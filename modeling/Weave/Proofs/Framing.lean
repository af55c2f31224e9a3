import Weave.Loom

/-!
# Weave.Proofs.Framing — snippets stand in their frame as they are

An entry point that is text around the one tag for the snippet puts the snippet between the two
pieces of text. None of the three is changed on the way: a template is cut at the marks that open
tags, and the value of a name is put out without being looked at.

1. **Cutting**: a text without marks has no tags (`splitTag_of_plain`), and one in front of a tag is
   what stands before it (`splitTag_append`).
2. **Frames**: the segments (`segmentsFrom_frame`), the nodes (`ofSegments?_frame`) and the text
   (`renderAll_frame`) of such a template.
3. **Entry points**: `wrap_verbatim`, what is run for a snippet.
-/

namespace Weave

namespace Template

/-! ## Cutting at tags -/

/-- A text in which no mark opens a tag. -/
def Plain (s : Text) : Prop :=
  ∀ kind : TagKind, ¬ ['\x7b', kind.inner] <:+: s

theorem ofInner?_eq_some_iff {c : Char} {kind : TagKind} :
    TagKind.ofInner? c = some kind ↔ c = kind.inner := by
  unfold TagKind.ofInner?
  split
  · next hc => cases kind <;> simp [hc, TagKind.inner]
  · split
    · next hc => cases kind <;> simp [hc, TagKind.inner]
    · split <;> cases kind <;> simp_all [TagKind.inner]

theorem Plain.tail {c : Char} {s : Text} (h : Plain (c :: s)) : Plain s :=
  fun kind hmark => h kind (List.infix_cons hmark)

/-- In a text without marks no brace is followed by a character that makes it one. -/
theorem Plain.ofInner?_eq_none {d : Char} {s : Text} (h : Plain ('\x7b' :: d :: s)) :
    TagKind.ofInner? d = none := by
  rw [Option.eq_none_iff_forall_ne_some]
  intro kind hkind
  rw [ofInner?_eq_some_iff.1 hkind] at h
  exact h kind (List.prefix_append ['\x7b', kind.inner] s).isInfix

/-- A character that opens no tag is text. -/
theorem splitTag_cons {c d : Char} (s : Text) (h : c = '\x7b' → TagKind.ofInner? d = none) :
    splitTag (c :: d :: s) = (c :: (splitTag (d :: s)).1, (splitTag (d :: s)).2) := by
  have hnone : (if c = '\x7b' then TagKind.ofInner? d else none) = none := by
    split
    · next hc => exact h hc
    · rfl
  rw [splitTag, hnone]

/-- A text without marks has no tags. -/
theorem splitTag_of_plain {s : Text} (h : Plain s) : splitTag s = (s, none) := by
  induction s with
  | nil => rfl
  | cons c s ih =>
    cases s with
    | nil => rfl
    | cons d s =>
      rw [splitTag_cons s (fun hc => (hc ▸ h).ofInner?_eq_none), ih h.tail]

/-- A text without marks in front of a tag is what stands before the tag. A brace at its end would
be part of the mark. -/
theorem splitTag_append {before : Text} (h : Plain before) (hend : before.getLast? ≠ some '\x7b')
    (kind : TagKind) (inside : Text) :
    splitTag (before ++ '\x7b' :: kind.inner :: inside) = (before, some (kind, inside)) := by
  induction before with
  | nil =>
    have hkind : TagKind.ofInner? kind.inner = some kind := ofInner?_eq_some_iff.2 rfl
    rw [List.nil_append, splitTag, if_pos rfl, hkind]
  | cons c before ih =>
    cases before with
    | nil =>
      have hc : c ≠ '\x7b' := by simpa using hend
      rw [List.singleton_append, splitTag_cons _ (fun h => absurd h hc)]
      rw [show splitTag ('\x7b' :: kind.inner :: inside) = _ from ih h.tail (by simp)]
    | cons d before =>
      rw [List.getLast?_cons_cons] at hend
      rw [List.cons_append, List.cons_append,
        splitTag_cons _ (fun hc => (hc ▸ h).ofInner?_eq_none)]
      rw [← List.cons_append, ih h.tail hend]

/-! ## Frames around a tag -/

/-- The tag that puts out the snippet. -/
def codeTag : Text :=
  "\x7b\x7b code \x7d\x7d".toList

/-- What follows its opening mark. -/
def codeTagInside : Text :=
  " code \x7d\x7d".toList

theorem readTag_codeTag (fuel : Nat) (after : Text) :
    readTag .output (fuel + 3) 0 (codeTagInside ++ after) = .ok ([.word "code"], false, after) :=
  rfl

theorem segmentsFrom_of_plain {s : Text} (h : Plain s) (fuel : Nat) :
    segmentsFrom (fuel + 1) false s = .ok (textSegment s) := by
  rw [segmentsFrom, splitTag_of_plain h]
  rfl

/-- The tag is cut out of two texts without marks. -/
theorem segmentsFrom_frame {before after : Text} (hbefore : Plain before) (hafter : Plain after)
    (hend : before.getLast? ≠ some '\x7b') (fuel : Nat) :
    segmentsFrom (fuel + 2) false (before ++ codeTag ++ after)
      = .ok (textSegment before ++ .output [.word "code"] :: textSegment after) := by
  have hsplit : splitTag (before ++ codeTag ++ after)
      = (before, some (.output, codeTagInside ++ after)) := by
    rw [List.append_assoc]
    exact splitTag_append hbefore hend .output (codeTagInside ++ after)
  have hinside : codeTagInside.length = 8 := by decide
  have hlength : (codeTagInside ++ after).length + 1 = after.length + 6 + 3 := by
    rw [List.length_append]
    omega
  have hsign : dropSign (codeTagInside ++ after) = (false, codeTagInside ++ after) := rfl
  rw [segmentsFrom, hsplit]
  simp only [hsign, hlength, readTag_codeTag, Bind.bind, Except.bind, segmentsFrom_of_plain hafter]
  rfl

/-! ### The nodes -/

section

variable {name : Text}

/-- A name that neither stands for a constant nor for an operator in front of an operand. -/
structure IsVariable (name : Text) : Prop where
  noConstant : namedConstant? name = none
  ne_not : name ≠ "not".toList

theorem operator?_nil (level : Nat) : operator? level [] = none := by
  have hlevels : ∀ level < operatorLevels.length, operator? level [] = none := by decide
  by_cases hlevel : level < operatorLevels.length
  · exact hlevels level hlevel
  · rw [operator?, List.getD_eq_getElem?_getD, List.getElem?_eq_none (by omega)]
    rfl

theorem parseOperand_name (h : IsVariable name) (fuel : Nat) :
    parseOperand (fuel + 3) 0 [.name name] = .ok (.variable name, []) := by
  have hprimary : parsePrimary (fuel + 1) 0 [.name name] = .ok (.variable name, []) := by
    rw [parsePrimary, if_neg (by decide)]
    simp only [h.noConstant]
  have hsigned : parseSigned (fuel + 2) 0 [.name name] = .ok (.variable name, []) := by
    rw [parseSigned]
    exact hprimary
  rw [parseOperand, hsigned]
  simp only [Bind.bind, Except.bind]
  rw [parseParts]
  simp only [skip?]
  rw [parseFilters]
  rfl

theorem parseLevel_name (h : IsVariable name) (below : Nat) :
    ∀ fuel level, level + below = operatorLevels.length →
      parseLevel (fuel + 2 * below + 4) 0 level [.name name] = .ok (.variable name, []) := by
  -- on the number of levels that bind tighter, each of which takes two steps
  induction below with
  | zero =>
    intro fuel level hlevel
    rw [parseLevel, if_pos (by omega)]
    exact parseOperand_name h fuel
  | succ below ih =>
    intro fuel level hlevel
    have hnot : (if level = notLevel then skip? (.word "not") [.name name] else none) = none := by
      split
      · exact if_neg fun hname => h.ne_not (Token.name.inj hname)
      · rfl
    have hinner := ih (fuel + 1) (level + 1) (by omega)
    rw [show fuel + 2 * (below + 1) + 4 = (fuel + 1 + 2 * below + 4) + 1 by omega, parseLevel,
      if_neg (by omega), hnot]
    simp only [hinner, Bind.bind, Except.bind]
    split
    · rw [parseComparisons, operator?_nil]
      rfl
    · rw [parseOperators, operator?_nil]

theorem ofTokens?_name (h : IsVariable name) :
    Expr.ofTokens? 0 [.name name] = .ok (.variable name) := by
  have hlevel : parseLevel 47 0 0 [.name name] = .ok (.variable name, []) :=
    parseLevel_name h operatorLevels.length 27 0 (Nat.zero_add _)
  have hexpr : parseExpr 48 0 [.name name] = .ok (.variable name, []) := by
    rw [parseExpr, hlevel]
    simp only [Bind.bind, Except.bind]
    rw [parseChoices]
    rfl
  have hread : Expr.read 0 [.name name] = .ok (.variable name, []) := hexpr
  rw [Expr.ofTokens?, hread]

end

theorem isVariable_codeName : IsVariable EntryPoint.codeName where
  noConstant := by decide
  ne_not := by decide

/-- The nodes of a piece of text. -/
def textNode (s : Text) : List Node :=
  if s.isEmpty then [] else [.text s]

/-- The tag is the only node that is not text. -/
theorem ofSegments?_frame (before after : Text) :
    Node.ofSegments? (textSegment before ++ .output [.word "code"] :: textSegment after)
      = .ok (textNode before ++ .output (.variable EntryPoint.codeName) :: textNode after) := by
  have hcode : Expr.ofTokens? 0 [.word "code"] = .ok (.variable EntryPoint.codeName) :=
    ofTokens?_name isVariable_codeName
  unfold textSegment textNode
  cases before.isEmpty <;> cases after.isEmpty <;>
    simp [Node.ofSegments?, readBody, hcode, Except.map, Except.bind, Bind.bind, pure, Except.pure]

theorem renderAll_textNode (bindings : Bindings) (s : Text) (nodes : List Node) :
    renderAll bindings (textNode s ++ nodes)
      = (renderAll bindings nodes).map fun rendered => (s ++ rendered.1, rendered.2) := by
  unfold textNode
  split
  · next hempty =>
    rw [List.isEmpty_iff.1 hempty]
    exact (congrFun Except.map_id _).symm
  · rw [List.singleton_append, renderAll, renderNode]
    simp only [Bind.bind, Except.bind]
    cases renderAll bindings nodes <;> rfl

/-- The value of a name is put out between the texts around its tag. -/
theorem renderAll_frame (bindings : Bindings) (before after name : Text) :
    renderAll bindings (textNode before ++ .output (.variable name) :: textNode after)
      = .ok (before ++ (bindings.value name).shown ++ after, bindings) := by
  have hafter : renderAll bindings (textNode after) = .ok (after, bindings) := by
    have hend := renderAll_textNode bindings after []
    rw [List.append_nil, renderAll] at hend
    rw [hend]
    simp [Except.map]
  rw [renderAll_textNode, renderAll, renderNode, evaluate]
  simp only [Bind.bind, Except.bind, pure, Except.pure, Except.map, hafter, List.append_assoc]

end Template

/-! ## Entry points -/

namespace EntryPoint

open Template

/-- An entry point that is the tag for the snippet between two texts without tags. -/
structure Frames (entry : EntryPoint) (before after : Text) : Prop where
  template : entry.template = before ++ codeTag ++ after
  plain_before : Plain before
  plain_after : Plain after
  end_ne_brace : before.getLast? ≠ some '\x7b'

theorem Frames.wrap {entry : EntryPoint} {before after : Text} (h : entry.Frames before after)
    (code : Text) : entry.wrap code = .ok (before ++ code ++ after) := by
  have hsegments : Segment.ofTemplate? entry.template
      = .ok (textSegment before ++ .output [.word "code"] :: textSegment after) := by
    have htag : codeTag.length = 10 := by decide
    have hlength : (before ++ codeTag ++ after).length + 1
        = before.length + after.length + 9 + 2 := by
      rw [List.length_append, List.length_append]
      omega
    rw [h.template, Segment.ofTemplate?, hlength]
    exact segmentsFrom_frame h.plain_before h.plain_after h.end_ne_brace _
  rw [EntryPoint.wrap, render, Node.ofTemplate?, hsegments]
  simp only [Bind.bind, Except.bind, ofSegments?_frame, renderAll_frame]
  rfl

/-- The standard entry point is of this form. -/
theorem standard_frames : standard.Frames
    "const std = @import(\"std\");\npub fn main() !void \x7b\n ".toList " \n\x7d".toList where
  template := by decide +kernel
  plain_before kind := by cases kind <;> decide +kernel
  plain_after kind := by cases kind <;> decide +kernel
  end_ne_brace := by decide +kernel

/-- Snippets are put into their frame as they are. An entry point that is the tag for the snippet
between two texts without tags, as the standard one is, gives for every snippet the first text, the
snippet and the second text, and is never in error. So what a plain block asks to be run is its body
between the two, and no other body leads to the same request. -/
theorem wrap_verbatim :
    (∃ before after, standard.Frames before after) ∧
    ∀ entry before after, Frames entry before after →
      (∀ code, entry.wrap code = .ok (before ++ code ++ after)) ∧
      ∀ options : Options, options.entryPoint = entry → ∀ (collections : Collections) (block : Block),
        block.kind = .plain →
          Loom.workOf options collections block
            = .ok (.run ⟨⟨.run, before ++ block.body ++ after⟩, none⟩) ∧
          ∀ (others : Collections) (other : Block), other.kind = .plain →
            Loom.workOf options others other = Loom.workOf options collections block →
              other.body = block.body := by
  refine ⟨⟨_, _, standard_frames⟩, fun entry before after hframes => ⟨hframes.wrap, ?_⟩⟩
  rintro options rfl collections block hblock
  have hwork : ∀ (collections : Collections) (block : Block), block.kind = .plain →
      Loom.workOf options collections block
        = .ok (.run ⟨⟨.run, before ++ block.body ++ after⟩, none⟩) := by
    intro collections block hplain
    rw [Loom.workOf, hplain]
    simp only [hframes.wrap]
  refine ⟨hwork collections block hblock, fun others other hother hsame => ?_⟩
  rw [hwork others other hother, hwork collections block hblock] at hsame
  simpa using hsame

end EntryPoint

end Weave
