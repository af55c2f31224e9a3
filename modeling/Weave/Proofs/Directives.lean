import Mathlib.Data.List.DropRight
import Mathlib.Data.List.Nodup
import Mathlib.Data.Nat.Digits.Defs
import Weave.Fence

/-!
# Weave.Proofs.Directives — words that name a collection

A directive is a dash, one of four words, and an id. The word ends in the last underscore of the
directive, because no id has one in it. So a directive can be taken apart in one way only, and the
order in which the four words are tried makes no difference, although one of them begins another.

1. **Numbers**: the value of digits is that of the decimal system (`toNat_eq_decimal`), and reading
   them into a word of 64 bits with every step checked goes wrong exactly if there is no room for
   that value (`toWord?_eq`).
2. **Ids**: an id is read by its value (`parse?_of_isDigits`), and its text is read back
   (`named_text`).
3. **Rows**: what a row of the table reads (`readRow_eq_some_iff`), that no two rows read the same
   word (`eq_of_readRow`), and so what is read by the table in any order (`readBy_eq_some_iff`).
4. **Directives**: `readDirective_exact`.
-/

namespace Weave

/-! ## Decimal numbers -/

namespace Text

theorem after?_eq_some_iff {start s rest : Text} : after? start s = some rest ↔ s = start ++ rest := by
  rw [after?, List.isPrefixOf?_eq_some_iff_append_eq, eq_comm]

/-- The value of a digit. -/
def digitValue (c : Char) : Nat :=
  c.toNat - '0'.toNat

/-- The number that digits stand for in the decimal system, where the last digit counts once and
every other one ten times as much as the one behind it. -/
def decimal (digits : Text) : Nat :=
  Nat.ofDigits 10 (digits.reverse.map digitValue)

theorem decimal_concat (digits : Text) (c : Char) :
    decimal (digits ++ [c]) = digitValue c + 10 * decimal digits := by
  rw [decimal, List.reverse_append, List.reverse_singleton, List.singleton_append, List.map_cons,
    Nat.ofDigits_cons, decimal]

/-- Reading digits from the first to the last gives the number that they stand for. -/
theorem toNat_eq_decimal (digits : Text) : toNat digits = decimal digits := by
  induction digits using List.reverseRecOn with
  | nil => rfl
  | append_singleton digits c ih =>
    rw [decimal_concat, ← ih, toNat, Nat.ofDigitChars_append, Nat.ofDigitChars_cons,
      Nat.ofDigitChars_nil, Nat.add_comm]
    rfl

/-! ### Machine words -/

/-- A product of two words, if there is room for it. -/
def checkedMul (a b : UInt64) : Option UInt64 :=
  if a.toNat * b.toNat < UInt64.size then some (a * b) else none

/-- A sum of two words, if there is room for it. -/
def checkedAdd (a b : UInt64) : Option UInt64 :=
  if a.toNat + b.toNat < UInt64.size then some (a + b) else none

/-- The word after digits were read behind those that have given `word`. -/
def readOn (word : UInt64) : Text → Option UInt64
  | [] => some word
  | c :: digits => do
    let shifted ← checkedMul word 10
    let more ← checkedAdd shifted (.ofNat (digitValue c))
    readOn more digits

/-- The word that digits give, if there was room at every step. -/
def toWord? (digits : Text) : Option UInt64 :=
  readOn 0 digits

theorem le_ofDigitChars (digits : Text) (n : Nat) : n ≤ Nat.ofDigitChars 10 digits n := by
  induction digits generalizing n with
  | nil => exact Nat.le_refl n
  | cons c digits ih =>
    rw [Nat.ofDigitChars_cons]
    exact Nat.le_trans (by omega) (ih _)

theorem checkedMul_eq {a b : UInt64} (h : a.toNat * b.toNat < UInt64.size) :
    ∃ c, checkedMul a b = some c ∧ c.toNat = a.toNat * b.toNat :=
  ⟨a * b, if_pos h, by rw [UInt64.toNat_mul, Nat.mod_eq_of_lt h]⟩

theorem checkedAdd_eq {a b : UInt64} (h : a.toNat + b.toNat < UInt64.size) :
    ∃ c, checkedAdd a b = some c ∧ c.toNat = a.toNat + b.toNat :=
  ⟨a + b, if_pos h, by rw [UInt64.toNat_add, Nat.mod_eq_of_lt h]⟩

/-- If there is room for the number then there is room at every step, and else at some step there is
none. -/
theorem readOn_eq {digits : Text} (hdigits : ∀ c ∈ digits, c.isDigit = true) (word : UInt64) :
    readOn word digits
      = if Nat.ofDigitChars 10 digits word.toNat < UInt64.size then
          some (.ofNat (Nat.ofDigitChars 10 digits word.toNat))
        else none := by
  induction digits generalizing word with
  | nil => simp [readOn, UInt64.toNat_lt_size]
  | cons c digits ih =>
    obtain ⟨hc, hdigits⟩ := List.forall_mem_cons.1 hdigits
    have hten : (10 : UInt64).toNat = 10 := rfl
    have hdigit : (UInt64.ofNat (digitValue c)).toNat = digitValue c := by
      apply UInt64.toNat_ofNat_of_lt'
      have hle : digitValue c ≤ 9 := by
        simp only [Char.isDigit, Bool.and_eq_true, decide_eq_true_eq, UInt32.le_iff_toNat_le] at hc
        exact Nat.sub_le_of_le_add hc.2
      exact Nat.lt_of_le_of_lt hle (by decide)
    have hnext : Nat.ofDigitChars 10 (c :: digits) word.toNat
        = Nat.ofDigitChars 10 digits (word.toNat * 10 + digitValue c) := by
      rw [Nat.ofDigitChars_cons, Nat.mul_comm]
      rfl
    have hle := le_ofDigitChars digits (word.toNat * 10 + digitValue c)
    rw [hnext, readOn]
    -- a step has no room only if the number has none, because more digits make it no smaller
    by_cases hmul : word.toNat * 10 < UInt64.size
    · obtain ⟨shifted, hshift, hshifted⟩ := checkedMul_eq (b := 10) hmul
      simp only [hshift, Option.bind_eq_bind, Option.bind_some]
      rw [hten] at hshifted
      by_cases hadd : word.toNat * 10 + digitValue c < UInt64.size
      · obtain ⟨more, hmore, hsum⟩ :=
          checkedAdd_eq (a := shifted) (b := .ofNat (digitValue c)) (by rwa [hshifted, hdigit])
        rw [hmore, Option.bind_some, ih hdigits, hsum, hshifted, hdigit]
      · have hnone : checkedAdd shifted (.ofNat (digitValue c)) = none :=
          if_neg (by rwa [hshifted, hdigit])
        rw [hnone, Option.bind_none, if_neg (by omega)]
    · have hnone : checkedMul word 10 = none := if_neg hmul
      simp only [hnone, Option.bind_eq_bind, Option.bind_none]
      rw [if_neg (by omega)]

/-- Digits give a word exactly if there is room for the number that they stand for. -/
theorem toWord?_eq {digits : Text} (hdigits : ∀ c ∈ digits, c.isDigit = true) :
    toWord? digits
      = if decimal digits < UInt64.size then some (.ofNat (decimal digits)) else none := by
  rw [← toNat_eq_decimal]
  exact readOn_eq hdigits 0

/-- What is written as a number consists of digits, -/
theorem isDigits_ofNat (n : Nat) : isDigits (ofNat n) = true := by
  have hne : ofNat n ≠ [] := Nat.toDigits_ne_nil
  have hall : (ofNat n).all Char.isDigit = true :=
    List.all_eq_true.2 fun c hc => Nat.isDigit_of_mem_toDigits (by decide) (by decide) hc
  simp [isDigits, hne, hall]

/-- and these stand for that number. -/
theorem decimal_ofNat (n : Nat) : decimal (ofNat n) = n := by
  rw [← toNat_eq_decimal]
  exact Nat.ofDigitChars_toDigits (by decide) (by decide)

theorem isDigit_of_mem {digits : Text} (h : isDigits digits = true) :
    ∀ c ∈ digits, c.isDigit = true :=
  List.all_eq_true.1 (Bool.and_eq_true_iff.1 h).2

end Text

/-! ## Ids -/

namespace CollectionId

/-- Whether a text has the form of an id: the public one or digits. -/
def IsForm (raw : Text) : Prop :=
  raw = ['*'] ∨ Text.isDigits raw = true

instance (raw : Text) : Decidable (IsForm raw) :=
  inferInstanceAs (Decidable (raw = ['*'] ∨ Text.isDigits raw = true))

/-- What a text of this form names, as it stands on a line. A number for which there is no room is an
error. -/
def named (raw : Text) (line : Nat) : Except Failure CollectionId :=
  if raw = ['*'] then .ok .everyone
  else if Text.decimal raw < UInt64.size then .ok (.number (.ofNat (Text.decimal raw)))
  else .error (.collectionIdOutOfRange raw line)

theorem ne_star_of_isDigits {raw : Text} (h : Text.isDigits raw = true) : raw ≠ ['*'] := by
  rintro rfl
  exact absurd h (by decide)

/-- Digits are read by the number that they stand for. -/
theorem parse?_of_isDigits {raw : Text} (h : Text.isDigits raw = true) :
    parse? raw = if Text.decimal raw < UInt64.size then
      some (.number (.ofNat (Text.decimal raw))) else none := by
  simp only [parse?, if_neg (ne_star_of_isDigits h), h, Bool.true_and, Text.toNat_eq_decimal,
    decide_eq_true_eq]

theorem isForm_text (id : CollectionId) : IsForm id.text := by
  cases id with
  | everyone => exact .inl rfl
  | number value => exact .inr (Text.isDigits_ofNat value.toNat)

theorem named_text (id : CollectionId) (line : Nat) : named id.text line = .ok id := by
  cases id with
  | everyone => rfl
  | number value =>
    rw [named, text, if_neg (ne_star_of_isDigits (Text.isDigits_ofNat _)), Text.decimal_ofNat,
      if_pos value.toNat_lt_size, UInt64.ofNat_toNat]

/-- Only a number for which there is no room is an error. -/
theorem named_eq_error_iff {raw : Text} {line : Nat} {failure : Failure} :
    IsForm raw ∧ named raw line = .error failure ↔
      Text.isDigits raw = true ∧ 2 ^ 64 ≤ Text.decimal raw ∧
        failure = .collectionIdOutOfRange raw line := by
  constructor
  · rintro ⟨rfl | hdigits, hnamed⟩
    · cases hnamed
    · rw [named, if_neg (ne_star_of_isDigits hdigits)] at hnamed
      split at hnamed
      · cases hnamed
      · next hroom => exact ⟨hdigits, Nat.le_of_not_lt hroom, (Except.error.inj hnamed).symm⟩
  · rintro ⟨hdigits, hlarge, rfl⟩
    refine ⟨.inr hdigits, ?_⟩
    rw [named, if_neg (ne_star_of_isDigits hdigits)]
    exact if_neg (Nat.not_lt_of_le hlarge)

/-- No id has an underscore in it. -/
theorem ne_underscore_of_isForm {raw : Text} (h : IsForm raw) : ∀ c ∈ raw, c ≠ '_' := by
  rintro c hc rfl
  rcases h with rfl | hdigits
  · exact absurd hc (by decide)
  · exact absurd (Text.isDigit_of_mem hdigits _ hc) (by decide)

end CollectionId

/-! ## Rows of the table -/

namespace Fence

variable {word token : Text} {line : Nat} {row other : Text × (CollectionId → BlockKind)}
  {answer : Except Failure BlockKind}

open CollectionId

/-- What a row makes of a text behind its word. -/
theorem readRow_append (row : Text × (CollectionId → BlockKind)) (raw : Text) (line : Nat) :
    readRow (row.1 ++ raw) line row
      = if IsForm raw then some ((named raw line).map row.2) else none := by
  rw [readRow, Text.after?_eq_some_iff.2 rfl]
  simp only [Option.bind_eq_bind, Option.bind_some]
  by_cases hstar : raw = ['*']
  · subst hstar
    rfl
  · by_cases hdigits : Text.isDigits raw = true
    · -- digits are an id or an error, and never passed on to another row
      have hform : IsForm raw := .inr hdigits
      have hout : isOutOfRange raw = decide (UInt64.size ≤ Text.decimal raw) := by
        rw [isOutOfRange, hdigits, Bool.true_and, Text.toNat_eq_decimal]
      rw [parse?_of_isDigits hdigits, hout, if_pos hform, named, if_neg hstar]
      by_cases hroom : Text.decimal raw < UInt64.size
      · rw [if_pos hroom, if_pos hroom]
        rfl
      · simp only [if_neg hroom, Nat.le_of_not_lt hroom, decide_true, if_true]
        rfl
    · have hparse : parse? raw = none := by simp [parse?, hstar, hdigits]
      have hout : isOutOfRange raw = false := by simp [isOutOfRange, hdigits]
      have hform : ¬ IsForm raw := by simp [IsForm, hstar, hdigits]
      simp [hparse, hout, hform]

/-- A row reads its own word and an id behind it. -/
theorem readRow_eq_some_iff :
    readRow word line row = some answer ↔
      ∃ raw, word = row.1 ++ raw ∧ IsForm raw ∧ (named raw line).map row.2 = answer := by
  constructor
  · intro hread
    obtain ⟨raw, hafter, -⟩ := Option.bind_eq_some_iff.1 hread
    obtain rfl := Text.after?_eq_some_iff.1 hafter
    rw [readRow_append, Option.ite_none_right_eq_some, Option.some.injEq] at hread
    exact ⟨raw, rfl, hread⟩
  · rintro ⟨raw, rfl, hform, rfl⟩
    rw [readRow_append, if_pos hform]

/-- The words of the rows end in an underscore. -/
theorem exists_concat_of_mem (hrow : row ∈ directives) : ∃ start, row.1 = start ++ ['_'] := by
  have hall : ∀ row ∈ directives, row.1.getLast? = some '_' := by
    simp only [directives, List.forall_mem_cons]
    exact ⟨rfl, rfl, rfl, rfl, nofun⟩
  exact List.getLast?_eq_some_iff.1 (hall row hrow)

/-- So what a row reads tells its word: all up to the last underscore. -/
theorem word_of_append (hrow : row ∈ directives) {raw : Text} (hraw : IsForm raw) :
    Text.trimEndWhere (· ≠ '_') (row.1 ++ raw) = row.1 := by
  have hpass : ∀ c ∈ raw.reverse, decide (c ≠ '_') = true := by
    intro c hc
    exact decide_eq_true (ne_underscore_of_isForm hraw c (List.mem_reverse.1 hc))
  obtain ⟨start, hstart⟩ := exists_concat_of_mem hrow
  have hword : Text.trimEndWhere (· ≠ '_') row.1 = row.1 := by
    rw [hstart]
    exact (List.rdropWhile_concat _ start '_').trans (if_neg (by decide))
  rw [Text.trimEndWhere, List.reverse_append, List.dropWhile_append_of_pos hpass]
  exact hword

/-- No two rows have the same word. -/
theorem row_of_word (hrow : row ∈ directives) (hother : other ∈ directives)
    (h : row.1 = other.1) : row = other := by
  have hnodup : (directives.map Prod.fst).Nodup := by decide
  exact List.inj_on_of_nodup_map hnodup hrow hother h

/-- No two rows read the same word. -/
theorem eq_of_readRow (hrow : row ∈ directives) (hother : other ∈ directives)
    (hread : (readRow word line row).isSome = true)
    (hread' : (readRow word line other).isSome = true) : row = other := by
  obtain ⟨answer, hanswer⟩ := Option.isSome_iff_exists.1 hread
  obtain ⟨answer', hanswer'⟩ := Option.isSome_iff_exists.1 hread'
  obtain ⟨raw, hword, hraw, -⟩ := readRow_eq_some_iff.1 hanswer
  obtain ⟨raw', hword', hraw', -⟩ := readRow_eq_some_iff.1 hanswer'
  refine row_of_word hrow hother ?_
  rw [← word_of_append hrow hraw, ← word_of_append hother hraw', ← hword, ← hword']

/-! ## Directives -/

/-- What a word asks for by a table that is tried from its first row to its last. -/
def readBy (rows : List (Text × (CollectionId → BlockKind))) (token : Text) (line : Nat) :
    Option (Except Failure BlockKind) := do
  let word ← Text.after? ['-'] token
  rows.findSome? (readRow word line)

/-- What is read by the rows of the table in any order: a dash, the word of a row, and an id. -/
theorem readBy_eq_some_iff {rows : List (Text × (CollectionId → BlockKind))}
    (hrows : rows.Perm directives) :
    readBy rows token line = some answer ↔
      ∃ row ∈ directives, ∃ raw, token = '-' :: (row.1 ++ raw) ∧ IsForm raw ∧
        (named raw line).map row.2 = answer := by
  constructor
  · intro hread
    obtain ⟨word, hafter, hread⟩ := Option.bind_eq_some_iff.1 hread
    obtain rfl := Text.after?_eq_some_iff.1 hafter
    obtain ⟨row, hrow, hread⟩ := List.exists_of_findSome?_eq_some hread
    obtain ⟨raw, rfl, hform, hanswer⟩ := readRow_eq_some_iff.1 hread
    exact ⟨row, hrows.mem_iff.1 hrow, raw, rfl, hform, hanswer⟩
  · rintro ⟨row, hrow, raw, rfl, hform, hanswer⟩
    have hread : readRow (row.1 ++ raw) line row = some answer :=
      readRow_eq_some_iff.2 ⟨raw, rfl, hform, hanswer⟩
    have hafter : Text.after? ['-'] ('-' :: (row.1 ++ raw)) = some (row.1 ++ raw) :=
      Text.after?_eq_some_iff.2 rfl
    -- some row reads the word, and it can be no other one
    obtain ⟨answer', hfirst⟩ := Option.isSome_iff_exists.1 <| List.isSome_findSome?.trans <|
      List.any_eq_true.2 ⟨row, hrows.mem_iff.2 hrow, Option.isSome_iff_exists.2 ⟨answer, hread⟩⟩
    obtain ⟨row', hrow', hread'⟩ := List.exists_of_findSome?_eq_some hfirst
    obtain rfl := eq_of_readRow (hrows.mem_iff.1 hrow') hrow
      (Option.isSome_iff_exists.2 ⟨answer', hread'⟩) (Option.isSome_iff_exists.2 ⟨answer, hread⟩)
    rw [readBy, hafter, Option.bind_eq_bind, Option.bind_some, hfirst, ← hread', hread]

theorem readDirective_eq_some_iff :
    readDirective token line = some answer ↔
      ∃ row ∈ directives, ∃ raw, token = '-' :: (row.1 ++ raw) ∧ IsForm raw ∧
        (named raw line).map row.2 = answer :=
  readBy_eq_some_iff (.refl directives)

/-- A directive is in error exactly if its id is a number for which there is no room. -/
theorem readDirective_eq_error_iff {failure : Failure} :
    readDirective token line = some (.error failure) ↔
      ∃ row ∈ directives, ∃ digits, token = '-' :: (row.1 ++ digits) ∧
        Text.isDigits digits = true ∧ 2 ^ 64 ≤ Text.decimal digits ∧
        failure = .collectionIdOutOfRange digits line := by
  rw [readDirective_eq_some_iff]
  refine exists_congr fun row => and_congr_right fun _ => exists_congr fun raw =>
    and_congr_right fun _ => ?_
  rw [← named_eq_error_iff]
  refine and_congr_right fun _ => ?_
  cases named raw line <;> simp [Except.map]

/-- Directives are read exactly. Whatever the order of the rows is, the answer is the same, because
no two rows read the same word. An id in digits is read as the number that it stands for in the
decimal system if that has 64 bits, just as if the digits were read into a word with every step
checked, and else it is none: these ids, and no others, make a directive an error. Digits name the
same collection exactly if they stand for the same number. And what is written with the text of an
id is read as that id. -/
theorem readDirective_exact :
    (∀ rows, rows.Perm directives → ∀ token line,
      readBy rows token line = readDirective token line) ∧
    (∀ word line, ∀ row ∈ directives, ∀ other ∈ directives,
      (readRow word line row).isSome = true → (readRow word line other).isSome = true →
        row = other) ∧
    (∀ digits, Text.isDigits digits = true →
      parse? digits = (Text.toWord? digits).map .number ∧
      (Text.decimal digits < 2 ^ 64 →
        parse? digits = some (.number (.ofNat (Text.decimal digits)))) ∧
      (parse? digits = none ↔ 2 ^ 64 ≤ Text.decimal digits)) ∧
    (∀ token line failure, readDirective token line = some (.error failure) ↔
      ∃ row ∈ directives, ∃ digits, token = '-' :: (row.1 ++ digits) ∧
        Text.isDigits digits = true ∧ 2 ^ 64 ≤ Text.decimal digits ∧
        failure = .collectionIdOutOfRange digits line) ∧
    (∀ digits others, Text.isDigits digits = true → Text.isDigits others = true →
      ((∃ id, parse? digits = some id ∧ parse? others = some id) ↔
        Text.decimal digits = Text.decimal others ∧ Text.decimal digits < 2 ^ 64)) ∧
    ∀ row ∈ directives, ∀ id line,
      readDirective ('-' :: (row.1 ++ text id)) line = some (.ok (row.2 id)) := by
  refine ⟨?_, ?_, ?_, fun _ _ _ => readDirective_eq_error_iff, ?_, ?_⟩
  · intro rows hrows token line
    refine Option.ext fun answer => ?_
    rw [readBy_eq_some_iff hrows, readDirective_eq_some_iff]
  · intro word line row hrow other hother hread hread'
    exact eq_of_readRow hrow hother hread hread'
  · intro digits hdigits
    rw [parse?_of_isDigits hdigits, Text.toWord?_eq (Text.isDigit_of_mem hdigits)]
    by_cases hroom : Text.decimal digits < UInt64.size
    · rw [if_pos hroom, if_pos hroom]
      exact ⟨rfl, fun _ => rfl, ⟨nofun, fun hlarge => absurd hroom (Nat.not_lt_of_le hlarge)⟩⟩
    · rw [if_neg hroom, if_neg hroom]
      exact ⟨rfl, fun hsmall => absurd hsmall hroom, ⟨fun _ => Nat.le_of_not_lt hroom, fun _ => rfl⟩⟩
  · intro digits others hdigits hothers
    rw [parse?_of_isDigits hdigits, parse?_of_isDigits hothers]
    constructor
    · rintro ⟨id, hid, hid'⟩
      rw [Option.ite_none_right_eq_some] at hid hid'
      obtain ⟨hroom, hid⟩ := hid
      obtain ⟨hroom', hid'⟩ := hid'
      refine ⟨?_, hroom⟩
      -- both numbers have room in a word, so they are the same if their words are
      have hwords := CollectionId.number.inj (Option.some.inj (hid.trans hid'.symm))
      rw [← UInt64.toNat_ofNat_of_lt' hroom, hwords, UInt64.toNat_ofNat_of_lt' hroom']
    · rintro ⟨hsame, hroom⟩
      have hroom' : Text.decimal digits < UInt64.size := hroom
      rw [← hsame, if_pos hroom']
      exact ⟨_, rfl, rfl⟩
  · intro row hrow id line
    refine readDirective_eq_some_iff.2 ⟨row, hrow, id.text, rfl, isForm_text id, ?_⟩
    rw [named_text]
    rfl

/-- The largest id, with zeros in front of it, and the first number that is none: also the table in
the other order reads the one, and the other one is an error that shows it. -/
theorem readDirective_exact_limit :
    let largest := "0018446744073709551615".toList
    let tooLarge := "18446744073709551616".toList
    parse? largest = some (.number 18446744073709551615) ∧ parse? tooLarge = none ∧
      readBy directives.reverse ("-test_".toList ++ tooLarge) 3
        = some (.error (.collectionIdOutOfRange tooLarge 3)) ∧
      readBy directives.reverse "-test_collect_18446744073709551615".toList 3
        = some (.ok (.collect .test (.number 18446744073709551615))) := by
  intro largest tooLarge
  obtain ⟨horder, -, hids, herrors, -, hback⟩ := readDirective_exact
  have hvalue : Text.decimal largest = 18446744073709551615 := by decide +kernel
  have hvalue' : Text.decimal tooLarge = 2 ^ 64 := by decide +kernel
  have htest : ("test_".toList, BlockKind.execute .test) ∈ directives := by simp [directives]
  have hcollect : ("test_collect_".toList, BlockKind.collect .test) ∈ directives := by
    simp [directives]
  have hreverse : directives.reverse.Perm directives := List.reverse_perm directives
  refine ⟨?_, ?_, ?_, ?_⟩
  · rw [(hids largest (by decide)).2.1 (by rw [hvalue]; decide), hvalue]
    rfl
  · exact (hids tooLarge (by decide)).2.2.2 hvalue'.ge
  · rw [horder _ hreverse]
    exact (herrors _ 3 _).2 ⟨_, htest, tooLarge, rfl, by decide, hvalue'.ge, rfl⟩
  · rw [horder _ hreverse]
    exact hback _ hcollect (.number 18446744073709551615) 3

end Fence

end Weave
