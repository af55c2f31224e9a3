import Weave.Shell.Regex
import Weave.Text.Digits

/-!
# Weave.Shell.RegexText — regular expressions as texts

Reading regular expressions. In the basic form groups, braces and bars are signs only after a
backslash; in the extended form they are signs without one. A text is first cut into signs; then the
signs are put together.
-/

namespace Weave.Shell

/-- Why a text is no regular expression. -/
inductive RegexError where
  | invalid
  | openBracket
  | openGroup
  | openBrace
  | closing
  | backReference
  | preceding
  | backslash
  | className
  /-- The name of a class stands in one pair of brackets only. -/
  | classBrackets
  | rangeEnd
  | braceContent
deriving Repr, DecidableEq, Inhabited

def RegexError.message : RegexError → Text
  | .invalid => "Invalid regular expression".toList
  | .openBracket => "Unmatched [, [^, [:, [., or [=".toList
  | .openGroup => "Unmatched ( or \\(".toList
  | .openBrace => "Unmatched \\\x7b".toList
  | .closing => "Unmatched ) or \\)".toList
  | .backReference => "Invalid back reference".toList
  | .preceding => "Invalid preceding regular expression".toList
  | .backslash => "Trailing backslash".toList
  | .className => "Invalid character class name".toList
  | .classBrackets => "character class syntax is [[:space:]], not [:space:]".toList
  | .rangeEnd => "Invalid range end".toList
  | .braceContent => "Invalid content of \\\x7b\\\x7d".toList

namespace Regex

/-! ## Signs -/

inductive Sign where
  | atom (r : Regex)
  | open
  | close
  | bar
  | caret
  | dollar
  | reference (number : Nat)
  /-- A repetition. At the start of an expression it can stand for a character. -/
  | times (least : Nat) (most : Option Nat) (literal : Option Char)
deriving Repr, Inhabited

/-- The characters of a set after its first bracket, and the rest after the closing one. A closing
bracket that comes first is one of the characters. -/
def readSet : Nat → Bool → Text → Except RegexError (List SetItem × Text)
  | 0, _, _ => .error .openBracket
  | _ + 1, _, [] => .error .openBracket
  | _ + 1, false, ']' :: rest => .ok ([], rest)
  | fuel + 1, _, '[' :: ':' :: rest =>
    match Text.splitAround? ":]".toList rest with
    | some (name, rest) =>
      if classNames.contains name then do
        let (items, rest) ← readSet fuel false rest
        return (.named name :: items, rest)
      else .error .className
    | none => .error .openBracket
  | fuel + 1, _, '[' :: '.' :: c :: '.' :: ']' :: rest => plain fuel c rest
  | fuel + 1, _, '[' :: '=' :: c :: '=' :: ']' :: rest => plain fuel c rest
  | fuel + 1, _, c :: rest => plain fuel c rest
where
  /-- A character, or a range that begins with it. -/
  plain (fuel : Nat) (c : Char) (rest : Text) : Except RegexError (List SetItem × Text) :=
    match rest with
    | '-' :: last :: more =>
      if last = ']' then do
        let (items, rest) ← readSet fuel false rest
        return (.range c c :: items, rest)
      else if last < c then .error .rangeEnd
      else do
        let (items, rest) ← readSet fuel false more
        return (.range c last :: items, rest)
    | rest => do
      let (items, rest) ← readSet fuel false rest
      return (.range c c :: items, rest)

/-- Whether the characters after a bracket are the name of a class and its closing bracket. -/
def isBareClass (s : Text) : Bool :=
  match s with
  | ':' :: rest =>
    match Text.splitAround? [']'] rest with
    | some (name, _) => 1 < name.length && name.getLast? = some ':'
    | none => false
  | _ => false

/-- The numbers between braces, and the rest after the closing mark. -/
def readBraces? (closing : Text) (s : Text) : Option (Nat × Option Nat × Text) := do
  let least := s.takeWhile Char.isDigit
  let rest := s.drop least.length
  match rest with
  | ',' :: rest =>
    let most := rest.takeWhile Char.isDigit
    let rest ← Text.after? closing (rest.drop most.length)
    return (Text.toNat least, if most.isEmpty then none else some (Text.toNat most), rest)
  | rest =>
    if least.isEmpty then none
    else
      let rest ← Text.after? closing rest
      return (Text.toNat least, some (Text.toNat least), rest)

/-- The sign for a letter after a backslash that means the same in both forms. -/
def escapedSign (c : Char) : Sign :=
  let word := [SetItem.named "alnum".toList, .range '_' '_']
  let space := [SetItem.named "space".toList]
  match c with
  | 'w' => .atom (.set false word)
  | 'W' => .atom (.set true word)
  | 's' => .atom (.set false space)
  | 'S' => .atom (.set true space)
  | 'b' => .atom (.edge .boundary)
  | 'B' => .atom (.edge .noBoundary)
  | '<' => .atom (.edge .wordStart)
  | '>' => .atom (.edge .wordEnd)
  | '\x60' => .atom (.edge .lineStart)
  | '\'' => .atom (.edge .lineEnd)
  | c => if '1' ≤ c && c ≤ '9' then .reference (c.toNat - '0'.toNat) else .atom (.letter c)

/-- The sign that a character is where it is one: plain in the extended form, after a backslash in
the basic form. -/
def sign? : Char → Option Sign
  | '(' => some .open
  | ')' => some .close
  | '|' => some .bar
  | '+' => some (.times 1 none (some '+'))
  | '?' => some (.times 0 (some 1) (some '?'))
  | _ => none

def signs (extended : Bool) : Nat → Text → Except RegexError (List Sign)
  | 0, _ => .ok []
  | _ + 1, [] => .ok []
  | _ + 1, ['\\'] => .error .backslash
  | fuel + 1, '\\' :: c :: rest =>
    -- basic expressions write braces with a backslash, and extended ones without
    if !extended && c = '\x7b' then
      match readBraces? ['\\', '\x7d'] rest with
      | some (least, most, rest) => return .times least most none :: (← signs extended fuel rest)
      | none =>
        if (Text.splitAround? ['\\', '\x7d'] rest).isSome then .error .braceContent
        else .error .openBrace
    else
      return (if extended then escapedSign c else (sign? c).getD (escapedSign c))
        :: (← signs extended fuel rest)
  | fuel + 1, '[' :: rest => do
    if rest.isEmpty then throw .invalid
    if isBareClass rest then throw .classBrackets
    let (negated, rest) := match rest with
      | '^' :: rest => (true, rest)
      | rest => (false, rest)
    let (items, rest) ← readSet (rest.length + 1) true rest
    return .atom (.set negated items) :: (← signs extended fuel rest)
  | fuel + 1, c :: rest => do
    let braces := if extended && c = '\x7b' then readBraces? ['\x7d'] rest else none
    match braces with
    | some (least, most, rest) => return .times least most none :: (← signs extended fuel rest)
    | none =>
      let usual := if extended then (sign? c).getD (.atom (.letter c)) else .atom (.letter c)
      let sign : Sign := match c with
        | '.' => .atom .any
        | '*' => .times 0 none (some '*')
        | '^' => .caret
        | '$' => .dollar
        | _ => usual
      return sign :: (← signs extended fuel rest)

/-! ## The grammar -/

/-- How far signs were put together. -/
structure Reading where
  rest : List Sign
  /-- The number of groups that were begun. -/
  opened : Nat
  /-- The groups that were ended. -/
  closed : List Nat
deriving Inhabited

abbrev Reader : Type → Type :=
  StateT Reading (Except RegexError)

/-- The expression with the repetitions that follow it. -/
def repetitions : List Sign → Regex → Regex × List Sign
  | .times least most _ :: rest, r => repetitions rest (.times r least most)
  | rest, r => (r, rest)

/-- Whether a dollar sign before other signs is the end of a branch. -/
def endsBranch (rest : List Sign) : Bool :=
  match rest with
  | [] | .close :: _ | .bar :: _ => true
  | _ => false

mutual

/-- Branches with bars between them. Fuel goes down by one from one reader to the next. -/
def alternatives (extended : Bool) : Nat → Bool → Reader Regex
  | 0, _ => throw .openGroup
  | fuel + 1, inside => do
    let first ← branch extended fuel inside true .empty
    match (← get).rest with
    | .bar :: rest =>
      modify fun reading => { reading with rest := rest }
      return .either first (← alternatives extended fuel inside)
    | _ => return first

/-- The rest of a branch after its beginning, at whose start some signs mean something else. -/
def branch (extended : Bool) : Nat → Bool → Bool → Regex → Reader Regex
  | 0, _, _, done => return done
  | fuel + 1, inside, first, done => do
    match (← get).rest with
    | [] | .bar :: _ => return done
    | .close :: _ => if inside then return done else throw .closing
    | sign :: rest =>
      modify fun reading => { reading with rest := rest }
      let r ← single extended fuel first sign
      let isStart := match sign with
        | .caret => first || extended
        | _ => false
      if isStart then branch extended fuel inside true (.seq done r)
      else
        let (r, rest) := repetitions (← get).rest r
        modify fun reading => { reading with rest := rest }
        branch extended fuel inside false (.seq done r)

/-- The expression for one sign or one group. -/
def single (extended : Bool) : Nat → Bool → Sign → Reader Regex
  | 0, _, _ => throw .openGroup
  | fuel + 1, first, sign => do
    match sign with
    | .atom r => return r
    | .open =>
      let number := (← get).opened + 1
      modify fun reading => { reading with opened := number }
      let r ← alternatives extended fuel true
      match (← get).rest with
      | .close :: rest =>
        modify fun reading => { reading with rest := rest, closed := number :: reading.closed }
        return .group number r
      | _ => throw .openGroup
    | .reference number =>
      if (← get).closed.contains number then return .again number else throw .backReference
    -- elsewhere in a basic expression these are letters
    | .caret => return if extended || first then .edge .lineStart else .letter '^'
    | .dollar =>
      return if extended || endsBranch (← get).rest then .edge .lineEnd else .letter '$'
    -- there is nothing before it that could be repeated
    | .times _ _ literal =>
      if extended then return .empty
      match literal with
      | none => throw .preceding
      | some c => return .letter c
    | .close => throw .closing
    | .bar => return .empty

end

/-- The regular expression that a text is, and the number of its groups. -/
def parse (extended : Bool) (s : Text) : Except RegexError (Regex × Nat) := do
  let signs ← signs extended (s.length + 1) s
  let (r, reading) ← (alternatives extended (3 * signs.length + 3) false).run ⟨signs, 0, []⟩
  return (r, reading.opened)

end Regex

end Weave.Shell
