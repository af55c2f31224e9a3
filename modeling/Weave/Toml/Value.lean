import Weave.Toml.Error

/-!
# Weave.Toml.Value — the values of a configuration text

Values and the tables that hold them. Keys can be given in several places of a text, but each only
once: `insert`, `openTable` and `openItem` put a value or a table at the end of a path of keys and
refuse what was given before.
-/

namespace Weave.Toml

/-- How a table came about, which decides whether keys can be added to it later. -/
inductive TableKind where
  /-- By a header of its own. -/
  | header
  /-- On the way to the table of a header. -/
  | implicit
  /-- On the way to the last of several keys with dots between them. -/
  | dotted
  /-- Between braces: nothing can be added. -/
  | inline
deriving Repr, DecidableEq, Inhabited

/-- A value. Of numbers and dates that no key asks for only the literal is kept. -/
inductive Value where
  | text (content : Text)
  | bool (value : Bool)
  | int (value : Int)
  | float (literal : Text)
  | dateTime (literal : Text)
  /-- A list, which is one of tables if headers with double brackets made it. -/
  | array (ofHeaders : Bool) (items : List Value)
  | table (kind : TableKind) (entries : List (Text × Value))
deriving Repr, Inhabited

namespace Value

/-- The value under a key of a list of entries. -/
def find? (key : Text) (entries : List (Text × Value)) : Option Value :=
  (entries.find? (·.1 = key)).map Prod.snd

/-- The entries with the value under a key replaced, or put at the end. -/
def modify (key : Text) (f : Option Value → Except Error Value) :
    List (Text × Value) → Except Error (List (Text × Value))
  | [] => do return [(key, ← f none)]
  | (k, v) :: rest => do
    if k = key then return (k, ← f (some v)) :: rest
    else return (k, v) :: (← modify key f rest)

/-- Changes the table at the end of a path of keys. Missing tables are created on the way. With
`dotted` the path stands before a value, and can only lead through tables that no header opened. -/
def descend (dotted : Bool) (f : Value → Except Error Value) :
    List Text → Value → Except Error Value
  | [], v => f v
  | key :: path, .table kind entries => do
    let fresh := Value.table (if dotted then .dotted else .implicit) []
    let entries ← modify key (fun old =>
      match old with
      | none => descend dotted f path fresh
      | some (.table kind inner) =>
        if kind = .inline || (dotted && kind = .header) then .error (.notExtensible key)
        else descend dotted f path (.table kind inner)
      | some (.array true items) =>
        match items.getLast? with
        -- a header leads into the last table of a list, and a key with dots does not
        | some last =>
          if dotted then .error (.notExtensible key)
          else do return .array true (items.dropLast ++ [← descend dotted f path last])
        | none => .error (.notExtensible key)
      | some _ => .error (.notExtensible key)) entries
    return .table kind entries
  | key :: _, _ => .error (.notExtensible key)

/-- Puts a value under a key that the table does not have yet. A table that keys with dots lead
to has to be made of such keys alone. -/
def addEntry (dotted : Bool) (key : Text) (v : Value) : Value → Except Error Value
  | .table kind entries =>
    if dotted && kind ≠ .dotted then .error (.duplicate key)
    else do
      let entries ← modify key (fun old =>
        match old with
        | none => .ok v
        | some _ => .error (.duplicate key)) entries
      return .table kind entries
  | _ => .error (.notExtensible key)

/-- Puts a value at the end of a path of keys in a table. -/
def insert (table : Value) (path : List Text) (v : Value) : Except Error Value :=
  match path.getLast? with
  | none => .error .malformed
  | some key =>
    let around := path.dropLast
    descend true (addEntry (!around.isEmpty) key v) around table

/-- Changes the value under the last key of the path of a header. -/
def atHeader (path : List Text) (f : Text → Option Value → Except Error Value) (root : Value) :
    Except Error Value :=
  match path.getLast? with
  | none => .error .malformed
  | some key => descend false (fun
    | .table kind entries => do return .table kind (← modify key (f key) entries)
    | _ => .error (.notExtensible key)) path.dropLast root

/-- Opens the table of a header. It can only exist as a table on the way to others. -/
def openTable (path : List Text) (root : Value) : Except Error Value :=
  atHeader path (fun key old =>
    match old with
    | none => .ok (.table .header [])
    | some (.table .implicit entries) => .ok (.table .header entries)
    | some _ => .error (.duplicate key)) root

/-- Opens one more table of a list of tables. -/
def openItem (path : List Text) (root : Value) : Except Error Value :=
  atHeader path (fun key old =>
    match old with
    | none => .ok (.array true [.table .header []])
    | some (.array true items) => .ok (.array true (items ++ [.table .header []]))
    | some _ => .error (.duplicate key)) root

/-- A table to which nothing can be added. -/
def closed : Value → Value
  | .table _ entries => .table .inline entries
  | v => v

end Value

end Weave.Toml
