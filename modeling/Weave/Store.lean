/-!
# Weave.Store — finite maps

A store holds at most one value under each key, in the order in which the keys came. Its view is
`get?`: `get?_insert` and `get?_erase` say what each operation does to it.
-/

namespace Weave

/-- A finite map from keys to values. -/
structure Store (α β : Type) where
  entries : List (α × β)
  /-- No key has two values. -/
  nodup : (entries.map Prod.fst).Nodup
deriving Repr

namespace Store

variable {α β : Type}

/-! ## Lists of entries -/

/-- The entries with a value put under a key: in the place of an old value, else at the end. -/
def put [DecidableEq α] (key : α) (value : β) : List (α × β) → List (α × β)
  | [] => [(key, value)]
  | e :: es => if e.1 = key then (key, value) :: es else e :: put key value es

/-- The first value under a key. -/
def find? [DecidableEq α] (key : α) : List (α × β) → Option β
  | [] => none
  | e :: es => if e.1 = key then some e.2 else find? key es

theorem mem_keys_put [DecidableEq α] {key k : α} {value : β} {es : List (α × β)} :
    k ∈ (put key value es).map Prod.fst ↔ k = key ∨ k ∈ es.map Prod.fst := by
  induction es with
  | nil => simp [put]
  | cons e es ih =>
    unfold put
    split
    · next h => subst h; simp
    · simp only [List.map_cons, List.mem_cons, ih]
      constructor
      · rintro (h | h | h)
        · exact .inr (.inl h)
        · exact .inl h
        · exact .inr (.inr h)
      · rintro (h | h | h)
        · exact .inr (.inl h)
        · exact .inl h
        · exact .inr (.inr h)

theorem nodup_put [DecidableEq α] (key : α) (value : β) {es : List (α × β)}
    (h : (es.map Prod.fst).Nodup) : ((put key value es).map Prod.fst).Nodup := by
  induction es with
  | nil => simp [put]
  | cons e es ih =>
    rw [List.map_cons, List.nodup_cons] at h
    unfold put
    split
    · next he => subst he; simpa using h
    · next he =>
      rw [List.map_cons, List.nodup_cons]
      refine ⟨fun hm => ?_, ih h.2⟩
      rcases mem_keys_put.1 hm with hk | hk
      · exact he hk
      · exact h.1 hk

theorem find?_put [DecidableEq α] (key k : α) (value : β) (es : List (α × β)) :
    find? k (put key value es) = if k = key then some value else find? k es := by
  induction es with
  | nil => simp [put, find?, eq_comm]
  | cons e es ih =>
    unfold put
    split <;> grind [find?]

theorem find?_filter [DecidableEq α] (key k : α) (es : List (α × β)) :
    find? k (es.filter fun e => e.1 ≠ key) = if k = key then none else find? k es := by
  induction es with
  | nil => simp [find?]
  | cons e es ih => grind [find?]

theorem nodup_filter (p : α × β → Bool) {es : List (α × β)} (h : (es.map Prod.fst).Nodup) :
    ((es.filter p).map Prod.fst).Nodup :=
  List.Nodup.sublist (List.filter_sublist.map _) h

/-! ## Operations -/

def empty : Store α β :=
  ⟨[], by simp⟩

instance : Inhabited (Store α β) := ⟨empty⟩

def get? [DecidableEq α] (s : Store α β) (key : α) : Option β :=
  find? key s.entries

/-- The store with a value put under a key, in the place of any old one. -/
def insert [DecidableEq α] (s : Store α β) (key : α) (value : β) : Store α β :=
  ⟨put key value s.entries, nodup_put key value s.nodup⟩

/-- The store without the value under a key. -/
def erase [DecidableEq α] (s : Store α β) (key : α) : Store α β :=
  ⟨s.entries.filter fun e => e.1 ≠ key, nodup_filter _ s.nodup⟩

/-- The store without the entries that satisfy `p`. -/
def eraseWhere (s : Store α β) (p : α → Bool) : Store α β :=
  ⟨s.entries.filter fun e => !p e.1, nodup_filter _ s.nodup⟩

def keys (s : Store α β) : List α :=
  s.entries.map Prod.fst

def size (s : Store α β) : Nat :=
  s.entries.length

/-! ## The view -/

@[simp] theorem get?_empty [DecidableEq α] (key : α) : (empty : Store α β).get? key = none := rfl

theorem get?_insert [DecidableEq α] (s : Store α β) (key k : α) (value : β) :
    (s.insert key value).get? k = if k = key then some value else s.get? k :=
  find?_put key k value s.entries

theorem get?_erase [DecidableEq α] (s : Store α β) (key k : α) :
    (s.erase key).get? k = if k = key then none else s.get? k :=
  find?_filter key k s.entries

@[simp] theorem get?_insert_self [DecidableEq α] (s : Store α β) (key : α) (value : β) :
    (s.insert key value).get? key = some value := by
  simp [get?_insert]

@[simp] theorem get?_erase_self [DecidableEq α] (s : Store α β) (key : α) :
    (s.erase key).get? key = none := by
  simp [get?_erase]

theorem get?_eq_none_iff [DecidableEq α] {s : Store α β} {key : α} :
    s.get? key = none ↔ key ∉ s.keys := by
  unfold get? keys
  induction s.entries with
  | nil => simp [find?]
  | cons e es ih => grind [find?]

end Store

end Weave
