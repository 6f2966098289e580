import Glossa.Text.Basic

/-!
# Tables

A table gives values to names and keeps the names in the order in which they came. Writing to a name that is there changes
its value and not its place. `get?_insert` and `names_insert` say this of the value and of the order.
-/

namespace Glossa

/-- Values by name, in the order of the first write. -/
structure Table (α : Type) where
  /-- The entries in order. -/
  entries : List (Text × α)
  /-- No name is there twice. -/
  distinct : (entries.map (·.1)).Nodup

namespace Table

variable {α : Type}

/-- The table without entries. -/
def empty : Table α := ⟨[], by simp⟩

/-- The names in order. -/
def names (t : Table α) : List Text := t.entries.map (·.1)

/-- Whether there are no entries. -/
def isEmpty (t : Table α) : Bool := t.entries.isEmpty

/-- The value of a name. -/
def get? (t : Table α) (name : Text) : Option α := t.entries.lookup name

/-- The entries with one more write. -/
def put (name : Text) (value : α) : List (Text × α) → List (Text × α)
  | [] => [(name, value)]
  | (n, v) :: rest => if n = name then (name, value) :: rest else (n, v) :: put name value rest

theorem map_fst_put (name : Text) (value : α) (es : List (Text × α)) :
    (put name value es).map (·.1) = if name ∈ es.map (·.1) then es.map (·.1) else es.map (·.1) ++ [name] := by
  induction es with
  | nil => simp [put]
  | cons e rest ih =>
    obtain ⟨n, v⟩ := e
    by_cases same : n = name
    · simp [put, same]
    · have other : name ≠ n := fun h => same h.symm
      simp only [put, same, if_false, List.map_cons, ih, List.mem_cons, other, false_or]
      split <;> simp

theorem lookup_put (name : Text) (value : α) (es : List (Text × α)) (other : Text) :
    (put name value es).lookup other = if other = name then some value else es.lookup other := by
  induction es with
  | nil =>
    by_cases h : other = name
    · simp [put, h]
    · have : (other == name) = false := by simpa using h
      simp [put, List.lookup_cons, h, this]
  | cons e rest ih =>
    obtain ⟨n, v⟩ := e
    by_cases same : n = name
    · subst same
      by_cases h : other = n
      · simp [put, h]
      · have : (other == n) = false := by simpa using h
        simp [put, List.lookup_cons, h, this]
    · by_cases h : other = n
      · subst h
        simp [put, same]
      · have unequal : (other == n) = false := by simpa using h
        simp [put, List.lookup_cons, same, unequal, ih]

/-- The table after a write. -/
def insert (t : Table α) (name : Text) (value : α) : Table α where
  entries := put name value t.entries
  distinct := by
    rw [map_fst_put]
    split
    · exact t.distinct
    · next absent =>
      rw [List.nodup_append]
      refine ⟨t.distinct, by simp, fun a ha b hb => ?_⟩
      rintro rfl
      exact absent (by simpa [List.mem_singleton.1 hb] using ha)

@[simp] theorem get?_empty (name : Text) : (empty : Table α).get? name = none := rfl

theorem names_insert (t : Table α) (name : Text) (value : α) :
    (t.insert name value).names = if name ∈ t.names then t.names else t.names ++ [name] :=
  map_fst_put name value t.entries

theorem get?_insert (t : Table α) (name : Text) (value : α) (other : Text) :
    (t.insert name value).get? other = if other = name then some value else t.get? other :=
  lookup_put name value t.entries other

/-- The table after writes, from left to right. -/
def insertAll (t : Table α) (writes : List (Text × α)) : Table α :=
  writes.foldl (fun t (name, value) => t.insert name value) t

/-- The table of a row of writes. -/
def ofList (writes : List (Text × α)) : Table α := empty.insertAll writes

/-- The first entry's value. -/
def first? (t : Table α) : Option α := t.entries.head?.map (·.2)

end Table

end Glossa
