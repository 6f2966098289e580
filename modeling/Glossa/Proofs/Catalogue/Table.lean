import Glossa.Catalogue.Table
import Mathlib.Data.List.Basic
import Mathlib.Data.List.Induction

/-!
# Rows of writes

A row of writes leaves the names in the order of their first writes (`names_insertAll`) and for each name the value of its last
write (`get?_insertAll`). Rows that agree in both make the same of every table (`insertAll_congr`).
-/

namespace Glossa

section EraseDups

variable {α : Type} [BEq α] [LawfulBEq α] {as as' bs : List α}

theorem eraseDups_concat (as : List α) (a : α) :
    (as ++ [a]).eraseDups = if a ∈ as then as.eraseDups else as.eraseDups ++ [a] := by
  rw [List.eraseDups_append, List.cons_removeAll, List.nil_removeAll, List.contains_eq_mem]
  by_cases among : a ∈ as
  · simp [among]
  · simp [among, List.eraseDups_cons]

theorem eraseDups_of_nodup (distinct : as.Nodup) : as.eraseDups = as := by
  induction as using List.reverseRecOn with
  | nil => rfl
  | append_singleton as a ih =>
    rw [List.nodup_append] at distinct
    have absent : a ∉ as := fun among => distinct.2.2 a among a (List.mem_singleton_self a) rfl
    rw [eraseDups_concat, if_neg absent, ih distinct.1]

theorem eraseDups_append_of_subset (covered : bs ⊆ as) : (as ++ bs).eraseDups = as.eraseDups := by
  have none_left : bs.removeAll as = [] := List.filter_eq_nil_iff.2 fun b among => by simpa using covered among
  rw [List.eraseDups_append, none_left, List.eraseDups_nil, List.append_nil]

theorem eraseDups_append_congr (same : as.eraseDups = as'.eraseDups) (bs : List α) :
    (as ++ bs).eraseDups = (as' ++ bs).eraseDups := by
  have left : bs.removeAll as = bs.removeAll as' := by
    refine List.filter_congr fun b _ => ?_
    simp only [List.elem_eq_mem, ← List.mem_eraseDups (l := as), same, List.mem_eraseDups]
  rw [List.eraseDups_append, List.eraseDups_append, same, left]

theorem eraseDups_append_eraseDups (as bs : List α) : (as ++ bs.eraseDups).eraseDups = (as ++ bs).eraseDups := by
  induction bs using List.reverseRecOn with
  | nil => rfl
  | append_singleton bs b ih =>
    rw [← List.append_assoc, eraseDups_concat, eraseDups_concat, ← ih]
    by_cases among : b ∈ bs
    · rw [if_pos among, if_pos (List.mem_append_right as among)]
    · rw [if_neg among, ← List.append_assoc, eraseDups_concat]
      simp only [List.mem_append, List.mem_eraseDups]

/-- What repeated entries are replaced by adds nothing new. -/
theorem eraseDups_flatMap_eraseDups {β : Type} [BEq β] [LawfulBEq β] (l : List β) (f : β → List α) :
    (l.eraseDups.flatMap f).eraseDups = (l.flatMap f).eraseDups := by
  induction l using List.reverseRecOn with
  | nil => rfl
  | append_singleton l b ih =>
    rw [List.flatMap_append, List.flatMap_singleton, eraseDups_concat]
    by_cases among : b ∈ l
    · have covered : f b ⊆ l.flatMap f := fun a there => List.mem_flatMap.2 ⟨b, among, there⟩
      rw [if_pos among, ih, eraseDups_append_of_subset covered]
    · rw [if_neg among, List.flatMap_append, List.flatMap_singleton, eraseDups_append_congr ih]

end EraseDups

namespace Table

variable {α : Type}

/-! ## Tables -/

/-- A table is given by its names and what it has for each. -/
theorem entries_eq_filterMap (t : Table α) : t.entries = t.names.filterMap fun name => (t.get? name).map (name, ·) := by
  obtain ⟨entries, distinct⟩ := t
  show entries = (entries.map (·.1)).filterMap fun name => (entries.lookup name).map (name, ·)
  induction entries with
  | nil => rfl
  | cons entry entries ih =>
    obtain ⟨name, value⟩ := entry
    rw [List.map_cons, List.nodup_cons] at distinct
    rw [List.map_cons, List.filterMap_cons_some (b := (name, value)) (by simp)]
    have others : ∀ other ∈ entries.map (·.1), (((name, value) :: entries).lookup other).map (other, ·) =
        (entries.lookup other).map (other, ·) := by
      intro other among
      have unequal : (other == name) = false := by
        rw [beq_eq_false_iff_ne]
        rintro rfl
        exact distinct.1 among
      rw [List.lookup_cons, unequal]
    rw [List.filterMap_congr others, ← ih distinct.2]

theorem ext_get? {t u : Table α} (names : t.names = u.names) (values : ∀ name, t.get? name = u.get? name) : t = u := by
  have same : t.entries = u.entries := by
    rw [t.entries_eq_filterMap, u.entries_eq_filterMap, names, funext values]
  cases t
  cases u
  cases same
  rfl

/-! ## Writes -/

theorem insertAll_append (t : Table α) (writes more : List (Text × α)) :
    t.insertAll (writes ++ more) = (t.insertAll writes).insertAll more := List.foldl_append

theorem ofList_append (writes more : List (Text × α)) :
    ofList (writes ++ more) = (ofList writes).insertAll more := insertAll_append _ _ _

theorem ofList_concat (writes : List (Text × α)) (write : Text × α) :
    ofList (writes ++ [write]) = (ofList writes).insert write.1 write.2 := ofList_append _ _

/-- New names come behind those that are there, in the order of their first writes. -/
theorem names_insertAll (t : Table α) (writes : List (Text × α)) :
    (t.insertAll writes).names = (t.names ++ writes.map (·.1)).eraseDups := by
  induction writes using List.reverseRecOn with
  | nil =>
    rw [List.map_nil, List.append_nil]
    exact (eraseDups_of_nodup t.distinct).symm
  | append_singleton writes write ih =>
    rw [insertAll_append, List.map_append, List.map_singleton, ← List.append_assoc, eraseDups_concat, ← ih]
    show ((t.insertAll writes).insert write.1 write.2).names = _
    rw [names_insert, ih]
    simp only [List.mem_eraseDups]

/-- The value of a name is that of its last write, if there is one. -/
theorem get?_insertAll (t : Table α) (writes : List (Text × α)) (name : Text) :
    (t.insertAll writes).get? name = ((writes.filter (·.1 = name)).getLast?.map (·.2)).or (t.get? name) := by
  induction writes using List.reverseRecOn with
  | nil => rfl
  | append_singleton writes write ih =>
    rw [insertAll_append, List.filter_append]
    show ((t.insertAll writes).insert write.1 write.2).get? name = _
    rw [get?_insert, ih]
    by_cases same : name = write.1
    · rw [if_pos same, List.filter_cons_of_pos (by simpa using same.symm), List.filter_nil, List.getLast?_concat]
      rfl
    · rw [if_neg same, List.filter_cons_of_neg (by simpa using Ne.symm same), List.filter_nil, List.append_nil]

theorem names_ofList (writes : List (Text × α)) : (ofList writes).names = (writes.map (·.1)).eraseDups :=
  names_insertAll empty writes

theorem get?_ofList (writes : List (Text × α)) (name : Text) :
    (ofList writes).get? name = (writes.filter (·.1 = name)).getLast?.map (·.2) := by
  rw [ofList, get?_insertAll, get?_empty, Option.or_none]

/-- The writes of two rows have the same names in the same order, and the same last value for each. -/
structure WriteAlike (writes writes' : List (Text × α)) : Prop where
  names : (writes.map (·.1)).eraseDups = (writes'.map (·.1)).eraseDups
  values : ∀ name, (writes.filter (·.1 = name)).getLast?.map (·.2) = (writes'.filter (·.1 = name)).getLast?.map (·.2)

theorem insertAll_congr {writes writes' : List (Text × α)} (alike : WriteAlike writes writes') (t : Table α) :
    t.insertAll writes = t.insertAll writes' := by
  refine ext_get? ?_ fun name => ?_
  · rw [names_insertAll, names_insertAll, ← eraseDups_append_eraseDups, alike.names, eraseDups_append_eraseDups]
  · rw [get?_insertAll, get?_insertAll, alike.values]

theorem writeAlike_iff_ofList_eq {writes writes' : List (Text × α)} :
    WriteAlike writes writes' ↔ ofList writes = ofList writes' := by
  constructor
  · intro alike
    exact insertAll_congr alike empty
  · intro same
    refine ⟨?_, fun name => ?_⟩
    · rw [← names_ofList, same, names_ofList]
    · rw [← get?_ofList, same, get?_ofList]

/-! ## Rows that repeat names -/

theorem put_of_not_mem {name : Text} {es : List (Text × α)} (absent : name ∉ es.map (·.1)) (value : α) :
    put name value es = es ++ [(name, value)] := by
  induction es with
  | nil => rfl
  | cons e es ih =>
    rw [List.map_cons, List.mem_cons, not_or] at absent
    rw [put, if_neg (Ne.symm absent.1), ih absent.2, List.cons_append]

/-- Names that are not repeated keep their places. -/
theorem entries_ofList_of_nodup {writes : List (Text × α)} (distinct : (writes.map (·.1)).Nodup) :
    (ofList writes).entries = writes := by
  induction writes using List.reverseRecOn with
  | nil => rfl
  | append_singleton writes write ih =>
    rw [List.map_append, List.nodup_append] at distinct
    have absent : write.1 ∉ writes.map (·.1) := fun among =>
      distinct.2.2 write.1 among write.1 (List.mem_singleton_self _) rfl
    rw [ofList_concat]
    show put write.1 write.2 (ofList writes).entries = _
    rw [ih distinct.1, put_of_not_mem absent]

/-- Of the writes to one name the last one stays. -/
theorem entries_ofList_of_one {name : Text} {writes : List (Text × α)} (one : ∀ w ∈ writes, w.1 = name) :
    (ofList writes).entries = writes.getLast?.toList := by
  induction writes using List.reverseRecOn with
  | nil => rfl
  | append_singleton writes write ih =>
    have here : write.1 = name := one write (by simp)
    rw [ofList_concat]
    show put write.1 write.2 (ofList writes).entries = _
    rw [ih fun w among => one w (List.mem_append_left _ among), List.getLast?_concat]
    cases last : writes.getLast? with
    | none => rfl
    | some w =>
      have there : w.1 = name := one w (List.mem_append_left _ (List.mem_of_getLast? last))
      show put write.1 write.2 [w] = [write]
      rw [put, if_pos (there.trans here.symm)]

theorem entries_ofList_subset (writes : List (Text × α)) : (ofList writes).entries ⊆ writes := by
  have put_subset : ∀ (name : Text) (value : α) (es : List (Text × α)), put name value es ⊆ (name, value) :: es := by
    intro name value es
    induction es with
    | nil => simp [put]
    | cons e es ih =>
      rw [put]
      split
      · simp
      · grind
  induction writes using List.reverseRecOn with
  | nil => simp [ofList, insertAll, empty]
  | append_singleton writes write ih =>
    rw [ofList_concat]
    intro entry among
    rcases List.mem_cons.1 (put_subset _ _ _ among) with rfl | among
    · simp
    · exact List.mem_append_left _ (ih among)

theorem filter_put (keep : Text → Bool) (name : Text) (value : α) (es : List (Text × α)) :
    (put name value es).filter (fun e => keep e.1) =
      if keep name then put name value (es.filter fun e => keep e.1) else es.filter fun e => keep e.1 := by
  induction es with
  | nil => by_cases kept : keep name = true <;> simp [put, kept]
  | cons e es ih =>
    obtain ⟨other, v⟩ := e
    by_cases same : other = name
    · subst same
      by_cases kept : keep other = true <;> simp [put, kept]
    · by_cases kept : keep name = true <;> by_cases kept' : keep other = true <;> simp_all [put]

/-- The writes to some of the names make up their part of the table. -/
theorem entries_ofList_filter (keep : Text → Bool) (writes : List (Text × α)) :
    (ofList (writes.filter fun w => keep w.1)).entries = (ofList writes).entries.filter fun w => keep w.1 := by
  induction writes using List.reverseRecOn with
  | nil => rfl
  | append_singleton writes write ih =>
    rw [ofList_concat, List.filter_append]
    show _ = (put write.1 write.2 (ofList writes).entries).filter fun w => keep w.1
    rw [filter_put, ← ih]
    by_cases kept : keep write.1 = true
    · have this_kept : [write].filter (fun w => keep w.1) = [write] := by simp [kept]
      rw [if_pos kept, this_kept, ofList_concat]
      rfl
    · have this_left : [write].filter (fun w => keep w.1) = [] := by simp [kept]
      rw [if_neg kept, this_left, List.append_nil]

end Table

end Glossa
