import Mathlib.Data.Int.LeastGreatest
import Mathlib.Data.List.Nodup
import Mathlib.Order.Bounds.Basic
import Glossa.Proofs.Time.Civil
import Glossa.Time.Zone.Directory

/-!
# Instants of a local time

The instants at which the clocks of a zone show a local time are found among the offsets that the zone has had. The one that
`earliest?` gives is therefore the least of all instants that show the time (`earliest?_eq_some_iff`).
-/

namespace Glossa

/-- Of kept instants there is a first one. -/
theorem Instant.exists_isLeast {instants : Set Instant} (some_instant : instants.Nonempty)
    (kept : ∀ t ∈ instants, Instant.isKept t = true) : ∃ t, IsLeast instants t := by
  have bounded : ∃ b : Int, ∀ t : Int, t ∈ instants → b ≤ t := by
    refine ⟨Instant.first, fun t among => ?_⟩
    have bounds := kept t among
    simp only [Instant.isKept, Bool.and_eq_true, decide_eq_true_eq] at bounds
    exact bounds.1
  obtain ⟨t, among, least⟩ := Int.exists_least_of_bdd bounded some_instant
  exact ⟨t, among, fun u other => least u other⟩

theorem Instant.isKept_sub_one {t : Instant} (kept : Instant.isKept t = true) (no_first : Instant.first ≠ t) :
    Instant.isKept (t - 1) = true := by
  simp only [Instant.isKept, Bool.and_eq_true, decide_eq_true_eq] at kept ⊢
  exact ⟨Int.le_sub_one_of_lt (lt_of_le_of_ne kept.1 no_first), Int.le_trans (Int.sub_le_self _ (by decide)) kept.2⟩

namespace Zone

variable {z : Zone} {l : LocalSeconds} {t : Instant}

/-! ## Offsets -/

theorem offset_timeAfter_mem (t : Instant) (now : ZoneTime) (changes : List (Instant × ZoneTime)) :
    (timeAfter t now changes).offset ∈ now.offset :: changes.map (·.2.offset) := by
  induction changes generalizing now with
  | nil => exact List.mem_cons_self ..
  | cons change changes ih =>
    rw [timeAfter]
    split
    next => exact List.mem_cons_of_mem _ (ih change.2)
    next => exact List.mem_cons_self ..

theorem offset_timeAt_mem (z : Zone) (t : Instant) : (z.timeAt t).offset ∈ z.offsets :=
  List.mem_eraseDups.2 (offset_timeAfter_mem t z.initial z.changes)

/-- The instants of a local time are the kept ones at which the clocks show it. -/
theorem mem_instantsOf : t ∈ z.instantsOf l ↔ z.localAt t = l ∧ Instant.isKept t = true := by
  simp only [instantsOf, List.mem_filter, Bool.and_eq_true, beq_iff_eq, and_iff_right_iff_imp]
  rintro ⟨shown, -⟩
  refine List.mem_map.2 ⟨_, z.offset_timeAt_mem t, ?_⟩
  rw [← shown, localAt, Int.add_sub_cancel]

theorem earliest?_eq_some_iff_isLeast_kept :
    z.earliest? l = some t ↔ IsLeast {u | z.localAt u = l ∧ Instant.isKept u = true} t := by
  simp only [earliest?, List.min?_eq_some_iff, mem_instantsOf]
  rfl

theorem nodup_eraseDups (offsets : List Int) : offsets.eraseDups.Nodup := by
  match offsets with
  | [] => exact List.nodup_nil
  | offset :: later =>
    rw [List.eraseDups_cons]
    refine List.nodup_cons.2 ⟨?_, nodup_eraseDups _⟩
    simp [List.mem_eraseDups]
termination_by offsets.length
decreasing_by exact Nat.lt_succ_of_le (List.length_filter_le ..)

theorem nodup_instantsOf (z : Zone) (l : LocalSeconds) : (z.instantsOf l).Nodup := by
  have injective : Function.Injective fun offset : Int => l - offset := by
    intro a b same
    have negated : l + -a = l + -b := same
    exact Int.neg_inj.1 (Int.add_left_cancel negated)
  exact ((nodup_eraseDups _).map injective).filter _

/-- The one instant of a local time is the only kept one at which the clocks show it. -/
theorem only?_eq_some_iff :
    z.only? l = some t ↔ ∀ u, (z.localAt u = l ∧ Instant.isKept u = true) ↔ u = t := by
  simp only [← mem_instantsOf]
  have distinct := z.nodup_instantsOf l
  rw [only?]
  match instants : z.instantsOf l with
  | [] => simp
  | [first] => simp [eq_comm]
  | first :: second :: others =>
    rw [instants] at distinct
    constructor
    · intro found
      cases found
    · intro all
      -- Two entries are two instants.
      have first_eq := (all first).1 (List.mem_cons_self ..)
      have second_eq := (all second).1 (List.mem_cons_of_mem _ (List.mem_cons_self ..))
      have among : first ∈ second :: others := first_eq.trans second_eq.symm ▸ List.mem_cons_self ..
      exact absurd among (List.nodup_cons.1 distinct).1

/-! ## Offsets shorter than a day -/

/-- All offsets of the zone are shorter than a day. -/
def OffsetsWithinDay (z : Zone) : Prop := ∀ offset ∈ z.offsets, offset.natAbs < 86400

theorem OffsetsWithinDay.dist (short : z.OffsetsWithinDay) (t : Instant) : (z.localAt t - t).natAbs < 86400 := by
  have near := short _ (z.offset_timeAt_mem t)
  rw [localAt]
  omega

theorem offset_kind (table : ZoneTable) (i : Nat) :
    (table.kind i).offset = 0 ∨ ∃ k ∈ table.kinds, (table.kind i).offset = k.1 := by
  rw [ZoneTable.kind]
  split
  next offset abbreviation found => exact Or.inr ⟨_, List.mem_of_getElem? found, rfl⟩
  next => exact Or.inl rfl

theorem kinds_within_day : ∀ p ∈ ZoneTable.directory, ∀ k ∈ p.2.kinds, k.1.natAbs < 86400 := by
  decide +kernel

/-- A zone with a name is made of a table of the directory. -/
theorem exists_table {name : Text} (known : named? name = some z) :
    ∃ p ∈ ZoneTable.directory, ∃ given, z = p.2.toZone given := by
  obtain ⟨table, found, rfl⟩ := Option.map_eq_some_iff.1 known
  obtain ⟨before, after, split, -⟩ := List.lookup_eq_some_iff.1 found
  exact ⟨(String.ofList name.trim, table), by simp [split], _, rfl⟩

theorem natAbs_offset_kind_lt {p : String × ZoneTable} (listed : p ∈ ZoneTable.directory) (i : Nat) :
    (p.2.kind i).offset.natAbs < 86400 := by
  rcases offset_kind p.2 i with zero | ⟨k, among, same⟩
  · rw [zero]
    decide
  · rw [same]
    exact kinds_within_day p listed k among

/-- The offsets of the zones with a name are shorter than a day. -/
theorem offsetsWithinDay_of_named? {name : Text} (known : named? name = some z) : z.OffsetsWithinDay := by
  obtain ⟨p, listed, given, rfl⟩ := exists_table known
  intro offset among
  simp only [offsets, ZoneTable.toZone, List.mem_eraseDups, List.mem_cons, List.map_map, List.mem_map] at among
  rcases among with rfl | ⟨change, -, rfl⟩
  · exact natAbs_offset_kind_lt listed 0
  · exact natAbs_offset_kind_lt listed change.2

/-! ## Kept instants -/

/-- An instant is kept when the local days beside its own are. -/
theorem isKept_of_day (short : z.OffsetsWithinDay) (earlier : Date.firstDay ≤ (z.localAt t).day - 1)
    (later : (z.localAt t).day + 1 ≤ Date.lastDay) : Instant.isKept t = true := by
  have near := short.dist t
  simp only [LocalSeconds.day, secondsPerDay, Date.firstDay, Date.lastDay] at earlier later
  have low : (-96465292 * 86400 : Int) ≤ t := by omega
  have high : (95026236 * 86400 + 86399 : Int) ≥ t := by omega
  have kept : Instant.first ≤ t ∧ t ≤ Instant.last := ⟨low, high⟩
  simp only [Instant.isKept, kept, decide_true, Bool.and_self]

theorem isKept_of_year (short : z.OffsetsWithinDay) (shown : z.localAt t = l)
    (year : 0 ≤ l.date.year ∧ l.date.year ≤ 9999) : Instant.isKept t = true := by
  have days := Date.bounds_of_year year
  rw [← shown] at days
  refine isKept_of_day short ?_ ?_
  · rw [Date.firstDay]
    omega
  · rw [Date.lastDay]
    omega

/-- Of the instants that show a local time of a year of up to four digits, `earliest?` gives the least. -/
theorem earliest?_eq_some_iff (short : z.OffsetsWithinDay) (year : 0 ≤ l.date.year ∧ l.date.year ≤ 9999) :
    z.earliest? l = some t ↔ IsLeast {u | z.localAt u = l} t := by
  have kept : {u | z.localAt u = l ∧ Instant.isKept u = true} = {u | z.localAt u = l} :=
    Set.ext fun u => and_iff_left_of_imp fun shown => isKept_of_year short shown year
  rw [earliest?_eq_some_iff_isLeast_kept, kept]

/-- A local time that the clocks show has an earliest instant. -/
theorem exists_earliest? (short : z.OffsetsWithinDay) (year : 0 ≤ l.date.year ∧ l.date.year ≤ 9999)
    (shown : z.localAt t = l) : ∃ e, z.earliest? l = some e ∧ IsLeast {u | z.localAt u = l} e := by
  have among : t ∈ z.instantsOf l := mem_instantsOf.2 ⟨shown, isKept_of_year short shown year⟩
  cases found : z.earliest? l with
  | none =>
    have none_shown := List.min?_eq_none_iff.1 found
    rw [none_shown] at among
    cases among
  | some e => exact ⟨e, rfl, (earliest?_eq_some_iff short year).1 found⟩

end Zone

end Glossa
