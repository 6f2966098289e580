import Glossa.Format.Formatter
import Glossa.Proofs.Text.Parts

/-!
# Instants with and without a backend

A formatter with the standard backend and one without write an instant alike; what differs is the zone. `ClientZone` says in
which zone the local functions of the backend show an instant, and `instant_in_client_zone` that they write what every
formatter writes whose server is in that zone.
-/

namespace Glossa

namespace Zone

/-- A zone is found by its own name. -/
theorem named?_name {name : Text} {zone : Zone} (known : named? name = some zone) : named? zone.name = some zone := by
  obtain ⟨table, found, rfl⟩ := Option.map_eq_some_iff.1 known
  have own : (table.toZone name.trim).name = name.trim := rfl
  rw [own, named?, Text.trim_trim, found, Option.map_some]

end Zone

/-! ## Zones of regions -/

namespace RegionZones

/-- Every region lists zones, and the last one is in the directory. -/
theorem last_named : ∀ row ∈ table, ∃ last ∈ row.2.getLast?, (Zone.named? last.toList).isSome = true := by
  decide +kernel

theorem getLast?_ofRegion {region : Text} {names : List String} (listed : table.lookup (String.ofList region) = some names) :
    ∃ last zone, names.getLast? = some last ∧ Zone.named? last.toList = some zone ∧
      (ofRegion region).getLast? = some zone := by
  obtain ⟨before, after, split, -⟩ := List.lookup_eq_some_iff.1 listed
  obtain ⟨last, ends, known⟩ := last_named (String.ofList region, names) (by simp [split])
  obtain ⟨zone, found⟩ := Option.isSome_iff_exists.1 known
  obtain ⟨earlier, rfl⟩ := List.getLast?_eq_some_iff.1 ends
  refine ⟨last, zone, ends, found, ?_⟩
  -- Names outside the directory are passed over, but the last one is in it.
  have only_last : [last].filterMap (fun name => Zone.named? name.toList) = [zone] := List.filterMap_cons_some found
  rw [ofRegion, listed, Option.getD_some, List.filterMap_append, only_last, List.getLast?_concat]

theorem ofRegion_of_unlisted {region : Text} (unlisted : table.lookup (String.ofList region) = none) :
    ofRegion region = [] := by
  rw [ofRegion, unlisted]
  rfl

end RegionZones

namespace Formatter

/-! ## Formatters of a locale -/

/-- The formatter of a locale with the standard backend. -/
def native (tag : Text) (clientZone : Option Text) (serverZone : Zone) : Formatter :=
  ⟨.ofTag tag, clientZone, serverZone, some .standard⟩

/-- The formatter of a locale without a backend. -/
def plain (tag : Text) (clientZone : Option Text) (serverZone : Zone) : Formatter :=
  ⟨.ofTag tag, clientZone, serverZone, none⟩

/-- What the local functions of a formatter write for the locale, every formatter writes whose server is in the zone: with
the standard backend by the functions that are not local, without a backend by both. The client does not matter. -/
structure ShowsLocally (tag : Text) (f : Formatter) (zone : Zone) : Prop where
  native : ∀ (client : Option Text) (kind : PatternKind) (t : Instant) (pattern : Option Text),
    f.instant kind true t pattern = (native tag client zone).instant kind false t pattern
  plain : ∀ (client : Option Text) (isLocal : Bool) (kind : PatternKind) (t : Instant) (pattern : Option Text),
    f.instant kind true t pattern = (plain tag client zone).instant kind isLocal t pattern

section

variable (tag : Text) (client : Option Text) (server : Zone) (kind : PatternKind) (isLocal : Bool) (t : Instant)
  (pattern : Option Text)

theorem instant_native : (native tag client server).instant kind isLocal t pattern =
    Backend.writeInstant (.ofTag tag) t (if isLocal then (native tag client server).localZone .standard else server)
      (pattern.getD ((Locale.ofTag tag).defaultPattern kind)) := rfl

theorem instant_plain : (plain tag client server).instant kind isLocal t pattern =
    Backend.writeInstant (.ofTag tag) t server (pattern.getD ((Locale.ofTag tag).defaultPattern kind)) := rfl

end

variable {tag : Text} {client : Option Text} {server zone : Zone}

theorem showsLocally_of_localZone (chosen : (native tag client server).localZone .standard = zone) :
    ShowsLocally tag (native tag client server) zone := by
  refine ⟨?_, ?_⟩
  · intro other kind t pattern
    rw [instant_native, instant_native, if_pos rfl, if_neg Bool.false_ne_true, chosen]
  · intro other isLocal kind t pattern
    rw [instant_native, instant_plain, if_pos rfl, chosen]

/-! ## The zone of the client -/

theorem localZone_of_named {name : Text} (known : Zone.named? name = some zone) :
    (native tag (some name) server).localZone .standard = zone := by
  show (Zone.named? name).getD server = zone
  rw [known, Option.getD_some]

theorem localZone_of_unknown {name : Text} (unknown : Zone.named? name = none) :
    (native tag (some name) server).localZone .standard = server := by
  show (Zone.named? name).getD server = server
  rw [unknown, Option.getD_none]

theorem localZone_of_no_name :
    (native tag none server).localZone .standard =
      (RegionZones.ofRegion (Locale.ofTag tag).region).getLast?.getD server := rfl

/-- Local functions show every instant in the zone with the name that the client gave. If no zone has that name it is the zone
of the server, as it is for a client without a name in a region without zones; in a region with zones it is the last of
these. -/
theorem instant_in_client_zone (tag : Text) (server : Zone) :
    (∀ name zone, Zone.named? name = some zone → ShowsLocally tag (native tag (some zone.name) server) zone) ∧
    (∀ name, Zone.named? name = none → ShowsLocally tag (native tag (some name) server) server) ∧
    (RegionZones.table.lookup (String.ofList (Locale.ofTag tag).region) = none →
      ShowsLocally tag (native tag none server) server) ∧
    ∀ names, RegionZones.table.lookup (String.ofList (Locale.ofTag tag).region) = some names →
      ∃ last zone, names.getLast? = some last ∧ Zone.named? last.toList = some zone ∧
        ShowsLocally tag (native tag none server) zone := by
  refine ⟨?_, ?_, ?_, ?_⟩
  · intro name zone known
    exact showsLocally_of_localZone (localZone_of_named (Zone.named?_name known))
  · intro name unknown
    exact showsLocally_of_localZone (localZone_of_unknown unknown)
  · intro unlisted
    apply showsLocally_of_localZone
    rw [localZone_of_no_name, RegionZones.ofRegion_of_unlisted unlisted]
    rfl
  · intro names listed
    obtain ⟨last, zone, ends, known, chosen⟩ := RegionZones.getLast?_ofRegion listed
    refine ⟨last, zone, ends, known, showsLocally_of_localZone ?_⟩
    rw [localZone_of_no_name, chosen, Option.getD_some]

/-- A client in Cairo, one in a zone that does not exist, and clients without a name in Liechtenstein, for which no zones
are listed, and in Germany. -/
theorem instant_in_zone_of_four_clients :
    ∃ cairo busingen : Zone, Zone.named? "Africa/Cairo".toList = some cairo ∧
      Zone.named? "Europe/Busingen".toList = some busingen ∧
      ShowsLocally "de-DE".toList (native "de-DE".toList (some cairo.name) .utc) cairo ∧
      ShowsLocally "de-DE".toList (native "de-DE".toList (some "Mars/Base".toList) .utc) .utc ∧
      ShowsLocally "de-LI".toList (native "de-LI".toList none .utc) .utc ∧
      ShowsLocally "de-DE".toList (native "de-DE".toList none .utc) busingen := by
  have exists_cairo : (Zone.named? "Africa/Cairo".toList).isSome = true := by decide +kernel
  obtain ⟨cairo, known⟩ := Option.isSome_iff_exists.1 exists_cairo
  have germany := instant_in_client_zone "de-DE".toList .utc
  have liechtenstein := instant_in_client_zone "de-LI".toList .utc
  have unknown : Zone.named? "Mars/Base".toList = none := by decide +kernel
  have unlisted : RegionZones.table.lookup (String.ofList (Locale.ofTag "de-LI".toList).region) = none := by
    decide +kernel
  have listed : RegionZones.table.lookup (String.ofList (Locale.ofTag "de-DE".toList).region) =
      some ["Europe/Berlin", "Europe/Busingen"] := by decide +kernel
  obtain ⟨last, busingen, ends, found, without_name⟩ := germany.2.2.2 _ listed
  cases ends
  exact ⟨cairo, busingen, known, found, germany.1 _ cairo known, germany.2.1 _ unknown, liechtenstein.2.2.1 unlisted,
    without_name⟩

end Formatter

end Glossa
