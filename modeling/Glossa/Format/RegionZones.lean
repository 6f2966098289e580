import Glossa.Time.Zone.Directory

/-!
# Zones by region

The zones of a region, other names of one zone included, in ascending order of their names.
-/

namespace Glossa.RegionZones

/-- The names of the zones of each region. -/
def table : List (String × List String) :=
  [("US",
    ["America/Adak", "America/Anchorage", "America/Boise", "America/Chicago", "America/Denver", "America/Detroit",
     "America/Indiana/Indianapolis", "America/Los_Angeles", "America/New_York", "America/Phoenix", "Pacific/Honolulu",
     "US/Alaska", "US/Aleutian", "US/Arizona", "US/Central", "US/East-Indiana", "US/Eastern", "US/Hawaii",
     "US/Indiana-Starke", "US/Michigan", "US/Mountain", "US/Pacific"]),
   ("DE", ["Europe/Berlin", "Europe/Busingen"]),
   ("AT", ["Europe/Vienna"]),
   ("CH", ["Europe/Zurich"]),
   ("FR", ["Europe/Paris"]),
   ("ES", ["Africa/Ceuta", "Atlantic/Canary", "Europe/Madrid"]),
   ("IT", ["Europe/Rome"]),
   ("NL", ["Europe/Amsterdam"]),
   ("GB", ["Europe/Belfast", "Europe/London", "GB", "GB-Eire"]),
   ("JP", ["Asia/Tokyo", "Japan"]),
   ("CN", ["Asia/Chongqing", "Asia/Chungking", "Asia/Harbin", "Asia/Shanghai", "PRC"]),
   ("IN", ["Asia/Calcutta", "Asia/Kolkata"]),
   ("CA",
    ["America/Edmonton", "America/Halifax", "America/St_Johns", "America/Toronto", "America/Vancouver",
     "America/Whitehorse", "America/Winnipeg", "Canada/Atlantic", "Canada/Central", "Canada/Eastern", "Canada/Mountain",
     "Canada/Newfoundland", "Canada/Pacific", "Canada/Saskatchewan", "Canada/Yukon"]),
   ("AU",
    ["Australia/ACT", "Australia/Adelaide", "Australia/Brisbane", "Australia/Darwin", "Australia/Hobart",
     "Australia/Melbourne", "Australia/Perth", "Australia/Sydney", "Australia/Yancowinna"]),
   ("MX",
    ["America/Cancun", "America/Mexico_City", "America/Monterrey", "America/Tijuana", "Mexico/BajaNorte",
     "Mexico/BajaSur", "Mexico/General"]),
   ("BR",
    ["America/Manaus", "America/Noronha", "America/Sao_Paulo", "Brazil/Acre", "Brazil/DeNoronha", "Brazil/East",
     "Brazil/West"]),
   ("SE", ["Europe/Stockholm"]),
   ("NO", ["Europe/Oslo"]),
   ("DK", ["Europe/Copenhagen"]),
   ("PL", ["Europe/Warsaw", "Poland"])]

/-- The zones of a region. -/
def ofRegion (region : Text) : List Zone :=
  ((table.lookup (String.ofList region)).getD []).filterMap fun name => Zone.named? name.toList

end Glossa.RegionZones
