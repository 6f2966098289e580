import Glossa.Time.Zone.Africa
import Glossa.Time.Zone.America
import Glossa.Time.Zone.Asia
import Glossa.Time.Zone.Europe
import Glossa.Time.Zone.Oceania

/-!
# The directory of zones

Every zone name with its table. The *covered* zones have the whole history of their clocks here. For all other names the table
stands in for the history: it has the standard time of today at all times. So what is proved of every name holds for the covered
zones among them (`Zone.named?_of_covered?`), and it is these whose real clocks it is about.
-/

namespace Glossa

namespace ZoneTable

/-- The names of the covered zones in ascending order, each with its table. A zone that never had but one time is `steady`. -/
def covered : List (String × ZoneTable) :=
  [("Africa/Cairo", cairo), ("America/Havana", havana), ("America/Los_Angeles", losAngeles),
   ("America/Manaus", manaus), ("America/Mexico_City", mexicoCity), ("America/New_York", newYork),
   ("America/Sao_Paulo", saoPaulo), ("America/St_Johns", stJohns), ("America/Whitehorse", whitehorse),
   ("Arctic/Longyearbyen", berlin), ("Asia/Calcutta", kolkata), ("Asia/Chongqing", shanghai),
   ("Asia/Chungking", shanghai), ("Asia/Harbin", shanghai), ("Asia/Kathmandu", kathmandu),
   ("Asia/Katmandu", kathmandu), ("Asia/Kolkata", kolkata), ("Asia/Shanghai", shanghai), ("Asia/Tehran", tehran),
   ("Asia/Tokyo", tokyo), ("Atlantic/Jan_Mayen", berlin), ("Australia/ACT", sydney),
   ("Australia/Broken_Hill", brokenHill), ("Australia/Canberra", sydney), ("Australia/LHI", lordHowe),
   ("Australia/Lord_Howe", lordHowe), ("Australia/NSW", sydney), ("Australia/Sydney", sydney),
   ("Australia/Yancowinna", brokenHill), ("Brazil/East", saoPaulo), ("Brazil/West", manaus),
   ("Canada/Newfoundland", stJohns), ("Canada/Yukon", whitehorse), ("Cuba", havana), ("EST", steady (-18000) "EST"),
   ("Egypt", cairo), ("Eire", dublin), ("Etc/GMT", steady 0 "GMT"), ("Etc/GMT+0", steady 0 "GMT"),
   ("Etc/GMT+1", steady (-3600) "-01"), ("Etc/GMT+10", steady (-36000) "-10"), ("Etc/GMT+11", steady (-39600) "-11"),
   ("Etc/GMT+12", steady (-43200) "-12"), ("Etc/GMT+2", steady (-7200) "-02"), ("Etc/GMT+3", steady (-10800) "-03"),
   ("Etc/GMT+4", steady (-14400) "-04"), ("Etc/GMT+5", steady (-18000) "-05"), ("Etc/GMT+6", steady (-21600) "-06"),
   ("Etc/GMT+7", steady (-25200) "-07"), ("Etc/GMT+8", steady (-28800) "-08"), ("Etc/GMT+9", steady (-32400) "-09"),
   ("Etc/GMT-0", steady 0 "GMT"), ("Etc/GMT-1", steady 3600 "+01"), ("Etc/GMT-10", steady 36000 "+10"),
   ("Etc/GMT-11", steady 39600 "+11"), ("Etc/GMT-12", steady 43200 "+12"), ("Etc/GMT-13", steady 46800 "+13"),
   ("Etc/GMT-14", steady 50400 "+14"), ("Etc/GMT-2", steady 7200 "+02"), ("Etc/GMT-3", steady 10800 "+03"),
   ("Etc/GMT-4", steady 14400 "+04"), ("Etc/GMT-5", steady 18000 "+05"), ("Etc/GMT-6", steady 21600 "+06"),
   ("Etc/GMT-7", steady 25200 "+07"), ("Etc/GMT-8", steady 28800 "+08"), ("Etc/GMT-9", steady 32400 "+09"),
   ("Etc/GMT0", steady 0 "GMT"), ("Etc/Greenwich", steady 0 "GMT"), ("Etc/UCT", steady 0 "UTC"),
   ("Etc/UTC", steady 0 "UTC"), ("Etc/Universal", steady 0 "UTC"), ("Etc/Zulu", steady 0 "UTC"),
   ("Europe/Amsterdam", brussels), ("Europe/Belfast", london), ("Europe/Berlin", berlin),
   ("Europe/Brussels", brussels), ("Europe/Busingen", zurich), ("Europe/Copenhagen", berlin),
   ("Europe/Dublin", dublin), ("Europe/London", london), ("Europe/Madrid", madrid), ("Europe/Oslo", berlin),
   ("Europe/Paris", paris), ("Europe/Rome", rome), ("Europe/San_Marino", rome), ("Europe/Stockholm", berlin),
   ("Europe/Vatican", rome), ("Europe/Vienna", vienna), ("Europe/Warsaw", warsaw), ("Europe/Zurich", zurich),
   ("GB", london), ("GB-Eire", london), ("GMT", steady 0 "GMT"), ("GMT+0", steady 0 "GMT"), ("GMT-0", steady 0 "GMT"),
   ("GMT0", steady 0 "GMT"), ("Greenwich", steady 0 "GMT"), ("HST", steady (-36000) "HST"), ("Iran", tehran),
   ("Japan", tokyo), ("MST", steady (-25200) "MST"), ("Mexico/General", mexicoCity), ("NZ-CHAT", chatham),
   ("PRC", shanghai), ("Pacific/Apia", apia), ("Pacific/Chatham", chatham), ("Pacific/Kiritimati", kiritimati),
   ("Poland", warsaw), ("UCT", steady 0 "UTC"), ("US/Eastern", newYork), ("US/Pacific", losAngeles),
   ("UTC", steady 0 "UTC"), ("Universal", steady 0 "UTC"), ("Zulu", steady 0 "UTC")]

/-- The names of all other zones in ascending order, each with the standard time of today in place of its history. -/
def standIns : List (String × ZoneTable) :=
  [("Africa/Abidjan", steady 0 "GMT"), ("Africa/Accra", steady 0 "GMT"), ("Africa/Addis_Ababa", steady 10800 "EAT"),
   ("Africa/Algiers", steady 3600 "CET"), ("Africa/Asmara", steady 10800 "EAT"),
   ("Africa/Asmera", steady 10800 "EAT"), ("Africa/Bamako", steady 0 "GMT"), ("Africa/Bangui", steady 3600 "WAT"),
   ("Africa/Banjul", steady 0 "GMT"), ("Africa/Bissau", steady 0 "GMT"), ("Africa/Blantyre", steady 7200 "CAT"),
   ("Africa/Brazzaville", steady 3600 "WAT"), ("Africa/Bujumbura", steady 7200 "CAT"),
   ("Africa/Casablanca", steady 0 "+00"), ("Africa/Ceuta", steady 3600 "CET"), ("Africa/Conakry", steady 0 "GMT"),
   ("Africa/Dakar", steady 0 "GMT"), ("Africa/Dar_es_Salaam", steady 10800 "EAT"),
   ("Africa/Djibouti", steady 10800 "EAT"), ("Africa/Douala", steady 3600 "WAT"), ("Africa/El_Aaiun", steady 0 "+00"),
   ("Africa/Freetown", steady 0 "GMT"), ("Africa/Gaborone", steady 7200 "CAT"), ("Africa/Harare", steady 7200 "CAT"),
   ("Africa/Johannesburg", steady 7200 "SAST"), ("Africa/Juba", steady 7200 "CAT"),
   ("Africa/Kampala", steady 10800 "EAT"), ("Africa/Khartoum", steady 7200 "CAT"),
   ("Africa/Kigali", steady 7200 "CAT"), ("Africa/Kinshasa", steady 3600 "WAT"), ("Africa/Lagos", steady 3600 "WAT"),
   ("Africa/Libreville", steady 3600 "WAT"), ("Africa/Lome", steady 0 "GMT"), ("Africa/Luanda", steady 3600 "WAT"),
   ("Africa/Lubumbashi", steady 7200 "CAT"), ("Africa/Lusaka", steady 7200 "CAT"),
   ("Africa/Malabo", steady 3600 "WAT"), ("Africa/Maputo", steady 7200 "CAT"), ("Africa/Maseru", steady 7200 "SAST"),
   ("Africa/Mbabane", steady 7200 "SAST"), ("Africa/Mogadishu", steady 10800 "EAT"),
   ("Africa/Monrovia", steady 0 "GMT"), ("Africa/Nairobi", steady 10800 "EAT"),
   ("Africa/Ndjamena", steady 3600 "WAT"), ("Africa/Niamey", steady 3600 "WAT"),
   ("Africa/Nouakchott", steady 0 "GMT"), ("Africa/Ouagadougou", steady 0 "GMT"),
   ("Africa/Porto-Novo", steady 3600 "WAT"), ("Africa/Sao_Tome", steady 0 "GMT"), ("Africa/Timbuktu", steady 0 "GMT"),
   ("Africa/Tripoli", steady 7200 "EET"), ("Africa/Tunis", steady 3600 "CET"), ("Africa/Windhoek", steady 7200 "CAT"),
   ("America/Adak", steady (-36000) "HST"), ("America/Anchorage", steady (-32400) "AKST"),
   ("America/Anguilla", steady (-14400) "AST"), ("America/Antigua", steady (-14400) "AST"),
   ("America/Araguaina", steady (-10800) "-03"), ("America/Argentina/Buenos_Aires", steady (-10800) "-03"),
   ("America/Argentina/Catamarca", steady (-10800) "-03"),
   ("America/Argentina/ComodRivadavia", steady (-10800) "-03"), ("America/Argentina/Cordoba", steady (-10800) "-03"),
   ("America/Argentina/Jujuy", steady (-10800) "-03"), ("America/Argentina/La_Rioja", steady (-10800) "-03"),
   ("America/Argentina/Mendoza", steady (-10800) "-03"), ("America/Argentina/Rio_Gallegos", steady (-10800) "-03"),
   ("America/Argentina/Salta", steady (-10800) "-03"), ("America/Argentina/San_Juan", steady (-10800) "-03"),
   ("America/Argentina/San_Luis", steady (-10800) "-03"), ("America/Argentina/Tucuman", steady (-10800) "-03"),
   ("America/Argentina/Ushuaia", steady (-10800) "-03"), ("America/Aruba", steady (-14400) "AST"),
   ("America/Asuncion", steady (-10800) "-03"), ("America/Atikokan", steady (-18000) "EST"),
   ("America/Atka", steady (-36000) "HST"), ("America/Bahia", steady (-10800) "-03"),
   ("America/Bahia_Banderas", steady (-21600) "CST"), ("America/Barbados", steady (-14400) "AST"),
   ("America/Belem", steady (-10800) "-03"), ("America/Belize", steady (-21600) "CST"),
   ("America/Blanc-Sablon", steady (-14400) "AST"), ("America/Boa_Vista", steady (-14400) "-04"),
   ("America/Bogota", steady (-18000) "-05"), ("America/Boise", steady (-25200) "MST"),
   ("America/Buenos_Aires", steady (-10800) "-03"), ("America/Cambridge_Bay", steady (-25200) "MST"),
   ("America/Campo_Grande", steady (-14400) "-04"), ("America/Cancun", steady (-18000) "EST"),
   ("America/Caracas", steady (-14400) "-04"), ("America/Catamarca", steady (-10800) "-03"),
   ("America/Cayenne", steady (-10800) "-03"), ("America/Cayman", steady (-18000) "EST"),
   ("America/Chicago", steady (-21600) "CST"), ("America/Chihuahua", steady (-21600) "CST"),
   ("America/Ciudad_Juarez", steady (-25200) "MST"), ("America/Coral_Harbour", steady (-18000) "EST"),
   ("America/Cordoba", steady (-10800) "-03"), ("America/Costa_Rica", steady (-21600) "CST"),
   ("America/Creston", steady (-25200) "MST"), ("America/Cuiaba", steady (-14400) "-04"),
   ("America/Curacao", steady (-14400) "AST"), ("America/Danmarkshavn", steady 0 "GMT"),
   ("America/Dawson", steady (-25200) "MST"), ("America/Dawson_Creek", steady (-25200) "MST"),
   ("America/Denver", steady (-25200) "MST"), ("America/Detroit", steady (-18000) "EST"),
   ("America/Dominica", steady (-14400) "AST"), ("America/Edmonton", steady (-25200) "MST"),
   ("America/Eirunepe", steady (-18000) "-05"), ("America/El_Salvador", steady (-21600) "CST"),
   ("America/Ensenada", steady (-28800) "PST"), ("America/Fort_Nelson", steady (-25200) "MST"),
   ("America/Fort_Wayne", steady (-18000) "EST"), ("America/Fortaleza", steady (-10800) "-03"),
   ("America/Glace_Bay", steady (-14400) "AST"), ("America/Godthab", steady (-7200) "-02"),
   ("America/Goose_Bay", steady (-14400) "AST"), ("America/Grand_Turk", steady (-18000) "EST"),
   ("America/Grenada", steady (-14400) "AST"), ("America/Guadeloupe", steady (-14400) "AST"),
   ("America/Guatemala", steady (-21600) "CST"), ("America/Guayaquil", steady (-18000) "-05"),
   ("America/Guyana", steady (-14400) "-04"), ("America/Halifax", steady (-14400) "AST"),
   ("America/Hermosillo", steady (-25200) "MST"), ("America/Indiana/Indianapolis", steady (-18000) "EST"),
   ("America/Indiana/Knox", steady (-21600) "CST"), ("America/Indiana/Marengo", steady (-18000) "EST"),
   ("America/Indiana/Petersburg", steady (-18000) "EST"), ("America/Indiana/Tell_City", steady (-21600) "CST"),
   ("America/Indiana/Vevay", steady (-18000) "EST"), ("America/Indiana/Vincennes", steady (-18000) "EST"),
   ("America/Indiana/Winamac", steady (-18000) "EST"), ("America/Indianapolis", steady (-18000) "EST"),
   ("America/Inuvik", steady (-25200) "MST"), ("America/Iqaluit", steady (-18000) "EST"),
   ("America/Jamaica", steady (-18000) "EST"), ("America/Jujuy", steady (-10800) "-03"),
   ("America/Juneau", steady (-32400) "AKST"), ("America/Kentucky/Louisville", steady (-18000) "EST"),
   ("America/Kentucky/Monticello", steady (-18000) "EST"), ("America/Knox_IN", steady (-21600) "CST"),
   ("America/Kralendijk", steady (-14400) "AST"), ("America/La_Paz", steady (-14400) "-04"),
   ("America/Lima", steady (-18000) "-05"), ("America/Louisville", steady (-18000) "EST"),
   ("America/Lower_Princes", steady (-14400) "AST"), ("America/Maceio", steady (-10800) "-03"),
   ("America/Managua", steady (-21600) "CST"), ("America/Marigot", steady (-14400) "AST"),
   ("America/Martinique", steady (-14400) "AST"), ("America/Matamoros", steady (-21600) "CST"),
   ("America/Mazatlan", steady (-25200) "MST"), ("America/Mendoza", steady (-10800) "-03"),
   ("America/Menominee", steady (-21600) "CST"), ("America/Merida", steady (-21600) "CST"),
   ("America/Metlakatla", steady (-32400) "AKST"), ("America/Miquelon", steady (-10800) "-03"),
   ("America/Moncton", steady (-14400) "AST"), ("America/Monterrey", steady (-21600) "CST"),
   ("America/Montevideo", steady (-10800) "-03"), ("America/Montreal", steady (-18000) "EST"),
   ("America/Montserrat", steady (-14400) "AST"), ("America/Nassau", steady (-18000) "EST"),
   ("America/Nipigon", steady (-18000) "EST"), ("America/Nome", steady (-32400) "AKST"),
   ("America/Noronha", steady (-7200) "-02"), ("America/North_Dakota/Beulah", steady (-21600) "CST"),
   ("America/North_Dakota/Center", steady (-21600) "CST"), ("America/North_Dakota/New_Salem", steady (-21600) "CST"),
   ("America/Nuuk", steady (-7200) "-02"), ("America/Ojinaga", steady (-21600) "CST"),
   ("America/Panama", steady (-18000) "EST"), ("America/Pangnirtung", steady (-18000) "EST"),
   ("America/Paramaribo", steady (-10800) "-03"), ("America/Phoenix", steady (-25200) "MST"),
   ("America/Port-au-Prince", steady (-18000) "EST"), ("America/Port_of_Spain", steady (-14400) "AST"),
   ("America/Porto_Acre", steady (-18000) "-05"), ("America/Porto_Velho", steady (-14400) "-04"),
   ("America/Puerto_Rico", steady (-14400) "AST"), ("America/Punta_Arenas", steady (-10800) "-03"),
   ("America/Rainy_River", steady (-21600) "CST"), ("America/Rankin_Inlet", steady (-21600) "CST"),
   ("America/Recife", steady (-10800) "-03"), ("America/Regina", steady (-21600) "CST"),
   ("America/Resolute", steady (-21600) "CST"), ("America/Rio_Branco", steady (-18000) "-05"),
   ("America/Rosario", steady (-10800) "-03"), ("America/Santa_Isabel", steady (-28800) "PST"),
   ("America/Santarem", steady (-10800) "-03"), ("America/Santiago", steady (-14400) "-04"),
   ("America/Santo_Domingo", steady (-14400) "AST"), ("America/Scoresbysund", steady (-7200) "-02"),
   ("America/Shiprock", steady (-25200) "MST"), ("America/Sitka", steady (-32400) "AKST"),
   ("America/St_Barthelemy", steady (-14400) "AST"), ("America/St_Kitts", steady (-14400) "AST"),
   ("America/St_Lucia", steady (-14400) "AST"), ("America/St_Thomas", steady (-14400) "AST"),
   ("America/St_Vincent", steady (-14400) "AST"), ("America/Swift_Current", steady (-21600) "CST"),
   ("America/Tegucigalpa", steady (-21600) "CST"), ("America/Thule", steady (-14400) "AST"),
   ("America/Thunder_Bay", steady (-18000) "EST"), ("America/Tijuana", steady (-28800) "PST"),
   ("America/Toronto", steady (-18000) "EST"), ("America/Tortola", steady (-14400) "AST"),
   ("America/Vancouver", steady (-28800) "PST"), ("America/Virgin", steady (-14400) "AST"),
   ("America/Winnipeg", steady (-21600) "CST"), ("America/Yakutat", steady (-32400) "AKST"),
   ("America/Yellowknife", steady (-25200) "MST"), ("Antarctica/Casey", steady 28800 "+08"),
   ("Antarctica/Davis", steady 25200 "+07"), ("Antarctica/DumontDUrville", steady 36000 "+10"),
   ("Antarctica/Macquarie", steady 36000 "AEST"), ("Antarctica/Mawson", steady 18000 "+05"),
   ("Antarctica/McMurdo", steady 43200 "NZST"), ("Antarctica/Palmer", steady (-10800) "-03"),
   ("Antarctica/Rothera", steady (-10800) "-03"), ("Antarctica/South_Pole", steady 43200 "NZST"),
   ("Antarctica/Syowa", steady 10800 "+03"), ("Antarctica/Troll", steady 0 "+00"),
   ("Antarctica/Vostok", steady 18000 "+05"), ("Asia/Aden", steady 10800 "+03"), ("Asia/Almaty", steady 18000 "+05"),
   ("Asia/Amman", steady 10800 "+03"), ("Asia/Anadyr", steady 43200 "+12"), ("Asia/Aqtau", steady 18000 "+05"),
   ("Asia/Aqtobe", steady 18000 "+05"), ("Asia/Ashgabat", steady 18000 "+05"), ("Asia/Ashkhabad", steady 18000 "+05"),
   ("Asia/Atyrau", steady 18000 "+05"), ("Asia/Baghdad", steady 10800 "+03"), ("Asia/Bahrain", steady 10800 "+03"),
   ("Asia/Baku", steady 14400 "+04"), ("Asia/Bangkok", steady 25200 "+07"), ("Asia/Barnaul", steady 25200 "+07"),
   ("Asia/Beirut", steady 7200 "EET"), ("Asia/Bishkek", steady 21600 "+06"), ("Asia/Brunei", steady 28800 "+08"),
   ("Asia/Chita", steady 32400 "+09"), ("Asia/Choibalsan", steady 28800 "+08"),
   ("Asia/Colombo", steady 19800 "+0530"), ("Asia/Dacca", steady 21600 "+06"), ("Asia/Damascus", steady 10800 "+03"),
   ("Asia/Dhaka", steady 21600 "+06"), ("Asia/Dili", steady 32400 "+09"), ("Asia/Dubai", steady 14400 "+04"),
   ("Asia/Dushanbe", steady 18000 "+05"), ("Asia/Famagusta", steady 7200 "EET"), ("Asia/Gaza", steady 7200 "EET"),
   ("Asia/Hebron", steady 7200 "EET"), ("Asia/Ho_Chi_Minh", steady 25200 "+07"),
   ("Asia/Hong_Kong", steady 28800 "HKT"), ("Asia/Hovd", steady 25200 "+07"), ("Asia/Irkutsk", steady 28800 "+08"),
   ("Asia/Istanbul", steady 10800 "+03"), ("Asia/Jakarta", steady 25200 "WIB"), ("Asia/Jayapura", steady 32400 "WIT"),
   ("Asia/Jerusalem", steady 7200 "IST"), ("Asia/Kabul", steady 16200 "+0430"),
   ("Asia/Kamchatka", steady 43200 "+12"), ("Asia/Karachi", steady 18000 "PKT"), ("Asia/Kashgar", steady 21600 "+06"),
   ("Asia/Khandyga", steady 32400 "+09"), ("Asia/Krasnoyarsk", steady 25200 "+07"),
   ("Asia/Kuala_Lumpur", steady 28800 "+08"), ("Asia/Kuching", steady 28800 "+08"),
   ("Asia/Kuwait", steady 10800 "+03"), ("Asia/Macao", steady 28800 "CST"), ("Asia/Macau", steady 28800 "CST"),
   ("Asia/Magadan", steady 39600 "+11"), ("Asia/Makassar", steady 28800 "WITA"), ("Asia/Manila", steady 28800 "PST"),
   ("Asia/Muscat", steady 14400 "+04"), ("Asia/Nicosia", steady 7200 "EET"),
   ("Asia/Novokuznetsk", steady 25200 "+07"), ("Asia/Novosibirsk", steady 25200 "+07"),
   ("Asia/Omsk", steady 21600 "+06"), ("Asia/Oral", steady 18000 "+05"), ("Asia/Phnom_Penh", steady 25200 "+07"),
   ("Asia/Pontianak", steady 25200 "WIB"), ("Asia/Pyongyang", steady 32400 "KST"), ("Asia/Qatar", steady 10800 "+03"),
   ("Asia/Qostanay", steady 18000 "+05"), ("Asia/Qyzylorda", steady 18000 "+05"),
   ("Asia/Rangoon", steady 23400 "+0630"), ("Asia/Riyadh", steady 10800 "+03"), ("Asia/Saigon", steady 25200 "+07"),
   ("Asia/Sakhalin", steady 39600 "+11"), ("Asia/Samarkand", steady 18000 "+05"), ("Asia/Seoul", steady 32400 "KST"),
   ("Asia/Singapore", steady 28800 "+08"), ("Asia/Srednekolymsk", steady 39600 "+11"),
   ("Asia/Taipei", steady 28800 "CST"), ("Asia/Tashkent", steady 18000 "+05"), ("Asia/Tbilisi", steady 14400 "+04"),
   ("Asia/Tel_Aviv", steady 7200 "IST"), ("Asia/Thimbu", steady 21600 "+06"), ("Asia/Thimphu", steady 21600 "+06"),
   ("Asia/Tomsk", steady 25200 "+07"), ("Asia/Ujung_Pandang", steady 28800 "WITA"),
   ("Asia/Ulaanbaatar", steady 28800 "+08"), ("Asia/Ulan_Bator", steady 28800 "+08"),
   ("Asia/Urumqi", steady 21600 "+06"), ("Asia/Ust-Nera", steady 36000 "+10"), ("Asia/Vientiane", steady 25200 "+07"),
   ("Asia/Vladivostok", steady 36000 "+10"), ("Asia/Yakutsk", steady 32400 "+09"),
   ("Asia/Yangon", steady 23400 "+0630"), ("Asia/Yekaterinburg", steady 18000 "+05"),
   ("Asia/Yerevan", steady 14400 "+04"), ("Atlantic/Azores", steady (-3600) "-01"),
   ("Atlantic/Bermuda", steady (-14400) "AST"), ("Atlantic/Canary", steady 0 "WET"),
   ("Atlantic/Cape_Verde", steady (-3600) "-01"), ("Atlantic/Faeroe", steady 0 "WET"),
   ("Atlantic/Faroe", steady 0 "WET"), ("Atlantic/Madeira", steady 0 "WET"), ("Atlantic/Reykjavik", steady 0 "GMT"),
   ("Atlantic/South_Georgia", steady (-7200) "-02"), ("Atlantic/St_Helena", steady 0 "GMT"),
   ("Atlantic/Stanley", steady (-10800) "-03"), ("Australia/Adelaide", steady 34200 "ACST"),
   ("Australia/Brisbane", steady 36000 "AEST"), ("Australia/Currie", steady 36000 "AEST"),
   ("Australia/Darwin", steady 34200 "ACST"), ("Australia/Eucla", steady 31500 "+0845"),
   ("Australia/Hobart", steady 36000 "AEST"), ("Australia/Lindeman", steady 36000 "AEST"),
   ("Australia/Melbourne", steady 36000 "AEST"), ("Australia/North", steady 34200 "ACST"),
   ("Australia/Perth", steady 28800 "AWST"), ("Australia/Queensland", steady 36000 "AEST"),
   ("Australia/South", steady 34200 "ACST"), ("Australia/Tasmania", steady 36000 "AEST"),
   ("Australia/Victoria", steady 36000 "AEST"), ("Australia/West", steady 28800 "AWST"),
   ("Brazil/Acre", steady (-18000) "-05"), ("Brazil/DeNoronha", steady (-7200) "-02"), ("CET", steady 3600 "CET"),
   ("CST6CDT", steady (-21600) "CST"), ("Canada/Atlantic", steady (-14400) "AST"),
   ("Canada/Central", steady (-21600) "CST"), ("Canada/Eastern", steady (-18000) "EST"),
   ("Canada/Mountain", steady (-25200) "MST"), ("Canada/Pacific", steady (-28800) "PST"),
   ("Canada/Saskatchewan", steady (-21600) "CST"), ("Chile/Continental", steady (-14400) "-04"),
   ("Chile/EasterIsland", steady (-21600) "-06"), ("EET", steady 7200 "EET"), ("EST5EDT", steady (-18000) "EST"),
   ("Europe/Andorra", steady 3600 "CET"), ("Europe/Astrakhan", steady 14400 "+04"),
   ("Europe/Athens", steady 7200 "EET"), ("Europe/Belgrade", steady 3600 "CET"),
   ("Europe/Bratislava", steady 3600 "CET"), ("Europe/Bucharest", steady 7200 "EET"),
   ("Europe/Budapest", steady 3600 "CET"), ("Europe/Chisinau", steady 7200 "EET"),
   ("Europe/Gibraltar", steady 3600 "CET"), ("Europe/Guernsey", steady 0 "GMT"),
   ("Europe/Helsinki", steady 7200 "EET"), ("Europe/Isle_of_Man", steady 0 "GMT"),
   ("Europe/Istanbul", steady 10800 "+03"), ("Europe/Jersey", steady 0 "GMT"),
   ("Europe/Kaliningrad", steady 7200 "EET"), ("Europe/Kiev", steady 7200 "EET"),
   ("Europe/Kirov", steady 10800 "MSK"), ("Europe/Kyiv", steady 7200 "EET"), ("Europe/Lisbon", steady 0 "WET"),
   ("Europe/Ljubljana", steady 3600 "CET"), ("Europe/Luxembourg", steady 3600 "CET"),
   ("Europe/Malta", steady 3600 "CET"), ("Europe/Mariehamn", steady 7200 "EET"), ("Europe/Minsk", steady 10800 "+03"),
   ("Europe/Monaco", steady 3600 "CET"), ("Europe/Moscow", steady 10800 "MSK"), ("Europe/Nicosia", steady 7200 "EET"),
   ("Europe/Podgorica", steady 3600 "CET"), ("Europe/Prague", steady 3600 "CET"), ("Europe/Riga", steady 7200 "EET"),
   ("Europe/Samara", steady 14400 "+04"), ("Europe/Sarajevo", steady 3600 "CET"),
   ("Europe/Saratov", steady 14400 "+04"), ("Europe/Simferopol", steady 10800 "MSK"),
   ("Europe/Skopje", steady 3600 "CET"), ("Europe/Sofia", steady 7200 "EET"), ("Europe/Tallinn", steady 7200 "EET"),
   ("Europe/Tirane", steady 3600 "CET"), ("Europe/Tiraspol", steady 7200 "EET"),
   ("Europe/Ulyanovsk", steady 14400 "+04"), ("Europe/Uzhgorod", steady 7200 "EET"),
   ("Europe/Vaduz", steady 3600 "CET"), ("Europe/Vilnius", steady 7200 "EET"),
   ("Europe/Volgograd", steady 10800 "MSK"), ("Europe/Zagreb", steady 3600 "CET"),
   ("Europe/Zaporozhye", steady 7200 "EET"), ("Hongkong", steady 28800 "HKT"), ("Iceland", steady 0 "GMT"),
   ("Indian/Antananarivo", steady 10800 "EAT"), ("Indian/Chagos", steady 21600 "+06"),
   ("Indian/Christmas", steady 25200 "+07"), ("Indian/Cocos", steady 23400 "+0630"),
   ("Indian/Comoro", steady 10800 "EAT"), ("Indian/Kerguelen", steady 18000 "+05"),
   ("Indian/Mahe", steady 14400 "+04"), ("Indian/Maldives", steady 18000 "+05"),
   ("Indian/Mauritius", steady 14400 "+04"), ("Indian/Mayotte", steady 10800 "EAT"),
   ("Indian/Reunion", steady 14400 "+04"), ("Israel", steady 7200 "IST"), ("Jamaica", steady (-18000) "EST"),
   ("Kwajalein", steady 43200 "+12"), ("Libya", steady 7200 "EET"), ("MET", steady 3600 "MET"),
   ("MST7MDT", steady (-25200) "MST"), ("Mexico/BajaNorte", steady (-28800) "PST"),
   ("Mexico/BajaSur", steady (-25200) "MST"), ("NZ", steady 43200 "NZST"), ("Navajo", steady (-25200) "MST"),
   ("PST8PDT", steady (-28800) "PST"), ("Pacific/Auckland", steady 43200 "NZST"),
   ("Pacific/Bougainville", steady 39600 "+11"), ("Pacific/Chuuk", steady 36000 "+10"),
   ("Pacific/Easter", steady (-21600) "-06"), ("Pacific/Efate", steady 39600 "+11"),
   ("Pacific/Enderbury", steady 46800 "+13"), ("Pacific/Fakaofo", steady 46800 "+13"),
   ("Pacific/Fiji", steady 43200 "+12"), ("Pacific/Funafuti", steady 43200 "+12"),
   ("Pacific/Galapagos", steady (-21600) "-06"), ("Pacific/Gambier", steady (-32400) "-09"),
   ("Pacific/Guadalcanal", steady 39600 "+11"), ("Pacific/Guam", steady 36000 "ChST"),
   ("Pacific/Honolulu", steady (-36000) "HST"), ("Pacific/Johnston", steady (-36000) "HST"),
   ("Pacific/Kanton", steady 46800 "+13"), ("Pacific/Kosrae", steady 39600 "+11"),
   ("Pacific/Kwajalein", steady 43200 "+12"), ("Pacific/Majuro", steady 43200 "+12"),
   ("Pacific/Marquesas", steady (-34200) "-0930"), ("Pacific/Midway", steady (-39600) "SST"),
   ("Pacific/Nauru", steady 43200 "+12"), ("Pacific/Niue", steady (-39600) "-11"),
   ("Pacific/Norfolk", steady 39600 "+11"), ("Pacific/Noumea", steady 39600 "+11"),
   ("Pacific/Pago_Pago", steady (-39600) "SST"), ("Pacific/Palau", steady 32400 "+09"),
   ("Pacific/Pitcairn", steady (-28800) "-08"), ("Pacific/Pohnpei", steady 39600 "+11"),
   ("Pacific/Ponape", steady 39600 "+11"), ("Pacific/Port_Moresby", steady 36000 "+10"),
   ("Pacific/Rarotonga", steady (-36000) "-10"), ("Pacific/Saipan", steady 36000 "ChST"),
   ("Pacific/Samoa", steady (-39600) "SST"), ("Pacific/Tahiti", steady (-36000) "-10"),
   ("Pacific/Tarawa", steady 43200 "+12"), ("Pacific/Tongatapu", steady 46800 "+13"),
   ("Pacific/Truk", steady 36000 "+10"), ("Pacific/Wake", steady 43200 "+12"), ("Pacific/Wallis", steady 43200 "+12"),
   ("Pacific/Yap", steady 36000 "+10"), ("Portugal", steady 0 "WET"), ("ROC", steady 28800 "CST"),
   ("ROK", steady 32400 "KST"), ("Singapore", steady 28800 "+08"), ("Turkey", steady 10800 "+03"),
   ("US/Alaska", steady (-32400) "AKST"), ("US/Aleutian", steady (-36000) "HST"),
   ("US/Arizona", steady (-25200) "MST"), ("US/Central", steady (-21600) "CST"),
   ("US/East-Indiana", steady (-18000) "EST"), ("US/Hawaii", steady (-36000) "HST"),
   ("US/Indiana-Starke", steady (-21600) "CST"), ("US/Michigan", steady (-18000) "EST"),
   ("US/Mountain", steady (-25200) "MST"), ("US/Samoa", steady (-39600) "SST"), ("W-SU", steady 10800 "MSK"),
   ("WET", steady 0 "WET")]

/-- The names of the zones, each with its table. -/
def directory : List (String × ZoneTable) := covered ++ standIns

end ZoneTable

namespace Zone

/-- Universal time. -/
def utc : Zone := (ZoneTable.steady 0 "UTC").toZone "UTC".toList

/-- The zone with a given name, up to white space around it. Names are matched letter by letter. -/
def named? (name : Text) : Option Zone :=
  (ZoneTable.directory.lookup (String.ofList name.trim)).map fun table => table.toZone name.trim

/-- The covered zone with a given name, up to white space around it. -/
def covered? (name : Text) : Option Zone :=
  (ZoneTable.covered.lookup (String.ofList name.trim)).map fun table => table.toZone name.trim

theorem named?_of_covered? {name : Text} {z : Zone} (covered : covered? name = some z) : named? name = some z := by
  obtain ⟨table, found, same⟩ := Option.map_eq_some_iff.1 covered
  rw [named?, ZoneTable.directory, List.lookup_append, found, ← same]
  rfl

/-- The zone of a machine whose setting is a zone name, with or without colons in front. A setting that names no zone
means universal time. -/
def ofSetting (setting : Text) : Zone := (named? (setting.dropWhile (· == ':'))).getD utc

end Zone

end Glossa
