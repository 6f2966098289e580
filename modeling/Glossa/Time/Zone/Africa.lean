import Glossa.Time.Zone.Table

/-!
# Zone tables of Africa

The changes of clocks up to the year 2099, from local mean time on.
-/

namespace Glossa.ZoneTable

/-- Africa/Cairo. -/
def cairo : ZoneTable where
  kinds := [(7509, "LMT"), (7200, "EET"), (10800, "EEST")]
  changes :=
    [(-2185409109, 1), (-929844000, 2), (-923108400, 1), (-906170400, 2), (-892868400, 1), (-875844000, 2),
     (-857790000, 1), (-844308000, 2), (-825822000, 1), (-812685600, 2), (-794199600, 1), (-779853600, 2),
     (-762663600, 1), (-399088800, 2), (-386650800, 1), (-368330400, 2), (-355114800, 1), (-336790800, 2),
     (-323654400, 1), (-305168400, 2), (-292032000, 1), (-273632400, 2), (-260496000, 1), (-242096400, 2),
     (-228960000, 1), (-210560400, 2), (-197424000, 1), (-178938000, 2), (-165801600, 1), (-147402000, 2),
     (-134265600, 1), (-115866000, 2), (-102643200, 1), (-84330000, 2), (-71107200, 1), (-52707600, 2),
     (-39484800, 1), (-21171600, 2), (-7948800, 1), (10364400, 2), (23587200, 1), (41900400, 2), (55123200, 1),
     (73522800, 2), (86745600, 1), (105058800, 2), (118281600, 1), (136594800, 2), (149817600, 1), (168130800, 2),
     (181353600, 1), (199753200, 2), (212976000, 1), (231289200, 2), (244512000, 1), (262825200, 2),
     (276048000, 1), (294361200, 2), (307584000, 1), (325983600, 2), (339206400, 1), (357519600, 2),
     (370742400, 1), (396399600, 2), (402278400, 1), (426812400, 2), (433814400, 1), (452214000, 2),
     (465436800, 1), (483750000, 2), (496972800, 1), (515286000, 2), (528508800, 1), (546822000, 2),
     (560044800, 1), (578444400, 2), (591667200, 1), (610412400, 2), (623203200, 1), (641516400, 2),
     (654739200, 1), (673052400, 2), (686275200, 1), (704674800, 2), (717897600, 1), (736210800, 2),
     (749433600, 1), (767746800, 2), (780969600, 1), (799020000, 2), (812322000, 1), (830469600, 2),
     (843771600, 1), (861919200, 2), (875221200, 1), (893368800, 2), (906670800, 1), (925423200, 2),
     (938725200, 1), (956872800, 2), (970174800, 1), (988322400, 2), (1001624400, 1), (1019772000, 2),
     (1033074000, 1), (1051221600, 2), (1064523600, 1), (1083276000, 2), (1096578000, 1), (1114725600, 2),
     (1128027600, 1), (1146175200, 2), (1158872400, 1), (1177624800, 2), (1189112400, 1), (1209074400, 2),
     (1219957200, 1), (1240524000, 2), (1250802000, 1), (1272578400, 2), (1281474000, 1), (1284069600, 2),
     (1285880400, 1), (1400191200, 2), (1403816400, 1), (1406844000, 2), (1411678800, 1)]
  yearlyFrom := 2023
  yearly := [⟨4, .last .friday, -7200, 2⟩, ⟨10, .last .thursday, 75600, 1⟩]

end Glossa.ZoneTable
