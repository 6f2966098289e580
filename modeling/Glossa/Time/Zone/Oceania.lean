import Glossa.Time.Zone.Table

/-!
# Zone tables of Australia and the Pacific

The changes of clocks up to the year 2099, from local mean time on.
-/

namespace Glossa.ZoneTable

/-- Australia/Broken_Hill. -/
def brokenHill : ZoneTable where
  kinds := [(33948, "LMT"), (36000, "AEST"), (32400, "ACST"), (34200, "ACST"), (37800, "ACDT")]
  changes :=
    [(-2364110748, 1), (-2314951200, 2), (-2230189200, 3), (-1672558200, 4), (-1665387000, 3), (-883639800, 4),
     (-876123000, 3), (-860398200, 4), (-844673400, 3), (-828343800, 4), (-813223800, 3), (57688200, 4),
     (67969800, 3), (89137800, 4), (100024200, 3), (120587400, 4), (131473800, 3), (152037000, 4), (162923400, 3),
     (183486600, 4), (194977800, 3), (215541000, 4), (226427400, 3), (246990600, 4), (257877000, 3),
     (278440200, 4), (289326600, 3), (309889800, 4), (320776200, 3), (341339400, 4), (352225800, 3),
     (372789000, 4), (386699400, 3), (404843400, 4), (415729800, 3), (436293000, 4), (447179400, 3),
     (467742600, 4), (478629000, 3), (499192200, 4), (511288200, 3), (530037000, 4), (542737800, 3),
     (562091400, 4), (574792200, 3), (594145800, 4), (606241800, 3), (625595400, 4), (636481800, 3),
     (657045000, 4), (667931400, 3), (688494600, 4), (699381000, 3), (719944200, 4), (731435400, 3),
     (751998600, 4), (762885000, 3), (783448200, 4), (794334600, 3), (814897800, 4), (828203400, 3),
     (846347400, 4), (859653000, 3), (877797000, 4), (891102600, 3), (909246600, 4), (922552200, 3),
     (941301000, 4), (954001800, 3), (972750600, 4), (985451400, 3), (1004200200, 4), (1017505800, 3),
     (1035649800, 4), (1048955400, 3), (1067099400, 4), (1080405000, 3), (1099153800, 4), (1111854600, 3),
     (1130603400, 4), (1143909000, 3), (1162053000, 4), (1174753800, 3), (1193502600, 4)]
  yearlyFrom := 2008
  yearly := [⟨4, .onOrAfter .sunday 1, -27000, 3⟩, ⟨10, .onOrAfter .sunday 1, -27000, 4⟩]

/-- Australia/Lord_Howe. -/
def lordHowe : ZoneTable where
  kinds := [(38180, "LMT"), (36000, "AEST"), (37800, "+1030"), (41400, "+1130"), (39600, "+11")]
  changes :=
    [(-2364114980, 1), (352216800, 2), (372785400, 3), (384273000, 2), (404839800, 3), (415722600, 2),
     (436289400, 3), (447172200, 2), (467739000, 3), (478621800, 2), (499188600, 4), (511282800, 2),
     (530033400, 4), (542732400, 2), (562087800, 4), (574786800, 2), (594142200, 4), (606236400, 2),
     (625591800, 4), (636476400, 2), (657041400, 4), (667926000, 2), (688491000, 4), (699375600, 2),
     (719940600, 4), (731430000, 2), (751995000, 4), (762879600, 2), (783444600, 4), (794329200, 2),
     (814894200, 4), (828198000, 2), (846343800, 4), (859647600, 2), (877793400, 4), (891097200, 2),
     (909243000, 4), (922546800, 2), (941297400, 4), (953996400, 2), (967303800, 4), (985446000, 2),
     (1004196600, 4), (1017500400, 2), (1035646200, 4), (1048950000, 2), (1067095800, 4), (1080399600, 2),
     (1099150200, 4), (1111849200, 2), (1130599800, 4), (1143903600, 2), (1162049400, 4), (1174748400, 2),
     (1193499000, 4)]
  yearlyFrom := 2008
  yearly := [⟨4, .onOrAfter .sunday 1, -32400, 2⟩, ⟨10, .onOrAfter .sunday 1, -30600, 4⟩]

/-- Australia/Sydney. -/
def sydney : ZoneTable where
  kinds := [(36292, "LMT"), (36000, "AEST"), (39600, "AEDT")]
  changes :=
    [(-2364113092, 1), (-1672560000, 2), (-1665388800, 1), (-883641600, 2), (-876124800, 1), (-860400000, 2),
     (-844675200, 1), (-828345600, 2), (-813225600, 1), (57686400, 2), (67968000, 1), (89136000, 2),
     (100022400, 1), (120585600, 2), (131472000, 1), (152035200, 2), (162921600, 1), (183484800, 2),
     (194976000, 1), (215539200, 2), (226425600, 1), (246988800, 2), (257875200, 1), (278438400, 2),
     (289324800, 1), (309888000, 2), (320774400, 1), (341337600, 2), (352224000, 1), (372787200, 2),
     (386697600, 1), (404841600, 2), (415728000, 1), (436291200, 2), (447177600, 1), (467740800, 2),
     (478627200, 1), (499190400, 2), (511286400, 1), (530035200, 2), (542736000, 1), (562089600, 2),
     (574790400, 1), (594144000, 2), (606240000, 1), (625593600, 2), (636480000, 1), (657043200, 2),
     (667929600, 1), (688492800, 2), (699379200, 1), (719942400, 2), (731433600, 1), (751996800, 2),
     (762883200, 1), (783446400, 2), (794332800, 1), (814896000, 2), (828201600, 1), (846345600, 2),
     (859651200, 1), (877795200, 2), (891100800, 1), (909244800, 2), (922550400, 1), (941299200, 2),
     (954000000, 1), (967305600, 2), (985449600, 1), (1004198400, 2), (1017504000, 1), (1035648000, 2),
     (1048953600, 1), (1067097600, 2), (1080403200, 1), (1099152000, 2), (1111852800, 1), (1130601600, 2),
     (1143907200, 1), (1162051200, 2), (1174752000, 1), (1193500800, 2)]
  yearlyFrom := 2008
  yearly := [⟨4, .onOrAfter .sunday 1, -28800, 1⟩, ⟨10, .onOrAfter .sunday 1, -28800, 2⟩]

/-- Pacific/Apia. -/
def apia : ZoneTable where
  kinds :=
    [(45184, "LMT"), (-41216, "LMT"), (-41400, "-1130"), (-39600, "-11"), (-36000, "-10"), (50400, "+14"),
     (46800, "+13")]
  changes :=
    [(-2445424384, 1), (-1861878784, 2), (-631110600, 3), (1285498800, 4), (1301752800, 3), (1316872800, 4),
     (1325239200, 5), (1333202400, 6), (1348927200, 5), (1365256800, 6), (1380376800, 5), (1396706400, 6),
     (1411826400, 5), (1428156000, 6), (1443276000, 5), (1459605600, 6), (1474725600, 5), (1491055200, 6),
     (1506175200, 5), (1522504800, 6), (1538229600, 5), (1554559200, 6), (1569679200, 5), (1586008800, 6),
     (1601128800, 5), (1617458400, 6)]

/-- Pacific/Chatham. -/
def chatham : ZoneTable where
  kinds := [(44028, "LMT"), (44100, "+1215"), (45900, "+1245"), (49500, "+1345")]
  changes :=
    [(-3192437628, 1), (-757426500, 2), (152632800, 3), (162309600, 2), (183477600, 3), (194968800, 2),
     (215532000, 3), (226418400, 2), (246981600, 3), (257868000, 2), (278431200, 3), (289317600, 2),
     (309880800, 3), (320767200, 2), (341330400, 3), (352216800, 2), (372780000, 3), (384271200, 2),
     (404834400, 3), (415720800, 2), (436284000, 3), (447170400, 2), (467733600, 3), (478620000, 2),
     (499183200, 3), (510069600, 2), (530632800, 3), (541519200, 2), (562082400, 3), (573573600, 2),
     (594136800, 3), (605023200, 2), (623772000, 3), (637682400, 2), (655221600, 3), (669132000, 2),
     (686671200, 3), (700581600, 2), (718120800, 3), (732636000, 2), (749570400, 3), (764085600, 2),
     (781020000, 3), (795535200, 2), (812469600, 3), (826984800, 2), (844524000, 3), (858434400, 2),
     (875973600, 3), (889884000, 2), (907423200, 3), (921938400, 2), (938872800, 3), (953388000, 2),
     (970322400, 3), (984837600, 2), (1002376800, 3), (1016287200, 2), (1033826400, 3), (1047736800, 2),
     (1065276000, 3), (1079791200, 2), (1096725600, 3), (1111240800, 2), (1128175200, 3), (1142690400, 2),
     (1159624800, 3), (1174140000, 2), (1191074400, 3)]
  yearlyFrom := 2008
  yearly := [⟨4, .onOrAfter .sunday 1, -36000, 2⟩, ⟨9, .last .sunday, -36000, 3⟩]

/-- Pacific/Kiritimati. -/
def kiritimati : ZoneTable where
  kinds := [(-37760, "LMT"), (-38400, "-1040"), (-36000, "-10"), (50400, "+14")]
  changes :=
    [(-2177415040, 1), (307622400, 2), (788868000, 3)]

end Glossa.ZoneTable
