import Glossa.Time.Zone.Table

/-!
# Zone tables of the Americas

The changes of clocks up to the year 2099, from local mean time on.
-/

namespace Glossa.ZoneTable

/-- America/Havana. -/
def havana : ZoneTable where
  kinds := [(-19768, "LMT"), (-19776, "HMT"), (-18000, "CST"), (-14400, "CDT")]
  changes :=
    [(-2524501832, 1), (-1402813824, 2), (-1311534000, 3), (-1300996800, 2), (-933534000, 3), (-925675200, 2),
     (-902084400, 3), (-893620800, 2), (-870030000, 3), (-862171200, 2), (-775681200, 3), (-767822400, 2),
     (-744231600, 3), (-736372800, 2), (-144702000, 3), (-134251200, 2), (-113425200, 3), (-102542400, 2),
     (-86295600, 3), (-72907200, 2), (-54154800, 3), (-41457600, 2), (-21495600, 3), (-5774400, 2), (9954000, 3),
     (25675200, 2), (41403600, 3), (57729600, 2), (73458000, 3), (87364800, 2), (104907600, 3), (118900800, 2),
     (136357200, 3), (150436800, 2), (167806800, 3), (183528000, 2), (199256400, 3), (215582400, 2),
     (230706000, 3), (247032000, 2), (263365200, 3), (276667200, 2), (290581200, 3), (308721600, 2),
     (322030800, 3), (340171200, 2), (358318800, 3), (371620800, 2), (389768400, 3), (403070400, 2),
     (421218000, 3), (434520000, 2), (452667600, 3), (466574400, 2), (484117200, 3), (498024000, 2),
     (511333200, 3), (529473600, 2), (542782800, 3), (560923200, 2), (574837200, 3), (592372800, 2),
     (606286800, 3), (623822400, 2), (638946000, 3), (655876800, 2), (671000400, 3), (687330000, 2),
     (702450000, 3), (718779600, 2), (733899600, 3), (750229200, 2), (765349200, 3), (781678800, 2),
     (796798800, 3), (813128400, 2), (828853200, 3), (844578000, 2), (860302800, 3), (876632400, 2),
     (891147600, 3), (909291600, 2), (922597200, 3), (941346000, 2), (954651600, 3), (972795600, 2),
     (986101200, 3), (1004245200, 2), (1018155600, 3), (1035694800, 2), (1049605200, 3), (1067144400, 2),
     (1080450000, 3), (1162098000, 2), (1173589200, 3), (1193547600, 2), (1205643600, 3), (1224997200, 2),
     (1236488400, 3), (1256446800, 2), (1268542800, 3), (1288501200, 2), (1300597200, 3), (1321160400, 2),
     (1333256400, 3), (1352005200, 2)]
  yearlyFrom := 2013
  yearly := [⟨3, .onOrAfter .sunday 8, 18000, 3⟩, ⟨11, .onOrAfter .sunday 1, 18000, 2⟩]

/-- America/Los_Angeles. -/
def losAngeles : ZoneTable where
  kinds := [(-28378, "LMT"), (-28800, "PST"), (-25200, "PDT"), (-25200, "PWT"), (-25200, "PPT")]
  changes :=
    [(-2717611622, 1), (-1633269600, 2), (-1615129200, 1), (-1601820000, 2), (-1583679600, 1), (-880207200, 3),
     (-769395600, 4), (-765385200, 1), (-687967140, 2), (-662655600, 1), (-620838000, 2), (-608137200, 1),
     (-589388400, 2), (-576082800, 1), (-557938800, 2), (-544633200, 1), (-526489200, 2), (-513183600, 1),
     (-495039600, 2), (-481734000, 1), (-463590000, 2), (-450284400, 1), (-431535600, 2), (-418230000, 1),
     (-400086000, 2), (-386780400, 1), (-368636400, 2), (-355330800, 1), (-337186800, 2), (-323881200, 1),
     (-305737200, 2), (-292431600, 1), (-273682800, 2), (-260982000, 1), (-242233200, 2), (-226508400, 1),
     (-210783600, 2), (-195058800, 1), (-179334000, 2), (-163609200, 1), (-147884400, 2), (-131554800, 1),
     (-116434800, 2), (-100105200, 1), (-84376800, 2), (-68655600, 1), (-52927200, 2), (-37206000, 1),
     (-21477600, 2), (-5756400, 1), (9972000, 2), (25693200, 1), (41421600, 2), (57747600, 1), (73476000, 2),
     (89197200, 1), (104925600, 2), (120646800, 1), (126698400, 2), (152096400, 1), (162381600, 2), (183546000, 1),
     (199274400, 2), (215600400, 1), (230724000, 2), (247050000, 1), (262778400, 2), (278499600, 1),
     (294228000, 2), (309949200, 1), (325677600, 2), (341398800, 1), (357127200, 2), (372848400, 1),
     (388576800, 2), (404902800, 1), (420026400, 2), (436352400, 1), (452080800, 2), (467802000, 1),
     (483530400, 2), (499251600, 1), (514980000, 2), (530701200, 1), (544615200, 2), (562150800, 1),
     (576064800, 2), (594205200, 1), (607514400, 2), (625654800, 1), (638964000, 2), (657104400, 1),
     (671018400, 2), (688554000, 1), (702468000, 2), (720003600, 1), (733917600, 2), (752058000, 1),
     (765367200, 2), (783507600, 1), (796816800, 2), (814957200, 1), (828871200, 2), (846406800, 1),
     (860320800, 2), (877856400, 1), (891770400, 2), (909306000, 1), (923220000, 2), (941360400, 1),
     (954669600, 2), (972810000, 1), (986119200, 2), (1004259600, 1), (1018173600, 2), (1035709200, 1),
     (1049623200, 2), (1067158800, 1), (1081072800, 2), (1099213200, 1), (1112522400, 2), (1130662800, 1),
     (1143972000, 2), (1162112400, 1)]
  yearlyFrom := 2007
  yearly := [⟨3, .onOrAfter .sunday 8, 36000, 2⟩, ⟨11, .onOrAfter .sunday 1, 32400, 1⟩]

/-- America/Manaus. -/
def manaus : ZoneTable where
  kinds := [(-14404, "LMT"), (-14400, "-04"), (-10800, "-03")]
  changes :=
    [(-1767211196, 1), (-1206954000, 2), (-1191358800, 1), (-1175371200, 2), (-1159822800, 1), (-633816000, 2),
     (-622065600, 1), (-602280000, 2), (-591829200, 1), (-570744000, 2), (-560206800, 1), (-539121600, 2),
     (-531349200, 1), (-191361600, 2), (-184194000, 1), (-155160000, 2), (-150066000, 1), (-128894400, 2),
     (-121122000, 1), (-99950400, 2), (-89586000, 1), (-68414400, 2), (-57963600, 1), (499752000, 2),
     (511239600, 1), (530596800, 2), (540270000, 1), (562132800, 2), (571201200, 1), (750830400, 2), (761713200, 1)]

/-- America/Mexico_City. -/
def mexicoCity : ZoneTable where
  kinds := [(-23796, "LMT"), (-25200, "MST"), (-21600, "CST"), (-21600, "MDT"), (-18000, "CDT"), (-18000, "CWT")]
  changes :=
    [(-1514715804, 1), (-1343066400, 2), (-1234807200, 1), (-1220461200, 3), (-1207159200, 1), (-1191344400, 2),
     (-975261600, 4), (-963169200, 2), (-917114400, 4), (-907354800, 2), (-821901600, 5), (-810068400, 2),
     (-627501600, 4), (-612990000, 2), (828864000, 4), (846399600, 2), (860313600, 4), (877849200, 2),
     (891763200, 4), (909298800, 2), (923212800, 4), (941353200, 2), (954662400, 4), (972802800, 2),
     (989136000, 4), (1001833200, 2), (1018166400, 4), (1035702000, 2), (1049616000, 4), (1067151600, 2),
     (1081065600, 4), (1099206000, 2), (1112515200, 4), (1130655600, 2), (1143964800, 4), (1162105200, 2),
     (1175414400, 4), (1193554800, 2), (1207468800, 4), (1225004400, 2), (1238918400, 4), (1256454000, 2),
     (1270368000, 4), (1288508400, 2), (1301817600, 4), (1319958000, 2), (1333267200, 4), (1351407600, 2),
     (1365321600, 4), (1382857200, 2), (1396771200, 4), (1414306800, 2), (1428220800, 4), (1445756400, 2),
     (1459670400, 4), (1477810800, 2), (1491120000, 4), (1509260400, 2), (1522569600, 4), (1540710000, 2),
     (1554624000, 4), (1572159600, 2), (1586073600, 4), (1603609200, 2), (1617523200, 4), (1635663600, 2),
     (1648972800, 4), (1667113200, 2)]

/-- America/New_York. -/
def newYork : ZoneTable where
  kinds := [(-17762, "LMT"), (-18000, "EST"), (-14400, "EDT"), (-14400, "EWT"), (-14400, "EPT")]
  changes :=
    [(-2717633038, 1), (-1633280400, 2), (-1615140000, 1), (-1601830800, 2), (-1583690400, 1), (-1570381200, 2),
     (-1551636000, 1), (-1536512400, 2), (-1523210400, 1), (-1504458000, 2), (-1491760800, 1), (-1473008400, 2),
     (-1459706400, 1), (-1441558800, 2), (-1428256800, 1), (-1410109200, 2), (-1396807200, 1), (-1378659600, 2),
     (-1365357600, 1), (-1347210000, 2), (-1333908000, 1), (-1315155600, 2), (-1301853600, 1), (-1283706000, 2),
     (-1270404000, 1), (-1252256400, 2), (-1238954400, 1), (-1220806800, 2), (-1207504800, 1), (-1189357200, 2),
     (-1176055200, 1), (-1157302800, 2), (-1144605600, 1), (-1125853200, 2), (-1112551200, 1), (-1094403600, 2),
     (-1081101600, 1), (-1062954000, 2), (-1049652000, 1), (-1031504400, 2), (-1018202400, 1), (-1000054800, 2),
     (-986752800, 1), (-968000400, 2), (-955303200, 1), (-936550800, 2), (-923248800, 1), (-905101200, 2),
     (-891799200, 1), (-880218000, 3), (-769395600, 4), (-765396000, 1), (-747248400, 2), (-733946400, 1),
     (-715798800, 2), (-702496800, 1), (-684349200, 2), (-671047200, 1), (-652899600, 2), (-639597600, 1),
     (-620845200, 2), (-608148000, 1), (-589395600, 2), (-576093600, 1), (-557946000, 2), (-544644000, 1),
     (-526496400, 2), (-513194400, 1), (-495046800, 2), (-481744800, 1), (-463597200, 2), (-447271200, 1),
     (-431542800, 2), (-415821600, 1), (-400093200, 2), (-384372000, 1), (-368643600, 2), (-352922400, 1),
     (-337194000, 2), (-321472800, 1), (-305744400, 2), (-289418400, 1), (-273690000, 2), (-257968800, 1),
     (-242240400, 2), (-226519200, 1), (-210790800, 2), (-195069600, 1), (-179341200, 2), (-163620000, 1),
     (-147891600, 2), (-131565600, 1), (-116442000, 2), (-100116000, 1), (-84387600, 2), (-68666400, 1),
     (-52938000, 2), (-37216800, 1), (-21488400, 2), (-5767200, 1), (9961200, 2), (25682400, 1), (41410800, 2),
     (57736800, 1), (73465200, 2), (89186400, 1), (104914800, 2), (120636000, 1), (126687600, 2), (152085600, 1),
     (162370800, 2), (183535200, 1), (199263600, 2), (215589600, 1), (230713200, 2), (247039200, 1),
     (262767600, 2), (278488800, 1), (294217200, 2), (309938400, 1), (325666800, 2), (341388000, 1),
     (357116400, 2), (372837600, 1), (388566000, 2), (404892000, 1), (420015600, 2), (436341600, 1),
     (452070000, 2), (467791200, 1), (483519600, 2), (499240800, 1), (514969200, 2), (530690400, 1),
     (544604400, 2), (562140000, 1), (576054000, 2), (594194400, 1), (607503600, 2), (625644000, 1),
     (638953200, 2), (657093600, 1), (671007600, 2), (688543200, 1), (702457200, 2), (719992800, 1),
     (733906800, 2), (752047200, 1), (765356400, 2), (783496800, 1), (796806000, 2), (814946400, 1),
     (828860400, 2), (846396000, 1), (860310000, 2), (877845600, 1), (891759600, 2), (909295200, 1),
     (923209200, 2), (941349600, 1), (954658800, 2), (972799200, 1), (986108400, 2), (1004248800, 1),
     (1018162800, 2), (1035698400, 1), (1049612400, 2), (1067148000, 1), (1081062000, 2), (1099202400, 1),
     (1112511600, 2), (1130652000, 1), (1143961200, 2), (1162101600, 1)]
  yearlyFrom := 2007
  yearly := [⟨3, .onOrAfter .sunday 8, 25200, 2⟩, ⟨11, .onOrAfter .sunday 1, 21600, 1⟩]

/-- America/Sao_Paulo. -/
def saoPaulo : ZoneTable where
  kinds := [(-11188, "LMT"), (-10800, "-03"), (-7200, "-02")]
  changes :=
    [(-1767214412, 1), (-1206957600, 2), (-1191362400, 1), (-1175374800, 2), (-1159826400, 1), (-633819600, 2),
     (-622069200, 1), (-602283600, 2), (-591832800, 1), (-570747600, 2), (-560210400, 1), (-539125200, 2),
     (-531352800, 1), (-195426000, 2), (-184197600, 1), (-155163600, 2), (-150069600, 1), (-128898000, 2),
     (-121125600, 1), (-99954000, 2), (-89589600, 1), (-68418000, 2), (-57967200, 1), (499748400, 2),
     (511236000, 1), (530593200, 2), (540266400, 1), (562129200, 2), (571197600, 1), (592974000, 2),
     (602042400, 1), (624423600, 2), (634701600, 1), (656478000, 2), (666756000, 1), (687927600, 2),
     (697600800, 1), (719982000, 2), (728445600, 1), (750826800, 2), (761709600, 1), (782276400, 2),
     (793159200, 1), (813726000, 2), (824004000, 1), (844570800, 2), (856058400, 1), (876106800, 2),
     (888717600, 1), (908074800, 2), (919562400, 1), (938919600, 2), (951616800, 1), (970974000, 2),
     (982461600, 1), (1003028400, 2), (1013911200, 1), (1036292400, 2), (1045360800, 1), (1066532400, 2),
     (1076810400, 1), (1099364400, 2), (1108864800, 1), (1129431600, 2), (1140314400, 1), (1162695600, 2),
     (1172368800, 1), (1192330800, 2), (1203213600, 1), (1224385200, 2), (1234663200, 1), (1255834800, 2),
     (1266717600, 1), (1287284400, 2), (1298167200, 1), (1318734000, 2), (1330221600, 1), (1350788400, 2),
     (1361066400, 1), (1382238000, 2), (1392516000, 1), (1413687600, 2), (1424570400, 1), (1445137200, 2),
     (1456020000, 1), (1476586800, 2), (1487469600, 1), (1508036400, 2), (1518919200, 1), (1541300400, 2),
     (1550368800, 1)]

/-- America/St_Johns. -/
def stJohns : ZoneTable where
  kinds :=
    [(-12652, "LMT"), (-12652, "NST"), (-9052, "NDT"), (-12600, "NST"), (-9000, "NDT"), (-9000, "NWT"),
     (-9000, "NPT"), (-5400, "NDDT")]
  changes :=
    [(-2713897748, 1), (-1664130548, 2), (-1650137348, 1), (-1632076148, 2), (-1615145348, 1), (-1598650148, 2),
     (-1590100148, 1), (-1567286948, 2), (-1551565748, 1), (-1535837348, 2), (-1520116148, 1), (-1503782948, 2),
     (-1488666548, 1), (-1472333348, 2), (-1457216948, 1), (-1440883748, 2), (-1425767348, 1), (-1409434148, 2),
     (-1394317748, 1), (-1377984548, 2), (-1362263348, 1), (-1346534948, 2), (-1330813748, 1), (-1314480548, 2),
     (-1299364148, 1), (-1283030948, 2), (-1267914548, 1), (-1251581348, 2), (-1236464948, 1), (-1220131748, 2),
     (-1205015348, 1), (-1188682148, 2), (-1172960948, 1), (-1156627748, 2), (-1141511348, 1), (-1125178148, 2),
     (-1110061748, 1), (-1096921748, 3), (-1093728600, 4), (-1078612200, 3), (-1061670600, 4), (-1048973400, 3),
     (-1030221000, 4), (-1017523800, 3), (-998771400, 4), (-986074200, 3), (-966717000, 4), (-954624600, 3),
     (-935267400, 4), (-922570200, 3), (-903817800, 4), (-891120600, 3), (-872368200, 5), (-769395600, 6),
     (-765401400, 3), (-746044200, 4), (-733347000, 3), (-714594600, 4), (-701897400, 3), (-683145000, 4),
     (-670447800, 3), (-651695400, 4), (-638998200, 3), (-619641000, 4), (-606943800, 3), (-589401000, 4),
     (-576099000, 3), (-557951400, 4), (-544649400, 3), (-526501800, 4), (-513199800, 3), (-495052200, 4),
     (-481750200, 3), (-463602600, 4), (-450300600, 3), (-431548200, 4), (-418246200, 3), (-400098600, 4),
     (-386796600, 3), (-368649000, 4), (-355347000, 3), (-337199400, 4), (-323897400, 3), (-305749800, 4),
     (-289423800, 3), (-273695400, 4), (-257974200, 3), (-242245800, 4), (-226524600, 3), (-210796200, 4),
     (-195075000, 3), (-179346600, 4), (-163625400, 3), (-147897000, 4), (-131571000, 3), (-116447400, 4),
     (-100121400, 3), (-84393000, 4), (-68671800, 3), (-52943400, 4), (-37222200, 3), (-21493800, 4),
     (-5772600, 3), (9955800, 4), (25677000, 3), (41405400, 4), (57731400, 3), (73459800, 4), (89181000, 3),
     (104909400, 4), (120630600, 3), (136359000, 4), (152080200, 3), (167808600, 4), (183529800, 3),
     (199258200, 4), (215584200, 3), (230707800, 4), (247033800, 3), (262762200, 4), (278483400, 3),
     (294211800, 4), (309933000, 3), (325661400, 4), (341382600, 3), (357111000, 4), (372832200, 3),
     (388560600, 4), (404886600, 3), (420010200, 4), (436336200, 3), (452064600, 4), (467785800, 3),
     (483514200, 4), (499235400, 3), (514963800, 4), (530685000, 3), (544591860, 4), (562127460, 3),
     (576041460, 7), (594178260, 3), (607491060, 4), (625631460, 3), (638940660, 4), (657081060, 3),
     (670995060, 4), (688530660, 3), (702444660, 4), (719980260, 3), (733894260, 4), (752034660, 3),
     (765343860, 4), (783484260, 3), (796793460, 4), (814933860, 3), (828847860, 4), (846383460, 3),
     (860297460, 4), (877833060, 3), (891747060, 4), (909282660, 3), (923196660, 4), (941337060, 3),
     (954646260, 4), (972786660, 3), (986095860, 4), (1004236260, 3), (1018150260, 4), (1035685860, 3),
     (1049599860, 4), (1067135460, 3), (1081049460, 4), (1099189860, 3), (1112499060, 4), (1130639460, 3),
     (1143948660, 4), (1162089060, 3), (1173583860, 4), (1194143460, 3), (1205033460, 4), (1225593060, 3),
     (1236483060, 4), (1257042660, 3), (1268537460, 4), (1289097060, 3), (1299987060, 4), (1320553800, 3)]
  yearlyFrom := 2012
  yearly := [⟨3, .onOrAfter .sunday 8, 19800, 4⟩, ⟨11, .onOrAfter .sunday 1, 16200, 3⟩]

/-- America/Whitehorse. -/
def whitehorse : ZoneTable where
  kinds :=
    [(-32412, "LMT"), (-32400, "YST"), (-28800, "YDT"), (-28800, "YWT"), (-28800, "YPT"), (-25200, "YDDT"),
     (-28800, "PST"), (-25200, "PDT"), (-25200, "MST")]
  changes :=
    [(-2188997988, 1), (-1632056400, 2), (-1615125600, 1), (-1596978000, 2), (-1583164800, 1), (-880203600, 3),
     (-769395600, 4), (-765381600, 1), (-147884400, 5), (-131554800, 1), (-121273200, 6), (325677600, 7),
     (341398800, 6), (357127200, 7), (372848400, 6), (388576800, 7), (404902800, 6), (420026400, 7),
     (436352400, 6), (452080800, 7), (467802000, 6), (483530400, 7), (499251600, 6), (514980000, 7),
     (530701200, 6), (544615200, 7), (562150800, 6), (576064800, 7), (594205200, 6), (607514400, 7),
     (625654800, 6), (638964000, 7), (657104400, 6), (671018400, 7), (688554000, 6), (702468000, 7),
     (720003600, 6), (733917600, 7), (752058000, 6), (765367200, 7), (783507600, 6), (796816800, 7),
     (814957200, 6), (828871200, 7), (846406800, 6), (860320800, 7), (877856400, 6), (891770400, 7),
     (909306000, 6), (923220000, 7), (941360400, 6), (954669600, 7), (972810000, 6), (986119200, 7),
     (1004259600, 6), (1018173600, 7), (1035709200, 6), (1049623200, 7), (1067158800, 6), (1081072800, 7),
     (1099213200, 6), (1112522400, 7), (1130662800, 6), (1143972000, 7), (1162112400, 6), (1173607200, 7),
     (1194166800, 6), (1205056800, 7), (1225616400, 6), (1236506400, 7), (1257066000, 6), (1268560800, 7),
     (1289120400, 6), (1300010400, 7), (1320570000, 6), (1331460000, 7), (1352019600, 6), (1362909600, 7),
     (1383469200, 6), (1394359200, 7), (1414918800, 6), (1425808800, 7), (1446368400, 6), (1457863200, 7),
     (1478422800, 6), (1489312800, 7), (1509872400, 6), (1520762400, 7), (1541322000, 6), (1552212000, 7),
     (1572771600, 6), (1583661600, 7), (1604214000, 8)]

end Glossa.ZoneTable
