import Glossa.Time.Zone.Table

/-!
# Zone tables of Europe

The changes of clocks up to the year 2099, from local mean time on.
-/

namespace Glossa.ZoneTable

/-- Europe/Berlin. -/
def berlin : ZoneTable where
  kinds := [(3208, "LMT"), (3600, "CET"), (7200, "CEST"), (10800, "CEMT")]
  changes :=
    [(-2422054408, 1), (-1693706400, 2), (-1680483600, 1), (-1663455600, 2), (-1650150000, 1), (-1632006000, 2),
     (-1618700400, 1), (-938905200, 2), (-857257200, 1), (-844556400, 2), (-828226800, 1), (-812502000, 2),
     (-796777200, 1), (-781052400, 2), (-776563200, 3), (-765936000, 2), (-761180400, 1), (-748479600, 2),
     (-733273200, 1), (-717631200, 2), (-714610800, 3), (-710380800, 2), (-701910000, 1), (-684975600, 2),
     (-670460400, 1), (-654130800, 2), (-639010800, 1), (323830800, 2), (338950800, 1), (354675600, 2),
     (370400400, 1), (386125200, 2), (401850000, 1), (417574800, 2), (433299600, 1), (449024400, 2),
     (465354000, 1), (481078800, 2), (496803600, 1), (512528400, 2), (528253200, 1), (543978000, 2),
     (559702800, 1), (575427600, 2), (591152400, 1), (606877200, 2), (622602000, 1), (638326800, 2),
     (654656400, 1), (670381200, 2), (686106000, 1), (701830800, 2), (717555600, 1), (733280400, 2),
     (749005200, 1), (764730000, 2), (780454800, 1), (796179600, 2), (811904400, 1)]
  yearlyFrom := 1996
  yearly := [⟨3, .last .sunday, 3600, 2⟩, ⟨10, .last .sunday, 3600, 1⟩]

/-- Europe/Brussels. -/
def brussels : ZoneTable where
  kinds := [(1050, "LMT"), (1050, "BMT"), (0, "WET"), (3600, "CET"), (7200, "CEST"), (3600, "WEST")]
  changes :=
    [(-2840141850, 1), (-2450995200, 2), (-1740355200, 3), (-1693702800, 4), (-1680483600, 3), (-1663455600, 4),
     (-1650150000, 3), (-1632006000, 4), (-1618700400, 3), (-1613829600, 2), (-1604278800, 5), (-1585530000, 2),
     (-1574038800, 5), (-1552266000, 2), (-1539997200, 5), (-1520557200, 2), (-1507510800, 5), (-1490576400, 2),
     (-1473642000, 5), (-1459126800, 2), (-1444006800, 5), (-1427677200, 2), (-1411952400, 5), (-1396227600, 2),
     (-1379293200, 5), (-1364778000, 2), (-1348448400, 5), (-1333328400, 2), (-1316394000, 5), (-1301263200, 2),
     (-1284328800, 5), (-1269813600, 2), (-1253484000, 5), (-1238364000, 2), (-1221429600, 5), (-1206914400, 2),
     (-1191189600, 5), (-1175464800, 2), (-1160344800, 5), (-1143410400, 2), (-1127685600, 5), (-1111960800, 2),
     (-1096840800, 5), (-1080511200, 2), (-1063576800, 5), (-1049061600, 2), (-1033336800, 5), (-1017612000, 2),
     (-1002492000, 5), (-986162400, 2), (-969228000, 5), (-950479200, 2), (-942012000, 5), (-934671600, 4),
     (-857257200, 3), (-844556400, 4), (-828226800, 3), (-812502000, 4), (-798073200, 3), (-781052400, 4),
     (-766623600, 3), (-745455600, 4), (-733273200, 3), (228877200, 4), (243997200, 3), (260326800, 4),
     (276051600, 3), (291776400, 4), (307501200, 3), (323830800, 4), (338950800, 3), (354675600, 4),
     (370400400, 3), (386125200, 4), (401850000, 3), (417574800, 4), (433299600, 3), (449024400, 4),
     (465354000, 3), (481078800, 4), (496803600, 3), (512528400, 4), (528253200, 3), (543978000, 4),
     (559702800, 3), (575427600, 4), (591152400, 3), (606877200, 4), (622602000, 3), (638326800, 4),
     (654656400, 3), (670381200, 4), (686106000, 3), (701830800, 4), (717555600, 3), (733280400, 4),
     (749005200, 3), (764730000, 4), (780454800, 3), (796179600, 4), (811904400, 3)]
  yearlyFrom := 1996
  yearly := [⟨3, .last .sunday, 3600, 4⟩, ⟨10, .last .sunday, 3600, 3⟩]

/-- Europe/Dublin. -/
def dublin : ZoneTable where
  kinds := [(-1521, "LMT"), (-1521, "DMT"), (2079, "IST"), (3600, "BST"), (0, "GMT"), (3600, "IST")]
  changes :=
    [(-2821649679, 1), (-1691962479, 2), (-1680474879, 3), (-1680472800, 4), (-1664143200, 3), (-1650146400, 4),
     (-1633903200, 3), (-1617487200, 4), (-1601848800, 3), (-1586037600, 4), (-1570399200, 3), (-1552168800, 4),
     (-1538344800, 3), (-1522533600, 4), (-1507500000, 5), (-1490565600, 4), (-1473631200, 5), (-1460930400, 4),
     (-1442786400, 5), (-1428876000, 4), (-1410732000, 5), (-1396216800, 4), (-1379282400, 5), (-1364767200, 4),
     (-1348437600, 5), (-1333317600, 4), (-1315778400, 5), (-1301263200, 4), (-1284328800, 5), (-1269813600, 4),
     (-1253484000, 5), (-1238364000, 4), (-1221429600, 5), (-1206914400, 4), (-1189980000, 5), (-1175464800, 4),
     (-1159135200, 5), (-1143410400, 4), (-1126476000, 5), (-1111960800, 4), (-1095631200, 5), (-1080511200, 4),
     (-1063576800, 5), (-1049061600, 4), (-1032127200, 5), (-1017612000, 4), (-1001282400, 5), (-986162400, 4),
     (-969228000, 5), (-950479200, 4), (-942012000, 5), (-733359600, 4), (-719445600, 5), (-699490800, 4),
     (-684972000, 5), (-668037600, 4), (-654732000, 5), (-636588000, 4), (-622072800, 5), (-605743200, 4),
     (-590623200, 5), (-574293600, 4), (-558568800, 5), (-542239200, 4), (-527119200, 5), (-512604000, 4),
     (-496274400, 5), (-481154400, 4), (-464220000, 5), (-449704800, 4), (-432165600, 5), (-417650400, 4),
     (-401320800, 5), (-386200800, 4), (-369266400, 5), (-354751200, 4), (-337816800, 5), (-323301600, 4),
     (-306972000, 5), (-291852000, 4), (-276732000, 5), (-257983200, 4), (-245282400, 5), (-226533600, 4),
     (-213228000, 5), (-195084000, 4), (-182383200, 5), (-163634400, 4), (-150933600, 5), (-132184800, 4),
     (-119484000, 5), (-100735200, 4), (-88034400, 5), (-68680800, 4), (-59004000, 5), (57722400, 4),
     (69818400, 5), (89172000, 4), (101268000, 5), (120621600, 4), (132717600, 5), (152071200, 4), (164167200, 5),
     (183520800, 4), (196221600, 5), (214970400, 4), (227671200, 5), (246420000, 4), (259120800, 5),
     (278474400, 4), (290570400, 5), (309924000, 4), (322020000, 5), (341373600, 4), (354675600, 5),
     (372819600, 4), (386125200, 5), (404269200, 4), (417574800, 5), (435718800, 4), (449024400, 5),
     (467773200, 4), (481078800, 5), (499222800, 4), (512528400, 5), (530672400, 4), (543978000, 5),
     (562122000, 4), (575427600, 5), (593571600, 4), (606877200, 5), (625626000, 4), (638326800, 5),
     (657075600, 4), (670381200, 5), (688525200, 4), (701830800, 5), (719974800, 4), (733280400, 5),
     (751424400, 4), (764730000, 5), (782874000, 4), (796179600, 5), (814323600, 4)]
  yearlyFrom := 1996
  yearly := [⟨3, .last .sunday, 3600, 5⟩, ⟨10, .last .sunday, 3600, 4⟩]

/-- Europe/London. -/
def london : ZoneTable where
  kinds := [(-75, "LMT"), (0, "GMT"), (3600, "BST"), (7200, "BDST")]
  changes :=
    [(-3852662325, 1), (-1691964000, 2), (-1680472800, 1), (-1664143200, 2), (-1650146400, 1), (-1633903200, 2),
     (-1617487200, 1), (-1601848800, 2), (-1586037600, 1), (-1570399200, 2), (-1552168800, 1), (-1538344800, 2),
     (-1522533600, 1), (-1507500000, 2), (-1490565600, 1), (-1473631200, 2), (-1460930400, 1), (-1442786400, 2),
     (-1428876000, 1), (-1410732000, 2), (-1396216800, 1), (-1379282400, 2), (-1364767200, 1), (-1348437600, 2),
     (-1333317600, 1), (-1315778400, 2), (-1301263200, 1), (-1284328800, 2), (-1269813600, 1), (-1253484000, 2),
     (-1238364000, 1), (-1221429600, 2), (-1206914400, 1), (-1189980000, 2), (-1175464800, 1), (-1159135200, 2),
     (-1143410400, 1), (-1126476000, 2), (-1111960800, 1), (-1095631200, 2), (-1080511200, 1), (-1063576800, 2),
     (-1049061600, 1), (-1032127200, 2), (-1017612000, 1), (-1001282400, 2), (-986162400, 1), (-969228000, 2),
     (-950479200, 1), (-942012000, 2), (-904518000, 3), (-896050800, 2), (-875487600, 3), (-864601200, 2),
     (-844038000, 3), (-832546800, 2), (-812588400, 3), (-798073200, 2), (-781052400, 3), (-772066800, 2),
     (-764805600, 1), (-748476000, 2), (-733356000, 1), (-719445600, 2), (-717030000, 3), (-706748400, 2),
     (-699487200, 1), (-687996000, 2), (-668037600, 1), (-654732000, 2), (-636588000, 1), (-622072800, 2),
     (-605743200, 1), (-590623200, 2), (-574293600, 1), (-558568800, 2), (-542239200, 1), (-527119200, 2),
     (-512604000, 1), (-496274400, 2), (-481154400, 1), (-464220000, 2), (-449704800, 1), (-432165600, 2),
     (-417650400, 1), (-401320800, 2), (-386200800, 1), (-369266400, 2), (-354751200, 1), (-337816800, 2),
     (-323301600, 1), (-306972000, 2), (-291852000, 1), (-276732000, 2), (-257983200, 1), (-245282400, 2),
     (-226533600, 1), (-213228000, 2), (-195084000, 1), (-182383200, 2), (-163634400, 1), (-150933600, 2),
     (-132184800, 1), (-119484000, 2), (-100735200, 1), (-88034400, 2), (-68680800, 1), (-59004000, 2),
     (57718800, 1), (69818400, 2), (89172000, 1), (101268000, 2), (120621600, 1), (132717600, 2), (152071200, 1),
     (164167200, 2), (183520800, 1), (196221600, 2), (214970400, 1), (227671200, 2), (246420000, 1),
     (259120800, 2), (278474400, 1), (290570400, 2), (309924000, 1), (322020000, 2), (341373600, 1),
     (354675600, 2), (372819600, 1), (386125200, 2), (404269200, 1), (417574800, 2), (435718800, 1),
     (449024400, 2), (467773200, 1), (481078800, 2), (499222800, 1), (512528400, 2), (530672400, 1),
     (543978000, 2), (562122000, 1), (575427600, 2), (593571600, 1), (606877200, 2), (625626000, 1),
     (638326800, 2), (657075600, 1), (670381200, 2), (688525200, 1), (701830800, 2), (719974800, 1),
     (733280400, 2), (751424400, 1), (764730000, 2), (782874000, 1), (796179600, 2), (814323600, 1)]
  yearlyFrom := 1996
  yearly := [⟨3, .last .sunday, 3600, 2⟩, ⟨10, .last .sunday, 3600, 1⟩]

/-- Europe/Madrid. -/
def madrid : ZoneTable where
  kinds := [(-884, "LMT"), (0, "WET"), (3600, "WEST"), (7200, "WEMT"), (3600, "CET"), (7200, "CEST")]
  changes :=
    [(-2177451916, 1), (-1631926800, 2), (-1616889600, 1), (-1601168400, 2), (-1585353600, 1), (-1442451600, 2),
     (-1427673600, 1), (-1379293200, 2), (-1364774400, 1), (-1348448400, 2), (-1333324800, 1), (-1316390400, 2),
     (-1301270400, 1), (-1284339600, 2), (-1269820800, 1), (-1026954000, 2), (-1017619200, 1), (-1001898000, 2),
     (-999482400, 3), (-986090400, 2), (-954115200, 1), (-940208400, 4), (-873079200, 5), (-862621200, 4),
     (-842839200, 5), (-828320400, 4), (-811389600, 5), (-796870800, 4), (-779940000, 5), (-765421200, 4),
     (-748490400, 5), (-733971600, 4), (-652327200, 5), (-639018000, 4), (135122400, 5), (150246000, 4),
     (166572000, 5), (181695600, 4), (196812000, 5), (212540400, 4), (228866400, 5), (243990000, 4),
     (260326800, 5), (276051600, 4), (291776400, 5), (307501200, 4), (323830800, 5), (338950800, 4),
     (354675600, 5), (370400400, 4), (386125200, 5), (401850000, 4), (417574800, 5), (433299600, 4),
     (449024400, 5), (465354000, 4), (481078800, 5), (496803600, 4), (512528400, 5), (528253200, 4),
     (543978000, 5), (559702800, 4), (575427600, 5), (591152400, 4), (606877200, 5), (622602000, 4),
     (638326800, 5), (654656400, 4), (670381200, 5), (686106000, 4), (701830800, 5), (717555600, 4),
     (733280400, 5), (749005200, 4), (764730000, 5), (780454800, 4), (796179600, 5), (811904400, 4)]
  yearlyFrom := 1996
  yearly := [⟨3, .last .sunday, 3600, 5⟩, ⟨10, .last .sunday, 3600, 4⟩]

/-- Europe/Paris. -/
def paris : ZoneTable where
  kinds := [(561, "LMT"), (561, "PMT"), (0, "WET"), (3600, "WEST"), (7200, "CEST"), (3600, "CET"), (7200, "WEMT")]
  changes :=
    [(-2486592561, 1), (-1855958961, 2), (-1689814800, 3), (-1680397200, 2), (-1665363600, 3), (-1648342800, 2),
     (-1635123600, 3), (-1616893200, 2), (-1604278800, 3), (-1585443600, 2), (-1574038800, 3), (-1552266000, 2),
     (-1539997200, 3), (-1520557200, 2), (-1507510800, 3), (-1490576400, 2), (-1470618000, 3), (-1459126800, 2),
     (-1444006800, 3), (-1427677200, 2), (-1411952400, 3), (-1396227600, 2), (-1379293200, 3), (-1364778000, 2),
     (-1348448400, 3), (-1333328400, 2), (-1316394000, 3), (-1301274000, 2), (-1284339600, 3), (-1269824400, 2),
     (-1253494800, 3), (-1238374800, 2), (-1221440400, 3), (-1206925200, 2), (-1191200400, 3), (-1175475600, 2),
     (-1160355600, 3), (-1143421200, 2), (-1127696400, 3), (-1111971600, 2), (-1096851600, 3), (-1080522000, 2),
     (-1063587600, 3), (-1049072400, 2), (-1033347600, 3), (-1017622800, 2), (-1002502800, 3), (-986173200, 2),
     (-969238800, 3), (-950490000, 2), (-942012000, 3), (-932436000, 4), (-857257200, 5), (-844556400, 4),
     (-828226800, 5), (-812502000, 4), (-800071200, 6), (-796266000, 3), (-781052400, 6), (-766623600, 5),
     (196819200, 4), (212540400, 5), (228877200, 4), (243997200, 5), (260326800, 4), (276051600, 5),
     (291776400, 4), (307501200, 5), (323830800, 4), (338950800, 5), (354675600, 4), (370400400, 5),
     (386125200, 4), (401850000, 5), (417574800, 4), (433299600, 5), (449024400, 4), (465354000, 5),
     (481078800, 4), (496803600, 5), (512528400, 4), (528253200, 5), (543978000, 4), (559702800, 5),
     (575427600, 4), (591152400, 5), (606877200, 4), (622602000, 5), (638326800, 4), (654656400, 5),
     (670381200, 4), (686106000, 5), (701830800, 4), (717555600, 5), (733280400, 4), (749005200, 5),
     (764730000, 4), (780454800, 5), (796179600, 4), (811904400, 5)]
  yearlyFrom := 1996
  yearly := [⟨3, .last .sunday, 3600, 4⟩, ⟨10, .last .sunday, 3600, 5⟩]

/-- Europe/Rome. -/
def rome : ZoneTable where
  kinds := [(2996, "LMT"), (2996, "RMT"), (3600, "CET"), (7200, "CEST")]
  changes :=
    [(-3252098996, 1), (-2403568196, 2), (-1690765200, 3), (-1680487200, 2), (-1664758800, 3), (-1648951200, 2),
     (-1635123600, 3), (-1616896800, 2), (-1604278800, 3), (-1585533600, 2), (-1571014800, 3), (-1555293600, 2),
     (-932432400, 3), (-857257200, 2), (-844556400, 3), (-828226800, 2), (-812502000, 3), (-798073200, 2),
     (-781052400, 3), (-766717200, 2), (-750898800, 3), (-733359600, 2), (-719456400, 3), (-701917200, 2),
     (-689209200, 3), (-670460400, 2), (-114051600, 3), (-103168800, 2), (-81997200, 3), (-71715600, 2),
     (-50547600, 3), (-40266000, 2), (-18493200, 3), (-8211600, 2), (12956400, 3), (23238000, 2), (43801200, 3),
     (54687600, 2), (75855600, 3), (86742000, 2), (107910000, 3), (118191600, 2), (138754800, 3), (149641200, 2),
     (170809200, 3), (181090800, 2), (202258800, 3), (212540400, 2), (233103600, 3), (243990000, 2),
     (265158000, 3), (276044400, 2), (296607600, 3), (307494000, 2), (323830800, 3), (338950800, 2),
     (354675600, 3), (370400400, 2), (386125200, 3), (401850000, 2), (417574800, 3), (433299600, 2),
     (449024400, 3), (465354000, 2), (481078800, 3), (496803600, 2), (512528400, 3), (528253200, 2),
     (543978000, 3), (559702800, 2), (575427600, 3), (591152400, 2), (606877200, 3), (622602000, 2),
     (638326800, 3), (654656400, 2), (670381200, 3), (686106000, 2), (701830800, 3), (717555600, 2),
     (733280400, 3), (749005200, 2), (764730000, 3), (780454800, 2), (796179600, 3), (811904400, 2)]
  yearlyFrom := 1996
  yearly := [⟨3, .last .sunday, 3600, 3⟩, ⟨10, .last .sunday, 3600, 2⟩]

/-- Europe/Vienna. -/
def vienna : ZoneTable where
  kinds := [(3921, "LMT"), (3600, "CET"), (7200, "CEST")]
  changes :=
    [(-2422055121, 1), (-1693706400, 2), (-1680483600, 1), (-1663455600, 2), (-1650150000, 1), (-1632006000, 2),
     (-1618700400, 1), (-1569711600, 2), (-1555801200, 1), (-938905200, 2), (-857257200, 1), (-844556400, 2),
     (-828226800, 1), (-812502000, 2), (-796777200, 1), (-781052400, 2), (-780192000, 1), (-748479600, 2),
     (-733273200, 1), (-717634800, 2), (-701910000, 1), (-684975600, 2), (-670460400, 1), (323823600, 2),
     (338940000, 1), (354675600, 2), (370400400, 1), (386125200, 2), (401850000, 1), (417574800, 2),
     (433299600, 1), (449024400, 2), (465354000, 1), (481078800, 2), (496803600, 1), (512528400, 2),
     (528253200, 1), (543978000, 2), (559702800, 1), (575427600, 2), (591152400, 1), (606877200, 2),
     (622602000, 1), (638326800, 2), (654656400, 1), (670381200, 2), (686106000, 1), (701830800, 2),
     (717555600, 1), (733280400, 2), (749005200, 1), (764730000, 2), (780454800, 1), (796179600, 2), (811904400, 1)]
  yearlyFrom := 1996
  yearly := [⟨3, .last .sunday, 3600, 2⟩, ⟨10, .last .sunday, 3600, 1⟩]

/-- Europe/Warsaw. -/
def warsaw : ZoneTable where
  kinds := [(5040, "LMT"), (5040, "WMT"), (3600, "CET"), (7200, "CEST"), (7200, "EET"), (10800, "EEST")]
  changes :=
    [(-2840145840, 1), (-1717032240, 2), (-1693706400, 3), (-1680483600, 2), (-1663455600, 3), (-1650150000, 2),
     (-1632006000, 3), (-1618700400, 4), (-1600473600, 5), (-1587168000, 4), (-1501725600, 2), (-931734000, 3),
     (-857257200, 2), (-844556400, 3), (-828226800, 2), (-812502000, 3), (-796608000, 2), (-778726800, 3),
     (-762660000, 2), (-748486800, 3), (-733273200, 2), (-715215600, 3), (-701910000, 2), (-684975600, 3),
     (-670460400, 2), (-654130800, 3), (-639010800, 2), (-397094400, 3), (-386812800, 2), (-371088000, 3),
     (-355363200, 2), (-334195200, 3), (-323308800, 2), (-307584000, 3), (-291859200, 2), (-271296000, 3),
     (-260409600, 2), (-239846400, 3), (-228960000, 2), (-208396800, 3), (-197510400, 2), (-176342400, 3),
     (-166060800, 2), (228873600, 3), (243993600, 2), (260323200, 3), (276048000, 2), (291772800, 3),
     (307497600, 2), (323827200, 3), (338947200, 2), (354672000, 3), (370396800, 2), (386121600, 3),
     (401846400, 2), (417571200, 3), (433296000, 2), (449020800, 3), (465350400, 2), (481075200, 3),
     (496800000, 2), (512524800, 3), (528249600, 2), (543974400, 3), (559699200, 2), (575427600, 3),
     (591152400, 2), (606877200, 3), (622602000, 2), (638326800, 3), (654656400, 2), (670381200, 3),
     (686106000, 2), (701830800, 3), (717555600, 2), (733280400, 3), (749005200, 2), (764730000, 3),
     (780454800, 2), (796179600, 3), (811904400, 2)]
  yearlyFrom := 1996
  yearly := [⟨3, .last .sunday, 3600, 3⟩, ⟨10, .last .sunday, 3600, 2⟩]

/-- Europe/Zurich. -/
def zurich : ZoneTable where
  kinds := [(2048, "LMT"), (1786, "BMT"), (3600, "CET"), (7200, "CEST")]
  changes :=
    [(-3675198848, 1), (-2385246586, 2), (-904435200, 3), (-891129600, 2), (-872985600, 3), (-859680000, 2),
     (354675600, 3), (370400400, 2), (386125200, 3), (401850000, 2), (417574800, 3), (433299600, 2),
     (449024400, 3), (465354000, 2), (481078800, 3), (496803600, 2), (512528400, 3), (528253200, 2),
     (543978000, 3), (559702800, 2), (575427600, 3), (591152400, 2), (606877200, 3), (622602000, 2),
     (638326800, 3), (654656400, 2), (670381200, 3), (686106000, 2), (701830800, 3), (717555600, 2),
     (733280400, 3), (749005200, 2), (764730000, 3), (780454800, 2), (796179600, 3), (811904400, 2)]
  yearlyFrom := 1996
  yearly := [⟨3, .last .sunday, 3600, 3⟩, ⟨10, .last .sunday, 3600, 2⟩]

end Glossa.ZoneTable
