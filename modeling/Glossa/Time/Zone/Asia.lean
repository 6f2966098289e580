import Glossa.Time.Zone.Table

/-!
# Zone tables of Asia

The changes of clocks up to the year 2099, from local mean time on.
-/

namespace Glossa.ZoneTable

/-- Asia/Kathmandu. -/
def kathmandu : ZoneTable where
  kinds := [(20476, "LMT"), (19800, "+0530"), (20700, "+0545")]
  changes :=
    [(-1577943676, 1), (504901800, 2)]

/-- Asia/Kolkata. -/
def kolkata : ZoneTable where
  kinds := [(21208, "LMT"), (21200, "HMT"), (19270, "MMT"), (19800, "IST"), (23400, "+0630")]
  changes :=
    [(-3645237208, 1), (-3155694800, 2), (-2019705670, 3), (-891581400, 4), (-872058600, 3), (-862637400, 4),
     (-764145000, 3)]

/-- Asia/Shanghai. -/
def shanghai : ZoneTable where
  kinds := [(29143, "LMT"), (28800, "CST"), (32400, "CDT")]
  changes :=
    [(-2177481943, 1), (-1600675200, 2), (-1585904400, 1), (-933667200, 2), (-922093200, 1), (-908870400, 2),
     (-888829200, 1), (-881049600, 2), (-767869200, 1), (-745833600, 2), (-733827600, 1), (-716889600, 2),
     (-699613200, 1), (-683884800, 2), (-670669200, 1), (-652348800, 2), (-650019600, 1), (515527200, 2),
     (527014800, 1), (545162400, 2), (558464400, 1), (577216800, 2), (589914000, 1), (608666400, 2),
     (621968400, 1), (640116000, 2), (653418000, 1), (671565600, 2), (684867600, 1)]

/-- Asia/Tehran. -/
def tehran : ZoneTable where
  kinds := [(12344, "LMT"), (12344, "TMT"), (12600, "+0330"), (16200, "+0430"), (14400, "+04"), (18000, "+05")]
  changes :=
    [(-1704165944, 1), (-1090466744, 2), (227820600, 3), (246223800, 4), (259617600, 5), (271108800, 4),
     (283982400, 2), (296598600, 3), (306531000, 2), (322432200, 3), (338499000, 2), (673216200, 3),
     (685481400, 2), (701209800, 3), (717103800, 2), (732745800, 3), (748639800, 2), (764281800, 3),
     (780175800, 2), (795817800, 3), (811711800, 2), (827353800, 3), (843247800, 2), (858976200, 3),
     (874870200, 2), (890512200, 3), (906406200, 2), (922048200, 3), (937942200, 2), (953584200, 3),
     (969478200, 2), (985206600, 3), (1001100600, 2), (1016742600, 3), (1032636600, 2), (1048278600, 3),
     (1064172600, 2), (1079814600, 3), (1095708600, 2), (1111437000, 3), (1127331000, 2), (1206045000, 3),
     (1221939000, 2), (1237667400, 3), (1253561400, 2), (1269203400, 3), (1285097400, 2), (1300739400, 3),
     (1316633400, 2), (1332275400, 3), (1348169400, 2), (1363897800, 3), (1379791800, 2), (1395433800, 3),
     (1411327800, 2), (1426969800, 3), (1442863800, 2), (1458505800, 3), (1474399800, 2), (1490128200, 3),
     (1506022200, 2), (1521664200, 3), (1537558200, 2), (1553200200, 3), (1569094200, 2), (1584736200, 3),
     (1600630200, 2), (1616358600, 3), (1632252600, 2), (1647894600, 3), (1663788600, 2)]

/-- Asia/Tokyo. -/
def tokyo : ZoneTable where
  kinds := [(33539, "LMT"), (32400, "JST"), (36000, "JDT")]
  changes :=
    [(-2587745939, 1), (-683802000, 2), (-672310800, 1), (-654771600, 2), (-640861200, 1), (-620298000, 2),
     (-609411600, 1), (-588848400, 2), (-577962000, 1)]

end Glossa.ZoneTable
