/-
The time zones known by name.

A table lists the instants at which the clock of a zone was changed and the offset from then on, the last
years of it as yearly rules.
-/
import Reshape.Time.Zone.Basic

namespace Reshape.Zone

/-- Central time of the United States. -/
def americaChicago : Zone := .ofTable "America/Chicago" (-21036)
    "-2717647200:-21600 -1633276800:-18000 -1615136400:-21600 -1601827200:-18000 -1583686800:-21600
    -1563724800:-18000 -1551632400:-21600 -1538928000:-18000 -1520182800:-21600 -1504454400:-18000
    -1491757200:-21600 -1473004800:-18000 -1459702800:-21600 -1441555200:-18000 -1428253200:-21600
    -1410105600:-18000 -1396803600:-21600 -1378656000:-18000 -1365354000:-21600 -1347206400:-18000
    -1333904400:-21600 -1315152000:-18000 -1301850000:-21600 -1283702400:-18000 -1270400400:-21600
    -1252252800:-18000 -1238950800:-21600 -1220803200:-18000 -1207501200:-21600 -1189353600:-18000
    -1176051600:-21600 -1157299200:-18000 -1144602000:-21600 -1125849600:-18000 -1112547600:-21600
    -1094400000:-18000 -1081098000:-21600 -1067788800:-18000 -1045414800:-21600 -1031500800:-18000
    -1018198800:-21600 -1000051200:-18000 -986749200:-21600 -967996800:-18000 -955299600:-21600
    -936547200:-18000 -923245200:-21600 -905097600:-18000 -891795600:-21600 -880214400:-18000
    -765392400:-21600 -747244800:-18000 -733942800:-21600 -715795200:-18000 -702493200:-21600
    -684345600:-18000 -671043600:-21600 -652896000:-18000 -639594000:-21600 -620841600:-18000
    -608144400:-21600 -589392000:-18000 -576090000:-21600 -557942400:-18000 -544640400:-21600
    -526492800:-18000 -513190800:-21600 -495043200:-18000 -481741200:-21600 -463593600:-18000
    -447267600:-21600 -431539200:-18000 -415818000:-21600 -400089600:-18000 -384368400:-21600
    -368640000:-18000 -352918800:-21600 -337190400:-18000 -321469200:-21600 -305740800:-18000
    -289414800:-21600 -273686400:-18000 -257965200:-21600 -242236800:-18000 -226515600:-21600
    -210787200:-18000 -195066000:-21600 -179337600:-18000 -163616400:-21600 -147888000:-18000
    -131562000:-21600 -116438400:-18000 -100112400:-21600 -84384000:-18000 -68662800:-21600
    -52934400:-18000 -37213200:-21600 -21484800:-18000 -5763600:-21600 9964800:-18000
    25686000:-21600 41414400:-18000 57740400:-21600 73468800:-18000 89190000:-21600 104918400:-18000
    120639600:-21600 126691200:-18000 152089200:-21600 162374400:-18000 183538800:-21600
    199267200:-18000 215593200:-21600 230716800:-18000 247042800:-21600 262771200:-18000
    278492400:-21600 294220800:-18000 309942000:-21600 325670400:-18000 341391600:-21600
    357120000:-18000 372841200:-21600 388569600:-18000 404895600:-21600 420019200:-18000
    436345200:-21600 452073600:-18000 467794800:-21600 483523200:-18000 499244400:-21600
    514972800:-18000 530694000:-21600 544608000:-18000 562143600:-21600 576057600:-18000
    594198000:-21600 607507200:-18000 625647600:-21600 638956800:-18000 657097200:-21600
    671011200:-18000 688546800:-21600 702460800:-18000 719996400:-21600 733910400:-18000
    752050800:-21600 765360000:-18000 783500400:-21600 796809600:-18000 814950000:-21600
    828864000:-18000 846399600:-21600 860313600:-18000 877849200:-21600 891763200:-18000
    909298800:-21600 923212800:-18000 941353200:-21600 954662400:-18000 972802800:-21600
    986112000:-18000 1004252400:-21600 1018166400:-18000 1035702000:-21600 1049616000:-18000
    1067151600:-21600 1081065600:-18000 1099206000:-21600 1112515200:-18000 1130655600:-21600
    1143964800:-18000 1162105200:-21600"
    2007 [⟨3, 2, 28800, -18000⟩, ⟨11, 1, 25200, -21600⟩]

/-- Eastern time of the United States. -/
def americaNewYork : Zone := .ofTable "America/New_York" (-17762)
    "-2717650800:-18000 -1633280400:-14400 -1615140000:-18000 -1601830800:-14400 -1583690400:-18000
    -1570381200:-14400 -1551636000:-18000 -1536512400:-14400 -1523210400:-18000 -1504458000:-14400
    -1491760800:-18000 -1473008400:-14400 -1459706400:-18000 -1441558800:-14400 -1428256800:-18000
    -1410109200:-14400 -1396807200:-18000 -1378659600:-14400 -1365357600:-18000 -1347210000:-14400
    -1333908000:-18000 -1315155600:-14400 -1301853600:-18000 -1283706000:-14400 -1270404000:-18000
    -1252256400:-14400 -1238954400:-18000 -1220806800:-14400 -1207504800:-18000 -1189357200:-14400
    -1176055200:-18000 -1157302800:-14400 -1144605600:-18000 -1125853200:-14400 -1112551200:-18000
    -1094403600:-14400 -1081101600:-18000 -1062954000:-14400 -1049652000:-18000 -1031504400:-14400
    -1018202400:-18000 -1000054800:-14400 -986752800:-18000 -968000400:-14400 -955303200:-18000
    -936550800:-14400 -923248800:-18000 -905101200:-14400 -891799200:-18000 -880218000:-14400
    -765396000:-18000 -747248400:-14400 -733946400:-18000 -715798800:-14400 -702496800:-18000
    -684349200:-14400 -671047200:-18000 -652899600:-14400 -639597600:-18000 -620845200:-14400
    -608148000:-18000 -589395600:-14400 -576093600:-18000 -557946000:-14400 -544644000:-18000
    -526496400:-14400 -513194400:-18000 -495046800:-14400 -481744800:-18000 -463597200:-14400
    -447271200:-18000 -431542800:-14400 -415821600:-18000 -400093200:-14400 -384372000:-18000
    -368643600:-14400 -352922400:-18000 -337194000:-14400 -321472800:-18000 -305744400:-14400
    -289418400:-18000 -273690000:-14400 -257968800:-18000 -242240400:-14400 -226519200:-18000
    -210790800:-14400 -195069600:-18000 -179341200:-14400 -163620000:-18000 -147891600:-14400
    -131565600:-18000 -116442000:-14400 -100116000:-18000 -84387600:-14400 -68666400:-18000
    -52938000:-14400 -37216800:-18000 -21488400:-14400 -5767200:-18000 9961200:-14400
    25682400:-18000 41410800:-14400 57736800:-18000 73465200:-14400 89186400:-18000 104914800:-14400
    120636000:-18000 126687600:-14400 152085600:-18000 162370800:-14400 183535200:-18000
    199263600:-14400 215589600:-18000 230713200:-14400 247039200:-18000 262767600:-14400
    278488800:-18000 294217200:-14400 309938400:-18000 325666800:-14400 341388000:-18000
    357116400:-14400 372837600:-18000 388566000:-14400 404892000:-18000 420015600:-14400
    436341600:-18000 452070000:-14400 467791200:-18000 483519600:-14400 499240800:-18000
    514969200:-14400 530690400:-18000 544604400:-14400 562140000:-18000 576054000:-14400
    594194400:-18000 607503600:-14400 625644000:-18000 638953200:-14400 657093600:-18000
    671007600:-14400 688543200:-18000 702457200:-14400 719992800:-18000 733906800:-14400
    752047200:-18000 765356400:-14400 783496800:-18000 796806000:-14400 814946400:-18000
    828860400:-14400 846396000:-18000 860310000:-14400 877845600:-18000 891759600:-14400
    909295200:-18000 923209200:-14400 941349600:-18000 954658800:-14400 972799200:-18000
    986108400:-14400 1004248800:-18000 1018162800:-14400 1035698400:-18000 1049612400:-14400
    1067148000:-18000 1081062000:-14400 1099202400:-18000 1112511600:-14400 1130652000:-18000
    1143961200:-14400 1162101600:-18000"
    2007 [⟨3, 2, 25200, -14400⟩, ⟨11, 1, 21600, -18000⟩]

/-- Brasília time. -/
def americaSaoPaulo : Zone := .ofTable "America/Sao_Paulo" (-11188)
    "-1767214412:-10800 -1206957600:-7200 -1191362400:-10800 -1175374800:-7200 -1159826400:-10800
    -633819600:-7200 -622069200:-10800 -602283600:-7200 -591832800:-10800 -570747600:-7200
    -560210400:-10800 -539125200:-7200 -531352800:-10800 -195426000:-7200 -184197600:-10800
    -155163600:-7200 -150069600:-10800 -128898000:-7200 -121125600:-10800 -99954000:-7200
    -89589600:-10800 -68418000:-7200 -57967200:-10800 499748400:-7200 511236000:-10800
    530593200:-7200 540266400:-10800 562129200:-7200 571197600:-10800 592974000:-7200
    602042400:-10800 624423600:-7200 634701600:-10800 656478000:-7200 666756000:-10800
    687927600:-7200 697600800:-10800 719982000:-7200 728445600:-10800 750826800:-7200
    761709600:-10800 782276400:-7200 793159200:-10800 813726000:-7200 824004000:-10800
    844570800:-7200 856058400:-10800 876106800:-7200 888717600:-10800 908074800:-7200
    919562400:-10800 938919600:-7200 951616800:-10800 970974000:-7200 982461600:-10800
    1003028400:-7200 1013911200:-10800 1036292400:-7200 1045360800:-10800 1066532400:-7200
    1076810400:-10800 1099364400:-7200 1108864800:-10800 1129431600:-7200 1140314400:-10800
    1162695600:-7200 1172368800:-10800 1192330800:-7200 1203213600:-10800 1224385200:-7200
    1234663200:-10800 1255834800:-7200 1266717600:-10800 1287284400:-7200 1298167200:-10800
    1318734000:-7200 1330221600:-10800 1350788400:-7200 1361066400:-10800 1382238000:-7200
    1392516000:-10800 1413687600:-7200 1424570400:-10800 1445137200:-7200 1456020000:-10800
    1476586800:-7200 1487469600:-10800 1508036400:-7200 1518919200:-10800 1541300400:-7200
    1550368800:-10800"
    0 []

/-- India. -/
def asiaCalcutta : Zone := .ofTable "Asia/Calcutta" (21208)
    "-3645237208:21200 -3155694800:19270 -2019705670:19800 -891581400:23400 -872058600:19800
    -862637400:23400 -764145000:19800"
    0 []

/-- Nepal. -/
def asiaKathmandu : Zone := .ofTable "Asia/Kathmandu" (20476)
    "-1577943676:19800 504901800:20700"
    0 []

/-- China. -/
def asiaShanghai : Zone := .ofTable "Asia/Shanghai" (29143)
    "-2177481943:28800 -1600675200:32400 -1585904400:28800 -933667200:32400 -922093200:28800
    -908870400:32400 -888829200:28800 -881049600:32400 -767869200:28800 -745833600:32400
    -733827600:28800 -716889600:32400 -699613200:28800 -683884800:32400 -670669200:28800
    -652348800:32400 -650019600:28800 515527200:32400 527014800:28800 545162400:32400
    558464400:28800 577216800:32400 589914000:28800 608666400:32400 621968400:28800 640116000:32400
    653418000:28800 671565600:32400 684867600:28800"
    0 []

/-- Japan. -/
def asiaTokyo : Zone := .ofTable "Asia/Tokyo" (33539)
    "-2587712400:32400 -683802000:36000 -672310800:32400 -654771600:36000 -640861200:32400
    -620298000:36000 -609411600:32400 -588848400:36000 -577962000:32400"
    0 []

/-- Lord Howe Island, whose summer time is half an hour. -/
def australiaLordHowe : Zone := .ofTable "Australia/Lord_Howe" (38180)
    "-2364114980:36000 352216800:37800 372785400:41400 384273000:37800 404839800:41400
    415722600:37800 436289400:41400 447172200:37800 467739000:41400 478621800:37800 499188600:39600
    511282800:37800 530033400:39600 542732400:37800 562087800:39600 574786800:37800 594142200:39600
    606236400:37800 625591800:39600 636476400:37800 657041400:39600 667926000:37800 688491000:39600
    699375600:37800 719940600:39600 731430000:37800 751995000:39600 762879600:37800 783444600:39600
    794329200:37800 814894200:39600 828198000:37800 846343800:39600 859647600:37800 877793400:39600
    891097200:37800 909243000:39600 922546800:37800 941297400:39600 953996400:37800 967303800:39600
    985446000:37800 1004196600:39600 1017500400:37800 1035646200:39600 1048950000:37800
    1067095800:39600 1080399600:37800 1099150200:39600 1111849200:37800 1130599800:39600
    1143903600:37800 1162049400:39600 1174748400:37800 1193499000:39600"
    2008 [⟨4, 1, -32400, 37800⟩, ⟨10, 1, -30600, 39600⟩]

/-- Germany. -/
def europeBerlin : Zone := .ofTable "Europe/Berlin" (3208)
    "-2422054408:3600 -1693706400:7200 -1680483600:3600 -1663455600:7200 -1650150000:3600
    -1632006000:7200 -1618700400:3600 -938905200:7200 -857257200:3600 -844556400:7200
    -828226800:3600 -812502000:7200 -796777200:3600 -781052400:7200 -776563200:10800 -765936000:7200
    -761180400:3600 -748479600:7200 -733273200:3600 -717631200:7200 -714610800:10800 -710380800:7200
    -701910000:3600 -684975600:7200 -670460400:3600 -654130800:7200 -639010800:3600 323830800:7200
    338950800:3600 354675600:7200 370400400:3600 386125200:7200 401850000:3600 417574800:7200
    433299600:3600 449024400:7200 465354000:3600 481078800:7200 496803600:3600 512528400:7200
    528253200:3600 543978000:7200 559702800:3600 575427600:7200 591152400:3600 606877200:7200
    622602000:3600 638326800:7200 654656400:3600 670381200:7200 686106000:3600 701830800:7200
    717555600:3600 733280400:7200 749005200:3600 764730000:7200 780454800:3600 796179600:7200
    811904400:3600"
    1996 [⟨3, 5, 3600, 7200⟩, ⟨10, 5, 3600, 3600⟩]

/-- France. -/
def europeParis : Zone := .ofTable "Europe/Paris" (561)
    "-1855958961:0 -1689814800:3600 -1680397200:0 -1665363600:3600 -1648342800:0 -1635123600:3600
    -1616893200:0 -1604278800:3600 -1585443600:0 -1574038800:3600 -1552266000:0 -1539997200:3600
    -1520557200:0 -1507510800:3600 -1490576400:0 -1470618000:3600 -1459126800:0 -1444006800:3600
    -1427677200:0 -1411952400:3600 -1396227600:0 -1379293200:3600 -1364778000:0 -1348448400:3600
    -1333328400:0 -1316394000:3600 -1301274000:0 -1284339600:3600 -1269824400:0 -1253494800:3600
    -1238374800:0 -1221440400:3600 -1206925200:0 -1191200400:3600 -1175475600:0 -1160355600:3600
    -1143421200:0 -1127696400:3600 -1111971600:0 -1096851600:3600 -1080522000:0 -1063587600:3600
    -1049072400:0 -1033347600:3600 -1017622800:0 -1002502800:3600 -986173200:0 -969238800:3600
    -950490000:0 -942012000:3600 -932436000:7200 -857257200:3600 -844556400:7200 -828226800:3600
    -812502000:7200 -796266000:3600 -781052400:7200 -766623600:3600 196819200:7200 212540400:3600
    228877200:7200 243997200:3600 260326800:7200 276051600:3600 291776400:7200 307501200:3600
    323830800:7200 338950800:3600 354675600:7200 370400400:3600 386125200:7200 401850000:3600
    417574800:7200 433299600:3600 449024400:7200 465354000:3600 481078800:7200 496803600:3600
    512528400:7200 528253200:3600 543978000:7200 559702800:3600 575427600:7200 591152400:3600
    606877200:7200 622602000:3600 638326800:7200 654656400:3600 670381200:7200 686106000:3600
    701830800:7200 717555600:3600 733280400:7200 749005200:3600 764730000:7200 780454800:3600
    796179600:7200 811904400:3600"
    1996 [⟨3, 5, 3600, 7200⟩, ⟨10, 5, 3600, 3600⟩]

/-- Samoa, which crossed the date line at the end of 2011. -/
def pacificApia : Zone := .ofTable "Pacific/Apia" (45184)
    "-2445424384:-41216 -1861878784:-41400 -631110600:-39600 1285498800:-36000 1301752800:-39600
    1316872800:-36000 1325239200:50400 1333202400:46800 1348927200:50400 1365256800:46800
    1380376800:50400 1396706400:46800 1411826400:50400 1428156000:46800 1443276000:50400
    1459605600:46800 1474725600:50400 1491055200:46800 1506175200:50400 1522504800:46800
    1538229600:50400 1554559200:46800 1569679200:50400 1586008800:46800 1601128800:50400
    1617458400:46800"
    0 []

/-- Every zone, by name. -/
def all : List Zone :=
  [americaChicago, americaNewYork, americaSaoPaulo, asiaCalcutta, asiaKathmandu, asiaShanghai, asiaTokyo,
    australiaLordHowe, europeBerlin, europeParis, pacificApia,
    { americaNewYork with name := "US/Eastern" },
    fixed "EST" (-18000), fixed "Etc/GMT+5" (-18000), fixed "GMT" 0, fixed "UTC" 0]

/-- The zone of a name, in which case matters. -/
def find? (name : String) : Option Zone :=
  all.find? fun z => z.name == name

end Reshape.Zone
