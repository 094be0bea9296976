/-!
# Records of the tz database

One record per zone of the tz database (release 2026a, with the historical data of its
`backzone` file), written `names|first|offsets|changes|rule`:

* `names`: the zone's name, then the names that link to it, separated by spaces;
* `first`: the kind in force before the first change;
* `offsets`: the offset of each kind, in seconds east of UTC, numbered from 0;
* `changes`: each change as `instant:kind`, the instant in Unix seconds, ascending;
* `rule`: the POSIX rule for every instant from the last change on (empty when there is none).

British Columbia keeps UTC-7 the whole year after its change of 8 March 2026.
-/

namespace HostDispatch

namespace ZoneTable

/-- The zone records, one string per zone, in the order of their names. -/
def records : List String :=
  [ "Africa/Abidjan|0|-968 0|-1830383032:1|GMT0"
  , "Africa/Accra|0|-52 1200 0 1800|-1709337548:2 -1581206400:1 -1577917200:2 -1556834400:1 -1546294800:2 -1525298400:1 -1514758800:2 -1493762400:1 -1483222800:2 -1462226400:1 -1451686800:2 -1430604000:1 -1420064400:2 -1399068000:1 -1388528400:2 -1367532000:1 -1356992400:2 -1335996000:1 -1325456400:2 -1304373600:1 -1293834000:2 -1272837600:1 -1262298000:2 -1241301600:1 -1230762000:2 -1209765600:1 -1199226000:2 -1178143200:1 -1167603600:2 -1146607200:1 -1136067600:2 -1115071200:1 -1104531600:2 -1083535200:1 -1072995600:2 -1051912800:1 -1041373200:2 -1020376800:1 -1009837200:2 -988840800:1 -978301200:2 -957304800:1 -946765200:2 -936309600:1 -915142800:2 -904773600:1 -883606800:2 -880329600:3 -756952200:2 -610149600:3 -599610600:2 -578613600:3 -568074600:2 -546991200:3 -536452200:2 -515455200:3 -504916200:2 -483919200:3 -473380200:2 -452383200:3 -441844200:2|GMT0"
  , "Africa/Addis_Ababa|0|9288 9320 10800|-3155682888:1 -1062210920:2|EAT-3"
  , "Africa/Algiers|0|732 561 3600 0 7200|-2486592732:1 -1855958961:3 -1689814800:2 -1680397200:3 -1665363600:2 -1648342800:3 -1635123600:2 -1616893200:3 -1604278800:2 -1585443600:3 -1574038800:2 -1552266000:3 -1539997200:2 -1531443600:3 -956365200:2 -950486400:3 -942012000:2 -812502000:4 -796262400:2 -781052400:4 -766630800:2 -733280400:3 -439430400:2 -212029200:3 41468400:2 54774000:3 231724800:2 246236400:2 259545600:4 275274000:2 309740400:3 325468800:2 341802000:3 357523200:2|CET-1"
  , "Africa/Asmara Africa/Asmera|0|9332 9320 10800|-3155682932:0 -2524530932:1 -1062210920:2|EAT-3"
  , "Africa/Bamako Africa/Timbuktu|0|-1920 0 -3600|-1830382080:1 -1131235200:2 -300841200:1|GMT0"
  , "Africa/Bangui|0|4460 3600|-1830388460:1|WAT-1"
  , "Africa/Banjul|0|-3996 -3600 0|-1830380004:0 -1159829604:1 -880930800:2|GMT0"
  , "Africa/Bissau|0|-3740 -3600 0|-1830380400:1 157770000:2|GMT0"
  , "Africa/Blantyre|0|8400 8470 8460 7200|-1844302800:1 -1751682070:2 -1404440460:3|CAT-2"
  , "Africa/Brazzaville|0|3668 3600|-1830387668:1|WAT-1"
  , "Africa/Bujumbura|0|7048 7200|-2524528648:1|CAT-2"
  , "Africa/Cairo Egypt|0|7509 10800 7200|-2185409109:2 -929844000:1 -923108400:2 -906170400:1 -892868400:2 -875844000:1 -857790000:2 -844308000:1 -825822000:2 -812685600:1 -794199600:2 -779853600:1 -762663600:2 -399088800:1 -386650800:2 -368330400:1 -355114800:2 -336790800:1 -323654400:2 -305168400:1 -292032000:2 -273632400:1 -260496000:2 -242096400:1 -228960000:2 -210560400:1 -197424000:2 -178938000:1 -165801600:2 -147402000:1 -134265600:2 -115866000:1 -102643200:2 -84330000:1 -71107200:2 -52707600:1 -39484800:2 -21171600:1 -7948800:2 10364400:1 23587200:2 41900400:1 55123200:2 73522800:1 86745600:2 105058800:1 118281600:2 136594800:1 149817600:2 168130800:1 181353600:2 199753200:1 212976000:2 231289200:1 244512000:2 262825200:1 276048000:2 294361200:1 307584000:2 325983600:1 339206400:2 357519600:1 370742400:2 396399600:1 402278400:2 426812400:1 433814400:2 452214000:1 465436800:2 483750000:1 496972800:2 515286000:1 528508800:2 546822000:1 560044800:2 578444400:1 591667200:2 610412400:1 623203200:2 641516400:1 654739200:2 673052400:1 686275200:2 704674800:1 717897600:2 736210800:1 749433600:2 767746800:1 780969600:2 799020000:1 812322000:2 830469600:1 843771600:2 861919200:1 875221200:2 893368800:1 906670800:2 925423200:1 938725200:2 956872800:1 970174800:2 988322400:1 1001624400:2 1019772000:1 1033074000:2 1051221600:1 1064523600:2 1083276000:1 1096578000:2 1114725600:1 1128027600:2 1146175200:1 1158872400:2 1177624800:1 1189112400:2 1209074400:1 1219957200:2 1240524000:1 1250802000:2 1272578400:1 1281474000:2 1284069600:1 1285880400:2 1400191200:1 1403816400:2 1406844000:1 1411678800:2 1682632800:1 1698354000:2 1714082400:1 1730408400:2 1745532000:1 1761858000:2 1776981600:1 1793307600:2 1809036000:1 1824757200:2 1840485600:1 1856206800:2 1871935200:1 1887656400:2 1903384800:1 1919710800:2 1934834400:1 1951160400:2 1966888800:1 1982610000:2 1998338400:1 2014059600:2 2029788000:1 2045509200:2 2061237600:1 2076958800:2 2092687200:1 2109013200:2 2124136800:1 2140462800:2|EET-2EEST,M4.5.5/0,M10.5.4/24"
  , "Africa/Casablanca|0|-1820 3600 0|-1773012580:2 -956361600:1 -950490000:2 -942019200:1 -761187600:2 -617241600:1 -605149200:2 -81432000:1 -71110800:2 141264000:1 147222000:2 199756800:1 207702000:2 231292800:1 244249200:2 265507200:1 271033200:2 448243200:1 504918000:2 1212278400:1 1220223600:2 1243814400:1 1250809200:2 1272758400:1 1281222000:2 1301788800:1 1312066800:2 1335664800:1 1342749600:2 1345428000:1 1348970400:2 1367114400:1 1373162400:2 1376100000:1 1382839200:2 1396144800:1 1403920800:2 1406944800:1 1414288800:2 1427594400:1 1434247200:2 1437271200:1 1445738400:2 1459044000:1 1465092000:2 1468116000:1 1477792800:2 1490493600:1 1495332000:2 1498960800:1 1509242400:2 1521943200:1 1526176800:2 1529200800:1 1557021600:2 1560045600:1 1587261600:2 1590890400:1 1618106400:2 1621130400:1 1648346400:2 1651975200:1 1679191200:2 1682215200:1 1710036000:2 1713060000:1 1740276000:2 1743904800:1 1771120800:2 1774144800:1 1801965600:2 1804989600:1 1832205600:2 1835834400:1 1863050400:2 1866074400:1 1893290400:2 1896919200:1 1924135200:2 1927159200:1 1954980000:2 1958004000:1 1985220000:2 1988848800:1 2016064800:2 2019088800:1 2046304800:2 2049933600:1 2077149600:2 2080778400:1 2107994400:2 2111018400:1 2138234400:2 2141863200:1 2169079200:2 2172103200:1 2199924000:2 2202948000:1 2230164000:2 2233792800:1 2261008800:2 2264032800:1 2291248800:2 2294877600:1 2322093600:2 2325722400:1 2352938400:2 2355962400:1 2383178400:2 2386807200:1 2414023200:2 2417047200:1 2444868000:2 2447892000:1 2475108000:2 2478736800:1 2505952800:2 2508976800:1 2536192800:2 2539821600:1 2567037600:2 2570666400:1 2597882400:2 2600906400:1 2628122400:2 2631751200:1 2658967200:2 2661991200:1 2689812000:2 2692836000:1 2720052000:2 2723680800:1 2750896800:2 2753920800:1 2781136800:2 2784765600:1 2811981600:2 2815610400:1 2842826400:2 2845850400:1 2873066400:2 2876695200:1 2903911200:2 2906935200:1 2934756000:2 2937780000:1 2964996000:2 2968624800:1 2995840800:2 2998864800:1 3026080800:2 3029709600:1 3056925600:2 3060554400:1 3087770400:2 3090794400:1 3118010400:2 3121639200:1 3148855200:2 3151879200:1 3179700000:2 3182724000:1 3209940000:2 3213568800:1 3240784800:2 3243808800:1 3271024800:2 3274653600:1 3301869600:2 3305498400:1 3332714400:2 3335738400:1 3362954400:2 3366583200:1 3393799200:2 3396823200:1 3424644000:2 3427668000:1 3454884000:2 3458512800:1 3485728800:2 3488752800:1 3515968800:2 3519597600:1 3546813600:2 3549837600:1 3577658400:2 3580682400:1 3607898400:2 3611527200:1 3638743200:2 3641767200:1 3669588000:2 3672612000:1 3699828000:2 3703456800:1|<+00>0<+01>,0/0,J365/25"
  , "Africa/Ceuta|0|-1276 0 3600 7200|-2177452800:1 -1630112400:2 -1616810400:1 -1442451600:2 -1427673600:1 -1379293200:2 -1364774400:1 -1348448400:2 -1333324800:1 -1316390400:2 -1301270400:1 -81432000:2 -71110800:1 141264000:2 147222000:1 199756800:2 207702000:1 231292800:2 244249200:1 265507200:2 271033200:1 448243200:2 512528400:3 528253200:2 543978000:3 559702800:2 575427600:3 591152400:2 606877200:3 622602000:2 638326800:3 654656400:2 670381200:3 686106000:2 701830800:3 717555600:2 733280400:3 749005200:2 764730000:3 780454800:2 796179600:3 811904400:2 828234000:3 846378000:2 859683600:3 877827600:2 891133200:3 909277200:2 922582800:3 941331600:2 954032400:3 972781200:2 985482000:3 1004230800:2 1017536400:3 1035680400:2 1048986000:3 1067130000:2 1080435600:3 1099184400:2 1111885200:3 1130634000:2 1143334800:3 1162083600:2 1174784400:3 1193533200:2 1206838800:3 1224982800:2 1238288400:3 1256432400:2 1269738000:3 1288486800:2 1301187600:3 1319936400:2 1332637200:3 1351386000:2 1364691600:3 1382835600:2 1396141200:3 1414285200:2 1427590800:3 1445734800:2 1459040400:3 1477789200:2 1490490000:3 1509238800:2 1521939600:3 1540688400:2 1553994000:3 1572138000:2 1585443600:3 1603587600:2 1616893200:3 1635642000:2 1648342800:3 1667091600:2 1679792400:3 1698541200:2 1711846800:3 1729990800:2 1743296400:3 1761440400:2 1774746000:3 1792890000:2 1806195600:3 1824944400:2 1837645200:3 1856394000:2 1869094800:3 1887843600:2 1901149200:3 1919293200:2 1932598800:3 1950742800:2 1964048400:3 1982797200:2 1995498000:3 2014246800:2 2026947600:3 2045696400:2 2058397200:3 2077146000:2 2090451600:3 2108595600:2 2121901200:3 2140045200:2|CET-1CEST,M3.5.0,M10.5.0/3"
  , "Africa/Conakry|0|-3292 0 -3600|-1830380708:1 -1131235200:2 -315615600:1|GMT0"
  , "Africa/Dakar|0|-4184 -3600 0|-1830379816:1 -902098800:2|GMT0"
  , "Africa/Dar_es_Salaam|0|9428 10800 9900|-1230777428:1 -694321200:2 -284006700:1|EAT-3"
  , "Africa/Djibouti|0|10356 10800|-1846291956:1|EAT-3"
  , "Africa/Douala|0|2328 3600|-1830386328:1|WAT-1"
  , "Africa/El_Aaiun|0|-3168 -3600 3600 0|-1136070432:1 198291600:3 199756800:2 207702000:3 231292800:2 244249200:3 265507200:2 271033200:3 1212278400:2 1220223600:3 1243814400:2 1250809200:3 1272758400:2 1281222000:3 1301788800:2 1312066800:3 1335664800:2 1342749600:3 1345428000:2 1348970400:3 1367114400:2 1373162400:3 1376100000:2 1382839200:3 1396144800:2 1403920800:3 1406944800:2 1414288800:3 1427594400:2 1434247200:3 1437271200:2 1445738400:3 1459044000:2 1465092000:3 1468116000:2 1477792800:3 1490493600:2 1495332000:3 1498960800:2 1509242400:3 1521943200:2 1526176800:3 1529200800:2 1557021600:3 1560045600:2 1587261600:3 1590890400:2 1618106400:3 1621130400:2 1648346400:3 1651975200:2 1679191200:3 1682215200:2 1710036000:3 1713060000:2 1740276000:3 1743904800:2 1771120800:3 1774144800:2 1801965600:3 1804989600:2 1832205600:3 1835834400:2 1863050400:3 1866074400:2 1893290400:3 1896919200:2 1924135200:3 1927159200:2 1954980000:3 1958004000:2 1985220000:3 1988848800:2 2016064800:3 2019088800:2 2046304800:3 2049933600:2 2077149600:3 2080778400:2 2107994400:3 2111018400:2 2138234400:3 2141863200:2 2169079200:3 2172103200:2 2199924000:3 2202948000:2 2230164000:3 2233792800:2 2261008800:3 2264032800:2 2291248800:3 2294877600:2 2322093600:3 2325722400:2 2352938400:3 2355962400:2 2383178400:3 2386807200:2 2414023200:3 2417047200:2 2444868000:3 2447892000:2 2475108000:3 2478736800:2 2505952800:3 2508976800:2 2536192800:3 2539821600:2 2567037600:3 2570666400:2 2597882400:3 2600906400:2 2628122400:3 2631751200:2 2658967200:3 2661991200:2 2689812000:3 2692836000:2 2720052000:3 2723680800:2 2750896800:3 2753920800:2 2781136800:3 2784765600:2 2811981600:3 2815610400:2 2842826400:3 2845850400:2 2873066400:3 2876695200:2 2903911200:3 2906935200:2 2934756000:3 2937780000:2 2964996000:3 2968624800:2 2995840800:3 2998864800:2 3026080800:3 3029709600:2 3056925600:3 3060554400:2 3087770400:3 3090794400:2 3118010400:3 3121639200:2 3148855200:3 3151879200:2 3179700000:3 3182724000:2 3209940000:3 3213568800:2 3240784800:3 3243808800:2 3271024800:3 3274653600:2 3301869600:3 3305498400:2 3332714400:3 3335738400:2 3362954400:3 3366583200:2 3393799200:3 3396823200:2 3424644000:3 3427668000:2 3454884000:3 3458512800:2 3485728800:3 3488752800:2 3515968800:3 3519597600:2 3546813600:3 3549837600:2 3577658400:3 3580682400:2 3607898400:3 3611527200:2 3638743200:3 3641767200:2 3669588000:3 3672612000:2 3699828000:3 3703456800:2|<+00>0<+01>,0/0,J365/25"
  , "Africa/Freetown|0|-3180 -2400 -3600 0|-2776979220:0 -1783120020:2 -1170284400:1 -1159831200:2 -1146610800:1 -1128295200:2 -1115074800:1 -1096759200:2 -1083538800:1 -1065136800:2 -1051916400:1 -1033600800:2 -1020380400:1 -1002064800:2 -988844400:1 -965258400:2 -957308400:1 -956964000:2 -885769200:3|GMT0"
  , "Africa/Gaborone|0|6220 5400 7200 10800|-2682294220:1 -2109288600:2 -829526400:3 -813805200:2|CAT-2"
  , "Africa/Harare|0|7452 7200|-2109290652:1|CAT-2"
  , "Africa/Johannesburg|0|6720 5400 10800 7200|-2458173120:1 -2109288600:3 -860976000:2 -845254800:3 -829526400:2 -813805200:3|SAST-2"
  , "Africa/Juba|0|7588 10800 7200|-1230775588:2 10360800:1 24786000:2 41810400:1 56322000:2 73432800:1 87944400:2 104882400:1 119480400:2 136332000:1 151016400:2 167781600:1 182552400:2 199231200:1 214174800:2 230680800:1 245710800:2 262735200:1 277246800:2 294184800:1 308782800:2 325634400:1 340405200:2 357084000:1 371941200:2 388533600:1 403477200:2 419983200:1 435013200:2 452037600:1 466635600:2 483487200:1 498171600:2 947930400:1 1612126800:2|CAT-2"
  , "Africa/Kampala|0|7780 10800 9000 9900|-1309745380:1 -1262314800:2 -694319400:3 -410237100:1|EAT-3"
  , "Africa/Khartoum|0|7808 10800 7200|-1230775808:2 10360800:1 24786000:2 41810400:1 56322000:2 73432800:1 87944400:2 104882400:1 119480400:2 136332000:1 151016400:2 167781600:1 182552400:2 199231200:1 214174800:2 230680800:1 245710800:2 262735200:1 277246800:2 294184800:1 308782800:2 325634400:1 340405200:2 357084000:1 371941200:2 388533600:1 403477200:2 419983200:1 435013200:2 452037600:1 466635600:2 483487200:1 498171600:2 947930400:1 1509483600:2|CAT-2"
  , "Africa/Kigali|0|7216 7200|-1091498416:1|CAT-2"
  , "Africa/Kinshasa|0|3672 3600|-2276643672:1|WAT-1"
  , "Africa/Lagos|0|815 0 1800 3600|-2035584815:1 -1940889600:0 -1767226415:2 -1588465800:3|WAT-1"
  , "Africa/Libreville|0|2268 3600|-1830386268:1|WAT-1"
  , "Africa/Lome|0|292 0|-2429827492:1|GMT0"
  , "Africa/Luanda|0|3176 3124 3600|-2461452776:1 -1830387600:2|WAT-1"
  , "Africa/Lubumbashi|0|6592 3600 7200|-2276646592:1 -1567990800:2|CAT-2"
  , "Africa/Lusaka|0|6788 7200|-2109289988:1|CAT-2"
  , "Africa/Malabo|0|2108 0 3600|-1830386108:1 -190857600:2|WAT-1"
  , "Africa/Maputo|0|7818 7200|-1924999818:1|CAT-2"
  , "Africa/Maseru|0|6600 7200 10800|-2109289800:1 -829526400:2 -813805200:1|SAST-2"
  , "Africa/Mbabane|0|7464 7200|-2109290664:1|SAST-2"
  , "Africa/Mogadishu|0|10888 10800 9000|-2403572488:1 -1230778800:2 -410236200:1|EAT-3"
  , "Africa/Monrovia|0|-2588 -2670 0|-2776979812:0 -1604359012:1 63593070:2|GMT0"
  , "Africa/Nairobi|0|8836 9000 10800 9900|-1946168836:1 -1309746600:2 -1261969200:1 -1041388200:3 -865305900:2|EAT-3"
  , "Africa/Ndjamena|0|3612 3600 7200|-1830387612:1 308703600:2 321314400:1|WAT-1"
  , "Africa/Niamey|0|508 -3600 0 3600|-1830384508:1 -1131231600:2 -315619200:3|WAT-1"
  , "Africa/Nouakchott|0|-3828 0 -3600|-1830380172:1 -1131235200:2 -286930800:1|GMT0"
  , "Africa/Ouagadougou|0|-364 0|-1830383636:1|GMT0"
  , "Africa/Porto-Novo|0|628 0 3600|-1830384628:1 -1131235200:2|WAT-1"
  , "Africa/Sao_Tome|0|1616 -2205 0 3600|-2713912016:1 -1830384000:2 1514768400:3 1546304400:2|GMT0"
  , "Africa/Tripoli Libya|0|3164 7200 3600|-1577926364:2 -574902000:1 -568087200:2 -512175600:1 -504928800:2 -449888400:1 -441856800:2 -347158800:1 378684000:2 386463600:1 402271200:2 417999600:1 433807200:2 449622000:1 465429600:2 481590000:1 496965600:2 512953200:1 528674400:2 544230000:1 560037600:2 575852400:1 591660000:2 607388400:1 623196000:2 641775600:1 844034400:2 860108400:1 875916000:1 1352505600:2 1364515200:1 1382659200:1|EET-2"
  , "Africa/Tunis|0|2444 561 7200 3600|-2797202444:1 -1855958961:3 -969242400:2 -950493600:3 -941940000:2 -891136800:3 -877827600:2 -857257200:3 -844556400:2 -842918400:3 -842223600:2 -828230400:3 -812502000:2 -796269600:3 -781052400:2 -766634400:3 231202800:2 243903600:3 262825200:2 276044400:3 581122800:2 591145200:3 606870000:2 622594800:3 641516400:2 654649200:3 1114902000:2 1128038400:3 1143334800:2 1162083600:3 1174784400:2 1193533200:3 1206838800:2 1224982800:3|CET-1"
  , "Africa/Windhoek|0|4104 5400 7200 10800 3600|-2458170504:1 -2109288600:2 -860976000:3 -845254800:2 637970400:2 764200800:4 778640400:2 796780800:4 810090000:2 828835200:4 841539600:2 860284800:4 873594000:2 891734400:4 905043600:2 923184000:4 936493200:2 954633600:4 967942800:2 986083200:4 999392400:2 1018137600:4 1030842000:2 1049587200:4 1062896400:2 1081036800:4 1094346000:2 1112486400:4 1125795600:2 1143936000:4 1157245200:2 1175385600:4 1188694800:2 1207440000:4 1220749200:2 1238889600:4 1252198800:2 1270339200:4 1283648400:2 1301788800:4 1315098000:2 1333238400:4 1346547600:2 1365292800:4 1377997200:2 1396742400:4 1410051600:2 1428192000:4 1441501200:2 1459641600:4 1472950800:2 1491091200:4 1504400400:2 1508796000:2|CAT-2"
  , "America/Adak America/Atka US/Aleutian|0|44002 -42398 -39600 -36000 -32400|-3225223727:1 -2188944802:2 -880196400:3 -769395600:3 -765374400:2 -86878800:2 -21466800:3 -5745600:2 9982800:3 25704000:2 41432400:3 57758400:2 73486800:3 89208000:2 104936400:3 120657600:2 126709200:3 152107200:2 162392400:3 183556800:2 199285200:3 215611200:2 230734800:3 247060800:2 262789200:3 278510400:2 294238800:3 309960000:2 325688400:3 341409600:2 357138000:3 372859200:2 388587600:3 404913600:2 420037200:3 436363200:3 439034400:3 452088000:4 467809200:3 483537600:4 499258800:3 514987200:4 530708400:3 544622400:4 562158000:3 576072000:4 594212400:3 607521600:4 625662000:3 638971200:4 657111600:3 671025600:4 688561200:3 702475200:4 720010800:3 733924800:4 752065200:3 765374400:4 783514800:3 796824000:4 814964400:3 828878400:4 846414000:3 860328000:4 877863600:3 891777600:4 909313200:3 923227200:4 941367600:3 954676800:4 972817200:3 986126400:4 1004266800:3 1018180800:4 1035716400:3 1049630400:4 1067166000:3 1081080000:4 1099220400:3 1112529600:4 1130670000:3 1143979200:4 1162119600:3 1173614400:4 1194174000:3 1205064000:4 1225623600:3 1236513600:4 1257073200:3 1268568000:4 1289127600:3 1300017600:4 1320577200:3 1331467200:4 1352026800:3 1362916800:4 1383476400:3 1394366400:4 1414926000:3 1425816000:4 1446375600:3 1457870400:4 1478430000:3 1489320000:4 1509879600:3 1520769600:4 1541329200:3 1552219200:4 1572778800:3 1583668800:4 1604228400:3 1615723200:4 1636282800:3 1647172800:4 1667732400:3 1678622400:4 1699182000:3 1710072000:4 1730631600:3 1741521600:4 1762081200:3 1772971200:4 1793530800:3 1805025600:4 1825585200:3 1836475200:4 1857034800:3 1867924800:4 1888484400:3 1899374400:4 1919934000:3 1930824000:4 1951383600:3 1962878400:4 1983438000:3 1994328000:4 2014887600:3 2025777600:4 2046337200:3 2057227200:4 2077786800:3 2088676800:4 2109236400:3 2120126400:4 2140686000:3|HST10HDT,M3.2.0,M11.1.0"
  , "America/Anchorage US/Alaska|0|50424 -35976 -36000 -32400 -28800|-3225223727:1 -2188951224:2 -880200000:3 -769395600:3 -765378000:2 -86882400:2 -21470400:3 -5749200:2 9979200:3 25700400:2 41428800:3 57754800:2 73483200:3 89204400:2 104932800:3 120654000:2 126705600:3 152103600:2 162388800:3 183553200:2 199281600:3 215607600:2 230731200:3 247057200:2 262785600:3 278506800:2 294235200:3 309956400:2 325684800:3 341406000:2 357134400:3 372855600:2 388584000:3 404910000:2 420033600:3 436359600:3 439030800:3 452084400:4 467805600:3 483534000:4 499255200:3 514983600:4 530704800:3 544618800:4 562154400:3 576068400:4 594208800:3 607518000:4 625658400:3 638967600:4 657108000:3 671022000:4 688557600:3 702471600:4 720007200:3 733921200:4 752061600:3 765370800:4 783511200:3 796820400:4 814960800:3 828874800:4 846410400:3 860324400:4 877860000:3 891774000:4 909309600:3 923223600:4 941364000:3 954673200:4 972813600:3 986122800:4 1004263200:3 1018177200:4 1035712800:3 1049626800:4 1067162400:3 1081076400:4 1099216800:3 1112526000:4 1130666400:3 1143975600:4 1162116000:3 1173610800:4 1194170400:3 1205060400:4 1225620000:3 1236510000:4 1257069600:3 1268564400:4 1289124000:3 1300014000:4 1320573600:3 1331463600:4 1352023200:3 1362913200:4 1383472800:3 1394362800:4 1414922400:3 1425812400:4 1446372000:3 1457866800:4 1478426400:3 1489316400:4 1509876000:3 1520766000:4 1541325600:3 1552215600:4 1572775200:3 1583665200:4 1604224800:3 1615719600:4 1636279200:3 1647169200:4 1667728800:3 1678618800:4 1699178400:3 1710068400:4 1730628000:3 1741518000:4 1762077600:3 1772967600:4 1793527200:3 1805022000:4 1825581600:3 1836471600:4 1857031200:3 1867921200:4 1888480800:3 1899370800:4 1919930400:3 1930820400:4 1951380000:3 1962874800:4 1983434400:3 1994324400:4 2014884000:3 2025774000:4 2046333600:3 2057223600:4 2077783200:3 2088673200:4 2109232800:3 2120122800:4 2140682400:3|AKST9AKDT,M3.2.0,M11.1.0"
  , "America/Anguilla|0|-15136 -14400|-1825098464:1|AST4"
  , "America/Antigua|0|-14832 -18000 -14400|-1825098768:1 -599598000:2|AST4"
  , "America/Araguaina|0|-11568 -7200 -10800|-1767214032:2 -1206957600:1 -1191362400:2 -1175374800:1 -1159826400:2 -633819600:1 -622069200:2 -602283600:1 -591832800:2 -570747600:1 -560210400:2 -539125200:1 -531352800:2 -191365200:1 -184197600:2 -155163600:1 -150069600:2 -128898000:1 -121125600:2 -99954000:1 -89589600:2 -68418000:1 -57967200:2 499748400:1 511236000:2 530593200:1 540266400:2 562129200:1 571197600:2 592974000:1 602042400:2 624423600:1 634701600:2 813726000:1 824004000:2 844570800:1 856058400:2 876106800:1 888717600:2 908074800:1 919562400:2 938919600:1 951616800:2 970974000:1 982461600:2 1003028400:1 1013911200:2 1036292400:1 1045360800:2 1350788400:1 1361066400:2 2147483647:2|<-03>3"
  , "America/Argentina/Buenos_Aires America/Buenos_Aires|0|-14028 -15408 -14400 -10800 -7200|-2372097972:1 -1567453392:2 -1233432000:3 -1222981200:2 -1205956800:3 -1194037200:2 -1172865600:3 -1162501200:2 -1141329600:3 -1130965200:2 -1109793600:3 -1099429200:2 -1078257600:3 -1067806800:2 -1046635200:3 -1036270800:2 -1015099200:3 -1004734800:2 -983563200:3 -973198800:2 -952027200:3 -941576400:2 -931032000:3 -900882000:2 -890337600:3 -833749200:2 -827265600:3 -752274000:2 -733780800:3 -197326800:2 -190843200:3 -184194000:2 -164491200:3 -152658000:2 -132955200:3 -121122000:2 -101419200:3 -86821200:2 -71092800:3 -54766800:2 -39038400:3 -23317200:2 -7588800:3 128142000:4 136605600:3 596948400:4 605066400:3 624423600:4 636516000:3 656478000:4 667965600:3 687927600:4 699415200:3 719377200:4 731469600:3 938919600:3 952052400:3 1198983600:4 1205632800:3 1224385200:4 1237082400:3 2147483647:3|<-03>3"
  , "America/Argentina/Catamarca America/Argentina/ComodRivadavia America/Catamarca|0|-15788 -15408 -14400 -10800 -7200|-2372096212:1 -1567453392:2 -1233432000:3 -1222981200:2 -1205956800:3 -1194037200:2 -1172865600:3 -1162501200:2 -1141329600:3 -1130965200:2 -1109793600:3 -1099429200:2 -1078257600:3 -1067806800:2 -1046635200:3 -1036270800:2 -1015099200:3 -1004734800:2 -983563200:3 -973198800:2 -952027200:3 -941576400:2 -931032000:3 -900882000:2 -890337600:3 -833749200:2 -827265600:3 -752274000:2 -733780800:3 -197326800:2 -190843200:3 -184194000:2 -164491200:3 -152658000:2 -132955200:3 -121122000:2 -101419200:3 -86821200:2 -71092800:3 -54766800:2 -39038400:3 -23317200:2 -7588800:3 128142000:4 136605600:3 596948400:4 605066400:3 624423600:4 636516000:3 656478000:4 667965600:2 687931200:4 699415200:3 719377200:4 731469600:3 938919600:3 952052400:3 1086058800:2 1087704000:3 1198983600:4 1205632800:3 2147483647:3|<-03>3"
  , "America/Argentina/Cordoba America/Cordoba America/Rosario|0|-15408 -14400 -10800 -7200|-2372096592:0 -1567453392:1 -1233432000:2 -1222981200:1 -1205956800:2 -1194037200:1 -1172865600:2 -1162501200:1 -1141329600:2 -1130965200:1 -1109793600:2 -1099429200:1 -1078257600:2 -1067806800:1 -1046635200:2 -1036270800:1 -1015099200:2 -1004734800:1 -983563200:2 -973198800:1 -952027200:2 -941576400:1 -931032000:2 -900882000:1 -890337600:2 -833749200:1 -827265600:2 -752274000:1 -733780800:2 -197326800:1 -190843200:2 -184194000:1 -164491200:2 -152658000:1 -132955200:2 -121122000:1 -101419200:2 -86821200:1 -71092800:2 -54766800:1 -39038400:2 -23317200:1 -7588800:2 128142000:3 136605600:2 596948400:3 605066400:2 624423600:3 636516000:2 656478000:3 667965600:1 687931200:3 699415200:2 719377200:3 731469600:2 938919600:2 952052400:2 1198983600:3 1205632800:2 1224385200:3 1237082400:2 2147483647:2|<-03>3"
  , "America/Argentina/Jujuy America/Jujuy|0|-15672 -15408 -14400 -10800 -7200|-2372096328:1 -1567453392:2 -1233432000:3 -1222981200:2 -1205956800:3 -1194037200:2 -1172865600:3 -1162501200:2 -1141329600:3 -1130965200:2 -1109793600:3 -1099429200:2 -1078257600:3 -1067806800:2 -1046635200:3 -1036270800:2 -1015099200:3 -1004734800:2 -983563200:3 -973198800:2 -952027200:3 -941576400:2 -931032000:3 -900882000:2 -890337600:3 -833749200:2 -827265600:3 -752274000:2 -733780800:3 -197326800:2 -190843200:3 -184194000:2 -164491200:3 -152658000:2 -132955200:3 -121122000:2 -101419200:3 -86821200:2 -71092800:3 -54766800:2 -39038400:3 -23317200:2 -7588800:3 128142000:4 136605600:3 596948400:4 605066400:3 624423600:4 636516000:2 657086400:3 669178800:2 686721600:4 699415200:3 719377200:4 731469600:3 938919600:3 952052400:3 1198983600:4 1205632800:3 2147483647:3|<-03>3"
  , "America/Argentina/La_Rioja|0|-16044 -15408 -14400 -10800 -7200|-2372095956:1 -1567453392:2 -1233432000:3 -1222981200:2 -1205956800:3 -1194037200:2 -1172865600:3 -1162501200:2 -1141329600:3 -1130965200:2 -1109793600:3 -1099429200:2 -1078257600:3 -1067806800:2 -1046635200:3 -1036270800:2 -1015099200:3 -1004734800:2 -983563200:3 -973198800:2 -952027200:3 -941576400:2 -931032000:3 -900882000:2 -890337600:3 -833749200:2 -827265600:3 -752274000:2 -733780800:3 -197326800:2 -190843200:3 -184194000:2 -164491200:3 -152658000:2 -132955200:3 -121122000:2 -101419200:3 -86821200:2 -71092800:3 -54766800:2 -39038400:3 -23317200:2 -7588800:3 128142000:4 136605600:3 596948400:4 605066400:3 624423600:4 636516000:3 656478000:4 667792800:2 673588800:3 687927600:4 699415200:3 719377200:4 731469600:3 938919600:3 952052400:3 1086058800:2 1087704000:3 1198983600:4 1205632800:3 2147483647:3|<-03>3"
  , "America/Argentina/Mendoza America/Mendoza|0|-16516 -15408 -14400 -10800 -7200|-2372095484:1 -1567453392:2 -1233432000:3 -1222981200:2 -1205956800:3 -1194037200:2 -1172865600:3 -1162501200:2 -1141329600:3 -1130965200:2 -1109793600:3 -1099429200:2 -1078257600:3 -1067806800:2 -1046635200:3 -1036270800:2 -1015099200:3 -1004734800:2 -983563200:3 -973198800:2 -952027200:3 -941576400:2 -931032000:3 -900882000:2 -890337600:3 -833749200:2 -827265600:3 -752274000:2 -733780800:3 -197326800:2 -190843200:3 -184194000:2 -164491200:3 -152658000:2 -132955200:3 -121122000:2 -101419200:3 -86821200:2 -71092800:3 -54766800:2 -39038400:3 -23317200:2 -7588800:3 128142000:4 136605600:3 596948400:4 605066400:3 624423600:4 636516000:2 655963200:3 667796400:2 687499200:3 699418800:2 719380800:4 731469600:3 938919600:3 952052400:3 1085281200:2 1096171200:3 1198983600:4 1205632800:3 2147483647:3|<-03>3"
  , "America/Argentina/Rio_Gallegos|0|-16612 -15408 -14400 -10800 -7200|-2372095388:1 -1567453392:2 -1233432000:3 -1222981200:2 -1205956800:3 -1194037200:2 -1172865600:3 -1162501200:2 -1141329600:3 -1130965200:2 -1109793600:3 -1099429200:2 -1078257600:3 -1067806800:2 -1046635200:3 -1036270800:2 -1015099200:3 -1004734800:2 -983563200:3 -973198800:2 -952027200:3 -941576400:2 -931032000:3 -900882000:2 -890337600:3 -833749200:2 -827265600:3 -752274000:2 -733780800:3 -197326800:2 -190843200:3 -184194000:2 -164491200:3 -152658000:2 -132955200:3 -121122000:2 -101419200:3 -86821200:2 -71092800:3 -54766800:2 -39038400:3 -23317200:2 -7588800:3 128142000:4 136605600:3 596948400:4 605066400:3 624423600:4 636516000:3 656478000:4 667965600:3 687927600:4 699415200:3 719377200:4 731469600:3 938919600:3 952052400:3 1086058800:2 1087704000:3 1198983600:4 1205632800:3 2147483647:3|<-03>3"
  , "America/Argentina/Salta|0|-15700 -15408 -14400 -10800 -7200|-2372096300:1 -1567453392:2 -1233432000:3 -1222981200:2 -1205956800:3 -1194037200:2 -1172865600:3 -1162501200:2 -1141329600:3 -1130965200:2 -1109793600:3 -1099429200:2 -1078257600:3 -1067806800:2 -1046635200:3 -1036270800:2 -1015099200:3 -1004734800:2 -983563200:3 -973198800:2 -952027200:3 -941576400:2 -931032000:3 -900882000:2 -890337600:3 -833749200:2 -827265600:3 -752274000:2 -733780800:3 -197326800:2 -190843200:3 -184194000:2 -164491200:3 -152658000:2 -132955200:3 -121122000:2 -101419200:3 -86821200:2 -71092800:3 -54766800:2 -39038400:3 -23317200:2 -7588800:3 128142000:4 136605600:3 596948400:4 605066400:3 624423600:4 636516000:3 656478000:4 667965600:2 687931200:4 699415200:3 719377200:4 731469600:3 938919600:3 952052400:3 1198983600:4 1205632800:3 2147483647:3|<-03>3"
  , "America/Argentina/San_Juan|0|-16444 -15408 -14400 -10800 -7200|-2372095556:1 -1567453392:2 -1233432000:3 -1222981200:2 -1205956800:3 -1194037200:2 -1172865600:3 -1162501200:2 -1141329600:3 -1130965200:2 -1109793600:3 -1099429200:2 -1078257600:3 -1067806800:2 -1046635200:3 -1036270800:2 -1015099200:3 -1004734800:2 -983563200:3 -973198800:2 -952027200:3 -941576400:2 -931032000:3 -900882000:2 -890337600:3 -833749200:2 -827265600:3 -752274000:2 -733780800:3 -197326800:2 -190843200:3 -184194000:2 -164491200:3 -152658000:2 -132955200:3 -121122000:2 -101419200:3 -86821200:2 -71092800:3 -54766800:2 -39038400:3 -23317200:2 -7588800:3 128142000:4 136605600:3 596948400:4 605066400:3 624423600:4 636516000:3 656478000:4 667792800:2 673588800:3 687927600:4 699415200:3 719377200:4 731469600:3 938919600:3 952052400:3 1085972400:2 1090728000:3 1198983600:4 1205632800:3 2147483647:3|<-03>3"
  , "America/Argentina/San_Luis|0|-15924 -15408 -14400 -10800 -7200|-2372096076:1 -1567453392:2 -1233432000:3 -1222981200:2 -1205956800:3 -1194037200:2 -1172865600:3 -1162501200:2 -1141329600:3 -1130965200:2 -1109793600:3 -1099429200:2 -1078257600:3 -1067806800:2 -1046635200:3 -1036270800:2 -1015099200:3 -1004734800:2 -983563200:3 -973198800:2 -952027200:3 -941576400:2 -931032000:3 -900882000:2 -890337600:3 -833749200:2 -827265600:3 -752274000:2 -733780800:3 -197326800:2 -190843200:3 -184194000:2 -164491200:3 -152658000:2 -132955200:3 -121122000:2 -101419200:3 -86821200:2 -71092800:3 -54766800:2 -39038400:3 -23317200:2 -7588800:3 128142000:4 136605600:3 596948400:4 605066400:3 624423600:4 637380000:2 655963200:3 667796400:2 675748800:3 938919600:3 952052400:3 1085972400:2 1090728000:3 1198983600:4 1200880800:3 1205031600:2 1223784000:3 1236481200:2 1255233600:3 2147483647:3|<-03>3"
  , "America/Argentina/Tucuman|0|-15652 -15408 -14400 -10800 -7200|-2372096348:1 -1567453392:2 -1233432000:3 -1222981200:2 -1205956800:3 -1194037200:2 -1172865600:3 -1162501200:2 -1141329600:3 -1130965200:2 -1109793600:3 -1099429200:2 -1078257600:3 -1067806800:2 -1046635200:3 -1036270800:2 -1015099200:3 -1004734800:2 -983563200:3 -973198800:2 -952027200:3 -941576400:2 -931032000:3 -900882000:2 -890337600:3 -833749200:2 -827265600:3 -752274000:2 -733780800:3 -197326800:2 -190843200:3 -184194000:2 -164491200:3 -152658000:2 -132955200:3 -121122000:2 -101419200:3 -86821200:2 -71092800:3 -54766800:2 -39038400:3 -23317200:2 -7588800:3 128142000:4 136605600:3 596948400:4 605066400:3 624423600:4 636516000:3 656478000:4 667965600:2 687931200:4 699415200:3 719377200:4 731469600:3 938919600:3 952052400:3 1086058800:2 1087099200:3 1198983600:4 1205632800:3 1224385200:4 1237082400:3 2147483647:3|<-03>3"
  , "America/Argentina/Ushuaia|0|-16392 -15408 -14400 -10800 -7200|-2372095608:1 -1567453392:2 -1233432000:3 -1222981200:2 -1205956800:3 -1194037200:2 -1172865600:3 -1162501200:2 -1141329600:3 -1130965200:2 -1109793600:3 -1099429200:2 -1078257600:3 -1067806800:2 -1046635200:3 -1036270800:2 -1015099200:3 -1004734800:2 -983563200:3 -973198800:2 -952027200:3 -941576400:2 -931032000:3 -900882000:2 -890337600:3 -833749200:2 -827265600:3 -752274000:2 -733780800:3 -197326800:2 -190843200:3 -184194000:2 -164491200:3 -152658000:2 -132955200:3 -121122000:2 -101419200:3 -86821200:2 -71092800:3 -54766800:2 -39038400:3 -23317200:2 -7588800:3 128142000:4 136605600:3 596948400:4 605066400:3 624423600:4 636516000:3 656478000:4 667965600:3 687927600:4 699415200:3 719377200:4 731469600:3 938919600:3 952052400:3 1085886000:2 1087704000:3 1198983600:4 1205632800:3 2147483647:3|<-03>3"
  , "America/Aruba|0|-16824 -16200 -14400|-1826738376:1 -157750200:2|AST4"
  , "America/Asuncion|0|-13840 -14400 -10800|-2524507760:0 -1206389360:1 86760000:2 134017200:1 181368000:2 194497200:1 212990400:2 226033200:1 244526400:2 257569200:1 276062400:2 291783600:1 307598400:2 323406000:1 339220800:2 354942000:1 370756800:2 386478000:1 402292800:2 418014000:1 433828800:2 449636400:1 465451200:2 481172400:1 496987200:2 512708400:1 528523200:2 544244400:1 560059200:2 575866800:1 591681600:2 607402800:1 625032000:2 638938800:1 654753600:2 670474800:1 686721600:2 699418800:1 718257600:2 733546800:1 749448000:2 762318000:1 780984000:2 793767600:1 812520000:2 825649200:1 844574400:2 856666800:1 876024000:2 888721200:1 907473600:2 920775600:1 938923200:2 952225200:1 970372800:2 983674800:1 1002427200:2 1018148400:1 1030852800:2 1049598000:1 1062907200:2 1081047600:1 1097985600:2 1110682800:1 1129435200:2 1142132400:1 1160884800:2 1173582000:1 1192939200:2 1205031600:1 1224388800:2 1236481200:1 1255838400:2 1270954800:1 1286078400:2 1302404400:1 1317528000:2 1333854000:1 1349582400:2 1364094000:1 1381032000:2 1395543600:1 1412481600:2 1426993200:1 1443931200:2 1459047600:1 1475380800:2 1490497200:1 1506830400:2 1521946800:1 1538884800:2 1553396400:1 1570334400:2 1584846000:1 1601784000:2 1616900400:1 1633233600:2 1648350000:1 1664683200:2 1679799600:1 1696132800:2 1711249200:1 1728187200:2 1728961200:2 2147483647:2|<-03>3"
  , "America/Atikokan America/Coral_Harbour|0|-21988 -18000 -21600|-2366733212:2 -1632067200:1 -1615136400:2 -923248800:1 -880214400:1 -769395600:1 -765392400:1|EST5"
  , "America/Bahia|0|-9244 -7200 -10800|-1767216356:2 -1206957600:1 -1191362400:2 -1175374800:1 -1159826400:2 -633819600:1 -622069200:2 -602283600:1 -591832800:2 -570747600:1 -560210400:2 -539125200:1 -531352800:2 -191365200:1 -184197600:2 -155163600:1 -150069600:2 -128898000:1 -121125600:2 -99954000:1 -89589600:2 -68418000:1 -57967200:2 499748400:1 511236000:2 530593200:1 540266400:2 562129200:1 571197600:2 592974000:1 602042400:2 624423600:1 634701600:2 656478000:1 666756000:2 687927600:1 697600800:2 719982000:1 728445600:2 750826800:1 761709600:2 782276400:1 793159200:2 813726000:1 824004000:2 844570800:1 856058400:2 876106800:1 888717600:2 908074800:1 919562400:2 938919600:1 951616800:2 970974000:1 982461600:2 1003028400:1 1013911200:2 1036292400:1 1045360800:2 1318734000:1 1330221600:2 2147483647:2|<-03>3"
  , "America/Bahia_Banderas|0|-25260 -25200 -21600 -18000|-1514739600:1 -1343149200:2 -1234807200:1 -1220461200:2 -1207159200:1 -1191344400:2 -873828000:1 828867600:2 846403200:1 860317200:2 877852800:1 891766800:2 909302400:1 923216400:2 941356800:1 954666000:2 972806400:1 989139600:2 1001836800:1 1018170000:2 1035705600:1 1049619600:2 1067155200:1 1081069200:2 1099209600:1 1112518800:2 1130659200:1 1143968400:2 1162108800:1 1175418000:2 1193558400:1 1207472400:2 1225008000:1 1238922000:2 1256457600:1 1270371600:3 1288508400:2 1301817600:3 1319958000:2 1333267200:3 1351407600:2 1365321600:3 1382857200:2 1396771200:3 1414306800:2 1428220800:3 1445756400:2 1459670400:3 1477810800:2 1491120000:3 1509260400:2 1522569600:3 1540710000:2 1554624000:3 1572159600:2 1586073600:3 1603609200:2 1617523200:3 1635663600:2 1648972800:3 1667113200:2|CST6"
  , "America/Barbados|0|-14309 -10800 -14400 -12600|-1841256091:2 -874263600:1 -862682400:2 -841604400:1 -830714400:2 -811882800:3 -798660000:2 234943200:1 244616400:2 261554400:1 276066000:2 293004000:1 307515600:2 325058400:1 338706000:2|AST4"
  , "America/Belem|0|-11636 -7200 -10800|-1767213964:2 -1206957600:1 -1191362400:2 -1175374800:1 -1159826400:2 -633819600:1 -622069200:2 -602283600:1 -591832800:2 -570747600:1 -560210400:2 -539125200:1 -531352800:2 -191365200:1 -184197600:2 -155163600:1 -150069600:2 -128898000:1 -121125600:2 -99954000:1 -89589600:2 -68418000:1 -57967200:2 499748400:1 511236000:2 530593200:1 540266400:2 562129200:1 571197600:2 2147483647:2|<-03>3"
  , "America/Belize|0|-21168 -19800 -21600 -18000|-1822500432:2 -1616954400:1 -1606069800:2 -1585504800:1 -1574015400:2 -1554055200:1 -1542565800:2 -1522605600:1 -1511116200:2 -1490551200:1 -1479666600:2 -1459101600:1 -1448217000:2 -1427652000:1 -1416162600:2 -1396202400:1 -1384713000:2 -1364752800:1 -1353263400:2 -1333303200:1 -1321813800:2 -1301248800:1 -1290364200:2 -1269799200:1 -1258914600:2 -1238349600:1 -1226860200:2 -1206900000:1 -1195410600:2 -1175450400:1 -1163961000:2 -1143396000:1 -1132511400:2 -1111946400:1 -1101061800:2 -1080496800:1 -1069612200:2 -1049047200:1 -1037557800:2 -1017597600:1 -1006108200:2 -986148000:1 -974658600:2 -954093600:1 -943209000:2 -922644000:1 -911759400:2 -891194400:1 -879705000:2 -868212000:3 -769395600:3 -758746800:2 -701892000:1 -690402600:2 -670442400:1 -658953000:2 -638992800:1 -627503400:2 -606938400:1 -596053800:2 -575488800:1 -564604200:2 -544039200:1 -532549800:2 -512589600:1 -501100200:2 -481140000:1 -469650600:2 -449690400:1 -438201000:2 -417636000:1 -406751400:2 -386186400:1 -375301800:2 -354736800:1 -343247400:2 -323287200:1 -311797800:2 -291837600:1 -280348200:2 -259783200:1 -248898600:2 -228333600:1 -217449000:2 -196884000:1 -185999400:2 -165434400:1 -153945000:2 -133984800:1 -122495400:2 -102535200:1 -91045800:2 -70480800:1 -59596200:2 123919200:3 129618000:2 409039200:3 413874000:2|CST6"
  , "America/Blanc-Sablon|0|-13708 -10800 -14400|-2713896692:2 -1632074400:1 -1615143600:2 -880221600:1 -769395600:1 -765399600:2|AST4"
  , "America/Boa_Vista|0|-14560 -10800 -14400|-1767211040:2 -1206954000:1 -1191358800:2 -1175371200:1 -1159822800:2 -633816000:1 -622065600:2 -602280000:1 -591829200:2 -570744000:1 -560206800:2 -539121600:1 -531349200:2 -191361600:1 -184194000:2 -155160000:1 -150066000:2 -128894400:1 -121122000:2 -99950400:1 -89586000:2 -68414400:1 -57963600:2 499752000:1 511239600:2 530596800:1 540270000:2 562132800:1 571201200:2 938923200:1 951620400:2 970977600:1 971578800:2 2147483647:2|<-04>4"
  , "America/Bogota|0|-17776 -14400 -18000|-2707671824:0 -1739041424:2 704869200:1 729057600:2 2147483647:2|<-05>5"
  , "America/Boise|0|-27889 -25200 -28800 -21600|-2717640000:2 -1633269600:1 -1615129200:2 -1601820000:1 -1583679600:2 -1471788000:1 -880210800:3 -769395600:3 -765388800:1 -84380400:3 -68659200:1 -52930800:3 -37209600:1 -21481200:3 -5760000:1 9968400:3 25689600:1 41418000:3 57744000:1 73472400:3 89193600:1 104922000:3 120643200:1 129114000:3 152092800:1 162378000:3 183542400:1 199270800:3 215596800:1 230720400:3 247046400:1 262774800:3 278496000:1 294224400:3 309945600:1 325674000:3 341395200:1 357123600:3 372844800:1 388573200:3 404899200:1 420022800:3 436348800:1 452077200:3 467798400:1 483526800:3 499248000:1 514976400:3 530697600:1 544611600:3 562147200:1 576061200:3 594201600:1 607510800:3 625651200:1 638960400:3 657100800:1 671014800:3 688550400:1 702464400:3 720000000:1 733914000:3 752054400:1 765363600:3 783504000:1 796813200:3 814953600:1 828867600:3 846403200:1 860317200:3 877852800:1 891766800:3 909302400:1 923216400:3 941356800:1 954666000:3 972806400:1 986115600:3 1004256000:1 1018170000:3 1035705600:1 1049619600:3 1067155200:1 1081069200:3 1099209600:1 1112518800:3 1130659200:1 1143968400:3 1162108800:1 1173603600:3 1194163200:1 1205053200:3 1225612800:1 1236502800:3 1257062400:1 1268557200:3 1289116800:1 1300006800:3 1320566400:1 1331456400:3 1352016000:1 1362906000:3 1383465600:1 1394355600:3 1414915200:1 1425805200:3 1446364800:1 1457859600:3 1478419200:1 1489309200:3 1509868800:1 1520758800:3 1541318400:1 1552208400:3 1572768000:1 1583658000:3 1604217600:1 1615712400:3 1636272000:1 1647162000:3 1667721600:1 1678611600:3 1699171200:1 1710061200:3 1730620800:1 1741510800:3 1762070400:1 1772960400:3 1793520000:1 1805014800:3 1825574400:1 1836464400:3 1857024000:1 1867914000:3 1888473600:1 1899363600:3 1919923200:1 1930813200:3 1951372800:1 1962867600:3 1983427200:1 1994317200:3 2014876800:1 2025766800:3 2046326400:1 2057216400:3 2077776000:1 2088666000:3 2109225600:1 2120115600:3 2140675200:1|MST7MDT,M3.2.0,M11.1.0"
  , "America/Cambridge_Bay|0|0 -21600 -25200 -18000|-1577923200:2 -880210800:1 -769395600:1 -765388800:2 73472400:1 89193600:2 104922000:1 120643200:2 136371600:1 152092800:2 167821200:1 183542400:2 199270800:1 215596800:2 230720400:1 247046400:2 262774800:1 278496000:2 294224400:1 309945600:2 325674000:1 341395200:2 357123600:1 372844800:2 388573200:1 404899200:2 420022800:1 436348800:2 452077200:1 467798400:2 483526800:1 499248000:2 514976400:1 530697600:2 544611600:1 562147200:2 576061200:1 594201600:2 607510800:1 625651200:2 638960400:1 657100800:2 671014800:1 688550400:2 702464400:1 720000000:2 733914000:1 752054400:2 765363600:1 783504000:2 796813200:1 814953600:2 828867600:1 846403200:2 860317200:1 877852800:2 891766800:1 909302400:2 923216400:1 941356800:1 954662400:3 972802800:3 973400400:1 986115600:1 1004256000:2 1018170000:1 1035705600:2 1049619600:1 1067155200:2 1081069200:1 1099209600:2 1112518800:1 1130659200:2 1143968400:1 1162108800:2 1173603600:1 1194163200:2 1205053200:1 1225612800:2 1236502800:1 1257062400:2 1268557200:1 1289116800:2 1300006800:1 1320566400:2 1331456400:1 1352016000:2 1362906000:1 1383465600:2 1394355600:1 1414915200:2 1425805200:1 1446364800:2 1457859600:1 1478419200:2 1489309200:1 1509868800:2 1520758800:1 1541318400:2 1552208400:1 1572768000:2 1583658000:1 1604217600:2 1615712400:1 1636272000:2 1647162000:1 1667721600:2 1678611600:1 1699171200:2 1710061200:1 1730620800:2 1741510800:1 1762070400:2 1772960400:1 1793520000:2 1805014800:1 1825574400:2 1836464400:1 1857024000:2 1867914000:1 1888473600:2 1899363600:1 1919923200:2 1930813200:1 1951372800:2 1962867600:1 1983427200:2 1994317200:1 2014876800:2 2025766800:1 2046326400:2 2057216400:1 2077776000:2 2088666000:1 2109225600:2 2120115600:1 2140675200:2|MST7MDT,M3.2.0,M11.1.0"
  , "America/Campo_Grande|0|-13108 -10800 -14400|-1767212492:2 -1206954000:1 -1191358800:2 -1175371200:1 -1159822800:2 -633816000:1 -622065600:2 -602280000:1 -591829200:2 -570744000:1 -560206800:2 -539121600:1 -531349200:2 -191361600:1 -184194000:2 -155160000:1 -150066000:2 -128894400:1 -121122000:2 -99950400:1 -89586000:2 -68414400:1 -57963600:2 499752000:1 511239600:2 530596800:1 540270000:2 562132800:1 571201200:2 592977600:1 602046000:2 624427200:1 634705200:2 656481600:1 666759600:2 687931200:1 697604400:2 719985600:1 728449200:2 750830400:1 761713200:2 782280000:1 793162800:2 813729600:1 824007600:2 844574400:1 856062000:2 876110400:1 888721200:2 908078400:1 919566000:2 938923200:1 951620400:2 970977600:1 982465200:2 1003032000:1 1013914800:2 1036296000:1 1045364400:2 1066536000:1 1076814000:2 1099368000:1 1108868400:2 1129435200:1 1140318000:2 1162699200:1 1172372400:2 1192334400:1 1203217200:2 1224388800:1 1234666800:2 1255838400:1 1266721200:2 1287288000:1 1298170800:2 1318737600:1 1330225200:2 1350792000:1 1361070000:2 1382241600:1 1392519600:2 1413691200:1 1424574000:2 1445140800:1 1456023600:2 1476590400:1 1487473200:2 1508040000:1 1518922800:2 1541304000:1 1550372400:2 2147483647:2|<-04>4"
  , "America/Cancun|0|-20824 -21600 -18000 -14400|-1514743200:1 378201600:2 410504400:1 828864000:2 846399600:1 860313600:2 877849200:2 891759600:3 902037600:2 909298800:1 923212800:2 941353200:1 954662400:2 972802800:1 989136000:2 1001833200:1 1018166400:2 1035702000:1 1049616000:2 1067151600:1 1081065600:2 1099206000:1 1112515200:2 1130655600:1 1143964800:2 1162105200:1 1175414400:2 1193554800:1 1207468800:2 1225004400:1 1238918400:2 1256454000:1 1270368000:2 1288508400:1 1301817600:2 1319958000:1 1333267200:2 1351407600:1 1365321600:2 1382857200:1 1396771200:2 1414306800:1 1422777600:2|EST5"
  , "America/Caracas|0|-16064 -16060 -16200 -14400|-2524505536:1 -1826739140:2 -157750200:3 1197183600:2 1462086000:3 2147483647:3|<-04>4"
  , "America/Cayenne|0|-12560 -14400 -10800|-1846269040:1 -71092800:2 2147483647:2|<-03>3"
  , "America/Cayman|0|-19532 -18430 -18000|-2524502068:1 -1827687170:2|EST5"
  , "America/Chicago US/Central|0|-21036 -18000 -21600|-2717647200:2 -1633276800:1 -1615136400:2 -1601827200:1 -1583686800:2 -1563724800:1 -1551632400:2 -1538928000:1 -1520182800:2 -1504454400:1 -1491757200:2 -1473004800:1 -1459702800:2 -1441555200:1 -1428253200:2 -1410105600:1 -1396803600:2 -1378656000:1 -1365354000:2 -1347206400:1 -1333904400:2 -1315152000:1 -1301850000:2 -1283702400:1 -1270400400:2 -1252252800:1 -1238950800:2 -1220803200:1 -1207501200:2 -1189353600:1 -1176051600:2 -1157299200:1 -1144602000:2 -1125849600:1 -1112547600:2 -1094400000:1 -1081098000:2 -1067788800:1 -1045414800:2 -1031500800:1 -1018198800:2 -1000051200:1 -986749200:2 -967996800:1 -955299600:2 -936547200:1 -923245200:2 -905097600:1 -891795600:2 -880214400:1 -769395600:1 -765392400:2 -747244800:1 -733942800:2 -715795200:1 -702493200:2 -684345600:1 -671043600:2 -652896000:1 -639594000:2 -620841600:1 -608144400:2 -589392000:1 -576090000:2 -557942400:1 -544640400:2 -526492800:1 -513190800:2 -495043200:1 -481741200:2 -463593600:1 -447267600:2 -431539200:1 -415818000:2 -400089600:1 -384368400:2 -368640000:1 -352918800:2 -337190400:1 -321469200:2 -305740800:1 -289414800:2 -273686400:1 -257965200:2 -242236800:1 -226515600:2 -210787200:1 -195066000:2 -179337600:1 -163616400:2 -147888000:1 -131562000:2 -116438400:1 -100112400:2 -84384000:1 -68662800:2 -52934400:1 -37213200:2 -21484800:1 -5763600:2 9964800:1 25686000:2 41414400:1 57740400:2 73468800:1 89190000:2 104918400:1 120639600:2 126691200:1 152089200:2 162374400:1 183538800:2 199267200:1 215593200:2 230716800:1 247042800:2 262771200:1 278492400:2 294220800:1 309942000:2 325670400:1 341391600:2 357120000:1 372841200:2 388569600:1 404895600:2 420019200:1 436345200:2 452073600:1 467794800:2 483523200:1 499244400:2 514972800:1 530694000:2 544608000:1 562143600:2 576057600:1 594198000:2 607507200:1 625647600:2 638956800:1 657097200:2 671011200:1 688546800:2 702460800:1 719996400:2 733910400:1 752050800:2 765360000:1 783500400:2 796809600:1 814950000:2 828864000:1 846399600:2 860313600:1 877849200:2 891763200:1 909298800:2 923212800:1 941353200:2 954662400:1 972802800:2 986112000:1 1004252400:2 1018166400:1 1035702000:2 1049616000:1 1067151600:2 1081065600:1 1099206000:2 1112515200:1 1130655600:2 1143964800:1 1162105200:2 1173600000:1 1194159600:2 1205049600:1 1225609200:2 1236499200:1 1257058800:2 1268553600:1 1289113200:2 1300003200:1 1320562800:2 1331452800:1 1352012400:2 1362902400:1 1383462000:2 1394352000:1 1414911600:2 1425801600:1 1446361200:2 1457856000:1 1478415600:2 1489305600:1 1509865200:2 1520755200:1 1541314800:2 1552204800:1 1572764400:2 1583654400:1 1604214000:2 1615708800:1 1636268400:2 1647158400:1 1667718000:2 1678608000:1 1699167600:2 1710057600:1 1730617200:2 1741507200:1 1762066800:2 1772956800:1 1793516400:2 1805011200:1 1825570800:2 1836460800:1 1857020400:2 1867910400:1 1888470000:2 1899360000:1 1919919600:2 1930809600:1 1951369200:2 1962864000:1 1983423600:2 1994313600:1 2014873200:2 2025763200:1 2046322800:2 2057212800:1 2077772400:2 2088662400:1 2109222000:2 2120112000:1 2140671600:2|CST6CDT,M3.2.0,M11.1.0"
  , "America/Chihuahua|0|-25460 -25200 -21600 -18000|-1514739600:1 -1343149200:2 -1234807200:1 -1220461200:2 -1207159200:1 -1191344400:2 828864000:3 846399600:2 860313600:3 877849200:2 891766800:2 909302400:1 923216400:2 941356800:1 954666000:2 972806400:1 989139600:2 1001836800:1 1018170000:2 1035705600:1 1049619600:2 1067155200:1 1081069200:2 1099209600:1 1112518800:2 1130659200:1 1143968400:2 1162108800:1 1175418000:2 1193558400:1 1207472400:2 1225008000:1 1238922000:2 1256457600:1 1270371600:2 1288512000:1 1301821200:2 1319961600:1 1333270800:2 1351411200:1 1365325200:2 1382860800:1 1396774800:2 1414310400:1 1428224400:2 1445760000:1 1459674000:2 1477814400:1 1491123600:2 1509264000:1 1522573200:2 1540713600:1 1554627600:2 1572163200:1 1586077200:2 1603612800:1 1617526800:2 1635667200:1 1648976400:2 1667116800:2|CST6"
  , "America/Ciudad_Juarez|0|-25556 -25200 -21600 -18000|-1514739600:1 -1343149200:2 -1234807200:1 -1220461200:2 -1207159200:1 -1191344400:2 828864000:3 846399600:2 860313600:3 877849200:2 891766800:2 909302400:1 923216400:2 941356800:1 954666000:2 972806400:1 989139600:2 1001836800:1 1018170000:2 1035705600:1 1049619600:2 1067155200:1 1081069200:2 1099209600:1 1112518800:2 1130659200:1 1143968400:2 1162108800:1 1175418000:2 1193558400:1 1207472400:2 1225008000:1 1238922000:2 1256457600:1 1268557200:2 1289116800:1 1300006800:2 1320566400:1 1331456400:2 1352016000:1 1362906000:2 1383465600:1 1394355600:2 1414915200:1 1425805200:2 1446364800:1 1457859600:2 1478419200:1 1489309200:2 1509868800:1 1520758800:2 1541318400:1 1552208400:2 1572768000:1 1583658000:2 1604217600:1 1615712400:2 1636272000:1 1647162000:2 1667116800:2 1669788000:1 1678611600:2 1699171200:1 1710061200:2 1730620800:1 1741510800:2 1762070400:1 1772960400:2 1793520000:1 1805014800:2 1825574400:1 1836464400:2 1857024000:1 1867914000:2 1888473600:1 1899363600:2 1919923200:1 1930813200:2 1951372800:1 1962867600:2 1983427200:1 1994317200:2 2014876800:1 2025766800:2 2046326400:1 2057216400:2 2077776000:1 2088666000:2 2109225600:1 2120115600:2 2140675200:1|MST7MDT,M3.2.0,M11.1.0"
  , "America/Costa_Rica|0|-20173 -18000 -21600|-2524501427:0 -1545071027:2 288770400:1 297234000:2 320220000:1 328683600:2 664264800:1 678344400:2 695714400:1 700635600:2|CST6"
  , "America/Coyhaique|0|-17296 -16965 -18000 -14400 -10800|-2524504304:1 -1892661435:2 -1688410800:1 -1619205435:3 -1593806400:1 -1335986235:3 -1317585600:2 -1304362800:3 -1286049600:2 -1272826800:3 -1254513600:2 -1241290800:3 -1222977600:2 -1209754800:3 -1191355200:2 -1178132400:3 -870552000:2 -865278000:3 -736632000:3 -718056000:2 -713649600:3 -36619200:4 -23922000:3 -3355200:4 7527600:3 24465600:4 37767600:3 55915200:4 69217200:3 87969600:4 100666800:3 118209600:4 132116400:3 150868800:4 163566000:3 182318400:4 195620400:3 213768000:4 227070000:3 245217600:4 258519600:3 277272000:4 289969200:3 308721600:4 321418800:3 340171200:4 353473200:3 371620800:4 384922800:3 403070400:4 416372400:3 434520000:4 447822000:3 466574400:4 479271600:3 498024000:4 510721200:3 529473600:4 545194800:3 560923200:4 574225200:3 592372800:4 605674800:3 624427200:4 637124400:3 653457600:4 668574000:3 687326400:4 700628400:3 718776000:4 732078000:3 750225600:4 763527600:3 781675200:4 794977200:3 813729600:4 826426800:3 845179200:4 859690800:3 876628800:4 889930800:3 906868800:4 923194800:3 939528000:4 952830000:3 971582400:4 984279600:3 1003032000:4 1015729200:3 1034481600:4 1047178800:3 1065931200:4 1079233200:3 1097380800:4 1110682800:3 1128830400:4 1142132400:3 1160884800:4 1173582000:3 1192334400:4 1206846000:3 1223784000:4 1237086000:3 1255233600:4 1270350000:3 1286683200:4 1304823600:3 1313899200:4 1335668400:3 1346558400:4 1367118000:3 1378612800:4 1398567600:3 1410062400:4 1463281200:3 1471147200:4 1494730800:3 1502596800:4 1526180400:3 1534046400:4 1554606000:3 1567915200:4 1586055600:3 1599364800:4 1617505200:3 1630814400:4 1648954800:3 1662868800:4 1680404400:3 1693713600:4 1712458800:3 1725768000:4 1742439600:4 2147483647:4|<-03>3"
  , "America/Creston|0|-27964 -25200 -28800|-2713882436:1 -1680454800:2 -1627833600:1|MST7"
  , "America/Cuiaba|0|-13460 -10800 -14400|-1767212140:2 -1206954000:1 -1191358800:2 -1175371200:1 -1159822800:2 -633816000:1 -622065600:2 -602280000:1 -591829200:2 -570744000:1 -560206800:2 -539121600:1 -531349200:2 -191361600:1 -184194000:2 -155160000:1 -150066000:2 -128894400:1 -121122000:2 -99950400:1 -89586000:2 -68414400:1 -57963600:2 499752000:1 511239600:2 530596800:1 540270000:2 562132800:1 571201200:2 592977600:1 602046000:2 624427200:1 634705200:2 656481600:1 666759600:2 687931200:1 697604400:2 719985600:1 728449200:2 750830400:1 761713200:2 782280000:1 793162800:2 813729600:1 824007600:2 844574400:1 856062000:2 876110400:1 888721200:2 908078400:1 919566000:2 938923200:1 951620400:2 970977600:1 982465200:2 1003032000:1 1013914800:2 1036296000:1 1045364400:2 1099368000:1 1108868400:2 1129435200:1 1140318000:2 1162699200:1 1172372400:2 1192334400:1 1203217200:2 1224388800:1 1234666800:2 1255838400:1 1266721200:2 1287288000:1 1298170800:2 1318737600:1 1330225200:2 1350792000:1 1361070000:2 1382241600:1 1392519600:2 1413691200:1 1424574000:2 1445140800:1 1456023600:2 1476590400:1 1487473200:2 1508040000:1 1518922800:2 1541304000:1 1550372400:2 2147483647:2|<-04>4"
  , "America/Curacao America/Kralendijk America/Lower_Princes|0|-16547 -16200 -14400|-1826738653:1 -157750200:2|AST4"
  , "America/Danmarkshavn|0|-4480 -10800 -7200 0|-1686091520:1 323845200:2 338950800:1 354675600:2 370400400:1 386125200:2 401850000:1 417574800:2 433299600:1 449024400:2 465354000:1 481078800:2 496803600:1 512528400:2 528253200:1 543978000:2 559702800:1 575427600:2 591152400:1 606877200:2 622602000:1 638326800:2 654656400:1 670381200:2 686106000:1 701830800:2 717555600:1 733280400:2 749005200:1 764730000:2 780454800:1 796179600:2 811904400:1 820465200:3|GMT0"
  , "America/Dawson|0|-33460 -28800 -32400 -25200|-2188996940:2 -1632056400:1 -1615125600:2 -1596978000:1 -1583164800:2 -880203600:1 -769395600:1 -765381600:2 -147884400:3 -131554800:2 120646800:1 325677600:3 341398800:1 357127200:3 372848400:1 388576800:3 404902800:1 420026400:3 436352400:1 452080800:3 467802000:1 483530400:3 499251600:1 514980000:3 530701200:1 544615200:3 562150800:1 576064800:3 594205200:1 607514400:3 625654800:1 638964000:3 657104400:1 671018400:3 688554000:1 702468000:3 720003600:1 733917600:3 752058000:1 765367200:3 783507600:1 796816800:3 814957200:1 828871200:3 846406800:1 860320800:3 877856400:1 891770400:3 909306000:1 923220000:3 941360400:1 954669600:3 972810000:1 986119200:3 1004259600:1 1018173600:3 1035709200:1 1049623200:3 1067158800:1 1081072800:3 1099213200:1 1112522400:3 1130662800:1 1143972000:3 1162112400:1 1173607200:3 1194166800:1 1205056800:3 1225616400:1 1236506400:3 1257066000:1 1268560800:3 1289120400:1 1300010400:3 1320570000:1 1331460000:3 1352019600:1 1362909600:3 1383469200:1 1394359200:3 1414918800:1 1425808800:3 1446368400:1 1457863200:3 1478422800:1 1489312800:3 1509872400:1 1520762400:3 1541322000:1 1552212000:3 1572771600:1 1583661600:3 1604214000:3|MST7"
  , "America/Dawson_Creek|0|-28856 -25200 -28800|-2713881544:2 -1632060000:1 -1615129200:2 -880207200:1 -769395600:1 -765385200:2 -715788000:1 -702486000:2 -684338400:1 -671036400:2 -652888800:1 -639586800:2 -620834400:1 -608137200:2 -589384800:1 -576082800:2 -557935200:1 -544633200:2 -526485600:1 -513183600:2 -495036000:1 -481734000:2 -463586400:1 -450284400:2 -431532000:1 -418230000:2 -400082400:1 -386780400:2 -368632800:1 -355330800:2 -337183200:1 -323881200:2 -305733600:1 -292431600:2 -273679200:1 -260982000:2 -242229600:1 -226508400:2 -210780000:1 -195058800:2 -179330400:1 -163609200:2 -147880800:1 -131554800:2 -116431200:1 -100105200:2 -84376800:1 -68655600:2 -52927200:1 -37206000:2 -21477600:1 -5756400:2 9972000:1 25693200:2 41421600:1 57747600:2 73476000:1 84013200:1|MST7"
  , "America/Denver America/Shiprock Navajo US/Mountain|0|-25196 -21600 -25200|-2717643600:2 -1633273200:1 -1615132800:2 -1601823600:1 -1583683200:2 -1570374000:1 -1551628800:2 -1538924400:1 -1534089600:2 -880210800:1 -769395600:1 -765388800:2 -147884400:1 -131558400:2 -116434800:1 -100108800:2 -84380400:1 -68659200:2 -52930800:1 -37209600:2 -21481200:1 -5760000:2 9968400:1 25689600:2 41418000:1 57744000:2 73472400:1 89193600:2 104922000:1 120643200:2 126694800:1 152092800:2 162378000:1 183542400:2 199270800:1 215596800:2 230720400:1 247046400:2 262774800:1 278496000:2 294224400:1 309945600:2 325674000:1 341395200:2 357123600:1 372844800:2 388573200:1 404899200:2 420022800:1 436348800:2 452077200:1 467798400:2 483526800:1 499248000:2 514976400:1 530697600:2 544611600:1 562147200:2 576061200:1 594201600:2 607510800:1 625651200:2 638960400:1 657100800:2 671014800:1 688550400:2 702464400:1 720000000:2 733914000:1 752054400:2 765363600:1 783504000:2 796813200:1 814953600:2 828867600:1 846403200:2 860317200:1 877852800:2 891766800:1 909302400:2 923216400:1 941356800:2 954666000:1 972806400:2 986115600:1 1004256000:2 1018170000:1 1035705600:2 1049619600:1 1067155200:2 1081069200:1 1099209600:2 1112518800:1 1130659200:2 1143968400:1 1162108800:2 1173603600:1 1194163200:2 1205053200:1 1225612800:2 1236502800:1 1257062400:2 1268557200:1 1289116800:2 1300006800:1 1320566400:2 1331456400:1 1352016000:2 1362906000:1 1383465600:2 1394355600:1 1414915200:2 1425805200:1 1446364800:2 1457859600:1 1478419200:2 1489309200:1 1509868800:2 1520758800:1 1541318400:2 1552208400:1 1572768000:2 1583658000:1 1604217600:2 1615712400:1 1636272000:2 1647162000:1 1667721600:2 1678611600:1 1699171200:2 1710061200:1 1730620800:2 1741510800:1 1762070400:2 1772960400:1 1793520000:2 1805014800:1 1825574400:2 1836464400:1 1857024000:2 1867914000:1 1888473600:2 1899363600:1 1919923200:2 1930813200:1 1951372800:2 1962867600:1 1983427200:2 1994317200:1 2014876800:2 2025766800:1 2046326400:2 2057216400:1 2077776000:2 2088666000:1 2109225600:2 2120115600:1 2140675200:2|MST7MDT,M3.2.0,M11.1.0"
  , "America/Detroit US/Michigan|0|-19931 -21600 -18000 -14400|-2051202469:1 -1724083200:2 -880218000:3 -769395600:3 -765396000:2 -684349200:3 -671047200:2 -80506740:3 -68666400:2 -52938000:3 -37216800:2 104914800:3 120636000:2 126687600:3 152085600:2 167814000:3 183535200:2 199263600:3 215589600:2 230713200:3 247039200:2 262767600:3 278488800:2 294217200:3 309938400:2 325666800:3 341388000:2 357116400:3 372837600:2 388566000:3 404892000:2 420015600:3 436341600:2 452070000:3 467791200:2 483519600:3 499240800:2 514969200:3 530690400:2 544604400:3 562140000:2 576054000:3 594194400:2 607503600:3 625644000:2 638953200:3 657093600:2 671007600:3 688543200:2 702457200:3 719992800:2 733906800:3 752047200:2 765356400:3 783496800:2 796806000:3 814946400:2 828860400:3 846396000:2 860310000:3 877845600:2 891759600:3 909295200:2 923209200:3 941349600:2 954658800:3 972799200:2 986108400:3 1004248800:2 1018162800:3 1035698400:2 1049612400:3 1067148000:2 1081062000:3 1099202400:2 1112511600:3 1130652000:2 1143961200:3 1162101600:2 1173596400:3 1194156000:2 1205046000:3 1225605600:2 1236495600:3 1257055200:2 1268550000:3 1289109600:2 1299999600:3 1320559200:2 1331449200:3 1352008800:2 1362898800:3 1383458400:2 1394348400:3 1414908000:2 1425798000:3 1446357600:2 1457852400:3 1478412000:2 1489302000:3 1509861600:2 1520751600:3 1541311200:2 1552201200:3 1572760800:2 1583650800:3 1604210400:2 1615705200:3 1636264800:2 1647154800:3 1667714400:2 1678604400:3 1699164000:2 1710054000:3 1730613600:2 1741503600:3 1762063200:2 1772953200:3 1793512800:2 1805007600:3 1825567200:2 1836457200:3 1857016800:2 1867906800:3 1888466400:2 1899356400:3 1919916000:2 1930806000:3 1951365600:2 1962860400:3 1983420000:2 1994310000:3 2014869600:2 2025759600:3 2046319200:2 2057209200:3 2077768800:2 2088658800:3 2109218400:2 2120108400:3 2140668000:2|EST5EDT,M3.2.0,M11.1.0"
  , "America/Dominica|0|-14736 -14400|-1846266804:1|AST4"
  , "America/Edmonton America/Yellowknife Canada/Mountain|0|-27232 -21600 -25200|-1998663968:2 -1632063600:1 -1615132800:2 -1600614000:1 -1596816000:2 -1567954800:1 -1551628800:2 -1536505200:1 -1523203200:2 -1504450800:1 -1491753600:2 -1473001200:1 -1459699200:2 -880210800:1 -769395600:1 -765388800:2 -715791600:1 -702489600:2 73472400:1 89193600:2 104922000:1 120643200:2 136371600:1 152092800:2 167821200:1 183542400:2 199270800:1 215596800:2 230720400:1 247046400:2 262774800:1 278496000:2 294224400:1 309945600:2 325674000:1 341395200:2 357123600:1 372844800:2 388573200:1 404899200:2 420022800:1 436348800:2 452077200:1 467798400:2 483526800:1 499248000:2 514976400:1 530697600:2 544611600:1 562147200:2 576061200:1 594201600:2 607510800:1 625651200:2 638960400:1 657100800:2 671014800:1 688550400:2 702464400:1 720000000:2 733914000:1 752054400:2 765363600:1 783504000:2 796813200:1 814953600:2 828867600:1 846403200:2 860317200:1 877852800:2 891766800:1 909302400:2 923216400:1 941356800:2 954666000:1 972806400:2 986115600:1 1004256000:2 1018170000:1 1035705600:2 1049619600:1 1067155200:2 1081069200:1 1099209600:2 1112518800:1 1130659200:2 1143968400:1 1162108800:2 1173603600:1 1194163200:2 1205053200:1 1225612800:2 1236502800:1 1257062400:2 1268557200:1 1289116800:2 1300006800:1 1320566400:2 1331456400:1 1352016000:2 1362906000:1 1383465600:2 1394355600:1 1414915200:2 1425805200:1 1446364800:2 1457859600:1 1478419200:2 1489309200:1 1509868800:2 1520758800:1 1541318400:2 1552208400:1 1572768000:2 1583658000:1 1604217600:2 1615712400:1 1636272000:2 1647162000:1 1667721600:2 1678611600:1 1699171200:2 1710061200:1 1730620800:2 1741510800:1 1762070400:2 1772960400:1 1793520000:2 1805014800:1 1825574400:2 1836464400:1 1857024000:2 1867914000:1 1888473600:2 1899363600:1 1919923200:2 1930813200:1 1951372800:2 1962867600:1 1983427200:2 1994317200:1 2014876800:2 2025766800:1 2046326400:2 2057216400:1 2077776000:2 2088666000:1 2109225600:2 2120115600:1 2140675200:2|MST7MDT,M3.2.0,M11.1.0"
  , "America/Eirunepe|0|-16768 -14400 -18000|-1767208832:2 -1206950400:1 -1191355200:2 -1175367600:1 -1159819200:2 -633812400:1 -622062000:2 -602276400:1 -591825600:2 -570740400:1 -560203200:2 -539118000:1 -531345600:2 -191358000:1 -184190400:2 -155156400:1 -150062400:2 -128890800:1 -121118400:2 -99946800:1 -89582400:2 -68410800:1 -57960000:2 499755600:1 511243200:2 530600400:1 540273600:2 562136400:1 571204800:2 750834000:1 761716800:2 1214283600:1 1384056000:2 2147483647:2|<-05>5"
  , "America/El_Salvador|0|-21408 -18000 -21600|-1546279392:2 547020000:1 559717200:2 578469600:1 591166800:2|CST6"
  , "America/Fort_Nelson|0|-29447 -25200 -28800|-2713880953:2 -1632060000:1 -1615129200:2 -880207200:1 -769395600:1 -765385200:2 -715788000:1 -702486000:2 -684338400:1 -671036400:2 -652888800:1 -639586800:2 -620834400:1 -608137200:2 -589384800:1 -576082800:2 -557935200:1 -544633200:2 -526485600:1 -513183600:2 -495036000:1 -481734000:2 -463586400:1 -450284400:2 -431532000:1 -418230000:2 -400082400:1 -386780400:2 -368632800:1 -355330800:2 -337183200:1 -323881200:2 -305733600:1 -292431600:2 -273679200:1 -260982000:2 -242229600:1 -226508400:2 -210780000:1 -195058800:2 -179330400:1 -163609200:2 -147880800:1 -131554800:2 -116431200:1 -100105200:2 -84376800:1 -68655600:2 -52927200:1 -37206000:2 -21477600:1 -5756400:2 9972000:1 25693200:2 41421600:1 57747600:2 73476000:1 89197200:2 104925600:1 120646800:2 136375200:1 152096400:2 167824800:1 183546000:2 199274400:1 215600400:2 230724000:1 247050000:2 262778400:1 278499600:2 294228000:1 309949200:2 325677600:1 341398800:2 357127200:1 372848400:2 388576800:1 404902800:2 420026400:1 436352400:2 452080800:1 467802000:2 483530400:1 499251600:2 514980000:1 530701200:2 544615200:1 562150800:2 576064800:1 594205200:2 607514400:1 625654800:2 638964000:1 657104400:2 671018400:1 688554000:2 702468000:1 720003600:2 733917600:1 752058000:2 765367200:1 783507600:2 796816800:1 814957200:2 828871200:1 846406800:2 860320800:1 877856400:2 891770400:1 909306000:2 923220000:1 941360400:2 954669600:1 972810000:2 986119200:1 1004259600:2 1018173600:1 1035709200:2 1049623200:1 1067158800:2 1081072800:1 1099213200:2 1112522400:1 1130662800:2 1143972000:1 1162112400:2 1173607200:1 1194166800:2 1205056800:1 1225616400:2 1236506400:1 1257066000:2 1268560800:1 1289120400:2 1300010400:1 1320570000:2 1331460000:1 1352019600:2 1362909600:1 1383469200:2 1394359200:1 1414918800:2 1425808800:1|MST7"
  , "America/Fortaleza|0|-9240 -7200 -10800|-1767216360:2 -1206957600:1 -1191362400:2 -1175374800:1 -1159826400:2 -633819600:1 -622069200:2 -602283600:1 -591832800:2 -570747600:1 -560210400:2 -539125200:1 -531352800:2 -191365200:1 -184197600:2 -155163600:1 -150069600:2 -128898000:1 -121125600:2 -99954000:1 -89589600:2 -68418000:1 -57967200:2 499748400:1 511236000:2 530593200:1 540266400:2 562129200:1 571197600:2 592974000:1 602042400:2 624423600:1 634701600:2 938919600:1 951616800:2 970974000:1 972180000:2 1003028400:1 1013911200:2 2147483647:2|<-03>3"
  , "America/Glace_Bay|0|-14388 -10800 -14400|-2131646412:2 -1632074400:1 -1615143600:2 -880221600:1 -769395600:1 -765399600:2 -526500000:1 -513198000:2 73461600:1 89182800:2 104911200:1 120632400:2 136360800:1 152082000:2 167810400:1 183531600:2 199260000:1 215586000:2 230709600:1 247035600:2 262764000:1 278485200:2 294213600:1 309934800:2 325663200:1 341384400:2 357112800:1 372834000:2 388562400:1 404888400:2 420012000:1 436338000:2 452066400:1 467787600:2 483516000:1 499237200:2 514965600:1 530686800:2 544600800:1 562136400:2 576050400:1 594190800:2 607500000:1 625640400:2 638949600:1 657090000:2 671004000:1 688539600:2 702453600:1 719989200:2 733903200:1 752043600:2 765352800:1 783493200:2 796802400:1 814942800:2 828856800:1 846392400:2 860306400:1 877842000:2 891756000:1 909291600:2 923205600:1 941346000:2 954655200:1 972795600:2 986104800:1 1004245200:2 1018159200:1 1035694800:2 1049608800:1 1067144400:2 1081058400:1 1099198800:2 1112508000:1 1130648400:2 1143957600:1 1162098000:2 1173592800:1 1194152400:2 1205042400:1 1225602000:2 1236492000:1 1257051600:2 1268546400:1 1289106000:2 1299996000:1 1320555600:2 1331445600:1 1352005200:2 1362895200:1 1383454800:2 1394344800:1 1414904400:2 1425794400:1 1446354000:2 1457848800:1 1478408400:2 1489298400:1 1509858000:2 1520748000:1 1541307600:2 1552197600:1 1572757200:2 1583647200:1 1604206800:2 1615701600:1 1636261200:2 1647151200:1 1667710800:2 1678600800:1 1699160400:2 1710050400:1 1730610000:2 1741500000:1 1762059600:2 1772949600:1 1793509200:2 1805004000:1 1825563600:2 1836453600:1 1857013200:2 1867903200:1 1888462800:2 1899352800:1 1919912400:2 1930802400:1 1951362000:2 1962856800:1 1983416400:2 1994306400:1 2014866000:2 2025756000:1 2046315600:2 2057205600:1 2077765200:2 2088655200:1 2109214800:2 2120104800:1 2140664400:2|AST4ADT,M3.2.0,M11.1.0"
  , "America/Goose_Bay|0|-14500 -12652 -9052 -12600 -9000 -10800 -14400 -7200|-2713895900:1 -1632076148:2 -1615145348:1 -1096921748:3 -1061670600:4 -1048973400:3 -1030221000:4 -1017523800:3 -998771400:4 -986074200:3 -966717000:4 -954624600:3 -935267400:4 -922570200:3 -903817800:4 -891120600:3 -872368200:4 -769395600:4 -765401400:3 -746044200:4 -733347000:3 -714594600:4 -701897400:3 -683145000:4 -670447800:3 -651695400:4 -638998200:3 -619641000:4 -606943800:3 -589401000:4 -576099000:3 -557951400:4 -544649400:3 -526501800:4 -513199800:3 -495052200:4 -481750200:3 -463602600:4 -450300600:3 -431548200:4 -418246200:3 -400098600:4 -386796600:3 -368649000:4 -355347000:3 -337199400:4 -323897400:3 -305749800:4 -289423800:3 -273695400:4 -257974200:3 -242245800:4 -226524600:3 -210796200:4 -195075000:3 -179346600:4 -163625400:3 -147897000:4 -131571000:3 -119903400:6 -116445600:5 -100119600:6 -84391200:5 -68670000:6 -52941600:5 -37220400:6 -21492000:5 -5770800:6 9957600:5 25678800:6 41407200:5 57733200:6 73461600:5 89182800:6 104911200:5 120632400:6 136360800:5 152082000:6 167810400:5 183531600:6 199260000:5 215586000:6 230709600:5 247035600:6 262764000:5 278485200:6 294213600:5 309934800:6 325663200:5 341384400:6 357112800:5 372834000:6 388562400:5 404888400:6 420012000:5 436338000:6 452066400:5 467787600:6 483516000:5 499237200:6 514965600:5 530686800:6 544593660:5 562129260:6 576043260:7 594180060:6 607492860:5 625633260:6 638942460:5 657082860:6 670996860:5 688532460:6 702446460:5 719982060:6 733896060:5 752036460:6 765345660:5 783486060:6 796795260:5 814935660:6 828849660:5 846385260:6 860299260:5 877834860:6 891748860:5 909284460:6 923198460:5 941338860:6 954648060:5 972788460:6 986097660:5 1004238060:6 1018152060:5 1035687660:6 1049601660:5 1067137260:6 1081051260:5 1099191660:6 1112500860:5 1130641260:6 1143950460:5 1162090860:6 1173585660:5 1194145260:6 1205035260:5 1225594860:6 1236484860:5 1257044460:6 1268539260:5 1289098860:6 1299988860:5 1320555600:6 1331445600:5 1352005200:6 1362895200:5 1383454800:6 1394344800:5 1414904400:6 1425794400:5 1446354000:6 1457848800:5 1478408400:6 1489298400:5 1509858000:6 1520748000:5 1541307600:6 1552197600:5 1572757200:6 1583647200:5 1604206800:6 1615701600:5 1636261200:6 1647151200:5 1667710800:6 1678600800:5 1699160400:6 1710050400:5 1730610000:6 1741500000:5 1762059600:6 1772949600:5 1793509200:6 1805004000:5 1825563600:6 1836453600:5 1857013200:6 1867903200:5 1888462800:6 1899352800:5 1919912400:6 1930802400:5 1951362000:6 1962856800:5 1983416400:6 1994306400:5 2014866000:6 2025756000:5 2046315600:6 2057205600:5 2077765200:6 2088655200:5 2109214800:6 2120104800:5 2140664400:6|AST4ADT,M3.2.0,M11.1.0"
  , "America/Grand_Turk|0|-17072 -18430 -18000 -14400|-2524504528:1 -1827687170:2 294217200:3 309938400:2 325666800:3 341388000:2 357116400:3 372837600:2 388566000:3 404892000:2 420015600:3 436341600:2 452070000:3 467791200:2 483519600:3 499240800:2 514969200:3 530690400:2 544604400:3 562140000:2 576054000:3 594194400:2 607503600:3 625644000:2 638953200:3 657093600:2 671007600:3 688543200:2 702457200:3 719992800:2 733906800:3 752047200:2 765356400:3 783496800:2 796806000:3 814946400:2 828860400:3 846396000:2 860310000:3 877845600:2 891759600:3 909295200:2 923209200:3 941349600:2 954658800:3 972799200:2 986108400:3 1004248800:2 1018162800:3 1035698400:2 1049612400:3 1067148000:2 1081062000:3 1099202400:2 1112511600:3 1130652000:2 1143961200:3 1162101600:2 1173596400:3 1194156000:2 1205046000:3 1225605600:2 1236495600:3 1257055200:2 1268550000:3 1289109600:2 1299999600:3 1320559200:2 1331449200:3 1352008800:2 1362898800:3 1383458400:2 1394348400:3 1414908000:2 1425798000:3 1520751600:3 1541311200:2 1552201200:3 1572760800:2 1583650800:3 1604210400:2 1615705200:3 1636264800:2 1647154800:3 1667714400:2 1678604400:3 1699164000:2 1710054000:3 1730613600:2 1741503600:3 1762063200:2 1772953200:3 1793512800:2 1805007600:3 1825567200:2 1836457200:3 1857016800:2 1867906800:3 1888466400:2 1899356400:3 1919916000:2 1930806000:3 1951365600:2 1962860400:3 1983420000:2 1994310000:3 2014869600:2 2025759600:3 2046319200:2 2057209200:3 2077768800:2 2088658800:3 2109218400:2 2120108400:3 2140668000:2|EST5EDT,M3.2.0,M11.1.0"
  , "America/Grenada|0|-14820 -14400|-1846266780:1|AST4"
  , "America/Guadeloupe|0|-14768 -14400|-1848254032:1|AST4"
  , "America/Guatemala|0|-21724 -18000 -21600|-1617040676:2 123055200:1 130914000:2 422344800:1 433054800:2 669708000:1 684219600:2 1146376800:1 1159678800:2|CST6"
  , "America/Guayaquil|0|-19160 -18840 -14400 -18000|-2524502440:1 -1230749160:3 722926800:2 728884800:3 2147483647:3|<-05>5"
  , "America/Guyana|0|-13959 -14400 -13500 -10800|-1843589241:1 -1730577600:2 176096700:3 701841600:1 2147483647:1|<-04>4"
  , "America/Halifax Canada/Atlantic|0|-15264 -10800 -14400|-2131645536:2 -1696276800:1 -1680469200:2 -1632074400:1 -1615143600:2 -1566763200:1 -1557090000:2 -1535486400:1 -1524949200:2 -1504468800:1 -1493413200:2 -1472414400:1 -1461963600:2 -1440964800:1 -1429390800:2 -1409515200:1 -1396731600:2 -1376856000:1 -1366491600:2 -1346616000:1 -1333832400:2 -1313956800:1 -1303678800:2 -1282507200:1 -1272661200:2 -1251057600:1 -1240088400:2 -1219608000:1 -1207429200:2 -1188763200:1 -1175979600:2 -1157313600:1 -1143925200:2 -1124049600:1 -1113771600:2 -1091390400:1 -1081026000:2 -1059854400:1 -1050786000:2 -1030910400:1 -1018126800:2 -999460800:1 -986677200:2 -965592000:1 -955227600:2 -935956800:1 -923173200:2 -904507200:1 -891723600:2 -880221600:1 -769395600:1 -765399600:2 -747252000:1 -733950000:2 -715802400:1 -702500400:2 -684352800:1 -671050800:2 -652903200:1 -639601200:2 -589399200:1 -576097200:2 -557949600:1 -544647600:2 -526500000:1 -513198000:2 -495050400:1 -481748400:2 -431546400:1 -418244400:2 -400096800:1 -386794800:2 -368647200:1 -355345200:2 -337197600:1 -323895600:2 -242244000:1 -226522800:2 -210794400:1 -195073200:2 -179344800:1 -163623600:2 -147895200:1 -131569200:2 -116445600:1 -100119600:2 -84391200:1 -68670000:2 -52941600:1 -37220400:2 -21492000:1 -5770800:2 9957600:1 25678800:2 41407200:1 57733200:2 73461600:1 89182800:2 104911200:1 120632400:2 136360800:1 152082000:2 167810400:1 183531600:2 199260000:1 215586000:2 230709600:1 247035600:2 262764000:1 278485200:2 294213600:1 309934800:2 325663200:1 341384400:2 357112800:1 372834000:2 388562400:1 404888400:2 420012000:1 436338000:2 452066400:1 467787600:2 483516000:1 499237200:2 514965600:1 530686800:2 544600800:1 562136400:2 576050400:1 594190800:2 607500000:1 625640400:2 638949600:1 657090000:2 671004000:1 688539600:2 702453600:1 719989200:2 733903200:1 752043600:2 765352800:1 783493200:2 796802400:1 814942800:2 828856800:1 846392400:2 860306400:1 877842000:2 891756000:1 909291600:2 923205600:1 941346000:2 954655200:1 972795600:2 986104800:1 1004245200:2 1018159200:1 1035694800:2 1049608800:1 1067144400:2 1081058400:1 1099198800:2 1112508000:1 1130648400:2 1143957600:1 1162098000:2 1173592800:1 1194152400:2 1205042400:1 1225602000:2 1236492000:1 1257051600:2 1268546400:1 1289106000:2 1299996000:1 1320555600:2 1331445600:1 1352005200:2 1362895200:1 1383454800:2 1394344800:1 1414904400:2 1425794400:1 1446354000:2 1457848800:1 1478408400:2 1489298400:1 1509858000:2 1520748000:1 1541307600:2 1552197600:1 1572757200:2 1583647200:1 1604206800:2 1615701600:1 1636261200:2 1647151200:1 1667710800:2 1678600800:1 1699160400:2 1710050400:1 1730610000:2 1741500000:1 1762059600:2 1772949600:1 1793509200:2 1805004000:1 1825563600:2 1836453600:1 1857013200:2 1867903200:1 1888462800:2 1899352800:1 1919912400:2 1930802400:1 1951362000:2 1962856800:1 1983416400:2 1994306400:1 2014866000:2 2025756000:1 2046315600:2 2057205600:1 2077765200:2 2088655200:1 2109214800:2 2120104800:1 2140664400:2|AST4ADT,M3.2.0,M11.1.0"
  , "America/Havana Cuba|0|-19768 -19776 -14400 -18000|-2524501832:1 -1402813824:3 -1311534000:2 -1300996800:3 -933534000:2 -925675200:3 -902084400:2 -893620800:3 -870030000:2 -862171200:3 -775681200:2 -767822400:3 -744231600:2 -736372800:3 -144702000:2 -134251200:3 -113425200:2 -102542400:3 -86295600:2 -72907200:3 -54154800:2 -41457600:3 -21495600:2 -5774400:3 9954000:2 25675200:3 41403600:2 57729600:3 73458000:2 87364800:3 104907600:2 118900800:3 136357200:2 150436800:3 167806800:2 183528000:3 199256400:2 215582400:3 230706000:2 247032000:3 263365200:2 276667200:3 290581200:2 308721600:3 322030800:2 340171200:3 358318800:2 371620800:3 389768400:2 403070400:3 421218000:2 434520000:3 452667600:2 466574400:3 484117200:2 498024000:3 511333200:2 529473600:3 542782800:2 560923200:3 574837200:2 592372800:3 606286800:2 623822400:3 638946000:2 655876800:3 671000400:2 687330000:3 702450000:2 718779600:3 733899600:2 750229200:3 765349200:2 781678800:3 796798800:2 813128400:3 828853200:2 844578000:3 860302800:2 876632400:3 891147600:2 909291600:3 922597200:2 941346000:3 954651600:2 972795600:3 986101200:2 1004245200:3 1018155600:2 1035694800:3 1049605200:2 1067144400:3 1080450000:2 1162098000:3 1173589200:2 1193547600:3 1205643600:2 1224997200:3 1236488400:2 1256446800:3 1268542800:2 1288501200:3 1300597200:2 1321160400:3 1333256400:2 1352005200:3 1362891600:2 1383454800:3 1394341200:2 1414904400:3 1425790800:2 1446354000:3 1457845200:2 1478408400:3 1489294800:2 1509858000:3 1520744400:2 1541307600:3 1552194000:2 1572757200:3 1583643600:2 1604206800:3 1615698000:2 1636261200:3 1647147600:2 1667710800:3 1678597200:2 1699160400:3 1710046800:2 1730610000:3 1741496400:2 1762059600:3 1772946000:2 1793509200:3 1805000400:2 1825563600:3 1836450000:2 1857013200:3 1867899600:2 1888462800:3 1899349200:2 1919912400:3 1930798800:2 1951362000:3 1962853200:2 1983416400:3 1994302800:2 2014866000:3 2025752400:2 2046315600:3 2057202000:2 2077765200:3 2088651600:2 2109214800:3 2120101200:2 2140664400:3|CST5CDT,M3.2.0/0,M11.1.0/1"
  , "America/Hermosillo|0|-26632 -25200 -21600|-1514739600:1 -1343149200:2 -1234807200:1 -1220461200:2 -1207159200:1 -1191344400:2 -873828000:1 828867600:2 846403200:1 860317200:2 877852800:1 891766800:2 909302400:1|MST7"
  , "America/Indiana/Indianapolis America/Fort_Wayne America/Indianapolis US/East-Indiana|0|-20678 -18000 -21600 -14400|-2717647200:2 -1633276800:1 -1615136400:2 -1601827200:1 -1583686800:2 -900259200:1 -891795600:2 -880214400:1 -769395600:1 -765392400:2 -747244800:1 -733942800:2 -715795200:1 -702493200:2 -684345600:1 -671043600:2 -652896000:1 -639594000:2 -620841600:1 -608144400:2 -589392000:1 -576090000:2 -557942400:1 -544640400:2 -526492800:1 -513190800:2 -495043200:1 -481741200:2 -463593600:1 -386787600:2 -368640000:1 -21488400:3 -5767200:1 9961200:3 25682400:1 1143961200:3 1162101600:1 1173596400:3 1194156000:1 1205046000:3 1225605600:1 1236495600:3 1257055200:1 1268550000:3 1289109600:1 1299999600:3 1320559200:1 1331449200:3 1352008800:1 1362898800:3 1383458400:1 1394348400:3 1414908000:1 1425798000:3 1446357600:1 1457852400:3 1478412000:1 1489302000:3 1509861600:1 1520751600:3 1541311200:1 1552201200:3 1572760800:1 1583650800:3 1604210400:1 1615705200:3 1636264800:1 1647154800:3 1667714400:1 1678604400:3 1699164000:1 1710054000:3 1730613600:1 1741503600:3 1762063200:1 1772953200:3 1793512800:1 1805007600:3 1825567200:1 1836457200:3 1857016800:1 1867906800:3 1888466400:1 1899356400:3 1919916000:1 1930806000:3 1951365600:1 1962860400:3 1983420000:1 1994310000:3 2014869600:1 2025759600:3 2046319200:1 2057209200:3 2077768800:1 2088658800:3 2109218400:1 2120108400:3 2140668000:1|EST5EDT,M3.2.0,M11.1.0"
  , "America/Indiana/Knox America/Knox_IN US/Indiana-Starke|0|-20790 -18000 -21600|-2717647200:2 -1633276800:1 -1615136400:2 -1601827200:1 -1583686800:2 -880214400:1 -769395600:1 -765392400:2 -715795200:1 -702493200:2 -684345600:1 -671043600:2 -652896000:1 -639594000:2 -620841600:1 -608144400:2 -589392000:1 -576090000:2 -557942400:1 -544640400:2 -526492800:1 -513190800:2 -495043200:1 -481741200:2 -463593600:1 -447267600:2 -431539200:1 -415818000:2 -400089600:1 -386787600:2 -368640000:1 -355338000:2 -337190400:1 -321469200:2 -305740800:1 -289414800:2 -273686400:1 -257965200:2 -242236800:1 -195066000:2 -84384000:1 -68662800:2 -52934400:1 -37213200:2 -21484800:1 -5763600:2 9964800:1 25686000:2 41414400:1 57740400:2 73468800:1 89190000:2 104918400:1 120639600:2 126691200:1 152089200:2 162374400:1 183538800:2 199267200:1 215593200:2 230716800:1 247042800:2 262771200:1 278492400:2 294220800:1 309942000:2 325670400:1 341391600:2 357120000:1 372841200:2 388569600:1 404895600:2 420019200:1 436345200:2 452073600:1 467794800:2 483523200:1 499244400:2 514972800:1 530694000:2 544608000:1 562143600:2 576057600:1 594198000:2 607507200:1 625647600:2 638956800:1 657097200:2 671011200:1 688546800:1 1143961200:1 1162105200:2 1173600000:1 1194159600:2 1205049600:1 1225609200:2 1236499200:1 1257058800:2 1268553600:1 1289113200:2 1300003200:1 1320562800:2 1331452800:1 1352012400:2 1362902400:1 1383462000:2 1394352000:1 1414911600:2 1425801600:1 1446361200:2 1457856000:1 1478415600:2 1489305600:1 1509865200:2 1520755200:1 1541314800:2 1552204800:1 1572764400:2 1583654400:1 1604214000:2 1615708800:1 1636268400:2 1647158400:1 1667718000:2 1678608000:1 1699167600:2 1710057600:1 1730617200:2 1741507200:1 1762066800:2 1772956800:1 1793516400:2 1805011200:1 1825570800:2 1836460800:1 1857020400:2 1867910400:1 1888470000:2 1899360000:1 1919919600:2 1930809600:1 1951369200:2 1962864000:1 1983423600:2 1994313600:1 2014873200:2 2025763200:1 2046322800:2 2057212800:1 2077772400:2 2088662400:1 2109222000:2 2120112000:1 2140671600:2|CST6CDT,M3.2.0,M11.1.0"
  , "America/Indiana/Marengo|0|-20723 -18000 -21600 -14400|-2717647200:2 -1633276800:1 -1615136400:2 -1601827200:1 -1583686800:2 -880214400:1 -769395600:1 -765392400:2 -589392000:1 -576090000:2 -495043200:1 -481741200:2 -463593600:1 -450291600:2 -431539200:1 -418237200:2 -400089600:1 -386787600:2 -368640000:1 -355338000:2 -337190400:1 -323888400:2 -305740800:1 -292438800:2 -273686400:1 -21488400:3 -5767200:1 9961200:3 25682400:1 41410800:3 57736800:1 73465200:3 89186400:1 104914800:3 120636000:1 126687600:1 152089200:1 162370800:3 183535200:1 1143961200:3 1162101600:1 1173596400:3 1194156000:1 1205046000:3 1225605600:1 1236495600:3 1257055200:1 1268550000:3 1289109600:1 1299999600:3 1320559200:1 1331449200:3 1352008800:1 1362898800:3 1383458400:1 1394348400:3 1414908000:1 1425798000:3 1446357600:1 1457852400:3 1478412000:1 1489302000:3 1509861600:1 1520751600:3 1541311200:1 1552201200:3 1572760800:1 1583650800:3 1604210400:1 1615705200:3 1636264800:1 1647154800:3 1667714400:1 1678604400:3 1699164000:1 1710054000:3 1730613600:1 1741503600:3 1762063200:1 1772953200:3 1793512800:1 1805007600:3 1825567200:1 1836457200:3 1857016800:1 1867906800:3 1888466400:1 1899356400:3 1919916000:1 1930806000:3 1951365600:1 1962860400:3 1983420000:1 1994310000:3 2014869600:1 2025759600:3 2046319200:1 2057209200:3 2077768800:1 2088658800:3 2109218400:1 2120108400:3 2140668000:1|EST5EDT,M3.2.0,M11.1.0"
  , "America/Indiana/Petersburg|0|-20947 -18000 -21600 -14400|-2717647200:2 -1633276800:1 -1615136400:2 -1601827200:1 -1583686800:2 -880214400:1 -769395600:1 -765392400:2 -462996000:1 -450291600:2 -431539200:1 -418237200:2 -400089600:1 -386787600:2 -368640000:1 -355338000:2 -337190400:1 -323888400:2 -305740800:1 -292438800:2 -273686400:1 -257965200:2 -242236800:1 -226515600:2 -210787200:1 -195066000:2 -179337600:1 -163616400:2 -147888000:1 -100112400:2 -84384000:1 -68662800:2 -52934400:1 -37213200:2 -21484800:1 -5763600:2 9964800:1 25686000:2 41414400:1 57740400:2 73468800:1 89190000:2 104918400:1 120639600:2 126691200:1 152089200:2 162374400:1 183538800:2 199267200:1 215593200:2 230716800:1 247042800:1 1143961200:1 1162105200:2 1173600000:1 1194159600:1 1205046000:3 1225605600:1 1236495600:3 1257055200:1 1268550000:3 1289109600:1 1299999600:3 1320559200:1 1331449200:3 1352008800:1 1362898800:3 1383458400:1 1394348400:3 1414908000:1 1425798000:3 1446357600:1 1457852400:3 1478412000:1 1489302000:3 1509861600:1 1520751600:3 1541311200:1 1552201200:3 1572760800:1 1583650800:3 1604210400:1 1615705200:3 1636264800:1 1647154800:3 1667714400:1 1678604400:3 1699164000:1 1710054000:3 1730613600:1 1741503600:3 1762063200:1 1772953200:3 1793512800:1 1805007600:3 1825567200:1 1836457200:3 1857016800:1 1867906800:3 1888466400:1 1899356400:3 1919916000:1 1930806000:3 1951365600:1 1962860400:3 1983420000:1 1994310000:3 2014869600:1 2025759600:3 2046319200:1 2057209200:3 2077768800:1 2088658800:3 2109218400:1 2120108400:3 2140668000:1|EST5EDT,M3.2.0,M11.1.0"
  , "America/Indiana/Tell_City|0|-20823 -18000 -21600 -14400|-2717647200:2 -1633276800:1 -1615136400:2 -1601827200:1 -1583686800:2 -880214400:1 -769395600:1 -765392400:2 -462996000:1 -450291600:2 -431539200:1 -418237200:2 -400089600:1 -386787600:2 -368640000:1 -355338000:2 -337190400:1 -323888400:2 -305740800:1 -292438800:2 -273686400:1 -257965200:2 -242236800:1 -226515600:2 -210787200:1 -195066000:2 -179337600:1 -68662800:2 -52934400:1 -37213200:2 -21484800:3 -5767200:1 9961200:3 25682400:1 1143961200:1 1162105200:2 1173600000:1 1194159600:2 1205049600:1 1225609200:2 1236499200:1 1257058800:2 1268553600:1 1289113200:2 1300003200:1 1320562800:2 1331452800:1 1352012400:2 1362902400:1 1383462000:2 1394352000:1 1414911600:2 1425801600:1 1446361200:2 1457856000:1 1478415600:2 1489305600:1 1509865200:2 1520755200:1 1541314800:2 1552204800:1 1572764400:2 1583654400:1 1604214000:2 1615708800:1 1636268400:2 1647158400:1 1667718000:2 1678608000:1 1699167600:2 1710057600:1 1730617200:2 1741507200:1 1762066800:2 1772956800:1 1793516400:2 1805011200:1 1825570800:2 1836460800:1 1857020400:2 1867910400:1 1888470000:2 1899360000:1 1919919600:2 1930809600:1 1951369200:2 1962864000:1 1983423600:2 1994313600:1 2014873200:2 2025763200:1 2046322800:2 2057212800:1 2077772400:2 2088662400:1 2109222000:2 2120112000:1 2140671600:2|CST6CDT,M3.2.0,M11.1.0"
  , "America/Indiana/Vevay|0|-20416 -18000 -21600 -14400|-2717647200:2 -1633276800:1 -1615136400:2 -1601827200:1 -1583686800:2 -880214400:1 -769395600:1 -765392400:2 -495043200:1 -21488400:3 -5767200:1 9961200:3 25682400:1 41410800:3 57736800:1 73465200:3 89186400:1 1143961200:3 1162101600:1 1173596400:3 1194156000:1 1205046000:3 1225605600:1 1236495600:3 1257055200:1 1268550000:3 1289109600:1 1299999600:3 1320559200:1 1331449200:3 1352008800:1 1362898800:3 1383458400:1 1394348400:3 1414908000:1 1425798000:3 1446357600:1 1457852400:3 1478412000:1 1489302000:3 1509861600:1 1520751600:3 1541311200:1 1552201200:3 1572760800:1 1583650800:3 1604210400:1 1615705200:3 1636264800:1 1647154800:3 1667714400:1 1678604400:3 1699164000:1 1710054000:3 1730613600:1 1741503600:3 1762063200:1 1772953200:3 1793512800:1 1805007600:3 1825567200:1 1836457200:3 1857016800:1 1867906800:3 1888466400:1 1899356400:3 1919916000:1 1930806000:3 1951365600:1 1962860400:3 1983420000:1 1994310000:3 2014869600:1 2025759600:3 2046319200:1 2057209200:3 2077768800:1 2088658800:3 2109218400:1 2120108400:3 2140668000:1|EST5EDT,M3.2.0,M11.1.0"
  , "America/Indiana/Vincennes|0|-21007 -18000 -21600 -14400|-2717647200:2 -1633276800:1 -1615136400:2 -1601827200:1 -1583686800:2 -880214400:1 -769395600:1 -765392400:2 -747244800:1 -733942800:2 -526492800:1 -513190800:2 -495043200:1 -481741200:2 -462996000:1 -450291600:2 -431539200:1 -418237200:2 -400089600:1 -386787600:2 -368640000:1 -355338000:2 -337190400:1 -323888400:2 -305740800:1 -289414800:2 -273686400:1 -260989200:2 -242236800:1 -226515600:2 -210787200:1 -195066000:2 -179337600:1 -21488400:3 -5767200:1 9961200:3 25682400:1 1143961200:1 1162105200:2 1173600000:1 1194159600:1 1205046000:3 1225605600:1 1236495600:3 1257055200:1 1268550000:3 1289109600:1 1299999600:3 1320559200:1 1331449200:3 1352008800:1 1362898800:3 1383458400:1 1394348400:3 1414908000:1 1425798000:3 1446357600:1 1457852400:3 1478412000:1 1489302000:3 1509861600:1 1520751600:3 1541311200:1 1552201200:3 1572760800:1 1583650800:3 1604210400:1 1615705200:3 1636264800:1 1647154800:3 1667714400:1 1678604400:3 1699164000:1 1710054000:3 1730613600:1 1741503600:3 1762063200:1 1772953200:3 1793512800:1 1805007600:3 1825567200:1 1836457200:3 1857016800:1 1867906800:3 1888466400:1 1899356400:3 1919916000:1 1930806000:3 1951365600:1 1962860400:3 1983420000:1 1994310000:3 2014869600:1 2025759600:3 2046319200:1 2057209200:3 2077768800:1 2088658800:3 2109218400:1 2120108400:3 2140668000:1|EST5EDT,M3.2.0,M11.1.0"
  , "America/Indiana/Winamac|0|-20785 -18000 -21600 -14400|-2717647200:2 -1633276800:1 -1615136400:2 -1601827200:1 -1583686800:2 -880214400:1 -769395600:1 -765392400:2 -747244800:1 -733942800:2 -715795200:1 -702493200:2 -684345600:1 -671043600:2 -652896000:1 -639594000:2 -620841600:1 -608144400:2 -589392000:1 -576090000:2 -557942400:1 -544640400:2 -526492800:1 -513190800:2 -495043200:1 -481741200:2 -463593600:1 -447267600:2 -431539200:1 -415818000:2 -400089600:1 -386787600:2 -368640000:1 -355338000:2 -337190400:1 -323888400:2 -305740800:1 -292438800:2 -273686400:1 -21488400:3 -5767200:1 9961200:3 25682400:1 1143961200:1 1162105200:2 1173600000:3 1194156000:1 1205046000:3 1225605600:1 1236495600:3 1257055200:1 1268550000:3 1289109600:1 1299999600:3 1320559200:1 1331449200:3 1352008800:1 1362898800:3 1383458400:1 1394348400:3 1414908000:1 1425798000:3 1446357600:1 1457852400:3 1478412000:1 1489302000:3 1509861600:1 1520751600:3 1541311200:1 1552201200:3 1572760800:1 1583650800:3 1604210400:1 1615705200:3 1636264800:1 1647154800:3 1667714400:1 1678604400:3 1699164000:1 1710054000:3 1730613600:1 1741503600:3 1762063200:1 1772953200:3 1793512800:1 1805007600:3 1825567200:1 1836457200:3 1857016800:1 1867906800:3 1888466400:1 1899356400:3 1919916000:1 1930806000:3 1951365600:1 1962860400:3 1983420000:1 1994310000:3 2014869600:1 2025759600:3 2046319200:1 2057209200:3 2077768800:1 2088658800:3 2109218400:1 2120108400:3 2140668000:1|EST5EDT,M3.2.0,M11.1.0"
  , "America/Inuvik|0|0 -25200 -28800 -21600|-536457600:2 73476000:1 89197200:2 104925600:1 120646800:2 136375200:1 152096400:2 167824800:1 183546000:2 199274400:1 215600400:2 230724000:1 247050000:2 262778400:1 278499600:2 294228000:3 309945600:1 325674000:3 341395200:1 357123600:3 372844800:1 388573200:3 404899200:1 420022800:3 436348800:1 452077200:3 467798400:1 483526800:3 499248000:1 514976400:3 530697600:1 544611600:3 562147200:1 576061200:3 594201600:1 607510800:3 625651200:1 638960400:3 657100800:1 671014800:3 688550400:1 702464400:3 720000000:1 733914000:3 752054400:1 765363600:3 783504000:1 796813200:3 814953600:1 828867600:3 846403200:1 860317200:3 877852800:1 891766800:3 909302400:1 923216400:3 941356800:1 954666000:3 972806400:1 986115600:3 1004256000:1 1018170000:3 1035705600:1 1049619600:3 1067155200:1 1081069200:3 1099209600:1 1112518800:3 1130659200:1 1143968400:3 1162108800:1 1173603600:3 1194163200:1 1205053200:3 1225612800:1 1236502800:3 1257062400:1 1268557200:3 1289116800:1 1300006800:3 1320566400:1 1331456400:3 1352016000:1 1362906000:3 1383465600:1 1394355600:3 1414915200:1 1425805200:3 1446364800:1 1457859600:3 1478419200:1 1489309200:3 1509868800:1 1520758800:3 1541318400:1 1552208400:3 1572768000:1 1583658000:3 1604217600:1 1615712400:3 1636272000:1 1647162000:3 1667721600:1 1678611600:3 1699171200:1 1710061200:3 1730620800:1 1741510800:3 1762070400:1 1772960400:3 1793520000:1 1805014800:3 1825574400:1 1836464400:3 1857024000:1 1867914000:3 1888473600:1 1899363600:3 1919923200:1 1930813200:3 1951372800:1 1962867600:3 1983427200:1 1994317200:3 2014876800:1 2025766800:3 2046326400:1 2057216400:3 2077776000:1 2088666000:3 2109225600:1 2120115600:3 2140675200:1|MST7MDT,M3.2.0,M11.1.0"
  , "America/Iqaluit America/Pangnirtung|0|0 -14400 -18000 -21600|-865296000:1 -769395600:1 -765396000:2 73465200:1 89186400:2 104914800:1 120636000:2 136364400:1 152085600:2 167814000:1 183535200:2 199263600:1 215589600:2 230713200:1 247039200:2 262767600:1 278488800:2 294217200:1 309938400:2 325666800:1 341388000:2 357116400:1 372837600:2 388566000:1 404892000:2 420015600:1 436341600:2 452070000:1 467791200:2 483519600:1 499240800:2 514969200:1 530690400:2 544604400:1 562140000:2 576054000:1 594194400:2 607503600:1 625644000:2 638953200:1 657093600:2 671007600:1 688543200:2 702457200:1 719992800:2 733906800:1 752047200:2 765356400:1 783496800:2 796806000:1 814946400:2 828860400:1 846396000:2 860310000:1 877845600:2 891759600:1 909295200:2 923209200:1 941349600:3 954662400:2 972802800:2 986108400:1 1004248800:2 1018162800:1 1035698400:2 1049612400:1 1067148000:2 1081062000:1 1099202400:2 1112511600:1 1130652000:2 1143961200:1 1162101600:2 1173596400:1 1194156000:2 1205046000:1 1225605600:2 1236495600:1 1257055200:2 1268550000:1 1289109600:2 1299999600:1 1320559200:2 1331449200:1 1352008800:2 1362898800:1 1383458400:2 1394348400:1 1414908000:2 1425798000:1 1446357600:2 1457852400:1 1478412000:2 1489302000:1 1509861600:2 1520751600:1 1541311200:2 1552201200:1 1572760800:2 1583650800:1 1604210400:2 1615705200:1 1636264800:2 1647154800:1 1667714400:2 1678604400:1 1699164000:2 1710054000:1 1730613600:2 1741503600:1 1762063200:2 1772953200:1 1793512800:2 1805007600:1 1825567200:2 1836457200:1 1857016800:2 1867906800:1 1888466400:2 1899356400:1 1919916000:2 1930806000:1 1951365600:2 1962860400:1 1983420000:2 1994310000:1 2014869600:2 2025759600:1 2046319200:2 2057209200:1 2077768800:2 2088658800:1 2109218400:2 2120108400:1 2140668000:2|EST5EDT,M3.2.0,M11.1.0"
  , "America/Jamaica Jamaica|0|-18430 -18000 -14400|-2524503170:0 -1827687170:1 126687600:2 152085600:1 162370800:2 183535200:1 199263600:2 215589600:1 230713200:2 247039200:1 262767600:2 278488800:1 294217200:2 309938400:1 325666800:2 341388000:1 357116400:2 372837600:1 388566000:2 404892000:1 420015600:2 436341600:1|EST5"
  , "America/Juneau|0|54139 -32261 -28800 -25200 -32400|-3225223727:1 -2188954939:2 -880207200:3 -769395600:3 -765385200:2 -21477600:3 -5756400:2 9972000:3 25693200:2 41421600:3 57747600:2 73476000:3 89197200:2 104925600:3 120646800:2 126698400:3 152096400:2 162381600:3 183546000:2 199274400:3 215600400:2 230724000:3 247050000:2 262778400:3 278499600:2 294228000:3 309949200:2 325677600:2 341402400:2 357127200:3 372848400:2 388576800:3 404902800:2 420026400:3 436352400:4 439030800:4 452084400:2 467805600:4 483534000:2 499255200:4 514983600:2 530704800:4 544618800:2 562154400:4 576068400:2 594208800:4 607518000:2 625658400:4 638967600:2 657108000:4 671022000:2 688557600:4 702471600:2 720007200:4 733921200:2 752061600:4 765370800:2 783511200:4 796820400:2 814960800:4 828874800:2 846410400:4 860324400:2 877860000:4 891774000:2 909309600:4 923223600:2 941364000:4 954673200:2 972813600:4 986122800:2 1004263200:4 1018177200:2 1035712800:4 1049626800:2 1067162400:4 1081076400:2 1099216800:4 1112526000:2 1130666400:4 1143975600:2 1162116000:4 1173610800:2 1194170400:4 1205060400:2 1225620000:4 1236510000:2 1257069600:4 1268564400:2 1289124000:4 1300014000:2 1320573600:4 1331463600:2 1352023200:4 1362913200:2 1383472800:4 1394362800:2 1414922400:4 1425812400:2 1446372000:4 1457866800:2 1478426400:4 1489316400:2 1509876000:4 1520766000:2 1541325600:4 1552215600:2 1572775200:4 1583665200:2 1604224800:4 1615719600:2 1636279200:4 1647169200:2 1667728800:4 1678618800:2 1699178400:4 1710068400:2 1730628000:4 1741518000:2 1762077600:4 1772967600:2 1793527200:4 1805022000:2 1825581600:4 1836471600:2 1857031200:4 1867921200:2 1888480800:4 1899370800:2 1919930400:4 1930820400:2 1951380000:4 1962874800:2 1983434400:4 1994324400:2 2014884000:4 2025774000:2 2046333600:4 2057223600:2 2077783200:4 2088673200:2 2109232800:4 2120122800:2 2140682400:4|AKST9AKDT,M3.2.0,M11.1.0"
  , "America/Kentucky/Louisville America/Louisville|0|-20582 -18000 -21600 -14400|-2717647200:2 -1633276800:1 -1615136400:2 -1601827200:1 -1583686800:2 -1535904000:1 -1525280400:2 -905097600:1 -891795600:2 -880214400:1 -769395600:1 -765392400:2 -747251940:1 -744224400:2 -620841600:1 -608144400:2 -589392000:1 -576090000:2 -557942400:1 -544640400:2 -526492800:1 -513190800:2 -495043200:1 -481741200:2 -463593600:1 -450291600:2 -431539200:1 -415818000:2 -400089600:1 -384368400:2 -368640000:1 -352918800:2 -337190400:1 -321469200:2 -305740800:1 -289414800:2 -273686400:1 -266432400:1 -52938000:3 -37216800:1 -21488400:3 -5767200:1 9961200:3 25682400:1 41410800:3 57736800:1 73465200:3 89186400:1 104914800:3 120636000:1 126687600:1 152089200:1 162370800:3 183535200:1 199263600:3 215589600:1 230713200:3 247039200:1 262767600:3 278488800:1 294217200:3 309938400:1 325666800:3 341388000:1 357116400:3 372837600:1 388566000:3 404892000:1 420015600:3 436341600:1 452070000:3 467791200:1 483519600:3 499240800:1 514969200:3 530690400:1 544604400:3 562140000:1 576054000:3 594194400:1 607503600:3 625644000:1 638953200:3 657093600:1 671007600:3 688543200:1 702457200:3 719992800:1 733906800:3 752047200:1 765356400:3 783496800:1 796806000:3 814946400:1 828860400:3 846396000:1 860310000:3 877845600:1 891759600:3 909295200:1 923209200:3 941349600:1 954658800:3 972799200:1 986108400:3 1004248800:1 1018162800:3 1035698400:1 1049612400:3 1067148000:1 1081062000:3 1099202400:1 1112511600:3 1130652000:1 1143961200:3 1162101600:1 1173596400:3 1194156000:1 1205046000:3 1225605600:1 1236495600:3 1257055200:1 1268550000:3 1289109600:1 1299999600:3 1320559200:1 1331449200:3 1352008800:1 1362898800:3 1383458400:1 1394348400:3 1414908000:1 1425798000:3 1446357600:1 1457852400:3 1478412000:1 1489302000:3 1509861600:1 1520751600:3 1541311200:1 1552201200:3 1572760800:1 1583650800:3 1604210400:1 1615705200:3 1636264800:1 1647154800:3 1667714400:1 1678604400:3 1699164000:1 1710054000:3 1730613600:1 1741503600:3 1762063200:1 1772953200:3 1793512800:1 1805007600:3 1825567200:1 1836457200:3 1857016800:1 1867906800:3 1888466400:1 1899356400:3 1919916000:1 1930806000:3 1951365600:1 1962860400:3 1983420000:1 1994310000:3 2014869600:1 2025759600:3 2046319200:1 2057209200:3 2077768800:1 2088658800:3 2109218400:1 2120108400:3 2140668000:1|EST5EDT,M3.2.0,M11.1.0"
  , "America/Kentucky/Monticello|0|-20364 -18000 -21600 -14400|-2717647200:2 -1633276800:1 -1615136400:2 -1601827200:1 -1583686800:2 -880214400:1 -769395600:1 -765392400:2 -52934400:1 -37213200:2 -21484800:1 -5763600:2 9964800:1 25686000:2 41414400:1 57740400:2 73468800:1 89190000:2 104918400:1 120639600:2 126691200:1 152089200:2 162374400:1 183538800:2 199267200:1 215593200:2 230716800:1 247042800:2 262771200:1 278492400:2 294220800:1 309942000:2 325670400:1 341391600:2 357120000:1 372841200:2 388569600:1 404895600:2 420019200:1 436345200:2 452073600:1 467794800:2 483523200:1 499244400:2 514972800:1 530694000:2 544608000:1 562143600:2 576057600:1 594198000:2 607507200:1 625647600:2 638956800:1 657097200:2 671011200:1 688546800:2 702460800:1 719996400:2 733910400:1 752050800:2 765360000:1 783500400:2 796809600:1 814950000:2 828864000:1 846399600:2 860313600:1 877849200:2 891763200:1 909298800:2 923212800:1 941353200:2 954662400:1 972802800:1 986108400:3 1004248800:1 1018162800:3 1035698400:1 1049612400:3 1067148000:1 1081062000:3 1099202400:1 1112511600:3 1130652000:1 1143961200:3 1162101600:1 1173596400:3 1194156000:1 1205046000:3 1225605600:1 1236495600:3 1257055200:1 1268550000:3 1289109600:1 1299999600:3 1320559200:1 1331449200:3 1352008800:1 1362898800:3 1383458400:1 1394348400:3 1414908000:1 1425798000:3 1446357600:1 1457852400:3 1478412000:1 1489302000:3 1509861600:1 1520751600:3 1541311200:1 1552201200:3 1572760800:1 1583650800:3 1604210400:1 1615705200:3 1636264800:1 1647154800:3 1667714400:1 1678604400:3 1699164000:1 1710054000:3 1730613600:1 1741503600:3 1762063200:1 1772953200:3 1793512800:1 1805007600:3 1825567200:1 1836457200:3 1857016800:1 1867906800:3 1888466400:1 1899356400:3 1919916000:1 1930806000:3 1951365600:1 1962860400:3 1983420000:1 1994310000:3 2014869600:1 2025759600:3 2046319200:1 2057209200:3 2077768800:1 2088658800:3 2109218400:1 2120108400:3 2140668000:1|EST5EDT,M3.2.0,M11.1.0"
  , "America/La_Paz|0|-16356 -12756 -14400|-2524505244:0 -1205954844:1 -1192307244:2 2147483647:2|<-04>4"
  , "America/Lima|0|-18492 -18516 -14400 -18000|-2524503108:1 -1938538284:3 -1009825200:2 -1002052800:3 -986756400:2 -971035200:3 -955306800:2 -939585600:3 504939600:2 512712000:3 536475600:2 544248000:3 631170000:2 638942400:3 757400400:2 765172800:3 2147483647:3|<-05>5"
  , "America/Los_Angeles US/Pacific|0|-28378 -25200 -28800|-2717640000:2 -1633269600:1 -1615129200:2 -1601820000:1 -1583679600:2 -880207200:1 -769395600:1 -765385200:2 -687967140:1 -662655600:2 -620838000:1 -608137200:2 -589388400:1 -576082800:2 -557938800:1 -544633200:2 -526489200:1 -513183600:2 -495039600:1 -481734000:2 -463590000:1 -450284400:2 -431535600:1 -418230000:2 -400086000:1 -386780400:2 -368636400:1 -355330800:2 -337186800:1 -323881200:2 -305737200:1 -292431600:2 -273682800:1 -260982000:2 -242233200:1 -226508400:2 -210783600:1 -195058800:2 -179334000:1 -163609200:2 -147884400:1 -131554800:2 -116434800:1 -100105200:2 -84376800:1 -68655600:2 -52927200:1 -37206000:2 -21477600:1 -5756400:2 9972000:1 25693200:2 41421600:1 57747600:2 73476000:1 89197200:2 104925600:1 120646800:2 126698400:1 152096400:2 162381600:1 183546000:2 199274400:1 215600400:2 230724000:1 247050000:2 262778400:1 278499600:2 294228000:1 309949200:2 325677600:1 341398800:2 357127200:1 372848400:2 388576800:1 404902800:2 420026400:1 436352400:2 452080800:1 467802000:2 483530400:1 499251600:2 514980000:1 530701200:2 544615200:1 562150800:2 576064800:1 594205200:2 607514400:1 625654800:2 638964000:1 657104400:2 671018400:1 688554000:2 702468000:1 720003600:2 733917600:1 752058000:2 765367200:1 783507600:2 796816800:1 814957200:2 828871200:1 846406800:2 860320800:1 877856400:2 891770400:1 909306000:2 923220000:1 941360400:2 954669600:1 972810000:2 986119200:1 1004259600:2 1018173600:1 1035709200:2 1049623200:1 1067158800:2 1081072800:1 1099213200:2 1112522400:1 1130662800:2 1143972000:1 1162112400:2 1173607200:1 1194166800:2 1205056800:1 1225616400:2 1236506400:1 1257066000:2 1268560800:1 1289120400:2 1300010400:1 1320570000:2 1331460000:1 1352019600:2 1362909600:1 1383469200:2 1394359200:1 1414918800:2 1425808800:1 1446368400:2 1457863200:1 1478422800:2 1489312800:1 1509872400:2 1520762400:1 1541322000:2 1552212000:1 1572771600:2 1583661600:1 1604221200:2 1615716000:1 1636275600:2 1647165600:1 1667725200:2 1678615200:1 1699174800:2 1710064800:1 1730624400:2 1741514400:1 1762074000:2 1772964000:1 1793523600:2 1805018400:1 1825578000:2 1836468000:1 1857027600:2 1867917600:1 1888477200:2 1899367200:1 1919926800:2 1930816800:1 1951376400:2 1962871200:1 1983430800:2 1994320800:1 2014880400:2 2025770400:1 2046330000:2 2057220000:1 2077779600:2 2088669600:1 2109229200:2 2120119200:1 2140678800:2|PST8PDT,M3.2.0,M11.1.0"
  , "America/Maceio|0|-8572 -7200 -10800|-1767217028:2 -1206957600:1 -1191362400:2 -1175374800:1 -1159826400:2 -633819600:1 -622069200:2 -602283600:1 -591832800:2 -570747600:1 -560210400:2 -539125200:1 -531352800:2 -191365200:1 -184197600:2 -155163600:1 -150069600:2 -128898000:1 -121125600:2 -99954000:1 -89589600:2 -68418000:1 -57967200:2 499748400:1 511236000:2 530593200:1 540266400:2 562129200:1 571197600:2 592974000:1 602042400:2 624423600:1 634701600:2 813726000:1 824004000:2 938919600:1 951616800:2 970974000:1 972180000:2 1003028400:1 1013911200:2 2147483647:2|<-03>3"
  , "America/Managua|0|-20708 -20712 -21600 -18000|-2524500892:1 -1121105688:2 105084000:3 161758800:2 290584800:3 299134800:2 322034400:3 330584400:2 694260000:3 717310800:2 725868000:3 852094800:2 1113112800:3 1128229200:2 1146384000:3 1159682400:2|CST6"
  , "America/Manaus Brazil/West|0|-14404 -10800 -14400|-1767211196:2 -1206954000:1 -1191358800:2 -1175371200:1 -1159822800:2 -633816000:1 -622065600:2 -602280000:1 -591829200:2 -570744000:1 -560206800:2 -539121600:1 -531349200:2 -191361600:1 -184194000:2 -155160000:1 -150066000:2 -128894400:1 -121122000:2 -99950400:1 -89586000:2 -68414400:1 -57963600:2 499752000:1 511239600:2 530596800:1 540270000:2 562132800:1 571201200:2 750830400:1 761713200:2 2147483647:2|<-04>4"
  , "America/Martinique|0|-14660 -14400 -10800|-2524506940:0 -1851537340:1 323841600:2 338958000:1|AST4"
  , "America/Matamoros|0|-23400 -21600 -18000|-1514743200:1 576057600:2 594198000:1 828864000:2 846399600:1 860313600:2 877849200:1 891763200:2 909298800:1 923212800:2 941353200:1 954662400:2 972802800:1 989136000:2 1001833200:1 1018166400:2 1035702000:1 1049616000:2 1067151600:1 1081065600:2 1099206000:1 1112515200:2 1130655600:1 1143964800:2 1162105200:1 1175414400:2 1193554800:1 1207468800:2 1225004400:1 1238918400:2 1256454000:1 1268553600:2 1289113200:1 1300003200:2 1320562800:1 1331452800:2 1352012400:1 1362902400:2 1383462000:1 1394352000:2 1414911600:1 1425801600:2 1446361200:1 1457856000:2 1478415600:1 1489305600:2 1509865200:1 1520755200:2 1541314800:1 1552204800:2 1572764400:1 1583654400:2 1604214000:1 1615708800:2 1636268400:1 1647158400:2 1667718000:1 1678608000:2 1699167600:1 1710057600:2 1730617200:1 1741507200:2 1762066800:1 1772956800:2 1793516400:1 1805011200:2 1825570800:1 1836460800:2 1857020400:1 1867910400:2 1888470000:1 1899360000:2 1919919600:1 1930809600:2 1951369200:1 1962864000:2 1983423600:1 1994313600:2 2014873200:1 2025763200:2 2046322800:1 2057212800:2 2077772400:1 2088662400:2 2109222000:1 2120112000:2 2140671600:1|CST6CDT,M3.2.0,M11.1.0"
  , "America/Mazatlan Mexico/BajaSur|0|-25540 -25200 -21600|-1514739600:1 -1343149200:2 -1234807200:1 -1220461200:2 -1207159200:1 -1191344400:2 -873828000:1 828867600:2 846403200:1 860317200:2 877852800:1 891766800:2 909302400:1 923216400:2 941356800:1 954666000:2 972806400:1 989139600:2 1001836800:1 1018170000:2 1035705600:1 1049619600:2 1067155200:1 1081069200:2 1099209600:1 1112518800:2 1130659200:1 1143968400:2 1162108800:1 1175418000:2 1193558400:1 1207472400:2 1225008000:1 1238922000:2 1256457600:1 1270371600:2 1288512000:1 1301821200:2 1319961600:1 1333270800:2 1351411200:1 1365325200:2 1382860800:1 1396774800:2 1414310400:1 1428224400:2 1445760000:1 1459674000:2 1477814400:1 1491123600:2 1509264000:1 1522573200:2 1540713600:1 1554627600:2 1572163200:1 1586077200:2 1603612800:1 1617526800:2 1635667200:1 1648976400:2 1667116800:1|MST7"
  , "America/Menominee|0|-21027 -18000 -21600|-2659759773:2 -1633276800:1 -1615136400:2 -1601827200:1 -1583686800:2 -880214400:1 -769395600:1 -765392400:2 -747244800:1 -733942800:2 -116438400:1 -100112400:2 -21484800:1 104914800:1 120639600:2 126691200:1 152089200:2 162374400:1 183538800:2 199267200:1 215593200:2 230716800:1 247042800:2 262771200:1 278492400:2 294220800:1 309942000:2 325670400:1 341391600:2 357120000:1 372841200:2 388569600:1 404895600:2 420019200:1 436345200:2 452073600:1 467794800:2 483523200:1 499244400:2 514972800:1 530694000:2 544608000:1 562143600:2 576057600:1 594198000:2 607507200:1 625647600:2 638956800:1 657097200:2 671011200:1 688546800:2 702460800:1 719996400:2 733910400:1 752050800:2 765360000:1 783500400:2 796809600:1 814950000:2 828864000:1 846399600:2 860313600:1 877849200:2 891763200:1 909298800:2 923212800:1 941353200:2 954662400:1 972802800:2 986112000:1 1004252400:2 1018166400:1 1035702000:2 1049616000:1 1067151600:2 1081065600:1 1099206000:2 1112515200:1 1130655600:2 1143964800:1 1162105200:2 1173600000:1 1194159600:2 1205049600:1 1225609200:2 1236499200:1 1257058800:2 1268553600:1 1289113200:2 1300003200:1 1320562800:2 1331452800:1 1352012400:2 1362902400:1 1383462000:2 1394352000:1 1414911600:2 1425801600:1 1446361200:2 1457856000:1 1478415600:2 1489305600:1 1509865200:2 1520755200:1 1541314800:2 1552204800:1 1572764400:2 1583654400:1 1604214000:2 1615708800:1 1636268400:2 1647158400:1 1667718000:2 1678608000:1 1699167600:2 1710057600:1 1730617200:2 1741507200:1 1762066800:2 1772956800:1 1793516400:2 1805011200:1 1825570800:2 1836460800:1 1857020400:2 1867910400:1 1888470000:2 1899360000:1 1919919600:2 1930809600:1 1951369200:2 1962864000:1 1983423600:2 1994313600:1 2014873200:2 2025763200:1 2046322800:2 2057212800:1 2077772400:2 2088662400:1 2109222000:2 2120112000:1 2140671600:2|CST6CDT,M3.2.0,M11.1.0"
  , "America/Merida|0|-21508 -21600 -18000|-1514743200:1 378201600:2 405068400:1 828864000:2 846399600:1 860313600:2 877849200:1 891763200:2 909298800:1 923212800:2 941353200:1 954662400:2 972802800:1 989136000:2 1001833200:1 1018166400:2 1035702000:1 1049616000:2 1067151600:1 1081065600:2 1099206000:1 1112515200:2 1130655600:1 1143964800:2 1162105200:1 1175414400:2 1193554800:1 1207468800:2 1225004400:1 1238918400:2 1256454000:1 1270368000:2 1288508400:1 1301817600:2 1319958000:1 1333267200:2 1351407600:1 1365321600:2 1382857200:1 1396771200:2 1414306800:1 1428220800:2 1445756400:1 1459670400:2 1477810800:1 1491120000:2 1509260400:1 1522569600:2 1540710000:1 1554624000:2 1572159600:1 1586073600:2 1603609200:1 1617523200:2 1635663600:1 1648972800:2 1667113200:1|CST6"
  , "America/Metlakatla|0|54822 -31578 -28800 -25200 -32400|-3225223727:1 -2188955622:2 -880207200:3 -769395600:3 -765385200:2 -21477600:3 -5756400:2 9972000:3 25693200:2 41421600:3 57747600:2 73476000:3 89197200:2 104925600:3 120646800:2 126698400:3 152096400:2 162381600:3 183546000:2 199274400:3 215600400:2 230724000:3 247050000:2 262778400:3 278499600:2 294228000:3 309949200:2 325677600:3 341398800:2 357127200:3 372848400:2 388576800:3 404902800:2 420026400:3 436352400:2 1446372000:4 1457866800:2 1478426400:4 1489316400:2 1509876000:4 1520766000:2 1541325600:2 1547978400:4 1552215600:2 1572775200:4 1583665200:2 1604224800:4 1615719600:2 1636279200:4 1647169200:2 1667728800:4 1678618800:2 1699178400:4 1710068400:2 1730628000:4 1741518000:2 1762077600:4 1772967600:2 1793527200:4 1805022000:2 1825581600:4 1836471600:2 1857031200:4 1867921200:2 1888480800:4 1899370800:2 1919930400:4 1930820400:2 1951380000:4 1962874800:2 1983434400:4 1994324400:2 2014884000:4 2025774000:2 2046333600:4 2057223600:2 2077783200:4 2088673200:2 2109232800:4 2120122800:2 2140682400:4|AKST9AKDT,M3.2.0,M11.1.0"
  , "America/Mexico_City Mexico/General|0|-23796 -25200 -21600 -18000|-1514739600:1 -1343149200:2 -1234807200:1 -1220461200:2 -1207159200:1 -1191344400:2 -975261600:3 -963169200:2 -917114400:3 -907354800:2 -821901600:3 -810068400:2 -627501600:3 -612990000:2 828864000:3 846399600:2 860313600:3 877849200:2 891763200:3 909298800:2 923212800:3 941353200:2 954662400:3 972802800:2 989136000:3 1001833200:2 1018166400:3 1035702000:2 1049616000:3 1067151600:2 1081065600:3 1099206000:2 1112515200:3 1130655600:2 1143964800:3 1162105200:2 1175414400:3 1193554800:2 1207468800:3 1225004400:2 1238918400:3 1256454000:2 1270368000:3 1288508400:2 1301817600:3 1319958000:2 1333267200:3 1351407600:2 1365321600:3 1382857200:2 1396771200:3 1414306800:2 1428220800:3 1445756400:2 1459670400:3 1477810800:2 1491120000:3 1509260400:2 1522569600:3 1540710000:2 1554624000:3 1572159600:2 1586073600:3 1603609200:2 1617523200:3 1635663600:2 1648972800:3 1667113200:2|CST6"
  , "America/Miquelon|0|-13480 -14400 -10800 -7200|-1847650520:1 326001600:2 544597200:3 562132800:2 576046800:3 594187200:2 607496400:3 625636800:2 638946000:3 657086400:2 671000400:3 688536000:2 702450000:3 719985600:2 733899600:3 752040000:2 765349200:3 783489600:2 796798800:3 814939200:2 828853200:3 846388800:2 860302800:3 877838400:2 891752400:3 909288000:2 923202000:3 941342400:2 954651600:3 972792000:2 986101200:3 1004241600:2 1018155600:3 1035691200:2 1049605200:3 1067140800:2 1081054800:3 1099195200:2 1112504400:3 1130644800:2 1143954000:3 1162094400:2 1173589200:3 1194148800:2 1205038800:3 1225598400:2 1236488400:3 1257048000:2 1268542800:3 1289102400:2 1299992400:3 1320552000:2 1331442000:3 1352001600:2 1362891600:3 1383451200:2 1394341200:3 1414900800:2 1425790800:3 1446350400:2 1457845200:3 1478404800:2 1489294800:3 1509854400:2 1520744400:3 1541304000:2 1552194000:3 1572753600:2 1583643600:3 1604203200:2 1615698000:3 1636257600:2 1647147600:3 1667707200:2 1678597200:3 1699156800:2 1710046800:3 1730606400:2 1741496400:3 1762056000:2 1772946000:3 1793505600:2 1805000400:3 1825560000:2 1836450000:3 1857009600:2 1867899600:3 1888459200:2 1899349200:3 1919908800:2 1930798800:3 1951358400:2 1962853200:3 1983412800:2 1994302800:3 2014862400:2 2025752400:3 2046312000:2 2057202000:3 2077761600:2 2088651600:3 2109211200:2 2120101200:3 2140660800:2 2147483647:2|<-03>3<-02>,M3.2.0,M11.1.0"
  , "America/Moncton|0|-15548 -18000 -10800 -14400|-2715882052:1 -2131642800:3 -1632074400:2 -1615143600:3 -1153681200:2 -1145822400:3 -1122231600:2 -1114372800:3 -1090782000:2 -1082923200:3 -1059332400:2 -1051473600:3 -1027882800:2 -1020024000:3 -996433200:2 -988574400:3 -965674800:2 -955396800:3 -934743600:2 -923947200:3 -904503600:2 -891892800:3 -880221600:2 -769395600:2 -765399600:3 -747252000:2 -733950000:3 -715802400:2 -702500400:3 -684352800:2 -671050800:3 -652903200:2 -639601200:3 -620848800:2 -608151600:3 -589399200:2 -576097200:3 -557949600:2 -544647600:3 -526500000:2 -513198000:3 -495050400:2 -481748400:3 -463600800:2 -450298800:3 -431546400:2 -418244400:3 -400096800:2 -384375600:3 -368647200:2 -352926000:3 -337197600:2 -321476400:3 -305748000:2 -289422000:3 -273693600:2 -257972400:3 -242244000:2 -226522800:3 -210794400:2 -195073200:3 -179344800:2 -163623600:3 -147895200:2 -131569200:3 -116445600:2 -100119600:3 -84391200:2 -68670000:3 -52941600:2 -37220400:3 -21492000:2 -5770800:3 9957600:2 25678800:3 41407200:2 57733200:3 73461600:2 89182800:3 136360800:2 152082000:3 167810400:2 183531600:3 199260000:2 215586000:3 230709600:2 247035600:3 262764000:2 278485200:3 294213600:2 309934800:3 325663200:2 341384400:3 357112800:2 372834000:3 388562400:2 404888400:3 420012000:2 436338000:3 452066400:2 467787600:3 483516000:2 499237200:3 514965600:2 530686800:3 544600800:2 562136400:3 576050400:2 594190800:3 607500000:2 625640400:3 638949600:2 657090000:3 671004000:2 688539600:3 702453600:2 719989200:3 733896060:2 752036460:3 765345660:2 783486060:3 796795260:2 814935660:3 828849660:2 846385260:3 860299260:2 877834860:3 891748860:2 909284460:3 923198460:2 941338860:3 954648060:2 972788460:3 986097660:2 1004238060:3 1018152060:2 1035687660:3 1049601660:2 1067137260:3 1081051260:2 1099191660:3 1112500860:2 1130641260:3 1143950460:2 1162090860:3 1173592800:2 1194152400:3 1205042400:2 1225602000:3 1236492000:2 1257051600:3 1268546400:2 1289106000:3 1299996000:2 1320555600:3 1331445600:2 1352005200:3 1362895200:2 1383454800:3 1394344800:2 1414904400:3 1425794400:2 1446354000:3 1457848800:2 1478408400:3 1489298400:2 1509858000:3 1520748000:2 1541307600:3 1552197600:2 1572757200:3 1583647200:2 1604206800:3 1615701600:2 1636261200:3 1647151200:2 1667710800:3 1678600800:2 1699160400:3 1710050400:2 1730610000:3 1741500000:2 1762059600:3 1772949600:2 1793509200:3 1805004000:2 1825563600:3 1836453600:2 1857013200:3 1867903200:2 1888462800:3 1899352800:2 1919912400:3 1930802400:2 1951362000:3 1962856800:2 1983416400:3 1994306400:2 2014866000:3 2025756000:2 2046315600:3 2057205600:2 2077765200:3 2088655200:2 2109214800:3 2120104800:2 2140664400:3|AST4ADT,M3.2.0,M11.1.0"
  , "America/Monterrey|0|-24076 -25200 -21600 -18000|-1514743200:1 -1343149200:2 -1234807200:1 -1220461200:2 -1207159200:1 -1191344400:2 576057600:3 594198000:2 828864000:3 846399600:2 860313600:3 877849200:2 891763200:3 909298800:2 923212800:3 941353200:2 954662400:3 972802800:2 989136000:3 1001833200:2 1018166400:3 1035702000:2 1049616000:3 1067151600:2 1081065600:3 1099206000:2 1112515200:3 1130655600:2 1143964800:3 1162105200:2 1175414400:3 1193554800:2 1207468800:3 1225004400:2 1238918400:3 1256454000:2 1270368000:3 1288508400:2 1301817600:3 1319958000:2 1333267200:3 1351407600:2 1365321600:3 1382857200:2 1396771200:3 1414306800:2 1428220800:3 1445756400:2 1459670400:3 1477810800:2 1491120000:3 1509260400:2 1522569600:3 1540710000:2 1554624000:3 1572159600:2 1586073600:3 1603609200:2 1617523200:3 1635663600:2 1648972800:3 1667113200:2|CST6"
  , "America/Montevideo|0|-13491 -14400 -12600 -10800 -9000 -7200 -5400|-1942690509:0 -1567455309:1 -1459627200:3 -1443819600:2 -1428006600:3 -1412283600:2 -1396470600:3 -1380747600:2 -1141590600:3 -1128286800:2 -1110141000:3 -1096837200:2 -1078691400:3 -1065387600:2 -1047241800:3 -1033938000:2 -1015187400:3 -1002488400:2 -983737800:3 -971038800:2 -954707400:3 -938984400:2 -920838600:3 -907534800:2 -896819400:3 -853621200:4 -845847000:3 -334789200:4 -319671000:3 -314226000:5 -309996000:3 -149720400:5 -134604000:3 -50446800:4 -34205400:3 9860400:5 14176800:3 72846000:5 80100000:3 127278000:6 132111000:4 147234600:3 156913200:5 165376800:3 219812400:5 226461600:3 250052400:5 257911200:3 282711600:5 289360800:3 294202800:5 322020000:3 566449200:5 573012000:3 597812400:5 605066400:3 625633200:5 635911200:3 656478000:5 667965600:3 688532400:5 699415200:3 719377200:5 730864800:3 1095562800:5 1111896000:3 1128834000:5 1142136000:3 1159678800:5 1173585600:3 1191733200:5 1205035200:3 1223182800:5 1236484800:3 1254632400:5 1268539200:3 1286082000:5 1299988800:3 1317531600:5 1331438400:3 1349586000:5 1362888000:3 1381035600:5 1394337600:3 1412485200:5 1425787200:3 2147483647:3|<-03>3"
  , "America/Montserrat|0|-14932 -14400|-1846266608:1|AST4"
  , "America/Nassau|0|-18570 -14400 -18000|-1825095030:2 -873140400:1 -788904000:2 -786222000:1 -769395600:1 -763848000:2 -179341200:1 -163620000:2 -147891600:1 -131565600:2 -116442000:1 -100116000:2 -84387600:1 -68666400:2 -52938000:1 -37216800:2 -21488400:1 -5767200:2 9961200:1 25682400:2 41410800:1 57736800:2 73465200:1 89186400:2 104914800:1 120636000:2 136364400:1 152085600:2 167814000:1 183535200:2 199263600:1 215589600:2 230713200:1 247039200:2 262767600:1 278488800:2 294217200:1 309938400:2 325666800:1 341388000:2 357116400:1 372837600:2 388566000:1 404892000:2 420015600:1 436341600:2 452070000:1 467791200:2 483519600:1 499240800:2 514969200:1 530690400:2 544604400:1 562140000:2 576054000:1 594194400:2 607503600:1 625644000:2 638953200:1 657093600:2 671007600:1 688543200:2 702457200:1 719992800:2 733906800:1 752047200:2 765356400:1 783496800:2 796806000:1 814946400:2 828860400:1 846396000:2 860310000:1 877845600:2 891759600:1 909295200:2 923209200:1 941349600:2 954658800:1 972799200:2 986108400:1 1004248800:2 1018162800:1 1035698400:2 1049612400:1 1067148000:2 1081062000:1 1099202400:2 1112511600:1 1130652000:2 1143961200:1 1162101600:2 1173596400:1 1194156000:2 1205046000:1 1225605600:2 1236495600:1 1257055200:2 1268550000:1 1289109600:2 1299999600:1 1320559200:2 1331449200:1 1352008800:2 1362898800:1 1383458400:2 1394348400:1 1414908000:2 1425798000:1 1446357600:2 1457852400:1 1478412000:2 1489302000:1 1509861600:2 1520751600:1 1541311200:2 1552201200:1 1572760800:2 1583650800:1 1604210400:2 1615705200:1 1636264800:2 1647154800:1 1667714400:2 1678604400:1 1699164000:2 1710054000:1 1730613600:2 1741503600:1 1762063200:2 1772953200:1 1793512800:2 1805007600:1 1825567200:2 1836457200:1 1857016800:2 1867906800:1 1888466400:2 1899356400:1 1919916000:2 1930806000:1 1951365600:2 1962860400:1 1983420000:2 1994310000:1 2014869600:2 2025759600:1 2046319200:2 2057209200:1 2077768800:2 2088658800:1 2109218400:2 2120108400:1 2140668000:2|EST5EDT,M3.2.0,M11.1.0"
  , "America/New_York US/Eastern posixrules|0|-17762 -14400 -18000|-2717650800:2 -1633280400:1 -1615140000:2 -1601830800:1 -1583690400:2 -1570381200:1 -1551636000:2 -1536512400:1 -1523210400:2 -1504458000:1 -1491760800:2 -1473008400:1 -1459706400:2 -1441558800:1 -1428256800:2 -1410109200:1 -1396807200:2 -1378659600:1 -1365357600:2 -1347210000:1 -1333908000:2 -1315155600:1 -1301853600:2 -1283706000:1 -1270404000:2 -1252256400:1 -1238954400:2 -1220806800:1 -1207504800:2 -1189357200:1 -1176055200:2 -1157302800:1 -1144605600:2 -1125853200:1 -1112551200:2 -1094403600:1 -1081101600:2 -1062954000:1 -1049652000:2 -1031504400:1 -1018202400:2 -1000054800:1 -986752800:2 -968000400:1 -955303200:2 -936550800:1 -923248800:2 -905101200:1 -891799200:2 -880218000:1 -769395600:1 -765396000:2 -747248400:1 -733946400:2 -715798800:1 -702496800:2 -684349200:1 -671047200:2 -652899600:1 -639597600:2 -620845200:1 -608148000:2 -589395600:1 -576093600:2 -557946000:1 -544644000:2 -526496400:1 -513194400:2 -495046800:1 -481744800:2 -463597200:1 -447271200:2 -431542800:1 -415821600:2 -400093200:1 -384372000:2 -368643600:1 -352922400:2 -337194000:1 -321472800:2 -305744400:1 -289418400:2 -273690000:1 -257968800:2 -242240400:1 -226519200:2 -210790800:1 -195069600:2 -179341200:1 -163620000:2 -147891600:1 -131565600:2 -116442000:1 -100116000:2 -84387600:1 -68666400:2 -52938000:1 -37216800:2 -21488400:1 -5767200:2 9961200:1 25682400:2 41410800:1 57736800:2 73465200:1 89186400:2 104914800:1 120636000:2 126687600:1 152085600:2 162370800:1 183535200:2 199263600:1 215589600:2 230713200:1 247039200:2 262767600:1 278488800:2 294217200:1 309938400:2 325666800:1 341388000:2 357116400:1 372837600:2 388566000:1 404892000:2 420015600:1 436341600:2 452070000:1 467791200:2 483519600:1 499240800:2 514969200:1 530690400:2 544604400:1 562140000:2 576054000:1 594194400:2 607503600:1 625644000:2 638953200:1 657093600:2 671007600:1 688543200:2 702457200:1 719992800:2 733906800:1 752047200:2 765356400:1 783496800:2 796806000:1 814946400:2 828860400:1 846396000:2 860310000:1 877845600:2 891759600:1 909295200:2 923209200:1 941349600:2 954658800:1 972799200:2 986108400:1 1004248800:2 1018162800:1 1035698400:2 1049612400:1 1067148000:2 1081062000:1 1099202400:2 1112511600:1 1130652000:2 1143961200:1 1162101600:2 1173596400:1 1194156000:2 1205046000:1 1225605600:2 1236495600:1 1257055200:2 1268550000:1 1289109600:2 1299999600:1 1320559200:2 1331449200:1 1352008800:2 1362898800:1 1383458400:2 1394348400:1 1414908000:2 1425798000:1 1446357600:2 1457852400:1 1478412000:2 1489302000:1 1509861600:2 1520751600:1 1541311200:2 1552201200:1 1572760800:2 1583650800:1 1604210400:2 1615705200:1 1636264800:2 1647154800:1 1667714400:2 1678604400:1 1699164000:2 1710054000:1 1730613600:2 1741503600:1 1762063200:2 1772953200:1 1793512800:2 1805007600:1 1825567200:2 1836457200:1 1857016800:2 1867906800:1 1888466400:2 1899356400:1 1919916000:2 1930806000:1 1951365600:2 1962860400:1 1983420000:2 1994310000:1 2014869600:2 2025759600:1 2046319200:2 2057209200:1 2077768800:2 2088658800:1 2109218400:2 2120108400:1 2140668000:2|EST5EDT,M3.2.0,M11.1.0"
  , "America/Nome|0|46702 -39698 -39600 -36000 -32400 -28800|-3225223727:1 -2188947502:2 -880196400:3 -769395600:3 -765374400:2 -86878800:2 -21466800:3 -5745600:2 9982800:3 25704000:2 41432400:3 57758400:2 73486800:3 89208000:2 104936400:3 120657600:2 126709200:3 152107200:2 162392400:3 183556800:2 199285200:3 215611200:2 230734800:3 247060800:2 262789200:3 278510400:2 294238800:3 309960000:2 325688400:3 341409600:2 357138000:3 372859200:2 388587600:3 404913600:2 420037200:3 436363200:4 439030800:4 452084400:5 467805600:4 483534000:5 499255200:4 514983600:5 530704800:4 544618800:5 562154400:4 576068400:5 594208800:4 607518000:5 625658400:4 638967600:5 657108000:4 671022000:5 688557600:4 702471600:5 720007200:4 733921200:5 752061600:4 765370800:5 783511200:4 796820400:5 814960800:4 828874800:5 846410400:4 860324400:5 877860000:4 891774000:5 909309600:4 923223600:5 941364000:4 954673200:5 972813600:4 986122800:5 1004263200:4 1018177200:5 1035712800:4 1049626800:5 1067162400:4 1081076400:5 1099216800:4 1112526000:5 1130666400:4 1143975600:5 1162116000:4 1173610800:5 1194170400:4 1205060400:5 1225620000:4 1236510000:5 1257069600:4 1268564400:5 1289124000:4 1300014000:5 1320573600:4 1331463600:5 1352023200:4 1362913200:5 1383472800:4 1394362800:5 1414922400:4 1425812400:5 1446372000:4 1457866800:5 1478426400:4 1489316400:5 1509876000:4 1520766000:5 1541325600:4 1552215600:5 1572775200:4 1583665200:5 1604224800:4 1615719600:5 1636279200:4 1647169200:5 1667728800:4 1678618800:5 1699178400:4 1710068400:5 1730628000:4 1741518000:5 1762077600:4 1772967600:5 1793527200:4 1805022000:5 1825581600:4 1836471600:5 1857031200:4 1867921200:5 1888480800:4 1899370800:5 1919930400:4 1930820400:5 1951380000:4 1962874800:5 1983434400:4 1994324400:5 2014884000:4 2025774000:5 2046333600:4 2057223600:5 2077783200:4 2088673200:5 2109232800:4 2120122800:5 2140682400:4|AKST9AKDT,M3.2.0,M11.1.0"
  , "America/Noronha Brazil/DeNoronha|0|-7780 -3600 -7200|-1767217820:2 -1206961200:1 -1191366000:2 -1175378400:1 -1159830000:2 -633823200:1 -622072800:2 -602287200:1 -591836400:2 -570751200:1 -560214000:2 -539128800:1 -531356400:2 -191368800:1 -184201200:2 -155167200:1 -150073200:2 -128901600:1 -121129200:2 -99957600:1 -89593200:2 -68421600:1 -57970800:2 499744800:1 511232400:2 530589600:1 540262800:2 562125600:1 571194000:2 592970400:1 602038800:2 624420000:1 634698000:2 938916000:1 951613200:2 970970400:1 971571600:2 1003024800:1 1013907600:2 2147483647:2|<-02>2"
  , "America/North_Dakota/Beulah|0|-24427 -21600 -25200 -18000|-2717643600:2 -1633273200:1 -1615132800:2 -1601823600:1 -1583683200:2 -880210800:1 -769395600:1 -765388800:2 -84380400:1 -68659200:2 -52930800:1 -37209600:2 -21481200:1 -5760000:2 9968400:1 25689600:2 41418000:1 57744000:2 73472400:1 89193600:2 104922000:1 120643200:2 126694800:1 152092800:2 162378000:1 183542400:2 199270800:1 215596800:2 230720400:1 247046400:2 262774800:1 278496000:2 294224400:1 309945600:2 325674000:1 341395200:2 357123600:1 372844800:2 388573200:1 404899200:2 420022800:1 436348800:2 452077200:1 467798400:2 483526800:1 499248000:2 514976400:1 530697600:2 544611600:1 562147200:2 576061200:1 594201600:2 607510800:1 625651200:2 638960400:1 657100800:2 671014800:1 688550400:2 702464400:1 720000000:2 733914000:1 752054400:2 765363600:1 783504000:2 796813200:1 814953600:2 828867600:1 846403200:2 860317200:1 877852800:2 891766800:1 909302400:2 923216400:1 941356800:2 954666000:1 972806400:2 986115600:1 1004256000:2 1018170000:1 1035705600:2 1049619600:1 1067155200:2 1081069200:1 1099209600:2 1112518800:1 1130659200:2 1143968400:1 1162108800:2 1173603600:1 1194163200:2 1205053200:1 1225612800:2 1236502800:1 1257062400:2 1268557200:1 1289116800:1 1300003200:3 1320562800:1 1331452800:3 1352012400:1 1362902400:3 1383462000:1 1394352000:3 1414911600:1 1425801600:3 1446361200:1 1457856000:3 1478415600:1 1489305600:3 1509865200:1 1520755200:3 1541314800:1 1552204800:3 1572764400:1 1583654400:3 1604214000:1 1615708800:3 1636268400:1 1647158400:3 1667718000:1 1678608000:3 1699167600:1 1710057600:3 1730617200:1 1741507200:3 1762066800:1 1772956800:3 1793516400:1 1805011200:3 1825570800:1 1836460800:3 1857020400:1 1867910400:3 1888470000:1 1899360000:3 1919919600:1 1930809600:3 1951369200:1 1962864000:3 1983423600:1 1994313600:3 2014873200:1 2025763200:3 2046322800:1 2057212800:3 2077772400:1 2088662400:3 2109222000:1 2120112000:3 2140671600:1|CST6CDT,M3.2.0,M11.1.0"
  , "America/North_Dakota/Center|0|-24312 -21600 -25200 -18000|-2717643600:2 -1633273200:1 -1615132800:2 -1601823600:1 -1583683200:2 -880210800:1 -769395600:1 -765388800:2 -84380400:1 -68659200:2 -52930800:1 -37209600:2 -21481200:1 -5760000:2 9968400:1 25689600:2 41418000:1 57744000:2 73472400:1 89193600:2 104922000:1 120643200:2 126694800:1 152092800:2 162378000:1 183542400:2 199270800:1 215596800:2 230720400:1 247046400:2 262774800:1 278496000:2 294224400:1 309945600:2 325674000:1 341395200:2 357123600:1 372844800:2 388573200:1 404899200:2 420022800:1 436348800:2 452077200:1 467798400:2 483526800:1 499248000:2 514976400:1 530697600:2 544611600:1 562147200:2 576061200:1 594201600:2 607510800:1 625651200:2 638960400:1 657100800:2 671014800:1 688550400:2 702464400:1 720000000:1 733910400:3 752050800:1 765360000:3 783500400:1 796809600:3 814950000:1 828864000:3 846399600:1 860313600:3 877849200:1 891763200:3 909298800:1 923212800:3 941353200:1 954662400:3 972802800:1 986112000:3 1004252400:1 1018166400:3 1035702000:1 1049616000:3 1067151600:1 1081065600:3 1099206000:1 1112515200:3 1130655600:1 1143964800:3 1162105200:1 1173600000:3 1194159600:1 1205049600:3 1225609200:1 1236499200:3 1257058800:1 1268553600:3 1289113200:1 1300003200:3 1320562800:1 1331452800:3 1352012400:1 1362902400:3 1383462000:1 1394352000:3 1414911600:1 1425801600:3 1446361200:1 1457856000:3 1478415600:1 1489305600:3 1509865200:1 1520755200:3 1541314800:1 1552204800:3 1572764400:1 1583654400:3 1604214000:1 1615708800:3 1636268400:1 1647158400:3 1667718000:1 1678608000:3 1699167600:1 1710057600:3 1730617200:1 1741507200:3 1762066800:1 1772956800:3 1793516400:1 1805011200:3 1825570800:1 1836460800:3 1857020400:1 1867910400:3 1888470000:1 1899360000:3 1919919600:1 1930809600:3 1951369200:1 1962864000:3 1983423600:1 1994313600:3 2014873200:1 2025763200:3 2046322800:1 2057212800:3 2077772400:1 2088662400:3 2109222000:1 2120112000:3 2140671600:1|CST6CDT,M3.2.0,M11.1.0"
  , "America/North_Dakota/New_Salem|0|-24339 -21600 -25200 -18000|-2717643600:2 -1633273200:1 -1615132800:2 -1601823600:1 -1583683200:2 -880210800:1 -769395600:1 -765388800:2 -84380400:1 -68659200:2 -52930800:1 -37209600:2 -21481200:1 -5760000:2 9968400:1 25689600:2 41418000:1 57744000:2 73472400:1 89193600:2 104922000:1 120643200:2 126694800:1 152092800:2 162378000:1 183542400:2 199270800:1 215596800:2 230720400:1 247046400:2 262774800:1 278496000:2 294224400:1 309945600:2 325674000:1 341395200:2 357123600:1 372844800:2 388573200:1 404899200:2 420022800:1 436348800:2 452077200:1 467798400:2 483526800:1 499248000:2 514976400:1 530697600:2 544611600:1 562147200:2 576061200:1 594201600:2 607510800:1 625651200:2 638960400:1 657100800:2 671014800:1 688550400:2 702464400:1 720000000:2 733914000:1 752054400:2 765363600:1 783504000:2 796813200:1 814953600:2 828867600:1 846403200:2 860317200:1 877852800:2 891766800:1 909302400:2 923216400:1 941356800:2 954666000:1 972806400:2 986115600:1 1004256000:2 1018170000:1 1035705600:2 1049619600:1 1067155200:1 1081065600:3 1099206000:1 1112515200:3 1130655600:1 1143964800:3 1162105200:1 1173600000:3 1194159600:1 1205049600:3 1225609200:1 1236499200:3 1257058800:1 1268553600:3 1289113200:1 1300003200:3 1320562800:1 1331452800:3 1352012400:1 1362902400:3 1383462000:1 1394352000:3 1414911600:1 1425801600:3 1446361200:1 1457856000:3 1478415600:1 1489305600:3 1509865200:1 1520755200:3 1541314800:1 1552204800:3 1572764400:1 1583654400:3 1604214000:1 1615708800:3 1636268400:1 1647158400:3 1667718000:1 1678608000:3 1699167600:1 1710057600:3 1730617200:1 1741507200:3 1762066800:1 1772956800:3 1793516400:1 1805011200:3 1825570800:1 1836460800:3 1857020400:1 1867910400:3 1888470000:1 1899360000:3 1919919600:1 1930809600:3 1951369200:1 1962864000:3 1983423600:1 1994313600:3 2014873200:1 2025763200:3 2046322800:1 2057212800:3 2077772400:1 2088662400:3 2109222000:1 2120112000:3 2140671600:1|CST6CDT,M3.2.0,M11.1.0"
  , "America/Nuuk America/Godthab|0|-12416 -10800 -7200 -3600|-1686083584:1 323845200:2 338950800:1 354675600:2 370400400:1 386125200:2 401850000:1 417574800:2 433299600:1 449024400:2 465354000:1 481078800:2 496803600:1 512528400:2 528253200:1 543978000:2 559702800:1 575427600:2 591152400:1 606877200:2 622602000:1 638326800:2 654656400:1 670381200:2 686106000:1 701830800:2 717555600:1 733280400:2 749005200:1 764730000:2 780454800:1 796179600:2 811904400:1 828234000:2 846378000:1 859683600:2 877827600:1 891133200:2 909277200:1 922582800:2 941331600:1 954032400:2 972781200:1 985482000:2 1004230800:1 1017536400:2 1035680400:1 1048986000:2 1067130000:1 1080435600:2 1099184400:1 1111885200:2 1130634000:1 1143334800:2 1162083600:1 1174784400:2 1193533200:1 1206838800:2 1224982800:1 1238288400:2 1256432400:1 1269738000:2 1288486800:1 1301187600:2 1319936400:1 1332637200:2 1351386000:1 1364691600:2 1382835600:1 1396141200:2 1414285200:1 1427590800:2 1445734800:1 1459040400:2 1477789200:1 1490490000:2 1509238800:1 1521939600:2 1540688400:1 1553994000:2 1572138000:1 1585443600:2 1603587600:1 1616893200:2 1635642000:1 1648342800:2 1667091600:1 1679792400:2 1711846800:3 1729990800:2 1743296400:3 1761440400:2 1774746000:3 1792890000:2 1806195600:3 1824944400:2 1837645200:3 1856394000:2 1869094800:3 1887843600:2 1901149200:3 1919293200:2 1932598800:3 1950742800:2 1964048400:3 1982797200:2 1995498000:3 2014246800:2 2026947600:3 2045696400:2 2058397200:3 2077146000:2 2090451600:3 2108595600:2 2121901200:3 2140045200:2 2147483647:2|<-02>2<-01>,M3.5.0/-1,M10.5.0/0"
  , "America/Ojinaga|0|-25060 -25200 -21600 -18000|-1514739600:1 -1343149200:2 -1234807200:1 -1220461200:2 -1207159200:1 -1191344400:2 828864000:3 846399600:2 860313600:3 877849200:2 891766800:2 909302400:1 923216400:2 941356800:1 954666000:2 972806400:1 989139600:2 1001836800:1 1018170000:2 1035705600:1 1049619600:2 1067155200:1 1081069200:2 1099209600:1 1112518800:2 1130659200:1 1143968400:2 1162108800:1 1175418000:2 1193558400:1 1207472400:2 1225008000:1 1238922000:2 1256457600:1 1268557200:2 1289116800:1 1300006800:2 1320566400:1 1331456400:2 1352016000:1 1362906000:2 1383465600:1 1394355600:2 1414915200:1 1425805200:2 1446364800:1 1457859600:2 1478419200:1 1489309200:2 1509868800:1 1520758800:2 1541318400:1 1552208400:2 1572768000:1 1583658000:2 1604217600:1 1615712400:2 1636272000:1 1647162000:2 1667116800:2 1678608000:3 1699167600:2 1710057600:3 1730617200:2 1741507200:3 1762066800:2 1772956800:3 1793516400:2 1805011200:3 1825570800:2 1836460800:3 1857020400:2 1867910400:3 1888470000:2 1899360000:3 1919919600:2 1930809600:3 1951369200:2 1962864000:3 1983423600:2 1994313600:3 2014873200:2 2025763200:3 2046322800:2 2057212800:3 2077772400:2 2088662400:3 2109222000:2 2120112000:3 2140671600:2|CST6CDT,M3.2.0,M11.1.0"
  , "America/Panama|0|-19088 -19176 -18000|-2524502512:1 -1946918424:2|EST5"
  , "America/Paramaribo|0|-13240 -13252 -13236 -12600 -10800|-1861906760:1 -1104524348:2 -765317964:3 465449400:4 2147483647:4|<-03>3"
  , "America/Phoenix US/Arizona|0|-26898 -21600 -25200|-2717643600:2 -1633273200:1 -1615132800:2 -1601823600:1 -1583683200:2 -880210800:1 -820519140:2 -812653140:1 -796845540:2 -84380400:1 -68659200:2|MST7"
  , "America/Port-au-Prince|0|-17360 -17340 -14400 -18000|-2524504240:1 -1670483460:3 421218000:2 436334400:3 452062800:2 467784000:3 483512400:2 499233600:3 514962000:2 530683200:3 546411600:2 562132800:3 576050400:2 594194400:3 607500000:2 625644000:3 638949600:2 657093600:3 671004000:2 688543200:3 702453600:2 719992800:3 733903200:2 752047200:3 765352800:2 783496800:3 796802400:2 814946400:3 828856800:2 846396000:3 860306400:2 877845600:3 1112504400:2 1130644800:3 1143954000:2 1162094400:3 1331449200:2 1352008800:3 1362898800:2 1383458400:3 1394348400:2 1414908000:3 1425798000:2 1446357600:3 1489302000:2 1509861600:3 1520751600:2 1541311200:3 1552201200:2 1572760800:3 1583650800:2 1604210400:3 1615705200:2 1636264800:3 1647154800:2 1667714400:3 1678604400:2 1699164000:3 1710054000:2 1730613600:3 1741503600:2 1762063200:3 1772953200:2 1793512800:3 1805007600:2 1825567200:3 1836457200:2 1857016800:3 1867906800:2 1888466400:3 1899356400:2 1919916000:3 1930806000:2 1951365600:3 1962860400:2 1983420000:3 1994310000:2 2014869600:3 2025759600:2 2046319200:3 2057209200:2 2077768800:3 2088658800:2 2109218400:3 2120108400:2 2140668000:3|EST5EDT,M3.2.0,M11.1.0"
  , "America/Port_of_Spain America/Marigot America/St_Barthelemy|0|-14764 -14400|-1825098836:1|AST4"
  , "America/Porto_Velho|0|-15336 -10800 -14400|-1767210264:2 -1206954000:1 -1191358800:2 -1175371200:1 -1159822800:2 -633816000:1 -622065600:2 -602280000:1 -591829200:2 -570744000:1 -560206800:2 -539121600:1 -531349200:2 -191361600:1 -184194000:2 -155160000:1 -150066000:2 -128894400:1 -121122000:2 -99950400:1 -89586000:2 -68414400:1 -57963600:2 499752000:1 511239600:2 530596800:1 540270000:2 562132800:1 571201200:2 2147483647:2|<-04>4"
  , "America/Puerto_Rico|0|-15865 -14400 -10800|-2233035335:1 -873057600:2 -769395600:2 -765399600:1|AST4"
  , "America/Punta_Arenas|0|-17020 -16965 -18000 -14400 -10800|-2524504580:1 -1892661435:2 -1688410800:1 -1619205435:3 -1593806400:1 -1335986235:3 -1317585600:2 -1304362800:3 -1286049600:2 -1272826800:3 -1254513600:2 -1241290800:3 -1222977600:2 -1209754800:3 -1191355200:2 -1178132400:3 -870552000:2 -865278000:3 -736632000:3 -718056000:2 -713649600:3 -36619200:4 -23922000:3 -3355200:4 7527600:3 24465600:4 37767600:3 55915200:4 69217200:3 87969600:4 100666800:3 118209600:4 132116400:3 150868800:4 163566000:3 182318400:4 195620400:3 213768000:4 227070000:3 245217600:4 258519600:3 277272000:4 289969200:3 308721600:4 321418800:3 340171200:4 353473200:3 371620800:4 384922800:3 403070400:4 416372400:3 434520000:4 447822000:3 466574400:4 479271600:3 498024000:4 510721200:3 529473600:4 545194800:3 560923200:4 574225200:3 592372800:4 605674800:3 624427200:4 637124400:3 653457600:4 668574000:3 687326400:4 700628400:3 718776000:4 732078000:3 750225600:4 763527600:3 781675200:4 794977200:3 813729600:4 826426800:3 845179200:4 859690800:3 876628800:4 889930800:3 906868800:4 923194800:3 939528000:4 952830000:3 971582400:4 984279600:3 1003032000:4 1015729200:3 1034481600:4 1047178800:3 1065931200:4 1079233200:3 1097380800:4 1110682800:3 1128830400:4 1142132400:3 1160884800:4 1173582000:3 1192334400:4 1206846000:3 1223784000:4 1237086000:3 1255233600:4 1270350000:3 1286683200:4 1304823600:3 1313899200:4 1335668400:3 1346558400:4 1367118000:3 1378612800:4 1398567600:3 1410062400:4 1463281200:3 1471147200:4 1480820400:4 2147483647:4|<-03>3"
  , "America/Rankin_Inlet|0|0 -18000 -21600|-410227200:2 73468800:1 89190000:2 104918400:1 120639600:2 136368000:1 152089200:2 167817600:1 183538800:2 199267200:1 215593200:2 230716800:1 247042800:2 262771200:1 278492400:2 294220800:1 309942000:2 325670400:1 341391600:2 357120000:1 372841200:2 388569600:1 404895600:2 420019200:1 436345200:2 452073600:1 467794800:2 483523200:1 499244400:2 514972800:1 530694000:2 544608000:1 562143600:2 576057600:1 594198000:2 607507200:1 625647600:2 638956800:1 657097200:2 671011200:1 688546800:2 702460800:1 719996400:2 733910400:1 752050800:2 765360000:1 783500400:2 796809600:1 814950000:2 828864000:1 846399600:2 860313600:1 877849200:2 891763200:1 909298800:2 923212800:1 941353200:2 954662400:1 972802800:1 986112000:1 1004252400:2 1018166400:1 1035702000:2 1049616000:1 1067151600:2 1081065600:1 1099206000:2 1112515200:1 1130655600:2 1143964800:1 1162105200:2 1173600000:1 1194159600:2 1205049600:1 1225609200:2 1236499200:1 1257058800:2 1268553600:1 1289113200:2 1300003200:1 1320562800:2 1331452800:1 1352012400:2 1362902400:1 1383462000:2 1394352000:1 1414911600:2 1425801600:1 1446361200:2 1457856000:1 1478415600:2 1489305600:1 1509865200:2 1520755200:1 1541314800:2 1552204800:1 1572764400:2 1583654400:1 1604214000:2 1615708800:1 1636268400:2 1647158400:1 1667718000:2 1678608000:1 1699167600:2 1710057600:1 1730617200:2 1741507200:1 1762066800:2 1772956800:1 1793516400:2 1805011200:1 1825570800:2 1836460800:1 1857020400:2 1867910400:1 1888470000:2 1899360000:1 1919919600:2 1930809600:1 1951369200:2 1962864000:1 1983423600:2 1994313600:1 2014873200:2 2025763200:1 2046322800:2 2057212800:1 2077772400:2 2088662400:1 2109222000:2 2120112000:1 2140671600:2|CST6CDT,M3.2.0,M11.1.0"
  , "America/Recife|0|-8376 -7200 -10800|-1767217224:2 -1206957600:1 -1191362400:2 -1175374800:1 -1159826400:2 -633819600:1 -622069200:2 -602283600:1 -591832800:2 -570747600:1 -560210400:2 -539125200:1 -531352800:2 -191365200:1 -184197600:2 -155163600:1 -150069600:2 -128898000:1 -121125600:2 -99954000:1 -89589600:2 -68418000:1 -57967200:2 499748400:1 511236000:2 530593200:1 540266400:2 562129200:1 571197600:2 592974000:1 602042400:2 624423600:1 634701600:2 938919600:1 951616800:2 970974000:1 971575200:2 1003028400:1 1013911200:2 2147483647:2|<-03>3"
  , "America/Regina Canada/Saskatchewan|0|-25116 -21600 -25200|-2030202084:2 -1632063600:1 -1615132800:2 -1251651600:1 -1238349600:2 -1220202000:1 -1206900000:2 -1188752400:1 -1175450400:2 -1156698000:1 -1144000800:2 -1125248400:1 -1111946400:2 -1032714000:1 -1016992800:2 -1001264400:1 -986148000:2 -969814800:1 -954093600:2 -937760400:1 -922039200:2 -906310800:1 -890589600:2 -880210800:1 -769395600:1 -765388800:2 -748450800:1 -732729600:2 -715791600:1 -702489600:2 -684342000:1 -671040000:2 -652892400:1 -639590400:2 -620838000:1 -608140800:2 -589388400:1 -576086400:2 -557938800:1 -544636800:2 -526489200:1 -513187200:2 -495039600:1 -481737600:2 -463590000:1 -450288000:2 -431535600:1 -418233600:2 -400086000:1 -386784000:2 -337186800:1 -321465600:2 -305737200:1|CST6"
  , "America/Resolute|0|0 -18000 -21600|-704937600:2 73468800:1 89190000:2 104918400:1 120639600:2 136368000:1 152089200:2 167817600:1 183538800:2 199267200:1 215593200:2 230716800:1 247042800:2 262771200:1 278492400:2 294220800:1 309942000:2 325670400:1 341391600:2 357120000:1 372841200:2 388569600:1 404895600:2 420019200:1 436345200:2 452073600:1 467794800:2 483523200:1 499244400:2 514972800:1 530694000:2 544608000:1 562143600:2 576057600:1 594198000:2 607507200:1 625647600:2 638956800:1 657097200:2 671011200:1 688546800:2 702460800:1 719996400:2 733910400:1 752050800:2 765360000:1 783500400:2 796809600:1 814950000:2 828864000:1 846399600:2 860313600:1 877849200:2 891763200:1 909298800:2 923212800:1 941353200:2 954662400:1 972802800:1 986112000:1 1004252400:2 1018166400:1 1035702000:2 1049616000:1 1067151600:2 1081065600:1 1099206000:2 1112515200:1 1130655600:2 1143964800:1 1162105200:1 1173600000:1 1194159600:2 1205049600:1 1225609200:2 1236499200:1 1257058800:2 1268553600:1 1289113200:2 1300003200:1 1320562800:2 1331452800:1 1352012400:2 1362902400:1 1383462000:2 1394352000:1 1414911600:2 1425801600:1 1446361200:2 1457856000:1 1478415600:2 1489305600:1 1509865200:2 1520755200:1 1541314800:2 1552204800:1 1572764400:2 1583654400:1 1604214000:2 1615708800:1 1636268400:2 1647158400:1 1667718000:2 1678608000:1 1699167600:2 1710057600:1 1730617200:2 1741507200:1 1762066800:2 1772956800:1 1793516400:2 1805011200:1 1825570800:2 1836460800:1 1857020400:2 1867910400:1 1888470000:2 1899360000:1 1919919600:2 1930809600:1 1951369200:2 1962864000:1 1983423600:2 1994313600:1 2014873200:2 2025763200:1 2046322800:2 2057212800:1 2077772400:2 2088662400:1 2109222000:2 2120112000:1 2140671600:2|CST6CDT,M3.2.0,M11.1.0"
  , "America/Rio_Branco America/Porto_Acre Brazil/Acre|0|-16272 -14400 -18000|-1767209328:2 -1206950400:1 -1191355200:2 -1175367600:1 -1159819200:2 -633812400:1 -622062000:2 -602276400:1 -591825600:2 -570740400:1 -560203200:2 -539118000:1 -531345600:2 -191358000:1 -184190400:2 -155156400:1 -150062400:2 -128890800:1 -121118400:2 -99946800:1 -89582400:2 -68410800:1 -57960000:2 499755600:1 511243200:2 530600400:1 540273600:2 562136400:1 571204800:2 1214283600:1 1384056000:2 2147483647:2|<-05>5"
  , "America/Santarem|0|-13128 -10800 -14400|-1767212472:2 -1206954000:1 -1191358800:2 -1175371200:1 -1159822800:2 -633816000:1 -622065600:2 -602280000:1 -591829200:2 -570744000:1 -560206800:2 -539121600:1 -531349200:2 -191361600:1 -184194000:2 -155160000:1 -150066000:2 -128894400:1 -121122000:2 -99950400:1 -89586000:2 -68414400:1 -57963600:2 499752000:1 511239600:2 530596800:1 540270000:2 562132800:1 571201200:2 1214280000:1 2147483647:1|<-03>3"
  , "America/Santiago Chile/Continental|0|-16965 -18000 -14400 -10800|-2524504635:0 -1892661435:1 -1688410800:0 -1619205435:2 -1593806400:0 -1335986235:2 -1317585600:1 -1304362800:2 -1286049600:1 -1272826800:2 -1254513600:1 -1241290800:2 -1222977600:1 -1209754800:2 -1191355200:1 -1178132400:2 -870552000:1 -865278000:2 -740520000:3 -736635600:2 -718056000:1 -713649600:2 -36619200:3 -23922000:2 -3355200:3 7527600:2 24465600:3 37767600:2 55915200:3 69217200:2 87969600:3 100666800:2 118209600:3 132116400:2 150868800:3 163566000:2 182318400:3 195620400:2 213768000:3 227070000:2 245217600:3 258519600:2 277272000:3 289969200:2 308721600:3 321418800:2 340171200:3 353473200:2 371620800:3 384922800:2 403070400:3 416372400:2 434520000:3 447822000:2 466574400:3 479271600:2 498024000:3 510721200:2 529473600:3 545194800:2 560923200:3 574225200:2 592372800:3 605674800:2 624427200:3 637124400:2 653457600:3 668574000:2 687326400:3 700628400:2 718776000:3 732078000:2 750225600:3 763527600:2 781675200:3 794977200:2 813729600:3 826426800:2 845179200:3 859690800:2 876628800:3 889930800:2 906868800:3 923194800:2 939528000:3 952830000:2 971582400:3 984279600:2 1003032000:3 1015729200:2 1034481600:3 1047178800:2 1065931200:3 1079233200:2 1097380800:3 1110682800:2 1128830400:3 1142132400:2 1160884800:3 1173582000:2 1192334400:3 1206846000:2 1223784000:3 1237086000:2 1255233600:3 1270350000:2 1286683200:3 1304823600:2 1313899200:3 1335668400:2 1346558400:3 1367118000:2 1378612800:3 1398567600:2 1410062400:3 1463281200:2 1471147200:3 1494730800:2 1502596800:3 1526180400:2 1534046400:3 1554606000:2 1567915200:3 1586055600:2 1599364800:3 1617505200:2 1630814400:3 1648954800:2 1662868800:3 1680404400:2 1693713600:3 1712458800:2 1725768000:3 1743908400:2 1757217600:3 1775358000:2 1788667200:3 1806807600:2 1820116800:3 1838257200:2 1851566400:3 1870311600:2 1883016000:3 1901761200:2 1915070400:3 1933210800:2 1946520000:3 1964660400:2 1977969600:3 1996110000:2 2009419200:3 2027559600:2 2040868800:3 2059614000:2 2072318400:3 2091063600:2 2104372800:3 2122513200:2 2135822400:3 2147483647:3|<-04>4<-03>,M9.1.6/24,M4.1.6/24"
  , "America/Santo_Domingo|0|-16776 -16800 -14400 -18000 -16200|-2524504824:1 -1159773600:3 -100119600:2 -89668800:3 -5770800:4 4422600:3 25678800:4 33193800:3 57733200:4 64816200:3 89182800:4 96438600:3 120632400:4 127974600:3 152082000:2 972799200:3 975823200:2|AST4"
  , "America/Sao_Paulo Brazil/East|0|-11188 -7200 -10800|-1767214412:2 -1206957600:1 -1191362400:2 -1175374800:1 -1159826400:2 -633819600:1 -622069200:2 -602283600:1 -591832800:2 -570747600:1 -560210400:2 -539125200:1 -531352800:2 -195426000:1 -184197600:2 -155163600:1 -150069600:2 -128898000:1 -121125600:2 -99954000:1 -89589600:2 -68418000:1 -57967200:2 499748400:1 511236000:2 530593200:1 540266400:2 562129200:1 571197600:2 592974000:1 602042400:2 624423600:1 634701600:2 656478000:1 666756000:2 687927600:1 697600800:2 719982000:1 728445600:2 750826800:1 761709600:2 782276400:1 793159200:2 813726000:1 824004000:2 844570800:1 856058400:2 876106800:1 888717600:2 908074800:1 919562400:2 938919600:1 951616800:2 970974000:1 982461600:2 1003028400:1 1013911200:2 1036292400:1 1045360800:2 1066532400:1 1076810400:2 1099364400:1 1108864800:2 1129431600:1 1140314400:2 1162695600:1 1172368800:2 1192330800:1 1203213600:2 1224385200:1 1234663200:2 1255834800:1 1266717600:2 1287284400:1 1298167200:2 1318734000:1 1330221600:2 1350788400:1 1361066400:2 1382238000:1 1392516000:2 1413687600:1 1424570400:2 1445137200:1 1456020000:2 1476586800:1 1487469600:2 1508036400:1 1518919200:2 1541300400:1 1550368800:2 2147483647:2|<-03>3"
  , "America/Scoresbysund|0|-5272 -7200 -3600 0|-1686090728:1 323841600:2 338961600:1 354679200:3 370400400:2 386125200:3 401850000:2 417574800:3 433299600:2 449024400:3 465354000:2 481078800:3 496803600:2 512528400:3 528253200:2 543978000:3 559702800:2 575427600:3 591152400:2 606877200:3 622602000:2 638326800:3 654656400:2 670381200:3 686106000:2 701830800:3 717555600:2 733280400:3 749005200:2 764730000:3 780454800:2 796179600:3 811904400:2 828234000:3 846378000:2 859683600:3 877827600:2 891133200:3 909277200:2 922582800:3 941331600:2 954032400:3 972781200:2 985482000:3 1004230800:2 1017536400:3 1035680400:2 1048986000:3 1067130000:2 1080435600:3 1099184400:2 1111885200:3 1130634000:2 1143334800:3 1162083600:2 1174784400:3 1193533200:2 1206838800:3 1224982800:2 1238288400:3 1256432400:2 1269738000:3 1288486800:2 1301187600:3 1319936400:2 1332637200:3 1351386000:2 1364691600:3 1382835600:2 1396141200:3 1414285200:2 1427590800:3 1445734800:2 1459040400:3 1477789200:2 1490490000:3 1509238800:2 1521939600:3 1540688400:2 1553994000:3 1572138000:2 1585443600:3 1603587600:2 1616893200:3 1635642000:2 1648342800:3 1667091600:2 1679792400:3 1698541200:2 1711846800:2 1729990800:1 1743296400:2 1761440400:1 1774746000:2 1792890000:1 1806195600:2 1824944400:1 1837645200:2 1856394000:1 1869094800:2 1887843600:1 1901149200:2 1919293200:1 1932598800:2 1950742800:1 1964048400:2 1982797200:1 1995498000:2 2014246800:1 2026947600:2 2045696400:1 2058397200:2 2077146000:1 2090451600:2 2108595600:1 2121901200:2 2140045200:1 2147483647:1|<-02>2<-01>,M3.5.0/-1,M10.5.0/0"
  , "America/Sitka|0|53927 -32473 -28800 -25200 -32400|-3225223727:1 -2188954727:2 -880207200:3 -769395600:3 -765385200:2 -21477600:3 -5756400:2 9972000:3 25693200:2 41421600:3 57747600:2 73476000:3 89197200:2 104925600:3 120646800:2 126698400:3 152096400:2 162381600:3 183546000:2 199274400:3 215600400:2 230724000:3 247050000:2 262778400:3 278499600:2 294228000:3 309949200:2 325677600:3 341398800:2 357127200:3 372848400:2 388576800:3 404902800:2 420026400:3 436352400:4 439030800:4 452084400:2 467805600:4 483534000:2 499255200:4 514983600:2 530704800:4 544618800:2 562154400:4 576068400:2 594208800:4 607518000:2 625658400:4 638967600:2 657108000:4 671022000:2 688557600:4 702471600:2 720007200:4 733921200:2 752061600:4 765370800:2 783511200:4 796820400:2 814960800:4 828874800:2 846410400:4 860324400:2 877860000:4 891774000:2 909309600:4 923223600:2 941364000:4 954673200:2 972813600:4 986122800:2 1004263200:4 1018177200:2 1035712800:4 1049626800:2 1067162400:4 1081076400:2 1099216800:4 1112526000:2 1130666400:4 1143975600:2 1162116000:4 1173610800:2 1194170400:4 1205060400:2 1225620000:4 1236510000:2 1257069600:4 1268564400:2 1289124000:4 1300014000:2 1320573600:4 1331463600:2 1352023200:4 1362913200:2 1383472800:4 1394362800:2 1414922400:4 1425812400:2 1446372000:4 1457866800:2 1478426400:4 1489316400:2 1509876000:4 1520766000:2 1541325600:4 1552215600:2 1572775200:4 1583665200:2 1604224800:4 1615719600:2 1636279200:4 1647169200:2 1667728800:4 1678618800:2 1699178400:4 1710068400:2 1730628000:4 1741518000:2 1762077600:4 1772967600:2 1793527200:4 1805022000:2 1825581600:4 1836471600:2 1857031200:4 1867921200:2 1888480800:4 1899370800:2 1919930400:4 1930820400:2 1951380000:4 1962874800:2 1983434400:4 1994324400:2 2014884000:4 2025774000:2 2046333600:4 2057223600:2 2077783200:4 2088673200:2 2109232800:4 2120122800:2 2140682400:4|AKST9AKDT,M3.2.0,M11.1.0"
  , "America/St_Johns Canada/Newfoundland|0|-12652 -9052 -9000 -12600 -5400|-2713897748:0 -1664130548:1 -1650137348:0 -1632076148:1 -1615145348:0 -1598650148:1 -1590100148:0 -1567286948:1 -1551565748:0 -1535837348:1 -1520116148:0 -1503782948:1 -1488666548:0 -1472333348:1 -1457216948:0 -1440883748:1 -1425767348:0 -1409434148:1 -1394317748:0 -1377984548:1 -1362263348:0 -1346534948:1 -1330813748:0 -1314480548:1 -1299364148:0 -1283030948:1 -1267914548:0 -1251581348:1 -1236464948:0 -1220131748:1 -1205015348:0 -1188682148:1 -1172960948:0 -1156627748:1 -1141511348:0 -1125178148:1 -1110061748:0 -1096921748:3 -1093728600:2 -1078612200:3 -1061670600:2 -1048973400:3 -1030221000:2 -1017523800:3 -998771400:2 -986074200:3 -966717000:2 -954624600:3 -935267400:2 -922570200:3 -903817800:2 -891120600:3 -872368200:2 -769395600:2 -765401400:3 -746044200:2 -733347000:3 -714594600:2 -701897400:3 -683145000:2 -670447800:3 -651695400:2 -638998200:3 -619641000:2 -606943800:3 -589401000:2 -576099000:3 -557951400:2 -544649400:3 -526501800:2 -513199800:3 -495052200:2 -481750200:3 -463602600:2 -450300600:3 -431548200:2 -418246200:3 -400098600:2 -386796600:3 -368649000:2 -355347000:3 -337199400:2 -323897400:3 -305749800:2 -289423800:3 -273695400:2 -257974200:3 -242245800:2 -226524600:3 -210796200:2 -195075000:3 -179346600:2 -163625400:3 -147897000:2 -131571000:3 -116447400:2 -100121400:3 -84393000:2 -68671800:3 -52943400:2 -37222200:3 -21493800:2 -5772600:3 9955800:2 25677000:3 41405400:2 57731400:3 73459800:2 89181000:3 104909400:2 120630600:3 136359000:2 152080200:3 167808600:2 183529800:3 199258200:2 215584200:3 230707800:2 247033800:3 262762200:2 278483400:3 294211800:2 309933000:3 325661400:2 341382600:3 357111000:2 372832200:3 388560600:2 404886600:3 420010200:2 436336200:3 452064600:2 467785800:3 483514200:2 499235400:3 514963800:2 530685000:3 544591860:2 562127460:3 576041460:4 594178260:3 607491060:2 625631460:3 638940660:2 657081060:3 670995060:2 688530660:3 702444660:2 719980260:3 733894260:2 752034660:3 765343860:2 783484260:3 796793460:2 814933860:3 828847860:2 846383460:3 860297460:2 877833060:3 891747060:2 909282660:3 923196660:2 941337060:3 954646260:2 972786660:3 986095860:2 1004236260:3 1018150260:2 1035685860:3 1049599860:2 1067135460:3 1081049460:2 1099189860:3 1112499060:2 1130639460:3 1143948660:2 1162089060:3 1173583860:2 1194143460:3 1205033460:2 1225593060:3 1236483060:2 1257042660:3 1268537460:2 1289097060:3 1299987060:2 1320553800:3 1331443800:2 1352003400:3 1362893400:2 1383453000:3 1394343000:2 1414902600:3 1425792600:2 1446352200:3 1457847000:2 1478406600:3 1489296600:2 1509856200:3 1520746200:2 1541305800:3 1552195800:2 1572755400:3 1583645400:2 1604205000:3 1615699800:2 1636259400:3 1647149400:2 1667709000:3 1678599000:2 1699158600:3 1710048600:2 1730608200:3 1741498200:2 1762057800:3 1772947800:2 1793507400:3 1805002200:2 1825561800:3 1836451800:2 1857011400:3 1867901400:2 1888461000:3 1899351000:2 1919910600:3 1930800600:2 1951360200:3 1962855000:2 1983414600:3 1994304600:2 2014864200:3 2025754200:2 2046313800:3 2057203800:2 2077763400:3 2088653400:2 2109213000:3 2120103000:2 2140662600:3|NST3:30NDT,M3.2.0,M11.1.0"
  , "America/St_Kitts|0|-15052 -14400|-1825098548:1|AST4"
  , "America/St_Lucia|0|-14640 -14400|-2524506960:0 -1830369360:1|AST4"
  , "America/St_Thomas America/Virgin|0|-15584 -14400|-1846266016:1|AST4"
  , "America/St_Vincent|0|-14696 -14400|-2524506904:0 -1830369304:1|AST4"
  , "America/Swift_Current|0|-25880 -21600 -25200|-2030201320:2 -1632063600:1 -1615132800:2 -880210800:1 -769395600:1 -765388800:2 -747241200:1 -732729600:2 -715791600:1 -702489600:2 -684342000:1 -671040000:2 -652892400:1 -639590400:2 -400086000:1 -384364800:2 -337186800:1 -321465600:2 -305737200:1 -292435200:2 -273682800:1 -260985600:2 73472400:1|CST6"
  , "America/Tegucigalpa|0|-20932 -18000 -21600|-1538503868:2 547020000:1 559717200:2 578469600:1 591166800:2 1146981600:1 1154926800:2|CST6"
  , "America/Thule|0|-16508 -10800 -14400|-1686079492:2 670399200:1 686120400:2 701848800:1 717570000:2 733903200:1 752043600:2 765352800:1 783493200:2 796802400:1 814942800:2 828856800:1 846392400:2 860306400:1 877842000:2 891756000:1 909291600:2 923205600:1 941346000:2 954655200:1 972795600:2 986104800:1 1004245200:2 1018159200:1 1035694800:2 1049608800:1 1067144400:2 1081058400:1 1099198800:2 1112508000:1 1130648400:2 1143957600:1 1162098000:2 1173592800:1 1194152400:2 1205042400:1 1225602000:2 1236492000:1 1257051600:2 1268546400:1 1289106000:2 1299996000:1 1320555600:2 1331445600:1 1352005200:2 1362895200:1 1383454800:2 1394344800:1 1414904400:2 1425794400:1 1446354000:2 1457848800:1 1478408400:2 1489298400:1 1509858000:2 1520748000:1 1541307600:2 1552197600:1 1572757200:2 1583647200:1 1604206800:2 1615701600:1 1636261200:2 1647151200:1 1667710800:2 1678600800:1 1699160400:2 1710050400:1 1730610000:2 1741500000:1 1762059600:2 1772949600:1 1793509200:2 1805004000:1 1825563600:2 1836453600:1 1857013200:2 1867903200:1 1888462800:2 1899352800:1 1919912400:2 1930802400:1 1951362000:2 1962856800:1 1983416400:2 1994306400:1 2014866000:2 2025756000:1 2046315600:2 2057205600:1 2077765200:2 2088655200:1 2109214800:2 2120104800:1 2140664400:2|AST4ADT,M3.2.0,M11.1.0"
  , "America/Tijuana America/Ensenada America/Santa_Isabel Mexico/BajaNorte|0|-28084 -25200 -28800|-1514739600:1 -1451667600:2 -1343145600:1 -1234803600:2 -1222963200:1 -1207242000:2 -873820800:1 -769395600:1 -761418000:2 -686073600:1 -661539600:2 -620755200:1 -608144400:2 -589384800:1 -576082800:2 -557935200:1 -544633200:2 -526489200:1 -513183600:2 -495039600:1 -481734000:2 -463590000:1 -450284400:2 -431535600:1 -418230000:2 -400086000:1 -386780400:2 -368636400:1 -355330800:2 -337186800:1 -323881200:2 -305737200:1 -292431600:2 -273682800:1 -260982000:2 -242233200:1 -226508400:2 -210783600:1 -195058800:2 -179334000:1 -163609200:2 -147884400:1 -131554800:2 -116434800:1 -100105200:2 -84376800:1 -68655600:2 -52927200:1 -37206000:2 -21477600:1 -5756400:2 9972000:1 25693200:2 41421600:1 57747600:2 73476000:1 89197200:2 104925600:1 120646800:2 126698400:1 152096400:2 162381600:1 183546000:2 199274400:1 215600400:2 230724000:1 247050000:2 262778400:1 278499600:2 294228000:1 309949200:2 325677600:1 341398800:2 357127200:1 372848400:2 388576800:1 404902800:2 420026400:1 436352400:2 452080800:1 467802000:2 483530400:1 499251600:2 514980000:1 530701200:2 544615200:1 562150800:2 576064800:1 594205200:2 607514400:1 625654800:2 638964000:1 657104400:2 671018400:1 688554000:2 702468000:1 720003600:2 733917600:1 752058000:2 765367200:1 783507600:2 796816800:1 814957200:2 828871200:1 846406800:2 860320800:1 877856400:2 891770400:1 909306000:2 923220000:1 941360400:2 954669600:1 972810000:2 986119200:1 1004259600:2 1018173600:1 1035709200:2 1049623200:1 1067158800:2 1081072800:1 1099213200:2 1112522400:1 1130662800:2 1143972000:1 1162112400:2 1175421600:1 1193562000:2 1207476000:1 1225011600:2 1238925600:1 1256461200:2 1268560800:1 1289120400:2 1300010400:1 1320570000:2 1331460000:1 1352019600:2 1362909600:1 1383469200:2 1394359200:1 1414918800:2 1425808800:1 1446368400:2 1457863200:1 1478422800:2 1489312800:1 1509872400:2 1520762400:1 1541322000:2 1552212000:1 1572771600:2 1583661600:1 1604221200:2 1615716000:1 1636275600:2 1647165600:1 1667725200:2 1678615200:1 1699174800:2 1710064800:1 1730624400:2 1741514400:1 1762074000:2 1772964000:1 1793523600:2 1805018400:1 1825578000:2 1836468000:1 1857027600:2 1867917600:1 1888477200:2 1899367200:1 1919926800:2 1930816800:1 1951376400:2 1962871200:1 1983430800:2 1994320800:1 2014880400:2 2025770400:1 2046330000:2 2057220000:1 2077779600:2 2088669600:1 2109229200:2 2120119200:1 2140678800:2|PST8PDT,M3.2.0,M11.1.0"
  , "America/Toronto America/Montreal America/Nipigon America/Thunder_Bay Canada/Eastern|0|-19052 -14400 -18000|-2366736148:2 -1632070800:1 -1615140000:2 -1601753400:1 -1583697600:2 -1567357200:1 -1554667200:2 -1534698000:1 -1524074400:2 -1503248400:1 -1492365600:2 -1471798800:1 -1460916000:2 -1440954000:1 -1428861600:2 -1409504400:1 -1397412000:2 -1378054800:1 -1365962400:2 -1346605200:1 -1333908000:2 -1315155600:1 -1301853600:2 -1283706000:1 -1270404000:2 -1252256400:1 -1238954400:2 -1220806800:1 -1207504800:2 -1188752400:1 -1176055200:2 -1157302800:1 -1144000800:2 -1125853200:1 -1112551200:2 -1094403600:1 -1081101600:2 -1062954000:1 -1049652000:2 -1031504400:1 -1018202400:2 -1000054800:1 -986752800:2 -968000400:1 -955303200:2 -936550800:1 -880218000:1 -769395600:1 -765396000:2 -747248400:1 -733946400:2 -715798800:1 -702496800:2 -684349200:1 -671047200:2 -652899600:1 -634154400:2 -620845200:1 -602704800:2 -589395600:1 -576093600:2 -557946000:1 -544644000:2 -526496400:1 -513194400:2 -495046800:1 -481744800:2 -463597200:1 -450295200:2 -431542800:1 -418240800:2 -400093200:1 -384372000:2 -368643600:1 -352922400:2 -337194000:1 -321472800:2 -305744400:1 -289418400:2 -273690000:1 -257968800:2 -242240400:1 -226519200:2 -210790800:1 -195069600:2 -179341200:1 -163620000:2 -147891600:1 -131565600:2 -116442000:1 -100116000:2 -84387600:1 -68666400:2 -52938000:1 -37216800:2 -21488400:1 -5767200:2 9961200:1 25682400:2 41410800:1 57736800:2 73465200:1 89186400:2 104914800:1 120636000:2 136364400:1 152085600:2 167814000:1 183535200:2 199263600:1 215589600:2 230713200:1 247039200:2 262767600:1 278488800:2 294217200:1 309938400:2 325666800:1 341388000:2 357116400:1 372837600:2 388566000:1 404892000:2 420015600:1 436341600:2 452070000:1 467791200:2 483519600:1 499240800:2 514969200:1 530690400:2 544604400:1 562140000:2 576054000:1 594194400:2 607503600:1 625644000:2 638953200:1 657093600:2 671007600:1 688543200:2 702457200:1 719992800:2 733906800:1 752047200:2 765356400:1 783496800:2 796806000:1 814946400:2 828860400:1 846396000:2 860310000:1 877845600:2 891759600:1 909295200:2 923209200:1 941349600:2 954658800:1 972799200:2 986108400:1 1004248800:2 1018162800:1 1035698400:2 1049612400:1 1067148000:2 1081062000:1 1099202400:2 1112511600:1 1130652000:2 1143961200:1 1162101600:2 1173596400:1 1194156000:2 1205046000:1 1225605600:2 1236495600:1 1257055200:2 1268550000:1 1289109600:2 1299999600:1 1320559200:2 1331449200:1 1352008800:2 1362898800:1 1383458400:2 1394348400:1 1414908000:2 1425798000:1 1446357600:2 1457852400:1 1478412000:2 1489302000:1 1509861600:2 1520751600:1 1541311200:2 1552201200:1 1572760800:2 1583650800:1 1604210400:2 1615705200:1 1636264800:2 1647154800:1 1667714400:2 1678604400:1 1699164000:2 1710054000:1 1730613600:2 1741503600:1 1762063200:2 1772953200:1 1793512800:2 1805007600:1 1825567200:2 1836457200:1 1857016800:2 1867906800:1 1888466400:2 1899356400:1 1919916000:2 1930806000:1 1951365600:2 1962860400:1 1983420000:2 1994310000:1 2014869600:2 2025759600:1 2046319200:2 2057209200:1 2077768800:2 2088658800:1 2109218400:2 2120108400:1 2140668000:2|EST5EDT,M3.2.0,M11.1.0"
  , "America/Tortola|0|-15508 -14400|-1846266092:1|AST4"
  , "America/Vancouver Canada/Pacific|0|-29548 -25200 -28800|-2713880852:2 -1632060000:1 -1615129200:2 -880207200:1 -769395600:1 -765385200:2 -747237600:1 -733935600:2 -715788000:1 -702486000:2 -684338400:1 -671036400:2 -652888800:1 -639586800:2 -620834400:1 -608137200:2 -589384800:1 -576082800:2 -557935200:1 -544633200:2 -526485600:1 -513183600:2 -495036000:1 -481734000:2 -463586400:1 -450284400:2 -431532000:1 -418230000:2 -400082400:1 -386780400:2 -368632800:1 -355330800:2 -337183200:1 -323881200:2 -305733600:1 -292431600:2 -273679200:1 -260982000:2 -242229600:1 -226508400:2 -210780000:1 -195058800:2 -179330400:1 -163609200:2 -147880800:1 -131554800:2 -116431200:1 -100105200:2 -84376800:1 -68655600:2 -52927200:1 -37206000:2 -21477600:1 -5756400:2 9972000:1 25693200:2 41421600:1 57747600:2 73476000:1 89197200:2 104925600:1 120646800:2 136375200:1 152096400:2 167824800:1 183546000:2 199274400:1 215600400:2 230724000:1 247050000:2 262778400:1 278499600:2 294228000:1 309949200:2 325677600:1 341398800:2 357127200:1 372848400:2 388576800:1 404902800:2 420026400:1 436352400:2 452080800:1 467802000:2 483530400:1 499251600:2 514980000:1 530701200:2 544615200:1 562150800:2 576064800:1 594205200:2 607514400:1 625654800:2 638964000:1 657104400:2 671018400:1 688554000:2 702468000:1 720003600:2 733917600:1 752058000:2 765367200:1 783507600:2 796816800:1 814957200:2 828871200:1 846406800:2 860320800:1 877856400:2 891770400:1 909306000:2 923220000:1 941360400:2 954669600:1 972810000:2 986119200:1 1004259600:2 1018173600:1 1035709200:2 1049623200:1 1067158800:2 1081072800:1 1099213200:2 1112522400:1 1130662800:2 1143972000:1 1162112400:2 1173607200:1 1194166800:2 1205056800:1 1225616400:2 1236506400:1 1257066000:2 1268560800:1 1289120400:2 1300010400:1 1320570000:2 1331460000:1 1352019600:2 1362909600:1 1383469200:2 1394359200:1 1414918800:2 1425808800:1 1446368400:2 1457863200:1 1478422800:2 1489312800:1 1509872400:2 1520762400:1 1541322000:2 1552212000:1 1572771600:2 1583661600:1 1604221200:2 1615716000:1 1636275600:2 1647165600:1 1667725200:2 1678615200:1 1699174800:2 1710064800:1 1730624400:2 1741514400:1 1762074000:2 1772964000:1|MST7"
  , "America/Whitehorse Canada/Yukon|0|-32412 -28800 -32400 -25200|-2188997988:2 -1632056400:1 -1615125600:2 -1596978000:1 -1583164800:2 -880203600:1 -769395600:1 -765381600:2 -147884400:3 -131554800:2 -121273200:1 325677600:3 341398800:1 357127200:3 372848400:1 388576800:3 404902800:1 420026400:3 436352400:1 452080800:3 467802000:1 483530400:3 499251600:1 514980000:3 530701200:1 544615200:3 562150800:1 576064800:3 594205200:1 607514400:3 625654800:1 638964000:3 657104400:1 671018400:3 688554000:1 702468000:3 720003600:1 733917600:3 752058000:1 765367200:3 783507600:1 796816800:3 814957200:1 828871200:3 846406800:1 860320800:3 877856400:1 891770400:3 909306000:1 923220000:3 941360400:1 954669600:3 972810000:1 986119200:3 1004259600:1 1018173600:3 1035709200:1 1049623200:3 1067158800:1 1081072800:3 1099213200:1 1112522400:3 1130662800:1 1143972000:3 1162112400:1 1173607200:3 1194166800:1 1205056800:3 1225616400:1 1236506400:3 1257066000:1 1268560800:3 1289120400:1 1300010400:3 1320570000:1 1331460000:3 1352019600:1 1362909600:3 1383469200:1 1394359200:3 1414918800:1 1425808800:3 1446368400:1 1457863200:3 1478422800:1 1489312800:3 1509872400:1 1520762400:3 1541322000:1 1552212000:3 1572771600:1 1583661600:3 1604214000:3|MST7"
  , "America/Winnipeg America/Rainy_River Canada/Central|0|-23316 -18000 -21600|-2602258284:2 -1694368800:1 -1681671600:2 -1632067200:1 -1615136400:2 -1029686400:1 -1018198800:2 -880214400:1 -769395600:1 -765392400:2 -746035200:1 -732733200:2 -715795200:1 -702493200:2 -684345600:1 -671043600:2 -652896000:1 -639594000:2 -620755200:1 -607626000:2 -589392000:1 -576090000:2 -557942400:1 -544640400:2 -526492800:1 -513190800:2 -495043200:1 -481741200:2 -463593600:1 -450291600:2 -431539200:1 -418237200:2 -400089600:1 -386787600:2 -368640000:1 -355338000:2 -337190400:1 -321469200:2 -305740800:1 -292438800:2 -210787200:1 -198090000:2 -116438400:1 -100108800:2 -84384000:1 -68659200:2 -52934400:1 -37209600:2 -21484800:1 -5760000:2 9964800:1 25689600:2 41414400:1 57744000:2 73468800:1 89193600:2 104918400:1 120643200:2 136368000:1 152092800:2 167817600:1 183542400:2 199267200:1 215596800:2 230716800:1 247046400:2 262771200:1 278496000:2 294220800:1 309945600:2 325670400:1 341395200:2 357120000:1 372844800:2 388569600:1 404899200:2 420019200:1 436348800:2 452073600:1 467798400:2 483523200:1 499248000:2 514972800:1 530697600:2 544608000:1 562147200:2 576057600:1 594201600:2 607507200:1 625651200:2 638956800:1 657100800:2 671011200:1 688550400:2 702460800:1 720000000:2 733910400:1 752054400:2 765360000:1 783504000:2 796809600:1 814953600:2 828864000:1 846403200:2 860313600:1 877852800:2 891763200:1 909302400:2 923212800:1 941356800:2 954662400:1 972806400:2 986112000:1 1004256000:2 1018166400:1 1035705600:2 1049616000:1 1067155200:2 1081065600:1 1099209600:2 1112515200:1 1130659200:2 1143964800:1 1162105200:2 1173600000:1 1194159600:2 1205049600:1 1225609200:2 1236499200:1 1257058800:2 1268553600:1 1289113200:2 1300003200:1 1320562800:2 1331452800:1 1352012400:2 1362902400:1 1383462000:2 1394352000:1 1414911600:2 1425801600:1 1446361200:2 1457856000:1 1478415600:2 1489305600:1 1509865200:2 1520755200:1 1541314800:2 1552204800:1 1572764400:2 1583654400:1 1604214000:2 1615708800:1 1636268400:2 1647158400:1 1667718000:2 1678608000:1 1699167600:2 1710057600:1 1730617200:2 1741507200:1 1762066800:2 1772956800:1 1793516400:2 1805011200:1 1825570800:2 1836460800:1 1857020400:2 1867910400:1 1888470000:2 1899360000:1 1919919600:2 1930809600:1 1951369200:2 1962864000:1 1983423600:2 1994313600:1 2014873200:2 2025763200:1 2046322800:2 2057212800:1 2077772400:2 2088662400:1 2109222000:2 2120112000:1 2140671600:2|CST6CDT,M3.2.0,M11.1.0"
  , "America/Yakutat|0|52865 -33535 -32400 -28800|-3225223727:1 -2188953665:2 -880203600:3 -769395600:3 -765381600:2 -21474000:3 -5752800:2 9975600:3 25696800:2 41425200:3 57751200:2 73479600:3 89200800:2 104929200:3 120650400:2 126702000:3 152100000:2 162385200:3 183549600:2 199278000:3 215604000:2 230727600:3 247053600:2 262782000:3 278503200:2 294231600:3 309952800:2 325681200:3 341402400:2 357130800:3 372852000:2 388580400:3 404906400:2 420030000:3 436356000:2 439030800:2 452084400:3 467805600:2 483534000:3 499255200:2 514983600:3 530704800:2 544618800:3 562154400:2 576068400:3 594208800:2 607518000:3 625658400:2 638967600:3 657108000:2 671022000:3 688557600:2 702471600:3 720007200:2 733921200:3 752061600:2 765370800:3 783511200:2 796820400:3 814960800:2 828874800:3 846410400:2 860324400:3 877860000:2 891774000:3 909309600:2 923223600:3 941364000:2 954673200:3 972813600:2 986122800:3 1004263200:2 1018177200:3 1035712800:2 1049626800:3 1067162400:2 1081076400:3 1099216800:2 1112526000:3 1130666400:2 1143975600:3 1162116000:2 1173610800:3 1194170400:2 1205060400:3 1225620000:2 1236510000:3 1257069600:2 1268564400:3 1289124000:2 1300014000:3 1320573600:2 1331463600:3 1352023200:2 1362913200:3 1383472800:2 1394362800:3 1414922400:2 1425812400:3 1446372000:2 1457866800:3 1478426400:2 1489316400:3 1509876000:2 1520766000:3 1541325600:2 1552215600:3 1572775200:2 1583665200:3 1604224800:2 1615719600:3 1636279200:2 1647169200:3 1667728800:2 1678618800:3 1699178400:2 1710068400:3 1730628000:2 1741518000:3 1762077600:2 1772967600:3 1793527200:2 1805022000:3 1825581600:2 1836471600:3 1857031200:2 1867921200:3 1888480800:2 1899370800:3 1919930400:2 1930820400:3 1951380000:2 1962874800:3 1983434400:2 1994324400:3 2014884000:2 2025774000:3 2046333600:2 2057223600:3 2077783200:2 2088673200:3 2109232800:2 2120122800:3 2140682400:2|AKST9AKDT,M3.2.0,M11.1.0"
  , "Antarctica/Casey|0|0 28800 39600|-31536000:1 1255802400:2 1267714800:1 1319738400:2 1329843600:1 1477065600:2 1520701200:1 1538856000:2 1552752000:1 1570129200:2 1583596800:1 1601740860:2 1615640400:1 1633190460:2 1647090000:1 1664640060:2 1678291200:1 2147483647:1|<+08>-8"
  , "Antarctica/Davis|0|0 25200 18000|-409190400:1 -163062000:0 -28857600:1 1255806000:2 1268251200:1 1319742000:2 1329854400:1 2147483647:1|<+07>-7"
  , "Antarctica/DumontDUrville|0|0 36000|-725846400:1 -566992800:0 -415497600:1 2147483647:1|<+10>-10"
  , "Antarctica/Macquarie|0|0 36000 39600|-2214259200:1 -1680508800:2 -1665388800:1 -1601719200:0 -687052800:1 -71136000:2 -55411200:1 -37267200:2 -25776000:1 -5817600:2 5673600:1 25632000:2 37728000:1 57686400:2 67968000:1 89136000:2 100022400:1 120585600:2 131472000:1 152035200:2 162921600:1 183484800:2 194976000:1 215539200:2 226425600:1 246988800:2 257875200:1 278438400:2 289324800:1 309888000:2 320774400:1 341337600:2 352224000:1 372787200:2 386092800:1 404841600:2 417542400:1 436291200:2 447177600:1 467740800:2 478627200:1 499190400:2 510076800:1 530035200:2 542736000:1 562089600:2 574790400:1 594144000:2 606240000:1 625593600:2 637689600:1 657043200:2 670348800:1 686678400:2 701798400:1 718128000:2 733248000:1 749577600:2 764697600:1 781027200:2 796147200:1 812476800:2 828201600:1 844531200:2 859651200:1 875980800:2 891100800:1 907430400:2 922550400:1 938880000:2 954000000:1 967305600:2 985449600:1 1002384000:2 1017504000:1 1033833600:2 1048953600:1 1065283200:2 1080403200:1 1096732800:2 1111852800:1 1128182400:2 1143907200:1 1159632000:2 1174752000:1 1191686400:2 1207411200:1 1223136000:2 1238860800:1 1254585600:2 1301760000:1 1317484800:2 1333209600:1 1349539200:2 1365264000:1 1380988800:2 1396713600:1 1412438400:2 1428163200:1 1443888000:2 1459612800:1 1475337600:2 1491062400:1 1506787200:2 1522512000:1 1538841600:2 1554566400:1 1570291200:2 1586016000:1 1601740800:2 1617465600:1 1633190400:2 1648915200:1 1664640000:2 1680364800:1 1696089600:2 1712419200:1 1728144000:2 1743868800:1 1759593600:2 1775318400:1 1791043200:2 1806768000:1 1822492800:2 1838217600:1 1853942400:2 1869667200:1 1885996800:2 1901721600:1 1917446400:2 1933171200:1 1948896000:2 1964620800:1 1980345600:2 1996070400:1 2011795200:2 2027520000:1 2043244800:2 2058969600:1 2075299200:2 2091024000:1 2106748800:2 2122473600:1 2138198400:2|AEST-10AEDT,M10.1.0,M4.1.0/3"
  , "Antarctica/Mawson|0|0 21600 18000|-501206400:1 1255809600:2 2147483647:2|<+05>-5"
  , "Antarctica/McMurdo Antarctica/South_Pole|0|0 46800 43200|-441849600:2 152632800:1 162309600:2 183477600:1 194968800:2 215532000:1 226418400:2 246981600:1 257868000:2 278431200:1 289317600:2 309880800:1 320767200:2 341330400:1 352216800:2 372780000:1 384271200:2 404834400:1 415720800:2 436284000:1 447170400:2 467733600:1 478620000:2 499183200:1 510069600:2 530632800:1 541519200:2 562082400:1 573573600:2 594136800:1 605023200:2 623772000:1 637682400:2 655221600:1 669132000:2 686671200:1 700581600:2 718120800:1 732636000:2 749570400:1 764085600:2 781020000:1 795535200:2 812469600:1 826984800:2 844524000:1 858434400:2 875973600:1 889884000:2 907423200:1 921938400:2 938872800:1 953388000:2 970322400:1 984837600:2 1002376800:1 1016287200:2 1033826400:1 1047736800:2 1065276000:1 1079791200:2 1096725600:1 1111240800:2 1128175200:1 1142690400:2 1159624800:1 1174140000:2 1191074400:1 1207404000:2 1222524000:1 1238853600:2 1253973600:1 1270303200:2 1285423200:1 1301752800:2 1316872800:1 1333202400:2 1348927200:1 1365256800:2 1380376800:1 1396706400:2 1411826400:1 1428156000:2 1443276000:1 1459605600:2 1474725600:1 1491055200:2 1506175200:1 1522504800:2 1538229600:1 1554559200:2 1569679200:1 1586008800:2 1601128800:1 1617458400:2 1632578400:1 1648908000:2 1664028000:1 1680357600:2 1695477600:1 1712412000:2 1727532000:1 1743861600:2 1758981600:1 1775311200:2 1790431200:1 1806760800:2 1821880800:1 1838210400:2 1853330400:1 1869660000:2 1885384800:1 1901714400:2 1916834400:1 1933164000:2 1948284000:1 1964613600:2 1979733600:1 1996063200:2 2011183200:1 2027512800:2 2042632800:1 2058962400:2 2074687200:1 2091016800:2 2106136800:1 2122466400:2 2137586400:1|NZST-12NZDT,M9.5.0,M4.1.0/3"
  , "Antarctica/Palmer|0|0 -14400 -10800 -7200|-157766400:2 -152658000:1 -132955200:2 -121122000:1 -101419200:2 -86821200:1 -71092800:2 -54766800:1 -39038400:2 -23317200:1 -7588800:2 128142000:3 136605600:2 389070000:1 403070400:2 416372400:1 434520000:2 447822000:1 466574400:2 479271600:1 498024000:2 510721200:1 529473600:2 545194800:1 560923200:2 574225200:1 592372800:2 605674800:1 624427200:2 637124400:1 653457600:2 668574000:1 687326400:2 700628400:1 718776000:2 732078000:1 750225600:2 763527600:1 781675200:2 794977200:1 813729600:2 826426800:1 845179200:2 859690800:1 876628800:2 889930800:1 906868800:2 923194800:1 939528000:2 952830000:1 971582400:2 984279600:1 1003032000:2 1015729200:1 1034481600:2 1047178800:1 1065931200:2 1079233200:1 1097380800:2 1110682800:1 1128830400:2 1142132400:1 1160884800:2 1173582000:1 1192334400:2 1206846000:1 1223784000:2 1237086000:1 1255233600:2 1270350000:1 1286683200:2 1304823600:1 1313899200:2 1335668400:1 1346558400:2 1367118000:1 1378612800:2 1398567600:1 1410062400:2 1463281200:1 1471147200:2 1480820400:2 2147483647:2|<-03>3"
  , "Antarctica/Rothera|0|0 -10800|218246400:1 2147483647:1|<-03>3"
  , "Antarctica/Syowa|0|0 10800|-407808000:1 2147483647:1|<+03>-3"
  , "Antarctica/Troll|0|0 7200|1108166400:0 1111885200:1 1130634000:0 1143334800:1 1162083600:0 1174784400:1 1193533200:0 1206838800:1 1224982800:0 1238288400:1 1256432400:0 1269738000:1 1288486800:0 1301187600:1 1319936400:0 1332637200:1 1351386000:0 1364691600:1 1382835600:0 1396141200:1 1414285200:0 1427590800:1 1445734800:0 1459040400:1 1477789200:0 1490490000:1 1509238800:0 1521939600:1 1540688400:0 1553994000:1 1572138000:0 1585443600:1 1603587600:0 1616893200:1 1635642000:0 1648342800:1 1667091600:0 1679792400:1 1698541200:0 1711846800:1 1729990800:0 1743296400:1 1761440400:0 1774746000:1 1792890000:0 1806195600:1 1824944400:0 1837645200:1 1856394000:0 1869094800:1 1887843600:0 1901149200:1 1919293200:0 1932598800:1 1950742800:0 1964048400:1 1982797200:0 1995498000:1 2014246800:0 2026947600:1 2045696400:0 2058397200:1 2077146000:0 2090451600:1 2108595600:0 2121901200:1 2140045200:0 2147483647:0|<+00>0<+02>-2,M3.5.0/1,M10.5.0/3"
  , "Antarctica/Vostok|0|0 25200 18000|-380073600:1 760035600:0 783648000:1 1702839600:2 2147483647:2|<+05>-5"
  , "Asia/Aden|0|10794 10800|-631162794:1 2147483647:1|<+03>-3"
  , "Asia/Almaty|0|18468 18000 25200 21600|-1441170468:1 -1247547600:3 354909600:2 370717200:3 386445600:2 402253200:3 417981600:2 433789200:3 449604000:2 465336000:3 481060800:2 496785600:3 512510400:2 528235200:3 543960000:2 559684800:3 575409600:2 591134400:3 606859200:2 622584000:3 638308800:2 654638400:3 670363200:3 686091600:1 695768400:3 701812800:2 717537600:3 733262400:2 748987200:3 764712000:2 780436800:3 796161600:2 811886400:3 828216000:2 846360000:3 859665600:2 877809600:3 891115200:2 909259200:3 922564800:2 941313600:3 954014400:2 972763200:3 985464000:2 1004212800:3 1017518400:2 1035662400:3 1048968000:2 1067112000:3 1080417600:2 1099166400:3 1709229600:1 2147483647:1|<+05>-5"
  , "Asia/Amman|0|8624 10800 7200|-1230776624:2 108165600:1 118270800:2 136591200:1 149806800:2 168127200:1 181342800:2 199749600:1 215643600:2 231285600:1 244501200:2 262735200:1 275950800:2 481154400:1 496962000:2 512949600:1 528670800:2 544399200:1 560120400:2 575848800:1 592174800:2 610581600:1 623624400:2 641167200:1 655074000:2 671839200:1 685918800:2 702856800:1 717973200:2 733701600:1 749422800:2 765151200:1 779662800:2 797205600:1 811116000:2 828655200:1 843170400:2 860104800:1 874620000:2 891554400:1 906069600:2 930780000:1 938124000:2 954367200:1 970178400:2 985816800:1 1001628000:2 1017352800:1 1033077600:2 1048802400:1 1066946400:2 1080252000:1 1097791200:2 1112306400:1 1128031200:2 1143756000:1 1161900000:2 1175205600:1 1193349600:2 1206655200:1 1225404000:2 1238104800:1 1256853600:2 1269554400:1 1288303200:2 1301608800:1 1319752800:2 1333058400:1 1387486800:2 1395957600:1 1414706400:2 1427407200:1 1446156000:2 1459461600:1 1477605600:2 1490911200:1 1509055200:2 1522360800:1 1540504800:2 1553810400:1 1571954400:2 1585260000:1 1604008800:2 1616709600:1 1635458400:2 1645740000:1 1666908000:1 2147483647:1|<+03>-3"
  , "Asia/Anadyr|0|42596 43200 50400 46800 39600|-1441194596:1 -1247572800:3 354884400:2 370692000:3 386420400:3 402231600:1 417960000:3 433767600:1 449582400:3 465314400:1 481039200:3 496764000:1 512488800:3 528213600:1 543938400:3 559663200:1 575388000:3 591112800:1 606837600:3 622562400:1 638287200:3 654616800:1 670341600:1 686070000:4 695746800:1 701791200:3 717516000:1 733240800:3 748965600:1 764690400:3 780415200:1 796140000:3 811864800:1 828194400:3 846338400:1 859644000:3 877788000:1 891093600:3 909237600:1 922543200:3 941292000:1 953992800:3 972741600:1 985442400:3 1004191200:1 1017496800:3 1035640800:1 1048946400:3 1067090400:1 1080396000:3 1099144800:1 1111845600:3 1130594400:1 1143295200:3 1162044000:1 1174744800:3 1193493600:1 1206799200:3 1224943200:1 1238248800:3 1256392800:1 1269698400:1 1288450800:4 1301151600:1 2147483647:1|<+12>-12"
  , "Asia/Aqtau|0|12064 14400 18000 21600|-1441164064:1 -1247544000:2 370724400:3 386445600:3 402256800:2 417985200:3 433792800:2 449607600:3 465339600:2 481064400:3 496789200:2 512514000:3 528238800:2 543963600:3 559688400:2 575413200:3 591138000:2 606862800:3 622587600:2 638312400:3 654642000:2 670366800:2 686095200:1 695772000:2 701816400:3 717541200:2 733266000:3 748990800:2 764715600:3 780440400:1 796168800:2 811893600:1 828223200:2 846367200:1 859672800:2 877816800:1 891122400:2 909266400:1 922572000:2 941320800:1 954021600:2 972770400:1 985471200:2 1004220000:1 1017525600:2 1035669600:1 1048975200:2 1067119200:1 1080424800:2 1099173600:2 2147483647:2|<+05>-5"
  , "Asia/Aqtobe|0|13720 14400 18000 21600|-1441165720:1 -1247544000:2 354913200:3 370720800:3 386445600:3 402256800:2 417985200:3 433792800:2 449607600:3 465339600:2 481064400:3 496789200:2 512514000:3 528238800:2 543963600:3 559688400:2 575413200:3 591138000:2 606862800:3 622587600:2 638312400:3 654642000:2 670366800:2 686095200:1 695772000:2 701816400:3 717541200:2 733266000:3 748990800:2 764715600:3 780440400:2 796165200:3 811890000:2 828219600:3 846363600:2 859669200:3 877813200:2 891118800:3 909262800:2 922568400:3 941317200:2 954018000:3 972766800:2 985467600:3 1004216400:2 1017522000:3 1035666000:2 1048971600:3 1067115600:2 1080421200:3 1099170000:2 2147483647:2|<+05>-5"
  , "Asia/Ashgabat Asia/Ashkhabad|0|14012 14400 21600 18000|-1441166012:1 -1247544000:3 354913200:2 370720800:3 386449200:2 402256800:3 417985200:2 433792800:3 449607600:2 465339600:3 481064400:2 496789200:3 512514000:2 528238800:3 543963600:2 559688400:3 575413200:2 591138000:3 606862800:2 622587600:3 638312400:2 654642000:3 670366800:3 686095200:1 695772000:3 2147483647:3|<+05>-5"
  , "Asia/Atyrau|0|12464 10800 18000 21600 14400|-1441164464:1 -1247540400:2 370724400:3 386445600:3 402256800:2 417985200:3 433792800:2 449607600:3 465339600:2 481064400:3 496789200:2 512514000:3 528238800:2 543963600:3 559688400:2 575413200:3 591138000:2 606862800:3 622587600:2 638312400:3 654642000:2 670366800:2 686095200:4 695772000:2 701816400:3 717541200:2 733266000:3 748990800:2 764715600:3 780440400:2 796165200:3 811890000:2 828219600:3 846363600:2 859669200:3 877813200:2 891118800:3 909262800:2 922568400:2 941320800:4 954021600:2 972770400:4 985471200:2 1004220000:4 1017525600:2 1035669600:4 1048975200:2 1067119200:4 1080424800:2 1099173600:2 2147483647:2|<+05>-5"
  , "Asia/Baghdad|0|10660 10656 10800 14400|-2524532260:1 -1641005856:2 389048400:3 402264000:2 417906000:3 433800000:2 449614800:3 465422400:2 481150800:3 496792800:2 512517600:3 528242400:2 543967200:3 559692000:2 575416800:3 591141600:2 606866400:3 622591200:2 638316000:3 654645600:2 670464000:3 686275200:2 702086400:3 717897600:2 733622400:3 749433600:2 765158400:3 780969600:2 796694400:3 812505600:2 828316800:3 844128000:2 859852800:3 875664000:2 891388800:3 907200000:2 922924800:3 938736000:2 954547200:3 970358400:2 986083200:3 1001894400:2 1017619200:3 1033430400:2 1049155200:3 1064966400:2 1080777600:3 1096588800:2 1112313600:3 1128124800:2 1143849600:3 1159660800:2 1175385600:3 1191196800:2 2147483647:2|<+03>-3"
  , "Asia/Bahrain|0|12140 12600 14400 10800|-897880940:1 -820553400:2 76190400:3 2147483647:3|<+03>-3"
  , "Asia/Baku|0|11964 10800 18000 14400|-1441163964:1 -405140400:3 354916800:2 370724400:3 386452800:2 402260400:3 417988800:2 433796400:3 449611200:2 465343200:3 481068000:2 496792800:3 512517600:2 528242400:3 543967200:2 559692000:3 575416800:2 591141600:3 606866400:2 622591200:3 638316000:2 654645600:3 670370400:3 686098800:1 701823600:3 717548400:3 828234000:2 846378000:3 859680000:2 877824000:3 891129600:2 909273600:3 922579200:2 941328000:3 954028800:2 972777600:3 985478400:2 1004227200:3 1017532800:2 1035676800:3 1048982400:2 1067126400:3 1080432000:2 1099180800:3 1111881600:2 1130630400:3 1143331200:2 1162080000:3 1174780800:2 1193529600:3 1206835200:2 1224979200:3 1238284800:2 1256428800:3 1269734400:2 1288483200:3 1301184000:2 1319932800:3 1332633600:2 1351382400:3 1364688000:2 1382832000:3 1396137600:2 1414281600:3 1427587200:2 1445731200:3 2147483647:3|<+04>-4"
  , "Asia/Bangkok|0|24124 25200|-2840164924:0 -1570084924:1 2147483647:1|<+07>-7"
  , "Asia/Barnaul|0|20100 21600 28800 25200|-1579844100:1 -1247551200:3 354906000:2 370713600:3 386442000:2 402249600:3 417978000:2 433785600:3 449600400:2 465332400:3 481057200:2 496782000:3 512506800:2 528231600:3 543956400:2 559681200:3 575406000:2 591130800:3 606855600:2 622580400:3 638305200:2 654634800:3 670359600:3 686088000:1 695764800:3 701809200:2 717534000:3 733258800:2 748983600:3 764708400:2 780433200:3 796158000:2 801590400:3 811886400:1 828216000:3 846360000:1 859665600:3 877809600:1 891115200:3 909259200:1 922564800:3 941313600:1 954014400:3 972763200:1 985464000:3 1004212800:1 1017518400:3 1035662400:1 1048968000:3 1067112000:1 1080417600:3 1099166400:1 1111867200:3 1130616000:1 1143316800:3 1162065600:1 1174766400:3 1193515200:1 1206820800:3 1224964800:1 1238270400:3 1256414400:1 1269720000:3 1288468800:1 1301169600:3 1414263600:1 1459022400:3 2147483647:3|<+07>-7"
  , "Asia/Beirut|0|8520 10800 7200|-2840149320:2 -1570413600:1 -1552186800:2 -1538359200:1 -1522551600:2 -1507514400:1 -1490583600:2 -1473645600:1 -1460948400:2 -399866400:1 -386650800:2 -368330400:1 -355114800:2 -336794400:1 -323578800:2 -305172000:1 -291956400:2 -273636000:1 -260420400:2 78012000:1 86734800:2 105055200:1 118270800:2 136591200:1 149806800:2 168127200:1 181342800:2 199749600:1 212965200:2 231285600:1 244501200:2 262735200:1 275950800:2 452210400:1 466722000:2 483746400:1 498258000:2 515282400:1 529794000:2 546818400:1 561330000:2 581119200:1 592952400:2 610754400:1 624488400:2 641512800:1 656024400:2 673048800:1 687560400:2 704671200:1 718146000:2 733269600:1 748990800:2 764719200:1 780440400:2 796168800:1 811890000:2 828223200:1 843944400:2 859672800:1 875394000:2 891122400:1 906843600:2 922572000:1 941317200:2 954021600:1 972766800:2 985471200:1 1004216400:2 1017525600:1 1035666000:2 1048975200:1 1067115600:2 1080424800:1 1099170000:2 1111874400:1 1130619600:2 1143324000:1 1162069200:2 1174773600:1 1193518800:2 1206828000:1 1224968400:2 1238277600:1 1256418000:2 1269727200:1 1288472400:2 1301176800:1 1319922000:2 1332626400:1 1351371600:2 1364680800:1 1382821200:2 1396130400:1 1414270800:2 1427580000:1 1445720400:2 1459029600:1 1477774800:2 1490479200:1 1509224400:2 1521928800:1 1540674000:2 1553983200:1 1572123600:2 1585432800:1 1603573200:2 1616882400:1 1635627600:2 1648332000:1 1667077200:2 1679781600:1 1698526800:2 1711836000:1 1729976400:2 1743285600:1 1761426000:2 1774735200:1 1792875600:2 1806184800:1 1824930000:2 1837634400:1 1856379600:2 1869084000:1 1887829200:2 1901138400:1 1919278800:2 1932588000:1 1950728400:2 1964037600:1 1982782800:2 1995487200:1 2014232400:2 2026936800:1 2045682000:2 2058386400:1 2077131600:2 2090440800:1 2108581200:2 2121890400:1 2140030800:2|EET-2EEST,M3.5.0/0,M10.5.0/0"
  , "Asia/Bishkek|0|17904 18000 25200 21600|-1441169904:1 -1247547600:3 354909600:2 370717200:3 386445600:2 402253200:3 417981600:2 433789200:3 449604000:2 465336000:3 481060800:2 496785600:3 512510400:2 528235200:3 543960000:2 559684800:3 575409600:2 591134400:3 606859200:2 622584000:3 638308800:2 654638400:3 670363200:3 683582400:1 703018800:3 717530400:1 734468400:3 748980000:1 765918000:3 780429600:1 797367600:3 811879200:1 828817200:3 843933600:1 859671000:3 877811400:1 891120600:3 909261000:1 922570200:3 941315400:1 954019800:3 972765000:1 985469400:3 1004214600:1 1017523800:3 1035664200:1 1048973400:3 1067113800:1 1080423000:3 1099168200:1 1111872600:3 1123783200:3 2147483647:3|<+06>-6"
  , "Asia/Brunei|0|27580 27000 28800|-1383464380:1 -1167636600:2 2147483647:2|<+08>-8"
  , "Asia/Chita|0|27232 28800 36000 32400|-1579419232:1 -1247558400:3 354898800:2 370706400:3 386434800:2 402242400:3 417970800:2 433778400:3 449593200:2 465325200:3 481050000:2 496774800:3 512499600:2 528224400:3 543949200:2 559674000:3 575398800:2 591123600:3 606848400:2 622573200:3 638298000:2 654627600:3 670352400:3 686080800:1 695757600:3 701802000:2 717526800:3 733251600:2 748976400:3 764701200:2 780426000:3 796150800:2 811875600:3 828205200:2 846349200:3 859654800:2 877798800:3 891104400:2 909248400:3 922554000:2 941302800:3 954003600:2 972752400:3 985453200:2 1004202000:3 1017507600:2 1035651600:3 1048957200:2 1067101200:3 1080406800:2 1099155600:3 1111856400:2 1130605200:3 1143306000:2 1162054800:3 1174755600:2 1193504400:3 1206810000:2 1224954000:3 1238259600:2 1256403600:3 1269709200:2 1288458000:3 1301158800:2 1414252800:1 1459015200:3 2147483647:3|<+09>-9"
  , "Asia/Colombo|0|19164 19172 19800 21600 23400|-2840159964:1 -2019705572:2 -883287000:3 -862639200:4 -764051400:2 832962600:4 846266400:3 1145039400:2 2147483647:2|<+0530>-5:30"
  , "Asia/Damascus|0|8712 10800 7200|-1577931912:2 -1568592000:1 -1554080400:2 -1537142400:1 -1522630800:2 -1505692800:1 -1491181200:2 -1474243200:1 -1459126800:2 -242265600:1 -228877200:2 -210556800:1 -197427600:2 -178934400:1 -165718800:2 -147398400:1 -134269200:2 -116467200:1 -102646800:2 -84326400:1 -71110800:2 -52704000:1 -39488400:2 -21168000:1 -7952400:2 10368000:1 23583600:2 41904000:1 55119600:2 73526400:1 86742000:2 105062400:1 118278000:2 136598400:1 149814000:2 168134400:1 181350000:2 199756800:1 212972400:2 231292800:1 241916400:2 262828800:1 273452400:2 418694400:1 433810800:2 450316800:1 465433200:2 508896000:1 529196400:2 541555200:1 562633200:2 574387200:1 594255600:2 607305600:1 623199600:2 638928000:1 654649200:2 670456800:1 686264400:2 702684000:1 717886800:2 733096800:1 748904400:2 765151200:1 780958800:2 796687200:1 812494800:2 828309600:1 844117200:2 859759200:1 875653200:2 891208800:1 907189200:2 922917600:1 938725200:2 954540000:1 970347600:2 986076000:1 1001883600:2 1017612000:1 1033419600:2 1049148000:1 1064955600:2 1080770400:1 1096578000:2 1112306400:1 1128114000:2 1143842400:1 1158872400:2 1175205600:1 1193950800:2 1207260000:1 1225486800:2 1238104800:1 1256850000:2 1270159200:1 1288299600:2 1301608800:1 1319749200:2 1333058400:1 1351198800:2 1364508000:1 1382648400:2 1395957600:1 1414702800:2 1427407200:1 1446152400:2 1458856800:1 1477602000:2 1490911200:1 1509051600:2 1522360800:1 1540501200:2 1553810400:1 1571950800:2 1585260000:1 1604005200:2 1616709600:1 1635454800:2 1648159200:1 1666904400:1 2147483647:1|<+03>-3"
  , "Asia/Dhaka Asia/Dacca|0|21700 21200 23400 19800 21600 25200|-2524543300:1 -891582800:2 -872058600:3 -862637400:2 -576138600:4 1245430800:5 1262278800:4 2147483647:4|<+06>-6"
  , "Asia/Dili|0|30140 28800 32400|-1830412800:1 -879152400:2 199897200:1 969120000:2 2147483647:2|<+09>-9"
  , "Asia/Dubai|0|13272 14400|-1577936472:1 2147483647:1|<+04>-4"
  , "Asia/Dushanbe|0|16512 18000 25200 21600|-1441168512:1 -1247547600:3 354909600:2 370717200:3 386445600:2 402253200:3 417981600:2 433789200:3 449604000:2 465336000:3 481060800:2 496785600:3 512510400:2 528235200:3 543960000:2 559684800:3 575409600:2 591134400:3 606859200:2 622584000:3 638308800:2 654638400:3 670363200:3 684363600:1 2147483647:1|<+05>-5"
  , "Asia/Famagusta|0|8148 10800 7200|-1518920148:2 166572000:1 182293200:2 200959200:1 213829200:2 228866400:1 243982800:2 260316000:1 276123600:2 291765600:1 307486800:2 323820000:1 338936400:2 354664800:1 370386000:2 386114400:1 401835600:2 417564000:1 433285200:2 449013600:1 465339600:2 481068000:1 496789200:2 512517600:1 528238800:2 543967200:1 559688400:2 575416800:1 591138000:2 606866400:1 622587600:2 638316000:1 654642000:2 670370400:1 686091600:2 701820000:1 717541200:2 733269600:1 748990800:2 764719200:1 780440400:2 796168800:1 811890000:2 828223200:1 843944400:2 859672800:1 875394000:2 891122400:1 909277200:2 922582800:1 941331600:2 954032400:1 972781200:2 985482000:1 1004230800:2 1017536400:1 1035680400:2 1048986000:1 1067130000:2 1080435600:1 1099184400:2 1111885200:1 1130634000:2 1143334800:1 1162083600:2 1174784400:1 1193533200:2 1206838800:1 1224982800:2 1238288400:1 1256432400:2 1269738000:1 1288486800:2 1301187600:1 1319936400:2 1332637200:1 1351386000:2 1364691600:1 1382835600:2 1396141200:1 1414285200:2 1427590800:1 1445734800:2 1459040400:1 1473282000:1 1509238800:2 1521939600:1 1540688400:2 1553994000:1 1572138000:2 1585443600:1 1603587600:2 1616893200:1 1635642000:2 1648342800:1 1667091600:2 1679792400:1 1698541200:2 1711846800:1 1729990800:2 1743296400:1 1761440400:2 1774746000:1 1792890000:2 1806195600:1 1824944400:2 1837645200:1 1856394000:2 1869094800:1 1887843600:2 1901149200:1 1919293200:2 1932598800:1 1950742800:2 1964048400:1 1982797200:2 1995498000:1 2014246800:2 2026947600:1 2045696400:2 2058397200:1 2077146000:2 2090451600:1 2108595600:2 2121901200:1 2140045200:2|EET-2EEST,M3.5.0/3,M10.5.0/4"
  , "Asia/Gaza|0|8272 10800 7200|-2185409872:2 -933638400:1 -923097600:2 -919036800:1 -857347200:2 -844300800:1 -825811200:2 -812678400:1 -794188800:2 -779846400:1 -762652800:2 -748310400:1 -731116800:2 -399088800:1 -386650800:2 -368330400:1 -355114800:2 -336790800:1 -323654400:2 -305168400:1 -292032000:2 -273632400:1 -260496000:2 -242096400:1 -228960000:2 -210560400:1 -197424000:2 -178938000:1 -165801600:2 -147402000:1 -134265600:2 -115866000:1 -102643200:2 -84330000:1 -81313200:2 142380000:1 150843600:2 167176800:1 178664400:2 334101600:1 337730400:2 452642400:1 462319200:2 482277600:1 494370000:2 516751200:1 526424400:2 545436000:1 558478800:2 576626400:1 589323600:2 609890400:1 620773200:2 638316000:1 651618000:2 669765600:1 683672400:2 701820000:1 715726800:2 733701600:1 747176400:2 765151200:1 778021200:2 796600800:1 810075600:2 820447200:2 828655200:1 843170400:2 860104800:1 874620000:2 891554400:1 906069600:2 924213600:1 939934800:2 956268000:1 971989200:2 987717600:1 1003438800:2 1019167200:1 1034888400:2 1050616800:1 1066338000:2 1082066400:1 1096581600:2 1113516000:1 1128380400:2 1143842400:1 1158872400:2 1175378400:1 1189638000:2 1206655200:1 1219957200:2 1238104800:1 1252015200:2 1269640860:1 1281474000:2 1301608860:1 1312146000:2 1333058400:1 1348178400:2 1364508000:1 1380229200:2 1395957600:1 1414098000:2 1427493600:1 1445551200:2 1458946800:1 1477692000:2 1490396400:1 1509141600:2 1521846000:1 1540591200:2 1553810400:1 1572037200:2 1585346400:1 1603490400:2 1616796000:1 1635458400:2 1648332000:1 1666998000:2 1682726400:1 1698447600:2 1713571200:1 1729897200:2 1744416000:1 1761346800:2 1774656000:1 1792796400:2 1806105600:1 1824850800:2 1837555200:1 1856300400:2 1869004800:1 1887750000:2 1901059200:1 1919199600:2 1932508800:1 1950649200:2 1963958400:1 1982703600:2 1995408000:1 2014153200:2 2026857600:1 2045602800:2 2058307200:1 2077052400:2 2090361600:1 2107897200:2 2121811200:1 2138742000:2 2153260800:1 2168982000:2 2184710400:1 2199826800:2 2216160000:1 2230066800:2 2234304000:1 2234905200:2 2248214400:1 2260911600:2 2264544000:1 2266354800:2 2279664000:1 2291756400:2 2295388800:1 2297804400:2 2311113600:1 2321996400:2 2326233600:1 2329254000:2 2342563200:1 2352841200:2 2356473600:1 2361308400:2 2374012800:1 2383686000:2 2387318400:1 2392758000:2 2405462400:1 2413926000:2 2418163200:1 2424207600:2 2437516800:1 2444770800:2 2448403200:1 2455657200:2 2468966400:1 2475010800:2 2479248000:1 2487106800:2 2500416000:1 2505855600:2 2509488000:1 2519161200:2 2531865600:1 2536700400:2 2540332800:1 2550610800:2 2563315200:1 2566940400:2 2571177600:1 2582060400:2 2595369600:1 2597785200:2 2601417600:1 2613510000:2 2626819200:1 2628025200:2 2632262400:1 2644959600:2 2658268800:1 2658870000:2 2663107200:1 2676409200:2 2693347200:1 2708463600:2 2724192000:1 2739913200:2 2754432000:1 2771362800:2 2785276800:1 2802812400:2 2816121600:1 2834262000:2 2847571200:1 2866316400:2 2879020800:1 2897766000:2 2910470400:1 2929215600:2 2941920000:1 2960665200:2 2973974400:1 2992114800:2 3005424000:1 3023564400:2 3036873600:1 3055618800:2 3068323200:1 3087068400:2 3099772800:1 3117913200:2 3131827200:1 3148758000:2 3163276800:1 3179602800:2 3194726400:1 3209842800:2 3226176000:1 3240687600:2 3244320000:1 3244921200:2 3257625600:1 3271532400:2 3275164800:1 3276370800:2 3289075200:1 3301772400:2 3306009600:1 3307820400:2 3321129600:1 3332617200:2 3336249600:1 3339270000:2 3352579200:1 3362857200:2 3367094400:1 3370719600:2 3384028800:1 3393702000:2 3397939200:1 3402774000:2 3415478400:1 3424546800:2 3428179200:1 3434223600:2 3446928000:1 3454786800:2 3459024000:1 3465673200:2 3478982400:1 3485631600:2 3489264000:1 3497122800:2 3510432000:1 3516476400:2 3520108800:1 3528572400:2 3541881600:1 3546716400:2 3550953600:1 3560022000:2 3573331200:1 3577561200:2 3581193600:1 3592076400:2 3604780800:1 3607801200:2 3612038400:1 3623526000:2 3636230400:1 3638646000:2 3642883200:1 3654975600:2 3668284800:1 3669490800:2 3673123200:1 3686425200:2|EET-2EEST,M3.4.4/50,M10.4.4/50"
  , "Asia/Hebron|0|8423 10800 7200|-2185410023:2 -933638400:1 -923097600:2 -919036800:1 -857347200:2 -844300800:1 -825811200:2 -812678400:1 -794188800:2 -779846400:1 -762652800:2 -748310400:1 -731116800:2 -399088800:1 -386650800:2 -368330400:1 -355114800:2 -336790800:1 -323654400:2 -305168400:1 -292032000:2 -273632400:1 -260496000:2 -242096400:1 -228960000:2 -210560400:1 -197424000:2 -178938000:1 -165801600:2 -147402000:1 -134265600:2 -115866000:1 -102643200:2 -84330000:1 -81313200:2 142380000:1 150843600:2 167176800:1 178664400:2 334101600:1 337730400:2 452642400:1 462319200:2 482277600:1 494370000:2 516751200:1 526424400:2 545436000:1 558478800:2 576626400:1 589323600:2 609890400:1 620773200:2 638316000:1 651618000:2 669765600:1 683672400:2 701820000:1 715726800:2 733701600:1 747176400:2 765151200:1 778021200:2 796600800:1 810075600:2 820447200:2 828655200:1 843170400:2 860104800:1 874620000:2 891554400:1 906069600:2 924213600:1 939934800:2 956268000:1 971989200:2 987717600:1 1003438800:2 1019167200:1 1034888400:2 1050616800:1 1066338000:2 1082066400:1 1096581600:2 1113516000:1 1128380400:2 1143842400:1 1158872400:2 1175378400:1 1189638000:2 1206655200:1 1220216400:2 1238104800:1 1252015200:2 1269554400:1 1281474000:2 1301608860:1 1312146000:2 1314655200:1 1317330000:2 1333058400:1 1348178400:2 1364508000:1 1380229200:2 1395957600:1 1414098000:2 1427493600:1 1445551200:2 1458946800:1 1477692000:2 1490396400:1 1509141600:2 1521846000:1 1540591200:2 1553810400:1 1572037200:2 1585346400:1 1603490400:2 1616796000:1 1635458400:2 1648332000:1 1666998000:2 1682726400:1 1698447600:2 1713571200:1 1729897200:2 1744416000:1 1761346800:2 1774656000:1 1792796400:2 1806105600:1 1824850800:2 1837555200:1 1856300400:2 1869004800:1 1887750000:2 1901059200:1 1919199600:2 1932508800:1 1950649200:2 1963958400:1 1982703600:2 1995408000:1 2014153200:2 2026857600:1 2045602800:2 2058307200:1 2077052400:2 2090361600:1 2107897200:2 2121811200:1 2138742000:2 2153260800:1 2168982000:2 2184710400:1 2199826800:2 2216160000:1 2230066800:2 2234304000:1 2234905200:2 2248214400:1 2260911600:2 2264544000:1 2266354800:2 2279664000:1 2291756400:2 2295388800:1 2297804400:2 2311113600:1 2321996400:2 2326233600:1 2329254000:2 2342563200:1 2352841200:2 2356473600:1 2361308400:2 2374012800:1 2383686000:2 2387318400:1 2392758000:2 2405462400:1 2413926000:2 2418163200:1 2424207600:2 2437516800:1 2444770800:2 2448403200:1 2455657200:2 2468966400:1 2475010800:2 2479248000:1 2487106800:2 2500416000:1 2505855600:2 2509488000:1 2519161200:2 2531865600:1 2536700400:2 2540332800:1 2550610800:2 2563315200:1 2566940400:2 2571177600:1 2582060400:2 2595369600:1 2597785200:2 2601417600:1 2613510000:2 2626819200:1 2628025200:2 2632262400:1 2644959600:2 2658268800:1 2658870000:2 2663107200:1 2676409200:2 2693347200:1 2708463600:2 2724192000:1 2739913200:2 2754432000:1 2771362800:2 2785276800:1 2802812400:2 2816121600:1 2834262000:2 2847571200:1 2866316400:2 2879020800:1 2897766000:2 2910470400:1 2929215600:2 2941920000:1 2960665200:2 2973974400:1 2992114800:2 3005424000:1 3023564400:2 3036873600:1 3055618800:2 3068323200:1 3087068400:2 3099772800:1 3117913200:2 3131827200:1 3148758000:2 3163276800:1 3179602800:2 3194726400:1 3209842800:2 3226176000:1 3240687600:2 3244320000:1 3244921200:2 3257625600:1 3271532400:2 3275164800:1 3276370800:2 3289075200:1 3301772400:2 3306009600:1 3307820400:2 3321129600:1 3332617200:2 3336249600:1 3339270000:2 3352579200:1 3362857200:2 3367094400:1 3370719600:2 3384028800:1 3393702000:2 3397939200:1 3402774000:2 3415478400:1 3424546800:2 3428179200:1 3434223600:2 3446928000:1 3454786800:2 3459024000:1 3465673200:2 3478982400:1 3485631600:2 3489264000:1 3497122800:2 3510432000:1 3516476400:2 3520108800:1 3528572400:2 3541881600:1 3546716400:2 3550953600:1 3560022000:2 3573331200:1 3577561200:2 3581193600:1 3592076400:2 3604780800:1 3607801200:2 3612038400:1 3623526000:2 3636230400:1 3638646000:2 3642883200:1 3654975600:2 3668284800:1 3669490800:2 3673123200:1 3686425200:2|EET-2EEST,M3.4.4/50,M10.4.4/50"
  , "Asia/Ho_Chi_Minh Asia/Saigon|0|25590 25200 28800 32400|-2004073590:0 -1851577590:1 -852105600:2 -782643600:3 -767869200:1 -718095600:2 -457772400:1 -315648000:2 171820800:1 2147483647:1|<+07>-7"
  , "Asia/Hong_Kong Hongkong|0|27402 28800 32400 30600|-2056690800:1 -900910800:2 -891579600:3 -884248200:2 -761209200:1 -747907200:2 -728541000:1 -717049800:2 -697091400:1 -683785800:2 -668061000:1 -654755400:2 -636611400:1 -623305800:2 -605161800:1 -591856200:2 -573712200:1 -559801800:2 -541657800:1 -528352200:2 -510211800:1 -498112200:2 -478762200:1 -466662600:2 -446707800:1 -435213000:2 -415258200:1 -403158600:2 -383808600:1 -371709000:2 -352359000:1 -340259400:2 -320909400:1 -308809800:2 -288855000:1 -277360200:2 -257405400:1 -245910600:2 -225955800:1 -213856200:2 -194506200:1 -182406600:2 -163056600:1 -148537800:2 -132816600:1 -117088200:2 -101367000:1 -85638600:2 -69312600:1 -53584200:2 -37863000:1 -22134600:2 -6413400:1 9315000:2 25036200:1 40764600:2 56485800:1 72214200:2 88540200:1 104268600:2 119989800:1 126041400:2 151439400:1 167167800:2 182889000:1 198617400:2 214338600:1 295385400:2 309292200:1|HKT-8"
  , "Asia/Hovd|0|21996 21600 28800 25200|-2032927596:1 252439200:3 417978000:2 433785600:3 449600400:2 465321600:3 481050000:2 496771200:3 512499600:2 528220800:3 543949200:2 559670400:3 575398800:2 591120000:3 606848400:2 622569600:3 638298000:2 654624000:3 670352400:2 686073600:3 701802000:2 717523200:3 733251600:2 748972800:3 764701200:2 780422400:3 796150800:2 811872000:3 828205200:2 843926400:3 859654800:2 875376000:3 891104400:2 906825600:3 988398000:2 1001700000:3 1017428400:2 1033149600:3 1048878000:2 1064599200:3 1080327600:2 1096048800:3 1111777200:2 1127498400:3 1143226800:2 1159552800:3 1427482800:2 1443196800:3 1458932400:2 1474646400:3 2147483647:3|<+07>-7"
  , "Asia/Irkutsk|0|25025 25200 32400 28800|-2840165825:0 -1575874625:1 -1247554800:3 354902400:2 370710000:3 386438400:2 402246000:3 417974400:2 433782000:3 449596800:2 465328800:3 481053600:2 496778400:3 512503200:2 528228000:3 543952800:2 559677600:3 575402400:2 591127200:3 606852000:2 622576800:3 638301600:2 654631200:3 670356000:3 686084400:1 695761200:3 701805600:2 717530400:3 733255200:2 748980000:3 764704800:2 780429600:3 796154400:2 811879200:3 828208800:2 846352800:3 859658400:2 877802400:3 891108000:2 909252000:3 922557600:2 941306400:3 954007200:2 972756000:3 985456800:2 1004205600:3 1017511200:2 1035655200:3 1048960800:2 1067104800:3 1080410400:2 1099159200:3 1111860000:2 1130608800:3 1143309600:2 1162058400:3 1174759200:2 1193508000:3 1206813600:2 1224957600:3 1238263200:2 1256407200:3 1269712800:2 1288461600:3 1301162400:2 1414256400:3 2147483647:3|<+08>-8"
  , "Asia/Jakarta|0|25632 26400 27000 32400 28800 25200|-3231299232:0 -1451719200:1 -1172906400:2 -876641400:3 -766054800:2 -683883000:4 -620812800:2 -189415800:5|WIB-7"
  , "Asia/Jayapura|0|33768 32400 34200|-1172913768:1 -799491600:2 -189423000:1|WIT-9"
  , "Asia/Jerusalem Asia/Tel_Aviv Israel|0|8454 8440 10800 7200 14400|-2840149254:1 -1641003640:3 -933638400:2 -923097600:3 -919036800:2 -857347200:3 -844300800:2 -825811200:3 -812678400:2 -794188800:3 -779846400:2 -762652800:3 -748310400:2 -731116800:3 -681955200:4 -673228800:2 -667958400:3 -652320000:2 -636422400:3 -622080000:2 -608947200:3 -591840000:2 -572486400:3 -558576000:2 -542851200:3 -527731200:2 -514425600:3 -490838400:2 -482976000:3 -459388800:2 -451526400:3 -428544000:2 -418262400:3 -400118400:2 -387417600:3 142380000:2 150843600:3 167176800:2 178664400:3 334101600:2 337730400:3 452642400:2 462319200:3 482277600:2 494370000:3 516751200:2 526424400:3 545436000:2 558478800:3 576626400:2 589323600:3 609890400:2 620773200:3 638316000:2 651618000:3 669765600:2 683672400:3 701820000:2 715726800:3 733701600:2 747176400:3 765151200:2 778021200:3 796600800:2 810075600:3 826840800:2 842821200:3 858895200:2 874184400:3 890344800:2 905029200:3 923011200:2 936313200:3 955670400:2 970783200:3 986770800:2 1001282400:3 1017356400:2 1033941600:3 1048806000:2 1065132000:3 1081292400:2 1095804000:3 1112313600:2 1128812400:3 1143763200:2 1159657200:3 1175212800:2 1189897200:3 1206662400:2 1223161200:3 1238112000:2 1254006000:3 1269561600:2 1284246000:3 1301616000:2 1317510000:3 1333065600:2 1348354800:3 1364515200:2 1382828400:3 1395964800:2 1414278000:3 1427414400:2 1445727600:3 1458864000:2 1477782000:3 1490313600:2 1509231600:3 1521763200:2 1540681200:3 1553817600:2 1572130800:3 1585267200:2 1603580400:3 1616716800:2 1635634800:3 1648166400:2 1667084400:3 1679616000:2 1698534000:3 1711670400:2 1729983600:3 1743120000:2 1761433200:3 1774569600:2 1792882800:3 1806019200:2 1824937200:3 1837468800:2 1856386800:3 1868918400:2 1887836400:3 1900972800:2 1919286000:3 1932422400:2 1950735600:3 1963872000:2 1982790000:3 1995321600:2 2014239600:3 2026771200:2 2045689200:3 2058220800:2 2077138800:3 2090275200:2 2108588400:3 2121724800:2 2140038000:3|IST-2IDT,M3.4.4/26,M10.5.0"
  , "Asia/Kabul|0|16608 14400 16200|-2524538208:1 -788932800:2 2147483647:2|<+0430>-4:30"
  , "Asia/Kamchatka|0|38076 39600 46800 43200|-1487759676:1 -1247569200:3 354888000:2 370695600:3 386424000:2 402231600:3 417960000:2 433767600:3 449582400:2 465314400:3 481039200:2 496764000:3 512488800:2 528213600:3 543938400:2 559663200:3 575388000:2 591112800:3 606837600:2 622562400:3 638287200:2 654616800:3 670341600:3 686070000:1 695746800:3 701791200:2 717516000:3 733240800:2 748965600:3 764690400:2 780415200:3 796140000:2 811864800:3 828194400:2 846338400:3 859644000:2 877788000:3 891093600:2 909237600:3 922543200:2 941292000:3 953992800:2 972741600:3 985442400:2 1004191200:3 1017496800:2 1035640800:3 1048946400:2 1067090400:3 1080396000:2 1099144800:3 1111845600:2 1130594400:3 1143295200:2 1162044000:3 1174744800:2 1193493600:3 1206799200:2 1224943200:3 1238248800:2 1256392800:3 1269698400:3 1288450800:1 1301151600:3 2147483647:3|<+12>-12"
  , "Asia/Karachi|0|16092 19800 23400 18000 21600|-1988166492:1 -862637400:2 -764145000:1 -576135000:3 38775600:3 1018119600:4 1033840800:3 1212260400:4 1225476000:3 1239735600:4 1257012000:3|PKT-5"
  , "Asia/Kathmandu Asia/Katmandu|0|20476 19800 20700|-1577943676:1 504901800:2 2147483647:2|<+0545>-5:45"
  , "Asia/Khandyga|0|32533 28800 36000 32400 39600|-1579424533:1 -1247558400:3 354898800:2 370706400:3 386434800:2 402242400:3 417970800:2 433778400:3 449593200:2 465325200:3 481050000:2 496774800:3 512499600:2 528224400:3 543949200:2 559674000:3 575398800:2 591123600:3 606848400:2 622573200:3 638298000:2 654627600:3 670352400:3 686080800:1 695757600:3 701802000:2 717526800:3 733251600:2 748976400:3 764701200:2 780426000:3 796150800:2 811875600:3 828205200:2 846349200:3 859654800:2 877798800:3 891104400:2 909248400:3 922554000:2 941302800:3 954003600:2 972752400:3 985453200:2 1004202000:3 1017507600:2 1035651600:3 1048957200:2 1067101200:3 1072882800:2 1080403200:4 1099152000:2 1111852800:4 1130601600:2 1143302400:4 1162051200:2 1174752000:4 1193500800:2 1206806400:4 1224950400:2 1238256000:4 1256400000:2 1269705600:4 1288454400:2 1301155200:4 1315832400:2 1414252800:3 2147483647:3|<+09>-9"
  , "Asia/Kolkata Asia/Calcutta|0|21208 21200 19270 19800 23400|-3645237208:1 -3155694800:2 -2019705670:3 -891581400:4 -872058600:3 -862637400:4 -764145000:3|IST-5:30"
  , "Asia/Krasnoyarsk|0|22286 21600 28800 25200|-1577513486:1 -1247551200:3 354906000:2 370713600:3 386442000:2 402249600:3 417978000:2 433785600:3 449600400:2 465332400:3 481057200:2 496782000:3 512506800:2 528231600:3 543956400:2 559681200:3 575406000:2 591130800:3 606855600:2 622580400:3 638305200:2 654634800:3 670359600:3 686088000:1 695764800:3 701809200:2 717534000:3 733258800:2 748983600:3 764708400:2 780433200:3 796158000:2 811882800:3 828212400:2 846356400:3 859662000:2 877806000:3 891111600:2 909255600:3 922561200:2 941310000:3 954010800:2 972759600:3 985460400:2 1004209200:3 1017514800:2 1035658800:3 1048964400:2 1067108400:3 1080414000:2 1099162800:3 1111863600:2 1130612400:3 1143313200:2 1162062000:3 1174762800:2 1193511600:3 1206817200:2 1224961200:3 1238266800:2 1256410800:3 1269716400:2 1288465200:3 1301166000:2 1414260000:3 2147483647:3|<+07>-7"
  , "Asia/Kuala_Lumpur|0|24406 24925 25200 26400 27000 32400 28800|-2177477206:1 -2038200925:2 -1167634800:3 -1073028000:3 -894180000:4 -879665400:5 -767005200:4 378662400:6 2147483647:6|<+08>-8"
  , "Asia/Kuching|0|26480 27000 30000 28800 32400|-1383463280:1 -1167636600:3 -1082448000:2 -1074586800:3 -1050825600:2 -1042964400:3 -1019289600:2 -1011428400:3 -987753600:2 -979892400:3 -956217600:2 -948356400:3 -924595200:2 -916734000:3 -893059200:2 -885198000:3 -879667200:4 -767005200:3 2147483647:3|<+08>-8"
  , "Asia/Kuwait|0|11516 10800|-631163516:1 2147483647:1|<+03>-3"
  , "Asia/Macau Asia/Macao|0|27250 28800 36000 32400|-2056692850:1 -884509200:3 -873280800:2 -855918000:3 -841744800:2 -828529200:3 -765363600:1 -747046800:3 -733827600:1 -716461200:3 -697021200:1 -683715600:3 -667990800:1 -654771600:3 -636627600:1 -623322000:3 -605178000:1 -591872400:3 -573642000:1 -559818000:3 -541674000:1 -528368400:3 -510224400:1 -498128400:3 -478774800:1 -466678800:3 -446720400:1 -435229200:3 -415258200:1 -403158600:3 -383808600:1 -371709000:3 -352359000:1 -340259400:3 -320909400:1 -308809800:3 -288855000:1 -277360200:3 -257405400:1 -245910600:3 -225955800:1 -213856200:3 -194506200:1 -182406600:3 -163056600:1 -148537800:3 -132820200:1 -117088200:3 -101370600:1 -85638600:3 -69312600:1 -53584200:3 -37863000:1 -22134600:3 -6413400:1 9315000:3 25036200:1 40764600:3 56485800:1 72214200:3 88540200:1 104268600:3 119989800:1 126041400:3 151439400:1 167167800:3 182889000:1 198617400:3 214338600:1 295385400:3 309292200:1|CST-8"
  , "Asia/Magadan|0|36192 36000 43200 39600|-1441188192:1 -1247565600:3 354891600:2 370699200:3 386427600:2 402235200:3 417963600:2 433771200:3 449586000:2 465318000:3 481042800:2 496767600:3 512492400:2 528217200:3 543942000:2 559666800:3 575391600:2 591116400:3 606841200:2 622566000:3 638290800:2 654620400:3 670345200:3 686073600:1 695750400:3 701794800:2 717519600:3 733244400:2 748969200:3 764694000:2 780418800:3 796143600:2 811868400:3 828198000:2 846342000:3 859647600:2 877791600:3 891097200:2 909241200:3 922546800:2 941295600:3 953996400:2 972745200:3 985446000:2 1004194800:3 1017500400:2 1035644400:3 1048950000:2 1067094000:3 1080399600:2 1099148400:3 1111849200:2 1130598000:3 1143298800:2 1162047600:3 1174748400:2 1193497200:3 1206802800:2 1224946800:3 1238252400:2 1256396400:3 1269702000:2 1288450800:3 1301151600:2 1414245600:1 1461427200:3 2147483647:3|<+11>-11"
  , "Asia/Makassar Asia/Ujung_Pandang|0|28656 28800 32400|-1577951856:0 -1172908656:1 -880272000:2 -766054800:1|WITA-8"
  , "Asia/Manila|0|-57368 29032 32400 28800|-3944621032:1 -2219083200:3 -1046678400:2 -1040115600:3 -885024000:2 -880016400:2 -783594000:2 -760093200:3 -496224000:2 -491562000:3 228326400:2 243702000:3 643219200:2 649177200:3|PST-8"
  , "Asia/Muscat|0|14064 14400|-1577937264:1 2147483647:1|<+04>-4"
  , "Asia/Nicosia Europe/Nicosia|0|8008 10800 7200|-1518920008:2 166572000:1 182293200:2 200959200:1 213829200:2 228866400:1 243982800:2 260316000:1 276123600:2 291765600:1 307486800:2 323820000:1 338936400:2 354664800:1 370386000:2 386114400:1 401835600:2 417564000:1 433285200:2 449013600:1 465339600:2 481068000:1 496789200:2 512517600:1 528238800:2 543967200:1 559688400:2 575416800:1 591138000:2 606866400:1 622587600:2 638316000:1 654642000:2 670370400:1 686091600:2 701820000:1 717541200:2 733269600:1 748990800:2 764719200:1 780440400:2 796168800:1 811890000:2 828223200:1 843944400:2 859672800:1 875394000:2 891122400:1 909277200:2 922582800:1 941331600:2 954032400:1 972781200:2 985482000:1 1004230800:2 1017536400:1 1035680400:2 1048986000:1 1067130000:2 1080435600:1 1099184400:2 1111885200:1 1130634000:2 1143334800:1 1162083600:2 1174784400:1 1193533200:2 1206838800:1 1224982800:2 1238288400:1 1256432400:2 1269738000:1 1288486800:2 1301187600:1 1319936400:2 1332637200:1 1351386000:2 1364691600:1 1382835600:2 1396141200:1 1414285200:2 1427590800:1 1445734800:2 1459040400:1 1477789200:2 1490490000:1 1509238800:2 1521939600:1 1540688400:2 1553994000:1 1572138000:2 1585443600:1 1603587600:2 1616893200:1 1635642000:2 1648342800:1 1667091600:2 1679792400:1 1698541200:2 1711846800:1 1729990800:2 1743296400:1 1761440400:2 1774746000:1 1792890000:2 1806195600:1 1824944400:2 1837645200:1 1856394000:2 1869094800:1 1887843600:2 1901149200:1 1919293200:2 1932598800:1 1950742800:2 1964048400:1 1982797200:2 1995498000:1 2014246800:2 2026947600:1 2045696400:2 2058397200:1 2077146000:2 2090451600:1 2108595600:2 2121901200:1 2140045200:2|EET-2EEST,M3.5.0/3,M10.5.0/4"
  , "Asia/Novokuznetsk|0|20928 21600 28800 25200|-1441259328:1 -1247551200:3 354906000:2 370713600:3 386442000:2 402249600:3 417978000:2 433785600:3 449600400:2 465332400:3 481057200:2 496782000:3 512506800:2 528231600:3 543956400:2 559681200:3 575406000:2 591130800:3 606855600:2 622580400:3 638305200:2 654634800:3 670359600:3 686088000:1 695764800:3 701809200:2 717534000:3 733258800:2 748983600:3 764708400:2 780433200:3 796158000:2 811882800:3 828212400:2 846356400:3 859662000:2 877806000:3 891111600:2 909255600:3 922561200:2 941310000:3 954010800:2 972759600:3 985460400:2 1004209200:3 1017514800:2 1035658800:3 1048964400:2 1067108400:3 1080414000:2 1099162800:3 1111863600:2 1130612400:3 1143313200:2 1162062000:3 1174762800:2 1193511600:3 1206817200:2 1224961200:3 1238266800:2 1256410800:3 1269716400:3 1288468800:1 1301169600:3 2147483647:3|<+07>-7"
  , "Asia/Novosibirsk|0|19900 21600 28800 25200|-1579476700:1 -1247551200:3 354906000:2 370713600:3 386442000:2 402249600:3 417978000:2 433785600:3 449600400:2 465332400:3 481057200:2 496782000:3 512506800:2 528231600:3 543956400:2 559681200:3 575406000:2 591130800:3 606855600:2 622580400:3 638305200:2 654634800:3 670359600:3 686088000:1 695764800:3 701809200:2 717534000:3 733258800:2 738086400:3 748987200:1 764712000:3 780436800:1 796161600:3 811886400:1 828216000:3 846360000:1 859665600:3 877809600:1 891115200:3 909259200:1 922564800:3 941313600:1 954014400:3 972763200:1 985464000:3 1004212800:1 1017518400:3 1035662400:1 1048968000:3 1067112000:1 1080417600:3 1099166400:1 1111867200:3 1130616000:1 1143316800:3 1162065600:1 1174766400:3 1193515200:1 1206820800:3 1224964800:1 1238270400:3 1256414400:1 1269720000:3 1288468800:1 1301169600:3 1414263600:1 1469304000:3 2147483647:3|<+07>-7"
  , "Asia/Omsk|0|17610 18000 25200 21600|-1582088010:1 -1247547600:3 354909600:2 370717200:3 386445600:2 402253200:3 417981600:2 433789200:3 449604000:2 465336000:3 481060800:2 496785600:3 512510400:2 528235200:3 543960000:2 559684800:3 575409600:2 591134400:3 606859200:2 622584000:3 638308800:2 654638400:3 670363200:3 686091600:1 695768400:3 701812800:2 717537600:3 733262400:2 748987200:3 764712000:2 780436800:3 796161600:2 811886400:3 828216000:2 846360000:3 859665600:2 877809600:3 891115200:2 909259200:3 922564800:2 941313600:3 954014400:2 972763200:3 985464000:2 1004212800:3 1017518400:2 1035662400:3 1048968000:2 1067112000:3 1080417600:2 1099166400:3 1111867200:2 1130616000:3 1143316800:2 1162065600:3 1174766400:2 1193515200:3 1206820800:2 1224964800:3 1238270400:2 1256414400:3 1269720000:2 1288468800:3 1301169600:2 1414263600:3 2147483647:3|<+06>-6"
  , "Asia/Oral|0|12324 10800 18000 21600 14400|-1441164324:1 -1247540400:2 354913200:3 370720800:3 386445600:3 402256800:2 417985200:3 433792800:2 449607600:3 465339600:2 481064400:3 496789200:2 512514000:3 528238800:2 543963600:3 559688400:2 575413200:3 591138000:2 606862800:2 622591200:4 638316000:2 654645600:4 670370400:2 686095200:4 695772000:2 701816400:2 717544800:4 733269600:2 748994400:4 764719200:2 780444000:4 796168800:2 811893600:4 828223200:2 846367200:4 859672800:2 877816800:4 891122400:2 909266400:4 922572000:2 941320800:4 954021600:2 972770400:4 985471200:2 1004220000:4 1017525600:2 1035669600:4 1048975200:2 1067119200:4 1080424800:2 1099173600:2 2147483647:2|<+05>-5"
  , "Asia/Phnom_Penh|0|25180 25590 25200 28800 32400|-2004073180:1 -1851577590:2 -852105600:3 -782643600:4 -767869200:2 2147483647:2|<+07>-7"
  , "Asia/Pontianak|0|26240 27000 32400 28800 25200|-1946186240:0 -1172906240:1 -881220600:2 -766054800:1 -683883000:3 -620812800:1 -189415800:3 567964800:4|WIB-7"
  , "Asia/Pyongyang|0|30180 30600 32400|-1948782180:1 -1830414600:2 -768646800:2 1439564400:1 1525446000:2|KST-9"
  , "Asia/Qatar|0|12368 14400 10800|-1577935568:1 76190400:2 2147483647:2|<+03>-3"
  , "Asia/Qostanay|0|15268 14400 18000 21600|-1441167268:1 -1247544000:2 354913200:3 370720800:3 386445600:3 402256800:2 417985200:3 433792800:2 449607600:3 465339600:2 481064400:3 496789200:2 512514000:3 528238800:2 543963600:3 559688400:2 575413200:3 591138000:2 606862800:3 622587600:2 638312400:3 654642000:2 670366800:2 686095200:1 695772000:2 701816400:3 717541200:2 733266000:3 748990800:2 764715600:3 780440400:2 796165200:3 811890000:2 828219600:3 846363600:2 859669200:3 877813200:2 891118800:3 909262800:2 922568400:3 941317200:2 954018000:3 972766800:2 985467600:3 1004216400:2 1017522000:3 1035666000:2 1048971600:3 1067115600:2 1080421200:3 1099170000:3 1709229600:2 2147483647:2|<+05>-5"
  , "Asia/Qyzylorda|0|15712 14400 18000 21600|-1441167712:1 -1247544000:2 354913200:3 370720800:3 386445600:3 402256800:2 417985200:3 433792800:2 449607600:3 465339600:2 481064400:3 496789200:2 512514000:3 528238800:2 543963600:3 559688400:2 575413200:3 591138000:2 606862800:3 622587600:2 638312400:3 654642000:2 670366800:2 686095200:2 695768400:3 701812800:3 717541200:2 733266000:3 748990800:2 764715600:3 780440400:2 796165200:3 811890000:2 828219600:3 846363600:2 859669200:3 877813200:2 891118800:3 909262800:2 922568400:3 941317200:2 954018000:3 972766800:2 985467600:3 1004216400:2 1017522000:3 1035666000:2 1048971600:3 1067115600:2 1080421200:3 1099170000:3 1545328800:2 2147483647:2|<+05>-5"
  , "Asia/Riyadh|0|11212 10800|-719636812:1 2147483647:1|<+03>-3"
  , "Asia/Sakhalin|0|34248 32400 43200 39600 36000|-2031039048:1 -768560400:3 354891600:2 370699200:3 386427600:2 402235200:3 417963600:2 433771200:3 449586000:2 465318000:3 481042800:2 496767600:3 512492400:2 528217200:3 543942000:2 559666800:3 575391600:2 591116400:3 606841200:2 622566000:3 638290800:2 654620400:3 670345200:3 686073600:4 695750400:3 701794800:2 717519600:3 733244400:2 748969200:3 764694000:2 780418800:3 796143600:2 811868400:3 828198000:2 846342000:3 859647600:3 877795200:4 891100800:3 909244800:4 922550400:3 941299200:4 954000000:3 972748800:4 985449600:3 1004198400:4 1017504000:3 1035648000:4 1048953600:3 1067097600:4 1080403200:3 1099152000:4 1111852800:3 1130601600:4 1143302400:3 1162051200:4 1174752000:3 1193500800:4 1206806400:3 1224950400:4 1238256000:3 1256400000:4 1269705600:3 1288454400:4 1301155200:3 1414249200:4 1459008000:3 2147483647:3|<+11>-11"
  , "Asia/Samarkand|0|16073 14400 18000 21600|-1441168073:1 -1247544000:2 354913200:3 370720800:3 386445600:3 402256800:2 417985200:3 433792800:2 449607600:3 465339600:2 481064400:3 496789200:2 512514000:3 528238800:2 543963600:3 559688400:2 575413200:3 591138000:2 606862800:3 622587600:2 638312400:3 654642000:2 670366800:3 686091600:2 2147483647:2|<+05>-5"
  , "Asia/Seoul ROK|0|30472 30600 32400 36000 34200|-1948782472:1 -1830414600:2 -767350800:2 -681210000:3 -672228000:2 -654771600:3 -640864800:2 -623408400:3 -609415200:2 -588848400:3 -577965600:2 -498128400:1 -462702600:4 -451733400:1 -429784200:4 -418296600:1 -399544200:4 -387451800:1 -368094600:4 -356002200:1 -336645000:4 -324552600:1 -305195400:4 -293103000:1 -264933000:2 547578000:3 560883600:2 579027600:3 592333200:2|KST-9"
  , "Asia/Shanghai Asia/Chongqing Asia/Chungking Asia/Harbin PRC|0|29143 32400 28800|-2177481943:2 -1600675200:1 -1585904400:2 -933667200:1 -922093200:2 -908870400:1 -888829200:2 -881049600:1 -767869200:2 -745833600:1 -733827600:2 -716889600:1 -699613200:2 -683884800:1 -670669200:2 -652348800:1 -650019600:2 515527200:1 527014800:2 545162400:1 558464400:2 577216800:1 589914000:2 608666400:1 621968400:2 640116000:1 653418000:2 671565600:1 684867600:2|CST-8"
  , "Asia/Singapore Singapore|0|24925 25200 26400 27000 32400 28800|-2177477725:0 -2038200925:1 -1167634800:2 -1073028000:2 -894180000:3 -879665400:4 -767005200:3 378662400:5 2147483647:5|<+08>-8"
  , "Asia/Srednekolymsk|0|36892 36000 43200 39600|-1441188892:1 -1247565600:3 354891600:2 370699200:3 386427600:2 402235200:3 417963600:2 433771200:3 449586000:2 465318000:3 481042800:2 496767600:3 512492400:2 528217200:3 543942000:2 559666800:3 575391600:2 591116400:3 606841200:2 622566000:3 638290800:2 654620400:3 670345200:3 686073600:1 695750400:3 701794800:2 717519600:3 733244400:2 748969200:3 764694000:2 780418800:3 796143600:2 811868400:3 828198000:2 846342000:3 859647600:2 877791600:3 891097200:2 909241200:3 922546800:2 941295600:3 953996400:2 972745200:3 985446000:2 1004194800:3 1017500400:2 1035644400:3 1048950000:2 1067094000:3 1080399600:2 1099148400:3 1111849200:2 1130598000:3 1143298800:2 1162047600:3 1174748400:2 1193497200:3 1206802800:2 1224946800:3 1238252400:2 1256396400:3 1269702000:2 1288450800:3 1301151600:2 1414245600:3 2147483647:3|<+11>-11"
  , "Asia/Taipei ROC|0|29160 28800 32400|-2335248360:1 -1017820800:2 -766224000:1 -745833600:2 -733827600:1 -716889600:2 -699613200:1 -683884800:2 -670669200:1 -652348800:2 -639133200:1 -620812800:2 -607597200:1 -589276800:2 -576061200:1 -562924800:2 -541760400:1 -528710400:2 -510224400:1 -497174400:2 -478688400:1 -465638400:2 -449830800:1 -434016000:2 -418208400:1 -402480000:2 -386672400:1 -370944000:2 -355136400:1 -339408000:2 -323600400:1 -302515200:2 -291978000:1 -270979200:2 -260442000:1 133977600:2 149785200:1 165513600:2 181321200:1 299606400:2 307551600:1|CST-8"
  , "Asia/Tashkent|0|16631 18000 25200 21600|-1441168631:1 -1247547600:3 354909600:2 370717200:3 386445600:2 402253200:3 417981600:2 433789200:3 449604000:2 465336000:3 481060800:2 496785600:3 512510400:2 528235200:3 543960000:2 559684800:3 575409600:2 591134400:3 606859200:2 622584000:3 638308800:2 654638400:3 670363200:3 686091600:1 2147483647:1|<+05>-5"
  , "Asia/Tbilisi|0|10751 10800 18000 14400|-2840151551:0 -1441162751:1 -405140400:3 354916800:2 370724400:3 386452800:2 402260400:3 417988800:2 433796400:3 449611200:2 465343200:3 481068000:2 496792800:3 512517600:2 528242400:3 543967200:2 559692000:3 575416800:2 591141600:3 606866400:2 622591200:3 638316000:2 654645600:3 670370400:3 686098800:1 701816400:3 717537600:1 733266000:3 748987200:1 764715600:3 780436800:3 796161600:2 811882800:3 828216000:2 859662000:2 877806000:3 891115200:2 909255600:3 922564800:2 941310000:3 954014400:2 972759600:3 985464000:2 1004209200:3 1017518400:2 1035658800:3 1048968000:2 1067108400:3 1080417600:2 1088276400:3 1099177200:1 1111878000:3 2147483647:3|<+04>-4"
  , "Asia/Tehran Iran|0|12344 16200 12600 18000 14400|-1704165944:0 -1090466744:2 227820600:1 246223800:4 259617600:3 271108800:4 279576000:2 296598600:1 306531000:2 322432200:1 338499000:2 673216200:1 685481400:2 701209800:1 717103800:2 732745800:1 748639800:2 764281800:1 780175800:2 795817800:1 811711800:2 827353800:1 843247800:2 858976200:1 874870200:2 890512200:1 906406200:2 922048200:1 937942200:2 953584200:1 969478200:2 985206600:1 1001100600:2 1016742600:1 1032636600:2 1048278600:1 1064172600:2 1079814600:1 1095708600:2 1111437000:1 1127331000:2 1206045000:1 1221939000:2 1237667400:1 1253561400:2 1269203400:1 1285097400:2 1300739400:1 1316633400:2 1332275400:1 1348169400:2 1363897800:1 1379791800:2 1395433800:1 1411327800:2 1426969800:1 1442863800:2 1458505800:1 1474399800:2 1490128200:1 1506022200:2 1521664200:1 1537558200:2 1553200200:1 1569094200:2 1584736200:1 1600630200:2 1616358600:1 1632252600:2 1647894600:1 1663788600:2 2147483647:2|<+0330>-3:30"
  , "Asia/Thimphu Asia/Thimbu|0|21516 19800 21600|-706341516:1 560025000:2 2147483647:2|<+06>-6"
  , "Asia/Tokyo Japan|0|33539 36000 32400|-2587712400:2 -683802000:1 -672310800:2 -654771600:1 -640861200:2 -620298000:1 -609411600:2 -588848400:1 -577962000:2|JST-9"
  , "Asia/Tomsk|0|20391 21600 28800 25200|-1578807591:1 -1247551200:3 354906000:2 370713600:3 386442000:2 402249600:3 417978000:2 433785600:3 449600400:2 465332400:3 481057200:2 496782000:3 512506800:2 528231600:3 543956400:2 559681200:3 575406000:2 591130800:3 606855600:2 622580400:3 638305200:2 654634800:3 670359600:3 686088000:1 695764800:3 701809200:2 717534000:3 733258800:2 748983600:3 764708400:2 780433200:3 796158000:2 811882800:3 828212400:2 846356400:3 859662000:2 877806000:3 891111600:2 909255600:3 922561200:2 941310000:3 954010800:2 972759600:3 985460400:2 1004209200:3 1017514800:2 1020193200:3 1035662400:1 1048968000:3 1067112000:1 1080417600:3 1099166400:1 1111867200:3 1130616000:1 1143316800:3 1162065600:1 1174766400:3 1193515200:1 1206820800:3 1224964800:1 1238270400:3 1256414400:1 1269720000:3 1288468800:1 1301169600:3 1414263600:1 1464465600:3 2147483647:3|<+07>-7"
  , "Asia/Ulaanbaatar Asia/Choibalsan Asia/Ulan_Bator|0|25652 25200 32400 28800|-2032931252:1 252435600:3 417974400:2 433782000:3 449596800:2 465318000:3 481046400:2 496767600:3 512496000:2 528217200:3 543945600:2 559666800:3 575395200:2 591116400:3 606844800:2 622566000:3 638294400:2 654620400:3 670348800:2 686070000:3 701798400:2 717519600:3 733248000:2 748969200:3 764697600:2 780418800:3 796147200:2 811868400:3 828201600:2 843922800:3 859651200:2 875372400:3 891100800:2 906822000:3 988394400:2 1001696400:3 1017424800:2 1033146000:3 1048874400:2 1064595600:3 1080324000:2 1096045200:3 1111773600:2 1127494800:3 1143223200:2 1159549200:3 1427479200:2 1443193200:3 1458928800:2 1474642800:3 2147483647:3|<+08>-8"
  , "Asia/Urumqi Asia/Kashgar|0|21020 21600|-1325483420:1 2147483647:1|<+06>-6"
  , "Asia/Ust-Nera|0|34374 28800 32400 39600 43200 36000|-1579426374:1 -1247558400:2 354898800:4 370699200:3 386427600:4 402235200:3 417963600:4 433771200:3 449586000:4 465318000:3 481042800:4 496767600:3 512492400:4 528217200:3 543942000:4 559666800:3 575391600:4 591116400:3 606841200:4 622566000:3 638290800:4 654620400:3 670345200:3 686073600:5 695750400:3 701794800:4 717519600:3 733244400:4 748969200:3 764694000:4 780418800:3 796143600:4 811868400:3 828198000:4 846342000:3 859647600:4 877791600:3 891097200:4 909241200:3 922546800:4 941295600:3 953996400:4 972745200:3 985446000:4 1004194800:3 1017500400:4 1035644400:3 1048950000:4 1067094000:3 1080399600:4 1099148400:3 1111849200:4 1130598000:3 1143298800:4 1162047600:3 1174748400:4 1193497200:3 1206802800:4 1224946800:3 1238252400:4 1256396400:3 1269702000:4 1288450800:3 1301151600:4 1315828800:3 1414249200:5 2147483647:5|<+10>-10"
  , "Asia/Vientiane|0|24624 25590 25200 28800 32400|-2004072624:1 -1851577590:2 -852105600:3 -782643600:4 -767869200:2 -718095600:3 -464428800:2 2147483647:2|<+07>-7"
  , "Asia/Vladivostok|0|31651 32400 39600 36000|-1487321251:1 -1247562000:3 354895200:2 370702800:3 386431200:2 402238800:3 417967200:2 433774800:3 449589600:2 465321600:3 481046400:2 496771200:3 512496000:2 528220800:3 543945600:2 559670400:3 575395200:2 591120000:3 606844800:2 622569600:3 638294400:2 654624000:3 670348800:3 686077200:1 695754000:3 701798400:2 717523200:3 733248000:2 748972800:3 764697600:2 780422400:3 796147200:2 811872000:3 828201600:2 846345600:3 859651200:2 877795200:3 891100800:2 909244800:3 922550400:2 941299200:3 954000000:2 972748800:3 985449600:2 1004198400:3 1017504000:2 1035648000:3 1048953600:2 1067097600:3 1080403200:2 1099152000:3 1111852800:2 1130601600:3 1143302400:2 1162051200:3 1174752000:2 1193500800:3 1206806400:2 1224950400:3 1238256000:2 1256400000:3 1269705600:2 1288454400:3 1301155200:2 1414249200:3 2147483647:3|<+10>-10"
  , "Asia/Yakutsk|0|31138 28800 36000 32400|-1579423138:1 -1247558400:3 354898800:2 370706400:3 386434800:2 402242400:3 417970800:2 433778400:3 449593200:2 465325200:3 481050000:2 496774800:3 512499600:2 528224400:3 543949200:2 559674000:3 575398800:2 591123600:3 606848400:2 622573200:3 638298000:2 654627600:3 670352400:3 686080800:1 695757600:3 701802000:2 717526800:3 733251600:2 748976400:3 764701200:2 780426000:3 796150800:2 811875600:3 828205200:2 846349200:3 859654800:2 877798800:3 891104400:2 909248400:3 922554000:2 941302800:3 954003600:2 972752400:3 985453200:2 1004202000:3 1017507600:2 1035651600:3 1048957200:2 1067101200:3 1080406800:2 1099155600:3 1111856400:2 1130605200:3 1143306000:2 1162054800:3 1174755600:2 1193504400:3 1206810000:2 1224954000:3 1238259600:2 1256403600:3 1269709200:2 1288458000:3 1301158800:2 1414252800:3 2147483647:3|<+09>-9"
  , "Asia/Yangon Asia/Rangoon|0|23087 23400 32400|-2840163887:0 -1577946287:1 -873268200:2 -778410000:1 2147483647:1|<+0630>-6:30"
  , "Asia/Yekaterinburg|0|14553 13505 14400 21600 18000|-1688270553:1 -1592610305:2 -1247544000:4 354913200:3 370720800:4 386449200:3 402256800:4 417985200:3 433792800:4 449607600:3 465339600:4 481064400:3 496789200:4 512514000:3 528238800:4 543963600:3 559688400:4 575413200:3 591138000:4 606862800:3 622587600:4 638312400:3 654642000:4 670366800:4 686095200:2 695772000:4 701816400:3 717541200:4 733266000:3 748990800:4 764715600:3 780440400:4 796165200:3 811890000:4 828219600:3 846363600:4 859669200:3 877813200:4 891118800:3 909262800:4 922568400:3 941317200:4 954018000:3 972766800:4 985467600:3 1004216400:4 1017522000:3 1035666000:4 1048971600:3 1067115600:4 1080421200:3 1099170000:4 1111870800:3 1130619600:4 1143320400:3 1162069200:4 1174770000:3 1193518800:4 1206824400:3 1224968400:4 1238274000:3 1256418000:4 1269723600:3 1288472400:4 1301173200:3 1414267200:4 2147483647:4|<+05>-5"
  , "Asia/Yerevan|0|10680 10800 18000 14400|-1441162680:1 -405140400:3 354916800:2 370724400:3 386452800:2 402260400:3 417988800:2 433796400:3 449611200:2 465343200:3 481068000:2 496792800:3 512517600:2 528242400:3 543967200:2 559692000:3 575416800:2 591141600:3 606866400:2 622591200:3 638316000:2 654645600:3 670370400:3 686098800:1 701823600:3 717548400:1 733273200:3 748998000:1 764722800:3 780447600:1 796172400:3 811897200:3 859672800:2 877816800:3 891122400:2 909266400:3 922572000:2 941320800:3 954021600:2 972770400:3 985471200:2 1004220000:3 1017525600:2 1035669600:3 1048975200:2 1067119200:3 1080424800:2 1099173600:3 1111874400:2 1130623200:3 1143324000:2 1162072800:3 1174773600:2 1193522400:3 1206828000:2 1224972000:3 1238277600:2 1256421600:3 1269727200:2 1288476000:3 1301176800:2 1319925600:3 2147483647:3|<+04>-4"
  , "Atlantic/Azores|0|-6160 -6872 -3600 -7200 0 3600|-2713904240:1 -1830376800:3 -1689548400:2 -1677794400:3 -1667426400:2 -1647730800:3 -1635890400:2 -1616194800:3 -1604354400:2 -1584658800:3 -1572732000:2 -1553036400:3 -1541196000:2 -1521500400:3 -1442444400:2 -1427670000:3 -1379286000:2 -1364770800:3 -1348441200:2 -1333321200:3 -1316386800:2 -1301266800:3 -1284332400:2 -1269817200:3 -1221433200:2 -1206918000:3 -1191193200:2 -1175468400:3 -1127689200:2 -1111964400:3 -1096844400:2 -1080514800:3 -1063580400:2 -1049065200:3 -1033340400:2 -1017615600:3 -1002495600:2 -986166000:3 -969231600:2 -950482800:3 -942015600:2 -922489200:3 -906937200:2 -891126000:3 -877302000:2 -873676800:4 -864000000:2 -857948400:3 -845852400:2 -842832000:4 -831340800:2 -825894000:3 -814402800:2 -810777600:4 -799891200:2 -794444400:3 -782953200:2 -779328000:4 -768441600:2 -762994800:3 -749084400:2 -733359600:3 -717624000:2 -701899200:3 -686174400:2 -670449600:3 -654724800:2 -639000000:3 -623275200:2 -607550400:3 -591825600:2 -575496000:3 -559771200:2 -544046400:3 -528321600:2 -512596800:3 -496872000:2 -481147200:3 -465422400:2 -449697600:3 -433972800:2 -417643200:3 -401918400:2 -386193600:3 -370468800:2 -354744000:3 -339019200:2 -323294400:3 -307569600:2 -291844800:3 -276120000:2 -260395200:3 -244670400:2 -228340800:3 -212616000:2 -196891200:3 -181166400:2 -165441600:3 -149716800:2 -133992000:3 -118267200:2 -102542400:2 386125200:4 401850000:2 417574800:4 433299600:2 449024400:4 465354000:2 481078800:4 496803600:2 512528400:4 528253200:2 543978000:4 559702800:2 575427600:4 591152400:2 606877200:4 622602000:2 638326800:4 654656400:2 670381200:4 686106000:2 701830800:4 717555600:2 725421600:4 733280400:5 740278800:4 749005200:2 764730000:4 780454800:2 796179600:4 811904400:2 828234000:4 846378000:2 859683600:4 877827600:2 891133200:4 909277200:2 922582800:4 941331600:2 954032400:4 972781200:2 985482000:4 1004230800:2 1017536400:4 1035680400:2 1048986000:4 1067130000:2 1080435600:4 1099184400:2 1111885200:4 1130634000:2 1143334800:4 1162083600:2 1174784400:4 1193533200:2 1206838800:4 1224982800:2 1238288400:4 1256432400:2 1269738000:4 1288486800:2 1301187600:4 1319936400:2 1332637200:4 1351386000:2 1364691600:4 1382835600:2 1396141200:4 1414285200:2 1427590800:4 1445734800:2 1459040400:4 1477789200:2 1490490000:4 1509238800:2 1521939600:4 1540688400:2 1553994000:4 1572138000:2 1585443600:4 1603587600:2 1616893200:4 1635642000:2 1648342800:4 1667091600:2 1679792400:4 1698541200:2 1711846800:4 1729990800:2 1743296400:4 1761440400:2 1774746000:4 1792890000:2 1806195600:4 1824944400:2 1837645200:4 1856394000:2 1869094800:4 1887843600:2 1901149200:4 1919293200:2 1932598800:4 1950742800:2 1964048400:4 1982797200:2 1995498000:4 2014246800:2 2026947600:4 2045696400:2 2058397200:4 2077146000:2 2090451600:4 2108595600:2 2121901200:4 2140045200:2 2147483647:2|<-01>1<+00>,M3.5.0/0,M10.5.0/1"
  , "Atlantic/Bermuda|0|-15558 -11958 -10800 -14400|-2524506042:0 -1664307642:1 -1648932042:0 -1632080442:1 -1618692042:0 -1262281242:3 -882727200:2 -858538800:3 -845229600:2 -825879600:3 -814384800:2 -793825200:3 -782935200:2 -762375600:3 -713988000:2 -703710000:3 -681933600:2 -672865200:3 -650484000:2 -641415600:3 -618429600:2 -609966000:3 -586980000:2 -578516400:3 -555530400:2 -546462000:3 -429127200:2 -415825200:3 136360800:2 152082000:3 167810400:2 183531600:3 199260000:2 215586000:3 230709600:2 247035600:3 262764000:2 278485200:3 294213600:2 309934800:3 325663200:2 341384400:3 357112800:2 372834000:3 388562400:2 404888400:3 420012000:2 436338000:3 452066400:2 467787600:3 483516000:2 499237200:3 514965600:2 530686800:3 544600800:2 562136400:3 576050400:2 594190800:3 607500000:2 625640400:3 638949600:2 657090000:3 671004000:2 688539600:3 702453600:2 719989200:3 733903200:2 752043600:3 765352800:2 783493200:3 796802400:2 814942800:3 828856800:2 846392400:3 860306400:2 877842000:3 891756000:2 909291600:3 923205600:2 941346000:3 954655200:2 972795600:3 986104800:2 1004245200:3 1018159200:2 1035694800:3 1049608800:2 1067144400:3 1081058400:2 1099198800:3 1112508000:2 1130648400:3 1143957600:2 1162098000:3 1173592800:2 1194152400:3 1205042400:2 1225602000:3 1236492000:2 1257051600:3 1268546400:2 1289106000:3 1299996000:2 1320555600:3 1331445600:2 1352005200:3 1362895200:2 1383454800:3 1394344800:2 1414904400:3 1425794400:2 1446354000:3 1457848800:2 1478408400:3 1489298400:2 1509858000:3 1520748000:2 1541307600:3 1552197600:2 1572757200:3 1583647200:2 1604206800:3 1615701600:2 1636261200:3 1647151200:2 1667710800:3 1678600800:2 1699160400:3 1710050400:2 1730610000:3 1741500000:2 1762059600:3 1772949600:2 1793509200:3 1805004000:2 1825563600:3 1836453600:2 1857013200:3 1867903200:2 1888462800:3 1899352800:2 1919912400:3 1930802400:2 1951362000:3 1962856800:2 1983416400:3 1994306400:2 2014866000:3 2025756000:2 2046315600:3 2057205600:2 2077765200:3 2088655200:2 2109214800:3 2120104800:2 2140664400:3|AST4ADT,M3.2.0,M11.1.0"
  , "Atlantic/Canary|0|-3696 -3600 0 3600|-1509663504:1 -733874400:2 323827200:3 338950800:2 354675600:3 370400400:2 386125200:3 401850000:2 417574800:3 433299600:2 449024400:3 465354000:2 481078800:3 496803600:2 512528400:3 528253200:2 543978000:3 559702800:2 575427600:3 591152400:2 606877200:3 622602000:2 638326800:3 654656400:2 670381200:3 686106000:2 701830800:3 717555600:2 733280400:3 749005200:2 764730000:3 780454800:2 796179600:3 811904400:2 828234000:3 846378000:2 859683600:3 877827600:2 891133200:3 909277200:2 922582800:3 941331600:2 954032400:3 972781200:2 985482000:3 1004230800:2 1017536400:3 1035680400:2 1048986000:3 1067130000:2 1080435600:3 1099184400:2 1111885200:3 1130634000:2 1143334800:3 1162083600:2 1174784400:3 1193533200:2 1206838800:3 1224982800:2 1238288400:3 1256432400:2 1269738000:3 1288486800:2 1301187600:3 1319936400:2 1332637200:3 1351386000:2 1364691600:3 1382835600:2 1396141200:3 1414285200:2 1427590800:3 1445734800:2 1459040400:3 1477789200:2 1490490000:3 1509238800:2 1521939600:3 1540688400:2 1553994000:3 1572138000:2 1585443600:3 1603587600:2 1616893200:3 1635642000:2 1648342800:3 1667091600:2 1679792400:3 1698541200:2 1711846800:3 1729990800:2 1743296400:3 1761440400:2 1774746000:3 1792890000:2 1806195600:3 1824944400:2 1837645200:3 1856394000:2 1869094800:3 1887843600:2 1901149200:3 1919293200:2 1932598800:3 1950742800:2 1964048400:3 1982797200:2 1995498000:3 2014246800:2 2026947600:3 2045696400:2 2058397200:3 2077146000:2 2090451600:3 2108595600:2 2121901200:3 2140045200:2|WET0WEST,M3.5.0/1,M10.5.0"
  , "Atlantic/Cape_Verde|0|-5644 -7200 -3600|-1830376800:1 -862610400:2 -764118000:1 186120000:2 2147483647:2|<-01>1"
  , "Atlantic/Faroe Atlantic/Faeroe|0|-1624 0 3600|-1955748776:1 354675600:2 370400400:1 386125200:2 401850000:1 417574800:2 433299600:1 449024400:2 465354000:1 481078800:2 496803600:1 512528400:2 528253200:1 543978000:2 559702800:1 575427600:2 591152400:1 606877200:2 622602000:1 638326800:2 654656400:1 670381200:2 686106000:1 701830800:2 717555600:1 733280400:2 749005200:1 764730000:2 780454800:1 796179600:2 811904400:1 828234000:2 846378000:1 859683600:2 877827600:1 891133200:2 909277200:1 922582800:2 941331600:1 954032400:2 972781200:1 985482000:2 1004230800:1 1017536400:2 1035680400:1 1048986000:2 1067130000:1 1080435600:2 1099184400:1 1111885200:2 1130634000:1 1143334800:2 1162083600:1 1174784400:2 1193533200:1 1206838800:2 1224982800:1 1238288400:2 1256432400:1 1269738000:2 1288486800:1 1301187600:2 1319936400:1 1332637200:2 1351386000:1 1364691600:2 1382835600:1 1396141200:2 1414285200:1 1427590800:2 1445734800:1 1459040400:2 1477789200:1 1490490000:2 1509238800:1 1521939600:2 1540688400:1 1553994000:2 1572138000:1 1585443600:2 1603587600:1 1616893200:2 1635642000:1 1648342800:2 1667091600:1 1679792400:2 1698541200:1 1711846800:2 1729990800:1 1743296400:2 1761440400:1 1774746000:2 1792890000:1 1806195600:2 1824944400:1 1837645200:2 1856394000:1 1869094800:2 1887843600:1 1901149200:2 1919293200:1 1932598800:2 1950742800:1 1964048400:2 1982797200:1 1995498000:2 2014246800:1 2026947600:2 2045696400:1 2058397200:2 2077146000:1 2090451600:2 2108595600:1 2121901200:2 2140045200:1|WET0WEST,M3.5.0/1,M10.5.0"
  , "Atlantic/Madeira|0|-4056 0 -3600 3600|-2713906344:0 -1830380400:2 -1689552000:1 -1677798000:2 -1667430000:1 -1647734400:2 -1635894000:1 -1616198400:2 -1604358000:1 -1584662400:2 -1572735600:1 -1553040000:2 -1541199600:1 -1521504000:2 -1442448000:1 -1427673600:2 -1379289600:1 -1364774400:2 -1348444800:1 -1333324800:2 -1316390400:1 -1301270400:2 -1284336000:1 -1269820800:2 -1221436800:1 -1206921600:2 -1191196800:1 -1175472000:2 -1127692800:1 -1111968000:2 -1096848000:1 -1080518400:2 -1063584000:1 -1049068800:2 -1033344000:1 -1017619200:2 -1002499200:1 -986169600:2 -969235200:1 -950486400:2 -942019200:1 -922492800:2 -906940800:1 -891129600:2 -877305600:1 -873680400:3 -864003600:1 -857952000:2 -845856000:1 -842835600:3 -831344400:1 -825897600:2 -814406400:1 -810781200:3 -799894800:1 -794448000:2 -782956800:1 -779331600:3 -768445200:1 -762998400:2 -749088000:1 -733363200:2 -717627600:1 -701902800:2 -686178000:1 -670453200:2 -654728400:1 -639003600:2 -623278800:1 -607554000:2 -591829200:1 -575499600:2 -559774800:1 -544050000:2 -528325200:1 -512600400:2 -496875600:1 -481150800:2 -465426000:1 -449701200:2 -433976400:1 -417646800:2 -401922000:1 -386197200:2 -370472400:1 -354747600:2 -339022800:1 -323298000:2 -307573200:1 -291848400:2 -276123600:1 -260398800:2 -244674000:1 -228344400:2 -212619600:1 -196894800:2 -181170000:1 -165445200:2 -149720400:1 -133995600:2 -118270800:1 -102546000:1 386726400:3 401846400:1 417571200:3 433296000:1 449020800:3 465350400:1 481075200:3 496800000:1 512524800:3 528253200:1 543978000:3 559702800:1 575427600:3 591152400:1 606877200:3 622602000:1 638326800:3 654656400:1 670381200:3 686106000:1 701830800:3 717555600:1 733280400:3 749005200:1 764730000:3 780454800:1 796179600:3 811904400:1 828234000:3 846378000:1 859683600:3 877827600:1 891133200:3 909277200:1 922582800:3 941331600:1 954032400:3 972781200:1 985482000:3 1004230800:1 1017536400:3 1035680400:1 1048986000:3 1067130000:1 1080435600:3 1099184400:1 1111885200:3 1130634000:1 1143334800:3 1162083600:1 1174784400:3 1193533200:1 1206838800:3 1224982800:1 1238288400:3 1256432400:1 1269738000:3 1288486800:1 1301187600:3 1319936400:1 1332637200:3 1351386000:1 1364691600:3 1382835600:1 1396141200:3 1414285200:1 1427590800:3 1445734800:1 1459040400:3 1477789200:1 1490490000:3 1509238800:1 1521939600:3 1540688400:1 1553994000:3 1572138000:1 1585443600:3 1603587600:1 1616893200:3 1635642000:1 1648342800:3 1667091600:1 1679792400:3 1698541200:1 1711846800:3 1729990800:1 1743296400:3 1761440400:1 1774746000:3 1792890000:1 1806195600:3 1824944400:1 1837645200:3 1856394000:1 1869094800:3 1887843600:1 1901149200:3 1919293200:1 1932598800:3 1950742800:1 1964048400:3 1982797200:1 1995498000:3 2014246800:1 2026947600:3 2045696400:1 2058397200:3 2077146000:1 2090451600:3 2108595600:1 2121901200:3 2140045200:1|WET0WEST,M3.5.0/1,M10.5.0"
  , "Atlantic/Reykjavik Iceland|0|-5280 0 -3600|-1956609120:2 -1668211200:1 -1647212400:2 -1636675200:1 -1613430000:2 -1605139200:1 -1581894000:2 -1539561600:1 -1531350000:2 -968025600:1 -952293600:2 -942008400:1 -920239200:2 -909957600:1 -888789600:2 -877903200:1 -857944800:2 -846453600:1 -826495200:2 -815004000:1 -795045600:2 -783554400:1 -762991200:2 -752104800:1 -731541600:2 -717631200:1 -700092000:2 -686181600:1 -668642400:2 -654732000:1 -636588000:2 -623282400:1 -605743200:2 -591832800:1 -573688800:2 -559778400:1 -542239200:2 -528328800:1 -510789600:2 -496879200:1 -479340000:2 -465429600:1 -447890400:2 -433980000:1 -415836000:2 -401925600:1 -384386400:2 -370476000:1 -352936800:2 -339026400:1 -321487200:2 -307576800:1 -290037600:2 -276127200:1 -258588000:2 -244677600:1 -226533600:2 -212623200:1 -195084000:2 -181173600:1 -163634400:2 -149724000:1 -132184800:2 -118274400:1 -100735200:2 -86824800:1 -68680800:2 -54770400:1|GMT0"
  , "Atlantic/South_Georgia|0|-8768 -7200|-2524512832:1 2147483647:1|<-02>2"
  , "Atlantic/St_Helena|0|-1368 0|-2524520232:0 -599614632:1|GMT0"
  , "Atlantic/Stanley|0|-13884 -10800 -14400 -7200|-2524507716:0 -1824235716:2 -1018209600:1 -1003093200:2 -986760000:1 -971643600:2 -954705600:1 -939589200:2 -923256000:1 -908139600:2 -891806400:1 -876690000:2 -860356800:1 -852066000:2 420609600:1 433306800:3 452052000:1 464151600:3 483501600:1 495601200:1 514350000:2 527054400:1 545799600:2 558504000:1 577249200:2 589953600:1 608698800:2 621403200:1 640753200:2 652852800:1 672202800:2 684907200:1 703652400:2 716356800:1 735102000:2 747806400:1 766551600:2 779256000:1 798001200:2 810705600:1 830055600:2 842760000:1 861505200:2 874209600:1 892954800:2 905659200:1 924404400:2 937108800:1 955854000:2 968558400:1 987310800:2 999410400:1 1019365200:2 1030860000:1 1050814800:2 1062914400:1 1082264400:2 1094364000:1 1113714000:2 1125813600:1 1145163600:2 1157263200:1 1176613200:2 1188712800:1 1208667600:2 1220767200:1 1240117200:2 1252216800:1 1271566800:2 1283666400:1 2147483647:1|<-03>3"
  , "Australia/Adelaide Australia/South|0|33260 32400 37800 34200|-2364110060:1 -2230189200:3 -1672558200:2 -1665387000:3 -883639800:2 -876123000:3 -860398200:2 -844673400:3 -828343800:2 -813223800:3 57688200:2 67969800:3 89137800:2 100024200:3 120587400:2 131473800:3 152037000:2 162923400:3 183486600:2 194977800:3 215541000:2 226427400:3 246990600:2 257877000:3 278440200:2 289326600:3 309889800:2 320776200:3 341339400:2 352225800:3 372789000:2 384280200:3 404843400:2 415729800:3 436293000:2 447179400:3 467742600:2 478629000:3 499192200:2 511288200:3 530037000:2 542737800:3 562091400:2 574792200:3 594145800:2 606241800:3 625595400:2 637691400:3 657045000:2 667931400:3 688494600:2 701195400:3 719944200:2 731435400:3 751998600:2 764094600:3 783448200:2 796149000:3 814897800:2 828203400:3 846347400:2 859653000:3 877797000:2 891102600:3 909246600:2 922552200:3 941301000:2 954001800:3 972750600:2 985451400:3 1004200200:2 1017505800:3 1035649800:2 1048955400:3 1067099400:2 1080405000:3 1099153800:2 1111854600:3 1130603400:2 1143909000:3 1162053000:2 1174753800:3 1193502600:2 1207413000:3 1223137800:2 1238862600:3 1254587400:2 1270312200:3 1286037000:2 1301761800:3 1317486600:2 1333211400:3 1349541000:2 1365265800:3 1380990600:2 1396715400:3 1412440200:2 1428165000:3 1443889800:2 1459614600:3 1475339400:2 1491064200:3 1506789000:2 1522513800:3 1538843400:2 1554568200:3 1570293000:2 1586017800:3 1601742600:2 1617467400:3 1633192200:2 1648917000:3 1664641800:2 1680366600:3 1696091400:2 1712421000:3 1728145800:2 1743870600:3 1759595400:2 1775320200:3 1791045000:2 1806769800:3 1822494600:2 1838219400:3 1853944200:2 1869669000:3 1885998600:2 1901723400:3 1917448200:2 1933173000:3 1948897800:2 1964622600:3 1980347400:2 1996072200:3 2011797000:2 2027521800:3 2043246600:2 2058971400:3 2075301000:2 2091025800:3 2106750600:2 2122475400:3 2138200200:2|ACST-9:30ACDT,M10.1.0,M4.1.0/3"
  , "Australia/Brisbane Australia/Queensland|0|36728 39600 36000|-2366791928:2 -1672560000:1 -1665388800:2 -883641600:1 -876124800:2 -860400000:1 -844675200:2 -828345600:1 -813225600:2 57686400:1 67968000:2 625593600:1 636480000:2 657043200:1 667929600:2 688492800:1 699379200:2|AEST-10"
  , "Australia/Broken_Hill Australia/Yancowinna|0|33948 36000 32400 37800 34200|-2364110748:1 -2314951200:2 -2230189200:4 -1672558200:3 -1665387000:4 -883639800:3 -876123000:4 -860398200:3 -844673400:4 -828343800:3 -813223800:4 57688200:3 67969800:4 89137800:3 100024200:4 120587400:3 131473800:4 152037000:3 162923400:4 183486600:3 194977800:4 215541000:3 226427400:4 246990600:3 257877000:4 278440200:3 289326600:4 309889800:3 320776200:4 341339400:3 352225800:4 372789000:3 386699400:4 404843400:3 415729800:4 436293000:3 447179400:4 467742600:3 478629000:4 499192200:3 511288200:4 530037000:3 542737800:4 562091400:3 574792200:4 594145800:3 606241800:4 625595400:3 636481800:4 657045000:3 667931400:4 688494600:3 699381000:4 719944200:3 731435400:4 751998600:3 762885000:4 783448200:3 794334600:4 814897800:3 828203400:4 846347400:3 859653000:4 877797000:3 891102600:4 909246600:3 922552200:4 941301000:3 954001800:4 972750600:3 985451400:4 1004200200:3 1017505800:4 1035649800:3 1048955400:4 1067099400:3 1080405000:4 1099153800:3 1111854600:4 1130603400:3 1143909000:4 1162053000:3 1174753800:4 1193502600:3 1207413000:4 1223137800:3 1238862600:4 1254587400:3 1270312200:4 1286037000:3 1301761800:4 1317486600:3 1333211400:4 1349541000:3 1365265800:4 1380990600:3 1396715400:4 1412440200:3 1428165000:4 1443889800:3 1459614600:4 1475339400:3 1491064200:4 1506789000:3 1522513800:4 1538843400:3 1554568200:4 1570293000:3 1586017800:4 1601742600:3 1617467400:4 1633192200:3 1648917000:4 1664641800:3 1680366600:4 1696091400:3 1712421000:4 1728145800:3 1743870600:4 1759595400:3 1775320200:4 1791045000:3 1806769800:4 1822494600:3 1838219400:4 1853944200:3 1869669000:4 1885998600:3 1901723400:4 1917448200:3 1933173000:4 1948897800:3 1964622600:4 1980347400:3 1996072200:4 2011797000:3 2027521800:4 2043246600:3 2058971400:4 2075301000:3 2091025800:4 2106750600:3 2122475400:4 2138200200:3|ACST-9:30ACDT,M10.1.0,M4.1.0/3"
  , "Australia/Darwin Australia/North|0|31400 32400 37800 34200|-2364108200:1 -2230189200:3 -1672558200:2 -1665387000:3 -883639800:2 -876123000:3 -860398200:2 -844673400:3 -828343800:2 -813223800:3|ACST-9:30"
  , "Australia/Eucla|0|30928 35100 31500|-2337928528:2 -1672555500:1 -1665384300:2 -883637100:1 -876120300:2 -860395500:1 -844670700:2 152039700:1 162926100:2 436295700:1 447182100:2 690311700:1 699383700:2 1165079700:1 1174756500:2 1193505300:1 1206810900:2 1224954900:1 1238260500:2 2147483647:2|<+0845>-8:45"
  , "Australia/Hobart Australia/Currie Australia/Tasmania|0|35356 39600 36000|-2345795356:2 -1680508800:1 -1665388800:2 -1646640000:1 -1635753600:2 -1615190400:1 -1604304000:2 -883641600:1 -876124800:2 -860400000:1 -844675200:2 -828345600:1 -813225600:2 -71136000:1 -55411200:2 -37267200:1 -25776000:2 -5817600:1 5673600:2 25632000:1 37728000:2 57686400:1 67968000:2 89136000:1 100022400:2 120585600:1 131472000:2 152035200:1 162921600:2 183484800:1 194976000:2 215539200:1 226425600:2 246988800:1 257875200:2 278438400:1 289324800:2 309888000:1 320774400:2 341337600:1 352224000:2 372787200:1 386092800:2 404841600:1 417542400:2 436291200:1 447177600:2 467740800:1 478627200:2 499190400:1 510076800:2 530035200:1 542736000:2 562089600:1 574790400:2 594144000:1 606240000:2 625593600:1 637689600:2 657043200:1 670348800:2 686678400:1 701798400:2 718128000:1 733248000:2 749577600:1 764697600:2 781027200:1 796147200:2 812476800:1 828201600:2 844531200:1 859651200:2 875980800:1 891100800:2 907430400:1 922550400:2 938880000:1 954000000:2 967305600:1 985449600:2 1002384000:1 1017504000:2 1033833600:1 1048953600:2 1065283200:1 1080403200:2 1096732800:1 1111852800:2 1128182400:1 1143907200:2 1159632000:1 1174752000:2 1191686400:1 1207411200:2 1223136000:1 1238860800:2 1254585600:1 1270310400:2 1286035200:1 1301760000:2 1317484800:1 1333209600:2 1349539200:1 1365264000:2 1380988800:1 1396713600:2 1412438400:1 1428163200:2 1443888000:1 1459612800:2 1475337600:1 1491062400:2 1506787200:1 1522512000:2 1538841600:1 1554566400:2 1570291200:1 1586016000:2 1601740800:1 1617465600:2 1633190400:1 1648915200:2 1664640000:1 1680364800:2 1696089600:1 1712419200:2 1728144000:1 1743868800:2 1759593600:1 1775318400:2 1791043200:1 1806768000:2 1822492800:1 1838217600:2 1853942400:1 1869667200:2 1885996800:1 1901721600:2 1917446400:1 1933171200:2 1948896000:1 1964620800:2 1980345600:1 1996070400:2 2011795200:1 2027520000:2 2043244800:1 2058969600:2 2075299200:1 2091024000:2 2106748800:1 2122473600:2 2138198400:1|AEST-10AEDT,M10.1.0,M4.1.0/3"
  , "Australia/Lindeman|0|35756 39600 36000|-2366790956:2 -1672560000:1 -1665388800:2 -883641600:1 -876124800:2 -860400000:1 -844675200:2 -828345600:1 -813225600:2 57686400:1 67968000:2 625593600:1 636480000:2 657043200:1 667929600:2 688492800:1 699379200:2 719942400:1 731433600:2 751996800:1 762883200:2|AEST-10"
  , "Australia/Lord_Howe Australia/LHI|0|38180 36000 41400 37800 39600|-2364114980:1 352216800:3 372785400:2 384273000:3 404839800:2 415722600:3 436289400:2 447172200:3 467739000:2 478621800:3 499188600:4 511282800:3 530033400:4 542732400:3 562087800:4 574786800:3 594142200:4 606236400:3 625591800:4 636476400:3 657041400:4 667926000:3 688491000:4 699375600:3 719940600:4 731430000:3 751995000:4 762879600:3 783444600:4 794329200:3 814894200:4 828198000:3 846343800:4 859647600:3 877793400:4 891097200:3 909243000:4 922546800:3 941297400:4 953996400:3 967303800:4 985446000:3 1004196600:4 1017500400:3 1035646200:4 1048950000:3 1067095800:4 1080399600:3 1099150200:4 1111849200:3 1130599800:4 1143903600:3 1162049400:4 1174748400:3 1193499000:4 1207407600:3 1223134200:4 1238857200:3 1254583800:4 1270306800:3 1286033400:4 1301756400:3 1317483000:4 1333206000:3 1349537400:4 1365260400:3 1380987000:4 1396710000:3 1412436600:4 1428159600:3 1443886200:4 1459609200:3 1475335800:4 1491058800:3 1506785400:4 1522508400:3 1538839800:4 1554562800:3 1570289400:4 1586012400:3 1601739000:4 1617462000:3 1633188600:4 1648911600:3 1664638200:4 1680361200:3 1696087800:4 1712415600:3 1728142200:4 1743865200:3 1759591800:4 1775314800:3 1791041400:4 1806764400:3 1822491000:4 1838214000:3 1853940600:4 1869663600:3 1885995000:4 1901718000:3 1917444600:4 1933167600:3 1948894200:4 1964617200:3 1980343800:4 1996066800:3 2011793400:4 2027516400:3 2043243000:4 2058966000:3 2075297400:4 2091020400:3 2106747000:4 2122470000:3 2138196600:4 2147483647:4|<+1030>-10:30<+11>-11,M10.1.0,M4.1.0"
  , "Australia/Melbourne Australia/Victoria|0|34792 39600 36000|-2364111592:2 -1672560000:1 -1665388800:2 -883641600:1 -876124800:2 -860400000:1 -844675200:2 -828345600:1 -813225600:2 57686400:1 67968000:2 89136000:1 100022400:2 120585600:1 131472000:2 152035200:1 162921600:2 183484800:1 194976000:2 215539200:1 226425600:2 246988800:1 257875200:2 278438400:1 289324800:2 309888000:1 320774400:2 341337600:1 352224000:2 372787200:1 384278400:2 404841600:1 415728000:2 436291200:1 447177600:2 467740800:1 478627200:2 499190400:1 511286400:2 530035200:1 542736000:2 561484800:1 574790400:2 594144000:1 606240000:2 625593600:1 637689600:2 657043200:1 667929600:2 688492800:1 699379200:2 719942400:1 731433600:2 751996800:1 762883200:2 783446400:1 796147200:2 814896000:1 828201600:2 846345600:1 859651200:2 877795200:1 891100800:2 909244800:1 922550400:2 941299200:1 954000000:2 967305600:1 985449600:2 1004198400:1 1017504000:2 1035648000:1 1048953600:2 1067097600:1 1080403200:2 1099152000:1 1111852800:2 1130601600:1 1143907200:2 1162051200:1 1174752000:2 1193500800:1 1207411200:2 1223136000:1 1238860800:2 1254585600:1 1270310400:2 1286035200:1 1301760000:2 1317484800:1 1333209600:2 1349539200:1 1365264000:2 1380988800:1 1396713600:2 1412438400:1 1428163200:2 1443888000:1 1459612800:2 1475337600:1 1491062400:2 1506787200:1 1522512000:2 1538841600:1 1554566400:2 1570291200:1 1586016000:2 1601740800:1 1617465600:2 1633190400:1 1648915200:2 1664640000:1 1680364800:2 1696089600:1 1712419200:2 1728144000:1 1743868800:2 1759593600:1 1775318400:2 1791043200:1 1806768000:2 1822492800:1 1838217600:2 1853942400:1 1869667200:2 1885996800:1 1901721600:2 1917446400:1 1933171200:2 1948896000:1 1964620800:2 1980345600:1 1996070400:2 2011795200:1 2027520000:2 2043244800:1 2058969600:2 2075299200:1 2091024000:2 2106748800:1 2122473600:2 2138198400:1|AEST-10AEDT,M10.1.0,M4.1.0/3"
  , "Australia/Perth Australia/West|0|27804 32400 28800|-2337925404:2 -1672552800:1 -1665381600:2 -883634400:1 -876117600:2 -860392800:1 -844668000:2 152042400:1 162928800:2 436298400:1 447184800:2 690314400:1 699386400:2 1165082400:1 1174759200:2 1193508000:1 1206813600:2 1224957600:1 1238263200:2|AWST-8"
  , "Australia/Sydney Australia/ACT Australia/Canberra Australia/NSW|0|36292 39600 36000|-2364113092:2 -1672560000:1 -1665388800:2 -883641600:1 -876124800:2 -860400000:1 -844675200:2 -828345600:1 -813225600:2 57686400:1 67968000:2 89136000:1 100022400:2 120585600:1 131472000:2 152035200:1 162921600:2 183484800:1 194976000:2 215539200:1 226425600:2 246988800:1 257875200:2 278438400:1 289324800:2 309888000:1 320774400:2 341337600:1 352224000:2 372787200:1 386697600:2 404841600:1 415728000:2 436291200:1 447177600:2 467740800:1 478627200:2 499190400:1 511286400:2 530035200:1 542736000:2 562089600:1 574790400:2 594144000:1 606240000:2 625593600:1 636480000:2 657043200:1 667929600:2 688492800:1 699379200:2 719942400:1 731433600:2 751996800:1 762883200:2 783446400:1 794332800:2 814896000:1 828201600:2 846345600:1 859651200:2 877795200:1 891100800:2 909244800:1 922550400:2 941299200:1 954000000:2 967305600:1 985449600:2 1004198400:1 1017504000:2 1035648000:1 1048953600:2 1067097600:1 1080403200:2 1099152000:1 1111852800:2 1130601600:1 1143907200:2 1162051200:1 1174752000:2 1193500800:1 1207411200:2 1223136000:1 1238860800:2 1254585600:1 1270310400:2 1286035200:1 1301760000:2 1317484800:1 1333209600:2 1349539200:1 1365264000:2 1380988800:1 1396713600:2 1412438400:1 1428163200:2 1443888000:1 1459612800:2 1475337600:1 1491062400:2 1506787200:1 1522512000:2 1538841600:1 1554566400:2 1570291200:1 1586016000:2 1601740800:1 1617465600:2 1633190400:1 1648915200:2 1664640000:1 1680364800:2 1696089600:1 1712419200:2 1728144000:1 1743868800:2 1759593600:1 1775318400:2 1791043200:1 1806768000:2 1822492800:1 1838217600:2 1853942400:1 1869667200:2 1885996800:1 1901721600:2 1917446400:1 1933171200:2 1948896000:1 1964620800:2 1980345600:1 1996070400:2 2011795200:1 2027520000:2 2043244800:1 2058969600:2 2075299200:1 2091024000:2 2106748800:1 2122473600:2 2138198400:1|AEST-10AEDT,M10.1.0,M4.1.0/3"
  , "CET|0|3600 7200|-1693706400:1 -1680483600:0 -1663455600:1 -1650150000:0 -1632006000:1 -1618700400:0 -938905200:1 -857257200:0 -844556400:1 -828226800:0 -812502000:1 -796777200:0 -781052400:1 -766623600:0 228877200:1 243997200:0 260326800:1 276051600:0 291776400:1 307501200:0 323830800:1 338950800:0 354675600:1 370400400:0 386125200:1 401850000:0 417574800:1 433299600:0 449024400:1 465354000:0 481078800:1 496803600:0 512528400:1 528253200:0 543978000:1 559702800:0 575427600:1 591152400:0 606877200:1 622602000:0 638326800:1 654656400:0 670381200:1 686106000:0 701830800:1 717555600:0 733280400:1 749005200:0 764730000:1 780454800:0 796179600:1 811904400:0 828234000:1 846378000:0 859683600:1 877827600:0 891133200:1 909277200:0 922582800:1 941331600:0 954032400:1 972781200:0 985482000:1 1004230800:0 1017536400:1 1035680400:0 1048986000:1 1067130000:0 1080435600:1 1099184400:0 1111885200:1 1130634000:0 1143334800:1 1162083600:0 1174784400:1 1193533200:0 1206838800:1 1224982800:0 1238288400:1 1256432400:0 1269738000:1 1288486800:0 1301187600:1 1319936400:0 1332637200:1 1351386000:0 1364691600:1 1382835600:0 1396141200:1 1414285200:0 1427590800:1 1445734800:0 1459040400:1 1477789200:0 1490490000:1 1509238800:0 1521939600:1 1540688400:0 1553994000:1 1572138000:0 1585443600:1 1603587600:0 1616893200:1 1635642000:0 1648342800:1 1667091600:0 1679792400:1 1698541200:0 1711846800:1 1729990800:0 1743296400:1 1761440400:0 1774746000:1 1792890000:0 1806195600:1 1824944400:0 1837645200:1 1856394000:0 1869094800:1 1887843600:0 1901149200:1 1919293200:0 1932598800:1 1950742800:0 1964048400:1 1982797200:0 1995498000:1 2014246800:0 2026947600:1 2045696400:0 2058397200:1 2077146000:0 2090451600:1 2108595600:0 2121901200:1 2140045200:0|CET-1CEST,M3.5.0,M10.5.0/3"
  , "CST6CDT|0|-21600 -18000|-1633276800:1 -1615136400:0 -1601827200:1 -1583686800:0 -880214400:1 -769395600:1 -765392400:0 -84384000:1 -68662800:0 -52934400:1 -37213200:0 -21484800:1 -5763600:0 9964800:1 25686000:0 41414400:1 57740400:0 73468800:1 89190000:0 104918400:1 120639600:0 126691200:1 152089200:0 162374400:1 183538800:0 199267200:1 215593200:0 230716800:1 247042800:0 262771200:1 278492400:0 294220800:1 309942000:0 325670400:1 341391600:0 357120000:1 372841200:0 388569600:1 404895600:0 420019200:1 436345200:0 452073600:1 467794800:0 483523200:1 499244400:0 514972800:1 530694000:0 544608000:1 562143600:0 576057600:1 594198000:0 607507200:1 625647600:0 638956800:1 657097200:0 671011200:1 688546800:0 702460800:1 719996400:0 733910400:1 752050800:0 765360000:1 783500400:0 796809600:1 814950000:0 828864000:1 846399600:0 860313600:1 877849200:0 891763200:1 909298800:0 923212800:1 941353200:0 954662400:1 972802800:0 986112000:1 1004252400:0 1018166400:1 1035702000:0 1049616000:1 1067151600:0 1081065600:1 1099206000:0 1112515200:1 1130655600:0 1143964800:1 1162105200:0 1173600000:1 1194159600:0 1205049600:1 1225609200:0 1236499200:1 1257058800:0 1268553600:1 1289113200:0 1300003200:1 1320562800:0 1331452800:1 1352012400:0 1362902400:1 1383462000:0 1394352000:1 1414911600:0 1425801600:1 1446361200:0 1457856000:1 1478415600:0 1489305600:1 1509865200:0 1520755200:1 1541314800:0 1552204800:1 1572764400:0 1583654400:1 1604214000:0 1615708800:1 1636268400:0 1647158400:1 1667718000:0 1678608000:1 1699167600:0 1710057600:1 1730617200:0 1741507200:1 1762066800:0 1772956800:1 1793516400:0 1805011200:1 1825570800:0 1836460800:1 1857020400:0 1867910400:1 1888470000:0 1899360000:1 1919919600:0 1930809600:1 1951369200:0 1962864000:1 1983423600:0 1994313600:1 2014873200:0 2025763200:1 2046322800:0 2057212800:1 2077772400:0 2088662400:1 2109222000:0 2120112000:1 2140671600:0|CST6CDT,M3.2.0,M11.1.0"
  , "EET|0|7200 10800|228877200:1 243997200:0 260326800:1 276051600:0 291776400:1 307501200:0 323830800:1 338950800:0 354675600:1 370400400:0 386125200:1 401850000:0 417574800:1 433299600:0 449024400:1 465354000:0 481078800:1 496803600:0 512528400:1 528253200:0 543978000:1 559702800:0 575427600:1 591152400:0 606877200:1 622602000:0 638326800:1 654656400:0 670381200:1 686106000:0 701830800:1 717555600:0 733280400:1 749005200:0 764730000:1 780454800:0 796179600:1 811904400:0 828234000:1 846378000:0 859683600:1 877827600:0 891133200:1 909277200:0 922582800:1 941331600:0 954032400:1 972781200:0 985482000:1 1004230800:0 1017536400:1 1035680400:0 1048986000:1 1067130000:0 1080435600:1 1099184400:0 1111885200:1 1130634000:0 1143334800:1 1162083600:0 1174784400:1 1193533200:0 1206838800:1 1224982800:0 1238288400:1 1256432400:0 1269738000:1 1288486800:0 1301187600:1 1319936400:0 1332637200:1 1351386000:0 1364691600:1 1382835600:0 1396141200:1 1414285200:0 1427590800:1 1445734800:0 1459040400:1 1477789200:0 1490490000:1 1509238800:0 1521939600:1 1540688400:0 1553994000:1 1572138000:0 1585443600:1 1603587600:0 1616893200:1 1635642000:0 1648342800:1 1667091600:0 1679792400:1 1698541200:0 1711846800:1 1729990800:0 1743296400:1 1761440400:0 1774746000:1 1792890000:0 1806195600:1 1824944400:0 1837645200:1 1856394000:0 1869094800:1 1887843600:0 1901149200:1 1919293200:0 1932598800:1 1950742800:0 1964048400:1 1982797200:0 1995498000:1 2014246800:0 2026947600:1 2045696400:0 2058397200:1 2077146000:0 2090451600:1 2108595600:0 2121901200:1 2140045200:0|EET-2EEST,M3.5.0/3,M10.5.0/4"
  , "EST|0|-18000||EST5"
  , "EST5EDT|0|-18000 -14400|-1633280400:1 -1615140000:0 -1601830800:1 -1583690400:0 -880218000:1 -769395600:1 -765396000:0 -84387600:1 -68666400:0 -52938000:1 -37216800:0 -21488400:1 -5767200:0 9961200:1 25682400:0 41410800:1 57736800:0 73465200:1 89186400:0 104914800:1 120636000:0 126687600:1 152085600:0 162370800:1 183535200:0 199263600:1 215589600:0 230713200:1 247039200:0 262767600:1 278488800:0 294217200:1 309938400:0 325666800:1 341388000:0 357116400:1 372837600:0 388566000:1 404892000:0 420015600:1 436341600:0 452070000:1 467791200:0 483519600:1 499240800:0 514969200:1 530690400:0 544604400:1 562140000:0 576054000:1 594194400:0 607503600:1 625644000:0 638953200:1 657093600:0 671007600:1 688543200:0 702457200:1 719992800:0 733906800:1 752047200:0 765356400:1 783496800:0 796806000:1 814946400:0 828860400:1 846396000:0 860310000:1 877845600:0 891759600:1 909295200:0 923209200:1 941349600:0 954658800:1 972799200:0 986108400:1 1004248800:0 1018162800:1 1035698400:0 1049612400:1 1067148000:0 1081062000:1 1099202400:0 1112511600:1 1130652000:0 1143961200:1 1162101600:0 1173596400:1 1194156000:0 1205046000:1 1225605600:0 1236495600:1 1257055200:0 1268550000:1 1289109600:0 1299999600:1 1320559200:0 1331449200:1 1352008800:0 1362898800:1 1383458400:0 1394348400:1 1414908000:0 1425798000:1 1446357600:0 1457852400:1 1478412000:0 1489302000:1 1509861600:0 1520751600:1 1541311200:0 1552201200:1 1572760800:0 1583650800:1 1604210400:0 1615705200:1 1636264800:0 1647154800:1 1667714400:0 1678604400:1 1699164000:0 1710054000:1 1730613600:0 1741503600:1 1762063200:0 1772953200:1 1793512800:0 1805007600:1 1825567200:0 1836457200:1 1857016800:0 1867906800:1 1888466400:0 1899356400:1 1919916000:0 1930806000:1 1951365600:0 1962860400:1 1983420000:0 1994310000:1 2014869600:0 2025759600:1 2046319200:0 2057209200:1 2077768800:0 2088658800:1 2109218400:0 2120108400:1 2140668000:0|EST5EDT,M3.2.0,M11.1.0"
  , "Etc/GMT Etc/GMT+0 Etc/GMT-0 Etc/GMT0 Etc/Greenwich GMT GMT+0 GMT-0 GMT0 Greenwich|0|0||GMT0"
  , "Etc/GMT+1|0|-3600||<-01>1"
  , "Etc/GMT+10|0|-36000||<-10>10"
  , "Etc/GMT+11|0|-39600||<-11>11"
  , "Etc/GMT+12|0|-43200||<-12>12"
  , "Etc/GMT+2|0|-7200||<-02>2"
  , "Etc/GMT+3|0|-10800||<-03>3"
  , "Etc/GMT+4|0|-14400||<-04>4"
  , "Etc/GMT+5|0|-18000||<-05>5"
  , "Etc/GMT+6|0|-21600||<-06>6"
  , "Etc/GMT+7|0|-25200||<-07>7"
  , "Etc/GMT+8|0|-28800||<-08>8"
  , "Etc/GMT+9|0|-32400||<-09>9"
  , "Etc/GMT-1|0|3600||<+01>-1"
  , "Etc/GMT-10|0|36000||<+10>-10"
  , "Etc/GMT-11|0|39600||<+11>-11"
  , "Etc/GMT-12|0|43200||<+12>-12"
  , "Etc/GMT-13|0|46800||<+13>-13"
  , "Etc/GMT-14|0|50400||<+14>-14"
  , "Etc/GMT-2|0|7200||<+02>-2"
  , "Etc/GMT-3|0|10800||<+03>-3"
  , "Etc/GMT-4|0|14400||<+04>-4"
  , "Etc/GMT-5|0|18000||<+05>-5"
  , "Etc/GMT-6|0|21600||<+06>-6"
  , "Etc/GMT-7|0|25200||<+07>-7"
  , "Etc/GMT-8|0|28800||<+08>-8"
  , "Etc/GMT-9|0|32400||<+09>-9"
  , "Etc/UTC Etc/UCT Etc/Universal Etc/Zulu UCT UTC Universal Zulu localtime|0|0||UTC0"
  , "Europe/Amsterdam|0|1172 4772 1200 4800 3600 7200|-4260212372:0 -1693700372:1 -1680484772:0 -1663453172:1 -1650147572:0 -1633213172:1 -1617488372:0 -1601158772:1 -1586038772:0 -1569709172:1 -1554589172:0 -1538259572:1 -1523139572:0 -1507501172:1 -1490566772:0 -1470176372:1 -1459117172:0 -1443997172:1 -1427667572:0 -1406672372:1 -1396217972:0 -1376950772:1 -1364768372:0 -1345414772:1 -1333318772:0 -1313792372:1 -1301264372:0 -1282256372:1 -1269814772:0 -1250720372:1 -1238365172:0 -1219184372:1 -1206915572:0 -1186957172:1 -1175465972:0 -1156025972:1 -1143411572:0 -1124489972:1 -1111961972:0 -1092953972:1 -1080512372:0 -1061331572:1 -1049062772:0 -1029190772:1 -1025745572:3 -1017613200:2 -998259600:3 -986163600:2 -966723600:3 -954109200:2 -935022000:5 -857257200:4 -844556400:5 -828226800:4 -812502000:5 -796777200:4 -781052400:5 -766623600:4 228877200:5 243997200:4 260326800:5 276051600:4 291776400:5 307501200:4 323830800:5 338950800:4 354675600:5 370400400:4 386125200:5 401850000:4 417574800:5 433299600:4 449024400:5 465354000:4 481078800:5 496803600:4 512528400:5 528253200:4 543978000:5 559702800:4 575427600:5 591152400:4 606877200:5 622602000:4 638326800:5 654656400:4 670381200:5 686106000:4 701830800:5 717555600:4 733280400:5 749005200:4 764730000:5 780454800:4 796179600:5 811904400:4 828234000:5 846378000:4 859683600:5 877827600:4 891133200:5 909277200:4 922582800:5 941331600:4 954032400:5 972781200:4 985482000:5 1004230800:4 1017536400:5 1035680400:4 1048986000:5 1067130000:4 1080435600:5 1099184400:4 1111885200:5 1130634000:4 1143334800:5 1162083600:4 1174784400:5 1193533200:4 1206838800:5 1224982800:4 1238288400:5 1256432400:4 1269738000:5 1288486800:4 1301187600:5 1319936400:4 1332637200:5 1351386000:4 1364691600:5 1382835600:4 1396141200:5 1414285200:4 1427590800:5 1445734800:4 1459040400:5 1477789200:4 1490490000:5 1509238800:4 1521939600:5 1540688400:4 1553994000:5 1572138000:4 1585443600:5 1603587600:4 1616893200:5 1635642000:4 1648342800:5 1667091600:4 1679792400:5 1698541200:4 1711846800:5 1729990800:4 1743296400:5 1761440400:4 1774746000:5 1792890000:4 1806195600:5 1824944400:4 1837645200:5 1856394000:4 1869094800:5 1887843600:4 1901149200:5 1919293200:4 1932598800:5 1950742800:4 1964048400:5 1982797200:4 1995498000:5 2014246800:4 2026947600:5 2045696400:4 2058397200:5 2077146000:4 2090451600:5 2108595600:4 2121901200:5 2140045200:4|CET-1CEST,M3.5.0,M10.5.0/3"
  , "Europe/Andorra|0|364 0 3600 7200|-2177453164:1 -733881600:2 481078800:3 496803600:2 512528400:3 528253200:2 543978000:3 559702800:2 575427600:3 591152400:2 606877200:3 622602000:2 638326800:3 654656400:2 670381200:3 686106000:2 701830800:3 717555600:2 733280400:3 749005200:2 764730000:3 780454800:2 796179600:3 811904400:2 828234000:3 846378000:2 859683600:3 877827600:2 891133200:3 909277200:2 922582800:3 941331600:2 954032400:3 972781200:2 985482000:3 1004230800:2 1017536400:3 1035680400:2 1048986000:3 1067130000:2 1080435600:3 1099184400:2 1111885200:3 1130634000:2 1143334800:3 1162083600:2 1174784400:3 1193533200:2 1206838800:3 1224982800:2 1238288400:3 1256432400:2 1269738000:3 1288486800:2 1301187600:3 1319936400:2 1332637200:3 1351386000:2 1364691600:3 1382835600:2 1396141200:3 1414285200:2 1427590800:3 1445734800:2 1459040400:3 1477789200:2 1490490000:3 1509238800:2 1521939600:3 1540688400:2 1553994000:3 1572138000:2 1585443600:3 1603587600:2 1616893200:3 1635642000:2 1648342800:3 1667091600:2 1679792400:3 1698541200:2 1711846800:3 1729990800:2 1743296400:3 1761440400:2 1774746000:3 1792890000:2 1806195600:3 1824944400:2 1837645200:3 1856394000:2 1869094800:3 1887843600:2 1901149200:3 1919293200:2 1932598800:3 1950742800:2 1964048400:3 1982797200:2 1995498000:3 2014246800:2 2026947600:3 2045696400:2 2058397200:3 2077146000:2 2090451600:3 2108595600:2 2121901200:3 2140045200:2|CET-1CEST,M3.5.0,M10.5.0/3"
  , "Europe/Astrakhan|0|11532 10800 18000 14400|-1441249932:1 -1247540400:3 354916800:2 370724400:3 386452800:2 402260400:3 417988800:2 433796400:3 449611200:2 465343200:3 481068000:2 496792800:3 512517600:2 528242400:3 543967200:2 559692000:3 575416800:2 591141600:3 606866400:3 622594800:1 638319600:3 654649200:1 670374000:3 701820000:3 717548400:1 733273200:3 748998000:1 764722800:3 780447600:1 796172400:3 811897200:1 828226800:3 846370800:1 859676400:3 877820400:1 891126000:3 909270000:1 922575600:3 941324400:1 954025200:3 972774000:1 985474800:3 1004223600:1 1017529200:3 1035673200:1 1048978800:3 1067122800:1 1080428400:3 1099177200:1 1111878000:3 1130626800:1 1143327600:3 1162076400:1 1174777200:3 1193526000:1 1206831600:3 1224975600:1 1238281200:3 1256425200:1 1269730800:3 1288479600:1 1301180400:3 1414274400:1 1459033200:3 2147483647:3|<+04>-4"
  , "Europe/Athens|0|5692 10800 7200 3600|-2344642492:0 -1686101632:2 -1182996000:1 -1178161200:2 -906861600:1 -904878000:2 -857257200:3 -844477200:2 -828237600:3 -812422800:2 -552362400:1 -541652400:2 166485600:1 186184800:2 198028800:1 213753600:2 228873600:1 244080000:2 260323200:1 275446800:2 291798000:1 307407600:2 323388000:1 338936400:2 354675600:1 370400400:2 386125200:1 401850000:2 417574800:1 433299600:2 449024400:1 465354000:2 481078800:1 496803600:2 512528400:1 528253200:2 543978000:1 559702800:2 575427600:1 591152400:2 606877200:1 622602000:2 638326800:1 654656400:2 670381200:1 686106000:2 701830800:1 717555600:2 733280400:1 749005200:2 764730000:1 780454800:2 796179600:1 811904400:2 828234000:1 846378000:2 859683600:1 877827600:2 891133200:1 909277200:2 922582800:1 941331600:2 954032400:1 972781200:2 985482000:1 1004230800:2 1017536400:1 1035680400:2 1048986000:1 1067130000:2 1080435600:1 1099184400:2 1111885200:1 1130634000:2 1143334800:1 1162083600:2 1174784400:1 1193533200:2 1206838800:1 1224982800:2 1238288400:1 1256432400:2 1269738000:1 1288486800:2 1301187600:1 1319936400:2 1332637200:1 1351386000:2 1364691600:1 1382835600:2 1396141200:1 1414285200:2 1427590800:1 1445734800:2 1459040400:1 1477789200:2 1490490000:1 1509238800:2 1521939600:1 1540688400:2 1553994000:1 1572138000:2 1585443600:1 1603587600:2 1616893200:1 1635642000:2 1648342800:1 1667091600:2 1679792400:1 1698541200:2 1711846800:1 1729990800:2 1743296400:1 1761440400:2 1774746000:1 1792890000:2 1806195600:1 1824944400:2 1837645200:1 1856394000:2 1869094800:1 1887843600:2 1901149200:1 1919293200:2 1932598800:1 1950742800:2 1964048400:1 1982797200:2 1995498000:1 2014246800:2 2026947600:1 2045696400:2 2058397200:1 2077146000:2 2090451600:1 2108595600:2 2121901200:1 2140045200:2|EET-2EEST,M3.5.0/3,M10.5.0/4"
  , "Europe/Belgrade Europe/Podgorica|0|4920 3600 7200|-2713915320:1 -905824800:2 -857257200:1 -844556400:2 -828226800:1 -812502000:2 -796777200:1 -777942000:2 -766623600:1 417574800:2 433299600:1 449024400:2 465354000:1 481078800:2 496803600:1 512528400:2 528253200:1 543978000:2 559702800:1 575427600:2 591152400:1 606877200:2 622602000:1 638326800:2 654656400:1 670381200:2 686106000:1 701830800:2 717555600:1 733280400:2 749005200:1 764730000:2 780454800:1 796179600:2 811904400:1 828234000:2 846378000:1 859683600:2 877827600:1 891133200:2 909277200:1 922582800:2 941331600:1 954032400:2 972781200:1 985482000:2 1004230800:1 1017536400:2 1035680400:1 1048986000:2 1067130000:1 1080435600:2 1099184400:1 1111885200:2 1130634000:1 1143334800:2 1162083600:1 1174784400:2 1193533200:1 1206838800:2 1224982800:1 1238288400:2 1256432400:1 1269738000:2 1288486800:1 1301187600:2 1319936400:1 1332637200:2 1351386000:1 1364691600:2 1382835600:1 1396141200:2 1414285200:1 1427590800:2 1445734800:1 1459040400:2 1477789200:1 1490490000:2 1509238800:1 1521939600:2 1540688400:1 1553994000:2 1572138000:1 1585443600:2 1603587600:1 1616893200:2 1635642000:1 1648342800:2 1667091600:1 1679792400:2 1698541200:1 1711846800:2 1729990800:1 1743296400:2 1761440400:1 1774746000:2 1792890000:1 1806195600:2 1824944400:1 1837645200:2 1856394000:1 1869094800:2 1887843600:1 1901149200:2 1919293200:1 1932598800:2 1950742800:1 1964048400:2 1982797200:1 1995498000:2 2014246800:1 2026947600:2 2045696400:1 2058397200:2 2077146000:1 2090451600:2 2108595600:1 2121901200:2 2140045200:1|CET-1CEST,M3.5.0,M10.5.0/3"
  , "Europe/Berlin|0|3208 7200 3600 10800|-2422054408:2 -1693706400:1 -1680483600:2 -1663455600:1 -1650150000:2 -1632006000:1 -1618700400:2 -938905200:1 -857257200:2 -844556400:1 -828226800:2 -812502000:1 -796777200:2 -781052400:1 -776563200:3 -765936000:1 -761180400:2 -748479600:1 -733273200:2 -717631200:1 -714610800:3 -710380800:1 -701910000:2 -684975600:1 -670460400:2 -654130800:1 -639010800:2 323830800:1 338950800:2 354675600:1 370400400:2 386125200:1 401850000:2 417574800:1 433299600:2 449024400:1 465354000:2 481078800:1 496803600:2 512528400:1 528253200:2 543978000:1 559702800:2 575427600:1 591152400:2 606877200:1 622602000:2 638326800:1 654656400:2 670381200:1 686106000:2 701830800:1 717555600:2 733280400:1 749005200:2 764730000:1 780454800:2 796179600:1 811904400:2 828234000:1 846378000:2 859683600:1 877827600:2 891133200:1 909277200:2 922582800:1 941331600:2 954032400:1 972781200:2 985482000:1 1004230800:2 1017536400:1 1035680400:2 1048986000:1 1067130000:2 1080435600:1 1099184400:2 1111885200:1 1130634000:2 1143334800:1 1162083600:2 1174784400:1 1193533200:2 1206838800:1 1224982800:2 1238288400:1 1256432400:2 1269738000:1 1288486800:2 1301187600:1 1319936400:2 1332637200:1 1351386000:2 1364691600:1 1382835600:2 1396141200:1 1414285200:2 1427590800:1 1445734800:2 1459040400:1 1477789200:2 1490490000:1 1509238800:2 1521939600:1 1540688400:2 1553994000:1 1572138000:2 1585443600:1 1603587600:2 1616893200:1 1635642000:2 1648342800:1 1667091600:2 1679792400:1 1698541200:2 1711846800:1 1729990800:2 1743296400:1 1761440400:2 1774746000:1 1792890000:2 1806195600:1 1824944400:2 1837645200:1 1856394000:2 1869094800:1 1887843600:2 1901149200:1 1919293200:2 1932598800:1 1950742800:2 1964048400:1 1982797200:2 1995498000:1 2014246800:2 2026947600:1 2045696400:2 2058397200:1 2077146000:2 2090451600:1 2108595600:2 2121901200:1 2140045200:2|CET-1CEST,M3.5.0,M10.5.0/3"
  , "Europe/Brussels|0|1050 0 3600 7200|-2840141850:0 -2450995200:1 -1740355200:2 -1693702800:3 -1680483600:2 -1663455600:3 -1650150000:2 -1632006000:3 -1618700400:2 -1613826000:1 -1604278800:2 -1585530000:1 -1574038800:2 -1552266000:1 -1539997200:2 -1520557200:1 -1507510800:2 -1490576400:1 -1473642000:2 -1459126800:1 -1444006800:2 -1427677200:1 -1411952400:2 -1396227600:1 -1379293200:2 -1364778000:1 -1348448400:2 -1333328400:1 -1316394000:2 -1301263200:1 -1284328800:2 -1269813600:1 -1253484000:2 -1238364000:1 -1221429600:2 -1206914400:1 -1191189600:2 -1175464800:1 -1160344800:2 -1143410400:1 -1127685600:2 -1111960800:1 -1096840800:2 -1080511200:1 -1063576800:2 -1049061600:1 -1033336800:2 -1017612000:1 -1002492000:2 -986162400:1 -969228000:2 -950479200:1 -942012000:2 -934668000:3 -857257200:2 -844556400:3 -828226800:2 -812502000:3 -798073200:2 -781052400:3 -766623600:2 -745455600:3 -733273200:2 228877200:3 243997200:2 260326800:3 276051600:2 291776400:3 307501200:2 323830800:3 338950800:2 354675600:3 370400400:2 386125200:3 401850000:2 417574800:3 433299600:2 449024400:3 465354000:2 481078800:3 496803600:2 512528400:3 528253200:2 543978000:3 559702800:2 575427600:3 591152400:2 606877200:3 622602000:2 638326800:3 654656400:2 670381200:3 686106000:2 701830800:3 717555600:2 733280400:3 749005200:2 764730000:3 780454800:2 796179600:3 811904400:2 828234000:3 846378000:2 859683600:3 877827600:2 891133200:3 909277200:2 922582800:3 941331600:2 954032400:3 972781200:2 985482000:3 1004230800:2 1017536400:3 1035680400:2 1048986000:3 1067130000:2 1080435600:3 1099184400:2 1111885200:3 1130634000:2 1143334800:3 1162083600:2 1174784400:3 1193533200:2 1206838800:3 1224982800:2 1238288400:3 1256432400:2 1269738000:3 1288486800:2 1301187600:3 1319936400:2 1332637200:3 1351386000:2 1364691600:3 1382835600:2 1396141200:3 1414285200:2 1427590800:3 1445734800:2 1459040400:3 1477789200:2 1490490000:3 1509238800:2 1521939600:3 1540688400:2 1553994000:3 1572138000:2 1585443600:3 1603587600:2 1616893200:3 1635642000:2 1648342800:3 1667091600:2 1679792400:3 1698541200:2 1711846800:3 1729990800:2 1743296400:3 1761440400:2 1774746000:3 1792890000:2 1806195600:3 1824944400:2 1837645200:3 1856394000:2 1869094800:3 1887843600:2 1901149200:3 1919293200:2 1932598800:3 1950742800:2 1964048400:3 1982797200:2 1995498000:3 2014246800:2 2026947600:3 2045696400:2 2058397200:3 2077146000:2 2090451600:3 2108595600:2 2121901200:3 2140045200:2|CET-1CEST,M3.5.0,M10.5.0/3"
  , "Europe/Bucharest|0|6264 10800 7200|-2469404664:0 -1213148664:2 -1187056800:1 -1175479200:2 -1159754400:1 -1144029600:2 -1127700000:1 -1111975200:2 -1096250400:1 -1080525600:2 -1064800800:1 -1049076000:2 -1033351200:1 -1017626400:2 -1001901600:1 -986176800:2 -970452000:1 -954727200:2 296604000:1 307486800:2 323816400:1 338940000:2 354672000:1 370396800:2 386121600:1 401846400:2 417571200:1 433296000:2 449020800:1 465350400:2 481075200:1 496800000:2 512524800:1 528249600:2 543974400:1 559699200:2 575424000:1 591148800:2 606873600:1 622598400:2 638323200:1 654652800:2 670370400:1 686095200:2 701820000:1 717544800:2 733269600:1 748994400:2 764719200:1 780440400:2 796168800:1 811890000:2 828223200:1 846363600:2 859683600:1 877827600:2 891133200:1 909277200:2 922582800:1 941331600:2 954032400:1 972781200:2 985482000:1 1004230800:2 1017536400:1 1035680400:2 1048986000:1 1067130000:2 1080435600:1 1099184400:2 1111885200:1 1130634000:2 1143334800:1 1162083600:2 1174784400:1 1193533200:2 1206838800:1 1224982800:2 1238288400:1 1256432400:2 1269738000:1 1288486800:2 1301187600:1 1319936400:2 1332637200:1 1351386000:2 1364691600:1 1382835600:2 1396141200:1 1414285200:2 1427590800:1 1445734800:2 1459040400:1 1477789200:2 1490490000:1 1509238800:2 1521939600:1 1540688400:2 1553994000:1 1572138000:2 1585443600:1 1603587600:2 1616893200:1 1635642000:2 1648342800:1 1667091600:2 1679792400:1 1698541200:2 1711846800:1 1729990800:2 1743296400:1 1761440400:2 1774746000:1 1792890000:2 1806195600:1 1824944400:2 1837645200:1 1856394000:2 1869094800:1 1887843600:2 1901149200:1 1919293200:2 1932598800:1 1950742800:2 1964048400:1 1982797200:2 1995498000:1 2014246800:2 2026947600:1 2045696400:2 2058397200:1 2077146000:2 2090451600:1 2108595600:2 2121901200:1 2140045200:2|EET-2EEST,M3.5.0/3,M10.5.0/4"
  , "Europe/Budapest|0|4580 7200 3600|-2498260580:2 -1693706400:1 -1680483600:2 -1663455600:1 -1650150000:2 -1632006000:1 -1618700400:2 -1600470000:1 -1587250800:2 -1569711600:1 -1555196400:2 -906775200:1 -857257200:2 -844556400:1 -828226800:2 -812502000:1 -796777200:2 -778471200:1 -762656400:2 -749689200:1 -733276800:2 -717634800:1 -701910000:2 -686185200:1 -670460400:2 -654130800:1 -639010800:2 -492656400:1 -481168800:2 -461199600:1 -449708400:2 -428540400:1 -418258800:2 -397090800:1 -386809200:2 323823600:1 338943600:2 354668400:1 370393200:2 386118000:1 401842800:2 417567600:1 433292400:2 449024400:1 465354000:2 481078800:1 496803600:2 512528400:1 528253200:2 543978000:1 559702800:2 575427600:1 591152400:2 606877200:1 622602000:2 638326800:1 654656400:2 670381200:1 686106000:2 701830800:1 717555600:2 733280400:1 749005200:2 764730000:1 780454800:2 796179600:1 811904400:2 828234000:1 846378000:2 859683600:1 877827600:2 891133200:1 909277200:2 922582800:1 941331600:2 954032400:1 972781200:2 985482000:1 1004230800:2 1017536400:1 1035680400:2 1048986000:1 1067130000:2 1080435600:1 1099184400:2 1111885200:1 1130634000:2 1143334800:1 1162083600:2 1174784400:1 1193533200:2 1206838800:1 1224982800:2 1238288400:1 1256432400:2 1269738000:1 1288486800:2 1301187600:1 1319936400:2 1332637200:1 1351386000:2 1364691600:1 1382835600:2 1396141200:1 1414285200:2 1427590800:1 1445734800:2 1459040400:1 1477789200:2 1490490000:1 1509238800:2 1521939600:1 1540688400:2 1553994000:1 1572138000:2 1585443600:1 1603587600:2 1616893200:1 1635642000:2 1648342800:1 1667091600:2 1679792400:1 1698541200:2 1711846800:1 1729990800:2 1743296400:1 1761440400:2 1774746000:1 1792890000:2 1806195600:1 1824944400:2 1837645200:1 1856394000:2 1869094800:1 1887843600:2 1901149200:1 1919293200:2 1932598800:1 1950742800:2 1964048400:1 1982797200:2 1995498000:1 2014246800:2 2026947600:1 2045696400:2 2058397200:1 2077146000:2 2090451600:1 2108595600:2 2121901200:1 2140045200:2|CET-1CEST,M3.5.0,M10.5.0/3"
  , "Europe/Chisinau Europe/Tiraspol|0|6920 6900 6264 10800 7200 3600 14400|-2840147720:1 -1637114100:2 -1213148664:4 -1187056800:3 -1175479200:4 -1159754400:3 -1144029600:4 -1127700000:3 -1111975200:4 -1096250400:3 -1080525600:4 -1064800800:3 -1049076000:4 -1033351200:3 -1017626400:4 -1001901600:3 -986176800:4 -970452000:3 -954727200:4 -927165600:3 -898138800:4 -857257200:5 -844556400:4 -828226800:5 -812502000:4 -800157600:3 354920400:6 370728000:3 386456400:6 402264000:3 417992400:6 433800000:3 449614800:6 465346800:3 481071600:6 496796400:3 512521200:6 528246000:3 543970800:6 559695600:3 575420400:6 591145200:3 606870000:6 622594800:3 638319600:6 641944800:3 654652800:4 670377600:3 686102400:4 701820000:3 717541200:4 733269600:3 748990800:4 764719200:3 780440400:4 796168800:3 811890000:4 828223200:3 846363600:4 859680000:3 877824000:4 891129600:3 909273600:4 922579200:3 941328000:4 954028800:3 972777600:4 985478400:3 1004227200:4 1017532800:3 1035676800:4 1048982400:3 1067126400:4 1080432000:3 1099180800:4 1111881600:3 1130630400:4 1143331200:3 1162080000:4 1174780800:3 1193529600:4 1206835200:3 1224979200:4 1238284800:3 1256428800:4 1269734400:3 1288483200:4 1301184000:3 1319932800:4 1332633600:3 1351382400:4 1364688000:3 1382832000:4 1396137600:3 1414281600:4 1427587200:3 1445731200:4 1459036800:3 1477785600:4 1490486400:3 1509235200:4 1521936000:3 1540684800:4 1553990400:3 1572134400:4 1585440000:3 1603584000:4 1616889600:3 1635638400:4 1648342800:3 1667091600:4 1679792400:3 1698541200:4 1711846800:3 1729990800:4 1743296400:3 1761440400:4 1774746000:3 1792890000:4 1806195600:3 1824944400:4 1837645200:3 1856394000:4 1869094800:3 1887843600:4 1901149200:3 1919293200:4 1932598800:3 1950742800:4 1964048400:3 1982797200:4 1995498000:3 2014246800:4 2026947600:3 2045696400:4 2058397200:3 2077146000:4 2090451600:3 2108595600:4 2121901200:3 2140045200:4|EET-2EEST,M3.5.0/3,M10.5.0/4"
  , "Europe/Copenhagen|0|3020 7200 3600|-2524524620:0 -2398294220:2 -1692496800:1 -1680490800:2 -935110800:1 -857257200:2 -844556400:1 -828226800:2 -812502000:1 -796777200:2 -781052400:1 -769388400:2 -747010800:1 -736383600:2 -715215600:1 -706748400:2 -683161200:1 -675298800:2 323830800:1 338950800:2 354675600:1 370400400:2 386125200:1 401850000:2 417574800:1 433299600:2 449024400:1 465354000:2 481078800:1 496803600:2 512528400:1 528253200:2 543978000:1 559702800:2 575427600:1 591152400:2 606877200:1 622602000:2 638326800:1 654656400:2 670381200:1 686106000:2 701830800:1 717555600:2 733280400:1 749005200:2 764730000:1 780454800:2 796179600:1 811904400:2 828234000:1 846378000:2 859683600:1 877827600:2 891133200:1 909277200:2 922582800:1 941331600:2 954032400:1 972781200:2 985482000:1 1004230800:2 1017536400:1 1035680400:2 1048986000:1 1067130000:2 1080435600:1 1099184400:2 1111885200:1 1130634000:2 1143334800:1 1162083600:2 1174784400:1 1193533200:2 1206838800:1 1224982800:2 1238288400:1 1256432400:2 1269738000:1 1288486800:2 1301187600:1 1319936400:2 1332637200:1 1351386000:2 1364691600:1 1382835600:2 1396141200:1 1414285200:2 1427590800:1 1445734800:2 1459040400:1 1477789200:2 1490490000:1 1509238800:2 1521939600:1 1540688400:2 1553994000:1 1572138000:2 1585443600:1 1603587600:2 1616893200:1 1635642000:2 1648342800:1 1667091600:2 1679792400:1 1698541200:2 1711846800:1 1729990800:2 1743296400:1 1761440400:2 1774746000:1 1792890000:2 1806195600:1 1824944400:2 1837645200:1 1856394000:2 1869094800:1 1887843600:2 1901149200:1 1919293200:2 1932598800:1 1950742800:2 1964048400:1 1982797200:2 1995498000:1 2014246800:2 2026947600:1 2045696400:2 2058397200:1 2077146000:2 2090451600:1 2108595600:2 2121901200:1 2140045200:2|CET-1CEST,M3.5.0,M10.5.0/3"
  , "Europe/Dublin Eire|0|-1521 2079 3600 0|-2821649679:0 -1691962479:1 -1680471279:3 -1664143200:2 -1650146400:3 -1633903200:2 -1617487200:3 -1601848800:2 -1586037600:3 -1570399200:2 -1552168800:3 -1538344800:2 -1522533600:3 -1507500000:2 -1490565600:3 -1473631200:2 -1460930400:3 -1442786400:2 -1428876000:3 -1410732000:2 -1396216800:3 -1379282400:2 -1364767200:3 -1348437600:2 -1333317600:3 -1315778400:2 -1301263200:3 -1284328800:2 -1269813600:3 -1253484000:2 -1238364000:3 -1221429600:2 -1206914400:3 -1189980000:2 -1175464800:3 -1159135200:2 -1143410400:3 -1126476000:2 -1111960800:3 -1095631200:2 -1080511200:3 -1063576800:2 -1049061600:3 -1032127200:2 -1017612000:3 -1001282400:2 -986162400:3 -969228000:2 -950479200:3 -942012000:2 -733356000:3 -719445600:2 -699487200:3 -684972000:2 -668037600:3 -654732000:2 -636588000:3 -622072800:2 -605743200:3 -590623200:2 -574293600:3 -558568800:2 -542239200:3 -527119200:2 -512604000:3 -496274400:2 -481154400:3 -464220000:2 -449704800:3 -432165600:2 -417650400:3 -401320800:2 -386200800:3 -369266400:2 -354751200:3 -337816800:2 -323301600:3 -306972000:2 -291852000:3 -276732000:2 -257983200:3 -245282400:2 -226533600:3 -213228000:2 -195084000:3 -182383200:2 -163634400:3 -150933600:2 -132184800:3 -119484000:2 -100735200:3 -88034400:2 -68680800:3 -59004000:2 -37242000:2 57722400:3 69818400:2 89172000:3 101268000:2 120621600:3 132717600:2 152071200:3 164167200:2 183520800:3 196221600:2 214970400:3 227671200:2 246420000:3 259120800:2 278474400:3 290570400:2 309924000:3 322020000:2 341373600:3 354675600:2 372819600:3 386125200:2 404269200:3 417574800:2 435718800:3 449024400:2 467773200:3 481078800:2 499222800:3 512528400:2 530672400:3 543978000:2 562122000:3 575427600:2 593571600:3 606877200:2 625626000:3 638326800:2 657075600:3 670381200:2 688525200:3 701830800:2 719974800:3 733280400:2 751424400:3 764730000:2 782874000:3 796179600:2 814323600:3 828234000:2 846378000:3 859683600:2 877827600:3 891133200:2 909277200:3 922582800:2 941331600:3 954032400:2 972781200:3 985482000:2 1004230800:3 1017536400:2 1035680400:3 1048986000:2 1067130000:3 1080435600:2 1099184400:3 1111885200:2 1130634000:3 1143334800:2 1162083600:3 1174784400:2 1193533200:3 1206838800:2 1224982800:3 1238288400:2 1256432400:3 1269738000:2 1288486800:3 1301187600:2 1319936400:3 1332637200:2 1351386000:3 1364691600:2 1382835600:3 1396141200:2 1414285200:3 1427590800:2 1445734800:3 1459040400:2 1477789200:3 1490490000:2 1509238800:3 1521939600:2 1540688400:3 1553994000:2 1572138000:3 1585443600:2 1603587600:3 1616893200:2 1635642000:3 1648342800:2 1667091600:3 1679792400:2 1698541200:3 1711846800:2 1729990800:3 1743296400:2 1761440400:3 1774746000:2 1792890000:3 1806195600:2 1824944400:3 1837645200:2 1856394000:3 1869094800:2 1887843600:3 1901149200:2 1919293200:3 1932598800:2 1950742800:3 1964048400:2 1982797200:3 1995498000:2 2014246800:3 2026947600:2 2045696400:3 2058397200:2 2077146000:3 2090451600:2 2108595600:3 2121901200:2 2140045200:3|GMT0IST,M3.5.0/1,M10.5.0"
  , "Europe/Gibraltar|0|-1284 3600 0 7200|-2821649916:2 -1691964000:1 -1680472800:2 -1664143200:1 -1650146400:2 -1633903200:1 -1617487200:2 -1601848800:1 -1586037600:2 -1570399200:1 -1552168800:2 -1538344800:1 -1522533600:2 -1507500000:1 -1490565600:2 -1473631200:1 -1460930400:2 -1442786400:1 -1428876000:2 -1410732000:1 -1396216800:2 -1379282400:1 -1364767200:2 -1348437600:1 -1333317600:2 -1315778400:1 -1301263200:2 -1284328800:1 -1269813600:2 -1253484000:1 -1238364000:2 -1221429600:1 -1206914400:2 -1189980000:1 -1175464800:2 -1159135200:1 -1143410400:2 -1126476000:1 -1111960800:2 -1095631200:1 -1080511200:2 -1063576800:1 -1049061600:2 -1032127200:1 -1017612000:2 -1001282400:1 -986162400:2 -969228000:1 -950479200:2 -942012000:1 -904518000:3 -896050800:1 -875487600:3 -864601200:1 -844038000:3 -832546800:1 -812588400:3 -798073200:1 -781052400:3 -772066800:1 -764805600:2 -748476000:1 -733356000:2 -719445600:1 -717030000:3 -706748400:1 -699487200:2 -687996000:1 -668037600:2 -654732000:1 -636588000:2 -622072800:1 -605743200:2 -590623200:1 -574293600:2 -558568800:1 -542239200:2 -527119200:1 -512604000:2 -496274400:1 -481154400:2 -464220000:1 -449704800:2 -432165600:1 -417650400:2 -401320800:1 386125200:3 401850000:1 417574800:3 433299600:1 449024400:3 465354000:1 481078800:3 496803600:1 512528400:3 528253200:1 543978000:3 559702800:1 575427600:3 591152400:1 606877200:3 622602000:1 638326800:3 654656400:1 670381200:3 686106000:1 701830800:3 717555600:1 733280400:3 749005200:1 764730000:3 780454800:1 796179600:3 811904400:1 828234000:3 846378000:1 859683600:3 877827600:1 891133200:3 909277200:1 922582800:3 941331600:1 954032400:3 972781200:1 985482000:3 1004230800:1 1017536400:3 1035680400:1 1048986000:3 1067130000:1 1080435600:3 1099184400:1 1111885200:3 1130634000:1 1143334800:3 1162083600:1 1174784400:3 1193533200:1 1206838800:3 1224982800:1 1238288400:3 1256432400:1 1269738000:3 1288486800:1 1301187600:3 1319936400:1 1332637200:3 1351386000:1 1364691600:3 1382835600:1 1396141200:3 1414285200:1 1427590800:3 1445734800:1 1459040400:3 1477789200:1 1490490000:3 1509238800:1 1521939600:3 1540688400:1 1553994000:3 1572138000:1 1585443600:3 1603587600:1 1616893200:3 1635642000:1 1648342800:3 1667091600:1 1679792400:3 1698541200:1 1711846800:3 1729990800:1 1743296400:3 1761440400:1 1774746000:3 1792890000:1 1806195600:3 1824944400:1 1837645200:3 1856394000:1 1869094800:3 1887843600:1 1901149200:3 1919293200:1 1932598800:3 1950742800:1 1964048400:3 1982797200:1 1995498000:3 2014246800:1 2026947600:3 2045696400:1 2058397200:3 2077146000:1 2090451600:3 2108595600:1 2121901200:3 2140045200:1|CET-1CEST,M3.5.0,M10.5.0/3"
  , "Europe/Guernsey|0|-609 3600 0 7200|-1784245791:2 -1691964000:1 -1680472800:2 -1664143200:1 -1650146400:2 -1633903200:1 -1617487200:2 -1601848800:1 -1586037600:2 -1570399200:1 -1552168800:2 -1538344800:1 -1522533600:2 -1507500000:1 -1490565600:2 -1473631200:1 -1460930400:2 -1442786400:1 -1428876000:2 -1410732000:1 -1396216800:2 -1379282400:1 -1364767200:2 -1348437600:1 -1333317600:2 -1315778400:1 -1301263200:2 -1284328800:1 -1269813600:2 -1253484000:1 -1238364000:2 -1221429600:1 -1206914400:2 -1189980000:1 -1175464800:2 -1159135200:1 -1143410400:2 -1126476000:1 -1111960800:2 -1095631200:1 -1080511200:2 -1063576800:1 -1049061600:2 -1032127200:1 -1017612000:2 -1001282400:1 -986162400:2 -969228000:1 -950479200:2 -942012000:1 -930963600:3 -857257200:1 -844556400:3 -828226800:1 -812502000:3 -796777200:1 -781052400:3 -777952800:3 -772066800:1 -764805600:2 -748476000:1 -733356000:2 -719445600:1 -717030000:3 -706748400:1 -699487200:2 -687996000:1 -668037600:2 -654732000:1 -636588000:2 -622072800:1 -605743200:2 -590623200:1 -574293600:2 -558568800:1 -542239200:2 -527119200:1 -512604000:2 -496274400:1 -481154400:2 -464220000:1 -449704800:2 -432165600:1 -417650400:2 -401320800:1 -386200800:2 -369266400:1 -354751200:2 -337816800:1 -323301600:2 -306972000:1 -291852000:2 -276732000:1 -257983200:2 -245282400:1 -226533600:2 -213228000:1 -195084000:2 -182383200:1 -163634400:2 -150933600:1 -132184800:2 -119484000:1 -100735200:2 -88034400:1 -68680800:2 -59004000:1 -37242000:1 57722400:2 69818400:1 89172000:2 101268000:1 120621600:2 132717600:1 152071200:2 164167200:1 183520800:2 196221600:1 214970400:2 227671200:1 246420000:2 259120800:1 278474400:2 290570400:1 309924000:2 322020000:1 341373600:2 354675600:1 372819600:2 386125200:1 404269200:2 417574800:1 435718800:2 449024400:1 467773200:2 481078800:1 499222800:2 512528400:1 530672400:2 543978000:1 562122000:2 575427600:1 593571600:2 606877200:1 625626000:2 638326800:1 657075600:2 670381200:1 688525200:2 701830800:1 719974800:2 733280400:1 751424400:2 764730000:1 782874000:2 796179600:1 814323600:2 828234000:1 846378000:2 859683600:1 877827600:2 891133200:1 909277200:2 922582800:1 941331600:2 954032400:1 972781200:2 985482000:1 1004230800:2 1017536400:1 1035680400:2 1048986000:1 1067130000:2 1080435600:1 1099184400:2 1111885200:1 1130634000:2 1143334800:1 1162083600:2 1174784400:1 1193533200:2 1206838800:1 1224982800:2 1238288400:1 1256432400:2 1269738000:1 1288486800:2 1301187600:1 1319936400:2 1332637200:1 1351386000:2 1364691600:1 1382835600:2 1396141200:1 1414285200:2 1427590800:1 1445734800:2 1459040400:1 1477789200:2 1490490000:1 1509238800:2 1521939600:1 1540688400:2 1553994000:1 1572138000:2 1585443600:1 1603587600:2 1616893200:1 1635642000:2 1648342800:1 1667091600:2 1679792400:1 1698541200:2 1711846800:1 1729990800:2 1743296400:1 1761440400:2 1774746000:1 1792890000:2 1806195600:1 1824944400:2 1837645200:1 1856394000:2 1869094800:1 1887843600:2 1901149200:1 1919293200:2 1932598800:1 1950742800:2 1964048400:1 1982797200:2 1995498000:1 2014246800:2 2026947600:1 2045696400:2 2058397200:1 2077146000:2 2090451600:1 2108595600:2 2121901200:1 2140045200:2|GMT0BST,M3.5.0/1,M10.5.0"
  , "Europe/Helsinki Europe/Mariehamn|0|5989 10800 7200|-2890258789:0 -1535938789:2 -875671200:1 -859773600:2 354672000:1 370396800:2 386121600:1 401846400:2 417574800:1 433299600:2 449024400:1 465354000:2 481078800:1 496803600:2 512528400:1 528253200:2 543978000:1 559702800:2 575427600:1 591152400:2 606877200:1 622602000:2 638326800:1 654656400:2 670381200:1 686106000:2 701830800:1 717555600:2 733280400:1 749005200:2 764730000:1 780454800:2 796179600:1 811904400:2 828234000:1 846378000:2 859683600:1 877827600:2 891133200:1 909277200:2 922582800:1 941331600:2 954032400:1 972781200:2 985482000:1 1004230800:2 1017536400:1 1035680400:2 1048986000:1 1067130000:2 1080435600:1 1099184400:2 1111885200:1 1130634000:2 1143334800:1 1162083600:2 1174784400:1 1193533200:2 1206838800:1 1224982800:2 1238288400:1 1256432400:2 1269738000:1 1288486800:2 1301187600:1 1319936400:2 1332637200:1 1351386000:2 1364691600:1 1382835600:2 1396141200:1 1414285200:2 1427590800:1 1445734800:2 1459040400:1 1477789200:2 1490490000:1 1509238800:2 1521939600:1 1540688400:2 1553994000:1 1572138000:2 1585443600:1 1603587600:2 1616893200:1 1635642000:2 1648342800:1 1667091600:2 1679792400:1 1698541200:2 1711846800:1 1729990800:2 1743296400:1 1761440400:2 1774746000:1 1792890000:2 1806195600:1 1824944400:2 1837645200:1 1856394000:2 1869094800:1 1887843600:2 1901149200:1 1919293200:2 1932598800:1 1950742800:2 1964048400:1 1982797200:2 1995498000:1 2014246800:2 2026947600:1 2045696400:2 2058397200:1 2077146000:2 2090451600:1 2108595600:2 2121901200:1 2140045200:2|EET-2EEST,M3.5.0/3,M10.5.0/4"
  , "Europe/Isle_of_Man|0|-1075 3600 0 7200|-2737842125:2 -1691964000:1 -1680472800:2 -1664143200:1 -1650146400:2 -1633903200:1 -1617487200:2 -1601848800:1 -1586037600:2 -1570399200:1 -1552168800:2 -1538344800:1 -1522533600:2 -1507500000:1 -1490565600:2 -1473631200:1 -1460930400:2 -1442786400:1 -1428876000:2 -1410732000:1 -1396216800:2 -1379282400:1 -1364767200:2 -1348437600:1 -1333317600:2 -1315778400:1 -1301263200:2 -1284328800:1 -1269813600:2 -1253484000:1 -1238364000:2 -1221429600:1 -1206914400:2 -1189980000:1 -1175464800:2 -1159135200:1 -1143410400:2 -1126476000:1 -1111960800:2 -1095631200:1 -1080511200:2 -1063576800:1 -1049061600:2 -1032127200:1 -1017612000:2 -1001282400:1 -986162400:2 -969228000:1 -950479200:2 -942012000:1 -904518000:3 -896050800:1 -875487600:3 -864601200:1 -844038000:3 -832546800:1 -812588400:3 -798073200:1 -781052400:3 -772066800:1 -764805600:2 -748476000:1 -733356000:2 -719445600:1 -717030000:3 -706748400:1 -699487200:2 -687996000:1 -668037600:2 -654732000:1 -636588000:2 -622072800:1 -605743200:2 -590623200:1 -574293600:2 -558568800:1 -542239200:2 -527119200:1 -512604000:2 -496274400:1 -481154400:2 -464220000:1 -449704800:2 -432165600:1 -417650400:2 -401320800:1 -386200800:2 -369266400:1 -354751200:2 -337816800:1 -323301600:2 -306972000:1 -291852000:2 -276732000:1 -257983200:2 -245282400:1 -226533600:2 -213228000:1 -195084000:2 -182383200:1 -163634400:2 -150933600:1 -132184800:2 -119484000:1 -100735200:2 -88034400:1 -68680800:2 -59004000:1 -37242000:1 57722400:2 69818400:1 89172000:2 101268000:1 120621600:2 132717600:1 152071200:2 164167200:1 183520800:2 196221600:1 214970400:2 227671200:1 246420000:2 259120800:1 278474400:2 290570400:1 309924000:2 322020000:1 341373600:2 354675600:1 372819600:2 386125200:1 404269200:2 417574800:1 435718800:2 449024400:1 467773200:2 481078800:1 499222800:2 512528400:1 530672400:2 543978000:1 562122000:2 575427600:1 593571600:2 606877200:1 625626000:2 638326800:1 657075600:2 670381200:1 688525200:2 701830800:1 719974800:2 733280400:1 751424400:2 764730000:1 782874000:2 796179600:1 814323600:2 828234000:1 846378000:2 859683600:1 877827600:2 891133200:1 909277200:2 922582800:1 941331600:2 954032400:1 972781200:2 985482000:1 1004230800:2 1017536400:1 1035680400:2 1048986000:1 1067130000:2 1080435600:1 1099184400:2 1111885200:1 1130634000:2 1143334800:1 1162083600:2 1174784400:1 1193533200:2 1206838800:1 1224982800:2 1238288400:1 1256432400:2 1269738000:1 1288486800:2 1301187600:1 1319936400:2 1332637200:1 1351386000:2 1364691600:1 1382835600:2 1396141200:1 1414285200:2 1427590800:1 1445734800:2 1459040400:1 1477789200:2 1490490000:1 1509238800:2 1521939600:1 1540688400:2 1553994000:1 1572138000:2 1585443600:1 1603587600:2 1616893200:1 1635642000:2 1648342800:1 1667091600:2 1679792400:1 1698541200:2 1711846800:1 1729990800:2 1743296400:1 1761440400:2 1774746000:1 1792890000:2 1806195600:1 1824944400:2 1837645200:1 1856394000:2 1869094800:1 1887843600:2 1901149200:1 1919293200:2 1932598800:1 1950742800:2 1964048400:1 1982797200:2 1995498000:1 2014246800:2 2026947600:1 2045696400:2 2058397200:1 2077146000:2 2090451600:1 2108595600:2 2121901200:1 2140045200:2|GMT0BST,M3.5.0/1,M10.5.0"
  , "Europe/Istanbul Asia/Istanbul Turkey|0|6952 7016 10800 7200 14400|-2840147752:1 -1869875816:3 -1693706400:2 -1680490800:3 -1570413600:2 -1552186800:3 -1538359200:2 -1522551600:3 -1507514400:2 -1490583600:3 -1440208800:2 -1428030000:3 -1409709600:2 -1396494000:3 -931053600:2 -922676400:3 -917834400:2 -892436400:3 -875844000:2 -764737200:3 -744343200:2 -733806000:3 -716436000:2 -701924400:3 -684986400:2 -670474800:3 -654141600:2 -639025200:3 -622087200:2 -606970800:3 -590032800:2 -575521200:3 -235620000:2 -194842800:3 -177732000:2 -165726000:3 107910000:2 121215600:3 133920000:2 152665200:3 164678400:2 184114800:3 196214400:2 215564400:3 228873600:2 245804400:3 260323200:2 267915600:2 428454000:4 433893600:2 468111600:3 482799600:2 496710000:3 512521200:2 528246000:3 543970800:2 559695600:3 575420400:2 591145200:3 606870000:2 622594800:3 638319600:2 654649200:3 670374000:2 686098800:3 701823600:2 717548400:3 733273200:2 748998000:3 764118000:2 780447600:3 796172400:2 811897200:3 828226800:2 846370800:3 859676400:2 877820400:3 891126000:2 909270000:3 922575600:2 941324400:3 954025200:2 972774000:3 985474800:2 1004223600:3 1017529200:2 1035673200:3 1048978800:2 1067122800:3 1080428400:2 1099177200:3 1111878000:2 1130626800:3 1143327600:2 1162076400:3 1174784400:2 1193533200:3 1206838800:2 1224982800:3 1238288400:2 1256432400:3 1269738000:2 1288486800:3 1301274000:2 1319936400:3 1332637200:2 1351386000:3 1364691600:2 1382835600:3 1396227600:2 1414285200:3 1427590800:2 1446944400:3 1459040400:2 1473195600:2 2147483647:2|<+03>-3"
  , "Europe/Jersey|0|-506 3600 0 7200|-2258092800:2 -1691964000:1 -1680472800:2 -1664143200:1 -1650146400:2 -1633903200:1 -1617487200:2 -1601848800:1 -1586037600:2 -1570399200:1 -1552168800:2 -1538344800:1 -1522533600:2 -1507500000:1 -1490565600:2 -1473631200:1 -1460930400:2 -1442786400:1 -1428876000:2 -1410732000:1 -1396216800:2 -1379282400:1 -1364767200:2 -1348437600:1 -1333317600:2 -1315778400:1 -1301263200:2 -1284328800:1 -1269813600:2 -1253484000:1 -1238364000:2 -1221429600:1 -1206914400:2 -1189980000:1 -1175464800:2 -1159135200:1 -1143410400:2 -1126476000:1 -1111960800:2 -1095631200:1 -1080511200:2 -1063576800:1 -1049061600:2 -1032127200:1 -1017612000:2 -1001282400:1 -986162400:2 -969228000:1 -950479200:2 -942012000:1 -930963600:3 -857257200:1 -844556400:3 -828226800:1 -812502000:3 -796777200:1 -781052400:3 -777952800:3 -772066800:1 -764805600:2 -748476000:1 -733356000:2 -719445600:1 -717030000:3 -706748400:1 -699487200:2 -687996000:1 -668037600:2 -654732000:1 -636588000:2 -622072800:1 -605743200:2 -590623200:1 -574293600:2 -558568800:1 -542239200:2 -527119200:1 -512604000:2 -496274400:1 -481154400:2 -464220000:1 -449704800:2 -432165600:1 -417650400:2 -401320800:1 -386200800:2 -369266400:1 -354751200:2 -337816800:1 -323301600:2 -306972000:1 -291852000:2 -276732000:1 -257983200:2 -245282400:1 -226533600:2 -213228000:1 -195084000:2 -182383200:1 -163634400:2 -150933600:1 -132184800:2 -119484000:1 -100735200:2 -88034400:1 -68680800:2 -59004000:1 -37242000:1 57722400:2 69818400:1 89172000:2 101268000:1 120621600:2 132717600:1 152071200:2 164167200:1 183520800:2 196221600:1 214970400:2 227671200:1 246420000:2 259120800:1 278474400:2 290570400:1 309924000:2 322020000:1 341373600:2 354675600:1 372819600:2 386125200:1 404269200:2 417574800:1 435718800:2 449024400:1 467773200:2 481078800:1 499222800:2 512528400:1 530672400:2 543978000:1 562122000:2 575427600:1 593571600:2 606877200:1 625626000:2 638326800:1 657075600:2 670381200:1 688525200:2 701830800:1 719974800:2 733280400:1 751424400:2 764730000:1 782874000:2 796179600:1 814323600:2 828234000:1 846378000:2 859683600:1 877827600:2 891133200:1 909277200:2 922582800:1 941331600:2 954032400:1 972781200:2 985482000:1 1004230800:2 1017536400:1 1035680400:2 1048986000:1 1067130000:2 1080435600:1 1099184400:2 1111885200:1 1130634000:2 1143334800:1 1162083600:2 1174784400:1 1193533200:2 1206838800:1 1224982800:2 1238288400:1 1256432400:2 1269738000:1 1288486800:2 1301187600:1 1319936400:2 1332637200:1 1351386000:2 1364691600:1 1382835600:2 1396141200:1 1414285200:2 1427590800:1 1445734800:2 1459040400:1 1477789200:2 1490490000:1 1509238800:2 1521939600:1 1540688400:2 1553994000:1 1572138000:2 1585443600:1 1603587600:2 1616893200:1 1635642000:2 1648342800:1 1667091600:2 1679792400:1 1698541200:2 1711846800:1 1729990800:2 1743296400:1 1761440400:2 1774746000:1 1792890000:2 1806195600:1 1824944400:2 1837645200:1 1856394000:2 1869094800:1 1887843600:2 1901149200:1 1919293200:2 1932598800:1 1950742800:2 1964048400:1 1982797200:2 1995498000:1 2014246800:2 2026947600:1 2045696400:2 2058397200:1 2077146000:2 2090451600:1 2108595600:2 2121901200:1 2140045200:2|GMT0BST,M3.5.0/1,M10.5.0"
  , "Europe/Kaliningrad|0|4920 7200 3600 10800 14400|-2422056120:2 -1693706400:1 -1680483600:2 -1663455600:1 -1650150000:2 -1632006000:1 -1618700400:2 -938905200:1 -857257200:2 -844556400:1 -828226800:2 -812502000:1 -796777200:2 -781052400:1 -780372000:1 -778730400:3 -762663600:1 -749095200:3 354920400:4 370728000:3 386456400:4 402264000:3 417992400:4 433800000:3 449614800:4 465346800:3 481071600:4 496796400:3 512521200:4 528246000:3 543970800:4 559695600:3 575420400:4 591145200:3 606870000:3 622598400:1 638323200:3 654652800:1 670377600:3 686102400:1 701827200:3 717552000:1 733276800:3 749001600:1 764726400:3 780451200:1 796176000:3 811900800:1 828230400:3 846374400:1 859680000:3 877824000:1 891129600:3 909273600:1 922579200:3 941328000:1 954028800:3 972777600:1 985478400:3 1004227200:1 1017532800:3 1035676800:1 1048982400:3 1067126400:1 1080432000:3 1099180800:1 1111881600:3 1130630400:1 1143331200:3 1162080000:1 1174780800:3 1193529600:1 1206835200:3 1224979200:1 1238284800:3 1256428800:1 1269734400:3 1288483200:1 1301184000:3 1414278000:1|EET-2"
  , "Europe/Kirov|0|11928 10800 18000 14400|-1593820800:1 -1247540400:3 354916800:2 370724400:3 386452800:2 402260400:3 417988800:2 433796400:3 449611200:2 465343200:3 481068000:2 496792800:3 512517600:2 528242400:3 543967200:2 559692000:3 575416800:2 591141600:3 606866400:3 622594800:1 638319600:3 654649200:1 670374000:3 701820000:3 717548400:1 733273200:3 748998000:1 764722800:3 780447600:1 796172400:3 811897200:1 828226800:3 846370800:1 859676400:3 877820400:1 891126000:3 909270000:1 922575600:3 941324400:1 954025200:3 972774000:1 985474800:3 1004223600:1 1017529200:3 1035673200:1 1048978800:3 1067122800:1 1080428400:3 1099177200:1 1111878000:3 1130626800:1 1143327600:3 1162076400:1 1174777200:3 1193526000:1 1206831600:3 1224975600:1 1238281200:3 1256425200:1 1269730800:3 1288479600:1 1301180400:3 1414274400:1|MSK-3"
  , "Europe/Kyiv Europe/Kiev Europe/Uzhgorod Europe/Zaporozhye|0|7324 7200 10800 3600 14400|-2840148124:0 -1441159324:1 -1247536800:2 -892522800:1 -857257200:3 -844556400:1 -828226800:3 -825382800:2 354920400:4 370728000:2 386456400:4 402264000:2 417992400:4 433800000:2 449614800:4 465346800:2 481071600:4 496796400:2 512521200:4 528246000:2 543970800:4 559695600:2 575420400:4 591145200:2 606870000:4 622594800:2 638319600:4 646783200:2 686102400:1 701827200:2 717552000:1 733276800:2 749001600:1 764726400:2 780451200:1 796176000:2 811900800:1 828230400:2 846378000:1 859683600:2 877827600:1 891133200:2 909277200:1 922582800:2 941331600:1 954032400:2 972781200:1 985482000:2 1004230800:1 1017536400:2 1035680400:1 1048986000:2 1067130000:1 1080435600:2 1099184400:1 1111885200:2 1130634000:1 1143334800:2 1162083600:1 1174784400:2 1193533200:1 1206838800:2 1224982800:1 1238288400:2 1256432400:1 1269738000:2 1288486800:1 1301187600:2 1319936400:1 1332637200:2 1351386000:1 1364691600:2 1382835600:1 1396141200:2 1414285200:1 1427590800:2 1445734800:1 1459040400:2 1477789200:1 1490490000:2 1509238800:1 1521939600:2 1540688400:1 1553994000:2 1572138000:1 1585443600:2 1603587600:1 1616893200:2 1635642000:1 1648342800:2 1667091600:1 1679792400:2 1698541200:1 1711846800:2 1729990800:1 1743296400:2 1761440400:1 1774746000:2 1792890000:1 1806195600:2 1824944400:1 1837645200:2 1856394000:1 1869094800:2 1887843600:1 1901149200:2 1919293200:1 1932598800:2 1950742800:1 1964048400:2 1982797200:1 1995498000:2 2014246800:1 2026947600:2 2045696400:1 2058397200:2 2077146000:1 2090451600:2 2108595600:1 2121901200:2 2140045200:1|EET-2EEST,M3.5.0/3,M10.5.0/4"
  , "Europe/Lisbon Portugal|0|-2205 3600 0 7200|-2713908195:0 -1830384000:2 -1689555600:1 -1677801600:2 -1667433600:1 -1647738000:2 -1635897600:1 -1616202000:2 -1604361600:1 -1584666000:2 -1572739200:1 -1553043600:2 -1541203200:1 -1521507600:2 -1442451600:1 -1427677200:2 -1379293200:1 -1364778000:2 -1348448400:1 -1333328400:2 -1316394000:1 -1301274000:2 -1284339600:1 -1269824400:2 -1221440400:1 -1206925200:2 -1191200400:1 -1175475600:2 -1127696400:1 -1111971600:2 -1096851600:1 -1080522000:2 -1063587600:1 -1049072400:2 -1033347600:1 -1017622800:2 -1002502800:1 -986173200:2 -969238800:1 -950490000:2 -942022800:1 -922496400:2 -906944400:1 -891133200:2 -877309200:1 -873684000:3 -864007200:1 -857955600:2 -845859600:1 -842839200:3 -831348000:1 -825901200:2 -814410000:1 -810784800:3 -799898400:1 -794451600:2 -782960400:1 -779335200:3 -768448800:1 -763002000:2 -749091600:1 -733366800:2 -717631200:1 -701906400:2 -686181600:1 -670456800:2 -654732000:1 -639007200:2 -623282400:1 -607557600:2 -591832800:1 -575503200:2 -559778400:1 -544053600:2 -528328800:1 -512604000:2 -496879200:1 -481154400:2 -465429600:1 -449704800:2 -433980000:1 -417650400:2 -401925600:1 -386200800:2 -370476000:1 -354751200:2 -339026400:1 -323301600:2 -307576800:1 -291852000:2 -276127200:1 -260402400:2 -244677600:1 -228348000:2 -212623200:1 -196898400:2 -181173600:1 -165448800:2 -149724000:1 -133999200:2 -118274400:1 -102549600:1 212544000:2 228268800:1 243993600:2 260326800:1 276051600:2 291776400:1 307501200:2 323830800:1 338950800:2 354672000:1 370396800:2 386121600:1 401846400:2 417571200:1 433296000:2 449020800:1 465350400:2 481075200:1 496800000:2 512528400:1 528253200:2 543978000:1 559702800:2 575427600:1 591152400:2 606877200:1 622602000:2 638326800:1 654656400:2 670381200:1 686106000:2 701830800:1 717555600:1 733280400:3 749005200:1 764730000:3 780454800:1 796179600:3 811904400:1 828234000:1 846378000:2 859683600:1 877827600:2 891133200:1 909277200:2 922582800:1 941331600:2 954032400:1 972781200:2 985482000:1 1004230800:2 1017536400:1 1035680400:2 1048986000:1 1067130000:2 1080435600:1 1099184400:2 1111885200:1 1130634000:2 1143334800:1 1162083600:2 1174784400:1 1193533200:2 1206838800:1 1224982800:2 1238288400:1 1256432400:2 1269738000:1 1288486800:2 1301187600:1 1319936400:2 1332637200:1 1351386000:2 1364691600:1 1382835600:2 1396141200:1 1414285200:2 1427590800:1 1445734800:2 1459040400:1 1477789200:2 1490490000:1 1509238800:2 1521939600:1 1540688400:2 1553994000:1 1572138000:2 1585443600:1 1603587600:2 1616893200:1 1635642000:2 1648342800:1 1667091600:2 1679792400:1 1698541200:2 1711846800:1 1729990800:2 1743296400:1 1761440400:2 1774746000:1 1792890000:2 1806195600:1 1824944400:2 1837645200:1 1856394000:2 1869094800:1 1887843600:2 1901149200:1 1919293200:2 1932598800:1 1950742800:2 1964048400:1 1982797200:2 1995498000:1 2014246800:2 2026947600:1 2045696400:2 2058397200:1 2077146000:2 2090451600:1 2108595600:2 2121901200:1 2140045200:2|WET0WEST,M3.5.0/1,M10.5.0"
  , "Europe/Ljubljana|0|3484 3600 7200|-2713913884:1 -905824800:2 -857257200:1 -844556400:2 -828226800:1 -812502000:2 -796777200:1 -781052400:2 -766623600:1 417574800:2 433299600:1 449024400:2 465354000:1 481078800:2 496803600:1 512528400:2 528253200:1 543978000:2 559702800:1 575427600:2 591152400:1 606877200:2 622602000:1 638326800:2 654656400:1 670381200:2 686106000:1 701830800:2 717555600:1 733280400:2 749005200:1 764730000:2 780454800:1 796179600:2 811904400:1 828234000:2 846378000:1 859683600:2 877827600:1 891133200:2 909277200:1 922582800:2 941331600:1 954032400:2 972781200:1 985482000:2 1004230800:1 1017536400:2 1035680400:1 1048986000:2 1067130000:1 1080435600:2 1099184400:1 1111885200:2 1130634000:1 1143334800:2 1162083600:1 1174784400:2 1193533200:1 1206838800:2 1224982800:1 1238288400:2 1256432400:1 1269738000:2 1288486800:1 1301187600:2 1319936400:1 1332637200:2 1351386000:1 1364691600:2 1382835600:1 1396141200:2 1414285200:1 1427590800:2 1445734800:1 1459040400:2 1477789200:1 1490490000:2 1509238800:1 1521939600:2 1540688400:1 1553994000:2 1572138000:1 1585443600:2 1603587600:1 1616893200:2 1635642000:1 1648342800:2 1667091600:1 1679792400:2 1698541200:1 1711846800:2 1729990800:1 1743296400:2 1761440400:1 1774746000:2 1792890000:1 1806195600:2 1824944400:1 1837645200:2 1856394000:1 1869094800:2 1887843600:1 1901149200:2 1919293200:1 1932598800:2 1950742800:1 1964048400:2 1982797200:1 1995498000:2 2014246800:1 2026947600:2 2045696400:1 2058397200:2 2077146000:1 2090451600:2 2108595600:1 2121901200:2 2140045200:1|CET-1CEST,M3.5.0,M10.5.0/3"
  , "Europe/London Europe/Belfast GB GB-Eire|0|-75 3600 0 7200|-3852662325:2 -1691964000:1 -1680472800:2 -1664143200:1 -1650146400:2 -1633903200:1 -1617487200:2 -1601848800:1 -1586037600:2 -1570399200:1 -1552168800:2 -1538344800:1 -1522533600:2 -1507500000:1 -1490565600:2 -1473631200:1 -1460930400:2 -1442786400:1 -1428876000:2 -1410732000:1 -1396216800:2 -1379282400:1 -1364767200:2 -1348437600:1 -1333317600:2 -1315778400:1 -1301263200:2 -1284328800:1 -1269813600:2 -1253484000:1 -1238364000:2 -1221429600:1 -1206914400:2 -1189980000:1 -1175464800:2 -1159135200:1 -1143410400:2 -1126476000:1 -1111960800:2 -1095631200:1 -1080511200:2 -1063576800:1 -1049061600:2 -1032127200:1 -1017612000:2 -1001282400:1 -986162400:2 -969228000:1 -950479200:2 -942012000:1 -904518000:3 -896050800:1 -875487600:3 -864601200:1 -844038000:3 -832546800:1 -812588400:3 -798073200:1 -781052400:3 -772066800:1 -764805600:2 -748476000:1 -733356000:2 -719445600:1 -717030000:3 -706748400:1 -699487200:2 -687996000:1 -668037600:2 -654732000:1 -636588000:2 -622072800:1 -605743200:2 -590623200:1 -574293600:2 -558568800:1 -542239200:2 -527119200:1 -512604000:2 -496274400:1 -481154400:2 -464220000:1 -449704800:2 -432165600:1 -417650400:2 -401320800:1 -386200800:2 -369266400:1 -354751200:2 -337816800:1 -323301600:2 -306972000:1 -291852000:2 -276732000:1 -257983200:2 -245282400:1 -226533600:2 -213228000:1 -195084000:2 -182383200:1 -163634400:2 -150933600:1 -132184800:2 -119484000:1 -100735200:2 -88034400:1 -68680800:2 -59004000:1 -37242000:1 57722400:2 69818400:1 89172000:2 101268000:1 120621600:2 132717600:1 152071200:2 164167200:1 183520800:2 196221600:1 214970400:2 227671200:1 246420000:2 259120800:1 278474400:2 290570400:1 309924000:2 322020000:1 341373600:2 354675600:1 372819600:2 386125200:1 404269200:2 417574800:1 435718800:2 449024400:1 467773200:2 481078800:1 499222800:2 512528400:1 530672400:2 543978000:1 562122000:2 575427600:1 593571600:2 606877200:1 625626000:2 638326800:1 657075600:2 670381200:1 688525200:2 701830800:1 719974800:2 733280400:1 751424400:2 764730000:1 782874000:2 796179600:1 814323600:2 828234000:1 846378000:2 859683600:1 877827600:2 891133200:1 909277200:2 922582800:1 941331600:2 954032400:1 972781200:2 985482000:1 1004230800:2 1017536400:1 1035680400:2 1048986000:1 1067130000:2 1080435600:1 1099184400:2 1111885200:1 1130634000:2 1143334800:1 1162083600:2 1174784400:1 1193533200:2 1206838800:1 1224982800:2 1238288400:1 1256432400:2 1269738000:1 1288486800:2 1301187600:1 1319936400:2 1332637200:1 1351386000:2 1364691600:1 1382835600:2 1396141200:1 1414285200:2 1427590800:1 1445734800:2 1459040400:1 1477789200:2 1490490000:1 1509238800:2 1521939600:1 1540688400:2 1553994000:1 1572138000:2 1585443600:1 1603587600:2 1616893200:1 1635642000:2 1648342800:1 1667091600:2 1679792400:1 1698541200:2 1711846800:1 1729990800:2 1743296400:1 1761440400:2 1774746000:1 1792890000:2 1806195600:1 1824944400:2 1837645200:1 1856394000:2 1869094800:1 1887843600:2 1901149200:1 1919293200:2 1932598800:1 1950742800:2 1964048400:1 1982797200:2 1995498000:1 2014246800:2 2026947600:1 2045696400:2 2058397200:1 2077146000:2 2090451600:1 2108595600:2 2121901200:1 2140045200:2|GMT0BST,M3.5.0/1,M10.5.0"
  , "Europe/Luxembourg|0|1476 7200 3600 0|-2069713476:2 -1692496800:1 -1680483600:2 -1662343200:1 -1650157200:2 -1632006000:1 -1618700400:2 -1612659600:3 -1604278800:2 -1585519200:3 -1574038800:2 -1552258800:3 -1539997200:2 -1520550000:3 -1507510800:2 -1490572800:3 -1473642000:2 -1459119600:3 -1444006800:2 -1427673600:3 -1411866000:2 -1396224000:3 -1379293200:2 -1364774400:3 -1348448400:2 -1333324800:3 -1316394000:2 -1301270400:3 -1284339600:2 -1269813600:3 -1253484000:2 -1238364000:3 -1221429600:2 -1206914400:3 -1191189600:2 -1175464800:3 -1160344800:2 -1143410400:3 -1127685600:2 -1111960800:3 -1096840800:2 -1080511200:3 -1063576800:2 -1049061600:3 -1033336800:2 -1017612000:3 -1002492000:2 -986162400:3 -969228000:2 -950479200:3 -942012000:2 -935186400:1 -857257200:2 -844556400:1 -828226800:2 -812502000:1 -797986800:2 -781052400:1 -766623600:2 -745455600:1 -733273200:2 228877200:1 243997200:2 260326800:1 276051600:2 291776400:1 307501200:2 323830800:1 338950800:2 354675600:1 370400400:2 386125200:1 401850000:2 417574800:1 433299600:2 449024400:1 465354000:2 481078800:1 496803600:2 512528400:1 528253200:2 543978000:1 559702800:2 575427600:1 591152400:2 606877200:1 622602000:2 638326800:1 654656400:2 670381200:1 686106000:2 701830800:1 717555600:2 733280400:1 749005200:2 764730000:1 780454800:2 796179600:1 811904400:2 828234000:1 846378000:2 859683600:1 877827600:2 891133200:1 909277200:2 922582800:1 941331600:2 954032400:1 972781200:2 985482000:1 1004230800:2 1017536400:1 1035680400:2 1048986000:1 1067130000:2 1080435600:1 1099184400:2 1111885200:1 1130634000:2 1143334800:1 1162083600:2 1174784400:1 1193533200:2 1206838800:1 1224982800:2 1238288400:1 1256432400:2 1269738000:1 1288486800:2 1301187600:1 1319936400:2 1332637200:1 1351386000:2 1364691600:1 1382835600:2 1396141200:1 1414285200:2 1427590800:1 1445734800:2 1459040400:1 1477789200:2 1490490000:1 1509238800:2 1521939600:1 1540688400:2 1553994000:1 1572138000:2 1585443600:1 1603587600:2 1616893200:1 1635642000:2 1648342800:1 1667091600:2 1679792400:1 1698541200:2 1711846800:1 1729990800:2 1743296400:1 1761440400:2 1774746000:1 1792890000:2 1806195600:1 1824944400:2 1837645200:1 1856394000:2 1869094800:1 1887843600:2 1901149200:1 1919293200:2 1932598800:1 1950742800:2 1964048400:1 1982797200:2 1995498000:1 2014246800:2 2026947600:1 2045696400:2 2058397200:1 2077146000:2 2090451600:1 2108595600:2 2121901200:1 2140045200:2|CET-1CEST,M3.5.0,M10.5.0/3"
  , "Europe/Madrid|0|-884 3600 0 7200|-2177452800:2 -1631926800:1 -1616889600:2 -1601168400:1 -1585353600:2 -1442451600:1 -1427673600:2 -1379293200:1 -1364774400:2 -1348448400:1 -1333324800:2 -1316390400:1 -1301270400:2 -1284339600:1 -1269820800:2 -1026954000:1 -1017619200:2 -1001898000:1 -999482400:3 -986090400:1 -954115200:2 -940208400:1 -873079200:3 -862621200:1 -842839200:3 -828320400:1 -811389600:3 -796870800:1 -779940000:3 -765421200:1 -748490400:3 -733971600:1 -652327200:3 -639018000:1 135122400:3 150246000:1 166572000:3 181695600:1 196812000:3 212540400:1 228866400:3 243990000:1 260326800:3 276051600:1 291776400:3 307501200:1 323830800:3 338950800:1 354675600:3 370400400:1 386125200:3 401850000:1 417574800:3 433299600:1 449024400:3 465354000:1 481078800:3 496803600:1 512528400:3 528253200:1 543978000:3 559702800:1 575427600:3 591152400:1 606877200:3 622602000:1 638326800:3 654656400:1 670381200:3 686106000:1 701830800:3 717555600:1 733280400:3 749005200:1 764730000:3 780454800:1 796179600:3 811904400:1 828234000:3 846378000:1 859683600:3 877827600:1 891133200:3 909277200:1 922582800:3 941331600:1 954032400:3 972781200:1 985482000:3 1004230800:1 1017536400:3 1035680400:1 1048986000:3 1067130000:1 1080435600:3 1099184400:1 1111885200:3 1130634000:1 1143334800:3 1162083600:1 1174784400:3 1193533200:1 1206838800:3 1224982800:1 1238288400:3 1256432400:1 1269738000:3 1288486800:1 1301187600:3 1319936400:1 1332637200:3 1351386000:1 1364691600:3 1382835600:1 1396141200:3 1414285200:1 1427590800:3 1445734800:1 1459040400:3 1477789200:1 1490490000:3 1509238800:1 1521939600:3 1540688400:1 1553994000:3 1572138000:1 1585443600:3 1603587600:1 1616893200:3 1635642000:1 1648342800:3 1667091600:1 1679792400:3 1698541200:1 1711846800:3 1729990800:1 1743296400:3 1761440400:1 1774746000:3 1792890000:1 1806195600:3 1824944400:1 1837645200:3 1856394000:1 1869094800:3 1887843600:1 1901149200:3 1919293200:1 1932598800:3 1950742800:1 1964048400:3 1982797200:1 1995498000:3 2014246800:1 2026947600:3 2045696400:1 2058397200:3 2077146000:1 2090451600:3 2108595600:1 2121901200:3 2140045200:1|CET-1CEST,M3.5.0,M10.5.0/3"
  , "Europe/Malta|0|3484 7200 3600|-2403478684:2 -1690765200:1 -1680487200:2 -1664758800:1 -1648951200:2 -1635123600:1 -1616896800:2 -1604278800:1 -1585533600:2 -1571014800:1 -1555293600:2 -932432400:1 -857257200:2 -844556400:1 -828226800:2 -812588400:1 -798073200:2 -781052400:1 -766717200:2 -750898800:1 -733359600:2 -719456400:1 -701917200:2 -689209200:1 -670460400:2 -114051600:1 -103168800:2 -81997200:1 -71715600:2 -50547600:1 -40266000:2 -18493200:1 -8211600:2 12956400:1 23238000:2 43801200:1 54687600:2 75855600:1 86742000:2 102380400:1 118105200:2 135730800:1 148518000:2 167187600:1 180489600:2 198637200:1 211939200:2 230086800:1 243388800:2 261536400:1 274838400:2 292986000:1 306288000:2 323312400:1 338342400:2 354675600:1 370400400:2 386125200:1 401850000:2 417574800:1 433299600:2 449024400:1 465354000:2 481078800:1 496803600:2 512528400:1 528253200:2 543978000:1 559702800:2 575427600:1 591152400:2 606877200:1 622602000:2 638326800:1 654656400:2 670381200:1 686106000:2 701830800:1 717555600:2 733280400:1 749005200:2 764730000:1 780454800:2 796179600:1 811904400:2 828234000:1 846378000:2 859683600:1 877827600:2 891133200:1 909277200:2 922582800:1 941331600:2 954032400:1 972781200:2 985482000:1 1004230800:2 1017536400:1 1035680400:2 1048986000:1 1067130000:2 1080435600:1 1099184400:2 1111885200:1 1130634000:2 1143334800:1 1162083600:2 1174784400:1 1193533200:2 1206838800:1 1224982800:2 1238288400:1 1256432400:2 1269738000:1 1288486800:2 1301187600:1 1319936400:2 1332637200:1 1351386000:2 1364691600:1 1382835600:2 1396141200:1 1414285200:2 1427590800:1 1445734800:2 1459040400:1 1477789200:2 1490490000:1 1509238800:2 1521939600:1 1540688400:2 1553994000:1 1572138000:2 1585443600:1 1603587600:2 1616893200:1 1635642000:2 1648342800:1 1667091600:2 1679792400:1 1698541200:2 1711846800:1 1729990800:2 1743296400:1 1761440400:2 1774746000:1 1792890000:2 1806195600:1 1824944400:2 1837645200:1 1856394000:2 1869094800:1 1887843600:2 1901149200:1 1919293200:2 1932598800:1 1950742800:2 1964048400:1 1982797200:2 1995498000:1 2014246800:2 2026947600:1 2045696400:2 2058397200:1 2077146000:2 2090451600:1 2108595600:2 2121901200:1 2140045200:2|CET-1CEST,M3.5.0,M10.5.0/3"
  , "Europe/Minsk|0|6616 6600 7200 10800 3600 14400|-2840147416:1 -1441158600:2 -1247536800:3 -899780400:2 -857257200:4 -844556400:2 -828226800:4 -812502000:2 -804650400:3 354920400:5 370728000:3 386456400:5 402264000:3 417992400:5 433800000:3 449614800:5 465346800:3 481071600:5 496796400:3 512521200:5 528246000:3 543970800:5 559695600:3 575420400:5 591145200:3 606870000:5 622594800:3 670374000:3 686102400:2 701827200:3 717552000:2 733276800:3 749001600:2 764726400:3 780451200:2 796176000:3 811900800:2 828230400:3 846374400:2 859680000:3 877824000:2 891129600:3 909273600:2 922579200:3 941328000:2 954028800:3 972777600:2 985478400:3 1004227200:2 1017532800:3 1035676800:2 1048982400:3 1067126400:2 1080432000:3 1099180800:2 1111881600:3 1130630400:2 1143331200:3 1162080000:2 1174780800:3 1193529600:2 1206835200:3 1224979200:2 1238284800:3 1256428800:2 1269734400:3 1288483200:2 1301184000:3 2147483647:3|<+03>-3"
  , "Europe/Monaco|0|1772 561 3600 0 7200|-2448318572:1 -1854403761:3 -1689814800:2 -1680397200:3 -1665363600:2 -1648342800:3 -1635123600:2 -1616893200:3 -1604278800:2 -1585443600:3 -1574038800:2 -1552266000:3 -1539997200:2 -1520557200:3 -1507510800:2 -1490576400:3 -1470618000:2 -1459126800:3 -1444006800:2 -1427677200:3 -1411952400:2 -1396227600:3 -1379293200:2 -1364778000:3 -1348448400:2 -1333328400:3 -1316394000:2 -1301274000:3 -1284339600:2 -1269824400:3 -1253494800:2 -1238374800:3 -1221440400:2 -1206925200:3 -1191200400:2 -1175475600:3 -1160355600:2 -1143421200:3 -1127696400:2 -1111971600:3 -1096851600:2 -1080522000:3 -1063587600:2 -1049072400:3 -1033347600:2 -1017622800:3 -1002502800:2 -986173200:3 -969238800:2 -950490000:3 -942012000:2 -904438800:4 -891136800:2 -877827600:4 -857257200:2 -844556400:4 -828226800:2 -812502000:4 -796266000:2 -781052400:4 -766623600:2 196819200:4 212540400:2 228877200:4 243997200:2 260326800:4 276051600:2 291776400:4 307501200:2 323830800:4 338950800:2 354675600:4 370400400:2 386125200:4 401850000:2 417574800:4 433299600:2 449024400:4 465354000:2 481078800:4 496803600:2 512528400:4 528253200:2 543978000:4 559702800:2 575427600:4 591152400:2 606877200:4 622602000:2 638326800:4 654656400:2 670381200:4 686106000:2 701830800:4 717555600:2 733280400:4 749005200:2 764730000:4 780454800:2 796179600:4 811904400:2 828234000:4 846378000:2 859683600:4 877827600:2 891133200:4 909277200:2 922582800:4 941331600:2 954032400:4 972781200:2 985482000:4 1004230800:2 1017536400:4 1035680400:2 1048986000:4 1067130000:2 1080435600:4 1099184400:2 1111885200:4 1130634000:2 1143334800:4 1162083600:2 1174784400:4 1193533200:2 1206838800:4 1224982800:2 1238288400:4 1256432400:2 1269738000:4 1288486800:2 1301187600:4 1319936400:2 1332637200:4 1351386000:2 1364691600:4 1382835600:2 1396141200:4 1414285200:2 1427590800:4 1445734800:2 1459040400:4 1477789200:2 1490490000:4 1509238800:2 1521939600:4 1540688400:2 1553994000:4 1572138000:2 1585443600:4 1603587600:2 1616893200:4 1635642000:2 1648342800:4 1667091600:2 1679792400:4 1698541200:2 1711846800:4 1729990800:2 1743296400:4 1761440400:2 1774746000:4 1792890000:2 1806195600:4 1824944400:2 1837645200:4 1856394000:2 1869094800:4 1887843600:2 1901149200:4 1919293200:2 1932598800:4 1950742800:2 1964048400:4 1982797200:2 1995498000:4 2014246800:2 2026947600:4 2045696400:2 2058397200:4 2077146000:2 2090451600:4 2108595600:2 2121901200:4 2140045200:2|CET-1CEST,M3.5.0,M10.5.0/3"
  , "Europe/Moscow W-SU|0|9017 12679 9079 16279 14400 10800 18000 7200|-2840149817:0 -1688265017:2 -1656819079:1 -1641353479:2 -1627965079:3 -1618716679:1 -1596429079:3 -1593820800:4 -1589860800:5 -1542427200:4 -1539493200:6 -1525323600:4 -1522728000:5 -1491188400:7 -1247536800:5 354920400:4 370728000:5 386456400:4 402264000:5 417992400:4 433800000:5 449614800:4 465346800:5 481071600:4 496796400:5 512521200:4 528246000:5 543970800:4 559695600:5 575420400:4 591145200:5 606870000:4 622594800:5 638319600:4 654649200:5 670374000:5 686102400:7 695779200:5 701823600:4 717548400:5 733273200:4 748998000:5 764722800:4 780447600:5 796172400:4 811897200:5 828226800:4 846370800:5 859676400:4 877820400:5 891126000:4 909270000:5 922575600:4 941324400:5 954025200:4 972774000:5 985474800:4 1004223600:5 1017529200:4 1035673200:5 1048978800:4 1067122800:5 1080428400:4 1099177200:5 1111878000:4 1130626800:5 1143327600:4 1162076400:5 1174777200:4 1193526000:5 1206831600:4 1224975600:5 1238281200:4 1256425200:5 1269730800:4 1288479600:5 1301180400:4 1414274400:5|MSK-3"
  , "Europe/Oslo Arctic/Longyearbyen Atlantic/Jan_Mayen|0|2580 7200 3600|-2366757780:2 -1691884800:1 -1680573600:2 -927511200:1 -857257200:2 -844556400:1 -828226800:2 -812502000:1 -796777200:2 -781052400:1 -765327600:2 -340844400:1 -324514800:2 -308790000:1 -293065200:2 -277340400:1 -261615600:2 -245890800:1 -230166000:2 -214441200:1 -198716400:2 -182991600:1 -166662000:2 -147913200:1 -135212400:2 323830800:1 338950800:2 354675600:1 370400400:2 386125200:1 401850000:2 417574800:1 433299600:2 449024400:1 465354000:2 481078800:1 496803600:2 512528400:1 528253200:2 543978000:1 559702800:2 575427600:1 591152400:2 606877200:1 622602000:2 638326800:1 654656400:2 670381200:1 686106000:2 701830800:1 717555600:2 733280400:1 749005200:2 764730000:1 780454800:2 796179600:1 811904400:2 828234000:1 846378000:2 859683600:1 877827600:2 891133200:1 909277200:2 922582800:1 941331600:2 954032400:1 972781200:2 985482000:1 1004230800:2 1017536400:1 1035680400:2 1048986000:1 1067130000:2 1080435600:1 1099184400:2 1111885200:1 1130634000:2 1143334800:1 1162083600:2 1174784400:1 1193533200:2 1206838800:1 1224982800:2 1238288400:1 1256432400:2 1269738000:1 1288486800:2 1301187600:1 1319936400:2 1332637200:1 1351386000:2 1364691600:1 1382835600:2 1396141200:1 1414285200:2 1427590800:1 1445734800:2 1459040400:1 1477789200:2 1490490000:1 1509238800:2 1521939600:1 1540688400:2 1553994000:1 1572138000:2 1585443600:1 1603587600:2 1616893200:1 1635642000:2 1648342800:1 1667091600:2 1679792400:1 1698541200:2 1711846800:1 1729990800:2 1743296400:1 1761440400:2 1774746000:1 1792890000:2 1806195600:1 1824944400:2 1837645200:1 1856394000:2 1869094800:1 1887843600:2 1901149200:1 1919293200:2 1932598800:1 1950742800:2 1964048400:1 1982797200:2 1995498000:1 2014246800:2 2026947600:1 2045696400:2 2058397200:1 2077146000:2 2090451600:1 2108595600:2 2121901200:1 2140045200:2|CET-1CEST,M3.5.0,M10.5.0/3"
  , "Europe/Paris|0|561 3600 0 7200|-2486592561:0 -1855958961:2 -1689814800:1 -1680397200:2 -1665363600:1 -1648342800:2 -1635123600:1 -1616893200:2 -1604278800:1 -1585443600:2 -1574038800:1 -1552266000:2 -1539997200:1 -1520557200:2 -1507510800:1 -1490576400:2 -1470618000:1 -1459126800:2 -1444006800:1 -1427677200:2 -1411952400:1 -1396227600:2 -1379293200:1 -1364778000:2 -1348448400:1 -1333328400:2 -1316394000:1 -1301274000:2 -1284339600:1 -1269824400:2 -1253494800:1 -1238374800:2 -1221440400:1 -1206925200:2 -1191200400:1 -1175475600:2 -1160355600:1 -1143421200:2 -1127696400:1 -1111971600:2 -1096851600:1 -1080522000:2 -1063587600:1 -1049072400:2 -1033347600:1 -1017622800:2 -1002502800:1 -986173200:2 -969238800:1 -950490000:2 -942012000:1 -932436000:3 -857257200:1 -844556400:3 -828226800:1 -812502000:3 -800071200:3 -796266000:1 -781052400:3 -766623600:1 196819200:3 212540400:1 228877200:3 243997200:1 260326800:3 276051600:1 291776400:3 307501200:1 323830800:3 338950800:1 354675600:3 370400400:1 386125200:3 401850000:1 417574800:3 433299600:1 449024400:3 465354000:1 481078800:3 496803600:1 512528400:3 528253200:1 543978000:3 559702800:1 575427600:3 591152400:1 606877200:3 622602000:1 638326800:3 654656400:1 670381200:3 686106000:1 701830800:3 717555600:1 733280400:3 749005200:1 764730000:3 780454800:1 796179600:3 811904400:1 828234000:3 846378000:1 859683600:3 877827600:1 891133200:3 909277200:1 922582800:3 941331600:1 954032400:3 972781200:1 985482000:3 1004230800:1 1017536400:3 1035680400:1 1048986000:3 1067130000:1 1080435600:3 1099184400:1 1111885200:3 1130634000:1 1143334800:3 1162083600:1 1174784400:3 1193533200:1 1206838800:3 1224982800:1 1238288400:3 1256432400:1 1269738000:3 1288486800:1 1301187600:3 1319936400:1 1332637200:3 1351386000:1 1364691600:3 1382835600:1 1396141200:3 1414285200:1 1427590800:3 1445734800:1 1459040400:3 1477789200:1 1490490000:3 1509238800:1 1521939600:3 1540688400:1 1553994000:3 1572138000:1 1585443600:3 1603587600:1 1616893200:3 1635642000:1 1648342800:3 1667091600:1 1679792400:3 1698541200:1 1711846800:3 1729990800:1 1743296400:3 1761440400:1 1774746000:3 1792890000:1 1806195600:3 1824944400:1 1837645200:3 1856394000:1 1869094800:3 1887843600:1 1901149200:3 1919293200:1 1932598800:3 1950742800:1 1964048400:3 1982797200:1 1995498000:3 2014246800:1 2026947600:3 2045696400:1 2058397200:3 2077146000:1 2090451600:3 2108595600:1 2121901200:3 2140045200:1|CET-1CEST,M3.5.0,M10.5.0/3"
  , "Europe/Prague Europe/Bratislava|0|3464 7200 3600 0|-3786829064:0 -2469401864:2 -1693706400:1 -1680483600:2 -1663455600:1 -1650150000:2 -1632006000:1 -1618700400:2 -938905200:1 -857257200:2 -844556400:1 -828226800:2 -812502000:1 -796777200:2 -781052400:1 -765327600:2 -746578800:1 -733359600:2 -728517600:3 -721260000:2 -716425200:1 -701910000:2 -684975600:1 -670460400:2 -654217200:1 -639010800:2 291776400:1 307501200:2 323830800:1 338950800:2 354675600:1 370400400:2 386125200:1 401850000:2 417574800:1 433299600:2 449024400:1 465354000:2 481078800:1 496803600:2 512528400:1 528253200:2 543978000:1 559702800:2 575427600:1 591152400:2 606877200:1 622602000:2 638326800:1 654656400:2 670381200:1 686106000:2 701830800:1 717555600:2 733280400:1 749005200:2 764730000:1 780454800:2 796179600:1 811904400:2 828234000:1 846378000:2 859683600:1 877827600:2 891133200:1 909277200:2 922582800:1 941331600:2 954032400:1 972781200:2 985482000:1 1004230800:2 1017536400:1 1035680400:2 1048986000:1 1067130000:2 1080435600:1 1099184400:2 1111885200:1 1130634000:2 1143334800:1 1162083600:2 1174784400:1 1193533200:2 1206838800:1 1224982800:2 1238288400:1 1256432400:2 1269738000:1 1288486800:2 1301187600:1 1319936400:2 1332637200:1 1351386000:2 1364691600:1 1382835600:2 1396141200:1 1414285200:2 1427590800:1 1445734800:2 1459040400:1 1477789200:2 1490490000:1 1509238800:2 1521939600:1 1540688400:2 1553994000:1 1572138000:2 1585443600:1 1603587600:2 1616893200:1 1635642000:2 1648342800:1 1667091600:2 1679792400:1 1698541200:2 1711846800:1 1729990800:2 1743296400:1 1761440400:2 1774746000:1 1792890000:2 1806195600:1 1824944400:2 1837645200:1 1856394000:2 1869094800:1 1887843600:2 1901149200:1 1919293200:2 1932598800:1 1950742800:2 1964048400:1 1982797200:2 1995498000:1 2014246800:2 2026947600:1 2045696400:2 2058397200:1 2077146000:2 2090451600:1 2108595600:2 2121901200:1 2140045200:2|CET-1CEST,M3.5.0,M10.5.0/3"
  , "Europe/Riga|0|5794 9394 7200 10800 3600 14400|-2840146594:0 -1632008194:1 -1618702594:0 -1601681794:1 -1597275394:0 -1377308194:2 -928029600:3 -899521200:2 -857257200:4 -844556400:2 -828226800:4 -812502000:2 -796777200:4 -795834000:3 354920400:5 370728000:3 386456400:5 402264000:3 417992400:5 433800000:3 449614800:5 465346800:3 481071600:5 496796400:3 512521200:5 528246000:3 543970800:5 559695600:3 575420400:5 591145200:3 606870000:3 622598400:2 638323200:3 654652800:2 670377600:3 686102400:2 701827200:3 717552000:2 733276800:3 749001600:2 764726400:3 780451200:2 796176000:3 811900800:2 828230400:3 843955200:2 859683600:3 877827600:2 891133200:3 909277200:2 922582800:3 941331600:2 985482000:3 1004230800:2 1017536400:3 1035680400:2 1048986000:3 1067130000:2 1080435600:3 1099184400:2 1111885200:3 1130634000:2 1143334800:3 1162083600:2 1174784400:3 1193533200:2 1206838800:3 1224982800:2 1238288400:3 1256432400:2 1269738000:3 1288486800:2 1301187600:3 1319936400:2 1332637200:3 1351386000:2 1364691600:3 1382835600:2 1396141200:3 1414285200:2 1427590800:3 1445734800:2 1459040400:3 1477789200:2 1490490000:3 1509238800:2 1521939600:3 1540688400:2 1553994000:3 1572138000:2 1585443600:3 1603587600:2 1616893200:3 1635642000:2 1648342800:3 1667091600:2 1679792400:3 1698541200:2 1711846800:3 1729990800:2 1743296400:3 1761440400:2 1774746000:3 1792890000:2 1806195600:3 1824944400:2 1837645200:3 1856394000:2 1869094800:3 1887843600:2 1901149200:3 1919293200:2 1932598800:3 1950742800:2 1964048400:3 1982797200:2 1995498000:3 2014246800:2 2026947600:3 2045696400:2 2058397200:3 2077146000:2 2090451600:3 2108595600:2 2121901200:3 2140045200:2|EET-2EEST,M3.5.0/3,M10.5.0/4"
  , "Europe/Rome Europe/San_Marino Europe/Vatican|0|2996 7200 3600|-3252098996:0 -2403565200:2 -1690765200:1 -1680487200:2 -1664758800:1 -1648951200:2 -1635123600:1 -1616896800:2 -1604278800:1 -1585533600:2 -1571014800:1 -1555293600:2 -932432400:1 -857257200:2 -844556400:1 -828226800:2 -812502000:1 -798073200:2 -781052400:1 -766717200:2 -750898800:1 -733359600:2 -719456400:1 -701917200:2 -689209200:1 -670460400:2 -114051600:1 -103168800:2 -81997200:1 -71715600:2 -50547600:1 -40266000:2 -18493200:1 -8211600:2 12956400:1 23238000:2 43801200:1 54687600:2 75855600:1 86742000:2 107910000:1 118191600:2 138754800:1 149641200:2 170809200:1 181090800:2 202258800:1 212540400:2 233103600:1 243990000:2 265158000:1 276044400:2 296607600:1 307494000:2 323830800:1 338950800:2 354675600:1 370400400:2 386125200:1 401850000:2 417574800:1 433299600:2 449024400:1 465354000:2 481078800:1 496803600:2 512528400:1 528253200:2 543978000:1 559702800:2 575427600:1 591152400:2 606877200:1 622602000:2 638326800:1 654656400:2 670381200:1 686106000:2 701830800:1 717555600:2 733280400:1 749005200:2 764730000:1 780454800:2 796179600:1 811904400:2 828234000:1 846378000:2 859683600:1 877827600:2 891133200:1 909277200:2 922582800:1 941331600:2 954032400:1 972781200:2 985482000:1 1004230800:2 1017536400:1 1035680400:2 1048986000:1 1067130000:2 1080435600:1 1099184400:2 1111885200:1 1130634000:2 1143334800:1 1162083600:2 1174784400:1 1193533200:2 1206838800:1 1224982800:2 1238288400:1 1256432400:2 1269738000:1 1288486800:2 1301187600:1 1319936400:2 1332637200:1 1351386000:2 1364691600:1 1382835600:2 1396141200:1 1414285200:2 1427590800:1 1445734800:2 1459040400:1 1477789200:2 1490490000:1 1509238800:2 1521939600:1 1540688400:2 1553994000:1 1572138000:2 1585443600:1 1603587600:2 1616893200:1 1635642000:2 1648342800:1 1667091600:2 1679792400:1 1698541200:2 1711846800:1 1729990800:2 1743296400:1 1761440400:2 1774746000:1 1792890000:2 1806195600:1 1824944400:2 1837645200:1 1856394000:2 1869094800:1 1887843600:2 1901149200:1 1919293200:2 1932598800:1 1950742800:2 1964048400:1 1982797200:2 1995498000:1 2014246800:2 2026947600:1 2045696400:2 2058397200:1 2077146000:2 2090451600:1 2108595600:2 2121901200:1 2140045200:2|CET-1CEST,M3.5.0,M10.5.0/3"
  , "Europe/Samara|0|12020 10800 14400 18000|-1593820800:1 -1247540400:2 354916800:3 370724400:2 386452800:3 402260400:2 417988800:3 433796400:2 449611200:3 465343200:2 481068000:3 496792800:2 512517600:3 528242400:2 543967200:3 559692000:2 575416800:3 591141600:2 606866400:2 622594800:1 638319600:2 654649200:1 670374000:1 686102400:1 687916800:2 701820000:3 717544800:2 733269600:3 748994400:2 764719200:3 780444000:2 796168800:3 811893600:2 828223200:3 846367200:2 859672800:3 877816800:2 891122400:3 909266400:2 922572000:3 941320800:2 954021600:3 972770400:2 985471200:3 1004220000:2 1017525600:3 1035669600:2 1048975200:3 1067119200:2 1080424800:3 1099173600:2 1111874400:3 1130623200:2 1143324000:3 1162072800:2 1174773600:3 1193522400:2 1206828000:3 1224972000:2 1238277600:3 1256421600:2 1269727200:2 1288479600:1 1301180400:2 2147483647:2|<+04>-4"
  , "Europe/Sarajevo|0|4420 3600 7200|-2713914820:1 -905824800:2 -857257200:1 -844556400:2 -828226800:1 -812502000:2 -796777200:1 -781052400:2 -766623600:1 417574800:2 433299600:1 449024400:2 465354000:1 481078800:2 496803600:1 512528400:2 528253200:1 543978000:2 559702800:1 575427600:2 591152400:1 606877200:2 622602000:1 638326800:2 654656400:1 670381200:2 686106000:1 701830800:2 717555600:1 733280400:2 749005200:1 764730000:2 780454800:1 796179600:2 811904400:1 828234000:2 846378000:1 859683600:2 877827600:1 891133200:2 909277200:1 922582800:2 941331600:1 954032400:2 972781200:1 985482000:2 1004230800:1 1017536400:2 1035680400:1 1048986000:2 1067130000:1 1080435600:2 1099184400:1 1111885200:2 1130634000:1 1143334800:2 1162083600:1 1174784400:2 1193533200:1 1206838800:2 1224982800:1 1238288400:2 1256432400:1 1269738000:2 1288486800:1 1301187600:2 1319936400:1 1332637200:2 1351386000:1 1364691600:2 1382835600:1 1396141200:2 1414285200:1 1427590800:2 1445734800:1 1459040400:2 1477789200:1 1490490000:2 1509238800:1 1521939600:2 1540688400:1 1553994000:2 1572138000:1 1585443600:2 1603587600:1 1616893200:2 1635642000:1 1648342800:2 1667091600:1 1679792400:2 1698541200:1 1711846800:2 1729990800:1 1743296400:2 1761440400:1 1774746000:2 1792890000:1 1806195600:2 1824944400:1 1837645200:2 1856394000:1 1869094800:2 1887843600:1 1901149200:2 1919293200:1 1932598800:2 1950742800:1 1964048400:2 1982797200:1 1995498000:2 2014246800:1 2026947600:2 2045696400:1 2058397200:2 2077146000:1 2090451600:2 2108595600:1 2121901200:2 2140045200:1|CET-1CEST,M3.5.0,M10.5.0/3"
  , "Europe/Saratov|0|11058 10800 18000 14400|-1593820800:1 -1247540400:3 354916800:2 370724400:3 386452800:2 402260400:3 417988800:2 433796400:3 449611200:2 465343200:3 481068000:2 496792800:3 512517600:2 528242400:3 543967200:2 559692000:3 575416800:3 591145200:1 606870000:3 622594800:1 638319600:3 654649200:1 670374000:3 701820000:3 717548400:1 733273200:3 748998000:1 764722800:3 780447600:1 796172400:3 811897200:1 828226800:3 846370800:1 859676400:3 877820400:1 891126000:3 909270000:1 922575600:3 941324400:1 954025200:3 972774000:1 985474800:3 1004223600:1 1017529200:3 1035673200:1 1048978800:3 1067122800:1 1080428400:3 1099177200:1 1111878000:3 1130626800:1 1143327600:3 1162076400:1 1174777200:3 1193526000:1 1206831600:3 1224975600:1 1238281200:3 1256425200:1 1269730800:3 1288479600:1 1301180400:3 1414274400:1 1480806000:3 2147483647:3|<+04>-4"
  , "Europe/Simferopol|0|8184 8160 7200 10800 3600 14400|-2840148984:1 -1441160160:2 -1247536800:3 -888894000:2 -857257200:4 -844556400:2 -828226800:4 -812502000:2 -811648800:3 354920400:5 370728000:3 386456400:5 402264000:3 417992400:5 433800000:3 449614800:5 465346800:3 481071600:5 496796400:3 512521200:5 528246000:3 543970800:5 559695600:3 575420400:5 591145200:3 606870000:5 622594800:3 646786800:2 701827200:3 717552000:2 733276800:3 749001600:2 764726400:3 767739600:5 780447600:3 796172400:5 811897200:3 828219600:5 846374400:3 859683600:3 877827600:2 891133200:3 909277200:2 922582800:3 941331600:2 954032400:3 972781200:2 985482000:3 1004230800:2 1017536400:3 1035680400:2 1048986000:3 1067130000:2 1080435600:3 1099184400:2 1111885200:3 1130634000:2 1143334800:3 1162083600:2 1174784400:3 1193533200:2 1206838800:3 1224982800:2 1238288400:3 1256432400:2 1269738000:3 1288486800:2 1301187600:3 1319936400:2 1332637200:3 1351386000:2 1364691600:3 1382835600:2 1396137600:5 1414274400:3|MSK-3"
  , "Europe/Skopje|0|5144 3600 7200|-2713915544:1 -905824800:2 -857257200:1 -844556400:2 -828226800:1 -812502000:2 -796777200:1 -781052400:2 -766623600:1 417574800:2 433299600:1 449024400:2 465354000:1 481078800:2 496803600:1 512528400:2 528253200:1 543978000:2 559702800:1 575427600:2 591152400:1 606877200:2 622602000:1 638326800:2 654656400:1 670381200:2 686106000:1 701830800:2 717555600:1 733280400:2 749005200:1 764730000:2 780454800:1 796179600:2 811904400:1 828234000:2 846378000:1 859683600:2 877827600:1 891133200:2 909277200:1 922582800:2 941331600:1 954032400:2 972781200:1 985482000:2 1004230800:1 1017536400:2 1035680400:1 1048986000:2 1067130000:1 1080435600:2 1099184400:1 1111885200:2 1130634000:1 1143334800:2 1162083600:1 1174784400:2 1193533200:1 1206838800:2 1224982800:1 1238288400:2 1256432400:1 1269738000:2 1288486800:1 1301187600:2 1319936400:1 1332637200:2 1351386000:1 1364691600:2 1382835600:1 1396141200:2 1414285200:1 1427590800:2 1445734800:1 1459040400:2 1477789200:1 1490490000:2 1509238800:1 1521939600:2 1540688400:1 1553994000:2 1572138000:1 1585443600:2 1603587600:1 1616893200:2 1635642000:1 1648342800:2 1667091600:1 1679792400:2 1698541200:1 1711846800:2 1729990800:1 1743296400:2 1761440400:1 1774746000:2 1792890000:1 1806195600:2 1824944400:1 1837645200:2 1856394000:1 1869094800:2 1887843600:1 1901149200:2 1919293200:1 1932598800:2 1950742800:1 1964048400:2 1982797200:1 1995498000:2 2014246800:1 2026947600:2 2045696400:1 2058397200:2 2077146000:1 2090451600:2 2108595600:1 2121901200:2 2140045200:1|CET-1CEST,M3.5.0,M10.5.0/3"
  , "Europe/Sofia|0|5596 7016 7200 3600 10800|-2840146396:1 -2369527016:2 -857257200:3 -844556400:2 -828226800:3 -812502000:2 -796777200:3 -781048800:2 291762000:4 307576800:2 323816400:4 339026400:2 355266000:4 370393200:2 386715600:4 401846400:2 417571200:4 433296000:2 449020800:4 465350400:2 481075200:4 496800000:2 512524800:4 528249600:2 543974400:4 559699200:2 575424000:4 591148800:2 606873600:4 622598400:2 638323200:4 654652800:2 670370400:4 686091600:2 701820000:4 717541200:2 733269600:4 748990800:2 764719200:4 780440400:2 796168800:4 811890000:2 828223200:4 846363600:2 859683600:4 877827600:2 891133200:4 909277200:2 922582800:4 941331600:2 954032400:4 972781200:2 985482000:4 1004230800:2 1017536400:4 1035680400:2 1048986000:4 1067130000:2 1080435600:4 1099184400:2 1111885200:4 1130634000:2 1143334800:4 1162083600:2 1174784400:4 1193533200:2 1206838800:4 1224982800:2 1238288400:4 1256432400:2 1269738000:4 1288486800:2 1301187600:4 1319936400:2 1332637200:4 1351386000:2 1364691600:4 1382835600:2 1396141200:4 1414285200:2 1427590800:4 1445734800:2 1459040400:4 1477789200:2 1490490000:4 1509238800:2 1521939600:4 1540688400:2 1553994000:4 1572138000:2 1585443600:4 1603587600:2 1616893200:4 1635642000:2 1648342800:4 1667091600:2 1679792400:4 1698541200:2 1711846800:4 1729990800:2 1743296400:4 1761440400:2 1774746000:4 1792890000:2 1806195600:4 1824944400:2 1837645200:4 1856394000:2 1869094800:4 1887843600:2 1901149200:4 1919293200:2 1932598800:4 1950742800:2 1964048400:4 1982797200:2 1995498000:4 2014246800:2 2026947600:4 2045696400:2 2058397200:4 2077146000:2 2090451600:4 2108595600:2 2121901200:4 2140045200:2|EET-2EEST,M3.5.0/3,M10.5.0/4"
  , "Europe/Stockholm|0|4332 3614 3600 7200|-2871681132:1 -2208992414:2 -1692496800:3 -1680483600:2 323830800:3 338950800:2 354675600:3 370400400:2 386125200:3 401850000:2 417574800:3 433299600:2 449024400:3 465354000:2 481078800:3 496803600:2 512528400:3 528253200:2 543978000:3 559702800:2 575427600:3 591152400:2 606877200:3 622602000:2 638326800:3 654656400:2 670381200:3 686106000:2 701830800:3 717555600:2 733280400:3 749005200:2 764730000:3 780454800:2 796179600:3 811904400:2 828234000:3 846378000:2 859683600:3 877827600:2 891133200:3 909277200:2 922582800:3 941331600:2 954032400:3 972781200:2 985482000:3 1004230800:2 1017536400:3 1035680400:2 1048986000:3 1067130000:2 1080435600:3 1099184400:2 1111885200:3 1130634000:2 1143334800:3 1162083600:2 1174784400:3 1193533200:2 1206838800:3 1224982800:2 1238288400:3 1256432400:2 1269738000:3 1288486800:2 1301187600:3 1319936400:2 1332637200:3 1351386000:2 1364691600:3 1382835600:2 1396141200:3 1414285200:2 1427590800:3 1445734800:2 1459040400:3 1477789200:2 1490490000:3 1509238800:2 1521939600:3 1540688400:2 1553994000:3 1572138000:2 1585443600:3 1603587600:2 1616893200:3 1635642000:2 1648342800:3 1667091600:2 1679792400:3 1698541200:2 1711846800:3 1729990800:2 1743296400:3 1761440400:2 1774746000:3 1792890000:2 1806195600:3 1824944400:2 1837645200:3 1856394000:2 1869094800:3 1887843600:2 1901149200:3 1919293200:2 1932598800:3 1950742800:2 1964048400:3 1982797200:2 1995498000:3 2014246800:2 2026947600:3 2045696400:2 2058397200:3 2077146000:2 2090451600:3 2108595600:2 2121901200:3 2140045200:2|CET-1CEST,M3.5.0,M10.5.0/3"
  , "Europe/Tallinn|0|5940 7200 3600 10800 14400|-2840146740:0 -1638322740:2 -1632006000:1 -1618700400:2 -1593824400:0 -1535938740:1 -927943200:3 -892954800:1 -857257200:2 -844556400:1 -828226800:2 -812502000:1 -797652000:3 354920400:4 370728000:3 386456400:4 402264000:3 417992400:4 433800000:3 449614800:4 465346800:3 481071600:4 496796400:3 512521200:4 528246000:3 543970800:4 559695600:3 575420400:4 591145200:3 606870000:3 622598400:1 638323200:3 654652800:1 670377600:3 686102400:1 701827200:3 717552000:1 733276800:3 749001600:1 764726400:3 780451200:1 796176000:3 811900800:1 828230400:3 846374400:1 859680000:3 877824000:1 891129600:3 909277200:1 922582800:3 941331600:1 1017536400:3 1035680400:1 1048986000:3 1067130000:1 1080435600:3 1099184400:1 1111885200:3 1130634000:1 1143334800:3 1162083600:1 1174784400:3 1193533200:1 1206838800:3 1224982800:1 1238288400:3 1256432400:1 1269738000:3 1288486800:1 1301187600:3 1319936400:1 1332637200:3 1351386000:1 1364691600:3 1382835600:1 1396141200:3 1414285200:1 1427590800:3 1445734800:1 1459040400:3 1477789200:1 1490490000:3 1509238800:1 1521939600:3 1540688400:1 1553994000:3 1572138000:1 1585443600:3 1603587600:1 1616893200:3 1635642000:1 1648342800:3 1667091600:1 1679792400:3 1698541200:1 1711846800:3 1729990800:1 1743296400:3 1761440400:1 1774746000:3 1792890000:1 1806195600:3 1824944400:1 1837645200:3 1856394000:1 1869094800:3 1887843600:1 1901149200:3 1919293200:1 1932598800:3 1950742800:1 1964048400:3 1982797200:1 1995498000:3 2014246800:1 2026947600:3 2045696400:1 2058397200:3 2077146000:1 2090451600:3 2108595600:1 2121901200:3 2140045200:1|EET-2EEST,M3.5.0/3,M10.5.0/4"
  , "Europe/Tirane|0|4760 3600 7200|-1767230360:1 -932346000:2 -857257200:1 -844556400:2 -843519600:1 136854000:2 149896800:1 168130800:2 181432800:1 199839600:2 213141600:1 231894000:2 244591200:1 263257200:2 276040800:1 294706800:2 307490400:1 326156400:2 339458400:1 357087600:2 370389600:1 389142000:2 402444000:1 419468400:2 433807200:1 449622000:2 465354000:1 481078800:2 496803600:1 512528400:2 528253200:1 543978000:2 559702800:1 575427600:2 591152400:1 606877200:2 622602000:1 638326800:2 654656400:1 670381200:2 686106000:1 701830800:2 717555600:1 733280400:2 749005200:1 764730000:2 780454800:1 796179600:2 811904400:1 828234000:2 846378000:1 859683600:2 877827600:1 891133200:2 909277200:1 922582800:2 941331600:1 954032400:2 972781200:1 985482000:2 1004230800:1 1017536400:2 1035680400:1 1048986000:2 1067130000:1 1080435600:2 1099184400:1 1111885200:2 1130634000:1 1143334800:2 1162083600:1 1174784400:2 1193533200:1 1206838800:2 1224982800:1 1238288400:2 1256432400:1 1269738000:2 1288486800:1 1301187600:2 1319936400:1 1332637200:2 1351386000:1 1364691600:2 1382835600:1 1396141200:2 1414285200:1 1427590800:2 1445734800:1 1459040400:2 1477789200:1 1490490000:2 1509238800:1 1521939600:2 1540688400:1 1553994000:2 1572138000:1 1585443600:2 1603587600:1 1616893200:2 1635642000:1 1648342800:2 1667091600:1 1679792400:2 1698541200:1 1711846800:2 1729990800:1 1743296400:2 1761440400:1 1774746000:2 1792890000:1 1806195600:2 1824944400:1 1837645200:2 1856394000:1 1869094800:2 1887843600:1 1901149200:2 1919293200:1 1932598800:2 1950742800:1 1964048400:2 1982797200:1 1995498000:2 2014246800:1 2026947600:2 2045696400:1 2058397200:2 2077146000:1 2090451600:2 2108595600:1 2121901200:2 2140045200:1|CET-1CEST,M3.5.0,M10.5.0/3"
  , "Europe/Ulyanovsk|0|11616 10800 18000 14400 7200|-1593820800:1 -1247540400:3 354916800:2 370724400:3 386452800:2 402260400:3 417988800:2 433796400:3 449611200:2 465343200:3 481068000:2 496792800:3 512517600:2 528242400:3 543967200:2 559692000:3 575416800:2 591141600:3 606866400:3 622594800:1 638319600:3 654649200:1 670374000:1 686102400:4 695779200:1 701823600:3 717548400:1 733273200:3 748998000:1 764722800:3 780447600:1 796172400:3 811897200:1 828226800:3 846370800:1 859676400:3 877820400:1 891126000:3 909270000:1 922575600:3 941324400:1 954025200:3 972774000:1 985474800:3 1004223600:1 1017529200:3 1035673200:1 1048978800:3 1067122800:1 1080428400:3 1099177200:1 1111878000:3 1130626800:1 1143327600:3 1162076400:1 1174777200:3 1193526000:1 1206831600:3 1224975600:1 1238281200:3 1256425200:1 1269730800:3 1288479600:1 1301180400:3 1414274400:1 1459033200:3 2147483647:3|<+04>-4"
  , "Europe/Vaduz|0|2284 7200 3600|-2385247084:2 -904435200:1 -891129600:2 -872985600:1 -859680000:2 354675600:1 370400400:2 386125200:1 401850000:2 417574800:1 433299600:2 449024400:1 465354000:2 481078800:1 496803600:2 512528400:1 528253200:2 543978000:1 559702800:2 575427600:1 591152400:2 606877200:1 622602000:2 638326800:1 654656400:2 670381200:1 686106000:2 701830800:1 717555600:2 733280400:1 749005200:2 764730000:1 780454800:2 796179600:1 811904400:2 828234000:1 846378000:2 859683600:1 877827600:2 891133200:1 909277200:2 922582800:1 941331600:2 954032400:1 972781200:2 985482000:1 1004230800:2 1017536400:1 1035680400:2 1048986000:1 1067130000:2 1080435600:1 1099184400:2 1111885200:1 1130634000:2 1143334800:1 1162083600:2 1174784400:1 1193533200:2 1206838800:1 1224982800:2 1238288400:1 1256432400:2 1269738000:1 1288486800:2 1301187600:1 1319936400:2 1332637200:1 1351386000:2 1364691600:1 1382835600:2 1396141200:1 1414285200:2 1427590800:1 1445734800:2 1459040400:1 1477789200:2 1490490000:1 1509238800:2 1521939600:1 1540688400:2 1553994000:1 1572138000:2 1585443600:1 1603587600:2 1616893200:1 1635642000:2 1648342800:1 1667091600:2 1679792400:1 1698541200:2 1711846800:1 1729990800:2 1743296400:1 1761440400:2 1774746000:1 1792890000:2 1806195600:1 1824944400:2 1837645200:1 1856394000:2 1869094800:1 1887843600:2 1901149200:1 1919293200:2 1932598800:1 1950742800:2 1964048400:1 1982797200:2 1995498000:1 2014246800:2 2026947600:1 2045696400:2 2058397200:1 2077146000:2 2090451600:1 2108595600:2 2121901200:1 2140045200:2|CET-1CEST,M3.5.0,M10.5.0/3"
  , "Europe/Vienna|0|3921 7200 3600|-2422055121:2 -1693706400:1 -1680483600:2 -1663455600:1 -1650150000:2 -1632006000:1 -1618700400:2 -1569711600:1 -1555801200:2 -938905200:1 -857257200:2 -844556400:1 -828226800:2 -812502000:1 -796777200:2 -781052400:1 -780188400:2 -748479600:1 -733273200:2 -717634800:1 -701910000:2 -684975600:1 -670460400:2 323823600:1 338940000:2 354675600:1 370400400:2 386125200:1 401850000:2 417574800:1 433299600:2 449024400:1 465354000:2 481078800:1 496803600:2 512528400:1 528253200:2 543978000:1 559702800:2 575427600:1 591152400:2 606877200:1 622602000:2 638326800:1 654656400:2 670381200:1 686106000:2 701830800:1 717555600:2 733280400:1 749005200:2 764730000:1 780454800:2 796179600:1 811904400:2 828234000:1 846378000:2 859683600:1 877827600:2 891133200:1 909277200:2 922582800:1 941331600:2 954032400:1 972781200:2 985482000:1 1004230800:2 1017536400:1 1035680400:2 1048986000:1 1067130000:2 1080435600:1 1099184400:2 1111885200:1 1130634000:2 1143334800:1 1162083600:2 1174784400:1 1193533200:2 1206838800:1 1224982800:2 1238288400:1 1256432400:2 1269738000:1 1288486800:2 1301187600:1 1319936400:2 1332637200:1 1351386000:2 1364691600:1 1382835600:2 1396141200:1 1414285200:2 1427590800:1 1445734800:2 1459040400:1 1477789200:2 1490490000:1 1509238800:2 1521939600:1 1540688400:2 1553994000:1 1572138000:2 1585443600:1 1603587600:2 1616893200:1 1635642000:2 1648342800:1 1667091600:2 1679792400:1 1698541200:2 1711846800:1 1729990800:2 1743296400:1 1761440400:2 1774746000:1 1792890000:2 1806195600:1 1824944400:2 1837645200:1 1856394000:2 1869094800:1 1887843600:2 1901149200:1 1919293200:2 1932598800:1 1950742800:2 1964048400:1 1982797200:2 1995498000:1 2014246800:2 2026947600:1 2045696400:2 2058397200:1 2077146000:2 2090451600:1 2108595600:2 2121901200:1 2140045200:2|CET-1CEST,M3.5.0,M10.5.0/3"
  , "Europe/Vilnius|0|6076 5040 5736 3600 7200 10800 14400|-2840146876:1 -1672536240:2 -1585100136:3 -1561251600:4 -1553565600:3 -928198800:5 -900126000:4 -857257200:3 -844556400:4 -828226800:3 -812502000:4 -802144800:5 354920400:6 370728000:5 386456400:6 402264000:5 417992400:6 433800000:5 449614800:6 465346800:5 481071600:6 496796400:5 512521200:6 528246000:5 543970800:6 559695600:5 575420400:6 591145200:5 606870000:5 622598400:4 638323200:5 654652800:4 670377600:5 686102400:4 701827200:5 717552000:4 733276800:5 749001600:4 764726400:5 780451200:4 796176000:5 811900800:4 828230400:5 846374400:4 859680000:5 877824000:4 891133200:4 909277200:3 922582800:4 941331600:4 1048986000:5 1067130000:4 1080435600:5 1099184400:4 1111885200:5 1130634000:4 1143334800:5 1162083600:4 1174784400:5 1193533200:4 1206838800:5 1224982800:4 1238288400:5 1256432400:4 1269738000:5 1288486800:4 1301187600:5 1319936400:4 1332637200:5 1351386000:4 1364691600:5 1382835600:4 1396141200:5 1414285200:4 1427590800:5 1445734800:4 1459040400:5 1477789200:4 1490490000:5 1509238800:4 1521939600:5 1540688400:4 1553994000:5 1572138000:4 1585443600:5 1603587600:4 1616893200:5 1635642000:4 1648342800:5 1667091600:4 1679792400:5 1698541200:4 1711846800:5 1729990800:4 1743296400:5 1761440400:4 1774746000:5 1792890000:4 1806195600:5 1824944400:4 1837645200:5 1856394000:4 1869094800:5 1887843600:4 1901149200:5 1919293200:4 1932598800:5 1950742800:4 1964048400:5 1982797200:4 1995498000:5 2014246800:4 2026947600:5 2045696400:4 2058397200:5 2077146000:4 2090451600:5 2108595600:4 2121901200:5 2140045200:4|EET-2EEST,M3.5.0/3,M10.5.0/4"
  , "Europe/Volgograd|0|10660 10800 14400 18000|-1577761060:1 -1247540400:2 354916800:3 370724400:2 386452800:3 402260400:2 417988800:3 433796400:2 449611200:3 465343200:2 481068000:3 496792800:2 512517600:3 528242400:2 543967200:3 559692000:2 575416800:2 591145200:1 606870000:2 622594800:1 638319600:2 654649200:1 670374000:2 701820000:2 717548400:1 733273200:2 748998000:1 764722800:2 780447600:1 796172400:2 811897200:1 828226800:2 846370800:1 859676400:2 877820400:1 891126000:2 909270000:1 922575600:2 941324400:1 954025200:2 972774000:1 985474800:2 1004223600:1 1017529200:2 1035673200:1 1048978800:2 1067122800:1 1080428400:2 1099177200:1 1111878000:2 1130626800:1 1143327600:2 1162076400:1 1174777200:2 1193526000:1 1206831600:2 1224975600:1 1238281200:2 1256425200:1 1269730800:2 1288479600:1 1301180400:2 1414274400:1 1540681200:2 1609020000:1|MSK-3"
  , "Europe/Warsaw Poland|0|5040 7200 3600 10800|-2840145840:0 -1717032240:2 -1693706400:1 -1680483600:2 -1663455600:1 -1650150000:2 -1632006000:1 -1618700400:1 -1600473600:3 -1587168000:1 -1501725600:2 -931734000:1 -857257200:2 -844556400:1 -828226800:2 -812502000:1 -796608000:2 -778726800:1 -762660000:2 -748486800:1 -733273200:2 -715215600:1 -701910000:2 -684975600:1 -670460400:2 -654130800:1 -639010800:2 -397094400:1 -386812800:2 -371088000:1 -355363200:2 -334195200:1 -323308800:2 -307584000:1 -291859200:2 -271296000:1 -260409600:2 -239846400:1 -228960000:2 -208396800:1 -197510400:2 -176342400:1 -166060800:2 228873600:1 243993600:2 260323200:1 276048000:2 291772800:1 307497600:2 323827200:1 338947200:2 354672000:1 370396800:2 386121600:1 401846400:2 417571200:1 433296000:2 449020800:1 465350400:2 481075200:1 496800000:2 512524800:1 528249600:2 543974400:1 559699200:2 575427600:1 591152400:2 606877200:1 622602000:2 638326800:1 654656400:2 670381200:1 686106000:2 701830800:1 717555600:2 733280400:1 749005200:2 764730000:1 780454800:2 796179600:1 811904400:2 828234000:1 846378000:2 859683600:1 877827600:2 891133200:1 909277200:2 922582800:1 941331600:2 954032400:1 972781200:2 985482000:1 1004230800:2 1017536400:1 1035680400:2 1048986000:1 1067130000:2 1080435600:1 1099184400:2 1111885200:1 1130634000:2 1143334800:1 1162083600:2 1174784400:1 1193533200:2 1206838800:1 1224982800:2 1238288400:1 1256432400:2 1269738000:1 1288486800:2 1301187600:1 1319936400:2 1332637200:1 1351386000:2 1364691600:1 1382835600:2 1396141200:1 1414285200:2 1427590800:1 1445734800:2 1459040400:1 1477789200:2 1490490000:1 1509238800:2 1521939600:1 1540688400:2 1553994000:1 1572138000:2 1585443600:1 1603587600:2 1616893200:1 1635642000:2 1648342800:1 1667091600:2 1679792400:1 1698541200:2 1711846800:1 1729990800:2 1743296400:1 1761440400:2 1774746000:1 1792890000:2 1806195600:1 1824944400:2 1837645200:1 1856394000:2 1869094800:1 1887843600:2 1901149200:1 1919293200:2 1932598800:1 1950742800:2 1964048400:1 1982797200:2 1995498000:1 2014246800:2 2026947600:1 2045696400:2 2058397200:1 2077146000:2 2090451600:1 2108595600:2 2121901200:1 2140045200:2|CET-1CEST,M3.5.0,M10.5.0/3"
  , "Europe/Zagreb|0|3832 3600 7200|-2713914232:1 -905824800:2 -857257200:1 -844556400:2 -828226800:1 -812502000:2 -796777200:1 -781052400:2 -766623600:1 417574800:2 433299600:1 449024400:2 465354000:1 481078800:2 496803600:1 512528400:2 528253200:1 543978000:2 559702800:1 575427600:2 591152400:1 606877200:2 622602000:1 638326800:2 654656400:1 670381200:2 686106000:1 701830800:2 717555600:1 733280400:2 749005200:1 764730000:2 780454800:1 796179600:2 811904400:1 828234000:2 846378000:1 859683600:2 877827600:1 891133200:2 909277200:1 922582800:2 941331600:1 954032400:2 972781200:1 985482000:2 1004230800:1 1017536400:2 1035680400:1 1048986000:2 1067130000:1 1080435600:2 1099184400:1 1111885200:2 1130634000:1 1143334800:2 1162083600:1 1174784400:2 1193533200:1 1206838800:2 1224982800:1 1238288400:2 1256432400:1 1269738000:2 1288486800:1 1301187600:2 1319936400:1 1332637200:2 1351386000:1 1364691600:2 1382835600:1 1396141200:2 1414285200:1 1427590800:2 1445734800:1 1459040400:2 1477789200:1 1490490000:2 1509238800:1 1521939600:2 1540688400:1 1553994000:2 1572138000:1 1585443600:2 1603587600:1 1616893200:2 1635642000:1 1648342800:2 1667091600:1 1679792400:2 1698541200:1 1711846800:2 1729990800:1 1743296400:2 1761440400:1 1774746000:2 1792890000:1 1806195600:2 1824944400:1 1837645200:2 1856394000:1 1869094800:2 1887843600:1 1901149200:2 1919293200:1 1932598800:2 1950742800:1 1964048400:2 1982797200:1 1995498000:2 2014246800:1 2026947600:2 2045696400:1 2058397200:2 2077146000:1 2090451600:2 2108595600:1 2121901200:2 2140045200:1|CET-1CEST,M3.5.0,M10.5.0/3"
  , "Europe/Zurich Europe/Busingen|0|2048 1786 7200 3600|-3675198848:1 -2385246586:3 -904435200:2 -891129600:3 -872985600:2 -859680000:3 354675600:2 370400400:3 386125200:2 401850000:3 417574800:2 433299600:3 449024400:2 465354000:3 481078800:2 496803600:3 512528400:2 528253200:3 543978000:2 559702800:3 575427600:2 591152400:3 606877200:2 622602000:3 638326800:2 654656400:3 670381200:2 686106000:3 701830800:2 717555600:3 733280400:2 749005200:3 764730000:2 780454800:3 796179600:2 811904400:3 828234000:2 846378000:3 859683600:2 877827600:3 891133200:2 909277200:3 922582800:2 941331600:3 954032400:2 972781200:3 985482000:2 1004230800:3 1017536400:2 1035680400:3 1048986000:2 1067130000:3 1080435600:2 1099184400:3 1111885200:2 1130634000:3 1143334800:2 1162083600:3 1174784400:2 1193533200:3 1206838800:2 1224982800:3 1238288400:2 1256432400:3 1269738000:2 1288486800:3 1301187600:2 1319936400:3 1332637200:2 1351386000:3 1364691600:2 1382835600:3 1396141200:2 1414285200:3 1427590800:2 1445734800:3 1459040400:2 1477789200:3 1490490000:2 1509238800:3 1521939600:2 1540688400:3 1553994000:2 1572138000:3 1585443600:2 1603587600:3 1616893200:2 1635642000:3 1648342800:2 1667091600:3 1679792400:2 1698541200:3 1711846800:2 1729990800:3 1743296400:2 1761440400:3 1774746000:2 1792890000:3 1806195600:2 1824944400:3 1837645200:2 1856394000:3 1869094800:2 1887843600:3 1901149200:2 1919293200:3 1932598800:2 1950742800:3 1964048400:2 1982797200:3 1995498000:2 2014246800:3 2026947600:2 2045696400:3 2058397200:2 2077146000:3 2090451600:2 2108595600:3 2121901200:2 2140045200:3|CET-1CEST,M3.5.0,M10.5.0/3"
  , "Factory|0|0||<-00>0"
  , "HST|0|-36000||HST10"
  , "Indian/Antananarivo|0|11404 10800 14400|-1846293004:1 -499924800:2 -492062400:1|EAT-3"
  , "Indian/Chagos|0|17380 18000 21600|-1988167780:1 820436400:2 2147483647:2|<+06>-6"
  , "Indian/Christmas|0|25372 25200|-2364102172:1 2147483647:1|<+07>-7"
  , "Indian/Cocos|0|23260 23400|-2209012060:1 2147483647:1|<+0630>-6:30"
  , "Indian/Comoro|0|10384 10800|-1846291984:1|EAT-3"
  , "Indian/Kerguelen|0|0 18000|-631152000:1 2147483647:1|<+05>-5"
  , "Indian/Mahe|0|13308 14400|-1988163708:1 2147483647:1|<+04>-4"
  , "Indian/Maldives|0|17640 18000|-2840158440:0 -315636840:1 2147483647:1|<+05>-5"
  , "Indian/Mauritius|0|13800 18000 14400|-1988164200:2 403041600:1 417034800:2 1224972000:1 1238274000:2 2147483647:2|<+04>-4"
  , "Indian/Mayotte|0|10856 10800|-1846292456:1|EAT-3"
  , "Indian/Reunion|0|13312 14400|-1848886912:1 2147483647:1|<+04>-4"
  , "MET|0|3600 7200|-1693706400:1 -1680483600:0 -1663455600:1 -1650150000:0 -1632006000:1 -1618700400:0 -938905200:1 -857257200:0 -844556400:1 -828226800:0 -812502000:1 -796777200:0 -781052400:1 -766623600:0 228877200:1 243997200:0 260326800:1 276051600:0 291776400:1 307501200:0 323830800:1 338950800:0 354675600:1 370400400:0 386125200:1 401850000:0 417574800:1 433299600:0 449024400:1 465354000:0 481078800:1 496803600:0 512528400:1 528253200:0 543978000:1 559702800:0 575427600:1 591152400:0 606877200:1 622602000:0 638326800:1 654656400:0 670381200:1 686106000:0 701830800:1 717555600:0 733280400:1 749005200:0 764730000:1 780454800:0 796179600:1 811904400:0 828234000:1 846378000:0 859683600:1 877827600:0 891133200:1 909277200:0 922582800:1 941331600:0 954032400:1 972781200:0 985482000:1 1004230800:0 1017536400:1 1035680400:0 1048986000:1 1067130000:0 1080435600:1 1099184400:0 1111885200:1 1130634000:0 1143334800:1 1162083600:0 1174784400:1 1193533200:0 1206838800:1 1224982800:0 1238288400:1 1256432400:0 1269738000:1 1288486800:0 1301187600:1 1319936400:0 1332637200:1 1351386000:0 1364691600:1 1382835600:0 1396141200:1 1414285200:0 1427590800:1 1445734800:0 1459040400:1 1477789200:0 1490490000:1 1509238800:0 1521939600:1 1540688400:0 1553994000:1 1572138000:0 1585443600:1 1603587600:0 1616893200:1 1635642000:0 1648342800:1 1667091600:0 1679792400:1 1698541200:0 1711846800:1 1729990800:0 1743296400:1 1761440400:0 1774746000:1 1792890000:0 1806195600:1 1824944400:0 1837645200:1 1856394000:0 1869094800:1 1887843600:0 1901149200:1 1919293200:0 1932598800:1 1950742800:0 1964048400:1 1982797200:0 1995498000:1 2014246800:0 2026947600:1 2045696400:0 2058397200:1 2077146000:0 2090451600:1 2108595600:0 2121901200:1 2140045200:0|MET-1MEST,M3.5.0,M10.5.0/3"
  , "MST|0|-25200||MST7"
  , "MST7MDT|0|-25200 -21600|-1633273200:1 -1615132800:0 -1601823600:1 -1583683200:0 -880210800:1 -769395600:1 -765388800:0 -84380400:1 -68659200:0 -52930800:1 -37209600:0 -21481200:1 -5760000:0 9968400:1 25689600:0 41418000:1 57744000:0 73472400:1 89193600:0 104922000:1 120643200:0 126694800:1 152092800:0 162378000:1 183542400:0 199270800:1 215596800:0 230720400:1 247046400:0 262774800:1 278496000:0 294224400:1 309945600:0 325674000:1 341395200:0 357123600:1 372844800:0 388573200:1 404899200:0 420022800:1 436348800:0 452077200:1 467798400:0 483526800:1 499248000:0 514976400:1 530697600:0 544611600:1 562147200:0 576061200:1 594201600:0 607510800:1 625651200:0 638960400:1 657100800:0 671014800:1 688550400:0 702464400:1 720000000:0 733914000:1 752054400:0 765363600:1 783504000:0 796813200:1 814953600:0 828867600:1 846403200:0 860317200:1 877852800:0 891766800:1 909302400:0 923216400:1 941356800:0 954666000:1 972806400:0 986115600:1 1004256000:0 1018170000:1 1035705600:0 1049619600:1 1067155200:0 1081069200:1 1099209600:0 1112518800:1 1130659200:0 1143968400:1 1162108800:0 1173603600:1 1194163200:0 1205053200:1 1225612800:0 1236502800:1 1257062400:0 1268557200:1 1289116800:0 1300006800:1 1320566400:0 1331456400:1 1352016000:0 1362906000:1 1383465600:0 1394355600:1 1414915200:0 1425805200:1 1446364800:0 1457859600:1 1478419200:0 1489309200:1 1509868800:0 1520758800:1 1541318400:0 1552208400:1 1572768000:0 1583658000:1 1604217600:0 1615712400:1 1636272000:0 1647162000:1 1667721600:0 1678611600:1 1699171200:0 1710061200:1 1730620800:0 1741510800:1 1762070400:0 1772960400:1 1793520000:0 1805014800:1 1825574400:0 1836464400:1 1857024000:0 1867914000:1 1888473600:0 1899363600:1 1919923200:0 1930813200:1 1951372800:0 1962867600:1 1983427200:0 1994317200:1 2014876800:0 2025766800:1 2046326400:0 2057216400:1 2077776000:0 2088666000:1 2109225600:0 2120115600:1 2140675200:0|MST7MDT,M3.2.0,M11.1.0"
  , "PST8PDT|0|-28800 -25200|-1633269600:1 -1615129200:0 -1601820000:1 -1583679600:0 -880207200:1 -769395600:1 -765385200:0 -84376800:1 -68655600:0 -52927200:1 -37206000:0 -21477600:1 -5756400:0 9972000:1 25693200:0 41421600:1 57747600:0 73476000:1 89197200:0 104925600:1 120646800:0 126698400:1 152096400:0 162381600:1 183546000:0 199274400:1 215600400:0 230724000:1 247050000:0 262778400:1 278499600:0 294228000:1 309949200:0 325677600:1 341398800:0 357127200:1 372848400:0 388576800:1 404902800:0 420026400:1 436352400:0 452080800:1 467802000:0 483530400:1 499251600:0 514980000:1 530701200:0 544615200:1 562150800:0 576064800:1 594205200:0 607514400:1 625654800:0 638964000:1 657104400:0 671018400:1 688554000:0 702468000:1 720003600:0 733917600:1 752058000:0 765367200:1 783507600:0 796816800:1 814957200:0 828871200:1 846406800:0 860320800:1 877856400:0 891770400:1 909306000:0 923220000:1 941360400:0 954669600:1 972810000:0 986119200:1 1004259600:0 1018173600:1 1035709200:0 1049623200:1 1067158800:0 1081072800:1 1099213200:0 1112522400:1 1130662800:0 1143972000:1 1162112400:0 1173607200:1 1194166800:0 1205056800:1 1225616400:0 1236506400:1 1257066000:0 1268560800:1 1289120400:0 1300010400:1 1320570000:0 1331460000:1 1352019600:0 1362909600:1 1383469200:0 1394359200:1 1414918800:0 1425808800:1 1446368400:0 1457863200:1 1478422800:0 1489312800:1 1509872400:0 1520762400:1 1541322000:0 1552212000:1 1572771600:0 1583661600:1 1604221200:0 1615716000:1 1636275600:0 1647165600:1 1667725200:0 1678615200:1 1699174800:0 1710064800:1 1730624400:0 1741514400:1 1762074000:0 1772964000:1 1793523600:0 1805018400:1 1825578000:0 1836468000:1 1857027600:0 1867917600:1 1888477200:0 1899367200:1 1919926800:0 1930816800:1 1951376400:0 1962871200:1 1983430800:0 1994320800:1 2014880400:0 2025770400:1 2046330000:0 2057220000:1 2077779600:0 2088669600:1 2109229200:0 2120119200:1 2140678800:0|PST8PDT,M3.2.0,M11.1.0"
  , "Pacific/Apia|0|45184 -41216 -41400 -36000 -39600 46800 50400|-2445424384:1 -1861878784:2 -631110600:4 1285498800:3 1301752800:4 1316872800:3 1325239200:6 1333202400:5 1348927200:6 1365256800:5 1380376800:6 1396706400:5 1411826400:6 1428156000:5 1443276000:6 1459605600:5 1474725600:6 1491055200:5 1506175200:6 1522504800:5 1538229600:6 1554559200:5 1569679200:6 1586008800:5 1601128800:6 1617458400:5 2147483647:5|<+13>-13"
  , "Pacific/Auckland NZ|0|41944 45000 41400 43200 46800|-3192435544:2 -1330335000:1 -1320057000:2 -1300699800:3 -1287396000:2 -1269250200:3 -1255946400:2 -1237800600:3 -1224496800:2 -1206351000:3 -1192442400:2 -1174901400:3 -1160992800:2 -1143451800:3 -1125914400:2 -1112607000:3 -1094464800:2 -1081157400:3 -1063015200:2 -1049707800:3 -1031565600:2 -1018258200:3 -1000116000:2 -986808600:3 -968061600:2 -955359000:3 -936612000:2 -923304600:3 -757425600:3 152632800:4 162309600:3 183477600:4 194968800:3 215532000:4 226418400:3 246981600:4 257868000:3 278431200:4 289317600:3 309880800:4 320767200:3 341330400:4 352216800:3 372780000:4 384271200:3 404834400:4 415720800:3 436284000:4 447170400:3 467733600:4 478620000:3 499183200:4 510069600:3 530632800:4 541519200:3 562082400:4 573573600:3 594136800:4 605023200:3 623772000:4 637682400:3 655221600:4 669132000:3 686671200:4 700581600:3 718120800:4 732636000:3 749570400:4 764085600:3 781020000:4 795535200:3 812469600:4 826984800:3 844524000:4 858434400:3 875973600:4 889884000:3 907423200:4 921938400:3 938872800:4 953388000:3 970322400:4 984837600:3 1002376800:4 1016287200:3 1033826400:4 1047736800:3 1065276000:4 1079791200:3 1096725600:4 1111240800:3 1128175200:4 1142690400:3 1159624800:4 1174140000:3 1191074400:4 1207404000:3 1222524000:4 1238853600:3 1253973600:4 1270303200:3 1285423200:4 1301752800:3 1316872800:4 1333202400:3 1348927200:4 1365256800:3 1380376800:4 1396706400:3 1411826400:4 1428156000:3 1443276000:4 1459605600:3 1474725600:4 1491055200:3 1506175200:4 1522504800:3 1538229600:4 1554559200:3 1569679200:4 1586008800:3 1601128800:4 1617458400:3 1632578400:4 1648908000:3 1664028000:4 1680357600:3 1695477600:4 1712412000:3 1727532000:4 1743861600:3 1758981600:4 1775311200:3 1790431200:4 1806760800:3 1821880800:4 1838210400:3 1853330400:4 1869660000:3 1885384800:4 1901714400:3 1916834400:4 1933164000:3 1948284000:4 1964613600:3 1979733600:4 1996063200:3 2011183200:4 2027512800:3 2042632800:4 2058962400:3 2074687200:4 2091016800:3 2106136800:4 2122466400:3 2137586400:4|NZST-12NZDT,M9.5.0,M4.1.0/3"
  , "Pacific/Bougainville|0|37336 35312 36000 32400 39600|-2840178136:1 -2366790512:2 -868010400:3 -768906000:2 1419696000:4 2147483647:4|<+11>-11"
  , "Pacific/Chatham NZ-CHAT|0|44028 44100 49500 45900|-3192437628:1 -757426500:3 152632800:2 162309600:3 183477600:2 194968800:3 215532000:2 226418400:3 246981600:2 257868000:3 278431200:2 289317600:3 309880800:2 320767200:3 341330400:2 352216800:3 372780000:2 384271200:3 404834400:2 415720800:3 436284000:2 447170400:3 467733600:2 478620000:3 499183200:2 510069600:3 530632800:2 541519200:3 562082400:2 573573600:3 594136800:2 605023200:3 623772000:2 637682400:3 655221600:2 669132000:3 686671200:2 700581600:3 718120800:2 732636000:3 749570400:2 764085600:3 781020000:2 795535200:3 812469600:2 826984800:3 844524000:2 858434400:3 875973600:2 889884000:3 907423200:2 921938400:3 938872800:2 953388000:3 970322400:2 984837600:3 1002376800:2 1016287200:3 1033826400:2 1047736800:3 1065276000:2 1079791200:3 1096725600:2 1111240800:3 1128175200:2 1142690400:3 1159624800:2 1174140000:3 1191074400:2 1207404000:3 1222524000:2 1238853600:3 1253973600:2 1270303200:3 1285423200:2 1301752800:3 1316872800:2 1333202400:3 1348927200:2 1365256800:3 1380376800:2 1396706400:3 1411826400:2 1428156000:3 1443276000:2 1459605600:3 1474725600:2 1491055200:3 1506175200:2 1522504800:3 1538229600:2 1554559200:3 1569679200:2 1586008800:3 1601128800:2 1617458400:3 1632578400:2 1648908000:3 1664028000:2 1680357600:3 1695477600:2 1712412000:3 1727532000:2 1743861600:3 1758981600:2 1775311200:3 1790431200:2 1806760800:3 1821880800:2 1838210400:3 1853330400:2 1869660000:3 1885384800:2 1901714400:3 1916834400:2 1933164000:3 1948284000:2 1964613600:3 1979733600:2 1996063200:3 2011183200:2 2027512800:3 2042632800:2 2058962400:3 2074687200:2 2091016800:3 2106136800:2 2122466400:3 2137586400:2 2147483647:2|<+1245>-12:45<+1345>,M9.5.0/2:45,M4.1.0/3:45"
  , "Pacific/Chuuk Pacific/Truk Pacific/Yap|0|-49972 36428 36000 32400|-3944628428:1 -2177489228:2 -1743674400:3 -1606813200:2 -907408800:3 -770634000:2 2147483647:2|<+10>-10"
  , "Pacific/Easter Chile/EasterIsland|0|-26248 -21600 -25200 -18000|-2524495352:0 -1178124152:2 -36619200:1 -23922000:2 -3355200:1 7527600:2 24465600:1 37767600:2 55915200:1 69217200:2 87969600:1 100666800:2 118209600:1 132116400:2 150868800:1 163566000:2 182318400:1 195620400:2 213768000:1 227070000:2 245217600:1 258519600:2 277272000:1 289969200:2 308721600:1 321418800:2 340171200:1 353473200:2 371620800:1 384922800:1 403070400:3 416372400:1 434520000:3 447822000:1 466574400:3 479271600:1 498024000:3 510721200:1 529473600:3 545194800:1 560923200:3 574225200:1 592372800:3 605674800:1 624427200:3 637124400:1 653457600:3 668574000:1 687326400:3 700628400:1 718776000:3 732078000:1 750225600:3 763527600:1 781675200:3 794977200:1 813729600:3 826426800:1 845179200:3 859690800:1 876628800:3 889930800:1 906868800:3 923194800:1 939528000:3 952830000:1 971582400:3 984279600:1 1003032000:3 1015729200:1 1034481600:3 1047178800:1 1065931200:3 1079233200:1 1097380800:3 1110682800:1 1128830400:3 1142132400:1 1160884800:3 1173582000:1 1192334400:3 1206846000:1 1223784000:3 1237086000:1 1255233600:3 1270350000:1 1286683200:3 1304823600:1 1313899200:3 1335668400:1 1346558400:3 1367118000:1 1378612800:3 1398567600:1 1410062400:3 1463281200:1 1471147200:3 1494730800:1 1502596800:3 1526180400:1 1534046400:3 1554606000:1 1567915200:3 1586055600:1 1599364800:3 1617505200:1 1630814400:3 1648954800:1 1662868800:3 1680404400:1 1693713600:3 1712458800:1 1725768000:3 1743908400:1 1757217600:3 1775358000:1 1788667200:3 1806807600:1 1820116800:3 1838257200:1 1851566400:3 1870311600:1 1883016000:3 1901761200:1 1915070400:3 1933210800:1 1946520000:3 1964660400:1 1977969600:3 1996110000:1 2009419200:3 2027559600:1 2040868800:3 2059614000:1 2072318400:3 2091063600:1 2104372800:3 2122513200:1 2135822400:3 2147483647:3|<-06>6<-05>,M9.1.6/22,M4.1.6/22"
  , "Pacific/Efate|0|40396 43200 39600|-1829387596:2 125409600:1 133876800:2 433256400:1 448977600:2 464706000:1 480427200:2 496760400:1 511876800:2 528210000:1 543931200:2 559659600:1 575380800:2 591109200:1 606830400:2 622558800:1 638280000:2 654008400:1 669729600:2 686062800:1 696340800:2 719931600:1 727790400:2 2147483647:2|<+11>-11"
  , "Pacific/Fakaofo|0|-41096 -39600 46800|-2177411704:1 1325242800:2 2147483647:2|<+13>-13"
  , "Pacific/Fiji|0|42944 46800 43200|-1709985344:2 909842400:1 920124000:2 941896800:1 951573600:2 1259416800:1 1269698400:2 1287842400:1 1299333600:2 1319292000:1 1327154400:2 1350741600:1 1358604000:2 1382796000:1 1390050000:2 1414850400:1 1421503200:2 1446300000:1 1452952800:2 1478354400:1 1484402400:2 1509804000:1 1515852000:2 1541253600:1 1547301600:2 1573308000:1 1578751200:2 1608386400:1 1610805600:2 2147483647:2|<+12>-12"
  , "Pacific/Funafuti|0|43012 43200|-2177495812:1 2147483647:1|<+12>-12"
  , "Pacific/Galapagos|0|-21504 -18000 -21600|-1230746496:1 504939600:2 722930400:1 728888400:2 2147483647:2|<-06>6"
  , "Pacific/Gambier|0|-32388 -32400|-1806678012:1 2147483647:1|<-09>9"
  , "Pacific/Guadalcanal|0|38388 39600|-1806748788:1 2147483647:1|<+11>-11"
  , "Pacific/Guam|0|-51660 34740 36000 32400 39600|-3944626740:1 -2177487540:2 -885549600:3 -802256400:2 -331891200:4 -281610000:2 -73728000:4 -29415540:2 -16704000:4 -10659600:2 9907200:4 21394800:2 41356800:4 52844400:2 124819200:4 130863600:2 201888000:4 209487660:2 230659200:4 241542000:2 977493600:2|ChST-10"
  , "Pacific/Honolulu Pacific/Johnston US/Hawaii|0|-37886 -37800 -34200 -36000|-2334101314:1 -1157283000:2 -1155436200:1 -880198200:2 -769395600:2 -765376200:1 -712150200:3|HST10"
  , "Pacific/Kanton Pacific/Enderbury|0|0 -43200 -39600 46800|-1020470400:1 307627200:2 788871600:3 2147483647:3|<+13>-13"
  , "Pacific/Kiritimati|0|-37760 -38400 -36000 50400|-2177415040:1 307622400:2 788868000:3 2147483647:3|<+14>-14"
  , "Pacific/Kosrae|0|-47284 39116 39600 32400 36000 43200|-3944631116:1 -2177491916:2 -1743678000:3 -1606813200:2 -1041418800:4 -907408800:3 -770634000:2 -7988400:5 915105600:2 2147483647:2|<+11>-11"
  , "Pacific/Kwajalein Kwajalein|0|40160 39600 36000 32400 -43200 43200|-2177492960:1 -1041418800:2 -907408800:3 -817462800:1 -7988400:4 745934400:5 2147483647:5|<+12>-12"
  , "Pacific/Majuro|0|41088 39600 32400 36000 43200|-2177493888:1 -1743678000:2 -1606813200:1 -1041418800:3 -907408800:2 -818067600:1 -7988400:4 2147483647:4|<+12>-12"
  , "Pacific/Marquesas|0|-33480 -34200|-1806676920:1 2147483647:1|<-0930>9:30"
  , "Pacific/Midway|0|-42568 -39600 -36000|-2177410232:1 -428504400:2 -420645600:1|SST11"
  , "Pacific/Nauru|0|40060 41400 32400 43200|-1545131260:1 -862918200:2 -767350800:1 287418600:3 2147483647:3|<+12>-12"
  , "Pacific/Niue|0|-40780 -40800 -39600|-543069620:1 -173623200:2 2147483647:2|<-11>11"
  , "Pacific/Norfolk|0|40312 40320 41400 45000 39600 43200|-2177493112:1 -599656320:2 152029800:3 162916200:2 1443882600:4 1570287600:5 1586012400:4 1601737200:5 1617462000:4 1633186800:5 1648911600:4 1664636400:5 1680361200:4 1696086000:5 1712415600:4 1728140400:5 1743865200:4 1759590000:5 1775314800:4 1791039600:5 1806764400:4 1822489200:5 1838214000:4 1853938800:5 1869663600:4 1885993200:5 1901718000:4 1917442800:5 1933167600:4 1948892400:5 1964617200:4 1980342000:5 1996066800:4 2011791600:5 2027516400:4 2043241200:5 2058966000:4 2075295600:5 2091020400:4 2106745200:5 2122470000:4 2138194800:5 2147483647:5|<+11>-11<+12>,M10.1.0,M4.1.0/3"
  , "Pacific/Noumea|0|39948 43200 39600|-1829387148:2 250002000:1 257342400:2 281451600:1 288878400:2 849366000:1 857228400:2 2147483647:2|<+11>-11"
  , "Pacific/Pago_Pago Pacific/Samoa US/Samoa|0|45432 -40968 -39600|-2445424632:1 -1861879032:2|SST11"
  , "Pacific/Palau|0|-54124 32276 32400|-3944624276:1 -2177485076:2 2147483647:2|<+09>-9"
  , "Pacific/Pitcairn|0|-31220 -30600 -28800|-2177421580:1 893665800:2 2147483647:2|<-08>8"
  , "Pacific/Pohnpei Pacific/Ponape|0|-48428 37972 39600 32400 36000|-3944629972:1 -2177490772:2 -1743678000:3 -1606813200:2 -1041418800:4 -907408800:3 -770634000:2 2147483647:2|<+11>-11"
  , "Pacific/Port_Moresby|0|35320 35312 36000|-2840176120:1 -2366790512:2 2147483647:2|<+10>-10"
  , "Pacific/Rarotonga|0|48056 -38344 -37800 -36000 -34200|-2209555256:1 -543072056:2 279714600:4 289387800:3 309952800:4 320837400:3 341402400:4 352287000:3 372852000:4 384341400:3 404906400:4 415791000:3 436356000:4 447240600:3 467805600:4 478690200:3 499255200:4 510139800:3 530704800:4 541589400:3 562154400:4 573643800:3 594208800:4 605093400:3 625658400:4 636543000:3 657108000:4 667992600:3 2147483647:3|<-10>10"
  , "Pacific/Saipan|0|-51420 34980 32400 39600 36000|-3944626980:1 -2177487780:2 -804157200:4 -331891200:3 -281610000:4 -73728000:3 -29415540:4 -16704000:3 -10659600:4 9907200:3 21394800:4 41356800:3 52844400:4 124819200:3 130863600:4 201888000:3 209487660:4 230659200:3 241542000:4 977493600:4|ChST-10"
  , "Pacific/Tahiti|0|-35896 -36000|-1806674504:1 2147483647:1|<-10>10"
  , "Pacific/Tarawa|0|41524 43200|-2177494324:1 2147483647:1|<+12>-12"
  , "Pacific/Tongatapu|0|44352 44400 46800 50400|-767189952:1 -284041200:2 939214800:3 953384400:2 973342800:3 980596800:2 1004792400:3 1012046400:2 1478350800:3 1484398800:2 2147483647:2|<+13>-13"
  , "Pacific/Wake|0|39988 43200|-2177492788:1 2147483647:1|<+12>-12"
  , "Pacific/Wallis|0|44120 43200|-2177496920:1 2147483647:1|<+12>-12"
  , "WET|0|0 3600|228877200:1 243997200:0 260326800:1 276051600:0 291776400:1 307501200:0 323830800:1 338950800:0 354675600:1 370400400:0 386125200:1 401850000:0 417574800:1 433299600:0 449024400:1 465354000:0 481078800:1 496803600:0 512528400:1 528253200:0 543978000:1 559702800:0 575427600:1 591152400:0 606877200:1 622602000:0 638326800:1 654656400:0 670381200:1 686106000:0 701830800:1 717555600:0 733280400:1 749005200:0 764730000:1 780454800:0 796179600:1 811904400:0 828234000:1 846378000:0 859683600:1 877827600:0 891133200:1 909277200:0 922582800:1 941331600:0 954032400:1 972781200:0 985482000:1 1004230800:0 1017536400:1 1035680400:0 1048986000:1 1067130000:0 1080435600:1 1099184400:0 1111885200:1 1130634000:0 1143334800:1 1162083600:0 1174784400:1 1193533200:0 1206838800:1 1224982800:0 1238288400:1 1256432400:0 1269738000:1 1288486800:0 1301187600:1 1319936400:0 1332637200:1 1351386000:0 1364691600:1 1382835600:0 1396141200:1 1414285200:0 1427590800:1 1445734800:0 1459040400:1 1477789200:0 1490490000:1 1509238800:0 1521939600:1 1540688400:0 1553994000:1 1572138000:0 1585443600:1 1603587600:0 1616893200:1 1635642000:0 1648342800:1 1667091600:0 1679792400:1 1698541200:0 1711846800:1 1729990800:0 1743296400:1 1761440400:0 1774746000:1 1792890000:0 1806195600:1 1824944400:0 1837645200:1 1856394000:0 1869094800:1 1887843600:0 1901149200:1 1919293200:0 1932598800:1 1950742800:0 1964048400:1 1982797200:0 1995498000:1 2014246800:0 2026947600:1 2045696400:0 2058397200:1 2077146000:0 2090451600:1 2108595600:0 2121901200:1 2140045200:0|WET0WEST,M3.5.0/1,M10.5.0"
  ]

end ZoneTable

end HostDispatch
