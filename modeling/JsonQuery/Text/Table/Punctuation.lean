/-
  JsonQuery.Text.Table.Punctuation
  ────────────────────────────────
  The punctuation and the symbols, by their general categories.
-/
import JsonQuery.Text.Ranges

namespace JsonQuery.Text

/-- The category Pc. -/
def connectorPunctuation : Ranges :=
  [(95, 95), (8255, 8256), (8276, 8276), (65075, 65076), (65101, 65103), (65343, 65343)]

/-- The category Pd. -/
def dashPunctuation : Ranges :=
  [(45, 45), (1418, 1418), (1470, 1470), (5120, 5120), (6150, 6150), (8208, 8213), (11799, 11799),
   (11802, 11802), (11834, 11835), (11840, 11840), (11869, 11869), (12316, 12316), (12336, 12336),
   (12448, 12448), (65073, 65074), (65112, 65112), (65123, 65123), (65293, 65293), (68974, 68974),
   (69293, 69293)]

/-- The category Ps. -/
def openPunctuation : Ranges :=
  [(40, 40), (91, 91), (123, 123), (3898, 3898), (3900, 3900), (5787, 5787), (8218, 8218),
   (8222, 8222), (8261, 8261), (8317, 8317), (8333, 8333), (8968, 8968), (8970, 8970),
   (9001, 9001), (10088, 10088), (10090, 10090), (10092, 10092), (10094, 10094), (10096, 10096),
   (10098, 10098), (10100, 10100), (10181, 10181), (10214, 10214), (10216, 10216), (10218, 10218),
   (10220, 10220), (10222, 10222), (10627, 10627), (10629, 10629), (10631, 10631), (10633, 10633),
   (10635, 10635), (10637, 10637), (10639, 10639), (10641, 10641), (10643, 10643), (10645, 10645),
   (10647, 10647), (10712, 10712), (10714, 10714), (10748, 10748), (11810, 11810), (11812, 11812),
   (11814, 11814), (11816, 11816), (11842, 11842), (11861, 11861), (11863, 11863), (11865, 11865),
   (11867, 11867), (12296, 12296), (12298, 12298), (12300, 12300), (12302, 12302), (12304, 12304),
   (12308, 12308), (12310, 12310), (12312, 12312), (12314, 12314), (12317, 12317), (64831, 64831),
   (65047, 65047), (65077, 65077), (65079, 65079), (65081, 65081), (65083, 65083), (65085, 65085),
   (65087, 65087), (65089, 65089), (65091, 65091), (65095, 65095), (65113, 65113), (65115, 65115),
   (65117, 65117), (65288, 65288), (65339, 65339), (65371, 65371), (65375, 65375), (65378, 65378)]

/-- The category Pe. -/
def closePunctuation : Ranges :=
  [(41, 41), (93, 93), (125, 125), (3899, 3899), (3901, 3901), (5788, 5788), (8262, 8262),
   (8318, 8318), (8334, 8334), (8969, 8969), (8971, 8971), (9002, 9002), (10089, 10089),
   (10091, 10091), (10093, 10093), (10095, 10095), (10097, 10097), (10099, 10099), (10101, 10101),
   (10182, 10182), (10215, 10215), (10217, 10217), (10219, 10219), (10221, 10221), (10223, 10223),
   (10628, 10628), (10630, 10630), (10632, 10632), (10634, 10634), (10636, 10636), (10638, 10638),
   (10640, 10640), (10642, 10642), (10644, 10644), (10646, 10646), (10648, 10648), (10713, 10713),
   (10715, 10715), (10749, 10749), (11811, 11811), (11813, 11813), (11815, 11815), (11817, 11817),
   (11862, 11862), (11864, 11864), (11866, 11866), (11868, 11868), (12297, 12297), (12299, 12299),
   (12301, 12301), (12303, 12303), (12305, 12305), (12309, 12309), (12311, 12311), (12313, 12313),
   (12315, 12315), (12318, 12319), (64830, 64830), (65048, 65048), (65078, 65078), (65080, 65080),
   (65082, 65082), (65084, 65084), (65086, 65086), (65088, 65088), (65090, 65090), (65092, 65092),
   (65096, 65096), (65114, 65114), (65116, 65116), (65118, 65118), (65289, 65289), (65341, 65341),
   (65373, 65373), (65376, 65376), (65379, 65379)]

/-- The category Pi. -/
def initialPunctuation : Ranges :=
  [(171, 171), (8216, 8216), (8219, 8220), (8223, 8223), (8249, 8249), (11778, 11778),
   (11780, 11780), (11785, 11785), (11788, 11788), (11804, 11804), (11808, 11808)]

/-- The category Pf. -/
def finalPunctuation : Ranges :=
  [(187, 187), (8217, 8217), (8221, 8221), (8250, 8250), (11779, 11779), (11781, 11781),
   (11786, 11786), (11789, 11789), (11805, 11805), (11809, 11809)]

/-- The category Po. -/
def otherPunctuation : Ranges :=
  [(33, 35), (37, 39), (42, 42), (44, 44), (46, 47), (58, 59), (63, 64), (92, 92), (161, 161),
   (167, 167), (182, 183), (191, 191), (894, 894), (903, 903), (1370, 1375), (1417, 1417),
   (1472, 1472), (1475, 1475), (1478, 1478), (1523, 1524), (1545, 1546), (1548, 1549),
   (1563, 1563), (1565, 1567), (1642, 1645), (1748, 1748), (1792, 1805), (2039, 2041),
   (2096, 2110), (2142, 2142), (2404, 2405), (2416, 2416), (2557, 2557), (2678, 2678),
   (2800, 2800), (3191, 3191), (3204, 3204), (3572, 3572), (3663, 3663), (3674, 3675),
   (3844, 3858), (3860, 3860), (3973, 3973), (4048, 4052), (4057, 4058), (4170, 4175),
   (4347, 4347), (4960, 4968), (5742, 5742), (5867, 5869), (5941, 5942), (6100, 6102),
   (6104, 6106), (6144, 6149), (6151, 6154), (6468, 6469), (6686, 6687), (6816, 6822),
   (6824, 6829), (6990, 6991), (7002, 7008), (7037, 7039), (7164, 7167), (7227, 7231),
   (7294, 7295), (7360, 7367), (7379, 7379), (8214, 8215), (8224, 8231), (8240, 8248),
   (8251, 8254), (8257, 8259), (8263, 8273), (8275, 8275), (8277, 8286), (11513, 11516),
   (11518, 11519), (11632, 11632), (11776, 11777), (11782, 11784), (11787, 11787), (11790, 11798),
   (11800, 11801), (11803, 11803), (11806, 11807), (11818, 11822), (11824, 11833), (11836, 11839),
   (11841, 11841), (11843, 11855), (11858, 11860), (12289, 12291), (12349, 12349), (12539, 12539),
   (42238, 42239), (42509, 42511), (42611, 42611), (42622, 42622), (42738, 42743), (43124, 43127),
   (43214, 43215), (43256, 43258), (43260, 43260), (43310, 43311), (43359, 43359), (43457, 43469),
   (43486, 43487), (43612, 43615), (43742, 43743), (43760, 43761), (44011, 44011), (65040, 65046),
   (65049, 65049), (65072, 65072), (65093, 65094), (65097, 65100), (65104, 65106), (65108, 65111),
   (65119, 65121), (65128, 65128), (65130, 65131), (65281, 65283), (65285, 65287), (65290, 65290),
   (65292, 65292), (65294, 65295), (65306, 65307), (65311, 65312), (65340, 65340), (65377, 65377),
   (65380, 65381), (65792, 65794), (66463, 66463), (66512, 66512), (66927, 66927), (67671, 67671),
   (67871, 67871), (67903, 67903), (68176, 68184), (68223, 68223), (68336, 68342), (68409, 68415),
   (68505, 68508), (69461, 69465), (69510, 69513), (69703, 69709), (69819, 69820), (69822, 69825),
   (69952, 69955), (70004, 70005), (70085, 70088), (70093, 70093), (70107, 70107), (70109, 70111),
   (70200, 70205), (70313, 70313), (70612, 70613), (70615, 70616), (70731, 70735), (70746, 70747),
   (70749, 70749), (70854, 70854), (71105, 71127), (71233, 71235), (71264, 71276), (71353, 71353),
   (71484, 71486), (71739, 71739), (72004, 72006), (72162, 72162), (72255, 72262), (72346, 72348),
   (72350, 72354), (72448, 72457), (72673, 72673), (72769, 72773), (72816, 72817), (73463, 73464),
   (73539, 73551), (73727, 73727), (74864, 74868), (77809, 77810), (92782, 92783), (92917, 92917),
   (92983, 92987), (92996, 92996), (93549, 93551), (93847, 93850), (94178, 94178),
   (113823, 113823), (121479, 121483), (124415, 124415), (125278, 125279)]

/-- The category Sm. -/
def mathSymbol : Ranges :=
  [(43, 43), (60, 62), (124, 124), (126, 126), (172, 172), (177, 177), (215, 215), (247, 247),
   (1014, 1014), (1542, 1544), (8260, 8260), (8274, 8274), (8314, 8316), (8330, 8332),
   (8472, 8472), (8512, 8516), (8523, 8523), (8592, 8596), (8602, 8603), (8608, 8608),
   (8611, 8611), (8614, 8614), (8622, 8622), (8654, 8655), (8658, 8658), (8660, 8660),
   (8692, 8959), (8992, 8993), (9084, 9084), (9115, 9139), (9180, 9185), (9655, 9655),
   (9665, 9665), (9720, 9727), (9839, 9839), (10176, 10180), (10183, 10213), (10224, 10239),
   (10496, 10626), (10649, 10711), (10716, 10747), (10750, 11007), (11056, 11076), (11079, 11084),
   (64297, 64297), (65122, 65122), (65124, 65126), (65291, 65291), (65308, 65310), (65372, 65372),
   (65374, 65374), (65506, 65506), (65513, 65516), (69006, 69007), (120513, 120513),
   (120539, 120539), (120571, 120571), (120597, 120597), (120629, 120629), (120655, 120655),
   (120687, 120687), (120713, 120713), (120745, 120745), (120771, 120771), (126704, 126705)]

/-- The category Sc. -/
def currencySymbol : Ranges :=
  [(36, 36), (162, 165), (1423, 1423), (1547, 1547), (2046, 2047), (2546, 2547), (2555, 2555),
   (2801, 2801), (3065, 3065), (3647, 3647), (6107, 6107), (8352, 8384), (43064, 43064),
   (65020, 65020), (65129, 65129), (65284, 65284), (65504, 65505), (65509, 65510), (73693, 73696),
   (123647, 123647), (126128, 126128)]

/-- The category Sk. -/
def modifierSymbol : Ranges :=
  [(94, 94), (96, 96), (168, 168), (175, 175), (180, 180), (184, 184), (706, 709), (722, 735),
   (741, 747), (749, 749), (751, 767), (885, 885), (900, 901), (2184, 2184), (8125, 8125),
   (8127, 8129), (8141, 8143), (8157, 8159), (8173, 8175), (8189, 8190), (12443, 12444),
   (42752, 42774), (42784, 42785), (42889, 42890), (43867, 43867), (43882, 43883), (64434, 64450),
   (65342, 65342), (65344, 65344), (65507, 65507), (127995, 127999)]

/-- The category So. -/
def otherSymbol : Ranges :=
  [(166, 166), (169, 169), (174, 174), (176, 176), (1154, 1154), (1421, 1422), (1550, 1551),
   (1758, 1758), (1769, 1769), (1789, 1790), (2038, 2038), (2554, 2554), (2928, 2928),
   (3059, 3064), (3066, 3066), (3199, 3199), (3407, 3407), (3449, 3449), (3841, 3843),
   (3859, 3859), (3861, 3863), (3866, 3871), (3892, 3892), (3894, 3894), (3896, 3896),
   (4030, 4037), (4039, 4044), (4046, 4047), (4053, 4056), (4254, 4255), (5008, 5017),
   (5741, 5741), (6464, 6464), (6622, 6655), (7009, 7018), (7028, 7036), (8448, 8449),
   (8451, 8454), (8456, 8457), (8468, 8468), (8470, 8471), (8478, 8483), (8485, 8485),
   (8487, 8487), (8489, 8489), (8494, 8494), (8506, 8507), (8522, 8522), (8524, 8525),
   (8527, 8527), (8586, 8587), (8597, 8601), (8604, 8607), (8609, 8610), (8612, 8613),
   (8615, 8621), (8623, 8653), (8656, 8657), (8659, 8659), (8661, 8691), (8960, 8967),
   (8972, 8991), (8994, 9000), (9003, 9083), (9085, 9114), (9140, 9179), (9186, 9257),
   (9280, 9290), (9372, 9449), (9472, 9654), (9656, 9664), (9666, 9719), (9728, 9838),
   (9840, 10087), (10132, 10175), (10240, 10495), (11008, 11055), (11077, 11078), (11085, 11123),
   (11126, 11157), (11159, 11263), (11493, 11498), (11856, 11857), (11904, 11929), (11931, 12019),
   (12032, 12245), (12272, 12287), (12292, 12292), (12306, 12307), (12320, 12320), (12342, 12343),
   (12350, 12351), (12688, 12689), (12694, 12703), (12736, 12773), (12783, 12783), (12800, 12830),
   (12842, 12871), (12880, 12880), (12896, 12927), (12938, 12976), (12992, 13311), (19904, 19967),
   (42128, 42182), (43048, 43051), (43062, 43063), (43065, 43065), (43639, 43641), (64832, 64847),
   (64975, 64975), (65021, 65023), (65508, 65508), (65512, 65512), (65517, 65518), (65532, 65533),
   (65847, 65855), (65913, 65929), (65932, 65934), (65936, 65948), (65952, 65952), (66000, 66044),
   (67703, 67704), (68296, 68296), (71487, 71487), (73685, 73692), (73697, 73713), (92988, 92991),
   (92997, 92997), (113820, 113820), (117760, 117999), (118016, 118451), (118608, 118723),
   (118784, 119029), (119040, 119078), (119081, 119140), (119146, 119148), (119171, 119172),
   (119180, 119209), (119214, 119274), (119296, 119361), (119365, 119365), (119552, 119638),
   (120832, 121343), (121399, 121402), (121453, 121460), (121462, 121475), (121477, 121478),
   (123215, 123215), (126124, 126124), (126254, 126254), (126976, 127019), (127024, 127123),
   (127136, 127150), (127153, 127167), (127169, 127183), (127185, 127221), (127245, 127405),
   (127462, 127490), (127504, 127547), (127552, 127560), (127568, 127569), (127584, 127589),
   (127744, 127994), (128000, 128727), (128732, 128748), (128752, 128764), (128768, 128886),
   (128891, 128985), (128992, 129003), (129008, 129008), (129024, 129035), (129040, 129095),
   (129104, 129113), (129120, 129159), (129168, 129197), (129200, 129211), (129216, 129217),
   (129280, 129619), (129632, 129645), (129648, 129660), (129664, 129673), (129679, 129734),
   (129742, 129756), (129759, 129769), (129776, 129784), (129792, 129938), (129940, 130031)]

end JsonQuery.Text
