/-
  JsonQuery.Text.Table.Letter
  ───────────────────────────
  The letters, by their general categories.  Where capital and small letters alternate,
  a table lists the stretches of which every second character belongs to it.
-/
import JsonQuery.Text.Ranges

namespace JsonQuery.Text

/-- The category Lu, the stretches of `uppercaseStripe` apart. -/
def uppercaseLetter : Ranges :=
  [(65, 90), (192, 214), (216, 222), (376, 377), (379, 379), (381, 381), (385, 386), (388, 388),
   (390, 391), (393, 395), (398, 401), (403, 404), (406, 408), (412, 413), (415, 416), (418, 418),
   (420, 420), (422, 423), (425, 425), (428, 428), (430, 431), (433, 435), (437, 437), (439, 440),
   (444, 444), (452, 452), (455, 455), (458, 458), (497, 497), (500, 500), (502, 504), (570, 571),
   (573, 574), (577, 577), (579, 582), (880, 880), (882, 882), (886, 886), (895, 895), (902, 902),
   (904, 906), (908, 908), (910, 911), (913, 929), (931, 939), (975, 975), (978, 980),
   (1012, 1012), (1015, 1015), (1017, 1018), (1021, 1071), (1216, 1217), (1329, 1366),
   (4256, 4293), (4295, 4295), (4301, 4301), (5024, 5109), (7305, 7305), (7312, 7354),
   (7357, 7359), (7944, 7951), (7960, 7965), (7976, 7983), (7992, 7999), (8008, 8013),
   (8040, 8047), (8120, 8123), (8136, 8139), (8152, 8155), (8168, 8172), (8184, 8187),
   (8450, 8450), (8455, 8455), (8459, 8461), (8464, 8466), (8469, 8469), (8473, 8477),
   (8490, 8493), (8496, 8499), (8510, 8511), (8517, 8517), (8579, 8579), (11264, 11311),
   (11360, 11360), (11362, 11364), (11373, 11376), (11378, 11378), (11381, 11381), (11390, 11392),
   (11499, 11499), (11501, 11501), (11506, 11506), (42873, 42873), (42875, 42875), (42877, 42878),
   (42891, 42891), (42893, 42893), (42896, 42896), (42898, 42898), (42922, 42926), (42928, 42932),
   (42948, 42951), (42953, 42953), (42955, 42956), (42960, 42960), (42997, 42997), (65313, 65338),
   (66560, 66599), (66736, 66771), (66928, 66938), (66940, 66954), (66956, 66962), (66964, 66965),
   (68736, 68786), (68944, 68965), (71840, 71871), (93760, 93791), (119808, 119833),
   (119860, 119885), (119912, 119937), (119964, 119964), (119966, 119967), (119970, 119970),
   (119973, 119974), (119977, 119980), (119982, 119989), (120016, 120041), (120068, 120069),
   (120071, 120074), (120077, 120084), (120086, 120092), (120120, 120121), (120123, 120126),
   (120128, 120132), (120134, 120134), (120138, 120144), (120172, 120197), (120224, 120249),
   (120276, 120301), (120328, 120353), (120380, 120405), (120432, 120457), (120488, 120512),
   (120546, 120570), (120604, 120628), (120662, 120686), (120720, 120744), (120778, 120778),
   (125184, 125217)]

/-- Stretches of which every second character, the first among them, is in Lu. -/
def uppercaseStripe : Ranges :=
  [(256, 310), (313, 327), (330, 374), (461, 475), (478, 494), (506, 562), (584, 590),
   (984, 1006), (1120, 1152), (1162, 1214), (1219, 1229), (1232, 1326), (7680, 7828),
   (7838, 7934), (8025, 8031), (8484, 8488), (11367, 11371), (11394, 11490), (42560, 42604),
   (42624, 42650), (42786, 42798), (42802, 42862), (42880, 42886), (42902, 42920), (42934, 42946),
   (42966, 42972)]

/-- The category Ll, the stretches of `lowercaseStripe` apart. -/
def lowercaseLetter : Ranges :=
  [(97, 122), (181, 181), (223, 246), (248, 255), (311, 312), (328, 329), (378, 378), (380, 380),
   (382, 384), (387, 387), (389, 389), (392, 392), (396, 397), (402, 402), (405, 405), (409, 411),
   (414, 414), (424, 424), (426, 427), (429, 429), (432, 432), (436, 436), (438, 438), (441, 442),
   (445, 447), (454, 454), (457, 457), (476, 477), (495, 496), (499, 499), (501, 501), (563, 569),
   (572, 572), (575, 576), (578, 578), (591, 659), (661, 687), (881, 881), (883, 883), (887, 887),
   (891, 893), (912, 912), (940, 974), (976, 977), (981, 983), (1007, 1011), (1013, 1013),
   (1016, 1016), (1019, 1020), (1072, 1119), (1230, 1231), (1376, 1416), (4304, 4346),
   (4349, 4351), (5112, 5117), (7296, 7304), (7306, 7306), (7424, 7467), (7531, 7543),
   (7545, 7578), (7829, 7837), (7935, 7943), (7952, 7957), (7968, 7975), (7984, 7991),
   (8000, 8005), (8016, 8023), (8032, 8039), (8048, 8061), (8064, 8071), (8080, 8087),
   (8096, 8103), (8112, 8116), (8118, 8119), (8126, 8126), (8130, 8132), (8134, 8135),
   (8144, 8147), (8150, 8151), (8160, 8167), (8178, 8180), (8182, 8183), (8458, 8458),
   (8462, 8463), (8467, 8467), (8495, 8495), (8500, 8500), (8505, 8505), (8508, 8509),
   (8518, 8521), (8526, 8526), (8580, 8580), (11312, 11359), (11361, 11361), (11365, 11366),
   (11377, 11377), (11379, 11380), (11382, 11387), (11491, 11492), (11500, 11500), (11502, 11502),
   (11507, 11507), (11520, 11557), (11559, 11559), (11565, 11565), (42799, 42801), (42865, 42872),
   (42874, 42874), (42876, 42876), (42892, 42892), (42894, 42894), (42897, 42897), (42899, 42901),
   (42927, 42927), (42952, 42952), (42954, 42954), (42957, 42957), (42998, 42998), (43002, 43002),
   (43824, 43866), (43872, 43880), (43888, 43967), (64256, 64262), (64275, 64279), (65345, 65370),
   (66600, 66639), (66776, 66811), (66967, 66977), (66979, 66993), (66995, 67001), (67003, 67004),
   (68800, 68850), (68976, 68997), (71872, 71903), (93792, 93823), (119834, 119859),
   (119886, 119892), (119894, 119911), (119938, 119963), (119990, 119993), (119995, 119995),
   (119997, 120003), (120005, 120015), (120042, 120067), (120094, 120119), (120146, 120171),
   (120198, 120223), (120250, 120275), (120302, 120327), (120354, 120379), (120406, 120431),
   (120458, 120485), (120514, 120538), (120540, 120545), (120572, 120596), (120598, 120603),
   (120630, 120654), (120656, 120661), (120688, 120712), (120714, 120719), (120746, 120770),
   (120772, 120777), (120779, 120779), (122624, 122633), (122635, 122654), (122661, 122666),
   (125218, 125251)]

/-- Stretches of which every second character, the first among them, is in Ll. -/
def lowercaseStripe : Ranges :=
  [(257, 309), (314, 326), (331, 375), (417, 421), (460, 474), (479, 493), (505, 561), (583, 589),
   (985, 1005), (1121, 1153), (1163, 1215), (1218, 1228), (1233, 1327), (7681, 7827),
   (7839, 7933), (11368, 11372), (11393, 11489), (42561, 42605), (42625, 42651), (42787, 42797),
   (42803, 42863), (42879, 42887), (42903, 42921), (42933, 42947), (42961, 42971)]

/-- The category Lt. -/
def titlecaseLetter : Ranges :=
  [(453, 453), (456, 456), (459, 459), (498, 498), (8072, 8079), (8088, 8095), (8104, 8111),
   (8124, 8124), (8140, 8140), (8188, 8188)]

/-- The category Lm. -/
def modifierLetter : Ranges :=
  [(688, 705), (710, 721), (736, 740), (748, 748), (750, 750), (884, 884), (890, 890),
   (1369, 1369), (1600, 1600), (1765, 1766), (2036, 2037), (2042, 2042), (2074, 2074),
   (2084, 2084), (2088, 2088), (2249, 2249), (2417, 2417), (3654, 3654), (3782, 3782),
   (4348, 4348), (6103, 6103), (6211, 6211), (6823, 6823), (7288, 7293), (7468, 7530),
   (7544, 7544), (7579, 7615), (8305, 8305), (8319, 8319), (8336, 8348), (11388, 11389),
   (11631, 11631), (11823, 11823), (12293, 12293), (12337, 12341), (12347, 12347), (12445, 12446),
   (12540, 12542), (40981, 40981), (42232, 42237), (42508, 42508), (42623, 42623), (42652, 42653),
   (42775, 42783), (42864, 42864), (42888, 42888), (42994, 42996), (43000, 43001), (43471, 43471),
   (43494, 43494), (43632, 43632), (43741, 43741), (43763, 43764), (43868, 43871), (43881, 43881),
   (65392, 65392), (65438, 65439), (67456, 67461), (67463, 67504), (67506, 67514), (68942, 68942),
   (68975, 68975), (92992, 92995), (93504, 93506), (93547, 93548), (94099, 94111), (94176, 94177),
   (94179, 94179), (110576, 110579), (110581, 110587), (110589, 110590), (122928, 122989),
   (123191, 123197), (124139, 124139), (125259, 125259)]

set_option maxRecDepth 10000 in
/-- The category Lo. -/
def otherLetter : Ranges :=
  [(170, 170), (186, 186), (443, 443), (448, 451), (660, 660), (1488, 1514), (1519, 1522),
   (1568, 1599), (1601, 1610), (1646, 1647), (1649, 1747), (1749, 1749), (1774, 1775),
   (1786, 1788), (1791, 1791), (1808, 1808), (1810, 1839), (1869, 1957), (1969, 1969),
   (1994, 2026), (2048, 2069), (2112, 2136), (2144, 2154), (2160, 2183), (2185, 2190),
   (2208, 2248), (2308, 2361), (2365, 2365), (2384, 2384), (2392, 2401), (2418, 2432),
   (2437, 2444), (2447, 2448), (2451, 2472), (2474, 2480), (2482, 2482), (2486, 2489),
   (2493, 2493), (2510, 2510), (2524, 2525), (2527, 2529), (2544, 2545), (2556, 2556),
   (2565, 2570), (2575, 2576), (2579, 2600), (2602, 2608), (2610, 2611), (2613, 2614),
   (2616, 2617), (2649, 2652), (2654, 2654), (2674, 2676), (2693, 2701), (2703, 2705),
   (2707, 2728), (2730, 2736), (2738, 2739), (2741, 2745), (2749, 2749), (2768, 2768),
   (2784, 2785), (2809, 2809), (2821, 2828), (2831, 2832), (2835, 2856), (2858, 2864),
   (2866, 2867), (2869, 2873), (2877, 2877), (2908, 2909), (2911, 2913), (2929, 2929),
   (2947, 2947), (2949, 2954), (2958, 2960), (2962, 2965), (2969, 2970), (2972, 2972),
   (2974, 2975), (2979, 2980), (2984, 2986), (2990, 3001), (3024, 3024), (3077, 3084),
   (3086, 3088), (3090, 3112), (3114, 3129), (3133, 3133), (3160, 3162), (3165, 3165),
   (3168, 3169), (3200, 3200), (3205, 3212), (3214, 3216), (3218, 3240), (3242, 3251),
   (3253, 3257), (3261, 3261), (3293, 3294), (3296, 3297), (3313, 3314), (3332, 3340),
   (3342, 3344), (3346, 3386), (3389, 3389), (3406, 3406), (3412, 3414), (3423, 3425),
   (3450, 3455), (3461, 3478), (3482, 3505), (3507, 3515), (3517, 3517), (3520, 3526),
   (3585, 3632), (3634, 3635), (3648, 3653), (3713, 3714), (3716, 3716), (3718, 3722),
   (3724, 3747), (3749, 3749), (3751, 3760), (3762, 3763), (3773, 3773), (3776, 3780),
   (3804, 3807), (3840, 3840), (3904, 3911), (3913, 3948), (3976, 3980), (4096, 4138),
   (4159, 4159), (4176, 4181), (4186, 4189), (4193, 4193), (4197, 4198), (4206, 4208),
   (4213, 4225), (4238, 4238), (4352, 4680), (4682, 4685), (4688, 4694), (4696, 4696),
   (4698, 4701), (4704, 4744), (4746, 4749), (4752, 4784), (4786, 4789), (4792, 4798),
   (4800, 4800), (4802, 4805), (4808, 4822), (4824, 4880), (4882, 4885), (4888, 4954),
   (4992, 5007), (5121, 5740), (5743, 5759), (5761, 5786), (5792, 5866), (5873, 5880),
   (5888, 5905), (5919, 5937), (5952, 5969), (5984, 5996), (5998, 6000), (6016, 6067),
   (6108, 6108), (6176, 6210), (6212, 6264), (6272, 6276), (6279, 6312), (6314, 6314),
   (6320, 6389), (6400, 6430), (6480, 6509), (6512, 6516), (6528, 6571), (6576, 6601),
   (6656, 6678), (6688, 6740), (6917, 6963), (6981, 6988), (7043, 7072), (7086, 7087),
   (7098, 7141), (7168, 7203), (7245, 7247), (7258, 7287), (7401, 7404), (7406, 7411),
   (7413, 7414), (7418, 7418), (8501, 8504), (11568, 11623), (11648, 11670), (11680, 11686),
   (11688, 11694), (11696, 11702), (11704, 11710), (11712, 11718), (11720, 11726), (11728, 11734),
   (11736, 11742), (12294, 12294), (12348, 12348), (12353, 12438), (12447, 12447), (12449, 12538),
   (12543, 12543), (12549, 12591), (12593, 12686), (12704, 12735), (12784, 12799), (13312, 19903),
   (19968, 40980), (40982, 42124), (42192, 42231), (42240, 42507), (42512, 42527), (42538, 42539),
   (42606, 42606), (42656, 42725), (42895, 42895), (42999, 42999), (43003, 43009), (43011, 43013),
   (43015, 43018), (43020, 43042), (43072, 43123), (43138, 43187), (43250, 43255), (43259, 43259),
   (43261, 43262), (43274, 43301), (43312, 43334), (43360, 43388), (43396, 43442), (43488, 43492),
   (43495, 43503), (43514, 43518), (43520, 43560), (43584, 43586), (43588, 43595), (43616, 43631),
   (43633, 43638), (43642, 43642), (43646, 43695), (43697, 43697), (43701, 43702), (43705, 43709),
   (43712, 43712), (43714, 43714), (43739, 43740), (43744, 43754), (43762, 43762), (43777, 43782),
   (43785, 43790), (43793, 43798), (43808, 43814), (43816, 43822), (43968, 44002), (44032, 55203),
   (55216, 55238), (55243, 55291), (63744, 64109), (64112, 64217), (64285, 64285), (64287, 64296),
   (64298, 64310), (64312, 64316), (64318, 64318), (64320, 64321), (64323, 64324), (64326, 64433),
   (64467, 64829), (64848, 64911), (64914, 64967), (65008, 65019), (65136, 65140), (65142, 65276),
   (65382, 65391), (65393, 65437), (65440, 65470), (65474, 65479), (65482, 65487), (65490, 65495),
   (65498, 65500), (65536, 65547), (65549, 65574), (65576, 65594), (65596, 65597), (65599, 65613),
   (65616, 65629), (65664, 65786), (66176, 66204), (66208, 66256), (66304, 66335), (66349, 66368),
   (66370, 66377), (66384, 66421), (66432, 66461), (66464, 66499), (66504, 66511), (66640, 66717),
   (66816, 66855), (66864, 66915), (67008, 67059), (67072, 67382), (67392, 67413), (67424, 67431),
   (67584, 67589), (67592, 67592), (67594, 67637), (67639, 67640), (67644, 67644), (67647, 67669),
   (67680, 67702), (67712, 67742), (67808, 67826), (67828, 67829), (67840, 67861), (67872, 67897),
   (67968, 68023), (68030, 68031), (68096, 68096), (68112, 68115), (68117, 68119), (68121, 68149),
   (68192, 68220), (68224, 68252), (68288, 68295), (68297, 68324), (68352, 68405), (68416, 68437),
   (68448, 68466), (68480, 68497), (68608, 68680), (68864, 68899), (68938, 68941), (68943, 68943),
   (69248, 69289), (69296, 69297), (69314, 69316), (69376, 69404), (69415, 69415), (69424, 69445),
   (69488, 69505), (69552, 69572), (69600, 69622), (69635, 69687), (69745, 69746), (69749, 69749),
   (69763, 69807), (69840, 69864), (69891, 69926), (69956, 69956), (69959, 69959), (69968, 70002),
   (70006, 70006), (70019, 70066), (70081, 70084), (70106, 70106), (70108, 70108), (70144, 70161),
   (70163, 70187), (70207, 70208), (70272, 70278), (70280, 70280), (70282, 70285), (70287, 70301),
   (70303, 70312), (70320, 70366), (70405, 70412), (70415, 70416), (70419, 70440), (70442, 70448),
   (70450, 70451), (70453, 70457), (70461, 70461), (70480, 70480), (70493, 70497), (70528, 70537),
   (70539, 70539), (70542, 70542), (70544, 70581), (70583, 70583), (70609, 70609), (70611, 70611),
   (70656, 70708), (70727, 70730), (70751, 70753), (70784, 70831), (70852, 70853), (70855, 70855),
   (71040, 71086), (71128, 71131), (71168, 71215), (71236, 71236), (71296, 71338), (71352, 71352),
   (71424, 71450), (71488, 71494), (71680, 71723), (71935, 71942), (71945, 71945), (71948, 71955),
   (71957, 71958), (71960, 71983), (71999, 71999), (72001, 72001), (72096, 72103), (72106, 72144),
   (72161, 72161), (72163, 72163), (72192, 72192), (72203, 72242), (72250, 72250), (72272, 72272),
   (72284, 72329), (72349, 72349), (72368, 72440), (72640, 72672), (72704, 72712), (72714, 72750),
   (72768, 72768), (72818, 72847), (72960, 72966), (72968, 72969), (72971, 73008), (73030, 73030),
   (73056, 73061), (73063, 73064), (73066, 73097), (73112, 73112), (73440, 73458), (73474, 73474),
   (73476, 73488), (73490, 73523), (73648, 73648), (73728, 74649), (74880, 75075), (77712, 77808),
   (77824, 78895), (78913, 78918), (78944, 82938), (82944, 83526), (90368, 90397), (92160, 92728),
   (92736, 92766), (92784, 92862), (92880, 92909), (92928, 92975), (93027, 93047), (93053, 93071),
   (93507, 93546), (93952, 94026), (94032, 94032), (94208, 100343), (100352, 101589),
   (101631, 101640), (110592, 110882), (110898, 110898), (110928, 110930), (110933, 110933),
   (110948, 110951), (110960, 111355), (113664, 113770), (113776, 113788), (113792, 113800),
   (113808, 113817), (122634, 122634), (123136, 123180), (123214, 123214), (123536, 123565),
   (123584, 123627), (124112, 124138), (124368, 124397), (124400, 124400), (124896, 124902),
   (124904, 124907), (124909, 124910), (124912, 124926), (124928, 125124), (126464, 126467),
   (126469, 126495), (126497, 126498), (126500, 126500), (126503, 126503), (126505, 126514),
   (126516, 126519), (126521, 126521), (126523, 126523), (126530, 126530), (126535, 126535),
   (126537, 126537), (126539, 126539), (126541, 126543), (126545, 126546), (126548, 126548),
   (126551, 126551), (126553, 126553), (126555, 126555), (126557, 126557), (126559, 126559),
   (126561, 126562), (126564, 126564), (126567, 126570), (126572, 126578), (126580, 126583),
   (126585, 126588), (126590, 126590), (126592, 126601), (126603, 126619), (126625, 126627),
   (126629, 126633), (126635, 126651), (131072, 173791), (173824, 177977), (177984, 178205),
   (178208, 183969), (183984, 191456), (191472, 192093), (194560, 195101), (196608, 201546),
   (201552, 205743)]

end JsonQuery.Text
