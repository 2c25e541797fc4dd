/-
  JsonQuery.Text.Table.Property
  ─────────────────────────────
  Properties that characters have or have not, as the standard lists them.
-/
import JsonQuery.Text.Ranges

namespace JsonQuery.Text

/-- `ASCII_Hex_Digit`. -/
def asciiHexDigit : Ranges :=
  [(48, 57), (65, 70), (97, 102)]

/-- `Hex_Digit`. -/
def hexDigit : Ranges :=
  [(48, 57), (65, 70), (97, 102), (65296, 65305), (65313, 65318), (65345, 65350)]

/-- `Bidi_Control`. -/
def bidiControl : Ranges :=
  [(1564, 1564), (8206, 8207), (8234, 8238), (8294, 8297)]

/-- `Bidi_Mirrored`. -/
def bidiMirrored : Ranges :=
  [(40, 41), (60, 60), (62, 62), (91, 91), (93, 93), (123, 123), (125, 125), (171, 171),
   (187, 187), (3898, 3901), (5787, 5788), (8249, 8250), (8261, 8262), (8317, 8318), (8333, 8334),
   (8512, 8512), (8705, 8708), (8712, 8717), (8721, 8721), (8725, 8726), (8730, 8733),
   (8735, 8738), (8740, 8740), (8742, 8742), (8747, 8755), (8761, 8761), (8763, 8780),
   (8786, 8789), (8799, 8800), (8802, 8802), (8804, 8811), (8813, 8844), (8847, 8850),
   (8856, 8856), (8866, 8867), (8870, 8888), (8894, 8895), (8905, 8909), (8912, 8913),
   (8918, 8941), (8944, 8959), (8968, 8971), (8992, 8993), (9001, 9002), (10088, 10101),
   (10176, 10176), (10179, 10182), (10184, 10185), (10187, 10189), (10195, 10198), (10204, 10206),
   (10210, 10223), (10627, 10648), (10651, 10656), (10658, 10671), (10680, 10680), (10688, 10693),
   (10697, 10697), (10702, 10706), (10708, 10709), (10712, 10716), (10721, 10721), (10723, 10725),
   (10728, 10729), (10740, 10745), (10748, 10749), (10762, 10780), (10782, 10785), (10788, 10788),
   (10790, 10790), (10793, 10793), (10795, 10798), (10804, 10805), (10812, 10814), (10839, 10840),
   (10852, 10853), (10858, 10861), (10863, 10864), (10867, 10868), (10873, 10915), (10918, 10925),
   (10927, 10966), (10972, 10972), (10974, 10974), (10978, 10982), (10988, 10990), (10995, 10995),
   (10999, 11003), (11005, 11005), (11262, 11262), (11778, 11781), (11785, 11786), (11788, 11789),
   (11804, 11805), (11808, 11817), (11861, 11868), (12296, 12305), (12308, 12315), (65113, 65118),
   (65124, 65125), (65288, 65289), (65308, 65308), (65310, 65310), (65339, 65339), (65341, 65341),
   (65371, 65371), (65373, 65373), (65375, 65376), (65378, 65379), (120539, 120539),
   (120597, 120597), (120655, 120655), (120713, 120713), (120771, 120771)]

/-- `Dash`. -/
def dash : Ranges :=
  [(45, 45), (1418, 1418), (1470, 1470), (5120, 5120), (6150, 6150), (8208, 8213), (8275, 8275),
   (8315, 8315), (8331, 8331), (8722, 8722), (11799, 11799), (11802, 11802), (11834, 11835),
   (11840, 11840), (11869, 11869), (12316, 12316), (12336, 12336), (12448, 12448), (65073, 65074),
   (65112, 65112), (65123, 65123), (65293, 65293), (68974, 68974), (69293, 69293)]

/-- `Deprecated`. -/
def deprecatedCharacter : Ranges :=
  [(329, 329), (1651, 1651), (3959, 3959), (3961, 3961), (6051, 6052), (8298, 8303), (9001, 9002),
   (917505, 917505)]

/-- `Diacritic`. -/
def diacritic : Ranges :=
  [(94, 94), (96, 96), (168, 168), (175, 175), (180, 180), (183, 184), (688, 846), (848, 855),
   (861, 866), (884, 885), (890, 890), (900, 901), (1155, 1159), (1369, 1369), (1425, 1469),
   (1471, 1471), (1473, 1474), (1476, 1477), (1479, 1479), (1611, 1618), (1623, 1624),
   (1759, 1760), (1765, 1766), (1770, 1772), (1840, 1866), (1958, 1968), (2027, 2037),
   (2072, 2073), (2200, 2207), (2249, 2258), (2275, 2302), (2364, 2364), (2381, 2381),
   (2385, 2388), (2417, 2417), (2492, 2492), (2509, 2509), (2620, 2620), (2637, 2637),
   (2748, 2748), (2765, 2765), (2813, 2815), (2876, 2876), (2893, 2893), (2901, 2901),
   (3021, 3021), (3132, 3132), (3149, 3149), (3260, 3260), (3277, 3277), (3387, 3388),
   (3405, 3405), (3530, 3530), (3642, 3642), (3655, 3660), (3662, 3662), (3770, 3770),
   (3784, 3788), (3864, 3865), (3893, 3893), (3895, 3895), (3897, 3897), (3902, 3903),
   (3970, 3972), (3974, 3975), (4038, 4038), (4151, 4151), (4153, 4154), (4195, 4196),
   (4201, 4205), (4231, 4237), (4239, 4239), (4250, 4251), (4957, 4959), (5908, 5909),
   (5940, 5940), (6089, 6099), (6109, 6109), (6457, 6459), (6752, 6752), (6773, 6780),
   (6783, 6783), (6832, 6846), (6849, 6859), (6964, 6964), (6980, 6980), (7019, 7027),
   (7082, 7083), (7142, 7142), (7154, 7155), (7222, 7223), (7288, 7293), (7376, 7400),
   (7405, 7405), (7412, 7412), (7415, 7417), (7468, 7530), (7579, 7614), (7620, 7631),
   (7669, 7679), (8125, 8125), (8127, 8129), (8141, 8143), (8157, 8159), (8173, 8175),
   (8189, 8190), (11503, 11505), (11823, 11823), (12330, 12335), (12441, 12444), (12540, 12540),
   (42607, 42607), (42620, 42621), (42623, 42623), (42652, 42653), (42736, 42737), (42752, 42785),
   (42888, 42890), (43000, 43001), (43014, 43014), (43052, 43052), (43204, 43204), (43232, 43249),
   (43307, 43310), (43347, 43347), (43443, 43443), (43456, 43456), (43493, 43493), (43643, 43645),
   (43711, 43714), (43766, 43766), (43867, 43871), (43881, 43883), (44012, 44013), (64286, 64286),
   (65056, 65071), (65342, 65342), (65344, 65344), (65392, 65392), (65438, 65439), (65507, 65507),
   (66272, 66272), (67456, 67461), (67463, 67504), (67506, 67514), (68152, 68154), (68159, 68159),
   (68325, 68326), (68898, 68903), (68942, 68942), (68969, 68973), (69373, 69375), (69446, 69456),
   (69506, 69509), (69702, 69702), (69744, 69744), (69817, 69818), (69939, 69940), (70003, 70003),
   (70080, 70080), (70090, 70092), (70197, 70198), (70377, 70378), (70459, 70460), (70477, 70477),
   (70502, 70508), (70512, 70516), (70606, 70608), (70610, 70611), (70625, 70626), (70722, 70722),
   (70726, 70726), (70850, 70851), (71103, 71104), (71231, 71231), (71350, 71351), (71467, 71467),
   (71737, 71738), (71997, 71998), (72003, 72003), (72160, 72160), (72244, 72244), (72263, 72263),
   (72345, 72345), (72767, 72767), (73026, 73026), (73028, 73029), (73111, 73111), (73537, 73538),
   (73562, 73562), (78919, 78933), (90415, 90415), (92912, 92916), (92976, 92982), (93547, 93548),
   (94095, 94111), (94192, 94193), (110576, 110579), (110581, 110587), (110589, 110590),
   (118528, 118573), (118576, 118598), (119143, 119145), (119149, 119154), (119163, 119170),
   (119173, 119179), (119210, 119213), (122928, 122989), (123184, 123190), (123566, 123566),
   (123628, 123631), (124398, 124399), (125136, 125142), (125252, 125254), (125256, 125258)]

/-- `Extender`. -/
def extender : Ranges :=
  [(183, 183), (720, 721), (1600, 1600), (2042, 2042), (2673, 2673), (2811, 2811), (2901, 2901),
   (3654, 3654), (3782, 3782), (6154, 6154), (6211, 6211), (6823, 6823), (7222, 7222),
   (7291, 7291), (12293, 12293), (12337, 12341), (12445, 12446), (12540, 12542), (40981, 40981),
   (42508, 42508), (43471, 43471), (43494, 43494), (43632, 43632), (43741, 43741), (43763, 43764),
   (65392, 65392), (67457, 67458), (68942, 68942), (68970, 68970), (68975, 68975), (70199, 70199),
   (70493, 70493), (70610, 70611), (71110, 71112), (72344, 72344), (92994, 92995), (94176, 94177),
   (94179, 94179), (123196, 123197), (124399, 124399), (125252, 125254)]

/-- `Grapheme_Link`. -/
def graphemeLink : Ranges :=
  [(2381, 2381), (2509, 2509), (2637, 2637), (2765, 2765), (2893, 2893), (3021, 3021),
   (3149, 3149), (3277, 3277), (3387, 3388), (3405, 3405), (3530, 3530), (3642, 3642),
   (3770, 3770), (3972, 3972), (4153, 4154), (5908, 5909), (5940, 5940), (6098, 6098),
   (6752, 6752), (6980, 6980), (7082, 7083), (7154, 7155), (11647, 11647), (43014, 43014),
   (43052, 43052), (43204, 43204), (43347, 43347), (43456, 43456), (43766, 43766), (44013, 44013),
   (68159, 68159), (69702, 69702), (69744, 69744), (69759, 69759), (69817, 69817), (69939, 69940),
   (70080, 70080), (70197, 70197), (70378, 70378), (70477, 70477), (70606, 70608), (70722, 70722),
   (70850, 70850), (71103, 71103), (71231, 71231), (71350, 71350), (71467, 71467), (71737, 71737),
   (71997, 71998), (72160, 72160), (72244, 72244), (72263, 72263), (72345, 72345), (72767, 72767),
   (73028, 73029), (73111, 73111), (73537, 73538), (90415, 90415)]

/-- `Hyphen`. -/
def hyphen : Ranges :=
  [(45, 45), (173, 173), (1418, 1418), (6150, 6150), (8208, 8209), (11799, 11799), (12539, 12539),
   (65123, 65123), (65293, 65293), (65381, 65381)]

/-- `IDS_Binary_Operator`. -/
def idsBinaryOperator : Ranges :=
  [(12272, 12273), (12276, 12285), (12783, 12783)]

/-- `IDS_Trinary_Operator`. -/
def idsTrinaryOperator : Ranges :=
  [(12274, 12275)]

/-- `IDS_Unary_Operator`. -/
def idsUnaryOperator : Ranges :=
  [(12286, 12287)]

/-- `ID_Compat_Math_Start`. -/
def compatMathStart : Ranges :=
  [(8706, 8706), (8711, 8711), (8734, 8734), (120513, 120513), (120539, 120539), (120571, 120571),
   (120597, 120597), (120629, 120629), (120655, 120655), (120687, 120687), (120713, 120713),
   (120745, 120745), (120771, 120771)]

/-- `ID_Compat_Math_Continue`. -/
def compatMathContinue : Ranges :=
  [(178, 179), (185, 185), (8304, 8304), (8308, 8318), (8320, 8334), (8706, 8706), (8711, 8711),
   (8734, 8734), (120513, 120513), (120539, 120539), (120571, 120571), (120597, 120597),
   (120629, 120629), (120655, 120655), (120687, 120687), (120713, 120713), (120745, 120745),
   (120771, 120771)]

/-- `Ideographic`. -/
def ideographic : Ranges :=
  [(12294, 12295), (12321, 12329), (12344, 12346), (13312, 19903), (19968, 40959), (63744, 64109),
   (64112, 64217), (94180, 94180), (94208, 100343), (100352, 101589), (101631, 101640),
   (110960, 111355), (131072, 173791), (173824, 177977), (177984, 178205), (178208, 183969),
   (183984, 191456), (191472, 192093), (194560, 195101), (196608, 201546), (201552, 205743)]

/-- `Unified_Ideograph`. -/
def unifiedIdeograph : Ranges :=
  [(13312, 19903), (19968, 40959), (64014, 64015), (64017, 64017), (64019, 64020), (64031, 64031),
   (64033, 64033), (64035, 64036), (64039, 64041), (131072, 173791), (173824, 177977),
   (177984, 178205), (178208, 183969), (183984, 191456), (191472, 192093), (196608, 201546),
   (201552, 205743)]

/-- `Radical`. -/
def radical : Ranges :=
  [(11904, 11929), (11931, 12019), (12032, 12245)]

/-- `Join_Control`. -/
def joinControl : Ranges :=
  [(8204, 8205)]

/-- `Logical_Order_Exception`. -/
def logicalOrderException : Ranges :=
  [(3648, 3652), (3776, 3780), (6581, 6583), (6586, 6586), (43701, 43702), (43705, 43705),
   (43707, 43708)]

/-- `Modifier_Combining_Mark`. -/
def modifierCombiningMark : Ranges :=
  [(1620, 1621), (1624, 1624), (1756, 1756), (1763, 1763), (1767, 1768), (2250, 2251),
   (2253, 2255), (2259, 2259), (2291, 2291)]

/-- `Noncharacter_Code_Point`. -/
def noncharacter : Ranges :=
  [(64976, 65007), (65534, 65535), (131070, 131071), (196606, 196607), (262142, 262143),
   (327678, 327679), (393214, 393215), (458750, 458751), (524286, 524287), (589822, 589823),
   (655358, 655359), (720894, 720895), (786430, 786431), (851966, 851967), (917502, 917503),
   (983038, 983039), (1048574, 1048575), (1114110, 1114111)]

/-- `Pattern_Syntax`. -/
def patternSyntax : Ranges :=
  [(33, 47), (58, 64), (91, 94), (96, 96), (123, 126), (161, 167), (169, 169), (171, 172),
   (174, 174), (176, 177), (182, 182), (187, 187), (191, 191), (215, 215), (247, 247),
   (8208, 8231), (8240, 8254), (8257, 8275), (8277, 8286), (8592, 9311), (9472, 10101),
   (10132, 11263), (11776, 11903), (12289, 12291), (12296, 12320), (12336, 12336), (64830, 64831),
   (65093, 65094)]

/-- `Pattern_White_Space`. -/
def patternWhiteSpace : Ranges :=
  [(9, 13), (32, 32), (133, 133), (8206, 8207), (8232, 8233)]

/-- `Prepended_Concatenation_Mark`. -/
def prependedConcatenationMark : Ranges :=
  [(1536, 1541), (1757, 1757), (1807, 1807), (2192, 2193), (2274, 2274), (69821, 69821),
   (69837, 69837)]

/-- `Quotation_Mark`. -/
def quotationMark : Ranges :=
  [(34, 34), (39, 39), (171, 171), (187, 187), (8216, 8223), (8249, 8250), (11842, 11842),
   (12300, 12303), (12317, 12319), (65089, 65092), (65282, 65282), (65287, 65287), (65378, 65379)]

/-- `Regional_Indicator`. -/
def regionalIndicator : Ranges :=
  [(127462, 127487)]

/-- `Sentence_Terminal`. -/
def sentenceTerminal : Ranges :=
  [(33, 33), (46, 46), (63, 63), (1417, 1417), (1565, 1567), (1748, 1748), (1792, 1794),
   (2041, 2041), (2103, 2103), (2105, 2105), (2109, 2110), (2404, 2405), (4170, 4171),
   (4962, 4962), (4967, 4968), (5742, 5742), (5941, 5942), (6100, 6101), (6147, 6147),
   (6153, 6153), (6468, 6469), (6824, 6827), (6990, 6991), (7002, 7003), (7006, 7007),
   (7037, 7039), (7227, 7228), (7294, 7295), (8228, 8228), (8252, 8253), (8263, 8265),
   (11513, 11515), (11822, 11822), (11836, 11836), (11859, 11860), (12290, 12290), (42239, 42239),
   (42510, 42511), (42739, 42739), (42743, 42743), (43126, 43127), (43214, 43215), (43311, 43311),
   (43464, 43465), (43613, 43615), (43760, 43761), (44011, 44011), (65042, 65042), (65045, 65046),
   (65106, 65106), (65110, 65111), (65281, 65281), (65294, 65294), (65311, 65311), (65377, 65377),
   (68182, 68183), (69461, 69465), (69510, 69513), (69703, 69704), (69822, 69825), (69953, 69955),
   (70085, 70086), (70093, 70093), (70110, 70111), (70200, 70201), (70203, 70204), (70313, 70313),
   (70612, 70613), (70731, 70732), (71106, 71107), (71113, 71127), (71233, 71234), (71484, 71486),
   (72004, 72004), (72006, 72006), (72258, 72259), (72347, 72348), (72769, 72770), (73463, 73464),
   (73539, 73540), (92782, 92783), (92917, 92917), (92983, 92984), (92996, 92996), (93550, 93551),
   (93848, 93848), (113823, 113823), (121480, 121480)]

/-- `Soft_Dotted`. -/
def softDotted : Ranges :=
  [(105, 106), (303, 303), (585, 585), (616, 616), (669, 669), (690, 690), (1011, 1011),
   (1110, 1110), (1112, 1112), (7522, 7522), (7574, 7574), (7588, 7588), (7592, 7592),
   (7725, 7725), (7883, 7883), (8305, 8305), (8520, 8521), (11388, 11388), (119842, 119843),
   (119894, 119895), (119946, 119947), (119998, 119999), (120050, 120051), (120102, 120103),
   (120154, 120155), (120206, 120207), (120258, 120259), (120310, 120311), (120362, 120363),
   (120414, 120415), (120466, 120467), (122650, 122650), (122956, 122957), (122984, 122984)]

/-- `Terminal_Punctuation`. -/
def terminalPunctuation : Ranges :=
  [(33, 33), (44, 44), (46, 46), (58, 59), (63, 63), (894, 894), (903, 903), (1417, 1417),
   (1475, 1475), (1548, 1548), (1563, 1563), (1565, 1567), (1748, 1748), (1792, 1802),
   (1804, 1804), (2040, 2041), (2096, 2101), (2103, 2110), (2142, 2142), (2404, 2405),
   (3674, 3675), (3848, 3848), (3853, 3858), (4170, 4171), (4961, 4968), (5742, 5742),
   (5867, 5869), (5941, 5942), (6100, 6102), (6106, 6106), (6146, 6149), (6152, 6153),
   (6468, 6469), (6824, 6827), (6990, 6991), (7002, 7003), (7005, 7007), (7037, 7039),
   (7227, 7231), (7294, 7295), (8228, 8228), (8252, 8253), (8263, 8265), (11513, 11515),
   (11822, 11822), (11836, 11836), (11841, 11841), (11852, 11852), (11854, 11855), (11859, 11860),
   (12289, 12290), (42238, 42239), (42509, 42511), (42739, 42743), (43126, 43127), (43214, 43215),
   (43311, 43311), (43463, 43465), (43613, 43615), (43743, 43743), (43760, 43761), (44011, 44011),
   (65042, 65042), (65045, 65046), (65104, 65106), (65108, 65111), (65281, 65281), (65292, 65292),
   (65294, 65294), (65306, 65307), (65311, 65311), (65377, 65377), (65380, 65380), (66463, 66463),
   (66512, 66512), (67671, 67671), (67871, 67871), (68182, 68183), (68336, 68341), (68410, 68415),
   (68505, 68508), (69461, 69465), (69510, 69513), (69703, 69709), (69822, 69825), (69953, 69955),
   (70085, 70086), (70093, 70093), (70110, 70111), (70200, 70204), (70313, 70313), (70612, 70613),
   (70731, 70733), (70746, 70747), (71106, 71109), (71113, 71127), (71233, 71234), (71484, 71486),
   (72004, 72004), (72006, 72006), (72258, 72259), (72347, 72348), (72353, 72354), (72769, 72771),
   (72817, 72817), (73463, 73464), (73539, 73540), (74864, 74868), (92782, 92783), (92917, 92917),
   (92983, 92985), (92996, 92996), (93550, 93551), (93847, 93848), (113823, 113823),
   (121479, 121482)]

/-- `Variation_Selector`. -/
def variationSelector : Ranges :=
  [(6155, 6157), (6159, 6159), (65024, 65039), (917760, 917999)]

/-- `White_Space`. -/
def whiteSpace : Ranges :=
  [(9, 13), (32, 32), (133, 133), (160, 160), (5760, 5760), (8192, 8202), (8232, 8233),
   (8239, 8239), (8287, 8287), (12288, 12288)]

/-- The letters of scripts that write no blanks between words: `Line_Break=Complex_Context`. -/
def complexContext : Ranges :=
  [(3585, 3642), (3648, 3654), (3661, 3661), (3713, 3714), (3716, 3716), (3718, 3722),
   (3724, 3747), (3749, 3749), (3751, 3769), (3771, 3773), (3776, 3780), (3782, 3782),
   (3789, 3789), (3804, 3807), (4096, 4150), (4152, 4152), (4155, 4159), (4176, 4239),
   (4250, 4253), (6016, 6067), (6070, 6088), (6103, 6103), (6108, 6108), (6480, 6509),
   (6512, 6516), (6528, 6571), (6576, 6601), (6688, 6750), (6753, 6772), (6823, 6823),
   (43488, 43503), (43514, 43518), (43616, 43638), (43642, 43710), (43712, 43712), (43714, 43714),
   (43739, 43741), (71424, 71450), (71453, 71466), (71488, 71494)]

end JsonQuery.Text
