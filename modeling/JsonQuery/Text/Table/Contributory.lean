/-
  JsonQuery.Text.Table.Contributory
  ─────────────────────────────────
  What the standard lists by hand where it derives a property from general categories.
-/
import JsonQuery.Text.Ranges

namespace JsonQuery.Text

/-- `Other_Alphabetic`: the characters without a letter's category that are alphabetic. -/
def otherAlphabetic : Ranges :=
  [(837, 837), (867, 879), (1456, 1469), (1471, 1471), (1473, 1474), (1476, 1477), (1479, 1479),
   (1552, 1562), (1611, 1623), (1625, 1631), (1648, 1648), (1750, 1756), (1761, 1764),
   (1767, 1768), (1773, 1773), (1809, 1809), (1840, 1855), (1958, 1968), (2070, 2071),
   (2075, 2083), (2085, 2087), (2089, 2092), (2199, 2199), (2260, 2271), (2275, 2281),
   (2288, 2307), (2362, 2363), (2366, 2380), (2382, 2383), (2389, 2391), (2402, 2403),
   (2433, 2435), (2494, 2500), (2503, 2504), (2507, 2508), (2519, 2519), (2530, 2531),
   (2561, 2563), (2622, 2626), (2631, 2632), (2635, 2636), (2641, 2641), (2672, 2673),
   (2677, 2677), (2689, 2691), (2750, 2757), (2759, 2761), (2763, 2764), (2786, 2787),
   (2810, 2812), (2817, 2819), (2878, 2884), (2887, 2888), (2891, 2892), (2902, 2903),
   (2914, 2915), (2946, 2946), (3006, 3010), (3014, 3016), (3018, 3020), (3031, 3031),
   (3072, 3076), (3134, 3140), (3142, 3144), (3146, 3148), (3157, 3158), (3170, 3171),
   (3201, 3203), (3262, 3268), (3270, 3272), (3274, 3276), (3285, 3286), (3298, 3299),
   (3315, 3315), (3328, 3331), (3390, 3396), (3398, 3400), (3402, 3404), (3415, 3415),
   (3426, 3427), (3457, 3459), (3535, 3540), (3542, 3542), (3544, 3551), (3570, 3571),
   (3633, 3633), (3636, 3642), (3661, 3661), (3761, 3761), (3764, 3769), (3771, 3772),
   (3789, 3789), (3953, 3971), (3981, 3991), (3993, 4028), (4139, 4150), (4152, 4152),
   (4155, 4158), (4182, 4185), (4190, 4192), (4194, 4196), (4199, 4205), (4209, 4212),
   (4226, 4237), (4239, 4239), (4250, 4253), (5906, 5907), (5938, 5939), (5970, 5971),
   (6002, 6003), (6070, 6088), (6277, 6278), (6313, 6313), (6432, 6443), (6448, 6456),
   (6679, 6683), (6741, 6750), (6753, 6772), (6847, 6848), (6860, 6862), (6912, 6916),
   (6965, 6979), (7040, 7042), (7073, 7081), (7084, 7085), (7143, 7153), (7204, 7222),
   (7635, 7668), (9398, 9449), (11744, 11775), (42612, 42619), (42654, 42655), (43010, 43010),
   (43019, 43019), (43043, 43047), (43136, 43137), (43188, 43203), (43205, 43205), (43263, 43263),
   (43302, 43306), (43335, 43346), (43392, 43395), (43444, 43455), (43493, 43493), (43561, 43574),
   (43587, 43587), (43596, 43597), (43643, 43645), (43696, 43696), (43698, 43700), (43703, 43704),
   (43710, 43710), (43755, 43759), (43765, 43765), (44003, 44010), (64286, 64286), (66422, 66426),
   (68097, 68099), (68101, 68102), (68108, 68111), (68900, 68903), (68969, 68969), (69291, 69292),
   (69372, 69372), (69632, 69634), (69688, 69701), (69747, 69748), (69760, 69762), (69808, 69816),
   (69826, 69826), (69888, 69890), (69927, 69938), (69957, 69958), (70016, 70018), (70067, 70079),
   (70094, 70095), (70188, 70196), (70199, 70199), (70206, 70206), (70209, 70209), (70367, 70376),
   (70400, 70403), (70462, 70468), (70471, 70472), (70475, 70476), (70487, 70487), (70498, 70499),
   (70584, 70592), (70594, 70594), (70597, 70597), (70599, 70602), (70604, 70605), (70709, 70721),
   (70723, 70725), (70832, 70849), (71087, 71093), (71096, 71102), (71132, 71133), (71216, 71230),
   (71232, 71232), (71339, 71349), (71453, 71466), (71724, 71736), (71984, 71989), (71991, 71992),
   (71995, 71996), (72000, 72000), (72002, 72002), (72145, 72151), (72154, 72159), (72164, 72164),
   (72193, 72202), (72245, 72249), (72251, 72254), (72273, 72283), (72330, 72343), (72751, 72758),
   (72760, 72766), (72850, 72871), (72873, 72886), (73009, 73014), (73018, 73018), (73020, 73021),
   (73023, 73025), (73027, 73027), (73031, 73031), (73098, 73102), (73104, 73105), (73107, 73110),
   (73459, 73462), (73472, 73473), (73475, 73475), (73524, 73530), (73534, 73536), (90398, 90414),
   (94031, 94031), (94033, 94087), (94095, 94098), (94192, 94193), (113822, 113822),
   (122880, 122886), (122888, 122904), (122907, 122913), (122915, 122916), (122918, 122922),
   (123023, 123023), (125255, 125255), (127280, 127305), (127312, 127337), (127344, 127369)]

/-- The alphabetic characters that a later edition of the standard adds. -/
def laterAlphabetic : Ranges :=
  [(2191, 2191), (3164, 3164), (3292, 3292), (42958, 42959), (42962, 42962), (42964, 42964),
   (42993, 42993), (67904, 67929), (69317, 69319), (69370, 69371), (72544, 72551), (73136, 73179),
   (93856, 93880), (93883, 93907), (94194, 94198), (100344, 100351), (101641, 101662),
   (101760, 101874), (124608, 124638), (124640, 124661), (124670, 124671), (177978, 177983),
   (183970, 183981), (205744, 210041)]

/-- `Other_Lowercase`. -/
def otherLowercase : Ranges :=
  [(170, 170), (186, 186), (688, 696), (704, 705), (736, 740), (837, 837), (890, 890),
   (4348, 4348), (7468, 7530), (7544, 7544), (7579, 7615), (8305, 8305), (8319, 8319),
   (8336, 8348), (8560, 8575), (9424, 9449), (11388, 11389), (42652, 42653), (42864, 42864),
   (42994, 42996), (43000, 43001), (43868, 43871), (43881, 43881), (67456, 67456), (67459, 67461),
   (67463, 67504), (67506, 67514), (122928, 122989)]

/-- `Other_Uppercase`. -/
def otherUppercase : Ranges :=
  [(8544, 8559), (9398, 9423), (127280, 127305), (127312, 127337), (127344, 127369)]

/-- `Other_Math`. -/
def otherMath : Ranges :=
  [(94, 94), (976, 978), (981, 981), (1008, 1009), (1012, 1013), (8214, 8214), (8242, 8244),
   (8256, 8256), (8289, 8292), (8317, 8318), (8333, 8334), (8400, 8412), (8417, 8417),
   (8421, 8422), (8427, 8431), (8450, 8450), (8455, 8455), (8458, 8467), (8469, 8469),
   (8473, 8477), (8484, 8484), (8488, 8489), (8492, 8493), (8495, 8497), (8499, 8504),
   (8508, 8511), (8517, 8521), (8597, 8601), (8604, 8607), (8609, 8610), (8612, 8613),
   (8615, 8615), (8617, 8621), (8624, 8625), (8630, 8631), (8636, 8653), (8656, 8657),
   (8659, 8659), (8661, 8667), (8669, 8669), (8676, 8677), (8968, 8971), (9140, 9141),
   (9143, 9143), (9168, 9168), (9186, 9186), (9632, 9633), (9646, 9654), (9660, 9664),
   (9670, 9671), (9674, 9675), (9679, 9683), (9698, 9698), (9700, 9700), (9703, 9708),
   (9733, 9734), (9792, 9792), (9794, 9794), (9824, 9827), (9837, 9838), (10181, 10182),
   (10214, 10223), (10627, 10648), (10712, 10715), (10748, 10749), (65121, 65121), (65123, 65123),
   (65128, 65128), (65340, 65340), (65342, 65342), (119808, 119892), (119894, 119964),
   (119966, 119967), (119970, 119970), (119973, 119974), (119977, 119980), (119982, 119993),
   (119995, 119995), (119997, 120003), (120005, 120069), (120071, 120074), (120077, 120084),
   (120086, 120092), (120094, 120121), (120123, 120126), (120128, 120132), (120134, 120134),
   (120138, 120144), (120146, 120485), (120488, 120512), (120514, 120538), (120540, 120570),
   (120572, 120596), (120598, 120628), (120630, 120654), (120656, 120686), (120688, 120712),
   (120714, 120744), (120746, 120770), (120772, 120779), (120782, 120831), (126464, 126467),
   (126469, 126495), (126497, 126498), (126500, 126500), (126503, 126503), (126505, 126514),
   (126516, 126519), (126521, 126521), (126523, 126523), (126530, 126530), (126535, 126535),
   (126537, 126537), (126539, 126539), (126541, 126543), (126545, 126546), (126548, 126548),
   (126551, 126551), (126553, 126553), (126555, 126555), (126557, 126557), (126559, 126559),
   (126561, 126562), (126564, 126564), (126567, 126570), (126572, 126578), (126580, 126583),
   (126585, 126588), (126590, 126590), (126592, 126601), (126603, 126619), (126625, 126627),
   (126629, 126633), (126635, 126651)]

/-- `Other_ID_Start`. -/
def otherIdStart : Ranges :=
  [(6277, 6278), (8472, 8472), (8494, 8494), (12443, 12444)]

/-- `Other_ID_Continue`. -/
def otherIdContinue : Ranges :=
  [(183, 183), (903, 903), (4969, 4977), (6618, 6618), (8204, 8205), (12539, 12539),
   (65381, 65381)]

/-- `Other_Default_Ignorable_Code_Point`. -/
def otherIgnorable : Ranges :=
  [(847, 847), (4447, 4448), (6068, 6069), (8293, 8293), (12644, 12644), (65440, 65440),
   (65520, 65528), (917504, 917504), (917506, 917535), (917632, 917759), (918000, 921599)]

/-- `Other_Grapheme_Extend`. -/
def otherGraphemeExtend : Ranges :=
  [(2494, 2494), (2519, 2519), (2878, 2878), (2903, 2903), (3006, 3006), (3031, 3031),
   (3264, 3264), (3266, 3266), (3271, 3272), (3274, 3275), (3285, 3286), (3390, 3390),
   (3415, 3415), (3535, 3535), (3551, 3551), (5909, 5909), (5940, 5940), (6965, 6965),
   (6971, 6971), (6973, 6973), (6979, 6980), (7082, 7082), (7154, 7155), (8204, 8204),
   (12334, 12335), (43347, 43347), (43456, 43456), (65438, 65439), (70080, 70080), (70197, 70197),
   (70462, 70462), (70477, 70477), (70487, 70487), (70584, 70584), (70594, 70594), (70597, 70597),
   (70599, 70601), (70607, 70607), (70832, 70832), (70845, 70845), (71087, 71087), (71350, 71350),
   (71984, 71984), (71997, 71997), (73537, 73537), (94192, 94193), (119141, 119142),
   (119149, 119154), (917536, 917631)]

end JsonQuery.Text
