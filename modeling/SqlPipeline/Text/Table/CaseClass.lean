/-
  SqlPipeline/Text/Table/CaseClass.lean
  =====================================
  **The letters whose case the case maps do not tell, and what case rules look through.**

  Small letters without a capital, capitals without a small letter, and the letters that
  are two in one with only the first in upper case.  The sets are data of Unicode.
-/
import SqlPipeline.Text.CharSet

namespace SqlPipeline.Text

def plainSmallSet : CharSet where
  flips := [
    170, 171, 186, 187, 312, 313, 397, 398, 411, 412, 426, 428, 442, 443, 446, 447, 545, 546,
    564, 570, 597, 598, 600, 601, 602, 603, 605, 608, 610, 611, 612, 613, 615, 616, 621, 623,
    624, 625, 627, 629, 630, 637, 638, 640, 641, 642, 644, 647, 653, 658, 659, 660, 661, 669,
    671, 697, 704, 706, 736, 741, 890, 891, 1020, 1021, 1376, 1377, 1416, 1417, 7424, 7545,
    7546, 7549, 7550, 7566, 7567, 7616, 7836, 7838, 7839, 7840, 8305, 8306, 8319, 8320, 8336,
    8349, 8458, 8459, 8462, 8464, 8467, 8468, 8495, 8496, 8500, 8501, 8505, 8506, 8508, 8510,
    8518, 8522, 11377, 11378, 11380, 11381, 11383, 11390, 11492, 11493, 42652, 42654, 42800,
    42802, 42864, 42873, 42894, 42895, 42901, 42902, 42927, 42928, 42963, 42964, 42965, 42966,
    43000, 43003, 43824, 43859, 43860, 43867, 43868, 43881, 67456, 67457, 67459, 67462, 67463,
    67505, 67506, 67515, 119834, 119860, 119886, 119893, 119894, 119912, 119938, 119964, 119990,
    119994, 119995, 119996, 119997, 120004, 120005, 120016, 120042, 120068, 120094, 120120,
    120146, 120172, 120198, 120224, 120250, 120276, 120302, 120328, 120354, 120380, 120406,
    120432, 120458, 120486, 120514, 120539, 120540, 120546, 120572, 120597, 120598, 120604,
    120630, 120655, 120656, 120662, 120688, 120713, 120714, 120720, 120746, 120771, 120772,
    120778, 120779, 120780, 122624, 122634, 122635, 122655]

def plainCapitalSet : CharSet where
  flips := [
    978, 981, 8450, 8451, 8455, 8456, 8459, 8462, 8464, 8467, 8469, 8470, 8473, 8478, 8484,
    8485, 8488, 8489, 8492, 8494, 8496, 8498, 8499, 8500, 8510, 8512, 8517, 8518, 119808,
    119834, 119860, 119886, 119912, 119938, 119964, 119965, 119966, 119968, 119970, 119971,
    119973, 119975, 119977, 119981, 119982, 119990, 120016, 120042, 120068, 120070, 120071,
    120075, 120077, 120085, 120086, 120093, 120120, 120122, 120123, 120127, 120128, 120133,
    120134, 120135, 120138, 120145, 120172, 120198, 120224, 120250, 120276, 120302, 120328,
    120354, 120380, 120406, 120432, 120458, 120488, 120513, 120546, 120571, 120604, 120629,
    120662, 120687, 120720, 120745, 120778, 120779, 127280, 127306, 127312, 127338, 127344,
    127370]

def titleLetterSet : CharSet where
  flips := [
    453, 454, 456, 457, 459, 460, 498, 499, 8072, 8080, 8088, 8096, 8104, 8112, 8124, 8125,
    8140, 8141, 8188, 8189]

/-- Characters that the rule for the final sigma looks through. -/
def caseIgnorableSet : CharSet where
  flips := [
    39, 40, 46, 47, 58, 59, 94, 95, 96, 97, 168, 169, 173, 174, 175, 176, 180, 181, 183, 185,
    688, 880, 884, 886, 890, 891, 900, 902, 903, 904, 1155, 1162, 1369, 1370, 1375, 1376, 1425,
    1470, 1471, 1472, 1473, 1475, 1476, 1478, 1479, 1480, 1524, 1525, 1536, 1542, 1552, 1563,
    1564, 1565, 1600, 1601, 1611, 1632, 1648, 1649, 1750, 1758, 1759, 1769, 1770, 1774, 1807,
    1808, 1809, 1810, 1840, 1867, 1958, 1969, 2027, 2038, 2042, 2043, 2045, 2046, 2070, 2094,
    2137, 2140, 2184, 2185, 2192, 2194, 2200, 2208, 2249, 2307, 2362, 2363, 2364, 2365, 2369,
    2377, 2381, 2382, 2385, 2392, 2402, 2404, 2417, 2418, 2433, 2434, 2492, 2493, 2497, 2501,
    2509, 2510, 2530, 2532, 2558, 2559, 2561, 2563, 2620, 2621, 2625, 2627, 2631, 2633, 2635,
    2638, 2641, 2642, 2672, 2674, 2677, 2678, 2689, 2691, 2748, 2749, 2753, 2758, 2759, 2761,
    2765, 2766, 2786, 2788, 2810, 2816, 2817, 2818, 2876, 2877, 2879, 2880, 2881, 2885, 2893,
    2894, 2901, 2903, 2914, 2916, 2946, 2947, 3008, 3009, 3021, 3022, 3072, 3073, 3076, 3077,
    3132, 3133, 3134, 3137, 3142, 3145, 3146, 3150, 3157, 3159, 3170, 3172, 3201, 3202, 3260,
    3261, 3263, 3264, 3270, 3271, 3276, 3278, 3298, 3300, 3328, 3330, 3387, 3389, 3393, 3397,
    3405, 3406, 3426, 3428, 3457, 3458, 3530, 3531, 3538, 3541, 3542, 3543, 3633, 3634, 3636,
    3643, 3654, 3663, 3761, 3762, 3764, 3773, 3782, 3783, 3784, 3790, 3864, 3866, 3893, 3894,
    3895, 3896, 3897, 3898, 3953, 3967, 3968, 3973, 3974, 3976, 3981, 3992, 3993, 4029, 4038,
    4039, 4141, 4145, 4146, 4152, 4153, 4155, 4157, 4159, 4184, 4186, 4190, 4193, 4209, 4213,
    4226, 4227, 4229, 4231, 4237, 4238, 4253, 4254, 4348, 4349, 4957, 4960, 5906, 5909, 5938,
    5940, 5970, 5972, 6002, 6004, 6068, 6070, 6071, 6078, 6086, 6087, 6089, 6100, 6103, 6104,
    6109, 6110, 6155, 6160, 6211, 6212, 6277, 6279, 6313, 6314, 6432, 6435, 6439, 6441, 6450,
    6451, 6457, 6460, 6679, 6681, 6683, 6684, 6742, 6743, 6744, 6751, 6752, 6753, 6754, 6755,
    6757, 6765, 6771, 6781, 6783, 6784, 6823, 6824, 6832, 6863, 6912, 6916, 6964, 6965, 6966,
    6971, 6972, 6973, 6978, 6979, 7019, 7028, 7040, 7042, 7074, 7078, 7080, 7082, 7083, 7086,
    7142, 7143, 7144, 7146, 7149, 7150, 7151, 7154, 7212, 7220, 7222, 7224, 7288, 7294, 7376,
    7379, 7380, 7393, 7394, 7401, 7405, 7406, 7412, 7413, 7416, 7418, 7468, 7531, 7544, 7545,
    7579, 7680, 8125, 8126, 8127, 8130, 8141, 8144, 8157, 8160, 8173, 8176, 8189, 8191, 8203,
    8208, 8216, 8218, 8228, 8229, 8231, 8232, 8234, 8239, 8288, 8293, 8294, 8304, 8305, 8306,
    8319, 8320, 8336, 8349, 8400, 8433, 11388, 11390, 11503, 11506, 11631, 11632, 11647, 11648,
    11744, 11776, 11823, 11824, 12293, 12294, 12330, 12334, 12337, 12342, 12347, 12348, 12441,
    12447, 12540, 12543, 40981, 40982, 42232, 42238, 42508, 42509, 42607, 42611, 42612, 42622,
    42623, 42624, 42652, 42656, 42736, 42738, 42752, 42786, 42864, 42865, 42888, 42891, 42994,
    42997, 43000, 43002, 43010, 43011, 43014, 43015, 43019, 43020, 43045, 43047, 43052, 43053,
    43204, 43206, 43232, 43250, 43263, 43264, 43302, 43310, 43335, 43346, 43392, 43395, 43443,
    43444, 43446, 43450, 43452, 43454, 43471, 43472, 43493, 43495, 43561, 43567, 43569, 43571,
    43573, 43575, 43587, 43588, 43596, 43597, 43632, 43633, 43644, 43645, 43696, 43697, 43698,
    43701, 43703, 43705, 43710, 43712, 43713, 43714, 43741, 43742, 43756, 43758, 43763, 43765,
    43766, 43767, 43867, 43872, 43881, 43884, 44005, 44006, 44008, 44009, 44013, 44014, 64286,
    64287, 64434, 64451, 65024, 65040, 65043, 65044, 65056, 65072, 65106, 65107, 65109, 65110,
    65279, 65280, 65287, 65288, 65294, 65295, 65306, 65307, 65342, 65343, 65344, 65345, 65392,
    65393, 65438, 65440, 65507, 65508, 65529, 65532, 66045, 66046, 66272, 66273, 66422, 66427,
    67456, 67462, 67463, 67505, 67506, 67515, 68097, 68100, 68101, 68103, 68108, 68112, 68152,
    68155, 68159, 68160, 68325, 68327, 68900, 68904, 69291, 69293, 69446, 69457, 69506, 69510,
    69633, 69634, 69688, 69703, 69744, 69745, 69747, 69749, 69759, 69762, 69811, 69815, 69817,
    69819, 69821, 69822, 69826, 69827, 69837, 69838, 69888, 69891, 69927, 69932, 69933, 69941,
    70003, 70004, 70016, 70018, 70070, 70079, 70089, 70093, 70095, 70096, 70191, 70194, 70196,
    70197, 70198, 70200, 70206, 70207, 70367, 70368, 70371, 70379, 70400, 70402, 70459, 70461,
    70464, 70465, 70502, 70509, 70512, 70517, 70712, 70720, 70722, 70725, 70726, 70727, 70750,
    70751, 70835, 70841, 70842, 70843, 70847, 70849, 70850, 70852, 71090, 71094, 71100, 71102,
    71103, 71105, 71132, 71134, 71219, 71227, 71229, 71230, 71231, 71233, 71339, 71340, 71341,
    71342, 71344, 71350, 71351, 71352, 71453, 71456, 71458, 71462, 71463, 71468, 71727, 71736,
    71737, 71739, 71995, 71997, 71998, 71999, 72003, 72004, 72148, 72152, 72154, 72156, 72160,
    72161, 72193, 72203, 72243, 72249, 72251, 72255, 72263, 72264, 72273, 72279, 72281, 72284,
    72330, 72343, 72344, 72346, 72752, 72759, 72760, 72766, 72767, 72768, 72850, 72872, 72874,
    72881, 72882, 72884, 72885, 72887, 73009, 73015, 73018, 73019, 73020, 73022, 73023, 73030,
    73031, 73032, 73104, 73106, 73109, 73110, 73111, 73112, 73459, 73461, 78896, 78905, 92912,
    92917, 92976, 92983, 92992, 92996, 94031, 94032, 94095, 94112, 94176, 94178, 94179, 94181,
    110576, 110580, 110581, 110588, 110589, 110591, 113821, 113823, 113824, 113828, 118528,
    118574, 118576, 118599, 119143, 119146, 119155, 119171, 119173, 119180, 119210, 119214,
    119362, 119365, 121344, 121399, 121403, 121453, 121461, 121462, 121476, 121477, 121499,
    121504, 121505, 121520, 122880, 122887, 122888, 122905, 122907, 122914, 122915, 122917,
    122918, 122923, 123184, 123198, 123566, 123567, 123628, 123632, 125136, 125143, 125252,
    125260, 127995, 128000, 917505, 917506, 917536, 917632, 917760, 918000]

/-- Characters that stand for numbers, fractions and number words included. -/
def numericSet : CharSet where
  flips := [
    48, 58, 178, 180, 185, 186, 188, 191, 1632, 1642, 1776, 1786, 1984, 1994, 2406, 2416, 2534,
    2544, 2548, 2554, 2662, 2672, 2790, 2800, 2918, 2928, 2930, 2936, 3046, 3059, 3174, 3184,
    3192, 3199, 3302, 3312, 3416, 3423, 3430, 3449, 3558, 3568, 3664, 3674, 3792, 3802, 3872,
    3892, 4160, 4170, 4240, 4250, 4969, 4989, 5870, 5873, 6112, 6122, 6128, 6138, 6160, 6170,
    6470, 6480, 6608, 6619, 6784, 6794, 6800, 6810, 6992, 7002, 7088, 7098, 7232, 7242, 7248,
    7258, 8304, 8305, 8308, 8314, 8320, 8330, 8528, 8579, 8581, 8586, 9312, 9372, 9450, 9472,
    10102, 10132, 11517, 11518, 12295, 12296, 12321, 12330, 12344, 12347, 12690, 12694, 12832,
    12842, 12872, 12880, 12881, 12896, 12928, 12938, 12977, 12992, 13317, 13318, 13443, 13444,
    14378, 14379, 15181, 15182, 19968, 19969, 19971, 19972, 19975, 19976, 19977, 19978, 20061,
    20062, 20108, 20109, 20116, 20117, 20118, 20119, 20159, 20161, 20191, 20192, 20200, 20201,
    20237, 20238, 20336, 20337, 20740, 20741, 20806, 20807, 20841, 20842, 20843, 20844, 20845,
    20846, 21313, 21314, 21315, 21318, 21324, 21325, 21441, 21445, 22235, 22236, 22769, 22770,
    22777, 22778, 24186, 24187, 24318, 24320, 24332, 24335, 24336, 24337, 25342, 25343, 25420,
    25421, 26578, 26579, 28422, 28423, 29590, 29591, 30334, 30335, 32902, 32903, 33836, 33837,
    36014, 36015, 36019, 36020, 36144, 36145, 38433, 38434, 38470, 38471, 38476, 38477, 38520,
    38521, 38646, 38647, 42528, 42538, 42726, 42736, 43056, 43062, 43216, 43226, 43264, 43274,
    43472, 43482, 43504, 43514, 43600, 43610, 44016, 44026, 63851, 63852, 63859, 63860, 63864,
    63865, 63922, 63923, 63953, 63954, 63955, 63956, 63997, 63998, 65296, 65306, 65799, 65844,
    65856, 65913, 65930, 65932, 66273, 66300, 66336, 66340, 66369, 66370, 66378, 66379, 66513,
    66518, 66720, 66730, 67672, 67680, 67705, 67712, 67751, 67760, 67835, 67840, 67862, 67868,
    68028, 68030, 68032, 68048, 68050, 68096, 68160, 68169, 68221, 68223, 68253, 68256, 68331,
    68336, 68440, 68448, 68472, 68480, 68521, 68528, 68858, 68864, 68912, 68922, 69216, 69247,
    69405, 69415, 69457, 69461, 69573, 69580, 69714, 69744, 69872, 69882, 69942, 69952, 70096,
    70106, 70113, 70133, 70384, 70394, 70736, 70746, 70864, 70874, 71248, 71258, 71360, 71370,
    71472, 71484, 71904, 71923, 72016, 72026, 72784, 72813, 73040, 73050, 73120, 73130, 73664,
    73685, 74752, 74863, 92768, 92778, 92864, 92874, 93008, 93018, 93019, 93026, 93824, 93847,
    119520, 119540, 119648, 119673, 120782, 120832, 123200, 123210, 123632, 123642, 125127,
    125136, 125264, 125274, 126065, 126124, 126125, 126128, 126129, 126133, 126209, 126254,
    126255, 126270, 127232, 127245, 130032, 130042, 131073, 131074, 131172, 131173, 131298,
    131299, 131361, 131362, 133418, 133419, 133507, 133508, 133516, 133517, 133532, 133533,
    133866, 133867, 133885, 133886, 133913, 133914, 140176, 140177, 141720, 141721, 146203,
    146204, 156269, 156270, 194704, 194705]

end SqlPipeline.Text
