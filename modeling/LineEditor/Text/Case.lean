import LineEditor.Text.CodePoints

/-!
# Letter case

The case mappings of Unicode 14.  A mapping from single characters to single
characters is a list of runs, each a range of code points with a step and the
distance to their images (`CaseRun`).

`lowerPoint` is the simple lower-case mapping, under which two characters that
differ only in case become equal, up to the few lower-case characters that share
an upper-case form (`casePartners`).  `caseVariants` inverts both: it lists the
code points that fold to the same thing.  `upperText` is the full upper-case
mapping, under which one character may become several.
-/

set_option autoImplicit false

namespace LineEditor.Text

/-- Code points from `first` to `last` by `step`, all moved by the same `distance`. -/
structure CaseRun where
  first : Nat
  last : Nat
  step : Nat
  distance : Int

namespace CaseRun

/-- Whether a code point is one of the run's. -/
def covers (run : CaseRun) (point : Nat) : Bool :=
  run.first ≤ point && point ≤ run.last && (point - run.first) % run.step == 0

/-- The image of a code point under a list of runs; a point outside all runs is its own. -/
def apply (runs : List CaseRun) (point : Nat) : Nat :=
  match runs.find? (·.covers point) with
  | some run => (point + run.distance).toNat
  | none => point

/-- The code points of the runs that have the given image. -/
def preimages (runs : List CaseRun) (image : Nat) : List Nat :=
  runs.filterMap fun run =>
    let point := ((image : Int) - run.distance).toNat
    if run.covers point then some point else none

end CaseRun

/-- The simple lower-case mapping. -/
def lowerRuns : List CaseRun :=
  [
    ⟨65, 90, 1, 32⟩, ⟨192, 214, 1, 32⟩, ⟨216, 222, 1, 32⟩, ⟨256, 302, 2, 1⟩, ⟨304, 304, 1, -199⟩,
    ⟨306, 310, 2, 1⟩, ⟨313, 327, 2, 1⟩, ⟨330, 374, 2, 1⟩, ⟨376, 376, 1, -121⟩, ⟨377, 381, 2, 1⟩,
    ⟨385, 385, 1, 210⟩, ⟨386, 388, 2, 1⟩, ⟨390, 390, 1, 206⟩, ⟨391, 391, 1, 1⟩, ⟨393, 394, 1, 205⟩,
    ⟨395, 395, 1, 1⟩, ⟨398, 398, 1, 79⟩, ⟨399, 399, 1, 202⟩, ⟨400, 400, 1, 203⟩, ⟨401, 401, 1, 1⟩,
    ⟨403, 403, 1, 205⟩, ⟨404, 404, 1, 207⟩, ⟨406, 406, 1, 211⟩, ⟨407, 407, 1, 209⟩, ⟨408, 408, 1, 1⟩,
    ⟨412, 412, 1, 211⟩, ⟨413, 413, 1, 213⟩, ⟨415, 415, 1, 214⟩, ⟨416, 420, 2, 1⟩, ⟨422, 422, 1, 218⟩,
    ⟨423, 423, 1, 1⟩, ⟨425, 425, 1, 218⟩, ⟨428, 428, 1, 1⟩, ⟨430, 430, 1, 218⟩, ⟨431, 431, 1, 1⟩,
    ⟨433, 434, 1, 217⟩, ⟨435, 437, 2, 1⟩, ⟨439, 439, 1, 219⟩, ⟨440, 440, 1, 1⟩, ⟨444, 444, 1, 1⟩,
    ⟨452, 452, 1, 2⟩, ⟨453, 453, 1, 1⟩, ⟨455, 455, 1, 2⟩, ⟨456, 456, 1, 1⟩, ⟨458, 458, 1, 2⟩,
    ⟨459, 475, 2, 1⟩, ⟨478, 494, 2, 1⟩, ⟨497, 497, 1, 2⟩, ⟨498, 500, 2, 1⟩, ⟨502, 502, 1, -97⟩,
    ⟨503, 503, 1, -56⟩, ⟨504, 542, 2, 1⟩, ⟨544, 544, 1, -130⟩, ⟨546, 562, 2, 1⟩, ⟨570, 570, 1, 10795⟩,
    ⟨571, 571, 1, 1⟩, ⟨573, 573, 1, -163⟩, ⟨574, 574, 1, 10792⟩, ⟨577, 577, 1, 1⟩, ⟨579, 579, 1, -195⟩,
    ⟨580, 580, 1, 69⟩, ⟨581, 581, 1, 71⟩, ⟨582, 590, 2, 1⟩, ⟨880, 882, 2, 1⟩, ⟨886, 886, 1, 1⟩,
    ⟨895, 895, 1, 116⟩, ⟨902, 902, 1, 38⟩, ⟨904, 906, 1, 37⟩, ⟨908, 908, 1, 64⟩, ⟨910, 911, 1, 63⟩,
    ⟨913, 929, 1, 32⟩, ⟨931, 939, 1, 32⟩, ⟨975, 975, 1, 8⟩, ⟨984, 1006, 2, 1⟩, ⟨1012, 1012, 1, -60⟩,
    ⟨1015, 1015, 1, 1⟩, ⟨1017, 1017, 1, -7⟩, ⟨1018, 1018, 1, 1⟩, ⟨1021, 1023, 1, -130⟩, ⟨1024, 1039, 1, 80⟩,
    ⟨1040, 1071, 1, 32⟩, ⟨1120, 1152, 2, 1⟩, ⟨1162, 1214, 2, 1⟩, ⟨1216, 1216, 1, 15⟩, ⟨1217, 1229, 2, 1⟩,
    ⟨1232, 1326, 2, 1⟩, ⟨1329, 1366, 1, 48⟩, ⟨4256, 4293, 1, 7264⟩, ⟨4295, 4295, 1, 7264⟩, ⟨4301, 4301, 1, 7264⟩,
    ⟨5024, 5103, 1, 38864⟩, ⟨5104, 5109, 1, 8⟩, ⟨7312, 7354, 1, -3008⟩, ⟨7357, 7359, 1, -3008⟩, ⟨7680, 7828, 2, 1⟩,
    ⟨7838, 7838, 1, -7615⟩, ⟨7840, 7934, 2, 1⟩, ⟨7944, 7951, 1, -8⟩, ⟨7960, 7965, 1, -8⟩, ⟨7976, 7983, 1, -8⟩,
    ⟨7992, 7999, 1, -8⟩, ⟨8008, 8013, 1, -8⟩, ⟨8025, 8031, 2, -8⟩, ⟨8040, 8047, 1, -8⟩, ⟨8072, 8079, 1, -8⟩,
    ⟨8088, 8095, 1, -8⟩, ⟨8104, 8111, 1, -8⟩, ⟨8120, 8121, 1, -8⟩, ⟨8122, 8123, 1, -74⟩, ⟨8124, 8124, 1, -9⟩,
    ⟨8136, 8139, 1, -86⟩, ⟨8140, 8140, 1, -9⟩, ⟨8152, 8153, 1, -8⟩, ⟨8154, 8155, 1, -100⟩, ⟨8168, 8169, 1, -8⟩,
    ⟨8170, 8171, 1, -112⟩, ⟨8172, 8172, 1, -7⟩, ⟨8184, 8185, 1, -128⟩, ⟨8186, 8187, 1, -126⟩, ⟨8188, 8188, 1, -9⟩,
    ⟨8486, 8486, 1, -7517⟩, ⟨8490, 8490, 1, -8383⟩, ⟨8491, 8491, 1, -8262⟩, ⟨8498, 8498, 1, 28⟩, ⟨8544, 8559, 1, 16⟩,
    ⟨8579, 8579, 1, 1⟩, ⟨9398, 9423, 1, 26⟩, ⟨11264, 11311, 1, 48⟩, ⟨11360, 11360, 1, 1⟩, ⟨11362, 11362, 1, -10743⟩,
    ⟨11363, 11363, 1, -3814⟩, ⟨11364, 11364, 1, -10727⟩, ⟨11367, 11371, 2, 1⟩, ⟨11373, 11373, 1, -10780⟩, ⟨11374, 11374, 1, -10749⟩,
    ⟨11375, 11375, 1, -10783⟩, ⟨11376, 11376, 1, -10782⟩, ⟨11378, 11378, 1, 1⟩, ⟨11381, 11381, 1, 1⟩, ⟨11390, 11391, 1, -10815⟩,
    ⟨11392, 11490, 2, 1⟩, ⟨11499, 11501, 2, 1⟩, ⟨11506, 11506, 1, 1⟩, ⟨42560, 42604, 2, 1⟩, ⟨42624, 42650, 2, 1⟩,
    ⟨42786, 42798, 2, 1⟩, ⟨42802, 42862, 2, 1⟩, ⟨42873, 42875, 2, 1⟩, ⟨42877, 42877, 1, -35332⟩, ⟨42878, 42886, 2, 1⟩,
    ⟨42891, 42891, 1, 1⟩, ⟨42893, 42893, 1, -42280⟩, ⟨42896, 42898, 2, 1⟩, ⟨42902, 42920, 2, 1⟩, ⟨42922, 42922, 1, -42308⟩,
    ⟨42923, 42923, 1, -42319⟩, ⟨42924, 42924, 1, -42315⟩, ⟨42925, 42925, 1, -42305⟩, ⟨42926, 42926, 1, -42308⟩, ⟨42928, 42928, 1, -42258⟩,
    ⟨42929, 42929, 1, -42282⟩, ⟨42930, 42930, 1, -42261⟩, ⟨42931, 42931, 1, 928⟩, ⟨42932, 42946, 2, 1⟩, ⟨42948, 42948, 1, -48⟩,
    ⟨42949, 42949, 1, -42307⟩, ⟨42950, 42950, 1, -35384⟩, ⟨42951, 42953, 2, 1⟩, ⟨42960, 42960, 1, 1⟩, ⟨42966, 42968, 2, 1⟩,
    ⟨42997, 42997, 1, 1⟩, ⟨65313, 65338, 1, 32⟩, ⟨66560, 66599, 1, 40⟩, ⟨66736, 66771, 1, 40⟩, ⟨66928, 66938, 1, 39⟩,
    ⟨66940, 66954, 1, 39⟩, ⟨66956, 66962, 1, 39⟩, ⟨66964, 66965, 1, 39⟩, ⟨68736, 68786, 1, 64⟩, ⟨71840, 71871, 1, 32⟩,
    ⟨93760, 93791, 1, 32⟩, ⟨125184, 125217, 1, 34⟩]

/-- The characters that differ from one of their simple case forms. -/
def casedPoints : CodePoints where
  boundaries := #[
    65, 91, 97, 123, 181, 182, 192, 215, 216, 247, 248, 312, 313, 397,
    398, 411, 412, 426, 428, 442, 444, 446, 447, 448, 452, 545, 546, 564,
    570, 597, 598, 600, 601, 602, 603, 605, 608, 610, 611, 612, 613, 615,
    616, 621, 623, 624, 625, 627, 629, 630, 637, 638, 640, 641, 642, 644,
    647, 653, 658, 659, 669, 671, 837, 838, 880, 884, 886, 888, 891, 894,
    895, 896, 902, 903, 904, 907, 908, 909, 910, 930, 931, 978, 981, 1014,
    1015, 1020, 1021, 1154, 1162, 1328, 1329, 1367, 1377, 1416, 4256, 4294, 4295, 4296,
    4301, 4302, 4304, 4347, 4349, 4352, 5024, 5110, 5112, 5118, 7296, 7305, 7312, 7355,
    7357, 7360, 7545, 7546, 7549, 7550, 7566, 7567, 7680, 7836, 7838, 7839, 7840, 7958,
    7960, 7966, 7968, 8006, 8008, 8014, 8016, 8024, 8025, 8026, 8027, 8028, 8029, 8030,
    8031, 8062, 8064, 8117, 8118, 8125, 8126, 8127, 8130, 8133, 8134, 8141, 8144, 8148,
    8150, 8156, 8160, 8173, 8178, 8181, 8182, 8189, 8486, 8487, 8490, 8492, 8498, 8499,
    8526, 8527, 8544, 8576, 8579, 8581, 9398, 9450, 11264, 11377, 11378, 11380, 11381, 11383,
    11390, 11492, 11499, 11503, 11506, 11508, 11520, 11558, 11559, 11560, 11565, 11566, 42560, 42606,
    42624, 42652, 42786, 42800, 42802, 42864, 42873, 42888, 42891, 42894, 42896, 42901, 42902, 42927,
    42928, 42955, 42960, 42962, 42966, 42970, 42997, 42999, 43859, 43860, 43888, 43968, 64256, 64263,
    64275, 64280, 65313, 65339, 65345, 65371, 66560, 66640, 66736, 66772, 66776, 66812, 66928, 66939,
    66940, 66955, 66956, 66963, 66964, 66966, 66967, 66978, 66979, 66994, 66995, 67002, 67003, 67005,
    68736, 68787, 68800, 68851, 71840, 71904, 93760, 93824, 125184, 125252]

/-- Lower-case characters beside the other ones that have the same upper-case form. -/
def casePartners : List (Nat × List Nat) :=
  [
    (105, [305]), (115, [383]), (181, [956]), (305, [105]), (383, [115]),
    (837, [953, 8126]), (912, [8147]), (944, [8163]), (946, [976]), (949, [1013]),
    (952, [977]), (953, [837, 8126]), (954, [1008]), (956, [181]), (960, [982]),
    (961, [1009]), (962, [963]), (963, [962]), (966, [981]), (976, [946]),
    (977, [952]), (981, [966]), (982, [960]), (1008, [954]), (1009, [961]),
    (1013, [949]), (1074, [7296]), (1076, [7297]), (1086, [7298]), (1089, [7299]),
    (1090, [7300, 7301]), (1098, [7302]), (1123, [7303]), (7296, [1074]), (7297, [1076]),
    (7298, [1086]), (7299, [1089]), (7300, [1090, 7301]), (7301, [1090, 7300]), (7302, [1098]),
    (7303, [1123]), (7304, [42571]), (7777, [7835]), (7835, [7777]), (8126, [837, 953]),
    (8147, [912]), (8163, [944]), (42571, [7304]), (64261, [64262]), (64262, [64261])]

/-- The upper-case mapping of the characters with a single upper-case character. -/
def upperRuns : List CaseRun :=
  [
    ⟨97, 122, 1, -32⟩, ⟨181, 181, 1, 743⟩, ⟨224, 246, 1, -32⟩, ⟨248, 254, 1, -32⟩, ⟨255, 255, 1, 121⟩,
    ⟨257, 303, 2, -1⟩, ⟨305, 305, 1, -232⟩, ⟨307, 311, 2, -1⟩, ⟨314, 328, 2, -1⟩, ⟨331, 375, 2, -1⟩,
    ⟨378, 382, 2, -1⟩, ⟨383, 383, 1, -300⟩, ⟨384, 384, 1, 195⟩, ⟨387, 389, 2, -1⟩, ⟨392, 392, 1, -1⟩,
    ⟨396, 396, 1, -1⟩, ⟨402, 402, 1, -1⟩, ⟨405, 405, 1, 97⟩, ⟨409, 409, 1, -1⟩, ⟨410, 410, 1, 163⟩,
    ⟨414, 414, 1, 130⟩, ⟨417, 421, 2, -1⟩, ⟨424, 424, 1, -1⟩, ⟨429, 429, 1, -1⟩, ⟨432, 432, 1, -1⟩,
    ⟨436, 438, 2, -1⟩, ⟨441, 441, 1, -1⟩, ⟨445, 445, 1, -1⟩, ⟨447, 447, 1, 56⟩, ⟨453, 453, 1, -1⟩,
    ⟨454, 454, 1, -2⟩, ⟨456, 456, 1, -1⟩, ⟨457, 457, 1, -2⟩, ⟨459, 459, 1, -1⟩, ⟨460, 460, 1, -2⟩,
    ⟨462, 476, 2, -1⟩, ⟨477, 477, 1, -79⟩, ⟨479, 495, 2, -1⟩, ⟨498, 498, 1, -1⟩, ⟨499, 499, 1, -2⟩,
    ⟨501, 501, 1, -1⟩, ⟨505, 543, 2, -1⟩, ⟨547, 563, 2, -1⟩, ⟨572, 572, 1, -1⟩, ⟨575, 576, 1, 10815⟩,
    ⟨578, 578, 1, -1⟩, ⟨583, 591, 2, -1⟩, ⟨592, 592, 1, 10783⟩, ⟨593, 593, 1, 10780⟩, ⟨594, 594, 1, 10782⟩,
    ⟨595, 595, 1, -210⟩, ⟨596, 596, 1, -206⟩, ⟨598, 599, 1, -205⟩, ⟨601, 601, 1, -202⟩, ⟨603, 603, 1, -203⟩,
    ⟨604, 604, 1, 42319⟩, ⟨608, 608, 1, -205⟩, ⟨609, 609, 1, 42315⟩, ⟨611, 611, 1, -207⟩, ⟨613, 613, 1, 42280⟩,
    ⟨614, 614, 1, 42308⟩, ⟨616, 616, 1, -209⟩, ⟨617, 617, 1, -211⟩, ⟨618, 618, 1, 42308⟩, ⟨619, 619, 1, 10743⟩,
    ⟨620, 620, 1, 42305⟩, ⟨623, 623, 1, -211⟩, ⟨625, 625, 1, 10749⟩, ⟨626, 626, 1, -213⟩, ⟨629, 629, 1, -214⟩,
    ⟨637, 637, 1, 10727⟩, ⟨640, 640, 1, -218⟩, ⟨642, 642, 1, 42307⟩, ⟨643, 643, 1, -218⟩, ⟨647, 647, 1, 42282⟩,
    ⟨648, 648, 1, -218⟩, ⟨649, 649, 1, -69⟩, ⟨650, 651, 1, -217⟩, ⟨652, 652, 1, -71⟩, ⟨658, 658, 1, -219⟩,
    ⟨669, 669, 1, 42261⟩, ⟨670, 670, 1, 42258⟩, ⟨837, 837, 1, 84⟩, ⟨881, 883, 2, -1⟩, ⟨887, 887, 1, -1⟩,
    ⟨891, 893, 1, 130⟩, ⟨940, 940, 1, -38⟩, ⟨941, 943, 1, -37⟩, ⟨945, 961, 1, -32⟩, ⟨962, 962, 1, -31⟩,
    ⟨963, 971, 1, -32⟩, ⟨972, 972, 1, -64⟩, ⟨973, 974, 1, -63⟩, ⟨976, 976, 1, -62⟩, ⟨977, 977, 1, -57⟩,
    ⟨981, 981, 1, -47⟩, ⟨982, 982, 1, -54⟩, ⟨983, 983, 1, -8⟩, ⟨985, 1007, 2, -1⟩, ⟨1008, 1008, 1, -86⟩,
    ⟨1009, 1009, 1, -80⟩, ⟨1010, 1010, 1, 7⟩, ⟨1011, 1011, 1, -116⟩, ⟨1013, 1013, 1, -96⟩, ⟨1016, 1016, 1, -1⟩,
    ⟨1019, 1019, 1, -1⟩, ⟨1072, 1103, 1, -32⟩, ⟨1104, 1119, 1, -80⟩, ⟨1121, 1153, 2, -1⟩, ⟨1163, 1215, 2, -1⟩,
    ⟨1218, 1230, 2, -1⟩, ⟨1231, 1231, 1, -15⟩, ⟨1233, 1327, 2, -1⟩, ⟨1377, 1414, 1, -48⟩, ⟨4304, 4346, 1, 3008⟩,
    ⟨4349, 4351, 1, 3008⟩, ⟨5112, 5117, 1, -8⟩, ⟨7296, 7296, 1, -6254⟩, ⟨7297, 7297, 1, -6253⟩, ⟨7298, 7298, 1, -6244⟩,
    ⟨7299, 7300, 1, -6242⟩, ⟨7301, 7301, 1, -6243⟩, ⟨7302, 7302, 1, -6236⟩, ⟨7303, 7303, 1, -6181⟩, ⟨7304, 7304, 1, 35266⟩,
    ⟨7545, 7545, 1, 35332⟩, ⟨7549, 7549, 1, 3814⟩, ⟨7566, 7566, 1, 35384⟩, ⟨7681, 7829, 2, -1⟩, ⟨7835, 7835, 1, -59⟩,
    ⟨7841, 7935, 2, -1⟩, ⟨7936, 7943, 1, 8⟩, ⟨7952, 7957, 1, 8⟩, ⟨7968, 7975, 1, 8⟩, ⟨7984, 7991, 1, 8⟩,
    ⟨8000, 8005, 1, 8⟩, ⟨8017, 8023, 2, 8⟩, ⟨8032, 8039, 1, 8⟩, ⟨8048, 8049, 1, 74⟩, ⟨8050, 8053, 1, 86⟩,
    ⟨8054, 8055, 1, 100⟩, ⟨8056, 8057, 1, 128⟩, ⟨8058, 8059, 1, 112⟩, ⟨8060, 8061, 1, 126⟩, ⟨8112, 8113, 1, 8⟩,
    ⟨8126, 8126, 1, -7205⟩, ⟨8144, 8145, 1, 8⟩, ⟨8160, 8161, 1, 8⟩, ⟨8165, 8165, 1, 7⟩, ⟨8526, 8526, 1, -28⟩,
    ⟨8560, 8575, 1, -16⟩, ⟨8580, 8580, 1, -1⟩, ⟨9424, 9449, 1, -26⟩, ⟨11312, 11359, 1, -48⟩, ⟨11361, 11361, 1, -1⟩,
    ⟨11365, 11365, 1, -10795⟩, ⟨11366, 11366, 1, -10792⟩, ⟨11368, 11372, 2, -1⟩, ⟨11379, 11379, 1, -1⟩, ⟨11382, 11382, 1, -1⟩,
    ⟨11393, 11491, 2, -1⟩, ⟨11500, 11502, 2, -1⟩, ⟨11507, 11507, 1, -1⟩, ⟨11520, 11557, 1, -7264⟩, ⟨11559, 11559, 1, -7264⟩,
    ⟨11565, 11565, 1, -7264⟩, ⟨42561, 42605, 2, -1⟩, ⟨42625, 42651, 2, -1⟩, ⟨42787, 42799, 2, -1⟩, ⟨42803, 42863, 2, -1⟩,
    ⟨42874, 42876, 2, -1⟩, ⟨42879, 42887, 2, -1⟩, ⟨42892, 42892, 1, -1⟩, ⟨42897, 42899, 2, -1⟩, ⟨42900, 42900, 1, 48⟩,
    ⟨42903, 42921, 2, -1⟩, ⟨42933, 42947, 2, -1⟩, ⟨42952, 42954, 2, -1⟩, ⟨42961, 42961, 1, -1⟩, ⟨42967, 42969, 2, -1⟩,
    ⟨42998, 42998, 1, -1⟩, ⟨43859, 43859, 1, -928⟩, ⟨43888, 43967, 1, -38864⟩, ⟨65345, 65370, 1, -32⟩, ⟨66600, 66639, 1, -40⟩,
    ⟨66776, 66811, 1, -40⟩, ⟨66967, 66977, 1, -39⟩, ⟨66979, 66993, 1, -39⟩, ⟨66995, 67001, 1, -39⟩, ⟨67003, 67004, 1, -39⟩,
    ⟨68800, 68850, 1, -64⟩, ⟨71872, 71903, 1, -32⟩, ⟨93792, 93823, 1, -32⟩, ⟨125218, 125251, 1, -34⟩]

/-- The characters with several upper-case characters. -/
def upperSequences : List (Nat × String) :=
  [
    (223, "\u0053\u0053"), (329, "\u02bc\u004e"), (496, "\u004a\u030c"), (912, "\u0399\u0308\u0301"),
    (944, "\u03a5\u0308\u0301"), (1415, "\u0535\u0552"), (7830, "\u0048\u0331"), (7831, "\u0054\u0308"),
    (7832, "\u0057\u030a"), (7833, "\u0059\u030a"), (7834, "\u0041\u02be"), (8016, "\u03a5\u0313"),
    (8018, "\u03a5\u0313\u0300"), (8020, "\u03a5\u0313\u0301"), (8022, "\u03a5\u0313\u0342"), (8064, "\u1f08\u0399"),
    (8065, "\u1f09\u0399"), (8066, "\u1f0a\u0399"), (8067, "\u1f0b\u0399"), (8068, "\u1f0c\u0399"),
    (8069, "\u1f0d\u0399"), (8070, "\u1f0e\u0399"), (8071, "\u1f0f\u0399"), (8072, "\u1f08\u0399"),
    (8073, "\u1f09\u0399"), (8074, "\u1f0a\u0399"), (8075, "\u1f0b\u0399"), (8076, "\u1f0c\u0399"),
    (8077, "\u1f0d\u0399"), (8078, "\u1f0e\u0399"), (8079, "\u1f0f\u0399"), (8080, "\u1f28\u0399"),
    (8081, "\u1f29\u0399"), (8082, "\u1f2a\u0399"), (8083, "\u1f2b\u0399"), (8084, "\u1f2c\u0399"),
    (8085, "\u1f2d\u0399"), (8086, "\u1f2e\u0399"), (8087, "\u1f2f\u0399"), (8088, "\u1f28\u0399"),
    (8089, "\u1f29\u0399"), (8090, "\u1f2a\u0399"), (8091, "\u1f2b\u0399"), (8092, "\u1f2c\u0399"),
    (8093, "\u1f2d\u0399"), (8094, "\u1f2e\u0399"), (8095, "\u1f2f\u0399"), (8096, "\u1f68\u0399"),
    (8097, "\u1f69\u0399"), (8098, "\u1f6a\u0399"), (8099, "\u1f6b\u0399"), (8100, "\u1f6c\u0399"),
    (8101, "\u1f6d\u0399"), (8102, "\u1f6e\u0399"), (8103, "\u1f6f\u0399"), (8104, "\u1f68\u0399"),
    (8105, "\u1f69\u0399"), (8106, "\u1f6a\u0399"), (8107, "\u1f6b\u0399"), (8108, "\u1f6c\u0399"),
    (8109, "\u1f6d\u0399"), (8110, "\u1f6e\u0399"), (8111, "\u1f6f\u0399"), (8114, "\u1fba\u0399"),
    (8115, "\u0391\u0399"), (8116, "\u0386\u0399"), (8118, "\u0391\u0342"), (8119, "\u0391\u0342\u0399"),
    (8124, "\u0391\u0399"), (8130, "\u1fca\u0399"), (8131, "\u0397\u0399"), (8132, "\u0389\u0399"),
    (8134, "\u0397\u0342"), (8135, "\u0397\u0342\u0399"), (8140, "\u0397\u0399"), (8146, "\u0399\u0308\u0300"),
    (8147, "\u0399\u0308\u0301"), (8150, "\u0399\u0342"), (8151, "\u0399\u0308\u0342"), (8162, "\u03a5\u0308\u0300"),
    (8163, "\u03a5\u0308\u0301"), (8164, "\u03a1\u0313"), (8166, "\u03a5\u0342"), (8167, "\u03a5\u0308\u0342"),
    (8178, "\u1ffa\u0399"), (8179, "\u03a9\u0399"), (8180, "\u038f\u0399"), (8182, "\u03a9\u0342"),
    (8183, "\u03a9\u0342\u0399"), (8188, "\u03a9\u0399"), (64256, "\u0046\u0046"), (64257, "\u0046\u0049"),
    (64258, "\u0046\u004c"), (64259, "\u0046\u0046\u0049"), (64260, "\u0046\u0046\u004c"), (64261, "\u0053\u0054"),
    (64262, "\u0053\u0054"), (64275, "\u0544\u0546"), (64276, "\u0544\u0535"), (64277, "\u0544\u053b"),
    (64278, "\u054e\u0546"), (64279, "\u0544\u053d")]

/-- The simple lower case of a code point. -/
def lowerPoint (point : Nat) : Nat :=
  if point < 128 then
    if 65 ≤ point && point ≤ 90 then point + 32 else point
  else
    CaseRun.apply lowerRuns point

/-- Lower case in the ASCII range only. -/
def lowerPlain (point : Nat) : Nat :=
  if 65 ≤ point && point ≤ 90 then point + 32 else point

/-- Whether a code point has a case. -/
def isCased (point : Nat) : Bool :=
  casedPoints.contains point

/-- Whether a code point is an ASCII letter. -/
def isCasedPlain (point : Nat) : Bool :=
  (65 ≤ point && point ≤ 90) || (97 ≤ point && point ≤ 122)

/-- A lower-case code point together with those that share its upper case. -/
def withPartners (point : Nat) : List Nat :=
  point :: (casePartners.lookup point).getD []

/-- The code points that fold to the given lower-case one or to one of its partners. -/
def caseVariants (point : Nat) : List Nat :=
  (withPartners point).flatMap fun lower =>
    (if lowerPoint lower == lower then [lower] else []) ++ CaseRun.preimages lowerRuns lower

/-- The upper case of a text. -/
def upperText (text : String) : String :=
  String.join <| text.toList.map fun char =>
    match upperSequences.lookup char.toNat with
    | some sequence => sequence
    | none => (Char.ofNat (CaseRun.apply upperRuns char.toNat)).toString

/-- A text with its ASCII letters in lower case. -/
def lowerPlainText (text : String) : String :=
  text.map Char.toLower

end LineEditor.Text
