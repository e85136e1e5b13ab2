/-!
# Letter case

The groups of characters that differ in case only, by simple case folding.
-/

namespace FormRules.Pattern

/-- For every group: its size, the step from the start of the group before, and the steps inside. -/
def caseSteps : String :=
  "2 65 32 2 1 32 2 1 32 2 1 32 2 1 32 2 1 32 2 1 32 2 1 32 2 1 32 2 1 32 3 1 32 8383 2 1 32 2
    1 32 2 1 32 2 1 32 2 1 32 2 1 32 2 1 32 3 1 32 268 2 1 32 2 1 32 2 1 32 2 1 32 2 1 32 2 1 32
    2 1 32 3 91 743 32 2 11 32 2 1 32 2 1 32 2 1 32 2 1 32 3 1 32 8262 2 1 32 2 1 32 2 1 32 2 1
    32 2 1 32 2 1 32 2 1 32 2 1 32 2 1 32 2 1 32 2 1 32 2 1 32 2 1 32 2 1 32 2 1 32 2 1 32 2 1
    32 2 2 32 2 1 32 2 1 32 2 1 32 2 1 32 2 1 32 2 1 32 2 1 7615 2 32 121 2 1 1 2 2 1 2 2 1 2 2
    1 2 2 1 2 2 1 2 2 1 2 2 1 2 2 1 2 2 1 2 2 1 2 2 1 2 2 1 2 2 1 2 2 1 2 2 1 2 2 1 2 2 1 2 2 1
    2 2 1 2 2 1 2 2 1 2 2 1 2 2 1 2 4 1 2 2 1 2 2 1 2 3 1 2 2 1 2 2 1 2 2 1 2 2 1 2 2 1 2 2 1 2
    2 1 2 3 1 2 2 1 2 2 1 2 2 1 2 2 1 2 2 1 2 2 1 2 2 1 2 2 1 2 2 1 2 2 1 2 2 1 2 2 1 2 2 1 2 2
    1 2 2 1 2 2 1 2 2 1 2 2 1 2 2 1 2 2 1 2 2 1 2 2 1 2 3 1 2 2 1 2 2 1 2 3 195 2 1 210 2 1 1 2
    2 1 2 2 206 2 1 1 2 2 205 2 1 205 2 1 1 2 3 79 2 1 202 2 1 203 2 1 1 2 2 205 2 1 207 2 1 97
    2 1 211 2 1 209 2 1 1 2 2 163 2 2 211 2 1 213 2 1 130 2 1 214 2 1 1 2 2 1 2 2 1 2 2 218 2 1
    1 2 2 218 2 3 1 2 2 218 2 1 1 2 2 217 2 1 217 2 1 1 2 2 1 2 2 219 2 1 1 2 4 1 2 3 56 3 5 1 1
    3 3 1 1 3 3 1 1 2 3 1 2 2 1 2 2 1 2 2 1 2 2 1 2 2 1 2 2 1 2 2 1 2 3 1 2 2 1 2 2 1 2 2 1 2 2
    1 2 2 1 2 2 1 2 2 1 2 2 1 3 3 1 1 2 3 1 2 4 1 2 2 1 2 2 1 2 2 1 2 2 1 2 2 1 2 2 1 2 2 1 2 2
    1 2 2 1 2 2 1 2 2 1 2 2 1 2 2 1 2 2 1 2 2 1 2 2 1 2 2 1 2 2 1 2 2 1 2 4 1 2 2 1 2 2 1 2 2 1
    2 2 1 2 2 1 2 2 1 2 2 1 2 2 1 2 8 10795 2 1 1 2 3 10792 2 1 10815 2 1 10815 2 1 1 2 3 69 2 1
    71 2 1 1 2 2 1 2 2 1 2 2 1 2 2 1 2 2 10783 2 1 10780 2 1 10782 2 10 42319 2 5 42315 2 4
    42280 2 1 42308 2 4 42308 2 1 10743 2 1 42305 2 5 10749 2 12 10727 2 5 42307 2 5 42282 2 22
    42261 2 1 42258 4 167 84 32 7173 2 43 1 2 2 1 2 4 1 2 5 130 2 1 130 2 1 130 2 2 116 2 7 38 2
    2 37 2 1 37 2 1 37 2 2 64 2 2 63 2 1 63 2 2 32 3 1 32 30 2 1 32 2 1 32 3 1 32 64 2 1 32 2 1
    32 4 1 32 25 35 3 2 32 54 2 1 32 2 2 32 2 1 32 2 1 32 3 1 32 22 3 1 32 48 3 2 31 1 2 1 32 2
    1 32 3 1 32 15 2 1 32 2 1 32 3 1 32 7517 2 1 32 2 1 32 2 36 8 2 9 1 2 2 1 2 2 1 2 2 1 2 2 1
    2 2 1 2 2 1 2 2 1 2 2 1 2 2 1 2 2 1 2 2 1 2 4 7 2 5 1 2 3 1 2 6 80 2 1 80 2 1 80 2 1 80 2 1
    80 2 1 80 2 1 80 2 1 80 2 1 80 2 1 80 2 1 80 2 1 80 2 1 80 2 1 80 2 1 80 2 1 80 2 1 32 2 1
    32 3 1 32 6222 2 1 32 3 1 32 6221 2 1 32 2 1 32 2 1 32 2 1 32 2 1 32 2 1 32 2 1 32 2 1 32 2
    1 32 3 1 32 6212 2 1 32 2 1 32 3 1 32 6210 4 1 32 6210 1 2 1 32 2 1 32 2 1 32 2 1 32 2 1 32
    2 1 32 2 1 32 3 1 32 6204 2 1 32 2 1 32 2 1 32 2 1 32 2 1 32 2 49 1 3 2 1 6180 2 2 1 2 2 1 2
    2 1 2 2 1 2 2 1 2 2 1 2 2 1 2 2 1 2 2 1 2 2 1 2 2 1 2 2 1 2 2 1 2 2 1 2 2 1 2 10 1 2 2 1 2 2
    1 2 2 1 2 2 1 2 2 1 2 2 1 2 2 1 2 2 1 2 2 1 2 2 1 2 2 1 2 2 1 2 2 1 2 2 1 2 2 1 2 2 1 2 2 1
    2 2 1 2 2 1 2 2 1 2 2 1 2 2 1 2 2 1 2 2 1 2 2 1 2 2 1 2 2 15 2 1 1 2 2 1 2 2 1 2 2 1 2 2 1 2
    2 1 2 2 1 2 3 1 2 2 1 2 2 1 2 2 1 2 2 1 2 2 1 2 2 1 2 2 1 2 2 1 2 2 1 2 2 1 2 2 1 2 2 1 2 2
    1 2 2 1 2 2 1 2 2 1 2 2 1 2 2 1 2 2 1 2 2 1 2 2 1 2 2 1 2 2 1 2 2 1 2 2 1 2 2 1 2 2 1 2 2 1
    2 2 1 2 2 1 2 2 1 2 2 1 2 2 1 2 2 1 2 2 1 2 2 1 2 2 1 2 2 1 2 2 1 2 2 1 2 2 1 2 2 1 2 2 1 2
    2 1 2 2 1 2 2 1 2 2 1 2 3 48 2 1 48 2 1 48 2 1 48 2 1 48 2 1 48 2 1 48 2 1 48 2 1 48 2 1 48
    2 1 48 2 1 48 2 1 48 2 1 48 2 1 48 2 1 48 2 1 48 2 1 48 2 1 48 2 1 48 2 1 48 2 1 48 2 1 48 2
    1 48 2 1 48 2 1 48 2 1 48 2 1 48 2 1 48 2 1 48 2 1 48 2 1 48 2 1 48 2 1 48 2 1 48 2 1 48 2 1
    48 2 1 48 2 2890 7264 2 1 7264 2 1 7264 2 1 7264 2 1 7264 2 1 7264 2 1 7264 2 1 7264 2 1
    7264 2 1 7264 2 1 7264 2 1 7264 2 1 7264 2 1 7264 2 1 7264 2 1 7264 2 1 7264 2 1 7264 2 1
    7264 2 1 7264 2 1 7264 2 1 7264 2 1 7264 2 1 7264 2 1 7264 2 1 7264 2 1 7264 2 1 7264 2 1
    7264 2 1 7264 2 1 7264 2 1 7264 2 1 7264 2 1 7264 2 1 7264 2 1 7264 2 1 7264 2 1 7264 2 2
    7264 2 6 7264 2 3 3008 2 1 3008 2 1 3008 2 1 3008 2 1 3008 2 1 3008 2 1 3008 2 1 3008 2 1
    3008 2 1 3008 2 1 3008 2 1 3008 2 1 3008 2 1 3008 2 1 3008 2 1 3008 2 1 3008 2 1 3008 2 1
    3008 2 1 3008 2 1 3008 2 1 3008 2 1 3008 2 1 3008 2 1 3008 2 1 3008 2 1 3008 2 1 3008 2 1
    3008 2 1 3008 2 1 3008 2 1 3008 2 1 3008 2 1 3008 2 1 3008 2 1 3008 2 1 3008 2 1 3008 2 1
    3008 2 1 3008 2 1 3008 2 1 3008 2 1 3008 2 3 3008 2 1 3008 2 1 3008 2 673 38864 2 1 38864 2
    1 38864 2 1 38864 2 1 38864 2 1 38864 2 1 38864 2 1 38864 2 1 38864 2 1 38864 2 1 38864 2 1
    38864 2 1 38864 2 1 38864 2 1 38864 2 1 38864 2 1 38864 2 1 38864 2 1 38864 2 1 38864 2 1
    38864 2 1 38864 2 1 38864 2 1 38864 2 1 38864 2 1 38864 2 1 38864 2 1 38864 2 1 38864 2 1
    38864 2 1 38864 2 1 38864 2 1 38864 2 1 38864 2 1 38864 2 1 38864 2 1 38864 2 1 38864 2 1
    38864 2 1 38864 2 1 38864 2 1 38864 2 1 38864 2 1 38864 2 1 38864 2 1 38864 2 1 38864 2 1
    38864 2 1 38864 2 1 38864 2 1 38864 2 1 38864 2 1 38864 2 1 38864 2 1 38864 2 1 38864 2 1
    38864 2 1 38864 2 1 38864 2 1 38864 2 1 38864 2 1 38864 2 1 38864 2 1 38864 2 1 38864 2 1
    38864 2 1 38864 2 1 38864 2 1 38864 2 1 38864 2 1 38864 2 1 38864 2 1 38864 2 1 38864 2 1
    38864 2 1 38864 2 1 38864 2 1 38864 2 1 38864 2 1 38864 2 1 8 2 1 8 2 1 8 2 1 8 2 1 8 2 1 8
    3 2195 35266 1 2 241 35332 2 4 3814 2 17 35384 2 114 1 2 2 1 2 2 1 2 2 1 2 2 1 2 2 1 2 2 1 2
    2 1 2 2 1 2 2 1 2 2 1 2 2 1 2 2 1 2 2 1 2 2 1 2 2 1 2 2 1 2 2 1 2 2 1 2 2 1 2 2 1 2 2 1 2 2
    1 2 2 1 2 2 1 2 2 1 2 2 1 2 2 1 2 2 1 2 2 1 2 2 1 2 2 1 2 2 1 2 2 1 2 2 1 2 2 1 2 2 1 2 2 1
    2 2 1 2 2 1 2 2 1 2 2 1 2 2 1 2 2 1 2 2 1 2 2 1 2 2 1 2 2 1 3 2 1 58 2 2 1 2 2 1 2 2 1 2 2 1
    2 2 1 2 2 1 2 2 1 2 2 1 2 2 1 2 2 1 2 2 1 2 2 1 2 2 1 2 2 1 2 2 1 2 2 1 2 2 1 2 2 1 2 2 1 2
    2 1 2 2 1 2 2 1 2 2 1 2 2 1 2 2 1 2 2 1 2 12 1 2 2 1 2 2 1 2 2 1 2 2 1 2 2 1 2 2 1 2 2 1 2 2
    1 2 2 1 2 2 1 2 2 1 2 2 1 2 2 1 2 2 1 2 2 1 2 2 1 2 2 1 2 2 1 2 2 1 2 2 1 2 2 1 2 2 1 2 2 1
    2 2 1 2 2 1 2 2 1 2 2 1 2 2 1 2 2 1 2 2 1 2 2 1 2 2 1 2 2 1 2 2 1 2 2 1 2 2 1 2 2 1 2 2 1 2
    2 1 2 2 1 2 2 1 2 2 1 2 2 1 2 2 1 2 2 1 2 2 1 2 2 1 2 2 8 2 1 8 2 1 8 2 1 8 2 1 8 2 1 8 2 1
    8 2 1 8 2 9 8 2 1 8 2 1 8 2 1 8 2 1 8 2 1 8 2 11 8 2 1 8 2 1 8 2 1 8 2 1 8 2 1 8 2 1 8 2 1 8
    2 9 8 2 1 8 2 1 8 2 1 8 2 1 8 2 1 8 2 1 8 2 1 8 2 9 8 2 1 8 2 1 8 2 1 8 2 1 8 2 1 8 2 12 8 2
    2 8 2 2 8 2 2 8 2 9 8 2 1 8 2 1 8 2 1 8 2 1 8 2 1 8 2 1 8 2 1 8 2 9 74 2 1 74 2 1 86 2 1 86
    2 1 86 2 1 86 2 1 100 2 1 100 2 1 128 2 1 128 2 1 112 2 1 112 2 1 126 2 1 126 2 3 8 2 1 8 2
    1 8 2 1 8 2 1 8 2 1 8 2 1 8 2 1 8 2 9 8 2 1 8 2 1 8 2 1 8 2 1 8 2 1 8 2 1 8 2 1 8 2 9 8 2 1
    8 2 1 8 2 1 8 2 1 8 2 1 8 2 1 8 2 1 8 2 9 8 2 1 8 2 2 9 2 16 9 2 13 8 2 1 8 2 15 8 2 1 8 2 4
    7 2 14 9 2 319 28 2 46 16 2 1 16 2 1 16 2 1 16 2 1 16 2 1 16 2 1 16 2 1 16 2 1 16 2 1 16 2 1
    16 2 1 16 2 1 16 2 1 16 2 1 16 2 1 16 2 20 1 2 819 26 2 1 26 2 1 26 2 1 26 2 1 26 2 1 26 2 1
    26 2 1 26 2 1 26 2 1 26 2 1 26 2 1 26 2 1 26 2 1 26 2 1 26 2 1 26 2 1 26 2 1 26 2 1 26 2 1
    26 2 1 26 2 1 26 2 1 26 2 1 26 2 1 26 2 1 26 2 1841 48 2 1 48 2 1 48 2 1 48 2 1 48 2 1 48 2
    1 48 2 1 48 2 1 48 2 1 48 2 1 48 2 1 48 2 1 48 2 1 48 2 1 48 2 1 48 2 1 48 2 1 48 2 1 48 2 1
    48 2 1 48 2 1 48 2 1 48 2 1 48 2 1 48 2 1 48 2 1 48 2 1 48 2 1 48 2 1 48 2 1 48 2 1 48 2 1
    48 2 1 48 2 1 48 2 1 48 2 1 48 2 1 48 2 1 48 2 1 48 2 1 48 2 1 48 2 1 48 2 1 48 2 1 48 2 1
    48 2 1 48 2 1 48 2 49 1 2 7 1 2 2 1 2 2 1 2 7 1 2 3 1 2 11 1 2 2 1 2 2 1 2 2 1 2 2 1 2 2 1 2
    2 1 2 2 1 2 2 1 2 2 1 2 2 1 2 2 1 2 2 1 2 2 1 2 2 1 2 2 1 2 2 1 2 2 1 2 2 1 2 2 1 2 2 1 2 2
    1 2 2 1 2 2 1 2 2 1 2 2 1 2 2 1 2 2 1 2 2 1 2 2 1 2 2 1 2 2 1 2 2 1 2 2 1 2 2 1 2 2 1 2 2 1
    2 2 1 2 2 1 2 2 1 2 2 1 2 2 1 2 2 1 2 2 1 2 2 1 2 2 1 2 2 1 2 2 1 2 2 1 2 2 1 2 9 1 2 2 1 2
    5 1 2 31054 1 2 2 1 2 2 1 2 2 1 2 2 1 2 4 1 2 2 1 2 2 1 2 2 1 2 2 1 2 2 1 2 2 1 2 2 1 2 2 1
    2 2 1 2 2 1 2 2 1 2 2 1 2 2 1 2 2 1 2 2 1 2 2 1 2 20 1 2 2 1 2 2 1 2 2 1 2 2 1 2 2 1 2 2 1 2
    2 1 2 2 1 2 2 1 2 2 1 2 2 1 2 2 1 2 2 1 2 136 1 2 2 1 2 2 1 2 2 1 2 2 1 2 2 1 2 2 1 2 4 1 2
    2 1 2 2 1 2 2 1 2 2 1 2 2 1 2 2 1 2 2 1 2 2 1 2 2 1 2 2 1 2 2 1 2 2 1 2 2 1 2 2 1 2 2 1 2 2
    1 2 2 1 2 2 1 2 2 1 2 2 1 2 2 1 2 2 1 2 2 1 2 2 1 2 2 1 2 2 1 2 2 1 2 2 1 2 2 1 2 2 1 2 11 1
    2 2 1 2 3 1 2 2 1 2 2 1 2 2 1 2 2 1 2 5 1 2 5 1 2 2 1 2 2 48 2 2 1 2 2 1 2 2 1 2 2 1 2 2 1 2
    2 1 2 2 1 2 2 1 2 2 1 2 2 1 2 11 928 2 1 1 2 2 1 2 2 1 2 2 1 2 2 1 2 2 1 2 2 1 2 2 1 2 5 1 2
    2 1 2 7 1 2 6 1 2 2 1 2 29 1 2 22316 32 2 1 32 2 1 32 2 1 32 2 1 32 2 1 32 2 1 32 2 1 32 2 1
    32 2 1 32 2 1 32 2 1 32 2 1 32 2 1 32 2 1 32 2 1 32 2 1 32 2 1 32 2 1 32 2 1 32 2 1 32 2 1
    32 2 1 32 2 1 32 2 1 32 2 1 32 2 1222 40 2 1 40 2 1 40 2 1 40 2 1 40 2 1 40 2 1 40 2 1 40 2
    1 40 2 1 40 2 1 40 2 1 40 2 1 40 2 1 40 2 1 40 2 1 40 2 1 40 2 1 40 2 1 40 2 1 40 2 1 40 2 1
    40 2 1 40 2 1 40 2 1 40 2 1 40 2 1 40 2 1 40 2 1 40 2 1 40 2 1 40 2 1 40 2 1 40 2 1 40 2 1
    40 2 1 40 2 1 40 2 1 40 2 1 40 2 1 40 2 137 40 2 1 40 2 1 40 2 1 40 2 1 40 2 1 40 2 1 40 2 1
    40 2 1 40 2 1 40 2 1 40 2 1 40 2 1 40 2 1 40 2 1 40 2 1 40 2 1 40 2 1 40 2 1 40 2 1 40 2 1
    40 2 1 40 2 1 40 2 1 40 2 1 40 2 1 40 2 1 40 2 1 40 2 1 40 2 1 40 2 1 40 2 1 40 2 1 40 2 1
    40 2 1 40 2 1 40 2 157 39 2 1 39 2 1 39 2 1 39 2 1 39 2 1 39 2 1 39 2 1 39 2 1 39 2 1 39 2 1
    39 2 2 39 2 1 39 2 1 39 2 1 39 2 1 39 2 1 39 2 1 39 2 1 39 2 1 39 2 1 39 2 1 39 2 1 39 2 1
    39 2 1 39 2 1 39 2 2 39 2 1 39 2 1 39 2 1 39 2 1 39 2 1 39 2 1 39 2 2 39 2 1 39 2 1771 64 2
    1 64 2 1 64 2 1 64 2 1 64 2 1 64 2 1 64 2 1 64 2 1 64 2 1 64 2 1 64 2 1 64 2 1 64 2 1 64 2 1
    64 2 1 64 2 1 64 2 1 64 2 1 64 2 1 64 2 1 64 2 1 64 2 1 64 2 1 64 2 1 64 2 1 64 2 1 64 2 1
    64 2 1 64 2 1 64 2 1 64 2 1 64 2 1 64 2 1 64 2 1 64 2 1 64 2 1 64 2 1 64 2 1 64 2 1 64 2 1
    64 2 1 64 2 1 64 2 1 64 2 1 64 2 1 64 2 1 64 2 1 64 2 1 64 2 1 64 2 1 64 2 3054 32 2 1 32 2
    1 32 2 1 32 2 1 32 2 1 32 2 1 32 2 1 32 2 1 32 2 1 32 2 1 32 2 1 32 2 1 32 2 1 32 2 1 32 2 1
    32 2 1 32 2 1 32 2 1 32 2 1 32 2 1 32 2 1 32 2 1 32 2 1 32 2 1 32 2 1 32 2 1 32 2 1 32 2 1
    32 2 1 32 2 1 32 2 1 32 2 21889 32 2 1 32 2 1 32 2 1 32 2 1 32 2 1 32 2 1 32 2 1 32 2 1 32 2
    1 32 2 1 32 2 1 32 2 1 32 2 1 32 2 1 32 2 1 32 2 1 32 2 1 32 2 1 32 2 1 32 2 1 32 2 1 32 2 1
    32 2 1 32 2 1 32 2 1 32 2 1 32 2 1 32 2 1 32 2 1 32 2 1 32 2 1 32 2 31393 34 2 1 34 2 1 34 2
    1 34 2 1 34 2 1 34 2 1 34 2 1 34 2 1 34 2 1 34 2 1 34 2 1 34 2 1 34 2 1 34 2 1 34 2 1 34 2 1
    34 2 1 34 2 1 34 2 1 34 2 1 34 2 1 34 2 1 34 2 1 34 2 1 34 2 1 34 2 1 34 2 1 34 2 1 34 2 1
    34 2 1 34 2 1 34 2 1 34 2 1 34"

end FormRules.Pattern
