/-!
# Tables of writing direction

The classes of characters that the rules for names in two directions tell apart.
-/

namespace FormRules.Url

def rightToLeftSteps : String :=
  "1470 1 1 1 2 1 2 1 9 27 4 6 19 1 2 1 1 1 13 1 1 46 34 3 1 4 4 93 15 2 7 2 10 20 2 1 1 30 29
    89 11 1 14 43 9 2 4 1 3 24 4 1 9 1 3 1 7 15 1 25 5 1 1 11 5 32 7 1 8 42 62184 33 445 2 54 7
    164 1 2444 6 2 1 1 44 1 2 3 1 2 23 1 72 8 9 48 19 1 2 5 33 4 26 5 27 38 56 4 20 2 47 15 4 1
    3 1 29 10 9 7 9 7 64 32 37 6 12 9 54 10 22 2 27 5 26 7 4 12 7 80 73 119 51 7 42 28 16 25 29
    8 2 240 42 3 1 2 2 16 6 8 9 33 3 3 40 8 22 11 9 22 18 4 4 38 28 20 23 55305 197 2 9 82 34 7
    1 4 10 4 2 785 68 76 61"

def arabicNumberSteps : String :=
  "1632 10 1 2 67267 10 294 31"

def europeanNumberSteps : String :=
  "48 10 1718 10 64487 27"

def nonspacingSteps : String :=
  "768 64 2 1 3 9 1 32 275 7 263 45 1 1 1 2 1 2 1 1 72 11 48 21 16 1 101 7 2 6 2 2 1 4 35 1 30
    27 91 11 58 9 9 1 24 4 1 9 1 3 1 5 43 3 60 8 42 24 1 32 55 1 1 1 4 8 4 1 3 7 10 2 29 1 58 1
    4 4 8 1 20 2 26 1 2 2 57 1 4 2 4 2 2 3 3 1 30 2 3 1 11 2 57 1 4 5 1 2 4 1 20 2 22 6 1 1 58 1
    2 1 1 4 8 1 7 2 11 2 30 1 61 1 12 1 50 1 3 1 55 1 1 3 5 3 1 4 7 2 11 2 29 1 58 1 15 2 20 2
    28 2 57 2 4 4 8 1 20 2 29 1 72 1 7 3 1 1 90 1 2 7 12 8 98 1 2 9 11 7 73 2 27 1 1 1 1 1 55 2
    1 1 5 5 1 1 1 3 1 2 5 6 1 4 1 4 1 4 1 4 1 4 1 12 1 3 9 1 102 4 1 6 1 2 2 2 25 2 4 3 16 4 13
    1 2 2 6 1 15 1 703 3 946 3 29 2 30 2 30 2 67 7 8 1 2 11 9 1 167 2 34 1 118 3 4 2 9 1 6 3 219
    2 2 1 58 1 1 7 1 1 1 1 2 8 6 10 2 1 48 31 49 4 48 1 1 5 1 1 5 1 40 9 12 2 32 4 2 2 1 3 56 1
    1 2 3 1 1 3 58 8 2 2 152 3 1 13 1 7 4 1 6 1 3 2 198 64 720 33 3070 3 141 1 96 32 554 4 107 2
    30164 4 1 10 32 2 80 2 272 1 3 1 4 1 25 2 5 1 151 2 26 18 13 1 38 8 25 11 46 3 48 1 2 4 2 2
    39 1 67 6 2 2 2 2 12 1 8 1 47 1 51 1 1 3 2 2 5 2 1 1 42 2 8 1 238 1 2 1 4 1 20272 1 769 16
    973 1 226 1 149 5 1670 3 1 2 5 4 40 3 4 1 165 2 573 4 387 2 80 3 70 11 49 4 123 1 54 15 41 1
    2 2 10 3 49 4 2 2 7 1 61 3 36 5 1 8 62 1 12 2 52 9 10 4 2 1 95 3 2 1 1 2 6 1 2 1 157 1 3 8
    21 2 57 2 3 1 37 7 3 5 195 8 2 3 1 1 23 1 84 6 1 1 4 2 1 2 238 4 6 2 1 2 27 2 85 8 2 1 1 2
    106 1 1 1 2 6 1 1 101 3 2 4 1 5 259 9 1 2 256 2 1 1 4 1 144 4 2 2 4 1 32 6 2 2 40 6 2 4 8 1
    9 6 2 3 46 13 1 2 406 7 1 6 84 22 2 7 1 2 1 2 122 6 3 1 1 2 1 7 1 1 72 2 3 1 1 1 347 2 11 2
    52 5 5 1 1 1 5373 1 6 15 13978 5 59 7 1048 1 63 4 81 1 19640 2 4705 46 2 23 544 3 17 8 2 7
    30 4 148 3 1979 55 4 50 8 1 14 1 22 5 1 15 1360 7 1 17 2 7 1 2 1 5 100 1 160 7 375 1 61 4
    508 4 992 7 109 7"

def neutralSteps : String :=
  "0 9 5 14 5 15 10 7 26 6 26 5 33 7 1 1 1 2 1 1 1 2 4 2 3 1 3 1 23 1 31 1 449 2 7 14 2 6 6 2 5
    9 1 17 117 1 128 1 403 1 2 3 118 2 1 2 1 1 1 2 90 1 115 1 10 1 268 4 504 2 7 1 245 1 257 8
    125 7 448 1 250 4 1106 10 102 1 666 2 318 1 20 10 6 11 309 1 3 2 152 34 1548 2 2 1 1 5 1 12
    3 1 8 3 2 1 2 4 1 1 1 8 3 13 1 7 65 8 1 25 66 1 3 1 11 1 2 2 5 2 3 1 1 1 1 1 1 1 4 1 11 1 6
    4 5 4 60 2 4 156 2 1 2 248 2 11 69 26 1 145 25 11 160 449 1 339 256 268 1 103 3 101 1 151 2
    32 1 105 229 6 14 7 256 94 34 26 1 4 1 83 270 1 1 2 3 25 15 1 6 1 5 3 96 1 90 1 196 36 7132
    64 22160 55 326 3 99 1 10 2 128 34 102 1 159 4 12 2 58 4 754 2 20946 18 127 1 45 3 69 2 698
    1 62 77 3 13 3 1 1918 1 537 7 1298 20 1530 13 2408 29 20464 1 25094 2 21 66 3 1 186 87 4008
    1 3056 2 270 44 4 100 12 15 2 15 1 15 1 37 21 5 31 1 61 3 61 1 178 6 154 984 4 17 3 13 3 119
    4 95 6 12 4 1 15 12 4 56 8 10 6 40 8 30 2 2 78 340 12 14 2 13 3 9 7 46 1 7 8 14 4 9 7 9 7
    147 1 55"

end FormRules.Url
