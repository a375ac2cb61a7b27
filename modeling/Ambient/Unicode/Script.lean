import Ambient.Unicode.CodeSet

namespace Ambient.Unicode

/-!
# Scripts

The scripts, each with its names, the runs of the characters that belong to it
and, where they differ, the runs of the characters that are used with it.
-/

/-- A script: its names, the characters of the script, and the characters used
with it when these are not the same. -/
structure Script where
  names : List String
  own : String
  used : Option String

/-- The scripts by the order of their short names. -/
def scripts : List Script := [
  ⟨["Adlm", "Adlam"],
"125184 76 4 10 4 2",
some
"1567 1 32 1 6670 1 3569 1 113342 76 4 10 4 2"⟩,
  ⟨["Aghb", "Caucasian_Albanian"],
"66864 52 11 1",
some
"772 1 44 1 44 1 66001 52 11 1"⟩,
  ⟨["Ahom"],
"71424 27 2 15 4 23",
none⟩,
  ⟨["Arab", "Arabic"],
"1536 5 1 6 1 14 1 3 1 32 1 10 11 26 1 108 1 34 80 48 240 31 1 2 5 75 1 29 62032 115 16 363 2
80 2 54 7 1 32 16 112 5 1 135 3939 31 67 3 55 4 57088 4 1 27 1 2 1 1 2 1 1 10 1 4 1 1 1 1 6 1 4
1 1 1 1 1 1 3 1 2 1 1 2 1 1 1 1 1 1 1 1 1 1 2 1 1 2 4 1 7 1 4 1 4 1 1 1 10 1 17 5 3 1 5 1 17 52
2",
some
"1536 5 1 215 1 34 80 48 240 31 1 2 5 75 1 29 5967 1 3569 1 52494 115 16 445 2 54 7 1 32 16 112
5 1 135 995 28 2916 31 67 3 55 4 57088 4 1 27 1 2 1 1 2 1 1 10 1 4 1 1 1 1 6 1 4 1 1 1 1 1 1 3
1 2 1 1 2 1 1 1 1 1 1 1 1 1 1 2 1 1 2 4 1 7 1 4 1 4 1 1 1 10 1 17 5 3 1 5 1 17 52 2"⟩,
  ⟨["Armi", "Imperial_Aramaic"],
"67648 22 1 9",
none⟩,
  ⟨["Armn", "Armenian"],
"1329 38 2 50 2 3 62851 5",
some
"776 1 552 38 2 50 2 3 62851 5"⟩,
  ⟨["Avst", "Avestan"],
"68352 54 3 7",
some
"183 1 11640 2 56526 54 3 7"⟩,
  ⟨["Bali", "Balinese"],
"6912 77 1 50",
none⟩,
  ⟨["Bamu", "Bamum"],
"42656 88 49416 569",
none⟩,
  ⟨["Bass", "Bassa_Vah"],
"92880 30 2 6",
none⟩,
  ⟨["Batk", "Batak"],
"7104 52 8 4",
none⟩,
  ⟨["Beng", "Bengali"],
"2432 4 1 8 2 2 2 22 1 7 1 1 3 4 2 9 2 2 2 4 8 1 4 2 1 5 2 25",
some
"700 1 1684 2 17 2 26 4 1 8 2 2 2 22 1 7 1 1 3 4 2 9 2 2 2 4 8 1 4 2 1 5 2 25 4817 1 1 1 2 2 1
1 8 1 8 1 2 1 4 1 2 3 35833 1"⟩,
  ⟨["Bhks", "Bhaiksuki"],
"72704 9 1 45 1 14 10 29",
none⟩,
  ⟨["Bopo", "Bopomofo"],
"746 2 11801 43 112 32",
some
"711 1 1 3 13 1 16 2 11541 3 4 10 1 13 10 4 2 1 6 1 195 1 9 43 112 32 52357 2 282 5"⟩,
  ⟨["Brah", "Brahmi"],
"69632 78 4 36 9 1",
none⟩,
  ⟨["Brai", "Braille"],
"10240 256",
none⟩,
  ⟨["Bugi", "Buginese"],
"6656 28 2 2",
some
"6656 28 2 2 36783 1"⟩,
  ⟨["Buhd", "Buhid"],
"5952 20",
some
"5941 2 9 20"⟩,
  ⟨["Cakm", "Chakma"],
"69888 53 1 18",
some
"2534 10 1616 10 65718 53 1 18"⟩,
  ⟨["Cans", "Canadian_Aboriginal"],
"5120 640 560 70 65978 16",
none⟩,
  ⟨["Cari", "Carian"],
"66208 49",
some
"183 1 8098 1 2 1 3539 1 54382 49"⟩,
  ⟨["Cham"],
"43520 55 9 14 2 10 2 4",
none⟩,
  ⟨["Cher", "Cherokee"],
"5024 86 2 6 38770 80",
some
"768 3 1 1 6 2 22 2 11 2 4206 86 2 6 38770 80"⟩,
  ⟨["Chrs", "Chorasmian"],
"69552 28",
none⟩,
  ⟨["Copt", "Coptic", "Qaac"],
"994 14 10384 116 5 7",
some
"183 1 584 1 3 2 1 1 108 2 108 14 10384 116 5 7 279 1 54472 28"⟩,
  ⟨["Cpmn", "Cypro_Minoan"],
"77712 99",
some
"65792 2 11918 99"⟩,
  ⟨["Cprt", "Cypriot"],
"67584 6 2 1 1 44 1 2 3 1 2 1",
some
"65792 3 4 45 3 9 1728 6 2 1 1 44 1 2 3 1 2 1"⟩,
  ⟨["Cyrl", "Cyrillic"],
"1024 133 2 169 5968 11 160 1 76 1 4199 32 30784 96 22414 2 57856 62 33 1",
some
"700 1 67 3 1 1 1 1 1 1 2 1 5 1 238 304 5968 11 160 1 76 1 127 1 4071 32 67 1 30716 96 22414 2
57856 62 33 1"⟩,
  ⟨["Deva", "Devanagari"],
"2304 81 4 15 2 26 40800 32 29184 10",
some
"700 1 1603 83 2 43 4944 39 1 2 1014 1 34623 10 166 32 29184 10"⟩,
  ⟨["Diak", "Dives_Akuru"],
"71936 7 2 1 2 8 1 2 1 30 1 2 2 12 9 10",
none⟩,
  ⟨["Dogr", "Dogra"],
"71680 60",
some
"2404 12 40640 10 28614 60"⟩,
  ⟨["Dsrt", "Deseret"],
"66560 80",
none⟩,
  ⟨["Dupl", "Duployan"],
"113664 107 5 13 3 9 7 10 2 4",
some
"183 1 591 2 1 1 24 2 11031 1 101827 107 5 13 3 9 7 10 2 8"⟩,
  ⟨["Egyp", "Egyptian_Hieroglyphs"],
"77824 1110 10 3995",
none⟩,
  ⟨["Elba", "Elbasan"],
"66816 40",
some
"183 1 589 1 66042 40"⟩,
  ⟨["Elym", "Elymaic"],
"69600 23",
none⟩,
  ⟨["Ethi", "Ethiopic"],
"4608 73 1 4 2 7 1 1 1 4 2 41 1 4 2 33 1 4 2 7 1 1 1 4 2 15 1 57 1 4 2 67 2 32 3 26 6630 23 9 7
1 7 1 7 1 7 1 7 1 7 1 7 1 7 32034 6 2 6 2 6 9 7 1 7 81073 7 1 4 1 2 1 15",
some
"782 1 3825 73 1 4 2 7 1 1 1 4 2 41 1 4 2 33 1 4 2 7 1 1 1 4 2 15 1 57 1 4 2 67 2 32 3 26 6630
23 9 7 1 7 1 7 1 7 1 7 1 7 1 7 1 7 32034 6 2 6 2 6 9 7 1 7 81073 7 1 4 1 2 1 15"⟩,
  ⟨["Gara", "Garay"],
"68928 38 3 29 8 2",
some
"1548 1 14 1 3 1 67360 38 3 29 8 2"⟩,
  ⟨["Geor", "Georgian"],
"4256 38 1 1 5 1 2 43 1 4 2960 43 2 3 4160 38 1 1 5 1",
some
"183 1 1233 1 2838 38 1 1 5 1 2 48 2960 43 2 3 922 1 3237 38 1 1 5 1 259 1"⟩,
  ⟨["Glag", "Glagolitic"],
"11264 96 111520 7 1 17 2 7 1 2 1 5",
some
"183 1 587 1 1 1 382 1 2 1 257 1 2929 1 3934 1 2981 96 483 1 30763 1 80272 7 1 17 2 7 1 2 1 5"⟩,
  ⟨["Gong", "Gunjala_Gondi"],
"73056 6 1 2 1 37 1 2 1 6 7 10",
some
"183 1 2220 2 70650 6 1 2 1 37 1 2 1 6 7 10"⟩,
  ⟨["Gonm", "Masaram_Gondi"],
"72960 7 1 2 1 44 3 1 1 2 1 9 8 10",
some
"2404 2 70554 7 1 2 1 44 3 1 1 2 1 9 8 10"⟩,
  ⟨["Goth", "Gothic"],
"66352 27",
some
"183 1 588 2 2 1 40 1 65534 27"⟩,
  ⟨["Gran", "Grantha"],
"70400 4 1 8 2 2 2 22 1 7 1 2 1 5 2 9 2 2 2 3 2 1 6 1 5 7 2 7 3 5",
some
"2385 2 17 2 640 14 4316 1 1 2 30 3 3 2 1014 1 61967 4 1 8 2 2 2 22 1 7 1 2 1 5 1 10 2 2 2 3 2
1 6 1 5 7 2 7 3 5 3163 2 1 1"⟩,
  ⟨["Grek", "Greek"],
"880 4 1 3 2 4 1 1 4 1 1 1 1 3 1 1 1 20 1 63 14 16 6438 5 50 5 4 5 84 1 320 22 2 6 2 38 2 6 2 8
1 1 1 1 1 1 1 31 2 53 1 15 1 14 2 6 1 19 2 3 1 9 295 1 35390 1 21978 79 17 1 53343 70",
some
"183 1 584 2 2 1 1 1 1 1 10 1 46 1 2 1 42 8 2 4 1 1 4 1 1 1 1 3 1 1 1 20 1 63 14 16 6438 5 50 5
4 5 84 3 318 22 2 6 2 38 2 6 2 8 1 1 1 1 1 1 1 31 2 53 1 15 1 14 2 6 1 19 2 3 1 9 94 1 200 1
35390 1 21978 79 17 1 53343 70"⟩,
  ⟨["Gujr", "Gujarati"],
"2689 3 1 9 1 3 1 22 1 7 1 2 1 5 2 10 1 3 1 3 2 1 15 4 2 12 7 7",
some
"2385 2 17 2 283 3 1 9 1 3 1 22 1 7 1 2 1 5 2 10 1 3 1 3 2 1 15 4 2 12 7 7 40240 10"⟩,
  ⟨["Gukh", "Gurung_Khema"],
"90368 58",
some
"2405 1 87962 58"⟩,
  ⟨["Guru", "Gurmukhi"],
"2561 3 1 6 4 2 2 22 1 7 1 2 1 2 1 2 2 1 1 5 4 2 2 3 3 1 7 4 1 1 7 17",
some
"2385 2 17 2 155 3 1 6 4 2 2 22 1 7 1 2 1 2 1 2 2 1 1 5 4 2 2 3 3 1 7 4 1 1 7 17 40377 10"⟩,
  ⟨["Hang", "Hangul"],
"4352 256 7726 2 257 94 113 31 65 31 30433 29 643 11172 12 23 4 49 10148 31 3 6 2 6 2 6 2 3",
some
"4352 256 7681 3 4 10 1 13 14 3 6 1 195 1 53 94 113 31 65 31 30433 29 643 11172 12 23 4 49 9801
2 282 5 58 31 3 6 2 6 2 6 2 3"⟩,
  ⟨["Hani", "Han"],
"11904 26 1 89 12 214 47 1 1 1 25 9 14 4 964 6592 64 20992 22784 366 2 106 29960 2 12 2 36878
42720 32 4154 6 222 2 5762 14 7473 15 622 2466 542 1506 4939 5 4192",
some
"183 1 11720 26 1 89 12 214 26 16 1 3 1 13 1 13 1 13 2 1 6 9 187 1 148 16 32 38 9 1 48 40 56 49
15 12 51 1 88 25 10 5 96 31 1 6592 64 20992 1792 8 20984 366 2 106 875 2 282 5 28796 2 12 2
25454 18 7902 2 3502 42720 32 4154 6 222 2 5762 14 7473 15 622 2466 542 1506 4939 5 4192"⟩,
  ⟨["Hano", "Hanunoo"],
"5920 21",
some
"5920 23"⟩,
  ⟨["Hatr", "Hatran"],
"67808 19 1 2 5 5",
none⟩,
  ⟨["Hebr", "Hebrew"],
"1425 55 8 27 4 6 62760 26 1 5 1 1 1 2 1 2 1 10",
some
"775 2 648 55 8 27 4 6 62760 26 1 5 1 1 1 2 1 2 1 10"⟩,
  ⟨["Hira", "Hiragana"],
"12353 86 6 3 98145 287 18 1 29 3 16557 1",
some
"12289 3 4 10 1 13 16 6 1 1 4 2 3 86 2 8 90 2 52552 2 282 5 10 1 45 2 45153 287 18 1 29 3 16557
1"⟩,
  ⟨["Hluw", "Anatolian_Hieroglyphs"],
"82944 583",
none⟩,
  ⟨["Hmng", "Pahawh_Hmong"],
"92928 70 10 10 1 7 1 21 5 19",
none⟩,
  ⟨["Hmnp", "Nyiakeng_Puachue_Hmong"],
"123136 45 3 14 2 10 4 2",
none⟩,
  ⟨["Hung", "Old_Hungarian"],
"68736 51 13 51 7 6",
some
"8282 1 2 1 3539 1 15 1 56894 51 13 51 7 6"⟩,
  ⟨["Ital", "Old_Italic"],
"66304 36 9 3",
none⟩,
  ⟨["Java", "Javanese"],
"43392 78 2 10 4 2",
some
"43392 78 1 11 4 2"⟩,
  ⟨["Kali", "Kayah_Li"],
"43264 46 1 1",
some
"43264 48"⟩,
  ⟨["Kana", "Katakana"],
"12449 90 2 3 240 16 208 47 1 88 52238 10 1 45 45138 4 1 7 1 2 1 1 287 3 50 1 14 4",
some
"773 1 29 1 11485 3 4 10 1 13 16 6 1 1 4 2 91 4 3 96 240 16 208 47 1 88 51949 2 282 63 45136 4
1 7 1 2 1 1 287 3 50 1 14 4"⟩,
  ⟨["Kawi"],
"73472 17 1 41 3 29",
none⟩,
  ⟨["Khar", "Kharoshthi"],
"68096 4 1 2 5 8 1 3 1 29 2 3 4 10 7 9",
none⟩,
  ⟨["Khmr", "Khmer"],
"6016 94 2 10 6 10 486 32",
none⟩,
  ⟨["Khoj", "Khojki"],
"70144 18 1 47",
some
"2790 10 40256 10 27078 18 1 47"⟩,
  ⟨["Kits", "Khitan_Small_Script"],
"94180 1 6939 470 41 1",
none⟩,
  ⟨["Knda", "Kannada"],
"3200 13 1 3 1 23 1 10 1 5 2 9 1 3 1 4 7 2 6 2 1 4 2 10 1 3",
some
"2385 2 17 2 794 13 1 3 1 23 1 10 1 5 2 9 1 3 1 4 7 2 6 2 1 4 2 10 1 3 4060 1 1 2 6 1 23 1 1 1
35643 6"⟩,
  ⟨["Krai", "Kirat_Rai"],
"93504 58",
none⟩,
  ⟨["Kthi", "Kaithi"],
"69760 67 10 1",
some
"2406 10 9409 1 31230 10 26694 67 10 1"⟩,
  ⟨["Lana", "Tai_Tham"],
"6688 63 1 29 2 11 6 10 6 14",
none⟩,
  ⟨["Laoo", "Lao"],
"3713 2 1 1 1 5 1 24 1 1 1 23 2 5 1 1 1 7 1 10 2 4",
none⟩,
  ⟨["Latn", "Latin"],
"65 26 6 26 47 1 15 1 5 23 1 31 1 449 39 5 6683 38 6 49 5 4 5 13 1 70 65 256 369 1 13 1 16 13
141 2 6 1 27 1 17 41 2775 32 31394 102 3 67 2 2 1 1 1 8 21 14 816 43 1 9 1 4 20374 7 1050 26 6
26 2085 6 1 42 1 9 55109 31 6 6",
some
"65 26 6 26 47 1 12 1 2 1 5 23 1 31 1 449 3 1 10 1 1 3 1 1 9 1 1 1 6 5 27 15 1 2 1 1 12 1 2 3 7
2 1 2 38 1 5 1 4 13 277 2 1226 2 1960 1 3076 38 6 49 5 4 5 13 1 70 57 1 7 256 303 1 65 1 13 1
16 13 83 1 57 2 6 1 27 1 17 41 2775 32 407 1 30952 8 26 102 3 67 2 2 1 1 1 8 21 14 302 1 513 43
1 9 1 4 20374 7 1050 26 6 26 2085 6 1 42 1 9 55109 31 6 6"⟩,
  ⟨["Lepc", "Lepcha"],
"7168 56 3 15 3 3",
none⟩,
  ⟨["Limb", "Limbu"],
"6400 31 1 12 4 12 4 1 3 12",
some
"2405 1 3994 31 1 12 4 12 4 1 3 12"⟩,
  ⟨["Lina", "Linear_A"],
"67072 311 9 22 10 8",
some
"65799 45 1228 311 9 22 10 8"⟩,
  ⟨["Linb", "Linear_B"],
"65536 12 1 26 1 19 1 2 1 15 2 14 34 123",
some
"65536 12 1 26 1 19 1 2 1 15 2 14 34 123 5 3 4 45 3 9"⟩,
  ⟨["Lisu"],
"42192 48 31408 1",
some
"700 1 16 1 11580 2 29892 48 31408 1"⟩,
  ⟨["Lyci", "Lycian"],
"66176 29",
some
"8282 1 57893 29"⟩,
  ⟨["Lydi", "Lydian"],
"67872 26 5 1",
some
"183 1 11641 1 56046 26 5 1"⟩,
  ⟨["Mahj", "Mahajani"],
"69968 39",
some
"183 1 2220 12 40640 10 26902 39"⟩,
  ⟨["Maka", "Makasar"],
"73440 25",
none⟩,
  ⟨["Mand", "Mandaic"],
"2112 28 2 1",
some
"1600 1 511 28 2 1"⟩,
  ⟨["Mani", "Manichaean"],
"68288 39 4 12",
some
"1600 1 66687 39 4 12"⟩,
  ⟨["Marc", "Marchen"],
"72816 32 2 22 1 14",
none⟩,
  ⟨["Medf", "Medefaidrin"],
"93760 91",
none⟩,
  ⟨["Mend", "Mende_Kikakui"],
"124928 197 2 16",
none⟩,
  ⟨["Merc", "Meroitic_Cursive"],
"68000 24 4 20 2 46",
none⟩,
  ⟨["Mero", "Meroitic_Hieroglyphs"],
"67968 32",
some
"8285 1 59682 32"⟩,
  ⟨["Mlym", "Malayalam"],
"3328 13 1 3 1 51 1 3 1 6 4 16 2 26",
some
"2385 2 17 2 922 13 1 3 1 51 1 3 1 6 4 16 2 26 3930 1 23 1 35645 3"⟩,
  ⟨["Modi"],
"71168 69 11 10",
some
"43056 10 28102 69 11 10"⟩,
  ⟨["Mong", "Mongolian"],
"6144 2 2 1 1 20 6 89 7 43 64949 13",
some
"6144 26 6 89 7 43 1924 1 4049 2 5 4 58964 13"⟩,
  ⟨["Mroo", "Mro"],
"92736 31 1 10 4 2",
none⟩,
  ⟨["Mtei", "Meetei_Mayek"],
"43744 23 201 46 2 10",
none⟩,
  ⟨["Mult", "Multani"],
"70272 7 1 1 1 4 1 15 1 11",
some
"2662 10 67600 7 1 1 1 4 1 15 1 11"⟩,
  ⟨["Mymr", "Myanmar"],
"4096 160 39232 31 97 32 27728 20",
some
"4096 160 39054 1 177 31 97 32 27728 20"⟩,
  ⟨["Nagm", "Nag_Mundari"],
"124112 42",
none⟩,
  ⟨["Nand", "Nandinagari"],
"72096 8 2 46 2 11",
some
"2404 2 896 10 4089 1 8 1 7 1 35637 6 29034 8 2 46 2 11"⟩,
  ⟨["Narb", "Old_North_Arabian"],
"68224 32",
none⟩,
  ⟨["Nbat", "Nabataean"],
"67712 31 8 9",
none⟩,
  ⟨["Newa"],
"70656 92 1 5",
none⟩,
  ⟨["Nkoo", "Nko"],
"1984 59 2 3",
some
"1548 1 14 1 3 1 416 59 2 3 62782 2"⟩,
  ⟨["Nshu", "Nushu"],
"94177 1 16782 396",
none⟩,
  ⟨["Ogam", "Ogham"],
"5760 29",
none⟩,
  ⟨["Olck", "Ol_Chiki"],
"7248 48",
none⟩,
  ⟨["Onao", "Ol_Onal"],
"124368 43 4 1",
some
"2404 2 121962 43 4 1"⟩,
  ⟨["Orkh", "Old_Turkic"],
"68608 73",
some
"8282 1 3541 1 56783 73"⟩,
  ⟨["Orya", "Oriya"],
"2817 3 1 8 2 2 2 22 1 7 1 2 1 5 2 9 2 2 2 3 7 3 4 2 1 5 2 18",
some
"2385 2 17 2 411 3 1 8 2 2 2 22 1 7 1 2 1 5 2 9 2 2 2 3 7 3 4 2 1 5 2 18 4450 1 23 1"⟩,
  ⟨["Osge", "Osage"],
"66736 36 4 36",
some
"769 1 2 1 6 1 76 1 65879 36 4 36"⟩,
  ⟨["Osma", "Osmanya"],
"66688 30 2 10",
none⟩,
  ⟨["Ougr", "Old_Uyghur"],
"69488 26",
some
"1600 1 66737 1 1149 26"⟩,
  ⟨["Palm", "Palmyrene"],
"67680 32",
none⟩,
  ⟨["Pauc", "Pau_Cin_Hau"],
"72384 57",
none⟩,
  ⟨["Perm", "Old_Permic"],
"66384 43",
some
"183 1 584 1 5 3 10 1 367 1 65228 43"⟩,
  ⟨["Phag", "Phags_Pa"],
"43072 56",
some
"6146 2 1 1 2089 1 4050 1 30781 56"⟩,
  ⟨["Phli", "Inscriptional_Pahlavi"],
"68448 19 5 8",
none⟩,
  ⟨["Phlp", "Psalter_Pahlavi"],
"68480 18 7 4 12 7",
some
"1600 1 66879 18 7 4 12 7"⟩,
  ⟨["Phnx", "Phoenician"],
"67840 28 3 1",
none⟩,
  ⟨["Plrd", "Miao"],
"93952 75 4 57 7 17",
none⟩,
  ⟨["Prti", "Inscriptional_Parthian"],
"68416 22 2 8",
none⟩,
  ⟨["Rjng", "Rejang"],
"43312 36 11 1",
none⟩,
  ⟨["Rohg", "Hanifi_Rohingya"],
"68864 40 8 10",
some
"1548 1 14 1 3 1 32 1 147 1 67115 40 8 10"⟩,
  ⟨["Runr", "Runic"],
"5792 75 3 11",
some
"5792 89"⟩,
  ⟨["Samr", "Samaritan"],
"2048 46 2 15",
some
"2048 46 2 15 9714 1"⟩,
  ⟨["Sarb", "Old_South_Arabian"],
"68192 32",
none⟩,
  ⟨["Saur", "Saurashtra"],
"43136 70 8 12",
none⟩,
  ⟨["Sgnw", "SignWriting"],
"120832 652 15 5 1 15",
none⟩,
  ⟨["Shaw", "Shavian"],
"66640 48",
some
"183 1 66456 48"⟩,
  ⟨["Shrd", "Sharada"],
"70016 96",
some
"2385 1 4997 1 1 1 2 2 2 1 35663 6 2 1 26951 96"⟩,
  ⟨["Sidd", "Siddham"],
"71040 54 2 38",
none⟩,
  ⟨["Sind", "Khudawadi"],
"70320 59 5 10",
some
"2404 2 40650 10 27254 59 5 10"⟩,
  ⟨["Sinh", "Sinhala"],
"3457 3 1 18 3 24 1 9 1 1 2 7 3 1 4 6 1 1 1 8 6 10 2 3 66540 20",
some
"2404 2 1051 3 1 18 3 24 1 9 1 1 2 7 3 1 4 6 1 1 1 8 6 10 2 3 3837 1 62702 20"⟩,
  ⟨["Sogd", "Sogdian"],
"69424 42",
some
"1600 1 67823 42"⟩,
  ⟨["Sogo", "Old_Sogdian"],
"69376 40",
none⟩,
  ⟨["Sora", "Sora_Sompeng"],
"69840 25 7 10",
none⟩,
  ⟨["Soyo", "Soyombo"],
"72272 83",
none⟩,
  ⟨["Sund", "Sundanese"],
"7040 64 256 8",
none⟩,
  ⟨["Sunu", "Sunuwar"],
"72640 34 14 10",
some
"768 2 1 1 9 1 2 1 28 1 3 1 71822 34 14 10"⟩,
  ⟨["Sylo", "Syloti_Nagri"],
"43008 45",
some
"2404 2 128 10 40464 45"⟩,
  ⟨["Syrc", "Syriac"],
"1792 14 1 60 2 3 272 11",
some
"771 2 2 2 1 1 21 1 2 3 7 2 1 1 731 1 14 2 2 1 32 1 10 11 26 1 143 14 1 60 2 3 272 11 5517 1 1
1"⟩,
  ⟨["Tagb", "Tagbanwa"],
"5984 13 1 3 1 2",
some
"5941 2 41 13 1 3 1 2"⟩,
  ⟨["Takr", "Takri"],
"71296 58 6 10",
some
"2404 2 40650 10 28230 58 6 10"⟩,
  ⟨["Tale", "Tai_Le"],
"6480 30 2 5",
some
"768 2 5 2 3 1 3379 10 2310 30 2 5"⟩,
  ⟨["Talu", "New_Tai_Lue"],
"6528 44 4 26 6 11 3 2",
none⟩,
  ⟨["Taml", "Tamil"],
"2946 2 1 6 3 3 1 4 3 2 1 1 1 2 3 2 3 3 3 12 4 5 3 3 1 4 2 1 6 1 14 21 70597 50 13 1",
some
"2385 2 17 2 540 2 1 6 3 3 1 4 3 2 1 1 1 2 3 2 3 3 3 12 4 5 3 3 1 4 2 1 6 1 14 21 4319 1 35864
1 27149 1 1 1 55 2 3203 50 13 1"⟩,
  ⟨["Tang", "Tangut"],
"94176 1 31 6136 8 768 512 9",
some
"12272 16 495 1 81392 1 31 6136 8 768 512 9"⟩,
  ⟨["Tavt", "Tai_Viet"],
"43648 67 24 5",
none⟩,
  ⟨["Telu", "Telugu"],
"3072 13 1 3 1 23 1 16 2 9 1 3 1 4 7 2 1 3 2 1 2 4 2 10 7 9",
some
"2385 2 17 2 666 13 1 3 1 23 1 16 2 9 1 3 1 4 7 2 1 3 2 1 2 4 2 10 7 9 4186 1 23 1"⟩,
  ⟨["Tfng", "Tifinagh"],
"11568 56 7 2 14 1",
some
"770 1 1 1 2 1 1 1 10790 56 7 2 14 1"⟩,
  ⟨["Tglg", "Tagalog"],
"5888 22 9 1",
some
"5888 22 9 1 21 2"⟩,
  ⟨["Thaa", "Thaana"],
"1920 50",
some
"1548 1 14 2 2 1 64 10 278 50 63040 1 10 1"⟩,
  ⟨["Thai"],
"3585 58 5 28",
some
"700 1 26 1 43 1 45 1 2767 58 5 28"⟩,
  ⟨["Tibt", "Tibetan"],
"3840 72 1 36 4 39 1 36 1 15 1 7 4 2",
some
"3840 72 1 36 4 39 1 36 1 15 1 7 4 2 8237 4"⟩,
  ⟨["Tirh", "Tirhuta"],
"70784 72 8 10",
some
"2385 2 17 2 5004 1 35645 10 27718 72 8 10"⟩,
  ⟨["Tnsa", "Tangsa"],
"92784 79 1 10",
none⟩,
  ⟨["Todr", "Todhri"],
"67008 52",
some
"769 1 2 1 2 1 9 1 1 1 74 1 66145 52"⟩,
  ⟨["Toto"],
"123536 31",
some
"700 1 122835 31"⟩,
  ⟨["Tutg", "Tulu_Tigalari"],
"70528 10 1 1 2 1 1 38 1 10 1 1 2 1 1 4 1 10 1 2 8 2",
some
"3302 10 4098 1 1 1 35643 6 187 1 27278 10 1 1 2 1 1 38 1 10 1 1 2 1 1 4 1 10 1 2 8 2"⟩,
  ⟨["Ugar", "Ugaritic"],
"66432 30 1 1",
none⟩,
  ⟨["Vaii", "Vai"],
"42240 300",
none⟩,
  ⟨["Vith", "Vithkuqi"],
"66928 11 1 15 1 7 1 2 1 11 1 15 1 7 1 2",
none⟩,
  ⟨["Wara", "Warang_Citi"],
"71840 83 12 1",
none⟩,
  ⟨["Wcho", "Wancho"],
"123584 58 5 1",
none⟩,
  ⟨["Xpeo", "Old_Persian"],
"66464 36 4 14",
none⟩,
  ⟨["Xsux", "Cuneiform"],
"73728 922 102 111 1 5 11 196",
none⟩,
  ⟨["Yezi", "Yezidi"],
"69248 42 1 3 2 2",
some
"1548 1 14 1 3 1 64 10 67606 42 1 3 2 2"⟩,
  ⟨["Yiii", "Yi"],
"40960 1165 3 55",
some
"12289 2 5 10 2 8 223 1 28420 1165 3 55 23194 5"⟩,
  ⟨["Zanb", "Zanabazar_Square"],
"72192 72",
none⟩,
  ⟨["Zinh", "Inherited", "Qaai"],
"768 112 277 2 452 11 26 1 736 4 4443 31 513 3 1 13 1 7 4 1 6 1 3 2 198 64 524 2 194 33 3897 4
107 2 52581 16 16 14 975 1 226 1 4186 1 48068 46 2 23 544 3 17 8 2 7 30 4 798546 240",
some
"783 1 2 1 1 12 1 2 3 7 2 1 2 16 1 2 1 18 1 5 1 4 1520 2 4443 31 755 54 1 1 1 5 524 2 194 32
56592 16 16 14 975 1 52482 46 2 23 544 3 17 8 2 7 30 4 798546 240"⟩,
  ⟨["Zyyy", "Common"],
"0 65 26 6 26 47 1 15 1 5 23 1 31 1 449 39 5 5 2 20 116 1 9 1 6 1 1 1 637 1 6 1 14 1 3 1 32 1
156 1 516 1 129 2 1241 1 405 4 290 1 1519 3 71 2 203 2 1 1 1229 1 13 1 7 4 1 6 1 3 2 1 773 12 2
87 1 11 3 11 1 15 17 33 63 38 1 3 2 6 1 27 1 17 41 3 4 666 22 11 21 928 256 628 2 32 1 105 512
94 402 21 1 1 1 25 15 8 4 4 91 2 3 1 90 2 147 16 32 38 9 1 48 64 31 81 47 1 88 168 6592 64
22784 34 102 3 165 10 244 1 160 1 395 1 14 2 20946 2 208 10 22 35 1 19 1 4 147 1 1 32 26 6 26
11 10 1 45 2 64 7 1 7 10 5 258 3 4 45 3 9 80 13 51 45 228 27 47524 4 3932 250 6 436 156 116 60
246 10 39 2 62 3 17 8 2 7 30 4 61 213 20 12 20 12 87 9 25 135 85 1 71 1 2 2 1 2 2 2 4 1 12 1 1
1 7 1 65 1 4 2 8 1 7 1 28 1 4 1 5 1 1 3 7 1 340 2 292 2 50 5233 68 76 61 706 44 4 100 12 15 2
15 1 15 1 37 10 174 56 26 1 2 13 44 4 9 7 2 14 6 154 984 4 17 3 13 3 119 4 95 6 12 4 1 15 12 4
56 8 10 6 40 8 30 2 12 4 2 62 340 12 14 2 13 3 10 5 56 7 15 2 11 6 9 7 147 1 102 787463 1 30 96",
some
"0 65 26 6 26 47 1 12 1 2 1 5 23 1 31 1 449 3 1 10 1 1 3 1 1 9 1 1 1 6 5 5 2 20 126 1 6 1 1 1
637 1 215 1 516 1 1372 1 405 4 4135 12 2 33 1 31 1 10 1 2 1 7 1 11 3 11 1 15 17 33 63 38 1 3 2
6 1 27 1 17 41 3 4 666 22 11 21 928 256 628 2 32 1 105 512 23 1 24 2 10 1 4 1 1 1 26 418 1 3 1
13 1 13 1 21 1 529 24 31 1 49 15 12 4 161 10 5 96 31 1 6592 64 22792 26 102 3 976 1 14 2 21156
10 22 21 2 12 1 19 1 4 147 1 1 32 26 6 26 6 127 7 1 7 10 5 402 13 51 45 51715 250 6 436 156 116
60 246 10 39 2 62 3 17 8 2 7 30 4 61 213 20 12 20 12 87 27 7 135 85 1 71 1 2 2 1 2 2 2 4 1 12 1
1 1 7 1 65 1 4 2 8 1 7 1 28 1 4 1 5 1 1 3 7 1 340 2 292 2 50 5233 68 76 61 706 44 4 100 12 15 2
15 1 15 1 37 10 174 56 26 1 2 13 44 4 9 23 6 154 984 4 17 3 13 3 119 4 95 6 12 4 1 15 12 4 56 8
10 6 40 8 30 2 12 4 2 62 340 12 14 2 13 3 10 5 56 7 15 2 11 6 9 7 147 1 102 787463 1 30 96"⟩]

end Ambient.Unicode
