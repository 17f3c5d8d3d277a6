import Dossier.Unicode.CodeSet
/-! # General categories: the table

    Every assigned character belongs to one of these categories. Surrogates
    are no characters and are left out, and so is the category of unassigned
    code points, which is what remains. -/

namespace Dossier.Unicode

/-- The general categories by their names. -/
def categoryTable : List NamedSet := [
  ⟨"lu uppercaseletter",
    ["41 1A 65 17 1 7 21 1 1 1 1 1 1 1 1 1 1 1 1 1 1 1 1 1 1 1 1 1 1 1 1 1 1 1 1 1 1 1 1 1 1",
     "1 1 1 1 1 1 1 1 1 1 1 1 1 1 1 1 1 1 1 1 1 2 1 1 1 1 1 1 1 1 1 1 1 1 1 1 1 2 1 1 1 1 1 1",
     "1 1 1 1 1 1 1 1 1 1 1 1 1 1 1 1 1 1 1 1 1 1 1 1 1 1 1 1 1 1 1 1 1 1 1 1 1 1 1 1 2 1 1 1",
     "1 3 2 1 1 1 2 1 3 2 4 1 2 1 3 3 2 1 2 1 1 1 1 1 2 1 1 2 1 1 2 1 3 1 1 1 2 3 1 7 1 2 1 2",
     "1 2 1 1 1 1 1 1 1 1 1 1 1 1 1 1 1 2 1 1 1 1 1 1 1 1 1 1 1 1 1 1 1 1 1 2 1 2 1 1 3 1 1 1",
     "1 1 1 1 1 1 1 1 1 1 1 1 1 1 1 1 1 1 1 1 1 1 1 1 1 1 1 1 1 1 1 1 1 1 1 1 1 1 1 1 1 1 1 1",
     "1 1 1 1 1 1 1 1 1 1 1 7 2 1 2 2 1 1 4 1 1 1 1 1 1 1 1 121 1 1 1 3 1 8 1 6 1 1 3 1 1 1 2",
     "1 11 1 9 23 1 2 3 3 1 1 1 1 1 1 1 1 1 1 1 1 1 1 1 1 1 1 1 1 1 1 1 5 1 2 1 1 2 2 33 30 1",
     "1 1 1 1 1 1 1 1 1 1 1 1 1 1 1 1 1 1 1 1 1 1 1 1 1 1 1 1 1 1 1 1 9 1 1 1 1 1 1 1 1 1 1 1",
     "1 1 1 1 1 1 1 1 1 1 1 1 1 1 1 1 1 1 1 1 1 1 1 1 1 1 1 1 1 1 1 1 1 1 1 1 1 1 1 1 1 1 1 2",
     "1 1 1 1 1 1 1 1 1 1 1 1 2 1 1 1 1 1 1 1 1 1 1 1 1 1 1 1 1 1 1 1 1 1 1 1 1 1 1 1 1 1 1 1",
     "1 1 1 1 1 1 1 1 1 1 1 1 1 1 1 1 1 1 1 1 1 1 1 1 1 1 1 1 1 1 1 1 1 1 1 1 1 1 1 1 1 1 1 1",
     "1 1 1 1 1 1 1 1 1 1 1 1 1 1 1 1 1 1 1 1 2 26 B49 26 1 1 5 1 2D2 56 89A 2B 2 3 140 1 1 1",
     "1 1 1 1 1 1 1 1 1 1 1 1 1 1 1 1 1 1 1 1 1 1 1 1 1 1 1 1 1 1 1 1 1 1 1 1 1 1 1 1 1 1 1 1",
     "1 1 1 1 1 1 1 1 1 1 1 1 1 1 1 1 1 1 1 1 1 1 1 1 1 1 1 1 1 1 1 1 1 1 1 1 1 1 1 1 1 1 1 1",
     "1 1 1 1 1 1 1 1 1 1 1 1 1 1 1 1 1 1 1 1 1 1 1 1 1 1 1 1 1 1 1 1 1 1 1 1 1 1 1 1 1 1 1 1",
     "1 1 1 1 1 1 1 1 1 1 1 1 1 1 9 1 1 1 1 1 1 1 1 1 1 1 1 1 1 1 1 1 1 1 1 1 1 1 1 1 1 1 1 1",
     "1 1 1 1 1 1 1 1 1 1 1 1 1 1 1 1 1 1 1 1 1 1 1 1 1 1 1 1 1 1 1 1 1 1 1 1 1 1 1 1 1 1 1 1",
     "1 1 1 1 1 1 1 1 1 1 1 1 1 1 1 1 1 1 1 1 1 1 1 1 9 8 8 6 A 8 8 8 8 6 B 1 1 1 1 1 1 1 8 8",
     "48 4 C 4 C 4 C 5 B 4 106 1 4 1 3 3 2 3 2 1 3 5 6 1 1 1 1 1 1 4 2 4 A 2 5 1 3D 1 A7C 30",
     "30 1 1 3 2 1 1 1 1 1 1 4 1 1 2 1 8 3 1 1 1 1 1 1 1 1 1 1 1 1 1 1 1 1 1 1 1 1 1 1 1 1 1",
     "1 1 1 1 1 1 1 1 1 1 1 1 1 1 1 1 1 1 1 1 1 1 1 1 1 1 1 1 1 1 1 1 1 1 1 1 1 1 1 1 1 1 1 1",
     "1 1 1 1 1 1 1 1 1 1 1 1 1 1 1 1 1 1 1 1 1 1 1 1 1 1 1 1 1 8 1 1 1 4 1 794D 1 1 1 1 1 1",
     "1 1 1 1 1 1 1 1 1 1 1 1 1 1 1 1 1 1 1 1 1 1 1 1 1 1 1 1 1 1 1 1 1 1 1 1 1 1 1 13 1 1 1",
     "1 1 1 1 1 1 1 1 1 1 1 1 1 1 1 1 1 1 1 1 1 1 1 1 87 1 1 1 1 1 1 1 1 1 1 1 1 1 3 1 1 1 1",
     "1 1 1 1 1 1 1 1 1 1 1 1 1 1 1 1 1 1 1 1 1 1 1 1 1 1 1 1 1 1 1 1 1 1 1 1 1 1 1 1 1 1 1 1",
     "1 1 1 1 1 1 1 1 1 1 1 1 1 A 1 1 1 1 2 1 1 1 1 1 1 1 1 4 1 1 1 2 1 1 1 3 1 1 1 1 1 1 1 1",
     "1 1 1 1 1 1 1 1 1 1 1 1 5 1 5 1 1 1 1 1 1 1 1 1 1 1 1 1 1 1 4 1 1 6 1 5 1 1 1 1C 1 572B",
     "1A 4C5 28 88 24 9C B 1 F 1 7 1 2 6EA 33 BED 20 5580 20 65A0 1A 1A 1A 1A 1A 1A 1 1 2 2 1",
     "2 2 2 4 1 8 1A 1A 1A 2 1 4 2 8 1 7 1B 2 1 4 1 5 1 1 3 7 1B 1A 1A 1A 1A 1A 1A 1A 1A 1A",
     "1A 1A 1E 19 21 19 21 19 21 19 21 19 21 1 1135 22"]⟩,
  ⟨"ll lowercaseletter",
    ["61 1A 3A 1 29 18 1 8 1 1 1 1 1 1 1 1 1 1 1 1 1 1 1 1 1 1 1 1 1 1 1 1 1 1 1 1 1 1 1 1 1",
     "1 1 1 1 1 1 1 1 1 1 1 1 1 1 1 1 1 1 1 1 1 1 2 1 1 1 1 1 1 1 1 1 1 1 1 1 1 1 2 1 1 1 1 1",
     "1 1 1 1 1 1 1 1 1 1 1 1 1 1 1 1 1 1 1 1 1 1 1 1 1 1 1 1 1 1 1 1 1 1 1 1 1 1 1 1 1 2 1 1",
     "1 1 3 2 1 1 1 2 1 3 2 4 1 2 1 3 3 2 1 2 1 1 1 1 1 2 1 1 2 1 1 2 1 3 1 1 1 2 2 2 3 6 1 2",
     "1 2 1 1 1 1 1 1 1 1 1 1 1 1 1 1 1 1 2 1 1 1 1 1 1 1 1 1 1 1 1 1 1 1 1 1 2 2 1 1 1 3 1 1",
     "1 1 1 1 1 1 1 1 1 1 1 1 1 1 1 1 1 1 1 1 1 1 1 1 1 1 1 1 1 1 1 1 1 1 1 1 1 1 1 1 1 1 1 1",
     "1 1 1 1 1 1 1 1 1 1 1 1 7 2 1 2 2 1 1 4 1 1 1 1 1 1 1 1 45 1 1B C1 1 1 1 3 1 3 3 12 1",
     "1B 23 1 2 3 3 1 1 1 1 1 1 1 1 1 1 1 1 1 1 1 1 1 1 1 1 1 1 1 5 1 1 2 1 2 2 33 30 1 1 1 1",
     "1 1 1 1 1 1 1 1 1 1 1 1 1 1 1 1 1 1 1 1 1 1 1 1 1 1 1 1 1 1 9 1 1 1 1 1 1 1 1 1 1 1 1 1",
     "1 1 1 1 1 1 1 1 1 1 1 1 1 1 1 1 1 1 1 1 1 1 1 1 1 1 1 1 1 1 1 1 1 1 1 1 1 1 1 1 2 1 1 1",
     "1 1 1 1 1 1 1 1 1 2 1 1 1 1 1 1 1 1 1 1 1 1 1 1 1 1 1 1 1 1 1 1 1 1 1 1 1 1 1 1 1 1 1 1",
     "1 1 1 1 1 1 1 1 1 1 1 1 1 1 1 1 1 1 1 1 1 1 1 1 1 1 1 1 1 1 1 1 1 1 1 1 1 1 1 1 1 1 1 1",
     "1 1 1 1 1 1 1 1 1 1 1 1 1 1 1 1 1 1 30 29 B47 2B 2 3 2F8 6 882 9 77 2C 3F D 1 22 66 1 1",
     "1 1 1 1 1 1 1 1 1 1 1 1 1 1 1 1 1 1 1 1 1 1 1 1 1 1 1 1 1 1 1 1 1 1 1 1 1 1 1 1 1 1 1 1",
     "1 1 1 1 1 1 1 1 1 1 1 1 1 1 1 1 1 1 1 1 1 1 1 1 1 1 1 1 1 1 1 1 1 1 1 1 1 1 1 1 1 1 1 1",
     "1 1 1 1 1 1 1 1 1 1 1 1 1 1 1 1 1 1 1 1 1 1 1 1 1 1 1 1 1 1 1 1 1 1 1 1 1 1 1 1 1 1 1 1",
     "1 1 1 1 1 1 1 1 1 1 1 1 1 1 9 1 1 1 1 1 1 1 1 1 1 1 1 1 1 1 1 1 1 1 1 1 1 1 1 1 1 1 1 1",
     "1 1 1 1 1 1 1 1 1 1 1 1 1 1 1 1 1 1 1 1 1 1 1 1 1 1 1 1 1 1 1 1 1 1 1 1 1 1 1 1 1 1 1 1",
     "1 1 1 1 1 1 1 1 1 1 1 1 1 1 1 1 1 1 1 1 1 1 1 1 9 8 6 A 8 8 8 8 6 A 8 8 8 8 E 2 8 8 8 8",
     "8 8 5 1 2 6 1 3 3 1 2 8 4 2 2 8 8 A 3 1 2 112 1 3 2 3 1 1B 1 4 1 4 1 2 2 8 4 4 1 35 1",
     "AAB 30 1 1 3 2 1 1 1 1 1 1 4 1 1 2 1 6 5 1 1 1 1 1 1 1 1 1 1 1 1 1 1 1 1 1 1 1 1 1 1 1",
     "1 1 1 1 1 1 1 1 1 1 1 1 1 1 1 1 1 1 1 1 1 1 1 1 1 1 1 1 1 1 1 1 1 1 1 1 1 1 1 1 1 1 1 1",
     "1 1 1 1 1 1 1 1 1 1 1 1 1 1 1 1 1 1 1 1 1 1 1 1 1 1 1 1 1 1 1 2 7 1 1 1 4 1 C 26 1 1 5",
     "1 7913 1 1 1 1 1 1 1 1 1 1 1 1 1 1 1 1 1 1 1 1 1 1 1 1 1 1 1 1 1 1 1 1 1 1 1 1 1 1 1 1",
     "1 1 1 1 1 13 1 1 1 1 1 1 1 1 1 1 1 1 1 1 1 1 1 1 1 1 1 1 1 1 1 1 1 87 1 1 1 1 1 1 1 1 1",
     "1 1 1 3 1 1 1 1 1 1 1 1 1 1 1 1 1 1 1 1 1 1 1 1 1 1 1 1 1 1 1 1 1 1 1 1 1 1 1 1 1 1 1 1",
     "1 1 1 1 1 1 1 1 1 1 1 1 1 1 1 1 1 1 1 1 1 1 1 8 1 1 1 1 2 1 1 1 1 1 1 1 1 1 4 1 1 1 2 1",
     "1 3 1 1 1 1 1 1 1 1 1 1 1 1 1 1 1 1 1 1 1 1 5 1 5 1 1 1 1 1 1 1 1 1 1 1 1 1 1 1 4 1 1 1",
     "6 1 1 1 1 1 1 1 1 1 1C 1 3 1 335 2B 5 9 7 50 4F40 7 C 5 429 1A 4CD 28 88 24 9B B 1 F 1",
     "7 1 2 703 33 BCD 20 5580 20 659A 1A 1A 7 1 12 1A 1A 1A 4 1 1 1 7 1 B 1A 1A 1A 1A 1A 1A",
     "1A 1A 1A 1A 1A 1A 1A 1A 1A 1A 1A 1C 1C 19 1 6 1A 19 1 6 1A 19 1 6 1A 19 1 6 1A 19 1 6 1",
     "1 734 A 1 14 6 6 9F7 22"]⟩,
  ⟨"lt titlecaseletter", ["1C5 1 2 1 2 1 26 1 1D95 8 8 8 8 8 C 1 F 1 2F 1"]⟩,
  ⟨"lm modifierletter",
    ["2B0 12 4 C E 5 7 1 1 1 85 1 5 1 1DE 1 E6 1 A4 2 10D 2 4 1 1F 1 9 1 3 1 A0 1 A7 1 4D4 1",
     "7F 1 235 1 6DA 1 6B 1 263 1 1D0 6 AE 3F D 1 22 25 2B1 1 D 1 10 D BDF 2 F1 1 BF 1 1D5 1",
     "2B 5 5 1 61 2 5D 3 6F16 1 4E2 6 10E 1 72 1 1C 2 79 9 50 1 17 1 69 3 3 2 1D5 1 16 1 89 1",
     "6C 1 15 2 67 4 9 1 5406 1 2D 2 7E0 6 1 2A 1 9 6385 4 44F D 40 2 1 1 400C 4 1 7 1 2 3031",
     "3E C9 7 3AD 1 45F 1"]⟩,
  ⟨"lo otherletter",
    ["AA 1 F 1 100 1 4 4 D0 1 33B 1B 4 4 2D 20 1 A 23 2 1 63 1 1 18 2 A 3 2 1 10 1 1 1E 1D 59",
     "B 1 18 21 15 16 2A 19 7 B 5 18 1 6 11 29 3B 36 3 1 12 1 7 A 10 F 4 8 2 2 2 16 1 7 1 1 3",
     "4 3 1 10 1 D 2 1 3 E 2 A 1 8 6 4 2 2 16 1 7 1 2 1 2 1 2 1F 4 1 1 13 3 10 9 1 3 1 16 1 7",
     "1 2 1 5 3 1 12 1 F 2 17 1 B 8 2 2 2 16 1 7 1 2 1 5 3 1 1E 2 1 3 F 1 11 1 1 6 3 3 1 4 3",
     "2 1 1 1 2 3 2 3 3 3 C 16 1 34 8 1 3 1 17 1 10 3 1 1A 3 2 1 2 2 1E 1 4 8 1 3 1 17 1 A 1",
     "5 3 1 1F 2 1 2 F 2 11 9 1 3 1 29 2 1 10 1 5 3 8 3 18 6 5 12 3 18 1 9 1 1 2 7 3A 30 1 2",
     "C 6 3B 2 1 1 1 5 1 18 1 1 1 A 1 2 9 1 2 5 17 4 20 1 3F 8 1 24 1B 5 73 2B 14 1 10 6 4 4",
     "3 1 3 2 7 3 4 D C 1 71 149 1 4 2 7 1 1 1 4 2 29 1 4 2 21 1 4 2 7 1 1 1 4 2 F 1 39 1 4 2",
     "43 25 10 71 26C 2 11 1 1A 5 4B 6 8 7 12 D 13 E 12 E D 1 3 F 34 28 1 43 23 1 35 7 5 2 22",
     "1 1 5 46 A 1F 31 1E 2 5 B 2C 4 1A 36 17 9 35 B0 2F 11 8 36 1E D 2 A 2C 1A 24 29 3 A 1E",
     "71 4 1 6 1 2 3 1 43A 4 BF7 38 18 17 9 7 1 7 1 7 1 7 1 7 1 7 1 7 1 7 227 1 35 1 4 56 8 1",
     "1 5A 4 1 5 2B 1 5E 11 20 30 10 200 19C0 40 5215 1 477 43 28 8 10C 4 10 A 2 42 1 31 46",
     "A9 1 67 1 3 7 1 3 1 4 1 17 1D 34 E 32 3E 6 3 1 1 2 B 1C A 17 19 1D 7 2F 2D 5 2 9 A 5 1",
     "29 17 3 1 8 14 10 1 6 3 1 3 32 1 1 3 2 2 5 2 1 1 1 18 2 3 B 7 1 E 6 2 6 2 6 9 7 1 7 91",
     "23 1D 2BA4 C 17 4 31 2104 16E 2 6A 43 1 1 A 1 D 1 5 1 1 1 2 1 2 1 6C 21 16B 12 40 2 36",
     "28 C 74 5 1 87 69 A 1 2D 2 1F 3 6 2 6 2 6 2 3 23 C 1 1A 1 13 1 2 1 F 2 E 22 7B 185 1D 3",
     "31 2F 20 D 14 1 8 6 26 A 1E 2 24 4 8 80 4E 62 28 8 34 9C 137 9 16 A 8 98 6 2 1 1 2C 1 2",
     "3 1 2 17 A 17 9 1F 41 13 1 2 A 16 A 1A 46 38 6 2 40 1 F 4 1 3 1 1D 2A 1D 3 1D 23 8 1 1C",
     "1B 36 A 16 A 13 D 12 6E 49 B7 24 15C 2A 6 2 4E 1D A 1 8 16 2A 12 2E 15 1B 17 C 35 39 2",
     "2 1 D 2D 20 19 1A 24 1D 1 2 1 8 23 3 1 C 30 E 4 15 1 1 1 23 12 1 19 13 2 3F 7 1 1 1 4 1",
     "F 1 A 7 2F 26 8 2 2 2 16 1 7 1 2 1 5 3 1 12 1 C 5 9E 35 12 4 14 3 1E 30 14 2 1 1 B8 2F",
     "29 4 24 30 14 1 3B 2B D 1 47 1B 25 7 B9 2C D3 8 2 1 2 8 1 2 1 18 F 1 1 1 5E 8 2 27 10 1",
     "1 1 1C 1 A 28 7 1 15 1 B 2E 13 1 12 49 107 9 1 25 11 1 31 1E 70 7 1 2 1 26 15 1 19 6 1",
     "2 1 20 E 1 147 13 F 1 1 D 1 22 7C 1 4F 39A E6 C4 A4C 61 F 430 11 6 FB9 247 21B9 239 7",
     "1F 11 4F 11 1E 12 30 33 15 5 13 370 4B 5 1 AF 17F8 8 4D6 2A 9 22F7 123 F 1 1D 3 2 1 E 4",
     "8 18C 904 6B 5 D 3 9 7 A 2270 1 1F5 2D 21 1 141 1E 12 2C 1E4 1B 2F5 7 1 4 1 2 1 F 1 C5",
     "53B 4 1 1B 1 2 1 1 2 1 1 A 1 4 1 1 1 1 6 1 4 1 1 1 1 1 1 3 1 2 1 1 2 1 1 1 1 1 1 1 1 1",
     "1 2 1 1 2 4 1 7 1 4 1 4 1 1 1 A 1 11 5 3 1 5 1 11 1144 A6E0 20 103A 6 DE 2 1682 E 1D31",
     "C1F 21E 5E2 134B 5 1060"]⟩,
  ⟨"mn nonspacingmark",
    ["300 70 113 5 109 2D 1 1 1 2 1 2 1 1 48 B 30 15 10 1 65 7 2 6 2 2 1 4 23 1 1E 1B 5B B 3A",
     "9 9 1 18 4 1 9 1 3 1 5 2B 3 3C 8 2A 18 1 20 37 1 1 1 4 8 4 1 3 7 A 2 1D 1 3A 1 4 4 8 1",
     "14 2 1A 1 2 2 39 1 4 2 4 2 2 3 3 1 1E 2 3 1 B 2 39 1 4 5 1 2 4 1 14 2 16 6 1 1 3A 1 2 1",
     "1 4 8 1 7 2 B 2 1E 1 3D 1 C 1 32 1 3 1 37 1 1 3 5 3 1 4 7 2 B 2 1D 1 3A 1 2 1 6 1 5 2",
     "14 2 1C 2 39 2 4 4 8 1 14 2 1D 1 48 1 7 3 1 1 5A 1 2 7 C 8 62 1 2 9 B 7 49 2 1B 1 1 1 1",
     "1 37 E 1 5 1 2 5 B 1 24 9 1 66 4 1 6 1 2 2 2 19 2 4 3 10 4 D 1 2 2 6 1 F 1 2BF 3 3B2 3",
     "1D 2 1E 2 1E 2 40 2 1 7 8 1 2 B 9 1 2D 3 1 1 75 2 22 1 76 3 4 2 9 1 6 3 DB 2 2 1 3A 1 1",
     "7 1 1 1 1 2 8 6 A 2 1 30 E 1 10 31 4 30 1 1 5 1 1 5 1 28 9 C 2 20 4 2 2 1 3 38 1 1 2 3",
     "1 1 3 3A 8 2 2 98 3 1 D 1 7 4 1 6 1 3 2 C6 40 2D0 D 4 1 3 C BFE 3 8D 1 60 20 22A 4 6B 2",
     "75D4 1 4 A 20 2 50 2 110 1 3 1 4 1 19 2 5 1 97 2 1A 12 D 1 26 8 19 B 2E 3 30 1 2 4 2 2",
     "27 1 43 6 2 2 2 2 C 1 8 1 2F 1 33 1 1 3 2 2 5 2 1 1 2A 2 8 1 EE 1 2 1 4 1 4F30 1 2E1 10",
     "10 10 3CD 1 E2 1 95 5 686 3 1 2 5 4 28 3 4 1 A5 2 23D 4 183 2 50 3 46 B 31 4 7B 1 36 F",
     "29 1 2 2 A 3 31 4 2 2 7 1 3D 3 24 5 1 8 3E 1 C 2 34 9 A 4 2 1 5F 3 2 1 1 2 6 1 2 1 9D 1",
     "3 8 15 2 39 2 3 1 25 7 3 5 C3 8 2 3 1 1 17 1 54 6 1 1 4 2 1 2 EE 4 6 2 1 2 1B 2 55 8 2",
     "1 1 2 6A 1 1 1 2 6 1 1 65 3 2 4 1 5 103 9 1 2 100 2 1 1 4 1 90 4 2 2 4 1 20 A 28 6 2 4",
     "8 1 9 6 2 3 2E D 1 2 196 7 1 6 1 1 52 16 2 7 1 2 1 2 7A 6 3 1 1 2 1 7 1 1 48 2 3 1 1 1",
     "15B 2 B 2 34 5 5 1 1 1 14FD 1 6 F 369A 5 3B 7 418 1 3F 4 51 1 4CB8 2 1261 2E 2 17 220 3",
     "11 8 2 7 1E 4 94 3 7BB 37 4 32 8 1 E 1 16 5 1 F 550 7 1 11 2 7 1 2 1 5 64 1 A0 7 177 1",
     "3D 4 1FC 4 3E0 7 6D 7 C17B5 F0"]⟩,
  ⟨"mc spacingmark",
    ["903 1 37 1 2 3 8 4 1 2 32 2 3A 3 6 2 2 2 A 1 2B 1 3A 3 42 1 3A 3 8 1 1 2 35 2 3A 1 1 1",
     "6 2 2 2 A 1 66 2 1 2 3 3 1 3 A 1 29 3 3D 4 3D 2 3A 1 1 5 2 2 1 2 9 2 1C 1 E 2 3A 3 5 3",
     "1 3 A 1 2A 2 4B 3 6 8 12 2 14A 2 3F 1 AB 2 4 1 6 1 2 2 19 2 A 3 2 7 15 2 2 6 2 1 A 3",
     "678 1 1E 1 81 1 7 8 1 2 15A 4 2 3 4 2 1 6 E0 2 3A 1 1 1 9 1 1 2 8 6 91 1 30 1 5 1 1 5 1",
     "2 3D 1 1E 1 4 2 2 1 3C 1 2 3 1 1 3 2 30 8 8 2 AB 1 15 1 1336 2 77F3 2 2 1 58 2 32 10 8E",
     "2 2F 1 30 2 4 2 2 3 6E 2 2 2 18 1 2D 1 1 1 6D 1 2 2 5 1 ED 2 1 2 1 2 1 1 6413 1 1 1 7F",
     "1 2D 3 4 2 73 1 18 2 3B 1 30 3 9 2 D 1 5D 3 3 2 1 1 AA 3 1F 2 3A 2 1 4 2 2 2 3 9 1 A 2",
     "D1 3 8 2 3 1 6A 3 6 1 1 4 2 1 ED 3 6 4 2 1 71 3 8 2 1 1 6D 1 1 2 6 1 69 2 4 1 105 3 9 1",
     "F7 6 1 2 4 1 2 1 1 1 8E 3 8 4 4 1 54 1 1D 2 3E 1 197 1 E 1 6A 1 7 1 2 1 D5 5 4 2 1 1",
     "15E 2 C 1 30 2 8 2 1 1 500F 37 68 2 6173 2 6 6"]⟩,
  ⟨"me enclosingmark", ["488 2 1634 1 61E 4 1 3 858B 3"]⟩,
  ⟨"nd decimalnumber digit",
    ["30 A 626 A 86 A C6 A 19C A 76 A 76 A 76 A 76 A 76 A 76 A 76 A 76 A 76 A 60 A 76 A 46 A",
     "116 A 46 A 746 A 26 A 12C A 80 A A6 A 6 A B6 A 56 A 86 A 6 A 89C6 A 2A6 A 26 A C6 A 16",
     "A 56 A 196 A 5316 A 586 A 886 A 32C A 80 A 3C A 90 A 116 A 156 A 76 A 176 A 66 A 66 A",
     "1A6 A 66 A 2F6 A F6 A 46 A 1A6 A 4B06 A 56 A 86 A 6C74 32 940 A 1A6 A 1F6 A 456 A 1296",
     "A"]⟩,
  ⟨"nl letternumber", ["16EE 3 A6F 23 2 4 E7E 1 19 9 E 3 76AB A 5A50 35 1CC 1 8 1 86 5 202A 6F"]⟩,
  ⟨"no othernumber",
    ["B2 2 5 1 2 3 935 6 178 6 78 3 85 7 D9 7 11 9 1B1 A 435 14 473 A 1E0 1 695 1 3 6 6 A C6",
     "10 29 1 2D6 3C 4E 16 276 1E 569 1 494 4 8A A 1E 8 1 F 20 A 27 F 7570 6 58D1 2D 41 4 11",
     "2 155 1B 24 4 534 8 19 7 27 9 4B 5 16 6 A0 2 2 10 2 2E 40 9 34 2 1E 3 4B 5 68 8 18 8 29",
     "7 14A 6 160 1F 9E A 2A 4 70 7 86 14 17B 14 545 2 1AE 9 367 13 353 15 4B86 7 31E 17 6429",
     "14 C 14 6C 19 154E 9 3A1 3B 1 3 1 4 4C 2D 1 F 3C2 D"]⟩,
  ⟨"pc connectorpunctuation", ["5F 1 1FDF 2 13 1 DDDE 2 18 3 EF 1"]⟩,
  ⟨"pd dashpunctuation",
    ["2D 1 55C 1 33 1 E41 1 405 1 809 6 E01 1 2 1 1F 2 4 1 1C 1 1BE 1 13 1 6F 1 CD90 2 25 1 A",
     "1 A9 1 F9F 1"]⟩,
  ⟨"ps openpunctuation",
    ["28 1 32 1 1F 1 EBE 1 1 1 75E 1 97E 1 3 1 26 1 37 1 F 1 27A 1 1 1 1E 1 43E 1 1 1 1 1 1 1",
     "1 1 1 1 1 1 50 1 20 1 1 1 1 1 1 1 1 1 194 1 1 1 1 1 1 1 1 1 1 1 1 1 1 1 1 1 1 1 1 1 40",
     "1 1 1 21 1 425 1 1 1 1 1 1 1 19 1 12 1 1 1 1 1 1 1 1AC 1 1 1 1 1 1 1 1 1 3 1 1 1 1 1 1",
     "1 2 1 CD21 1 D7 1 1D 1 1 1 1 1 1 1 1 1 1 1 1 1 1 1 3 1 11 1 1 1 1 1 AA 1 32 1 1F 1 3 1",
     "2 1"]⟩,
  ⟨"pe closepunctuation",
    ["29 1 33 1 1F 1 EBD 1 1 1 75E 1 9A9 1 37 1 F 1 27A 1 1 1 1E 1 43E 1 1 1 1 1 1 1 1 1 1 1",
     "1 1 50 1 20 1 1 1 1 1 1 1 1 1 194 1 1 1 1 1 1 1 1 1 1 1 1 1 1 1 1 1 1 1 1 1 40 1 1 1 21",
     "1 425 1 1 1 1 1 1 1 2C 1 1 1 1 1 1 1 1AC 1 1 1 1 1 1 1 1 1 3 1 1 1 1 1 1 1 2 2 CD1E 1",
     "D9 1 1D 1 1 1 1 1 1 1 1 1 1 1 1 1 1 1 3 1 11 1 1 1 1 1 AA 1 33 1 1F 1 2 1 2 1"]⟩,
  ⟨"pi initialpunctuation", ["AB 1 1F6C 1 2 2 2 1 19 1 DC8 1 1 1 4 1 2 1 F 1 3 1"]⟩,
  ⟨"pf finalpunctuation", ["BB 1 1F5D 1 3 1 1C 1 DC8 1 1 1 4 1 2 1 F 1 3 1"]⟩,
  ⟨"po otherpunctuation",
    ["21 3 1 3 2 1 1 1 1 2 A 2 3 2 1B 1 44 1 5 1 E 2 7 1 2BE 1 8 1 1D2 6 29 1 36 1 2 1 2 1 2C",
     "2 14 2 1 2 D 1 1 3 4A 4 66 1 2B E E9 3 36 F 1F 1 105 2 A 1 8C 1 78 1 79 1 186 1 C 1 16F",
     "1 5A 1 A 2 A8 F 1 1 70 1 4A 5 4 2 6F 6 AB 1 264 9 305 1 7C 3 47 2 9D 3 1 3 25 6 1 4 139",
     "2 D8 2 80 7 1 6 AC 7 1C 2 7D 4 3B 5 3E 2 40 8 B 1 342 2 8 8 8 9 2 4 2 3 3 B 1 1 1 A C9A",
     "4 1 2 70 1 8F 2 4 3 2 1 2 9 1 2 1 1 2 2 A 5 1 A 2 4 1 1 1 D 2 3 1AC 3 39 1 BD 1 7402 2",
     "10D 3 63 1 A 1 73 6 17C 4 56 2 28 3 1 1 31 2 2F 1 61 D 10 2 7C 4 7E 2 10 2 F9 1 5224 7",
     "2 1 16 1 14 2 2 4 3 3 1 4 7 3 6 1 1 2 95 3 1 3 2 1 1 1 1 2 A 2 3 2 1B 1 24 1 2 2 19A 3",
     "29C 1 30 1 19E 1 2E7 1 C7 1 1F 1 110 9 26 1 70 7 42 7 59 4 3B8 5 2C 4 BD 7 6D 2 1 4 7E",
     "4 30 2 4F 4 4 1 D 1 1 3 58 6 6B 1 1A1 5 A 2 1 1 68 1 FA 17 69 3 1C D 4C 1 82 3 FC 1 108",
     "3 9B 1 5C 8 53 3 1 5 5D A 137 5 2A 2 285 2 4A D AF 1 470 5 B7C 2 3A7B 2 85 1 41 5 8 1",
     "352 4 147 1 4CBC 1 1DE7 5 ED2 2"]⟩,
  ⟨"sm mathsymbol",
    ["2B 1 10 3 3D 1 1 1 2D 1 4 1 25 1 1F 1 2FE 1 20F 3 1A3B 1 D 1 27 3 D 3 8B 1 27 5 6 1 44",
     "5 5 2 4 1 2 1 2 1 7 1 1F 2 2 1 1 1 1F 10C 20 2 5A 1 1E 19 28 6 1D5 1 9 1 36 8 6F 1 150",
     "5 2 1F A 10 100 83 16 3F 4 20 2 102 30 15 2 6 CFDC 1 338 1 1 3 A4 1 10 3 3D 1 1 1 83 1",
     "6 4 D6D4 1 19 1 1F 1 19 1 1F 1 19 1 1F 1 19 1 1F 1 19 1 172C 2"]⟩,
  ⟨"sc currencysymbol",
    ["24 1 7D 4 4E9 1 7B 1 1F2 2 1F2 2 7 1 F5 1 107 1 245 1 99B 1 8C4 21 8777 1 55C3 1 6C 1",
     "9A 1 DB 2 3 2 1FF6 4 C31E 1 9B0 1"]⟩,
  ⟨"sk modifiersymbol",
    ["5E 1 1 1 47 1 6 1 4 1 3 1 209 4 C E 5 7 1 1 1 11 75 1 E 2 502 1 1734 1 1 3 B 3 D 3 D 3",
     "D 2 109C 2 7663 17 9 2 67 2 3D0 1 E 2 5046 11 37B 1 1 1 A2 1 F417 5"]⟩,
  ⟨"so othersymbol",
    ["A6 1 2 1 4 1 1 1 3D1 1 10A 2 7F 2 CE 1 A 1 13 2 F7 1 203 1 175 1 82 6 1 1 84 1 CF 1 29",
     "1 187 3 F 1 1 3 2 6 14 1 1 1 1 1 85 8 1 6 1 2 5 4 C5 2 2F0 A 2D3 1 2D2 1 9D 22 161 A 9",
     "9 583 2 1 4 1 2 A 1 1 2 6 6 1 1 1 1 1 1 4 1 B 2 E 1 1 2 1 1 3A 2 9 5 2 4 1 2 1 2 1 7 1",
     "1F 2 2 1 1 1 1F 10C 8 4 14 2 7 2 51 1 1E 19 28 6 45 19 B 51 4E 16 B7 1 9 1 36 8 6F 1 F8",
     "2C 2C 40 100 200 30 15 2 6 27 2 20 1 69 E5 6 165 2 2E 1A 1 59 C D6 1A C 8 1 D 2 C 1 15",
     "2 6 2 150 2 4 A 20 24 1C 1F B 1E 8 1 F 20 A 27 F 140 19C0 40 5690 37 361 4 A 2 1 1 23D",
     "3 52C6 10 7F 1 2D 3 1E4 1 3 1 4 2 D 2 139 9 39 11 2 3 1 D 3 1 2F 2D 67A 2 24F 1 C76 1",
     "895 8 4 11 4B4A 4 5 1 5156 1 12B3 74 3C F6 A 27 2 3C 5 3 16 2 7 1E 4 3D 15 42 3 1 BA 57",
     "4A9 200 37 4 32 8 1 E 1 2 6C8 1 B5C 1 81 1 2D1 2C 4 64 C F 2 F 1 F 1 25 17 A1 38 1D D",
     "2C 4 9 7 2 E 6 9A FB 5 2D8 4 11 3 D 3 77 4 5F 6 C 4 1 F C 4 38 8 A 6 28 8 1E 2 2 4E 154",
     "C E 2 D 3 9 7 2E 1 7 8 E 4 9 7 9 7 93 1 37"]⟩,
  ⟨"zs spaceseparator", ["20 1 7F 1 15DF 1 97F B 24 1 2F 1 FA0 1"]⟩,
  ⟨"zl lineseparator", ["2028 1"]⟩,
  ⟨"zp paragraphseparator", ["2029 1"]⟩,
  ⟨"cc control cntrl", ["0 20 5F 21"]⟩,
  ⟨"cf format",
    ["AD 1 552 6 16 1 C0 1 31 1 180 2 50 1 F2B 1 7FC 5 1A 5 31 5 1 A DE8F 1 F9 3 10C1 1 F 1",
     "2362 10 8860 4 14CF 8 C2E86 1 1E 60"]⟩,
  ⟨"co privateuse", ["E000 1900 E0700 FFFE 2 FFFE"]⟩]

end Dossier.Unicode
