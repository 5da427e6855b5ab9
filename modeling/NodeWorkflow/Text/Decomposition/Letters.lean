import NodeWorkflow.Text.Decomposition.Block

/-!
# Decompositions of letters

Letters with marks and letters in a special form, from Latin to the additional Greek letters.
-/

namespace NodeWorkflow.Decomposition

/-- Latin letters and signs up to U+036F. -/
def latin : Block where
  first := 0x0
  last := 0x36F
  runs :=
    ["A0 A0 20,AA AA 61,B2 B3 32,B5 B5 3BC,B9 B9 31,BA BA 6F,17F 17F 73,2B0 2B0 68,2B1 2B1 266",
     "2B2 2B2 6A,2B3 2B3 72,2B4 2B4 279,2B5 2B5 27B,2B6 2B6 281,2B7 2B7 77,2B8 2B8 79",
     "2E0 2E0 263,2E1 2E1 6C,2E2 2E2 73,2E3 2E3 78,2E4 2E4 295,340 341 300,343 343 313"]
  sequences :=
    ["A8 20 308,AF 20 304,B4 20 301,B8 20 327,BC 31 2044 34,BD 31 2044 32,BE 33 2044 34",
     "C0 41 300,C1 41 301,C2 41 302,C3 41 303,C4 41 308,C5 41 30A,C7 43 327,C8 45 300,C9 45 301",
     "CA 45 302,CB 45 308,CC 49 300,CD 49 301,CE 49 302,CF 49 308,D1 4E 303,D2 4F 300,D3 4F 301",
     "D4 4F 302,D5 4F 303,D6 4F 308,D9 55 300,DA 55 301,DB 55 302,DC 55 308,DD 59 301,E0 61 300",
     "E1 61 301,E2 61 302,E3 61 303,E4 61 308,E5 61 30A,E7 63 327,E8 65 300,E9 65 301,EA 65 302",
     "EB 65 308,EC 69 300,ED 69 301,EE 69 302,EF 69 308,F1 6E 303,F2 6F 300,F3 6F 301,F4 6F 302",
     "F5 6F 303,F6 6F 308,F9 75 300,FA 75 301,FB 75 302,FC 75 308,FD 79 301,FF 79 308",
     "100 41 304,101 61 304,102 41 306,103 61 306,104 41 328,105 61 328,106 43 301,107 63 301",
     "108 43 302,109 63 302,10A 43 307,10B 63 307,10C 43 30C,10D 63 30C,10E 44 30C,10F 64 30C",
     "112 45 304,113 65 304,114 45 306,115 65 306,116 45 307,117 65 307,118 45 328,119 65 328",
     "11A 45 30C,11B 65 30C,11C 47 302,11D 67 302,11E 47 306,11F 67 306,120 47 307,121 67 307",
     "122 47 327,123 67 327,124 48 302,125 68 302,128 49 303,129 69 303,12A 49 304,12B 69 304",
     "12C 49 306,12D 69 306,12E 49 328,12F 69 328,130 49 307,132 49 4A,133 69 6A,134 4A 302",
     "135 6A 302,136 4B 327,137 6B 327,139 4C 301,13A 6C 301,13B 4C 327,13C 6C 327,13D 4C 30C",
     "13E 6C 30C,13F 4C B7,140 6C B7,143 4E 301,144 6E 301,145 4E 327,146 6E 327,147 4E 30C",
     "148 6E 30C,149 2BC 6E,14C 4F 304,14D 6F 304,14E 4F 306,14F 6F 306,150 4F 30B,151 6F 30B",
     "154 52 301,155 72 301,156 52 327,157 72 327,158 52 30C,159 72 30C,15A 53 301,15B 73 301",
     "15C 53 302,15D 73 302,15E 53 327,15F 73 327,160 53 30C,161 73 30C,162 54 327,163 74 327",
     "164 54 30C,165 74 30C,168 55 303,169 75 303,16A 55 304,16B 75 304,16C 55 306,16D 75 306",
     "16E 55 30A,16F 75 30A,170 55 30B,171 75 30B,172 55 328,173 75 328,174 57 302,175 77 302",
     "176 59 302,177 79 302,178 59 308,179 5A 301,17A 7A 301,17B 5A 307,17C 7A 307,17D 5A 30C",
     "17E 7A 30C,1A0 4F 31B,1A1 6F 31B,1AF 55 31B,1B0 75 31B,1C4 44 5A 30C,1C5 44 7A 30C",
     "1C6 64 7A 30C,1C7 4C 4A,1C8 4C 6A,1C9 6C 6A,1CA 4E 4A,1CB 4E 6A,1CC 6E 6A,1CD 41 30C",
     "1CE 61 30C,1CF 49 30C,1D0 69 30C,1D1 4F 30C,1D2 6F 30C,1D3 55 30C,1D4 75 30C",
     "1D5 55 308 304,1D6 75 308 304,1D7 55 308 301,1D8 75 308 301,1D9 55 308 30C,1DA 75 308 30C",
     "1DB 55 308 300,1DC 75 308 300,1DE 41 308 304,1DF 61 308 304,1E0 41 307 304,1E1 61 307 304",
     "1E2 C6 304,1E3 E6 304,1E6 47 30C,1E7 67 30C,1E8 4B 30C,1E9 6B 30C,1EA 4F 328,1EB 6F 328",
     "1EC 4F 328 304,1ED 6F 328 304,1EE 1B7 30C,1EF 292 30C,1F0 6A 30C,1F1 44 5A,1F2 44 7A",
     "1F3 64 7A,1F4 47 301,1F5 67 301,1F8 4E 300,1F9 6E 300,1FA 41 30A 301,1FB 61 30A 301",
     "1FC C6 301,1FD E6 301,1FE D8 301,1FF F8 301,200 41 30F,201 61 30F,202 41 311,203 61 311",
     "204 45 30F,205 65 30F,206 45 311,207 65 311,208 49 30F,209 69 30F,20A 49 311,20B 69 311",
     "20C 4F 30F,20D 6F 30F,20E 4F 311,20F 6F 311,210 52 30F,211 72 30F,212 52 311,213 72 311",
     "214 55 30F,215 75 30F,216 55 311,217 75 311,218 53 326,219 73 326,21A 54 326,21B 74 326",
     "21E 48 30C,21F 68 30C,226 41 307,227 61 307,228 45 327,229 65 327,22A 4F 308 304",
     "22B 6F 308 304,22C 4F 303 304,22D 6F 303 304,22E 4F 307,22F 6F 307,230 4F 307 304",
     "231 6F 307 304,232 59 304,233 79 304,2D8 20 306,2D9 20 307,2DA 20 30A,2DB 20 328",
     "2DC 20 303,2DD 20 30B,344 308 301"]

/-- Greek and Cyrillic. -/
def greekCyrillic : Block where
  first := 0x370
  last := 0x52F
  runs :=
    ["374 374 2B9,37E 37E 3B,387 387 B7,3D0 3D0 3B2,3D1 3D1 3B8,3D2 3D2 3A5,3D5 3D5 3C6",
     "3D6 3D6 3C0,3F0 3F0 3BA,3F1 3F2 3C1,3F4 3F4 398,3F5 3F5 3B5,3F9 3F9 3A3"]
  sequences :=
    ["37A 20 345,384 20 301,385 20 308 301,386 391 301,388 395 301,389 397 301,38A 399 301",
     "38C 39F 301,38E 3A5 301,38F 3A9 301,390 3B9 308 301,3AA 399 308,3AB 3A5 308,3AC 3B1 301",
     "3AD 3B5 301,3AE 3B7 301,3AF 3B9 301,3B0 3C5 308 301,3CA 3B9 308,3CB 3C5 308,3CC 3BF 301",
     "3CD 3C5 301,3CE 3C9 301,3D3 3A5 301,3D4 3A5 308,400 415 300,401 415 308,403 413 301",
     "407 406 308,40C 41A 301,40D 418 300,40E 423 306,419 418 306,439 438 306,450 435 300",
     "451 435 308,453 433 301,457 456 308,45C 43A 301,45D 438 300,45E 443 306,476 474 30F",
     "477 475 30F,4C1 416 306,4C2 436 306,4D0 410 306,4D1 430 306,4D2 410 308,4D3 430 308",
     "4D6 415 306,4D7 435 306,4DA 4D8 308,4DB 4D9 308,4DC 416 308,4DD 436 308,4DE 417 308",
     "4DF 437 308,4E2 418 304,4E3 438 304,4E4 418 308,4E5 438 308,4E6 41E 308,4E7 43E 308",
     "4EA 4E8 308,4EB 4E9 308,4EC 42D 308,4ED 44D 308,4EE 423 304,4EF 443 304,4F0 423 308",
     "4F1 443 308,4F2 423 30B,4F3 443 30B,4F4 427 308,4F5 447 308,4F8 42B 308,4F9 44B 308"]

/-- The scripts from Armenian to Vedic. -/
def middle : Block where
  first := 0x530
  last := 0x1CFF
  runs :=
    ["F0C F0C F0B,10FC 10FC 10DC"]
  sequences :=
    ["587 565 582,622 627 653,623 627 654,624 648 654,625 627 655,626 64A 654,675 627 674",
     "676 648 674,677 6C7 674,678 64A 674,6C0 6D5 654,6C2 6C1 654,6D3 6D2 654,929 928 93C",
     "931 930 93C,934 933 93C,958 915 93C,959 916 93C,95A 917 93C,95B 91C 93C,95C 921 93C",
     "95D 922 93C,95E 92B 93C,95F 92F 93C,9CB 9C7 9BE,9CC 9C7 9D7,9DC 9A1 9BC,9DD 9A2 9BC",
     "9DF 9AF 9BC,A33 A32 A3C,A36 A38 A3C,A59 A16 A3C,A5A A17 A3C,A5B A1C A3C,A5E A2B A3C",
     "B48 B47 B56,B4B B47 B3E,B4C B47 B57,B5C B21 B3C,B5D B22 B3C,B94 B92 BD7,BCA BC6 BBE",
     "BCB BC7 BBE,BCC BC6 BD7,C48 C46 C56,CC0 CBF CD5,CC7 CC6 CD5,CC8 CC6 CD6,CCA CC6 CC2",
     "CCB CC6 CC2 CD5,D4A D46 D3E,D4B D47 D3E,D4C D46 D57,DDA DD9 DCA,DDC DD9 DCF",
     "DDD DD9 DCF DCA,DDE DD9 DDF,E33 E4D E32,EB3 ECD EB2,EDC EAB E99,EDD EAB EA1,F43 F42 FB7",
     "F4D F4C FB7,F52 F51 FB7,F57 F56 FB7,F5C F5B FB7,F69 F40 FB5,F73 F71 F72,F75 F71 F74",
     "F76 FB2 F80,F77 FB2 F71 F80,F78 FB3 F80,F79 FB3 F71 F80,F81 F71 F80,F93 F92 FB7",
     "F9D F9C FB7,FA2 FA1 FB7,FA7 FA6 FB7,FAC FAB FB7,FB9 F90 FB5,1026 1025 102E,1B06 1B05 1B35",
     "1B08 1B07 1B35,1B0A 1B09 1B35,1B0C 1B0B 1B35,1B0E 1B0D 1B35,1B12 1B11 1B35,1B3B 1B3A 1B35",
     "1B3D 1B3C 1B35,1B40 1B3E 1B35,1B41 1B3F 1B35,1B43 1B42 1B35"]

/-- Phonetic letters. -/
def phonetic : Block where
  first := 0x1D00
  last := 0x1DFF
  runs :=
    ["1D2C 1D2C 41,1D2D 1D2D C6,1D2E 1D2E 42,1D30 1D31 44,1D32 1D32 18E,1D33 1D3A 47",
     "1D3C 1D3C 4F,1D3D 1D3D 222,1D3E 1D3E 50,1D3F 1D3F 52,1D40 1D41 54,1D42 1D42 57",
     "1D43 1D43 61,1D44 1D45 250,1D46 1D46 1D02,1D47 1D47 62,1D48 1D49 64,1D4A 1D4A 259",
     "1D4B 1D4C 25B,1D4D 1D4D 67,1D4F 1D4F 6B,1D50 1D50 6D,1D51 1D51 14B,1D52 1D52 6F",
     "1D53 1D53 254,1D54 1D55 1D16,1D56 1D56 70,1D57 1D58 74,1D59 1D59 1D1D,1D5A 1D5A 26F",
     "1D5B 1D5B 76,1D5C 1D5C 1D25,1D5D 1D5F 3B2,1D60 1D61 3C6,1D62 1D62 69,1D63 1D63 72",
     "1D64 1D65 75,1D66 1D67 3B2,1D68 1D68 3C1,1D69 1D6A 3C6,1D78 1D78 43D,1D9B 1D9B 252",
     "1D9C 1D9C 63,1D9D 1D9D 255,1D9E 1D9E F0,1D9F 1D9F 25C,1DA0 1DA0 66,1DA1 1DA1 25F",
     "1DA2 1DA2 261,1DA3 1DA3 265,1DA4 1DA6 268,1DA7 1DA7 1D7B,1DA8 1DA8 29D,1DA9 1DA9 26D",
     "1DAA 1DAA 1D85,1DAB 1DAB 29F,1DAC 1DAC 271,1DAD 1DAD 270,1DAE 1DB1 272,1DB2 1DB2 278",
     "1DB3 1DB4 282,1DB5 1DB5 1AB,1DB6 1DB7 289,1DB8 1DB8 1D1C,1DB9 1DBA 28B,1DBB 1DBB 7A",
     "1DBC 1DBE 290,1DBF 1DBF 3B8"]
  sequences :=
    []

/-- Latin letters with marks from U+1E00 on. -/
def latinAdditional : Block where
  first := 0x1E00
  last := 0x1EFF
  runs :=
    []
  sequences :=
    ["1E00 41 325,1E01 61 325,1E02 42 307,1E03 62 307,1E04 42 323,1E05 62 323,1E06 42 331",
     "1E07 62 331,1E08 43 327 301,1E09 63 327 301,1E0A 44 307,1E0B 64 307,1E0C 44 323",
     "1E0D 64 323,1E0E 44 331,1E0F 64 331,1E10 44 327,1E11 64 327,1E12 44 32D,1E13 64 32D",
     "1E14 45 304 300,1E15 65 304 300,1E16 45 304 301,1E17 65 304 301,1E18 45 32D,1E19 65 32D",
     "1E1A 45 330,1E1B 65 330,1E1C 45 327 306,1E1D 65 327 306,1E1E 46 307,1E1F 66 307",
     "1E20 47 304,1E21 67 304,1E22 48 307,1E23 68 307,1E24 48 323,1E25 68 323,1E26 48 308",
     "1E27 68 308,1E28 48 327,1E29 68 327,1E2A 48 32E,1E2B 68 32E,1E2C 49 330,1E2D 69 330",
     "1E2E 49 308 301,1E2F 69 308 301,1E30 4B 301,1E31 6B 301,1E32 4B 323,1E33 6B 323",
     "1E34 4B 331,1E35 6B 331,1E36 4C 323,1E37 6C 323,1E38 4C 323 304,1E39 6C 323 304",
     "1E3A 4C 331,1E3B 6C 331,1E3C 4C 32D,1E3D 6C 32D,1E3E 4D 301,1E3F 6D 301,1E40 4D 307",
     "1E41 6D 307,1E42 4D 323,1E43 6D 323,1E44 4E 307,1E45 6E 307,1E46 4E 323,1E47 6E 323",
     "1E48 4E 331,1E49 6E 331,1E4A 4E 32D,1E4B 6E 32D,1E4C 4F 303 301,1E4D 6F 303 301",
     "1E4E 4F 303 308,1E4F 6F 303 308,1E50 4F 304 300,1E51 6F 304 300,1E52 4F 304 301",
     "1E53 6F 304 301,1E54 50 301,1E55 70 301,1E56 50 307,1E57 70 307,1E58 52 307,1E59 72 307",
     "1E5A 52 323,1E5B 72 323,1E5C 52 323 304,1E5D 72 323 304,1E5E 52 331,1E5F 72 331",
     "1E60 53 307,1E61 73 307,1E62 53 323,1E63 73 323,1E64 53 301 307,1E65 73 301 307",
     "1E66 53 30C 307,1E67 73 30C 307,1E68 53 323 307,1E69 73 323 307,1E6A 54 307,1E6B 74 307",
     "1E6C 54 323,1E6D 74 323,1E6E 54 331,1E6F 74 331,1E70 54 32D,1E71 74 32D,1E72 55 324",
     "1E73 75 324,1E74 55 330,1E75 75 330,1E76 55 32D,1E77 75 32D,1E78 55 303 301",
     "1E79 75 303 301,1E7A 55 304 308,1E7B 75 304 308,1E7C 56 303,1E7D 76 303,1E7E 56 323",
     "1E7F 76 323,1E80 57 300,1E81 77 300,1E82 57 301,1E83 77 301,1E84 57 308,1E85 77 308",
     "1E86 57 307,1E87 77 307,1E88 57 323,1E89 77 323,1E8A 58 307,1E8B 78 307,1E8C 58 308",
     "1E8D 78 308,1E8E 59 307,1E8F 79 307,1E90 5A 302,1E91 7A 302,1E92 5A 323,1E93 7A 323",
     "1E94 5A 331,1E95 7A 331,1E96 68 331,1E97 74 308,1E98 77 30A,1E99 79 30A,1E9A 61 2BE",
     "1E9B 73 307,1EA0 41 323,1EA1 61 323,1EA2 41 309,1EA3 61 309,1EA4 41 302 301",
     "1EA5 61 302 301,1EA6 41 302 300,1EA7 61 302 300,1EA8 41 302 309,1EA9 61 302 309",
     "1EAA 41 302 303,1EAB 61 302 303,1EAC 41 323 302,1EAD 61 323 302,1EAE 41 306 301",
     "1EAF 61 306 301,1EB0 41 306 300,1EB1 61 306 300,1EB2 41 306 309,1EB3 61 306 309",
     "1EB4 41 306 303,1EB5 61 306 303,1EB6 41 323 306,1EB7 61 323 306,1EB8 45 323,1EB9 65 323",
     "1EBA 45 309,1EBB 65 309,1EBC 45 303,1EBD 65 303,1EBE 45 302 301,1EBF 65 302 301",
     "1EC0 45 302 300,1EC1 65 302 300,1EC2 45 302 309,1EC3 65 302 309,1EC4 45 302 303",
     "1EC5 65 302 303,1EC6 45 323 302,1EC7 65 323 302,1EC8 49 309,1EC9 69 309,1ECA 49 323",
     "1ECB 69 323,1ECC 4F 323,1ECD 6F 323,1ECE 4F 309,1ECF 6F 309,1ED0 4F 302 301",
     "1ED1 6F 302 301,1ED2 4F 302 300,1ED3 6F 302 300,1ED4 4F 302 309,1ED5 6F 302 309",
     "1ED6 4F 302 303,1ED7 6F 302 303,1ED8 4F 323 302,1ED9 6F 323 302,1EDA 4F 31B 301",
     "1EDB 6F 31B 301,1EDC 4F 31B 300,1EDD 6F 31B 300,1EDE 4F 31B 309,1EDF 6F 31B 309",
     "1EE0 4F 31B 303,1EE1 6F 31B 303,1EE2 4F 31B 323,1EE3 6F 31B 323,1EE4 55 323,1EE5 75 323",
     "1EE6 55 309,1EE7 75 309,1EE8 55 31B 301,1EE9 75 31B 301,1EEA 55 31B 300,1EEB 75 31B 300",
     "1EEC 55 31B 309,1EED 75 31B 309,1EEE 55 31B 303,1EEF 75 31B 303,1EF0 55 31B 323",
     "1EF1 75 31B 323,1EF2 59 300,1EF3 79 300,1EF4 59 323,1EF5 79 323,1EF6 59 309,1EF7 79 309",
     "1EF8 59 303,1EF9 79 303"]

/-- Greek letters with marks. -/
def greekExtended : Block where
  first := 0x1F00
  last := 0x1FFF
  runs :=
    ["1FBE 1FBE 3B9,1FEF 1FEF 60"]
  sequences :=
    ["1F00 3B1 313,1F01 3B1 314,1F02 3B1 313 300,1F03 3B1 314 300,1F04 3B1 313 301",
     "1F05 3B1 314 301,1F06 3B1 313 342,1F07 3B1 314 342,1F08 391 313,1F09 391 314",
     "1F0A 391 313 300,1F0B 391 314 300,1F0C 391 313 301,1F0D 391 314 301,1F0E 391 313 342",
     "1F0F 391 314 342,1F10 3B5 313,1F11 3B5 314,1F12 3B5 313 300,1F13 3B5 314 300",
     "1F14 3B5 313 301,1F15 3B5 314 301,1F18 395 313,1F19 395 314,1F1A 395 313 300",
     "1F1B 395 314 300,1F1C 395 313 301,1F1D 395 314 301,1F20 3B7 313,1F21 3B7 314",
     "1F22 3B7 313 300,1F23 3B7 314 300,1F24 3B7 313 301,1F25 3B7 314 301,1F26 3B7 313 342",
     "1F27 3B7 314 342,1F28 397 313,1F29 397 314,1F2A 397 313 300,1F2B 397 314 300",
     "1F2C 397 313 301,1F2D 397 314 301,1F2E 397 313 342,1F2F 397 314 342,1F30 3B9 313",
     "1F31 3B9 314,1F32 3B9 313 300,1F33 3B9 314 300,1F34 3B9 313 301,1F35 3B9 314 301",
     "1F36 3B9 313 342,1F37 3B9 314 342,1F38 399 313,1F39 399 314,1F3A 399 313 300",
     "1F3B 399 314 300,1F3C 399 313 301,1F3D 399 314 301,1F3E 399 313 342,1F3F 399 314 342",
     "1F40 3BF 313,1F41 3BF 314,1F42 3BF 313 300,1F43 3BF 314 300,1F44 3BF 313 301",
     "1F45 3BF 314 301,1F48 39F 313,1F49 39F 314,1F4A 39F 313 300,1F4B 39F 314 300",
     "1F4C 39F 313 301,1F4D 39F 314 301,1F50 3C5 313,1F51 3C5 314,1F52 3C5 313 300",
     "1F53 3C5 314 300,1F54 3C5 313 301,1F55 3C5 314 301,1F56 3C5 313 342,1F57 3C5 314 342",
     "1F59 3A5 314,1F5B 3A5 314 300,1F5D 3A5 314 301,1F5F 3A5 314 342,1F60 3C9 313,1F61 3C9 314",
     "1F62 3C9 313 300,1F63 3C9 314 300,1F64 3C9 313 301,1F65 3C9 314 301,1F66 3C9 313 342",
     "1F67 3C9 314 342,1F68 3A9 313,1F69 3A9 314,1F6A 3A9 313 300,1F6B 3A9 314 300",
     "1F6C 3A9 313 301,1F6D 3A9 314 301,1F6E 3A9 313 342,1F6F 3A9 314 342,1F70 3B1 300",
     "1F71 3B1 301,1F72 3B5 300,1F73 3B5 301,1F74 3B7 300,1F75 3B7 301,1F76 3B9 300",
     "1F77 3B9 301,1F78 3BF 300,1F79 3BF 301,1F7A 3C5 300,1F7B 3C5 301,1F7C 3C9 300",
     "1F7D 3C9 301,1F80 3B1 313 345,1F81 3B1 314 345,1F82 3B1 313 300 345,1F83 3B1 314 300 345",
     "1F84 3B1 313 301 345,1F85 3B1 314 301 345,1F86 3B1 313 342 345,1F87 3B1 314 342 345",
     "1F88 391 313 345,1F89 391 314 345,1F8A 391 313 300 345,1F8B 391 314 300 345",
     "1F8C 391 313 301 345,1F8D 391 314 301 345,1F8E 391 313 342 345,1F8F 391 314 342 345",
     "1F90 3B7 313 345,1F91 3B7 314 345,1F92 3B7 313 300 345,1F93 3B7 314 300 345",
     "1F94 3B7 313 301 345,1F95 3B7 314 301 345,1F96 3B7 313 342 345,1F97 3B7 314 342 345",
     "1F98 397 313 345,1F99 397 314 345,1F9A 397 313 300 345,1F9B 397 314 300 345",
     "1F9C 397 313 301 345,1F9D 397 314 301 345,1F9E 397 313 342 345,1F9F 397 314 342 345",
     "1FA0 3C9 313 345,1FA1 3C9 314 345,1FA2 3C9 313 300 345,1FA3 3C9 314 300 345",
     "1FA4 3C9 313 301 345,1FA5 3C9 314 301 345,1FA6 3C9 313 342 345,1FA7 3C9 314 342 345",
     "1FA8 3A9 313 345,1FA9 3A9 314 345,1FAA 3A9 313 300 345,1FAB 3A9 314 300 345",
     "1FAC 3A9 313 301 345,1FAD 3A9 314 301 345,1FAE 3A9 313 342 345,1FAF 3A9 314 342 345",
     "1FB0 3B1 306,1FB1 3B1 304,1FB2 3B1 300 345,1FB3 3B1 345,1FB4 3B1 301 345,1FB6 3B1 342",
     "1FB7 3B1 342 345,1FB8 391 306,1FB9 391 304,1FBA 391 300,1FBB 391 301,1FBC 391 345",
     "1FBD 20 313,1FBF 20 313,1FC0 20 342,1FC1 20 308 342,1FC2 3B7 300 345,1FC3 3B7 345",
     "1FC4 3B7 301 345,1FC6 3B7 342,1FC7 3B7 342 345,1FC8 395 300,1FC9 395 301,1FCA 397 300",
     "1FCB 397 301,1FCC 397 345,1FCD 20 313 300,1FCE 20 313 301,1FCF 20 313 342,1FD0 3B9 306",
     "1FD1 3B9 304,1FD2 3B9 308 300,1FD3 3B9 308 301,1FD6 3B9 342,1FD7 3B9 308 342,1FD8 399 306",
     "1FD9 399 304,1FDA 399 300,1FDB 399 301,1FDD 20 314 300,1FDE 20 314 301,1FDF 20 314 342",
     "1FE0 3C5 306,1FE1 3C5 304,1FE2 3C5 308 300,1FE3 3C5 308 301,1FE4 3C1 313,1FE5 3C1 314",
     "1FE6 3C5 342,1FE7 3C5 308 342,1FE8 3A5 306,1FE9 3A5 304,1FEA 3A5 300,1FEB 3A5 301",
     "1FEC 3A1 314,1FED 20 308 300,1FEE 20 308 301,1FF2 3C9 300 345,1FF3 3C9 345",
     "1FF4 3C9 301 345,1FF6 3C9 342,1FF7 3C9 342 345,1FF8 39F 300,1FF9 39F 301,1FFA 3A9 300",
     "1FFB 3A9 301,1FFC 3A9 345,1FFD 20 301,1FFE 20 314"]

end NodeWorkflow.Decomposition
