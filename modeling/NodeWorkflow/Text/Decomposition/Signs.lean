import NodeWorkflow.Text.Decomposition.Block

/-!
# Decompositions of signs

Signs made of letters or digits: letter-like signs, fractions, enclosed and mathematical letters.
-/

namespace NodeWorkflow.Decomposition

/-- Punctuation, letter-like signs, numbers and enclosed letters. -/
def symbols : Block where
  first := 0x2000
  last := 0x2DFF
  runs :=
    ["2000 2000 20,2001 2001 20,2002 2002 20,2003 2003 20,2004 2004 20,2005 2005 20",
     "2006 2006 20,2007 2007 20,2008 2008 20,2009 2009 20,200A 200A 20,2011 2011 2010",
     "2024 2024 2E,202F 202F 20,205F 205F 20,2070 2070 30,2071 2071 69,2074 2079 34",
     "207A 207A 2B,207B 207B 2212,207C 207C 3D,207D 207E 28,207F 207F 6E,2080 2089 30",
     "208A 208A 2B,208B 208B 2212,208C 208C 3D,208D 208E 28,2090 2090 61,2091 2091 65",
     "2092 2092 6F,2093 2093 78,2094 2094 259,2095 2095 68,2096 2099 6B,209A 209A 70",
     "209B 209C 73,2102 2102 43,2107 2107 190,210A 210A 67,210B 210B 48,210C 210C 48",
     "210D 210D 48,210E 210E 68,210F 210F 127,2110 2110 49,2111 2111 49,2112 2112 4C",
     "2113 2113 6C,2115 2115 4E,2119 211B 50,211C 211C 52,211D 211D 52,2124 2124 5A",
     "2126 2126 3A9,2128 2128 5A,212A 212A 4B,212C 212D 42,212F 212F 65,2130 2131 45",
     "2133 2133 4D,2134 2134 6F,2135 2138 5D0,2139 2139 69,213C 213C 3C0,213D 213D 3B3",
     "213E 213E 393,213F 213F 3A0,2140 2140 2211,2145 2145 44,2146 2147 64,2148 2149 69",
     "2160 2160 49,2164 2164 56,2169 2169 58,216C 216C 4C,216D 216E 43,216F 216F 4D",
     "2170 2170 69,2174 2174 76,2179 2179 78,217C 217C 6C,217D 217E 63,217F 217F 6D",
     "2329 232A 3008,2460 2468 31,24B6 24CF 41,24D0 24E9 61,24EA 24EA 30,2C7C 2C7C 6A",
     "2C7D 2C7D 56,2D6F 2D6F 2D61"]
  sequences :=
    ["2017 20 333,2025 2E 2E,2026 2E 2E 2E,2033 2032 2032,2034 2032 2032 2032,2036 2035 2035",
     "2037 2035 2035 2035,203C 21 21,203E 20 305,2047 3F 3F,2048 3F 21,2049 21 3F",
     "2057 2032 2032 2032 2032,20A8 52 73,2100 61 2F 63,2101 61 2F 73,2103 B0 43,2105 63 2F 6F",
     "2106 63 2F 75,2109 B0 46,2116 4E 6F,2120 53 4D,2121 54 45 4C,2122 54 4D,212B 41 30A",
     "213B 46 41 58,2150 31 2044 37,2151 31 2044 39,2152 31 2044 31 30,2153 31 2044 33",
     "2154 32 2044 33,2155 31 2044 35,2156 32 2044 35,2157 33 2044 35,2158 34 2044 35",
     "2159 31 2044 36,215A 35 2044 36,215B 31 2044 38,215C 33 2044 38,215D 35 2044 38",
     "215E 37 2044 38,215F 31 2044,2161 49 49,2162 49 49 49,2163 49 56,2165 56 49,2166 56 49 49",
     "2167 56 49 49 49,2168 49 58,216A 58 49,216B 58 49 49,2171 69 69,2172 69 69 69,2173 69 76",
     "2175 76 69,2176 76 69 69,2177 76 69 69 69,2178 69 78,217A 78 69,217B 78 69 69",
     "2189 30 2044 33,219A 2190 338,219B 2192 338,21AE 2194 338,21CD 21D0 338,21CE 21D4 338",
     "21CF 21D2 338,2204 2203 338,2209 2208 338,220C 220B 338,2224 2223 338,2226 2225 338",
     "222C 222B 222B,222D 222B 222B 222B,222F 222E 222E,2230 222E 222E 222E,2241 223C 338",
     "2244 2243 338,2247 2245 338,2249 2248 338,2260 3D 338,2262 2261 338,226D 224D 338",
     "226E 3C 338,226F 3E 338,2270 2264 338,2271 2265 338,2274 2272 338,2275 2273 338",
     "2278 2276 338,2279 2277 338,2280 227A 338,2281 227B 338,2284 2282 338,2285 2283 338",
     "2288 2286 338,2289 2287 338,22AC 22A2 338,22AD 22A8 338,22AE 22A9 338,22AF 22AB 338",
     "22E0 227C 338,22E1 227D 338,22E2 2291 338,22E3 2292 338,22EA 22B2 338,22EB 22B3 338",
     "22EC 22B4 338,22ED 22B5 338,2469 31 30,246A 31 31,246B 31 32,246C 31 33,246D 31 34",
     "246E 31 35,246F 31 36,2470 31 37,2471 31 38,2472 31 39,2473 32 30,2474 28 31 29",
     "2475 28 32 29,2476 28 33 29,2477 28 34 29,2478 28 35 29,2479 28 36 29,247A 28 37 29",
     "247B 28 38 29,247C 28 39 29,247D 28 31 30 29,247E 28 31 31 29,247F 28 31 32 29",
     "2480 28 31 33 29,2481 28 31 34 29,2482 28 31 35 29,2483 28 31 36 29,2484 28 31 37 29",
     "2485 28 31 38 29,2486 28 31 39 29,2487 28 32 30 29,2488 31 2E,2489 32 2E,248A 33 2E",
     "248B 34 2E,248C 35 2E,248D 36 2E,248E 37 2E,248F 38 2E,2490 39 2E,2491 31 30 2E",
     "2492 31 31 2E,2493 31 32 2E,2494 31 33 2E,2495 31 34 2E,2496 31 35 2E,2497 31 36 2E",
     "2498 31 37 2E,2499 31 38 2E,249A 31 39 2E,249B 32 30 2E,249C 28 61 29,249D 28 62 29",
     "249E 28 63 29,249F 28 64 29,24A0 28 65 29,24A1 28 66 29,24A2 28 67 29,24A3 28 68 29",
     "24A4 28 69 29,24A5 28 6A 29,24A6 28 6B 29,24A7 28 6C 29,24A8 28 6D 29,24A9 28 6E 29",
     "24AA 28 6F 29,24AB 28 70 29,24AC 28 71 29,24AD 28 72 29,24AE 28 73 29,24AF 28 74 29",
     "24B0 28 75 29,24B1 28 76 29,24B2 28 77 29,24B3 28 78 29,24B4 28 79 29,24B5 28 7A 29",
     "2A0C 222B 222B 222B 222B,2A74 3A 3A 3D,2A75 3D 3D,2A76 3D 3D 3D,2ADC 2ADD 338"]

/-- Scripts and musical signs beyond U+FFFF. -/
def supplementary : Block where
  first := 0x10000
  last := 0x1D3FF
  runs :=
    ["10781 10782 2D0,10783 10783 E6,10784 10784 299,10785 10785 253,10787 10787 2A3",
     "10788 10788 AB66,10789 10789 2A5,1078A 1078A 2A4,1078B 1078C 256,1078D 1078D 1D91",
     "1078E 1078E 258,1078F 1078F 25E,10790 10790 2A9,10791 10791 264,10792 10792 262",
     "10793 10793 260,10794 10794 29B,10795 10795 127,10796 10796 29C,10797 10797 267",
     "10798 10798 284,10799 1079A 2AA,1079B 1079B 26C,1079C 1079C 1DF04,1079D 1079D A78E",
     "1079E 1079E 26E,1079F 1079F 1DF05,107A0 107A0 28E,107A1 107A1 1DF06,107A2 107A2 F8",
     "107A3 107A4 276,107A5 107A5 71,107A6 107A6 27A,107A7 107A7 1DF08,107A8 107A9 27D",
     "107AA 107AA 280,107AB 107AB 2A8,107AC 107AC 2A6,107AD 107AD AB67,107AE 107AE 2A7",
     "107AF 107AF 288,107B0 107B0 2C71,107B2 107B2 28F,107B3 107B4 2A1,107B5 107B5 298",
     "107B6 107B8 1C0,107B9 107B9 1DF0A,107BA 107BA 1DF1E"]
  sequences :=
    ["1109A 11099 110BA,1109C 1109B 110BA,110AB 110A5 110BA,1112E 11131 11127,1112F 11132 11127",
     "1134B 11347 1133E,1134C 11347 11357,114BB 114B9 114BA,114BC 114B9 114B0,114BE 114B9 114BD",
     "115BA 115B8 115AF,115BB 115B9 115AF,11938 11935 11930,1D15E 1D157 1D165,1D15F 1D158 1D165",
     "1D160 1D158 1D165 1D16E,1D161 1D158 1D165 1D16F,1D162 1D158 1D165 1D170",
     "1D163 1D158 1D165 1D171,1D164 1D158 1D165 1D172,1D1BB 1D1B9 1D165,1D1BC 1D1BA 1D165",
     "1D1BD 1D1B9 1D165 1D16E,1D1BE 1D1BA 1D165 1D16E,1D1BF 1D1B9 1D165 1D16F",
     "1D1C0 1D1BA 1D165 1D16F"]

/-- Mathematical letters and digits. -/
def mathematical : Block where
  first := 0x1D400
  last := 0x1EFFF
  runs :=
    ["1D400 1D419 41,1D41A 1D433 61,1D434 1D44D 41,1D44E 1D454 61,1D456 1D467 69,1D468 1D481 41",
     "1D482 1D49B 61,1D49C 1D49C 41,1D49E 1D49F 43,1D4A2 1D4A2 47,1D4A5 1D4A6 4A,1D4A9 1D4AC 4E",
     "1D4AE 1D4B5 53,1D4B6 1D4B9 61,1D4BB 1D4BB 66,1D4BD 1D4C3 68,1D4C5 1D4CF 70,1D4D0 1D4E9 41",
     "1D4EA 1D503 61,1D504 1D505 41,1D507 1D50A 44,1D50D 1D514 4A,1D516 1D51C 53,1D51E 1D537 61",
     "1D538 1D539 41,1D53B 1D53E 44,1D540 1D544 49,1D546 1D546 4F,1D54A 1D550 53,1D552 1D56B 61",
     "1D56C 1D585 41,1D586 1D59F 61,1D5A0 1D5B9 41,1D5BA 1D5D3 61,1D5D4 1D5ED 41,1D5EE 1D607 61",
     "1D608 1D621 41,1D622 1D63B 61,1D63C 1D655 41,1D656 1D66F 61,1D670 1D689 41,1D68A 1D6A3 61",
     "1D6A4 1D6A4 131,1D6A5 1D6A5 237,1D6A8 1D6B8 391,1D6B9 1D6B9 398,1D6BA 1D6C0 3A3",
     "1D6C1 1D6C1 2207,1D6C2 1D6DA 3B1,1D6DB 1D6DB 2202,1D6DC 1D6DC 3B5,1D6DD 1D6DD 3B8",
     "1D6DE 1D6DE 3BA,1D6DF 1D6DF 3C6,1D6E0 1D6E0 3C1,1D6E1 1D6E1 3C0,1D6E2 1D6F2 391",
     "1D6F3 1D6F3 398,1D6F4 1D6FA 3A3,1D6FB 1D6FB 2207,1D6FC 1D714 3B1,1D715 1D715 2202",
     "1D716 1D716 3B5,1D717 1D717 3B8,1D718 1D718 3BA,1D719 1D719 3C6,1D71A 1D71A 3C1",
     "1D71B 1D71B 3C0,1D71C 1D72C 391,1D72D 1D72D 398,1D72E 1D734 3A3,1D735 1D735 2207",
     "1D736 1D74E 3B1,1D74F 1D74F 2202,1D750 1D750 3B5,1D751 1D751 3B8,1D752 1D752 3BA",
     "1D753 1D753 3C6,1D754 1D754 3C1,1D755 1D755 3C0,1D756 1D766 391,1D767 1D767 398",
     "1D768 1D76E 3A3,1D76F 1D76F 2207,1D770 1D788 3B1,1D789 1D789 2202,1D78A 1D78A 3B5",
     "1D78B 1D78B 3B8,1D78C 1D78C 3BA,1D78D 1D78D 3C6,1D78E 1D78E 3C1,1D78F 1D78F 3C0",
     "1D790 1D7A0 391,1D7A1 1D7A1 398,1D7A2 1D7A8 3A3,1D7A9 1D7A9 2207,1D7AA 1D7C2 3B1",
     "1D7C3 1D7C3 2202,1D7C4 1D7C4 3B5,1D7C5 1D7C5 3B8,1D7C6 1D7C6 3BA,1D7C7 1D7C7 3C6",
     "1D7C8 1D7C8 3C1,1D7C9 1D7C9 3C0,1D7CA 1D7CB 3DC,1D7CE 1D7D7 30,1D7D8 1D7E1 30",
     "1D7E2 1D7EB 30,1D7EC 1D7F5 30,1D7F6 1D7FF 30,1EE00 1EE01 627,1EE02 1EE02 62C",
     "1EE03 1EE03 62F,1EE05 1EE05 648,1EE06 1EE06 632,1EE07 1EE07 62D,1EE08 1EE08 637",
     "1EE09 1EE09 64A,1EE0A 1EE0D 643,1EE0E 1EE0E 633,1EE0F 1EE0F 639,1EE10 1EE10 641",
     "1EE11 1EE11 635,1EE12 1EE12 642,1EE13 1EE13 631,1EE14 1EE14 634,1EE15 1EE16 62A",
     "1EE17 1EE17 62E,1EE18 1EE18 630,1EE19 1EE19 636,1EE1A 1EE1A 638,1EE1B 1EE1B 63A",
     "1EE1C 1EE1C 66E,1EE1D 1EE1D 6BA,1EE1E 1EE1E 6A1,1EE1F 1EE1F 66F,1EE21 1EE21 628",
     "1EE22 1EE22 62C,1EE24 1EE24 647,1EE27 1EE27 62D,1EE29 1EE29 64A,1EE2A 1EE2D 643",
     "1EE2E 1EE2E 633,1EE2F 1EE2F 639,1EE30 1EE30 641,1EE31 1EE31 635,1EE32 1EE32 642",
     "1EE34 1EE34 634,1EE35 1EE36 62A,1EE37 1EE37 62E,1EE39 1EE39 636,1EE3B 1EE3B 63A",
     "1EE42 1EE42 62C,1EE47 1EE47 62D,1EE49 1EE49 64A,1EE4B 1EE4B 644,1EE4D 1EE4D 646",
     "1EE4E 1EE4E 633,1EE4F 1EE4F 639,1EE51 1EE51 635,1EE52 1EE52 642,1EE54 1EE54 634",
     "1EE57 1EE57 62E,1EE59 1EE59 636,1EE5B 1EE5B 63A,1EE5D 1EE5D 6BA,1EE5F 1EE5F 66F",
     "1EE61 1EE61 628,1EE62 1EE62 62C,1EE64 1EE64 647,1EE67 1EE67 62D,1EE68 1EE68 637",
     "1EE69 1EE69 64A,1EE6A 1EE6A 643,1EE6C 1EE6D 645,1EE6E 1EE6E 633,1EE6F 1EE6F 639",
     "1EE70 1EE70 641,1EE71 1EE71 635,1EE72 1EE72 642,1EE74 1EE74 634,1EE75 1EE76 62A",
     "1EE77 1EE77 62E,1EE79 1EE79 636,1EE7A 1EE7A 638,1EE7B 1EE7B 63A,1EE7C 1EE7C 66E",
     "1EE7E 1EE7E 6A1,1EE80 1EE81 627,1EE82 1EE82 62C,1EE83 1EE83 62F,1EE84 1EE85 647",
     "1EE86 1EE86 632,1EE87 1EE87 62D,1EE88 1EE88 637,1EE89 1EE89 64A,1EE8B 1EE8D 644",
     "1EE8E 1EE8E 633,1EE8F 1EE8F 639,1EE90 1EE90 641,1EE91 1EE91 635,1EE92 1EE92 642",
     "1EE93 1EE93 631,1EE94 1EE94 634,1EE95 1EE96 62A,1EE97 1EE97 62E,1EE98 1EE98 630",
     "1EE99 1EE99 636,1EE9A 1EE9A 638,1EE9B 1EE9B 63A,1EEA1 1EEA1 628,1EEA2 1EEA2 62C",
     "1EEA3 1EEA3 62F,1EEA5 1EEA5 648,1EEA6 1EEA6 632,1EEA7 1EEA7 62D,1EEA8 1EEA8 637",
     "1EEA9 1EEA9 64A,1EEAB 1EEAD 644,1EEAE 1EEAE 633,1EEAF 1EEAF 639,1EEB0 1EEB0 641",
     "1EEB1 1EEB1 635,1EEB2 1EEB2 642,1EEB3 1EEB3 631,1EEB4 1EEB4 634,1EEB5 1EEB6 62A",
     "1EEB7 1EEB7 62E,1EEB8 1EEB8 630,1EEB9 1EEB9 636,1EEBA 1EEBA 638,1EEBB 1EEBB 63A"]
  sequences :=
    []

/-- Enclosed letters and segmented digits. -/
def enclosed : Block where
  first := 0x1F000
  last := 0x1FFFF
  runs :=
    ["1F12B 1F12B 43,1F12C 1F12C 52,1F130 1F149 41,1F202 1F202 30B5,1F210 1F210 624B",
     "1F211 1F211 5B57,1F212 1F212 53CC,1F214 1F214 4E8C,1F215 1F215 591A,1F216 1F216 89E3",
     "1F217 1F217 5929,1F218 1F218 4EA4,1F219 1F219 6620,1F21A 1F21A 7121,1F21B 1F21B 6599",
     "1F21C 1F21C 524D,1F21D 1F21D 5F8C,1F21E 1F21E 518D,1F21F 1F21F 65B0,1F220 1F220 521D",
     "1F221 1F221 7D42,1F222 1F222 751F,1F223 1F223 8CA9,1F224 1F224 58F0,1F225 1F225 5439",
     "1F226 1F226 6F14,1F227 1F227 6295,1F228 1F228 6355,1F229 1F229 4E00,1F22A 1F22A 4E09",
     "1F22B 1F22B 904A,1F22C 1F22C 5DE6,1F22D 1F22D 4E2D,1F22E 1F22E 53F3,1F22F 1F22F 6307",
     "1F230 1F230 8D70,1F231 1F231 6253,1F232 1F232 7981,1F233 1F233 7A7A,1F234 1F234 5408",
     "1F235 1F235 6E80,1F236 1F236 6709,1F237 1F237 6708,1F238 1F238 7533,1F239 1F239 5272",
     "1F23A 1F23A 55B6,1F23B 1F23B 914D,1F250 1F250 5F97,1F251 1F251 53EF,1FBF0 1FBF9 30"]
  sequences :=
    ["1F100 30 2E,1F101 30 2C,1F102 31 2C,1F103 32 2C,1F104 33 2C,1F105 34 2C,1F106 35 2C",
     "1F107 36 2C,1F108 37 2C,1F109 38 2C,1F10A 39 2C,1F110 28 41 29,1F111 28 42 29",
     "1F112 28 43 29,1F113 28 44 29,1F114 28 45 29,1F115 28 46 29,1F116 28 47 29,1F117 28 48 29",
     "1F118 28 49 29,1F119 28 4A 29,1F11A 28 4B 29,1F11B 28 4C 29,1F11C 28 4D 29,1F11D 28 4E 29",
     "1F11E 28 4F 29,1F11F 28 50 29,1F120 28 51 29,1F121 28 52 29,1F122 28 53 29,1F123 28 54 29",
     "1F124 28 55 29,1F125 28 56 29,1F126 28 57 29,1F127 28 58 29,1F128 28 59 29,1F129 28 5A 29",
     "1F12A 3014 53 3015,1F12D 43 44,1F12E 57 5A,1F14A 48 56,1F14B 4D 56,1F14C 53 44",
     "1F14D 53 53,1F14E 50 50 56,1F14F 57 43,1F16A 4D 43,1F16B 4D 44,1F16C 4D 52,1F190 44 4A",
     "1F200 307B 304B,1F201 30B3 30B3,1F213 30C6 3099,1F240 3014 672C 3015,1F241 3014 4E09 3015",
     "1F242 3014 4E8C 3015,1F243 3014 5B89 3015,1F244 3014 70B9 3015,1F245 3014 6253 3015",
     "1F246 3014 76D7 3015,1F247 3014 52DD 3015,1F248 3014 6557 3015"]

end NodeWorkflow.Decomposition
