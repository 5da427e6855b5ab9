import NodeWorkflow.Text.Decomposition.Block

/-!
# Decompositions of East Asian signs

Radicals, kana, squared words and compatibility ideographs.
-/

namespace NodeWorkflow.Decomposition

/-- Radicals, kana, enclosed and squared East Asian signs. -/
def eastAsian : Block where
  first := 0x2E00
  last := 0xABFF
  runs :=
    ["2E9F 2E9F 6BCD,2EF3 2EF3 9F9F,2F00 2F00 4E00,2F01 2F01 4E28,2F02 2F02 4E36,2F03 2F03 4E3F",
     "2F04 2F04 4E59,2F05 2F05 4E85,2F06 2F06 4E8C,2F07 2F07 4EA0,2F08 2F08 4EBA,2F09 2F09 513F",
     "2F0A 2F0A 5165,2F0B 2F0B 516B,2F0C 2F0C 5182,2F0D 2F0D 5196,2F0E 2F0E 51AB,2F0F 2F0F 51E0",
     "2F10 2F10 51F5,2F11 2F11 5200,2F12 2F12 529B,2F13 2F13 52F9,2F14 2F14 5315,2F15 2F15 531A",
     "2F16 2F16 5338,2F17 2F17 5341,2F18 2F18 535C,2F19 2F19 5369,2F1A 2F1A 5382,2F1B 2F1B 53B6",
     "2F1C 2F1C 53C8,2F1D 2F1D 53E3,2F1E 2F1E 56D7,2F1F 2F1F 571F,2F20 2F20 58EB,2F21 2F21 5902",
     "2F22 2F22 590A,2F23 2F23 5915,2F24 2F24 5927,2F25 2F25 5973,2F26 2F26 5B50,2F27 2F27 5B80",
     "2F28 2F28 5BF8,2F29 2F29 5C0F,2F2A 2F2A 5C22,2F2B 2F2B 5C38,2F2C 2F2C 5C6E,2F2D 2F2D 5C71",
     "2F2E 2F2E 5DDB,2F2F 2F2F 5DE5,2F30 2F30 5DF1,2F31 2F31 5DFE,2F32 2F32 5E72,2F33 2F33 5E7A",
     "2F34 2F34 5E7F,2F35 2F35 5EF4,2F36 2F36 5EFE,2F37 2F37 5F0B,2F38 2F38 5F13,2F39 2F39 5F50",
     "2F3A 2F3A 5F61,2F3B 2F3B 5F73,2F3C 2F3C 5FC3,2F3D 2F3D 6208,2F3E 2F3E 6236,2F3F 2F3F 624B",
     "2F40 2F40 652F,2F41 2F41 6534,2F42 2F42 6587,2F43 2F43 6597,2F44 2F44 65A4,2F45 2F45 65B9",
     "2F46 2F46 65E0,2F47 2F47 65E5,2F48 2F48 66F0,2F49 2F49 6708,2F4A 2F4A 6728,2F4B 2F4B 6B20",
     "2F4C 2F4C 6B62,2F4D 2F4D 6B79,2F4E 2F4E 6BB3,2F4F 2F4F 6BCB,2F50 2F50 6BD4,2F51 2F51 6BDB",
     "2F52 2F52 6C0F,2F53 2F53 6C14,2F54 2F54 6C34,2F55 2F55 706B,2F56 2F56 722A,2F57 2F57 7236",
     "2F58 2F58 723B,2F59 2F59 723F,2F5A 2F5A 7247,2F5B 2F5B 7259,2F5C 2F5C 725B,2F5D 2F5D 72AC",
     "2F5E 2F5E 7384,2F5F 2F5F 7389,2F60 2F60 74DC,2F61 2F61 74E6,2F62 2F62 7518,2F63 2F63 751F",
     "2F64 2F64 7528,2F65 2F65 7530,2F66 2F66 758B,2F67 2F67 7592,2F68 2F68 7676,2F69 2F69 767D",
     "2F6A 2F6A 76AE,2F6B 2F6B 76BF,2F6C 2F6C 76EE,2F6D 2F6D 77DB,2F6E 2F6E 77E2,2F6F 2F6F 77F3",
     "2F70 2F70 793A,2F71 2F71 79B8,2F72 2F72 79BE,2F73 2F73 7A74,2F74 2F74 7ACB,2F75 2F75 7AF9",
     "2F76 2F76 7C73,2F77 2F77 7CF8,2F78 2F78 7F36,2F79 2F79 7F51,2F7A 2F7A 7F8A,2F7B 2F7B 7FBD",
     "2F7C 2F7C 8001,2F7D 2F7D 800C,2F7E 2F7E 8012,2F7F 2F7F 8033,2F80 2F80 807F,2F81 2F81 8089",
     "2F82 2F82 81E3,2F83 2F83 81EA,2F84 2F84 81F3,2F85 2F85 81FC,2F86 2F86 820C,2F87 2F87 821B",
     "2F88 2F88 821F,2F89 2F89 826E,2F8A 2F8A 8272,2F8B 2F8B 8278,2F8C 2F8C 864D,2F8D 2F8D 866B",
     "2F8E 2F8E 8840,2F8F 2F8F 884C,2F90 2F90 8863,2F91 2F91 897E,2F92 2F92 898B,2F93 2F93 89D2",
     "2F94 2F94 8A00,2F95 2F95 8C37,2F96 2F96 8C46,2F97 2F97 8C55,2F98 2F98 8C78,2F99 2F99 8C9D",
     "2F9A 2F9A 8D64,2F9B 2F9B 8D70,2F9C 2F9C 8DB3,2F9D 2F9D 8EAB,2F9E 2F9E 8ECA,2F9F 2F9F 8F9B",
     "2FA0 2FA0 8FB0,2FA1 2FA1 8FB5,2FA2 2FA2 9091,2FA3 2FA3 9149,2FA4 2FA4 91C6,2FA5 2FA5 91CC",
     "2FA6 2FA6 91D1,2FA7 2FA7 9577,2FA8 2FA8 9580,2FA9 2FA9 961C,2FAA 2FAA 96B6,2FAB 2FAB 96B9",
     "2FAC 2FAC 96E8,2FAD 2FAD 9751,2FAE 2FAE 975E,2FAF 2FAF 9762,2FB0 2FB0 9769,2FB1 2FB1 97CB",
     "2FB2 2FB2 97ED,2FB3 2FB3 97F3,2FB4 2FB4 9801,2FB5 2FB5 98A8,2FB6 2FB6 98DB,2FB7 2FB7 98DF",
     "2FB8 2FB8 9996,2FB9 2FB9 9999,2FBA 2FBA 99AC,2FBB 2FBB 9AA8,2FBC 2FBC 9AD8,2FBD 2FBD 9ADF",
     "2FBE 2FBE 9B25,2FBF 2FBF 9B2F,2FC0 2FC0 9B32,2FC1 2FC1 9B3C,2FC2 2FC2 9B5A,2FC3 2FC3 9CE5",
     "2FC4 2FC4 9E75,2FC5 2FC5 9E7F,2FC6 2FC6 9EA5,2FC7 2FC7 9EBB,2FC8 2FC8 9EC3,2FC9 2FC9 9ECD",
     "2FCA 2FCA 9ED1,2FCB 2FCB 9EF9,2FCC 2FCC 9EFD,2FCD 2FCD 9F0E,2FCE 2FCE 9F13,2FCF 2FCF 9F20",
     "2FD0 2FD0 9F3B,2FD1 2FD1 9F4A,2FD2 2FD2 9F52,2FD3 2FD3 9F8D,2FD4 2FD4 9F9C,2FD5 2FD5 9FA0",
     "3000 3000 20,3036 3036 3012,3038 3038 5341,3039 303A 5344,3131 3132 1100,3133 3133 11AA",
     "3134 3134 1102,3135 3136 11AC,3137 3139 1103,313A 313F 11B0,3140 3140 111A,3141 3143 1106",
     "3144 3144 1121,3145 314E 1109,314F 3163 1161,3164 3164 1160,3165 3166 1114,3167 3168 11C7",
     "3169 3169 11CC,316A 316A 11CE,316B 316B 11D3,316C 316C 11D7,316D 316D 11D9,316E 316E 111C",
     "316F 316F 11DD,3170 3170 11DF,3171 3172 111D,3173 3173 1120,3174 3175 1122,3176 3176 1127",
     "3177 3177 1129,3178 317C 112B,317D 317D 1132,317E 317E 1136,317F 317F 1140,3180 3180 1147",
     "3181 3181 114C,3182 3183 11F1,3184 3186 1157,3187 3188 1184,3189 3189 1188,318A 318B 1191",
     "318C 318C 1194,318D 318D 119E,318E 318E 11A1,3192 3192 4E00,3193 3193 4E8C,3194 3194 4E09",
     "3195 3195 56DB,3196 3196 4E0A,3197 3197 4E2D,3198 3198 4E0B,3199 3199 7532,319A 319A 4E59",
     "319B 319B 4E19,319C 319C 4E01,319D 319D 5929,319E 319E 5730,319F 319F 4EBA,3244 3244 554F",
     "3245 3245 5E7C,3246 3246 6587,3247 3247 7B8F,3260 3260 1100,3261 3262 1102,3263 3265 1105",
     "3266 3266 1109,3267 3268 110B,3269 326D 110E,3280 3280 4E00,3281 3281 4E8C,3282 3282 4E09",
     "3283 3283 56DB,3284 3284 4E94,3285 3285 516D,3286 3286 4E03,3287 3287 516B,3288 3288 4E5D",
     "3289 3289 5341,328A 328A 6708,328B 328B 706B,328C 328C 6C34,328D 328D 6728,328E 328E 91D1",
     "328F 328F 571F,3290 3290 65E5,3291 3291 682A,3292 3292 6709,3293 3293 793E,3294 3294 540D",
     "3295 3295 7279,3296 3296 8CA1,3297 3297 795D,3298 3298 52B4,3299 3299 79D8,329A 329A 7537",
     "329B 329B 5973,329C 329C 9069,329D 329D 512A,329E 329E 5370,329F 329F 6CE8,32A0 32A0 9805",
     "32A1 32A1 4F11,32A2 32A2 5199,32A3 32A3 6B63,32A4 32A4 4E0A,32A5 32A5 4E2D,32A6 32A6 4E0B",
     "32A7 32A7 5DE6,32A8 32A8 53F3,32A9 32A9 533B,32AA 32AA 5B97,32AB 32AB 5B66,32AC 32AC 76E3",
     "32AD 32AD 4F01,32AE 32AE 8CC7,32AF 32AF 5354,32B0 32B0 591C,32D0 32D0 30A2,32D1 32D1 30A4",
     "32D2 32D2 30A6,32D3 32D3 30A8,32D4 32D5 30AA,32D6 32D6 30AD,32D7 32D7 30AF,32D8 32D8 30B1",
     "32D9 32D9 30B3,32DA 32DA 30B5,32DB 32DB 30B7,32DC 32DC 30B9,32DD 32DD 30BB,32DE 32DE 30BD",
     "32DF 32DF 30BF,32E0 32E0 30C1,32E1 32E1 30C4,32E2 32E2 30C6,32E3 32E3 30C8,32E4 32E9 30CA",
     "32EA 32EA 30D2,32EB 32EB 30D5,32EC 32EC 30D8,32ED 32ED 30DB,32EE 32F2 30DE,32F3 32F3 30E4",
     "32F4 32F4 30E6,32F5 32FA 30E8,32FB 32FE 30EF,A69C A69C 44A,A69D A69D 44C,A770 A770 A76F",
     "A7F2 A7F2 43,A7F3 A7F3 46,A7F4 A7F4 51,A7F8 A7F8 126,A7F9 A7F9 153,AB5C AB5C A727",
     "AB5D AB5D AB37,AB5E AB5E 26B,AB5F AB5F AB52,AB69 AB69 28D"]
  sequences :=
    ["304C 304B 3099,304E 304D 3099,3050 304F 3099,3052 3051 3099,3054 3053 3099,3056 3055 3099",
     "3058 3057 3099,305A 3059 3099,305C 305B 3099,305E 305D 3099,3060 305F 3099,3062 3061 3099",
     "3065 3064 3099,3067 3066 3099,3069 3068 3099,3070 306F 3099,3071 306F 309A,3073 3072 3099",
     "3074 3072 309A,3076 3075 3099,3077 3075 309A,3079 3078 3099,307A 3078 309A,307C 307B 3099",
     "307D 307B 309A,3094 3046 3099,309B 20 3099,309C 20 309A,309E 309D 3099,309F 3088 308A",
     "30AC 30AB 3099,30AE 30AD 3099,30B0 30AF 3099,30B2 30B1 3099,30B4 30B3 3099,30B6 30B5 3099",
     "30B8 30B7 3099,30BA 30B9 3099,30BC 30BB 3099,30BE 30BD 3099,30C0 30BF 3099,30C2 30C1 3099",
     "30C5 30C4 3099,30C7 30C6 3099,30C9 30C8 3099,30D0 30CF 3099,30D1 30CF 309A,30D3 30D2 3099",
     "30D4 30D2 309A,30D6 30D5 3099,30D7 30D5 309A,30D9 30D8 3099,30DA 30D8 309A,30DC 30DB 3099",
     "30DD 30DB 309A,30F4 30A6 3099,30F7 30EF 3099,30F8 30F0 3099,30F9 30F1 3099,30FA 30F2 3099",
     "30FE 30FD 3099,30FF 30B3 30C8,3200 28 1100 29,3201 28 1102 29,3202 28 1103 29",
     "3203 28 1105 29,3204 28 1106 29,3205 28 1107 29,3206 28 1109 29,3207 28 110B 29",
     "3208 28 110C 29,3209 28 110E 29,320A 28 110F 29,320B 28 1110 29,320C 28 1111 29",
     "320D 28 1112 29,320E 28 1100 1161 29,320F 28 1102 1161 29,3210 28 1103 1161 29",
     "3211 28 1105 1161 29,3212 28 1106 1161 29,3213 28 1107 1161 29,3214 28 1109 1161 29",
     "3215 28 110B 1161 29,3216 28 110C 1161 29,3217 28 110E 1161 29,3218 28 110F 1161 29",
     "3219 28 1110 1161 29,321A 28 1111 1161 29,321B 28 1112 1161 29,321C 28 110C 116E 29",
     "321D 28 110B 1169 110C 1165 11AB 29,321E 28 110B 1169 1112 116E 29,3220 28 4E00 29",
     "3221 28 4E8C 29,3222 28 4E09 29,3223 28 56DB 29,3224 28 4E94 29,3225 28 516D 29",
     "3226 28 4E03 29,3227 28 516B 29,3228 28 4E5D 29,3229 28 5341 29,322A 28 6708 29",
     "322B 28 706B 29,322C 28 6C34 29,322D 28 6728 29,322E 28 91D1 29,322F 28 571F 29",
     "3230 28 65E5 29,3231 28 682A 29,3232 28 6709 29,3233 28 793E 29,3234 28 540D 29",
     "3235 28 7279 29,3236 28 8CA1 29,3237 28 795D 29,3238 28 52B4 29,3239 28 4EE3 29",
     "323A 28 547C 29,323B 28 5B66 29,323C 28 76E3 29,323D 28 4F01 29,323E 28 8CC7 29",
     "323F 28 5354 29,3240 28 796D 29,3241 28 4F11 29,3242 28 81EA 29,3243 28 81F3 29",
     "3250 50 54 45,3251 32 31,3252 32 32,3253 32 33,3254 32 34,3255 32 35,3256 32 36",
     "3257 32 37,3258 32 38,3259 32 39,325A 33 30,325B 33 31,325C 33 32,325D 33 33,325E 33 34",
     "325F 33 35,326E 1100 1161,326F 1102 1161,3270 1103 1161,3271 1105 1161,3272 1106 1161",
     "3273 1107 1161,3274 1109 1161,3275 110B 1161,3276 110C 1161,3277 110E 1161,3278 110F 1161",
     "3279 1110 1161,327A 1111 1161,327B 1112 1161,327C 110E 1161 11B7 1100 1169",
     "327D 110C 116E 110B 1174,327E 110B 116E,32B1 33 36,32B2 33 37,32B3 33 38,32B4 33 39",
     "32B5 34 30,32B6 34 31,32B7 34 32,32B8 34 33,32B9 34 34,32BA 34 35,32BB 34 36,32BC 34 37",
     "32BD 34 38,32BE 34 39,32BF 35 30,32C0 31 6708,32C1 32 6708,32C2 33 6708,32C3 34 6708",
     "32C4 35 6708,32C5 36 6708,32C6 37 6708,32C7 38 6708,32C8 39 6708,32C9 31 30 6708",
     "32CA 31 31 6708,32CB 31 32 6708,32CC 48 67,32CD 65 72 67,32CE 65 56,32CF 4C 54 44",
     "32FF 4EE4 548C,3300 30A2 30CF 309A 30FC 30C8,3301 30A2 30EB 30D5 30A1",
     "3302 30A2 30F3 30D8 309A 30A2,3303 30A2 30FC 30EB,3304 30A4 30CB 30F3 30AF 3099",
     "3305 30A4 30F3 30C1,3306 30A6 30A9 30F3,3307 30A8 30B9 30AF 30FC 30C8 3099",
     "3308 30A8 30FC 30AB 30FC,3309 30AA 30F3 30B9,330A 30AA 30FC 30E0,330B 30AB 30A4 30EA",
     "330C 30AB 30E9 30C3 30C8,330D 30AB 30ED 30EA 30FC,330E 30AB 3099 30ED 30F3",
     "330F 30AB 3099 30F3 30DE,3310 30AD 3099 30AB 3099,3311 30AD 3099 30CB 30FC",
     "3312 30AD 30E5 30EA 30FC,3313 30AD 3099 30EB 30BF 3099 30FC,3314 30AD 30ED",
     "3315 30AD 30ED 30AF 3099 30E9 30E0,3316 30AD 30ED 30E1 30FC 30C8 30EB",
     "3317 30AD 30ED 30EF 30C3 30C8,3318 30AF 3099 30E9 30E0,3319 30AF 3099 30E9 30E0 30C8 30F3",
     "331A 30AF 30EB 30BB 3099 30A4 30ED,331B 30AF 30ED 30FC 30CD,331C 30B1 30FC 30B9",
     "331D 30B3 30EB 30CA,331E 30B3 30FC 30DB 309A,331F 30B5 30A4 30AF 30EB",
     "3320 30B5 30F3 30C1 30FC 30E0,3321 30B7 30EA 30F3 30AF 3099,3322 30BB 30F3 30C1",
     "3323 30BB 30F3 30C8,3324 30BF 3099 30FC 30B9,3325 30C6 3099 30B7,3326 30C8 3099 30EB",
     "3327 30C8 30F3,3328 30CA 30CE,3329 30CE 30C3 30C8,332A 30CF 30A4 30C4",
     "332B 30CF 309A 30FC 30BB 30F3 30C8,332C 30CF 309A 30FC 30C4,332D 30CF 3099 30FC 30EC 30EB",
     "332E 30D2 309A 30A2 30B9 30C8 30EB,332F 30D2 309A 30AF 30EB,3330 30D2 309A 30B3",
     "3331 30D2 3099 30EB,3332 30D5 30A1 30E9 30C3 30C8 3099,3333 30D5 30A3 30FC 30C8",
     "3334 30D5 3099 30C3 30B7 30A7 30EB,3335 30D5 30E9 30F3,3336 30D8 30AF 30BF 30FC 30EB",
     "3337 30D8 309A 30BD,3338 30D8 309A 30CB 30D2,3339 30D8 30EB 30C4,333A 30D8 309A 30F3 30B9",
     "333B 30D8 309A 30FC 30B7 3099,333C 30D8 3099 30FC 30BF,333D 30DB 309A 30A4 30F3 30C8",
     "333E 30DB 3099 30EB 30C8,333F 30DB 30F3,3340 30DB 309A 30F3 30C8 3099,3341 30DB 30FC 30EB",
     "3342 30DB 30FC 30F3,3343 30DE 30A4 30AF 30ED,3344 30DE 30A4 30EB,3345 30DE 30C3 30CF",
     "3346 30DE 30EB 30AF,3347 30DE 30F3 30B7 30E7 30F3,3348 30DF 30AF 30ED 30F3,3349 30DF 30EA",
     "334A 30DF 30EA 30CF 3099 30FC 30EB,334B 30E1 30AB 3099,334C 30E1 30AB 3099 30C8 30F3",
     "334D 30E1 30FC 30C8 30EB,334E 30E4 30FC 30C8 3099,334F 30E4 30FC 30EB,3350 30E6 30A2 30F3",
     "3351 30EA 30C3 30C8 30EB,3352 30EA 30E9,3353 30EB 30D2 309A 30FC",
     "3354 30EB 30FC 30D5 3099 30EB,3355 30EC 30E0,3356 30EC 30F3 30C8 30B1 3099 30F3",
     "3357 30EF 30C3 30C8,3358 30 70B9,3359 31 70B9,335A 32 70B9,335B 33 70B9,335C 34 70B9",
     "335D 35 70B9,335E 36 70B9,335F 37 70B9,3360 38 70B9,3361 39 70B9,3362 31 30 70B9",
     "3363 31 31 70B9,3364 31 32 70B9,3365 31 33 70B9,3366 31 34 70B9,3367 31 35 70B9",
     "3368 31 36 70B9,3369 31 37 70B9,336A 31 38 70B9,336B 31 39 70B9,336C 32 30 70B9",
     "336D 32 31 70B9,336E 32 32 70B9,336F 32 33 70B9,3370 32 34 70B9,3371 68 50 61,3372 64 61",
     "3373 41 55,3374 62 61 72,3375 6F 56,3376 70 63,3377 64 6D,3378 64 6D 32,3379 64 6D 33",
     "337A 49 55,337B 5E73 6210,337C 662D 548C,337D 5927 6B63,337E 660E 6CBB",
     "337F 682A 5F0F 4F1A 793E,3380 70 41,3381 6E 41,3382 3BC 41,3383 6D 41,3384 6B 41",
     "3385 4B 42,3386 4D 42,3387 47 42,3388 63 61 6C,3389 6B 63 61 6C,338A 70 46,338B 6E 46",
     "338C 3BC 46,338D 3BC 67,338E 6D 67,338F 6B 67,3390 48 7A,3391 6B 48 7A,3392 4D 48 7A",
     "3393 47 48 7A,3394 54 48 7A,3395 3BC 6C,3396 6D 6C,3397 64 6C,3398 6B 6C,3399 66 6D",
     "339A 6E 6D,339B 3BC 6D,339C 6D 6D,339D 63 6D,339E 6B 6D,339F 6D 6D 32,33A0 63 6D 32",
     "33A1 6D 32,33A2 6B 6D 32,33A3 6D 6D 33,33A4 63 6D 33,33A5 6D 33,33A6 6B 6D 33",
     "33A7 6D 2215 73,33A8 6D 2215 73 32,33A9 50 61,33AA 6B 50 61,33AB 4D 50 61,33AC 47 50 61",
     "33AD 72 61 64,33AE 72 61 64 2215 73,33AF 72 61 64 2215 73 32,33B0 70 73,33B1 6E 73",
     "33B2 3BC 73,33B3 6D 73,33B4 70 56,33B5 6E 56,33B6 3BC 56,33B7 6D 56,33B8 6B 56,33B9 4D 56",
     "33BA 70 57,33BB 6E 57,33BC 3BC 57,33BD 6D 57,33BE 6B 57,33BF 4D 57,33C0 6B 3A9",
     "33C1 4D 3A9,33C2 61 2E 6D 2E,33C3 42 71,33C4 63 63,33C5 63 64,33C6 43 2215 6B 67",
     "33C7 43 6F 2E,33C8 64 42,33C9 47 79,33CA 68 61,33CB 48 50,33CC 69 6E,33CD 4B 4B",
     "33CE 4B 4D,33CF 6B 74,33D0 6C 6D,33D1 6C 6E,33D2 6C 6F 67,33D3 6C 78,33D4 6D 62",
     "33D5 6D 69 6C,33D6 6D 6F 6C,33D7 50 48,33D8 70 2E 6D 2E,33D9 50 50 4D,33DA 50 52",
     "33DB 73 72,33DC 53 76,33DD 57 62,33DE 56 2215 6D,33DF 41 2215 6D,33E0 31 65E5",
     "33E1 32 65E5,33E2 33 65E5,33E3 34 65E5,33E4 35 65E5,33E5 36 65E5,33E6 37 65E5",
     "33E7 38 65E5,33E8 39 65E5,33E9 31 30 65E5,33EA 31 31 65E5,33EB 31 32 65E5,33EC 31 33 65E5",
     "33ED 31 34 65E5,33EE 31 35 65E5,33EF 31 36 65E5,33F0 31 37 65E5,33F1 31 38 65E5",
     "33F2 31 39 65E5,33F3 32 30 65E5,33F4 32 31 65E5,33F5 32 32 65E5,33F6 32 33 65E5",
     "33F7 32 34 65E5,33F8 32 35 65E5,33F9 32 36 65E5,33FA 32 37 65E5,33FB 32 38 65E5",
     "33FC 32 39 65E5,33FD 33 30 65E5,33FE 33 31 65E5,33FF 67 61 6C"]

/-- Compatibility ideographs. -/
def ideographs : Block where
  first := 0xF900
  last := 0xFAFF
  runs :=
    ["F900 F900 8C48,F901 F901 66F4,F902 F902 8ECA,F903 F903 8CC8,F904 F904 6ED1,F905 F905 4E32",
     "F906 F906 53E5,F907 F907 9F9C,F908 F908 9F9C,F909 F909 5951,F90A F90A 91D1,F90B F90B 5587",
     "F90C F90C 5948,F90D F90D 61F6,F90E F90E 7669,F90F F90F 7F85,F910 F910 863F,F911 F911 87BA",
     "F912 F912 88F8,F913 F913 908F,F914 F914 6A02,F915 F915 6D1B,F916 F916 70D9,F917 F917 73DE",
     "F918 F918 843D,F919 F919 916A,F91A F91A 99F1,F91B F91B 4E82,F91C F91C 5375,F91D F91D 6B04",
     "F91E F91E 721B,F91F F91F 862D,F920 F920 9E1E,F921 F921 5D50,F922 F922 6FEB,F923 F923 85CD",
     "F924 F924 8964,F925 F925 62C9,F926 F926 81D8,F927 F927 881F,F928 F928 5ECA,F929 F929 6717",
     "F92A F92A 6D6A,F92B F92B 72FC,F92C F92C 90CE,F92D F92D 4F86,F92E F92E 51B7,F92F F92F 52DE",
     "F930 F930 64C4,F931 F931 6AD3,F932 F932 7210,F933 F933 76E7,F934 F934 8001,F935 F935 8606",
     "F936 F936 865C,F937 F937 8DEF,F938 F938 9732,F939 F939 9B6F,F93A F93A 9DFA,F93B F93B 788C",
     "F93C F93C 797F,F93D F93D 7DA0,F93E F93E 83C9,F93F F93F 9304,F940 F940 9E7F,F941 F941 8AD6",
     "F942 F942 58DF,F943 F943 5F04,F944 F944 7C60,F945 F945 807E,F946 F946 7262,F947 F947 78CA",
     "F948 F948 8CC2,F949 F949 96F7,F94A F94A 58D8,F94B F94B 5C62,F94C F94C 6A13,F94D F94D 6DDA",
     "F94E F94E 6F0F,F94F F94F 7D2F,F950 F950 7E37,F951 F951 964B,F952 F952 52D2,F953 F953 808B",
     "F954 F954 51DC,F955 F955 51CC,F956 F956 7A1C,F957 F957 7DBE,F958 F958 83F1,F959 F959 9675",
     "F95A F95A 8B80,F95B F95B 62CF,F95C F95C 6A02,F95D F95D 8AFE,F95E F95E 4E39,F95F F95F 5BE7",
     "F960 F960 6012,F961 F961 7387,F962 F962 7570,F963 F963 5317,F964 F964 78FB,F965 F965 4FBF",
     "F966 F966 5FA9,F967 F967 4E0D,F968 F968 6CCC,F969 F969 6578,F96A F96A 7D22,F96B F96B 53C3",
     "F96C F96C 585E,F96D F96D 7701,F96E F96E 8449,F96F F96F 8AAA,F970 F970 6BBA,F971 F971 8FB0",
     "F972 F972 6C88,F973 F973 62FE,F974 F974 82E5,F975 F975 63A0,F976 F976 7565,F977 F977 4EAE",
     "F978 F978 5169,F979 F979 51C9,F97A F97A 6881,F97B F97B 7CE7,F97C F97C 826F,F97D F97D 8AD2",
     "F97E F97E 91CF,F97F F97F 52F5,F980 F980 5442,F981 F981 5973,F982 F982 5EEC,F983 F983 65C5",
     "F984 F984 6FFE,F985 F985 792A,F986 F986 95AD,F987 F987 9A6A,F988 F988 9E97,F989 F989 9ECE",
     "F98A F98A 529B,F98B F98B 66C6,F98C F98C 6B77,F98D F98D 8F62,F98E F98E 5E74,F98F F98F 6190",
     "F990 F990 6200,F991 F991 649A,F992 F992 6F23,F993 F993 7149,F994 F994 7489,F995 F995 79CA",
     "F996 F996 7DF4,F997 F997 806F,F998 F998 8F26,F999 F999 84EE,F99A F99A 9023,F99B F99B 934A",
     "F99C F99C 5217,F99D F99D 52A3,F99E F99E 54BD,F99F F99F 70C8,F9A0 F9A0 88C2,F9A1 F9A1 8AAA",
     "F9A2 F9A2 5EC9,F9A3 F9A3 5FF5,F9A4 F9A4 637B,F9A5 F9A5 6BAE,F9A6 F9A6 7C3E,F9A7 F9A7 7375",
     "F9A8 F9A8 4EE4,F9A9 F9A9 56F9,F9AA F9AA 5BE7,F9AB F9AB 5DBA,F9AC F9AC 601C,F9AD F9AD 73B2",
     "F9AE F9AE 7469,F9AF F9AF 7F9A,F9B0 F9B0 8046,F9B1 F9B1 9234,F9B2 F9B2 96F6,F9B3 F9B3 9748",
     "F9B4 F9B4 9818,F9B5 F9B5 4F8B,F9B6 F9B6 79AE,F9B7 F9B7 91B4,F9B8 F9B8 96B8,F9B9 F9B9 60E1",
     "F9BA F9BA 4E86,F9BB F9BB 50DA,F9BC F9BC 5BEE,F9BD F9BD 5C3F,F9BE F9BE 6599,F9BF F9BF 6A02",
     "F9C0 F9C0 71CE,F9C1 F9C1 7642,F9C2 F9C2 84FC,F9C3 F9C3 907C,F9C4 F9C4 9F8D,F9C5 F9C5 6688",
     "F9C6 F9C6 962E,F9C7 F9C7 5289,F9C8 F9C8 677B,F9C9 F9C9 67F3,F9CA F9CA 6D41,F9CB F9CB 6E9C",
     "F9CC F9CC 7409,F9CD F9CD 7559,F9CE F9CE 786B,F9CF F9CF 7D10,F9D0 F9D0 985E,F9D1 F9D1 516D",
     "F9D2 F9D2 622E,F9D3 F9D3 9678,F9D4 F9D4 502B,F9D5 F9D5 5D19,F9D6 F9D6 6DEA,F9D7 F9D7 8F2A",
     "F9D8 F9D8 5F8B,F9D9 F9D9 6144,F9DA F9DA 6817,F9DB F9DB 7387,F9DC F9DC 9686,F9DD F9DD 5229",
     "F9DE F9DE 540F,F9DF F9DF 5C65,F9E0 F9E0 6613,F9E1 F9E1 674E,F9E2 F9E2 68A8,F9E3 F9E3 6CE5",
     "F9E4 F9E4 7406,F9E5 F9E5 75E2,F9E6 F9E6 7F79,F9E7 F9E7 88CF,F9E8 F9E8 88E1,F9E9 F9E9 91CC",
     "F9EA F9EA 96E2,F9EB F9EB 533F,F9EC F9EC 6EBA,F9ED F9ED 541D,F9EE F9EE 71D0,F9EF F9EF 7498",
     "F9F0 F9F0 85FA,F9F1 F9F1 96A3,F9F2 F9F2 9C57,F9F3 F9F3 9E9F,F9F4 F9F4 6797,F9F5 F9F5 6DCB",
     "F9F6 F9F6 81E8,F9F7 F9F7 7ACB,F9F8 F9F8 7B20,F9F9 F9F9 7C92,F9FA F9FA 72C0,F9FB F9FB 7099",
     "F9FC F9FC 8B58,F9FD F9FD 4EC0,F9FE F9FE 8336,F9FF F9FF 523A,FA00 FA00 5207,FA01 FA01 5EA6",
     "FA02 FA02 62D3,FA03 FA03 7CD6,FA04 FA04 5B85,FA05 FA05 6D1E,FA06 FA06 66B4,FA07 FA07 8F3B",
     "FA08 FA08 884C,FA09 FA09 964D,FA0A FA0A 898B,FA0B FA0B 5ED3,FA0C FA0C 5140,FA0D FA0D 55C0",
     "FA10 FA10 585A,FA12 FA12 6674,FA15 FA15 51DE,FA16 FA16 732A,FA17 FA17 76CA,FA18 FA18 793C",
     "FA19 FA19 795E,FA1A FA1A 7965,FA1B FA1B 798F,FA1C FA1C 9756,FA1D FA1D 7CBE,FA1E FA1E 7FBD",
     "FA20 FA20 8612,FA22 FA22 8AF8,FA25 FA25 9038,FA26 FA26 90FD,FA2A FA2A 98EF,FA2B FA2B 98FC",
     "FA2C FA2C 9928,FA2D FA2D 9DB4,FA2E FA2E 90DE,FA2F FA2F 96B7,FA30 FA30 4FAE,FA31 FA31 50E7",
     "FA32 FA32 514D,FA33 FA33 52C9,FA34 FA34 52E4,FA35 FA35 5351,FA36 FA36 559D,FA37 FA37 5606",
     "FA38 FA38 5668,FA39 FA39 5840,FA3A FA3A 58A8,FA3B FA3B 5C64,FA3C FA3C 5C6E,FA3D FA3D 6094",
     "FA3E FA3E 6168,FA3F FA3F 618E,FA40 FA40 61F2,FA41 FA41 654F,FA42 FA42 65E2,FA43 FA43 6691",
     "FA44 FA44 6885,FA45 FA45 6D77,FA46 FA46 6E1A,FA47 FA47 6F22,FA48 FA48 716E,FA49 FA49 722B",
     "FA4A FA4A 7422,FA4B FA4B 7891,FA4C FA4C 793E,FA4D FA4D 7949,FA4E FA4E 7948,FA4F FA4F 7950",
     "FA50 FA50 7956,FA51 FA51 795D,FA52 FA53 798D,FA54 FA54 7A40,FA55 FA55 7A81,FA56 FA56 7BC0",
     "FA57 FA57 7DF4,FA58 FA58 7E09,FA59 FA59 7E41,FA5A FA5A 7F72,FA5B FA5B 8005,FA5C FA5C 81ED",
     "FA5D FA5D 8279,FA5E FA5E 8279,FA5F FA5F 8457,FA60 FA60 8910,FA61 FA61 8996,FA62 FA62 8B01",
     "FA63 FA63 8B39,FA64 FA64 8CD3,FA65 FA65 8D08,FA66 FA66 8FB6,FA67 FA67 9038,FA68 FA68 96E3",
     "FA69 FA69 97FF,FA6A FA6A 983B,FA6B FA6B 6075,FA6C FA6C 242EE,FA6D FA6D 8218",
     "FA70 FA70 4E26,FA71 FA71 51B5,FA72 FA72 5168,FA73 FA73 4F80,FA74 FA74 5145,FA75 FA75 5180",
     "FA76 FA76 52C7,FA77 FA77 52FA,FA78 FA78 559D,FA79 FA79 5555,FA7A FA7A 5599,FA7B FA7B 55E2",
     "FA7C FA7C 585A,FA7D FA7D 58B3,FA7E FA7E 5944,FA7F FA7F 5954,FA80 FA80 5A62,FA81 FA81 5B28",
     "FA82 FA82 5ED2,FA83 FA83 5ED9,FA84 FA84 5F69,FA85 FA85 5FAD,FA86 FA86 60D8,FA87 FA87 614E",
     "FA88 FA88 6108,FA89 FA89 618E,FA8A FA8A 6160,FA8B FA8B 61F2,FA8C FA8C 6234,FA8D FA8D 63C4",
     "FA8E FA8E 641C,FA8F FA8F 6452,FA90 FA90 6556,FA91 FA91 6674,FA92 FA92 6717,FA93 FA93 671B",
     "FA94 FA94 6756,FA95 FA95 6B79,FA96 FA96 6BBA,FA97 FA97 6D41,FA98 FA98 6EDB,FA99 FA99 6ECB",
     "FA9A FA9A 6F22,FA9B FA9B 701E,FA9C FA9C 716E,FA9D FA9D 77A7,FA9E FA9E 7235,FA9F FA9F 72AF",
     "FAA0 FAA0 732A,FAA1 FAA1 7471,FAA2 FAA2 7506,FAA3 FAA3 753B,FAA4 FAA4 761D,FAA5 FAA5 761F",
     "FAA6 FAA6 76CA,FAA7 FAA7 76DB,FAA8 FAA8 76F4,FAA9 FAA9 774A,FAAA FAAA 7740,FAAB FAAB 78CC",
     "FAAC FAAC 7AB1,FAAD FAAD 7BC0,FAAE FAAE 7C7B,FAAF FAAF 7D5B,FAB0 FAB0 7DF4,FAB1 FAB1 7F3E",
     "FAB2 FAB2 8005,FAB3 FAB3 8352,FAB4 FAB4 83EF,FAB5 FAB5 8779,FAB6 FAB6 8941,FAB7 FAB7 8986",
     "FAB8 FAB8 8996,FAB9 FAB9 8ABF,FABA FABA 8AF8,FABB FABB 8ACB,FABC FABC 8B01,FABD FABD 8AFE",
     "FABE FABE 8AED,FABF FABF 8B39,FAC0 FAC0 8B8A,FAC1 FAC1 8D08,FAC2 FAC2 8F38,FAC3 FAC3 9072",
     "FAC4 FAC4 9199,FAC5 FAC5 9276,FAC6 FAC6 967C,FAC7 FAC7 96E3,FAC8 FAC8 9756,FAC9 FAC9 97DB",
     "FACA FACA 97FF,FACB FACB 980B,FACC FACC 983B,FACD FACD 9B12,FACE FACE 9F9C",
     "FACF FACF 2284A,FAD0 FAD0 22844,FAD1 FAD1 233D5,FAD2 FAD2 3B9D,FAD3 FAD3 4018",
     "FAD4 FAD4 4039,FAD5 FAD5 25249,FAD6 FAD6 25CD0,FAD7 FAD7 27ED3,FAD8 FAD8 9F43",
     "FAD9 FAD9 9F8E"]
  sequences :=
    []

/-- Further compatibility ideographs. -/
def ideographsSupplement : Block where
  first := 0x20000
  last := 0x10FFFF
  runs :=
    ["2F800 2F800 4E3D,2F801 2F801 4E38,2F802 2F802 4E41,2F803 2F803 20122,2F804 2F804 4F60",
     "2F805 2F805 4FAE,2F806 2F806 4FBB,2F807 2F807 5002,2F808 2F808 507A,2F809 2F809 5099",
     "2F80A 2F80A 50E7,2F80B 2F80B 50CF,2F80C 2F80C 349E,2F80D 2F80D 2063A,2F80E 2F80E 514D",
     "2F80F 2F80F 5154,2F810 2F810 5164,2F811 2F811 5177,2F812 2F812 2051C,2F813 2F813 34B9",
     "2F814 2F814 5167,2F815 2F815 518D,2F816 2F816 2054B,2F817 2F817 5197,2F818 2F818 51A4",
     "2F819 2F819 4ECC,2F81A 2F81A 51AC,2F81B 2F81B 51B5,2F81C 2F81C 291DF,2F81D 2F81D 51F5",
     "2F81E 2F81E 5203,2F81F 2F81F 34DF,2F820 2F820 523B,2F821 2F821 5246,2F822 2F822 5272",
     "2F823 2F823 5277,2F824 2F824 3515,2F825 2F825 52C7,2F826 2F826 52C9,2F827 2F827 52E4",
     "2F828 2F828 52FA,2F829 2F82A 5305,2F82B 2F82B 5317,2F82C 2F82C 5349,2F82D 2F82D 5351",
     "2F82E 2F82E 535A,2F82F 2F82F 5373,2F830 2F830 537D,2F831 2F831 537F,2F832 2F832 537F",
     "2F833 2F833 537F,2F834 2F834 20A2C,2F835 2F835 7070,2F836 2F836 53CA,2F837 2F837 53DF",
     "2F838 2F838 20B63,2F839 2F839 53EB,2F83A 2F83A 53F1,2F83B 2F83B 5406,2F83C 2F83C 549E",
     "2F83D 2F83D 5438,2F83E 2F83E 5448,2F83F 2F83F 5468,2F840 2F840 54A2,2F841 2F841 54F6",
     "2F842 2F842 5510,2F843 2F843 5553,2F844 2F844 5563,2F845 2F845 5584,2F846 2F846 5584",
     "2F847 2F847 5599,2F848 2F848 55AB,2F849 2F849 55B3,2F84A 2F84A 55C2,2F84B 2F84B 5716",
     "2F84C 2F84C 5606,2F84D 2F84D 5717,2F84E 2F84E 5651,2F84F 2F84F 5674,2F850 2F850 5207",
     "2F851 2F851 58EE,2F852 2F852 57CE,2F853 2F853 57F4,2F854 2F854 580D,2F855 2F855 578B",
     "2F856 2F856 5832,2F857 2F857 5831,2F858 2F858 58AC,2F859 2F859 214E4,2F85A 2F85A 58F2",
     "2F85B 2F85B 58F7,2F85C 2F85C 5906,2F85D 2F85D 591A,2F85E 2F85E 5922,2F85F 2F85F 5962",
     "2F860 2F860 216A8,2F861 2F861 216EA,2F862 2F862 59EC,2F863 2F863 5A1B,2F864 2F864 5A27",
     "2F865 2F865 59D8,2F866 2F866 5A66,2F867 2F867 36EE,2F868 2F868 36FC,2F869 2F869 5B08",
     "2F86A 2F86A 5B3E,2F86B 2F86B 5B3E,2F86C 2F86C 219C8,2F86D 2F86D 5BC3,2F86E 2F86E 5BD8",
     "2F86F 2F86F 5BE7,2F870 2F870 5BF3,2F871 2F871 21B18,2F872 2F872 5BFF,2F873 2F873 5C06",
     "2F874 2F874 5F53,2F875 2F875 5C22,2F876 2F876 3781,2F877 2F877 5C60,2F878 2F878 5C6E",
     "2F879 2F879 5CC0,2F87A 2F87A 5C8D,2F87B 2F87B 21DE4,2F87C 2F87C 5D43,2F87D 2F87D 21DE6",
     "2F87E 2F87E 5D6E,2F87F 2F87F 5D6B,2F880 2F880 5D7C,2F881 2F882 5DE1,2F883 2F883 382F",
     "2F884 2F884 5DFD,2F885 2F885 5E28,2F886 2F886 5E3D,2F887 2F887 5E69,2F888 2F888 3862",
     "2F889 2F889 22183,2F88A 2F88A 387C,2F88B 2F88B 5EB0,2F88C 2F88C 5EB3,2F88D 2F88D 5EB6",
     "2F88E 2F88E 5ECA,2F88F 2F88F 2A392,2F890 2F890 5EFE,2F891 2F891 22331,2F892 2F892 22331",
     "2F893 2F893 8201,2F894 2F894 5F22,2F895 2F895 5F22,2F896 2F896 38C7,2F897 2F897 232B8",
     "2F898 2F898 261DA,2F899 2F899 5F62,2F89A 2F89A 5F6B,2F89B 2F89B 38E3,2F89C 2F89C 5F9A",
     "2F89D 2F89D 5FCD,2F89E 2F89E 5FD7,2F89F 2F89F 5FF9,2F8A0 2F8A0 6081,2F8A1 2F8A1 393A",
     "2F8A2 2F8A2 391C,2F8A3 2F8A3 6094,2F8A4 2F8A4 226D4,2F8A5 2F8A5 60C7,2F8A6 2F8A6 6148",
     "2F8A7 2F8A7 614C,2F8A8 2F8A8 614E,2F8A9 2F8A9 614C,2F8AA 2F8AA 617A,2F8AB 2F8AB 618E",
     "2F8AC 2F8AC 61B2,2F8AD 2F8AD 61A4,2F8AE 2F8AE 61AF,2F8AF 2F8AF 61DE,2F8B0 2F8B0 61F2",
     "2F8B1 2F8B1 61F6,2F8B2 2F8B2 6210,2F8B3 2F8B3 621B,2F8B4 2F8B4 625D,2F8B5 2F8B5 62B1",
     "2F8B6 2F8B6 62D4,2F8B7 2F8B7 6350,2F8B8 2F8B8 22B0C,2F8B9 2F8B9 633D,2F8BA 2F8BA 62FC",
     "2F8BB 2F8BB 6368,2F8BC 2F8BC 6383,2F8BD 2F8BD 63E4,2F8BE 2F8BE 22BF1,2F8BF 2F8BF 6422",
     "2F8C0 2F8C0 63C5,2F8C1 2F8C1 63A9,2F8C2 2F8C2 3A2E,2F8C3 2F8C3 6469,2F8C4 2F8C4 647E",
     "2F8C5 2F8C5 649D,2F8C6 2F8C6 6477,2F8C7 2F8C7 3A6C,2F8C8 2F8C8 654F,2F8C9 2F8C9 656C",
     "2F8CA 2F8CA 2300A,2F8CB 2F8CB 65E3,2F8CC 2F8CC 66F8,2F8CD 2F8CD 6649,2F8CE 2F8CE 3B19",
     "2F8CF 2F8CF 6691,2F8D0 2F8D0 3B08,2F8D1 2F8D1 3AE4,2F8D2 2F8D2 5192,2F8D3 2F8D3 5195",
     "2F8D4 2F8D4 6700,2F8D5 2F8D5 669C,2F8D6 2F8D6 80AD,2F8D7 2F8D7 43D9,2F8D8 2F8D8 6717",
     "2F8D9 2F8D9 671B,2F8DA 2F8DA 6721,2F8DB 2F8DB 675E,2F8DC 2F8DC 6753,2F8DD 2F8DD 233C3",
     "2F8DE 2F8DE 3B49,2F8DF 2F8DF 67FA,2F8E0 2F8E0 6785,2F8E1 2F8E1 6852,2F8E2 2F8E2 6885",
     "2F8E3 2F8E3 2346D,2F8E4 2F8E4 688E,2F8E5 2F8E5 681F,2F8E6 2F8E6 6914,2F8E7 2F8E7 3B9D",
     "2F8E8 2F8E8 6942,2F8E9 2F8E9 69A3,2F8EA 2F8EA 69EA,2F8EB 2F8EB 6AA8,2F8EC 2F8EC 236A3",
     "2F8ED 2F8ED 6ADB,2F8EE 2F8EE 3C18,2F8EF 2F8EF 6B21,2F8F0 2F8F0 238A7,2F8F1 2F8F1 6B54",
     "2F8F2 2F8F2 3C4E,2F8F3 2F8F3 6B72,2F8F4 2F8F4 6B9F,2F8F5 2F8F6 6BBA,2F8F7 2F8F7 23A8D",
     "2F8F8 2F8F8 21D0B,2F8F9 2F8F9 23AFA,2F8FA 2F8FA 6C4E,2F8FB 2F8FB 23CBC,2F8FC 2F8FC 6CBF",
     "2F8FD 2F8FD 6CCD,2F8FE 2F8FE 6C67,2F8FF 2F8FF 6D16,2F900 2F900 6D3E,2F901 2F901 6D77",
     "2F902 2F902 6D41,2F903 2F903 6D69,2F904 2F904 6D78,2F905 2F905 6D85,2F906 2F906 23D1E",
     "2F907 2F907 6D34,2F908 2F908 6E2F,2F909 2F909 6E6E,2F90A 2F90A 3D33,2F90B 2F90B 6ECB",
     "2F90C 2F90C 6EC7,2F90D 2F90D 23ED1,2F90E 2F90E 6DF9,2F90F 2F90F 6F6E,2F910 2F910 23F5E",
     "2F911 2F911 23F8E,2F912 2F912 6FC6,2F913 2F913 7039,2F914 2F914 701E,2F915 2F915 701B",
     "2F916 2F916 3D96,2F917 2F917 704A,2F918 2F918 707D,2F919 2F919 7077,2F91A 2F91A 70AD",
     "2F91B 2F91B 20525,2F91C 2F91C 7145,2F91D 2F91D 24263,2F91E 2F91E 719C,2F91F 2F91F 243AB",
     "2F920 2F920 7228,2F921 2F921 7235,2F922 2F922 7250,2F923 2F923 24608,2F924 2F924 7280",
     "2F925 2F925 7295,2F926 2F926 24735,2F927 2F927 24814,2F928 2F928 737A,2F929 2F929 738B",
     "2F92A 2F92A 3EAC,2F92B 2F92B 73A5,2F92C 2F92C 3EB8,2F92D 2F92D 3EB8,2F92E 2F92E 7447",
     "2F92F 2F92F 745C,2F930 2F930 7471,2F931 2F931 7485,2F932 2F932 74CA,2F933 2F933 3F1B",
     "2F934 2F934 7524,2F935 2F935 24C36,2F936 2F936 753E,2F937 2F937 24C92,2F938 2F938 7570",
     "2F939 2F939 2219F,2F93A 2F93A 7610,2F93B 2F93B 24FA1,2F93C 2F93C 24FB8,2F93D 2F93D 25044",
     "2F93E 2F93E 3FFC,2F93F 2F93F 4008,2F940 2F940 76F4,2F941 2F941 250F3,2F942 2F942 250F2",
     "2F943 2F943 25119,2F944 2F944 25133,2F945 2F946 771E,2F947 2F947 771F,2F948 2F948 774A",
     "2F949 2F949 4039,2F94A 2F94A 778B,2F94B 2F94B 4046,2F94C 2F94C 4096,2F94D 2F94D 2541D",
     "2F94E 2F94E 784E,2F94F 2F94F 788C,2F950 2F950 78CC,2F951 2F951 40E3,2F952 2F952 25626",
     "2F953 2F953 7956,2F954 2F954 2569A,2F955 2F955 256C5,2F956 2F956 798F,2F957 2F957 79EB",
     "2F958 2F958 412F,2F959 2F959 7A40,2F95A 2F95A 7A4A,2F95B 2F95B 7A4F,2F95C 2F95C 2597C",
     "2F95D 2F95D 25AA7,2F95E 2F95E 25AA7,2F95F 2F95F 7AEE,2F960 2F960 4202,2F961 2F961 25BAB",
     "2F962 2F962 7BC6,2F963 2F963 7BC9,2F964 2F964 4227,2F965 2F965 25C80,2F966 2F966 7CD2",
     "2F967 2F967 42A0,2F968 2F968 7CE8,2F969 2F969 7CE3,2F96A 2F96A 7D00,2F96B 2F96B 25F86",
     "2F96C 2F96C 7D63,2F96D 2F96D 4301,2F96E 2F96E 7DC7,2F96F 2F96F 7E02,2F970 2F970 7E45",
     "2F971 2F971 4334,2F972 2F972 26228,2F973 2F973 26247,2F974 2F974 4359,2F975 2F975 262D9",
     "2F976 2F976 7F7A,2F977 2F977 2633E,2F978 2F978 7F95,2F979 2F979 7FFA,2F97A 2F97A 8005",
     "2F97B 2F97B 264DA,2F97C 2F97C 26523,2F97D 2F97D 8060,2F97E 2F97E 265A8,2F97F 2F97F 8070",
     "2F980 2F980 2335F,2F981 2F981 43D5,2F982 2F982 80B2,2F983 2F983 8103,2F984 2F984 440B",
     "2F985 2F985 813E,2F986 2F986 5AB5,2F987 2F987 267A7,2F988 2F988 267B5,2F989 2F989 23393",
     "2F98A 2F98A 2339C,2F98B 2F98B 8201,2F98C 2F98C 8204,2F98D 2F98D 8F9E,2F98E 2F98E 446B",
     "2F98F 2F98F 8291,2F990 2F990 828B,2F991 2F991 829D,2F992 2F992 52B3,2F993 2F993 82B1",
     "2F994 2F994 82B3,2F995 2F995 82BD,2F996 2F996 82E6,2F997 2F997 26B3C,2F998 2F998 82E5",
     "2F999 2F999 831D,2F99A 2F99A 8363,2F99B 2F99B 83AD,2F99C 2F99C 8323,2F99D 2F99D 83BD",
     "2F99E 2F99E 83E7,2F99F 2F99F 8457,2F9A0 2F9A0 8353,2F9A1 2F9A1 83CA,2F9A2 2F9A2 83CC",
     "2F9A3 2F9A3 83DC,2F9A4 2F9A4 26C36,2F9A5 2F9A5 26D6B,2F9A6 2F9A6 26CD5,2F9A7 2F9A7 452B",
     "2F9A8 2F9A8 84F1,2F9A9 2F9A9 84F3,2F9AA 2F9AA 8516,2F9AB 2F9AB 273CA,2F9AC 2F9AC 8564",
     "2F9AD 2F9AD 26F2C,2F9AE 2F9AE 455D,2F9AF 2F9AF 4561,2F9B0 2F9B0 26FB1,2F9B1 2F9B1 270D2",
     "2F9B2 2F9B2 456B,2F9B3 2F9B3 8650,2F9B4 2F9B4 865C,2F9B5 2F9B5 8667,2F9B6 2F9B6 8669",
     "2F9B7 2F9B7 86A9,2F9B8 2F9B8 8688,2F9B9 2F9B9 870E,2F9BA 2F9BA 86E2,2F9BB 2F9BB 8779",
     "2F9BC 2F9BC 8728,2F9BD 2F9BD 876B,2F9BE 2F9BE 8786,2F9BF 2F9BF 45D7,2F9C0 2F9C0 87E1",
     "2F9C1 2F9C1 8801,2F9C2 2F9C2 45F9,2F9C3 2F9C3 8860,2F9C4 2F9C4 8863,2F9C5 2F9C5 27667",
     "2F9C6 2F9C6 88D7,2F9C7 2F9C7 88DE,2F9C8 2F9C8 4635,2F9C9 2F9C9 88FA,2F9CA 2F9CA 34BB",
     "2F9CB 2F9CB 278AE,2F9CC 2F9CC 27966,2F9CD 2F9CD 46BE,2F9CE 2F9CE 46C7,2F9CF 2F9CF 8AA0",
     "2F9D0 2F9D0 8AED,2F9D1 2F9D1 8B8A,2F9D2 2F9D2 8C55,2F9D3 2F9D3 27CA8,2F9D4 2F9D4 8CAB",
     "2F9D5 2F9D5 8CC1,2F9D6 2F9D6 8D1B,2F9D7 2F9D7 8D77,2F9D8 2F9D8 27F2F,2F9D9 2F9D9 20804",
     "2F9DA 2F9DA 8DCB,2F9DB 2F9DB 8DBC,2F9DC 2F9DC 8DF0,2F9DD 2F9DD 208DE,2F9DE 2F9DE 8ED4",
     "2F9DF 2F9DF 8F38,2F9E0 2F9E0 285D2,2F9E1 2F9E1 285ED,2F9E2 2F9E2 9094,2F9E3 2F9E3 90F1",
     "2F9E4 2F9E4 9111,2F9E5 2F9E5 2872E,2F9E6 2F9E6 911B,2F9E7 2F9E7 9238,2F9E8 2F9E9 92D7",
     "2F9EA 2F9EA 927C,2F9EB 2F9EB 93F9,2F9EC 2F9EC 9415,2F9ED 2F9ED 28BFA,2F9EE 2F9EE 958B",
     "2F9EF 2F9EF 4995,2F9F0 2F9F0 95B7,2F9F1 2F9F1 28D77,2F9F2 2F9F2 49E6,2F9F3 2F9F3 96C3",
     "2F9F4 2F9F4 5DB2,2F9F5 2F9F5 9723,2F9F6 2F9F6 29145,2F9F7 2F9F7 2921A,2F9F8 2F9F8 4A6E",
     "2F9F9 2F9F9 4A76,2F9FA 2F9FA 97E0,2F9FB 2F9FB 2940A,2F9FC 2F9FC 4AB2,2F9FD 2F9FD 29496",
     "2F9FE 2F9FE 980B,2F9FF 2F9FF 980B,2FA00 2FA00 9829,2FA01 2FA01 295B6,2FA02 2FA02 98E2",
     "2FA03 2FA03 4B33,2FA04 2FA04 9929,2FA05 2FA05 99A7,2FA06 2FA06 99C2,2FA07 2FA07 99FE",
     "2FA08 2FA08 4BCE,2FA09 2FA09 29B30,2FA0A 2FA0A 9B12,2FA0B 2FA0B 9C40,2FA0C 2FA0C 9CFD",
     "2FA0D 2FA0D 4CCE,2FA0E 2FA0E 4CED,2FA0F 2FA0F 9D67,2FA10 2FA10 2A0CE,2FA11 2FA11 4CF8",
     "2FA12 2FA12 2A105,2FA13 2FA13 2A20E,2FA14 2FA14 2A291,2FA15 2FA15 9EBB,2FA16 2FA16 4D56",
     "2FA17 2FA17 9EF9,2FA18 2FA18 9EFE,2FA19 2FA19 9F05,2FA1A 2FA1A 9F0F,2FA1B 2FA1B 9F16",
     "2FA1C 2FA1C 9F3B,2FA1D 2FA1D 2A600"]
  sequences :=
    []

end NodeWorkflow.Decomposition
