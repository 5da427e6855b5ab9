import NodeWorkflow.Text.Decomposition.Block

/-!
# Decompositions of presentation forms

Ligatures, forms of Arabic and Hebrew letters by position, half width and full width forms.
-/

namespace NodeWorkflow.Decomposition

/-- Presentation forms, half width and full width. -/
def presentation : Block where
  first := 0xFB00
  last := 0xFFFF
  runs :=
    ["FB20 FB20 5E2,FB21 FB21 5D0,FB22 FB23 5D3,FB24 FB26 5DB,FB27 FB27 5E8,FB28 FB28 5EA",
     "FB29 FB29 2B,FB50 FB50 671,FB51 FB51 671,FB52 FB52 67B,FB53 FB53 67B,FB54 FB54 67B",
     "FB55 FB55 67B,FB56 FB56 67E,FB57 FB57 67E,FB58 FB58 67E,FB59 FB59 67E,FB5A FB5A 680",
     "FB5B FB5B 680,FB5C FB5C 680,FB5D FB5D 680,FB5E FB5E 67A,FB5F FB5F 67A,FB60 FB60 67A",
     "FB61 FB61 67A,FB62 FB62 67F,FB63 FB63 67F,FB64 FB64 67F,FB65 FB65 67F,FB66 FB66 679",
     "FB67 FB67 679,FB68 FB68 679,FB69 FB69 679,FB6A FB6A 6A4,FB6B FB6B 6A4,FB6C FB6C 6A4",
     "FB6D FB6D 6A4,FB6E FB6E 6A6,FB6F FB6F 6A6,FB70 FB70 6A6,FB71 FB71 6A6,FB72 FB72 684",
     "FB73 FB73 684,FB74 FB74 684,FB75 FB75 684,FB76 FB76 683,FB77 FB77 683,FB78 FB78 683",
     "FB79 FB79 683,FB7A FB7A 686,FB7B FB7B 686,FB7C FB7C 686,FB7D FB7E 686,FB7F FB7F 687",
     "FB80 FB80 687,FB81 FB81 687,FB82 FB82 68D,FB83 FB83 68D,FB84 FB84 68C,FB85 FB85 68C",
     "FB86 FB86 68E,FB87 FB87 68E,FB88 FB88 688,FB89 FB89 688,FB8A FB8A 698,FB8B FB8B 698",
     "FB8C FB8C 691,FB8D FB8D 691,FB8E FB8E 6A9,FB8F FB8F 6A9,FB90 FB90 6A9,FB91 FB91 6A9",
     "FB92 FB92 6AF,FB93 FB93 6AF,FB94 FB94 6AF,FB95 FB95 6AF,FB96 FB96 6B3,FB97 FB97 6B3",
     "FB98 FB98 6B3,FB99 FB99 6B3,FB9A FB9A 6B1,FB9B FB9B 6B1,FB9C FB9C 6B1,FB9D FB9D 6B1",
     "FB9E FB9E 6BA,FB9F FBA0 6BA,FBA1 FBA1 6BB,FBA2 FBA2 6BB,FBA3 FBA3 6BB,FBA6 FBA6 6C1",
     "FBA7 FBA7 6C1,FBA8 FBA8 6C1,FBA9 FBA9 6C1,FBAA FBAA 6BE,FBAB FBAB 6BE,FBAC FBAC 6BE",
     "FBAD FBAD 6BE,FBAE FBAE 6D2,FBAF FBAF 6D2,FBD3 FBD3 6AD,FBD4 FBD4 6AD,FBD5 FBD5 6AD",
     "FBD6 FBD6 6AD,FBD7 FBD7 6C7,FBD8 FBD8 6C7,FBD9 FBD9 6C6,FBDA FBDA 6C6,FBDB FBDB 6C8",
     "FBDC FBDC 6C8,FBDE FBDE 6CB,FBDF FBDF 6CB,FBE0 FBE0 6C5,FBE1 FBE1 6C5,FBE2 FBE2 6C9",
     "FBE3 FBE3 6C9,FBE4 FBE4 6D0,FBE5 FBE5 6D0,FBE6 FBE6 6D0,FBE7 FBE7 6D0,FBE8 FBE8 649",
     "FBE9 FBE9 649,FBFC FBFC 6CC,FBFD FBFD 6CC,FBFE FBFE 6CC,FBFF FBFF 6CC,FE10 FE10 2C",
     "FE11 FE12 3001,FE13 FE14 3A,FE15 FE15 21,FE16 FE16 3F,FE17 FE18 3016,FE31 FE31 2014",
     "FE32 FE32 2013,FE33 FE33 5F,FE34 FE34 5F,FE35 FE36 28,FE37 FE37 7B,FE38 FE38 7D",
     "FE39 FE3A 3014,FE3B FE3C 3010,FE3D FE3E 300A,FE3F FE40 3008,FE41 FE44 300C,FE47 FE47 5B",
     "FE48 FE48 5D,FE4D FE4D 5F,FE4E FE4E 5F,FE4F FE4F 5F,FE50 FE50 2C,FE51 FE51 3001",
     "FE52 FE52 2E,FE54 FE54 3B,FE55 FE55 3A,FE56 FE56 3F,FE57 FE57 21,FE58 FE58 2014",
     "FE59 FE5A 28,FE5B FE5B 7B,FE5C FE5C 7D,FE5D FE5E 3014,FE5F FE5F 23,FE60 FE60 26",
     "FE61 FE62 2A,FE63 FE63 2D,FE64 FE64 3C,FE65 FE65 3E,FE66 FE66 3D,FE68 FE68 5C",
     "FE69 FE6A 24,FE6B FE6B 40,FE80 FE80 621,FE8D FE8D 627,FE8E FE8F 627,FE90 FE90 628",
     "FE91 FE91 628,FE92 FE93 628,FE94 FE95 629,FE96 FE96 62A,FE97 FE97 62A,FE98 FE99 62A",
     "FE9A FE9A 62B,FE9B FE9B 62B,FE9C FE9D 62B,FE9E FE9E 62C,FE9F FE9F 62C,FEA0 FEA1 62C",
     "FEA2 FEA2 62D,FEA3 FEA3 62D,FEA4 FEA5 62D,FEA6 FEA6 62E,FEA7 FEA7 62E,FEA8 FEA9 62E",
     "FEAA FEAB 62F,FEAC FEAD 630,FEAE FEAF 631,FEB0 FEB1 632,FEB2 FEB2 633,FEB3 FEB3 633",
     "FEB4 FEB5 633,FEB6 FEB6 634,FEB7 FEB7 634,FEB8 FEB9 634,FEBA FEBA 635,FEBB FEBB 635",
     "FEBC FEBD 635,FEBE FEBE 636,FEBF FEBF 636,FEC0 FEC1 636,FEC2 FEC2 637,FEC3 FEC3 637",
     "FEC4 FEC5 637,FEC6 FEC6 638,FEC7 FEC7 638,FEC8 FEC9 638,FECA FECA 639,FECB FECB 639",
     "FECC FECD 639,FECE FECE 63A,FECF FECF 63A,FED0 FED0 63A,FED1 FED1 641,FED2 FED2 641",
     "FED3 FED3 641,FED4 FED5 641,FED6 FED6 642,FED7 FED7 642,FED8 FED9 642,FEDA FEDA 643",
     "FEDB FEDB 643,FEDC FEDD 643,FEDE FEDE 644,FEDF FEDF 644,FEE0 FEE1 644,FEE2 FEE2 645",
     "FEE3 FEE3 645,FEE4 FEE5 645,FEE6 FEE6 646,FEE7 FEE7 646,FEE8 FEE9 646,FEEA FEEA 647",
     "FEEB FEEB 647,FEEC FEED 647,FEEE FEEF 648,FEF0 FEF1 649,FEF2 FEF2 64A,FEF3 FEF3 64A",
     "FEF4 FEF4 64A,FF01 FF5E 21,FF5F FF60 2985,FF61 FF61 3002,FF62 FF63 300C,FF64 FF64 3001",
     "FF65 FF65 30FB,FF66 FF66 30F2,FF67 FF67 30A1,FF68 FF68 30A3,FF69 FF69 30A5,FF6A FF6A 30A7",
     "FF6B FF6B 30A9,FF6C FF6C 30E3,FF6D FF6D 30E5,FF6E FF6E 30E7,FF6F FF6F 30C3,FF70 FF70 30FC",
     "FF71 FF71 30A2,FF72 FF72 30A4,FF73 FF73 30A6,FF74 FF74 30A8,FF75 FF76 30AA,FF77 FF77 30AD",
     "FF78 FF78 30AF,FF79 FF79 30B1,FF7A FF7A 30B3,FF7B FF7B 30B5,FF7C FF7C 30B7,FF7D FF7D 30B9",
     "FF7E FF7E 30BB,FF7F FF7F 30BD,FF80 FF80 30BF,FF81 FF81 30C1,FF82 FF82 30C4,FF83 FF83 30C6",
     "FF84 FF84 30C8,FF85 FF8A 30CA,FF8B FF8B 30D2,FF8C FF8C 30D5,FF8D FF8D 30D8,FF8E FF8E 30DB",
     "FF8F FF93 30DE,FF94 FF94 30E4,FF95 FF95 30E6,FF96 FF9B 30E8,FF9C FF9C 30EF,FF9D FF9D 30F3",
     "FF9E FF9F 3099,FFA0 FFA0 1160,FFA1 FFA2 1100,FFA3 FFA3 11AA,FFA4 FFA4 1102,FFA5 FFA6 11AC",
     "FFA7 FFA9 1103,FFAA FFAF 11B0,FFB0 FFB0 111A,FFB1 FFB3 1106,FFB4 FFB4 1121,FFB5 FFBE 1109",
     "FFC2 FFC7 1161,FFCA FFCF 1167,FFD2 FFD7 116D,FFDA FFDC 1173,FFE0 FFE1 A2,FFE2 FFE2 AC",
     "FFE4 FFE4 A6,FFE5 FFE5 A5,FFE6 FFE6 20A9,FFE8 FFE8 2502,FFE9 FFEC 2190,FFED FFED 25A0",
     "FFEE FFEE 25CB"]
  sequences :=
    ["FB00 66 66,FB01 66 69,FB02 66 6C,FB03 66 66 69,FB04 66 66 6C,FB05 73 74,FB06 73 74",
     "FB13 574 576,FB14 574 565,FB15 574 56B,FB16 57E 576,FB17 574 56D,FB1D 5D9 5B4",
     "FB1F 5F2 5B7,FB2A 5E9 5C1,FB2B 5E9 5C2,FB2C 5E9 5BC 5C1,FB2D 5E9 5BC 5C2,FB2E 5D0 5B7",
     "FB2F 5D0 5B8,FB30 5D0 5BC,FB31 5D1 5BC,FB32 5D2 5BC,FB33 5D3 5BC,FB34 5D4 5BC",
     "FB35 5D5 5BC,FB36 5D6 5BC,FB38 5D8 5BC,FB39 5D9 5BC,FB3A 5DA 5BC,FB3B 5DB 5BC",
     "FB3C 5DC 5BC,FB3E 5DE 5BC,FB40 5E0 5BC,FB41 5E1 5BC,FB43 5E3 5BC,FB44 5E4 5BC",
     "FB46 5E6 5BC,FB47 5E7 5BC,FB48 5E8 5BC,FB49 5E9 5BC,FB4A 5EA 5BC,FB4B 5D5 5B9",
     "FB4C 5D1 5BF,FB4D 5DB 5BF,FB4E 5E4 5BF,FB4F 5D0 5DC,FBA4 6D5 654,FBA5 6D5 654",
     "FBB0 6D2 654,FBB1 6D2 654,FBDD 6C7 674,FBEA 64A 654 627,FBEB 64A 654 627,FBEC 64A 654 6D5",
     "FBED 64A 654 6D5,FBEE 64A 654 648,FBEF 64A 654 648,FBF0 64A 654 6C7,FBF1 64A 654 6C7",
     "FBF2 64A 654 6C6,FBF3 64A 654 6C6,FBF4 64A 654 6C8,FBF5 64A 654 6C8,FBF6 64A 654 6D0",
     "FBF7 64A 654 6D0,FBF8 64A 654 6D0,FBF9 64A 654 649,FBFA 64A 654 649,FBFB 64A 654 649",
     "FC00 64A 654 62C,FC01 64A 654 62D,FC02 64A 654 645,FC03 64A 654 649,FC04 64A 654 64A",
     "FC05 628 62C,FC06 628 62D,FC07 628 62E,FC08 628 645,FC09 628 649,FC0A 628 64A",
     "FC0B 62A 62C,FC0C 62A 62D,FC0D 62A 62E,FC0E 62A 645,FC0F 62A 649,FC10 62A 64A",
     "FC11 62B 62C,FC12 62B 645,FC13 62B 649,FC14 62B 64A,FC15 62C 62D,FC16 62C 645",
     "FC17 62D 62C,FC18 62D 645,FC19 62E 62C,FC1A 62E 62D,FC1B 62E 645,FC1C 633 62C",
     "FC1D 633 62D,FC1E 633 62E,FC1F 633 645,FC20 635 62D,FC21 635 645,FC22 636 62C",
     "FC23 636 62D,FC24 636 62E,FC25 636 645,FC26 637 62D,FC27 637 645,FC28 638 645",
     "FC29 639 62C,FC2A 639 645,FC2B 63A 62C,FC2C 63A 645,FC2D 641 62C,FC2E 641 62D",
     "FC2F 641 62E,FC30 641 645,FC31 641 649,FC32 641 64A,FC33 642 62D,FC34 642 645",
     "FC35 642 649,FC36 642 64A,FC37 643 627,FC38 643 62C,FC39 643 62D,FC3A 643 62E",
     "FC3B 643 644,FC3C 643 645,FC3D 643 649,FC3E 643 64A,FC3F 644 62C,FC40 644 62D",
     "FC41 644 62E,FC42 644 645,FC43 644 649,FC44 644 64A,FC45 645 62C,FC46 645 62D",
     "FC47 645 62E,FC48 645 645,FC49 645 649,FC4A 645 64A,FC4B 646 62C,FC4C 646 62D",
     "FC4D 646 62E,FC4E 646 645,FC4F 646 649,FC50 646 64A,FC51 647 62C,FC52 647 645",
     "FC53 647 649,FC54 647 64A,FC55 64A 62C,FC56 64A 62D,FC57 64A 62E,FC58 64A 645",
     "FC59 64A 649,FC5A 64A 64A,FC5B 630 670,FC5C 631 670,FC5D 649 670,FC5E 20 64C 651",
     "FC5F 20 64D 651,FC60 20 64E 651,FC61 20 64F 651,FC62 20 650 651,FC63 20 651 670",
     "FC64 64A 654 631,FC65 64A 654 632,FC66 64A 654 645,FC67 64A 654 646,FC68 64A 654 649",
     "FC69 64A 654 64A,FC6A 628 631,FC6B 628 632,FC6C 628 645,FC6D 628 646,FC6E 628 649",
     "FC6F 628 64A,FC70 62A 631,FC71 62A 632,FC72 62A 645,FC73 62A 646,FC74 62A 649",
     "FC75 62A 64A,FC76 62B 631,FC77 62B 632,FC78 62B 645,FC79 62B 646,FC7A 62B 649",
     "FC7B 62B 64A,FC7C 641 649,FC7D 641 64A,FC7E 642 649,FC7F 642 64A,FC80 643 627",
     "FC81 643 644,FC82 643 645,FC83 643 649,FC84 643 64A,FC85 644 645,FC86 644 649",
     "FC87 644 64A,FC88 645 627,FC89 645 645,FC8A 646 631,FC8B 646 632,FC8C 646 645",
     "FC8D 646 646,FC8E 646 649,FC8F 646 64A,FC90 649 670,FC91 64A 631,FC92 64A 632",
     "FC93 64A 645,FC94 64A 646,FC95 64A 649,FC96 64A 64A,FC97 64A 654 62C,FC98 64A 654 62D",
     "FC99 64A 654 62E,FC9A 64A 654 645,FC9B 64A 654 647,FC9C 628 62C,FC9D 628 62D,FC9E 628 62E",
     "FC9F 628 645,FCA0 628 647,FCA1 62A 62C,FCA2 62A 62D,FCA3 62A 62E,FCA4 62A 645",
     "FCA5 62A 647,FCA6 62B 645,FCA7 62C 62D,FCA8 62C 645,FCA9 62D 62C,FCAA 62D 645",
     "FCAB 62E 62C,FCAC 62E 645,FCAD 633 62C,FCAE 633 62D,FCAF 633 62E,FCB0 633 645",
     "FCB1 635 62D,FCB2 635 62E,FCB3 635 645,FCB4 636 62C,FCB5 636 62D,FCB6 636 62E",
     "FCB7 636 645,FCB8 637 62D,FCB9 638 645,FCBA 639 62C,FCBB 639 645,FCBC 63A 62C",
     "FCBD 63A 645,FCBE 641 62C,FCBF 641 62D,FCC0 641 62E,FCC1 641 645,FCC2 642 62D",
     "FCC3 642 645,FCC4 643 62C,FCC5 643 62D,FCC6 643 62E,FCC7 643 644,FCC8 643 645",
     "FCC9 644 62C,FCCA 644 62D,FCCB 644 62E,FCCC 644 645,FCCD 644 647,FCCE 645 62C",
     "FCCF 645 62D,FCD0 645 62E,FCD1 645 645,FCD2 646 62C,FCD3 646 62D,FCD4 646 62E",
     "FCD5 646 645,FCD6 646 647,FCD7 647 62C,FCD8 647 645,FCD9 647 670,FCDA 64A 62C",
     "FCDB 64A 62D,FCDC 64A 62E,FCDD 64A 645,FCDE 64A 647,FCDF 64A 654 645,FCE0 64A 654 647",
     "FCE1 628 645,FCE2 628 647,FCE3 62A 645,FCE4 62A 647,FCE5 62B 645,FCE6 62B 647",
     "FCE7 633 645,FCE8 633 647,FCE9 634 645,FCEA 634 647,FCEB 643 644,FCEC 643 645",
     "FCED 644 645,FCEE 646 645,FCEF 646 647,FCF0 64A 645,FCF1 64A 647,FCF2 640 64E 651",
     "FCF3 640 64F 651,FCF4 640 650 651,FCF5 637 649,FCF6 637 64A,FCF7 639 649,FCF8 639 64A",
     "FCF9 63A 649,FCFA 63A 64A,FCFB 633 649,FCFC 633 64A,FCFD 634 649,FCFE 634 64A",
     "FCFF 62D 649,FD00 62D 64A,FD01 62C 649,FD02 62C 64A,FD03 62E 649,FD04 62E 64A",
     "FD05 635 649,FD06 635 64A,FD07 636 649,FD08 636 64A,FD09 634 62C,FD0A 634 62D",
     "FD0B 634 62E,FD0C 634 645,FD0D 634 631,FD0E 633 631,FD0F 635 631,FD10 636 631",
     "FD11 637 649,FD12 637 64A,FD13 639 649,FD14 639 64A,FD15 63A 649,FD16 63A 64A",
     "FD17 633 649,FD18 633 64A,FD19 634 649,FD1A 634 64A,FD1B 62D 649,FD1C 62D 64A",
     "FD1D 62C 649,FD1E 62C 64A,FD1F 62E 649,FD20 62E 64A,FD21 635 649,FD22 635 64A",
     "FD23 636 649,FD24 636 64A,FD25 634 62C,FD26 634 62D,FD27 634 62E,FD28 634 645",
     "FD29 634 631,FD2A 633 631,FD2B 635 631,FD2C 636 631,FD2D 634 62C,FD2E 634 62D",
     "FD2F 634 62E,FD30 634 645,FD31 633 647,FD32 634 647,FD33 637 645,FD34 633 62C",
     "FD35 633 62D,FD36 633 62E,FD37 634 62C,FD38 634 62D,FD39 634 62E,FD3A 637 645",
     "FD3B 638 645,FD3C 627 64B,FD3D 627 64B,FD50 62A 62C 645,FD51 62A 62D 62C,FD52 62A 62D 62C",
     "FD53 62A 62D 645,FD54 62A 62E 645,FD55 62A 645 62C,FD56 62A 645 62D,FD57 62A 645 62E",
     "FD58 62C 645 62D,FD59 62C 645 62D,FD5A 62D 645 64A,FD5B 62D 645 649,FD5C 633 62D 62C",
     "FD5D 633 62C 62D,FD5E 633 62C 649,FD5F 633 645 62D,FD60 633 645 62D,FD61 633 645 62C",
     "FD62 633 645 645,FD63 633 645 645,FD64 635 62D 62D,FD65 635 62D 62D,FD66 635 645 645",
     "FD67 634 62D 645,FD68 634 62D 645,FD69 634 62C 64A,FD6A 634 645 62E,FD6B 634 645 62E",
     "FD6C 634 645 645,FD6D 634 645 645,FD6E 636 62D 649,FD6F 636 62E 645,FD70 636 62E 645",
     "FD71 637 645 62D,FD72 637 645 62D,FD73 637 645 645,FD74 637 645 64A,FD75 639 62C 645",
     "FD76 639 645 645,FD77 639 645 645,FD78 639 645 649,FD79 63A 645 645,FD7A 63A 645 64A",
     "FD7B 63A 645 649,FD7C 641 62E 645,FD7D 641 62E 645,FD7E 642 645 62D,FD7F 642 645 645",
     "FD80 644 62D 645,FD81 644 62D 64A,FD82 644 62D 649,FD83 644 62C 62C,FD84 644 62C 62C",
     "FD85 644 62E 645,FD86 644 62E 645,FD87 644 645 62D,FD88 644 645 62D,FD89 645 62D 62C",
     "FD8A 645 62D 645,FD8B 645 62D 64A,FD8C 645 62C 62D,FD8D 645 62C 645,FD8E 645 62E 62C",
     "FD8F 645 62E 645,FD92 645 62C 62E,FD93 647 645 62C,FD94 647 645 645,FD95 646 62D 645",
     "FD96 646 62D 649,FD97 646 62C 645,FD98 646 62C 645,FD99 646 62C 649,FD9A 646 645 64A",
     "FD9B 646 645 649,FD9C 64A 645 645,FD9D 64A 645 645,FD9E 628 62E 64A,FD9F 62A 62C 64A",
     "FDA0 62A 62C 649,FDA1 62A 62E 64A,FDA2 62A 62E 649,FDA3 62A 645 64A,FDA4 62A 645 649",
     "FDA5 62C 645 64A,FDA6 62C 62D 649,FDA7 62C 645 649,FDA8 633 62E 649,FDA9 635 62D 64A",
     "FDAA 634 62D 64A,FDAB 636 62D 64A,FDAC 644 62C 64A,FDAD 644 645 64A,FDAE 64A 62D 64A",
     "FDAF 64A 62C 64A,FDB0 64A 645 64A,FDB1 645 645 64A,FDB2 642 645 64A,FDB3 646 62D 64A",
     "FDB4 642 645 62D,FDB5 644 62D 645,FDB6 639 645 64A,FDB7 643 645 64A,FDB8 646 62C 62D",
     "FDB9 645 62E 64A,FDBA 644 62C 645,FDBB 643 645 645,FDBC 644 62C 645,FDBD 646 62C 62D",
     "FDBE 62C 62D 64A,FDBF 62D 62C 64A,FDC0 645 62C 64A,FDC1 641 645 64A,FDC2 628 62D 64A",
     "FDC3 643 645 645,FDC4 639 62C 645,FDC5 635 645 645,FDC6 633 62E 64A,FDC7 646 62C 64A",
     "FDF0 635 644 6D2,FDF1 642 644 6D2,FDF2 627 644 644 647,FDF3 627 643 628 631",
     "FDF4 645 62D 645 62F,FDF5 635 644 639 645,FDF6 631 633 648 644,FDF7 639 644 64A 647",
     "FDF8 648 633 644 645,FDF9 635 644 649",
     "FDFA 635 644 649 20 627 644 644 647 20 639 644 64A 647 20 648 633 644 645",
     "FDFB 62C 644 20 62C 644 627 644 647,FDFC 631 6CC 627 644,FE19 2E 2E 2E,FE30 2E 2E",
     "FE49 20 305,FE4A 20 305,FE4B 20 305,FE4C 20 305,FE70 20 64B,FE71 640 64B,FE72 20 64C",
     "FE74 20 64D,FE76 20 64E,FE77 640 64E,FE78 20 64F,FE79 640 64F,FE7A 20 650,FE7B 640 650",
     "FE7C 20 651,FE7D 640 651,FE7E 20 652,FE7F 640 652,FE81 627 653,FE82 627 653,FE83 627 654",
     "FE84 627 654,FE85 648 654,FE86 648 654,FE87 627 655,FE88 627 655,FE89 64A 654",
     "FE8A 64A 654,FE8B 64A 654,FE8C 64A 654,FEF5 644 627 653,FEF6 644 627 653,FEF7 644 627 654",
     "FEF8 644 627 654,FEF9 644 627 655,FEFA 644 627 655,FEFB 644 627,FEFC 644 627,FFE3 20 304"]

end NodeWorkflow.Decomposition
