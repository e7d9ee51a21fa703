import Polymatch.Unicode.Partition

/-! # Age

The edition of the character data, up to edition 16, in which a code point was
first assigned.
-/

namespace Polymatch.Unicode

/-- The editions along the code points, each with its run length: two digits of the edition, one
digit of the revision, or a blank label. -/
def ageRuns : List String :=
  ["0111f6 0304 0111e 0308 0321 0401 03012 0403 041b 050e 01159 0305 0402 0112f 0301 011a 0305",
   "04011 01146 0309 0321 0408 0415 0403 0112 0301 032d 0514 0112 0512 ---2 0111 0503 0111 0701",
   "---4 0117 ---1 0111 ---1 01114 ---1 0112c 0511 0117 0301 0322 0111 0301 0111 0301 0111 0301",
   "0111 0301 01112 0312 0321 0405 0414 0301 011c 0301 01142 0301 011c 0301 01129 0511 0302 0322",
   "0304 01135 0322 0112 0322 0112 0322 0501 0111c 0302 0118 0412 0112 0506 03210 0504 05110",
   "0522 0602 0708 ---1 01126 ---2 0117 1101 01127 1101 0111 0301 ---2 0702 0611 ---1 02011 0411",
   "020d 011a 0501 0119 0201 0413 ---8 0111b ---4 1101 0115 ---b 0404 0611 0701 0515 0411 0111",
   "0409 0515 0111 0631 1401 0411 0111 0601 0111a 0515 01113 0303 0403 0416 0601 011e 0322 01148",
   "0302 0115 0301 011f 0301 0111e 0402 011a 0305 0401 030e ---1 0301e 0403 0301b ---2 0403",
   "0411e 05112 03031 0321 ---e 0503b ---2 1103 0522e ---2 052f ---1 0601c ---2 0601 ---1 100b",
   "---5 1401f ---1 1402 ---5 1601 1408 0611 0701 061b 0706 0802 1401 0908 130a 140b 1101 090f",
   "0801 0611b 0701 0521 0113 0401 01135 0602 01112 0521 0601 0115 0521 0602 01119 0512 0605",
   "0701 0522 0502 0411 0502 0701 0113 ---1 0118 ---2 0112 ---2 01116 ---1 0117 ---1 0111 ---3",
   "0114 ---2 0111 0401 0117 ---2 0112 ---2 0113 0411 ---8 0111 ---4 0112 ---1 0115 ---2 01115",
   "0521 1002 1101 ---2 0401 0111 0401 ---1 0116 ---4 0112 ---2 01116 ---1 0117 ---1 0112 ---1",
   "0112 ---1 0112 ---2 0111 ---1 0115 ---4 0112 ---2 0113 ---3 0511 ---7 0114 ---1 0111 ---7",
   "011f 0511 1101 ---a 0113 ---1 0117 0401 0111 ---1 0113 ---1 01116 ---1 0117 ---1 0112 ---1",
   "0115 ---2 011a ---1 0113 ---1 0113 ---2 0111 ---f 0111 0403 ---2 011a 0611 0401 ---7 0801",
   "1006 ---1 0113 ---1 0118 ---2 0112 ---2 01116 ---1 0117 ---1 0112 ---1 0401 0114 ---2 0118",
   "0511 ---2 0112 ---2 0113 ---7 1301 0112 ---4 0112 ---1 0113 0512 ---2 011b 0401 0606 ---a",
   "0112 ---1 0116 ---3 0113 ---1 0114 ---3 0112 ---1 0111 ---1 0112 ---3 0112 ---3 0113 ---3",
   "0118 0411 0113 ---4 0115 ---3 0113 ---1 0114 ---2 0511 ---6 0111 ---e 0411 011c 0408 ---5",
   "0701 0113 1101 0118 ---1 0113 ---1 01117 ---1 011a 0701 0115 ---2 1401 0511 0117 ---1 0113",
   "---1 0114 ---7 0112 ---1 0512 0801 ---2 1401 ---2 0112 0512 ---2 011a ---7 1201 0518 0901",
   "0701 0112 1101 0118 ---1 0113 ---1 01117 ---1 011a ---1 0115 ---2 0402 0117 ---1 0113 ---1",
   "0114 ---7 0112 ---6 1401 0111 ---1 0112 0502 ---2 011a ---1 0502 1501 ---c 1001 0701 0112",
   "1301 0118 ---1 0113 ---1 01117 0601 01110 0601 1002 0511 0116 0511 ---1 0113 ---1 0114 0601",
   "0901 ---4 0903 0111 0907 0801 0112 0512 ---2 011a 0516 0903 0517 ---1 1301 0302 ---1 03012",
   "---3 03018 ---1 0309 ---1 0301 ---2 0307 ---3 0301 ---4 0306 ---1 0301 ---1 0308 ---6 070a",
   "---2 0303 ---c 0113a ---4 0111d ---25 0112 ---1 0111 ---1 1201 0112 1201 0111 ---1 1201 0111",
   "1206 0114 1201 0117 1201 0113 ---1 0111 ---1 0111 1202 0112 1201 011d 1201 0113 ---2 0115",
   "---1 0111 ---1 0116 1501 ---1 011a ---2 0112 0612 ---20 02048 ---1 02021 0301 0512 ---4",
   "0201b 0604 0206 0301 0201 ---1 02015 0303 0207 0301 0201 0303 ---1 030f ---1 0511 0301 0412",
   "0513 0524 0602 ---25 03022 0511 0305 0511 0302 0511 0307 0513 0304 0516 0301a 05140 0524",
   "0512 01126 ---1 0611 ---5 0611 ---2 01127 0322 0412 0111 0411 0613 0115a 0525 01144 0525",
   "01152 0526 0307 0411 0303f 0411 0301 ---1 0304 ---2 0307 ---1 0301 ---1 0304 ---2 03027 0411",
   "0301 ---1 0304 ---2 0301f 0411 0301 ---1 0304 ---2 0307 ---1 0301 ---1 0304 ---2 0307 0411",
   "0307 ---1 03017 0411 0301f 0411 0301 ---1 0304 ---2 0307 0411 03027 0411 03013 ---2 0602",
   "0412 0301c ---3 0411a ---6 03055 0801 ---2 0806 ---2 0521 030276 0529 0301d ---3 03051 0708",
   "---7 032d 1401 0327 1401 ---9 1401 03217 ---9 03214 ---c 032d ---1 0323 ---1 0322 ---c 0305d",
   "0401 ---2 030a ---6 040a ---6 030f 1401 030a ---6 03058 1101 ---7 0302a 0511 ---5 05246 ---a",
   "0401d 0702 ---1 040c ---4 040c ---4 0401 ---3 0402a ---2 0405 ---b 0412a 0522 ---4 0411a",
   "---6 041a 0521 ---3 0412 04020 0411c ---2 0412 0523f ---1 0521d ---2 052b ---6 052a ---6",
   "052e ---2 070f 1302 140e ---31 0504c 1401 ---1 1602 0502d 1402 1601 0512b 0613 051c 0616",
   "06034 ---8 0604 05138 ---3 051f ---3 05133 0909 1602 ---5 1102b ---2 1103 0618 ---8 05223",
   "0614 1001 0702 1201 ---5 0406c 04158 0507 0511c 070f 1004 1401 0901 0601 0521 0502 0119b",
   "0201 0514 0115a 0516 01116 ---2 0116 ---2 01126 ---2 0116 ---2 0118 ---1 0111 ---1 0111 ---1",
   "0111 ---1 0111f ---2 01135 ---1 011f ---1 011e ---2 0116 ---1 01113 ---2 0113 ---1 0119 ---1",
   "0112f 0301 01117 0321 0306 0325 0402 0412 0321 0417 0325 0511 ---1 0634 0117 0321 ---2 0111b",
   "---1 0415 0608 ---3 011b 0201 0211 0303 0322 0414 0523 0601 0621 0703 0801 1001 1401 ---f",
   "01112 0302 0327 0411 0504 0511 ---f 01139 0302 0401 0411 032f 0411 0502 0511 0523 01130 0301",
   "0501 0514 0521 0802 ---4 0115b 0309 032c 011f2 032e 0111 0301 01179 0301 0321 0301e 03234",
   "0402 041b 050c 0521 060b 0707 0904 1001 01125 0302 1603 ---16 011b ---15 0118b 03214 0401",
   "01196 032a 01150 0308 0328 01114 0402 0322 0411 0301 01156 0302 032c 0412 032a 0408 041b",
   "0511 0522 0402 04110 0501 051a 0523 0514 052a 0601 05213 0601 0521 0604 05218 0701 0114 0601",
   "0114 0602 0111c 0601 01123 0601 0111 0601 0114 0603 0111 0521 0117 0602 0117 032e 0111f 0603",
   "01118 0601 011e 0601 0417 0504 0611 0511 0611 0602 0321c 0514 03210 030100 032200 040e 0416",
   "0507 0515 0504 05129 0703 0515 0525 0701a ---2 07020 ---1 1301 07022 1103 070c 1201 0708",
   "1001 11019 0804 110f 1201 0412f 1401 0412f 1401 050d 0513 0521 0513 0504 0516 0522 0416b",
   "0527 0612 ---5 0412d ---1 0611 ---5 0611 ---2 04136 0612 ---7 0411 0601 ---e 0601 04117 ---9",
   "0417 ---1 0417 ---1 0417 ---1 0417 ---1 0417 ---1 0417 ---1 0417 ---1 0417 ---1 05120 04118",
   "0514 0412 05113 0521 061a 0707 0902 1005 1105 1201 1303 140b ---22 0301a ---1 03059 ---c",
   "030d6 ---1a 030c 1514 01138 0303 0323 0301 0111 ---1 01154 0322 ---2 0116 0322 0115e 0321",
   "---5 01128 0511 1001 1101 ---1 0115e ---1 01110 03018 0603 1305 04110 05114 1602 ---9 1511",
   "03210 0111d 0402 ---1 01124 052c 0401 032f 0111c 0402 0411 01132 032f 011c 0404 0112f 1211",
   "01177 0404 01163 0402 0111f 0401 03019b6 130a 04040 01151a6 04116 0518 0528 0611 0809 10015",
   "1105 130d 1403 03048d ---3 03012 0322 03010 0321 030c 0321 0303 0321 0301 ---9 05230 05112c",
   "---14 05120 0602 05112 0618 0511c 0706 0801 0611 05258 ---8 04117 0504 0515 0502 0516b 0602",
   "0801 0602 0612 070c 060a 0611 0703 0901 1101 0702 0806 1102 1206 1402 1205 1304 1603 ---2",
   "1402 ---1 1401 ---1 1405 1603 ---15 1403 1302 0701 0612 0601 0515 0412c 1301 ---3 052a ---6",
   "05038 ---8 05145 0901 ---8 051c ---6 0521c 0802 1102 05154 ---b 0511 0521d ---3 0524e ---1",
   "052b ---4 0522 0701f ---1 05137 ---9 051e ---2 051a ---2 0514 0521c 0704 05243 ---18 0525",
   "06117 ---a 0606 ---2 0606 ---2 0606 ---9 0607 ---1 0607 ---1 07030 0804 0702 1202 1304 ---4",
   "08050 0522e ---2 052a ---6 0202ba4 ---c 05217 ---4 05231 ---804 0111a2e 0612 0323b 0523 ---2",
   "0416a ---26 0117 ---c 0115 ---5 0301 01119 ---1 0115 ---1 0111 ---1 0112 ---1 0112 ---1",
   "0116c 06010 1401 ---10 01116d 14010 01140 ---2 01136 ---7 1401 03120 011c 0321 0401 1402",
   "03210 041a ---6 0114 0513 0707 0802 01115 0322 0402 011a ---1 01113 ---1 0114 ---4 0113 0321",
   "0111 ---1 01187 ---2 0111 ---1 0115e 0322 0115e ---3 0116 ---2 0116 ---2 0116 ---2 0113 ---3",
   "0117 ---1 0117 ---a 0303 0211 0113 040c ---1 0401a ---1 04013 ---1 0402 ---1 040f ---2 040e",
   "---22 0407b ---5 0403 ---4 0402d ---3 0409 0414b 0702 0902 ---1 051c 1301 ---3 0701 ---2f",
   "0512e ---82 0511d ---3 05131 ---f 0701c ---4 0311f 0701 0314 ---9 1003 0311b ---5 0702b ---5",
   "0401e ---1 0401 04124 ---4 041e ---2a 03126 0402 03126 04050 ---2 040a ---6 09024 ---4 09024",
   "---4 07028 ---8 07034 ---b 0701 140b ---1 140f ---1 1407 ---1 1402 ---1 140b ---1 140f ---1",
   "1407 ---1 1402 ---3 16034 ---c 070137 ---9 07016 ---a 0708 ---18 1406 ---1 1402a ---1 1409",
   "---45 0406 ---2 0401 ---1 0402c ---1 0402 ---3 0401 ---2 0401 05216 ---1 0529 0703f ---8",
   "0709 ---30 08013 ---1 0802 ---5 0805 0501a 0522 ---3 0501 0511a ---5 0511 ---40 06138 ---4",
   "0802 0612 08010 ---2 0802e 0414 ---1 0412 ---5 0418 ---1 0413 ---1 0411b 1102 ---2 0413 ---4",
   "0419 1101 ---7 0419 ---7 05220 07020 ---20 07027 ---4 070c ---9 05236 ---3 0521d ---2 0521b",
   "---5 0528 07012 ---7 0704 ---c 0707 ---50 05249 ---37 08033 ---d 08033 ---7 0806 11028 ---8",
   "110a ---6 16026 ---3 1601d ---8 1602 ---d0 0521f ---1 1302a ---1 1303 ---2 1302 ---10 1603",
   "---37 1601 1503 11028 ---8 1102a ---16 1401a ---26 1301c ---14 12017 ---9 0604e ---4 0601e",
   "1406 ---9 0701 05242 1401 ---a 1101 ---2 06119 ---7 061a ---6 06135 ---1 061e 1103 1301 ---8",
   "07027 ---9 06149 0804 0701 1302 061a 0701 0805 ---1 07014 ---b 07012 ---1 0702b 0901 1503",
   "---3e 0807 ---1 0801 ---1 0804 ---1 080f ---1 080b ---6 0703b ---5 070a ---6 0801 0703 ---1",
   "0708 ---2 0702 ---2 07016 ---1 0707 ---1 0702 ---1 0705 ---1 1101 0709 ---2 0702 ---2 0703",
   "---2 0801 ---6 0701 ---5 0707 ---2 0707 ---3 0705 ---b 160a ---1 1601 ---2 1601 ---1 16026",
   "---1 160a ---1 1601 ---2 1601 ---1 1604 ---1 160a ---1 1602 ---8 1602 ---1d 0905a 1301 0901",
   "---1 0901 1101 1201 1302 ---1e 07048 ---8 070a ---a6 07036 ---2 07012 08014 ---22 07045 ---b",
   "070a ---6 090d ---13 06138 1201 1401 ---6 061a ---6 16014 ---1c 0801a 1101 ---2 080f ---4",
   "08010 1407 ---b9 1103c ---64 07053 ---c 0701 1307 ---2 1301 ---2 1308 ---1 1302 ---1 1301e",
   "---1 1302 ---2 130c ---9 130a ---46 1208 ---2 1202e ---2 120b ---1b 10048 ---8 10034 1202",
   "10017 1101 1005 ---d 14010 07039 ---7 150a ---b6 16022 ---e 160a ---6 0909 ---1 0902d ---1",
   "090e ---a 0901d ---3 09020 ---2 09016 ---1 090e ---49 1007 ---1 1002 ---1 1002c ---3 1001",
   "---1 1002 ---1 1009 ---8 100a ---6 1106 ---1 1102 ---1 11025 ---1 1102 ---1 1106 ---7 110a",
   "---136 11019 ---7 15011 ---1 15029 ---3 1501c 1601 ---55 1301 ---f 12032 ---d 1201 05036f",
   "0702a 0801 ---66 05063 070c ---1 0504 0701 ---b 080c4 ---a4c 14063 ---d 05242f 1501 1209",
   "1501d ---a 160f9b ---5 080247 ---1ab9 1603a ---6c6 060239 ---7 0701f ---1 070a ---4 0702",
   "1404f ---1 140a ---6 0701e ---2 0706 ---a 07046 ---a 070a ---1 0707 ---1 07015 ---5 07013",
   "---1b0 1603a ---c6 1105b ---65 06145 1206 ---4 1201 0612f 1209 ---7 06111 ---40 0901 1001",
   "1202 1301 ---b 1302 ---e 09017ed 1105 1206 ---8 0902f3 1301e3 ---29 1601 1309 ---22e7 1404",
   "---1 1407 ---1 1402 ---1 0602 10011d 1404 ---f 1501 ---1d 1203 ---2 1501 ---e 1204 ---8",
   "10018c ---904 0706b ---5 070d ---3 0709 ---7 070a ---2 0708 ---f5c 160fa ---6 1601b4 ---4c",
   "1402e ---2 14017 ---9 14074 ---3c 031f6 ---a 03127 ---2 0511 031b4 080b 1402 ---15 04146",
   "---7a 15014 ---c 11014 ---c 04057 ---9 05012 1107 ---87 03155 ---1 03147 ---1 0312 ---2 0311",
   "---2 0312 ---2 0314 ---1 031c ---1 0311 ---1 0314 0401 0312 ---1 03141 ---1 0314 ---2 0318",
   "---1 0317 ---1 0311c ---1 0314 ---1 0315 ---1 0311 ---3 0317 ---1 031152 0412 ---2 031122",
   "0502 ---2 03132 08028c ---f 0805 ---1 080f ---450 1401f ---6 1506 ---d5 0907 ---1 09011 ---2",
   "0907 ---1 0902 ---1 0905 ---5 1503e ---21 1501 ---70 1202d ---3 120e ---2 120a ---4 1202",
   "---140 1401f ---11 1203a ---5 1201 ---1d0 1502a ---d6 1602b ---4 1601 ---1e0 1407 ---1 1404",
   "---1 1402 ---1 140f ---1 070c5 ---2 07010 ---29 0904b 1201 ---4 090a ---4 0902 ---311 11044",
   "---4c 1203d ---c2 0614 ---1 0611b ---1 0612 ---1 0611 ---2 0611 ---1 061a ---1 0614 ---1",
   "0611 ---1 0611 ---6 0611 ---4 0611 ---1 0611 ---1 0611 ---1 0613 ---1 0612 ---1 0611 ---2",
   "0611 ---1 0611 ---1 0611 ---1 0611 ---1 0611 ---1 0612 ---1 0611 ---2 0614 ---1 0617 ---1",
   "0614 ---1 0614 ---1 0611 ---1 061a ---1 06111 ---5 0613 ---1 0615 ---1 06111 ---34 0612",
   "---10e 0512c ---4 05164 ---c 060f ---2 060e 0701 ---1 060f ---1 060f 07016 ---a 052b 0702",
   "1303 0521f 1101 0601 0521 060b 0521 0601 0521 0602 0521 0603 0521 0603 0525 0608 0521 0607",
   "0521 060a 0612 1201 1303 0609 0521 0601 0522 0602 0521 060a 0524 0602 0521 060a 09012 1301",
   "---38 0601a 0521 0602 ---d 05222 0609 0901 ---4 0529 ---7 0602 ---e 1006 ---9a 06021 070c",
   "0803 0606 0701 06046 0701 0802 06014 070c 06025 0701 0605 0704 0805 070c 06011 0707 0808",
   "0603f 0701 0601 0701 060b6 0701 0604 0702 0801 0603e 0702 0614 0707 0805 06018 07012 0901",
   "07029 0901 07056 0605 0611 06010 0611 0603 0611 0601 0611 0601 0611 0601 0611 0603 0611 0606",
   "0612 0604 0611 0601 0612 0604 0611 060c 0702 0802 060b 07030 06046 070a 0801 0902 1002 1201",
   "1302 ---4 1501 1403 070d ---3 0704 0903 1002 1101 1201 1302 ---3 06074 1503 ---4 1505 07055",
   "1104 1501 ---6 120c ---4 1401 ---f 070c ---4 07038 ---8 070a ---6 07028 ---8 0701e ---2 1302",
   "160a ---4 1602 ---3e 100c 1301 1203 0809 0906 1001 0908 1008 0901 1002 090c 1201 090c 1001",
   "1103 090f 100d 1105 1201 1301 1104 1302 1401 1101 1201 1104 0805 090d 1006 110b 1302 1206",
   "1303 1202 110a 1206 0801 1102 1208 1301 1401 1203 10017 11019 12054 ---c 110e ---2 1204 1301",
   "1503 1203 1402 ---3 1203 1304 1502 1601 ---5 1601 1206 13013 1404 1503 1307 1404 1503 1601",
   "1501 1303 1403 1601 ---7 1502 1307 1403 1502 1601 ---2 1601 1408 1501 1601 ---6 1407 1502",
   "---7 13093 ---1 13037 16025 130a ---404 0202 031a6d7 1307 1402 ---20 0521035 1404 1501 ---6",
   "060de ---2 0801682 ---e 1001d31 ---f 15126e ---9a2 03121e ---5e0 0202 130134b ---5 1501060",
   "---dc4e 0202 ---fffe 0202 ---fffe 0202 ---fffe 0202 ---fffe 0202 ---fffe 0202 ---fffe 0202",
   "---fffe 0202 ---fffe 0202 ---fffe 0202 ---fffe 0202 ---1 0311 ---1e 03160 ---80 040f0",
   "---fe0e 02020002"]

/-- The division by age; the names are in order of appearance. -/
def age : Partition where
  stretches := taggedRuns 3 ageRuns
  names :=
    [(["1.1", "v11"], ["011"]),
     (["2.0", "v20"], ["020"]),
     (["2.1", "v21"], ["021"]),
     (["3.0", "v30"], ["030"]),
     (["3.1", "v31"], ["031"]),
     (["3.2", "v32"], ["032"]),
     (["4.0", "v40"], ["040"]),
     (["4.1", "v41"], ["041"]),
     (["5.0", "v50"], ["050"]),
     (["5.1", "v51"], ["051"]),
     (["5.2", "v52"], ["052"]),
     (["6.0", "v60"], ["060"]),
     (["6.1", "v61"], ["061"]),
     (["6.2", "v62"], ["062"]),
     (["6.3", "v63"], ["063"]),
     (["7.0", "v70"], ["070"]),
     (["8.0", "v80"], ["080"]),
     (["9.0", "v90"], ["090"]),
     (["10.0", "v100"], ["100"]),
     (["11.0", "v110"], ["110"]),
     (["12.0", "v120"], ["120"]),
     (["12.1", "v121"], ["121"]),
     (["13.0", "v130"], ["130"]),
     (["14.0", "v140"], ["140"]),
     (["15.0", "v150"], ["150"]),
     (["15.1", "v151"], ["151"]),
     (["16.0", "v160"], ["160"])]

/-- The code points assigned in the edition of a folded name or earlier. -/
def assignedBy? (name : String) : Option (List Interval) :=
  (age.names.findIdx? (·.1.contains name)).map fun i =>
    age.members ((age.names.take (i + 1)).flatMap (·.2))

end Polymatch.Unicode
