import Polymatch.Unicode.Partition

/-! # Word breaks

What a code point means to the bounds of words. Code points without a meaning
have a label of dots.
-/

namespace Polymatch.Unicode

/-- The classes along the code points, each with its run length. -/
def wordBreakRuns : List String :=
  ["...a LF.1 NL.2 CR.1 ...12 WSS1 ...1 DQ.1 ...4 SQ.1 ...4 MN.1 ...1 MB.1 ...1 NU.a ML.1 MN.1",
   "...5 LE.1a ...4 EX.1 ...1 LE.1a ...a NL.1 ...24 LE.1 ...2 FO.1 ...7 LE.1 ...1 ML.1 ...2 LE.1",
   "...5 LE.17 ...1 LE.1f ...1 LE.1e0 ...6 LE.22 Ext70 LE.5 ...1 LE.2 ...2 LE.4 MN.1 LE.1 ...6",
   "LE.1 ML.1 LE.3 ...1 LE.1 ...1 LE.14 ...1 LE.53 ...1 LE.8b ...1 Ext7 LE.a6 ...1 LE.26 ...2",
   "LE.4 ...1 LE.1 ML.1 LE.29 MN.1 LE.1 ...6 Ext2d ...1 Ext1 ...1 Ext2 ...1 Ext2 ...1 Ext1 ...8",
   "HL.1b ...4 HL.4 LE.1 ML.1 ...b NU.6 ...6 MN.2 ...2 Extb ...1 FO.1 ...3 LE.2b Ext15 NU.a ...1",
   "NU.1 MN.1 ...1 LE.2 Ext1 LE.63 ...1 LE.1 Ext7 NU.1 ...1 Ext6 LE.2 Ext2 ...1 Ext4 LE.2 NU.a",
   "LE.3 ...2 LE.1 ...f LE.2 Ext1 LE.1e Ext1b ...2 LE.59 Extb LE.1 ...e NU.a LE.21 Ext9 LE.2",
   "...2 MN.1 ...1 LE.1 ...2 Ext1 ...2 LE.16 Ext4 LE.1 Ext9 LE.1 Ext3 LE.1 Ext5 ...12 LE.19 Ext3",
   "...4 LE.b ...5 LE.18 ...1 LE.6 ...1 NU.2 ...5 Ext9 LE.2a Ext18 NU.1 Ext21 LE.36 Ext3 LE.1",
   "Ext12 LE.1 Ext7 LE.a Ext2 ...2 NU.a ...1 LE.10 Ext3 ...1 LE.8 ...2 LE.2 ...2 LE.16 ...1 LE.7",
   "...1 LE.1 ...3 LE.4 ...2 Ext1 LE.1 Ext7 ...2 Ext2 ...2 Ext3 LE.1 ...8 Ext1 ...4 LE.2 ...1",
   "LE.3 Ext2 ...2 NU.a LE.2 ...a LE.1 ...1 Ext1 ...2 Ext3 ...1 LE.6 ...4 LE.2 ...2 LE.16 ...1",
   "LE.7 ...1 LE.2 ...1 LE.2 ...1 LE.2 ...2 Ext1 ...1 Ext5 ...4 Ext2 ...2 Ext3 ...3 Ext1 ...7",
   "LE.4 ...1 LE.1 ...7 NU.a Ext2 LE.3 Ext1 ...b Ext3 ...1 LE.9 ...1 LE.3 ...1 LE.16 ...1 LE.7",
   "...1 LE.2 ...1 LE.5 ...2 Ext1 LE.1 Ext8 ...1 Ext3 ...1 Ext3 ...2 LE.1 ...f LE.2 Ext2 ...2",
   "NU.a ...9 LE.1 Ext6 ...1 Ext3 ...1 LE.8 ...2 LE.2 ...2 LE.16 ...1 LE.7 ...1 LE.2 ...1 LE.5",
   "...2 Ext1 LE.1 Ext7 ...2 Ext2 ...2 Ext3 ...7 Ext3 ...4 LE.2 ...1 LE.3 Ext2 ...2 NU.a ...1",
   "LE.1 ...10 Ext1 LE.1 ...1 LE.6 ...3 LE.3 ...1 LE.4 ...3 LE.2 ...1 LE.1 ...1 LE.2 ...3 LE.2",
   "...3 LE.3 ...3 LE.c ...4 Ext5 ...3 Ext3 ...1 Ext4 ...2 LE.1 ...6 Ext1 ...e NU.a ...10 Ext5",
   "LE.8 ...1 LE.3 ...1 LE.17 ...1 LE.10 ...2 Ext1 LE.1 Ext7 ...1 Ext3 ...1 Ext4 ...7 Ext2 ...1",
   "LE.3 ...2 LE.1 ...2 LE.2 Ext2 ...2 NU.a ...10 LE.1 Ext3 ...1 LE.8 ...1 LE.3 ...1 LE.17 ...1",
   "LE.a ...1 LE.5 ...2 Ext1 LE.1 Ext7 ...1 Ext3 ...1 Ext4 ...7 Ext2 ...6 LE.2 ...1 LE.2 Ext2",
   "...2 NU.a ...1 LE.2 Ext1 ...c Ext4 LE.9 ...1 LE.3 ...1 LE.29 Ext2 LE.1 Ext7 ...1 Ext3 ...1",
   "Ext4 LE.1 ...5 LE.3 Ext1 ...7 LE.3 Ext2 ...2 NU.a ...a LE.6 ...1 Ext3 ...1 LE.12 ...3 LE.18",
   "...1 LE.9 ...1 LE.1 ...2 LE.7 ...3 Ext1 ...4 Ext6 ...1 Ext1 ...1 Ext8 ...6 NU.a ...2 Ext2",
   "...3d Ext1 ...2 Ext7 ...c Ext8 ...1 NU.a ...57 Ext1 ...2 Ext9 ...b Ext7 ...1 NU.a ...26 LE.1",
   "...17 Ext2 ...6 NU.a ...b Ext1 ...1 Ext1 ...1 Ext1 ...4 Ext2 LE.8 ...1 LE.24 ...4 Ext14 ...1",
   "Ext2 LE.5 Extb ...1 Ext24 ...9 Ext1 ...64 Ext14 ...1 NU.a ...c Ext4 ...4 Ext3 ...1 Ext3 ...2",
   "Ext7 ...3 Ext4 ...d Extc ...1 Ext1 NU.a Ext4 ...2 LE.26 ...1 LE.1 ...5 LE.1 ...2 LE.2b ...1",
   "LE.14d ...1 LE.4 ...2 LE.7 ...1 LE.1 ...1 LE.4 ...2 LE.29 ...1 LE.4 ...2 LE.21 ...1 LE.4",
   "...2 LE.7 ...1 LE.1 ...1 LE.4 ...2 LE.f ...1 LE.39 ...1 LE.4 ...2 LE.43 ...2 Ext3 ...20",
   "LE.10 ...10 LE.56 ...2 LE.6 ...3 LE.26c ...2 LE.11 WSS1 LE.1a ...5 LE.4b ...3 LE.b ...7",
   "LE.12 Ext4 ...9 LE.13 Ext3 ...b LE.12 Ext2 ...c LE.d ...1 LE.3 ...1 Ext2 ...40 Ext20 ...9",
   "Ext1 ...2 NU.a ...21 Ext3 FO.1 Ext1 NU.a ...6 LE.59 ...7 LE.5 Ext2 LE.22 Ext1 LE.1 ...5",
   "LE.46 ...a LE.1f ...1 Extc ...4 Extc ...a NU.a ...80 NU.b ...25 LE.17 Ext5 ...39 Exta ...1",
   "Ext1d ...2 Ext1 NU.a ...6 NU.a ...16 Ext1f ...31 Ext5 LE.2f Ext11 LE.8 ...3 NU.a ...11 Ext9",
   "...c Ext3 LE.1e Extd LE.2 NU.a LE.2c Exte ...c LE.24 Ext14 ...8 NU.a ...3 LE.3 NU.a LE.24",
   "...2 LE.b ...5 LE.2b ...2 LE.3 ...10 Ext3 ...1 Ext15 LE.4 Ext1 LE.6 Ext1 LE.2 Ext3 LE.1 ...5",
   "LE.c0 Ext40 LE.116 ...2 LE.6 ...2 LE.26 ...2 LE.6 ...2 LE.8 ...1 LE.1 ...1 LE.1 ...1 LE.1",
   "...1 LE.1f ...2 LE.35 ...1 LE.7 ...1 LE.1 ...3 LE.3 ...1 LE.7 ...3 LE.4 ...2 LE.6 ...4 LE.d",
   "...5 LE.3 ...1 LE.7 ...3 WSS7 ...1 WSS3 ...1 Ext1 ZWJ1 FO.2 ...8 MB.2 ...a MB.1 ...2 ML.1",
   "NL.2 FO.5 EX.1 ...f EX.2 ...3 MN.1 ...f EX.1 ...a WSS1 FO.5 ...1 FO.a ...1 LE.1 ...d LE.1",
   "...10 LE.d ...33 Ext21 ...11 LE.1 ...4 LE.1 ...2 LE.a ...1 LE.1 ...3 LE.5 ...6 LE.1 ...1",
   "LE.1 ...1 LE.1 ...1 LE.4 ...1 LE.b ...2 LE.4 ...5 LE.5 ...4 LE.1 ...11 LE.29 ...32d LE.34",
   "...716 LE.e5 ...6 LE.4 Ext3 LE.2 ...c LE.26 ...1 LE.1 ...5 LE.1 ...2 LE.38 ...7 LE.1 ...f",
   "Ext1 LE.17 ...9 LE.7 ...1 LE.7 ...1 LE.7 ...1 LE.7 ...1 LE.7 ...1 LE.7 ...1 LE.7 ...1 LE.7",
   "...1 Ext20 ...2f LE.1 ...1d0 WSS1 ...4 LE.1 ...24 Ext6 ...1 KA.5 ...5 LE.2 ...5c Ext2 KA.2",
   "...3 KA.5b ...1 KA.4 ...5 LE.2b ...1 LE.5e ...11 LE.20 ...30 KA.10 ...d0 KA.2f ...1 KA.58",
   "...6ca8 LE.48d ...43 LE.2e ...2 LE.10d ...3 LE.10 NU.a LE.2 ...14 LE.2f Ext4 ...1 Exta ...1",
   "LE.1f Ext2 LE.50 Ext2 ...16 LE.c6 ...2 LE.2 ...1 LE.1 ...1 LE.8 ...15 LE.10 Ext1 LE.3 Ext1",
   "LE.4 Ext1 LE.17 Ext5 ...4 Ext1 ...13 LE.34 ...c Ext2 LE.32 Ext12 ...a NU.a ...6 Ext12 LE.6",
   "...3 LE.1 ...1 LE.2 Ext1 NU.a LE.1c Ext8 ...2 LE.17 Extd ...c LE.1d ...3 Ext4 LE.2f Exte",
   "...e LE.1 NU.a ...b Ext1 ...a NU.a ...6 LE.29 Exte ...9 LE.3 Ext1 LE.8 Ext2 ...2 NU.a ...21",
   "Ext3 ...32 Ext1 ...1 Ext3 ...2 Ext2 ...5 Ext2 ...1 Ext1 ...1e LE.b Ext5 ...2 LE.3 Ext2 ...a",
   "LE.6 ...2 LE.6 ...2 LE.6 ...9 LE.7 ...1 LE.7 ...1 LE.3a ...6 LE.73 Ext8 ...1 Ext2 ...2 NU.a",
   "...6 LE.2ba4 ...c LE.17 ...4 LE.31 ...2304 LE.7 ...c LE.5 ...5 HL.1 Ext1 HL.a ...1 HL.d ...1",
   "HL.5 ...1 HL.1 ...1 HL.2 ...1 HL.2 ...1 HL.a LE.62 ...21 LE.16b ...12 LE.40 ...2 LE.36 ...28",
   "LE.c ...4 Ext10 ...3 ML.1 ...c Ext10 ...3 EX.2 ...18 EX.3 MN.1 ...1 MB.1 ...1 MN.1 ML.1",
   "...1a LE.5 ...1 LE.87 ...2 FO.1 ...7 MB.1 ...4 MN.1 ...1 MB.1 ...1 NU.a ML.1 MN.1 ...5 LE.1a",
   "...4 EX.1 ...1 LE.1a ...b KA.38 Ext2 LE.1f ...3 LE.6 ...2 LE.6 ...2 LE.6 ...2 LE.3 ...1c",
   "FO.3 ...4 LE.c ...1 LE.1a ...1 LE.13 ...1 LE.2 ...1 LE.f ...2 LE.e ...22 LE.7b ...45 LE.35",
   "...88 Ext1 ...82 LE.1d ...3 LE.31 ...f Ext1 ...1f LE.20 ...d LE.1e ...5 LE.26 Ext5 ...5",
   "LE.1e ...2 LE.24 ...4 LE.8 ...1 LE.5 ...2a LE.9e ...2 NU.a ...6 LE.24 ...4 LE.24 ...4 LE.28",
   "...8 LE.34 ...c LE.b ...1 LE.f ...1 LE.7 ...1 LE.2 ...1 LE.b ...1 LE.f ...1 LE.7 ...1 LE.2",
   "...3 LE.34 ...c LE.137 ...9 LE.16 ...a LE.8 ...18 LE.6 ...1 LE.2a ...1 LE.9 ...45 LE.6 ...2",
   "LE.1 ...1 LE.2c ...1 LE.2 ...3 LE.1 ...2 LE.17 ...a LE.17 ...9 LE.1f ...41 LE.13 ...1 LE.2",
   "...a LE.16 ...a LE.1a ...46 LE.38 ...6 LE.2 ...40 LE.1 Ext3 ...1 Ext2 ...5 Ext4 LE.4 ...1",
   "LE.3 ...1 LE.1d ...2 Ext3 ...4 Ext1 ...20 LE.1d ...3 LE.1d ...23 LE.8 ...1 LE.1c Ext2 ...19",
   "LE.36 ...a LE.16 ...a LE.13 ...d LE.12 ...6e LE.49 ...37 LE.33 ...d LE.33 ...d LE.24 Ext4",
   "...8 NU.a ...6 NU.a LE.1c ...3 Ext5 ...1 LE.17 ...fa LE.2a ...1 Ext2 ...3 LE.2 ...10 LE.3",
   "...37 Ext4 LE.1d ...a LE.1 ...8 LE.16 Extb ...1f LE.12 Ext4 ...2a LE.15 ...1b LE.17 ...9",
   "Ext3 LE.35 Extf ...1f NU.a Ext1 LE.2 Ext2 LE.1 ...9 Ext4 LE.2d Extb ...2 NU.1 ...4 Ext1 ...a",
   "NU.1 ...2 LE.19 ...7 NU.a ...6 Ext3 LE.24 Exte ...1 NU.a ...4 LE.1 Ext2 LE.1 ...8 LE.23 Ext1",
   "...2 LE.1 ...9 Ext3 LE.30 Exte LE.4 ...4 Ext4 ...1 Ext2 NU.a LE.1 ...1 LE.1 ...23 LE.12 ...1",
   "LE.19 Extc ...6 Ext1 LE.2 Ext1 ...3e LE.7 ...1 LE.1 ...1 LE.4 ...1 LE.f ...1 LE.a ...7 LE.2f",
   "Extc ...5 NU.a ...6 Ext4 ...1 LE.8 ...2 LE.2 ...2 LE.16 ...1 LE.7 ...1 LE.2 ...1 LE.5 ...1",
   "Ext2 LE.1 Ext7 ...2 Ext2 ...2 Ext3 ...2 LE.1 ...6 Ext1 ...5 LE.5 Ext2 ...2 Ext7 ...3 Ext5",
   "...b LE.a ...1 LE.1 ...2 LE.1 ...1 LE.26 ...1 LE.1 Ext9 ...1 Ext1 ...2 Ext1 ...1 Ext4 ...1",
   "Ext5 LE.1 Ext1 LE.1 ...d Ext2 ...1d LE.35 Ext12 LE.4 ...5 NU.a ...4 Ext1 LE.3 ...1e LE.30",
   "Ext14 LE.2 ...1 LE.1 ...8 NU.a ...a6 LE.2f Ext7 ...2 Ext9 ...17 LE.4 Ext2 ...22 LE.30 Ext11",
   "...3 LE.1 ...b NU.a ...26 LE.2b Extd LE.1 ...7 NU.a ...6 NU.14 ...39 Extf ...4 NU.a ...c6",
   "LE.2c Extf ...65 LE.40 NU.a ...15 LE.8 ...2 LE.1 ...2 LE.8 ...1 LE.2 ...1 LE.18 Ext6 ...1",
   "Ext2 ...2 Ext4 LE.1 Ext1 LE.1 Ext2 ...c NU.a ...46 LE.8 ...2 LE.27 Ext7 ...2 Ext7 LE.1 ...1",
   "LE.1 Ext1 ...1b LE.1 Exta LE.28 Ext7 LE.1 Ext4 ...8 Ext1 ...8 LE.1 Extb LE.2e Ext10 ...3",
   "LE.1 ...12 LE.49 ...c7 LE.21 ...f NU.a ...6 LE.9 ...1 LE.25 Ext8 ...1 Ext8 LE.1 ...f NU.a",
   "...18 LE.1e ...2 Ext16 ...1 Exte ...49 LE.7 ...1 LE.2 ...1 LE.26 Ext6 ...3 Ext1 ...1 Ext2",
   "...1 Ext7 LE.1 Ext1 ...8 NU.a ...6 LE.6 ...1 LE.2 ...1 LE.20 Ext5 ...1 Ext2 ...1 Ext5 LE.1",
   "...7 NU.a ...136 LE.13 Ext4 ...9 Ext2 LE.1 Ext1 LE.d ...1 LE.22 Ext7 ...3 Ext5 ...d NU.a",
   "Ext1 ...55 LE.1 ...4f LE.39a ...66 LE.6f ...11 LE.c4 ...a4c LE.61 ...f LE.430 FO.10 Ext1",
   "LE.6 Extf ...a LE.f9b ...5 LE.247 ...1ab9 LE.1e Ext12 NU.a ...6c6 LE.239 ...7 LE.1f ...1",
   "NU.a ...6 LE.4f ...1 NU.a ...6 LE.1e ...2 Ext5 ...b LE.30 Ext7 ...9 LE.4 ...c NU.a ...9",
   "LE.15 ...5 LE.13 ...1b0 LE.2d ...3 NU.a ...c6 LE.40 ...80 LE.4b ...4 Ext1 LE.1 Ext37 ...7",
   "Ext4 LE.d ...40 LE.2 ...1 LE.1 Ext1 ...b Ext2 ...3ffe KA.4 ...1 KA.7 ...1 KA.2 ...1 KA.1",
   "...11f KA.3 ...32 KA.1 ...e KA.4 ...a98 LE.6b ...5 LE.d ...3 LE.9 ...7 LE.a ...3 Ext2 ...1",
   "FO.4 ...104c NU.a ...206 Ext2e ...2 Ext17 ...21e Ext5 ...3 Ext6 FO.8 Ext8 ...2 Ext7 ...1e",
   "Ext4 ...94 Ext3 ...1bb LE.55 ...1 LE.47 ...1 LE.2 ...2 LE.1 ...2 LE.2 ...2 LE.4 ...1 LE.c",
   "...1 LE.1 ...1 LE.7 ...1 LE.41 ...1 LE.4 ...2 LE.8 ...1 LE.7 ...1 LE.1c ...1 LE.4 ...1 LE.5",
   "...1 LE.1 ...3 LE.7 ...1 LE.154 ...2 LE.19 ...1 LE.19 ...1 LE.1f ...1 LE.19 ...1 LE.1f ...1",
   "LE.19 ...1 LE.1f ...1 LE.19 ...1 LE.1f ...1 LE.19 ...1 LE.8 ...2 NU.32 ...200 Ext37 ...4",
   "Ext32 ...8 Ext1 ...e Ext1 ...16 Ext5 ...1 Extf ...450 LE.1f ...6 LE.6 ...d5 Ext7 ...1 Ext11",
   "...2 Ext7 ...1 Ext2 ...1 Ext5 ...5 LE.3e ...21 Ext1 ...70 LE.2d ...3 Ext7 LE.7 ...2 NU.a",
   "...4 LE.1 ...141 LE.1e Ext1 ...11 LE.2c Ext4 NU.a ...1d6 LE.1c Ext4 NU.a ...d6 LE.1e Ext2",
   "LE.1 NU.a ...1e5 LE.7 ...1 LE.4 ...1 LE.2 ...1 LE.f ...1 LE.c5 ...b Ext7 ...29 LE.44 Ext7",
   "LE.1 ...4 NU.a ...4a6 LE.4 ...1 LE.1b ...1 LE.2 ...1 LE.1 ...2 LE.1 ...1 LE.a ...1 LE.4 ...1",
   "LE.1 ...1 LE.1 ...6 LE.1 ...4 LE.1 ...1 LE.1 ...1 LE.1 ...1 LE.3 ...1 LE.2 ...1 LE.1 ...2",
   "LE.1 ...1 LE.1 ...1 LE.1 ...1 LE.1 ...1 LE.1 ...1 LE.2 ...1 LE.1 ...2 LE.4 ...1 LE.7 ...1",
   "LE.4 ...1 LE.4 ...1 LE.1 ...1 LE.a ...1 LE.11 ...5 LE.3 ...1 LE.5 ...1 LE.11 ...274 LE.1a",
   "...6 LE.1a ...6 LE.1a ...5c RI.1a ...1fb Ext5 ...7f0 NU.a ...c0407 FO.1 ...1e Ext60 ...80",
   "Extf0 ...2fe10"]

/-- The division by meaning to word bounds. -/
def wordBreak : Partition where
  stretches := taggedRuns 3 wordBreakRuns
  names :=
    [(["le", "aletter"], ["LE."]),
     (["cr"], ["CR."]),
     (["dq", "doublequote"], ["DQ."]),
     (["extend"], ["Ext"]),
     (["ex", "extendnumlet"], ["EX."]),
     (["fo", "format"], ["FO."]),
     (["hl", "hebrewletter"], ["HL."]),
     (["ka", "katakana"], ["KA."]),
     (["lf"], ["LF."]),
     (["ml", "midletter"], ["ML."]),
     (["mn", "midnum"], ["MN."]),
     (["mb", "midnumlet"], ["MB."]),
     (["nl", "newline"], ["NL."]),
     (["nu", "numeric"], ["NU."]),
     (["ri", "regionalindicator"], ["RI."]),
     (["sq", "singlequote"], ["SQ."]),
     (["wsegspace"], ["WSS"]),
     (["zwj"], ["ZWJ"])]

end Polymatch.Unicode
