import Polymatch.Unicode.Partition

/-! # Grapheme breaks

What a code point means to the bounds of user-perceived characters. Code points
without a meaning have a label of dots.
-/

namespace Polymatch.Unicode

/-- The classes along the code points, each with its run length. -/
def graphemeBreakRuns : List String :=
  ["CN.a LF.1 CN.2 CR.1 CN.12 ...5f CN.21 ...d CN.1 ...252 EX.70 ...113 EX.7 ...107 EX.2d ...1",
   "EX.1 ...1 EX.2 ...1 EX.2 ...1 EX.1 ...38 PP.6 ...a EX.b ...1 CN.1 ...2e EX.15 ...10 EX.1",
   "...65 EX.7 PP.1 ...1 EX.6 ...2 EX.2 ...1 EX.4 ...21 PP.1 ...1 EX.1 ...1e EX.1b ...5b EX.b",
   "...3a EX.9 ...9 EX.1 ...18 EX.4 ...1 EX.9 ...1 EX.3 ...1 EX.5 ...2b EX.3 ...34 PP.2 ...5",
   "EX.9 ...2a EX.18 PP.1 EX.20 SM.1 ...36 EX.1 SM.1 EX.1 ...1 SM.3 EX.8 SM.4 EX.1 SM.2 ...1",
   "EX.7 ...a EX.2 ...1d EX.1 SM.2 ...38 EX.1 ...1 EX.1 SM.2 EX.4 ...2 SM.2 ...2 SM.2 EX.1 ...9",
   "EX.1 ...a EX.2 ...1a EX.1 ...2 EX.2 SM.1 ...38 EX.1 ...1 SM.3 EX.2 ...4 EX.2 ...2 EX.3 ...3",
   "EX.1 ...1e EX.2 ...3 EX.1 ...b EX.2 SM.1 ...38 EX.1 ...1 SM.3 EX.5 ...1 EX.2 SM.1 ...1 SM.2",
   "EX.1 ...14 EX.2 ...16 EX.6 ...1 EX.1 SM.2 ...38 EX.1 ...1 EX.2 SM.1 EX.4 ...2 SM.2 ...2 SM.2",
   "EX.1 ...7 EX.3 ...a EX.2 ...1e EX.1 ...3b EX.1 SM.1 EX.1 SM.2 ...3 SM.3 ...1 SM.3 EX.1 ...9",
   "EX.1 ...28 EX.1 SM.3 EX.1 ...37 EX.1 ...1 EX.3 SM.4 ...1 EX.3 ...1 EX.4 ...7 EX.2 ...b EX.2",
   "...1d EX.1 SM.2 ...38 EX.1 ...1 SM.1 EX.2 SM.1 EX.1 SM.2 ...1 EX.3 ...1 EX.4 ...7 EX.2 ...b",
   "EX.2 ...f SM.1 ...c EX.2 SM.2 ...37 EX.2 ...1 EX.1 SM.2 EX.4 ...1 SM.3 ...1 SM.3 EX.1 PP.1",
   "...8 EX.1 ...a EX.2 ...1d EX.1 SM.2 ...46 EX.1 ...4 EX.1 SM.2 EX.3 ...1 EX.1 ...1 SM.7 EX.1",
   "...12 SM.2 ...3d EX.1 ...1 SM.1 EX.7 ...c EX.8 ...62 EX.1 ...1 SM.1 EX.9 ...b EX.7 ...49",
   "EX.2 ...1b EX.1 ...1 EX.1 ...1 EX.1 ...4 SM.2 ...31 EX.e SM.1 EX.5 ...1 EX.2 ...5 EX.b ...1",
   "EX.24 ...9 EX.1 ...66 EX.4 SM.1 EX.6 ...1 EX.2 SM.2 EX.2 ...17 SM.2 EX.2 ...4 EX.3 ...10",
   "EX.4 ...d EX.1 ...1 SM.1 EX.2 ...6 EX.1 ...f EX.1 ...62 L..60 V..48 T..58 ...15d EX.3 ...3b2",
   "EX.4 ...1c EX.3 ...1d EX.2 ...1e EX.2 ...40 EX.2 SM.1 EX.7 SM.8 EX.1 SM.2 EX.b ...9 EX.1",
   "...2d EX.3 CN.1 EX.1 ...75 EX.2 ...22 EX.1 ...76 EX.3 SM.4 EX.2 SM.3 ...4 SM.2 EX.1 SM.6",
   "EX.3 ...db EX.2 SM.2 EX.1 ...39 SM.1 EX.1 SM.1 EX.7 ...1 EX.1 ...1 EX.1 ...2 EX.8 SM.6 EX.a",
   "...2 EX.1 ...30 EX.1f ...31 EX.4 SM.1 ...2f EX.a SM.4 EX.3 ...26 EX.9 ...c EX.2 SM.1 ...1e",
   "SM.1 EX.4 SM.2 EX.6 ...38 EX.1 SM.1 EX.2 SM.3 EX.1 SM.1 EX.5 ...30 SM.8 EX.8 SM.2 EX.2 ...98",
   "EX.3 ...1 EX.d SM.1 EX.7 ...4 EX.1 ...6 EX.1 ...2 SM.1 EX.2 ...c6 EX.40 ...20b CN.1 EX.1",
   "ZWJ1 CN.2 ...18 CN.7 ...31 CN.10 ...60 EX.21 ...bfe EX.3 ...8d EX.1 ...60 EX.20 ...22a EX.6",
   "...69 EX.2 ...75d4 EX.4 ...1 EX.a ...20 EX.2 ...50 EX.2 ...110 EX.1 ...3 EX.1 ...4 EX.1",
   "...17 SM.2 EX.2 SM.1 ...4 EX.1 ...53 SM.2 ...32 SM.10 EX.2 ...1a EX.12 ...d EX.1 ...26 EX.8",
   "...19 EX.b SM.1 EX.1 ...c L..1d ...3 EX.3 SM.1 ...2f EX.1 SM.2 EX.4 SM.2 EX.2 SM.2 EX.1",
   "...24 EX.1 ...43 EX.6 SM.2 EX.2 SM.2 EX.2 ...c EX.1 ...8 EX.1 SM.1 ...2e EX.1 ...33 EX.1",
   "...1 EX.3 ...2 EX.2 ...5 EX.2 ...1 EX.1 ...29 SM.1 EX.2 SM.2 ...5 SM.1 EX.1 ...ec SM.2 EX.1",
   "SM.2 EX.1 SM.2 ...1 SM.1 EX.1 ...12 LV.1 LVT1b LV.1 LVT1b LV.1 LVT1b LV.1 LVT1b LV.1 LVT1b",
   "LV.1 LVT1b LV.1 LVT1b LV.1 LVT1b LV.1 LVT1b LV.1 LVT1b LV.1 LVT1b LV.1 LVT1b LV.1 LVT1b LV.1",
   "LVT1b LV.1 LVT1b LV.1 LVT1b LV.1 LVT1b LV.1 LVT1b LV.1 LVT1b LV.1 LVT1b LV.1 LVT1b LV.1",
   "LVT1b LV.1 LVT1b LV.1 LVT1b LV.1 LVT1b LV.1 LVT1b LV.1 LVT1b LV.1 LVT1b LV.1 LVT1b LV.1",
   "LVT1b LV.1 LVT1b LV.1 LVT1b LV.1 LVT1b LV.1 LVT1b LV.1 LVT1b LV.1 LVT1b LV.1 LVT1b LV.1",
   "LVT1b LV.1 LVT1b LV.1 LVT1b LV.1 LVT1b LV.1 LVT1b LV.1 LVT1b LV.1 LVT1b LV.1 LVT1b LV.1",
   "LVT1b LV.1 LVT1b LV.1 LVT1b LV.1 LVT1b LV.1 LVT1b LV.1 LVT1b LV.1 LVT1b LV.1 LVT1b LV.1",
   "LVT1b LV.1 LVT1b LV.1 LVT1b LV.1 LVT1b LV.1 LVT1b LV.1 LVT1b LV.1 LVT1b LV.1 LVT1b LV.1",
   "LVT1b LV.1 LVT1b LV.1 LVT1b LV.1 LVT1b LV.1 LVT1b LV.1 LVT1b LV.1 LVT1b LV.1 LVT1b LV.1",
   "LVT1b LV.1 LVT1b LV.1 LVT1b LV.1 LVT1b LV.1 LVT1b LV.1 LVT1b LV.1 LVT1b LV.1 LVT1b LV.1",
   "LVT1b LV.1 LVT1b LV.1 LVT1b LV.1 LVT1b LV.1 LVT1b LV.1 LVT1b LV.1 LVT1b LV.1 LVT1b LV.1",
   "LVT1b LV.1 LVT1b LV.1 LVT1b LV.1 LVT1b LV.1 LVT1b LV.1 LVT1b LV.1 LVT1b LV.1 LVT1b LV.1",
   "LVT1b LV.1 LVT1b LV.1 LVT1b LV.1 LVT1b LV.1 LVT1b LV.1 LVT1b LV.1 LVT1b LV.1 LVT1b LV.1",
   "LVT1b LV.1 LVT1b LV.1 LVT1b LV.1 LVT1b LV.1 LVT1b LV.1 LVT1b LV.1 LVT1b LV.1 LVT1b LV.1",
   "LVT1b LV.1 LVT1b LV.1 LVT1b LV.1 LVT1b LV.1 LVT1b LV.1 LVT1b LV.1 LVT1b LV.1 LVT1b LV.1",
   "LVT1b LV.1 LVT1b LV.1 LVT1b LV.1 LVT1b LV.1 LVT1b LV.1 LVT1b LV.1 LVT1b LV.1 LVT1b LV.1",
   "LVT1b LV.1 LVT1b LV.1 LVT1b LV.1 LVT1b LV.1 LVT1b LV.1 LVT1b LV.1 LVT1b LV.1 LVT1b LV.1",
   "LVT1b LV.1 LVT1b LV.1 LVT1b LV.1 LVT1b LV.1 LVT1b LV.1 LVT1b LV.1 LVT1b LV.1 LVT1b LV.1",
   "LVT1b LV.1 LVT1b LV.1 LVT1b LV.1 LVT1b LV.1 LVT1b LV.1 LVT1b LV.1 LVT1b LV.1 LVT1b LV.1",
   "LVT1b LV.1 LVT1b LV.1 LVT1b LV.1 LVT1b LV.1 LVT1b LV.1 LVT1b LV.1 LVT1b LV.1 LVT1b LV.1",
   "LVT1b LV.1 LVT1b LV.1 LVT1b LV.1 LVT1b LV.1 LVT1b LV.1 LVT1b LV.1 LVT1b LV.1 LVT1b LV.1",
   "LVT1b LV.1 LVT1b LV.1 LVT1b LV.1 LVT1b LV.1 LVT1b LV.1 LVT1b LV.1 LVT1b LV.1 LVT1b LV.1",
   "LVT1b LV.1 LVT1b LV.1 LVT1b LV.1 LVT1b LV.1 LVT1b LV.1 LVT1b LV.1 LVT1b LV.1 LVT1b LV.1",
   "LVT1b LV.1 LVT1b LV.1 LVT1b LV.1 LVT1b LV.1 LVT1b LV.1 LVT1b LV.1 LVT1b LV.1 LVT1b LV.1",
   "LVT1b LV.1 LVT1b LV.1 LVT1b LV.1 LVT1b LV.1 LVT1b LV.1 LVT1b LV.1 LVT1b LV.1 LVT1b LV.1",
   "LVT1b LV.1 LVT1b LV.1 LVT1b LV.1 LVT1b LV.1 LVT1b LV.1 LVT1b LV.1 LVT1b LV.1 LVT1b LV.1",
   "LVT1b LV.1 LVT1b LV.1 LVT1b LV.1 LVT1b LV.1 LVT1b LV.1 LVT1b LV.1 LVT1b LV.1 LVT1b LV.1",
   "LVT1b LV.1 LVT1b LV.1 LVT1b LV.1 LVT1b LV.1 LVT1b LV.1 LVT1b LV.1 LVT1b LV.1 LVT1b LV.1",
   "LVT1b LV.1 LVT1b LV.1 LVT1b LV.1 LVT1b LV.1 LVT1b LV.1 LVT1b LV.1 LVT1b LV.1 LVT1b LV.1",
   "LVT1b LV.1 LVT1b LV.1 LVT1b LV.1 LVT1b LV.1 LVT1b LV.1 LVT1b LV.1 LVT1b LV.1 LVT1b LV.1",
   "LVT1b LV.1 LVT1b LV.1 LVT1b LV.1 LVT1b LV.1 LVT1b LV.1 LVT1b LV.1 LVT1b LV.1 LVT1b LV.1",
   "LVT1b LV.1 LVT1b LV.1 LVT1b LV.1 LVT1b LV.1 LVT1b LV.1 LVT1b LV.1 LVT1b LV.1 LVT1b LV.1",
   "LVT1b LV.1 LVT1b LV.1 LVT1b LV.1 LVT1b LV.1 LVT1b LV.1 LVT1b LV.1 LVT1b LV.1 LVT1b LV.1",
   "LVT1b LV.1 LVT1b LV.1 LVT1b LV.1 LVT1b LV.1 LVT1b LV.1 LVT1b LV.1 LVT1b LV.1 LVT1b LV.1",
   "LVT1b LV.1 LVT1b LV.1 LVT1b LV.1 LVT1b LV.1 LVT1b LV.1 LVT1b LV.1 LVT1b LV.1 LVT1b LV.1",
   "LVT1b LV.1 LVT1b LV.1 LVT1b LV.1 LVT1b LV.1 LVT1b LV.1 LVT1b LV.1 LVT1b LV.1 LVT1b LV.1",
   "LVT1b LV.1 LVT1b LV.1 LVT1b LV.1 LVT1b LV.1 LVT1b LV.1 LVT1b LV.1 LVT1b LV.1 LVT1b LV.1",
   "LVT1b LV.1 LVT1b LV.1 LVT1b LV.1 LVT1b LV.1 LVT1b LV.1 LVT1b LV.1 LVT1b LV.1 LVT1b LV.1",
   "LVT1b LV.1 LVT1b LV.1 LVT1b LV.1 LVT1b LV.1 LVT1b LV.1 LVT1b LV.1 LVT1b LV.1 LVT1b LV.1",
   "LVT1b LV.1 LVT1b LV.1 LVT1b LV.1 LVT1b LV.1 LVT1b LV.1 LVT1b LV.1 LVT1b LV.1 LVT1b LV.1",
   "LVT1b LV.1 LVT1b LV.1 LVT1b LV.1 LVT1b LV.1 LVT1b LV.1 LVT1b LV.1 LVT1b LV.1 LVT1b LV.1",
   "LVT1b LV.1 LVT1b LV.1 LVT1b LV.1 LVT1b LV.1 LVT1b LV.1 LVT1b LV.1 LVT1b LV.1 LVT1b LV.1",
   "LVT1b LV.1 LVT1b LV.1 LVT1b LV.1 LVT1b LV.1 LVT1b LV.1 LVT1b LV.1 LVT1b LV.1 LVT1b LV.1",
   "LVT1b LV.1 LVT1b LV.1 LVT1b LV.1 LVT1b LV.1 LVT1b LV.1 LVT1b LV.1 LVT1b LV.1 LVT1b LV.1",
   "LVT1b LV.1 LVT1b LV.1 LVT1b LV.1 LVT1b LV.1 LVT1b LV.1 LVT1b LV.1 LVT1b LV.1 LVT1b LV.1",
   "LVT1b LV.1 LVT1b LV.1 LVT1b LV.1 LVT1b LV.1 LVT1b LV.1 LVT1b LV.1 LVT1b LV.1 LVT1b LV.1",
   "LVT1b LV.1 LVT1b LV.1 LVT1b LV.1 LVT1b LV.1 LVT1b LV.1 LVT1b LV.1 LVT1b LV.1 LVT1b LV.1",
   "LVT1b LV.1 LVT1b LV.1 LVT1b LV.1 LVT1b LV.1 LVT1b LV.1 LVT1b LV.1 LVT1b LV.1 LVT1b LV.1",
   "LVT1b LV.1 LVT1b LV.1 LVT1b LV.1 LVT1b LV.1 LVT1b LV.1 LVT1b LV.1 LVT1b LV.1 LVT1b LV.1",
   "LVT1b LV.1 LVT1b LV.1 LVT1b LV.1 LVT1b LV.1 LVT1b LV.1 LVT1b LV.1 LVT1b LV.1 LVT1b LV.1",
   "LVT1b LV.1 LVT1b ...c V..17 ...4 T..31 ...2322 EX.1 ...2e1 EX.10 ...10 EX.10 ...cf CN.1",
   "...9e EX.2 ...50 CN.c ...201 EX.1 ...e2 EX.1 ...95 EX.5 ...686 EX.3 ...1 EX.2 ...5 EX.4",
   "...28 EX.3 ...4 EX.1 ...a5 EX.2 ...23d EX.4 ...41 EX.5 ...13d EX.2 ...4f EX.4 ...46 EX.b",
   "...31 EX.4 ...7a SM.1 EX.1 SM.1 ...35 EX.f ...29 EX.1 ...2 EX.2 ...a EX.3 SM.1 ...2d SM.3",
   "EX.4 SM.2 EX.2 ...2 PP.1 ...4 EX.1 ...a PP.1 ...32 EX.3 ...24 EX.5 SM.1 EX.8 ...10 SM.2",
   "...2c EX.1 ...c EX.2 SM.1 ...30 SM.3 EX.9 SM.1 EX.1 ...1 PP.2 ...5 EX.4 ...1 SM.1 EX.1 ...5c",
   "SM.3 EX.3 SM.2 EX.4 ...6 EX.1 ...2 EX.1 ...9d EX.1 SM.3 EX.8 ...15 EX.2 SM.2 ...37 EX.2 ...1",
   "EX.1 SM.1 EX.1 SM.4 ...2 SM.2 ...2 SM.2 EX.1 ...9 EX.1 ...a SM.2 ...2 EX.7 ...3 EX.5 ...43",
   "EX.1 SM.2 EX.6 ...1 EX.1 ...2 EX.1 ...1 EX.3 SM.1 ...1 SM.2 EX.3 PP.1 EX.1 ...e EX.2 ...52",
   "SM.3 EX.8 SM.2 EX.3 SM.1 EX.1 ...17 EX.1 ...51 EX.1 SM.2 EX.6 SM.1 EX.1 SM.2 EX.1 SM.1 EX.2",
   "SM.1 EX.2 ...eb EX.1 SM.2 EX.4 ...2 SM.4 EX.2 SM.1 EX.2 ...1b EX.2 ...52 SM.3 EX.8 SM.2 EX.1",
   "SM.1 EX.2 ...6a EX.1 SM.1 EX.1 SM.2 EX.8 ...65 EX.1 SM.1 EX.1 ...2 EX.4 SM.1 EX.5 ...100",
   "SM.3 EX.9 SM.1 EX.2 ...f5 EX.1 SM.5 ...1 SM.2 ...2 EX.4 PP.1 SM.1 PP.1 SM.1 EX.1 ...8d SM.3",
   "EX.4 ...2 EX.2 SM.4 EX.1 ...3 SM.1 ...1c EX.a ...28 EX.6 SM.1 PP.1 EX.4 ...8 EX.1 ...9 EX.6",
   "SM.2 EX.3 ...28 PP.6 EX.d SM.1 EX.2 ...195 SM.1 EX.7 ...1 EX.6 SM.1 EX.1 ...52 EX.16 ...1",
   "SM.1 EX.7 SM.1 EX.2 SM.1 EX.2 ...7a EX.6 ...3 EX.1 ...1 EX.2 ...1 EX.7 PP.1 EX.1 ...42 SM.5",
   "...1 EX.2 ...1 SM.2 EX.1 SM.1 EX.1 ...15b EX.2 SM.2 ...9 EX.2 PP.1 SM.1 ...30 SM.2 EX.5 ...3",
   "SM.2 EX.3 ...17 EX.1 ...14d5 CN.10 EX.1 ...6 EX.f ...2cc8 EX.c SM.3 EX.3 ...9c0 EX.5 ...3b",
   "EX.7 ...22c V..1 ...3 V..4 ...1e4 EX.1 ...1 SM.37 ...7 EX.4 ...51 EX.1 ...b EX.2 ...4cab",
   "EX.2 ...1 CN.4 ...125c EX.2e ...2 EX.17 ...21e EX.5 ...3 EX.6 CN.8 EX.8 ...2 EX.7 ...1e EX.4",
   "...94 EX.3 ...7bb EX.37 ...4 EX.32 ...8 EX.1 ...e EX.1 ...16 EX.5 ...1 EX.f ...550 EX.7 ...1",
   "EX.11 ...2 EX.7 ...1 EX.2 ...1 EX.5 ...64 EX.1 ...a0 EX.7 ...177 EX.1 ...3d EX.4 ...1fc EX.4",
   "...fe EX.2 ...2e0 EX.7 ...6d EX.7 ...89b RI.1a ...1fb EX.5 ...c0c00 CN.20 EX.60 CN.80 EX.f0",
   "CN.e10 ...2f000"]

/-- The division by meaning to grapheme bounds. -/
def graphemeBreak : Partition where
  stretches := taggedRuns 3 graphemeBreakRuns
  names :=
    [(["cr"], ["CR."]),
     (["cn", "control"], ["CN."]),
     (["ex", "extend"], ["EX."]),
     (["l"], ["L.."]),
     (["lf"], ["LF."]),
     (["lv"], ["LV."]),
     (["lvt"], ["LVT"]),
     (["pp", "prepend"], ["PP."]),
     (["ri", "regionalindicator"], ["RI."]),
     (["sm", "spacingmark"], ["SM."]),
     (["t"], ["T.."]),
     (["v"], ["V.."]),
     (["zwj"], ["ZWJ"])]

end Polymatch.Unicode
