import Polymatch.Unicode.Partition

/-! # Sentence breaks

What a code point means to the bounds of sentences. Code points without a meaning
have a label of dots.
-/

namespace Polymatch.Unicode

/-- The classes along the code points, each with its run length. -/
def sentenceBreakRuns : List String :=
  ["...9 SP.1 LF.1 SP.2 CR.1 ...12 SP.1 ST.1 CL.1 ...4 CL.3 ...2 SC.2 AT.1 ...1 NU.a SC.2 ...3",
   "ST.1 ...1 UP.1a CL.1 ...1 CL.1 ...3 LO.1a CL.1 ...1 CL.1 ...7 SE.1 ...1a SP.1 ...9 LO.1 CL.1",
   "...1 FO.1 ...7 LO.1 ...4 LO.1 CL.1 ...4 UP.17 ...1 UP.7 LO.18 ...1 LO.8 UP.1 LO.1 UP.1 LO.1",
   "UP.1 LO.1 UP.1 LO.1 UP.1 LO.1 UP.1 LO.1 UP.1 LO.1 UP.1 LO.1 UP.1 LO.1 UP.1 LO.1 UP.1 LO.1",
   "UP.1 LO.1 UP.1 LO.1 UP.1 LO.1 UP.1 LO.1 UP.1 LO.1 UP.1 LO.1 UP.1 LO.1 UP.1 LO.1 UP.1 LO.1",
   "UP.1 LO.1 UP.1 LO.1 UP.1 LO.1 UP.1 LO.1 UP.1 LO.1 UP.1 LO.1 UP.1 LO.1 UP.1 LO.2 UP.1 LO.1",
   "UP.1 LO.1 UP.1 LO.1 UP.1 LO.1 UP.1 LO.1 UP.1 LO.1 UP.1 LO.1 UP.1 LO.2 UP.1 LO.1 UP.1 LO.1",
   "UP.1 LO.1 UP.1 LO.1 UP.1 LO.1 UP.1 LO.1 UP.1 LO.1 UP.1 LO.1 UP.1 LO.1 UP.1 LO.1 UP.1 LO.1",
   "UP.1 LO.1 UP.1 LO.1 UP.1 LO.1 UP.1 LO.1 UP.1 LO.1 UP.1 LO.1 UP.1 LO.1 UP.1 LO.1 UP.1 LO.1",
   "UP.1 LO.1 UP.1 LO.1 UP.1 LO.1 UP.2 LO.1 UP.1 LO.1 UP.1 LO.3 UP.2 LO.1 UP.1 LO.1 UP.2 LO.1",
   "UP.3 LO.2 UP.4 LO.1 UP.2 LO.1 UP.3 LO.3 UP.2 LO.1 UP.2 LO.1 UP.1 LO.1 UP.1 LO.1 UP.2 LO.1",
   "UP.1 LO.2 UP.1 LO.1 UP.2 LO.1 UP.3 LO.1 UP.1 LO.1 UP.2 LO.2 LE.1 UP.1 LO.3 LE.4 UP.2 LO.1",
   "UP.2 LO.1 UP.2 LO.1 UP.1 LO.1 UP.1 LO.1 UP.1 LO.1 UP.1 LO.1 UP.1 LO.1 UP.1 LO.1 UP.1 LO.1",
   "UP.1 LO.2 UP.1 LO.1 UP.1 LO.1 UP.1 LO.1 UP.1 LO.1 UP.1 LO.1 UP.1 LO.1 UP.1 LO.1 UP.1 LO.1",
   "UP.1 LO.2 UP.2 LO.1 UP.1 LO.1 UP.3 LO.1 UP.1 LO.1 UP.1 LO.1 UP.1 LO.1 UP.1 LO.1 UP.1 LO.1",
   "UP.1 LO.1 UP.1 LO.1 UP.1 LO.1 UP.1 LO.1 UP.1 LO.1 UP.1 LO.1 UP.1 LO.1 UP.1 LO.1 UP.1 LO.1",
   "UP.1 LO.1 UP.1 LO.1 UP.1 LO.1 UP.1 LO.1 UP.1 LO.1 UP.1 LO.1 UP.1 LO.1 UP.1 LO.1 UP.1 LO.1",
   "UP.1 LO.1 UP.1 LO.1 UP.1 LO.1 UP.1 LO.1 UP.1 LO.1 UP.1 LO.7 UP.2 LO.1 UP.2 LO.2 UP.1 LO.1",
   "UP.4 LO.1 UP.1 LO.1 UP.1 LO.1 UP.1 LO.1 UP.1 LO.45 LE.1 LO.24 LE.7 LO.2 ...4 LE.c ...e LO.5",
   "...7 LE.1 ...1 LE.1 ...11 EX.70 UP.1 LO.1 UP.1 LO.1 LE.1 ...1 UP.1 LO.1 ...2 LO.4 SC.1 UP.1",
   "...6 UP.1 ...1 UP.3 ...1 UP.1 ...1 UP.2 LO.1 UP.11 ...1 UP.9 LO.23 UP.1 LO.2 UP.3 LO.3 UP.1",
   "LO.1 UP.1 LO.1 UP.1 LO.1 UP.1 LO.1 UP.1 LO.1 UP.1 LO.1 UP.1 LO.1 UP.1 LO.1 UP.1 LO.1 UP.1",
   "LO.1 UP.1 LO.1 UP.1 LO.5 UP.1 LO.1 ...1 UP.1 LO.1 UP.2 LO.2 UP.33 LO.30 UP.1 LO.1 UP.1 LO.1",
   "UP.1 LO.1 UP.1 LO.1 UP.1 LO.1 UP.1 LO.1 UP.1 LO.1 UP.1 LO.1 UP.1 LO.1 UP.1 LO.1 UP.1 LO.1",
   "UP.1 LO.1 UP.1 LO.1 UP.1 LO.1 UP.1 LO.1 UP.1 LO.1 UP.1 LO.1 ...1 EX.7 UP.1 LO.1 UP.1 LO.1",
   "UP.1 LO.1 UP.1 LO.1 UP.1 LO.1 UP.1 LO.1 UP.1 LO.1 UP.1 LO.1 UP.1 LO.1 UP.1 LO.1 UP.1 LO.1",
   "UP.1 LO.1 UP.1 LO.1 UP.1 LO.1 UP.1 LO.1 UP.1 LO.1 UP.1 LO.1 UP.1 LO.1 UP.1 LO.1 UP.1 LO.1",
   "UP.1 LO.1 UP.1 LO.1 UP.1 LO.1 UP.1 LO.1 UP.1 LO.1 UP.1 LO.1 UP.1 LO.1 UP.2 LO.1 UP.1 LO.1",
   "UP.1 LO.1 UP.1 LO.1 UP.1 LO.1 UP.1 LO.1 UP.1 LO.2 UP.1 LO.1 UP.1 LO.1 UP.1 LO.1 UP.1 LO.1",
   "UP.1 LO.1 UP.1 LO.1 UP.1 LO.1 UP.1 LO.1 UP.1 LO.1 UP.1 LO.1 UP.1 LO.1 UP.1 LO.1 UP.1 LO.1",
   "UP.1 LO.1 UP.1 LO.1 UP.1 LO.1 UP.1 LO.1 UP.1 LO.1 UP.1 LO.1 UP.1 LO.1 UP.1 LO.1 UP.1 LO.1",
   "UP.1 LO.1 UP.1 LO.1 UP.1 LO.1 UP.1 LO.1 UP.1 LO.1 UP.1 LO.1 UP.1 LO.1 UP.1 LO.1 UP.1 LO.1",
   "UP.1 LO.1 UP.1 LO.1 UP.1 LO.1 UP.1 LO.1 UP.1 LO.1 UP.1 LO.1 UP.1 LO.1 UP.1 LO.1 UP.1 LO.1",
   "UP.1 LO.1 UP.1 LO.1 UP.1 LO.1 UP.1 LO.1 UP.1 LO.1 UP.1 LO.1 UP.1 LO.1 UP.1 LO.1 ...1 UP.26",
   "...2 LE.1 ...3 SC.1 ...2 LO.29 ST.1 ...7 EX.2d ...1 EX.1 ...1 EX.2 ...1 EX.2 ...1 EX.1 ...8",
   "LE.1b ...4 LE.5 ...c NU.6 ...6 SC.2 ...2 EX.b ...1 FO.1 ST.3 LE.2b EX.15 NU.a ...1 NU.2 ...1",
   "LE.2 EX.1 LE.63 ST.1 LE.1 EX.7 NU.1 ...1 EX.6 LE.2 EX.2 ...1 EX.4 LE.2 NU.a LE.3 ...2 LE.1",
   "ST.3 ...c FO.1 LE.1 EX.1 LE.1e EX.1b ...2 LE.59 EX.b LE.1 ...e NU.a LE.21 EX.9 LE.2 ...2",
   "SC.1 ST.1 LE.1 ...2 EX.1 ...2 LE.16 EX.4 LE.1 EX.9 LE.1 EX.3 LE.1 EX.5 ...9 ST.1 ...1 ST.1",
   "...3 ST.2 ...1 LE.19 EX.3 ...4 LE.b ...5 LE.18 ...1 LE.6 ...1 NU.2 ...5 EX.9 LE.2a EX.18",
   "NU.1 EX.21 LE.36 EX.3 LE.1 EX.12 LE.1 EX.7 LE.a EX.2 ST.2 NU.a ...1 LE.10 EX.3 ...1 LE.8",
   "...2 LE.2 ...2 LE.16 ...1 LE.7 ...1 LE.1 ...3 LE.4 ...2 EX.1 LE.1 EX.7 ...2 EX.2 ...2 EX.3",
   "LE.1 ...8 EX.1 ...4 LE.2 ...1 LE.3 EX.2 ...2 NU.a LE.2 ...a LE.1 ...1 EX.1 ...2 EX.3 ...1",
   "LE.6 ...4 LE.2 ...2 LE.16 ...1 LE.7 ...1 LE.2 ...1 LE.2 ...1 LE.2 ...2 EX.1 ...1 EX.5 ...4",
   "EX.2 ...2 EX.3 ...3 EX.1 ...7 LE.4 ...1 LE.1 ...7 NU.a EX.2 LE.3 EX.1 ...b EX.3 ...1 LE.9",
   "...1 LE.3 ...1 LE.16 ...1 LE.7 ...1 LE.2 ...1 LE.5 ...2 EX.1 LE.1 EX.8 ...1 EX.3 ...1 EX.3",
   "...2 LE.1 ...f LE.2 EX.2 ...2 NU.a ...9 LE.1 EX.6 ...1 EX.3 ...1 LE.8 ...2 LE.2 ...2 LE.16",
   "...1 LE.7 ...1 LE.2 ...1 LE.5 ...2 EX.1 LE.1 EX.7 ...2 EX.2 ...2 EX.3 ...7 EX.3 ...4 LE.2",
   "...1 LE.3 EX.2 ...2 NU.a ...1 LE.1 ...10 EX.1 LE.1 ...1 LE.6 ...3 LE.3 ...1 LE.4 ...3 LE.2",
   "...1 LE.1 ...1 LE.2 ...3 LE.2 ...3 LE.3 ...3 LE.c ...4 EX.5 ...3 EX.3 ...1 EX.4 ...2 LE.1",
   "...6 EX.1 ...e NU.a ...10 EX.5 LE.8 ...1 LE.3 ...1 LE.17 ...1 LE.10 ...2 EX.1 LE.1 EX.7 ...1",
   "EX.3 ...1 EX.4 ...7 EX.2 ...1 LE.3 ...2 LE.1 ...2 LE.2 EX.2 ...2 NU.a ...10 LE.1 EX.3 ...1",
   "LE.8 ...1 LE.3 ...1 LE.17 ...1 LE.a ...1 LE.5 ...2 EX.1 LE.1 EX.7 ...1 EX.3 ...1 EX.4 ...7",
   "EX.2 ...6 LE.2 ...1 LE.2 EX.2 ...2 NU.a ...1 LE.2 EX.1 ...c EX.4 LE.9 ...1 LE.3 ...1 LE.29",
   "EX.2 LE.1 EX.7 ...1 EX.3 ...1 EX.4 LE.1 ...5 LE.3 EX.1 ...7 LE.3 EX.2 ...2 NU.a ...a LE.6",
   "...1 EX.3 ...1 LE.12 ...3 LE.18 ...1 LE.9 ...1 LE.1 ...2 LE.7 ...3 EX.1 ...4 EX.6 ...1 EX.1",
   "...1 EX.8 ...6 NU.a ...2 EX.2 ...d LE.30 EX.1 LE.2 EX.7 ...5 LE.7 EX.8 ...1 NU.a ...27 LE.2",
   "...1 LE.1 ...1 LE.5 ...1 LE.18 ...1 LE.1 ...1 LE.a EX.1 LE.2 EX.9 LE.1 ...2 LE.5 ...1 LE.1",
   "...1 EX.7 ...1 NU.a ...2 LE.4 ...20 LE.1 ...17 EX.2 ...6 NU.a ...b EX.1 ...1 EX.1 ...1 EX.1",
   "CL.4 EX.2 LE.8 ...1 LE.24 ...4 EX.14 ...1 EX.2 LE.5 EX.b ...1 EX.24 ...9 EX.1 ...39 LE.2b",
   "EX.14 LE.1 NU.a ST.2 ...4 LE.6 EX.4 LE.4 EX.3 LE.1 EX.3 LE.2 EX.7 LE.3 EX.4 LE.d EX.c LE.1",
   "EX.1 NU.a EX.4 ...2 UP.26 ...1 UP.1 ...5 UP.1 ...2 LE.2b ...1 LO.1 LE.14c ...1 LE.4 ...2",
   "LE.7 ...1 LE.1 ...1 LE.4 ...2 LE.29 ...1 LE.4 ...2 LE.21 ...1 LE.4 ...2 LE.7 ...1 LE.1 ...1",
   "LE.4 ...2 LE.f ...1 LE.39 ...1 LE.4 ...2 LE.43 ...2 EX.3 ...2 ST.1 ...4 ST.2 ...17 LE.10",
   "...10 UP.56 ...2 LO.6 ...3 LE.26c ...1 ST.1 LE.11 SP.1 LE.1a CL.2 ...3 LE.4b ...3 LE.b ...7",
   "LE.12 EX.4 ...9 LE.13 EX.3 ST.2 ...9 LE.12 EX.2 ...c LE.d ...1 LE.3 ...1 EX.2 ...c LE.34",
   "EX.20 ST.2 ...1 LE.1 ...4 LE.1 EX.1 ...2 NU.a ...18 SC.1 ST.1 ...4 SC.1 ST.1 ...1 EX.3 FO.1",
   "EX.1 NU.a ...6 LE.59 ...7 LE.5 EX.2 LE.22 EX.1 LE.1 ...5 LE.46 ...a LE.1f ...1 EX.c ...4",
   "EX.c ...8 ST.2 NU.a LE.1e ...2 LE.5 ...b LE.2c ...4 LE.1a ...6 NU.b ...25 LE.17 EX.5 ...4",
   "LE.35 EX.a ...1 EX.1d ...2 EX.1 NU.a ...6 NU.a ...d LE.1 ST.4 ...4 EX.1f ...31 EX.5 LE.2f",
   "EX.11 LE.8 ...1 ST.2 NU.a ST.2 ...2 ST.2 ...b EX.9 ...9 ST.3 EX.3 LE.1e EX.d LE.2 NU.a LE.2c",
   "EX.e ...c LE.24 EX.14 ...3 ST.2 ...3 NU.a ...3 LE.3 NU.a LE.24 ST.2 LO.9 UP.1 LO.1 ...5",
   "LE.2b ...2 LE.3 ...10 EX.3 ...1 EX.15 LE.4 EX.1 LE.6 EX.1 LE.2 EX.3 LE.1 ...5 LO.c0 EX.40",
   "UP.1 LO.1 UP.1 LO.1 UP.1 LO.1 UP.1 LO.1 UP.1 LO.1 UP.1 LO.1 UP.1 LO.1 UP.1 LO.1 UP.1 LO.1",
   "UP.1 LO.1 UP.1 LO.1 UP.1 LO.1 UP.1 LO.1 UP.1 LO.1 UP.1 LO.1 UP.1 LO.1 UP.1 LO.1 UP.1 LO.1",
   "UP.1 LO.1 UP.1 LO.1 UP.1 LO.1 UP.1 LO.1 UP.1 LO.1 UP.1 LO.1 UP.1 LO.1 UP.1 LO.1 UP.1 LO.1",
   "UP.1 LO.1 UP.1 LO.1 UP.1 LO.1 UP.1 LO.1 UP.1 LO.1 UP.1 LO.1 UP.1 LO.1 UP.1 LO.1 UP.1 LO.1",
   "UP.1 LO.1 UP.1 LO.1 UP.1 LO.1 UP.1 LO.1 UP.1 LO.1 UP.1 LO.1 UP.1 LO.1 UP.1 LO.1 UP.1 LO.1",
   "UP.1 LO.1 UP.1 LO.1 UP.1 LO.1 UP.1 LO.1 UP.1 LO.1 UP.1 LO.1 UP.1 LO.1 UP.1 LO.1 UP.1 LO.1",
   "UP.1 LO.1 UP.1 LO.1 UP.1 LO.1 UP.1 LO.1 UP.1 LO.1 UP.1 LO.1 UP.1 LO.1 UP.1 LO.1 UP.1 LO.1",
   "UP.1 LO.1 UP.1 LO.1 UP.1 LO.1 UP.1 LO.1 UP.1 LO.1 UP.1 LO.1 UP.1 LO.1 UP.1 LO.1 UP.1 LO.1",
   "UP.1 LO.1 UP.1 LO.1 UP.1 LO.9 UP.1 LO.1 UP.1 LO.1 UP.1 LO.1 UP.1 LO.1 UP.1 LO.1 UP.1 LO.1",
   "UP.1 LO.1 UP.1 LO.1 UP.1 LO.1 UP.1 LO.1 UP.1 LO.1 UP.1 LO.1 UP.1 LO.1 UP.1 LO.1 UP.1 LO.1",
   "UP.1 LO.1 UP.1 LO.1 UP.1 LO.1 UP.1 LO.1 UP.1 LO.1 UP.1 LO.1 UP.1 LO.1 UP.1 LO.1 UP.1 LO.1",
   "UP.1 LO.1 UP.1 LO.1 UP.1 LO.1 UP.1 LO.1 UP.1 LO.1 UP.1 LO.1 UP.1 LO.1 UP.1 LO.1 UP.1 LO.1",
   "UP.1 LO.1 UP.1 LO.1 UP.1 LO.1 UP.1 LO.1 UP.1 LO.1 UP.1 LO.1 UP.1 LO.1 UP.1 LO.1 UP.1 LO.1",
   "UP.1 LO.1 UP.1 LO.1 UP.1 LO.1 UP.1 LO.1 UP.1 LO.1 UP.1 LO.1 UP.1 LO.9 UP.8 LO.6 ...2 UP.6",
   "...2 LO.8 UP.8 LO.8 UP.8 LO.6 ...2 UP.6 ...2 LO.8 ...1 UP.1 ...1 UP.1 ...1 UP.1 ...1 UP.1",
   "LO.8 UP.8 LO.e ...2 LO.8 UP.8 LO.8 UP.8 LO.8 UP.8 LO.5 ...1 LO.2 UP.5 ...1 LO.1 ...3 LO.3",
   "...1 LO.2 UP.5 ...3 LO.4 ...2 LO.2 UP.4 ...4 LO.8 UP.5 ...5 LO.3 ...1 LO.2 UP.5 ...3 SP.b",
   "FO.1 EX.2 FO.2 ...3 SC.2 ...3 CL.8 ...4 AT.1 ...3 SE.2 FO.5 SP.1 ...9 CL.2 ...1 ST.2 ...7",
   "CL.2 ST.3 ...15 SP.1 FO.5 ...1 FO.a ...1 LO.1 ...b CL.2 LO.1 ...d CL.2 ...1 LO.d ...33 EX.21",
   "...11 UP.1 ...4 UP.1 ...2 LO.1 UP.3 LO.2 UP.3 LO.1 ...1 UP.1 ...3 UP.5 ...6 UP.1 ...1 UP.1",
   "...1 UP.1 ...1 UP.4 ...1 LO.1 UP.4 LO.1 LE.4 LO.1 ...2 LO.2 UP.2 ...5 UP.1 LO.4 ...4 LO.1",
   "...11 UP.10 LO.10 LE.3 UP.1 LO.1 LE.4 ...17f CL.4 ...1d CL.2 ...18b UP.1a LO.1a ...271 CL.6",
   "...7 CL.e ...4f CL.2 ...1f CL.a ...193 CL.16 ...3f CL.4 ...20 CL.2 ...202 UP.30 LO.30 UP.1",
   "LO.1 UP.3 LO.2 UP.1 LO.1 UP.1 LO.1 UP.1 LO.1 UP.4 LO.1 UP.1 LO.2 UP.1 LO.8 UP.3 LO.1 UP.1",
   "LO.1 UP.1 LO.1 UP.1 LO.1 UP.1 LO.1 UP.1 LO.1 UP.1 LO.1 UP.1 LO.1 UP.1 LO.1 UP.1 LO.1 UP.1",
   "LO.1 UP.1 LO.1 UP.1 LO.1 UP.1 LO.1 UP.1 LO.1 UP.1 LO.1 UP.1 LO.1 UP.1 LO.1 UP.1 LO.1 UP.1",
   "LO.1 UP.1 LO.1 UP.1 LO.1 UP.1 LO.1 UP.1 LO.1 UP.1 LO.1 UP.1 LO.1 UP.1 LO.1 UP.1 LO.1 UP.1",
   "LO.1 UP.1 LO.1 UP.1 LO.1 UP.1 LO.1 UP.1 LO.1 UP.1 LO.1 UP.1 LO.1 UP.1 LO.1 UP.1 LO.1 UP.1",
   "LO.1 UP.1 LO.1 UP.1 LO.1 UP.1 LO.1 UP.1 LO.1 UP.1 LO.1 UP.1 LO.1 UP.1 LO.1 UP.1 LO.1 UP.1",
   "LO.1 UP.1 LO.1 UP.1 LO.1 UP.1 LO.2 ...6 UP.1 LO.1 UP.1 LO.1 EX.3 UP.1 LO.1 ...5 ST.3 ...4",
   "LO.26 ...1 LO.1 ...5 LO.1 ...2 LE.38 ...7 LE.1 ...f EX.1 LE.17 ...9 LE.7 ...1 LE.7 ...1 LE.7",
   "...1 LE.7 ...1 LE.7 ...1 LE.7 ...1 LE.7 ...1 LE.7 ...1 EX.20 CL.e ...e CL.2 ...2 CL.a ...4",
   "ST.1 LE.1 ...c ST.1 ...5 CL.1 ...10 ST.2 CL.8 ...1a3 SP.1 SC.1 ST.1 ...2 LE.3 CL.a ...2 CL.8",
   "...1 CL.3 ...1 LE.9 EX.6 ...1 LE.5 ...2 LE.5 ...4 LE.56 ...2 EX.2 ...2 LE.3 ...1 LE.5a ...1",
   "LE.4 ...5 LE.2b ...1 LE.5e ...11 LE.20 ...30 LE.10 ...200 LE.19c0 ...40 LE.568d ...43 LE.2e",
   "...1 ST.1 LE.10d ...1 ST.2 LE.10 NU.a LE.2 ...14 UP.1 LO.1 UP.1 LO.1 UP.1 LO.1 UP.1 LO.1",
   "UP.1 LO.1 UP.1 LO.1 UP.1 LO.1 UP.1 LO.1 UP.1 LO.1 UP.1 LO.1 UP.1 LO.1 UP.1 LO.1 UP.1 LO.1",
   "UP.1 LO.1 UP.1 LO.1 UP.1 LO.1 UP.1 LO.1 UP.1 LO.1 UP.1 LO.1 UP.1 LO.1 UP.1 LO.1 UP.1 LO.1",
   "UP.1 LO.1 LE.1 EX.4 ...1 EX.a ...1 LE.1 UP.1 LO.1 UP.1 LO.1 UP.1 LO.1 UP.1 LO.1 UP.1 LO.1",
   "UP.1 LO.1 UP.1 LO.1 UP.1 LO.1 UP.1 LO.1 UP.1 LO.1 UP.1 LO.1 UP.1 LO.1 UP.1 LO.1 UP.1 LO.3",
   "EX.2 LE.50 EX.2 ...1 ST.1 ...3 ST.1 ...1f LE.9 ...2 UP.1 LO.1 UP.1 LO.1 UP.1 LO.1 UP.1 LO.1",
   "UP.1 LO.1 UP.1 LO.1 UP.1 LO.3 UP.1 LO.1 UP.1 LO.1 UP.1 LO.1 UP.1 LO.1 UP.1 LO.1 UP.1 LO.1",
   "UP.1 LO.1 UP.1 LO.1 UP.1 LO.1 UP.1 LO.1 UP.1 LO.1 UP.1 LO.1 UP.1 LO.1 UP.1 LO.1 UP.1 LO.1",
   "UP.1 LO.1 UP.1 LO.1 UP.1 LO.1 UP.1 LO.1 UP.1 LO.1 UP.1 LO.1 UP.1 LO.1 UP.1 LO.1 UP.1 LO.1",
   "UP.1 LO.1 UP.1 LO.1 UP.1 LO.1 UP.1 LO.1 UP.1 LO.1 UP.1 LO.1 UP.1 LO.a UP.1 LO.1 UP.1 LO.1",
   "UP.2 LO.1 UP.1 LO.1 UP.1 LO.1 UP.1 LO.1 UP.1 LO.1 LE.1 ...2 UP.1 LO.1 UP.1 LO.1 LE.1 UP.1",
   "LO.1 UP.1 LO.3 UP.1 LO.1 UP.1 LO.1 UP.1 LO.1 UP.1 LO.1 UP.1 LO.1 UP.1 LO.1 UP.1 LO.1 UP.1",
   "LO.1 UP.1 LO.1 UP.1 LO.1 UP.5 LO.1 UP.5 LO.1 UP.1 LO.1 UP.1 LO.1 UP.1 LO.1 UP.1 LO.1 UP.1",
   "LO.1 UP.1 LO.1 UP.1 LO.1 UP.4 LO.1 UP.1 LO.1 UP.2 LO.1 ...2 UP.1 LO.1 ...1 LO.1 ...1 LO.1",
   "UP.1 LO.1 UP.1 LO.1 UP.1 LO.1 UP.1 ...15 LO.3 UP.1 LO.1 LE.1 LO.3 LE.7 EX.1 LE.3 EX.1 LE.4",
   "EX.1 LE.17 EX.5 ...4 EX.1 ...13 LE.34 ...2 ST.2 ...8 EX.2 LE.32 EX.12 ...8 ST.2 NU.a ...6",
   "EX.12 LE.6 ...3 LE.1 ...1 LE.2 EX.1 NU.a LE.1c EX.8 ...1 ST.1 LE.17 EX.d ...c LE.1d ...3",
   "EX.4 LE.2f EX.e ...7 ST.2 ...5 LE.1 NU.a ...6 LE.5 EX.1 LE.a NU.a LE.5 ...1 LE.29 EX.e ...9",
   "LE.3 EX.1 LE.8 EX.2 ...2 NU.a ...3 ST.3 LE.17 ...3 LE.1 EX.3 LE.32 EX.1 LE.1 EX.3 LE.2 EX.2",
   "LE.5 EX.2 LE.1 EX.1 LE.1 ...18 LE.3 ...2 LE.b EX.5 ST.2 LE.3 EX.2 ...a LE.6 ...2 LE.6 ...2",
   "LE.6 ...9 LE.7 ...1 LE.7 ...1 LO.2b ...1 LO.e ...6 LO.50 LE.23 EX.8 ST.1 EX.2 ...2 NU.a ...6",
   "LE.2ba4 ...c LE.17 ...4 LE.31 ...2104 LE.16e ...2 LE.6a ...26 LO.7 ...c LO.5 ...5 LE.1 EX.1",
   "LE.a ...1 LE.d ...1 LE.5 ...1 LE.1 ...1 LE.2 ...1 LE.2 ...1 LE.6c ...21 LE.16b CL.2 ...10",
   "LE.40 ...2 LE.36 ...28 LE.c ...4 EX.10 SC.2 ST.1 SC.2 ST.2 CL.2 ...7 EX.10 ...1 SC.2 ...2",
   "CL.10 ...2 CL.2 ...7 SC.2 AT.1 ...1 SC.2 ST.2 SC.1 CL.6 ...4 SC.1 ...c LE.5 ...1 LE.87 ...2",
   "FO.1 ...1 ST.1 ...6 CL.2 ...2 SC.2 AT.1 ...1 NU.a SC.2 ...3 ST.1 ...1 UP.1a CL.1 ...1 CL.1",
   "...3 LO.1a CL.1 ...1 CL.1 ...1 CL.2 ST.1 CL.2 SC.1 ...1 LE.38 EX.2 LE.1f ...3 LE.6 ...2 LE.6",
   "...2 LE.6 ...2 LE.3 ...1c FO.3 ...4 LE.c ...1 LE.1a ...1 LE.13 ...1 LE.2 ...1 LE.f ...2 LE.e",
   "...22 LE.7b ...45 LE.35 ...88 EX.1 ...82 LE.1d ...3 LE.31 ...f EX.1 ...1f LE.20 ...d LE.1e",
   "...5 LE.26 EX.5 ...5 LE.1e ...2 LE.24 ...4 LE.8 ...1 LE.5 ...2a UP.28 LO.28 LE.4e ...2 NU.a",
   "...6 UP.24 ...4 LO.24 ...4 LE.28 ...8 LE.34 ...c UP.b ...1 UP.f ...1 UP.7 ...1 UP.2 ...1",
   "LO.b ...1 LO.f ...1 LO.7 ...1 LO.2 ...3 LE.34 ...c LE.137 ...9 LE.16 ...a LE.8 ...18 LO.1",
   "LE.2 LO.3 ...1 LO.2a ...1 LO.9 ...45 LE.6 ...2 LE.1 ...1 LE.2c ...1 LE.2 ...3 LE.1 ...2",
   "LE.17 ...a LE.17 ...9 LE.1f ...41 LE.13 ...1 LE.2 ...a LE.16 ...a LE.1a ...46 LE.38 ...6",
   "LE.2 ...40 LE.1 EX.3 ...1 EX.2 ...5 EX.4 LE.4 ...1 LE.3 ...1 LE.1d ...2 EX.3 ...4 EX.1 ...16",
   "ST.2 ...8 LE.1d ...3 LE.1d ...23 LE.8 ...1 LE.1c EX.2 ...19 LE.36 ...a LE.16 ...a LE.13 ...d",
   "LE.12 ...6e LE.49 ...37 UP.33 ...d LO.33 ...d LE.24 EX.4 ...8 NU.a ...6 NU.a LE.6 UP.16 ...3",
   "EX.5 ...1 LE.1 LO.16 ...fa LE.2a ...1 EX.2 ...3 LE.2 ...10 LE.3 ...37 EX.4 LE.1d ...a LE.1",
   "...8 LE.16 EX.b ...4 ST.5 ...16 LE.12 EX.4 ST.4 ...26 LE.15 ...1b LE.17 ...9 EX.3 LE.35 EX.f",
   "ST.2 ...1d NU.a EX.1 LE.2 EX.2 LE.1 ...9 EX.4 LE.2d EX.b ...2 NU.1 ST.4 EX.1 ...a NU.1 ...2",
   "LE.19 ...7 NU.a ...6 EX.3 LE.24 EX.e ...1 NU.a ...1 ST.3 LE.1 EX.2 LE.1 ...8 LE.23 EX.1 ...2",
   "LE.1 ...9 EX.3 LE.30 EX.e LE.4 ST.2 ...2 EX.4 ST.1 EX.2 NU.a LE.1 ...1 LE.1 ...1 ST.2 ...20",
   "LE.12 ...1 LE.19 EX.c ST.2 ...1 ST.2 ...1 EX.1 LE.2 EX.1 ...3e LE.7 ...1 LE.1 ...1 LE.4 ...1",
   "LE.f ...1 LE.a ST.1 ...6 LE.2f EX.c ...5 NU.a ...6 EX.4 ...1 LE.8 ...2 LE.2 ...2 LE.16 ...1",
   "LE.7 ...1 LE.2 ...1 LE.5 ...1 EX.2 LE.1 EX.7 ...2 EX.2 ...2 EX.3 ...2 LE.1 ...6 EX.1 ...5",
   "LE.5 EX.2 ...2 EX.7 ...3 EX.5 ...b LE.a ...1 LE.1 ...2 LE.1 ...1 LE.26 ...1 LE.1 EX.9 ...1",
   "EX.1 ...2 EX.1 ...1 EX.4 ...1 EX.5 LE.1 EX.1 LE.1 ST.2 ...b EX.2 ...1d LE.35 EX.12 LE.4 ST.2",
   "...3 NU.a ...4 EX.1 LE.3 ...1e LE.30 EX.14 LE.2 ...1 LE.1 ...8 NU.a ...a6 LE.2f EX.7 ...2",
   "EX.9 ...1 ST.2 ...5 ST.f LE.4 EX.2 ...22 LE.30 EX.11 ST.2 ...1 LE.1 ...b NU.a ...26 LE.2b",
   "EX.d LE.1 ...7 NU.a ...6 NU.14 ...1c LE.1b ...2 EX.f ...4 NU.a ...2 ST.3 ...1 LE.7 ...b9",
   "LE.2c EX.f ...65 UP.20 LO.20 NU.a ...15 LE.8 ...2 LE.1 ...2 LE.8 ...1 LE.2 ...1 LE.18 EX.6",
   "...1 EX.2 ...2 EX.4 LE.1 EX.1 LE.1 EX.2 ST.1 ...1 ST.1 ...9 NU.a ...46 LE.8 ...2 LE.27 EX.7",
   "...2 EX.7 LE.1 ...1 LE.1 EX.1 ...1b LE.1 EX.a LE.28 EX.7 LE.1 EX.4 ...3 ST.2 ...3 EX.1 ...8",
   "LE.1 EX.b LE.2e EX.10 ...1 ST.2 LE.1 ...12 LE.49 ...c7 LE.21 ...f NU.a ...6 LE.9 ...1 LE.25",
   "EX.8 ...1 EX.8 LE.1 ST.2 ...d NU.a ...18 LE.1e ...2 EX.16 ...1 EX.e ...49 LE.7 ...1 LE.2",
   "...1 LE.26 EX.6 ...3 EX.1 ...1 EX.2 ...1 EX.7 LE.1 EX.1 ...8 NU.a ...6 LE.6 ...1 LE.2 ...1",
   "LE.20 EX.5 ...1 EX.2 ...1 EX.5 LE.1 ...7 NU.a ...136 LE.13 EX.4 ST.2 ...7 EX.2 LE.1 EX.1",
   "LE.d ...1 LE.22 EX.7 ...3 EX.5 ST.2 ...b NU.a EX.1 ...55 LE.1 ...4f LE.39a ...66 LE.6f ...11",
   "LE.c4 ...a4c LE.61 ...f LE.430 FO.10 EX.1 LE.6 EX.f ...a LE.f9b ...5 LE.247 ...1ab9 LE.1e",
   "EX.12 NU.a ...6c6 LE.239 ...7 LE.1f ...1 NU.a ...4 ST.2 LE.4f ...1 NU.a ...6 LE.1e ...2 EX.5",
   "ST.1 ...a LE.30 EX.7 ST.2 ...7 LE.4 ST.1 ...b NU.a ...9 LE.15 ...5 LE.13 ...1b0 LE.2d ...1",
   "ST.2 NU.a ...c6 UP.20 LO.20 ...18 ST.1 ...67 LE.4b ...4 EX.1 LE.1 EX.37 ...7 EX.4 LE.d ...40",
   "LE.2 ...1 LE.1 EX.1 ...b EX.2 ...e LE.17f8 ...8 LE.4d6 ...29 LE.a ...22e7 LE.4 ...1 LE.7",
   "...1 LE.2 ...1 LE.123 ...f LE.1 ...1d LE.3 ...2 LE.1 ...e LE.4 ...8 LE.18c ...904 LE.6b ...5",
   "LE.d ...3 LE.9 ...7 LE.a ...3 EX.2 ST.1 FO.4 ...104c NU.a ...206 EX.2e ...2 EX.17 ...21e",
   "EX.5 ...3 EX.6 FO.8 EX.8 ...2 EX.7 ...1e EX.4 ...94 EX.3 ...1bb UP.1a LO.1a UP.1a LO.7 ...1",
   "LO.12 UP.1a LO.1a UP.1 ...1 UP.2 ...2 UP.1 ...2 UP.2 ...2 UP.4 ...1 UP.8 LO.4 ...1 LO.1 ...1",
   "LO.7 ...1 LO.b UP.1a LO.1a UP.2 ...1 UP.4 ...2 UP.8 ...1 UP.7 ...1 LO.1a UP.2 ...1 UP.4 ...1",
   "UP.5 ...1 UP.1 ...3 UP.7 ...1 LO.1a UP.1a LO.1a UP.1a LO.1a UP.1a LO.1a UP.1a LO.1a UP.1a",
   "LO.1a UP.1a LO.1c ...2 UP.19 ...1 LO.19 ...1 LO.6 UP.19 ...1 LO.19 ...1 LO.6 UP.19 ...1",
   "LO.19 ...1 LO.6 UP.19 ...1 LO.19 ...1 LO.6 UP.19 ...1 LO.19 ...1 LO.6 UP.1 LO.1 ...2 NU.32",
   "...200 EX.37 ...4 EX.32 ...8 EX.1 ...e EX.1 ...3 ST.1 ...12 EX.5 ...1 EX.f ...450 LO.a LE.1",
   "LO.14 ...6 LO.6 ...d5 EX.7 ...1 EX.11 ...2 EX.7 ...1 EX.2 ...1 EX.5 ...5 LO.3e ...21 EX.1",
   "...70 LE.2d ...3 EX.7 LE.7 ...2 NU.a ...4 LE.1 ...141 LE.1e EX.1 ...11 LE.2c EX.4 NU.a",
   "...1d6 LE.1c EX.4 NU.a ...d6 LE.1e EX.2 LE.1 NU.a ...1e5 LE.7 ...1 LE.4 ...1 LE.2 ...1 LE.f",
   "...1 LE.c5 ...b EX.7 ...29 UP.22 LO.22 EX.7 LE.1 ...4 NU.a ...4a6 LE.4 ...1 LE.1b ...1 LE.2",
   "...1 LE.1 ...2 LE.1 ...1 LE.a ...1 LE.4 ...1 LE.1 ...1 LE.1 ...6 LE.1 ...4 LE.1 ...1 LE.1",
   "...1 LE.1 ...1 LE.3 ...1 LE.2 ...1 LE.1 ...2 LE.1 ...1 LE.1 ...1 LE.1 ...1 LE.1 ...1 LE.1",
   "...1 LE.2 ...1 LE.1 ...2 LE.4 ...1 LE.7 ...1 LE.4 ...1 LE.4 ...1 LE.1 ...1 LE.a ...1 LE.11",
   "...5 LE.3 ...1 LE.5 ...1 LE.11 ...274 UP.1a ...6 UP.1a ...6 UP.1a ...4ec CL.3 ...577 NU.a",
   "...406 LE.a6e0 ...20 LE.103a ...6 LE.de ...2 LE.1682 ...e LE.1d31 ...f LE.26e ...9a2 LE.21e",
   "...5e2 LE.134b ...5 LE.1060 ...adc51 FO.1 ...1e EX.60 ...80 EX.f0 ...2fe10"]

/-- The division by meaning to sentence bounds. -/
def sentenceBreak : Partition where
  stretches := taggedRuns 3 sentenceBreakRuns
  names :=
    [(["at", "aterm"], ["AT."]),
     (["cr"], ["CR."]),
     (["cl", "close"], ["CL."]),
     (["ex", "extend"], ["EX."]),
     (["fo", "format"], ["FO."]),
     (["lf"], ["LF."]),
     (["lo", "lower"], ["LO."]),
     (["nu", "numeric"], ["NU."]),
     (["le", "oletter"], ["LE."]),
     (["sc", "scontinue"], ["SC."]),
     (["st", "sterm"], ["ST."]),
     (["se", "sep"], ["SE."]),
     (["sp"], ["SP."]),
     (["up", "upper"], ["UP."])]

end Polymatch.Unicode
