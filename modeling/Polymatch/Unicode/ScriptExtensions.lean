import Polymatch.Unicode.Script

/-! # Characters shared by scripts

Some characters are in use with several scripts, or with another one than the
script they are counted to.
-/

namespace Polymatch.Unicode

/-- Shared code points with all scripts that they are in use with. -/
def sharedCharacters : List (Interval × String) :=
  [(⟨0xB7, 0xB8⟩, "Avst Cari Copt Dupl Elba Geor Glag Gong Goth Grek Hani Latn Lydi Mahj Perm Shaw"),
   (⟨0x2BC, 0x2BD⟩, "Beng Cyrl Deva Latn Lisu Thai Toto"),
   (⟨0x2C7, 0x2C8⟩, "Bopo Latn"),
   (⟨0x2C9, 0x2CC⟩, "Bopo Latn"),
   (⟨0x2CD, 0x2CE⟩, "Latn Lisu"),
   (⟨0x2D7, 0x2D8⟩, "Latn Thai"),
   (⟨0x2D9, 0x2DA⟩, "Bopo Latn"),
   (⟨0x300, 0x301⟩, "Cher Copt Cyrl Grek Latn Perm Sunu Tale"),
   (⟨0x301, 0x302⟩, "Cher Cyrl Grek Latn Osge Sunu Tale Todr"),
   (⟨0x302, 0x303⟩, "Cher Cyrl Latn Tfng"),
   (⟨0x303, 0x304⟩, "Glag Latn Sunu Syrc Thai"),
   (⟨0x304, 0x305⟩, "Aghb Cher Copt Cyrl Goth Grek Latn Osge Syrc Tfng Todr"),
   (⟨0x305, 0x306⟩, "Copt Elba Glag Goth Kana Latn"),
   (⟨0x306, 0x307⟩, "Cyrl Grek Latn Perm"),
   (⟨0x307, 0x308⟩, "Copt Dupl Hebr Latn Perm Syrc Tale Tfng Todr"),
   (⟨0x308, 0x309⟩, "Armn Cyrl Dupl Goth Grek Hebr Latn Perm Syrc Tale"),
   (⟨0x309, 0x30A⟩, "Latn Tfng"),
   (⟨0x30A, 0x30B⟩, "Dupl Latn Syrc"),
   (⟨0x30B, 0x30C⟩, "Cher Cyrl Latn Osge"),
   (⟨0x30C, 0x30D⟩, "Cher Latn Tale"),
   (⟨0x30D, 0x30E⟩, "Latn Sunu"),
   (⟨0x30E, 0x30F⟩, "Ethi Latn"),
   (⟨0x310, 0x311⟩, "Latn Sunu"),
   (⟨0x311, 0x312⟩, "Cyrl Latn Todr"),
   (⟨0x313, 0x314⟩, "Grek Latn Perm Todr"),
   (⟨0x320, 0x321⟩, "Latn Syrc"),
   (⟨0x323, 0x324⟩, "Cher Dupl Kana Latn Syrc"),
   (⟨0x324, 0x325⟩, "Cher Dupl Latn Syrc"),
   (⟨0x325, 0x326⟩, "Latn Syrc"),
   (⟨0x32D, 0x32E⟩, "Latn Sunu Syrc"),
   (⟨0x32E, 0x32F⟩, "Latn Syrc"),
   (⟨0x330, 0x331⟩, "Cher Latn Syrc"),
   (⟨0x331, 0x332⟩, "Aghb Cher Goth Latn Sunu Thai"),
   (⟨0x342, 0x343⟩, "Grek"),
   (⟨0x345, 0x346⟩, "Grek"),
   (⟨0x358, 0x359⟩, "Latn Osge"),
   (⟨0x35E, 0x35F⟩, "Aghb Latn Todr"),
   (⟨0x363, 0x370⟩, "Latn"),
   (⟨0x374, 0x376⟩, "Copt Grek"),
   (⟨0x483, 0x484⟩, "Cyrl Perm"),
   (⟨0x484, 0x485⟩, "Cyrl Glag"),
   (⟨0x485, 0x487⟩, "Cyrl Latn"),
   (⟨0x487, 0x488⟩, "Cyrl Glag"),
   (⟨0x589, 0x58A⟩, "Armn Geor Glag"),
   (⟨0x60C, 0x60D⟩, "Arab Gara Nkoo Rohg Syrc Thaa Yezi"),
   (⟨0x61B, 0x61C⟩, "Arab Gara Nkoo Rohg Syrc Thaa Yezi"),
   (⟨0x61C, 0x61D⟩, "Arab Syrc Thaa"),
   (⟨0x61F, 0x620⟩, "Adlm Arab Gara Nkoo Rohg Syrc Thaa Yezi"),
   (⟨0x640, 0x641⟩, "Adlm Arab Mand Mani Ougr Phlp Rohg Sogd Syrc"),
   (⟨0x64B, 0x656⟩, "Arab Syrc"),
   (⟨0x660, 0x66A⟩, "Arab Thaa Yezi"),
   (⟨0x670, 0x671⟩, "Arab Syrc"),
   (⟨0x6D4, 0x6D5⟩, "Arab Rohg"),
   (⟨0x951, 0x952⟩, "Beng Deva Gran Gujr Guru Knda Latn Mlym Orya Shrd Taml Telu Tirh"),
   (⟨0x952, 0x953⟩, "Beng Deva Gran Gujr Guru Knda Latn Mlym Orya Taml Telu Tirh"),
   (⟨0x964, 0x965⟩, "Beng Deva Dogr Gong Gonm Gran Gujr Guru Knda Mahj Mlym Nand Onao Orya Sind Sinh Sylo Takr Taml Telu Tirh"),
   (⟨0x965, 0x966⟩, "Beng Deva Dogr Gong Gonm Gran Gujr Gukh Guru Knda Limb Mahj Mlym Nand Onao Orya Sind Sinh Sylo Takr Taml Telu Tirh"),
   (⟨0x966, 0x970⟩, "Deva Dogr Kthi Mahj"),
   (⟨0x9E6, 0x9F0⟩, "Beng Cakm Sylo"),
   (⟨0xA66, 0xA70⟩, "Guru Mult"),
   (⟨0xAE6, 0xAF0⟩, "Gujr Khoj"),
   (⟨0xBE6, 0xBF4⟩, "Gran Taml"),
   (⟨0xCE6, 0xCF0⟩, "Knda Nand Tutg"),
   (⟨0x1040, 0x104A⟩, "Cakm Mymr Tale"),
   (⟨0x10FB, 0x10FC⟩, "Geor Glag Latn"),
   (⟨0x16EB, 0x16EE⟩, "Runr"),
   (⟨0x1735, 0x1737⟩, "Buhd Hano Tagb Tglg"),
   (⟨0x1802, 0x1804⟩, "Mong Phag"),
   (⟨0x1805, 0x1806⟩, "Mong Phag"),
   (⟨0x1CD0, 0x1CD1⟩, "Beng Deva Gran Knda"),
   (⟨0x1CD1, 0x1CD2⟩, "Deva"),
   (⟨0x1CD2, 0x1CD3⟩, "Beng Deva Gran Knda"),
   (⟨0x1CD3, 0x1CD4⟩, "Deva Gran Knda"),
   (⟨0x1CD4, 0x1CD5⟩, "Deva"),
   (⟨0x1CD5, 0x1CD7⟩, "Beng Deva"),
   (⟨0x1CD7, 0x1CD8⟩, "Deva Shrd"),
   (⟨0x1CD8, 0x1CD9⟩, "Beng Deva"),
   (⟨0x1CD9, 0x1CDA⟩, "Deva Shrd"),
   (⟨0x1CDA, 0x1CDB⟩, "Deva Knda Mlym Orya Taml Telu"),
   (⟨0x1CDB, 0x1CDC⟩, "Deva"),
   (⟨0x1CDC, 0x1CDE⟩, "Deva Shrd"),
   (⟨0x1CDE, 0x1CE0⟩, "Deva"),
   (⟨0x1CE0, 0x1CE1⟩, "Deva Shrd"),
   (⟨0x1CE1, 0x1CE2⟩, "Beng Deva"),
   (⟨0x1CE2, 0x1CE9⟩, "Deva"),
   (⟨0x1CE9, 0x1CEA⟩, "Deva Nand"),
   (⟨0x1CEA, 0x1CEB⟩, "Beng Deva"),
   (⟨0x1CEB, 0x1CED⟩, "Deva"),
   (⟨0x1CED, 0x1CEE⟩, "Beng Deva"),
   (⟨0x1CEE, 0x1CF2⟩, "Deva"),
   (⟨0x1CF2, 0x1CF3⟩, "Beng Deva Gran Knda Mlym Nand Orya Sinh Telu Tirh Tutg"),
   (⟨0x1CF3, 0x1CF4⟩, "Deva Gran"),
   (⟨0x1CF4, 0x1CF5⟩, "Deva Gran Knda Tutg"),
   (⟨0x1CF5, 0x1CF7⟩, "Beng Deva"),
   (⟨0x1CF7, 0x1CF8⟩, "Beng"),
   (⟨0x1CF8, 0x1CFA⟩, "Deva Gran"),
   (⟨0x1CFA, 0x1CFB⟩, "Nand"),
   (⟨0x1DC0, 0x1DC2⟩, "Grek"),
   (⟨0x1DF8, 0x1DF9⟩, "Cyrl Latn Syrc"),
   (⟨0x1DFA, 0x1DFB⟩, "Syrc"),
   (⟨0x202F, 0x2030⟩, "Latn Mong Phag"),
   (⟨0x204F, 0x2050⟩, "Adlm Arab"),
   (⟨0x205A, 0x205B⟩, "Cari Geor Glag Hung Lyci Orkh"),
   (⟨0x205D, 0x205E⟩, "Cari Grek Hung Mero"),
   (⟨0x20F0, 0x20F1⟩, "Deva Gran Latn"),
   (⟨0x2E17, 0x2E18⟩, "Copt Latn"),
   (⟨0x2E30, 0x2E31⟩, "Avst Orkh"),
   (⟨0x2E31, 0x2E32⟩, "Avst Cari Geor Hung Kthi Lydi Samr"),
   (⟨0x2E3C, 0x2E3D⟩, "Dupl"),
   (⟨0x2E41, 0x2E42⟩, "Adlm Arab Hung"),
   (⟨0x2E43, 0x2E44⟩, "Cyrl Glag"),
   (⟨0x2FF0, 0x3000⟩, "Hani Tang"),
   (⟨0x3001, 0x3002⟩, "Bopo Hang Hani Hira Kana Mong Yiii"),
   (⟨0x3002, 0x3003⟩, "Bopo Hang Hani Hira Kana Mong Phag Yiii"),
   (⟨0x3003, 0x3004⟩, "Bopo Hang Hani Hira Kana"),
   (⟨0x3006, 0x3007⟩, "Hani"),
   (⟨0x3008, 0x300A⟩, "Bopo Hang Hani Hira Kana Mong Tibt Yiii"),
   (⟨0x300A, 0x300C⟩, "Bopo Hang Hani Hira Kana Lisu Mong Tibt Yiii"),
   (⟨0x300C, 0x3012⟩, "Bopo Hang Hani Hira Kana Yiii"),
   (⟨0x3013, 0x3014⟩, "Bopo Hang Hani Hira Kana"),
   (⟨0x3014, 0x301C⟩, "Bopo Hang Hani Hira Kana Yiii"),
   (⟨0x301C, 0x3020⟩, "Bopo Hang Hani Hira Kana"),
   (⟨0x302A, 0x302E⟩, "Bopo Hani"),
   (⟨0x3030, 0x3031⟩, "Bopo Hang Hani Hira Kana"),
   (⟨0x3031, 0x3036⟩, "Hira Kana"),
   (⟨0x3037, 0x3038⟩, "Bopo Hang Hani Hira Kana"),
   (⟨0x303C, 0x303E⟩, "Hani Hira Kana"),
   (⟨0x303E, 0x3040⟩, "Hani"),
   (⟨0x3099, 0x309D⟩, "Hira Kana"),
   (⟨0x30A0, 0x30A1⟩, "Hira Kana"),
   (⟨0x30FB, 0x30FC⟩, "Bopo Hang Hani Hira Kana Yiii"),
   (⟨0x30FC, 0x30FD⟩, "Hira Kana"),
   (⟨0x3190, 0x31A0⟩, "Hani"),
   (⟨0x31C0, 0x31E6⟩, "Hani"),
   (⟨0x31EF, 0x31F0⟩, "Hani Tang"),
   (⟨0x3220, 0x3248⟩, "Hani"),
   (⟨0x3280, 0x32B1⟩, "Hani"),
   (⟨0x32C0, 0x32CC⟩, "Hani"),
   (⟨0x32FF, 0x3300⟩, "Hani"),
   (⟨0x3358, 0x3371⟩, "Hani"),
   (⟨0x337B, 0x3380⟩, "Hani"),
   (⟨0x33E0, 0x33FF⟩, "Hani"),
   (⟨0xA66F, 0xA670⟩, "Cyrl Glag"),
   (⟨0xA700, 0xA708⟩, "Hani Latn"),
   (⟨0xA830, 0xA833⟩, "Deva Dogr Gujr Guru Khoj Knda Kthi Mahj Mlym Modi Nand Shrd Sind Takr Tirh Tutg"),
   (⟨0xA833, 0xA836⟩, "Deva Dogr Gujr Guru Khoj Knda Kthi Mahj Modi Nand Shrd Sind Takr Tirh Tutg"),
   (⟨0xA836, 0xA838⟩, "Deva Dogr Gujr Guru Khoj Kthi Mahj Modi Sind Takr Tirh"),
   (⟨0xA838, 0xA839⟩, "Deva Dogr Gujr Guru Khoj Kthi Mahj Modi Shrd Sind Takr Tirh"),
   (⟨0xA839, 0xA83A⟩, "Deva Dogr Gujr Guru Khoj Kthi Mahj Modi Sind Takr Tirh"),
   (⟨0xA8F1, 0xA8F2⟩, "Beng Deva Tutg"),
   (⟨0xA8F3, 0xA8F4⟩, "Deva Taml"),
   (⟨0xA92E, 0xA92F⟩, "Kali Latn Mymr"),
   (⟨0xA9CF, 0xA9D0⟩, "Bugi Java"),
   (⟨0xFD3E, 0xFD40⟩, "Arab Nkoo"),
   (⟨0xFDF2, 0xFDF3⟩, "Arab Thaa"),
   (⟨0xFDFD, 0xFDFE⟩, "Arab Thaa"),
   (⟨0xFE45, 0xFE47⟩, "Bopo Hang Hani Hira Kana"),
   (⟨0xFF61, 0xFF66⟩, "Bopo Hang Hani Hira Kana Yiii"),
   (⟨0xFF70, 0xFF71⟩, "Hira Kana"),
   (⟨0xFF9E, 0xFFA0⟩, "Hira Kana"),
   (⟨0x10100, 0x10102⟩, "Cpmn Cprt Linb"),
   (⟨0x10102, 0x10103⟩, "Cprt Linb"),
   (⟨0x10107, 0x10134⟩, "Cprt Lina Linb"),
   (⟨0x10137, 0x10140⟩, "Cprt Linb"),
   (⟨0x102E0, 0x102FC⟩, "Arab Copt"),
   (⟨0x10AF2, 0x10AF3⟩, "Mani Ougr"),
   (⟨0x11301, 0x11302⟩, "Gran Taml"),
   (⟨0x11303, 0x11304⟩, "Gran Taml"),
   (⟨0x1133B, 0x1133D⟩, "Gran Taml"),
   (⟨0x11FD0, 0x11FD2⟩, "Gran Taml"),
   (⟨0x11FD3, 0x11FD4⟩, "Gran Taml"),
   (⟨0x1BCA0, 0x1BCA4⟩, "Dupl"),
   (⟨0x1D360, 0x1D372⟩, "Hani"),
   (⟨0x1F250, 0x1F252⟩, "Hani")]

/-- The code points in use with the script of a label. -/
def scriptExtension (label : String) : List Interval :=
  let own := (script.members [label]).flatMap fun i =>
    Interval.gaps i.lo i.hi (sharedCharacters.map (·.1))
  let shared := sharedCharacters.filter fun (_, labels) => (words [labels]).contains label.toList
  Interval.normalize (own ++ shared.map (·.1))

/-- The code points in use with the script of a folded name. -/
def scriptExtension? (name : String) : Option (List Interval) :=
  (script.labels? name).map (·.flatMap scriptExtension)

end Polymatch.Unicode
