/-
Characters that are used in a script without belonging to it alone, by the long name of the script, in the
notation of `CharSet.ofTable`.
-/
namespace Reshape.Unicode.ScriptUseTable

def shared : List (String × String) :=
  [("Adlam",
    "61F 640 204F 2E41"),
   ("Caucasian_Albanian",
    "304 331 35E"),
   ("Arabic",
    "60C 61B 61F 640 64B-655 670 204F 2E41 FD3E-FD3F 102E0-102FB"),
   ("Armenian",
    "308"),
   ("Avestan",
    "B7 2E30-2E31"),
   ("Bengali",
    "2BC 951-952 964-965 1CD0 1CD2 1CD5-1CD6 1CD8 1CE1 1CEA 1CED 1CF2 1CF5-1CF7 A8F1"),
   ("Bopomofo",
    "2C7 2C9-2CB 2D9 3001-3003 3008-3011 3013-301F 302A-302D 3030 3037 30FB FE45-FE46 FF61-FF65"),
   ("Buginese",
    "A9CF"),
   ("Buhid",
    "1735-1736"),
   ("Chakma",
    "9E6-9EF 1040-1049"),
   ("Carian",
    "B7 205A 205D 2E31"),
   ("Cherokee",
    "300-302 304 30B-30C 323-324 330-331"),
   ("Coptic",
    "B7 300 304-305 307 374-375 2E17 102E0-102FB"),
   ("Cypro_Minoan",
    "10100-10101"),
   ("Cypriot",
    "10100-10102 10107-10133 10137-1013F"),
   ("Cyrillic",
    "2BC 300-302 304-308/2 30B 311 485-486 1DF8 2E43"),
   ("Devanagari",
    "2BC 951-952 964-965 1CD0-1CF6 1CF8-1CF9 20F0 A830-A839"),
   ("Dogra",
    "964-96F A830-A839"),
   ("Duployan",
    "B7 307-308 30A 323-324 2E3C 1BCA0-1BCA3"),
   ("Elbasan",
    "B7 305"),
   ("Ethiopic",
    "30E"),
   ("Georgian",
    "B7 589 10FB 205A 2E31"),
   ("Glagolitic",
    "B7 303 305 484 487 589 10FB 205A 2E43 A66F"),
   ("Gunjala_Gondi",
    "B7 964-965"),
   ("Masaram_Gondi",
    "964-965"),
   ("Gothic",
    "B7 304-305 308 331"),
   ("Grantha",
    "951-952 964-965 BE6-BF3 1CD0 1CD2-1CD3 1CF2-1CF4 1CF8-1CF9 20F0 1133B 11FD0-11FD1 11FD3"),
   ("Greek",
    "B7 300-301 304-308/2 313 342 345 374 1DC0-1DC1 205D"),
   ("Gujarati",
    "951-952 964-965 A830-A839"),
   ("Gurmukhi",
    "951-952 964-965 A830-A839"),
   ("Hangul",
    "3001-3003 3008-3011 3013-301F 3030 3037 30FB FE45-FE46 FF61-FF65"),
   ("Han",
    "B7 2FF0-2FFF 3001-3003 3006 3008-3011 3013-301F 302A-302D 3030 3037 303C-303F 30FB 3190-319F
    31C0-31E5 31EF 3220-3247 3280-32B0 32C0-32CB 32FF 3358-3370 337B-337F 33E0-33FE A700-A707
    FE45-FE46 FF61-FF65 1D360-1D371 1F250-1F251"),
   ("Hanunoo",
    "1735-1736"),
   ("Hebrew",
    "307-308"),
   ("Hiragana",
    "3001-3003 3008-3011 3013-301F 3030-3035 3037 303C-303D 3099-309C 30A0 30FB-30FC FE45-FE46
    FF61-FF65 FF70 FF9E-FF9F"),
   ("Old_Hungarian",
    "205A 205D 2E31 2E41"),
   ("Javanese",
    "A9CF"),
   ("Kayah_Li",
    "A92E"),
   ("Katakana",
    "305 323 3001-3003 3008-3011 3013-301F 3030-3035 3037 303C-303D 3099-309C 30A0 30FB-30FC
    FE45-FE46 FF61-FF65 FF70 FF9E-FF9F"),
   ("Khojki",
    "AE6-AEF A830-A839"),
   ("Kannada",
    "951-952 964-965 1CD0 1CD2-1CD3 1CDA 1CF2 1CF4 A830-A835"),
   ("Kaithi",
    "966-96F 2E31 A830-A839"),
   ("Latin",
    "B7 2BC 2C7 2C9-2CB 2CD 2D7 2D9 300-30E 310-311 313 323-325 32D-32E 330-331 358 35E 363-36F
    485-486 951-952 10FB 1DF8 202F 20F0 2E17 A700-A707 A92E"),
   ("Limbu",
    "965"),
   ("Linear_A",
    "10107-10133"),
   ("Linear_B",
    "10100-10102 10107-10133 10137-1013F"),
   ("Lisu",
    "2BC 2CD 300A-300B"),
   ("Lycian",
    "205A"),
   ("Lydian",
    "B7 2E31"),
   ("Mahajani",
    "B7 964-96F A830-A839"),
   ("Mandaic",
    "640"),
   ("Manichaean",
    "640"),
   ("Meroitic_Hieroglyphs",
    "205D"),
   ("Malayalam",
    "951-952 964-965 1CDA 1CF2 A830-A832"),
   ("Modi",
    "A830-A839"),
   ("Mongolian",
    "1802-1803 1805 202F 3001-3002 3008-300B"),
   ("Multani",
    "A66-A6F"),
   ("Myanmar",
    "A92E"),
   ("Nandinagari",
    "951 964-965 CE6-CEF 1CE9 1CF2 1CFA A830-A835"),
   ("Newa",
    "951-952 1CD5 1CD7-1CD8 1CE2 1CE9-1CED/2"),
   ("Nko",
    "60C 61B 61F FD3E-FD3F"),
   ("Old_Turkic",
    "205A 2E30"),
   ("Oriya",
    "951-952 964-965 1CDA 1CF2"),
   ("Osage",
    "301 304 30B 358"),
   ("Old_Uyghur",
    "640 10AF2"),
   ("Old_Permic",
    "B7 300 306-308 313 483"),
   ("Phags_Pa",
    "1802-1803 1805 202F 3002"),
   ("Psalter_Pahlavi",
    "640"),
   ("Hanifi_Rohingya",
    "60C 61B 61F 640 6D4"),
   ("Runic",
    "16EB-16ED"),
   ("Samaritan",
    "2E31"),
   ("Shavian",
    "B7"),
   ("Sharada",
    "951 1CD7 1CD9 1CDC-1CDD 1CE0 1CEA 1CED A830-A835 A838"),
   ("Khudawadi",
    "964-965 A830-A839"),
   ("Sinhala",
    "964-965 1CF2"),
   ("Sogdian",
    "640"),
   ("Syloti_Nagri",
    "964-965 9E6-9EF"),
   ("Syriac",
    "303-304 307-308 30A 323-325 32D-32E 330-331 60C 61B-61C 61F 640 64B-655 670 1DF8 1DFA"),
   ("Tagbanwa",
    "1735-1736"),
   ("Takri",
    "964-965 A830-A839"),
   ("Tai_Le",
    "300-301 307-308 30C 1040-1049"),
   ("Tamil",
    "951-952 964-965 1CDA A8F3 11301 11303 1133B-1133C"),
   ("Tangut",
    "2FF0-2FFF 31EF"),
   ("Telugu",
    "951-952 964-965 1CD5-1CD6 1CD8 1CDA 1CF2"),
   ("Tifinagh",
    "302 304 306-309 323"),
   ("Tagalog",
    "1735-1736"),
   ("Thaana",
    "60C 61B-61C 61F 660-669 FDF2 FDFD"),
   ("Thai",
    "2BC 2D7 303 331"),
   ("Tibetan",
    "3008-300B"),
   ("Tirhuta",
    "951-952 964-965 1CD5 1CE2 1CF2 A830-A839"),
   ("Toto",
    "2BC"),
   ("Yezidi",
    "60C 61B 61F 660-669"),
   ("Yi",
    "3001-3002 3008-3011 3014-301B 30FB FF61-FF65")]

end Reshape.Unicode.ScriptUseTable
