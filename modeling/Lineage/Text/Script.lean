/-!
# Scripts

The Unicode script of every code point, as a table of the runs of code points that share one.
-/

namespace Lineage.Text

/-- The scripts, each by its name and its four-letter code. -/
def scriptNames : List (String × String) :=
  [
    ("Adlam", "Adlm"), ("Ahom", "Ahom"), ("Anatolian_Hieroglyphs", "Hluw"), ("Arabic", "Arab"),
    ("Armenian", "Armn"), ("Avestan", "Avst"), ("Balinese", "Bali"), ("Bamum", "Bamu"),
    ("Bassa_Vah", "Bass"), ("Batak", "Batk"), ("Bengali", "Beng"), ("Bhaiksuki", "Bhks"),
    ("Bopomofo", "Bopo"), ("Brahmi", "Brah"), ("Braille", "Brai"), ("Buginese", "Bugi"),
    ("Buhid", "Buhd"), ("Canadian_Aboriginal", "Cans"), ("Carian", "Cari"),
    ("Caucasian_Albanian", "Aghb"), ("Chakma", "Cakm"), ("Cham", "Cham"), ("Cherokee", "Cher"),
    ("Chorasmian", "Chrs"), ("Common", "Zyyy"), ("Coptic", "Copt"), ("Cuneiform", "Xsux"),
    ("Cypriot", "Cprt"), ("Cypro_Minoan", "Cpmn"), ("Cyrillic", "Cyrl"), ("Deseret", "Dsrt"),
    ("Devanagari", "Deva"), ("Dives_Akuru", "Diak"), ("Dogra", "Dogr"), ("Duployan", "Dupl"),
    ("Egyptian_Hieroglyphs", "Egyp"), ("Elbasan", "Elba"), ("Elymaic", "Elym"),
    ("Ethiopic", "Ethi"), ("Garay", "Gara"), ("Georgian", "Geor"), ("Glagolitic", "Glag"),
    ("Gothic", "Goth"), ("Grantha", "Gran"), ("Greek", "Grek"), ("Gujarati", "Gujr"),
    ("Gunjala_Gondi", "Gong"), ("Gurmukhi", "Guru"), ("Gurung_Khema", "Gukh"), ("Han", "Hani"),
    ("Hangul", "Hang"), ("Hanifi_Rohingya", "Rohg"), ("Hanunoo", "Hano"), ("Hatran", "Hatr"),
    ("Hebrew", "Hebr"), ("Hiragana", "Hira"), ("Imperial_Aramaic", "Armi"), ("Inherited", "Zinh"),
    ("Inscriptional_Pahlavi", "Phli"), ("Inscriptional_Parthian", "Prti"), ("Javanese", "Java"),
    ("Kaithi", "Kthi"), ("Kannada", "Knda"), ("Katakana", "Kana"), ("Kawi", "Kawi"),
    ("Kayah_Li", "Kali"), ("Kharoshthi", "Khar"), ("Khitan_Small_Script", "Kits"),
    ("Khmer", "Khmr"), ("Khojki", "Khoj"), ("Khudawadi", "Sind"), ("Kirat_Rai", "Krai"),
    ("Lao", "Laoo"), ("Latin", "Latn"), ("Lepcha", "Lepc"), ("Limbu", "Limb"), ("Linear_A", "Lina"),
    ("Linear_B", "Linb"), ("Lisu", "Lisu"), ("Lycian", "Lyci"), ("Lydian", "Lydi"),
    ("Mahajani", "Mahj"), ("Makasar", "Maka"), ("Malayalam", "Mlym"), ("Mandaic", "Mand"),
    ("Manichaean", "Mani"), ("Marchen", "Marc"), ("Masaram_Gondi", "Gonm"), ("Medefaidrin", "Medf"),
    ("Meetei_Mayek", "Mtei"), ("Mende_Kikakui", "Mend"), ("Meroitic_Cursive", "Merc"),
    ("Meroitic_Hieroglyphs", "Mero"), ("Miao", "Plrd"), ("Modi", "Modi"), ("Mongolian", "Mong"),
    ("Mro", "Mroo"), ("Multani", "Mult"), ("Myanmar", "Mymr"), ("Nabataean", "Nbat"),
    ("Nag_Mundari", "Nagm"), ("Nandinagari", "Nand"), ("New_Tai_Lue", "Talu"), ("Newa", "Newa"),
    ("Nko", "Nkoo"), ("Nushu", "Nshu"), ("Nyiakeng_Puachue_Hmong", "Hmnp"), ("Ogham", "Ogam"),
    ("Ol_Chiki", "Olck"), ("Ol_Onal", "Onao"), ("Old_Hungarian", "Hung"), ("Old_Italic", "Ital"),
    ("Old_North_Arabian", "Narb"), ("Old_Permic", "Perm"), ("Old_Persian", "Xpeo"),
    ("Old_Sogdian", "Sogo"), ("Old_South_Arabian", "Sarb"), ("Old_Turkic", "Orkh"),
    ("Old_Uyghur", "Ougr"), ("Oriya", "Orya"), ("Osage", "Osge"), ("Osmanya", "Osma"),
    ("Pahawh_Hmong", "Hmng"), ("Palmyrene", "Palm"), ("Pau_Cin_Hau", "Pauc"), ("Phags_Pa", "Phag"),
    ("Phoenician", "Phnx"), ("Psalter_Pahlavi", "Phlp"), ("Rejang", "Rjng"), ("Runic", "Runr"),
    ("Samaritan", "Samr"), ("Saurashtra", "Saur"), ("Sharada", "Shrd"), ("Shavian", "Shaw"),
    ("Siddham", "Sidd"), ("SignWriting", "Sgnw"), ("Sinhala", "Sinh"), ("Sogdian", "Sogd"),
    ("Sora_Sompeng", "Sora"), ("Soyombo", "Soyo"), ("Sundanese", "Sund"), ("Sunuwar", "Sunu"),
    ("Syloti_Nagri", "Sylo"), ("Syriac", "Syrc"), ("Tagalog", "Tglg"), ("Tagbanwa", "Tagb"),
    ("Tai_Le", "Tale"), ("Tai_Tham", "Lana"), ("Tai_Viet", "Tavt"), ("Takri", "Takr"),
    ("Tamil", "Taml"), ("Tangsa", "Tnsa"), ("Tangut", "Tang"), ("Telugu", "Telu"),
    ("Thaana", "Thaa"), ("Thai", "Thai"), ("Tibetan", "Tibt"), ("Tifinagh", "Tfng"),
    ("Tirhuta", "Tirh"), ("Todhri", "Todr"), ("Toto", "Toto"), ("Tulu_Tigalari", "Tutg"),
    ("Ugaritic", "Ugar"), ("Vai", "Vaii"), ("Vithkuqi", "Vith"), ("Wancho", "Wcho"),
    ("Warang_Citi", "Wara"), ("Yezidi", "Yezi"), ("Yi", "Yiii"), ("Zanabazar_Square", "Zanb")]

/-- The runs of code points that share a script, in ascending order, below 0x2000.  A run that
begins at the code point `n` and has the script at position `k` of `scriptNames` is written `256 * n
+ k`. -/
def scriptRunsBelow2000 : List Nat :=
  [
    0x18, 0x4149, 0x5B18, 0x6149, 0x7B18, 0xAA49, 0xAB18, 0xBA49, 0xBB18, 0xC049, 0xD718, 0xD849,
    0xF718, 0xF849, 0x2B918, 0x2E049, 0x2E518, 0x2EA0C, 0x2EC18, 0x30039, 0x3702C, 0x37418, 0x3752C,
    0x378AA, 0x37A2C, 0x37E18, 0x37F2C, 0x380AA, 0x3842C, 0x38518, 0x3862C, 0x38718, 0x3882C,
    0x38BAA, 0x38C2C, 0x38DAA, 0x38E2C, 0x3A2AA, 0x3A32C, 0x3E219, 0x3F02C, 0x4001D, 0x48539,
    0x4871D, 0x530AA, 0x53104, 0x557AA, 0x55904, 0x58BAA, 0x58D04, 0x590AA, 0x59136, 0x5C8AA,
    0x5D036, 0x5EBAA, 0x5EF36, 0x5F5AA, 0x60003, 0x60518, 0x60603, 0x60C18, 0x60D03, 0x61B18,
    0x61C03, 0x61F18, 0x62003, 0x64018, 0x64103, 0x64B39, 0x65603, 0x67039, 0x67103, 0x6DD18,
    0x6DE03, 0x7008F, 0x70EAA, 0x70F8F, 0x74BAA, 0x74D8F, 0x75003, 0x7809A, 0x7B2AA, 0x7C068,
    0x7FBAA, 0x7FD68, 0x80082, 0x82EAA, 0x83082, 0x83FAA, 0x84054, 0x85CAA, 0x85E54, 0x85FAA,
    0x8608F, 0x86BAA, 0x87003, 0x892AA, 0x89703, 0x8E218, 0x8E303, 0x9001F, 0x95139, 0x9551F,
    0x96418, 0x9661F, 0x9800A, 0x984AA, 0x9850A, 0x98DAA, 0x98F0A, 0x991AA, 0x9930A, 0x9A9AA,
    0x9AA0A, 0x9B1AA, 0x9B20A, 0x9B3AA, 0x9B60A, 0x9BAAA, 0x9BC0A, 0x9C5AA, 0x9C70A, 0x9C9AA,
    0x9CB0A, 0x9CFAA, 0x9D70A, 0x9D8AA, 0x9DC0A, 0x9DEAA, 0x9DF0A, 0x9E4AA, 0x9E60A, 0x9FFAA,
    0xA012F, 0xA04AA, 0xA052F, 0xA0BAA, 0xA0F2F, 0xA11AA, 0xA132F, 0xA29AA, 0xA2A2F, 0xA31AA,
    0xA322F, 0xA34AA, 0xA352F, 0xA37AA, 0xA382F, 0xA3AAA, 0xA3C2F, 0xA3DAA, 0xA3E2F, 0xA43AA,
    0xA472F, 0xA49AA, 0xA4B2F, 0xA4EAA, 0xA512F, 0xA52AA, 0xA592F, 0xA5DAA, 0xA5E2F, 0xA5FAA,
    0xA662F, 0xA77AA, 0xA812D, 0xA84AA, 0xA852D, 0xA8EAA, 0xA8F2D, 0xA92AA, 0xA932D, 0xAA9AA,
    0xAAA2D, 0xAB1AA, 0xAB22D, 0xAB4AA, 0xAB52D, 0xABAAA, 0xABC2D, 0xAC6AA, 0xAC72D, 0xACAAA,
    0xACB2D, 0xACEAA, 0xAD02D, 0xAD1AA, 0xAE02D, 0xAE4AA, 0xAE62D, 0xAF2AA, 0xAF92D, 0xB00AA,
    0xB0177, 0xB04AA, 0xB0577, 0xB0DAA, 0xB0F77, 0xB11AA, 0xB1377, 0xB29AA, 0xB2A77, 0xB31AA,
    0xB3277, 0xB34AA, 0xB3577, 0xB3AAA, 0xB3C77, 0xB45AA, 0xB4777, 0xB49AA, 0xB4B77, 0xB4EAA,
    0xB5577, 0xB58AA, 0xB5C77, 0xB5EAA, 0xB5F77, 0xB64AA, 0xB6677, 0xB78AA, 0xB8296, 0xB84AA,
    0xB8596, 0xB8BAA, 0xB8E96, 0xB91AA, 0xB9296, 0xB96AA, 0xB9996, 0xB9BAA, 0xB9C96, 0xB9DAA,
    0xB9E96, 0xBA0AA, 0xBA396, 0xBA5AA, 0xBA896, 0xBABAA, 0xBAE96, 0xBBAAA, 0xBBE96, 0xBC3AA,
    0xBC696, 0xBC9AA, 0xBCA96, 0xBCEAA, 0xBD096, 0xBD1AA, 0xBD796, 0xBD8AA, 0xBE696, 0xBFBAA,
    0xC0099, 0xC0DAA, 0xC0E99, 0xC11AA, 0xC1299, 0xC29AA, 0xC2A99, 0xC3AAA, 0xC3C99, 0xC45AA,
    0xC4699, 0xC49AA, 0xC4A99, 0xC4EAA, 0xC5599, 0xC57AA, 0xC5899, 0xC5BAA, 0xC5C99, 0xC5EAA,
    0xC6099, 0xC64AA, 0xC6699, 0xC70AA, 0xC7799, 0xC803E, 0xC8DAA, 0xC8E3E, 0xC91AA, 0xC923E,
    0xCA9AA, 0xCAA3E, 0xCB4AA, 0xCB53E, 0xCBAAA, 0xCBC3E, 0xCC5AA, 0xCC63E, 0xCC9AA, 0xCCA3E,
    0xCCEAA, 0xCD53E, 0xCD7AA, 0xCDC3E, 0xCDFAA, 0xCE03E, 0xCE4AA, 0xCE63E, 0xCF0AA, 0xCF13E,
    0xCF4AA, 0xD0053, 0xD0DAA, 0xD0E53, 0xD11AA, 0xD1253, 0xD45AA, 0xD4653, 0xD49AA, 0xD4A53,
    0xD50AA, 0xD5453, 0xD64AA, 0xD6653, 0xD80AA, 0xD8188, 0xD84AA, 0xD8588, 0xD97AA, 0xD9A88,
    0xDB2AA, 0xDB388, 0xDBCAA, 0xDBD88, 0xDBEAA, 0xDC088, 0xDC7AA, 0xDCA88, 0xDCBAA, 0xDCF88,
    0xDD5AA, 0xDD688, 0xDD7AA, 0xDD888, 0xDE0AA, 0xDE688, 0xDF0AA, 0xDF288, 0xDF5AA, 0xE019B,
    0xE3BAA, 0xE3F18, 0xE409B, 0xE5CAA, 0xE8148, 0xE83AA, 0xE8448, 0xE85AA, 0xE8648, 0xE8BAA,
    0xE8C48, 0xEA4AA, 0xEA548, 0xEA6AA, 0xEA748, 0xEBEAA, 0xEC048, 0xEC5AA, 0xEC648, 0xEC7AA,
    0xEC848, 0xECFAA, 0xED048, 0xEDAAA, 0xEDC48, 0xEE0AA, 0xF009C, 0xF48AA, 0xF499C, 0xF6DAA,
    0xF719C, 0xF98AA, 0xF999C, 0xFBDAA, 0xFBE9C, 0xFCDAA, 0xFCE9C, 0xFD518, 0xFD99C, 0xFDBAA,
    0x100062, 0x10A028, 0x10C6AA, 0x10C728, 0x10C8AA, 0x10CD28, 0x10CEAA, 0x10D028, 0x10FB18,
    0x10FC28, 0x110032, 0x120026, 0x1249AA, 0x124A26, 0x124EAA, 0x125026, 0x1257AA, 0x125826,
    0x1259AA, 0x125A26, 0x125EAA, 0x126026, 0x1289AA, 0x128A26, 0x128EAA, 0x129026, 0x12B1AA,
    0x12B226, 0x12B6AA, 0x12B826, 0x12BFAA, 0x12C026, 0x12C1AA, 0x12C226, 0x12C6AA, 0x12C826,
    0x12D7AA, 0x12D826, 0x1311AA, 0x131226, 0x1316AA, 0x131826, 0x135BAA, 0x135D26, 0x137DAA,
    0x138026, 0x139AAA, 0x13A016, 0x13F6AA, 0x13F816, 0x13FEAA, 0x140011, 0x16806B, 0x169DAA,
    0x16A081, 0x16EB18, 0x16EE81, 0x16F9AA, 0x170090, 0x1716AA, 0x171F90, 0x172034, 0x173518,
    0x1737AA, 0x174010, 0x1754AA, 0x176091, 0x176DAA, 0x176E91, 0x1771AA, 0x177291, 0x1774AA,
    0x178044, 0x17DEAA, 0x17E044, 0x17EAAA, 0x17F044, 0x17FAAA, 0x18005F, 0x180218, 0x18045F,
    0x180518, 0x18065F, 0x181AAA, 0x18205F, 0x1879AA, 0x18805F, 0x18ABAA, 0x18B011, 0x18F6AA,
    0x19004B, 0x191FAA, 0x19204B, 0x192CAA, 0x19304B, 0x193CAA, 0x19404B, 0x1941AA, 0x19444B,
    0x195092, 0x196EAA, 0x197092, 0x1975AA, 0x198066, 0x19ACAA, 0x19B066, 0x19CAAA, 0x19D066,
    0x19DBAA, 0x19DE66, 0x19E044, 0x1A000F, 0x1A1CAA, 0x1A1E0F, 0x1A2093, 0x1A5FAA, 0x1A6093,
    0x1A7DAA, 0x1A7F93, 0x1A8AAA, 0x1A9093, 0x1A9AAA, 0x1AA093, 0x1AAEAA, 0x1AB039, 0x1ADEAA,
    0x1AE039, 0x1AECAA, 0x1B0006, 0x1B4DAA, 0x1B4E06, 0x1B808C, 0x1BC009, 0x1BF4AA, 0x1BFC09,
    0x1C004A, 0x1C38AA, 0x1C3B4A, 0x1C4AAA, 0x1C4D4A, 0x1C506C, 0x1C801D, 0x1C8BAA, 0x1C9028,
    0x1CBBAA, 0x1CBD28, 0x1CC08C, 0x1CC8AA, 0x1CD039, 0x1CD318, 0x1CD439, 0x1CE118, 0x1CE239,
    0x1CE918, 0x1CED39, 0x1CEE18, 0x1CF439, 0x1CF518, 0x1CF839, 0x1CFA18, 0x1CFBAA, 0x1D0049,
    0x1D262C, 0x1D2B1D, 0x1D2C49, 0x1D5D2C, 0x1D6249, 0x1D662C, 0x1D6B49, 0x1D781D, 0x1D7949,
    0x1DBF2C, 0x1DC039, 0x1E0049, 0x1F002C, 0x1F16AA, 0x1F182C, 0x1F1EAA, 0x1F202C, 0x1F46AA,
    0x1F482C, 0x1F4EAA, 0x1F502C, 0x1F58AA, 0x1F592C, 0x1F5AAA, 0x1F5B2C, 0x1F5CAA, 0x1F5D2C,
    0x1F5EAA, 0x1F5F2C, 0x1F7EAA, 0x1F802C, 0x1FB5AA, 0x1FB62C, 0x1FC5AA, 0x1FC62C, 0x1FD4AA,
    0x1FD62C, 0x1FDCAA, 0x1FDD2C, 0x1FF0AA, 0x1FF22C, 0x1FF5AA, 0x1FF62C, 0x1FFFAA]

/-- The runs of code points that share a script, in ascending order, from 0x2000 on.  A run that
begins at the code point `n` and has the script at position `k` of `scriptNames` is written `256 * n
+ k`. -/
def scriptRunsFrom2000 : List Nat :=
  [
    0x200018, 0x200C39, 0x200E18, 0x2065AA, 0x206618, 0x207149, 0x2072AA, 0x207418, 0x207F49,
    0x208018, 0x208FAA, 0x209049, 0x209DAA, 0x20A018, 0x20C2AA, 0x20D039, 0x20F1AA, 0x210018,
    0x21262C, 0x212718, 0x212A49, 0x212C18, 0x213249, 0x213318, 0x214E49, 0x214F18, 0x216049,
    0x218918, 0x218CAA, 0x219018, 0x242AAA, 0x244018, 0x244BAA, 0x246018, 0x28000E, 0x290018,
    0x2B74AA, 0x2B7618, 0x2C0029, 0x2C6049, 0x2C8019, 0x2CF4AA, 0x2CF919, 0x2D0028, 0x2D26AA,
    0x2D2728, 0x2D28AA, 0x2D2D28, 0x2D2EAA, 0x2D309D, 0x2D68AA, 0x2D6F9D, 0x2D71AA, 0x2D7F9D,
    0x2D8026, 0x2D97AA, 0x2DA026, 0x2DA7AA, 0x2DA826, 0x2DAFAA, 0x2DB026, 0x2DB7AA, 0x2DB826,
    0x2DBFAA, 0x2DC026, 0x2DC7AA, 0x2DC826, 0x2DCFAA, 0x2DD026, 0x2DD7AA, 0x2DD826, 0x2DDFAA,
    0x2DE01D, 0x2E0018, 0x2E5EAA, 0x2E8031, 0x2E9AAA, 0x2E9B31, 0x2EF4AA, 0x2F0031, 0x2FD6AA,
    0x2FF018, 0x300531, 0x300618, 0x300731, 0x300818, 0x302131, 0x302A39, 0x302E32, 0x303018,
    0x303831, 0x303C18, 0x3040AA, 0x304137, 0x3097AA, 0x309939, 0x309B18, 0x309D37, 0x30A018,
    0x30A13F, 0x30FB18, 0x30FD3F, 0x3100AA, 0x31050C, 0x3130AA, 0x313132, 0x318FAA, 0x319018,
    0x31A00C, 0x31C018, 0x31E6AA, 0x31EF18, 0x31F03F, 0x320032, 0x321FAA, 0x322018, 0x326032,
    0x327F18, 0x32D03F, 0x32FF18, 0x33003F, 0x335818, 0x340031, 0x4DC018, 0x4E0031, 0xA000A8,
    0xA48DAA, 0xA490A8, 0xA4C7AA, 0xA4D04E, 0xA500A3, 0xA62CAA, 0xA6401D, 0xA6A007, 0xA6F8AA,
    0xA70018, 0xA72249, 0xA78818, 0xA78B49, 0xA7DDAA, 0xA7F149, 0xA8008E, 0xA82DAA, 0xA83018,
    0xA83AAA, 0xA8407D, 0xA878AA, 0xA88083, 0xA8C6AA, 0xA8CE83, 0xA8DAAA, 0xA8E01F, 0xA90041,
    0xA92E18, 0xA92F41, 0xA93080, 0xA954AA, 0xA95F80, 0xA96032, 0xA97DAA, 0xA9803C, 0xA9CEAA,
    0xA9CF18, 0xA9D03C, 0xA9DAAA, 0xA9DE3C, 0xA9E062, 0xA9FFAA, 0xAA0015, 0xAA37AA, 0xAA4015,
    0xAA4EAA, 0xAA5015, 0xAA5AAA, 0xAA5C15, 0xAA6062, 0xAA8094, 0xAAC3AA, 0xAADB94, 0xAAE059,
    0xAAF7AA, 0xAB0126, 0xAB07AA, 0xAB0926, 0xAB0FAA, 0xAB1126, 0xAB17AA, 0xAB2026, 0xAB27AA,
    0xAB2826, 0xAB2FAA, 0xAB3049, 0xAB5B18, 0xAB5C49, 0xAB652C, 0xAB6649, 0xAB6A18, 0xAB6CAA,
    0xAB7016, 0xABC059, 0xABEEAA, 0xABF059, 0xABFAAA, 0xAC0032, 0xD7A4AA, 0xD7B032, 0xD7C7AA,
    0xD7CB32, 0xD7FCAA, 0xF90031, 0xFA6EAA, 0xFA7031, 0xFADAAA, 0xFB0049, 0xFB07AA, 0xFB1304,
    0xFB18AA, 0xFB1D36, 0xFB37AA, 0xFB3836, 0xFB3DAA, 0xFB3E36, 0xFB3FAA, 0xFB4036, 0xFB42AA,
    0xFB4336, 0xFB45AA, 0xFB4636, 0xFB5003, 0xFD3E18, 0xFD4003, 0xFDD0AA, 0xFDF003, 0xFE0039,
    0xFE1018, 0xFE1AAA, 0xFE2039, 0xFE2E1D, 0xFE3018, 0xFE53AA, 0xFE5418, 0xFE67AA, 0xFE6818,
    0xFE6CAA, 0xFE7003, 0xFE75AA, 0xFE7603, 0xFEFDAA, 0xFEFF18, 0xFF00AA, 0xFF0118, 0xFF2149,
    0xFF3B18, 0xFF4149, 0xFF5B18, 0xFF663F, 0xFF7018, 0xFF713F, 0xFF9E18, 0xFFA032, 0xFFBFAA,
    0xFFC232, 0xFFC8AA, 0xFFCA32, 0xFFD0AA, 0xFFD232, 0xFFD8AA, 0xFFDA32, 0xFFDDAA, 0xFFE018,
    0xFFE7AA, 0xFFE818, 0xFFEFAA, 0xFFF918, 0xFFFEAA, 0x100004D, 0x1000CAA, 0x1000D4D, 0x10027AA,
    0x100284D, 0x1003BAA, 0x1003C4D, 0x1003EAA, 0x1003F4D, 0x1004EAA, 0x100504D, 0x1005EAA,
    0x100804D, 0x100FBAA, 0x1010018, 0x10103AA, 0x1010718, 0x10134AA, 0x1013718, 0x101402C,
    0x1018FAA, 0x1019018, 0x1019DAA, 0x101A02C, 0x101A1AA, 0x101D018, 0x101FD39, 0x101FEAA,
    0x102804F, 0x1029DAA, 0x102A012, 0x102D1AA, 0x102E039, 0x102E118, 0x102FCAA, 0x103006F,
    0x10324AA, 0x1032D6F, 0x103302A, 0x1034BAA, 0x1035071, 0x1037BAA, 0x10380A2, 0x1039EAA,
    0x1039FA2, 0x103A072, 0x103C4AA, 0x103C872, 0x103D6AA, 0x104001E, 0x1045085, 0x1048079,
    0x1049EAA, 0x104A079, 0x104AAAA, 0x104B078, 0x104D4AA, 0x104D878, 0x104FCAA, 0x1050024,
    0x10528AA, 0x1053013, 0x10564AA, 0x1056F13, 0x10570A4, 0x1057BAA, 0x1057CA4, 0x1058BAA,
    0x1058CA4, 0x10593AA, 0x10594A4, 0x10596AA, 0x10597A4, 0x105A2AA, 0x105A3A4, 0x105B2AA,
    0x105B3A4, 0x105BAAA, 0x105BBA4, 0x105BDAA, 0x105C09F, 0x105F4AA, 0x106004C, 0x10737AA,
    0x107404C, 0x10756AA, 0x107604C, 0x10768AA, 0x1078049, 0x10786AA, 0x1078749, 0x107B1AA,
    0x107B249, 0x107BBAA, 0x108001B, 0x10806AA, 0x108081B, 0x10809AA, 0x1080A1B, 0x10836AA,
    0x108371B, 0x10839AA, 0x1083C1B, 0x1083DAA, 0x1083F1B, 0x1084038, 0x10856AA, 0x1085738,
    0x108607B, 0x1088063, 0x1089FAA, 0x108A763, 0x108B0AA, 0x108E035, 0x108F3AA, 0x108F435,
    0x108F6AA, 0x108FB35, 0x109007E, 0x1091CAA, 0x1091F7E, 0x1092050, 0x1093AAA, 0x1093F50,
    0x10940AA, 0x109805C, 0x109A05B, 0x109B8AA, 0x109BC5B, 0x109D0AA, 0x109D25B, 0x10A0042,
    0x10A04AA, 0x10A0542, 0x10A07AA, 0x10A0C42, 0x10A14AA, 0x10A1542, 0x10A18AA, 0x10A1942,
    0x10A36AA, 0x10A3842, 0x10A3BAA, 0x10A3F42, 0x10A49AA, 0x10A5042, 0x10A59AA, 0x10A6074,
    0x10A8070, 0x10AA0AA, 0x10AC055, 0x10AE7AA, 0x10AEB55, 0x10AF7AA, 0x10B0005, 0x10B36AA,
    0x10B3905, 0x10B403B, 0x10B56AA, 0x10B583B, 0x10B603A, 0x10B73AA, 0x10B783A, 0x10B807F,
    0x10B92AA, 0x10B997F, 0x10B9DAA, 0x10BA97F, 0x10BB0AA, 0x10C0075, 0x10C49AA, 0x10C806E,
    0x10CB3AA, 0x10CC06E, 0x10CF3AA, 0x10CFA6E, 0x10D0033, 0x10D28AA, 0x10D3033, 0x10D3AAA,
    0x10D4027, 0x10D66AA, 0x10D6927, 0x10D86AA, 0x10D8E27, 0x10D90AA, 0x10E6003, 0x10E7FAA,
    0x10E80A7, 0x10EAAAA, 0x10EABA7, 0x10EAEAA, 0x10EB0A7, 0x10EB2AA, 0x10EC203, 0x10EC8AA,
    0x10ED003, 0x10ED9AA, 0x10EFA03, 0x10F0073, 0x10F28AA, 0x10F3089, 0x10F5AAA, 0x10F7076,
    0x10F8AAA, 0x10FB017, 0x10FCCAA, 0x10FE025, 0x10FF7AA, 0x110000D, 0x1104EAA, 0x110520D,
    0x11076AA, 0x1107F0D, 0x110803D, 0x110C3AA, 0x110CD3D, 0x110CEAA, 0x110D08A, 0x110E9AA,
    0x110F08A, 0x110FAAA, 0x1110014, 0x11135AA, 0x1113614, 0x11148AA, 0x1115051, 0x11177AA,
    0x1118084, 0x111E0AA, 0x111E188, 0x111F5AA, 0x1120045, 0x11212AA, 0x1121345, 0x11242AA,
    0x1128061, 0x11287AA, 0x1128861, 0x11289AA, 0x1128A61, 0x1128EAA, 0x1128F61, 0x1129EAA,
    0x1129F61, 0x112AAAA, 0x112B046, 0x112EBAA, 0x112F046, 0x112FAAA, 0x113002B, 0x11304AA,
    0x113052B, 0x1130DAA, 0x1130F2B, 0x11311AA, 0x113132B, 0x11329AA, 0x1132A2B, 0x11331AA,
    0x113322B, 0x11334AA, 0x113352B, 0x1133AAA, 0x1133B39, 0x1133C2B, 0x11345AA, 0x113472B,
    0x11349AA, 0x1134B2B, 0x1134EAA, 0x113502B, 0x11351AA, 0x113572B, 0x11358AA, 0x1135D2B,
    0x11364AA, 0x113662B, 0x1136DAA, 0x113702B, 0x11375AA, 0x11380A1, 0x1138AAA, 0x1138BA1,
    0x1138CAA, 0x1138EA1, 0x1138FAA, 0x11390A1, 0x113B6AA, 0x113B7A1, 0x113C1AA, 0x113C2A1,
    0x113C3AA, 0x113C5A1, 0x113C6AA, 0x113C7A1, 0x113CBAA, 0x113CCA1, 0x113D6AA, 0x113D7A1,
    0x113D9AA, 0x113E1A1, 0x113E3AA, 0x1140067, 0x1145CAA, 0x1145D67, 0x11462AA, 0x114809E,
    0x114C8AA, 0x114D09E, 0x114DAAA, 0x1158086, 0x115B6AA, 0x115B886, 0x115DEAA, 0x116005E,
    0x11645AA, 0x116505E, 0x1165AAA, 0x116605F, 0x1166DAA, 0x1168095, 0x116BAAA, 0x116C095,
    0x116CAAA, 0x116D062, 0x116E4AA, 0x1170001, 0x1171BAA, 0x1171D01, 0x1172CAA, 0x1173001,
    0x11747AA, 0x1180021, 0x1183CAA, 0x118A0A6, 0x118F3AA, 0x118FFA6, 0x1190020, 0x11907AA,
    0x1190920, 0x1190AAA, 0x1190C20, 0x11914AA, 0x1191520, 0x11917AA, 0x1191820, 0x11936AA,
    0x1193720, 0x11939AA, 0x1193B20, 0x11947AA, 0x1195020, 0x1195AAA, 0x119A065, 0x119A8AA,
    0x119AA65, 0x119D8AA, 0x119DA65, 0x119E5AA, 0x11A00A9, 0x11A48AA, 0x11A508B, 0x11AA3AA,
    0x11AB011, 0x11AC07C, 0x11AF9AA, 0x11B001F, 0x11B0AAA, 0x11B6084, 0x11B68AA, 0x11BC08D,
    0x11BE2AA, 0x11BF08D, 0x11BFAAA, 0x11C000B, 0x11C09AA, 0x11C0A0B, 0x11C37AA, 0x11C380B,
    0x11C46AA, 0x11C500B, 0x11C6DAA, 0x11C7056, 0x11C90AA, 0x11C9256, 0x11CA8AA, 0x11CA956,
    0x11CB7AA, 0x11D0057, 0x11D07AA, 0x11D0857, 0x11D0AAA, 0x11D0B57, 0x11D37AA, 0x11D3A57,
    0x11D3BAA, 0x11D3C57, 0x11D3EAA, 0x11D3F57, 0x11D48AA, 0x11D5057, 0x11D5AAA, 0x11D602E,
    0x11D66AA, 0x11D672E, 0x11D69AA, 0x11D6A2E, 0x11D8FAA, 0x11D902E, 0x11D92AA, 0x11D932E,
    0x11D99AA, 0x11DA02E, 0x11DAAAA, 0x11EE052, 0x11EF9AA, 0x11F0040, 0x11F11AA, 0x11F1240,
    0x11F3BAA, 0x11F3E40, 0x11F5BAA, 0x11FB04E, 0x11FB1AA, 0x11FC096, 0x11FF2AA, 0x11FFF96,
    0x120001A, 0x1239AAA, 0x124001A, 0x1246FAA, 0x124701A, 0x12475AA, 0x124801A, 0x12544AA,
    0x12F901C, 0x12FF3AA, 0x1300023, 0x13456AA, 0x1346023, 0x143FBAA, 0x1440002, 0x14647AA,
    0x1610030, 0x1613AAA, 0x1680007, 0x16A39AA, 0x16A4060, 0x16A5FAA, 0x16A6060, 0x16A6AAA,
    0x16A6E60, 0x16A7097, 0x16ABFAA, 0x16AC097, 0x16ACAAA, 0x16AD008, 0x16AEEAA, 0x16AF008,
    0x16AF6AA, 0x16B007A, 0x16B46AA, 0x16B507A, 0x16B5AAA, 0x16B5B7A, 0x16B62AA, 0x16B637A,
    0x16B78AA, 0x16B7D7A, 0x16B90AA, 0x16D4047, 0x16D7AAA, 0x16E4058, 0x16E9BAA, 0x16F005D,
    0x16F4BAA, 0x16F4F5D, 0x16F88AA, 0x16F8F5D, 0x16FA0AA, 0x16FE098, 0x16FE169, 0x16FE231,
    0x16FE443, 0x16FE5AA, 0x16FF031, 0x16FF7AA, 0x1700098, 0x18B0043, 0x18CD6AA, 0x18CFF43,
    0x18D0098, 0x18D1FAA, 0x18D8098, 0x18DF3AA, 0x1AFF03F, 0x1AFF4AA, 0x1AFF53F, 0x1AFFCAA,
    0x1AFFD3F, 0x1AFFFAA, 0x1B0003F, 0x1B00137, 0x1B1203F, 0x1B123AA, 0x1B13237, 0x1B133AA,
    0x1B15037, 0x1B153AA, 0x1B1553F, 0x1B156AA, 0x1B1643F, 0x1B168AA, 0x1B17069, 0x1B2FCAA,
    0x1BC0022, 0x1BC6BAA, 0x1BC7022, 0x1BC7DAA, 0x1BC8022, 0x1BC89AA, 0x1BC9022, 0x1BC9AAA,
    0x1BC9C22, 0x1BCA018, 0x1BCA4AA, 0x1CC0018, 0x1CCFDAA, 0x1CD0018, 0x1CEB4AA, 0x1CEBA18,
    0x1CED1AA, 0x1CEE018, 0x1CEF1AA, 0x1CF0039, 0x1CF2EAA, 0x1CF3039, 0x1CF47AA, 0x1CF5018,
    0x1CFC4AA, 0x1D00018, 0x1D0F6AA, 0x1D10018, 0x1D127AA, 0x1D12918, 0x1D16739, 0x1D16A18,
    0x1D17B39, 0x1D18318, 0x1D18539, 0x1D18C18, 0x1D1AA39, 0x1D1AE18, 0x1D1EBAA, 0x1D2002C,
    0x1D246AA, 0x1D2C018, 0x1D2D4AA, 0x1D2E018, 0x1D2F4AA, 0x1D30018, 0x1D357AA, 0x1D36018,
    0x1D379AA, 0x1D40018, 0x1D455AA, 0x1D45618, 0x1D49DAA, 0x1D49E18, 0x1D4A0AA, 0x1D4A218,
    0x1D4A3AA, 0x1D4A518, 0x1D4A7AA, 0x1D4A918, 0x1D4ADAA, 0x1D4AE18, 0x1D4BAAA, 0x1D4BB18,
    0x1D4BCAA, 0x1D4BD18, 0x1D4C4AA, 0x1D4C518, 0x1D506AA, 0x1D50718, 0x1D50BAA, 0x1D50D18,
    0x1D515AA, 0x1D51618, 0x1D51DAA, 0x1D51E18, 0x1D53AAA, 0x1D53B18, 0x1D53FAA, 0x1D54018,
    0x1D545AA, 0x1D54618, 0x1D547AA, 0x1D54A18, 0x1D551AA, 0x1D55218, 0x1D6A6AA, 0x1D6A818,
    0x1D7CCAA, 0x1D7CE18, 0x1D80087, 0x1DA8CAA, 0x1DA9B87, 0x1DAA0AA, 0x1DAA187, 0x1DAB0AA,
    0x1DF0049, 0x1DF1FAA, 0x1DF2549, 0x1DF2BAA, 0x1E00029, 0x1E007AA, 0x1E00829, 0x1E019AA,
    0x1E01B29, 0x1E022AA, 0x1E02329, 0x1E025AA, 0x1E02629, 0x1E02BAA, 0x1E0301D, 0x1E06EAA,
    0x1E08F1D, 0x1E090AA, 0x1E1006A, 0x1E12DAA, 0x1E1306A, 0x1E13EAA, 0x1E1406A, 0x1E14AAA,
    0x1E14E6A, 0x1E150AA, 0x1E290A0, 0x1E2AFAA, 0x1E2C0A5, 0x1E2FAAA, 0x1E2FFA5, 0x1E300AA,
    0x1E4D064, 0x1E4FAAA, 0x1E5D06D, 0x1E5FBAA, 0x1E5FF6D, 0x1E600AA, 0x1E7E026, 0x1E7E7AA,
    0x1E7E826, 0x1E7ECAA, 0x1E7ED26, 0x1E7EFAA, 0x1E7F026, 0x1E7FFAA, 0x1E8005A, 0x1E8C5AA,
    0x1E8C75A, 0x1E8D7AA, 0x1E90000, 0x1E94CAA, 0x1E95000, 0x1E95AAA, 0x1E95E00, 0x1E960AA,
    0x1EC7118, 0x1ECB5AA, 0x1ED0118, 0x1ED3EAA, 0x1EE0003, 0x1EE04AA, 0x1EE0503, 0x1EE20AA,
    0x1EE2103, 0x1EE23AA, 0x1EE2403, 0x1EE25AA, 0x1EE2703, 0x1EE28AA, 0x1EE2903, 0x1EE33AA,
    0x1EE3403, 0x1EE38AA, 0x1EE3903, 0x1EE3AAA, 0x1EE3B03, 0x1EE3CAA, 0x1EE4203, 0x1EE43AA,
    0x1EE4703, 0x1EE48AA, 0x1EE4903, 0x1EE4AAA, 0x1EE4B03, 0x1EE4CAA, 0x1EE4D03, 0x1EE50AA,
    0x1EE5103, 0x1EE53AA, 0x1EE5403, 0x1EE55AA, 0x1EE5703, 0x1EE58AA, 0x1EE5903, 0x1EE5AAA,
    0x1EE5B03, 0x1EE5CAA, 0x1EE5D03, 0x1EE5EAA, 0x1EE5F03, 0x1EE60AA, 0x1EE6103, 0x1EE63AA,
    0x1EE6403, 0x1EE65AA, 0x1EE6703, 0x1EE6BAA, 0x1EE6C03, 0x1EE73AA, 0x1EE7403, 0x1EE78AA,
    0x1EE7903, 0x1EE7DAA, 0x1EE7E03, 0x1EE7FAA, 0x1EE8003, 0x1EE8AAA, 0x1EE8B03, 0x1EE9CAA,
    0x1EEA103, 0x1EEA4AA, 0x1EEA503, 0x1EEAAAA, 0x1EEAB03, 0x1EEBCAA, 0x1EEF003, 0x1EEF2AA,
    0x1F00018, 0x1F02CAA, 0x1F03018, 0x1F094AA, 0x1F0A018, 0x1F0AFAA, 0x1F0B118, 0x1F0C0AA,
    0x1F0C118, 0x1F0D0AA, 0x1F0D118, 0x1F0F6AA, 0x1F10018, 0x1F1AEAA, 0x1F1E618, 0x1F20037,
    0x1F20118, 0x1F203AA, 0x1F21018, 0x1F23CAA, 0x1F24018, 0x1F249AA, 0x1F25018, 0x1F252AA,
    0x1F26018, 0x1F266AA, 0x1F30018, 0x1F6D9AA, 0x1F6DC18, 0x1F6EDAA, 0x1F6F018, 0x1F6FDAA,
    0x1F70018, 0x1F7DAAA, 0x1F7E018, 0x1F7ECAA, 0x1F7F018, 0x1F7F1AA, 0x1F80018, 0x1F80CAA,
    0x1F81018, 0x1F848AA, 0x1F85018, 0x1F85AAA, 0x1F86018, 0x1F888AA, 0x1F89018, 0x1F8AEAA,
    0x1F8B018, 0x1F8BCAA, 0x1F8C018, 0x1F8C2AA, 0x1F8D018, 0x1F8D9AA, 0x1F90018, 0x1FA58AA,
    0x1FA6018, 0x1FA6EAA, 0x1FA7018, 0x1FA7DAA, 0x1FA8018, 0x1FA8BAA, 0x1FA8E18, 0x1FAC7AA,
    0x1FAC818, 0x1FAC9AA, 0x1FACD18, 0x1FADDAA, 0x1FADF18, 0x1FAEBAA, 0x1FAEF18, 0x1FAF9AA,
    0x1FB0018, 0x1FB93AA, 0x1FB9418, 0x1FBFBAA, 0x2000031, 0x2A6E0AA, 0x2A70031, 0x2B81EAA,
    0x2B82031, 0x2CEAEAA, 0x2CEB031, 0x2EBE1AA, 0x2EBF031, 0x2EE5EAA, 0x2F80031, 0x2FA1EAA,
    0x3000031, 0x3134BAA, 0x3135031, 0x3347AAA, 0xE000118, 0xE0002AA, 0xE002018, 0xE0080AA,
    0xE010039, 0xE01F0AA]

/-- The position of the script of the code point `n`, given the script of the run before. -/
def scriptIndexFrom (n : Nat) (current : Nat) : List Nat → Nat
  | [] => current
  | run :: runs => if run / 256 ≤ n then scriptIndexFrom n (run % 256) runs else current

/-- The position in `scriptNames` of the script of a code point; an unassigned code point has the
position after the last. -/
def scriptIndex (n : Nat) : Nat :=
  scriptIndexFrom n scriptNames.length (scriptRunsBelow2000 ++ scriptRunsFrom2000)

end Lineage.Text
