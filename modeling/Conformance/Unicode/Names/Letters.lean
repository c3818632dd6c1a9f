/-!
# Names of further letters and combining marks

Names and their code points, in the order of the code points.
-/
namespace Conformance.Unicode

/-- Names of combining marks, of Greek, Cyrillic and Hebrew letters and of Latin letters with marks. -/
def letterNames : List (String × Nat) := [
  ("COMBINING GRAVE ACCENT", 0x300), ("COMBINING ACUTE ACCENT", 0x301),
  ("COMBINING CIRCUMFLEX ACCENT", 0x302), ("COMBINING TILDE", 0x303),
  ("COMBINING MACRON", 0x304), ("COMBINING OVERLINE", 0x305), ("COMBINING BREVE", 0x306),
  ("COMBINING DOT ABOVE", 0x307), ("COMBINING DIAERESIS", 0x308),
  ("COMBINING HOOK ABOVE", 0x309), ("COMBINING RING ABOVE", 0x30A),
  ("COMBINING DOUBLE ACUTE ACCENT", 0x30B), ("COMBINING CARON", 0x30C),
  ("COMBINING VERTICAL LINE ABOVE", 0x30D), ("COMBINING DOUBLE VERTICAL LINE ABOVE", 0x30E),
  ("COMBINING DOUBLE GRAVE ACCENT", 0x30F), ("COMBINING CANDRABINDU", 0x310),
  ("COMBINING INVERTED BREVE", 0x311), ("COMBINING TURNED COMMA ABOVE", 0x312),
  ("COMBINING COMMA ABOVE", 0x313), ("COMBINING REVERSED COMMA ABOVE", 0x314),
  ("COMBINING COMMA ABOVE RIGHT", 0x315), ("COMBINING GRAVE ACCENT BELOW", 0x316),
  ("COMBINING ACUTE ACCENT BELOW", 0x317), ("COMBINING LEFT TACK BELOW", 0x318),
  ("COMBINING RIGHT TACK BELOW", 0x319), ("COMBINING LEFT ANGLE ABOVE", 0x31A),
  ("COMBINING HORN", 0x31B), ("COMBINING LEFT HALF RING BELOW", 0x31C),
  ("COMBINING UP TACK BELOW", 0x31D), ("COMBINING DOWN TACK BELOW", 0x31E),
  ("COMBINING PLUS SIGN BELOW", 0x31F), ("COMBINING MINUS SIGN BELOW", 0x320),
  ("COMBINING PALATALIZED HOOK BELOW", 0x321), ("COMBINING RETROFLEX HOOK BELOW", 0x322),
  ("COMBINING DOT BELOW", 0x323), ("COMBINING DIAERESIS BELOW", 0x324),
  ("COMBINING RING BELOW", 0x325), ("COMBINING COMMA BELOW", 0x326),
  ("COMBINING CEDILLA", 0x327), ("COMBINING OGONEK", 0x328),
  ("COMBINING VERTICAL LINE BELOW", 0x329), ("COMBINING BRIDGE BELOW", 0x32A),
  ("COMBINING INVERTED DOUBLE ARCH BELOW", 0x32B), ("COMBINING CARON BELOW", 0x32C),
  ("COMBINING CIRCUMFLEX ACCENT BELOW", 0x32D), ("COMBINING BREVE BELOW", 0x32E),
  ("COMBINING INVERTED BREVE BELOW", 0x32F), ("COMBINING TILDE BELOW", 0x330),
  ("COMBINING MACRON BELOW", 0x331), ("COMBINING LOW LINE", 0x332),
  ("COMBINING DOUBLE LOW LINE", 0x333), ("COMBINING TILDE OVERLAY", 0x334),
  ("COMBINING SHORT STROKE OVERLAY", 0x335), ("COMBINING LONG STROKE OVERLAY", 0x336),
  ("COMBINING SHORT SOLIDUS OVERLAY", 0x337), ("COMBINING LONG SOLIDUS OVERLAY", 0x338),
  ("COMBINING RIGHT HALF RING BELOW", 0x339), ("COMBINING INVERTED BRIDGE BELOW", 0x33A),
  ("COMBINING SQUARE BELOW", 0x33B), ("COMBINING SEAGULL BELOW", 0x33C),
  ("COMBINING X ABOVE", 0x33D), ("COMBINING VERTICAL TILDE", 0x33E),
  ("COMBINING DOUBLE OVERLINE", 0x33F), ("COMBINING GRAVE TONE MARK", 0x340),
  ("COMBINING ACUTE TONE MARK", 0x341), ("COMBINING GREEK PERISPOMENI", 0x342),
  ("COMBINING GREEK KORONIS", 0x343), ("COMBINING GREEK DIALYTIKA TONOS", 0x344),
  ("COMBINING GREEK YPOGEGRAMMENI", 0x345), ("CGJ", 0x34F), ("GREEK CAPITAL LETTER HETA", 0x370),
  ("GREEK SMALL LETTER HETA", 0x371), ("GREEK CAPITAL LETTER ARCHAIC SAMPI", 0x372),
  ("GREEK SMALL LETTER ARCHAIC SAMPI", 0x373), ("GREEK NUMERAL SIGN", 0x374),
  ("GREEK LOWER NUMERAL SIGN", 0x375), ("GREEK CAPITAL LETTER PAMPHYLIAN DIGAMMA", 0x376),
  ("GREEK SMALL LETTER PAMPHYLIAN DIGAMMA", 0x377), ("GREEK YPOGEGRAMMENI", 0x37A),
  ("GREEK SMALL REVERSED LUNATE SIGMA SYMBOL", 0x37B),
  ("GREEK SMALL DOTTED LUNATE SIGMA SYMBOL", 0x37C),
  ("GREEK SMALL REVERSED DOTTED LUNATE SIGMA SYMBOL", 0x37D), ("GREEK QUESTION MARK", 0x37E),
  ("GREEK CAPITAL LETTER YOT", 0x37F), ("GREEK TONOS", 0x384), ("GREEK DIALYTIKA TONOS", 0x385),
  ("GREEK CAPITAL LETTER ALPHA WITH TONOS", 0x386), ("GREEK ANO TELEIA", 0x387),
  ("GREEK CAPITAL LETTER EPSILON WITH TONOS", 0x388),
  ("GREEK CAPITAL LETTER ETA WITH TONOS", 0x389),
  ("GREEK CAPITAL LETTER IOTA WITH TONOS", 0x38A),
  ("GREEK CAPITAL LETTER OMICRON WITH TONOS", 0x38C),
  ("GREEK CAPITAL LETTER UPSILON WITH TONOS", 0x38E),
  ("GREEK CAPITAL LETTER OMEGA WITH TONOS", 0x38F),
  ("GREEK SMALL LETTER IOTA WITH DIALYTIKA AND TONOS", 0x390),
  ("GREEK CAPITAL LETTER ALPHA", 0x391), ("GREEK CAPITAL LETTER BETA", 0x392),
  ("GREEK CAPITAL LETTER GAMMA", 0x393), ("GREEK CAPITAL LETTER DELTA", 0x394),
  ("GREEK CAPITAL LETTER EPSILON", 0x395), ("GREEK CAPITAL LETTER ZETA", 0x396),
  ("GREEK CAPITAL LETTER ETA", 0x397), ("GREEK CAPITAL LETTER THETA", 0x398),
  ("GREEK CAPITAL LETTER IOTA", 0x399), ("GREEK CAPITAL LETTER KAPPA", 0x39A),
  ("GREEK CAPITAL LETTER LAMDA", 0x39B), ("GREEK CAPITAL LETTER MU", 0x39C),
  ("GREEK CAPITAL LETTER NU", 0x39D), ("GREEK CAPITAL LETTER XI", 0x39E),
  ("GREEK CAPITAL LETTER OMICRON", 0x39F), ("GREEK CAPITAL LETTER PI", 0x3A0),
  ("GREEK CAPITAL LETTER RHO", 0x3A1), ("GREEK CAPITAL LETTER SIGMA", 0x3A3),
  ("GREEK CAPITAL LETTER TAU", 0x3A4), ("GREEK CAPITAL LETTER UPSILON", 0x3A5),
  ("GREEK CAPITAL LETTER PHI", 0x3A6), ("GREEK CAPITAL LETTER CHI", 0x3A7),
  ("GREEK CAPITAL LETTER PSI", 0x3A8), ("GREEK CAPITAL LETTER OMEGA", 0x3A9),
  ("GREEK CAPITAL LETTER IOTA WITH DIALYTIKA", 0x3AA),
  ("GREEK CAPITAL LETTER UPSILON WITH DIALYTIKA", 0x3AB),
  ("GREEK SMALL LETTER ALPHA WITH TONOS", 0x3AC),
  ("GREEK SMALL LETTER EPSILON WITH TONOS", 0x3AD), ("GREEK SMALL LETTER ETA WITH TONOS", 0x3AE),
  ("GREEK SMALL LETTER IOTA WITH TONOS", 0x3AF),
  ("GREEK SMALL LETTER UPSILON WITH DIALYTIKA AND TONOS", 0x3B0),
  ("GREEK SMALL LETTER ALPHA", 0x3B1), ("GREEK SMALL LETTER BETA", 0x3B2),
  ("GREEK SMALL LETTER GAMMA", 0x3B3), ("GREEK SMALL LETTER DELTA", 0x3B4),
  ("GREEK SMALL LETTER EPSILON", 0x3B5), ("GREEK SMALL LETTER ZETA", 0x3B6),
  ("GREEK SMALL LETTER ETA", 0x3B7), ("GREEK SMALL LETTER THETA", 0x3B8),
  ("GREEK SMALL LETTER IOTA", 0x3B9), ("GREEK SMALL LETTER KAPPA", 0x3BA),
  ("GREEK SMALL LETTER LAMDA", 0x3BB), ("GREEK SMALL LETTER MU", 0x3BC),
  ("GREEK SMALL LETTER NU", 0x3BD), ("GREEK SMALL LETTER XI", 0x3BE),
  ("GREEK SMALL LETTER OMICRON", 0x3BF), ("GREEK SMALL LETTER PI", 0x3C0),
  ("GREEK SMALL LETTER RHO", 0x3C1), ("GREEK SMALL LETTER FINAL SIGMA", 0x3C2),
  ("GREEK SMALL LETTER SIGMA", 0x3C3), ("GREEK SMALL LETTER TAU", 0x3C4),
  ("GREEK SMALL LETTER UPSILON", 0x3C5), ("GREEK SMALL LETTER PHI", 0x3C6),
  ("GREEK SMALL LETTER CHI", 0x3C7), ("GREEK SMALL LETTER PSI", 0x3C8),
  ("GREEK SMALL LETTER OMEGA", 0x3C9), ("GREEK SMALL LETTER IOTA WITH DIALYTIKA", 0x3CA),
  ("GREEK SMALL LETTER UPSILON WITH DIALYTIKA", 0x3CB),
  ("GREEK SMALL LETTER OMICRON WITH TONOS", 0x3CC),
  ("GREEK SMALL LETTER UPSILON WITH TONOS", 0x3CD),
  ("GREEK SMALL LETTER OMEGA WITH TONOS", 0x3CE), ("GREEK CAPITAL KAI SYMBOL", 0x3CF),
  ("GREEK BETA SYMBOL", 0x3D0), ("GREEK THETA SYMBOL", 0x3D1),
  ("GREEK UPSILON WITH HOOK SYMBOL", 0x3D2), ("GREEK UPSILON WITH ACUTE AND HOOK SYMBOL", 0x3D3),
  ("GREEK UPSILON WITH DIAERESIS AND HOOK SYMBOL", 0x3D4), ("GREEK PHI SYMBOL", 0x3D5),
  ("GREEK PI SYMBOL", 0x3D6), ("GREEK KAI SYMBOL", 0x3D7), ("GREEK LETTER ARCHAIC KOPPA", 0x3D8),
  ("GREEK SMALL LETTER ARCHAIC KOPPA", 0x3D9), ("GREEK LETTER STIGMA", 0x3DA),
  ("GREEK SMALL LETTER STIGMA", 0x3DB), ("GREEK LETTER DIGAMMA", 0x3DC),
  ("GREEK SMALL LETTER DIGAMMA", 0x3DD), ("GREEK LETTER KOPPA", 0x3DE),
  ("GREEK SMALL LETTER KOPPA", 0x3DF), ("GREEK LETTER SAMPI", 0x3E0),
  ("GREEK SMALL LETTER SAMPI", 0x3E1), ("COPTIC CAPITAL LETTER SHEI", 0x3E2),
  ("COPTIC SMALL LETTER SHEI", 0x3E3), ("COPTIC CAPITAL LETTER FEI", 0x3E4),
  ("COPTIC SMALL LETTER FEI", 0x3E5), ("COPTIC CAPITAL LETTER KHEI", 0x3E6),
  ("COPTIC SMALL LETTER KHEI", 0x3E7), ("COPTIC CAPITAL LETTER HORI", 0x3E8),
  ("COPTIC SMALL LETTER HORI", 0x3E9), ("COPTIC CAPITAL LETTER GANGIA", 0x3EA),
  ("COPTIC SMALL LETTER GANGIA", 0x3EB), ("COPTIC CAPITAL LETTER SHIMA", 0x3EC),
  ("COPTIC SMALL LETTER SHIMA", 0x3ED), ("COPTIC CAPITAL LETTER DEI", 0x3EE),
  ("COPTIC SMALL LETTER DEI", 0x3EF), ("GREEK KAPPA SYMBOL", 0x3F0), ("GREEK RHO SYMBOL", 0x3F1),
  ("GREEK LUNATE SIGMA SYMBOL", 0x3F2), ("GREEK LETTER YOT", 0x3F3),
  ("GREEK CAPITAL THETA SYMBOL", 0x3F4), ("GREEK LUNATE EPSILON SYMBOL", 0x3F5),
  ("GREEK REVERSED LUNATE EPSILON SYMBOL", 0x3F6), ("GREEK CAPITAL LETTER SHO", 0x3F7),
  ("GREEK SMALL LETTER SHO", 0x3F8), ("GREEK CAPITAL LUNATE SIGMA SYMBOL", 0x3F9),
  ("GREEK CAPITAL LETTER SAN", 0x3FA), ("GREEK SMALL LETTER SAN", 0x3FB),
  ("GREEK RHO WITH STROKE SYMBOL", 0x3FC), ("GREEK CAPITAL REVERSED LUNATE SIGMA SYMBOL", 0x3FD),
  ("GREEK CAPITAL DOTTED LUNATE SIGMA SYMBOL", 0x3FE),
  ("GREEK CAPITAL REVERSED DOTTED LUNATE SIGMA SYMBOL", 0x3FF),
  ("CYRILLIC CAPITAL LETTER IE WITH GRAVE", 0x400), ("CYRILLIC CAPITAL LETTER IO", 0x401),
  ("CYRILLIC CAPITAL LETTER DJE", 0x402), ("CYRILLIC CAPITAL LETTER GJE", 0x403),
  ("CYRILLIC CAPITAL LETTER UKRAINIAN IE", 0x404), ("CYRILLIC CAPITAL LETTER DZE", 0x405),
  ("CYRILLIC CAPITAL LETTER BYELORUSSIAN-UKRAINIAN I", 0x406),
  ("CYRILLIC CAPITAL LETTER YI", 0x407), ("CYRILLIC CAPITAL LETTER JE", 0x408),
  ("CYRILLIC CAPITAL LETTER LJE", 0x409), ("CYRILLIC CAPITAL LETTER NJE", 0x40A),
  ("CYRILLIC CAPITAL LETTER TSHE", 0x40B), ("CYRILLIC CAPITAL LETTER KJE", 0x40C),
  ("CYRILLIC CAPITAL LETTER I WITH GRAVE", 0x40D), ("CYRILLIC CAPITAL LETTER SHORT U", 0x40E),
  ("CYRILLIC CAPITAL LETTER DZHE", 0x40F), ("CYRILLIC CAPITAL LETTER A", 0x410),
  ("CYRILLIC CAPITAL LETTER BE", 0x411), ("CYRILLIC CAPITAL LETTER VE", 0x412),
  ("CYRILLIC CAPITAL LETTER GHE", 0x413), ("CYRILLIC CAPITAL LETTER DE", 0x414),
  ("CYRILLIC CAPITAL LETTER IE", 0x415), ("CYRILLIC CAPITAL LETTER ZHE", 0x416),
  ("CYRILLIC CAPITAL LETTER ZE", 0x417), ("CYRILLIC CAPITAL LETTER I", 0x418),
  ("CYRILLIC CAPITAL LETTER SHORT I", 0x419), ("CYRILLIC CAPITAL LETTER KA", 0x41A),
  ("CYRILLIC CAPITAL LETTER EL", 0x41B), ("CYRILLIC CAPITAL LETTER EM", 0x41C),
  ("CYRILLIC CAPITAL LETTER EN", 0x41D), ("CYRILLIC CAPITAL LETTER O", 0x41E),
  ("CYRILLIC CAPITAL LETTER PE", 0x41F), ("CYRILLIC CAPITAL LETTER ER", 0x420),
  ("CYRILLIC CAPITAL LETTER ES", 0x421), ("CYRILLIC CAPITAL LETTER TE", 0x422),
  ("CYRILLIC CAPITAL LETTER U", 0x423), ("CYRILLIC CAPITAL LETTER EF", 0x424),
  ("CYRILLIC CAPITAL LETTER HA", 0x425), ("CYRILLIC CAPITAL LETTER TSE", 0x426),
  ("CYRILLIC CAPITAL LETTER CHE", 0x427), ("CYRILLIC CAPITAL LETTER SHA", 0x428),
  ("CYRILLIC CAPITAL LETTER SHCHA", 0x429), ("CYRILLIC CAPITAL LETTER HARD SIGN", 0x42A),
  ("CYRILLIC CAPITAL LETTER YERU", 0x42B), ("CYRILLIC CAPITAL LETTER SOFT SIGN", 0x42C),
  ("CYRILLIC CAPITAL LETTER E", 0x42D), ("CYRILLIC CAPITAL LETTER YU", 0x42E),
  ("CYRILLIC CAPITAL LETTER YA", 0x42F), ("CYRILLIC SMALL LETTER A", 0x430),
  ("CYRILLIC SMALL LETTER BE", 0x431), ("CYRILLIC SMALL LETTER VE", 0x432),
  ("CYRILLIC SMALL LETTER GHE", 0x433), ("CYRILLIC SMALL LETTER DE", 0x434),
  ("CYRILLIC SMALL LETTER IE", 0x435), ("CYRILLIC SMALL LETTER ZHE", 0x436),
  ("CYRILLIC SMALL LETTER ZE", 0x437), ("CYRILLIC SMALL LETTER I", 0x438),
  ("CYRILLIC SMALL LETTER SHORT I", 0x439), ("CYRILLIC SMALL LETTER KA", 0x43A),
  ("CYRILLIC SMALL LETTER EL", 0x43B), ("CYRILLIC SMALL LETTER EM", 0x43C),
  ("CYRILLIC SMALL LETTER EN", 0x43D), ("CYRILLIC SMALL LETTER O", 0x43E),
  ("CYRILLIC SMALL LETTER PE", 0x43F), ("CYRILLIC SMALL LETTER ER", 0x440),
  ("CYRILLIC SMALL LETTER ES", 0x441), ("CYRILLIC SMALL LETTER TE", 0x442),
  ("CYRILLIC SMALL LETTER U", 0x443), ("CYRILLIC SMALL LETTER EF", 0x444),
  ("CYRILLIC SMALL LETTER HA", 0x445), ("CYRILLIC SMALL LETTER TSE", 0x446),
  ("CYRILLIC SMALL LETTER CHE", 0x447), ("CYRILLIC SMALL LETTER SHA", 0x448),
  ("CYRILLIC SMALL LETTER SHCHA", 0x449), ("CYRILLIC SMALL LETTER HARD SIGN", 0x44A),
  ("CYRILLIC SMALL LETTER YERU", 0x44B), ("CYRILLIC SMALL LETTER SOFT SIGN", 0x44C),
  ("CYRILLIC SMALL LETTER E", 0x44D), ("CYRILLIC SMALL LETTER YU", 0x44E),
  ("CYRILLIC SMALL LETTER YA", 0x44F), ("CYRILLIC SMALL LETTER IE WITH GRAVE", 0x450),
  ("CYRILLIC SMALL LETTER IO", 0x451), ("CYRILLIC SMALL LETTER DJE", 0x452),
  ("CYRILLIC SMALL LETTER GJE", 0x453), ("CYRILLIC SMALL LETTER UKRAINIAN IE", 0x454),
  ("CYRILLIC SMALL LETTER DZE", 0x455),
  ("CYRILLIC SMALL LETTER BYELORUSSIAN-UKRAINIAN I", 0x456), ("CYRILLIC SMALL LETTER YI", 0x457),
  ("CYRILLIC SMALL LETTER JE", 0x458), ("CYRILLIC SMALL LETTER LJE", 0x459),
  ("CYRILLIC SMALL LETTER NJE", 0x45A), ("CYRILLIC SMALL LETTER TSHE", 0x45B),
  ("CYRILLIC SMALL LETTER KJE", 0x45C), ("CYRILLIC SMALL LETTER I WITH GRAVE", 0x45D),
  ("CYRILLIC SMALL LETTER SHORT U", 0x45E), ("CYRILLIC SMALL LETTER DZHE", 0x45F),
  ("HEBREW LETTER ALEF", 0x5D0), ("HEBREW LETTER BET", 0x5D1), ("HEBREW LETTER GIMEL", 0x5D2),
  ("HEBREW LETTER DALET", 0x5D3), ("HEBREW LETTER HE", 0x5D4), ("HEBREW LETTER VAV", 0x5D5),
  ("HEBREW LETTER ZAYIN", 0x5D6), ("HEBREW LETTER HET", 0x5D7), ("HEBREW LETTER TET", 0x5D8),
  ("HEBREW LETTER YOD", 0x5D9), ("HEBREW LETTER FINAL KAF", 0x5DA), ("HEBREW LETTER KAF", 0x5DB),
  ("HEBREW LETTER LAMED", 0x5DC), ("HEBREW LETTER FINAL MEM", 0x5DD),
  ("HEBREW LETTER MEM", 0x5DE), ("HEBREW LETTER FINAL NUN", 0x5DF), ("HEBREW LETTER NUN", 0x5E0),
  ("HEBREW LETTER SAMEKH", 0x5E1), ("HEBREW LETTER AYIN", 0x5E2),
  ("HEBREW LETTER FINAL PE", 0x5E3), ("HEBREW LETTER PE", 0x5E4),
  ("HEBREW LETTER FINAL TSADI", 0x5E5), ("HEBREW LETTER TSADI", 0x5E6),
  ("HEBREW LETTER QOF", 0x5E7), ("HEBREW LETTER RESH", 0x5E8), ("HEBREW LETTER SHIN", 0x5E9),
  ("HEBREW LETTER TAV", 0x5EA), ("LATIN CAPITAL LETTER A WITH RING BELOW", 0x1E00),
  ("LATIN SMALL LETTER A WITH RING BELOW", 0x1E01),
  ("LATIN CAPITAL LETTER B WITH DOT ABOVE", 0x1E02),
  ("LATIN SMALL LETTER B WITH DOT ABOVE", 0x1E03),
  ("LATIN CAPITAL LETTER B WITH DOT BELOW", 0x1E04),
  ("LATIN SMALL LETTER B WITH DOT BELOW", 0x1E05),
  ("LATIN CAPITAL LETTER B WITH LINE BELOW", 0x1E06),
  ("LATIN SMALL LETTER B WITH LINE BELOW", 0x1E07),
  ("LATIN CAPITAL LETTER C WITH CEDILLA AND ACUTE", 0x1E08),
  ("LATIN SMALL LETTER C WITH CEDILLA AND ACUTE", 0x1E09),
  ("LATIN CAPITAL LETTER D WITH DOT ABOVE", 0x1E0A),
  ("LATIN SMALL LETTER D WITH DOT ABOVE", 0x1E0B),
  ("LATIN CAPITAL LETTER D WITH DOT BELOW", 0x1E0C),
  ("LATIN SMALL LETTER D WITH DOT BELOW", 0x1E0D),
  ("LATIN CAPITAL LETTER D WITH LINE BELOW", 0x1E0E),
  ("LATIN SMALL LETTER D WITH LINE BELOW", 0x1E0F),
  ("LATIN CAPITAL LETTER D WITH CEDILLA", 0x1E10), ("LATIN SMALL LETTER D WITH CEDILLA", 0x1E11),
  ("LATIN CAPITAL LETTER D WITH CIRCUMFLEX BELOW", 0x1E12),
  ("LATIN SMALL LETTER D WITH CIRCUMFLEX BELOW", 0x1E13),
  ("LATIN CAPITAL LETTER E WITH MACRON AND GRAVE", 0x1E14),
  ("LATIN SMALL LETTER E WITH MACRON AND GRAVE", 0x1E15),
  ("LATIN CAPITAL LETTER E WITH MACRON AND ACUTE", 0x1E16),
  ("LATIN SMALL LETTER E WITH MACRON AND ACUTE", 0x1E17),
  ("LATIN CAPITAL LETTER E WITH CIRCUMFLEX BELOW", 0x1E18),
  ("LATIN SMALL LETTER E WITH CIRCUMFLEX BELOW", 0x1E19),
  ("LATIN CAPITAL LETTER E WITH TILDE BELOW", 0x1E1A),
  ("LATIN SMALL LETTER E WITH TILDE BELOW", 0x1E1B),
  ("LATIN CAPITAL LETTER E WITH CEDILLA AND BREVE", 0x1E1C),
  ("LATIN SMALL LETTER E WITH CEDILLA AND BREVE", 0x1E1D),
  ("LATIN CAPITAL LETTER F WITH DOT ABOVE", 0x1E1E),
  ("LATIN SMALL LETTER F WITH DOT ABOVE", 0x1E1F),
  ("LATIN CAPITAL LETTER G WITH MACRON", 0x1E20), ("LATIN SMALL LETTER G WITH MACRON", 0x1E21),
  ("LATIN CAPITAL LETTER H WITH DOT ABOVE", 0x1E22),
  ("LATIN SMALL LETTER H WITH DOT ABOVE", 0x1E23),
  ("LATIN CAPITAL LETTER H WITH DOT BELOW", 0x1E24),
  ("LATIN SMALL LETTER H WITH DOT BELOW", 0x1E25),
  ("LATIN CAPITAL LETTER H WITH DIAERESIS", 0x1E26),
  ("LATIN SMALL LETTER H WITH DIAERESIS", 0x1E27),
  ("LATIN CAPITAL LETTER H WITH CEDILLA", 0x1E28), ("LATIN SMALL LETTER H WITH CEDILLA", 0x1E29),
  ("LATIN CAPITAL LETTER H WITH BREVE BELOW", 0x1E2A),
  ("LATIN SMALL LETTER H WITH BREVE BELOW", 0x1E2B),
  ("LATIN CAPITAL LETTER I WITH TILDE BELOW", 0x1E2C),
  ("LATIN SMALL LETTER I WITH TILDE BELOW", 0x1E2D),
  ("LATIN CAPITAL LETTER I WITH DIAERESIS AND ACUTE", 0x1E2E),
  ("LATIN SMALL LETTER I WITH DIAERESIS AND ACUTE", 0x1E2F),
  ("LATIN CAPITAL LETTER K WITH ACUTE", 0x1E30), ("LATIN SMALL LETTER K WITH ACUTE", 0x1E31),
  ("LATIN CAPITAL LETTER K WITH DOT BELOW", 0x1E32),
  ("LATIN SMALL LETTER K WITH DOT BELOW", 0x1E33),
  ("LATIN CAPITAL LETTER K WITH LINE BELOW", 0x1E34),
  ("LATIN SMALL LETTER K WITH LINE BELOW", 0x1E35),
  ("LATIN CAPITAL LETTER L WITH DOT BELOW", 0x1E36),
  ("LATIN SMALL LETTER L WITH DOT BELOW", 0x1E37),
  ("LATIN CAPITAL LETTER L WITH DOT BELOW AND MACRON", 0x1E38),
  ("LATIN SMALL LETTER L WITH DOT BELOW AND MACRON", 0x1E39),
  ("LATIN CAPITAL LETTER L WITH LINE BELOW", 0x1E3A),
  ("LATIN SMALL LETTER L WITH LINE BELOW", 0x1E3B),
  ("LATIN CAPITAL LETTER L WITH CIRCUMFLEX BELOW", 0x1E3C),
  ("LATIN SMALL LETTER L WITH CIRCUMFLEX BELOW", 0x1E3D),
  ("LATIN CAPITAL LETTER M WITH ACUTE", 0x1E3E), ("LATIN SMALL LETTER M WITH ACUTE", 0x1E3F),
  ("LATIN CAPITAL LETTER M WITH DOT ABOVE", 0x1E40),
  ("LATIN SMALL LETTER M WITH DOT ABOVE", 0x1E41),
  ("LATIN CAPITAL LETTER M WITH DOT BELOW", 0x1E42),
  ("LATIN SMALL LETTER M WITH DOT BELOW", 0x1E43),
  ("LATIN CAPITAL LETTER N WITH DOT ABOVE", 0x1E44),
  ("LATIN SMALL LETTER N WITH DOT ABOVE", 0x1E45),
  ("LATIN CAPITAL LETTER N WITH DOT BELOW", 0x1E46),
  ("LATIN SMALL LETTER N WITH DOT BELOW", 0x1E47),
  ("LATIN CAPITAL LETTER N WITH LINE BELOW", 0x1E48),
  ("LATIN SMALL LETTER N WITH LINE BELOW", 0x1E49),
  ("LATIN CAPITAL LETTER N WITH CIRCUMFLEX BELOW", 0x1E4A),
  ("LATIN SMALL LETTER N WITH CIRCUMFLEX BELOW", 0x1E4B),
  ("LATIN CAPITAL LETTER O WITH TILDE AND ACUTE", 0x1E4C),
  ("LATIN SMALL LETTER O WITH TILDE AND ACUTE", 0x1E4D),
  ("LATIN CAPITAL LETTER O WITH TILDE AND DIAERESIS", 0x1E4E),
  ("LATIN SMALL LETTER O WITH TILDE AND DIAERESIS", 0x1E4F),
  ("LATIN CAPITAL LETTER O WITH MACRON AND GRAVE", 0x1E50),
  ("LATIN SMALL LETTER O WITH MACRON AND GRAVE", 0x1E51),
  ("LATIN CAPITAL LETTER O WITH MACRON AND ACUTE", 0x1E52),
  ("LATIN SMALL LETTER O WITH MACRON AND ACUTE", 0x1E53),
  ("LATIN CAPITAL LETTER P WITH ACUTE", 0x1E54), ("LATIN SMALL LETTER P WITH ACUTE", 0x1E55),
  ("LATIN CAPITAL LETTER P WITH DOT ABOVE", 0x1E56),
  ("LATIN SMALL LETTER P WITH DOT ABOVE", 0x1E57),
  ("LATIN CAPITAL LETTER R WITH DOT ABOVE", 0x1E58),
  ("LATIN SMALL LETTER R WITH DOT ABOVE", 0x1E59),
  ("LATIN CAPITAL LETTER R WITH DOT BELOW", 0x1E5A),
  ("LATIN SMALL LETTER R WITH DOT BELOW", 0x1E5B),
  ("LATIN CAPITAL LETTER R WITH DOT BELOW AND MACRON", 0x1E5C),
  ("LATIN SMALL LETTER R WITH DOT BELOW AND MACRON", 0x1E5D),
  ("LATIN CAPITAL LETTER R WITH LINE BELOW", 0x1E5E),
  ("LATIN SMALL LETTER R WITH LINE BELOW", 0x1E5F),
  ("LATIN CAPITAL LETTER S WITH DOT ABOVE", 0x1E60),
  ("LATIN SMALL LETTER S WITH DOT ABOVE", 0x1E61),
  ("LATIN CAPITAL LETTER S WITH DOT BELOW", 0x1E62),
  ("LATIN SMALL LETTER S WITH DOT BELOW", 0x1E63),
  ("LATIN CAPITAL LETTER S WITH ACUTE AND DOT ABOVE", 0x1E64),
  ("LATIN SMALL LETTER S WITH ACUTE AND DOT ABOVE", 0x1E65),
  ("LATIN CAPITAL LETTER S WITH CARON AND DOT ABOVE", 0x1E66),
  ("LATIN SMALL LETTER S WITH CARON AND DOT ABOVE", 0x1E67),
  ("LATIN CAPITAL LETTER S WITH DOT BELOW AND DOT ABOVE", 0x1E68),
  ("LATIN SMALL LETTER S WITH DOT BELOW AND DOT ABOVE", 0x1E69),
  ("LATIN CAPITAL LETTER T WITH DOT ABOVE", 0x1E6A),
  ("LATIN SMALL LETTER T WITH DOT ABOVE", 0x1E6B),
  ("LATIN CAPITAL LETTER T WITH DOT BELOW", 0x1E6C),
  ("LATIN SMALL LETTER T WITH DOT BELOW", 0x1E6D),
  ("LATIN CAPITAL LETTER T WITH LINE BELOW", 0x1E6E),
  ("LATIN SMALL LETTER T WITH LINE BELOW", 0x1E6F),
  ("LATIN CAPITAL LETTER T WITH CIRCUMFLEX BELOW", 0x1E70),
  ("LATIN SMALL LETTER T WITH CIRCUMFLEX BELOW", 0x1E71),
  ("LATIN CAPITAL LETTER U WITH DIAERESIS BELOW", 0x1E72),
  ("LATIN SMALL LETTER U WITH DIAERESIS BELOW", 0x1E73),
  ("LATIN CAPITAL LETTER U WITH TILDE BELOW", 0x1E74),
  ("LATIN SMALL LETTER U WITH TILDE BELOW", 0x1E75),
  ("LATIN CAPITAL LETTER U WITH CIRCUMFLEX BELOW", 0x1E76),
  ("LATIN SMALL LETTER U WITH CIRCUMFLEX BELOW", 0x1E77),
  ("LATIN CAPITAL LETTER U WITH TILDE AND ACUTE", 0x1E78),
  ("LATIN SMALL LETTER U WITH TILDE AND ACUTE", 0x1E79),
  ("LATIN CAPITAL LETTER U WITH MACRON AND DIAERESIS", 0x1E7A),
  ("LATIN SMALL LETTER U WITH MACRON AND DIAERESIS", 0x1E7B),
  ("LATIN CAPITAL LETTER V WITH TILDE", 0x1E7C), ("LATIN SMALL LETTER V WITH TILDE", 0x1E7D),
  ("LATIN CAPITAL LETTER V WITH DOT BELOW", 0x1E7E),
  ("LATIN SMALL LETTER V WITH DOT BELOW", 0x1E7F), ("LATIN CAPITAL LETTER W WITH GRAVE", 0x1E80),
  ("LATIN SMALL LETTER W WITH GRAVE", 0x1E81), ("LATIN CAPITAL LETTER W WITH ACUTE", 0x1E82),
  ("LATIN SMALL LETTER W WITH ACUTE", 0x1E83), ("LATIN CAPITAL LETTER W WITH DIAERESIS", 0x1E84),
  ("LATIN SMALL LETTER W WITH DIAERESIS", 0x1E85),
  ("LATIN CAPITAL LETTER W WITH DOT ABOVE", 0x1E86),
  ("LATIN SMALL LETTER W WITH DOT ABOVE", 0x1E87),
  ("LATIN CAPITAL LETTER W WITH DOT BELOW", 0x1E88),
  ("LATIN SMALL LETTER W WITH DOT BELOW", 0x1E89),
  ("LATIN CAPITAL LETTER X WITH DOT ABOVE", 0x1E8A),
  ("LATIN SMALL LETTER X WITH DOT ABOVE", 0x1E8B),
  ("LATIN CAPITAL LETTER X WITH DIAERESIS", 0x1E8C),
  ("LATIN SMALL LETTER X WITH DIAERESIS", 0x1E8D),
  ("LATIN CAPITAL LETTER Y WITH DOT ABOVE", 0x1E8E),
  ("LATIN SMALL LETTER Y WITH DOT ABOVE", 0x1E8F),
  ("LATIN CAPITAL LETTER Z WITH CIRCUMFLEX", 0x1E90),
  ("LATIN SMALL LETTER Z WITH CIRCUMFLEX", 0x1E91),
  ("LATIN CAPITAL LETTER Z WITH DOT BELOW", 0x1E92),
  ("LATIN SMALL LETTER Z WITH DOT BELOW", 0x1E93),
  ("LATIN CAPITAL LETTER Z WITH LINE BELOW", 0x1E94),
  ("LATIN SMALL LETTER Z WITH LINE BELOW", 0x1E95),
  ("LATIN SMALL LETTER H WITH LINE BELOW", 0x1E96),
  ("LATIN SMALL LETTER T WITH DIAERESIS", 0x1E97),
  ("LATIN SMALL LETTER W WITH RING ABOVE", 0x1E98),
  ("LATIN SMALL LETTER Y WITH RING ABOVE", 0x1E99),
  ("LATIN SMALL LETTER A WITH RIGHT HALF RING", 0x1E9A),
  ("LATIN SMALL LETTER LONG S WITH DOT ABOVE", 0x1E9B),
  ("LATIN SMALL LETTER LONG S WITH DIAGONAL STROKE", 0x1E9C),
  ("LATIN SMALL LETTER LONG S WITH HIGH STROKE", 0x1E9D),
  ("LATIN CAPITAL LETTER SHARP S", 0x1E9E), ("LATIN SMALL LETTER DELTA", 0x1E9F),
  ("LATIN CAPITAL LETTER A WITH DOT BELOW", 0x1EA0),
  ("LATIN SMALL LETTER A WITH DOT BELOW", 0x1EA1),
  ("LATIN CAPITAL LETTER A WITH HOOK ABOVE", 0x1EA2),
  ("LATIN SMALL LETTER A WITH HOOK ABOVE", 0x1EA3),
  ("LATIN CAPITAL LETTER A WITH CIRCUMFLEX AND ACUTE", 0x1EA4),
  ("LATIN SMALL LETTER A WITH CIRCUMFLEX AND ACUTE", 0x1EA5),
  ("LATIN CAPITAL LETTER A WITH CIRCUMFLEX AND GRAVE", 0x1EA6),
  ("LATIN SMALL LETTER A WITH CIRCUMFLEX AND GRAVE", 0x1EA7),
  ("LATIN CAPITAL LETTER A WITH CIRCUMFLEX AND HOOK ABOVE", 0x1EA8),
  ("LATIN SMALL LETTER A WITH CIRCUMFLEX AND HOOK ABOVE", 0x1EA9),
  ("LATIN CAPITAL LETTER A WITH CIRCUMFLEX AND TILDE", 0x1EAA),
  ("LATIN SMALL LETTER A WITH CIRCUMFLEX AND TILDE", 0x1EAB),
  ("LATIN CAPITAL LETTER A WITH CIRCUMFLEX AND DOT BELOW", 0x1EAC),
  ("LATIN SMALL LETTER A WITH CIRCUMFLEX AND DOT BELOW", 0x1EAD),
  ("LATIN CAPITAL LETTER A WITH BREVE AND ACUTE", 0x1EAE),
  ("LATIN SMALL LETTER A WITH BREVE AND ACUTE", 0x1EAF),
  ("LATIN CAPITAL LETTER A WITH BREVE AND GRAVE", 0x1EB0),
  ("LATIN SMALL LETTER A WITH BREVE AND GRAVE", 0x1EB1),
  ("LATIN CAPITAL LETTER A WITH BREVE AND HOOK ABOVE", 0x1EB2),
  ("LATIN SMALL LETTER A WITH BREVE AND HOOK ABOVE", 0x1EB3),
  ("LATIN CAPITAL LETTER A WITH BREVE AND TILDE", 0x1EB4),
  ("LATIN SMALL LETTER A WITH BREVE AND TILDE", 0x1EB5),
  ("LATIN CAPITAL LETTER A WITH BREVE AND DOT BELOW", 0x1EB6),
  ("LATIN SMALL LETTER A WITH BREVE AND DOT BELOW", 0x1EB7),
  ("LATIN CAPITAL LETTER E WITH DOT BELOW", 0x1EB8),
  ("LATIN SMALL LETTER E WITH DOT BELOW", 0x1EB9),
  ("LATIN CAPITAL LETTER E WITH HOOK ABOVE", 0x1EBA),
  ("LATIN SMALL LETTER E WITH HOOK ABOVE", 0x1EBB),
  ("LATIN CAPITAL LETTER E WITH TILDE", 0x1EBC), ("LATIN SMALL LETTER E WITH TILDE", 0x1EBD),
  ("LATIN CAPITAL LETTER E WITH CIRCUMFLEX AND ACUTE", 0x1EBE),
  ("LATIN SMALL LETTER E WITH CIRCUMFLEX AND ACUTE", 0x1EBF),
  ("LATIN CAPITAL LETTER E WITH CIRCUMFLEX AND GRAVE", 0x1EC0),
  ("LATIN SMALL LETTER E WITH CIRCUMFLEX AND GRAVE", 0x1EC1),
  ("LATIN CAPITAL LETTER E WITH CIRCUMFLEX AND HOOK ABOVE", 0x1EC2),
  ("LATIN SMALL LETTER E WITH CIRCUMFLEX AND HOOK ABOVE", 0x1EC3),
  ("LATIN CAPITAL LETTER E WITH CIRCUMFLEX AND TILDE", 0x1EC4),
  ("LATIN SMALL LETTER E WITH CIRCUMFLEX AND TILDE", 0x1EC5),
  ("LATIN CAPITAL LETTER E WITH CIRCUMFLEX AND DOT BELOW", 0x1EC6),
  ("LATIN SMALL LETTER E WITH CIRCUMFLEX AND DOT BELOW", 0x1EC7),
  ("LATIN CAPITAL LETTER I WITH HOOK ABOVE", 0x1EC8),
  ("LATIN SMALL LETTER I WITH HOOK ABOVE", 0x1EC9),
  ("LATIN CAPITAL LETTER I WITH DOT BELOW", 0x1ECA),
  ("LATIN SMALL LETTER I WITH DOT BELOW", 0x1ECB),
  ("LATIN CAPITAL LETTER O WITH DOT BELOW", 0x1ECC),
  ("LATIN SMALL LETTER O WITH DOT BELOW", 0x1ECD),
  ("LATIN CAPITAL LETTER O WITH HOOK ABOVE", 0x1ECE),
  ("LATIN SMALL LETTER O WITH HOOK ABOVE", 0x1ECF),
  ("LATIN CAPITAL LETTER O WITH CIRCUMFLEX AND ACUTE", 0x1ED0),
  ("LATIN SMALL LETTER O WITH CIRCUMFLEX AND ACUTE", 0x1ED1),
  ("LATIN CAPITAL LETTER O WITH CIRCUMFLEX AND GRAVE", 0x1ED2),
  ("LATIN SMALL LETTER O WITH CIRCUMFLEX AND GRAVE", 0x1ED3),
  ("LATIN CAPITAL LETTER O WITH CIRCUMFLEX AND HOOK ABOVE", 0x1ED4),
  ("LATIN SMALL LETTER O WITH CIRCUMFLEX AND HOOK ABOVE", 0x1ED5),
  ("LATIN CAPITAL LETTER O WITH CIRCUMFLEX AND TILDE", 0x1ED6),
  ("LATIN SMALL LETTER O WITH CIRCUMFLEX AND TILDE", 0x1ED7),
  ("LATIN CAPITAL LETTER O WITH CIRCUMFLEX AND DOT BELOW", 0x1ED8),
  ("LATIN SMALL LETTER O WITH CIRCUMFLEX AND DOT BELOW", 0x1ED9),
  ("LATIN CAPITAL LETTER O WITH HORN AND ACUTE", 0x1EDA),
  ("LATIN SMALL LETTER O WITH HORN AND ACUTE", 0x1EDB),
  ("LATIN CAPITAL LETTER O WITH HORN AND GRAVE", 0x1EDC),
  ("LATIN SMALL LETTER O WITH HORN AND GRAVE", 0x1EDD),
  ("LATIN CAPITAL LETTER O WITH HORN AND HOOK ABOVE", 0x1EDE),
  ("LATIN SMALL LETTER O WITH HORN AND HOOK ABOVE", 0x1EDF),
  ("LATIN CAPITAL LETTER O WITH HORN AND TILDE", 0x1EE0),
  ("LATIN SMALL LETTER O WITH HORN AND TILDE", 0x1EE1),
  ("LATIN CAPITAL LETTER O WITH HORN AND DOT BELOW", 0x1EE2),
  ("LATIN SMALL LETTER O WITH HORN AND DOT BELOW", 0x1EE3),
  ("LATIN CAPITAL LETTER U WITH DOT BELOW", 0x1EE4),
  ("LATIN SMALL LETTER U WITH DOT BELOW", 0x1EE5),
  ("LATIN CAPITAL LETTER U WITH HOOK ABOVE", 0x1EE6),
  ("LATIN SMALL LETTER U WITH HOOK ABOVE", 0x1EE7),
  ("LATIN CAPITAL LETTER U WITH HORN AND ACUTE", 0x1EE8),
  ("LATIN SMALL LETTER U WITH HORN AND ACUTE", 0x1EE9),
  ("LATIN CAPITAL LETTER U WITH HORN AND GRAVE", 0x1EEA),
  ("LATIN SMALL LETTER U WITH HORN AND GRAVE", 0x1EEB),
  ("LATIN CAPITAL LETTER U WITH HORN AND HOOK ABOVE", 0x1EEC),
  ("LATIN SMALL LETTER U WITH HORN AND HOOK ABOVE", 0x1EED),
  ("LATIN CAPITAL LETTER U WITH HORN AND TILDE", 0x1EEE),
  ("LATIN SMALL LETTER U WITH HORN AND TILDE", 0x1EEF),
  ("LATIN CAPITAL LETTER U WITH HORN AND DOT BELOW", 0x1EF0),
  ("LATIN SMALL LETTER U WITH HORN AND DOT BELOW", 0x1EF1),
  ("LATIN CAPITAL LETTER Y WITH GRAVE", 0x1EF2), ("LATIN SMALL LETTER Y WITH GRAVE", 0x1EF3),
  ("LATIN CAPITAL LETTER Y WITH DOT BELOW", 0x1EF4),
  ("LATIN SMALL LETTER Y WITH DOT BELOW", 0x1EF5),
  ("LATIN CAPITAL LETTER Y WITH HOOK ABOVE", 0x1EF6),
  ("LATIN SMALL LETTER Y WITH HOOK ABOVE", 0x1EF7),
  ("LATIN CAPITAL LETTER Y WITH TILDE", 0x1EF8), ("LATIN SMALL LETTER Y WITH TILDE", 0x1EF9),
  ("LATIN CAPITAL LETTER MIDDLE-WELSH LL", 0x1EFA),
  ("LATIN SMALL LETTER MIDDLE-WELSH LL", 0x1EFB),
  ("LATIN CAPITAL LETTER MIDDLE-WELSH V", 0x1EFC), ("LATIN SMALL LETTER MIDDLE-WELSH V", 0x1EFD),
  ("LATIN CAPITAL LETTER Y WITH LOOP", 0x1EFE), ("LATIN SMALL LETTER Y WITH LOOP", 0x1EFF)]

end Conformance.Unicode
