/-!
# Names of Latin letters, common signs and controls

Names and their code points, in the order of the code points. A control has no name of its own
and goes by its aliases.
-/
namespace Conformance.Unicode

/-- Names of code points up to the phonetic letters. -/
def latinNames : List (String × Nat) := [
  ("NUL", 0x0), ("NULL", 0x0), ("SOH", 0x1), ("START OF HEADING", 0x1), ("START OF TEXT", 0x2),
  ("STX", 0x2), ("END OF TEXT", 0x3), ("ETX", 0x3), ("END OF TRANSMISSION", 0x4), ("EOT", 0x4),
  ("ENQ", 0x5), ("ENQUIRY", 0x5), ("ACK", 0x6), ("ACKNOWLEDGE", 0x6), ("ALERT", 0x7),
  ("BEL", 0x7), ("BACKSPACE", 0x8), ("BS", 0x8), ("CHARACTER TABULATION", 0x9),
  ("HORIZONTAL TABULATION", 0x9), ("HT", 0x9), ("TAB", 0x9), ("END OF LINE", 0xA), ("EOL", 0xA),
  ("LF", 0xA), ("LINE FEED", 0xA), ("NEW LINE", 0xA), ("NL", 0xA), ("LINE TABULATION", 0xB),
  ("VERTICAL TABULATION", 0xB), ("VT", 0xB), ("FF", 0xC), ("FORM FEED", 0xC),
  ("CARRIAGE RETURN", 0xD), ("CR", 0xD), ("SHIFT OUT", 0xE), ("SO", 0xE), ("SHIFT IN", 0xF),
  ("SI", 0xF), ("DATA LINK ESCAPE", 0x10), ("DLE", 0x10), ("CAN", 0x18), ("CANCEL", 0x18),
  ("END OF MEDIUM", 0x19), ("EOM", 0x19), ("SUB", 0x1A), ("SUBSTITUTE", 0x1A), ("ESC", 0x1B),
  ("ESCAPE", 0x1B), ("FILE SEPARATOR", 0x1C), ("FS", 0x1C), ("GROUP SEPARATOR", 0x1D),
  ("GS", 0x1D), ("RECORD SEPARATOR", 0x1E), ("RS", 0x1E), ("UNIT SEPARATOR", 0x1F), ("US", 0x1F),
  ("SP", 0x20), ("SPACE", 0x20), ("EXCLAMATION MARK", 0x21), ("QUOTATION MARK", 0x22),
  ("NUMBER SIGN", 0x23), ("DOLLAR SIGN", 0x24), ("PERCENT SIGN", 0x25), ("AMPERSAND", 0x26),
  ("APOSTROPHE", 0x27), ("LEFT PARENTHESIS", 0x28), ("RIGHT PARENTHESIS", 0x29),
  ("ASTERISK", 0x2A), ("PLUS SIGN", 0x2B), ("COMMA", 0x2C), ("HYPHEN-MINUS", 0x2D),
  ("FULL STOP", 0x2E), ("SOLIDUS", 0x2F), ("DIGIT ZERO", 0x30), ("DIGIT ONE", 0x31),
  ("DIGIT TWO", 0x32), ("DIGIT THREE", 0x33), ("DIGIT FOUR", 0x34), ("DIGIT FIVE", 0x35),
  ("DIGIT SIX", 0x36), ("DIGIT SEVEN", 0x37), ("DIGIT EIGHT", 0x38), ("DIGIT NINE", 0x39),
  ("COLON", 0x3A), ("SEMICOLON", 0x3B), ("LESS-THAN SIGN", 0x3C), ("EQUALS SIGN", 0x3D),
  ("GREATER-THAN SIGN", 0x3E), ("QUESTION MARK", 0x3F), ("COMMERCIAL AT", 0x40),
  ("LATIN CAPITAL LETTER A", 0x41), ("LATIN CAPITAL LETTER B", 0x42),
  ("LATIN CAPITAL LETTER C", 0x43), ("LATIN CAPITAL LETTER D", 0x44),
  ("LATIN CAPITAL LETTER E", 0x45), ("LATIN CAPITAL LETTER F", 0x46),
  ("LATIN CAPITAL LETTER G", 0x47), ("LATIN CAPITAL LETTER H", 0x48),
  ("LATIN CAPITAL LETTER I", 0x49), ("LATIN CAPITAL LETTER J", 0x4A),
  ("LATIN CAPITAL LETTER K", 0x4B), ("LATIN CAPITAL LETTER L", 0x4C),
  ("LATIN CAPITAL LETTER M", 0x4D), ("LATIN CAPITAL LETTER N", 0x4E),
  ("LATIN CAPITAL LETTER O", 0x4F), ("LATIN CAPITAL LETTER P", 0x50),
  ("LATIN CAPITAL LETTER Q", 0x51), ("LATIN CAPITAL LETTER R", 0x52),
  ("LATIN CAPITAL LETTER S", 0x53), ("LATIN CAPITAL LETTER T", 0x54),
  ("LATIN CAPITAL LETTER U", 0x55), ("LATIN CAPITAL LETTER V", 0x56),
  ("LATIN CAPITAL LETTER W", 0x57), ("LATIN CAPITAL LETTER X", 0x58),
  ("LATIN CAPITAL LETTER Y", 0x59), ("LATIN CAPITAL LETTER Z", 0x5A),
  ("LEFT SQUARE BRACKET", 0x5B), ("REVERSE SOLIDUS", 0x5C), ("RIGHT SQUARE BRACKET", 0x5D),
  ("CIRCUMFLEX ACCENT", 0x5E), ("LOW LINE", 0x5F), ("GRAVE ACCENT", 0x60),
  ("LATIN SMALL LETTER A", 0x61), ("LATIN SMALL LETTER B", 0x62), ("LATIN SMALL LETTER C", 0x63),
  ("LATIN SMALL LETTER D", 0x64), ("LATIN SMALL LETTER E", 0x65), ("LATIN SMALL LETTER F", 0x66),
  ("LATIN SMALL LETTER G", 0x67), ("LATIN SMALL LETTER H", 0x68), ("LATIN SMALL LETTER I", 0x69),
  ("LATIN SMALL LETTER J", 0x6A), ("LATIN SMALL LETTER K", 0x6B), ("LATIN SMALL LETTER L", 0x6C),
  ("LATIN SMALL LETTER M", 0x6D), ("LATIN SMALL LETTER N", 0x6E), ("LATIN SMALL LETTER O", 0x6F),
  ("LATIN SMALL LETTER P", 0x70), ("LATIN SMALL LETTER Q", 0x71), ("LATIN SMALL LETTER R", 0x72),
  ("LATIN SMALL LETTER S", 0x73), ("LATIN SMALL LETTER T", 0x74), ("LATIN SMALL LETTER U", 0x75),
  ("LATIN SMALL LETTER V", 0x76), ("LATIN SMALL LETTER W", 0x77), ("LATIN SMALL LETTER X", 0x78),
  ("LATIN SMALL LETTER Y", 0x79), ("LATIN SMALL LETTER Z", 0x7A), ("LEFT CURLY BRACKET", 0x7B),
  ("VERTICAL LINE", 0x7C), ("RIGHT CURLY BRACKET", 0x7D), ("TILDE", 0x7E), ("DEL", 0x7F),
  ("DELETE", 0x7F), ("NEL", 0x85), ("NEXT LINE", 0x85), ("NBSP", 0xA0), ("NO-BREAK SPACE", 0xA0),
  ("INVERTED EXCLAMATION MARK", 0xA1), ("CENT SIGN", 0xA2), ("POUND SIGN", 0xA3),
  ("CURRENCY SIGN", 0xA4), ("YEN SIGN", 0xA5), ("BROKEN BAR", 0xA6), ("SECTION SIGN", 0xA7),
  ("DIAERESIS", 0xA8), ("COPYRIGHT SIGN", 0xA9), ("FEMININE ORDINAL INDICATOR", 0xAA),
  ("LEFT-POINTING DOUBLE ANGLE QUOTATION MARK", 0xAB), ("NOT SIGN", 0xAC), ("SHY", 0xAD),
  ("SOFT HYPHEN", 0xAD), ("REGISTERED SIGN", 0xAE), ("MACRON", 0xAF), ("DEGREE SIGN", 0xB0),
  ("PLUS-MINUS SIGN", 0xB1), ("SUPERSCRIPT TWO", 0xB2), ("SUPERSCRIPT THREE", 0xB3),
  ("ACUTE ACCENT", 0xB4), ("MICRO SIGN", 0xB5), ("PILCROW SIGN", 0xB6), ("MIDDLE DOT", 0xB7),
  ("CEDILLA", 0xB8), ("SUPERSCRIPT ONE", 0xB9), ("MASCULINE ORDINAL INDICATOR", 0xBA),
  ("RIGHT-POINTING DOUBLE ANGLE QUOTATION MARK", 0xBB), ("VULGAR FRACTION ONE QUARTER", 0xBC),
  ("VULGAR FRACTION ONE HALF", 0xBD), ("VULGAR FRACTION THREE QUARTERS", 0xBE),
  ("INVERTED QUESTION MARK", 0xBF), ("LATIN CAPITAL LETTER A WITH GRAVE", 0xC0),
  ("LATIN CAPITAL LETTER A WITH ACUTE", 0xC1), ("LATIN CAPITAL LETTER A WITH CIRCUMFLEX", 0xC2),
  ("LATIN CAPITAL LETTER A WITH TILDE", 0xC3), ("LATIN CAPITAL LETTER A WITH DIAERESIS", 0xC4),
  ("LATIN CAPITAL LETTER A WITH RING ABOVE", 0xC5), ("LATIN CAPITAL LETTER AE", 0xC6),
  ("LATIN CAPITAL LETTER C WITH CEDILLA", 0xC7), ("LATIN CAPITAL LETTER E WITH GRAVE", 0xC8),
  ("LATIN CAPITAL LETTER E WITH ACUTE", 0xC9), ("LATIN CAPITAL LETTER E WITH CIRCUMFLEX", 0xCA),
  ("LATIN CAPITAL LETTER E WITH DIAERESIS", 0xCB), ("LATIN CAPITAL LETTER I WITH GRAVE", 0xCC),
  ("LATIN CAPITAL LETTER I WITH ACUTE", 0xCD), ("LATIN CAPITAL LETTER I WITH CIRCUMFLEX", 0xCE),
  ("LATIN CAPITAL LETTER I WITH DIAERESIS", 0xCF), ("LATIN CAPITAL LETTER ETH", 0xD0),
  ("LATIN CAPITAL LETTER N WITH TILDE", 0xD1), ("LATIN CAPITAL LETTER O WITH GRAVE", 0xD2),
  ("LATIN CAPITAL LETTER O WITH ACUTE", 0xD3), ("LATIN CAPITAL LETTER O WITH CIRCUMFLEX", 0xD4),
  ("LATIN CAPITAL LETTER O WITH TILDE", 0xD5), ("LATIN CAPITAL LETTER O WITH DIAERESIS", 0xD6),
  ("MULTIPLICATION SIGN", 0xD7), ("LATIN CAPITAL LETTER O WITH STROKE", 0xD8),
  ("LATIN CAPITAL LETTER U WITH GRAVE", 0xD9), ("LATIN CAPITAL LETTER U WITH ACUTE", 0xDA),
  ("LATIN CAPITAL LETTER U WITH CIRCUMFLEX", 0xDB),
  ("LATIN CAPITAL LETTER U WITH DIAERESIS", 0xDC), ("LATIN CAPITAL LETTER Y WITH ACUTE", 0xDD),
  ("LATIN CAPITAL LETTER THORN", 0xDE), ("LATIN SMALL LETTER SHARP S", 0xDF),
  ("LATIN SMALL LETTER A WITH GRAVE", 0xE0), ("LATIN SMALL LETTER A WITH ACUTE", 0xE1),
  ("LATIN SMALL LETTER A WITH CIRCUMFLEX", 0xE2), ("LATIN SMALL LETTER A WITH TILDE", 0xE3),
  ("LATIN SMALL LETTER A WITH DIAERESIS", 0xE4), ("LATIN SMALL LETTER A WITH RING ABOVE", 0xE5),
  ("LATIN SMALL LETTER AE", 0xE6), ("LATIN SMALL LETTER C WITH CEDILLA", 0xE7),
  ("LATIN SMALL LETTER E WITH GRAVE", 0xE8), ("LATIN SMALL LETTER E WITH ACUTE", 0xE9),
  ("LATIN SMALL LETTER E WITH CIRCUMFLEX", 0xEA), ("LATIN SMALL LETTER E WITH DIAERESIS", 0xEB),
  ("LATIN SMALL LETTER I WITH GRAVE", 0xEC), ("LATIN SMALL LETTER I WITH ACUTE", 0xED),
  ("LATIN SMALL LETTER I WITH CIRCUMFLEX", 0xEE), ("LATIN SMALL LETTER I WITH DIAERESIS", 0xEF),
  ("LATIN SMALL LETTER ETH", 0xF0), ("LATIN SMALL LETTER N WITH TILDE", 0xF1),
  ("LATIN SMALL LETTER O WITH GRAVE", 0xF2), ("LATIN SMALL LETTER O WITH ACUTE", 0xF3),
  ("LATIN SMALL LETTER O WITH CIRCUMFLEX", 0xF4), ("LATIN SMALL LETTER O WITH TILDE", 0xF5),
  ("LATIN SMALL LETTER O WITH DIAERESIS", 0xF6), ("DIVISION SIGN", 0xF7),
  ("LATIN SMALL LETTER O WITH STROKE", 0xF8), ("LATIN SMALL LETTER U WITH GRAVE", 0xF9),
  ("LATIN SMALL LETTER U WITH ACUTE", 0xFA), ("LATIN SMALL LETTER U WITH CIRCUMFLEX", 0xFB),
  ("LATIN SMALL LETTER U WITH DIAERESIS", 0xFC), ("LATIN SMALL LETTER Y WITH ACUTE", 0xFD),
  ("LATIN SMALL LETTER THORN", 0xFE), ("LATIN SMALL LETTER Y WITH DIAERESIS", 0xFF),
  ("LATIN CAPITAL LETTER A WITH MACRON", 0x100), ("LATIN SMALL LETTER A WITH MACRON", 0x101),
  ("LATIN CAPITAL LETTER A WITH BREVE", 0x102), ("LATIN SMALL LETTER A WITH BREVE", 0x103),
  ("LATIN CAPITAL LETTER A WITH OGONEK", 0x104), ("LATIN SMALL LETTER A WITH OGONEK", 0x105),
  ("LATIN CAPITAL LETTER C WITH ACUTE", 0x106), ("LATIN SMALL LETTER C WITH ACUTE", 0x107),
  ("LATIN CAPITAL LETTER C WITH CIRCUMFLEX", 0x108),
  ("LATIN SMALL LETTER C WITH CIRCUMFLEX", 0x109),
  ("LATIN CAPITAL LETTER C WITH DOT ABOVE", 0x10A),
  ("LATIN SMALL LETTER C WITH DOT ABOVE", 0x10B), ("LATIN CAPITAL LETTER C WITH CARON", 0x10C),
  ("LATIN SMALL LETTER C WITH CARON", 0x10D), ("LATIN CAPITAL LETTER D WITH CARON", 0x10E),
  ("LATIN SMALL LETTER D WITH CARON", 0x10F), ("LATIN CAPITAL LETTER D WITH STROKE", 0x110),
  ("LATIN SMALL LETTER D WITH STROKE", 0x111), ("LATIN CAPITAL LETTER E WITH MACRON", 0x112),
  ("LATIN SMALL LETTER E WITH MACRON", 0x113), ("LATIN CAPITAL LETTER E WITH BREVE", 0x114),
  ("LATIN SMALL LETTER E WITH BREVE", 0x115), ("LATIN CAPITAL LETTER E WITH DOT ABOVE", 0x116),
  ("LATIN SMALL LETTER E WITH DOT ABOVE", 0x117), ("LATIN CAPITAL LETTER E WITH OGONEK", 0x118),
  ("LATIN SMALL LETTER E WITH OGONEK", 0x119), ("LATIN CAPITAL LETTER E WITH CARON", 0x11A),
  ("LATIN SMALL LETTER E WITH CARON", 0x11B), ("LATIN CAPITAL LETTER G WITH CIRCUMFLEX", 0x11C),
  ("LATIN SMALL LETTER G WITH CIRCUMFLEX", 0x11D), ("LATIN CAPITAL LETTER G WITH BREVE", 0x11E),
  ("LATIN SMALL LETTER G WITH BREVE", 0x11F), ("LATIN CAPITAL LETTER G WITH DOT ABOVE", 0x120),
  ("LATIN SMALL LETTER G WITH DOT ABOVE", 0x121), ("LATIN CAPITAL LETTER G WITH CEDILLA", 0x122),
  ("LATIN SMALL LETTER G WITH CEDILLA", 0x123),
  ("LATIN CAPITAL LETTER H WITH CIRCUMFLEX", 0x124),
  ("LATIN SMALL LETTER H WITH CIRCUMFLEX", 0x125), ("LATIN CAPITAL LETTER H WITH STROKE", 0x126),
  ("LATIN SMALL LETTER H WITH STROKE", 0x127), ("LATIN CAPITAL LETTER I WITH TILDE", 0x128),
  ("LATIN SMALL LETTER I WITH TILDE", 0x129), ("LATIN CAPITAL LETTER I WITH MACRON", 0x12A),
  ("LATIN SMALL LETTER I WITH MACRON", 0x12B), ("LATIN CAPITAL LETTER I WITH BREVE", 0x12C),
  ("LATIN SMALL LETTER I WITH BREVE", 0x12D), ("LATIN CAPITAL LETTER I WITH OGONEK", 0x12E),
  ("LATIN SMALL LETTER I WITH OGONEK", 0x12F), ("LATIN CAPITAL LETTER I WITH DOT ABOVE", 0x130),
  ("LATIN SMALL LETTER DOTLESS I", 0x131), ("LATIN CAPITAL LIGATURE IJ", 0x132),
  ("LATIN SMALL LIGATURE IJ", 0x133), ("LATIN CAPITAL LETTER J WITH CIRCUMFLEX", 0x134),
  ("LATIN SMALL LETTER J WITH CIRCUMFLEX", 0x135),
  ("LATIN CAPITAL LETTER K WITH CEDILLA", 0x136), ("LATIN SMALL LETTER K WITH CEDILLA", 0x137),
  ("LATIN SMALL LETTER KRA", 0x138), ("LATIN CAPITAL LETTER L WITH ACUTE", 0x139),
  ("LATIN SMALL LETTER L WITH ACUTE", 0x13A), ("LATIN CAPITAL LETTER L WITH CEDILLA", 0x13B),
  ("LATIN SMALL LETTER L WITH CEDILLA", 0x13C), ("LATIN CAPITAL LETTER L WITH CARON", 0x13D),
  ("LATIN SMALL LETTER L WITH CARON", 0x13E), ("LATIN CAPITAL LETTER L WITH MIDDLE DOT", 0x13F),
  ("LATIN SMALL LETTER L WITH MIDDLE DOT", 0x140), ("LATIN CAPITAL LETTER L WITH STROKE", 0x141),
  ("LATIN SMALL LETTER L WITH STROKE", 0x142), ("LATIN CAPITAL LETTER N WITH ACUTE", 0x143),
  ("LATIN SMALL LETTER N WITH ACUTE", 0x144), ("LATIN CAPITAL LETTER N WITH CEDILLA", 0x145),
  ("LATIN SMALL LETTER N WITH CEDILLA", 0x146), ("LATIN CAPITAL LETTER N WITH CARON", 0x147),
  ("LATIN SMALL LETTER N WITH CARON", 0x148),
  ("LATIN SMALL LETTER N PRECEDED BY APOSTROPHE", 0x149), ("LATIN CAPITAL LETTER ENG", 0x14A),
  ("LATIN SMALL LETTER ENG", 0x14B), ("LATIN CAPITAL LETTER O WITH MACRON", 0x14C),
  ("LATIN SMALL LETTER O WITH MACRON", 0x14D), ("LATIN CAPITAL LETTER O WITH BREVE", 0x14E),
  ("LATIN SMALL LETTER O WITH BREVE", 0x14F),
  ("LATIN CAPITAL LETTER O WITH DOUBLE ACUTE", 0x150),
  ("LATIN SMALL LETTER O WITH DOUBLE ACUTE", 0x151), ("LATIN CAPITAL LIGATURE OE", 0x152),
  ("LATIN SMALL LIGATURE OE", 0x153), ("LATIN CAPITAL LETTER R WITH ACUTE", 0x154),
  ("LATIN SMALL LETTER R WITH ACUTE", 0x155), ("LATIN CAPITAL LETTER R WITH CEDILLA", 0x156),
  ("LATIN SMALL LETTER R WITH CEDILLA", 0x157), ("LATIN CAPITAL LETTER R WITH CARON", 0x158),
  ("LATIN SMALL LETTER R WITH CARON", 0x159), ("LATIN CAPITAL LETTER S WITH ACUTE", 0x15A),
  ("LATIN SMALL LETTER S WITH ACUTE", 0x15B), ("LATIN CAPITAL LETTER S WITH CIRCUMFLEX", 0x15C),
  ("LATIN SMALL LETTER S WITH CIRCUMFLEX", 0x15D),
  ("LATIN CAPITAL LETTER S WITH CEDILLA", 0x15E), ("LATIN SMALL LETTER S WITH CEDILLA", 0x15F),
  ("LATIN CAPITAL LETTER S WITH CARON", 0x160), ("LATIN SMALL LETTER S WITH CARON", 0x161),
  ("LATIN CAPITAL LETTER T WITH CEDILLA", 0x162), ("LATIN SMALL LETTER T WITH CEDILLA", 0x163),
  ("LATIN CAPITAL LETTER T WITH CARON", 0x164), ("LATIN SMALL LETTER T WITH CARON", 0x165),
  ("LATIN CAPITAL LETTER T WITH STROKE", 0x166), ("LATIN SMALL LETTER T WITH STROKE", 0x167),
  ("LATIN CAPITAL LETTER U WITH TILDE", 0x168), ("LATIN SMALL LETTER U WITH TILDE", 0x169),
  ("LATIN CAPITAL LETTER U WITH MACRON", 0x16A), ("LATIN SMALL LETTER U WITH MACRON", 0x16B),
  ("LATIN CAPITAL LETTER U WITH BREVE", 0x16C), ("LATIN SMALL LETTER U WITH BREVE", 0x16D),
  ("LATIN CAPITAL LETTER U WITH RING ABOVE", 0x16E),
  ("LATIN SMALL LETTER U WITH RING ABOVE", 0x16F),
  ("LATIN CAPITAL LETTER U WITH DOUBLE ACUTE", 0x170),
  ("LATIN SMALL LETTER U WITH DOUBLE ACUTE", 0x171),
  ("LATIN CAPITAL LETTER U WITH OGONEK", 0x172), ("LATIN SMALL LETTER U WITH OGONEK", 0x173),
  ("LATIN CAPITAL LETTER W WITH CIRCUMFLEX", 0x174),
  ("LATIN SMALL LETTER W WITH CIRCUMFLEX", 0x175),
  ("LATIN CAPITAL LETTER Y WITH CIRCUMFLEX", 0x176),
  ("LATIN SMALL LETTER Y WITH CIRCUMFLEX", 0x177),
  ("LATIN CAPITAL LETTER Y WITH DIAERESIS", 0x178), ("LATIN CAPITAL LETTER Z WITH ACUTE", 0x179),
  ("LATIN SMALL LETTER Z WITH ACUTE", 0x17A), ("LATIN CAPITAL LETTER Z WITH DOT ABOVE", 0x17B),
  ("LATIN SMALL LETTER Z WITH DOT ABOVE", 0x17C), ("LATIN CAPITAL LETTER Z WITH CARON", 0x17D),
  ("LATIN SMALL LETTER Z WITH CARON", 0x17E), ("LATIN SMALL LETTER LONG S", 0x17F),
  ("LATIN SMALL LETTER B WITH STROKE", 0x180), ("LATIN CAPITAL LETTER B WITH HOOK", 0x181),
  ("LATIN CAPITAL LETTER B WITH TOPBAR", 0x182), ("LATIN SMALL LETTER B WITH TOPBAR", 0x183),
  ("LATIN CAPITAL LETTER TONE SIX", 0x184), ("LATIN SMALL LETTER TONE SIX", 0x185),
  ("LATIN CAPITAL LETTER OPEN O", 0x186), ("LATIN CAPITAL LETTER C WITH HOOK", 0x187),
  ("LATIN SMALL LETTER C WITH HOOK", 0x188), ("LATIN CAPITAL LETTER AFRICAN D", 0x189),
  ("LATIN CAPITAL LETTER D WITH HOOK", 0x18A), ("LATIN CAPITAL LETTER D WITH TOPBAR", 0x18B),
  ("LATIN SMALL LETTER D WITH TOPBAR", 0x18C), ("LATIN SMALL LETTER TURNED DELTA", 0x18D),
  ("LATIN CAPITAL LETTER REVERSED E", 0x18E), ("LATIN CAPITAL LETTER SCHWA", 0x18F),
  ("LATIN CAPITAL LETTER OPEN E", 0x190), ("LATIN CAPITAL LETTER F WITH HOOK", 0x191),
  ("LATIN SMALL LETTER F WITH HOOK", 0x192), ("LATIN CAPITAL LETTER G WITH HOOK", 0x193),
  ("LATIN CAPITAL LETTER GAMMA", 0x194), ("LATIN SMALL LETTER HV", 0x195),
  ("LATIN CAPITAL LETTER IOTA", 0x196), ("LATIN CAPITAL LETTER I WITH STROKE", 0x197),
  ("LATIN CAPITAL LETTER K WITH HOOK", 0x198), ("LATIN SMALL LETTER K WITH HOOK", 0x199),
  ("LATIN SMALL LETTER L WITH BAR", 0x19A), ("LATIN SMALL LETTER LAMBDA WITH STROKE", 0x19B),
  ("LATIN CAPITAL LETTER TURNED M", 0x19C), ("LATIN CAPITAL LETTER N WITH LEFT HOOK", 0x19D),
  ("LATIN SMALL LETTER N WITH LONG RIGHT LEG", 0x19E),
  ("LATIN CAPITAL LETTER O WITH MIDDLE TILDE", 0x19F),
  ("LATIN CAPITAL LETTER O WITH HORN", 0x1A0), ("LATIN SMALL LETTER O WITH HORN", 0x1A1),
  ("LATIN CAPITAL LETTER GHA", 0x1A2), ("LATIN CAPITAL LETTER OI", 0x1A2),
  ("LATIN SMALL LETTER OI", 0x1A3), ("LATIN CAPITAL LETTER P WITH HOOK", 0x1A4),
  ("LATIN SMALL LETTER P WITH HOOK", 0x1A5), ("LATIN LETTER YR", 0x1A6),
  ("LATIN CAPITAL LETTER TONE TWO", 0x1A7), ("LATIN SMALL LETTER TONE TWO", 0x1A8),
  ("LATIN CAPITAL LETTER ESH", 0x1A9), ("LATIN LETTER REVERSED ESH LOOP", 0x1AA),
  ("LATIN SMALL LETTER T WITH PALATAL HOOK", 0x1AB), ("LATIN CAPITAL LETTER T WITH HOOK", 0x1AC),
  ("LATIN SMALL LETTER T WITH HOOK", 0x1AD),
  ("LATIN CAPITAL LETTER T WITH RETROFLEX HOOK", 0x1AE),
  ("LATIN CAPITAL LETTER U WITH HORN", 0x1AF), ("LATIN SMALL LETTER U WITH HORN", 0x1B0),
  ("LATIN CAPITAL LETTER UPSILON", 0x1B1), ("LATIN CAPITAL LETTER V WITH HOOK", 0x1B2),
  ("LATIN CAPITAL LETTER Y WITH HOOK", 0x1B3), ("LATIN SMALL LETTER Y WITH HOOK", 0x1B4),
  ("LATIN CAPITAL LETTER Z WITH STROKE", 0x1B5), ("LATIN SMALL LETTER Z WITH STROKE", 0x1B6),
  ("LATIN CAPITAL LETTER EZH", 0x1B7), ("LATIN CAPITAL LETTER EZH REVERSED", 0x1B8),
  ("LATIN SMALL LETTER EZH REVERSED", 0x1B9), ("LATIN SMALL LETTER EZH WITH TAIL", 0x1BA),
  ("LATIN LETTER TWO WITH STROKE", 0x1BB), ("LATIN CAPITAL LETTER TONE FIVE", 0x1BC),
  ("LATIN SMALL LETTER TONE FIVE", 0x1BD),
  ("LATIN LETTER INVERTED GLOTTAL STOP WITH STROKE", 0x1BE), ("LATIN LETTER WYNN", 0x1BF),
  ("LATIN LETTER DENTAL CLICK", 0x1C0), ("LATIN LETTER LATERAL CLICK", 0x1C1),
  ("LATIN LETTER ALVEOLAR CLICK", 0x1C2), ("LATIN LETTER RETROFLEX CLICK", 0x1C3),
  ("LATIN CAPITAL LETTER DZ WITH CARON", 0x1C4),
  ("LATIN CAPITAL LETTER D WITH SMALL LETTER Z WITH CARON", 0x1C5),
  ("LATIN SMALL LETTER DZ WITH CARON", 0x1C6), ("LATIN CAPITAL LETTER LJ", 0x1C7),
  ("LATIN CAPITAL LETTER L WITH SMALL LETTER J", 0x1C8), ("LATIN SMALL LETTER LJ", 0x1C9),
  ("LATIN CAPITAL LETTER NJ", 0x1CA), ("LATIN CAPITAL LETTER N WITH SMALL LETTER J", 0x1CB),
  ("LATIN SMALL LETTER NJ", 0x1CC), ("LATIN CAPITAL LETTER A WITH CARON", 0x1CD),
  ("LATIN SMALL LETTER A WITH CARON", 0x1CE), ("LATIN CAPITAL LETTER I WITH CARON", 0x1CF),
  ("LATIN SMALL LETTER I WITH CARON", 0x1D0), ("LATIN CAPITAL LETTER O WITH CARON", 0x1D1),
  ("LATIN SMALL LETTER O WITH CARON", 0x1D2), ("LATIN CAPITAL LETTER U WITH CARON", 0x1D3),
  ("LATIN SMALL LETTER U WITH CARON", 0x1D4),
  ("LATIN CAPITAL LETTER U WITH DIAERESIS AND MACRON", 0x1D5),
  ("LATIN SMALL LETTER U WITH DIAERESIS AND MACRON", 0x1D6),
  ("LATIN CAPITAL LETTER U WITH DIAERESIS AND ACUTE", 0x1D7),
  ("LATIN SMALL LETTER U WITH DIAERESIS AND ACUTE", 0x1D8),
  ("LATIN CAPITAL LETTER U WITH DIAERESIS AND CARON", 0x1D9),
  ("LATIN SMALL LETTER U WITH DIAERESIS AND CARON", 0x1DA),
  ("LATIN CAPITAL LETTER U WITH DIAERESIS AND GRAVE", 0x1DB),
  ("LATIN SMALL LETTER U WITH DIAERESIS AND GRAVE", 0x1DC),
  ("LATIN SMALL LETTER TURNED E", 0x1DD),
  ("LATIN CAPITAL LETTER A WITH DIAERESIS AND MACRON", 0x1DE),
  ("LATIN SMALL LETTER A WITH DIAERESIS AND MACRON", 0x1DF),
  ("LATIN CAPITAL LETTER A WITH DOT ABOVE AND MACRON", 0x1E0),
  ("LATIN SMALL LETTER A WITH DOT ABOVE AND MACRON", 0x1E1),
  ("LATIN CAPITAL LETTER AE WITH MACRON", 0x1E2), ("LATIN SMALL LETTER AE WITH MACRON", 0x1E3),
  ("LATIN CAPITAL LETTER G WITH STROKE", 0x1E4), ("LATIN SMALL LETTER G WITH STROKE", 0x1E5),
  ("LATIN CAPITAL LETTER G WITH CARON", 0x1E6), ("LATIN SMALL LETTER G WITH CARON", 0x1E7),
  ("LATIN CAPITAL LETTER K WITH CARON", 0x1E8), ("LATIN SMALL LETTER K WITH CARON", 0x1E9),
  ("LATIN CAPITAL LETTER O WITH OGONEK", 0x1EA), ("LATIN SMALL LETTER O WITH OGONEK", 0x1EB),
  ("LATIN CAPITAL LETTER O WITH OGONEK AND MACRON", 0x1EC),
  ("LATIN SMALL LETTER O WITH OGONEK AND MACRON", 0x1ED),
  ("LATIN CAPITAL LETTER EZH WITH CARON", 0x1EE), ("LATIN SMALL LETTER EZH WITH CARON", 0x1EF),
  ("LATIN SMALL LETTER J WITH CARON", 0x1F0), ("LATIN CAPITAL LETTER DZ", 0x1F1),
  ("LATIN CAPITAL LETTER D WITH SMALL LETTER Z", 0x1F2), ("LATIN SMALL LETTER DZ", 0x1F3),
  ("LATIN CAPITAL LETTER G WITH ACUTE", 0x1F4), ("LATIN SMALL LETTER G WITH ACUTE", 0x1F5),
  ("LATIN CAPITAL LETTER HWAIR", 0x1F6), ("LATIN CAPITAL LETTER WYNN", 0x1F7),
  ("LATIN CAPITAL LETTER N WITH GRAVE", 0x1F8), ("LATIN SMALL LETTER N WITH GRAVE", 0x1F9),
  ("LATIN CAPITAL LETTER A WITH RING ABOVE AND ACUTE", 0x1FA),
  ("LATIN SMALL LETTER A WITH RING ABOVE AND ACUTE", 0x1FB),
  ("LATIN CAPITAL LETTER AE WITH ACUTE", 0x1FC), ("LATIN SMALL LETTER AE WITH ACUTE", 0x1FD),
  ("LATIN CAPITAL LETTER O WITH STROKE AND ACUTE", 0x1FE),
  ("LATIN SMALL LETTER O WITH STROKE AND ACUTE", 0x1FF),
  ("LATIN CAPITAL LETTER A WITH DOUBLE GRAVE", 0x200),
  ("LATIN SMALL LETTER A WITH DOUBLE GRAVE", 0x201),
  ("LATIN CAPITAL LETTER A WITH INVERTED BREVE", 0x202),
  ("LATIN SMALL LETTER A WITH INVERTED BREVE", 0x203),
  ("LATIN CAPITAL LETTER E WITH DOUBLE GRAVE", 0x204),
  ("LATIN SMALL LETTER E WITH DOUBLE GRAVE", 0x205),
  ("LATIN CAPITAL LETTER E WITH INVERTED BREVE", 0x206),
  ("LATIN SMALL LETTER E WITH INVERTED BREVE", 0x207),
  ("LATIN CAPITAL LETTER I WITH DOUBLE GRAVE", 0x208),
  ("LATIN SMALL LETTER I WITH DOUBLE GRAVE", 0x209),
  ("LATIN CAPITAL LETTER I WITH INVERTED BREVE", 0x20A),
  ("LATIN SMALL LETTER I WITH INVERTED BREVE", 0x20B),
  ("LATIN CAPITAL LETTER O WITH DOUBLE GRAVE", 0x20C),
  ("LATIN SMALL LETTER O WITH DOUBLE GRAVE", 0x20D),
  ("LATIN CAPITAL LETTER O WITH INVERTED BREVE", 0x20E),
  ("LATIN SMALL LETTER O WITH INVERTED BREVE", 0x20F),
  ("LATIN CAPITAL LETTER R WITH DOUBLE GRAVE", 0x210),
  ("LATIN SMALL LETTER R WITH DOUBLE GRAVE", 0x211),
  ("LATIN CAPITAL LETTER R WITH INVERTED BREVE", 0x212),
  ("LATIN SMALL LETTER R WITH INVERTED BREVE", 0x213),
  ("LATIN CAPITAL LETTER U WITH DOUBLE GRAVE", 0x214),
  ("LATIN SMALL LETTER U WITH DOUBLE GRAVE", 0x215),
  ("LATIN CAPITAL LETTER U WITH INVERTED BREVE", 0x216),
  ("LATIN SMALL LETTER U WITH INVERTED BREVE", 0x217),
  ("LATIN CAPITAL LETTER S WITH COMMA BELOW", 0x218),
  ("LATIN SMALL LETTER S WITH COMMA BELOW", 0x219),
  ("LATIN CAPITAL LETTER T WITH COMMA BELOW", 0x21A),
  ("LATIN SMALL LETTER T WITH COMMA BELOW", 0x21B), ("LATIN CAPITAL LETTER YOGH", 0x21C),
  ("LATIN SMALL LETTER YOGH", 0x21D), ("LATIN CAPITAL LETTER H WITH CARON", 0x21E),
  ("LATIN SMALL LETTER H WITH CARON", 0x21F),
  ("LATIN CAPITAL LETTER N WITH LONG RIGHT LEG", 0x220),
  ("LATIN SMALL LETTER D WITH CURL", 0x221), ("LATIN CAPITAL LETTER OU", 0x222),
  ("LATIN SMALL LETTER OU", 0x223), ("LATIN CAPITAL LETTER Z WITH HOOK", 0x224),
  ("LATIN SMALL LETTER Z WITH HOOK", 0x225), ("LATIN CAPITAL LETTER A WITH DOT ABOVE", 0x226),
  ("LATIN SMALL LETTER A WITH DOT ABOVE", 0x227), ("LATIN CAPITAL LETTER E WITH CEDILLA", 0x228),
  ("LATIN SMALL LETTER E WITH CEDILLA", 0x229),
  ("LATIN CAPITAL LETTER O WITH DIAERESIS AND MACRON", 0x22A),
  ("LATIN SMALL LETTER O WITH DIAERESIS AND MACRON", 0x22B),
  ("LATIN CAPITAL LETTER O WITH TILDE AND MACRON", 0x22C),
  ("LATIN SMALL LETTER O WITH TILDE AND MACRON", 0x22D),
  ("LATIN CAPITAL LETTER O WITH DOT ABOVE", 0x22E),
  ("LATIN SMALL LETTER O WITH DOT ABOVE", 0x22F),
  ("LATIN CAPITAL LETTER O WITH DOT ABOVE AND MACRON", 0x230),
  ("LATIN SMALL LETTER O WITH DOT ABOVE AND MACRON", 0x231),
  ("LATIN CAPITAL LETTER Y WITH MACRON", 0x232), ("LATIN SMALL LETTER Y WITH MACRON", 0x233),
  ("LATIN SMALL LETTER L WITH CURL", 0x234), ("LATIN SMALL LETTER N WITH CURL", 0x235),
  ("LATIN SMALL LETTER T WITH CURL", 0x236), ("LATIN SMALL LETTER DOTLESS J", 0x237),
  ("LATIN SMALL LETTER DB DIGRAPH", 0x238), ("LATIN SMALL LETTER QP DIGRAPH", 0x239),
  ("LATIN CAPITAL LETTER A WITH STROKE", 0x23A), ("LATIN CAPITAL LETTER C WITH STROKE", 0x23B),
  ("LATIN SMALL LETTER C WITH STROKE", 0x23C), ("LATIN CAPITAL LETTER L WITH BAR", 0x23D),
  ("LATIN CAPITAL LETTER T WITH DIAGONAL STROKE", 0x23E),
  ("LATIN SMALL LETTER S WITH SWASH TAIL", 0x23F),
  ("LATIN SMALL LETTER Z WITH SWASH TAIL", 0x240), ("LATIN CAPITAL LETTER GLOTTAL STOP", 0x241),
  ("LATIN SMALL LETTER GLOTTAL STOP", 0x242), ("LATIN CAPITAL LETTER B WITH STROKE", 0x243),
  ("LATIN CAPITAL LETTER U BAR", 0x244), ("LATIN CAPITAL LETTER TURNED V", 0x245),
  ("LATIN CAPITAL LETTER E WITH STROKE", 0x246), ("LATIN SMALL LETTER E WITH STROKE", 0x247),
  ("LATIN CAPITAL LETTER J WITH STROKE", 0x248), ("LATIN SMALL LETTER J WITH STROKE", 0x249),
  ("LATIN CAPITAL LETTER SMALL Q WITH HOOK TAIL", 0x24A),
  ("LATIN SMALL LETTER Q WITH HOOK TAIL", 0x24B), ("LATIN CAPITAL LETTER R WITH STROKE", 0x24C),
  ("LATIN SMALL LETTER R WITH STROKE", 0x24D), ("LATIN CAPITAL LETTER Y WITH STROKE", 0x24E),
  ("LATIN SMALL LETTER Y WITH STROKE", 0x24F), ("LATIN SMALL LETTER TURNED A", 0x250),
  ("LATIN SMALL LETTER ALPHA", 0x251), ("LATIN SMALL LETTER TURNED ALPHA", 0x252),
  ("LATIN SMALL LETTER B WITH HOOK", 0x253), ("LATIN SMALL LETTER OPEN O", 0x254),
  ("LATIN SMALL LETTER C WITH CURL", 0x255), ("LATIN SMALL LETTER D WITH TAIL", 0x256),
  ("LATIN SMALL LETTER D WITH HOOK", 0x257), ("LATIN SMALL LETTER REVERSED E", 0x258),
  ("LATIN SMALL LETTER SCHWA", 0x259), ("LATIN SMALL LETTER SCHWA WITH HOOK", 0x25A),
  ("LATIN SMALL LETTER OPEN E", 0x25B), ("LATIN SMALL LETTER REVERSED OPEN E", 0x25C),
  ("LATIN SMALL LETTER REVERSED OPEN E WITH HOOK", 0x25D),
  ("LATIN SMALL LETTER CLOSED REVERSED OPEN E", 0x25E),
  ("LATIN SMALL LETTER DOTLESS J WITH STROKE", 0x25F), ("LATIN SMALL LETTER G WITH HOOK", 0x260),
  ("LATIN SMALL LETTER SCRIPT G", 0x261), ("LATIN LETTER SMALL CAPITAL G", 0x262),
  ("LATIN SMALL LETTER GAMMA", 0x263), ("LATIN SMALL LETTER RAMS HORN", 0x264),
  ("LATIN SMALL LETTER TURNED H", 0x265), ("LATIN SMALL LETTER H WITH HOOK", 0x266),
  ("LATIN SMALL LETTER HENG WITH HOOK", 0x267), ("LATIN SMALL LETTER I WITH STROKE", 0x268),
  ("LATIN SMALL LETTER IOTA", 0x269), ("LATIN LETTER SMALL CAPITAL I", 0x26A),
  ("LATIN SMALL LETTER L WITH MIDDLE TILDE", 0x26B), ("LATIN SMALL LETTER L WITH BELT", 0x26C),
  ("LATIN SMALL LETTER L WITH RETROFLEX HOOK", 0x26D), ("LATIN SMALL LETTER LEZH", 0x26E),
  ("LATIN SMALL LETTER TURNED M", 0x26F), ("LATIN SMALL LETTER TURNED M WITH LONG LEG", 0x270),
  ("LATIN SMALL LETTER M WITH HOOK", 0x271), ("LATIN SMALL LETTER N WITH LEFT HOOK", 0x272),
  ("LATIN SMALL LETTER N WITH RETROFLEX HOOK", 0x273), ("LATIN LETTER SMALL CAPITAL N", 0x274),
  ("LATIN SMALL LETTER BARRED O", 0x275), ("LATIN LETTER SMALL CAPITAL OE", 0x276),
  ("LATIN SMALL LETTER CLOSED OMEGA", 0x277), ("LATIN SMALL LETTER PHI", 0x278),
  ("LATIN SMALL LETTER TURNED R", 0x279), ("LATIN SMALL LETTER TURNED R WITH LONG LEG", 0x27A),
  ("LATIN SMALL LETTER TURNED R WITH HOOK", 0x27B),
  ("LATIN SMALL LETTER R WITH LONG LEG", 0x27C), ("LATIN SMALL LETTER R WITH TAIL", 0x27D),
  ("LATIN SMALL LETTER R WITH FISHHOOK", 0x27E),
  ("LATIN SMALL LETTER REVERSED R WITH FISHHOOK", 0x27F),
  ("LATIN LETTER SMALL CAPITAL R", 0x280), ("LATIN LETTER SMALL CAPITAL INVERTED R", 0x281),
  ("LATIN SMALL LETTER S WITH HOOK", 0x282), ("LATIN SMALL LETTER ESH", 0x283),
  ("LATIN SMALL LETTER DOTLESS J WITH STROKE AND HOOK", 0x284),
  ("LATIN SMALL LETTER SQUAT REVERSED ESH", 0x285), ("LATIN SMALL LETTER ESH WITH CURL", 0x286),
  ("LATIN SMALL LETTER TURNED T", 0x287), ("LATIN SMALL LETTER T WITH RETROFLEX HOOK", 0x288),
  ("LATIN SMALL LETTER U BAR", 0x289), ("LATIN SMALL LETTER UPSILON", 0x28A),
  ("LATIN SMALL LETTER V WITH HOOK", 0x28B), ("LATIN SMALL LETTER TURNED V", 0x28C),
  ("LATIN SMALL LETTER TURNED W", 0x28D), ("LATIN SMALL LETTER TURNED Y", 0x28E),
  ("LATIN LETTER SMALL CAPITAL Y", 0x28F), ("LATIN SMALL LETTER Z WITH RETROFLEX HOOK", 0x290),
  ("LATIN SMALL LETTER Z WITH CURL", 0x291), ("LATIN SMALL LETTER EZH", 0x292),
  ("LATIN SMALL LETTER EZH WITH CURL", 0x293), ("LATIN LETTER GLOTTAL STOP", 0x294),
  ("LATIN LETTER PHARYNGEAL VOICED FRICATIVE", 0x295),
  ("LATIN LETTER INVERTED GLOTTAL STOP", 0x296), ("LATIN LETTER STRETCHED C", 0x297),
  ("LATIN LETTER BILABIAL CLICK", 0x298), ("LATIN LETTER SMALL CAPITAL B", 0x299),
  ("LATIN SMALL LETTER CLOSED OPEN E", 0x29A), ("LATIN LETTER SMALL CAPITAL G WITH HOOK", 0x29B),
  ("LATIN LETTER SMALL CAPITAL H", 0x29C), ("LATIN SMALL LETTER J WITH CROSSED-TAIL", 0x29D),
  ("LATIN SMALL LETTER TURNED K", 0x29E), ("LATIN LETTER SMALL CAPITAL L", 0x29F),
  ("LATIN SMALL LETTER Q WITH HOOK", 0x2A0), ("LATIN LETTER GLOTTAL STOP WITH STROKE", 0x2A1),
  ("LATIN LETTER REVERSED GLOTTAL STOP WITH STROKE", 0x2A2),
  ("LATIN SMALL LETTER DZ DIGRAPH", 0x2A3), ("LATIN SMALL LETTER DEZH DIGRAPH", 0x2A4),
  ("LATIN SMALL LETTER DZ DIGRAPH WITH CURL", 0x2A5), ("LATIN SMALL LETTER TS DIGRAPH", 0x2A6),
  ("LATIN SMALL LETTER TESH DIGRAPH", 0x2A7), ("LATIN SMALL LETTER TC DIGRAPH WITH CURL", 0x2A8),
  ("LATIN SMALL LETTER FENG DIGRAPH", 0x2A9), ("LATIN SMALL LETTER LS DIGRAPH", 0x2AA),
  ("LATIN SMALL LETTER LZ DIGRAPH", 0x2AB), ("LATIN LETTER BILABIAL PERCUSSIVE", 0x2AC),
  ("LATIN LETTER BIDENTAL PERCUSSIVE", 0x2AD),
  ("LATIN SMALL LETTER TURNED H WITH FISHHOOK", 0x2AE),
  ("LATIN SMALL LETTER TURNED H WITH FISHHOOK AND TAIL", 0x2AF)]

end Conformance.Unicode
