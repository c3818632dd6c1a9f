/-!
# Names of punctuation and signs

Names and their code points, in the order of the code points.
-/
namespace Conformance.Unicode

/-- Names of punctuation, currency signs, arrows, operators and circled signs. -/
def signNames : List (String × Nat) := [
  ("EN QUAD", 0x2000), ("EM QUAD", 0x2001), ("EN SPACE", 0x2002), ("EM SPACE", 0x2003),
  ("THREE-PER-EM SPACE", 0x2004), ("FOUR-PER-EM SPACE", 0x2005), ("SIX-PER-EM SPACE", 0x2006),
  ("FIGURE SPACE", 0x2007), ("PUNCTUATION SPACE", 0x2008), ("THIN SPACE", 0x2009),
  ("HAIR SPACE", 0x200A), ("ZERO WIDTH SPACE", 0x200B), ("ZWSP", 0x200B),
  ("ZERO WIDTH NON-JOINER", 0x200C), ("ZWNJ", 0x200C), ("ZERO WIDTH JOINER", 0x200D),
  ("ZWJ", 0x200D), ("LEFT-TO-RIGHT MARK", 0x200E), ("LRM", 0x200E),
  ("RIGHT-TO-LEFT MARK", 0x200F), ("RLM", 0x200F), ("HYPHEN", 0x2010),
  ("NON-BREAKING HYPHEN", 0x2011), ("FIGURE DASH", 0x2012), ("EN DASH", 0x2013),
  ("EM DASH", 0x2014), ("HORIZONTAL BAR", 0x2015), ("DOUBLE VERTICAL LINE", 0x2016),
  ("DOUBLE LOW LINE", 0x2017), ("LEFT SINGLE QUOTATION MARK", 0x2018),
  ("RIGHT SINGLE QUOTATION MARK", 0x2019), ("SINGLE LOW-9 QUOTATION MARK", 0x201A),
  ("SINGLE HIGH-REVERSED-9 QUOTATION MARK", 0x201B), ("LEFT DOUBLE QUOTATION MARK", 0x201C),
  ("RIGHT DOUBLE QUOTATION MARK", 0x201D), ("DOUBLE LOW-9 QUOTATION MARK", 0x201E),
  ("DOUBLE HIGH-REVERSED-9 QUOTATION MARK", 0x201F), ("DAGGER", 0x2020),
  ("DOUBLE DAGGER", 0x2021), ("BULLET", 0x2022), ("TRIANGULAR BULLET", 0x2023),
  ("ONE DOT LEADER", 0x2024), ("TWO DOT LEADER", 0x2025), ("HORIZONTAL ELLIPSIS", 0x2026),
  ("HYPHENATION POINT", 0x2027), ("LINE SEPARATOR", 0x2028), ("PARAGRAPH SEPARATOR", 0x2029),
  ("LEFT-TO-RIGHT EMBEDDING", 0x202A), ("LRE", 0x202A), ("RIGHT-TO-LEFT EMBEDDING", 0x202B),
  ("RLE", 0x202B), ("PDF", 0x202C), ("POP DIRECTIONAL FORMATTING", 0x202C),
  ("LEFT-TO-RIGHT OVERRIDE", 0x202D), ("LRO", 0x202D), ("RIGHT-TO-LEFT OVERRIDE", 0x202E),
  ("RLO", 0x202E), ("NARROW NO-BREAK SPACE", 0x202F), ("NNBSP", 0x202F),
  ("PER MILLE SIGN", 0x2030), ("PER TEN THOUSAND SIGN", 0x2031), ("PRIME", 0x2032),
  ("DOUBLE PRIME", 0x2033), ("TRIPLE PRIME", 0x2034), ("REVERSED PRIME", 0x2035),
  ("REVERSED DOUBLE PRIME", 0x2036), ("REVERSED TRIPLE PRIME", 0x2037), ("CARET", 0x2038),
  ("SINGLE LEFT-POINTING ANGLE QUOTATION MARK", 0x2039),
  ("SINGLE RIGHT-POINTING ANGLE QUOTATION MARK", 0x203A), ("REFERENCE MARK", 0x203B),
  ("DOUBLE EXCLAMATION MARK", 0x203C), ("INTERROBANG", 0x203D), ("OVERLINE", 0x203E),
  ("UNDERTIE", 0x203F), ("CHARACTER TIE", 0x2040), ("CARET INSERTION POINT", 0x2041),
  ("ASTERISM", 0x2042), ("HYPHEN BULLET", 0x2043), ("FRACTION SLASH", 0x2044),
  ("LEFT SQUARE BRACKET WITH QUILL", 0x2045), ("RIGHT SQUARE BRACKET WITH QUILL", 0x2046),
  ("DOUBLE QUESTION MARK", 0x2047), ("QUESTION EXCLAMATION MARK", 0x2048),
  ("EXCLAMATION QUESTION MARK", 0x2049), ("TIRONIAN SIGN ET", 0x204A),
  ("REVERSED PILCROW SIGN", 0x204B), ("BLACK LEFTWARDS BULLET", 0x204C),
  ("BLACK RIGHTWARDS BULLET", 0x204D), ("LOW ASTERISK", 0x204E), ("REVERSED SEMICOLON", 0x204F),
  ("CLOSE UP", 0x2050), ("TWO ASTERISKS ALIGNED VERTICALLY", 0x2051),
  ("COMMERCIAL MINUS SIGN", 0x2052), ("SWUNG DASH", 0x2053), ("INVERTED UNDERTIE", 0x2054),
  ("FLOWER PUNCTUATION MARK", 0x2055), ("THREE DOT PUNCTUATION", 0x2056),
  ("QUADRUPLE PRIME", 0x2057), ("FOUR DOT PUNCTUATION", 0x2058),
  ("FIVE DOT PUNCTUATION", 0x2059), ("TWO DOT PUNCTUATION", 0x205A), ("FOUR DOT MARK", 0x205B),
  ("DOTTED CROSS", 0x205C), ("TRICOLON", 0x205D), ("VERTICAL FOUR DOTS", 0x205E),
  ("MEDIUM MATHEMATICAL SPACE", 0x205F), ("WJ", 0x2060), ("WORD JOINER", 0x2060),
  ("FUNCTION APPLICATION", 0x2061), ("INVISIBLE TIMES", 0x2062), ("INVISIBLE SEPARATOR", 0x2063),
  ("INVISIBLE PLUS", 0x2064), ("LEFT-TO-RIGHT ISOLATE", 0x2066), ("LRI", 0x2066),
  ("RIGHT-TO-LEFT ISOLATE", 0x2067), ("RLI", 0x2067), ("FIRST STRONG ISOLATE", 0x2068),
  ("FSI", 0x2068), ("PDI", 0x2069), ("POP DIRECTIONAL ISOLATE", 0x2069),
  ("INHIBIT SYMMETRIC SWAPPING", 0x206A), ("ACTIVATE SYMMETRIC SWAPPING", 0x206B),
  ("INHIBIT ARABIC FORM SHAPING", 0x206C), ("ACTIVATE ARABIC FORM SHAPING", 0x206D),
  ("NATIONAL DIGIT SHAPES", 0x206E), ("NOMINAL DIGIT SHAPES", 0x206F),
  ("SUPERSCRIPT ZERO", 0x2070), ("SUPERSCRIPT LATIN SMALL LETTER I", 0x2071),
  ("SUPERSCRIPT FOUR", 0x2074), ("SUPERSCRIPT FIVE", 0x2075), ("SUPERSCRIPT SIX", 0x2076),
  ("SUPERSCRIPT SEVEN", 0x2077), ("SUPERSCRIPT EIGHT", 0x2078), ("SUPERSCRIPT NINE", 0x2079),
  ("SUPERSCRIPT PLUS SIGN", 0x207A), ("SUPERSCRIPT MINUS", 0x207B),
  ("SUPERSCRIPT EQUALS SIGN", 0x207C), ("SUPERSCRIPT LEFT PARENTHESIS", 0x207D),
  ("SUPERSCRIPT RIGHT PARENTHESIS", 0x207E), ("SUPERSCRIPT LATIN SMALL LETTER N", 0x207F),
  ("SUBSCRIPT ZERO", 0x2080), ("SUBSCRIPT ONE", 0x2081), ("SUBSCRIPT TWO", 0x2082),
  ("SUBSCRIPT THREE", 0x2083), ("SUBSCRIPT FOUR", 0x2084), ("SUBSCRIPT FIVE", 0x2085),
  ("SUBSCRIPT SIX", 0x2086), ("SUBSCRIPT SEVEN", 0x2087), ("SUBSCRIPT EIGHT", 0x2088),
  ("SUBSCRIPT NINE", 0x2089), ("SUBSCRIPT PLUS SIGN", 0x208A), ("SUBSCRIPT MINUS", 0x208B),
  ("SUBSCRIPT EQUALS SIGN", 0x208C), ("SUBSCRIPT LEFT PARENTHESIS", 0x208D),
  ("SUBSCRIPT RIGHT PARENTHESIS", 0x208E), ("LATIN SUBSCRIPT SMALL LETTER A", 0x2090),
  ("LATIN SUBSCRIPT SMALL LETTER E", 0x2091), ("LATIN SUBSCRIPT SMALL LETTER O", 0x2092),
  ("LATIN SUBSCRIPT SMALL LETTER X", 0x2093), ("LATIN SUBSCRIPT SMALL LETTER SCHWA", 0x2094),
  ("LATIN SUBSCRIPT SMALL LETTER H", 0x2095), ("LATIN SUBSCRIPT SMALL LETTER K", 0x2096),
  ("LATIN SUBSCRIPT SMALL LETTER L", 0x2097), ("LATIN SUBSCRIPT SMALL LETTER M", 0x2098),
  ("LATIN SUBSCRIPT SMALL LETTER N", 0x2099), ("LATIN SUBSCRIPT SMALL LETTER P", 0x209A),
  ("LATIN SUBSCRIPT SMALL LETTER S", 0x209B), ("LATIN SUBSCRIPT SMALL LETTER T", 0x209C),
  ("EURO-CURRENCY SIGN", 0x20A0), ("COLON SIGN", 0x20A1), ("CRUZEIRO SIGN", 0x20A2),
  ("FRENCH FRANC SIGN", 0x20A3), ("LIRA SIGN", 0x20A4), ("MILL SIGN", 0x20A5),
  ("NAIRA SIGN", 0x20A6), ("PESETA SIGN", 0x20A7), ("RUPEE SIGN", 0x20A8), ("WON SIGN", 0x20A9),
  ("NEW SHEQEL SIGN", 0x20AA), ("DONG SIGN", 0x20AB), ("EURO SIGN", 0x20AC),
  ("KIP SIGN", 0x20AD), ("TUGRIK SIGN", 0x20AE), ("DRACHMA SIGN", 0x20AF),
  ("GERMAN PENNY SIGN", 0x20B0), ("PESO SIGN", 0x20B1), ("GUARANI SIGN", 0x20B2),
  ("AUSTRAL SIGN", 0x20B3), ("HRYVNIA SIGN", 0x20B4), ("CEDI SIGN", 0x20B5),
  ("LIVRE TOURNOIS SIGN", 0x20B6), ("SPESMILO SIGN", 0x20B7), ("TENGE SIGN", 0x20B8),
  ("INDIAN RUPEE SIGN", 0x20B9), ("TURKISH LIRA SIGN", 0x20BA), ("NORDIC MARK SIGN", 0x20BB),
  ("MANAT SIGN", 0x20BC), ("RUBLE SIGN", 0x20BD), ("LARI SIGN", 0x20BE),
  ("BITCOIN SIGN", 0x20BF), ("SOM SIGN", 0x20C0), ("ACCOUNT OF", 0x2100),
  ("ADDRESSED TO THE SUBJECT", 0x2101), ("DOUBLE-STRUCK CAPITAL C", 0x2102),
  ("DEGREE CELSIUS", 0x2103), ("CENTRE LINE SYMBOL", 0x2104), ("CARE OF", 0x2105),
  ("CADA UNA", 0x2106), ("EULER CONSTANT", 0x2107), ("SCRUPLE", 0x2108),
  ("DEGREE FAHRENHEIT", 0x2109), ("SCRIPT SMALL G", 0x210A), ("SCRIPT CAPITAL H", 0x210B),
  ("BLACK-LETTER CAPITAL H", 0x210C), ("DOUBLE-STRUCK CAPITAL H", 0x210D),
  ("PLANCK CONSTANT", 0x210E), ("PLANCK CONSTANT OVER TWO PI", 0x210F),
  ("SCRIPT CAPITAL I", 0x2110), ("BLACK-LETTER CAPITAL I", 0x2111), ("SCRIPT CAPITAL L", 0x2112),
  ("SCRIPT SMALL L", 0x2113), ("L B BAR SYMBOL", 0x2114), ("DOUBLE-STRUCK CAPITAL N", 0x2115),
  ("NUMERO SIGN", 0x2116), ("SOUND RECORDING COPYRIGHT", 0x2117), ("SCRIPT CAPITAL P", 0x2118),
  ("WEIERSTRASS ELLIPTIC FUNCTION", 0x2118), ("DOUBLE-STRUCK CAPITAL P", 0x2119),
  ("DOUBLE-STRUCK CAPITAL Q", 0x211A), ("SCRIPT CAPITAL R", 0x211B),
  ("BLACK-LETTER CAPITAL R", 0x211C), ("DOUBLE-STRUCK CAPITAL R", 0x211D),
  ("PRESCRIPTION TAKE", 0x211E), ("RESPONSE", 0x211F), ("SERVICE MARK", 0x2120),
  ("TELEPHONE SIGN", 0x2121), ("TRADE MARK SIGN", 0x2122), ("VERSICLE", 0x2123),
  ("DOUBLE-STRUCK CAPITAL Z", 0x2124), ("OUNCE SIGN", 0x2125), ("OHM SIGN", 0x2126),
  ("INVERTED OHM SIGN", 0x2127), ("BLACK-LETTER CAPITAL Z", 0x2128),
  ("TURNED GREEK SMALL LETTER IOTA", 0x2129), ("KELVIN SIGN", 0x212A), ("ANGSTROM SIGN", 0x212B),
  ("SCRIPT CAPITAL B", 0x212C), ("BLACK-LETTER CAPITAL C", 0x212D), ("ESTIMATED SYMBOL", 0x212E),
  ("SCRIPT SMALL E", 0x212F), ("SCRIPT CAPITAL E", 0x2130), ("SCRIPT CAPITAL F", 0x2131),
  ("TURNED CAPITAL F", 0x2132), ("SCRIPT CAPITAL M", 0x2133), ("SCRIPT SMALL O", 0x2134),
  ("ALEF SYMBOL", 0x2135), ("BET SYMBOL", 0x2136), ("GIMEL SYMBOL", 0x2137),
  ("DALET SYMBOL", 0x2138), ("INFORMATION SOURCE", 0x2139), ("ROTATED CAPITAL Q", 0x213A),
  ("FACSIMILE SIGN", 0x213B), ("DOUBLE-STRUCK SMALL PI", 0x213C),
  ("DOUBLE-STRUCK SMALL GAMMA", 0x213D), ("DOUBLE-STRUCK CAPITAL GAMMA", 0x213E),
  ("DOUBLE-STRUCK CAPITAL PI", 0x213F), ("DOUBLE-STRUCK N-ARY SUMMATION", 0x2140),
  ("TURNED SANS-SERIF CAPITAL G", 0x2141), ("TURNED SANS-SERIF CAPITAL L", 0x2142),
  ("REVERSED SANS-SERIF CAPITAL L", 0x2143), ("TURNED SANS-SERIF CAPITAL Y", 0x2144),
  ("DOUBLE-STRUCK ITALIC CAPITAL D", 0x2145), ("DOUBLE-STRUCK ITALIC SMALL D", 0x2146),
  ("DOUBLE-STRUCK ITALIC SMALL E", 0x2147), ("DOUBLE-STRUCK ITALIC SMALL I", 0x2148),
  ("DOUBLE-STRUCK ITALIC SMALL J", 0x2149), ("PROPERTY LINE", 0x214A),
  ("TURNED AMPERSAND", 0x214B), ("PER SIGN", 0x214C), ("AKTIESELSKAB", 0x214D),
  ("TURNED SMALL F", 0x214E), ("SYMBOL FOR SAMARITAN SOURCE", 0x214F),
  ("VULGAR FRACTION ONE SEVENTH", 0x2150), ("VULGAR FRACTION ONE NINTH", 0x2151),
  ("VULGAR FRACTION ONE TENTH", 0x2152), ("VULGAR FRACTION ONE THIRD", 0x2153),
  ("VULGAR FRACTION TWO THIRDS", 0x2154), ("VULGAR FRACTION ONE FIFTH", 0x2155),
  ("VULGAR FRACTION TWO FIFTHS", 0x2156), ("VULGAR FRACTION THREE FIFTHS", 0x2157),
  ("VULGAR FRACTION FOUR FIFTHS", 0x2158), ("VULGAR FRACTION ONE SIXTH", 0x2159),
  ("VULGAR FRACTION FIVE SIXTHS", 0x215A), ("VULGAR FRACTION ONE EIGHTH", 0x215B),
  ("VULGAR FRACTION THREE EIGHTHS", 0x215C), ("VULGAR FRACTION FIVE EIGHTHS", 0x215D),
  ("VULGAR FRACTION SEVEN EIGHTHS", 0x215E), ("FRACTION NUMERATOR ONE", 0x215F),
  ("ROMAN NUMERAL ONE", 0x2160), ("ROMAN NUMERAL TWO", 0x2161), ("ROMAN NUMERAL THREE", 0x2162),
  ("ROMAN NUMERAL FOUR", 0x2163), ("ROMAN NUMERAL FIVE", 0x2164), ("ROMAN NUMERAL SIX", 0x2165),
  ("ROMAN NUMERAL SEVEN", 0x2166), ("ROMAN NUMERAL EIGHT", 0x2167),
  ("ROMAN NUMERAL NINE", 0x2168), ("ROMAN NUMERAL TEN", 0x2169),
  ("ROMAN NUMERAL ELEVEN", 0x216A), ("ROMAN NUMERAL TWELVE", 0x216B),
  ("ROMAN NUMERAL FIFTY", 0x216C), ("ROMAN NUMERAL ONE HUNDRED", 0x216D),
  ("ROMAN NUMERAL FIVE HUNDRED", 0x216E), ("ROMAN NUMERAL ONE THOUSAND", 0x216F),
  ("SMALL ROMAN NUMERAL ONE", 0x2170), ("SMALL ROMAN NUMERAL TWO", 0x2171),
  ("SMALL ROMAN NUMERAL THREE", 0x2172), ("SMALL ROMAN NUMERAL FOUR", 0x2173),
  ("SMALL ROMAN NUMERAL FIVE", 0x2174), ("SMALL ROMAN NUMERAL SIX", 0x2175),
  ("SMALL ROMAN NUMERAL SEVEN", 0x2176), ("SMALL ROMAN NUMERAL EIGHT", 0x2177),
  ("SMALL ROMAN NUMERAL NINE", 0x2178), ("SMALL ROMAN NUMERAL TEN", 0x2179),
  ("SMALL ROMAN NUMERAL ELEVEN", 0x217A), ("SMALL ROMAN NUMERAL TWELVE", 0x217B),
  ("SMALL ROMAN NUMERAL FIFTY", 0x217C), ("SMALL ROMAN NUMERAL ONE HUNDRED", 0x217D),
  ("SMALL ROMAN NUMERAL FIVE HUNDRED", 0x217E), ("SMALL ROMAN NUMERAL ONE THOUSAND", 0x217F),
  ("ROMAN NUMERAL ONE THOUSAND C D", 0x2180), ("ROMAN NUMERAL FIVE THOUSAND", 0x2181),
  ("ROMAN NUMERAL TEN THOUSAND", 0x2182), ("ROMAN NUMERAL REVERSED ONE HUNDRED", 0x2183),
  ("LATIN SMALL LETTER REVERSED C", 0x2184), ("ROMAN NUMERAL SIX LATE FORM", 0x2185),
  ("ROMAN NUMERAL FIFTY EARLY FORM", 0x2186), ("ROMAN NUMERAL FIFTY THOUSAND", 0x2187),
  ("ROMAN NUMERAL ONE HUNDRED THOUSAND", 0x2188), ("VULGAR FRACTION ZERO THIRDS", 0x2189),
  ("TURNED DIGIT TWO", 0x218A), ("TURNED DIGIT THREE", 0x218B), ("LEFTWARDS ARROW", 0x2190),
  ("UPWARDS ARROW", 0x2191), ("RIGHTWARDS ARROW", 0x2192), ("DOWNWARDS ARROW", 0x2193),
  ("LEFT RIGHT ARROW", 0x2194), ("UP DOWN ARROW", 0x2195), ("NORTH WEST ARROW", 0x2196),
  ("NORTH EAST ARROW", 0x2197), ("SOUTH EAST ARROW", 0x2198), ("SOUTH WEST ARROW", 0x2199),
  ("LEFTWARDS ARROW WITH STROKE", 0x219A), ("RIGHTWARDS ARROW WITH STROKE", 0x219B),
  ("LEFTWARDS WAVE ARROW", 0x219C), ("RIGHTWARDS WAVE ARROW", 0x219D),
  ("LEFTWARDS TWO HEADED ARROW", 0x219E), ("UPWARDS TWO HEADED ARROW", 0x219F),
  ("RIGHTWARDS TWO HEADED ARROW", 0x21A0), ("DOWNWARDS TWO HEADED ARROW", 0x21A1),
  ("LEFTWARDS ARROW WITH TAIL", 0x21A2), ("RIGHTWARDS ARROW WITH TAIL", 0x21A3),
  ("LEFTWARDS ARROW FROM BAR", 0x21A4), ("UPWARDS ARROW FROM BAR", 0x21A5),
  ("RIGHTWARDS ARROW FROM BAR", 0x21A6), ("DOWNWARDS ARROW FROM BAR", 0x21A7),
  ("UP DOWN ARROW WITH BASE", 0x21A8), ("LEFTWARDS ARROW WITH HOOK", 0x21A9),
  ("RIGHTWARDS ARROW WITH HOOK", 0x21AA), ("LEFTWARDS ARROW WITH LOOP", 0x21AB),
  ("RIGHTWARDS ARROW WITH LOOP", 0x21AC), ("LEFT RIGHT WAVE ARROW", 0x21AD),
  ("LEFT RIGHT ARROW WITH STROKE", 0x21AE), ("DOWNWARDS ZIGZAG ARROW", 0x21AF),
  ("UPWARDS ARROW WITH TIP LEFTWARDS", 0x21B0), ("UPWARDS ARROW WITH TIP RIGHTWARDS", 0x21B1),
  ("DOWNWARDS ARROW WITH TIP LEFTWARDS", 0x21B2),
  ("DOWNWARDS ARROW WITH TIP RIGHTWARDS", 0x21B3),
  ("RIGHTWARDS ARROW WITH CORNER DOWNWARDS", 0x21B4),
  ("DOWNWARDS ARROW WITH CORNER LEFTWARDS", 0x21B5),
  ("ANTICLOCKWISE TOP SEMICIRCLE ARROW", 0x21B6), ("CLOCKWISE TOP SEMICIRCLE ARROW", 0x21B7),
  ("NORTH WEST ARROW TO LONG BAR", 0x21B8),
  ("LEFTWARDS ARROW TO BAR OVER RIGHTWARDS ARROW TO BAR", 0x21B9),
  ("ANTICLOCKWISE OPEN CIRCLE ARROW", 0x21BA), ("CLOCKWISE OPEN CIRCLE ARROW", 0x21BB),
  ("LEFTWARDS HARPOON WITH BARB UPWARDS", 0x21BC),
  ("LEFTWARDS HARPOON WITH BARB DOWNWARDS", 0x21BD),
  ("UPWARDS HARPOON WITH BARB RIGHTWARDS", 0x21BE),
  ("UPWARDS HARPOON WITH BARB LEFTWARDS", 0x21BF),
  ("RIGHTWARDS HARPOON WITH BARB UPWARDS", 0x21C0),
  ("RIGHTWARDS HARPOON WITH BARB DOWNWARDS", 0x21C1),
  ("DOWNWARDS HARPOON WITH BARB RIGHTWARDS", 0x21C2),
  ("DOWNWARDS HARPOON WITH BARB LEFTWARDS", 0x21C3),
  ("RIGHTWARDS ARROW OVER LEFTWARDS ARROW", 0x21C4),
  ("UPWARDS ARROW LEFTWARDS OF DOWNWARDS ARROW", 0x21C5),
  ("LEFTWARDS ARROW OVER RIGHTWARDS ARROW", 0x21C6), ("LEFTWARDS PAIRED ARROWS", 0x21C7),
  ("UPWARDS PAIRED ARROWS", 0x21C8), ("RIGHTWARDS PAIRED ARROWS", 0x21C9),
  ("DOWNWARDS PAIRED ARROWS", 0x21CA), ("LEFTWARDS HARPOON OVER RIGHTWARDS HARPOON", 0x21CB),
  ("RIGHTWARDS HARPOON OVER LEFTWARDS HARPOON", 0x21CC),
  ("LEFTWARDS DOUBLE ARROW WITH STROKE", 0x21CD),
  ("LEFT RIGHT DOUBLE ARROW WITH STROKE", 0x21CE),
  ("RIGHTWARDS DOUBLE ARROW WITH STROKE", 0x21CF), ("LEFTWARDS DOUBLE ARROW", 0x21D0),
  ("UPWARDS DOUBLE ARROW", 0x21D1), ("RIGHTWARDS DOUBLE ARROW", 0x21D2),
  ("DOWNWARDS DOUBLE ARROW", 0x21D3), ("LEFT RIGHT DOUBLE ARROW", 0x21D4),
  ("UP DOWN DOUBLE ARROW", 0x21D5), ("NORTH WEST DOUBLE ARROW", 0x21D6),
  ("NORTH EAST DOUBLE ARROW", 0x21D7), ("SOUTH EAST DOUBLE ARROW", 0x21D8),
  ("SOUTH WEST DOUBLE ARROW", 0x21D9), ("LEFTWARDS TRIPLE ARROW", 0x21DA),
  ("RIGHTWARDS TRIPLE ARROW", 0x21DB), ("LEFTWARDS SQUIGGLE ARROW", 0x21DC),
  ("RIGHTWARDS SQUIGGLE ARROW", 0x21DD), ("UPWARDS ARROW WITH DOUBLE STROKE", 0x21DE),
  ("DOWNWARDS ARROW WITH DOUBLE STROKE", 0x21DF), ("LEFTWARDS DASHED ARROW", 0x21E0),
  ("UPWARDS DASHED ARROW", 0x21E1), ("RIGHTWARDS DASHED ARROW", 0x21E2),
  ("DOWNWARDS DASHED ARROW", 0x21E3), ("LEFTWARDS ARROW TO BAR", 0x21E4),
  ("RIGHTWARDS ARROW TO BAR", 0x21E5), ("LEFTWARDS WHITE ARROW", 0x21E6),
  ("UPWARDS WHITE ARROW", 0x21E7), ("RIGHTWARDS WHITE ARROW", 0x21E8),
  ("DOWNWARDS WHITE ARROW", 0x21E9), ("UPWARDS WHITE ARROW FROM BAR", 0x21EA),
  ("UPWARDS WHITE ARROW ON PEDESTAL", 0x21EB),
  ("UPWARDS WHITE ARROW ON PEDESTAL WITH HORIZONTAL BAR", 0x21EC),
  ("UPWARDS WHITE ARROW ON PEDESTAL WITH VERTICAL BAR", 0x21ED),
  ("UPWARDS WHITE DOUBLE ARROW", 0x21EE), ("UPWARDS WHITE DOUBLE ARROW ON PEDESTAL", 0x21EF),
  ("RIGHTWARDS WHITE ARROW FROM WALL", 0x21F0), ("NORTH WEST ARROW TO CORNER", 0x21F1),
  ("SOUTH EAST ARROW TO CORNER", 0x21F2), ("UP DOWN WHITE ARROW", 0x21F3),
  ("RIGHT ARROW WITH SMALL CIRCLE", 0x21F4),
  ("DOWNWARDS ARROW LEFTWARDS OF UPWARDS ARROW", 0x21F5), ("THREE RIGHTWARDS ARROWS", 0x21F6),
  ("LEFTWARDS ARROW WITH VERTICAL STROKE", 0x21F7),
  ("RIGHTWARDS ARROW WITH VERTICAL STROKE", 0x21F8),
  ("LEFT RIGHT ARROW WITH VERTICAL STROKE", 0x21F9),
  ("LEFTWARDS ARROW WITH DOUBLE VERTICAL STROKE", 0x21FA),
  ("RIGHTWARDS ARROW WITH DOUBLE VERTICAL STROKE", 0x21FB),
  ("LEFT RIGHT ARROW WITH DOUBLE VERTICAL STROKE", 0x21FC),
  ("LEFTWARDS OPEN-HEADED ARROW", 0x21FD), ("RIGHTWARDS OPEN-HEADED ARROW", 0x21FE),
  ("LEFT RIGHT OPEN-HEADED ARROW", 0x21FF), ("FOR ALL", 0x2200), ("COMPLEMENT", 0x2201),
  ("PARTIAL DIFFERENTIAL", 0x2202), ("THERE EXISTS", 0x2203), ("THERE DOES NOT EXIST", 0x2204),
  ("EMPTY SET", 0x2205), ("INCREMENT", 0x2206), ("NABLA", 0x2207), ("ELEMENT OF", 0x2208),
  ("NOT AN ELEMENT OF", 0x2209), ("SMALL ELEMENT OF", 0x220A), ("CONTAINS AS MEMBER", 0x220B),
  ("DOES NOT CONTAIN AS MEMBER", 0x220C), ("SMALL CONTAINS AS MEMBER", 0x220D),
  ("END OF PROOF", 0x220E), ("N-ARY PRODUCT", 0x220F), ("N-ARY COPRODUCT", 0x2210),
  ("N-ARY SUMMATION", 0x2211), ("MINUS SIGN", 0x2212), ("MINUS-OR-PLUS SIGN", 0x2213),
  ("DOT PLUS", 0x2214), ("DIVISION SLASH", 0x2215), ("SET MINUS", 0x2216),
  ("ASTERISK OPERATOR", 0x2217), ("RING OPERATOR", 0x2218), ("BULLET OPERATOR", 0x2219),
  ("SQUARE ROOT", 0x221A), ("CUBE ROOT", 0x221B), ("FOURTH ROOT", 0x221C),
  ("PROPORTIONAL TO", 0x221D), ("INFINITY", 0x221E), ("RIGHT ANGLE", 0x221F), ("ANGLE", 0x2220),
  ("MEASURED ANGLE", 0x2221), ("SPHERICAL ANGLE", 0x2222), ("DIVIDES", 0x2223),
  ("DOES NOT DIVIDE", 0x2224), ("PARALLEL TO", 0x2225), ("NOT PARALLEL TO", 0x2226),
  ("LOGICAL AND", 0x2227), ("LOGICAL OR", 0x2228), ("INTERSECTION", 0x2229), ("UNION", 0x222A),
  ("INTEGRAL", 0x222B), ("DOUBLE INTEGRAL", 0x222C), ("TRIPLE INTEGRAL", 0x222D),
  ("CONTOUR INTEGRAL", 0x222E), ("SURFACE INTEGRAL", 0x222F), ("VOLUME INTEGRAL", 0x2230),
  ("CLOCKWISE INTEGRAL", 0x2231), ("CLOCKWISE CONTOUR INTEGRAL", 0x2232),
  ("ANTICLOCKWISE CONTOUR INTEGRAL", 0x2233), ("THEREFORE", 0x2234), ("BECAUSE", 0x2235),
  ("RATIO", 0x2236), ("PROPORTION", 0x2237), ("DOT MINUS", 0x2238), ("EXCESS", 0x2239),
  ("GEOMETRIC PROPORTION", 0x223A), ("HOMOTHETIC", 0x223B), ("TILDE OPERATOR", 0x223C),
  ("REVERSED TILDE", 0x223D), ("INVERTED LAZY S", 0x223E), ("SINE WAVE", 0x223F),
  ("WREATH PRODUCT", 0x2240), ("NOT TILDE", 0x2241), ("MINUS TILDE", 0x2242),
  ("ASYMPTOTICALLY EQUAL TO", 0x2243), ("NOT ASYMPTOTICALLY EQUAL TO", 0x2244),
  ("APPROXIMATELY EQUAL TO", 0x2245), ("APPROXIMATELY BUT NOT ACTUALLY EQUAL TO", 0x2246),
  ("NEITHER APPROXIMATELY NOR ACTUALLY EQUAL TO", 0x2247), ("ALMOST EQUAL TO", 0x2248),
  ("NOT ALMOST EQUAL TO", 0x2249), ("ALMOST EQUAL OR EQUAL TO", 0x224A),
  ("TRIPLE TILDE", 0x224B), ("ALL EQUAL TO", 0x224C), ("EQUIVALENT TO", 0x224D),
  ("GEOMETRICALLY EQUIVALENT TO", 0x224E), ("DIFFERENCE BETWEEN", 0x224F),
  ("APPROACHES THE LIMIT", 0x2250), ("GEOMETRICALLY EQUAL TO", 0x2251),
  ("APPROXIMATELY EQUAL TO OR THE IMAGE OF", 0x2252),
  ("IMAGE OF OR APPROXIMATELY EQUAL TO", 0x2253), ("COLON EQUALS", 0x2254),
  ("EQUALS COLON", 0x2255), ("RING IN EQUAL TO", 0x2256), ("RING EQUAL TO", 0x2257),
  ("CORRESPONDS TO", 0x2258), ("ESTIMATES", 0x2259), ("EQUIANGULAR TO", 0x225A),
  ("STAR EQUALS", 0x225B), ("DELTA EQUAL TO", 0x225C), ("EQUAL TO BY DEFINITION", 0x225D),
  ("MEASURED BY", 0x225E), ("QUESTIONED EQUAL TO", 0x225F), ("NOT EQUAL TO", 0x2260),
  ("IDENTICAL TO", 0x2261), ("NOT IDENTICAL TO", 0x2262), ("STRICTLY EQUIVALENT TO", 0x2263),
  ("LESS-THAN OR EQUAL TO", 0x2264), ("GREATER-THAN OR EQUAL TO", 0x2265),
  ("LESS-THAN OVER EQUAL TO", 0x2266), ("GREATER-THAN OVER EQUAL TO", 0x2267),
  ("LESS-THAN BUT NOT EQUAL TO", 0x2268), ("GREATER-THAN BUT NOT EQUAL TO", 0x2269),
  ("MUCH LESS-THAN", 0x226A), ("MUCH GREATER-THAN", 0x226B), ("BETWEEN", 0x226C),
  ("NOT EQUIVALENT TO", 0x226D), ("NOT LESS-THAN", 0x226E), ("NOT GREATER-THAN", 0x226F),
  ("NEITHER LESS-THAN NOR EQUAL TO", 0x2270), ("NEITHER GREATER-THAN NOR EQUAL TO", 0x2271),
  ("LESS-THAN OR EQUIVALENT TO", 0x2272), ("GREATER-THAN OR EQUIVALENT TO", 0x2273),
  ("NEITHER LESS-THAN NOR EQUIVALENT TO", 0x2274),
  ("NEITHER GREATER-THAN NOR EQUIVALENT TO", 0x2275), ("LESS-THAN OR GREATER-THAN", 0x2276),
  ("GREATER-THAN OR LESS-THAN", 0x2277), ("NEITHER LESS-THAN NOR GREATER-THAN", 0x2278),
  ("NEITHER GREATER-THAN NOR LESS-THAN", 0x2279), ("PRECEDES", 0x227A), ("SUCCEEDS", 0x227B),
  ("PRECEDES OR EQUAL TO", 0x227C), ("SUCCEEDS OR EQUAL TO", 0x227D),
  ("PRECEDES OR EQUIVALENT TO", 0x227E), ("SUCCEEDS OR EQUIVALENT TO", 0x227F),
  ("DOES NOT PRECEDE", 0x2280), ("DOES NOT SUCCEED", 0x2281), ("SUBSET OF", 0x2282),
  ("SUPERSET OF", 0x2283), ("NOT A SUBSET OF", 0x2284), ("NOT A SUPERSET OF", 0x2285),
  ("SUBSET OF OR EQUAL TO", 0x2286), ("SUPERSET OF OR EQUAL TO", 0x2287),
  ("NEITHER A SUBSET OF NOR EQUAL TO", 0x2288), ("NEITHER A SUPERSET OF NOR EQUAL TO", 0x2289),
  ("SUBSET OF WITH NOT EQUAL TO", 0x228A), ("SUPERSET OF WITH NOT EQUAL TO", 0x228B),
  ("MULTISET", 0x228C), ("MULTISET MULTIPLICATION", 0x228D), ("MULTISET UNION", 0x228E),
  ("SQUARE IMAGE OF", 0x228F), ("SQUARE ORIGINAL OF", 0x2290),
  ("SQUARE IMAGE OF OR EQUAL TO", 0x2291), ("SQUARE ORIGINAL OF OR EQUAL TO", 0x2292),
  ("SQUARE CAP", 0x2293), ("SQUARE CUP", 0x2294), ("CIRCLED PLUS", 0x2295),
  ("CIRCLED MINUS", 0x2296), ("CIRCLED TIMES", 0x2297), ("CIRCLED DIVISION SLASH", 0x2298),
  ("CIRCLED DOT OPERATOR", 0x2299), ("CIRCLED RING OPERATOR", 0x229A),
  ("CIRCLED ASTERISK OPERATOR", 0x229B), ("CIRCLED EQUALS", 0x229C), ("CIRCLED DASH", 0x229D),
  ("SQUARED PLUS", 0x229E), ("SQUARED MINUS", 0x229F), ("SQUARED TIMES", 0x22A0),
  ("SQUARED DOT OPERATOR", 0x22A1), ("RIGHT TACK", 0x22A2), ("LEFT TACK", 0x22A3),
  ("DOWN TACK", 0x22A4), ("UP TACK", 0x22A5), ("ASSERTION", 0x22A6), ("MODELS", 0x22A7),
  ("TRUE", 0x22A8), ("FORCES", 0x22A9), ("TRIPLE VERTICAL BAR RIGHT TURNSTILE", 0x22AA),
  ("DOUBLE VERTICAL BAR DOUBLE RIGHT TURNSTILE", 0x22AB), ("DOES NOT PROVE", 0x22AC),
  ("NOT TRUE", 0x22AD), ("DOES NOT FORCE", 0x22AE),
  ("NEGATED DOUBLE VERTICAL BAR DOUBLE RIGHT TURNSTILE", 0x22AF),
  ("PRECEDES UNDER RELATION", 0x22B0), ("SUCCEEDS UNDER RELATION", 0x22B1),
  ("NORMAL SUBGROUP OF", 0x22B2), ("CONTAINS AS NORMAL SUBGROUP", 0x22B3),
  ("NORMAL SUBGROUP OF OR EQUAL TO", 0x22B4),
  ("CONTAINS AS NORMAL SUBGROUP OR EQUAL TO", 0x22B5), ("ORIGINAL OF", 0x22B6),
  ("IMAGE OF", 0x22B7), ("MULTIMAP", 0x22B8), ("HERMITIAN CONJUGATE MATRIX", 0x22B9),
  ("INTERCALATE", 0x22BA), ("XOR", 0x22BB), ("NAND", 0x22BC), ("NOR", 0x22BD),
  ("RIGHT ANGLE WITH ARC", 0x22BE), ("RIGHT TRIANGLE", 0x22BF), ("N-ARY LOGICAL AND", 0x22C0),
  ("N-ARY LOGICAL OR", 0x22C1), ("N-ARY INTERSECTION", 0x22C2), ("N-ARY UNION", 0x22C3),
  ("DIAMOND OPERATOR", 0x22C4), ("DOT OPERATOR", 0x22C5), ("STAR OPERATOR", 0x22C6),
  ("DIVISION TIMES", 0x22C7), ("BOWTIE", 0x22C8),
  ("LEFT NORMAL FACTOR SEMIDIRECT PRODUCT", 0x22C9),
  ("RIGHT NORMAL FACTOR SEMIDIRECT PRODUCT", 0x22CA), ("LEFT SEMIDIRECT PRODUCT", 0x22CB),
  ("RIGHT SEMIDIRECT PRODUCT", 0x22CC), ("REVERSED TILDE EQUALS", 0x22CD),
  ("CURLY LOGICAL OR", 0x22CE), ("CURLY LOGICAL AND", 0x22CF), ("DOUBLE SUBSET", 0x22D0),
  ("DOUBLE SUPERSET", 0x22D1), ("DOUBLE INTERSECTION", 0x22D2), ("DOUBLE UNION", 0x22D3),
  ("PITCHFORK", 0x22D4), ("EQUAL AND PARALLEL TO", 0x22D5), ("LESS-THAN WITH DOT", 0x22D6),
  ("GREATER-THAN WITH DOT", 0x22D7), ("VERY MUCH LESS-THAN", 0x22D8),
  ("VERY MUCH GREATER-THAN", 0x22D9), ("LESS-THAN EQUAL TO OR GREATER-THAN", 0x22DA),
  ("GREATER-THAN EQUAL TO OR LESS-THAN", 0x22DB), ("EQUAL TO OR LESS-THAN", 0x22DC),
  ("EQUAL TO OR GREATER-THAN", 0x22DD), ("EQUAL TO OR PRECEDES", 0x22DE),
  ("EQUAL TO OR SUCCEEDS", 0x22DF), ("DOES NOT PRECEDE OR EQUAL", 0x22E0),
  ("DOES NOT SUCCEED OR EQUAL", 0x22E1), ("NOT SQUARE IMAGE OF OR EQUAL TO", 0x22E2),
  ("NOT SQUARE ORIGINAL OF OR EQUAL TO", 0x22E3), ("SQUARE IMAGE OF OR NOT EQUAL TO", 0x22E4),
  ("SQUARE ORIGINAL OF OR NOT EQUAL TO", 0x22E5), ("LESS-THAN BUT NOT EQUIVALENT TO", 0x22E6),
  ("GREATER-THAN BUT NOT EQUIVALENT TO", 0x22E7), ("PRECEDES BUT NOT EQUIVALENT TO", 0x22E8),
  ("SUCCEEDS BUT NOT EQUIVALENT TO", 0x22E9), ("NOT NORMAL SUBGROUP OF", 0x22EA),
  ("DOES NOT CONTAIN AS NORMAL SUBGROUP", 0x22EB),
  ("NOT NORMAL SUBGROUP OF OR EQUAL TO", 0x22EC),
  ("DOES NOT CONTAIN AS NORMAL SUBGROUP OR EQUAL", 0x22ED), ("VERTICAL ELLIPSIS", 0x22EE),
  ("MIDLINE HORIZONTAL ELLIPSIS", 0x22EF), ("UP RIGHT DIAGONAL ELLIPSIS", 0x22F0),
  ("DOWN RIGHT DIAGONAL ELLIPSIS", 0x22F1), ("ELEMENT OF WITH LONG HORIZONTAL STROKE", 0x22F2),
  ("ELEMENT OF WITH VERTICAL BAR AT END OF HORIZONTAL STROKE", 0x22F3),
  ("SMALL ELEMENT OF WITH VERTICAL BAR AT END OF HORIZONTAL STROKE", 0x22F4),
  ("ELEMENT OF WITH DOT ABOVE", 0x22F5), ("ELEMENT OF WITH OVERBAR", 0x22F6),
  ("SMALL ELEMENT OF WITH OVERBAR", 0x22F7), ("ELEMENT OF WITH UNDERBAR", 0x22F8),
  ("ELEMENT OF WITH TWO HORIZONTAL STROKES", 0x22F9),
  ("CONTAINS WITH LONG HORIZONTAL STROKE", 0x22FA),
  ("CONTAINS WITH VERTICAL BAR AT END OF HORIZONTAL STROKE", 0x22FB),
  ("SMALL CONTAINS WITH VERTICAL BAR AT END OF HORIZONTAL STROKE", 0x22FC),
  ("CONTAINS WITH OVERBAR", 0x22FD), ("SMALL CONTAINS WITH OVERBAR", 0x22FE),
  ("Z NOTATION BAG MEMBERSHIP", 0x22FF), ("CIRCLED DIGIT ONE", 0x2460),
  ("CIRCLED DIGIT TWO", 0x2461), ("CIRCLED DIGIT THREE", 0x2462), ("CIRCLED DIGIT FOUR", 0x2463),
  ("CIRCLED DIGIT FIVE", 0x2464), ("CIRCLED DIGIT SIX", 0x2465), ("CIRCLED DIGIT SEVEN", 0x2466),
  ("CIRCLED DIGIT EIGHT", 0x2467), ("CIRCLED DIGIT NINE", 0x2468),
  ("CIRCLED NUMBER TEN", 0x2469), ("CIRCLED NUMBER ELEVEN", 0x246A),
  ("CIRCLED NUMBER TWELVE", 0x246B), ("CIRCLED NUMBER THIRTEEN", 0x246C),
  ("CIRCLED NUMBER FOURTEEN", 0x246D), ("CIRCLED NUMBER FIFTEEN", 0x246E),
  ("CIRCLED NUMBER SIXTEEN", 0x246F), ("CIRCLED NUMBER SEVENTEEN", 0x2470),
  ("CIRCLED NUMBER EIGHTEEN", 0x2471), ("CIRCLED NUMBER NINETEEN", 0x2472),
  ("CIRCLED NUMBER TWENTY", 0x2473), ("PARENTHESIZED DIGIT ONE", 0x2474),
  ("PARENTHESIZED DIGIT TWO", 0x2475), ("PARENTHESIZED DIGIT THREE", 0x2476),
  ("PARENTHESIZED DIGIT FOUR", 0x2477), ("PARENTHESIZED DIGIT FIVE", 0x2478),
  ("PARENTHESIZED DIGIT SIX", 0x2479), ("PARENTHESIZED DIGIT SEVEN", 0x247A),
  ("PARENTHESIZED DIGIT EIGHT", 0x247B), ("PARENTHESIZED DIGIT NINE", 0x247C),
  ("PARENTHESIZED NUMBER TEN", 0x247D), ("PARENTHESIZED NUMBER ELEVEN", 0x247E),
  ("PARENTHESIZED NUMBER TWELVE", 0x247F), ("PARENTHESIZED NUMBER THIRTEEN", 0x2480),
  ("PARENTHESIZED NUMBER FOURTEEN", 0x2481), ("PARENTHESIZED NUMBER FIFTEEN", 0x2482),
  ("PARENTHESIZED NUMBER SIXTEEN", 0x2483), ("PARENTHESIZED NUMBER SEVENTEEN", 0x2484),
  ("PARENTHESIZED NUMBER EIGHTEEN", 0x2485), ("PARENTHESIZED NUMBER NINETEEN", 0x2486),
  ("PARENTHESIZED NUMBER TWENTY", 0x2487), ("DIGIT ONE FULL STOP", 0x2488),
  ("DIGIT TWO FULL STOP", 0x2489), ("DIGIT THREE FULL STOP", 0x248A),
  ("DIGIT FOUR FULL STOP", 0x248B), ("DIGIT FIVE FULL STOP", 0x248C),
  ("DIGIT SIX FULL STOP", 0x248D), ("DIGIT SEVEN FULL STOP", 0x248E),
  ("DIGIT EIGHT FULL STOP", 0x248F), ("DIGIT NINE FULL STOP", 0x2490),
  ("NUMBER TEN FULL STOP", 0x2491), ("NUMBER ELEVEN FULL STOP", 0x2492),
  ("NUMBER TWELVE FULL STOP", 0x2493), ("NUMBER THIRTEEN FULL STOP", 0x2494),
  ("NUMBER FOURTEEN FULL STOP", 0x2495), ("NUMBER FIFTEEN FULL STOP", 0x2496),
  ("NUMBER SIXTEEN FULL STOP", 0x2497), ("NUMBER SEVENTEEN FULL STOP", 0x2498),
  ("NUMBER EIGHTEEN FULL STOP", 0x2499), ("NUMBER NINETEEN FULL STOP", 0x249A),
  ("NUMBER TWENTY FULL STOP", 0x249B)]

end Conformance.Unicode
