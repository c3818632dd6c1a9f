/-!
# Names of shapes, dingbats and kana

Names and their code points, in the order of the code points.
-/
namespace Conformance.Unicode

/-- Names of lines, shapes, dingbats, kana, ligatures and replacement marks. -/
def shapeNames : List (String × Nat) := [
  ("BOX DRAWINGS LIGHT HORIZONTAL", 0x2500), ("BOX DRAWINGS HEAVY HORIZONTAL", 0x2501),
  ("BOX DRAWINGS LIGHT VERTICAL", 0x2502), ("BOX DRAWINGS HEAVY VERTICAL", 0x2503),
  ("BOX DRAWINGS LIGHT TRIPLE DASH HORIZONTAL", 0x2504),
  ("BOX DRAWINGS HEAVY TRIPLE DASH HORIZONTAL", 0x2505),
  ("BOX DRAWINGS LIGHT TRIPLE DASH VERTICAL", 0x2506),
  ("BOX DRAWINGS HEAVY TRIPLE DASH VERTICAL", 0x2507),
  ("BOX DRAWINGS LIGHT QUADRUPLE DASH HORIZONTAL", 0x2508),
  ("BOX DRAWINGS HEAVY QUADRUPLE DASH HORIZONTAL", 0x2509),
  ("BOX DRAWINGS LIGHT QUADRUPLE DASH VERTICAL", 0x250A),
  ("BOX DRAWINGS HEAVY QUADRUPLE DASH VERTICAL", 0x250B),
  ("BOX DRAWINGS LIGHT DOWN AND RIGHT", 0x250C),
  ("BOX DRAWINGS DOWN LIGHT AND RIGHT HEAVY", 0x250D),
  ("BOX DRAWINGS DOWN HEAVY AND RIGHT LIGHT", 0x250E),
  ("BOX DRAWINGS HEAVY DOWN AND RIGHT", 0x250F), ("BOX DRAWINGS LIGHT DOWN AND LEFT", 0x2510),
  ("BOX DRAWINGS DOWN LIGHT AND LEFT HEAVY", 0x2511),
  ("BOX DRAWINGS DOWN HEAVY AND LEFT LIGHT", 0x2512),
  ("BOX DRAWINGS HEAVY DOWN AND LEFT", 0x2513), ("BOX DRAWINGS LIGHT UP AND RIGHT", 0x2514),
  ("BOX DRAWINGS UP LIGHT AND RIGHT HEAVY", 0x2515),
  ("BOX DRAWINGS UP HEAVY AND RIGHT LIGHT", 0x2516), ("BOX DRAWINGS HEAVY UP AND RIGHT", 0x2517),
  ("BOX DRAWINGS LIGHT UP AND LEFT", 0x2518), ("BOX DRAWINGS UP LIGHT AND LEFT HEAVY", 0x2519),
  ("BOX DRAWINGS UP HEAVY AND LEFT LIGHT", 0x251A), ("BOX DRAWINGS HEAVY UP AND LEFT", 0x251B),
  ("BOX DRAWINGS LIGHT VERTICAL AND RIGHT", 0x251C),
  ("BOX DRAWINGS VERTICAL LIGHT AND RIGHT HEAVY", 0x251D),
  ("BOX DRAWINGS UP HEAVY AND RIGHT DOWN LIGHT", 0x251E),
  ("BOX DRAWINGS DOWN HEAVY AND RIGHT UP LIGHT", 0x251F),
  ("BOX DRAWINGS VERTICAL HEAVY AND RIGHT LIGHT", 0x2520),
  ("BOX DRAWINGS DOWN LIGHT AND RIGHT UP HEAVY", 0x2521),
  ("BOX DRAWINGS UP LIGHT AND RIGHT DOWN HEAVY", 0x2522),
  ("BOX DRAWINGS HEAVY VERTICAL AND RIGHT", 0x2523),
  ("BOX DRAWINGS LIGHT VERTICAL AND LEFT", 0x2524),
  ("BOX DRAWINGS VERTICAL LIGHT AND LEFT HEAVY", 0x2525),
  ("BOX DRAWINGS UP HEAVY AND LEFT DOWN LIGHT", 0x2526),
  ("BOX DRAWINGS DOWN HEAVY AND LEFT UP LIGHT", 0x2527),
  ("BOX DRAWINGS VERTICAL HEAVY AND LEFT LIGHT", 0x2528),
  ("BOX DRAWINGS DOWN LIGHT AND LEFT UP HEAVY", 0x2529),
  ("BOX DRAWINGS UP LIGHT AND LEFT DOWN HEAVY", 0x252A),
  ("BOX DRAWINGS HEAVY VERTICAL AND LEFT", 0x252B),
  ("BOX DRAWINGS LIGHT DOWN AND HORIZONTAL", 0x252C),
  ("BOX DRAWINGS LEFT HEAVY AND RIGHT DOWN LIGHT", 0x252D),
  ("BOX DRAWINGS RIGHT HEAVY AND LEFT DOWN LIGHT", 0x252E),
  ("BOX DRAWINGS DOWN LIGHT AND HORIZONTAL HEAVY", 0x252F),
  ("BOX DRAWINGS DOWN HEAVY AND HORIZONTAL LIGHT", 0x2530),
  ("BOX DRAWINGS RIGHT LIGHT AND LEFT DOWN HEAVY", 0x2531),
  ("BOX DRAWINGS LEFT LIGHT AND RIGHT DOWN HEAVY", 0x2532),
  ("BOX DRAWINGS HEAVY DOWN AND HORIZONTAL", 0x2533),
  ("BOX DRAWINGS LIGHT UP AND HORIZONTAL", 0x2534),
  ("BOX DRAWINGS LEFT HEAVY AND RIGHT UP LIGHT", 0x2535),
  ("BOX DRAWINGS RIGHT HEAVY AND LEFT UP LIGHT", 0x2536),
  ("BOX DRAWINGS UP LIGHT AND HORIZONTAL HEAVY", 0x2537),
  ("BOX DRAWINGS UP HEAVY AND HORIZONTAL LIGHT", 0x2538),
  ("BOX DRAWINGS RIGHT LIGHT AND LEFT UP HEAVY", 0x2539),
  ("BOX DRAWINGS LEFT LIGHT AND RIGHT UP HEAVY", 0x253A),
  ("BOX DRAWINGS HEAVY UP AND HORIZONTAL", 0x253B),
  ("BOX DRAWINGS LIGHT VERTICAL AND HORIZONTAL", 0x253C),
  ("BOX DRAWINGS LEFT HEAVY AND RIGHT VERTICAL LIGHT", 0x253D),
  ("BOX DRAWINGS RIGHT HEAVY AND LEFT VERTICAL LIGHT", 0x253E),
  ("BOX DRAWINGS VERTICAL LIGHT AND HORIZONTAL HEAVY", 0x253F),
  ("BOX DRAWINGS UP HEAVY AND DOWN HORIZONTAL LIGHT", 0x2540),
  ("BOX DRAWINGS DOWN HEAVY AND UP HORIZONTAL LIGHT", 0x2541),
  ("BOX DRAWINGS VERTICAL HEAVY AND HORIZONTAL LIGHT", 0x2542),
  ("BOX DRAWINGS LEFT UP HEAVY AND RIGHT DOWN LIGHT", 0x2543),
  ("BOX DRAWINGS RIGHT UP HEAVY AND LEFT DOWN LIGHT", 0x2544),
  ("BOX DRAWINGS LEFT DOWN HEAVY AND RIGHT UP LIGHT", 0x2545),
  ("BOX DRAWINGS RIGHT DOWN HEAVY AND LEFT UP LIGHT", 0x2546),
  ("BOX DRAWINGS DOWN LIGHT AND UP HORIZONTAL HEAVY", 0x2547),
  ("BOX DRAWINGS UP LIGHT AND DOWN HORIZONTAL HEAVY", 0x2548),
  ("BOX DRAWINGS RIGHT LIGHT AND LEFT VERTICAL HEAVY", 0x2549),
  ("BOX DRAWINGS LEFT LIGHT AND RIGHT VERTICAL HEAVY", 0x254A),
  ("BOX DRAWINGS HEAVY VERTICAL AND HORIZONTAL", 0x254B),
  ("BOX DRAWINGS LIGHT DOUBLE DASH HORIZONTAL", 0x254C),
  ("BOX DRAWINGS HEAVY DOUBLE DASH HORIZONTAL", 0x254D),
  ("BOX DRAWINGS LIGHT DOUBLE DASH VERTICAL", 0x254E),
  ("BOX DRAWINGS HEAVY DOUBLE DASH VERTICAL", 0x254F),
  ("BOX DRAWINGS DOUBLE HORIZONTAL", 0x2550), ("BOX DRAWINGS DOUBLE VERTICAL", 0x2551),
  ("BOX DRAWINGS DOWN SINGLE AND RIGHT DOUBLE", 0x2552),
  ("BOX DRAWINGS DOWN DOUBLE AND RIGHT SINGLE", 0x2553),
  ("BOX DRAWINGS DOUBLE DOWN AND RIGHT", 0x2554),
  ("BOX DRAWINGS DOWN SINGLE AND LEFT DOUBLE", 0x2555),
  ("BOX DRAWINGS DOWN DOUBLE AND LEFT SINGLE", 0x2556),
  ("BOX DRAWINGS DOUBLE DOWN AND LEFT", 0x2557),
  ("BOX DRAWINGS UP SINGLE AND RIGHT DOUBLE", 0x2558),
  ("BOX DRAWINGS UP DOUBLE AND RIGHT SINGLE", 0x2559),
  ("BOX DRAWINGS DOUBLE UP AND RIGHT", 0x255A),
  ("BOX DRAWINGS UP SINGLE AND LEFT DOUBLE", 0x255B),
  ("BOX DRAWINGS UP DOUBLE AND LEFT SINGLE", 0x255C),
  ("BOX DRAWINGS DOUBLE UP AND LEFT", 0x255D),
  ("BOX DRAWINGS VERTICAL SINGLE AND RIGHT DOUBLE", 0x255E),
  ("BOX DRAWINGS VERTICAL DOUBLE AND RIGHT SINGLE", 0x255F),
  ("BOX DRAWINGS DOUBLE VERTICAL AND RIGHT", 0x2560),
  ("BOX DRAWINGS VERTICAL SINGLE AND LEFT DOUBLE", 0x2561),
  ("BOX DRAWINGS VERTICAL DOUBLE AND LEFT SINGLE", 0x2562),
  ("BOX DRAWINGS DOUBLE VERTICAL AND LEFT", 0x2563),
  ("BOX DRAWINGS DOWN SINGLE AND HORIZONTAL DOUBLE", 0x2564),
  ("BOX DRAWINGS DOWN DOUBLE AND HORIZONTAL SINGLE", 0x2565),
  ("BOX DRAWINGS DOUBLE DOWN AND HORIZONTAL", 0x2566),
  ("BOX DRAWINGS UP SINGLE AND HORIZONTAL DOUBLE", 0x2567),
  ("BOX DRAWINGS UP DOUBLE AND HORIZONTAL SINGLE", 0x2568),
  ("BOX DRAWINGS DOUBLE UP AND HORIZONTAL", 0x2569),
  ("BOX DRAWINGS VERTICAL SINGLE AND HORIZONTAL DOUBLE", 0x256A),
  ("BOX DRAWINGS VERTICAL DOUBLE AND HORIZONTAL SINGLE", 0x256B),
  ("BOX DRAWINGS DOUBLE VERTICAL AND HORIZONTAL", 0x256C),
  ("BOX DRAWINGS LIGHT ARC DOWN AND RIGHT", 0x256D),
  ("BOX DRAWINGS LIGHT ARC DOWN AND LEFT", 0x256E),
  ("BOX DRAWINGS LIGHT ARC UP AND LEFT", 0x256F),
  ("BOX DRAWINGS LIGHT ARC UP AND RIGHT", 0x2570),
  ("BOX DRAWINGS LIGHT DIAGONAL UPPER RIGHT TO LOWER LEFT", 0x2571),
  ("BOX DRAWINGS LIGHT DIAGONAL UPPER LEFT TO LOWER RIGHT", 0x2572),
  ("BOX DRAWINGS LIGHT DIAGONAL CROSS", 0x2573), ("BOX DRAWINGS LIGHT LEFT", 0x2574),
  ("BOX DRAWINGS LIGHT UP", 0x2575), ("BOX DRAWINGS LIGHT RIGHT", 0x2576),
  ("BOX DRAWINGS LIGHT DOWN", 0x2577), ("BOX DRAWINGS HEAVY LEFT", 0x2578),
  ("BOX DRAWINGS HEAVY UP", 0x2579), ("BOX DRAWINGS HEAVY RIGHT", 0x257A),
  ("BOX DRAWINGS HEAVY DOWN", 0x257B), ("BOX DRAWINGS LIGHT LEFT AND HEAVY RIGHT", 0x257C),
  ("BOX DRAWINGS LIGHT UP AND HEAVY DOWN", 0x257D),
  ("BOX DRAWINGS HEAVY LEFT AND LIGHT RIGHT", 0x257E),
  ("BOX DRAWINGS HEAVY UP AND LIGHT DOWN", 0x257F), ("UPPER HALF BLOCK", 0x2580),
  ("LOWER ONE EIGHTH BLOCK", 0x2581), ("LOWER ONE QUARTER BLOCK", 0x2582),
  ("LOWER THREE EIGHTHS BLOCK", 0x2583), ("LOWER HALF BLOCK", 0x2584),
  ("LOWER FIVE EIGHTHS BLOCK", 0x2585), ("LOWER THREE QUARTERS BLOCK", 0x2586),
  ("LOWER SEVEN EIGHTHS BLOCK", 0x2587), ("FULL BLOCK", 0x2588),
  ("LEFT SEVEN EIGHTHS BLOCK", 0x2589), ("LEFT THREE QUARTERS BLOCK", 0x258A),
  ("LEFT FIVE EIGHTHS BLOCK", 0x258B), ("LEFT HALF BLOCK", 0x258C),
  ("LEFT THREE EIGHTHS BLOCK", 0x258D), ("LEFT ONE QUARTER BLOCK", 0x258E),
  ("LEFT ONE EIGHTH BLOCK", 0x258F), ("RIGHT HALF BLOCK", 0x2590), ("LIGHT SHADE", 0x2591),
  ("MEDIUM SHADE", 0x2592), ("DARK SHADE", 0x2593), ("UPPER ONE EIGHTH BLOCK", 0x2594),
  ("RIGHT ONE EIGHTH BLOCK", 0x2595), ("QUADRANT LOWER LEFT", 0x2596),
  ("QUADRANT LOWER RIGHT", 0x2597), ("QUADRANT UPPER LEFT", 0x2598),
  ("QUADRANT UPPER LEFT AND LOWER LEFT AND LOWER RIGHT", 0x2599),
  ("QUADRANT UPPER LEFT AND LOWER RIGHT", 0x259A),
  ("QUADRANT UPPER LEFT AND UPPER RIGHT AND LOWER LEFT", 0x259B),
  ("QUADRANT UPPER LEFT AND UPPER RIGHT AND LOWER RIGHT", 0x259C),
  ("QUADRANT UPPER RIGHT", 0x259D), ("QUADRANT UPPER RIGHT AND LOWER LEFT", 0x259E),
  ("QUADRANT UPPER RIGHT AND LOWER LEFT AND LOWER RIGHT", 0x259F), ("BLACK SQUARE", 0x25A0),
  ("WHITE SQUARE", 0x25A1), ("WHITE SQUARE WITH ROUNDED CORNERS", 0x25A2),
  ("WHITE SQUARE CONTAINING BLACK SMALL SQUARE", 0x25A3),
  ("SQUARE WITH HORIZONTAL FILL", 0x25A4), ("SQUARE WITH VERTICAL FILL", 0x25A5),
  ("SQUARE WITH ORTHOGONAL CROSSHATCH FILL", 0x25A6),
  ("SQUARE WITH UPPER LEFT TO LOWER RIGHT FILL", 0x25A7),
  ("SQUARE WITH UPPER RIGHT TO LOWER LEFT FILL", 0x25A8),
  ("SQUARE WITH DIAGONAL CROSSHATCH FILL", 0x25A9), ("BLACK SMALL SQUARE", 0x25AA),
  ("WHITE SMALL SQUARE", 0x25AB), ("BLACK RECTANGLE", 0x25AC), ("WHITE RECTANGLE", 0x25AD),
  ("BLACK VERTICAL RECTANGLE", 0x25AE), ("WHITE VERTICAL RECTANGLE", 0x25AF),
  ("BLACK PARALLELOGRAM", 0x25B0), ("WHITE PARALLELOGRAM", 0x25B1),
  ("BLACK UP-POINTING TRIANGLE", 0x25B2), ("WHITE UP-POINTING TRIANGLE", 0x25B3),
  ("BLACK UP-POINTING SMALL TRIANGLE", 0x25B4), ("WHITE UP-POINTING SMALL TRIANGLE", 0x25B5),
  ("BLACK RIGHT-POINTING TRIANGLE", 0x25B6), ("WHITE RIGHT-POINTING TRIANGLE", 0x25B7),
  ("BLACK RIGHT-POINTING SMALL TRIANGLE", 0x25B8),
  ("WHITE RIGHT-POINTING SMALL TRIANGLE", 0x25B9), ("BLACK RIGHT-POINTING POINTER", 0x25BA),
  ("WHITE RIGHT-POINTING POINTER", 0x25BB), ("BLACK DOWN-POINTING TRIANGLE", 0x25BC),
  ("WHITE DOWN-POINTING TRIANGLE", 0x25BD), ("BLACK DOWN-POINTING SMALL TRIANGLE", 0x25BE),
  ("WHITE DOWN-POINTING SMALL TRIANGLE", 0x25BF), ("BLACK LEFT-POINTING TRIANGLE", 0x25C0),
  ("WHITE LEFT-POINTING TRIANGLE", 0x25C1), ("BLACK LEFT-POINTING SMALL TRIANGLE", 0x25C2),
  ("WHITE LEFT-POINTING SMALL TRIANGLE", 0x25C3), ("BLACK LEFT-POINTING POINTER", 0x25C4),
  ("WHITE LEFT-POINTING POINTER", 0x25C5), ("BLACK DIAMOND", 0x25C6), ("WHITE DIAMOND", 0x25C7),
  ("WHITE DIAMOND CONTAINING BLACK SMALL DIAMOND", 0x25C8), ("FISHEYE", 0x25C9),
  ("LOZENGE", 0x25CA), ("WHITE CIRCLE", 0x25CB), ("DOTTED CIRCLE", 0x25CC),
  ("CIRCLE WITH VERTICAL FILL", 0x25CD), ("BULLSEYE", 0x25CE), ("BLACK CIRCLE", 0x25CF),
  ("CIRCLE WITH LEFT HALF BLACK", 0x25D0), ("CIRCLE WITH RIGHT HALF BLACK", 0x25D1),
  ("CIRCLE WITH LOWER HALF BLACK", 0x25D2), ("CIRCLE WITH UPPER HALF BLACK", 0x25D3),
  ("CIRCLE WITH UPPER RIGHT QUADRANT BLACK", 0x25D4),
  ("CIRCLE WITH ALL BUT UPPER LEFT QUADRANT BLACK", 0x25D5), ("LEFT HALF BLACK CIRCLE", 0x25D6),
  ("RIGHT HALF BLACK CIRCLE", 0x25D7), ("INVERSE BULLET", 0x25D8),
  ("INVERSE WHITE CIRCLE", 0x25D9), ("UPPER HALF INVERSE WHITE CIRCLE", 0x25DA),
  ("LOWER HALF INVERSE WHITE CIRCLE", 0x25DB), ("UPPER LEFT QUADRANT CIRCULAR ARC", 0x25DC),
  ("UPPER RIGHT QUADRANT CIRCULAR ARC", 0x25DD), ("LOWER RIGHT QUADRANT CIRCULAR ARC", 0x25DE),
  ("LOWER LEFT QUADRANT CIRCULAR ARC", 0x25DF), ("UPPER HALF CIRCLE", 0x25E0),
  ("LOWER HALF CIRCLE", 0x25E1), ("BLACK LOWER RIGHT TRIANGLE", 0x25E2),
  ("BLACK LOWER LEFT TRIANGLE", 0x25E3), ("BLACK UPPER LEFT TRIANGLE", 0x25E4),
  ("BLACK UPPER RIGHT TRIANGLE", 0x25E5), ("WHITE BULLET", 0x25E6),
  ("SQUARE WITH LEFT HALF BLACK", 0x25E7), ("SQUARE WITH RIGHT HALF BLACK", 0x25E8),
  ("SQUARE WITH UPPER LEFT DIAGONAL HALF BLACK", 0x25E9),
  ("SQUARE WITH LOWER RIGHT DIAGONAL HALF BLACK", 0x25EA),
  ("WHITE SQUARE WITH VERTICAL BISECTING LINE", 0x25EB),
  ("WHITE UP-POINTING TRIANGLE WITH DOT", 0x25EC),
  ("UP-POINTING TRIANGLE WITH LEFT HALF BLACK", 0x25ED),
  ("UP-POINTING TRIANGLE WITH RIGHT HALF BLACK", 0x25EE), ("LARGE CIRCLE", 0x25EF),
  ("WHITE SQUARE WITH UPPER LEFT QUADRANT", 0x25F0),
  ("WHITE SQUARE WITH LOWER LEFT QUADRANT", 0x25F1),
  ("WHITE SQUARE WITH LOWER RIGHT QUADRANT", 0x25F2),
  ("WHITE SQUARE WITH UPPER RIGHT QUADRANT", 0x25F3),
  ("WHITE CIRCLE WITH UPPER LEFT QUADRANT", 0x25F4),
  ("WHITE CIRCLE WITH LOWER LEFT QUADRANT", 0x25F5),
  ("WHITE CIRCLE WITH LOWER RIGHT QUADRANT", 0x25F6),
  ("WHITE CIRCLE WITH UPPER RIGHT QUADRANT", 0x25F7), ("UPPER LEFT TRIANGLE", 0x25F8),
  ("UPPER RIGHT TRIANGLE", 0x25F9), ("LOWER LEFT TRIANGLE", 0x25FA),
  ("WHITE MEDIUM SQUARE", 0x25FB), ("BLACK MEDIUM SQUARE", 0x25FC),
  ("WHITE MEDIUM SMALL SQUARE", 0x25FD), ("BLACK MEDIUM SMALL SQUARE", 0x25FE),
  ("LOWER RIGHT TRIANGLE", 0x25FF), ("BLACK SUN WITH RAYS", 0x2600), ("CLOUD", 0x2601),
  ("UMBRELLA", 0x2602), ("SNOWMAN", 0x2603), ("COMET", 0x2604), ("BLACK STAR", 0x2605),
  ("WHITE STAR", 0x2606), ("LIGHTNING", 0x2607), ("THUNDERSTORM", 0x2608), ("SUN", 0x2609),
  ("ASCENDING NODE", 0x260A), ("DESCENDING NODE", 0x260B), ("CONJUNCTION", 0x260C),
  ("OPPOSITION", 0x260D), ("BLACK TELEPHONE", 0x260E), ("WHITE TELEPHONE", 0x260F),
  ("BALLOT BOX", 0x2610), ("BALLOT BOX WITH CHECK", 0x2611), ("BALLOT BOX WITH X", 0x2612),
  ("SALTIRE", 0x2613), ("UMBRELLA WITH RAIN DROPS", 0x2614), ("HOT BEVERAGE", 0x2615),
  ("WHITE SHOGI PIECE", 0x2616), ("BLACK SHOGI PIECE", 0x2617), ("SHAMROCK", 0x2618),
  ("REVERSED ROTATED FLORAL HEART BULLET", 0x2619), ("BLACK LEFT POINTING INDEX", 0x261A),
  ("BLACK RIGHT POINTING INDEX", 0x261B), ("WHITE LEFT POINTING INDEX", 0x261C),
  ("WHITE UP POINTING INDEX", 0x261D), ("WHITE RIGHT POINTING INDEX", 0x261E),
  ("WHITE DOWN POINTING INDEX", 0x261F), ("SKULL AND CROSSBONES", 0x2620),
  ("CAUTION SIGN", 0x2621), ("RADIOACTIVE SIGN", 0x2622), ("BIOHAZARD SIGN", 0x2623),
  ("CADUCEUS", 0x2624), ("ANKH", 0x2625), ("ORTHODOX CROSS", 0x2626), ("CHI RHO", 0x2627),
  ("CROSS OF LORRAINE", 0x2628), ("CROSS OF JERUSALEM", 0x2629), ("STAR AND CRESCENT", 0x262A),
  ("FARSI SYMBOL", 0x262B), ("ADI SHAKTI", 0x262C), ("HAMMER AND SICKLE", 0x262D),
  ("PEACE SYMBOL", 0x262E), ("YIN YANG", 0x262F), ("TRIGRAM FOR HEAVEN", 0x2630),
  ("TRIGRAM FOR LAKE", 0x2631), ("TRIGRAM FOR FIRE", 0x2632), ("TRIGRAM FOR THUNDER", 0x2633),
  ("TRIGRAM FOR WIND", 0x2634), ("TRIGRAM FOR WATER", 0x2635), ("TRIGRAM FOR MOUNTAIN", 0x2636),
  ("TRIGRAM FOR EARTH", 0x2637), ("WHEEL OF DHARMA", 0x2638), ("WHITE FROWNING FACE", 0x2639),
  ("WHITE SMILING FACE", 0x263A), ("BLACK SMILING FACE", 0x263B),
  ("WHITE SUN WITH RAYS", 0x263C), ("FIRST QUARTER MOON", 0x263D), ("LAST QUARTER MOON", 0x263E),
  ("MERCURY", 0x263F), ("FEMALE SIGN", 0x2640), ("EARTH", 0x2641), ("MALE SIGN", 0x2642),
  ("JUPITER", 0x2643), ("SATURN", 0x2644), ("URANUS", 0x2645), ("NEPTUNE", 0x2646),
  ("PLUTO", 0x2647), ("ARIES", 0x2648), ("TAURUS", 0x2649), ("GEMINI", 0x264A),
  ("CANCER", 0x264B), ("LEO", 0x264C), ("VIRGO", 0x264D), ("LIBRA", 0x264E),
  ("SCORPIUS", 0x264F), ("SAGITTARIUS", 0x2650), ("CAPRICORN", 0x2651), ("AQUARIUS", 0x2652),
  ("PISCES", 0x2653), ("WHITE CHESS KING", 0x2654), ("WHITE CHESS QUEEN", 0x2655),
  ("WHITE CHESS ROOK", 0x2656), ("WHITE CHESS BISHOP", 0x2657), ("WHITE CHESS KNIGHT", 0x2658),
  ("WHITE CHESS PAWN", 0x2659), ("BLACK CHESS KING", 0x265A), ("BLACK CHESS QUEEN", 0x265B),
  ("BLACK CHESS ROOK", 0x265C), ("BLACK CHESS BISHOP", 0x265D), ("BLACK CHESS KNIGHT", 0x265E),
  ("BLACK CHESS PAWN", 0x265F), ("BLACK SPADE SUIT", 0x2660), ("WHITE HEART SUIT", 0x2661),
  ("WHITE DIAMOND SUIT", 0x2662), ("BLACK CLUB SUIT", 0x2663), ("WHITE SPADE SUIT", 0x2664),
  ("BLACK HEART SUIT", 0x2665), ("BLACK DIAMOND SUIT", 0x2666), ("WHITE CLUB SUIT", 0x2667),
  ("HOT SPRINGS", 0x2668), ("QUARTER NOTE", 0x2669), ("EIGHTH NOTE", 0x266A),
  ("BEAMED EIGHTH NOTES", 0x266B), ("BEAMED SIXTEENTH NOTES", 0x266C),
  ("MUSIC FLAT SIGN", 0x266D), ("MUSIC NATURAL SIGN", 0x266E), ("MUSIC SHARP SIGN", 0x266F),
  ("WEST SYRIAC CROSS", 0x2670), ("EAST SYRIAC CROSS", 0x2671),
  ("UNIVERSAL RECYCLING SYMBOL", 0x2672), ("RECYCLING SYMBOL FOR TYPE-1 PLASTICS", 0x2673),
  ("RECYCLING SYMBOL FOR TYPE-2 PLASTICS", 0x2674),
  ("RECYCLING SYMBOL FOR TYPE-3 PLASTICS", 0x2675),
  ("RECYCLING SYMBOL FOR TYPE-4 PLASTICS", 0x2676),
  ("RECYCLING SYMBOL FOR TYPE-5 PLASTICS", 0x2677),
  ("RECYCLING SYMBOL FOR TYPE-6 PLASTICS", 0x2678),
  ("RECYCLING SYMBOL FOR TYPE-7 PLASTICS", 0x2679),
  ("RECYCLING SYMBOL FOR GENERIC MATERIALS", 0x267A),
  ("BLACK UNIVERSAL RECYCLING SYMBOL", 0x267B), ("RECYCLED PAPER SYMBOL", 0x267C),
  ("PARTIALLY-RECYCLED PAPER SYMBOL", 0x267D), ("PERMANENT PAPER SIGN", 0x267E),
  ("WHEELCHAIR SYMBOL", 0x267F), ("DIE FACE-1", 0x2680), ("DIE FACE-2", 0x2681),
  ("DIE FACE-3", 0x2682), ("DIE FACE-4", 0x2683), ("DIE FACE-5", 0x2684), ("DIE FACE-6", 0x2685),
  ("WHITE CIRCLE WITH DOT RIGHT", 0x2686), ("WHITE CIRCLE WITH TWO DOTS", 0x2687),
  ("BLACK CIRCLE WITH WHITE DOT RIGHT", 0x2688), ("BLACK CIRCLE WITH TWO WHITE DOTS", 0x2689),
  ("MONOGRAM FOR YANG", 0x268A), ("MONOGRAM FOR YIN", 0x268B),
  ("DIGRAM FOR GREATER YANG", 0x268C), ("DIGRAM FOR LESSER YIN", 0x268D),
  ("DIGRAM FOR LESSER YANG", 0x268E), ("DIGRAM FOR GREATER YIN", 0x268F), ("WHITE FLAG", 0x2690),
  ("BLACK FLAG", 0x2691), ("HAMMER AND PICK", 0x2692), ("ANCHOR", 0x2693),
  ("CROSSED SWORDS", 0x2694), ("STAFF OF AESCULAPIUS", 0x2695), ("SCALES", 0x2696),
  ("ALEMBIC", 0x2697), ("FLOWER", 0x2698), ("GEAR", 0x2699), ("STAFF OF HERMES", 0x269A),
  ("ATOM SYMBOL", 0x269B), ("FLEUR-DE-LIS", 0x269C), ("OUTLINED WHITE STAR", 0x269D),
  ("THREE LINES CONVERGING RIGHT", 0x269E), ("THREE LINES CONVERGING LEFT", 0x269F),
  ("WARNING SIGN", 0x26A0), ("HIGH VOLTAGE SIGN", 0x26A1), ("DOUBLED FEMALE SIGN", 0x26A2),
  ("DOUBLED MALE SIGN", 0x26A3), ("INTERLOCKED FEMALE AND MALE SIGN", 0x26A4),
  ("MALE AND FEMALE SIGN", 0x26A5), ("MALE WITH STROKE SIGN", 0x26A6),
  ("MALE WITH STROKE AND MALE AND FEMALE SIGN", 0x26A7),
  ("VERTICAL MALE WITH STROKE SIGN", 0x26A8), ("HORIZONTAL MALE WITH STROKE SIGN", 0x26A9),
  ("MEDIUM WHITE CIRCLE", 0x26AA), ("MEDIUM BLACK CIRCLE", 0x26AB),
  ("MEDIUM SMALL WHITE CIRCLE", 0x26AC), ("MARRIAGE SYMBOL", 0x26AD), ("DIVORCE SYMBOL", 0x26AE),
  ("UNMARRIED PARTNERSHIP SYMBOL", 0x26AF), ("COFFIN", 0x26B0), ("FUNERAL URN", 0x26B1),
  ("NEUTER", 0x26B2), ("CERES", 0x26B3), ("PALLAS", 0x26B4), ("JUNO", 0x26B5), ("VESTA", 0x26B6),
  ("CHIRON", 0x26B7), ("BLACK MOON LILITH", 0x26B8), ("SEXTILE", 0x26B9),
  ("SEMISEXTILE", 0x26BA), ("QUINCUNX", 0x26BB), ("SESQUIQUADRATE", 0x26BC),
  ("SOCCER BALL", 0x26BD), ("BASEBALL", 0x26BE), ("SQUARED KEY", 0x26BF),
  ("WHITE DRAUGHTS MAN", 0x26C0), ("WHITE DRAUGHTS KING", 0x26C1),
  ("BLACK DRAUGHTS MAN", 0x26C2), ("BLACK DRAUGHTS KING", 0x26C3),
  ("SNOWMAN WITHOUT SNOW", 0x26C4), ("SUN BEHIND CLOUD", 0x26C5), ("RAIN", 0x26C6),
  ("BLACK SNOWMAN", 0x26C7), ("THUNDER CLOUD AND RAIN", 0x26C8),
  ("TURNED WHITE SHOGI PIECE", 0x26C9), ("TURNED BLACK SHOGI PIECE", 0x26CA),
  ("WHITE DIAMOND IN SQUARE", 0x26CB), ("CROSSING LANES", 0x26CC), ("DISABLED CAR", 0x26CD),
  ("OPHIUCHUS", 0x26CE), ("PICK", 0x26CF), ("CAR SLIDING", 0x26D0),
  ("HELMET WITH WHITE CROSS", 0x26D1), ("CIRCLED CROSSING LANES", 0x26D2), ("CHAINS", 0x26D3),
  ("NO ENTRY", 0x26D4), ("ALTERNATE ONE-WAY LEFT WAY TRAFFIC", 0x26D5),
  ("BLACK TWO-WAY LEFT WAY TRAFFIC", 0x26D6), ("WHITE TWO-WAY LEFT WAY TRAFFIC", 0x26D7),
  ("BLACK LEFT LANE MERGE", 0x26D8), ("WHITE LEFT LANE MERGE", 0x26D9),
  ("DRIVE SLOW SIGN", 0x26DA), ("HEAVY WHITE DOWN-POINTING TRIANGLE", 0x26DB),
  ("LEFT CLOSED ENTRY", 0x26DC), ("SQUARED SALTIRE", 0x26DD),
  ("FALLING DIAGONAL IN WHITE CIRCLE IN BLACK SQUARE", 0x26DE), ("BLACK TRUCK", 0x26DF),
  ("RESTRICTED LEFT ENTRY-1", 0x26E0), ("RESTRICTED LEFT ENTRY-2", 0x26E1),
  ("ASTRONOMICAL SYMBOL FOR URANUS", 0x26E2),
  ("HEAVY CIRCLE WITH STROKE AND TWO DOTS ABOVE", 0x26E3), ("PENTAGRAM", 0x26E4),
  ("RIGHT-HANDED INTERLACED PENTAGRAM", 0x26E5), ("LEFT-HANDED INTERLACED PENTAGRAM", 0x26E6),
  ("INVERTED PENTAGRAM", 0x26E7), ("BLACK CROSS ON SHIELD", 0x26E8), ("SHINTO SHRINE", 0x26E9),
  ("CHURCH", 0x26EA), ("CASTLE", 0x26EB), ("HISTORIC SITE", 0x26EC),
  ("GEAR WITHOUT HUB", 0x26ED), ("GEAR WITH HANDLES", 0x26EE),
  ("MAP SYMBOL FOR LIGHTHOUSE", 0x26EF), ("MOUNTAIN", 0x26F0), ("UMBRELLA ON GROUND", 0x26F1),
  ("FOUNTAIN", 0x26F2), ("FLAG IN HOLE", 0x26F3), ("FERRY", 0x26F4), ("SAILBOAT", 0x26F5),
  ("SQUARE FOUR CORNERS", 0x26F6), ("SKIER", 0x26F7), ("ICE SKATE", 0x26F8),
  ("PERSON WITH BALL", 0x26F9), ("TENT", 0x26FA), ("JAPANESE BANK SYMBOL", 0x26FB),
  ("HEADSTONE GRAVEYARD SYMBOL", 0x26FC), ("FUEL PUMP", 0x26FD), ("CUP ON BLACK SQUARE", 0x26FE),
  ("WHITE FLAG WITH HORIZONTAL MIDDLE BLACK STRIPE", 0x26FF), ("UPPER BLADE SCISSORS", 0x2701),
  ("BLACK SCISSORS", 0x2702), ("LOWER BLADE SCISSORS", 0x2703), ("WHITE SCISSORS", 0x2704),
  ("WHITE HEAVY CHECK MARK", 0x2705), ("TELEPHONE LOCATION SIGN", 0x2706),
  ("TAPE DRIVE", 0x2707), ("AIRPLANE", 0x2708), ("ENVELOPE", 0x2709), ("RAISED FIST", 0x270A),
  ("RAISED HAND", 0x270B), ("VICTORY HAND", 0x270C), ("WRITING HAND", 0x270D),
  ("LOWER RIGHT PENCIL", 0x270E), ("PENCIL", 0x270F), ("UPPER RIGHT PENCIL", 0x2710),
  ("WHITE NIB", 0x2711), ("BLACK NIB", 0x2712), ("CHECK MARK", 0x2713),
  ("HEAVY CHECK MARK", 0x2714), ("MULTIPLICATION X", 0x2715), ("HEAVY MULTIPLICATION X", 0x2716),
  ("BALLOT X", 0x2717), ("HEAVY BALLOT X", 0x2718), ("OUTLINED GREEK CROSS", 0x2719),
  ("HEAVY GREEK CROSS", 0x271A), ("OPEN CENTRE CROSS", 0x271B),
  ("HEAVY OPEN CENTRE CROSS", 0x271C), ("LATIN CROSS", 0x271D),
  ("SHADOWED WHITE LATIN CROSS", 0x271E), ("OUTLINED LATIN CROSS", 0x271F),
  ("MALTESE CROSS", 0x2720), ("STAR OF DAVID", 0x2721),
  ("FOUR TEARDROP-SPOKED ASTERISK", 0x2722), ("FOUR BALLOON-SPOKED ASTERISK", 0x2723),
  ("HEAVY FOUR BALLOON-SPOKED ASTERISK", 0x2724), ("FOUR CLUB-SPOKED ASTERISK", 0x2725),
  ("BLACK FOUR POINTED STAR", 0x2726), ("WHITE FOUR POINTED STAR", 0x2727), ("SPARKLES", 0x2728),
  ("STRESS OUTLINED WHITE STAR", 0x2729), ("CIRCLED WHITE STAR", 0x272A),
  ("OPEN CENTRE BLACK STAR", 0x272B), ("BLACK CENTRE WHITE STAR", 0x272C),
  ("OUTLINED BLACK STAR", 0x272D), ("HEAVY OUTLINED BLACK STAR", 0x272E),
  ("PINWHEEL STAR", 0x272F), ("SHADOWED WHITE STAR", 0x2730), ("HEAVY ASTERISK", 0x2731),
  ("OPEN CENTRE ASTERISK", 0x2732), ("EIGHT SPOKED ASTERISK", 0x2733),
  ("EIGHT POINTED BLACK STAR", 0x2734), ("EIGHT POINTED PINWHEEL STAR", 0x2735),
  ("SIX POINTED BLACK STAR", 0x2736), ("EIGHT POINTED RECTILINEAR BLACK STAR", 0x2737),
  ("HEAVY EIGHT POINTED RECTILINEAR BLACK STAR", 0x2738), ("TWELVE POINTED BLACK STAR", 0x2739),
  ("SIXTEEN POINTED ASTERISK", 0x273A), ("TEARDROP-SPOKED ASTERISK", 0x273B),
  ("OPEN CENTRE TEARDROP-SPOKED ASTERISK", 0x273C), ("HEAVY TEARDROP-SPOKED ASTERISK", 0x273D),
  ("SIX PETALLED BLACK AND WHITE FLORETTE", 0x273E), ("BLACK FLORETTE", 0x273F),
  ("WHITE FLORETTE", 0x2740), ("EIGHT PETALLED OUTLINED BLACK FLORETTE", 0x2741),
  ("CIRCLED OPEN CENTRE EIGHT POINTED STAR", 0x2742),
  ("HEAVY TEARDROP-SPOKED PINWHEEL ASTERISK", 0x2743), ("SNOWFLAKE", 0x2744),
  ("TIGHT TRIFOLIATE SNOWFLAKE", 0x2745), ("HEAVY CHEVRON SNOWFLAKE", 0x2746),
  ("SPARKLE", 0x2747), ("HEAVY SPARKLE", 0x2748), ("BALLOON-SPOKED ASTERISK", 0x2749),
  ("EIGHT TEARDROP-SPOKED PROPELLER ASTERISK", 0x274A),
  ("HEAVY EIGHT TEARDROP-SPOKED PROPELLER ASTERISK", 0x274B), ("CROSS MARK", 0x274C),
  ("SHADOWED WHITE CIRCLE", 0x274D), ("NEGATIVE SQUARED CROSS MARK", 0x274E),
  ("LOWER RIGHT DROP-SHADOWED WHITE SQUARE", 0x274F),
  ("UPPER RIGHT DROP-SHADOWED WHITE SQUARE", 0x2750),
  ("LOWER RIGHT SHADOWED WHITE SQUARE", 0x2751), ("UPPER RIGHT SHADOWED WHITE SQUARE", 0x2752),
  ("BLACK QUESTION MARK ORNAMENT", 0x2753), ("WHITE QUESTION MARK ORNAMENT", 0x2754),
  ("WHITE EXCLAMATION MARK ORNAMENT", 0x2755), ("BLACK DIAMOND MINUS WHITE X", 0x2756),
  ("HEAVY EXCLAMATION MARK SYMBOL", 0x2757), ("LIGHT VERTICAL BAR", 0x2758),
  ("MEDIUM VERTICAL BAR", 0x2759), ("HEAVY VERTICAL BAR", 0x275A),
  ("HEAVY SINGLE TURNED COMMA QUOTATION MARK ORNAMENT", 0x275B),
  ("HEAVY SINGLE COMMA QUOTATION MARK ORNAMENT", 0x275C),
  ("HEAVY DOUBLE TURNED COMMA QUOTATION MARK ORNAMENT", 0x275D),
  ("HEAVY DOUBLE COMMA QUOTATION MARK ORNAMENT", 0x275E),
  ("HEAVY LOW SINGLE COMMA QUOTATION MARK ORNAMENT", 0x275F),
  ("HEAVY LOW DOUBLE COMMA QUOTATION MARK ORNAMENT", 0x2760),
  ("CURVED STEM PARAGRAPH SIGN ORNAMENT", 0x2761), ("HEAVY EXCLAMATION MARK ORNAMENT", 0x2762),
  ("HEAVY HEART EXCLAMATION MARK ORNAMENT", 0x2763), ("HEAVY BLACK HEART", 0x2764),
  ("ROTATED HEAVY BLACK HEART BULLET", 0x2765), ("FLORAL HEART", 0x2766),
  ("ROTATED FLORAL HEART BULLET", 0x2767), ("MEDIUM LEFT PARENTHESIS ORNAMENT", 0x2768),
  ("MEDIUM RIGHT PARENTHESIS ORNAMENT", 0x2769),
  ("MEDIUM FLATTENED LEFT PARENTHESIS ORNAMENT", 0x276A),
  ("MEDIUM FLATTENED RIGHT PARENTHESIS ORNAMENT", 0x276B),
  ("MEDIUM LEFT-POINTING ANGLE BRACKET ORNAMENT", 0x276C),
  ("MEDIUM RIGHT-POINTING ANGLE BRACKET ORNAMENT", 0x276D),
  ("HEAVY LEFT-POINTING ANGLE QUOTATION MARK ORNAMENT", 0x276E),
  ("HEAVY RIGHT-POINTING ANGLE QUOTATION MARK ORNAMENT", 0x276F),
  ("HEAVY LEFT-POINTING ANGLE BRACKET ORNAMENT", 0x2770),
  ("HEAVY RIGHT-POINTING ANGLE BRACKET ORNAMENT", 0x2771),
  ("LIGHT LEFT TORTOISE SHELL BRACKET ORNAMENT", 0x2772),
  ("LIGHT RIGHT TORTOISE SHELL BRACKET ORNAMENT", 0x2773),
  ("MEDIUM LEFT CURLY BRACKET ORNAMENT", 0x2774),
  ("MEDIUM RIGHT CURLY BRACKET ORNAMENT", 0x2775),
  ("DINGBAT NEGATIVE CIRCLED DIGIT ONE", 0x2776), ("DINGBAT NEGATIVE CIRCLED DIGIT TWO", 0x2777),
  ("DINGBAT NEGATIVE CIRCLED DIGIT THREE", 0x2778),
  ("DINGBAT NEGATIVE CIRCLED DIGIT FOUR", 0x2779),
  ("DINGBAT NEGATIVE CIRCLED DIGIT FIVE", 0x277A),
  ("DINGBAT NEGATIVE CIRCLED DIGIT SIX", 0x277B),
  ("DINGBAT NEGATIVE CIRCLED DIGIT SEVEN", 0x277C),
  ("DINGBAT NEGATIVE CIRCLED DIGIT EIGHT", 0x277D),
  ("DINGBAT NEGATIVE CIRCLED DIGIT NINE", 0x277E),
  ("DINGBAT NEGATIVE CIRCLED NUMBER TEN", 0x277F),
  ("DINGBAT CIRCLED SANS-SERIF DIGIT ONE", 0x2780),
  ("DINGBAT CIRCLED SANS-SERIF DIGIT TWO", 0x2781),
  ("DINGBAT CIRCLED SANS-SERIF DIGIT THREE", 0x2782),
  ("DINGBAT CIRCLED SANS-SERIF DIGIT FOUR", 0x2783),
  ("DINGBAT CIRCLED SANS-SERIF DIGIT FIVE", 0x2784),
  ("DINGBAT CIRCLED SANS-SERIF DIGIT SIX", 0x2785),
  ("DINGBAT CIRCLED SANS-SERIF DIGIT SEVEN", 0x2786),
  ("DINGBAT CIRCLED SANS-SERIF DIGIT EIGHT", 0x2787),
  ("DINGBAT CIRCLED SANS-SERIF DIGIT NINE", 0x2788),
  ("DINGBAT CIRCLED SANS-SERIF NUMBER TEN", 0x2789),
  ("DINGBAT NEGATIVE CIRCLED SANS-SERIF DIGIT ONE", 0x278A),
  ("DINGBAT NEGATIVE CIRCLED SANS-SERIF DIGIT TWO", 0x278B),
  ("DINGBAT NEGATIVE CIRCLED SANS-SERIF DIGIT THREE", 0x278C),
  ("DINGBAT NEGATIVE CIRCLED SANS-SERIF DIGIT FOUR", 0x278D),
  ("DINGBAT NEGATIVE CIRCLED SANS-SERIF DIGIT FIVE", 0x278E),
  ("DINGBAT NEGATIVE CIRCLED SANS-SERIF DIGIT SIX", 0x278F),
  ("DINGBAT NEGATIVE CIRCLED SANS-SERIF DIGIT SEVEN", 0x2790),
  ("DINGBAT NEGATIVE CIRCLED SANS-SERIF DIGIT EIGHT", 0x2791),
  ("DINGBAT NEGATIVE CIRCLED SANS-SERIF DIGIT NINE", 0x2792),
  ("DINGBAT NEGATIVE CIRCLED SANS-SERIF NUMBER TEN", 0x2793),
  ("HEAVY WIDE-HEADED RIGHTWARDS ARROW", 0x2794), ("HEAVY PLUS SIGN", 0x2795),
  ("HEAVY MINUS SIGN", 0x2796), ("HEAVY DIVISION SIGN", 0x2797),
  ("HEAVY SOUTH EAST ARROW", 0x2798), ("HEAVY RIGHTWARDS ARROW", 0x2799),
  ("HEAVY NORTH EAST ARROW", 0x279A), ("DRAFTING POINT RIGHTWARDS ARROW", 0x279B),
  ("HEAVY ROUND-TIPPED RIGHTWARDS ARROW", 0x279C), ("TRIANGLE-HEADED RIGHTWARDS ARROW", 0x279D),
  ("HEAVY TRIANGLE-HEADED RIGHTWARDS ARROW", 0x279E),
  ("DASHED TRIANGLE-HEADED RIGHTWARDS ARROW", 0x279F),
  ("HEAVY DASHED TRIANGLE-HEADED RIGHTWARDS ARROW", 0x27A0), ("BLACK RIGHTWARDS ARROW", 0x27A1),
  ("THREE-D TOP-LIGHTED RIGHTWARDS ARROWHEAD", 0x27A2),
  ("THREE-D BOTTOM-LIGHTED RIGHTWARDS ARROWHEAD", 0x27A3),
  ("BLACK RIGHTWARDS ARROWHEAD", 0x27A4),
  ("HEAVY BLACK CURVED DOWNWARDS AND RIGHTWARDS ARROW", 0x27A5),
  ("HEAVY BLACK CURVED UPWARDS AND RIGHTWARDS ARROW", 0x27A6),
  ("SQUAT BLACK RIGHTWARDS ARROW", 0x27A7),
  ("HEAVY CONCAVE-POINTED BLACK RIGHTWARDS ARROW", 0x27A8),
  ("RIGHT-SHADED WHITE RIGHTWARDS ARROW", 0x27A9),
  ("LEFT-SHADED WHITE RIGHTWARDS ARROW", 0x27AA),
  ("BACK-TILTED SHADOWED WHITE RIGHTWARDS ARROW", 0x27AB),
  ("FRONT-TILTED SHADOWED WHITE RIGHTWARDS ARROW", 0x27AC),
  ("HEAVY LOWER RIGHT-SHADOWED WHITE RIGHTWARDS ARROW", 0x27AD),
  ("HEAVY UPPER RIGHT-SHADOWED WHITE RIGHTWARDS ARROW", 0x27AE),
  ("NOTCHED LOWER RIGHT-SHADOWED WHITE RIGHTWARDS ARROW", 0x27AF), ("CURLY LOOP", 0x27B0),
  ("NOTCHED UPPER RIGHT-SHADOWED WHITE RIGHTWARDS ARROW", 0x27B1),
  ("CIRCLED HEAVY WHITE RIGHTWARDS ARROW", 0x27B2), ("WHITE-FEATHERED RIGHTWARDS ARROW", 0x27B3),
  ("BLACK-FEATHERED SOUTH EAST ARROW", 0x27B4), ("BLACK-FEATHERED RIGHTWARDS ARROW", 0x27B5),
  ("BLACK-FEATHERED NORTH EAST ARROW", 0x27B6),
  ("HEAVY BLACK-FEATHERED SOUTH EAST ARROW", 0x27B7),
  ("HEAVY BLACK-FEATHERED RIGHTWARDS ARROW", 0x27B8),
  ("HEAVY BLACK-FEATHERED NORTH EAST ARROW", 0x27B9),
  ("TEARDROP-BARBED RIGHTWARDS ARROW", 0x27BA),
  ("HEAVY TEARDROP-SHANKED RIGHTWARDS ARROW", 0x27BB), ("WEDGE-TAILED RIGHTWARDS ARROW", 0x27BC),
  ("HEAVY WEDGE-TAILED RIGHTWARDS ARROW", 0x27BD), ("OPEN-OUTLINED RIGHTWARDS ARROW", 0x27BE),
  ("DOUBLE CURLY LOOP", 0x27BF), ("IDEOGRAPHIC SPACE", 0x3000), ("IDEOGRAPHIC COMMA", 0x3001),
  ("IDEOGRAPHIC FULL STOP", 0x3002), ("DITTO MARK", 0x3003),
  ("JAPANESE INDUSTRIAL STANDARD SYMBOL", 0x3004), ("IDEOGRAPHIC ITERATION MARK", 0x3005),
  ("IDEOGRAPHIC CLOSING MARK", 0x3006), ("IDEOGRAPHIC NUMBER ZERO", 0x3007),
  ("LEFT ANGLE BRACKET", 0x3008), ("RIGHT ANGLE BRACKET", 0x3009),
  ("LEFT DOUBLE ANGLE BRACKET", 0x300A), ("RIGHT DOUBLE ANGLE BRACKET", 0x300B),
  ("LEFT CORNER BRACKET", 0x300C), ("RIGHT CORNER BRACKET", 0x300D),
  ("LEFT WHITE CORNER BRACKET", 0x300E), ("RIGHT WHITE CORNER BRACKET", 0x300F),
  ("LEFT BLACK LENTICULAR BRACKET", 0x3010), ("RIGHT BLACK LENTICULAR BRACKET", 0x3011),
  ("POSTAL MARK", 0x3012), ("GETA MARK", 0x3013), ("LEFT TORTOISE SHELL BRACKET", 0x3014),
  ("RIGHT TORTOISE SHELL BRACKET", 0x3015), ("LEFT WHITE LENTICULAR BRACKET", 0x3016),
  ("RIGHT WHITE LENTICULAR BRACKET", 0x3017), ("LEFT WHITE TORTOISE SHELL BRACKET", 0x3018),
  ("RIGHT WHITE TORTOISE SHELL BRACKET", 0x3019), ("LEFT WHITE SQUARE BRACKET", 0x301A),
  ("RIGHT WHITE SQUARE BRACKET", 0x301B), ("WAVE DASH", 0x301C),
  ("REVERSED DOUBLE PRIME QUOTATION MARK", 0x301D), ("DOUBLE PRIME QUOTATION MARK", 0x301E),
  ("LOW DOUBLE PRIME QUOTATION MARK", 0x301F), ("POSTAL MARK FACE", 0x3020),
  ("HIRAGANA LETTER SMALL A", 0x3041), ("HIRAGANA LETTER A", 0x3042),
  ("HIRAGANA LETTER SMALL I", 0x3043), ("HIRAGANA LETTER I", 0x3044),
  ("HIRAGANA LETTER SMALL U", 0x3045), ("HIRAGANA LETTER U", 0x3046),
  ("HIRAGANA LETTER SMALL E", 0x3047), ("HIRAGANA LETTER E", 0x3048),
  ("HIRAGANA LETTER SMALL O", 0x3049), ("HIRAGANA LETTER O", 0x304A),
  ("HIRAGANA LETTER KA", 0x304B), ("HIRAGANA LETTER GA", 0x304C), ("HIRAGANA LETTER KI", 0x304D),
  ("HIRAGANA LETTER GI", 0x304E), ("HIRAGANA LETTER KU", 0x304F), ("HIRAGANA LETTER GU", 0x3050),
  ("HIRAGANA LETTER KE", 0x3051), ("HIRAGANA LETTER GE", 0x3052), ("HIRAGANA LETTER KO", 0x3053),
  ("HIRAGANA LETTER GO", 0x3054), ("HIRAGANA LETTER SA", 0x3055), ("HIRAGANA LETTER ZA", 0x3056),
  ("HIRAGANA LETTER SI", 0x3057), ("HIRAGANA LETTER ZI", 0x3058), ("HIRAGANA LETTER SU", 0x3059),
  ("HIRAGANA LETTER ZU", 0x305A), ("HIRAGANA LETTER SE", 0x305B), ("HIRAGANA LETTER ZE", 0x305C),
  ("HIRAGANA LETTER SO", 0x305D), ("HIRAGANA LETTER ZO", 0x305E), ("HIRAGANA LETTER TA", 0x305F),
  ("HIRAGANA LETTER DA", 0x3060), ("HIRAGANA LETTER TI", 0x3061), ("HIRAGANA LETTER DI", 0x3062),
  ("HIRAGANA LETTER SMALL TU", 0x3063), ("HIRAGANA LETTER TU", 0x3064),
  ("HIRAGANA LETTER DU", 0x3065), ("HIRAGANA LETTER TE", 0x3066), ("HIRAGANA LETTER DE", 0x3067),
  ("HIRAGANA LETTER TO", 0x3068), ("HIRAGANA LETTER DO", 0x3069), ("HIRAGANA LETTER NA", 0x306A),
  ("HIRAGANA LETTER NI", 0x306B), ("HIRAGANA LETTER NU", 0x306C), ("HIRAGANA LETTER NE", 0x306D),
  ("HIRAGANA LETTER NO", 0x306E), ("HIRAGANA LETTER HA", 0x306F), ("HIRAGANA LETTER BA", 0x3070),
  ("HIRAGANA LETTER PA", 0x3071), ("HIRAGANA LETTER HI", 0x3072), ("HIRAGANA LETTER BI", 0x3073),
  ("HIRAGANA LETTER PI", 0x3074), ("HIRAGANA LETTER HU", 0x3075), ("HIRAGANA LETTER BU", 0x3076),
  ("HIRAGANA LETTER PU", 0x3077), ("HIRAGANA LETTER HE", 0x3078), ("HIRAGANA LETTER BE", 0x3079),
  ("HIRAGANA LETTER PE", 0x307A), ("HIRAGANA LETTER HO", 0x307B), ("HIRAGANA LETTER BO", 0x307C),
  ("HIRAGANA LETTER PO", 0x307D), ("HIRAGANA LETTER MA", 0x307E), ("HIRAGANA LETTER MI", 0x307F),
  ("HIRAGANA LETTER MU", 0x3080), ("HIRAGANA LETTER ME", 0x3081), ("HIRAGANA LETTER MO", 0x3082),
  ("HIRAGANA LETTER SMALL YA", 0x3083), ("HIRAGANA LETTER YA", 0x3084),
  ("HIRAGANA LETTER SMALL YU", 0x3085), ("HIRAGANA LETTER YU", 0x3086),
  ("HIRAGANA LETTER SMALL YO", 0x3087), ("HIRAGANA LETTER YO", 0x3088),
  ("HIRAGANA LETTER RA", 0x3089), ("HIRAGANA LETTER RI", 0x308A), ("HIRAGANA LETTER RU", 0x308B),
  ("HIRAGANA LETTER RE", 0x308C), ("HIRAGANA LETTER RO", 0x308D),
  ("HIRAGANA LETTER SMALL WA", 0x308E), ("HIRAGANA LETTER WA", 0x308F),
  ("HIRAGANA LETTER WI", 0x3090), ("HIRAGANA LETTER WE", 0x3091), ("HIRAGANA LETTER WO", 0x3092),
  ("HIRAGANA LETTER N", 0x3093), ("HIRAGANA LETTER VU", 0x3094),
  ("HIRAGANA LETTER SMALL KA", 0x3095), ("HIRAGANA LETTER SMALL KE", 0x3096),
  ("COMBINING KATAKANA-HIRAGANA VOICED SOUND MARK", 0x3099),
  ("COMBINING KATAKANA-HIRAGANA SEMI-VOICED SOUND MARK", 0x309A),
  ("KATAKANA-HIRAGANA VOICED SOUND MARK", 0x309B),
  ("KATAKANA-HIRAGANA SEMI-VOICED SOUND MARK", 0x309C), ("HIRAGANA ITERATION MARK", 0x309D),
  ("HIRAGANA VOICED ITERATION MARK", 0x309E), ("HIRAGANA DIGRAPH YORI", 0x309F),
  ("KATAKANA-HIRAGANA DOUBLE HYPHEN", 0x30A0), ("KATAKANA LETTER SMALL A", 0x30A1),
  ("KATAKANA LETTER A", 0x30A2), ("KATAKANA LETTER SMALL I", 0x30A3),
  ("KATAKANA LETTER I", 0x30A4), ("KATAKANA LETTER SMALL U", 0x30A5),
  ("KATAKANA LETTER U", 0x30A6), ("KATAKANA LETTER SMALL E", 0x30A7),
  ("KATAKANA LETTER E", 0x30A8), ("KATAKANA LETTER SMALL O", 0x30A9),
  ("KATAKANA LETTER O", 0x30AA), ("KATAKANA LETTER KA", 0x30AB), ("KATAKANA LETTER GA", 0x30AC),
  ("KATAKANA LETTER KI", 0x30AD), ("KATAKANA LETTER GI", 0x30AE), ("KATAKANA LETTER KU", 0x30AF),
  ("KATAKANA LETTER GU", 0x30B0), ("KATAKANA LETTER KE", 0x30B1), ("KATAKANA LETTER GE", 0x30B2),
  ("KATAKANA LETTER KO", 0x30B3), ("KATAKANA LETTER GO", 0x30B4), ("KATAKANA LETTER SA", 0x30B5),
  ("KATAKANA LETTER ZA", 0x30B6), ("KATAKANA LETTER SI", 0x30B7), ("KATAKANA LETTER ZI", 0x30B8),
  ("KATAKANA LETTER SU", 0x30B9), ("KATAKANA LETTER ZU", 0x30BA), ("KATAKANA LETTER SE", 0x30BB),
  ("KATAKANA LETTER ZE", 0x30BC), ("KATAKANA LETTER SO", 0x30BD), ("KATAKANA LETTER ZO", 0x30BE),
  ("KATAKANA LETTER TA", 0x30BF), ("KATAKANA LETTER DA", 0x30C0), ("KATAKANA LETTER TI", 0x30C1),
  ("KATAKANA LETTER DI", 0x30C2), ("KATAKANA LETTER SMALL TU", 0x30C3),
  ("KATAKANA LETTER TU", 0x30C4), ("KATAKANA LETTER DU", 0x30C5), ("KATAKANA LETTER TE", 0x30C6),
  ("KATAKANA LETTER DE", 0x30C7), ("KATAKANA LETTER TO", 0x30C8), ("KATAKANA LETTER DO", 0x30C9),
  ("KATAKANA LETTER NA", 0x30CA), ("KATAKANA LETTER NI", 0x30CB), ("KATAKANA LETTER NU", 0x30CC),
  ("KATAKANA LETTER NE", 0x30CD), ("KATAKANA LETTER NO", 0x30CE), ("KATAKANA LETTER HA", 0x30CF),
  ("KATAKANA LETTER BA", 0x30D0), ("KATAKANA LETTER PA", 0x30D1), ("KATAKANA LETTER HI", 0x30D2),
  ("KATAKANA LETTER BI", 0x30D3), ("KATAKANA LETTER PI", 0x30D4), ("KATAKANA LETTER HU", 0x30D5),
  ("KATAKANA LETTER BU", 0x30D6), ("KATAKANA LETTER PU", 0x30D7), ("KATAKANA LETTER HE", 0x30D8),
  ("KATAKANA LETTER BE", 0x30D9), ("KATAKANA LETTER PE", 0x30DA), ("KATAKANA LETTER HO", 0x30DB),
  ("KATAKANA LETTER BO", 0x30DC), ("KATAKANA LETTER PO", 0x30DD), ("KATAKANA LETTER MA", 0x30DE),
  ("KATAKANA LETTER MI", 0x30DF), ("KATAKANA LETTER MU", 0x30E0), ("KATAKANA LETTER ME", 0x30E1),
  ("KATAKANA LETTER MO", 0x30E2), ("KATAKANA LETTER SMALL YA", 0x30E3),
  ("KATAKANA LETTER YA", 0x30E4), ("KATAKANA LETTER SMALL YU", 0x30E5),
  ("KATAKANA LETTER YU", 0x30E6), ("KATAKANA LETTER SMALL YO", 0x30E7),
  ("KATAKANA LETTER YO", 0x30E8), ("KATAKANA LETTER RA", 0x30E9), ("KATAKANA LETTER RI", 0x30EA),
  ("KATAKANA LETTER RU", 0x30EB), ("KATAKANA LETTER RE", 0x30EC), ("KATAKANA LETTER RO", 0x30ED),
  ("KATAKANA LETTER SMALL WA", 0x30EE), ("KATAKANA LETTER WA", 0x30EF),
  ("KATAKANA LETTER WI", 0x30F0), ("KATAKANA LETTER WE", 0x30F1), ("KATAKANA LETTER WO", 0x30F2),
  ("KATAKANA LETTER N", 0x30F3), ("KATAKANA LETTER VU", 0x30F4),
  ("KATAKANA LETTER SMALL KA", 0x30F5), ("KATAKANA LETTER SMALL KE", 0x30F6),
  ("KATAKANA LETTER VA", 0x30F7), ("KATAKANA LETTER VI", 0x30F8), ("KATAKANA LETTER VE", 0x30F9),
  ("KATAKANA LETTER VO", 0x30FA), ("KATAKANA MIDDLE DOT", 0x30FB),
  ("KATAKANA-HIRAGANA PROLONGED SOUND MARK", 0x30FC), ("KATAKANA ITERATION MARK", 0x30FD),
  ("KATAKANA VOICED ITERATION MARK", 0x30FE), ("KATAKANA DIGRAPH KOTO", 0x30FF),
  ("LATIN SMALL LIGATURE FF", 0xFB00), ("LATIN SMALL LIGATURE FI", 0xFB01),
  ("LATIN SMALL LIGATURE FL", 0xFB02), ("LATIN SMALL LIGATURE FFI", 0xFB03),
  ("LATIN SMALL LIGATURE FFL", 0xFB04), ("LATIN SMALL LIGATURE LONG S T", 0xFB05),
  ("LATIN SMALL LIGATURE ST", 0xFB06), ("BOM", 0xFEFF), ("BYTE ORDER MARK", 0xFEFF),
  ("ZERO WIDTH NO-BREAK SPACE", 0xFEFF), ("ZWNBSP", 0xFEFF),
  ("OBJECT REPLACEMENT CHARACTER", 0xFFFC), ("REPLACEMENT CHARACTER", 0xFFFD)]

end Conformance.Unicode
