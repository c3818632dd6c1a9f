/-!
# Names of pictographs

Names and their code points, in the order of the code points.
-/
namespace Conformance.Unicode

/-- Names of pictographs, faces, vehicles and their supplements. -/
def pictureNames : List (String × Nat) := [
  ("CYCLONE", 0x1F300), ("FOGGY", 0x1F301), ("CLOSED UMBRELLA", 0x1F302),
  ("NIGHT WITH STARS", 0x1F303), ("SUNRISE OVER MOUNTAINS", 0x1F304), ("SUNRISE", 0x1F305),
  ("CITYSCAPE AT DUSK", 0x1F306), ("SUNSET OVER BUILDINGS", 0x1F307), ("RAINBOW", 0x1F308),
  ("BRIDGE AT NIGHT", 0x1F309), ("WATER WAVE", 0x1F30A), ("VOLCANO", 0x1F30B),
  ("MILKY WAY", 0x1F30C), ("EARTH GLOBE EUROPE-AFRICA", 0x1F30D),
  ("EARTH GLOBE AMERICAS", 0x1F30E), ("EARTH GLOBE ASIA-AUSTRALIA", 0x1F30F),
  ("GLOBE WITH MERIDIANS", 0x1F310), ("NEW MOON SYMBOL", 0x1F311),
  ("WAXING CRESCENT MOON SYMBOL", 0x1F312), ("FIRST QUARTER MOON SYMBOL", 0x1F313),
  ("WAXING GIBBOUS MOON SYMBOL", 0x1F314), ("FULL MOON SYMBOL", 0x1F315),
  ("WANING GIBBOUS MOON SYMBOL", 0x1F316), ("LAST QUARTER MOON SYMBOL", 0x1F317),
  ("WANING CRESCENT MOON SYMBOL", 0x1F318), ("CRESCENT MOON", 0x1F319),
  ("NEW MOON WITH FACE", 0x1F31A), ("FIRST QUARTER MOON WITH FACE", 0x1F31B),
  ("LAST QUARTER MOON WITH FACE", 0x1F31C), ("FULL MOON WITH FACE", 0x1F31D),
  ("SUN WITH FACE", 0x1F31E), ("GLOWING STAR", 0x1F31F), ("SHOOTING STAR", 0x1F320),
  ("THERMOMETER", 0x1F321), ("BLACK DROPLET", 0x1F322), ("WHITE SUN", 0x1F323),
  ("WHITE SUN WITH SMALL CLOUD", 0x1F324), ("WHITE SUN BEHIND CLOUD", 0x1F325),
  ("WHITE SUN BEHIND CLOUD WITH RAIN", 0x1F326), ("CLOUD WITH RAIN", 0x1F327),
  ("CLOUD WITH SNOW", 0x1F328), ("CLOUD WITH LIGHTNING", 0x1F329),
  ("CLOUD WITH TORNADO", 0x1F32A), ("FOG", 0x1F32B), ("WIND BLOWING FACE", 0x1F32C),
  ("HOT DOG", 0x1F32D), ("TACO", 0x1F32E), ("BURRITO", 0x1F32F), ("CHESTNUT", 0x1F330),
  ("SEEDLING", 0x1F331), ("EVERGREEN TREE", 0x1F332), ("DECIDUOUS TREE", 0x1F333),
  ("PALM TREE", 0x1F334), ("CACTUS", 0x1F335), ("HOT PEPPER", 0x1F336), ("TULIP", 0x1F337),
  ("CHERRY BLOSSOM", 0x1F338), ("ROSE", 0x1F339), ("HIBISCUS", 0x1F33A), ("SUNFLOWER", 0x1F33B),
  ("BLOSSOM", 0x1F33C), ("EAR OF MAIZE", 0x1F33D), ("EAR OF RICE", 0x1F33E), ("HERB", 0x1F33F),
  ("FOUR LEAF CLOVER", 0x1F340), ("MAPLE LEAF", 0x1F341), ("FALLEN LEAF", 0x1F342),
  ("LEAF FLUTTERING IN WIND", 0x1F343), ("MUSHROOM", 0x1F344), ("TOMATO", 0x1F345),
  ("AUBERGINE", 0x1F346), ("GRAPES", 0x1F347), ("MELON", 0x1F348), ("WATERMELON", 0x1F349),
  ("TANGERINE", 0x1F34A), ("LEMON", 0x1F34B), ("BANANA", 0x1F34C), ("PINEAPPLE", 0x1F34D),
  ("RED APPLE", 0x1F34E), ("GREEN APPLE", 0x1F34F), ("PEAR", 0x1F350), ("PEACH", 0x1F351),
  ("CHERRIES", 0x1F352), ("STRAWBERRY", 0x1F353), ("HAMBURGER", 0x1F354),
  ("SLICE OF PIZZA", 0x1F355), ("MEAT ON BONE", 0x1F356), ("POULTRY LEG", 0x1F357),
  ("RICE CRACKER", 0x1F358), ("RICE BALL", 0x1F359), ("COOKED RICE", 0x1F35A),
  ("CURRY AND RICE", 0x1F35B), ("STEAMING BOWL", 0x1F35C), ("SPAGHETTI", 0x1F35D),
  ("BREAD", 0x1F35E), ("FRENCH FRIES", 0x1F35F), ("ROASTED SWEET POTATO", 0x1F360),
  ("DANGO", 0x1F361), ("ODEN", 0x1F362), ("SUSHI", 0x1F363), ("FRIED SHRIMP", 0x1F364),
  ("FISH CAKE WITH SWIRL DESIGN", 0x1F365), ("SOFT ICE CREAM", 0x1F366), ("SHAVED ICE", 0x1F367),
  ("ICE CREAM", 0x1F368), ("DOUGHNUT", 0x1F369), ("COOKIE", 0x1F36A), ("CHOCOLATE BAR", 0x1F36B),
  ("CANDY", 0x1F36C), ("LOLLIPOP", 0x1F36D), ("CUSTARD", 0x1F36E), ("HONEY POT", 0x1F36F),
  ("SHORTCAKE", 0x1F370), ("BENTO BOX", 0x1F371), ("POT OF FOOD", 0x1F372), ("COOKING", 0x1F373),
  ("FORK AND KNIFE", 0x1F374), ("TEACUP WITHOUT HANDLE", 0x1F375),
  ("SAKE BOTTLE AND CUP", 0x1F376), ("WINE GLASS", 0x1F377), ("COCKTAIL GLASS", 0x1F378),
  ("TROPICAL DRINK", 0x1F379), ("BEER MUG", 0x1F37A), ("CLINKING BEER MUGS", 0x1F37B),
  ("BABY BOTTLE", 0x1F37C), ("FORK AND KNIFE WITH PLATE", 0x1F37D),
  ("BOTTLE WITH POPPING CORK", 0x1F37E), ("POPCORN", 0x1F37F), ("RIBBON", 0x1F380),
  ("WRAPPED PRESENT", 0x1F381), ("BIRTHDAY CAKE", 0x1F382), ("JACK-O-LANTERN", 0x1F383),
  ("CHRISTMAS TREE", 0x1F384), ("FATHER CHRISTMAS", 0x1F385), ("FIREWORKS", 0x1F386),
  ("FIREWORK SPARKLER", 0x1F387), ("BALLOON", 0x1F388), ("PARTY POPPER", 0x1F389),
  ("CONFETTI BALL", 0x1F38A), ("TANABATA TREE", 0x1F38B), ("CROSSED FLAGS", 0x1F38C),
  ("PINE DECORATION", 0x1F38D), ("JAPANESE DOLLS", 0x1F38E), ("CARP STREAMER", 0x1F38F),
  ("WIND CHIME", 0x1F390), ("MOON VIEWING CEREMONY", 0x1F391), ("SCHOOL SATCHEL", 0x1F392),
  ("GRADUATION CAP", 0x1F393), ("HEART WITH TIP ON THE LEFT", 0x1F394),
  ("BOUQUET OF FLOWERS", 0x1F395), ("MILITARY MEDAL", 0x1F396), ("REMINDER RIBBON", 0x1F397),
  ("MUSICAL KEYBOARD WITH JACKS", 0x1F398), ("STUDIO MICROPHONE", 0x1F399),
  ("LEVEL SLIDER", 0x1F39A), ("CONTROL KNOBS", 0x1F39B),
  ("BEAMED ASCENDING MUSICAL NOTES", 0x1F39C), ("BEAMED DESCENDING MUSICAL NOTES", 0x1F39D),
  ("FILM FRAMES", 0x1F39E), ("ADMISSION TICKETS", 0x1F39F), ("CAROUSEL HORSE", 0x1F3A0),
  ("FERRIS WHEEL", 0x1F3A1), ("ROLLER COASTER", 0x1F3A2), ("FISHING POLE AND FISH", 0x1F3A3),
  ("MICROPHONE", 0x1F3A4), ("MOVIE CAMERA", 0x1F3A5), ("CINEMA", 0x1F3A6),
  ("HEADPHONE", 0x1F3A7), ("ARTIST PALETTE", 0x1F3A8), ("TOP HAT", 0x1F3A9),
  ("CIRCUS TENT", 0x1F3AA), ("TICKET", 0x1F3AB), ("CLAPPER BOARD", 0x1F3AC),
  ("PERFORMING ARTS", 0x1F3AD), ("VIDEO GAME", 0x1F3AE), ("DIRECT HIT", 0x1F3AF),
  ("SLOT MACHINE", 0x1F3B0), ("BILLIARDS", 0x1F3B1), ("GAME DIE", 0x1F3B2), ("BOWLING", 0x1F3B3),
  ("FLOWER PLAYING CARDS", 0x1F3B4), ("MUSICAL NOTE", 0x1F3B5),
  ("MULTIPLE MUSICAL NOTES", 0x1F3B6), ("SAXOPHONE", 0x1F3B7), ("GUITAR", 0x1F3B8),
  ("MUSICAL KEYBOARD", 0x1F3B9), ("TRUMPET", 0x1F3BA), ("VIOLIN", 0x1F3BB),
  ("MUSICAL SCORE", 0x1F3BC), ("RUNNING SHIRT WITH SASH", 0x1F3BD),
  ("TENNIS RACQUET AND BALL", 0x1F3BE), ("SKI AND SKI BOOT", 0x1F3BF),
  ("BASKETBALL AND HOOP", 0x1F3C0), ("CHEQUERED FLAG", 0x1F3C1), ("SNOWBOARDER", 0x1F3C2),
  ("RUNNER", 0x1F3C3), ("SURFER", 0x1F3C4), ("SPORTS MEDAL", 0x1F3C5), ("TROPHY", 0x1F3C6),
  ("HORSE RACING", 0x1F3C7), ("AMERICAN FOOTBALL", 0x1F3C8), ("RUGBY FOOTBALL", 0x1F3C9),
  ("SWIMMER", 0x1F3CA), ("WEIGHT LIFTER", 0x1F3CB), ("GOLFER", 0x1F3CC),
  ("RACING MOTORCYCLE", 0x1F3CD), ("RACING CAR", 0x1F3CE), ("CRICKET BAT AND BALL", 0x1F3CF),
  ("VOLLEYBALL", 0x1F3D0), ("FIELD HOCKEY STICK AND BALL", 0x1F3D1),
  ("ICE HOCKEY STICK AND PUCK", 0x1F3D2), ("TABLE TENNIS PADDLE AND BALL", 0x1F3D3),
  ("SNOW CAPPED MOUNTAIN", 0x1F3D4), ("CAMPING", 0x1F3D5), ("BEACH WITH UMBRELLA", 0x1F3D6),
  ("BUILDING CONSTRUCTION", 0x1F3D7), ("HOUSE BUILDINGS", 0x1F3D8), ("CITYSCAPE", 0x1F3D9),
  ("DERELICT HOUSE BUILDING", 0x1F3DA), ("CLASSICAL BUILDING", 0x1F3DB), ("DESERT", 0x1F3DC),
  ("DESERT ISLAND", 0x1F3DD), ("NATIONAL PARK", 0x1F3DE), ("STADIUM", 0x1F3DF),
  ("HOUSE BUILDING", 0x1F3E0), ("HOUSE WITH GARDEN", 0x1F3E1), ("OFFICE BUILDING", 0x1F3E2),
  ("JAPANESE POST OFFICE", 0x1F3E3), ("EUROPEAN POST OFFICE", 0x1F3E4), ("HOSPITAL", 0x1F3E5),
  ("BANK", 0x1F3E6), ("AUTOMATED TELLER MACHINE", 0x1F3E7), ("HOTEL", 0x1F3E8),
  ("LOVE HOTEL", 0x1F3E9), ("CONVENIENCE STORE", 0x1F3EA), ("SCHOOL", 0x1F3EB),
  ("DEPARTMENT STORE", 0x1F3EC), ("FACTORY", 0x1F3ED), ("IZAKAYA LANTERN", 0x1F3EE),
  ("JAPANESE CASTLE", 0x1F3EF), ("EUROPEAN CASTLE", 0x1F3F0), ("WHITE PENNANT", 0x1F3F1),
  ("BLACK PENNANT", 0x1F3F2), ("WAVING WHITE FLAG", 0x1F3F3), ("WAVING BLACK FLAG", 0x1F3F4),
  ("ROSETTE", 0x1F3F5), ("BLACK ROSETTE", 0x1F3F6), ("LABEL", 0x1F3F7),
  ("BADMINTON RACQUET AND SHUTTLECOCK", 0x1F3F8), ("BOW AND ARROW", 0x1F3F9),
  ("AMPHORA", 0x1F3FA), ("EMOJI MODIFIER FITZPATRICK TYPE-1-2", 0x1F3FB),
  ("EMOJI MODIFIER FITZPATRICK TYPE-3", 0x1F3FC), ("EMOJI MODIFIER FITZPATRICK TYPE-4", 0x1F3FD),
  ("EMOJI MODIFIER FITZPATRICK TYPE-5", 0x1F3FE), ("EMOJI MODIFIER FITZPATRICK TYPE-6", 0x1F3FF),
  ("RAT", 0x1F400), ("MOUSE", 0x1F401), ("OX", 0x1F402), ("WATER BUFFALO", 0x1F403),
  ("COW", 0x1F404), ("TIGER", 0x1F405), ("LEOPARD", 0x1F406), ("RABBIT", 0x1F407),
  ("CAT", 0x1F408), ("DRAGON", 0x1F409), ("CROCODILE", 0x1F40A), ("WHALE", 0x1F40B),
  ("SNAIL", 0x1F40C), ("SNAKE", 0x1F40D), ("HORSE", 0x1F40E), ("RAM", 0x1F40F),
  ("GOAT", 0x1F410), ("SHEEP", 0x1F411), ("MONKEY", 0x1F412), ("ROOSTER", 0x1F413),
  ("CHICKEN", 0x1F414), ("DOG", 0x1F415), ("PIG", 0x1F416), ("BOAR", 0x1F417),
  ("ELEPHANT", 0x1F418), ("OCTOPUS", 0x1F419), ("SPIRAL SHELL", 0x1F41A), ("BUG", 0x1F41B),
  ("ANT", 0x1F41C), ("HONEYBEE", 0x1F41D), ("LADY BEETLE", 0x1F41E), ("FISH", 0x1F41F),
  ("TROPICAL FISH", 0x1F420), ("BLOWFISH", 0x1F421), ("TURTLE", 0x1F422),
  ("HATCHING CHICK", 0x1F423), ("BABY CHICK", 0x1F424), ("FRONT-FACING BABY CHICK", 0x1F425),
  ("BIRD", 0x1F426), ("PENGUIN", 0x1F427), ("KOALA", 0x1F428), ("POODLE", 0x1F429),
  ("DROMEDARY CAMEL", 0x1F42A), ("BACTRIAN CAMEL", 0x1F42B), ("DOLPHIN", 0x1F42C),
  ("MOUSE FACE", 0x1F42D), ("COW FACE", 0x1F42E), ("TIGER FACE", 0x1F42F),
  ("RABBIT FACE", 0x1F430), ("CAT FACE", 0x1F431), ("DRAGON FACE", 0x1F432),
  ("SPOUTING WHALE", 0x1F433), ("HORSE FACE", 0x1F434), ("MONKEY FACE", 0x1F435),
  ("DOG FACE", 0x1F436), ("PIG FACE", 0x1F437), ("FROG FACE", 0x1F438),
  ("HAMSTER FACE", 0x1F439), ("WOLF FACE", 0x1F43A), ("BEAR FACE", 0x1F43B),
  ("PANDA FACE", 0x1F43C), ("PIG NOSE", 0x1F43D), ("PAW PRINTS", 0x1F43E), ("CHIPMUNK", 0x1F43F),
  ("EYES", 0x1F440), ("EYE", 0x1F441), ("EAR", 0x1F442), ("NOSE", 0x1F443), ("MOUTH", 0x1F444),
  ("TONGUE", 0x1F445), ("WHITE UP POINTING BACKHAND INDEX", 0x1F446),
  ("WHITE DOWN POINTING BACKHAND INDEX", 0x1F447),
  ("WHITE LEFT POINTING BACKHAND INDEX", 0x1F448),
  ("WHITE RIGHT POINTING BACKHAND INDEX", 0x1F449), ("FISTED HAND SIGN", 0x1F44A),
  ("WAVING HAND SIGN", 0x1F44B), ("OK HAND SIGN", 0x1F44C), ("THUMBS UP SIGN", 0x1F44D),
  ("THUMBS DOWN SIGN", 0x1F44E), ("CLAPPING HANDS SIGN", 0x1F44F), ("OPEN HANDS SIGN", 0x1F450),
  ("CROWN", 0x1F451), ("WOMANS HAT", 0x1F452), ("EYEGLASSES", 0x1F453), ("NECKTIE", 0x1F454),
  ("T-SHIRT", 0x1F455), ("JEANS", 0x1F456), ("DRESS", 0x1F457), ("KIMONO", 0x1F458),
  ("BIKINI", 0x1F459), ("WOMANS CLOTHES", 0x1F45A), ("PURSE", 0x1F45B), ("HANDBAG", 0x1F45C),
  ("POUCH", 0x1F45D), ("MANS SHOE", 0x1F45E), ("ATHLETIC SHOE", 0x1F45F),
  ("HIGH-HEELED SHOE", 0x1F460), ("WOMANS SANDAL", 0x1F461), ("WOMANS BOOTS", 0x1F462),
  ("FOOTPRINTS", 0x1F463), ("BUST IN SILHOUETTE", 0x1F464), ("BUSTS IN SILHOUETTE", 0x1F465),
  ("BOY", 0x1F466), ("GIRL", 0x1F467), ("MAN", 0x1F468), ("WOMAN", 0x1F469), ("FAMILY", 0x1F46A),
  ("MAN AND WOMAN HOLDING HANDS", 0x1F46B), ("TWO MEN HOLDING HANDS", 0x1F46C),
  ("TWO WOMEN HOLDING HANDS", 0x1F46D), ("POLICE OFFICER", 0x1F46E),
  ("WOMAN WITH BUNNY EARS", 0x1F46F), ("BRIDE WITH VEIL", 0x1F470),
  ("PERSON WITH BLOND HAIR", 0x1F471), ("MAN WITH GUA PI MAO", 0x1F472),
  ("MAN WITH TURBAN", 0x1F473), ("OLDER MAN", 0x1F474), ("OLDER WOMAN", 0x1F475),
  ("BABY", 0x1F476), ("CONSTRUCTION WORKER", 0x1F477), ("PRINCESS", 0x1F478),
  ("JAPANESE OGRE", 0x1F479), ("JAPANESE GOBLIN", 0x1F47A), ("GHOST", 0x1F47B),
  ("BABY ANGEL", 0x1F47C), ("EXTRATERRESTRIAL ALIEN", 0x1F47D), ("ALIEN MONSTER", 0x1F47E),
  ("IMP", 0x1F47F), ("SKULL", 0x1F480), ("INFORMATION DESK PERSON", 0x1F481),
  ("GUARDSMAN", 0x1F482), ("DANCER", 0x1F483), ("LIPSTICK", 0x1F484), ("NAIL POLISH", 0x1F485),
  ("FACE MASSAGE", 0x1F486), ("HAIRCUT", 0x1F487), ("BARBER POLE", 0x1F488),
  ("SYRINGE", 0x1F489), ("PILL", 0x1F48A), ("KISS MARK", 0x1F48B), ("LOVE LETTER", 0x1F48C),
  ("RING", 0x1F48D), ("GEM STONE", 0x1F48E), ("KISS", 0x1F48F), ("BOUQUET", 0x1F490),
  ("COUPLE WITH HEART", 0x1F491), ("WEDDING", 0x1F492), ("BEATING HEART", 0x1F493),
  ("BROKEN HEART", 0x1F494), ("TWO HEARTS", 0x1F495), ("SPARKLING HEART", 0x1F496),
  ("GROWING HEART", 0x1F497), ("HEART WITH ARROW", 0x1F498), ("BLUE HEART", 0x1F499),
  ("GREEN HEART", 0x1F49A), ("YELLOW HEART", 0x1F49B), ("PURPLE HEART", 0x1F49C),
  ("HEART WITH RIBBON", 0x1F49D), ("REVOLVING HEARTS", 0x1F49E), ("HEART DECORATION", 0x1F49F),
  ("DIAMOND SHAPE WITH A DOT INSIDE", 0x1F4A0), ("ELECTRIC LIGHT BULB", 0x1F4A1),
  ("ANGER SYMBOL", 0x1F4A2), ("BOMB", 0x1F4A3), ("SLEEPING SYMBOL", 0x1F4A4),
  ("COLLISION SYMBOL", 0x1F4A5), ("SPLASHING SWEAT SYMBOL", 0x1F4A6), ("DROPLET", 0x1F4A7),
  ("DASH SYMBOL", 0x1F4A8), ("PILE OF POO", 0x1F4A9), ("FLEXED BICEPS", 0x1F4AA),
  ("DIZZY SYMBOL", 0x1F4AB), ("SPEECH BALLOON", 0x1F4AC), ("THOUGHT BALLOON", 0x1F4AD),
  ("WHITE FLOWER", 0x1F4AE), ("HUNDRED POINTS SYMBOL", 0x1F4AF), ("MONEY BAG", 0x1F4B0),
  ("CURRENCY EXCHANGE", 0x1F4B1), ("HEAVY DOLLAR SIGN", 0x1F4B2), ("CREDIT CARD", 0x1F4B3),
  ("BANKNOTE WITH YEN SIGN", 0x1F4B4), ("BANKNOTE WITH DOLLAR SIGN", 0x1F4B5),
  ("BANKNOTE WITH EURO SIGN", 0x1F4B6), ("BANKNOTE WITH POUND SIGN", 0x1F4B7),
  ("MONEY WITH WINGS", 0x1F4B8), ("CHART WITH UPWARDS TREND AND YEN SIGN", 0x1F4B9),
  ("SEAT", 0x1F4BA), ("PERSONAL COMPUTER", 0x1F4BB), ("BRIEFCASE", 0x1F4BC),
  ("MINIDISC", 0x1F4BD), ("FLOPPY DISK", 0x1F4BE), ("OPTICAL DISC", 0x1F4BF), ("DVD", 0x1F4C0),
  ("FILE FOLDER", 0x1F4C1), ("OPEN FILE FOLDER", 0x1F4C2), ("PAGE WITH CURL", 0x1F4C3),
  ("PAGE FACING UP", 0x1F4C4), ("CALENDAR", 0x1F4C5), ("TEAR-OFF CALENDAR", 0x1F4C6),
  ("CARD INDEX", 0x1F4C7), ("CHART WITH UPWARDS TREND", 0x1F4C8),
  ("CHART WITH DOWNWARDS TREND", 0x1F4C9), ("BAR CHART", 0x1F4CA), ("CLIPBOARD", 0x1F4CB),
  ("PUSHPIN", 0x1F4CC), ("ROUND PUSHPIN", 0x1F4CD), ("PAPERCLIP", 0x1F4CE),
  ("STRAIGHT RULER", 0x1F4CF), ("TRIANGULAR RULER", 0x1F4D0), ("BOOKMARK TABS", 0x1F4D1),
  ("LEDGER", 0x1F4D2), ("NOTEBOOK", 0x1F4D3), ("NOTEBOOK WITH DECORATIVE COVER", 0x1F4D4),
  ("CLOSED BOOK", 0x1F4D5), ("OPEN BOOK", 0x1F4D6), ("GREEN BOOK", 0x1F4D7),
  ("BLUE BOOK", 0x1F4D8), ("ORANGE BOOK", 0x1F4D9), ("BOOKS", 0x1F4DA), ("NAME BADGE", 0x1F4DB),
  ("SCROLL", 0x1F4DC), ("MEMO", 0x1F4DD), ("TELEPHONE RECEIVER", 0x1F4DE), ("PAGER", 0x1F4DF),
  ("FAX MACHINE", 0x1F4E0), ("SATELLITE ANTENNA", 0x1F4E1),
  ("PUBLIC ADDRESS LOUDSPEAKER", 0x1F4E2), ("CHEERING MEGAPHONE", 0x1F4E3),
  ("OUTBOX TRAY", 0x1F4E4), ("INBOX TRAY", 0x1F4E5), ("PACKAGE", 0x1F4E6),
  ("E-MAIL SYMBOL", 0x1F4E7), ("INCOMING ENVELOPE", 0x1F4E8),
  ("ENVELOPE WITH DOWNWARDS ARROW ABOVE", 0x1F4E9),
  ("CLOSED MAILBOX WITH LOWERED FLAG", 0x1F4EA), ("CLOSED MAILBOX WITH RAISED FLAG", 0x1F4EB),
  ("OPEN MAILBOX WITH RAISED FLAG", 0x1F4EC), ("OPEN MAILBOX WITH LOWERED FLAG", 0x1F4ED),
  ("POSTBOX", 0x1F4EE), ("POSTAL HORN", 0x1F4EF), ("NEWSPAPER", 0x1F4F0),
  ("MOBILE PHONE", 0x1F4F1), ("MOBILE PHONE WITH RIGHTWARDS ARROW AT LEFT", 0x1F4F2),
  ("VIBRATION MODE", 0x1F4F3), ("MOBILE PHONE OFF", 0x1F4F4), ("NO MOBILE PHONES", 0x1F4F5),
  ("ANTENNA WITH BARS", 0x1F4F6), ("CAMERA", 0x1F4F7), ("CAMERA WITH FLASH", 0x1F4F8),
  ("VIDEO CAMERA", 0x1F4F9), ("TELEVISION", 0x1F4FA), ("RADIO", 0x1F4FB),
  ("VIDEOCASSETTE", 0x1F4FC), ("FILM PROJECTOR", 0x1F4FD), ("PORTABLE STEREO", 0x1F4FE),
  ("PRAYER BEADS", 0x1F4FF), ("TWISTED RIGHTWARDS ARROWS", 0x1F500),
  ("CLOCKWISE RIGHTWARDS AND LEFTWARDS OPEN CIRCLE ARROWS", 0x1F501),
  ("CLOCKWISE RIGHTWARDS AND LEFTWARDS OPEN CIRCLE ARROWS WITH CIRCLED ONE OVERLAY", 0x1F502),
  ("CLOCKWISE DOWNWARDS AND UPWARDS OPEN CIRCLE ARROWS", 0x1F503),
  ("ANTICLOCKWISE DOWNWARDS AND UPWARDS OPEN CIRCLE ARROWS", 0x1F504),
  ("LOW BRIGHTNESS SYMBOL", 0x1F505), ("HIGH BRIGHTNESS SYMBOL", 0x1F506),
  ("SPEAKER WITH CANCELLATION STROKE", 0x1F507), ("SPEAKER", 0x1F508),
  ("SPEAKER WITH ONE SOUND WAVE", 0x1F509), ("SPEAKER WITH THREE SOUND WAVES", 0x1F50A),
  ("BATTERY", 0x1F50B), ("ELECTRIC PLUG", 0x1F50C), ("LEFT-POINTING MAGNIFYING GLASS", 0x1F50D),
  ("RIGHT-POINTING MAGNIFYING GLASS", 0x1F50E), ("LOCK WITH INK PEN", 0x1F50F),
  ("CLOSED LOCK WITH KEY", 0x1F510), ("KEY", 0x1F511), ("LOCK", 0x1F512), ("OPEN LOCK", 0x1F513),
  ("BELL", 0x1F514), ("BELL WITH CANCELLATION STROKE", 0x1F515), ("BOOKMARK", 0x1F516),
  ("LINK SYMBOL", 0x1F517), ("RADIO BUTTON", 0x1F518),
  ("BACK WITH LEFTWARDS ARROW ABOVE", 0x1F519), ("END WITH LEFTWARDS ARROW ABOVE", 0x1F51A),
  ("ON WITH EXCLAMATION MARK WITH LEFT RIGHT ARROW ABOVE", 0x1F51B),
  ("SOON WITH RIGHTWARDS ARROW ABOVE", 0x1F51C), ("TOP WITH UPWARDS ARROW ABOVE", 0x1F51D),
  ("NO ONE UNDER EIGHTEEN SYMBOL", 0x1F51E), ("KEYCAP TEN", 0x1F51F),
  ("INPUT SYMBOL FOR LATIN CAPITAL LETTERS", 0x1F520),
  ("INPUT SYMBOL FOR LATIN SMALL LETTERS", 0x1F521), ("INPUT SYMBOL FOR NUMBERS", 0x1F522),
  ("INPUT SYMBOL FOR SYMBOLS", 0x1F523), ("INPUT SYMBOL FOR LATIN LETTERS", 0x1F524),
  ("FIRE", 0x1F525), ("ELECTRIC TORCH", 0x1F526), ("WRENCH", 0x1F527), ("HAMMER", 0x1F528),
  ("NUT AND BOLT", 0x1F529), ("HOCHO", 0x1F52A), ("PISTOL", 0x1F52B), ("MICROSCOPE", 0x1F52C),
  ("TELESCOPE", 0x1F52D), ("CRYSTAL BALL", 0x1F52E),
  ("SIX POINTED STAR WITH MIDDLE DOT", 0x1F52F), ("JAPANESE SYMBOL FOR BEGINNER", 0x1F530),
  ("TRIDENT EMBLEM", 0x1F531), ("BLACK SQUARE BUTTON", 0x1F532),
  ("WHITE SQUARE BUTTON", 0x1F533), ("LARGE RED CIRCLE", 0x1F534),
  ("LARGE BLUE CIRCLE", 0x1F535), ("LARGE ORANGE DIAMOND", 0x1F536),
  ("LARGE BLUE DIAMOND", 0x1F537), ("SMALL ORANGE DIAMOND", 0x1F538),
  ("SMALL BLUE DIAMOND", 0x1F539), ("UP-POINTING RED TRIANGLE", 0x1F53A),
  ("DOWN-POINTING RED TRIANGLE", 0x1F53B), ("UP-POINTING SMALL RED TRIANGLE", 0x1F53C),
  ("DOWN-POINTING SMALL RED TRIANGLE", 0x1F53D), ("LOWER RIGHT SHADOWED WHITE CIRCLE", 0x1F53E),
  ("UPPER RIGHT SHADOWED WHITE CIRCLE", 0x1F53F), ("CIRCLED CROSS POMMEE", 0x1F540),
  ("CROSS POMMEE WITH HALF-CIRCLE BELOW", 0x1F541), ("CROSS POMMEE", 0x1F542),
  ("NOTCHED LEFT SEMICIRCLE WITH THREE DOTS", 0x1F543),
  ("NOTCHED RIGHT SEMICIRCLE WITH THREE DOTS", 0x1F544), ("SYMBOL FOR MARKS CHAPTER", 0x1F545),
  ("WHITE LATIN CROSS", 0x1F546), ("HEAVY LATIN CROSS", 0x1F547), ("CELTIC CROSS", 0x1F548),
  ("OM SYMBOL", 0x1F549), ("DOVE OF PEACE", 0x1F54A), ("KAABA", 0x1F54B), ("MOSQUE", 0x1F54C),
  ("SYNAGOGUE", 0x1F54D), ("MENORAH WITH NINE BRANCHES", 0x1F54E), ("BOWL OF HYGIEIA", 0x1F54F),
  ("CLOCK FACE ONE OCLOCK", 0x1F550), ("CLOCK FACE TWO OCLOCK", 0x1F551),
  ("CLOCK FACE THREE OCLOCK", 0x1F552), ("CLOCK FACE FOUR OCLOCK", 0x1F553),
  ("CLOCK FACE FIVE OCLOCK", 0x1F554), ("CLOCK FACE SIX OCLOCK", 0x1F555),
  ("CLOCK FACE SEVEN OCLOCK", 0x1F556), ("CLOCK FACE EIGHT OCLOCK", 0x1F557),
  ("CLOCK FACE NINE OCLOCK", 0x1F558), ("CLOCK FACE TEN OCLOCK", 0x1F559),
  ("CLOCK FACE ELEVEN OCLOCK", 0x1F55A), ("CLOCK FACE TWELVE OCLOCK", 0x1F55B),
  ("CLOCK FACE ONE-THIRTY", 0x1F55C), ("CLOCK FACE TWO-THIRTY", 0x1F55D),
  ("CLOCK FACE THREE-THIRTY", 0x1F55E), ("CLOCK FACE FOUR-THIRTY", 0x1F55F),
  ("CLOCK FACE FIVE-THIRTY", 0x1F560), ("CLOCK FACE SIX-THIRTY", 0x1F561),
  ("CLOCK FACE SEVEN-THIRTY", 0x1F562), ("CLOCK FACE EIGHT-THIRTY", 0x1F563),
  ("CLOCK FACE NINE-THIRTY", 0x1F564), ("CLOCK FACE TEN-THIRTY", 0x1F565),
  ("CLOCK FACE ELEVEN-THIRTY", 0x1F566), ("CLOCK FACE TWELVE-THIRTY", 0x1F567),
  ("RIGHT SPEAKER", 0x1F568), ("RIGHT SPEAKER WITH ONE SOUND WAVE", 0x1F569),
  ("RIGHT SPEAKER WITH THREE SOUND WAVES", 0x1F56A), ("BULLHORN", 0x1F56B),
  ("BULLHORN WITH SOUND WAVES", 0x1F56C), ("RINGING BELL", 0x1F56D), ("BOOK", 0x1F56E),
  ("CANDLE", 0x1F56F), ("MANTELPIECE CLOCK", 0x1F570), ("BLACK SKULL AND CROSSBONES", 0x1F571),
  ("NO PIRACY", 0x1F572), ("HOLE", 0x1F573), ("MAN IN BUSINESS SUIT LEVITATING", 0x1F574),
  ("SLEUTH OR SPY", 0x1F575), ("DARK SUNGLASSES", 0x1F576), ("SPIDER", 0x1F577),
  ("SPIDER WEB", 0x1F578), ("JOYSTICK", 0x1F579), ("MAN DANCING", 0x1F57A),
  ("LEFT HAND TELEPHONE RECEIVER", 0x1F57B), ("TELEPHONE RECEIVER WITH PAGE", 0x1F57C),
  ("RIGHT HAND TELEPHONE RECEIVER", 0x1F57D), ("WHITE TOUCHTONE TELEPHONE", 0x1F57E),
  ("BLACK TOUCHTONE TELEPHONE", 0x1F57F), ("TELEPHONE ON TOP OF MODEM", 0x1F580),
  ("CLAMSHELL MOBILE PHONE", 0x1F581), ("BACK OF ENVELOPE", 0x1F582),
  ("STAMPED ENVELOPE", 0x1F583), ("ENVELOPE WITH LIGHTNING", 0x1F584),
  ("FLYING ENVELOPE", 0x1F585), ("PEN OVER STAMPED ENVELOPE", 0x1F586),
  ("LINKED PAPERCLIPS", 0x1F587), ("BLACK PUSHPIN", 0x1F588), ("LOWER LEFT PENCIL", 0x1F589),
  ("LOWER LEFT BALLPOINT PEN", 0x1F58A), ("LOWER LEFT FOUNTAIN PEN", 0x1F58B),
  ("LOWER LEFT PAINTBRUSH", 0x1F58C), ("LOWER LEFT CRAYON", 0x1F58D),
  ("LEFT WRITING HAND", 0x1F58E), ("TURNED OK HAND SIGN", 0x1F58F),
  ("RAISED HAND WITH FINGERS SPLAYED", 0x1F590),
  ("REVERSED RAISED HAND WITH FINGERS SPLAYED", 0x1F591), ("REVERSED THUMBS UP SIGN", 0x1F592),
  ("REVERSED THUMBS DOWN SIGN", 0x1F593), ("REVERSED VICTORY HAND", 0x1F594),
  ("REVERSED HAND WITH MIDDLE FINGER EXTENDED", 0x1F595),
  ("RAISED HAND WITH PART BETWEEN MIDDLE AND RING FINGERS", 0x1F596),
  ("WHITE DOWN POINTING LEFT HAND INDEX", 0x1F597),
  ("SIDEWAYS WHITE LEFT POINTING INDEX", 0x1F598),
  ("SIDEWAYS WHITE RIGHT POINTING INDEX", 0x1F599),
  ("SIDEWAYS BLACK LEFT POINTING INDEX", 0x1F59A),
  ("SIDEWAYS BLACK RIGHT POINTING INDEX", 0x1F59B),
  ("BLACK LEFT POINTING BACKHAND INDEX", 0x1F59C),
  ("BLACK RIGHT POINTING BACKHAND INDEX", 0x1F59D),
  ("SIDEWAYS WHITE UP POINTING INDEX", 0x1F59E), ("SIDEWAYS WHITE DOWN POINTING INDEX", 0x1F59F),
  ("SIDEWAYS BLACK UP POINTING INDEX", 0x1F5A0), ("SIDEWAYS BLACK DOWN POINTING INDEX", 0x1F5A1),
  ("BLACK UP POINTING BACKHAND INDEX", 0x1F5A2), ("BLACK DOWN POINTING BACKHAND INDEX", 0x1F5A3),
  ("BLACK HEART", 0x1F5A4), ("DESKTOP COMPUTER", 0x1F5A5), ("KEYBOARD AND MOUSE", 0x1F5A6),
  ("THREE NETWORKED COMPUTERS", 0x1F5A7), ("PRINTER", 0x1F5A8), ("POCKET CALCULATOR", 0x1F5A9),
  ("BLACK HARD SHELL FLOPPY DISK", 0x1F5AA), ("WHITE HARD SHELL FLOPPY DISK", 0x1F5AB),
  ("SOFT SHELL FLOPPY DISK", 0x1F5AC), ("TAPE CARTRIDGE", 0x1F5AD), ("WIRED KEYBOARD", 0x1F5AE),
  ("ONE BUTTON MOUSE", 0x1F5AF), ("TWO BUTTON MOUSE", 0x1F5B0), ("THREE BUTTON MOUSE", 0x1F5B1),
  ("TRACKBALL", 0x1F5B2), ("OLD PERSONAL COMPUTER", 0x1F5B3), ("HARD DISK", 0x1F5B4),
  ("SCREEN", 0x1F5B5), ("PRINTER ICON", 0x1F5B6), ("FAX ICON", 0x1F5B7),
  ("OPTICAL DISC ICON", 0x1F5B8), ("DOCUMENT WITH TEXT", 0x1F5B9),
  ("DOCUMENT WITH TEXT AND PICTURE", 0x1F5BA), ("DOCUMENT WITH PICTURE", 0x1F5BB),
  ("FRAME WITH PICTURE", 0x1F5BC), ("FRAME WITH TILES", 0x1F5BD), ("FRAME WITH AN X", 0x1F5BE),
  ("BLACK FOLDER", 0x1F5BF), ("FOLDER", 0x1F5C0), ("OPEN FOLDER", 0x1F5C1),
  ("CARD INDEX DIVIDERS", 0x1F5C2), ("CARD FILE BOX", 0x1F5C3), ("FILE CABINET", 0x1F5C4),
  ("EMPTY NOTE", 0x1F5C5), ("EMPTY NOTE PAGE", 0x1F5C6), ("EMPTY NOTE PAD", 0x1F5C7),
  ("NOTE", 0x1F5C8), ("NOTE PAGE", 0x1F5C9), ("NOTE PAD", 0x1F5CA), ("EMPTY DOCUMENT", 0x1F5CB),
  ("EMPTY PAGE", 0x1F5CC), ("EMPTY PAGES", 0x1F5CD), ("DOCUMENT", 0x1F5CE), ("PAGE", 0x1F5CF),
  ("PAGES", 0x1F5D0), ("WASTEBASKET", 0x1F5D1), ("SPIRAL NOTE PAD", 0x1F5D2),
  ("SPIRAL CALENDAR PAD", 0x1F5D3), ("DESKTOP WINDOW", 0x1F5D4), ("MINIMIZE", 0x1F5D5),
  ("MAXIMIZE", 0x1F5D6), ("OVERLAP", 0x1F5D7),
  ("CLOCKWISE RIGHT AND LEFT SEMICIRCLE ARROWS", 0x1F5D8), ("CANCELLATION X", 0x1F5D9),
  ("INCREASE FONT SIZE SYMBOL", 0x1F5DA), ("DECREASE FONT SIZE SYMBOL", 0x1F5DB),
  ("COMPRESSION", 0x1F5DC), ("OLD KEY", 0x1F5DD), ("ROLLED-UP NEWSPAPER", 0x1F5DE),
  ("PAGE WITH CIRCLED TEXT", 0x1F5DF), ("STOCK CHART", 0x1F5E0), ("DAGGER KNIFE", 0x1F5E1),
  ("LIPS", 0x1F5E2), ("SPEAKING HEAD IN SILHOUETTE", 0x1F5E3), ("THREE RAYS ABOVE", 0x1F5E4),
  ("THREE RAYS BELOW", 0x1F5E5), ("THREE RAYS LEFT", 0x1F5E6), ("THREE RAYS RIGHT", 0x1F5E7),
  ("LEFT SPEECH BUBBLE", 0x1F5E8), ("RIGHT SPEECH BUBBLE", 0x1F5E9),
  ("TWO SPEECH BUBBLES", 0x1F5EA), ("THREE SPEECH BUBBLES", 0x1F5EB),
  ("LEFT THOUGHT BUBBLE", 0x1F5EC), ("RIGHT THOUGHT BUBBLE", 0x1F5ED),
  ("LEFT ANGER BUBBLE", 0x1F5EE), ("RIGHT ANGER BUBBLE", 0x1F5EF), ("MOOD BUBBLE", 0x1F5F0),
  ("LIGHTNING MOOD BUBBLE", 0x1F5F1), ("LIGHTNING MOOD", 0x1F5F2),
  ("BALLOT BOX WITH BALLOT", 0x1F5F3), ("BALLOT SCRIPT X", 0x1F5F4),
  ("BALLOT BOX WITH SCRIPT X", 0x1F5F5), ("BALLOT BOLD SCRIPT X", 0x1F5F6),
  ("BALLOT BOX WITH BOLD SCRIPT X", 0x1F5F7), ("LIGHT CHECK MARK", 0x1F5F8),
  ("BALLOT BOX WITH BOLD CHECK", 0x1F5F9), ("WORLD MAP", 0x1F5FA), ("MOUNT FUJI", 0x1F5FB),
  ("TOKYO TOWER", 0x1F5FC), ("STATUE OF LIBERTY", 0x1F5FD), ("SILHOUETTE OF JAPAN", 0x1F5FE),
  ("MOYAI", 0x1F5FF), ("GRINNING FACE", 0x1F600), ("GRINNING FACE WITH SMILING EYES", 0x1F601),
  ("FACE WITH TEARS OF JOY", 0x1F602), ("SMILING FACE WITH OPEN MOUTH", 0x1F603),
  ("SMILING FACE WITH OPEN MOUTH AND SMILING EYES", 0x1F604),
  ("SMILING FACE WITH OPEN MOUTH AND COLD SWEAT", 0x1F605),
  ("SMILING FACE WITH OPEN MOUTH AND TIGHTLY-CLOSED EYES", 0x1F606),
  ("SMILING FACE WITH HALO", 0x1F607), ("SMILING FACE WITH HORNS", 0x1F608),
  ("WINKING FACE", 0x1F609), ("SMILING FACE WITH SMILING EYES", 0x1F60A),
  ("FACE SAVOURING DELICIOUS FOOD", 0x1F60B), ("RELIEVED FACE", 0x1F60C),
  ("SMILING FACE WITH HEART-SHAPED EYES", 0x1F60D), ("SMILING FACE WITH SUNGLASSES", 0x1F60E),
  ("SMIRKING FACE", 0x1F60F), ("NEUTRAL FACE", 0x1F610), ("EXPRESSIONLESS FACE", 0x1F611),
  ("UNAMUSED FACE", 0x1F612), ("FACE WITH COLD SWEAT", 0x1F613), ("PENSIVE FACE", 0x1F614),
  ("CONFUSED FACE", 0x1F615), ("CONFOUNDED FACE", 0x1F616), ("KISSING FACE", 0x1F617),
  ("FACE THROWING A KISS", 0x1F618), ("KISSING FACE WITH SMILING EYES", 0x1F619),
  ("KISSING FACE WITH CLOSED EYES", 0x1F61A), ("FACE WITH STUCK-OUT TONGUE", 0x1F61B),
  ("FACE WITH STUCK-OUT TONGUE AND WINKING EYE", 0x1F61C),
  ("FACE WITH STUCK-OUT TONGUE AND TIGHTLY-CLOSED EYES", 0x1F61D),
  ("DISAPPOINTED FACE", 0x1F61E), ("WORRIED FACE", 0x1F61F), ("ANGRY FACE", 0x1F620),
  ("POUTING FACE", 0x1F621), ("CRYING FACE", 0x1F622), ("PERSEVERING FACE", 0x1F623),
  ("FACE WITH LOOK OF TRIUMPH", 0x1F624), ("DISAPPOINTED BUT RELIEVED FACE", 0x1F625),
  ("FROWNING FACE WITH OPEN MOUTH", 0x1F626), ("ANGUISHED FACE", 0x1F627),
  ("FEARFUL FACE", 0x1F628), ("WEARY FACE", 0x1F629), ("SLEEPY FACE", 0x1F62A),
  ("TIRED FACE", 0x1F62B), ("GRIMACING FACE", 0x1F62C), ("LOUDLY CRYING FACE", 0x1F62D),
  ("FACE WITH OPEN MOUTH", 0x1F62E), ("HUSHED FACE", 0x1F62F),
  ("FACE WITH OPEN MOUTH AND COLD SWEAT", 0x1F630), ("FACE SCREAMING IN FEAR", 0x1F631),
  ("ASTONISHED FACE", 0x1F632), ("FLUSHED FACE", 0x1F633), ("SLEEPING FACE", 0x1F634),
  ("DIZZY FACE", 0x1F635), ("FACE WITHOUT MOUTH", 0x1F636), ("FACE WITH MEDICAL MASK", 0x1F637),
  ("GRINNING CAT FACE WITH SMILING EYES", 0x1F638), ("CAT FACE WITH TEARS OF JOY", 0x1F639),
  ("SMILING CAT FACE WITH OPEN MOUTH", 0x1F63A),
  ("SMILING CAT FACE WITH HEART-SHAPED EYES", 0x1F63B), ("CAT FACE WITH WRY SMILE", 0x1F63C),
  ("KISSING CAT FACE WITH CLOSED EYES", 0x1F63D), ("POUTING CAT FACE", 0x1F63E),
  ("CRYING CAT FACE", 0x1F63F), ("WEARY CAT FACE", 0x1F640), ("SLIGHTLY FROWNING FACE", 0x1F641),
  ("SLIGHTLY SMILING FACE", 0x1F642), ("UPSIDE-DOWN FACE", 0x1F643),
  ("FACE WITH ROLLING EYES", 0x1F644), ("FACE WITH NO GOOD GESTURE", 0x1F645),
  ("FACE WITH OK GESTURE", 0x1F646), ("PERSON BOWING DEEPLY", 0x1F647),
  ("SEE-NO-EVIL MONKEY", 0x1F648), ("HEAR-NO-EVIL MONKEY", 0x1F649),
  ("SPEAK-NO-EVIL MONKEY", 0x1F64A), ("HAPPY PERSON RAISING ONE HAND", 0x1F64B),
  ("PERSON RAISING BOTH HANDS IN CELEBRATION", 0x1F64C), ("PERSON FROWNING", 0x1F64D),
  ("PERSON WITH POUTING FACE", 0x1F64E), ("PERSON WITH FOLDED HANDS", 0x1F64F),
  ("NORTH WEST POINTING LEAF", 0x1F650), ("SOUTH WEST POINTING LEAF", 0x1F651),
  ("NORTH EAST POINTING LEAF", 0x1F652), ("SOUTH EAST POINTING LEAF", 0x1F653),
  ("TURNED NORTH WEST POINTING LEAF", 0x1F654), ("TURNED SOUTH WEST POINTING LEAF", 0x1F655),
  ("TURNED NORTH EAST POINTING LEAF", 0x1F656), ("TURNED SOUTH EAST POINTING LEAF", 0x1F657),
  ("NORTH WEST POINTING VINE LEAF", 0x1F658), ("SOUTH WEST POINTING VINE LEAF", 0x1F659),
  ("NORTH EAST POINTING VINE LEAF", 0x1F65A), ("SOUTH EAST POINTING VINE LEAF", 0x1F65B),
  ("HEAVY NORTH WEST POINTING VINE LEAF", 0x1F65C),
  ("HEAVY SOUTH WEST POINTING VINE LEAF", 0x1F65D),
  ("HEAVY NORTH EAST POINTING VINE LEAF", 0x1F65E),
  ("HEAVY SOUTH EAST POINTING VINE LEAF", 0x1F65F), ("NORTH WEST POINTING BUD", 0x1F660),
  ("SOUTH WEST POINTING BUD", 0x1F661), ("NORTH EAST POINTING BUD", 0x1F662),
  ("SOUTH EAST POINTING BUD", 0x1F663), ("HEAVY NORTH WEST POINTING BUD", 0x1F664),
  ("HEAVY SOUTH WEST POINTING BUD", 0x1F665), ("HEAVY NORTH EAST POINTING BUD", 0x1F666),
  ("HEAVY SOUTH EAST POINTING BUD", 0x1F667), ("HOLLOW QUILT SQUARE ORNAMENT", 0x1F668),
  ("HOLLOW QUILT SQUARE ORNAMENT IN BLACK SQUARE", 0x1F669),
  ("SOLID QUILT SQUARE ORNAMENT", 0x1F66A),
  ("SOLID QUILT SQUARE ORNAMENT IN BLACK SQUARE", 0x1F66B), ("LEFTWARDS ROCKET", 0x1F66C),
  ("UPWARDS ROCKET", 0x1F66D), ("RIGHTWARDS ROCKET", 0x1F66E), ("DOWNWARDS ROCKET", 0x1F66F),
  ("SCRIPT LIGATURE ET ORNAMENT", 0x1F670), ("HEAVY SCRIPT LIGATURE ET ORNAMENT", 0x1F671),
  ("LIGATURE OPEN ET ORNAMENT", 0x1F672), ("HEAVY LIGATURE OPEN ET ORNAMENT", 0x1F673),
  ("HEAVY AMPERSAND ORNAMENT", 0x1F674), ("SWASH AMPERSAND ORNAMENT", 0x1F675),
  ("SANS-SERIF HEAVY DOUBLE TURNED COMMA QUOTATION MARK ORNAMENT", 0x1F676),
  ("SANS-SERIF HEAVY DOUBLE COMMA QUOTATION MARK ORNAMENT", 0x1F677),
  ("SANS-SERIF HEAVY LOW DOUBLE COMMA QUOTATION MARK ORNAMENT", 0x1F678),
  ("HEAVY INTERROBANG ORNAMENT", 0x1F679), ("SANS-SERIF INTERROBANG ORNAMENT", 0x1F67A),
  ("HEAVY SANS-SERIF INTERROBANG ORNAMENT", 0x1F67B), ("VERY HEAVY SOLIDUS", 0x1F67C),
  ("VERY HEAVY REVERSE SOLIDUS", 0x1F67D), ("CHECKER BOARD", 0x1F67E),
  ("REVERSE CHECKER BOARD", 0x1F67F), ("ROCKET", 0x1F680), ("HELICOPTER", 0x1F681),
  ("STEAM LOCOMOTIVE", 0x1F682), ("RAILWAY CAR", 0x1F683), ("HIGH-SPEED TRAIN", 0x1F684),
  ("HIGH-SPEED TRAIN WITH BULLET NOSE", 0x1F685), ("TRAIN", 0x1F686), ("METRO", 0x1F687),
  ("LIGHT RAIL", 0x1F688), ("STATION", 0x1F689), ("TRAM", 0x1F68A), ("TRAM CAR", 0x1F68B),
  ("BUS", 0x1F68C), ("ONCOMING BUS", 0x1F68D), ("TROLLEYBUS", 0x1F68E), ("BUS STOP", 0x1F68F),
  ("MINIBUS", 0x1F690), ("AMBULANCE", 0x1F691), ("FIRE ENGINE", 0x1F692),
  ("POLICE CAR", 0x1F693), ("ONCOMING POLICE CAR", 0x1F694), ("TAXI", 0x1F695),
  ("ONCOMING TAXI", 0x1F696), ("AUTOMOBILE", 0x1F697), ("ONCOMING AUTOMOBILE", 0x1F698),
  ("RECREATIONAL VEHICLE", 0x1F699), ("DELIVERY TRUCK", 0x1F69A), ("ARTICULATED LORRY", 0x1F69B),
  ("TRACTOR", 0x1F69C), ("MONORAIL", 0x1F69D), ("MOUNTAIN RAILWAY", 0x1F69E),
  ("SUSPENSION RAILWAY", 0x1F69F), ("MOUNTAIN CABLEWAY", 0x1F6A0), ("AERIAL TRAMWAY", 0x1F6A1),
  ("SHIP", 0x1F6A2), ("ROWBOAT", 0x1F6A3), ("SPEEDBOAT", 0x1F6A4),
  ("HORIZONTAL TRAFFIC LIGHT", 0x1F6A5), ("VERTICAL TRAFFIC LIGHT", 0x1F6A6),
  ("CONSTRUCTION SIGN", 0x1F6A7), ("POLICE CARS REVOLVING LIGHT", 0x1F6A8),
  ("TRIANGULAR FLAG ON POST", 0x1F6A9), ("DOOR", 0x1F6AA), ("NO ENTRY SIGN", 0x1F6AB),
  ("SMOKING SYMBOL", 0x1F6AC), ("NO SMOKING SYMBOL", 0x1F6AD),
  ("PUT LITTER IN ITS PLACE SYMBOL", 0x1F6AE), ("DO NOT LITTER SYMBOL", 0x1F6AF),
  ("POTABLE WATER SYMBOL", 0x1F6B0), ("NON-POTABLE WATER SYMBOL", 0x1F6B1), ("BICYCLE", 0x1F6B2),
  ("NO BICYCLES", 0x1F6B3), ("BICYCLIST", 0x1F6B4), ("MOUNTAIN BICYCLIST", 0x1F6B5),
  ("PEDESTRIAN", 0x1F6B6), ("NO PEDESTRIANS", 0x1F6B7), ("CHILDREN CROSSING", 0x1F6B8),
  ("MENS SYMBOL", 0x1F6B9), ("WOMENS SYMBOL", 0x1F6BA), ("RESTROOM", 0x1F6BB),
  ("BABY SYMBOL", 0x1F6BC), ("TOILET", 0x1F6BD), ("WATER CLOSET", 0x1F6BE), ("SHOWER", 0x1F6BF),
  ("BATH", 0x1F6C0), ("BATHTUB", 0x1F6C1), ("PASSPORT CONTROL", 0x1F6C2), ("CUSTOMS", 0x1F6C3),
  ("BAGGAGE CLAIM", 0x1F6C4), ("LEFT LUGGAGE", 0x1F6C5),
  ("TRIANGLE WITH ROUNDED CORNERS", 0x1F6C6), ("PROHIBITED SIGN", 0x1F6C7),
  ("CIRCLED INFORMATION SOURCE", 0x1F6C8), ("BOYS SYMBOL", 0x1F6C9), ("GIRLS SYMBOL", 0x1F6CA),
  ("COUCH AND LAMP", 0x1F6CB), ("SLEEPING ACCOMMODATION", 0x1F6CC), ("SHOPPING BAGS", 0x1F6CD),
  ("BELLHOP BELL", 0x1F6CE), ("BED", 0x1F6CF), ("PLACE OF WORSHIP", 0x1F6D0),
  ("OCTAGONAL SIGN", 0x1F6D1), ("SHOPPING TROLLEY", 0x1F6D2), ("STUPA", 0x1F6D3),
  ("PAGODA", 0x1F6D4), ("HINDU TEMPLE", 0x1F6D5), ("HUT", 0x1F6D6), ("ELEVATOR", 0x1F6D7),
  ("PLAYGROUND SLIDE", 0x1F6DD), ("WHEEL", 0x1F6DE), ("RING BUOY", 0x1F6DF),
  ("HAMMER AND WRENCH", 0x1F6E0), ("SHIELD", 0x1F6E1), ("OIL DRUM", 0x1F6E2),
  ("MOTORWAY", 0x1F6E3), ("RAILWAY TRACK", 0x1F6E4), ("MOTOR BOAT", 0x1F6E5),
  ("UP-POINTING MILITARY AIRPLANE", 0x1F6E6), ("UP-POINTING AIRPLANE", 0x1F6E7),
  ("UP-POINTING SMALL AIRPLANE", 0x1F6E8), ("SMALL AIRPLANE", 0x1F6E9),
  ("NORTHEAST-POINTING AIRPLANE", 0x1F6EA), ("AIRPLANE DEPARTURE", 0x1F6EB),
  ("AIRPLANE ARRIVING", 0x1F6EC), ("SATELLITE", 0x1F6F0), ("ONCOMING FIRE ENGINE", 0x1F6F1),
  ("DIESEL LOCOMOTIVE", 0x1F6F2), ("PASSENGER SHIP", 0x1F6F3), ("SCOOTER", 0x1F6F4),
  ("MOTOR SCOOTER", 0x1F6F5), ("CANOE", 0x1F6F6), ("SLED", 0x1F6F7), ("FLYING SAUCER", 0x1F6F8),
  ("SKATEBOARD", 0x1F6F9), ("AUTO RICKSHAW", 0x1F6FA), ("PICKUP TRUCK", 0x1F6FB),
  ("ROLLER SKATE", 0x1F6FC), ("CIRCLED CROSS FORMEE WITH FOUR DOTS", 0x1F900),
  ("CIRCLED CROSS FORMEE WITH TWO DOTS", 0x1F901), ("CIRCLED CROSS FORMEE", 0x1F902),
  ("LEFT HALF CIRCLE WITH FOUR DOTS", 0x1F903), ("LEFT HALF CIRCLE WITH THREE DOTS", 0x1F904),
  ("LEFT HALF CIRCLE WITH TWO DOTS", 0x1F905), ("LEFT HALF CIRCLE WITH DOT", 0x1F906),
  ("LEFT HALF CIRCLE", 0x1F907), ("DOWNWARD FACING HOOK", 0x1F908),
  ("DOWNWARD FACING NOTCHED HOOK", 0x1F909), ("DOWNWARD FACING HOOK WITH DOT", 0x1F90A),
  ("DOWNWARD FACING NOTCHED HOOK WITH DOT", 0x1F90B), ("PINCHED FINGERS", 0x1F90C),
  ("WHITE HEART", 0x1F90D), ("BROWN HEART", 0x1F90E), ("PINCHING HAND", 0x1F90F),
  ("ZIPPER-MOUTH FACE", 0x1F910), ("MONEY-MOUTH FACE", 0x1F911),
  ("FACE WITH THERMOMETER", 0x1F912), ("NERD FACE", 0x1F913), ("THINKING FACE", 0x1F914),
  ("FACE WITH HEAD-BANDAGE", 0x1F915), ("ROBOT FACE", 0x1F916), ("HUGGING FACE", 0x1F917),
  ("SIGN OF THE HORNS", 0x1F918), ("CALL ME HAND", 0x1F919), ("RAISED BACK OF HAND", 0x1F91A),
  ("LEFT-FACING FIST", 0x1F91B), ("RIGHT-FACING FIST", 0x1F91C), ("HANDSHAKE", 0x1F91D),
  ("HAND WITH INDEX AND MIDDLE FINGERS CROSSED", 0x1F91E), ("I LOVE YOU HAND SIGN", 0x1F91F),
  ("FACE WITH COWBOY HAT", 0x1F920), ("CLOWN FACE", 0x1F921), ("NAUSEATED FACE", 0x1F922),
  ("ROLLING ON THE FLOOR LAUGHING", 0x1F923), ("DROOLING FACE", 0x1F924),
  ("LYING FACE", 0x1F925), ("FACE PALM", 0x1F926), ("SNEEZING FACE", 0x1F927),
  ("FACE WITH ONE EYEBROW RAISED", 0x1F928), ("GRINNING FACE WITH STAR EYES", 0x1F929),
  ("GRINNING FACE WITH ONE LARGE AND ONE SMALL EYE", 0x1F92A),
  ("FACE WITH FINGER COVERING CLOSED LIPS", 0x1F92B),
  ("SERIOUS FACE WITH SYMBOLS COVERING MOUTH", 0x1F92C),
  ("SMILING FACE WITH SMILING EYES AND HAND COVERING MOUTH", 0x1F92D),
  ("FACE WITH OPEN MOUTH VOMITING", 0x1F92E), ("SHOCKED FACE WITH EXPLODING HEAD", 0x1F92F),
  ("PREGNANT WOMAN", 0x1F930), ("BREAST-FEEDING", 0x1F931), ("PALMS UP TOGETHER", 0x1F932),
  ("SELFIE", 0x1F933), ("PRINCE", 0x1F934), ("MAN IN TUXEDO", 0x1F935),
  ("MOTHER CHRISTMAS", 0x1F936), ("SHRUG", 0x1F937), ("PERSON DOING CARTWHEEL", 0x1F938),
  ("JUGGLING", 0x1F939), ("FENCER", 0x1F93A), ("MODERN PENTATHLON", 0x1F93B),
  ("WRESTLERS", 0x1F93C), ("WATER POLO", 0x1F93D), ("HANDBALL", 0x1F93E),
  ("DIVING MASK", 0x1F93F), ("WILTED FLOWER", 0x1F940), ("DRUM WITH DRUMSTICKS", 0x1F941),
  ("CLINKING GLASSES", 0x1F942), ("TUMBLER GLASS", 0x1F943), ("SPOON", 0x1F944),
  ("GOAL NET", 0x1F945), ("RIFLE", 0x1F946), ("FIRST PLACE MEDAL", 0x1F947),
  ("SECOND PLACE MEDAL", 0x1F948), ("THIRD PLACE MEDAL", 0x1F949), ("BOXING GLOVE", 0x1F94A),
  ("MARTIAL ARTS UNIFORM", 0x1F94B), ("CURLING STONE", 0x1F94C),
  ("LACROSSE STICK AND BALL", 0x1F94D), ("SOFTBALL", 0x1F94E), ("FLYING DISC", 0x1F94F),
  ("CROISSANT", 0x1F950), ("AVOCADO", 0x1F951), ("CUCUMBER", 0x1F952), ("BACON", 0x1F953),
  ("POTATO", 0x1F954), ("CARROT", 0x1F955), ("BAGUETTE BREAD", 0x1F956),
  ("GREEN SALAD", 0x1F957), ("SHALLOW PAN OF FOOD", 0x1F958), ("STUFFED FLATBREAD", 0x1F959),
  ("EGG", 0x1F95A), ("GLASS OF MILK", 0x1F95B), ("PEANUTS", 0x1F95C), ("KIWIFRUIT", 0x1F95D),
  ("PANCAKES", 0x1F95E), ("DUMPLING", 0x1F95F), ("FORTUNE COOKIE", 0x1F960),
  ("TAKEOUT BOX", 0x1F961), ("CHOPSTICKS", 0x1F962), ("BOWL WITH SPOON", 0x1F963),
  ("CUP WITH STRAW", 0x1F964), ("COCONUT", 0x1F965), ("BROCCOLI", 0x1F966), ("PIE", 0x1F967),
  ("PRETZEL", 0x1F968), ("CUT OF MEAT", 0x1F969), ("SANDWICH", 0x1F96A),
  ("CANNED FOOD", 0x1F96B), ("LEAFY GREEN", 0x1F96C), ("MANGO", 0x1F96D), ("MOON CAKE", 0x1F96E),
  ("BAGEL", 0x1F96F), ("SMILING FACE WITH SMILING EYES AND THREE HEARTS", 0x1F970),
  ("YAWNING FACE", 0x1F971), ("SMILING FACE WITH TEAR", 0x1F972),
  ("FACE WITH PARTY HORN AND PARTY HAT", 0x1F973),
  ("FACE WITH UNEVEN EYES AND WAVY MOUTH", 0x1F974), ("OVERHEATED FACE", 0x1F975),
  ("FREEZING FACE", 0x1F976), ("NINJA", 0x1F977), ("DISGUISED FACE", 0x1F978),
  ("FACE HOLDING BACK TEARS", 0x1F979), ("FACE WITH PLEADING EYES", 0x1F97A), ("SARI", 0x1F97B),
  ("LAB COAT", 0x1F97C), ("GOGGLES", 0x1F97D), ("HIKING BOOT", 0x1F97E), ("FLAT SHOE", 0x1F97F),
  ("CRAB", 0x1F980), ("LION FACE", 0x1F981), ("SCORPION", 0x1F982), ("TURKEY", 0x1F983),
  ("UNICORN FACE", 0x1F984), ("EAGLE", 0x1F985), ("DUCK", 0x1F986), ("BAT", 0x1F987),
  ("SHARK", 0x1F988), ("OWL", 0x1F989), ("FOX FACE", 0x1F98A), ("BUTTERFLY", 0x1F98B),
  ("DEER", 0x1F98C), ("GORILLA", 0x1F98D), ("LIZARD", 0x1F98E), ("RHINOCEROS", 0x1F98F),
  ("SHRIMP", 0x1F990), ("SQUID", 0x1F991), ("GIRAFFE FACE", 0x1F992), ("ZEBRA FACE", 0x1F993),
  ("HEDGEHOG", 0x1F994), ("SAUROPOD", 0x1F995), ("T-REX", 0x1F996), ("CRICKET", 0x1F997),
  ("KANGAROO", 0x1F998), ("LLAMA", 0x1F999), ("PEACOCK", 0x1F99A), ("HIPPOPOTAMUS", 0x1F99B),
  ("PARROT", 0x1F99C), ("RACCOON", 0x1F99D), ("LOBSTER", 0x1F99E), ("MOSQUITO", 0x1F99F),
  ("MICROBE", 0x1F9A0), ("BADGER", 0x1F9A1), ("SWAN", 0x1F9A2), ("MAMMOTH", 0x1F9A3),
  ("DODO", 0x1F9A4), ("SLOTH", 0x1F9A5), ("OTTER", 0x1F9A6), ("ORANGUTAN", 0x1F9A7),
  ("SKUNK", 0x1F9A8), ("FLAMINGO", 0x1F9A9), ("OYSTER", 0x1F9AA), ("BEAVER", 0x1F9AB),
  ("BISON", 0x1F9AC), ("SEAL", 0x1F9AD), ("GUIDE DOG", 0x1F9AE), ("PROBING CANE", 0x1F9AF),
  ("EMOJI COMPONENT RED HAIR", 0x1F9B0), ("EMOJI COMPONENT CURLY HAIR", 0x1F9B1),
  ("EMOJI COMPONENT BALD", 0x1F9B2), ("EMOJI COMPONENT WHITE HAIR", 0x1F9B3), ("BONE", 0x1F9B4),
  ("LEG", 0x1F9B5), ("FOOT", 0x1F9B6), ("TOOTH", 0x1F9B7), ("SUPERHERO", 0x1F9B8),
  ("SUPERVILLAIN", 0x1F9B9), ("SAFETY VEST", 0x1F9BA), ("EAR WITH HEARING AID", 0x1F9BB),
  ("MOTORIZED WHEELCHAIR", 0x1F9BC), ("MANUAL WHEELCHAIR", 0x1F9BD), ("MECHANICAL ARM", 0x1F9BE),
  ("MECHANICAL LEG", 0x1F9BF), ("CHEESE WEDGE", 0x1F9C0), ("CUPCAKE", 0x1F9C1),
  ("SALT SHAKER", 0x1F9C2), ("BEVERAGE BOX", 0x1F9C3), ("GARLIC", 0x1F9C4), ("ONION", 0x1F9C5),
  ("FALAFEL", 0x1F9C6), ("WAFFLE", 0x1F9C7), ("BUTTER", 0x1F9C8), ("MATE DRINK", 0x1F9C9),
  ("ICE CUBE", 0x1F9CA), ("BUBBLE TEA", 0x1F9CB), ("TROLL", 0x1F9CC),
  ("STANDING PERSON", 0x1F9CD), ("KNEELING PERSON", 0x1F9CE), ("DEAF PERSON", 0x1F9CF),
  ("FACE WITH MONOCLE", 0x1F9D0), ("ADULT", 0x1F9D1), ("CHILD", 0x1F9D2),
  ("OLDER ADULT", 0x1F9D3), ("BEARDED PERSON", 0x1F9D4), ("PERSON WITH HEADSCARF", 0x1F9D5),
  ("PERSON IN STEAMY ROOM", 0x1F9D6), ("PERSON CLIMBING", 0x1F9D7),
  ("PERSON IN LOTUS POSITION", 0x1F9D8), ("MAGE", 0x1F9D9), ("FAIRY", 0x1F9DA),
  ("VAMPIRE", 0x1F9DB), ("MERPERSON", 0x1F9DC), ("ELF", 0x1F9DD), ("GENIE", 0x1F9DE),
  ("ZOMBIE", 0x1F9DF), ("BRAIN", 0x1F9E0), ("ORANGE HEART", 0x1F9E1), ("BILLED CAP", 0x1F9E2),
  ("SCARF", 0x1F9E3), ("GLOVES", 0x1F9E4), ("COAT", 0x1F9E5), ("SOCKS", 0x1F9E6),
  ("RED GIFT ENVELOPE", 0x1F9E7), ("FIRECRACKER", 0x1F9E8), ("JIGSAW PUZZLE PIECE", 0x1F9E9),
  ("TEST TUBE", 0x1F9EA), ("PETRI DISH", 0x1F9EB), ("DNA DOUBLE HELIX", 0x1F9EC),
  ("COMPASS", 0x1F9ED), ("ABACUS", 0x1F9EE), ("FIRE EXTINGUISHER", 0x1F9EF),
  ("TOOLBOX", 0x1F9F0), ("BRICK", 0x1F9F1), ("MAGNET", 0x1F9F2), ("LUGGAGE", 0x1F9F3),
  ("LOTION BOTTLE", 0x1F9F4), ("SPOOL OF THREAD", 0x1F9F5), ("BALL OF YARN", 0x1F9F6),
  ("SAFETY PIN", 0x1F9F7), ("TEDDY BEAR", 0x1F9F8), ("BROOM", 0x1F9F9), ("BASKET", 0x1F9FA),
  ("ROLL OF PAPER", 0x1F9FB), ("BAR OF SOAP", 0x1F9FC), ("SPONGE", 0x1F9FD),
  ("RECEIPT", 0x1F9FE), ("NAZAR AMULET", 0x1F9FF)]

end Conformance.Unicode
