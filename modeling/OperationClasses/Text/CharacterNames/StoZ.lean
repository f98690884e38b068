/-!
# Names of characters: S to Z

The names of characters that begin with S to Z. A row gives the words that names have in common, and then
what follows them in each; a point stands for nothing.
-/
namespace OperationClasses.Text.CharacterNames

/-- The rows of names that begin with S to Z. -/
def rowsStoZ : String := "
: S IN TRIANGLE, SAGITTARIUS, SAILBOAT, SAKE BOTTLE AND CUP, SALT SHAKER, SALTIRE, SALUTING FACE,
SAMARITAN ABBREVIATION MARK, SANDWICH, SANS-SERIF INTERROBANG ORNAMENT, SARI, SATURN, SAUROPOD,
SAXOPHONE, SCALES, SCARF, SCI, SCOOTER, SCORPION, SCORPIUS, SCREEN, SCREWDRIVER, SCRIPT LIGATURE
ET ORNAMENT, SCROLL, SCRUPLE, SEAL, SEAT, SECOND PLACE MEDAL, SECTION SIGN, SECTOR, SEDNA,
SEE-NO-EVIL MONKEY, SEEDLING, SEGMENT, SELFIE, SEMICOLON, SEMIDIRECT PRODUCT WITH BOTTOM CLOSED,
SEMISEXTILE, SEPARATED SYMBOL, SERIOUS FACE WITH SYMBOLS COVERING MOUTH, SERVICE MARK, SESAME DOT,
SESQUIQUADRATE, SEWING NEEDLE, SEXTILE, SGC, SHALLOW PAN OF FOOD, SHAMROCK, SHARK, SHAVED ICE,
SHEEP, SHIELD, SHINTO SHRINE, SHIP, SHOCKED FACE WITH EXPLODING HEAD, SHOOTING STAR, SHORTCAKE,
SHORTS, SHOULDERED OPEN BOX, SHOWER, SHRIMP, SHRUG, SHUFFLE PRODUCT, SHY, SI, SIGN OF THE HORNS,
SILHOUETTE OF JAPAN, SINE WAVE, SINGLE-SHIFT-2, SINGLE-SHIFT-3, SINHALA PUNCTUATION KUNDDALIYA,
SIX PETALLED BLACK AND WHITE FLORETTE, SIX-PER-EM SPACE, SIXTEEN POINTED ASTERISK, SKATEBOARD, SKI
AND SKI BOOT, SKIER, SKUNK, SLAVONIC ASTERISK, SLED, SLEEPY FACE, SLEUTH OR SPY, SLICE OF PIZZA,
SLOPE, SLOT MACHINE, SLOTH, SMASH PRODUCT, SMILE, SMIRKING FACE, SMOKING SYMBOL, SNAIL, SNAKE,
SNEEZING FACE, SNOW CAPPED MOUNTAIN, SNOWBOARDER, SNOWFLAKE, SO, SOCCER BALL, SOCKS, SOFTBALL,
SOFTWARE-FUNCTION SYMBOL, SOGDIAN INDEPENDENT SHIN, SOH, SOM SIGN, SOON WITH RIGHTWARDS ARROW
ABOVE, SOS, SOUND RECORDING COPYRIGHT, SP, SPA, SPACE, SPAGHETTI, SPARKLE, SPARKLES, SPARKLING
HEART, SPEAK-NO-EVIL MONKEY, SPEAKER, SPEAKING HEAD IN SILHOUETTE, SPEECH BALLOON, SPEEDBOAT,
SPESMILO SIGN, SPLASHING SWEAT SYMBOL, SPONGE, SPOOL OF THREAD, SPOON, SPORTS MEDAL, SPOUTING
WHALE, SQUAT BLACK RIGHTWARDS ARROW, SQUID, SS2, SS3, SSA, ST, STADIUM, STAMPED ENVELOPE, STANDING
PERSON, STATION, STATUE OF LIBERTY, STEAM LOCOMOTIVE, STEAMING BOWL, STENOGRAPHIC FULL STOP,
STETHOSCOPE, STOCK CHART, STOPWATCH, STRAIGHT RULER, STRAIGHTNESS, STRAWBERRY, STRESS OUTLINED
WHITE STAR, STRICTLY EQUIVALENT TO, STRING TERMINATOR, STS, STUDIO MICROPHONE, STUFFED FLATBREAD,
STUPA, STX, SUB, SUBSTITUTE, SUNDANESE AVAGRAHA, SUNFLOWER, SUNSET OVER BUILDINGS, SUPERHERO,
SUPERVILLAIN, SURFACE INTEGRAL, SURFER, SUSHI, SUSPENSION RAILWAY, SWAN, SWASH AMPERSAND ORNAMENT,
SWIMMER, SWUNG DASH, SYMMETRY, SYN, SYNAGOGUE, SYNCHRONOUS IDLE, SYRINGE, T-REX, T-SHIRT, TAB,
TABLE TENNIS PADDLE AND BALL, TACO, TAI THAM COMBINING CRYPTOGRAMMIC DOT, TAKEOUT BOX, TAKRI
ABBREVIATION SIGN, TAMALE, TANABATA TREE, TANGERINE, TAURUS, TAXI, TEACUP WITHOUT HANDLE, TEAPOT,
TEAR-OFF CALENDAR, TEARDROP-BARBED RIGHTWARDS ARROW, TEARDROP-SPOKED ASTERISK, TEDDY BEAR,
TELESCOPE, TELEVISION, TENGE SIGN, TENNIS RACQUET AND BALL, TENT, TEST TUBE, THAI CURRENCY SYMBOL
BAHT, THEREFORE, THERMODYNAMIC, THERMOMETER, THINKING FACE, THIRD PLACE MEDAL, THONG SANDAL,
THOUGHT BALLOON, THREE-EM DASH, THREE-PER-EM SPACE, THUNDER CLOUD AND RAIN, THUNDERSTORM, TIBETAN
SYLLABLE OM, TICKET, TIE OVER INFINITY, TIGHT TRIFOLIATE SNOWFLAKE, TILDE, TIMER CLOCK, TIRED
FACE, TOILET, TOKYO TOWER, TOMATO, TONGUE, TOOLBOX, TOOTH, TOOTHBRUSH, TORTOISE SHELL BRACKETED
LATIN CAPITAL LETTER S, TOTAL RUNOUT, TOTO SIGN RISING TONE, TRACKBALL, TRACTOR, TRADE MARK SIGN,
TRAIN, TRANSPLUTO, TRANSVERSAL INTERSECTION, TRIANGLE-HEADED RIGHTWARDS ARROW, TRICOLON, TRIDENT
EMBLEM, TROLL, TROLLEYBUS, TROPHY, TRUMPET, TUGRIK SIGN, TULIP, TUMBLER GLASS, TURKEY, TURKISH
LIRA SIGN, TURTLE, TWELVE POINTED BLACK STAR, TWISTED RIGHTWARDS ARROWS, TWO-EM DASH, UGARITIC
WORD DIVIDER, UNAMUSED FACE, UNCERTAINTY SIGN, UNDERTIE, UNDO SYMBOL, UNICORN FACE, UNIT
SEPARATOR, UNITED SYMBOL, UNIVERSAL RECYCLING SYMBOL, UNMARRIED PARTNERSHIP SYMBOL, UPSIDE-DOWN
FACE, URANUS, US, VAMPIRE, VECTOR OR CROSS PRODUCT, VERSICLE, VERY BOLD GREEK CROSS, VESTA,
VIBRATION MODE, VICTORY HAND, VIDEOCASSETTE, VIEWDATA SQUARE, VIOLIN, VIRGO, VOIDED GREEK CROSS,
VOLCANO, VOLLEYBALL, VOLUME INTEGRAL, VS1, VS10, VS100, VS101, VS102, VS103, VS104, VS105, VS106,
VS107, VS108, VS109, VS11, VS110, VS111, VS112, VS113, VS114, VS115, VS116, VS117, VS118, VS119,
VS12, VS120, VS121, VS122, VS123, VS124, VS125, VS126, VS127, VS128, VS129, VS13, VS130, VS131,
VS132, VS133, VS134, VS135, VS136, VS137, VS138, VS139, VS14, VS140, VS141, VS142, VS143, VS144,
VS145, VS146, VS147, VS148, VS149, VS15, VS150, VS151, VS152, VS153, VS154, VS155, VS156, VS157,
VS158, VS159, VS16, VS160, VS161, VS162, VS163, VS164, VS165, VS166, VS167, VS168, VS169, VS17,
VS170, VS171, VS172, VS173, VS174, VS175, VS176, VS177, VS178, VS179, VS18, VS180, VS181, VS182,
VS183, VS184, VS185, VS186, VS187, VS188, VS189, VS19, VS190, VS191, VS192, VS193, VS194, VS195,
VS196, VS197, VS198, VS199, VS2, VS20, VS200, VS201, VS202, VS203, VS204, VS205, VS206, VS207,
VS208, VS209, VS21, VS210, VS211, VS212, VS213, VS214, VS215, VS216, VS217, VS218, VS219, VS22,
VS220, VS221, VS222, VS223, VS224, VS225, VS226, VS227, VS228, VS229, VS23, VS230, VS231, VS232,
VS233, VS234, VS235, VS236, VS237, VS238, VS239, VS24, VS240, VS241, VS242, VS243, VS244, VS245,
VS246, VS247, VS248, VS249, VS25, VS250, VS251, VS252, VS253, VS254, VS255, VS256, VS26, VS27,
VS28, VS29, VS3, VS30, VS31, VS32, VS33, VS34, VS35, VS36, VS37, VS38, VS39, VS4, VS40, VS41,
VS42, VS43, VS44, VS45, VS46, VS47, VS48, VS49, VS5, VS50, VS51, VS52, VS53, VS54, VS55, VS56,
VS57, VS58, VS59, VS6, VS60, VS61, VS62, VS63, VS64, VS65, VS66, VS67, VS68, VS69, VS7, VS70,
VS71, VS72, VS73, VS74, VS75, VS76, VS77, VS78, VS79, VS8, VS80, VS81, VS82, VS83, VS84, VS85,
VS86, VS87, VS88, VS89, VS9, VS90, VS91, VS92, VS93, VS94, VS95, VS96, VS97, VS98, VS99, VT, VTS,
VULCANUS, WAFFLE, WANCHO NGUN SIGN, WARANG CITI OM, WARNING SIGN, WASTEBASKET, WATCH, WATERMELON,
WAVE DASH, WEDDING, WEDGE-TAILED RIGHTWARDS ARROW, WEIERSTRASS ELLIPTIC FUNCTION, WEIGHT LIFTER,
WEST SYRIAC CROSS, WHALE, WHEELCHAIR SYMBOL, WHITE-FEATHERED RIGHTWARDS ARROW, WIGGLY VERTICAL
LINE, WILTED FLOWER, WINDOW, WINE GLASS, WINKING FACE, WIRED KEYBOARD, WJ, WOLF FACE, WOMENS
SYMBOL, WON SIGN, WOOD, WORLD MAP, WORM, WORRIED FACE, WRAPPED PRESENT, WREATH PRODUCT, WRENCH,
WRESTLERS, WRITING HAND, X IN A RECTANGLE BOX, X-RAY, XOR, YAWNING FACE, YELLOW HEART, YEN SIGN,
YEZIDI HYPHENATION MARK, YIN YANG, YO-YO, ZEBRA FACE, ZEUS, ZIPPER-MOUTH FACE, ZOMBIE, ZWJ,
ZWNBSP, ZWNJ, ZWSP;
SAFETY: PIN, VEST;
SAMARITAN LETTER: ALAF, BAA, BIT, DALAT, FI, GAMAN, IN, IT, IY, KAAF, LABAT, MIM, NUN, QUF, RISH,
SHAN, SINGAAT, TAAF, TIT, TSAADIY, YUT, ZEN;
SAMARITAN MARK: DAGESH, EPENTHETIC YUT, IN, IN-ALAF, NEQUDAA, OCCLUSION;
SAMARITAN MODIFIER LETTER: EPENTHETIC YUT, I, SHORT A;
SAMARITAN PUNCTUATION: AFSAAQ, ANGED, ANNAAU, ARKAANU, ATMAAU, BAU, MELODIC QITSA, NEQUDAA, QITSA,
SHIYYAALAA, SOF MASHFAAT, TURU, ZAEF, ZIQAA;
SAMARITAN VOWEL SIGN: A, AA, E, I, LONG A, LONG AA, LONG E, LONG I, LONG U, O, OVERLONG A,
OVERLONG AA, SHORT A, SUKUN, U;
SANS-SERIF HEAVY: DOUBLE COMMA QUOTATION MARK ORNAMENT, DOUBLE TURNED COMMA QUOTATION MARK
ORNAMENT, LOW DOUBLE COMMA QUOTATION MARK ORNAMENT;
SATELLITE: ., ANTENNA;
SAURASHTRA: CONSONANT SIGN HAARU, DANDA, DOUBLE DANDA;
SAURASHTRA DIGIT: EIGHT, FIVE, FOUR, NINE, ONE, SEVEN, SIX, THREE, TWO, ZERO;
SAURASHTRA LETTER: A, AA, AI, AU, BA, BHA, CA, CHA, DA, DDA, DDHA, DHA, E, EE, GA, GHA, HA, I, II,
JA, JHA, KA, KHA, LA, LLA, MA, NA, NGA, NNA, NYA, O, OO, PA, PHA, RA, SA, SHA, SSA, TA, THA, TTA,
TTHA, U, UU, VA, YA;
SAURASHTRA LETTER VOCALIC: L, LL, R, RR;
SAURASHTRA SIGN: ANUSVARA, CANDRABINDU, VIRAMA, VISARGA;
SAURASHTRA VOWEL SIGN: AA, AI, AU, E, EE, I, II, O, OO, U, UU, VOCALIC L, VOCALIC LL, VOCALIC R,
VOCALIC RR;
SCHOOL: ., SATCHEL;
SCRIPT CAPITAL: B, E, F, H, I, L, M, P, R;
SCRIPT SMALL: E, G, L, O;
SEGMENTED DIGIT: EIGHT, FIVE, FOUR, NINE, ONE, SEVEN, SIX, THREE, TWO, ZERO;
SET: MINUS, TRANSMIT STATE;
SHADOWED WHITE: CIRCLE, LATIN CROSS, STAR;
SHARADA: ABBREVIATION SIGN, CONTINUATION SIGN, DANDA, DOUBLE DANDA, EKAM, EXTRA SHORT VOWEL MARK,
HEADSTROKE, OM, SANDHI MARK, SECTION MARK-1, SECTION MARK-2, SEPARATOR, SUTRA MARK, VOWEL MODIFIER
MARK;
SHARADA DIGIT: EIGHT, FIVE, FOUR, NINE, ONE, SEVEN, SIX, THREE, TWO, ZERO;
SHARADA LETTER: A, AA, AI, AU, BA, BHA, CA, CHA, DA, DDA, DDHA, DHA, E, GA, GHA, HA, I, II, JA,
JHA, KA, KHA, LA, LLA, MA, NA, NGA, NNA, NYA, O, PA, PHA, RA, SA, SHA, SSA, TA, THA, TTA, TTHA, U,
UU, VA, YA;
SHARADA LETTER VOCALIC: L, LL, R, RR;
SHARADA SIGN: ANUSVARA, AVAGRAHA, CANDRABINDU, INVERTED CANDRABINDU, JIHVAMULIYA, NUKTA, SIDDHAM,
UPADHMANIYA, VIRAMA, VISARGA;
SHARADA VOWEL SIGN: AA, AI, AU, E, I, II, O, PRISHTHAMATRA E, U, UU;
SHARADA VOWEL SIGN VOCALIC: L, LL, R, RR;
SHAVIAN LETTER: ADO, AGE, AH, AIR, ARE, ARRAY, ASH, AWE, BIB, CHURCH, DEAD, EAR, EAT, EGG, ERR,
FEE, GAG, HA-HA, HUNG, IAN, ICE, IF, JUDGE, KICK, LOLL, MEASURE, MIME, NUN, OAK, OIL, ON, OOZE,
OR, OUT, PEEP, ROAR, SO, SURE, THEY, THIGH, TOT, UP, VOW, WOE, WOOL, YEA, YEW, ZOO;
SHIFT: IN, OUT;
SHOPPING: BAGS, TROLLEY;
SHORT: BACKSLANTED SOUTH ARROW, BENT ARROW POINTING DOWNWARDS THEN NORTH EAST, LEFT TACK,
RIGHTWARDS ARROW ABOVE LEFTWARDS ARROW, SLANTED NORTH ARROW;
SHORT DOWN TACK: ., WITH OVERBAR;
SHORT UP TACK: ., ABOVE SHORT DOWN TACK, WITH UNDERBAR;
SHORTHAND FORMAT: CONTINUING OVERLAP, DOWN STEP, LETTER OVERLAP, UP STEP;
SIDDHAM: DANDA, DOUBLE DANDA, END OF TEXT MARK, SEPARATOR BAR, SEPARATOR DOT;
SIDDHAM LETTER: A, AA, AI, ALTERNATE U, AU, BA, BHA, CA, CHA, DA, DDA, DDHA, DHA, E, GA, GHA, HA,
I, II, JA, JHA, KA, KHA, LA, MA, NA, NGA, NNA, NYA, O, PA, PHA, RA, SA, SHA, SSA, TA, THA,
THREE-CIRCLE ALTERNATE I, TTA, TTHA, U, UU, VA, YA;
SIDDHAM LETTER TWO-CIRCLE ALTERNATE: I, II;
SIDDHAM LETTER VOCALIC: L, LL, R, RR;
SIDDHAM REPETITION: MARK-1, MARK-2, MARK-3;
SIDDHAM SECTION MARK DOUBLE RING: ., WITH RAYS;
SIDDHAM SECTION MARK WITH: CIRCLES AND FOUR ENCLOSURES, CIRCLES AND RAYS, CIRCLES AND TWO
ENCLOSURES, DOUBLE CRESCENTS, QUADRUPLE CRESCENTS, SEPTUPLE CRESCENTS, TRIDENT AND DOTTED
CRESCENTS, TRIDENT AND U-SHAPED ORNAMENTS, TRIPLE CRESCENTS;
SIDDHAM SECTION MARK WITH RAYS AND DOTTED: CRESCENTS, DOUBLE CRESCENTS, TRIPLE CRESCENTS;
SIDDHAM SIGN: ANUSVARA, CANDRABINDU, NUKTA, SIDDHAM, VIRAMA, VISARGA;
SIDDHAM VOWEL SIGN: AA, AI, ALTERNATE U, ALTERNATE UU, AU, E, I, II, O, U, UU, VOCALIC R, VOCALIC
RR;
SIDEWAYS BLACK: DOWN POINTING INDEX, LEFT POINTING INDEX, RIGHT POINTING INDEX, UP POINTING INDEX;
SIDEWAYS WHITE: DOWN POINTING INDEX, LEFT POINTING INDEX, RIGHT POINTING INDEX, UP POINTING INDEX;
SIGNWRITING: AIR BLOW SMALL ROTATIONS, AIR BLOWING OUT, AIR SUCK SMALL ROTATIONS, AIR SUCKING IN,
BREATH EXHALE, BREATH INHALE, BRUSH BETWEEN, BRUSH MULTIPLE, BRUSH SINGLE, CHEEKS NEUTRAL, CHEEKS
PUFFED, CHEEKS SUCKED, COLON, COMMA, EARS, EXCITEMENT, EYE BLINK MULTIPLE, EYE BLINK SINGLE, EYE
WINK, FINGER, FLOORPLANE SHOULDER HIP MOVE, FULL STOP, GRASP BETWEEN, GRASP MULTIPLE, GRASP
SINGLE, HAIR, HEAD, HEAD MOVEMENT CIRCLE, HEAD RIM, LIP LOWER OVER UPPER, LIP UPPER OVER LOWER,
LIPS PRESSED TOGETHER, LOCATION-FLOORPLANE SPACE, LOCATION-WALLPLANE SPACE, NECK, PARENTHESIS, RUB
BETWEEN, RUB MULTIPLE, RUB SINGLE, SEMICOLON, STRIKE BETWEEN, STRIKE MULTIPLE, STRIKE SINGLE,
SURFACE BETWEEN, SURFACE SYMBOLS, TORSO-FLOORPLANE TWISTING, TOUCH BETWEEN, TOUCH MULTIPLE, TOUCH
SINGLE, TRAVEL-FLOORPLANE SHAKING, TRAVEL-WALLPLANE SHAKING, UPPER BODY TILTING FROM HIP JOINTS,
WALLPLANE SHOULDER HIP MOVE;
SIGNWRITING DREAMY EYEBROWS: DOWN NEUTRAL, NEUTRAL DOWN, NEUTRAL UP, UP NEUTRAL;
SIGNWRITING DYNAMIC: ARROWHEAD LARGE, ARROWHEAD SMALL, EVERY OTHER TIME, FAST, GRADUAL, RELAXED,
SIMULTANEOUS, SIMULTANEOUS ALTERNATING, SLOW, TENSE;
SIGNWRITING EYEBROWS STRAIGHT: DOWN, NEUTRAL, UP;
SIGNWRITING EYEGAZE-FLOORPLANE: CURVED, STRAIGHT, STRAIGHT ALTERNATING, STRAIGHT DOUBLE;
SIGNWRITING EYEGAZE-WALLPLANE: CIRCLING, CURVED, STRAIGHT, STRAIGHT ALTERNATING, STRAIGHT DOUBLE;
SIGNWRITING EYELASHES: DOWN, FLUTTERING, UP;
SIGNWRITING EYES: CLOSED, HALF CLOSED, HALF OPEN, OPEN, SQUEEZED, WIDE OPEN, WIDENING MOVEMENT;
SIGNWRITING FACE DIRECTION POSITION NOSE: FORWARD TILTING, UP OR DOWN, UP OR DOWN TILTING;
SIGNWRITING FILL: MODIFIER-2, MODIFIER-3, MODIFIER-4, MODIFIER-5, MODIFIER-6;
SIGNWRITING FLICK: LARGE MULTIPLE, LARGE SINGLE, SEQUENTIAL, SMALL MULTIPLE, SMALL SINGLE;
SIGNWRITING FOREHEAD: CONTACT, NEUTRAL, WRINKLED;
SIGNWRITING HAND-ANGLE: ., LITTLE INDEX, LITTLE UP, RING DOWN MIDDLE THUMB INDEX CROSS, RING
LITTLE;
SIGNWRITING HAND-ANGLE INDEX: ., MIDDLE LITTLE, MIDDLE RING, RING LITTLE, RING LITTLE OUT, THUMB,
THUMB IN, THUMB OUT;
SIGNWRITING HAND-ANGLE LITTLE INDEX THUMB INDEX THUMB: ., OUT;
SIGNWRITING HAND-ANGLE MIDDLE RING LITTLE: ., IN, OUT;
SIGNWRITING HAND-CIRCLE: ., INDEX, INDEX BENT, INDEX HINGE, INDEX RING LITTLE, LITTLE INDEX,
LITTLE UP, MIDDLE RING LITTLE, MIDDLE RING LITTLE BENT, MIDDLE UP, RING LITTLE;
SIGNWRITING HAND-CIRCLE INDEX MIDDLE: ., CROSS LITTLE, CROSSED, LITTLE, RING, THUMB;
SIGNWRITING HAND-CLAW: ., FOUR FINGERS CONJOINED, INDEX THUMB CURVE THUMB INSIDE, NO THUMB, THUMB
FORWARD, THUMB SIDE;
SIGNWRITING HAND-CLAW MIDDLE RING LITTLE CONJOINED: ., SIDE;
SIGNWRITING HAND-CUP: ., FIVE FINGERS SPREAD, FIVE FINGERS SPREAD OPEN, INDEX, INDEX RING LITTLE,
INDEX THUMB, INDEX THUMB OPEN, MIDDLE RING LITTLE, NO THUMB, OPEN, OPEN NO THUMB, OPEN THUMB
FORWARD, OPEN THUMB SIDE, THUMB FORWARD, THUMB SIDE;
SIGNWRITING HAND-CURLICUE: ., INDEX RING LITTLE ON, MIDDLE RING LITTLE ON, OPEN;
SIGNWRITING HAND-FIST: ., FOUR FINGERS CONJOINED BENT, HEEL;
SIGNWRITING HAND-FIST INDEX: ., BENT, BENT OVER MIDDLE, CUPPED, HINGED, HINGED LOW, HINGED MIDDLE
UP, HINGED MIDDLE UP THUMB SIDE, RAISED KNUCKLE, RING LITTLE;
SIGNWRITING HAND-FIST INDEX MIDDLE: ., BENT, BENT THUMB STRAIGHT, CROSS LITTLE, CROSSED, CROSSED
THUMB SIDE, HINGED, HINGED SPREAD THUMB SIDE, LITTLE, RAISED KNUCKLES, RING, RING BENT, RING
CONJOINED, STRAIGHT THUMB BENT, UP SPREAD THUMB FORWARD;
SIGNWRITING HAND-FIST INDEX MIDDLE CONJOINED: ., CUPPED, CUPPED THUMB FORWARD, HINGED, HINGED
THUMB SIDE, INDEX BENT, MIDDLE BENT, THUMB FORWARD, THUMB SIDE, THUMB SIDE BENT, THUMB SIDE
CONJOINED;
SIGNWRITING HAND-FIST INDEX MIDDLE THUMB: ., ANGLED, ANGLED OUT, BENT, CIRCLED, CONJOINED HINGED,
CUPPED, HINGED, HOOKED;
SIGNWRITING HAND-FIST INDEX THUMB: ANGLED IN MIDDLE UP, ANGLED OUT MIDDLE UP, CIRCLE, CIRCLED
MIDDLE UP, CUPPED MIDDLE UP, CURLICUE, CURVE THUMB INSIDE, CURVE THUMB UNDER, FORWARD INDEX BENT,
FORWARD INDEX STRAIGHT, HOOK, HOOKED MIDDLE HINGED, HOOKED MIDDLE UP, SIDE, SIDE BOTH BENT, SIDE
INDEX BENT, SIDE INDEX HINGE, SIDE THUMB BENT, SIDE THUMB CONJOINED, SIDE THUMB DIAGONAL;
SIGNWRITING HAND-FIST INDEX UP MIDDLE HINGED: ., THUMB CONJOINED, THUMB SIDE;
SIGNWRITING HAND-FIST LITTLE: BENT, DOWN, DOWN OTHERS CIRCLED, DOWN RIPPLE CURVED, DOWN RIPPLE
STRAIGHT, INDEX, INDEX THUMB, RAISED KNUCKLE, THUMB, TOUCHES THUMB, UP;
SIGNWRITING HAND-FIST MIDDLE: BENT OVER INDEX, DOWN, LITTLE, RAISED KNUCKLE, RING LITTLE, UP, UP
THUMB SIDE;
SIGNWRITING HAND-FIST MIDDLE THUMB: ANGLED INDEX UP, ANGLED OUT INDEX CROSSED, ANGLED OUT INDEX
UP, CIRCLED INDEX HINGED, CIRCLED INDEX UP, CUPPED INDEX UP, HOOKED INDEX UP, LITTLE;
SIGNWRITING HAND-FIST RING: DOWN, INDEX, LITTLE, MIDDLE, MIDDLE CONJOINED, MIDDLE RAISED KNUCKLES,
RAISED KNUCKLE, THUMB, UP;
SIGNWRITING HAND-FIST THUMB: ., BETWEEN INDEX MIDDLE, BETWEEN INDEX MIDDLE STRAIGHT, BETWEEN
MIDDLE RING, BETWEEN RING LITTLE, FORWARD, HEEL, OVER FOUR RAISED KNUCKLES, OVER TWO FINGERS, SIDE
BENT, SIDE CONJOINED, SIDE DIAGONAL, UNDER FOUR FINGERS, UNDER INDEX BENT, UNDER LITTLE UP, UNDER
THREE FINGERS, UNDER TWO FINGERS;
SIGNWRITING HAND-FLAT: ., BETWEEN PALM FACINGS, HEEL, HEEL THUMB SIDE, SPLIT INDEX THUMB SIDE,
SPLIT LITTLE, THUMB BENT, THUMB FORWARD, THUMB SIDE;
SIGNWRITING HAND-FLAT FIVE FINGERS SPREAD: ., BENT, FOUR BENT, HINGED, HINGED NO THUMB, HINGED
THUMB SIDE, THUMB FORWARD;
SIGNWRITING HAND-FLAT FOUR FINGERS: ., BENT, CONJOINED, CONJOINED SPLIT, HINGED;
SIGNWRITING HAND-FLAT HEEL FIVE FINGERS SPREAD: ., BENT, FOUR BENT;
SIGNWRITING HAND-FLAT SPLIT CENTRE: ., THUMB SIDE, THUMB SIDE BENT;
SIGNWRITING HAND-HINGE: ., FIVE FINGERS SPREAD OPEN, FOUR FINGERS CONJOINED, LITTLE, LITTLE INDEX,
LITTLE INDEX THUMB, LITTLE THUMB, MIDDLE, MIDDLE RING LITTLE, NO THUMB, OPEN, OPEN NO THUMB, OPEN
THUMB FORWARD, OPEN THUMB SIDE, RING, RING DOWN INDEX THUMB HOOK MIDDLE, SMALL, THUMB BETWEEN
MIDDLE RING, THUMB SIDE, THUMB SIDE TOUCHING INDEX;
SIGNWRITING HAND-HINGE INDEX: ., HINGED, MIDDLE LITTLE, MIDDLE RING, MIDDLE RING CONJOINED, RING
LITTLE, THUMB, THUMB LARGE, THUMB OPEN, THUMB SIDE, THUMB SMALL;
SIGNWRITING HAND-HOOK: ., CURLICUE, MIDDLE THUMB, RING THUMB;
SIGNWRITING HAND-HOOK INDEX RING LITTLE: IN, OUT, UNDER;
SIGNWRITING HAND-HOOK MIDDLE RING LITTLE CONJOINED: ., IN, OUT;
SIGNWRITING HAND-OVAL: ., FIVE FINGERS SPREAD, INDEX, LITTLE UP, NO THUMB, RING LITTLE, THUMB
FORWARD, THUMB SIDE;
SIGNWRITING HEAD MOVEMENT-FLOORPLANE: CURVE, STRAIGHT;
SIGNWRITING HEAD MOVEMENT-WALLPLANE: CURVE, STRAIGHT, TILT;
SIGNWRITING LIMB: COMBINATION, LENGTH-1, LENGTH-2, LENGTH-3, LENGTH-4, LENGTH-5, LENGTH-6,
LENGTH-7;
SIGNWRITING LOCATION: DEPTH, HEAD NECK, HEIGHT, LIMBS DIGITS, TORSO, WIDTH;
SIGNWRITING MOUTH: CLOSED CONTACT, CLOSED FORWARD, CLOSED NEUTRAL, CORNERS, FROWN, FROWN OPEN,
FROWN WRINKLED, KISS, KISS FORWARD, KISS WRINKLED, SMILE, SMILE OPEN, SMILE WRINKLED, TENSE, TENSE
FORWARD, TENSE SUCKED, WRINKLES DOUBLE, WRINKLES SINGLE;
SIGNWRITING MOUTH OPEN: CIRCLE, FORWARD, OVAL, OVAL WRINKLED, OVAL YAWN, RECTANGLE, RECTANGLE
WRINKLED, RECTANGLE YAWN, WRINKLED;
SIGNWRITING MOVEMENT-DIAGONAL AWAY: LARGE, LARGEST, MEDIUM, SMALL;
SIGNWRITING MOVEMENT-DIAGONAL BETWEEN: AWAY LARGE, AWAY LARGEST, AWAY MEDIUM, AWAY SMALL, TOWARDS
LARGE, TOWARDS LARGEST, TOWARDS MEDIUM, TOWARDS SMALL;
SIGNWRITING MOVEMENT-DIAGONAL TOWARDS: LARGE, LARGEST, MEDIUM, SMALL;
SIGNWRITING MOVEMENT-FLOORPLANE: BEND, BOX LARGE, BOX MEDIUM, BOX SMALL, CHECK, CORNER LARGE,
CORNER MEDIUM, CORNER SMALL, CROSS, DOUBLE ALTERNATING, DOUBLE ALTERNATING WRIST FLEX, DOUBLE
STRAIGHT, DOUBLE WRIST FLEX, FINGER CIRCLES HITTING WALL DOUBLE, FINGER CIRCLES HITTING WALL
SINGLE, FINGER CONTACT, HUMP SMALL, JAW, LOOP SMALL, PEAKS LARGE, PEAKS MEDIUM, PEAKS SMALL,
SHAKING PARALLEL, SINGLE WRIST FLEX, TRIPLE ALTERNATING MOVEMENT, TRIPLE ALTERNATING WRIST FLEX,
TRIPLE STRAIGHT MOVEMENT, TRIPLE WRIST FLEX, WAVE LARGE, WAVE SMALL, WAVE SNAKE, WRIST CIRCLE
HITTING WALL DOUBLE, WRIST CIRCLE HITTING WALL SINGLE, ZIGZAG LARGE, ZIGZAG MEDIUM, ZIGZAG SMALL;
SIGNWRITING MOVEMENT-FLOORPLANE ARM CIRCLE HITTING WALL: LARGE DOUBLE, LARGE SINGLE, MEDIUM
DOUBLE, MEDIUM SINGLE, SMALL DOUBLE, SMALL SINGLE;
SIGNWRITING MOVEMENT-FLOORPLANE CURVE: COMBINED, HITTING CEILING LARGE, HITTING CEILING SMALL,
HITTING FLOOR LARGE, HITTING FLOOR SMALL, LARGE, LARGEST, MEDIUM, SMALL;
SIGNWRITING MOVEMENT-FLOORPLANE HUMP HITTING: CEILING LARGE DOUBLE, CEILING LARGE TRIPLE, CEILING
SMALL DOUBLE, CEILING SMALL TRIPLE, FLOOR LARGE DOUBLE, FLOOR SMALL DOUBLE, FLOOR TRIPLE LARGE
TRIPLE, FLOOR TRIPLE SMALL TRIPLE;
SIGNWRITING MOVEMENT-FLOORPLANE LOOP HITTING: CEILING LARGE DOUBLE, CEILING LARGE SINGLE, CEILING
SMALL DOUBLE, CEILING SMALL SINGLE, FLOOR LARGE DOUBLE, FLOOR LARGE SINGLE, FLOOR SMALL DOUBLE,
FLOOR SMALL SINGLE;
SIGNWRITING MOVEMENT-FLOORPLANE SINGLE STRAIGHT: LARGE, LARGEST, MEDIUM, SMALL;
SIGNWRITING MOVEMENT-FLOORPLANE WAVE HITTING: CEILING LARGE, CEILING SMALL, FLOOR LARGE, FLOOR
SMALL;
SIGNWRITING MOVEMENT-HINGE: DOWN SEQUENTIAL, SIDE TO SIDE SCISSORS, UP DOWN ALTERNATING LARGE, UP
DOWN ALTERNATING SMALL, UP DOWN LARGE, UP DOWN SMALL, UP SEQUENTIAL;
SIGNWRITING MOVEMENT-WALLPLANE: ARM CIRCLE MEDIUM DOUBLE, ARM CIRCLE MEDIUM SINGLE, ARM CIRCLE
SMALL DOUBLE, ARM CIRCLE SMALL SINGLE, BEND LARGE, BEND MEDIUM, BEND SMALL, BOX LARGE, BOX MEDIUM,
BOX SMALL, CHECK LARGE, CHECK MEDIUM, CHECK SMALL, CORNER LARGE, CORNER MEDIUM, CORNER ROTATION,
CORNER SMALL, CROSS, CURVED CROSS MEDIUM, CURVED CROSS SMALL, DOUBLE ALTERNATING, DOUBLE
ALTERNATING WRIST FLEX, DOUBLE STRAIGHT, DOUBLE WRIST FLEX, FINGER CIRCLES DOUBLE, FINGER CIRCLES
SINGLE, FINGER CONTACT, HUMP HITTING CHEST, HUMP HITTING FRONT WALL, HUMP LARGE, HUMP MEDIUM, HUMP
SMALL, JAW, LOOP HITTING CHEST, LOOP HITTING FRONT WALL, LOOP LARGE, LOOP MEDIUM, LOOP SMALL, LOOP
SMALL DOUBLE, PEAKS LARGE, PEAKS MEDIUM, PEAKS SMALL, SHAKING, SINGLE WRIST FLEX, TRIPLE
ALTERNATING, TRIPLE ALTERNATING WRIST FLEX, TRIPLE STRAIGHT MOVEMENT, TRIPLE WRIST FLEX, WAVE
HITTING CHEST, WAVE HITTING FRONT WALL, WRIST CIRCLE FRONT DOUBLE, WRIST CIRCLE FRONT SINGLE,
ZIGZAG LARGE, ZIGZAG MEDIUM, ZIGZAG SMALL;
SIGNWRITING MOVEMENT-WALLPLANE CURVE: HALF-CIRCLE LARGE, HALF-CIRCLE LARGEST, HALF-CIRCLE MEDIUM,
HALF-CIRCLE SMALL, HITTING CHEST, HITTING FRONT WALL, QUARTER LARGE, QUARTER LARGEST, QUARTER
MEDIUM, QUARTER SMALL, THEN STRAIGHT, THREE-QUARTER CIRCLE MEDIUM, THREE-QUARTER CIRCLE SMALL;
SIGNWRITING MOVEMENT-WALLPLANE SINGLE STRAIGHT: LARGE, LARGEST, MEDIUM, SMALL;
SIGNWRITING MOVEMENT-WALLPLANE WAVE CURVE: DOUBLE LARGE, DOUBLE MEDIUM, DOUBLE SMALL, TRIPLE
LARGE, TRIPLE MEDIUM, TRIPLE SMALL;
SIGNWRITING MOVEMENT-WALLPLANE WAVE DIAGONAL PATH: LARGE, MEDIUM, SMALL;
SIGNWRITING NOSE: CONTACT, NEUTRAL, WIGGLES, WRINKLES;
SIGNWRITING ROTATION: MODIFIER-10, MODIFIER-11, MODIFIER-12, MODIFIER-13, MODIFIER-14,
MODIFIER-15, MODIFIER-16, MODIFIER-2, MODIFIER-3, MODIFIER-4, MODIFIER-5, MODIFIER-6, MODIFIER-7,
MODIFIER-8, MODIFIER-9;
SIGNWRITING ROTATION-FLOORPLANE: ALTERNATING, ALTERNATING HITTING CEILING, ALTERNATING HITTING
FLOOR, DOUBLE, DOUBLE HITTING CEILING, DOUBLE HITTING FLOOR, SINGLE, SINGLE HITTING CEILING,
SINGLE HITTING FLOOR;
SIGNWRITING ROTATION-WALLPLANE: ALTERNATE, ALTERNATING HITTING CHEST, ALTERNATING HITTING FRONT
WALL, DOUBLE, DOUBLE HITTING CHEST, DOUBLE HITTING FRONT WALL, SINGLE, SINGLE HITTING CHEST,
SINGLE HITTING FRONT WALL;
SIGNWRITING SHOULDER: HIP POSITIONS, HIP SPINE, TILTING FROM WAIST;
SIGNWRITING SQUEEZE: FLICK ALTERNATING, LARGE MULTIPLE, LARGE SINGLE, SEQUENTIAL, SMALL MULTIPLE,
SMALL SINGLE;
SIGNWRITING TEETH: ., BITE LIPS, MOVEMENT, ON LIPS, ON LIPS MOVEMENT, ON TONGUE, ON TONGUE
MOVEMENT;
SIGNWRITING TENSE CHEEKS: HIGH, LOW, MIDDLE;
SIGNWRITING TONGUE: CENTRE INSIDE MOUTH, CENTRE STICKING OUT, INSIDE MOUTH RELAXED, LICKING LIPS,
MOVES AGAINST CHEEK, STICKING OUT FAR, TIP BETWEEN LIPS, TIP TOUCHING INSIDE MOUTH;
SIGNWRITING TORSO-WALLPLANE: CURVED BEND, STRAIGHT STRETCH;
SIGNWRITING TRAVEL-FLOORPLANE ROTATION-FLOORPLANE: ALTERNATING, DOUBLE, SINGLE;
SIGNWRITING TRAVEL-FLOORPLANE ROTATION-WALLPLANE: ALTERNATING, DOUBLE, SINGLE;
SIGNWRITING TRAVEL-WALLPLANE ARM SPIRAL: DOUBLE, SINGLE, TRIPLE;
SIGNWRITING TRAVEL-WALLPLANE ROTATION-FLOORPLANE: ALTERNATING, DOUBLE, SINGLE;
SIGNWRITING TRAVEL-WALLPLANE ROTATION-WALLPLANE: ALTERNATING, DOUBLE, SINGLE;
SIMILAR: ABOVE GREATER-THAN ABOVE EQUALS SIGN, ABOVE LESS-THAN ABOVE EQUALS SIGN, MINUS SIMILAR,
OR GREATER-THAN, OR LESS-THAN;
SINGLE: CHARACTER INTRODUCER, GRAPHIC CHARACTER INTRODUCER, HIGH-REVERSED-9 QUOTATION MARK,
LEFT-POINTING ANGLE QUOTATION MARK, LOW-9 QUOTATION MARK, RIGHT-POINTING ANGLE QUOTATION MARK,
SHIFT THREE, SHIFT TWO;
SINHALA ARCHAIC DIGIT: EIGHT, FIVE, FOUR, NINE, ONE, SEVEN, SIX, THREE, TWO;
SINHALA ARCHAIC NUMBER: EIGHTY, FIFTY, FORTY, NINETY, ONE HUNDRED, ONE THOUSAND, SEVENTY, SIXTY,
TEN, THIRTY, TWENTY;
SINHALA LETTER: AAYANNA, AEEYANNA, AEYANNA, AIYANNA, AMBA BAYANNA, AUYANNA, AYANNA, DANTAJA
LAYANNA, DANTAJA NAYANNA, DANTAJA SAYANNA, EEYANNA, EYANNA, FAYANNA, HAYANNA, IIYANNA, ILUUYANNA,
ILUYANNA, IRUUYANNA, IRUYANNA, IYANNA, KANTAJA NAASIKYAYA, MAYANNA, OOYANNA, OYANNA, RAYANNA,
TAALUJA NAASIKYAYA, TAALUJA SANYOOGA NAAKSIKYAYA, TAALUJA SAYANNA, UUYANNA, UYANNA, VAYANNA,
YAYANNA;
SINHALA LETTER ALPAPRAANA: BAYANNA, CAYANNA, DAYANNA, DDAYANNA, GAYANNA, JAYANNA, KAYANNA,
PAYANNA, TAYANNA, TTAYANNA;
SINHALA LETTER MAHAAPRAANA: BAYANNA, CAYANNA, DAYANNA, DDAYANNA, GAYANNA, JAYANNA, KAYANNA,
PAYANNA, TAYANNA, TTAYANNA;
SINHALA LETTER MUURDHAJA: LAYANNA, NAYANNA, SAYANNA;
SINHALA LETTER SANYAKA: DAYANNA, DDAYANNA, GAYANNA, JAYANNA;
SINHALA LITH DIGIT: EIGHT, FIVE, FOUR, NINE, ONE, SEVEN, SIX, THREE, TWO, ZERO;
SINHALA SIGN: AL-LAKUNA, ANUSVARAYA, CANDRABINDU, VISARGAYA;
SINHALA VOWEL SIGN: AELA-PILLA, GAETTA-PILLA, GAYANUKITTA, KETTI AEDA-PILLA, KETTI IS-PILLA, KETTI
PAA-PILLA, KOMBU DEKA, KOMBUVA;
SINHALA VOWEL SIGN DIGA: AEDA-PILLA, GAETTA-PILLA, GAYANUKITTA, IS-PILLA, KOMBUVA, PAA-PILLA;
SINHALA VOWEL SIGN KOMBUVA HAA: AELA-PILLA, DIGA AELA-PILLA, GAYANUKITTA;
SIX POINTED: BLACK STAR, PINWHEEL STAR, STAR WITH MIDDLE DOT;
SKULL: ., AND CROSSBONES;
SLANTED EQUAL TO OR: GREATER-THAN, GREATER-THAN WITH DOT INSIDE, LESS-THAN, LESS-THAN WITH DOT
INSIDE;
SLANTED NORTH ARROW WITH: HOOKED HEAD, HORIZONTAL TAIL;
SLEEPING: ACCOMMODATION, FACE, SYMBOL;
SLIGHTLY: FROWNING FACE, SMILING FACE;
SLOPING LARGE: AND, OR;
SMALL: AIRPLANE, AMPERSAND, ASTERISK, BLUE DIAMOND, COLON, COMMA, COMMERCIAL AT, DOLLAR SIGN, EM
DASH, EQUALS SIGN, EXCLAMATION MARK, FULL STOP, GREATER-THAN SIGN, HYPHEN-MINUS, IDEOGRAPHIC
COMMA, LESS-THAN SIGN, NUMBER SIGN, ORANGE DIAMOND, PERCENT SIGN, PLUS SIGN, QUESTION MARK,
REVERSE SOLIDUS, SEMICOLON, TILDE, TWO DOTS OVER ONE DOT PUNCTUATION, VEE WITH UNDERBAR;
SMALL CONTAINS: AS MEMBER, WITH OVERBAR, WITH VERTICAL BAR AT END OF HORIZONTAL STROKE;
SMALL ELEMENT OF: ., WITH OVERBAR, WITH VERTICAL BAR AT END OF HORIZONTAL STROKE;
SMALL LEFT: CURLY BRACKET, PARENTHESIS, TORTOISE SHELL BRACKET;
SMALL RIGHT: CURLY BRACKET, PARENTHESIS, TORTOISE SHELL BRACKET;
SMALL ROMAN NUMERAL: EIGHT, ELEVEN, FIFTY, FIVE, FIVE HUNDRED, FOUR, NINE, ONE, ONE HUNDRED, ONE
THOUSAND, SEVEN, SIX, TEN, THREE, TWELVE, TWO;
SMALLER THAN: ., OR EQUAL TO;
SMILING CAT FACE WITH: HEART-SHAPED EYES, OPEN MOUTH;
SMILING FACE WITH: HALO, HEART-SHAPED EYES, HORNS, SUNGLASSES, TEAR;
SMILING FACE WITH OPEN MOUTH: ., AND COLD SWEAT, AND SMILING EYES, AND TIGHTLY-CLOSED EYES;
SMILING FACE WITH SMILING EYES: ., AND HAND COVERING MOUTH, AND THREE HEARTS;
SNOWMAN: ., WITHOUT SNOW;
SOFT: HYPHEN, ICE CREAM, SHELL FLOPPY DISK;
SOGDIAN COMBINING: CURVE ABOVE, CURVE BELOW, DOT ABOVE, DOT BELOW, HOOK ABOVE, HOOK BELOW, LONG
HOOK BELOW, RESH BELOW, STROKE BELOW, TWO DOTS ABOVE, TWO DOTS BELOW;
SOGDIAN LETTER: ALEPH, AYIN, BETH, FETH, GIMEL, HE, HETH, KAPH, LAMEDH, LESH, MEM, NUN, PE,
RESH-AYIN, SADHE, SAMEKH, SHIN, TAW, WAW, YODH, ZAYIN;
SOGDIAN NUMBER: ONE, ONE HUNDRED, TEN, TWENTY;
SOGDIAN PUNCTUATION: CIRCLE WITH DOT, HALF CIRCLE WITH DOT, TWO CIRCLES WITH DOTS, TWO VERTICAL
BARS, TWO VERTICAL BARS WITH DOTS;
SOLID QUILT SQUARE ORNAMENT: ., IN BLACK SQUARE;
SOLIDUS: ., WITH OVERBAR;
SORA SOMPENG DIGIT: EIGHT, FIVE, FOUR, NINE, ONE, SEVEN, SIX, THREE, TWO, ZERO;
SORA SOMPENG LETTER: AH, BAH, CAH, DAH, EEH, EH, GAH, HAH, IH, JAH, KAH, LAH, MAE, MAH, NAH, NGAH,
NYAH, OH, PAH, RAH, SAH, TAH, UH, VAH, YAH;
SOUTH EAST: BLACK ARROW, DOUBLE ARROW, SANS-SERIF ARROW, WHITE ARROW;
SOUTH EAST ARROW: ., AND SOUTH WEST ARROW, CROSSING NORTH EAST ARROW, TO CORNER, WITH HOOK;
SOUTH EAST POINTING: BUD, LEAF, VINE LEAF;
SOUTH EAST TRIANGLE-HEADED ARROW: ., TO BAR;
SOUTH WEST: ARROW, ARROW AND NORTH WEST ARROW, ARROW WITH HOOK, BLACK ARROW, DOUBLE ARROW,
SANS-SERIF ARROW, WHITE ARROW;
SOUTH WEST POINTING: BUD, LEAF, VINE LEAF;
SOUTH WEST TRIANGLE-HEADED ARROW: ., TO BAR;
SOYOMBO: GEMINATION MARK, SUBJOINER, TERMINAL MARK-1, TERMINAL MARK-2, VOWEL LENGTH MARK;
SOYOMBO CLUSTER-INITIAL LETTER: LA, RA, SA, SHA;
SOYOMBO FINAL CONSONANT SIGN: -A, B, D, G, K, L, M, N, NG, R, S, SH;
SOYOMBO HEAD MARK WITH MOON AND SUN: ., AND FLAME, AND TRIPLE FLAME;
SOYOMBO LETTER: -A, A, BA, BHA, CA, CHA, DA, DDA, DDHA, DHA, DZA, GA, GHA, HA, JA, JHA, KA, KHA,
KSSA, LA, MA, NA, NGA, NNA, NYA, PA, PHA, RA, SA, SHA, SSA, TA, THA, TSA, TSHA, TTA, TTHA, VA, YA,
ZA, ZHA;
SOYOMBO MARK: DOUBLE SHAD, PLUTA, SHAD, TSHEG;
SOYOMBO SIGN: ANUSVARA, JIHVAMULIYA, UPADHMANIYA, VISARGA;
SOYOMBO VOWEL SIGN: AI, AU, E, I, O, OE, U, UE, VOCALIC L, VOCALIC R;
SPEAKER WITH: CANCELLATION STROKE, ONE SOUND WAVE, THREE SOUND WAVES;
SPHERICAL ANGLE: ., OPENING LEFT, OPENING UP;
SPIDER: ., WEB;
SPIRAL: CALENDAR PAD, NOTE PAD, SHELL;
SQUARE: A OVER M, AARU, AM, ANPEA, APAATO, ARUHUA, AU, BAARERU, BAR, BEETA, BIRU, BORUTO, BQ,
BUSSYERU, C OVER KG, CAL, CAP, CC, CD, CM, CM CUBED, CM SQUARED, CO, CORPORATION, CUP, DA, DAASU,
DB, DESI, DJ, DL, DM, DM CUBED, DM SQUARED, DORU, EEKAA, ERG, ESUKUUDO, EV, FM, FOOT, FOUR
CORNERS, GAL, GANMA, GARON, GB, GHZ, GIGA, GINII, GIRUDAA, GPA, GURAMU, GURAMUTON, GY, HA, HAITU,
HEKUTAARU, HERUTU, HG, HIRAGANA HOKA, HON, HOON, HOORU, HP, HPA, HUARADDO, HUIITO, HURAN, HZ, IN,
ININGU, INTI, IU, K OHM, KA, KAIRI, KARATTO, KARORII, KB, KCAL, KEESU, KG, KHZ, KIRO, KIROGURAMU,
KIROMEETORU, KIROWATTO, KK, KL, KM, KM CAPITAL, KM CUBED, KM SQUARED, KOOPO, KORUNA, KPA, KT,
KUROONE, KURUZEIRO, KV, KW, KYURII, LEFT OPEN BOX OPERATOR, LM, LN, LOG, LOZENGE, LX, M CUBED, M
OHM, M OVER S, M OVER S SQUARED, M SQUARED, MA, MAHHA, MAIKURO, MAIRU, MANSYON, MARUKU, MB, MB
SMALL, MEETORU, MEGA, MEGATON, MG, MHZ, MIKURON, MIL, MIRI, MIRIBAARU, ML, MM, MM CUBED, MM
SQUARED, MOL, MPA, MS, MV, MV MEGA, MW, MW MEGA, NA, NANO, NF, NM, NOTTO, NS, NV, NW, ONSU, OOMU,
OV, PA, PA AMPS, PAASENTO, PAATU, PC, PEEZI, PENIHI, PENSU, PESO, PF, PH, PIASUTORU, PIKO, PIKURU,
PM, POINTO, PONDO, POSITION INDICATOR, PPM, PR, PS, PV, PW, RAD, REMU, RENTOGEN, RIGHT OPEN BOX
OPERATOR, RIRA, RITTORU, ROOT, RUPII, RUUBURU, SAIKURU, SANTIIMU, SENTI, SENTO, SIRINGU, SR, SV,
TARGET, THZ, TON, UON, V OVER M, WATTO, WB, YAADO, YAARU, YUAN;
SQUARE ERA NAME: HEISEI, MEIZI, REIWA, SYOUWA, TAISYOU;
SQUARE IMAGE OF: ., OR EQUAL TO, OR NOT EQUAL TO;
SQUARE MU: A, F, G, L, M, S, V, W;
SQUARE ORIGINAL OF: ., OR EQUAL TO, OR NOT EQUAL TO;
SQUARE RAD OVER S: ., SQUARED;
SQUARE WITH: BOTTOM HALF BLACK, CONTOURED OUTLINE, DIAGONAL CROSSHATCH FILL, HORIZONTAL FILL, LEFT
HALF BLACK, LOWER LEFT DIAGONAL HALF BLACK, LOWER RIGHT DIAGONAL HALF BLACK, ORTHOGONAL CROSSHATCH
FILL, RIGHT HALF BLACK, TOP HALF BLACK, VERTICAL FILL;
SQUARE WITH UPPER: LEFT DIAGONAL HALF BLACK, LEFT TO LOWER RIGHT FILL, RIGHT DIAGONAL HALF BLACK,
RIGHT TO LOWER LEFT FILL;
SQUARED: ASTERISK, CL, COOL, DOT OPERATOR, EIGHT K, FALLING DIAGONAL SLASH, FIVE POINT ONE, FOUR
DOT PUNCTUATION, FOUR K, FREE, HC, HDR, HI-RES, HV, ID, KEY, LATIN SMALL LETTER D, LOGICAL AND,
LOGICAL OR, LOSSLESS, MINUS, MV, NEW, NG, OK, ONE HUNDRED TWENTY P, PLUS, PPV, RISING DIAGONAL
SLASH, SALTIRE, SD, SECOND SCREEN, SEVEN POINT ONE, SHV, SIXTY P, SMALL CIRCLE, SOS, SQUARE, SS,
THREE D, TIMES, TWENTY-TWO POINT TWO, TWO K, UHD, UP WITH EXCLAMATION MARK, VOD, VS, WC;
SQUARED CJK UNIFIED: IDEOGRAPH-4E00, IDEOGRAPH-4E09, IDEOGRAPH-4E2D, IDEOGRAPH-4E8C,
IDEOGRAPH-4EA4, IDEOGRAPH-518D, IDEOGRAPH-521D, IDEOGRAPH-524D, IDEOGRAPH-5272, IDEOGRAPH-53CC,
IDEOGRAPH-53F3, IDEOGRAPH-5408, IDEOGRAPH-5439, IDEOGRAPH-55B6, IDEOGRAPH-58F0, IDEOGRAPH-591A,
IDEOGRAPH-5929, IDEOGRAPH-5B57, IDEOGRAPH-5DE6, IDEOGRAPH-5F8C, IDEOGRAPH-624B, IDEOGRAPH-6253,
IDEOGRAPH-6295, IDEOGRAPH-6307, IDEOGRAPH-6355, IDEOGRAPH-6599, IDEOGRAPH-65B0, IDEOGRAPH-6620,
IDEOGRAPH-6708, IDEOGRAPH-6709, IDEOGRAPH-6E80, IDEOGRAPH-6F14, IDEOGRAPH-7121, IDEOGRAPH-751F,
IDEOGRAPH-7533, IDEOGRAPH-7981, IDEOGRAPH-7A7A, IDEOGRAPH-7D42, IDEOGRAPH-89E3, IDEOGRAPH-8CA9,
IDEOGRAPH-8D70, IDEOGRAPH-904A, IDEOGRAPH-914D;
SQUARED KATAKANA: DE, KOKO, SA;
SQUARED LATIN CAPITAL LETTER: A, B, C, D, E, F, G, H, I, J, K, L, M, N, O, P, Q, R, S, T, U, V, W,
X, Y, Z;
STAFF OF: AESCULAPIUS, HERMES;
STAR: AND CRESCENT, EQUALS, OF DAVID, OPERATOR, WITH LEFT HALF BLACK, WITH RIGHT HALF BLACK;
START OF: GUARDED AREA, HEADING, PROTECTED AREA, SELECTED AREA, STRING, TEXT;
STICK FIGURE: ., LEANING LEFT, LEANING RIGHT, WITH ARMS RAISED, WITH DRESS;
SUBSCRIPT: EIGHT, EQUALS SIGN, FIVE, FOUR, LEFT PARENTHESIS, MINUS, NINE, ONE, PLUS SIGN, RIGHT
PARENTHESIS, SEVEN, SIX, THREE, TWO, ZERO;
SUBSET ABOVE: RIGHTWARDS ARROW, SUBSET, SUPERSET;
SUBSET OF: ., OR EQUAL TO, OR EQUAL TO WITH DOT ABOVE, WITH NOT EQUAL TO;
SUBSET OF ABOVE: ALMOST EQUAL TO, EQUALS SIGN, NOT EQUAL TO, TILDE OPERATOR;
SUBSET WITH: DOT, MULTIPLICATION SIGN BELOW, PLUS SIGN BELOW;
SUCCEEDS: ., BUT NOT EQUIVALENT TO, OR EQUAL TO, OR EQUIVALENT TO, UNDER RELATION;
SUCCEEDS ABOVE: ALMOST EQUAL TO, EQUALS SIGN, NOT ALMOST EQUAL TO, NOT EQUAL TO, SINGLE-LINE
EQUALS SIGN, SINGLE-LINE NOT EQUAL TO;
SUMMATION: BOTTOM, TOP, WITH INTEGRAL;
SUN: ., BEHIND CLOUD, WITH FACE;
SUNDANESE CONSONANT SIGN: PAMINGKAL, PANYAKRA, PANYIKU, PASANGAN MA, PASANGAN WA;
SUNDANESE DIGIT: EIGHT, FIVE, FOUR, NINE, ONE, SEVEN, SIX, THREE, TWO, ZERO;
SUNDANESE LETTER: A, AE, BA, BHA, CA, DA, E, EU, FA, FINAL K, FINAL M, GA, HA, I, JA, KA, KHA, LA,
LEU, MA, NA, NGA, NYA, O, PA, QA, RA, REU, SA, SYA, TA, U, VA, WA, XA, YA, ZA;
SUNDANESE PUNCTUATION BINDU: BA SATANGA, CAKRA, DA SATANGA, KA SATANGA, LEU SATANGA, PANGLONG,
PURNAMA, SURYA;
SUNDANESE SIGN: PAMAAEH, PANGLAYAR, PANGWISAD, PANYECEK, VIRAMA;
SUNDANESE VOWEL SIGN: PAMEPET, PANAELAENG, PANEULEUNG, PANGHULU, PANOLONG, PANYUKU;
SUNRISE: ., OVER MOUNTAINS;
SUPERSCRIPT: EIGHT, EQUALS SIGN, FIVE, FOUR, LEFT PARENTHESIS, MINUS, NINE, ONE, PLUS SIGN, RIGHT
PARENTHESIS, SEVEN, SIX, THREE, TWO, ZERO;
SUPERSCRIPT LATIN SMALL LETTER: I, N;
SUPERSET: BESIDE AND JOINED BY DASH WITH SUBSET, BESIDE SUBSET, OF, OF WITH NOT EQUAL TO,
PRECEDING SOLIDUS, WITH DOT, WITH MULTIPLICATION SIGN BELOW, WITH PLUS SIGN BELOW;
SUPERSET ABOVE: LEFTWARDS ARROW, SUBSET, SUPERSET;
SUPERSET OF ABOVE: ALMOST EQUAL TO, EQUALS SIGN, NOT EQUAL TO, TILDE OPERATOR;
SUPERSET OF OR EQUAL TO: ., WITH DOT ABOVE;
SYLOTI NAGRI LETTER: A, BHO, BO, CHO, CO, DDHO, DDO, DHO, DO, E, GHO, GO, HO, I, JHO, JO, KHO, KO,
LO, MO, NO, O, PHO, PO, RO, RRO, SO, THO, TO, TTHO, TTO, U;
SYLOTI NAGRI POETRY: MARK-1, MARK-2, MARK-3, MARK-4;
SYLOTI NAGRI SIGN: ALTERNATE HASANTA, ANUSVARA, DVISVARA, HASANTA;
SYLOTI NAGRI VOWEL SIGN: A, E, I, OO, U;
SYMBOL FOR: ACKNOWLEDGE, BACKSPACE, BELL, CANCEL, CARRIAGE RETURN, DATA LINK ESCAPE, DELETE,
DELETE FORM TWO, ENQUIRY, ESCAPE, FILE SEPARATOR, FORM FEED, GROUP SEPARATOR, HORIZONTAL
TABULATION, LINE FEED, MARKS CHAPTER, NEGATIVE ACKNOWLEDGE, NEWLINE, NULL, RECORD SEPARATOR,
SAMARITAN SOURCE, SHIFT IN, SHIFT OUT, SPACE, START OF HEADING, START OF TEXT, SUBSTITUTE,
SUBSTITUTE FORM TWO, SYNCHRONOUS IDLE, TYPE A ELECTRONICS, UNIT SEPARATOR, VERTICAL TABULATION;
SYMBOL FOR DEVICE CONTROL: FOUR, ONE, THREE, TWO;
SYMBOL FOR END OF: MEDIUM, TEXT, TRANSMISSION, TRANSMISSION BLOCK;
SYRIAC: ABBREVIATION MARK, BARREKH, CONTRACTION, END OF PARAGRAPH, ESASA ABOVE, ESASA BELOW,
FEMININE DOT, HBASA ABOVE, HBASA BELOW, HBASA-ESASA DOTTED, HORIZONTAL COLON, MUSIC, QUSHSHAYA,
RBASA ABOVE, RBASA BELOW, RUKKAKHA, RWAHA, SUBLINEAR FULL STOP;
SYRIAC COLON SKEWED: LEFT, RIGHT;
SYRIAC DOTTED ZLAMA: ANGULAR, HORIZONTAL;
SYRIAC HARKLEAN: ASTERISCUS, METOBELUS, OBELUS;
SYRIAC LETTER: ALAPH, BETH, DALATH, DOTLESS DALATH RISH, E, FINAL SEMKATH, GAMAL, GAMAL GARSHUNI,
HE, HETH, KAPH, LAMADH, MIM, NUN, PE, PERSIAN BHETH, PERSIAN DHALATH, PERSIAN GHAMAL, QAPH,
REVERSED PE, RISH, SADHE, SEMKATH, SHIN, SOGDIAN FE, SOGDIAN KHAPH, SOGDIAN ZHAIN, SUPERSCRIPT
ALAPH, TAW, TETH, TETH GARSHUNI, WAW, YUDH, YUDH HE, ZAIN;
SYRIAC LETTER MALAYALAM: BHA, JA, LLA, LLLA, NGA, NNA, NNNA, NYA, RA, SSA, TTA;
SYRIAC OBLIQUE LINE: ABOVE, BELOW;
SYRIAC PTHAHA: ABOVE, BELOW, DOTTED;
SYRIAC SUBLINEAR COLON: ., SKEWED LEFT, SKEWED RIGHT;
SYRIAC SUPRALINEAR: COLON, COLON SKEWED LEFT, FULL STOP;
SYRIAC THREE DOTS: ABOVE, BELOW;
SYRIAC TWO VERTICAL DOTS: ABOVE, BELOW;
SYRIAC ZQAPHA: ABOVE, BELOW, DOTTED;
TAG: AMPERSAND, APOSTROPHE, ASTERISK, CIRCUMFLEX ACCENT, COLON, COMMA, COMMERCIAL AT, DOLLAR SIGN,
EQUALS SIGN, EXCLAMATION MARK, FULL STOP, GRAVE ACCENT, GREATER-THAN SIGN, HYPHEN-MINUS, LESS-THAN
SIGN, LOW LINE, NUMBER SIGN, PERCENT SIGN, PLUS SIGN, QUESTION MARK, QUOTATION MARK, REVERSE
SOLIDUS, SEMICOLON, SOLIDUS, SPACE, TILDE, VERTICAL LINE;
TAG DIGIT: EIGHT, FIVE, FOUR, NINE, ONE, SEVEN, SIX, THREE, TWO, ZERO;
TAG LATIN CAPITAL LETTER: A, B, C, D, E, F, G, H, I, J, K, L, M, N, O, P, Q, R, S, T, U, V, W, X,
Y, Z;
TAG LATIN SMALL LETTER: A, B, C, D, E, F, G, H, I, J, K, L, M, N, O, P, Q, R, S, T, U, V, W, X, Y,
Z;
TAG LEFT: CURLY BRACKET, PARENTHESIS, SQUARE BRACKET;
TAG RIGHT: CURLY BRACKET, PARENTHESIS, SQUARE BRACKET;
TAGALOG LETTER: A, ARCHAIC RA, BA, DA, GA, HA, I, KA, LA, MA, NA, NGA, PA, RA, SA, TA, U, WA, YA;
TAGALOG SIGN: PAMUDPOD, VIRAMA;
TAGALOG VOWEL SIGN: I, U;
TAGBANWA LETTER: A, BA, DA, GA, I, KA, LA, MA, NA, NGA, PA, SA, TA, U, WA, YA;
TAGBANWA VOWEL SIGN: I, U;
TAI LE LETTER: A, AI, AUE, E, EE, EH, FA, HA, I, KA, KHA, LA, MA, NA, NGA, O, OO, PA, PHA, QA, SA,
TA, THA, TONE-2, TONE-3, TONE-4, TONE-5, TONE-6, TSA, TSHA, U, UE, VA, XA, YA;
TAI THAM CONSONANT SIGN: BA, FINAL NGA, HIGH RATHA OR LOW PA, LA TANG LAI, LOW PA, MA, MEDIAL LA,
MEDIAL RA, SA;
TAI THAM HORA DIGIT: EIGHT, FIVE, FOUR, NINE, ONE, SEVEN, SIX, THREE, TWO, ZERO;
TAI THAM LETTER: A, BA, DA, EE, GREAT SA, I, II, LA, LAE, LLA, LUE, MA, NA, NGA, NYA, OO, RA,
RANA, RATA, RUE, U, UU, WA;
TAI THAM LETTER HIGH: CA, CHA, FA, HA, KA, KHA, KXA, PA, PHA, RATHA, SA, SHA, SSA, TA, THA, YA;
TAI THAM LETTER LOW: CA, CHA, FA, HA, KA, KHA, KXA, PA, PHA, RATHA, SA, TA, THA, YA;
TAI THAM SIGN: CAANG, DOKMAI, HANG, HOY, KAAN, KAANKUU, KEOW, KHUEN TONE-3, KHUEN TONE-4, KHUEN
TONE-5, KHUEN-LUE KARAN, MAI KANG, MAI KANG LAI, MAI SAM, MAI YAMOK, RA HAAM, REVERSED ROTATED
RANA, SAKOT, SATKAAN, SATKAANKUU, SAWAN, TONE-1, TONE-2, WIANG, WIANGWAAK;
TAI THAM THAM DIGIT: EIGHT, FIVE, FOUR, NINE, ONE, SEVEN, SIX, THREE, TWO, ZERO;
TAI THAM VOWEL SIGN: A, AA, AE, AI, E, I, II, MAI SAT, O, OA ABOVE, OA BELOW, OO, OY, TALL AA,
THAM AI, U, UE, UU, UUE;
TAI VIET LETTER HIGH: BO, CHO, CO, DO, FO, GO, HO, KHHO, KHO, KO, LO, MO, NGO, NO, NYO, O, PHO,
PO, RO, SO, THO, TO, VO, YO;
TAI VIET LETTER LOW: BO, CHO, CO, DO, FO, GO, HO, KHHO, KHO, KO, LO, MO, NGO, NO, NYO, O, PHO, PO,
RO, SO, THO, TO, VO, YO;
TAI VIET MAI: KANG, KHIT;
TAI VIET SYMBOL: HO HOI, KOI KOI, KON, NUENG, SAM;
TAI VIET TONE MAI: EK, NUENG, SONG, THO;
TAI VIET VOWEL: AA, AM, AN, AUE, AY, E, I, IA, O, U, UA, UE, UEA;
TAKRI DIGIT: EIGHT, FIVE, FOUR, NINE, ONE, SEVEN, SIX, THREE, TWO, ZERO;
TAKRI LETTER: A, AA, AI, ARCHAIC KHA, AU, BA, BHA, CA, CHA, DA, DDA, DDHA, DHA, E, GA, GHA, HA, I,
II, JA, JHA, KA, KHA, LA, MA, NA, NGA, NNA, NYA, O, PA, PHA, RA, RRA, SA, SHA, TA, THA, TTA, TTHA,
U, UU, VA, YA;
TAKRI SIGN: ANUSVARA, NUKTA, VIRAMA, VISARGA;
TAKRI VOWEL SIGN: AA, AI, AU, E, I, II, O, U, UU;
TALLY MARK: FIVE, ONE;
TAMIL: AND ODD SIGN, AS ABOVE SIGN, AU LENGTH MARK, CREDIT SIGN, CURRENT SIGN, DAY SIGN, DEBIT
SIGN, DRY CULTIVATION SIGN, FRACTION DOWNSCALING FACTOR KIIZH, IN POSSESSION SIGN, LAND SIGN,
MONTH SIGN, OM, PUNCTUATION END OF TEXT, RUPEE SIGN, SALT PAN SIGN, SPENT SIGN, STARTING FROM
SIGN, TOTAL SIGN, WET CULTIVATION SIGN, YEAR SIGN;
TAMIL DIGIT: EIGHT, FIVE, FOUR, NINE, ONE, SEVEN, SIX, THREE, TWO, ZERO;
TAMIL FRACTION ONE: EIGHTH, EIGHTIETH, FIFTH, FORTIETH, HALF-1, HALF-2, ONE-HUNDRED-AND-SIXTIETH,
QUARTER, SIXTEENTH-1, SIXTEENTH-2, SIXTY-FOURTH, TENTH, THIRTY-SECOND,
THREE-HUNDRED-AND-TWENTIETH, TWENTIETH;
TAMIL FRACTION THREE: EIGHTIETHS, QUARTERS, SIXTEENTHS, SIXTY-FOURTHS, TWENTIETHS;
TAMIL LETTER: A, AA, AI, AU, CA, E, EE, HA, I, II, JA, KA, LA, LLA, LLLA, MA, NA, NGA, NNA, NNNA,
NYA, O, OO, PA, RA, RRA, SA, SHA, SSA, TA, TTA, U, UU, VA, YA;
TAMIL NUMBER: ONE HUNDRED, ONE THOUSAND, SIGN, TEN;
TAMIL SIGN: AAZHAAKKU, ANUSVARA, CEVITU, KAACU, KURUNI, KUZHI, MUKKURUNI, MUTHALIYA, MUUVUZHAKKU,
NEL, PAARAM, PANAM, PATHAKKU, PON, UZHAKKU, VAKAIYARAA, VARAAKAN, VELI, VIRAMA, VISARGA;
TAMIL TRADITIONAL: CREDIT SIGN, NUMBER SIGN;
TAMIL VOWEL SIGN: AA, AI, AU, E, EE, I, II, O, OO, U, UU;
TANGSA DIGIT: EIGHT, FIVE, FOUR, NINE, ONE, SEVEN, SIX, THREE, TWO, ZERO;
TANGSA LETTER: AC, AQ, AWC, AWQ, AWX, AWZ, AX, AZ, BA, CA, CHA, DA, DHA, EC, EQ, EX, EZ, FA, FINAL
NG, GA, GHA, HA, HTA, HTTA, IC, IQ, IX, IZ, KA, KHA, LA, LONG UEX, MA, MC, MQ, MX, MZ, NA, NGA,
NHA, NYA, OC, OQ, OX, OZ, PA, PHA, RA, SA, SHA, SHORT AWX, SHORT UEZ, TA, THA, TSA, UC, UEC, UEQ,
UEX, UEZ, UIC, UIQ, UIUC, UIUQ, UIUX, UIUZ, UIX, UIZ, UQ, UX, UZ, VC, VQ, VX, VZ, WA, XA, YA, ZA;
TANGUT: COMPONENT-001, COMPONENT-002, COMPONENT-003, COMPONENT-004, COMPONENT-005, COMPONENT-006,
COMPONENT-007, COMPONENT-008, COMPONENT-009, COMPONENT-010, COMPONENT-011, COMPONENT-012,
COMPONENT-013, COMPONENT-014, COMPONENT-015, COMPONENT-016, COMPONENT-017, COMPONENT-018,
COMPONENT-019, COMPONENT-020, COMPONENT-021, COMPONENT-022, COMPONENT-023, COMPONENT-024,
COMPONENT-025, COMPONENT-026, COMPONENT-027, COMPONENT-028, COMPONENT-029, COMPONENT-030,
COMPONENT-031, COMPONENT-032, COMPONENT-033, COMPONENT-034, COMPONENT-035, COMPONENT-036,
COMPONENT-037, COMPONENT-038, COMPONENT-039, COMPONENT-040, COMPONENT-041, COMPONENT-042,
COMPONENT-043, COMPONENT-044, COMPONENT-045, COMPONENT-046, COMPONENT-047, COMPONENT-048,
COMPONENT-049, COMPONENT-050, COMPONENT-051, COMPONENT-052, COMPONENT-053, COMPONENT-054,
COMPONENT-055, COMPONENT-056, COMPONENT-057, COMPONENT-058, COMPONENT-059, COMPONENT-060,
COMPONENT-061, COMPONENT-062, COMPONENT-063, COMPONENT-064, COMPONENT-065, COMPONENT-066,
COMPONENT-067, COMPONENT-068, COMPONENT-069, COMPONENT-070, COMPONENT-071, COMPONENT-072,
COMPONENT-073, COMPONENT-074, COMPONENT-075, COMPONENT-076, COMPONENT-077, COMPONENT-078,
COMPONENT-079, COMPONENT-080, COMPONENT-081, COMPONENT-082, COMPONENT-083, COMPONENT-084,
COMPONENT-085, COMPONENT-086, COMPONENT-087, COMPONENT-088, COMPONENT-089, COMPONENT-090,
COMPONENT-091, COMPONENT-092, COMPONENT-093, COMPONENT-094, COMPONENT-095, COMPONENT-096,
COMPONENT-097, COMPONENT-098, COMPONENT-099, COMPONENT-100, COMPONENT-101, COMPONENT-102,
COMPONENT-103, COMPONENT-104, COMPONENT-105, COMPONENT-106, COMPONENT-107, COMPONENT-108,
COMPONENT-109, COMPONENT-110, COMPONENT-111, COMPONENT-112, COMPONENT-113, COMPONENT-114,
COMPONENT-115, COMPONENT-116, COMPONENT-117, COMPONENT-118, COMPONENT-119, COMPONENT-120,
COMPONENT-121, COMPONENT-122, COMPONENT-123, COMPONENT-124, COMPONENT-125, COMPONENT-126,
COMPONENT-127, COMPONENT-128, COMPONENT-129, COMPONENT-130, COMPONENT-131, COMPONENT-132,
COMPONENT-133, COMPONENT-134, COMPONENT-135, COMPONENT-136, COMPONENT-137, COMPONENT-138,
COMPONENT-139, COMPONENT-140, COMPONENT-141, COMPONENT-142, COMPONENT-143, COMPONENT-144,
COMPONENT-145, COMPONENT-146, COMPONENT-147, COMPONENT-148, COMPONENT-149, COMPONENT-150,
COMPONENT-151, COMPONENT-152, COMPONENT-153, COMPONENT-154, COMPONENT-155, COMPONENT-156,
COMPONENT-157, COMPONENT-158, COMPONENT-159, COMPONENT-160, COMPONENT-161, COMPONENT-162,
COMPONENT-163, COMPONENT-164, COMPONENT-165, COMPONENT-166, COMPONENT-167, COMPONENT-168,
COMPONENT-169, COMPONENT-170, COMPONENT-171, COMPONENT-172, COMPONENT-173, COMPONENT-174,
COMPONENT-175, COMPONENT-176, COMPONENT-177, COMPONENT-178, COMPONENT-179, COMPONENT-180,
COMPONENT-181, COMPONENT-182, COMPONENT-183, COMPONENT-184, COMPONENT-185, COMPONENT-186,
COMPONENT-187, COMPONENT-188, COMPONENT-189, COMPONENT-190, COMPONENT-191, COMPONENT-192,
COMPONENT-193, COMPONENT-194, COMPONENT-195, COMPONENT-196, COMPONENT-197, COMPONENT-198,
COMPONENT-199, COMPONENT-200, COMPONENT-201, COMPONENT-202, COMPONENT-203, COMPONENT-204,
COMPONENT-205, COMPONENT-206, COMPONENT-207, COMPONENT-208, COMPONENT-209, COMPONENT-210,
COMPONENT-211, COMPONENT-212, COMPONENT-213, COMPONENT-214, COMPONENT-215, COMPONENT-216,
COMPONENT-217, COMPONENT-218, COMPONENT-219, COMPONENT-220, COMPONENT-221, COMPONENT-222,
COMPONENT-223, COMPONENT-224, COMPONENT-225, COMPONENT-226, COMPONENT-227, COMPONENT-228,
COMPONENT-229, COMPONENT-230, COMPONENT-231, COMPONENT-232, COMPONENT-233, COMPONENT-234,
COMPONENT-235, COMPONENT-236, COMPONENT-237, COMPONENT-238, COMPONENT-239, COMPONENT-240,
COMPONENT-241, COMPONENT-242, COMPONENT-243, COMPONENT-244, COMPONENT-245, COMPONENT-246,
COMPONENT-247, COMPONENT-248, COMPONENT-249, COMPONENT-250, COMPONENT-251, COMPONENT-252,
COMPONENT-253, COMPONENT-254, COMPONENT-255, COMPONENT-256, COMPONENT-257, COMPONENT-258,
COMPONENT-259, COMPONENT-260, COMPONENT-261, COMPONENT-262, COMPONENT-263, COMPONENT-264,
COMPONENT-265, COMPONENT-266, COMPONENT-267, COMPONENT-268, COMPONENT-269, COMPONENT-270,
COMPONENT-271, COMPONENT-272, COMPONENT-273, COMPONENT-274, COMPONENT-275, COMPONENT-276,
COMPONENT-277, COMPONENT-278, COMPONENT-279, COMPONENT-280, COMPONENT-281, COMPONENT-282,
COMPONENT-283, COMPONENT-284, COMPONENT-285, COMPONENT-286, COMPONENT-287, COMPONENT-288,
COMPONENT-289, COMPONENT-290, COMPONENT-291, COMPONENT-292, COMPONENT-293, COMPONENT-294,
COMPONENT-295, COMPONENT-296, COMPONENT-297, COMPONENT-298, COMPONENT-299, COMPONENT-300,
COMPONENT-301, COMPONENT-302, COMPONENT-303, COMPONENT-304, COMPONENT-305, COMPONENT-306,
COMPONENT-307, COMPONENT-308, COMPONENT-309, COMPONENT-310, COMPONENT-311, COMPONENT-312,
COMPONENT-313, COMPONENT-314, COMPONENT-315, COMPONENT-316, COMPONENT-317, COMPONENT-318,
COMPONENT-319, COMPONENT-320, COMPONENT-321, COMPONENT-322, COMPONENT-323, COMPONENT-324,
COMPONENT-325, COMPONENT-326, COMPONENT-327, COMPONENT-328, COMPONENT-329, COMPONENT-330,
COMPONENT-331, COMPONENT-332, COMPONENT-333, COMPONENT-334, COMPONENT-335, COMPONENT-336,
COMPONENT-337, COMPONENT-338, COMPONENT-339, COMPONENT-340, COMPONENT-341, COMPONENT-342,
COMPONENT-343, COMPONENT-344, COMPONENT-345, COMPONENT-346, COMPONENT-347, COMPONENT-348,
COMPONENT-349, COMPONENT-350, COMPONENT-351, COMPONENT-352, COMPONENT-353, COMPONENT-354,
COMPONENT-355, COMPONENT-356, COMPONENT-357, COMPONENT-358, COMPONENT-359, COMPONENT-360,
COMPONENT-361, COMPONENT-362, COMPONENT-363, COMPONENT-364, COMPONENT-365, COMPONENT-366,
COMPONENT-367, COMPONENT-368, COMPONENT-369, COMPONENT-370, COMPONENT-371, COMPONENT-372,
COMPONENT-373, COMPONENT-374, COMPONENT-375, COMPONENT-376, COMPONENT-377, COMPONENT-378,
COMPONENT-379, COMPONENT-380, COMPONENT-381, COMPONENT-382, COMPONENT-383, COMPONENT-384,
COMPONENT-385, COMPONENT-386, COMPONENT-387, COMPONENT-388, COMPONENT-389, COMPONENT-390,
COMPONENT-391, COMPONENT-392, COMPONENT-393, COMPONENT-394, COMPONENT-395, COMPONENT-396,
COMPONENT-397, COMPONENT-398, COMPONENT-399, COMPONENT-400, COMPONENT-401, COMPONENT-402,
COMPONENT-403, COMPONENT-404, COMPONENT-405, COMPONENT-406, COMPONENT-407, COMPONENT-408,
COMPONENT-409, COMPONENT-410, COMPONENT-411, COMPONENT-412, COMPONENT-413, COMPONENT-414,
COMPONENT-415, COMPONENT-416, COMPONENT-417, COMPONENT-418, COMPONENT-419, COMPONENT-420,
COMPONENT-421, COMPONENT-422, COMPONENT-423, COMPONENT-424, COMPONENT-425, COMPONENT-426,
COMPONENT-427, COMPONENT-428, COMPONENT-429, COMPONENT-430, COMPONENT-431, COMPONENT-432,
COMPONENT-433, COMPONENT-434, COMPONENT-435, COMPONENT-436, COMPONENT-437, COMPONENT-438,
COMPONENT-439, COMPONENT-440, COMPONENT-441, COMPONENT-442, COMPONENT-443, COMPONENT-444,
COMPONENT-445, COMPONENT-446, COMPONENT-447, COMPONENT-448, COMPONENT-449, COMPONENT-450,
COMPONENT-451, COMPONENT-452, COMPONENT-453, COMPONENT-454, COMPONENT-455, COMPONENT-456,
COMPONENT-457, COMPONENT-458, COMPONENT-459, COMPONENT-460, COMPONENT-461, COMPONENT-462,
COMPONENT-463, COMPONENT-464, COMPONENT-465, COMPONENT-466, COMPONENT-467, COMPONENT-468,
COMPONENT-469, COMPONENT-470, COMPONENT-471, COMPONENT-472, COMPONENT-473, COMPONENT-474,
COMPONENT-475, COMPONENT-476, COMPONENT-477, COMPONENT-478, COMPONENT-479, COMPONENT-480,
COMPONENT-481, COMPONENT-482, COMPONENT-483, COMPONENT-484, COMPONENT-485, COMPONENT-486,
COMPONENT-487, COMPONENT-488, COMPONENT-489, COMPONENT-490, COMPONENT-491, COMPONENT-492,
COMPONENT-493, COMPONENT-494, COMPONENT-495, COMPONENT-496, COMPONENT-497, COMPONENT-498,
COMPONENT-499, COMPONENT-500, COMPONENT-501, COMPONENT-502, COMPONENT-503, COMPONENT-504,
COMPONENT-505, COMPONENT-506, COMPONENT-507, COMPONENT-508, COMPONENT-509, COMPONENT-510,
COMPONENT-511, COMPONENT-512, COMPONENT-513, COMPONENT-514, COMPONENT-515, COMPONENT-516,
COMPONENT-517, COMPONENT-518, COMPONENT-519, COMPONENT-520, COMPONENT-521, COMPONENT-522,
COMPONENT-523, COMPONENT-524, COMPONENT-525, COMPONENT-526, COMPONENT-527, COMPONENT-528,
COMPONENT-529, COMPONENT-530, COMPONENT-531, COMPONENT-532, COMPONENT-533, COMPONENT-534,
COMPONENT-535, COMPONENT-536, COMPONENT-537, COMPONENT-538, COMPONENT-539, COMPONENT-540,
COMPONENT-541, COMPONENT-542, COMPONENT-543, COMPONENT-544, COMPONENT-545, COMPONENT-546,
COMPONENT-547, COMPONENT-548, COMPONENT-549, COMPONENT-550, COMPONENT-551, COMPONENT-552,
COMPONENT-553, COMPONENT-554, COMPONENT-555, COMPONENT-556, COMPONENT-557, COMPONENT-558,
COMPONENT-559, COMPONENT-560, COMPONENT-561, COMPONENT-562, COMPONENT-563, COMPONENT-564,
COMPONENT-565, COMPONENT-566, COMPONENT-567, COMPONENT-568, COMPONENT-569, COMPONENT-570,
COMPONENT-571, COMPONENT-572, COMPONENT-573, COMPONENT-574, COMPONENT-575, COMPONENT-576,
COMPONENT-577, COMPONENT-578, COMPONENT-579, COMPONENT-580, COMPONENT-581, COMPONENT-582,
COMPONENT-583, COMPONENT-584, COMPONENT-585, COMPONENT-586, COMPONENT-587, COMPONENT-588,
COMPONENT-589, COMPONENT-590, COMPONENT-591, COMPONENT-592, COMPONENT-593, COMPONENT-594,
COMPONENT-595, COMPONENT-596, COMPONENT-597, COMPONENT-598, COMPONENT-599, COMPONENT-600,
COMPONENT-601, COMPONENT-602, COMPONENT-603, COMPONENT-604, COMPONENT-605, COMPONENT-606,
COMPONENT-607, COMPONENT-608, COMPONENT-609, COMPONENT-610, COMPONENT-611, COMPONENT-612,
COMPONENT-613, COMPONENT-614, COMPONENT-615, COMPONENT-616, COMPONENT-617, COMPONENT-618,
COMPONENT-619, COMPONENT-620, COMPONENT-621, COMPONENT-622, COMPONENT-623, COMPONENT-624,
COMPONENT-625, COMPONENT-626, COMPONENT-627, COMPONENT-628, COMPONENT-629, COMPONENT-630,
COMPONENT-631, COMPONENT-632, COMPONENT-633, COMPONENT-634, COMPONENT-635, COMPONENT-636,
COMPONENT-637, COMPONENT-638, COMPONENT-639, COMPONENT-640, COMPONENT-641, COMPONENT-642,
COMPONENT-643, COMPONENT-644, COMPONENT-645, COMPONENT-646, COMPONENT-647, COMPONENT-648,
COMPONENT-649, COMPONENT-650, COMPONENT-651, COMPONENT-652, COMPONENT-653, COMPONENT-654,
COMPONENT-655, COMPONENT-656, COMPONENT-657, COMPONENT-658, COMPONENT-659, COMPONENT-660,
COMPONENT-661, COMPONENT-662, COMPONENT-663, COMPONENT-664, COMPONENT-665, COMPONENT-666,
COMPONENT-667, COMPONENT-668, COMPONENT-669, COMPONENT-670, COMPONENT-671, COMPONENT-672,
COMPONENT-673, COMPONENT-674, COMPONENT-675, COMPONENT-676, COMPONENT-677, COMPONENT-678,
COMPONENT-679, COMPONENT-680, COMPONENT-681, COMPONENT-682, COMPONENT-683, COMPONENT-684,
COMPONENT-685, COMPONENT-686, COMPONENT-687, COMPONENT-688, COMPONENT-689, COMPONENT-690,
COMPONENT-691, COMPONENT-692, COMPONENT-693, COMPONENT-694, COMPONENT-695, COMPONENT-696,
COMPONENT-697, COMPONENT-698, COMPONENT-699, COMPONENT-700, COMPONENT-701, COMPONENT-702,
COMPONENT-703, COMPONENT-704, COMPONENT-705, COMPONENT-706, COMPONENT-707, COMPONENT-708,
COMPONENT-709, COMPONENT-710, COMPONENT-711, COMPONENT-712, COMPONENT-713, COMPONENT-714,
COMPONENT-715, COMPONENT-716, COMPONENT-717, COMPONENT-718, COMPONENT-719, COMPONENT-720,
COMPONENT-721, COMPONENT-722, COMPONENT-723, COMPONENT-724, COMPONENT-725, COMPONENT-726,
COMPONENT-727, COMPONENT-728, COMPONENT-729, COMPONENT-730, COMPONENT-731, COMPONENT-732,
COMPONENT-733, COMPONENT-734, COMPONENT-735, COMPONENT-736, COMPONENT-737, COMPONENT-738,
COMPONENT-739, COMPONENT-740, COMPONENT-741, COMPONENT-742, COMPONENT-743, COMPONENT-744,
COMPONENT-745, COMPONENT-746, COMPONENT-747, COMPONENT-748, COMPONENT-749, COMPONENT-750,
COMPONENT-751, COMPONENT-752, COMPONENT-753, COMPONENT-754, COMPONENT-755, COMPONENT-756,
COMPONENT-757, COMPONENT-758, COMPONENT-759, COMPONENT-760, COMPONENT-761, COMPONENT-762,
COMPONENT-763, COMPONENT-764, COMPONENT-765, COMPONENT-766, COMPONENT-767, COMPONENT-768,
ITERATION MARK;
TAPE: CARTRIDGE, DRIVE;
TELEPHONE: LOCATION SIGN, ON TOP OF MODEM, RECEIVER, RECEIVER WITH PAGE, RECORDER, SIGN;
TELUGU: AI LENGTH MARK, LENGTH MARK;
TELUGU DIGIT: EIGHT, FIVE, FOUR, NINE, ONE, SEVEN, SIX, THREE, TWO, ZERO;
TELUGU FRACTION DIGIT: ONE FOR EVEN POWERS OF FOUR, ONE FOR ODD POWERS OF FOUR, THREE FOR EVEN
POWERS OF FOUR, THREE FOR ODD POWERS OF FOUR, TWO FOR EVEN POWERS OF FOUR, TWO FOR ODD POWERS OF
FOUR, ZERO FOR ODD POWERS OF FOUR;
TELUGU LETTER: A, AA, AI, AU, BA, BHA, CA, CHA, DA, DDA, DDHA, DHA, DZA, E, EE, GA, GHA, HA, I,
II, JA, JHA, KA, KHA, LA, LLA, LLLA, MA, NA, NAKAARA POLLU, NGA, NNA, NYA, O, OO, PA, PHA, RA,
RRA, RRRA, SA, SHA, SSA, TA, THA, TSA, TTA, TTHA, U, UU, VA, YA;
TELUGU LETTER VOCALIC: L, LL, R, RR;
TELUGU SIGN: ANUSVARA, AVAGRAHA, CANDRABINDU, COMBINING ANUSVARA ABOVE, COMBINING CANDRABINDU
ABOVE, NUKTA, SIDDHAM, TUUMU, VIRAMA, VISARGA;
TELUGU VOWEL SIGN: AA, AI, AU, E, EE, I, II, O, OO, U, UU;
TELUGU VOWEL SIGN VOCALIC: L, LL, R, RR;
TETRAGRAM FOR: ACCUMULATION, ADVANCE, AGGRAVATION, ASCENT, BARRIER, BOLD RESOLUTION, BRANCHING
OUT, CENTRE, CHANGE, CLOSED MOUTH, CLOSENESS, CLOSURE, COMPLETION, COMPLIANCE, CONSTANCY, CONTACT,
CONTENTION, CONTRARIETY, DARKENING, DECISIVENESS, DEFECTIVENESS OR DISTORTION, DEPARTURE,
DIFFICULTIES, DIMINISHMENT, DIMMING, DIVERGENCE, DOUBT, DUTIES, EASE, EMBELLISHMENT, ENCOUNTERS,
ENDEAVOUR, ENLARGEMENT, ETERNITY, EXHAUSTION, FAILURE, FLIGHT, FOLLOWING, FOSTERING, FULL CIRCLE,
FULLNESS, GATHERING, GATHERING IN, GOING TO MEET, GREATNESS, GUARDEDNESS, HARDNESS, HOLDING BACK,
INCREASE, INNER, JOY, KEEPING SMALL, KINSHIP, LABOURING, LAW OR MODEL, LEGION, MASSING, MEASURE,
MIRED, ON THE VERGE, OPPOSITION, PACKING, PATTERN, PENETRATION, PURITY, REACH, RELEASE, RESIDENCE,
RESISTANCE, RESPONSE, RITUAL, SEVERANCE, SINKING, STOPPAGE, STOVE, STRENGTH, UNITY, VASTNESS OR
WASTING, WAITING, WATCH, YOUTHFULNESS;
THAANA: AABAAFILI, ABAFILI, EBEFILI, EEBEEFILI, EYBEYFILI, IBIFILI, OABOAFILI, OBOFILI, OOBOOFILI,
SUKUN, UBUFILI;
THAANA LETTER: AINU, ALIFU, BAA, CHAVIYANI, DAADHU, DAVIYANI, DHAALU, FAAFU, GAAFU, GHAINU,
GNAVIYANI, HAA, HHAA, JAVIYANI, KAAFU, KHAA, LAAMU, LHAVIYANI, MEEMU, NAA, NOONU, PAVIYANI, QAAFU,
RAA, SAADHU, SEENU, SHAVIYANI, SHEENU, TAVIYANI, THAA, THAALU, TO, TTAA, VAAVU, WAAVU, YAA, ZAA,
ZAVIYANI, ZO;
THAI CHARACTER: ANGKHANKHU, BO BAIMAI, CHO CHAN, CHO CHANG, CHO CHING, CHO CHOE, DO CHADA, DO DEK,
FO FA, FO FAN, FONGMAN, HO HIP, HO NOKHUK, KHO KHAI, KHO KHON, KHO KHUAT, KHO KHWAI, KHO RAKHANG,
KHOMUT, KO KAI, LAKKHANGYAO, LO CHULA, LO LING, LU, MAI CHATTAWA, MAI EK, MAI HAN-AKAT, MAI THO,
MAI TRI, MAITAIKHU, MAIYAMOK, MO MA, NGO NGU, NIKHAHIT, NO NEN, NO NU, O ANG, PAIYANNOI, PHINTHU,
PHO PHAN, PHO PHUNG, PHO SAMPHAO, PO PLA, RO RUA, RU, SO RUSI, SO SALA, SO SO, SO SUA,
THANTHAKHAT, TO PATAK, TO TAO, WO WAEN, YAMAKKAN, YO YAK, YO YING;
THAI CHARACTER SARA: A, AA, AE, AI MAIMALAI, AI MAIMUAN, AM, E, I, II, O, U, UE, UEE, UU;
THAI CHARACTER THO: NANGMONTHO, PHUTHAO, THAHAN, THAN, THONG, THUNG;
THAI DIGIT: EIGHT, FIVE, FOUR, NINE, ONE, SEVEN, SIX, THREE, TWO, ZERO;
THERE: DOES NOT EXIST, EXISTS;
THIN: GREEK CROSS, SALTIRE, SPACE;
THREE: BUTTON MOUSE, CONSECUTIVE EQUALS SIGNS, DIMENSIONAL ANGLE, DOT PUNCTUATION, LEFTWARDS
ARROWS, NETWORKED COMPUTERS, POINTED BLACK STAR, RIGHTWARDS ARROWS, SPEECH BUBBLES;
THREE LINES CONVERGING: LEFT, RIGHT;
THREE RAYS: ABOVE, BELOW, LEFT, RIGHT;
THREE-D: BOTTOM-LIGHTED RIGHTWARDS ARROWHEAD, LEFT-LIGHTED DOWNWARDS EQUILATERAL ARROWHEAD,
RIGHT-LIGHTED UPWARDS EQUILATERAL ARROWHEAD;
THREE-D TOP-LIGHTED: LEFTWARDS EQUILATERAL ARROWHEAD, RIGHTWARDS ARROWHEAD, RIGHTWARDS EQUILATERAL
ARROWHEAD;
THUMBS: DOWN SIGN, UP SIGN;
TIBETAN ASTROLOGICAL SIGN: -KHYUD PA, SDONG TSHUGS, SGRA GCAN -CHAR RTAGS;
TIBETAN CANTILLATION SIGN: CANG TE-U, HEAVY BEAT, LIGHT BEAT, SBUB -CHAL;
TIBETAN DIGIT: EIGHT, FIVE, FOUR, NINE, ONE, SEVEN, SIX, THREE, TWO, ZERO;
TIBETAN DIGIT HALF: EIGHT, FIVE, FOUR, NINE, ONE, SEVEN, SIX, THREE, TWO, ZERO;
TIBETAN KU RU KHA: ., BZHI MIG CAN;
TIBETAN LETTER: -A, A, BA, BHA, CA, CHA, DA, DDA, DDHA, DHA, DZA, DZHA, FIXED-FORM RA, GA, GHA,
HA, JA, KA, KHA, KKA, KSSA, LA, MA, NA, NGA, NNA, NYA, PA, PHA, RA, RRA, SA, SHA, SSA, TA, THA,
TSA, TSHA, TTA, TTHA, WA, YA, ZA, ZHA;
TIBETAN LOGOTYPE SIGN: CHAD RTAGS, LHAG RTAGS;
TIBETAN MARK: ANG KHANG GYAS, ANG KHANG GYON, BKA- SHOG GI MGO RGYAN, BKA- SHOG YIG MGO, BSDUS
RTAGS, BSKA- SHOG GI MGO RGYAN, BSKUR YIG MGO, CARET YIG MGO PHUR SHAD MA, CHE MGO, CLOSING BRDA
RNYING YIG MGO SGAB MA, CLOSING YIG MGO SGAB MA, DELIMITER TSHEG BSTAR, GTER TSHEG, GUG RTAGS
GYAS, GUG RTAGS GYON, HALANTA, INITIAL BRDA RNYING YIG MGO MDUN MA, INITIAL YIG MGO MDUN MA,
INTERSYLLABIC TSHEG, LEADING MCHAN RTAGS, MNYAM YIG GI MGO RGYAN, NGAS BZUNG NYI ZLA, NGAS BZUNG
SGOR RTAGS, NYIS SHAD, NYIS TSHEG, NYIS TSHEG SHAD, PALUTA, RGYA GRAM SHAD, RIN CHEN SPUNGS SHAD,
SBRUL SHAD, SHAD, TRAILING MCHAN RTAGS, TSA -PHRU, TSHEG SHAD, YIG MGO TSHEG SHAD MA;
TIBETAN MARK CARET -DZUD RTAGS: BZHI MIG CAN, ME LONG CAN;
TIBETAN MARK GTER YIG MGO: -UM GTER TSHEG MA, -UM RNAM BCAD MA, TRUNCATED A;
TIBETAN SIGN: GRU CAN RGYINGS, GRU MED RGYINGS, INVERTED MCHU CAN, LCE TSA CAN, LCI RTAGS, MAR
TSHES, MCHU CAN, NYI ZLA NAA DA, RJES SU NGA RO, RNAM BCAD, SNA LDAN, YANG RTAGS, YAR TSHES;
TIBETAN SIGN RDEL DKAR: GCIG, GNYIS, GSUM, RDEL NAG;
TIBETAN SIGN RDEL NAG: GCIG, GNYIS, GSUM, RDEL DKAR;
TIBETAN SUBJOINED LETTER: -A, A, BA, BHA, CA, CHA, DA, DDA, DDHA, DHA, DZA, DZHA, FIXED-FORM RA,
FIXED-FORM WA, FIXED-FORM YA, GA, GHA, HA, JA, KA, KHA, KSSA, LA, MA, NA, NGA, NNA, NYA, PA, PHA,
RA, SA, SHA, SSA, TA, THA, TSA, TSHA, TTA, TTHA, WA, YA, ZA, ZHA;
TIBETAN SUBJOINED SIGN: INVERTED MCHU CAN, LCE TSA CAN, MCHU CAN;
TIBETAN SYMBOL: DRIL BU, PADMA GDAN, PHUR PA, RDO RJE, RDO RJE RGYA GRAM;
TIBETAN SYMBOL NOR BU: ., BZHI -KHYIL, GSUM -KHYIL, NYIS -KHYIL;
TIBETAN VOWEL SIGN: AA, E, EE, I, II, O, OO, REVERSED I, REVERSED II, U, UU;
TIBETAN VOWEL SIGN VOCALIC: L, LL, R, RR;
TIFINAGH: CONSONANT JOINER, MODIFIER LETTER LABIALIZATION MARK, SEPARATOR MARK;
TIFINAGH LETTER: AHAGGAR YAZH, AYER YAGH, BERBER ACADEMY YAH, BERBER ACADEMY YAJ, TAWELLEMET YAZ,
YA, YAA, YAB, YABH, YACH, YAD, YADD, YADDH, YADH, YAF, YAG, YAGH, YAGHH, YAH, YAHH, YAJ, YAK,
YAKH, YAKHH, YAL, YAM, YAN, YAP, YAQ, YAR, YARR, YAS, YASH, YASS, YAT, YATH, YATT, YAV, YAW, YAY,
YAZ, YAZH, YAZZ, YE, YEY, YI, YO, YU;
TIFINAGH LETTER TUAREG: YAGH, YAGN, YAH, YAK, YAKH, YANG, YAQ, YAZH;
TIGER: ., FACE;
TILDE OPERATOR: ., ABOVE LEFTWARDS ARROW, ABOVE RIGHTWARDS ARROW, WITH DOT ABOVE, WITH RISING DOTS;
TILDE WITH: DOT ABOVE, DOT BELOW, RING ABOVE;
TIMES WITH: LEFT HALF BLACK, RIGHT HALF BLACK;
TINY: ., TWO DOTS OVER ONE DOT PUNCTUATION;
TIRHUTA: ABBREVIATION SIGN, ANJI, GVANG, OM;
TIRHUTA DIGIT: EIGHT, FIVE, FOUR, NINE, ONE, SEVEN, SIX, THREE, TWO, ZERO;
TIRHUTA LETTER: A, AA, AI, AU, BA, BHA, CA, CHA, DA, DDA, DDHA, DHA, E, GA, GHA, HA, I, II, JA,
JHA, KA, KHA, LA, MA, NA, NGA, NNA, NYA, O, PA, PHA, RA, SA, SHA, SSA, TA, THA, TTA, TTHA, U, UU,
VA, YA;
TIRHUTA LETTER VOCALIC: L, LL, R, RR;
TIRHUTA SIGN: ANUSVARA, AVAGRAHA, CANDRABINDU, NUKTA, VIRAMA, VISARGA;
TIRHUTA VOWEL SIGN: AA, AI, AU, E, I, II, O, SHORT E, SHORT O, U, UU;
TIRHUTA VOWEL SIGN VOCALIC: L, LL, R, RR;
TIRONIAN SIGN: CAPITAL ET, ET;
TOP: ARC CLOCKWISE ARROW WITH MINUS, CURLY BRACKET, HAT, PARENTHESIS, SQUARE BRACKET, TORTOISE
SHELL BRACKET, WITH UPWARDS ARROW ABOVE;
TOP ARC ANTICLOCKWISE ARROW: ., WITH PLUS;
TOP HALF: BLACK CIRCLE, INTEGRAL, LEFT PARENTHESIS, RIGHT PARENTHESIS, SECTION SIGN;
TOP LEFT: CORNER, CROP, HALF BRACKET;
TOP RIGHT: CORNER, CROP, HALF BRACKET;
TORTOISE SHELL BRACKETED CJK UNIFIED: IDEOGRAPH-4E09, IDEOGRAPH-4E8C, IDEOGRAPH-52DD,
IDEOGRAPH-5B89, IDEOGRAPH-6253, IDEOGRAPH-6557, IDEOGRAPH-672C, IDEOGRAPH-70B9, IDEOGRAPH-76D7;
TOTO LETTER: A, AE, BA, CHA, DA, E, EO, GA, HA, I, IU, JA, KA, LA, MA, NA, NGA, O, PA, RA, SA, TA,
U, WA, YA;
TOTO LETTER BREATHY: AE, E, EO, I, IU;
TRAM: ., CAR;
TRIANGLE WITH: DOT ABOVE, ROUNDED CORNERS, SERIFS AT BOTTOM, UNDERBAR;
TRIANGULAR: BULLET, FLAG ON POST, RULER;
TRIGRAM FOR: EARTH, FIRE, HEAVEN, LAKE, MOUNTAIN, THUNDER, WATER, WIND;
TRIPLE: COLON OPERATOR, DAGGER, INTEGRAL, NESTED GREATER-THAN, NESTED LESS-THAN, PLUS, PRIME,
SOLIDUS BINARY RELATION, TILDE;
TRIPLE HORIZONTAL BAR WITH: DOUBLE VERTICAL STROKE, TRIPLE VERTICAL STROKE;
TRIPLE VERTICAL BAR: BINARY RELATION, DELIMITER, RIGHT TURNSTILE, WITH HORIZONTAL STROKE;
TROPICAL: DRINK, FISH;
TRUE: ., LIGHT MOON ARTA;
TURNED: AMPERSAND, ANGLE, BLACK PENTAGON, BLACK SHOGI PIECE, CAPITAL F, COMMA, DAGGER, DIGIT
THREE, DIGIT TWO, GREEK SMALL LETTER IOTA, NORTH EAST POINTING LEAF, NORTH WEST POINTING LEAF, NOT
SIGN, OK HAND SIGN, SEMICOLON, SMALL F, SOUTH EAST POINTING LEAF, SOUTH WEST POINTING LEAF, WHITE
SHOGI PIECE;
TURNED SANS-SERIF CAPITAL: G, L, Y;
TWO: ASTERISKS ALIGNED VERTICALLY, BUTTON MOUSE, CONSECUTIVE EQUALS SIGNS, DOT LEADER, DOT
PUNCTUATION, DOTS OVER ONE DOT PUNCTUATION, HEARTS, JOINED SQUARES, MEN HOLDING HANDS, SPEECH
BUBBLES, WOMEN HOLDING HANDS;
TWO INTERSECTING LOGICAL: AND, OR;
TWO LOGICAL: AND OPERATOR, OR OPERATOR;
UGARITIC LETTER: AIN, ALPA, BETA, DELTA, DHAL, GAMLA, GHAIN, HO, HOTA, I, KAF, KHA, LAMDA, MEM,
NUN, PU, QOPA, RASHA, SADE, SAMKA, SHIN, SSU, TET, THANNA, TO, U, WO, YOD, ZETA, ZU;
UMBRELLA: ., ON GROUND, WITH RAIN DROPS;
UNION: ., ABOVE BAR ABOVE INTERSECTION, ABOVE INTERSECTION, BESIDE AND JOINED WITH UNION;
UNION WITH: LOGICAL OR, MINUS SIGN, OVERBAR;
UP: ARROW THROUGH CIRCLE, FISH TAIL, RIGHT DIAGONAL ELLIPSIS, TACK, TACK WITH CIRCLE ABOVE;
UP ARROWHEAD: ., BETWEEN TWO HORIZONTAL BARS, IN A RECTANGLE BOX;
UP BARB LEFT DOWN BARB: LEFT HARPOON, RIGHT HARPOON;
UP BARB RIGHT DOWN BARB: LEFT HARPOON, RIGHT HARPOON;
UP DOWN: ARROW, ARROW WITH BASE, BLACK ARROW, DOUBLE ARROW, SANS-SERIF ARROW, TRIANGLE-HEADED
ARROW, WHITE ARROW;
UP-POINTING: AIRPLANE, MILITARY AIRPLANE, RED TRIANGLE, SMALL AIRPLANE, SMALL RED TRIANGLE,
TRIANGLE WITH LEFT HALF BLACK, TRIANGLE WITH RIGHT HALF BLACK;
UPPER: BLADE SCISSORS, FIVE EIGHTHS BLOCK, ONE EIGHTH BLOCK, ONE QUARTER BLOCK, SEVEN EIGHTHS
BLOCK, THREE EIGHTHS BLOCK, THREE QUARTERS BLOCK, TRIANGULAR ONE QUARTER BLOCK;
UPPER AND: LEFT AND LOWER TRIANGULAR THREE QUARTERS BLOCK, LOWER ONE EIGHTH BLOCK, LOWER
TRIANGULAR HALF BLOCK, RIGHT AND LOWER TRIANGULAR THREE QUARTERS BLOCK;
UPPER HALF: BLOCK, BLOCK AND LOWER HALF INVERSE MEDIUM SHADE, CIRCLE, INVERSE MEDIUM SHADE AND
LOWER HALF BLOCK, INVERSE WHITE CIRCLE, MEDIUM SHADE;
UPPER LEFT: CORNER WITH DOT, OR LOWER RIGHT CURLY BRACKET SECTION, QUADRANT CIRCULAR ARC, TO LOWER
RIGHT FILL, TRIANGLE, TRIANGULAR MEDIUM SHADE;
UPPER LEFT BLOCK DIAGONAL LOWER CENTRE TO: LOWER MIDDLE RIGHT, UPPER MIDDLE RIGHT, UPPER RIGHT;
UPPER LEFT BLOCK DIAGONAL LOWER LEFT TO: LOWER MIDDLE RIGHT, UPPER CENTRE, UPPER MIDDLE RIGHT;
UPPER LEFT BLOCK DIAGONAL LOWER MIDDLE LEFT TO UPPER: CENTRE, MIDDLE RIGHT, RIGHT;
UPPER LEFT BLOCK DIAGONAL UPPER MIDDLE LEFT TO UPPER: CENTRE, RIGHT;
UPPER RIGHT: DROP-SHADOWED WHITE SQUARE, OR LOWER LEFT CURLY BRACKET SECTION, PENCIL, QUADRANT
CIRCULAR ARC, TO LOWER LEFT FILL, TRIANGLE, TRIANGULAR MEDIUM SHADE;
UPPER RIGHT BLOCK DIAGONAL LOWER MIDDLE LEFT TO LOWER: CENTRE, RIGHT;
UPPER RIGHT BLOCK DIAGONAL UPPER CENTRE TO: LOWER MIDDLE RIGHT, LOWER RIGHT, UPPER MIDDLE RIGHT;
UPPER RIGHT BLOCK DIAGONAL UPPER LEFT TO: LOWER CENTRE, LOWER MIDDLE RIGHT, UPPER MIDDLE RIGHT;
UPPER RIGHT BLOCK DIAGONAL UPPER MIDDLE LEFT TO LOWER: CENTRE, MIDDLE RIGHT, RIGHT;
UPPER RIGHT SHADOWED WHITE: CIRCLE, SQUARE;
UPWARDS: ANCORA, BLACK ARROW, BLACK CIRCLED WHITE ARROW, COMPRESSED ARROW, DASHED ARROW, DOUBLE
ARROW, FINGER-POST ARROW, HEAVY ARROW, HEAVY COMPRESSED ARROW, PAIRED ARROWS, QUADRUPLE ARROW,
ROCKET, SANS-SERIF ARROW, SQUARED ARROW, TRIANGLE ARROWHEAD, TRIPLE ARROW, TWO HEADED ARROW;
UPWARDS ARROW: ., AND RIGHT ONE EIGHTH BLOCK, FROM BAR, LEFTWARDS OF DOWNWARDS ARROW, TO BAR;
UPWARDS ARROW WITH: DOUBLE STROKE, EQUILATERAL ARROWHEAD, HORIZONTAL STROKE, LARGE TRIANGLE
ARROWHEAD, MEDIUM TRIANGLE ARROWHEAD, NOTCHED TAIL, SMALL EQUILATERAL ARROWHEAD, SMALL TRIANGLE
ARROWHEAD, TIP LEFTWARDS, TIP RIGHTWARDS;
UPWARDS HARPOON WITH BARB: LEFT BESIDE DOWNWARDS HARPOON WITH BARB RIGHT, LEFT BESIDE UPWARDS
HARPOON WITH BARB RIGHT, LEFT FROM BAR, LEFT TO BAR, LEFTWARDS, RIGHT FROM BAR, RIGHT TO BAR,
RIGHTWARDS;
UPWARDS TRIANGLE-HEADED: ARROW, ARROW LEFTWARDS OF DOWNWARDS TRIANGLE-HEADED ARROW, ARROW TO BAR,
DASHED ARROW, PAIRED ARROWS;
UPWARDS TRIANGLE-HEADED ARROW WITH: BOLD SHAFT, DOUBLE HORIZONTAL STROKE, HEAVY SHAFT, LONG TIP
LEFTWARDS, LONG TIP RIGHTWARDS, MEDIUM SHAFT, NARROW SHAFT, VERY HEAVY SHAFT;
UPWARDS TWO-HEADED ARROW: FROM SMALL CIRCLE, WITH TRIANGLE ARROWHEADS;
UPWARDS WHITE ARROW: ., FROM BAR, FROM BAR WITH HORIZONTAL BAR, WITHIN TRIANGLE ARROWHEAD;
UPWARDS WHITE ARROW ON PEDESTAL: ., WITH HORIZONTAL BAR, WITH VERTICAL BAR;
UPWARDS WHITE DOUBLE ARROW: ., ON PEDESTAL;
VAI: COMMA, FULL STOP, QUESTION MARK;
VAI DIGIT: EIGHT, FIVE, FOUR, NINE, ONE, SEVEN, SIX, THREE, TWO, ZERO;
VAI SYLLABLE: A, AN, BA, BE, BEE, BHA, BHE, BHEE, BHI, BHO, BHOO, BHU, BI, BO, BOO, BU, CA, CE,
CEE, CI, CO, COO, CU, DA, DE, DEE, DHA, DHE, DHEE, DHHA, DHHE, DHHEE, DHHI, DHHO, DHHOO, DHHU,
DHI, DHO, DHOO, DHU, DI, DO, DOO, DU, E, EE, EEN, EN, FA, FE, FEE, FI, FO, FOO, FU, GA, GBA, GBE,
GBEE, GBEN, GBI, GBO, GBON, GBOO, GBU, GE, GEE, GEN, GI, GO, GOO, GU, HA, HAN, HE, HEE, HEN, HI,
HIN, HO, HON, HOO, HU, HUN, I, IN, JA, JE, JEE, JI, JO, JOO, JU, KA, KAN, KE, KEE, KI, KO, KOO,
KPA, KPAN, KPE, KPEE, KPEN, KPI, KPO, KPOO, KPU, KU, LA, LE, LEE, LENGTHENER, LI, LO, LOO, LU, MA,
MBA, MBE, MBEE, MBI, MBO, MBOO, MBU, ME, MEE, MGBA, MGBE, MGBEE, MGBI, MGBO, MGBOO, MGBU, MI, MO,
MOO, MU, NA, NDA, NDE, NDEE, NDI, NDO, NDOO, NDU, NE, NEE, NG, NGAN, NGEN, NGGA, NGGE, NGGEE,
NGGEN, NGGI, NGGO, NGGOO, NGGU, NGON, NI, NJA, NJE, NJEE, NJI, NJO, NJOO, NJU, NO, NOO, NU, NYA,
NYE, NYEE, NYI, NYO, NYOO, NYU, O, ON, OO, OON, PA, PE, PEE, PI, PO, POO, PU, RA, RE, REE, RI, RO,
ROO, RU, SA, SE, SEE, SHA, SHE, SHEE, SHI, SHO, SHOO, SHU, SI, SO, SOO, SU, TA, TE, TEE, THA, THE,
THEE, THI, THO, THOO, THU, TI, TO, TOO, TU, U, UN, VA, VE, VEE, VI, VO, VOO, VU, WA, WAN, WE, WEE,
WEEN, WEN, WI, WIN, WO, WON, WOO, WOON, WU, WUN, YA, YE, YEE, YI, YO, YOO, YU, ZA, ZE, ZEE, ZHA,
ZHE, ZHEE, ZHI, ZHO, ZHOO, ZHU, ZI, ZO, ZOO, ZU;
VAI SYLLABLE NDOLE: DO, FA, KA, MA, SOO;
VAI SYMBOL: BANG, DANG, DO-O, DOONG, FAA, FEENG, JONG, KEENG, KUNG, NII, TAA, TING, TONG;
VARIATION: SELECTOR-1, SELECTOR-10, SELECTOR-100, SELECTOR-101, SELECTOR-102, SELECTOR-103,
SELECTOR-104, SELECTOR-105, SELECTOR-106, SELECTOR-107, SELECTOR-108, SELECTOR-109, SELECTOR-11,
SELECTOR-110, SELECTOR-111, SELECTOR-112, SELECTOR-113, SELECTOR-114, SELECTOR-115, SELECTOR-116,
SELECTOR-117, SELECTOR-118, SELECTOR-119, SELECTOR-12, SELECTOR-120, SELECTOR-121, SELECTOR-122,
SELECTOR-123, SELECTOR-124, SELECTOR-125, SELECTOR-126, SELECTOR-127, SELECTOR-128, SELECTOR-129,
SELECTOR-13, SELECTOR-130, SELECTOR-131, SELECTOR-132, SELECTOR-133, SELECTOR-134, SELECTOR-135,
SELECTOR-136, SELECTOR-137, SELECTOR-138, SELECTOR-139, SELECTOR-14, SELECTOR-140, SELECTOR-141,
SELECTOR-142, SELECTOR-143, SELECTOR-144, SELECTOR-145, SELECTOR-146, SELECTOR-147, SELECTOR-148,
SELECTOR-149, SELECTOR-15, SELECTOR-150, SELECTOR-151, SELECTOR-152, SELECTOR-153, SELECTOR-154,
SELECTOR-155, SELECTOR-156, SELECTOR-157, SELECTOR-158, SELECTOR-159, SELECTOR-16, SELECTOR-160,
SELECTOR-161, SELECTOR-162, SELECTOR-163, SELECTOR-164, SELECTOR-165, SELECTOR-166, SELECTOR-167,
SELECTOR-168, SELECTOR-169, SELECTOR-17, SELECTOR-170, SELECTOR-171, SELECTOR-172, SELECTOR-173,
SELECTOR-174, SELECTOR-175, SELECTOR-176, SELECTOR-177, SELECTOR-178, SELECTOR-179, SELECTOR-18,
SELECTOR-180, SELECTOR-181, SELECTOR-182, SELECTOR-183, SELECTOR-184, SELECTOR-185, SELECTOR-186,
SELECTOR-187, SELECTOR-188, SELECTOR-189, SELECTOR-19, SELECTOR-190, SELECTOR-191, SELECTOR-192,
SELECTOR-193, SELECTOR-194, SELECTOR-195, SELECTOR-196, SELECTOR-197, SELECTOR-198, SELECTOR-199,
SELECTOR-2, SELECTOR-20, SELECTOR-200, SELECTOR-201, SELECTOR-202, SELECTOR-203, SELECTOR-204,
SELECTOR-205, SELECTOR-206, SELECTOR-207, SELECTOR-208, SELECTOR-209, SELECTOR-21, SELECTOR-210,
SELECTOR-211, SELECTOR-212, SELECTOR-213, SELECTOR-214, SELECTOR-215, SELECTOR-216, SELECTOR-217,
SELECTOR-218, SELECTOR-219, SELECTOR-22, SELECTOR-220, SELECTOR-221, SELECTOR-222, SELECTOR-223,
SELECTOR-224, SELECTOR-225, SELECTOR-226, SELECTOR-227, SELECTOR-228, SELECTOR-229, SELECTOR-23,
SELECTOR-230, SELECTOR-231, SELECTOR-232, SELECTOR-233, SELECTOR-234, SELECTOR-235, SELECTOR-236,
SELECTOR-237, SELECTOR-238, SELECTOR-239, SELECTOR-24, SELECTOR-240, SELECTOR-241, SELECTOR-242,
SELECTOR-243, SELECTOR-244, SELECTOR-245, SELECTOR-246, SELECTOR-247, SELECTOR-248, SELECTOR-249,
SELECTOR-25, SELECTOR-250, SELECTOR-251, SELECTOR-252, SELECTOR-253, SELECTOR-254, SELECTOR-255,
SELECTOR-256, SELECTOR-26, SELECTOR-27, SELECTOR-28, SELECTOR-29, SELECTOR-3, SELECTOR-30,
SELECTOR-31, SELECTOR-32, SELECTOR-33, SELECTOR-34, SELECTOR-35, SELECTOR-36, SELECTOR-37,
SELECTOR-38, SELECTOR-39, SELECTOR-4, SELECTOR-40, SELECTOR-41, SELECTOR-42, SELECTOR-43,
SELECTOR-44, SELECTOR-45, SELECTOR-46, SELECTOR-47, SELECTOR-48, SELECTOR-49, SELECTOR-5,
SELECTOR-50, SELECTOR-51, SELECTOR-52, SELECTOR-53, SELECTOR-54, SELECTOR-55, SELECTOR-56,
SELECTOR-57, SELECTOR-58, SELECTOR-59, SELECTOR-6, SELECTOR-60, SELECTOR-61, SELECTOR-62,
SELECTOR-63, SELECTOR-64, SELECTOR-65, SELECTOR-66, SELECTOR-67, SELECTOR-68, SELECTOR-69,
SELECTOR-7, SELECTOR-70, SELECTOR-71, SELECTOR-72, SELECTOR-73, SELECTOR-74, SELECTOR-75,
SELECTOR-76, SELECTOR-77, SELECTOR-78, SELECTOR-79, SELECTOR-8, SELECTOR-80, SELECTOR-81,
SELECTOR-82, SELECTOR-83, SELECTOR-84, SELECTOR-85, SELECTOR-86, SELECTOR-87, SELECTOR-88,
SELECTOR-89, SELECTOR-9, SELECTOR-90, SELECTOR-91, SELECTOR-92, SELECTOR-93, SELECTOR-94,
SELECTOR-95, SELECTOR-96, SELECTOR-97, SELECTOR-98, SELECTOR-99;
VEDIC SIGN: ARDHAVISARGA, ATIKRAMA, DOUBLE ANUSVARA ANTARGOMUKHA, HEXIFORM LONG ANUSVARA,
JIHVAMULIYA, LONG ANUSVARA, NIHSHVASA, ROTATED ARDHAVISARGA, RTHANG LONG ANUSVARA, TIRYAK,
UPADHMANIYA, YAJURVEDIC MIDLINE SVARITA;
VEDIC SIGN ANUSVARA: ANTARGOMUKHA, BAHIRGOMUKHA, UBHAYATO MUKHA, VAMAGOMUKHA, VAMAGOMUKHA WITH
TAIL;
VEDIC SIGN REVERSED VISARGA: ANUDATTA, UDATTA;
VEDIC SIGN VISARGA: ANUDATTA, ANUDATTA WITH TAIL, SVARITA, UDATTA, UDATTA WITH TAIL;
VEDIC TONE: ATHARVAVEDIC INDEPENDENT SVARITA, CANDRA ABOVE, CANDRA BELOW, DOT BELOW, DOUBLE RING
ABOVE, DOUBLE SVARITA, KARSHANA, KATHAKA ANUDATTA, PRENKHA, RIGVEDIC KASHMIRI INDEPENDENT SVARITA,
RING ABOVE, SHARA, THREE DOTS BELOW, TRIPLE SVARITA, TWO DOTS BELOW, YAJURVEDIC AGGRAVATED
INDEPENDENT SVARITA, YAJURVEDIC INDEPENDENT SVARITA;
VEDIC TONE YAJURVEDIC KATHAKA INDEPENDENT SVARITA: ., SCHROEDER;
VERTICAL: ELLIPSIS, FOUR DOTS, IDEOGRAPHIC ITERATION MARK, LINE, LINE EXTENSION, MALE WITH STROKE
SIGN, SIX DOTS, TAB KEY, TABULATION, TABULATION SET, TILDE, TRAFFIC LIGHT, ZIGZAG LINE;
VERTICAL BAR: BESIDE RIGHT TRIANGLE, DOUBLE LEFT TURNSTILE, TRIPLE RIGHT TURNSTILE, WITH
HORIZONTAL STROKE;
VERTICAL KANA REPEAT MARK: ., LOWER HALF, UPPER HALF;
VERTICAL KANA REPEAT WITH VOICED SOUND MARK: ., UPPER HALF;
VERTICAL LINE WITH: CIRCLE ABOVE, CIRCLE BELOW, MIDDLE DOT;
VERTICAL ONE EIGHTH: BLOCK-2, BLOCK-3, BLOCK-4, BLOCK-5, BLOCK-6, BLOCK-7;
VERY HEAVY: EIGHT POINTED BLACK STAR, EIGHT SPOKED ASTERISK, FIVE SPOKED ASTERISK, GREEK CROSS,
REVERSE SOLIDUS, SALTIRE, SIX SPOKED ASTERISK, SOLIDUS, WHITE CIRCLE, WHITE SQUARE;
VERY MUCH: GREATER-THAN, LESS-THAN;
VIDEO: CAMERA, GAME;
VIETNAMESE ALTERNATE READING MARK: CA, NHAY;
VITHKUQI CAPITAL LETTER: A, BBE, BE, CE, CHE, DE, DHE, E, EI, FE, GA, HA, HHA, I, IJE, JE, KA, LA,
LLA, ME, NE, NJE, O, PE, QA, RE, SE, SHE, TE, THE, U, VE, XE, Y, ZE;
VITHKUQI SMALL LETTER: A, BBE, BE, CE, CHE, DE, DHE, E, EI, FE, GA, HA, HHA, I, IJE, JE, KA, LA,
LLA, ME, NE, NJE, O, PE, QA, RE, SE, SHE, TE, THE, U, VE, XE, Y, ZE;
VULGAR FRACTION: FIVE EIGHTHS, FIVE SIXTHS, FOUR FIFTHS, SEVEN EIGHTHS, THREE EIGHTHS, THREE
FIFTHS, THREE QUARTERS, TWO FIFTHS, TWO THIRDS, ZERO THIRDS;
VULGAR FRACTION ONE: EIGHTH, FIFTH, HALF, NINTH, QUARTER, SEVENTH, SIXTH, TENTH, THIRD;
WANCHO DIGIT: EIGHT, FIVE, FOUR, NINE, ONE, SEVEN, SIX, THREE, TWO, ZERO;
WANCHO LETTER: A, AA, AAN, AANG, ANG, AU, BA, CA, DA, E, EN, FA, GA, HA, I, ING, JA, KA, KHA, LA,
LLHA, MA, NA, NGA, NYA, O, ON, ONG, PA, PHA, RA, SA, SHA, TA, THA, TRA, TSA, U, UEN, VA, WA, YA,
YIH, ZA;
WANCHO TONE: KOI, KOINI, TUP, TUPNI;
WANING: CRESCENT MOON SYMBOL, GIBBOUS MOON SYMBOL;
WARANG CITI CAPITAL LETTER: A, AM, ANG, AT, BU, DA, E, ENN, ENY, GA, HAR, HIYO, HOLO, HORR, II,
KO, NGAA, NUNG, O, ODD, PU, SII, SSUU, TTE, UC, UU, VIYO, WI, YA, YO, YU, YUJ;
WARANG CITI DIGIT: EIGHT, FIVE, FOUR, NINE, ONE, SEVEN, SIX, THREE, TWO, ZERO;
WARANG CITI NUMBER: EIGHTY, FIFTY, FORTY, NINETY, SEVENTY, SIXTY, TEN, THIRTY, TWENTY;
WARANG CITI SMALL LETTER: A, AM, ANG, AT, BU, DA, E, ENN, ENY, GA, HAR, HIYO, HOLO, HORR, II, KO,
NGAA, NUNG, O, ODD, PU, SII, SSUU, TTE, UC, UU, VIYO, WI, YA, YO, YU, YUJ;
WATER: BUFFALO, CLOSET, POLO, WAVE;
WAVE ARROW POINTING DIRECTLY: LEFT, RIGHT;
WAVING: BLACK FLAG, HAND SIGN, WHITE FLAG;
WAVY: DASH, LINE, LOW LINE, OVERLINE;
WAXING: CRESCENT MOON SYMBOL, GIBBOUS MOON SYMBOL;
WEARY: CAT FACE, FACE;
WHEEL: ., OF DHARMA;
WHITE: BULLET, CIRCLE, CIRCLE CONTAINING BLACK SMALL CIRCLE, CLUB SUIT, EXCLAMATION MARK ORNAMENT,
FLAG, FLAG WITH HORIZONTAL MIDDLE BLACK STRIPE, FLORETTE, FLOWER, FROWNING FACE, HARD SHELL FLOPPY
DISK, HEART, HEART SUIT, HEAVY CHECK MARK, HEAVY SALTIRE WITH ROUNDED CORNERS, HEXAGON, HORIZONTAL
ELLIPSE, HOURGLASS, LARGE SQUARE, LATIN CROSS, LEFT LANE MERGE, LOZENGE CONTAINING BLACK SMALL
LOZENGE, MOON SELENA, NIB, PARALLELOGRAM, PENNANT, PENTAGON, QUESTION MARK ORNAMENT, RECTANGLE,
SCISSORS, SESAME DOT, SHOGI PIECE, SMILING FACE, SPADE SUIT, SQUARE, SQUARE BUTTON, STAR, SUN,
TELEPHONE, TOUCHTONE TELEPHONE, TRAPEZIUM, TRIANGLE CONTAINING SMALL WHITE TRIANGLE, TWO-WAY LEFT
WAY TRAFFIC, VERY SMALL SQUARE;
WHITE ARROW SHAFT WIDTH: ONE, TWO THIRDS;
WHITE CHESS: BISHOP, EQUIHOPPER, EQUIHOPPER ROTATED NINETY DEGREES, KING, KING ROTATED NINETY
DEGREES, KING ROTATED TWO HUNDRED SEVENTY DEGREES, KNIGHT, KNIGHT-BISHOP, KNIGHT-QUEEN,
KNIGHT-ROOK, PAWN, PAWN ROTATED NINETY DEGREES, PAWN ROTATED TWO HUNDRED SEVENTY DEGREES, QUEEN,
QUEEN ROTATED NINETY DEGREES, QUEEN ROTATED TWO HUNDRED SEVENTY DEGREES, ROOK, ROOK ROTATED NINETY
DEGREES, ROOK ROTATED TWO HUNDRED SEVENTY DEGREES;
WHITE CHESS BISHOP ROTATED: NINETY DEGREES, TWO HUNDRED SEVENTY DEGREES;
WHITE CHESS KNIGHT ROTATED: FORTY-FIVE DEGREES, NINETY DEGREES, ONE HUNDRED THIRTY-FIVE DEGREES,
THREE HUNDRED FIFTEEN DEGREES, TWO HUNDRED SEVENTY DEGREES, TWO HUNDRED TWENTY-FIVE DEGREES;
WHITE CHESS TURNED: BISHOP, KING, KNIGHT, PAWN, QUEEN, ROOK;
WHITE CIRCLE WITH: DOT RIGHT, DOWN ARROW, LOWER LEFT QUADRANT, LOWER RIGHT QUADRANT, TWO DOTS,
UPPER LEFT QUADRANT, UPPER RIGHT QUADRANT;
WHITE CONCAVE-SIDED DIAMOND: ., WITH LEFTWARDS TICK, WITH RIGHTWARDS TICK;
WHITE DIAMOND: ., IN SQUARE, SUIT, WITH CENTRED DOT;
WHITE DIAMOND CONTAINING BLACK: MEDIUM DIAMOND, SMALL DIAMOND, VERY SMALL DIAMOND;
WHITE DOWN POINTING: BACKHAND INDEX, INDEX, LEFT HAND INDEX;
WHITE DOWN-POINTING: SMALL TRIANGLE, TRIANGLE;
WHITE DRAUGHTS: KING, MAN;
WHITE FOUR POINTED: CUSP, STAR;
WHITE LEFT POINTING: BACKHAND INDEX, INDEX;
WHITE LEFT-POINTING: POINTER, SMALL TRIANGLE, TRIANGLE;
WHITE MEDIUM: DIAMOND, LOZENGE, SMALL SQUARE, SQUARE, STAR;
WHITE RIGHT POINTING: BACKHAND INDEX, INDEX;
WHITE RIGHT-POINTING: PENTAGON, POINTER, SMALL TRIANGLE, TRIANGLE;
WHITE SMALL: LOZENGE, SQUARE, STAR;
WHITE SQUARE CONTAINING BLACK: MEDIUM SQUARE, SMALL SQUARE, VERY SMALL SQUARE;
WHITE SQUARE WITH: CENTRE VERTICAL LINE, LEFTWARDS TICK, LOWER LEFT QUADRANT, LOWER RIGHT
QUADRANT, RIGHTWARDS TICK, ROUNDED CORNERS, UPPER LEFT QUADRANT, UPPER RIGHT QUADRANT, VERTICAL
BISECTING LINE;
WHITE SUN BEHIND CLOUD: ., WITH RAIN;
WHITE SUN WITH: RAYS, SMALL CLOUD;
WHITE UP POINTING: BACKHAND INDEX, INDEX;
WHITE UP-POINTING: CHEVRON, SMALL TRIANGLE, TRIANGLE, TRIANGLE WITH DOT;
WHITE VERTICAL: BAR, ELLIPSE, RECTANGLE;
WIDE-HEADED DOWNWARDS: BARB ARROW, HEAVY BARB ARROW, LIGHT BARB ARROW, MEDIUM BARB ARROW, VERY
HEAVY BARB ARROW;
WIDE-HEADED LEFTWARDS: BARB ARROW, HEAVY BARB ARROW, LIGHT BARB ARROW, MEDIUM BARB ARROW, VERY
HEAVY BARB ARROW;
WIDE-HEADED NORTH EAST: BARB ARROW, HEAVY BARB ARROW, LIGHT BARB ARROW, MEDIUM BARB ARROW, VERY
HEAVY BARB ARROW;
WIDE-HEADED NORTH WEST: BARB ARROW, HEAVY BARB ARROW, LIGHT BARB ARROW, MEDIUM BARB ARROW, VERY
HEAVY BARB ARROW;
WIDE-HEADED RIGHTWARDS: BARB ARROW, HEAVY BARB ARROW, LIGHT BARB ARROW, MEDIUM BARB ARROW, VERY
HEAVY BARB ARROW;
WIDE-HEADED SOUTH EAST: BARB ARROW, HEAVY BARB ARROW, LIGHT BARB ARROW, MEDIUM BARB ARROW, VERY
HEAVY BARB ARROW;
WIDE-HEADED SOUTH WEST: BARB ARROW, HEAVY BARB ARROW, LIGHT BARB ARROW, MEDIUM BARB ARROW, VERY
HEAVY BARB ARROW;
WIDE-HEADED UPWARDS: BARB ARROW, HEAVY BARB ARROW, LIGHT BARB ARROW, MEDIUM BARB ARROW, VERY HEAVY
BARB ARROW;
WIND: BLOWING FACE, CHIME;
WOMAN: ., WITH BUNNY EARS;
WOMANS: BOOTS, CLOTHES, HAT, SANDAL;
WORD: JOINER, SEPARATOR MIDDLE DOT;
XIANGQI BLACK: CANNON, CHARIOT, ELEPHANT, GENERAL, HORSE, MANDARIN, SOLDIER;
XIANGQI RED: CANNON, CHARIOT, ELEPHANT, GENERAL, HORSE, MANDARIN, SOLDIER;
YEZIDI COMBINING: HAMZA MARK, MADDA MARK;
YEZIDI LETTER: BE, CHHIM, CHIM, CIM, DAD, DAL, ELIF, ET, EW, EYN, FA, GAF, HAY, HHA, JA, KAF,
KHAF, LAM, LAM WITH DOT ABOVE, MIM, NUN, OW, PE, PHE, QAF, RA, RHA, SAD, SE, SHIN, SIN, TA, THE,
UM, VA, VA ALTERNATE FORM, WAW, XA, XHEYN, YOT, YOT WITH CIRCUMFLEX ABOVE, ZA, ZAL, ZE;
YI RADICAL: BBUT, BUR, CHE, CIP, CUOP, CY, CYP, CYT, DDUR, DU, GA, GEP, GGOP, GGUO, GOT, HMO,
HXIT, HXOP, HXUO, JJIE, JJUT, JJY, JO, KE, KIT, LI, LIE, LYR, MI, MOP, NBIE, NYIP, NYOP, NZUP, OP,
PUT, PYT, QOT, SHAT, SHOP, SHUR, SHY, SSI, TAT, TU, VEP, VUR, WO, YIT, YO, ZA, ZOT, ZUP, ZUR,
ZZIET;
YI SYLLABLE: A, AP, AT, AX, BA, BAP, BAT, BAX, BBA, BBAP, BBAT, BBAX, BBE, BBEP, BBEX, BBI, BBIE,
BBIEP, BBIET, BBIEX, BBIP, BBIT, BBIX, BBO, BBOP, BBOT, BBOX, BBU, BBUO, BBUOP, BBUOX, BBUP, BBUR,
BBURX, BBUT, BBUX, BBY, BBYP, BBYT, BBYX, BE, BEP, BEX, BI, BIE, BIEP, BIET, BIEX, BIP, BIT, BIX,
BO, BOP, BOT, BOX, BU, BUO, BUOP, BUOX, BUP, BUR, BURX, BUT, BUX, BY, BYP, BYR, BYRX, BYT, BYX,
CA, CAP, CAT, CAX, CE, CEP, CEX, CHA, CHAP, CHAT, CHAX, CHE, CHEP, CHET, CHEX, CHO, CHOP, CHOT,
CHOX, CHU, CHUO, CHUOP, CHUOT, CHUOX, CHUP, CHUR, CHURX, CHUX, CHY, CHYP, CHYR, CHYRX, CHYT, CHYX,
CI, CIE, CIEP, CIET, CIEX, CIP, CIT, CIX, CO, COP, COT, COX, CU, CUO, CUOP, CUOX, CUP, CUR, CURX,
CUT, CUX, CY, CYP, CYR, CYRX, CYT, CYX, DA, DAP, DAT, DAX, DDA, DDAP, DDAT, DDAX, DDE, DDEP, DDEX,
DDI, DDIE, DDIEP, DDIEX, DDIP, DDIT, DDIX, DDO, DDOP, DDOT, DDOX, DDU, DDUO, DDUOP, DDUOX, DDUP,
DDUR, DDURX, DDUT, DDUX, DE, DEP, DEX, DI, DIE, DIEP, DIEX, DIP, DIT, DIX, DO, DOP, DOT, DOX, DU,
DUO, DUOX, DUP, DUR, DURX, DUT, DUX, E, EX, FA, FAP, FAT, FAX, FI, FIP, FIT, FIX, FO, FOP, FOX,
FU, FUP, FUR, FURX, FUT, FUX, FY, FYP, FYT, FYX, GA, GAP, GAT, GAX, GE, GEP, GET, GEX, GGA, GGAP,
GGAT, GGAX, GGE, GGEP, GGET, GGEX, GGI, GGIE, GGIEP, GGIEX, GGIT, GGIX, GGO, GGOP, GGOT, GGOX,
GGU, GGUO, GGUOP, GGUOT, GGUOX, GGUP, GGUR, GGURX, GGUT, GGUX, GI, GIE, GIEP, GIET, GIEX, GIP,
GIT, GIX, GO, GOP, GOT, GOX, GU, GUO, GUOP, GUOT, GUOX, GUP, GUR, GURX, GUT, GUX, HA, HAP, HAT,
HAX, HE, HEP, HEX, HIE, HIEX, HIT, HLA, HLAP, HLAT, HLAX, HLE, HLEP, HLEX, HLI, HLIE, HLIEP,
HLIEX, HLIP, HLIT, HLIX, HLO, HLOP, HLOX, HLU, HLUO, HLUOP, HLUOX, HLUP, HLUR, HLURX, HLUT, HLUX,
HLY, HLYP, HLYR, HLYRX, HLYT, HLYX, HMA, HMAP, HMAT, HMAX, HMI, HMIE, HMIEP, HMIEX, HMIP, HMIT,
HMIX, HMO, HMOP, HMOT, HMOX, HMU, HMUO, HMUOP, HMUOX, HMUP, HMUR, HMURX, HMUT, HMUX, HMY, HMYP,
HMYR, HMYRX, HMYX, HNA, HNAP, HNAT, HNAX, HNE, HNEP, HNEX, HNI, HNIE, HNIEP, HNIET, HNIEX, HNIP,
HNIT, HNIX, HNOP, HNOT, HNOX, HNUO, HNUOX, HNUT, HO, HOP, HOT, HOX, HUO, HUOP, HUOT, HUOX, HXA,
HXAP, HXAT, HXAX, HXE, HXEP, HXEX, HXI, HXIE, HXIEP, HXIET, HXIEX, HXIP, HXIT, HXIX, HXO, HXOP,
HXOT, HXOX, HXUO, HXUOP, HXUOT, HXUOX, I, IE, IEP, IET, IEX, IP, IT, ITERATION MARK, IX, JI, JIE,
JIEP, JIET, JIEX, JIP, JIT, JIX, JJI, JJIE, JJIEP, JJIET, JJIEX, JJIP, JJIT, JJIX, JJO, JJOP,
JJOT, JJOX, JJU, JJUO, JJUOP, JJUOX, JJUP, JJUR, JJURX, JJUT, JJUX, JJY, JJYP, JJYT, JJYX, JO,
JOP, JOT, JOX, JU, JUO, JUOP, JUOT, JUOX, JUP, JUR, JURX, JUT, JUX, JY, JYP, JYR, JYRX, JYT, JYX,
KA, KAP, KAT, KAX, KE, KEP, KET, KEX, KI, KIE, KIEP, KIEX, KIP, KIT, KIX, KO, KOP, KOT, KOX, KU,
KUO, KUOP, KUOX, KUP, KUR, KURX, KUT, KUX, LA, LAP, LAT, LAX, LE, LEP, LEX, LI, LIE, LIEP, LIET,
LIEX, LIP, LIT, LIX, LO, LOP, LOT, LOX, LU, LUO, LUOP, LUOT, LUOX, LUP, LUR, LURX, LUT, LUX, LY,
LYP, LYR, LYRX, LYT, LYX, MA, MAP, MAT, MAX, ME, MEX, MGA, MGAP, MGAT, MGAX, MGE, MGEP, MGEX,
MGIE, MGIEX, MGO, MGOP, MGOT, MGOX, MGU, MGUO, MGUOP, MGUOX, MGUP, MGUR, MGURX, MGUT, MGUX, MI,
MIE, MIEP, MIEX, MIP, MIT, MIX, MO, MOP, MOT, MOX, MU, MUO, MUOP, MUOT, MUOX, MUP, MUR, MURX, MUT,
MUX, MY, MYP, MYT, MYX, NA, NAP, NAX, NBA, NBAP, NBAT, NBAX, NBI, NBIE, NBIEP, NBIEX, NBIP, NBIT,
NBIX, NBO, NBOP, NBOT, NBOX, NBU, NBUP, NBUR, NBURX, NBUT, NBUX, NBY, NBYP, NBYR, NBYRX, NBYT,
NBYX, NDA, NDAP, NDAT, NDAX, NDE, NDEP, NDEX, NDI, NDIE, NDIEX, NDIP, NDIT, NDIX, NDO, NDOP, NDOT,
NDOX, NDU, NDUP, NDUR, NDURX, NDUT, NDUX, NE, NEP, NEX, NGA, NGAP, NGAT, NGAX, NGE, NGEP, NGEX,
NGIE, NGIEP, NGIEX, NGO, NGOP, NGOT, NGOX, NGUO, NGUOT, NGUOX, NI, NIE, NIEP, NIEX, NIP, NIT, NIX,
NJI, NJIE, NJIEP, NJIET, NJIEX, NJIP, NJIT, NJIX, NJO, NJOP, NJOT, NJOX, NJU, NJUO, NJUOX, NJUP,
NJUR, NJURX, NJUX, NJY, NJYP, NJYR, NJYRX, NJYT, NJYX, NO, NOP, NOT, NOX, NRA, NRAP, NRAT, NRAX,
NRE, NREP, NRET, NREX, NRO, NROP, NROX, NRU, NRUP, NRUR, NRURX, NRUT, NRUX, NRY, NRYP, NRYR,
NRYRX, NRYT, NRYX, NU, NUO, NUOP, NUOX, NUP, NUR, NURX, NUT, NUX, NYI, NYIE, NYIEP, NYIET, NYIEX,
NYIP, NYIT, NYIX, NYO, NYOP, NYOT, NYOX, NYU, NYUO, NYUOP, NYUOX, NYUP, NYUT, NYUX, NZA, NZAP,
NZAT, NZAX, NZE, NZEX, NZI, NZIE, NZIEP, NZIEX, NZIP, NZIT, NZIX, NZOP, NZOX, NZU, NZUO, NZUOX,
NZUP, NZUR, NZURX, NZUX, NZY, NZYP, NZYR, NZYRX, NZYT, NZYX, O, OP, OT, OX, PA, PAP, PAT, PAX, PI,
PIE, PIEP, PIEX, PIP, PIT, PIX, PO, POP, POT, POX, PU, PUO, PUOP, PUOX, PUP, PUR, PURX, PUT, PUX,
PY, PYP, PYR, PYRX, PYT, PYX, QI, QIE, QIEP, QIET, QIEX, QIP, QIT, QIX, QO, QOP, QOT, QOX, QU,
QUO, QUOP, QUOT, QUOX, QUP, QUR, QURX, QUT, QUX, QY, QYP, QYR, QYRX, QYT, QYX, RA, RAP, RAT, RAX,
RE, REP, REX, RO, ROP, ROT, ROX, RRA, RRAX, RRE, RREP, RRET, RREX, RRO, RROP, RROT, RROX, RRU,
RRUO, RRUOX, RRUP, RRUR, RRURX, RRUT, RRUX, RRY, RRYP, RRYR, RRYRX, RRYT, RRYX, RU, RUO, RUOP,
RUOX, RUP, RUR, RURX, RUT, RUX, RY, RYP, RYR, RYRX, RYT, RYX, SA, SAP, SAT, SAX, SE, SEP, SEX,
SHA, SHAP, SHAT, SHAX, SHE, SHEP, SHET, SHEX, SHO, SHOP, SHOT, SHOX, SHU, SHUO, SHUOP, SHUOX,
SHUP, SHUR, SHURX, SHUT, SHUX, SHY, SHYP, SHYR, SHYRX, SHYT, SHYX, SI, SIE, SIEP, SIEX, SIP, SIT,
SIX, SO, SOP, SOT, SOX, SSA, SSAP, SSAT, SSAX, SSE, SSEP, SSEX, SSI, SSIE, SSIEP, SSIEX, SSIP,
SSIT, SSIX, SSO, SSOP, SSOT, SSOX, SSU, SSUP, SSUT, SSUX, SSY, SSYP, SSYR, SSYRX, SSYT, SSYX, SU,
SUO, SUOP, SUOX, SUP, SUR, SURX, SUT, SUX, SY, SYP, SYR, SYRX, SYT, SYX, TA, TAP, TAT, TAX, TE,
TEP, TEX, TI, TIE, TIEP, TIEX, TIP, TIT, TIX, TO, TOP, TOT, TOX, TU, TUO, TUOP, TUOT, TUOX, TUP,
TUR, TURX, TUT, TUX, UO, UOP, UOX, VA, VAP, VAT, VAX, VEP, VEX, VI, VIE, VIEP, VIET, VIEX, VIP,
VIT, VIX, VO, VOP, VOT, VOX, VU, VUP, VUR, VURX, VUT, VUX, VY, VYP, VYR, VYRX, VYT, VYX, WA, WAP,
WAT, WAX, WE, WEP, WEX, WO, WOP, WOX, WU, WUO, WUOP, WUOX, XI, XIE, XIEP, XIET, XIEX, XIP, XIT,
XIX, XO, XOP, XOT, XOX, XUO, XUOX, XY, XYP, XYR, XYRX, XYT, XYX, YI, YIE, YIEP, YIET, YIEX, YIP,
YIT, YIX, YO, YOP, YOT, YOX, YU, YUO, YUOP, YUOT, YUOX, YUP, YUR, YURX, YUT, YUX, YY, YYP, YYR,
YYRX, YYT, YYX, ZA, ZAP, ZAT, ZAX, ZE, ZEP, ZEX, ZHA, ZHAP, ZHAT, ZHAX, ZHE, ZHEP, ZHET, ZHEX,
ZHO, ZHOP, ZHOT, ZHOX, ZHU, ZHUO, ZHUOP, ZHUOX, ZHUP, ZHUR, ZHURX, ZHUT, ZHUX, ZHY, ZHYP, ZHYR,
ZHYRX, ZHYT, ZHYX, ZI, ZIE, ZIEP, ZIEX, ZIP, ZIT, ZIX, ZO, ZOP, ZOT, ZOX, ZU, ZUO, ZUOP, ZUOX,
ZUP, ZUR, ZURX, ZUT, ZUX, ZY, ZYP, ZYR, ZYRX, ZYT, ZYX, ZZA, ZZAP, ZZAT, ZZAX, ZZE, ZZEP, ZZEX,
ZZI, ZZIE, ZZIEP, ZZIET, ZZIEX, ZZIP, ZZIT, ZZIX, ZZO, ZZOP, ZZOX, ZZU, ZZUP, ZZUR, ZZURX, ZZUX,
ZZY, ZZYP, ZZYR, ZZYRX, ZZYT, ZZYX;
Z NOTATION: BAG MEMBERSHIP, DOMAIN ANTIRESTRICTION, LEFT BINDING BRACKET, LEFT IMAGE BRACKET,
RANGE ANTIRESTRICTION, RELATIONAL COMPOSITION, RIGHT BINDING BRACKET, RIGHT IMAGE BRACKET, SPOT,
TYPE COLON;
Z NOTATION SCHEMA: COMPOSITION, PIPING, PROJECTION;
ZANABAZAR SQUARE: CLOSING DOUBLE-LINED HEAD MARK, CLOSING HEAD MARK, CLUSTER-INITIAL LETTER RA,
FINAL CONSONANT MARK, INITIAL DOUBLE-LINED HEAD MARK, INITIAL HEAD MARK, MARK DOUBLE SHAD, MARK
LONG TSHEG, MARK SHAD, MARK TSHEG, SUBJOINER, VOWEL LENGTH MARK;
ZANABAZAR SQUARE CLUSTER-FINAL LETTER: LA, RA, VA, YA;
ZANABAZAR SQUARE LETTER: -A, A, BA, BHA, CA, CHA, DA, DDA, DDHA, DHA, DZA, DZHA, GA, GHA, HA, JA,
KA, KHA, KSSA, LA, MA, NA, NGA, NNA, NYA, PA, PHA, RA, SA, SHA, SSA, TA, THA, TSA, TSHA, TTA,
TTHA, VA, YA, ZA, ZHA;
ZANABAZAR SQUARE SIGN: ANUSVARA, CANDRA WITH ORNAMENT, CANDRABINDU, CANDRABINDU WITH ORNAMENT,
VIRAMA, VISARGA;
ZANABAZAR SQUARE VOWEL SIGN: AI, AU, E, I, O, OE, REVERSED I, U, UE;
ZERO WIDTH: JOINER, NO-BREAK SPACE, NON-JOINER, SPACE;
ZNAMENNY COMBINING: ATTACHING VERTICAL OMET, LOWER TONAL RANGE INDICATOR;
ZNAMENNY COMBINING MARK: BORZAYA, CHASHKA, CHASHKA POLNAYA, CURVED OMET, DEMESTVENNY ZADERZHKA,
DVOETOCHIE, GORAZDO VYSOKO, KACHKA, KRYZH, KRYZH ON LEFT, KUPNAYA, LOMKA, NIZKO ON LEFT, NIZKO ON
RIGHT, NIZKO S KRYZHEM ON LEFT, NIZKO S KRYZHEM ON RIGHT, OBLACHKO, ON, OTSECHKA, PODCHASHIE,
PODCHASHIE WITH VERTICAL STROKE, PODVERTKA, RAVNO, RAZSEKA, SKOBA, SOROCHYA NOZHKA, SREDNE ON
LEFT, SREDNE ON RIGHT, STRANNO MALO POVYSHE, TIKHAYA, TOCHKA, TSATA ON LEFT, TSATA ON RIGHT, TSATA
S KRYZHEM, UDARKA, ZADERZHKA, ZELO, ZEVOK;
ZNAMENNY COMBINING MARK GORAZDO NIZKO: ON LEFT, ON RIGHT, S KRYZHEM ON LEFT, S KRYZHEM ON RIGHT;
ZNAMENNY COMBINING MARK MALO POVYSHE: ON LEFT, ON RIGHT, S KHOKHLOM ON LEFT, S KHOKHLOM ON RIGHT,
S KRYZHEM, STRANNO;
ZNAMENNY COMBINING MARK POVYSHE: ON LEFT, ON RIGHT, S KHOKHLOM ON LEFT, S KHOKHLOM ON RIGHT, S
KRYZHEM, STRANNO;
ZNAMENNY COMBINING MARK VYSOKO: ON LEFT, ON RIGHT, S KHOKHLOM ON LEFT, S KHOKHLOM ON RIGHT, S
KRYZHEM;
ZNAMENNY COMBINING TONAL RANGE MARK: MRACHNO, SVETLO, TRESVETLO;
ZNAMENNY NEUME: CHASHKA, CHELYUSTKA, DEMESTVENNY KLYUCH, DERBITSA, DOUBLE ZAPYATAYA, DUDA, DVA V
CHELNU, FITA, KHAMILO, KLYUCH, KOBYLA, KRYUK, KRYUK TIKHY, KRYZH, KUFISMA, NEMKA, OBLAKO, PALKA,
PARAKLIT, PAUK, PEREVODKA, PEREVODKA NEPOSTOYANNAYA, PODCHASHIE, POLKULIZMY, REVERSED CHELYUSTKA,
ROG, STOPITSA, STOPITSA S OCHKOM, STOPITSA WITH SOROCHYA NOZHKA, ZANOZHEK, ZAPYATAYA, ZMEYTSA;
ZNAMENNY NEUME GOLUBCHIK: BORZY, MRACHNY, SVETLY, TIKHY, TRESVETLY;
ZNAMENNY NEUME MECHIK: ., KLYUCHENEPOSTOYANNY, KLYUCHEPOVODNY, KLYUCHEVOY, POVODNY;
ZNAMENNY NEUME OSOKA: ., KLYUCHEVAYA NEPOSTOYANNAYA, KLYUCHEVAYA SVETLAYA, KRYUKOVAYA SVETLAYA,
SVETLAYA, TRESVETLAYA;
ZNAMENNY NEUME SKAMEYTSA: KLYUCHENEPOSTOYANNAYA, KLYUCHEVAYA SVETLAYA, KLYUCHEVAYA TIKHAYA,
MRACHNAYA, SVETLAYA, TIKHAYA, TRESVETLAYA;
ZNAMENNY NEUME SKAMEYTSA DVOECHELNAYA: KLYUCHEVAYA, NEPOSTOYANNAYA, PROSTAYA, SVETLAYA;
ZNAMENNY NEUME SLOZHITIE: ., S KRYZHEM, S ZAPYATOY, ZAKRYTOE;
ZNAMENNY NEUME STATYA: ., NEPOSTOYANNAYA, S DVUMYA ZAPYATYMI, S KRYZHEM, S KRYZHEM I ZAPYATOY, S
ROGOM, S ZAPYATOY, S ZAPYATOY I KRYZHEM, S ZAPYATOY I PODCHASHIEM, ZAKRYTAYA, ZAKRYTAYA S ZAPYATOY;
ZNAMENNY NEUME STRELA: DVOECHELNAYA, DVOECHELNAYA KLYUCHEVAYA, DVOECHELNOKRYZHEVAYA,
DVOECHELNOPOVODNAYA, DVOECHELNOPOVODNAYA KLYUCHEVAYA, GROMNAYA, GROMNAYA WITH SINGLE ZAPYATAYA,
GROMOKRYZHEVAYA, GROMOKRYZHEVAYA POVODNAYA, KLYUCHENEPOSTOYANNAYA, KLYUCHEPOVODNAYA, KRYZHEVAYA,
MRACHNOTIKHAYA, NEPOSTOYANNAYA, POLUPOVODNAYA, POVODNAYA, PROSTAYA, TIKHAYA PUTNAYA,
TRYASOGLASNAYA, TRYASOPOVODNAYA, TRYASOSTRELNAYA;
ZNAMENNY NEUME STRELA GROMOPOVODNAYA: ., WITH DOUBLE ZAPYATAYA, WITH SINGLE ZAPYATAYA;
ZNAMENNY NEUME STRELA KRYUKOVAYA: ., GROMNAYA, GROMNAYA WITH SINGLE ZAPYATAYA, GROMOKRYZHEVAYA,
GROMOKRYZHEVAYA POVODNAYA, GROMOPOVODNAYA, GROMOPOVODNAYA WITH DOUBLE ZAPYATAYA, GROMOPOVODNAYA
WITH SINGLE ZAPYATAYA, POVODNAYA, TRYASKA;
ZNAMENNY NEUME VRAKHIYA: MRACHNAYA, PROSTAYA, SVETLAYA, TRESVETLAYA;
ZNAMENNY NEUME VRAKHIYA KLYUCHEVAYA: MRACHNAYA, PROSTAYA, SVETLAYA, TRESVETLAYA;
ZNAMENNY PRIZNAK MODIFIER: DIRECTION FLIP, KRYZH, LEVEL-2, LEVEL-3, ROG"

end OperationClasses.Text.CharacterNames
