/-!
# Names of characters: M to R

The names of characters that begin with M to R. A row gives the words that names have in common, and then
what follows them in each; a point stands for nothing.
-/
namespace OperationClasses.Text.CharacterNames

/-- The rows of names that begin with M to R. -/
def rowsMtoR : String := "
: MACRON, MAGE, MAGIC WAND, MAGNET, MALTESE CROSS, MAMMOTH, MANAT SIGN, MANGO, MANICHAEAN SIGN UD,
MANS SHOE, MANTELPIECE CLOCK, MANUAL WHEELCHAIR, MAP SYMBOL FOR LIGHTHOUSE, MAPLE LEAF, MARRIAGE
SYMBOL, MARTIAL ARTS UNIFORM, MASCULINE ORDINAL INDICATOR, MASK WORK SYMBOL, MASU MARK, MATE
DRINK, MAXIMIZE, MEAT ON BONE, MELON, MELTING FACE, MEMO, MENORAH WITH NINE BRANCHES, MENS SYMBOL,
MERCURY, MERPERSON, MESSAGE WAITING, METRO, MICRO SIGN, MICROBE, MICROPHONE, MICROSCOPE, MIDLINE
HORIZONTAL ELLIPSIS, MILKY WAY, MILL SIGN, MINIBUS, MINIDISC, MINIMIZE, MINUS-OR-PLUS SIGN, MINY,
MMSP, MODELS, MODERN PENTATHLON, MODIFIER BREVE WITH INVERTED BREVE, MODULO TWO SUM, MONEY-MOUTH
FACE, MONORAIL, MONOSTABLE SYMBOL, MOOD BUBBLE, MOSQUE, MOSQUITO, MOTHER CHRISTMAS, MOTORIZED
WHEELCHAIR, MOTORWAY, MOUNT FUJI, MOUTH, MOVIE CAMERA, MOYAI, MULTANI SECTION MARK, MULTIMAP,
MULTIPLE MUSICAL NOTES, MULTIPLICATION X, MUSHROOM, MVS, MW, NABATAEAN CRUCIFORM NUMBER FOUR,
NABLA, NAIL POLISH, NAIRA SIGN, NAK, NAME BADGE, NAND, NANDINAGARI HEADSTROKE, NARROW NO-BREAK
SPACE, NAUSEATED FACE, NAZAR AMULET, NBH, NBSP, NECKTIE, NEGATED DOUBLE VERTICAL BAR DOUBLE RIGHT
TURNSTILE, NEGATIVE ACKNOWLEDGE, NEL, NERD FACE, NESSUS, NEST WITH EGGS, NESTING DOLLS, NEUTER,
NEUTRAL FACE, NEWSPAPER, NIGHT WITH STARS, NINJA, NL, NNBSP, NO-BREAK SPACE, NOMINAL DIGIT SHAPES,
NOMISMA SIGN, NON-BREAKING HYPHEN, NON-POTABLE WATER SYMBOL, NONFORKING, NOR, NORDIC MARK SIGN,
NORTHEAST-POINTING AIRPLANE, NOSE, NUL, NULL, NUMERO SIGN, NUT AND BOLT, OBJECT REPLACEMENT
CHARACTER, OBLIQUE HYPHEN, OBSERVER EYE SYMBOL, OCTAGONAL SIGN, OCTOPUS, ODEN, OFFICE BUILDING,
OGONEK, OHM SIGN, OIL DRUM, OK HAND SIGN, OLIVE, OM SYMBOL, ON WITH EXCLAMATION MARK WITH LEFT
RIGHT ARROW ABOVE, ONE BUTTON MOUSE, ONE-PIECE SWIMSUIT, ONION, OPEN-OUTLINED RIGHTWARDS ARROW,
OPERATING SYSTEM COMMAND, OPHIUCHUS, OPPOSITION, OPTION KEY, OR WITH DOT INSIDE, ORANGUTAN,
ORIGINAL OF, ORTHODOX CROSS, OSC, OTTER, OUNCE SIGN, OUTBOX TRAY, OVERHEATED FACE, OVERLAP,
OVERLINE, OWL, OX, OYSTER, PACKAGE, PAD, PADDING CHARACTER, PAGER, PAGES, PAGODA, PALLAS, PALMS UP
TOGETHER, PANCAKES, PANDA FACE, PAPERCLIP, PARACHUTE, PARAGRAPH SEPARATOR, PARAGRAPHOS,
PARAGRAPHUS MARK, PARROT, PART ALTERNATION MARK, PARTIAL DIFFERENTIAL, PARTIALLY-RECYCLED PAPER
SYMBOL, PARTNERSHIP SIGN, PARTY POPPER, PASSED SYMBOL, PASSENGER SHIP, PASSIVE-PULL-DOWN-OUTPUT
SYMBOL, PASSIVE-PULL-UP-OUTPUT SYMBOL, PASSPORT CONTROL, PAW PRINTS, PDF, PDI, PEACE SYMBOL,
PEACH, PEACOCK, PEANUTS, PEAR, PEDESTRIAN, PEN OVER STAMPED ENVELOPE, PENCIL, PENGUIN, PENSIVE
FACE, PENTAGRAM, PEOPLE HUGGING, PERCENT SIGN, PERFORMING ARTS, PERMANENT PAPER SIGN, PERSEVERING
FACE, PERSONAL COMPUTER, PERSPECTIVE, PESETA SIGN, PESO SIGN, PETRI DISH, PHOENICIAN WORD
SEPARATOR, PHOLUS, PICK, PICKUP TRUCK, PIE, PILCROW SIGN, PILE OF POO, PILL, PINATA, PINCHED
FINGERS, PINCHING HAND, PINE DECORATION, PINEAPPLE, PINWHEEL STAR, PISCES, PISTOL, PLACARD,
PLAYGROUND SLIDE, PLD, PLU, PLUNGER, PLUS-MINUS SIGN, PLUTO, PM, POCKET CALCULATOR, POODLE,
POPCORN, PORTABLE STEREO, POSEIDON, POSITION INDICATOR, POSTBOX, POT OF FOOD, POTABLE WATER
SYMBOL, POTATO, POTTED PLANT, POUCH, POULTRY LEG, POUND SIGN, POURING LIQUID, PRAYER BEADS,
PRESCRIPTION TAKE, PRETZEL, PREVIOUS PAGE, PRIME, PRINCE, PRINCESS, PRINT SCREEN SYMBOL, PRIVACY
MESSAGE, PROBING CANE, PROHIBITED SIGN, PROJECTIVE, PROPERTY LINE, PROPORTION, PROPORTIONAL TO,
PROSERPINA, PU1, PU2, PUBLIC ADDRESS LOUDSPEAKER, PUNCTUATION SPACE, PUNCTUS ELEVATUS MARK, PURPLE
HEART, PURSE, PUSHPIN, PUT LITTER IN ITS PLACE SYMBOL, QUARTER NOTE, QUATERNION INTEGRAL OPERATOR,
QUESTIONED EQUAL TO, QUINCUNX, QUOTATION MARK, RACCOON, RADICAL SYMBOL BOTTOM, RADIOACTIVE SIGN,
RAIN, RAINBOW, RAM, RAT, RATIO, RAZOR, RECEIPT, RECORD SEPARATOR, RECREATIONAL VEHICLE, RECYCLED
PAPER SYMBOL, REFERENCE MARK, REGISTERED SIGN, RELIEVED FACE, REMINDER RIBBON, REPLACEMENT
CHARACTER, RESPONSE, RESTROOM, REVOLVING HEARTS, RHINOCEROS, RI, RIAL SIGN, RIBBON, RIFLE,
RIGHT-HANDED INTERLACED PENTAGRAM, RIGHT-SHADED WHITE RIGHTWARDS ARROW, RIGHT-SIDE ARC CLOCKWISE
ARROW, RIGHTHAND INTERIOR PRODUCT, RINGED PLANET, RINGING BELL, RLE, RLI, RLM, RLO, ROASTED SWEET
POTATO, ROBOT FACE, ROCK, ROCKET, ROLL OF PAPER, ROLLED-UP NEWSPAPER, ROLLING ON THE FLOOR
LAUGHING, ROOSTER, ROSE, ROSETTE, ROWBOAT, RS, RUBLE SIGN, RUGBY FOOTBALL, RULE-DELAYED, RUNNER,
RUNNING SHIRT WITH SASH, RUPEE SIGN;
MAHAJANI: ABBREVIATION SIGN, LIGATURE SHRI, SECTION MARK, SIGN NUKTA;
MAHAJANI LETTER: A, BA, BHA, CA, CHA, DA, DDA, DDHA, DHA, E, GA, GHA, HA, I, JA, JHA, KA, KHA, LA,
MA, NA, NNA, NYA, O, PA, PHA, RA, RRA, SA, TA, THA, TTA, TTHA, U, VA;
MAHJONG TILE: AUTUMN, BACK, BAMBOO, CHRYSANTHEMUM, EAST WIND, GREEN DRAGON, JOKER, NORTH WIND, ONE
OF BAMBOOS, ONE OF CHARACTERS, ONE OF CIRCLES, ORCHID, PLUM, RED DRAGON, SIX OF BAMBOOS, SIX OF
CHARACTERS, SIX OF CIRCLES, SOUTH WIND, SPRING, SUMMER, TWO OF BAMBOOS, TWO OF CHARACTERS, TWO OF
CIRCLES, WEST WIND, WHITE DRAGON, WINTER;
MAHJONG TILE EIGHT OF: BAMBOOS, CHARACTERS, CIRCLES;
MAHJONG TILE FIVE OF: BAMBOOS, CHARACTERS, CIRCLES;
MAHJONG TILE FOUR OF: BAMBOOS, CHARACTERS, CIRCLES;
MAHJONG TILE NINE OF: BAMBOOS, CHARACTERS, CIRCLES;
MAHJONG TILE SEVEN OF: BAMBOOS, CHARACTERS, CIRCLES;
MAHJONG TILE THREE OF: BAMBOOS, CHARACTERS, CIRCLES;
MAKASAR: ANGKA, END OF SECTION, PASSIMBANG;
MAKASAR LETTER: A, BA, CA, DA, GA, JA, KA, LA, MA, NA, NGA, NYA, PA, RA, SA, TA, VA, YA;
MAKASAR VOWEL SIGN: E, I, O, U;
MALAYALAM: AU LENGTH MARK, DATE MARK;
MALAYALAM DIGIT: EIGHT, FIVE, FOUR, NINE, ONE, SEVEN, SIX, THREE, TWO, ZERO;
MALAYALAM FRACTION ONE: EIGHTH, FIFTH, FORTIETH, HALF, ONE-HUNDRED-AND-SIXTIETH, QUARTER,
SIXTEENTH, TENTH, TWENTIETH;
MALAYALAM FRACTION THREE: EIGHTIETHS, QUARTERS, SIXTEENTHS, TWENTIETHS;
MALAYALAM LETTER: A, AA, AI, ARCHAIC II, AU, BA, BHA, CA, CHA, DA, DDA, DDHA, DHA, DOT REPH, E,
EE, GA, GHA, HA, I, II, JA, JHA, KA, KHA, LA, LLA, LLLA, MA, NA, NGA, NNA, NNNA, NYA, O, OO, PA,
PHA, RA, RRA, SA, SHA, SSA, TA, THA, TTA, TTHA, TTTA, U, UU, VA, VEDIC ANUSVARA, YA;
MALAYALAM LETTER CHILLU: K, L, LL, LLL, M, N, NN, RR, Y;
MALAYALAM LETTER VOCALIC: L, LL, R, RR;
MALAYALAM NUMBER: ONE HUNDRED, ONE THOUSAND, TEN;
MALAYALAM SIGN: ANUSVARA, AVAGRAHA, CANDRABINDU, CIRCULAR VIRAMA, COMBINING ANUSVARA ABOVE, PARA,
VERTICAL BAR VIRAMA, VIRAMA, VISARGA;
MALAYALAM VOWEL SIGN: AA, AI, AU, E, EE, I, II, O, OO, U, UU;
MALAYALAM VOWEL SIGN VOCALIC: L, LL, R, RR;
MALE: AND FEMALE SIGN, SIGN;
MALE WITH STROKE: AND MALE AND FEMALE SIGN, SIGN;
MAN: ., AND WOMAN HOLDING HANDS, DANCING, IN BUSINESS SUIT LEVITATING, IN TUXEDO, WITH GUA PI MAO,
WITH TURBAN;
MANDAIC: AFFRICATION MARK, GEMINATION MARK, PUNCTUATION, VOCALIZATION MARK;
MANDAIC LETTER: AB, AD, AG, AH, AIN, AK, AKSA, AL, AM, AN, AP, AQ, AR, AS, ASH, ASZ, AT, ATT, AZ,
DUSHENNA, HALQA, IN, IT, KAD, USHENNA;
MANICHAEAN ABBREVIATION MARK: ABOVE, BELOW;
MANICHAEAN LETTER: AAYIN, ALEPH, AYIN, BETH, BHETH, DALETH, DHAMEDH, FE, GHIMEL, GIMEL, HE, HETH,
JAYIN, JHAYIN, KAPH, KHAPH, LAMEDH, MEM, NUN, PE, QHOPH, QOPH, RESH, SADHE, SAMEKH, SHIN, SSHIN,
TAW, TETH, THAMEDH, WAW, XAPH, XOPH, YODH, ZAYIN, ZHAYIN;
MANICHAEAN NUMBER: FIVE, ONE, ONE HUNDRED, TEN, TWENTY;
MANICHAEAN PUNCTUATION: DOT, DOT WITHIN DOT, DOUBLE DOT WITHIN DOT, FLEURON, LINE FILLER, STAR,
TWO DOTS;
MARCHEN: HEAD MARK, MARK SHAD, SIGN ANUSVARA, SIGN CANDRABINDU;
MARCHEN LETTER: -A, A, BA, CA, CHA, DA, DZA, GA, HA, JA, KA, KHA, LA, MA, NA, NGA, NYA, PA, PHA,
RA, SA, SHA, TA, THA, TSA, TSHA, WA, YA, ZA, ZHA;
MARCHEN SUBJOINED LETTER: A, BA, CA, CHA, DA, DZA, GA, HA, JA, KA, KHA, LA, MA, NA, NGA, NYA, PA,
PHA, RA, SA, SHA, TA, THA, TSA, TSHA, WA, YA, ZA, ZHA;
MARCHEN VOWEL SIGN: AA, E, I, O, U;
MASARAM GONDI: RA-KARA, REPHA, VIRAMA;
MASARAM GONDI DIGIT: EIGHT, FIVE, FOUR, NINE, ONE, SEVEN, SIX, THREE, TWO, ZERO;
MASARAM GONDI LETTER: A, AA, AI, AU, BA, BHA, CA, CHA, DA, DDA, DDHA, DHA, E, GA, GHA, HA, I, II,
JA, JHA, JNYA, KA, KHA, KSSA, LA, LLA, MA, NA, NGA, NNA, NYA, O, PA, PHA, RA, SA, SHA, SSA, TA,
THA, TRA, TTA, TTHA, U, UU, VA, YA;
MASARAM GONDI SIGN: ANUSVARA, CANDRA, HALANTA, NUKTA, VISARGA;
MASARAM GONDI VOWEL SIGN: AA, AI, AU, E, I, II, O, U, UU, VOCALIC R;
MATHEMATICAL: FALLING DIAGONAL, RISING DIAGONAL;
MATHEMATICAL BOLD: EPSILON SYMBOL, KAPPA SYMBOL, NABLA, PARTIAL DIFFERENTIAL, PHI SYMBOL, PI
SYMBOL, RHO SYMBOL, THETA SYMBOL;
MATHEMATICAL BOLD CAPITAL: A, ALPHA, B, BETA, C, CHI, D, DELTA, DIGAMMA, E, EPSILON, ETA, F, G,
GAMMA, H, I, IOTA, J, K, KAPPA, L, LAMDA, M, MU, N, NU, O, OMEGA, OMICRON, P, PHI, PI, PSI, Q, R,
RHO, S, SIGMA, T, TAU, THETA, THETA SYMBOL, U, UPSILON, V, W, X, XI, Y, Z, ZETA;
MATHEMATICAL BOLD DIGIT: EIGHT, FIVE, FOUR, NINE, ONE, SEVEN, SIX, THREE, TWO, ZERO;
MATHEMATICAL BOLD FRAKTUR CAPITAL: A, B, C, D, E, F, G, H, I, J, K, L, M, N, O, P, Q, R, S, T, U,
V, W, X, Y, Z;
MATHEMATICAL BOLD FRAKTUR SMALL: A, B, C, D, E, F, G, H, I, J, K, L, M, N, O, P, Q, R, S, T, U, V,
W, X, Y, Z;
MATHEMATICAL BOLD ITALIC: EPSILON SYMBOL, KAPPA SYMBOL, NABLA, PARTIAL DIFFERENTIAL, PHI SYMBOL,
PI SYMBOL, RHO SYMBOL, THETA SYMBOL;
MATHEMATICAL BOLD ITALIC CAPITAL: A, ALPHA, B, BETA, C, CHI, D, DELTA, E, EPSILON, ETA, F, G,
GAMMA, H, I, IOTA, J, K, KAPPA, L, LAMDA, M, MU, N, NU, O, OMEGA, OMICRON, P, PHI, PI, PSI, Q, R,
RHO, S, SIGMA, T, TAU, THETA, THETA SYMBOL, U, UPSILON, V, W, X, XI, Y, Z, ZETA;
MATHEMATICAL BOLD ITALIC SMALL: A, ALPHA, B, BETA, C, CHI, D, DELTA, E, EPSILON, ETA, F, FINAL
SIGMA, G, GAMMA, H, I, IOTA, J, K, KAPPA, L, LAMDA, M, MU, N, NU, O, OMEGA, OMICRON, P, PHI, PI,
PSI, Q, R, RHO, S, SIGMA, T, TAU, THETA, U, UPSILON, V, W, X, XI, Y, Z, ZETA;
MATHEMATICAL BOLD SCRIPT CAPITAL: A, B, C, D, E, F, G, H, I, J, K, L, M, N, O, P, Q, R, S, T, U,
V, W, X, Y, Z;
MATHEMATICAL BOLD SCRIPT SMALL: A, B, C, D, E, F, G, H, I, J, K, L, M, N, O, P, Q, R, S, T, U, V,
W, X, Y, Z;
MATHEMATICAL BOLD SMALL: A, ALPHA, B, BETA, C, CHI, D, DELTA, DIGAMMA, E, EPSILON, ETA, F, FINAL
SIGMA, G, GAMMA, H, I, IOTA, J, K, KAPPA, L, LAMDA, M, MU, N, NU, O, OMEGA, OMICRON, P, PHI, PI,
PSI, Q, R, RHO, S, SIGMA, T, TAU, THETA, U, UPSILON, V, W, X, XI, Y, Z, ZETA;
MATHEMATICAL DOUBLE-STRUCK CAPITAL: A, B, D, E, F, G, I, J, K, L, M, O, S, T, U, V, W, X, Y;
MATHEMATICAL DOUBLE-STRUCK DIGIT: EIGHT, FIVE, FOUR, NINE, ONE, SEVEN, SIX, THREE, TWO, ZERO;
MATHEMATICAL DOUBLE-STRUCK SMALL: A, B, C, D, E, F, G, H, I, J, K, L, M, N, O, P, Q, R, S, T, U,
V, W, X, Y, Z;
MATHEMATICAL FRAKTUR CAPITAL: A, B, D, E, F, G, J, K, L, M, N, O, P, Q, S, T, U, V, W, X, Y;
MATHEMATICAL FRAKTUR SMALL: A, B, C, D, E, F, G, H, I, J, K, L, M, N, O, P, Q, R, S, T, U, V, W,
X, Y, Z;
MATHEMATICAL ITALIC: EPSILON SYMBOL, KAPPA SYMBOL, NABLA, PARTIAL DIFFERENTIAL, PHI SYMBOL, PI
SYMBOL, RHO SYMBOL, THETA SYMBOL;
MATHEMATICAL ITALIC CAPITAL: A, ALPHA, B, BETA, C, CHI, D, DELTA, E, EPSILON, ETA, F, G, GAMMA, H,
I, IOTA, J, K, KAPPA, L, LAMDA, M, MU, N, NU, O, OMEGA, OMICRON, P, PHI, PI, PSI, Q, R, RHO, S,
SIGMA, T, TAU, THETA, THETA SYMBOL, U, UPSILON, V, W, X, XI, Y, Z, ZETA;
MATHEMATICAL ITALIC SMALL: A, ALPHA, B, BETA, C, CHI, D, DELTA, DOTLESS I, DOTLESS J, E, EPSILON,
ETA, F, FINAL SIGMA, G, GAMMA, I, IOTA, J, K, KAPPA, L, LAMDA, M, MU, N, NU, O, OMEGA, OMICRON, P,
PHI, PI, PSI, Q, R, RHO, S, SIGMA, T, TAU, THETA, U, UPSILON, V, W, X, XI, Y, Z, ZETA;
MATHEMATICAL LEFT: ANGLE BRACKET, DOUBLE ANGLE BRACKET, FLATTENED PARENTHESIS, WHITE SQUARE
BRACKET, WHITE TORTOISE SHELL BRACKET;
MATHEMATICAL MONOSPACE CAPITAL: A, B, C, D, E, F, G, H, I, J, K, L, M, N, O, P, Q, R, S, T, U, V,
W, X, Y, Z;
MATHEMATICAL MONOSPACE DIGIT: EIGHT, FIVE, FOUR, NINE, ONE, SEVEN, SIX, THREE, TWO, ZERO;
MATHEMATICAL MONOSPACE SMALL: A, B, C, D, E, F, G, H, I, J, K, L, M, N, O, P, Q, R, S, T, U, V, W,
X, Y, Z;
MATHEMATICAL RIGHT: ANGLE BRACKET, DOUBLE ANGLE BRACKET, FLATTENED PARENTHESIS, WHITE SQUARE
BRACKET, WHITE TORTOISE SHELL BRACKET;
MATHEMATICAL SANS-SERIF BOLD: EPSILON SYMBOL, KAPPA SYMBOL, NABLA, PARTIAL DIFFERENTIAL, PHI
SYMBOL, PI SYMBOL, RHO SYMBOL, THETA SYMBOL;
MATHEMATICAL SANS-SERIF BOLD CAPITAL: A, ALPHA, B, BETA, C, CHI, D, DELTA, E, EPSILON, ETA, F, G,
GAMMA, H, I, IOTA, J, K, KAPPA, L, LAMDA, M, MU, N, NU, O, OMEGA, OMICRON, P, PHI, PI, PSI, Q, R,
RHO, S, SIGMA, T, TAU, THETA, THETA SYMBOL, U, UPSILON, V, W, X, XI, Y, Z, ZETA;
MATHEMATICAL SANS-SERIF BOLD DIGIT: EIGHT, FIVE, FOUR, NINE, ONE, SEVEN, SIX, THREE, TWO, ZERO;
MATHEMATICAL SANS-SERIF BOLD ITALIC: EPSILON SYMBOL, KAPPA SYMBOL, NABLA, PARTIAL DIFFERENTIAL,
PHI SYMBOL, PI SYMBOL, RHO SYMBOL, THETA SYMBOL;
MATHEMATICAL SANS-SERIF BOLD ITALIC CAPITAL: A, ALPHA, B, BETA, C, CHI, D, DELTA, E, EPSILON, ETA,
F, G, GAMMA, H, I, IOTA, J, K, KAPPA, L, LAMDA, M, MU, N, NU, O, OMEGA, OMICRON, P, PHI, PI, PSI,
Q, R, RHO, S, SIGMA, T, TAU, THETA, THETA SYMBOL, U, UPSILON, V, W, X, XI, Y, Z, ZETA;
MATHEMATICAL SANS-SERIF BOLD ITALIC SMALL: A, ALPHA, B, BETA, C, CHI, D, DELTA, E, EPSILON, ETA,
F, FINAL SIGMA, G, GAMMA, H, I, IOTA, J, K, KAPPA, L, LAMDA, M, MU, N, NU, O, OMEGA, OMICRON, P,
PHI, PI, PSI, Q, R, RHO, S, SIGMA, T, TAU, THETA, U, UPSILON, V, W, X, XI, Y, Z, ZETA;
MATHEMATICAL SANS-SERIF BOLD SMALL: A, ALPHA, B, BETA, C, CHI, D, DELTA, E, EPSILON, ETA, F, FINAL
SIGMA, G, GAMMA, H, I, IOTA, J, K, KAPPA, L, LAMDA, M, MU, N, NU, O, OMEGA, OMICRON, P, PHI, PI,
PSI, Q, R, RHO, S, SIGMA, T, TAU, THETA, U, UPSILON, V, W, X, XI, Y, Z, ZETA;
MATHEMATICAL SANS-SERIF CAPITAL: A, B, C, D, E, F, G, H, I, J, K, L, M, N, O, P, Q, R, S, T, U, V,
W, X, Y, Z;
MATHEMATICAL SANS-SERIF DIGIT: EIGHT, FIVE, FOUR, NINE, ONE, SEVEN, SIX, THREE, TWO, ZERO;
MATHEMATICAL SANS-SERIF ITALIC CAPITAL: A, B, C, D, E, F, G, H, I, J, K, L, M, N, O, P, Q, R, S,
T, U, V, W, X, Y, Z;
MATHEMATICAL SANS-SERIF ITALIC SMALL: A, B, C, D, E, F, G, H, I, J, K, L, M, N, O, P, Q, R, S, T,
U, V, W, X, Y, Z;
MATHEMATICAL SANS-SERIF SMALL: A, B, C, D, E, F, G, H, I, J, K, L, M, N, O, P, Q, R, S, T, U, V,
W, X, Y, Z;
MATHEMATICAL SCRIPT CAPITAL: A, C, D, G, J, K, N, O, P, Q, S, T, U, V, W, X, Y, Z;
MATHEMATICAL SCRIPT SMALL: A, B, C, D, F, H, I, J, K, L, M, N, P, Q, R, S, T, U, V, W, X, Y, Z;
MAYAN NUMERAL: EIGHT, EIGHTEEN, ELEVEN, FIFTEEN, FIVE, FOUR, FOURTEEN, NINE, NINETEEN, ONE, SEVEN,
SEVENTEEN, SIX, SIXTEEN, TEN, THIRTEEN, THREE, TWELVE, TWO, ZERO;
MEASURED: ANGLE, ANGLE OPENING LEFT, BY, RIGHT ANGLE WITH DOT;
MEASURED ANGLE WITH OPEN ARM ENDING IN ARROW POINTING: DOWN AND LEFT, DOWN AND RIGHT, LEFT AND
DOWN, LEFT AND UP, RIGHT AND DOWN, RIGHT AND UP, UP AND LEFT, UP AND RIGHT;
MECHANICAL: ARM, LEG;
MEDEFAIDRIN: COMMA, EXCLAMATION OH, FULL STOP, SYMBOL AIVA;
MEDEFAIDRIN CAPITAL LETTER: A, AI, ATIU, B, C, D, E, F, G, H, HP, I, J, K, KP, L, M, N, NG, NY, O,
OE, P, Q, R, S, T, U, V, W, X, Y, YU, Z;
MEDEFAIDRIN DIGIT: EIGHT, FIVE, FOUR, NINE, ONE, ONE ALTERNATE FORM, SEVEN, SIX, THREE, THREE
ALTERNATE FORM, TWO, TWO ALTERNATE FORM, ZERO;
MEDEFAIDRIN NUMBER: EIGHTEEN, ELEVEN, FIFTEEN, FOURTEEN, NINETEEN, SEVENTEEN, SIXTEEN, TEN,
THIRTEEN, TWELVE;
MEDEFAIDRIN SMALL LETTER: A, AI, ATIU, B, C, D, E, F, G, H, HP, I, J, K, KP, L, M, N, NG, NY, O,
OE, P, Q, R, S, T, U, V, W, X, Y, YU, Z;
MEDIEVAL: COMMA, EXCLAMATION MARK, QUESTION MARK;
MEDIUM: BLACK CIRCLE, BOLD WHITE CIRCLE, EIGHT POINTED BLACK STAR, EIGHT SPOKED ASTERISK, FIVE
SPOKED ASTERISK, GREEK CROSS, LEFT CURLY BRACKET ORNAMENT, LEFT PARENTHESIS ORNAMENT,
LEFT-POINTING ANGLE BRACKET ORNAMENT, MATHEMATICAL SPACE, RIGHT CURLY BRACKET ORNAMENT, RIGHT
PARENTHESIS ORNAMENT, RIGHT-POINTING ANGLE BRACKET ORNAMENT, SALTIRE, SHADE, SIX POINTED BLACK
STAR, SIX SPOKED ASTERISK, SMALL WHITE CIRCLE, VERTICAL BAR, WHITE CIRCLE, WHITE SQUARE;
MEDIUM FLATTENED: LEFT PARENTHESIS ORNAMENT, RIGHT PARENTHESIS ORNAMENT;
MEDIUM FOUR POINTED: BLACK STAR, PINWHEEL STAR;
MEDIUM THREE POINTED: BLACK STAR, PINWHEEL STAR;
MEETEI MAYEK: AHANG KHUDAM, ANJI, APUN IYEK, CHEIKHAN, CHEIKHEI, LUM IYEK, SYLLABLE REPETITION
MARK, VIRAMA, WORD REPETITION MARK;
MEETEI MAYEK DIGIT: EIGHT, FIVE, FOUR, NINE, ONE, SEVEN, SIX, THREE, TWO, ZERO;
MEETEI MAYEK LETTER: ATIYA, BA, BHAM, CHA, CHIL, DDA, DDHA, DHOU, DIL, E, GHOU, GOK, HUK, I, I
LONSUM, JHAM, JIL, KHOU, KOK, KOK LONSUM, LAI, LAI LONSUM, MIT, MIT LONSUM, NA, NA LONSUM, NGOU,
NGOU LONSUM, NNA, NYA, O, PA, PA LONSUM, PHAM, RAI, SAM, SHA, SSA, THOU, TIL, TIL LONSUM, TTA,
TTHA, UN, WAI, YANG;
MEETEI MAYEK VOWEL SIGN: AAI, AAU, ANAP, AU, CHEINAP, II, INAP, NUNG, ONAP, SOUNAP, UNAP, UU,
VISARGA, YENAP;
MENDE KIKAKUI COMBINING NUMBER: HUNDRED THOUSANDS, HUNDREDS, MILLIONS, TEENS, TEN THOUSANDS, TENS,
THOUSANDS;
MENDE KIKAKUI DIGIT: EIGHT, FIVE, FOUR, NINE, ONE, SEVEN, SIX, THREE, TWO;
MENDE KIKAKUI SYLLABLE: M001 KI, M002 KA, M003 KU, M004 WI, M005 WA, M006 WU, M007 MIN, M008 MAN,
M009 MUN, M010 BI, M011 BA, M012 BU, M013 I, M014 A, M015 U, M016 DI, M017 DA, M018 DU, M019 SI,
M020 SA, M021 SU, M022 TI, M023 TA, M024 TU, M025 LI, M026 LA, M027 LU, M028 JI, M029 JA, M030 JU,
M031 YI, M032 YA, M033 YU, M034 FI, M035 FA, M036 FU, M037 NIN, M038 NAN, M039 NUN, M040 HEE, M041
HA, M042 HOO, M043 NGGA, M044 KPEE, M045 WO, M046 HUAN, M047 MBEE, M048 KO, M049 WVA, M050 PU,
M051 PE, M052 HEN, M053 HIN, M054 LOO, M055 TE, M056 GBA, M057 NGON, M058 NYAN, M059 MEN, M060
NYON, M061 WVI, M062 MBA, M063 JO, M064 NDO, M065 KEE, M066 PO, M067 NDOO, M068 PI, M069 TO, M070
GBO, M071 GBOO, M072 MBE, M073 LE, M074 KPU, M075 FE, M076 KOO, M077 VO, M078 FEE, M079 SO, M080
YE, M081 PEE, M082 NGGU, M083 HEEI, M084 LEE, M085 VE, M086 LONG NGGE, M087 HUN, M088 FO, M089
DEE, M090 NGGI, M091 TEE, M092 KPA, M093 GBEE, M094 MON, M095 KE, M096 HE, M097 BE, M098 NYEN,
M099 PA, M100 E, M101 FAN, M102 POO, M103 BOO, M104 TOO, M105 LONG MBOO, M106 LONG NGGOO, M107
GBE, M108 KPE, M109 YEE, M110 LONG LE, M111 GA, M112 KPOO, M113 JE, M114 WOO, M115 NGGEE, M116 SE,
M117 NEN, M118 WE, M119 NDE, M120 NGGO, M121 YO, M122 MBU, M123 NDI, M124 GBI, M125 NDU, M126 WEE,
M127 NGGUA, M128 HOOU, M129 NDA, M130 HAN, M131 IN, M132 KPI, M133 FOO, M134 NJOO, M135 IN, M136
SOO, M137 EI, M138 BO, M139 WVE, M140 HO, M141 YOO, M142 LONG MBO, M143 WEI, M144 VOO, M145 MBI,
M146 NGGE, M147 O, M148 GBU, M149 NJEE, M150 BEE, M151 VU, M152 NJA, M153 LO, M154 MUAN, M155 GI,
M156 NGGOO, M157 JEE, M158 KPO, M159 NGGAA, M160 JOO, M161 LONG MBE, M162 SEE, M163 EE, M164 NYIN,
M165 OO, M166 GUEI, M167 GUAN, M168 GU, M169 NON, M170 NYUN, M171 RA, M172 MBOO, M173 VEE, M174
MBO, M175 LONG JO, M176 HI, M177 NGUAN, M178 EN, M179 KUA, M180 DOO, M181 DO, M182 VI, M183 LONG
NGGO, M184 NGEN, M185 VA, M186 HU, M187 MBUU, M188 MBEE, M189 MUEN, M190 GEE, M191 NDEE, M192 NJU,
M193 HON, M194 WUI, M195 AN, M196 SIA, M197 FUA;
MEROITIC CURSIVE FRACTION: EIGHT TWELFTHS, ELEVEN TWELFTHS, FIVE TWELFTHS, FOUR TWELFTHS, NINE
TWELFTHS, ONE HALF, ONE TWELFTH, SEVEN TWELFTHS, SIX TWELFTHS, TEN TWELFTHS, THREE TWELFTHS, TWO
TWELFTHS;
MEROITIC CURSIVE LETTER: A, ARCHAIC SA, BA, DA, E, HHA, I, KA, KHA, LA, MA, NA, NE, O, PA, QA, RA,
SA, SE, TA, TE, TO, WA, YA;
MEROITIC CURSIVE LOGOGRAM: IMN, RMT;
MEROITIC CURSIVE NUMBER: EIGHT, EIGHT HUNDRED, EIGHT HUNDRED THOUSAND, EIGHT THOUSAND, EIGHTY
THOUSAND, FIFTY, FIFTY THOUSAND, FIVE, FIVE HUNDRED, FIVE HUNDRED THOUSAND, FIVE THOUSAND, FORTY,
FORTY THOUSAND, FOUR, FOUR HUNDRED, FOUR HUNDRED THOUSAND, FOUR THOUSAND, NINE, NINE HUNDRED, NINE
HUNDRED THOUSAND, NINE THOUSAND, NINETY THOUSAND, ONE, ONE HUNDRED, ONE HUNDRED THOUSAND, ONE
THOUSAND, SEVEN, SEVEN HUNDRED, SEVEN HUNDRED THOUSAND, SEVEN THOUSAND, SEVENTY, SEVENTY THOUSAND,
SIX, SIX HUNDRED, SIX HUNDRED THOUSAND, SIX THOUSAND, SIXTY, SIXTY THOUSAND, TEN, TEN THOUSAND,
THIRTY, THIRTY THOUSAND, THREE, THREE HUNDRED, THREE HUNDRED THOUSAND, THREE THOUSAND, TWENTY,
TWENTY THOUSAND, TWO, TWO HUNDRED, TWO HUNDRED THOUSAND, TWO THOUSAND;
MEROITIC HIEROGLYPHIC LETTER: A, BA, BA-2, DA, E, HHA, I, KA, KHA, LA, MA, NA, NA-2, NE, NE-2, O,
PA, QA, RA, RA-2, SA, SA-2, SE, TA, TA-2, TE, TE-2, TO, WA, YA;
MEROITIC HIEROGLYPHIC SYMBOL: VIDJ, VIDJ-2;
METRICAL: BREVE, LONG OVER SHORT, LONG OVER TWO SHORTS, PENTASEME, SHORT OVER LONG, TETRASEME,
TRISEME, TWO SHORTS JOINED, TWO SHORTS OVER LONG;
MIAO LETTER: AH, BA, BRI, DA, DDA, DLHA, DLHYA, DZA, DZHA, DZYI, DZZA, FA, GA, GHA, GHHA, HA, HHA,
KA, LA, LHA, LHYA, LYA, MA, MHA, NA, NASALIZATION, NGA, NGHA, NHA, NNA, NNHA, NYA, NYHA, PA, PLA,
QA, QGA, RTE, SA, SHA, SSA, SYI, TA, TE, TLHA, TLHYA, TONE-2, TONE-3, TONE-4, TONE-5, TONE-6,
TONE-7, TONE-8, TSA, TSE, TSHA, TSSA, TTA, VA, VFA, WA, XA, ZA, ZHA, ZSA, ZSHA, ZZA, ZZSA, ZZSYA,
ZZYA;
MIAO LETTER ARCHAIC: MA, NA, NGA, ZZA;
MIAO LETTER REFORMED: TONE-1, TONE-2, TONE-4, TONE-5, TONE-6, TONE-8, TSHA;
MIAO LETTER YI: DZHA, KA, NNA, PA, TA, TSA, TSHA, TTA;
MIAO SIGN: ASPIRATION, CONSONANT MODIFIER BAR, REFORMED ASPIRATION, REFORMED VOICING;
MIAO TONE: ABOVE, BELOW, RIGHT, TOP RIGHT;
MIAO VOWEL SIGN: A, AA, AE, AEE, AHH, AI, AN, ANG, AU, E, EA, EI, EN, ENG, ER, ERR, I, IA, IAN,
IANG, IE, IG, II, ING, IO, IONG, IU, N, NG, O, OER, OEY, OG, OO, OU, ROUNDED ER, ROUNDED ERR, U,
UA, UAN, UANG, UEI, UI, UNG, UOG, UU, VW, W, WO, Y, YI, YUI;
MICR: DASH SYMBOL, ON US SYMBOL;
MIDDLE: DOT, THIRD WHITE RIGHT POINTING INDEX;
MILITARY: HELMET, MEDAL;
MINUS: SIGN, SIGN IN TRIANGLE, TILDE;
MINUS SIGN WITH: COMMA ABOVE, DOT BELOW, FALLING DOTS, RISING DOTS;
MIRROR: ., BALL;
MOBILE PHONE: ., OFF, WITH RIGHTWARDS ARROW AT LEFT;
MODI: ABBREVIATION SIGN, DANDA, DOUBLE DANDA;
MODI DIGIT: EIGHT, FIVE, FOUR, NINE, ONE, SEVEN, SIX, THREE, TWO, ZERO;
MODI LETTER: A, AA, AI, AU, BA, BHA, CA, CHA, DA, DDA, DDHA, DHA, E, GA, GHA, HA, I, II, JA, JHA,
KA, KHA, LA, LLA, MA, NA, NGA, NNA, NYA, O, PA, PHA, RA, SA, SHA, SSA, TA, THA, TTA, TTHA, U, UU,
VA, YA;
MODI LETTER VOCALIC: L, LL, R, RR;
MODI SIGN: ANUSVARA, ARDHACANDRA, HUVA, VIRAMA, VISARGA;
MODI VOWEL SIGN: AA, AI, AU, E, I, II, O, U, UU;
MODI VOWEL SIGN VOCALIC: L, LL, R, RR;
MODIFIER LETTER: ACUTE ACCENT, ALVEOLAR CLICK, APOSTROPHE, BEGIN HIGH TONE, BEGIN LOW TONE,
BILABIAL CLICK, CENTRED LEFT HALF RING, CENTRED RIGHT HALF RING, CIRCUMFLEX ACCENT, COLON, CROSS
ACCENT, CYRILLIC EN, CYRILLIC HARD SIGN, CYRILLIC SOFT SIGN, DENTAL CLICK, DOT HORIZONTAL BAR, DOT
SLASH, DOT VERTICAL BAR, DOUBLE APOSTROPHE, DOUBLE PRIME, DOWN ARROWHEAD, DOWN TACK, END HIGH
TONE, END LOW TONE, GEORGIAN NAR, GLOTTAL STOP, GLOTTAL STOP WITH STROKE, GRAVE ACCENT, HALF
TRIANGULAR COLON, HIGH DOTTED LEFT-STEM TONE BAR, HIGH DOTTED TONE BAR, HIGH LEFT-STEM TONE BAR,
HIGH TONE BAR, LATERAL CLICK, LEFT ARROWHEAD, LEFT HALF RING, LEFT TACK, LOWER RIGHT CORNER ANGLE,
MACRON, MID DOTTED LEFT-STEM TONE BAR, MID DOTTED TONE BAR, MID LEFT-STEM TONE BAR, MID TONE BAR,
MIDDLE DOUBLE ACUTE ACCENT, MIDDLE DOUBLE GRAVE ACCENT, MIDDLE GRAVE ACCENT, MINUS SIGN, OPEN
SHELF, PLUS SIGN, PRIME, RETROFLEX CLICK WITH RETROFLEX HOOK, REVERSED COMMA, RHOTIC HOOK, RIGHT
ARROWHEAD, RIGHT HALF RING, RIGHT TACK, SHELF, SHORT EQUALS SIGN, STRESS AND HIGH TONE, STRESS AND
LOW TONE, SUPERSCRIPT HALF TRIANGULAR COLON, SUPERSCRIPT TRIANGULAR COLON, TRIANGULAR COLON,
TURNED COMMA, UNASPIRATED, UP ARROWHEAD, UP TACK, US, VERTICAL LINE, VOICING, YANG DEPARTING TONE
MARK, YIN DEPARTING TONE MARK;
MODIFIER LETTER CAPITAL: A, AE, B, BARRED B, C, D, E, F, G, H, H WITH STROKE, I, J, K, L, M, N, O,
OU, P, Q, R, REVERSED E, REVERSED N, T, U, V, W;
MODIFIER LETTER CHINESE TONE: YANG PING, YANG QU, YANG RU, YANG SHANG, YIN PING, YIN QU, YIN RU,
YIN SHANG;
MODIFIER LETTER EXTRA-HIGH: DOTTED LEFT-STEM TONE BAR, DOTTED TONE BAR, LEFT-STEM TONE BAR, TONE
BAR;
MODIFIER LETTER EXTRA-LOW: DOTTED LEFT-STEM TONE BAR, DOTTED TONE BAR, LEFT-STEM TONE BAR, TONE
BAR;
MODIFIER LETTER LOW: ACUTE ACCENT, CIRCUMFLEX ACCENT, DOTTED LEFT-STEM TONE BAR, DOTTED TONE BAR,
DOWN ARROWHEAD, GRAVE ACCENT, INVERTED EXCLAMATION MARK, LEFT ARROW, LEFT ARROWHEAD, LEFT-STEM
TONE BAR, MACRON, RIGHT ARROWHEAD, RING, TILDE, TONE BAR, UP ARROWHEAD, VERTICAL LINE;
MODIFIER LETTER RAISED: COLON, DOWN ARROW, EXCLAMATION MARK, INVERTED EXCLAMATION MARK, UP ARROW;
MODIFIER LETTER REVERSED GLOTTAL STOP: ., WITH STROKE;
MODIFIER LETTER SMALL: A, AE, AIN, ALPHA, B, B WITH HOOK, BARRED O, BETA, BOTTOM HALF O, C, C WITH
CURL, CHI, CLOSED OMEGA, CLOSED REVERSED OPEN E, D, D WITH HOOK, D WITH HOOK AND TAIL, D WITH
TAIL, DELTA, DEZH DIGRAPH, DOTLESS J WITH STROKE, DOTLESS J WITH STROKE AND HOOK, DZ DIGRAPH, DZ
DIGRAPH WITH CURL, DZ DIGRAPH WITH RETROFLEX HOOK, E, ENG, ESH, ETH, EZH, F, FENG DIGRAPH, G, G
WITH HOOK, GAMMA, GREEK GAMMA, GREEK PHI, H, H WITH HOOK, H WITH STROKE, HENG, HENG WITH HOOK, I
WITH STROKE, IOTA, J, J WITH CROSSED-TAIL, K, L, LEZH, LEZH WITH RETROFLEX HOOK, LIGATURE OE, LS
DIGRAPH, LZ DIGRAPH, M, M WITH HOOK, N WITH LEFT HOOK, N WITH RETROFLEX HOOK, O, O WITH STROKE,
OPEN E, OPEN O, P, PHI, Q, R, R WITH FISHHOOK, R WITH TAIL, RAMS HORN, REVERSED E, REVERSED
GLOTTAL STOP, REVERSED OPEN E, S, S WITH CURL, S WITH HOOK, SCHWA, SCRIPT G, SIDEWAYS U, T, T WITH
PALATAL HOOK, T WITH RETROFLEX HOOK, TC DIGRAPH WITH CURL, TESH DIGRAPH, THETA, TOP HALF O, TS
DIGRAPH, TS DIGRAPH WITH RETROFLEX HOOK, U, U BAR, U WITH LEFT HOOK, UPSILON, V, V WITH HOOK, V
WITH RIGHT HOOK, W, X, Y, Z, Z WITH CURL, Z WITH RETROFLEX HOOK;
MODIFIER LETTER SMALL CAPITAL: AA, B, G, G WITH HOOK, H, I, I WITH STROKE, INVERTED R, L, L WITH
BELT, N, OE, R, U, Y;
MODIFIER LETTER SMALL L WITH: BELT, INVERTED LAZY S, MIDDLE TILDE, PALATAL HOOK, RETROFLEX HOOK,
RETROFLEX HOOK AND BELT;
MODIFIER LETTER SMALL TURNED: A, AE, ALPHA, H, I, M, M WITH LONG LEG, OPEN E, R, R WITH HOOK, R
WITH LONG LEG, R WITH LONG LEG AND RETROFLEX HOOK, V, W, Y, Y WITH BELT;
MONEY: BAG, WITH WINGS;
MONGOLIAN: BIRGA, BIRGA WITH DOUBLE ORNAMENT, BIRGA WITH ORNAMENT, COLON, COMMA, DOUBLE BIRGA WITH
ORNAMENT, ELLIPSIS, FOUR DOTS, FULL STOP, MANCHU COMMA, MANCHU FULL STOP, NIRUGU, SIBE SYLLABLE
BOUNDARY MARKER, TODO SOFT HYPHEN, TRIPLE BIRGA WITH ORNAMENT, TURNED SWIRL BIRGA WITH DOUBLE
ORNAMENT, VOWEL SEPARATOR;
MONGOLIAN DIGIT: EIGHT, FIVE, FOUR, NINE, ONE, SEVEN, SIX, THREE, TWO, ZERO;
MONGOLIAN FREE VARIATION SELECTOR: FOUR, ONE, THREE, TWO;
MONGOLIAN INVERTED BIRGA: ., WITH DOUBLE ORNAMENT;
MONGOLIAN LETTER: A, ANG, BA, CHA, CHA WITH TWO DOTS, CHI, DA, E, EE, FA, GA, HAA, I, JA, KA, KHA,
LA, LHA, MA, NA, O, OE, PA, QA, RA, SA, SHA, TA, TSA, U, UE, WA, YA, ZA, ZHI, ZRA;
MONGOLIAN LETTER ALI GALI: A, AH, ANUSVARA ONE, BALUDA, CA, DA, DAGALGA, DAMARU, DDA, HALF U, HALF
YA, I, INVERTED UBADAMA, KA, NGA, NNA, PA, PHA, SSA, TA, THREE BALUDA, TTA, TTHA, UBADAMA, VISARGA
ONE, ZA, ZHA;
MONGOLIAN LETTER MANCHU: FA, I, KA, RA, ZHA;
MONGOLIAN LETTER MANCHU ALI GALI: BHA, CA, CYA, DDHA, DHA, GHA, JHA, LHA, NGA, SSA, TA, TTA, ZA,
ZHA;
MONGOLIAN LETTER SIBE: ANG, CHA, DA, E, FA, GA, GAA, HA, HAA, I, IY, JA, KA, PA, RAA, SHA, TA,
TSA, U, UE, ZA, ZHA;
MONGOLIAN LETTER TODO: ALI GALI TA, ALI GALI ZHA, ANG, BA, CHA, DA, DZA, E, GA, GAA, HAA, I, JA,
JIA, KA, LONG VOWEL SIGN, MA, NIA, O, OE, PA, QA, TA, TSA, U, UE, WA, YA;
MONGOLIAN ROTATED BIRGA: ., WITH DOUBLE ORNAMENT, WITH ORNAMENT;
MONGOLIAN SWIRL BIRGA: ., WITH DOUBLE ORNAMENT, WITH ORNAMENT;
MONKEY: ., FACE;
MONOGRAM FOR: EARTH, YANG, YIN;
MOON: CAKE, VIEWING CEREMONY;
MOTOR: BOAT, SCOOTER;
MOUNTAIN: ., BICYCLIST, CABLEWAY, RAILWAY;
MOUSE: ., FACE, TRAP;
MRO: DANDA, DOUBLE DANDA;
MRO DIGIT: EIGHT, FIVE, FOUR, NINE, ONE, SEVEN, SIX, THREE, TWO, ZERO;
MRO LETTER: A, BA, CHU, DA, DAI, E, EA, HAI, HAO, KEAAE, KHAI, KO, LA, LAN, MAEM, MIM, NGI, NIN,
O, OL, OO, PA, PHI, RI, RO, SHI, TA, TEK, THEA, WA, YO;
MUCH: GREATER-THAN, LESS-THAN;
MULTANI LETTER: A, BA, BHA, CA, CHA, DA, DDA, DDDA, DDHA, DHA, E, GA, GHA, HA, I, JA, JJA, KA,
KHA, LA, MA, NA, NNA, NYA, PA, PHA, RA, RHA, RRA, SA, TA, THA, TTA, TTHA, U, VA, YA;
MULTIPLICATION SIGN: ., IN DOUBLE CIRCLE, IN LEFT HALF CIRCLE, IN RIGHT HALF CIRCLE, IN TRIANGLE,
WITH DOT ABOVE, WITH UNDERBAR;
MULTISET: ., MULTIPLICATION, UNION;
MUSIC: FLAT SIGN, NATURAL SIGN, SHARP SIGN;
MUSICAL: KEYBOARD, KEYBOARD WITH JACKS, NOTE, SCORE;
MUSICAL SYMBOL: ARPEGGIATO DOWN, ARPEGGIATO UP, BRACE, BRACKET, BREATH MARK, BREVE, BREVIS, BREVIS
REST, C CLEF, CAESURA, CIRCLE X NOTEHEAD, CLIMACUS, CLIVIS, CLUSTER NOTEHEAD BLACK, CLUSTER
NOTEHEAD WHITE, CODA, COMMON TIME, CRESCENDO, CROIX, CUT TIME, DA CAPO, DAL SEGNO, DAMP, DAMP ALL,
DASHED BARLINE, DECRESCENDO, DEGREE SLASH, DOUBLE BARLINE, DOUBLE FLAT, DOUBLE SHARP, DRUM CLEF-1,
DRUM CLEF-2, EIGHTH NOTE, EIGHTH REST, END BEAM, END OF STIMME, END PHRASE, END SLUR, END TIE, F
CLEF, F CLEF OTTAVA ALTA, F CLEF OTTAVA BASSA, FERMATA, FERMATA BELOW, FINAL BARLINE, FIVE-LINE
STAFF, FLAT DOWN, FLAT UP, FORTE, FOUR-LINE STAFF, FOUR-STRING FRETBOARD, FUSA BLACK, FUSA WHITE,
G CLEF, G CLEF OTTAVA ALTA, G CLEF OTTAVA BASSA, GLISSANDO DOWN, GLISSANDO UP, GRACE NOTE NO
SLASH, GRACE NOTE SLASH, GREGORIAN C CLEF, GREGORIAN F CLEF, HALF NOTE, HALF PEDAL MARK, HALF
REST, HAUPTSTIMME, INVERTED TURN, KORON, LEFT REPEAT SIGN, LONGA, LONGA IMPERFECTA REST, LONGA
PERFECTA REST, MAXIMA, MEZZO, MINIMA, MINIMA BLACK, MINIMA REST, MOON NOTEHEAD BLACK, MOON
NOTEHEAD WHITE, MULTI REST, MULTIPLE MEASURE REST, NATURAL DOWN, NATURAL UP, NEBENSTIMME, NOTEHEAD
BLACK, NULL NOTEHEAD, ONE-LINE STAFF, OTTAVA ALTA, OTTAVA BASSA, PARENTHESIS NOTEHEAD, PEDAL MARK,
PEDAL UP MARK, PES SUBPUNCTIS, PIANO, PLUS NOTEHEAD, PODATUS, PORRECTUS, PORRECTUS FLEXUS,
QUINDICESIMA ALTA, QUINDICESIMA BASSA, REPEAT DOTS, REVERSE FINAL BARLINE, RIGHT REPEAT SIGN,
RINFORZANDO, SCANDICUS, SCANDICUS FLEXUS, SEGNO, SHARP DOWN, SHARP UP, SHORT BARLINE, SINGLE
BARLINE, SIX-LINE STAFF, SIX-STRING FRETBOARD, SIXTEENTH NOTE, SIXTEENTH REST, SIXTY-FOURTH NOTE,
SIXTY-FOURTH REST, SORI, SQUARE B, SQUARE NOTEHEAD BLACK, SQUARE NOTEHEAD WHITE, SUBITO,
THIRTY-SECOND NOTE, THIRTY-SECOND REST, THREE-LINE STAFF, TORCULUS, TORCULUS RESUPINUS, TR, TURN,
TURN SLASH, TURN UP, TWO-LINE STAFF, VIRGA, VOID NOTEHEAD, WHOLE NOTE, WHOLE REST, WITH
FINGERNAILS, X NOTEHEAD, Z;
MUSICAL SYMBOL BEGIN: BEAM, PHRASE, SLUR, TIE;
MUSICAL SYMBOL COMBINING: ACCENT, ACCENT-STACCATO, AUGMENTATION DOT, BEND, DOIT, DOUBLE TONGUE,
DOWN BOW, FLAG-1, FLAG-2, FLAG-3, FLAG-4, FLAG-5, FLIP, HARMONIC, LOURE, MARCATO,
MARCATO-STACCATO, RIP, SMEAR, SNAP PIZZICATO, SPRECHGESANG STEM, STACCATISSIMO, STACCATO, STEM,
TENUTO, TREMOLO-1, TREMOLO-2, TREMOLO-3, TRIPLE TONGUE, UP BOW;
MUSICAL SYMBOL FINGERED: TREMOLO-1, TREMOLO-2, TREMOLO-3;
MUSICAL SYMBOL KIEVAN: C CLEF, EIGHTH NOTE STEM DOWN, EIGHTH NOTE STEM UP, END OF PIECE, FINAL
NOTE, FLAT SIGN, HALF NOTE, QUARTER NOTE STEM DOWN, QUARTER NOTE STEM UP, RECITATIVE MARK, WHOLE
NOTE;
MUSICAL SYMBOL ONE HUNDRED TWENTY-EIGHTH: NOTE, REST;
MUSICAL SYMBOL ORNAMENT: STROKE-1, STROKE-10, STROKE-11, STROKE-2, STROKE-3, STROKE-4, STROKE-5,
STROKE-6, STROKE-7, STROKE-8, STROKE-9;
MUSICAL SYMBOL QUARTER: NOTE, REST, TONE FLAT, TONE SHARP;
MUSICAL SYMBOL REPEATED: FIGURE-1, FIGURE-2, FIGURE-3;
MUSICAL SYMBOL SEMIBREVIS: BLACK, REST, WHITE;
MUSICAL SYMBOL SEMIMINIMA: BLACK, REST, WHITE;
MUSICAL SYMBOL TEMPUS IMPERFECTUM CUM PROLATIONE: IMPERFECTA, IMPERFECTA DIMINUTION-1, IMPERFECTA
DIMINUTION-2, IMPERFECTA DIMINUTION-3, PERFECTA;
MUSICAL SYMBOL TEMPUS PERFECTUM CUM PROLATIONE: IMPERFECTA, PERFECTA, PERFECTA DIMINUTION-1;
MUSICAL SYMBOL TRIANGLE NOTEHEAD: DOWN BLACK, DOWN WHITE, LEFT BLACK, LEFT WHITE, RIGHT BLACK,
RIGHT WHITE, UP BLACK, UP RIGHT BLACK, UP RIGHT WHITE, UP WHITE;
MUSICAL SYMBOL TRIANGLE-ROUND NOTEHEAD DOWN: BLACK, WHITE;
MYANMAR CONSONANT SIGN: MEDIAL HA, MEDIAL RA, MEDIAL WA, MEDIAL YA, MON MEDIAL LA, MON MEDIAL MA,
MON MEDIAL NA, SHAN MEDIAL WA;
MYANMAR DIGIT: EIGHT, FIVE, FOUR, NINE, ONE, SEVEN, SIX, THREE, TWO, ZERO;
MYANMAR LETTER: A, AITON RA, AU, BA, BHA, CA, CHA, DA, DDA, DDHA, DHA, E, GA, GHA, GREAT SA, HA,
I, II, JA, JHA, KA, KHA, LA, LLA, MA, MON BBA, MON BBE, MON E, MON JHA, MON NGA, NA, NGA, NNA,
NNYA, NYA, O, PA, PHA, RA, RUMAI PALAUNG FA, SA, SGAW KAREN SHA, SHA, SHWE PALAUNG CHA, SHWE
PALAUNG SHA, SSA, TA, THA, TTA, TTHA, U, UU, WA, YA;
MYANMAR LETTER EASTERN PWO KAREN: GHWA, NNA, YWA;
MYANMAR LETTER KHAMTI: CA, CHA, DDA, DDHA, DHA, FA, GA, HA, HHA, JA, JHA, LLA, NA, NYA, RA, SA,
TTA, TTHA, XA, ZA;
MYANMAR LETTER SHAN: A, BA, BHA, CA, CHA, DA, FA, GA, GHA, HA, JHA, KA, KHA, NA, NNA, NYA, PHA,
THA, ZA;
MYANMAR LETTER TAI LAING: BA, BHA, DA, DDA, DDHA, DHA, FA, GA, GHA, JA, JHA, LLA, NNA, NYA;
MYANMAR LETTER VOCALIC: L, LL, R, RR;
MYANMAR LETTER WESTERN PWO KAREN: PWA, THA;
MYANMAR LOGOGRAM KHAMTI: HM, OAY, QN;
MYANMAR MODIFIER LETTER: KHAMTI REDUPLICATION, SHAN REDUPLICATION;
MYANMAR SHAN DIGIT: EIGHT, FIVE, FOUR, NINE, ONE, SEVEN, SIX, THREE, TWO, ZERO;
MYANMAR SIGN: ANUSVARA, ASAT, DOT BELOW, KHAMTI TONE-1, KHAMTI TONE-3, LITTLE SECTION, PAO KAREN
TONE, RUMAI PALAUNG TONE-5, SECTION, TAI LAING TONE-2, TAI LAING TONE-5, VIRAMA, VISARGA;
MYANMAR SIGN SHAN: COUNCIL EMPHATIC TONE, COUNCIL TONE-2, COUNCIL TONE-3, SAW, TONE-2, TONE-3,
TONE-5, TONE-6;
MYANMAR SIGN WESTERN PWO KAREN: TONE-1, TONE-2, TONE-3, TONE-4, TONE-5;
MYANMAR SYMBOL: AFOREMENTIONED, AITON EXCLAMATION, AITON ONE, AITON TWO, COMPLETED, GENITIVE,
LOCATIVE, SHAN EXCLAMATION, SHAN ONE;
MYANMAR TAI LAING DIGIT: EIGHT, FIVE, FOUR, NINE, ONE, SEVEN, SIX, THREE, TWO, ZERO;
MYANMAR TONE MARK SGAW KAREN: HATHI, KE PHO;
MYANMAR VOWEL SIGN: AA, AI, AITON A, AITON AI, E, E ABOVE, GEBA KAREN I, I, II, KAYAH EE, KAYAH
OE, KAYAH U, MON II, MON O, SGAW KAREN EU, SHAN AA, SHAN E, SHAN E ABOVE, SHAN FINAL Y, TALL AA,
U, UU, WESTERN PWO KAREN EU, WESTERN PWO KAREN UE;
MYANMAR VOWEL SIGN VOCALIC: L, LL, R, RR;
N-ARY: COPRODUCT, INTERSECTION, LOGICAL AND, LOGICAL OR, PRODUCT, SQUARE INTERSECTION OPERATOR,
SQUARE UNION OPERATOR, SUMMATION, TIMES OPERATOR, UNION, WHITE VERTICAL BAR;
N-ARY CIRCLED: DOT OPERATOR, PLUS OPERATOR, TIMES OPERATOR;
N-ARY UNION OPERATOR WITH: DOT, PLUS;
NABATAEAN LETTER: ALEPH, AYIN, BETH, DALETH, GIMEL, HE, HETH, KAPH, LAMEDH, MEM, NUN, PE, QOPH,
RESH, SADHE, SAMEKH, SHIN, TAW, TETH, WAW, YODH, ZAYIN;
NABATAEAN LETTER FINAL: ALEPH, BETH, HE, KAPH, LAMEDH, MEM, NUN, SHIN, YODH;
NABATAEAN NUMBER: FIVE, FOUR, ONE, ONE HUNDRED, TEN, THREE, TWENTY, TWO;
NANDINAGARI LETTER: A, AA, AI, AU, BA, BHA, CA, CHA, DA, DDA, DDHA, DHA, E, GA, GHA, HA, I, II,
JA, JHA, KA, KHA, LA, LLA, MA, NA, NGA, NNA, NYA, O, PA, PHA, RA, RRA, SA, SHA, SSA, TA, THA, TTA,
TTHA, U, UU, VA, VOCALIC R, VOCALIC RR, YA;
NANDINAGARI SIGN: ANUSVARA, AVAGRAHA, SIDDHAM, VIRAMA, VISARGA;
NANDINAGARI VOWEL SIGN: AA, AI, AU, E, I, II, O, PRISHTHAMATRA E, U, UU, VOCALIC R, VOCALIC RR;
NATIONAL: DIGIT SHAPES, PARK;
NEGATIVE CIRCLED: DIGIT ZERO, SQUARE, TRIANGLE;
NEGATIVE CIRCLED LATIN CAPITAL LETTER: A, B, C, D, E, F, G, H, I, J, K, L, M, N, O, P, Q, R, S, T,
U, V, W, X, Y, Z;
NEGATIVE CIRCLED NUMBER: EIGHTEEN, ELEVEN, FIFTEEN, FOURTEEN, NINETEEN, SEVENTEEN, SIXTEEN,
THIRTEEN, TWELVE, TWENTY;
NEGATIVE DIAGONAL: CROSS, DIAMOND, MIDDLE RIGHT TO LOWER CENTRE;
NEGATIVE SQUARED: AB, CROSS MARK, IC, PA, QUESTION MARK, SA, WC;
NEGATIVE SQUARED LATIN CAPITAL LETTER: A, B, C, D, E, F, G, H, I, J, K, L, M, N, O, P, Q, R, S, T,
U, V, W, X, Y, Z;
NEITHER: A SUBSET OF NOR EQUAL TO, A SUPERSET OF NOR EQUAL TO, APPROXIMATELY NOR ACTUALLY EQUAL TO;
NEITHER GREATER-THAN NOR: EQUAL TO, EQUIVALENT TO, LESS-THAN;
NEITHER LESS-THAN NOR: EQUAL TO, EQUIVALENT TO, GREATER-THAN;
NEPTUNE: ., FORM TWO;
NEUTRAL CHESS: BISHOP, BISHOP ROTATED NINETY DEGREES, BISHOP ROTATED TWO HUNDRED SEVENTY DEGREES,
EQUIHOPPER, EQUIHOPPER ROTATED NINETY DEGREES, KING, KING ROTATED NINETY DEGREES, KING ROTATED TWO
HUNDRED SEVENTY DEGREES, KNIGHT, PAWN, PAWN ROTATED NINETY DEGREES, PAWN ROTATED TWO HUNDRED
SEVENTY DEGREES, QUEEN, QUEEN ROTATED NINETY DEGREES, QUEEN ROTATED TWO HUNDRED SEVENTY DEGREES,
ROOK, ROOK ROTATED NINETY DEGREES, ROOK ROTATED TWO HUNDRED SEVENTY DEGREES;
NEUTRAL CHESS KNIGHT ROTATED: FORTY-FIVE DEGREES, NINETY DEGREES, ONE HUNDRED THIRTY-FIVE DEGREES,
THREE HUNDRED FIFTEEN DEGREES, TWO HUNDRED SEVENTY DEGREES, TWO HUNDRED TWENTY-FIVE DEGREES;
NEUTRAL CHESS TURNED: BISHOP, KING, KNIGHT, PAWN, QUEEN, ROOK;
NEW: LINE, MOON SYMBOL, MOON WITH FACE, SHEQEL SIGN;
NEW TAI LUE: SIGN LAE, SIGN LAEV, THAM DIGIT ONE, TONE MARK-1, TONE MARK-2;
NEW TAI LUE DIGIT: EIGHT, FIVE, FOUR, NINE, ONE, SEVEN, SIX, THREE, TWO, ZERO;
NEW TAI LUE LETTER FINAL: B, D, K, M, N, NG, V;
NEW TAI LUE LETTER HIGH: BA, DA, FA, HA, KA, KVA, LA, MA, NA, NGA, PA, PHA, QA, SA, SUA, TA, THA,
TSA, VA, XA, XVA, YA;
NEW TAI LUE LETTER LOW: BA, DA, FA, HA, KA, KVA, LA, MA, NA, NGA, PA, PHA, QA, SA, SUA, TA, THA,
TSA, VA, XA, XVA, YA;
NEW TAI LUE VOWEL SIGN: AA, AAY, AE, AY, E, II, IY, O, OA, OAY, OY, U, UE, UEY, UU, UY, VOWEL
SHORTENER;
NEWA: ABBREVIATION SIGN, COMMA, DANDA, DOUBLE COMMA, DOUBLE DANDA, GAP FILLER, INSERTION SIGN, OM,
PLACEHOLDER MARK, SANDHI MARK, SIDDHI;
NEWA DIGIT: EIGHT, FIVE, FOUR, NINE, ONE, SEVEN, SIX, THREE, TWO, ZERO;
NEWA LETTER: A, AA, AI, AU, BA, BHA, CA, CHA, DA, DDA, DDHA, DHA, E, GA, GHA, HA, I, II, JA, JHA,
KA, KHA, LA, LHA, MA, MHA, NA, NGA, NGHA, NHA, NNA, NYA, NYHA, O, PA, PHA, RA, RHA, SA, SHA, SSA,
TA, THA, TTA, TTHA, U, UU, VEDIC ANUSVARA, WA, YA;
NEWA LETTER VOCALIC: L, LL, R, RR;
NEWA SIGN: ANUSVARA, AVAGRAHA, CANDRABINDU, FINAL ANUSVARA, JIHVAMULIYA, NUKTA, UPADHMANIYA,
VIRAMA, VISARGA;
NEWA VOWEL SIGN: AA, AI, AU, E, I, II, O, U, UU;
NEWA VOWEL SIGN VOCALIC: L, LL, R, RR;
NEWLINE: LEFT, RIGHT;
NEXT: LINE, PAGE;
NKO: COMMA, DANTAYALAN, DOROME SIGN, EXCLAMATION MARK, HIGH TONE APOSTROPHE, LAJANYALAN, LOW TONE
APOSTROPHE, TAMAN SIGN;
NKO COMBINING: DOUBLE DOT ABOVE, LONG DESCENDING TONE, LONG HIGH TONE, LONG LOW TONE, LONG RISING
TONE, NASALIZATION MARK, SHORT HIGH TONE, SHORT LOW TONE, SHORT RISING TONE;
NKO DIGIT: EIGHT, FIVE, FOUR, NINE, ONE, SEVEN, SIX, THREE, TWO, ZERO;
NKO LETTER: A, BA, CHA, DA, DAGBASINNA, E, EE, FA, GBA, HA, I, JA, JONA CHA, JONA JA, JONA RA, KA,
LA, MA, N, NA, NA WOLOSO, NYA, NYA WOLOSO, O, OO, PA, RA, RRA, SA, TA, U, WA, YA;
NKO SYMBOL: GBAKURUNEN, OO DENNEN;
NO: BICYCLES, BREAK HERE, ENTRY, ENTRY SIGN, MOBILE PHONES, ONE UNDER EIGHTEEN SYMBOL,
PEDESTRIANS, PIRACY, SMOKING SYMBOL;
NORMAL SUBGROUP OF: ., OR EQUAL TO;
NORTH EAST: AND SOUTH WEST ARROW, BLACK ARROW, DOUBLE ARROW, SANS-SERIF ARROW, WHITE ARROW;
NORTH EAST ARROW: ., AND SOUTH EAST ARROW, CROSSING NORTH WEST ARROW, CROSSING SOUTH EAST ARROW,
WITH HOOK;
NORTH EAST POINTING: BUD, LEAF, VINE LEAF;
NORTH EAST TRIANGLE-HEADED ARROW: ., TO BAR;
NORTH INDIC: PLACEHOLDER MARK, QUANTITY MARK, QUARTER MARK, RUPEE MARK;
NORTH INDIC FRACTION: ONE EIGHTH, ONE HALF, ONE QUARTER, ONE SIXTEENTH, THREE QUARTERS, THREE
SIXTEENTHS;
NORTH WEST: AND SOUTH EAST ARROW, BLACK ARROW, DOUBLE ARROW, SANS-SERIF ARROW, WHITE ARROW;
NORTH WEST ARROW: ., AND NORTH EAST ARROW, CROSSING NORTH EAST ARROW, TO CORNER, TO LONG BAR, WITH
HOOK;
NORTH WEST POINTING: BUD, LEAF, VINE LEAF;
NORTH WEST TRIANGLE-HEADED ARROW: ., TO BAR;
NOT: A SUBSET OF, A SUPERSET OF, ALMOST EQUAL TO, AN ELEMENT OF, ASYMPTOTICALLY EQUAL TO, CHECK
MARK, EQUAL TO, EQUIVALENT TO, GREATER-THAN, IDENTICAL TO, LESS-THAN, PARALLEL TO, SIGN, TILDE,
TRUE;
NOT NORMAL SUBGROUP OF: ., OR EQUAL TO;
NOT SQUARE: IMAGE OF OR EQUAL TO, ORIGINAL OF OR EQUAL TO;
NOTCHED: LEFT SEMICIRCLE WITH THREE DOTS, LOWER RIGHT-SHADOWED WHITE RIGHTWARDS ARROW, RIGHT
SEMICIRCLE WITH THREE DOTS, UPPER RIGHT-SHADOWED WHITE RIGHTWARDS ARROW;
NOTE: ., PAD, PAGE;
NOTEBOOK: ., WITH DECORATIVE COVER;
NUMBER: EIGHTEEN FULL STOP, ELEVEN FULL STOP, FIFTEEN FULL STOP, FOURTEEN FULL STOP, NINETEEN FULL
STOP, SEVENTEEN FULL STOP, SIGN, SIXTEEN FULL STOP, TEN FULL STOP, THIRTEEN FULL STOP, TWELVE FULL
STOP, TWENTY FULL STOP;
NUSHU: CHARACTER-1B170, CHARACTER-1B171, CHARACTER-1B172, CHARACTER-1B173, CHARACTER-1B174,
CHARACTER-1B175, CHARACTER-1B176, CHARACTER-1B177, CHARACTER-1B178, CHARACTER-1B179,
CHARACTER-1B17A, CHARACTER-1B17B, CHARACTER-1B17C, CHARACTER-1B17D, CHARACTER-1B17E,
CHARACTER-1B17F, CHARACTER-1B180, CHARACTER-1B181, CHARACTER-1B182, CHARACTER-1B183,
CHARACTER-1B184, CHARACTER-1B185, CHARACTER-1B186, CHARACTER-1B187, CHARACTER-1B188,
CHARACTER-1B189, CHARACTER-1B18A, CHARACTER-1B18B, CHARACTER-1B18C, CHARACTER-1B18D,
CHARACTER-1B18E, CHARACTER-1B18F, CHARACTER-1B190, CHARACTER-1B191, CHARACTER-1B192,
CHARACTER-1B193, CHARACTER-1B194, CHARACTER-1B195, CHARACTER-1B196, CHARACTER-1B197,
CHARACTER-1B198, CHARACTER-1B199, CHARACTER-1B19A, CHARACTER-1B19B, CHARACTER-1B19C,
CHARACTER-1B19D, CHARACTER-1B19E, CHARACTER-1B19F, CHARACTER-1B1A0, CHARACTER-1B1A1,
CHARACTER-1B1A2, CHARACTER-1B1A3, CHARACTER-1B1A4, CHARACTER-1B1A5, CHARACTER-1B1A6,
CHARACTER-1B1A7, CHARACTER-1B1A8, CHARACTER-1B1A9, CHARACTER-1B1AA, CHARACTER-1B1AB,
CHARACTER-1B1AC, CHARACTER-1B1AD, CHARACTER-1B1AE, CHARACTER-1B1AF, CHARACTER-1B1B0,
CHARACTER-1B1B1, CHARACTER-1B1B2, CHARACTER-1B1B3, CHARACTER-1B1B4, CHARACTER-1B1B5,
CHARACTER-1B1B6, CHARACTER-1B1B7, CHARACTER-1B1B8, CHARACTER-1B1B9, CHARACTER-1B1BA,
CHARACTER-1B1BB, CHARACTER-1B1BC, CHARACTER-1B1BD, CHARACTER-1B1BE, CHARACTER-1B1BF,
CHARACTER-1B1C0, CHARACTER-1B1C1, CHARACTER-1B1C2, CHARACTER-1B1C3, CHARACTER-1B1C4,
CHARACTER-1B1C5, CHARACTER-1B1C6, CHARACTER-1B1C7, CHARACTER-1B1C8, CHARACTER-1B1C9,
CHARACTER-1B1CA, CHARACTER-1B1CB, CHARACTER-1B1CC, CHARACTER-1B1CD, CHARACTER-1B1CE,
CHARACTER-1B1CF, CHARACTER-1B1D0, CHARACTER-1B1D1, CHARACTER-1B1D2, CHARACTER-1B1D3,
CHARACTER-1B1D4, CHARACTER-1B1D5, CHARACTER-1B1D6, CHARACTER-1B1D7, CHARACTER-1B1D8,
CHARACTER-1B1D9, CHARACTER-1B1DA, CHARACTER-1B1DB, CHARACTER-1B1DC, CHARACTER-1B1DD,
CHARACTER-1B1DE, CHARACTER-1B1DF, CHARACTER-1B1E0, CHARACTER-1B1E1, CHARACTER-1B1E2,
CHARACTER-1B1E3, CHARACTER-1B1E4, CHARACTER-1B1E5, CHARACTER-1B1E6, CHARACTER-1B1E7,
CHARACTER-1B1E8, CHARACTER-1B1E9, CHARACTER-1B1EA, CHARACTER-1B1EB, CHARACTER-1B1EC,
CHARACTER-1B1ED, CHARACTER-1B1EE, CHARACTER-1B1EF, CHARACTER-1B1F0, CHARACTER-1B1F1,
CHARACTER-1B1F2, CHARACTER-1B1F3, CHARACTER-1B1F4, CHARACTER-1B1F5, CHARACTER-1B1F6,
CHARACTER-1B1F7, CHARACTER-1B1F8, CHARACTER-1B1F9, CHARACTER-1B1FA, CHARACTER-1B1FB,
CHARACTER-1B1FC, CHARACTER-1B1FD, CHARACTER-1B1FE, CHARACTER-1B1FF, CHARACTER-1B200,
CHARACTER-1B201, CHARACTER-1B202, CHARACTER-1B203, CHARACTER-1B204, CHARACTER-1B205,
CHARACTER-1B206, CHARACTER-1B207, CHARACTER-1B208, CHARACTER-1B209, CHARACTER-1B20A,
CHARACTER-1B20B, CHARACTER-1B20C, CHARACTER-1B20D, CHARACTER-1B20E, CHARACTER-1B20F,
CHARACTER-1B210, CHARACTER-1B211, CHARACTER-1B212, CHARACTER-1B213, CHARACTER-1B214,
CHARACTER-1B215, CHARACTER-1B216, CHARACTER-1B217, CHARACTER-1B218, CHARACTER-1B219,
CHARACTER-1B21A, CHARACTER-1B21B, CHARACTER-1B21C, CHARACTER-1B21D, CHARACTER-1B21E,
CHARACTER-1B21F, CHARACTER-1B220, CHARACTER-1B221, CHARACTER-1B222, CHARACTER-1B223,
CHARACTER-1B224, CHARACTER-1B225, CHARACTER-1B226, CHARACTER-1B227, CHARACTER-1B228,
CHARACTER-1B229, CHARACTER-1B22A, CHARACTER-1B22B, CHARACTER-1B22C, CHARACTER-1B22D,
CHARACTER-1B22E, CHARACTER-1B22F, CHARACTER-1B230, CHARACTER-1B231, CHARACTER-1B232,
CHARACTER-1B233, CHARACTER-1B234, CHARACTER-1B235, CHARACTER-1B236, CHARACTER-1B237,
CHARACTER-1B238, CHARACTER-1B239, CHARACTER-1B23A, CHARACTER-1B23B, CHARACTER-1B23C,
CHARACTER-1B23D, CHARACTER-1B23E, CHARACTER-1B23F, CHARACTER-1B240, CHARACTER-1B241,
CHARACTER-1B242, CHARACTER-1B243, CHARACTER-1B244, CHARACTER-1B245, CHARACTER-1B246,
CHARACTER-1B247, CHARACTER-1B248, CHARACTER-1B249, CHARACTER-1B24A, CHARACTER-1B24B,
CHARACTER-1B24C, CHARACTER-1B24D, CHARACTER-1B24E, CHARACTER-1B24F, CHARACTER-1B250,
CHARACTER-1B251, CHARACTER-1B252, CHARACTER-1B253, CHARACTER-1B254, CHARACTER-1B255,
CHARACTER-1B256, CHARACTER-1B257, CHARACTER-1B258, CHARACTER-1B259, CHARACTER-1B25A,
CHARACTER-1B25B, CHARACTER-1B25C, CHARACTER-1B25D, CHARACTER-1B25E, CHARACTER-1B25F,
CHARACTER-1B260, CHARACTER-1B261, CHARACTER-1B262, CHARACTER-1B263, CHARACTER-1B264,
CHARACTER-1B265, CHARACTER-1B266, CHARACTER-1B267, CHARACTER-1B268, CHARACTER-1B269,
CHARACTER-1B26A, CHARACTER-1B26B, CHARACTER-1B26C, CHARACTER-1B26D, CHARACTER-1B26E,
CHARACTER-1B26F, CHARACTER-1B270, CHARACTER-1B271, CHARACTER-1B272, CHARACTER-1B273,
CHARACTER-1B274, CHARACTER-1B275, CHARACTER-1B276, CHARACTER-1B277, CHARACTER-1B278,
CHARACTER-1B279, CHARACTER-1B27A, CHARACTER-1B27B, CHARACTER-1B27C, CHARACTER-1B27D,
CHARACTER-1B27E, CHARACTER-1B27F, CHARACTER-1B280, CHARACTER-1B281, CHARACTER-1B282,
CHARACTER-1B283, CHARACTER-1B284, CHARACTER-1B285, CHARACTER-1B286, CHARACTER-1B287,
CHARACTER-1B288, CHARACTER-1B289, CHARACTER-1B28A, CHARACTER-1B28B, CHARACTER-1B28C,
CHARACTER-1B28D, CHARACTER-1B28E, CHARACTER-1B28F, CHARACTER-1B290, CHARACTER-1B291,
CHARACTER-1B292, CHARACTER-1B293, CHARACTER-1B294, CHARACTER-1B295, CHARACTER-1B296,
CHARACTER-1B297, CHARACTER-1B298, CHARACTER-1B299, CHARACTER-1B29A, CHARACTER-1B29B,
CHARACTER-1B29C, CHARACTER-1B29D, CHARACTER-1B29E, CHARACTER-1B29F, CHARACTER-1B2A0,
CHARACTER-1B2A1, CHARACTER-1B2A2, CHARACTER-1B2A3, CHARACTER-1B2A4, CHARACTER-1B2A5,
CHARACTER-1B2A6, CHARACTER-1B2A7, CHARACTER-1B2A8, CHARACTER-1B2A9, CHARACTER-1B2AA,
CHARACTER-1B2AB, CHARACTER-1B2AC, CHARACTER-1B2AD, CHARACTER-1B2AE, CHARACTER-1B2AF,
CHARACTER-1B2B0, CHARACTER-1B2B1, CHARACTER-1B2B2, CHARACTER-1B2B3, CHARACTER-1B2B4,
CHARACTER-1B2B5, CHARACTER-1B2B6, CHARACTER-1B2B7, CHARACTER-1B2B8, CHARACTER-1B2B9,
CHARACTER-1B2BA, CHARACTER-1B2BB, CHARACTER-1B2BC, CHARACTER-1B2BD, CHARACTER-1B2BE,
CHARACTER-1B2BF, CHARACTER-1B2C0, CHARACTER-1B2C1, CHARACTER-1B2C2, CHARACTER-1B2C3,
CHARACTER-1B2C4, CHARACTER-1B2C5, CHARACTER-1B2C6, CHARACTER-1B2C7, CHARACTER-1B2C8,
CHARACTER-1B2C9, CHARACTER-1B2CA, CHARACTER-1B2CB, CHARACTER-1B2CC, CHARACTER-1B2CD,
CHARACTER-1B2CE, CHARACTER-1B2CF, CHARACTER-1B2D0, CHARACTER-1B2D1, CHARACTER-1B2D2,
CHARACTER-1B2D3, CHARACTER-1B2D4, CHARACTER-1B2D5, CHARACTER-1B2D6, CHARACTER-1B2D7,
CHARACTER-1B2D8, CHARACTER-1B2D9, CHARACTER-1B2DA, CHARACTER-1B2DB, CHARACTER-1B2DC,
CHARACTER-1B2DD, CHARACTER-1B2DE, CHARACTER-1B2DF, CHARACTER-1B2E0, CHARACTER-1B2E1,
CHARACTER-1B2E2, CHARACTER-1B2E3, CHARACTER-1B2E4, CHARACTER-1B2E5, CHARACTER-1B2E6,
CHARACTER-1B2E7, CHARACTER-1B2E8, CHARACTER-1B2E9, CHARACTER-1B2EA, CHARACTER-1B2EB,
CHARACTER-1B2EC, CHARACTER-1B2ED, CHARACTER-1B2EE, CHARACTER-1B2EF, CHARACTER-1B2F0,
CHARACTER-1B2F1, CHARACTER-1B2F2, CHARACTER-1B2F3, CHARACTER-1B2F4, CHARACTER-1B2F5,
CHARACTER-1B2F6, CHARACTER-1B2F7, CHARACTER-1B2F8, CHARACTER-1B2F9, CHARACTER-1B2FA,
CHARACTER-1B2FB, ITERATION MARK;
NYIAKENG PUACHUE HMONG: CIRCLED CA, LOGOGRAM NYAJ, SIGN XW XW, SYLLABLE LENGTHENER, TONE-B,
TONE-D, TONE-G, TONE-J, TONE-M, TONE-S, TONE-V;
NYIAKENG PUACHUE HMONG DIGIT: EIGHT, FIVE, FOUR, NINE, ONE, SEVEN, SIX, THREE, TWO, ZERO;
NYIAKENG PUACHUE HMONG LETTER: A, AA, CA, DA, DLA, E, EE, FA, GA, HA, HAH, I, KA, LA, MA, MLA, NA,
NCA, NKA, NPA, NPLA, NQA, NRA, NTA, NTSA, NTXA, NYA, O, OO, PA, PLA, QA, RA, RRA, SA, TA, TSA,
TXA, U, VA, W, XA, XYA, YA, ZA;
NYIAKENG PUACHUE HMONG SIGN FOR: ANIMAL, INVERTEBRATE, LOCATION, PERSON, THING;
OBLIQUE ANGLE OPENING: DOWN, UP;
OCR: AMOUNT OF CHECK, BELT BUCKLE, BOW TIE, BRANCH BANK IDENTIFICATION, CHAIR, CUSTOMER ACCOUNT
NUMBER, DASH, DOUBLE BACKSLASH, FORK, HOOK, INVERTED FORK;
OGHAM: FEATHER MARK, REVERSED FEATHER MARK, SPACE MARK;
OGHAM LETTER: AILM, BEITH, CEIRT, COLL, DAIR, EABHADH, EADHADH, EAMHANCHOLL, FEARN, GORT, IFIN,
IODHADH, LUIS, MUIN, NGEADAL, NION, ONN, OR, PEITH, RUIS, SAIL, STRAIF, TINNE, UATH, UILLEANN, UR;
OL CHIKI: AHAD, GAAHLAA TTUDDAAG, MU TTUDDAG, MU-GAAHLAA TTUDDAAG, PHAARKAA, RELAA;
OL CHIKI DIGIT: EIGHT, FIVE, FOUR, NINE, ONE, SEVEN, SIX, THREE, TWO, ZERO;
OL CHIKI LETTER: AAJ, AAK, AAM, AAW, AG, AL, ANG, AT, EDD, EN, EP, ERR, IH, INY, IR, IS, LA, LAA,
LE, LI, LO, LU, OB, OH, OTT, OV, UC, UD, UNN, UY;
OL CHIKI PUNCTUATION: DOUBLE MUCAAD, MUCAAD;
OLD: KEY, PERSIAN WORD DIVIDER, PERSONAL COMPUTER;
OLD CHINESE: HOOK MARK, ITERATION MARK;
OLD HUNGARIAN CAPITAL LETTER: A, AA, AK, AMB, AND, CLOSE E, E, EB, EC, ECH, ECS, ED, EE, EF, EG,
EGY, EH, EJ, EK, EL, ELY, EM, EMP, EN, ENC, ENT, ENT-SHAPED SIGN, ENY, EP, ER, ES, ESZ, ET, ETY,
EV, EZ, EZS, I, II, NIKOLSBURG OE, NIKOLSBURG UE, O, OEE, OO, RUDIMENTA OE, RUDIMENTA UE, SHORT
ER, U, UNK, US, UU;
OLD HUNGARIAN NUMBER: FIFTY, FIVE, ONE, ONE HUNDRED, ONE THOUSAND, TEN;
OLD HUNGARIAN SMALL LETTER: A, AA, AK, AMB, AND, CLOSE E, E, EB, EC, ECH, ECS, ED, EE, EF, EG,
EGY, EH, EJ, EK, EL, ELY, EM, EMP, EN, ENC, ENT, ENT-SHAPED SIGN, ENY, EP, ER, ES, ESZ, ET, ETY,
EV, EZ, EZS, I, II, NIKOLSBURG OE, NIKOLSBURG UE, O, OEE, OO, RUDIMENTA OE, RUDIMENTA UE, SHORT
ER, U, UNK, US, UU;
OLD ITALIC LETTER: A, BE, CHE, DE, E, EF, EKS, EL, EM, EN, ER, ERS, ES, ESH, ESS, HE, I, II, KA,
KE, KHE, KU, NORTHERN TSE, O, PE, PHE, SHE, SOUTHERN TSE, TE, THE, U, UU, VE, YE, ZE;
OLD ITALIC NUMERAL: FIFTY, FIVE, ONE, TEN;
OLD NORTH ARABIAN LETTER: AIN, ALEF, BEH, DAD, DAL, ES-1, ES-2, ES-3, FEH, GEEM, GHAIN, HAH, HEH,
KAF, KHAH, LAM, MEEM, NOON, QAF, REH, SAD, TAH, TEH, THAL, THEH, WAW, YEH, ZAH, ZAIN;
OLD NORTH ARABIAN NUMBER: ONE, TEN, TWENTY;
OLD PERMIC LETTER: AN, BUR, CHERY, DOI, DZHOI, DZITA, E, EF, GAI, HA, I, IA, IE, KOKE, LEI, MENOE,
NENOE, O, OO, PEEI, REI, SHCHOOI, SHOOI, SII, TAI, TSIU, U, VER, VOOI, YA, YAT, YER, YERI, YERU,
YRY, YU, ZATA, ZHOI;
OLD PERSIAN NUMBER: HUNDRED, ONE, TEN, TWENTY, TWO;
OLD PERSIAN SIGN: A, AURAMAZDAA, AURAMAZDAA-2, AURAMAZDAAHA, BA, BAGA, BUUMISH, CA, DA, DAHYAAUSH,
DAHYAAUSH-2, DI, DU, FA, GA, GU, HA, I, JA, JI, KA, KU, LA, MA, MI, MU, NA, NU, PA, RA, RU, SA,
SHA, SSA, TA, THA, TU, U, VA, VI, XA, XSHAAYATHIYA, YA, ZA;
OLD SOGDIAN: FRACTION ONE HALF, LIGATURE AYIN-DALETH;
OLD SOGDIAN LETTER: ALEPH, ALTERNATE AYIN, AYIN, BETH, GIMEL, HE, HETH, KAPH, LAMEDH, MEM, NUN,
PE, RESH-AYIN-DALETH, SADHE, SAMEKH, SHIN, TAW, WAW, YODH, ZAYIN;
OLD SOGDIAN LETTER FINAL: ALEPH, BETH, HE, NUN, NUN WITH VERTICAL TAIL, SADHE, SADHE WITH VERTICAL
TAIL, TAW, TAW WITH VERTICAL TAIL;
OLD SOGDIAN NUMBER: FIVE, FOUR, ONE, ONE HUNDRED, TEN, THIRTY, THREE, TWENTY, TWO;
OLD SOUTH ARABIAN: NUMBER FIFTY, NUMBER ONE, NUMERIC INDICATOR;
OLD SOUTH ARABIAN LETTER: ALEF, AYN, BETH, DALETH, DHADHE, DHALETH, FE, GHAYN, GIMEL, HE, HETH,
KAPH, KHETH, LAMEDH, MEM, NUN, QOPH, RESH, SADHE, SAMEKH, SAT, SHIN, TAW, TETH, THAW, THETH, WAW,
YODH, ZAYN;
OLD TURKIC LETTER ORKHON: A, AB, AD, AEB, AED, AEG, AEK, AEL, AEN, AER, AES, AET, AEY, AG, AL, AN,
AQ, AR, AS, ASH, AT, AY, BASH, EC, ELT, EM, ENC, ENG, ENT, ENY, EP, ESH, EZ, I, IC, IQ, O, OE,
OEK, OP, OQ, OT;
OLD TURKIC LETTER YENISEI: A, AB, AD, AE, AEB, AEG, AEK, AEN, AENG, AET, AEY, AG, AL, ANG, AQ, AR,
ASH, AT, AY, E, EC, ENC, ENT, ENY, ESH, EZ, I, IQ, OE, OEK, OQ;
OLD UYGHUR COMBINING: DOT ABOVE, DOT BELOW, TWO DOTS ABOVE, TWO DOTS BELOW;
OLD UYGHUR LETTER: ALEPH, BETH, FINAL HETH, GIMEL-HETH, KAPH, LAMEDH, LESH, MEM, NUN, PE, RESH,
SADHE, SAMEKH, SHIN, TAW, WAW, YODH, ZAYIN;
OLD UYGHUR PUNCTUATION: BAR, FOUR DOTS, TWO BARS, TWO DOTS;
OLDER: ADULT, MAN, WOMAN;
ONCOMING: AUTOMOBILE, BUS, FIRE ENGINE, POLICE CAR, TAXI;
ONE DOT: LEADER, OVER TWO DOTS PUNCTUATION;
OPEN: BOOK, BOX, FILE FOLDER, FOLDER, HANDS SIGN, LOCK, SUBSET, SUPERSET;
OPEN CENTRE: ASTERISK, BLACK STAR, CROSS, TEARDROP-SPOKED ASTERISK;
OPEN MAILBOX WITH: LOWERED FLAG, RAISED FLAG;
OPEN-CIRCUIT-OUTPUT: H-TYPE SYMBOL, L-TYPE SYMBOL;
OPTICAL DISC: ., ICON;
ORANGE: BOOK, HEART;
ORIYA: AI LENGTH MARK, AU LENGTH MARK, ISSHAR;
ORIYA DIGIT: EIGHT, FIVE, FOUR, NINE, ONE, SEVEN, SIX, THREE, TWO, ZERO;
ORIYA FRACTION ONE: EIGHTH, HALF, QUARTER, SIXTEENTH;
ORIYA FRACTION THREE: QUARTERS, SIXTEENTHS;
ORIYA LETTER: A, AA, AI, AU, BA, BHA, CA, CHA, DA, DDA, DDHA, DHA, E, GA, GHA, HA, I, II, JA, JHA,
KA, KHA, LA, LLA, MA, NA, NGA, NNA, NYA, O, PA, PHA, RA, RHA, RRA, SA, SHA, SSA, TA, THA, TTA,
TTHA, U, UU, VA, WA, YA, YYA;
ORIYA LETTER VOCALIC: L, LL, R, RR;
ORIYA SIGN: ANUSVARA, AVAGRAHA, CANDRABINDU, NUKTA, OVERLINE, VIRAMA, VISARGA;
ORIYA VOWEL SIGN: AA, AI, AU, E, I, II, O, U, UU;
ORIYA VOWEL SIGN VOCALIC: L, LL, R, RR;
ORNATE: LEFT PARENTHESIS, RIGHT PARENTHESIS;
OSAGE CAPITAL LETTER: A, AH, AI, AIN, BRA, CHA, DHA, E, EHCHA, EHKA, EHPA, EHTA, EHTSA, EIN, GHA,
HA, HYA, I, KA, KHA, KYA, LA, MA, NA, O, OIN, PA, SA, SHA, TA, TSA, TSHA, U, WA, ZA, ZHA;
OSAGE SMALL LETTER: A, AH, AI, AIN, BRA, CHA, DHA, E, EHCHA, EHKA, EHPA, EHTA, EHTSA, EIN, GHA,
HA, HYA, I, KA, KHA, KYA, LA, MA, NA, O, OIN, PA, SA, SHA, TA, TSA, TSHA, U, WA, ZA, ZHA;
OSMANYA DIGIT: EIGHT, FIVE, FOUR, NINE, ONE, SEVEN, SIX, THREE, TWO, ZERO;
OSMANYA LETTER: A, AA, ALEF, BA, CAYN, DEEL, DHA, E, EE, FA, GA, HA, I, JA, KAAF, KHA, LAAN, MIIN,
NUUN, O, OO, QAAF, RA, SA, SHIIN, TA, U, WAW, XA, YA;
OTTOMAN SIYAQ: FRACTION ONE HALF, FRACTION ONE SIXTH, MARRATAN;
OTTOMAN SIYAQ ALTERNATE NUMBER: EIGHT, FIVE, FOUR, FOUR HUNDRED, NINE, SEVEN, SIX, SIX HUNDRED,
TEN, TEN THOUSAND, THREE, TWO, TWO THOUSAND;
OTTOMAN SIYAQ NUMBER: EIGHT, EIGHT HUNDRED, EIGHT THOUSAND, EIGHTY, EIGHTY THOUSAND, FIFTY, FIFTY
THOUSAND, FIVE, FIVE HUNDRED, FIVE THOUSAND, FORTY, FORTY THOUSAND, FOUR, FOUR HUNDRED, FOUR
THOUSAND, NINE, NINE HUNDRED, NINE THOUSAND, NINETY, NINETY THOUSAND, ONE, ONE HUNDRED, ONE
THOUSAND, SEVEN, SEVEN HUNDRED, SEVEN THOUSAND, SEVENTY, SEVENTY THOUSAND, SIX, SIX HUNDRED, SIX
THOUSAND, SIXTY, SIXTY THOUSAND, TEN, TEN THOUSAND, THIRTY, THIRTY THOUSAND, THREE, THREE HUNDRED,
THREE THOUSAND, TWENTY, TWENTY THOUSAND, TWO, TWO HUNDRED, TWO THOUSAND;
OUTLINED: BLACK STAR, GREEK CROSS, LATIN CROSS, WHITE STAR;
OVERLAPPING: BLACK SQUARES, WHITE AND BLACK SQUARES, WHITE SQUARES;
PAGE: ., FACING UP, WITH CIRCLED TEXT, WITH CURL;
PAHAWH HMONG CLAN SIGN: FAJ, HAM, HAWJ, KHAB, KOO, KWM, LAUJ, LIS, MUAS, PHAB, THOJ, TSAB, TSHEEJ,
TSWB, VAJ, VWJ, XYOOJ, YAJ, YEEG;
PAHAWH HMONG CONSONANT: AU, CAU, CHAU, HAU, HLAU, HNAU, LAU, MAU, NAU, NCHAU, NKAU, NLAU, NTHAU,
NTSAU, PLHAU, QHAU, RAU, VAU, XAU, YAU;
PAHAWH HMONG DIGIT: EIGHT, FIVE, FOUR, NINE, ONE, SEVEN, SIX, THREE, TWO, ZERO;
PAHAWH HMONG MARK CIM: HOM, KES, KHAV, SO, SUAM, TAUM, TUB;
PAHAWH HMONG NUMBER: HUNDRED MILLIONS, HUNDREDS, MILLIONS, TEN BILLIONS, TEN THOUSANDS, TENS,
TRILLIONS;
PAHAWH HMONG SIGN: AV, HLI, HNUB, IB YAM, LOS, MEEJ SUAB, MEEJ TSEEB, MUS, NQIG, NTUJ, TAU,
THIRD-STAGE HLI, TXHEEJ CEEV, XAUS, XIAB, XYEEM FAIB, XYEEM NTXIV, XYEEM RHO, XYEEM TOV, XYOO, ZWJ
THAJ;
PAHAWH HMONG SIGN CIM: CHEEM, CUAM TSHOOJ, HAIS LUS NTOG NTOG, NRES TOS, PUB DAWB, TSOV ROG, TXWV,
TXWV CHWV;
PAHAWH HMONG SIGN VOS: FEEM, LUB, NRUA, SEEV, THIAB, THOM, TSHAB CEEB;
PAHAWH HMONG VOWEL: KAAB, KAAV, KAB, KAIB, KAIV, KAUB, KAUV, KAV, KAWB, KAWV, KEB, KEEB, KEEV,
KEV, KIAB, KIAV, KIB, KIV, KOB, KOOB, KOOV, KOV, KUAB, KUAV, KUB, KUV, KWB, KWV;
PALM: BRANCH, DOWN HAND, TREE, UP HAND;
PALMYRENE: LEFT-POINTING FLEURON, RIGHT-POINTING FLEURON;
PALMYRENE LETTER: ALEPH, AYIN, BETH, DALETH, FINAL NUN, GIMEL, HE, HETH, KAPH, LAMEDH, MEM, NUN,
PE, QOPH, RESH, SADHE, SAMEKH, SHIN, TAW, TETH, WAW, YODH, ZAYIN;
PALMYRENE NUMBER: FIVE, FOUR, ONE, TEN, THREE, TWENTY, TWO;
PARALLEL: TO, WITH HORIZONTAL STROKE, WITH TILDE OPERATOR;
PARENTHESIZED DIGIT: EIGHT, FIVE, FOUR, NINE, ONE, SEVEN, SIX, THREE, TWO;
PARENTHESIZED HANGUL: CHIEUCH, CHIEUCH A, CIEUC, CIEUC A, CIEUC U, HIEUH, HIEUH A, IEUNG, IEUNG A,
KHIEUKH, KHIEUKH A, KIYEOK, KIYEOK A, MIEUM, MIEUM A, NIEUN, NIEUN A, PHIEUPH, PHIEUPH A, PIEUP,
PIEUP A, RIEUL, RIEUL A, SIOS, SIOS A, THIEUTH, THIEUTH A, TIKEUT, TIKEUT A;
PARENTHESIZED IDEOGRAPH: ALLIANCE, CALL, CONGRATULATION, EARTH, EIGHT, ENTERPRISE, FESTIVAL,
FINANCIAL, FIRE, FIVE, FOUR, HAVE, LABOR, METAL, MOON, NAME, NINE, ONE, REACH, REPRESENT,
RESOURCE, REST, SELF, SEVEN, SIX, SOCIETY, SPECIAL, STOCK, STUDY, SUN, SUPERVISE, TEN, THREE, TWO,
WATER, WOOD;
PARENTHESIZED KOREAN CHARACTER: O HU, OJEON;
PARENTHESIZED LATIN CAPITAL LETTER: A, B, C, D, E, F, G, H, I, J, K, L, M, N, O, P, Q, R, S, T, U,
V, W, X, Y, Z;
PARENTHESIZED LATIN SMALL LETTER: A, B, C, D, E, F, G, H, I, J, K, L, M, N, O, P, Q, R, S, T, U,
V, W, X, Y, Z;
PARENTHESIZED NUMBER: EIGHTEEN, ELEVEN, FIFTEEN, FOURTEEN, NINETEEN, SEVENTEEN, SIXTEEN, TEN,
THIRTEEN, TWELVE, TWENTY;
PARTIAL LINE: BACKWARD, DOWN, FORWARD, UP;
PAU CIN HAU GLOTTAL STOP: ., FINAL, VARIANT;
PAU CIN HAU LETTER: A, BA, CA, CHA, DA, E, FA, GA, HA, I, IA, KA, KHA, LA, MA, NA, NGA, O, PA,
PHA, RA, SA, TA, THA, U, UA, VA, ZA;
PAU CIN HAU LETTER FINAL: K, L, M, N, NG, P, T, W, Y;
PAU CIN HAU LOW-FALLING TONE: ., FINAL, LONG, LONG FINAL;
PAU CIN HAU MID-LEVEL TONE: ., FINAL, LONG FINAL;
PAU CIN HAU RISING TONE: ., FINAL, LONG, LONG FINAL;
PAU CIN HAU SANDHI GLOTTAL STOP: ., FINAL;
PAU CIN HAU SANDHI TONE: ., FINAL, LONG, LONG FINAL;
PER: MILLE SIGN, SIGN, TEN THOUSAND SIGN;
PERPENDICULAR: ., WITH S;
PERSON: BOWING DEEPLY, CLIMBING, DOING CARTWHEEL, FROWNING, IN LOTUS POSITION, IN STEAMY ROOM,
RAISING BOTH HANDS IN CELEBRATION;
PERSON WITH: BALL, BLOND HAIR, CROWN, FOLDED HANDS, HEADSCARF, POUTING FACE;
PHAGS-PA: DOUBLE HEAD MARK, MARK DOUBLE SHAD, MARK SHAD, SINGLE HEAD MARK, SUPERFIXED LETTER RA;
PHAGS-PA LETTER: A, ALTERNATE YA, ASPIRATED FA, BA, CA, CANDRABINDU, CHA, DA, DDA, DZA, E, EE, FA,
GA, GGA, HA, I, JA, KA, KHA, LA, MA, NA, NGA, NNA, NYA, O, PA, PHA, QA, RA, SA, SHA, SMALL A, TA,
THA, TSA, TSHA, TTA, TTHA, U, VOICED HA, VOICELESS SHA, WA, XA, YA, ZA, ZHA;
PHAGS-PA SUBJOINED LETTER: RA, WA, YA;
PHAISTOS DISC SIGN: ARROW, BEE, BEEHIVE, BOOMERANG, BOW, BULLS LEG, CAPTIVE, CARPENTRY PLANE, CAT,
CHILD, CLUB, COLUMN, COMB, COMBINING OBLIQUE STROKE, DOLIUM, DOVE, EAGLE, FLUTE, GAUNTLET, GRATER,
HELMET, HIDE, HORN, LID, LILY, MANACLES, MATTOCK, OX BACK, PAPYRUS, PEDESTRIAN, PLANE TREE, PLUMED
HEAD, RAM, ROSETTE, SAW, SHIELD, SHIP, SLING, SMALL AXE, STRAINER, TATTOOED HEAD, TIARA, TUNNY,
VINE, WAVY BAND, WOMAN;
PHILIPPINE: DOUBLE PUNCTUATION, SINGLE PUNCTUATION;
PHOENICIAN LETTER: AIN, ALF, BET, DELT, GAML, HE, HET, KAF, LAMD, MEM, NUN, PE, QOF, ROSH, SADE,
SEMK, SHIN, TAU, TET, WAU, YOD, ZAI;
PHOENICIAN NUMBER: ONE, ONE HUNDRED, TEN, THREE, TWENTY, TWO;
PIG: ., FACE, NOSE;
PITCHFORK: ., WITH TEE TOP;
PLACE OF: INTEREST SIGN, WORSHIP;
PLANCK CONSTANT: ., OVER TWO PI;
PLAYING CARD: BACK, BLACK JOKER, FOOL, RED JOKER, TRUMP-1, TRUMP-10, TRUMP-11, TRUMP-12, TRUMP-13,
TRUMP-14, TRUMP-15, TRUMP-16, TRUMP-17, TRUMP-18, TRUMP-19, TRUMP-2, TRUMP-20, TRUMP-21, TRUMP-3,
TRUMP-4, TRUMP-5, TRUMP-6, TRUMP-7, TRUMP-8, TRUMP-9, WHITE JOKER;
PLAYING CARD ACE OF: CLUBS, DIAMONDS, HEARTS, SPADES;
PLAYING CARD EIGHT OF: CLUBS, DIAMONDS, HEARTS, SPADES;
PLAYING CARD FIVE OF: CLUBS, DIAMONDS, HEARTS, SPADES;
PLAYING CARD FOUR OF: CLUBS, DIAMONDS, HEARTS, SPADES;
PLAYING CARD JACK OF: CLUBS, DIAMONDS, HEARTS, SPADES;
PLAYING CARD KING OF: CLUBS, DIAMONDS, HEARTS, SPADES;
PLAYING CARD KNIGHT OF: CLUBS, DIAMONDS, HEARTS, SPADES;
PLAYING CARD NINE OF: CLUBS, DIAMONDS, HEARTS, SPADES;
PLAYING CARD QUEEN OF: CLUBS, DIAMONDS, HEARTS, SPADES;
PLAYING CARD SEVEN OF: CLUBS, DIAMONDS, HEARTS, SPADES;
PLAYING CARD SIX OF: CLUBS, DIAMONDS, HEARTS, SPADES;
PLAYING CARD TEN OF: CLUBS, DIAMONDS, HEARTS, SPADES;
PLAYING CARD THREE OF: CLUBS, DIAMONDS, HEARTS, SPADES;
PLAYING CARD TWO OF: CLUBS, DIAMONDS, HEARTS, SPADES;
PLUS SIGN: ., ABOVE EQUALS SIGN, IN LEFT HALF CIRCLE, IN RIGHT HALF CIRCLE, IN TRIANGLE;
PLUS SIGN WITH: BLACK TRIANGLE, CIRCUMFLEX ACCENT ABOVE, DOT BELOW, SMALL CIRCLE ABOVE, SUBSCRIPT
TWO, TILDE ABOVE, TILDE BELOW;
PLUTO FORM: FIVE, FOUR, THREE, TWO;
POLICE: CAR, CARS REVOLVING LIGHT, OFFICER;
POP DIRECTIONAL: FORMATTING, ISOLATE;
POSTAL: HORN, MARK, MARK FACE;
POUTING: CAT FACE, FACE;
POWER: ON SYMBOL, ON-OFF SYMBOL, SLEEP SYMBOL, SYMBOL;
PRECEDES: ., BUT NOT EQUIVALENT TO, OR EQUAL TO, OR EQUIVALENT TO, UNDER RELATION;
PRECEDES ABOVE: ALMOST EQUAL TO, EQUALS SIGN, NOT ALMOST EQUAL TO, NOT EQUAL TO, SINGLE-LINE
EQUALS SIGN, SINGLE-LINE NOT EQUAL TO;
PREGNANT: MAN, PERSON, WOMAN;
PRESENTATION FORM FOR VERTICAL: COLON, COMMA, EM DASH, EN DASH, EXCLAMATION MARK, HORIZONTAL
ELLIPSIS, IDEOGRAPHIC COMMA, IDEOGRAPHIC FULL STOP, LOW LINE, QUESTION MARK, SEMICOLON, TWO DOT
LEADER, WAVY LOW LINE;
PRESENTATION FORM FOR VERTICAL LEFT: ANGLE BRACKET, BLACK LENTICULAR BRACKET, CORNER BRACKET,
CURLY BRACKET, DOUBLE ANGLE BRACKET, PARENTHESIS, SQUARE BRACKET, TORTOISE SHELL BRACKET, WHITE
CORNER BRACKET, WHITE LENTICULAR BRACKET;
PRESENTATION FORM FOR VERTICAL RIGHT: ANGLE BRACKET, BLACK LENTICULAR BRACKET, CORNER BRACKET,
CURLY BRACKET, DOUBLE ANGLE BRACKET, PARENTHESIS, SQUARE BRACKET, TORTOISE SHELL BRACKET, WHITE
CORNER BRACKET, WHITE LENTICULAR BRACKET, WHITE LENTICULAR BRAKCET;
PRINTER: ., ICON;
PRIVATE: USE ONE, USE TWO, USE-1, USE-2;
PSALTER PAHLAVI: FOUR DOTS WITH CROSS, FOUR DOTS WITH DOT, SECTION MARK, TURNED SECTION MARK;
PSALTER PAHLAVI LETTER: ALEPH, BETH, DALETH, GIMEL, HE, HETH, KAPH, LAMEDH, MEM-QOPH, NUN, PE,
SADHE, SAMEKH, SHIN, TAW, WAW-AYIN-RESH, YODH, ZAYIN;
PSALTER PAHLAVI NUMBER: FOUR, ONE, ONE HUNDRED, TEN, THREE, TWENTY, TWO;
QUADRANT LOWER: LEFT, RIGHT;
QUADRANT UPPER LEFT: ., AND LOWER LEFT AND LOWER RIGHT, AND LOWER RIGHT;
QUADRANT UPPER LEFT AND UPPER RIGHT AND LOWER: LEFT, RIGHT;
QUADRANT UPPER RIGHT: ., AND LOWER LEFT, AND LOWER LEFT AND LOWER RIGHT;
QUADRUPLE: INTEGRAL OPERATOR, PRIME;
QUESTION: EXCLAMATION MARK, MARK;
RABBIT: ., FACE;
RACING: CAR, MOTORCYCLE;
RADIO: ., BUTTON;
RAILWAY: CAR, TRACK;
RAISED: BACK OF HAND, COMMA, DOT, DOTTED INTERPOLATION MARKER, FIST, HAND, INTERPOLATION MARKER,
MC SIGN, MD SIGN, MR SIGN, SQUARE;
RAISED HAND WITH: FINGERS SPLAYED, PART BETWEEN MIDDLE AND RING FINGERS;
RECYCLING SYMBOL FOR: GENERIC MATERIALS, TYPE-1 PLASTICS, TYPE-2 PLASTICS, TYPE-3 PLASTICS, TYPE-4
PLASTICS, TYPE-5 PLASTICS, TYPE-6 PLASTICS, TYPE-7 PLASTICS;
RED: APPLE, GIFT ENVELOPE;
REGIONAL INDICATOR SYMBOL LETTER: A, B, C, D, E, F, G, H, I, J, K, L, M, N, O, P, Q, R, S, T, U,
V, W, X, Y, Z;
REJANG: SECTION MARK, VIRAMA;
REJANG CONSONANT SIGN: H, N, NG, R;
REJANG LETTER: A, BA, CA, DA, GA, HA, JA, KA, LA, MA, MBA, NA, NDA, NGA, NGGA, NYA, NYJA, PA, RA,
SA, TA, WA, YA;
REJANG VOWEL SIGN: AI, AU, E, EA, EU, I, O, U;
RESTRICTED LEFT: ENTRY-1, ENTRY-2;
RETURN: LEFT, RIGHT, SYMBOL;
REVERSE: CHECKER BOARD, INDEX, LIGHT FOUR POINTED PINWHEEL STAR, LINE FEED;
REVERSE SOLIDUS: ., OPERATOR, PRECEDING SUBSET, WITH HORIZONTAL STROKE;
REVERSE TILDE OPERATOR ABOVE: LEFTWARDS ARROW, RIGHTWARDS ARROW;
REVERSED: ANGLE, ANGLE WITH UNDERBAR, COMMA, EMPTY SET, FORKED PARAGRAPHOS, HAND WITH MIDDLE
FINGER EXTENDED, NOT SIGN, PILCROW SIGN, PRIME, QUESTION MARK, RAISED HAND WITH FINGERS SPLAYED,
RIGHT ANGLE, ROTATED FLORAL HEART BULLET, SANS-SERIF CAPITAL L, SEMICOLON, THUMBS DOWN SIGN,
THUMBS UP SIGN, TILDE, TILDE EQUALS, TRIPLE PRIME, VICTORY HAND;
REVERSED DOUBLE: PRIME, PRIME QUOTATION MARK, STROKE NOT SIGN;
RIBBON ARROW: DOWN LEFT, DOWN RIGHT, LEFT DOWN, LEFT UP, RIGHT DOWN, RIGHT UP, UP LEFT, UP RIGHT;
RICE: BALL, CRACKER;
RIGHT: AND LOWER ONE EIGHTH BLOCK, AND UPPER ONE EIGHTH BLOCK, ANGER BUBBLE, ARC GREATER-THAN
BRACKET, BLACK LENTICULAR BRACKET, BLACK TORTOISE SHELL BRACKET, CEILING, CORNER BRACKET, DOTTED
SUBSTITUTION BRACKET, FISH TAIL, FIVE EIGHTHS BLOCK, FLOOR, HAND TELEPHONE RECEIVER, LOW
PARAPHRASE BRACKET, NORMAL FACTOR SEMIDIRECT PRODUCT, ONE EIGHTH BLOCK, ONE QUARTER BLOCK, OPEN
SQUARED DOT, OUTER JOIN, RAISED OMISSION BRACKET, S-SHAPED BAG DELIMITER, SEMIDIRECT PRODUCT,
SEVEN EIGHTHS BLOCK, SIDEWAYS U BRACKET, SINGLE QUOTATION MARK, SPEECH BUBBLE, SUBSTITUTION
BRACKET, TACK, THIRD WHITE RIGHT POINTING INDEX, THOUGHT BUBBLE, THREE EIGHTHS BLOCK, THREE
QUARTERS BLOCK, TORTOISE SHELL BRACKET, TRANSPOSITION BRACKET, TRIANGLE, TRIANGLE ABOVE LEFT
TRIANGLE, TRIANGULAR ONE QUARTER BLOCK, WIGGLY FENCE;
RIGHT ANGLE: ., BRACKET, BRACKET WITH DOT, DOTTED SUBSTITUTION MARKER, SUBSTITUTION MARKER,
VARIANT WITH SQUARE, WITH ARC, WITH DOWNWARDS ZIGZAG ARROW;
RIGHT ARROW WITH: CIRCLED PLUS, SMALL CIRCLE;
RIGHT CURLY BRACKET: ., LOWER HOOK, MIDDLE PIECE, UPPER HOOK;
RIGHT DOUBLE: ANGLE BRACKET, ARROW WITH ROUNDED HEAD, PARENTHESIS, QUOTATION MARK, WIGGLY FENCE;
RIGHT HALF: BLACK CIRCLE, BLACK STAR, BLOCK, FOLDER, MEDIUM SHADE, RUNNING MAN;
RIGHT PARENTHESIS: ., EXTENSION, LOWER HOOK, UPPER HOOK;
RIGHT SPEAKER: ., WITH ONE SOUND WAVE, WITH THREE SOUND WAVES;
RIGHT SQUARE BRACKET: ., EXTENSION, LOWER CORNER, UPPER CORNER;
RIGHT SQUARE BRACKET WITH: DOUBLE STROKE, QUILL, STROKE, TICK IN BOTTOM CORNER, TICK IN TOP
CORNER, UNDERBAR;
RIGHT VERTICAL: BAR WITH QUILL, BOX LINE;
RIGHT WHITE: CORNER BRACKET, CURLY BRACKET, LENTICULAR BRACKET, PARENTHESIS, SQUARE BRACKET,
TORTOISE SHELL BRACKET;
RIGHT-FACING: ARMENIAN ETERNITY SIGN, FIST, SVASTI SIGN, SVASTI SIGN WITH DOTS;
RIGHT-POINTING: ANGLE BRACKET, CURVED ANGLE BRACKET, DOUBLE ANGLE QUOTATION MARK, MAGNIFYING GLASS;
RIGHT-TO-LEFT: EMBEDDING, ISOLATE, MARK, OVERRIDE;
RIGHTWARDS: ARROW-TAIL, BACK-TILTED SHADOWED WHITE ARROW, BLACK ARROW, BLACK CIRCLED WHITE ARROW,
BOTTOM SHADED WHITE ARROW, COMPRESSED ARROW, DASHED ARROW, DOUBLE ARROW-TAIL, DOUBLE DASH ARROW,
FINGER-POST ARROW, FRONT-TILTED SHADOWED WHITE ARROW, HAND, HARPOON OVER LEFTWARDS HARPOON, HEAVY
ARROW, HEAVY COMPRESSED ARROW, LEFT-SHADED WHITE ARROW, OPEN-HEADED ARROW, PAIRED ARROWS,
QUADRUPLE ARROW, RIGHT-SHADED WHITE ARROW, ROCKET, SANS-SERIF ARROW, SQUARED ARROW, SQUIGGLE
ARROW, TOP SHADED WHITE ARROW, TRIANGLE ARROWHEAD, TRIPLE ARROW, TRIPLE DASH ARROW, TWO HEADED
ARROW, TWO-HEADED ARROW FROM BAR, TWO-HEADED TRIPLE DASH ARROW, WAVE ARROW;
RIGHTWARDS ARROW: ., AND UPPER AND LOWER ONE EIGHTH BLOCK, FROM BAR, FROM BAR TO BLACK DIAMOND,
OVER LEFTWARDS ARROW, THROUGH GREATER-THAN, THROUGH SUPERSET, THROUGH X, TO BAR, TO BLACK DIAMOND;
RIGHTWARDS ARROW ABOVE: ALMOST EQUAL TO, REVERSE ALMOST EQUAL TO, REVERSE TILDE OPERATOR, SHORT
LEFTWARDS ARROW, TILDE OPERATOR;
RIGHTWARDS ARROW WITH: CORNER DOWNWARDS, DOTTED STEM, DOUBLE VERTICAL STROKE, EQUILATERAL
ARROWHEAD, HOOK, LARGE TRIANGLE ARROWHEAD, LOOP, MEDIUM TRIANGLE ARROWHEAD, NOTCHED TAIL, PLUS
BELOW, SMALL EQUILATERAL ARROWHEAD, SMALL TRIANGLE ARROWHEAD, STROKE, TAIL, TAIL WITH DOUBLE
VERTICAL STROKE, TAIL WITH VERTICAL STROKE, TIP DOWNWARDS, TIP UPWARDS, VERTICAL STROKE;
RIGHTWARDS DOUBLE ARROW: ., FROM BAR, WITH STROKE, WITH VERTICAL STROKE;
RIGHTWARDS HARPOON WITH BARB: DOWN ABOVE LEFTWARDS HARPOON WITH BARB DOWN, DOWN BELOW LONG DASH,
DOWN FROM BAR, DOWN TO BAR, DOWNWARDS, UP ABOVE LEFTWARDS HARPOON WITH BARB UP, UP ABOVE LONG
DASH, UP ABOVE RIGHTWARDS HARPOON WITH BARB DOWN, UP FROM BAR, UP TO BAR, UPWARDS;
RIGHTWARDS TRIANGLE-HEADED: ARROW, ARROW OVER LEFTWARDS TRIANGLE-HEADED ARROW, ARROW TO BAR,
DASHED ARROW, PAIRED ARROWS;
RIGHTWARDS TRIANGLE-HEADED ARROW WITH: BOLD SHAFT, DOUBLE HORIZONTAL STROKE, DOUBLE VERTICAL
STROKE, HEAVY SHAFT, LONG TIP DOWNWARDS, LONG TIP UPWARDS, MEDIUM SHAFT, NARROW SHAFT, VERY HEAVY
SHAFT;
RIGHTWARDS TWO-HEADED ARROW WITH: DOUBLE VERTICAL STROKE, TAIL, TAIL WITH DOUBLE VERTICAL STROKE,
TAIL WITH VERTICAL STROKE, TRIANGLE ARROWHEADS, VERTICAL STROKE;
RIGHTWARDS WHITE ARROW: ., FROM WALL, WITHIN TRIANGLE ARROWHEAD;
RING: ., ABOVE, BUOY, EQUAL TO, IN EQUAL TO, OPERATOR, POINT;
RISING DIAGONAL CROSSING: FALLING DIAGONAL, SOUTH EAST ARROW;
ROLLER: COASTER, SKATE;
ROMAN: AS SIGN, CENTURIAL SIGN, DENARIUS SIGN, DIMIDIA SEXTULA SIGN, DUPONDIUS SIGN, QUINARIUS
SIGN, SEMUNCIA SIGN, SESTERTIUS SIGN, SEXTANS SIGN, SEXTULA SIGN, SILIQUA SIGN, UNCIA SIGN;
ROMAN NUMERAL: EIGHT, ELEVEN, FIFTY, FIFTY EARLY FORM, FIFTY THOUSAND, FIVE, FIVE HUNDRED, FIVE
THOUSAND, FOUR, NINE, ONE, ONE HUNDRED, ONE HUNDRED THOUSAND, ONE THOUSAND, ONE THOUSAND C D,
REVERSED ONE HUNDRED, SEVEN, SIX, SIX LATE FORM, TEN, TEN THOUSAND, THREE, TWELVE, TWO;
ROTATED: CAPITAL Q, FLORAL HEART BULLET, HEAVY BLACK HEART BULLET, LIGHT FOUR POINTED BLACK CUSP,
WHITE FOUR POINTED CUSP;
ROUND: PUSHPIN, TARGET;
ROUNDED SYMBOL FOR: CAI, FU, LU, SHOU, SHUANGXI, XI;
RUMI DIGIT: EIGHT, FIVE, FOUR, NINE, ONE, SEVEN, SIX, THREE, TWO;
RUMI FRACTION: ONE HALF, ONE QUARTER, ONE THIRD, TWO THIRDS;
RUMI NUMBER: EIGHT HUNDRED, EIGHTY, FIFTY, FIVE HUNDRED, FORTY, FOUR HUNDRED, NINE HUNDRED,
NINETY, ONE HUNDRED, SEVEN HUNDRED, SEVENTY, SIX HUNDRED, SIXTY, TEN, THIRTY, THREE HUNDRED,
TWENTY, TWO HUNDRED;
RUNIC: ARLAUG SYMBOL, BELGTHOR SYMBOL, CROSS PUNCTUATION, MULTIPLE PUNCTUATION, SINGLE
PUNCTUATION, TVIMADUR SYMBOL;
RUNIC LETTER: AC A, AESC, ALGIZ EOLHX, ANSUZ A, BERKANAN BEORC BJARKAN B, C, CALC, CEALC, CEN,
CWEORTH, D, DAGAZ DAEG D, DOTTED-L, DOTTED-N, DOTTED-P, E, EAR, EHWAZ EH E, ENG, ETH, FEHU FEOH FE
F, G, GAR, GEBO GYFU G, GER, HAEGL H, HAGLAZ H, ICELANDIC-YR, ING, INGWAZ, IOR, ISAZ IS ISS I,
IWAZ EOH, JERAN J, K, KAUN K, KAUNA, LAUKAZ LAGU LOGR L, LONG-BRANCH-AR AE, LONG-BRANCH-HAGALL H,
LONG-BRANCH-MADR M, LONG-BRANCH-OSS O, LONG-BRANCH-YR, MANNAZ MAN M, NAUDIZ NYD NAUD N, O, OE, ON,
OO, OPEN-P, OS O, OTHALAN ETHEL O, PERTHO PEORTH P, Q, RAIDO RAD REID R, SH, SHORT-TWIG-AR A,
SHORT-TWIG-BJARKAN B, SHORT-TWIG-HAGALL H, SHORT-TWIG-MADR M, SHORT-TWIG-NAUD N, SHORT-TWIG-OSS O,
SHORT-TWIG-SOL S, SHORT-TWIG-TYR T, SHORT-TWIG-YR, SIGEL LONG-BRANCH-SOL S, SOWILO S, STAN,
THURISAZ THURS THORN, TIWAZ TIR TYR T, URUZ UR U, V, W, WUNJO WYNN W, X, Y, YR, Z;
RUNIC LETTER FRANKS CASKET: AC, AESC, EH, IS, OS;
RUSSIAN ASTROLOGICAL SYMBOL: BINOVILE, NOVILE, QUINTILE, SENTAGON, TREDECILE, VIGINTILE"

end OperationClasses.Text.CharacterNames
