/-!
# Names of characters: C

The names of characters that begin with C. A row gives the words that names have in common, and then
what follows them in each; a point stands for nothing.
-/
namespace OperationClasses.Text.CharacterNames

/-- The rows of names that begin with C. -/
def rowsC : String := "
: CACTUS, CADA UNA, CADUCEUS, CALENDAR, CALL ME HAND, CAMPING, CAN, CANCELLATION X, CANCER,
CANDLE, CANDY, CANNED FOOD, CANOE, CAPITULUM, CAPRICORN, CAR SLIDING, CARD FILE BOX, CARE OF,
CARON, CAROUSEL HORSE, CARP STREAMER, CARPENTRY SAW, CARRIAGE RETURN, CARROT, CASTLE, CAT,
CAUCASIAN ALBANIAN CITATION MARK, CAUTION SIGN, CCH, CEDI SIGN, CEDILLA, CELTIC CROSS, CENT SIGN,
CENTRE LINE SYMBOL, CERES, CGJ, CHAINS, CHAIR, CHARACTER TIE, CHART WITH DOWNWARDS TREND, CHECK
MARK, CHEERING MEGAPHONE, CHEESE WEDGE, CHEQUERED FLAG, CHERRIES, CHERRY BLOSSOM, CHESTNUT, CHI
RHO, CHICKEN, CHILD, CHILDREN CROSSING, CHIPMUNK, CHIRON, CHOCOLATE BAR, CHOPSTICKS, CHRISTMAS
TREE, CHURCH, CINEMA, CIRCLE DIVIDED BY HORIZONTAL BAR AND TOP HALF DIVIDED BY VERTICAL BAR,
CIRCULATION FUNCTION, CIRCUMFLEX ACCENT, CIRCUS TENT, CLAMSHELL MOBILE PHONE, CLAPPER BOARD,
CLAPPING HANDS SIGN, CLASSICAL BUILDING, CLEAR SCREEN SYMBOL, CLIPBOARD, CLOSE UP, CLOUD, CLOWN
FACE, COAT, COCKROACH, COCKTAIL GLASS, COCONUT, COFFIN, COIN, COLLISION SYMBOL, COMET, COMMA,
COMPASS, COMPLEMENT, COMPOSITION SYMBOL, COMPRESSION, CONFETTI BALL, CONFOUNDED FACE, CONFUSED
FACE, CONGRUENT WITH DOT ABOVE, CONICAL TAPER, CONJUNCTION, CONTAINS AS MEMBER, CONTINUOUS
UNDERLINE SYMBOL, CONTOUR INTEGRAL, CONVENIENCE STORE, COOKED RICE, COOKIE, COOKING, COPYLEFT
SYMBOL, COPYRIGHT SIGN, CORAL, CORNISH VERSE DIVIDER, CORRESPONDS TO, COUCH AND LAMP, COUNTERBORE,
COUNTERSINK, COUPLE WITH HEART, CR, CRAB, CREDIT CARD, CRESCENT MOON, CROCODILE, CROISSANT,
CROSSING LANES, CROWN, CRUTCH, CRUZEIRO SIGN, CRYSTAL BALL, CSI, CUBE ROOT, CUCUMBER, CUPCAKE,
CUPIDO, CURLING STONE, CURRY AND RICE, CURVED STEM PARAGRAPH SIGN ORNAMENT, CUSTARD, CUSTOMS, CUT
OF MEAT, CYCLONE, CYLINDRICITY;
CAMERA: ., WITH FLASH;
CANADIAN SYLLABICS: A, AA, AAI, AAY, AI, AIVILIK B, AN, ATHAPASCAN M, ATHAPASCAN S, AY, BEAVER
DENE L, BEAVER DENE R, BIBLE-CREE Y, C, CA, CAA, CAAI, CE, CHI SIGN, CI, CII, CO, COO, CWA, CWAA,
CWE, CWI, CWII, CWO, CWOO, E, EASTERN W, EN, F, FA, FAA, FAAI, FE, FI, FII, FO, FOO, FULL STOP,
FWAA, GLOTTAL STOP, HK, HYPHEN, I, II, IN, K, KA, KAA, KAAI, KAY, KE, KI, KII, KO, KOO, KW, KWA,
KWAA, KWAY, KWE, KWI, KWII, KWO, KWOO, L, LA, LAA, LAAI, LAY, LE, LH, LHA, LHAA, LHI, LHII, LHO,
LHOO, LI, LII, LO, LOO, LWA, LWAA, LWE, LWI, LWII, LWO, LWOO, M, MA, MAA, MAAI, MAY, ME, MEDIAL L,
MEDIAL R, MH, MI, MII, MO, MOO, MOOSE-CREE SK, MWA, MWAA, MWE, MWI, MWII, MWO, MWOO, N, N-CREE
THE, N-CREE THI, N-CREE THII, NA, NAA, NAAI, NAY, NE, NG, NGA, NGAA, NGAAI, NGAI, NGI, NGII, NGO,
NGOO, NH, NI, NII, NNG, NNGA, NNGAA, NNGI, NNGII, NNGO, NNGOO, NO, NOO, NOY, NUNAVUT H, NWA, NWAA,
NWE, NWI, NWII, NWO, NWOO, O, ON, OO, OY, P, PA, PAA, PAAI, PAY, PE, PI, PII, PO, POO, POY, PWA,
PWAA, PWE, PWI, PWII, PWO, PWOO, PWOY, Q, QA, QAA, QAAI, QAI, QI, QII, QO, QOO, R, R-CREE RE,
R-CREE RWE, RA, RAA, RAAI, RAY, RE, RI, RII, RO, ROO, RWA, RWAA, RWEE, RWI, RWII, RWO, RWOO, S,
SA, SAA, SAAI, SAY, SE, SH, SHA, SHAA, SHAY, SHE, SHI, SHII, SHO, SHOO, SHOY, SHWA, SHWAA, SHWE,
SHWI, SHWII, SHWO, SHWOO, SHWOY, SI, SII, SO, SOO, SOY, SPA, SPE, SPI, SPO, SW, SWA, SWAA, SWE,
SWI, SWII, SWO, SWOO, T, TA, TAA, TAAI, TAY, TE, TH, THA, THAA, THE, THI, THII, THO, THOO, THWA,
THWAA, THWE, TI, TII, TLHA, TLHE, TLHI, TLHO, TLHOO, TLHWE, TO, TOO, TTA, TTE, TTH, TTHA, TTHAA,
TTHE, TTHI, TTHO, TTHOO, TTHWE, TTI, TTO, TWA, TWAA, TWE, TWI, TWII, TWO, TWOO, TYA, TYE, TYI,
TYO, WA, WAA, WAY, WE, WESTERN W, WI, WII, WO, WOO, Y, YA, YAA, YAAI, YAY, YE, YI, YII, YO, YOO,
YOY, YWA, YWAA, YWE, YWI, YWII, YWO, YWOO;
CANADIAN SYLLABICS BLACKFOOT: A, E, I, KA, KE, KI, KO, NA, NE, NI, NO, O, S, W, WA, WE, WI, WO;
CANADIAN SYLLABICS CARRIER: CHA, CHE, CHEE, CHI, CHO, CHU, DEE, DENE GEE, DENTAL S, DI, DLA, DLE,
DLEE, DLI, DLO, DLU, DZA, DZE, DZEE, DZI, DZO, DZU, EE, GA, GAA, GE, GEE, GHA, GHE, GHEE, GHI,
GHO, GHU, GI, GO, GU, GWA, GWU, H, HEE, HI, HWA, HWE, HWEE, HWI, HWO, HWU, I, INITIAL Z, JA, JE,
JEE, JI, JJA, JJE, JJEE, JJI, JJO, JJU, JO, JU, JWA, KHA, KHE, KHEE, KHI, KHO, KHU, KK, KKA, KKE,
KKEE, KKI, KKO, KKU, LA, LE, LEE, LHA, LHE, LHEE, LHI, LHO, LHU, LI, LO, LU, MA, ME, MEE, MI, MO,
MU, NA, NE, NEE, NG, NI, NO, NU, P, PA, PE, PEE, PI, PO, PU, RA, RE, REE, RI, RO, RU, SA, SE, SEE,
SH, SHA, SHE, SHEE, SHI, SHO, SHU, SI, SO, SU, THA, THE, THEE, THI, THO, THU, TLA, TLE, TLEE,
TLHA, TLHE, TLHEE, TLHI, TLHO, TLHU, TLI, TLO, TLU, TSA, TSE, TSEE, TSI, TSO, TSU, TTA, TTE, TTEE,
TTI, TTO, TTSA, TTSE, TTSEE, TTSI, TTSO, TTSU, TTU, WA, WE, WEE, WI, WO, WU, YA, YE, YEE, YI, YO,
YU, Z, ZA, ZE, ZEE, ZI, ZO, ZU;
CANADIAN SYLLABICS FINAL: ACUTE, BOTTOM HALF RING, DOUBLE ACUTE, DOUBLE SHORT VERTICAL STROKES,
DOWN TACK, GRAVE, MIDDLE DOT, PLUS, RAISED DOT, RIGHT HALF RING, RING, SHORT HORIZONTAL STROKE,
SMALL RING, TOP HALF RING;
CANADIAN SYLLABICS NASKAPI: CWAA, KWAA, MWAA, NWAA, S-W, SCWA, SKW, SKWA, SPWA, STWA, SWAA, TWAA,
WAA, WOO, YWAA;
CANADIAN SYLLABICS NATTILIK: HA, HAA, HI, HII, HO, HOO, SHRA, SHRAA, SHRI, SHRII, SHRO, SHROO;
CANADIAN SYLLABICS NUNAVIK: H, HA, HAA, HE, HI, HII, HO, HOO;
CANADIAN SYLLABICS OJIBWAY: C, K, M, N, NWI, NWII, NWO, NWOO, P, S, SH, T;
CANADIAN SYLLABICS SAYISI: HA, HE, HI, HO, HOO, JI, JU, JUU, M, SHA, SHE, SHI, SHO, SHOO, SHWE,
TH, YI;
CANADIAN SYLLABICS SOUTH-SLAVEY: KAH, KEH, KIH, KOH;
CANADIAN SYLLABICS TH-CREE: TH, THA, THAA, THE, THI, THII, THO, THOO;
CANADIAN SYLLABICS WEST-CREE: CWA, CWAA, CWE, CWI, CWII, CWO, CWOO, FWAA, KWA, KWAA, KWE, KWI,
KWII, KWO, KWOO, L, LA, LAA, LE, LO, LOO, LWA, LWAA, LWE, LWI, LWII, LWO, LWOO, M, MWA, MWAA, MWE,
MWI, MWII, MWO, MWOO, NWA, NWAA, NWE, P, PWA, PWAA, PWE, PWI, PWII, PWO, PWOO, R, RA, RE, RI, RO,
RWAA, SHWA, SHWAA, SHWE, SHWI, SHWII, SHWO, SHWOO, SWA, SWAA, SWE, SWI, SWII, SWO, SWOO, THWAA,
TWA, TWAA, TWE, TWI, TWII, TWO, TWOO, WA, WAA, WE, WI, WII, WO, WOO, Y, YWA, YWAA, YWE, YWI, YWII,
YWO, YWOO;
CANADIAN SYLLABICS WOODS-CREE: FINAL TH, TH, THA, THE, THI, THO, THWA, THWAA, THWEE, THWI, THWII,
THWO, THWOO;
CANADIAN SYLLABICS Y-CREE: COO, KOO, LOO, MOO, NOO, OO, POO, PWAA, SOO, TOO, W, YOO;
CANCEL: ., CHARACTER, TAG;
CARD INDEX: ., DIVIDERS;
CARET: ., INSERTION POINT;
CARIAN LETTER: A, A2, B, C-18, C-39, D, D2, E, E2, G, G2, I, II, K, K2, L, LD, LD2, M, MB, MB2,
MB3, MB4, N, ND, NG, NN, O, P, P2, Q, R, RR, S, SH, SH2, SS, ST, ST2, T, TT, TT2, U, UU, UUU,
UUU2, UUU3, UUUU, X;
CAT FACE: ., WITH TEARS OF JOY, WITH WRY SMILE;
CAUCASIAN ALBANIAN LETTER: ALT, AOR, BET, CAR, CAYN, CHA, CHAT, CHI, CHOY, CYAW, CYAY, DAT, DYAN,
DZAY, DZYAY, EB, EYN, FAM, GHEYS, GIM, HEYT, INYA, IRB, IWN, JAYN, JHOX, KAR, KIW, LAN, LYIT, MAQ,
NOWC, ON, PEN, PIWR, QAR, QAY, RAT, SEYK, SHA, SHAK, SHOY, TAS, TIWR, TYAY, VEYZ, XEYN, YAYD,
YOWD, ZARL, ZHA, ZHIL;
CENTRELINE: LOW LINE, OVERLINE;
CHAKMA: AU MARK, DANDA, DOUBLE DANDA, MAAYYAA, O MARK, QUESTION MARK, SECTION MARK, VIRAMA;
CHAKMA DIGIT: EIGHT, FIVE, FOUR, NINE, ONE, SEVEN, SIX, THREE, TWO, ZERO;
CHAKMA LETTER: AA, BAA, BHAA, CAA, CHAA, DAA, DDAA, DDHAA, DHAA, E, GAA, GHAA, HAA, I, JAA, JHAA,
KAA, KHAA, LAA, LHAA, MAA, NAA, NGAA, NNAA, NYAA, PAA, PHAA, RAA, SAA, TAA, THAA, TTAA, TTHAA, U,
VAA, WAA, YAA, YYAA;
CHAKMA SIGN: ANUSVARA, CANDRABINDU, VISARGA;
CHAKMA VOWEL SIGN: A, AA, AI, AU, E, EI, I, II, O, OI, U, UU;
CHAM CONSONANT SIGN: FINAL H, FINAL M, FINAL NG, LA, RA, WA, YA;
CHAM DIGIT: EIGHT, FIVE, FOUR, NINE, ONE, SEVEN, SIX, THREE, TWO, ZERO;
CHAM LETTER: A, AI, BA, BBA, BHA, CHA, CHHA, DA, DDA, DHA, E, GA, GHA, HA, I, JA, JHA, KA, KHA,
LA, MA, MUE, NA, NGA, NGUE, NHA, NHJA, NHUE, NUE, O, PA, PHA, PPA, RA, SA, SSA, TA, THA, U, VA, YA;
CHAM LETTER FINAL: CH, G, K, L, N, NG, P, R, SS, T, Y;
CHAM PUNCTUATION: DANDA, DOUBLE DANDA, SPIRAL, TRIPLE DANDA;
CHAM VOWEL SIGN: AA, AI, AU, EI, I, II, O, OE, U, UE;
CHARACTER TABULATION: ., SET, WITH JUSTIFICATION;
CHART WITH UPWARDS TREND: ., AND YEN SIGN;
CHECKER BOARD: ., FILL;
CHEROKEE LETTER: A, DA, DE, DI, DLA, DO, DU, DV, E, GA, GE, GI, GO, GU, GV, HA, HE, HI, HNA, HO,
HU, HV, I, KA, LA, LE, LI, LO, LU, LV, MA, ME, MI, MO, MU, MV, NA, NAH, NE, NI, NO, NU, NV, O,
QUA, QUE, QUI, QUO, QUU, QUV, S, SA, SE, SI, SO, SU, SV, TA, TE, TI, TLA, TLE, TLI, TLO, TLU, TLV,
TSA, TSE, TSI, TSO, TSU, TSV, U, V, WA, WE, WI, WO, WU, WV, YA, YE, YI, YO, YU, YV;
CHEROKEE SMALL LETTER: A, DA, DE, DI, DLA, DO, DU, DV, E, GA, GE, GI, GO, GU, GV, HA, HE, HI, HNA,
HO, HU, HV, I, KA, LA, LE, LI, LO, LU, LV, MA, ME, MI, MO, MU, MV, NA, NAH, NE, NI, NO, NU, NV, O,
QUA, QUE, QUI, QUO, QUU, QUV, S, SA, SE, SI, SO, SU, SV, TA, TE, TI, TLA, TLE, TLI, TLO, TLU, TLV,
TSA, TSE, TSI, TSO, TSU, TSV, U, V, WA, WE, WI, WO, WU, WV, YA, YE, YI, YO, YU, YV;
CHORASMIAN LETTER: ALEPH, AYIN, BETH, CURLED WAW, DALETH, GIMEL, HE, HETH, KAPH, LAMEDH, MEM, NUN,
PE, RESH, SAMEKH, SHIN, SMALL ALEPH, TAW, WAW, YODH, ZAYIN;
CHORASMIAN NUMBER: FOUR, ONE, ONE HUNDRED, TEN, THREE, TWENTY, TWO;
CIRCLE WITH: ALL BUT UPPER LEFT QUADRANT BLACK, HORIZONTAL BAR, LEFT HALF BLACK, LOWER HALF BLACK,
RIGHT HALF BLACK, SMALL CIRCLE TO THE RIGHT, SUPERIMPOSED X, TWO HORIZONTAL STROKES TO THE RIGHT,
UPPER HALF BLACK, UPPER RIGHT QUADRANT BLACK, VERTICAL FILL;
CIRCLED: ANTICLOCKWISE ARROW, ANTICLOCKWISE-ROTATED DIVISION SIGN, ASTERISK OPERATOR, BOLD X,
BULLET, C WITH OVERLAID BACKSLASH, CC, CD, CROSS POMMEE, CROSSING LANES, DASH, DIVISION SIGN,
DIVISION SLASH, DOLLAR SIGN WITH OVERLAID BACKSLASH, DOT OPERATOR, EQUALS, GREATER-THAN, HEAVY
WHITE RIGHTWARDS ARROW, HORIZONTAL BAR WITH NOTCH, HUMAN FIGURE, INFORMATION SOURCE, LESS-THAN,
MINUS, MULTIPLICATION SIGN WITH CIRCUMFLEX ACCENT, OPEN CENTRE EIGHT POINTED STAR, PARALLEL,
PERPENDICULAR, PLUS, POSTAL MARK, REVERSE SOLIDUS, RING OPERATOR, SQUARE, TIMES, TRIANGLE,
TRIANGLE DOWN, VERTICAL BAR, WHITE BULLET, WHITE STAR, WZ, X, ZERO WITH SLASH;
CIRCLED CROSS FORMEE: ., WITH FOUR DOTS, WITH TWO DOTS;
CIRCLED DIGIT: EIGHT, FIVE, FOUR, NINE, ONE, SEVEN, SIX, THREE, TWO, ZERO;
CIRCLED HANGUL: CHIEUCH, CHIEUCH A, CIEUC, CIEUC A, HIEUH, HIEUH A, IEUNG, IEUNG A, IEUNG U,
KHIEUKH, KHIEUKH A, KIYEOK, KIYEOK A, MIEUM, MIEUM A, NIEUN, NIEUN A, PHIEUPH, PHIEUPH A, PIEUP,
PIEUP A, RIEUL, RIEUL A, SIOS, SIOS A, THIEUTH, THIEUTH A, TIKEUT, TIKEUT A;
CIRCLED IDEOGRAPH: ACCEPT, ADVANTAGE, ALLIANCE, ATTENTION, CENTRE, CONGRATULATION, COPY, CORRECT,
EARTH, EIGHT, ENTERPRISE, EXCELLENT, FEMALE, FINANCIAL, FIRE, FIVE, FOUR, HAVE, HIGH, ITEM,
KINDERGARTEN, KOTO, LABOR, LEFT, LOW, MALE, MEDICINE, METAL, MOON, NAME, NIGHT, NINE, ONE, PRINT,
QUESTION, RELIGION, RESOURCE, REST, RIGHT, SCHOOL, SECRET, SEVEN, SIX, SOCIETY, SPECIAL, STOCK,
STUDY, SUITABLE, SUN, SUPERVISE, TEN, THREE, TWO, WATER, WOOD;
CIRCLED ITALIC LATIN CAPITAL LETTER: C, R;
CIRCLED KATAKANA: A, E, HA, HE, HI, HO, HU, I, KA, KE, KI, KO, KU, MA, ME, MI, MO, MU, NA, NE, NI,
NO, NU, O, RA, RE, RI, RO, RU, SA, SE, SI, SO, SU, TA, TE, TI, TO, TU, U, WA, WE, WI, WO, YA, YO,
YU;
CIRCLED KOREAN CHARACTER: CHAMKO, JUEUI;
CIRCLED LATIN CAPITAL LETTER: A, B, C, D, E, F, G, H, I, J, K, L, M, N, O, P, Q, R, S, T, U, V, W,
X, Y, Z;
CIRCLED LATIN SMALL LETTER: A, B, C, D, E, F, G, H, I, J, K, L, M, N, O, P, Q, R, S, T, U, V, W,
X, Y, Z;
CIRCLED NUMBER: EIGHTEEN, EIGHTY ON BLACK SQUARE, ELEVEN, FIFTEEN, FIFTY, FIFTY ON BLACK SQUARE,
FOURTEEN, NINETEEN, SEVENTEEN, SEVENTY ON BLACK SQUARE, SIXTEEN, SIXTY ON BLACK SQUARE, TEN, TEN
ON BLACK SQUARE, THIRTEEN, TWELVE;
CIRCLED NUMBER FORTY: ., EIGHT, FIVE, FOUR, NINE, ON BLACK SQUARE, ONE, SEVEN, SIX, THREE, TWO;
CIRCLED NUMBER THIRTY: ., EIGHT, FIVE, FOUR, NINE, ON BLACK SQUARE, ONE, SEVEN, SIX, THREE, TWO;
CIRCLED NUMBER TWENTY: ., EIGHT, FIVE, FOUR, NINE, ON BLACK SQUARE, ONE, SEVEN, SIX, THREE, TWO;
CITYSCAPE: ., AT DUSK;
CJK COMPATIBILITY: IDEOGRAPH-2F800, IDEOGRAPH-2F801, IDEOGRAPH-2F802, IDEOGRAPH-2F803,
IDEOGRAPH-2F804, IDEOGRAPH-2F805, IDEOGRAPH-2F806, IDEOGRAPH-2F807, IDEOGRAPH-2F808,
IDEOGRAPH-2F809, IDEOGRAPH-2F80A, IDEOGRAPH-2F80B, IDEOGRAPH-2F80C, IDEOGRAPH-2F80D,
IDEOGRAPH-2F80E, IDEOGRAPH-2F80F, IDEOGRAPH-2F810, IDEOGRAPH-2F811, IDEOGRAPH-2F812,
IDEOGRAPH-2F813, IDEOGRAPH-2F814, IDEOGRAPH-2F815, IDEOGRAPH-2F816, IDEOGRAPH-2F817,
IDEOGRAPH-2F818, IDEOGRAPH-2F819, IDEOGRAPH-2F81A, IDEOGRAPH-2F81B, IDEOGRAPH-2F81C,
IDEOGRAPH-2F81D, IDEOGRAPH-2F81E, IDEOGRAPH-2F81F, IDEOGRAPH-2F820, IDEOGRAPH-2F821,
IDEOGRAPH-2F822, IDEOGRAPH-2F823, IDEOGRAPH-2F824, IDEOGRAPH-2F825, IDEOGRAPH-2F826,
IDEOGRAPH-2F827, IDEOGRAPH-2F828, IDEOGRAPH-2F829, IDEOGRAPH-2F82A, IDEOGRAPH-2F82B,
IDEOGRAPH-2F82C, IDEOGRAPH-2F82D, IDEOGRAPH-2F82E, IDEOGRAPH-2F82F, IDEOGRAPH-2F830,
IDEOGRAPH-2F831, IDEOGRAPH-2F832, IDEOGRAPH-2F833, IDEOGRAPH-2F834, IDEOGRAPH-2F835,
IDEOGRAPH-2F836, IDEOGRAPH-2F837, IDEOGRAPH-2F838, IDEOGRAPH-2F839, IDEOGRAPH-2F83A,
IDEOGRAPH-2F83B, IDEOGRAPH-2F83C, IDEOGRAPH-2F83D, IDEOGRAPH-2F83E, IDEOGRAPH-2F83F,
IDEOGRAPH-2F840, IDEOGRAPH-2F841, IDEOGRAPH-2F842, IDEOGRAPH-2F843, IDEOGRAPH-2F844,
IDEOGRAPH-2F845, IDEOGRAPH-2F846, IDEOGRAPH-2F847, IDEOGRAPH-2F848, IDEOGRAPH-2F849,
IDEOGRAPH-2F84A, IDEOGRAPH-2F84B, IDEOGRAPH-2F84C, IDEOGRAPH-2F84D, IDEOGRAPH-2F84E,
IDEOGRAPH-2F84F, IDEOGRAPH-2F850, IDEOGRAPH-2F851, IDEOGRAPH-2F852, IDEOGRAPH-2F853,
IDEOGRAPH-2F854, IDEOGRAPH-2F855, IDEOGRAPH-2F856, IDEOGRAPH-2F857, IDEOGRAPH-2F858,
IDEOGRAPH-2F859, IDEOGRAPH-2F85A, IDEOGRAPH-2F85B, IDEOGRAPH-2F85C, IDEOGRAPH-2F85D,
IDEOGRAPH-2F85E, IDEOGRAPH-2F85F, IDEOGRAPH-2F860, IDEOGRAPH-2F861, IDEOGRAPH-2F862,
IDEOGRAPH-2F863, IDEOGRAPH-2F864, IDEOGRAPH-2F865, IDEOGRAPH-2F866, IDEOGRAPH-2F867,
IDEOGRAPH-2F868, IDEOGRAPH-2F869, IDEOGRAPH-2F86A, IDEOGRAPH-2F86B, IDEOGRAPH-2F86C,
IDEOGRAPH-2F86D, IDEOGRAPH-2F86E, IDEOGRAPH-2F86F, IDEOGRAPH-2F870, IDEOGRAPH-2F871,
IDEOGRAPH-2F872, IDEOGRAPH-2F873, IDEOGRAPH-2F874, IDEOGRAPH-2F875, IDEOGRAPH-2F876,
IDEOGRAPH-2F877, IDEOGRAPH-2F878, IDEOGRAPH-2F879, IDEOGRAPH-2F87A, IDEOGRAPH-2F87B,
IDEOGRAPH-2F87C, IDEOGRAPH-2F87D, IDEOGRAPH-2F87E, IDEOGRAPH-2F87F, IDEOGRAPH-2F880,
IDEOGRAPH-2F881, IDEOGRAPH-2F882, IDEOGRAPH-2F883, IDEOGRAPH-2F884, IDEOGRAPH-2F885,
IDEOGRAPH-2F886, IDEOGRAPH-2F887, IDEOGRAPH-2F888, IDEOGRAPH-2F889, IDEOGRAPH-2F88A,
IDEOGRAPH-2F88B, IDEOGRAPH-2F88C, IDEOGRAPH-2F88D, IDEOGRAPH-2F88E, IDEOGRAPH-2F88F,
IDEOGRAPH-2F890, IDEOGRAPH-2F891, IDEOGRAPH-2F892, IDEOGRAPH-2F893, IDEOGRAPH-2F894,
IDEOGRAPH-2F895, IDEOGRAPH-2F896, IDEOGRAPH-2F897, IDEOGRAPH-2F898, IDEOGRAPH-2F899,
IDEOGRAPH-2F89A, IDEOGRAPH-2F89B, IDEOGRAPH-2F89C, IDEOGRAPH-2F89D, IDEOGRAPH-2F89E,
IDEOGRAPH-2F89F, IDEOGRAPH-2F8A0, IDEOGRAPH-2F8A1, IDEOGRAPH-2F8A2, IDEOGRAPH-2F8A3,
IDEOGRAPH-2F8A4, IDEOGRAPH-2F8A5, IDEOGRAPH-2F8A6, IDEOGRAPH-2F8A7, IDEOGRAPH-2F8A8,
IDEOGRAPH-2F8A9, IDEOGRAPH-2F8AA, IDEOGRAPH-2F8AB, IDEOGRAPH-2F8AC, IDEOGRAPH-2F8AD,
IDEOGRAPH-2F8AE, IDEOGRAPH-2F8AF, IDEOGRAPH-2F8B0, IDEOGRAPH-2F8B1, IDEOGRAPH-2F8B2,
IDEOGRAPH-2F8B3, IDEOGRAPH-2F8B4, IDEOGRAPH-2F8B5, IDEOGRAPH-2F8B6, IDEOGRAPH-2F8B7,
IDEOGRAPH-2F8B8, IDEOGRAPH-2F8B9, IDEOGRAPH-2F8BA, IDEOGRAPH-2F8BB, IDEOGRAPH-2F8BC,
IDEOGRAPH-2F8BD, IDEOGRAPH-2F8BE, IDEOGRAPH-2F8BF, IDEOGRAPH-2F8C0, IDEOGRAPH-2F8C1,
IDEOGRAPH-2F8C2, IDEOGRAPH-2F8C3, IDEOGRAPH-2F8C4, IDEOGRAPH-2F8C5, IDEOGRAPH-2F8C6,
IDEOGRAPH-2F8C7, IDEOGRAPH-2F8C8, IDEOGRAPH-2F8C9, IDEOGRAPH-2F8CA, IDEOGRAPH-2F8CB,
IDEOGRAPH-2F8CC, IDEOGRAPH-2F8CD, IDEOGRAPH-2F8CE, IDEOGRAPH-2F8CF, IDEOGRAPH-2F8D0,
IDEOGRAPH-2F8D1, IDEOGRAPH-2F8D2, IDEOGRAPH-2F8D3, IDEOGRAPH-2F8D4, IDEOGRAPH-2F8D5,
IDEOGRAPH-2F8D6, IDEOGRAPH-2F8D7, IDEOGRAPH-2F8D8, IDEOGRAPH-2F8D9, IDEOGRAPH-2F8DA,
IDEOGRAPH-2F8DB, IDEOGRAPH-2F8DC, IDEOGRAPH-2F8DD, IDEOGRAPH-2F8DE, IDEOGRAPH-2F8DF,
IDEOGRAPH-2F8E0, IDEOGRAPH-2F8E1, IDEOGRAPH-2F8E2, IDEOGRAPH-2F8E3, IDEOGRAPH-2F8E4,
IDEOGRAPH-2F8E5, IDEOGRAPH-2F8E6, IDEOGRAPH-2F8E7, IDEOGRAPH-2F8E8, IDEOGRAPH-2F8E9,
IDEOGRAPH-2F8EA, IDEOGRAPH-2F8EB, IDEOGRAPH-2F8EC, IDEOGRAPH-2F8ED, IDEOGRAPH-2F8EE,
IDEOGRAPH-2F8EF, IDEOGRAPH-2F8F0, IDEOGRAPH-2F8F1, IDEOGRAPH-2F8F2, IDEOGRAPH-2F8F3,
IDEOGRAPH-2F8F4, IDEOGRAPH-2F8F5, IDEOGRAPH-2F8F6, IDEOGRAPH-2F8F7, IDEOGRAPH-2F8F8,
IDEOGRAPH-2F8F9, IDEOGRAPH-2F8FA, IDEOGRAPH-2F8FB, IDEOGRAPH-2F8FC, IDEOGRAPH-2F8FD,
IDEOGRAPH-2F8FE, IDEOGRAPH-2F8FF, IDEOGRAPH-2F900, IDEOGRAPH-2F901, IDEOGRAPH-2F902,
IDEOGRAPH-2F903, IDEOGRAPH-2F904, IDEOGRAPH-2F905, IDEOGRAPH-2F906, IDEOGRAPH-2F907,
IDEOGRAPH-2F908, IDEOGRAPH-2F909, IDEOGRAPH-2F90A, IDEOGRAPH-2F90B, IDEOGRAPH-2F90C,
IDEOGRAPH-2F90D, IDEOGRAPH-2F90E, IDEOGRAPH-2F90F, IDEOGRAPH-2F910, IDEOGRAPH-2F911,
IDEOGRAPH-2F912, IDEOGRAPH-2F913, IDEOGRAPH-2F914, IDEOGRAPH-2F915, IDEOGRAPH-2F916,
IDEOGRAPH-2F917, IDEOGRAPH-2F918, IDEOGRAPH-2F919, IDEOGRAPH-2F91A, IDEOGRAPH-2F91B,
IDEOGRAPH-2F91C, IDEOGRAPH-2F91D, IDEOGRAPH-2F91E, IDEOGRAPH-2F91F, IDEOGRAPH-2F920,
IDEOGRAPH-2F921, IDEOGRAPH-2F922, IDEOGRAPH-2F923, IDEOGRAPH-2F924, IDEOGRAPH-2F925,
IDEOGRAPH-2F926, IDEOGRAPH-2F927, IDEOGRAPH-2F928, IDEOGRAPH-2F929, IDEOGRAPH-2F92A,
IDEOGRAPH-2F92B, IDEOGRAPH-2F92C, IDEOGRAPH-2F92D, IDEOGRAPH-2F92E, IDEOGRAPH-2F92F,
IDEOGRAPH-2F930, IDEOGRAPH-2F931, IDEOGRAPH-2F932, IDEOGRAPH-2F933, IDEOGRAPH-2F934,
IDEOGRAPH-2F935, IDEOGRAPH-2F936, IDEOGRAPH-2F937, IDEOGRAPH-2F938, IDEOGRAPH-2F939,
IDEOGRAPH-2F93A, IDEOGRAPH-2F93B, IDEOGRAPH-2F93C, IDEOGRAPH-2F93D, IDEOGRAPH-2F93E,
IDEOGRAPH-2F93F, IDEOGRAPH-2F940, IDEOGRAPH-2F941, IDEOGRAPH-2F942, IDEOGRAPH-2F943,
IDEOGRAPH-2F944, IDEOGRAPH-2F945, IDEOGRAPH-2F946, IDEOGRAPH-2F947, IDEOGRAPH-2F948,
IDEOGRAPH-2F949, IDEOGRAPH-2F94A, IDEOGRAPH-2F94B, IDEOGRAPH-2F94C, IDEOGRAPH-2F94D,
IDEOGRAPH-2F94E, IDEOGRAPH-2F94F, IDEOGRAPH-2F950, IDEOGRAPH-2F951, IDEOGRAPH-2F952,
IDEOGRAPH-2F953, IDEOGRAPH-2F954, IDEOGRAPH-2F955, IDEOGRAPH-2F956, IDEOGRAPH-2F957,
IDEOGRAPH-2F958, IDEOGRAPH-2F959, IDEOGRAPH-2F95A, IDEOGRAPH-2F95B, IDEOGRAPH-2F95C,
IDEOGRAPH-2F95D, IDEOGRAPH-2F95E, IDEOGRAPH-2F95F, IDEOGRAPH-2F960, IDEOGRAPH-2F961,
IDEOGRAPH-2F962, IDEOGRAPH-2F963, IDEOGRAPH-2F964, IDEOGRAPH-2F965, IDEOGRAPH-2F966,
IDEOGRAPH-2F967, IDEOGRAPH-2F968, IDEOGRAPH-2F969, IDEOGRAPH-2F96A, IDEOGRAPH-2F96B,
IDEOGRAPH-2F96C, IDEOGRAPH-2F96D, IDEOGRAPH-2F96E, IDEOGRAPH-2F96F, IDEOGRAPH-2F970,
IDEOGRAPH-2F971, IDEOGRAPH-2F972, IDEOGRAPH-2F973, IDEOGRAPH-2F974, IDEOGRAPH-2F975,
IDEOGRAPH-2F976, IDEOGRAPH-2F977, IDEOGRAPH-2F978, IDEOGRAPH-2F979, IDEOGRAPH-2F97A,
IDEOGRAPH-2F97B, IDEOGRAPH-2F97C, IDEOGRAPH-2F97D, IDEOGRAPH-2F97E, IDEOGRAPH-2F97F,
IDEOGRAPH-2F980, IDEOGRAPH-2F981, IDEOGRAPH-2F982, IDEOGRAPH-2F983, IDEOGRAPH-2F984,
IDEOGRAPH-2F985, IDEOGRAPH-2F986, IDEOGRAPH-2F987, IDEOGRAPH-2F988, IDEOGRAPH-2F989,
IDEOGRAPH-2F98A, IDEOGRAPH-2F98B, IDEOGRAPH-2F98C, IDEOGRAPH-2F98D, IDEOGRAPH-2F98E,
IDEOGRAPH-2F98F, IDEOGRAPH-2F990, IDEOGRAPH-2F991, IDEOGRAPH-2F992, IDEOGRAPH-2F993,
IDEOGRAPH-2F994, IDEOGRAPH-2F995, IDEOGRAPH-2F996, IDEOGRAPH-2F997, IDEOGRAPH-2F998,
IDEOGRAPH-2F999, IDEOGRAPH-2F99A, IDEOGRAPH-2F99B, IDEOGRAPH-2F99C, IDEOGRAPH-2F99D,
IDEOGRAPH-2F99E, IDEOGRAPH-2F99F, IDEOGRAPH-2F9A0, IDEOGRAPH-2F9A1, IDEOGRAPH-2F9A2,
IDEOGRAPH-2F9A3, IDEOGRAPH-2F9A4, IDEOGRAPH-2F9A5, IDEOGRAPH-2F9A6, IDEOGRAPH-2F9A7,
IDEOGRAPH-2F9A8, IDEOGRAPH-2F9A9, IDEOGRAPH-2F9AA, IDEOGRAPH-2F9AB, IDEOGRAPH-2F9AC,
IDEOGRAPH-2F9AD, IDEOGRAPH-2F9AE, IDEOGRAPH-2F9AF, IDEOGRAPH-2F9B0, IDEOGRAPH-2F9B1,
IDEOGRAPH-2F9B2, IDEOGRAPH-2F9B3, IDEOGRAPH-2F9B4, IDEOGRAPH-2F9B5, IDEOGRAPH-2F9B6,
IDEOGRAPH-2F9B7, IDEOGRAPH-2F9B8, IDEOGRAPH-2F9B9, IDEOGRAPH-2F9BA, IDEOGRAPH-2F9BB,
IDEOGRAPH-2F9BC, IDEOGRAPH-2F9BD, IDEOGRAPH-2F9BE, IDEOGRAPH-2F9BF, IDEOGRAPH-2F9C0,
IDEOGRAPH-2F9C1, IDEOGRAPH-2F9C2, IDEOGRAPH-2F9C3, IDEOGRAPH-2F9C4, IDEOGRAPH-2F9C5,
IDEOGRAPH-2F9C6, IDEOGRAPH-2F9C7, IDEOGRAPH-2F9C8, IDEOGRAPH-2F9C9, IDEOGRAPH-2F9CA,
IDEOGRAPH-2F9CB, IDEOGRAPH-2F9CC, IDEOGRAPH-2F9CD, IDEOGRAPH-2F9CE, IDEOGRAPH-2F9CF,
IDEOGRAPH-2F9D0, IDEOGRAPH-2F9D1, IDEOGRAPH-2F9D2, IDEOGRAPH-2F9D3, IDEOGRAPH-2F9D4,
IDEOGRAPH-2F9D5, IDEOGRAPH-2F9D6, IDEOGRAPH-2F9D7, IDEOGRAPH-2F9D8, IDEOGRAPH-2F9D9,
IDEOGRAPH-2F9DA, IDEOGRAPH-2F9DB, IDEOGRAPH-2F9DC, IDEOGRAPH-2F9DD, IDEOGRAPH-2F9DE,
IDEOGRAPH-2F9DF, IDEOGRAPH-2F9E0, IDEOGRAPH-2F9E1, IDEOGRAPH-2F9E2, IDEOGRAPH-2F9E3,
IDEOGRAPH-2F9E4, IDEOGRAPH-2F9E5, IDEOGRAPH-2F9E6, IDEOGRAPH-2F9E7, IDEOGRAPH-2F9E8,
IDEOGRAPH-2F9E9, IDEOGRAPH-2F9EA, IDEOGRAPH-2F9EB, IDEOGRAPH-2F9EC, IDEOGRAPH-2F9ED,
IDEOGRAPH-2F9EE, IDEOGRAPH-2F9EF, IDEOGRAPH-2F9F0, IDEOGRAPH-2F9F1, IDEOGRAPH-2F9F2,
IDEOGRAPH-2F9F3, IDEOGRAPH-2F9F4, IDEOGRAPH-2F9F5, IDEOGRAPH-2F9F6, IDEOGRAPH-2F9F7,
IDEOGRAPH-2F9F8, IDEOGRAPH-2F9F9, IDEOGRAPH-2F9FA, IDEOGRAPH-2F9FB, IDEOGRAPH-2F9FC,
IDEOGRAPH-2F9FD, IDEOGRAPH-2F9FE, IDEOGRAPH-2F9FF, IDEOGRAPH-2FA00, IDEOGRAPH-2FA01,
IDEOGRAPH-2FA02, IDEOGRAPH-2FA03, IDEOGRAPH-2FA04, IDEOGRAPH-2FA05, IDEOGRAPH-2FA06,
IDEOGRAPH-2FA07, IDEOGRAPH-2FA08, IDEOGRAPH-2FA09, IDEOGRAPH-2FA0A, IDEOGRAPH-2FA0B,
IDEOGRAPH-2FA0C, IDEOGRAPH-2FA0D, IDEOGRAPH-2FA0E, IDEOGRAPH-2FA0F, IDEOGRAPH-2FA10,
IDEOGRAPH-2FA11, IDEOGRAPH-2FA12, IDEOGRAPH-2FA13, IDEOGRAPH-2FA14, IDEOGRAPH-2FA15,
IDEOGRAPH-2FA16, IDEOGRAPH-2FA17, IDEOGRAPH-2FA18, IDEOGRAPH-2FA19, IDEOGRAPH-2FA1A,
IDEOGRAPH-2FA1B, IDEOGRAPH-2FA1C, IDEOGRAPH-2FA1D, IDEOGRAPH-F900, IDEOGRAPH-F901, IDEOGRAPH-F902,
IDEOGRAPH-F903, IDEOGRAPH-F904, IDEOGRAPH-F905, IDEOGRAPH-F906, IDEOGRAPH-F907, IDEOGRAPH-F908,
IDEOGRAPH-F909, IDEOGRAPH-F90A, IDEOGRAPH-F90B, IDEOGRAPH-F90C, IDEOGRAPH-F90D, IDEOGRAPH-F90E,
IDEOGRAPH-F90F, IDEOGRAPH-F910, IDEOGRAPH-F911, IDEOGRAPH-F912, IDEOGRAPH-F913, IDEOGRAPH-F914,
IDEOGRAPH-F915, IDEOGRAPH-F916, IDEOGRAPH-F917, IDEOGRAPH-F918, IDEOGRAPH-F919, IDEOGRAPH-F91A,
IDEOGRAPH-F91B, IDEOGRAPH-F91C, IDEOGRAPH-F91D, IDEOGRAPH-F91E, IDEOGRAPH-F91F, IDEOGRAPH-F920,
IDEOGRAPH-F921, IDEOGRAPH-F922, IDEOGRAPH-F923, IDEOGRAPH-F924, IDEOGRAPH-F925, IDEOGRAPH-F926,
IDEOGRAPH-F927, IDEOGRAPH-F928, IDEOGRAPH-F929, IDEOGRAPH-F92A, IDEOGRAPH-F92B, IDEOGRAPH-F92C,
IDEOGRAPH-F92D, IDEOGRAPH-F92E, IDEOGRAPH-F92F, IDEOGRAPH-F930, IDEOGRAPH-F931, IDEOGRAPH-F932,
IDEOGRAPH-F933, IDEOGRAPH-F934, IDEOGRAPH-F935, IDEOGRAPH-F936, IDEOGRAPH-F937, IDEOGRAPH-F938,
IDEOGRAPH-F939, IDEOGRAPH-F93A, IDEOGRAPH-F93B, IDEOGRAPH-F93C, IDEOGRAPH-F93D, IDEOGRAPH-F93E,
IDEOGRAPH-F93F, IDEOGRAPH-F940, IDEOGRAPH-F941, IDEOGRAPH-F942, IDEOGRAPH-F943, IDEOGRAPH-F944,
IDEOGRAPH-F945, IDEOGRAPH-F946, IDEOGRAPH-F947, IDEOGRAPH-F948, IDEOGRAPH-F949, IDEOGRAPH-F94A,
IDEOGRAPH-F94B, IDEOGRAPH-F94C, IDEOGRAPH-F94D, IDEOGRAPH-F94E, IDEOGRAPH-F94F, IDEOGRAPH-F950,
IDEOGRAPH-F951, IDEOGRAPH-F952, IDEOGRAPH-F953, IDEOGRAPH-F954, IDEOGRAPH-F955, IDEOGRAPH-F956,
IDEOGRAPH-F957, IDEOGRAPH-F958, IDEOGRAPH-F959, IDEOGRAPH-F95A, IDEOGRAPH-F95B, IDEOGRAPH-F95C,
IDEOGRAPH-F95D, IDEOGRAPH-F95E, IDEOGRAPH-F95F, IDEOGRAPH-F960, IDEOGRAPH-F961, IDEOGRAPH-F962,
IDEOGRAPH-F963, IDEOGRAPH-F964, IDEOGRAPH-F965, IDEOGRAPH-F966, IDEOGRAPH-F967, IDEOGRAPH-F968,
IDEOGRAPH-F969, IDEOGRAPH-F96A, IDEOGRAPH-F96B, IDEOGRAPH-F96C, IDEOGRAPH-F96D, IDEOGRAPH-F96E,
IDEOGRAPH-F96F, IDEOGRAPH-F970, IDEOGRAPH-F971, IDEOGRAPH-F972, IDEOGRAPH-F973, IDEOGRAPH-F974,
IDEOGRAPH-F975, IDEOGRAPH-F976, IDEOGRAPH-F977, IDEOGRAPH-F978, IDEOGRAPH-F979, IDEOGRAPH-F97A,
IDEOGRAPH-F97B, IDEOGRAPH-F97C, IDEOGRAPH-F97D, IDEOGRAPH-F97E, IDEOGRAPH-F97F, IDEOGRAPH-F980,
IDEOGRAPH-F981, IDEOGRAPH-F982, IDEOGRAPH-F983, IDEOGRAPH-F984, IDEOGRAPH-F985, IDEOGRAPH-F986,
IDEOGRAPH-F987, IDEOGRAPH-F988, IDEOGRAPH-F989, IDEOGRAPH-F98A, IDEOGRAPH-F98B, IDEOGRAPH-F98C,
IDEOGRAPH-F98D, IDEOGRAPH-F98E, IDEOGRAPH-F98F, IDEOGRAPH-F990, IDEOGRAPH-F991, IDEOGRAPH-F992,
IDEOGRAPH-F993, IDEOGRAPH-F994, IDEOGRAPH-F995, IDEOGRAPH-F996, IDEOGRAPH-F997, IDEOGRAPH-F998,
IDEOGRAPH-F999, IDEOGRAPH-F99A, IDEOGRAPH-F99B, IDEOGRAPH-F99C, IDEOGRAPH-F99D, IDEOGRAPH-F99E,
IDEOGRAPH-F99F, IDEOGRAPH-F9A0, IDEOGRAPH-F9A1, IDEOGRAPH-F9A2, IDEOGRAPH-F9A3, IDEOGRAPH-F9A4,
IDEOGRAPH-F9A5, IDEOGRAPH-F9A6, IDEOGRAPH-F9A7, IDEOGRAPH-F9A8, IDEOGRAPH-F9A9, IDEOGRAPH-F9AA,
IDEOGRAPH-F9AB, IDEOGRAPH-F9AC, IDEOGRAPH-F9AD, IDEOGRAPH-F9AE, IDEOGRAPH-F9AF, IDEOGRAPH-F9B0,
IDEOGRAPH-F9B1, IDEOGRAPH-F9B2, IDEOGRAPH-F9B3, IDEOGRAPH-F9B4, IDEOGRAPH-F9B5, IDEOGRAPH-F9B6,
IDEOGRAPH-F9B7, IDEOGRAPH-F9B8, IDEOGRAPH-F9B9, IDEOGRAPH-F9BA, IDEOGRAPH-F9BB, IDEOGRAPH-F9BC,
IDEOGRAPH-F9BD, IDEOGRAPH-F9BE, IDEOGRAPH-F9BF, IDEOGRAPH-F9C0, IDEOGRAPH-F9C1, IDEOGRAPH-F9C2,
IDEOGRAPH-F9C3, IDEOGRAPH-F9C4, IDEOGRAPH-F9C5, IDEOGRAPH-F9C6, IDEOGRAPH-F9C7, IDEOGRAPH-F9C8,
IDEOGRAPH-F9C9, IDEOGRAPH-F9CA, IDEOGRAPH-F9CB, IDEOGRAPH-F9CC, IDEOGRAPH-F9CD, IDEOGRAPH-F9CE,
IDEOGRAPH-F9CF, IDEOGRAPH-F9D0, IDEOGRAPH-F9D1, IDEOGRAPH-F9D2, IDEOGRAPH-F9D3, IDEOGRAPH-F9D4,
IDEOGRAPH-F9D5, IDEOGRAPH-F9D6, IDEOGRAPH-F9D7, IDEOGRAPH-F9D8, IDEOGRAPH-F9D9, IDEOGRAPH-F9DA,
IDEOGRAPH-F9DB, IDEOGRAPH-F9DC, IDEOGRAPH-F9DD, IDEOGRAPH-F9DE, IDEOGRAPH-F9DF, IDEOGRAPH-F9E0,
IDEOGRAPH-F9E1, IDEOGRAPH-F9E2, IDEOGRAPH-F9E3, IDEOGRAPH-F9E4, IDEOGRAPH-F9E5, IDEOGRAPH-F9E6,
IDEOGRAPH-F9E7, IDEOGRAPH-F9E8, IDEOGRAPH-F9E9, IDEOGRAPH-F9EA, IDEOGRAPH-F9EB, IDEOGRAPH-F9EC,
IDEOGRAPH-F9ED, IDEOGRAPH-F9EE, IDEOGRAPH-F9EF, IDEOGRAPH-F9F0, IDEOGRAPH-F9F1, IDEOGRAPH-F9F2,
IDEOGRAPH-F9F3, IDEOGRAPH-F9F4, IDEOGRAPH-F9F5, IDEOGRAPH-F9F6, IDEOGRAPH-F9F7, IDEOGRAPH-F9F8,
IDEOGRAPH-F9F9, IDEOGRAPH-F9FA, IDEOGRAPH-F9FB, IDEOGRAPH-F9FC, IDEOGRAPH-F9FD, IDEOGRAPH-F9FE,
IDEOGRAPH-F9FF, IDEOGRAPH-FA00, IDEOGRAPH-FA01, IDEOGRAPH-FA02, IDEOGRAPH-FA03, IDEOGRAPH-FA04,
IDEOGRAPH-FA05, IDEOGRAPH-FA06, IDEOGRAPH-FA07, IDEOGRAPH-FA08, IDEOGRAPH-FA09, IDEOGRAPH-FA0A,
IDEOGRAPH-FA0B, IDEOGRAPH-FA0C, IDEOGRAPH-FA0D, IDEOGRAPH-FA0E, IDEOGRAPH-FA0F, IDEOGRAPH-FA10,
IDEOGRAPH-FA11, IDEOGRAPH-FA12, IDEOGRAPH-FA13, IDEOGRAPH-FA14, IDEOGRAPH-FA15, IDEOGRAPH-FA16,
IDEOGRAPH-FA17, IDEOGRAPH-FA18, IDEOGRAPH-FA19, IDEOGRAPH-FA1A, IDEOGRAPH-FA1B, IDEOGRAPH-FA1C,
IDEOGRAPH-FA1D, IDEOGRAPH-FA1E, IDEOGRAPH-FA1F, IDEOGRAPH-FA20, IDEOGRAPH-FA21, IDEOGRAPH-FA22,
IDEOGRAPH-FA23, IDEOGRAPH-FA24, IDEOGRAPH-FA25, IDEOGRAPH-FA26, IDEOGRAPH-FA27, IDEOGRAPH-FA28,
IDEOGRAPH-FA29, IDEOGRAPH-FA2A, IDEOGRAPH-FA2B, IDEOGRAPH-FA2C, IDEOGRAPH-FA2D, IDEOGRAPH-FA2E,
IDEOGRAPH-FA2F, IDEOGRAPH-FA30, IDEOGRAPH-FA31, IDEOGRAPH-FA32, IDEOGRAPH-FA33, IDEOGRAPH-FA34,
IDEOGRAPH-FA35, IDEOGRAPH-FA36, IDEOGRAPH-FA37, IDEOGRAPH-FA38, IDEOGRAPH-FA39, IDEOGRAPH-FA3A,
IDEOGRAPH-FA3B, IDEOGRAPH-FA3C, IDEOGRAPH-FA3D, IDEOGRAPH-FA3E, IDEOGRAPH-FA3F, IDEOGRAPH-FA40,
IDEOGRAPH-FA41, IDEOGRAPH-FA42, IDEOGRAPH-FA43, IDEOGRAPH-FA44, IDEOGRAPH-FA45, IDEOGRAPH-FA46,
IDEOGRAPH-FA47, IDEOGRAPH-FA48, IDEOGRAPH-FA49, IDEOGRAPH-FA4A, IDEOGRAPH-FA4B, IDEOGRAPH-FA4C,
IDEOGRAPH-FA4D, IDEOGRAPH-FA4E, IDEOGRAPH-FA4F, IDEOGRAPH-FA50, IDEOGRAPH-FA51, IDEOGRAPH-FA52,
IDEOGRAPH-FA53, IDEOGRAPH-FA54, IDEOGRAPH-FA55, IDEOGRAPH-FA56, IDEOGRAPH-FA57, IDEOGRAPH-FA58,
IDEOGRAPH-FA59, IDEOGRAPH-FA5A, IDEOGRAPH-FA5B, IDEOGRAPH-FA5C, IDEOGRAPH-FA5D, IDEOGRAPH-FA5E,
IDEOGRAPH-FA5F, IDEOGRAPH-FA60, IDEOGRAPH-FA61, IDEOGRAPH-FA62, IDEOGRAPH-FA63, IDEOGRAPH-FA64,
IDEOGRAPH-FA65, IDEOGRAPH-FA66, IDEOGRAPH-FA67, IDEOGRAPH-FA68, IDEOGRAPH-FA69, IDEOGRAPH-FA6A,
IDEOGRAPH-FA6B, IDEOGRAPH-FA6C, IDEOGRAPH-FA6D, IDEOGRAPH-FA70, IDEOGRAPH-FA71, IDEOGRAPH-FA72,
IDEOGRAPH-FA73, IDEOGRAPH-FA74, IDEOGRAPH-FA75, IDEOGRAPH-FA76, IDEOGRAPH-FA77, IDEOGRAPH-FA78,
IDEOGRAPH-FA79, IDEOGRAPH-FA7A, IDEOGRAPH-FA7B, IDEOGRAPH-FA7C, IDEOGRAPH-FA7D, IDEOGRAPH-FA7E,
IDEOGRAPH-FA7F, IDEOGRAPH-FA80, IDEOGRAPH-FA81, IDEOGRAPH-FA82, IDEOGRAPH-FA83, IDEOGRAPH-FA84,
IDEOGRAPH-FA85, IDEOGRAPH-FA86, IDEOGRAPH-FA87, IDEOGRAPH-FA88, IDEOGRAPH-FA89, IDEOGRAPH-FA8A,
IDEOGRAPH-FA8B, IDEOGRAPH-FA8C, IDEOGRAPH-FA8D, IDEOGRAPH-FA8E, IDEOGRAPH-FA8F, IDEOGRAPH-FA90,
IDEOGRAPH-FA91, IDEOGRAPH-FA92, IDEOGRAPH-FA93, IDEOGRAPH-FA94, IDEOGRAPH-FA95, IDEOGRAPH-FA96,
IDEOGRAPH-FA97, IDEOGRAPH-FA98, IDEOGRAPH-FA99, IDEOGRAPH-FA9A, IDEOGRAPH-FA9B, IDEOGRAPH-FA9C,
IDEOGRAPH-FA9D, IDEOGRAPH-FA9E, IDEOGRAPH-FA9F, IDEOGRAPH-FAA0, IDEOGRAPH-FAA1, IDEOGRAPH-FAA2,
IDEOGRAPH-FAA3, IDEOGRAPH-FAA4, IDEOGRAPH-FAA5, IDEOGRAPH-FAA6, IDEOGRAPH-FAA7, IDEOGRAPH-FAA8,
IDEOGRAPH-FAA9, IDEOGRAPH-FAAA, IDEOGRAPH-FAAB, IDEOGRAPH-FAAC, IDEOGRAPH-FAAD, IDEOGRAPH-FAAE,
IDEOGRAPH-FAAF, IDEOGRAPH-FAB0, IDEOGRAPH-FAB1, IDEOGRAPH-FAB2, IDEOGRAPH-FAB3, IDEOGRAPH-FAB4,
IDEOGRAPH-FAB5, IDEOGRAPH-FAB6, IDEOGRAPH-FAB7, IDEOGRAPH-FAB8, IDEOGRAPH-FAB9, IDEOGRAPH-FABA,
IDEOGRAPH-FABB, IDEOGRAPH-FABC, IDEOGRAPH-FABD, IDEOGRAPH-FABE, IDEOGRAPH-FABF, IDEOGRAPH-FAC0,
IDEOGRAPH-FAC1, IDEOGRAPH-FAC2, IDEOGRAPH-FAC3, IDEOGRAPH-FAC4, IDEOGRAPH-FAC5, IDEOGRAPH-FAC6,
IDEOGRAPH-FAC7, IDEOGRAPH-FAC8, IDEOGRAPH-FAC9, IDEOGRAPH-FACA, IDEOGRAPH-FACB, IDEOGRAPH-FACC,
IDEOGRAPH-FACD, IDEOGRAPH-FACE, IDEOGRAPH-FACF, IDEOGRAPH-FAD0, IDEOGRAPH-FAD1, IDEOGRAPH-FAD2,
IDEOGRAPH-FAD3, IDEOGRAPH-FAD4, IDEOGRAPH-FAD5, IDEOGRAPH-FAD6, IDEOGRAPH-FAD7, IDEOGRAPH-FAD8,
IDEOGRAPH-FAD9;
CJK RADICAL: BAMBOO, BLUE, BOLT OF CLOTH, BONE, BOX, BRUSH ONE, BRUSH TWO, CHOKE, CITY, CIVILIAN,
CLIFF, CLOTHES, COW, DEATH, DIVINATION, DOG, EAT ONE, EAT THREE, EAT TWO, EWE, EYE, FIRE, FOOT,
GHOST, GRASS ONE, GRASS THREE, GRASS TWO, HAND, HEAD, HEART ONE, HEART TWO, HORN, JADE, KNIFE ONE,
KNIFE TWO, LONG ONE, LONG TWO, MEAT, MESH, MOON, MORTAR, MOTHER, MOUND ONE, MOUND TWO, NET FOUR,
NET ONE, NET THREE, NET TWO, OLD, PAW ONE, PAW TWO, PERSON, RAIN, RAM, RAP, REPEAT, SEAL, SECOND
ONE, SECOND THREE, SECOND TWO, SHEEP, SILK, SMALL ONE, SMALL TWO, SNAKE, SNOUT ONE, SNOUT TWO,
SPIRIT ONE, SPIRIT TWO, SUN, TABLE, THREAD, TIGER, TURTLE, WALK ONE, WALK TWO, WATER ONE, WATER
TWO, WEST ONE, WEST TWO;
CJK RADICAL C-SIMPLIFIED: BIRD, CART, DRAGON, EAT, EVEN, FISH, FLY, FROG, GATE, GOLD, HORSE, LEAF,
LONG, SALT, SEE, SHELL, SILK, SPEECH, TANNED LEATHER, TOOTH, TURTLE, WIND;
CJK RADICAL J-SIMPLIFIED: DRAGON, EVEN, TOOTH, TURTLE;
CJK RADICAL LAME: FOUR, ONE, THREE, TWO;
CJK RADICAL SIMPLIFIED: HALF TREE TRUNK, HORN, WALK, WHEAT, YELLOW;
CJK STROKE: BXG, D, H, HG, HP, HPWG, HXWG, HZ, HZG, HZT, HZW, HZWG, HZZ, HZZP, HZZZ, HZZZG, N, P,
PD, PG, PZ, Q, S, SG, SP, ST, SW, SWG, SWZ, SZ, SZWG, SZZ, T, TN, WG, XG;
CLINKING: BEER MUGS, GLASSES;
CLOCK FACE: EIGHT OCLOCK, EIGHT-THIRTY, ELEVEN OCLOCK, ELEVEN-THIRTY, FIVE OCLOCK, FIVE-THIRTY,
FOUR OCLOCK, FOUR-THIRTY, NINE OCLOCK, NINE-THIRTY, ONE OCLOCK, ONE-THIRTY, SEVEN OCLOCK,
SEVEN-THIRTY, SIX OCLOCK, SIX-THIRTY, TEN OCLOCK, TEN-THIRTY, THREE OCLOCK, THREE-THIRTY, TWELVE
OCLOCK, TWELVE-THIRTY, TWO OCLOCK, TWO-THIRTY;
CLOCKWISE: CLOSED CIRCLE ARROW, CONTOUR INTEGRAL, DOWNWARDS AND UPWARDS OPEN CIRCLE ARROWS, GAPPED
CIRCLE ARROW, INTEGRAL, OPEN CIRCLE ARROW, RIGHT AND LEFT SEMICIRCLE ARROWS, TOP SEMICIRCLE ARROW,
TRIANGLE-HEADED OPEN CIRCLE ARROW;
CLOCKWISE RIGHTWARDS AND LEFTWARDS OPEN CIRCLE ARROWS: ., WITH CIRCLED ONE OVERLAY;
CLOSED: BOOK, INTERSECTION WITH SERIFS, LOCK WITH KEY, SUBSET, SUBSET OR EQUAL TO, SUPERSET,
SUPERSET OR EQUAL TO, UMBRELLA;
CLOSED MAILBOX WITH: LOWERED FLAG, RAISED FLAG;
CLOSED UNION WITH SERIFS: ., AND SMASH PRODUCT;
CLOUD WITH: LIGHTNING, RAIN, SNOW, TORNADO;
COLON: ., EQUALS, SIGN;
COMBINING: ACUTE ACCENT, ACUTE ACCENT BELOW, ACUTE TONE MARK, ACUTE-GRAVE-ACUTE, ACUTE-MACRON,
ANNUITY SYMBOL, ASTERISK ABOVE, ASTERISK BELOW, BINDU BELOW, BREVE, BREVE BELOW, BREVE-MACRON,
BRIDGE ABOVE, BRIDGE BELOW, CANDRABINDU, CARON, CARON BELOW, CEDILLA, CLOCKWISE ARROW ABOVE,
CLOCKWISE RING OVERLAY, COMMA ABOVE, COMMA ABOVE RIGHT, COMMA BELOW, DELETION MARK, DEVANAGARI
SIGN AVAGRAHA, DIAERESIS, DIAERESIS BELOW, DIAERESIS-RING, DOT BELOW, DOT BELOW LEFT, DOTTED ACUTE
ACCENT, DOTTED GRAVE ACCENT, DOUBLED CIRCUMFLEX ACCENT, DOWN TACK BELOW, DOWNWARDS ARROW, EQUALS
SIGN BELOW, FERMATA, FOUR DOTS ABOVE, GRAPHEME JOINER, GRAVE ACCENT, GRAVE ACCENT BELOW, GRAVE
TONE MARK, GRAVE-ACUTE-GRAVE, GRAVE-MACRON, HOMOTHETIC ABOVE, HOOK ABOVE, HORN, INFINITY, IS
BELOW, LEFTWARDS ARROW OVERLAY, LEFTWARDS HARPOON WITH BARB DOWNWARDS, LIGHT CENTRALIZATION STROKE
BELOW, LOW LINE, MACRON-ACUTE, MACRON-BREVE, MACRON-GRAVE, MINUS SIGN BELOW, NOT TILDE ABOVE,
NUMBER SIGN ABOVE, OGONEK, OGONEK ABOVE, OPEN MARK BELOW, OVERLINE, PALATALIZED HOOK BELOW, PLUS
SIGN ABOVE, PLUS SIGN BELOW, RETROFLEX HOOK BELOW, REVERSE SOLIDUS OVERLAY, REVERSED COMMA ABOVE,
RIGHTWARDS HARPOON WITH BARB DOWNWARDS, RING ABOVE, RING BELOW, RING OVERLAY, SEAGULL BELOW, SHORT
SOLIDUS OVERLAY, SHORT STROKE OVERLAY, SHORT VERTICAL LINE OVERLAY, SNAKE BELOW, SQUARE BELOW,
SQUARE BRACKETS ABOVE, STRONG CENTRALIZATION STROKE BELOW, SUSPENSION MARK, THREE DOTS ABOVE,
TURNED COMMA ABOVE, UP TACK ABOVE, UP TACK BELOW, UPWARDS ARROW BELOW, UR ABOVE, US ABOVE, WIDE
BRIDGE ABOVE, WIDE INVERTED BRIDGE BELOW, WIGGLY LINE BELOW, X ABOVE, X BELOW, X-X BELOW, ZIGZAG
ABOVE, ZIGZAG BELOW;
COMBINING ALMOST EQUAL TO: ABOVE, BELOW;
COMBINING ANTICLOCKWISE: ARROW ABOVE, RING OVERLAY;
COMBINING CIRCUMFLEX ACCENT: ., BELOW;
COMBINING CONJOINING MACRON: ., BELOW;
COMBINING CYRILLIC: DASIA PNEUMATA, HUNDRED MILLIONS SIGN, HUNDRED THOUSANDS SIGN, KAVYKA,
MILLIONS SIGN, PALATALIZATION, PAYEROK, POKRYTIE, PSILI PNEUMATA, TEN MILLIONS SIGN, THOUSAND
MILLIONS SIGN, TITLO, TITLO LEFT HALF, TITLO RIGHT HALF, VZMET;
COMBINING CYRILLIC LETTER: A, BE, BIG YUS, CHE, DE, DJERV, EF, EL, EM, EN, ER, ES, ES-TE, FITA,
GHE, HA, HARD SIGN, I, IE, IOTIFIED A, IOTIFIED BIG YUS, IOTIFIED E, KA, LITTLE YUS, MONOGRAPH UK,
O, OMEGA, PE, SHA, SHCHA, SOFT SIGN, TE, TSE, U, UKRAINIAN IE, VE, YAT, YERU, YI, YU, ZE, ZHE;
COMBINING DEVANAGARI DIGIT: EIGHT, FIVE, FOUR, NINE, ONE, SEVEN, SIX, THREE, TWO, ZERO;
COMBINING DEVANAGARI LETTER: A, KA, NA, PA, RA, U, VI;
COMBINING DOT ABOVE: ., LEFT, RIGHT;
COMBINING DOUBLE: ACUTE ACCENT, BREVE, BREVE BELOW, CIRCUMFLEX ABOVE, GRAVE ACCENT, INVERTED
BREVE, INVERTED BREVE BELOW, LOW LINE, MACRON, MACRON BELOW, OPEN MARK BELOW, OVERLINE,
PARENTHESES ABOVE, PLUS SIGN ABOVE, PLUS SIGN BELOW, RIGHTWARDS ARROW BELOW, RING BELOW, TILDE,
TILDE LEFT HALF, TILDE RIGHT HALF, VERTICAL LINE ABOVE, VERTICAL LINE BELOW, VERTICAL STROKE
OVERLAY;
COMBINING ENCLOSING: CIRCLE, CIRCLE BACKSLASH, DIAMOND, KEYCAP, SCREEN, SQUARE, UPWARD POINTING
TRIANGLE;
COMBINING GLAGOLITIC LETTER: AZU, BIG YUS, BUKY, CHRIVI, DJERVI, DOBRO, FITA, FRITU, GLAGOLI,
HERU, I, INITIAL IZHE, IOTATED BIG YUS, IOTATED SMALL YUS, IZHE, KAKO, LJUDIJE, MYSLITE, NASHI,
ONU, POKOJI, RITSI, SHA, SHTA, SLOVO, SMALL YUS, TSI, TVRIDO, UKU, VEDE, YATI, YERI, YERU, YESTU,
YO, YU, ZEMLJA, ZHIVETE;
COMBINING GRANTHA DIGIT: FIVE, FOUR, ONE, SIX, THREE, TWO, ZERO;
COMBINING GRANTHA LETTER: A, KA, NA, PA, VI;
COMBINING GREEK: DIALYTIKA TONOS, KORONIS, MUSICAL PENTASEME, MUSICAL TETRASEME, MUSICAL TRISEME,
PERISPOMENI, YPOGEGRAMMENI;
COMBINING INVERTED: BREVE, BREVE BELOW, BRIDGE BELOW, DOUBLE ARCH ABOVE, DOUBLE ARCH BELOW;
COMBINING KATAKANA-HIRAGANA: SEMI-VOICED SOUND MARK, VOICED SOUND MARK;
COMBINING KAVYKA ABOVE: LEFT, RIGHT;
COMBINING LATIN LETTER SMALL CAPITAL: G, L, M, N, R;
COMBINING LATIN SMALL LETTER: A, A WITH DIAERESIS, AE, ALPHA, AO, AV, B, BETA, C, C CEDILLA, D, E,
ESH, ETH, F, FLATTENED OPEN A ABOVE, G, H, I, INSULAR D, INSULAR G, INSULAR R, INSULAR T, K, L, L
WITH DOUBLE MIDDLE TILDE, LONG S, M, N, O, O WITH DIAERESIS, O WITH LIGHT CENTRALIZATION STROKE,
P, R, R BELOW, R ROTUNDA, S, SCHWA, T, TURNED W BELOW, U, U WITH DIAERESIS, U WITH LIGHT
CENTRALIZATION STROKE, V, W, W BELOW, X, Z;
COMBINING LEFT: ANGLE ABOVE, ANGLE BELOW, ARROW ABOVE, ARROW BELOW, ARROWHEAD ABOVE, ARROWHEAD
BELOW, HALF RING ABOVE, HALF RING BELOW, HARPOON ABOVE, PARENTHESIS ABOVE LEFT, PARENTHESIS BELOW
LEFT, RIGHT ARROW ABOVE, RIGHT ARROW BELOW, TACK BELOW;
COMBINING LIGATURE: LEFT HALF, LEFT HALF BELOW, RIGHT HALF, RIGHT HALF BELOW;
COMBINING LONG: DOUBLE SOLIDUS OVERLAY, SOLIDUS OVERLAY, STROKE OVERLAY, VERTICAL LINE OVERLAY;
COMBINING MACRON: ., BELOW, LEFT HALF, LEFT HALF BELOW, RIGHT HALF, RIGHT HALF BELOW;
COMBINING OLD PERMIC LETTER: AN, DOI, NENOE, SII, ZATA;
COMBINING PARENTHESES: ABOVE, BELOW, OVERLAY;
COMBINING RIGHT: ARROW ABOVE, ARROW BELOW, HALF RING ABOVE, HALF RING BELOW, HARPOON ABOVE,
PARENTHESIS ABOVE RIGHT, PARENTHESIS BELOW RIGHT, TACK BELOW;
COMBINING RIGHT ARROWHEAD: ABOVE, AND DOWN ARROWHEAD BELOW, AND UP ARROWHEAD BELOW, BELOW;
COMBINING TILDE: ., BELOW, LEFT HALF BELOW, OVERLAY, RIGHT HALF BELOW;
COMBINING TRIPLE: ACUTE ACCENT, DOT, UNDERDOT;
COMBINING VERTICAL: LINE ABOVE, LINE BELOW, TILDE;
COMMERCIAL: AT, MINUS SIGN;
CONSTRUCTION: SIGN, WORKER;
CONTAINS AS NORMAL SUBGROUP: ., OR EQUAL TO;
CONTAINS WITH: LONG HORIZONTAL STROKE, OVERBAR, VERTICAL BAR AT END OF HORIZONTAL STROKE;
CONTROL: KNOBS, SEQUENCE INTRODUCER;
COPTIC: EPACT THOUSANDS MARK, FRACTION ONE HALF, FULL STOP, MORPHOLOGICAL DIVIDER;
COPTIC CAPITAL LETTER: AKHMIMIC KHEI, ALFA, BOHAIRIC KHEI, CROSSED SHEI, DALDA, DEI, EIE, FEI, FI,
GAMMA, GANGIA, HATE, HORI, IAUDA, KAPA, KHEI, KHI, KSI, L-SHAPED HA, LAULA, MI, NI, O, OOU, PI,
PSI, RO, SAMPI, SHEI, SHIMA, SIMA, SOU, TAU, THETHE, UA, VIDA, ZATA;
COPTIC CAPITAL LETTER CRYPTOGRAMMIC: EIE, GANGIA, NI, SHEI;
COPTIC CAPITAL LETTER DIALECT-P: ALEF, HORI, KAPA, NI;
COPTIC CAPITAL LETTER OLD COPTIC: AIN, DJA, ESH, GANGIA, HA, HAT, HEI, HORI, OOU, SHEI, SHIMA;
COPTIC CAPITAL LETTER OLD NUBIAN: NGI, NYI, SHIMA, WAU;
COPTIC COMBINING: NI ABOVE, SPIRITUS ASPER, SPIRITUS LENIS;
COPTIC EPACT DIGIT: EIGHT, FIVE, FOUR, NINE, ONE, SEVEN, SIX, THREE, TWO;
COPTIC EPACT NUMBER: EIGHT HUNDRED, EIGHTY, FIFTY, FIVE HUNDRED, FORTY, FOUR HUNDRED, NINE
HUNDRED, NINETY, ONE HUNDRED, SEVEN HUNDRED, SEVENTY, SIX HUNDRED, SIXTY, TEN, THIRTY, THREE
HUNDRED, TWENTY, TWO HUNDRED;
COPTIC OLD NUBIAN: DIRECT QUESTION MARK, FULL STOP, INDIRECT QUESTION MARK, VERSE DIVIDER;
COPTIC SMALL LETTER: AKHMIMIC KHEI, ALFA, BOHAIRIC KHEI, CROSSED SHEI, DALDA, DEI, EIE, FEI, FI,
GAMMA, GANGIA, HATE, HORI, IAUDA, KAPA, KHEI, KHI, KSI, L-SHAPED HA, LAULA, MI, NI, O, OOU, PI,
PSI, RO, SAMPI, SHEI, SHIMA, SIMA, SOU, TAU, THETHE, UA, VIDA, ZATA;
COPTIC SMALL LETTER CRYPTOGRAMMIC: EIE, GANGIA, NI, SHEI;
COPTIC SMALL LETTER DIALECT-P: ALEF, HORI, KAPA, NI;
COPTIC SMALL LETTER OLD COPTIC: AIN, DJA, ESH, GANGIA, HA, HAT, HEI, HORI, OOU, SHEI, SHIMA;
COPTIC SMALL LETTER OLD NUBIAN: NGI, NYI, SHIMA, WAU;
COPTIC SYMBOL: KAI, KHI RO, MI RO, PI RO, SHIMA SIMA, STAUROS, TAU RO;
COUNTING ROD TENS DIGIT: EIGHT, FIVE, FOUR, NINE, ONE, SEVEN, SIX, THREE, TWO;
COUNTING ROD UNIT DIGIT: EIGHT, FIVE, FOUR, NINE, ONE, SEVEN, SIX, THREE, TWO;
COW: ., FACE;
CRICKET: ., BAT AND BALL;
CROSS: MARK, OF JERUSALEM, OF LORRAINE, POMMEE, POMMEE WITH HALF-CIRCLE BELOW;
CROSS PATTY WITH: LEFT CROSSBAR, RIGHT CROSSBAR;
CROSSED: FLAGS, NEGATIVE SQUARED LATIN CAPITAL LETTER P, SWORDS;
CRYING: CAT FACE, FACE;
CUNEIFORM NUMERIC SIGN: ELAMITE FIFTY, ELAMITE FORTY, ELAMITE ONE THIRD, ELAMITE TWO THIRDS,
NIGIDAESH, NIGIDAMIN, NINE ASH, NINE DISH, NINE GESH2, NINE SHAR2, NINE U, NINE U VARIANT FORM,
OLD ASSYRIAN ONE QUARTER, OLD ASSYRIAN ONE SIXTH, SHAR2 TIMES GAL PLUS DISH, SHAR2 TIMES GAL PLUS
MIN;
CUNEIFORM NUMERIC SIGN EIGHT: ASH, DISH, GESH2, SHAR2, U, U VARIANT FORM, VARIANT FORM USSU,
VARIANT FORM USSU3;
CUNEIFORM NUMERIC SIGN FIVE: ASH, ASH TENU, BAN2, BAN2 VARIANT FORM, BURU, DISH, GESH2, GESHU,
SHAR2, SHARU, SIXTHS DISH, U, U VARIANT FORM;
CUNEIFORM NUMERIC SIGN FOUR: ASH, ASH TENU, BAN2, BAN2 VARIANT FORM, BURU, DISH, GESH2, GESHU,
SHAR2, SHARU, U, U VARIANT FORM;
CUNEIFORM NUMERIC SIGN FOUR VARIANT FORM: LIMMU, LIMMU A, LIMMU B, LIMMU4;
CUNEIFORM NUMERIC SIGN NINE VARIANT FORM: ILIMMU, ILIMMU A, ILIMMU3, ILIMMU4;
CUNEIFORM NUMERIC SIGN ONE: BAN2, BURU, EIGHTH ASH, ESHE3, GESH2, GESHU, HALF GUR, QUARTER ASH,
QUARTER GUR, SHARU, THIRD DISH, THIRD VARIANT FORM A;
CUNEIFORM NUMERIC SIGN SEVEN: ASH, DISH, GESH2, SHAR2, U, U VARIANT FORM, VARIANT FORM IMIN A,
VARIANT FORM IMIN B, VARIANT FORM IMIN3;
CUNEIFORM NUMERIC SIGN SIX: ASH, ASH TENU, DISH, GESH2, SHAR2, U, U VARIANT FORM, VARIANT FORM
ASH9;
CUNEIFORM NUMERIC SIGN THREE: ASH, ASH TENU, BAN2, BURU, BURU VARIANT FORM, DISH, GESH2, GESHU,
SHAR2, SHAR2 VARIANT FORM, SHARU, SHARU VARIANT FORM, VARIANT FORM ESH16, VARIANT FORM ESH21;
CUNEIFORM NUMERIC SIGN TWO: ASH, ASH TENU, BAN2, BURU, ESHE3, GESH2, GESHU, SHAR2, SHARU, THIRDS
DISH, THIRDS VARIANT FORM A;
CUNEIFORM PUNCTUATION SIGN: DIAGONAL COLON, DIAGONAL QUADCOLON, DIAGONAL TRICOLON, OLD ASSYRIAN
WORD DIVIDER, VERTICAL COLON;
CUNEIFORM SIGN: A, A2, AB, AB GUNU, AB2, AD, AD TIMES ESH2, AK, AK TIMES ERIN2, AK TIMES SHITA
PLUS GISH, AL, ALAN, ALEPH, AMAR, AMAR TIMES KUG, AMAR TIMES SHE, AN, AN OVER AN, AN PLUS NAGA
OPPOSING AN PLUS NAGA, AN PLUS NAGA SQUARED, AN THREE TIMES, ANSHE, APIN, ARAD, ARAD TIMES KUR,
ARKAB, ASAL2, ASH, ASH KABA TENU, ASH ZIDA TENU, ASH2, ASHGAB, BA, BAD, BAD TIMES DISH TENU, BAG3,
BAHAR2, BAL, BAL OVER BAL, BALAG, BAR, BARA2, BI, BU, BU CROSSING BU, BULUG, BULUG OVER BULUG,
BUR, BUR2, DA, DA TIMES TAK4, DAG, DAG TIMES KUR, DAG3, DAM, DAR, DARA3, DARA4, DI, DIB, DIM,
DIM2, DIM2 TIMES UD, DIN, DIN KASKAL U GUNU DISH, DISH, DISH PLUS SHU, DU, DU GUNU, DU OVER DU, DU
SHESHIG, DUB, DUB TIMES ESH2, DUB TIMES SHE, DUB2, DUG, DUGUD, DUH, DUN, DUN3, DUN3 GUNU, DUN3
GUNU GUNU, DUN4, DUR2, E, E OVER E NUN OVER NUN, E TIMES PAP, E2, EDIN, EGIR, EL, EN, EN CROSSING
EN, EN OPPOSING EN, EN SQUARED, EREN, ERIN2, ERIN2 X, ESH2, ESH2 CROSSING ESH2, EZEN, GA, GA GUNU,
GA2, GA2 OVER GA2, GABA, GABA CROSSING GABA, GABA ROTATED NINETY DEGREES, GAD, GAD OVER GAD GAR
OVER GAR, GAL, GAL GAD OVER GAD GAR OVER GAR, GALAM, GAM, GAN, GAN2, GAN2 CROSSING GAN2, GAN2 OVER
GAN2, GAN2 TENU, GAR, GAR3, GASHAN, GE22, GESHTIN, GESHTIN TIMES KUR, GESHTIN TIMES U, GI, GI
CROSSING GI, GI TIMES E, GI TIMES U, GI4, GI4 CROSSING GI4, GI4 OVER GI4, GIDIM, GIG, GIR2, GIR2
GUNU, GIR3, GISAL, GU, GU CROSSING GU, GU2, GU2 GUNU, GUD, GUD OVER GUD LUGAL, GUD PLUS GISH TIMES
TAK4, GUD TIMES A PLUS KUR, GUD TIMES KUR, GUL, GUM, GUM TIMES SHE, GUR, GUR7, GURUN, GURUSH, HA,
HA GUNU, HA TENU, HA TENU GUNU, HAL, HI, HU, HUB2, HUL2, HUSH, I, I A, IB, IDIM, IDIM OVER IDIM
BUR, IDIM OVER IDIM SQUARED, IG, IGI, IGI DIB, IGI GUNU, IGI OVER IGI SHIR OVER SHIR UD OVER UD,
IGI RI, IL, IL TIMES GAN2 TENU, IL2, IM, IM CROSSING IM, IM OPPOSING IM, IM SQUARED, IM TIMES
TAK4, IMIN, IN, IR, ISH, KA, KA2, KA2 CROSSING KA2, KAB, KAD2, KAD3, KAD4, KAD5, KAD5 OVER KAD5,
KAK, KAK TIMES IGI GUNU, KAL, KAL CROSSING KAL, KAL TIMES BAD, KAM2, KAM4, KAP ELAMITE, KASKAL,
KASKAL LAGAB TIMES U OVER LAGAB TIMES U, KASKAL OVER KASKAL LAGAB TIMES U OVER LAGAB TIMES U,
KESH2, KI, KID, KIN, KISAL, KISH, KISIM5, KISIM5 OVER KISIM5, KU, KU OVER HI TIMES ASH2 KU OVER HI
TIMES ASH2, KU3, KU4, KU4 VARIANT FORM, KU7, KUL, KUL GUNU, KUN, KUR, KUR OPPOSING KUR, KUSHU2,
KWU318, LA, LAGAB, LAGAB SQUARED, LAHSHU, LAK-003, LAK-021, LAK-025, LAK-030, LAK-050, LAK-051,
LAK-062, LAK-079 OVER LAK-079 GUNU, LAK-080, LAK-081 OVER LAK-081, LAK-092, LAK-130, LAK-142,
LAK-210, LAK-219, LAK-220, LAK-225, LAK-228, LAK-238, LAK-265, LAK-266, LAK-343, LAK-347, LAK-348,
LAK-383, LAK-384, LAK-390, LAK-441, LAK-449, LAK-450, LAK-457, LAK-470, LAK-483, LAK-490, LAK-492,
LAK-493, LAK-495, LAK-550, LAK-608, LAK-617, LAK-636, LAK-648, LAK-724, LAK-749, LAL, LAL TIMES
LAL, LAM, LAM TIMES KUR, LAM TIMES KUR PLUS RU, LI, LIL, LIMMU2, LISH, LU, LU TIMES BAD, LU3,
LUGAL, LUGAL OPPOSING LUGAL, LUGAL OVER LUGAL, LUGAL SHESHIG, LUH, LUL, LUM, LUM OVER LUM, LUM
OVER LUM GAR OVER GAR, MA, MA GUNU, MA TIMES TAK4, MA2, MAH, MAR, MASH, MASH2, ME, MES, MESH, MI,
MI PLUS ZA7, MIN, MU, MU OVER MU, MUG, MUG GUNU, MUNSUB, MURGU2, MUSH, MUSH CROSSING MUSH, MUSH3,
MUSH3 GUNU, NA, NA2, NA4, NAGA, NAGA INVERTED, NAGA OPPOSING NAGA, NAGA TIMES SHU TENU, NAGAR,
NAM, NAM NUTILLU, NAM2, NE, NE SHESHIG, NE TIMES A, NE TIMES UD, NI, NI TIMES E, NI2, NIM, NIM
TIMES GAN2 TENU, NIM TIMES GAR PLUS GAN2 TENU, NIN, NIN9, NINDA2, NISAG, NU, NU11, NU11 OVER NU11
BUR OVER BUR, NU11 ROTATED NINETY DEGREES, NU11 TENU, NUN, NUN CROSSING NUN, NUN CROSSING NUN
LAGAR OVER LAGAR, NUN OVER NUN, NUN TENU, NUNUZ, PA, PAD, PAN, PAP, PESH2, PESH2 ASTERISK, PI, PI
CROSSING PI, PIR2, PIRIG, PIRIG OPPOSING PIRIG, RA, RAB, RI, RU, SA, SAG, SAG GUNU, SAG GUNU TIMES
HA, SAG NUTILLU, SAG OVER SAG, SAL, SAL LAGAB TIMES ASH2, SANGA2, SAR, SHA, SHA3, SHA6, SHA6 TENU,
SHAB6, SHAR2, SHEG9, SHEN, SHESH, SHESH2, SHESHLAM, SHID, SHID TIMES A, SHID TIMES IM, SHIM,
SHINIG, SHIR, SHIR OVER SHIR BUR OVER BUR, SHIR TENU, SHITA, SHU, SHU OVER INVERTED SHU, SHU2,
SHU2 PLUS DUG TIMES NI, SHU2 PLUS E2 TIMES AN, SHUBUR, SI, SI GUNU, SI TIMES TAK4, SIG, SIG4, SIG4
OVER SIG4 SHU2, SIK2, SILA3, SU, SU OVER SU, SUD, SUD2, SUHUR, SUM, SUMASH, SUR, SUR9, TA, TA
ASTERISK, TA GUNU, TA TIMES HI, TA TIMES MI, TAB, TAB OVER TAB NI OVER NI DISH OVER DISH, TAB
SQUARED, TAG, TAK4, TAK4 PLUS SAG, TAR, TE, TE GUNU, TI, TI TENU, TI2, TIL, TIR, TIR OVER TIR, TIR
OVER TIR GAD OVER GAD GAR OVER GAR, TIR TIMES TAK4, TU, TUG2, TUK, TUM, TUM TIMES GAN2 TENU, TUM
TIMES THREE DISH, TUR, TUR OVER TUR ZA OVER ZA, U, U GUD, U U, U U U, U2, UB, UD, UD GUNU, UD
KUSHU2, UD SHESHIG, UD SHESHIG TIMES BAD, UDUG, UM, UMBIN, UMUM, UMUM TIMES KASKAL, UMUM TIMES PA,
UN, UN GUNU, UR, UR CROSSING UR, UR SHESHIG, UR2, UR2 INVERTED, UR4, URI, URI3, URU, URUDA, URUDA
TIMES U, USH, USH2, USHUMX, USHX, UTUKI, UZ3, UZ3 TIMES KASKAL, UZU, ZA, ZA SQUARED TIMES KUR, ZA
TENU, ZA7, ZAG, ZAMX, ZE2, ZI, ZI OVER ZI, ZI3, ZIB, ZIB KABA TENU, ZIG, ZIZ2, ZU, ZU OVER ZU PLUS
SAR, ZU5, ZU5 TIMES A, ZU5 TIMES THREE DISH TENU, ZUBUR, ZUM;
CUNEIFORM SIGN A TIMES: A, BAD, GAN2 TENU, HA, IGI, LAGAR GUNU, MUSH, SAG;
CUNEIFORM SIGN AB TIMES: ASH2, DUN3 GUNU, GAL, GAN2 TENU, HA, IGI GUNU, IMIN, LAGAB, NUN, NUN
TENU, SHESH, SHU2, U PLUS U PLUS U;
CUNEIFORM SIGN AB2 TIMES: A, BALAG, GAN2 TENU, ME PLUS EN, SHA3, TAK4;
CUNEIFORM SIGN AL TIMES: AL, DIM2, GISH, HA, KAD3, KI, SHE, USH;
CUNEIFORM SIGN ASH OVER ASH: OVER ASH, OVER ASH CROSSING ASH OVER ASH OVER ASH, TUG2 OVER TUG2
TUG2 OVER TUG2 PAP;
CUNEIFORM SIGN BAHAR2 TIMES: AB2, NI, ZA;
CUNEIFORM SIGN BI TIMES: A, GAR, IGI GUNU;
CUNEIFORM SIGN BU OVER BU: AB, TIMES NA2, UN;
CUNEIFORM SIGN DAG KISIM5 TIMES: A PLUS MASH, AMAR, BALAG, BI, GA, GA PLUS MASH, GI, GIR2, GUD,
HA, IR, IR PLUS LU, KAK, LA, LU, LU PLUS MASH2, LUM, NE, PAP PLUS PAP, SI, TAK4, U2 PLUS GIR2, U2
PLUS MASH, USH;
CUNEIFORM SIGN DIM TIMES: IGI, SHE, U U U;
CUNEIFORM SIGN DUG TIMES: ANSHE, ASH, ASH AT LEFT, DIN, DUN, ERIN2, GA, GI, GIR2 GUNU, GISH, HA,
HI, IGI GUNU, KASKAL, KUR, KUSHU2, KUSHU2 PLUS KASKAL, LAK-020, LAM, LAM TIMES KUR, LUH PLUS GISH,
MASH, MES, MI, NI, PI, SHE, SI GUNU;
CUNEIFORM SIGN E2 TIMES: A PLUS HA PLUS DA, GAR, KUR, MI, PAP, SAL, SHE, U;
CUNEIFORM SIGN EN TIMES: GAN2, GAN2 TENU, ME;
CUNEIFORM SIGN EZEN SHESHIG TIMES: ASH, HI, IGI GUNU, LA, LAL, ME, MES, SU;
CUNEIFORM SIGN EZEN TIMES: A, A PLUS LAL, A PLUS LAL TIMES LAL, AN, BAD, DUN3 GUNU, DUN3 GUNU
GUNU, GUD, HA, HA GUNU, IGI GUNU, KASKAL, KASKAL SQUARED, KU3, LA, LAL TIMES LAL, LI, LU, SHE, SU,
U2, UD;
CUNEIFORM SIGN GA2 TIMES: A PLUS DA PLUS HA, A PLUS HA, A PLUS IGI, AB2 TENU PLUS TAB, AN, AN PLUS
KAK PLUS A, ASH, ASH2, ASH2 PLUS GAL, BAD, BAHAR2, BAR PLUS RA, BUR, BUR PLUS RA, DA, DI, DIM
GUNU, DIM TIMES SHE, DUB, DUG TIMES IGI GUNU, DUG TIMES KASKAL, EL, EL PLUS LA, EN, EN TIMES GAN2
TENU, EREN, GA, GAN2 TENU, GAR, GAR PLUS DI, GAR PLUS NE, GI, GI4, GI4 PLUS A, GIR2 PLUS SU, HA
PLUS A, HA PLUS LU PLUS ESH2, HAL, HAL PLUS LA, HI PLUS LI, HUB2, IGI GUNU, ISH PLUS HU PLUS ASH,
KAK, KASKAL, KID, KID PLUS LAL, KU3 PLUS AN, KUSHU2 PLUS KASKAL, LA, LAM, LAM TIMES KUR, LUH, ME
PLUS EN, MI, MUSH, NE, NE PLUS E2, NE PLUS GI, NUN, NUN OVER NUN, PA, SAL, SAR, SHE, SHE PLUS TUR,
SHID, SHIM, SUM, TAK4, U, UD, UD PLUS DU, ZIZ2;
CUNEIFORM SIGN GIR3 TIMES: A PLUS IGI, GAN2 TENU, IGI, LU PLUS IGI, PA;
CUNEIFORM SIGN GISH: ., CROSSING GISH, TENU, TIMES BAD, TIMES GISH CROSSING GISH, TIMES TAK4;
CUNEIFORM SIGN GU2 TIMES: IGI GUNU, KAK, KAK TIMES IGI GUNU, NUN, SAL PLUS TUG2;
CUNEIFORM SIGN HI TIMES: ASH, ASH OVER HI TIMES ASH, ASH2, BAD, DISH, GAD, KIN, NUN, SHE, U;
CUNEIFORM SIGN HUB2 TIMES: AN, HAL, KASKAL, LISH, UD;
CUNEIFORM SIGN KA TIMES: A, AD, AD PLUS KU3, ANSHE, ASH2, ASH3, BAD, BALAG, BAR, BI, BU, ERIN2,
ESH2, GA, GAL, GAN2 TENU, GAR, GAR PLUS SHA3 PLUS A, GI, GIR2, GISH, GISH CROSSING GISH, GISH PLUS
SAR, GU, GUD, GUR7, HI TIMES ASH2, IGI, IM, KA, KAK, KI, KID, LI, LU, LUM, ME, ME PLUS DU, ME PLUS
GI, ME PLUS TE, MI, MI PLUS NUNUZ, NE, NUN, PA, PI, RU, SA, SAR, SHA, SHE, SHID, SHU, SHUL, SIG,
SUHUR, TAR, TU, U, U U U, U2, UD, UMUM TIMES PA, UR, UR2, USH, ZI;
CUNEIFORM SIGN KI TIMES: BAD, U, UD;
CUNEIFORM SIGN LAGAB TIMES: A, A PLUS DA PLUS HA, A PLUS GAR, A PLUS LAL, AL, AN, ASH ZIDA TENU,
BAD, BI, DAR, EN, GA, GAR, GI, GUD, GUD PLUS GUD, HA, HAL, HI TIMES NUN, IGI GUNU, IM, IM PLUS HA,
IM PLUS LU, KI, KIN, KU3, KUL, KUL PLUS HI PLUS A, LAGAB, LISH, LU, LUL, ME, ME PLUS EN, MUSH, NE,
SHE PLUS SUM, SHITA PLUS GISH PLUS ERIN2, SHITA PLUS GISH TENU, SHU2, SHU2 PLUS SHU2, SUM, TAG,
TAK4, TE PLUS A PLUS SU PLUS NA, U, U PLUS A, U PLUS U PLUS U, U2 PLUS ASH, UD, USH, ZU OVER ZU;
CUNEIFORM SIGN LAGAR: ., GUNU, GUNU OVER LAGAR GUNU SHE, TIMES SHE, TIMES SHE PLUS SUM;
CUNEIFORM SIGN LAK-449 TIMES: GU, IGI, PAP PLUS LU3, PAP PLUS PAP PLUS LU3, U2 PLUS BA;
CUNEIFORM SIGN LAK-617 TIMES: ASH, BAD, DUN3 GUNU GUNU, KU3, LA, TAR, TE, U2, UD, URUDA;
CUNEIFORM SIGN LAK-648 TIMES: DUB, GA, IGI, IGI GUNU, NI, PAP PLUS PAP PLUS LU3, SHESH PLUS KI,
UD, URUDA;
CUNEIFORM SIGN LU2: ., CROSSING LU2, GUNU TIMES ASH, OPPOSING LU2, SHESHIG, SHESHIG TIMES BAD,
SQUARED, TENU;
CUNEIFORM SIGN LU2 TIMES: AL, BAD, DISH, ESH2, ESH2 PLUS LAL, ESH2 TENU, GAN2 TENU, HAL, HI TIMES
BAD, IM, KAD2, KAD3, KAD3 PLUS ASH, KI, LA PLUS ASH, LAGAB, ME PLUS EN, NE, NU, PAP, PAP PLUS PAP
PLUS LU3, SHU, SI PLUS ASH, SIK2 PLUS BU, TAK4, TUG2;
CUNEIFORM SIGN MUSH OVER MUSH: ., TIMES A PLUS NA, TIMES GA, TIMES KAK;
CUNEIFORM SIGN MUSH TIMES: A, KUR, ZA;
CUNEIFORM SIGN MUSH3 TIMES: A, A PLUS DI, DI, ZA;
CUNEIFORM SIGN NINDA2 TIMES: AN, ASH, ASH PLUS ASH, BAL, DIM GUNU, GI, GISH, GUD, GUL, HI, KESH2,
LAK-050, MASH, ME PLUS GAN2 TENU, NE, NUN, PAP PLUS PAP, SHE, SHE PLUS A AN, SHE PLUS ASH, SHE
PLUS ASH PLUS ASH, U, U PLUS U, U2 PLUS ASH, URUDA, USH;
CUNEIFORM SIGN NUN LAGAR TIMES: GAR, MASH, SAL, SAL OVER NUN LAGAR TIMES SAL, USH;
CUNEIFORM SIGN NUNUZ AB2 TIMES: ASHGAB, BI, DUG, GUD, IGI GUNU, KAD3, LA, NE, SILA3, U2;
CUNEIFORM SIGN NUNUZ KISIM5 TIMES BI: ., U;
CUNEIFORM SIGN PI TIMES: A, AB, BI, BU, E, I, IB, U, U2;
CUNEIFORM SIGN PIRIG TIMES: KAL, UD, ZA;
CUNEIFORM SIGN SAG TIMES: A, DU, DUB, EN, HA, IGI GUNU, KAK, KUR, LUM, MI, NUN, SAL, SHE AT LEFT,
SHID, TAB, TAK4, U2, UB, UM, UR, USH;
CUNEIFORM SIGN SHA3 TIMES: A, BAD, GISH, NE, SHU2, TUR, U, U PLUS A;
CUNEIFORM SIGN SHE: ., HU, OVER SHE, OVER SHE GAD OVER GAD GAR OVER GAR, OVER SHE TAB OVER TAB GAR
OVER GAR, PLUS HUB2, PLUS NAM2, PLUS SAR;
CUNEIFORM SIGN SHIM TIMES: A, BAL, BULUG, DIN, GAR, IGI, IGI GUNU, KUSHU2, LUL, MUG, SAL;
CUNEIFORM SIGN TAG TIMES: BI, GUD, SHE, SHU, TUG2, UD;
CUNEIFORM SIGN U OVER U: PA OVER PA GAR OVER GAR, SUR OVER SUR, U REVERSED OVER U REVERSED;
CUNEIFORM SIGN UD TIMES: BAD, MI, U PLUS U PLUS U, U PLUS U PLUS U GUNU;
CUNEIFORM SIGN UM TIMES: LAGAB, ME, ME PLUS DA, SHA3, U;
CUNEIFORM SIGN UR2 TIMES: A PLUS HA, A PLUS NA, AL, HA, NUN, U2, U2 PLUS ASH, U2 PLUS BI, UD;
CUNEIFORM SIGN URU TIMES: A, ASHGAB, BAR, DARA3, DUN, GA, GAL, GAN2 TENU, GAR, GU, HA, IGI, IM,
ISH, KI, LAK-668, LU3, LUM, MIN, PA, SHE, SIG4, TU, U PLUS GUD, UD, URUDA;
CUNEIFORM SIGN USH TIMES: A, KU, KUR, TAK4;
CUP: ON BLACK SQUARE, WITH STRAW;
CURLY: BRACKET EXTENSION, LOGICAL AND, LOGICAL OR, LOOP;
CURRENCY: EXCHANGE, SIGN;
CYPRIOT SYLLABLE: A, E, I, JA, JO, KA, KE, KI, KO, KU, LA, LE, LI, LO, LU, MA, ME, MI, MO, MU, NA,
NE, NI, NO, NU, O, PA, PE, PI, PO, PU, RA, RE, RI, RO, RU, SA, SE, SI, SO, SU, TA, TE, TI, TO, TU,
U, WA, WE, WI, WO, XA, XE, ZA, ZO;
CYPRO-MINOAN SIGN: CM001, CM002, CM004, CM005, CM006, CM007, CM008, CM009, CM010, CM011, CM012,
CM012B, CM013, CM015, CM017, CM019, CM021, CM023, CM024, CM025, CM026, CM027, CM028, CM029, CM030,
CM033, CM034, CM035, CM036, CM037, CM038, CM039, CM040, CM041, CM044, CM046, CM047, CM049, CM050,
CM051, CM052, CM053, CM054, CM055, CM056, CM058, CM059, CM060, CM061, CM062, CM063, CM064, CM066,
CM067, CM068, CM069, CM070, CM071, CM072, CM073, CM074, CM075, CM075B, CM076, CM078, CM079, CM080,
CM081, CM082, CM083, CM084, CM085, CM086, CM087, CM088, CM089, CM090, CM091, CM092, CM094, CM095,
CM096, CM097, CM098, CM099, CM100, CM101, CM102, CM103, CM104, CM105, CM107, CM108, CM109, CM110,
CM112, CM114, CM301, CM302;
CYRILLIC: KAVYKA, PAYEROK, THOUSANDS SIGN;
CYRILLIC CAPITAL LETTER: A, A WITH BREVE, A WITH DIAERESIS, ALEUT KA, BARRED O, BARRED O WITH
DIAERESIS, BASHKIR KA, BE, BIG YUS, BINOCULAR O, BLENDED YUS, BROAD OMEGA, BYELORUSSIAN-UKRAINIAN
I, CCHE, CHE, CHE WITH DESCENDER, CHE WITH DIAERESIS, CHE WITH VERTICAL STROKE, CLOSED LITTLE YUS,
CROSSED O, DCHE, DE, DJE, DJERV, DOUBLE MONOCULAR O, DOUBLE O, DWE, DZE, DZELO, DZHE, DZWE, DZZE,
DZZHE, E, E WITH DIAERESIS, EF, EL, EL WITH DESCENDER, EL WITH HOOK, EL WITH MIDDLE HOOK, EL WITH
TAIL, EM, EM WITH TAIL, EN, ER, ER WITH TICK, ES, ES WITH DESCENDER, FITA, GHE, GJE, HA, HA WITH
DESCENDER, HA WITH HOOK, HA WITH STROKE, HARD SIGN, HWE, I, I WITH DIAERESIS, I WITH GRAVE, I WITH
MACRON, IE, IE WITH BREVE, IE WITH GRAVE, IO, IOTA, IZHITSA, IZHITSA WITH DOUBLE GRAVE ACCENT, JE,
KA, KA WITH DESCENDER, KA WITH HOOK, KA WITH STROKE, KA WITH VERTICAL STROKE, KHAKASSIAN CHE, KJE,
KOPPA, KSI, LHA, LITTLE YUS, LJE, MONOCULAR O, MONOGRAPH UK, NEUTRAL YER, NJE, O, O WITH
DIAERESIS, OMEGA, OMEGA WITH TITLO, OT, PE, PE WITH DESCENDER, PE WITH MIDDLE HOOK, PSI, QA, RHA,
ROUND OMEGA, SCHWA, SCHWA WITH DIAERESIS, SEMISOFT SIGN, SHA, SHCHA, SHHA, SHHA WITH DESCENDER,
SHORT I, SHORT I WITH TAIL, SHORT U, SHWE, SOFT DE, SOFT EL, SOFT EM, SOFT SIGN, STRAIGHT U,
STRAIGHT U WITH STROKE, TCHE, TE, TE WITH DESCENDER, TE WITH MIDDLE HOOK, TSE, TSHE, TSSE, TSWE,
TWE, U, U WITH DIAERESIS, U WITH DOUBLE ACUTE, U WITH MACRON, UK, UKRAINIAN IE, VE, WE, YA, YAE,
YAT, YERU, YERU WITH BACK YER, YERU WITH DIAERESIS, YI, YN, YU, ZE, ZE WITH DESCENDER, ZE WITH
DIAERESIS, ZEMLYA, ZHE, ZHE WITH BREVE, ZHE WITH DESCENDER, ZHE WITH DIAERESIS, ZHWE;
CYRILLIC CAPITAL LETTER ABKHASIAN: CHE, CHE WITH DESCENDER, DZE, HA;
CYRILLIC CAPITAL LETTER EN WITH: DESCENDER, HOOK, LEFT HOOK, MIDDLE HOOK, TAIL;
CYRILLIC CAPITAL LETTER GHE WITH: DESCENDER, MIDDLE HOOK, STROKE, STROKE AND HOOK, UPTURN;
CYRILLIC CAPITAL LETTER IOTIFIED: A, BIG YUS, CLOSED LITTLE YUS, E, LITTLE YUS, YAT;
CYRILLIC CAPITAL LETTER KOMI: DE, DJE, DZJE, LJE, NJE, SJE, TJE, ZJE;
CYRILLIC CAPITAL LETTER REVERSED: DZE, TSE, YU, ZE;
CYRILLIC CAPITAL LIGATURE: A IE, EN GHE, TE TSE;
CYRILLIC LETTER: MULTIOCULAR O, PALOCHKA, SMALL CAPITAL EL;
CYRILLIC SMALL LETTER: A, A WITH BREVE, A WITH DIAERESIS, ALEUT KA, BARRED O, BARRED O WITH
DIAERESIS, BASHKIR KA, BE, BIG YUS, BINOCULAR O, BLENDED YUS, BROAD OMEGA, BYELORUSSIAN-UKRAINIAN
I, CCHE, CHE, CHE WITH DESCENDER, CHE WITH DIAERESIS, CHE WITH VERTICAL STROKE, CLOSED LITTLE YUS,
CROSSED O, DCHE, DE, DJE, DJERV, DOUBLE MONOCULAR O, DOUBLE O, DWE, DZE, DZELO, DZHE, DZWE, DZZE,
DZZHE, E, E WITH DIAERESIS, EF, EL, EL WITH DESCENDER, EL WITH HOOK, EL WITH MIDDLE HOOK, EL WITH
TAIL, EM, EM WITH TAIL, EN, ER, ER WITH TICK, ES, ES WITH DESCENDER, FITA, GHE, GJE, HA, HA WITH
DESCENDER, HA WITH HOOK, HA WITH STROKE, HARD SIGN, HWE, I, I WITH DIAERESIS, I WITH GRAVE, I WITH
MACRON, IE, IE WITH BREVE, IE WITH GRAVE, IO, IOTA, IZHITSA, IZHITSA WITH DOUBLE GRAVE ACCENT, JE,
KA, KA WITH DESCENDER, KA WITH HOOK, KA WITH STROKE, KA WITH VERTICAL STROKE, KHAKASSIAN CHE, KJE,
KOPPA, KSI, LHA, LITTLE YUS, LJE, LONG-LEGGED DE, MONOCULAR O, MONOGRAPH UK, NARROW O, NEUTRAL
YER, NJE, O, O WITH DIAERESIS, OMEGA, OMEGA WITH TITLO, OT, PALOCHKA, PE, PE WITH DESCENDER, PE
WITH MIDDLE HOOK, PSI, QA, RHA, ROUND OMEGA, ROUNDED VE, SCHWA, SCHWA WITH DIAERESIS, SEMISOFT
SIGN, SHA, SHCHA, SHHA, SHHA WITH DESCENDER, SHORT I, SHORT I WITH TAIL, SHORT U, SHWE, SOFT DE,
SOFT EL, SOFT EM, SOFT SIGN, STRAIGHT U, STRAIGHT U WITH STROKE, TALL HARD SIGN, TALL TE, TALL
YAT, TCHE, TE, TE WITH DESCENDER, TE WITH MIDDLE HOOK, THREE-LEGGED TE, TSE, TSHE, TSSE, TSWE,
TWE, U, U WITH DIAERESIS, U WITH DOUBLE ACUTE, U WITH MACRON, UK, UKRAINIAN IE, UNBLENDED UK, VE,
WE, WIDE ES, YA, YAE, YAT, YERU, YERU WITH BACK YER, YERU WITH DIAERESIS, YI, YN, YU, ZE, ZE WITH
DESCENDER, ZE WITH DIAERESIS, ZEMLYA, ZHE, ZHE WITH BREVE, ZHE WITH DESCENDER, ZHE WITH DIAERESIS,
ZHWE;
CYRILLIC SMALL LETTER ABKHASIAN: CHE, CHE WITH DESCENDER, DZE, HA;
CYRILLIC SMALL LETTER EN WITH: DESCENDER, HOOK, LEFT HOOK, MIDDLE HOOK, TAIL;
CYRILLIC SMALL LETTER GHE WITH: DESCENDER, MIDDLE HOOK, STROKE, STROKE AND HOOK, UPTURN;
CYRILLIC SMALL LETTER IOTIFIED: A, BIG YUS, CLOSED LITTLE YUS, E, LITTLE YUS, YAT;
CYRILLIC SMALL LETTER KOMI: DE, DJE, DZJE, LJE, NJE, SJE, TJE, ZJE;
CYRILLIC SMALL LETTER REVERSED: DZE, TSE, YU, ZE;
CYRILLIC SMALL LIGATURE: A IE, EN GHE, TE TSE"

end OperationClasses.Text.CharacterNames
