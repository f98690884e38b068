/-!
# Names of characters: A to B

The names of characters that begin with A to B. A row gives the words that names have in common, and then
what follows them in each; a point stands for nothing.
-/
namespace OperationClasses.Text.CharacterNames

/-- The rows of names that begin with A to B. -/
def rowsAtoB : String := "
: ABACUS, AC CURRENT, ACCORDION, ACCOUNT OF, ACK, ACKNOWLEDGE, ADDRESSED TO THE SUBJECT, ADHESIVE
BANDAGE, ADI SHAKTI, ADMETOS, ADMISSION TICKETS, ADULT, AERIAL TRAMWAY, AFGHANI SIGN, AHOM SYMBOL
VI, AKTIESELSKAB, ALARM CLOCK, ALEF SYMBOL, ALEMBIC, ALERT, ALIEN MONSTER, ALM, ALTERNATE ONE-WAY
LEFT WAY TRAFFIC, ALTERNATIVE KEY SYMBOL, AMALGAMATION OR COPRODUCT, AMBULANCE, AMERICAN FOOTBALL,
AMPERSAND, AMPHORA, ANATOMICAL HEART, ANCHOR, AND WITH DOT, ANGER SYMBOL, ANGLE, ANGRY FACE,
ANGSTROM SIGN, ANGUISHED FACE, ANKH, ANT, ANTENNA WITH BARS, APC, APOLLON, APOSTROPHE, APPLICATION
PROGRAM COMMAND, APPROACHES THE LIMIT, AQUARIUS, ARC, ARIES, ARROW POINTING UPWARDS THEN NORTH
WEST, ARROWHEAD-SHAPED POINTER, ARTICULATED LORRY, ARTIST PALETTE, ASCENDING NODE, ASCIA SYMBOL,
ASSERTION, ASTERISM, ASTONISHED FACE, ASTRAEA, ASTRONOMICAL SYMBOL FOR URANUS, ASYMPTOTICALLY
EQUAL TO, ATHLETIC SHOE, ATOM SYMBOL, AUBERGINE, AUSTRAL SIGN, AUTO RICKSHAW, AUTOMATED TELLER
MACHINE, AUTOMOBILE, AVESTAN ABBREVIATION MARK, AVOCADO, AXE, BACK-TILTED SHADOWED WHITE
RIGHTWARDS ARROW, BACKSPACE, BACON, BACTRIAN CAMEL, BADGER, BADMINTON RACQUET AND SHUTTLECOCK,
BAGEL, BAGGAGE CLAIM, BAGUETTE BREAD, BALL OF YARN, BALLET SHOES, BALLOON, BALLOON-SPOKED
ASTERISK, BANANA, BANJO, BANK, BARBER POLE, BASEBALL, BASKET, BASKETBALL AND HOOP, BASSA VAH FULL
STOP, BAT, BATH, BATHTUB, BATTERY, BEACH WITH UMBRELLA, BEANS, BEAR FACE, BEARDED PERSON, BEATING
HEART, BEAVER, BECAUSE, BED, BEER MUG, BEETLE, BEL, BELLHOP BELL, BENT ARROW POINTING DOWNWARDS
THEN NORTH EAST, BENTO BOX, BET SYMBOL, BETWEEN, BEVERAGE BOX, BICYCLE, BICYCLIST, BIKINI, BILLED
CAP, BILLIARDS, BIOHAZARD SIGN, BIRD, BIRTHDAY CAKE, BISON, BITCOIN SIGN, BITING LIP, BLANK
SYMBOL, BLOSSOM, BLOWFISH, BLUEBERRIES, BOAR, BOM, BOMB, BONE, BOOK, BOOKS, BOOMERANG, BOTTLE WITH
POPPING CORK, BOW AND ARROW, BOWLING, BOXING GLOVE, BOY, BOYS SYMBOL, BPH, BRAIN, BREAD, BREAK
PERMITTED HERE, BREAST-FEEDING, BREVE, BRICK, BRIDE WITH VEIL, BRIDGE AT NIGHT, BRIEFCASE, BRIEFS,
BROCCOLI, BROOM, BROWN HEART, BS, BUBBLE TEA, BUBBLES, BUCKET, BUG, BUILDING CONSTRUCTION,
BULLSEYE, BURRITO, BUST IN SILHOUETTE, BUSTS IN SILHOUETTE, BUTTER, BUTTERFLY, BYTE ORDER MARK;
ACTIVATE: ARABIC FORM SHAPING, SYMMETRIC SWAPPING;
ACUTE: ACCENT, ANGLE;
ADLAM: ALIF LENGTHENER, CONSONANT MODIFIER, GEMINATE CONSONANT MODIFIER, GEMINATION MARK, HAMZA,
INITIAL EXCLAMATION MARK, INITIAL QUESTION MARK, NASALIZATION MARK, NUKTA, VOWEL LENGTHENER;
ADLAM CAPITAL LETTER: ALIF, BA, BHE, CHI, DAALI, DHA, E, FA, GA, GBE, HA, I, JIIM, KAF, KHA, KPO,
LAAM, MIIM, NHA, NUN, NYA, O, PE, QAAF, RA, SHA, SINNYIIYHE, TU, U, VA, WAW, YA, YHE, ZAL;
ADLAM DIGIT: EIGHT, FIVE, FOUR, NINE, ONE, SEVEN, SIX, THREE, TWO, ZERO;
ADLAM SMALL LETTER: ALIF, BA, BHE, CHI, DAALI, DHA, E, FA, GA, GBE, HA, I, JIIM, KAF, KHA, KPO,
LAAM, MIIM, NHA, NUN, NYA, O, PE, QAAF, RA, SHA, SINNYIIYHE, TU, U, VA, WAW, YA, YHE, ZAL;
AEGEAN: CHECK MARK, DRY MEASURE FIRST SUBUNIT, LIQUID MEASURE FIRST SUBUNIT, MEASURE SECOND
SUBUNIT, MEASURE THIRD SUBUNIT;
AEGEAN NUMBER: EIGHT, EIGHT HUNDRED, EIGHT THOUSAND, EIGHTY, EIGHTY THOUSAND, FIFTY, FIFTY
THOUSAND, FIVE, FIVE HUNDRED, FIVE THOUSAND, FORTY, FORTY THOUSAND, FOUR, FOUR HUNDRED, FOUR
THOUSAND, NINE, NINE HUNDRED, NINE THOUSAND, NINETY, NINETY THOUSAND, ONE, ONE HUNDRED, ONE
THOUSAND, SEVEN, SEVEN HUNDRED, SEVEN THOUSAND, SEVENTY, SEVENTY THOUSAND, SIX, SIX HUNDRED, SIX
THOUSAND, SIXTY, SIXTY THOUSAND, TEN, TEN THOUSAND, THIRTY, THIRTY THOUSAND, THREE, THREE HUNDRED,
THREE THOUSAND, TWENTY, TWENTY THOUSAND, TWO, TWO HUNDRED, TWO THOUSAND;
AEGEAN WEIGHT: BASE UNIT, FIRST SUBUNIT, FOURTH SUBUNIT, SECOND SUBUNIT, THIRD SUBUNIT;
AEGEAN WORD SEPARATOR: DOT, LINE;
AHOM CONSONANT SIGN MEDIAL: LA, LIGATING RA, RA;
AHOM DIGIT: EIGHT, FIVE, FOUR, NINE, ONE, SEVEN, SIX, THREE, TWO, ZERO;
AHOM LETTER: A, BA, BHA, CA, CHA, DA, DDA, DDHA, DHA, GA, GHA, HA, JA, JHA, KA, KHA, LA, LLA, MA,
NA, NGA, NNA, NYA, PA, PHA, RA, SA, TA, THA, TTA, TTHA;
AHOM LETTER ALTERNATE: BA, GA, TA;
AHOM NUMBER: TEN, TWENTY;
AHOM SIGN: KILLER, RULAI, SECTION, SMALL SECTION;
AHOM VOWEL SIGN: A, AA, AI, AM, AW, E, I, II, O, U, UU;
AIRPLANE: ., ARRIVING, DEPARTURE;
ALCHEMICAL SYMBOL FOR: AIR, ALEMBIC, ALKALI, ALKALI-2, ALUM, AMALGAM, ANTIMONY ORE, AQUA REGIA,
AQUA REGIA-2, AQUA VITAE, AQUA VITAE-2, AQUAFORTIS, ARSENIC, ASHES, AURIPIGMENT, BATH OF MARY,
BATH OF VAPOURS, BISMUTH ORE, BLACK SULFUR, BORAX, BORAX-2, BORAX-3, BRICK, CADUCEUS, CALX, CAPUT
MORTUUM, CINNABAR, COPPER ANTIMONIATE, COPPER ORE, CROCUS OF COPPER, CROCUS OF COPPER-2, CROCUS OF
IRON, CRUCIBLE, CRUCIBLE-2, CRUCIBLE-3, CRUCIBLE-4, CRUCIBLE-5, DAY-NIGHT, DISSOLVE, DISSOLVE-2,
DISTILL, EARTH, FIRE, GOLD, GUM, HALF DRAM, HALF OUNCE, HORSE DUNG, HOUR, IRON ORE, IRON ORE-2,
IRON-COPPER ORE, LEAD ORE, LODESTONE, MARCASITE, MERCURY SUBLIMATE, MERCURY SUBLIMATE-2, MERCURY
SUBLIMATE-3, MONTH, NIGHT, NITRE, OIL, PHILOSOPHERS SULFUR, POT ASHES, POWDER, POWDERED BRICK,
PRECIPITATE, PURIFY, PUTREFACTION, QUICK LIME, QUINTESSENCE, REALGAR, REALGAR-2, REGULUS, REGULUS
OF ANTIMONY, REGULUS OF ANTIMONY-2, REGULUS OF IRON, REGULUS-2, REGULUS-3, REGULUS-4, RETORT, ROCK
SALT, ROCK SALT-2, SAL-AMMONIAC, SALT, SALT OF ANTIMONY, SALT OF COPPER ANTIMONIATE, SCEPTER OF
JOVE, SILVER, SOAP, SPIRIT, STARRED TRIDENT, STRATUM SUPER STRATUM, STRATUM SUPER STRATUM-2,
SUBLIMATION, SULFUR, TARTAR, TARTAR-2, TIN ORE, TINCTURE, TRIDENT, TUTTY, URINE, VERDIGRIS,
VINEGAR, VINEGAR OF ANTIMONY, VINEGAR-2, VINEGAR-3, VITRIOL, VITRIOL-2, WATER, WAX;
ALCHEMICAL SYMBOL FOR SUBLIMATE OF: ANTIMONY, COPPER, SALT OF ANTIMONY, SALT OF COPPER;
ALL: AROUND-PROFILE, EQUAL TO;
ALMOST EQUAL: OR EQUAL TO, TO, TO WITH CIRCUMFLEX ACCENT;
ANATOLIAN HIEROGLYPH: A001, A002, A003, A004, A005, A006, A007, A008, A009, A010, A010A, A011,
A012, A013, A014, A015, A016, A017, A018, A019, A020, A021, A022, A023, A024, A025, A026, A026A,
A027, A028, A029, A030, A031, A032, A033, A034, A035, A036, A037, A038, A039, A039A, A040, A041,
A041A, A042, A043, A044, A045, A045A, A046, A046A, A046B, A047, A048, A049, A050, A051, A052,
A053, A054, A055, A056, A057, A058, A059, A060, A061, A062, A063, A064, A065, A066, A066A, A066B,
A066C, A067, A068, A069, A070, A071, A072, A073, A074, A075, A076, A077, A078, A079, A080, A081,
A082, A083, A084, A085, A086, A087, A088, A089, A090, A091, A092, A093, A094, A095, A096, A097,
A097A, A098, A098A, A099, A100, A100A, A101, A101A, A102, A102A, A103, A104, A104A, A104B, A104C,
A105, A105A, A105B, A106, A107, A107A, A107B, A107C, A108, A109, A110, A110A, A110B, A111, A112,
A113, A114, A115, A115A, A116, A117, A118, A119, A120, A121, A122, A123, A124, A125, A125A, A126,
A127, A128, A129, A130, A131, A132, A133, A134, A135, A135A, A136, A137, A138, A139, A140, A141,
A142, A143, A144, A145, A146, A147, A148, A149, A150, A151, A152, A153, A154, A155, A156, A157,
A158, A159, A160, A161, A162, A163, A164, A165, A166, A167, A168, A169, A170, A171, A172, A173,
A174, A175, A176, A177, A178, A179, A180, A181, A182, A183, A184, A185, A186, A187, A188, A189,
A190, A191, A192, A193, A194, A195, A196, A197, A198, A199, A200, A201, A202, A202A, A202B, A203,
A204, A205, A206, A207, A207A, A208, A209, A209A, A210, A211, A212, A213, A214, A215, A215A, A216,
A216A, A217, A218, A219, A220, A221, A222, A223, A224, A225, A226, A227, A227A, A228, A229, A230,
A231, A232, A233, A234, A235, A236, A237, A238, A239, A240, A241, A242, A243, A244, A245, A246,
A247, A248, A249, A250, A251, A252, A253, A254, A255, A256, A257, A258, A259, A260, A261, A262,
A263, A264, A265, A266, A267, A267A, A268, A269, A270, A271, A272, A273, A274, A275, A276, A277,
A278, A279, A280, A281, A282, A283, A284, A285, A286, A287, A288, A289, A289A, A290, A291, A292,
A293, A294, A294A, A295, A296, A297, A298, A299, A299A, A300, A301, A302, A303, A304, A305, A306,
A307, A308, A309, A309A, A310, A311, A312, A313, A314, A315, A316, A317, A318, A319, A320, A321,
A322, A323, A324, A325, A326, A327, A328, A329, A329A, A330, A331, A332A, A332B, A332C, A333,
A334, A335, A336, A336A, A336B, A336C, A337, A338, A339, A340, A341, A342, A343, A344, A345, A346,
A347, A348, A349, A350, A351, A352, A353, A354, A355, A356, A357, A358, A359, A359A, A360, A361,
A362, A363, A364, A364A, A365, A366, A367, A368, A368A, A369, A370, A371, A371A, A372, A373, A374,
A375, A376, A377, A378, A379, A380, A381, A381A, A382, A383 RA OR RI, A383A, A384, A385, A386,
A386A, A387, A388, A389, A390, A391, A392, A393 EIGHT, A394, A395, A396, A397, A398, A399, A400,
A401, A402, A403, A404, A405, A406, A407, A408, A409, A410 BEGIN LOGOGRAM MARK, A410A END LOGOGRAM
MARK, A411, A412, A413, A414, A415, A416, A417, A418, A419, A420, A421, A422, A423, A424, A425,
A426, A427, A428, A429, A430, A431, A432, A433, A434, A435, A436, A437, A438, A439, A440, A441,
A442, A443, A444, A445, A446, A447, A448, A449, A450, A450A, A451, A452, A453, A454, A455, A456,
A457, A457A, A458, A459, A460, A461, A462, A463, A464, A465, A466, A467, A468, A469, A470, A471,
A472, A473, A474, A475, A476, A477, A478, A479, A480, A481, A482, A483, A484, A485, A486, A487,
A488, A489, A490, A491, A492, A493, A494, A495, A496, A497, A501, A502, A503, A504, A505, A506,
A507, A508, A509, A510, A511, A512, A513, A514, A515, A516, A517, A518, A519, A520, A521, A522,
A523, A524, A525, A526, A527, A528, A529, A530;
ANGLE WITH: S INSIDE, UNDERBAR;
ANTICLOCKWISE: CLOSED CIRCLE ARROW, CONTOUR INTEGRAL, DOWNWARDS AND UPWARDS OPEN CIRCLE ARROWS,
GAPPED CIRCLE ARROW, INTEGRATION, OPEN CIRCLE ARROW, TOP SEMICIRCLE ARROW;
ANTICLOCKWISE TRIANGLE-HEADED: BOTTOM U-SHAPED ARROW, LEFT U-SHAPED ARROW, OPEN CIRCLE ARROW,
RIGHT U-SHAPED ARROW, TOP U-SHAPED ARROW;
APL FUNCTIONAL SYMBOL: ALPHA, ALPHA UNDERBAR, BACKSLASH BAR, COMMA BAR, DEL DIAERESIS, DEL STILE,
DEL TILDE, DELTA STILE, DELTA UNDERBAR, DIAMOND UNDERBAR, DOWN CARET TILDE, DOWN SHOE STILE, DOWN
TACK JOT, DOWN TACK UNDERBAR, DOWNWARDS VANE, EPSILON UNDERBAR, GREATER-THAN DIAERESIS, I-BEAM,
IOTA, IOTA UNDERBAR, JOT DIAERESIS, JOT UNDERBAR, LEFT SHOE STILE, LEFTWARDS VANE, OMEGA, OMEGA
UNDERBAR, QUOTE QUAD, QUOTE UNDERBAR, RHO, RIGHTWARDS VANE, SEMICOLON UNDERBAR, SLASH BAR, SQUISH
QUAD, STAR DIAERESIS, STILE TILDE, TILDE DIAERESIS, UP CARET TILDE, UP SHOE JOT, UP TACK
DIAERESIS, UP TACK JOT, UP TACK OVERBAR, UPWARDS VANE, ZILDE;
APL FUNCTIONAL SYMBOL CIRCLE: BACKSLASH, DIAERESIS, JOT, STAR, STILE, UNDERBAR;
APL FUNCTIONAL SYMBOL QUAD: ., BACKSLASH, CIRCLE, COLON, DEL, DELTA, DIAMOND, DIVIDE, DOWN CARET,
DOWNWARDS ARROW, EQUAL, GREATER-THAN, JOT, LEFTWARDS ARROW, LESS-THAN, NOT EQUAL, QUESTION,
RIGHTWARDS ARROW, SLASH, UP CARET, UPWARDS ARROW;
APPROXIMATELY: BUT NOT ACTUALLY EQUAL TO, EQUAL OR EQUAL TO, EQUAL TO, EQUAL TO OR THE IMAGE OF;
ARABIC: BASELINE ROUND DOT, COMMA, DAMMATAN, DAMMATAN ISOLATED FORM, DATE SEPARATOR, DECIMAL
SEPARATOR, DISPUTED END OF AYAH, DOUBLED MADDA, END OF AYAH, END OF TEXT MARK, FATHATAN, FATHATAN
ISOLATED FORM, FIVE POINTED STAR, FOOTNOTE MARKER, FULL STOP, HALF MADDA OVER MADDA, HAMZA ABOVE,
HAMZA BELOW, INVERTED DAMMA, KASRATAN, KASRATAN ISOLATED FORM, LARGE CIRCLE BELOW, MADDA WAAJIB,
MADDAH ABOVE, MARK NOON GHUNNA, MARK SIDEWAYS NOON GHUNNA, NUMBER MARK ABOVE, NUMBER SIGN, PERCENT
SIGN, PIASTRE MARK ABOVE, PLACE OF SAJDAH, POETIC VERSE SIGN, POUND MARK ABOVE, QUESTION MARK,
RAISED ROUND DOT, RAY, REVERSED DAMMA, ROUNDED HIGH STOP WITH FILLED CENTRE, SEMICOLON, START OF
RUB EL HIZB, SUBSCRIPT ALEF, SUPERSCRIPT ALEF MOKHASSAS, TAIL FRAGMENT, TATWEEL, THOUSANDS
SEPARATOR, TRIPLE DOT PUNCTUATION MARK, TURNED DAMMA BELOW, VERTICAL TAIL, WAVY HAMZA BELOW,
ZWARAKAY;
ARABIC CURLY: DAMMA, DAMMATAN, FATHA, FATHATAN, KASRA, KASRATAN;
ARABIC DAMMA: ., ISOLATED FORM, MEDIAL FORM, WITH DOT;
ARABIC DOUBLE RIGHT ARROWHEAD ABOVE: ., WITH DOT;
ARABIC EMPTY CENTRE: HIGH STOP, LOW STOP;
ARABIC FATHA: ., ISOLATED FORM, MEDIAL FORM, WITH DOT ABOVE, WITH RING, WITH TWO DOTS;
ARABIC KASRA: ., ISOLATED FORM, MEDIAL FORM, WITH DOT BELOW;
ARABIC LARGE ROUND DOT: ABOVE, BELOW, INSIDE CIRCLE BELOW;
ARABIC LEFT ARROWHEAD: ABOVE, BELOW;
ARABIC LETTER: AE, BEH, BEH FINAL FORM, BEH INITIAL FORM, BEH ISOLATED FORM, BEH MEDIAL FORM,
DAHAL, DAHAL FINAL FORM, DAHAL ISOLATED FORM, DAL, DAL FINAL FORM, DAL ISOLATED FORM, DDAHAL,
DDAHAL FINAL FORM, DDAHAL ISOLATED FORM, DDAL, DDAL FINAL FORM, DDAL ISOLATED FORM, DOTLESS BEH,
DOTLESS FEH, DOTLESS QAF, DUL, DUL FINAL FORM, DUL ISOLATED FORM, E, E FINAL FORM, E INITIAL FORM,
E ISOLATED FORM, E MEDIAL FORM, FEH, FEH FINAL FORM, FEH INITIAL FORM, FEH ISOLATED FORM, FEH
MEDIAL FORM, GRAF, HAH, HAH FINAL FORM, HAH INITIAL FORM, HAH ISOLATED FORM, HAH MEDIAL FORM,
HAMZA, HAMZA ISOLATED FORM, JEH, JEH FINAL FORM, JEH ISOLATED FORM, KAF, KAF FINAL FORM, KAF
INITIAL FORM, KAF ISOLATED FORM, KAF MEDIAL FORM, KASHMIRI YEH, LAM, LAM FINAL FORM, LAM INITIAL
FORM, LAM ISOLATED FORM, LAM MEDIAL FORM, LOW ALEF, MARK, NG, NG FINAL FORM, NG INITIAL FORM, NG
ISOLATED FORM, NG MEDIAL FORM, OE, OE FINAL FORM, OE ISOLATED FORM, REH, REH FINAL FORM, REH
ISOLATED FORM, ROHINGYA YEH, RREH, RREH FINAL FORM, RREH ISOLATED FORM, STRAIGHT WAW, SUPERSCRIPT
ALEF, SWASH KAF, THAL, THAL FINAL FORM, THAL ISOLATED FORM, THIN YEH, U, U FINAL FORM, U ISOLATED
FORM, VE, VE FINAL FORM, VE ISOLATED FORM, VEH, VEH FINAL FORM, VEH INITIAL FORM, VEH ISOLATED
FORM, VEH MEDIAL FORM, WAW, WAW FINAL FORM, WAW ISOLATED FORM, YU, YU FINAL FORM, YU ISOLATED
FORM, ZAH, ZAH FINAL FORM, ZAH INITIAL FORM, ZAH ISOLATED FORM, ZAH MEDIAL FORM, ZAIN, ZAIN FINAL
FORM, ZAIN ISOLATED FORM, ZAIN WITH INVERTED V ABOVE;
ARABIC LETTER AFRICAN: FEH, NOON, QAF, QAF WITH THREE DOTS ABOVE;
ARABIC LETTER AIN: ., FINAL FORM, INITIAL FORM, ISOLATED FORM, MEDIAL FORM, WITH TWO DOTS ABOVE,
WITH TWO DOTS VERTICALLY ABOVE;
ARABIC LETTER AIN WITH THREE DOTS: ABOVE, BELOW, POINTING DOWNWARDS ABOVE;
ARABIC LETTER ALEF: ., FINAL FORM, ISOLATED FORM, MAKSURA, MAKSURA FINAL FORM, MAKSURA ISOLATED
FORM, WASLA, WASLA FINAL FORM, WASLA ISOLATED FORM, WITH DOT ABOVE, WITH LEFT MIDDLE STROKE, WITH
WAVY HAMZA ABOVE, WITH WAVY HAMZA BELOW;
ARABIC LETTER ALEF WITH ATTACHED: FATHA, KASRA, LEFT HAMZA, LEFT ROUND DOT, RIGHT HAMZA, RIGHT
ROUND DOT, ROUND DOT ABOVE, ROUND DOT BELOW, TOP RIGHT FATHA, TOP RIGHT FATHA AND DOT ABOVE, TOP
RIGHT FATHA AND LEFT RING;
ARABIC LETTER ALEF WITH ATTACHED BOTTOM RIGHT KASRA: ., AND DOT ABOVE, AND LEFT RING;
ARABIC LETTER ALEF WITH EXTENDED ARABIC-INDIC DIGIT: THREE ABOVE, TWO ABOVE;
ARABIC LETTER ALEF WITH HAMZA: ABOVE, ABOVE FINAL FORM, ABOVE ISOLATED FORM, BELOW, BELOW FINAL
FORM, BELOW ISOLATED FORM;
ARABIC LETTER ALEF WITH MADDA ABOVE: ., FINAL FORM, ISOLATED FORM;
ARABIC LETTER ALEF WITH RIGHT MIDDLE STROKE: ., AND DOT ABOVE, AND LEFT RING;
ARABIC LETTER BEEH: ., FINAL FORM, INITIAL FORM, ISOLATED FORM, MEDIAL FORM;
ARABIC LETTER BEH WITH: DOT BELOW AND THREE DOTS ABOVE, HAMZA ABOVE, INVERTED SMALL V BELOW, SMALL
MEEM ABOVE, SMALL V, SMALL V BELOW, THREE DOTS HORIZONTALLY BELOW, TWO DOTS BELOW AND DOT ABOVE;
ARABIC LETTER BEH WITH THREE DOTS POINTING UPWARDS BELOW: ., AND TWO DOTS ABOVE;
ARABIC LETTER BEHEH: ., FINAL FORM, INITIAL FORM, ISOLATED FORM, MEDIAL FORM;
ARABIC LETTER DAD: ., FINAL FORM, INITIAL FORM, ISOLATED FORM, MEDIAL FORM, WITH DOT BELOW;
ARABIC LETTER DAL WITH: DOT BELOW, DOT BELOW AND SMALL TAH, FOUR DOTS ABOVE, INVERTED SMALL V
BELOW, INVERTED V, RING, THREE DOTS ABOVE DOWNWARDS, THREE DOTS BELOW, TWO DOTS VERTICALLY BELOW
AND SMALL TAH;
ARABIC LETTER DYEH: ., FINAL FORM, INITIAL FORM, ISOLATED FORM, MEDIAL FORM;
ARABIC LETTER FARSI YEH: ., FINAL FORM, INITIAL FORM, ISOLATED FORM, MEDIAL FORM, WITH INVERTED V,
WITH THREE DOTS ABOVE, WITH TWO DOTS ABOVE;
ARABIC LETTER FARSI YEH WITH EXTENDED ARABIC-INDIC DIGIT: FOUR BELOW, THREE ABOVE, TWO ABOVE;
ARABIC LETTER FEH WITH: DOT BELOW, DOT BELOW AND THREE DOTS ABOVE, DOT MOVED BELOW, THREE DOTS
BELOW, THREE DOTS POINTING UPWARDS BELOW, TWO DOTS BELOW;
ARABIC LETTER GAF: ., FINAL FORM, INITIAL FORM, ISOLATED FORM, MEDIAL FORM, WITH INVERTED STROKE,
WITH RING, WITH THREE DOTS ABOVE, WITH TWO DOTS BELOW;
ARABIC LETTER GHAIN: ., FINAL FORM, INITIAL FORM, ISOLATED FORM, MEDIAL FORM, WITH DOT BELOW, WITH
THREE DOTS ABOVE;
ARABIC LETTER GUEH: ., FINAL FORM, INITIAL FORM, ISOLATED FORM, MEDIAL FORM;
ARABIC LETTER HAH WITH: EXTENDED ARABIC-INDIC DIGIT FOUR BELOW, HAMZA ABOVE, INVERTED SMALL V
BELOW, THREE DOTS ABOVE, THREE DOTS POINTING UPWARDS BELOW, TWO DOTS ABOVE, TWO DOTS VERTICAL
ABOVE;
ARABIC LETTER HAH WITH SMALL ARABIC LETTER TAH: ABOVE, AND TWO DOTS, BELOW;
ARABIC LETTER HEH: ., FINAL FORM, INITIAL FORM, ISOLATED FORM, MEDIAL FORM, WITH INVERTED V;
ARABIC LETTER HEH DOACHASHMEE: ., FINAL FORM, INITIAL FORM, ISOLATED FORM, MEDIAL FORM;
ARABIC LETTER HEH GOAL: ., FINAL FORM, INITIAL FORM, ISOLATED FORM, MEDIAL FORM, WITH HAMZA ABOVE;
ARABIC LETTER HEH WITH YEH ABOVE: ., FINAL FORM, ISOLATED FORM;
ARABIC LETTER HIGH HAMZA: ., ALEF, WAW, YEH;
ARABIC LETTER JEEM: ., FINAL FORM, INITIAL FORM, ISOLATED FORM, MEDIAL FORM, WITH THREE DOTS
ABOVE, WITH THREE DOTS BELOW, WITH TWO DOTS ABOVE;
ARABIC LETTER KAF WITH: DOT ABOVE, DOT BELOW, RING, THREE DOTS BELOW, TWO DOTS ABOVE;
ARABIC LETTER KEHEH: ., FINAL FORM, INITIAL FORM, ISOLATED FORM, MEDIAL FORM, WITH DOT ABOVE, WITH
SMALL V, WITH TWO DOTS ABOVE, WITH TWO DOTS VERTICALLY BELOW;
ARABIC LETTER KEHEH WITH THREE DOTS: ABOVE, BELOW, POINTING UPWARDS BELOW;
ARABIC LETTER KHAH: ., FINAL FORM, INITIAL FORM, ISOLATED FORM, MEDIAL FORM;
ARABIC LETTER KIRGHIZ: OE, OE FINAL FORM, OE ISOLATED FORM, YU, YU FINAL FORM, YU ISOLATED FORM;
ARABIC LETTER LAM WITH: BAR, DOT ABOVE, DOUBLE BAR, SMALL ARABIC LETTER TAH ABOVE, SMALL V, THREE
DOTS ABOVE, THREE DOTS BELOW;
ARABIC LETTER MEEM: ., FINAL FORM, INITIAL FORM, ISOLATED FORM, MEDIAL FORM, WITH DOT ABOVE, WITH
DOT BELOW, WITH THREE DOTS ABOVE;
ARABIC LETTER NGOEH: ., FINAL FORM, INITIAL FORM, ISOLATED FORM, MEDIAL FORM;
ARABIC LETTER NOON: ., FINAL FORM, GHUNNA, GHUNNA FINAL FORM, GHUNNA ISOLATED FORM, INITIAL FORM,
ISOLATED FORM, MEDIAL FORM;
ARABIC LETTER NOON WITH: DOT BELOW, INVERTED SMALL V, RING, SMALL TAH, SMALL V, THREE DOTS ABOVE,
TWO DOTS BELOW;
ARABIC LETTER NYEH: ., FINAL FORM, INITIAL FORM, ISOLATED FORM, MEDIAL FORM;
ARABIC LETTER PEH: ., FINAL FORM, INITIAL FORM, ISOLATED FORM, MEDIAL FORM, WITH SMALL MEEM ABOVE,
WITH SMALL V;
ARABIC LETTER PEHEH: ., FINAL FORM, INITIAL FORM, ISOLATED FORM, MEDIAL FORM;
ARABIC LETTER QAF: ., FINAL FORM, INITIAL FORM, ISOLATED FORM, MEDIAL FORM, WITH DOT ABOVE, WITH
DOT BELOW, WITH DOT BELOW AND NO DOTS ABOVE, WITH THREE DOTS ABOVE;
ARABIC LETTER REH WITH: DOT BELOW, DOT BELOW AND DOT ABOVE, FOUR DOTS ABOVE, HAMZA ABOVE, INVERTED
V, LOOP, RING, SMALL ARABIC LETTER TAH AND TWO DOTS, SMALL NOON ABOVE, SMALL V, SMALL V BELOW,
STROKE, TWO DOTS ABOVE, TWO DOTS VERTICALLY ABOVE;
ARABIC LETTER RNOON: ., FINAL FORM, INITIAL FORM, ISOLATED FORM, MEDIAL FORM;
ARABIC LETTER SAD: ., FINAL FORM, INITIAL FORM, ISOLATED FORM, MEDIAL FORM, WITH THREE DOTS ABOVE,
WITH THREE DOTS BELOW, WITH TWO DOTS BELOW;
ARABIC LETTER SEEN: ., FINAL FORM, INITIAL FORM, ISOLATED FORM, MEDIAL FORM;
ARABIC LETTER SEEN WITH: DOT BELOW AND DOT ABOVE, EXTENDED ARABIC-INDIC DIGIT FOUR ABOVE, FOUR
DOTS ABOVE, INVERTED V, SMALL ARABIC LETTER TAH AND TWO DOTS, THREE DOTS BELOW, THREE DOTS BELOW
AND THREE DOTS ABOVE, TWO DOTS VERTICALLY ABOVE;
ARABIC LETTER SHEEN: ., FINAL FORM, INITIAL FORM, ISOLATED FORM, MEDIAL FORM, WITH DOT BELOW;
ARABIC LETTER TAH: ., FINAL FORM, INITIAL FORM, ISOLATED FORM, MEDIAL FORM, WITH DOT BELOW, WITH
THREE DOTS ABOVE, WITH THREE DOTS BELOW, WITH TWO DOTS ABOVE;
ARABIC LETTER TCHEH: ., FINAL FORM, INITIAL FORM, ISOLATED FORM, MEDIAL FORM, WITH DOT ABOVE, WITH
SMALL V;
ARABIC LETTER TCHEHEH: ., FINAL FORM, INITIAL FORM, ISOLATED FORM, MEDIAL FORM;
ARABIC LETTER TEH: ., FINAL FORM, INITIAL FORM, ISOLATED FORM, MEDIAL FORM, WITH RING, WITH SMALL
TEH ABOVE, WITH SMALL V, WITH THREE DOTS ABOVE DOWNWARDS;
ARABIC LETTER TEH MARBUTA: ., FINAL FORM, GOAL, ISOLATED FORM;
ARABIC LETTER TEHEH: ., FINAL FORM, INITIAL FORM, ISOLATED FORM, MEDIAL FORM;
ARABIC LETTER THEH: ., FINAL FORM, INITIAL FORM, ISOLATED FORM, MEDIAL FORM;
ARABIC LETTER TTEH: ., FINAL FORM, INITIAL FORM, ISOLATED FORM, MEDIAL FORM, WITH SMALL V;
ARABIC LETTER TTEHEH: ., FINAL FORM, INITIAL FORM, ISOLATED FORM, MEDIAL FORM;
ARABIC LETTER U WITH HAMZA ABOVE: ., ISOLATED FORM;
ARABIC LETTER UIGHUR KAZAKH KIRGHIZ ALEF MAKSURA: INITIAL FORM, MEDIAL FORM;
ARABIC LETTER WAW WITH: DOT ABOVE, DOT WITHIN, HAMZA ABOVE, HAMZA ABOVE FINAL FORM, HAMZA ABOVE
ISOLATED FORM, RING, TWO DOTS ABOVE;
ARABIC LETTER WAW WITH EXTENDED ARABIC-INDIC DIGIT: THREE ABOVE, TWO ABOVE;
ARABIC LETTER YEH: ., BARREE, BARREE FINAL FORM, BARREE ISOLATED FORM, FINAL FORM, INITIAL FORM,
ISOLATED FORM, MEDIAL FORM, WITH SMALL V, WITH TAIL, WITH THREE DOTS BELOW;
ARABIC LETTER YEH BARREE WITH EXTENDED ARABIC-INDIC DIGIT: THREE ABOVE, TWO ABOVE;
ARABIC LETTER YEH BARREE WITH HAMZA ABOVE: ., FINAL FORM, ISOLATED FORM;
ARABIC LETTER YEH WITH HAMZA ABOVE: ., FINAL FORM, INITIAL FORM, ISOLATED FORM, MEDIAL FORM;
ARABIC LETTER YEH WITH TWO DOTS BELOW AND: DOT ABOVE, HAMZA ABOVE, SMALL NOON ABOVE;
ARABIC LIGATURE: AKBAR ISOLATED FORM, ALAYHAA AS-SALAAM, ALAYHE ISOLATED FORM, ALAYHI AS-SALAAM,
ALAYHI AS-SALAATU WAS-SALAAM, ALAYHIM AS-SALAAM, ALAYHIMAA AS-SALAAM, ALLAH ISOLATED FORM, AZZA WA
JALL, BISMILLAH AR-RAHMAN AR-RAHEEM, JALLAJALALOUHOU, MOHAMMAD ISOLATED FORM, QALA USED AS KORANIC
STOP SIGN ISOLATED FORM, QUDDISA SIRRAH, RAHIMAHU ALLAAH, RAHIMAHUM ALLAAH, RASOUL ISOLATED FORM,
REH WITH SUPERSCRIPT ALEF ISOLATED FORM, SALAAMUHU ALAYNAA, SALAM ISOLATED FORM, SALLA ISOLATED
FORM, SALLA USED AS KORANIC STOP SIGN ISOLATED FORM, SALLALLAAHU ALAYHI WA-AALIH, SALLALLAHOU
ALAYHE WASALLAM, SALLALLAHU ALAYHI WAAALIHEE WA-SALLAM, SUBHAANAHU WA TAAALAA, TABAARAKA
WA-TAAALAA, THAL WITH SUPERSCRIPT ALEF ISOLATED FORM, WASALLAM ISOLATED FORM;
ARABIC LIGATURE AIN WITH: ALEF MAKSURA FINAL FORM, ALEF MAKSURA ISOLATED FORM, JEEM INITIAL FORM,
JEEM ISOLATED FORM, JEEM WITH MEEM FINAL FORM, JEEM WITH MEEM INITIAL FORM, MEEM INITIAL FORM,
MEEM ISOLATED FORM, YEH FINAL FORM, YEH ISOLATED FORM;
ARABIC LIGATURE AIN WITH MEEM WITH: ALEF MAKSURA FINAL FORM, MEEM FINAL FORM, MEEM INITIAL FORM,
YEH FINAL FORM;
ARABIC LIGATURE ALEF MAKSURA WITH SUPERSCRIPT ALEF: FINAL FORM, ISOLATED FORM;
ARABIC LIGATURE ALEF WITH FATHATAN: FINAL FORM, ISOLATED FORM;
ARABIC LIGATURE BEH WITH: ALEF MAKSURA FINAL FORM, ALEF MAKSURA ISOLATED FORM, HAH INITIAL FORM,
HAH ISOLATED FORM, HAH WITH YEH FINAL FORM, HEH INITIAL FORM, HEH MEDIAL FORM, JEEM INITIAL FORM,
JEEM ISOLATED FORM, KHAH INITIAL FORM, KHAH ISOLATED FORM, KHAH WITH YEH FINAL FORM, MEEM FINAL
FORM, MEEM INITIAL FORM, MEEM ISOLATED FORM, MEEM MEDIAL FORM, NOON FINAL FORM, REH FINAL FORM,
YEH FINAL FORM, YEH ISOLATED FORM, ZAIN FINAL FORM;
ARABIC LIGATURE DAD WITH: ALEF MAKSURA FINAL FORM, ALEF MAKSURA ISOLATED FORM, HAH INITIAL FORM,
HAH ISOLATED FORM, HAH WITH ALEF MAKSURA FINAL FORM, HAH WITH YEH FINAL FORM, JEEM INITIAL FORM,
JEEM ISOLATED FORM, KHAH INITIAL FORM, KHAH ISOLATED FORM, KHAH WITH MEEM FINAL FORM, KHAH WITH
MEEM INITIAL FORM, MEEM INITIAL FORM, MEEM ISOLATED FORM, REH FINAL FORM, REH ISOLATED FORM, YEH
FINAL FORM, YEH ISOLATED FORM;
ARABIC LIGATURE FEH WITH: ALEF MAKSURA FINAL FORM, ALEF MAKSURA ISOLATED FORM, HAH INITIAL FORM,
HAH ISOLATED FORM, JEEM INITIAL FORM, JEEM ISOLATED FORM, KHAH INITIAL FORM, KHAH ISOLATED FORM,
KHAH WITH MEEM FINAL FORM, KHAH WITH MEEM INITIAL FORM, MEEM INITIAL FORM, MEEM ISOLATED FORM,
MEEM WITH YEH FINAL FORM, YEH FINAL FORM, YEH ISOLATED FORM;
ARABIC LIGATURE GHAIN WITH: ALEF MAKSURA FINAL FORM, ALEF MAKSURA ISOLATED FORM, JEEM INITIAL
FORM, JEEM ISOLATED FORM, MEEM INITIAL FORM, MEEM ISOLATED FORM, MEEM WITH ALEF MAKSURA FINAL
FORM, MEEM WITH MEEM FINAL FORM, MEEM WITH YEH FINAL FORM, YEH FINAL FORM, YEH ISOLATED FORM;
ARABIC LIGATURE HAH WITH: ALEF MAKSURA FINAL FORM, ALEF MAKSURA ISOLATED FORM, JEEM INITIAL FORM,
JEEM ISOLATED FORM, JEEM WITH YEH FINAL FORM, MEEM INITIAL FORM, MEEM ISOLATED FORM, MEEM WITH
ALEF MAKSURA FINAL FORM, MEEM WITH YEH FINAL FORM, YEH FINAL FORM, YEH ISOLATED FORM;
ARABIC LIGATURE HEH WITH: ALEF MAKSURA ISOLATED FORM, JEEM INITIAL FORM, JEEM ISOLATED FORM, MEEM
INITIAL FORM, MEEM ISOLATED FORM, MEEM WITH JEEM INITIAL FORM, MEEM WITH MEEM INITIAL FORM,
SUPERSCRIPT ALEF INITIAL FORM, YEH ISOLATED FORM;
ARABIC LIGATURE JEEM WITH: ALEF MAKSURA FINAL FORM, ALEF MAKSURA ISOLATED FORM, HAH INITIAL FORM,
HAH ISOLATED FORM, HAH WITH ALEF MAKSURA FINAL FORM, HAH WITH YEH FINAL FORM, MEEM INITIAL FORM,
MEEM ISOLATED FORM, YEH FINAL FORM, YEH ISOLATED FORM;
ARABIC LIGATURE JEEM WITH MEEM WITH: ALEF MAKSURA FINAL FORM, HAH FINAL FORM, HAH INITIAL FORM,
YEH FINAL FORM;
ARABIC LIGATURE KAF WITH: ALEF FINAL FORM, ALEF ISOLATED FORM, ALEF MAKSURA FINAL FORM, ALEF
MAKSURA ISOLATED FORM, HAH INITIAL FORM, HAH ISOLATED FORM, JEEM INITIAL FORM, JEEM ISOLATED FORM,
KHAH INITIAL FORM, KHAH ISOLATED FORM, LAM FINAL FORM, LAM INITIAL FORM, LAM ISOLATED FORM, LAM
MEDIAL FORM, YEH FINAL FORM, YEH ISOLATED FORM;
ARABIC LIGATURE KAF WITH MEEM: FINAL FORM, INITIAL FORM, ISOLATED FORM, MEDIAL FORM, WITH MEEM
FINAL FORM, WITH MEEM INITIAL FORM, WITH YEH FINAL FORM;
ARABIC LIGATURE KHAH WITH: ALEF MAKSURA FINAL FORM, ALEF MAKSURA ISOLATED FORM, HAH ISOLATED FORM,
JEEM INITIAL FORM, JEEM ISOLATED FORM, MEEM INITIAL FORM, MEEM ISOLATED FORM, YEH FINAL FORM, YEH
ISOLATED FORM;
ARABIC LIGATURE LAM WITH: ALEF FINAL FORM, ALEF ISOLATED FORM, ALEF MAKSURA FINAL FORM, ALEF
MAKSURA ISOLATED FORM, HAH INITIAL FORM, HAH ISOLATED FORM, HAH WITH ALEF MAKSURA FINAL FORM, HAH
WITH MEEM FINAL FORM, HAH WITH MEEM INITIAL FORM, HAH WITH YEH FINAL FORM, HEH INITIAL FORM, JEEM
INITIAL FORM, JEEM ISOLATED FORM, KHAH INITIAL FORM, KHAH ISOLATED FORM, KHAH WITH MEEM FINAL
FORM, KHAH WITH MEEM INITIAL FORM, YEH FINAL FORM, YEH ISOLATED FORM;
ARABIC LIGATURE LAM WITH ALEF WITH: HAMZA ABOVE FINAL FORM, HAMZA ABOVE ISOLATED FORM, HAMZA BELOW
FINAL FORM, HAMZA BELOW ISOLATED FORM, MADDA ABOVE FINAL FORM, MADDA ABOVE ISOLATED FORM;
ARABIC LIGATURE LAM WITH JEEM WITH: JEEM FINAL FORM, JEEM INITIAL FORM, MEEM FINAL FORM, MEEM
INITIAL FORM, YEH FINAL FORM;
ARABIC LIGATURE LAM WITH MEEM: FINAL FORM, INITIAL FORM, ISOLATED FORM, MEDIAL FORM, WITH HAH
FINAL FORM, WITH HAH INITIAL FORM, WITH YEH FINAL FORM;
ARABIC LIGATURE MEEM WITH: ALEF FINAL FORM, ALEF MAKSURA ISOLATED FORM, HAH INITIAL FORM, HAH
ISOLATED FORM, HAH WITH JEEM INITIAL FORM, HAH WITH MEEM INITIAL FORM, HAH WITH YEH FINAL FORM,
JEEM INITIAL FORM, JEEM ISOLATED FORM, KHAH INITIAL FORM, KHAH ISOLATED FORM, KHAH WITH JEEM
INITIAL FORM, KHAH WITH MEEM INITIAL FORM, KHAH WITH YEH FINAL FORM, MEEM FINAL FORM, MEEM INITIAL
FORM, MEEM ISOLATED FORM, MEEM WITH YEH FINAL FORM, YEH ISOLATED FORM;
ARABIC LIGATURE MEEM WITH JEEM WITH: HAH INITIAL FORM, KHAH INITIAL FORM, MEEM INITIAL FORM, YEH
FINAL FORM;
ARABIC LIGATURE NOON WITH: ALEF MAKSURA FINAL FORM, ALEF MAKSURA ISOLATED FORM, HAH INITIAL FORM,
HAH ISOLATED FORM, HAH WITH ALEF MAKSURA FINAL FORM, HAH WITH MEEM INITIAL FORM, HAH WITH YEH
FINAL FORM, HEH INITIAL FORM, HEH MEDIAL FORM, JEEM INITIAL FORM, JEEM ISOLATED FORM, KHAH INITIAL
FORM, KHAH ISOLATED FORM, MEEM FINAL FORM, MEEM INITIAL FORM, MEEM ISOLATED FORM, MEEM MEDIAL
FORM, MEEM WITH ALEF MAKSURA FINAL FORM, MEEM WITH YEH FINAL FORM, NOON FINAL FORM, REH FINAL
FORM, YEH FINAL FORM, YEH ISOLATED FORM, ZAIN FINAL FORM;
ARABIC LIGATURE NOON WITH JEEM WITH: ALEF MAKSURA FINAL FORM, HAH FINAL FORM, HAH INITIAL FORM,
MEEM FINAL FORM, MEEM INITIAL FORM, YEH FINAL FORM;
ARABIC LIGATURE QAF WITH: ALEF MAKSURA FINAL FORM, ALEF MAKSURA ISOLATED FORM, HAH INITIAL FORM,
HAH ISOLATED FORM, MEEM INITIAL FORM, MEEM ISOLATED FORM, YEH FINAL FORM, YEH ISOLATED FORM;
ARABIC LIGATURE QAF WITH MEEM WITH: HAH FINAL FORM, HAH INITIAL FORM, MEEM FINAL FORM, YEH FINAL
FORM;
ARABIC LIGATURE RADI ALLAAHU: ANH, ANHAA, ANHUM, ANHUMAA, ANHUNNA;
ARABIC LIGATURE SAD WITH: ALEF MAKSURA FINAL FORM, ALEF MAKSURA ISOLATED FORM, HAH INITIAL FORM,
HAH ISOLATED FORM, HAH WITH HAH FINAL FORM, HAH WITH HAH INITIAL FORM, HAH WITH YEH FINAL FORM,
KHAH INITIAL FORM, MEEM INITIAL FORM, MEEM ISOLATED FORM, MEEM WITH MEEM FINAL FORM, MEEM WITH
MEEM INITIAL FORM, REH FINAL FORM, REH ISOLATED FORM, YEH FINAL FORM, YEH ISOLATED FORM;
ARABIC LIGATURE SEEN WITH: ALEF MAKSURA FINAL FORM, ALEF MAKSURA ISOLATED FORM, HAH INITIAL FORM,
HAH ISOLATED FORM, HAH MEDIAL FORM, HAH WITH JEEM INITIAL FORM, HEH INITIAL FORM, HEH MEDIAL FORM,
JEEM INITIAL FORM, JEEM ISOLATED FORM, JEEM MEDIAL FORM, JEEM WITH ALEF MAKSURA FINAL FORM, JEEM
WITH HAH INITIAL FORM, KHAH INITIAL FORM, KHAH ISOLATED FORM, KHAH MEDIAL FORM, KHAH WITH ALEF
MAKSURA FINAL FORM, KHAH WITH YEH FINAL FORM, MEEM INITIAL FORM, MEEM ISOLATED FORM, MEEM MEDIAL
FORM, REH FINAL FORM, REH ISOLATED FORM, YEH FINAL FORM, YEH ISOLATED FORM;
ARABIC LIGATURE SEEN WITH MEEM WITH: HAH FINAL FORM, HAH INITIAL FORM, JEEM INITIAL FORM, MEEM
FINAL FORM, MEEM INITIAL FORM;
ARABIC LIGATURE SHADDA WITH: DAMMA ISOLATED FORM, DAMMA MEDIAL FORM, DAMMATAN ISOLATED FORM, FATHA
ISOLATED FORM, FATHA MEDIAL FORM, KASRA ISOLATED FORM, KASRA MEDIAL FORM, KASRATAN ISOLATED FORM,
SUPERSCRIPT ALEF ISOLATED FORM;
ARABIC LIGATURE SHEEN WITH: ALEF MAKSURA FINAL FORM, ALEF MAKSURA ISOLATED FORM, HAH FINAL FORM,
HAH INITIAL FORM, HAH ISOLATED FORM, HAH MEDIAL FORM, HAH WITH MEEM FINAL FORM, HAH WITH MEEM
INITIAL FORM, HAH WITH YEH FINAL FORM, HEH INITIAL FORM, HEH MEDIAL FORM, JEEM FINAL FORM, JEEM
INITIAL FORM, JEEM ISOLATED FORM, JEEM MEDIAL FORM, JEEM WITH YEH FINAL FORM, KHAH FINAL FORM,
KHAH INITIAL FORM, KHAH ISOLATED FORM, KHAH MEDIAL FORM, REH FINAL FORM, REH ISOLATED FORM, YEH
FINAL FORM, YEH ISOLATED FORM;
ARABIC LIGATURE SHEEN WITH MEEM: FINAL FORM, INITIAL FORM, ISOLATED FORM, MEDIAL FORM, WITH KHAH
FINAL FORM, WITH KHAH INITIAL FORM, WITH MEEM FINAL FORM, WITH MEEM INITIAL FORM;
ARABIC LIGATURE TAH WITH: ALEF MAKSURA FINAL FORM, ALEF MAKSURA ISOLATED FORM, HAH INITIAL FORM,
HAH ISOLATED FORM, MEEM INITIAL FORM, MEEM ISOLATED FORM, MEEM MEDIAL FORM, YEH FINAL FORM, YEH
ISOLATED FORM;
ARABIC LIGATURE TAH WITH MEEM WITH: HAH FINAL FORM, HAH INITIAL FORM, MEEM INITIAL FORM, YEH FINAL
FORM;
ARABIC LIGATURE TEH WITH: ALEF MAKSURA FINAL FORM, ALEF MAKSURA ISOLATED FORM, HAH INITIAL FORM,
HAH ISOLATED FORM, HAH WITH JEEM FINAL FORM, HAH WITH JEEM INITIAL FORM, HAH WITH MEEM INITIAL
FORM, HEH INITIAL FORM, HEH MEDIAL FORM, JEEM INITIAL FORM, JEEM ISOLATED FORM, JEEM WITH ALEF
MAKSURA FINAL FORM, JEEM WITH MEEM INITIAL FORM, JEEM WITH YEH FINAL FORM, KHAH INITIAL FORM, KHAH
ISOLATED FORM, KHAH WITH ALEF MAKSURA FINAL FORM, KHAH WITH MEEM INITIAL FORM, KHAH WITH YEH FINAL
FORM, MEEM FINAL FORM, MEEM INITIAL FORM, MEEM ISOLATED FORM, MEEM MEDIAL FORM, NOON FINAL FORM,
REH FINAL FORM, YEH FINAL FORM, YEH ISOLATED FORM, ZAIN FINAL FORM;
ARABIC LIGATURE TEH WITH MEEM WITH: ALEF MAKSURA FINAL FORM, HAH INITIAL FORM, JEEM INITIAL FORM,
KHAH INITIAL FORM, YEH FINAL FORM;
ARABIC LIGATURE THEH WITH: ALEF MAKSURA FINAL FORM, ALEF MAKSURA ISOLATED FORM, HEH MEDIAL FORM,
JEEM ISOLATED FORM, MEEM FINAL FORM, MEEM INITIAL FORM, MEEM ISOLATED FORM, MEEM MEDIAL FORM, NOON
FINAL FORM, REH FINAL FORM, YEH FINAL FORM, YEH ISOLATED FORM, ZAIN FINAL FORM;
ARABIC LIGATURE UIGHUR KIRGHIZ YEH WITH HAMZA ABOVE WITH ALEF MAKSURA: FINAL FORM, INITIAL FORM,
ISOLATED FORM;
ARABIC LIGATURE YEH WITH: ALEF MAKSURA FINAL FORM, ALEF MAKSURA ISOLATED FORM, HAH INITIAL FORM,
HAH ISOLATED FORM, HAH WITH YEH FINAL FORM, HEH INITIAL FORM, HEH MEDIAL FORM, JEEM INITIAL FORM,
JEEM ISOLATED FORM, JEEM WITH YEH FINAL FORM, KHAH INITIAL FORM, KHAH ISOLATED FORM, NOON FINAL
FORM, REH FINAL FORM, YEH FINAL FORM, YEH ISOLATED FORM, ZAIN FINAL FORM;
ARABIC LIGATURE YEH WITH HAMZA ABOVE WITH: AE FINAL FORM, AE ISOLATED FORM, ALEF FINAL FORM, ALEF
ISOLATED FORM, ALEF MAKSURA FINAL FORM, ALEF MAKSURA ISOLATED FORM, E FINAL FORM, E INITIAL FORM,
E ISOLATED FORM, HAH INITIAL FORM, HAH ISOLATED FORM, HEH INITIAL FORM, HEH MEDIAL FORM, JEEM
INITIAL FORM, JEEM ISOLATED FORM, KHAH INITIAL FORM, MEEM FINAL FORM, MEEM INITIAL FORM, MEEM
ISOLATED FORM, MEEM MEDIAL FORM, NOON FINAL FORM, OE FINAL FORM, OE ISOLATED FORM, REH FINAL FORM,
U FINAL FORM, U ISOLATED FORM, WAW FINAL FORM, WAW ISOLATED FORM, YEH FINAL FORM, YEH ISOLATED
FORM, YU FINAL FORM, YU ISOLATED FORM, ZAIN FINAL FORM;
ARABIC LIGATURE YEH WITH MEEM: FINAL FORM, INITIAL FORM, ISOLATED FORM, MEDIAL FORM, WITH MEEM
FINAL FORM, WITH MEEM INITIAL FORM, WITH YEH FINAL FORM;
ARABIC LIGATURE ZAH WITH MEEM: INITIAL FORM, ISOLATED FORM, MEDIAL FORM;
ARABIC MATHEMATICAL: AIN, ALEF, BEH, DAD, DAL, FEH, GHAIN, HAH, JEEM, KAF, KHAH, LAM, MEEM, NOON,
OPERATOR HAH WITH DAL, OPERATOR MEEM WITH HAH WITH TATWEEL, QAF, REH, SAD, SEEN, SHEEN, TAH, TEH,
THAL, THEH, WAW, YEH, ZAH, ZAIN;
ARABIC MATHEMATICAL DOTLESS: BEH, FEH, NOON, QAF;
ARABIC MATHEMATICAL DOUBLE-STRUCK: AIN, BEH, DAD, DAL, FEH, GHAIN, HAH, JEEM, KHAH, LAM, MEEM,
NOON, QAF, REH, SAD, SEEN, SHEEN, TAH, TEH, THAL, THEH, WAW, YEH, ZAH, ZAIN;
ARABIC MATHEMATICAL INITIAL: AIN, BEH, DAD, FEH, GHAIN, HAH, HEH, JEEM, KAF, KHAH, LAM, MEEM,
NOON, QAF, SAD, SEEN, SHEEN, TEH, THEH, YEH;
ARABIC MATHEMATICAL LOOPED: AIN, ALEF, BEH, DAD, DAL, FEH, GHAIN, HAH, HEH, JEEM, KHAH, LAM, MEEM,
NOON, QAF, REH, SAD, SEEN, SHEEN, TAH, TEH, THAL, THEH, WAW, YEH, ZAH, ZAIN;
ARABIC MATHEMATICAL STRETCHED: AIN, BEH, DAD, DOTLESS BEH, DOTLESS FEH, FEH, GHAIN, HAH, HEH,
JEEM, KAF, KHAH, MEEM, NOON, QAF, SAD, SEEN, SHEEN, TAH, TEH, THEH, YEH, ZAH;
ARABIC MATHEMATICAL TAILED: AIN, DAD, DOTLESS NOON, DOTLESS QAF, GHAIN, HAH, JEEM, KHAH, LAM,
NOON, QAF, SAD, SEEN, SHEEN, YEH;
ARABIC OPEN: DAMMATAN, FATHATAN, KASRATAN;
ARABIC RIGHT ARROWHEAD: ABOVE, ABOVE WITH DOT, BELOW;
ARABIC SHADDA: ., ISOLATED FORM, MEDIAL FORM;
ARABIC SIGN: ALAYHE ASSALLAM, MISRA, RADI ALLAHOU ANHU, RAHMATULLAH ALAYHE, SAFHA, SALLALLAHOU
ALAYHE WASSALLAM, SAMVAT, SANAH, SINDHI AMPERSAND, SINDHI POSTPOSITION MEN, TAKHALLUS;
ARABIC SMALL: DAMMA, FARSI YEH, FATHA, KASRA, WAW, YEH;
ARABIC SMALL HIGH: AIN, DOTLESS HEAD OF KHAH, FARSI YEH, FOOTNOTE MARKER, JEEM, LAM ALEF, LIGATURE
ALEF WITH LAM WITH YEH, LIGATURE QAF WITH LAM WITH ALEF MAKSURA, LIGATURE SAD WITH LAM WITH ALEF
MAKSURA, MADDA, MEEM INITIAL FORM, MEEM ISOLATED FORM, NOON, NOON WITH KASRA, QAF, ROUNDED ZERO,
SAD, SEEN, SIGN SAFHA, TAH, THREE DOTS, UPRIGHT RECTANGULAR ZERO, WAW, YEH, YEH BARREE WITH TWO
DOTS BELOW, ZAH, ZAIN;
ARABIC SMALL HIGH WORD: AL-JUZ, AN-NISF, AR-RUB, AS-SAJDA, ATH-THALATHA, QIF, SAH, SAKTA, WAQFA;
ARABIC SMALL LOW: MEEM, NOON WITH KASRA, SEEN, WAW, WORD IMAALA, WORD ISHMAAM, WORD TASHEEL;
ARABIC SUKUN: ., BELOW, ISOLATED FORM, MEDIAL FORM;
ARABIC SYMBOL: DOT ABOVE, DOT BELOW, DOUBLE VERTICAL BAR BELOW, FOUR DOTS ABOVE, FOUR DOTS BELOW,
RING, SMALL TAH ABOVE, SMALL TAH BELOW, WASLA ABOVE;
ARABIC SYMBOL THREE DOTS: ABOVE, BELOW, POINTING DOWNWARDS ABOVE, POINTING DOWNWARDS BELOW;
ARABIC SYMBOL TWO DOTS: ABOVE, BELOW, VERTICALLY ABOVE, VERTICALLY BELOW;
ARABIC TATWEEL WITH: FATHATAN ABOVE, OVERSTRUCK HAMZA, OVERSTRUCK WAW, TWO DOTS BELOW;
ARABIC TONE: LOOP ABOVE, LOOP BELOW, ONE DOT ABOVE, ONE DOT BELOW, TWO DOTS ABOVE, TWO DOTS BELOW;
ARABIC VOWEL SIGN: DOT BELOW, INVERTED SMALL V ABOVE, SMALL V ABOVE;
ARABIC-INDIC: CUBE ROOT, FOURTH ROOT, PER MILLE SIGN, PER TEN THOUSAND SIGN;
ARABIC-INDIC DIGIT: EIGHT, FIVE, FOUR, NINE, ONE, SEVEN, SIX, THREE, TWO, ZERO;
ARMENIAN: ABBREVIATION MARK, APOSTROPHE, COMMA, DRAM SIGN, EMPHASIS MARK, EXCLAMATION MARK, FULL
STOP, HYPHEN, MODIFIER LETTER LEFT HALF RING, QUESTION MARK;
ARMENIAN CAPITAL LETTER: AYB, BEN, CA, CHA, CHEH, CO, DA, ECH, EH, ET, FEH, GHAD, GIM, HO, INI,
JA, JHEH, KEH, KEN, LIWN, MEN, NOW, OH, PEH, PIWR, RA, REH, SEH, SHA, TIWN, TO, VEW, VO, XEH, YI,
YIWN, ZA, ZHE;
ARMENIAN SMALL LETTER: AYB, BEN, CA, CHA, CHEH, CO, DA, ECH, EH, ET, FEH, GHAD, GIM, HO, INI, JA,
JHEH, KEH, KEN, LIWN, MEN, NOW, OH, PEH, PIWR, RA, REH, SEH, SHA, TIWN, TO, TURNED AYB, VEW, VO,
XEH, YI, YI WITH STROKE, YIWN, ZA, ZHE;
ARMENIAN SMALL LIGATURE: ECH YIWN, MEN ECH, MEN INI, MEN NOW, MEN XEH, VEW NOW;
ARROW POINTING DOWNWARDS THEN CURVING: LEFTWARDS, RIGHTWARDS;
ARROW POINTING RIGHTWARDS THEN CURVING: DOWNWARDS, SOUTH WEST, UPWARDS;
ASTERISK: ., OPERATOR;
AVESTAN LETTER: A, AA, AAN, AAO, AE, AEE, AN, AO, BE, BHE, CE, DE, DHE, E, EE, FE, GE, GGE, GHE,
HE, HME, I, II, JE, KE, LE, ME, NE, NGE, NGVE, NGYE, NNE, NYE, O, OO, PE, RE, SE, SHE, SHYE, SSHE,
TE, THE, TTE, U, UU, VE, XE, XVE, XYE, YE, YYE, ZE, ZHE;
BABY: ., ANGEL, BOTTLE, CHICK, SYMBOL;
BACK: OF ENVELOPE, WITH LEFTWARDS ARROW ABOVE;
BACKSLANTED SOUTH ARROW WITH: HOOKED TAIL, HORIZONTAL TAIL;
BALINESE: ADEG ADEG, PAMADA, PAMADA LANTANG, PAMENENG, PANTI, PANTI LANTANG, WINDU;
BALINESE CARIK: PAMUNGKAH, PAREREN, SIKI;
BALINESE DIGIT: EIGHT, FIVE, FOUR, NINE, ONE, SEVEN, SIX, THREE, TWO, ZERO;
BALINESE LETTER: AIKARA, AKARA, AKARA TEDUNG, ARCHAIC JNYA, ASYURA SASAK, BA, BA KEMBANG, CA, CA
LACA, DA, DA MADU, DA MURDA ALPAPRANA, DA MURDA MAHAPRANA, EF SASAK, EKARA, GA, GA GORA, HA,
IKARA, IKARA TEDUNG, JA, JA JERA, KA, KA MAHAPRANA, KAF SASAK, KHOT SASAK, LA, LA LENGA, LA LENGA
TEDUNG, MA, NA, NA RAMBAT, NGA, NYA, OKARA, OKARA TEDUNG, PA, PA KAPAL, RA, RA REPA, RA REPA
TEDUNG, SA, SA SAGA, SA SAPA, TA, TA LATIK, TA MURDA MAHAPRANA, TA TAWA, TZIR SASAK, UKARA, UKARA
TEDUNG, VE SASAK, WA, YA, ZAL SASAK;
BALINESE MUSICAL SYMBOL: DAENG, DAING, DANG, DANG GEDE, DANG SURANG, DENG, DEUNG, DING, DONG, DUNG;
BALINESE MUSICAL SYMBOL COMBINING: BENDE, ENDEP, GONG, JEGOGAN, KEMPLI, KEMPLI WITH JEGOGAN,
KEMPUL, KEMPUL WITH JEGOGAN, TEGEH;
BALINESE MUSICAL SYMBOL LEFT-HAND: CLOSED PLAK, CLOSED PLUK, OPEN PANG, OPEN PING, OPEN PUNG;
BALINESE MUSICAL SYMBOL RIGHT-HAND: CLOSED TAK, CLOSED TUK, OPEN DAG, OPEN DUG;
BALINESE SIGN: BISAH, CECEK, REREKAN, SURANG, ULU CANDRA, ULU RICEM;
BALINESE VOWEL SIGN: LA LENGA, LA LENGA TEDUNG, PEPET, PEPET TEDUNG, RA REPA, RA REPA TEDUNG,
SUKU, SUKU ILUT, TALING, TALING REPA, TALING REPA TEDUNG, TALING TEDUNG, TEDUNG, ULU, ULU SARI;
BALLOT: BOLD SCRIPT X, BOX, SCRIPT X, X;
BALLOT BOX WITH: BALLOT, BOLD CHECK, BOLD SCRIPT X, CHECK, LIGHT X, SCRIPT X, X;
BAMUM: COLON, COMMA, FULL STOP, NJAEMLI, QUESTION MARK, SEMICOLON;
BAMUM COMBINING MARK: KOQNDON, TUKWENTIS;
BAMUM LETTER: A, EE, FAAMAE, FEE, FOM, FU, I, KA, KEN, KET, KEUX, KI, KO, KOGHOM, KOVUU, KPA, KU,
KYEE, LA, LEEEE, LI, LOQ, LU, M, MA, MBAA, MBEN, MEEEE, MEN, MI, MO, MU, NA, NDAA, NGA, NGGA,
NGKWAEN, NI, NJAEM, NJEE, NJUAE, NSHA, NTEE, NTUU, NU, NUAE, NYI, O, PA, PEE, PEUX, PI, PUAE, PUE,
RAE, REE, REN, REUX, RIEE, RII, RU, SAMBA, SEUX, SHEUX, SHII, SHO, SHU, SI, SUU, TAA, TAE, TEN,
TET, TI, U, WA, WUE, YA, YOQ, YUQ;
BAMUM LETTER PHASE-A: FIRI, GBIEE FON, GHEUAEGHEUAE, GHEUAERAE, KAFA, KAQ, KET, KEUKEUTNDA, KPOQ,
KUOQ, LAPAQ, LET KUT, LOMMAE, LU, LUAEP, MAEKEUP, MAEM, MAEMBGBIEE, MAEMKPEN, MAEMVEUX, MAENYI,
MAESI, MANSUAE, MAP PIEET, MBANYI, MBAQ, MEUNJOMNDEUQ, MGBASA, MON NGGEUAET, MOOMEUT, MOOMPUQ,
MVEUAENGAM, NAA MFON, NAQ, NDA LEERAEWA, NDAANGGEUAET, NEN, NGANGU, NGGEN, NGKUE MFON, NGKUENZEUM,
NIKA, NJAM, NKAARAE, NKINDI, NSHA, NSHIEE, NTAP, NTAP MFAA, NTAP NTAA, NTOQPEN, NYET, NYI, NYIT
MONGKEUAEQ, NZA MFON, NZUN MEUT, PA LEERAEWA, PAAM, PAARAE, PAMSHAE, PASHAE, PET, PON MFON
PIPAEMBA, PON MFON PIPAEMGBIEE, PON PA NJI PIPAEMBA, PON PA NJI PIPAEMGBIEE, PUP, ROM, SEUNYAM,
SHINDA PA NJI, SHIRAE, SHOQ NSHUT YUM, SHUENSHUET, SHUM, SISA, SONJAM, SOQ, SOT, SUU, TEUAEN,
TEUTEUWEN, TITA MFON, TU MAEMBA, TUAEP, U YUQ NAE, UNKNOWN, VEE;
BAMUM LETTER PHASE-B: FEE, FEUX, GHEUGHEN, GHEUGHEUAEM, KAM, KEUAEM, KEUPUQ, KEUYEUX, KIEEM, KIQ,
LAANAE, LAM NSHUT NYAM, LET, LOM NTEUM, MA, MA NJEUAENA, MA NJUQA, MBA MAELEE, MBAARAE, MBEURI,
MBIT MBAAKET, MBUOQ, MEUQ, MEUT NGGEET, MFIYAQ, MFON TEUAEQ, MONTIEEN, NDU NJAA, NGGAAM, NGGEU
MBU, NGGUOQ, NGGUOQ LARGE, NGKINDI MVOP, NGOM, NSEN, NSHUET, NTIEE SHEUOQ, NYAEMAE, NYI NTEUM,
PARUM, PEESHI, PIT, PUNGAAM, SAKEUAE, SET TU, SHET NJAQ, SHEUAEQTU, SIEE, SUE, TAAM, TU MAEMGBIEE,
TU NSIEE, VEUM, WUAET, YAFU LEERAEWA, YEURAE;
BAMUM LETTER PHASE-C: BUNG, FUE, GBAYI, GHAP, GHARAE, KAA, KEN FATIGUE, KEN LAW, KET, KEUKAQ,
KEUM, KEUSEUX, KEUSHEUAEP, KPARAQ, KUOP NKAARAE, KUT, LAM, LAP, LIQ, LU, MA KEUAERI, MA NSIEE,
MAEMBA, MAESI, MBAA CABBAGE-TREE, MBAA PICKET, MBANYI, MBEEKEET, MBERAE, MBEUM, MBEUX, MBI,
MBIRIEEN, MBIT, MBUAEM, MBUE, MGBASAQ, MIEE, MUAE, NANSANAQ, NAQ, NDAM, NDAP, NDEUAEREE, NDEUT,
NDIDA, NDOMBU, NGAQ, NGGEN, NGGU, NGGUAEN NYAM, NGGUEET, NGGUM, NGGUON, NGKAQ, NGKUE MAEMBA, NGOM,
NJAEM, NJAM, NJEEEE, NJEUX, NJUEQ, NSA, NSEUAEN, NSHAQ, NSOM, NSUN, NSUOT NGOM, NTAA, NTEN,
NTEUNGBA, NTU MBIT, NYIR MKPARAQ MEUN, NZA, NZEUM, PEN, PIN, PIRIEEN, RU, SETFON, SEUX, SHIQ,
SHUEQ, SUAET, TAASHAE, TET, TEUTEUX, TITA YUE, TITUAEP, VEUAEPEN, VEUX, WANGKUOQ, WUP, YAA, YEUQ,
YU MUOMAE, YUM, YUWOQ;
BAMUM LETTER PHASE-D: FAA, FEUFEUAET, GHAA, GHEUAE, KET, KEUAETMEUN, KEUM, KEUOT MBUAE, KEUP, KU,
KUN, KUOM, KUQ, KWAET, KYEE, LEEEE, LET, LEUAEP, LEUM, LIEE, LOQ, LUM, M, MAENJET, MALEERI, MBAA,
MBAA SEVEN, MBUO, MEEEE, MEUN, MEUT, MFEUAE, MFEUT, MFIEE, MFO, MFON, MGBEUN, MGBIEE, MGBOFUM,
MONI, MU, MVOP, NDAM, NDEE, NDEUX, NDON, NGGAAM, NGGAAMAE, NGGAP, NGGEUX, NGGUOM, NGGWAEN, NGKAP,
NGKEUAEQ, NGKEURI, NGKIEE, NGKUN, NGKYEE, NI, NJAP, NJEUAEM, NJEUT, NJI, NJIEE, NJUEQ, NSHEE,
NSHUT, NSIEEP, NSIEET, NSUM, NTEE, NTEUM, NTUU, NU, NYAM, NYET, NYI, NYUE, PAP, PEE, PEUTAE, PIP,
PUQ, PUUT, RAEM, REN MUCH, REN OLD, RII, SAP, SAQ, SEUAEQ, SHEE, SHEUAE, SHEUX, SHII, SHOQ, SHU,
SOT, SUAE, SUE, SUU, TAE, TEEEE, TEUAEN, TEUN, TEUT, TI, TOQ, TU, TUOT, WAP, WUAEN, YAEMMAE, YEN,
YUOM, YUOP, YUWOQ;
BAMUM LETTER PHASE-E: A, FA, FAQ, FEE, FOM, FU CALL, FU I, FU REMEDY, FUE, FUET, GBET, GBEUX,
GHAAMAE, GHET, GHEUAE, GHEUN, GHEUX, GHOM, I, KET, KEUAE, KEUX, KI, KO, KPEUX, KUET, KUOP, KUT,
LAAM, LAP, LAQ, LEUAEM, LOM, LOON, LOOT, LOQ, LU, MA, MAE, MAEM, MAP, MAQ, MBEE, MBEUM, MEN,
MFEUQ, MGBA, MGBEN, MI, MIEE, MON, MUAE, MVI, NA, NAE, NDAA MY HOUSE, NDAA SOFTNESS, NDAP, NDIAQ,
NDIQ, NDUN, NGA, NGEUREUT, NGGEEEE, NGGEUAE, NGGEUAET, NGGUAESHAE NYAM, NGGUP, NGGURAE, NGKA,
NGKAAMI, NGKEUAEM, NGKEUX, NGKUM, NGKUP, NGOP, NGOQ, NGUAE, NGUAET, NJAEMLI, NJEE, NJEE EPOCH,
NJEUX, NKOM, NSHIEE, NSHUE, NSHUOP, NTAP, NTUM, NYI BETWEEN, NYI CLEAVER, NZAQ, NZUQ, O, PA
PEOPLE, PA PLURAL, PAA, PAAM, PEEM, PEUT, PEUX, PI, PIEEQ, PIET, PO, POON, PU, PUAE, PUAQ, PUE,
PUM, RAE, RAQ, REUX, RIMGBA, SAA, SEE, SET, SHEUAEQ, SHIQ, SHO, SHOQ, SOM, SUAEN, TAA, TAAQ, TAEN
NTEUM, TAM, TAQ, TEN, TEU, TEUAEQ, TOO, TOON, TOQ, TUAE, TUM, TUMAE, VEE, VEUAE, VOM, WEUX, WUE,
WUO, YAP, YEUAE, YEUAET, YEUM, YEUX, YIEE, YIT, YOQ COVER, YOQ SWIMMING, YUAEN, YUEQ, YUN, YUQ;
BAMUM LETTER PHASE-F: EE, FOM, KA, KEN, KET, KO, KPA, KU, KYEE, LA, LI, LOQ, M, MA, MBAA, MBEN,
MEEEE, MO, NDAA, NGGA, NGKWAEN, NI, NJAEM, NJUAE, NSHA, NTEE, NU, NUAE, NYI, PEE, PEUX, PUAE, REE,
REN, REUX, RIEE, RII, RU, SAMBA, SEUX, SHII, SHO, SHU, SI, SUU, TAA, TAE, TET, U, VUEQ, WA, WUE,
YA, YOQ;
BANKNOTE WITH: DOLLAR SIGN, EURO SIGN, POUND SIGN, YEN SIGN;
BAR: CHART, OF SOAP;
BASSA VAH COMBINING: HIGH TONE, HIGH-LOW TONE, LOW TONE, LOW-MID TONE, MID TONE;
BASSA VAH LETTER: A, BA, CE, DHII, DO, E, EE, ENNI, FA, GAH, GBU, HWAH, I, JO, KA, KPAH, MBE, O,
OO, PA, SE, TO, U, UWU, VU, WA, WADDA, YEIN, YIE, ZO;
BATAK: PANGOLAT, PANONGONAN, SIGN TOMPI;
BATAK CONSONANT SIGN: H, NG;
BATAK LETTER: A, BA, CA, DA, GA, HA, I, JA, KARO BA, LA, MA, MBA, NA, NDA, NGA, NORTHERN TA, NYA,
PA, PAKPAK WA, RA, SA, SOUTHERN TA, U, WA, YA;
BATAK LETTER MANDAILING: HA, NA, SA;
BATAK LETTER SIMALUNGUN: A, GA, HA, LA, MA, PA, RA, SA, WA, YA;
BATAK SYMBOL BINDU: JUDUL, NA METEK, PANGOLAT, PINARBORAS;
BATAK VOWEL SIGN: E, EE, I, KARO I, KARO O, O, PAKPAK E, U, U FOR SIMALUNGUN SA;
BEAMED: ASCENDING MUSICAL NOTES, DESCENDING MUSICAL NOTES, EIGHTH NOTES, SIXTEENTH NOTES;
BELL: ., PEPPER, SYMBOL, WITH CANCELLATION STROKE;
BENGALI: ABBREVIATION SIGN, ANJI, AU LENGTH MARK, CURRENCY DENOMINATOR SIXTEEN, GANDA MARK,
ISSHAR, RUPEE MARK, RUPEE SIGN, SANDHI MARK;
BENGALI CURRENCY NUMERATOR: FOUR, ONE, ONE LESS THAN THE DENOMINATOR, THREE, TWO;
BENGALI DIGIT: EIGHT, FIVE, FOUR, NINE, ONE, SEVEN, SIX, THREE, TWO, ZERO;
BENGALI LETTER: A, AA, AI, AU, BA, BHA, CA, CHA, DA, DDA, DDHA, DHA, E, GA, GHA, HA, I, II, JA,
JHA, KA, KHA, KHANDA TA, LA, MA, NA, NGA, NNA, NYA, O, PA, PHA, RA, RA WITH LOWER DIAGONAL, RA
WITH MIDDLE DIAGONAL, RHA, RRA, SA, SHA, SSA, TA, THA, TTA, TTHA, U, UU, VEDIC ANUSVARA, YA, YYA;
BENGALI LETTER VOCALIC: L, LL, R, RR;
BENGALI SIGN: ANUSVARA, AVAGRAHA, CANDRABINDU, NUKTA, VIRAMA, VISARGA;
BENGALI VOWEL SIGN: AA, AI, AU, E, I, II, O, U, UU;
BENGALI VOWEL SIGN VOCALIC: L, LL, R, RR;
BENZENE RING: ., WITH CIRCLE;
BHAIKSUKI: DANDA, DOUBLE DANDA, GAP FILLER-1, GAP FILLER-2, HUNDREDS UNIT MARK, WORD SEPARATOR;
BHAIKSUKI DIGIT: EIGHT, FIVE, FOUR, NINE, ONE, SEVEN, SIX, THREE, TWO, ZERO;
BHAIKSUKI LETTER: A, AA, AI, AU, BA, BHA, CA, CHA, DA, DDA, DDHA, DHA, E, GA, GHA, HA, I, II, JA,
JHA, KA, KHA, LA, MA, NA, NGA, NNA, NYA, O, PA, PHA, RA, SA, SHA, SSA, TA, THA, TTA, TTHA, U, UU,
VA, VOCALIC L, VOCALIC R, VOCALIC RR, YA;
BHAIKSUKI NUMBER: EIGHT, EIGHTY, FIFTY, FIVE, FORTY, FOUR, NINE, NINETY, ONE, SEVEN, SEVENTY, SIX,
SIXTY, TEN, THIRTY, THREE, TWENTY, TWO;
BHAIKSUKI SIGN: ANUSVARA, AVAGRAHA, CANDRABINDU, VIRAMA, VISARGA;
BHAIKSUKI VOWEL SIGN: AA, AI, AU, E, I, II, O, U, UU, VOCALIC L, VOCALIC R, VOCALIC RR;
BIG: REVERSE SOLIDUS, SOLIDUS;
BLACK: BOWTIE, CENTRE WHITE STAR, CLUB SUIT, CROSS ON SHIELD, DOWN POINTING BACKHAND INDEX,
DOWNWARDS EQUILATERAL ARROWHEAD, DROPLET, FLAG, FLORETTE, FOLDER, FOUR POINTED STAR, HARD SHELL
FLOPPY DISK, HEART, HEART SUIT, HEXAGON, HORIZONTAL ELLIPSE, HOURGLASS, LARGE CIRCLE, LARGE
SQUARE, LEFT LANE MERGE, LOWER LEFT TRIANGLE, LOWER RIGHT TRIANGLE, LOZENGE, MOON LILITH, NIB,
OCTAGON, PARALLELOGRAM, PENNANT, PENTAGON, PUSHPIN, QUESTION MARK ORNAMENT, RECTANGLE, ROSETTE,
SAFETY SCISSORS, SCISSORS, SHOGI PIECE, SKULL AND CROSSBONES, SMILING FACE, SNOWMAN, SPADE SUIT,
STAR, SUN WITH RAYS, TELEPHONE, TOUCHTONE TELEPHONE, TRUCK, TWO-WAY LEFT WAY TRAFFIC, UNIVERSAL
RECYCLING SYMBOL, UP POINTING BACKHAND INDEX, UPPER LEFT TRIANGLE, UPPER RIGHT TRIANGLE, UPWARDS
EQUILATERAL ARROWHEAD;
BLACK CHESS: BISHOP, EQUIHOPPER, EQUIHOPPER ROTATED NINETY DEGREES, KING, KING ROTATED NINETY
DEGREES, KING ROTATED TWO HUNDRED SEVENTY DEGREES, KNIGHT, KNIGHT-BISHOP, KNIGHT-QUEEN,
KNIGHT-ROOK, PAWN, PAWN ROTATED NINETY DEGREES, PAWN ROTATED TWO HUNDRED SEVENTY DEGREES, QUEEN,
QUEEN ROTATED NINETY DEGREES, QUEEN ROTATED TWO HUNDRED SEVENTY DEGREES, ROOK, ROOK ROTATED NINETY
DEGREES, ROOK ROTATED TWO HUNDRED SEVENTY DEGREES;
BLACK CHESS BISHOP ROTATED: NINETY DEGREES, TWO HUNDRED SEVENTY DEGREES;
BLACK CHESS KNIGHT ROTATED: FORTY-FIVE DEGREES, NINETY DEGREES, ONE HUNDRED THIRTY-FIVE DEGREES,
THREE HUNDRED FIFTEEN DEGREES, TWO HUNDRED SEVENTY DEGREES, TWO HUNDRED TWENTY-FIVE DEGREES;
BLACK CHESS TURNED: BISHOP, KING, KNIGHT, PAWN, QUEEN, ROOK;
BLACK CIRCLE: ., FOR RECORD, WITH DOWN ARROW, WITH TWO WHITE DOTS, WITH WHITE DOT RIGHT;
BLACK CURVED DOWNWARDS AND: LEFTWARDS ARROW, RIGHTWARDS ARROW;
BLACK CURVED LEFTWARDS AND: DOWNWARDS ARROW, UPWARDS ARROW;
BLACK CURVED RIGHTWARDS AND: DOWNWARDS ARROW, UPWARDS ARROW;
BLACK CURVED UPWARDS AND: LEFTWARDS ARROW, RIGHTWARDS ARROW;
BLACK DIAMOND: ., CENTRED, MINUS WHITE X, ON CROSS, SUIT, WITH DOWN ARROW;
BLACK DOWN-POINTING: DOUBLE TRIANGLE, ISOSCELES RIGHT TRIANGLE, SMALL TRIANGLE, TRIANGLE;
BLACK DRAUGHTS: KING, MAN;
BLACK LEFT POINTING: BACKHAND INDEX, INDEX;
BLACK LEFT-POINTING: DOUBLE TRIANGLE, DOUBLE TRIANGLE WITH VERTICAL BAR, ISOSCELES RIGHT TRIANGLE,
POINTER, SMALL TRIANGLE, TRIANGLE;
BLACK LEFTWARDS: BULLET, EQUILATERAL ARROWHEAD;
BLACK MEDIUM: DIAMOND, LOZENGE, SMALL DIAMOND, SMALL LOZENGE, SMALL SQUARE, SQUARE;
BLACK MEDIUM DOWN-POINTING TRIANGLE: ., CENTRED;
BLACK MEDIUM LEFT-POINTING TRIANGLE: ., CENTRED;
BLACK MEDIUM RIGHT-POINTING TRIANGLE: ., CENTRED;
BLACK MEDIUM UP-POINTING TRIANGLE: ., CENTRED;
BLACK RIGHT POINTING: BACKHAND INDEX, INDEX;
BLACK RIGHT-POINTING: DOUBLE TRIANGLE, DOUBLE TRIANGLE WITH VERTICAL BAR, ISOSCELES RIGHT
TRIANGLE, PENTAGON, POINTER, SMALL TRIANGLE, TRIANGLE, TRIANGLE WITH DOUBLE VERTICAL BAR;
BLACK RIGHTWARDS: ARROW, ARROWHEAD, BULLET, EQUILATERAL ARROWHEAD;
BLACK SLIGHTLY SMALL: CIRCLE, SQUARE;
BLACK SMALL: DIAMOND, LOZENGE, SQUARE, STAR;
BLACK SQUARE: ., BUTTON, CENTRED, FOR STOP;
BLACK TINY: DIAMOND, LOZENGE, SQUARE;
BLACK UP-POINTING: DOUBLE TRIANGLE, ISOSCELES RIGHT TRIANGLE, SMALL TRIANGLE, TRIANGLE;
BLACK VERTICAL: ELLIPSE, RECTANGLE;
BLACK VERY SMALL: DIAMOND, LOZENGE, SQUARE;
BLACK-FEATHERED: NORTH EAST ARROW, RIGHTWARDS ARROW, SOUTH EAST ARROW;
BLACK-LETTER CAPITAL: C, H, I, R, Z;
BLOCK: SEXTANT-1, SEXTANT-12, SEXTANT-123, SEXTANT-1234, SEXTANT-12345, SEXTANT-12346,
SEXTANT-1235, SEXTANT-12356, SEXTANT-1236, SEXTANT-124, SEXTANT-1245, SEXTANT-12456, SEXTANT-1246,
SEXTANT-125, SEXTANT-1256, SEXTANT-126, SEXTANT-13, SEXTANT-134, SEXTANT-1345, SEXTANT-13456,
SEXTANT-1346, SEXTANT-1356, SEXTANT-136, SEXTANT-14, SEXTANT-145, SEXTANT-1456, SEXTANT-146,
SEXTANT-15, SEXTANT-156, SEXTANT-16, SEXTANT-2, SEXTANT-23, SEXTANT-234, SEXTANT-2345,
SEXTANT-23456, SEXTANT-2346, SEXTANT-235, SEXTANT-2356, SEXTANT-236, SEXTANT-24, SEXTANT-245,
SEXTANT-2456, SEXTANT-25, SEXTANT-256, SEXTANT-26, SEXTANT-3, SEXTANT-34, SEXTANT-345,
SEXTANT-3456, SEXTANT-346, SEXTANT-35, SEXTANT-356, SEXTANT-36, SEXTANT-4, SEXTANT-45,
SEXTANT-456, SEXTANT-46, SEXTANT-5, SEXTANT-56, SEXTANT-6;
BLUE: BOOK, HEART;
BOLD: EIGHT SPOKED ASTERISK, FIVE SPOKED ASTERISK, GREEK CROSS, SALTIRE, SIX SPOKED ASTERISK,
WHITE CIRCLE, WHITE SQUARE;
BOOKMARK: ., TABS;
BOPOMOFO FINAL LETTER: G, H, K, P, T;
BOPOMOFO LETTER: A, AH, AI, AINN, AM, AN, ANG, ANN, AU, AUNN, B, BU, C, CH, D, E, EE, EH, EI, EN,
ENG, ENN, ER, F, G, GH, GN, GU, GW, H, I, IH, IM, INN, INNN, IR, IU, J, JI, K, KW, L, LH, M, N,
NG, NGG, NN, O, O WITH DOT ABOVE, OE, OM, ONG, ONN, OO, OU, P, Q, R, S, SH, T, U, UNN, V, X, Z,
ZH, ZI, ZY;
BOTTOM: ARC ANTICLOCKWISE ARROW, CURLY BRACKET, PARENTHESIS, TORTOISE SHELL BRACKET;
BOTTOM HALF: BLACK CIRCLE, INTEGRAL, LEFT PARENTHESIS, RIGHT PARENTHESIS;
BOTTOM LEFT: CORNER, CROP, HALF BRACKET;
BOTTOM RIGHT: CORNER, CROP, HALF BRACKET;
BOTTOM SQUARE BRACKET: ., OVER TOP SQUARE BRACKET;
BOUQUET: ., OF FLOWERS;
BOWL: OF HYGIEIA, WITH SPOON;
BOWTIE: ., WITH LEFT HALF BLACK, WITH RIGHT HALF BLACK;
BOX DRAWINGS: DOUBLE HORIZONTAL, LEFT DOWN HEAVY AND RIGHT UP LIGHT, LEFT UP HEAVY AND RIGHT DOWN
LIGHT, RIGHT DOWN HEAVY AND LEFT UP LIGHT, RIGHT UP HEAVY AND LEFT DOWN LIGHT;
BOX DRAWINGS DOUBLE DOWN AND: HORIZONTAL, LEFT, RIGHT;
BOX DRAWINGS DOUBLE UP AND: HORIZONTAL, LEFT, RIGHT;
BOX DRAWINGS DOUBLE VERTICAL: ., AND HORIZONTAL, AND LEFT, AND RIGHT;
BOX DRAWINGS DOWN DOUBLE AND: HORIZONTAL SINGLE, LEFT SINGLE, RIGHT SINGLE;
BOX DRAWINGS DOWN HEAVY AND: HORIZONTAL LIGHT, LEFT LIGHT, LEFT UP LIGHT, RIGHT LIGHT, RIGHT UP
LIGHT, UP HORIZONTAL LIGHT;
BOX DRAWINGS DOWN LIGHT AND: HORIZONTAL HEAVY, LEFT HEAVY, LEFT UP HEAVY, RIGHT HEAVY, RIGHT UP
HEAVY, UP HORIZONTAL HEAVY;
BOX DRAWINGS DOWN SINGLE AND: HORIZONTAL DOUBLE, LEFT DOUBLE, RIGHT DOUBLE;
BOX DRAWINGS HEAVY: DOUBLE DASH HORIZONTAL, DOUBLE DASH VERTICAL, DOWN, DOWN AND HORIZONTAL, DOWN
AND LEFT, DOWN AND RIGHT, HORIZONTAL, LEFT, LEFT AND LIGHT RIGHT, QUADRUPLE DASH HORIZONTAL,
QUADRUPLE DASH VERTICAL, RIGHT, TRIPLE DASH HORIZONTAL, TRIPLE DASH VERTICAL, UP, UP AND
HORIZONTAL, UP AND LEFT, UP AND LIGHT DOWN, UP AND RIGHT, VERTICAL;
BOX DRAWINGS HEAVY VERTICAL AND: HORIZONTAL, LEFT, RIGHT;
BOX DRAWINGS LEFT HEAVY AND RIGHT: DOWN LIGHT, UP LIGHT, VERTICAL LIGHT;
BOX DRAWINGS LEFT LIGHT AND RIGHT: DOWN HEAVY, UP HEAVY, VERTICAL HEAVY;
BOX DRAWINGS LIGHT: ARC DOWN AND LEFT, ARC DOWN AND RIGHT, ARC UP AND LEFT, ARC UP AND RIGHT,
DOUBLE DASH HORIZONTAL, DOUBLE DASH VERTICAL, DOWN, DOWN AND HORIZONTAL, DOWN AND LEFT, DOWN AND
RIGHT, HORIZONTAL, HORIZONTAL WITH VERTICAL STROKE, LEFT, LEFT AND HEAVY RIGHT, QUADRUPLE DASH
HORIZONTAL, QUADRUPLE DASH VERTICAL, RIGHT, TRIPLE DASH HORIZONTAL, TRIPLE DASH VERTICAL, UP, UP
AND HEAVY DOWN, UP AND HORIZONTAL, UP AND LEFT, UP AND RIGHT, VERTICAL;
BOX DRAWINGS LIGHT DIAGONAL: CROSS, DIAMOND, MIDDLE RIGHT TO LOWER CENTRE, MIDDLE RIGHT TO UPPER
CENTRE TO MIDDLE LEFT TO LOWER CENTRE, UPPER LEFT TO LOWER RIGHT, UPPER RIGHT TO LOWER LEFT;
BOX DRAWINGS LIGHT DIAGONAL MIDDLE LEFT TO: LOWER CENTRE, LOWER CENTRE TO MIDDLE RIGHT, UPPER
CENTRE TO MIDDLE RIGHT, UPPER CENTRE TO MIDDLE RIGHT TO LOWER CENTRE;
BOX DRAWINGS LIGHT DIAGONAL UPPER CENTRE TO MIDDLE: LEFT, LEFT AND MIDDLE RIGHT TO LOWER CENTRE,
LEFT TO LOWER CENTRE, LEFT TO LOWER CENTRE TO MIDDLE RIGHT, RIGHT, RIGHT AND MIDDLE LEFT TO LOWER
CENTRE, RIGHT TO LOWER CENTRE, RIGHT TO LOWER CENTRE TO MIDDLE LEFT;
BOX DRAWINGS LIGHT VERTICAL AND: HORIZONTAL, LEFT, RIGHT;
BOX DRAWINGS RIGHT HEAVY AND LEFT: DOWN LIGHT, UP LIGHT, VERTICAL LIGHT;
BOX DRAWINGS RIGHT LIGHT AND LEFT: DOWN HEAVY, UP HEAVY, VERTICAL HEAVY;
BOX DRAWINGS UP DOUBLE AND: HORIZONTAL SINGLE, LEFT SINGLE, RIGHT SINGLE;
BOX DRAWINGS UP HEAVY AND: DOWN HORIZONTAL LIGHT, HORIZONTAL LIGHT, LEFT DOWN LIGHT, LEFT LIGHT,
RIGHT DOWN LIGHT, RIGHT LIGHT;
BOX DRAWINGS UP LIGHT AND: DOWN HORIZONTAL HEAVY, HORIZONTAL HEAVY, LEFT DOWN HEAVY, LEFT HEAVY,
RIGHT DOWN HEAVY, RIGHT HEAVY;
BOX DRAWINGS UP SINGLE AND: HORIZONTAL DOUBLE, LEFT DOUBLE, RIGHT DOUBLE;
BOX DRAWINGS VERTICAL DOUBLE AND: HORIZONTAL SINGLE, LEFT SINGLE, RIGHT SINGLE;
BOX DRAWINGS VERTICAL HEAVY AND: HORIZONTAL LIGHT, LEFT LIGHT, RIGHT LIGHT;
BOX DRAWINGS VERTICAL LIGHT AND: HORIZONTAL HEAVY, LEFT HEAVY, RIGHT HEAVY;
BOX DRAWINGS VERTICAL SINGLE AND: HORIZONTAL DOUBLE, LEFT DOUBLE, RIGHT DOUBLE;
BRAHMI: DANDA, DOUBLE DANDA, VIRAMA;
BRAHMI DIGIT: EIGHT, FIVE, FOUR, NINE, ONE, SEVEN, SIX, THREE, TWO, ZERO;
BRAHMI LETTER: A, AA, AI, AU, BA, BHA, CA, CHA, DA, DDA, DDHA, DHA, E, GA, GHA, HA, I, II, JA,
JHA, KA, KHA, LA, LLA, MA, NA, NGA, NNA, NYA, O, PA, PHA, RA, SA, SHA, SSA, TA, THA, TTA, TTHA, U,
UU, VA, YA;
BRAHMI LETTER OLD TAMIL: LLA, LLLA, NNNA, RRA, SHORT E, SHORT O;
BRAHMI LETTER VOCALIC: L, LL, R, RR;
BRAHMI NUMBER: EIGHT, EIGHTY, FIFTY, FIVE, FORTY, FOUR, JOINER, NINE, NINETY, ONE, ONE HUNDRED,
ONE THOUSAND, SEVEN, SEVENTY, SIX, SIXTY, TEN, THIRTY, THREE, TWENTY, TWO;
BRAHMI PUNCTUATION: CRESCENT BAR, DOT, DOUBLE DOT, LINE, LOTUS;
BRAHMI SIGN: ANUSVARA, CANDRABINDU, JIHVAMULIYA, OLD TAMIL VIRAMA, UPADHMANIYA, VISARGA;
BRAHMI VOWEL SIGN: AA, AI, AU, BHATTIPROLU AA, E, I, II, O, OLD TAMIL SHORT E, OLD TAMIL SHORT O,
U, UU;
BRAHMI VOWEL SIGN VOCALIC: L, LL, R, RR;
BRAILLE PATTERN: BLANK, DOTS-1, DOTS-12, DOTS-123, DOTS-1234, DOTS-12345, DOTS-123456,
DOTS-1234567, DOTS-12345678, DOTS-1234568, DOTS-123457, DOTS-1234578, DOTS-123458, DOTS-12346,
DOTS-123467, DOTS-1234678, DOTS-123468, DOTS-12347, DOTS-123478, DOTS-12348, DOTS-1235,
DOTS-12356, DOTS-123567, DOTS-1235678, DOTS-123568, DOTS-12357, DOTS-123578, DOTS-12358,
DOTS-1236, DOTS-12367, DOTS-123678, DOTS-12368, DOTS-1237, DOTS-12378, DOTS-1238, DOTS-124,
DOTS-1245, DOTS-12456, DOTS-124567, DOTS-1245678, DOTS-124568, DOTS-12457, DOTS-124578,
DOTS-12458, DOTS-1246, DOTS-12467, DOTS-124678, DOTS-12468, DOTS-1247, DOTS-12478, DOTS-1248,
DOTS-125, DOTS-1256, DOTS-12567, DOTS-125678, DOTS-12568, DOTS-1257, DOTS-12578, DOTS-1258,
DOTS-126, DOTS-1267, DOTS-12678, DOTS-1268, DOTS-127, DOTS-1278, DOTS-128, DOTS-13, DOTS-134,
DOTS-1345, DOTS-13456, DOTS-134567, DOTS-1345678, DOTS-134568, DOTS-13457, DOTS-134578,
DOTS-13458, DOTS-1346, DOTS-13467, DOTS-134678, DOTS-13468, DOTS-1347, DOTS-13478, DOTS-1348,
DOTS-135, DOTS-1356, DOTS-13567, DOTS-135678, DOTS-13568, DOTS-1357, DOTS-13578, DOTS-1358,
DOTS-136, DOTS-1367, DOTS-13678, DOTS-1368, DOTS-137, DOTS-1378, DOTS-138, DOTS-14, DOTS-145,
DOTS-1456, DOTS-14567, DOTS-145678, DOTS-14568, DOTS-1457, DOTS-14578, DOTS-1458, DOTS-146,
DOTS-1467, DOTS-14678, DOTS-1468, DOTS-147, DOTS-1478, DOTS-148, DOTS-15, DOTS-156, DOTS-1567,
DOTS-15678, DOTS-1568, DOTS-157, DOTS-1578, DOTS-158, DOTS-16, DOTS-167, DOTS-1678, DOTS-168,
DOTS-17, DOTS-178, DOTS-18, DOTS-2, DOTS-23, DOTS-234, DOTS-2345, DOTS-23456, DOTS-234567,
DOTS-2345678, DOTS-234568, DOTS-23457, DOTS-234578, DOTS-23458, DOTS-2346, DOTS-23467,
DOTS-234678, DOTS-23468, DOTS-2347, DOTS-23478, DOTS-2348, DOTS-235, DOTS-2356, DOTS-23567,
DOTS-235678, DOTS-23568, DOTS-2357, DOTS-23578, DOTS-2358, DOTS-236, DOTS-2367, DOTS-23678,
DOTS-2368, DOTS-237, DOTS-2378, DOTS-238, DOTS-24, DOTS-245, DOTS-2456, DOTS-24567, DOTS-245678,
DOTS-24568, DOTS-2457, DOTS-24578, DOTS-2458, DOTS-246, DOTS-2467, DOTS-24678, DOTS-2468,
DOTS-247, DOTS-2478, DOTS-248, DOTS-25, DOTS-256, DOTS-2567, DOTS-25678, DOTS-2568, DOTS-257,
DOTS-2578, DOTS-258, DOTS-26, DOTS-267, DOTS-2678, DOTS-268, DOTS-27, DOTS-278, DOTS-28, DOTS-3,
DOTS-34, DOTS-345, DOTS-3456, DOTS-34567, DOTS-345678, DOTS-34568, DOTS-3457, DOTS-34578,
DOTS-3458, DOTS-346, DOTS-3467, DOTS-34678, DOTS-3468, DOTS-347, DOTS-3478, DOTS-348, DOTS-35,
DOTS-356, DOTS-3567, DOTS-35678, DOTS-3568, DOTS-357, DOTS-3578, DOTS-358, DOTS-36, DOTS-367,
DOTS-3678, DOTS-368, DOTS-37, DOTS-378, DOTS-38, DOTS-4, DOTS-45, DOTS-456, DOTS-4567, DOTS-45678,
DOTS-4568, DOTS-457, DOTS-4578, DOTS-458, DOTS-46, DOTS-467, DOTS-4678, DOTS-468, DOTS-47,
DOTS-478, DOTS-48, DOTS-5, DOTS-56, DOTS-567, DOTS-5678, DOTS-568, DOTS-57, DOTS-578, DOTS-58,
DOTS-6, DOTS-67, DOTS-678, DOTS-68, DOTS-7, DOTS-78, DOTS-8;
BROKEN: BAR, CIRCLE WITH NORTHWEST ARROW, HEART;
BUGINESE: END OF SECTION, PALLAWA;
BUGINESE LETTER: A, BA, CA, DA, GA, HA, JA, KA, LA, MA, MPA, NA, NGA, NGKA, NRA, NYA, NYCA, PA,
RA, SA, TA, VA, YA;
BUGINESE VOWEL SIGN: AE, E, I, O, U;
BUHID LETTER: A, BA, DA, GA, HA, I, KA, LA, MA, NA, NGA, PA, RA, SA, TA, U, WA, YA;
BUHID VOWEL SIGN: I, U;
BULLET: ., OPERATOR;
BULLHORN: ., WITH SOUND WAVES;
BUS: ., STOP;
BYZANTINE MUSICAL SYMBOL: ANATRICHISMA, ANTIKENOKYLISMA, ANTIKENOMA, APESO EKFONITIKON, APESO EXO
NEO, APLI, APODERMA ARCHAION, APODERMA NEO, APOSTROFOI SYNDESMOS NEO, APOSTROFOI TELOUS ICHIMATOS,
APOSTROFOS, APOSTROFOS DIPLI, APOSTROFOS NEO, APOTHEMA, ARGON, ARGOSYNTHETON, CHAMILI, CHAMILON,
CHOREVMA ARCHAION, CHOREVMA NEO, CHROA KLITON, CHROA SPATHI, CHROA ZYGOS, DASEIA, DIARGON,
DIASTOLI APLI MEGALI, DIASTOLI APLI MIKRI, DIASTOLI DIPLI, DIASTOLI THESEOS, DIFTOGGOS OU,
DIGORGON, DIGRAMMA GG, DIPLI, DIPLI ARCHAION, DYO, EKSTREPTON, ELAFRON, ENARXIS KAI FTHORA VOU,
ENDOFONON, EPEGERMA, ETERON ARGOSYNTHETON, ETERON PARAKALESMA, EXO EKFONITIKON, FANEROSIS
DIFONIAS, FANEROSIS MONOFONIAS, FANEROSIS TETRAFONIAS, FHTORA SKLIRON CHROMA VASIS, GENIKI DIESIS,
GENIKI YFESIS, GORGOSYNTHETON, GORTHMIKON N APLOUN, GORTHMIKON N DIPLOUN, GRONTHISMATA, ICHADIN,
IMIDIARGON, IMIFONON, IMIFTHORA, IMIFTHORON, ISAKIA TELOUS ICHIMATOS, ISON ARCHAION, ISON NEO,
KATAVA TROMIKON, KATAVASMA, KATHISTI, KENTIMA ARCHAION, KENTIMA NEO ANO, KENTIMA NEO KATO, KENTIMA
NEO MESO, KLASMA, KLASMA ANO, KLASMA KATO, KONTEVMA, KONTEVMA ALLO, KORONIS, KOUFISMA, KRATIMA
ALLO, KRATIMA ARCHAION, KRATIMA NEO, KRATIMATA, KRATIMOKOUFISMA, KRATIMOYPORROON, KREMASTI,
KYLISMA, LEMOI, LYGISMA, MIKRON ISON, NANA, OLIGON ARCHAION, OLIGON NEO, OMALON, OXEIA DIPLI,
OXEIA EKFONITIKON, OXEIA NEO, OXEIAI ARCHAION, OYRANISMA ARCHAION, OYRANISMA NEO, PARAKALESMA
ARCHAION, PARAKALESMA NEO, PARAKLITIKI, PARAKLITIKI ARCHAION, PARAKLITIKI NEO, PARICHON, PELASTON,
PELASTON NEO, PERISPOMENI, PETASMA, PETASTI, PETASTOKOUFISMA, PIASMA ARCHAION, PIASMA NEO,
PSIFISTOLYGISMA, PSIFISTON, PSIFISTON NEO, PSIFISTOPARAKALESMA, PSIFISTOSYNAGMA, PSILI, PSILON,
RAPISMA, REVMA, SAXIMATA, SEISMA, SEISMA NEO, STAVROS, STAVROS APODEXIA, STIGMA, STRAGGISMATA,
SYNAGMA ARCHAION, SYNAGMA META STAVROU, SYNAGMA NEO, SYNEVMA, SYRMA, SYRMATIKI, TELEIA, TESSERA,
TETRAPLI, THEMA, THEMA APLOUN, THEMATISMOS ESO, THEMATISMOS EXO, THES KAI APOTHES, THITA, TINAGMA,
TRIA, TRIGORGON, TRIPLI, TROMIKOLYGISMA, TROMIKON ALLO, TROMIKON ARCHAION, TROMIKON NEO,
TROMIKOPARAKALESMA, TROMIKOPSIFISTON, TROMIKOSYNAGMA, VAREIA DIPLI, VAREIA EKFONITIKON, VAREIA
NEO, VAREIAI ARCHAION, VATHY, XIRON KLASMA, YFEN ANO, YFEN KATO, YPOKRISIS, YPOKRISIS DIPLI,
YPORROI, YPSILI;
BYZANTINE MUSICAL SYMBOL AGOGI: ARGI, ARGOTERI, GORGI, GORGOTERI, MESI, METRIA, POLI ARGI, POLI
GORGI;
BYZANTINE MUSICAL SYMBOL ARKTIKO: DI, GA, KE, NI, PA, VOU, ZO;
BYZANTINE MUSICAL SYMBOL DIESIS: APLI DYO DODEKATA, DIGRAMMOS EX DODEKATA, MONOGRAMMOS TESSERA
DODEKATA, TETARTIMORION, TRIGRAMMOS OKTO DODEKATA, TRITIMORION;
BYZANTINE MUSICAL SYMBOL DIGORGON PARESTIGMENON: ARISTERA ANO, ARISTERA KATO, DEXIA;
BYZANTINE MUSICAL SYMBOL FTHORA: ARCHAION, ARCHAION DEYTEROU ICHOU, ENARMONIOS ANTIFONIA, I YFESIS
TETARTIMORION, MALAKON CHROMA DIFONIAS, MALAKON CHROMA MONOFONIAS, NAOS ICHOS, NENANO, SKLIRON
CHROMA SYNAFI, SKLIRON CHROMA VASIS, SKLIRON DIATONON DI;
BYZANTINE MUSICAL SYMBOL FTHORA DIATONIKI: DI, KE, NANA, NI ANO, NI KATO, PA, ZO;
BYZANTINE MUSICAL SYMBOL GORGON: ARCHAION, NEO ANO, NEO KATO, PARESTIGMENON ARISTERA,
PARESTIGMENON DEXIA;
BYZANTINE MUSICAL SYMBOL KENTIMATA: ., ARCHAION, NEO ANO, NEO KATO, NEO MESO;
BYZANTINE MUSICAL SYMBOL LEIMMA: DYO CHRONON, ENOS CHRONOU, IMISEOS CHRONOU, TESSARON CHRONON,
TRION CHRONON;
BYZANTINE MUSICAL SYMBOL MARTYRIA: ALLI DEYTEROS ICHOS, ALLI PROTOS ICHOS, DEYTEROS ICHOS, LEGETOS
ICHOS, PLAGIOS ICHOS, PLAGIOS TETARTOS ICHOS, PROTOS ICHOS, PROTOVARYS ICHOS, TETARTOS ICHOS,
TETARTOS LEGETOS ICHOS, TRIFONIAS, TRITOS ICHOS, VARYS ICHOS;
BYZANTINE MUSICAL SYMBOL SIMANSIS ARSEOS: ., DISIMOU, TETRASIMOU, TRISIMOU;
BYZANTINE MUSICAL SYMBOL SIMANSIS THESEOS: ., DISIMOU, TETRASIMOU, TRISIMOU;
BYZANTINE MUSICAL SYMBOL YFESIS: APLI DYO DODEKATA, DIGRAMMOS EX DODEKATA, MONOGRAMMOS TESSERA
DODEKATA, TRIGRAMMOS OKTO DODEKATA, TRITIMORION"

end OperationClasses.Text.CharacterNames
