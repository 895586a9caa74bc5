/-!
# Names of symbols

Names of the Unicode character database (version 14), as runs of consecutive code points: the first
of them, and the names of all.
-/

namespace Playground.Text.Name

/-- Names of punctuation and of signs of currencies. -/
def punctuation : List (Nat × List String) := [
  (0x2000, [
    "EN QUAD", "EM QUAD", "EN SPACE", "EM SPACE", "THREE-PER-EM SPACE", "FOUR-PER-EM SPACE",
    "SIX-PER-EM SPACE", "FIGURE SPACE", "PUNCTUATION SPACE", "THIN SPACE", "HAIR SPACE",
    "ZERO WIDTH SPACE", "ZERO WIDTH NON-JOINER", "ZERO WIDTH JOINER", "LEFT-TO-RIGHT MARK",
    "RIGHT-TO-LEFT MARK", "HYPHEN", "NON-BREAKING HYPHEN", "FIGURE DASH", "EN DASH", "EM DASH",
    "HORIZONTAL BAR", "DOUBLE VERTICAL LINE", "DOUBLE LOW LINE", "LEFT SINGLE QUOTATION MARK",
    "RIGHT SINGLE QUOTATION MARK", "SINGLE LOW-9 QUOTATION MARK",
    "SINGLE HIGH-REVERSED-9 QUOTATION MARK", "LEFT DOUBLE QUOTATION MARK",
    "RIGHT DOUBLE QUOTATION MARK", "DOUBLE LOW-9 QUOTATION MARK",
    "DOUBLE HIGH-REVERSED-9 QUOTATION MARK", "DAGGER", "DOUBLE DAGGER", "BULLET",
    "TRIANGULAR BULLET", "ONE DOT LEADER", "TWO DOT LEADER", "HORIZONTAL ELLIPSIS",
    "HYPHENATION POINT", "LINE SEPARATOR", "PARAGRAPH SEPARATOR", "LEFT-TO-RIGHT EMBEDDING",
    "RIGHT-TO-LEFT EMBEDDING", "POP DIRECTIONAL FORMATTING", "LEFT-TO-RIGHT OVERRIDE",
    "RIGHT-TO-LEFT OVERRIDE", "NARROW NO-BREAK SPACE", "PER MILLE SIGN", "PER TEN THOUSAND SIGN",
    "PRIME", "DOUBLE PRIME", "TRIPLE PRIME", "REVERSED PRIME", "REVERSED DOUBLE PRIME",
    "REVERSED TRIPLE PRIME", "CARET", "SINGLE LEFT-POINTING ANGLE QUOTATION MARK",
    "SINGLE RIGHT-POINTING ANGLE QUOTATION MARK", "REFERENCE MARK", "DOUBLE EXCLAMATION MARK",
    "INTERROBANG", "OVERLINE", "UNDERTIE", "CHARACTER TIE", "CARET INSERTION POINT", "ASTERISM",
    "HYPHEN BULLET", "FRACTION SLASH", "LEFT SQUARE BRACKET WITH QUILL",
    "RIGHT SQUARE BRACKET WITH QUILL", "DOUBLE QUESTION MARK", "QUESTION EXCLAMATION MARK",
    "EXCLAMATION QUESTION MARK", "TIRONIAN SIGN ET", "REVERSED PILCROW SIGN",
    "BLACK LEFTWARDS BULLET", "BLACK RIGHTWARDS BULLET", "LOW ASTERISK", "REVERSED SEMICOLON",
    "CLOSE UP", "TWO ASTERISKS ALIGNED VERTICALLY", "COMMERCIAL MINUS SIGN", "SWUNG DASH",
    "INVERTED UNDERTIE", "FLOWER PUNCTUATION MARK", "THREE DOT PUNCTUATION", "QUADRUPLE PRIME",
    "FOUR DOT PUNCTUATION", "FIVE DOT PUNCTUATION", "TWO DOT PUNCTUATION", "FOUR DOT MARK",
    "DOTTED CROSS", "TRICOLON", "VERTICAL FOUR DOTS", "MEDIUM MATHEMATICAL SPACE", "WORD JOINER",
    "FUNCTION APPLICATION", "INVISIBLE TIMES", "INVISIBLE SEPARATOR", "INVISIBLE PLUS"]),
  (0x2066, [
    "LEFT-TO-RIGHT ISOLATE", "RIGHT-TO-LEFT ISOLATE", "FIRST STRONG ISOLATE",
    "POP DIRECTIONAL ISOLATE", "INHIBIT SYMMETRIC SWAPPING", "ACTIVATE SYMMETRIC SWAPPING",
    "INHIBIT ARABIC FORM SHAPING", "ACTIVATE ARABIC FORM SHAPING", "NATIONAL DIGIT SHAPES",
    "NOMINAL DIGIT SHAPES"]),
  (0x20A0, [
    "EURO-CURRENCY SIGN", "COLON SIGN", "CRUZEIRO SIGN", "FRENCH FRANC SIGN", "LIRA SIGN",
    "MILL SIGN", "NAIRA SIGN", "PESETA SIGN", "RUPEE SIGN", "WON SIGN", "NEW SHEQEL SIGN",
    "DONG SIGN", "EURO SIGN", "KIP SIGN", "TUGRIK SIGN", "DRACHMA SIGN", "GERMAN PENNY SIGN",
    "PESO SIGN", "GUARANI SIGN", "AUSTRAL SIGN", "HRYVNIA SIGN", "CEDI SIGN", "LIVRE TOURNOIS SIGN",
    "SPESMILO SIGN", "TENGE SIGN", "INDIAN RUPEE SIGN", "TURKISH LIRA SIGN", "NORDIC MARK SIGN",
    "MANAT SIGN", "RUBLE SIGN", "LARI SIGN", "BITCOIN SIGN", "SOM SIGN"])]

/-- Names of symbols made from letters, and of arrows. -/
def letterlike : List (Nat × List String) := [
  (0x2100, [
    "ACCOUNT OF", "ADDRESSED TO THE SUBJECT", "DOUBLE-STRUCK CAPITAL C", "DEGREE CELSIUS",
    "CENTRE LINE SYMBOL", "CARE OF", "CADA UNA", "EULER CONSTANT", "SCRUPLE", "DEGREE FAHRENHEIT",
    "SCRIPT SMALL G", "SCRIPT CAPITAL H", "BLACK-LETTER CAPITAL H", "DOUBLE-STRUCK CAPITAL H",
    "PLANCK CONSTANT", "PLANCK CONSTANT OVER TWO PI", "SCRIPT CAPITAL I", "BLACK-LETTER CAPITAL I",
    "SCRIPT CAPITAL L", "SCRIPT SMALL L", "L B BAR SYMBOL", "DOUBLE-STRUCK CAPITAL N",
    "NUMERO SIGN", "SOUND RECORDING COPYRIGHT", "SCRIPT CAPITAL P", "DOUBLE-STRUCK CAPITAL P",
    "DOUBLE-STRUCK CAPITAL Q", "SCRIPT CAPITAL R", "BLACK-LETTER CAPITAL R",
    "DOUBLE-STRUCK CAPITAL R", "PRESCRIPTION TAKE", "RESPONSE", "SERVICE MARK", "TELEPHONE SIGN",
    "TRADE MARK SIGN", "VERSICLE", "DOUBLE-STRUCK CAPITAL Z", "OUNCE SIGN", "OHM SIGN",
    "INVERTED OHM SIGN", "BLACK-LETTER CAPITAL Z", "TURNED GREEK SMALL LETTER IOTA", "KELVIN SIGN",
    "ANGSTROM SIGN", "SCRIPT CAPITAL B", "BLACK-LETTER CAPITAL C", "ESTIMATED SYMBOL",
    "SCRIPT SMALL E", "SCRIPT CAPITAL E", "SCRIPT CAPITAL F", "TURNED CAPITAL F",
    "SCRIPT CAPITAL M", "SCRIPT SMALL O", "ALEF SYMBOL", "BET SYMBOL", "GIMEL SYMBOL",
    "DALET SYMBOL", "INFORMATION SOURCE", "ROTATED CAPITAL Q", "FACSIMILE SIGN",
    "DOUBLE-STRUCK SMALL PI", "DOUBLE-STRUCK SMALL GAMMA", "DOUBLE-STRUCK CAPITAL GAMMA",
    "DOUBLE-STRUCK CAPITAL PI", "DOUBLE-STRUCK N-ARY SUMMATION", "TURNED SANS-SERIF CAPITAL G",
    "TURNED SANS-SERIF CAPITAL L", "REVERSED SANS-SERIF CAPITAL L", "TURNED SANS-SERIF CAPITAL Y",
    "DOUBLE-STRUCK ITALIC CAPITAL D", "DOUBLE-STRUCK ITALIC SMALL D",
    "DOUBLE-STRUCK ITALIC SMALL E", "DOUBLE-STRUCK ITALIC SMALL I", "DOUBLE-STRUCK ITALIC SMALL J",
    "PROPERTY LINE", "TURNED AMPERSAND", "PER SIGN", "AKTIESELSKAB", "TURNED SMALL F",
    "SYMBOL FOR SAMARITAN SOURCE"]),
  (0x2190, [
    "LEFTWARDS ARROW", "UPWARDS ARROW", "RIGHTWARDS ARROW", "DOWNWARDS ARROW", "LEFT RIGHT ARROW",
    "UP DOWN ARROW", "NORTH WEST ARROW", "NORTH EAST ARROW", "SOUTH EAST ARROW", "SOUTH WEST ARROW",
    "LEFTWARDS ARROW WITH STROKE", "RIGHTWARDS ARROW WITH STROKE", "LEFTWARDS WAVE ARROW",
    "RIGHTWARDS WAVE ARROW", "LEFTWARDS TWO HEADED ARROW", "UPWARDS TWO HEADED ARROW",
    "RIGHTWARDS TWO HEADED ARROW", "DOWNWARDS TWO HEADED ARROW", "LEFTWARDS ARROW WITH TAIL",
    "RIGHTWARDS ARROW WITH TAIL", "LEFTWARDS ARROW FROM BAR", "UPWARDS ARROW FROM BAR",
    "RIGHTWARDS ARROW FROM BAR", "DOWNWARDS ARROW FROM BAR", "UP DOWN ARROW WITH BASE",
    "LEFTWARDS ARROW WITH HOOK", "RIGHTWARDS ARROW WITH HOOK", "LEFTWARDS ARROW WITH LOOP",
    "RIGHTWARDS ARROW WITH LOOP", "LEFT RIGHT WAVE ARROW", "LEFT RIGHT ARROW WITH STROKE",
    "DOWNWARDS ZIGZAG ARROW", "UPWARDS ARROW WITH TIP LEFTWARDS",
    "UPWARDS ARROW WITH TIP RIGHTWARDS", "DOWNWARDS ARROW WITH TIP LEFTWARDS",
    "DOWNWARDS ARROW WITH TIP RIGHTWARDS", "RIGHTWARDS ARROW WITH CORNER DOWNWARDS",
    "DOWNWARDS ARROW WITH CORNER LEFTWARDS", "ANTICLOCKWISE TOP SEMICIRCLE ARROW",
    "CLOCKWISE TOP SEMICIRCLE ARROW", "NORTH WEST ARROW TO LONG BAR",
    "LEFTWARDS ARROW TO BAR OVER RIGHTWARDS ARROW TO BAR", "ANTICLOCKWISE OPEN CIRCLE ARROW",
    "CLOCKWISE OPEN CIRCLE ARROW", "LEFTWARDS HARPOON WITH BARB UPWARDS",
    "LEFTWARDS HARPOON WITH BARB DOWNWARDS", "UPWARDS HARPOON WITH BARB RIGHTWARDS",
    "UPWARDS HARPOON WITH BARB LEFTWARDS", "RIGHTWARDS HARPOON WITH BARB UPWARDS",
    "RIGHTWARDS HARPOON WITH BARB DOWNWARDS", "DOWNWARDS HARPOON WITH BARB RIGHTWARDS",
    "DOWNWARDS HARPOON WITH BARB LEFTWARDS", "RIGHTWARDS ARROW OVER LEFTWARDS ARROW",
    "UPWARDS ARROW LEFTWARDS OF DOWNWARDS ARROW", "LEFTWARDS ARROW OVER RIGHTWARDS ARROW",
    "LEFTWARDS PAIRED ARROWS", "UPWARDS PAIRED ARROWS", "RIGHTWARDS PAIRED ARROWS",
    "DOWNWARDS PAIRED ARROWS", "LEFTWARDS HARPOON OVER RIGHTWARDS HARPOON",
    "RIGHTWARDS HARPOON OVER LEFTWARDS HARPOON", "LEFTWARDS DOUBLE ARROW WITH STROKE",
    "LEFT RIGHT DOUBLE ARROW WITH STROKE", "RIGHTWARDS DOUBLE ARROW WITH STROKE",
    "LEFTWARDS DOUBLE ARROW", "UPWARDS DOUBLE ARROW", "RIGHTWARDS DOUBLE ARROW",
    "DOWNWARDS DOUBLE ARROW", "LEFT RIGHT DOUBLE ARROW", "UP DOWN DOUBLE ARROW",
    "NORTH WEST DOUBLE ARROW", "NORTH EAST DOUBLE ARROW", "SOUTH EAST DOUBLE ARROW",
    "SOUTH WEST DOUBLE ARROW", "LEFTWARDS TRIPLE ARROW", "RIGHTWARDS TRIPLE ARROW",
    "LEFTWARDS SQUIGGLE ARROW", "RIGHTWARDS SQUIGGLE ARROW", "UPWARDS ARROW WITH DOUBLE STROKE",
    "DOWNWARDS ARROW WITH DOUBLE STROKE", "LEFTWARDS DASHED ARROW", "UPWARDS DASHED ARROW",
    "RIGHTWARDS DASHED ARROW", "DOWNWARDS DASHED ARROW", "LEFTWARDS ARROW TO BAR",
    "RIGHTWARDS ARROW TO BAR", "LEFTWARDS WHITE ARROW", "UPWARDS WHITE ARROW",
    "RIGHTWARDS WHITE ARROW", "DOWNWARDS WHITE ARROW", "UPWARDS WHITE ARROW FROM BAR",
    "UPWARDS WHITE ARROW ON PEDESTAL", "UPWARDS WHITE ARROW ON PEDESTAL WITH HORIZONTAL BAR",
    "UPWARDS WHITE ARROW ON PEDESTAL WITH VERTICAL BAR", "UPWARDS WHITE DOUBLE ARROW",
    "UPWARDS WHITE DOUBLE ARROW ON PEDESTAL", "RIGHTWARDS WHITE ARROW FROM WALL",
    "NORTH WEST ARROW TO CORNER", "SOUTH EAST ARROW TO CORNER", "UP DOWN WHITE ARROW",
    "RIGHT ARROW WITH SMALL CIRCLE", "DOWNWARDS ARROW LEFTWARDS OF UPWARDS ARROW",
    "THREE RIGHTWARDS ARROWS", "LEFTWARDS ARROW WITH VERTICAL STROKE",
    "RIGHTWARDS ARROW WITH VERTICAL STROKE", "LEFT RIGHT ARROW WITH VERTICAL STROKE",
    "LEFTWARDS ARROW WITH DOUBLE VERTICAL STROKE", "RIGHTWARDS ARROW WITH DOUBLE VERTICAL STROKE",
    "LEFT RIGHT ARROW WITH DOUBLE VERTICAL STROKE", "LEFTWARDS OPEN-HEADED ARROW",
    "RIGHTWARDS OPEN-HEADED ARROW", "LEFT RIGHT OPEN-HEADED ARROW"])]

/-- Names of mathematical operators. -/
def operators : List (Nat × List String) := [
  (0x2200, [
    "FOR ALL", "COMPLEMENT", "PARTIAL DIFFERENTIAL", "THERE EXISTS", "THERE DOES NOT EXIST",
    "EMPTY SET", "INCREMENT", "NABLA", "ELEMENT OF", "NOT AN ELEMENT OF", "SMALL ELEMENT OF",
    "CONTAINS AS MEMBER", "DOES NOT CONTAIN AS MEMBER", "SMALL CONTAINS AS MEMBER", "END OF PROOF",
    "N-ARY PRODUCT", "N-ARY COPRODUCT", "N-ARY SUMMATION", "MINUS SIGN", "MINUS-OR-PLUS SIGN",
    "DOT PLUS", "DIVISION SLASH", "SET MINUS", "ASTERISK OPERATOR", "RING OPERATOR",
    "BULLET OPERATOR", "SQUARE ROOT", "CUBE ROOT", "FOURTH ROOT", "PROPORTIONAL TO", "INFINITY",
    "RIGHT ANGLE", "ANGLE", "MEASURED ANGLE", "SPHERICAL ANGLE", "DIVIDES", "DOES NOT DIVIDE",
    "PARALLEL TO", "NOT PARALLEL TO", "LOGICAL AND", "LOGICAL OR", "INTERSECTION", "UNION",
    "INTEGRAL", "DOUBLE INTEGRAL", "TRIPLE INTEGRAL", "CONTOUR INTEGRAL", "SURFACE INTEGRAL",
    "VOLUME INTEGRAL", "CLOCKWISE INTEGRAL", "CLOCKWISE CONTOUR INTEGRAL",
    "ANTICLOCKWISE CONTOUR INTEGRAL", "THEREFORE", "BECAUSE", "RATIO", "PROPORTION", "DOT MINUS",
    "EXCESS", "GEOMETRIC PROPORTION", "HOMOTHETIC", "TILDE OPERATOR", "REVERSED TILDE",
    "INVERTED LAZY S", "SINE WAVE", "WREATH PRODUCT", "NOT TILDE", "MINUS TILDE",
    "ASYMPTOTICALLY EQUAL TO", "NOT ASYMPTOTICALLY EQUAL TO", "APPROXIMATELY EQUAL TO",
    "APPROXIMATELY BUT NOT ACTUALLY EQUAL TO", "NEITHER APPROXIMATELY NOR ACTUALLY EQUAL TO",
    "ALMOST EQUAL TO", "NOT ALMOST EQUAL TO", "ALMOST EQUAL OR EQUAL TO", "TRIPLE TILDE",
    "ALL EQUAL TO", "EQUIVALENT TO", "GEOMETRICALLY EQUIVALENT TO", "DIFFERENCE BETWEEN",
    "APPROACHES THE LIMIT", "GEOMETRICALLY EQUAL TO", "APPROXIMATELY EQUAL TO OR THE IMAGE OF",
    "IMAGE OF OR APPROXIMATELY EQUAL TO", "COLON EQUALS", "EQUALS COLON", "RING IN EQUAL TO",
    "RING EQUAL TO", "CORRESPONDS TO", "ESTIMATES", "EQUIANGULAR TO", "STAR EQUALS",
    "DELTA EQUAL TO", "EQUAL TO BY DEFINITION", "MEASURED BY", "QUESTIONED EQUAL TO",
    "NOT EQUAL TO", "IDENTICAL TO", "NOT IDENTICAL TO", "STRICTLY EQUIVALENT TO",
    "LESS-THAN OR EQUAL TO", "GREATER-THAN OR EQUAL TO", "LESS-THAN OVER EQUAL TO",
    "GREATER-THAN OVER EQUAL TO", "LESS-THAN BUT NOT EQUAL TO", "GREATER-THAN BUT NOT EQUAL TO",
    "MUCH LESS-THAN", "MUCH GREATER-THAN", "BETWEEN", "NOT EQUIVALENT TO", "NOT LESS-THAN",
    "NOT GREATER-THAN", "NEITHER LESS-THAN NOR EQUAL TO", "NEITHER GREATER-THAN NOR EQUAL TO",
    "LESS-THAN OR EQUIVALENT TO", "GREATER-THAN OR EQUIVALENT TO",
    "NEITHER LESS-THAN NOR EQUIVALENT TO", "NEITHER GREATER-THAN NOR EQUIVALENT TO",
    "LESS-THAN OR GREATER-THAN", "GREATER-THAN OR LESS-THAN", "NEITHER LESS-THAN NOR GREATER-THAN",
    "NEITHER GREATER-THAN NOR LESS-THAN", "PRECEDES", "SUCCEEDS", "PRECEDES OR EQUAL TO",
    "SUCCEEDS OR EQUAL TO", "PRECEDES OR EQUIVALENT TO", "SUCCEEDS OR EQUIVALENT TO",
    "DOES NOT PRECEDE", "DOES NOT SUCCEED", "SUBSET OF", "SUPERSET OF", "NOT A SUBSET OF",
    "NOT A SUPERSET OF", "SUBSET OF OR EQUAL TO", "SUPERSET OF OR EQUAL TO",
    "NEITHER A SUBSET OF NOR EQUAL TO", "NEITHER A SUPERSET OF NOR EQUAL TO",
    "SUBSET OF WITH NOT EQUAL TO", "SUPERSET OF WITH NOT EQUAL TO", "MULTISET",
    "MULTISET MULTIPLICATION", "MULTISET UNION", "SQUARE IMAGE OF", "SQUARE ORIGINAL OF",
    "SQUARE IMAGE OF OR EQUAL TO", "SQUARE ORIGINAL OF OR EQUAL TO", "SQUARE CAP", "SQUARE CUP",
    "CIRCLED PLUS", "CIRCLED MINUS", "CIRCLED TIMES", "CIRCLED DIVISION SLASH",
    "CIRCLED DOT OPERATOR", "CIRCLED RING OPERATOR", "CIRCLED ASTERISK OPERATOR", "CIRCLED EQUALS",
    "CIRCLED DASH", "SQUARED PLUS", "SQUARED MINUS", "SQUARED TIMES", "SQUARED DOT OPERATOR",
    "RIGHT TACK", "LEFT TACK", "DOWN TACK", "UP TACK", "ASSERTION", "MODELS", "TRUE", "FORCES",
    "TRIPLE VERTICAL BAR RIGHT TURNSTILE", "DOUBLE VERTICAL BAR DOUBLE RIGHT TURNSTILE",
    "DOES NOT PROVE", "NOT TRUE", "DOES NOT FORCE",
    "NEGATED DOUBLE VERTICAL BAR DOUBLE RIGHT TURNSTILE", "PRECEDES UNDER RELATION",
    "SUCCEEDS UNDER RELATION", "NORMAL SUBGROUP OF", "CONTAINS AS NORMAL SUBGROUP",
    "NORMAL SUBGROUP OF OR EQUAL TO", "CONTAINS AS NORMAL SUBGROUP OR EQUAL TO", "ORIGINAL OF",
    "IMAGE OF", "MULTIMAP", "HERMITIAN CONJUGATE MATRIX", "INTERCALATE", "XOR", "NAND", "NOR",
    "RIGHT ANGLE WITH ARC", "RIGHT TRIANGLE", "N-ARY LOGICAL AND", "N-ARY LOGICAL OR",
    "N-ARY INTERSECTION", "N-ARY UNION", "DIAMOND OPERATOR", "DOT OPERATOR", "STAR OPERATOR",
    "DIVISION TIMES", "BOWTIE", "LEFT NORMAL FACTOR SEMIDIRECT PRODUCT",
    "RIGHT NORMAL FACTOR SEMIDIRECT PRODUCT", "LEFT SEMIDIRECT PRODUCT", "RIGHT SEMIDIRECT PRODUCT",
    "REVERSED TILDE EQUALS", "CURLY LOGICAL OR", "CURLY LOGICAL AND", "DOUBLE SUBSET",
    "DOUBLE SUPERSET", "DOUBLE INTERSECTION", "DOUBLE UNION", "PITCHFORK", "EQUAL AND PARALLEL TO",
    "LESS-THAN WITH DOT", "GREATER-THAN WITH DOT", "VERY MUCH LESS-THAN", "VERY MUCH GREATER-THAN",
    "LESS-THAN EQUAL TO OR GREATER-THAN", "GREATER-THAN EQUAL TO OR LESS-THAN",
    "EQUAL TO OR LESS-THAN", "EQUAL TO OR GREATER-THAN", "EQUAL TO OR PRECEDES",
    "EQUAL TO OR SUCCEEDS", "DOES NOT PRECEDE OR EQUAL", "DOES NOT SUCCEED OR EQUAL",
    "NOT SQUARE IMAGE OF OR EQUAL TO", "NOT SQUARE ORIGINAL OF OR EQUAL TO",
    "SQUARE IMAGE OF OR NOT EQUAL TO", "SQUARE ORIGINAL OF OR NOT EQUAL TO",
    "LESS-THAN BUT NOT EQUIVALENT TO", "GREATER-THAN BUT NOT EQUIVALENT TO",
    "PRECEDES BUT NOT EQUIVALENT TO", "SUCCEEDS BUT NOT EQUIVALENT TO", "NOT NORMAL SUBGROUP OF",
    "DOES NOT CONTAIN AS NORMAL SUBGROUP", "NOT NORMAL SUBGROUP OF OR EQUAL TO",
    "DOES NOT CONTAIN AS NORMAL SUBGROUP OR EQUAL", "VERTICAL ELLIPSIS",
    "MIDLINE HORIZONTAL ELLIPSIS", "UP RIGHT DIAGONAL ELLIPSIS", "DOWN RIGHT DIAGONAL ELLIPSIS",
    "ELEMENT OF WITH LONG HORIZONTAL STROKE",
    "ELEMENT OF WITH VERTICAL BAR AT END OF HORIZONTAL STROKE",
    "SMALL ELEMENT OF WITH VERTICAL BAR AT END OF HORIZONTAL STROKE", "ELEMENT OF WITH DOT ABOVE",
    "ELEMENT OF WITH OVERBAR", "SMALL ELEMENT OF WITH OVERBAR", "ELEMENT OF WITH UNDERBAR",
    "ELEMENT OF WITH TWO HORIZONTAL STROKES", "CONTAINS WITH LONG HORIZONTAL STROKE",
    "CONTAINS WITH VERTICAL BAR AT END OF HORIZONTAL STROKE",
    "SMALL CONTAINS WITH VERTICAL BAR AT END OF HORIZONTAL STROKE", "CONTAINS WITH OVERBAR",
    "SMALL CONTAINS WITH OVERBAR", "Z NOTATION BAG MEMBERSHIP"])]

/-- Names of lines, blocks and shapes. -/
def shapes : List (Nat × List String) := [
  (0x2500, [
    "BOX DRAWINGS LIGHT HORIZONTAL", "BOX DRAWINGS HEAVY HORIZONTAL", "BOX DRAWINGS LIGHT VERTICAL",
    "BOX DRAWINGS HEAVY VERTICAL", "BOX DRAWINGS LIGHT TRIPLE DASH HORIZONTAL",
    "BOX DRAWINGS HEAVY TRIPLE DASH HORIZONTAL", "BOX DRAWINGS LIGHT TRIPLE DASH VERTICAL",
    "BOX DRAWINGS HEAVY TRIPLE DASH VERTICAL", "BOX DRAWINGS LIGHT QUADRUPLE DASH HORIZONTAL",
    "BOX DRAWINGS HEAVY QUADRUPLE DASH HORIZONTAL", "BOX DRAWINGS LIGHT QUADRUPLE DASH VERTICAL",
    "BOX DRAWINGS HEAVY QUADRUPLE DASH VERTICAL", "BOX DRAWINGS LIGHT DOWN AND RIGHT",
    "BOX DRAWINGS DOWN LIGHT AND RIGHT HEAVY", "BOX DRAWINGS DOWN HEAVY AND RIGHT LIGHT",
    "BOX DRAWINGS HEAVY DOWN AND RIGHT", "BOX DRAWINGS LIGHT DOWN AND LEFT",
    "BOX DRAWINGS DOWN LIGHT AND LEFT HEAVY", "BOX DRAWINGS DOWN HEAVY AND LEFT LIGHT",
    "BOX DRAWINGS HEAVY DOWN AND LEFT", "BOX DRAWINGS LIGHT UP AND RIGHT",
    "BOX DRAWINGS UP LIGHT AND RIGHT HEAVY", "BOX DRAWINGS UP HEAVY AND RIGHT LIGHT",
    "BOX DRAWINGS HEAVY UP AND RIGHT", "BOX DRAWINGS LIGHT UP AND LEFT",
    "BOX DRAWINGS UP LIGHT AND LEFT HEAVY", "BOX DRAWINGS UP HEAVY AND LEFT LIGHT",
    "BOX DRAWINGS HEAVY UP AND LEFT", "BOX DRAWINGS LIGHT VERTICAL AND RIGHT",
    "BOX DRAWINGS VERTICAL LIGHT AND RIGHT HEAVY", "BOX DRAWINGS UP HEAVY AND RIGHT DOWN LIGHT",
    "BOX DRAWINGS DOWN HEAVY AND RIGHT UP LIGHT", "BOX DRAWINGS VERTICAL HEAVY AND RIGHT LIGHT",
    "BOX DRAWINGS DOWN LIGHT AND RIGHT UP HEAVY", "BOX DRAWINGS UP LIGHT AND RIGHT DOWN HEAVY",
    "BOX DRAWINGS HEAVY VERTICAL AND RIGHT", "BOX DRAWINGS LIGHT VERTICAL AND LEFT",
    "BOX DRAWINGS VERTICAL LIGHT AND LEFT HEAVY", "BOX DRAWINGS UP HEAVY AND LEFT DOWN LIGHT",
    "BOX DRAWINGS DOWN HEAVY AND LEFT UP LIGHT", "BOX DRAWINGS VERTICAL HEAVY AND LEFT LIGHT",
    "BOX DRAWINGS DOWN LIGHT AND LEFT UP HEAVY", "BOX DRAWINGS UP LIGHT AND LEFT DOWN HEAVY",
    "BOX DRAWINGS HEAVY VERTICAL AND LEFT", "BOX DRAWINGS LIGHT DOWN AND HORIZONTAL",
    "BOX DRAWINGS LEFT HEAVY AND RIGHT DOWN LIGHT", "BOX DRAWINGS RIGHT HEAVY AND LEFT DOWN LIGHT",
    "BOX DRAWINGS DOWN LIGHT AND HORIZONTAL HEAVY", "BOX DRAWINGS DOWN HEAVY AND HORIZONTAL LIGHT",
    "BOX DRAWINGS RIGHT LIGHT AND LEFT DOWN HEAVY", "BOX DRAWINGS LEFT LIGHT AND RIGHT DOWN HEAVY",
    "BOX DRAWINGS HEAVY DOWN AND HORIZONTAL", "BOX DRAWINGS LIGHT UP AND HORIZONTAL",
    "BOX DRAWINGS LEFT HEAVY AND RIGHT UP LIGHT", "BOX DRAWINGS RIGHT HEAVY AND LEFT UP LIGHT",
    "BOX DRAWINGS UP LIGHT AND HORIZONTAL HEAVY", "BOX DRAWINGS UP HEAVY AND HORIZONTAL LIGHT",
    "BOX DRAWINGS RIGHT LIGHT AND LEFT UP HEAVY", "BOX DRAWINGS LEFT LIGHT AND RIGHT UP HEAVY",
    "BOX DRAWINGS HEAVY UP AND HORIZONTAL", "BOX DRAWINGS LIGHT VERTICAL AND HORIZONTAL",
    "BOX DRAWINGS LEFT HEAVY AND RIGHT VERTICAL LIGHT",
    "BOX DRAWINGS RIGHT HEAVY AND LEFT VERTICAL LIGHT",
    "BOX DRAWINGS VERTICAL LIGHT AND HORIZONTAL HEAVY",
    "BOX DRAWINGS UP HEAVY AND DOWN HORIZONTAL LIGHT",
    "BOX DRAWINGS DOWN HEAVY AND UP HORIZONTAL LIGHT",
    "BOX DRAWINGS VERTICAL HEAVY AND HORIZONTAL LIGHT",
    "BOX DRAWINGS LEFT UP HEAVY AND RIGHT DOWN LIGHT",
    "BOX DRAWINGS RIGHT UP HEAVY AND LEFT DOWN LIGHT",
    "BOX DRAWINGS LEFT DOWN HEAVY AND RIGHT UP LIGHT",
    "BOX DRAWINGS RIGHT DOWN HEAVY AND LEFT UP LIGHT",
    "BOX DRAWINGS DOWN LIGHT AND UP HORIZONTAL HEAVY",
    "BOX DRAWINGS UP LIGHT AND DOWN HORIZONTAL HEAVY",
    "BOX DRAWINGS RIGHT LIGHT AND LEFT VERTICAL HEAVY",
    "BOX DRAWINGS LEFT LIGHT AND RIGHT VERTICAL HEAVY",
    "BOX DRAWINGS HEAVY VERTICAL AND HORIZONTAL", "BOX DRAWINGS LIGHT DOUBLE DASH HORIZONTAL",
    "BOX DRAWINGS HEAVY DOUBLE DASH HORIZONTAL", "BOX DRAWINGS LIGHT DOUBLE DASH VERTICAL",
    "BOX DRAWINGS HEAVY DOUBLE DASH VERTICAL", "BOX DRAWINGS DOUBLE HORIZONTAL",
    "BOX DRAWINGS DOUBLE VERTICAL", "BOX DRAWINGS DOWN SINGLE AND RIGHT DOUBLE",
    "BOX DRAWINGS DOWN DOUBLE AND RIGHT SINGLE", "BOX DRAWINGS DOUBLE DOWN AND RIGHT",
    "BOX DRAWINGS DOWN SINGLE AND LEFT DOUBLE", "BOX DRAWINGS DOWN DOUBLE AND LEFT SINGLE",
    "BOX DRAWINGS DOUBLE DOWN AND LEFT", "BOX DRAWINGS UP SINGLE AND RIGHT DOUBLE",
    "BOX DRAWINGS UP DOUBLE AND RIGHT SINGLE", "BOX DRAWINGS DOUBLE UP AND RIGHT",
    "BOX DRAWINGS UP SINGLE AND LEFT DOUBLE", "BOX DRAWINGS UP DOUBLE AND LEFT SINGLE",
    "BOX DRAWINGS DOUBLE UP AND LEFT", "BOX DRAWINGS VERTICAL SINGLE AND RIGHT DOUBLE",
    "BOX DRAWINGS VERTICAL DOUBLE AND RIGHT SINGLE", "BOX DRAWINGS DOUBLE VERTICAL AND RIGHT",
    "BOX DRAWINGS VERTICAL SINGLE AND LEFT DOUBLE", "BOX DRAWINGS VERTICAL DOUBLE AND LEFT SINGLE",
    "BOX DRAWINGS DOUBLE VERTICAL AND LEFT", "BOX DRAWINGS DOWN SINGLE AND HORIZONTAL DOUBLE",
    "BOX DRAWINGS DOWN DOUBLE AND HORIZONTAL SINGLE", "BOX DRAWINGS DOUBLE DOWN AND HORIZONTAL",
    "BOX DRAWINGS UP SINGLE AND HORIZONTAL DOUBLE", "BOX DRAWINGS UP DOUBLE AND HORIZONTAL SINGLE",
    "BOX DRAWINGS DOUBLE UP AND HORIZONTAL", "BOX DRAWINGS VERTICAL SINGLE AND HORIZONTAL DOUBLE",
    "BOX DRAWINGS VERTICAL DOUBLE AND HORIZONTAL SINGLE",
    "BOX DRAWINGS DOUBLE VERTICAL AND HORIZONTAL", "BOX DRAWINGS LIGHT ARC DOWN AND RIGHT",
    "BOX DRAWINGS LIGHT ARC DOWN AND LEFT", "BOX DRAWINGS LIGHT ARC UP AND LEFT",
    "BOX DRAWINGS LIGHT ARC UP AND RIGHT", "BOX DRAWINGS LIGHT DIAGONAL UPPER RIGHT TO LOWER LEFT",
    "BOX DRAWINGS LIGHT DIAGONAL UPPER LEFT TO LOWER RIGHT", "BOX DRAWINGS LIGHT DIAGONAL CROSS",
    "BOX DRAWINGS LIGHT LEFT", "BOX DRAWINGS LIGHT UP", "BOX DRAWINGS LIGHT RIGHT",
    "BOX DRAWINGS LIGHT DOWN", "BOX DRAWINGS HEAVY LEFT", "BOX DRAWINGS HEAVY UP",
    "BOX DRAWINGS HEAVY RIGHT", "BOX DRAWINGS HEAVY DOWN",
    "BOX DRAWINGS LIGHT LEFT AND HEAVY RIGHT", "BOX DRAWINGS LIGHT UP AND HEAVY DOWN",
    "BOX DRAWINGS HEAVY LEFT AND LIGHT RIGHT", "BOX DRAWINGS HEAVY UP AND LIGHT DOWN",
    "UPPER HALF BLOCK", "LOWER ONE EIGHTH BLOCK", "LOWER ONE QUARTER BLOCK",
    "LOWER THREE EIGHTHS BLOCK", "LOWER HALF BLOCK", "LOWER FIVE EIGHTHS BLOCK",
    "LOWER THREE QUARTERS BLOCK", "LOWER SEVEN EIGHTHS BLOCK", "FULL BLOCK",
    "LEFT SEVEN EIGHTHS BLOCK", "LEFT THREE QUARTERS BLOCK", "LEFT FIVE EIGHTHS BLOCK",
    "LEFT HALF BLOCK", "LEFT THREE EIGHTHS BLOCK", "LEFT ONE QUARTER BLOCK",
    "LEFT ONE EIGHTH BLOCK", "RIGHT HALF BLOCK", "LIGHT SHADE", "MEDIUM SHADE", "DARK SHADE",
    "UPPER ONE EIGHTH BLOCK", "RIGHT ONE EIGHTH BLOCK", "QUADRANT LOWER LEFT",
    "QUADRANT LOWER RIGHT", "QUADRANT UPPER LEFT",
    "QUADRANT UPPER LEFT AND LOWER LEFT AND LOWER RIGHT", "QUADRANT UPPER LEFT AND LOWER RIGHT",
    "QUADRANT UPPER LEFT AND UPPER RIGHT AND LOWER LEFT",
    "QUADRANT UPPER LEFT AND UPPER RIGHT AND LOWER RIGHT", "QUADRANT UPPER RIGHT",
    "QUADRANT UPPER RIGHT AND LOWER LEFT", "QUADRANT UPPER RIGHT AND LOWER LEFT AND LOWER RIGHT",
    "BLACK SQUARE", "WHITE SQUARE", "WHITE SQUARE WITH ROUNDED CORNERS",
    "WHITE SQUARE CONTAINING BLACK SMALL SQUARE", "SQUARE WITH HORIZONTAL FILL",
    "SQUARE WITH VERTICAL FILL", "SQUARE WITH ORTHOGONAL CROSSHATCH FILL",
    "SQUARE WITH UPPER LEFT TO LOWER RIGHT FILL", "SQUARE WITH UPPER RIGHT TO LOWER LEFT FILL",
    "SQUARE WITH DIAGONAL CROSSHATCH FILL", "BLACK SMALL SQUARE", "WHITE SMALL SQUARE",
    "BLACK RECTANGLE", "WHITE RECTANGLE", "BLACK VERTICAL RECTANGLE", "WHITE VERTICAL RECTANGLE",
    "BLACK PARALLELOGRAM", "WHITE PARALLELOGRAM", "BLACK UP-POINTING TRIANGLE",
    "WHITE UP-POINTING TRIANGLE", "BLACK UP-POINTING SMALL TRIANGLE",
    "WHITE UP-POINTING SMALL TRIANGLE", "BLACK RIGHT-POINTING TRIANGLE",
    "WHITE RIGHT-POINTING TRIANGLE", "BLACK RIGHT-POINTING SMALL TRIANGLE",
    "WHITE RIGHT-POINTING SMALL TRIANGLE", "BLACK RIGHT-POINTING POINTER",
    "WHITE RIGHT-POINTING POINTER", "BLACK DOWN-POINTING TRIANGLE", "WHITE DOWN-POINTING TRIANGLE",
    "BLACK DOWN-POINTING SMALL TRIANGLE", "WHITE DOWN-POINTING SMALL TRIANGLE",
    "BLACK LEFT-POINTING TRIANGLE", "WHITE LEFT-POINTING TRIANGLE",
    "BLACK LEFT-POINTING SMALL TRIANGLE", "WHITE LEFT-POINTING SMALL TRIANGLE",
    "BLACK LEFT-POINTING POINTER", "WHITE LEFT-POINTING POINTER", "BLACK DIAMOND", "WHITE DIAMOND",
    "WHITE DIAMOND CONTAINING BLACK SMALL DIAMOND", "FISHEYE", "LOZENGE", "WHITE CIRCLE",
    "DOTTED CIRCLE", "CIRCLE WITH VERTICAL FILL", "BULLSEYE", "BLACK CIRCLE",
    "CIRCLE WITH LEFT HALF BLACK", "CIRCLE WITH RIGHT HALF BLACK", "CIRCLE WITH LOWER HALF BLACK",
    "CIRCLE WITH UPPER HALF BLACK", "CIRCLE WITH UPPER RIGHT QUADRANT BLACK",
    "CIRCLE WITH ALL BUT UPPER LEFT QUADRANT BLACK", "LEFT HALF BLACK CIRCLE",
    "RIGHT HALF BLACK CIRCLE", "INVERSE BULLET", "INVERSE WHITE CIRCLE",
    "UPPER HALF INVERSE WHITE CIRCLE", "LOWER HALF INVERSE WHITE CIRCLE",
    "UPPER LEFT QUADRANT CIRCULAR ARC", "UPPER RIGHT QUADRANT CIRCULAR ARC",
    "LOWER RIGHT QUADRANT CIRCULAR ARC", "LOWER LEFT QUADRANT CIRCULAR ARC", "UPPER HALF CIRCLE",
    "LOWER HALF CIRCLE", "BLACK LOWER RIGHT TRIANGLE", "BLACK LOWER LEFT TRIANGLE",
    "BLACK UPPER LEFT TRIANGLE", "BLACK UPPER RIGHT TRIANGLE", "WHITE BULLET",
    "SQUARE WITH LEFT HALF BLACK", "SQUARE WITH RIGHT HALF BLACK",
    "SQUARE WITH UPPER LEFT DIAGONAL HALF BLACK", "SQUARE WITH LOWER RIGHT DIAGONAL HALF BLACK",
    "WHITE SQUARE WITH VERTICAL BISECTING LINE", "WHITE UP-POINTING TRIANGLE WITH DOT",
    "UP-POINTING TRIANGLE WITH LEFT HALF BLACK", "UP-POINTING TRIANGLE WITH RIGHT HALF BLACK",
    "LARGE CIRCLE", "WHITE SQUARE WITH UPPER LEFT QUADRANT",
    "WHITE SQUARE WITH LOWER LEFT QUADRANT", "WHITE SQUARE WITH LOWER RIGHT QUADRANT",
    "WHITE SQUARE WITH UPPER RIGHT QUADRANT", "WHITE CIRCLE WITH UPPER LEFT QUADRANT",
    "WHITE CIRCLE WITH LOWER LEFT QUADRANT", "WHITE CIRCLE WITH LOWER RIGHT QUADRANT",
    "WHITE CIRCLE WITH UPPER RIGHT QUADRANT", "UPPER LEFT TRIANGLE", "UPPER RIGHT TRIANGLE",
    "LOWER LEFT TRIANGLE", "WHITE MEDIUM SQUARE", "BLACK MEDIUM SQUARE",
    "WHITE MEDIUM SMALL SQUARE", "BLACK MEDIUM SMALL SQUARE", "LOWER RIGHT TRIANGLE"])]

/-- Names of signs and ornaments. -/
def signs : List (Nat × List String) := [
  (0x2600, [
    "BLACK SUN WITH RAYS", "CLOUD", "UMBRELLA", "SNOWMAN", "COMET", "BLACK STAR", "WHITE STAR",
    "LIGHTNING", "THUNDERSTORM", "SUN", "ASCENDING NODE", "DESCENDING NODE", "CONJUNCTION",
    "OPPOSITION", "BLACK TELEPHONE", "WHITE TELEPHONE", "BALLOT BOX", "BALLOT BOX WITH CHECK",
    "BALLOT BOX WITH X", "SALTIRE", "UMBRELLA WITH RAIN DROPS", "HOT BEVERAGE", "WHITE SHOGI PIECE",
    "BLACK SHOGI PIECE", "SHAMROCK", "REVERSED ROTATED FLORAL HEART BULLET",
    "BLACK LEFT POINTING INDEX", "BLACK RIGHT POINTING INDEX", "WHITE LEFT POINTING INDEX",
    "WHITE UP POINTING INDEX", "WHITE RIGHT POINTING INDEX", "WHITE DOWN POINTING INDEX",
    "SKULL AND CROSSBONES", "CAUTION SIGN", "RADIOACTIVE SIGN", "BIOHAZARD SIGN", "CADUCEUS",
    "ANKH", "ORTHODOX CROSS", "CHI RHO", "CROSS OF LORRAINE", "CROSS OF JERUSALEM",
    "STAR AND CRESCENT", "FARSI SYMBOL", "ADI SHAKTI", "HAMMER AND SICKLE", "PEACE SYMBOL",
    "YIN YANG", "TRIGRAM FOR HEAVEN", "TRIGRAM FOR LAKE", "TRIGRAM FOR FIRE", "TRIGRAM FOR THUNDER",
    "TRIGRAM FOR WIND", "TRIGRAM FOR WATER", "TRIGRAM FOR MOUNTAIN", "TRIGRAM FOR EARTH",
    "WHEEL OF DHARMA", "WHITE FROWNING FACE", "WHITE SMILING FACE", "BLACK SMILING FACE",
    "WHITE SUN WITH RAYS", "FIRST QUARTER MOON", "LAST QUARTER MOON", "MERCURY", "FEMALE SIGN",
    "EARTH", "MALE SIGN", "JUPITER", "SATURN", "URANUS", "NEPTUNE", "PLUTO", "ARIES", "TAURUS",
    "GEMINI", "CANCER", "LEO", "VIRGO", "LIBRA", "SCORPIUS", "SAGITTARIUS", "CAPRICORN", "AQUARIUS",
    "PISCES", "WHITE CHESS KING", "WHITE CHESS QUEEN", "WHITE CHESS ROOK", "WHITE CHESS BISHOP",
    "WHITE CHESS KNIGHT", "WHITE CHESS PAWN", "BLACK CHESS KING", "BLACK CHESS QUEEN",
    "BLACK CHESS ROOK", "BLACK CHESS BISHOP", "BLACK CHESS KNIGHT", "BLACK CHESS PAWN",
    "BLACK SPADE SUIT", "WHITE HEART SUIT", "WHITE DIAMOND SUIT", "BLACK CLUB SUIT",
    "WHITE SPADE SUIT", "BLACK HEART SUIT", "BLACK DIAMOND SUIT", "WHITE CLUB SUIT", "HOT SPRINGS",
    "QUARTER NOTE", "EIGHTH NOTE", "BEAMED EIGHTH NOTES", "BEAMED SIXTEENTH NOTES",
    "MUSIC FLAT SIGN", "MUSIC NATURAL SIGN", "MUSIC SHARP SIGN", "WEST SYRIAC CROSS",
    "EAST SYRIAC CROSS", "UNIVERSAL RECYCLING SYMBOL", "RECYCLING SYMBOL FOR TYPE-1 PLASTICS",
    "RECYCLING SYMBOL FOR TYPE-2 PLASTICS", "RECYCLING SYMBOL FOR TYPE-3 PLASTICS",
    "RECYCLING SYMBOL FOR TYPE-4 PLASTICS", "RECYCLING SYMBOL FOR TYPE-5 PLASTICS",
    "RECYCLING SYMBOL FOR TYPE-6 PLASTICS", "RECYCLING SYMBOL FOR TYPE-7 PLASTICS",
    "RECYCLING SYMBOL FOR GENERIC MATERIALS", "BLACK UNIVERSAL RECYCLING SYMBOL",
    "RECYCLED PAPER SYMBOL", "PARTIALLY-RECYCLED PAPER SYMBOL", "PERMANENT PAPER SIGN",
    "WHEELCHAIR SYMBOL", "DIE FACE-1", "DIE FACE-2", "DIE FACE-3", "DIE FACE-4", "DIE FACE-5",
    "DIE FACE-6", "WHITE CIRCLE WITH DOT RIGHT", "WHITE CIRCLE WITH TWO DOTS",
    "BLACK CIRCLE WITH WHITE DOT RIGHT", "BLACK CIRCLE WITH TWO WHITE DOTS", "MONOGRAM FOR YANG",
    "MONOGRAM FOR YIN", "DIGRAM FOR GREATER YANG", "DIGRAM FOR LESSER YIN",
    "DIGRAM FOR LESSER YANG", "DIGRAM FOR GREATER YIN", "WHITE FLAG", "BLACK FLAG",
    "HAMMER AND PICK", "ANCHOR", "CROSSED SWORDS", "STAFF OF AESCULAPIUS", "SCALES", "ALEMBIC",
    "FLOWER", "GEAR", "STAFF OF HERMES", "ATOM SYMBOL", "FLEUR-DE-LIS", "OUTLINED WHITE STAR",
    "THREE LINES CONVERGING RIGHT", "THREE LINES CONVERGING LEFT", "WARNING SIGN",
    "HIGH VOLTAGE SIGN", "DOUBLED FEMALE SIGN", "DOUBLED MALE SIGN",
    "INTERLOCKED FEMALE AND MALE SIGN", "MALE AND FEMALE SIGN", "MALE WITH STROKE SIGN",
    "MALE WITH STROKE AND MALE AND FEMALE SIGN", "VERTICAL MALE WITH STROKE SIGN",
    "HORIZONTAL MALE WITH STROKE SIGN", "MEDIUM WHITE CIRCLE", "MEDIUM BLACK CIRCLE",
    "MEDIUM SMALL WHITE CIRCLE", "MARRIAGE SYMBOL", "DIVORCE SYMBOL",
    "UNMARRIED PARTNERSHIP SYMBOL", "COFFIN", "FUNERAL URN", "NEUTER", "CERES", "PALLAS", "JUNO",
    "VESTA", "CHIRON", "BLACK MOON LILITH", "SEXTILE", "SEMISEXTILE", "QUINCUNX", "SESQUIQUADRATE",
    "SOCCER BALL", "BASEBALL", "SQUARED KEY", "WHITE DRAUGHTS MAN", "WHITE DRAUGHTS KING",
    "BLACK DRAUGHTS MAN", "BLACK DRAUGHTS KING", "SNOWMAN WITHOUT SNOW", "SUN BEHIND CLOUD", "RAIN",
    "BLACK SNOWMAN", "THUNDER CLOUD AND RAIN", "TURNED WHITE SHOGI PIECE",
    "TURNED BLACK SHOGI PIECE", "WHITE DIAMOND IN SQUARE", "CROSSING LANES", "DISABLED CAR",
    "OPHIUCHUS", "PICK", "CAR SLIDING", "HELMET WITH WHITE CROSS", "CIRCLED CROSSING LANES",
    "CHAINS", "NO ENTRY", "ALTERNATE ONE-WAY LEFT WAY TRAFFIC", "BLACK TWO-WAY LEFT WAY TRAFFIC",
    "WHITE TWO-WAY LEFT WAY TRAFFIC", "BLACK LEFT LANE MERGE", "WHITE LEFT LANE MERGE",
    "DRIVE SLOW SIGN", "HEAVY WHITE DOWN-POINTING TRIANGLE", "LEFT CLOSED ENTRY", "SQUARED SALTIRE",
    "FALLING DIAGONAL IN WHITE CIRCLE IN BLACK SQUARE", "BLACK TRUCK", "RESTRICTED LEFT ENTRY-1",
    "RESTRICTED LEFT ENTRY-2", "ASTRONOMICAL SYMBOL FOR URANUS",
    "HEAVY CIRCLE WITH STROKE AND TWO DOTS ABOVE", "PENTAGRAM", "RIGHT-HANDED INTERLACED PENTAGRAM",
    "LEFT-HANDED INTERLACED PENTAGRAM", "INVERTED PENTAGRAM", "BLACK CROSS ON SHIELD",
    "SHINTO SHRINE", "CHURCH", "CASTLE", "HISTORIC SITE", "GEAR WITHOUT HUB", "GEAR WITH HANDLES",
    "MAP SYMBOL FOR LIGHTHOUSE", "MOUNTAIN", "UMBRELLA ON GROUND", "FOUNTAIN", "FLAG IN HOLE",
    "FERRY", "SAILBOAT", "SQUARE FOUR CORNERS", "SKIER", "ICE SKATE", "PERSON WITH BALL", "TENT",
    "JAPANESE BANK SYMBOL", "HEADSTONE GRAVEYARD SYMBOL", "FUEL PUMP", "CUP ON BLACK SQUARE",
    "WHITE FLAG WITH HORIZONTAL MIDDLE BLACK STRIPE", "BLACK SAFETY SCISSORS",
    "UPPER BLADE SCISSORS", "BLACK SCISSORS", "LOWER BLADE SCISSORS", "WHITE SCISSORS",
    "WHITE HEAVY CHECK MARK", "TELEPHONE LOCATION SIGN", "TAPE DRIVE", "AIRPLANE", "ENVELOPE",
    "RAISED FIST", "RAISED HAND", "VICTORY HAND", "WRITING HAND", "LOWER RIGHT PENCIL", "PENCIL",
    "UPPER RIGHT PENCIL", "WHITE NIB", "BLACK NIB", "CHECK MARK", "HEAVY CHECK MARK",
    "MULTIPLICATION X", "HEAVY MULTIPLICATION X", "BALLOT X", "HEAVY BALLOT X",
    "OUTLINED GREEK CROSS", "HEAVY GREEK CROSS", "OPEN CENTRE CROSS", "HEAVY OPEN CENTRE CROSS",
    "LATIN CROSS", "SHADOWED WHITE LATIN CROSS", "OUTLINED LATIN CROSS", "MALTESE CROSS",
    "STAR OF DAVID", "FOUR TEARDROP-SPOKED ASTERISK", "FOUR BALLOON-SPOKED ASTERISK",
    "HEAVY FOUR BALLOON-SPOKED ASTERISK", "FOUR CLUB-SPOKED ASTERISK", "BLACK FOUR POINTED STAR",
    "WHITE FOUR POINTED STAR", "SPARKLES", "STRESS OUTLINED WHITE STAR", "CIRCLED WHITE STAR",
    "OPEN CENTRE BLACK STAR", "BLACK CENTRE WHITE STAR", "OUTLINED BLACK STAR",
    "HEAVY OUTLINED BLACK STAR", "PINWHEEL STAR", "SHADOWED WHITE STAR", "HEAVY ASTERISK",
    "OPEN CENTRE ASTERISK", "EIGHT SPOKED ASTERISK", "EIGHT POINTED BLACK STAR",
    "EIGHT POINTED PINWHEEL STAR", "SIX POINTED BLACK STAR", "EIGHT POINTED RECTILINEAR BLACK STAR",
    "HEAVY EIGHT POINTED RECTILINEAR BLACK STAR", "TWELVE POINTED BLACK STAR",
    "SIXTEEN POINTED ASTERISK", "TEARDROP-SPOKED ASTERISK", "OPEN CENTRE TEARDROP-SPOKED ASTERISK",
    "HEAVY TEARDROP-SPOKED ASTERISK", "SIX PETALLED BLACK AND WHITE FLORETTE", "BLACK FLORETTE",
    "WHITE FLORETTE", "EIGHT PETALLED OUTLINED BLACK FLORETTE",
    "CIRCLED OPEN CENTRE EIGHT POINTED STAR", "HEAVY TEARDROP-SPOKED PINWHEEL ASTERISK",
    "SNOWFLAKE", "TIGHT TRIFOLIATE SNOWFLAKE", "HEAVY CHEVRON SNOWFLAKE", "SPARKLE",
    "HEAVY SPARKLE", "BALLOON-SPOKED ASTERISK", "EIGHT TEARDROP-SPOKED PROPELLER ASTERISK",
    "HEAVY EIGHT TEARDROP-SPOKED PROPELLER ASTERISK", "CROSS MARK", "SHADOWED WHITE CIRCLE",
    "NEGATIVE SQUARED CROSS MARK", "LOWER RIGHT DROP-SHADOWED WHITE SQUARE",
    "UPPER RIGHT DROP-SHADOWED WHITE SQUARE", "LOWER RIGHT SHADOWED WHITE SQUARE",
    "UPPER RIGHT SHADOWED WHITE SQUARE", "BLACK QUESTION MARK ORNAMENT",
    "WHITE QUESTION MARK ORNAMENT", "WHITE EXCLAMATION MARK ORNAMENT",
    "BLACK DIAMOND MINUS WHITE X", "HEAVY EXCLAMATION MARK SYMBOL", "LIGHT VERTICAL BAR",
    "MEDIUM VERTICAL BAR", "HEAVY VERTICAL BAR",
    "HEAVY SINGLE TURNED COMMA QUOTATION MARK ORNAMENT",
    "HEAVY SINGLE COMMA QUOTATION MARK ORNAMENT",
    "HEAVY DOUBLE TURNED COMMA QUOTATION MARK ORNAMENT",
    "HEAVY DOUBLE COMMA QUOTATION MARK ORNAMENT", "HEAVY LOW SINGLE COMMA QUOTATION MARK ORNAMENT",
    "HEAVY LOW DOUBLE COMMA QUOTATION MARK ORNAMENT", "CURVED STEM PARAGRAPH SIGN ORNAMENT",
    "HEAVY EXCLAMATION MARK ORNAMENT", "HEAVY HEART EXCLAMATION MARK ORNAMENT", "HEAVY BLACK HEART",
    "ROTATED HEAVY BLACK HEART BULLET", "FLORAL HEART", "ROTATED FLORAL HEART BULLET",
    "MEDIUM LEFT PARENTHESIS ORNAMENT", "MEDIUM RIGHT PARENTHESIS ORNAMENT",
    "MEDIUM FLATTENED LEFT PARENTHESIS ORNAMENT", "MEDIUM FLATTENED RIGHT PARENTHESIS ORNAMENT",
    "MEDIUM LEFT-POINTING ANGLE BRACKET ORNAMENT", "MEDIUM RIGHT-POINTING ANGLE BRACKET ORNAMENT",
    "HEAVY LEFT-POINTING ANGLE QUOTATION MARK ORNAMENT",
    "HEAVY RIGHT-POINTING ANGLE QUOTATION MARK ORNAMENT",
    "HEAVY LEFT-POINTING ANGLE BRACKET ORNAMENT", "HEAVY RIGHT-POINTING ANGLE BRACKET ORNAMENT",
    "LIGHT LEFT TORTOISE SHELL BRACKET ORNAMENT", "LIGHT RIGHT TORTOISE SHELL BRACKET ORNAMENT",
    "MEDIUM LEFT CURLY BRACKET ORNAMENT", "MEDIUM RIGHT CURLY BRACKET ORNAMENT",
    "DINGBAT NEGATIVE CIRCLED DIGIT ONE", "DINGBAT NEGATIVE CIRCLED DIGIT TWO",
    "DINGBAT NEGATIVE CIRCLED DIGIT THREE", "DINGBAT NEGATIVE CIRCLED DIGIT FOUR",
    "DINGBAT NEGATIVE CIRCLED DIGIT FIVE", "DINGBAT NEGATIVE CIRCLED DIGIT SIX",
    "DINGBAT NEGATIVE CIRCLED DIGIT SEVEN", "DINGBAT NEGATIVE CIRCLED DIGIT EIGHT",
    "DINGBAT NEGATIVE CIRCLED DIGIT NINE", "DINGBAT NEGATIVE CIRCLED NUMBER TEN",
    "DINGBAT CIRCLED SANS-SERIF DIGIT ONE", "DINGBAT CIRCLED SANS-SERIF DIGIT TWO",
    "DINGBAT CIRCLED SANS-SERIF DIGIT THREE", "DINGBAT CIRCLED SANS-SERIF DIGIT FOUR",
    "DINGBAT CIRCLED SANS-SERIF DIGIT FIVE", "DINGBAT CIRCLED SANS-SERIF DIGIT SIX",
    "DINGBAT CIRCLED SANS-SERIF DIGIT SEVEN", "DINGBAT CIRCLED SANS-SERIF DIGIT EIGHT",
    "DINGBAT CIRCLED SANS-SERIF DIGIT NINE", "DINGBAT CIRCLED SANS-SERIF NUMBER TEN",
    "DINGBAT NEGATIVE CIRCLED SANS-SERIF DIGIT ONE",
    "DINGBAT NEGATIVE CIRCLED SANS-SERIF DIGIT TWO",
    "DINGBAT NEGATIVE CIRCLED SANS-SERIF DIGIT THREE",
    "DINGBAT NEGATIVE CIRCLED SANS-SERIF DIGIT FOUR",
    "DINGBAT NEGATIVE CIRCLED SANS-SERIF DIGIT FIVE",
    "DINGBAT NEGATIVE CIRCLED SANS-SERIF DIGIT SIX",
    "DINGBAT NEGATIVE CIRCLED SANS-SERIF DIGIT SEVEN",
    "DINGBAT NEGATIVE CIRCLED SANS-SERIF DIGIT EIGHT",
    "DINGBAT NEGATIVE CIRCLED SANS-SERIF DIGIT NINE",
    "DINGBAT NEGATIVE CIRCLED SANS-SERIF NUMBER TEN", "HEAVY WIDE-HEADED RIGHTWARDS ARROW",
    "HEAVY PLUS SIGN", "HEAVY MINUS SIGN", "HEAVY DIVISION SIGN", "HEAVY SOUTH EAST ARROW",
    "HEAVY RIGHTWARDS ARROW", "HEAVY NORTH EAST ARROW", "DRAFTING POINT RIGHTWARDS ARROW",
    "HEAVY ROUND-TIPPED RIGHTWARDS ARROW", "TRIANGLE-HEADED RIGHTWARDS ARROW",
    "HEAVY TRIANGLE-HEADED RIGHTWARDS ARROW", "DASHED TRIANGLE-HEADED RIGHTWARDS ARROW",
    "HEAVY DASHED TRIANGLE-HEADED RIGHTWARDS ARROW", "BLACK RIGHTWARDS ARROW",
    "THREE-D TOP-LIGHTED RIGHTWARDS ARROWHEAD", "THREE-D BOTTOM-LIGHTED RIGHTWARDS ARROWHEAD",
    "BLACK RIGHTWARDS ARROWHEAD", "HEAVY BLACK CURVED DOWNWARDS AND RIGHTWARDS ARROW",
    "HEAVY BLACK CURVED UPWARDS AND RIGHTWARDS ARROW", "SQUAT BLACK RIGHTWARDS ARROW",
    "HEAVY CONCAVE-POINTED BLACK RIGHTWARDS ARROW", "RIGHT-SHADED WHITE RIGHTWARDS ARROW",
    "LEFT-SHADED WHITE RIGHTWARDS ARROW", "BACK-TILTED SHADOWED WHITE RIGHTWARDS ARROW",
    "FRONT-TILTED SHADOWED WHITE RIGHTWARDS ARROW",
    "HEAVY LOWER RIGHT-SHADOWED WHITE RIGHTWARDS ARROW",
    "HEAVY UPPER RIGHT-SHADOWED WHITE RIGHTWARDS ARROW",
    "NOTCHED LOWER RIGHT-SHADOWED WHITE RIGHTWARDS ARROW", "CURLY LOOP",
    "NOTCHED UPPER RIGHT-SHADOWED WHITE RIGHTWARDS ARROW", "CIRCLED HEAVY WHITE RIGHTWARDS ARROW",
    "WHITE-FEATHERED RIGHTWARDS ARROW", "BLACK-FEATHERED SOUTH EAST ARROW",
    "BLACK-FEATHERED RIGHTWARDS ARROW", "BLACK-FEATHERED NORTH EAST ARROW",
    "HEAVY BLACK-FEATHERED SOUTH EAST ARROW", "HEAVY BLACK-FEATHERED RIGHTWARDS ARROW",
    "HEAVY BLACK-FEATHERED NORTH EAST ARROW", "TEARDROP-BARBED RIGHTWARDS ARROW",
    "HEAVY TEARDROP-SHANKED RIGHTWARDS ARROW", "WEDGE-TAILED RIGHTWARDS ARROW",
    "HEAVY WEDGE-TAILED RIGHTWARDS ARROW", "OPEN-OUTLINED RIGHTWARDS ARROW", "DOUBLE CURLY LOOP"])]

/-- Names of symbols. -/
def symbols : List (Nat × List String) :=
  punctuation ++ letterlike ++ operators ++ shapes ++ signs

end Playground.Text.Name
