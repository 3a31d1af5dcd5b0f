import LineCommand.Text.CharacterName.Basic

/-! Names of punctuation, small figures, currency and letter-like signs. -/
namespace LineCommand.Text.CharacterName

/-- The names of punctuation, small figures, currency and letter-like signs. -/
def punctuationNames : List NameRun :=
  [⟨0x2000, [
    "EN QUAD;EM QUAD;EN SPACE;EM SPACE;THREE-PER-EM SPACE;FOUR-PER-EM SPACE;SIX-PER-EM SPACE",
    "FIGURE SPACE;PUNCTUATION SPACE;THIN SPACE;HAIR SPACE;ZERO WIDTH SPACE/ZWSP",
    "ZERO WIDTH NON-JOINER/ZWNJ;ZERO WIDTH JOINER/ZWJ;LEFT-TO-RIGHT MARK/LRM",
    "RIGHT-TO-LEFT MARK/RLM;HYPHEN;NON-BREAKING HYPHEN;FIGURE DASH;EN DASH;EM DASH;HORIZONTAL BAR",
    "DOUBLE VERTICAL LINE;DOUBLE LOW LINE;LEFT SINGLE QUOTATION MARK;RIGHT SINGLE QUOTATION MARK",
    "SINGLE LOW-9 QUOTATION MARK;SINGLE HIGH-REVERSED-9 QUOTATION MARK;LEFT DOUBLE QUOTATION MARK",
    "RIGHT DOUBLE QUOTATION MARK;DOUBLE LOW-9 QUOTATION MARK;DOUBLE HIGH-REVERSED-9 QUOTATION MARK",
    "DAGGER;DOUBLE DAGGER;BULLET;TRIANGULAR BULLET;ONE DOT LEADER;TWO DOT LEADER",
    "HORIZONTAL ELLIPSIS;HYPHENATION POINT;LINE SEPARATOR;PARAGRAPH SEPARATOR",
    "LEFT-TO-RIGHT EMBEDDING/LRE;RIGHT-TO-LEFT EMBEDDING/RLE;POP DIRECTIONAL FORMATTING/PDF",
    "LEFT-TO-RIGHT OVERRIDE/LRO;RIGHT-TO-LEFT OVERRIDE/RLO;NARROW NO-BREAK SPACE/NNBSP",
    "PER MILLE SIGN;PER TEN THOUSAND SIGN;PRIME;DOUBLE PRIME;TRIPLE PRIME;REVERSED PRIME",
    "REVERSED DOUBLE PRIME;REVERSED TRIPLE PRIME;CARET;SINGLE LEFT-POINTING ANGLE QUOTATION MARK",
    "SINGLE RIGHT-POINTING ANGLE QUOTATION MARK;REFERENCE MARK;DOUBLE EXCLAMATION MARK;INTERROBANG",
    "OVERLINE;UNDERTIE;CHARACTER TIE;CARET INSERTION POINT;ASTERISM;HYPHEN BULLET;FRACTION SLASH",
    "LEFT SQUARE BRACKET WITH QUILL;RIGHT SQUARE BRACKET WITH QUILL;DOUBLE QUESTION MARK",
    "QUESTION EXCLAMATION MARK;EXCLAMATION QUESTION MARK;TIRONIAN SIGN ET;REVERSED PILCROW SIGN",
    "BLACK LEFTWARDS BULLET;BLACK RIGHTWARDS BULLET;LOW ASTERISK;REVERSED SEMICOLON;CLOSE UP",
    "TWO ASTERISKS ALIGNED VERTICALLY;COMMERCIAL MINUS SIGN;SWUNG DASH;INVERTED UNDERTIE",
    "FLOWER PUNCTUATION MARK;THREE DOT PUNCTUATION;QUADRUPLE PRIME;FOUR DOT PUNCTUATION",
    "FIVE DOT PUNCTUATION;TWO DOT PUNCTUATION;FOUR DOT MARK;DOTTED CROSS;TRICOLON",
    "VERTICAL FOUR DOTS;MEDIUM MATHEMATICAL SPACE/MMSP;WORD JOINER/WJ;FUNCTION APPLICATION",
    "INVISIBLE TIMES;INVISIBLE SEPARATOR;INVISIBLE PLUS"]⟩,
   ⟨0x2066, [
    "LEFT-TO-RIGHT ISOLATE/LRI;RIGHT-TO-LEFT ISOLATE/RLI;FIRST STRONG ISOLATE/FSI",
    "POP DIRECTIONAL ISOLATE/PDI;INHIBIT SYMMETRIC SWAPPING;ACTIVATE SYMMETRIC SWAPPING",
    "INHIBIT ARABIC FORM SHAPING;ACTIVATE ARABIC FORM SHAPING;NATIONAL DIGIT SHAPES",
    "NOMINAL DIGIT SHAPES;SUPERSCRIPT ZERO;SUPERSCRIPT LATIN SMALL LETTER I"]⟩,
   ⟨0x2074, [
    "SUPERSCRIPT FOUR;SUPERSCRIPT FIVE;SUPERSCRIPT SIX;SUPERSCRIPT SEVEN;SUPERSCRIPT EIGHT",
    "SUPERSCRIPT NINE;SUPERSCRIPT PLUS SIGN;SUPERSCRIPT MINUS;SUPERSCRIPT EQUALS SIGN",
    "SUPERSCRIPT LEFT PARENTHESIS;SUPERSCRIPT RIGHT PARENTHESIS;SUPERSCRIPT LATIN SMALL LETTER N",
    "SUBSCRIPT ZERO;SUBSCRIPT ONE;SUBSCRIPT TWO;SUBSCRIPT THREE;SUBSCRIPT FOUR;SUBSCRIPT FIVE",
    "SUBSCRIPT SIX;SUBSCRIPT SEVEN;SUBSCRIPT EIGHT;SUBSCRIPT NINE;SUBSCRIPT PLUS SIGN",
    "SUBSCRIPT MINUS;SUBSCRIPT EQUALS SIGN;SUBSCRIPT LEFT PARENTHESIS",
    "SUBSCRIPT RIGHT PARENTHESIS"]⟩,
   ⟨0x2090, [
    "LATIN SUBSCRIPT SMALL LETTER A;LATIN SUBSCRIPT SMALL LETTER E;LATIN SUBSCRIPT SMALL LETTER O",
    "LATIN SUBSCRIPT SMALL LETTER X;LATIN SUBSCRIPT SMALL LETTER SCHWA",
    "LATIN SUBSCRIPT SMALL LETTER H;LATIN SUBSCRIPT SMALL LETTER K;LATIN SUBSCRIPT SMALL LETTER L",
    "LATIN SUBSCRIPT SMALL LETTER M;LATIN SUBSCRIPT SMALL LETTER N;LATIN SUBSCRIPT SMALL LETTER P",
    "LATIN SUBSCRIPT SMALL LETTER S;LATIN SUBSCRIPT SMALL LETTER T"]⟩,
   ⟨0x20A0, [
    "EURO-CURRENCY SIGN;COLON SIGN;CRUZEIRO SIGN;FRENCH FRANC SIGN;LIRA SIGN;MILL SIGN;NAIRA SIGN",
    "PESETA SIGN;RUPEE SIGN;WON SIGN;NEW SHEQEL SIGN;DONG SIGN;EURO SIGN;KIP SIGN;TUGRIK SIGN",
    "DRACHMA SIGN;GERMAN PENNY SIGN;PESO SIGN;GUARANI SIGN;AUSTRAL SIGN;HRYVNIA SIGN;CEDI SIGN",
    "LIVRE TOURNOIS SIGN;SPESMILO SIGN;TENGE SIGN;INDIAN RUPEE SIGN;TURKISH LIRA SIGN",
    "NORDIC MARK SIGN;MANAT SIGN;RUBLE SIGN;LARI SIGN;BITCOIN SIGN;SOM SIGN"]⟩,
   ⟨0x2100, [
    "ACCOUNT OF;ADDRESSED TO THE SUBJECT;DOUBLE-STRUCK CAPITAL C;DEGREE CELSIUS;CENTRE LINE SYMBOL",
    "CARE OF;CADA UNA;EULER CONSTANT;SCRUPLE;DEGREE FAHRENHEIT;SCRIPT SMALL G;SCRIPT CAPITAL H",
    "BLACK-LETTER CAPITAL H;DOUBLE-STRUCK CAPITAL H;PLANCK CONSTANT;PLANCK CONSTANT OVER TWO PI",
    "SCRIPT CAPITAL I;BLACK-LETTER CAPITAL I;SCRIPT CAPITAL L;SCRIPT SMALL L;L B BAR SYMBOL",
    "DOUBLE-STRUCK CAPITAL N;NUMERO SIGN;SOUND RECORDING COPYRIGHT",
    "WEIERSTRASS ELLIPTIC FUNCTION/SCRIPT CAPITAL P;DOUBLE-STRUCK CAPITAL P",
    "DOUBLE-STRUCK CAPITAL Q;SCRIPT CAPITAL R;BLACK-LETTER CAPITAL R;DOUBLE-STRUCK CAPITAL R",
    "PRESCRIPTION TAKE;RESPONSE;SERVICE MARK;TELEPHONE SIGN;TRADE MARK SIGN;VERSICLE",
    "DOUBLE-STRUCK CAPITAL Z;OUNCE SIGN;OHM SIGN;INVERTED OHM SIGN;BLACK-LETTER CAPITAL Z",
    "TURNED GREEK SMALL LETTER IOTA;KELVIN SIGN;ANGSTROM SIGN;SCRIPT CAPITAL B",
    "BLACK-LETTER CAPITAL C;ESTIMATED SYMBOL;SCRIPT SMALL E;SCRIPT CAPITAL E;SCRIPT CAPITAL F",
    "TURNED CAPITAL F;SCRIPT CAPITAL M;SCRIPT SMALL O;ALEF SYMBOL;BET SYMBOL;GIMEL SYMBOL",
    "DALET SYMBOL;INFORMATION SOURCE;ROTATED CAPITAL Q;FACSIMILE SIGN;DOUBLE-STRUCK SMALL PI",
    "DOUBLE-STRUCK SMALL GAMMA;DOUBLE-STRUCK CAPITAL GAMMA;DOUBLE-STRUCK CAPITAL PI",
    "DOUBLE-STRUCK N-ARY SUMMATION;TURNED SANS-SERIF CAPITAL G;TURNED SANS-SERIF CAPITAL L",
    "REVERSED SANS-SERIF CAPITAL L;TURNED SANS-SERIF CAPITAL Y;DOUBLE-STRUCK ITALIC CAPITAL D",
    "DOUBLE-STRUCK ITALIC SMALL D;DOUBLE-STRUCK ITALIC SMALL E;DOUBLE-STRUCK ITALIC SMALL I",
    "DOUBLE-STRUCK ITALIC SMALL J;PROPERTY LINE;TURNED AMPERSAND;PER SIGN;AKTIESELSKAB",
    "TURNED SMALL F;SYMBOL FOR SAMARITAN SOURCE;VULGAR FRACTION ONE SEVENTH",
    "VULGAR FRACTION ONE NINTH;VULGAR FRACTION ONE TENTH;VULGAR FRACTION ONE THIRD",
    "VULGAR FRACTION TWO THIRDS;VULGAR FRACTION ONE FIFTH;VULGAR FRACTION TWO FIFTHS",
    "VULGAR FRACTION THREE FIFTHS;VULGAR FRACTION FOUR FIFTHS;VULGAR FRACTION ONE SIXTH",
    "VULGAR FRACTION FIVE SIXTHS;VULGAR FRACTION ONE EIGHTH;VULGAR FRACTION THREE EIGHTHS",
    "VULGAR FRACTION FIVE EIGHTHS;VULGAR FRACTION SEVEN EIGHTHS;FRACTION NUMERATOR ONE",
    "ROMAN NUMERAL ONE;ROMAN NUMERAL TWO;ROMAN NUMERAL THREE;ROMAN NUMERAL FOUR;ROMAN NUMERAL FIVE",
    "ROMAN NUMERAL SIX;ROMAN NUMERAL SEVEN;ROMAN NUMERAL EIGHT;ROMAN NUMERAL NINE",
    "ROMAN NUMERAL TEN;ROMAN NUMERAL ELEVEN;ROMAN NUMERAL TWELVE;ROMAN NUMERAL FIFTY",
    "ROMAN NUMERAL ONE HUNDRED;ROMAN NUMERAL FIVE HUNDRED;ROMAN NUMERAL ONE THOUSAND",
    "SMALL ROMAN NUMERAL ONE;SMALL ROMAN NUMERAL TWO;SMALL ROMAN NUMERAL THREE",
    "SMALL ROMAN NUMERAL FOUR;SMALL ROMAN NUMERAL FIVE;SMALL ROMAN NUMERAL SIX",
    "SMALL ROMAN NUMERAL SEVEN;SMALL ROMAN NUMERAL EIGHT;SMALL ROMAN NUMERAL NINE",
    "SMALL ROMAN NUMERAL TEN;SMALL ROMAN NUMERAL ELEVEN;SMALL ROMAN NUMERAL TWELVE",
    "SMALL ROMAN NUMERAL FIFTY;SMALL ROMAN NUMERAL ONE HUNDRED;SMALL ROMAN NUMERAL FIVE HUNDRED",
    "SMALL ROMAN NUMERAL ONE THOUSAND;ROMAN NUMERAL ONE THOUSAND C D;ROMAN NUMERAL FIVE THOUSAND",
    "ROMAN NUMERAL TEN THOUSAND;ROMAN NUMERAL REVERSED ONE HUNDRED;LATIN SMALL LETTER REVERSED C",
    "ROMAN NUMERAL SIX LATE FORM;ROMAN NUMERAL FIFTY EARLY FORM;ROMAN NUMERAL FIFTY THOUSAND",
    "ROMAN NUMERAL ONE HUNDRED THOUSAND;VULGAR FRACTION ZERO THIRDS;TURNED DIGIT TWO",
    "TURNED DIGIT THREE"]⟩,
   ⟨0x3000, [
    "IDEOGRAPHIC SPACE;IDEOGRAPHIC COMMA;IDEOGRAPHIC FULL STOP;DITTO MARK",
    "JAPANESE INDUSTRIAL STANDARD SYMBOL;IDEOGRAPHIC ITERATION MARK;IDEOGRAPHIC CLOSING MARK",
    "IDEOGRAPHIC NUMBER ZERO;LEFT ANGLE BRACKET;RIGHT ANGLE BRACKET;LEFT DOUBLE ANGLE BRACKET",
    "RIGHT DOUBLE ANGLE BRACKET;LEFT CORNER BRACKET;RIGHT CORNER BRACKET;LEFT WHITE CORNER BRACKET",
    "RIGHT WHITE CORNER BRACKET;LEFT BLACK LENTICULAR BRACKET;RIGHT BLACK LENTICULAR BRACKET",
    "POSTAL MARK;GETA MARK;LEFT TORTOISE SHELL BRACKET;RIGHT TORTOISE SHELL BRACKET",
    "LEFT WHITE LENTICULAR BRACKET;RIGHT WHITE LENTICULAR BRACKET",
    "LEFT WHITE TORTOISE SHELL BRACKET;RIGHT WHITE TORTOISE SHELL BRACKET",
    "LEFT WHITE SQUARE BRACKET;RIGHT WHITE SQUARE BRACKET;WAVE DASH",
    "REVERSED DOUBLE PRIME QUOTATION MARK;DOUBLE PRIME QUOTATION MARK",
    "LOW DOUBLE PRIME QUOTATION MARK;POSTAL MARK FACE;HANGZHOU NUMERAL ONE;HANGZHOU NUMERAL TWO",
    "HANGZHOU NUMERAL THREE;HANGZHOU NUMERAL FOUR;HANGZHOU NUMERAL FIVE;HANGZHOU NUMERAL SIX",
    "HANGZHOU NUMERAL SEVEN;HANGZHOU NUMERAL EIGHT;HANGZHOU NUMERAL NINE",
    "IDEOGRAPHIC LEVEL TONE MARK;IDEOGRAPHIC RISING TONE MARK;IDEOGRAPHIC DEPARTING TONE MARK",
    "IDEOGRAPHIC ENTERING TONE MARK;HANGUL SINGLE DOT TONE MARK;HANGUL DOUBLE DOT TONE MARK",
    "WAVY DASH;VERTICAL KANA REPEAT MARK;VERTICAL KANA REPEAT WITH VOICED SOUND MARK",
    "VERTICAL KANA REPEAT MARK UPPER HALF;VERTICAL KANA REPEAT WITH VOICED SOUND MARK UPPER HALF",
    "VERTICAL KANA REPEAT MARK LOWER HALF;CIRCLED POSTAL MARK",
    "IDEOGRAPHIC TELEGRAPH LINE FEED SEPARATOR SYMBOL;HANGZHOU NUMERAL TEN;HANGZHOU NUMERAL TWENTY",
    "HANGZHOU NUMERAL THIRTY;VERTICAL IDEOGRAPHIC ITERATION MARK;MASU MARK;PART ALTERNATION MARK",
    "IDEOGRAPHIC VARIATION INDICATOR;IDEOGRAPHIC HALF FILL SPACE"]⟩,
   ⟨0xFEFF, ["ZERO WIDTH NO-BREAK SPACE/BYTE ORDER MARK/BOM/ZWNBSP"]⟩,
   ⟨0xFFFC, ["OBJECT REPLACEMENT CHARACTER;REPLACEMENT CHARACTER"]⟩]

end LineCommand.Text.CharacterName
