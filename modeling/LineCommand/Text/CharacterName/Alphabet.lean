import LineCommand.Text.CharacterName.Basic

/-! Names of marks, Greek and Cyrillic letters, kana, and the characters of full width. -/
namespace LineCommand.Text.CharacterName

/-- The names of marks, Greek and Cyrillic letters, kana, and the characters of full width. -/
def alphabetNames : List NameRun :=
  [⟨0x300, [
    "COMBINING GRAVE ACCENT;COMBINING ACUTE ACCENT;COMBINING CIRCUMFLEX ACCENT;COMBINING TILDE",
    "COMBINING MACRON;COMBINING OVERLINE;COMBINING BREVE;COMBINING DOT ABOVE;COMBINING DIAERESIS",
    "COMBINING HOOK ABOVE;COMBINING RING ABOVE;COMBINING DOUBLE ACUTE ACCENT;COMBINING CARON",
    "COMBINING VERTICAL LINE ABOVE;COMBINING DOUBLE VERTICAL LINE ABOVE",
    "COMBINING DOUBLE GRAVE ACCENT;COMBINING CANDRABINDU;COMBINING INVERTED BREVE",
    "COMBINING TURNED COMMA ABOVE;COMBINING COMMA ABOVE;COMBINING REVERSED COMMA ABOVE",
    "COMBINING COMMA ABOVE RIGHT;COMBINING GRAVE ACCENT BELOW;COMBINING ACUTE ACCENT BELOW",
    "COMBINING LEFT TACK BELOW;COMBINING RIGHT TACK BELOW;COMBINING LEFT ANGLE ABOVE",
    "COMBINING HORN;COMBINING LEFT HALF RING BELOW;COMBINING UP TACK BELOW",
    "COMBINING DOWN TACK BELOW;COMBINING PLUS SIGN BELOW;COMBINING MINUS SIGN BELOW",
    "COMBINING PALATALIZED HOOK BELOW;COMBINING RETROFLEX HOOK BELOW;COMBINING DOT BELOW",
    "COMBINING DIAERESIS BELOW;COMBINING RING BELOW;COMBINING COMMA BELOW;COMBINING CEDILLA",
    "COMBINING OGONEK;COMBINING VERTICAL LINE BELOW;COMBINING BRIDGE BELOW",
    "COMBINING INVERTED DOUBLE ARCH BELOW;COMBINING CARON BELOW;COMBINING CIRCUMFLEX ACCENT BELOW",
    "COMBINING BREVE BELOW;COMBINING INVERTED BREVE BELOW;COMBINING TILDE BELOW",
    "COMBINING MACRON BELOW;COMBINING LOW LINE;COMBINING DOUBLE LOW LINE;COMBINING TILDE OVERLAY",
    "COMBINING SHORT STROKE OVERLAY;COMBINING LONG STROKE OVERLAY;COMBINING SHORT SOLIDUS OVERLAY",
    "COMBINING LONG SOLIDUS OVERLAY;COMBINING RIGHT HALF RING BELOW",
    "COMBINING INVERTED BRIDGE BELOW;COMBINING SQUARE BELOW;COMBINING SEAGULL BELOW",
    "COMBINING X ABOVE;COMBINING VERTICAL TILDE;COMBINING DOUBLE OVERLINE",
    "COMBINING GRAVE TONE MARK;COMBINING ACUTE TONE MARK;COMBINING GREEK PERISPOMENI",
    "COMBINING GREEK KORONIS;COMBINING GREEK DIALYTIKA TONOS;COMBINING GREEK YPOGEGRAMMENI",
    "COMBINING BRIDGE ABOVE;COMBINING EQUALS SIGN BELOW;COMBINING DOUBLE VERTICAL LINE BELOW",
    "COMBINING LEFT ANGLE BELOW;COMBINING NOT TILDE ABOVE;COMBINING HOMOTHETIC ABOVE",
    "COMBINING ALMOST EQUAL TO ABOVE;COMBINING LEFT RIGHT ARROW BELOW",
    "COMBINING UPWARDS ARROW BELOW;COMBINING GRAPHEME JOINER/CGJ;COMBINING RIGHT ARROWHEAD ABOVE",
    "COMBINING LEFT HALF RING ABOVE;COMBINING FERMATA;COMBINING X BELOW",
    "COMBINING LEFT ARROWHEAD BELOW;COMBINING RIGHT ARROWHEAD BELOW",
    "COMBINING RIGHT ARROWHEAD AND UP ARROWHEAD BELOW;COMBINING RIGHT HALF RING ABOVE",
    "COMBINING DOT ABOVE RIGHT;COMBINING ASTERISK BELOW;COMBINING DOUBLE RING BELOW",
    "COMBINING ZIGZAG ABOVE;COMBINING DOUBLE BREVE BELOW;COMBINING DOUBLE BREVE",
    "COMBINING DOUBLE MACRON;COMBINING DOUBLE MACRON BELOW;COMBINING DOUBLE TILDE",
    "COMBINING DOUBLE INVERTED BREVE;COMBINING DOUBLE RIGHTWARDS ARROW BELOW",
    "COMBINING LATIN SMALL LETTER A;COMBINING LATIN SMALL LETTER E;COMBINING LATIN SMALL LETTER I",
    "COMBINING LATIN SMALL LETTER O;COMBINING LATIN SMALL LETTER U;COMBINING LATIN SMALL LETTER C",
    "COMBINING LATIN SMALL LETTER D;COMBINING LATIN SMALL LETTER H;COMBINING LATIN SMALL LETTER M",
    "COMBINING LATIN SMALL LETTER R;COMBINING LATIN SMALL LETTER T;COMBINING LATIN SMALL LETTER V",
    "COMBINING LATIN SMALL LETTER X;GREEK CAPITAL LETTER HETA;GREEK SMALL LETTER HETA",
    "GREEK CAPITAL LETTER ARCHAIC SAMPI;GREEK SMALL LETTER ARCHAIC SAMPI;GREEK NUMERAL SIGN",
    "GREEK LOWER NUMERAL SIGN;GREEK CAPITAL LETTER PAMPHYLIAN DIGAMMA",
    "GREEK SMALL LETTER PAMPHYLIAN DIGAMMA"]⟩,
   ⟨0x37A, [
    "GREEK YPOGEGRAMMENI;GREEK SMALL REVERSED LUNATE SIGMA SYMBOL",
    "GREEK SMALL DOTTED LUNATE SIGMA SYMBOL;GREEK SMALL REVERSED DOTTED LUNATE SIGMA SYMBOL",
    "GREEK QUESTION MARK;GREEK CAPITAL LETTER YOT"]⟩,
   ⟨0x384, [
    "GREEK TONOS;GREEK DIALYTIKA TONOS;GREEK CAPITAL LETTER ALPHA WITH TONOS;GREEK ANO TELEIA",
    "GREEK CAPITAL LETTER EPSILON WITH TONOS;GREEK CAPITAL LETTER ETA WITH TONOS",
    "GREEK CAPITAL LETTER IOTA WITH TONOS"]⟩,
   ⟨0x38C, ["GREEK CAPITAL LETTER OMICRON WITH TONOS"]⟩,
   ⟨0x38E, [
    "GREEK CAPITAL LETTER UPSILON WITH TONOS;GREEK CAPITAL LETTER OMEGA WITH TONOS",
    "GREEK SMALL LETTER IOTA WITH DIALYTIKA AND TONOS;GREEK CAPITAL LETTER ALPHA",
    "GREEK CAPITAL LETTER BETA;GREEK CAPITAL LETTER GAMMA;GREEK CAPITAL LETTER DELTA",
    "GREEK CAPITAL LETTER EPSILON;GREEK CAPITAL LETTER ZETA;GREEK CAPITAL LETTER ETA",
    "GREEK CAPITAL LETTER THETA;GREEK CAPITAL LETTER IOTA;GREEK CAPITAL LETTER KAPPA",
    "GREEK CAPITAL LETTER LAMDA;GREEK CAPITAL LETTER MU;GREEK CAPITAL LETTER NU",
    "GREEK CAPITAL LETTER XI;GREEK CAPITAL LETTER OMICRON;GREEK CAPITAL LETTER PI",
    "GREEK CAPITAL LETTER RHO"]⟩,
   ⟨0x3A3, [
    "GREEK CAPITAL LETTER SIGMA;GREEK CAPITAL LETTER TAU;GREEK CAPITAL LETTER UPSILON",
    "GREEK CAPITAL LETTER PHI;GREEK CAPITAL LETTER CHI;GREEK CAPITAL LETTER PSI",
    "GREEK CAPITAL LETTER OMEGA;GREEK CAPITAL LETTER IOTA WITH DIALYTIKA",
    "GREEK CAPITAL LETTER UPSILON WITH DIALYTIKA;GREEK SMALL LETTER ALPHA WITH TONOS",
    "GREEK SMALL LETTER EPSILON WITH TONOS;GREEK SMALL LETTER ETA WITH TONOS",
    "GREEK SMALL LETTER IOTA WITH TONOS;GREEK SMALL LETTER UPSILON WITH DIALYTIKA AND TONOS",
    "GREEK SMALL LETTER ALPHA;GREEK SMALL LETTER BETA;GREEK SMALL LETTER GAMMA",
    "GREEK SMALL LETTER DELTA;GREEK SMALL LETTER EPSILON;GREEK SMALL LETTER ZETA",
    "GREEK SMALL LETTER ETA;GREEK SMALL LETTER THETA;GREEK SMALL LETTER IOTA",
    "GREEK SMALL LETTER KAPPA;GREEK SMALL LETTER LAMDA;GREEK SMALL LETTER MU;GREEK SMALL LETTER NU",
    "GREEK SMALL LETTER XI;GREEK SMALL LETTER OMICRON;GREEK SMALL LETTER PI;GREEK SMALL LETTER RHO",
    "GREEK SMALL LETTER FINAL SIGMA;GREEK SMALL LETTER SIGMA;GREEK SMALL LETTER TAU",
    "GREEK SMALL LETTER UPSILON;GREEK SMALL LETTER PHI;GREEK SMALL LETTER CHI",
    "GREEK SMALL LETTER PSI;GREEK SMALL LETTER OMEGA;GREEK SMALL LETTER IOTA WITH DIALYTIKA",
    "GREEK SMALL LETTER UPSILON WITH DIALYTIKA;GREEK SMALL LETTER OMICRON WITH TONOS",
    "GREEK SMALL LETTER UPSILON WITH TONOS;GREEK SMALL LETTER OMEGA WITH TONOS",
    "GREEK CAPITAL KAI SYMBOL;GREEK BETA SYMBOL;GREEK THETA SYMBOL;GREEK UPSILON WITH HOOK SYMBOL",
    "GREEK UPSILON WITH ACUTE AND HOOK SYMBOL;GREEK UPSILON WITH DIAERESIS AND HOOK SYMBOL",
    "GREEK PHI SYMBOL;GREEK PI SYMBOL;GREEK KAI SYMBOL;GREEK LETTER ARCHAIC KOPPA",
    "GREEK SMALL LETTER ARCHAIC KOPPA;GREEK LETTER STIGMA;GREEK SMALL LETTER STIGMA",
    "GREEK LETTER DIGAMMA;GREEK SMALL LETTER DIGAMMA;GREEK LETTER KOPPA;GREEK SMALL LETTER KOPPA",
    "GREEK LETTER SAMPI;GREEK SMALL LETTER SAMPI;COPTIC CAPITAL LETTER SHEI",
    "COPTIC SMALL LETTER SHEI;COPTIC CAPITAL LETTER FEI;COPTIC SMALL LETTER FEI",
    "COPTIC CAPITAL LETTER KHEI;COPTIC SMALL LETTER KHEI;COPTIC CAPITAL LETTER HORI",
    "COPTIC SMALL LETTER HORI;COPTIC CAPITAL LETTER GANGIA;COPTIC SMALL LETTER GANGIA",
    "COPTIC CAPITAL LETTER SHIMA;COPTIC SMALL LETTER SHIMA;COPTIC CAPITAL LETTER DEI",
    "COPTIC SMALL LETTER DEI;GREEK KAPPA SYMBOL;GREEK RHO SYMBOL;GREEK LUNATE SIGMA SYMBOL",
    "GREEK LETTER YOT;GREEK CAPITAL THETA SYMBOL;GREEK LUNATE EPSILON SYMBOL",
    "GREEK REVERSED LUNATE EPSILON SYMBOL;GREEK CAPITAL LETTER SHO;GREEK SMALL LETTER SHO",
    "GREEK CAPITAL LUNATE SIGMA SYMBOL;GREEK CAPITAL LETTER SAN;GREEK SMALL LETTER SAN",
    "GREEK RHO WITH STROKE SYMBOL;GREEK CAPITAL REVERSED LUNATE SIGMA SYMBOL",
    "GREEK CAPITAL DOTTED LUNATE SIGMA SYMBOL;GREEK CAPITAL REVERSED DOTTED LUNATE SIGMA SYMBOL",
    "CYRILLIC CAPITAL LETTER IE WITH GRAVE;CYRILLIC CAPITAL LETTER IO;CYRILLIC CAPITAL LETTER DJE",
    "CYRILLIC CAPITAL LETTER GJE;CYRILLIC CAPITAL LETTER UKRAINIAN IE;CYRILLIC CAPITAL LETTER DZE",
    "CYRILLIC CAPITAL LETTER BYELORUSSIAN-UKRAINIAN I;CYRILLIC CAPITAL LETTER YI",
    "CYRILLIC CAPITAL LETTER JE;CYRILLIC CAPITAL LETTER LJE;CYRILLIC CAPITAL LETTER NJE",
    "CYRILLIC CAPITAL LETTER TSHE;CYRILLIC CAPITAL LETTER KJE;CYRILLIC CAPITAL LETTER I WITH GRAVE",
    "CYRILLIC CAPITAL LETTER SHORT U;CYRILLIC CAPITAL LETTER DZHE;CYRILLIC CAPITAL LETTER A",
    "CYRILLIC CAPITAL LETTER BE;CYRILLIC CAPITAL LETTER VE;CYRILLIC CAPITAL LETTER GHE",
    "CYRILLIC CAPITAL LETTER DE;CYRILLIC CAPITAL LETTER IE;CYRILLIC CAPITAL LETTER ZHE",
    "CYRILLIC CAPITAL LETTER ZE;CYRILLIC CAPITAL LETTER I;CYRILLIC CAPITAL LETTER SHORT I",
    "CYRILLIC CAPITAL LETTER KA;CYRILLIC CAPITAL LETTER EL;CYRILLIC CAPITAL LETTER EM",
    "CYRILLIC CAPITAL LETTER EN;CYRILLIC CAPITAL LETTER O;CYRILLIC CAPITAL LETTER PE",
    "CYRILLIC CAPITAL LETTER ER;CYRILLIC CAPITAL LETTER ES;CYRILLIC CAPITAL LETTER TE",
    "CYRILLIC CAPITAL LETTER U;CYRILLIC CAPITAL LETTER EF;CYRILLIC CAPITAL LETTER HA",
    "CYRILLIC CAPITAL LETTER TSE;CYRILLIC CAPITAL LETTER CHE;CYRILLIC CAPITAL LETTER SHA",
    "CYRILLIC CAPITAL LETTER SHCHA;CYRILLIC CAPITAL LETTER HARD SIGN;CYRILLIC CAPITAL LETTER YERU",
    "CYRILLIC CAPITAL LETTER SOFT SIGN;CYRILLIC CAPITAL LETTER E;CYRILLIC CAPITAL LETTER YU",
    "CYRILLIC CAPITAL LETTER YA;CYRILLIC SMALL LETTER A;CYRILLIC SMALL LETTER BE",
    "CYRILLIC SMALL LETTER VE;CYRILLIC SMALL LETTER GHE;CYRILLIC SMALL LETTER DE",
    "CYRILLIC SMALL LETTER IE;CYRILLIC SMALL LETTER ZHE;CYRILLIC SMALL LETTER ZE",
    "CYRILLIC SMALL LETTER I;CYRILLIC SMALL LETTER SHORT I;CYRILLIC SMALL LETTER KA",
    "CYRILLIC SMALL LETTER EL;CYRILLIC SMALL LETTER EM;CYRILLIC SMALL LETTER EN",
    "CYRILLIC SMALL LETTER O;CYRILLIC SMALL LETTER PE;CYRILLIC SMALL LETTER ER",
    "CYRILLIC SMALL LETTER ES;CYRILLIC SMALL LETTER TE;CYRILLIC SMALL LETTER U",
    "CYRILLIC SMALL LETTER EF;CYRILLIC SMALL LETTER HA;CYRILLIC SMALL LETTER TSE",
    "CYRILLIC SMALL LETTER CHE;CYRILLIC SMALL LETTER SHA;CYRILLIC SMALL LETTER SHCHA",
    "CYRILLIC SMALL LETTER HARD SIGN;CYRILLIC SMALL LETTER YERU;CYRILLIC SMALL LETTER SOFT SIGN",
    "CYRILLIC SMALL LETTER E;CYRILLIC SMALL LETTER YU;CYRILLIC SMALL LETTER YA",
    "CYRILLIC SMALL LETTER IE WITH GRAVE;CYRILLIC SMALL LETTER IO;CYRILLIC SMALL LETTER DJE",
    "CYRILLIC SMALL LETTER GJE;CYRILLIC SMALL LETTER UKRAINIAN IE;CYRILLIC SMALL LETTER DZE",
    "CYRILLIC SMALL LETTER BYELORUSSIAN-UKRAINIAN I;CYRILLIC SMALL LETTER YI",
    "CYRILLIC SMALL LETTER JE;CYRILLIC SMALL LETTER LJE;CYRILLIC SMALL LETTER NJE",
    "CYRILLIC SMALL LETTER TSHE;CYRILLIC SMALL LETTER KJE;CYRILLIC SMALL LETTER I WITH GRAVE",
    "CYRILLIC SMALL LETTER SHORT U;CYRILLIC SMALL LETTER DZHE"]⟩,
   ⟨0x3041, [
    "HIRAGANA LETTER SMALL A;HIRAGANA LETTER A;HIRAGANA LETTER SMALL I;HIRAGANA LETTER I",
    "HIRAGANA LETTER SMALL U;HIRAGANA LETTER U;HIRAGANA LETTER SMALL E;HIRAGANA LETTER E",
    "HIRAGANA LETTER SMALL O;HIRAGANA LETTER O;HIRAGANA LETTER KA;HIRAGANA LETTER GA",
    "HIRAGANA LETTER KI;HIRAGANA LETTER GI;HIRAGANA LETTER KU;HIRAGANA LETTER GU",
    "HIRAGANA LETTER KE;HIRAGANA LETTER GE;HIRAGANA LETTER KO;HIRAGANA LETTER GO",
    "HIRAGANA LETTER SA;HIRAGANA LETTER ZA;HIRAGANA LETTER SI;HIRAGANA LETTER ZI",
    "HIRAGANA LETTER SU;HIRAGANA LETTER ZU;HIRAGANA LETTER SE;HIRAGANA LETTER ZE",
    "HIRAGANA LETTER SO;HIRAGANA LETTER ZO;HIRAGANA LETTER TA;HIRAGANA LETTER DA",
    "HIRAGANA LETTER TI;HIRAGANA LETTER DI;HIRAGANA LETTER SMALL TU;HIRAGANA LETTER TU",
    "HIRAGANA LETTER DU;HIRAGANA LETTER TE;HIRAGANA LETTER DE;HIRAGANA LETTER TO",
    "HIRAGANA LETTER DO;HIRAGANA LETTER NA;HIRAGANA LETTER NI;HIRAGANA LETTER NU",
    "HIRAGANA LETTER NE;HIRAGANA LETTER NO;HIRAGANA LETTER HA;HIRAGANA LETTER BA",
    "HIRAGANA LETTER PA;HIRAGANA LETTER HI;HIRAGANA LETTER BI;HIRAGANA LETTER PI",
    "HIRAGANA LETTER HU;HIRAGANA LETTER BU;HIRAGANA LETTER PU;HIRAGANA LETTER HE",
    "HIRAGANA LETTER BE;HIRAGANA LETTER PE;HIRAGANA LETTER HO;HIRAGANA LETTER BO",
    "HIRAGANA LETTER PO;HIRAGANA LETTER MA;HIRAGANA LETTER MI;HIRAGANA LETTER MU",
    "HIRAGANA LETTER ME;HIRAGANA LETTER MO;HIRAGANA LETTER SMALL YA;HIRAGANA LETTER YA",
    "HIRAGANA LETTER SMALL YU;HIRAGANA LETTER YU;HIRAGANA LETTER SMALL YO;HIRAGANA LETTER YO",
    "HIRAGANA LETTER RA;HIRAGANA LETTER RI;HIRAGANA LETTER RU;HIRAGANA LETTER RE",
    "HIRAGANA LETTER RO;HIRAGANA LETTER SMALL WA;HIRAGANA LETTER WA;HIRAGANA LETTER WI",
    "HIRAGANA LETTER WE;HIRAGANA LETTER WO;HIRAGANA LETTER N;HIRAGANA LETTER VU",
    "HIRAGANA LETTER SMALL KA;HIRAGANA LETTER SMALL KE"]⟩,
   ⟨0x3099, [
    "COMBINING KATAKANA-HIRAGANA VOICED SOUND MARK",
    "COMBINING KATAKANA-HIRAGANA SEMI-VOICED SOUND MARK;KATAKANA-HIRAGANA VOICED SOUND MARK",
    "KATAKANA-HIRAGANA SEMI-VOICED SOUND MARK;HIRAGANA ITERATION MARK",
    "HIRAGANA VOICED ITERATION MARK;HIRAGANA DIGRAPH YORI;KATAKANA-HIRAGANA DOUBLE HYPHEN",
    "KATAKANA LETTER SMALL A;KATAKANA LETTER A;KATAKANA LETTER SMALL I;KATAKANA LETTER I",
    "KATAKANA LETTER SMALL U;KATAKANA LETTER U;KATAKANA LETTER SMALL E;KATAKANA LETTER E",
    "KATAKANA LETTER SMALL O;KATAKANA LETTER O;KATAKANA LETTER KA;KATAKANA LETTER GA",
    "KATAKANA LETTER KI;KATAKANA LETTER GI;KATAKANA LETTER KU;KATAKANA LETTER GU",
    "KATAKANA LETTER KE;KATAKANA LETTER GE;KATAKANA LETTER KO;KATAKANA LETTER GO",
    "KATAKANA LETTER SA;KATAKANA LETTER ZA;KATAKANA LETTER SI;KATAKANA LETTER ZI",
    "KATAKANA LETTER SU;KATAKANA LETTER ZU;KATAKANA LETTER SE;KATAKANA LETTER ZE",
    "KATAKANA LETTER SO;KATAKANA LETTER ZO;KATAKANA LETTER TA;KATAKANA LETTER DA",
    "KATAKANA LETTER TI;KATAKANA LETTER DI;KATAKANA LETTER SMALL TU;KATAKANA LETTER TU",
    "KATAKANA LETTER DU;KATAKANA LETTER TE;KATAKANA LETTER DE;KATAKANA LETTER TO",
    "KATAKANA LETTER DO;KATAKANA LETTER NA;KATAKANA LETTER NI;KATAKANA LETTER NU",
    "KATAKANA LETTER NE;KATAKANA LETTER NO;KATAKANA LETTER HA;KATAKANA LETTER BA",
    "KATAKANA LETTER PA;KATAKANA LETTER HI;KATAKANA LETTER BI;KATAKANA LETTER PI",
    "KATAKANA LETTER HU;KATAKANA LETTER BU;KATAKANA LETTER PU;KATAKANA LETTER HE",
    "KATAKANA LETTER BE;KATAKANA LETTER PE;KATAKANA LETTER HO;KATAKANA LETTER BO",
    "KATAKANA LETTER PO;KATAKANA LETTER MA;KATAKANA LETTER MI;KATAKANA LETTER MU",
    "KATAKANA LETTER ME;KATAKANA LETTER MO;KATAKANA LETTER SMALL YA;KATAKANA LETTER YA",
    "KATAKANA LETTER SMALL YU;KATAKANA LETTER YU;KATAKANA LETTER SMALL YO;KATAKANA LETTER YO",
    "KATAKANA LETTER RA;KATAKANA LETTER RI;KATAKANA LETTER RU;KATAKANA LETTER RE",
    "KATAKANA LETTER RO;KATAKANA LETTER SMALL WA;KATAKANA LETTER WA;KATAKANA LETTER WI",
    "KATAKANA LETTER WE;KATAKANA LETTER WO;KATAKANA LETTER N;KATAKANA LETTER VU",
    "KATAKANA LETTER SMALL KA;KATAKANA LETTER SMALL KE;KATAKANA LETTER VA;KATAKANA LETTER VI",
    "KATAKANA LETTER VE;KATAKANA LETTER VO;KATAKANA MIDDLE DOT",
    "KATAKANA-HIRAGANA PROLONGED SOUND MARK;KATAKANA ITERATION MARK;KATAKANA VOICED ITERATION MARK",
    "KATAKANA DIGRAPH KOTO"]⟩,
   ⟨0xFF01, [
    "FULLWIDTH EXCLAMATION MARK;FULLWIDTH QUOTATION MARK;FULLWIDTH NUMBER SIGN",
    "FULLWIDTH DOLLAR SIGN;FULLWIDTH PERCENT SIGN;FULLWIDTH AMPERSAND;FULLWIDTH APOSTROPHE",
    "FULLWIDTH LEFT PARENTHESIS;FULLWIDTH RIGHT PARENTHESIS;FULLWIDTH ASTERISK;FULLWIDTH PLUS SIGN",
    "FULLWIDTH COMMA;FULLWIDTH HYPHEN-MINUS;FULLWIDTH FULL STOP;FULLWIDTH SOLIDUS",
    "FULLWIDTH DIGIT ZERO;FULLWIDTH DIGIT ONE;FULLWIDTH DIGIT TWO;FULLWIDTH DIGIT THREE",
    "FULLWIDTH DIGIT FOUR;FULLWIDTH DIGIT FIVE;FULLWIDTH DIGIT SIX;FULLWIDTH DIGIT SEVEN",
    "FULLWIDTH DIGIT EIGHT;FULLWIDTH DIGIT NINE;FULLWIDTH COLON;FULLWIDTH SEMICOLON",
    "FULLWIDTH LESS-THAN SIGN;FULLWIDTH EQUALS SIGN;FULLWIDTH GREATER-THAN SIGN",
    "FULLWIDTH QUESTION MARK;FULLWIDTH COMMERCIAL AT;FULLWIDTH LATIN CAPITAL LETTER A",
    "FULLWIDTH LATIN CAPITAL LETTER B;FULLWIDTH LATIN CAPITAL LETTER C",
    "FULLWIDTH LATIN CAPITAL LETTER D;FULLWIDTH LATIN CAPITAL LETTER E",
    "FULLWIDTH LATIN CAPITAL LETTER F;FULLWIDTH LATIN CAPITAL LETTER G",
    "FULLWIDTH LATIN CAPITAL LETTER H;FULLWIDTH LATIN CAPITAL LETTER I",
    "FULLWIDTH LATIN CAPITAL LETTER J;FULLWIDTH LATIN CAPITAL LETTER K",
    "FULLWIDTH LATIN CAPITAL LETTER L;FULLWIDTH LATIN CAPITAL LETTER M",
    "FULLWIDTH LATIN CAPITAL LETTER N;FULLWIDTH LATIN CAPITAL LETTER O",
    "FULLWIDTH LATIN CAPITAL LETTER P;FULLWIDTH LATIN CAPITAL LETTER Q",
    "FULLWIDTH LATIN CAPITAL LETTER R;FULLWIDTH LATIN CAPITAL LETTER S",
    "FULLWIDTH LATIN CAPITAL LETTER T;FULLWIDTH LATIN CAPITAL LETTER U",
    "FULLWIDTH LATIN CAPITAL LETTER V;FULLWIDTH LATIN CAPITAL LETTER W",
    "FULLWIDTH LATIN CAPITAL LETTER X;FULLWIDTH LATIN CAPITAL LETTER Y",
    "FULLWIDTH LATIN CAPITAL LETTER Z;FULLWIDTH LEFT SQUARE BRACKET;FULLWIDTH REVERSE SOLIDUS",
    "FULLWIDTH RIGHT SQUARE BRACKET;FULLWIDTH CIRCUMFLEX ACCENT;FULLWIDTH LOW LINE",
    "FULLWIDTH GRAVE ACCENT;FULLWIDTH LATIN SMALL LETTER A;FULLWIDTH LATIN SMALL LETTER B",
    "FULLWIDTH LATIN SMALL LETTER C;FULLWIDTH LATIN SMALL LETTER D;FULLWIDTH LATIN SMALL LETTER E",
    "FULLWIDTH LATIN SMALL LETTER F;FULLWIDTH LATIN SMALL LETTER G;FULLWIDTH LATIN SMALL LETTER H",
    "FULLWIDTH LATIN SMALL LETTER I;FULLWIDTH LATIN SMALL LETTER J;FULLWIDTH LATIN SMALL LETTER K",
    "FULLWIDTH LATIN SMALL LETTER L;FULLWIDTH LATIN SMALL LETTER M;FULLWIDTH LATIN SMALL LETTER N",
    "FULLWIDTH LATIN SMALL LETTER O;FULLWIDTH LATIN SMALL LETTER P;FULLWIDTH LATIN SMALL LETTER Q",
    "FULLWIDTH LATIN SMALL LETTER R;FULLWIDTH LATIN SMALL LETTER S;FULLWIDTH LATIN SMALL LETTER T",
    "FULLWIDTH LATIN SMALL LETTER U;FULLWIDTH LATIN SMALL LETTER V;FULLWIDTH LATIN SMALL LETTER W",
    "FULLWIDTH LATIN SMALL LETTER X;FULLWIDTH LATIN SMALL LETTER Y;FULLWIDTH LATIN SMALL LETTER Z",
    "FULLWIDTH LEFT CURLY BRACKET;FULLWIDTH VERTICAL LINE;FULLWIDTH RIGHT CURLY BRACKET",
    "FULLWIDTH TILDE"]⟩]

end LineCommand.Text.CharacterName
