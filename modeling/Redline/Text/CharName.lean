import Redline.Text.Case

/-!
# Names of characters

A character can be given by its name.  The table has the names of the scripts,
signs and pictures that are in common use, a row for each run of characters.
Ideographs and syllables have names by rule, and controls have names of their
own.
-/

namespace Redline.Text

/-- The names of runs of characters: the first character of a run, and the names
with semicolons between.  A small letter in a name stands for words that the name before
has in the same places, `a` for one word, `b` for two, and so on. -/
def nameRuns : List (Nat × String) :=
  [
   (0x20, "SPACE;EXCLAMATION MARK;QUOTATION a;NUMBER SIGN;DOLLAR a;PERCENT a;AMPERSAND;APOSTROPHE;
     LEFT PARENTHESIS;RIGHT a;ASTERISK;PLUS SIGN;COMMA;HYPHEN-MINUS;FULL STOP;SOLIDUS;DIGIT ZERO;
     a ONE;a TWO;a THREE;a FOUR;a FIVE;a SIX;a SEVEN;a EIGHT;a NINE;COLON;SEMICOLON;LESS-THAN SIGN;
     EQUALS a;GREATER-THAN a;QUESTION MARK;COMMERCIAL AT;LATIN CAPITAL LETTER A;c B;c C;c D;c E;c F;
     c G;c H;c I;c J;c K;c L;c M;c N;c O;c P;c Q;c R;c S;c T;c U;c V;c W;c X;c Y;c Z;
     LEFT SQUARE BRACKET;REVERSE SOLIDUS;RIGHT SQUARE BRACKET;CIRCUMFLEX ACCENT;LOW LINE;
     GRAVE ACCENT;LATIN SMALL LETTER A;c B;c C;c D;c E;c F;c G;c H;c I;c J;c K;c L;c M;c N;c O;c P;
     c Q;c R;c S;c T;c U;c V;c W;c X;c Y;c Z;LEFT CURLY BRACKET;VERTICAL LINE;RIGHT CURLY BRACKET;
     TILDE;;;;;;;;;;;;;;;;;;;;;;;;;;;;;;;;;;NO-BREAK SPACE;INVERTED EXCLAMATION MARK;CENT SIGN;
     POUND a;CURRENCY a;YEN a;BROKEN BAR;SECTION SIGN;DIAERESIS;COPYRIGHT SIGN;
     FEMININE ORDINAL INDICATOR;LEFT-POINTING DOUBLE ANGLE QUOTATION MARK;NOT SIGN;SOFT HYPHEN;
     REGISTERED SIGN;MACRON;DEGREE SIGN;PLUS-MINUS a;SUPERSCRIPT TWO;a THREE;ACUTE ACCENT;
     MICRO SIGN;PILCROW a;MIDDLE DOT;CEDILLA;SUPERSCRIPT ONE;MASCULINE ORDINAL INDICATOR;
     RIGHT-POINTING DOUBLE ANGLE QUOTATION MARK;VULGAR FRACTION ONE QUARTER;c HALF;b THREE QUARTERS;
     INVERTED QUESTION MARK;LATIN CAPITAL LETTER A WITH GRAVE;e ACUTE;e CIRCUMFLEX;e TILDE;
     e DIAERESIS;e RING ABOVE;c AE;c C WITH CEDILLA;c E a GRAVE;e ACUTE;e CIRCUMFLEX;e DIAERESIS;
     c I a GRAVE;e ACUTE;e CIRCUMFLEX;e DIAERESIS;c ETH;c N WITH TILDE;c O a GRAVE;e ACUTE;
     e CIRCUMFLEX;e TILDE;e DIAERESIS;MULTIPLICATION SIGN;LATIN CAPITAL LETTER O WITH STROKE;
     c U a GRAVE;e ACUTE;e CIRCUMFLEX;e DIAERESIS;c Y a ACUTE;c THORN;a SMALL a SHARP S;
     c A WITH GRAVE;e ACUTE;e CIRCUMFLEX;e TILDE;e DIAERESIS;e RING ABOVE;c AE;c C WITH CEDILLA;
     c E a GRAVE;e ACUTE;e CIRCUMFLEX;e DIAERESIS;c I a GRAVE;e ACUTE;e CIRCUMFLEX;e DIAERESIS;
     c ETH;c N WITH TILDE;c O a GRAVE;e ACUTE;e CIRCUMFLEX;e TILDE;e DIAERESIS;DIVISION SIGN;
     LATIN SMALL LETTER O WITH STROKE;c U a GRAVE;e ACUTE;e CIRCUMFLEX;e DIAERESIS;c Y a ACUTE;
     c THORN;c Y WITH DIAERESIS;a CAPITAL a A a MACRON;a SMALL d;a CAPITAL c BREVE;a SMALL d;
     a CAPITAL c OGONEK;a SMALL d;a CAPITAL a C a ACUTE;a SMALL d;a CAPITAL c CIRCUMFLEX;a SMALL d;
     a CAPITAL c DOT ABOVE;a SMALL e;a CAPITAL c CARON;a SMALL d;a CAPITAL a D b;a SMALL d;
     a CAPITAL c STROKE;a SMALL d;a CAPITAL a E a MACRON;a SMALL d;a CAPITAL c BREVE;a SMALL d;
     a CAPITAL c DOT ABOVE;a SMALL e;a CAPITAL c OGONEK;a SMALL d;a CAPITAL c CARON;a SMALL d;
     a CAPITAL a G a CIRCUMFLEX;a SMALL d;a CAPITAL c BREVE;a SMALL d;a CAPITAL c DOT ABOVE;
     a SMALL e;a CAPITAL c CEDILLA;a SMALL d;a CAPITAL a H a CIRCUMFLEX;a SMALL d;
     a CAPITAL c STROKE;a SMALL d;a CAPITAL a I a TILDE;a SMALL d;a CAPITAL c MACRON;a SMALL d;
     a CAPITAL c BREVE;a SMALL d;a CAPITAL c OGONEK;a SMALL d;a CAPITAL c DOT ABOVE;
     a SMALL a DOTLESS I;a CAPITAL LIGATURE IJ;a SMALL b;a CAPITAL LETTER J WITH CIRCUMFLEX;
     a SMALL d;a CAPITAL a K a CEDILLA;a SMALL d;c KRA;a CAPITAL a L WITH ACUTE;a SMALL d;
     a CAPITAL c CEDILLA;a SMALL d;a CAPITAL c CARON;a SMALL d;a CAPITAL c MIDDLE DOT;a SMALL e;
     a CAPITAL c STROKE;a SMALL d;a CAPITAL a N a ACUTE;a SMALL d;a CAPITAL c CEDILLA;a SMALL d;
     a CAPITAL c CARON;a SMALL d;d PRECEDED BY APOSTROPHE;a CAPITAL a ENG;a SMALL b;
     a CAPITAL a O WITH MACRON;a SMALL d;a CAPITAL c BREVE;a SMALL d;a CAPITAL c DOUBLE ACUTE;
     a SMALL e;a CAPITAL LIGATURE OE;a SMALL b;a CAPITAL LETTER R WITH ACUTE;a SMALL d;
     a CAPITAL c CEDILLA;a SMALL d;a CAPITAL c CARON;a SMALL d;a CAPITAL a S a ACUTE;a SMALL d;
     a CAPITAL c CIRCUMFLEX;a SMALL d;a CAPITAL c CEDILLA;a SMALL d;a CAPITAL c CARON;a SMALL d;
     a CAPITAL a T a CEDILLA;a SMALL d;a CAPITAL c CARON;a SMALL d;a CAPITAL c STROKE;a SMALL d;
     a CAPITAL a U a TILDE;a SMALL d;a CAPITAL c MACRON;a SMALL d;a CAPITAL c BREVE;a SMALL d;
     a CAPITAL c RING ABOVE;a SMALL e;a CAPITAL c DOUBLE ACUTE;a SMALL e;a CAPITAL c OGONEK;
     a SMALL d;a CAPITAL a W a CIRCUMFLEX;a SMALL d;a CAPITAL a Y b;a SMALL d;a CAPITAL c DIAERESIS;
     c Z a ACUTE;a SMALL d;a CAPITAL c DOT ABOVE;a SMALL e;a CAPITAL c CARON;a SMALL d;c LONG S;
     c B WITH STROKE;a CAPITAL c HOOK;e TOPBAR;a SMALL d;a CAPITAL a TONE SIX;a SMALL c;
     a CAPITAL a OPEN O;c C WITH HOOK;a SMALL d;a CAPITAL a AFRICAN D;c D WITH HOOK;e TOPBAR;
     a SMALL d;c TURNED DELTA;a CAPITAL a REVERSED E;c SCHWA;c OPEN E;c F WITH HOOK;a SMALL d;
     a CAPITAL a G b;c GAMMA;a SMALL a HV;a CAPITAL a IOTA;c I WITH STROKE;c K a HOOK;a SMALL d;
     c L a BAR;c LAMBDA a STROKE;a CAPITAL a TURNED M;c N WITH LEFT HOOK;a SMALL c LONG RIGHT LEG;
     a CAPITAL a O a MIDDLE TILDE;e HORN;a SMALL d;a CAPITAL a OI;a SMALL b;a CAPITAL a P WITH HOOK;
     a SMALL d;a LETTER YR;a CAPITAL LETTER TONE TWO;a SMALL c;a CAPITAL a ESH;
     a LETTER REVERSED a LOOP;a SMALL LETTER T WITH PALATAL HOOK;a CAPITAL c HOOK;a SMALL d;
     a CAPITAL c RETROFLEX HOOK;c U a HORN;a SMALL d;a CAPITAL a UPSILON;c V WITH HOOK;c Y b;
     a SMALL d;a CAPITAL a Z a STROKE;a SMALL d;a CAPITAL a EZH;d REVERSED;a SMALL c;d WITH TAIL;
     a LETTER TWO WITH STROKE;a CAPITAL LETTER TONE FIVE;a SMALL c;
     a LETTER INVERTED GLOTTAL STOP WITH STROKE;b WYNN;b DENTAL CLICK;b LATERAL a;b ALVEOLAR a;
     b RETROFLEX a;a CAPITAL LETTER DZ WITH CARON;c D a SMALL LETTER Z WITH CARON;
     a SMALL a DZ a CARON;a CAPITAL a LJ;c L WITH SMALL LETTER J;a SMALL a LJ;a CAPITAL a NJ;
     c N WITH SMALL LETTER J;a SMALL a NJ;a CAPITAL a A WITH CARON;a SMALL d;a CAPITAL a I b;
     a SMALL d;a CAPITAL a O b;a SMALL d;a CAPITAL a U b;a SMALL d;a CAPITAL c DIAERESIS AND MACRON;
     a SMALL f;a CAPITAL e ACUTE;a SMALL f;a CAPITAL e CARON;a SMALL f;a CAPITAL e GRAVE;a SMALL f;
     c TURNED E;a CAPITAL a A WITH DIAERESIS AND MACRON;a SMALL f;a CAPITAL c DOT ABOVE AND MACRON;
     a SMALL g;a CAPITAL a AE a MACRON;a SMALL d;a CAPITAL a G a STROKE;a SMALL d;a CAPITAL c CARON;
     a SMALL d;a CAPITAL a K b;a SMALL d;a CAPITAL a O a OGONEK;a SMALL d;a CAPITAL d AND MACRON;
     a SMALL f;a CAPITAL a EZH a CARON;a SMALL d;c J b;a CAPITAL a DZ;c D WITH SMALL LETTER Z;
     a SMALL a DZ;a CAPITAL a G WITH ACUTE;a SMALL d;a CAPITAL a HWAIR;c WYNN;c N WITH GRAVE;
     a SMALL d;a CAPITAL a A a RING ABOVE AND ACUTE;a SMALL g;a CAPITAL a AE a ACUTE;a SMALL d;
     a CAPITAL a O a STROKE AND ACUTE;a SMALL f;a CAPITAL a A a DOUBLE GRAVE;a SMALL e;
     a CAPITAL c INVERTED BREVE;a SMALL e;a CAPITAL a E a DOUBLE GRAVE;a SMALL e;
     a CAPITAL c INVERTED BREVE;a SMALL e;a CAPITAL a I a DOUBLE GRAVE;a SMALL e;
     a CAPITAL c INVERTED BREVE;a SMALL e;a CAPITAL a O a DOUBLE GRAVE;a SMALL e;
     a CAPITAL c INVERTED BREVE;a SMALL e;a CAPITAL a R a DOUBLE GRAVE;a SMALL e;
     a CAPITAL c INVERTED BREVE;a SMALL e;a CAPITAL a U a DOUBLE GRAVE;a SMALL e;
     a CAPITAL c INVERTED BREVE;a SMALL e;a CAPITAL a S a COMMA BELOW;a SMALL e;a CAPITAL a T c;
     a SMALL e;a CAPITAL a YOGH;a SMALL b;a CAPITAL a H WITH CARON;a SMALL d;
     a CAPITAL a N a LONG RIGHT LEG;a SMALL a D a CURL;a CAPITAL a OU;a SMALL b;
     a CAPITAL a Z WITH HOOK;a SMALL d;a CAPITAL a A a DOT ABOVE;a SMALL e;a CAPITAL a E a CEDILLA;
     a SMALL d;a CAPITAL a O a DIAERESIS AND MACRON;a SMALL f;a CAPITAL c TILDE b;a SMALL f;
     a CAPITAL c DOT ABOVE;a SMALL e;a CAPITAL e AND MACRON;a SMALL g;a CAPITAL a Y a MACRON;
     a SMALL d;c L a CURL;c N b;c T b;c DOTLESS J;c DB DIGRAPH;c QP a;a CAPITAL a A WITH STROKE;
     c C b;a SMALL d;a CAPITAL a L a BAR;c T a DIAGONAL STROKE;a SMALL a S a SWASH TAIL;c Z c;
     a CAPITAL a GLOTTAL STOP;a SMALL c;a CAPITAL a B WITH STROKE;c U BAR;c TURNED V;
     c E WITH STROKE;a SMALL d;a CAPITAL a J b;a SMALL d;a CAPITAL a SMALL Q WITH HOOK TAIL;
     a SMALL a Q WITH HOOK TAIL;a CAPITAL a R a STROKE;a SMALL d;a CAPITAL a Y b;a SMALL d"),
   (0x250, "LATIN SMALL LETTER TURNED A;c ALPHA;c TURNED ALPHA;c B WITH HOOK;c OPEN O;c C WITH CURL;
     c D a TAIL;e HOOK;c REVERSED E;c SCHWA;d WITH HOOK;c OPEN E;c REVERSED OPEN E;f WITH HOOK;
     c CLOSED REVERSED OPEN E;c DOTLESS J WITH STROKE;c G WITH HOOK;c SCRIPT G;
     a LETTER SMALL CAPITAL a;a SMALL LETTER GAMMA;c RAMS HORN;c TURNED H;c H WITH HOOK;c HENG b;
     c I a STROKE;c IOTA;a LETTER SMALL CAPITAL I;a SMALL LETTER L WITH MIDDLE TILDE;e BELT;
     e RETROFLEX HOOK;c LEZH;c TURNED M;e WITH LONG LEG;c M WITH HOOK;c N a LEFT HOOK;e RETROFLEX a;
     a LETTER SMALL CAPITAL N;a SMALL LETTER BARRED O;a LETTER SMALL CAPITAL OE;
     a SMALL LETTER CLOSED OMEGA;c PHI;c TURNED R;e WITH LONG LEG;f HOOK;c R WITH LONG LEG;e TAIL;
     e FISHHOOK;c REVERSED R WITH FISHHOOK;a LETTER SMALL CAPITAL a;d INVERTED R;
     a SMALL LETTER S WITH HOOK;c ESH;c DOTLESS J WITH STROKE AND HOOK;c SQUAT REVERSED ESH;
     c ESH WITH CURL;c TURNED T;c T WITH RETROFLEX HOOK;c U BAR;c UPSILON;c V WITH HOOK;c TURNED V;
     d W;d Y;a LETTER SMALL CAPITAL a;a SMALL LETTER Z WITH RETROFLEX HOOK;e CURL;c EZH;d WITH CURL;
     a LETTER GLOTTAL STOP;b PHARYNGEAL VOICED FRICATIVE;b INVERTED GLOTTAL STOP;b STRETCHED C;
     b BILABIAL CLICK;b SMALL CAPITAL B;a SMALL LETTER CLOSED OPEN E;
     a LETTER SMALL CAPITAL G WITH HOOK;d H;a SMALL LETTER J WITH CROSSED-TAIL;c TURNED K;
     a LETTER SMALL CAPITAL L;a SMALL LETTER Q WITH HOOK;a LETTER GLOTTAL STOP a STROKE;
     b REVERSED GLOTTAL STOP WITH STROKE;a SMALL LETTER DZ DIGRAPH;c DEZH a;c DZ a WITH CURL;c TS a;
     c TESH a;c TC a WITH CURL;c FENG a;c LS a;c LZ a;a LETTER BILABIAL PERCUSSIVE;b BIDENTAL a;
     a SMALL LETTER TURNED H WITH FISHHOOK;g AND TAIL"),
   (0x2B0, "MODIFIER LETTER SMALL H;d WITH HOOK;c J;c R;c TURNED R;e WITH HOOK;c CAPITAL INVERTED R;
     c W;c Y;b PRIME;b DOUBLE PRIME;b TURNED COMMA;b APOSTROPHE;b REVERSED COMMA;b RIGHT HALF RING;
     b LEFT b;b GLOTTAL STOP;b REVERSED GLOTTAL STOP;b LEFT ARROWHEAD;b RIGHT a;b UP a;b DOWN a;
     b CIRCUMFLEX ACCENT;CARON;MODIFIER LETTER VERTICAL LINE;b MACRON;b ACUTE ACCENT;b GRAVE a;
     b LOW VERTICAL LINE;c MACRON;c GRAVE ACCENT;c ACUTE a;b TRIANGULAR COLON;
     b HALF TRIANGULAR COLON;b CENTRED RIGHT HALF RING;c LEFT b;b UP TACK;b DOWN a;b PLUS SIGN;
     b MINUS a;BREVE;DOT ABOVE;RING a;OGONEK;SMALL TILDE;DOUBLE ACUTE ACCENT;
     MODIFIER LETTER RHOTIC HOOK;b CROSS ACCENT;b SMALL GAMMA;c L;c S;c X;c REVERSED GLOTTAL STOP;
     b EXTRA-HIGH TONE BAR;b HIGH b;b MID b;b LOW b;b EXTRA-LOW b;b YIN DEPARTING TONE MARK;
     b YANG c;b VOICING;b UNASPIRATED;b DOUBLE APOSTROPHE;b LOW DOWN ARROWHEAD;c UP a;c LEFT a;
     c RIGHT a;c RING;b MIDDLE GRAVE ACCENT;c DOUBLE GRAVE ACCENT;d ACUTE a;b LOW TILDE;
     b RAISED COLON;b BEGIN HIGH TONE;b END b;b BEGIN LOW a;b END b;b SHELF;b OPEN SHELF;
     b LOW LEFT ARROW"),
   (0x300, "COMBINING GRAVE ACCENT;a ACUTE a;a CIRCUMFLEX a;a TILDE;a MACRON;a OVERLINE;a BREVE;
     a DOT ABOVE;a DIAERESIS;a HOOK ABOVE;a RING a;a DOUBLE ACUTE ACCENT;a CARON;
     a VERTICAL LINE ABOVE;a DOUBLE VERTICAL LINE ABOVE;b GRAVE ACCENT;a CANDRABINDU;
     a INVERTED BREVE;a TURNED COMMA ABOVE;a COMMA ABOVE;a REVERSED COMMA ABOVE;a COMMA ABOVE RIGHT;
     a GRAVE ACCENT BELOW;a ACUTE b;a LEFT TACK a;a RIGHT b;a LEFT ANGLE ABOVE;a HORN;
     a LEFT HALF RING BELOW;a UP TACK BELOW;a DOWN b;a PLUS SIGN a;a MINUS b;a PALATALIZED HOOK a;
     a RETROFLEX b;a DOT BELOW;a DIAERESIS a;a RING a;a COMMA a;a CEDILLA;a OGONEK;
     a VERTICAL LINE BELOW;a BRIDGE BELOW;a INVERTED DOUBLE ARCH BELOW;a CARON BELOW;
     a CIRCUMFLEX ACCENT BELOW;a BREVE BELOW;a INVERTED BREVE BELOW;a TILDE BELOW;a MACRON a;
     a LOW LINE;a DOUBLE LOW LINE;a TILDE OVERLAY;a SHORT STROKE OVERLAY;a LONG b;a SHORT SOLIDUS a;
     a LONG b;a RIGHT HALF RING BELOW;a INVERTED BRIDGE BELOW;a SQUARE BELOW;a SEAGULL a;a X ABOVE;
     a VERTICAL TILDE;a DOUBLE OVERLINE;a GRAVE TONE MARK;a ACUTE b;a GREEK PERISPOMENI;b KORONIS;
     b DIALYTIKA TONOS;b YPOGEGRAMMENI;a BRIDGE ABOVE;a EQUALS SIGN BELOW;
     a DOUBLE VERTICAL LINE BELOW;a LEFT ANGLE BELOW;a NOT TILDE ABOVE;a HOMOTHETIC ABOVE;
     a ALMOST EQUAL TO ABOVE;a LEFT RIGHT ARROW BELOW;a UPWARDS ARROW BELOW;a GRAPHEME JOINER;
     a RIGHT ARROWHEAD ABOVE;a LEFT HALF RING ABOVE;a FERMATA;a X BELOW;a LEFT ARROWHEAD BELOW;
     a RIGHT b;c AND UP ARROWHEAD BELOW;b HALF RING ABOVE;a DOT ABOVE RIGHT;a ASTERISK BELOW;
     a DOUBLE RING BELOW;a ZIGZAG ABOVE;a DOUBLE BREVE BELOW;c;b MACRON;c BELOW;b TILDE;
     b INVERTED BREVE;b RIGHTWARDS ARROW BELOW;a LATIN SMALL LETTER A;d E;d I;d O;d U;d C;d D;d H;
     d M;d R;d T;d V;d X"),
   (0x370, "GREEK CAPITAL LETTER HETA;a SMALL b;a CAPITAL a ARCHAIC SAMPI;a SMALL c;a NUMERAL SIGN;
     a LOWER NUMERAL SIGN;a CAPITAL LETTER PAMPHYLIAN DIGAMMA;a SMALL c;;;GREEK YPOGEGRAMMENI;
     a SMALL REVERSED LUNATE SIGMA SYMBOL;b DOTTED c;b REVERSED DOTTED LUNATE SIGMA SYMBOL;
     a QUESTION MARK;a CAPITAL LETTER YOT;;;;;GREEK TONOS;a DIALYTIKA TONOS;
     a CAPITAL LETTER ALPHA WITH TONOS;a ANO TELEIA;a CAPITAL LETTER EPSILON WITH TONOS;c ETA b;
     c IOTA b;;GREEK CAPITAL LETTER OMICRON WITH TONOS;;GREEK CAPITAL LETTER UPSILON WITH TONOS;
     c OMEGA b;a SMALL a IOTA a DIALYTIKA AND TONOS;a CAPITAL a ALPHA;c BETA;c GAMMA;c DELTA;
     c EPSILON;c ZETA;c ETA;c THETA;c IOTA;c KAPPA;c LAMDA;c MU;c NU;c XI;c OMICRON;c PI;c RHO;;
     GREEK CAPITAL LETTER SIGMA;c TAU;c UPSILON;c PHI;c CHI;c PSI;c OMEGA;c IOTA WITH DIALYTIKA;
     c UPSILON b;a SMALL a ALPHA a TONOS;c EPSILON b;c ETA b;c IOTA b;
     c UPSILON a DIALYTIKA AND TONOS;c ALPHA;c BETA;c GAMMA;c DELTA;c EPSILON;c ZETA;c ETA;c THETA;
     c IOTA;c KAPPA;c LAMDA;c MU;c NU;c XI;c OMICRON;c PI;c RHO;c FINAL SIGMA;c SIGMA;c TAU;
     c UPSILON;c PHI;c CHI;c PSI;c OMEGA;c IOTA WITH DIALYTIKA;c UPSILON b;c OMICRON a TONOS;
     c UPSILON b;c OMEGA b;a CAPITAL KAI SYMBOL;a BETA SYMBOL;a THETA a;a UPSILON WITH HOOK SYMBOL;
     c ACUTE AND HOOK SYMBOL;c DIAERESIS c;a PHI SYMBOL;a PI a;a KAI a;a LETTER ARCHAIC KOPPA;
     a SMALL LETTER ARCHAIC KOPPA;a LETTER STIGMA;a SMALL LETTER STIGMA;a LETTER DIGAMMA;
     a SMALL LETTER DIGAMMA;a LETTER KOPPA;a SMALL LETTER KOPPA;a LETTER SAMPI;a SMALL LETTER SAMPI;
     COPTIC CAPITAL a SHEI;a SMALL b;a CAPITAL a FEI;a SMALL b;a CAPITAL a KHEI;a SMALL b;
     a CAPITAL a HORI;a SMALL b;a CAPITAL a GANGIA;a SMALL b;a CAPITAL a SHIMA;a SMALL b;
     a CAPITAL a DEI;a SMALL b;GREEK KAPPA SYMBOL;a RHO a;a LUNATE SIGMA SYMBOL;a LETTER YOT;
     a CAPITAL THETA SYMBOL;a LUNATE EPSILON a;a REVERSED LUNATE EPSILON SYMBOL;
     a CAPITAL LETTER SHO;a SMALL b;a CAPITAL LUNATE SIGMA SYMBOL;b LETTER SAN;a SMALL b;
     a RHO WITH STROKE SYMBOL;a CAPITAL REVERSED LUNATE SIGMA SYMBOL;b DOTTED c;
     b REVERSED DOTTED LUNATE SIGMA SYMBOL"),
   (0x400, "CYRILLIC CAPITAL LETTER IE WITH GRAVE;c IO;c DJE;c GJE;c UKRAINIAN IE;c DZE;
     c BYELORUSSIAN-UKRAINIAN I;c YI;c JE;c LJE;c NJE;c TSHE;c KJE;c I WITH GRAVE;c SHORT U;c DZHE;
     c A;c BE;c VE;c GHE;c DE;c IE;c ZHE;c ZE;c I;c SHORT I;c KA;c EL;c EM;c EN;c O;c PE;c ER;c ES;
     c TE;c U;c EF;c HA;c TSE;c CHE;c SHA;c SHCHA;c HARD SIGN;c YERU;c SOFT SIGN;c E;c YU;c YA;
     a SMALL a A;c BE;c VE;c GHE;c DE;c IE;c ZHE;c ZE;c I;c SHORT I;c KA;c EL;c EM;c EN;c O;c PE;
     c ER;c ES;c TE;c U;c EF;c HA;c TSE;c CHE;c SHA;c SHCHA;c HARD SIGN;c YERU;c SOFT SIGN;c E;c YU;
     c YA;c IE WITH GRAVE;c IO;c DJE;c GJE;c UKRAINIAN IE;c DZE;c BYELORUSSIAN-UKRAINIAN I;c YI;
     c JE;c LJE;c NJE;c TSHE;c KJE;c I WITH GRAVE;c SHORT U;c DZHE;a CAPITAL a OMEGA;a SMALL b;
     a CAPITAL a YAT;a SMALL b;a CAPITAL a IOTIFIED E;a SMALL c;a CAPITAL a LITTLE YUS;a SMALL c;
     a CAPITAL a IOTIFIED LITTLE YUS;a SMALL d;a CAPITAL a BIG YUS;a SMALL c;
     a CAPITAL a IOTIFIED BIG YUS;a SMALL d;a CAPITAL a KSI;a SMALL b;a CAPITAL a PSI;a SMALL b;
     a CAPITAL a FITA;a SMALL b;a CAPITAL a IZHITSA;a SMALL b;a CAPITAL b WITH DOUBLE GRAVE ACCENT;
     a SMALL f;a CAPITAL a UK;a SMALL b;a CAPITAL a ROUND OMEGA;a SMALL c;
     a CAPITAL a OMEGA WITH TITLO;a SMALL d;a CAPITAL a OT;a SMALL b;a CAPITAL a KOPPA;a SMALL b"),
   (0x48A, "CYRILLIC CAPITAL LETTER SHORT I WITH TAIL;a SMALL e;a CAPITAL a SEMISOFT SIGN;a SMALL c;
     a CAPITAL a ER WITH TICK;a SMALL d;a CAPITAL a GHE a UPTURN;a SMALL d;a CAPITAL c STROKE;
     a SMALL d;a CAPITAL c MIDDLE HOOK;a SMALL e;a CAPITAL a ZHE a DESCENDER;a SMALL d;
     a CAPITAL a ZE b;a SMALL d;a CAPITAL a KA b;a SMALL d;a CAPITAL c VERTICAL STROKE;a SMALL e;
     a CAPITAL c STROKE;a SMALL d;a CAPITAL a BASHKIR KA;a SMALL c;a CAPITAL a EN WITH DESCENDER;
     a SMALL d;a CAPITAL LIGATURE a GHE;a SMALL c;a CAPITAL LETTER PE WITH MIDDLE HOOK;a SMALL e;
     a CAPITAL a ABKHASIAN HA;a SMALL c;a CAPITAL a ES WITH DESCENDER;a SMALL d;a CAPITAL a TE b;
     a SMALL d;a CAPITAL a STRAIGHT U;a SMALL c;a CAPITAL c WITH STROKE;a SMALL e;
     a CAPITAL a HA WITH DESCENDER;a SMALL d;a CAPITAL LIGATURE TE TSE;a SMALL c;
     a CAPITAL LETTER CHE WITH DESCENDER;a SMALL d;a CAPITAL c VERTICAL STROKE;a SMALL e;
     a CAPITAL a SHHA;a SMALL b;a CAPITAL a ABKHASIAN CHE;a SMALL c;a CAPITAL c WITH DESCENDER;
     a SMALL e;a LETTER PALOCHKA;a CAPITAL LETTER ZHE WITH BREVE;a SMALL d;a CAPITAL a KA a HOOK;
     a SMALL d;a CAPITAL a EL a TAIL;a SMALL d;a CAPITAL a EN a HOOK;a SMALL d;a CAPITAL c TAIL;
     a SMALL d;a CAPITAL a KHAKASSIAN CHE;a SMALL c;a CAPITAL a EM WITH TAIL;a SMALL d;c PALOCHKA;
     a CAPITAL a A WITH BREVE;a SMALL d;a CAPITAL c DIAERESIS;a SMALL d;a CAPITAL LIGATURE a IE;
     a SMALL c;a CAPITAL LETTER IE WITH BREVE;a SMALL d;a CAPITAL a SCHWA;a SMALL b;
     a CAPITAL b WITH DIAERESIS;a SMALL d;a CAPITAL a ZHE b;a SMALL d;a CAPITAL a ZE b;a SMALL d;
     a CAPITAL a ABKHASIAN DZE;a SMALL c;a CAPITAL a I WITH MACRON;a SMALL d;a CAPITAL c DIAERESIS;
     a SMALL d;a CAPITAL a O b;a SMALL d;a CAPITAL a BARRED O;a SMALL c;a CAPITAL c WITH DIAERESIS;
     a SMALL e;a CAPITAL a E WITH DIAERESIS;a SMALL d;a CAPITAL a U a MACRON;a SMALL d;
     a CAPITAL c DIAERESIS;a SMALL d;a CAPITAL c DOUBLE ACUTE;a SMALL e;a CAPITAL a CHE a DIAERESIS;
     a SMALL d;a CAPITAL a GHE a DESCENDER;a SMALL d;a CAPITAL a YERU a DIAERESIS;a SMALL d;
     a CAPITAL a GHE a STROKE AND HOOK;a SMALL f;a CAPITAL a HA a HOOK;a SMALL d;a CAPITAL c STROKE;
     a SMALL d"),
   (0x5D0, "HEBREW LETTER ALEF;b BET;b GIMEL;b DALET;b HE;b VAV;b ZAYIN;b HET;b TET;b YOD;
     b FINAL KAF;b KAF;b LAMED;b FINAL MEM;b MEM;b FINAL NUN;b NUN;b SAMEKH;b AYIN;b FINAL PE;b PE;
     b FINAL TSADI;b TSADI;b QOF;b RESH;b SHIN;b TAV"),
   (0x621, "ARABIC LETTER HAMZA;b ALEF WITH MADDA ABOVE;d HAMZA a;b WAW c;b ALEF b BELOW;
     b YEH b ABOVE;b ALEF;b BEH;b TEH MARBUTA;c;b THEH;b JEEM;b HAH;b KHAH;b DAL;b THAL;b REH;
     b ZAIN;b SEEN;b SHEEN;b SAD;b DAD;b TAH;b ZAH;b AIN;b GHAIN;b KEHEH WITH TWO DOTS ABOVE;
     d THREE a BELOW;b FARSI YEH WITH INVERTED V;e TWO DOTS ABOVE;e THREE b;a TATWEEL;a LETTER FEH;
     b QAF;b KAF;b LAM;b MEEM;b NOON;b HEH;b WAW;b ALEF MAKSURA;b YEH"),
   (0x660, "ARABIC-INDIC DIGIT ZERO;b ONE;b TWO;b THREE;b FOUR;b FIVE;b SIX;b SEVEN;b EIGHT;b NINE"),
   (0x1D00, "LATIN LETTER SMALL CAPITAL A;d AE;a SMALL LETTER TURNED a;
     a LETTER SMALL CAPITAL BARRED B;d C;d D;d ETH;d E;a SMALL LETTER TURNED OPEN E;d I;
     a LETTER SMALL CAPITAL J;d K;d L WITH STROKE;d M;d REVERSED N;d O;d OPEN O;
     a SMALL LETTER SIDEWAYS O;d OPEN O;d O WITH STROKE;c TURNED OE;a LETTER SMALL CAPITAL OU;
     a SMALL LETTER TOP HALF O;c BOTTOM b;a LETTER SMALL CAPITAL P;d REVERSED R;d TURNED a;d T;d U;
     a SMALL LETTER SIDEWAYS a;d DIAERESIZED U;d TURNED M;a LETTER SMALL CAPITAL V;d W;d Z;d EZH;
     b VOICED LARYNGEAL SPIRANT;b AIN;GREEK a SMALL CAPITAL GAMMA;d LAMDA;d PI;d RHO;d PSI;
     CYRILLIC c EL"),
   (0x1E00, "LATIN CAPITAL LETTER A WITH RING BELOW;a SMALL e;a CAPITAL a B a DOT ABOVE;a SMALL e;
     a CAPITAL d BELOW;a SMALL e;a CAPITAL c LINE a;a SMALL e;a CAPITAL a C a CEDILLA AND ACUTE;
     a SMALL f;a CAPITAL a D a DOT ABOVE;a SMALL e;a CAPITAL d BELOW;a SMALL e;a CAPITAL c LINE a;
     a SMALL e;a CAPITAL c CEDILLA;a SMALL d;a CAPITAL c CIRCUMFLEX BELOW;a SMALL e;
     a CAPITAL a E a MACRON AND GRAVE;a SMALL f;a CAPITAL e ACUTE;a SMALL f;
     a CAPITAL c CIRCUMFLEX BELOW;a SMALL e;a CAPITAL c TILDE a;a SMALL e;
     a CAPITAL c CEDILLA AND BREVE;a SMALL f;a CAPITAL a F a DOT ABOVE;a SMALL e;
     a CAPITAL a G a MACRON;a SMALL d;a CAPITAL a H a DOT ABOVE;a SMALL e;a CAPITAL d BELOW;
     a SMALL e;a CAPITAL c DIAERESIS;a SMALL d;a CAPITAL c CEDILLA;a SMALL d;
     a CAPITAL c BREVE BELOW;a SMALL e;a CAPITAL a I a TILDE a;a SMALL e;
     a CAPITAL c DIAERESIS AND ACUTE;a SMALL f;a CAPITAL a K a ACUTE;a SMALL d;
     a CAPITAL c DOT BELOW;a SMALL e;a CAPITAL c LINE a;a SMALL e;a CAPITAL a L a DOT a;a SMALL e;
     a CAPITAL e AND MACRON;a SMALL g;a CAPITAL c LINE a;a SMALL e;a CAPITAL c CIRCUMFLEX a;
     a SMALL e;a CAPITAL a M a ACUTE;a SMALL d;a CAPITAL c DOT ABOVE;a SMALL e;a CAPITAL d BELOW;
     a SMALL e;a CAPITAL a N b ABOVE;a SMALL e;a CAPITAL d BELOW;a SMALL e;a CAPITAL c LINE a;
     a SMALL e;a CAPITAL c CIRCUMFLEX a;a SMALL e;a CAPITAL a O a TILDE AND ACUTE;a SMALL f;
     a CAPITAL e DIAERESIS;a SMALL f;a CAPITAL c MACRON a GRAVE;a SMALL f;a CAPITAL e ACUTE;
     a SMALL f;a CAPITAL a P a ACUTE;a SMALL d;a CAPITAL c DOT ABOVE;a SMALL e;a CAPITAL a R c;
     a SMALL e;a CAPITAL d BELOW;a SMALL e;a CAPITAL e AND MACRON;a SMALL g;a CAPITAL c LINE a;
     a SMALL e;a CAPITAL a S a DOT ABOVE;a SMALL e;a CAPITAL d BELOW;a SMALL e;
     a CAPITAL c ACUTE AND DOT ABOVE;a SMALL g;a CAPITAL c CARON c;a SMALL g;
     a CAPITAL c DOT BELOW AND DOT ABOVE;a SMALL h;a CAPITAL a T b ABOVE;a SMALL e;
     a CAPITAL d BELOW;a SMALL e;a CAPITAL c LINE a;a SMALL e;a CAPITAL c CIRCUMFLEX a;a SMALL e;
     a CAPITAL a U a DIAERESIS a;a SMALL e;a CAPITAL c TILDE a;a SMALL e;a CAPITAL c CIRCUMFLEX a;
     a SMALL e;a CAPITAL c TILDE AND ACUTE;a SMALL f;a CAPITAL c MACRON a DIAERESIS;a SMALL f;
     a CAPITAL a V a TILDE;a SMALL d;a CAPITAL c DOT BELOW;a SMALL e;a CAPITAL a W a GRAVE;
     a SMALL d;a CAPITAL c ACUTE;a SMALL d;a CAPITAL c DIAERESIS;a SMALL d;a CAPITAL c DOT ABOVE;
     a SMALL e;a CAPITAL d BELOW;a SMALL e;a CAPITAL a X b ABOVE;a SMALL e;a CAPITAL c DIAERESIS;
     a SMALL d;a CAPITAL a Y a DOT ABOVE;a SMALL e;a CAPITAL a Z a CIRCUMFLEX;a SMALL d;
     a CAPITAL c DOT BELOW;a SMALL e;a CAPITAL c LINE a;a SMALL e;c H c;c T a DIAERESIS;
     c W a RING ABOVE;c Y c;c A a RIGHT HALF RING;c LONG S WITH DOT ABOVE;f DIAGONAL STROKE;
     f HIGH a;a CAPITAL a SHARP a;a SMALL a DELTA;a CAPITAL a A WITH DOT BELOW;a SMALL e;
     a CAPITAL c HOOK ABOVE;a SMALL e;a CAPITAL c CIRCUMFLEX AND ACUTE;a SMALL f;a CAPITAL e GRAVE;
     a SMALL f;a CAPITAL e HOOK ABOVE;a SMALL g;a CAPITAL e TILDE;a SMALL f;a CAPITAL e DOT BELOW;
     a SMALL g;a CAPITAL c BREVE a ACUTE;a SMALL f;a CAPITAL e GRAVE;a SMALL f;
     a CAPITAL e HOOK ABOVE;a SMALL g;a CAPITAL e TILDE;a SMALL f;a CAPITAL e DOT BELOW;a SMALL g;
     a CAPITAL a E a DOT BELOW;a SMALL e;a CAPITAL c HOOK ABOVE;a SMALL e;a CAPITAL c TILDE;
     a SMALL d;a CAPITAL c CIRCUMFLEX AND ACUTE;a SMALL f;a CAPITAL e GRAVE;a SMALL f;
     a CAPITAL e HOOK ABOVE;a SMALL g;a CAPITAL e TILDE;a SMALL f;a CAPITAL e DOT BELOW;a SMALL g;
     a CAPITAL a I a HOOK ABOVE;a SMALL e;a CAPITAL c DOT BELOW;a SMALL e;a CAPITAL a O c;a SMALL e;
     a CAPITAL c HOOK ABOVE;a SMALL e;a CAPITAL c CIRCUMFLEX AND ACUTE;a SMALL f;a CAPITAL e GRAVE;
     a SMALL f;a CAPITAL e HOOK ABOVE;a SMALL g;a CAPITAL e TILDE;a SMALL f;a CAPITAL e DOT BELOW;
     a SMALL g;a CAPITAL c HORN a ACUTE;a SMALL f;a CAPITAL e GRAVE;a SMALL f;
     a CAPITAL e HOOK ABOVE;a SMALL g;a CAPITAL e TILDE;a SMALL f;a CAPITAL e DOT BELOW;a SMALL g;
     a CAPITAL a U a DOT BELOW;a SMALL e;a CAPITAL c HOOK ABOVE;a SMALL e;
     a CAPITAL c HORN AND ACUTE;a SMALL f;a CAPITAL e GRAVE;a SMALL f;a CAPITAL e HOOK ABOVE;
     a SMALL g;a CAPITAL e TILDE;a SMALL f;a CAPITAL e DOT BELOW;a SMALL g;a CAPITAL a Y a GRAVE;
     a SMALL d;a CAPITAL c DOT BELOW;a SMALL e;a CAPITAL c HOOK ABOVE;a SMALL e;a CAPITAL c TILDE;
     a SMALL d;a CAPITAL a MIDDLE-WELSH LL;a SMALL c;a CAPITAL b V;a SMALL c;
     a CAPITAL a Y WITH LOOP;a SMALL d"),
   (0x2000, "EN QUAD;EM a;EN SPACE;EM a;THREE-PER-EM a;FOUR-PER-EM a;SIX-PER-EM a;FIGURE a;
     PUNCTUATION a;THIN a;HAIR a;ZERO WIDTH SPACE;b NON-JOINER;b JOINER;LEFT-TO-RIGHT MARK;
     RIGHT-TO-LEFT a;HYPHEN;NON-BREAKING HYPHEN;FIGURE DASH;EN a;EM a;HORIZONTAL BAR;
     DOUBLE VERTICAL LINE;a LOW a;LEFT SINGLE QUOTATION MARK;RIGHT c;SINGLE LOW-9 b;
     a HIGH-REVERSED-9 b;LEFT DOUBLE b;RIGHT c;DOUBLE LOW-9 b;a HIGH-REVERSED-9 b;DAGGER;
     DOUBLE DAGGER;BULLET;TRIANGULAR BULLET;ONE DOT LEADER;TWO b;HORIZONTAL ELLIPSIS;
     HYPHENATION POINT;LINE SEPARATOR;PARAGRAPH a;LEFT-TO-RIGHT EMBEDDING;RIGHT-TO-LEFT a;
     POP DIRECTIONAL FORMATTING;LEFT-TO-RIGHT OVERRIDE;RIGHT-TO-LEFT a;NARROW NO-BREAK SPACE;
     PER MILLE SIGN;a TEN THOUSAND SIGN;PRIME;DOUBLE PRIME;TRIPLE a;REVERSED a;a DOUBLE PRIME;
     a TRIPLE a;CARET;SINGLE LEFT-POINTING ANGLE QUOTATION MARK;a RIGHT-POINTING c;REFERENCE MARK;
     DOUBLE EXCLAMATION MARK;INTERROBANG;OVERLINE;UNDERTIE;CHARACTER TIE;CARET INSERTION POINT;
     ASTERISM;HYPHEN BULLET;FRACTION SLASH;LEFT SQUARE BRACKET WITH QUILL;RIGHT d;
     DOUBLE QUESTION MARK;QUESTION EXCLAMATION a;EXCLAMATION QUESTION a;TIRONIAN SIGN ET;
     REVERSED PILCROW SIGN;BLACK LEFTWARDS BULLET;a RIGHTWARDS a;LOW ASTERISK;REVERSED SEMICOLON;
     CLOSE UP;TWO ASTERISKS ALIGNED VERTICALLY;COMMERCIAL MINUS SIGN;SWUNG DASH;INVERTED UNDERTIE;
     FLOWER PUNCTUATION MARK;THREE DOT PUNCTUATION;QUADRUPLE PRIME;FOUR DOT PUNCTUATION;FIVE b;
     TWO b;FOUR a MARK;DOTTED CROSS;TRICOLON;VERTICAL FOUR DOTS;MEDIUM MATHEMATICAL SPACE;
     WORD JOINER;FUNCTION APPLICATION;INVISIBLE TIMES;a SEPARATOR;a PLUS"),
   (0x2070, "SUPERSCRIPT ZERO;a LATIN SMALL LETTER I;;;SUPERSCRIPT FOUR;a FIVE;a SIX;a SEVEN;
     a EIGHT;a NINE;a PLUS SIGN;a MINUS;a EQUALS SIGN;a LEFT PARENTHESIS;a RIGHT a;
     a LATIN SMALL LETTER N;SUBSCRIPT ZERO;a ONE;a TWO;a THREE;a FOUR;a FIVE;a SIX;a SEVEN;a EIGHT;
     a NINE;a PLUS SIGN;a MINUS;a EQUALS SIGN;a LEFT PARENTHESIS;a RIGHT a;;
     LATIN SUBSCRIPT SMALL LETTER A;d E;d O;d X;d SCHWA;d H;d K;d L;d M;d N;d P;d S;d T"),
   (0x20A0, "EURO-CURRENCY SIGN;COLON a;CRUZEIRO a;FRENCH FRANC SIGN;LIRA SIGN;MILL a;NAIRA a;
     PESETA a;RUPEE a;WON a;NEW SHEQEL SIGN;DONG SIGN;EURO a;KIP a;TUGRIK a;DRACHMA a;
     GERMAN PENNY SIGN;PESO SIGN;GUARANI a;AUSTRAL a;HRYVNIA a;CEDI a;LIVRE TOURNOIS SIGN;
     SPESMILO SIGN;TENGE a;INDIAN RUPEE SIGN;TURKISH LIRA a;NORDIC MARK a;MANAT SIGN;RUBLE a;LARI a;
     BITCOIN a;SOM a"),
   (0x2100, "ACCOUNT OF;ADDRESSED TO THE SUBJECT;DOUBLE-STRUCK CAPITAL C;DEGREE CELSIUS;
     CENTRE LINE SYMBOL;CARE OF;CADA UNA;EULER CONSTANT;SCRUPLE;DEGREE FAHRENHEIT;SCRIPT SMALL G;
     a CAPITAL H;BLACK-LETTER b;DOUBLE-STRUCK b;PLANCK CONSTANT;b OVER TWO PI;SCRIPT CAPITAL I;
     BLACK-LETTER b;SCRIPT a L;a SMALL a;L B BAR SYMBOL;DOUBLE-STRUCK CAPITAL N;NUMERO SIGN;
     SOUND RECORDING COPYRIGHT;SCRIPT CAPITAL P;DOUBLE-STRUCK b;b Q;SCRIPT a R;BLACK-LETTER b;
     DOUBLE-STRUCK b;PRESCRIPTION TAKE;RESPONSE;SERVICE MARK;TELEPHONE SIGN;TRADE MARK SIGN;
     VERSICLE;DOUBLE-STRUCK CAPITAL Z;OUNCE SIGN;OHM a;INVERTED OHM SIGN;BLACK-LETTER CAPITAL Z;
     TURNED GREEK SMALL LETTER IOTA;KELVIN SIGN;ANGSTROM a;SCRIPT CAPITAL B;BLACK-LETTER a C;
     ESTIMATED SYMBOL;SCRIPT SMALL E;a CAPITAL a;b F;TURNED b;SCRIPT a M;a SMALL O;ALEF SYMBOL;
     BET a;GIMEL a;DALET a;INFORMATION SOURCE;ROTATED CAPITAL Q;FACSIMILE SIGN;
     DOUBLE-STRUCK SMALL PI;b GAMMA;a CAPITAL a;b PI;a N-ARY SUMMATION;TURNED SANS-SERIF CAPITAL G;
     c L;REVERSED c;TURNED b Y;DOUBLE-STRUCK ITALIC a D;b SMALL a;c E;c I;c J;PROPERTY LINE;
     TURNED AMPERSAND;PER SIGN;AKTIESELSKAB;TURNED SMALL F;SYMBOL FOR SAMARITAN SOURCE;
     VULGAR FRACTION ONE SEVENTH;c NINTH;c TENTH;c THIRD;b TWO THIRDS;b ONE FIFTH;b TWO FIFTHS;
     b THREE a;b FOUR a;b ONE SIXTH;b FIVE SIXTHS;b ONE EIGHTH;b THREE EIGHTHS;b FIVE a;b SEVEN a;
     FRACTION NUMERATOR ONE;ROMAN NUMERAL a;b TWO;b THREE;b FOUR;b FIVE;b SIX;b SEVEN;b EIGHT;
     b NINE;b TEN;b ELEVEN;b TWELVE;b FIFTY;b ONE HUNDRED;b FIVE a;b ONE THOUSAND;
     SMALL ROMAN NUMERAL ONE;c TWO;c THREE;c FOUR;c FIVE;c SIX;c SEVEN;c EIGHT;c NINE;c TEN;
     c ELEVEN;c TWELVE;c FIFTY;c ONE HUNDRED;c FIVE a;c ONE THOUSAND;ROMAN NUMERAL ONE THOUSAND C D;
     b FIVE a;b TEN a;b REVERSED ONE HUNDRED;LATIN SMALL LETTER REVERSED C;
     ROMAN NUMERAL SIX LATE FORM;b FIFTY EARLY a;c THOUSAND;b ONE HUNDRED THOUSAND;
     VULGAR FRACTION ZERO THIRDS;TURNED DIGIT TWO;b THREE"),
   (0x2190, "LEFTWARDS ARROW;UPWARDS a;RIGHTWARDS a;DOWNWARDS a;LEFT RIGHT ARROW;UP DOWN a;
     NORTH WEST a;a EAST a;SOUTH b;a WEST a;LEFTWARDS ARROW WITH STROKE;RIGHTWARDS c;
     LEFTWARDS WAVE ARROW;RIGHTWARDS b;LEFTWARDS TWO HEADED ARROW;UPWARDS c;RIGHTWARDS c;
     DOWNWARDS c;LEFTWARDS ARROW WITH TAIL;RIGHTWARDS c;LEFTWARDS a FROM BAR;UPWARDS c;RIGHTWARDS c;
     DOWNWARDS c;UP DOWN ARROW WITH BASE;LEFTWARDS ARROW WITH HOOK;RIGHTWARDS c;LEFTWARDS b LOOP;
     RIGHTWARDS c;LEFT RIGHT WAVE ARROW;b ARROW WITH STROKE;DOWNWARDS ZIGZAG a;
     UPWARDS ARROW WITH TIP LEFTWARDS;d RIGHTWARDS;DOWNWARDS c LEFTWARDS;d RIGHTWARDS;
     RIGHTWARDS b CORNER DOWNWARDS;DOWNWARDS c LEFTWARDS;ANTICLOCKWISE TOP SEMICIRCLE ARROW;
     CLOCKWISE c;NORTH WEST ARROW TO LONG BAR;LEFTWARDS ARROW TO BAR OVER RIGHTWARDS ARROW TO BAR;
     ANTICLOCKWISE OPEN CIRCLE ARROW;CLOCKWISE c;LEFTWARDS HARPOON WITH BARB UPWARDS;d DOWNWARDS;
     UPWARDS c RIGHTWARDS;d LEFTWARDS;RIGHTWARDS c UPWARDS;d DOWNWARDS;DOWNWARDS c RIGHTWARDS;
     d LEFTWARDS;RIGHTWARDS ARROW OVER LEFTWARDS ARROW;UPWARDS a LEFTWARDS OF DOWNWARDS ARROW;
     LEFTWARDS a OVER RIGHTWARDS ARROW;a PAIRED ARROWS;UPWARDS b;RIGHTWARDS b;DOWNWARDS b;
     LEFTWARDS HARPOON OVER RIGHTWARDS HARPOON;RIGHTWARDS b LEFTWARDS a;
     LEFTWARDS DOUBLE ARROW WITH STROKE;LEFT RIGHT DOUBLE ARROW WITH STROKE;
     RIGHTWARDS DOUBLE ARROW WITH STROKE;LEFTWARDS b;UPWARDS b;RIGHTWARDS b;DOWNWARDS b;
     LEFT RIGHT DOUBLE ARROW;UP DOWN b;NORTH WEST b;a EAST b;SOUTH c;a WEST b;
     LEFTWARDS TRIPLE ARROW;RIGHTWARDS b;LEFTWARDS SQUIGGLE a;RIGHTWARDS b;
     UPWARDS ARROW WITH DOUBLE STROKE;DOWNWARDS d;LEFTWARDS DASHED ARROW;UPWARDS b;RIGHTWARDS b;
     DOWNWARDS b;LEFTWARDS ARROW TO BAR;RIGHTWARDS c;LEFTWARDS WHITE ARROW;UPWARDS b;RIGHTWARDS b;
     DOWNWARDS b;UPWARDS b FROM BAR;c ON PEDESTAL;e WITH HORIZONTAL BAR;f VERTICAL a;b DOUBLE ARROW;
     d ON PEDESTAL;RIGHTWARDS a ARROW FROM WALL;NORTH WEST a TO CORNER;SOUTH EAST c;
     UP DOWN WHITE ARROW;RIGHT ARROW WITH SMALL CIRCLE;DOWNWARDS a LEFTWARDS OF UPWARDS ARROW;
     THREE RIGHTWARDS ARROWS;LEFTWARDS ARROW WITH VERTICAL STROKE;RIGHTWARDS d;
     LEFT RIGHT ARROW WITH VERTICAL STROKE;LEFTWARDS ARROW WITH DOUBLE b;RIGHTWARDS e;
     LEFT RIGHT ARROW WITH DOUBLE VERTICAL STROKE;LEFTWARDS OPEN-HEADED a;RIGHTWARDS b;
     LEFT RIGHT OPEN-HEADED ARROW"),
   (0x2200, "FOR ALL;COMPLEMENT;PARTIAL DIFFERENTIAL;THERE EXISTS;a DOES NOT EXIST;EMPTY SET;
     INCREMENT;NABLA;ELEMENT OF;NOT AN ELEMENT OF;SMALL ELEMENT OF;CONTAINS AS MEMBER;
     DOES NOT CONTAIN AS MEMBER;SMALL CONTAINS AS MEMBER;END OF PROOF;N-ARY PRODUCT;a COPRODUCT;
     a SUMMATION;MINUS SIGN;MINUS-OR-PLUS a;DOT PLUS;DIVISION SLASH;SET MINUS;ASTERISK OPERATOR;
     RING a;BULLET a;SQUARE ROOT;CUBE a;FOURTH a;PROPORTIONAL TO;INFINITY;RIGHT ANGLE;ANGLE;
     MEASURED ANGLE;SPHERICAL a;DIVIDES;DOES NOT DIVIDE;PARALLEL TO;NOT PARALLEL TO;LOGICAL AND;
     a OR;INTERSECTION;UNION;INTEGRAL;DOUBLE INTEGRAL;TRIPLE a;CONTOUR a;SURFACE a;VOLUME a;
     CLOCKWISE a;a CONTOUR INTEGRAL;ANTICLOCKWISE b;THEREFORE;BECAUSE;RATIO;PROPORTION;DOT MINUS;
     EXCESS;GEOMETRIC PROPORTION;HOMOTHETIC;TILDE OPERATOR;REVERSED TILDE;INVERTED LAZY S;SINE WAVE;
     WREATH PRODUCT;NOT TILDE;MINUS a;ASYMPTOTICALLY EQUAL TO;NOT ASYMPTOTICALLY EQUAL TO;
     APPROXIMATELY EQUAL TO;a BUT NOT ACTUALLY EQUAL TO;NEITHER APPROXIMATELY NOR c;ALMOST EQUAL TO;
     NOT ALMOST EQUAL TO;ALMOST EQUAL OR EQUAL TO;TRIPLE TILDE;ALL EQUAL TO;EQUIVALENT TO;
     GEOMETRICALLY EQUIVALENT TO;DIFFERENCE BETWEEN;APPROACHES THE LIMIT;GEOMETRICALLY EQUAL TO;
     APPROXIMATELY b OR THE IMAGE OF;IMAGE OF OR APPROXIMATELY EQUAL TO;COLON EQUALS;EQUALS COLON;
     RING IN EQUAL TO;a EQUAL TO;CORRESPONDS TO;ESTIMATES;EQUIANGULAR TO;STAR EQUALS;DELTA EQUAL TO;
     EQUAL TO BY DEFINITION;MEASURED BY;QUESTIONED EQUAL TO;NOT b;IDENTICAL TO;NOT IDENTICAL TO;
     STRICTLY EQUIVALENT a;LESS-THAN OR EQUAL TO;GREATER-THAN c;LESS-THAN OVER b;GREATER-THAN c;
     LESS-THAN BUT NOT EQUAL TO;GREATER-THAN d;MUCH LESS-THAN;a GREATER-THAN;BETWEEN;
     NOT EQUIVALENT TO;a LESS-THAN;a GREATER-THAN;NEITHER LESS-THAN NOR EQUAL TO;a GREATER-THAN c;
     LESS-THAN OR EQUIVALENT TO;GREATER-THAN c;NEITHER LESS-THAN NOR EQUIVALENT TO;a GREATER-THAN c;
     LESS-THAN OR GREATER-THAN;GREATER-THAN a LESS-THAN;NEITHER LESS-THAN NOR GREATER-THAN;
     a GREATER-THAN a LESS-THAN;PRECEDES;SUCCEEDS;PRECEDES OR EQUAL TO;SUCCEEDS c;
     PRECEDES a EQUIVALENT a;SUCCEEDS c;DOES NOT PRECEDE;b SUCCEED;SUBSET OF;SUPERSET a;
     NOT A SUBSET OF;b SUPERSET a;SUBSET OF OR EQUAL TO;SUPERSET d;NEITHER A SUBSET OF NOR EQUAL TO;
     b SUPERSET d;SUBSET OF WITH NOT EQUAL TO;SUPERSET e;MULTISET;a MULTIPLICATION;a UNION;
     SQUARE IMAGE OF;a ORIGINAL a;a IMAGE a OR EQUAL TO;a ORIGINAL d;a CAP;a CUP;CIRCLED PLUS;
     a MINUS;a TIMES;a DIVISION SLASH;a DOT OPERATOR;a RING a;a ASTERISK a;a EQUALS;a DASH;
     SQUARED PLUS;a MINUS;a TIMES;a DOT OPERATOR;RIGHT TACK;LEFT a;DOWN a;UP a;ASSERTION;MODELS;
     TRUE;FORCES;TRIPLE VERTICAL BAR RIGHT TURNSTILE;DOUBLE b DOUBLE RIGHT TURNSTILE;DOES NOT PROVE;
     NOT TRUE;DOES NOT FORCE;NEGATED DOUBLE VERTICAL BAR DOUBLE RIGHT TURNSTILE;
     PRECEDES UNDER RELATION;SUCCEEDS b;NORMAL SUBGROUP OF;CONTAINS AS NORMAL SUBGROUP;
     NORMAL SUBGROUP OF OR EQUAL TO;CONTAINS AS NORMAL SUBGROUP OR EQUAL TO;ORIGINAL OF;IMAGE a;
     MULTIMAP;HERMITIAN CONJUGATE MATRIX;INTERCALATE;XOR;NAND;NOR;RIGHT ANGLE WITH ARC;a TRIANGLE;
     N-ARY LOGICAL AND;b OR;a INTERSECTION;a UNION;DIAMOND OPERATOR;DOT a;STAR a;DIVISION TIMES;
     BOWTIE;LEFT NORMAL FACTOR SEMIDIRECT PRODUCT;RIGHT d;LEFT SEMIDIRECT PRODUCT;RIGHT b;
     REVERSED TILDE EQUALS;CURLY LOGICAL OR;b AND;DOUBLE SUBSET;a SUPERSET;a INTERSECTION;a UNION;
     PITCHFORK;EQUAL AND PARALLEL TO;LESS-THAN WITH DOT;GREATER-THAN b;VERY MUCH LESS-THAN;
     b GREATER-THAN;LESS-THAN EQUAL TO OR GREATER-THAN;GREATER-THAN c LESS-THAN;
     EQUAL TO OR LESS-THAN;c GREATER-THAN;c PRECEDES;c SUCCEEDS;DOES NOT PRECEDE OR EQUAL;
     b SUCCEED b;NOT SQUARE IMAGE OF OR EQUAL TO;b ORIGINAL d;SQUARE IMAGE OF OR NOT b;a ORIGINAL e;
     LESS-THAN BUT NOT EQUIVALENT TO;GREATER-THAN d;PRECEDES d;SUCCEEDS d;NOT NORMAL SUBGROUP OF;
     DOES NOT CONTAIN AS NORMAL SUBGROUP;NOT NORMAL SUBGROUP OF OR EQUAL TO;
     DOES NOT CONTAIN AS NORMAL SUBGROUP OR EQUAL;VERTICAL ELLIPSIS;MIDLINE HORIZONTAL ELLIPSIS;
     UP RIGHT DIAGONAL ELLIPSIS;DOWN c;ELEMENT OF WITH LONG HORIZONTAL STROKE;
     c VERTICAL BAR AT END OF HORIZONTAL STROKE;
     SMALL ELEMENT OF WITH VERTICAL BAR AT END OF HORIZONTAL STROKE;ELEMENT OF WITH DOT ABOVE;
     c OVERBAR;SMALL ELEMENT OF WITH OVERBAR;ELEMENT OF WITH UNDERBAR;c TWO HORIZONTAL STROKES;
     CONTAINS WITH LONG HORIZONTAL STROKE;b VERTICAL BAR AT END OF HORIZONTAL STROKE;
     SMALL CONTAINS WITH VERTICAL BAR AT END OF HORIZONTAL STROKE;CONTAINS WITH OVERBAR;
     SMALL CONTAINS WITH OVERBAR;Z NOTATION BAG MEMBERSHIP"),
   (0x2300, "DIAMETER SIGN;ELECTRIC ARROW;HOUSE;UP ARROWHEAD;DOWN a;PROJECTIVE;PERSPECTIVE;
     WAVY LINE;LEFT CEILING;RIGHT a;LEFT FLOOR;RIGHT a;BOTTOM RIGHT CROP;a LEFT a;TOP RIGHT a;
     a LEFT a;REVERSED NOT SIGN;SQUARE LOZENGE;ARC;SEGMENT;SECTOR;TELEPHONE RECORDER;
     POSITION INDICATOR;VIEWDATA SQUARE;PLACE OF INTEREST SIGN;TURNED NOT SIGN;WATCH;HOURGLASS;
     TOP LEFT CORNER;a RIGHT a;BOTTOM LEFT a;a RIGHT a;TOP HALF INTEGRAL;BOTTOM b;FROWN;SMILE;
     UP ARROWHEAD BETWEEN TWO HORIZONTAL BARS;OPTION KEY;ERASE TO THE RIGHT;X IN A RECTANGLE BOX;
     KEYBOARD;LEFT-POINTING ANGLE BRACKET;RIGHT-POINTING b;ERASE TO THE LEFT;BENZENE RING;
     CYLINDRICITY;ALL AROUND-PROFILE;SYMMETRY;TOTAL RUNOUT;DIMENSION ORIGIN;CONICAL TAPER;SLOPE;
     COUNTERBORE;COUNTERSINK;APL FUNCTIONAL SYMBOL I-BEAM;c SQUISH QUAD;c QUAD EQUAL;d DIVIDE;
     d DIAMOND;d JOT;d CIRCLE;c CIRCLE STILE;d JOT;c SLASH BAR;c BACKSLASH a;c QUAD SLASH;
     d BACKSLASH;d LESS-THAN;d GREATER-THAN;c LEFTWARDS VANE;c RIGHTWARDS a;c QUAD LEFTWARDS ARROW;
     d RIGHTWARDS a;c CIRCLE BACKSLASH;c DOWN TACK UNDERBAR;c DELTA STILE;c QUAD DOWN CARET;d DELTA;
     c DOWN TACK JOT;c UPWARDS VANE;c QUAD UPWARDS ARROW;c UP TACK OVERBAR;c DEL STILE;
     c QUAD UP CARET;d DEL;c UP TACK JOT;c DOWNWARDS VANE;c QUAD DOWNWARDS ARROW;c QUOTE UNDERBAR;
     c DELTA a;c DIAMOND a;c JOT a;c CIRCLE a;c UP SHOE JOT;c QUOTE QUAD;c CIRCLE STAR;c QUAD COLON;
     c UP TACK DIAERESIS;c DEL DIAERESIS;c STAR a;c JOT a;c CIRCLE a;c DOWN SHOE STILE;c LEFT b;
     c TILDE DIAERESIS;c GREATER-THAN a;c COMMA BAR;c DEL TILDE;c ZILDE;c STILE TILDE;
     c SEMICOLON UNDERBAR;c QUAD NOT EQUAL;d QUESTION;c DOWN CARET TILDE;c UP b;c IOTA;c RHO;
     c OMEGA;c ALPHA UNDERBAR;c EPSILON a;c IOTA a;c OMEGA a;c ALPHA;NOT CHECK MARK;
     RIGHT ANGLE WITH DOWNWARDS ZIGZAG ARROW;SHOULDERED OPEN BOX;BELL SYMBOL;
     VERTICAL LINE WITH MIDDLE DOT;INSERTION SYMBOL;CONTINUOUS UNDERLINE SYMBOL;DISCONTINUOUS b;
     EMPHASIS SYMBOL;COMPOSITION a;WHITE SQUARE WITH CENTRE VERTICAL LINE;ENTER SYMBOL;
     ALTERNATIVE KEY SYMBOL;HELM SYMBOL;CIRCLED HORIZONTAL BAR WITH NOTCH;a TRIANGLE DOWN;
     BROKEN CIRCLE WITH NORTHWEST ARROW;UNDO SYMBOL;MONOSTABLE a;HYSTERESIS a;
     OPEN-CIRCUIT-OUTPUT H-TYPE SYMBOL;a L-TYPE a;PASSIVE-PULL-DOWN-OUTPUT SYMBOL;
     PASSIVE-PULL-UP-OUTPUT a;DIRECT CURRENT SYMBOL FORM TWO;SOFTWARE-FUNCTION SYMBOL;
     APL FUNCTIONAL SYMBOL QUAD;DECIMAL SEPARATOR KEY SYMBOL;PREVIOUS PAGE;NEXT a;
     PRINT SCREEN SYMBOL;CLEAR b;LEFT PARENTHESIS UPPER HOOK;b EXTENSION;b LOWER HOOK;
     RIGHT a UPPER a;b EXTENSION;b LOWER HOOK;LEFT SQUARE BRACKET UPPER CORNER;c EXTENSION;
     c LOWER CORNER;RIGHT b UPPER a;c EXTENSION;c LOWER CORNER;LEFT CURLY a UPPER HOOK;
     c MIDDLE PIECE;c LOWER HOOK;CURLY BRACKET EXTENSION;RIGHT CURLY BRACKET UPPER HOOK;
     c MIDDLE PIECE;c LOWER HOOK;INTEGRAL EXTENSION;HORIZONTAL LINE EXTENSION;
     UPPER LEFT OR LOWER RIGHT CURLY BRACKET SECTION;a RIGHT b LEFT c;SUMMATION TOP;a BOTTOM;
     TOP SQUARE BRACKET;BOTTOM b;c OVER TOP SQUARE BRACKET;RADICAL SYMBOL BOTTOM;
     LEFT VERTICAL BOX LINE;RIGHT c;HORIZONTAL SCAN LINE-1;b LINE-3;b LINE-7;b LINE-9;
     DENTISTRY SYMBOL LIGHT VERTICAL AND TOP RIGHT;e BOTTOM a;d WITH CIRCLE;
     c DOWN AND HORIZONTAL WITH CIRCLE;c UP d;c VERTICAL WITH TRIANGLE;
     c DOWN AND HORIZONTAL WITH TRIANGLE;c UP d;c VERTICAL a WAVE;c DOWN a HORIZONTAL WITH WAVE;
     c UP d;c DOWN b;c UP b;c VERTICAL a TOP LEFT;e BOTTOM a;SQUARE FOOT;RETURN SYMBOL;EJECT a;
     VERTICAL LINE EXTENSION;METRICAL BREVE;a LONG OVER SHORT;a SHORT a LONG;a LONG a TWO SHORTS;
     a TWO SHORTS OVER LONG;c JOINED;a TRISEME;a TETRASEME;a PENTASEME;EARTH GROUND;FUSE;
     TOP PARENTHESIS;BOTTOM a;TOP CURLY BRACKET;BOTTOM b;TOP TORTOISE SHELL BRACKET;BOTTOM c;
     WHITE TRAPEZIUM;BENZENE RING WITH CIRCLE;STRAIGHTNESS;FLATNESS;AC CURRENT;
     ELECTRICAL INTERSECTION;DECIMAL EXPONENT SYMBOL;BLACK RIGHT-POINTING DOUBLE TRIANGLE;
     a LEFT-POINTING b;a UP-POINTING b;a DOWN-POINTING b;a RIGHT-POINTING b WITH VERTICAL BAR;
     a LEFT-POINTING e;a RIGHT-POINTING TRIANGLE WITH DOUBLE b;ALARM CLOCK;STOPWATCH;TIMER CLOCK;
     HOURGLASS WITH FLOWING SAND;BLACK MEDIUM LEFT-POINTING TRIANGLE;b RIGHT-POINTING a;
     b UP-POINTING a;b DOWN-POINTING a;DOUBLE VERTICAL BAR;BLACK SQUARE FOR STOP;a CIRCLE a RECORD;
     POWER SYMBOL;a ON-OFF SYMBOL;a ON a;a SLEEP a;OBSERVER EYE a"),
   (0x2460, "CIRCLED DIGIT ONE;b TWO;b THREE;b FOUR;b FIVE;b SIX;b SEVEN;b EIGHT;b NINE;
     a NUMBER TEN;b ELEVEN;b TWELVE;b THIRTEEN;b FOURTEEN;b FIFTEEN;b SIXTEEN;b SEVENTEEN;
     b EIGHTEEN;b NINETEEN;b TWENTY;PARENTHESIZED DIGIT ONE;b TWO;b THREE;b FOUR;b FIVE;b SIX;
     b SEVEN;b EIGHT;b NINE;a NUMBER TEN;b ELEVEN;b TWELVE;b THIRTEEN;b FOURTEEN;b FIFTEEN;
     b SIXTEEN;b SEVENTEEN;b EIGHTEEN;b NINETEEN;b TWENTY;DIGIT ONE FULL STOP;a TWO b;a THREE b;
     a FOUR b;a FIVE b;a SIX b;a SEVEN b;a EIGHT b;a NINE b;NUMBER TEN b;a ELEVEN b;a TWELVE b;
     a THIRTEEN b;a FOURTEEN b;a FIFTEEN b;a SIXTEEN b;a SEVENTEEN b;a EIGHTEEN b;a NINETEEN b;
     a TWENTY b;PARENTHESIZED LATIN SMALL LETTER A;d B;d C;d D;d E;d F;d G;d H;d I;d J;d K;d L;d M;
     d N;d O;d P;d Q;d R;d S;d T;d U;d V;d W;d X;d Y;d Z;CIRCLED a CAPITAL a A;d B;d C;d D;d E;d F;
     d G;d H;d I;d J;d K;d L;d M;d N;d O;d P;d Q;d R;d S;d T;d U;d V;d W;d X;d Y;d Z;b SMALL a A;
     d B;d C;d D;d E;d F;d G;d H;d I;d J;d K;d L;d M;d N;d O;d P;d Q;d R;d S;d T;d U;d V;d W;d X;
     d Y;d Z;a DIGIT ZERO;NEGATIVE CIRCLED NUMBER ELEVEN;c TWELVE;c THIRTEEN;c FOURTEEN;c FIFTEEN;
     c SIXTEEN;c SEVENTEEN;c EIGHTEEN;c NINETEEN;c TWENTY;DOUBLE a DIGIT ONE;c TWO;c THREE;c FOUR;
     c FIVE;c SIX;c SEVEN;c EIGHT;c NINE;b NUMBER TEN;NEGATIVE a DIGIT ZERO"),
   (0x2500, "BOX DRAWINGS LIGHT HORIZONTAL;b HEAVY a;b LIGHT VERTICAL;b HEAVY a;
     b LIGHT TRIPLE DASH HORIZONTAL;b HEAVY c;b LIGHT b VERTICAL;b HEAVY c;
     b LIGHT QUADRUPLE a HORIZONTAL;b HEAVY c;b LIGHT b VERTICAL;b HEAVY c;b LIGHT DOWN AND RIGHT;
     b DOWN LIGHT b HEAVY;c HEAVY b LIGHT;b HEAVY DOWN b;b LIGHT b LEFT;b DOWN LIGHT b HEAVY;
     c HEAVY b LIGHT;b HEAVY DOWN b;b LIGHT UP a RIGHT;b UP LIGHT b HEAVY;c HEAVY b LIGHT;
     b HEAVY UP b;b LIGHT b LEFT;b UP LIGHT b HEAVY;c HEAVY b LIGHT;b HEAVY UP b;
     b LIGHT VERTICAL a RIGHT;b VERTICAL LIGHT b HEAVY;b UP HEAVY b DOWN LIGHT;b DOWN c UP a;
     b VERTICAL c LIGHT;b DOWN LIGHT b UP HEAVY;b UP c DOWN a;b HEAVY VERTICAL b;b LIGHT b LEFT;
     b VERTICAL LIGHT b HEAVY;b UP HEAVY b DOWN LIGHT;b DOWN c UP a;b VERTICAL c LIGHT;
     b DOWN LIGHT b UP HEAVY;b UP c DOWN a;b HEAVY VERTICAL b;b LIGHT DOWN a HORIZONTAL;
     b LEFT HEAVY a RIGHT DOWN LIGHT;b RIGHT b LEFT b;b DOWN LIGHT a HORIZONTAL HEAVY;
     c HEAVY b LIGHT;b RIGHT LIGHT a LEFT DOWN HEAVY;b LEFT b RIGHT b;b HEAVY DOWN a HORIZONTAL;
     b LIGHT UP b;b LEFT HEAVY a RIGHT UP LIGHT;b RIGHT b LEFT b;b UP LIGHT a HORIZONTAL HEAVY;
     c HEAVY b LIGHT;b RIGHT LIGHT a LEFT UP HEAVY;b LEFT b RIGHT b;b HEAVY UP a HORIZONTAL;
     b LIGHT VERTICAL b;b LEFT HEAVY a RIGHT VERTICAL LIGHT;b RIGHT b LEFT b;
     b VERTICAL LIGHT a HORIZONTAL HEAVY;b UP HEAVY a DOWN HORIZONTAL LIGHT;b DOWN b UP b;
     b VERTICAL b HORIZONTAL LIGHT;b LEFT UP HEAVY AND RIGHT DOWN LIGHT;b RIGHT c LEFT b;
     b LEFT DOWN b RIGHT UP a;b RIGHT c LEFT b;b DOWN LIGHT AND UP HORIZONTAL HEAVY;b UP b DOWN b;
     b RIGHT b LEFT VERTICAL a;b LEFT b RIGHT b;b HEAVY VERTICAL a HORIZONTAL;b LIGHT DOUBLE DASH a;
     b HEAVY c;b LIGHT b VERTICAL;b HEAVY c;b DOUBLE HORIZONTAL;c VERTICAL;
     b DOWN SINGLE AND RIGHT DOUBLE;c DOUBLE b SINGLE;b DOUBLE DOWN b;b DOWN SINGLE a LEFT DOUBLE;
     c DOUBLE b SINGLE;b DOUBLE DOWN b;b UP SINGLE a RIGHT DOUBLE;c DOUBLE b SINGLE;b DOUBLE UP b;
     b UP SINGLE a LEFT DOUBLE;c DOUBLE b SINGLE;b DOUBLE UP b;b VERTICAL SINGLE a RIGHT DOUBLE;
     c DOUBLE b SINGLE;b DOUBLE VERTICAL b;b VERTICAL SINGLE a LEFT DOUBLE;c DOUBLE b SINGLE;
     b DOUBLE VERTICAL b;b DOWN SINGLE a HORIZONTAL DOUBLE;c DOUBLE b SINGLE;b DOUBLE DOWN b;
     b UP SINGLE b DOUBLE;c DOUBLE b SINGLE;b DOUBLE UP b;b VERTICAL SINGLE b DOUBLE;
     c DOUBLE b SINGLE;b DOUBLE VERTICAL b;b LIGHT ARC DOWN AND RIGHT;f LEFT;d UP b;f RIGHT;
     c DIAGONAL UPPER RIGHT TO LOWER LEFT;e LEFT b RIGHT;d CROSS;c LEFT;c UP;c RIGHT;c DOWN;
     b HEAVY LEFT;c UP;c RIGHT;c DOWN;b LIGHT LEFT AND HEAVY RIGHT;c UP b DOWN;
     b HEAVY LEFT a LIGHT RIGHT;c UP b DOWN;UPPER HALF BLOCK;LOWER ONE EIGHTH BLOCK;b QUARTER a;
     a THREE EIGHTHS a;a HALF BLOCK;a FIVE EIGHTHS BLOCK;a THREE QUARTERS a;a SEVEN EIGHTHS a;
     FULL BLOCK;LEFT SEVEN EIGHTHS BLOCK;a THREE QUARTERS a;a FIVE EIGHTHS a;a HALF BLOCK;
     a THREE EIGHTHS BLOCK;a ONE QUARTER a;b EIGHTH a;RIGHT HALF BLOCK;LIGHT SHADE;MEDIUM a;DARK a;
     UPPER ONE EIGHTH BLOCK;RIGHT c;QUADRANT LOWER LEFT;b RIGHT;a UPPER LEFT;
     c AND LOWER LEFT AND LOWER RIGHT;e RIGHT;d UPPER a AND LOWER LEFT;h RIGHT;b RIGHT;
     c AND LOWER LEFT;f AND LOWER RIGHT;BLACK SQUARE;WHITE a;b WITH ROUNDED CORNERS;
     b CONTAINING BLACK SMALL SQUARE;SQUARE WITH HORIZONTAL FILL;b VERTICAL a;
     b ORTHOGONAL CROSSHATCH FILL;b UPPER LEFT TO LOWER RIGHT FILL;c RIGHT b LEFT a;
     b DIAGONAL CROSSHATCH FILL;BLACK SMALL SQUARE;WHITE b;BLACK RECTANGLE;WHITE a;
     BLACK VERTICAL RECTANGLE;WHITE b;BLACK PARALLELOGRAM;WHITE a;BLACK UP-POINTING TRIANGLE;
     WHITE b;BLACK a SMALL TRIANGLE;WHITE c;BLACK RIGHT-POINTING TRIANGLE;WHITE b;
     BLACK a SMALL TRIANGLE;WHITE c;BLACK a POINTER;WHITE b;BLACK DOWN-POINTING TRIANGLE;WHITE b;
     BLACK a SMALL TRIANGLE;WHITE c;BLACK LEFT-POINTING TRIANGLE;WHITE b;BLACK a SMALL TRIANGLE;
     WHITE c;BLACK a POINTER;WHITE b;BLACK DIAMOND;WHITE a;b CONTAINING BLACK SMALL DIAMOND;FISHEYE;
     LOZENGE;WHITE CIRCLE;DOTTED a;CIRCLE WITH VERTICAL FILL;BULLSEYE;BLACK CIRCLE;
     CIRCLE WITH LEFT HALF BLACK;b RIGHT b;b LOWER b;b UPPER b;c RIGHT QUADRANT BLACK;
     b ALL BUT UPPER LEFT QUADRANT BLACK;LEFT HALF BLACK CIRCLE;RIGHT c;INVERSE BULLET;
     a WHITE CIRCLE;UPPER HALF INVERSE WHITE CIRCLE;LOWER d;UPPER LEFT QUADRANT CIRCULAR ARC;
     a RIGHT c;LOWER d;a LEFT c;UPPER HALF CIRCLE;LOWER b;BLACK LOWER RIGHT TRIANGLE;b LEFT a;
     a UPPER b;b RIGHT a;WHITE BULLET;SQUARE WITH LEFT HALF BLACK;b RIGHT b;
     b UPPER LEFT DIAGONAL HALF BLACK;b LOWER RIGHT c;WHITE SQUARE WITH VERTICAL BISECTING LINE;
     a UP-POINTING TRIANGLE WITH DOT;UP-POINTING TRIANGLE WITH LEFT HALF BLACK;c RIGHT b;
     LARGE CIRCLE;WHITE SQUARE WITH UPPER LEFT QUADRANT;c LOWER b;d RIGHT a;c UPPER b;
     a CIRCLE b LEFT a;c LOWER b;d RIGHT a;c UPPER b;UPPER LEFT TRIANGLE;a RIGHT a;LOWER LEFT a;
     WHITE MEDIUM SQUARE;BLACK b;WHITE a SMALL SQUARE;BLACK c;LOWER RIGHT TRIANGLE"),
   (0x2600, "BLACK SUN WITH RAYS;CLOUD;UMBRELLA;SNOWMAN;COMET;BLACK STAR;WHITE a;LIGHTNING;
     THUNDERSTORM;SUN;ASCENDING NODE;DESCENDING a;CONJUNCTION;OPPOSITION;BLACK TELEPHONE;WHITE a;
     BALLOT BOX;b WITH CHECK;c X;SALTIRE;UMBRELLA WITH RAIN DROPS;HOT BEVERAGE;WHITE SHOGI PIECE;
     BLACK b;SHAMROCK;REVERSED ROTATED FLORAL HEART BULLET;BLACK LEFT POINTING INDEX;a RIGHT b;
     WHITE LEFT b;a UP b;a RIGHT b;a DOWN b;SKULL AND CROSSBONES;CAUTION SIGN;RADIOACTIVE a;
     BIOHAZARD a;CADUCEUS;ANKH;ORTHODOX CROSS;CHI RHO;CROSS OF LORRAINE;b JERUSALEM;
     STAR AND CRESCENT;FARSI SYMBOL;ADI SHAKTI;HAMMER AND SICKLE;PEACE SYMBOL;YIN YANG;
     TRIGRAM FOR HEAVEN;b LAKE;b FIRE;b THUNDER;b WIND;b WATER;b MOUNTAIN;b EARTH;WHEEL OF DHARMA;
     WHITE FROWNING FACE;a SMILING a;BLACK b;WHITE SUN WITH RAYS;FIRST QUARTER MOON;LAST b;MERCURY;
     FEMALE SIGN;EARTH;MALE SIGN;JUPITER;SATURN;URANUS;NEPTUNE;PLUTO;ARIES;TAURUS;GEMINI;CANCER;LEO;
     VIRGO;LIBRA;SCORPIUS;SAGITTARIUS;CAPRICORN;AQUARIUS;PISCES;WHITE CHESS KING;b QUEEN;b ROOK;
     b BISHOP;b KNIGHT;b PAWN;BLACK a KING;b QUEEN;b ROOK;b BISHOP;b KNIGHT;b PAWN;a SPADE SUIT;
     WHITE HEART a;a DIAMOND a;BLACK CLUB a;WHITE SPADE a;BLACK HEART a;a DIAMOND a;WHITE CLUB a;
     HOT SPRINGS;QUARTER NOTE;EIGHTH a;BEAMED EIGHTH NOTES;a SIXTEENTH a;MUSIC FLAT SIGN;
     a NATURAL a;a SHARP a;WEST SYRIAC CROSS;EAST b;UNIVERSAL RECYCLING SYMBOL;
     RECYCLING SYMBOL FOR TYPE-1 PLASTICS;c TYPE-2 a;c TYPE-3 a;c TYPE-4 a;c TYPE-5 a;c TYPE-6 a;
     c TYPE-7 a;c GENERIC MATERIALS;BLACK UNIVERSAL RECYCLING SYMBOL;RECYCLED PAPER SYMBOL;
     PARTIALLY-RECYCLED b;PERMANENT a SIGN;WHEELCHAIR SYMBOL;DIE FACE-1;a FACE-2;a FACE-3;a FACE-4;
     a FACE-5;a FACE-6;WHITE CIRCLE WITH DOT RIGHT;c TWO DOTS;BLACK b WHITE DOT RIGHT;
     c TWO WHITE DOTS;MONOGRAM FOR YANG;b YIN;DIGRAM a GREATER YANG;b LESSER YIN;c YANG;
     b GREATER YIN;WHITE FLAG;BLACK a;HAMMER AND PICK;ANCHOR;CROSSED SWORDS;STAFF OF AESCULAPIUS;
     SCALES;ALEMBIC;FLOWER;GEAR;STAFF OF HERMES;ATOM SYMBOL;FLEUR-DE-LIS;OUTLINED WHITE STAR;
     THREE LINES CONVERGING RIGHT;c LEFT;WARNING SIGN;HIGH VOLTAGE SIGN;DOUBLED FEMALE a;a MALE a;
     INTERLOCKED FEMALE AND MALE SIGN;MALE AND FEMALE SIGN;a WITH STROKE a;
     c AND MALE AND FEMALE SIGN;VERTICAL MALE WITH STROKE SIGN;HORIZONTAL d;MEDIUM WHITE CIRCLE;
     a BLACK a;a SMALL WHITE CIRCLE;MARRIAGE SYMBOL;DIVORCE a;UNMARRIED PARTNERSHIP SYMBOL;COFFIN;
     FUNERAL URN;NEUTER;CERES;PALLAS;JUNO;VESTA;CHIRON;BLACK MOON LILITH;SEXTILE;SEMISEXTILE;
     QUINCUNX;SESQUIQUADRATE;SOCCER BALL;BASEBALL;SQUARED KEY;WHITE DRAUGHTS MAN;b KING;BLACK a MAN;
     b KING;SNOWMAN WITHOUT SNOW;SUN BEHIND CLOUD;RAIN;BLACK SNOWMAN;THUNDER CLOUD AND RAIN;
     TURNED WHITE SHOGI PIECE;a BLACK b;WHITE DIAMOND IN SQUARE;CROSSING LANES;DISABLED CAR;
     OPHIUCHUS;PICK;CAR SLIDING;HELMET WITH WHITE CROSS;CIRCLED CROSSING LANES;CHAINS;NO ENTRY;
     ALTERNATE ONE-WAY LEFT WAY TRAFFIC;BLACK TWO-WAY c;WHITE d;BLACK LEFT LANE MERGE;WHITE c;
     DRIVE SLOW SIGN;HEAVY WHITE DOWN-POINTING TRIANGLE;LEFT CLOSED ENTRY;SQUARED SALTIRE;
     FALLING DIAGONAL IN WHITE CIRCLE IN BLACK SQUARE;BLACK TRUCK;RESTRICTED LEFT ENTRY-1;b ENTRY-2;
     ASTRONOMICAL SYMBOL FOR URANUS;HEAVY CIRCLE WITH STROKE AND TWO DOTS ABOVE;PENTAGRAM;
     RIGHT-HANDED INTERLACED PENTAGRAM;LEFT-HANDED b;INVERTED PENTAGRAM;BLACK CROSS ON SHIELD;
     SHINTO SHRINE;CHURCH;CASTLE;HISTORIC SITE;GEAR WITHOUT HUB;a WITH HANDLES;
     MAP SYMBOL FOR LIGHTHOUSE;MOUNTAIN;UMBRELLA ON GROUND;FOUNTAIN;FLAG IN HOLE;FERRY;SAILBOAT;
     SQUARE FOUR CORNERS;SKIER;ICE SKATE;PERSON WITH BALL;TENT;JAPANESE BANK SYMBOL;
     HEADSTONE GRAVEYARD a;FUEL PUMP;CUP ON BLACK SQUARE;
     WHITE FLAG WITH HORIZONTAL MIDDLE BLACK STRIPE"),
   (0x2701, "UPPER BLADE SCISSORS;BLACK SCISSORS;LOWER BLADE SCISSORS;WHITE SCISSORS;
     a HEAVY CHECK MARK;TELEPHONE LOCATION SIGN;TAPE DRIVE;AIRPLANE;ENVELOPE;RAISED FIST;a HAND;
     VICTORY a;WRITING a;LOWER RIGHT PENCIL;PENCIL;UPPER RIGHT PENCIL;WHITE NIB;BLACK a;CHECK MARK;
     HEAVY CHECK MARK;MULTIPLICATION X;HEAVY MULTIPLICATION X;BALLOT X;HEAVY BALLOT X;
     OUTLINED GREEK CROSS;HEAVY b;OPEN CENTRE a;HEAVY OPEN CENTRE CROSS;LATIN CROSS;
     SHADOWED WHITE LATIN CROSS;OUTLINED LATIN CROSS;MALTESE CROSS;STAR OF DAVID;
     FOUR TEARDROP-SPOKED ASTERISK;a BALLOON-SPOKED a;HEAVY FOUR BALLOON-SPOKED ASTERISK;
     FOUR CLUB-SPOKED ASTERISK;BLACK FOUR POINTED STAR;WHITE c;SPARKLES;STRESS OUTLINED WHITE STAR;
     CIRCLED WHITE STAR;OPEN CENTRE BLACK STAR;BLACK a WHITE a;OUTLINED BLACK STAR;
     HEAVY OUTLINED BLACK STAR;PINWHEEL STAR;SHADOWED WHITE STAR;HEAVY ASTERISK;
     OPEN CENTRE ASTERISK;EIGHT SPOKED a;a POINTED BLACK STAR;b PINWHEEL a;SIX a BLACK a;
     EIGHT a RECTILINEAR BLACK STAR;HEAVY EIGHT POINTED RECTILINEAR BLACK STAR;
     TWELVE POINTED BLACK STAR;SIXTEEN a ASTERISK;TEARDROP-SPOKED ASTERISK;
     OPEN CENTRE TEARDROP-SPOKED ASTERISK;HEAVY TEARDROP-SPOKED ASTERISK;
     SIX PETALLED BLACK AND WHITE FLORETTE;BLACK FLORETTE;WHITE a;
     EIGHT PETALLED OUTLINED BLACK FLORETTE;CIRCLED OPEN CENTRE EIGHT POINTED STAR;
     HEAVY TEARDROP-SPOKED PINWHEEL ASTERISK;SNOWFLAKE;TIGHT TRIFOLIATE SNOWFLAKE;HEAVY CHEVRON a;
     SPARKLE;HEAVY SPARKLE;BALLOON-SPOKED ASTERISK;EIGHT TEARDROP-SPOKED PROPELLER ASTERISK;
     HEAVY EIGHT TEARDROP-SPOKED PROPELLER ASTERISK;CROSS MARK;SHADOWED WHITE CIRCLE;
     NEGATIVE SQUARED CROSS MARK;LOWER RIGHT DROP-SHADOWED WHITE SQUARE;UPPER d;LOWER a SHADOWED b;
     UPPER d;BLACK QUESTION MARK ORNAMENT;WHITE c;a EXCLAMATION b;BLACK DIAMOND MINUS WHITE X;
     HEAVY EXCLAMATION MARK SYMBOL;LIGHT VERTICAL BAR;MEDIUM b;HEAVY b;
     a SINGLE TURNED COMMA QUOTATION MARK ORNAMENT;b COMMA QUOTATION MARK ORNAMENT;
     a DOUBLE TURNED COMMA QUOTATION MARK ORNAMENT;b COMMA QUOTATION MARK ORNAMENT;
     a LOW SINGLE COMMA QUOTATION MARK ORNAMENT;b DOUBLE d;CURVED STEM PARAGRAPH SIGN ORNAMENT;
     HEAVY EXCLAMATION MARK ORNAMENT;a HEART EXCLAMATION MARK ORNAMENT;a BLACK HEART;
     ROTATED HEAVY BLACK HEART BULLET;FLORAL HEART;ROTATED FLORAL HEART BULLET;
     MEDIUM LEFT PARENTHESIS ORNAMENT;a RIGHT b;a FLATTENED LEFT PARENTHESIS ORNAMENT;b RIGHT b;
     a LEFT-POINTING ANGLE BRACKET a;a RIGHT-POINTING c;
     HEAVY LEFT-POINTING a QUOTATION MARK ORNAMENT;a RIGHT-POINTING d;
     a LEFT-POINTING a BRACKET ORNAMENT;a RIGHT-POINTING c;
     LIGHT LEFT TORTOISE SHELL BRACKET ORNAMENT;a RIGHT d;MEDIUM LEFT CURLY BRACKET ORNAMENT;
     a RIGHT c;DINGBAT NEGATIVE CIRCLED DIGIT ONE;d TWO;d THREE;d FOUR;d FIVE;d SIX;d SEVEN;d EIGHT;
     d NINE;c NUMBER TEN;a CIRCLED SANS-SERIF DIGIT ONE;d TWO;d THREE;d FOUR;d FIVE;d SIX;d SEVEN;
     d EIGHT;d NINE;c NUMBER TEN;a NEGATIVE CIRCLED SANS-SERIF DIGIT ONE;e TWO;e THREE;e FOUR;
     e FIVE;e SIX;e SEVEN;e EIGHT;e NINE;d NUMBER TEN;HEAVY WIDE-HEADED RIGHTWARDS ARROW;
     a PLUS SIGN;a MINUS a;a DIVISION a;a SOUTH EAST ARROW;a RIGHTWARDS ARROW;a NORTH EAST ARROW;
     DRAFTING POINT RIGHTWARDS a;HEAVY ROUND-TIPPED b;TRIANGLE-HEADED RIGHTWARDS ARROW;
     HEAVY TRIANGLE-HEADED RIGHTWARDS ARROW;DASHED c;HEAVY DASHED TRIANGLE-HEADED RIGHTWARDS ARROW;
     BLACK RIGHTWARDS ARROW;THREE-D TOP-LIGHTED RIGHTWARDS ARROWHEAD;a BOTTOM-LIGHTED b;
     BLACK RIGHTWARDS ARROWHEAD;HEAVY BLACK CURVED DOWNWARDS AND RIGHTWARDS ARROW;c UPWARDS c;
     SQUAT a RIGHTWARDS ARROW;HEAVY CONCAVE-POINTED BLACK RIGHTWARDS ARROW;
     RIGHT-SHADED WHITE RIGHTWARDS ARROW;LEFT-SHADED c;BACK-TILTED SHADOWED WHITE RIGHTWARDS ARROW;
     FRONT-TILTED d;HEAVY LOWER RIGHT-SHADOWED WHITE RIGHTWARDS ARROW;a UPPER d;NOTCHED LOWER d;
     CURLY LOOP;NOTCHED UPPER RIGHT-SHADOWED WHITE RIGHTWARDS ARROW;
     CIRCLED HEAVY WHITE RIGHTWARDS ARROW;WHITE-FEATHERED RIGHTWARDS ARROW;
     BLACK-FEATHERED SOUTH EAST ARROW;a RIGHTWARDS ARROW;a NORTH EAST ARROW;
     HEAVY BLACK-FEATHERED SOUTH EAST ARROW;b RIGHTWARDS ARROW;b NORTH EAST ARROW;
     TEARDROP-BARBED RIGHTWARDS ARROW;HEAVY TEARDROP-SHANKED RIGHTWARDS ARROW;
     WEDGE-TAILED RIGHTWARDS ARROW;HEAVY WEDGE-TAILED RIGHTWARDS ARROW;
     OPEN-OUTLINED RIGHTWARDS ARROW;DOUBLE CURLY LOOP"),
   (0x27C0, "THREE DIMENSIONAL ANGLE;WHITE TRIANGLE CONTAINING SMALL WHITE TRIANGLE;PERPENDICULAR;
     OPEN SUBSET;a SUPERSET;LEFT S-SHAPED BAG DELIMITER;RIGHT c;OR WITH DOT INSIDE;
     REVERSE SOLIDUS PRECEDING SUBSET;SUPERSET PRECEDING SOLIDUS;
     VERTICAL BAR WITH HORIZONTAL STROKE;MATHEMATICAL RISING DIAGONAL;LONG DIVISION;
     MATHEMATICAL FALLING DIAGONAL;SQUARED LOGICAL AND;b OR;WHITE DIAMOND WITH CENTRED DOT;
     AND WITH DOT;ELEMENT OF OPENING UPWARDS;LOWER RIGHT CORNER WITH DOT;UPPER LEFT c;
     LEFT OUTER JOIN;RIGHT b;FULL b;LARGE UP TACK;a DOWN a;LEFT AND RIGHT DOUBLE TURNSTILE;c TACK;
     a MULTIMAP;LONG RIGHT TACK;a LEFT a;UP TACK WITH CIRCLE ABOVE;
     LOZENGE DIVIDED BY HORIZONTAL RULE;WHITE CONCAVE-SIDED DIAMOND;c WITH LEFTWARDS TICK;
     d RIGHTWARDS a;a SQUARE WITH LEFTWARDS TICK;c RIGHTWARDS a;
     MATHEMATICAL LEFT WHITE SQUARE BRACKET;a RIGHT c;a LEFT ANGLE BRACKET;a RIGHT b;
     a LEFT DOUBLE ANGLE BRACKET;a RIGHT c;a LEFT WHITE TORTOISE SHELL BRACKET;a RIGHT d;
     a LEFT FLATTENED PARENTHESIS;a RIGHT b;UPWARDS QUADRUPLE ARROW;DOWNWARDS b;
     ANTICLOCKWISE GAPPED CIRCLE ARROW;CLOCKWISE c;RIGHT ARROW WITH CIRCLED PLUS;
     LONG LEFTWARDS ARROW;a RIGHTWARDS a;a LEFT RIGHT ARROW;a LEFTWARDS DOUBLE a;a RIGHTWARDS b;
     a LEFT RIGHT DOUBLE ARROW;a LEFTWARDS ARROW FROM BAR;a RIGHTWARDS c;
     a LEFTWARDS DOUBLE ARROW FROM BAR;a RIGHTWARDS d;b SQUIGGLE a"),
   (0x2900, "RIGHTWARDS TWO-HEADED ARROW WITH VERTICAL STROKE;d DOUBLE VERTICAL STROKE;
     LEFTWARDS DOUBLE b VERTICAL STROKE;RIGHTWARDS e;LEFT RIGHT DOUBLE ARROW WITH VERTICAL STROKE;
     RIGHTWARDS TWO-HEADED ARROW FROM BAR;LEFTWARDS DOUBLE c;RIGHTWARDS d;
     DOWNWARDS ARROW WITH HORIZONTAL STROKE;UPWARDS d;a TRIPLE ARROW;DOWNWARDS b;
     LEFTWARDS DOUBLE DASH ARROW;RIGHTWARDS c;LEFTWARDS TRIPLE b;RIGHTWARDS c;
     a TWO-HEADED TRIPLE DASH ARROW;a ARROW WITH DOTTED STEM;UPWARDS a TO BAR;DOWNWARDS c;
     RIGHTWARDS a WITH TAIL WITH VERTICAL STROKE;e DOUBLE VERTICAL STROKE;
     a TWO-HEADED ARROW WITH TAIL;e WITH VERTICAL STROKE;f DOUBLE VERTICAL STROKE;
     LEFTWARDS ARROW-TAIL;RIGHTWARDS a;LEFTWARDS DOUBLE ARROW-TAIL;RIGHTWARDS b;
     LEFTWARDS ARROW TO BLACK DIAMOND;RIGHTWARDS d;LEFTWARDS a FROM BAR TO BLACK DIAMOND;
     RIGHTWARDS f;NORTH WEST AND SOUTH EAST ARROW;a EAST b WEST a;a WEST ARROW WITH HOOK;a EAST c;
     SOUTH d;a WEST c;NORTH b AND NORTH EAST ARROW;a EAST b SOUTH b;SOUTH d WEST a;a WEST b NORTH b;
     RISING DIAGONAL CROSSING FALLING DIAGONAL;FALLING b RISING a;
     SOUTH EAST ARROW CROSSING NORTH EAST ARROW;NORTH c SOUTH b;
     FALLING DIAGONAL CROSSING NORTH EAST ARROW;RISING b SOUTH b;
     NORTH EAST ARROW CROSSING NORTH WEST ARROW;a WEST c EAST a;WAVE ARROW POINTING DIRECTLY RIGHT;
     ARROW POINTING RIGHTWARDS THEN CURVING UPWARDS;e DOWNWARDS;b DOWNWARDS b LEFTWARDS;
     e RIGHTWARDS;RIGHT-SIDE ARC CLOCKWISE ARROW;LEFT-SIDE a ANTICLOCKWISE a;TOP c;BOTTOM c;
     TOP a CLOCKWISE a WITH MINUS;b ANTICLOCKWISE b PLUS;LOWER RIGHT SEMICIRCULAR CLOCKWISE ARROW;
     a LEFT a ANTICLOCKWISE a;ANTICLOCKWISE CLOSED CIRCLE ARROW;CLOCKWISE c;
     RIGHTWARDS ARROW ABOVE SHORT LEFTWARDS ARROW;LEFTWARDS c RIGHTWARDS a;
     SHORT RIGHTWARDS ARROW ABOVE LEFTWARDS a;RIGHTWARDS ARROW WITH PLUS BELOW;LEFTWARDS d;
     RIGHTWARDS a THROUGH X;LEFT RIGHT ARROW THROUGH SMALL CIRCLE;UPWARDS TWO-HEADED a FROM b;
     LEFT BARB UP RIGHT BARB DOWN HARPOON;b DOWN b UP a;UP a RIGHT DOWN a LEFT a;b LEFT b RIGHT a;
     LEFT a UP RIGHT a UP a;UP a RIGHT DOWN a RIGHT a;LEFT a DOWN RIGHT a DOWN a;
     UP a LEFT DOWN a LEFT a;LEFTWARDS HARPOON WITH BARB UP TO BAR;RIGHTWARDS f;UPWARDS c RIGHT b;
     DOWNWARDS f;LEFTWARDS c DOWN b;RIGHTWARDS f;UPWARDS c LEFT b;DOWNWARDS f;LEFTWARDS c UP FROM a;
     RIGHTWARDS f;UPWARDS c RIGHT b;DOWNWARDS f;LEFTWARDS c DOWN b;RIGHTWARDS f;UPWARDS c LEFT b;
     DOWNWARDS f;LEFTWARDS c UP ABOVE LEFTWARDS HARPOON WITH BARB DOWN;
     UPWARDS c LEFT BESIDE UPWARDS c RIGHT;RIGHTWARDS c UP ABOVE RIGHTWARDS c DOWN;
     DOWNWARDS c LEFT BESIDE DOWNWARDS c RIGHT;LEFTWARDS c UP ABOVE RIGHTWARDS c UP;d DOWN e DOWN;
     RIGHTWARDS c UP a LEFTWARDS c UP;d DOWN e DOWN;LEFTWARDS c UP a LONG DASH;d DOWN BELOW b;
     RIGHTWARDS c UP ABOVE b;d DOWN BELOW b;UPWARDS c LEFT BESIDE DOWNWARDS HARPOON WITH BARB RIGHT;
     DOWNWARDS e UPWARDS d;RIGHT DOUBLE ARROW WITH ROUNDED HEAD;EQUALS SIGN ABOVE RIGHTWARDS ARROW;
     TILDE OPERATOR c;LEFTWARDS ARROW a TILDE OPERATOR;RIGHTWARDS d;c ALMOST EQUAL TO;
     LESS-THAN ABOVE LEFTWARDS ARROW;LEFTWARDS ARROW THROUGH LESS-THAN;
     GREATER-THAN ABOVE RIGHTWARDS ARROW;SUBSET c;LEFTWARDS ARROW THROUGH SUBSET;
     SUPERSET ABOVE LEFTWARDS ARROW;LEFT FISH TAIL;RIGHT b;UP b;DOWN b"),
   (0x2A00, "N-ARY CIRCLED DOT OPERATOR;b PLUS a;b TIMES a;a UNION OPERATOR WITH DOT;d PLUS;
     a SQUARE INTERSECTION OPERATOR;b UNION a;TWO LOGICAL AND a;b OR a;N-ARY TIMES OPERATOR;
     MODULO TWO SUM;SUMMATION WITH INTEGRAL;QUADRUPLE INTEGRAL OPERATOR;FINITE PART INTEGRAL;
     INTEGRAL WITH DOUBLE STROKE;a AVERAGE WITH SLASH;CIRCULATION FUNCTION;
     ANTICLOCKWISE INTEGRATION;LINE a WITH RECTANGULAR PATH AROUND POLE;c SEMICIRCULAR c;
     b NOT INCLUDING THE POLE;INTEGRAL AROUND A POINT OPERATOR;QUATERNION INTEGRAL OPERATOR;
     INTEGRAL WITH LEFTWARDS ARROW WITH HOOK;b TIMES SIGN;b INTERSECTION;b UNION;b OVERBAR;
     b UNDERBAR;JOIN;LARGE LEFT TRIANGLE OPERATOR;Z NOTATION SCHEMA COMPOSITION;c PIPING;
     c PROJECTION;PLUS SIGN WITH SMALL CIRCLE ABOVE;c CIRCUMFLEX ACCENT a;c TILDE ABOVE;c DOT BELOW;
     c TILDE a;c SUBSCRIPT TWO;c BLACK TRIANGLE;MINUS b COMMA ABOVE;c DOT BELOW;c FALLING DOTS;
     c RISING a;PLUS a IN LEFT HALF CIRCLE;c RIGHT b;VECTOR OR CROSS PRODUCT"),
   (0x2B00, "NORTH EAST WHITE ARROW;a WEST b;SOUTH EAST b;a WEST b;LEFT RIGHT b;
     LEFTWARDS BLACK ARROW;UPWARDS b;DOWNWARDS b;NORTH EAST BLACK ARROW;a WEST b;SOUTH EAST b;
     a WEST b;LEFT RIGHT b;UP DOWN b;RIGHTWARDS ARROW WITH TIP DOWNWARDS;d UPWARDS;
     LEFTWARDS c DOWNWARDS;d UPWARDS;SQUARE WITH TOP HALF BLACK;b BOTTOM b;
     b UPPER RIGHT DIAGONAL HALF BLACK;b LOWER LEFT c;DIAMOND a LEFT HALF BLACK;b RIGHT b;b TOP b;
     b BOTTOM b;DOTTED SQUARE;BLACK LARGE SQUARE;WHITE b;BLACK VERY SMALL SQUARE;WHITE c;
     BLACK PENTAGON;WHITE a;a HEXAGON;BLACK a;HORIZONTAL BLACK HEXAGON;BLACK LARGE CIRCLE;
     a MEDIUM DIAMOND;WHITE b;BLACK a LOZENGE;WHITE b;BLACK SMALL DIAMOND;b LOZENGE;WHITE b;
     BLACK HORIZONTAL ELLIPSE;WHITE b;BLACK VERTICAL a;WHITE b;LEFT ARROW WITH SMALL CIRCLE;
     THREE LEFTWARDS ARROWS;LEFT ARROW WITH CIRCLED PLUS;LONG LEFTWARDS SQUIGGLE ARROW;
     LEFTWARDS TWO-HEADED ARROW WITH VERTICAL STROKE;d DOUBLE VERTICAL STROKE;c FROM BAR;
     b TRIPLE DASH ARROW;a ARROW WITH DOTTED STEM;c TAIL WITH VERTICAL STROKE;
     e DOUBLE VERTICAL STROKE;a TWO-HEADED ARROW WITH TAIL;e WITH VERTICAL STROKE;
     f DOUBLE VERTICAL STROKE;a ARROW THROUGH X;WAVE a POINTING DIRECTLY LEFT;
     EQUALS SIGN ABOVE LEFTWARDS ARROW;REVERSE TILDE OPERATOR ABOVE LEFTWARDS ARROW;
     LEFTWARDS ARROW ABOVE REVERSE ALMOST EQUAL TO;RIGHTWARDS a THROUGH GREATER-THAN;c SUPERSET;
     LEFTWARDS QUADRUPLE ARROW;RIGHTWARDS b;REVERSE TILDE OPERATOR ABOVE RIGHTWARDS ARROW;
     RIGHTWARDS ARROW ABOVE REVERSE ALMOST EQUAL TO;TILDE OPERATOR a LEFTWARDS ARROW;
     LEFTWARDS ARROW a ALMOST EQUAL TO;c REVERSE TILDE OPERATOR;RIGHTWARDS e;
     DOWNWARDS TRIANGLE-HEADED ZIGZAG ARROW;SHORT SLANTED NORTH a;a BACKSLANTED SOUTH a;
     WHITE MEDIUM STAR;BLACK SMALL a;WHITE b;BLACK RIGHT-POINTING PENTAGON;WHITE b;
     HEAVY LARGE CIRCLE;a OVAL WITH OVAL INSIDE;a CIRCLE a CIRCLE a;b;a CIRCLED SALTIRE;
     SLANTED NORTH ARROW WITH HOOKED HEAD;BACKSLANTED SOUTH c TAIL;SLANTED NORTH b HORIZONTAL a;
     BACKSLANTED SOUTH d;BENT ARROW POINTING DOWNWARDS THEN NORTH EAST;
     SHORT BENT ARROW POINTING DOWNWARDS THEN NORTH EAST"),
   (0x3000, "IDEOGRAPHIC SPACE;a COMMA;a FULL STOP;DITTO MARK;JAPANESE INDUSTRIAL STANDARD SYMBOL;
     IDEOGRAPHIC ITERATION MARK;a CLOSING a;a NUMBER ZERO;LEFT ANGLE BRACKET;RIGHT b;
     LEFT DOUBLE ANGLE BRACKET;RIGHT c;LEFT CORNER BRACKET;RIGHT b;LEFT WHITE CORNER BRACKET;
     RIGHT c;LEFT BLACK LENTICULAR a;RIGHT c;POSTAL MARK;GETA a;LEFT TORTOISE SHELL BRACKET;RIGHT c;
     LEFT WHITE LENTICULAR a;RIGHT c;LEFT a TORTOISE SHELL BRACKET;RIGHT d;LEFT a SQUARE BRACKET;
     RIGHT c;WAVE DASH;REVERSED DOUBLE PRIME QUOTATION MARK;DOUBLE PRIME QUOTATION MARK;
     LOW DOUBLE PRIME QUOTATION MARK;POSTAL MARK FACE;HANGZHOU NUMERAL ONE;b TWO;b THREE;b FOUR;
     b FIVE;b SIX;b SEVEN;b EIGHT;b NINE;IDEOGRAPHIC LEVEL TONE MARK;a RISING b;a DEPARTING b;
     a ENTERING b;HANGUL SINGLE DOT TONE MARK;a DOUBLE c;WAVY DASH;VERTICAL KANA REPEAT MARK;
     c WITH VOICED SOUND MARK;c MARK UPPER HALF;c WITH VOICED SOUND MARK UPPER HALF;
     c MARK LOWER HALF;CIRCLED POSTAL MARK;IDEOGRAPHIC TELEGRAPH LINE FEED SEPARATOR SYMBOL;
     HANGZHOU NUMERAL TEN;b TWENTY;b THIRTY;VERTICAL IDEOGRAPHIC ITERATION MARK;MASU MARK;
     PART ALTERNATION MARK;IDEOGRAPHIC VARIATION INDICATOR;a HALF FILL SPACE"),
   (0x3041, "HIRAGANA LETTER SMALL A;b A;b SMALL I;b I;b SMALL U;b U;b SMALL E;b E;b SMALL O;b O;
     b KA;b GA;b KI;b GI;b KU;b GU;b KE;b GE;b KO;b GO;b SA;b ZA;b SI;b ZI;b SU;b ZU;b SE;b ZE;b SO;
     b ZO;b TA;b DA;b TI;b DI;b SMALL TU;b TU;b DU;b TE;b DE;b TO;b DO;b NA;b NI;b NU;b NE;b NO;
     b HA;b BA;b PA;b HI;b BI;b PI;b HU;b BU;b PU;b HE;b BE;b PE;b HO;b BO;b PO;b MA;b MI;b MU;b ME;
     b MO;b SMALL YA;b YA;b SMALL YU;b YU;b SMALL YO;b YO;b RA;b RI;b RU;b RE;b RO;b SMALL WA;b WA;
     b WI;b WE;b WO;b N;b VU;b SMALL KA;c KE;;;COMBINING KATAKANA-HIRAGANA VOICED SOUND MARK;
     b SEMI-VOICED b;KATAKANA-HIRAGANA VOICED SOUND MARK;a SEMI-VOICED b;HIRAGANA ITERATION MARK;
     a VOICED ITERATION MARK;a DIGRAPH YORI;KATAKANA-HIRAGANA DOUBLE HYPHEN;KATAKANA LETTER SMALL A;
     b A;b SMALL I;b I;b SMALL U;b U;b SMALL E;b E;b SMALL O;b O;b KA;b GA;b KI;b GI;b KU;b GU;b KE;
     b GE;b KO;b GO;b SA;b ZA;b SI;b ZI;b SU;b ZU;b SE;b ZE;b SO;b ZO;b TA;b DA;b TI;b DI;
     b SMALL TU;b TU;b DU;b TE;b DE;b TO;b DO;b NA;b NI;b NU;b NE;b NO;b HA;b BA;b PA;b HI;b BI;
     b PI;b HU;b BU;b PU;b HE;b BE;b PE;b HO;b BO;b PO;b MA;b MI;b MU;b ME;b MO;b SMALL YA;b YA;
     b SMALL YU;b YU;b SMALL YO;b YO;b RA;b RI;b RU;b RE;b RO;b SMALL WA;b WA;b WI;b WE;b WO;b N;
     b VU;b SMALL KA;c KE;b VA;b VI;b VE;b VO;a MIDDLE DOT;KATAKANA-HIRAGANA PROLONGED SOUND MARK;
     KATAKANA ITERATION MARK;a VOICED ITERATION MARK;a DIGRAPH KOTO"),
   (0xFB00, "LATIN SMALL LIGATURE FF;c FI;c FL;c FFI;c FFL;c LONG S T;c ST"),
   (0xFE00, "VARIATION SELECTOR-1;a SELECTOR-2;a SELECTOR-3;a SELECTOR-4;a SELECTOR-5;a SELECTOR-6;
     a SELECTOR-7;a SELECTOR-8;a SELECTOR-9;a SELECTOR-10;a SELECTOR-11;a SELECTOR-12;a SELECTOR-13;
     a SELECTOR-14;a SELECTOR-15;a SELECTOR-16"),
   (0xFEFF, "ZERO WIDTH NO-BREAK SPACE"),
   (0xFF01, "FULLWIDTH EXCLAMATION MARK;a QUOTATION a;a NUMBER SIGN;a DOLLAR a;a PERCENT a;
     a AMPERSAND;a APOSTROPHE;a LEFT PARENTHESIS;a RIGHT a;a ASTERISK;a PLUS SIGN;a COMMA;
     a HYPHEN-MINUS;a FULL STOP;a SOLIDUS;a DIGIT ZERO;b ONE;b TWO;b THREE;b FOUR;b FIVE;b SIX;
     b SEVEN;b EIGHT;b NINE;a COLON;a SEMICOLON;a LESS-THAN SIGN;a EQUALS a;a GREATER-THAN a;
     a QUESTION MARK;a COMMERCIAL AT;a LATIN CAPITAL LETTER A;d B;d C;d D;d E;d F;d G;d H;d I;d J;
     d K;d L;d M;d N;d O;d P;d Q;d R;d S;d T;d U;d V;d W;d X;d Y;d Z;a LEFT SQUARE BRACKET;
     a REVERSE SOLIDUS;a RIGHT SQUARE BRACKET;a CIRCUMFLEX ACCENT;a LOW LINE;a GRAVE ACCENT;
     a LATIN SMALL LETTER A;d B;d C;d D;d E;d F;d G;d H;d I;d J;d K;d L;d M;d N;d O;d P;d Q;d R;d S;
     d T;d U;d V;d W;d X;d Y;d Z;a LEFT CURLY BRACKET;a VERTICAL LINE;a RIGHT CURLY BRACKET;
     a TILDE"),
   (0xFFE0, "FULLWIDTH CENT SIGN;a POUND a;a NOT a;a MACRON;a BROKEN BAR;a YEN SIGN;a WON a"),
   (0xFFF9, "INTERLINEAR ANNOTATION ANCHOR;b SEPARATOR;b TERMINATOR;OBJECT REPLACEMENT CHARACTER;
     REPLACEMENT CHARACTER"),
   (0x1D400, "MATHEMATICAL BOLD CAPITAL A;c B;c C;c D;c E;c F;c G;c H;c I;c J;c K;c L;c M;c N;c O;
     c P;c Q;c R;c S;c T;c U;c V;c W;c X;c Y;c Z;b SMALL A;c B;c C;c D;c E;c F;c G;c H;c I;c J;c K;
     c L;c M;c N;c O;c P;c Q;c R;c S;c T;c U;c V;c W;c X;c Y;c Z"),
   (0x1F0A0, "PLAYING CARD BACK;b ACE OF SPADES"),
   (0x1F170, "NEGATIVE SQUARED LATIN CAPITAL LETTER A;e B"),
   (0x1F17E, "NEGATIVE SQUARED LATIN CAPITAL LETTER O;e P"),
   (0x1F191, "SQUARED CL;a COOL;a FREE;a ID;a NEW;a NG;a OK;a SOS;a UP WITH EXCLAMATION MARK;a VS"),
   (0x1F1E6, "REGIONAL INDICATOR SYMBOL LETTER A;d B;d C;d D;d E;d F;d G;d H;d I;d J;d K;d L;d M;
     d N;d O;d P;d Q;d R;d S;d T;d U;d V;d W;d X;d Y;d Z"),
   (0x1F300, "CYCLONE;FOGGY;CLOSED UMBRELLA;NIGHT WITH STARS;SUNRISE OVER MOUNTAINS;a;
     CITYSCAPE AT DUSK;SUNSET OVER BUILDINGS;RAINBOW;BRIDGE AT NIGHT;WATER WAVE;VOLCANO;MILKY WAY;
     EARTH GLOBE EUROPE-AFRICA;b AMERICAS;b ASIA-AUSTRALIA;GLOBE WITH MERIDIANS;NEW MOON SYMBOL;
     WAXING CRESCENT MOON SYMBOL;FIRST QUARTER b;WAXING GIBBOUS b;FULL MOON SYMBOL;
     WANING GIBBOUS MOON SYMBOL;LAST QUARTER b;WANING CRESCENT b;CRESCENT MOON;NEW a WITH FACE;
     FIRST QUARTER MOON WITH FACE;LAST d;FULL MOON WITH FACE;SUN WITH FACE;GLOWING STAR;SHOOTING a;
     THERMOMETER;BLACK DROPLET;WHITE SUN;b WITH SMALL CLOUD;b BEHIND CLOUD;d WITH RAIN;
     CLOUD WITH RAIN;b SNOW;b LIGHTNING;b TORNADO;FOG;WIND BLOWING FACE;HOT DOG;TACO;BURRITO;
     CHESTNUT;SEEDLING;EVERGREEN TREE;DECIDUOUS a;PALM a;CACTUS;HOT PEPPER;TULIP;CHERRY BLOSSOM;
     ROSE;HIBISCUS;SUNFLOWER;BLOSSOM;EAR OF MAIZE;b RICE;HERB;FOUR LEAF CLOVER;MAPLE a;FALLEN a;
     LEAF FLUTTERING IN WIND;MUSHROOM;TOMATO;AUBERGINE;GRAPES;MELON;WATERMELON;TANGERINE;LEMON;
     BANANA;PINEAPPLE;RED APPLE;GREEN a;PEAR;PEACH;CHERRIES;STRAWBERRY;HAMBURGER;SLICE OF PIZZA;
     MEAT ON BONE;POULTRY LEG;RICE CRACKER;a BALL;COOKED RICE;CURRY AND RICE;STEAMING BOWL;
     SPAGHETTI;BREAD;FRENCH FRIES;ROASTED SWEET POTATO;DANGO;ODEN;SUSHI;FRIED SHRIMP;
     FISH CAKE WITH SWIRL DESIGN;SOFT ICE CREAM;SHAVED a;ICE CREAM;DOUGHNUT;COOKIE;CHOCOLATE BAR;
     CANDY;LOLLIPOP;CUSTARD;HONEY POT;SHORTCAKE;BENTO BOX;POT OF FOOD;COOKING;FORK AND KNIFE;
     TEACUP WITHOUT HANDLE;SAKE BOTTLE AND CUP;WINE GLASS;COCKTAIL a;TROPICAL DRINK;BEER MUG;
     CLINKING BEER MUGS;BABY BOTTLE;FORK AND KNIFE WITH PLATE;BOTTLE WITH POPPING CORK;POPCORN;
     RIBBON;WRAPPED PRESENT;BIRTHDAY CAKE;JACK-O-LANTERN;CHRISTMAS TREE;FATHER CHRISTMAS;FIREWORKS;
     FIREWORK SPARKLER;BALLOON;PARTY POPPER;CONFETTI BALL;TANABATA TREE;CROSSED FLAGS;
     PINE DECORATION;JAPANESE DOLLS;CARP STREAMER;WIND CHIME;MOON VIEWING CEREMONY;SCHOOL SATCHEL;
     GRADUATION CAP;HEART WITH TIP ON THE LEFT;BOUQUET OF FLOWERS;MILITARY MEDAL;REMINDER RIBBON;
     MUSICAL KEYBOARD WITH JACKS;STUDIO MICROPHONE;LEVEL SLIDER;CONTROL KNOBS;
     BEAMED ASCENDING MUSICAL NOTES;a DESCENDING b;FILM FRAMES;ADMISSION TICKETS;CAROUSEL HORSE;
     FERRIS WHEEL;ROLLER COASTER;FISHING POLE AND FISH;MICROPHONE;MOVIE CAMERA;CINEMA;HEADPHONE;
     ARTIST PALETTE;TOP HAT;CIRCUS TENT;TICKET;CLAPPER BOARD;PERFORMING ARTS;VIDEO GAME;DIRECT HIT;
     SLOT MACHINE;BILLIARDS;GAME DIE;BOWLING;FLOWER PLAYING CARDS;MUSICAL NOTE;
     MULTIPLE MUSICAL NOTES;SAXOPHONE;GUITAR;MUSICAL KEYBOARD;TRUMPET;VIOLIN;MUSICAL SCORE;
     RUNNING SHIRT WITH SASH;TENNIS RACQUET AND BALL;SKI AND SKI BOOT;BASKETBALL a HOOP;
     CHEQUERED FLAG;SNOWBOARDER;RUNNER;SURFER;SPORTS MEDAL;TROPHY;HORSE RACING;AMERICAN FOOTBALL;
     RUGBY a;SWIMMER;WEIGHT LIFTER;GOLFER;RACING MOTORCYCLE;a CAR;CRICKET BAT AND BALL;VOLLEYBALL;
     FIELD HOCKEY STICK AND BALL;ICE c PUCK;TABLE TENNIS PADDLE a BALL;SNOW CAPPED MOUNTAIN;CAMPING;
     BEACH WITH UMBRELLA;BUILDING CONSTRUCTION;HOUSE BUILDINGS;CITYSCAPE;DERELICT HOUSE BUILDING;
     CLASSICAL BUILDING;DESERT;a ISLAND;NATIONAL PARK;STADIUM;HOUSE BUILDING;a WITH GARDEN;
     OFFICE BUILDING;JAPANESE POST OFFICE;EUROPEAN b;HOSPITAL;BANK;AUTOMATED TELLER MACHINE;HOTEL;
     LOVE HOTEL;CONVENIENCE STORE;SCHOOL;DEPARTMENT STORE;FACTORY;IZAKAYA LANTERN;JAPANESE CASTLE;
     EUROPEAN a;WHITE PENNANT;BLACK a;WAVING WHITE FLAG;a BLACK a;ROSETTE;BLACK ROSETTE;LABEL;
     BADMINTON RACQUET AND SHUTTLECOCK;BOW AND ARROW;AMPHORA;EMOJI MODIFIER FITZPATRICK TYPE-1-2;
     c TYPE-3;c TYPE-4;c TYPE-5;c TYPE-6;RAT;MOUSE;OX;WATER BUFFALO;COW;TIGER;LEOPARD;RABBIT;CAT;
     DRAGON;CROCODILE;WHALE;SNAIL;SNAKE;HORSE;RAM;GOAT;SHEEP;MONKEY;ROOSTER;CHICKEN;DOG;PIG;BOAR;
     ELEPHANT;OCTOPUS;SPIRAL SHELL;BUG;ANT;HONEYBEE;LADY BEETLE;FISH;TROPICAL FISH;BLOWFISH;TURTLE;
     HATCHING CHICK;BABY a;FRONT-FACING BABY CHICK;BIRD;PENGUIN;KOALA;POODLE;DROMEDARY CAMEL;
     BACTRIAN a;DOLPHIN;MOUSE FACE;COW a;TIGER a;RABBIT a;CAT a;DRAGON a;SPOUTING WHALE;HORSE FACE;
     MONKEY a;DOG a;PIG a;FROG a;HAMSTER a;WOLF a;BEAR a;PANDA a;PIG NOSE;PAW PRINTS;CHIPMUNK;EYES;
     EYE;EAR;NOSE;MOUTH;TONGUE;WHITE UP POINTING BACKHAND INDEX;a DOWN c;a LEFT c;a RIGHT c;
     FISTED HAND SIGN;WAVING b;OK b;THUMBS UP a;a DOWN a;CLAPPING HANDS a;OPEN b;CROWN;WOMANS HAT;
     EYEGLASSES;NECKTIE;T-SHIRT;JEANS;DRESS;KIMONO;BIKINI;WOMANS CLOTHES;PURSE;HANDBAG;POUCH;
     MANS SHOE;ATHLETIC a;HIGH-HEELED a;WOMANS SANDAL;a BOOTS;FOOTPRINTS;BUST IN SILHOUETTE;BUSTS b;
     BOY;GIRL;MAN;WOMAN;FAMILY;MAN AND WOMAN HOLDING HANDS;TWO MEN HOLDING HANDS;a WOMEN b;
     POLICE OFFICER;WOMAN WITH BUNNY EARS;BRIDE a VEIL;PERSON a BLOND HAIR;MAN a GUA PI MAO;
     b TURBAN;OLDER MAN;a WOMAN;BABY;CONSTRUCTION WORKER;PRINCESS;JAPANESE OGRE;a GOBLIN;GHOST;
     BABY ANGEL;EXTRATERRESTRIAL ALIEN;ALIEN MONSTER;IMP;SKULL;INFORMATION DESK PERSON;GUARDSMAN;
     DANCER;LIPSTICK;NAIL POLISH;FACE MASSAGE;HAIRCUT;BARBER POLE;SYRINGE;PILL;KISS MARK;
     LOVE LETTER;RING;GEM STONE;KISS;BOUQUET;COUPLE WITH HEART;WEDDING;BEATING HEART;BROKEN a;
     TWO HEARTS;SPARKLING HEART;GROWING a;HEART WITH ARROW;BLUE HEART;GREEN a;YELLOW a;PURPLE a;
     HEART WITH RIBBON;REVOLVING HEARTS;HEART DECORATION;DIAMOND SHAPE WITH A DOT INSIDE;
     ELECTRIC LIGHT BULB;ANGER SYMBOL;BOMB;SLEEPING SYMBOL;COLLISION a;SPLASHING SWEAT SYMBOL;
     DROPLET;DASH SYMBOL;PILE OF POO;FLEXED BICEPS;DIZZY SYMBOL;SPEECH BALLOON;THOUGHT a;
     WHITE FLOWER;HUNDRED POINTS SYMBOL;MONEY BAG;CURRENCY EXCHANGE;HEAVY DOLLAR SIGN;CREDIT CARD;
     BANKNOTE WITH YEN SIGN;b DOLLAR a;b EURO a;b POUND a;MONEY a WINGS;
     CHART a UPWARDS TREND AND YEN SIGN;SEAT;PERSONAL COMPUTER;BRIEFCASE;MINIDISC;FLOPPY DISK;
     OPTICAL DISC;DVD;FILE FOLDER;OPEN FILE FOLDER;PAGE WITH CURL;a FACING UP;CALENDAR;
     TEAR-OFF CALENDAR;CARD INDEX;CHART WITH UPWARDS TREND;b DOWNWARDS a;BAR CHART;CLIPBOARD;
     PUSHPIN;ROUND PUSHPIN;PAPERCLIP;STRAIGHT RULER;TRIANGULAR a;BOOKMARK TABS;LEDGER;NOTEBOOK;
     a WITH DECORATIVE COVER;CLOSED BOOK;OPEN a;GREEN a;BLUE a;ORANGE a;BOOKS;NAME BADGE;SCROLL;
     MEMO;TELEPHONE RECEIVER;PAGER;FAX MACHINE;SATELLITE ANTENNA;PUBLIC ADDRESS LOUDSPEAKER;
     CHEERING MEGAPHONE;OUTBOX TRAY;INBOX a;PACKAGE;E-MAIL SYMBOL;INCOMING ENVELOPE;
     ENVELOPE WITH DOWNWARDS ARROW ABOVE;CLOSED MAILBOX WITH LOWERED FLAG;c RAISED a;OPEN d;
     c LOWERED a;POSTBOX;POSTAL HORN;NEWSPAPER;MOBILE PHONE;b WITH RIGHTWARDS ARROW AT LEFT;
     VIBRATION MODE;MOBILE PHONE OFF;NO MOBILE PHONES;ANTENNA WITH BARS;CAMERA;a WITH FLASH;
     VIDEO CAMERA;TELEVISION;RADIO;VIDEOCASSETTE;FILM PROJECTOR;PORTABLE STEREO;PRAYER BEADS;
     TWISTED RIGHTWARDS ARROWS;CLOCKWISE a AND LEFTWARDS OPEN CIRCLE ARROWS;
     g WITH CIRCLED ONE OVERLAY;a DOWNWARDS a UPWARDS c;ANTICLOCKWISE f;LOW BRIGHTNESS SYMBOL;
     HIGH b;SPEAKER WITH CANCELLATION STROKE;a;a WITH ONE SOUND WAVE;b THREE a WAVES;BATTERY;
     ELECTRIC PLUG;LEFT-POINTING MAGNIFYING GLASS;RIGHT-POINTING b;LOCK WITH INK PEN;
     CLOSED LOCK WITH KEY;KEY;LOCK;OPEN LOCK;BELL;a WITH CANCELLATION STROKE;BOOKMARK;LINK SYMBOL;
     RADIO BUTTON;BACK WITH LEFTWARDS ARROW ABOVE;END d;
     ON a EXCLAMATION MARK WITH LEFT RIGHT ARROW ABOVE;SOON a RIGHTWARDS ARROW ABOVE;
     TOP a UPWARDS b;NO ONE UNDER EIGHTEEN SYMBOL;KEYCAP TEN;INPUT SYMBOL FOR LATIN CAPITAL LETTERS;
     d SMALL a;c NUMBERS;c SYMBOLS;c LATIN LETTERS;FIRE;ELECTRIC TORCH;WRENCH;HAMMER;NUT AND BOLT;
     HOCHO;PISTOL;MICROSCOPE;TELESCOPE;CRYSTAL BALL;SIX POINTED STAR WITH MIDDLE DOT;
     JAPANESE SYMBOL FOR BEGINNER;TRIDENT EMBLEM;BLACK SQUARE BUTTON;WHITE b;LARGE RED CIRCLE;
     a BLUE a;a ORANGE DIAMOND;a BLUE a;SMALL ORANGE a;a BLUE a;UP-POINTING RED TRIANGLE;
     DOWN-POINTING b;UP-POINTING SMALL RED TRIANGLE;DOWN-POINTING c;
     LOWER RIGHT SHADOWED WHITE CIRCLE;UPPER d;CIRCLED CROSS POMMEE;
     CROSS POMMEE WITH HALF-CIRCLE BELOW;b;NOTCHED LEFT SEMICIRCLE WITH THREE DOTS;a RIGHT d;
     SYMBOL FOR MARKS CHAPTER;WHITE LATIN CROSS;HEAVY b;CELTIC CROSS;OM SYMBOL;DOVE OF PEACE;KAABA;
     MOSQUE;SYNAGOGUE;MENORAH WITH NINE BRANCHES;BOWL OF HYGIEIA;CLOCK FACE ONE OCLOCK;b TWO a;
     b THREE a;b FOUR a;b FIVE a;b SIX a;b SEVEN a;b EIGHT a;b NINE a;b TEN a;b ELEVEN a;b TWELVE a;
     b ONE-THIRTY;b TWO-THIRTY;b THREE-THIRTY;b FOUR-THIRTY;b FIVE-THIRTY;b SIX-THIRTY;
     b SEVEN-THIRTY;b EIGHT-THIRTY;b NINE-THIRTY;b TEN-THIRTY;b ELEVEN-THIRTY;b TWELVE-THIRTY;
     RIGHT SPEAKER;b WITH ONE SOUND WAVE;c THREE a WAVES;BULLHORN;a WITH SOUND WAVES;RINGING BELL;
     BOOK;CANDLE;MANTELPIECE CLOCK;BLACK SKULL AND CROSSBONES;NO PIRACY;HOLE;
     MAN IN BUSINESS SUIT LEVITATING;SLEUTH OR SPY;DARK SUNGLASSES;SPIDER;a WEB;JOYSTICK;
     MAN DANCING;LEFT HAND TELEPHONE RECEIVER;TELEPHONE RECEIVER WITH PAGE;
     RIGHT HAND TELEPHONE RECEIVER;WHITE TOUCHTONE a;BLACK b;TELEPHONE ON TOP OF MODEM;
     CLAMSHELL MOBILE PHONE;BACK OF ENVELOPE;STAMPED ENVELOPE;ENVELOPE WITH LIGHTNING;
     FLYING ENVELOPE;PEN OVER STAMPED ENVELOPE;LINKED PAPERCLIPS;BLACK PUSHPIN;LOWER LEFT PENCIL;
     b BALLPOINT PEN;b FOUNTAIN a;b PAINTBRUSH;b CRAYON;LEFT WRITING HAND;TURNED OK a SIGN;
     RAISED HAND WITH FINGERS SPLAYED;REVERSED RAISED HAND WITH FINGERS SPLAYED;a THUMBS UP SIGN;
     b DOWN a;a VICTORY HAND;a HAND WITH MIDDLE FINGER EXTENDED;
     RAISED b PART BETWEEN MIDDLE AND RING FINGERS;WHITE DOWN POINTING LEFT HAND INDEX;
     SIDEWAYS WHITE LEFT POINTING INDEX;b RIGHT b;a BLACK LEFT b;b RIGHT b;
     BLACK LEFT POINTING BACKHAND a;a RIGHT c;SIDEWAYS WHITE UP POINTING a;b DOWN b;a BLACK UP b;
     b DOWN b;BLACK UP POINTING BACKHAND a;a DOWN c;a HEART;DESKTOP COMPUTER;KEYBOARD AND MOUSE;
     THREE NETWORKED COMPUTERS;PRINTER;POCKET CALCULATOR;BLACK HARD SHELL FLOPPY DISK;WHITE d;
     SOFT SHELL FLOPPY DISK;TAPE CARTRIDGE;WIRED KEYBOARD;ONE BUTTON MOUSE;TWO b;THREE b;TRACKBALL;
     OLD PERSONAL COMPUTER;HARD DISK;SCREEN;PRINTER ICON;FAX a;OPTICAL DISC ICON;DOCUMENT WITH TEXT;
     c AND PICTURE;b PICTURE;FRAME b;b TILES;b AN X;BLACK FOLDER;FOLDER;OPEN FOLDER;
     CARD INDEX DIVIDERS;a FILE BOX;FILE CABINET;EMPTY NOTE;b PAGE;b PAD;NOTE;a PAGE;a PAD;
     EMPTY DOCUMENT;a PAGE;a PAGES;DOCUMENT;PAGE;PAGES;WASTEBASKET;SPIRAL NOTE PAD;a CALENDAR a;
     DESKTOP WINDOW;MINIMIZE;MAXIMIZE;OVERLAP;CLOCKWISE RIGHT AND LEFT SEMICIRCLE ARROWS;
     CANCELLATION X;INCREASE FONT SIZE SYMBOL;DECREASE c;COMPRESSION;OLD KEY;ROLLED-UP NEWSPAPER;
     PAGE WITH CIRCLED TEXT;STOCK CHART;DAGGER KNIFE;LIPS;SPEAKING HEAD IN SILHOUETTE;
     THREE RAYS ABOVE;b BELOW;b LEFT;b RIGHT;LEFT SPEECH BUBBLE;RIGHT b;TWO a BUBBLES;THREE b;
     LEFT THOUGHT BUBBLE;RIGHT b;LEFT ANGER a;RIGHT b;MOOD BUBBLE;LIGHTNING MOOD BUBBLE;b;
     BALLOT BOX WITH BALLOT;a SCRIPT X;a BOX WITH SCRIPT X;a BOLD SCRIPT X;a BOX WITH BOLD SCRIPT X;
     LIGHT CHECK MARK;BALLOT BOX WITH BOLD CHECK;WORLD MAP;MOUNT FUJI;TOKYO TOWER;STATUE OF LIBERTY;
     SILHOUETTE a JAPAN;MOYAI;GRINNING FACE;b WITH SMILING EYES;FACE WITH TEARS OF JOY;
     SMILING FACE WITH OPEN MOUTH;e AND SMILING EYES;f COLD SWEAT;f TIGHTLY-CLOSED EYES;c HALO;
     c HORNS;WINKING a;SMILING a WITH SMILING EYES;FACE SAVOURING DELICIOUS FOOD;RELIEVED FACE;
     SMILING a WITH HEART-SHAPED EYES;c SUNGLASSES;SMIRKING a;NEUTRAL a;EXPRESSIONLESS a;UNAMUSED a;
     FACE WITH COLD SWEAT;PENSIVE FACE;CONFUSED a;CONFOUNDED a;KISSING a;FACE THROWING A KISS;
     KISSING FACE WITH SMILING EYES;c CLOSED a;FACE WITH STUCK-OUT TONGUE;d AND WINKING EYE;
     e TIGHTLY-CLOSED EYES;DISAPPOINTED FACE;WORRIED a;ANGRY a;POUTING a;CRYING a;PERSEVERING a;
     FACE WITH LOOK OF TRIUMPH;DISAPPOINTED BUT RELIEVED FACE;FROWNING FACE WITH OPEN MOUTH;
     ANGUISHED a;FEARFUL a;WEARY a;SLEEPY a;TIRED a;GRIMACING a;LOUDLY CRYING FACE;
     FACE WITH OPEN MOUTH;HUSHED FACE;FACE WITH OPEN MOUTH AND COLD SWEAT;a SCREAMING IN FEAR;
     ASTONISHED FACE;FLUSHED a;SLEEPING a;DIZZY a;FACE WITHOUT MOUTH;a WITH MEDICAL MASK;
     GRINNING CAT FACE WITH SMILING EYES;CAT FACE WITH TEARS OF JOY;
     SMILING CAT FACE WITH OPEN MOUTH;d HEART-SHAPED EYES;CAT FACE WITH WRY SMILE;
     KISSING CAT FACE WITH CLOSED EYES;POUTING b;CRYING b;WEARY b;SLIGHTLY FROWNING a;a SMILING a;
     UPSIDE-DOWN FACE;FACE WITH ROLLING EYES;b NO GOOD GESTURE;b OK GESTURE;PERSON BOWING DEEPLY;
     SEE-NO-EVIL MONKEY;HEAR-NO-EVIL a;SPEAK-NO-EVIL a;HAPPY PERSON RAISING ONE HAND;
     PERSON RAISING BOTH HANDS IN CELEBRATION;a FROWNING;a WITH POUTING FACE;b FOLDED HANDS"),
   (0x1F680, "ROCKET;HELICOPTER;STEAM LOCOMOTIVE;RAILWAY CAR;HIGH-SPEED TRAIN;b WITH BULLET NOSE;
     TRAIN;METRO;LIGHT RAIL;STATION;TRAM;a CAR;BUS;ONCOMING BUS;TROLLEYBUS;BUS STOP;MINIBUS;
     AMBULANCE;FIRE ENGINE;POLICE CAR;ONCOMING POLICE CAR;TAXI;ONCOMING TAXI;AUTOMOBILE;
     ONCOMING AUTOMOBILE;RECREATIONAL VEHICLE;DELIVERY TRUCK;ARTICULATED LORRY;TRACTOR;MONORAIL;
     MOUNTAIN RAILWAY;SUSPENSION a;MOUNTAIN CABLEWAY;AERIAL TRAMWAY;SHIP;ROWBOAT;SPEEDBOAT;
     HORIZONTAL TRAFFIC LIGHT;VERTICAL b;CONSTRUCTION SIGN;POLICE CARS REVOLVING LIGHT;
     TRIANGULAR FLAG ON POST;DOOR;NO ENTRY SIGN;SMOKING SYMBOL;NO SMOKING SYMBOL;
     PUT LITTER IN ITS PLACE SYMBOL;DO NOT LITTER SYMBOL;POTABLE WATER SYMBOL;NON-POTABLE b;BICYCLE;
     NO BICYCLES;BICYCLIST;MOUNTAIN BICYCLIST;PEDESTRIAN;NO PEDESTRIANS;CHILDREN CROSSING;
     MENS SYMBOL;WOMENS a;RESTROOM;BABY SYMBOL;TOILET;WATER CLOSET;SHOWER;BATH;BATHTUB;
     PASSPORT CONTROL;CUSTOMS;BAGGAGE CLAIM;LEFT LUGGAGE;TRIANGLE WITH ROUNDED CORNERS;
     PROHIBITED SIGN;CIRCLED INFORMATION SOURCE;BOYS SYMBOL;GIRLS a;COUCH AND LAMP;
     SLEEPING ACCOMMODATION;SHOPPING BAGS;BELLHOP BELL;BED;PLACE OF WORSHIP;OCTAGONAL SIGN;
     SHOPPING TROLLEY;STUPA;PAGODA;HINDU TEMPLE;HUT;ELEVATOR;;;;;;PLAYGROUND SLIDE;WHEEL;RING BUOY;
     HAMMER AND WRENCH;SHIELD;OIL DRUM;MOTORWAY;RAILWAY TRACK;MOTOR BOAT;
     UP-POINTING MILITARY AIRPLANE;a AIRPLANE;a SMALL AIRPLANE;SMALL AIRPLANE;NORTHEAST-POINTING a;
     AIRPLANE DEPARTURE;a ARRIVING;;;;SATELLITE;ONCOMING FIRE ENGINE;DIESEL LOCOMOTIVE;
     PASSENGER SHIP;SCOOTER;MOTOR SCOOTER;CANOE;SLED;FLYING SAUCER;SKATEBOARD;AUTO RICKSHAW;
     PICKUP TRUCK;ROLLER SKATE"),
   (0x1F7E0, "LARGE ORANGE CIRCLE;a YELLOW a;a GREEN a;a PURPLE a;a BROWN a;a RED SQUARE;a BLUE a;
     a ORANGE a;a YELLOW a;a GREEN a;a PURPLE a;a BROWN a"),
   (0x1F90C, "PINCHED FINGERS;WHITE HEART;BROWN a;PINCHING HAND;ZIPPER-MOUTH FACE;MONEY-MOUTH a;
     FACE WITH THERMOMETER;NERD FACE;THINKING a;FACE WITH HEAD-BANDAGE;ROBOT FACE;HUGGING a;
     SIGN OF THE HORNS;CALL ME HAND;RAISED BACK OF HAND;LEFT-FACING FIST;RIGHT-FACING a;HANDSHAKE;
     HAND WITH INDEX AND MIDDLE FINGERS CROSSED;I LOVE YOU HAND SIGN;FACE WITH COWBOY HAT;
     CLOWN FACE;NAUSEATED a;ROLLING ON THE FLOOR LAUGHING;DROOLING FACE;LYING a;FACE PALM;
     SNEEZING FACE;FACE WITH ONE EYEBROW RAISED;GRINNING FACE WITH STAR EYES;
     c ONE LARGE AND ONE SMALL EYE;FACE WITH FINGER COVERING CLOSED LIPS;
     SERIOUS FACE WITH SYMBOLS COVERING MOUTH;SMILING b SMILING EYES AND HAND COVERING MOUTH;
     FACE WITH OPEN MOUTH VOMITING;SHOCKED FACE WITH EXPLODING HEAD;PREGNANT WOMAN;BREAST-FEEDING;
     PALMS UP TOGETHER;SELFIE;PRINCE;MAN IN TUXEDO;MOTHER CHRISTMAS;SHRUG;PERSON DOING CARTWHEEL;
     JUGGLING;FENCER;MODERN PENTATHLON;WRESTLERS;WATER POLO;HANDBALL;DIVING MASK;WILTED FLOWER;
     DRUM WITH DRUMSTICKS;CLINKING GLASSES;TUMBLER GLASS;SPOON;GOAL NET;RIFLE;FIRST PLACE MEDAL;
     SECOND b;THIRD b;BOXING GLOVE;MARTIAL ARTS UNIFORM;CURLING STONE;LACROSSE STICK AND BALL;
     SOFTBALL;FLYING DISC;CROISSANT;AVOCADO;CUCUMBER;BACON;POTATO;CARROT;BAGUETTE BREAD;GREEN SALAD;
     SHALLOW PAN OF FOOD;STUFFED FLATBREAD;EGG;GLASS OF MILK;PEANUTS;KIWIFRUIT;PANCAKES;DUMPLING;
     FORTUNE COOKIE;TAKEOUT BOX;CHOPSTICKS;BOWL WITH SPOON;CUP a STRAW;COCONUT;BROCCOLI;PIE;PRETZEL;
     CUT OF MEAT;SANDWICH;CANNED FOOD;LEAFY GREEN;MANGO;MOON CAKE;BAGEL;
     SMILING FACE WITH SMILING EYES AND THREE HEARTS;YAWNING a;SMILING a WITH TEAR;
     FACE WITH PARTY HORN AND PARTY HAT;b UNEVEN EYES a WAVY MOUTH;OVERHEATED FACE;FREEZING a;NINJA;
     DISGUISED FACE;FACE HOLDING BACK TEARS;a WITH PLEADING EYES;SARI;LAB COAT;GOGGLES;HIKING BOOT;
     FLAT SHOE;CRAB;LION FACE;SCORPION;TURKEY;UNICORN FACE;EAGLE;DUCK;BAT;SHARK;OWL;FOX FACE;
     BUTTERFLY;DEER;GORILLA;LIZARD;RHINOCEROS;SHRIMP;SQUID;GIRAFFE FACE;ZEBRA a;HEDGEHOG;SAUROPOD;
     T-REX;CRICKET;KANGAROO;LLAMA;PEACOCK;HIPPOPOTAMUS;PARROT;RACCOON;LOBSTER;MOSQUITO;MICROBE;
     BADGER;SWAN;MAMMOTH;DODO;SLOTH;OTTER;ORANGUTAN;SKUNK;FLAMINGO;OYSTER;BEAVER;BISON;SEAL;
     GUIDE DOG;PROBING CANE;EMOJI COMPONENT RED HAIR;b CURLY a;b BALD;b WHITE HAIR;BONE;LEG;FOOT;
     TOOTH;SUPERHERO;SUPERVILLAIN;SAFETY VEST;EAR WITH HEARING AID;MOTORIZED WHEELCHAIR;MANUAL a;
     MECHANICAL ARM;a LEG;CHEESE WEDGE;CUPCAKE;SALT SHAKER;BEVERAGE BOX;GARLIC;ONION;FALAFEL;WAFFLE;
     BUTTER;MATE DRINK;ICE CUBE;BUBBLE TEA;TROLL;STANDING PERSON;KNEELING a;DEAF a;
     FACE WITH MONOCLE;ADULT;CHILD;OLDER ADULT;BEARDED PERSON;PERSON WITH HEADSCARF;
     a IN STEAMY ROOM;a CLIMBING;a IN LOTUS POSITION;MAGE;FAIRY;VAMPIRE;MERPERSON;ELF;GENIE;ZOMBIE;
     BRAIN;ORANGE HEART;BILLED CAP;SCARF;GLOVES;COAT;SOCKS;RED GIFT ENVELOPE;FIRECRACKER;
     JIGSAW PUZZLE PIECE;TEST TUBE;PETRI DISH;DNA DOUBLE HELIX;COMPASS;ABACUS;FIRE EXTINGUISHER;
     TOOLBOX;BRICK;MAGNET;LUGGAGE;LOTION BOTTLE;SPOOL OF THREAD;BALL a YARN;SAFETY PIN;TEDDY BEAR;
     BROOM;BASKET;ROLL OF PAPER;BAR a SOAP;SPONGE;RECEIPT;NAZAR AMULET"),
   (0x1FA70, "BALLET SHOES;ONE-PIECE SWIMSUIT;BRIEFS;SHORTS;THONG SANDAL;;;;DROP OF BLOOD;
     ADHESIVE BANDAGE;STETHOSCOPE;X-RAY;CRUTCH;;;;YO-YO;KITE;PARACHUTE;BOOMERANG;MAGIC WAND;PINATA;
     NESTING DOLLS;;;;;;;;;;RINGED PLANET;CHAIR;RAZOR;AXE;DIYA LAMP;BANJO;MILITARY HELMET;ACCORDION;
     LONG DRUM;COIN;CARPENTRY SAW;SCREWDRIVER;LADDER;HOOK;MIRROR;WINDOW;PLUNGER;SEWING NEEDLE;KNOT;
     BUCKET;MOUSE TRAP;TOOTHBRUSH;HEADSTONE;PLACARD;ROCK;MIRROR BALL;IDENTIFICATION CARD;
     LOW BATTERY;HAMSA;;;;FLY;WORM;BEETLE;COCKROACH;POTTED PLANT;WOOD;FEATHER;LOTUS;CORAL;
     EMPTY NEST;NEST WITH EGGS;;;;;;ANATOMICAL HEART;LUNGS;PEOPLE HUGGING;PREGNANT MAN;a PERSON;
     PERSON WITH CROWN;;;;;;;;;;;BLUEBERRIES;BELL PEPPER;OLIVE;FLATBREAD;TAMALE;FONDUE;TEAPOT;
     POURING LIQUID;BEANS;JAR;;;;;;;MELTING FACE;SALUTING a;FACE WITH OPEN EYES AND HAND OVER MOUTH;
     b PEEKING EYE;b DIAGONAL MOUTH;DOTTED LINE FACE;BITING LIP;BUBBLES;;;;;;;;;
     HAND WITH INDEX FINGER AND THUMB CROSSED;RIGHTWARDS HAND;LEFTWARDS a;PALM DOWN HAND;a UP a;
     INDEX POINTING AT THE VIEWER;HEART HANDS")]

/-- The words of a name behind its first ones, with those that the name before has. -/
def nameWords (previous first : List Text) : List Text → List Text
  | [] => first
  | [c] :: rest =>
      if c.isLower then nameWords previous (first ++ (previous.drop first.length).take (c.toNat - 96)) rest
      else nameWords previous (first ++ [[c]]) rest
  | word :: rest => nameWords previous (first ++ [word]) rest

/-- The names of a run behind a name. -/
def namesFrom (previous : List Text) : List Text → List Text
  | [] => []
  | entry :: rest =>
      let words := nameWords previous [] (splitOn (strip entry) [' '])
      List.intercalate [' '] words :: namesFrom words rest

/-- Names that characters have beside their own. -/
def otherNames : List (String × Nat) :=
  [
   ("NULL", 0x0), ("NUL", 0x0), ("START OF HEADING", 0x1), ("SOH", 0x1), ("START OF TEXT", 0x2),
   ("STX", 0x2), ("END OF TEXT", 0x3), ("ETX", 0x3), ("END OF TRANSMISSION", 0x4), ("EOT", 0x4),
   ("ENQUIRY", 0x5), ("ENQ", 0x5), ("ACKNOWLEDGE", 0x6), ("ACK", 0x6), ("ALERT", 0x7),
   ("BEL", 0x7), ("BACKSPACE", 0x8), ("BS", 0x8), ("CHARACTER TABULATION", 0x9),
   ("HORIZONTAL TABULATION", 0x9), ("HT", 0x9), ("TAB", 0x9), ("LINE FEED", 0xA),
   ("NEW LINE", 0xA), ("END OF LINE", 0xA), ("LF", 0xA), ("NL", 0xA), ("EOL", 0xA),
   ("LINE TABULATION", 0xB), ("VERTICAL TABULATION", 0xB), ("VT", 0xB), ("FORM FEED", 0xC),
   ("FF", 0xC), ("CARRIAGE RETURN", 0xD), ("CR", 0xD), ("SHIFT OUT", 0xE),
   ("LOCKING-SHIFT ONE", 0xE), ("SO", 0xE), ("SHIFT IN", 0xF), ("LOCKING-SHIFT ZERO", 0xF),
   ("SI", 0xF), ("DATA LINK ESCAPE", 0x10), ("DLE", 0x10), ("DEVICE CONTROL ONE", 0x11),
   ("DC1", 0x11), ("DEVICE CONTROL TWO", 0x12), ("DC2", 0x12), ("DEVICE CONTROL THREE", 0x13),
   ("DC3", 0x13), ("DEVICE CONTROL FOUR", 0x14), ("DC4", 0x14), ("NEGATIVE ACKNOWLEDGE", 0x15),
   ("NAK", 0x15), ("SYNCHRONOUS IDLE", 0x16), ("SYN", 0x16), ("END OF TRANSMISSION BLOCK", 0x17),
   ("ETB", 0x17), ("CANCEL", 0x18), ("CAN", 0x18), ("END OF MEDIUM", 0x19), ("EOM", 0x19),
   ("SUBSTITUTE", 0x1A), ("SUB", 0x1A), ("ESCAPE", 0x1B), ("ESC", 0x1B),
   ("INFORMATION SEPARATOR FOUR", 0x1C), ("FILE SEPARATOR", 0x1C), ("FS", 0x1C),
   ("INFORMATION SEPARATOR THREE", 0x1D), ("GROUP SEPARATOR", 0x1D), ("GS", 0x1D),
   ("INFORMATION SEPARATOR TWO", 0x1E), ("RECORD SEPARATOR", 0x1E), ("RS", 0x1E),
   ("INFORMATION SEPARATOR ONE", 0x1F), ("UNIT SEPARATOR", 0x1F), ("US", 0x1F), ("SP", 0x20),
   ("DELETE", 0x7F), ("DEL", 0x7F), ("NBSP", 0xA0), ("SHY", 0xAD), ("CGJ", 0x34F),
   ("ZWSP", 0x200B), ("ZWNJ", 0x200C), ("ZWJ", 0x200D), ("LRM", 0x200E), ("RLM", 0x200F),
   ("LRE", 0x202A), ("RLE", 0x202B), ("PDF", 0x202C), ("LRO", 0x202D), ("RLO", 0x202E),
   ("NNBSP", 0x202F), ("MMSP", 0x205F), ("WJ", 0x2060), ("LRI", 0x2066), ("RLI", 0x2067),
   ("FSI", 0x2068), ("PDI", 0x2069), ("BOM", 0xFEFF), ("BYTE ORDER MARK", 0xFEFF),
   ("ZWNBSP", 0xFEFF), ("NEXT LINE", 0x85), ("NEL", 0x85), ("PADDING CHARACTER", 0x80),
   ("PAD", 0x80), ("HIGH OCTET PRESET", 0x81), ("HOP", 0x81), ("BREAK PERMITTED HERE", 0x82),
   ("BPH", 0x82), ("NO BREAK HERE", 0x83), ("NBH", 0x83), ("INDEX", 0x84), ("IND", 0x84),
   ("VS1", 0xFE00), ("VS15", 0xFE0E), ("VS16", 0xFE0F), ("LATIN CAPITAL LETTER GHA", 0x1A2),
   ("WEIERSTRASS ELLIPTIC FUNCTION", 0x2118), ("CONTROL SEQUENCE INTRODUCER", 0x9B),
   ("CSI", 0x9B)]

def firstSounds : List String := ["G", "GG", "N", "D", "DD", "R", "M", "B", "BB", "S", "SS", "", "J", "JJ", "C", "K", "T", "P", "H"]

def vowels : List String :=
  ["A", "AE", "YA", "YAE", "EO", "E", "YEO", "YE", "O", "WA", "WAE", "OE", "YO", "U", "WEO", "WE", "WI", "YU", "EU", "YI", "I"]

def lastSounds : List String :=
  ["", "G", "GG", "GS", "N", "NJ", "NH", "D", "L", "LG", "LM", "LB", "LS", "LT", "LP", "LH", "M", "B",
   "BS", "S", "SS", "NG", "J", "C", "K", "T", "P", "H"]

def syllable? (sounds : String) : Option Nat :=
  firstSounds.zipIdx.findSome? fun (f, i) =>
    vowels.zipIdx.findSome? fun (v, j) =>
      lastSounds.zipIdx.findSome? fun (l, k) =>
        if f ++ v ++ l = sounds then some (0xAC00 + (i * vowels.length + j) * lastSounds.length + k) else none

/-- The number that hexadecimal digits write, if they are four or five. -/
def pointOf? (t : Text) : Option Nat :=
  let value := fun (c : Char) =>
    if c.isDigit then some (c.toNat - 48)
    else if 'A' ≤ c && c ≤ 'F' then some (c.toNat - 55)
    else none
  if t.length = 4 || t.length = 5 then
    (t.mapM value).map fun ds => ds.foldl (fun n d => 16 * n + d) 0
  else none

def ideographRanges : Array (Nat × Nat) :=
  #[(0x3400, 0x4DBF), (0x4E00, 0x9FFF), (0x20000, 0x2A6DF), (0x2A700, 0x2B738), (0x2B740, 0x2B81D),
    (0x2B820, 0x2CEA1), (0x2CEB0, 0x2EBE0)]

def pointNamed? (name : String) : Option Nat :=
  (otherNames.lookup name).orElse fun _ =>
    if "CJK UNIFIED IDEOGRAPH-".isPrefixOf name then
      (pointOf? (name.toList.drop 22)).filter (inRanges ideographRanges)
    else if "HANGUL SYLLABLE ".isPrefixOf name then syllable? (String.ofList (name.toList.drop 16))
    else if name.isEmpty then none
    else nameRuns.findSome? fun (start, names) =>
      ((namesFrom [] (splitOn names.toList [';'])).zipIdx.find? fun (n, _) => n = name.toList).map fun (_, i) =>
        start + i

def charNamed? (name : Text) : Option Char :=
  (pointNamed? (String.ofList (upper name))).map Char.ofNat

end Redline.Text
