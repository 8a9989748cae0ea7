import CommandLine.Text.PairCode

/-!
# Common parts of character names

The words that are written with two characters in the tables of names, in the order of the
characters that stand for them, and the signs that the tables are written in.
-/

namespace CommandLine.Text

def commonWordLines : List String :=
  [ "WITH LETTER SMALL CAPITAL SIGN AND RIGHT LEFT TWO ONE ABOVE THREE DOUBLE FOUR DOT ARROW FIVE"
  , "MARK BLACK FINAL WHITE BELOW RIGHTWARDS TIMES SIX UP EIGHT TO LEFTWARDS PLUS SEVEN NINE MEEM"
  , "DOWN HEAVY VERTICAL HA KA MIDDLE PA OF RA SYMBOL OVER LA NA STROKE HOOK VOWEL YA MA ALEF DA"
  , "TA DIGIT SA YEH ISOLATED DOWNWARDS DOTS GA UPWARDS LOWER LOW HAH BA ZERO WEST-CREE INITIAL"
  , "LIGHT CIRCLE HALF JEEM AA TURNED SQUARE TEN II HORIZONTAL BAR AI DASIA UPPER PSILI RING HIGH"
  , "NGA LONG FACE SHA UU AU JA OPEN CA REVERSED TILDE MEDIUM CHA WA NYA KHA MAKSURA SINGLE LARGE"
  , "NUMBER OR MEDIAL INDEX THUMB THA VOCALIC LESS-THAN EQUAL GREATER-THAN INVERTED ACUTE LINE"
  , "PHA KHAH VA CIRCUMFLEX BRACKET LATIN GUNU TTA IN DDA HUNDRED CIRCLED CENTRE GRAVE STOP GHA"
  , "DHA ZA ANUSVARA NORTH BARB NOT SHORT WEST OO NNA BHA VARIA SOUTH OXIA TTHA NUN EN PE EE"
  , "DIAERESIS TWENTY FORM SSA PI FA DDHA EAST TOP RR COMBINING TRIANGLE VIRAMA HE TRIPLE TONE"
  , "OLD NO MU HARPOON MACRON COMMA TAIL NOON WAW LAM JHA THE ON DIAGONAL VISARGA TENU END FOR"
  , "SHE OE LL BREVE OMEGA HAMZA YU ANGLE ALPHA FIFTY FULL PUNCTUATION CROSSING BOTTOM AIN ASH"
  , "EQUALS IOTA TSA MODIFIER SQUARED ACCENT CLOSED ORKHON CROSS SHIN CANDRABINDU HAND-FIST"
  , "THOUSAND QUARTER UPSILON YENISEI LITTLE LLA KAF HEH SEPARATOR DIAMOND SEEN RHO PERISPOMENI"
  , "RETROFLEX QUESTION LIGATURE OPERATOR DOTTED COLON TAH QAF POINTING EPSILON THETA PHI REH GAR"
  , "BOX IGI TRIANGLE-HEADED SUPERSET SUBSET DASH CHI EXCLAMATION PARENTHESIS RAISED NUKTA HEART"
  , "BOLD FEH SAD CONSONANT STRAIGHT THIRTY HAND ZHA REVERSE SOLIDUS GLOTTAL DIGRAPH HORN TACK"
  , "STAR BENT ETA RIGHT-POINTING ASTERISK POINTED NEUTRAL SCRIPT KNIGHT CURLY DELTA GAMMA CHESS"
  , "MOUTH SIDE EYES BEH RRA MAN ARROWHEAD ALTERNATE FRACTION ROTATED EIGHTH NINETY SHEEN WAVE"
  , "TEH DAD BAD ABBREVIATION ALTERNATING HAND-HINGE SECTION OMICRON BLOCK CARON MINUS GREEK"
  , "KAPPA FORTY BETA KING CHE LEFT-POINTING INTERSECTION HAND-CIRCLE CONJOINED SYLLABLE CEDILLA"
  , "ARCHAIC SEVENTY BETWEEN SLANTED GHAIN SIXTY CURL VERY TAU MEM ANTICLOCKWISE IDEOGRAPHIC"
  , "NEGATIVE AVAGRAHA FORWARD SMILING VARIANT FINGERS SAMEKH ARABIC CORNER SIGMA GIMEL UNION"
  , "QUEEN TAK4 GISH C-SIMPLIFIED CHARACTER HITTING CANDRA EIGHTY HINGED DANDA LOOP ZAIN HEAD"
  , "BETH HETH KAPH WORD TSHA FROM MOON GAN2 DESCENDER CYRILLIC UNDERBAR DOTLESS COPTIC INSIDE"
  , "PERSON LAMEDH LAMDA ZAYIN SADHE SLASH SHELL CURVE ALEPH DISH YODH CLOCKWISE PRECEDES"
  , "SUCCEEDS LOGICAL RISING TWELVE SOUND ZETA RESH QUAD MOVEMENT-FLOORPLANE MOVEMENT-WALLPLANE"
  , "UP-POINTING HAND-ANGLE QUOTATION SEMICOLON DIALYTIKA QUARTERS ORNAMENT ARCHAION MUSICAL"
  , "Y-CREE ELEVEN BISHOP KASKAL SPACE POINT EARTH WATER WRIST YANG THEH ROOK PAWN BALL"
  , "YPOGEGRAMMENI DOUBLE-STRUCK SUPERSCRIPT SIMALUNGUN SANS-SERIF MULTIPLE KATAKANA CARRIER"
  , "EIGHTHS THROUGH HYPHEN ALMOST LENGTH TEDUNG BULLET ITALIC FATHA KASRA MURDA THIRD CHECK"
  , "DOWN-POINTING ARABIC-INDIC MAHAAPRAANA TRIANGULAR ALPAPRAANA TELEPHONE IOTIFIED INTEGRAL"
  , "TORTOISE OVERLAY ROUNDED SIXTEEN NASKAPI INSULAR OVERBAR CROSSED HANGUL VOICED BESIDE DALETH"
  , "DAMMA TSHEG LAGAB MULTIPLICATION EIGHTEEN NOTEHEAD CONTROL NUMERAL PRODUCT FIFTEEN LARGEST"
  , "OGONEK SAYISI THIRDS NORMAL CURVED SPREAD ROUND APOSTROPHE TWO-HEADED INDICATOR MAHAPRANA"
  , "SEVENTEEN DIVISION EXTENDED SIDEWAYS SUBGROUP NOTATION THIRTEEN FOURTEEN NINETEEN MOUNTAIN"
  , "PINWHEEL OPPOSING MOVEMENT PARTIAL PALATAL CHIEUCH KHIEUKH THIEUTH PHIEUPH LOZENGE SHESHIG"
  , "KRYZHEM POVYSHE BARRED ZIGZAG TONE-2 KIYEOK TIKEUT FILLER ARROWS PROSGEGRAMMENI INFORMATION"
  , "TABULATION VERTICALLY EQUIVALENT CONTAINING ITERATION AMPERSAND SUBSCRIPT QUADRUPLE"
  , "BACKSLASH EXTENSION PARALLEL JAPANESE ENVELOPE SHADOWED SVETLAYA WRINKLED SIDDHAM ELEMENT"
  , "INVERSE FALLING CROSSED-TAIL MATHEMATICAL DIFFERENTIAL JIHVAMULIYA UPADHMANIYA KLYUCHEVAYA"
  , "LENTICULAR THOUSANDS SIXTEENTH SUBJOINED ZAPYATAYA EXTREMELY FISHHOOK FATHATAN ATTACHED"
  , "CONTAINS CRESCENT MONOGRAM OUTLINED HIRAGANA THESPIAN ZAPYATOY HAND-CUP ROTATION-FLOORPLANE"
  , "ROTATION-WALLPLANE KATAKANA-HIRAGANA NEPOSTOYANNAYA CRYPTOGRAMMIC LEFT-TO-RIGHT"
  , "APPROXIMATELY BLACK-LETTER INDEPENDENT DOUBLE-LINE COMMERCIAL GEMINATION TEARDROP-SPOKED"
  , "GROMOPOVODNAYA RIGHT-TO-LEFT PARENTHESIZED TRANSMISSION PRESENTATION HYPHEN-MINUS"
  , "RIGHT-FACING CANCELLATION RIEUL-KIYEOK J-SIMPLIFIED" ]

def nameSigns : PairCode where
  asciiSigns := "!#$%&()*,.:;<>?@[]^_|~".toList
  pairs := String.toList <| String.join
    [ "/1AcANEcINkAAREREdSHOcATALENIca!IdTcUcAdTHCH/2ONkBa=XcPcbk0=EDURAM&G/3LETIUNdkakă1kCLOaĀbĀ=1/4DĂdBUO"
    , "cĀ;IbČbĂbėĆę0ćĝāaĘĉcaČĆCkęĆEĈ ĎāěĄđHđSħĂĐXċ dĀRĊēĂĚ1ěąāGbĘ8ćċcdČRāă2YĄĒFĒ1CāTĉďGMāYąĔWča" ]

end CommandLine.Text
