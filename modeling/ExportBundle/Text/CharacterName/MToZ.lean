/-! The names of characters that begin with a letter from M to Z. -/

namespace ExportBundle.Text.CharacterName

def namesMToZ : List String :=
  ["MACRON,MAGE,MAGIC WAND,MAGNET,MAHAJANI (ABBREVIATION SIGN,LETTER (A,BA,BHA,CA,CHA,DA,DDA,",
   "DDHA,DHA,E,GA,GHA,HA,I,JA,JHA,KA,KHA,LA,MA,NA,NNA,NYA,O,PA,PHA,RA,RRA,SA,TA,THA,TTA,TTHA,U,",
   "VA),LIGATURE SHRI,SECTION MARK,SIGN NUKTA),MAHJONG TILE (AUTUMN,BACK,BAMBOO,CHRYSANTHEMUM,",
   "EAST WIND,EIGHT OF (BAMBOOS,CHARACTERS,CIRCLES),FIVE OF (BAMBOOS,CHARACTERS,CIRCLES),FOUR OF ",
   "(BAMBOOS,CHARACTERS,CIRCLES),GREEN DRAGON,JOKER,NINE OF (BAMBOOS,CHARACTERS,CIRCLES),NORTH ",
   "WIND,ONE OF (BAMBOOS,CHARACTERS,CIRCLES),ORCHID,PLUM,RED DRAGON,SEVEN OF (BAMBOOS,CHARACTERS,",
   "CIRCLES),SIX OF (BAMBOOS,CHARACTERS,CIRCLES),SOUTH WIND,SPRING,SUMMER,THREE OF (BAMBOOS,",
   "CHARACTERS,CIRCLES),TWO OF (BAMBOOS,CHARACTERS,CIRCLES),WEST WIND,WHITE DRAGON,WINTER),",
   "MAKASAR (ANGKA,END OF SECTION,LETTER (A,BA,CA,DA,GA,JA,KA,LA,MA,NA,NGA,NYA,PA,RA,SA,TA,VA,YA)",
   ",PASSIMBANG,VOWEL SIGN (E,I,O,U)),MALAYALAM (AU LENGTH MARK,DATE MARK,DIGIT (EIGHT,FIVE,FOUR,",
   "NINE,ONE,SEVEN,SIX,THREE,TWO,ZERO),FRACTION (ONE (EIGHTH,FIFTH,FORTIETH,HALF,",
   "ONE-HUNDRED-AND-SIXTIETH,QUARTER,SIXTEENTH,TENTH,TWENTIETH),THREE (EIGHTIETHS,QUARTERS,",
   "SIXTEENTHS,TWENTIETHS)),LETTER (A,AA,AI,ARCHAIC II,AU,BA,BHA,CA,CHA,CHILLU (K,L,LL,LLL,M,N,",
   "NN,RR,Y),DA,DDA,DDHA,DHA,DOT REPH,E,EE,GA,GHA,HA,I,II,JA,JHA,KA,KHA,LA,LLA,LLLA,MA,NA,NGA,",
   "NNA,NNNA,NYA,O,OO,PA,PHA,RA,RRA,SA,SHA,SSA,TA,THA,TTA,TTHA,TTTA,U,UU,VA,VEDIC ANUSVARA,",
   "VOCALIC (L,LL,R,RR),YA),NUMBER (ONE (HUNDRED,THOUSAND),TEN),SIGN (ANUSVARA,AVAGRAHA,",
   "CANDRABINDU,CIRCULAR VIRAMA,COMBINING ANUSVARA ABOVE,PARA,VERTICAL BAR VIRAMA,VIRAMA,VISARGA)",
   ",VOWEL SIGN (AA,AI,AU,E,EE,I,II,O,OO,U,UU,VOCALIC (L,LL,R,RR))),MALE (AND FEMALE SIGN,SIGN,",
   "WITH STROKE (AND MALE AND FEMALE SIGN,SIGN)),MALTESE CROSS,MAMMOTH,MAN(, AND WOMAN HOLDING ",
   "HANDS, DANCING, IN (BUSINESS SUIT LEVITATING,TUXEDO), WITH (GUA PI MAO,TURBAN)),MANAT SIGN,",
   "MANDAIC (AFFRICATION MARK,GEMINATION MARK,LETTER (AB,AD,AG,AH,AIN,AK,AKSA,AL,AM,AN,AP,AQ,AR,",
   "AS,ASH,ASZ,AT,ATT,AZ,DUSHENNA,HALQA,IN,IT,KAD,USHENNA),PUNCTUATION,VOCALIZATION MARK),MANGO,",
   "MANICHAEAN (ABBREVIATION MARK (ABOVE,BELOW),LETTER (AAYIN,ALEPH,AYIN,BETH,BHETH,DALETH,",
   "DHAMEDH,FE,GHIMEL,GIMEL,HE,HETH,JAYIN,JHAYIN,KAPH,KHAPH,LAMEDH,MEM,NUN,PE,QHOPH,QOPH,RESH,",
   "SADHE,SAMEKH,SHIN,SSHIN,TAW,TETH,THAMEDH,WAW,XAPH,XOPH,YODH,ZAYIN,ZHAYIN),NUMBER (FIVE,ONE(, ",
   "HUNDRED),TEN,TWENTY),PUNCTUATION (DOT(, WITHIN DOT),DOUBLE DOT WITHIN DOT,FLEURON,LINE ",
   "FILLER,STAR,TWO DOTS),SIGN UD),MANS SHOE,MANTELPIECE CLOCK,MANUAL WHEELCHAIR,MAP SYMBOL FOR ",
   "LIGHTHOUSE,MAPLE LEAF,MARCHEN (HEAD MARK,LETTER (-A,A,BA,CA,CHA,DA,DZA,GA,HA,JA,KA,KHA,LA,MA,",
   "NA,NGA,NYA,PA,PHA,RA,SA,SHA,TA,THA,TSA,TSHA,WA,YA,ZA,ZHA),MARK SHAD,SIGN (ANUSVARA,",
   "CANDRABINDU),SUBJOINED LETTER (A,BA,CA,CHA,DA,DZA,GA,HA,JA,KA,KHA,LA,MA,NA,NGA,NYA,PA,PHA,RA,",
   "SA,SHA,TA,THA,TSA,TSHA,WA,YA,ZA,ZHA),VOWEL SIGN (AA,E,I,O,U)),MARRIAGE SYMBOL,MARTIAL ARTS ",
   "UNIFORM,MASARAM GONDI (DIGIT (EIGHT,FIVE,FOUR,NINE,ONE,SEVEN,SIX,THREE,TWO,ZERO),LETTER (A,",
   "AA,AI,AU,BA,BHA,CA,CHA,DA,DDA,DDHA,DHA,E,GA,GHA,HA,I,II,JA,JHA,JNYA,KA,KHA,KSSA,LA,LLA,MA,NA,",
   "NGA,NNA,NYA,O,PA,PHA,RA,SA,SHA,SSA,TA,THA,TRA,TTA,TTHA,U,UU,VA,YA),RA-KARA,REPHA,SIGN (",
   "ANUSVARA,CANDRA,HALANTA,NUKTA,VISARGA),VIRAMA,VOWEL SIGN (AA,AI,AU,E,I,II,O,U,UU,VOCALIC R)),",
   "MASCULINE ORDINAL INDICATOR,MASK WORK SYMBOL,MASU MARK,MATE DRINK,MATHEMATICAL (BOLD (",
   "CAPITAL (A,ALPHA,B,BETA,C,CHI,D,DELTA,DIGAMMA,E,EPSILON,ETA,F,G,GAMMA,H,I,IOTA,J,K,KAPPA,L,",
   "LAMDA,M,MU,N,NU,O,OMEGA,OMICRON,P,PHI,PI,PSI,Q,R,RHO,S,SIGMA,T,TAU,THETA(, SYMBOL),U,UPSILON,",
   "V,W,X,XI,Y,Z,ZETA),DIGIT (EIGHT,FIVE,FOUR,NINE,ONE,SEVEN,SIX,THREE,TWO,ZERO),EPSILON SYMBOL,",
   "FRAKTUR (CAPITAL (A,B,C,D,E,F,G,H,I,J,K,L,M,N,O,P,Q,R,S,T,U,V,W,X,Y,Z),SMALL (A,B,C,D,E,F,G,",
   "H,I,J,K,L,M,N,O,P,Q,R,S,T,U,V,W,X,Y,Z)),ITALIC (CAPITAL (A,ALPHA,B,BETA,C,CHI,D,DELTA,E,",
   "EPSILON,ETA,F,G,GAMMA,H,I,IOTA,J,K,KAPPA,L,LAMDA,M,MU,N,NU,O,OMEGA,OMICRON,P,PHI,PI,PSI,Q,R,",
   "RHO,S,SIGMA,T,TAU,THETA(, SYMBOL),U,UPSILON,V,W,X,XI,Y,Z,ZETA),EPSILON SYMBOL,KAPPA SYMBOL,",
   "NABLA,PARTIAL DIFFERENTIAL,PHI SYMBOL,PI SYMBOL,RHO SYMBOL,SMALL (A,ALPHA,B,BETA,C,CHI,D,",
   "DELTA,E,EPSILON,ETA,F,FINAL SIGMA,G,GAMMA,H,I,IOTA,J,K,KAPPA,L,LAMDA,M,MU,N,NU,O,OMEGA,",
   "OMICRON,P,PHI,PI,PSI,Q,R,RHO,S,SIGMA,T,TAU,THETA,U,UPSILON,V,W,X,XI,Y,Z,ZETA),THETA SYMBOL),",
   "KAPPA SYMBOL,NABLA,PARTIAL DIFFERENTIAL,PHI SYMBOL,PI SYMBOL,RHO SYMBOL,SCRIPT (CAPITAL (A,B,",
   "C,D,E,F,G,H,I,J,K,L,M,N,O,P,Q,R,S,T,U,V,W,X,Y,Z),SMALL (A,B,C,D,E,F,G,H,I,J,K,L,M,N,O,P,Q,R,",
   "S,T,U,V,W,X,Y,Z)),SMALL (A,ALPHA,B,BETA,C,CHI,D,DELTA,DIGAMMA,E,EPSILON,ETA,F,FINAL SIGMA,G,",
   "GAMMA,H,I,IOTA,J,K,KAPPA,L,LAMDA,M,MU,N,NU,O,OMEGA,OMICRON,P,PHI,PI,PSI,Q,R,RHO,S,SIGMA,T,",
   "TAU,THETA,U,UPSILON,V,W,X,XI,Y,Z,ZETA),THETA SYMBOL),DOUBLE-STRUCK (CAPITAL (A,B,D,E,F,G,I,J,",
   "K,L,M,O,S,T,U,V,W,X,Y),DIGIT (EIGHT,FIVE,FOUR,NINE,ONE,SEVEN,SIX,THREE,TWO,ZERO),SMALL (A,B,",
   "C,D,E,F,G,H,I,J,K,L,M,N,O,P,Q,R,S,T,U,V,W,X,Y,Z)),FALLING DIAGONAL,FRAKTUR (CAPITAL (A,B,D,E,",
   "F,G,J,K,L,M,N,O,P,Q,S,T,U,V,W,X,Y),SMALL (A,B,C,D,E,F,G,H,I,J,K,L,M,N,O,P,Q,R,S,T,U,V,W,X,Y,",
   "Z)),ITALIC (CAPITAL (A,ALPHA,B,BETA,C,CHI,D,DELTA,E,EPSILON,ETA,F,G,GAMMA,H,I,IOTA,J,K,KAPPA,",
   "L,LAMDA,M,MU,N,NU,O,OMEGA,OMICRON,P,PHI,PI,PSI,Q,R,RHO,S,SIGMA,T,TAU,THETA(, SYMBOL),U,",
   "UPSILON,V,W,X,XI,Y,Z,ZETA),EPSILON SYMBOL,KAPPA SYMBOL,NABLA,PARTIAL DIFFERENTIAL,PHI SYMBOL,",
   "PI SYMBOL,RHO SYMBOL,SMALL (A,ALPHA,B,BETA,C,CHI,D,DELTA,DOTLESS (I,J),E,EPSILON,ETA,F,FINAL ",
   "SIGMA,G,GAMMA,I,IOTA,J,K,KAPPA,L,LAMDA,M,MU,N,NU,O,OMEGA,OMICRON,P,PHI,PI,PSI,Q,R,RHO,S,",
   "SIGMA,T,TAU,THETA,U,UPSILON,V,W,X,XI,Y,Z,ZETA),THETA SYMBOL),LEFT (ANGLE BRACKET,DOUBLE ",
   "ANGLE BRACKET,FLATTENED PARENTHESIS,WHITE (SQUARE BRACKET,TORTOISE SHELL BRACKET)),MONOSPACE ",
   "(CAPITAL (A,B,C,D,E,F,G,H,I,J,K,L,M,N,O,P,Q,R,S,T,U,V,W,X,Y,Z),DIGIT (EIGHT,FIVE,FOUR,NINE,",
   "ONE,SEVEN,SIX,THREE,TWO,ZERO),SMALL (A,B,C,D,E,F,G,H,I,J,K,L,M,N,O,P,Q,R,S,T,U,V,W,X,Y,Z)),",
   "RIGHT (ANGLE BRACKET,DOUBLE ANGLE BRACKET,FLATTENED PARENTHESIS,WHITE (SQUARE BRACKET,",
   "TORTOISE SHELL BRACKET)),RISING DIAGONAL,SANS-SERIF (BOLD (CAPITAL (A,ALPHA,B,BETA,C,CHI,D,",
   "DELTA,E,EPSILON,ETA,F,G,GAMMA,H,I,IOTA,J,K,KAPPA,L,LAMDA,M,MU,N,NU,O,OMEGA,OMICRON,P,PHI,PI,",
   "PSI,Q,R,RHO,S,SIGMA,T,TAU,THETA(, SYMBOL),U,UPSILON,V,W,X,XI,Y,Z,ZETA),DIGIT (EIGHT,FIVE,",
   "FOUR,NINE,ONE,SEVEN,SIX,THREE,TWO,ZERO),EPSILON SYMBOL,ITALIC (CAPITAL (A,ALPHA,B,BETA,C,CHI,",
   "D,DELTA,E,EPSILON,ETA,F,G,GAMMA,H,I,IOTA,J,K,KAPPA,L,LAMDA,M,MU,N,NU,O,OMEGA,OMICRON,P,PHI,",
   "PI,PSI,Q,R,RHO,S,SIGMA,T,TAU,THETA(, SYMBOL),U,UPSILON,V,W,X,XI,Y,Z,ZETA),EPSILON SYMBOL,",
   "KAPPA SYMBOL,NABLA,PARTIAL DIFFERENTIAL,PHI SYMBOL,PI SYMBOL,RHO SYMBOL,SMALL (A,ALPHA,B,",
   "BETA,C,CHI,D,DELTA,E,EPSILON,ETA,F,FINAL SIGMA,G,GAMMA,H,I,IOTA,J,K,KAPPA,L,LAMDA,M,MU,N,NU,",
   "O,OMEGA,OMICRON,P,PHI,PI,PSI,Q,R,RHO,S,SIGMA,T,TAU,THETA,U,UPSILON,V,W,X,XI,Y,Z,ZETA),THETA ",
   "SYMBOL),KAPPA SYMBOL,NABLA,PARTIAL DIFFERENTIAL,PHI SYMBOL,PI SYMBOL,RHO SYMBOL,SMALL (A,",
   "ALPHA,B,BETA,C,CHI,D,DELTA,E,EPSILON,ETA,F,FINAL SIGMA,G,GAMMA,H,I,IOTA,J,K,KAPPA,L,LAMDA,M,",
   "MU,N,NU,O,OMEGA,OMICRON,P,PHI,PI,PSI,Q,R,RHO,S,SIGMA,T,TAU,THETA,U,UPSILON,V,W,X,XI,Y,Z,ZETA)",
   ",THETA SYMBOL),CAPITAL (A,B,C,D,E,F,G,H,I,J,K,L,M,N,O,P,Q,R,S,T,U,V,W,X,Y,Z),DIGIT (EIGHT,",
   "FIVE,FOUR,NINE,ONE,SEVEN,SIX,THREE,TWO,ZERO),ITALIC (CAPITAL (A,B,C,D,E,F,G,H,I,J,K,L,M,N,O,",
   "P,Q,R,S,T,U,V,W,X,Y,Z),SMALL (A,B,C,D,E,F,G,H,I,J,K,L,M,N,O,P,Q,R,S,T,U,V,W,X,Y,Z)),SMALL (A,",
   "B,C,D,E,F,G,H,I,J,K,L,M,N,O,P,Q,R,S,T,U,V,W,X,Y,Z)),SCRIPT (CAPITAL (A,C,D,G,J,K,N,O,P,Q,S,T,",
   "U,V,W,X,Y,Z),SMALL (A,B,C,D,F,H,I,J,K,L,M,N,P,Q,R,S,T,U,V,W,X,Y,Z))),MAXIMIZE,MAYAN NUMERAL (",
   "EIGHT,EIGHTEEN,ELEVEN,FIFTEEN,FIVE,FOUR,FOURTEEN,NINE,NINETEEN,ONE,SEVEN,SEVENTEEN,SIX,",
   "SIXTEEN,TEN,THIRTEEN,THREE,TWELVE,TWO,ZERO),MEASURED (ANGLE(, OPENING LEFT, WITH OPEN ARM ",
   "ENDING IN ARROW POINTING (DOWN AND (LEFT,RIGHT),LEFT AND (DOWN,UP),RIGHT AND (DOWN,UP),UP ",
   "AND (LEFT,RIGHT))),BY,RIGHT ANGLE WITH DOT),MEAT ON BONE,MECHANICAL (ARM,LEG),MEDEFAIDRIN (",
   "CAPITAL LETTER (A,AI,ATIU,B,C,D,E,F,G,H,HP,I,J,K,KP,L,M,N,NG,NY,O,OE,P,Q,R,S,T,U,V,W,X,Y,YU,",
   "Z),COMMA,DIGIT (EIGHT,FIVE,FOUR,NINE,ONE(, ALTERNATE FORM),SEVEN,SIX,THREE(, ALTERNATE FORM),",
   "TWO(, ALTERNATE FORM),ZERO),EXCLAMATION OH,FULL STOP,NUMBER (EIGHTEEN,ELEVEN,FIFTEEN,",
   "FOURTEEN,NINETEEN,SEVENTEEN,SIXTEEN,TEN,THIRTEEN,TWELVE),SMALL LETTER (A,AI,ATIU,B,C,D,E,F,G,",
   "H,HP,I,J,K,KP,L,M,N,NG,NY,O,OE,P,Q,R,S,T,U,V,W,X,Y,YU,Z),SYMBOL AIVA),MEDIEVAL (COMMA,",
   "EXCLAMATION MARK,QUESTION MARK),MEDIUM (BLACK CIRCLE,BOLD WHITE CIRCLE,EIGHT (POINTED BLACK ",
   "STAR,SPOKED ASTERISK),FIVE SPOKED ASTERISK,FLATTENED (LEFT PARENTHESIS ORNAMENT,RIGHT ",
   "PARENTHESIS ORNAMENT),FOUR POINTED (BLACK STAR,PINWHEEL STAR),GREEK CROSS,LEFT (CURLY ",
   "BRACKET ORNAMENT,PARENTHESIS ORNAMENT),LEFT-POINTING ANGLE BRACKET ORNAMENT,MATHEMATICAL ",
   "SPACE,RIGHT (CURLY BRACKET ORNAMENT,PARENTHESIS ORNAMENT),RIGHT-POINTING ANGLE BRACKET ",
   "ORNAMENT,SALTIRE,SHADE,SIX (POINTED BLACK STAR,SPOKED ASTERISK),SMALL WHITE CIRCLE,THREE ",
   "POINTED (BLACK STAR,PINWHEEL STAR),VERTICAL BAR,WHITE (CIRCLE,SQUARE)),MEETEI MAYEK (AHANG ",
   "KHUDAM,ANJI,APUN IYEK,CHEIKHAN,CHEIKHEI,DIGIT (EIGHT,FIVE,FOUR,NINE,ONE,SEVEN,SIX,THREE,TWO,",
   "ZERO),LETTER (ATIYA,BA,BHAM,CHA,CHIL,DDA,DDHA,DHOU,DIL,E,GHOU,GOK,HUK,I(, LONSUM),JHAM,JIL,",
   "KHOU,KOK(, LONSUM),LAI(, LONSUM),MIT(, LONSUM),NA(, LONSUM),NGOU(, LONSUM),NNA,NYA,O,PA(, ",
   "LONSUM),PHAM,RAI,SAM,SHA,SSA,THOU,TIL(, LONSUM),TTA,TTHA,UN,WAI,YANG),LUM IYEK,SYLLABLE ",
   "REPETITION MARK,VIRAMA,VOWEL SIGN (AAI,AAU,ANAP,AU,CHEINAP,II,INAP,NUNG,ONAP,SOUNAP,UNAP,UU,",
   "VISARGA,YENAP),WORD REPETITION MARK),MELON,MELTING FACE,MEMO,MENDE KIKAKUI (COMBINING NUMBER ",
   "(HUNDRED THOUSANDS,HUNDREDS,MILLIONS,TEENS,TEN THOUSANDS,TENS,THOUSANDS),DIGIT (EIGHT,FIVE,",
   "FOUR,NINE,ONE,SEVEN,SIX,THREE,TWO),SYLLABLE (M001 KI,M002 KA,M003 KU,M004 WI,M005 WA,M006 WU,",
   "M007 MIN,M008 MAN,M009 MUN,M010 BI,M011 BA,M012 BU,M013 I,M014 A,M015 U,M016 DI,M017 DA,M018 ",
   "DU,M019 SI,M020 SA,M021 SU,M022 TI,M023 TA,M024 TU,M025 LI,M026 LA,M027 LU,M028 JI,M029 JA,",
   "M030 JU,M031 YI,M032 YA,M033 YU,M034 FI,M035 FA,M036 FU,M037 NIN,M038 NAN,M039 NUN,M040 HEE,",
   "M041 HA,M042 HOO,M043 NGGA,M044 KPEE,M045 WO,M046 HUAN,M047 MBEE,M048 KO,M049 WVA,M050 PU,",
   "M051 PE,M052 HEN,M053 HIN,M054 LOO,M055 TE,M056 GBA,M057 NGON,M058 NYAN,M059 MEN,M060 NYON,",
   "M061 WVI,M062 MBA,M063 JO,M064 NDO,M065 KEE,M066 PO,M067 NDOO,M068 PI,M069 TO,M070 GBO,M071 ",
   "GBOO,M072 MBE,M073 LE,M074 KPU,M075 FE,M076 KOO,M077 VO,M078 FEE,M079 SO,M080 YE,M081 PEE,",
   "M082 NGGU,M083 HEEI,M084 LEE,M085 VE,M086 LONG NGGE,M087 HUN,M088 FO,M089 DEE,M090 NGGI,M091 ",
   "TEE,M092 KPA,M093 GBEE,M094 MON,M095 KE,M096 HE,M097 BE,M098 NYEN,M099 PA,M100 E,M101 FAN,",
   "M102 POO,M103 BOO,M104 TOO,M105 LONG MBOO,M106 LONG NGGOO,M107 GBE,M108 KPE,M109 YEE,M110 ",
   "LONG LE,M111 GA,M112 KPOO,M113 JE,M114 WOO,M115 NGGEE,M116 SE,M117 NEN,M118 WE,M119 NDE,M120 ",
   "NGGO,M121 YO,M122 MBU,M123 NDI,M124 GBI,M125 NDU,M126 WEE,M127 NGGUA,M128 HOOU,M129 NDA,M130 ",
   "HAN,M131 IN,M132 KPI,M133 FOO,M134 NJOO,M135 IN,M136 SOO,M137 EI,M138 BO,M139 WVE,M140 HO,",
   "M141 YOO,M142 LONG MBO,M143 WEI,M144 VOO,M145 MBI,M146 NGGE,M147 O,M148 GBU,M149 NJEE,M150 ",
   "BEE,M151 VU,M152 NJA,M153 LO,M154 MUAN,M155 GI,M156 NGGOO,M157 JEE,M158 KPO,M159 NGGAA,M160 ",
   "JOO,M161 LONG MBE,M162 SEE,M163 EE,M164 NYIN,M165 OO,M166 GUEI,M167 GUAN,M168 GU,M169 NON,",
   "M170 NYUN,M171 RA,M172 MBOO,M173 VEE,M174 MBO,M175 LONG JO,M176 HI,M177 NGUAN,M178 EN,M179 ",
   "KUA,M180 DOO,M181 DO,M182 VI,M183 LONG NGGO,M184 NGEN,M185 VA,M186 HU,M187 MBUU,M188 MBEE,",
   "M189 MUEN,M190 GEE,M191 NDEE,M192 NJU,M193 HON,M194 WUI,M195 AN,M196 SIA,M197 FUA)),MENORAH ",
   "WITH NINE BRANCHES,MENS SYMBOL,MERCURY,MEROITIC (CURSIVE (FRACTION (EIGHT TWELFTHS,ELEVEN ",
   "TWELFTHS,FIVE TWELFTHS,FOUR TWELFTHS,NINE TWELFTHS,ONE (HALF,TWELFTH),SEVEN TWELFTHS,SIX ",
   "TWELFTHS,TEN TWELFTHS,THREE TWELFTHS,TWO TWELFTHS),LETTER (A,ARCHAIC SA,BA,DA,E,HHA,I,KA,KHA,",
   "LA,MA,NA,NE,O,PA,QA,RA,SA,SE,TA,TE,TO,WA,YA),LOGOGRAM (IMN,RMT),NUMBER (EIGHT(, HUNDRED(, ",
   "THOUSAND), THOUSAND),EIGHTY THOUSAND,FIFTY(, THOUSAND),FIVE(, HUNDRED(, THOUSAND), THOUSAND),",
   "FORTY(, THOUSAND),FOUR(, HUNDRED(, THOUSAND), THOUSAND),NINE(, HUNDRED(, THOUSAND), THOUSAND)",
   ",NINETY THOUSAND,ONE(, HUNDRED(, THOUSAND), THOUSAND),SEVEN(, HUNDRED(, THOUSAND), THOUSAND),",
   "SEVENTY(, THOUSAND),SIX(, HUNDRED(, THOUSAND), THOUSAND),SIXTY(, THOUSAND),TEN(, THOUSAND),",
   "THIRTY(, THOUSAND),THREE(, HUNDRED(, THOUSAND), THOUSAND),TWENTY(, THOUSAND),TWO(, HUNDRED(, ",
   "THOUSAND), THOUSAND))),HIEROGLYPHIC (LETTER (A,BA,BA-2,DA,E,HHA,I,KA,KHA,LA,MA,NA,NA-2,NE,",
   "NE-2,O,PA,QA,RA,RA-2,SA,SA-2,SE,TA,TA-2,TE,TE-2,TO,WA,YA),SYMBOL (VIDJ,VIDJ-2))),MERPERSON,",
   "MESSAGE WAITING,METRICAL (BREVE,LONG OVER (SHORT,TWO SHORTS),PENTASEME,SHORT OVER LONG,",
   "TETRASEME,TRISEME,TWO SHORTS (JOINED,OVER LONG)),METRO,MIAO (LETTER (AH,ARCHAIC (MA,NA,NGA,",
   "ZZA),BA,BRI,DA,DDA,DLHA,DLHYA,DZA,DZHA,DZYI,DZZA,FA,GA,GHA,GHHA,HA,HHA,KA,LA,LHA,LHYA,LYA,MA,",
   "MHA,NA,NASALIZATION,NGA,NGHA,NHA,NNA,NNHA,NYA,NYHA,PA,PLA,QA,QGA,REFORMED (TONE-1,TONE-2,",
   "TONE-4,TONE-5,TONE-6,TONE-8,TSHA),RTE,SA,SHA,SSA,SYI,TA,TE,TLHA,TLHYA,TONE-2,TONE-3,TONE-4,",
   "TONE-5,TONE-6,TONE-7,TONE-8,TSA,TSE,TSHA,TSSA,TTA,VA,VFA,WA,XA,YI (DZHA,KA,NNA,PA,TA,TSA,",
   "TSHA,TTA),ZA,ZHA,ZSA,ZSHA,ZZA,ZZSA,ZZSYA,ZZYA),SIGN (ASPIRATION,CONSONANT MODIFIER BAR,",
   "REFORMED (ASPIRATION,VOICING)),TONE (ABOVE,BELOW,RIGHT,TOP RIGHT),VOWEL SIGN (A,AA,AE,AEE,",
   "AHH,AI,AN,ANG,AU,E,EA,EI,EN,ENG,ER,ERR,I,IA,IAN,IANG,IE,IG,II,ING,IO,IONG,IU,N,NG,O,OER,OEY,",
   "OG,OO,OU,ROUNDED (ER,ERR),U,UA,UAN,UANG,UEI,UI,UNG,UOG,UU,VW,W,WO,Y,YI,YUI)),MICR (DASH ",
   "SYMBOL,ON US SYMBOL),MICRO SIGN,MICROBE,MICROPHONE,MICROSCOPE,MIDDLE (DOT,THIRD WHITE RIGHT ",
   "POINTING INDEX),MIDLINE HORIZONTAL ELLIPSIS,MILITARY (HELMET,MEDAL),MILKY WAY,MILL SIGN,",
   "MINIBUS,MINIDISC,MINIMIZE,MINUS (SIGN(, IN TRIANGLE, WITH (COMMA ABOVE,DOT BELOW,FALLING ",
   "DOTS,RISING DOTS)),TILDE),MINUS-OR-PLUS SIGN,MINY,MIRROR(, BALL),MMSP,MOBILE PHONE(, OFF, ",
   "WITH RIGHTWARDS ARROW AT LEFT),MODELS,MODERN PENTATHLON,MODI (ABBREVIATION SIGN,DANDA,DIGIT (",
   "EIGHT,FIVE,FOUR,NINE,ONE,SEVEN,SIX,THREE,TWO,ZERO),DOUBLE DANDA,LETTER (A,AA,AI,AU,BA,BHA,CA,",
   "CHA,DA,DDA,DDHA,DHA,E,GA,GHA,HA,I,II,JA,JHA,KA,KHA,LA,LLA,MA,NA,NGA,NNA,NYA,O,PA,PHA,RA,SA,",
   "SHA,SSA,TA,THA,TTA,TTHA,U,UU,VA,VOCALIC (L,LL,R,RR),YA),SIGN (ANUSVARA,ARDHACANDRA,HUVA,",
   "VIRAMA,VISARGA),VOWEL SIGN (AA,AI,AU,E,I,II,O,U,UU,VOCALIC (L,LL,R,RR))),MODIFIER (BREVE ",
   "WITH INVERTED BREVE,LETTER (ACUTE ACCENT,ALVEOLAR CLICK,APOSTROPHE,BEGIN (HIGH TONE,LOW TONE)",
   ",BILABIAL CLICK,CAPITAL (A,AE,B,BARRED B,C,D,E,F,G,H(, WITH STROKE),I,J,K,L,M,N,O,OU,P,Q,R,",
   "REVERSED (E,N),T,U,V,W),CENTRED (LEFT HALF RING,RIGHT HALF RING),CHINESE TONE (YANG (PING,QU,",
   "RU,SHANG),YIN (PING,QU,RU,SHANG)),CIRCUMFLEX ACCENT,COLON,CROSS ACCENT,CYRILLIC (EN,HARD ",
   "SIGN,SOFT SIGN),DENTAL CLICK,DOT (HORIZONTAL BAR,SLASH,VERTICAL BAR),DOUBLE (APOSTROPHE,",
   "PRIME),DOWN (ARROWHEAD,TACK),END (HIGH TONE,LOW TONE),EXTRA-HIGH (DOTTED (LEFT-STEM TONE BAR,",
   "TONE BAR),LEFT-STEM TONE BAR,TONE BAR),EXTRA-LOW (DOTTED (LEFT-STEM TONE BAR,TONE BAR),",
   "LEFT-STEM TONE BAR,TONE BAR),GEORGIAN NAR,GLOTTAL STOP(, WITH STROKE),GRAVE ACCENT,HALF ",
   "TRIANGULAR COLON,HIGH (DOTTED (LEFT-STEM TONE BAR,TONE BAR),LEFT-STEM TONE BAR,TONE BAR),",
   "LATERAL CLICK,LEFT (ARROWHEAD,HALF RING,TACK),LOW (ACUTE ACCENT,CIRCUMFLEX ACCENT,DOTTED (",
   "LEFT-STEM TONE BAR,TONE BAR),DOWN ARROWHEAD,GRAVE ACCENT,INVERTED EXCLAMATION MARK,LEFT (",
   "ARROW,ARROWHEAD),LEFT-STEM TONE BAR,MACRON,RIGHT ARROWHEAD,RING,TILDE,TONE BAR,UP ARROWHEAD,",
   "VERTICAL LINE),LOWER RIGHT CORNER ANGLE,MACRON,MID (DOTTED (LEFT-STEM TONE BAR,TONE BAR),",
   "LEFT-STEM TONE BAR,TONE BAR),MIDDLE (DOUBLE (ACUTE ACCENT,GRAVE ACCENT),GRAVE ACCENT),MINUS ",
   "SIGN,OPEN SHELF,PLUS SIGN,PRIME,RAISED (COLON,DOWN ARROW,EXCLAMATION MARK,INVERTED ",
   "EXCLAMATION MARK,UP ARROW),RETROFLEX CLICK WITH RETROFLEX HOOK,REVERSED (COMMA,GLOTTAL STOP(,",
   " WITH STROKE)),RHOTIC HOOK,RIGHT (ARROWHEAD,HALF RING,TACK),SHELF,SHORT EQUALS SIGN,SMALL (A,",
   "AE,AIN,ALPHA,B(, WITH HOOK),BARRED O,BETA,BOTTOM HALF O,C(, WITH CURL),CAPITAL (AA,B,G(, ",
   "WITH HOOK),H,I(, WITH STROKE),INVERTED R,L(, WITH BELT),N,OE,R,U,Y),CHI,CLOSED (OMEGA,",
   "REVERSED OPEN E),D(, WITH (HOOK(, AND TAIL),TAIL)),DELTA,DEZH DIGRAPH,DOTLESS J WITH STROKE(,",
   " AND HOOK),DZ DIGRAPH(, WITH (CURL,RETROFLEX HOOK)),E,ENG,ESH,ETH,EZH,F,FENG DIGRAPH,G(, ",
   "WITH HOOK),GAMMA,GREEK (GAMMA,PHI),H(, WITH (HOOK,STROKE)),HENG(, WITH HOOK),I WITH STROKE,",
   "IOTA,J(, WITH CROSSED-TAIL),K,L(, WITH (BELT,INVERTED LAZY S,MIDDLE TILDE,PALATAL HOOK,",
   "RETROFLEX HOOK(, AND BELT))),LEZH(, WITH RETROFLEX HOOK),LIGATURE OE,LS DIGRAPH,LZ DIGRAPH,M(",
   ", WITH HOOK),N WITH (LEFT HOOK,RETROFLEX HOOK),O(, WITH STROKE),OPEN (E,O),P,PHI,Q,R(, WITH (",
   "FISHHOOK,TAIL)),RAMS HORN,REVERSED (E,GLOTTAL STOP,OPEN E),S(, WITH (CURL,HOOK)),SCHWA,",
   "SCRIPT G,SIDEWAYS U,T(, WITH (PALATAL HOOK,RETROFLEX HOOK)),TC DIGRAPH WITH CURL,TESH ",
   "DIGRAPH,THETA,TOP HALF O,TS DIGRAPH(, WITH RETROFLEX HOOK),TURNED (A,AE,ALPHA,H,I,M(, WITH ",
   "LONG LEG),OPEN E,R(, WITH (HOOK,LONG LEG(, AND RETROFLEX HOOK))),V,W,Y(, WITH BELT)),U(, BAR,",
   " WITH LEFT HOOK),UPSILON,V(, WITH (HOOK,RIGHT HOOK)),W,X,Y,Z(, WITH (CURL,RETROFLEX HOOK))),",
   "STRESS AND (HIGH TONE,LOW TONE),SUPERSCRIPT (HALF TRIANGULAR COLON,TRIANGULAR COLON),",
   "TRIANGULAR COLON,TURNED COMMA,UNASPIRATED,UP (ARROWHEAD,TACK),US,VERTICAL LINE,VOICING,YANG ",
   "DEPARTING TONE MARK,YIN DEPARTING TONE MARK)),MODULO TWO SUM,MONEY (BAG,WITH WINGS),",
   "MONEY-MOUTH FACE,MONGOLIAN (BIRGA(, WITH (DOUBLE ORNAMENT,ORNAMENT)),COLON,COMMA,DIGIT (",
   "EIGHT,FIVE,FOUR,NINE,ONE,SEVEN,SIX,THREE,TWO,ZERO),DOUBLE BIRGA WITH ORNAMENT,ELLIPSIS,FOUR ",
   "DOTS,FREE VARIATION SELECTOR (FOUR,ONE,THREE,TWO),FULL STOP,INVERTED BIRGA(, WITH DOUBLE ",
   "ORNAMENT),LETTER (A,ALI GALI (A,AH,ANUSVARA ONE,BALUDA,CA,DA,DAGALGA,DAMARU,DDA,HALF (U,YA),",
   "I,INVERTED UBADAMA,KA,NGA,NNA,PA,PHA,SSA,TA,THREE BALUDA,TTA,TTHA,UBADAMA,VISARGA ONE,ZA,ZHA)",
   ",ANG,BA,CHA(, WITH TWO DOTS),CHI,DA,E,EE,FA,GA,HAA,I,JA,KA,KHA,LA,LHA,MA,MANCHU (ALI GALI (",
   "BHA,CA,CYA,DDHA,DHA,GHA,JHA,LHA,NGA,SSA,TA,TTA,ZA,ZHA),FA,I,KA,RA,ZHA),NA,O,OE,PA,QA,RA,SA,",
   "SHA,SIBE (ANG,CHA,DA,E,FA,GA,GAA,HA,HAA,I,IY,JA,KA,PA,RAA,SHA,TA,TSA,U,UE,ZA,ZHA),TA,TODO (",
   "ALI GALI (TA,ZHA),ANG,BA,CHA,DA,DZA,E,GA,GAA,HAA,I,JA,JIA,KA,LONG VOWEL SIGN,MA,NIA,O,OE,PA,",
   "QA,TA,TSA,U,UE,WA,YA),TSA,U,UE,WA,YA,ZA,ZHI,ZRA),MANCHU (COMMA,FULL STOP),NIRUGU,ROTATED ",
   "BIRGA(, WITH (DOUBLE ORNAMENT,ORNAMENT)),SIBE SYLLABLE BOUNDARY MARKER,SWIRL BIRGA(, WITH (",
   "DOUBLE ORNAMENT,ORNAMENT)),TODO SOFT HYPHEN,TRIPLE BIRGA WITH ORNAMENT,TURNED SWIRL BIRGA ",
   "WITH DOUBLE ORNAMENT,VOWEL SEPARATOR),MONKEY(, FACE),MONOGRAM FOR (EARTH,YANG,YIN),MONORAIL,",
   "MONOSTABLE SYMBOL,MOOD BUBBLE,MOON (CAKE,VIEWING CEREMONY),MOSQUE,MOSQUITO,MOTHER CHRISTMAS,",
   "MOTOR (BOAT,SCOOTER),MOTORIZED WHEELCHAIR,MOTORWAY,MOUNT FUJI,MOUNTAIN(, BICYCLIST, CABLEWAY,",
   " RAILWAY),MOUSE(, FACE, TRAP),MOUTH,MOVIE CAMERA,MOYAI,MRO (DANDA,DIGIT (EIGHT,FIVE,FOUR,",
   "NINE,ONE,SEVEN,SIX,THREE,TWO,ZERO),DOUBLE DANDA,LETTER (A,BA,CHU,DA,DAI,E,EA,HAI,HAO,KEAAE,",
   "KHAI,KO,LA,LAN,MAEM,MIM,NGI,NIN,O,OL,OO,PA,PHI,RI,RO,SHI,TA,TEK,THEA,WA,YO)),MUCH (",
   "GREATER-THAN,LESS-THAN),MULTANI (LETTER (A,BA,BHA,CA,CHA,DA,DDA,DDDA,DDHA,DHA,E,GA,GHA,HA,I,",
   "JA,JJA,KA,KHA,LA,MA,NA,NNA,NYA,PA,PHA,RA,RHA,RRA,SA,TA,THA,TTA,TTHA,U,VA,YA),SECTION MARK),",
   "MULTIMAP,MULTIPLE MUSICAL NOTES,MULTIPLICATION (SIGN(, IN (DOUBLE CIRCLE,LEFT HALF CIRCLE,",
   "RIGHT HALF CIRCLE,TRIANGLE), WITH (DOT ABOVE,UNDERBAR)),X),MULTISET(, MULTIPLICATION, UNION),",
   "MUSHROOM,MUSIC (FLAT SIGN,NATURAL SIGN,SHARP SIGN),MUSICAL (KEYBOARD(, WITH JACKS),NOTE,",
   "SCORE,SYMBOL (ARPEGGIATO (DOWN,UP),BEGIN (BEAM,PHRASE,SLUR,TIE),BRACE,BRACKET,BREATH MARK,",
   "BREVE,BREVIS(, REST),C CLEF,CAESURA,CIRCLE X NOTEHEAD,CLIMACUS,CLIVIS,CLUSTER NOTEHEAD (",
   "BLACK,WHITE),CODA,COMBINING (ACCENT,ACCENT-STACCATO,AUGMENTATION DOT,BEND,DOIT,DOUBLE TONGUE,",
   "DOWN BOW,FLAG-1,FLAG-2,FLAG-3,FLAG-4,FLAG-5,FLIP,HARMONIC,LOURE,MARCATO,MARCATO-STACCATO,RIP,",
   "SMEAR,SNAP PIZZICATO,SPRECHGESANG STEM,STACCATISSIMO,STACCATO,STEM,TENUTO,TREMOLO-1,",
   "TREMOLO-2,TREMOLO-3,TRIPLE TONGUE,UP BOW),COMMON TIME,CRESCENDO,CROIX,CUT TIME,DA CAPO,DAL ",
   "SEGNO,DAMP(, ALL),DASHED BARLINE,DECRESCENDO,DEGREE SLASH,DOUBLE (BARLINE,FLAT,SHARP),DRUM (",
   "CLEF-1,CLEF-2),EIGHTH (NOTE,REST),END (BEAM,OF STIMME,PHRASE,SLUR,TIE),F CLEF(, OTTAVA (ALTA,",
   "BASSA)),FERMATA(, BELOW),FINAL BARLINE,FINGERED (TREMOLO-1,TREMOLO-2,TREMOLO-3),FIVE-LINE ",
   "STAFF,FLAT (DOWN,UP),FORTE,FOUR-LINE STAFF,FOUR-STRING FRETBOARD,FUSA (BLACK,WHITE),G CLEF(, ",
   "OTTAVA (ALTA,BASSA)),GLISSANDO (DOWN,UP),GRACE NOTE (NO SLASH,SLASH),GREGORIAN (C CLEF,F ",
   "CLEF),HALF (NOTE,PEDAL MARK,REST),HAUPTSTIMME,INVERTED TURN,KIEVAN (C CLEF,EIGHTH NOTE STEM (",
   "DOWN,UP),END OF PIECE,FINAL NOTE,FLAT SIGN,HALF NOTE,QUARTER NOTE STEM (DOWN,UP),RECITATIVE ",
   "MARK,WHOLE NOTE),KORON,LEFT REPEAT SIGN,LONGA(, IMPERFECTA REST, PERFECTA REST),MAXIMA,MEZZO,",
   "MINIMA(, BLACK, REST),MOON NOTEHEAD (BLACK,WHITE),MULTI REST,MULTIPLE MEASURE REST,NATURAL (",
   "DOWN,UP),NEBENSTIMME,NOTEHEAD BLACK,NULL NOTEHEAD,ONE HUNDRED TWENTY-EIGHTH (NOTE,REST),",
   "ONE-LINE STAFF,ORNAMENT (STROKE-1,STROKE-10,STROKE-11,STROKE-2,STROKE-3,STROKE-4,STROKE-5,",
   "STROKE-6,STROKE-7,STROKE-8,STROKE-9),OTTAVA (ALTA,BASSA),PARENTHESIS NOTEHEAD,PEDAL (MARK,UP ",
   "MARK),PES SUBPUNCTIS,PIANO,PLUS NOTEHEAD,PODATUS,PORRECTUS(, FLEXUS),QUARTER (NOTE,REST,TONE ",
   "(FLAT,SHARP)),QUINDICESIMA (ALTA,BASSA),REPEAT DOTS,REPEATED (FIGURE-1,FIGURE-2,FIGURE-3),",
   "REVERSE FINAL BARLINE,RIGHT REPEAT SIGN,RINFORZANDO,SCANDICUS(, FLEXUS),SEGNO,SEMIBREVIS (",
   "BLACK,REST,WHITE),SEMIMINIMA (BLACK,REST,WHITE),SHARP (DOWN,UP),SHORT BARLINE,SINGLE BARLINE,",
   "SIX-LINE STAFF,SIX-STRING FRETBOARD,SIXTEENTH (NOTE,REST),SIXTY-FOURTH (NOTE,REST),SORI,",
   "SQUARE (B,NOTEHEAD (BLACK,WHITE)),SUBITO,TEMPUS (IMPERFECTUM CUM PROLATIONE (IMPERFECTA(, ",
   "DIMINUTION-1, DIMINUTION-2, DIMINUTION-3),PERFECTA),PERFECTUM CUM PROLATIONE (IMPERFECTA,",
   "PERFECTA(, DIMINUTION-1))),THIRTY-SECOND (NOTE,REST),THREE-LINE STAFF,TORCULUS(, RESUPINUS),",
   "TR,TRIANGLE NOTEHEAD (DOWN (BLACK,WHITE),LEFT (BLACK,WHITE),RIGHT (BLACK,WHITE),UP (BLACK,",
   "RIGHT (BLACK,WHITE),WHITE)),TRIANGLE-ROUND NOTEHEAD DOWN (BLACK,WHITE),TURN(, SLASH, UP),",
   "TWO-LINE STAFF,VIRGA,VOID NOTEHEAD,WHOLE (NOTE,REST),WITH FINGERNAILS,X NOTEHEAD,Z)),MVS,MW,",
   "MYANMAR (CONSONANT SIGN (MEDIAL (HA,RA,WA,YA),MON MEDIAL (LA,MA,NA),SHAN MEDIAL WA),DIGIT (",
   "EIGHT,FIVE,FOUR,NINE,ONE,SEVEN,SIX,THREE,TWO,ZERO),LETTER (A,AITON RA,AU,BA,BHA,CA,CHA,DA,",
   "DDA,DDHA,DHA,E,EASTERN PWO KAREN (GHWA,NNA,YWA),GA,GHA,GREAT SA,HA,I,II,JA,JHA,KA,KHA,KHAMTI ",
   "(CA,CHA,DDA,DDHA,DHA,FA,GA,HA,HHA,JA,JHA,LLA,NA,NYA,RA,SA,TTA,TTHA,XA,ZA),LA,LLA,MA,MON (BBA,",
   "BBE,E,JHA,NGA),NA,NGA,NNA,NNYA,NYA,O,PA,PHA,RA,RUMAI PALAUNG FA,SA,SGAW KAREN SHA,SHA,SHAN (",
   "A,BA,BHA,CA,CHA,DA,FA,GA,GHA,HA,JHA,KA,KHA,NA,NNA,NYA,PHA,THA,ZA),SHWE PALAUNG (CHA,SHA),SSA,",
   "TA,TAI LAING (BA,BHA,DA,DDA,DDHA,DHA,FA,GA,GHA,JA,JHA,LLA,NNA,NYA),THA,TTA,TTHA,U,UU,VOCALIC ",
   "(L,LL,R,RR),WA,WESTERN PWO KAREN (PWA,THA),YA),LOGOGRAM KHAMTI (HM,OAY,QN),MODIFIER LETTER (",
   "KHAMTI REDUPLICATION,SHAN REDUPLICATION),SHAN DIGIT (EIGHT,FIVE,FOUR,NINE,ONE,SEVEN,SIX,",
   "THREE,TWO,ZERO),SIGN (ANUSVARA,ASAT,DOT BELOW,KHAMTI (TONE-1,TONE-3),LITTLE SECTION,PAO ",
   "KAREN TONE,RUMAI PALAUNG TONE-5,SECTION,SHAN (COUNCIL (EMPHATIC TONE,TONE-2,TONE-3),SAW,",
   "TONE-2,TONE-3,TONE-5,TONE-6),TAI LAING (TONE-2,TONE-5),VIRAMA,VISARGA,WESTERN PWO KAREN (",
   "TONE-1,TONE-2,TONE-3,TONE-4,TONE-5)),SYMBOL (AFOREMENTIONED,AITON (EXCLAMATION,ONE,TWO),",
   "COMPLETED,GENITIVE,LOCATIVE,SHAN (EXCLAMATION,ONE)),TAI LAING DIGIT (EIGHT,FIVE,FOUR,NINE,",
   "ONE,SEVEN,SIX,THREE,TWO,ZERO),TONE MARK SGAW KAREN (HATHI,KE PHO),VOWEL SIGN (AA,AI,AITON (A,",
   "AI),E(, ABOVE),GEBA KAREN I,I,II,KAYAH (EE,OE,U),MON (II,O),SGAW KAREN EU,SHAN (AA,E(, ABOVE)",
   ",FINAL Y),TALL AA,U,UU,VOCALIC (L,LL,R,RR),WESTERN PWO KAREN (EU,UE))),N-ARY (CIRCLED (DOT ",
   "OPERATOR,PLUS OPERATOR,TIMES OPERATOR),COPRODUCT,INTERSECTION,LOGICAL (AND,OR),PRODUCT,",
   "SQUARE (INTERSECTION OPERATOR,UNION OPERATOR),SUMMATION,TIMES OPERATOR,UNION(, OPERATOR WITH ",
   "(DOT,PLUS)),WHITE VERTICAL BAR),NABATAEAN (CRUCIFORM NUMBER FOUR,LETTER (ALEPH,AYIN,BETH,",
   "DALETH,FINAL (ALEPH,BETH,HE,KAPH,LAMEDH,MEM,NUN,SHIN,YODH),GIMEL,HE,HETH,KAPH,LAMEDH,MEM,NUN,",
   "PE,QOPH,RESH,SADHE,SAMEKH,SHIN,TAW,TETH,WAW,YODH,ZAYIN),NUMBER (FIVE,FOUR,ONE(, HUNDRED),TEN,",
   "THREE,TWENTY,TWO)),NABLA,NAIL POLISH,NAIRA SIGN,NAK,NAME BADGE,NAND,NANDINAGARI (HEADSTROKE,",
   "LETTER (A,AA,AI,AU,BA,BHA,CA,CHA,DA,DDA,DDHA,DHA,E,GA,GHA,HA,I,II,JA,JHA,KA,KHA,LA,LLA,MA,NA,",
   "NGA,NNA,NYA,O,PA,PHA,RA,RRA,SA,SHA,SSA,TA,THA,TTA,TTHA,U,UU,VA,VOCALIC (R,RR),YA),SIGN (",
   "ANUSVARA,AVAGRAHA,SIDDHAM,VIRAMA,VISARGA),VOWEL SIGN (AA,AI,AU,E,I,II,O,PRISHTHAMATRA E,U,UU,",
   "VOCALIC (R,RR))),NARROW NO-BREAK SPACE,NATIONAL (DIGIT SHAPES,PARK),NAUSEATED FACE,NAZAR ",
   "AMULET,NBH,NBSP,NECKTIE,NEGATED DOUBLE VERTICAL BAR DOUBLE RIGHT TURNSTILE,NEGATIVE (",
   "ACKNOWLEDGE,CIRCLED (DIGIT ZERO,LATIN CAPITAL LETTER (A,B,C,D,E,F,G,H,I,J,K,L,M,N,O,P,Q,R,S,",
   "T,U,V,W,X,Y,Z),NUMBER (EIGHTEEN,ELEVEN,FIFTEEN,FOURTEEN,NINETEEN,SEVENTEEN,SIXTEEN,THIRTEEN,",
   "TWELVE,TWENTY),SQUARE,TRIANGLE),DIAGONAL (CROSS,DIAMOND,MIDDLE RIGHT TO LOWER CENTRE),",
   "SQUARED (AB,CROSS MARK,IC,LATIN CAPITAL LETTER (A,B,C,D,E,F,G,H,I,J,K,L,M,N,O,P,Q,R,S,T,U,V,",
   "W,X,Y,Z),PA,QUESTION MARK,SA,WC)),NEITHER (A (SUBSET OF NOR EQUAL TO,SUPERSET OF NOR EQUAL ",
   "TO),APPROXIMATELY NOR ACTUALLY EQUAL TO,GREATER-THAN NOR (EQUAL TO,EQUIVALENT TO,LESS-THAN),",
   "LESS-THAN NOR (EQUAL TO,EQUIVALENT TO,GREATER-THAN)),NEL,NEPTUNE(, FORM TWO),NERD FACE,",
   "NESSUS,NEST WITH EGGS,NESTING DOLLS,NEUTER,NEUTRAL (CHESS (BISHOP(, ROTATED (NINETY DEGREES,",
   "TWO HUNDRED SEVENTY DEGREES)),EQUIHOPPER(, ROTATED NINETY DEGREES),KING(, ROTATED (NINETY ",
   "DEGREES,TWO HUNDRED SEVENTY DEGREES)),KNIGHT(, ROTATED (FORTY-FIVE DEGREES,NINETY DEGREES,",
   "ONE HUNDRED THIRTY-FIVE DEGREES,THREE HUNDRED FIFTEEN DEGREES,TWO HUNDRED (SEVENTY DEGREES,",
   "TWENTY-FIVE DEGREES))),PAWN(, ROTATED (NINETY DEGREES,TWO HUNDRED SEVENTY DEGREES)),QUEEN(, ",
   "ROTATED (NINETY DEGREES,TWO HUNDRED SEVENTY DEGREES)),ROOK(, ROTATED (NINETY DEGREES,TWO ",
   "HUNDRED SEVENTY DEGREES)),TURNED (BISHOP,KING,KNIGHT,PAWN,QUEEN,ROOK)),FACE),NEW (LINE,MOON (",
   "SYMBOL,WITH FACE),SHEQEL SIGN,TAI LUE (DIGIT (EIGHT,FIVE,FOUR,NINE,ONE,SEVEN,SIX,THREE,TWO,",
   "ZERO),LETTER (FINAL (B,D,K,M,N,NG,V),HIGH (BA,DA,FA,HA,KA,KVA,LA,MA,NA,NGA,PA,PHA,QA,SA,SUA,",
   "TA,THA,TSA,VA,XA,XVA,YA),LOW (BA,DA,FA,HA,KA,KVA,LA,MA,NA,NGA,PA,PHA,QA,SA,SUA,TA,THA,TSA,VA,",
   "XA,XVA,YA)),SIGN (LAE,LAEV),THAM DIGIT ONE,TONE (MARK-1,MARK-2),VOWEL SIGN (AA,AAY,AE,AY,E,",
   "II,IY,O,OA,OAY,OY,U,UE,UEY,UU,UY,VOWEL SHORTENER))),NEWA (ABBREVIATION SIGN,COMMA,DANDA,",
   "DIGIT (EIGHT,FIVE,FOUR,NINE,ONE,SEVEN,SIX,THREE,TWO,ZERO),DOUBLE (COMMA,DANDA),GAP FILLER,",
   "INSERTION SIGN,LETTER (A,AA,AI,AU,BA,BHA,CA,CHA,DA,DDA,DDHA,DHA,E,GA,GHA,HA,I,II,JA,JHA,KA,",
   "KHA,LA,LHA,MA,MHA,NA,NGA,NGHA,NHA,NNA,NYA,NYHA,O,PA,PHA,RA,RHA,SA,SHA,SSA,TA,THA,TTA,TTHA,U,",
   "UU,VEDIC ANUSVARA,VOCALIC (L,LL,R,RR),WA,YA),OM,PLACEHOLDER MARK,SANDHI MARK,SIDDHI,SIGN (",
   "ANUSVARA,AVAGRAHA,CANDRABINDU,FINAL ANUSVARA,JIHVAMULIYA,NUKTA,UPADHMANIYA,VIRAMA,VISARGA),",
   "VOWEL SIGN (AA,AI,AU,E,I,II,O,U,UU,VOCALIC (L,LL,R,RR))),NEWLINE (LEFT,RIGHT),NEWSPAPER,NEXT ",
   "(LINE,PAGE),NIGHT WITH STARS,NINJA,NKO (COMBINING (DOUBLE DOT ABOVE,LONG (DESCENDING TONE,",
   "HIGH TONE,LOW TONE,RISING TONE),NASALIZATION MARK,SHORT (HIGH TONE,LOW TONE,RISING TONE)),",
   "COMMA,DANTAYALAN,DIGIT (EIGHT,FIVE,FOUR,NINE,ONE,SEVEN,SIX,THREE,TWO,ZERO),DOROME SIGN,",
   "EXCLAMATION MARK,HIGH TONE APOSTROPHE,LAJANYALAN,LETTER (A,BA,CHA,DA,DAGBASINNA,E,EE,FA,GBA,",
   "HA,I,JA,JONA (CHA,JA,RA),KA,LA,MA,N,NA(, WOLOSO),NYA(, WOLOSO),O,OO,PA,RA,RRA,SA,TA,U,WA,YA),",
   "LOW TONE APOSTROPHE,SYMBOL (GBAKURUNEN,OO DENNEN),TAMAN SIGN),NL,NNBSP,NO (BICYCLES,BREAK ",
   "HERE,ENTRY(, SIGN),MOBILE PHONES,ONE UNDER EIGHTEEN SYMBOL,PEDESTRIANS,PIRACY,SMOKING SYMBOL)",
   ",NO-BREAK SPACE,NOMINAL DIGIT SHAPES,NOMISMA SIGN,NON-BREAKING HYPHEN,NON-POTABLE WATER ",
   "SYMBOL,NONFORKING,NOR,NORDIC MARK SIGN,NORMAL SUBGROUP OF(, OR EQUAL TO),NORTH (EAST (AND ",
   "SOUTH WEST ARROW,ARROW(, AND SOUTH EAST ARROW, CROSSING (NORTH WEST ARROW,SOUTH EAST ARROW), ",
   "WITH HOOK),BLACK ARROW,DOUBLE ARROW,POINTING (BUD,LEAF,VINE LEAF),SANS-SERIF ARROW,",
   "TRIANGLE-HEADED ARROW(, TO BAR),WHITE ARROW),INDIC (FRACTION (ONE (EIGHTH,HALF,QUARTER,",
   "SIXTEENTH),THREE (QUARTERS,SIXTEENTHS)),PLACEHOLDER MARK,QUANTITY MARK,QUARTER MARK,RUPEE ",
   "MARK),WEST (AND SOUTH EAST ARROW,ARROW(, AND NORTH EAST ARROW, CROSSING NORTH EAST ARROW, TO ",
   "(CORNER,LONG BAR), WITH HOOK),BLACK ARROW,DOUBLE ARROW,POINTING (BUD,LEAF,VINE LEAF),",
   "SANS-SERIF ARROW,TRIANGLE-HEADED ARROW(, TO BAR),WHITE ARROW)),NORTHEAST-POINTING AIRPLANE,",
   "NOSE,NOT (A (SUBSET OF,SUPERSET OF),ALMOST EQUAL TO,AN ELEMENT OF,ASYMPTOTICALLY EQUAL TO,",
   "CHECK MARK,EQUAL TO,EQUIVALENT TO,GREATER-THAN,IDENTICAL TO,LESS-THAN,NORMAL SUBGROUP OF(, ",
   "OR EQUAL TO),PARALLEL TO,SIGN,SQUARE (IMAGE OF OR EQUAL TO,ORIGINAL OF OR EQUAL TO),TILDE,",
   "TRUE),NOTCHED (LEFT SEMICIRCLE WITH THREE DOTS,LOWER RIGHT-SHADOWED WHITE RIGHTWARDS ARROW,",
   "RIGHT SEMICIRCLE WITH THREE DOTS,UPPER RIGHT-SHADOWED WHITE RIGHTWARDS ARROW),NOTE(, PAD, ",
   "PAGE),NOTEBOOK(, WITH DECORATIVE COVER),NUL,NULL,NUMBER (EIGHTEEN FULL STOP,ELEVEN FULL STOP,",
   "FIFTEEN FULL STOP,FOURTEEN FULL STOP,NINETEEN FULL STOP,SEVENTEEN FULL STOP,SIGN,SIXTEEN ",
   "FULL STOP,TEN FULL STOP,THIRTEEN FULL STOP,TWELVE FULL STOP,TWENTY FULL STOP),NUMERO SIGN,",
   "NUSHU ITERATION MARK,NUT AND BOLT,NYIAKENG PUACHUE HMONG (CIRCLED CA,DIGIT (EIGHT,FIVE,FOUR,",
   "NINE,ONE,SEVEN,SIX,THREE,TWO,ZERO),LETTER (A,AA,CA,DA,DLA,E,EE,FA,GA,HA,HAH,I,KA,LA,MA,MLA,",
   "NA,NCA,NKA,NPA,NPLA,NQA,NRA,NTA,NTSA,NTXA,NYA,O,OO,PA,PLA,QA,RA,RRA,SA,TA,TSA,TXA,U,VA,W,XA,",
   "XYA,YA,ZA),LOGOGRAM NYAJ,SIGN (FOR (ANIMAL,INVERTEBRATE,LOCATION,PERSON,THING),XW XW),",
   "SYLLABLE LENGTHENER,TONE-B,TONE-D,TONE-G,TONE-J,TONE-M,TONE-S,TONE-V),OBJECT REPLACEMENT ",
   "CHARACTER,OBLIQUE (ANGLE OPENING (DOWN,UP),HYPHEN),OBSERVER EYE SYMBOL,OCR (AMOUNT OF CHECK,",
   "BELT BUCKLE,BOW TIE,BRANCH BANK IDENTIFICATION,CHAIR,CUSTOMER ACCOUNT NUMBER,DASH,DOUBLE ",
   "BACKSLASH,FORK,HOOK,INVERTED FORK),OCTAGONAL SIGN,OCTOPUS,ODEN,OFFICE BUILDING,OGHAM (",
   "FEATHER MARK,LETTER (AILM,BEITH,CEIRT,COLL,DAIR,EABHADH,EADHADH,EAMHANCHOLL,FEARN,GORT,IFIN,",
   "IODHADH,LUIS,MUIN,NGEADAL,NION,ONN,OR,PEITH,RUIS,SAIL,STRAIF,TINNE,UATH,UILLEANN,UR),",
   "REVERSED FEATHER MARK,SPACE MARK),OGONEK,OHM SIGN,OIL DRUM,OK HAND SIGN,OL CHIKI (AHAD,DIGIT ",
   "(EIGHT,FIVE,FOUR,NINE,ONE,SEVEN,SIX,THREE,TWO,ZERO),GAAHLAA TTUDDAAG,LETTER (AAJ,AAK,AAM,AAW,",
   "AG,AL,ANG,AT,EDD,EN,EP,ERR,IH,INY,IR,IS,LA,LAA,LE,LI,LO,LU,OB,OH,OTT,OV,UC,UD,UNN,UY),MU ",
   "TTUDDAG,MU-GAAHLAA TTUDDAAG,PHAARKAA,PUNCTUATION (DOUBLE MUCAAD,MUCAAD),RELAA),OLD (CHINESE (",
   "HOOK MARK,ITERATION MARK),HUNGARIAN (CAPITAL LETTER (A,AA,AK,AMB,AND,CLOSE E,E,EB,EC,ECH,ECS,",
   "ED,EE,EF,EG,EGY,EH,EJ,EK,EL,ELY,EM,EMP,EN,ENC,ENT,ENT-SHAPED SIGN,ENY,EP,ER,ES,ESZ,ET,ETY,EV,",
   "EZ,EZS,I,II,NIKOLSBURG (OE,UE),O,OEE,OO,RUDIMENTA (OE,UE),SHORT ER,U,UNK,US,UU),NUMBER (",
   "FIFTY,FIVE,ONE(, HUNDRED, THOUSAND),TEN),SMALL LETTER (A,AA,AK,AMB,AND,CLOSE E,E,EB,EC,ECH,",
   "ECS,ED,EE,EF,EG,EGY,EH,EJ,EK,EL,ELY,EM,EMP,EN,ENC,ENT,ENT-SHAPED SIGN,ENY,EP,ER,ES,ESZ,ET,",
   "ETY,EV,EZ,EZS,I,II,NIKOLSBURG (OE,UE),O,OEE,OO,RUDIMENTA (OE,UE),SHORT ER,U,UNK,US,UU)),",
   "ITALIC (LETTER (A,BE,CHE,DE,E,EF,EKS,EL,EM,EN,ER,ERS,ES,ESH,ESS,HE,I,II,KA,KE,KHE,KU,",
   "NORTHERN TSE,O,PE,PHE,SHE,SOUTHERN TSE,TE,THE,U,UU,VE,YE,ZE),NUMERAL (FIFTY,FIVE,ONE,TEN)),",
   "KEY,NORTH ARABIAN (LETTER (AIN,ALEF,BEH,DAD,DAL,ES-1,ES-2,ES-3,FEH,GEEM,GHAIN,HAH,HEH,KAF,",
   "KHAH,LAM,MEEM,NOON,QAF,REH,SAD,TAH,TEH,THAL,THEH,WAW,YEH,ZAH,ZAIN),NUMBER (ONE,TEN,TWENTY)),",
   "PERMIC LETTER (AN,BUR,CHERY,DOI,DZHOI,DZITA,E,EF,GAI,HA,I,IA,IE,KOKE,LEI,MENOE,NENOE,O,OO,",
   "PEEI,REI,SHCHOOI,SHOOI,SII,TAI,TSIU,U,VER,VOOI,YA,YAT,YER,YERI,YERU,YRY,YU,ZATA,ZHOI),",
   "PERSIAN (NUMBER (HUNDRED,ONE,TEN,TWENTY,TWO),SIGN (A,AURAMAZDAA,AURAMAZDAA-2,AURAMAZDAAHA,BA,",
   "BAGA,BUUMISH,CA,DA,DAHYAAUSH,DAHYAAUSH-2,DI,DU,FA,GA,GU,HA,I,JA,JI,KA,KU,LA,MA,MI,MU,NA,NU,",
   "PA,RA,RU,SA,SHA,SSA,TA,THA,TU,U,VA,VI,XA,XSHAAYATHIYA,YA,ZA),WORD DIVIDER),PERSONAL COMPUTER,",
   "SOGDIAN (FRACTION ONE HALF,LETTER (ALEPH,ALTERNATE AYIN,AYIN,BETH,FINAL (ALEPH,BETH,HE,NUN(, ",
   "WITH VERTICAL TAIL),SADHE(, WITH VERTICAL TAIL),TAW(, WITH VERTICAL TAIL)),GIMEL,HE,HETH,",
   "KAPH,LAMEDH,MEM,NUN,PE,RESH-AYIN-DALETH,SADHE,SAMEKH,SHIN,TAW,WAW,YODH,ZAYIN),LIGATURE ",
   "AYIN-DALETH,NUMBER (FIVE,FOUR,ONE(, HUNDRED),TEN,THIRTY,THREE,TWENTY,TWO)),SOUTH ARABIAN (",
   "LETTER (ALEF,AYN,BETH,DALETH,DHADHE,DHALETH,FE,GHAYN,GIMEL,HE,HETH,KAPH,KHETH,LAMEDH,MEM,NUN,",
   "QOPH,RESH,SADHE,SAMEKH,SAT,SHIN,TAW,TETH,THAW,THETH,WAW,YODH,ZAYN),NUMBER (FIFTY,ONE),",
   "NUMERIC INDICATOR),TURKIC LETTER (ORKHON (A,AB,AD,AEB,AED,AEG,AEK,AEL,AEN,AER,AES,AET,AEY,AG,",
   "AL,AN,AQ,AR,AS,ASH,AT,AY,BASH,EC,ELT,EM,ENC,ENG,ENT,ENY,EP,ESH,EZ,I,IC,IQ,O,OE,OEK,OP,OQ,OT),",
   "YENISEI (A,AB,AD,AE,AEB,AEG,AEK,AEN,AENG,AET,AEY,AG,AL,ANG,AQ,AR,ASH,AT,AY,E,EC,ENC,ENT,ENY,",
   "ESH,EZ,I,IQ,OE,OEK,OQ)),UYGHUR (COMBINING (DOT (ABOVE,BELOW),TWO DOTS (ABOVE,BELOW)),LETTER (",
   "ALEPH,BETH,FINAL HETH,GIMEL-HETH,KAPH,LAMEDH,LESH,MEM,NUN,PE,RESH,SADHE,SAMEKH,SHIN,TAW,WAW,",
   "YODH,ZAYIN),PUNCTUATION (BAR,FOUR DOTS,TWO (BARS,DOTS)))),OLDER (ADULT,MAN,WOMAN),OLIVE,OM ",
   "SYMBOL,ON WITH EXCLAMATION MARK WITH LEFT RIGHT ARROW ABOVE,ONCOMING (AUTOMOBILE,BUS,FIRE ",
   "ENGINE,POLICE CAR,TAXI),ONE (BUTTON MOUSE,DOT (LEADER,OVER TWO DOTS PUNCTUATION)),ONE-PIECE ",
   "SWIMSUIT,ONION,OPEN (BOOK,BOX,CENTRE (ASTERISK,BLACK STAR,CROSS,TEARDROP-SPOKED ASTERISK),",
   "FILE FOLDER,FOLDER,HANDS SIGN,LOCK,MAILBOX WITH (LOWERED FLAG,RAISED FLAG),SUBSET,SUPERSET),",
   "OPEN-CIRCUIT-OUTPUT (H-TYPE SYMBOL,L-TYPE SYMBOL),OPEN-OUTLINED RIGHTWARDS ARROW,OPERATING ",
   "SYSTEM COMMAND,OPHIUCHUS,OPPOSITION,OPTICAL DISC(, ICON),OPTION KEY,OR WITH DOT INSIDE,",
   "ORANGE (BOOK,HEART),ORANGUTAN,ORIGINAL OF,ORIYA (AI LENGTH MARK,AU LENGTH MARK,DIGIT (EIGHT,",
   "FIVE,FOUR,NINE,ONE,SEVEN,SIX,THREE,TWO,ZERO),FRACTION (ONE (EIGHTH,HALF,QUARTER,SIXTEENTH),",
   "THREE (QUARTERS,SIXTEENTHS)),ISSHAR,LETTER (A,AA,AI,AU,BA,BHA,CA,CHA,DA,DDA,DDHA,DHA,E,GA,",
   "GHA,HA,I,II,JA,JHA,KA,KHA,LA,LLA,MA,NA,NGA,NNA,NYA,O,PA,PHA,RA,RHA,RRA,SA,SHA,SSA,TA,THA,TTA,",
   "TTHA,U,UU,VA,VOCALIC (L,LL,R,RR),WA,YA,YYA),SIGN (ANUSVARA,AVAGRAHA,CANDRABINDU,NUKTA,",
   "OVERLINE,VIRAMA,VISARGA),VOWEL SIGN (AA,AI,AU,E,I,II,O,U,UU,VOCALIC (L,LL,R,RR))),ORNATE (",
   "LEFT PARENTHESIS,RIGHT PARENTHESIS),ORTHODOX CROSS,OSAGE (CAPITAL LETTER (A,AH,AI,AIN,BRA,",
   "CHA,DHA,E,EHCHA,EHKA,EHPA,EHTA,EHTSA,EIN,GHA,HA,HYA,I,KA,KHA,KYA,LA,MA,NA,O,OIN,PA,SA,SHA,TA,",
   "TSA,TSHA,U,WA,ZA,ZHA),SMALL LETTER (A,AH,AI,AIN,BRA,CHA,DHA,E,EHCHA,EHKA,EHPA,EHTA,EHTSA,EIN,",
   "GHA,HA,HYA,I,KA,KHA,KYA,LA,MA,NA,O,OIN,PA,SA,SHA,TA,TSA,TSHA,U,WA,ZA,ZHA)),OSC,OSMANYA (",
   "DIGIT (EIGHT,FIVE,FOUR,NINE,ONE,SEVEN,SIX,THREE,TWO,ZERO),LETTER (A,AA,ALEF,BA,CAYN,DEEL,DHA,",
   "E,EE,FA,GA,HA,I,JA,KAAF,KHA,LAAN,MIIN,NUUN,O,OO,QAAF,RA,SA,SHIIN,TA,U,WAW,XA,YA)),OTTER,",
   "OTTOMAN SIYAQ (ALTERNATE NUMBER (EIGHT,FIVE,FOUR(, HUNDRED),NINE,SEVEN,SIX(, HUNDRED),TEN(, ",
   "THOUSAND),THREE,TWO(, THOUSAND)),FRACTION ONE (HALF,SIXTH),MARRATAN,NUMBER (EIGHT(, HUNDRED, ",
   "THOUSAND),EIGHTY(, THOUSAND),FIFTY(, THOUSAND),FIVE(, HUNDRED, THOUSAND),FORTY(, THOUSAND),",
   "FOUR(, HUNDRED, THOUSAND),NINE(, HUNDRED, THOUSAND),NINETY(, THOUSAND),ONE(, HUNDRED, ",
   "THOUSAND),SEVEN(, HUNDRED, THOUSAND),SEVENTY(, THOUSAND),SIX(, HUNDRED, THOUSAND),SIXTY(, ",
   "THOUSAND),TEN(, THOUSAND),THIRTY(, THOUSAND),THREE(, HUNDRED, THOUSAND),TWENTY(, THOUSAND),",
   "TWO(, HUNDRED, THOUSAND))),OUNCE SIGN,OUTBOX TRAY,OUTLINED (BLACK STAR,GREEK CROSS,LATIN ",
   "CROSS,WHITE STAR),OVERHEATED FACE,OVERLAP,OVERLAPPING (BLACK SQUARES,WHITE (AND BLACK ",
   "SQUARES,SQUARES)),OVERLINE,OWL,OX,OYSTER,PACKAGE,PAD,PADDING CHARACTER,PAGE(, FACING UP, ",
   "WITH (CIRCLED TEXT,CURL)),PAGER,PAGES,PAGODA,PAHAWH HMONG (CLAN SIGN (FAJ,HAM,HAWJ,KHAB,KOO,",
   "KWM,LAUJ,LIS,MUAS,PHAB,THOJ,TSAB,TSHEEJ,TSWB,VAJ,VWJ,XYOOJ,YAJ,YEEG),CONSONANT (AU,CAU,CHAU,",
   "HAU,HLAU,HNAU,LAU,MAU,NAU,NCHAU,NKAU,NLAU,NTHAU,NTSAU,PLHAU,QHAU,RAU,VAU,XAU,YAU),DIGIT (",
   "EIGHT,FIVE,FOUR,NINE,ONE,SEVEN,SIX,THREE,TWO,ZERO),MARK CIM (HOM,KES,KHAV,SO,SUAM,TAUM,TUB),",
   "NUMBER (HUNDRED MILLIONS,HUNDREDS,MILLIONS,TEN (BILLIONS,THOUSANDS),TENS,TRILLIONS),SIGN (AV,",
   "CIM (CHEEM,CUAM TSHOOJ,HAIS LUS NTOG NTOG,NRES TOS,PUB DAWB,TSOV ROG,TXWV(, CHWV)),HLI,HNUB,",
   "IB YAM,LOS,MEEJ (SUAB,TSEEB),MUS,NQIG,NTUJ,TAU,THIRD-STAGE HLI,TXHEEJ CEEV,VOS (FEEM,LUB,",
   "NRUA,SEEV,THIAB,THOM,TSHAB CEEB),XAUS,XIAB,XYEEM (FAIB,NTXIV,RHO,TOV),XYOO,ZWJ THAJ),VOWEL (",
   "KAAB,KAAV,KAB,KAIB,KAIV,KAUB,KAUV,KAV,KAWB,KAWV,KEB,KEEB,KEEV,KEV,KIAB,KIAV,KIB,KIV,KOB,KOOB,",
   "KOOV,KOV,KUAB,KUAV,KUB,KUV,KWB,KWV)),PALLAS,PALM (BRANCH,DOWN HAND,TREE,UP HAND),PALMS UP ",
   "TOGETHER,PALMYRENE (LEFT-POINTING FLEURON,LETTER (ALEPH,AYIN,BETH,DALETH,FINAL NUN,GIMEL,HE,",
   "HETH,KAPH,LAMEDH,MEM,NUN,PE,QOPH,RESH,SADHE,SAMEKH,SHIN,TAW,TETH,WAW,YODH,ZAYIN),NUMBER (",
   "FIVE,FOUR,ONE,TEN,THREE,TWENTY,TWO),RIGHT-POINTING FLEURON),PANCAKES,PANDA FACE,PAPERCLIP,",
   "PARACHUTE,PARAGRAPH SEPARATOR,PARAGRAPHOS,PARAGRAPHUS MARK,PARALLEL (TO,WITH (HORIZONTAL ",
   "STROKE,TILDE OPERATOR)),PARENTHESIZED (DIGIT (EIGHT,FIVE,FOUR,NINE,ONE,SEVEN,SIX,THREE,TWO),",
   "HANGUL (CHIEUCH(, A),CIEUC(, A, U),HIEUH(, A),IEUNG(, A),KHIEUKH(, A),KIYEOK(, A),MIEUM(, A),",
   "NIEUN(, A),PHIEUPH(, A),PIEUP(, A),RIEUL(, A),SIOS(, A),THIEUTH(, A),TIKEUT(, A)),IDEOGRAPH (",
   "ALLIANCE,CALL,CONGRATULATION,EARTH,EIGHT,ENTERPRISE,FESTIVAL,FINANCIAL,FIRE,FIVE,FOUR,HAVE,",
   "LABOR,METAL,MOON,NAME,NINE,ONE,REACH,REPRESENT,RESOURCE,REST,SELF,SEVEN,SIX,SOCIETY,SPECIAL,",
   "STOCK,STUDY,SUN,SUPERVISE,TEN,THREE,TWO,WATER,WOOD),KOREAN CHARACTER (O HU,OJEON),LATIN (",
   "CAPITAL LETTER (A,B,C,D,E,F,G,H,I,J,K,L,M,N,O,P,Q,R,S,T,U,V,W,X,Y,Z),SMALL LETTER (A,B,C,D,E,",
   "F,G,H,I,J,K,L,M,N,O,P,Q,R,S,T,U,V,W,X,Y,Z)),NUMBER (EIGHTEEN,ELEVEN,FIFTEEN,FOURTEEN,",
   "NINETEEN,SEVENTEEN,SIXTEEN,TEN,THIRTEEN,TWELVE,TWENTY)),PARROT,PART ALTERNATION MARK,PARTIAL ",
   "(DIFFERENTIAL,LINE (BACKWARD,DOWN,FORWARD,UP)),PARTIALLY-RECYCLED PAPER SYMBOL,PARTNERSHIP ",
   "SIGN,PARTY POPPER,PASSED SYMBOL,PASSENGER SHIP,PASSIVE-PULL-DOWN-OUTPUT SYMBOL,",
   "PASSIVE-PULL-UP-OUTPUT SYMBOL,PASSPORT CONTROL,PAU CIN HAU (GLOTTAL STOP(, FINAL, VARIANT),",
   "LETTER (A,BA,CA,CHA,DA,E,FA,FINAL (K,L,M,N,NG,P,T,W,Y),GA,HA,I,IA,KA,KHA,LA,MA,NA,NGA,O,PA,",
   "PHA,RA,SA,TA,THA,U,UA,VA,ZA),LOW-FALLING TONE(, FINAL, LONG(, FINAL)),MID-LEVEL TONE(, FINAL,",
   " LONG FINAL),RISING TONE(, FINAL, LONG(, FINAL)),SANDHI (GLOTTAL STOP(, FINAL),TONE(, FINAL, ",
   "LONG(, FINAL)))),PAW PRINTS,PDF,PDI,PEACE SYMBOL,PEACH,PEACOCK,PEANUTS,PEAR,PEDESTRIAN,PEN ",
   "OVER STAMPED ENVELOPE,PENCIL,PENGUIN,PENSIVE FACE,PENTAGRAM,PEOPLE HUGGING,PER (MILLE SIGN,",
   "SIGN,TEN THOUSAND SIGN),PERCENT SIGN,PERFORMING ARTS,PERMANENT PAPER SIGN,PERPENDICULAR(, ",
   "WITH S),PERSEVERING FACE,PERSON (BOWING DEEPLY,CLIMBING,DOING CARTWHEEL,FROWNING,IN (LOTUS ",
   "POSITION,STEAMY ROOM),RAISING BOTH HANDS IN CELEBRATION,WITH (BALL,BLOND HAIR,CROWN,FOLDED ",
   "HANDS,HEADSCARF,POUTING FACE)),PERSONAL COMPUTER,PERSPECTIVE,PESETA SIGN,PESO SIGN,PETRI ",
   "DISH,PHAGS-PA (DOUBLE HEAD MARK,LETTER (A,ALTERNATE YA,ASPIRATED FA,BA,CA,CANDRABINDU,CHA,DA,",
   "DDA,DZA,E,EE,FA,GA,GGA,HA,I,JA,KA,KHA,LA,MA,NA,NGA,NNA,NYA,O,PA,PHA,QA,RA,SA,SHA,SMALL A,TA,",
   "THA,TSA,TSHA,TTA,TTHA,U,VOICED HA,VOICELESS SHA,WA,XA,YA,ZA,ZHA),MARK (DOUBLE SHAD,SHAD),",
   "SINGLE HEAD MARK,SUBJOINED LETTER (RA,WA,YA),SUPERFIXED LETTER RA),PHAISTOS DISC SIGN (ARROW,",
   "BEE,BEEHIVE,BOOMERANG,BOW,BULLS LEG,CAPTIVE,CARPENTRY PLANE,CAT,CHILD,CLUB,COLUMN,COMB,",
   "COMBINING OBLIQUE STROKE,DOLIUM,DOVE,EAGLE,FLUTE,GAUNTLET,GRATER,HELMET,HIDE,HORN,LID,LILY,",
   "MANACLES,MATTOCK,OX BACK,PAPYRUS,PEDESTRIAN,PLANE TREE,PLUMED HEAD,RAM,ROSETTE,SAW,SHIELD,",
   "SHIP,SLING,SMALL AXE,STRAINER,TATTOOED HEAD,TIARA,TUNNY,VINE,WAVY BAND,WOMAN),PHILIPPINE (",
   "DOUBLE PUNCTUATION,SINGLE PUNCTUATION),PHOENICIAN (LETTER (AIN,ALF,BET,DELT,GAML,HE,HET,KAF,",
   "LAMD,MEM,NUN,PE,QOF,ROSH,SADE,SEMK,SHIN,TAU,TET,WAU,YOD,ZAI),NUMBER (ONE(, HUNDRED),TEN,",
   "THREE,TWENTY,TWO),WORD SEPARATOR),PHOLUS,PICK,PICKUP TRUCK,PIE,PIG(, FACE, NOSE),PILCROW ",
   "SIGN,PILE OF POO,PILL,PINATA,PINCHED FINGERS,PINCHING HAND,PINE DECORATION,PINEAPPLE,",
   "PINWHEEL STAR,PISCES,PISTOL,PITCHFORK(, WITH TEE TOP),PLACARD,PLACE OF (INTEREST SIGN,",
   "WORSHIP),PLANCK CONSTANT(, OVER TWO PI),PLAYGROUND SLIDE,PLAYING CARD (ACE OF (CLUBS,",
   "DIAMONDS,HEARTS,SPADES),BACK,BLACK JOKER,EIGHT OF (CLUBS,DIAMONDS,HEARTS,SPADES),FIVE OF (",
   "CLUBS,DIAMONDS,HEARTS,SPADES),FOOL,FOUR OF (CLUBS,DIAMONDS,HEARTS,SPADES),JACK OF (CLUBS,",
   "DIAMONDS,HEARTS,SPADES),KING OF (CLUBS,DIAMONDS,HEARTS,SPADES),KNIGHT OF (CLUBS,DIAMONDS,",
   "HEARTS,SPADES),NINE OF (CLUBS,DIAMONDS,HEARTS,SPADES),QUEEN OF (CLUBS,DIAMONDS,HEARTS,SPADES)",
   ",RED JOKER,SEVEN OF (CLUBS,DIAMONDS,HEARTS,SPADES),SIX OF (CLUBS,DIAMONDS,HEARTS,SPADES),TEN ",
   "OF (CLUBS,DIAMONDS,HEARTS,SPADES),THREE OF (CLUBS,DIAMONDS,HEARTS,SPADES),TRUMP-1,TRUMP-10,",
   "TRUMP-11,TRUMP-12,TRUMP-13,TRUMP-14,TRUMP-15,TRUMP-16,TRUMP-17,TRUMP-18,TRUMP-19,TRUMP-2,",
   "TRUMP-20,TRUMP-21,TRUMP-3,TRUMP-4,TRUMP-5,TRUMP-6,TRUMP-7,TRUMP-8,TRUMP-9,TWO OF (CLUBS,",
   "DIAMONDS,HEARTS,SPADES),WHITE JOKER),PLD,PLU,PLUNGER,PLUS SIGN(, ABOVE EQUALS SIGN, IN (LEFT ",
   "HALF CIRCLE,RIGHT HALF CIRCLE,TRIANGLE), WITH (BLACK TRIANGLE,CIRCUMFLEX ACCENT ABOVE,DOT ",
   "BELOW,SMALL CIRCLE ABOVE,SUBSCRIPT TWO,TILDE (ABOVE,BELOW))),PLUS-MINUS SIGN,PLUTO(, FORM (",
   "FIVE,FOUR,THREE,TWO)),PM,POCKET CALCULATOR,POLICE (CAR,CARS REVOLVING LIGHT,OFFICER),POODLE,",
   "POP DIRECTIONAL (FORMATTING,ISOLATE),POPCORN,PORTABLE STEREO,POSEIDON,POSITION INDICATOR,",
   "POSTAL (HORN,MARK(, FACE)),POSTBOX,POT OF FOOD,POTABLE WATER SYMBOL,POTATO,POTTED PLANT,",
   "POUCH,POULTRY LEG,POUND SIGN,POURING LIQUID,POUTING (CAT FACE,FACE),POWER (ON SYMBOL,ON-OFF ",
   "SYMBOL,SLEEP SYMBOL,SYMBOL),PRAYER BEADS,PRECEDES(, ABOVE (ALMOST EQUAL TO,EQUALS SIGN,NOT (",
   "ALMOST EQUAL TO,EQUAL TO),SINGLE-LINE (EQUALS SIGN,NOT EQUAL TO)), BUT NOT EQUIVALENT TO, OR ",
   "(EQUAL TO,EQUIVALENT TO), UNDER RELATION),PREGNANT (MAN,PERSON,WOMAN),PRESCRIPTION TAKE,",
   "PRESENTATION FORM FOR VERTICAL (COLON,COMMA,EM DASH,EN DASH,EXCLAMATION MARK,HORIZONTAL ",
   "ELLIPSIS,IDEOGRAPHIC (COMMA,FULL STOP),LEFT (ANGLE BRACKET,BLACK LENTICULAR BRACKET,CORNER ",
   "BRACKET,CURLY BRACKET,DOUBLE ANGLE BRACKET,PARENTHESIS,SQUARE BRACKET,TORTOISE SHELL BRACKET,",
   "WHITE (CORNER BRACKET,LENTICULAR BRACKET)),LOW LINE,QUESTION MARK,RIGHT (ANGLE BRACKET,BLACK ",
   "LENTICULAR BRACKET,CORNER BRACKET,CURLY BRACKET,DOUBLE ANGLE BRACKET,PARENTHESIS,SQUARE ",
   "BRACKET,TORTOISE SHELL BRACKET,WHITE (CORNER BRACKET,LENTICULAR (BRACKET,BRAKCET))),",
   "SEMICOLON,TWO DOT LEADER,WAVY LOW LINE),PRETZEL,PREVIOUS PAGE,PRIME,PRINCE,PRINCESS,PRINT ",
   "SCREEN SYMBOL,PRINTER(, ICON),PRIVACY MESSAGE,PRIVATE (USE (ONE,TWO),USE-1,USE-2),PROBING ",
   "CANE,PROHIBITED SIGN,PROJECTIVE,PROPERTY LINE,PROPORTION,PROPORTIONAL TO,PROSERPINA,PSALTER ",
   "PAHLAVI (FOUR DOTS WITH (CROSS,DOT),LETTER (ALEPH,BETH,DALETH,GIMEL,HE,HETH,KAPH,LAMEDH,",
   "MEM-QOPH,NUN,PE,SADHE,SAMEKH,SHIN,TAW,WAW-AYIN-RESH,YODH,ZAYIN),NUMBER (FOUR,ONE(, HUNDRED),",
   "TEN,THREE,TWENTY,TWO),SECTION MARK,TURNED SECTION MARK),PU1,PU2,PUBLIC ADDRESS LOUDSPEAKER,",
   "PUNCTUATION SPACE,PUNCTUS ELEVATUS MARK,PURPLE HEART,PURSE,PUSHPIN,PUT LITTER IN ITS PLACE ",
   "SYMBOL,QUADRANT (LOWER (LEFT,RIGHT),UPPER (LEFT(, AND (LOWER (LEFT AND LOWER RIGHT,RIGHT),",
   "UPPER RIGHT AND LOWER (LEFT,RIGHT))),RIGHT(, AND LOWER LEFT(, AND LOWER RIGHT)))),QUADRUPLE (",
   "INTEGRAL OPERATOR,PRIME),QUARTER NOTE,QUATERNION INTEGRAL OPERATOR,QUESTION (EXCLAMATION ",
   "MARK,MARK),QUESTIONED EQUAL TO,QUINCUNX,QUOTATION MARK,RABBIT(, FACE),RACCOON,RACING (CAR,",
   "MOTORCYCLE),RADICAL SYMBOL BOTTOM,RADIO(, BUTTON),RADIOACTIVE SIGN,RAILWAY (CAR,TRACK),RAIN,",
   "RAINBOW,RAISED (BACK OF HAND,COMMA,DOT,DOTTED INTERPOLATION MARKER,FIST,HAND(, WITH (FINGERS ",
   "SPLAYED,PART BETWEEN MIDDLE AND RING FINGERS)),INTERPOLATION MARKER,MC SIGN,MD SIGN,MR SIGN,",
   "SQUARE),RAM,RAT,RATIO,RAZOR,RECEIPT,RECORD SEPARATOR,RECREATIONAL VEHICLE,RECYCLED PAPER ",
   "SYMBOL,RECYCLING SYMBOL FOR (GENERIC MATERIALS,TYPE-1 PLASTICS,TYPE-2 PLASTICS,TYPE-3 ",
   "PLASTICS,TYPE-4 PLASTICS,TYPE-5 PLASTICS,TYPE-6 PLASTICS,TYPE-7 PLASTICS),RED (APPLE,GIFT ",
   "ENVELOPE),REFERENCE MARK,REGIONAL INDICATOR SYMBOL LETTER (A,B,C,D,E,F,G,H,I,J,K,L,M,N,O,P,Q,",
   "R,S,T,U,V,W,X,Y,Z),REGISTERED SIGN,REJANG (CONSONANT SIGN (H,N,NG,R),LETTER (A,BA,CA,DA,GA,",
   "HA,JA,KA,LA,MA,MBA,NA,NDA,NGA,NGGA,NYA,NYJA,PA,RA,SA,TA,WA,YA),SECTION MARK,VIRAMA,VOWEL ",
   "SIGN (AI,AU,E,EA,EU,I,O,U)),RELIEVED FACE,REMINDER RIBBON,REPLACEMENT CHARACTER,RESPONSE,",
   "RESTRICTED LEFT (ENTRY-1,ENTRY-2),RESTROOM,RETURN (LEFT,RIGHT,SYMBOL),REVERSE (CHECKER BOARD,",
   "INDEX,LIGHT FOUR POINTED PINWHEEL STAR,LINE FEED,SOLIDUS(, OPERATOR, PRECEDING SUBSET, WITH ",
   "HORIZONTAL STROKE),TILDE OPERATOR ABOVE (LEFTWARDS ARROW,RIGHTWARDS ARROW)),REVERSED (ANGLE(,",
   " WITH UNDERBAR),COMMA,DOUBLE (PRIME(, QUOTATION MARK),STROKE NOT SIGN),EMPTY SET,FORKED ",
   "PARAGRAPHOS,HAND WITH MIDDLE FINGER EXTENDED,NOT SIGN,PILCROW SIGN,PRIME,QUESTION MARK,",
   "RAISED HAND WITH FINGERS SPLAYED,RIGHT ANGLE,ROTATED FLORAL HEART BULLET,SANS-SERIF CAPITAL ",
   "L,SEMICOLON,THUMBS (DOWN SIGN,UP SIGN),TILDE(, EQUALS),TRIPLE PRIME,VICTORY HAND),REVOLVING ",
   "HEARTS,RHINOCEROS,RI,RIAL SIGN,RIBBON(, ARROW (DOWN (LEFT,RIGHT),LEFT (DOWN,UP),RIGHT (DOWN,",
   "UP),UP (LEFT,RIGHT))),RICE (BALL,CRACKER),RIFLE,RIGHT (AND (LOWER ONE EIGHTH BLOCK,UPPER ONE ",
   "EIGHTH BLOCK),ANGER BUBBLE,ANGLE(, BRACKET(, WITH DOT), DOTTED SUBSTITUTION MARKER, ",
   "SUBSTITUTION MARKER, VARIANT WITH SQUARE, WITH (ARC,DOWNWARDS ZIGZAG ARROW)),ARC ",
   "GREATER-THAN BRACKET,ARROW WITH (CIRCLED PLUS,SMALL CIRCLE),BLACK (LENTICULAR BRACKET,",
   "TORTOISE SHELL BRACKET),CEILING,CORNER BRACKET,CURLY BRACKET(, LOWER HOOK, MIDDLE PIECE, ",
   "UPPER HOOK),DOTTED SUBSTITUTION BRACKET,DOUBLE (ANGLE BRACKET,ARROW WITH ROUNDED HEAD,",
   "PARENTHESIS,QUOTATION MARK,WIGGLY FENCE),FISH TAIL,FIVE EIGHTHS BLOCK,FLOOR,HALF (BLACK (",
   "CIRCLE,STAR),BLOCK,FOLDER,MEDIUM SHADE,RUNNING MAN),HAND TELEPHONE RECEIVER,LOW PARAPHRASE ",
   "BRACKET,NORMAL FACTOR SEMIDIRECT PRODUCT,ONE (EIGHTH BLOCK,QUARTER BLOCK),OPEN SQUARED DOT,",
   "OUTER JOIN,PARENTHESIS(, EXTENSION, LOWER HOOK, UPPER HOOK),RAISED OMISSION BRACKET,S-SHAPED ",
   "BAG DELIMITER,SEMIDIRECT PRODUCT,SEVEN EIGHTHS BLOCK,SIDEWAYS U BRACKET,SINGLE QUOTATION ",
   "MARK,SPEAKER(, WITH (ONE SOUND WAVE,THREE SOUND WAVES)),SPEECH BUBBLE,SQUARE BRACKET(, ",
   "EXTENSION, LOWER CORNER, UPPER CORNER, WITH (DOUBLE STROKE,QUILL,STROKE,TICK IN (BOTTOM ",
   "CORNER,TOP CORNER),UNDERBAR)),SUBSTITUTION BRACKET,TACK,THIRD WHITE RIGHT POINTING INDEX,",
   "THOUGHT BUBBLE,THREE (EIGHTHS BLOCK,QUARTERS BLOCK),TORTOISE SHELL BRACKET,TRANSPOSITION ",
   "BRACKET,TRIANGLE(, ABOVE LEFT TRIANGLE),TRIANGULAR ONE QUARTER BLOCK,VERTICAL (BAR WITH ",
   "QUILL,BOX LINE),WHITE (CORNER BRACKET,CURLY BRACKET,LENTICULAR BRACKET,PARENTHESIS,SQUARE ",
   "BRACKET,TORTOISE SHELL BRACKET),WIGGLY FENCE),RIGHT-FACING (ARMENIAN ETERNITY SIGN,FIST,",
   "SVASTI SIGN(, WITH DOTS)),RIGHT-HANDED INTERLACED PENTAGRAM,RIGHT-POINTING (ANGLE BRACKET,",
   "CURVED ANGLE BRACKET,DOUBLE ANGLE QUOTATION MARK,MAGNIFYING GLASS),RIGHT-SHADED WHITE ",
   "RIGHTWARDS ARROW,RIGHT-SIDE ARC CLOCKWISE ARROW,RIGHT-TO-LEFT (EMBEDDING,ISOLATE,MARK,",
   "OVERRIDE),RIGHTHAND INTERIOR PRODUCT,RIGHTWARDS (ARROW(, ABOVE (ALMOST EQUAL TO,REVERSE (",
   "ALMOST EQUAL TO,TILDE OPERATOR),SHORT LEFTWARDS ARROW,TILDE OPERATOR), AND UPPER AND LOWER ",
   "ONE EIGHTH BLOCK, FROM BAR(, TO BLACK DIAMOND), OVER LEFTWARDS ARROW, THROUGH (GREATER-THAN,",
   "SUPERSET,X), TO (BAR,BLACK DIAMOND), WITH (CORNER DOWNWARDS,DOTTED STEM,DOUBLE VERTICAL ",
   "STROKE,EQUILATERAL ARROWHEAD,HOOK,LARGE TRIANGLE ARROWHEAD,LOOP,MEDIUM TRIANGLE ARROWHEAD,",
   "NOTCHED TAIL,PLUS BELOW,SMALL (EQUILATERAL ARROWHEAD,TRIANGLE ARROWHEAD),STROKE,TAIL(, WITH (",
   "DOUBLE VERTICAL STROKE,VERTICAL STROKE)),TIP (DOWNWARDS,UPWARDS),VERTICAL STROKE)),",
   "ARROW-TAIL,BACK-TILTED SHADOWED WHITE ARROW,BLACK (ARROW,CIRCLED WHITE ARROW),BOTTOM SHADED ",
   "WHITE ARROW,COMPRESSED ARROW,DASHED ARROW,DOUBLE (ARROW(, FROM BAR, WITH (STROKE,VERTICAL ",
   "STROKE)),ARROW-TAIL,DASH ARROW),FINGER-POST ARROW,FRONT-TILTED SHADOWED WHITE ARROW,HAND,",
   "HARPOON (OVER LEFTWARDS HARPOON,WITH BARB (DOWN (ABOVE LEFTWARDS HARPOON WITH BARB DOWN,",
   "BELOW LONG DASH,FROM BAR,TO BAR),DOWNWARDS,UP (ABOVE (LEFTWARDS HARPOON WITH BARB UP,LONG ",
   "DASH,RIGHTWARDS HARPOON WITH BARB DOWN),FROM BAR,TO BAR),UPWARDS)),HEAVY (ARROW,COMPRESSED ",
   "ARROW),LEFT-SHADED WHITE ARROW,OPEN-HEADED ARROW,PAIRED ARROWS,QUADRUPLE ARROW,RIGHT-SHADED ",
   "WHITE ARROW,ROCKET,SANS-SERIF ARROW,SQUARED ARROW,SQUIGGLE ARROW,TOP SHADED WHITE ARROW,",
   "TRIANGLE ARROWHEAD,TRIANGLE-HEADED (ARROW(, OVER LEFTWARDS TRIANGLE-HEADED ARROW, TO BAR, ",
   "WITH (BOLD SHAFT,DOUBLE (HORIZONTAL STROKE,VERTICAL STROKE),HEAVY SHAFT,LONG TIP (DOWNWARDS,",
   "UPWARDS),MEDIUM SHAFT,NARROW SHAFT,VERY HEAVY SHAFT)),DASHED ARROW,PAIRED ARROWS),TRIPLE (",
   "ARROW,DASH ARROW),TWO HEADED ARROW,TWO-HEADED (ARROW (FROM BAR,WITH (DOUBLE VERTICAL STROKE,",
   "TAIL(, WITH (DOUBLE VERTICAL STROKE,VERTICAL STROKE)),TRIANGLE ARROWHEADS,VERTICAL STROKE)),",
   "TRIPLE DASH ARROW),WAVE ARROW,WHITE ARROW(, FROM WALL, WITHIN TRIANGLE ARROWHEAD)),RING(, ",
   "ABOVE, BUOY, EQUAL TO, IN EQUAL TO, OPERATOR, POINT),RINGED PLANET,RINGING BELL,RISING ",
   "DIAGONAL CROSSING (FALLING DIAGONAL,SOUTH EAST ARROW),RLE,RLI,RLM,RLO,ROASTED SWEET POTATO,",
   "ROBOT FACE,ROCK,ROCKET,ROLL OF PAPER,ROLLED-UP NEWSPAPER,ROLLER (COASTER,SKATE),ROLLING ON ",
   "THE FLOOR LAUGHING,ROMAN (AS SIGN,CENTURIAL SIGN,DENARIUS SIGN,DIMIDIA SEXTULA SIGN,",
   "DUPONDIUS SIGN,NUMERAL (EIGHT,ELEVEN,FIFTY(, EARLY FORM, THOUSAND),FIVE(, HUNDRED, THOUSAND),",
   "FOUR,NINE,ONE(, HUNDRED(, THOUSAND), THOUSAND(, C D)),REVERSED ONE HUNDRED,SEVEN,SIX(, LATE ",
   "FORM),TEN(, THOUSAND),THREE,TWELVE,TWO),QUINARIUS SIGN,SEMUNCIA SIGN,SESTERTIUS SIGN,SEXTANS ",
   "SIGN,SEXTULA SIGN,SILIQUA SIGN,UNCIA SIGN),ROOSTER,ROSE,ROSETTE,ROTATED (CAPITAL Q,FLORAL ",
   "HEART BULLET,HEAVY BLACK HEART BULLET,LIGHT FOUR POINTED BLACK CUSP,WHITE FOUR POINTED CUSP),",
   "ROUND (PUSHPIN,TARGET),ROUNDED SYMBOL FOR (CAI,FU,LU,SHOU,SHUANGXI,XI),ROWBOAT,RS,RUBLE SIGN,",
   "RUGBY FOOTBALL,RULE-DELAYED,RUMI (DIGIT (EIGHT,FIVE,FOUR,NINE,ONE,SEVEN,SIX,THREE,TWO),",
   "FRACTION (ONE (HALF,QUARTER,THIRD),TWO THIRDS),NUMBER (EIGHT HUNDRED,EIGHTY,FIFTY,FIVE ",
   "HUNDRED,FORTY,FOUR HUNDRED,NINE HUNDRED,NINETY,ONE HUNDRED,SEVEN HUNDRED,SEVENTY,SIX HUNDRED,",
   "SIXTY,TEN,THIRTY,THREE HUNDRED,TWENTY,TWO HUNDRED)),RUNIC (ARLAUG SYMBOL,BELGTHOR SYMBOL,",
   "CROSS PUNCTUATION,LETTER (AC A,AESC,ALGIZ EOLHX,ANSUZ A,BERKANAN BEORC BJARKAN B,C,CALC,",
   "CEALC,CEN,CWEORTH,D,DAGAZ DAEG D,DOTTED-L,DOTTED-N,DOTTED-P,E,EAR,EHWAZ EH E,ENG,ETH,FEHU ",
   "FEOH FE F,FRANKS CASKET (AC,AESC,EH,IS,OS),G,GAR,GEBO GYFU G,GER,HAEGL H,HAGLAZ H,",
   "ICELANDIC-YR,ING,INGWAZ,IOR,ISAZ IS ISS I,IWAZ EOH,JERAN J,K,KAUN K,KAUNA,LAUKAZ LAGU LOGR L,",
   "LONG-BRANCH-AR AE,LONG-BRANCH-HAGALL H,LONG-BRANCH-MADR M,LONG-BRANCH-OSS O,LONG-BRANCH-YR,",
   "MANNAZ MAN M,NAUDIZ NYD NAUD N,O,OE,ON,OO,OPEN-P,OS O,OTHALAN ETHEL O,PERTHO PEORTH P,Q,",
   "RAIDO RAD REID R,SH,SHORT-TWIG-AR A,SHORT-TWIG-BJARKAN B,SHORT-TWIG-HAGALL H,SHORT-TWIG-MADR ",
   "M,SHORT-TWIG-NAUD N,SHORT-TWIG-OSS O,SHORT-TWIG-SOL S,SHORT-TWIG-TYR T,SHORT-TWIG-YR,SIGEL ",
   "LONG-BRANCH-SOL S,SOWILO S,STAN,THURISAZ THURS THORN,TIWAZ TIR TYR T,URUZ UR U,V,W,WUNJO ",
   "WYNN W,X,Y,YR,Z),MULTIPLE PUNCTUATION,SINGLE PUNCTUATION,TVIMADUR SYMBOL),RUNNER,RUNNING ",
   "SHIRT WITH SASH,RUPEE SIGN,RUSSIAN ASTROLOGICAL SYMBOL (BINOVILE,NOVILE,QUINTILE,SENTAGON,",
   "TREDECILE,VIGINTILE),S IN TRIANGLE,SAFETY (PIN,VEST),SAGITTARIUS,SAILBOAT,SAKE BOTTLE AND ",
   "CUP,SALT SHAKER,SALTIRE,SALUTING FACE,SAMARITAN (ABBREVIATION MARK,LETTER (ALAF,BAA,BIT,",
   "DALAT,FI,GAMAN,IN,IT,IY,KAAF,LABAT,MIM,NUN,QUF,RISH,SHAN,SINGAAT,TAAF,TIT,TSAADIY,YUT,ZEN),",
   "MARK (DAGESH,EPENTHETIC YUT,IN,IN-ALAF,NEQUDAA,OCCLUSION),MODIFIER LETTER (EPENTHETIC YUT,I,",
   "SHORT A),PUNCTUATION (AFSAAQ,ANGED,ANNAAU,ARKAANU,ATMAAU,BAU,MELODIC QITSA,NEQUDAA,QITSA,",
   "SHIYYAALAA,SOF MASHFAAT,TURU,ZAEF,ZIQAA),VOWEL SIGN (A,AA,E,I,LONG (A,AA,E,I,U),O,OVERLONG (",
   "A,AA),SHORT A,SUKUN,U)),SANDWICH,SANS-SERIF (HEAVY (DOUBLE (COMMA QUOTATION MARK ORNAMENT,",
   "TURNED COMMA QUOTATION MARK ORNAMENT),LOW DOUBLE COMMA QUOTATION MARK ORNAMENT),INTERROBANG ",
   "ORNAMENT),SARI,SATELLITE(, ANTENNA),SATURN,SAURASHTRA (CONSONANT SIGN HAARU,DANDA,DIGIT (",
   "EIGHT,FIVE,FOUR,NINE,ONE,SEVEN,SIX,THREE,TWO,ZERO),DOUBLE DANDA,LETTER (A,AA,AI,AU,BA,BHA,CA,",
   "CHA,DA,DDA,DDHA,DHA,E,EE,GA,GHA,HA,I,II,JA,JHA,KA,KHA,LA,LLA,MA,NA,NGA,NNA,NYA,O,OO,PA,PHA,",
   "RA,SA,SHA,SSA,TA,THA,TTA,TTHA,U,UU,VA,VOCALIC (L,LL,R,RR),YA),SIGN (ANUSVARA,CANDRABINDU,",
   "VIRAMA,VISARGA),VOWEL SIGN (AA,AI,AU,E,EE,I,II,O,OO,U,UU,VOCALIC (L,LL,R,RR))),SAUROPOD,",
   "SAXOPHONE,SCALES,SCARF,SCHOOL(, SATCHEL),SCI,SCOOTER,SCORPION,SCORPIUS,SCREEN,SCREWDRIVER,",
   "SCRIPT (CAPITAL (B,E,F,H,I,L,M,P,R),LIGATURE ET ORNAMENT,SMALL (E,G,L,O)),SCROLL,SCRUPLE,",
   "SEAL,SEAT,SECOND PLACE MEDAL,SECTION SIGN,SECTOR,SEDNA,SEE-NO-EVIL MONKEY,SEEDLING,SEGMENT,",
   "SEGMENTED DIGIT (EIGHT,FIVE,FOUR,NINE,ONE,SEVEN,SIX,THREE,TWO,ZERO),SELFIE,SEMICOLON,",
   "SEMIDIRECT PRODUCT WITH BOTTOM CLOSED,SEMISEXTILE,SEPARATED SYMBOL,SERIOUS FACE WITH SYMBOLS ",
   "COVERING MOUTH,SERVICE MARK,SESAME DOT,SESQUIQUADRATE,SET (MINUS,TRANSMIT STATE),SEWING ",
   "NEEDLE,SEXTILE,SGC,SHADOWED WHITE (CIRCLE,LATIN CROSS,STAR),SHALLOW PAN OF FOOD,SHAMROCK,",
   "SHARADA (ABBREVIATION SIGN,CONTINUATION SIGN,DANDA,DIGIT (EIGHT,FIVE,FOUR,NINE,ONE,SEVEN,SIX,",
   "THREE,TWO,ZERO),DOUBLE DANDA,EKAM,EXTRA SHORT VOWEL MARK,HEADSTROKE,LETTER (A,AA,AI,AU,BA,",
   "BHA,CA,CHA,DA,DDA,DDHA,DHA,E,GA,GHA,HA,I,II,JA,JHA,KA,KHA,LA,LLA,MA,NA,NGA,NNA,NYA,O,PA,PHA,",
   "RA,SA,SHA,SSA,TA,THA,TTA,TTHA,U,UU,VA,VOCALIC (L,LL,R,RR),YA),OM,SANDHI MARK,SECTION (MARK-1,",
   "MARK-2),SEPARATOR,SIGN (ANUSVARA,AVAGRAHA,CANDRABINDU,INVERTED CANDRABINDU,JIHVAMULIYA,NUKTA,",
   "SIDDHAM,UPADHMANIYA,VIRAMA,VISARGA),SUTRA MARK,VOWEL (MODIFIER MARK,SIGN (AA,AI,AU,E,I,II,O,",
   "PRISHTHAMATRA E,U,UU,VOCALIC (L,LL,R,RR)))),SHARK,SHAVED ICE,SHAVIAN LETTER (ADO,AGE,AH,AIR,",
   "ARE,ARRAY,ASH,AWE,BIB,CHURCH,DEAD,EAR,EAT,EGG,ERR,FEE,GAG,HA-HA,HUNG,IAN,ICE,IF,JUDGE,KICK,",
   "LOLL,MEASURE,MIME,NUN,OAK,OIL,ON,OOZE,OR,OUT,PEEP,ROAR,SO,SURE,THEY,THIGH,TOT,UP,VOW,WOE,",
   "WOOL,YEA,YEW,ZOO),SHEEP,SHIELD,SHIFT (IN,OUT),SHINTO SHRINE,SHIP,SHOCKED FACE WITH EXPLODING ",
   "HEAD,SHOOTING STAR,SHOPPING (BAGS,TROLLEY),SHORT (BACKSLANTED SOUTH ARROW,BENT ARROW ",
   "POINTING DOWNWARDS THEN NORTH EAST,DOWN TACK(, WITH OVERBAR),LEFT TACK,RIGHTWARDS ARROW ",
   "ABOVE LEFTWARDS ARROW,SLANTED NORTH ARROW,UP TACK(, ABOVE SHORT DOWN TACK, WITH UNDERBAR)),",
   "SHORTCAKE,SHORTHAND FORMAT (CONTINUING OVERLAP,DOWN STEP,LETTER OVERLAP,UP STEP),SHORTS,",
   "SHOULDERED OPEN BOX,SHOWER,SHRIMP,SHRUG,SHUFFLE PRODUCT,SHY,SI,SIDDHAM (DANDA,DOUBLE DANDA,",
   "END OF TEXT MARK,LETTER (A,AA,AI,ALTERNATE U,AU,BA,BHA,CA,CHA,DA,DDA,DDHA,DHA,E,GA,GHA,HA,I,",
   "II,JA,JHA,KA,KHA,LA,MA,NA,NGA,NNA,NYA,O,PA,PHA,RA,SA,SHA,SSA,TA,THA,THREE-CIRCLE ALTERNATE I,",
   "TTA,TTHA,TWO-CIRCLE ALTERNATE (I,II),U,UU,VA,VOCALIC (L,LL,R,RR),YA),REPETITION (MARK-1,",
   "MARK-2,MARK-3),SECTION MARK (DOUBLE RING(, WITH RAYS),WITH (CIRCLES AND (FOUR ENCLOSURES,",
   "RAYS,TWO ENCLOSURES),DOUBLE CRESCENTS,QUADRUPLE CRESCENTS,RAYS AND DOTTED (CRESCENTS,DOUBLE ",
   "CRESCENTS,TRIPLE CRESCENTS),SEPTUPLE CRESCENTS,TRIDENT AND (DOTTED CRESCENTS,U-SHAPED ",
   "ORNAMENTS),TRIPLE CRESCENTS)),SEPARATOR (BAR,DOT),SIGN (ANUSVARA,CANDRABINDU,NUKTA,SIDDHAM,",
   "VIRAMA,VISARGA),VOWEL SIGN (AA,AI,ALTERNATE (U,UU),AU,E,I,II,O,U,UU,VOCALIC (R,RR))),",
   "SIDEWAYS (BLACK (DOWN POINTING INDEX,LEFT POINTING INDEX,RIGHT POINTING INDEX,UP POINTING ",
   "INDEX),WHITE (DOWN POINTING INDEX,LEFT POINTING INDEX,RIGHT POINTING INDEX,UP POINTING INDEX)",
   "),SIGN OF THE HORNS,SIGNWRITING (AIR (BLOW SMALL ROTATIONS,BLOWING OUT,SUCK SMALL ROTATIONS,",
   "SUCKING IN),BREATH (EXHALE,INHALE),BRUSH (BETWEEN,MULTIPLE,SINGLE),CHEEKS (NEUTRAL,PUFFED,",
   "SUCKED),COLON,COMMA,DREAMY EYEBROWS (DOWN NEUTRAL,NEUTRAL (DOWN,UP),UP NEUTRAL),DYNAMIC (",
   "ARROWHEAD (LARGE,SMALL),EVERY OTHER TIME,FAST,GRADUAL,RELAXED,SIMULTANEOUS(, ALTERNATING),",
   "SLOW,TENSE),EARS,EXCITEMENT,EYE (BLINK (MULTIPLE,SINGLE),WINK),EYEBROWS STRAIGHT (DOWN,",
   "NEUTRAL,UP),EYEGAZE-FLOORPLANE (CURVED,STRAIGHT(, ALTERNATING, DOUBLE)),EYEGAZE-WALLPLANE (",
   "CIRCLING,CURVED,STRAIGHT(, ALTERNATING, DOUBLE)),EYELASHES (DOWN,FLUTTERING,UP),EYES (CLOSED,",
   "HALF (CLOSED,OPEN),OPEN,SQUEEZED,WIDE OPEN,WIDENING MOVEMENT),FACE DIRECTION POSITION NOSE (",
   "FORWARD TILTING,UP OR DOWN(, TILTING)),FILL (MODIFIER-2,MODIFIER-3,MODIFIER-4,MODIFIER-5,",
   "MODIFIER-6),FINGER,FLICK (LARGE (MULTIPLE,SINGLE),SEQUENTIAL,SMALL (MULTIPLE,SINGLE)),",
   "FLOORPLANE SHOULDER HIP MOVE,FOREHEAD (CONTACT,NEUTRAL,WRINKLED),FULL STOP,GRASP (BETWEEN,",
   "MULTIPLE,SINGLE),HAIR,HAND-ANGLE(, INDEX(, MIDDLE (LITTLE,RING), RING LITTLE(, OUT), THUMB(, ",
   "IN, OUT)), LITTLE (INDEX(, THUMB INDEX THUMB(, OUT)),UP), MIDDLE RING LITTLE(, IN, OUT), ",
   "RING (DOWN MIDDLE THUMB INDEX CROSS,LITTLE)),HAND-CIRCLE(, INDEX(, BENT, HINGE, MIDDLE(, ",
   "CROSS LITTLE, CROSSED, LITTLE, RING, THUMB), RING LITTLE), LITTLE (INDEX,UP), MIDDLE (RING ",
   "LITTLE(, BENT),UP), RING LITTLE),HAND-CLAW(, FOUR FINGERS CONJOINED, INDEX THUMB CURVE THUMB ",
   "INSIDE, MIDDLE RING LITTLE CONJOINED(, SIDE), NO THUMB, THUMB (FORWARD,SIDE)),HAND-CUP(, ",
   "FIVE FINGERS SPREAD(, OPEN), INDEX(, RING LITTLE, THUMB(, OPEN)), MIDDLE RING LITTLE, NO ",
   "THUMB, OPEN(, NO THUMB, THUMB (FORWARD,SIDE)), THUMB (FORWARD,SIDE)),HAND-CURLICUE(, INDEX ",
   "RING LITTLE ON, MIDDLE RING LITTLE ON, OPEN),HAND-FIST(, FOUR FINGERS CONJOINED BENT, HEEL, ",
   "INDEX(, BENT(, OVER MIDDLE), CUPPED, HINGED(, LOW, MIDDLE UP(, THUMB SIDE)), MIDDLE(, BENT(, ",
   "THUMB STRAIGHT), CONJOINED(, CUPPED(, THUMB FORWARD), HINGED(, THUMB SIDE), INDEX BENT, ",
   "MIDDLE BENT, THUMB (FORWARD,SIDE(, BENT, CONJOINED))), CROSS LITTLE, CROSSED(, THUMB SIDE), ",
   "HINGED(, SPREAD THUMB SIDE), LITTLE, RAISED KNUCKLES, RING(, BENT, CONJOINED), STRAIGHT ",
   "THUMB BENT, THUMB(, ANGLED(, OUT), BENT, CIRCLED, CONJOINED HINGED, CUPPED, HINGED, HOOKED), ",
   "UP SPREAD THUMB FORWARD), RAISED KNUCKLE, RING LITTLE, THUMB (ANGLED (IN MIDDLE UP,OUT ",
   "MIDDLE UP),CIRCLE,CIRCLED MIDDLE UP,CUPPED MIDDLE UP,CURLICUE,CURVE THUMB (INSIDE,UNDER),",
   "FORWARD INDEX (BENT,STRAIGHT),HOOK,HOOKED MIDDLE (HINGED,UP),SIDE(, BOTH BENT, INDEX (BENT,",
   "HINGE), THUMB (BENT,CONJOINED,DIAGONAL))), UP MIDDLE HINGED(, THUMB (CONJOINED,SIDE))), ",
   "LITTLE (BENT,DOWN(, OTHERS CIRCLED, RIPPLE (CURVED,STRAIGHT)),INDEX(, THUMB),RAISED KNUCKLE,",
   "THUMB,TOUCHES THUMB,UP), MIDDLE (BENT OVER INDEX,DOWN,LITTLE,RAISED KNUCKLE,RING LITTLE,",
   "THUMB (ANGLED (INDEX UP,OUT INDEX (CROSSED,UP)),CIRCLED INDEX (HINGED,UP),CUPPED INDEX UP,",
   "HOOKED INDEX UP,LITTLE),UP(, THUMB SIDE)), RING (DOWN,INDEX,LITTLE,MIDDLE(, CONJOINED, ",
   "RAISED KNUCKLES),RAISED KNUCKLE,THUMB,UP), THUMB(, BETWEEN (INDEX MIDDLE(, STRAIGHT),MIDDLE ",
   "RING,RING LITTLE), FORWARD, HEEL, OVER (FOUR RAISED KNUCKLES,TWO FINGERS), SIDE (BENT,",
   "CONJOINED,DIAGONAL), UNDER (FOUR FINGERS,INDEX BENT,LITTLE UP,THREE FINGERS,TWO FINGERS))),",
   "HAND-FLAT(, BETWEEN PALM FACINGS, FIVE FINGERS SPREAD(, BENT, FOUR BENT, HINGED(, NO THUMB, ",
   "THUMB SIDE), THUMB FORWARD), FOUR FINGERS(, BENT, CONJOINED(, SPLIT), HINGED), HEEL(, FIVE ",
   "FINGERS SPREAD(, BENT, FOUR BENT), THUMB SIDE), SPLIT (CENTRE(, THUMB SIDE(, BENT)),INDEX ",
   "THUMB SIDE,LITTLE), THUMB (BENT,FORWARD,SIDE)),HAND-HINGE(, FIVE FINGERS SPREAD OPEN, FOUR ",
   "FINGERS CONJOINED, INDEX(, HINGED, MIDDLE (LITTLE,RING(, CONJOINED)), RING LITTLE, THUMB(, ",
   "LARGE, OPEN, SIDE, SMALL)), LITTLE(, INDEX(, THUMB), THUMB), MIDDLE(, RING LITTLE), NO THUMB,",
   " OPEN(, NO THUMB, THUMB (FORWARD,SIDE)), RING(, DOWN INDEX THUMB HOOK MIDDLE), SMALL, THUMB (",
   "BETWEEN MIDDLE RING,SIDE(, TOUCHING INDEX))),HAND-HOOK(, CURLICUE, INDEX RING LITTLE (IN,OUT,",
   "UNDER), MIDDLE (RING LITTLE CONJOINED(, IN, OUT),THUMB), RING THUMB),HAND-OVAL(, FIVE ",
   "FINGERS SPREAD, INDEX, LITTLE UP, NO THUMB, RING LITTLE, THUMB (FORWARD,SIDE)),HEAD(, ",
   "MOVEMENT CIRCLE, MOVEMENT-FLOORPLANE (CURVE,STRAIGHT), MOVEMENT-WALLPLANE (CURVE,STRAIGHT,",
   "TILT), RIM),LIMB (COMBINATION,LENGTH-1,LENGTH-2,LENGTH-3,LENGTH-4,LENGTH-5,LENGTH-6,LENGTH-7)",
   ",LIP (LOWER OVER UPPER,UPPER OVER LOWER),LIPS PRESSED TOGETHER,LOCATION (DEPTH,HEAD NECK,",
   "HEIGHT,LIMBS DIGITS,TORSO,WIDTH),LOCATION-FLOORPLANE SPACE,LOCATION-WALLPLANE SPACE,MOUTH (",
   "CLOSED (CONTACT,FORWARD,NEUTRAL),CORNERS,FROWN(, OPEN, WRINKLED),KISS(, FORWARD, WRINKLED),",
   "OPEN (CIRCLE,FORWARD,OVAL(, WRINKLED, YAWN),RECTANGLE(, WRINKLED, YAWN),WRINKLED),SMILE(, ",
   "OPEN, WRINKLED),TENSE(, FORWARD, SUCKED),WRINKLES (DOUBLE,SINGLE)),MOVEMENT-DIAGONAL (AWAY (",
   "LARGE,LARGEST,MEDIUM,SMALL),BETWEEN (AWAY (LARGE,LARGEST,MEDIUM,SMALL),TOWARDS (LARGE,",
   "LARGEST,MEDIUM,SMALL)),TOWARDS (LARGE,LARGEST,MEDIUM,SMALL)),MOVEMENT-FLOORPLANE (ARM CIRCLE ",
   "HITTING WALL (LARGE (DOUBLE,SINGLE),MEDIUM (DOUBLE,SINGLE),SMALL (DOUBLE,SINGLE)),BEND,BOX (",
   "LARGE,MEDIUM,SMALL),CHECK,CORNER (LARGE,MEDIUM,SMALL),CROSS,CURVE (COMBINED,HITTING (CEILING ",
   "(LARGE,SMALL),FLOOR (LARGE,SMALL)),LARGE,LARGEST,MEDIUM,SMALL),DOUBLE (ALTERNATING(, WRIST ",
   "FLEX),STRAIGHT,WRIST FLEX),FINGER (CIRCLES HITTING WALL (DOUBLE,SINGLE),CONTACT),HUMP (",
   "HITTING (CEILING (LARGE (DOUBLE,TRIPLE),SMALL (DOUBLE,TRIPLE)),FLOOR (LARGE DOUBLE,SMALL ",
   "DOUBLE,TRIPLE (LARGE TRIPLE,SMALL TRIPLE))),SMALL),JAW,LOOP (HITTING (CEILING (LARGE (DOUBLE,",
   "SINGLE),SMALL (DOUBLE,SINGLE)),FLOOR (LARGE (DOUBLE,SINGLE),SMALL (DOUBLE,SINGLE))),SMALL),",
   "PEAKS (LARGE,MEDIUM,SMALL),SHAKING PARALLEL,SINGLE (STRAIGHT (LARGE,LARGEST,MEDIUM,SMALL),",
   "WRIST FLEX),TRIPLE (ALTERNATING (MOVEMENT,WRIST FLEX),STRAIGHT MOVEMENT,WRIST FLEX),WAVE (",
   "HITTING (CEILING (LARGE,SMALL),FLOOR (LARGE,SMALL)),LARGE,SMALL,SNAKE),WRIST CIRCLE HITTING ",
   "WALL (DOUBLE,SINGLE),ZIGZAG (LARGE,MEDIUM,SMALL)),MOVEMENT-HINGE (DOWN SEQUENTIAL,SIDE TO ",
   "SIDE SCISSORS,UP (DOWN (ALTERNATING (LARGE,SMALL),LARGE,SMALL),SEQUENTIAL)),",
   "MOVEMENT-WALLPLANE (ARM CIRCLE (MEDIUM (DOUBLE,SINGLE),SMALL (DOUBLE,SINGLE)),BEND (LARGE,",
   "MEDIUM,SMALL),BOX (LARGE,MEDIUM,SMALL),CHECK (LARGE,MEDIUM,SMALL),CORNER (LARGE,MEDIUM,",
   "ROTATION,SMALL),CROSS,CURVE (HALF-CIRCLE (LARGE,LARGEST,MEDIUM,SMALL),HITTING (CHEST,FRONT ",
   "WALL),QUARTER (LARGE,LARGEST,MEDIUM,SMALL),THEN STRAIGHT,THREE-QUARTER CIRCLE (MEDIUM,SMALL))",
   ",CURVED CROSS (MEDIUM,SMALL),DOUBLE (ALTERNATING(, WRIST FLEX),STRAIGHT,WRIST FLEX),FINGER (",
   "CIRCLES (DOUBLE,SINGLE),CONTACT),HUMP (HITTING (CHEST,FRONT WALL),LARGE,MEDIUM,SMALL),JAW,",
   "LOOP (HITTING (CHEST,FRONT WALL),LARGE,MEDIUM,SMALL(, DOUBLE)),PEAKS (LARGE,MEDIUM,SMALL),",
   "SHAKING,SINGLE (STRAIGHT (LARGE,LARGEST,MEDIUM,SMALL),WRIST FLEX),TRIPLE (ALTERNATING(, ",
   "WRIST FLEX),STRAIGHT MOVEMENT,WRIST FLEX),WAVE (CURVE (DOUBLE (LARGE,MEDIUM,SMALL),TRIPLE (",
   "LARGE,MEDIUM,SMALL)),DIAGONAL PATH (LARGE,MEDIUM,SMALL),HITTING (CHEST,FRONT WALL)),WRIST ",
   "CIRCLE FRONT (DOUBLE,SINGLE),ZIGZAG (LARGE,MEDIUM,SMALL)),NECK,NOSE (CONTACT,NEUTRAL,WIGGLES,",
   "WRINKLES),PARENTHESIS,ROTATION (MODIFIER-10,MODIFIER-11,MODIFIER-12,MODIFIER-13,MODIFIER-14,",
   "MODIFIER-15,MODIFIER-16,MODIFIER-2,MODIFIER-3,MODIFIER-4,MODIFIER-5,MODIFIER-6,MODIFIER-7,",
   "MODIFIER-8,MODIFIER-9),ROTATION-FLOORPLANE (ALTERNATING(, HITTING (CEILING,FLOOR)),DOUBLE(, ",
   "HITTING (CEILING,FLOOR)),SINGLE(, HITTING (CEILING,FLOOR))),ROTATION-WALLPLANE (ALTERNATE,",
   "ALTERNATING HITTING (CHEST,FRONT WALL),DOUBLE(, HITTING (CHEST,FRONT WALL)),SINGLE(, HITTING ",
   "(CHEST,FRONT WALL))),RUB (BETWEEN,MULTIPLE,SINGLE),SEMICOLON,SHOULDER (HIP (POSITIONS,SPINE),",
   "TILTING FROM WAIST),SQUEEZE (FLICK ALTERNATING,LARGE (MULTIPLE,SINGLE),SEQUENTIAL,SMALL (",
   "MULTIPLE,SINGLE)),STRIKE (BETWEEN,MULTIPLE,SINGLE),SURFACE (BETWEEN,SYMBOLS),TEETH(, BITE ",
   "LIPS, MOVEMENT, ON (LIPS(, MOVEMENT),TONGUE(, MOVEMENT))),TENSE CHEEKS (HIGH,LOW,MIDDLE),",
   "TONGUE (CENTRE (INSIDE MOUTH,STICKING OUT),INSIDE MOUTH RELAXED,LICKING LIPS,MOVES AGAINST ",
   "CHEEK,STICKING OUT FAR,TIP (BETWEEN LIPS,TOUCHING INSIDE MOUTH)),TORSO-FLOORPLANE TWISTING,",
   "TORSO-WALLPLANE (CURVED BEND,STRAIGHT STRETCH),TOUCH (BETWEEN,MULTIPLE,SINGLE),",
   "TRAVEL-FLOORPLANE (ROTATION-FLOORPLANE (ALTERNATING,DOUBLE,SINGLE),ROTATION-WALLPLANE (",
   "ALTERNATING,DOUBLE,SINGLE),SHAKING),TRAVEL-WALLPLANE (ARM SPIRAL (DOUBLE,SINGLE,TRIPLE),",
   "ROTATION-FLOORPLANE (ALTERNATING,DOUBLE,SINGLE),ROTATION-WALLPLANE (ALTERNATING,DOUBLE,",
   "SINGLE),SHAKING),UPPER BODY TILTING FROM HIP JOINTS,WALLPLANE SHOULDER HIP MOVE),SILHOUETTE ",
   "OF JAPAN,SIMILAR (ABOVE (GREATER-THAN ABOVE EQUALS SIGN,LESS-THAN ABOVE EQUALS SIGN),MINUS ",
   "SIMILAR,OR (GREATER-THAN,LESS-THAN)),SINE WAVE,SINGLE (CHARACTER INTRODUCER,GRAPHIC ",
   "CHARACTER INTRODUCER,HIGH-REVERSED-9 QUOTATION MARK,LEFT-POINTING ANGLE QUOTATION MARK,LOW-9 ",
   "QUOTATION MARK,RIGHT-POINTING ANGLE QUOTATION MARK,SHIFT (THREE,TWO)),SINGLE-SHIFT-2,",
   "SINGLE-SHIFT-3,SINHALA (ARCHAIC (DIGIT (EIGHT,FIVE,FOUR,NINE,ONE,SEVEN,SIX,THREE,TWO),NUMBER ",
   "(EIGHTY,FIFTY,FORTY,NINETY,ONE (HUNDRED,THOUSAND),SEVENTY,SIXTY,TEN,THIRTY,TWENTY)),LETTER (",
   "AAYANNA,AEEYANNA,AEYANNA,AIYANNA,ALPAPRAANA (BAYANNA,CAYANNA,DAYANNA,DDAYANNA,GAYANNA,",
   "JAYANNA,KAYANNA,PAYANNA,TAYANNA,TTAYANNA),AMBA BAYANNA,AUYANNA,AYANNA,DANTAJA (LAYANNA,",
   "NAYANNA,SAYANNA),EEYANNA,EYANNA,FAYANNA,HAYANNA,IIYANNA,ILUUYANNA,ILUYANNA,IRUUYANNA,",
   "IRUYANNA,IYANNA,KANTAJA NAASIKYAYA,MAHAAPRAANA (BAYANNA,CAYANNA,DAYANNA,DDAYANNA,GAYANNA,",
   "JAYANNA,KAYANNA,PAYANNA,TAYANNA,TTAYANNA),MAYANNA,MUURDHAJA (LAYANNA,NAYANNA,SAYANNA),",
   "OOYANNA,OYANNA,RAYANNA,SANYAKA (DAYANNA,DDAYANNA,GAYANNA,JAYANNA),TAALUJA (NAASIKYAYA,",
   "SANYOOGA NAAKSIKYAYA,SAYANNA),UUYANNA,UYANNA,VAYANNA,YAYANNA),LITH DIGIT (EIGHT,FIVE,FOUR,",
   "NINE,ONE,SEVEN,SIX,THREE,TWO,ZERO),PUNCTUATION KUNDDALIYA,SIGN (AL-LAKUNA,ANUSVARAYA,",
   "CANDRABINDU,VISARGAYA),VOWEL SIGN (AELA-PILLA,DIGA (AEDA-PILLA,GAETTA-PILLA,GAYANUKITTA,",
   "IS-PILLA,KOMBUVA,PAA-PILLA),GAETTA-PILLA,GAYANUKITTA,KETTI (AEDA-PILLA,IS-PILLA,PAA-PILLA),",
   "KOMBU DEKA,KOMBUVA(, HAA (AELA-PILLA,DIGA AELA-PILLA,GAYANUKITTA)))),SIX (PETALLED BLACK AND ",
   "WHITE FLORETTE,POINTED (BLACK STAR,PINWHEEL STAR,STAR WITH MIDDLE DOT)),SIX-PER-EM SPACE,",
   "SIXTEEN POINTED ASTERISK,SKATEBOARD,SKI AND SKI BOOT,SKIER,SKULL(, AND CROSSBONES),SKUNK,",
   "SLANTED (EQUAL TO OR (GREATER-THAN(, WITH DOT INSIDE),LESS-THAN(, WITH DOT INSIDE)),NORTH ",
   "ARROW WITH (HOOKED HEAD,HORIZONTAL TAIL)),SLAVONIC ASTERISK,SLED,SLEEPING (ACCOMMODATION,",
   "FACE,SYMBOL),SLEEPY FACE,SLEUTH OR SPY,SLICE OF PIZZA,SLIGHTLY (FROWNING FACE,SMILING FACE),",
   "SLOPE,SLOPING LARGE (AND,OR),SLOT MACHINE,SLOTH,SMALL (AIRPLANE,AMPERSAND,ASTERISK,BLUE ",
   "DIAMOND,COLON,COMMA,COMMERCIAL AT,CONTAINS (AS MEMBER,WITH (OVERBAR,VERTICAL BAR AT END OF ",
   "HORIZONTAL STROKE)),DOLLAR SIGN,ELEMENT OF(, WITH (OVERBAR,VERTICAL BAR AT END OF HORIZONTAL ",
   "STROKE)),EM DASH,EQUALS SIGN,EXCLAMATION MARK,FULL STOP,GREATER-THAN SIGN,HYPHEN-MINUS,",
   "IDEOGRAPHIC COMMA,LEFT (CURLY BRACKET,PARENTHESIS,TORTOISE SHELL BRACKET),LESS-THAN SIGN,",
   "NUMBER SIGN,ORANGE DIAMOND,PERCENT SIGN,PLUS SIGN,QUESTION MARK,REVERSE SOLIDUS,RIGHT (CURLY ",
   "BRACKET,PARENTHESIS,TORTOISE SHELL BRACKET),ROMAN NUMERAL (EIGHT,ELEVEN,FIFTY,FIVE(, HUNDRED)",
   ",FOUR,NINE,ONE(, HUNDRED, THOUSAND),SEVEN,SIX,TEN,THREE,TWELVE,TWO),SEMICOLON,TILDE,TWO DOTS ",
   "OVER ONE DOT PUNCTUATION,VEE WITH UNDERBAR),SMALLER THAN(, OR EQUAL TO),SMASH PRODUCT,SMILE,",
   "SMILING (CAT FACE WITH (HEART-SHAPED EYES,OPEN MOUTH),FACE WITH (HALO,HEART-SHAPED EYES,",
   "HORNS,OPEN MOUTH(, AND (COLD SWEAT,SMILING EYES,TIGHTLY-CLOSED EYES)),SMILING EYES(, AND (",
   "HAND COVERING MOUTH,THREE HEARTS)),SUNGLASSES,TEAR)),SMIRKING FACE,SMOKING SYMBOL,SNAIL,",
   "SNAKE,SNEEZING FACE,SNOW CAPPED MOUNTAIN,SNOWBOARDER,SNOWFLAKE,SNOWMAN(, WITHOUT SNOW),SO,",
   "SOCCER BALL,SOCKS,SOFT (HYPHEN,ICE CREAM,SHELL FLOPPY DISK),SOFTBALL,SOFTWARE-FUNCTION ",
   "SYMBOL,SOGDIAN (COMBINING (CURVE (ABOVE,BELOW),DOT (ABOVE,BELOW),HOOK (ABOVE,BELOW),LONG ",
   "HOOK BELOW,RESH BELOW,STROKE BELOW,TWO DOTS (ABOVE,BELOW)),INDEPENDENT SHIN,LETTER (ALEPH,",
   "AYIN,BETH,FETH,GIMEL,HE,HETH,KAPH,LAMEDH,LESH,MEM,NUN,PE,RESH-AYIN,SADHE,SAMEKH,SHIN,TAW,WAW,",
   "YODH,ZAYIN),NUMBER (ONE(, HUNDRED),TEN,TWENTY),PUNCTUATION (CIRCLE WITH DOT,HALF CIRCLE WITH ",
   "DOT,TWO (CIRCLES WITH DOTS,VERTICAL BARS(, WITH DOTS)))),SOH,SOLID QUILT SQUARE ORNAMENT(, ",
   "IN BLACK SQUARE),SOLIDUS(, WITH OVERBAR),SOM SIGN,SOON WITH RIGHTWARDS ARROW ABOVE,SORA ",
   "SOMPENG (DIGIT (EIGHT,FIVE,FOUR,NINE,ONE,SEVEN,SIX,THREE,TWO,ZERO),LETTER (AH,BAH,CAH,DAH,",
   "EEH,EH,GAH,HAH,IH,JAH,KAH,LAH,MAE,MAH,NAH,NGAH,NYAH,OH,PAH,RAH,SAH,TAH,UH,VAH,YAH)),SOS,",
   "SOUND RECORDING COPYRIGHT,SOUTH (EAST (ARROW(, AND SOUTH WEST ARROW, CROSSING NORTH EAST ",
   "ARROW, TO CORNER, WITH HOOK),BLACK ARROW,DOUBLE ARROW,POINTING (BUD,LEAF,VINE LEAF),",
   "SANS-SERIF ARROW,TRIANGLE-HEADED ARROW(, TO BAR),WHITE ARROW),WEST (ARROW(, AND NORTH WEST ",
   "ARROW, WITH HOOK),BLACK ARROW,DOUBLE ARROW,POINTING (BUD,LEAF,VINE LEAF),SANS-SERIF ARROW,",
   "TRIANGLE-HEADED ARROW(, TO BAR),WHITE ARROW)),SOYOMBO (CLUSTER-INITIAL LETTER (LA,RA,SA,SHA),",
   "FINAL CONSONANT SIGN (-A,B,D,G,K,L,M,N,NG,R,S,SH),GEMINATION MARK,HEAD MARK WITH MOON AND ",
   "SUN(, AND (FLAME,TRIPLE FLAME)),LETTER (-A,A,BA,BHA,CA,CHA,DA,DDA,DDHA,DHA,DZA,GA,GHA,HA,JA,",
   "JHA,KA,KHA,KSSA,LA,MA,NA,NGA,NNA,NYA,PA,PHA,RA,SA,SHA,SSA,TA,THA,TSA,TSHA,TTA,TTHA,VA,YA,ZA,",
   "ZHA),MARK (DOUBLE SHAD,PLUTA,SHAD,TSHEG),SIGN (ANUSVARA,JIHVAMULIYA,UPADHMANIYA,VISARGA),",
   "SUBJOINER,TERMINAL (MARK-1,MARK-2),VOWEL (LENGTH MARK,SIGN (AI,AU,E,I,O,OE,U,UE,VOCALIC (L,R)",
   "))),SP,SPA,SPACE,SPAGHETTI,SPARKLE,SPARKLES,SPARKLING HEART,SPEAK-NO-EVIL MONKEY,SPEAKER(, ",
   "WITH (CANCELLATION STROKE,ONE SOUND WAVE,THREE SOUND WAVES)),SPEAKING HEAD IN SILHOUETTE,",
   "SPEECH BALLOON,SPEEDBOAT,SPESMILO SIGN,SPHERICAL ANGLE(, OPENING (LEFT,UP)),SPIDER(, WEB),",
   "SPIRAL (CALENDAR PAD,NOTE PAD,SHELL),SPLASHING SWEAT SYMBOL,SPONGE,SPOOL OF THREAD,SPOON,",
   "SPORTS MEDAL,SPOUTING WHALE,SQUARE (A OVER M,AARU,AM,ANPEA,APAATO,ARUHUA,AU,BAARERU,BAR,",
   "BEETA,BIRU,BORUTO,BQ,BUSSYERU,C OVER KG,CAL,CAP,CC,CD,CM(, CUBED, SQUARED),CO,CORPORATION,",
   "CUP,DA,DAASU,DB,DESI,DJ,DL,DM(, CUBED, SQUARED),DORU,EEKAA,ERA NAME (HEISEI,MEIZI,REIWA,",
   "SYOUWA,TAISYOU),ERG,ESUKUUDO,EV,FM,FOOT,FOUR CORNERS,GAL,GANMA,GARON,GB,GHZ,GIGA,GINII,",
   "GIRUDAA,GPA,GURAMU,GURAMUTON,GY,HA,HAITU,HEKUTAARU,HERUTU,HG,HIRAGANA HOKA,HON,HOON,HOORU,HP,",
   "HPA,HUARADDO,HUIITO,HURAN,HZ,IMAGE OF(, OR (EQUAL TO,NOT EQUAL TO)),IN,ININGU,INTI,IU,K OHM,",
   "KA,KAIRI,KARATTO,KARORII,KB,KCAL,KEESU,KG,KHZ,KIRO,KIROGURAMU,KIROMEETORU,KIROWATTO,KK,KL,KM(",
   ", CAPITAL, CUBED, SQUARED),KOOPO,KORUNA,KPA,KT,KUROONE,KURUZEIRO,KV,KW,KYURII,LEFT OPEN BOX ",
   "OPERATOR,LM,LN,LOG,LOZENGE,LX,M (CUBED,OHM,OVER S(, SQUARED),SQUARED),MA,MAHHA,MAIKURO,MAIRU,",
   "MANSYON,MARUKU,MB(, SMALL),MEETORU,MEGA,MEGATON,MG,MHZ,MIKURON,MIL,MIRI,MIRIBAARU,ML,MM(, ",
   "CUBED, SQUARED),MOL,MPA,MS,MU (A,F,G,L,M,S,V,W),MV(, MEGA),MW(, MEGA),NA,NANO,NF,NM,NOTTO,NS,",
   "NV,NW,ONSU,OOMU,ORIGINAL OF(, OR (EQUAL TO,NOT EQUAL TO)),OV,PA(, AMPS),PAASENTO,PAATU,PC,",
   "PEEZI,PENIHI,PENSU,PESO,PF,PH,PIASUTORU,PIKO,PIKURU,PM,POINTO,PONDO,POSITION INDICATOR,PPM,",
   "PR,PS,PV,PW,RAD(, OVER S(, SQUARED)),REMU,RENTOGEN,RIGHT OPEN BOX OPERATOR,RIRA,RITTORU,ROOT,",
   "RUPII,RUUBURU,SAIKURU,SANTIIMU,SENTI,SENTO,SIRINGU,SR,SV,TARGET,THZ,TON,UON,V OVER M,WATTO,",
   "WB,WITH (BOTTOM HALF BLACK,CONTOURED OUTLINE,DIAGONAL CROSSHATCH FILL,HORIZONTAL FILL,LEFT ",
   "HALF BLACK,LOWER (LEFT DIAGONAL HALF BLACK,RIGHT DIAGONAL HALF BLACK),ORTHOGONAL CROSSHATCH ",
   "FILL,RIGHT HALF BLACK,TOP HALF BLACK,UPPER (LEFT (DIAGONAL HALF BLACK,TO LOWER RIGHT FILL),",
   "RIGHT (DIAGONAL HALF BLACK,TO LOWER LEFT FILL)),VERTICAL FILL),YAADO,YAARU,YUAN),SQUARED (",
   "ASTERISK,CJK UNIFIED (IDEOGRAPH-4E00,IDEOGRAPH-4E09,IDEOGRAPH-4E2D,IDEOGRAPH-4E8C,",
   "IDEOGRAPH-4EA4,IDEOGRAPH-518D,IDEOGRAPH-521D,IDEOGRAPH-524D,IDEOGRAPH-5272,IDEOGRAPH-53CC,",
   "IDEOGRAPH-53F3,IDEOGRAPH-5408,IDEOGRAPH-5439,IDEOGRAPH-55B6,IDEOGRAPH-58F0,IDEOGRAPH-591A,",
   "IDEOGRAPH-5929,IDEOGRAPH-5B57,IDEOGRAPH-5DE6,IDEOGRAPH-5F8C,IDEOGRAPH-624B,IDEOGRAPH-6253,",
   "IDEOGRAPH-6295,IDEOGRAPH-6307,IDEOGRAPH-6355,IDEOGRAPH-6599,IDEOGRAPH-65B0,IDEOGRAPH-6620,",
   "IDEOGRAPH-6708,IDEOGRAPH-6709,IDEOGRAPH-6E80,IDEOGRAPH-6F14,IDEOGRAPH-7121,IDEOGRAPH-751F,",
   "IDEOGRAPH-7533,IDEOGRAPH-7981,IDEOGRAPH-7A7A,IDEOGRAPH-7D42,IDEOGRAPH-89E3,IDEOGRAPH-8CA9,",
   "IDEOGRAPH-8D70,IDEOGRAPH-904A,IDEOGRAPH-914D),CL,COOL,DOT OPERATOR,EIGHT K,FALLING DIAGONAL ",
   "SLASH,FIVE POINT ONE,FOUR (DOT PUNCTUATION,K),FREE,HC,HDR,HI-RES,HV,ID,KATAKANA (DE,KOKO,SA),",
   "KEY,LATIN (CAPITAL LETTER (A,B,C,D,E,F,G,H,I,J,K,L,M,N,O,P,Q,R,S,T,U,V,W,X,Y,Z),SMALL LETTER ",
   "D),LOGICAL (AND,OR),LOSSLESS,MINUS,MV,NEW,NG,OK,ONE HUNDRED TWENTY P,PLUS,PPV,RISING ",
   "DIAGONAL SLASH,SALTIRE,SD,SECOND SCREEN,SEVEN POINT ONE,SHV,SIXTY P,SMALL CIRCLE,SOS,SQUARE,",
   "SS,THREE D,TIMES,TWENTY-TWO POINT TWO,TWO K,UHD,UP WITH EXCLAMATION MARK,VOD,VS,WC),SQUAT ",
   "BLACK RIGHTWARDS ARROW,SQUID,SS2,SS3,SSA,ST,STADIUM,STAFF OF (AESCULAPIUS,HERMES),STAMPED ",
   "ENVELOPE,STANDING PERSON,STAR (AND CRESCENT,EQUALS,OF DAVID,OPERATOR,WITH (LEFT HALF BLACK,",
   "RIGHT HALF BLACK)),START OF (GUARDED AREA,HEADING,PROTECTED AREA,SELECTED AREA,STRING,TEXT),",
   "STATION,STATUE OF LIBERTY,STEAM LOCOMOTIVE,STEAMING BOWL,STENOGRAPHIC FULL STOP,STETHOSCOPE,",
   "STICK FIGURE(, LEANING (LEFT,RIGHT), WITH (ARMS RAISED,DRESS)),STOCK CHART,STOPWATCH,",
   "STRAIGHT RULER,STRAIGHTNESS,STRAWBERRY,STRESS OUTLINED WHITE STAR,STRICTLY EQUIVALENT TO,",
   "STRING TERMINATOR,STS,STUDIO MICROPHONE,STUFFED FLATBREAD,STUPA,STX,SUB,SUBSCRIPT (EIGHT,",
   "EQUALS SIGN,FIVE,FOUR,LEFT PARENTHESIS,MINUS,NINE,ONE,PLUS SIGN,RIGHT PARENTHESIS,SEVEN,SIX,",
   "THREE,TWO,ZERO),SUBSET (ABOVE (RIGHTWARDS ARROW,SUBSET,SUPERSET),OF(, ABOVE (ALMOST EQUAL TO,",
   "EQUALS SIGN,NOT EQUAL TO,TILDE OPERATOR), OR EQUAL TO(, WITH DOT ABOVE), WITH NOT EQUAL TO),",
   "WITH (DOT,MULTIPLICATION SIGN BELOW,PLUS SIGN BELOW)),SUBSTITUTE,SUCCEEDS(, ABOVE (ALMOST ",
   "EQUAL TO,EQUALS SIGN,NOT (ALMOST EQUAL TO,EQUAL TO),SINGLE-LINE (EQUALS SIGN,NOT EQUAL TO)), ",
   "BUT NOT EQUIVALENT TO, OR (EQUAL TO,EQUIVALENT TO), UNDER RELATION),SUMMATION (BOTTOM,TOP,",
   "WITH INTEGRAL),SUN(, BEHIND CLOUD, WITH FACE),SUNDANESE (AVAGRAHA,CONSONANT SIGN (PAMINGKAL,",
   "PANYAKRA,PANYIKU,PASANGAN (MA,WA)),DIGIT (EIGHT,FIVE,FOUR,NINE,ONE,SEVEN,SIX,THREE,TWO,ZERO),",
   "LETTER (A,AE,BA,BHA,CA,DA,E,EU,FA,FINAL (K,M),GA,HA,I,JA,KA,KHA,LA,LEU,MA,NA,NGA,NYA,O,PA,QA,",
   "RA,REU,SA,SYA,TA,U,VA,WA,XA,YA,ZA),PUNCTUATION BINDU (BA SATANGA,CAKRA,DA SATANGA,KA SATANGA,",
   "LEU SATANGA,PANGLONG,PURNAMA,SURYA),SIGN (PAMAAEH,PANGLAYAR,PANGWISAD,PANYECEK,VIRAMA),VOWEL ",
   "SIGN (PAMEPET,PANAELAENG,PANEULEUNG,PANGHULU,PANOLONG,PANYUKU)),SUNFLOWER,SUNRISE(, OVER ",
   "MOUNTAINS),SUNSET OVER BUILDINGS,SUPERHERO,SUPERSCRIPT (EIGHT,EQUALS SIGN,FIVE,FOUR,LATIN ",
   "SMALL LETTER (I,N),LEFT PARENTHESIS,MINUS,NINE,ONE,PLUS SIGN,RIGHT PARENTHESIS,SEVEN,SIX,",
   "THREE,TWO,ZERO),SUPERSET (ABOVE (LEFTWARDS ARROW,SUBSET,SUPERSET),BESIDE (AND JOINED BY DASH ",
   "WITH SUBSET,SUBSET),OF(, ABOVE (ALMOST EQUAL TO,EQUALS SIGN,NOT EQUAL TO,TILDE OPERATOR), OR ",
   "EQUAL TO(, WITH DOT ABOVE), WITH NOT EQUAL TO),PRECEDING SOLIDUS,WITH (DOT,MULTIPLICATION ",
   "SIGN BELOW,PLUS SIGN BELOW)),SUPERVILLAIN,SURFACE INTEGRAL,SURFER,SUSHI,SUSPENSION RAILWAY,",
   "SWAN,SWASH AMPERSAND ORNAMENT,SWIMMER,SWUNG DASH,SYLOTI NAGRI (LETTER (A,BHO,BO,CHO,CO,DDHO,",
   "DDO,DHO,DO,E,GHO,GO,HO,I,JHO,JO,KHO,KO,LO,MO,NO,O,PHO,PO,RO,RRO,SO,THO,TO,TTHO,TTO,U),POETRY ",
   "(MARK-1,MARK-2,MARK-3,MARK-4),SIGN (ALTERNATE HASANTA,ANUSVARA,DVISVARA,HASANTA),VOWEL SIGN (",
   "A,E,I,OO,U)),SYMBOL FOR (ACKNOWLEDGE,BACKSPACE,BELL,CANCEL,CARRIAGE RETURN,DATA LINK ESCAPE,",
   "DELETE(, FORM TWO),DEVICE CONTROL (FOUR,ONE,THREE,TWO),END OF (MEDIUM,TEXT,TRANSMISSION(, ",
   "BLOCK)),ENQUIRY,ESCAPE,FILE SEPARATOR,FORM FEED,GROUP SEPARATOR,HORIZONTAL TABULATION,LINE ",
   "FEED,MARKS CHAPTER,NEGATIVE ACKNOWLEDGE,NEWLINE,NULL,RECORD SEPARATOR,SAMARITAN SOURCE,SHIFT ",
   "(IN,OUT),SPACE,START OF (HEADING,TEXT),SUBSTITUTE(, FORM TWO),SYNCHRONOUS IDLE,TYPE A ",
   "ELECTRONICS,UNIT SEPARATOR,VERTICAL TABULATION),SYMMETRY,SYN,SYNAGOGUE,SYNCHRONOUS IDLE,",
   "SYRIAC (ABBREVIATION MARK,BARREKH,COLON SKEWED (LEFT,RIGHT),CONTRACTION,DOTTED ZLAMA (",
   "ANGULAR,HORIZONTAL),END OF PARAGRAPH,ESASA (ABOVE,BELOW),FEMININE DOT,HARKLEAN (ASTERISCUS,",
   "METOBELUS,OBELUS),HBASA (ABOVE,BELOW),HBASA-ESASA DOTTED,HORIZONTAL COLON,LETTER (ALAPH,BETH,",
   "DALATH,DOTLESS DALATH RISH,E,FINAL SEMKATH,GAMAL(, GARSHUNI),HE,HETH,KAPH,LAMADH,MALAYALAM (",
   "BHA,JA,LLA,LLLA,NGA,NNA,NNNA,NYA,RA,SSA,TTA),MIM,NUN,PE,PERSIAN (BHETH,DHALATH,GHAMAL),QAPH,",
   "REVERSED PE,RISH,SADHE,SEMKATH,SHIN,SOGDIAN (FE,KHAPH,ZHAIN),SUPERSCRIPT ALAPH,TAW,TETH(, ",
   "GARSHUNI),WAW,YUDH(, HE),ZAIN),MUSIC,OBLIQUE LINE (ABOVE,BELOW),PTHAHA (ABOVE,BELOW,DOTTED),",
   "QUSHSHAYA,RBASA (ABOVE,BELOW),RUKKAKHA,RWAHA,SUBLINEAR (COLON(, SKEWED (LEFT,RIGHT)),FULL ",
   "STOP),SUPRALINEAR (COLON(, SKEWED LEFT),FULL STOP),THREE DOTS (ABOVE,BELOW),TWO VERTICAL ",
   "DOTS (ABOVE,BELOW),ZQAPHA (ABOVE,BELOW,DOTTED)),SYRINGE,T-REX,T-SHIRT,TAB,TABLE TENNIS ",
   "PADDLE AND BALL,TACO,TAG (AMPERSAND,APOSTROPHE,ASTERISK,CIRCUMFLEX ACCENT,COLON,COMMA,",
   "COMMERCIAL AT,DIGIT (EIGHT,FIVE,FOUR,NINE,ONE,SEVEN,SIX,THREE,TWO,ZERO),DOLLAR SIGN,EQUALS ",
   "SIGN,EXCLAMATION MARK,FULL STOP,GRAVE ACCENT,GREATER-THAN SIGN,HYPHEN-MINUS,LATIN (CAPITAL ",
   "LETTER (A,B,C,D,E,F,G,H,I,J,K,L,M,N,O,P,Q,R,S,T,U,V,W,X,Y,Z),SMALL LETTER (A,B,C,D,E,F,G,H,I,",
   "J,K,L,M,N,O,P,Q,R,S,T,U,V,W,X,Y,Z)),LEFT (CURLY BRACKET,PARENTHESIS,SQUARE BRACKET),",
   "LESS-THAN SIGN,LOW LINE,NUMBER SIGN,PERCENT SIGN,PLUS SIGN,QUESTION MARK,QUOTATION MARK,",
   "REVERSE SOLIDUS,RIGHT (CURLY BRACKET,PARENTHESIS,SQUARE BRACKET),SEMICOLON,SOLIDUS,SPACE,",
   "TILDE,VERTICAL LINE),TAGALOG (LETTER (A,ARCHAIC RA,BA,DA,GA,HA,I,KA,LA,MA,NA,NGA,PA,RA,SA,TA,",
   "U,WA,YA),SIGN (PAMUDPOD,VIRAMA),VOWEL SIGN (I,U)),TAGBANWA (LETTER (A,BA,DA,GA,I,KA,LA,MA,NA,",
   "NGA,PA,SA,TA,U,WA,YA),VOWEL SIGN (I,U)),TAI (LE LETTER (A,AI,AUE,E,EE,EH,FA,HA,I,KA,KHA,LA,",
   "MA,NA,NGA,O,OO,PA,PHA,QA,SA,TA,THA,TONE-2,TONE-3,TONE-4,TONE-5,TONE-6,TSA,TSHA,U,UE,VA,XA,YA)",
   ",THAM (COMBINING CRYPTOGRAMMIC DOT,CONSONANT SIGN (BA,FINAL NGA,HIGH RATHA OR LOW PA,LA TANG ",
   "LAI,LOW PA,MA,MEDIAL (LA,RA),SA),HORA DIGIT (EIGHT,FIVE,FOUR,NINE,ONE,SEVEN,SIX,THREE,TWO,",
   "ZERO),LETTER (A,BA,DA,EE,GREAT SA,HIGH (CA,CHA,FA,HA,KA,KHA,KXA,PA,PHA,RATHA,SA,SHA,SSA,TA,",
   "THA,YA),I,II,LA,LAE,LLA,LOW (CA,CHA,FA,HA,KA,KHA,KXA,PA,PHA,RATHA,SA,TA,THA,YA),LUE,MA,NA,",
   "NGA,NYA,OO,RA,RANA,RATA,RUE,U,UU,WA),SIGN (CAANG,DOKMAI,HANG,HOY,KAAN,KAANKUU,KEOW,KHUEN (",
   "TONE-3,TONE-4,TONE-5),KHUEN-LUE KARAN,MAI (KANG(, LAI),SAM,YAMOK),RA HAAM,REVERSED ROTATED ",
   "RANA,SAKOT,SATKAAN,SATKAANKUU,SAWAN,TONE-1,TONE-2,WIANG,WIANGWAAK),THAM DIGIT (EIGHT,FIVE,",
   "FOUR,NINE,ONE,SEVEN,SIX,THREE,TWO,ZERO),VOWEL SIGN (A,AA,AE,AI,E,I,II,MAI SAT,O,OA (ABOVE,",
   "BELOW),OO,OY,TALL AA,THAM AI,U,UE,UU,UUE)),VIET (LETTER (HIGH (BO,CHO,CO,DO,FO,GO,HO,KHHO,",
   "KHO,KO,LO,MO,NGO,NO,NYO,O,PHO,PO,RO,SO,THO,TO,VO,YO),LOW (BO,CHO,CO,DO,FO,GO,HO,KHHO,KHO,KO,",
   "LO,MO,NGO,NO,NYO,O,PHO,PO,RO,SO,THO,TO,VO,YO)),MAI (KANG,KHIT),SYMBOL (HO HOI,KOI KOI,KON,",
   "NUENG,SAM),TONE MAI (EK,NUENG,SONG,THO),VOWEL (AA,AM,AN,AUE,AY,E,I,IA,O,U,UA,UE,UEA))),",
   "TAKEOUT BOX,TAKRI (ABBREVIATION SIGN,DIGIT (EIGHT,FIVE,FOUR,NINE,ONE,SEVEN,SIX,THREE,TWO,",
   "ZERO),LETTER (A,AA,AI,ARCHAIC KHA,AU,BA,BHA,CA,CHA,DA,DDA,DDHA,DHA,E,GA,GHA,HA,I,II,JA,JHA,",
   "KA,KHA,LA,MA,NA,NGA,NNA,NYA,O,PA,PHA,RA,RRA,SA,SHA,TA,THA,TTA,TTHA,U,UU,VA,YA),SIGN (",
   "ANUSVARA,NUKTA,VIRAMA,VISARGA),VOWEL SIGN (AA,AI,AU,E,I,II,O,U,UU)),TALLY MARK (FIVE,ONE),",
   "TAMALE,TAMIL (AND ODD SIGN,AS ABOVE SIGN,AU LENGTH MARK,CREDIT SIGN,CURRENT SIGN,DAY SIGN,",
   "DEBIT SIGN,DIGIT (EIGHT,FIVE,FOUR,NINE,ONE,SEVEN,SIX,THREE,TWO,ZERO),DRY CULTIVATION SIGN,",
   "FRACTION (DOWNSCALING FACTOR KIIZH,ONE (EIGHTH,EIGHTIETH,FIFTH,FORTIETH,HALF-1,HALF-2,",
   "ONE-HUNDRED-AND-SIXTIETH,QUARTER,SIXTEENTH-1,SIXTEENTH-2,SIXTY-FOURTH,TENTH,THIRTY-SECOND,",
   "THREE-HUNDRED-AND-TWENTIETH,TWENTIETH),THREE (EIGHTIETHS,QUARTERS,SIXTEENTHS,SIXTY-FOURTHS,",
   "TWENTIETHS)),IN POSSESSION SIGN,LAND SIGN,LETTER (A,AA,AI,AU,CA,E,EE,HA,I,II,JA,KA,LA,LLA,",
   "LLLA,MA,NA,NGA,NNA,NNNA,NYA,O,OO,PA,RA,RRA,SA,SHA,SSA,TA,TTA,U,UU,VA,YA),MONTH SIGN,NUMBER (",
   "ONE (HUNDRED,THOUSAND),SIGN,TEN),OM,PUNCTUATION END OF TEXT,RUPEE SIGN,SALT PAN SIGN,SIGN (",
   "AAZHAAKKU,ANUSVARA,CEVITU,KAACU,KURUNI,KUZHI,MUKKURUNI,MUTHALIYA,MUUVUZHAKKU,NEL,PAARAM,",
   "PANAM,PATHAKKU,PON,UZHAKKU,VAKAIYARAA,VARAAKAN,VELI,VIRAMA,VISARGA),SPENT SIGN,STARTING FROM ",
   "SIGN,TOTAL SIGN,TRADITIONAL (CREDIT SIGN,NUMBER SIGN),VOWEL SIGN (AA,AI,AU,E,EE,I,II,O,OO,U,",
   "UU),WET CULTIVATION SIGN,YEAR SIGN),TANABATA TREE,TANGERINE,TANGSA (DIGIT (EIGHT,FIVE,FOUR,",
   "NINE,ONE,SEVEN,SIX,THREE,TWO,ZERO),LETTER (AC,AQ,AWC,AWQ,AWX,AWZ,AX,AZ,BA,CA,CHA,DA,DHA,EC,",
   "EQ,EX,EZ,FA,FINAL NG,GA,GHA,HA,HTA,HTTA,IC,IQ,IX,IZ,KA,KHA,LA,LONG UEX,MA,MC,MQ,MX,MZ,NA,NGA,",
   "NHA,NYA,OC,OQ,OX,OZ,PA,PHA,RA,SA,SHA,SHORT (AWX,UEZ),TA,THA,TSA,UC,UEC,UEQ,UEX,UEZ,UIC,UIQ,",
   "UIUC,UIUQ,UIUX,UIUZ,UIX,UIZ,UQ,UX,UZ,VC,VQ,VX,VZ,WA,XA,YA,ZA)),TANGUT (COMPONENT-001,",
   "COMPONENT-002,COMPONENT-003,COMPONENT-004,COMPONENT-005,COMPONENT-006,COMPONENT-007,",
   "COMPONENT-008,COMPONENT-009,COMPONENT-010,COMPONENT-011,COMPONENT-012,COMPONENT-013,",
   "COMPONENT-014,COMPONENT-015,COMPONENT-016,COMPONENT-017,COMPONENT-018,COMPONENT-019,",
   "COMPONENT-020,COMPONENT-021,COMPONENT-022,COMPONENT-023,COMPONENT-024,COMPONENT-025,",
   "COMPONENT-026,COMPONENT-027,COMPONENT-028,COMPONENT-029,COMPONENT-030,COMPONENT-031,",
   "COMPONENT-032,COMPONENT-033,COMPONENT-034,COMPONENT-035,COMPONENT-036,COMPONENT-037,",
   "COMPONENT-038,COMPONENT-039,COMPONENT-040,COMPONENT-041,COMPONENT-042,COMPONENT-043,",
   "COMPONENT-044,COMPONENT-045,COMPONENT-046,COMPONENT-047,COMPONENT-048,COMPONENT-049,",
   "COMPONENT-050,COMPONENT-051,COMPONENT-052,COMPONENT-053,COMPONENT-054,COMPONENT-055,",
   "COMPONENT-056,COMPONENT-057,COMPONENT-058,COMPONENT-059,COMPONENT-060,COMPONENT-061,",
   "COMPONENT-062,COMPONENT-063,COMPONENT-064,COMPONENT-065,COMPONENT-066,COMPONENT-067,",
   "COMPONENT-068,COMPONENT-069,COMPONENT-070,COMPONENT-071,COMPONENT-072,COMPONENT-073,",
   "COMPONENT-074,COMPONENT-075,COMPONENT-076,COMPONENT-077,COMPONENT-078,COMPONENT-079,",
   "COMPONENT-080,COMPONENT-081,COMPONENT-082,COMPONENT-083,COMPONENT-084,COMPONENT-085,",
   "COMPONENT-086,COMPONENT-087,COMPONENT-088,COMPONENT-089,COMPONENT-090,COMPONENT-091,",
   "COMPONENT-092,COMPONENT-093,COMPONENT-094,COMPONENT-095,COMPONENT-096,COMPONENT-097,",
   "COMPONENT-098,COMPONENT-099,COMPONENT-100,COMPONENT-101,COMPONENT-102,COMPONENT-103,",
   "COMPONENT-104,COMPONENT-105,COMPONENT-106,COMPONENT-107,COMPONENT-108,COMPONENT-109,",
   "COMPONENT-110,COMPONENT-111,COMPONENT-112,COMPONENT-113,COMPONENT-114,COMPONENT-115,",
   "COMPONENT-116,COMPONENT-117,COMPONENT-118,COMPONENT-119,COMPONENT-120,COMPONENT-121,",
   "COMPONENT-122,COMPONENT-123,COMPONENT-124,COMPONENT-125,COMPONENT-126,COMPONENT-127,",
   "COMPONENT-128,COMPONENT-129,COMPONENT-130,COMPONENT-131,COMPONENT-132,COMPONENT-133,",
   "COMPONENT-134,COMPONENT-135,COMPONENT-136,COMPONENT-137,COMPONENT-138,COMPONENT-139,",
   "COMPONENT-140,COMPONENT-141,COMPONENT-142,COMPONENT-143,COMPONENT-144,COMPONENT-145,",
   "COMPONENT-146,COMPONENT-147,COMPONENT-148,COMPONENT-149,COMPONENT-150,COMPONENT-151,",
   "COMPONENT-152,COMPONENT-153,COMPONENT-154,COMPONENT-155,COMPONENT-156,COMPONENT-157,",
   "COMPONENT-158,COMPONENT-159,COMPONENT-160,COMPONENT-161,COMPONENT-162,COMPONENT-163,",
   "COMPONENT-164,COMPONENT-165,COMPONENT-166,COMPONENT-167,COMPONENT-168,COMPONENT-169,",
   "COMPONENT-170,COMPONENT-171,COMPONENT-172,COMPONENT-173,COMPONENT-174,COMPONENT-175,",
   "COMPONENT-176,COMPONENT-177,COMPONENT-178,COMPONENT-179,COMPONENT-180,COMPONENT-181,",
   "COMPONENT-182,COMPONENT-183,COMPONENT-184,COMPONENT-185,COMPONENT-186,COMPONENT-187,",
   "COMPONENT-188,COMPONENT-189,COMPONENT-190,COMPONENT-191,COMPONENT-192,COMPONENT-193,",
   "COMPONENT-194,COMPONENT-195,COMPONENT-196,COMPONENT-197,COMPONENT-198,COMPONENT-199,",
   "COMPONENT-200,COMPONENT-201,COMPONENT-202,COMPONENT-203,COMPONENT-204,COMPONENT-205,",
   "COMPONENT-206,COMPONENT-207,COMPONENT-208,COMPONENT-209,COMPONENT-210,COMPONENT-211,",
   "COMPONENT-212,COMPONENT-213,COMPONENT-214,COMPONENT-215,COMPONENT-216,COMPONENT-217,",
   "COMPONENT-218,COMPONENT-219,COMPONENT-220,COMPONENT-221,COMPONENT-222,COMPONENT-223,",
   "COMPONENT-224,COMPONENT-225,COMPONENT-226,COMPONENT-227,COMPONENT-228,COMPONENT-229,",
   "COMPONENT-230,COMPONENT-231,COMPONENT-232,COMPONENT-233,COMPONENT-234,COMPONENT-235,",
   "COMPONENT-236,COMPONENT-237,COMPONENT-238,COMPONENT-239,COMPONENT-240,COMPONENT-241,",
   "COMPONENT-242,COMPONENT-243,COMPONENT-244,COMPONENT-245,COMPONENT-246,COMPONENT-247,",
   "COMPONENT-248,COMPONENT-249,COMPONENT-250,COMPONENT-251,COMPONENT-252,COMPONENT-253,",
   "COMPONENT-254,COMPONENT-255,COMPONENT-256,COMPONENT-257,COMPONENT-258,COMPONENT-259,",
   "COMPONENT-260,COMPONENT-261,COMPONENT-262,COMPONENT-263,COMPONENT-264,COMPONENT-265,",
   "COMPONENT-266,COMPONENT-267,COMPONENT-268,COMPONENT-269,COMPONENT-270,COMPONENT-271,",
   "COMPONENT-272,COMPONENT-273,COMPONENT-274,COMPONENT-275,COMPONENT-276,COMPONENT-277,",
   "COMPONENT-278,COMPONENT-279,COMPONENT-280,COMPONENT-281,COMPONENT-282,COMPONENT-283,",
   "COMPONENT-284,COMPONENT-285,COMPONENT-286,COMPONENT-287,COMPONENT-288,COMPONENT-289,",
   "COMPONENT-290,COMPONENT-291,COMPONENT-292,COMPONENT-293,COMPONENT-294,COMPONENT-295,",
   "COMPONENT-296,COMPONENT-297,COMPONENT-298,COMPONENT-299,COMPONENT-300,COMPONENT-301,",
   "COMPONENT-302,COMPONENT-303,COMPONENT-304,COMPONENT-305,COMPONENT-306,COMPONENT-307,",
   "COMPONENT-308,COMPONENT-309,COMPONENT-310,COMPONENT-311,COMPONENT-312,COMPONENT-313,",
   "COMPONENT-314,COMPONENT-315,COMPONENT-316,COMPONENT-317,COMPONENT-318,COMPONENT-319,",
   "COMPONENT-320,COMPONENT-321,COMPONENT-322,COMPONENT-323,COMPONENT-324,COMPONENT-325,",
   "COMPONENT-326,COMPONENT-327,COMPONENT-328,COMPONENT-329,COMPONENT-330,COMPONENT-331,",
   "COMPONENT-332,COMPONENT-333,COMPONENT-334,COMPONENT-335,COMPONENT-336,COMPONENT-337,",
   "COMPONENT-338,COMPONENT-339,COMPONENT-340,COMPONENT-341,COMPONENT-342,COMPONENT-343,",
   "COMPONENT-344,COMPONENT-345,COMPONENT-346,COMPONENT-347,COMPONENT-348,COMPONENT-349,",
   "COMPONENT-350,COMPONENT-351,COMPONENT-352,COMPONENT-353,COMPONENT-354,COMPONENT-355,",
   "COMPONENT-356,COMPONENT-357,COMPONENT-358,COMPONENT-359,COMPONENT-360,COMPONENT-361,",
   "COMPONENT-362,COMPONENT-363,COMPONENT-364,COMPONENT-365,COMPONENT-366,COMPONENT-367,",
   "COMPONENT-368,COMPONENT-369,COMPONENT-370,COMPONENT-371,COMPONENT-372,COMPONENT-373,",
   "COMPONENT-374,COMPONENT-375,COMPONENT-376,COMPONENT-377,COMPONENT-378,COMPONENT-379,",
   "COMPONENT-380,COMPONENT-381,COMPONENT-382,COMPONENT-383,COMPONENT-384,COMPONENT-385,",
   "COMPONENT-386,COMPONENT-387,COMPONENT-388,COMPONENT-389,COMPONENT-390,COMPONENT-391,",
   "COMPONENT-392,COMPONENT-393,COMPONENT-394,COMPONENT-395,COMPONENT-396,COMPONENT-397,",
   "COMPONENT-398,COMPONENT-399,COMPONENT-400,COMPONENT-401,COMPONENT-402,COMPONENT-403,",
   "COMPONENT-404,COMPONENT-405,COMPONENT-406,COMPONENT-407,COMPONENT-408,COMPONENT-409,",
   "COMPONENT-410,COMPONENT-411,COMPONENT-412,COMPONENT-413,COMPONENT-414,COMPONENT-415,",
   "COMPONENT-416,COMPONENT-417,COMPONENT-418,COMPONENT-419,COMPONENT-420,COMPONENT-421,",
   "COMPONENT-422,COMPONENT-423,COMPONENT-424,COMPONENT-425,COMPONENT-426,COMPONENT-427,",
   "COMPONENT-428,COMPONENT-429,COMPONENT-430,COMPONENT-431,COMPONENT-432,COMPONENT-433,",
   "COMPONENT-434,COMPONENT-435,COMPONENT-436,COMPONENT-437,COMPONENT-438,COMPONENT-439,",
   "COMPONENT-440,COMPONENT-441,COMPONENT-442,COMPONENT-443,COMPONENT-444,COMPONENT-445,",
   "COMPONENT-446,COMPONENT-447,COMPONENT-448,COMPONENT-449,COMPONENT-450,COMPONENT-451,",
   "COMPONENT-452,COMPONENT-453,COMPONENT-454,COMPONENT-455,COMPONENT-456,COMPONENT-457,",
   "COMPONENT-458,COMPONENT-459,COMPONENT-460,COMPONENT-461,COMPONENT-462,COMPONENT-463,",
   "COMPONENT-464,COMPONENT-465,COMPONENT-466,COMPONENT-467,COMPONENT-468,COMPONENT-469,",
   "COMPONENT-470,COMPONENT-471,COMPONENT-472,COMPONENT-473,COMPONENT-474,COMPONENT-475,",
   "COMPONENT-476,COMPONENT-477,COMPONENT-478,COMPONENT-479,COMPONENT-480,COMPONENT-481,",
   "COMPONENT-482,COMPONENT-483,COMPONENT-484,COMPONENT-485,COMPONENT-486,COMPONENT-487,",
   "COMPONENT-488,COMPONENT-489,COMPONENT-490,COMPONENT-491,COMPONENT-492,COMPONENT-493,",
   "COMPONENT-494,COMPONENT-495,COMPONENT-496,COMPONENT-497,COMPONENT-498,COMPONENT-499,",
   "COMPONENT-500,COMPONENT-501,COMPONENT-502,COMPONENT-503,COMPONENT-504,COMPONENT-505,",
   "COMPONENT-506,COMPONENT-507,COMPONENT-508,COMPONENT-509,COMPONENT-510,COMPONENT-511,",
   "COMPONENT-512,COMPONENT-513,COMPONENT-514,COMPONENT-515,COMPONENT-516,COMPONENT-517,",
   "COMPONENT-518,COMPONENT-519,COMPONENT-520,COMPONENT-521,COMPONENT-522,COMPONENT-523,",
   "COMPONENT-524,COMPONENT-525,COMPONENT-526,COMPONENT-527,COMPONENT-528,COMPONENT-529,",
   "COMPONENT-530,COMPONENT-531,COMPONENT-532,COMPONENT-533,COMPONENT-534,COMPONENT-535,",
   "COMPONENT-536,COMPONENT-537,COMPONENT-538,COMPONENT-539,COMPONENT-540,COMPONENT-541,",
   "COMPONENT-542,COMPONENT-543,COMPONENT-544,COMPONENT-545,COMPONENT-546,COMPONENT-547,",
   "COMPONENT-548,COMPONENT-549,COMPONENT-550,COMPONENT-551,COMPONENT-552,COMPONENT-553,",
   "COMPONENT-554,COMPONENT-555,COMPONENT-556,COMPONENT-557,COMPONENT-558,COMPONENT-559,",
   "COMPONENT-560,COMPONENT-561,COMPONENT-562,COMPONENT-563,COMPONENT-564,COMPONENT-565,",
   "COMPONENT-566,COMPONENT-567,COMPONENT-568,COMPONENT-569,COMPONENT-570,COMPONENT-571,",
   "COMPONENT-572,COMPONENT-573,COMPONENT-574,COMPONENT-575,COMPONENT-576,COMPONENT-577,",
   "COMPONENT-578,COMPONENT-579,COMPONENT-580,COMPONENT-581,COMPONENT-582,COMPONENT-583,",
   "COMPONENT-584,COMPONENT-585,COMPONENT-586,COMPONENT-587,COMPONENT-588,COMPONENT-589,",
   "COMPONENT-590,COMPONENT-591,COMPONENT-592,COMPONENT-593,COMPONENT-594,COMPONENT-595,",
   "COMPONENT-596,COMPONENT-597,COMPONENT-598,COMPONENT-599,COMPONENT-600,COMPONENT-601,",
   "COMPONENT-602,COMPONENT-603,COMPONENT-604,COMPONENT-605,COMPONENT-606,COMPONENT-607,",
   "COMPONENT-608,COMPONENT-609,COMPONENT-610,COMPONENT-611,COMPONENT-612,COMPONENT-613,",
   "COMPONENT-614,COMPONENT-615,COMPONENT-616,COMPONENT-617,COMPONENT-618,COMPONENT-619,",
   "COMPONENT-620,COMPONENT-621,COMPONENT-622,COMPONENT-623,COMPONENT-624,COMPONENT-625,",
   "COMPONENT-626,COMPONENT-627,COMPONENT-628,COMPONENT-629,COMPONENT-630,COMPONENT-631,",
   "COMPONENT-632,COMPONENT-633,COMPONENT-634,COMPONENT-635,COMPONENT-636,COMPONENT-637,",
   "COMPONENT-638,COMPONENT-639,COMPONENT-640,COMPONENT-641,COMPONENT-642,COMPONENT-643,",
   "COMPONENT-644,COMPONENT-645,COMPONENT-646,COMPONENT-647,COMPONENT-648,COMPONENT-649,",
   "COMPONENT-650,COMPONENT-651,COMPONENT-652,COMPONENT-653,COMPONENT-654,COMPONENT-655,",
   "COMPONENT-656,COMPONENT-657,COMPONENT-658,COMPONENT-659,COMPONENT-660,COMPONENT-661,",
   "COMPONENT-662,COMPONENT-663,COMPONENT-664,COMPONENT-665,COMPONENT-666,COMPONENT-667,",
   "COMPONENT-668,COMPONENT-669,COMPONENT-670,COMPONENT-671,COMPONENT-672,COMPONENT-673,",
   "COMPONENT-674,COMPONENT-675,COMPONENT-676,COMPONENT-677,COMPONENT-678,COMPONENT-679,",
   "COMPONENT-680,COMPONENT-681,COMPONENT-682,COMPONENT-683,COMPONENT-684,COMPONENT-685,",
   "COMPONENT-686,COMPONENT-687,COMPONENT-688,COMPONENT-689,COMPONENT-690,COMPONENT-691,",
   "COMPONENT-692,COMPONENT-693,COMPONENT-694,COMPONENT-695,COMPONENT-696,COMPONENT-697,",
   "COMPONENT-698,COMPONENT-699,COMPONENT-700,COMPONENT-701,COMPONENT-702,COMPONENT-703,",
   "COMPONENT-704,COMPONENT-705,COMPONENT-706,COMPONENT-707,COMPONENT-708,COMPONENT-709,",
   "COMPONENT-710,COMPONENT-711,COMPONENT-712,COMPONENT-713,COMPONENT-714,COMPONENT-715,",
   "COMPONENT-716,COMPONENT-717,COMPONENT-718,COMPONENT-719,COMPONENT-720,COMPONENT-721,",
   "COMPONENT-722,COMPONENT-723,COMPONENT-724,COMPONENT-725,COMPONENT-726,COMPONENT-727,",
   "COMPONENT-728,COMPONENT-729,COMPONENT-730,COMPONENT-731,COMPONENT-732,COMPONENT-733,",
   "COMPONENT-734,COMPONENT-735,COMPONENT-736,COMPONENT-737,COMPONENT-738,COMPONENT-739,",
   "COMPONENT-740,COMPONENT-741,COMPONENT-742,COMPONENT-743,COMPONENT-744,COMPONENT-745,",
   "COMPONENT-746,COMPONENT-747,COMPONENT-748,COMPONENT-749,COMPONENT-750,COMPONENT-751,",
   "COMPONENT-752,COMPONENT-753,COMPONENT-754,COMPONENT-755,COMPONENT-756,COMPONENT-757,",
   "COMPONENT-758,COMPONENT-759,COMPONENT-760,COMPONENT-761,COMPONENT-762,COMPONENT-763,",
   "COMPONENT-764,COMPONENT-765,COMPONENT-766,COMPONENT-767,COMPONENT-768,ITERATION MARK),TAPE (",
   "CARTRIDGE,DRIVE),TAURUS,TAXI,TEACUP WITHOUT HANDLE,TEAPOT,TEAR-OFF CALENDAR,TEARDROP-BARBED ",
   "RIGHTWARDS ARROW,TEARDROP-SPOKED ASTERISK,TEDDY BEAR,TELEPHONE (LOCATION SIGN,ON TOP OF ",
   "MODEM,RECEIVER(, WITH PAGE),RECORDER,SIGN),TELESCOPE,TELEVISION,TELUGU (AI LENGTH MARK,DIGIT ",
   "(EIGHT,FIVE,FOUR,NINE,ONE,SEVEN,SIX,THREE,TWO,ZERO),FRACTION DIGIT (ONE FOR (EVEN POWERS OF ",
   "FOUR,ODD POWERS OF FOUR),THREE FOR (EVEN POWERS OF FOUR,ODD POWERS OF FOUR),TWO FOR (EVEN ",
   "POWERS OF FOUR,ODD POWERS OF FOUR),ZERO FOR ODD POWERS OF FOUR),LENGTH MARK,LETTER (A,AA,AI,",
   "AU,BA,BHA,CA,CHA,DA,DDA,DDHA,DHA,DZA,E,EE,GA,GHA,HA,I,II,JA,JHA,KA,KHA,LA,LLA,LLLA,MA,NA,",
   "NAKAARA POLLU,NGA,NNA,NYA,O,OO,PA,PHA,RA,RRA,RRRA,SA,SHA,SSA,TA,THA,TSA,TTA,TTHA,U,UU,VA,",
   "VOCALIC (L,LL,R,RR),YA),SIGN (ANUSVARA,AVAGRAHA,CANDRABINDU,COMBINING (ANUSVARA ABOVE,",
   "CANDRABINDU ABOVE),NUKTA,SIDDHAM,TUUMU,VIRAMA,VISARGA),VOWEL SIGN (AA,AI,AU,E,EE,I,II,O,OO,U,",
   "UU,VOCALIC (L,LL,R,RR))),TENGE SIGN,TENNIS RACQUET AND BALL,TENT,TEST TUBE,TETRAGRAM FOR (",
   "ACCUMULATION,ADVANCE,AGGRAVATION,ASCENT,BARRIER,BOLD RESOLUTION,BRANCHING OUT,CENTRE,CHANGE,",
   "CLOSED MOUTH,CLOSENESS,CLOSURE,COMPLETION,COMPLIANCE,CONSTANCY,CONTACT,CONTENTION,",
   "CONTRARIETY,DARKENING,DECISIVENESS,DEFECTIVENESS OR DISTORTION,DEPARTURE,DIFFICULTIES,",
   "DIMINISHMENT,DIMMING,DIVERGENCE,DOUBT,DUTIES,EASE,EMBELLISHMENT,ENCOUNTERS,ENDEAVOUR,",
   "ENLARGEMENT,ETERNITY,EXHAUSTION,FAILURE,FLIGHT,FOLLOWING,FOSTERING,FULL CIRCLE,FULLNESS,",
   "GATHERING(, IN),GOING TO MEET,GREATNESS,GUARDEDNESS,HARDNESS,HOLDING BACK,INCREASE,INNER,JOY,",
   "KEEPING SMALL,KINSHIP,LABOURING,LAW OR MODEL,LEGION,MASSING,MEASURE,MIRED,ON THE VERGE,",
   "OPPOSITION,PACKING,PATTERN,PENETRATION,PURITY,REACH,RELEASE,RESIDENCE,RESISTANCE,RESPONSE,",
   "RITUAL,SEVERANCE,SINKING,STOPPAGE,STOVE,STRENGTH,UNITY,VASTNESS OR WASTING,WAITING,WATCH,",
   "YOUTHFULNESS),THAANA (AABAAFILI,ABAFILI,EBEFILI,EEBEEFILI,EYBEYFILI,IBIFILI,LETTER (AINU,",
   "ALIFU,BAA,CHAVIYANI,DAADHU,DAVIYANI,DHAALU,FAAFU,GAAFU,GHAINU,GNAVIYANI,HAA,HHAA,JAVIYANI,",
   "KAAFU,KHAA,LAAMU,LHAVIYANI,MEEMU,NAA,NOONU,PAVIYANI,QAAFU,RAA,SAADHU,SEENU,SHAVIYANI,SHEENU,",
   "TAVIYANI,THAA,THAALU,TO,TTAA,VAAVU,WAAVU,YAA,ZAA,ZAVIYANI,ZO),OABOAFILI,OBOFILI,OOBOOFILI,",
   "SUKUN,UBUFILI),THAI (CHARACTER (ANGKHANKHU,BO BAIMAI,CHO (CHAN,CHANG,CHING,CHOE),DO (CHADA,",
   "DEK),FO (FA,FAN),FONGMAN,HO (HIP,NOKHUK),KHO (KHAI,KHON,KHUAT,KHWAI,RAKHANG),KHOMUT,KO KAI,",
   "LAKKHANGYAO,LO (CHULA,LING),LU,MAI (CHATTAWA,EK,HAN-AKAT,THO,TRI),MAITAIKHU,MAIYAMOK,MO MA,",
   "NGO NGU,NIKHAHIT,NO (NEN,NU),O ANG,PAIYANNOI,PHINTHU,PHO (PHAN,PHUNG,SAMPHAO),PO PLA,RO RUA,",
   "RU,SARA (A,AA,AE,AI (MAIMALAI,MAIMUAN),AM,E,I,II,O,U,UE,UEE,UU),SO (RUSI,SALA,SO,SUA),",
   "THANTHAKHAT,THO (NANGMONTHO,PHUTHAO,THAHAN,THAN,THONG,THUNG),TO (PATAK,TAO),WO WAEN,YAMAKKAN,",
   "YO (YAK,YING)),CURRENCY SYMBOL BAHT,DIGIT (EIGHT,FIVE,FOUR,NINE,ONE,SEVEN,SIX,THREE,TWO,ZERO)",
   "),THERE (DOES NOT EXIST,EXISTS),THEREFORE,THERMODYNAMIC,THERMOMETER,THIN (GREEK CROSS,",
   "SALTIRE,SPACE),THINKING FACE,THIRD PLACE MEDAL,THONG SANDAL,THOUGHT BALLOON,THREE (BUTTON ",
   "MOUSE,CONSECUTIVE EQUALS SIGNS,DIMENSIONAL ANGLE,DOT PUNCTUATION,LEFTWARDS ARROWS,LINES ",
   "CONVERGING (LEFT,RIGHT),NETWORKED COMPUTERS,POINTED BLACK STAR,RAYS (ABOVE,BELOW,LEFT,RIGHT),",
   "RIGHTWARDS ARROWS,SPEECH BUBBLES),THREE-D (BOTTOM-LIGHTED RIGHTWARDS ARROWHEAD,LEFT-LIGHTED ",
   "DOWNWARDS EQUILATERAL ARROWHEAD,RIGHT-LIGHTED UPWARDS EQUILATERAL ARROWHEAD,TOP-LIGHTED (",
   "LEFTWARDS EQUILATERAL ARROWHEAD,RIGHTWARDS (ARROWHEAD,EQUILATERAL ARROWHEAD))),THREE-EM DASH,",
   "THREE-PER-EM SPACE,THUMBS (DOWN SIGN,UP SIGN),THUNDER CLOUD AND RAIN,THUNDERSTORM,TIBETAN (",
   "ASTROLOGICAL SIGN (-KHYUD PA,SDONG TSHUGS,SGRA GCAN -CHAR RTAGS),CANTILLATION SIGN (CANG ",
   "TE-U,HEAVY BEAT,LIGHT BEAT,SBUB -CHAL),DIGIT (EIGHT,FIVE,FOUR,HALF (EIGHT,FIVE,FOUR,NINE,ONE,",
   "SEVEN,SIX,THREE,TWO,ZERO),NINE,ONE,SEVEN,SIX,THREE,TWO,ZERO),KU RU KHA(, BZHI MIG CAN),",
   "LETTER (-A,A,BA,BHA,CA,CHA,DA,DDA,DDHA,DHA,DZA,DZHA,FIXED-FORM RA,GA,GHA,HA,JA,KA,KHA,KKA,",
   "KSSA,LA,MA,NA,NGA,NNA,NYA,PA,PHA,RA,RRA,SA,SHA,SSA,TA,THA,TSA,TSHA,TTA,TTHA,WA,YA,ZA,ZHA),",
   "LOGOTYPE SIGN (CHAD RTAGS,LHAG RTAGS),MARK (ANG KHANG (GYAS,GYON),BKA- SHOG (GI MGO RGYAN,",
   "YIG MGO),BSDUS RTAGS,BSKA- SHOG GI MGO RGYAN,BSKUR YIG MGO,CARET (-DZUD RTAGS (BZHI MIG CAN,",
   "ME LONG CAN),YIG MGO PHUR SHAD MA),CHE MGO,CLOSING (BRDA RNYING YIG MGO SGAB MA,YIG MGO SGAB ",
   "MA),DELIMITER TSHEG BSTAR,GTER (TSHEG,YIG MGO (-UM (GTER TSHEG MA,RNAM BCAD MA),TRUNCATED A))",
   ",GUG RTAGS (GYAS,GYON),HALANTA,INITIAL (BRDA RNYING YIG MGO MDUN MA,YIG MGO MDUN MA),",
   "INTERSYLLABIC TSHEG,LEADING MCHAN RTAGS,MNYAM YIG GI MGO RGYAN,NGAS BZUNG (NYI ZLA,SGOR ",
   "RTAGS),NYIS (SHAD,TSHEG(, SHAD)),PALUTA,RGYA GRAM SHAD,RIN CHEN SPUNGS SHAD,SBRUL SHAD,SHAD,",
   "TRAILING MCHAN RTAGS,TSA -PHRU,TSHEG SHAD,YIG MGO TSHEG SHAD MA),SIGN (GRU (CAN RGYINGS,MED ",
   "RGYINGS),INVERTED MCHU CAN,LCE TSA CAN,LCI RTAGS,MAR TSHES,MCHU CAN,NYI ZLA NAA DA,RDEL (",
   "DKAR (GCIG,GNYIS,GSUM,RDEL NAG),NAG (GCIG,GNYIS,GSUM,RDEL DKAR)),RJES SU NGA RO,RNAM BCAD,",
   "SNA LDAN,YANG RTAGS,YAR TSHES),SUBJOINED (LETTER (-A,A,BA,BHA,CA,CHA,DA,DDA,DDHA,DHA,DZA,",
   "DZHA,FIXED-FORM (RA,WA,YA),GA,GHA,HA,JA,KA,KHA,KSSA,LA,MA,NA,NGA,NNA,NYA,PA,PHA,RA,SA,SHA,",
   "SSA,TA,THA,TSA,TSHA,TTA,TTHA,WA,YA,ZA,ZHA),SIGN (INVERTED MCHU CAN,LCE TSA CAN,MCHU CAN)),",
   "SYLLABLE OM,SYMBOL (DRIL BU,NOR BU(, BZHI -KHYIL, GSUM -KHYIL, NYIS -KHYIL),PADMA GDAN,PHUR ",
   "PA,RDO RJE(, RGYA GRAM)),VOWEL SIGN (AA,E,EE,I,II,O,OO,REVERSED (I,II),U,UU,VOCALIC (L,LL,R,",
   "RR))),TICKET,TIE OVER INFINITY,TIFINAGH (CONSONANT JOINER,LETTER (AHAGGAR YAZH,AYER YAGH,",
   "BERBER ACADEMY (YAH,YAJ),TAWELLEMET YAZ,TUAREG (YAGH,YAGN,YAH,YAK,YAKH,YANG,YAQ,YAZH),YA,YAA,",
   "YAB,YABH,YACH,YAD,YADD,YADDH,YADH,YAF,YAG,YAGH,YAGHH,YAH,YAHH,YAJ,YAK,YAKH,YAKHH,YAL,YAM,YAN,",
   "YAP,YAQ,YAR,YARR,YAS,YASH,YASS,YAT,YATH,YATT,YAV,YAW,YAY,YAZ,YAZH,YAZZ,YE,YEY,YI,YO,YU),",
   "MODIFIER LETTER LABIALIZATION MARK,SEPARATOR MARK),TIGER(, FACE),TIGHT TRIFOLIATE SNOWFLAKE,",
   "TILDE(, OPERATOR(, ABOVE (LEFTWARDS ARROW,RIGHTWARDS ARROW), WITH (DOT ABOVE,RISING DOTS)), ",
   "WITH (DOT (ABOVE,BELOW),RING ABOVE)),TIMER CLOCK,TIMES WITH (LEFT HALF BLACK,RIGHT HALF ",
   "BLACK),TINY(, TWO DOTS OVER ONE DOT PUNCTUATION),TIRED FACE,TIRHUTA (ABBREVIATION SIGN,ANJI,",
   "DIGIT (EIGHT,FIVE,FOUR,NINE,ONE,SEVEN,SIX,THREE,TWO,ZERO),GVANG,LETTER (A,AA,AI,AU,BA,BHA,CA,",
   "CHA,DA,DDA,DDHA,DHA,E,GA,GHA,HA,I,II,JA,JHA,KA,KHA,LA,MA,NA,NGA,NNA,NYA,O,PA,PHA,RA,SA,SHA,",
   "SSA,TA,THA,TTA,TTHA,U,UU,VA,VOCALIC (L,LL,R,RR),YA),OM,SIGN (ANUSVARA,AVAGRAHA,CANDRABINDU,",
   "NUKTA,VIRAMA,VISARGA),VOWEL SIGN (AA,AI,AU,E,I,II,O,SHORT (E,O),U,UU,VOCALIC (L,LL,R,RR))),",
   "TIRONIAN SIGN (CAPITAL ET,ET),TOILET,TOKYO TOWER,TOMATO,TONGUE,TOOLBOX,TOOTH,TOOTHBRUSH,TOP (",
   "ARC (ANTICLOCKWISE ARROW(, WITH PLUS),CLOCKWISE ARROW WITH MINUS),CURLY BRACKET,HALF (BLACK ",
   "CIRCLE,INTEGRAL,LEFT PARENTHESIS,RIGHT PARENTHESIS,SECTION SIGN),HAT,LEFT (CORNER,CROP,HALF ",
   "BRACKET),PARENTHESIS,RIGHT (CORNER,CROP,HALF BRACKET),SQUARE BRACKET,TORTOISE SHELL BRACKET,",
   "WITH UPWARDS ARROW ABOVE),TORTOISE SHELL BRACKETED (CJK UNIFIED (IDEOGRAPH-4E09,",
   "IDEOGRAPH-4E8C,IDEOGRAPH-52DD,IDEOGRAPH-5B89,IDEOGRAPH-6253,IDEOGRAPH-6557,IDEOGRAPH-672C,",
   "IDEOGRAPH-70B9,IDEOGRAPH-76D7),LATIN CAPITAL LETTER S),TOTAL RUNOUT,TOTO (LETTER (A,AE,BA,",
   "BREATHY (AE,E,EO,I,IU),CHA,DA,E,EO,GA,HA,I,IU,JA,KA,LA,MA,NA,NGA,O,PA,RA,SA,TA,U,WA,YA),SIGN ",
   "RISING TONE),TRACKBALL,TRACTOR,TRADE MARK SIGN,TRAIN,TRAM(, CAR),TRANSPLUTO,TRANSVERSAL ",
   "INTERSECTION,TRIANGLE WITH (DOT ABOVE,ROUNDED CORNERS,SERIFS AT BOTTOM,UNDERBAR),",
   "TRIANGLE-HEADED RIGHTWARDS ARROW,TRIANGULAR (BULLET,FLAG ON POST,RULER),TRICOLON,TRIDENT ",
   "EMBLEM,TRIGRAM FOR (EARTH,FIRE,HEAVEN,LAKE,MOUNTAIN,THUNDER,WATER,WIND),TRIPLE (COLON ",
   "OPERATOR,DAGGER,HORIZONTAL BAR WITH (DOUBLE VERTICAL STROKE,TRIPLE VERTICAL STROKE),INTEGRAL,",
   "NESTED (GREATER-THAN,LESS-THAN),PLUS,PRIME,SOLIDUS BINARY RELATION,TILDE,VERTICAL BAR (",
   "BINARY RELATION,DELIMITER,RIGHT TURNSTILE,WITH HORIZONTAL STROKE)),TROLL,TROLLEYBUS,TROPHY,",
   "TROPICAL (DRINK,FISH),TRUE(, LIGHT MOON ARTA),TRUMPET,TUGRIK SIGN,TULIP,TUMBLER GLASS,TURKEY,",
   "TURKISH LIRA SIGN,TURNED (AMPERSAND,ANGLE,BLACK (PENTAGON,SHOGI PIECE),CAPITAL F,COMMA,",
   "DAGGER,DIGIT (THREE,TWO),GREEK SMALL LETTER IOTA,NORTH (EAST POINTING LEAF,WEST POINTING ",
   "LEAF),NOT SIGN,OK HAND SIGN,SANS-SERIF CAPITAL (G,L,Y),SEMICOLON,SMALL F,SOUTH (EAST ",
   "POINTING LEAF,WEST POINTING LEAF),WHITE SHOGI PIECE),TURTLE,TWELVE POINTED BLACK STAR,",
   "TWISTED RIGHTWARDS ARROWS,TWO (ASTERISKS ALIGNED VERTICALLY,BUTTON MOUSE,CONSECUTIVE EQUALS ",
   "SIGNS,DOT (LEADER,PUNCTUATION),DOTS OVER ONE DOT PUNCTUATION,HEARTS,INTERSECTING LOGICAL (",
   "AND,OR),JOINED SQUARES,LOGICAL (AND OPERATOR,OR OPERATOR),MEN HOLDING HANDS,SPEECH BUBBLES,",
   "WOMEN HOLDING HANDS),TWO-EM DASH,UGARITIC (LETTER (AIN,ALPA,BETA,DELTA,DHAL,GAMLA,GHAIN,HO,",
   "HOTA,I,KAF,KHA,LAMDA,MEM,NUN,PU,QOPA,RASHA,SADE,SAMKA,SHIN,SSU,TET,THANNA,TO,U,WO,YOD,ZETA,",
   "ZU),WORD DIVIDER),UMBRELLA(, ON GROUND, WITH RAIN DROPS),UNAMUSED FACE,UNCERTAINTY SIGN,",
   "UNDERTIE,UNDO SYMBOL,UNICORN FACE,UNION(, ABOVE (BAR ABOVE INTERSECTION,INTERSECTION), ",
   "BESIDE AND JOINED WITH UNION, WITH (LOGICAL OR,MINUS SIGN,OVERBAR)),UNIT SEPARATOR,UNITED ",
   "SYMBOL,UNIVERSAL RECYCLING SYMBOL,UNMARRIED PARTNERSHIP SYMBOL,UP (ARROW THROUGH CIRCLE,",
   "ARROWHEAD(, BETWEEN TWO HORIZONTAL BARS, IN A RECTANGLE BOX),BARB (LEFT DOWN BARB (LEFT ",
   "HARPOON,RIGHT HARPOON),RIGHT DOWN BARB (LEFT HARPOON,RIGHT HARPOON)),DOWN (ARROW(, WITH BASE)",
   ",BLACK ARROW,DOUBLE ARROW,SANS-SERIF ARROW,TRIANGLE-HEADED ARROW,WHITE ARROW),FISH TAIL,",
   "RIGHT DIAGONAL ELLIPSIS,TACK(, WITH CIRCLE ABOVE)),UP-POINTING (AIRPLANE,MILITARY AIRPLANE,",
   "RED TRIANGLE,SMALL (AIRPLANE,RED TRIANGLE),TRIANGLE WITH (LEFT HALF BLACK,RIGHT HALF BLACK)),",
   "UPPER (AND (LEFT AND LOWER TRIANGULAR THREE QUARTERS BLOCK,LOWER (ONE EIGHTH BLOCK,",
   "TRIANGULAR HALF BLOCK),RIGHT AND LOWER TRIANGULAR THREE QUARTERS BLOCK),BLADE SCISSORS,FIVE ",
   "EIGHTHS BLOCK,HALF (BLOCK(, AND LOWER HALF INVERSE MEDIUM SHADE),CIRCLE,INVERSE (MEDIUM ",
   "SHADE AND LOWER HALF BLOCK,WHITE CIRCLE),MEDIUM SHADE),LEFT (BLOCK DIAGONAL (LOWER (CENTRE ",
   "TO (LOWER MIDDLE RIGHT,UPPER (MIDDLE RIGHT,RIGHT)),LEFT TO (LOWER MIDDLE RIGHT,UPPER (CENTRE,",
   "MIDDLE RIGHT)),MIDDLE LEFT TO UPPER (CENTRE,MIDDLE RIGHT,RIGHT)),UPPER MIDDLE LEFT TO UPPER (",
   "CENTRE,RIGHT)),CORNER WITH DOT,OR LOWER RIGHT CURLY BRACKET SECTION,QUADRANT CIRCULAR ARC,TO ",
   "LOWER RIGHT FILL,TRIANGLE,TRIANGULAR MEDIUM SHADE),ONE (EIGHTH BLOCK,QUARTER BLOCK),RIGHT (",
   "BLOCK DIAGONAL (LOWER MIDDLE LEFT TO LOWER (CENTRE,RIGHT),UPPER (CENTRE TO (LOWER (MIDDLE ",
   "RIGHT,RIGHT),UPPER MIDDLE RIGHT),LEFT TO (LOWER (CENTRE,MIDDLE RIGHT),UPPER MIDDLE RIGHT),",
   "MIDDLE LEFT TO LOWER (CENTRE,MIDDLE RIGHT,RIGHT))),DROP-SHADOWED WHITE SQUARE,OR LOWER LEFT ",
   "CURLY BRACKET SECTION,PENCIL,QUADRANT CIRCULAR ARC,SHADOWED WHITE (CIRCLE,SQUARE),TO LOWER ",
   "LEFT FILL,TRIANGLE,TRIANGULAR MEDIUM SHADE),SEVEN EIGHTHS BLOCK,THREE (EIGHTHS BLOCK,",
   "QUARTERS BLOCK),TRIANGULAR ONE QUARTER BLOCK),UPSIDE-DOWN FACE,UPWARDS (ANCORA,ARROW(, AND ",
   "RIGHT ONE EIGHTH BLOCK, FROM BAR, LEFTWARDS OF DOWNWARDS ARROW, TO BAR, WITH (DOUBLE STROKE,",
   "EQUILATERAL ARROWHEAD,HORIZONTAL STROKE,LARGE TRIANGLE ARROWHEAD,MEDIUM TRIANGLE ARROWHEAD,",
   "NOTCHED TAIL,SMALL (EQUILATERAL ARROWHEAD,TRIANGLE ARROWHEAD),TIP (LEFTWARDS,RIGHTWARDS))),",
   "BLACK (ARROW,CIRCLED WHITE ARROW),COMPRESSED ARROW,DASHED ARROW,DOUBLE ARROW,FINGER-POST ",
   "ARROW,HARPOON WITH BARB (LEFT (BESIDE (DOWNWARDS HARPOON WITH BARB RIGHT,UPWARDS HARPOON ",
   "WITH BARB RIGHT),FROM BAR,TO BAR),LEFTWARDS,RIGHT (FROM BAR,TO BAR),RIGHTWARDS),HEAVY (ARROW,",
   "COMPRESSED ARROW),PAIRED ARROWS,QUADRUPLE ARROW,ROCKET,SANS-SERIF ARROW,SQUARED ARROW,",
   "TRIANGLE ARROWHEAD,TRIANGLE-HEADED (ARROW(, LEFTWARDS OF DOWNWARDS TRIANGLE-HEADED ARROW, TO ",
   "BAR, WITH (BOLD SHAFT,DOUBLE HORIZONTAL STROKE,HEAVY SHAFT,LONG TIP (LEFTWARDS,RIGHTWARDS),",
   "MEDIUM SHAFT,NARROW SHAFT,VERY HEAVY SHAFT)),DASHED ARROW,PAIRED ARROWS),TRIPLE ARROW,TWO ",
   "HEADED ARROW,TWO-HEADED ARROW (FROM SMALL CIRCLE,WITH TRIANGLE ARROWHEADS),WHITE (ARROW(, ",
   "FROM BAR(, WITH HORIZONTAL BAR), ON PEDESTAL(, WITH (HORIZONTAL BAR,VERTICAL BAR)), WITHIN ",
   "TRIANGLE ARROWHEAD),DOUBLE ARROW(, ON PEDESTAL))),URANUS,US,VAI (COMMA,DIGIT (EIGHT,FIVE,",
   "FOUR,NINE,ONE,SEVEN,SIX,THREE,TWO,ZERO),FULL STOP,QUESTION MARK,SYLLABLE (A,AN,BA,BE,BEE,BHA,",
   "BHE,BHEE,BHI,BHO,BHOO,BHU,BI,BO,BOO,BU,CA,CE,CEE,CI,CO,COO,CU,DA,DE,DEE,DHA,DHE,DHEE,DHHA,",
   "DHHE,DHHEE,DHHI,DHHO,DHHOO,DHHU,DHI,DHO,DHOO,DHU,DI,DO,DOO,DU,E,EE,EEN,EN,FA,FE,FEE,FI,FO,",
   "FOO,FU,GA,GBA,GBE,GBEE,GBEN,GBI,GBO,GBON,GBOO,GBU,GE,GEE,GEN,GI,GO,GOO,GU,HA,HAN,HE,HEE,HEN,",
   "HI,HIN,HO,HON,HOO,HU,HUN,I,IN,JA,JE,JEE,JI,JO,JOO,JU,KA,KAN,KE,KEE,KI,KO,KOO,KPA,KPAN,KPE,",
   "KPEE,KPEN,KPI,KPO,KPOO,KPU,KU,LA,LE,LEE,LENGTHENER,LI,LO,LOO,LU,MA,MBA,MBE,MBEE,MBI,MBO,MBOO,",
   "MBU,ME,MEE,MGBA,MGBE,MGBEE,MGBI,MGBO,MGBOO,MGBU,MI,MO,MOO,MU,NA,NDA,NDE,NDEE,NDI,NDO,NDOLE (",
   "DO,FA,KA,MA,SOO),NDOO,NDU,NE,NEE,NG,NGAN,NGEN,NGGA,NGGE,NGGEE,NGGEN,NGGI,NGGO,NGGOO,NGGU,",
   "NGON,NI,NJA,NJE,NJEE,NJI,NJO,NJOO,NJU,NO,NOO,NU,NYA,NYE,NYEE,NYI,NYO,NYOO,NYU,O,ON,OO,OON,PA,",
   "PE,PEE,PI,PO,POO,PU,RA,RE,REE,RI,RO,ROO,RU,SA,SE,SEE,SHA,SHE,SHEE,SHI,SHO,SHOO,SHU,SI,SO,SOO,",
   "SU,TA,TE,TEE,THA,THE,THEE,THI,THO,THOO,THU,TI,TO,TOO,TU,U,UN,VA,VE,VEE,VI,VO,VOO,VU,WA,WAN,",
   "WE,WEE,WEEN,WEN,WI,WIN,WO,WON,WOO,WOON,WU,WUN,YA,YE,YEE,YI,YO,YOO,YU,ZA,ZE,ZEE,ZHA,ZHE,ZHEE,",
   "ZHI,ZHO,ZHOO,ZHU,ZI,ZO,ZOO,ZU),SYMBOL (BANG,DANG,DO-O,DOONG,FAA,FEENG,JONG,KEENG,KUNG,NII,",
   "TAA,TING,TONG)),VAMPIRE,VARIATION (SELECTOR-1,SELECTOR-10,SELECTOR-100,SELECTOR-101,",
   "SELECTOR-102,SELECTOR-103,SELECTOR-104,SELECTOR-105,SELECTOR-106,SELECTOR-107,SELECTOR-108,",
   "SELECTOR-109,SELECTOR-11,SELECTOR-110,SELECTOR-111,SELECTOR-112,SELECTOR-113,SELECTOR-114,",
   "SELECTOR-115,SELECTOR-116,SELECTOR-117,SELECTOR-118,SELECTOR-119,SELECTOR-12,SELECTOR-120,",
   "SELECTOR-121,SELECTOR-122,SELECTOR-123,SELECTOR-124,SELECTOR-125,SELECTOR-126,SELECTOR-127,",
   "SELECTOR-128,SELECTOR-129,SELECTOR-13,SELECTOR-130,SELECTOR-131,SELECTOR-132,SELECTOR-133,",
   "SELECTOR-134,SELECTOR-135,SELECTOR-136,SELECTOR-137,SELECTOR-138,SELECTOR-139,SELECTOR-14,",
   "SELECTOR-140,SELECTOR-141,SELECTOR-142,SELECTOR-143,SELECTOR-144,SELECTOR-145,SELECTOR-146,",
   "SELECTOR-147,SELECTOR-148,SELECTOR-149,SELECTOR-15,SELECTOR-150,SELECTOR-151,SELECTOR-152,",
   "SELECTOR-153,SELECTOR-154,SELECTOR-155,SELECTOR-156,SELECTOR-157,SELECTOR-158,SELECTOR-159,",
   "SELECTOR-16,SELECTOR-160,SELECTOR-161,SELECTOR-162,SELECTOR-163,SELECTOR-164,SELECTOR-165,",
   "SELECTOR-166,SELECTOR-167,SELECTOR-168,SELECTOR-169,SELECTOR-17,SELECTOR-170,SELECTOR-171,",
   "SELECTOR-172,SELECTOR-173,SELECTOR-174,SELECTOR-175,SELECTOR-176,SELECTOR-177,SELECTOR-178,",
   "SELECTOR-179,SELECTOR-18,SELECTOR-180,SELECTOR-181,SELECTOR-182,SELECTOR-183,SELECTOR-184,",
   "SELECTOR-185,SELECTOR-186,SELECTOR-187,SELECTOR-188,SELECTOR-189,SELECTOR-19,SELECTOR-190,",
   "SELECTOR-191,SELECTOR-192,SELECTOR-193,SELECTOR-194,SELECTOR-195,SELECTOR-196,SELECTOR-197,",
   "SELECTOR-198,SELECTOR-199,SELECTOR-2,SELECTOR-20,SELECTOR-200,SELECTOR-201,SELECTOR-202,",
   "SELECTOR-203,SELECTOR-204,SELECTOR-205,SELECTOR-206,SELECTOR-207,SELECTOR-208,SELECTOR-209,",
   "SELECTOR-21,SELECTOR-210,SELECTOR-211,SELECTOR-212,SELECTOR-213,SELECTOR-214,SELECTOR-215,",
   "SELECTOR-216,SELECTOR-217,SELECTOR-218,SELECTOR-219,SELECTOR-22,SELECTOR-220,SELECTOR-221,",
   "SELECTOR-222,SELECTOR-223,SELECTOR-224,SELECTOR-225,SELECTOR-226,SELECTOR-227,SELECTOR-228,",
   "SELECTOR-229,SELECTOR-23,SELECTOR-230,SELECTOR-231,SELECTOR-232,SELECTOR-233,SELECTOR-234,",
   "SELECTOR-235,SELECTOR-236,SELECTOR-237,SELECTOR-238,SELECTOR-239,SELECTOR-24,SELECTOR-240,",
   "SELECTOR-241,SELECTOR-242,SELECTOR-243,SELECTOR-244,SELECTOR-245,SELECTOR-246,SELECTOR-247,",
   "SELECTOR-248,SELECTOR-249,SELECTOR-25,SELECTOR-250,SELECTOR-251,SELECTOR-252,SELECTOR-253,",
   "SELECTOR-254,SELECTOR-255,SELECTOR-256,SELECTOR-26,SELECTOR-27,SELECTOR-28,SELECTOR-29,",
   "SELECTOR-3,SELECTOR-30,SELECTOR-31,SELECTOR-32,SELECTOR-33,SELECTOR-34,SELECTOR-35,",
   "SELECTOR-36,SELECTOR-37,SELECTOR-38,SELECTOR-39,SELECTOR-4,SELECTOR-40,SELECTOR-41,",
   "SELECTOR-42,SELECTOR-43,SELECTOR-44,SELECTOR-45,SELECTOR-46,SELECTOR-47,SELECTOR-48,",
   "SELECTOR-49,SELECTOR-5,SELECTOR-50,SELECTOR-51,SELECTOR-52,SELECTOR-53,SELECTOR-54,",
   "SELECTOR-55,SELECTOR-56,SELECTOR-57,SELECTOR-58,SELECTOR-59,SELECTOR-6,SELECTOR-60,",
   "SELECTOR-61,SELECTOR-62,SELECTOR-63,SELECTOR-64,SELECTOR-65,SELECTOR-66,SELECTOR-67,",
   "SELECTOR-68,SELECTOR-69,SELECTOR-7,SELECTOR-70,SELECTOR-71,SELECTOR-72,SELECTOR-73,",
   "SELECTOR-74,SELECTOR-75,SELECTOR-76,SELECTOR-77,SELECTOR-78,SELECTOR-79,SELECTOR-8,",
   "SELECTOR-80,SELECTOR-81,SELECTOR-82,SELECTOR-83,SELECTOR-84,SELECTOR-85,SELECTOR-86,",
   "SELECTOR-87,SELECTOR-88,SELECTOR-89,SELECTOR-9,SELECTOR-90,SELECTOR-91,SELECTOR-92,",
   "SELECTOR-93,SELECTOR-94,SELECTOR-95,SELECTOR-96,SELECTOR-97,SELECTOR-98,SELECTOR-99),VECTOR ",
   "OR CROSS PRODUCT,VEDIC (SIGN (ANUSVARA (ANTARGOMUKHA,BAHIRGOMUKHA,UBHAYATO MUKHA,VAMAGOMUKHA(",
   ", WITH TAIL)),ARDHAVISARGA,ATIKRAMA,DOUBLE ANUSVARA ANTARGOMUKHA,HEXIFORM LONG ANUSVARA,",
   "JIHVAMULIYA,LONG ANUSVARA,NIHSHVASA,REVERSED VISARGA (ANUDATTA,UDATTA),ROTATED ARDHAVISARGA,",
   "RTHANG LONG ANUSVARA,TIRYAK,UPADHMANIYA,VISARGA (ANUDATTA(, WITH TAIL),SVARITA,UDATTA(, WITH ",
   "TAIL)),YAJURVEDIC MIDLINE SVARITA),TONE (ATHARVAVEDIC INDEPENDENT SVARITA,CANDRA (ABOVE,",
   "BELOW),DOT BELOW,DOUBLE (RING ABOVE,SVARITA),KARSHANA,KATHAKA ANUDATTA,PRENKHA,RIGVEDIC ",
   "KASHMIRI INDEPENDENT SVARITA,RING ABOVE,SHARA,THREE DOTS BELOW,TRIPLE SVARITA,TWO DOTS BELOW,",
   "YAJURVEDIC (AGGRAVATED INDEPENDENT SVARITA,INDEPENDENT SVARITA,KATHAKA INDEPENDENT SVARITA(, ",
   "SCHROEDER)))),VERSICLE,VERTICAL (BAR (BESIDE RIGHT TRIANGLE,DOUBLE LEFT TURNSTILE,TRIPLE ",
   "RIGHT TURNSTILE,WITH HORIZONTAL STROKE),ELLIPSIS,FOUR DOTS,IDEOGRAPHIC ITERATION MARK,KANA ",
   "REPEAT (MARK(, LOWER HALF, UPPER HALF),WITH VOICED SOUND MARK(, UPPER HALF)),LINE(, ",
   "EXTENSION, WITH (CIRCLE (ABOVE,BELOW),MIDDLE DOT)),MALE WITH STROKE SIGN,ONE EIGHTH (BLOCK-2,",
   "BLOCK-3,BLOCK-4,BLOCK-5,BLOCK-6,BLOCK-7),SIX DOTS,TAB KEY,TABULATION(, SET),TILDE,TRAFFIC ",
   "LIGHT,ZIGZAG LINE),VERY (BOLD GREEK CROSS,HEAVY (EIGHT (POINTED BLACK STAR,SPOKED ASTERISK),",
   "FIVE SPOKED ASTERISK,GREEK CROSS,REVERSE SOLIDUS,SALTIRE,SIX SPOKED ASTERISK,SOLIDUS,WHITE (",
   "CIRCLE,SQUARE)),MUCH (GREATER-THAN,LESS-THAN)),VESTA,VIBRATION MODE,VICTORY HAND,VIDEO (",
   "CAMERA,GAME),VIDEOCASSETTE,VIETNAMESE ALTERNATE READING MARK (CA,NHAY),VIEWDATA SQUARE,",
   "VIOLIN,VIRGO,VITHKUQI (CAPITAL LETTER (A,BBE,BE,CE,CHE,DE,DHE,E,EI,FE,GA,HA,HHA,I,IJE,JE,KA,",
   "LA,LLA,ME,NE,NJE,O,PE,QA,RE,SE,SHE,TE,THE,U,VE,XE,Y,ZE),SMALL LETTER (A,BBE,BE,CE,CHE,DE,DHE,",
   "E,EI,FE,GA,HA,HHA,I,IJE,JE,KA,LA,LLA,ME,NE,NJE,O,PE,QA,RE,SE,SHE,TE,THE,U,VE,XE,Y,ZE)),",
   "VOIDED GREEK CROSS,VOLCANO,VOLLEYBALL,VOLUME INTEGRAL,VS1,VS10,VS100,VS101,VS102,VS103,VS104,",
   "VS105,VS106,VS107,VS108,VS109,VS11,VS110,VS111,VS112,VS113,VS114,VS115,VS116,VS117,VS118,",
   "VS119,VS12,VS120,VS121,VS122,VS123,VS124,VS125,VS126,VS127,VS128,VS129,VS13,VS130,VS131,",
   "VS132,VS133,VS134,VS135,VS136,VS137,VS138,VS139,VS14,VS140,VS141,VS142,VS143,VS144,VS145,",
   "VS146,VS147,VS148,VS149,VS15,VS150,VS151,VS152,VS153,VS154,VS155,VS156,VS157,VS158,VS159,",
   "VS16,VS160,VS161,VS162,VS163,VS164,VS165,VS166,VS167,VS168,VS169,VS17,VS170,VS171,VS172,",
   "VS173,VS174,VS175,VS176,VS177,VS178,VS179,VS18,VS180,VS181,VS182,VS183,VS184,VS185,VS186,",
   "VS187,VS188,VS189,VS19,VS190,VS191,VS192,VS193,VS194,VS195,VS196,VS197,VS198,VS199,VS2,VS20,",
   "VS200,VS201,VS202,VS203,VS204,VS205,VS206,VS207,VS208,VS209,VS21,VS210,VS211,VS212,VS213,",
   "VS214,VS215,VS216,VS217,VS218,VS219,VS22,VS220,VS221,VS222,VS223,VS224,VS225,VS226,VS227,",
   "VS228,VS229,VS23,VS230,VS231,VS232,VS233,VS234,VS235,VS236,VS237,VS238,VS239,VS24,VS240,",
   "VS241,VS242,VS243,VS244,VS245,VS246,VS247,VS248,VS249,VS25,VS250,VS251,VS252,VS253,VS254,",
   "VS255,VS256,VS26,VS27,VS28,VS29,VS3,VS30,VS31,VS32,VS33,VS34,VS35,VS36,VS37,VS38,VS39,VS4,",
   "VS40,VS41,VS42,VS43,VS44,VS45,VS46,VS47,VS48,VS49,VS5,VS50,VS51,VS52,VS53,VS54,VS55,VS56,",
   "VS57,VS58,VS59,VS6,VS60,VS61,VS62,VS63,VS64,VS65,VS66,VS67,VS68,VS69,VS7,VS70,VS71,VS72,VS73,",
   "VS74,VS75,VS76,VS77,VS78,VS79,VS8,VS80,VS81,VS82,VS83,VS84,VS85,VS86,VS87,VS88,VS89,VS9,VS90,",
   "VS91,VS92,VS93,VS94,VS95,VS96,VS97,VS98,VS99,VT,VTS,VULCANUS,VULGAR FRACTION (FIVE (EIGHTHS,",
   "SIXTHS),FOUR FIFTHS,ONE (EIGHTH,FIFTH,HALF,NINTH,QUARTER,SEVENTH,SIXTH,TENTH,THIRD),SEVEN ",
   "EIGHTHS,THREE (EIGHTHS,FIFTHS,QUARTERS),TWO (FIFTHS,THIRDS),ZERO THIRDS),WAFFLE,WANCHO (",
   "DIGIT (EIGHT,FIVE,FOUR,NINE,ONE,SEVEN,SIX,THREE,TWO,ZERO),LETTER (A,AA,AAN,AANG,ANG,AU,BA,CA,",
   "DA,E,EN,FA,GA,HA,I,ING,JA,KA,KHA,LA,LLHA,MA,NA,NGA,NYA,O,ON,ONG,PA,PHA,RA,SA,SHA,TA,THA,TRA,",
   "TSA,U,UEN,VA,WA,YA,YIH,ZA),NGUN SIGN,TONE (KOI,KOINI,TUP,TUPNI)),WANING (CRESCENT MOON ",
   "SYMBOL,GIBBOUS MOON SYMBOL),WARANG CITI (CAPITAL LETTER (A,AM,ANG,AT,BU,DA,E,ENN,ENY,GA,HAR,",
   "HIYO,HOLO,HORR,II,KO,NGAA,NUNG,O,ODD,PU,SII,SSUU,TTE,UC,UU,VIYO,WI,YA,YO,YU,YUJ),DIGIT (",
   "EIGHT,FIVE,FOUR,NINE,ONE,SEVEN,SIX,THREE,TWO,ZERO),NUMBER (EIGHTY,FIFTY,FORTY,NINETY,SEVENTY,",
   "SIXTY,TEN,THIRTY,TWENTY),OM,SMALL LETTER (A,AM,ANG,AT,BU,DA,E,ENN,ENY,GA,HAR,HIYO,HOLO,HORR,",
   "II,KO,NGAA,NUNG,O,ODD,PU,SII,SSUU,TTE,UC,UU,VIYO,WI,YA,YO,YU,YUJ)),WARNING SIGN,WASTEBASKET,",
   "WATCH,WATER (BUFFALO,CLOSET,POLO,WAVE),WATERMELON,WAVE (ARROW POINTING DIRECTLY (LEFT,RIGHT),",
   "DASH),WAVING (BLACK FLAG,HAND SIGN,WHITE FLAG),WAVY (DASH,LINE,LOW LINE,OVERLINE),WAXING (",
   "CRESCENT MOON SYMBOL,GIBBOUS MOON SYMBOL),WEARY (CAT FACE,FACE),WEDDING,WEDGE-TAILED ",
   "RIGHTWARDS ARROW,WEIERSTRASS ELLIPTIC FUNCTION,WEIGHT LIFTER,WEST SYRIAC CROSS,WHALE,WHEEL(, ",
   "OF DHARMA),WHEELCHAIR SYMBOL,WHITE (ARROW SHAFT WIDTH (ONE,TWO THIRDS),BULLET,CHESS (BISHOP(,",
   " ROTATED (NINETY DEGREES,TWO HUNDRED SEVENTY DEGREES)),EQUIHOPPER(, ROTATED NINETY DEGREES),",
   "KING(, ROTATED (NINETY DEGREES,TWO HUNDRED SEVENTY DEGREES)),KNIGHT(, ROTATED (FORTY-FIVE ",
   "DEGREES,NINETY DEGREES,ONE HUNDRED THIRTY-FIVE DEGREES,THREE HUNDRED FIFTEEN DEGREES,TWO ",
   "HUNDRED (SEVENTY DEGREES,TWENTY-FIVE DEGREES))),KNIGHT-BISHOP,KNIGHT-QUEEN,KNIGHT-ROOK,PAWN(,",
   " ROTATED (NINETY DEGREES,TWO HUNDRED SEVENTY DEGREES)),QUEEN(, ROTATED (NINETY DEGREES,TWO ",
   "HUNDRED SEVENTY DEGREES)),ROOK(, ROTATED (NINETY DEGREES,TWO HUNDRED SEVENTY DEGREES)),",
   "TURNED (BISHOP,KING,KNIGHT,PAWN,QUEEN,ROOK)),CIRCLE(, CONTAINING BLACK SMALL CIRCLE, WITH (",
   "DOT RIGHT,DOWN ARROW,LOWER (LEFT QUADRANT,RIGHT QUADRANT),TWO DOTS,UPPER (LEFT QUADRANT,",
   "RIGHT QUADRANT))),CLUB SUIT,CONCAVE-SIDED DIAMOND(, WITH (LEFTWARDS TICK,RIGHTWARDS TICK)),",
   "DIAMOND(, CONTAINING BLACK (MEDIUM DIAMOND,SMALL DIAMOND,VERY SMALL DIAMOND), IN SQUARE, ",
   "SUIT, WITH CENTRED DOT),DOWN POINTING (BACKHAND INDEX,INDEX,LEFT HAND INDEX),DOWN-POINTING (",
   "SMALL TRIANGLE,TRIANGLE),DRAUGHTS (KING,MAN),EXCLAMATION MARK ORNAMENT,FLAG(, WITH ",
   "HORIZONTAL MIDDLE BLACK STRIPE),FLORETTE,FLOWER,FOUR POINTED (CUSP,STAR),FROWNING FACE,HARD ",
   "SHELL FLOPPY DISK,HEART(, SUIT),HEAVY (CHECK MARK,SALTIRE WITH ROUNDED CORNERS),HEXAGON,",
   "HORIZONTAL ELLIPSE,HOURGLASS,LARGE SQUARE,LATIN CROSS,LEFT (LANE MERGE,POINTING (BACKHAND ",
   "INDEX,INDEX)),LEFT-POINTING (POINTER,SMALL TRIANGLE,TRIANGLE),LOZENGE CONTAINING BLACK SMALL ",
   "LOZENGE,MEDIUM (DIAMOND,LOZENGE,SMALL SQUARE,SQUARE,STAR),MOON SELENA,NIB,PARALLELOGRAM,",
   "PENNANT,PENTAGON,QUESTION MARK ORNAMENT,RECTANGLE,RIGHT POINTING (BACKHAND INDEX,INDEX),",
   "RIGHT-POINTING (PENTAGON,POINTER,SMALL TRIANGLE,TRIANGLE),SCISSORS,SESAME DOT,SHOGI PIECE,",
   "SMALL (LOZENGE,SQUARE,STAR),SMILING FACE,SPADE SUIT,SQUARE(, BUTTON, CONTAINING BLACK (",
   "MEDIUM SQUARE,SMALL SQUARE,VERY SMALL SQUARE), WITH (CENTRE VERTICAL LINE,LEFTWARDS TICK,",
   "LOWER (LEFT QUADRANT,RIGHT QUADRANT),RIGHTWARDS TICK,ROUNDED CORNERS,UPPER (LEFT QUADRANT,",
   "RIGHT QUADRANT),VERTICAL BISECTING LINE)),STAR,SUN(, BEHIND CLOUD(, WITH RAIN), WITH (RAYS,",
   "SMALL CLOUD)),TELEPHONE,TOUCHTONE TELEPHONE,TRAPEZIUM,TRIANGLE CONTAINING SMALL WHITE ",
   "TRIANGLE,TWO-WAY LEFT WAY TRAFFIC,UP POINTING (BACKHAND INDEX,INDEX),UP-POINTING (CHEVRON,",
   "SMALL TRIANGLE,TRIANGLE(, WITH DOT)),VERTICAL (BAR,ELLIPSE,RECTANGLE),VERY SMALL SQUARE),",
   "WHITE-FEATHERED RIGHTWARDS ARROW,WIDE-HEADED (DOWNWARDS (BARB ARROW,HEAVY BARB ARROW,LIGHT ",
   "BARB ARROW,MEDIUM BARB ARROW,VERY HEAVY BARB ARROW),LEFTWARDS (BARB ARROW,HEAVY BARB ARROW,",
   "LIGHT BARB ARROW,MEDIUM BARB ARROW,VERY HEAVY BARB ARROW),NORTH (EAST (BARB ARROW,HEAVY BARB ",
   "ARROW,LIGHT BARB ARROW,MEDIUM BARB ARROW,VERY HEAVY BARB ARROW),WEST (BARB ARROW,HEAVY BARB ",
   "ARROW,LIGHT BARB ARROW,MEDIUM BARB ARROW,VERY HEAVY BARB ARROW)),RIGHTWARDS (BARB ARROW,",
   "HEAVY BARB ARROW,LIGHT BARB ARROW,MEDIUM BARB ARROW,VERY HEAVY BARB ARROW),SOUTH (EAST (BARB ",
   "ARROW,HEAVY BARB ARROW,LIGHT BARB ARROW,MEDIUM BARB ARROW,VERY HEAVY BARB ARROW),WEST (BARB ",
   "ARROW,HEAVY BARB ARROW,LIGHT BARB ARROW,MEDIUM BARB ARROW,VERY HEAVY BARB ARROW)),UPWARDS (",
   "BARB ARROW,HEAVY BARB ARROW,LIGHT BARB ARROW,MEDIUM BARB ARROW,VERY HEAVY BARB ARROW)),",
   "WIGGLY VERTICAL LINE,WILTED FLOWER,WIND (BLOWING FACE,CHIME),WINDOW,WINE GLASS,WINKING FACE,",
   "WIRED KEYBOARD,WJ,WOLF FACE,WOMAN(, WITH BUNNY EARS),WOMANS (BOOTS,CLOTHES,HAT,SANDAL),",
   "WOMENS SYMBOL,WON SIGN,WOOD,WORD (JOINER,SEPARATOR MIDDLE DOT),WORLD MAP,WORM,WORRIED FACE,",
   "WRAPPED PRESENT,WREATH PRODUCT,WRENCH,WRESTLERS,WRITING HAND,X IN A RECTANGLE BOX,X-RAY,",
   "XIANGQI (BLACK (CANNON,CHARIOT,ELEPHANT,GENERAL,HORSE,MANDARIN,SOLDIER),RED (CANNON,CHARIOT,",
   "ELEPHANT,GENERAL,HORSE,MANDARIN,SOLDIER)),XOR,YAWNING FACE,YELLOW HEART,YEN SIGN,YEZIDI (",
   "COMBINING (HAMZA MARK,MADDA MARK),HYPHENATION MARK,LETTER (BE,CHHIM,CHIM,CIM,DAD,DAL,ELIF,ET,",
   "EW,EYN,FA,GAF,HAY,HHA,JA,KAF,KHAF,LAM(, WITH DOT ABOVE),MIM,NUN,OW,PE,PHE,QAF,RA,RHA,SAD,SE,",
   "SHIN,SIN,TA,THE,UM,VA(, ALTERNATE FORM),WAW,XA,XHEYN,YOT(, WITH CIRCUMFLEX ABOVE),ZA,ZAL,ZE))",
   ",YI (RADICAL (BBUT,BUR,CHE,CIP,CUOP,CY,CYP,CYT,DDUR,DU,GA,GEP,GGOP,GGUO,GOT,HMO,HXIT,HXOP,",
   "HXUO,JJIE,JJUT,JJY,JO,KE,KIT,LI,LIE,LYR,MI,MOP,NBIE,NYIP,NYOP,NZUP,OP,PUT,PYT,QOT,SHAT,SHOP,",
   "SHUR,SHY,SSI,TAT,TU,VEP,VUR,WO,YIT,YO,ZA,ZOT,ZUP,ZUR,ZZIET),SYLLABLE (A,AP,AT,AX,BA,BAP,BAT,",
   "BAX,BBA,BBAP,BBAT,BBAX,BBE,BBEP,BBEX,BBI,BBIE,BBIEP,BBIET,BBIEX,BBIP,BBIT,BBIX,BBO,BBOP,BBOT,",
   "BBOX,BBU,BBUO,BBUOP,BBUOX,BBUP,BBUR,BBURX,BBUT,BBUX,BBY,BBYP,BBYT,BBYX,BE,BEP,BEX,BI,BIE,",
   "BIEP,BIET,BIEX,BIP,BIT,BIX,BO,BOP,BOT,BOX,BU,BUO,BUOP,BUOX,BUP,BUR,BURX,BUT,BUX,BY,BYP,BYR,",
   "BYRX,BYT,BYX,CA,CAP,CAT,CAX,CE,CEP,CEX,CHA,CHAP,CHAT,CHAX,CHE,CHEP,CHET,CHEX,CHO,CHOP,CHOT,",
   "CHOX,CHU,CHUO,CHUOP,CHUOT,CHUOX,CHUP,CHUR,CHURX,CHUX,CHY,CHYP,CHYR,CHYRX,CHYT,CHYX,CI,CIE,",
   "CIEP,CIET,CIEX,CIP,CIT,CIX,CO,COP,COT,COX,CU,CUO,CUOP,CUOX,CUP,CUR,CURX,CUT,CUX,CY,CYP,CYR,",
   "CYRX,CYT,CYX,DA,DAP,DAT,DAX,DDA,DDAP,DDAT,DDAX,DDE,DDEP,DDEX,DDI,DDIE,DDIEP,DDIEX,DDIP,DDIT,",
   "DDIX,DDO,DDOP,DDOT,DDOX,DDU,DDUO,DDUOP,DDUOX,DDUP,DDUR,DDURX,DDUT,DDUX,DE,DEP,DEX,DI,DIE,",
   "DIEP,DIEX,DIP,DIT,DIX,DO,DOP,DOT,DOX,DU,DUO,DUOX,DUP,DUR,DURX,DUT,DUX,E,EX,FA,FAP,FAT,FAX,FI,",
   "FIP,FIT,FIX,FO,FOP,FOX,FU,FUP,FUR,FURX,FUT,FUX,FY,FYP,FYT,FYX,GA,GAP,GAT,GAX,GE,GEP,GET,GEX,",
   "GGA,GGAP,GGAT,GGAX,GGE,GGEP,GGET,GGEX,GGI,GGIE,GGIEP,GGIEX,GGIT,GGIX,GGO,GGOP,GGOT,GGOX,GGU,",
   "GGUO,GGUOP,GGUOT,GGUOX,GGUP,GGUR,GGURX,GGUT,GGUX,GI,GIE,GIEP,GIET,GIEX,GIP,GIT,GIX,GO,GOP,",
   "GOT,GOX,GU,GUO,GUOP,GUOT,GUOX,GUP,GUR,GURX,GUT,GUX,HA,HAP,HAT,HAX,HE,HEP,HEX,HIE,HIEX,HIT,",
   "HLA,HLAP,HLAT,HLAX,HLE,HLEP,HLEX,HLI,HLIE,HLIEP,HLIEX,HLIP,HLIT,HLIX,HLO,HLOP,HLOX,HLU,HLUO,",
   "HLUOP,HLUOX,HLUP,HLUR,HLURX,HLUT,HLUX,HLY,HLYP,HLYR,HLYRX,HLYT,HLYX,HMA,HMAP,HMAT,HMAX,HMI,",
   "HMIE,HMIEP,HMIEX,HMIP,HMIT,HMIX,HMO,HMOP,HMOT,HMOX,HMU,HMUO,HMUOP,HMUOX,HMUP,HMUR,HMURX,HMUT,",
   "HMUX,HMY,HMYP,HMYR,HMYRX,HMYX,HNA,HNAP,HNAT,HNAX,HNE,HNEP,HNEX,HNI,HNIE,HNIEP,HNIET,HNIEX,",
   "HNIP,HNIT,HNIX,HNOP,HNOT,HNOX,HNUO,HNUOX,HNUT,HO,HOP,HOT,HOX,HUO,HUOP,HUOT,HUOX,HXA,HXAP,",
   "HXAT,HXAX,HXE,HXEP,HXEX,HXI,HXIE,HXIEP,HXIET,HXIEX,HXIP,HXIT,HXIX,HXO,HXOP,HXOT,HXOX,HXUO,",
   "HXUOP,HXUOT,HXUOX,I,IE,IEP,IET,IEX,IP,IT,ITERATION MARK,IX,JI,JIE,JIEP,JIET,JIEX,JIP,JIT,JIX,",
   "JJI,JJIE,JJIEP,JJIET,JJIEX,JJIP,JJIT,JJIX,JJO,JJOP,JJOT,JJOX,JJU,JJUO,JJUOP,JJUOX,JJUP,JJUR,",
   "JJURX,JJUT,JJUX,JJY,JJYP,JJYT,JJYX,JO,JOP,JOT,JOX,JU,JUO,JUOP,JUOT,JUOX,JUP,JUR,JURX,JUT,JUX,",
   "JY,JYP,JYR,JYRX,JYT,JYX,KA,KAP,KAT,KAX,KE,KEP,KET,KEX,KI,KIE,KIEP,KIEX,KIP,KIT,KIX,KO,KOP,",
   "KOT,KOX,KU,KUO,KUOP,KUOX,KUP,KUR,KURX,KUT,KUX,LA,LAP,LAT,LAX,LE,LEP,LEX,LI,LIE,LIEP,LIET,",
   "LIEX,LIP,LIT,LIX,LO,LOP,LOT,LOX,LU,LUO,LUOP,LUOT,LUOX,LUP,LUR,LURX,LUT,LUX,LY,LYP,LYR,LYRX,",
   "LYT,LYX,MA,MAP,MAT,MAX,ME,MEX,MGA,MGAP,MGAT,MGAX,MGE,MGEP,MGEX,MGIE,MGIEX,MGO,MGOP,MGOT,MGOX,",
   "MGU,MGUO,MGUOP,MGUOX,MGUP,MGUR,MGURX,MGUT,MGUX,MI,MIE,MIEP,MIEX,MIP,MIT,MIX,MO,MOP,MOT,MOX,",
   "MU,MUO,MUOP,MUOT,MUOX,MUP,MUR,MURX,MUT,MUX,MY,MYP,MYT,MYX,NA,NAP,NAX,NBA,NBAP,NBAT,NBAX,NBI,",
   "NBIE,NBIEP,NBIEX,NBIP,NBIT,NBIX,NBO,NBOP,NBOT,NBOX,NBU,NBUP,NBUR,NBURX,NBUT,NBUX,NBY,NBYP,",
   "NBYR,NBYRX,NBYT,NBYX,NDA,NDAP,NDAT,NDAX,NDE,NDEP,NDEX,NDI,NDIE,NDIEX,NDIP,NDIT,NDIX,NDO,NDOP,",
   "NDOT,NDOX,NDU,NDUP,NDUR,NDURX,NDUT,NDUX,NE,NEP,NEX,NGA,NGAP,NGAT,NGAX,NGE,NGEP,NGEX,NGIE,",
   "NGIEP,NGIEX,NGO,NGOP,NGOT,NGOX,NGUO,NGUOT,NGUOX,NI,NIE,NIEP,NIEX,NIP,NIT,NIX,NJI,NJIE,NJIEP,",
   "NJIET,NJIEX,NJIP,NJIT,NJIX,NJO,NJOP,NJOT,NJOX,NJU,NJUO,NJUOX,NJUP,NJUR,NJURX,NJUX,NJY,NJYP,",
   "NJYR,NJYRX,NJYT,NJYX,NO,NOP,NOT,NOX,NRA,NRAP,NRAT,NRAX,NRE,NREP,NRET,NREX,NRO,NROP,NROX,NRU,",
   "NRUP,NRUR,NRURX,NRUT,NRUX,NRY,NRYP,NRYR,NRYRX,NRYT,NRYX,NU,NUO,NUOP,NUOX,NUP,NUR,NURX,NUT,",
   "NUX,NYI,NYIE,NYIEP,NYIET,NYIEX,NYIP,NYIT,NYIX,NYO,NYOP,NYOT,NYOX,NYU,NYUO,NYUOP,NYUOX,NYUP,",
   "NYUT,NYUX,NZA,NZAP,NZAT,NZAX,NZE,NZEX,NZI,NZIE,NZIEP,NZIEX,NZIP,NZIT,NZIX,NZOP,NZOX,NZU,NZUO,",
   "NZUOX,NZUP,NZUR,NZURX,NZUX,NZY,NZYP,NZYR,NZYRX,NZYT,NZYX,O,OP,OT,OX,PA,PAP,PAT,PAX,PI,PIE,",
   "PIEP,PIEX,PIP,PIT,PIX,PO,POP,POT,POX,PU,PUO,PUOP,PUOX,PUP,PUR,PURX,PUT,PUX,PY,PYP,PYR,PYRX,",
   "PYT,PYX,QI,QIE,QIEP,QIET,QIEX,QIP,QIT,QIX,QO,QOP,QOT,QOX,QU,QUO,QUOP,QUOT,QUOX,QUP,QUR,QURX,",
   "QUT,QUX,QY,QYP,QYR,QYRX,QYT,QYX,RA,RAP,RAT,RAX,RE,REP,REX,RO,ROP,ROT,ROX,RRA,RRAX,RRE,RREP,",
   "RRET,RREX,RRO,RROP,RROT,RROX,RRU,RRUO,RRUOX,RRUP,RRUR,RRURX,RRUT,RRUX,RRY,RRYP,RRYR,RRYRX,",
   "RRYT,RRYX,RU,RUO,RUOP,RUOX,RUP,RUR,RURX,RUT,RUX,RY,RYP,RYR,RYRX,RYT,RYX,SA,SAP,SAT,SAX,SE,",
   "SEP,SEX,SHA,SHAP,SHAT,SHAX,SHE,SHEP,SHET,SHEX,SHO,SHOP,SHOT,SHOX,SHU,SHUO,SHUOP,SHUOX,SHUP,",
   "SHUR,SHURX,SHUT,SHUX,SHY,SHYP,SHYR,SHYRX,SHYT,SHYX,SI,SIE,SIEP,SIEX,SIP,SIT,SIX,SO,SOP,SOT,",
   "SOX,SSA,SSAP,SSAT,SSAX,SSE,SSEP,SSEX,SSI,SSIE,SSIEP,SSIEX,SSIP,SSIT,SSIX,SSO,SSOP,SSOT,SSOX,",
   "SSU,SSUP,SSUT,SSUX,SSY,SSYP,SSYR,SSYRX,SSYT,SSYX,SU,SUO,SUOP,SUOX,SUP,SUR,SURX,SUT,SUX,SY,",
   "SYP,SYR,SYRX,SYT,SYX,TA,TAP,TAT,TAX,TE,TEP,TEX,TI,TIE,TIEP,TIEX,TIP,TIT,TIX,TO,TOP,TOT,TOX,",
   "TU,TUO,TUOP,TUOT,TUOX,TUP,TUR,TURX,TUT,TUX,UO,UOP,UOX,VA,VAP,VAT,VAX,VEP,VEX,VI,VIE,VIEP,",
   "VIET,VIEX,VIP,VIT,VIX,VO,VOP,VOT,VOX,VU,VUP,VUR,VURX,VUT,VUX,VY,VYP,VYR,VYRX,VYT,VYX,WA,WAP,",
   "WAT,WAX,WE,WEP,WEX,WO,WOP,WOX,WU,WUO,WUOP,WUOX,XI,XIE,XIEP,XIET,XIEX,XIP,XIT,XIX,XO,XOP,XOT,",
   "XOX,XUO,XUOX,XY,XYP,XYR,XYRX,XYT,XYX,YI,YIE,YIEP,YIET,YIEX,YIP,YIT,YIX,YO,YOP,YOT,YOX,YU,YUO,",
   "YUOP,YUOT,YUOX,YUP,YUR,YURX,YUT,YUX,YY,YYP,YYR,YYRX,YYT,YYX,ZA,ZAP,ZAT,ZAX,ZE,ZEP,ZEX,ZHA,",
   "ZHAP,ZHAT,ZHAX,ZHE,ZHEP,ZHET,ZHEX,ZHO,ZHOP,ZHOT,ZHOX,ZHU,ZHUO,ZHUOP,ZHUOX,ZHUP,ZHUR,ZHURX,",
   "ZHUT,ZHUX,ZHY,ZHYP,ZHYR,ZHYRX,ZHYT,ZHYX,ZI,ZIE,ZIEP,ZIEX,ZIP,ZIT,ZIX,ZO,ZOP,ZOT,ZOX,ZU,ZUO,",
   "ZUOP,ZUOX,ZUP,ZUR,ZURX,ZUT,ZUX,ZY,ZYP,ZYR,ZYRX,ZYT,ZYX,ZZA,ZZAP,ZZAT,ZZAX,ZZE,ZZEP,ZZEX,ZZI,",
   "ZZIE,ZZIEP,ZZIET,ZZIEX,ZZIP,ZZIT,ZZIX,ZZO,ZZOP,ZZOX,ZZU,ZZUP,ZZUR,ZZURX,ZZUX,ZZY,ZZYP,ZZYR,",
   "ZZYRX,ZZYT,ZZYX)),YIN YANG,YO-YO,Z NOTATION (BAG MEMBERSHIP,DOMAIN ANTIRESTRICTION,LEFT (",
   "BINDING BRACKET,IMAGE BRACKET),RANGE ANTIRESTRICTION,RELATIONAL COMPOSITION,RIGHT (BINDING ",
   "BRACKET,IMAGE BRACKET),SCHEMA (COMPOSITION,PIPING,PROJECTION),SPOT,TYPE COLON),ZANABAZAR ",
   "SQUARE (CLOSING (DOUBLE-LINED HEAD MARK,HEAD MARK),CLUSTER-FINAL LETTER (LA,RA,VA,YA),",
   "CLUSTER-INITIAL LETTER RA,FINAL CONSONANT MARK,INITIAL (DOUBLE-LINED HEAD MARK,HEAD MARK),",
   "LETTER (-A,A,BA,BHA,CA,CHA,DA,DDA,DDHA,DHA,DZA,DZHA,GA,GHA,HA,JA,KA,KHA,KSSA,LA,MA,NA,NGA,",
   "NNA,NYA,PA,PHA,RA,SA,SHA,SSA,TA,THA,TSA,TSHA,TTA,TTHA,VA,YA,ZA,ZHA),MARK (DOUBLE SHAD,LONG ",
   "TSHEG,SHAD,TSHEG),SIGN (ANUSVARA,CANDRA WITH ORNAMENT,CANDRABINDU(, WITH ORNAMENT),VIRAMA,",
   "VISARGA),SUBJOINER,VOWEL (LENGTH MARK,SIGN (AI,AU,E,I,O,OE,REVERSED I,U,UE))),ZEBRA FACE,",
   "ZERO WIDTH (JOINER,NO-BREAK SPACE,NON-JOINER,SPACE),ZEUS,ZIPPER-MOUTH FACE,ZNAMENNY (",
   "COMBINING (ATTACHING VERTICAL OMET,LOWER TONAL RANGE INDICATOR,MARK (BORZAYA,CHASHKA(, ",
   "POLNAYA),CURVED OMET,DEMESTVENNY ZADERZHKA,DVOETOCHIE,GORAZDO (NIZKO (ON (LEFT,RIGHT),S ",
   "KRYZHEM ON (LEFT,RIGHT)),VYSOKO),KACHKA,KRYZH(, ON LEFT),KUPNAYA,LOMKA,MALO POVYSHE (ON (",
   "LEFT,RIGHT),S (KHOKHLOM ON (LEFT,RIGHT),KRYZHEM),STRANNO),NIZKO (ON (LEFT,RIGHT),S KRYZHEM ",
   "ON (LEFT,RIGHT)),OBLACHKO,ON,OTSECHKA,PODCHASHIE(, WITH VERTICAL STROKE),PODVERTKA,POVYSHE (",
   "ON (LEFT,RIGHT),S (KHOKHLOM ON (LEFT,RIGHT),KRYZHEM),STRANNO),RAVNO,RAZSEKA,SKOBA,SOROCHYA ",
   "NOZHKA,SREDNE ON (LEFT,RIGHT),STRANNO MALO POVYSHE,TIKHAYA,TOCHKA,TSATA (ON (LEFT,RIGHT),S ",
   "KRYZHEM),UDARKA,VYSOKO (ON (LEFT,RIGHT),S (KHOKHLOM ON (LEFT,RIGHT),KRYZHEM)),ZADERZHKA,ZELO,",
   "ZEVOK),TONAL RANGE MARK (MRACHNO,SVETLO,TRESVETLO)),NEUME (CHASHKA,CHELYUSTKA,DEMESTVENNY ",
   "KLYUCH,DERBITSA,DOUBLE ZAPYATAYA,DUDA,DVA V CHELNU,FITA,GOLUBCHIK (BORZY,MRACHNY,SVETLY,",
   "TIKHY,TRESVETLY),KHAMILO,KLYUCH,KOBYLA,KRYUK(, TIKHY),KRYZH,KUFISMA,MECHIK(, ",
   "KLYUCHENEPOSTOYANNY, KLYUCHEPOVODNY, KLYUCHEVOY, POVODNY),NEMKA,OBLAKO,OSOKA(, KLYUCHEVAYA (",
   "NEPOSTOYANNAYA,SVETLAYA), KRYUKOVAYA SVETLAYA, SVETLAYA, TRESVETLAYA),PALKA,PARAKLIT,PAUK,",
   "PEREVODKA(, NEPOSTOYANNAYA),PODCHASHIE,POLKULIZMY,REVERSED CHELYUSTKA,ROG,SKAMEYTSA (",
   "DVOECHELNAYA (KLYUCHEVAYA,NEPOSTOYANNAYA,PROSTAYA,SVETLAYA),KLYUCHENEPOSTOYANNAYA,",
   "KLYUCHEVAYA (SVETLAYA,TIKHAYA),MRACHNAYA,SVETLAYA,TIKHAYA,TRESVETLAYA),SLOZHITIE(, S (",
   "KRYZHEM,ZAPYATOY), ZAKRYTOE),STATYA(, NEPOSTOYANNAYA, S (DVUMYA ZAPYATYMI,KRYZHEM(, I ",
   "ZAPYATOY),ROGOM,ZAPYATOY(, I (KRYZHEM,PODCHASHIEM))), ZAKRYTAYA(, S ZAPYATOY)),STOPITSA(, S ",
   "OCHKOM, WITH SOROCHYA NOZHKA),STRELA (DVOECHELNAYA(, KLYUCHEVAYA),DVOECHELNOKRYZHEVAYA,",
   "DVOECHELNOPOVODNAYA(, KLYUCHEVAYA),GROMNAYA(, WITH SINGLE ZAPYATAYA),GROMOKRYZHEVAYA(, ",
   "POVODNAYA),GROMOPOVODNAYA(, WITH (DOUBLE ZAPYATAYA,SINGLE ZAPYATAYA)),KLYUCHENEPOSTOYANNAYA,",
   "KLYUCHEPOVODNAYA,KRYUKOVAYA(, GROMNAYA(, WITH SINGLE ZAPYATAYA), GROMOKRYZHEVAYA(, POVODNAYA)",
   ", GROMOPOVODNAYA(, WITH (DOUBLE ZAPYATAYA,SINGLE ZAPYATAYA)), POVODNAYA, TRYASKA),KRYZHEVAYA,",
   "MRACHNOTIKHAYA,NEPOSTOYANNAYA,POLUPOVODNAYA,POVODNAYA,PROSTAYA,TIKHAYA PUTNAYA,",
   "TRYASOGLASNAYA,TRYASOPOVODNAYA,TRYASOSTRELNAYA),VRAKHIYA (KLYUCHEVAYA (MRACHNAYA,PROSTAYA,",
   "SVETLAYA,TRESVETLAYA),MRACHNAYA,PROSTAYA,SVETLAYA,TRESVETLAYA),ZANOZHEK,ZAPYATAYA,ZMEYTSA),",
   "PRIZNAK MODIFIER (DIRECTION FLIP,KRYZH,LEVEL-2,LEVEL-3,ROG)),ZOMBIE,ZWJ,ZWNBSP,ZWNJ,ZWSP"]

end ExportBundle.Text.CharacterName
