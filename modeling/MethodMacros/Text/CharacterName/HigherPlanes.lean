/-!
# Names in the higher planes

The names of the characters from 10000 on, packed as a name table, apart from those that follow a rule.
-/

namespace MethodMacros.Text.CharacterName

/-- The packed names of the higher planes. -/
def higherPlanes : String :=
"@10000;0 LINEAR B SYLLABLE B008 A;3 B038 E;3 B028 I;3 B061 O;3 B010 U;3 B001 DA;3 B045 DE;
3 B007 DI;3 B014 DO;3 B051 DU;3 B057 JA;3 B046 JE;@1000D;3 B036 JO;3 B065 JU;3 B077 KA;3 B044 KE;
3 B067 KI;3 B070 KO;3 B081 KU;3 B080 MA;3 B013 ME;3 B073 MI;3 B015 MO;3 B023 MU;3 B006 NA;
3 B024 NE;3 B030 NI;3 B052 NO;3 B055 NU;3 B003 PA;3 B072 PE;3 B039 PI;3 B011 PO;3 B050 PU;
3 B016 QA;3 B078 QE;3 B021 QI;3 B032 QO;@10028;3 B060 RA;3 B027 RE;3 B053 RI;3 B002 RO;3 B026 RU;
3 B031 SA;3 B009 SE;3 B041 SI;3 B012 SO;3 B058 SU;3 B059 TA;3 B004 TE;3 B037 TI;3 B005 TO;
3 B069 TU;3 B054 WA;3 B075 WE;3 B040 WI;3 B042 WO;@1003C;3 B017 ZA;3 B074 ZE;@1003F;3 B020 ZO;
3 B025 A2;3 B043 A3;3 B085 AU;3 B071 DWE;3 B090 DWO;3 B048 NWA;3 B029 PU2;3 B062 PTE;3 B076 RA2;
3 B033 RA3;3 B068 RO2;3 B066 TA2;3 B087 TWE;3 B091 TWO;@10050;2 SYMBOL B018;3 B019;3 B022;3 B034;
3 B047;3 B049;3 B056;3 B063;3 B064;3 B079;3 B082;3 B083;3 B086;3 B089;@10080;2 IDEOGRAM B100 MAN;
3 B102 WOMAN;3 B104 DEER;3 B105 EQUID;3 B105F MARE;3 B105M STALLION;3 B106F EWE;3 B106M RAM;
3 B107F SHE-GOAT;3 B107M HE-GOAT;3 B108F SOW;3 B108M BOAR;3 B109F COW;3 B109M BULL;3 B120 WHEAT;
3 B121 BARLEY;3 B122 OLIVE;3 B123 SPICE;3 B125 CYPERUS;2 MONOGRAM B127 KAPO;3 B128 KANAKO;
2 IDEOGRAM B130 OIL;3 B131 WINE;3 B132;2 MONOGRAM B133 AREPA;3 B135 MERI;2 IDEOGRAM B140 BRONZE;
3 B141 GOLD;3 B142;3 B145 WOOL;3 B146;3 B150;3 B151 HORN;3 B152;3 B153;3 B154;
2 MONOGRAM B156 TURO2;2 IDEOGRAM B157;3 B158;3 B159 CLOTH;3 B160;3 B161;3 B162 GARMENT;
3 B163 ARMOUR;3 B164;3 B165;3 B166;3 B167;3 B168;3 B169;3 B170;3 B171;3 B172;3 B173 MONTH;3 B174;
3 B176 TREE;3 B177;3 B178;3 B179;3 B180;3 B181;3 B182;3 B183;3 B184;3 B185;3 B189;3 B190;
3 B191 HELMET;3 B220 FOOTSTOOL;3 B225 BATHTUB;3 B230 SPEAR;3 B231 ARROW;3 B232;3 B233 SWORD;
3 B234;3 B236;3 B240 WHEELED CHARIOT;3 B241 CHARIOT;3 B242 CHARIOT FRAME;3 B243 WHEEL;3 B245;
3 B246;2 MONOGRAM B247 DIPTE;2 IDEOGRAM B248;3 B249;3 B251;3 B252;3 B253;3 B254 DART;3 B255;
3 B256;3 B257;3 B258;3 B259;3 VESSEL B155;4 B200;4 B201;4 B202;4 B203;4 B204;4 B205;4 B206;4 B207;
4 B208;4 B209;4 B210;4 B211;4 B212;4 B213;4 B214;4 B215;4 B216;4 B217;4 B218;4 B219;4 B221;4 B222;
4 B226;4 B227;4 B228;4 B229;4 B250;4 B305;@10100;0 AEGEAN WORD SEPARATOR LINE;3 DOT;1 CHECK MARK;
@10107;1 NUMBER ONE;2 TWO;2 THREE;2 FOUR;2 FIVE;2 SIX;2 SEVEN;2 EIGHT;2 NINE;2 TEN;2 TWENTY;
2 THIRTY;2 FORTY;2 FIFTY;2 SIXTY;2 SEVENTY;2 EIGHTY;2 NINETY;2 ONE HUNDRED;2 TWO HUNDRED;
2 THREE HUNDRED;2 FOUR HUNDRED;2 FIVE HUNDRED;2 SIX HUNDRED;2 SEVEN HUNDRED;2 EIGHT HUNDRED;
2 NINE HUNDRED;2 ONE THOUSAND;2 TWO THOUSAND;2 THREE THOUSAND;2 FOUR THOUSAND;2 FIVE THOUSAND;
2 SIX THOUSAND;2 SEVEN THOUSAND;2 EIGHT THOUSAND;2 NINE THOUSAND;2 TEN THOUSAND;2 TWENTY THOUSAND;
2 THIRTY THOUSAND;2 FORTY THOUSAND;2 FIFTY THOUSAND;2 SIXTY THOUSAND;2 SEVENTY THOUSAND;
2 EIGHTY THOUSAND;2 NINETY THOUSAND;@10137;1 WEIGHT BASE UNIT;2 FIRST SUBUNIT;2 SECOND SUBUNIT;
2 THIRD SUBUNIT;2 FOURTH SUBUNIT;1 DRY MEASURE FIRST SUBUNIT;1 LIQUID MEASURE FIRST SUBUNIT;
1 MEASURE SECOND SUBUNIT;2 THIRD SUBUNIT;0 GREEK ACROPHONIC ATTIC ONE QUARTER;4 HALF;4 DRACHMA;
3 FIVE;3 FIFTY;3 FIVE HUNDRED;4 THOUSAND;3 FIFTY THOUSAND;3 FIVE TALENTS;3 TEN TALENTS;
3 FIFTY TALENTS;3 ONE HUNDRED TALENTS;3 FIVE HUNDRED TALENTS;3 ONE THOUSAND TALENTS;
3 FIVE THOUSAND TALENTS;4 STATERS;3 TEN STATERS;3 FIFTY STATERS;3 ONE HUNDRED STATERS;
3 FIVE HUNDRED STATERS;3 ONE THOUSAND STATERS;3 TEN THOUSAND STATERS;3 FIFTY THOUSAND STATERS;
3 TEN MNAS;2 HERAEUM ONE PLETHRON;2 THESPIAN ONE;2 HERMIONIAN ONE;2 EPIDAUREAN TWO;2 THESPIAN TWO;
2 CYRENAIC TWO DRACHMAS;2 EPIDAUREAN TWO DRACHMAS;2 TROEZENIAN FIVE;3 TEN;4 ALTERNATE FORM;
2 HERMIONIAN TEN;2 MESSENIAN TEN;2 THESPIAN TEN;3 THIRTY;2 TROEZENIAN FIFTY;4 ALTERNATE FORM;
2 HERMIONIAN FIFTY;2 THESPIAN FIFTY;3 ONE HUNDRED;3 THREE HUNDRED;2 EPIDAUREAN FIVE HUNDRED;
2 TROEZENIAN FIVE HUNDRED;2 THESPIAN FIVE HUNDRED;2 CARYSTIAN FIVE HUNDRED;2 NAXIAN FIVE HUNDRED;
2 THESPIAN ONE THOUSAND;3 FIVE THOUSAND;2 DELPHIC FIVE MNAS;2 STRATIAN FIFTY MNAS;1 ONE HALF SIGN;
4 ALTERNATE FORM;1 TWO THIRDS SIGN;1 THREE QUARTERS SIGN;1 YEAR SIGN;1 TALENT SIGN;1 DRACHMA SIGN;
1 OBOL SIGN;1 TWO OBOLS SIGN;1 THREE OBOLS SIGN;1 FOUR OBOLS SIGN;1 FIVE OBOLS SIGN;
1 METRETES SIGN;1 KYATHOS BASE SIGN;1 LITRA SIGN;1 OUNKIA SIGN;1 XESTES SIGN;1 ARTABE SIGN;
1 AROURA SIGN;1 GRAMMA SIGN;1 TRYBLION BASE SIGN;1 ZERO SIGN;1 ONE QUARTER SIGN;1 SINUSOID SIGN;
1 INDICTION SIGN;0 NOMISMA SIGN;@10190;0 ROMAN SEXTANS SIGN;1 UNCIA SIGN;1 SEMUNCIA SIGN;
1 SEXTULA SIGN;1 DIMIDIA SEXTULA SIGN;1 SILIQUA SIGN;1 DENARIUS SIGN;1 QUINARIUS SIGN;
1 SESTERTIUS SIGN;1 DUPONDIUS SIGN;1 AS SIGN;1 CENTURIAL SIGN;0 ASCIA SYMBOL;@101A0;
0 GREEK SYMBOL TAU RHO;@101D0;0 PHAISTOS DISC SIGN PEDESTRIAN;3 PLUMED HEAD;3 TATTOOED HEAD;
3 CAPTIVE;3 CHILD;3 WOMAN;3 HELMET;3 GAUNTLET;3 TIARA;3 ARROW;3 BOW;3 SHIELD;3 CLUB;3 MANACLES;
3 MATTOCK;3 SAW;3 LID;3 BOOMERANG;3 CARPENTRY PLANE;3 DOLIUM;3 COMB;3 SLING;3 COLUMN;3 BEEHIVE;
3 SHIP;3 HORN;3 HIDE;3 BULLS LEG;3 CAT;3 RAM;3 EAGLE;3 DOVE;3 TUNNY;3 BEE;3 PLANE TREE;3 VINE;
3 PAPYRUS;3 ROSETTE;3 LILY;3 OX BACK;3 FLUTE;3 GRATER;3 STRAINER;3 SMALL AXE;3 WAVY BAND;
3 COMBINING OBLIQUE STROKE;@10280;0 LYCIAN LETTER A;2 E;2 B;2 BH;2 G;2 D;2 I;2 W;2 Z;2 TH;2 J;2 K;
2 Q;2 L;2 M;2 N;2 MM;2 NN;2 U;2 P;2 KK;2 R;2 S;2 T;2 TT;2 AN;2 EN;2 H;2 X;@102A0;
0 CARIAN LETTER A;2 P2;2 D;2 L;2 UUU;2 R;2 LD;2 A2;2 Q;2 B;2 M;2 O;2 D2;2 T;2 SH;2 SH2;2 S;2 C-18;
2 U;2 NN;2 X;2 N;2 TT2;2 P;2 SS;2 I;2 E;2 UUUU;2 K;2 K2;2 ND;2 UU;2 G;2 G2;2 ST;2 ST2;2 NG;2 II;
2 C-39;2 TT;2 UUU2;2 RR;2 MB;2 MB2;2 MB3;2 MB4;2 LD2;2 E2;2 UUU3;@102E0;
0 COPTIC EPACT THOUSANDS MARK;2 DIGIT ONE;3 TWO;3 THREE;3 FOUR;3 FIVE;3 SIX;3 SEVEN;3 EIGHT;
3 NINE;2 NUMBER TEN;3 TWENTY;3 THIRTY;3 FORTY;3 FIFTY;3 SIXTY;3 SEVENTY;3 EIGHTY;3 NINETY;
3 ONE HUNDRED;3 TWO HUNDRED;3 THREE HUNDRED;3 FOUR HUNDRED;3 FIVE HUNDRED;3 SIX HUNDRED;
3 SEVEN HUNDRED;3 EIGHT HUNDRED;3 NINE HUNDRED;@10300;0 OLD ITALIC LETTER A;3 BE;3 KE;3 DE;3 E;
3 VE;3 ZE;3 HE;3 THE;3 I;3 KA;3 EL;3 EM;3 EN;3 ESH;3 O;3 PE;3 SHE;3 KU;3 ER;3 ES;3 TE;3 U;3 EKS;
3 PHE;3 KHE;3 EF;3 ERS;3 CHE;3 II;3 UU;3 ESS;2 NUMERAL ONE;3 FIVE;3 TEN;3 FIFTY;@1032D;
2 LETTER YE;3 NORTHERN TSE;3 SOUTHERN TSE;0 GOTHIC LETTER AHSA;2 BAIRKAN;2 GIBA;2 DAGS;2 AIHVUS;
2 QAIRTHRA;2 IUJA;2 HAGL;2 THIUTH;2 EIS;2 KUSMA;2 LAGUS;2 MANNA;2 NAUTHS;2 JER;2 URUS;2 PAIRTHRA;
2 NINETY;2 RAIDA;2 SAUIL;2 TEIWS;2 WINJA;2 FAIHU;2 IGGWS;2 HWAIR;2 OTHAL;2 NINE HUNDRED;@10350;
0 OLD PERMIC LETTER AN;3 BUR;3 GAI;3 DOI;3 E;3 ZHOI;3 DZHOI;3 ZATA;3 DZITA;3 I;3 KOKE;3 LEI;
3 MENOE;3 NENOE;3 VOOI;3 PEEI;3 REI;3 SII;3 TAI;3 U;3 CHERY;3 SHOOI;3 SHCHOOI;3 YRY;3 YERU;3 O;
3 OO;3 EF;3 HA;3 TSIU;3 VER;3 YER;3 YERI;3 YAT;3 IE;3 YU;3 YA;3 IA;
0 COMBINING OLD PERMIC LETTER AN;4 DOI;4 ZATA;4 NENOE;4 SII;@10380;0 UGARITIC LETTER ALPA;2 BETA;
2 GAMLA;2 KHA;2 DELTA;2 HO;2 WO;2 ZETA;2 HOTA;2 TET;2 YOD;2 KAF;2 SHIN;2 LAMDA;2 MEM;2 DHAL;2 NUN;
2 ZU;2 SAMKA;2 AIN;2 PU;2 SADE;2 QOPA;2 RASHA;2 THANNA;2 GHAIN;2 TO;2 I;2 U;2 SSU;@1039F;
1 WORD DIVIDER;0 OLD PERSIAN SIGN A;3 I;3 U;3 KA;3 KU;3 GA;3 GU;3 XA;3 CA;3 JA;3 JI;3 TA;3 TU;
3 DA;3 DI;3 DU;3 THA;3 PA;3 BA;3 FA;3 NA;3 NU;3 MA;3 MI;3 MU;3 YA;3 VA;3 VI;3 RA;3 RU;3 LA;3 SA;
3 ZA;3 SHA;3 SSA;3 HA;@103C8;3 AURAMAZDAA;3 AURAMAZDAA-2;3 AURAMAZDAAHA;3 XSHAAYATHIYA;
3 DAHYAAUSH;3 DAHYAAUSH-2;3 BAGA;3 BUUMISH;2 WORD DIVIDER;2 NUMBER ONE;3 TWO;3 TEN;3 TWENTY;
3 HUNDRED;@10400;0 DESERET CAPITAL LETTER LONG I;4 E;4 A;4 AH;4 O;4 OO;3 SHORT I;4 E;4 A;4 AH;4 O;
4 OO;3 AY;3 OW;3 WU;3 YEE;3 H;3 PEE;3 BEE;3 TEE;3 DEE;3 CHEE;3 JEE;3 KAY;3 GAY;3 EF;3 VEE;3 ETH;
3 THEE;3 ES;3 ZEE;3 ESH;3 ZHEE;3 ER;3 EL;3 EM;3 EN;3 ENG;3 OI;3 EW;1 SMALL LETTER LONG I;4 E;4 A;
4 AH;4 O;4 OO;3 SHORT I;4 E;4 A;4 AH;4 O;4 OO;3 AY;3 OW;3 WU;3 YEE;3 H;3 PEE;3 BEE;3 TEE;3 DEE;
3 CHEE;3 JEE;3 KAY;3 GAY;3 EF;3 VEE;3 ETH;3 THEE;3 ES;3 ZEE;3 ESH;3 ZHEE;3 ER;3 EL;3 EM;3 EN;
3 ENG;3 OI;3 EW;0 SHAVIAN LETTER PEEP;2 TOT;2 KICK;2 FEE;2 THIGH;2 SO;2 SURE;2 CHURCH;2 YEA;
2 HUNG;2 BIB;2 DEAD;2 GAG;2 VOW;2 THEY;2 ZOO;2 MEASURE;2 JUDGE;2 WOE;2 HA-HA;2 LOLL;2 MIME;2 IF;
2 EGG;2 ASH;2 ADO;2 ON;2 WOOL;2 OUT;2 AH;2 ROAR;2 NUN;2 EAT;2 AGE;2 ICE;2 UP;2 OAK;2 OOZE;2 OIL;
2 AWE;2 ARE;2 OR;2 AIR;2 ERR;2 ARRAY;2 EAR;2 IAN;2 YEW;0 OSMANYA LETTER ALEF;2 BA;2 TA;2 JA;2 XA;
2 KHA;2 DEEL;2 RA;2 SA;2 SHIIN;2 DHA;2 CAYN;2 GA;2 FA;2 QAAF;2 KAAF;2 LAAN;2 MIIN;2 NUUN;2 WAW;
2 HA;2 YA;2 A;2 E;2 I;2 O;2 U;2 AA;2 EE;2 OO;@104A0;1 DIGIT ZERO;2 ONE;2 TWO;2 THREE;2 FOUR;
2 FIVE;2 SIX;2 SEVEN;2 EIGHT;2 NINE;@104B0;0 OSAGE CAPITAL LETTER A;3 AI;3 AIN;3 AH;3 BRA;3 CHA;
3 EHCHA;3 E;3 EIN;3 HA;3 HYA;3 I;3 KA;3 EHKA;3 KYA;3 LA;3 MA;3 NA;3 O;3 OIN;3 PA;3 EHPA;3 SA;
3 SHA;3 TA;3 EHTA;3 TSA;3 EHTSA;3 TSHA;3 DHA;3 U;3 WA;3 KHA;3 GHA;3 ZA;3 ZHA;@104D8;
1 SMALL LETTER A;3 AI;3 AIN;3 AH;3 BRA;3 CHA;3 EHCHA;3 E;3 EIN;3 HA;3 HYA;3 I;3 KA;3 EHKA;3 KYA;
3 LA;3 MA;3 NA;3 O;3 OIN;3 PA;3 EHPA;3 SA;3 SHA;3 TA;3 EHTA;3 TSA;3 EHTSA;3 TSHA;3 DHA;3 U;3 WA;
3 KHA;3 GHA;3 ZA;3 ZHA;@10500;0 ELBASAN LETTER A;2 BE;2 CE;2 CHE;2 DE;2 NDE;2 DHE;2 EI;2 E;2 FE;
2 GE;2 GJE;2 HE;2 I;2 JE;2 KE;2 LE;2 LLE;2 ME;2 NE;2 NA;2 NJE;2 O;2 PE;2 QE;2 RE;2 RRE;2 SE;2 SHE;
2 TE;2 THE;2 U;2 VE;2 XE;2 Y;2 ZE;2 ZHE;2 GHE;2 GHAMMA;2 KHE;@10530;
0 CAUCASIAN ALBANIAN LETTER ALT;3 BET;3 GIM;3 DAT;3 EB;3 ZARL;3 EYN;3 ZHIL;3 TAS;3 CHA;3 YOWD;
3 ZHA;3 IRB;3 SHA;3 LAN;3 INYA;3 XEYN;3 DYAN;3 CAR;3 JHOX;3 KAR;3 LYIT;3 HEYT;3 QAY;3 AOR;3 CHOY;
3 CHI;3 CYAY;3 MAQ;3 QAR;3 NOWC;3 DZYAY;3 SHAK;3 JAYN;3 ON;3 TYAY;3 FAM;3 DZAY;3 CHAT;3 PEN;
3 GHEYS;3 RAT;3 SEYK;3 VEYZ;3 TIWR;3 SHOY;3 IWN;3 CYAW;3 CAYN;3 YAYD;3 PIWR;3 KIW;@1056F;
2 CITATION MARK;0 VITHKUQI CAPITAL LETTER A;3 BBE;3 BE;3 CE;3 CHE;3 DE;3 DHE;3 EI;3 E;3 FE;3 GA;
@1057C;3 HA;3 HHA;3 I;3 IJE;3 JE;3 KA;3 LA;3 LLA;3 ME;3 NE;3 NJE;3 O;3 PE;3 QA;3 RE;@1058C;3 SE;
3 SHE;3 TE;3 THE;3 U;3 VE;3 XE;@10594;3 Y;3 ZE;@10597;1 SMALL LETTER A;3 BBE;3 BE;3 CE;3 CHE;3 DE;
3 DHE;3 EI;3 E;3 FE;3 GA;@105A3;3 HA;3 HHA;3 I;3 IJE;3 JE;3 KA;3 LA;3 LLA;3 ME;3 NE;3 NJE;3 O;
3 PE;3 QA;3 RE;@105B3;3 SE;3 SHE;3 TE;3 THE;3 U;3 VE;3 XE;@105BB;3 Y;3 ZE;@10600;
0 LINEAR A SIGN AB001;3 AB002;3 AB003;3 AB004;3 AB005;3 AB006;3 AB007;3 AB008;3 AB009;3 AB010;
3 AB011;3 AB013;3 AB016;3 AB017;3 AB020;3 AB021;3 AB021F;3 AB021M;3 AB022;3 AB022F;3 AB022M;
3 AB023;3 AB023M;3 AB024;3 AB026;3 AB027;3 AB028;3 A028B;3 AB029;3 AB030;3 AB031;3 AB034;3 AB037;
3 AB038;3 AB039;3 AB040;3 AB041;3 AB044;3 AB045;3 AB046;3 AB047;3 AB048;3 AB049;3 AB050;3 AB051;
3 AB053;3 AB054;3 AB055;3 AB056;3 AB057;3 AB058;3 AB059;3 AB060;3 AB061;3 AB065;3 AB066;3 AB067;
3 AB069;3 AB070;3 AB073;3 AB074;3 AB076;3 AB077;3 AB078;3 AB079;3 AB080;3 AB081;3 AB082;3 AB085;
3 AB086;3 AB087;3 A100-102;3 AB118;3 AB120;3 A120B;3 AB122;3 AB123;3 AB131A;3 AB131B;3 A131C;
3 AB164;3 AB171;3 AB180;3 AB188;3 AB191;3 A301;3 A302;3 A303;3 A304;3 A305;3 A306;3 A307;3 A308;
3 A309A;3 A309B;3 A309C;3 A310;3 A311;3 A312;3 A313A;3 A313B;3 A313C;3 A314;3 A315;3 A316;3 A317;
3 A318;3 A319;3 A320;3 A321;3 A322;3 A323;3 A324;3 A325;3 A326;3 A327;3 A328;3 A329;3 A330;3 A331;
3 A332;3 A333;3 A334;3 A335;3 A336;3 A337;3 A338;3 A339;3 A340;3 A341;3 A342;3 A343;3 A344;3 A345;
3 A346;3 A347;3 A348;3 A349;3 A350;3 A351;3 A352;3 A353;3 A354;3 A355;3 A356;3 A357;3 A358;3 A359;
3 A360;3 A361;3 A362;3 A363;3 A364;3 A365;3 A366;3 A367;3 A368;3 A369;3 A370;3 A371;3 A400-VAS;
3 A401-VAS;3 A402-VAS;3 A403-VAS;3 A404-VAS;3 A405-VAS;3 A406-VAS;3 A407-VAS;3 A408-VAS;
3 A409-VAS;3 A410-VAS;3 A411-VAS;3 A412-VAS;3 A413-VAS;3 A414-VAS;3 A415-VAS;3 A416-VAS;
3 A417-VAS;3 A418-VAS;3 A501;3 A502;3 A503;3 A504;3 A505;3 A506;3 A508;3 A509;3 A510;3 A511;
3 A512;3 A513;3 A515;3 A516;3 A520;3 A521;3 A523;3 A524;3 A525;3 A526;3 A527;3 A528;3 A529;3 A530;
3 A531;3 A532;3 A534;3 A535;3 A536;3 A537;3 A538;3 A539;3 A540;3 A541;3 A542;3 A545;3 A547;3 A548;
3 A549;3 A550;3 A551;3 A552;3 A553;3 A554;3 A555;3 A556;3 A557;3 A559;3 A563;3 A564;3 A565;3 A566;
3 A568;3 A569;3 A570;3 A571;3 A572;3 A573;3 A574;3 A575;3 A576;3 A577;3 A578;3 A579;3 A580;3 A581;
3 A582;3 A583;3 A584;3 A585;3 A586;3 A587;3 A588;3 A589;3 A591;3 A592;3 A594;3 A595;3 A596;3 A598;
3 A600;3 A601;3 A602;3 A603;3 A604;3 A606;3 A608;3 A609;3 A610;3 A611;3 A612;3 A613;3 A614;3 A615;
3 A616;3 A617;3 A618;3 A619;3 A620;3 A621;3 A622;3 A623;3 A624;3 A626;3 A627;3 A628;3 A629;3 A634;
3 A637;3 A638;3 A640;3 A642;3 A643;3 A644;3 A645;3 A646;3 A648;3 A649;3 A651;3 A652;3 A653;3 A654;
3 A655;3 A656;3 A657;3 A658;3 A659;3 A660;3 A661;3 A662;3 A663;3 A664;@10740;3 A701 A;3 A702 B;
3 A703 D;3 A704 E;3 A705 F;3 A706 H;3 A707 J;3 A708 K;3 A709 L;3 A709-2 L2;3 A709-3 L3;
3 A709-4 L4;3 A709-6 L6;3 A710 W;3 A711 X;3 A712 Y;3 A713 OMEGA;3 A714 ABB;3 A715 BB;3 A717 DD;
3 A726 EYYY;3 A732 JE;@10760;3 A800;3 A801;3 A802;3 A803;3 A804;3 A805;3 A806;3 A807;@10780;
0 MODIFIER LETTER SMALL CAPITAL AA;2 SUPERSCRIPT TRIANGULAR COLON;3 HALF TRIANGULAR COLON;
2 SMALL AE;3 CAPITAL B;3 B WITH HOOK;@10787;3 DZ DIGRAPH;5 WITH RETROFLEX HOOK;6 CURL;
3 DEZH DIGRAPH;3 D WITH TAIL;5 HOOK;6 AND TAIL;3 REVERSED E;3 CLOSED REVERSED OPEN E;
3 FENG DIGRAPH;3 RAMS HORN;3 CAPITAL G;3 G WITH HOOK;3 CAPITAL G WITH HOOK;3 H WITH STROKE;
3 CAPITAL H;3 HENG WITH HOOK;3 DOTLESS J WITH STROKE AND HOOK;3 LS DIGRAPH;3 LZ DIGRAPH;
3 L WITH BELT;3 CAPITAL L WITH BELT;3 L WITH RETROFLEX HOOK AND BELT;3 LEZH;4 WITH RETROFLEX HOOK;
3 TURNED Y;5 WITH BELT;3 O WITH STROKE;3 CAPITAL OE;3 CLOSED OMEGA;3 Q;3 TURNED R WITH LONG LEG;
8 AND RETROFLEX HOOK;3 R WITH TAIL;5 FISHHOOK;3 CAPITAL R;3 TC DIGRAPH WITH CURL;3 TS DIGRAPH;
5 WITH RETROFLEX HOOK;3 TESH DIGRAPH;3 T WITH RETROFLEX HOOK;3 V WITH RIGHT HOOK;@107B2;
3 CAPITAL Y;2 GLOTTAL STOP WITH STROKE;2 REVERSED GLOTTAL STOP WITH STROKE;2 BILABIAL CLICK;
2 DENTAL CLICK;2 LATERAL CLICK;2 ALVEOLAR CLICK;2 RETROFLEX CLICK WITH RETROFLEX HOOK;
2 SMALL S WITH CURL;@10800;0 CYPRIOT SYLLABLE A;2 E;2 I;2 O;2 U;2 JA;@10808;2 JO;@1080A;2 KA;2 KE;
2 KI;2 KO;2 KU;2 LA;2 LE;2 LI;2 LO;2 LU;2 MA;2 ME;2 MI;2 MO;2 MU;2 NA;2 NE;2 NI;2 NO;2 NU;2 PA;
2 PE;2 PI;2 PO;2 PU;2 RA;2 RE;2 RI;2 RO;2 RU;2 SA;2 SE;2 SI;2 SO;2 SU;2 TA;2 TE;2 TI;2 TO;2 TU;
2 WA;2 WE;2 WI;2 WO;@10837;2 XA;2 XE;@1083C;2 ZA;@1083F;2 ZO;0 IMPERIAL ARAMAIC LETTER ALEPH;
3 BETH;3 GIMEL;3 DALETH;3 HE;3 WAW;3 ZAYIN;3 HETH;3 TETH;3 YODH;3 KAPH;3 LAMEDH;3 MEM;3 NUN;
3 SAMEKH;3 AYIN;3 PE;3 SADHE;3 QOPH;3 RESH;3 SHIN;3 TAW;@10857;2 SECTION SIGN;2 NUMBER ONE;3 TWO;
3 THREE;3 TEN;3 TWENTY;3 ONE HUNDRED;4 THOUSAND;3 TEN THOUSAND;0 PALMYRENE LETTER ALEPH;2 BETH;
2 GIMEL;2 DALETH;2 HE;2 WAW;2 ZAYIN;2 HETH;2 TETH;2 YODH;2 KAPH;2 LAMEDH;2 MEM;2 FINAL NUN;2 NUN;
2 SAMEKH;2 AYIN;2 PE;2 SADHE;2 QOPH;2 RESH;2 SHIN;2 TAW;1 LEFT-POINTING FLEURON;
1 RIGHT-POINTING FLEURON;1 NUMBER ONE;2 TWO;2 THREE;2 FOUR;2 FIVE;2 TEN;2 TWENTY;
0 NABATAEAN LETTER FINAL ALEPH;2 ALEPH;2 FINAL BETH;2 BETH;2 GIMEL;2 DALETH;2 FINAL HE;2 HE;2 WAW;
2 ZAYIN;2 HETH;2 TETH;2 FINAL YODH;2 YODH;2 FINAL KAPH;2 KAPH;2 FINAL LAMEDH;2 LAMEDH;2 FINAL MEM;
2 MEM;2 FINAL NUN;2 NUN;2 SAMEKH;2 AYIN;2 PE;2 SADHE;2 QOPH;2 RESH;2 FINAL SHIN;2 SHIN;2 TAW;
@108A7;1 NUMBER ONE;2 TWO;2 THREE;2 FOUR;1 CRUCIFORM NUMBER FOUR;1 NUMBER FIVE;2 TEN;2 TWENTY;
2 ONE HUNDRED;@108E0;0 HATRAN LETTER ALEPH;2 BETH;2 GIMEL;2 DALETH-RESH;2 HE;2 WAW;2 ZAYN;2 HETH;
2 TETH;2 YODH;2 KAPH;2 LAMEDH;2 MEM;2 NUN;2 SAMEKH;2 AYN;2 PE;2 SADHE;2 QOPH;@108F4;2 SHIN;2 TAW;
@108FB;1 NUMBER ONE;2 FIVE;2 TEN;2 TWENTY;2 ONE HUNDRED;0 PHOENICIAN LETTER ALF;2 BET;2 GAML;
2 DELT;2 HE;2 WAU;2 ZAI;2 HET;2 TET;2 YOD;2 KAF;2 LAMD;2 MEM;2 NUN;2 SEMK;2 AIN;2 PE;2 SADE;2 QOF;
2 ROSH;2 SHIN;2 TAU;1 NUMBER ONE;2 TEN;2 TWENTY;2 ONE HUNDRED;2 TWO;2 THREE;@1091F;
1 WORD SEPARATOR;0 LYDIAN LETTER A;2 B;2 G;2 D;2 E;2 V;2 I;2 Y;2 K;2 L;2 M;2 N;2 O;2 R;2 SS;2 T;
2 U;2 F;2 Q;2 S;2 TT;2 AN;2 EN;2 LY;2 NN;2 C;@1093F;1 TRIANGULAR MARK;@10980;
0 MEROITIC HIEROGLYPHIC LETTER A;3 E;3 I;3 O;3 YA;3 WA;3 BA;3 BA-2;3 PA;3 MA;3 NA;3 NA-2;3 NE;
3 NE-2;3 RA;3 RA-2;3 LA;3 KHA;3 HHA;3 SA;3 SA-2;3 SE;3 KA;3 QA;3 TA;3 TA-2;3 TE;3 TE-2;3 TO;3 DA;
2 SYMBOL VIDJ;3 VIDJ-2;1 CURSIVE LETTER A;3 E;3 I;3 O;3 YA;3 WA;3 BA;3 PA;3 MA;3 NA;3 NE;3 RA;
3 LA;3 KHA;3 HHA;3 SA;3 ARCHAIC SA;3 SE;3 KA;3 QA;3 TA;3 TE;3 TO;3 DA;@109BC;
2 FRACTION ELEVEN TWELFTHS;3 ONE HALF;2 LOGOGRAM RMT;3 IMN;2 NUMBER ONE;3 TWO;3 THREE;3 FOUR;
3 FIVE;3 SIX;3 SEVEN;3 EIGHT;3 NINE;3 TEN;3 TWENTY;3 THIRTY;3 FORTY;3 FIFTY;3 SIXTY;3 SEVENTY;
@109D2;3 ONE HUNDRED;3 TWO HUNDRED;3 THREE HUNDRED;3 FOUR HUNDRED;3 FIVE HUNDRED;3 SIX HUNDRED;
3 SEVEN HUNDRED;3 EIGHT HUNDRED;3 NINE HUNDRED;3 ONE THOUSAND;3 TWO THOUSAND;3 THREE THOUSAND;
3 FOUR THOUSAND;3 FIVE THOUSAND;3 SIX THOUSAND;3 SEVEN THOUSAND;3 EIGHT THOUSAND;3 NINE THOUSAND;
3 TEN THOUSAND;3 TWENTY THOUSAND;3 THIRTY THOUSAND;3 FORTY THOUSAND;3 FIFTY THOUSAND;
3 SIXTY THOUSAND;3 SEVENTY THOUSAND;3 EIGHTY THOUSAND;3 NINETY THOUSAND;3 ONE HUNDRED THOUSAND;
3 TWO HUNDRED THOUSAND;3 THREE HUNDRED THOUSAND;3 FOUR HUNDRED THOUSAND;3 FIVE HUNDRED THOUSAND;
3 SIX HUNDRED THOUSAND;3 SEVEN HUNDRED THOUSAND;3 EIGHT HUNDRED THOUSAND;3 NINE HUNDRED THOUSAND;
2 FRACTION ONE TWELFTH;3 TWO TWELFTHS;3 THREE TWELFTHS;3 FOUR TWELFTHS;3 FIVE TWELFTHS;
3 SIX TWELFTHS;3 SEVEN TWELFTHS;3 EIGHT TWELFTHS;3 NINE TWELFTHS;3 TEN TWELFTHS;
0 KHAROSHTHI LETTER A;1 VOWEL SIGN I;3 U;3 VOCALIC R;@10A05;3 E;3 O;@10A0C;2 LENGTH MARK;
1 SIGN DOUBLE RING BELOW;2 ANUSVARA;2 VISARGA;1 LETTER KA;2 KHA;2 GA;2 GHA;@10A15;2 CA;2 CHA;2 JA;
@10A19;2 NYA;2 TTA;2 TTHA;2 DDA;2 DDHA;2 NNA;2 TA;2 THA;2 DA;2 DHA;2 NA;2 PA;2 PHA;2 BA;2 BHA;
2 MA;2 YA;2 RA;2 LA;2 VA;2 SHA;2 SSA;2 SA;2 ZA;2 HA;2 KKA;2 TTTHA;2 TTTA;2 VHA;@10A38;
1 SIGN BAR ABOVE;2 CAUDA;2 DOT BELOW;@10A3F;1 VIRAMA;1 DIGIT ONE;2 TWO;2 THREE;2 FOUR;
1 NUMBER TEN;2 TWENTY;2 ONE HUNDRED;3 THOUSAND;1 FRACTION ONE HALF;@10A50;1 PUNCTUATION DOT;
2 SMALL CIRCLE;2 CIRCLE;2 CRESCENT BAR;2 MANGALAM;2 LOTUS;2 DANDA;2 DOUBLE DANDA;2 LINES;@10A60;
0 OLD SOUTH ARABIAN LETTER HE;4 LAMEDH;4 HETH;4 MEM;4 QOPH;4 WAW;4 SHIN;4 RESH;4 BETH;4 TAW;4 SAT;
4 KAPH;4 NUN;4 KHETH;4 SADHE;4 SAMEKH;4 FE;4 ALEF;4 AYN;4 DHADHE;4 GIMEL;4 DALETH;4 GHAYN;4 TETH;
4 ZAYN;4 DHALETH;4 YODH;4 THAW;4 THETH;3 NUMBER ONE;4 FIFTY;3 NUMERIC INDICATOR;
1 NORTH ARABIAN LETTER HEH;4 LAM;4 HAH;4 MEEM;4 QAF;4 WAW;4 ES-2;4 REH;4 BEH;4 TEH;4 ES-1;4 KAF;
4 NOON;4 KHAH;4 SAD;4 ES-3;4 FEH;4 ALEF;4 AIN;4 DAD;4 GEEM;4 DAL;4 GHAIN;4 TAH;4 ZAIN;4 THAL;
4 YEH;4 THEH;4 ZAH;3 NUMBER ONE;4 TEN;4 TWENTY;@10AC0;0 MANICHAEAN LETTER ALEPH;2 BETH;2 BHETH;
2 GIMEL;2 GHIMEL;2 DALETH;2 HE;2 WAW;1 SIGN UD;1 LETTER ZAYIN;2 ZHAYIN;2 JAYIN;2 JHAYIN;2 HETH;
2 TETH;2 YODH;2 KAPH;2 XAPH;2 KHAPH;2 LAMEDH;2 DHAMEDH;2 THAMEDH;2 MEM;2 NUN;2 SAMEKH;2 AYIN;
2 AAYIN;2 PE;2 FE;2 SADHE;2 QOPH;2 XOPH;2 QHOPH;2 RESH;2 SHIN;2 SSHIN;2 TAW;
1 ABBREVIATION MARK ABOVE;3 BELOW;@10AEB;1 NUMBER ONE;2 FIVE;2 TEN;2 TWENTY;2 ONE HUNDRED;
1 PUNCTUATION STAR;2 FLEURON;2 DOUBLE DOT WITHIN DOT;2 DOT WITHIN DOT;2 DOT;2 TWO DOTS;
2 LINE FILLER;@10B00;0 AVESTAN LETTER A;2 AA;2 AO;2 AAO;2 AN;2 AAN;2 AE;2 AEE;2 E;2 EE;2 O;2 OO;
2 I;2 II;2 U;2 UU;2 KE;2 XE;2 XYE;2 XVE;2 GE;2 GGE;2 GHE;2 CE;2 JE;2 TE;2 THE;2 DE;2 DHE;2 TTE;
2 PE;2 FE;2 BE;2 BHE;2 NGE;2 NGYE;2 NGVE;2 NE;2 NYE;2 NNE;2 ME;2 HME;2 YYE;2 YE;2 VE;2 RE;2 LE;
2 SE;2 ZE;2 SHE;2 ZHE;2 SHYE;2 SSHE;2 HE;@10B39;1 ABBREVIATION MARK;
0 TINY TWO DOTS OVER ONE DOT PUNCTUATION;0 SMALL TWO DOTS OVER ONE DOT PUNCTUATION;
0 LARGE TWO DOTS OVER ONE DOT PUNCTUATION;1 ONE DOT OVER TWO DOTS PUNCTUATION;
1 TWO RINGS OVER ONE RING PUNCTUATION;1 ONE RING OVER TWO RINGS PUNCTUATION;
0 INSCRIPTIONAL PARTHIAN LETTER ALEPH;3 BETH;3 GIMEL;3 DALETH;3 HE;3 WAW;3 ZAYIN;3 HETH;3 TETH;
3 YODH;3 KAPH;3 LAMEDH;3 MEM;3 NUN;3 SAMEKH;3 AYIN;3 PE;3 SADHE;3 QOPH;3 RESH;3 SHIN;3 TAW;@10B58;
2 NUMBER ONE;3 TWO;3 THREE;3 FOUR;3 TEN;3 TWENTY;3 ONE HUNDRED;4 THOUSAND;1 PAHLAVI LETTER ALEPH;
3 BETH;3 GIMEL;3 DALETH;3 HE;3 WAW-AYIN-RESH;3 ZAYIN;3 HETH;3 TETH;3 YODH;3 KAPH;3 LAMEDH;
3 MEM-QOPH;3 NUN;3 SAMEKH;3 PE;3 SADHE;3 SHIN;3 TAW;@10B78;2 NUMBER ONE;3 TWO;3 THREE;3 FOUR;
3 TEN;3 TWENTY;3 ONE HUNDRED;4 THOUSAND;0 PSALTER PAHLAVI LETTER ALEPH;3 BETH;3 GIMEL;3 DALETH;
3 HE;3 WAW-AYIN-RESH;3 ZAYIN;3 HETH;3 YODH;3 KAPH;3 LAMEDH;3 MEM-QOPH;3 NUN;3 SAMEKH;3 PE;3 SADHE;
3 SHIN;3 TAW;@10B99;2 SECTION MARK;2 TURNED SECTION MARK;2 FOUR DOTS WITH CROSS;5 DOT;@10BA9;
2 NUMBER ONE;3 TWO;3 THREE;3 FOUR;3 TEN;3 TWENTY;3 ONE HUNDRED;@10C00;
0 OLD TURKIC LETTER ORKHON A;3 YENISEI A;4 AE;3 ORKHON I;3 YENISEI I;4 E;3 ORKHON O;4 OE;
3 YENISEI OE;3 ORKHON AB;3 YENISEI AB;3 ORKHON AEB;3 YENISEI AEB;3 ORKHON AG;3 YENISEI AG;
3 ORKHON AEG;3 YENISEI AEG;3 ORKHON AD;3 YENISEI AD;3 ORKHON AED;4 EZ;3 YENISEI EZ;3 ORKHON AY;
3 YENISEI AY;3 ORKHON AEY;3 YENISEI AEY;3 ORKHON AEK;3 YENISEI AEK;3 ORKHON OEK;3 YENISEI OEK;
3 ORKHON AL;3 YENISEI AL;3 ORKHON AEL;4 ELT;4 EM;4 AN;4 AEN;3 YENISEI AEN;3 ORKHON ENT;
3 YENISEI ENT;3 ORKHON ENC;3 YENISEI ENC;3 ORKHON ENY;3 YENISEI ENY;4 ANG;3 ORKHON ENG;
3 YENISEI AENG;3 ORKHON EP;4 OP;4 IC;4 EC;3 YENISEI EC;3 ORKHON AQ;3 YENISEI AQ;3 ORKHON IQ;
3 YENISEI IQ;3 ORKHON OQ;3 YENISEI OQ;3 ORKHON AR;3 YENISEI AR;3 ORKHON AER;4 AS;4 AES;4 ASH;
3 YENISEI ASH;3 ORKHON ESH;3 YENISEI ESH;3 ORKHON AT;3 YENISEI AT;3 ORKHON AET;3 YENISEI AET;
3 ORKHON OT;4 BASH;@10C80;1 HUNGARIAN CAPITAL LETTER A;4 AA;4 EB;4 AMB;4 EC;4 ENC;4 ECS;4 ED;
4 AND;4 E;4 CLOSE E;4 EE;4 EF;4 EG;4 EGY;4 EH;4 I;4 II;4 EJ;4 EK;4 AK;4 UNK;4 EL;4 ELY;4 EM;4 EN;
4 ENY;4 O;4 OO;4 NIKOLSBURG OE;4 RUDIMENTA OE;4 OEE;4 EP;4 EMP;4 ER;4 SHORT ER;4 ES;4 ESZ;4 ET;
4 ENT;4 ETY;4 ECH;4 U;4 UU;4 NIKOLSBURG UE;4 RUDIMENTA UE;4 EV;4 EZ;4 EZS;4 ENT-SHAPED SIGN;4 US;
@10CC0;2 SMALL LETTER A;4 AA;4 EB;4 AMB;4 EC;4 ENC;4 ECS;4 ED;4 AND;4 E;4 CLOSE E;4 EE;4 EF;4 EG;
4 EGY;4 EH;4 I;4 II;4 EJ;4 EK;4 AK;4 UNK;4 EL;4 ELY;4 EM;4 EN;4 ENY;4 O;4 OO;4 NIKOLSBURG OE;
4 RUDIMENTA OE;4 OEE;4 EP;4 EMP;4 ER;4 SHORT ER;4 ES;4 ESZ;4 ET;4 ENT;4 ETY;4 ECH;4 U;4 UU;
4 NIKOLSBURG UE;4 RUDIMENTA UE;4 EV;4 EZ;4 EZS;4 ENT-SHAPED SIGN;4 US;@10CFA;2 NUMBER ONE;3 FIVE;
3 TEN;3 FIFTY;3 ONE HUNDRED;4 THOUSAND;0 HANIFI ROHINGYA LETTER A;3 BA;3 PA;3 TA;3 TTA;3 JA;3 CA;
3 HA;3 KHA;3 FA;3 DA;3 DDA;3 RA;3 RRA;3 ZA;3 SA;3 SHA;3 KA;3 GA;3 LA;3 MA;3 NA;3 WA;3 KINNA WA;
3 YA;3 KINNA YA;3 NGA;3 NYA;3 VA;2 VOWEL A;3 I;3 U;3 E;3 O;2 MARK SAKIN;3 NA KHONNA;
2 SIGN HARBAHAY;3 TAHALA;3 TANA;3 TASSI;@10D30;2 DIGIT ZERO;3 ONE;3 TWO;3 THREE;3 FOUR;3 FIVE;
3 SIX;3 SEVEN;3 EIGHT;3 NINE;@10E60;0 RUMI DIGIT ONE;2 TWO;2 THREE;2 FOUR;2 FIVE;2 SIX;2 SEVEN;
2 EIGHT;2 NINE;1 NUMBER TEN;2 TWENTY;2 THIRTY;2 FORTY;2 FIFTY;2 SIXTY;2 SEVENTY;2 EIGHTY;2 NINETY;
2 ONE HUNDRED;2 TWO HUNDRED;2 THREE HUNDRED;2 FOUR HUNDRED;2 FIVE HUNDRED;2 SIX HUNDRED;
2 SEVEN HUNDRED;2 EIGHT HUNDRED;2 NINE HUNDRED;1 FRACTION ONE HALF;3 QUARTER;3 THIRD;2 TWO THIRDS;
@10E80;0 YEZIDI LETTER ELIF;2 BE;2 PE;2 PHE;2 THE;2 SE;2 CIM;2 CHIM;2 CHHIM;2 HHA;2 XA;2 DAL;
2 ZAL;2 RA;2 RHA;2 ZA;2 JA;2 SIN;2 SHIN;2 SAD;2 DAD;2 TA;2 ZE;2 EYN;2 XHEYN;2 FA;2 VA;
3 ALTERNATE FORM;2 QAF;2 KAF;2 KHAF;2 GAF;2 LAM;2 MIM;2 NUN;2 UM;2 WAW;2 OW;2 EW;2 HAY;2 YOT;2 ET;
@10EAB;1 COMBINING HAMZA MARK;2 MADDA MARK;1 HYPHENATION MARK;@10EB0;1 LETTER LAM WITH DOT ABOVE;
2 YOT WITH CIRCUMFLEX ABOVE;@10F00;0 OLD SOGDIAN LETTER ALEPH;3 FINAL ALEPH;3 BETH;3 FINAL BETH;
3 GIMEL;3 HE;3 FINAL HE;3 WAW;3 ZAYIN;3 HETH;3 YODH;3 KAPH;3 LAMEDH;3 MEM;3 NUN;3 FINAL NUN;
5 WITH VERTICAL TAIL;3 SAMEKH;3 AYIN;3 ALTERNATE AYIN;3 PE;3 SADHE;3 FINAL SADHE;
5 WITH VERTICAL TAIL;3 RESH-AYIN-DALETH;3 SHIN;3 TAW;3 FINAL TAW;5 WITH VERTICAL TAIL;
2 NUMBER ONE;3 TWO;3 THREE;3 FOUR;3 FIVE;3 TEN;3 TWENTY;3 THIRTY;3 ONE HUNDRED;
2 FRACTION ONE HALF;2 LIGATURE AYIN-DALETH;@10F30;0 SOGDIAN LETTER ALEPH;2 BETH;2 GIMEL;2 HE;
2 WAW;2 ZAYIN;2 HETH;2 YODH;2 KAPH;2 LAMEDH;2 MEM;2 NUN;2 SAMEKH;2 AYIN;2 PE;2 SADHE;2 RESH-AYIN;
2 SHIN;2 TAW;2 FETH;2 LESH;1 INDEPENDENT SHIN;1 COMBINING DOT BELOW;2 TWO DOTS BELOW;2 DOT ABOVE;
2 TWO DOTS ABOVE;2 CURVE ABOVE;3 BELOW;2 HOOK ABOVE;3 BELOW;2 LONG HOOK BELOW;2 RESH BELOW;
2 STROKE BELOW;1 NUMBER ONE;2 TEN;2 TWENTY;2 ONE HUNDRED;1 PUNCTUATION TWO VERTICAL BARS;
5 WITH DOTS;2 CIRCLE WITH DOT;2 TWO CIRCLES WITH DOTS;2 HALF CIRCLE WITH DOT;@10F70;
0 OLD UYGHUR LETTER ALEPH;3 BETH;3 GIMEL-HETH;3 WAW;3 ZAYIN;3 FINAL HETH;3 YODH;3 KAPH;3 LAMEDH;
3 MEM;3 NUN;3 SAMEKH;3 PE;3 SADHE;3 RESH;3 SHIN;3 TAW;3 LESH;2 COMBINING DOT ABOVE;4 BELOW;
3 TWO DOTS ABOVE;5 BELOW;2 PUNCTUATION BAR;3 TWO BARS;4 DOTS;3 FOUR DOTS;@10FB0;
0 CHORASMIAN LETTER ALEPH;2 SMALL ALEPH;2 BETH;2 GIMEL;2 DALETH;2 HE;2 WAW;2 CURLED WAW;2 ZAYIN;
2 HETH;2 YODH;2 KAPH;2 LAMEDH;2 MEM;2 NUN;2 SAMEKH;2 AYIN;2 PE;2 RESH;2 SHIN;2 TAW;1 NUMBER ONE;
2 TWO;2 THREE;2 FOUR;2 TEN;2 TWENTY;2 ONE HUNDRED;@10FE0;0 ELYMAIC LETTER ALEPH;2 BETH;2 GIMEL;
2 DALETH;2 HE;2 WAW;2 ZAYIN;2 HETH;2 TETH;2 YODH;2 KAPH;2 LAMEDH;2 MEM;2 NUN;2 SAMEKH;2 AYIN;2 PE;
2 SADHE;2 QOPH;2 RESH;2 SHIN;2 TAW;1 LIGATURE ZAYIN-YODH;@11000;0 BRAHMI SIGN CANDRABINDU;
2 ANUSVARA;2 VISARGA;2 JIHVAMULIYA;2 UPADHMANIYA;1 LETTER A;2 AA;2 I;2 II;2 U;2 UU;2 VOCALIC R;
3 RR;3 L;3 LL;2 E;2 AI;2 O;2 AU;2 KA;2 KHA;2 GA;2 GHA;2 NGA;2 CA;2 CHA;2 JA;2 JHA;2 NYA;2 TTA;
2 TTHA;2 DDA;2 DDHA;2 NNA;2 TA;2 THA;2 DA;2 DHA;2 NA;2 PA;2 PHA;2 BA;2 BHA;2 MA;2 YA;2 RA;2 LA;
2 VA;2 SHA;2 SSA;2 SA;2 HA;2 LLA;2 OLD TAMIL LLLA;4 RRA;4 NNNA;1 VOWEL SIGN AA;3 BHATTIPROLU AA;
3 I;3 II;3 U;3 UU;3 VOCALIC R;4 RR;4 L;4 LL;3 E;3 AI;3 O;3 AU;1 VIRAMA;1 DANDA;1 DOUBLE DANDA;
1 PUNCTUATION DOT;2 DOUBLE DOT;2 LINE;2 CRESCENT BAR;2 LOTUS;@11052;1 NUMBER ONE;2 TWO;2 THREE;
2 FOUR;2 FIVE;2 SIX;2 SEVEN;2 EIGHT;2 NINE;2 TEN;2 TWENTY;2 THIRTY;2 FORTY;2 FIFTY;2 SIXTY;
2 SEVENTY;2 EIGHTY;2 NINETY;2 ONE HUNDRED;3 THOUSAND;1 DIGIT ZERO;2 ONE;2 TWO;2 THREE;2 FOUR;
2 FIVE;2 SIX;2 SEVEN;2 EIGHT;2 NINE;1 SIGN OLD TAMIL VIRAMA;1 LETTER OLD TAMIL SHORT E;5 O;
1 VOWEL SIGN OLD TAMIL SHORT E;6 O;1 LETTER OLD TAMIL LLA;@1107F;1 NUMBER JOINER;
0 KAITHI SIGN CANDRABINDU;2 ANUSVARA;2 VISARGA;1 LETTER A;2 AA;2 I;2 II;2 U;2 UU;2 E;2 AI;2 O;
2 AU;2 KA;2 KHA;2 GA;2 GHA;2 NGA;2 CA;2 CHA;2 JA;2 JHA;2 NYA;2 TTA;2 TTHA;2 DDA;2 DDDHA;2 DDHA;
2 RHA;2 NNA;2 TA;2 THA;2 DA;2 DHA;2 NA;2 PA;2 PHA;2 BA;2 BHA;2 MA;2 YA;2 RA;2 LA;2 VA;2 SHA;2 SSA;
2 SA;2 HA;1 VOWEL SIGN AA;3 I;3 II;3 U;3 UU;3 E;3 AI;3 O;3 AU;1 SIGN VIRAMA;2 NUKTA;
1 ABBREVIATION SIGN;1 ENUMERATION SIGN;1 NUMBER SIGN;1 SECTION MARK;1 DOUBLE SECTION MARK;1 DANDA;
1 DOUBLE DANDA;1 VOWEL SIGN VOCALIC R;@110CD;1 NUMBER SIGN ABOVE;@110D0;0 SORA SOMPENG LETTER SAH;
3 TAH;3 BAH;3 CAH;3 DAH;3 GAH;3 MAH;3 NGAH;3 LAH;3 NAH;3 VAH;3 PAH;3 YAH;3 RAH;3 HAH;3 KAH;3 JAH;
3 NYAH;3 AH;3 EEH;3 IH;3 UH;3 OH;3 EH;3 MAE;@110F0;2 DIGIT ZERO;3 ONE;3 TWO;3 THREE;3 FOUR;3 FIVE;
3 SIX;3 SEVEN;3 EIGHT;3 NINE;@11100;0 CHAKMA SIGN CANDRABINDU;2 ANUSVARA;2 VISARGA;1 LETTER AA;
2 I;2 U;2 E;2 KAA;2 KHAA;2 GAA;2 GHAA;2 NGAA;2 CAA;2 CHAA;2 JAA;2 JHAA;2 NYAA;2 TTAA;2 TTHAA;
2 DDAA;2 DDHAA;2 NNAA;2 TAA;2 THAA;2 DAA;2 DHAA;2 NAA;2 PAA;2 PHAA;2 BAA;2 BHAA;2 MAA;2 YYAA;
2 YAA;2 RAA;2 LAA;2 WAA;2 SAA;2 HAA;1 VOWEL SIGN A;3 I;3 II;3 U;3 UU;3 E;3 AI;3 O;3 AU;3 OI;
1 O MARK;1 AU MARK;1 VIRAMA;1 MAAYYAA;@11136;1 DIGIT ZERO;2 ONE;2 TWO;2 THREE;2 FOUR;2 FIVE;2 SIX;
2 SEVEN;2 EIGHT;2 NINE;1 SECTION MARK;1 DANDA;1 DOUBLE DANDA;1 QUESTION MARK;1 LETTER LHAA;
1 VOWEL SIGN AA;3 EI;1 LETTER VAA;@11150;0 MAHAJANI LETTER A;2 I;2 U;2 E;2 O;2 KA;2 KHA;2 GA;
2 GHA;2 CA;2 CHA;2 JA;2 JHA;2 NYA;2 TTA;2 TTHA;2 DDA;2 DDHA;2 NNA;2 TA;2 THA;2 DA;2 DHA;2 NA;2 PA;
2 PHA;2 BA;2 BHA;2 MA;2 RA;2 LA;2 VA;2 SA;2 HA;2 RRA;1 SIGN NUKTA;1 ABBREVIATION SIGN;
1 SECTION MARK;1 LIGATURE SHRI;@11180;0 SHARADA SIGN CANDRABINDU;2 ANUSVARA;2 VISARGA;1 LETTER A;
2 AA;2 I;2 II;2 U;2 UU;2 VOCALIC R;3 RR;3 L;3 LL;2 E;2 AI;2 O;2 AU;2 KA;2 KHA;2 GA;2 GHA;2 NGA;
2 CA;2 CHA;2 JA;2 JHA;2 NYA;2 TTA;2 TTHA;2 DDA;2 DDHA;2 NNA;2 TA;2 THA;2 DA;2 DHA;2 NA;2 PA;2 PHA;
2 BA;2 BHA;2 MA;2 YA;2 RA;2 LA;2 LLA;2 VA;2 SHA;2 SSA;2 SA;2 HA;1 VOWEL SIGN AA;3 I;3 II;3 U;3 UU;
3 VOCALIC R;4 RR;4 L;4 LL;3 E;3 AI;3 O;3 AU;1 SIGN VIRAMA;2 AVAGRAHA;2 JIHVAMULIYA;2 UPADHMANIYA;
1 OM;1 DANDA;1 DOUBLE DANDA;1 ABBREVIATION SIGN;1 SEPARATOR;1 SANDHI MARK;1 SIGN NUKTA;
1 VOWEL MODIFIER MARK;1 EXTRA SHORT VOWEL MARK;1 SUTRA MARK;1 VOWEL SIGN PRISHTHAMATRA E;
1 SIGN INVERTED CANDRABINDU;1 DIGIT ZERO;2 ONE;2 TWO;2 THREE;2 FOUR;2 FIVE;2 SIX;2 SEVEN;2 EIGHT;
2 NINE;1 EKAM;1 SIGN SIDDHAM;1 HEADSTROKE;1 CONTINUATION SIGN;1 SECTION MARK-1;2 MARK-2;@111E1;
0 SINHALA ARCHAIC DIGIT ONE;3 TWO;3 THREE;3 FOUR;3 FIVE;3 SIX;3 SEVEN;3 EIGHT;3 NINE;2 NUMBER TEN;
3 TWENTY;3 THIRTY;3 FORTY;3 FIFTY;3 SIXTY;3 SEVENTY;3 EIGHTY;3 NINETY;3 ONE HUNDRED;4 THOUSAND;
@11200;0 KHOJKI LETTER A;2 AA;2 I;2 U;2 E;2 AI;2 O;2 AU;2 KA;2 KHA;2 GA;2 GGA;2 GHA;2 NGA;2 CA;
2 CHA;2 JA;2 JJA;@11213;2 NYA;2 TTA;2 TTHA;2 DDA;2 DDHA;2 NNA;2 TA;2 THA;2 DA;2 DDDA;2 DHA;2 NA;
2 PA;2 PHA;2 BA;2 BBA;2 BHA;2 MA;2 YA;2 RA;2 LA;2 VA;2 SA;2 HA;2 LLA;1 VOWEL SIGN AA;3 I;3 II;3 U;
3 E;3 AI;3 O;3 AU;1 SIGN ANUSVARA;2 VIRAMA;2 NUKTA;2 SHADDA;1 DANDA;1 DOUBLE DANDA;
1 WORD SEPARATOR;1 SECTION MARK;1 DOUBLE SECTION MARK;1 ABBREVIATION SIGN;1 SIGN SUKUN;@11280;
0 MULTANI LETTER A;2 I;2 U;2 E;2 KA;2 KHA;2 GA;@11288;2 GHA;@1128A;2 CA;2 CHA;2 JA;2 JJA;@1128F;
2 NYA;2 TTA;2 TTHA;2 DDA;2 DDDA;2 DDHA;2 NNA;2 TA;2 THA;2 DA;2 DHA;2 NA;2 PA;2 PHA;2 BA;@1129F;
2 BHA;2 MA;2 YA;2 RA;2 LA;2 VA;2 SA;2 HA;2 RRA;2 RHA;1 SECTION MARK;@112B0;0 KHUDAWADI LETTER A;
2 AA;2 I;2 II;2 U;2 UU;2 E;2 AI;2 O;2 AU;2 KA;2 KHA;2 GA;2 GGA;2 GHA;2 NGA;2 CA;2 CHA;2 JA;2 JJA;
2 JHA;2 NYA;2 TTA;2 TTHA;2 DDA;2 DDDA;2 RRA;2 DDHA;2 NNA;2 TA;2 THA;2 DA;2 DHA;2 NA;2 PA;2 PHA;
2 BA;2 BBA;2 BHA;2 MA;2 YA;2 RA;2 LA;2 VA;2 SHA;2 SA;2 HA;1 SIGN ANUSVARA;1 VOWEL SIGN AA;3 I;
3 II;3 U;3 UU;3 E;3 AI;3 O;3 AU;1 SIGN NUKTA;2 VIRAMA;@112F0;1 DIGIT ZERO;2 ONE;2 TWO;2 THREE;
2 FOUR;2 FIVE;2 SIX;2 SEVEN;2 EIGHT;2 NINE;@11300;0 GRANTHA SIGN COMBINING ANUSVARA ABOVE;
2 CANDRABINDU;2 ANUSVARA;2 VISARGA;@11305;1 LETTER A;2 AA;2 I;2 II;2 U;2 UU;2 VOCALIC R;3 L;
@1130F;2 EE;2 AI;@11313;2 OO;2 AU;2 KA;2 KHA;2 GA;2 GHA;2 NGA;2 CA;2 CHA;2 JA;2 JHA;2 NYA;2 TTA;
2 TTHA;2 DDA;2 DDHA;2 NNA;2 TA;2 THA;2 DA;2 DHA;2 NA;@1132A;2 PA;2 PHA;2 BA;2 BHA;2 MA;2 YA;2 RA;
@11332;2 LA;2 LLA;@11335;2 VA;2 SHA;2 SSA;2 SA;2 HA;@1133B;0 COMBINING BINDU BELOW;
0 GRANTHA SIGN NUKTA;2 AVAGRAHA;1 VOWEL SIGN AA;3 I;3 II;3 U;3 UU;3 VOCALIC R;4 RR;@11347;3 EE;
3 AI;@1134B;3 OO;3 AU;1 SIGN VIRAMA;@11350;1 OM;@11357;1 AU LENGTH MARK;@1135D;1 SIGN PLUTA;
1 LETTER VEDIC ANUSVARA;3 DOUBLE ANUSVARA;2 VOCALIC RR;3 LL;1 VOWEL SIGN VOCALIC L;4 LL;@11366;
0 COMBINING GRANTHA DIGIT ZERO;3 ONE;3 TWO;3 THREE;3 FOUR;3 FIVE;3 SIX;@11370;2 LETTER A;3 KA;
3 NA;3 VI;3 PA;@11400;0 NEWA LETTER A;2 AA;2 I;2 II;2 U;2 UU;2 VOCALIC R;3 RR;3 L;3 LL;2 E;2 AI;
2 O;2 AU;2 KA;2 KHA;2 GA;2 GHA;2 NGA;2 NGHA;2 CA;2 CHA;2 JA;2 JHA;2 NYA;2 NYHA;2 TTA;2 TTHA;2 DDA;
2 DDHA;2 NNA;2 TA;2 THA;2 DA;2 DHA;2 NA;2 NHA;2 PA;2 PHA;2 BA;2 BHA;2 MA;2 MHA;2 YA;2 RA;2 RHA;
2 LA;2 LHA;2 WA;2 SHA;2 SSA;2 SA;2 HA;1 VOWEL SIGN AA;3 I;3 II;3 U;3 UU;3 VOCALIC R;4 RR;4 L;4 LL;
3 E;3 AI;3 O;3 AU;1 SIGN VIRAMA;2 CANDRABINDU;2 ANUSVARA;2 VISARGA;2 NUKTA;2 AVAGRAHA;
2 FINAL ANUSVARA;1 OM;1 SIDDHI;1 DANDA;1 DOUBLE DANDA;1 COMMA;1 GAP FILLER;1 ABBREVIATION SIGN;
1 DIGIT ZERO;2 ONE;2 TWO;2 THREE;2 FOUR;2 FIVE;2 SIX;2 SEVEN;2 EIGHT;2 NINE;1 DOUBLE COMMA;
1 PLACEHOLDER MARK;@1145D;1 INSERTION SIGN;1 SANDHI MARK;1 LETTER VEDIC ANUSVARA;
1 SIGN JIHVAMULIYA;2 UPADHMANIYA;@11480;0 TIRHUTA ANJI;1 LETTER A;2 AA;2 I;2 II;2 U;2 UU;
2 VOCALIC R;3 RR;3 L;3 LL;2 E;2 AI;2 O;2 AU;2 KA;2 KHA;2 GA;2 GHA;2 NGA;2 CA;2 CHA;2 JA;2 JHA;
2 NYA;2 TTA;2 TTHA;2 DDA;2 DDHA;2 NNA;2 TA;2 THA;2 DA;2 DHA;2 NA;2 PA;2 PHA;2 BA;2 BHA;2 MA;2 YA;
2 RA;2 LA;2 VA;2 SHA;2 SSA;2 SA;2 HA;1 VOWEL SIGN AA;3 I;3 II;3 U;3 UU;3 VOCALIC R;4 RR;4 L;4 LL;
3 E;3 SHORT E;3 AI;3 O;3 SHORT O;3 AU;1 SIGN CANDRABINDU;2 ANUSVARA;2 VISARGA;2 VIRAMA;2 NUKTA;
2 AVAGRAHA;1 GVANG;1 ABBREVIATION SIGN;1 OM;@114D0;1 DIGIT ZERO;2 ONE;2 TWO;2 THREE;2 FOUR;2 FIVE;
2 SIX;2 SEVEN;2 EIGHT;2 NINE;@11580;0 SIDDHAM LETTER A;2 AA;2 I;2 II;2 U;2 UU;2 VOCALIC R;3 RR;
3 L;3 LL;2 E;2 AI;2 O;2 AU;2 KA;2 KHA;2 GA;2 GHA;2 NGA;2 CA;2 CHA;2 JA;2 JHA;2 NYA;2 TTA;2 TTHA;
2 DDA;2 DDHA;2 NNA;2 TA;2 THA;2 DA;2 DHA;2 NA;2 PA;2 PHA;2 BA;2 BHA;2 MA;2 YA;2 RA;2 LA;2 VA;
2 SHA;2 SSA;2 SA;2 HA;1 VOWEL SIGN AA;3 I;3 II;3 U;3 UU;3 VOCALIC R;4 RR;@115B8;3 E;3 AI;3 O;3 AU;
1 SIGN CANDRABINDU;2 ANUSVARA;2 VISARGA;2 VIRAMA;2 NUKTA;2 SIDDHAM;1 DANDA;1 DOUBLE DANDA;
1 SEPARATOR DOT;2 BAR;1 REPETITION MARK-1;2 MARK-2;2 MARK-3;1 END OF TEXT MARK;
1 SECTION MARK WITH TRIDENT AND U-SHAPED ORNAMENTS;6 DOTTED CRESCENTS;4 RAYS AND DOTTED CRESCENTS;
7 DOUBLE CRESCENTS;7 TRIPLE CRESCENTS;3 DOUBLE RING;5 WITH RAYS;3 WITH DOUBLE CRESCENTS;
4 TRIPLE CRESCENTS;4 QUADRUPLE CRESCENTS;4 SEPTUPLE CRESCENTS;4 CIRCLES AND RAYS;6 TWO ENCLOSURES;
6 FOUR ENCLOSURES;1 LETTER THREE-CIRCLE ALTERNATE I;2 TWO-CIRCLE ALTERNATE I;4 II;2 ALTERNATE U;
1 VOWEL SIGN ALTERNATE U;4 UU;@11600;0 MODI LETTER A;2 AA;2 I;2 II;2 U;2 UU;2 VOCALIC R;3 RR;3 L;
3 LL;2 E;2 AI;2 O;2 AU;2 KA;2 KHA;2 GA;2 GHA;2 NGA;2 CA;2 CHA;2 JA;2 JHA;2 NYA;2 TTA;2 TTHA;2 DDA;
2 DDHA;2 NNA;2 TA;2 THA;2 DA;2 DHA;2 NA;2 PA;2 PHA;2 BA;2 BHA;2 MA;2 YA;2 RA;2 LA;2 VA;2 SHA;
2 SSA;2 SA;2 HA;2 LLA;1 VOWEL SIGN AA;3 I;3 II;3 U;3 UU;3 VOCALIC R;4 RR;4 L;4 LL;3 E;3 AI;3 O;
3 AU;1 SIGN ANUSVARA;2 VISARGA;2 VIRAMA;2 ARDHACANDRA;1 DANDA;1 DOUBLE DANDA;1 ABBREVIATION SIGN;
1 SIGN HUVA;@11650;1 DIGIT ZERO;2 ONE;2 TWO;2 THREE;2 FOUR;2 FIVE;2 SIX;2 SEVEN;2 EIGHT;2 NINE;
@11660;0 MONGOLIAN BIRGA WITH ORNAMENT;1 ROTATED BIRGA;1 DOUBLE BIRGA WITH ORNAMENT;
1 TRIPLE BIRGA WITH ORNAMENT;1 BIRGA WITH DOUBLE ORNAMENT;1 ROTATED BIRGA WITH ORNAMENT;
4 DOUBLE ORNAMENT;1 INVERTED BIRGA;3 WITH DOUBLE ORNAMENT;1 SWIRL BIRGA;3 WITH ORNAMENT;
4 DOUBLE ORNAMENT;1 TURNED SWIRL BIRGA WITH DOUBLE ORNAMENT;@11680;0 TAKRI LETTER A;2 AA;2 I;2 II;
2 U;2 UU;2 E;2 AI;2 O;2 AU;2 KA;2 KHA;2 GA;2 GHA;2 NGA;2 CA;2 CHA;2 JA;2 JHA;2 NYA;2 TTA;2 TTHA;
2 DDA;2 DDHA;2 NNA;2 TA;2 THA;2 DA;2 DHA;2 NA;2 PA;2 PHA;2 BA;2 BHA;2 MA;2 YA;2 RA;2 LA;2 VA;
2 SHA;2 SA;2 HA;2 RRA;1 SIGN ANUSVARA;2 VISARGA;1 VOWEL SIGN AA;3 I;3 II;3 U;3 UU;3 E;3 AI;3 O;
3 AU;1 SIGN VIRAMA;2 NUKTA;1 LETTER ARCHAIC KHA;1 ABBREVIATION SIGN;@116C0;1 DIGIT ZERO;2 ONE;
2 TWO;2 THREE;2 FOUR;2 FIVE;2 SIX;2 SEVEN;2 EIGHT;2 NINE;@11700;0 AHOM LETTER KA;2 KHA;2 NGA;2 NA;
2 TA;2 ALTERNATE TA;2 PA;2 PHA;2 BA;2 MA;2 JA;2 CHA;2 THA;2 RA;2 LA;2 SA;2 NYA;2 HA;2 A;2 DA;
2 DHA;2 GA;2 ALTERNATE GA;2 GHA;2 BHA;2 JHA;2 ALTERNATE BA;@1171D;1 CONSONANT SIGN MEDIAL LA;4 RA;
4 LIGATING RA;1 VOWEL SIGN A;3 AA;3 I;3 II;3 U;3 UU;3 E;3 AW;3 O;3 AI;3 AM;1 SIGN KILLER;@11730;
1 DIGIT ZERO;2 ONE;2 TWO;2 THREE;2 FOUR;2 FIVE;2 SIX;2 SEVEN;2 EIGHT;2 NINE;1 NUMBER TEN;2 TWENTY;
1 SIGN SMALL SECTION;2 SECTION;2 RULAI;1 SYMBOL VI;1 LETTER CA;2 TTA;2 TTHA;2 DDA;2 DDHA;2 NNA;
2 LLA;@11800;0 DOGRA LETTER A;2 AA;2 I;2 II;2 U;2 UU;2 E;2 AI;2 O;2 AU;2 KA;2 KHA;2 GA;2 GHA;
2 NGA;2 CA;2 CHA;2 JA;2 JHA;2 NYA;2 TTA;2 TTHA;2 DDA;2 DDHA;2 NNA;2 TA;2 THA;2 DA;2 DHA;2 NA;2 PA;
2 PHA;2 BA;2 BHA;2 MA;2 YA;2 RA;2 LA;2 VA;2 SHA;2 SSA;2 SA;2 HA;2 RRA;1 VOWEL SIGN AA;3 I;3 II;
3 U;3 UU;3 VOCALIC R;4 RR;3 E;3 AI;3 O;3 AU;1 SIGN ANUSVARA;2 VISARGA;2 VIRAMA;2 NUKTA;
1 ABBREVIATION SIGN;@118A0;0 WARANG CITI CAPITAL LETTER NGAA;4 A;4 WI;4 YU;4 YA;4 YO;4 II;4 UU;
4 E;4 O;4 ANG;4 GA;4 KO;4 ENY;4 YUJ;4 UC;4 ENN;4 ODD;4 TTE;4 NUNG;4 DA;4 AT;4 AM;4 BU;4 PU;4 HIYO;
4 HOLO;4 HORR;4 HAR;4 SSUU;4 SII;4 VIYO;2 SMALL LETTER NGAA;4 A;4 WI;4 YU;4 YA;4 YO;4 II;4 UU;4 E;
4 O;4 ANG;4 GA;4 KO;4 ENY;4 YUJ;4 UC;4 ENN;4 ODD;4 TTE;4 NUNG;4 DA;4 AT;4 AM;4 BU;4 PU;4 HIYO;
4 HOLO;4 HORR;4 HAR;4 SSUU;4 SII;4 VIYO;2 DIGIT ZERO;3 ONE;3 TWO;3 THREE;3 FOUR;3 FIVE;3 SIX;
3 SEVEN;3 EIGHT;3 NINE;2 NUMBER TEN;3 TWENTY;3 THIRTY;3 FORTY;3 FIFTY;3 SIXTY;3 SEVENTY;3 EIGHTY;
3 NINETY;@118FF;2 OM;0 DIVES AKURU LETTER A;3 AA;3 I;3 II;3 U;3 UU;3 E;@11909;3 O;@1190C;3 KA;
3 KHA;3 GA;3 GHA;3 NGA;3 CA;3 CHA;3 JA;@11915;3 NYA;3 TTA;@11918;3 DDA;3 DDHA;3 NNA;3 TA;3 THA;
3 DA;3 DHA;3 NA;3 PA;3 PHA;3 BA;3 BHA;3 MA;3 YA;3 YYA;3 RA;3 LA;3 VA;3 SHA;3 SSA;3 SA;3 HA;3 LLA;
3 ZA;2 VOWEL SIGN AA;4 I;4 II;4 U;4 UU;4 E;@11937;4 AI;4 O;@1193B;2 SIGN ANUSVARA;3 CANDRABINDU;
3 HALANTA;2 VIRAMA;2 PREFIXED NASAL SIGN;2 MEDIAL YA;2 INITIAL RA;2 MEDIAL RA;2 SIGN NUKTA;
2 DOUBLE DANDA;2 GAP FILLER;2 END OF TEXT MARK;@11950;2 DIGIT ZERO;3 ONE;3 TWO;3 THREE;3 FOUR;
3 FIVE;3 SIX;3 SEVEN;3 EIGHT;3 NINE;@119A0;0 NANDINAGARI LETTER A;2 AA;2 I;2 II;2 U;2 UU;
2 VOCALIC R;3 RR;@119AA;2 E;2 AI;2 O;2 AU;2 KA;2 KHA;2 GA;2 GHA;2 NGA;2 CA;2 CHA;2 JA;2 JHA;2 NYA;
2 TTA;2 TTHA;2 DDA;2 DDHA;2 NNA;2 TA;2 THA;2 DA;2 DHA;2 NA;2 PA;2 PHA;2 BA;2 BHA;2 MA;2 YA;2 RA;
2 LA;2 VA;2 SHA;2 SSA;2 SA;2 HA;2 LLA;2 RRA;1 VOWEL SIGN AA;3 I;3 II;3 U;3 UU;3 VOCALIC R;4 RR;
@119DA;3 E;3 AI;3 O;3 AU;1 SIGN ANUSVARA;2 VISARGA;2 VIRAMA;2 AVAGRAHA;2 SIDDHAM;1 HEADSTROKE;
1 VOWEL SIGN PRISHTHAMATRA E;@11A00;0 ZANABAZAR SQUARE LETTER A;2 VOWEL SIGN I;4 UE;4 U;4 E;4 OE;
4 O;4 AI;4 AU;4 REVERSED I;3 LENGTH MARK;2 LETTER KA;3 KHA;3 GA;3 GHA;3 NGA;3 CA;3 CHA;3 JA;3 NYA;
3 TTA;3 TTHA;3 DDA;3 DDHA;3 NNA;3 TA;3 THA;3 DA;3 DHA;3 NA;3 PA;3 PHA;3 BA;3 BHA;3 MA;3 TSA;
3 TSHA;3 DZA;3 DZHA;3 ZHA;3 ZA;3 -A;3 YA;3 RA;3 LA;3 VA;3 SHA;3 SSA;3 SA;3 HA;3 KSSA;
2 FINAL CONSONANT MARK;2 SIGN VIRAMA;3 CANDRABINDU;4 WITH ORNAMENT;3 CANDRA WITH ORNAMENT;
3 ANUSVARA;3 VISARGA;2 CLUSTER-INITIAL LETTER RA;2 CLUSTER-FINAL LETTER YA;4 RA;4 LA;4 VA;
2 INITIAL HEAD MARK;2 CLOSING HEAD MARK;2 MARK TSHEG;3 SHAD;3 DOUBLE SHAD;3 LONG TSHEG;
2 INITIAL DOUBLE-LINED HEAD MARK;2 CLOSING DOUBLE-LINED HEAD MARK;2 SUBJOINER;@11A50;
0 SOYOMBO LETTER A;1 VOWEL SIGN I;3 UE;3 U;3 E;3 O;3 OE;3 AI;3 AU;3 VOCALIC R;4 L;2 LENGTH MARK;
1 LETTER KA;2 KHA;2 GA;2 GHA;2 NGA;2 CA;2 CHA;2 JA;2 JHA;2 NYA;2 TTA;2 TTHA;2 DDA;2 DDHA;2 NNA;
2 TA;2 THA;2 DA;2 DHA;2 NA;2 PA;2 PHA;2 BA;2 BHA;2 MA;2 TSA;2 TSHA;2 DZA;2 ZHA;2 ZA;2 -A;2 YA;
2 RA;2 LA;2 VA;2 SHA;2 SSA;2 SA;2 HA;2 KSSA;1 SIGN JIHVAMULIYA;2 UPADHMANIYA;
1 CLUSTER-INITIAL LETTER RA;3 LA;3 SHA;3 SA;1 FINAL CONSONANT SIGN G;4 K;4 NG;4 D;4 N;4 B;4 M;4 R;
4 L;4 SH;4 S;4 -A;1 SIGN ANUSVARA;2 VISARGA;1 GEMINATION MARK;1 SUBJOINER;1 MARK TSHEG;2 SHAD;
2 DOUBLE SHAD;2 PLUTA;1 HEAD MARK WITH MOON AND SUN AND TRIPLE FLAME;8 FLAME;6 SUN;
1 TERMINAL MARK-1;2 MARK-2;@11AB0;0 CANADIAN SYLLABICS NATTILIK HI;3 HII;3 HO;3 HOO;3 HA;3 HAA;
3 SHRI;3 SHRII;3 SHRO;3 SHROO;3 SHRA;3 SHRAA;2 SPE;2 SPI;2 SPO;2 SPA;0 PAU CIN HAU LETTER PA;4 KA;
4 LA;4 MA;4 DA;4 ZA;4 VA;4 NGA;4 HA;4 GA;4 KHA;4 SA;4 BA;4 CA;4 TA;4 THA;4 NA;4 PHA;4 RA;4 FA;
4 CHA;4 A;4 E;4 I;4 O;4 U;4 UA;4 IA;4 FINAL P;5 K;5 T;5 M;5 N;5 L;5 W;5 NG;5 Y;3 RISING TONE LONG;
4 TONE;3 SANDHI GLOTTAL STOP;3 RISING TONE LONG FINAL;5 FINAL;3 SANDHI GLOTTAL STOP FINAL;
4 TONE LONG;4 TONE;5 LONG FINAL;5 FINAL;3 MID-LEVEL TONE;3 GLOTTAL STOP VARIANT;
3 MID-LEVEL TONE LONG FINAL;5 FINAL;3 LOW-FALLING TONE LONG;4 TONE;3 GLOTTAL STOP;
3 LOW-FALLING TONE LONG FINAL;5 FINAL;3 GLOTTAL STOP FINAL;@11C00;0 BHAIKSUKI LETTER A;2 AA;2 I;
2 II;2 U;2 UU;2 VOCALIC R;3 RR;3 L;@11C0A;2 E;2 AI;2 O;2 AU;2 KA;2 KHA;2 GA;2 GHA;2 NGA;2 CA;
2 CHA;2 JA;2 JHA;2 NYA;2 TTA;2 TTHA;2 DDA;2 DDHA;2 NNA;2 TA;2 THA;2 DA;2 DHA;2 NA;2 PA;2 PHA;2 BA;
2 BHA;2 MA;2 YA;2 RA;2 LA;2 VA;2 SHA;2 SSA;2 SA;2 HA;1 VOWEL SIGN AA;3 I;3 II;3 U;3 UU;
3 VOCALIC R;4 RR;4 L;@11C38;3 E;3 AI;3 O;3 AU;1 SIGN CANDRABINDU;2 ANUSVARA;2 VISARGA;2 VIRAMA;
2 AVAGRAHA;1 DANDA;1 DOUBLE DANDA;1 WORD SEPARATOR;1 GAP FILLER-1;2 FILLER-2;@11C50;1 DIGIT ZERO;
2 ONE;2 TWO;2 THREE;2 FOUR;2 FIVE;2 SIX;2 SEVEN;2 EIGHT;2 NINE;1 NUMBER ONE;2 TWO;2 THREE;2 FOUR;
2 FIVE;2 SIX;2 SEVEN;2 EIGHT;2 NINE;2 TEN;2 TWENTY;2 THIRTY;2 FORTY;2 FIFTY;2 SIXTY;2 SEVENTY;
2 EIGHTY;2 NINETY;1 HUNDREDS UNIT MARK;@11C70;0 MARCHEN HEAD MARK;1 MARK SHAD;1 LETTER KA;2 KHA;
2 GA;2 NGA;2 CA;2 CHA;2 JA;2 NYA;2 TA;2 THA;2 DA;2 NA;2 PA;2 PHA;2 BA;2 MA;2 TSA;2 TSHA;2 DZA;
2 WA;2 ZHA;2 ZA;2 -A;2 YA;2 RA;2 LA;2 SHA;2 SA;2 HA;2 A;@11C92;1 SUBJOINED LETTER KA;3 KHA;3 GA;
3 NGA;3 CA;3 CHA;3 JA;3 NYA;3 TA;3 THA;3 DA;3 NA;3 PA;3 PHA;3 BA;3 MA;3 TSA;3 TSHA;3 DZA;3 WA;
3 ZHA;3 ZA;@11CA9;3 YA;3 RA;3 LA;3 SHA;3 SA;3 HA;3 A;1 VOWEL SIGN AA;3 I;3 U;3 E;3 O;
1 SIGN ANUSVARA;2 CANDRABINDU;@11D00;0 MASARAM GONDI LETTER A;3 AA;3 I;3 II;3 U;3 UU;3 E;@11D08;
3 AI;3 O;@11D0B;3 AU;3 KA;3 KHA;3 GA;3 GHA;3 NGA;3 CA;3 CHA;3 JA;3 JHA;3 NYA;3 TTA;3 TTHA;3 DDA;
3 DDHA;3 NNA;3 TA;3 THA;3 DA;3 DHA;3 NA;3 PA;3 PHA;3 BA;3 BHA;3 MA;3 YA;3 RA;3 LA;3 VA;3 SHA;
3 SSA;3 SA;3 HA;3 LLA;3 KSSA;3 JNYA;3 TRA;2 VOWEL SIGN AA;4 I;4 II;4 U;4 UU;4 VOCALIC R;@11D3A;
4 E;@11D3C;4 AI;4 O;@11D3F;4 AU;2 SIGN ANUSVARA;3 VISARGA;3 NUKTA;3 CANDRA;3 HALANTA;2 VIRAMA;
2 REPHA;2 RA-KARA;@11D50;2 DIGIT ZERO;3 ONE;3 TWO;3 THREE;3 FOUR;3 FIVE;3 SIX;3 SEVEN;3 EIGHT;
3 NINE;@11D60;0 GUNJALA GONDI LETTER A;3 AA;3 I;3 II;3 U;3 UU;@11D67;3 EE;3 AI;@11D6A;3 OO;3 AU;
3 YA;3 VA;3 BA;3 BHA;3 MA;3 KA;3 KHA;3 TA;3 THA;3 LA;3 GA;3 GHA;3 DA;3 DHA;3 NA;3 CA;3 CHA;3 TTA;
3 TTHA;3 LLA;3 JA;3 JHA;3 DDA;3 DDHA;3 NGA;3 PA;3 PHA;3 HA;3 RA;3 SA;2 VOWEL SIGN AA;4 I;4 II;4 U;
4 UU;@11D90;4 EE;4 AI;@11D93;4 OO;4 AU;2 SIGN ANUSVARA;3 VISARGA;2 VIRAMA;2 OM;@11DA0;
2 DIGIT ZERO;3 ONE;3 TWO;3 THREE;3 FOUR;3 FIVE;3 SIX;3 SEVEN;3 EIGHT;3 NINE;@11EE0;
0 MAKASAR LETTER KA;2 GA;2 NGA;2 PA;2 BA;2 MA;2 TA;2 DA;2 NA;2 CA;2 JA;2 NYA;2 YA;2 RA;2 LA;2 VA;
2 SA;2 A;1 ANGKA;1 VOWEL SIGN I;3 U;3 E;3 O;1 PASSIMBANG;1 END OF SECTION;@11FB0;
0 LISU LETTER YHA;@11FC0;0 TAMIL FRACTION ONE THREE-HUNDRED-AND-TWENTIETH;
3 ONE-HUNDRED-AND-SIXTIETH;3 EIGHTIETH;3 SIXTY-FOURTH;3 FORTIETH;3 THIRTY-SECOND;
2 THREE EIGHTIETHS;3 SIXTY-FOURTHS;2 ONE TWENTIETH;3 SIXTEENTH-1;3 SIXTEENTH-2;3 TENTH;3 EIGHTH;
2 THREE TWENTIETHS;3 SIXTEENTHS;2 ONE FIFTH;3 QUARTER;3 HALF-1;3 HALF-2;2 THREE QUARTERS;
2 DOWNSCALING FACTOR KIIZH;1 SIGN NEL;2 CEVITU;2 AAZHAAKKU;2 UZHAKKU;2 MUUVUZHAKKU;2 KURUNI;
2 PATHAKKU;2 MUKKURUNI;2 KAACU;2 PANAM;2 PON;2 VARAAKAN;2 PAARAM;2 KUZHI;2 VELI;
1 WET CULTIVATION SIGN;1 DRY CULTIVATION SIGN;1 LAND SIGN;1 SALT PAN SIGN;
1 TRADITIONAL CREDIT SIGN;2 NUMBER SIGN;1 CURRENT SIGN;1 AND ODD SIGN;1 SPENT SIGN;1 TOTAL SIGN;
1 IN POSSESSION SIGN;1 STARTING FROM SIGN;1 SIGN MUTHALIYA;2 VAKAIYARAA;@11FFF;
1 PUNCTUATION END OF TEXT;0 CUNEIFORM SIGN A;3 TIMES A;4 BAD;4 GAN2 TENU;4 HA;4 IGI;4 LAGAR GUNU;
4 MUSH;4 SAG;2 A2;2 AB;3 TIMES ASH2;4 DUN3 GUNU;4 GAL;4 GAN2 TENU;4 HA;4 IGI GUNU;4 IMIN;4 LAGAB;
4 SHESH;4 U PLUS U PLUS U;3 GUNU;2 AB2;3 TIMES BALAG;4 GAN2 TENU;4 ME PLUS EN;4 SHA3;4 TAK4;2 AD;
2 AK;3 TIMES ERIN2;4 SHITA PLUS GISH;2 AL;3 TIMES AL;4 DIM2;4 GISH;4 HA;4 KAD3;4 KI;4 SHE;4 USH;
2 ALAN;2 ALEPH;2 AMAR;3 TIMES SHE;2 AN;3 OVER AN;3 THREE TIMES;3 PLUS NAGA OPPOSING AN PLUS NAGA;
5 SQUARED;2 ANSHE;2 APIN;2 ARAD;3 TIMES KUR;2 ARKAB;2 ASAL2;2 ASH;3 ZIDA TENU;3 KABA TENU;
3 OVER ASH TUG2 OVER TUG2 TUG2 OVER TUG2 PAP;5 OVER ASH;7 CROSSING ASH OVER ASH OVER ASH;2 ASH2;
2 ASHGAB;2 BA;2 BAD;2 BAG3;2 BAHAR2;2 BAL;3 OVER BAL;2 BALAG;2 BAR;2 BARA2;2 BI;3 TIMES A;4 GAR;
4 IGI GUNU;2 BU;3 OVER BU AB;5 UN;3 CROSSING BU;2 BULUG;3 OVER BULUG;2 BUR;2 BUR2;2 DA;2 DAG;
3 KISIM5 TIMES A PLUS MASH;5 AMAR;5 BALAG;5 BI;5 GA;6 PLUS MASH;5 GI;5 GIR2;5 GUD;5 HA;5 IR;
6 PLUS LU;5 KAK;5 LA;5 LU;6 PLUS MASH2;5 LUM;5 NE;5 PAP PLUS PAP;5 SI;5 TAK4;5 U2 PLUS GIR2;5 USH;
2 DAM;2 DAR;2 DARA3;2 DARA4;2 DI;2 DIB;2 DIM;3 TIMES SHE;2 DIM2;2 DIN;3 KASKAL U GUNU DISH;2 DISH;
2 DU;3 OVER DU;3 GUNU;3 SHESHIG;2 DUB;3 TIMES ESH2;2 DUB2;2 DUG;2 DUGUD;2 DUH;2 DUN;2 DUN3;3 GUNU;
4 GUNU;2 DUN4;2 DUR2;2 E;3 TIMES PAP;3 OVER E NUN OVER NUN;2 E2;3 TIMES A PLUS HA PLUS DA;4 GAR;
4 MI;4 SAL;4 SHE;4 U;2 EDIN;2 EGIR;2 EL;2 EN;3 TIMES GAN2;5 TENU;4 ME;3 CROSSING EN;3 OPPOSING EN;
3 SQUARED;2 EREN;2 ERIN2;2 ESH2;2 EZEN;3 TIMES A;5 PLUS LAL;7 TIMES LAL;4 AN;4 BAD;4 DUN3 GUNU;
6 GUNU;4 HA;5 GUNU;4 IGI GUNU;4 KASKAL;5 SQUARED;4 KU3;4 LA;4 LAL TIMES LAL;4 LI;4 LU;4 U2;4 UD;
2 GA;3 GUNU;2 GA2;3 TIMES A PLUS DA PLUS HA;6 HA;6 IGI;4 AB2 TENU PLUS TAB;4 AN;4 ASH;
4 ASH2 PLUS GAL;4 BAD;4 BAR PLUS RA;4 BUR;5 PLUS RA;4 DA;4 DI;4 DIM TIMES SHE;4 DUB;4 EL;
5 PLUS LA;4 EN;5 TIMES GAN2 TENU;4 GAN2 TENU;4 GAR;4 GI;4 GI4;5 PLUS A;4 GIR2 PLUS SU;
4 HA PLUS LU PLUS ESH2;4 HAL;5 PLUS LA;4 HI PLUS LI;4 HUB2;4 IGI GUNU;4 ISH PLUS HU PLUS ASH;
4 KAK;4 KASKAL;4 KID;5 PLUS LAL;4 KU3 PLUS AN;4 LA;4 ME PLUS EN;4 MI;4 NUN;5 OVER NUN;4 PA;4 SAL;
4 SAR;4 SHE;5 PLUS TUR;4 SHID;4 SUM;4 TAK4;4 U;4 UD;5 PLUS DU;3 OVER GA2;2 GABA;3 CROSSING GABA;
2 GAD;3 OVER GAD GAR OVER GAR;2 GAL;3 GAD OVER GAD GAR OVER GAR;2 GALAM;2 GAM;2 GAN;2 GAN2;3 TENU;
3 OVER GAN2;3 CROSSING GAN2;2 GAR;2 GAR3;2 GASHAN;2 GESHTIN;3 TIMES KUR;2 GI;3 TIMES E;4 U;
3 CROSSING GI;2 GI4;3 OVER GI4;3 CROSSING GI4;2 GIDIM;2 GIR2;3 GUNU;2 GIR3;3 TIMES A PLUS IGI;
4 GAN2 TENU;4 IGI;4 LU PLUS IGI;4 PA;2 GISAL;2 GISH;3 CROSSING GISH;3 TIMES BAD;4 TAK4;3 TENU;
2 GU;3 CROSSING GU;2 GU2;3 TIMES KAK;5 TIMES IGI GUNU;4 NUN;4 SAL PLUS TUG2;3 GUNU;2 GUD;
3 TIMES A PLUS KUR;4 KUR;3 OVER GUD LUGAL;2 GUL;2 GUM;3 TIMES SHE;2 GUR;2 GUR7;2 GURUN;2 GURUSH;
2 HA;3 TENU;3 GUNU;2 HAL;2 HI;3 TIMES ASH;4 ASH2;4 BAD;4 DISH;4 GAD;4 KIN;4 NUN;4 SHE;4 U;2 HU;
2 HUB2;3 TIMES AN;4 HAL;4 KASKAL;4 LISH;4 UD;2 HUL2;2 I;3 A;2 IB;2 IDIM;3 OVER IDIM BUR;5 SQUARED;
2 IG;2 IGI;3 DIB;3 RI;3 OVER IGI SHIR OVER SHIR UD OVER UD;3 GUNU;2 IL;3 TIMES GAN2 TENU;2 IL2;
2 IM;3 TIMES TAK4;3 CROSSING IM;3 OPPOSING IM;3 SQUARED;2 IMIN;2 IN;2 IR;2 ISH;2 KA;3 TIMES A;
4 AD;5 PLUS KU3;4 ASH2;4 BAD;4 BALAG;4 BAR;4 BI;4 ERIN2;4 ESH2;4 GA;4 GAL;4 GAN2 TENU;4 GAR;
5 PLUS SHA3 PLUS A;4 GI;4 GIR2;4 GISH PLUS SAR;5 CROSSING GISH;4 GU;4 GUR7;4 IGI;4 IM;4 KAK;4 KI;
4 KID;4 LI;4 LU;4 ME;5 PLUS DU;6 GI;6 TE;4 MI;5 PLUS NUNUZ;4 NE;4 NUN;4 PI;4 RU;4 SA;4 SAR;4 SHA;
4 SHE;4 SHID;4 SHU;4 SIG;4 SUHUR;4 TAR;4 U;4 U2;4 UD;4 UMUM TIMES PA;4 USH;4 ZI;2 KA2;
3 CROSSING KA2;2 KAB;2 KAD2;2 KAD3;2 KAD4;2 KAD5;3 OVER KAD5;2 KAK;3 TIMES IGI GUNU;2 KAL;
3 TIMES BAD;3 CROSSING KAL;2 KAM2;2 KAM4;2 KASKAL;3 LAGAB TIMES U OVER LAGAB TIMES U;
3 OVER KASKAL LAGAB TIMES U OVER LAGAB TIMES U;2 KESH2;2 KI;3 TIMES BAD;4 U;4 UD;2 KID;2 KIN;
2 KISAL;2 KISH;2 KISIM5;3 OVER KISIM5;2 KU;3 OVER HI TIMES ASH2 KU OVER HI TIMES ASH2;2 KU3;2 KU4;
3 VARIANT FORM;2 KU7;2 KUL;3 GUNU;2 KUN;2 KUR;3 OPPOSING KUR;2 KUSHU2;2 KWU318;2 LA;2 LAGAB;
3 TIMES A;5 PLUS DA PLUS HA;6 GAR;6 LAL;4 AL;4 AN;4 ASH ZIDA TENU;4 BAD;4 BI;4 DAR;4 EN;4 GA;
4 GAR;4 GUD;5 PLUS GUD;4 HA;4 HAL;4 HI TIMES NUN;4 IGI GUNU;4 IM;5 PLUS HA;6 LU;4 KI;4 KIN;4 KU3;
4 KUL;5 PLUS HI PLUS A;4 LAGAB;4 LISH;4 LU;4 LUL;4 ME;5 PLUS EN;4 MUSH;4 NE;4 SHE PLUS SUM;
4 SHITA PLUS GISH PLUS ERIN2;7 TENU;4 SHU2;5 PLUS SHU2;4 SUM;4 TAG;4 TAK4;
4 TE PLUS A PLUS SU PLUS NA;4 U;5 PLUS A;6 U PLUS U;4 U2 PLUS ASH;4 UD;4 USH;3 SQUARED;2 LAGAR;
3 TIMES SHE;5 PLUS SUM;3 GUNU;4 OVER LAGAR GUNU SHE;2 LAHSHU;2 LAL;3 TIMES LAL;2 LAM;3 TIMES KUR;
5 PLUS RU;2 LI;2 LIL;2 LIMMU2;2 LISH;2 LU;3 TIMES BAD;2 LU2;3 TIMES AL;4 BAD;4 ESH2;5 TENU;
4 GAN2 TENU;4 HI TIMES BAD;4 IM;4 KAD2;4 KAD3;5 PLUS ASH;4 KI;4 LA PLUS ASH;4 LAGAB;4 ME PLUS EN;
4 NE;4 NU;4 SI PLUS ASH;4 SIK2 PLUS BU;4 TUG2;3 TENU;3 CROSSING LU2;3 OPPOSING LU2;3 SQUARED;
3 SHESHIG;2 LU3;2 LUGAL;3 OVER LUGAL;3 OPPOSING LUGAL;3 SHESHIG;2 LUH;2 LUL;2 LUM;3 OVER LUM;
5 GAR OVER GAR;2 MA;3 TIMES TAK4;3 GUNU;2 MA2;2 MAH;2 MAR;2 MASH;2 MASH2;2 ME;2 MES;2 MI;2 MIN;
2 MU;3 OVER MU;2 MUG;3 GUNU;2 MUNSUB;2 MURGU2;2 MUSH;3 TIMES A;4 KUR;4 ZA;3 OVER MUSH;
5 TIMES A PLUS NA;3 CROSSING MUSH;2 MUSH3;3 TIMES A;5 PLUS DI;4 DI;3 GUNU;2 NA;2 NA2;2 NAGA;
3 INVERTED;3 TIMES SHU TENU;3 OPPOSING NAGA;2 NAGAR;2 NAM NUTILLU;2 NAM;2 NAM2;2 NE;3 TIMES A;
4 UD;3 SHESHIG;2 NI;3 TIMES E;2 NI2;2 NIM;3 TIMES GAN2 TENU;4 GAR PLUS GAN2 TENU;2 NINDA2;
3 TIMES AN;4 ASH;5 PLUS ASH;4 GUD;4 ME PLUS GAN2 TENU;4 NE;4 NUN;4 SHE;5 PLUS A AN;6 ASH;
7 PLUS ASH;4 U2 PLUS ASH;4 USH;2 NISAG;2 NU;2 NU11;2 NUN;3 LAGAR TIMES GAR;5 MASH;5 SAL;
6 OVER NUN LAGAR TIMES SAL;5 USH;3 TENU;3 OVER NUN;3 CROSSING NUN;5 LAGAR OVER LAGAR;2 NUNUZ;
3 AB2 TIMES ASHGAB;5 BI;5 DUG;5 GUD;5 IGI GUNU;5 KAD3;5 LA;5 NE;5 SILA3;5 U2;3 KISIM5 TIMES BI;
6 U;2 PA;2 PAD;2 PAN;2 PAP;2 PESH2;2 PI;3 TIMES A;4 AB;4 BI;4 BU;4 E;4 I;4 IB;4 U;4 U2;
3 CROSSING PI;2 PIRIG;3 TIMES KAL;4 UD;4 ZA;3 OPPOSING PIRIG;2 RA;2 RAB;2 RI;2 RU;2 SA;
2 SAG NUTILLU;2 SAG;3 TIMES A;4 DU;4 DUB;4 HA;4 KAK;4 KUR;4 LUM;4 MI;4 NUN;4 SAL;4 SHID;4 TAB;
4 U2;4 UB;4 UM;4 UR;4 USH;3 OVER SAG;3 GUNU;2 SAL;3 LAGAB TIMES ASH2;2 SANGA2;2 SAR;2 SHA;2 SHA3;
3 TIMES A;4 BAD;4 GISH;4 NE;4 SHU2;4 TUR;4 U;5 PLUS A;2 SHA6;2 SHAB6;2 SHAR2;2 SHE;3 HU;
3 OVER SHE GAD OVER GAD GAR OVER GAR;5 TAB OVER TAB GAR OVER GAR;2 SHEG9;2 SHEN;2 SHESH;2 SHESH2;
2 SHESHLAM;2 SHID;3 TIMES A;4 IM;2 SHIM;3 TIMES A;4 BAL;4 BULUG;4 DIN;4 GAR;4 IGI;5 GUNU;4 KUSHU2;
4 LUL;4 MUG;4 SAL;2 SHINIG;2 SHIR;3 TENU;3 OVER SHIR BUR OVER BUR;2 SHITA;2 SHU;
3 OVER INVERTED SHU;2 SHU2;2 SHUBUR;2 SI;3 GUNU;2 SIG;2 SIG4;3 OVER SIG4 SHU2;2 SIK2;2 SILA3;2 SU;
3 OVER SU;2 SUD;2 SUD2;2 SUHUR;2 SUM;2 SUMASH;2 SUR;2 SUR9;2 TA;3 ASTERISK;3 TIMES HI;4 MI;3 GUNU;
2 TAB;3 OVER TAB NI OVER NI DISH OVER DISH;3 SQUARED;2 TAG;3 TIMES BI;4 GUD;4 SHE;4 SHU;4 TUG2;
4 UD;2 TAK4;2 TAR;2 TE;3 GUNU;2 TI;3 TENU;2 TIL;2 TIR;3 TIMES TAK4;3 OVER TIR;
5 GAD OVER GAD GAR OVER GAR;2 TU;2 TUG2;2 TUK;2 TUM;2 TUR;3 OVER TUR ZA OVER ZA;2 U;3 GUD;3 U U;
3 OVER U PA OVER PA GAR OVER GAR;5 SUR OVER SUR;5 U REVERSED OVER U REVERSED;2 U2;2 UB;2 UD;
3 KUSHU2;3 TIMES BAD;4 MI;4 U PLUS U PLUS U;9 GUNU;3 GUNU;3 SHESHIG;4 TIMES BAD;2 UDUG;2 UM;
3 TIMES LAGAB;4 ME PLUS DA;4 SHA3;4 U;2 UMBIN;2 UMUM;3 TIMES KASKAL;4 PA;2 UN;3 GUNU;2 UR;
3 CROSSING UR;3 SHESHIG;2 UR2;3 TIMES A PLUS HA;6 NA;4 AL;4 HA;4 NUN;4 U2;5 PLUS ASH;6 BI;2 UR4;
2 URI;2 URI3;2 URU;3 TIMES A;4 ASHGAB;4 BAR;4 DUN;4 GA;4 GAL;4 GAN2 TENU;4 GAR;4 GU;4 HA;4 IGI;
4 IM;4 ISH;4 KI;4 LUM;4 MIN;4 PA;4 SHE;4 SIG4;4 TU;4 U PLUS GUD;4 UD;4 URUDA;2 URUDA;3 TIMES U;
2 USH;3 TIMES A;4 KU;4 KUR;4 TAK4;2 USHX;2 USH2;2 USHUMX;2 UTUKI;2 UZ3;3 TIMES KASKAL;2 UZU;2 ZA;
3 TENU;3 SQUARED TIMES KUR;2 ZAG;2 ZAMX;2 ZE2;2 ZI;3 OVER ZI;2 ZI3;2 ZIB;3 KABA TENU;2 ZIG;2 ZIZ2;
2 ZU;2 ZU5;3 TIMES A;2 ZUBUR;2 ZUM;2 KAP ELAMITE;2 AB TIMES NUN;2 AB2 TIMES A;2 AMAR TIMES KUG;
2 DAG KISIM5 TIMES U2 PLUS MASH;2 DAG3;2 DISH PLUS SHU;2 DUB TIMES SHE;2 EZEN TIMES GUD;4 SHE;
2 GA2 TIMES AN PLUS KAK PLUS A;4 ASH2;2 GE22;2 GIG;2 HUSH;2 KA TIMES ANSHE;4 ASH3;4 GISH;4 GUD;
4 HI TIMES ASH2;4 LUM;4 PA;4 SHUL;4 TU;4 UR2;2 LAGAB TIMES GI;2 LU2 SHESHIG TIMES BAD;
3 TIMES ESH2 PLUS LAL;4 SHU;2 MESH;2 MUSH3 TIMES ZA;2 NA4;2 NIN;2 NIN9;2 NINDA2 TIMES BAL;4 GI;
2 NU11 ROTATED NINETY DEGREES;2 PESH2 ASTERISK;2 PIR2;2 SAG TIMES IGI GUNU;2 TI2;2 UM TIMES ME;
2 U U;@12400;1 NUMERIC SIGN TWO ASH;3 THREE ASH;3 FOUR ASH;3 FIVE ASH;3 SIX ASH;3 SEVEN ASH;
3 EIGHT ASH;3 NINE ASH;3 THREE DISH;3 FOUR DISH;3 FIVE DISH;3 SIX DISH;3 SEVEN DISH;3 EIGHT DISH;
3 NINE DISH;3 FOUR U;3 FIVE U;3 SIX U;3 SEVEN U;3 EIGHT U;3 NINE U;3 ONE GESH2;3 TWO GESH2;
3 THREE GESH2;3 FOUR GESH2;3 FIVE GESH2;3 SIX GESH2;3 SEVEN GESH2;3 EIGHT GESH2;3 NINE GESH2;
3 ONE GESHU;3 TWO GESHU;3 THREE GESHU;3 FOUR GESHU;3 FIVE GESHU;3 TWO SHAR2;3 THREE SHAR2;
5 VARIANT FORM;3 FOUR SHAR2;3 FIVE SHAR2;3 SIX SHAR2;3 SEVEN SHAR2;3 EIGHT SHAR2;3 NINE SHAR2;
3 ONE SHARU;3 TWO SHARU;3 THREE SHARU;5 VARIANT FORM;3 FOUR SHARU;3 FIVE SHARU;
3 SHAR2 TIMES GAL PLUS DISH;7 MIN;3 ONE BURU;3 TWO BURU;3 THREE BURU;5 VARIANT FORM;3 FOUR BURU;
3 FIVE BURU;3 THREE VARIANT FORM ESH16;6 ESH21;3 FOUR VARIANT FORM LIMMU;6 LIMMU4;6 LIMMU A;7 B;
3 SIX VARIANT FORM ASH9;3 SEVEN VARIANT FORM IMIN3;6 IMIN A;7 B;3 EIGHT VARIANT FORM USSU;6 USSU3;
3 NINE VARIANT FORM ILIMMU;6 ILIMMU3;6 ILIMMU4;6 ILIMMU A;3 TWO ASH TENU;3 THREE ASH TENU;
3 FOUR ASH TENU;3 FIVE ASH TENU;3 SIX ASH TENU;3 ONE BAN2;3 TWO BAN2;3 THREE BAN2;3 FOUR BAN2;
5 VARIANT FORM;3 FIVE BAN2;5 VARIANT FORM;3 NIGIDAMIN;3 NIGIDAESH;3 ONE ESHE3;3 TWO ESHE3;
3 ONE THIRD DISH;3 TWO THIRDS DISH;3 FIVE SIXTHS DISH;3 ONE THIRD VARIANT FORM A;
3 TWO THIRDS VARIANT FORM A;3 ONE EIGHTH ASH;4 QUARTER ASH;3 OLD ASSYRIAN ONE SIXTH;6 QUARTER;
3 ONE QUARTER GUR;4 HALF GUR;3 ELAMITE ONE THIRD;4 TWO THIRDS;4 FORTY;4 FIFTY;
3 FOUR U VARIANT FORM;3 FIVE U VARIANT FORM;3 SIX U VARIANT FORM;3 SEVEN U VARIANT FORM;
3 EIGHT U VARIANT FORM;3 NINE U VARIANT FORM;@12470;1 PUNCTUATION SIGN OLD ASSYRIAN WORD DIVIDER;
3 VERTICAL COLON;3 DIAGONAL COLON;4 TRICOLON;4 QUADCOLON;@12480;1 SIGN AB TIMES NUN TENU;4 SHU2;
2 AD TIMES ESH2;2 BAD TIMES DISH TENU;2 BAHAR2 TIMES AB2;4 NI;4 ZA;2 BU OVER BU TIMES NA2;
2 DA TIMES TAK4;2 DAG TIMES KUR;2 DIM TIMES IGI;4 U U U;2 DIM2 TIMES UD;2 DUG TIMES ANSHE;4 ASH;
5 AT LEFT;4 DIN;4 DUN;4 ERIN2;4 GA;4 GI;4 GIR2 GUNU;4 GISH;4 HA;4 HI;4 IGI GUNU;4 KASKAL;4 KUR;
4 KUSHU2;5 PLUS KASKAL;4 LAK-020;4 LAM;5 TIMES KUR;4 LUH PLUS GISH;4 MASH;4 MES;4 MI;4 NI;4 PI;
4 SHE;4 SI GUNU;2 E2 TIMES KUR;4 PAP;2 ERIN2 X;2 ESH2 CROSSING ESH2;2 EZEN SHESHIG TIMES ASH;5 HI;
5 IGI GUNU;5 LA;5 LAL;5 ME;5 MES;5 SU;3 TIMES SU;2 GA2 TIMES BAHAR2;4 DIM GUNU;
4 DUG TIMES IGI GUNU;6 KASKAL;4 EREN;4 GA;4 GAR PLUS DI;6 NE;4 HA PLUS A;4 KUSHU2 PLUS KASKAL;
4 LAM;5 TIMES KUR;4 LUH;4 MUSH;4 NE;5 PLUS E2;6 GI;4 SHIM;4 ZIZ2;2 GABA ROTATED NINETY DEGREES;
2 GESHTIN TIMES U;2 GISH TIMES GISH CROSSING GISH;2 GU2 TIMES IGI GUNU;2 GUD PLUS GISH TIMES TAK4;
2 HA TENU GUNU;2 HI TIMES ASH OVER HI TIMES ASH;2 KA TIMES BU;4 KA;4 U U U;4 UR;
2 LAGAB TIMES ZU OVER ZU;2 LAK-003;2 LAK-021;2 LAK-025;2 LAK-030;2 LAK-050;2 LAK-051;2 LAK-062;
2 LAK-079 OVER LAK-079 GUNU;2 LAK-080;2 LAK-081 OVER LAK-081;2 LAK-092;2 LAK-130;2 LAK-142;
2 LAK-210;2 LAK-219;2 LAK-220;2 LAK-225;2 LAK-228;2 LAK-238;2 LAK-265;2 LAK-266;2 LAK-343;
2 LAK-347;2 LAK-348;2 LAK-383;2 LAK-384;2 LAK-390;2 LAK-441;2 LAK-449;3 TIMES GU;4 IGI;
4 PAP PLUS LU3;6 PAP PLUS LU3;4 U2 PLUS BA;2 LAK-450;2 LAK-457;2 LAK-470;2 LAK-483;2 LAK-490;
2 LAK-492;2 LAK-493;2 LAK-495;2 LAK-550;2 LAK-608;2 LAK-617;3 TIMES ASH;4 BAD;4 DUN3 GUNU GUNU;
4 KU3;4 LA;4 TAR;4 TE;4 U2;4 UD;4 URUDA;2 LAK-636;2 LAK-648;3 TIMES DUB;4 GA;4 IGI;5 GUNU;4 NI;
4 PAP PLUS PAP PLUS LU3;4 SHESH PLUS KI;4 UD;4 URUDA;2 LAK-724;2 LAK-749;2 LU2 GUNU TIMES ASH;
3 TIMES DISH;4 HAL;4 PAP;5 PLUS PAP PLUS LU3;4 TAK4;2 MI PLUS ZA7;2 MUSH OVER MUSH TIMES GA;6 KAK;
2 NINDA2 TIMES DIM GUNU;4 GISH;4 GUL;4 HI;4 KESH2;4 LAK-050;4 MASH;4 PAP PLUS PAP;4 U;5 PLUS U;
4 URUDA;2 SAG GUNU TIMES HA;3 TIMES EN;4 SHE AT LEFT;4 TAK4;2 SHA6 TENU;2 SHE OVER SHE;
3 PLUS HUB2;4 NAM2;4 SAR;2 SHU2 PLUS DUG TIMES NI;4 E2 TIMES AN;2 SI TIMES TAK4;2 TAK4 PLUS SAG;
2 TUM TIMES GAN2 TENU;4 THREE DISH;2 UR2 INVERTED;3 TIMES UD;2 URU TIMES DARA3;4 LAK-668;4 LU3;
2 ZA7;2 ZU OVER ZU PLUS SAR;2 ZU5 TIMES THREE DISH TENU;@12F90;0 CYPRO-MINOAN SIGN CM001;2 CM002;
2 CM004;2 CM005;2 CM006;2 CM007;2 CM008;2 CM009;2 CM010;2 CM011;2 CM012;2 CM012B;2 CM013;2 CM015;
2 CM017;2 CM019;2 CM021;2 CM023;2 CM024;2 CM025;2 CM026;2 CM027;2 CM028;2 CM029;2 CM030;2 CM033;
2 CM034;2 CM035;2 CM036;2 CM037;2 CM038;2 CM039;2 CM040;2 CM041;2 CM044;2 CM046;2 CM047;2 CM049;
2 CM050;2 CM051;2 CM052;2 CM053;2 CM054;2 CM055;2 CM056;2 CM058;2 CM059;2 CM060;2 CM061;2 CM062;
2 CM063;2 CM064;2 CM066;2 CM067;2 CM068;2 CM069;2 CM070;2 CM071;2 CM072;2 CM073;2 CM074;2 CM075;
2 CM075B;2 CM076;2 CM078;2 CM079;2 CM080;2 CM081;2 CM082;2 CM083;2 CM084;2 CM085;2 CM086;2 CM087;
2 CM088;2 CM089;2 CM090;2 CM091;2 CM092;2 CM094;2 CM095;2 CM096;2 CM097;2 CM098;2 CM099;2 CM100;
2 CM101;2 CM102;2 CM103;2 CM104;2 CM105;2 CM107;2 CM108;2 CM109;2 CM110;2 CM112;2 CM114;2 CM301;
2 CM302;@13000;0 EGYPTIAN HIEROGLYPH A001;2 A002;2 A003;2 A004;2 A005;2 A005A;2 A006;2 A006A;
2 A006B;2 A007;2 A008;2 A009;2 A010;2 A011;2 A012;2 A013;2 A014;2 A014A;2 A015;2 A016;2 A017;
2 A017A;2 A018;2 A019;2 A020;2 A021;2 A022;2 A023;2 A024;2 A025;2 A026;2 A027;2 A028;2 A029;
2 A030;2 A031;2 A032;2 A032A;2 A033;2 A034;2 A035;2 A036;2 A037;2 A038;2 A039;2 A040;2 A040A;
2 A041;2 A042;2 A042A;2 A043;2 A043A;2 A044;2 A045;2 A045A;2 A046;2 A047;2 A048;2 A049;2 A050;
2 A051;2 A052;2 A053;2 A054;2 A055;2 A056;2 A057;2 A058;2 A059;2 A060;2 A061;2 A062;2 A063;2 A064;
2 A065;2 A066;2 A067;2 A068;2 A069;2 A070;2 B001;2 B002;2 B003;2 B004;2 B005;2 B005A;2 B006;
2 B007;2 B008;2 B009;2 C001;2 C002;2 C002A;2 C002B;2 C002C;2 C003;2 C004;2 C005;2 C006;2 C007;
2 C008;2 C009;2 C010;2 C010A;2 C011;2 C012;2 C013;2 C014;2 C015;2 C016;2 C017;2 C018;2 C019;
2 C020;2 C021;2 C022;2 C023;2 C024;2 D001;2 D002;2 D003;2 D004;2 D005;2 D006;2 D007;2 D008;
2 D008A;2 D009;2 D010;2 D011;2 D012;2 D013;2 D014;2 D015;2 D016;2 D017;2 D018;2 D019;2 D020;
2 D021;2 D022;2 D023;2 D024;2 D025;2 D026;2 D027;2 D027A;2 D028;2 D029;2 D030;2 D031;2 D031A;
2 D032;2 D033;2 D034;2 D034A;2 D035;2 D036;2 D037;2 D038;2 D039;2 D040;2 D041;2 D042;2 D043;
2 D044;2 D045;2 D046;2 D046A;2 D047;2 D048;2 D048A;2 D049;2 D050;2 D050A;2 D050B;2 D050C;2 D050D;
2 D050E;2 D050F;2 D050G;2 D050H;2 D050I;2 D051;2 D052;2 D052A;2 D053;2 D054;2 D054A;2 D055;2 D056;
2 D057;2 D058;2 D059;2 D060;2 D061;2 D062;2 D063;2 D064;2 D065;2 D066;2 D067;2 D067A;2 D067B;
2 D067C;2 D067D;2 D067E;2 D067F;2 D067G;2 D067H;2 E001;2 E002;2 E003;2 E004;2 E005;2 E006;2 E007;
2 E008;2 E008A;2 E009;2 E009A;2 E010;2 E011;2 E012;2 E013;2 E014;2 E015;2 E016;2 E016A;2 E017;
2 E017A;2 E018;2 E019;2 E020;2 E020A;2 E021;2 E022;2 E023;2 E024;2 E025;2 E026;2 E027;2 E028;
2 E028A;2 E029;2 E030;2 E031;2 E032;2 E033;2 E034;2 E034A;2 E036;2 E037;2 E038;2 F001;2 F001A;
2 F002;2 F003;2 F004;2 F005;2 F006;2 F007;2 F008;2 F009;2 F010;2 F011;2 F012;2 F013;2 F013A;
2 F014;2 F015;2 F016;2 F017;2 F018;2 F019;2 F020;2 F021;2 F021A;2 F022;2 F023;2 F024;2 F025;
2 F026;2 F027;2 F028;2 F029;2 F030;2 F031;2 F031A;2 F032;2 F033;2 F034;2 F035;2 F036;2 F037;
2 F037A;2 F038;2 F038A;2 F039;2 F040;2 F041;2 F042;2 F043;2 F044;2 F045;2 F045A;2 F046;2 F046A;
2 F047;2 F047A;2 F048;2 F049;2 F050;2 F051;2 F051A;2 F051B;2 F051C;2 F052;2 F053;2 G001;2 G002;
2 G003;2 G004;2 G005;2 G006;2 G006A;2 G007;2 G007A;2 G007B;2 G008;2 G009;2 G010;2 G011;2 G011A;
2 G012;2 G013;2 G014;2 G015;2 G016;2 G017;2 G018;2 G019;2 G020;2 G020A;2 G021;2 G022;2 G023;
2 G024;2 G025;2 G026;2 G026A;2 G027;2 G028;2 G029;2 G030;2 G031;2 G032;2 G033;2 G034;2 G035;
2 G036;2 G036A;2 G037;2 G037A;2 G038;2 G039;2 G040;2 G041;2 G042;2 G043;2 G043A;2 G044;2 G045;
2 G045A;2 G046;2 G047;2 G048;2 G049;2 G050;2 G051;2 G052;2 G053;2 G054;2 H001;2 H002;2 H003;
2 H004;2 H005;2 H006;2 H006A;2 H007;2 H008;2 I001;2 I002;2 I003;2 I004;2 I005;2 I005A;2 I006;
2 I007;2 I008;2 I009;2 I009A;2 I010;2 I010A;2 I011;2 I011A;2 I012;2 I013;2 I014;2 I015;2 K001;
2 K002;2 K003;2 K004;2 K005;2 K006;2 K007;2 K008;2 L001;2 L002;2 L002A;2 L003;2 L004;2 L005;
2 L006;2 L006A;2 L007;2 L008;2 M001;2 M001A;2 M001B;2 M002;2 M003;2 M003A;2 M004;2 M005;2 M006;
2 M007;2 M008;2 M009;2 M010;2 M010A;2 M011;2 M012;2 M012A;2 M012B;2 M012C;2 M012D;2 M012E;2 M012F;
2 M012G;2 M012H;2 M013;2 M014;2 M015;2 M015A;2 M016;2 M016A;2 M017;2 M017A;2 M018;2 M019;2 M020;
2 M021;2 M022;2 M022A;2 M023;2 M024;2 M024A;2 M025;2 M026;2 M027;2 M028;2 M028A;2 M029;2 M030;
2 M031;2 M031A;2 M032;2 M033;2 M033A;2 M033B;2 M034;2 M035;2 M036;2 M037;2 M038;2 M039;2 M040;
2 M040A;2 M041;2 M042;2 M043;2 M044;2 N001;2 N002;2 N003;2 N004;2 N005;2 N006;2 N007;2 N008;
2 N009;2 N010;2 N011;2 N012;2 N013;2 N014;2 N015;2 N016;2 N017;2 N018;2 N018A;2 N018B;2 N019;
2 N020;2 N021;2 N022;2 N023;2 N024;2 N025;2 N025A;2 N026;2 N027;2 N028;2 N029;2 N030;2 N031;
2 N032;2 N033;2 N033A;2 N034;2 N034A;2 N035;2 N035A;2 N036;2 N037;2 N037A;2 N038;2 N039;2 N040;
2 N041;2 N042;2 NL001;2 NL002;2 NL003;2 NL004;2 NL005;2 NL005A;2 NL006;2 NL007;2 NL008;2 NL009;
2 NL010;2 NL011;2 NL012;2 NL013;2 NL014;2 NL015;2 NL016;2 NL017;2 NL017A;2 NL018;2 NL019;2 NL020;
2 NU001;2 NU002;2 NU003;2 NU004;2 NU005;2 NU006;2 NU007;2 NU008;2 NU009;2 NU010;2 NU010A;2 NU011;
2 NU011A;2 NU012;2 NU013;2 NU014;2 NU015;2 NU016;2 NU017;2 NU018;2 NU018A;2 NU019;2 NU020;2 NU021;
2 NU022;2 NU022A;2 O001;2 O001A;2 O002;2 O003;2 O004;2 O005;2 O005A;2 O006;2 O006A;2 O006B;
2 O006C;2 O006D;2 O006E;2 O006F;2 O007;2 O008;2 O009;2 O010;2 O010A;2 O010B;2 O010C;2 O011;2 O012;
2 O013;2 O014;2 O015;2 O016;2 O017;2 O018;2 O019;2 O019A;2 O020;2 O020A;2 O021;2 O022;2 O023;
2 O024;2 O024A;2 O025;2 O025A;2 O026;2 O027;2 O028;2 O029;2 O029A;2 O030;2 O030A;2 O031;2 O032;
2 O033;2 O033A;2 O034;2 O035;2 O036;2 O036A;2 O036B;2 O036C;2 O036D;2 O037;2 O038;2 O039;2 O040;
2 O041;2 O042;2 O043;2 O044;2 O045;2 O046;2 O047;2 O048;2 O049;2 O050;2 O050A;2 O050B;2 O051;
2 P001;2 P001A;2 P002;2 P003;2 P003A;2 P004;2 P005;2 P006;2 P007;2 P008;2 P009;2 P010;2 P011;
2 Q001;2 Q002;2 Q003;2 Q004;2 Q005;2 Q006;2 Q007;2 R001;2 R002;2 R002A;2 R003;2 R003A;2 R003B;
2 R004;2 R005;2 R006;2 R007;2 R008;2 R009;2 R010;2 R010A;2 R011;2 R012;2 R013;2 R014;2 R015;
2 R016;2 R016A;2 R017;2 R018;2 R019;2 R020;2 R021;2 R022;2 R023;2 R024;2 R025;2 R026;2 R027;
2 R028;2 R029;2 S001;2 S002;2 S002A;2 S003;2 S004;2 S005;2 S006;2 S006A;2 S007;2 S008;2 S009;
2 S010;2 S011;2 S012;2 S013;2 S014;2 S014A;2 S014B;2 S015;2 S016;2 S017;2 S017A;2 S018;2 S019;
2 S020;2 S021;2 S022;2 S023;2 S024;2 S025;2 S026;2 S026A;2 S026B;2 S027;2 S028;2 S029;2 S030;
2 S031;2 S032;2 S033;2 S034;2 S035;2 S035A;2 S036;2 S037;2 S038;2 S039;2 S040;2 S041;2 S042;
2 S043;2 S044;2 S045;2 S046;2 T001;2 T002;2 T003;2 T003A;2 T004;2 T005;2 T006;2 T007;2 T007A;
2 T008;2 T008A;2 T009;2 T009A;2 T010;2 T011;2 T011A;2 T012;2 T013;2 T014;2 T015;2 T016;2 T016A;
2 T017;2 T018;2 T019;2 T020;2 T021;2 T022;2 T023;2 T024;2 T025;2 T026;2 T027;2 T028;2 T029;2 T030;
2 T031;2 T032;2 T032A;2 T033;2 T033A;2 T034;2 T035;2 T036;2 U001;2 U002;2 U003;2 U004;2 U005;
2 U006;2 U006A;2 U006B;2 U007;2 U008;2 U009;2 U010;2 U011;2 U012;2 U013;2 U014;2 U015;2 U016;
2 U017;2 U018;2 U019;2 U020;2 U021;2 U022;2 U023;2 U023A;2 U024;2 U025;2 U026;2 U027;2 U028;
2 U029;2 U029A;2 U030;2 U031;2 U032;2 U032A;2 U033;2 U034;2 U035;2 U036;2 U037;2 U038;2 U039;
2 U040;2 U041;2 U042;2 V001;2 V001A;2 V001B;2 V001C;2 V001D;2 V001E;2 V001F;2 V001G;2 V001H;
2 V001I;2 V002;2 V002A;2 V003;2 V004;2 V005;2 V006;2 V007;2 V007A;2 V007B;2 V008;2 V009;2 V010;
2 V011;2 V011A;2 V011B;2 V011C;2 V012;2 V012A;2 V012B;2 V013;2 V014;2 V015;2 V016;2 V017;2 V018;
2 V019;2 V020;2 V020A;2 V020B;2 V020C;2 V020D;2 V020E;2 V020F;2 V020G;2 V020H;2 V020I;2 V020J;
2 V020K;2 V020L;2 V021;2 V022;2 V023;2 V023A;2 V024;2 V025;2 V026;2 V027;2 V028;2 V028A;2 V029;
2 V029A;2 V030;2 V030A;2 V031;2 V031A;2 V032;2 V033;2 V033A;2 V034;2 V035;2 V036;2 V037;2 V037A;
2 V038;2 V039;2 V040;2 V040A;2 W001;2 W002;2 W003;2 W003A;2 W004;2 W005;2 W006;2 W007;2 W008;
2 W009;2 W009A;2 W010;2 W010A;2 W011;2 W012;2 W013;2 W014;2 W014A;2 W015;2 W016;2 W017;2 W017A;
2 W018;2 W018A;2 W019;2 W020;2 W021;2 W022;2 W023;2 W024;2 W024A;2 W025;2 X001;2 X002;2 X003;
2 X004;2 X004A;2 X004B;2 X005;2 X006;2 X006A;2 X007;2 X008;2 X008A;2 Y001;2 Y001A;2 Y002;2 Y003;
2 Y004;2 Y005;2 Y006;2 Y007;2 Y008;2 Z001;2 Z002;2 Z002A;2 Z002B;2 Z002C;2 Z002D;2 Z003;2 Z003A;
2 Z003B;2 Z004;2 Z004A;2 Z005;2 Z005A;2 Z006;2 Z007;2 Z008;2 Z009;2 Z010;2 Z011;2 Z012;2 Z013;
2 Z014;2 Z015;2 Z015A;2 Z015B;2 Z015C;2 Z015D;2 Z015E;2 Z015F;2 Z015G;2 Z015H;2 Z015I;2 Z016;
2 Z016A;2 Z016B;2 Z016C;2 Z016D;2 Z016E;2 Z016F;2 Z016G;2 Z016H;2 AA001;2 AA002;2 AA003;2 AA004;
2 AA005;2 AA006;2 AA007;2 AA007A;2 AA007B;2 AA008;2 AA009;2 AA010;2 AA011;2 AA012;2 AA013;2 AA014;
2 AA015;2 AA016;2 AA017;2 AA018;2 AA019;2 AA020;2 AA021;2 AA022;2 AA023;2 AA024;2 AA025;2 AA026;
2 AA027;2 AA028;2 AA029;2 AA030;2 AA031;2 AA032;@13430;2 VERTICAL JOINER;2 HORIZONTAL JOINER;
2 INSERT AT TOP START;4 BOTTOM START;4 TOP END;4 BOTTOM END;2 OVERLAY MIDDLE;2 BEGIN SEGMENT;
2 END SEGMENT;@14400;0 ANATOLIAN HIEROGLYPH A001;2 A002;2 A003;2 A004;2 A005;2 A006;2 A007;2 A008;
2 A009;2 A010;2 A010A;2 A011;2 A012;2 A013;2 A014;2 A015;2 A016;2 A017;2 A018;2 A019;2 A020;
2 A021;2 A022;2 A023;2 A024;2 A025;2 A026;2 A026A;2 A027;2 A028;2 A029;2 A030;2 A031;2 A032;
2 A033;2 A034;2 A035;2 A036;2 A037;2 A038;2 A039;2 A039A;2 A040;2 A041;2 A041A;2 A042;2 A043;
2 A044;2 A045;2 A045A;2 A046;2 A046A;2 A046B;2 A047;2 A048;2 A049;2 A050;2 A051;2 A052;2 A053;
2 A054;2 A055;2 A056;2 A057;2 A058;2 A059;2 A060;2 A061;2 A062;2 A063;2 A064;2 A065;2 A066;
2 A066A;2 A066B;2 A066C;2 A067;2 A068;2 A069;2 A070;2 A071;2 A072;2 A073;2 A074;2 A075;2 A076;
2 A077;2 A078;2 A079;2 A080;2 A081;2 A082;2 A083;2 A084;2 A085;2 A086;2 A087;2 A088;2 A089;2 A090;
2 A091;2 A092;2 A093;2 A094;2 A095;2 A096;2 A097;2 A097A;2 A098;2 A098A;2 A099;2 A100;2 A100A;
2 A101;2 A101A;2 A102;2 A102A;2 A103;2 A104;2 A104A;2 A104B;2 A104C;2 A105;2 A105A;2 A105B;2 A106;
2 A107;2 A107A;2 A107B;2 A107C;2 A108;2 A109;2 A110;2 A110A;2 A110B;2 A111;2 A112;2 A113;2 A114;
2 A115;2 A115A;2 A116;2 A117;2 A118;2 A119;2 A120;2 A121;2 A122;2 A123;2 A124;2 A125;2 A125A;
2 A126;2 A127;2 A128;2 A129;2 A130;2 A131;2 A132;2 A133;2 A134;2 A135;2 A135A;2 A136;2 A137;
2 A138;2 A139;2 A140;2 A141;2 A142;2 A143;2 A144;2 A145;2 A146;2 A147;2 A148;2 A149;2 A150;2 A151;
2 A152;2 A153;2 A154;2 A155;2 A156;2 A157;2 A158;2 A159;2 A160;2 A161;2 A162;2 A163;2 A164;2 A165;
2 A166;2 A167;2 A168;2 A169;2 A170;2 A171;2 A172;2 A173;2 A174;2 A175;2 A176;2 A177;2 A178;2 A179;
2 A180;2 A181;2 A182;2 A183;2 A184;2 A185;2 A186;2 A187;2 A188;2 A189;2 A190;2 A191;2 A192;2 A193;
2 A194;2 A195;2 A196;2 A197;2 A198;2 A199;2 A200;2 A201;2 A202;2 A202A;2 A202B;2 A203;2 A204;
2 A205;2 A206;2 A207;2 A207A;2 A208;2 A209;2 A209A;2 A210;2 A211;2 A212;2 A213;2 A214;2 A215;
2 A215A;2 A216;2 A216A;2 A217;2 A218;2 A219;2 A220;2 A221;2 A222;2 A223;2 A224;2 A225;2 A226;
2 A227;2 A227A;2 A228;2 A229;2 A230;2 A231;2 A232;2 A233;2 A234;2 A235;2 A236;2 A237;2 A238;
2 A239;2 A240;2 A241;2 A242;2 A243;2 A244;2 A245;2 A246;2 A247;2 A248;2 A249;2 A250;2 A251;2 A252;
2 A253;2 A254;2 A255;2 A256;2 A257;2 A258;2 A259;2 A260;2 A261;2 A262;2 A263;2 A264;2 A265;2 A266;
2 A267;2 A267A;2 A268;2 A269;2 A270;2 A271;2 A272;2 A273;2 A274;2 A275;2 A276;2 A277;2 A278;
2 A279;2 A280;2 A281;2 A282;2 A283;2 A284;2 A285;2 A286;2 A287;2 A288;2 A289;2 A289A;2 A290;
2 A291;2 A292;2 A293;2 A294;2 A294A;2 A295;2 A296;2 A297;2 A298;2 A299;2 A299A;2 A300;2 A301;
2 A302;2 A303;2 A304;2 A305;2 A306;2 A307;2 A308;2 A309;2 A309A;2 A310;2 A311;2 A312;2 A313;
2 A314;2 A315;2 A316;2 A317;2 A318;2 A319;2 A320;2 A321;2 A322;2 A323;2 A324;2 A325;2 A326;2 A327;
2 A328;2 A329;2 A329A;2 A330;2 A331;2 A332A;2 A332B;2 A332C;2 A333;2 A334;2 A335;2 A336;2 A336A;
2 A336B;2 A336C;2 A337;2 A338;2 A339;2 A340;2 A341;2 A342;2 A343;2 A344;2 A345;2 A346;2 A347;
2 A348;2 A349;2 A350;2 A351;2 A352;2 A353;2 A354;2 A355;2 A356;2 A357;2 A358;2 A359;2 A359A;
2 A360;2 A361;2 A362;2 A363;2 A364;2 A364A;2 A365;2 A366;2 A367;2 A368;2 A368A;2 A369;2 A370;
2 A371;2 A371A;2 A372;2 A373;2 A374;2 A375;2 A376;2 A377;2 A378;2 A379;2 A380;2 A381;2 A381A;
2 A382;2 A383 RA OR RI;2 A383A;2 A384;2 A385;2 A386;2 A386A;2 A387;2 A388;2 A389;2 A390;2 A391;
2 A392;2 A393 EIGHT;2 A394;2 A395;2 A396;2 A397;2 A398;2 A399;2 A400;2 A401;2 A402;2 A403;2 A404;
2 A405;2 A406;2 A407;2 A408;2 A409;2 A410 BEGIN LOGOGRAM MARK;2 A410A END LOGOGRAM MARK;2 A411;
2 A412;2 A413;2 A414;2 A415;2 A416;2 A417;2 A418;2 A419;2 A420;2 A421;2 A422;2 A423;2 A424;2 A425;
2 A426;2 A427;2 A428;2 A429;2 A430;2 A431;2 A432;2 A433;2 A434;2 A435;2 A436;2 A437;2 A438;2 A439;
2 A440;2 A441;2 A442;2 A443;2 A444;2 A445;2 A446;2 A447;2 A448;2 A449;2 A450;2 A450A;2 A451;
2 A452;2 A453;2 A454;2 A455;2 A456;2 A457;2 A457A;2 A458;2 A459;2 A460;2 A461;2 A462;2 A463;
2 A464;2 A465;2 A466;2 A467;2 A468;2 A469;2 A470;2 A471;2 A472;2 A473;2 A474;2 A475;2 A476;2 A477;
2 A478;2 A479;2 A480;2 A481;2 A482;2 A483;2 A484;2 A485;2 A486;2 A487;2 A488;2 A489;2 A490;2 A491;
2 A492;2 A493;2 A494;2 A495;2 A496;2 A497;2 A501;2 A502;2 A503;2 A504;2 A505;2 A506;2 A507;2 A508;
2 A509;2 A510;2 A511;2 A512;2 A513;2 A514;2 A515;2 A516;2 A517;2 A518;2 A519;2 A520;2 A521;2 A522;
2 A523;2 A524;2 A525;2 A526;2 A527;2 A528;2 A529;2 A530;@16800;0 BAMUM LETTER PHASE-A NGKUE MFON;
3 GBIEE FON;3 PON MFON PIPAEMGBIEE;5 PIPAEMBA;3 NAA MFON;3 SHUENSHUET;3 TITA MFON;3 NZA MFON;
3 SHINDA PA NJI;3 PON PA NJI PIPAEMGBIEE;6 PIPAEMBA;3 MAEMBGBIEE;3 TU MAEMBA;3 NGANGU;3 MAEMVEUX;
3 MANSUAE;3 MVEUAENGAM;3 SEUNYAM;3 NTOQPEN;3 KEUKEUTNDA;3 NKINDI;3 SUU;3 NGKUENZEUM;3 LAPAQ;
3 LET KUT;3 NTAP MFAA;3 MAEKEUP;3 PASHAE;3 GHEUAERAE;3 PAMSHAE;3 MON NGGEUAET;3 NZUN MEUT;
3 U YUQ NAE;3 GHEUAEGHEUAE;3 NTAP NTAA;3 SISA;3 MGBASA;3 MEUNJOMNDEUQ;3 MOOMPUQ;3 KAFA;
3 PA LEERAEWA;3 NDA LEERAEWA;3 PET;3 MAEMKPEN;3 NIKA;3 PUP;3 TUAEP;3 LUAEP;3 SONJAM;3 TEUTEUWEN;
3 MAENYI;3 KET;3 NDAANGGEUAET;3 KUOQ;3 MOOMEUT;3 SHUM;3 LOMMAE;3 FIRI;3 ROM;3 KPOQ;3 SOQ;
3 MAP PIEET;3 SHIRAE;3 NTAP;3 SHOQ NSHUT YUM;3 NYIT MONGKEUAEQ;3 PAARAE;3 NKAARAE;3 UNKNOWN;
3 NGGEN;3 MAESI;3 NJAM;3 MBANYI;3 NYET;3 TEUAEN;3 SOT;3 PAAM;3 NSHIEE;3 MAEM;3 NYI;3 KAQ;3 NSHA;
3 VEE;3 LU;3 NEN;3 NAQ;3 MBAQ;2 PHASE-B NSHUET;3 TU MAEMGBIEE;3 SIEE;3 SET TU;3 LOM NTEUM;
3 MBA MAELEE;3 KIEEM;3 YEURAE;3 MBAARAE;3 KAM;3 PEESHI;3 YAFU LEERAEWA;3 LAM NSHUT NYAM;
3 NTIEE SHEUOQ;3 NDU NJAA;3 GHEUGHEUAEM;3 PIT;3 TU NSIEE;3 SHET NJAQ;3 SHEUAEQTU;3 MFON TEUAEQ;
3 MBIT MBAAKET;3 NYI NTEUM;3 KEUPUQ;3 GHEUGHEN;3 KEUYEUX;3 LAANAE;3 PARUM;3 VEUM;3 NGKINDI MVOP;
3 NGGEU MBU;3 WUAET;3 SAKEUAE;3 TAAM;3 MEUQ;3 NGGUOQ;4 LARGE;3 MFIYAQ;3 SUE;3 MBEURI;3 MONTIEEN;
3 NYAEMAE;3 PUNGAAM;3 MEUT NGGEET;3 FEUX;3 MBUOQ;3 FEE;3 KEUAEM;3 MA NJEUAENA;4 NJUQA;3 LET;
3 NGGAAM;3 NSEN;3 MA;3 KIQ;3 NGOM;2 PHASE-C NGKUE MAEMBA;3 NZA;3 YUM;3 WANGKUOQ;3 NGGEN;
3 NDEUAEREE;3 NGKAQ;3 GHARAE;3 MBEEKEET;3 GBAYI;3 NYIR MKPARAQ MEUN;3 NTU MBIT;3 MBEUM;3 PIRIEEN;
3 NDOMBU;3 MBAA CABBAGE-TREE;3 KEUSHEUAEP;3 GHAP;3 KEUKAQ;3 YU MUOMAE;3 NZEUM;3 MBUE;3 NSEUAEN;
3 MBIT;3 YEUQ;3 KPARAQ;3 KAA;3 SEUX;3 NDIDA;3 TAASHAE;3 NJUEQ;3 TITA YUE;3 SUAET;3 NGGUAEN NYAM;
3 VEUX;3 NANSANAQ;3 MA KEUAERI;3 NTAA;3 NGGUON;3 LAP;3 MBIRIEEN;3 MGBASAQ;3 NTEUNGBA;3 TEUTEUX;
3 NGGUM;3 FUE;3 NDEUT;3 NSA;3 NSHAQ;3 BUNG;3 VEUAEPEN;3 MBERAE;3 RU;3 NJAEM;3 LAM;3 TITUAEP;
3 NSUOT NGOM;3 NJEEEE;3 KET;3 NGGU;3 MAESI;3 MBUAEM;3 LU;3 KUT;3 NJAM;3 NGOM;3 WUP;3 NGGUEET;
3 NSOM;3 NTEN;3 KUOP NKAARAE;3 NSUN;3 NDAM;3 MA NSIEE;3 YAA;3 NDAP;3 SHUEQ;3 SETFON;3 MBI;
3 MAEMBA;3 MBANYI;3 KEUSEUX;3 MBEUX;3 KEUM;3 MBAA PICKET;3 YUWOQ;3 NJEUX;3 MIEE;3 MUAE;3 SHIQ;
3 KEN LAW;4 FATIGUE;3 NGAQ;3 NAQ;3 LIQ;3 PIN;3 PEN;3 TET;2 PHASE-D MBUO;3 WAP;3 NJI;3 MFON;
3 NJIEE;3 LIEE;3 NJEUT;3 NSHEE;3 NGGAAMAE;3 NYAM;3 WUAEN;3 NGKUN;3 SHEE;3 NGKAP;3 KEUAETMEUN;
3 TEUT;3 SHEUAE;3 NJAP;3 SUE;3 KET;3 YAEMMAE;3 KUOM;3 SAP;3 MFEUT;3 NDEUX;3 MALEERI;3 MEUT;
3 SEUAEQ;3 YEN;3 NJEUAEM;3 KEUOT MBUAE;3 NGKEURI;3 TU;3 GHAA;3 NGKYEE;3 FEUFEUAET;3 NDEE;
3 MGBOFUM;3 LEUAEP;3 NDON;3 MONI;3 MGBEUN;3 PUUT;3 MGBIEE;3 MFO;3 LUM;3 NSIEEP;3 MBAA;3 KWAET;
3 NYET;3 TEUAEN;3 SOT;3 YUWOQ;3 KEUM;3 RAEM;3 TEEEE;3 NGKEUAEQ;3 MFEUAE;3 NSIEET;3 KEUP;3 PIP;
3 PEUTAE;3 NYUE;3 LET;3 NGGAAM;3 MFIEE;3 NGGWAEN;3 YUOM;3 PAP;3 YUOP;3 NDAM;3 NTEUM;3 SUAE;3 KUN;
3 NGGEUX;3 NGKIEE;3 TUOT;3 MEUN;3 KUQ;3 NSUM;3 TEUN;3 MAENJET;3 NGGAP;3 LEUM;3 NGGUOM;3 NSHUT;
3 NJUEQ;3 GHEUAE;3 KU;3 REN OLD;3 TAE;3 TOQ;3 NYI;3 RII;3 LEEEE;3 MEEEE;3 M;3 SUU;3 MU;3 SHII;
3 SHEUX;3 KYEE;3 NU;3 SHU;3 NTEE;3 PEE;3 NI;3 SHOQ;3 PUQ;3 MVOP;3 LOQ;3 REN MUCH;3 TI;3 NTUU;
3 MBAA SEVEN;3 SAQ;3 FAA;2 PHASE-E NDAP;3 TOON;3 MBEUM;3 LAP;3 VOM;3 LOON;3 PAA;3 SOM;3 RAQ;
3 NSHUOP;3 NDUN;3 PUAE;3 TAM;3 NGKA;3 KPEUX;3 WUO;3 SEE;3 NGGEUAET;3 PAAM;3 TOO;3 KUOP;3 LOM;
3 NSHIEE;3 NGOP;3 MAEM;3 NGKEUX;3 NGOQ;3 NSHUE;3 RIMGBA;3 NJEUX;3 PEEM;3 SAA;3 NGGURAE;3 MGBA;
3 GHEUX;3 NGKEUAEM;3 NJAEMLI;3 MAP;3 LOOT;3 NGGEEEE;3 NDIQ;3 TAEN NTEUM;3 SET;3 PUM;
3 NDAA SOFTNESS;3 NGGUAESHAE NYAM;3 YIEE;3 GHEUN;3 TUAE;3 YEUAE;3 PO;3 TUMAE;3 KEUAE;3 SUAEN;
3 TEUAEQ;3 VEUAE;3 WEUX;3 LAAM;3 PU;3 TAAQ;3 GHAAMAE;3 NGEUREUT;3 SHEUAEQ;3 MGBEN;3 MBEE;3 NZAQ;
3 NKOM;3 GBET;3 TUM;3 KUET;3 YAP;3 NYI CLEAVER;3 YIT;3 MFEUQ;3 NDIAQ;3 PIEEQ;3 YUEQ;3 LEUAEM;
3 FUE;3 GBEUX;3 NGKUP;3 KET;3 MAE;3 NGKAAMI;3 GHET;3 FA;3 NTUM;3 PEUT;3 YEUM;3 NGGEUAE;
3 NYI BETWEEN;3 NZUQ;3 POON;3 MIEE;3 FUET;3 NAE;3 MUAE;3 GHEUAE;3 FU I;3 MVI;3 PUAQ;3 NGKUM;3 KUT;
3 PIET;3 NTAP;3 YEUAET;3 NGGUP;3 PA PEOPLE;3 FU CALL;3 FOM;3 NJEE;3 A;3 TOQ;3 O;3 I;3 LAQ;
3 PA PLURAL;3 TAA;3 TAQ;3 NDAA MY HOUSE;3 SHIQ;3 YEUX;3 NGUAE;3 YUAEN;3 YOQ SWIMMING;4 COVER;
3 YUQ;3 YUN;3 KEUX;3 PEUX;3 NJEE EPOCH;3 PUE;3 WUE;3 FEE;3 VEE;3 LU;3 MI;3 REUX;3 RAE;3 NGUAET;
3 NGA;3 SHO;3 SHOQ;3 FU REMEDY;3 NA;3 PI;3 LOQ;3 KO;3 MEN;3 MA;3 MAQ;3 TEU;3 KI;3 MON;3 TEN;3 FAQ;
3 GHOM;2 PHASE-F KA;3 U;3 KU;3 EE;3 REE;3 TAE;3 NYI;3 LA;3 RII;3 RIEE;3 MEEEE;3 TAA;3 NDAA;
3 NJAEM;3 M;3 SUU;3 SHII;3 SI;3 SEUX;3 KYEE;3 KET;3 NUAE;3 NU;3 NJUAE;3 YOQ;3 SHU;3 YA;3 NSHA;
3 PEUX;3 NTEE;3 WUE;3 PEE;3 RU;3 NI;3 REUX;3 KEN;3 NGKWAEN;3 NGGA;3 SHO;3 PUAE;3 FOM;3 WA;3 LI;
3 LOQ;3 KO;3 MBEN;3 REN;3 MA;3 MO;3 MBAA;3 TET;3 KPA;3 SAMBA;3 VUEQ;@16A40;0 MRO LETTER TA;2 NGI;
2 YO;2 MIM;2 BA;2 DA;2 A;2 PHI;2 KHAI;2 HAO;2 DAI;2 CHU;2 KEAAE;2 OL;2 MAEM;2 NIN;2 PA;2 OO;2 O;
2 RO;2 SHI;2 THEA;2 EA;2 WA;2 E;2 KO;2 LAN;2 LA;2 HAI;2 RI;2 TEK;@16A60;1 DIGIT ZERO;2 ONE;2 TWO;
2 THREE;2 FOUR;2 FIVE;2 SIX;2 SEVEN;2 EIGHT;2 NINE;@16A6E;1 DANDA;1 DOUBLE DANDA;
0 TANGSA LETTER OZ;2 OC;2 OQ;2 OX;2 AZ;2 AC;2 AQ;2 AX;2 VZ;2 VC;2 VQ;2 VX;2 EZ;2 EC;2 EQ;2 EX;
2 IZ;2 IC;2 IQ;2 IX;2 UZ;2 UC;2 UQ;2 UX;2 AWZ;2 AWC;2 AWQ;2 AWX;2 UIZ;2 UIC;2 UIQ;2 UIX;
2 FINAL NG;2 LONG UEX;2 SHORT UEZ;3 AWX;2 UEC;2 UEZ;2 UEQ;2 UEX;2 UIUZ;2 UIUC;2 UIUQ;2 UIUX;2 MZ;
2 MC;2 MQ;2 MX;2 KA;2 KHA;2 GA;2 NGA;2 SA;2 YA;2 WA;2 PA;2 NYA;2 PHA;2 BA;2 MA;2 NA;2 HA;2 LA;
2 HTA;2 TA;2 DA;2 RA;2 NHA;2 SHA;2 CA;2 TSA;2 GHA;2 HTTA;2 THA;2 XA;2 FA;2 DHA;2 CHA;2 ZA;@16AC0;
1 DIGIT ZERO;2 ONE;2 TWO;2 THREE;2 FOUR;2 FIVE;2 SIX;2 SEVEN;2 EIGHT;2 NINE;@16AD0;
0 BASSA VAH LETTER ENNI;3 KA;3 SE;3 FA;3 MBE;3 YIE;3 GAH;3 DHII;3 KPAH;3 JO;3 HWAH;3 WA;3 ZO;
3 GBU;3 DO;3 CE;3 UWU;3 TO;3 BA;3 VU;3 YEIN;3 PA;3 WADDA;3 A;3 O;3 OO;3 U;3 EE;3 E;3 I;@16AF0;
2 COMBINING HIGH TONE;3 LOW TONE;3 MID TONE;3 LOW-MID TONE;3 HIGH-LOW TONE;2 FULL STOP;@16B00;
0 PAHAWH HMONG VOWEL KEEB;3 KEEV;3 KIB;3 KIV;3 KAUB;3 KAUV;3 KUB;3 KUV;3 KEB;3 KEV;3 KAIB;3 KAIV;
3 KOOB;3 KOOV;3 KAWB;3 KAWV;3 KUAB;3 KUAV;3 KOB;3 KOV;3 KIAB;3 KIAV;3 KAB;3 KAV;3 KWB;3 KWV;
3 KAAB;3 KAAV;2 CONSONANT VAU;3 NTSAU;3 LAU;3 HAU;3 NLAU;3 RAU;3 NKAU;3 QHAU;3 YAU;3 HLAU;3 MAU;
3 CHAU;3 NCHAU;3 HNAU;3 PLHAU;3 NTHAU;3 NAU;3 AU;3 XAU;3 CAU;2 MARK CIM TUB;4 SO;4 KES;4 KHAV;
4 SUAM;4 HOM;4 TAUM;2 SIGN VOS THOM;4 TSHAB CEEB;3 CIM CHEEM;3 VOS THIAB;4 FEEM;3 XYEEM NTXIV;
4 RHO;4 TOV;4 FAIB;3 VOS SEEV;3 MEEJ SUAB;3 VOS NRUA;3 IB YAM;3 XAUS;3 CIM TSOV ROG;@16B50;
2 DIGIT ZERO;3 ONE;3 TWO;3 THREE;3 FOUR;3 FIVE;3 SIX;3 SEVEN;3 EIGHT;3 NINE;@16B5B;2 NUMBER TENS;
3 HUNDREDS;3 TEN THOUSANDS;3 MILLIONS;3 HUNDRED MILLIONS;3 TEN BILLIONS;3 TRILLIONS;@16B63;
2 SIGN VOS LUB;3 XYOO;3 HLI;3 THIRD-STAGE HLI;3 ZWJ THAJ;3 HNUB;3 NQIG;3 XIAB;3 NTUJ;3 AV;
3 TXHEEJ CEEV;3 MEEJ TSEEB;3 TAU;3 LOS;3 MUS;3 CIM HAIS LUS NTOG NTOG;4 CUAM TSHOOJ;4 TXWV;5 CHWV;
4 PUB DAWB;4 NRES TOS;@16B7D;2 CLAN SIGN TSHEEJ;4 YEEG;4 LIS;4 LAUJ;4 XYOOJ;4 KOO;4 HAWJ;4 MUAS;
4 THOJ;4 TSAB;4 PHAB;4 KHAB;4 HAM;4 VAJ;4 FAJ;4 YAJ;4 TSWB;4 KWM;4 VWJ;@16E40;
0 MEDEFAIDRIN CAPITAL LETTER M;3 S;3 V;3 W;3 ATIU;3 Z;3 KP;3 P;3 T;3 G;3 F;3 I;3 K;3 A;3 J;3 E;
3 B;3 C;3 U;3 YU;3 L;3 Q;3 HP;3 NY;3 X;3 D;3 OE;3 N;3 R;3 O;3 AI;3 Y;1 SMALL LETTER M;3 S;3 V;3 W;
3 ATIU;3 Z;3 KP;3 P;3 T;3 G;3 F;3 I;3 K;3 A;3 J;3 E;3 B;3 C;3 U;3 YU;3 L;3 Q;3 HP;3 NY;3 X;3 D;
3 OE;3 N;3 R;3 O;3 AI;3 Y;1 DIGIT ZERO;2 ONE;2 TWO;2 THREE;2 FOUR;2 FIVE;2 SIX;2 SEVEN;2 EIGHT;
2 NINE;1 NUMBER TEN;2 ELEVEN;2 TWELVE;2 THIRTEEN;2 FOURTEEN;2 FIFTEEN;2 SIXTEEN;2 SEVENTEEN;
2 EIGHTEEN;2 NINETEEN;1 DIGIT ONE ALTERNATE FORM;2 TWO ALTERNATE FORM;2 THREE ALTERNATE FORM;
1 COMMA;1 FULL STOP;1 SYMBOL AIVA;1 EXCLAMATION OH;@16F00;0 MIAO LETTER PA;2 BA;2 YI PA;2 PLA;
2 MA;2 MHA;2 ARCHAIC MA;2 FA;2 VA;2 VFA;2 TA;2 DA;2 YI TTA;3 TA;2 TTA;2 DDA;2 NA;2 NHA;2 YI NNA;
2 ARCHAIC NA;2 NNA;2 NNHA;2 LA;2 LYA;2 LHA;2 LHYA;2 TLHA;2 DLHA;2 TLHYA;2 DLHYA;2 KA;2 GA;2 YI KA;
2 QA;2 QGA;2 NGA;2 NGHA;2 ARCHAIC NGA;2 HA;2 XA;2 GHA;2 GHHA;2 TSSA;2 DZZA;2 NYA;2 NYHA;2 TSHA;
2 DZHA;2 YI TSHA;3 DZHA;2 REFORMED TSHA;2 SHA;2 SSA;2 ZHA;2 ZSHA;2 TSA;2 DZA;2 YI TSA;2 SA;2 ZA;
2 ZSA;2 ZZA;2 ZZSA;2 ARCHAIC ZZA;2 ZZYA;2 ZZSYA;2 WA;2 AH;2 HHA;2 BRI;2 SYI;2 DZYI;2 TE;2 TSE;
2 RTE;@16F4F;1 SIGN CONSONANT MODIFIER BAR;1 LETTER NASALIZATION;1 SIGN ASPIRATION;
2 REFORMED VOICING;3 ASPIRATION;1 VOWEL SIGN A;3 AA;3 AHH;3 AN;3 ANG;3 O;3 OO;3 WO;3 W;3 E;3 EN;
3 ENG;3 OEY;3 I;3 IA;3 IAN;3 IANG;3 IO;3 IE;3 II;3 IU;3 ING;3 U;3 UA;3 UAN;3 UANG;3 UU;3 UEI;
3 UNG;3 Y;3 YI;3 AE;3 AEE;3 ERR;3 ROUNDED ERR;3 ER;3 ROUNDED ER;3 AI;3 EI;3 AU;3 OU;3 N;3 NG;
3 UOG;3 YUI;3 OG;3 OER;3 VW;3 IG;3 EA;3 IONG;3 UI;@16F8F;1 TONE RIGHT;2 TOP RIGHT;2 ABOVE;2 BELOW;
1 LETTER TONE-2;2 TONE-3;2 TONE-4;2 TONE-5;2 TONE-6;2 TONE-7;2 TONE-8;2 REFORMED TONE-1;3 TONE-2;
3 TONE-4;3 TONE-5;3 TONE-6;3 TONE-8;@16FE0;0 TANGUT ITERATION MARK;0 NUSHU ITERATION MARK;
0 OLD CHINESE HOOK MARK;2 ITERATION MARK;0 KHITAN SMALL SCRIPT FILLER;@16FF0;
0 VIETNAMESE ALTERNATE READING MARK CA;4 NHAY;@18800;0 TANGUT COMPONENT-001;1 COMPONENT-002;
1 COMPONENT-003;1 COMPONENT-004;1 COMPONENT-005;1 COMPONENT-006;1 COMPONENT-007;1 COMPONENT-008;
1 COMPONENT-009;1 COMPONENT-010;1 COMPONENT-011;1 COMPONENT-012;1 COMPONENT-013;1 COMPONENT-014;
1 COMPONENT-015;1 COMPONENT-016;1 COMPONENT-017;1 COMPONENT-018;1 COMPONENT-019;1 COMPONENT-020;
1 COMPONENT-021;1 COMPONENT-022;1 COMPONENT-023;1 COMPONENT-024;1 COMPONENT-025;1 COMPONENT-026;
1 COMPONENT-027;1 COMPONENT-028;1 COMPONENT-029;1 COMPONENT-030;1 COMPONENT-031;1 COMPONENT-032;
1 COMPONENT-033;1 COMPONENT-034;1 COMPONENT-035;1 COMPONENT-036;1 COMPONENT-037;1 COMPONENT-038;
1 COMPONENT-039;1 COMPONENT-040;1 COMPONENT-041;1 COMPONENT-042;1 COMPONENT-043;1 COMPONENT-044;
1 COMPONENT-045;1 COMPONENT-046;1 COMPONENT-047;1 COMPONENT-048;1 COMPONENT-049;1 COMPONENT-050;
1 COMPONENT-051;1 COMPONENT-052;1 COMPONENT-053;1 COMPONENT-054;1 COMPONENT-055;1 COMPONENT-056;
1 COMPONENT-057;1 COMPONENT-058;1 COMPONENT-059;1 COMPONENT-060;1 COMPONENT-061;1 COMPONENT-062;
1 COMPONENT-063;1 COMPONENT-064;1 COMPONENT-065;1 COMPONENT-066;1 COMPONENT-067;1 COMPONENT-068;
1 COMPONENT-069;1 COMPONENT-070;1 COMPONENT-071;1 COMPONENT-072;1 COMPONENT-073;1 COMPONENT-074;
1 COMPONENT-075;1 COMPONENT-076;1 COMPONENT-077;1 COMPONENT-078;1 COMPONENT-079;1 COMPONENT-080;
1 COMPONENT-081;1 COMPONENT-082;1 COMPONENT-083;1 COMPONENT-084;1 COMPONENT-085;1 COMPONENT-086;
1 COMPONENT-087;1 COMPONENT-088;1 COMPONENT-089;1 COMPONENT-090;1 COMPONENT-091;1 COMPONENT-092;
1 COMPONENT-093;1 COMPONENT-094;1 COMPONENT-095;1 COMPONENT-096;1 COMPONENT-097;1 COMPONENT-098;
1 COMPONENT-099;1 COMPONENT-100;1 COMPONENT-101;1 COMPONENT-102;1 COMPONENT-103;1 COMPONENT-104;
1 COMPONENT-105;1 COMPONENT-106;1 COMPONENT-107;1 COMPONENT-108;1 COMPONENT-109;1 COMPONENT-110;
1 COMPONENT-111;1 COMPONENT-112;1 COMPONENT-113;1 COMPONENT-114;1 COMPONENT-115;1 COMPONENT-116;
1 COMPONENT-117;1 COMPONENT-118;1 COMPONENT-119;1 COMPONENT-120;1 COMPONENT-121;1 COMPONENT-122;
1 COMPONENT-123;1 COMPONENT-124;1 COMPONENT-125;1 COMPONENT-126;1 COMPONENT-127;1 COMPONENT-128;
1 COMPONENT-129;1 COMPONENT-130;1 COMPONENT-131;1 COMPONENT-132;1 COMPONENT-133;1 COMPONENT-134;
1 COMPONENT-135;1 COMPONENT-136;1 COMPONENT-137;1 COMPONENT-138;1 COMPONENT-139;1 COMPONENT-140;
1 COMPONENT-141;1 COMPONENT-142;1 COMPONENT-143;1 COMPONENT-144;1 COMPONENT-145;1 COMPONENT-146;
1 COMPONENT-147;1 COMPONENT-148;1 COMPONENT-149;1 COMPONENT-150;1 COMPONENT-151;1 COMPONENT-152;
1 COMPONENT-153;1 COMPONENT-154;1 COMPONENT-155;1 COMPONENT-156;1 COMPONENT-157;1 COMPONENT-158;
1 COMPONENT-159;1 COMPONENT-160;1 COMPONENT-161;1 COMPONENT-162;1 COMPONENT-163;1 COMPONENT-164;
1 COMPONENT-165;1 COMPONENT-166;1 COMPONENT-167;1 COMPONENT-168;1 COMPONENT-169;1 COMPONENT-170;
1 COMPONENT-171;1 COMPONENT-172;1 COMPONENT-173;1 COMPONENT-174;1 COMPONENT-175;1 COMPONENT-176;
1 COMPONENT-177;1 COMPONENT-178;1 COMPONENT-179;1 COMPONENT-180;1 COMPONENT-181;1 COMPONENT-182;
1 COMPONENT-183;1 COMPONENT-184;1 COMPONENT-185;1 COMPONENT-186;1 COMPONENT-187;1 COMPONENT-188;
1 COMPONENT-189;1 COMPONENT-190;1 COMPONENT-191;1 COMPONENT-192;1 COMPONENT-193;1 COMPONENT-194;
1 COMPONENT-195;1 COMPONENT-196;1 COMPONENT-197;1 COMPONENT-198;1 COMPONENT-199;1 COMPONENT-200;
1 COMPONENT-201;1 COMPONENT-202;1 COMPONENT-203;1 COMPONENT-204;1 COMPONENT-205;1 COMPONENT-206;
1 COMPONENT-207;1 COMPONENT-208;1 COMPONENT-209;1 COMPONENT-210;1 COMPONENT-211;1 COMPONENT-212;
1 COMPONENT-213;1 COMPONENT-214;1 COMPONENT-215;1 COMPONENT-216;1 COMPONENT-217;1 COMPONENT-218;
1 COMPONENT-219;1 COMPONENT-220;1 COMPONENT-221;1 COMPONENT-222;1 COMPONENT-223;1 COMPONENT-224;
1 COMPONENT-225;1 COMPONENT-226;1 COMPONENT-227;1 COMPONENT-228;1 COMPONENT-229;1 COMPONENT-230;
1 COMPONENT-231;1 COMPONENT-232;1 COMPONENT-233;1 COMPONENT-234;1 COMPONENT-235;1 COMPONENT-236;
1 COMPONENT-237;1 COMPONENT-238;1 COMPONENT-239;1 COMPONENT-240;1 COMPONENT-241;1 COMPONENT-242;
1 COMPONENT-243;1 COMPONENT-244;1 COMPONENT-245;1 COMPONENT-246;1 COMPONENT-247;1 COMPONENT-248;
1 COMPONENT-249;1 COMPONENT-250;1 COMPONENT-251;1 COMPONENT-252;1 COMPONENT-253;1 COMPONENT-254;
1 COMPONENT-255;1 COMPONENT-256;1 COMPONENT-257;1 COMPONENT-258;1 COMPONENT-259;1 COMPONENT-260;
1 COMPONENT-261;1 COMPONENT-262;1 COMPONENT-263;1 COMPONENT-264;1 COMPONENT-265;1 COMPONENT-266;
1 COMPONENT-267;1 COMPONENT-268;1 COMPONENT-269;1 COMPONENT-270;1 COMPONENT-271;1 COMPONENT-272;
1 COMPONENT-273;1 COMPONENT-274;1 COMPONENT-275;1 COMPONENT-276;1 COMPONENT-277;1 COMPONENT-278;
1 COMPONENT-279;1 COMPONENT-280;1 COMPONENT-281;1 COMPONENT-282;1 COMPONENT-283;1 COMPONENT-284;
1 COMPONENT-285;1 COMPONENT-286;1 COMPONENT-287;1 COMPONENT-288;1 COMPONENT-289;1 COMPONENT-290;
1 COMPONENT-291;1 COMPONENT-292;1 COMPONENT-293;1 COMPONENT-294;1 COMPONENT-295;1 COMPONENT-296;
1 COMPONENT-297;1 COMPONENT-298;1 COMPONENT-299;1 COMPONENT-300;1 COMPONENT-301;1 COMPONENT-302;
1 COMPONENT-303;1 COMPONENT-304;1 COMPONENT-305;1 COMPONENT-306;1 COMPONENT-307;1 COMPONENT-308;
1 COMPONENT-309;1 COMPONENT-310;1 COMPONENT-311;1 COMPONENT-312;1 COMPONENT-313;1 COMPONENT-314;
1 COMPONENT-315;1 COMPONENT-316;1 COMPONENT-317;1 COMPONENT-318;1 COMPONENT-319;1 COMPONENT-320;
1 COMPONENT-321;1 COMPONENT-322;1 COMPONENT-323;1 COMPONENT-324;1 COMPONENT-325;1 COMPONENT-326;
1 COMPONENT-327;1 COMPONENT-328;1 COMPONENT-329;1 COMPONENT-330;1 COMPONENT-331;1 COMPONENT-332;
1 COMPONENT-333;1 COMPONENT-334;1 COMPONENT-335;1 COMPONENT-336;1 COMPONENT-337;1 COMPONENT-338;
1 COMPONENT-339;1 COMPONENT-340;1 COMPONENT-341;1 COMPONENT-342;1 COMPONENT-343;1 COMPONENT-344;
1 COMPONENT-345;1 COMPONENT-346;1 COMPONENT-347;1 COMPONENT-348;1 COMPONENT-349;1 COMPONENT-350;
1 COMPONENT-351;1 COMPONENT-352;1 COMPONENT-353;1 COMPONENT-354;1 COMPONENT-355;1 COMPONENT-356;
1 COMPONENT-357;1 COMPONENT-358;1 COMPONENT-359;1 COMPONENT-360;1 COMPONENT-361;1 COMPONENT-362;
1 COMPONENT-363;1 COMPONENT-364;1 COMPONENT-365;1 COMPONENT-366;1 COMPONENT-367;1 COMPONENT-368;
1 COMPONENT-369;1 COMPONENT-370;1 COMPONENT-371;1 COMPONENT-372;1 COMPONENT-373;1 COMPONENT-374;
1 COMPONENT-375;1 COMPONENT-376;1 COMPONENT-377;1 COMPONENT-378;1 COMPONENT-379;1 COMPONENT-380;
1 COMPONENT-381;1 COMPONENT-382;1 COMPONENT-383;1 COMPONENT-384;1 COMPONENT-385;1 COMPONENT-386;
1 COMPONENT-387;1 COMPONENT-388;1 COMPONENT-389;1 COMPONENT-390;1 COMPONENT-391;1 COMPONENT-392;
1 COMPONENT-393;1 COMPONENT-394;1 COMPONENT-395;1 COMPONENT-396;1 COMPONENT-397;1 COMPONENT-398;
1 COMPONENT-399;1 COMPONENT-400;1 COMPONENT-401;1 COMPONENT-402;1 COMPONENT-403;1 COMPONENT-404;
1 COMPONENT-405;1 COMPONENT-406;1 COMPONENT-407;1 COMPONENT-408;1 COMPONENT-409;1 COMPONENT-410;
1 COMPONENT-411;1 COMPONENT-412;1 COMPONENT-413;1 COMPONENT-414;1 COMPONENT-415;1 COMPONENT-416;
1 COMPONENT-417;1 COMPONENT-418;1 COMPONENT-419;1 COMPONENT-420;1 COMPONENT-421;1 COMPONENT-422;
1 COMPONENT-423;1 COMPONENT-424;1 COMPONENT-425;1 COMPONENT-426;1 COMPONENT-427;1 COMPONENT-428;
1 COMPONENT-429;1 COMPONENT-430;1 COMPONENT-431;1 COMPONENT-432;1 COMPONENT-433;1 COMPONENT-434;
1 COMPONENT-435;1 COMPONENT-436;1 COMPONENT-437;1 COMPONENT-438;1 COMPONENT-439;1 COMPONENT-440;
1 COMPONENT-441;1 COMPONENT-442;1 COMPONENT-443;1 COMPONENT-444;1 COMPONENT-445;1 COMPONENT-446;
1 COMPONENT-447;1 COMPONENT-448;1 COMPONENT-449;1 COMPONENT-450;1 COMPONENT-451;1 COMPONENT-452;
1 COMPONENT-453;1 COMPONENT-454;1 COMPONENT-455;1 COMPONENT-456;1 COMPONENT-457;1 COMPONENT-458;
1 COMPONENT-459;1 COMPONENT-460;1 COMPONENT-461;1 COMPONENT-462;1 COMPONENT-463;1 COMPONENT-464;
1 COMPONENT-465;1 COMPONENT-466;1 COMPONENT-467;1 COMPONENT-468;1 COMPONENT-469;1 COMPONENT-470;
1 COMPONENT-471;1 COMPONENT-472;1 COMPONENT-473;1 COMPONENT-474;1 COMPONENT-475;1 COMPONENT-476;
1 COMPONENT-477;1 COMPONENT-478;1 COMPONENT-479;1 COMPONENT-480;1 COMPONENT-481;1 COMPONENT-482;
1 COMPONENT-483;1 COMPONENT-484;1 COMPONENT-485;1 COMPONENT-486;1 COMPONENT-487;1 COMPONENT-488;
1 COMPONENT-489;1 COMPONENT-490;1 COMPONENT-491;1 COMPONENT-492;1 COMPONENT-493;1 COMPONENT-494;
1 COMPONENT-495;1 COMPONENT-496;1 COMPONENT-497;1 COMPONENT-498;1 COMPONENT-499;1 COMPONENT-500;
1 COMPONENT-501;1 COMPONENT-502;1 COMPONENT-503;1 COMPONENT-504;1 COMPONENT-505;1 COMPONENT-506;
1 COMPONENT-507;1 COMPONENT-508;1 COMPONENT-509;1 COMPONENT-510;1 COMPONENT-511;1 COMPONENT-512;
1 COMPONENT-513;1 COMPONENT-514;1 COMPONENT-515;1 COMPONENT-516;1 COMPONENT-517;1 COMPONENT-518;
1 COMPONENT-519;1 COMPONENT-520;1 COMPONENT-521;1 COMPONENT-522;1 COMPONENT-523;1 COMPONENT-524;
1 COMPONENT-525;1 COMPONENT-526;1 COMPONENT-527;1 COMPONENT-528;1 COMPONENT-529;1 COMPONENT-530;
1 COMPONENT-531;1 COMPONENT-532;1 COMPONENT-533;1 COMPONENT-534;1 COMPONENT-535;1 COMPONENT-536;
1 COMPONENT-537;1 COMPONENT-538;1 COMPONENT-539;1 COMPONENT-540;1 COMPONENT-541;1 COMPONENT-542;
1 COMPONENT-543;1 COMPONENT-544;1 COMPONENT-545;1 COMPONENT-546;1 COMPONENT-547;1 COMPONENT-548;
1 COMPONENT-549;1 COMPONENT-550;1 COMPONENT-551;1 COMPONENT-552;1 COMPONENT-553;1 COMPONENT-554;
1 COMPONENT-555;1 COMPONENT-556;1 COMPONENT-557;1 COMPONENT-558;1 COMPONENT-559;1 COMPONENT-560;
1 COMPONENT-561;1 COMPONENT-562;1 COMPONENT-563;1 COMPONENT-564;1 COMPONENT-565;1 COMPONENT-566;
1 COMPONENT-567;1 COMPONENT-568;1 COMPONENT-569;1 COMPONENT-570;1 COMPONENT-571;1 COMPONENT-572;
1 COMPONENT-573;1 COMPONENT-574;1 COMPONENT-575;1 COMPONENT-576;1 COMPONENT-577;1 COMPONENT-578;
1 COMPONENT-579;1 COMPONENT-580;1 COMPONENT-581;1 COMPONENT-582;1 COMPONENT-583;1 COMPONENT-584;
1 COMPONENT-585;1 COMPONENT-586;1 COMPONENT-587;1 COMPONENT-588;1 COMPONENT-589;1 COMPONENT-590;
1 COMPONENT-591;1 COMPONENT-592;1 COMPONENT-593;1 COMPONENT-594;1 COMPONENT-595;1 COMPONENT-596;
1 COMPONENT-597;1 COMPONENT-598;1 COMPONENT-599;1 COMPONENT-600;1 COMPONENT-601;1 COMPONENT-602;
1 COMPONENT-603;1 COMPONENT-604;1 COMPONENT-605;1 COMPONENT-606;1 COMPONENT-607;1 COMPONENT-608;
1 COMPONENT-609;1 COMPONENT-610;1 COMPONENT-611;1 COMPONENT-612;1 COMPONENT-613;1 COMPONENT-614;
1 COMPONENT-615;1 COMPONENT-616;1 COMPONENT-617;1 COMPONENT-618;1 COMPONENT-619;1 COMPONENT-620;
1 COMPONENT-621;1 COMPONENT-622;1 COMPONENT-623;1 COMPONENT-624;1 COMPONENT-625;1 COMPONENT-626;
1 COMPONENT-627;1 COMPONENT-628;1 COMPONENT-629;1 COMPONENT-630;1 COMPONENT-631;1 COMPONENT-632;
1 COMPONENT-633;1 COMPONENT-634;1 COMPONENT-635;1 COMPONENT-636;1 COMPONENT-637;1 COMPONENT-638;
1 COMPONENT-639;1 COMPONENT-640;1 COMPONENT-641;1 COMPONENT-642;1 COMPONENT-643;1 COMPONENT-644;
1 COMPONENT-645;1 COMPONENT-646;1 COMPONENT-647;1 COMPONENT-648;1 COMPONENT-649;1 COMPONENT-650;
1 COMPONENT-651;1 COMPONENT-652;1 COMPONENT-653;1 COMPONENT-654;1 COMPONENT-655;1 COMPONENT-656;
1 COMPONENT-657;1 COMPONENT-658;1 COMPONENT-659;1 COMPONENT-660;1 COMPONENT-661;1 COMPONENT-662;
1 COMPONENT-663;1 COMPONENT-664;1 COMPONENT-665;1 COMPONENT-666;1 COMPONENT-667;1 COMPONENT-668;
1 COMPONENT-669;1 COMPONENT-670;1 COMPONENT-671;1 COMPONENT-672;1 COMPONENT-673;1 COMPONENT-674;
1 COMPONENT-675;1 COMPONENT-676;1 COMPONENT-677;1 COMPONENT-678;1 COMPONENT-679;1 COMPONENT-680;
1 COMPONENT-681;1 COMPONENT-682;1 COMPONENT-683;1 COMPONENT-684;1 COMPONENT-685;1 COMPONENT-686;
1 COMPONENT-687;1 COMPONENT-688;1 COMPONENT-689;1 COMPONENT-690;1 COMPONENT-691;1 COMPONENT-692;
1 COMPONENT-693;1 COMPONENT-694;1 COMPONENT-695;1 COMPONENT-696;1 COMPONENT-697;1 COMPONENT-698;
1 COMPONENT-699;1 COMPONENT-700;1 COMPONENT-701;1 COMPONENT-702;1 COMPONENT-703;1 COMPONENT-704;
1 COMPONENT-705;1 COMPONENT-706;1 COMPONENT-707;1 COMPONENT-708;1 COMPONENT-709;1 COMPONENT-710;
1 COMPONENT-711;1 COMPONENT-712;1 COMPONENT-713;1 COMPONENT-714;1 COMPONENT-715;1 COMPONENT-716;
1 COMPONENT-717;1 COMPONENT-718;1 COMPONENT-719;1 COMPONENT-720;1 COMPONENT-721;1 COMPONENT-722;
1 COMPONENT-723;1 COMPONENT-724;1 COMPONENT-725;1 COMPONENT-726;1 COMPONENT-727;1 COMPONENT-728;
1 COMPONENT-729;1 COMPONENT-730;1 COMPONENT-731;1 COMPONENT-732;1 COMPONENT-733;1 COMPONENT-734;
1 COMPONENT-735;1 COMPONENT-736;1 COMPONENT-737;1 COMPONENT-738;1 COMPONENT-739;1 COMPONENT-740;
1 COMPONENT-741;1 COMPONENT-742;1 COMPONENT-743;1 COMPONENT-744;1 COMPONENT-745;1 COMPONENT-746;
1 COMPONENT-747;1 COMPONENT-748;1 COMPONENT-749;1 COMPONENT-750;1 COMPONENT-751;1 COMPONENT-752;
1 COMPONENT-753;1 COMPONENT-754;1 COMPONENT-755;1 COMPONENT-756;1 COMPONENT-757;1 COMPONENT-758;
1 COMPONENT-759;1 COMPONENT-760;1 COMPONENT-761;1 COMPONENT-762;1 COMPONENT-763;1 COMPONENT-764;
1 COMPONENT-765;1 COMPONENT-766;1 COMPONENT-767;1 COMPONENT-768;
0 KHITAN SMALL SCRIPT CHARACTER-18B00;3 CHARACTER-18B01;3 CHARACTER-18B02;3 CHARACTER-18B03;
3 CHARACTER-18B04;3 CHARACTER-18B05;3 CHARACTER-18B06;3 CHARACTER-18B07;3 CHARACTER-18B08;
3 CHARACTER-18B09;3 CHARACTER-18B0A;3 CHARACTER-18B0B;3 CHARACTER-18B0C;3 CHARACTER-18B0D;
3 CHARACTER-18B0E;3 CHARACTER-18B0F;3 CHARACTER-18B10;3 CHARACTER-18B11;3 CHARACTER-18B12;
3 CHARACTER-18B13;3 CHARACTER-18B14;3 CHARACTER-18B15;3 CHARACTER-18B16;3 CHARACTER-18B17;
3 CHARACTER-18B18;3 CHARACTER-18B19;3 CHARACTER-18B1A;3 CHARACTER-18B1B;3 CHARACTER-18B1C;
3 CHARACTER-18B1D;3 CHARACTER-18B1E;3 CHARACTER-18B1F;3 CHARACTER-18B20;3 CHARACTER-18B21;
3 CHARACTER-18B22;3 CHARACTER-18B23;3 CHARACTER-18B24;3 CHARACTER-18B25;3 CHARACTER-18B26;
3 CHARACTER-18B27;3 CHARACTER-18B28;3 CHARACTER-18B29;3 CHARACTER-18B2A;3 CHARACTER-18B2B;
3 CHARACTER-18B2C;3 CHARACTER-18B2D;3 CHARACTER-18B2E;3 CHARACTER-18B2F;3 CHARACTER-18B30;
3 CHARACTER-18B31;3 CHARACTER-18B32;3 CHARACTER-18B33;3 CHARACTER-18B34;3 CHARACTER-18B35;
3 CHARACTER-18B36;3 CHARACTER-18B37;3 CHARACTER-18B38;3 CHARACTER-18B39;3 CHARACTER-18B3A;
3 CHARACTER-18B3B;3 CHARACTER-18B3C;3 CHARACTER-18B3D;3 CHARACTER-18B3E;3 CHARACTER-18B3F;
3 CHARACTER-18B40;3 CHARACTER-18B41;3 CHARACTER-18B42;3 CHARACTER-18B43;3 CHARACTER-18B44;
3 CHARACTER-18B45;3 CHARACTER-18B46;3 CHARACTER-18B47;3 CHARACTER-18B48;3 CHARACTER-18B49;
3 CHARACTER-18B4A;3 CHARACTER-18B4B;3 CHARACTER-18B4C;3 CHARACTER-18B4D;3 CHARACTER-18B4E;
3 CHARACTER-18B4F;3 CHARACTER-18B50;3 CHARACTER-18B51;3 CHARACTER-18B52;3 CHARACTER-18B53;
3 CHARACTER-18B54;3 CHARACTER-18B55;3 CHARACTER-18B56;3 CHARACTER-18B57;3 CHARACTER-18B58;
3 CHARACTER-18B59;3 CHARACTER-18B5A;3 CHARACTER-18B5B;3 CHARACTER-18B5C;3 CHARACTER-18B5D;
3 CHARACTER-18B5E;3 CHARACTER-18B5F;3 CHARACTER-18B60;3 CHARACTER-18B61;3 CHARACTER-18B62;
3 CHARACTER-18B63;3 CHARACTER-18B64;3 CHARACTER-18B65;3 CHARACTER-18B66;3 CHARACTER-18B67;
3 CHARACTER-18B68;3 CHARACTER-18B69;3 CHARACTER-18B6A;3 CHARACTER-18B6B;3 CHARACTER-18B6C;
3 CHARACTER-18B6D;3 CHARACTER-18B6E;3 CHARACTER-18B6F;3 CHARACTER-18B70;3 CHARACTER-18B71;
3 CHARACTER-18B72;3 CHARACTER-18B73;3 CHARACTER-18B74;3 CHARACTER-18B75;3 CHARACTER-18B76;
3 CHARACTER-18B77;3 CHARACTER-18B78;3 CHARACTER-18B79;3 CHARACTER-18B7A;3 CHARACTER-18B7B;
3 CHARACTER-18B7C;3 CHARACTER-18B7D;3 CHARACTER-18B7E;3 CHARACTER-18B7F;3 CHARACTER-18B80;
3 CHARACTER-18B81;3 CHARACTER-18B82;3 CHARACTER-18B83;3 CHARACTER-18B84;3 CHARACTER-18B85;
3 CHARACTER-18B86;3 CHARACTER-18B87;3 CHARACTER-18B88;3 CHARACTER-18B89;3 CHARACTER-18B8A;
3 CHARACTER-18B8B;3 CHARACTER-18B8C;3 CHARACTER-18B8D;3 CHARACTER-18B8E;3 CHARACTER-18B8F;
3 CHARACTER-18B90;3 CHARACTER-18B91;3 CHARACTER-18B92;3 CHARACTER-18B93;3 CHARACTER-18B94;
3 CHARACTER-18B95;3 CHARACTER-18B96;3 CHARACTER-18B97;3 CHARACTER-18B98;3 CHARACTER-18B99;
3 CHARACTER-18B9A;3 CHARACTER-18B9B;3 CHARACTER-18B9C;3 CHARACTER-18B9D;3 CHARACTER-18B9E;
3 CHARACTER-18B9F;3 CHARACTER-18BA0;3 CHARACTER-18BA1;3 CHARACTER-18BA2;3 CHARACTER-18BA3;
3 CHARACTER-18BA4;3 CHARACTER-18BA5;3 CHARACTER-18BA6;3 CHARACTER-18BA7;3 CHARACTER-18BA8;
3 CHARACTER-18BA9;3 CHARACTER-18BAA;3 CHARACTER-18BAB;3 CHARACTER-18BAC;3 CHARACTER-18BAD;
3 CHARACTER-18BAE;3 CHARACTER-18BAF;3 CHARACTER-18BB0;3 CHARACTER-18BB1;3 CHARACTER-18BB2;
3 CHARACTER-18BB3;3 CHARACTER-18BB4;3 CHARACTER-18BB5;3 CHARACTER-18BB6;3 CHARACTER-18BB7;
3 CHARACTER-18BB8;3 CHARACTER-18BB9;3 CHARACTER-18BBA;3 CHARACTER-18BBB;3 CHARACTER-18BBC;
3 CHARACTER-18BBD;3 CHARACTER-18BBE;3 CHARACTER-18BBF;3 CHARACTER-18BC0;3 CHARACTER-18BC1;
3 CHARACTER-18BC2;3 CHARACTER-18BC3;3 CHARACTER-18BC4;3 CHARACTER-18BC5;3 CHARACTER-18BC6;
3 CHARACTER-18BC7;3 CHARACTER-18BC8;3 CHARACTER-18BC9;3 CHARACTER-18BCA;3 CHARACTER-18BCB;
3 CHARACTER-18BCC;3 CHARACTER-18BCD;3 CHARACTER-18BCE;3 CHARACTER-18BCF;3 CHARACTER-18BD0;
3 CHARACTER-18BD1;3 CHARACTER-18BD2;3 CHARACTER-18BD3;3 CHARACTER-18BD4;3 CHARACTER-18BD5;
3 CHARACTER-18BD6;3 CHARACTER-18BD7;3 CHARACTER-18BD8;3 CHARACTER-18BD9;3 CHARACTER-18BDA;
3 CHARACTER-18BDB;3 CHARACTER-18BDC;3 CHARACTER-18BDD;3 CHARACTER-18BDE;3 CHARACTER-18BDF;
3 CHARACTER-18BE0;3 CHARACTER-18BE1;3 CHARACTER-18BE2;3 CHARACTER-18BE3;3 CHARACTER-18BE4;
3 CHARACTER-18BE5;3 CHARACTER-18BE6;3 CHARACTER-18BE7;3 CHARACTER-18BE8;3 CHARACTER-18BE9;
3 CHARACTER-18BEA;3 CHARACTER-18BEB;3 CHARACTER-18BEC;3 CHARACTER-18BED;3 CHARACTER-18BEE;
3 CHARACTER-18BEF;3 CHARACTER-18BF0;3 CHARACTER-18BF1;3 CHARACTER-18BF2;3 CHARACTER-18BF3;
3 CHARACTER-18BF4;3 CHARACTER-18BF5;3 CHARACTER-18BF6;3 CHARACTER-18BF7;3 CHARACTER-18BF8;
3 CHARACTER-18BF9;3 CHARACTER-18BFA;3 CHARACTER-18BFB;3 CHARACTER-18BFC;3 CHARACTER-18BFD;
3 CHARACTER-18BFE;3 CHARACTER-18BFF;3 CHARACTER-18C00;3 CHARACTER-18C01;3 CHARACTER-18C02;
3 CHARACTER-18C03;3 CHARACTER-18C04;3 CHARACTER-18C05;3 CHARACTER-18C06;3 CHARACTER-18C07;
3 CHARACTER-18C08;3 CHARACTER-18C09;3 CHARACTER-18C0A;3 CHARACTER-18C0B;3 CHARACTER-18C0C;
3 CHARACTER-18C0D;3 CHARACTER-18C0E;3 CHARACTER-18C0F;3 CHARACTER-18C10;3 CHARACTER-18C11;
3 CHARACTER-18C12;3 CHARACTER-18C13;3 CHARACTER-18C14;3 CHARACTER-18C15;3 CHARACTER-18C16;
3 CHARACTER-18C17;3 CHARACTER-18C18;3 CHARACTER-18C19;3 CHARACTER-18C1A;3 CHARACTER-18C1B;
3 CHARACTER-18C1C;3 CHARACTER-18C1D;3 CHARACTER-18C1E;3 CHARACTER-18C1F;3 CHARACTER-18C20;
3 CHARACTER-18C21;3 CHARACTER-18C22;3 CHARACTER-18C23;3 CHARACTER-18C24;3 CHARACTER-18C25;
3 CHARACTER-18C26;3 CHARACTER-18C27;3 CHARACTER-18C28;3 CHARACTER-18C29;3 CHARACTER-18C2A;
3 CHARACTER-18C2B;3 CHARACTER-18C2C;3 CHARACTER-18C2D;3 CHARACTER-18C2E;3 CHARACTER-18C2F;
3 CHARACTER-18C30;3 CHARACTER-18C31;3 CHARACTER-18C32;3 CHARACTER-18C33;3 CHARACTER-18C34;
3 CHARACTER-18C35;3 CHARACTER-18C36;3 CHARACTER-18C37;3 CHARACTER-18C38;3 CHARACTER-18C39;
3 CHARACTER-18C3A;3 CHARACTER-18C3B;3 CHARACTER-18C3C;3 CHARACTER-18C3D;3 CHARACTER-18C3E;
3 CHARACTER-18C3F;3 CHARACTER-18C40;3 CHARACTER-18C41;3 CHARACTER-18C42;3 CHARACTER-18C43;
3 CHARACTER-18C44;3 CHARACTER-18C45;3 CHARACTER-18C46;3 CHARACTER-18C47;3 CHARACTER-18C48;
3 CHARACTER-18C49;3 CHARACTER-18C4A;3 CHARACTER-18C4B;3 CHARACTER-18C4C;3 CHARACTER-18C4D;
3 CHARACTER-18C4E;3 CHARACTER-18C4F;3 CHARACTER-18C50;3 CHARACTER-18C51;3 CHARACTER-18C52;
3 CHARACTER-18C53;3 CHARACTER-18C54;3 CHARACTER-18C55;3 CHARACTER-18C56;3 CHARACTER-18C57;
3 CHARACTER-18C58;3 CHARACTER-18C59;3 CHARACTER-18C5A;3 CHARACTER-18C5B;3 CHARACTER-18C5C;
3 CHARACTER-18C5D;3 CHARACTER-18C5E;3 CHARACTER-18C5F;3 CHARACTER-18C60;3 CHARACTER-18C61;
3 CHARACTER-18C62;3 CHARACTER-18C63;3 CHARACTER-18C64;3 CHARACTER-18C65;3 CHARACTER-18C66;
3 CHARACTER-18C67;3 CHARACTER-18C68;3 CHARACTER-18C69;3 CHARACTER-18C6A;3 CHARACTER-18C6B;
3 CHARACTER-18C6C;3 CHARACTER-18C6D;3 CHARACTER-18C6E;3 CHARACTER-18C6F;3 CHARACTER-18C70;
3 CHARACTER-18C71;3 CHARACTER-18C72;3 CHARACTER-18C73;3 CHARACTER-18C74;3 CHARACTER-18C75;
3 CHARACTER-18C76;3 CHARACTER-18C77;3 CHARACTER-18C78;3 CHARACTER-18C79;3 CHARACTER-18C7A;
3 CHARACTER-18C7B;3 CHARACTER-18C7C;3 CHARACTER-18C7D;3 CHARACTER-18C7E;3 CHARACTER-18C7F;
3 CHARACTER-18C80;3 CHARACTER-18C81;3 CHARACTER-18C82;3 CHARACTER-18C83;3 CHARACTER-18C84;
3 CHARACTER-18C85;3 CHARACTER-18C86;3 CHARACTER-18C87;3 CHARACTER-18C88;3 CHARACTER-18C89;
3 CHARACTER-18C8A;3 CHARACTER-18C8B;3 CHARACTER-18C8C;3 CHARACTER-18C8D;3 CHARACTER-18C8E;
3 CHARACTER-18C8F;3 CHARACTER-18C90;3 CHARACTER-18C91;3 CHARACTER-18C92;3 CHARACTER-18C93;
3 CHARACTER-18C94;3 CHARACTER-18C95;3 CHARACTER-18C96;3 CHARACTER-18C97;3 CHARACTER-18C98;
3 CHARACTER-18C99;3 CHARACTER-18C9A;3 CHARACTER-18C9B;3 CHARACTER-18C9C;3 CHARACTER-18C9D;
3 CHARACTER-18C9E;3 CHARACTER-18C9F;3 CHARACTER-18CA0;3 CHARACTER-18CA1;3 CHARACTER-18CA2;
3 CHARACTER-18CA3;3 CHARACTER-18CA4;3 CHARACTER-18CA5;3 CHARACTER-18CA6;3 CHARACTER-18CA7;
3 CHARACTER-18CA8;3 CHARACTER-18CA9;3 CHARACTER-18CAA;3 CHARACTER-18CAB;3 CHARACTER-18CAC;
3 CHARACTER-18CAD;3 CHARACTER-18CAE;3 CHARACTER-18CAF;3 CHARACTER-18CB0;3 CHARACTER-18CB1;
3 CHARACTER-18CB2;3 CHARACTER-18CB3;3 CHARACTER-18CB4;3 CHARACTER-18CB5;3 CHARACTER-18CB6;
3 CHARACTER-18CB7;3 CHARACTER-18CB8;3 CHARACTER-18CB9;3 CHARACTER-18CBA;3 CHARACTER-18CBB;
3 CHARACTER-18CBC;3 CHARACTER-18CBD;3 CHARACTER-18CBE;3 CHARACTER-18CBF;3 CHARACTER-18CC0;
3 CHARACTER-18CC1;3 CHARACTER-18CC2;3 CHARACTER-18CC3;3 CHARACTER-18CC4;3 CHARACTER-18CC5;
3 CHARACTER-18CC6;3 CHARACTER-18CC7;3 CHARACTER-18CC8;3 CHARACTER-18CC9;3 CHARACTER-18CCA;
3 CHARACTER-18CCB;3 CHARACTER-18CCC;3 CHARACTER-18CCD;3 CHARACTER-18CCE;3 CHARACTER-18CCF;
3 CHARACTER-18CD0;3 CHARACTER-18CD1;3 CHARACTER-18CD2;3 CHARACTER-18CD3;3 CHARACTER-18CD4;
3 CHARACTER-18CD5;@1AFF0;0 KATAKANA LETTER MINNAN TONE-2;3 TONE-3;3 TONE-4;3 TONE-5;@1AFF5;
3 TONE-7;3 TONE-8;3 NASALIZED TONE-1;4 TONE-2;4 TONE-3;4 TONE-4;4 TONE-5;@1AFFD;4 TONE-7;4 TONE-8;
@1B000;2 ARCHAIC E;0 HIRAGANA LETTER ARCHAIC YE;0 HENTAIGANA LETTER A-1;2 A-2;2 A-3;2 A-WO;2 I-1;
2 I-2;2 I-3;2 I-4;2 U-1;2 U-2;2 U-3;2 U-4;2 U-5;2 E-2;2 E-3;2 E-4;2 E-5;2 E-6;2 O-1;2 O-2;2 O-3;
2 KA-1;2 KA-2;2 KA-3;2 KA-4;2 KA-5;2 KA-6;2 KA-7;2 KA-8;2 KA-9;2 KA-10;2 KA-11;2 KA-KE;2 KI-1;
2 KI-2;2 KI-3;2 KI-4;2 KI-5;2 KI-6;2 KI-7;2 KI-8;2 KU-1;2 KU-2;2 KU-3;2 KU-4;2 KU-5;2 KU-6;2 KU-7;
2 KE-1;2 KE-2;2 KE-3;2 KE-4;2 KE-5;2 KE-6;2 KO-1;2 KO-2;2 KO-3;2 KO-KI;2 SA-1;2 SA-2;2 SA-3;
2 SA-4;2 SA-5;2 SA-6;2 SA-7;2 SA-8;2 SI-1;2 SI-2;2 SI-3;2 SI-4;2 SI-5;2 SI-6;2 SU-1;2 SU-2;2 SU-3;
2 SU-4;2 SU-5;2 SU-6;2 SU-7;2 SU-8;2 SE-1;2 SE-2;2 SE-3;2 SE-4;2 SE-5;2 SO-1;2 SO-2;2 SO-3;2 SO-4;
2 SO-5;2 SO-6;2 SO-7;2 TA-1;2 TA-2;2 TA-3;2 TA-4;2 TI-1;2 TI-2;2 TI-3;2 TI-4;2 TI-5;2 TI-6;2 TI-7;
2 TU-1;2 TU-2;2 TU-3;2 TU-4;2 TU-TO;2 TE-1;2 TE-2;2 TE-3;2 TE-4;2 TE-5;2 TE-6;2 TE-7;2 TE-8;
2 TE-9;2 TO-1;2 TO-2;2 TO-3;2 TO-4;2 TO-5;2 TO-6;2 TO-RA;2 NA-1;2 NA-2;2 NA-3;2 NA-4;2 NA-5;
2 NA-6;2 NA-7;2 NA-8;2 NA-9;2 NI-1;2 NI-2;2 NI-3;2 NI-4;2 NI-5;2 NI-6;2 NI-7;2 NI-TE;2 NU-1;
2 NU-2;2 NU-3;2 NE-1;2 NE-2;2 NE-3;2 NE-4;2 NE-5;2 NE-6;2 NE-KO;2 NO-1;2 NO-2;2 NO-3;2 NO-4;
2 NO-5;2 HA-1;2 HA-2;2 HA-3;2 HA-4;2 HA-5;2 HA-6;2 HA-7;2 HA-8;2 HA-9;2 HA-10;2 HA-11;2 HI-1;
2 HI-2;2 HI-3;2 HI-4;2 HI-5;2 HI-6;2 HI-7;2 HU-1;2 HU-2;2 HU-3;2 HE-1;2 HE-2;2 HE-3;2 HE-4;2 HE-5;
2 HE-6;2 HE-7;2 HO-1;2 HO-2;2 HO-3;2 HO-4;2 HO-5;2 HO-6;2 HO-7;2 HO-8;2 MA-1;2 MA-2;2 MA-3;2 MA-4;
2 MA-5;2 MA-6;2 MA-7;2 MI-1;2 MI-2;2 MI-3;2 MI-4;2 MI-5;2 MI-6;2 MI-7;2 MU-1;2 MU-2;2 MU-3;2 MU-4;
2 ME-1;2 ME-2;2 ME-MA;2 MO-1;2 MO-2;2 MO-3;2 MO-4;2 MO-5;2 MO-6;2 YA-1;2 YA-2;2 YA-3;2 YA-4;
2 YA-5;2 YA-YO;2 YU-1;2 YU-2;2 YU-3;2 YU-4;2 YO-1;2 YO-2;2 YO-3;2 YO-4;2 YO-5;2 YO-6;2 RA-1;
2 RA-2;2 RA-3;2 RA-4;2 RI-1;2 RI-2;2 RI-3;2 RI-4;2 RI-5;2 RI-6;2 RI-7;2 RU-1;2 RU-2;2 RU-3;2 RU-4;
2 RU-5;2 RU-6;2 RE-1;2 RE-2;2 RE-3;2 RE-4;2 RO-1;2 RO-2;2 RO-3;2 RO-4;2 RO-5;2 RO-6;2 WA-1;2 WA-2;
2 WA-3;2 WA-4;2 WA-5;2 WI-1;2 WI-2;2 WI-3;2 WI-4;2 WI-5;2 WE-1;2 WE-2;2 WE-3;2 WE-4;2 WO-1;2 WO-2;
2 WO-3;2 WO-4;2 WO-5;2 WO-6;2 WO-7;2 N-MU-MO-1;2 N-MU-MO-2;0 HIRAGANA LETTER ARCHAIC WU;
0 KATAKANA LETTER ARCHAIC YI;3 YE;3 WU;@1B150;0 HIRAGANA LETTER SMALL WI;3 WE;3 WO;@1B164;
0 KATAKANA LETTER SMALL WI;3 WE;3 WO;3 N;@1B170;0 NUSHU CHARACTER-1B170;1 CHARACTER-1B171;
1 CHARACTER-1B172;1 CHARACTER-1B173;1 CHARACTER-1B174;1 CHARACTER-1B175;1 CHARACTER-1B176;
1 CHARACTER-1B177;1 CHARACTER-1B178;1 CHARACTER-1B179;1 CHARACTER-1B17A;1 CHARACTER-1B17B;
1 CHARACTER-1B17C;1 CHARACTER-1B17D;1 CHARACTER-1B17E;1 CHARACTER-1B17F;1 CHARACTER-1B180;
1 CHARACTER-1B181;1 CHARACTER-1B182;1 CHARACTER-1B183;1 CHARACTER-1B184;1 CHARACTER-1B185;
1 CHARACTER-1B186;1 CHARACTER-1B187;1 CHARACTER-1B188;1 CHARACTER-1B189;1 CHARACTER-1B18A;
1 CHARACTER-1B18B;1 CHARACTER-1B18C;1 CHARACTER-1B18D;1 CHARACTER-1B18E;1 CHARACTER-1B18F;
1 CHARACTER-1B190;1 CHARACTER-1B191;1 CHARACTER-1B192;1 CHARACTER-1B193;1 CHARACTER-1B194;
1 CHARACTER-1B195;1 CHARACTER-1B196;1 CHARACTER-1B197;1 CHARACTER-1B198;1 CHARACTER-1B199;
1 CHARACTER-1B19A;1 CHARACTER-1B19B;1 CHARACTER-1B19C;1 CHARACTER-1B19D;1 CHARACTER-1B19E;
1 CHARACTER-1B19F;1 CHARACTER-1B1A0;1 CHARACTER-1B1A1;1 CHARACTER-1B1A2;1 CHARACTER-1B1A3;
1 CHARACTER-1B1A4;1 CHARACTER-1B1A5;1 CHARACTER-1B1A6;1 CHARACTER-1B1A7;1 CHARACTER-1B1A8;
1 CHARACTER-1B1A9;1 CHARACTER-1B1AA;1 CHARACTER-1B1AB;1 CHARACTER-1B1AC;1 CHARACTER-1B1AD;
1 CHARACTER-1B1AE;1 CHARACTER-1B1AF;1 CHARACTER-1B1B0;1 CHARACTER-1B1B1;1 CHARACTER-1B1B2;
1 CHARACTER-1B1B3;1 CHARACTER-1B1B4;1 CHARACTER-1B1B5;1 CHARACTER-1B1B6;1 CHARACTER-1B1B7;
1 CHARACTER-1B1B8;1 CHARACTER-1B1B9;1 CHARACTER-1B1BA;1 CHARACTER-1B1BB;1 CHARACTER-1B1BC;
1 CHARACTER-1B1BD;1 CHARACTER-1B1BE;1 CHARACTER-1B1BF;1 CHARACTER-1B1C0;1 CHARACTER-1B1C1;
1 CHARACTER-1B1C2;1 CHARACTER-1B1C3;1 CHARACTER-1B1C4;1 CHARACTER-1B1C5;1 CHARACTER-1B1C6;
1 CHARACTER-1B1C7;1 CHARACTER-1B1C8;1 CHARACTER-1B1C9;1 CHARACTER-1B1CA;1 CHARACTER-1B1CB;
1 CHARACTER-1B1CC;1 CHARACTER-1B1CD;1 CHARACTER-1B1CE;1 CHARACTER-1B1CF;1 CHARACTER-1B1D0;
1 CHARACTER-1B1D1;1 CHARACTER-1B1D2;1 CHARACTER-1B1D3;1 CHARACTER-1B1D4;1 CHARACTER-1B1D5;
1 CHARACTER-1B1D6;1 CHARACTER-1B1D7;1 CHARACTER-1B1D8;1 CHARACTER-1B1D9;1 CHARACTER-1B1DA;
1 CHARACTER-1B1DB;1 CHARACTER-1B1DC;1 CHARACTER-1B1DD;1 CHARACTER-1B1DE;1 CHARACTER-1B1DF;
1 CHARACTER-1B1E0;1 CHARACTER-1B1E1;1 CHARACTER-1B1E2;1 CHARACTER-1B1E3;1 CHARACTER-1B1E4;
1 CHARACTER-1B1E5;1 CHARACTER-1B1E6;1 CHARACTER-1B1E7;1 CHARACTER-1B1E8;1 CHARACTER-1B1E9;
1 CHARACTER-1B1EA;1 CHARACTER-1B1EB;1 CHARACTER-1B1EC;1 CHARACTER-1B1ED;1 CHARACTER-1B1EE;
1 CHARACTER-1B1EF;1 CHARACTER-1B1F0;1 CHARACTER-1B1F1;1 CHARACTER-1B1F2;1 CHARACTER-1B1F3;
1 CHARACTER-1B1F4;1 CHARACTER-1B1F5;1 CHARACTER-1B1F6;1 CHARACTER-1B1F7;1 CHARACTER-1B1F8;
1 CHARACTER-1B1F9;1 CHARACTER-1B1FA;1 CHARACTER-1B1FB;1 CHARACTER-1B1FC;1 CHARACTER-1B1FD;
1 CHARACTER-1B1FE;1 CHARACTER-1B1FF;1 CHARACTER-1B200;1 CHARACTER-1B201;1 CHARACTER-1B202;
1 CHARACTER-1B203;1 CHARACTER-1B204;1 CHARACTER-1B205;1 CHARACTER-1B206;1 CHARACTER-1B207;
1 CHARACTER-1B208;1 CHARACTER-1B209;1 CHARACTER-1B20A;1 CHARACTER-1B20B;1 CHARACTER-1B20C;
1 CHARACTER-1B20D;1 CHARACTER-1B20E;1 CHARACTER-1B20F;1 CHARACTER-1B210;1 CHARACTER-1B211;
1 CHARACTER-1B212;1 CHARACTER-1B213;1 CHARACTER-1B214;1 CHARACTER-1B215;1 CHARACTER-1B216;
1 CHARACTER-1B217;1 CHARACTER-1B218;1 CHARACTER-1B219;1 CHARACTER-1B21A;1 CHARACTER-1B21B;
1 CHARACTER-1B21C;1 CHARACTER-1B21D;1 CHARACTER-1B21E;1 CHARACTER-1B21F;1 CHARACTER-1B220;
1 CHARACTER-1B221;1 CHARACTER-1B222;1 CHARACTER-1B223;1 CHARACTER-1B224;1 CHARACTER-1B225;
1 CHARACTER-1B226;1 CHARACTER-1B227;1 CHARACTER-1B228;1 CHARACTER-1B229;1 CHARACTER-1B22A;
1 CHARACTER-1B22B;1 CHARACTER-1B22C;1 CHARACTER-1B22D;1 CHARACTER-1B22E;1 CHARACTER-1B22F;
1 CHARACTER-1B230;1 CHARACTER-1B231;1 CHARACTER-1B232;1 CHARACTER-1B233;1 CHARACTER-1B234;
1 CHARACTER-1B235;1 CHARACTER-1B236;1 CHARACTER-1B237;1 CHARACTER-1B238;1 CHARACTER-1B239;
1 CHARACTER-1B23A;1 CHARACTER-1B23B;1 CHARACTER-1B23C;1 CHARACTER-1B23D;1 CHARACTER-1B23E;
1 CHARACTER-1B23F;1 CHARACTER-1B240;1 CHARACTER-1B241;1 CHARACTER-1B242;1 CHARACTER-1B243;
1 CHARACTER-1B244;1 CHARACTER-1B245;1 CHARACTER-1B246;1 CHARACTER-1B247;1 CHARACTER-1B248;
1 CHARACTER-1B249;1 CHARACTER-1B24A;1 CHARACTER-1B24B;1 CHARACTER-1B24C;1 CHARACTER-1B24D;
1 CHARACTER-1B24E;1 CHARACTER-1B24F;1 CHARACTER-1B250;1 CHARACTER-1B251;1 CHARACTER-1B252;
1 CHARACTER-1B253;1 CHARACTER-1B254;1 CHARACTER-1B255;1 CHARACTER-1B256;1 CHARACTER-1B257;
1 CHARACTER-1B258;1 CHARACTER-1B259;1 CHARACTER-1B25A;1 CHARACTER-1B25B;1 CHARACTER-1B25C;
1 CHARACTER-1B25D;1 CHARACTER-1B25E;1 CHARACTER-1B25F;1 CHARACTER-1B260;1 CHARACTER-1B261;
1 CHARACTER-1B262;1 CHARACTER-1B263;1 CHARACTER-1B264;1 CHARACTER-1B265;1 CHARACTER-1B266;
1 CHARACTER-1B267;1 CHARACTER-1B268;1 CHARACTER-1B269;1 CHARACTER-1B26A;1 CHARACTER-1B26B;
1 CHARACTER-1B26C;1 CHARACTER-1B26D;1 CHARACTER-1B26E;1 CHARACTER-1B26F;1 CHARACTER-1B270;
1 CHARACTER-1B271;1 CHARACTER-1B272;1 CHARACTER-1B273;1 CHARACTER-1B274;1 CHARACTER-1B275;
1 CHARACTER-1B276;1 CHARACTER-1B277;1 CHARACTER-1B278;1 CHARACTER-1B279;1 CHARACTER-1B27A;
1 CHARACTER-1B27B;1 CHARACTER-1B27C;1 CHARACTER-1B27D;1 CHARACTER-1B27E;1 CHARACTER-1B27F;
1 CHARACTER-1B280;1 CHARACTER-1B281;1 CHARACTER-1B282;1 CHARACTER-1B283;1 CHARACTER-1B284;
1 CHARACTER-1B285;1 CHARACTER-1B286;1 CHARACTER-1B287;1 CHARACTER-1B288;1 CHARACTER-1B289;
1 CHARACTER-1B28A;1 CHARACTER-1B28B;1 CHARACTER-1B28C;1 CHARACTER-1B28D;1 CHARACTER-1B28E;
1 CHARACTER-1B28F;1 CHARACTER-1B290;1 CHARACTER-1B291;1 CHARACTER-1B292;1 CHARACTER-1B293;
1 CHARACTER-1B294;1 CHARACTER-1B295;1 CHARACTER-1B296;1 CHARACTER-1B297;1 CHARACTER-1B298;
1 CHARACTER-1B299;1 CHARACTER-1B29A;1 CHARACTER-1B29B;1 CHARACTER-1B29C;1 CHARACTER-1B29D;
1 CHARACTER-1B29E;1 CHARACTER-1B29F;1 CHARACTER-1B2A0;1 CHARACTER-1B2A1;1 CHARACTER-1B2A2;
1 CHARACTER-1B2A3;1 CHARACTER-1B2A4;1 CHARACTER-1B2A5;1 CHARACTER-1B2A6;1 CHARACTER-1B2A7;
1 CHARACTER-1B2A8;1 CHARACTER-1B2A9;1 CHARACTER-1B2AA;1 CHARACTER-1B2AB;1 CHARACTER-1B2AC;
1 CHARACTER-1B2AD;1 CHARACTER-1B2AE;1 CHARACTER-1B2AF;1 CHARACTER-1B2B0;1 CHARACTER-1B2B1;
1 CHARACTER-1B2B2;1 CHARACTER-1B2B3;1 CHARACTER-1B2B4;1 CHARACTER-1B2B5;1 CHARACTER-1B2B6;
1 CHARACTER-1B2B7;1 CHARACTER-1B2B8;1 CHARACTER-1B2B9;1 CHARACTER-1B2BA;1 CHARACTER-1B2BB;
1 CHARACTER-1B2BC;1 CHARACTER-1B2BD;1 CHARACTER-1B2BE;1 CHARACTER-1B2BF;1 CHARACTER-1B2C0;
1 CHARACTER-1B2C1;1 CHARACTER-1B2C2;1 CHARACTER-1B2C3;1 CHARACTER-1B2C4;1 CHARACTER-1B2C5;
1 CHARACTER-1B2C6;1 CHARACTER-1B2C7;1 CHARACTER-1B2C8;1 CHARACTER-1B2C9;1 CHARACTER-1B2CA;
1 CHARACTER-1B2CB;1 CHARACTER-1B2CC;1 CHARACTER-1B2CD;1 CHARACTER-1B2CE;1 CHARACTER-1B2CF;
1 CHARACTER-1B2D0;1 CHARACTER-1B2D1;1 CHARACTER-1B2D2;1 CHARACTER-1B2D3;1 CHARACTER-1B2D4;
1 CHARACTER-1B2D5;1 CHARACTER-1B2D6;1 CHARACTER-1B2D7;1 CHARACTER-1B2D8;1 CHARACTER-1B2D9;
1 CHARACTER-1B2DA;1 CHARACTER-1B2DB;1 CHARACTER-1B2DC;1 CHARACTER-1B2DD;1 CHARACTER-1B2DE;
1 CHARACTER-1B2DF;1 CHARACTER-1B2E0;1 CHARACTER-1B2E1;1 CHARACTER-1B2E2;1 CHARACTER-1B2E3;
1 CHARACTER-1B2E4;1 CHARACTER-1B2E5;1 CHARACTER-1B2E6;1 CHARACTER-1B2E7;1 CHARACTER-1B2E8;
1 CHARACTER-1B2E9;1 CHARACTER-1B2EA;1 CHARACTER-1B2EB;1 CHARACTER-1B2EC;1 CHARACTER-1B2ED;
1 CHARACTER-1B2EE;1 CHARACTER-1B2EF;1 CHARACTER-1B2F0;1 CHARACTER-1B2F1;1 CHARACTER-1B2F2;
1 CHARACTER-1B2F3;1 CHARACTER-1B2F4;1 CHARACTER-1B2F5;1 CHARACTER-1B2F6;1 CHARACTER-1B2F7;
1 CHARACTER-1B2F8;1 CHARACTER-1B2F9;1 CHARACTER-1B2FA;1 CHARACTER-1B2FB;@1BC00;
0 DUPLOYAN LETTER H;2 X;2 P;2 T;2 F;2 K;2 L;2 B;2 D;2 V;2 G;2 R;2 P N;2 D S;2 F N;2 K M;2 R S;
2 TH;2 SLOAN DH;2 DH;2 KK;2 SLOAN J;2 HL;2 LH;2 RH;2 M;2 N;2 J;2 S;2 M N;2 N M;2 J M;2 S J;
2 M WITH DOT;2 N WITH DOT;2 J WITH DOT;4 DOTS INSIDE AND ABOVE;2 S WITH DOT;5 BELOW;2 M S;2 N S;
2 J S;2 S S;2 M N S;2 N M S;2 J M S;2 S J S;2 J S WITH DOT;3 N;4 S;2 S T;4 R;3 P;4 R;2 T S;3 R S;
2 W;2 WH;2 W R;2 S N;3 M;2 K R S;2 G R S;2 S K;4 R;2 A;2 SLOAN OW;2 OA;2 O;2 AOU;2 I;2 E;2 IE;
2 SHORT I;2 UI;2 EE;2 SLOAN EH;2 ROMANIAN I;2 SLOAN EE;2 LONG I;2 YE;2 U;2 EU;2 XW;2 U N;2 LONG U;
2 ROMANIAN U;2 UH;2 SLOAN U;2 OOH;2 OW;2 OU;2 WA;2 WO;2 WI;2 WEI;2 WOW;2 NASAL U;3 O;3 I;3 A;
2 PERNIN AN;3 AM;2 SLOAN EN;3 AN;3 ON;2 VOCALIC M;@1BC70;1 AFFIX LEFT HORIZONTAL SECANT;
2 MID HORIZONTAL SECANT;2 RIGHT HORIZONTAL SECANT;2 LOW VERTICAL SECANT;2 MID VERTICAL SECANT;
2 HIGH VERTICAL SECANT;2 ATTACHED SECANT;3 LEFT-TO-RIGHT SECANT;3 TANGENT;3 TAIL;3 E HOOK;
3 I HOOK;3 TANGENT HOOK;@1BC80;2 HIGH ACUTE;3 TIGHT ACUTE;3 GRAVE;3 LONG GRAVE;3 DOT;3 CIRCLE;
3 LINE;3 WAVE;3 VERTICAL;@1BC90;2 LOW ACUTE;3 TIGHT ACUTE;3 GRAVE;3 LONG GRAVE;3 DOT;3 CIRCLE;
3 LINE;3 WAVE;3 VERTICAL;3 ARROW;@1BC9C;1 SIGN O WITH CROSS;1 THICK LETTER SELECTOR;1 DOUBLE MARK;
1 PUNCTUATION CHINOOK FULL STOP;0 SHORTHAND FORMAT LETTER OVERLAP;2 CONTINUING OVERLAP;
2 DOWN STEP;2 UP STEP;@1CF00;0 ZNAMENNY COMBINING MARK GORAZDO NIZKO S KRYZHEM ON LEFT;
3 NIZKO S KRYZHEM ON LEFT;3 TSATA ON LEFT;3 GORAZDO NIZKO ON LEFT;3 NIZKO ON LEFT;
3 SREDNE ON LEFT;3 MALO POVYSHE ON LEFT;3 POVYSHE ON LEFT;3 VYSOKO ON LEFT;
3 MALO POVYSHE S KHOKHLOM ON LEFT;3 POVYSHE S KHOKHLOM ON LEFT;3 VYSOKO S KHOKHLOM ON LEFT;
3 GORAZDO NIZKO S KRYZHEM ON RIGHT;3 NIZKO S KRYZHEM ON RIGHT;3 TSATA ON RIGHT;
3 GORAZDO NIZKO ON RIGHT;3 NIZKO ON RIGHT;3 SREDNE ON RIGHT;3 MALO POVYSHE ON RIGHT;
3 POVYSHE ON RIGHT;3 VYSOKO ON RIGHT;3 MALO POVYSHE S KHOKHLOM ON RIGHT;
3 POVYSHE S KHOKHLOM ON RIGHT;3 VYSOKO S KHOKHLOM ON RIGHT;3 TSATA S KRYZHEM;
3 MALO POVYSHE S KRYZHEM;3 STRANNO MALO POVYSHE;3 POVYSHE S KRYZHEM;4 STRANNO;3 VYSOKO S KRYZHEM;
3 MALO POVYSHE STRANNO;3 GORAZDO VYSOKO;3 ZELO;3 ON;3 RAVNO;3 TIKHAYA;3 BORZAYA;3 UDARKA;
3 PODVERTKA;3 LOMKA;3 KUPNAYA;3 KACHKA;3 ZEVOK;3 SKOBA;3 RAZSEKA;3 KRYZH ON LEFT;@1CF30;
2 TONAL RANGE MARK MRACHNO;5 SVETLO;5 TRESVETLO;2 MARK ZADERZHKA;3 DEMESTVENNY ZADERZHKA;
3 OTSECHKA;3 PODCHASHIE;4 WITH VERTICAL STROKE;3 CHASHKA;4 POLNAYA;3 OBLACHKO;3 SOROCHYA NOZHKA;
3 TOCHKA;3 DVOETOCHIE;2 ATTACHING VERTICAL OMET;2 MARK CURVED OMET;3 KRYZH;
2 LOWER TONAL RANGE INDICATOR;1 PRIZNAK MODIFIER LEVEL-2;3 LEVEL-3;3 DIRECTION FLIP;3 KRYZH;3 ROG;
@1CF50;1 NEUME KRYUK;3 TIKHY;2 PARAKLIT;2 DVA V CHELNU;2 KLYUCH;2 ZANOZHEK;2 STOPITSA;3 S OCHKOM;
2 PEREVODKA;3 NEPOSTOYANNAYA;2 STOPITSA WITH SOROCHYA NOZHKA;2 CHELYUSTKA;2 PALKA;2 ZAPYATAYA;
2 GOLUBCHIK BORZY;3 TIKHY;3 MRACHNY;3 SVETLY;3 TRESVETLY;2 VRAKHIYA PROSTAYA;3 MRACHNAYA;
3 SVETLAYA;3 TRESVETLAYA;3 KLYUCHEVAYA PROSTAYA;4 MRACHNAYA;4 SVETLAYA;4 TRESVETLAYA;
2 DOUBLE ZAPYATAYA;2 REVERSED CHELYUSTKA;2 DERBITSA;2 KHAMILO;2 CHASHKA;2 PODCHASHIE;
2 SKAMEYTSA MRACHNAYA;3 SVETLAYA;3 TRESVETLAYA;3 TIKHAYA;2 DEMESTVENNY KLYUCH;
2 SKAMEYTSA KLYUCHEVAYA SVETLAYA;3 KLYUCHENEPOSTOYANNAYA;3 KLYUCHEVAYA TIKHAYA;
3 DVOECHELNAYA PROSTAYA;4 SVETLAYA;4 NEPOSTOYANNAYA;4 KLYUCHEVAYA;2 SLOZHITIE;3 S ZAPYATOY;
3 ZAKRYTOE;3 S KRYZHEM;2 KRYZH;2 ROG;2 FITA;2 KOBYLA;2 ZMEYTSA;2 STATYA;3 S ZAPYATOY;4 KRYZHEM;
4 ZAPYATOY I KRYZHEM;4 KRYZHEM I ZAPYATOY;3 ZAKRYTAYA;4 S ZAPYATOY;3 S ROGOM;4 DVUMYA ZAPYATYMI;
4 ZAPYATOY I PODCHASHIEM;2 POLKULIZMY;2 STATYA NEPOSTOYANNAYA;2 STRELA PROSTAYA;3 MRACHNOTIKHAYA;
3 KRYZHEVAYA;3 POLUPOVODNAYA;3 POVODNAYA;3 NEPOSTOYANNAYA;3 KLYUCHEPOVODNAYA;
3 KLYUCHENEPOSTOYANNAYA;3 TIKHAYA PUTNAYA;3 DVOECHELNAYA;3 DVOECHELNOKRYZHEVAYA;
3 DVOECHELNOPOVODNAYA;3 DVOECHELNAYA KLYUCHEVAYA;3 DVOECHELNOPOVODNAYA KLYUCHEVAYA;
3 GROMNAYA WITH SINGLE ZAPYATAYA;3 GROMOPOVODNAYA WITH SINGLE ZAPYATAYA;3 GROMNAYA;
3 GROMOPOVODNAYA;4 WITH DOUBLE ZAPYATAYA;3 GROMOKRYZHEVAYA;4 POVODNAYA;2 MECHIK;3 POVODNY;
3 KLYUCHEVOY;3 KLYUCHEPOVODNY;3 KLYUCHENEPOSTOYANNY;2 STRELA TRYASOGLASNAYA;3 TRYASOPOVODNAYA;
3 TRYASOSTRELNAYA;2 OSOKA;3 SVETLAYA;3 TRESVETLAYA;3 KRYUKOVAYA SVETLAYA;3 KLYUCHEVAYA SVETLAYA;
4 NEPOSTOYANNAYA;2 STRELA KRYUKOVAYA;4 POVODNAYA;4 GROMNAYA WITH SINGLE ZAPYATAYA;
4 GROMOPOVODNAYA WITH SINGLE ZAPYATAYA;4 GROMNAYA;4 GROMOPOVODNAYA;5 WITH DOUBLE ZAPYATAYA;
4 GROMOKRYZHEVAYA;5 POVODNAYA;4 TRYASKA;2 KUFISMA;2 OBLAKO;2 DUDA;2 NEMKA;2 PAUK;@1D000;
0 BYZANTINE MUSICAL SYMBOL PSILI;3 DASEIA;3 PERISPOMENI;3 OXEIA EKFONITIKON;4 DIPLI;
3 VAREIA EKFONITIKON;4 DIPLI;3 KATHISTI;3 SYRMATIKI;3 PARAKLITIKI;3 YPOKRISIS;4 DIPLI;3 KREMASTI;
3 APESO EKFONITIKON;3 EXO EKFONITIKON;3 TELEIA;3 KENTIMATA;3 APOSTROFOS;4 DIPLI;3 SYNEVMA;3 THITA;
3 OLIGON ARCHAION;3 GORGON ARCHAION;3 PSILON;3 CHAMILON;3 VATHY;3 ISON ARCHAION;
3 KENTIMA ARCHAION;3 KENTIMATA ARCHAION;3 SAXIMATA;3 PARICHON;3 STAVROS APODEXIA;
3 OXEIAI ARCHAION;3 VAREIAI ARCHAION;3 APODERMA ARCHAION;3 APOTHEMA;3 KLASMA;3 REVMA;
3 PIASMA ARCHAION;3 TINAGMA;3 ANATRICHISMA;3 SEISMA;3 SYNAGMA ARCHAION;4 META STAVROU;
3 OYRANISMA ARCHAION;3 THEMA;3 LEMOI;3 DYO;3 TRIA;3 TESSERA;3 KRATIMATA;3 APESO EXO NEO;
3 FTHORA ARCHAION;3 IMIFTHORA;3 TROMIKON ARCHAION;3 KATAVA TROMIKON;3 PELASTON;3 PSIFISTON;
3 KONTEVMA;3 CHOREVMA ARCHAION;3 RAPISMA;3 PARAKALESMA ARCHAION;3 PARAKLITIKI ARCHAION;3 ICHADIN;
3 NANA;3 PETASMA;3 KONTEVMA ALLO;3 TROMIKON ALLO;3 STRAGGISMATA;3 GRONTHISMATA;3 ISON NEO;
3 OLIGON NEO;3 OXEIA NEO;3 PETASTI;3 KOUFISMA;3 PETASTOKOUFISMA;3 KRATIMOKOUFISMA;3 PELASTON NEO;
3 KENTIMATA NEO ANO;3 KENTIMA NEO ANO;3 YPSILI;3 APOSTROFOS NEO;3 APOSTROFOI SYNDESMOS NEO;
3 YPORROI;3 KRATIMOYPORROON;3 ELAFRON;3 CHAMILI;3 MIKRON ISON;3 VAREIA NEO;3 PIASMA NEO;
3 PSIFISTON NEO;3 OMALON;3 ANTIKENOMA;3 LYGISMA;3 PARAKLITIKI NEO;3 PARAKALESMA NEO;
3 ETERON PARAKALESMA;3 KYLISMA;3 ANTIKENOKYLISMA;3 TROMIKON NEO;3 EKSTREPTON;3 SYNAGMA NEO;
3 SYRMA;3 CHOREVMA NEO;3 EPEGERMA;3 SEISMA NEO;3 XIRON KLASMA;3 TROMIKOPSIFISTON;
3 PSIFISTOLYGISMA;3 TROMIKOLYGISMA;3 TROMIKOPARAKALESMA;3 PSIFISTOPARAKALESMA;3 TROMIKOSYNAGMA;
3 PSIFISTOSYNAGMA;3 GORGOSYNTHETON;3 ARGOSYNTHETON;3 ETERON ARGOSYNTHETON;3 OYRANISMA NEO;
3 THEMATISMOS ESO;4 EXO;3 THEMA APLOUN;3 THES KAI APOTHES;3 KATAVASMA;3 ENDOFONON;3 YFEN KATO;
4 ANO;3 STAVROS;3 KLASMA ANO;3 DIPLI ARCHAION;3 KRATIMA ARCHAION;4 ALLO;4 NEO;3 APODERMA NEO;
3 APLI;3 DIPLI;3 TRIPLI;3 TETRAPLI;3 KORONIS;3 LEIMMA ENOS CHRONOU;4 DYO CHRONON;4 TRION CHRONON;
4 TESSARON CHRONON;4 IMISEOS CHRONOU;3 GORGON NEO ANO;4 PARESTIGMENON ARISTERA;5 DEXIA;3 DIGORGON;
4 PARESTIGMENON ARISTERA KATO;6 ANO;5 DEXIA;3 TRIGORGON;3 ARGON;3 IMIDIARGON;3 DIARGON;
3 AGOGI POLI ARGI;4 ARGOTERI;4 ARGI;4 METRIA;4 MESI;4 GORGI;4 GORGOTERI;4 POLI GORGI;
3 MARTYRIA PROTOS ICHOS;4 ALLI PROTOS ICHOS;4 DEYTEROS ICHOS;4 ALLI DEYTEROS ICHOS;4 TRITOS ICHOS;
4 TRIFONIAS;4 TETARTOS ICHOS;5 LEGETOS ICHOS;4 LEGETOS ICHOS;4 PLAGIOS ICHOS;
3 ISAKIA TELOUS ICHIMATOS;3 APOSTROFOI TELOUS ICHIMATOS;3 FANEROSIS TETRAFONIAS;4 MONOFONIAS;
4 DIFONIAS;3 MARTYRIA VARYS ICHOS;4 PROTOVARYS ICHOS;4 PLAGIOS TETARTOS ICHOS;
3 GORTHMIKON N APLOUN;5 DIPLOUN;3 ENARXIS KAI FTHORA VOU;3 IMIFONON;3 IMIFTHORON;
3 FTHORA ARCHAION DEYTEROU ICHOU;4 DIATONIKI PA;5 NANA;4 NAOS ICHOS;4 DIATONIKI DI;
4 SKLIRON DIATONON DI;4 DIATONIKI KE;5 ZO;5 NI KATO;6 ANO;4 MALAKON CHROMA DIFONIAS;6 MONOFONIAS;
3 FHTORA SKLIRON CHROMA VASIS;3 FTHORA SKLIRON CHROMA SYNAFI;4 NENANO;3 CHROA ZYGOS;4 KLITON;
4 SPATHI;3 FTHORA I YFESIS TETARTIMORION;4 ENARMONIOS ANTIFONIA;3 YFESIS TRITIMORION;
3 DIESIS TRITIMORION;4 TETARTIMORION;4 APLI DYO DODEKATA;4 MONOGRAMMOS TESSERA DODEKATA;
4 DIGRAMMOS EX DODEKATA;4 TRIGRAMMOS OKTO DODEKATA;3 YFESIS APLI DYO DODEKATA;
4 MONOGRAMMOS TESSERA DODEKATA;4 DIGRAMMOS EX DODEKATA;4 TRIGRAMMOS OKTO DODEKATA;3 GENIKI DIESIS;
4 YFESIS;3 DIASTOLI APLI MIKRI;5 MEGALI;4 DIPLI;4 THESEOS;3 SIMANSIS THESEOS;5 DISIMOU;5 TRISIMOU;
5 TETRASIMOU;4 ARSEOS;5 DISIMOU;5 TRISIMOU;5 TETRASIMOU;3 DIGRAMMA GG;3 DIFTOGGOS OU;3 STIGMA;
3 ARKTIKO PA;4 VOU;4 GA;4 DI;4 KE;4 ZO;4 NI;3 KENTIMATA NEO MESO;3 KENTIMA NEO MESO;
3 KENTIMATA NEO KATO;3 KENTIMA NEO KATO;3 KLASMA KATO;3 GORGON NEO KATO;@1D100;
0 MUSICAL SYMBOL SINGLE BARLINE;2 DOUBLE BARLINE;2 FINAL BARLINE;2 REVERSE FINAL BARLINE;
2 DASHED BARLINE;2 SHORT BARLINE;2 LEFT REPEAT SIGN;2 RIGHT REPEAT SIGN;2 REPEAT DOTS;2 DAL SEGNO;
2 DA CAPO;2 SEGNO;2 CODA;2 REPEATED FIGURE-1;3 FIGURE-2;3 FIGURE-3;2 FERMATA;3 BELOW;
2 BREATH MARK;2 CAESURA;2 BRACE;2 BRACKET;2 ONE-LINE STAFF;2 TWO-LINE STAFF;2 THREE-LINE STAFF;
2 FOUR-LINE STAFF;2 FIVE-LINE STAFF;2 SIX-LINE STAFF;2 SIX-STRING FRETBOARD;
2 FOUR-STRING FRETBOARD;2 G CLEF;4 OTTAVA ALTA;5 BASSA;2 C CLEF;2 F CLEF;4 OTTAVA ALTA;5 BASSA;
2 DRUM CLEF-1;3 CLEF-2;@1D129;2 MULTIPLE MEASURE REST;2 DOUBLE SHARP;3 FLAT;2 FLAT UP;3 DOWN;
2 NATURAL UP;3 DOWN;2 SHARP UP;3 DOWN;2 QUARTER TONE SHARP;4 FLAT;2 COMMON TIME;2 CUT TIME;
2 OTTAVA ALTA;3 BASSA;2 QUINDICESIMA ALTA;3 BASSA;2 MULTI REST;2 WHOLE REST;2 HALF REST;
2 QUARTER REST;2 EIGHTH REST;2 SIXTEENTH REST;2 THIRTY-SECOND REST;2 SIXTY-FOURTH REST;
2 ONE HUNDRED TWENTY-EIGHTH REST;2 X NOTEHEAD;2 PLUS NOTEHEAD;2 CIRCLE X NOTEHEAD;
2 SQUARE NOTEHEAD WHITE;4 BLACK;2 TRIANGLE NOTEHEAD UP WHITE;5 BLACK;4 LEFT WHITE;5 BLACK;
4 RIGHT WHITE;5 BLACK;4 DOWN WHITE;5 BLACK;4 UP RIGHT WHITE;6 BLACK;2 MOON NOTEHEAD WHITE;4 BLACK;
2 TRIANGLE-ROUND NOTEHEAD DOWN WHITE;5 BLACK;2 PARENTHESIS NOTEHEAD;2 VOID NOTEHEAD;
2 NOTEHEAD BLACK;2 NULL NOTEHEAD;2 CLUSTER NOTEHEAD WHITE;4 BLACK;2 BREVE;2 WHOLE NOTE;
2 HALF NOTE;2 QUARTER NOTE;2 EIGHTH NOTE;2 SIXTEENTH NOTE;2 THIRTY-SECOND NOTE;
2 SIXTY-FOURTH NOTE;2 ONE HUNDRED TWENTY-EIGHTH NOTE;2 COMBINING STEM;3 SPRECHGESANG STEM;
3 TREMOLO-1;3 TREMOLO-2;3 TREMOLO-3;2 FINGERED TREMOLO-1;3 TREMOLO-2;3 TREMOLO-3;
2 COMBINING AUGMENTATION DOT;3 FLAG-1;3 FLAG-2;3 FLAG-3;3 FLAG-4;3 FLAG-5;2 BEGIN BEAM;2 END BEAM;
2 BEGIN TIE;2 END TIE;2 BEGIN SLUR;2 END SLUR;2 BEGIN PHRASE;2 END PHRASE;2 COMBINING ACCENT;
3 STACCATO;3 TENUTO;3 STACCATISSIMO;3 MARCATO;3 MARCATO-STACCATO;3 ACCENT-STACCATO;3 LOURE;
2 ARPEGGIATO UP;3 DOWN;2 COMBINING DOIT;3 RIP;3 FLIP;3 SMEAR;3 BEND;3 DOUBLE TONGUE;
3 TRIPLE TONGUE;2 RINFORZANDO;2 SUBITO;2 Z;2 PIANO;2 MEZZO;2 FORTE;2 CRESCENDO;2 DECRESCENDO;
2 GRACE NOTE SLASH;4 NO SLASH;2 TR;2 TURN;2 INVERTED TURN;2 TURN SLASH;3 UP;2 ORNAMENT STROKE-1;
3 STROKE-2;3 STROKE-3;3 STROKE-4;3 STROKE-5;3 STROKE-6;3 STROKE-7;3 STROKE-8;3 STROKE-9;
3 STROKE-10;3 STROKE-11;2 HAUPTSTIMME;2 NEBENSTIMME;2 END OF STIMME;2 DEGREE SLASH;
2 COMBINING DOWN BOW;3 UP BOW;3 HARMONIC;3 SNAP PIZZICATO;2 PEDAL MARK;3 UP MARK;
2 HALF PEDAL MARK;2 GLISSANDO UP;3 DOWN;2 WITH FINGERNAILS;2 DAMP;3 ALL;2 MAXIMA;2 LONGA;2 BREVIS;
2 SEMIBREVIS WHITE;3 BLACK;2 MINIMA;3 BLACK;2 SEMIMINIMA WHITE;3 BLACK;2 FUSA WHITE;3 BLACK;
2 LONGA PERFECTA REST;3 IMPERFECTA REST;2 BREVIS REST;2 SEMIBREVIS REST;2 MINIMA REST;
2 SEMIMINIMA REST;2 TEMPUS PERFECTUM CUM PROLATIONE PERFECTA;6 IMPERFECTA;6 PERFECTA DIMINUTION-1;
3 IMPERFECTUM CUM PROLATIONE PERFECTA;6 IMPERFECTA;7 DIMINUTION-1;7 DIMINUTION-2;7 DIMINUTION-3;
2 CROIX;2 GREGORIAN C CLEF;3 F CLEF;2 SQUARE B;2 VIRGA;2 PODATUS;2 CLIVIS;2 SCANDICUS;2 CLIMACUS;
2 TORCULUS;2 PORRECTUS;3 FLEXUS;2 SCANDICUS FLEXUS;2 TORCULUS RESUPINUS;2 PES SUBPUNCTIS;
2 KIEVAN C CLEF;3 END OF PIECE;3 FINAL NOTE;3 RECITATIVE MARK;3 WHOLE NOTE;3 HALF NOTE;
3 QUARTER NOTE STEM DOWN;6 UP;3 EIGHTH NOTE STEM DOWN;6 UP;3 FLAT SIGN;2 SORI;2 KORON;@1D200;
0 GREEK VOCAL NOTATION SYMBOL-1;3 SYMBOL-2;3 SYMBOL-3;3 SYMBOL-4;3 SYMBOL-5;3 SYMBOL-6;3 SYMBOL-7;
3 SYMBOL-8;3 SYMBOL-9;3 SYMBOL-10;3 SYMBOL-11;3 SYMBOL-12;3 SYMBOL-13;3 SYMBOL-14;3 SYMBOL-15;
3 SYMBOL-16;3 SYMBOL-17;3 SYMBOL-18;3 SYMBOL-19;3 SYMBOL-20;3 SYMBOL-21;3 SYMBOL-22;3 SYMBOL-23;
3 SYMBOL-24;3 SYMBOL-50;3 SYMBOL-51;3 SYMBOL-52;3 SYMBOL-53;3 SYMBOL-54;
1 INSTRUMENTAL NOTATION SYMBOL-1;3 SYMBOL-2;3 SYMBOL-4;3 SYMBOL-5;3 SYMBOL-7;3 SYMBOL-8;
3 SYMBOL-11;3 SYMBOL-12;3 SYMBOL-13;3 SYMBOL-14;3 SYMBOL-17;3 SYMBOL-18;3 SYMBOL-19;3 SYMBOL-23;
3 SYMBOL-24;3 SYMBOL-25;3 SYMBOL-26;3 SYMBOL-27;3 SYMBOL-29;3 SYMBOL-30;3 SYMBOL-32;3 SYMBOL-36;
3 SYMBOL-37;3 SYMBOL-38;3 SYMBOL-39;3 SYMBOL-40;3 SYMBOL-42;3 SYMBOL-43;3 SYMBOL-45;3 SYMBOL-47;
3 SYMBOL-48;3 SYMBOL-49;3 SYMBOL-50;3 SYMBOL-51;3 SYMBOL-52;3 SYMBOL-53;3 SYMBOL-54;
0 COMBINING GREEK MUSICAL TRISEME;3 TETRASEME;3 PENTASEME;0 GREEK MUSICAL LEIMMA;@1D2E0;
0 MAYAN NUMERAL ZERO;2 ONE;2 TWO;2 THREE;2 FOUR;2 FIVE;2 SIX;2 SEVEN;2 EIGHT;2 NINE;2 TEN;
2 ELEVEN;2 TWELVE;2 THIRTEEN;2 FOURTEEN;2 FIFTEEN;2 SIXTEEN;2 SEVENTEEN;2 EIGHTEEN;2 NINETEEN;
@1D300;0 MONOGRAM FOR EARTH;0 DIGRAM FOR HEAVENLY EARTH;2 HUMAN EARTH;2 EARTHLY HEAVEN;3 HUMAN;
2 EARTH;0 TETRAGRAM FOR CENTRE;2 FULL CIRCLE;2 MIRED;2 BARRIER;2 KEEPING SMALL;2 CONTRARIETY;
2 ASCENT;2 OPPOSITION;2 BRANCHING OUT;2 DEFECTIVENESS OR DISTORTION;2 DIVERGENCE;2 YOUTHFULNESS;
2 INCREASE;2 PENETRATION;2 REACH;2 CONTACT;2 HOLDING BACK;2 WAITING;2 FOLLOWING;2 ADVANCE;
2 RELEASE;2 RESISTANCE;2 EASE;2 JOY;2 CONTENTION;2 ENDEAVOUR;2 DUTIES;2 CHANGE;2 DECISIVENESS;
2 BOLD RESOLUTION;2 PACKING;2 LEGION;2 CLOSENESS;2 KINSHIP;2 GATHERING;2 STRENGTH;2 PURITY;
2 FULLNESS;2 RESIDENCE;2 LAW OR MODEL;2 RESPONSE;2 GOING TO MEET;2 ENCOUNTERS;2 STOVE;2 GREATNESS;
2 ENLARGEMENT;2 PATTERN;2 RITUAL;2 FLIGHT;2 VASTNESS OR WASTING;2 CONSTANCY;2 MEASURE;2 ETERNITY;
2 UNITY;2 DIMINISHMENT;2 CLOSED MOUTH;2 GUARDEDNESS;2 GATHERING IN;2 MASSING;2 ACCUMULATION;
2 EMBELLISHMENT;2 DOUBT;2 WATCH;2 SINKING;2 INNER;2 DEPARTURE;2 DARKENING;2 DIMMING;2 EXHAUSTION;
2 SEVERANCE;2 STOPPAGE;2 HARDNESS;2 COMPLETION;2 CLOSURE;2 FAILURE;2 AGGRAVATION;2 COMPLIANCE;
2 ON THE VERGE;2 DIFFICULTIES;2 LABOURING;2 FOSTERING;@1D360;0 COUNTING ROD UNIT DIGIT ONE;4 TWO;
4 THREE;4 FOUR;4 FIVE;4 SIX;4 SEVEN;4 EIGHT;4 NINE;2 TENS DIGIT ONE;4 TWO;4 THREE;4 FOUR;4 FIVE;
4 SIX;4 SEVEN;4 EIGHT;4 NINE;0 IDEOGRAPHIC TALLY MARK ONE;3 TWO;3 THREE;3 FOUR;3 FIVE;
0 TALLY MARK ONE;2 FIVE;@1D400;0 MATHEMATICAL BOLD CAPITAL A;3 B;3 C;3 D;3 E;3 F;3 G;3 H;3 I;3 J;
3 K;3 L;3 M;3 N;3 O;3 P;3 Q;3 R;3 S;3 T;3 U;3 V;3 W;3 X;3 Y;3 Z;2 SMALL A;3 B;3 C;3 D;3 E;3 F;3 G;
3 H;3 I;3 J;3 K;3 L;3 M;3 N;3 O;3 P;3 Q;3 R;3 S;3 T;3 U;3 V;3 W;3 X;3 Y;3 Z;1 ITALIC CAPITAL A;
3 B;3 C;3 D;3 E;3 F;3 G;3 H;3 I;3 J;3 K;3 L;3 M;3 N;3 O;3 P;3 Q;3 R;3 S;3 T;3 U;3 V;3 W;3 X;3 Y;
3 Z;2 SMALL A;3 B;3 C;3 D;3 E;3 F;3 G;@1D456;3 I;3 J;3 K;3 L;3 M;3 N;3 O;3 P;3 Q;3 R;3 S;3 T;3 U;
3 V;3 W;3 X;3 Y;3 Z;1 BOLD ITALIC CAPITAL A;4 B;4 C;4 D;4 E;4 F;4 G;4 H;4 I;4 J;4 K;4 L;4 M;4 N;
4 O;4 P;4 Q;4 R;4 S;4 T;4 U;4 V;4 W;4 X;4 Y;4 Z;3 SMALL A;4 B;4 C;4 D;4 E;4 F;4 G;4 H;4 I;4 J;4 K;
4 L;4 M;4 N;4 O;4 P;4 Q;4 R;4 S;4 T;4 U;4 V;4 W;4 X;4 Y;4 Z;1 SCRIPT CAPITAL A;@1D49E;3 C;3 D;
@1D4A2;3 G;@1D4A5;3 J;3 K;@1D4A9;3 N;3 O;3 P;3 Q;@1D4AE;3 S;3 T;3 U;3 V;3 W;3 X;3 Y;3 Z;2 SMALL A;
3 B;3 C;3 D;@1D4BB;3 F;@1D4BD;3 H;3 I;3 J;3 K;3 L;3 M;3 N;@1D4C5;3 P;3 Q;3 R;3 S;3 T;3 U;3 V;3 W;
3 X;3 Y;3 Z;1 BOLD SCRIPT CAPITAL A;4 B;4 C;4 D;4 E;4 F;4 G;4 H;4 I;4 J;4 K;4 L;4 M;4 N;4 O;4 P;
4 Q;4 R;4 S;4 T;4 U;4 V;4 W;4 X;4 Y;4 Z;3 SMALL A;4 B;4 C;4 D;4 E;4 F;4 G;4 H;4 I;4 J;4 K;4 L;4 M;
4 N;4 O;4 P;4 Q;4 R;4 S;4 T;4 U;4 V;4 W;4 X;4 Y;4 Z;1 FRAKTUR CAPITAL A;3 B;@1D507;3 D;3 E;3 F;
3 G;@1D50D;3 J;3 K;3 L;3 M;3 N;3 O;3 P;3 Q;@1D516;3 S;3 T;3 U;3 V;3 W;3 X;3 Y;@1D51E;2 SMALL A;
3 B;3 C;3 D;3 E;3 F;3 G;3 H;3 I;3 J;3 K;3 L;3 M;3 N;3 O;3 P;3 Q;3 R;3 S;3 T;3 U;3 V;3 W;3 X;3 Y;
3 Z;1 DOUBLE-STRUCK CAPITAL A;3 B;@1D53B;3 D;3 E;3 F;3 G;@1D540;3 I;3 J;3 K;3 L;3 M;@1D546;3 O;
@1D54A;3 S;3 T;3 U;3 V;3 W;3 X;3 Y;@1D552;2 SMALL A;3 B;3 C;3 D;3 E;3 F;3 G;3 H;3 I;3 J;3 K;3 L;
3 M;3 N;3 O;3 P;3 Q;3 R;3 S;3 T;3 U;3 V;3 W;3 X;3 Y;3 Z;1 BOLD FRAKTUR CAPITAL A;4 B;4 C;4 D;4 E;
4 F;4 G;4 H;4 I;4 J;4 K;4 L;4 M;4 N;4 O;4 P;4 Q;4 R;4 S;4 T;4 U;4 V;4 W;4 X;4 Y;4 Z;3 SMALL A;4 B;
4 C;4 D;4 E;4 F;4 G;4 H;4 I;4 J;4 K;4 L;4 M;4 N;4 O;4 P;4 Q;4 R;4 S;4 T;4 U;4 V;4 W;4 X;4 Y;4 Z;
1 SANS-SERIF CAPITAL A;3 B;3 C;3 D;3 E;3 F;3 G;3 H;3 I;3 J;3 K;3 L;3 M;3 N;3 O;3 P;3 Q;3 R;3 S;
3 T;3 U;3 V;3 W;3 X;3 Y;3 Z;2 SMALL A;3 B;3 C;3 D;3 E;3 F;3 G;3 H;3 I;3 J;3 K;3 L;3 M;3 N;3 O;3 P;
3 Q;3 R;3 S;3 T;3 U;3 V;3 W;3 X;3 Y;3 Z;2 BOLD CAPITAL A;4 B;4 C;4 D;4 E;4 F;4 G;4 H;4 I;4 J;4 K;
4 L;4 M;4 N;4 O;4 P;4 Q;4 R;4 S;4 T;4 U;4 V;4 W;4 X;4 Y;4 Z;3 SMALL A;4 B;4 C;4 D;4 E;4 F;4 G;4 H;
4 I;4 J;4 K;4 L;4 M;4 N;4 O;4 P;4 Q;4 R;4 S;4 T;4 U;4 V;4 W;4 X;4 Y;4 Z;2 ITALIC CAPITAL A;4 B;
4 C;4 D;4 E;4 F;4 G;4 H;4 I;4 J;4 K;4 L;4 M;4 N;4 O;4 P;4 Q;4 R;4 S;4 T;4 U;4 V;4 W;4 X;4 Y;4 Z;
3 SMALL A;4 B;4 C;4 D;4 E;4 F;4 G;4 H;4 I;4 J;4 K;4 L;4 M;4 N;4 O;4 P;4 Q;4 R;4 S;4 T;4 U;4 V;4 W;
4 X;4 Y;4 Z;2 BOLD ITALIC CAPITAL A;5 B;5 C;5 D;5 E;5 F;5 G;5 H;5 I;5 J;5 K;5 L;5 M;5 N;5 O;5 P;
5 Q;5 R;5 S;5 T;5 U;5 V;5 W;5 X;5 Y;5 Z;4 SMALL A;5 B;5 C;5 D;5 E;5 F;5 G;5 H;5 I;5 J;5 K;5 L;5 M;
5 N;5 O;5 P;5 Q;5 R;5 S;5 T;5 U;5 V;5 W;5 X;5 Y;5 Z;1 MONOSPACE CAPITAL A;3 B;3 C;3 D;3 E;3 F;3 G;
3 H;3 I;3 J;3 K;3 L;3 M;3 N;3 O;3 P;3 Q;3 R;3 S;3 T;3 U;3 V;3 W;3 X;3 Y;3 Z;2 SMALL A;3 B;3 C;3 D;
3 E;3 F;3 G;3 H;3 I;3 J;3 K;3 L;3 M;3 N;3 O;3 P;3 Q;3 R;3 S;3 T;3 U;3 V;3 W;3 X;3 Y;3 Z;
1 ITALIC SMALL DOTLESS I;4 J;@1D6A8;1 BOLD CAPITAL ALPHA;3 BETA;3 GAMMA;3 DELTA;3 EPSILON;3 ZETA;
3 ETA;3 THETA;3 IOTA;3 KAPPA;3 LAMDA;3 MU;3 NU;3 XI;3 OMICRON;3 PI;3 RHO;3 THETA SYMBOL;3 SIGMA;
3 TAU;3 UPSILON;3 PHI;3 CHI;3 PSI;3 OMEGA;2 NABLA;2 SMALL ALPHA;3 BETA;3 GAMMA;3 DELTA;3 EPSILON;
3 ZETA;3 ETA;3 THETA;3 IOTA;3 KAPPA;3 LAMDA;3 MU;3 NU;3 XI;3 OMICRON;3 PI;3 RHO;3 FINAL SIGMA;
3 SIGMA;3 TAU;3 UPSILON;3 PHI;3 CHI;3 PSI;3 OMEGA;2 PARTIAL DIFFERENTIAL;2 EPSILON SYMBOL;
2 THETA SYMBOL;2 KAPPA SYMBOL;2 PHI SYMBOL;2 RHO SYMBOL;2 PI SYMBOL;1 ITALIC CAPITAL ALPHA;3 BETA;
3 GAMMA;3 DELTA;3 EPSILON;3 ZETA;3 ETA;3 THETA;3 IOTA;3 KAPPA;3 LAMDA;3 MU;3 NU;3 XI;3 OMICRON;
3 PI;3 RHO;3 THETA SYMBOL;3 SIGMA;3 TAU;3 UPSILON;3 PHI;3 CHI;3 PSI;3 OMEGA;2 NABLA;2 SMALL ALPHA;
3 BETA;3 GAMMA;3 DELTA;3 EPSILON;3 ZETA;3 ETA;3 THETA;3 IOTA;3 KAPPA;3 LAMDA;3 MU;3 NU;3 XI;
3 OMICRON;3 PI;3 RHO;3 FINAL SIGMA;3 SIGMA;3 TAU;3 UPSILON;3 PHI;3 CHI;3 PSI;3 OMEGA;
2 PARTIAL DIFFERENTIAL;2 EPSILON SYMBOL;2 THETA SYMBOL;2 KAPPA SYMBOL;2 PHI SYMBOL;2 RHO SYMBOL;
2 PI SYMBOL;1 BOLD ITALIC CAPITAL ALPHA;4 BETA;4 GAMMA;4 DELTA;4 EPSILON;4 ZETA;4 ETA;4 THETA;
4 IOTA;4 KAPPA;4 LAMDA;4 MU;4 NU;4 XI;4 OMICRON;4 PI;4 RHO;4 THETA SYMBOL;4 SIGMA;4 TAU;4 UPSILON;
4 PHI;4 CHI;4 PSI;4 OMEGA;3 NABLA;3 SMALL ALPHA;4 BETA;4 GAMMA;4 DELTA;4 EPSILON;4 ZETA;4 ETA;
4 THETA;4 IOTA;4 KAPPA;4 LAMDA;4 MU;4 NU;4 XI;4 OMICRON;4 PI;4 RHO;4 FINAL SIGMA;4 SIGMA;4 TAU;
4 UPSILON;4 PHI;4 CHI;4 PSI;4 OMEGA;3 PARTIAL DIFFERENTIAL;3 EPSILON SYMBOL;3 THETA SYMBOL;
3 KAPPA SYMBOL;3 PHI SYMBOL;3 RHO SYMBOL;3 PI SYMBOL;1 SANS-SERIF BOLD CAPITAL ALPHA;4 BETA;
4 GAMMA;4 DELTA;4 EPSILON;4 ZETA;4 ETA;4 THETA;4 IOTA;4 KAPPA;4 LAMDA;4 MU;4 NU;4 XI;4 OMICRON;
4 PI;4 RHO;4 THETA SYMBOL;4 SIGMA;4 TAU;4 UPSILON;4 PHI;4 CHI;4 PSI;4 OMEGA;3 NABLA;3 SMALL ALPHA;
4 BETA;4 GAMMA;4 DELTA;4 EPSILON;4 ZETA;4 ETA;4 THETA;4 IOTA;4 KAPPA;4 LAMDA;4 MU;4 NU;4 XI;
4 OMICRON;4 PI;4 RHO;4 FINAL SIGMA;4 SIGMA;4 TAU;4 UPSILON;4 PHI;4 CHI;4 PSI;4 OMEGA;
3 PARTIAL DIFFERENTIAL;3 EPSILON SYMBOL;3 THETA SYMBOL;3 KAPPA SYMBOL;3 PHI SYMBOL;3 RHO SYMBOL;
3 PI SYMBOL;3 ITALIC CAPITAL ALPHA;5 BETA;5 GAMMA;5 DELTA;5 EPSILON;5 ZETA;5 ETA;5 THETA;5 IOTA;
5 KAPPA;5 LAMDA;5 MU;5 NU;5 XI;5 OMICRON;5 PI;5 RHO;5 THETA SYMBOL;5 SIGMA;5 TAU;5 UPSILON;5 PHI;
5 CHI;5 PSI;5 OMEGA;4 NABLA;4 SMALL ALPHA;5 BETA;5 GAMMA;5 DELTA;5 EPSILON;5 ZETA;5 ETA;5 THETA;
5 IOTA;5 KAPPA;5 LAMDA;5 MU;5 NU;5 XI;5 OMICRON;5 PI;5 RHO;5 FINAL SIGMA;5 SIGMA;5 TAU;5 UPSILON;
5 PHI;5 CHI;5 PSI;5 OMEGA;4 PARTIAL DIFFERENTIAL;4 EPSILON SYMBOL;4 THETA SYMBOL;4 KAPPA SYMBOL;
4 PHI SYMBOL;4 RHO SYMBOL;4 PI SYMBOL;1 BOLD CAPITAL DIGAMMA;2 SMALL DIGAMMA;@1D7CE;2 DIGIT ZERO;
3 ONE;3 TWO;3 THREE;3 FOUR;3 FIVE;3 SIX;3 SEVEN;3 EIGHT;3 NINE;1 DOUBLE-STRUCK DIGIT ZERO;3 ONE;
3 TWO;3 THREE;3 FOUR;3 FIVE;3 SIX;3 SEVEN;3 EIGHT;3 NINE;1 SANS-SERIF DIGIT ZERO;3 ONE;3 TWO;
3 THREE;3 FOUR;3 FIVE;3 SIX;3 SEVEN;3 EIGHT;3 NINE;2 BOLD DIGIT ZERO;4 ONE;4 TWO;4 THREE;4 FOUR;
4 FIVE;4 SIX;4 SEVEN;4 EIGHT;4 NINE;1 MONOSPACE DIGIT ZERO;3 ONE;3 TWO;3 THREE;3 FOUR;3 FIVE;
3 SIX;3 SEVEN;3 EIGHT;3 NINE;0 SIGNWRITING HAND-FIST INDEX;1 HAND-CIRCLE INDEX;1 HAND-CUP INDEX;
1 HAND-OVAL INDEX;1 HAND-HINGE INDEX;1 HAND-ANGLE INDEX;1 HAND-FIST INDEX BENT;
1 HAND-CIRCLE INDEX BENT;1 HAND-FIST THUMB UNDER INDEX BENT;2 INDEX RAISED KNUCKLE;3 CUPPED;
3 HINGED;4 LOW;1 HAND-CIRCLE INDEX HINGE;1 HAND-FIST INDEX MIDDLE;1 HAND-CIRCLE INDEX MIDDLE;
1 HAND-FIST INDEX MIDDLE BENT;4 RAISED KNUCKLES;4 HINGED;3 UP MIDDLE HINGED;3 HINGED MIDDLE UP;
3 MIDDLE CONJOINED;5 INDEX BENT;5 MIDDLE BENT;5 CUPPED;5 HINGED;4 CROSSED;
1 HAND-CIRCLE INDEX MIDDLE CROSSED;1 HAND-FIST MIDDLE BENT OVER INDEX;2 INDEX BENT OVER MIDDLE;
3 MIDDLE THUMB;1 HAND-CIRCLE INDEX MIDDLE THUMB;1 HAND-FIST INDEX MIDDLE STRAIGHT THUMB BENT;
4 BENT THUMB STRAIGHT;4 THUMB BENT;4 HINGED SPREAD THUMB SIDE;3 UP MIDDLE HINGED THUMB SIDE;
7 CONJOINED;3 HINGED MIDDLE UP THUMB SIDE;3 MIDDLE UP SPREAD THUMB FORWARD;4 THUMB CUPPED;
5 CIRCLED;5 HOOKED;5 HINGED;2 THUMB BETWEEN INDEX MIDDLE STRAIGHT;
2 INDEX MIDDLE CONJOINED THUMB SIDE;7 CONJOINED;7 BENT;2 MIDDLE THUMB HOOKED INDEX UP;
2 INDEX THUMB HOOKED MIDDLE UP;3 MIDDLE CONJOINED HINGED THUMB SIDE;4 CROSSED THUMB SIDE;
4 CONJOINED THUMB FORWARD;5 CUPPED THUMB FORWARD;2 MIDDLE THUMB CUPPED INDEX UP;
2 INDEX THUMB CUPPED MIDDLE UP;2 MIDDLE THUMB CIRCLED INDEX UP;6 HINGED;
2 INDEX THUMB ANGLED OUT MIDDLE UP;5 IN MIDDLE UP;4 CIRCLED MIDDLE UP;
3 MIDDLE THUMB CONJOINED HINGED;5 ANGLED OUT;5 ANGLED;2 MIDDLE THUMB ANGLED OUT INDEX UP;
7 CROSSED;5 INDEX UP;2 INDEX THUMB HOOKED MIDDLE HINGED;1 HAND-FLAT FOUR FINGERS;4 BENT;4 HINGED;
4 CONJOINED;5 SPLIT;1 HAND-CLAW FOUR FINGERS CONJOINED;1 HAND-FIST FOUR FINGERS CONJOINED BENT;
1 HAND-HINGE FOUR FINGERS CONJOINED;1 HAND-FLAT FIVE FINGERS SPREAD;2 HEEL FIVE FINGERS SPREAD;
2 FIVE FINGERS SPREAD FOUR BENT;2 HEEL FIVE FINGERS SPREAD FOUR BENT;2 FIVE FINGERS SPREAD BENT;
2 HEEL FIVE FINGERS SPREAD BENT;2 FIVE FINGERS SPREAD THUMB FORWARD;
1 HAND-CUP FIVE FINGERS SPREAD;5 OPEN;1 HAND-HINGE FIVE FINGERS SPREAD OPEN;
1 HAND-OVAL FIVE FINGERS SPREAD;1 HAND-FLAT FIVE FINGERS SPREAD HINGED;6 THUMB SIDE;6 NO THUMB;
1 HAND-FLAT;2 BETWEEN PALM FACINGS;2 HEEL;2 THUMB SIDE;2 HEEL THUMB SIDE;2 THUMB BENT;3 FORWARD;
2 SPLIT INDEX THUMB SIDE;3 CENTRE;4 THUMB SIDE;6 BENT;3 LITTLE;1 HAND-CLAW;2 THUMB SIDE;
2 NO THUMB;2 THUMB FORWARD;1 HAND-HOOK CURLICUE;1 HAND-HOOK;1 HAND-CUP OPEN;1 HAND-CUP;
2 OPEN THUMB SIDE;2 THUMB SIDE;2 OPEN NO THUMB;2 NO THUMB;2 OPEN THUMB FORWARD;2 THUMB FORWARD;
1 HAND-CURLICUE OPEN;1 HAND-CURLICUE;1 HAND-CIRCLE;1 HAND-OVAL;2 THUMB SIDE;2 NO THUMB;
2 THUMB FORWARD;1 HAND-HINGE OPEN;3 THUMB FORWARD;1 HAND-HINGE;2 SMALL;2 OPEN THUMB SIDE;
2 THUMB SIDE;2 OPEN NO THUMB;2 NO THUMB;2 THUMB SIDE TOUCHING INDEX;3 BETWEEN MIDDLE RING;
1 HAND-ANGLE;1 HAND-FIST INDEX MIDDLE RING;1 HAND-CIRCLE INDEX MIDDLE RING;
1 HAND-HINGE INDEX MIDDLE RING;1 HAND-ANGLE INDEX MIDDLE RING;1 HAND-HINGE LITTLE;
1 HAND-FIST INDEX MIDDLE RING BENT;5 CONJOINED;1 HAND-HINGE INDEX MIDDLE RING CONJOINED;
1 HAND-FIST LITTLE DOWN;4 RIPPLE STRAIGHT;5 CURVED;4 OTHERS CIRCLED;3 UP;2 THUMB UNDER LITTLE UP;
1 HAND-CIRCLE LITTLE UP;1 HAND-OVAL LITTLE UP;1 HAND-ANGLE LITTLE UP;
1 HAND-FIST LITTLE RAISED KNUCKLE;3 BENT;3 TOUCHES THUMB;3 THUMB;1 HAND-HINGE LITTLE THUMB;
1 HAND-FIST LITTLE INDEX THUMB;1 HAND-HINGE LITTLE INDEX THUMB;
1 HAND-ANGLE LITTLE INDEX THUMB INDEX THUMB OUT;6 THUMB;1 HAND-FIST LITTLE INDEX;
1 HAND-CIRCLE LITTLE INDEX;1 HAND-HINGE LITTLE INDEX;1 HAND-ANGLE LITTLE INDEX;
1 HAND-FIST INDEX MIDDLE LITTLE;1 HAND-CIRCLE INDEX MIDDLE LITTLE;
1 HAND-HINGE INDEX MIDDLE LITTLE;2 RING;1 HAND-ANGLE INDEX MIDDLE LITTLE;
1 HAND-FIST INDEX MIDDLE CROSS LITTLE;1 HAND-CIRCLE INDEX MIDDLE CROSS LITTLE;
1 HAND-FIST RING DOWN;1 HAND-HINGE RING DOWN INDEX THUMB HOOK MIDDLE;
1 HAND-ANGLE RING DOWN MIDDLE THUMB INDEX CROSS;1 HAND-FIST RING UP;3 RAISED KNUCKLE;3 LITTLE;
1 HAND-CIRCLE RING LITTLE;1 HAND-OVAL RING LITTLE;1 HAND-ANGLE RING LITTLE;
1 HAND-FIST RING MIDDLE;4 CONJOINED;4 RAISED KNUCKLES;3 INDEX;3 THUMB;1 HAND-HOOK RING THUMB;
1 HAND-FIST INDEX RING LITTLE;1 HAND-CIRCLE INDEX RING LITTLE;
1 HAND-CURLICUE INDEX RING LITTLE ON;1 HAND-HOOK INDEX RING LITTLE OUT;5 IN;5 UNDER;
1 HAND-CUP INDEX RING LITTLE;1 HAND-HINGE INDEX RING LITTLE;1 HAND-ANGLE INDEX RING LITTLE OUT;
4 LITTLE;1 HAND-FIST MIDDLE DOWN;1 HAND-HINGE MIDDLE;1 HAND-FIST MIDDLE UP;
1 HAND-CIRCLE MIDDLE UP;1 HAND-FIST MIDDLE RAISED KNUCKLE;3 UP THUMB SIDE;
1 HAND-HOOK MIDDLE THUMB;1 HAND-FIST MIDDLE THUMB LITTLE;3 LITTLE;3 RING LITTLE;
1 HAND-CIRCLE MIDDLE RING LITTLE;1 HAND-CURLICUE MIDDLE RING LITTLE ON;
1 HAND-CUP MIDDLE RING LITTLE;1 HAND-HINGE MIDDLE RING LITTLE;1 HAND-ANGLE MIDDLE RING LITTLE OUT;
5 IN;4 LITTLE;1 HAND-CIRCLE MIDDLE RING LITTLE BENT;1 HAND-CLAW MIDDLE RING LITTLE CONJOINED;
6 SIDE;1 HAND-HOOK MIDDLE RING LITTLE CONJOINED OUT;6 IN;5 CONJOINED;1 HAND-HINGE INDEX HINGED;
1 HAND-FIST INDEX THUMB SIDE;1 HAND-HINGE INDEX THUMB SIDE;
1 HAND-FIST INDEX THUMB SIDE THUMB DIAGONAL;6 CONJOINED;6 BENT;5 INDEX BENT;5 BOTH BENT;
5 INDEX HINGE;4 FORWARD INDEX STRAIGHT;6 BENT;4 HOOK;4 CURLICUE;4 CURVE THUMB INSIDE;
1 HAND-CLAW INDEX THUMB CURVE THUMB INSIDE;1 HAND-FIST INDEX THUMB CURVE THUMB UNDER;4 CIRCLE;
1 HAND-CUP INDEX THUMB;4 OPEN;1 HAND-HINGE INDEX THUMB OPEN;4 LARGE;3 THUMB;4 SMALL;
1 HAND-ANGLE INDEX THUMB OUT;4 IN;3 THUMB;1 HAND-FIST THUMB;3 HEEL;3 SIDE DIAGONAL;4 CONJOINED;
4 BENT;3 FORWARD;3 BETWEEN INDEX MIDDLE;4 MIDDLE RING;4 RING LITTLE;3 UNDER TWO FINGERS;
3 OVER TWO FINGERS;3 UNDER THREE FINGERS;4 FOUR FINGERS;3 OVER FOUR RAISED KNUCKLES;1 HAND-FIST;
2 HEEL;1 TOUCH SINGLE;2 MULTIPLE;2 BETWEEN;1 GRASP SINGLE;2 MULTIPLE;2 BETWEEN;1 STRIKE SINGLE;
2 MULTIPLE;2 BETWEEN;1 BRUSH SINGLE;2 MULTIPLE;2 BETWEEN;1 RUB SINGLE;2 MULTIPLE;2 BETWEEN;
1 SURFACE SYMBOLS;2 BETWEEN;1 SQUEEZE LARGE SINGLE;2 SMALL SINGLE;2 LARGE MULTIPLE;
2 SMALL MULTIPLE;2 SEQUENTIAL;1 FLICK LARGE SINGLE;2 SMALL SINGLE;2 LARGE MULTIPLE;
2 SMALL MULTIPLE;2 SEQUENTIAL;1 SQUEEZE FLICK ALTERNATING;1 MOVEMENT-HINGE UP DOWN LARGE;4 SMALL;
3 SEQUENTIAL;2 DOWN SEQUENTIAL;2 UP DOWN ALTERNATING LARGE;5 SMALL;2 SIDE TO SIDE SCISSORS;
1 MOVEMENT-WALLPLANE FINGER CONTACT;1 MOVEMENT-FLOORPLANE FINGER CONTACT;
1 MOVEMENT-WALLPLANE SINGLE STRAIGHT SMALL;4 MEDIUM;4 LARGE;4 LARGEST;3 WRIST FLEX;
2 DOUBLE STRAIGHT;3 WRIST FLEX;3 ALTERNATING;4 WRIST FLEX;2 CROSS;2 TRIPLE STRAIGHT MOVEMENT;
3 WRIST FLEX;3 ALTERNATING;4 WRIST FLEX;2 BEND SMALL;3 MEDIUM;3 LARGE;2 CORNER SMALL;3 MEDIUM;
3 LARGE;3 ROTATION;2 CHECK SMALL;3 MEDIUM;3 LARGE;2 BOX SMALL;3 MEDIUM;3 LARGE;2 ZIGZAG SMALL;
3 MEDIUM;3 LARGE;2 PEAKS SMALL;3 MEDIUM;3 LARGE;1 TRAVEL-WALLPLANE ROTATION-WALLPLANE SINGLE;
3 DOUBLE;3 ALTERNATING;2 ROTATION-FLOORPLANE SINGLE;3 DOUBLE;3 ALTERNATING;2 SHAKING;
2 ARM SPIRAL SINGLE;4 DOUBLE;4 TRIPLE;1 MOVEMENT-DIAGONAL AWAY SMALL;3 MEDIUM;3 LARGE;3 LARGEST;
2 TOWARDS SMALL;3 MEDIUM;3 LARGE;3 LARGEST;2 BETWEEN AWAY SMALL;4 MEDIUM;4 LARGE;4 LARGEST;
3 TOWARDS SMALL;4 MEDIUM;4 LARGE;4 LARGEST;1 MOVEMENT-FLOORPLANE SINGLE STRAIGHT SMALL;4 MEDIUM;
4 LARGE;4 LARGEST;3 WRIST FLEX;2 DOUBLE STRAIGHT;3 WRIST FLEX;3 ALTERNATING;4 WRIST FLEX;2 CROSS;
2 TRIPLE STRAIGHT MOVEMENT;3 WRIST FLEX;3 ALTERNATING MOVEMENT;4 WRIST FLEX;2 BEND;2 CORNER SMALL;
3 MEDIUM;3 LARGE;2 CHECK;2 BOX SMALL;3 MEDIUM;3 LARGE;2 ZIGZAG SMALL;3 MEDIUM;3 LARGE;
2 PEAKS SMALL;3 MEDIUM;3 LARGE;1 TRAVEL-FLOORPLANE ROTATION-FLOORPLANE SINGLE;3 DOUBLE;
3 ALTERNATING;2 ROTATION-WALLPLANE SINGLE;3 DOUBLE;3 ALTERNATING;2 SHAKING;
1 MOVEMENT-WALLPLANE CURVE QUARTER SMALL;4 MEDIUM;4 LARGE;4 LARGEST;3 HALF-CIRCLE SMALL;4 MEDIUM;
4 LARGE;4 LARGEST;3 THREE-QUARTER CIRCLE SMALL;5 MEDIUM;2 HUMP SMALL;3 MEDIUM;3 LARGE;
2 LOOP SMALL;3 MEDIUM;3 LARGE;3 SMALL DOUBLE;2 WAVE CURVE DOUBLE SMALL;5 MEDIUM;5 LARGE;
4 TRIPLE SMALL;5 MEDIUM;5 LARGE;2 CURVE THEN STRAIGHT;2 CURVED CROSS SMALL;4 MEDIUM;
1 ROTATION-WALLPLANE SINGLE;2 DOUBLE;2 ALTERNATE;1 MOVEMENT-WALLPLANE SHAKING;
2 CURVE HITTING FRONT WALL;2 HUMP HITTING FRONT WALL;2 LOOP HITTING FRONT WALL;
2 WAVE HITTING FRONT WALL;1 ROTATION-WALLPLANE SINGLE HITTING FRONT WALL;
2 DOUBLE HITTING FRONT WALL;2 ALTERNATING HITTING FRONT WALL;
1 MOVEMENT-WALLPLANE CURVE HITTING CHEST;2 HUMP HITTING CHEST;2 LOOP HITTING CHEST;
2 WAVE HITTING CHEST;1 ROTATION-WALLPLANE SINGLE HITTING CHEST;2 DOUBLE HITTING CHEST;
2 ALTERNATING HITTING CHEST;1 MOVEMENT-WALLPLANE WAVE DIAGONAL PATH SMALL;5 MEDIUM;5 LARGE;
1 MOVEMENT-FLOORPLANE CURVE HITTING CEILING SMALL;5 LARGE;2 HUMP HITTING CEILING SMALL DOUBLE;
5 LARGE DOUBLE;5 SMALL TRIPLE;5 LARGE TRIPLE;2 LOOP HITTING CEILING SMALL SINGLE;5 LARGE SINGLE;
5 SMALL DOUBLE;5 LARGE DOUBLE;2 WAVE HITTING CEILING SMALL;5 LARGE;
1 ROTATION-FLOORPLANE SINGLE HITTING CEILING;2 DOUBLE HITTING CEILING;
2 ALTERNATING HITTING CEILING;1 MOVEMENT-FLOORPLANE CURVE HITTING FLOOR SMALL;5 LARGE;
2 HUMP HITTING FLOOR SMALL DOUBLE;5 LARGE DOUBLE;5 TRIPLE SMALL TRIPLE;6 LARGE TRIPLE;
2 LOOP HITTING FLOOR SMALL SINGLE;5 LARGE SINGLE;5 SMALL DOUBLE;5 LARGE DOUBLE;
2 WAVE HITTING FLOOR SMALL;5 LARGE;1 ROTATION-FLOORPLANE SINGLE HITTING FLOOR;
2 DOUBLE HITTING FLOOR;2 ALTERNATING HITTING FLOOR;1 MOVEMENT-FLOORPLANE CURVE SMALL;3 MEDIUM;
3 LARGE;3 LARGEST;3 COMBINED;2 HUMP SMALL;2 LOOP SMALL;2 WAVE SNAKE;3 SMALL;3 LARGE;
1 ROTATION-FLOORPLANE SINGLE;2 DOUBLE;2 ALTERNATING;1 MOVEMENT-FLOORPLANE SHAKING PARALLEL;
1 MOVEMENT-WALLPLANE ARM CIRCLE SMALL SINGLE;4 MEDIUM SINGLE;4 SMALL DOUBLE;4 MEDIUM DOUBLE;
1 MOVEMENT-FLOORPLANE ARM CIRCLE HITTING WALL SMALL SINGLE;6 MEDIUM SINGLE;6 LARGE SINGLE;
6 SMALL DOUBLE;6 MEDIUM DOUBLE;6 LARGE DOUBLE;1 MOVEMENT-WALLPLANE WRIST CIRCLE FRONT SINGLE;
5 DOUBLE;1 MOVEMENT-FLOORPLANE WRIST CIRCLE HITTING WALL SINGLE;6 DOUBLE;
1 MOVEMENT-WALLPLANE FINGER CIRCLES SINGLE;4 DOUBLE;
1 MOVEMENT-FLOORPLANE FINGER CIRCLES HITTING WALL SINGLE;6 DOUBLE;1 DYNAMIC ARROWHEAD SMALL;
3 LARGE;2 FAST;2 SLOW;2 TENSE;2 RELAXED;2 SIMULTANEOUS;3 ALTERNATING;2 EVERY OTHER TIME;2 GRADUAL;
1 HEAD;2 RIM;2 MOVEMENT-WALLPLANE STRAIGHT;3 TILT;2 MOVEMENT-FLOORPLANE STRAIGHT;
2 MOVEMENT-WALLPLANE CURVE;2 MOVEMENT-FLOORPLANE CURVE;2 MOVEMENT CIRCLE;
1 FACE DIRECTION POSITION NOSE FORWARD TILTING;5 UP OR DOWN;8 TILTING;1 EYEBROWS STRAIGHT UP;
3 NEUTRAL;3 DOWN;1 DREAMY EYEBROWS NEUTRAL DOWN;3 DOWN NEUTRAL;3 UP NEUTRAL;3 NEUTRAL UP;
1 FOREHEAD NEUTRAL;2 CONTACT;2 WRINKLED;1 EYES OPEN;2 SQUEEZED;2 CLOSED;1 EYE BLINK SINGLE;
3 MULTIPLE;1 EYES HALF OPEN;2 WIDE OPEN;2 HALF CLOSED;2 WIDENING MOVEMENT;1 EYE WINK;
1 EYELASHES UP;2 DOWN;2 FLUTTERING;1 EYEGAZE-WALLPLANE STRAIGHT;3 DOUBLE;3 ALTERNATING;
1 EYEGAZE-FLOORPLANE STRAIGHT;3 DOUBLE;3 ALTERNATING;1 EYEGAZE-WALLPLANE CURVED;
1 EYEGAZE-FLOORPLANE CURVED;1 EYEGAZE-WALLPLANE CIRCLING;1 CHEEKS PUFFED;2 NEUTRAL;2 SUCKED;
1 TENSE CHEEKS HIGH;3 MIDDLE;3 LOW;1 EARS;1 NOSE NEUTRAL;2 CONTACT;2 WRINKLES;2 WIGGLES;
1 AIR BLOWING OUT;2 SUCKING IN;2 BLOW SMALL ROTATIONS;2 SUCK SMALL ROTATIONS;1 BREATH INHALE;
2 EXHALE;1 MOUTH CLOSED NEUTRAL;3 FORWARD;3 CONTACT;2 SMILE;3 WRINKLED;3 OPEN;2 FROWN;3 WRINKLED;
3 OPEN;2 OPEN CIRCLE;3 FORWARD;3 WRINKLED;3 OVAL;4 WRINKLED;4 YAWN;3 RECTANGLE;4 WRINKLED;4 YAWN;
2 KISS;3 FORWARD;3 WRINKLED;2 TENSE;3 FORWARD;3 SUCKED;1 LIPS PRESSED TOGETHER;
1 LIP LOWER OVER UPPER;2 UPPER OVER LOWER;1 MOUTH CORNERS;2 WRINKLES SINGLE;3 DOUBLE;
1 TONGUE STICKING OUT FAR;2 LICKING LIPS;2 TIP BETWEEN LIPS;3 TOUCHING INSIDE MOUTH;
2 INSIDE MOUTH RELAXED;2 MOVES AGAINST CHEEK;2 CENTRE STICKING OUT;3 INSIDE MOUTH;1 TEETH;
2 MOVEMENT;2 ON TONGUE;4 MOVEMENT;3 LIPS;4 MOVEMENT;2 BITE LIPS;1 MOVEMENT-WALLPLANE JAW;
1 MOVEMENT-FLOORPLANE JAW;1 NECK;1 HAIR;1 EXCITEMENT;1 SHOULDER HIP SPINE;3 POSITIONS;
1 WALLPLANE SHOULDER HIP MOVE;1 FLOORPLANE SHOULDER HIP MOVE;1 SHOULDER TILTING FROM WAIST;
1 TORSO-WALLPLANE STRAIGHT STRETCH;2 CURVED BEND;1 TORSO-FLOORPLANE TWISTING;
1 UPPER BODY TILTING FROM HIP JOINTS;1 LIMB COMBINATION;2 LENGTH-1;2 LENGTH-2;2 LENGTH-3;
2 LENGTH-4;2 LENGTH-5;2 LENGTH-6;2 LENGTH-7;1 FINGER;1 LOCATION-WALLPLANE SPACE;
1 LOCATION-FLOORPLANE SPACE;1 LOCATION HEIGHT;2 WIDTH;2 DEPTH;2 HEAD NECK;2 TORSO;2 LIMBS DIGITS;
1 COMMA;1 FULL STOP;1 SEMICOLON;1 COLON;1 PARENTHESIS;@1DA9B;1 FILL MODIFIER-2;2 MODIFIER-3;
2 MODIFIER-4;2 MODIFIER-5;2 MODIFIER-6;@1DAA1;1 ROTATION MODIFIER-2;2 MODIFIER-3;2 MODIFIER-4;
2 MODIFIER-5;2 MODIFIER-6;2 MODIFIER-7;2 MODIFIER-8;2 MODIFIER-9;2 MODIFIER-10;2 MODIFIER-11;
2 MODIFIER-12;2 MODIFIER-13;2 MODIFIER-14;2 MODIFIER-15;2 MODIFIER-16;@1DF00;
0 LATIN SMALL LETTER FENG DIGRAPH WITH TRILL;3 REVERSED SCRIPT G;1 LETTER SMALL CAPITAL TURNED G;
1 SMALL LETTER REVERSED K;1 LETTER SMALL CAPITAL L WITH BELT;
1 SMALL LETTER LEZH WITH RETROFLEX HOOK;3 TURNED Y WITH BELT;3 REVERSED ENG;
3 TURNED R WITH LONG LEG AND RETROFLEX HOOK;3 T WITH HOOK AND RETROFLEX HOOK;
1 LETTER RETROFLEX CLICK WITH RETROFLEX HOOK;1 SMALL LETTER ESH WITH DOUBLE BAR;7 AND CURL;
3 TURNED T WITH CURL;1 LETTER INVERTED GLOTTAL STOP WITH CURL;2 STRETCHED C WITH CURL;
2 SMALL CAPITAL TURNED K;1 SMALL LETTER L WITH FISHHOOK;3 DEZH DIGRAPH WITH PALATAL HOOK;
3 L WITH BELT AND PALATAL HOOK;3 ENG WITH PALATAL HOOK;3 TURNED R WITH PALATAL HOOK;
3 R WITH FISHHOOK AND PALATAL HOOK;3 TESH DIGRAPH WITH PALATAL HOOK;3 EZH WITH PALATAL HOOK;
3 DEZH DIGRAPH WITH RETROFLEX HOOK;3 I WITH STROKE AND RETROFLEX HOOK;3 O WITH RETROFLEX HOOK;
3 TESH DIGRAPH WITH RETROFLEX HOOK;3 C WITH RETROFLEX HOOK;3 S WITH CURL;@1E000;
0 COMBINING GLAGOLITIC LETTER AZU;3 BUKY;3 VEDE;3 GLAGOLI;3 DOBRO;3 YESTU;3 ZHIVETE;@1E008;
3 ZEMLJA;3 IZHE;3 INITIAL IZHE;3 I;3 DJERVI;3 KAKO;3 LJUDIJE;3 MYSLITE;3 NASHI;3 ONU;3 POKOJI;
3 RITSI;3 SLOVO;3 TVRIDO;3 UKU;3 FRITU;3 HERU;@1E01B;3 SHTA;3 TSI;3 CHRIVI;3 SHA;3 YERU;3 YERI;
3 YATI;@1E023;3 YU;3 SMALL YUS;@1E026;3 YO;3 IOTATED SMALL YUS;3 BIG YUS;3 IOTATED BIG YUS;3 FITA;
@1E100;0 NYIAKENG PUACHUE HMONG LETTER MA;4 TSA;4 NTA;4 TA;4 HA;4 NA;4 XA;4 NKA;4 CA;4 LA;4 SA;
4 ZA;4 NCA;4 NTSA;4 KA;4 DA;4 NYA;4 NRA;4 VA;4 NTXA;4 TXA;4 FA;4 RA;4 QA;4 YA;4 NQA;4 PA;4 XYA;
4 NPA;4 DLA;4 NPLA;4 HAH;4 MLA;4 PLA;4 GA;4 RRA;4 A;4 AA;4 I;4 U;4 O;4 OO;4 E;4 EE;4 W;@1E130;
3 TONE-B;3 TONE-M;3 TONE-J;3 TONE-V;3 TONE-S;3 TONE-G;3 TONE-D;3 SIGN FOR PERSON;5 THING;
5 LOCATION;5 ANIMAL;5 INVERTEBRATE;4 XW XW;3 SYLLABLE LENGTHENER;@1E140;3 DIGIT ZERO;4 ONE;4 TWO;
4 THREE;4 FOUR;4 FIVE;4 SIX;4 SEVEN;4 EIGHT;4 NINE;@1E14E;3 LOGOGRAM NYAJ;3 CIRCLED CA;@1E290;
0 TOTO LETTER PA;2 BA;2 TA;2 DA;2 KA;2 GA;2 MA;2 NA;2 NGA;2 SA;2 CHA;2 YA;2 WA;2 JA;2 HA;2 RA;
2 LA;2 I;2 BREATHY I;2 IU;2 BREATHY IU;2 U;2 E;2 BREATHY E;2 EO;2 BREATHY EO;2 O;2 AE;
2 BREATHY AE;2 A;1 SIGN RISING TONE;@1E2C0;0 WANCHO LETTER AA;2 A;2 BA;2 CA;2 DA;2 GA;2 YA;2 PHA;
2 LA;2 NA;2 PA;2 TA;2 THA;2 FA;2 SA;2 SHA;2 JA;2 ZA;2 WA;2 VA;2 KA;2 O;2 AU;2 RA;2 MA;2 KHA;2 HA;
2 E;2 I;2 NGA;2 U;2 LLHA;2 TSA;2 TRA;2 ONG;2 AANG;2 ANG;2 ING;2 ON;2 EN;2 AAN;2 NYA;2 UEN;2 YIH;
1 TONE TUP;2 TUPNI;2 KOI;2 KOINI;1 DIGIT ZERO;2 ONE;2 TWO;2 THREE;2 FOUR;2 FIVE;2 SIX;2 SEVEN;
2 EIGHT;2 NINE;@1E2FF;1 NGUN SIGN;@1E7E0;0 ETHIOPIC SYLLABLE HHYA;2 HHYU;2 HHYI;2 HHYAA;2 HHYEE;
2 HHYE;2 HHYO;@1E7E8;2 GURAGE HHWA;2 HHWI;2 HHWEE;2 HHWE;@1E7ED;2 GURAGE MWI;3 MWEE;@1E7F0;3 QWI;
3 QWEE;3 QWE;3 BWI;3 BWEE;3 KWI;3 KWEE;3 KWE;3 GWI;3 GWEE;3 GWE;3 FWI;3 FWEE;3 PWI;3 PWEE;@1E800;
0 MENDE KIKAKUI SYLLABLE M001 KI;3 M002 KA;3 M003 KU;3 M065 KEE;3 M095 KE;3 M076 KOO;3 M048 KO;
3 M179 KUA;3 M004 WI;3 M005 WA;3 M006 WU;3 M126 WEE;3 M118 WE;3 M114 WOO;3 M045 WO;3 M194 WUI;
3 M143 WEI;3 M061 WVI;3 M049 WVA;3 M139 WVE;3 M007 MIN;3 M008 MAN;3 M009 MUN;3 M059 MEN;
3 M094 MON;3 M154 MUAN;3 M189 MUEN;3 M010 BI;3 M011 BA;3 M012 BU;3 M150 BEE;3 M097 BE;3 M103 BOO;
3 M138 BO;3 M013 I;3 M014 A;3 M015 U;3 M163 EE;3 M100 E;3 M165 OO;3 M147 O;3 M137 EI;3 M131 IN;
3 M135 IN;3 M195 AN;3 M178 EN;3 M019 SI;3 M020 SA;3 M021 SU;3 M162 SEE;3 M116 SE;3 M136 SOO;
3 M079 SO;3 M196 SIA;3 M025 LI;3 M026 LA;3 M027 LU;3 M084 LEE;3 M073 LE;3 M054 LOO;3 M153 LO;
3 M110 LONG LE;3 M016 DI;3 M017 DA;3 M018 DU;3 M089 DEE;3 M180 DOO;3 M181 DO;3 M022 TI;3 M023 TA;
3 M024 TU;3 M091 TEE;3 M055 TE;3 M104 TOO;3 M069 TO;3 M028 JI;3 M029 JA;3 M030 JU;3 M157 JEE;
3 M113 JE;3 M160 JOO;3 M063 JO;3 M175 LONG JO;3 M031 YI;3 M032 YA;3 M033 YU;3 M109 YEE;3 M080 YE;
3 M141 YOO;3 M121 YO;3 M034 FI;3 M035 FA;3 M036 FU;3 M078 FEE;3 M075 FE;3 M133 FOO;3 M088 FO;
3 M197 FUA;3 M101 FAN;3 M037 NIN;3 M038 NAN;3 M039 NUN;3 M117 NEN;3 M169 NON;3 M176 HI;3 M041 HA;
3 M186 HU;3 M040 HEE;3 M096 HE;3 M042 HOO;3 M140 HO;3 M083 HEEI;3 M128 HOOU;3 M053 HIN;3 M130 HAN;
3 M087 HUN;3 M052 HEN;3 M193 HON;3 M046 HUAN;3 M090 NGGI;3 M043 NGGA;3 M082 NGGU;3 M115 NGGEE;
3 M146 NGGE;3 M156 NGGOO;3 M120 NGGO;3 M159 NGGAA;3 M127 NGGUA;3 M086 LONG NGGE;3 M106 LONG NGGOO;
3 M183 LONG NGGO;3 M155 GI;3 M111 GA;3 M168 GU;3 M190 GEE;3 M166 GUEI;3 M167 GUAN;3 M184 NGEN;
3 M057 NGON;3 M177 NGUAN;3 M068 PI;3 M099 PA;3 M050 PU;3 M081 PEE;3 M051 PE;3 M102 POO;3 M066 PO;
3 M145 MBI;3 M062 MBA;3 M122 MBU;3 M047 MBEE;3 M188 MBEE;3 M072 MBE;3 M172 MBOO;3 M174 MBO;
3 M187 MBUU;3 M161 LONG MBE;3 M105 LONG MBOO;3 M142 LONG MBO;3 M132 KPI;3 M092 KPA;3 M074 KPU;
3 M044 KPEE;3 M108 KPE;3 M112 KPOO;3 M158 KPO;3 M124 GBI;3 M056 GBA;3 M148 GBU;3 M093 GBEE;
3 M107 GBE;3 M071 GBOO;3 M070 GBO;3 M171 RA;3 M123 NDI;3 M129 NDA;3 M125 NDU;3 M191 NDEE;
3 M119 NDE;3 M067 NDOO;3 M064 NDO;3 M152 NJA;3 M192 NJU;3 M149 NJEE;3 M134 NJOO;3 M182 VI;
3 M185 VA;3 M151 VU;3 M173 VEE;3 M085 VE;3 M144 VOO;3 M077 VO;3 M164 NYIN;3 M058 NYAN;3 M170 NYUN;
3 M098 NYEN;3 M060 NYON;@1E8C7;2 DIGIT ONE;3 TWO;3 THREE;3 FOUR;3 FIVE;3 SIX;3 SEVEN;3 EIGHT;
3 NINE;2 COMBINING NUMBER TEENS;4 TENS;4 HUNDREDS;4 THOUSANDS;4 TEN THOUSANDS;4 HUNDRED THOUSANDS;
4 MILLIONS;@1E900;0 ADLAM CAPITAL LETTER ALIF;3 DAALI;3 LAAM;3 MIIM;3 BA;3 SINNYIIYHE;3 PE;3 BHE;
3 RA;3 E;3 FA;3 I;3 O;3 DHA;3 YHE;3 WAW;3 NUN;3 KAF;3 YA;3 U;3 JIIM;3 CHI;3 HA;3 QAAF;3 GA;3 NYA;
3 TU;3 NHA;3 VA;3 KHA;3 GBE;3 ZAL;3 KPO;3 SHA;1 SMALL LETTER ALIF;3 DAALI;3 LAAM;3 MIIM;3 BA;
3 SINNYIIYHE;3 PE;3 BHE;3 RA;3 E;3 FA;3 I;3 O;3 DHA;3 YHE;3 WAW;3 NUN;3 KAF;3 YA;3 U;3 JIIM;3 CHI;
3 HA;3 QAAF;3 GA;3 NYA;3 TU;3 NHA;3 VA;3 KHA;3 GBE;3 ZAL;3 KPO;3 SHA;1 ALIF LENGTHENER;
1 VOWEL LENGTHENER;1 GEMINATION MARK;1 HAMZA;1 CONSONANT MODIFIER;1 GEMINATE CONSONANT MODIFIER;
1 NUKTA;1 NASALIZATION MARK;@1E950;1 DIGIT ZERO;2 ONE;2 TWO;2 THREE;2 FOUR;2 FIVE;2 SIX;2 SEVEN;
2 EIGHT;2 NINE;@1E95E;1 INITIAL EXCLAMATION MARK;2 QUESTION MARK;@1EC71;0 INDIC SIYAQ NUMBER ONE;
3 TWO;3 THREE;3 FOUR;3 FIVE;3 SIX;3 SEVEN;3 EIGHT;3 NINE;3 TEN;3 TWENTY;3 THIRTY;3 FORTY;3 FIFTY;
3 SIXTY;3 SEVENTY;3 EIGHTY;3 NINETY;3 ONE HUNDRED;3 TWO HUNDRED;3 THREE HUNDRED;3 FOUR HUNDRED;
3 FIVE HUNDRED;3 SIX HUNDRED;3 SEVEN HUNDRED;3 EIGHT HUNDRED;3 NINE HUNDRED;3 ONE THOUSAND;
3 TWO THOUSAND;3 THREE THOUSAND;3 FOUR THOUSAND;3 FIVE THOUSAND;3 SIX THOUSAND;3 SEVEN THOUSAND;
3 EIGHT THOUSAND;3 NINE THOUSAND;3 TEN THOUSAND;3 TWENTY THOUSAND;3 THIRTY THOUSAND;
3 FORTY THOUSAND;3 FIFTY THOUSAND;3 SIXTY THOUSAND;3 SEVENTY THOUSAND;3 EIGHTY THOUSAND;
3 NINETY THOUSAND;3 LAKH;3 LAKHAN;2 LAKH MARK;2 NUMBER KAROR;3 KARORAN;3 PREFIXED ONE;4 TWO;
4 THREE;4 FOUR;4 FIVE;4 SIX;4 SEVEN;4 EIGHT;4 NINE;2 PLACEHOLDER;2 FRACTION ONE QUARTER;4 HALF;
3 THREE QUARTERS;2 RUPEE MARK;2 NUMBER ALTERNATE ONE;4 TWO;4 TEN THOUSAND;2 ALTERNATE LAKH MARK;
@1ED01;0 OTTOMAN SIYAQ NUMBER ONE;3 TWO;3 THREE;3 FOUR;3 FIVE;3 SIX;3 SEVEN;3 EIGHT;3 NINE;3 TEN;
3 TWENTY;3 THIRTY;3 FORTY;3 FIFTY;3 SIXTY;3 SEVENTY;3 EIGHTY;3 NINETY;3 ONE HUNDRED;3 TWO HUNDRED;
3 THREE HUNDRED;3 FOUR HUNDRED;3 FIVE HUNDRED;3 SIX HUNDRED;3 SEVEN HUNDRED;3 EIGHT HUNDRED;
3 NINE HUNDRED;3 ONE THOUSAND;3 TWO THOUSAND;3 THREE THOUSAND;3 FOUR THOUSAND;3 FIVE THOUSAND;
3 SIX THOUSAND;3 SEVEN THOUSAND;3 EIGHT THOUSAND;3 NINE THOUSAND;3 TEN THOUSAND;3 TWENTY THOUSAND;
3 THIRTY THOUSAND;3 FORTY THOUSAND;3 FIFTY THOUSAND;3 SIXTY THOUSAND;3 SEVENTY THOUSAND;
3 EIGHTY THOUSAND;3 NINETY THOUSAND;2 MARRATAN;2 ALTERNATE NUMBER TWO;4 THREE;4 FOUR;4 FIVE;4 SIX;
4 SEVEN;4 EIGHT;4 NINE;4 TEN;4 FOUR HUNDRED;4 SIX HUNDRED;4 TWO THOUSAND;4 TEN THOUSAND;
2 FRACTION ONE HALF;4 SIXTH;@1EE00;0 ARABIC MATHEMATICAL ALEF;2 BEH;2 JEEM;2 DAL;@1EE05;2 WAW;
2 ZAIN;2 HAH;2 TAH;2 YEH;2 KAF;2 LAM;2 MEEM;2 NOON;2 SEEN;2 AIN;2 FEH;2 SAD;2 QAF;2 REH;2 SHEEN;
2 TEH;2 THEH;2 KHAH;2 THAL;2 DAD;2 ZAH;2 GHAIN;2 DOTLESS BEH;3 NOON;3 FEH;3 QAF;@1EE21;
2 INITIAL BEH;3 JEEM;@1EE24;3 HEH;@1EE27;3 HAH;@1EE29;3 YEH;3 KAF;3 LAM;3 MEEM;3 NOON;3 SEEN;
3 AIN;3 FEH;3 SAD;3 QAF;@1EE34;3 SHEEN;3 TEH;3 THEH;3 KHAH;@1EE39;3 DAD;@1EE3B;3 GHAIN;@1EE42;
2 TAILED JEEM;@1EE47;3 HAH;@1EE49;3 YEH;@1EE4B;3 LAM;@1EE4D;3 NOON;3 SEEN;3 AIN;@1EE51;3 SAD;
3 QAF;@1EE54;3 SHEEN;@1EE57;3 KHAH;@1EE59;3 DAD;@1EE5B;3 GHAIN;@1EE5D;3 DOTLESS NOON;@1EE5F;4 QAF;
@1EE61;2 STRETCHED BEH;3 JEEM;@1EE64;3 HEH;@1EE67;3 HAH;3 TAH;3 YEH;3 KAF;@1EE6C;3 MEEM;3 NOON;
3 SEEN;3 AIN;3 FEH;3 SAD;3 QAF;@1EE74;3 SHEEN;3 TEH;3 THEH;3 KHAH;@1EE79;3 DAD;3 ZAH;3 GHAIN;
3 DOTLESS BEH;@1EE7E;4 FEH;@1EE80;2 LOOPED ALEF;3 BEH;3 JEEM;3 DAL;3 HEH;3 WAW;3 ZAIN;3 HAH;3 TAH;
3 YEH;@1EE8B;3 LAM;3 MEEM;3 NOON;3 SEEN;3 AIN;3 FEH;3 SAD;3 QAF;3 REH;3 SHEEN;3 TEH;3 THEH;3 KHAH;
3 THAL;3 DAD;3 ZAH;3 GHAIN;@1EEA1;2 DOUBLE-STRUCK BEH;3 JEEM;3 DAL;@1EEA5;3 WAW;3 ZAIN;3 HAH;
3 TAH;3 YEH;@1EEAB;3 LAM;3 MEEM;3 NOON;3 SEEN;3 AIN;3 FEH;3 SAD;3 QAF;3 REH;3 SHEEN;3 TEH;3 THEH;
3 KHAH;3 THAL;3 DAD;3 ZAH;3 GHAIN;@1EEF0;2 OPERATOR MEEM WITH HAH WITH TATWEEL;3 HAH WITH DAL;
@1F000;0 MAHJONG TILE EAST WIND;2 SOUTH WIND;2 WEST WIND;2 NORTH WIND;2 RED DRAGON;2 GREEN DRAGON;
2 WHITE DRAGON;2 ONE OF CHARACTERS;2 TWO OF CHARACTERS;2 THREE OF CHARACTERS;2 FOUR OF CHARACTERS;
2 FIVE OF CHARACTERS;2 SIX OF CHARACTERS;2 SEVEN OF CHARACTERS;2 EIGHT OF CHARACTERS;
2 NINE OF CHARACTERS;2 ONE OF BAMBOOS;2 TWO OF BAMBOOS;2 THREE OF BAMBOOS;2 FOUR OF BAMBOOS;
2 FIVE OF BAMBOOS;2 SIX OF BAMBOOS;2 SEVEN OF BAMBOOS;2 EIGHT OF BAMBOOS;2 NINE OF BAMBOOS;
2 ONE OF CIRCLES;2 TWO OF CIRCLES;2 THREE OF CIRCLES;2 FOUR OF CIRCLES;2 FIVE OF CIRCLES;
2 SIX OF CIRCLES;2 SEVEN OF CIRCLES;2 EIGHT OF CIRCLES;2 NINE OF CIRCLES;2 PLUM;2 ORCHID;2 BAMBOO;
2 CHRYSANTHEMUM;2 SPRING;2 SUMMER;2 AUTUMN;2 WINTER;2 JOKER;2 BACK;@1F030;
0 DOMINO TILE HORIZONTAL BACK;2 HORIZONTAL-00-00;2 HORIZONTAL-00-01;2 HORIZONTAL-00-02;
2 HORIZONTAL-00-03;2 HORIZONTAL-00-04;2 HORIZONTAL-00-05;2 HORIZONTAL-00-06;2 HORIZONTAL-01-00;
2 HORIZONTAL-01-01;2 HORIZONTAL-01-02;2 HORIZONTAL-01-03;2 HORIZONTAL-01-04;2 HORIZONTAL-01-05;
2 HORIZONTAL-01-06;2 HORIZONTAL-02-00;2 HORIZONTAL-02-01;2 HORIZONTAL-02-02;2 HORIZONTAL-02-03;
2 HORIZONTAL-02-04;2 HORIZONTAL-02-05;2 HORIZONTAL-02-06;2 HORIZONTAL-03-00;2 HORIZONTAL-03-01;
2 HORIZONTAL-03-02;2 HORIZONTAL-03-03;2 HORIZONTAL-03-04;2 HORIZONTAL-03-05;2 HORIZONTAL-03-06;
2 HORIZONTAL-04-00;2 HORIZONTAL-04-01;2 HORIZONTAL-04-02;2 HORIZONTAL-04-03;2 HORIZONTAL-04-04;
2 HORIZONTAL-04-05;2 HORIZONTAL-04-06;2 HORIZONTAL-05-00;2 HORIZONTAL-05-01;2 HORIZONTAL-05-02;
2 HORIZONTAL-05-03;2 HORIZONTAL-05-04;2 HORIZONTAL-05-05;2 HORIZONTAL-05-06;2 HORIZONTAL-06-00;
2 HORIZONTAL-06-01;2 HORIZONTAL-06-02;2 HORIZONTAL-06-03;2 HORIZONTAL-06-04;2 HORIZONTAL-06-05;
2 HORIZONTAL-06-06;2 VERTICAL BACK;2 VERTICAL-00-00;2 VERTICAL-00-01;2 VERTICAL-00-02;
2 VERTICAL-00-03;2 VERTICAL-00-04;2 VERTICAL-00-05;2 VERTICAL-00-06;2 VERTICAL-01-00;
2 VERTICAL-01-01;2 VERTICAL-01-02;2 VERTICAL-01-03;2 VERTICAL-01-04;2 VERTICAL-01-05;
2 VERTICAL-01-06;2 VERTICAL-02-00;2 VERTICAL-02-01;2 VERTICAL-02-02;2 VERTICAL-02-03;
2 VERTICAL-02-04;2 VERTICAL-02-05;2 VERTICAL-02-06;2 VERTICAL-03-00;2 VERTICAL-03-01;
2 VERTICAL-03-02;2 VERTICAL-03-03;2 VERTICAL-03-04;2 VERTICAL-03-05;2 VERTICAL-03-06;
2 VERTICAL-04-00;2 VERTICAL-04-01;2 VERTICAL-04-02;2 VERTICAL-04-03;2 VERTICAL-04-04;
2 VERTICAL-04-05;2 VERTICAL-04-06;2 VERTICAL-05-00;2 VERTICAL-05-01;2 VERTICAL-05-02;
2 VERTICAL-05-03;2 VERTICAL-05-04;2 VERTICAL-05-05;2 VERTICAL-05-06;2 VERTICAL-06-00;
2 VERTICAL-06-01;2 VERTICAL-06-02;2 VERTICAL-06-03;2 VERTICAL-06-04;2 VERTICAL-06-05;
2 VERTICAL-06-06;@1F0A0;0 PLAYING CARD BACK;2 ACE OF SPADES;2 TWO OF SPADES;2 THREE OF SPADES;
2 FOUR OF SPADES;2 FIVE OF SPADES;2 SIX OF SPADES;2 SEVEN OF SPADES;2 EIGHT OF SPADES;
2 NINE OF SPADES;2 TEN OF SPADES;2 JACK OF SPADES;2 KNIGHT OF SPADES;2 QUEEN OF SPADES;
2 KING OF SPADES;@1F0B1;2 ACE OF HEARTS;2 TWO OF HEARTS;2 THREE OF HEARTS;2 FOUR OF HEARTS;
2 FIVE OF HEARTS;2 SIX OF HEARTS;2 SEVEN OF HEARTS;2 EIGHT OF HEARTS;2 NINE OF HEARTS;
2 TEN OF HEARTS;2 JACK OF HEARTS;2 KNIGHT OF HEARTS;2 QUEEN OF HEARTS;2 KING OF HEARTS;
2 RED JOKER;@1F0C1;2 ACE OF DIAMONDS;2 TWO OF DIAMONDS;2 THREE OF DIAMONDS;2 FOUR OF DIAMONDS;
2 FIVE OF DIAMONDS;2 SIX OF DIAMONDS;2 SEVEN OF DIAMONDS;2 EIGHT OF DIAMONDS;2 NINE OF DIAMONDS;
2 TEN OF DIAMONDS;2 JACK OF DIAMONDS;2 KNIGHT OF DIAMONDS;2 QUEEN OF DIAMONDS;2 KING OF DIAMONDS;
2 BLACK JOKER;@1F0D1;2 ACE OF CLUBS;2 TWO OF CLUBS;2 THREE OF CLUBS;2 FOUR OF CLUBS;
2 FIVE OF CLUBS;2 SIX OF CLUBS;2 SEVEN OF CLUBS;2 EIGHT OF CLUBS;2 NINE OF CLUBS;2 TEN OF CLUBS;
2 JACK OF CLUBS;2 KNIGHT OF CLUBS;2 QUEEN OF CLUBS;2 KING OF CLUBS;2 WHITE JOKER;2 FOOL;2 TRUMP-1;
2 TRUMP-2;2 TRUMP-3;2 TRUMP-4;2 TRUMP-5;2 TRUMP-6;2 TRUMP-7;2 TRUMP-8;2 TRUMP-9;2 TRUMP-10;
2 TRUMP-11;2 TRUMP-12;2 TRUMP-13;2 TRUMP-14;2 TRUMP-15;2 TRUMP-16;2 TRUMP-17;2 TRUMP-18;
2 TRUMP-19;2 TRUMP-20;2 TRUMP-21;@1F100;0 DIGIT ZERO FULL STOP;2 COMMA;1 ONE COMMA;1 TWO COMMA;
1 THREE COMMA;1 FOUR COMMA;1 FIVE COMMA;1 SIX COMMA;1 SEVEN COMMA;1 EIGHT COMMA;1 NINE COMMA;
0 DINGBAT CIRCLED SANS-SERIF DIGIT ZERO;1 NEGATIVE CIRCLED SANS-SERIF DIGIT ZERO;
0 CIRCLED ZERO WITH SLASH;1 ANTICLOCKWISE ARROW;1 DOLLAR SIGN WITH OVERLAID BACKSLASH;
0 PARENTHESIZED LATIN CAPITAL LETTER A;4 B;4 C;4 D;4 E;4 F;4 G;4 H;4 I;4 J;4 K;4 L;4 M;4 N;4 O;
4 P;4 Q;4 R;4 S;4 T;4 U;4 V;4 W;4 X;4 Y;4 Z;0 TORTOISE SHELL BRACKETED LATIN CAPITAL LETTER S;
0 CIRCLED ITALIC LATIN CAPITAL LETTER C;5 R;1 CD;1 WZ;0 COPYLEFT SYMBOL;
0 SQUARED LATIN CAPITAL LETTER A;4 B;4 C;4 D;4 E;4 F;4 G;4 H;4 I;4 J;4 K;4 L;4 M;4 N;4 O;4 P;4 Q;
4 R;4 S;4 T;4 U;4 V;4 W;4 X;4 Y;4 Z;1 HV;1 MV;1 SD;1 SS;1 PPV;1 WC;
0 NEGATIVE CIRCLED LATIN CAPITAL LETTER A;5 B;5 C;5 D;5 E;5 F;5 G;5 H;5 I;5 J;5 K;5 L;5 M;5 N;5 O;
5 P;5 Q;5 R;5 S;5 T;5 U;5 V;5 W;5 X;5 Y;5 Z;0 RAISED MC SIGN;1 MD SIGN;1 MR SIGN;0 CIRCLED CC;
1 C WITH OVERLAID BACKSLASH;1 HUMAN FIGURE;0 NEGATIVE SQUARED LATIN CAPITAL LETTER A;5 B;5 C;5 D;
5 E;5 F;5 G;5 H;5 I;5 J;5 K;5 L;5 M;5 N;5 O;5 P;5 Q;5 R;5 S;5 T;5 U;5 V;5 W;5 X;5 Y;5 Z;
0 CROSSED NEGATIVE SQUARED LATIN CAPITAL LETTER P;0 NEGATIVE SQUARED IC;2 PA;2 SA;2 AB;2 WC;
0 SQUARE DJ;0 SQUARED CL;1 COOL;1 FREE;1 ID;1 NEW;1 NG;1 OK;1 SOS;1 UP WITH EXCLAMATION MARK;1 VS;
1 THREE D;1 SECOND SCREEN;1 TWO K;1 FOUR K;1 EIGHT K;1 FIVE POINT ONE;1 SEVEN POINT ONE;
1 TWENTY-TWO POINT TWO;1 SIXTY P;1 ONE HUNDRED TWENTY P;1 LATIN SMALL LETTER D;1 HC;1 HDR;
1 HI-RES;1 LOSSLESS;1 SHV;1 UHD;1 VOD;0 MASK WORK SYMBOL;@1F1E6;
0 REGIONAL INDICATOR SYMBOL LETTER A;4 B;4 C;4 D;4 E;4 F;4 G;4 H;4 I;4 J;4 K;4 L;4 M;4 N;4 O;4 P;
4 Q;4 R;4 S;4 T;4 U;4 V;4 W;4 X;4 Y;4 Z;0 SQUARE HIRAGANA HOKA;0 SQUARED KATAKANA KOKO;2 SA;
@1F210;1 CJK UNIFIED IDEOGRAPH-624B;3 IDEOGRAPH-5B57;3 IDEOGRAPH-53CC;1 KATAKANA DE;
1 CJK UNIFIED IDEOGRAPH-4E8C;3 IDEOGRAPH-591A;3 IDEOGRAPH-89E3;3 IDEOGRAPH-5929;3 IDEOGRAPH-4EA4;
3 IDEOGRAPH-6620;3 IDEOGRAPH-7121;3 IDEOGRAPH-6599;3 IDEOGRAPH-524D;3 IDEOGRAPH-5F8C;
3 IDEOGRAPH-518D;3 IDEOGRAPH-65B0;3 IDEOGRAPH-521D;3 IDEOGRAPH-7D42;3 IDEOGRAPH-751F;
3 IDEOGRAPH-8CA9;3 IDEOGRAPH-58F0;3 IDEOGRAPH-5439;3 IDEOGRAPH-6F14;3 IDEOGRAPH-6295;
3 IDEOGRAPH-6355;3 IDEOGRAPH-4E00;3 IDEOGRAPH-4E09;3 IDEOGRAPH-904A;3 IDEOGRAPH-5DE6;
3 IDEOGRAPH-4E2D;3 IDEOGRAPH-53F3;3 IDEOGRAPH-6307;3 IDEOGRAPH-8D70;3 IDEOGRAPH-6253;
3 IDEOGRAPH-7981;3 IDEOGRAPH-7A7A;3 IDEOGRAPH-5408;3 IDEOGRAPH-6E80;3 IDEOGRAPH-6709;
3 IDEOGRAPH-6708;3 IDEOGRAPH-7533;3 IDEOGRAPH-5272;3 IDEOGRAPH-55B6;3 IDEOGRAPH-914D;@1F240;
0 TORTOISE SHELL BRACKETED CJK UNIFIED IDEOGRAPH-672C;5 IDEOGRAPH-4E09;5 IDEOGRAPH-4E8C;
5 IDEOGRAPH-5B89;5 IDEOGRAPH-70B9;5 IDEOGRAPH-6253;5 IDEOGRAPH-76D7;5 IDEOGRAPH-52DD;
5 IDEOGRAPH-6557;@1F250;0 CIRCLED IDEOGRAPH ADVANTAGE;2 ACCEPT;@1F260;0 ROUNDED SYMBOL FOR FU;
3 LU;3 SHOU;3 XI;3 SHUANGXI;3 CAI;@1F300;0 CYCLONE;0 FOGGY;0 CLOSED UMBRELLA;0 NIGHT WITH STARS;
0 SUNRISE OVER MOUNTAINS;0 SUNRISE;0 CITYSCAPE AT DUSK;0 SUNSET OVER BUILDINGS;0 RAINBOW;
0 BRIDGE AT NIGHT;0 WATER WAVE;0 VOLCANO;0 MILKY WAY;0 EARTH GLOBE EUROPE-AFRICA;2 AMERICAS;
2 ASIA-AUSTRALIA;0 GLOBE WITH MERIDIANS;0 NEW MOON SYMBOL;0 WAXING CRESCENT MOON SYMBOL;
0 FIRST QUARTER MOON SYMBOL;0 WAXING GIBBOUS MOON SYMBOL;0 FULL MOON SYMBOL;
0 WANING GIBBOUS MOON SYMBOL;0 LAST QUARTER MOON SYMBOL;0 WANING CRESCENT MOON SYMBOL;
0 CRESCENT MOON;0 NEW MOON WITH FACE;0 FIRST QUARTER MOON WITH FACE;0 LAST QUARTER MOON WITH FACE;
0 FULL MOON WITH FACE;0 SUN WITH FACE;0 GLOWING STAR;0 SHOOTING STAR;0 THERMOMETER;
0 BLACK DROPLET;0 WHITE SUN;2 WITH SMALL CLOUD;2 BEHIND CLOUD;4 WITH RAIN;0 CLOUD WITH RAIN;
2 SNOW;2 LIGHTNING;2 TORNADO;0 FOG;0 WIND BLOWING FACE;0 HOT DOG;0 TACO;0 BURRITO;0 CHESTNUT;
0 SEEDLING;0 EVERGREEN TREE;0 DECIDUOUS TREE;0 PALM TREE;0 CACTUS;0 HOT PEPPER;0 TULIP;
0 CHERRY BLOSSOM;0 ROSE;0 HIBISCUS;0 SUNFLOWER;0 BLOSSOM;0 EAR OF MAIZE;2 RICE;0 HERB;
0 FOUR LEAF CLOVER;0 MAPLE LEAF;0 FALLEN LEAF;0 LEAF FLUTTERING IN WIND;0 MUSHROOM;0 TOMATO;
0 AUBERGINE;0 GRAPES;0 MELON;0 WATERMELON;0 TANGERINE;0 LEMON;0 BANANA;0 PINEAPPLE;0 RED APPLE;
0 GREEN APPLE;0 PEAR;0 PEACH;0 CHERRIES;0 STRAWBERRY;0 HAMBURGER;0 SLICE OF PIZZA;0 MEAT ON BONE;
0 POULTRY LEG;0 RICE CRACKER;1 BALL;0 COOKED RICE;0 CURRY AND RICE;0 STEAMING BOWL;0 SPAGHETTI;
0 BREAD;0 FRENCH FRIES;0 ROASTED SWEET POTATO;0 DANGO;0 ODEN;0 SUSHI;0 FRIED SHRIMP;
0 FISH CAKE WITH SWIRL DESIGN;0 SOFT ICE CREAM;0 SHAVED ICE;0 ICE CREAM;0 DOUGHNUT;0 COOKIE;
0 CHOCOLATE BAR;0 CANDY;0 LOLLIPOP;0 CUSTARD;0 HONEY POT;0 SHORTCAKE;0 BENTO BOX;0 POT OF FOOD;
0 COOKING;0 FORK AND KNIFE;0 TEACUP WITHOUT HANDLE;0 SAKE BOTTLE AND CUP;0 WINE GLASS;
0 COCKTAIL GLASS;0 TROPICAL DRINK;0 BEER MUG;0 CLINKING BEER MUGS;0 BABY BOTTLE;
0 FORK AND KNIFE WITH PLATE;0 BOTTLE WITH POPPING CORK;0 POPCORN;0 RIBBON;0 WRAPPED PRESENT;
0 BIRTHDAY CAKE;0 JACK-O-LANTERN;0 CHRISTMAS TREE;0 FATHER CHRISTMAS;0 FIREWORKS;
0 FIREWORK SPARKLER;0 BALLOON;0 PARTY POPPER;0 CONFETTI BALL;0 TANABATA TREE;0 CROSSED FLAGS;
0 PINE DECORATION;0 JAPANESE DOLLS;0 CARP STREAMER;0 WIND CHIME;0 MOON VIEWING CEREMONY;
0 SCHOOL SATCHEL;0 GRADUATION CAP;0 HEART WITH TIP ON THE LEFT;0 BOUQUET OF FLOWERS;
0 MILITARY MEDAL;0 REMINDER RIBBON;0 MUSICAL KEYBOARD WITH JACKS;0 STUDIO MICROPHONE;
0 LEVEL SLIDER;0 CONTROL KNOBS;0 BEAMED ASCENDING MUSICAL NOTES;1 DESCENDING MUSICAL NOTES;
0 FILM FRAMES;0 ADMISSION TICKETS;0 CAROUSEL HORSE;0 FERRIS WHEEL;0 ROLLER COASTER;
0 FISHING POLE AND FISH;0 MICROPHONE;0 MOVIE CAMERA;0 CINEMA;0 HEADPHONE;0 ARTIST PALETTE;
0 TOP HAT;0 CIRCUS TENT;0 TICKET;0 CLAPPER BOARD;0 PERFORMING ARTS;0 VIDEO GAME;0 DIRECT HIT;
0 SLOT MACHINE;0 BILLIARDS;0 GAME DIE;0 BOWLING;0 FLOWER PLAYING CARDS;0 MUSICAL NOTE;
0 MULTIPLE MUSICAL NOTES;0 SAXOPHONE;0 GUITAR;0 MUSICAL KEYBOARD;0 TRUMPET;0 VIOLIN;
0 MUSICAL SCORE;0 RUNNING SHIRT WITH SASH;0 TENNIS RACQUET AND BALL;0 SKI AND SKI BOOT;
0 BASKETBALL AND HOOP;0 CHEQUERED FLAG;0 SNOWBOARDER;0 RUNNER;0 SURFER;0 SPORTS MEDAL;0 TROPHY;
0 HORSE RACING;0 AMERICAN FOOTBALL;0 RUGBY FOOTBALL;0 SWIMMER;0 WEIGHT LIFTER;0 GOLFER;
0 RACING MOTORCYCLE;1 CAR;0 CRICKET BAT AND BALL;0 VOLLEYBALL;0 FIELD HOCKEY STICK AND BALL;
0 ICE HOCKEY STICK AND PUCK;0 TABLE TENNIS PADDLE AND BALL;0 SNOW CAPPED MOUNTAIN;0 CAMPING;
0 BEACH WITH UMBRELLA;0 BUILDING CONSTRUCTION;0 HOUSE BUILDINGS;0 CITYSCAPE;
0 DERELICT HOUSE BUILDING;0 CLASSICAL BUILDING;0 DESERT;1 ISLAND;0 NATIONAL PARK;0 STADIUM;
0 HOUSE BUILDING;1 WITH GARDEN;0 OFFICE BUILDING;0 JAPANESE POST OFFICE;0 EUROPEAN POST OFFICE;
0 HOSPITAL;0 BANK;0 AUTOMATED TELLER MACHINE;0 HOTEL;0 LOVE HOTEL;0 CONVENIENCE STORE;0 SCHOOL;
0 DEPARTMENT STORE;0 FACTORY;0 IZAKAYA LANTERN;0 JAPANESE CASTLE;0 EUROPEAN CASTLE;
0 WHITE PENNANT;0 BLACK PENNANT;0 WAVING WHITE FLAG;1 BLACK FLAG;0 ROSETTE;0 BLACK ROSETTE;
0 LABEL;0 BADMINTON RACQUET AND SHUTTLECOCK;0 BOW AND ARROW;0 AMPHORA;
0 EMOJI MODIFIER FITZPATRICK TYPE-1-2;3 TYPE-3;3 TYPE-4;3 TYPE-5;3 TYPE-6;0 RAT;0 MOUSE;0 OX;
0 WATER BUFFALO;0 COW;0 TIGER;0 LEOPARD;0 RABBIT;0 CAT;0 DRAGON;0 CROCODILE;0 WHALE;0 SNAIL;
0 SNAKE;0 HORSE;0 RAM;0 GOAT;0 SHEEP;0 MONKEY;0 ROOSTER;0 CHICKEN;0 DOG;0 PIG;0 BOAR;0 ELEPHANT;
0 OCTOPUS;0 SPIRAL SHELL;0 BUG;0 ANT;0 HONEYBEE;0 LADY BEETLE;0 FISH;0 TROPICAL FISH;0 BLOWFISH;
0 TURTLE;0 HATCHING CHICK;0 BABY CHICK;0 FRONT-FACING BABY CHICK;0 BIRD;0 PENGUIN;0 KOALA;
0 POODLE;0 DROMEDARY CAMEL;0 BACTRIAN CAMEL;0 DOLPHIN;0 MOUSE FACE;0 COW FACE;0 TIGER FACE;
0 RABBIT FACE;0 CAT FACE;0 DRAGON FACE;0 SPOUTING WHALE;0 HORSE FACE;0 MONKEY FACE;0 DOG FACE;
0 PIG FACE;0 FROG FACE;0 HAMSTER FACE;0 WOLF FACE;0 BEAR FACE;0 PANDA FACE;0 PIG NOSE;
0 PAW PRINTS;0 CHIPMUNK;0 EYES;0 EYE;0 EAR;0 NOSE;0 MOUTH;0 TONGUE;
0 WHITE UP POINTING BACKHAND INDEX;1 DOWN POINTING BACKHAND INDEX;1 LEFT POINTING BACKHAND INDEX;
1 RIGHT POINTING BACKHAND INDEX;0 FISTED HAND SIGN;0 WAVING HAND SIGN;0 OK HAND SIGN;
0 THUMBS UP SIGN;1 DOWN SIGN;0 CLAPPING HANDS SIGN;0 OPEN HANDS SIGN;0 CROWN;0 WOMANS HAT;
0 EYEGLASSES;0 NECKTIE;0 T-SHIRT;0 JEANS;0 DRESS;0 KIMONO;0 BIKINI;0 WOMANS CLOTHES;0 PURSE;
0 HANDBAG;0 POUCH;0 MANS SHOE;0 ATHLETIC SHOE;0 HIGH-HEELED SHOE;0 WOMANS SANDAL;1 BOOTS;
0 FOOTPRINTS;0 BUST IN SILHOUETTE;0 BUSTS IN SILHOUETTE;0 BOY;0 GIRL;0 MAN;0 WOMAN;0 FAMILY;
0 MAN AND WOMAN HOLDING HANDS;0 TWO MEN HOLDING HANDS;1 WOMEN HOLDING HANDS;0 POLICE OFFICER;
0 WOMAN WITH BUNNY EARS;0 BRIDE WITH VEIL;0 PERSON WITH BLOND HAIR;0 MAN WITH GUA PI MAO;2 TURBAN;
0 OLDER MAN;1 WOMAN;0 BABY;0 CONSTRUCTION WORKER;0 PRINCESS;0 JAPANESE OGRE;1 GOBLIN;0 GHOST;
0 BABY ANGEL;0 EXTRATERRESTRIAL ALIEN;0 ALIEN MONSTER;0 IMP;0 SKULL;0 INFORMATION DESK PERSON;
0 GUARDSMAN;0 DANCER;0 LIPSTICK;0 NAIL POLISH;0 FACE MASSAGE;0 HAIRCUT;0 BARBER POLE;0 SYRINGE;
0 PILL;0 KISS MARK;0 LOVE LETTER;0 RING;0 GEM STONE;0 KISS;0 BOUQUET;0 COUPLE WITH HEART;
0 WEDDING;0 BEATING HEART;0 BROKEN HEART;0 TWO HEARTS;0 SPARKLING HEART;0 GROWING HEART;
0 HEART WITH ARROW;0 BLUE HEART;0 GREEN HEART;0 YELLOW HEART;0 PURPLE HEART;0 HEART WITH RIBBON;
0 REVOLVING HEARTS;0 HEART DECORATION;0 DIAMOND SHAPE WITH A DOT INSIDE;0 ELECTRIC LIGHT BULB;
0 ANGER SYMBOL;0 BOMB;0 SLEEPING SYMBOL;0 COLLISION SYMBOL;0 SPLASHING SWEAT SYMBOL;0 DROPLET;
0 DASH SYMBOL;0 PILE OF POO;0 FLEXED BICEPS;0 DIZZY SYMBOL;0 SPEECH BALLOON;0 THOUGHT BALLOON;
0 WHITE FLOWER;0 HUNDRED POINTS SYMBOL;0 MONEY BAG;0 CURRENCY EXCHANGE;0 HEAVY DOLLAR SIGN;
0 CREDIT CARD;0 BANKNOTE WITH YEN SIGN;2 DOLLAR SIGN;2 EURO SIGN;2 POUND SIGN;0 MONEY WITH WINGS;
0 CHART WITH UPWARDS TREND AND YEN SIGN;0 SEAT;0 PERSONAL COMPUTER;0 BRIEFCASE;0 MINIDISC;
0 FLOPPY DISK;0 OPTICAL DISC;0 DVD;0 FILE FOLDER;0 OPEN FILE FOLDER;0 PAGE WITH CURL;1 FACING UP;
0 CALENDAR;0 TEAR-OFF CALENDAR;0 CARD INDEX;0 CHART WITH UPWARDS TREND;2 DOWNWARDS TREND;
0 BAR CHART;0 CLIPBOARD;0 PUSHPIN;0 ROUND PUSHPIN;0 PAPERCLIP;0 STRAIGHT RULER;0 TRIANGULAR RULER;
0 BOOKMARK TABS;0 LEDGER;0 NOTEBOOK;1 WITH DECORATIVE COVER;0 CLOSED BOOK;0 OPEN BOOK;
0 GREEN BOOK;0 BLUE BOOK;0 ORANGE BOOK;0 BOOKS;0 NAME BADGE;0 SCROLL;0 MEMO;0 TELEPHONE RECEIVER;
0 PAGER;0 FAX MACHINE;0 SATELLITE ANTENNA;0 PUBLIC ADDRESS LOUDSPEAKER;0 CHEERING MEGAPHONE;
0 OUTBOX TRAY;0 INBOX TRAY;0 PACKAGE;0 E-MAIL SYMBOL;0 INCOMING ENVELOPE;
0 ENVELOPE WITH DOWNWARDS ARROW ABOVE;0 CLOSED MAILBOX WITH LOWERED FLAG;3 RAISED FLAG;
0 OPEN MAILBOX WITH RAISED FLAG;3 LOWERED FLAG;0 POSTBOX;0 POSTAL HORN;0 NEWSPAPER;0 MOBILE PHONE;
2 WITH RIGHTWARDS ARROW AT LEFT;0 VIBRATION MODE;0 MOBILE PHONE OFF;0 NO MOBILE PHONES;
0 ANTENNA WITH BARS;0 CAMERA;1 WITH FLASH;0 VIDEO CAMERA;0 TELEVISION;0 RADIO;0 VIDEOCASSETTE;
0 FILM PROJECTOR;0 PORTABLE STEREO;0 PRAYER BEADS;0 TWISTED RIGHTWARDS ARROWS;
0 CLOCKWISE RIGHTWARDS AND LEFTWARDS OPEN CIRCLE ARROWS;7 WITH CIRCLED ONE OVERLAY;
1 DOWNWARDS AND UPWARDS OPEN CIRCLE ARROWS;
0 ANTICLOCKWISE DOWNWARDS AND UPWARDS OPEN CIRCLE ARROWS;0 LOW BRIGHTNESS SYMBOL;
0 HIGH BRIGHTNESS SYMBOL;0 SPEAKER WITH CANCELLATION STROKE;0 SPEAKER;1 WITH ONE SOUND WAVE;
2 THREE SOUND WAVES;0 BATTERY;0 ELECTRIC PLUG;0 LEFT-POINTING MAGNIFYING GLASS;
0 RIGHT-POINTING MAGNIFYING GLASS;0 LOCK WITH INK PEN;0 CLOSED LOCK WITH KEY;0 KEY;0 LOCK;
0 OPEN LOCK;0 BELL;1 WITH CANCELLATION STROKE;0 BOOKMARK;0 LINK SYMBOL;0 RADIO BUTTON;
0 BACK WITH LEFTWARDS ARROW ABOVE;0 END WITH LEFTWARDS ARROW ABOVE;
0 ON WITH EXCLAMATION MARK WITH LEFT RIGHT ARROW ABOVE;0 SOON WITH RIGHTWARDS ARROW ABOVE;
0 TOP WITH UPWARDS ARROW ABOVE;0 NO ONE UNDER EIGHTEEN SYMBOL;0 KEYCAP TEN;
0 INPUT SYMBOL FOR LATIN CAPITAL LETTERS;4 SMALL LETTERS;3 NUMBERS;3 SYMBOLS;3 LATIN LETTERS;
0 FIRE;0 ELECTRIC TORCH;0 WRENCH;0 HAMMER;0 NUT AND BOLT;0 HOCHO;0 PISTOL;0 MICROSCOPE;
0 TELESCOPE;0 CRYSTAL BALL;0 SIX POINTED STAR WITH MIDDLE DOT;0 JAPANESE SYMBOL FOR BEGINNER;
0 TRIDENT EMBLEM;0 BLACK SQUARE BUTTON;0 WHITE SQUARE BUTTON;0 LARGE RED CIRCLE;1 BLUE CIRCLE;
1 ORANGE DIAMOND;1 BLUE DIAMOND;0 SMALL ORANGE DIAMOND;1 BLUE DIAMOND;0 UP-POINTING RED TRIANGLE;
0 DOWN-POINTING RED TRIANGLE;0 UP-POINTING SMALL RED TRIANGLE;0 DOWN-POINTING SMALL RED TRIANGLE;
0 LOWER RIGHT SHADOWED WHITE CIRCLE;0 UPPER RIGHT SHADOWED WHITE CIRCLE;0 CIRCLED CROSS POMMEE;
0 CROSS POMMEE WITH HALF-CIRCLE BELOW;1 POMMEE;0 NOTCHED LEFT SEMICIRCLE WITH THREE DOTS;
1 RIGHT SEMICIRCLE WITH THREE DOTS;0 SYMBOL FOR MARKS CHAPTER;0 WHITE LATIN CROSS;
0 HEAVY LATIN CROSS;0 CELTIC CROSS;0 OM SYMBOL;0 DOVE OF PEACE;0 KAABA;0 MOSQUE;0 SYNAGOGUE;
0 MENORAH WITH NINE BRANCHES;0 BOWL OF HYGIEIA;0 CLOCK FACE ONE OCLOCK;2 TWO OCLOCK;
2 THREE OCLOCK;2 FOUR OCLOCK;2 FIVE OCLOCK;2 SIX OCLOCK;2 SEVEN OCLOCK;2 EIGHT OCLOCK;
2 NINE OCLOCK;2 TEN OCLOCK;2 ELEVEN OCLOCK;2 TWELVE OCLOCK;2 ONE-THIRTY;2 TWO-THIRTY;
2 THREE-THIRTY;2 FOUR-THIRTY;2 FIVE-THIRTY;2 SIX-THIRTY;2 SEVEN-THIRTY;2 EIGHT-THIRTY;
2 NINE-THIRTY;2 TEN-THIRTY;2 ELEVEN-THIRTY;2 TWELVE-THIRTY;0 RIGHT SPEAKER;2 WITH ONE SOUND WAVE;
3 THREE SOUND WAVES;0 BULLHORN;1 WITH SOUND WAVES;0 RINGING BELL;0 BOOK;0 CANDLE;
0 MANTELPIECE CLOCK;0 BLACK SKULL AND CROSSBONES;0 NO PIRACY;0 HOLE;
0 MAN IN BUSINESS SUIT LEVITATING;0 SLEUTH OR SPY;0 DARK SUNGLASSES;0 SPIDER;1 WEB;0 JOYSTICK;
0 MAN DANCING;0 LEFT HAND TELEPHONE RECEIVER;0 TELEPHONE RECEIVER WITH PAGE;
0 RIGHT HAND TELEPHONE RECEIVER;0 WHITE TOUCHTONE TELEPHONE;0 BLACK TOUCHTONE TELEPHONE;
0 TELEPHONE ON TOP OF MODEM;0 CLAMSHELL MOBILE PHONE;0 BACK OF ENVELOPE;0 STAMPED ENVELOPE;
0 ENVELOPE WITH LIGHTNING;0 FLYING ENVELOPE;0 PEN OVER STAMPED ENVELOPE;0 LINKED PAPERCLIPS;
0 BLACK PUSHPIN;0 LOWER LEFT PENCIL;2 BALLPOINT PEN;2 FOUNTAIN PEN;2 PAINTBRUSH;2 CRAYON;
0 LEFT WRITING HAND;0 TURNED OK HAND SIGN;0 RAISED HAND WITH FINGERS SPLAYED;
0 REVERSED RAISED HAND WITH FINGERS SPLAYED;1 THUMBS UP SIGN;2 DOWN SIGN;1 VICTORY HAND;
1 HAND WITH MIDDLE FINGER EXTENDED;0 RAISED HAND WITH PART BETWEEN MIDDLE AND RING FINGERS;
0 WHITE DOWN POINTING LEFT HAND INDEX;0 SIDEWAYS WHITE LEFT POINTING INDEX;2 RIGHT POINTING INDEX;
1 BLACK LEFT POINTING INDEX;2 RIGHT POINTING INDEX;0 BLACK LEFT POINTING BACKHAND INDEX;
1 RIGHT POINTING BACKHAND INDEX;0 SIDEWAYS WHITE UP POINTING INDEX;2 DOWN POINTING INDEX;
1 BLACK UP POINTING INDEX;2 DOWN POINTING INDEX;0 BLACK UP POINTING BACKHAND INDEX;
1 DOWN POINTING BACKHAND INDEX;1 HEART;0 DESKTOP COMPUTER;0 KEYBOARD AND MOUSE;
0 THREE NETWORKED COMPUTERS;0 PRINTER;0 POCKET CALCULATOR;0 BLACK HARD SHELL FLOPPY DISK;
0 WHITE HARD SHELL FLOPPY DISK;0 SOFT SHELL FLOPPY DISK;0 TAPE CARTRIDGE;0 WIRED KEYBOARD;
0 ONE BUTTON MOUSE;0 TWO BUTTON MOUSE;0 THREE BUTTON MOUSE;0 TRACKBALL;0 OLD PERSONAL COMPUTER;
0 HARD DISK;0 SCREEN;0 PRINTER ICON;0 FAX ICON;0 OPTICAL DISC ICON;0 DOCUMENT WITH TEXT;
3 AND PICTURE;2 PICTURE;0 FRAME WITH PICTURE;2 TILES;2 AN X;0 BLACK FOLDER;0 FOLDER;0 OPEN FOLDER;
0 CARD INDEX DIVIDERS;1 FILE BOX;0 FILE CABINET;0 EMPTY NOTE;2 PAGE;2 PAD;0 NOTE;1 PAGE;1 PAD;
0 EMPTY DOCUMENT;1 PAGE;1 PAGES;0 DOCUMENT;0 PAGE;0 PAGES;0 WASTEBASKET;0 SPIRAL NOTE PAD;
1 CALENDAR PAD;0 DESKTOP WINDOW;0 MINIMIZE;0 MAXIMIZE;0 OVERLAP;
0 CLOCKWISE RIGHT AND LEFT SEMICIRCLE ARROWS;0 CANCELLATION X;0 INCREASE FONT SIZE SYMBOL;
0 DECREASE FONT SIZE SYMBOL;0 COMPRESSION;0 OLD KEY;0 ROLLED-UP NEWSPAPER;
0 PAGE WITH CIRCLED TEXT;0 STOCK CHART;0 DAGGER KNIFE;0 LIPS;0 SPEAKING HEAD IN SILHOUETTE;
0 THREE RAYS ABOVE;2 BELOW;2 LEFT;2 RIGHT;0 LEFT SPEECH BUBBLE;0 RIGHT SPEECH BUBBLE;
0 TWO SPEECH BUBBLES;0 THREE SPEECH BUBBLES;0 LEFT THOUGHT BUBBLE;0 RIGHT THOUGHT BUBBLE;
0 LEFT ANGER BUBBLE;0 RIGHT ANGER BUBBLE;0 MOOD BUBBLE;0 LIGHTNING MOOD BUBBLE;1 MOOD;
0 BALLOT BOX WITH BALLOT;1 SCRIPT X;1 BOX WITH SCRIPT X;1 BOLD SCRIPT X;1 BOX WITH BOLD SCRIPT X;
0 LIGHT CHECK MARK;0 BALLOT BOX WITH BOLD CHECK;0 WORLD MAP;0 MOUNT FUJI;0 TOKYO TOWER;
0 STATUE OF LIBERTY;0 SILHOUETTE OF JAPAN;0 MOYAI;0 GRINNING FACE;2 WITH SMILING EYES;
0 FACE WITH TEARS OF JOY;0 SMILING FACE WITH OPEN MOUTH;5 AND SMILING EYES;6 COLD SWEAT;
6 TIGHTLY-CLOSED EYES;3 HALO;3 HORNS;0 WINKING FACE;0 SMILING FACE WITH SMILING EYES;
0 FACE SAVOURING DELICIOUS FOOD;0 RELIEVED FACE;0 SMILING FACE WITH HEART-SHAPED EYES;
3 SUNGLASSES;0 SMIRKING FACE;0 NEUTRAL FACE;0 EXPRESSIONLESS FACE;0 UNAMUSED FACE;
0 FACE WITH COLD SWEAT;0 PENSIVE FACE;0 CONFUSED FACE;0 CONFOUNDED FACE;0 KISSING FACE;
0 FACE THROWING A KISS;0 KISSING FACE WITH SMILING EYES;3 CLOSED EYES;
0 FACE WITH STUCK-OUT TONGUE;4 AND WINKING EYE;5 TIGHTLY-CLOSED EYES;0 DISAPPOINTED FACE;
0 WORRIED FACE;0 ANGRY FACE;0 POUTING FACE;0 CRYING FACE;0 PERSEVERING FACE;
0 FACE WITH LOOK OF TRIUMPH;0 DISAPPOINTED BUT RELIEVED FACE;0 FROWNING FACE WITH OPEN MOUTH;
0 ANGUISHED FACE;0 FEARFUL FACE;0 WEARY FACE;0 SLEEPY FACE;0 TIRED FACE;0 GRIMACING FACE;
0 LOUDLY CRYING FACE;0 FACE WITH OPEN MOUTH;0 HUSHED FACE;0 FACE WITH OPEN MOUTH AND COLD SWEAT;
1 SCREAMING IN FEAR;0 ASTONISHED FACE;0 FLUSHED FACE;0 SLEEPING FACE;0 DIZZY FACE;
0 FACE WITHOUT MOUTH;1 WITH MEDICAL MASK;0 GRINNING CAT FACE WITH SMILING EYES;
0 CAT FACE WITH TEARS OF JOY;0 SMILING CAT FACE WITH OPEN MOUTH;4 HEART-SHAPED EYES;
0 CAT FACE WITH WRY SMILE;0 KISSING CAT FACE WITH CLOSED EYES;0 POUTING CAT FACE;
0 CRYING CAT FACE;0 WEARY CAT FACE;0 SLIGHTLY FROWNING FACE;1 SMILING FACE;0 UPSIDE-DOWN FACE;
0 FACE WITH ROLLING EYES;2 NO GOOD GESTURE;2 OK GESTURE;0 PERSON BOWING DEEPLY;
0 SEE-NO-EVIL MONKEY;0 HEAR-NO-EVIL MONKEY;0 SPEAK-NO-EVIL MONKEY;0 HAPPY PERSON RAISING ONE HAND;
0 PERSON RAISING BOTH HANDS IN CELEBRATION;1 FROWNING;1 WITH POUTING FACE;2 FOLDED HANDS;
0 NORTH WEST POINTING LEAF;0 SOUTH WEST POINTING LEAF;0 NORTH EAST POINTING LEAF;
0 SOUTH EAST POINTING LEAF;0 TURNED NORTH WEST POINTING LEAF;1 SOUTH WEST POINTING LEAF;
1 NORTH EAST POINTING LEAF;1 SOUTH EAST POINTING LEAF;0 NORTH WEST POINTING VINE LEAF;
0 SOUTH WEST POINTING VINE LEAF;0 NORTH EAST POINTING VINE LEAF;0 SOUTH EAST POINTING VINE LEAF;
0 HEAVY NORTH WEST POINTING VINE LEAF;1 SOUTH WEST POINTING VINE LEAF;
1 NORTH EAST POINTING VINE LEAF;1 SOUTH EAST POINTING VINE LEAF;0 NORTH WEST POINTING BUD;
0 SOUTH WEST POINTING BUD;0 NORTH EAST POINTING BUD;0 SOUTH EAST POINTING BUD;
0 HEAVY NORTH WEST POINTING BUD;1 SOUTH WEST POINTING BUD;1 NORTH EAST POINTING BUD;
1 SOUTH EAST POINTING BUD;0 HOLLOW QUILT SQUARE ORNAMENT;4 IN BLACK SQUARE;
0 SOLID QUILT SQUARE ORNAMENT;4 IN BLACK SQUARE;0 LEFTWARDS ROCKET;0 UPWARDS ROCKET;
0 RIGHTWARDS ROCKET;0 DOWNWARDS ROCKET;0 SCRIPT LIGATURE ET ORNAMENT;
0 HEAVY SCRIPT LIGATURE ET ORNAMENT;0 LIGATURE OPEN ET ORNAMENT;0 HEAVY LIGATURE OPEN ET ORNAMENT;
1 AMPERSAND ORNAMENT;0 SWASH AMPERSAND ORNAMENT;
0 SANS-SERIF HEAVY DOUBLE TURNED COMMA QUOTATION MARK ORNAMENT;3 COMMA QUOTATION MARK ORNAMENT;
2 LOW DOUBLE COMMA QUOTATION MARK ORNAMENT;0 HEAVY INTERROBANG ORNAMENT;
0 SANS-SERIF INTERROBANG ORNAMENT;0 HEAVY SANS-SERIF INTERROBANG ORNAMENT;0 VERY HEAVY SOLIDUS;
2 REVERSE SOLIDUS;0 CHECKER BOARD;0 REVERSE CHECKER BOARD;0 ROCKET;0 HELICOPTER;
0 STEAM LOCOMOTIVE;0 RAILWAY CAR;0 HIGH-SPEED TRAIN;2 WITH BULLET NOSE;0 TRAIN;0 METRO;
0 LIGHT RAIL;0 STATION;0 TRAM;1 CAR;0 BUS;0 ONCOMING BUS;0 TROLLEYBUS;0 BUS STOP;0 MINIBUS;
0 AMBULANCE;0 FIRE ENGINE;0 POLICE CAR;0 ONCOMING POLICE CAR;0 TAXI;0 ONCOMING TAXI;0 AUTOMOBILE;
0 ONCOMING AUTOMOBILE;0 RECREATIONAL VEHICLE;0 DELIVERY TRUCK;0 ARTICULATED LORRY;0 TRACTOR;
0 MONORAIL;0 MOUNTAIN RAILWAY;0 SUSPENSION RAILWAY;0 MOUNTAIN CABLEWAY;0 AERIAL TRAMWAY;0 SHIP;
0 ROWBOAT;0 SPEEDBOAT;0 HORIZONTAL TRAFFIC LIGHT;0 VERTICAL TRAFFIC LIGHT;0 CONSTRUCTION SIGN;
0 POLICE CARS REVOLVING LIGHT;0 TRIANGULAR FLAG ON POST;0 DOOR;0 NO ENTRY SIGN;0 SMOKING SYMBOL;
0 NO SMOKING SYMBOL;0 PUT LITTER IN ITS PLACE SYMBOL;0 DO NOT LITTER SYMBOL;
0 POTABLE WATER SYMBOL;0 NON-POTABLE WATER SYMBOL;0 BICYCLE;0 NO BICYCLES;0 BICYCLIST;
0 MOUNTAIN BICYCLIST;0 PEDESTRIAN;0 NO PEDESTRIANS;0 CHILDREN CROSSING;0 MENS SYMBOL;
0 WOMENS SYMBOL;0 RESTROOM;0 BABY SYMBOL;0 TOILET;0 WATER CLOSET;0 SHOWER;0 BATH;0 BATHTUB;
0 PASSPORT CONTROL;0 CUSTOMS;0 BAGGAGE CLAIM;0 LEFT LUGGAGE;0 TRIANGLE WITH ROUNDED CORNERS;
0 PROHIBITED SIGN;0 CIRCLED INFORMATION SOURCE;0 BOYS SYMBOL;0 GIRLS SYMBOL;0 COUCH AND LAMP;
0 SLEEPING ACCOMMODATION;0 SHOPPING BAGS;0 BELLHOP BELL;0 BED;0 PLACE OF WORSHIP;0 OCTAGONAL SIGN;
0 SHOPPING TROLLEY;0 STUPA;0 PAGODA;0 HINDU TEMPLE;0 HUT;0 ELEVATOR;@1F6DD;0 PLAYGROUND SLIDE;
0 WHEEL;0 RING BUOY;0 HAMMER AND WRENCH;0 SHIELD;0 OIL DRUM;0 MOTORWAY;0 RAILWAY TRACK;
0 MOTOR BOAT;0 UP-POINTING MILITARY AIRPLANE;1 AIRPLANE;1 SMALL AIRPLANE;0 SMALL AIRPLANE;
0 NORTHEAST-POINTING AIRPLANE;0 AIRPLANE DEPARTURE;1 ARRIVING;@1F6F0;0 SATELLITE;
0 ONCOMING FIRE ENGINE;0 DIESEL LOCOMOTIVE;0 PASSENGER SHIP;0 SCOOTER;0 MOTOR SCOOTER;0 CANOE;
0 SLED;0 FLYING SAUCER;0 SKATEBOARD;0 AUTO RICKSHAW;0 PICKUP TRUCK;0 ROLLER SKATE;@1F700;
0 ALCHEMICAL SYMBOL FOR QUINTESSENCE;3 AIR;3 FIRE;3 EARTH;3 WATER;3 AQUAFORTIS;3 AQUA REGIA;
4 REGIA-2;4 VITAE;4 VITAE-2;3 VINEGAR;3 VINEGAR-2;3 VINEGAR-3;3 SULFUR;3 PHILOSOPHERS SULFUR;
3 BLACK SULFUR;3 MERCURY SUBLIMATE;4 SUBLIMATE-2;4 SUBLIMATE-3;3 CINNABAR;3 SALT;3 NITRE;
3 VITRIOL;3 VITRIOL-2;3 ROCK SALT;4 SALT-2;3 GOLD;3 SILVER;3 IRON ORE;4 ORE-2;3 CROCUS OF IRON;
3 REGULUS OF IRON;3 COPPER ORE;3 IRON-COPPER ORE;3 SUBLIMATE OF COPPER;3 CROCUS OF COPPER;
5 COPPER-2;3 COPPER ANTIMONIATE;3 SALT OF COPPER ANTIMONIATE;3 SUBLIMATE OF SALT OF COPPER;
3 VERDIGRIS;3 TIN ORE;3 LEAD ORE;3 ANTIMONY ORE;3 SUBLIMATE OF ANTIMONY;3 SALT OF ANTIMONY;
3 SUBLIMATE OF SALT OF ANTIMONY;3 VINEGAR OF ANTIMONY;3 REGULUS OF ANTIMONY;5 ANTIMONY-2;
3 REGULUS;3 REGULUS-2;3 REGULUS-3;3 REGULUS-4;3 ALKALI;3 ALKALI-2;3 MARCASITE;3 SAL-AMMONIAC;
3 ARSENIC;3 REALGAR;3 REALGAR-2;3 AURIPIGMENT;3 BISMUTH ORE;3 TARTAR;3 TARTAR-2;3 QUICK LIME;
3 BORAX;3 BORAX-2;3 BORAX-3;3 ALUM;3 OIL;3 SPIRIT;3 TINCTURE;3 GUM;3 WAX;3 POWDER;3 CALX;3 TUTTY;
3 CAPUT MORTUUM;3 SCEPTER OF JOVE;3 CADUCEUS;3 TRIDENT;3 STARRED TRIDENT;3 LODESTONE;3 SOAP;
3 URINE;3 HORSE DUNG;3 ASHES;3 POT ASHES;3 BRICK;3 POWDERED BRICK;3 AMALGAM;
3 STRATUM SUPER STRATUM;5 STRATUM-2;3 SUBLIMATION;3 PRECIPITATE;3 DISTILL;3 DISSOLVE;3 DISSOLVE-2;
3 PURIFY;3 PUTREFACTION;3 CRUCIBLE;3 CRUCIBLE-2;3 CRUCIBLE-3;3 CRUCIBLE-4;3 CRUCIBLE-5;3 ALEMBIC;
3 BATH OF MARY;5 VAPOURS;3 RETORT;3 HOUR;3 NIGHT;3 DAY-NIGHT;3 MONTH;3 HALF DRAM;4 OUNCE;@1F780;
0 BLACK LEFT-POINTING ISOSCELES RIGHT TRIANGLE;1 UP-POINTING ISOSCELES RIGHT TRIANGLE;
1 RIGHT-POINTING ISOSCELES RIGHT TRIANGLE;1 DOWN-POINTING ISOSCELES RIGHT TRIANGLE;
1 SLIGHTLY SMALL CIRCLE;0 MEDIUM BOLD WHITE CIRCLE;0 BOLD WHITE CIRCLE;0 HEAVY WHITE CIRCLE;
0 VERY HEAVY WHITE CIRCLE;0 EXTREMELY HEAVY WHITE CIRCLE;
0 WHITE CIRCLE CONTAINING BLACK SMALL CIRCLE;0 ROUND TARGET;0 BLACK TINY SQUARE;
1 SLIGHTLY SMALL SQUARE;0 LIGHT WHITE SQUARE;0 MEDIUM WHITE SQUARE;0 BOLD WHITE SQUARE;
0 HEAVY WHITE SQUARE;0 VERY HEAVY WHITE SQUARE;0 EXTREMELY HEAVY WHITE SQUARE;
0 WHITE SQUARE CONTAINING BLACK VERY SMALL SQUARE;4 MEDIUM SQUARE;0 SQUARE TARGET;
0 BLACK TINY DIAMOND;1 VERY SMALL DIAMOND;1 MEDIUM SMALL DIAMOND;
0 WHITE DIAMOND CONTAINING BLACK VERY SMALL DIAMOND;4 MEDIUM DIAMOND;0 DIAMOND TARGET;
0 BLACK TINY LOZENGE;1 VERY SMALL LOZENGE;1 MEDIUM SMALL LOZENGE;
0 WHITE LOZENGE CONTAINING BLACK SMALL LOZENGE;0 THIN GREEK CROSS;0 LIGHT GREEK CROSS;
0 MEDIUM GREEK CROSS;0 BOLD GREEK CROSS;0 VERY BOLD GREEK CROSS;1 HEAVY GREEK CROSS;
0 EXTREMELY HEAVY GREEK CROSS;0 THIN SALTIRE;0 LIGHT SALTIRE;0 MEDIUM SALTIRE;0 BOLD SALTIRE;
0 HEAVY SALTIRE;0 VERY HEAVY SALTIRE;0 EXTREMELY HEAVY SALTIRE;0 LIGHT FIVE SPOKED ASTERISK;
0 MEDIUM FIVE SPOKED ASTERISK;0 BOLD FIVE SPOKED ASTERISK;0 HEAVY FIVE SPOKED ASTERISK;
0 VERY HEAVY FIVE SPOKED ASTERISK;0 EXTREMELY HEAVY FIVE SPOKED ASTERISK;
0 LIGHT SIX SPOKED ASTERISK;0 MEDIUM SIX SPOKED ASTERISK;0 BOLD SIX SPOKED ASTERISK;
0 HEAVY SIX SPOKED ASTERISK;0 VERY HEAVY SIX SPOKED ASTERISK;
0 EXTREMELY HEAVY SIX SPOKED ASTERISK;0 LIGHT EIGHT SPOKED ASTERISK;
0 MEDIUM EIGHT SPOKED ASTERISK;0 BOLD EIGHT SPOKED ASTERISK;0 HEAVY EIGHT SPOKED ASTERISK;
0 VERY HEAVY EIGHT SPOKED ASTERISK;0 LIGHT THREE POINTED BLACK STAR;
0 MEDIUM THREE POINTED BLACK STAR;0 THREE POINTED BLACK STAR;0 MEDIUM THREE POINTED PINWHEEL STAR;
0 LIGHT FOUR POINTED BLACK STAR;0 MEDIUM FOUR POINTED BLACK STAR;0 FOUR POINTED BLACK STAR;
0 MEDIUM FOUR POINTED PINWHEEL STAR;0 REVERSE LIGHT FOUR POINTED PINWHEEL STAR;
0 LIGHT FIVE POINTED BLACK STAR;0 HEAVY FIVE POINTED BLACK STAR;0 MEDIUM SIX POINTED BLACK STAR;
0 HEAVY SIX POINTED BLACK STAR;0 SIX POINTED PINWHEEL STAR;0 MEDIUM EIGHT POINTED BLACK STAR;
0 HEAVY EIGHT POINTED BLACK STAR;0 VERY HEAVY EIGHT POINTED BLACK STAR;
0 HEAVY EIGHT POINTED PINWHEEL STAR;0 LIGHT TWELVE POINTED BLACK STAR;
0 HEAVY TWELVE POINTED BLACK STAR;3 PINWHEEL STAR;0 CIRCLED TRIANGLE;0 NEGATIVE CIRCLED TRIANGLE;
0 CIRCLED SQUARE;0 NEGATIVE CIRCLED SQUARE;@1F7E0;0 LARGE ORANGE CIRCLE;1 YELLOW CIRCLE;
1 GREEN CIRCLE;1 PURPLE CIRCLE;1 BROWN CIRCLE;1 RED SQUARE;1 BLUE SQUARE;1 ORANGE SQUARE;
1 YELLOW SQUARE;1 GREEN SQUARE;1 PURPLE SQUARE;1 BROWN SQUARE;@1F7F0;0 HEAVY EQUALS SIGN;@1F800;
0 LEFTWARDS ARROW WITH SMALL TRIANGLE ARROWHEAD;0 UPWARDS ARROW WITH SMALL TRIANGLE ARROWHEAD;
0 RIGHTWARDS ARROW WITH SMALL TRIANGLE ARROWHEAD;0 DOWNWARDS ARROW WITH SMALL TRIANGLE ARROWHEAD;
0 LEFTWARDS ARROW WITH MEDIUM TRIANGLE ARROWHEAD;0 UPWARDS ARROW WITH MEDIUM TRIANGLE ARROWHEAD;
0 RIGHTWARDS ARROW WITH MEDIUM TRIANGLE ARROWHEAD;
0 DOWNWARDS ARROW WITH MEDIUM TRIANGLE ARROWHEAD;0 LEFTWARDS ARROW WITH LARGE TRIANGLE ARROWHEAD;
0 UPWARDS ARROW WITH LARGE TRIANGLE ARROWHEAD;0 RIGHTWARDS ARROW WITH LARGE TRIANGLE ARROWHEAD;
0 DOWNWARDS ARROW WITH LARGE TRIANGLE ARROWHEAD;@1F810;
0 LEFTWARDS ARROW WITH SMALL EQUILATERAL ARROWHEAD;
0 UPWARDS ARROW WITH SMALL EQUILATERAL ARROWHEAD;
0 RIGHTWARDS ARROW WITH SMALL EQUILATERAL ARROWHEAD;
0 DOWNWARDS ARROW WITH SMALL EQUILATERAL ARROWHEAD;0 LEFTWARDS ARROW WITH EQUILATERAL ARROWHEAD;
0 UPWARDS ARROW WITH EQUILATERAL ARROWHEAD;0 RIGHTWARDS ARROW WITH EQUILATERAL ARROWHEAD;
0 DOWNWARDS ARROW WITH EQUILATERAL ARROWHEAD;0 HEAVY LEFTWARDS ARROW WITH EQUILATERAL ARROWHEAD;
1 UPWARDS ARROW WITH EQUILATERAL ARROWHEAD;1 RIGHTWARDS ARROW WITH EQUILATERAL ARROWHEAD;
1 DOWNWARDS ARROW WITH EQUILATERAL ARROWHEAD;1 LEFTWARDS ARROW WITH LARGE EQUILATERAL ARROWHEAD;
1 UPWARDS ARROW WITH LARGE EQUILATERAL ARROWHEAD;
1 RIGHTWARDS ARROW WITH LARGE EQUILATERAL ARROWHEAD;
1 DOWNWARDS ARROW WITH LARGE EQUILATERAL ARROWHEAD;
0 LEFTWARDS TRIANGLE-HEADED ARROW WITH NARROW SHAFT;
0 UPWARDS TRIANGLE-HEADED ARROW WITH NARROW SHAFT;
0 RIGHTWARDS TRIANGLE-HEADED ARROW WITH NARROW SHAFT;
0 DOWNWARDS TRIANGLE-HEADED ARROW WITH NARROW SHAFT;
0 LEFTWARDS TRIANGLE-HEADED ARROW WITH MEDIUM SHAFT;
0 UPWARDS TRIANGLE-HEADED ARROW WITH MEDIUM SHAFT;
0 RIGHTWARDS TRIANGLE-HEADED ARROW WITH MEDIUM SHAFT;
0 DOWNWARDS TRIANGLE-HEADED ARROW WITH MEDIUM SHAFT;
0 LEFTWARDS TRIANGLE-HEADED ARROW WITH BOLD SHAFT;0 UPWARDS TRIANGLE-HEADED ARROW WITH BOLD SHAFT;
0 RIGHTWARDS TRIANGLE-HEADED ARROW WITH BOLD SHAFT;
0 DOWNWARDS TRIANGLE-HEADED ARROW WITH BOLD SHAFT;
0 LEFTWARDS TRIANGLE-HEADED ARROW WITH HEAVY SHAFT;
0 UPWARDS TRIANGLE-HEADED ARROW WITH HEAVY SHAFT;
0 RIGHTWARDS TRIANGLE-HEADED ARROW WITH HEAVY SHAFT;
0 DOWNWARDS TRIANGLE-HEADED ARROW WITH HEAVY SHAFT;
0 LEFTWARDS TRIANGLE-HEADED ARROW WITH VERY HEAVY SHAFT;
0 UPWARDS TRIANGLE-HEADED ARROW WITH VERY HEAVY SHAFT;
0 RIGHTWARDS TRIANGLE-HEADED ARROW WITH VERY HEAVY SHAFT;
0 DOWNWARDS TRIANGLE-HEADED ARROW WITH VERY HEAVY SHAFT;0 LEFTWARDS FINGER-POST ARROW;
0 UPWARDS FINGER-POST ARROW;0 RIGHTWARDS FINGER-POST ARROW;0 DOWNWARDS FINGER-POST ARROW;
0 LEFTWARDS SQUARED ARROW;0 UPWARDS SQUARED ARROW;0 RIGHTWARDS SQUARED ARROW;
0 DOWNWARDS SQUARED ARROW;0 LEFTWARDS COMPRESSED ARROW;0 UPWARDS COMPRESSED ARROW;
0 RIGHTWARDS COMPRESSED ARROW;0 DOWNWARDS COMPRESSED ARROW;0 LEFTWARDS HEAVY COMPRESSED ARROW;
0 UPWARDS HEAVY COMPRESSED ARROW;0 RIGHTWARDS HEAVY COMPRESSED ARROW;
0 DOWNWARDS HEAVY COMPRESSED ARROW;0 LEFTWARDS HEAVY ARROW;0 UPWARDS HEAVY ARROW;
0 RIGHTWARDS HEAVY ARROW;0 DOWNWARDS HEAVY ARROW;@1F850;0 LEFTWARDS SANS-SERIF ARROW;
0 UPWARDS SANS-SERIF ARROW;0 RIGHTWARDS SANS-SERIF ARROW;0 DOWNWARDS SANS-SERIF ARROW;
0 NORTH WEST SANS-SERIF ARROW;1 EAST SANS-SERIF ARROW;0 SOUTH EAST SANS-SERIF ARROW;
1 WEST SANS-SERIF ARROW;0 LEFT RIGHT SANS-SERIF ARROW;0 UP DOWN SANS-SERIF ARROW;@1F860;
0 WIDE-HEADED LEFTWARDS LIGHT BARB ARROW;1 UPWARDS LIGHT BARB ARROW;1 RIGHTWARDS LIGHT BARB ARROW;
1 DOWNWARDS LIGHT BARB ARROW;1 NORTH WEST LIGHT BARB ARROW;2 EAST LIGHT BARB ARROW;
1 SOUTH EAST LIGHT BARB ARROW;2 WEST LIGHT BARB ARROW;1 LEFTWARDS BARB ARROW;1 UPWARDS BARB ARROW;
1 RIGHTWARDS BARB ARROW;1 DOWNWARDS BARB ARROW;1 NORTH WEST BARB ARROW;2 EAST BARB ARROW;
1 SOUTH EAST BARB ARROW;2 WEST BARB ARROW;1 LEFTWARDS MEDIUM BARB ARROW;
1 UPWARDS MEDIUM BARB ARROW;1 RIGHTWARDS MEDIUM BARB ARROW;1 DOWNWARDS MEDIUM BARB ARROW;
1 NORTH WEST MEDIUM BARB ARROW;2 EAST MEDIUM BARB ARROW;1 SOUTH EAST MEDIUM BARB ARROW;
2 WEST MEDIUM BARB ARROW;1 LEFTWARDS HEAVY BARB ARROW;1 UPWARDS HEAVY BARB ARROW;
1 RIGHTWARDS HEAVY BARB ARROW;1 DOWNWARDS HEAVY BARB ARROW;1 NORTH WEST HEAVY BARB ARROW;
2 EAST HEAVY BARB ARROW;1 SOUTH EAST HEAVY BARB ARROW;2 WEST HEAVY BARB ARROW;
1 LEFTWARDS VERY HEAVY BARB ARROW;1 UPWARDS VERY HEAVY BARB ARROW;
1 RIGHTWARDS VERY HEAVY BARB ARROW;1 DOWNWARDS VERY HEAVY BARB ARROW;
1 NORTH WEST VERY HEAVY BARB ARROW;2 EAST VERY HEAVY BARB ARROW;
1 SOUTH EAST VERY HEAVY BARB ARROW;2 WEST VERY HEAVY BARB ARROW;@1F890;
0 LEFTWARDS TRIANGLE ARROWHEAD;0 UPWARDS TRIANGLE ARROWHEAD;0 RIGHTWARDS TRIANGLE ARROWHEAD;
0 DOWNWARDS TRIANGLE ARROWHEAD;0 LEFTWARDS WHITE ARROW WITHIN TRIANGLE ARROWHEAD;
0 UPWARDS WHITE ARROW WITHIN TRIANGLE ARROWHEAD;
0 RIGHTWARDS WHITE ARROW WITHIN TRIANGLE ARROWHEAD;
0 DOWNWARDS WHITE ARROW WITHIN TRIANGLE ARROWHEAD;0 LEFTWARDS ARROW WITH NOTCHED TAIL;
0 UPWARDS ARROW WITH NOTCHED TAIL;0 RIGHTWARDS ARROW WITH NOTCHED TAIL;
0 DOWNWARDS ARROW WITH NOTCHED TAIL;0 HEAVY ARROW SHAFT WIDTH ONE;4 TWO THIRDS;4 ONE HALF;5 THIRD;
0 LEFTWARDS BOTTOM-SHADED WHITE ARROW;0 RIGHTWARDS BOTTOM SHADED WHITE ARROW;
0 LEFTWARDS TOP SHADED WHITE ARROW;0 RIGHTWARDS TOP SHADED WHITE ARROW;
0 LEFTWARDS LEFT-SHADED WHITE ARROW;0 RIGHTWARDS RIGHT-SHADED WHITE ARROW;
0 LEFTWARDS RIGHT-SHADED WHITE ARROW;0 RIGHTWARDS LEFT-SHADED WHITE ARROW;
0 LEFTWARDS BACK-TILTED SHADOWED WHITE ARROW;0 RIGHTWARDS BACK-TILTED SHADOWED WHITE ARROW;
0 LEFTWARDS FRONT-TILTED SHADOWED WHITE ARROW;0 RIGHTWARDS FRONT-TILTED SHADOWED WHITE ARROW;
0 WHITE ARROW SHAFT WIDTH ONE;4 TWO THIRDS;@1F8B0;0 ARROW POINTING UPWARDS THEN NORTH WEST;
2 RIGHTWARDS THEN CURVING SOUTH WEST;@1F900;0 CIRCLED CROSS FORMEE WITH FOUR DOTS;4 TWO DOTS;
2 FORMEE;0 LEFT HALF CIRCLE WITH FOUR DOTS;4 THREE DOTS;4 TWO DOTS;4 DOT;2 CIRCLE;
0 DOWNWARD FACING HOOK;2 NOTCHED HOOK;2 HOOK WITH DOT;2 NOTCHED HOOK WITH DOT;0 PINCHED FINGERS;
0 WHITE HEART;0 BROWN HEART;0 PINCHING HAND;0 ZIPPER-MOUTH FACE;0 MONEY-MOUTH FACE;
0 FACE WITH THERMOMETER;0 NERD FACE;0 THINKING FACE;0 FACE WITH HEAD-BANDAGE;0 ROBOT FACE;
0 HUGGING FACE;0 SIGN OF THE HORNS;0 CALL ME HAND;0 RAISED BACK OF HAND;0 LEFT-FACING FIST;
0 RIGHT-FACING FIST;0 HANDSHAKE;0 HAND WITH INDEX AND MIDDLE FINGERS CROSSED;
0 I LOVE YOU HAND SIGN;0 FACE WITH COWBOY HAT;0 CLOWN FACE;0 NAUSEATED FACE;
0 ROLLING ON THE FLOOR LAUGHING;0 DROOLING FACE;0 LYING FACE;0 FACE PALM;0 SNEEZING FACE;
0 FACE WITH ONE EYEBROW RAISED;0 GRINNING FACE WITH STAR EYES;3 ONE LARGE AND ONE SMALL EYE;
0 FACE WITH FINGER COVERING CLOSED LIPS;0 SERIOUS FACE WITH SYMBOLS COVERING MOUTH;
0 SMILING FACE WITH SMILING EYES AND HAND COVERING MOUTH;0 FACE WITH OPEN MOUTH VOMITING;
0 SHOCKED FACE WITH EXPLODING HEAD;0 PREGNANT WOMAN;0 BREAST-FEEDING;0 PALMS UP TOGETHER;0 SELFIE;
0 PRINCE;0 MAN IN TUXEDO;0 MOTHER CHRISTMAS;0 SHRUG;0 PERSON DOING CARTWHEEL;0 JUGGLING;0 FENCER;
0 MODERN PENTATHLON;0 WRESTLERS;0 WATER POLO;0 HANDBALL;0 DIVING MASK;0 WILTED FLOWER;
0 DRUM WITH DRUMSTICKS;0 CLINKING GLASSES;0 TUMBLER GLASS;0 SPOON;0 GOAL NET;0 RIFLE;
0 FIRST PLACE MEDAL;0 SECOND PLACE MEDAL;0 THIRD PLACE MEDAL;0 BOXING GLOVE;
0 MARTIAL ARTS UNIFORM;0 CURLING STONE;0 LACROSSE STICK AND BALL;0 SOFTBALL;0 FLYING DISC;
0 CROISSANT;0 AVOCADO;0 CUCUMBER;0 BACON;0 POTATO;0 CARROT;0 BAGUETTE BREAD;0 GREEN SALAD;
0 SHALLOW PAN OF FOOD;0 STUFFED FLATBREAD;0 EGG;0 GLASS OF MILK;0 PEANUTS;0 KIWIFRUIT;0 PANCAKES;
0 DUMPLING;0 FORTUNE COOKIE;0 TAKEOUT BOX;0 CHOPSTICKS;0 BOWL WITH SPOON;0 CUP WITH STRAW;
0 COCONUT;0 BROCCOLI;0 PIE;0 PRETZEL;0 CUT OF MEAT;0 SANDWICH;0 CANNED FOOD;0 LEAFY GREEN;0 MANGO;
0 MOON CAKE;0 BAGEL;0 SMILING FACE WITH SMILING EYES AND THREE HEARTS;0 YAWNING FACE;
0 SMILING FACE WITH TEAR;0 FACE WITH PARTY HORN AND PARTY HAT;2 UNEVEN EYES AND WAVY MOUTH;
0 OVERHEATED FACE;0 FREEZING FACE;0 NINJA;0 DISGUISED FACE;0 FACE HOLDING BACK TEARS;
1 WITH PLEADING EYES;0 SARI;0 LAB COAT;0 GOGGLES;0 HIKING BOOT;0 FLAT SHOE;0 CRAB;0 LION FACE;
0 SCORPION;0 TURKEY;0 UNICORN FACE;0 EAGLE;0 DUCK;0 BAT;0 SHARK;0 OWL;0 FOX FACE;0 BUTTERFLY;
0 DEER;0 GORILLA;0 LIZARD;0 RHINOCEROS;0 SHRIMP;0 SQUID;0 GIRAFFE FACE;0 ZEBRA FACE;0 HEDGEHOG;
0 SAUROPOD;0 T-REX;0 CRICKET;0 KANGAROO;0 LLAMA;0 PEACOCK;0 HIPPOPOTAMUS;0 PARROT;0 RACCOON;
0 LOBSTER;0 MOSQUITO;0 MICROBE;0 BADGER;0 SWAN;0 MAMMOTH;0 DODO;0 SLOTH;0 OTTER;0 ORANGUTAN;
0 SKUNK;0 FLAMINGO;0 OYSTER;0 BEAVER;0 BISON;0 SEAL;0 GUIDE DOG;0 PROBING CANE;
0 EMOJI COMPONENT RED HAIR;2 CURLY HAIR;2 BALD;2 WHITE HAIR;0 BONE;0 LEG;0 FOOT;0 TOOTH;
0 SUPERHERO;0 SUPERVILLAIN;0 SAFETY VEST;0 EAR WITH HEARING AID;0 MOTORIZED WHEELCHAIR;
0 MANUAL WHEELCHAIR;0 MECHANICAL ARM;1 LEG;0 CHEESE WEDGE;0 CUPCAKE;0 SALT SHAKER;0 BEVERAGE BOX;
0 GARLIC;0 ONION;0 FALAFEL;0 WAFFLE;0 BUTTER;0 MATE DRINK;0 ICE CUBE;0 BUBBLE TEA;0 TROLL;
0 STANDING PERSON;0 KNEELING PERSON;0 DEAF PERSON;0 FACE WITH MONOCLE;0 ADULT;0 CHILD;
0 OLDER ADULT;0 BEARDED PERSON;0 PERSON WITH HEADSCARF;1 IN STEAMY ROOM;1 CLIMBING;
1 IN LOTUS POSITION;0 MAGE;0 FAIRY;0 VAMPIRE;0 MERPERSON;0 ELF;0 GENIE;0 ZOMBIE;0 BRAIN;
0 ORANGE HEART;0 BILLED CAP;0 SCARF;0 GLOVES;0 COAT;0 SOCKS;0 RED GIFT ENVELOPE;0 FIRECRACKER;
0 JIGSAW PUZZLE PIECE;0 TEST TUBE;0 PETRI DISH;0 DNA DOUBLE HELIX;0 COMPASS;0 ABACUS;
0 FIRE EXTINGUISHER;0 TOOLBOX;0 BRICK;0 MAGNET;0 LUGGAGE;0 LOTION BOTTLE;0 SPOOL OF THREAD;
0 BALL OF YARN;0 SAFETY PIN;0 TEDDY BEAR;0 BROOM;0 BASKET;0 ROLL OF PAPER;0 BAR OF SOAP;0 SPONGE;
0 RECEIPT;0 NAZAR AMULET;0 NEUTRAL CHESS KING;2 QUEEN;2 ROOK;2 BISHOP;2 KNIGHT;2 PAWN;
0 WHITE CHESS KNIGHT ROTATED FORTY-FIVE DEGREES;0 BLACK CHESS KNIGHT ROTATED FORTY-FIVE DEGREES;
0 NEUTRAL CHESS KNIGHT ROTATED FORTY-FIVE DEGREES;0 WHITE CHESS KING ROTATED NINETY DEGREES;
2 QUEEN ROTATED NINETY DEGREES;2 ROOK ROTATED NINETY DEGREES;2 BISHOP ROTATED NINETY DEGREES;
2 KNIGHT ROTATED NINETY DEGREES;2 PAWN ROTATED NINETY DEGREES;
0 BLACK CHESS KING ROTATED NINETY DEGREES;2 QUEEN ROTATED NINETY DEGREES;
2 ROOK ROTATED NINETY DEGREES;2 BISHOP ROTATED NINETY DEGREES;2 KNIGHT ROTATED NINETY DEGREES;
2 PAWN ROTATED NINETY DEGREES;0 NEUTRAL CHESS KING ROTATED NINETY DEGREES;
2 QUEEN ROTATED NINETY DEGREES;2 ROOK ROTATED NINETY DEGREES;2 BISHOP ROTATED NINETY DEGREES;
2 KNIGHT ROTATED NINETY DEGREES;2 PAWN ROTATED NINETY DEGREES;
0 WHITE CHESS KNIGHT ROTATED ONE HUNDRED THIRTY-FIVE DEGREES;
0 BLACK CHESS KNIGHT ROTATED ONE HUNDRED THIRTY-FIVE DEGREES;
0 NEUTRAL CHESS KNIGHT ROTATED ONE HUNDRED THIRTY-FIVE DEGREES;0 WHITE CHESS TURNED KING;3 QUEEN;
3 ROOK;3 BISHOP;3 KNIGHT;3 PAWN;0 BLACK CHESS TURNED KING;3 QUEEN;3 ROOK;3 BISHOP;3 KNIGHT;3 PAWN;
0 NEUTRAL CHESS TURNED KING;3 QUEEN;3 ROOK;3 BISHOP;3 KNIGHT;3 PAWN;
0 WHITE CHESS KNIGHT ROTATED TWO HUNDRED TWENTY-FIVE DEGREES;
0 BLACK CHESS KNIGHT ROTATED TWO HUNDRED TWENTY-FIVE DEGREES;
0 NEUTRAL CHESS KNIGHT ROTATED TWO HUNDRED TWENTY-FIVE DEGREES;
0 WHITE CHESS KING ROTATED TWO HUNDRED SEVENTY DEGREES;
2 QUEEN ROTATED TWO HUNDRED SEVENTY DEGREES;2 ROOK ROTATED TWO HUNDRED SEVENTY DEGREES;
2 BISHOP ROTATED TWO HUNDRED SEVENTY DEGREES;2 KNIGHT ROTATED TWO HUNDRED SEVENTY DEGREES;
2 PAWN ROTATED TWO HUNDRED SEVENTY DEGREES;0 BLACK CHESS KING ROTATED TWO HUNDRED SEVENTY DEGREES;
2 QUEEN ROTATED TWO HUNDRED SEVENTY DEGREES;2 ROOK ROTATED TWO HUNDRED SEVENTY DEGREES;
2 BISHOP ROTATED TWO HUNDRED SEVENTY DEGREES;2 KNIGHT ROTATED TWO HUNDRED SEVENTY DEGREES;
2 PAWN ROTATED TWO HUNDRED SEVENTY DEGREES;
0 NEUTRAL CHESS KING ROTATED TWO HUNDRED SEVENTY DEGREES;
2 QUEEN ROTATED TWO HUNDRED SEVENTY DEGREES;2 ROOK ROTATED TWO HUNDRED SEVENTY DEGREES;
2 BISHOP ROTATED TWO HUNDRED SEVENTY DEGREES;2 KNIGHT ROTATED TWO HUNDRED SEVENTY DEGREES;
2 PAWN ROTATED TWO HUNDRED SEVENTY DEGREES;
0 WHITE CHESS KNIGHT ROTATED THREE HUNDRED FIFTEEN DEGREES;
0 BLACK CHESS KNIGHT ROTATED THREE HUNDRED FIFTEEN DEGREES;
0 NEUTRAL CHESS KNIGHT ROTATED THREE HUNDRED FIFTEEN DEGREES;0 WHITE CHESS EQUIHOPPER;
0 BLACK CHESS EQUIHOPPER;0 NEUTRAL CHESS EQUIHOPPER;
0 WHITE CHESS EQUIHOPPER ROTATED NINETY DEGREES;0 BLACK CHESS EQUIHOPPER ROTATED NINETY DEGREES;
0 NEUTRAL CHESS EQUIHOPPER ROTATED NINETY DEGREES;0 WHITE CHESS KNIGHT-QUEEN;2 KNIGHT-ROOK;
2 KNIGHT-BISHOP;0 BLACK CHESS KNIGHT-QUEEN;2 KNIGHT-ROOK;2 KNIGHT-BISHOP;@1FA60;
0 XIANGQI RED GENERAL;2 MANDARIN;2 ELEPHANT;2 HORSE;2 CHARIOT;2 CANNON;2 SOLDIER;1 BLACK GENERAL;
2 MANDARIN;2 ELEPHANT;2 HORSE;2 CHARIOT;2 CANNON;2 SOLDIER;@1FA70;0 BALLET SHOES;
0 ONE-PIECE SWIMSUIT;0 BRIEFS;0 SHORTS;0 THONG SANDAL;@1FA78;0 DROP OF BLOOD;0 ADHESIVE BANDAGE;
0 STETHOSCOPE;0 X-RAY;0 CRUTCH;@1FA80;0 YO-YO;0 KITE;0 PARACHUTE;0 BOOMERANG;0 MAGIC WAND;
0 PINATA;0 NESTING DOLLS;@1FA90;0 RINGED PLANET;0 CHAIR;0 RAZOR;0 AXE;0 DIYA LAMP;0 BANJO;
0 MILITARY HELMET;0 ACCORDION;0 LONG DRUM;0 COIN;0 CARPENTRY SAW;0 SCREWDRIVER;0 LADDER;0 HOOK;
0 MIRROR;0 WINDOW;0 PLUNGER;0 SEWING NEEDLE;0 KNOT;0 BUCKET;0 MOUSE TRAP;0 TOOTHBRUSH;0 HEADSTONE;
0 PLACARD;0 ROCK;0 MIRROR BALL;0 IDENTIFICATION CARD;0 LOW BATTERY;0 HAMSA;@1FAB0;0 FLY;0 WORM;
0 BEETLE;0 COCKROACH;0 POTTED PLANT;0 WOOD;0 FEATHER;0 LOTUS;0 CORAL;0 EMPTY NEST;
0 NEST WITH EGGS;@1FAC0;0 ANATOMICAL HEART;0 LUNGS;0 PEOPLE HUGGING;0 PREGNANT MAN;1 PERSON;
0 PERSON WITH CROWN;@1FAD0;0 BLUEBERRIES;0 BELL PEPPER;0 OLIVE;0 FLATBREAD;0 TAMALE;0 FONDUE;
0 TEAPOT;0 POURING LIQUID;0 BEANS;0 JAR;@1FAE0;0 MELTING FACE;0 SALUTING FACE;
0 FACE WITH OPEN EYES AND HAND OVER MOUTH;2 PEEKING EYE;2 DIAGONAL MOUTH;0 DOTTED LINE FACE;
0 BITING LIP;0 BUBBLES;@1FAF0;0 HAND WITH INDEX FINGER AND THUMB CROSSED;0 RIGHTWARDS HAND;
0 LEFTWARDS HAND;0 PALM DOWN HAND;1 UP HAND;0 INDEX POINTING AT THE VIEWER;0 HEART HANDS;@1FB00;
0 BLOCK SEXTANT-1;1 SEXTANT-2;1 SEXTANT-12;1 SEXTANT-3;1 SEXTANT-13;1 SEXTANT-23;1 SEXTANT-123;
1 SEXTANT-4;1 SEXTANT-14;1 SEXTANT-24;1 SEXTANT-124;1 SEXTANT-34;1 SEXTANT-134;1 SEXTANT-234;
1 SEXTANT-1234;1 SEXTANT-5;1 SEXTANT-15;1 SEXTANT-25;1 SEXTANT-125;1 SEXTANT-35;1 SEXTANT-235;
1 SEXTANT-1235;1 SEXTANT-45;1 SEXTANT-145;1 SEXTANT-245;1 SEXTANT-1245;1 SEXTANT-345;
1 SEXTANT-1345;1 SEXTANT-2345;1 SEXTANT-12345;1 SEXTANT-6;1 SEXTANT-16;1 SEXTANT-26;1 SEXTANT-126;
1 SEXTANT-36;1 SEXTANT-136;1 SEXTANT-236;1 SEXTANT-1236;1 SEXTANT-46;1 SEXTANT-146;1 SEXTANT-1246;
1 SEXTANT-346;1 SEXTANT-1346;1 SEXTANT-2346;1 SEXTANT-12346;1 SEXTANT-56;1 SEXTANT-156;
1 SEXTANT-256;1 SEXTANT-1256;1 SEXTANT-356;1 SEXTANT-1356;1 SEXTANT-2356;1 SEXTANT-12356;
1 SEXTANT-456;1 SEXTANT-1456;1 SEXTANT-2456;1 SEXTANT-12456;1 SEXTANT-3456;1 SEXTANT-13456;
1 SEXTANT-23456;0 LOWER LEFT BLOCK DIAGONAL LOWER MIDDLE LEFT TO LOWER CENTRE;9 RIGHT;
4 UPPER MIDDLE LEFT TO LOWER CENTRE;9 RIGHT;5 LEFT TO LOWER CENTRE;
1 RIGHT BLOCK DIAGONAL UPPER MIDDLE LEFT TO UPPER CENTRE;9 RIGHT;
4 LOWER MIDDLE LEFT TO UPPER CENTRE;9 RIGHT;5 LEFT TO UPPER CENTRE;
5 MIDDLE LEFT TO UPPER MIDDLE RIGHT;5 CENTRE TO LOWER MIDDLE RIGHT;5 LEFT TO LOWER MIDDLE RIGHT;
5 CENTRE TO UPPER MIDDLE RIGHT;5 LEFT TO UPPER MIDDLE RIGHT;5 CENTRE TO UPPER RIGHT;
1 LEFT BLOCK DIAGONAL UPPER CENTRE TO UPPER MIDDLE RIGHT;5 LEFT TO UPPER MIDDLE RIGHT;
5 CENTRE TO LOWER MIDDLE RIGHT;5 LEFT TO LOWER MIDDLE RIGHT;5 CENTRE TO LOWER RIGHT;
5 MIDDLE LEFT TO LOWER MIDDLE RIGHT;
0 UPPER RIGHT BLOCK DIAGONAL LOWER MIDDLE LEFT TO LOWER CENTRE;9 RIGHT;
4 UPPER MIDDLE LEFT TO LOWER CENTRE;9 RIGHT;5 LEFT TO LOWER CENTRE;
1 LEFT BLOCK DIAGONAL UPPER MIDDLE LEFT TO UPPER CENTRE;9 RIGHT;
4 LOWER MIDDLE LEFT TO UPPER CENTRE;9 RIGHT;5 LEFT TO UPPER CENTRE;
5 MIDDLE LEFT TO UPPER MIDDLE RIGHT;5 CENTRE TO LOWER MIDDLE RIGHT;5 LEFT TO LOWER MIDDLE RIGHT;
5 CENTRE TO UPPER MIDDLE RIGHT;5 LEFT TO UPPER MIDDLE RIGHT;5 CENTRE TO UPPER RIGHT;
1 RIGHT BLOCK DIAGONAL UPPER CENTRE TO UPPER MIDDLE RIGHT;5 LEFT TO UPPER MIDDLE RIGHT;
5 CENTRE TO LOWER MIDDLE RIGHT;5 LEFT TO LOWER MIDDLE RIGHT;5 CENTRE TO LOWER RIGHT;
5 MIDDLE LEFT TO LOWER MIDDLE RIGHT;1 AND RIGHT AND LOWER TRIANGULAR THREE QUARTERS BLOCK;
0 LEFT AND LOWER AND RIGHT TRIANGULAR THREE QUARTERS BLOCK;
0 UPPER AND LEFT AND LOWER TRIANGULAR THREE QUARTERS BLOCK;
0 LEFT AND UPPER AND RIGHT TRIANGULAR THREE QUARTERS BLOCK;1 TRIANGULAR ONE QUARTER BLOCK;
0 UPPER TRIANGULAR ONE QUARTER BLOCK;0 RIGHT TRIANGULAR ONE QUARTER BLOCK;
0 LOWER TRIANGULAR ONE QUARTER BLOCK;0 VERTICAL ONE EIGHTH BLOCK-2;3 BLOCK-3;3 BLOCK-4;3 BLOCK-5;
3 BLOCK-6;3 BLOCK-7;0 HORIZONTAL ONE EIGHTH BLOCK-2;3 BLOCK-3;3 BLOCK-4;3 BLOCK-5;3 BLOCK-6;
3 BLOCK-7;0 LEFT AND LOWER ONE EIGHTH BLOCK;2 UPPER ONE EIGHTH BLOCK;
0 RIGHT AND UPPER ONE EIGHTH BLOCK;2 LOWER ONE EIGHTH BLOCK;0 UPPER AND LOWER ONE EIGHTH BLOCK;
0 HORIZONTAL ONE EIGHTH BLOCK-1358;0 UPPER ONE QUARTER BLOCK;1 THREE EIGHTHS BLOCK;
1 FIVE EIGHTHS BLOCK;1 THREE QUARTERS BLOCK;1 SEVEN EIGHTHS BLOCK;0 RIGHT ONE QUARTER BLOCK;
1 THREE EIGHTHS BLOCK;1 FIVE EIGHTHS BLOCK;1 THREE QUARTERS BLOCK;1 SEVEN EIGHTHS BLOCK;
0 LEFT HALF MEDIUM SHADE;0 RIGHT HALF MEDIUM SHADE;0 UPPER HALF MEDIUM SHADE;
0 LOWER HALF MEDIUM SHADE;0 INVERSE MEDIUM SHADE;
0 UPPER HALF BLOCK AND LOWER HALF INVERSE MEDIUM SHADE;
2 INVERSE MEDIUM SHADE AND LOWER HALF BLOCK;@1FB94;
0 LEFT HALF INVERSE MEDIUM SHADE AND RIGHT HALF BLOCK;0 CHECKER BOARD FILL;
0 INVERSE CHECKER BOARD FILL;0 HEAVY HORIZONTAL FILL;0 UPPER LEFT TO LOWER RIGHT FILL;
1 RIGHT TO LOWER LEFT FILL;1 AND LOWER TRIANGULAR HALF BLOCK;
0 LEFT AND RIGHT TRIANGULAR HALF BLOCK;0 UPPER LEFT TRIANGULAR MEDIUM SHADE;
1 RIGHT TRIANGULAR MEDIUM SHADE;0 LOWER RIGHT TRIANGULAR MEDIUM SHADE;
1 LEFT TRIANGULAR MEDIUM SHADE;0 BOX DRAWINGS LIGHT DIAGONAL UPPER CENTRE TO MIDDLE LEFT;8 RIGHT;
4 MIDDLE LEFT TO LOWER CENTRE;5 RIGHT TO LOWER CENTRE;
4 UPPER CENTRE TO MIDDLE LEFT TO LOWER CENTRE;8 RIGHT TO LOWER CENTRE;
4 MIDDLE LEFT TO LOWER CENTRE TO MIDDLE RIGHT;7 UPPER CENTRE TO MIDDLE RIGHT;
4 UPPER CENTRE TO MIDDLE LEFT AND MIDDLE RIGHT TO LOWER CENTRE;
8 RIGHT AND MIDDLE LEFT TO LOWER CENTRE;9 TO LOWER CENTRE TO MIDDLE LEFT;
8 LEFT TO LOWER CENTRE TO MIDDLE RIGHT;
4 MIDDLE LEFT TO UPPER CENTRE TO MIDDLE RIGHT TO LOWER CENTRE;
5 RIGHT TO UPPER CENTRE TO MIDDLE LEFT TO LOWER CENTRE;4 DIAMOND;
3 HORIZONTAL WITH VERTICAL STROKE;0 ARROWHEAD-SHAPED POINTER;0 INVERSE CHECK MARK;
0 LEFT HALF RUNNING MAN;0 RIGHT HALF RUNNING MAN;0 INVERSE DOWNWARDS ARROW WITH TIP LEFTWARDS;
0 LEFTWARDS ARROW AND UPPER AND LOWER ONE EIGHTH BLOCK;
0 RIGHTWARDS ARROW AND UPPER AND LOWER ONE EIGHTH BLOCK;
0 DOWNWARDS ARROW AND RIGHT ONE EIGHTH BLOCK;0 UPWARDS ARROW AND RIGHT ONE EIGHTH BLOCK;
0 LEFT HALF FOLDER;0 RIGHT HALF FOLDER;0 VOIDED GREEK CROSS;0 RIGHT OPEN SQUARED DOT;
0 NEGATIVE DIAGONAL CROSS;2 MIDDLE RIGHT TO LOWER CENTRE;2 DIAMOND;
0 WHITE HEAVY SALTIRE WITH ROUNDED CORNERS;0 LEFT THIRD WHITE RIGHT POINTING INDEX;
0 MIDDLE THIRD WHITE RIGHT POINTING INDEX;0 RIGHT THIRD WHITE RIGHT POINTING INDEX;
0 NEGATIVE SQUARED QUESTION MARK;0 STICK FIGURE;2 WITH ARMS RAISED;2 LEANING LEFT;3 RIGHT;
2 WITH DRESS;0 WHITE UP-POINTING CHEVRON;@1FBF0;0 SEGMENTED DIGIT ZERO;2 ONE;2 TWO;2 THREE;2 FOUR;
2 FIVE;2 SIX;2 SEVEN;2 EIGHT;2 NINE;@2F800;0 CJK COMPATIBILITY IDEOGRAPH-2F800;2 IDEOGRAPH-2F801;
2 IDEOGRAPH-2F802;2 IDEOGRAPH-2F803;2 IDEOGRAPH-2F804;2 IDEOGRAPH-2F805;2 IDEOGRAPH-2F806;
2 IDEOGRAPH-2F807;2 IDEOGRAPH-2F808;2 IDEOGRAPH-2F809;2 IDEOGRAPH-2F80A;2 IDEOGRAPH-2F80B;
2 IDEOGRAPH-2F80C;2 IDEOGRAPH-2F80D;2 IDEOGRAPH-2F80E;2 IDEOGRAPH-2F80F;2 IDEOGRAPH-2F810;
2 IDEOGRAPH-2F811;2 IDEOGRAPH-2F812;2 IDEOGRAPH-2F813;2 IDEOGRAPH-2F814;2 IDEOGRAPH-2F815;
2 IDEOGRAPH-2F816;2 IDEOGRAPH-2F817;2 IDEOGRAPH-2F818;2 IDEOGRAPH-2F819;2 IDEOGRAPH-2F81A;
2 IDEOGRAPH-2F81B;2 IDEOGRAPH-2F81C;2 IDEOGRAPH-2F81D;2 IDEOGRAPH-2F81E;2 IDEOGRAPH-2F81F;
2 IDEOGRAPH-2F820;2 IDEOGRAPH-2F821;2 IDEOGRAPH-2F822;2 IDEOGRAPH-2F823;2 IDEOGRAPH-2F824;
2 IDEOGRAPH-2F825;2 IDEOGRAPH-2F826;2 IDEOGRAPH-2F827;2 IDEOGRAPH-2F828;2 IDEOGRAPH-2F829;
2 IDEOGRAPH-2F82A;2 IDEOGRAPH-2F82B;2 IDEOGRAPH-2F82C;2 IDEOGRAPH-2F82D;2 IDEOGRAPH-2F82E;
2 IDEOGRAPH-2F82F;2 IDEOGRAPH-2F830;2 IDEOGRAPH-2F831;2 IDEOGRAPH-2F832;2 IDEOGRAPH-2F833;
2 IDEOGRAPH-2F834;2 IDEOGRAPH-2F835;2 IDEOGRAPH-2F836;2 IDEOGRAPH-2F837;2 IDEOGRAPH-2F838;
2 IDEOGRAPH-2F839;2 IDEOGRAPH-2F83A;2 IDEOGRAPH-2F83B;2 IDEOGRAPH-2F83C;2 IDEOGRAPH-2F83D;
2 IDEOGRAPH-2F83E;2 IDEOGRAPH-2F83F;2 IDEOGRAPH-2F840;2 IDEOGRAPH-2F841;2 IDEOGRAPH-2F842;
2 IDEOGRAPH-2F843;2 IDEOGRAPH-2F844;2 IDEOGRAPH-2F845;2 IDEOGRAPH-2F846;2 IDEOGRAPH-2F847;
2 IDEOGRAPH-2F848;2 IDEOGRAPH-2F849;2 IDEOGRAPH-2F84A;2 IDEOGRAPH-2F84B;2 IDEOGRAPH-2F84C;
2 IDEOGRAPH-2F84D;2 IDEOGRAPH-2F84E;2 IDEOGRAPH-2F84F;2 IDEOGRAPH-2F850;2 IDEOGRAPH-2F851;
2 IDEOGRAPH-2F852;2 IDEOGRAPH-2F853;2 IDEOGRAPH-2F854;2 IDEOGRAPH-2F855;2 IDEOGRAPH-2F856;
2 IDEOGRAPH-2F857;2 IDEOGRAPH-2F858;2 IDEOGRAPH-2F859;2 IDEOGRAPH-2F85A;2 IDEOGRAPH-2F85B;
2 IDEOGRAPH-2F85C;2 IDEOGRAPH-2F85D;2 IDEOGRAPH-2F85E;2 IDEOGRAPH-2F85F;2 IDEOGRAPH-2F860;
2 IDEOGRAPH-2F861;2 IDEOGRAPH-2F862;2 IDEOGRAPH-2F863;2 IDEOGRAPH-2F864;2 IDEOGRAPH-2F865;
2 IDEOGRAPH-2F866;2 IDEOGRAPH-2F867;2 IDEOGRAPH-2F868;2 IDEOGRAPH-2F869;2 IDEOGRAPH-2F86A;
2 IDEOGRAPH-2F86B;2 IDEOGRAPH-2F86C;2 IDEOGRAPH-2F86D;2 IDEOGRAPH-2F86E;2 IDEOGRAPH-2F86F;
2 IDEOGRAPH-2F870;2 IDEOGRAPH-2F871;2 IDEOGRAPH-2F872;2 IDEOGRAPH-2F873;2 IDEOGRAPH-2F874;
2 IDEOGRAPH-2F875;2 IDEOGRAPH-2F876;2 IDEOGRAPH-2F877;2 IDEOGRAPH-2F878;2 IDEOGRAPH-2F879;
2 IDEOGRAPH-2F87A;2 IDEOGRAPH-2F87B;2 IDEOGRAPH-2F87C;2 IDEOGRAPH-2F87D;2 IDEOGRAPH-2F87E;
2 IDEOGRAPH-2F87F;2 IDEOGRAPH-2F880;2 IDEOGRAPH-2F881;2 IDEOGRAPH-2F882;2 IDEOGRAPH-2F883;
2 IDEOGRAPH-2F884;2 IDEOGRAPH-2F885;2 IDEOGRAPH-2F886;2 IDEOGRAPH-2F887;2 IDEOGRAPH-2F888;
2 IDEOGRAPH-2F889;2 IDEOGRAPH-2F88A;2 IDEOGRAPH-2F88B;2 IDEOGRAPH-2F88C;2 IDEOGRAPH-2F88D;
2 IDEOGRAPH-2F88E;2 IDEOGRAPH-2F88F;2 IDEOGRAPH-2F890;2 IDEOGRAPH-2F891;2 IDEOGRAPH-2F892;
2 IDEOGRAPH-2F893;2 IDEOGRAPH-2F894;2 IDEOGRAPH-2F895;2 IDEOGRAPH-2F896;2 IDEOGRAPH-2F897;
2 IDEOGRAPH-2F898;2 IDEOGRAPH-2F899;2 IDEOGRAPH-2F89A;2 IDEOGRAPH-2F89B;2 IDEOGRAPH-2F89C;
2 IDEOGRAPH-2F89D;2 IDEOGRAPH-2F89E;2 IDEOGRAPH-2F89F;2 IDEOGRAPH-2F8A0;2 IDEOGRAPH-2F8A1;
2 IDEOGRAPH-2F8A2;2 IDEOGRAPH-2F8A3;2 IDEOGRAPH-2F8A4;2 IDEOGRAPH-2F8A5;2 IDEOGRAPH-2F8A6;
2 IDEOGRAPH-2F8A7;2 IDEOGRAPH-2F8A8;2 IDEOGRAPH-2F8A9;2 IDEOGRAPH-2F8AA;2 IDEOGRAPH-2F8AB;
2 IDEOGRAPH-2F8AC;2 IDEOGRAPH-2F8AD;2 IDEOGRAPH-2F8AE;2 IDEOGRAPH-2F8AF;2 IDEOGRAPH-2F8B0;
2 IDEOGRAPH-2F8B1;2 IDEOGRAPH-2F8B2;2 IDEOGRAPH-2F8B3;2 IDEOGRAPH-2F8B4;2 IDEOGRAPH-2F8B5;
2 IDEOGRAPH-2F8B6;2 IDEOGRAPH-2F8B7;2 IDEOGRAPH-2F8B8;2 IDEOGRAPH-2F8B9;2 IDEOGRAPH-2F8BA;
2 IDEOGRAPH-2F8BB;2 IDEOGRAPH-2F8BC;2 IDEOGRAPH-2F8BD;2 IDEOGRAPH-2F8BE;2 IDEOGRAPH-2F8BF;
2 IDEOGRAPH-2F8C0;2 IDEOGRAPH-2F8C1;2 IDEOGRAPH-2F8C2;2 IDEOGRAPH-2F8C3;2 IDEOGRAPH-2F8C4;
2 IDEOGRAPH-2F8C5;2 IDEOGRAPH-2F8C6;2 IDEOGRAPH-2F8C7;2 IDEOGRAPH-2F8C8;2 IDEOGRAPH-2F8C9;
2 IDEOGRAPH-2F8CA;2 IDEOGRAPH-2F8CB;2 IDEOGRAPH-2F8CC;2 IDEOGRAPH-2F8CD;2 IDEOGRAPH-2F8CE;
2 IDEOGRAPH-2F8CF;2 IDEOGRAPH-2F8D0;2 IDEOGRAPH-2F8D1;2 IDEOGRAPH-2F8D2;2 IDEOGRAPH-2F8D3;
2 IDEOGRAPH-2F8D4;2 IDEOGRAPH-2F8D5;2 IDEOGRAPH-2F8D6;2 IDEOGRAPH-2F8D7;2 IDEOGRAPH-2F8D8;
2 IDEOGRAPH-2F8D9;2 IDEOGRAPH-2F8DA;2 IDEOGRAPH-2F8DB;2 IDEOGRAPH-2F8DC;2 IDEOGRAPH-2F8DD;
2 IDEOGRAPH-2F8DE;2 IDEOGRAPH-2F8DF;2 IDEOGRAPH-2F8E0;2 IDEOGRAPH-2F8E1;2 IDEOGRAPH-2F8E2;
2 IDEOGRAPH-2F8E3;2 IDEOGRAPH-2F8E4;2 IDEOGRAPH-2F8E5;2 IDEOGRAPH-2F8E6;2 IDEOGRAPH-2F8E7;
2 IDEOGRAPH-2F8E8;2 IDEOGRAPH-2F8E9;2 IDEOGRAPH-2F8EA;2 IDEOGRAPH-2F8EB;2 IDEOGRAPH-2F8EC;
2 IDEOGRAPH-2F8ED;2 IDEOGRAPH-2F8EE;2 IDEOGRAPH-2F8EF;2 IDEOGRAPH-2F8F0;2 IDEOGRAPH-2F8F1;
2 IDEOGRAPH-2F8F2;2 IDEOGRAPH-2F8F3;2 IDEOGRAPH-2F8F4;2 IDEOGRAPH-2F8F5;2 IDEOGRAPH-2F8F6;
2 IDEOGRAPH-2F8F7;2 IDEOGRAPH-2F8F8;2 IDEOGRAPH-2F8F9;2 IDEOGRAPH-2F8FA;2 IDEOGRAPH-2F8FB;
2 IDEOGRAPH-2F8FC;2 IDEOGRAPH-2F8FD;2 IDEOGRAPH-2F8FE;2 IDEOGRAPH-2F8FF;2 IDEOGRAPH-2F900;
2 IDEOGRAPH-2F901;2 IDEOGRAPH-2F902;2 IDEOGRAPH-2F903;2 IDEOGRAPH-2F904;2 IDEOGRAPH-2F905;
2 IDEOGRAPH-2F906;2 IDEOGRAPH-2F907;2 IDEOGRAPH-2F908;2 IDEOGRAPH-2F909;2 IDEOGRAPH-2F90A;
2 IDEOGRAPH-2F90B;2 IDEOGRAPH-2F90C;2 IDEOGRAPH-2F90D;2 IDEOGRAPH-2F90E;2 IDEOGRAPH-2F90F;
2 IDEOGRAPH-2F910;2 IDEOGRAPH-2F911;2 IDEOGRAPH-2F912;2 IDEOGRAPH-2F913;2 IDEOGRAPH-2F914;
2 IDEOGRAPH-2F915;2 IDEOGRAPH-2F916;2 IDEOGRAPH-2F917;2 IDEOGRAPH-2F918;2 IDEOGRAPH-2F919;
2 IDEOGRAPH-2F91A;2 IDEOGRAPH-2F91B;2 IDEOGRAPH-2F91C;2 IDEOGRAPH-2F91D;2 IDEOGRAPH-2F91E;
2 IDEOGRAPH-2F91F;2 IDEOGRAPH-2F920;2 IDEOGRAPH-2F921;2 IDEOGRAPH-2F922;2 IDEOGRAPH-2F923;
2 IDEOGRAPH-2F924;2 IDEOGRAPH-2F925;2 IDEOGRAPH-2F926;2 IDEOGRAPH-2F927;2 IDEOGRAPH-2F928;
2 IDEOGRAPH-2F929;2 IDEOGRAPH-2F92A;2 IDEOGRAPH-2F92B;2 IDEOGRAPH-2F92C;2 IDEOGRAPH-2F92D;
2 IDEOGRAPH-2F92E;2 IDEOGRAPH-2F92F;2 IDEOGRAPH-2F930;2 IDEOGRAPH-2F931;2 IDEOGRAPH-2F932;
2 IDEOGRAPH-2F933;2 IDEOGRAPH-2F934;2 IDEOGRAPH-2F935;2 IDEOGRAPH-2F936;2 IDEOGRAPH-2F937;
2 IDEOGRAPH-2F938;2 IDEOGRAPH-2F939;2 IDEOGRAPH-2F93A;2 IDEOGRAPH-2F93B;2 IDEOGRAPH-2F93C;
2 IDEOGRAPH-2F93D;2 IDEOGRAPH-2F93E;2 IDEOGRAPH-2F93F;2 IDEOGRAPH-2F940;2 IDEOGRAPH-2F941;
2 IDEOGRAPH-2F942;2 IDEOGRAPH-2F943;2 IDEOGRAPH-2F944;2 IDEOGRAPH-2F945;2 IDEOGRAPH-2F946;
2 IDEOGRAPH-2F947;2 IDEOGRAPH-2F948;2 IDEOGRAPH-2F949;2 IDEOGRAPH-2F94A;2 IDEOGRAPH-2F94B;
2 IDEOGRAPH-2F94C;2 IDEOGRAPH-2F94D;2 IDEOGRAPH-2F94E;2 IDEOGRAPH-2F94F;2 IDEOGRAPH-2F950;
2 IDEOGRAPH-2F951;2 IDEOGRAPH-2F952;2 IDEOGRAPH-2F953;2 IDEOGRAPH-2F954;2 IDEOGRAPH-2F955;
2 IDEOGRAPH-2F956;2 IDEOGRAPH-2F957;2 IDEOGRAPH-2F958;2 IDEOGRAPH-2F959;2 IDEOGRAPH-2F95A;
2 IDEOGRAPH-2F95B;2 IDEOGRAPH-2F95C;2 IDEOGRAPH-2F95D;2 IDEOGRAPH-2F95E;2 IDEOGRAPH-2F95F;
2 IDEOGRAPH-2F960;2 IDEOGRAPH-2F961;2 IDEOGRAPH-2F962;2 IDEOGRAPH-2F963;2 IDEOGRAPH-2F964;
2 IDEOGRAPH-2F965;2 IDEOGRAPH-2F966;2 IDEOGRAPH-2F967;2 IDEOGRAPH-2F968;2 IDEOGRAPH-2F969;
2 IDEOGRAPH-2F96A;2 IDEOGRAPH-2F96B;2 IDEOGRAPH-2F96C;2 IDEOGRAPH-2F96D;2 IDEOGRAPH-2F96E;
2 IDEOGRAPH-2F96F;2 IDEOGRAPH-2F970;2 IDEOGRAPH-2F971;2 IDEOGRAPH-2F972;2 IDEOGRAPH-2F973;
2 IDEOGRAPH-2F974;2 IDEOGRAPH-2F975;2 IDEOGRAPH-2F976;2 IDEOGRAPH-2F977;2 IDEOGRAPH-2F978;
2 IDEOGRAPH-2F979;2 IDEOGRAPH-2F97A;2 IDEOGRAPH-2F97B;2 IDEOGRAPH-2F97C;2 IDEOGRAPH-2F97D;
2 IDEOGRAPH-2F97E;2 IDEOGRAPH-2F97F;2 IDEOGRAPH-2F980;2 IDEOGRAPH-2F981;2 IDEOGRAPH-2F982;
2 IDEOGRAPH-2F983;2 IDEOGRAPH-2F984;2 IDEOGRAPH-2F985;2 IDEOGRAPH-2F986;2 IDEOGRAPH-2F987;
2 IDEOGRAPH-2F988;2 IDEOGRAPH-2F989;2 IDEOGRAPH-2F98A;2 IDEOGRAPH-2F98B;2 IDEOGRAPH-2F98C;
2 IDEOGRAPH-2F98D;2 IDEOGRAPH-2F98E;2 IDEOGRAPH-2F98F;2 IDEOGRAPH-2F990;2 IDEOGRAPH-2F991;
2 IDEOGRAPH-2F992;2 IDEOGRAPH-2F993;2 IDEOGRAPH-2F994;2 IDEOGRAPH-2F995;2 IDEOGRAPH-2F996;
2 IDEOGRAPH-2F997;2 IDEOGRAPH-2F998;2 IDEOGRAPH-2F999;2 IDEOGRAPH-2F99A;2 IDEOGRAPH-2F99B;
2 IDEOGRAPH-2F99C;2 IDEOGRAPH-2F99D;2 IDEOGRAPH-2F99E;2 IDEOGRAPH-2F99F;2 IDEOGRAPH-2F9A0;
2 IDEOGRAPH-2F9A1;2 IDEOGRAPH-2F9A2;2 IDEOGRAPH-2F9A3;2 IDEOGRAPH-2F9A4;2 IDEOGRAPH-2F9A5;
2 IDEOGRAPH-2F9A6;2 IDEOGRAPH-2F9A7;2 IDEOGRAPH-2F9A8;2 IDEOGRAPH-2F9A9;2 IDEOGRAPH-2F9AA;
2 IDEOGRAPH-2F9AB;2 IDEOGRAPH-2F9AC;2 IDEOGRAPH-2F9AD;2 IDEOGRAPH-2F9AE;2 IDEOGRAPH-2F9AF;
2 IDEOGRAPH-2F9B0;2 IDEOGRAPH-2F9B1;2 IDEOGRAPH-2F9B2;2 IDEOGRAPH-2F9B3;2 IDEOGRAPH-2F9B4;
2 IDEOGRAPH-2F9B5;2 IDEOGRAPH-2F9B6;2 IDEOGRAPH-2F9B7;2 IDEOGRAPH-2F9B8;2 IDEOGRAPH-2F9B9;
2 IDEOGRAPH-2F9BA;2 IDEOGRAPH-2F9BB;2 IDEOGRAPH-2F9BC;2 IDEOGRAPH-2F9BD;2 IDEOGRAPH-2F9BE;
2 IDEOGRAPH-2F9BF;2 IDEOGRAPH-2F9C0;2 IDEOGRAPH-2F9C1;2 IDEOGRAPH-2F9C2;2 IDEOGRAPH-2F9C3;
2 IDEOGRAPH-2F9C4;2 IDEOGRAPH-2F9C5;2 IDEOGRAPH-2F9C6;2 IDEOGRAPH-2F9C7;2 IDEOGRAPH-2F9C8;
2 IDEOGRAPH-2F9C9;2 IDEOGRAPH-2F9CA;2 IDEOGRAPH-2F9CB;2 IDEOGRAPH-2F9CC;2 IDEOGRAPH-2F9CD;
2 IDEOGRAPH-2F9CE;2 IDEOGRAPH-2F9CF;2 IDEOGRAPH-2F9D0;2 IDEOGRAPH-2F9D1;2 IDEOGRAPH-2F9D2;
2 IDEOGRAPH-2F9D3;2 IDEOGRAPH-2F9D4;2 IDEOGRAPH-2F9D5;2 IDEOGRAPH-2F9D6;2 IDEOGRAPH-2F9D7;
2 IDEOGRAPH-2F9D8;2 IDEOGRAPH-2F9D9;2 IDEOGRAPH-2F9DA;2 IDEOGRAPH-2F9DB;2 IDEOGRAPH-2F9DC;
2 IDEOGRAPH-2F9DD;2 IDEOGRAPH-2F9DE;2 IDEOGRAPH-2F9DF;2 IDEOGRAPH-2F9E0;2 IDEOGRAPH-2F9E1;
2 IDEOGRAPH-2F9E2;2 IDEOGRAPH-2F9E3;2 IDEOGRAPH-2F9E4;2 IDEOGRAPH-2F9E5;2 IDEOGRAPH-2F9E6;
2 IDEOGRAPH-2F9E7;2 IDEOGRAPH-2F9E8;2 IDEOGRAPH-2F9E9;2 IDEOGRAPH-2F9EA;2 IDEOGRAPH-2F9EB;
2 IDEOGRAPH-2F9EC;2 IDEOGRAPH-2F9ED;2 IDEOGRAPH-2F9EE;2 IDEOGRAPH-2F9EF;2 IDEOGRAPH-2F9F0;
2 IDEOGRAPH-2F9F1;2 IDEOGRAPH-2F9F2;2 IDEOGRAPH-2F9F3;2 IDEOGRAPH-2F9F4;2 IDEOGRAPH-2F9F5;
2 IDEOGRAPH-2F9F6;2 IDEOGRAPH-2F9F7;2 IDEOGRAPH-2F9F8;2 IDEOGRAPH-2F9F9;2 IDEOGRAPH-2F9FA;
2 IDEOGRAPH-2F9FB;2 IDEOGRAPH-2F9FC;2 IDEOGRAPH-2F9FD;2 IDEOGRAPH-2F9FE;2 IDEOGRAPH-2F9FF;
2 IDEOGRAPH-2FA00;2 IDEOGRAPH-2FA01;2 IDEOGRAPH-2FA02;2 IDEOGRAPH-2FA03;2 IDEOGRAPH-2FA04;
2 IDEOGRAPH-2FA05;2 IDEOGRAPH-2FA06;2 IDEOGRAPH-2FA07;2 IDEOGRAPH-2FA08;2 IDEOGRAPH-2FA09;
2 IDEOGRAPH-2FA0A;2 IDEOGRAPH-2FA0B;2 IDEOGRAPH-2FA0C;2 IDEOGRAPH-2FA0D;2 IDEOGRAPH-2FA0E;
2 IDEOGRAPH-2FA0F;2 IDEOGRAPH-2FA10;2 IDEOGRAPH-2FA11;2 IDEOGRAPH-2FA12;2 IDEOGRAPH-2FA13;
2 IDEOGRAPH-2FA14;2 IDEOGRAPH-2FA15;2 IDEOGRAPH-2FA16;2 IDEOGRAPH-2FA17;2 IDEOGRAPH-2FA18;
2 IDEOGRAPH-2FA19;2 IDEOGRAPH-2FA1A;2 IDEOGRAPH-2FA1B;2 IDEOGRAPH-2FA1C;2 IDEOGRAPH-2FA1D;@E0001;
0 LANGUAGE TAG;@E0020;0 TAG SPACE;1 EXCLAMATION MARK;1 QUOTATION MARK;1 NUMBER SIGN;1 DOLLAR SIGN;
1 PERCENT SIGN;1 AMPERSAND;1 APOSTROPHE;1 LEFT PARENTHESIS;1 RIGHT PARENTHESIS;1 ASTERISK;
1 PLUS SIGN;1 COMMA;1 HYPHEN-MINUS;1 FULL STOP;1 SOLIDUS;1 DIGIT ZERO;2 ONE;2 TWO;2 THREE;2 FOUR;
2 FIVE;2 SIX;2 SEVEN;2 EIGHT;2 NINE;1 COLON;1 SEMICOLON;1 LESS-THAN SIGN;1 EQUALS SIGN;
1 GREATER-THAN SIGN;1 QUESTION MARK;1 COMMERCIAL AT;1 LATIN CAPITAL LETTER A;4 B;4 C;4 D;4 E;4 F;
4 G;4 H;4 I;4 J;4 K;4 L;4 M;4 N;4 O;4 P;4 Q;4 R;4 S;4 T;4 U;4 V;4 W;4 X;4 Y;4 Z;
1 LEFT SQUARE BRACKET;1 REVERSE SOLIDUS;1 RIGHT SQUARE BRACKET;1 CIRCUMFLEX ACCENT;1 LOW LINE;
1 GRAVE ACCENT;1 LATIN SMALL LETTER A;4 B;4 C;4 D;4 E;4 F;4 G;4 H;4 I;4 J;4 K;4 L;4 M;4 N;4 O;4 P;
4 Q;4 R;4 S;4 T;4 U;4 V;4 W;4 X;4 Y;4 Z;1 LEFT CURLY BRACKET;1 VERTICAL LINE;
1 RIGHT CURLY BRACKET;1 TILDE;0 CANCEL TAG;@E0100;0 VARIATION SELECTOR-17;1 SELECTOR-18;
1 SELECTOR-19;1 SELECTOR-20;1 SELECTOR-21;1 SELECTOR-22;1 SELECTOR-23;1 SELECTOR-24;1 SELECTOR-25;
1 SELECTOR-26;1 SELECTOR-27;1 SELECTOR-28;1 SELECTOR-29;1 SELECTOR-30;1 SELECTOR-31;1 SELECTOR-32;
1 SELECTOR-33;1 SELECTOR-34;1 SELECTOR-35;1 SELECTOR-36;1 SELECTOR-37;1 SELECTOR-38;1 SELECTOR-39;
1 SELECTOR-40;1 SELECTOR-41;1 SELECTOR-42;1 SELECTOR-43;1 SELECTOR-44;1 SELECTOR-45;1 SELECTOR-46;
1 SELECTOR-47;1 SELECTOR-48;1 SELECTOR-49;1 SELECTOR-50;1 SELECTOR-51;1 SELECTOR-52;1 SELECTOR-53;
1 SELECTOR-54;1 SELECTOR-55;1 SELECTOR-56;1 SELECTOR-57;1 SELECTOR-58;1 SELECTOR-59;1 SELECTOR-60;
1 SELECTOR-61;1 SELECTOR-62;1 SELECTOR-63;1 SELECTOR-64;1 SELECTOR-65;1 SELECTOR-66;1 SELECTOR-67;
1 SELECTOR-68;1 SELECTOR-69;1 SELECTOR-70;1 SELECTOR-71;1 SELECTOR-72;1 SELECTOR-73;1 SELECTOR-74;
1 SELECTOR-75;1 SELECTOR-76;1 SELECTOR-77;1 SELECTOR-78;1 SELECTOR-79;1 SELECTOR-80;1 SELECTOR-81;
1 SELECTOR-82;1 SELECTOR-83;1 SELECTOR-84;1 SELECTOR-85;1 SELECTOR-86;1 SELECTOR-87;1 SELECTOR-88;
1 SELECTOR-89;1 SELECTOR-90;1 SELECTOR-91;1 SELECTOR-92;1 SELECTOR-93;1 SELECTOR-94;1 SELECTOR-95;
1 SELECTOR-96;1 SELECTOR-97;1 SELECTOR-98;1 SELECTOR-99;1 SELECTOR-100;1 SELECTOR-101;
1 SELECTOR-102;1 SELECTOR-103;1 SELECTOR-104;1 SELECTOR-105;1 SELECTOR-106;1 SELECTOR-107;
1 SELECTOR-108;1 SELECTOR-109;1 SELECTOR-110;1 SELECTOR-111;1 SELECTOR-112;1 SELECTOR-113;
1 SELECTOR-114;1 SELECTOR-115;1 SELECTOR-116;1 SELECTOR-117;1 SELECTOR-118;1 SELECTOR-119;
1 SELECTOR-120;1 SELECTOR-121;1 SELECTOR-122;1 SELECTOR-123;1 SELECTOR-124;1 SELECTOR-125;
1 SELECTOR-126;1 SELECTOR-127;1 SELECTOR-128;1 SELECTOR-129;1 SELECTOR-130;1 SELECTOR-131;
1 SELECTOR-132;1 SELECTOR-133;1 SELECTOR-134;1 SELECTOR-135;1 SELECTOR-136;1 SELECTOR-137;
1 SELECTOR-138;1 SELECTOR-139;1 SELECTOR-140;1 SELECTOR-141;1 SELECTOR-142;1 SELECTOR-143;
1 SELECTOR-144;1 SELECTOR-145;1 SELECTOR-146;1 SELECTOR-147;1 SELECTOR-148;1 SELECTOR-149;
1 SELECTOR-150;1 SELECTOR-151;1 SELECTOR-152;1 SELECTOR-153;1 SELECTOR-154;1 SELECTOR-155;
1 SELECTOR-156;1 SELECTOR-157;1 SELECTOR-158;1 SELECTOR-159;1 SELECTOR-160;1 SELECTOR-161;
1 SELECTOR-162;1 SELECTOR-163;1 SELECTOR-164;1 SELECTOR-165;1 SELECTOR-166;1 SELECTOR-167;
1 SELECTOR-168;1 SELECTOR-169;1 SELECTOR-170;1 SELECTOR-171;1 SELECTOR-172;1 SELECTOR-173;
1 SELECTOR-174;1 SELECTOR-175;1 SELECTOR-176;1 SELECTOR-177;1 SELECTOR-178;1 SELECTOR-179;
1 SELECTOR-180;1 SELECTOR-181;1 SELECTOR-182;1 SELECTOR-183;1 SELECTOR-184;1 SELECTOR-185;
1 SELECTOR-186;1 SELECTOR-187;1 SELECTOR-188;1 SELECTOR-189;1 SELECTOR-190;1 SELECTOR-191;
1 SELECTOR-192;1 SELECTOR-193;1 SELECTOR-194;1 SELECTOR-195;1 SELECTOR-196;1 SELECTOR-197;
1 SELECTOR-198;1 SELECTOR-199;1 SELECTOR-200;1 SELECTOR-201;1 SELECTOR-202;1 SELECTOR-203;
1 SELECTOR-204;1 SELECTOR-205;1 SELECTOR-206;1 SELECTOR-207;1 SELECTOR-208;1 SELECTOR-209;
1 SELECTOR-210;1 SELECTOR-211;1 SELECTOR-212;1 SELECTOR-213;1 SELECTOR-214;1 SELECTOR-215;
1 SELECTOR-216;1 SELECTOR-217;1 SELECTOR-218;1 SELECTOR-219;1 SELECTOR-220;1 SELECTOR-221;
1 SELECTOR-222;1 SELECTOR-223;1 SELECTOR-224;1 SELECTOR-225;1 SELECTOR-226;1 SELECTOR-227;
1 SELECTOR-228;1 SELECTOR-229;1 SELECTOR-230;1 SELECTOR-231;1 SELECTOR-232;1 SELECTOR-233;
1 SELECTOR-234;1 SELECTOR-235;1 SELECTOR-236;1 SELECTOR-237;1 SELECTOR-238;1 SELECTOR-239;
1 SELECTOR-240;1 SELECTOR-241;1 SELECTOR-242;1 SELECTOR-243;1 SELECTOR-244;1 SELECTOR-245;
1 SELECTOR-246;1 SELECTOR-247;1 SELECTOR-248;1 SELECTOR-249;1 SELECTOR-250;1 SELECTOR-251;
1 SELECTOR-252;1 SELECTOR-253;1 SELECTOR-254;1 SELECTOR-255;1 SELECTOR-256;"

end MethodMacros.Text.CharacterName
