import Triage.Text.CharacterName.Row

/-!
# Names of letters of ancient scripts

The scripts between U+10000 and U+1CFFF: linear scripts, cuneiform, hieroglyphs, Tangut components and others.
-/

namespace Triage.Text

/-- The names from U+10000 on. -/
def ancientNames : List NameRow := [
  ⟨0x10000, "LINEAR B SYLLABLE B0", ["08 A|38 E|28 I|61 O|10 U|01 DA|45 DE|07 DI|14 DO|51 DU|57 JA|46 JE||36 JO",
    "65 JU|77 KA|44 KE|67 KI|70 KO|81 KU|80 MA|13 ME|73 MI|15 MO|23 MU|06 NA|24 NE|30 NI|52 NO|55 NU|03 PA|72 PE",
    "39 PI|11 PO|50 PU|16 QA|78 QE|21 QI|32 QO||60 RA|27 RE|53 RI|02 RO|26 RU|31 SA|09 SE|41 SI|12 SO|58 SU|59 TA",
    "04 TE|37 TI|05 TO|69 TU|54 WA|75 WE|40 WI|42 WO||17 ZA|74 ZE||20 ZO|25 A2|43 A3|85 AU|71 DWE|90 DWO|48 NWA",
    "29 PU2|62 PTE|76 RA2|33 RA3|68 RO2|66 TA2|87 TWE|91 TWO"]⟩,
  ⟨0x10050, "LINEAR B SYMBOL B0", ["18|19|22|34|47|49|56|63|64|79|82|83|86|89"]⟩,
  ⟨0x10080, "LINEAR B IDEOGRAM B1", ["00 MAN|02 WOMAN|04 DEER|05 EQUID|05F MARE|05M STALLION|06F EWE|06M RAM",
    "07F SHE-GOAT|07M HE-GOAT|08F SOW|08M BOAR|09F COW|09M BULL|20 WHEAT|21 BARLEY|22 OLIVE|23 SPICE|25 CYPERUS"]⟩,
  ⟨0x10093, "LINEAR B ", ["MONOGRAM B127 KAPO|MONOGRAM B128 KANAKO|IDEOGRAM B130 OIL|IDEOGRAM B131 WINE",
    "IDEOGRAM B132|MONOGRAM B133 AREPA|MONOGRAM B135 MERI"]⟩,
  ⟨0x1009a, "LINEAR B IDEOGRAM B1", ["40 BRONZE|41 GOLD|42|45 WOOL|46|50|51 HORN|52|53|54"]⟩,
  ⟨0x100a4, "", ["LINEAR B MONOGRAM B156 TURO2"]⟩,
  ⟨0x100a5, "LINEAR B IDEOGRAM B", ["157|158|159 CLOTH|160|161|162 GARMENT|163 ARMOUR|164|165|166|167|168|169|170",
    "171|172|173 MONTH|174|176 TREE|177|178|179|180|181|182|183|184|185|189|190|191 HELMET|220 FOOTSTOOL",
    "225 BATHTUB|230 SPEAR|231 ARROW|232|233 SWORD|234|236|240 WHEELED CHARIOT|241 CHARIOT|242 CHARIOT FRAME",
    "243 WHEEL|245|246"]⟩,
  ⟨0x100d2, "", ["LINEAR B MONOGRAM B247 DIPTE"]⟩,
  ⟨0x100d3, "LINEAR B IDEOGRAM B2", ["48|49|51|52|53|54 DART|55|56|57|58|59"]⟩,
  ⟨0x100de, "LINEAR B IDEOGRAM VESSEL B", ["155|200|201|202|203|204|205|206|207|208|209|210|211|212|213|214|215",
    "216|217|218|219|221|222|226|227|228|229|250|305"]⟩,
  ⟨0x10100, "AEGEAN ", ["WORD SEPARATOR LINE|WORD SEPARATOR DOT|CHECK MARK"]⟩,
  ⟨0x10107, "AEGEAN NUMBER ", ["ONE|TWO|THREE|FOUR|FIVE|SIX|SEVEN|EIGHT|NINE|TEN|TWENTY|THIRTY|FORTY|FIFTY|SIXTY",
    "SEVENTY|EIGHTY|NINETY|ONE HUNDRED|TWO HUNDRED|THREE HUNDRED|FOUR HUNDRED|FIVE HUNDRED|SIX HUNDRED",
    "SEVEN HUNDRED|EIGHT HUNDRED|NINE HUNDRED|ONE THOUSAND|TWO THOUSAND|THREE THOUSAND|FOUR THOUSAND|FIVE THOUSAND",
    "SIX THOUSAND|SEVEN THOUSAND|EIGHT THOUSAND|NINE THOUSAND|TEN THOUSAND|TWENTY THOUSAND|THIRTY THOUSAND",
    "FORTY THOUSAND|FIFTY THOUSAND|SIXTY THOUSAND|SEVENTY THOUSAND|EIGHTY THOUSAND|NINETY THOUSAND"]⟩,
  ⟨0x10137, "AEGEAN ", ["WEIGHT BASE UNIT|WEIGHT FIRST SUBUNIT|WEIGHT SECOND SUBUNIT|WEIGHT THIRD SUBUNIT",
    "WEIGHT FOURTH SUBUNIT|DRY MEASURE FIRST SUBUNIT|LIQUID MEASURE FIRST SUBUNIT|MEASURE SECOND SUBUNIT",
    "MEASURE THIRD SUBUNIT"]⟩,
  ⟨0x10140, "GREEK ACROPHONIC ATTIC ", ["ONE QUARTER|ONE HALF|ONE DRACHMA|FIVE|FIFTY|FIVE HUNDRED|FIVE THOUSAND",
    "FIFTY THOUSAND|FIVE TALENTS|TEN TALENTS|FIFTY TALENTS|ONE HUNDRED TALENTS|FIVE HUNDRED TALENTS",
    "ONE THOUSAND TALENTS|FIVE THOUSAND TALENTS|FIVE STATERS|TEN STATERS|FIFTY STATERS|ONE HUNDRED STATERS",
    "FIVE HUNDRED STATERS|ONE THOUSAND STATERS|TEN THOUSAND STATERS|FIFTY THOUSAND STATERS|TEN MNAS"]⟩,
  ⟨0x10158, "GREEK ACROPHONIC ", ["HERAEUM ONE PLETHRON|THESPIAN ONE|HERMIONIAN ONE|EPIDAUREAN TWO|THESPIAN TWO",
    "CYRENAIC TWO DRACHMAS|EPIDAUREAN TWO DRACHMAS|TROEZENIAN FIVE|TROEZENIAN TEN|TROEZENIAN TEN ALTERNATE FORM",
    "HERMIONIAN TEN|MESSENIAN TEN|THESPIAN TEN|THESPIAN THIRTY|TROEZENIAN FIFTY|TROEZENIAN FIFTY ALTERNATE FORM",
    "HERMIONIAN FIFTY|THESPIAN FIFTY|THESPIAN ONE HUNDRED|THESPIAN THREE HUNDRED|EPIDAUREAN FIVE HUNDRED",
    "TROEZENIAN FIVE HUNDRED|THESPIAN FIVE HUNDRED|CARYSTIAN FIVE HUNDRED|NAXIAN FIVE HUNDRED",
    "THESPIAN ONE THOUSAND|THESPIAN FIVE THOUSAND|DELPHIC FIVE MNAS|STRATIAN FIFTY MNAS"]⟩,
  ⟨0x10175, "GREEK ", ["ONE HALF SIGN|ONE HALF SIGN ALTERNATE FORM|TWO THIRDS SIGN|THREE QUARTERS SIGN|YEAR SIGN",
    "TALENT SIGN|DRACHMA SIGN|OBOL SIGN|TWO OBOLS SIGN|THREE OBOLS SIGN|FOUR OBOLS SIGN|FIVE OBOLS SIGN",
    "METRETES SIGN|KYATHOS BASE SIGN|LITRA SIGN|OUNKIA SIGN|XESTES SIGN|ARTABE SIGN|AROURA SIGN|GRAMMA SIGN",
    "TRYBLION BASE SIGN|ZERO SIGN|ONE QUARTER SIGN|SINUSOID SIGN|INDICTION SIGN"]⟩,
  ⟨0x1018e, "", ["NOMISMA SIGN||ROMAN SEXTANS SIGN|ROMAN UNCIA SIGN|ROMAN SEMUNCIA SIGN|ROMAN SEXTULA SIGN",
    "ROMAN DIMIDIA SEXTULA SIGN|ROMAN SILIQUA SIGN|ROMAN DENARIUS SIGN|ROMAN QUINARIUS SIGN|ROMAN SESTERTIUS SIGN",
    "ROMAN DUPONDIUS SIGN|ROMAN AS SIGN|ROMAN CENTURIAL SIGN|ASCIA SYMBOL||||GREEK SYMBOL TAU RHO"]⟩,
  ⟨0x101d0, "PHAISTOS DISC SIGN ", ["PEDESTRIAN|PLUMED HEAD|TATTOOED HEAD|CAPTIVE|CHILD|WOMAN|HELMET|GAUNTLET",
    "TIARA|ARROW|BOW|SHIELD|CLUB|MANACLES|MATTOCK|SAW|LID|BOOMERANG|CARPENTRY PLANE|DOLIUM|COMB|SLING|COLUMN",
    "BEEHIVE|SHIP|HORN|HIDE|BULLS LEG|CAT|RAM|EAGLE|DOVE|TUNNY|BEE|PLANE TREE|VINE|PAPYRUS|ROSETTE|LILY|OX BACK",
    "FLUTE|GRATER|STRAINER|SMALL AXE|WAVY BAND|COMBINING OBLIQUE STROKE"]⟩,
  ⟨0x10280, "LYCIAN LETTER ", ["A|E|B|BH|G|D|I|W|Z|TH|J|K|Q|L|M|N|MM|NN|U|P|KK|R|S|T|TT|AN|EN|H|X"]⟩,
  ⟨0x102a0, "CARIAN LETTER ", ["A|P2|D|L|UUU|R|LD|A2|Q|B|M|O|D2|T|SH|SH2|S|C-18|U|NN|X|N|TT2|P|SS|I|E|UUUU|K|K2|ND",
    "UU|G|G2|ST|ST2|NG|II|C-39|TT|UUU2|RR|MB|MB2|MB3|MB4|LD2|E2|UUU3"]⟩,
  ⟨0x102e0, "COPTIC EPACT ", ["THOUSANDS MARK|DIGIT ONE|DIGIT TWO|DIGIT THREE|DIGIT FOUR|DIGIT FIVE|DIGIT SIX",
    "DIGIT SEVEN|DIGIT EIGHT|DIGIT NINE"]⟩,
  ⟨0x102ea, "COPTIC EPACT NUMBER ", ["TEN|TWENTY|THIRTY|FORTY|FIFTY|SIXTY|SEVENTY|EIGHTY|NINETY|ONE HUNDRED",
    "TWO HUNDRED|THREE HUNDRED|FOUR HUNDRED|FIVE HUNDRED|SIX HUNDRED|SEVEN HUNDRED|EIGHT HUNDRED|NINE HUNDRED"]⟩,
  ⟨0x10300, "OLD ITALIC LETTER ", ["A|BE|KE|DE|E|VE|ZE|HE|THE|I|KA|EL|EM|EN|ESH|O|PE|SHE|KU|ER|ES|TE|U|EKS|PHE|KHE",
    "EF|ERS|CHE|II|UU|ESS"]⟩,
  ⟨0x10320, "OLD ITALIC NUMERAL ", ["ONE|FIVE|TEN|FIFTY"]⟩,
  ⟨0x1032d, "OLD ITALIC LETTER ", ["YE|NORTHERN TSE|SOUTHERN TSE"]⟩,
  ⟨0x10330, "GOTHIC LETTER ", ["AHSA|BAIRKAN|GIBA|DAGS|AIHVUS|QAIRTHRA|IUJA|HAGL|THIUTH|EIS|KUSMA|LAGUS|MANNA",
    "NAUTHS|JER|URUS|PAIRTHRA|NINETY|RAIDA|SAUIL|TEIWS|WINJA|FAIHU|IGGWS|HWAIR|OTHAL|NINE HUNDRED"]⟩,
  ⟨0x10350, "OLD PERMIC LETTER ", ["AN|BUR|GAI|DOI|E|ZHOI|DZHOI|ZATA|DZITA|I|KOKE|LEI|MENOE|NENOE|VOOI|PEEI|REI",
    "SII|TAI|U|CHERY|SHOOI|SHCHOOI|YRY|YERU|O|OO|EF|HA|TSIU|VER|YER|YERI|YAT|IE|YU|YA|IA"]⟩,
  ⟨0x10376, "COMBINING OLD PERMIC LETTER ", ["AN|DOI|ZATA|NENOE|SII"]⟩,
  ⟨0x10380, "UGARITIC LETTER ", ["ALPA|BETA|GAMLA|KHA|DELTA|HO|WO|ZETA|HOTA|TET|YOD|KAF|SHIN|LAMDA|MEM|DHAL|NUN|ZU",
    "SAMKA|AIN|PU|SADE|QOPA|RASHA|THANNA|GHAIN|TO|I|U|SSU"]⟩,
  ⟨0x1039f, "", ["UGARITIC WORD DIVIDER"]⟩,
  ⟨0x103a0, "OLD PERSIAN SIGN ", ["A|I|U|KA|KU|GA|GU|XA|CA|JA|JI|TA|TU|DA|DI|DU|THA|PA|BA|FA|NA|NU|MA|MI|MU|YA|VA",
    "VI|RA|RU|LA|SA|ZA|SHA|SSA|HA|||||AURAMAZDAA|AURAMAZDAA-2|AURAMAZDAAHA|XSHAAYATHIYA|DAHYAAUSH|DAHYAAUSH-2|BAGA",
    "BUUMISH"]⟩,
  ⟨0x103d0, "OLD PERSIAN ", ["WORD DIVIDER|NUMBER ONE|NUMBER TWO|NUMBER TEN|NUMBER TWENTY|NUMBER HUNDRED"]⟩,
  ⟨0x10400, "DESERET CAPITAL LETTER ", ["LONG I|LONG E|LONG A|LONG AH|LONG O|LONG OO|SHORT I|SHORT E|SHORT A",
    "SHORT AH|SHORT O|SHORT OO|AY|OW|WU|YEE|H|PEE|BEE|TEE|DEE|CHEE|JEE|KAY|GAY|EF|VEE|ETH|THEE|ES|ZEE|ESH|ZHEE|ER",
    "EL|EM|EN|ENG|OI|EW"]⟩,
  ⟨0x10428, "DESERET SMALL LETTER ", ["LONG I|LONG E|LONG A|LONG AH|LONG O|LONG OO|SHORT I|SHORT E|SHORT A",
    "SHORT AH|SHORT O|SHORT OO|AY|OW|WU|YEE|H|PEE|BEE|TEE|DEE|CHEE|JEE|KAY|GAY|EF|VEE|ETH|THEE|ES|ZEE|ESH|ZHEE|ER",
    "EL|EM|EN|ENG|OI|EW"]⟩,
  ⟨0x10450, "SHAVIAN LETTER ", ["PEEP|TOT|KICK|FEE|THIGH|SO|SURE|CHURCH|YEA|HUNG|BIB|DEAD|GAG|VOW|THEY|ZOO|MEASURE",
    "JUDGE|WOE|HA-HA|LOLL|MIME|IF|EGG|ASH|ADO|ON|WOOL|OUT|AH|ROAR|NUN|EAT|AGE|ICE|UP|OAK|OOZE|OIL|AWE|ARE|OR|AIR",
    "ERR|ARRAY|EAR|IAN|YEW"]⟩,
  ⟨0x10480, "OSMANYA LETTER ", ["ALEF|BA|TA|JA|XA|KHA|DEEL|RA|SA|SHIIN|DHA|CAYN|GA|FA|QAAF|KAAF|LAAN|MIIN|NUUN|WAW",
    "HA|YA|A|E|I|O|U|AA|EE|OO"]⟩,
  ⟨0x104a0, "OSMANYA DIGIT ", ["ZERO|ONE|TWO|THREE|FOUR|FIVE|SIX|SEVEN|EIGHT|NINE"]⟩,
  ⟨0x104b0, "OSAGE CAPITAL LETTER ", ["A|AI|AIN|AH|BRA|CHA|EHCHA|E|EIN|HA|HYA|I|KA|EHKA|KYA|LA|MA|NA|O|OIN|PA|EHPA",
    "SA|SHA|TA|EHTA|TSA|EHTSA|TSHA|DHA|U|WA|KHA|GHA|ZA|ZHA"]⟩,
  ⟨0x104d8, "OSAGE SMALL LETTER ", ["A|AI|AIN|AH|BRA|CHA|EHCHA|E|EIN|HA|HYA|I|KA|EHKA|KYA|LA|MA|NA|O|OIN|PA|EHPA",
    "SA|SHA|TA|EHTA|TSA|EHTSA|TSHA|DHA|U|WA|KHA|GHA|ZA|ZHA"]⟩,
  ⟨0x10500, "ELBASAN LETTER ", ["A|BE|CE|CHE|DE|NDE|DHE|EI|E|FE|GE|GJE|HE|I|JE|KE|LE|LLE|ME|NE|NA|NJE|O|PE|QE|RE",
    "RRE|SE|SHE|TE|THE|U|VE|XE|Y|ZE|ZHE|GHE|GHAMMA|KHE"]⟩,
  ⟨0x10530, "CAUCASIAN ALBANIAN LETTER ", ["ALT|BET|GIM|DAT|EB|ZARL|EYN|ZHIL|TAS|CHA|YOWD|ZHA|IRB|SHA|LAN|INYA",
    "XEYN|DYAN|CAR|JHOX|KAR|LYIT|HEYT|QAY|AOR|CHOY|CHI|CYAY|MAQ|QAR|NOWC|DZYAY|SHAK|JAYN|ON|TYAY|FAM|DZAY|CHAT|PEN",
    "GHEYS|RAT|SEYK|VEYZ|TIWR|SHOY|IWN|CYAW|CAYN|YAYD|PIWR|KIW"]⟩,
  ⟨0x1056f, "", ["CAUCASIAN ALBANIAN CITATION MARK"]⟩,
  ⟨0x10570, "VITHKUQI CAPITAL LETTER ", ["A|BBE|BE|CE|CHE|DE|DHE|EI|E|FE|GA||HA|HHA|I|IJE|JE|KA|LA|LLA|ME|NE|NJE|O",
    "PE|QA|RE||SE|SHE|TE|THE|U|VE|XE||Y|ZE"]⟩,
  ⟨0x10597, "VITHKUQI SMALL LETTER ", ["A|BBE|BE|CE|CHE|DE|DHE|EI|E|FE|GA||HA|HHA|I|IJE|JE|KA|LA|LLA|ME|NE|NJE|O",
    "PE|QA|RE||SE|SHE|TE|THE|U|VE|XE||Y|ZE"]⟩,
  ⟨0x10600, "LINEAR A SIGN A", ["B001|B002|B003|B004|B005|B006|B007|B008|B009|B010|B011|B013|B016|B017|B020|B021",
    "B021F|B021M|B022|B022F|B022M|B023|B023M|B024|B026|B027|B028|028B|B029|B030|B031|B034|B037|B038|B039|B040|B041",
    "B044|B045|B046|B047|B048|B049|B050|B051|B053|B054|B055|B056|B057|B058|B059|B060|B061|B065|B066|B067|B069|B070",
    "B073|B074|B076|B077|B078|B079|B080|B081|B082|B085|B086|B087|100-102|B118|B120|120B|B122|B123|B131A|B131B|131C",
    "B164|B171|B180|B188|B191|301|302|303|304|305|306|307|308|309A|309B|309C|310|311|312|313A|313B|313C|314|315",
    "316|317|318|319|320|321|322|323|324|325|326|327|328|329|330|331|332|333|334|335|336|337|338|339|340|341|342",
    "343|344|345|346|347|348|349|350|351|352|353|354|355|356|357|358|359|360|361|362|363|364|365|366|367|368|369",
    "370|371|400-VAS|401-VAS|402-VAS|403-VAS|404-VAS|405-VAS|406-VAS|407-VAS|408-VAS|409-VAS|410-VAS|411-VAS",
    "412-VAS|413-VAS|414-VAS|415-VAS|416-VAS|417-VAS|418-VAS"]⟩,
  ⟨0x106b3, "LINEAR A SIGN A5", ["01|02|03|04|05|06|08|09|10|11|12|13|15|16|20|21|23|24|25|26|27|28|29|30|31|32|34",
    "35|36|37|38|39|40|41|42|45|47|48|49|50|51|52|53|54|55|56|57|59|63|64|65|66|68|69|70|71|72|73|74|75|76|77|78",
    "79|80|81|82|83|84|85|86|87|88|89|91|92|94|95|96|98"]⟩,
  ⟨0x10703, "LINEAR A SIGN A6", ["00|01|02|03|04|06|08|09|10|11|12|13|14|15|16|17|18|19|20|21|22|23|24|26|27|28|29",
    "34|37|38|40|42|43|44|45|46|48|49|51|52|53|54|55|56|57|58|59|60|61|62|63|64"]⟩,
  ⟨0x10740, "LINEAR A SIGN A7", ["01 A|02 B|03 D|04 E|05 F|06 H|07 J|08 K|09 L|09-2 L2|09-3 L3|09-4 L4|09-6 L6",
    "10 W|11 X|12 Y|13 OMEGA|14 ABB|15 BB|17 DD|26 EYYY|32 JE"]⟩,
  ⟨0x10760, "LINEAR A SIGN A80", ["0|1|2|3|4|5|6|7"]⟩,
  ⟨0x10780, "MODIFIER LETTER S", ["MALL CAPITAL AA|UPERSCRIPT TRIANGULAR COLON|UPERSCRIPT HALF TRIANGULAR COLON"]⟩,
  ⟨0x10783, "MODIFIER LETTER SMALL ", ["AE|CAPITAL B|B WITH HOOK||DZ DIGRAPH|DZ DIGRAPH WITH RETROFLEX HOOK",
    "DZ DIGRAPH WITH CURL|DEZH DIGRAPH|D WITH TAIL|D WITH HOOK|D WITH HOOK AND TAIL|REVERSED E",
    "CLOSED REVERSED OPEN E|FENG DIGRAPH|RAMS HORN|CAPITAL G|G WITH HOOK|CAPITAL G WITH HOOK|H WITH STROKE",
    "CAPITAL H|HENG WITH HOOK|DOTLESS J WITH STROKE AND HOOK|LS DIGRAPH|LZ DIGRAPH|L WITH BELT|CAPITAL L WITH BELT",
    "L WITH RETROFLEX HOOK AND BELT|LEZH|LEZH WITH RETROFLEX HOOK|TURNED Y|TURNED Y WITH BELT|O WITH STROKE",
    "CAPITAL OE|CLOSED OMEGA|Q|TURNED R WITH LONG LEG|TURNED R WITH LONG LEG AND RETROFLEX HOOK|R WITH TAIL",
    "R WITH FISHHOOK|CAPITAL R|TC DIGRAPH WITH CURL|TS DIGRAPH|TS DIGRAPH WITH RETROFLEX HOOK|TESH DIGRAPH",
    "T WITH RETROFLEX HOOK|V WITH RIGHT HOOK||CAPITAL Y"]⟩,
  ⟨0x107b3, "MODIFIER LETTER ", ["GLOTTAL STOP WITH STROKE|REVERSED GLOTTAL STOP WITH STROKE|BILABIAL CLICK",
    "DENTAL CLICK|LATERAL CLICK|ALVEOLAR CLICK|RETROFLEX CLICK WITH RETROFLEX HOOK|SMALL S WITH CURL"]⟩,
  ⟨0x10800, "CYPRIOT SYLLABLE ", ["A|E|I|O|U|JA|||JO||KA|KE|KI|KO|KU|LA|LE|LI|LO|LU|MA|ME|MI|MO|MU|NA|NE|NI|NO|NU",
    "PA|PE|PI|PO|PU|RA|RE|RI|RO|RU|SA|SE|SI|SO|SU|TA|TE|TI|TO|TU|WA|WE|WI|WO||XA|XE||||ZA|||ZO"]⟩,
  ⟨0x10840, "IMPERIAL ARAMAIC LETTER ", ["ALEPH|BETH|GIMEL|DALETH|HE|WAW|ZAYIN|HETH|TETH|YODH|KAPH|LAMEDH|MEM|NUN",
    "SAMEKH|AYIN|PE|SADHE|QOPH|RESH|SHIN|TAW"]⟩,
  ⟨0x10857, "IMPERIAL ARAMAIC ", ["SECTION SIGN|NUMBER ONE|NUMBER TWO|NUMBER THREE|NUMBER TEN|NUMBER TWENTY",
    "NUMBER ONE HUNDRED|NUMBER ONE THOUSAND|NUMBER TEN THOUSAND"]⟩,
  ⟨0x10860, "PALMYRENE LETTER ", ["ALEPH|BETH|GIMEL|DALETH|HE|WAW|ZAYIN|HETH|TETH|YODH|KAPH|LAMEDH|MEM|FINAL NUN",
    "NUN|SAMEKH|AYIN|PE|SADHE|QOPH|RESH|SHIN|TAW"]⟩,
  ⟨0x10877, "PALMYRENE ", ["LEFT-POINTING FLEURON|RIGHT-POINTING FLEURON|NUMBER ONE|NUMBER TWO|NUMBER THREE",
    "NUMBER FOUR|NUMBER FIVE|NUMBER TEN|NUMBER TWENTY"]⟩,
  ⟨0x10880, "NABATAEAN LETTER ", ["FINAL ALEPH|ALEPH|FINAL BETH|BETH|GIMEL|DALETH|FINAL HE|HE|WAW|ZAYIN|HETH|TETH",
    "FINAL YODH|YODH|FINAL KAPH|KAPH|FINAL LAMEDH|LAMEDH|FINAL MEM|MEM|FINAL NUN|NUN|SAMEKH|AYIN|PE|SADHE|QOPH",
    "RESH|FINAL SHIN|SHIN|TAW"]⟩,
  ⟨0x108a7, "NABATAEAN ", ["NUMBER ONE|NUMBER TWO|NUMBER THREE|NUMBER FOUR|CRUCIFORM NUMBER FOUR|NUMBER FIVE",
    "NUMBER TEN|NUMBER TWENTY|NUMBER ONE HUNDRED"]⟩,
  ⟨0x108e0, "HATRAN LETTER ", ["ALEPH|BETH|GIMEL|DALETH-RESH|HE|WAW|ZAYN|HETH|TETH|YODH|KAPH|LAMEDH|MEM|NUN|SAMEKH",
    "AYN|PE|SADHE|QOPH||SHIN|TAW"]⟩,
  ⟨0x108fb, "HATRAN NUMBER ", ["ONE|FIVE|TEN|TWENTY|ONE HUNDRED"]⟩,
  ⟨0x10900, "PHOENICIAN LETTER ", ["ALF|BET|GAML|DELT|HE|WAU|ZAI|HET|TET|YOD|KAF|LAMD|MEM|NUN|SEMK|AIN|PE|SADE|QOF",
    "ROSH|SHIN|TAU"]⟩,
  ⟨0x10916, "PHOENICIAN ", ["NUMBER ONE|NUMBER TEN|NUMBER TWENTY|NUMBER ONE HUNDRED|NUMBER TWO",
    "NUMBER THREE||||WORD SEPARATOR"]⟩,
  ⟨0x10920, "LYDIAN LETTER ", ["A|B|G|D|E|V|I|Y|K|L|M|N|O|R|SS|T|U|F|Q|S|TT|AN|EN|LY|NN|C"]⟩,
  ⟨0x1093f, "", ["LYDIAN TRIANGULAR MARK"]⟩,
  ⟨0x10980, "MEROITIC HIEROGLYPHIC LETTER ", ["A|E|I|O|YA|WA|BA|BA-2|PA|MA|NA|NA-2|NE|NE-2|RA|RA-2|LA|KHA|HHA|SA",
    "SA-2|SE|KA|QA|TA|TA-2|TE|TE-2|TO|DA"]⟩,
  ⟨0x1099e, "MEROITIC HIEROGLYPHIC SYMBOL VID", ["J|J-2"]⟩,
  ⟨0x109a0, "MEROITIC CURSIVE LETTER ", ["A|E|I|O|YA|WA|BA|PA|MA|NA|NE|RA|LA|KHA|HHA|SA|ARCHAIC SA|SE|KA|QA|TA|TE",
    "TO|DA"]⟩,
  ⟨0x109bc, "MEROITIC CURSIVE ", ["FRACTION ELEVEN TWELFTHS|FRACTION ONE HALF|LOGOGRAM RMT|LOGOGRAM IMN"]⟩,
  ⟨0x109c0, "MEROITIC CURSIVE NUMBER ", ["ONE|TWO|THREE|FOUR|FIVE|SIX|SEVEN|EIGHT|NINE|TEN|TWENTY|THIRTY|FORTY",
    "FIFTY|SIXTY|SEVENTY|||ONE HUNDRED|TWO HUNDRED|THREE HUNDRED|FOUR HUNDRED|FIVE HUNDRED|SIX HUNDRED",
    "SEVEN HUNDRED|EIGHT HUNDRED|NINE HUNDRED|ONE THOUSAND|TWO THOUSAND|THREE THOUSAND|FOUR THOUSAND|FIVE THOUSAND",
    "SIX THOUSAND|SEVEN THOUSAND|EIGHT THOUSAND|NINE THOUSAND|TEN THOUSAND|TWENTY THOUSAND|THIRTY THOUSAND",
    "FORTY THOUSAND|FIFTY THOUSAND|SIXTY THOUSAND|SEVENTY THOUSAND|EIGHTY THOUSAND|NINETY THOUSAND",
    "ONE HUNDRED THOUSAND|TWO HUNDRED THOUSAND|THREE HUNDRED THOUSAND|FOUR HUNDRED THOUSAND|FIVE HUNDRED THOUSAND",
    "SIX HUNDRED THOUSAND|SEVEN HUNDRED THOUSAND|EIGHT HUNDRED THOUSAND|NINE HUNDRED THOUSAND"]⟩,
  ⟨0x109f6, "MEROITIC CURSIVE FRACTION ", ["ONE TWELFTH|TWO TWELFTHS|THREE TWELFTHS|FOUR TWELFTHS|FIVE TWELFTHS",
    "SIX TWELFTHS|SEVEN TWELFTHS|EIGHT TWELFTHS|NINE TWELFTHS|TEN TWELFTHS"]⟩,
  ⟨0x10a00, "KHAROSHTHI ", ["LETTER A|VOWEL SIGN I|VOWEL SIGN U|VOWEL SIGN VOCALIC R||VOWEL SIGN E",
    "VOWEL SIGN O||||||VOWEL LENGTH MARK|SIGN DOUBLE RING BELOW|SIGN ANUSVARA|SIGN VISARGA"]⟩,
  ⟨0x10a10, "KHAROSHTHI LETTER ", ["KA|KHA|GA|GHA||CA|CHA|JA||NYA|TTA|TTHA|DDA|DDHA|NNA|TA|THA|DA|DHA|NA|PA|PHA|BA",
    "BHA|MA|YA|RA|LA|VA|SHA|SSA|SA|ZA|HA|KKA|TTTHA|TTTA|VHA"]⟩,
  ⟨0x10a38, "KHAROSHTHI ", ["SIGN BAR ABOVE|SIGN CAUDA|SIGN DOT BELOW|||||VIRAMA|DIGIT ONE|DIGIT TWO|DIGIT THREE",
    "DIGIT FOUR|NUMBER TEN|NUMBER TWENTY|NUMBER ONE HUNDRED|NUMBER ONE THOUSAND|FRACTION ONE HALF"]⟩,
  ⟨0x10a50, "KHAROSHTHI PUNCTUATION ", ["DOT|SMALL CIRCLE|CIRCLE|CRESCENT BAR|MANGALAM|LOTUS|DANDA|DOUBLE DANDA",
    "LINES"]⟩,
  ⟨0x10a60, "OLD SOUTH ARABIAN LETTER ", ["HE|LAMEDH|HETH|MEM|QOPH|WAW|SHIN|RESH|BETH|TAW|SAT|KAPH|NUN|KHETH|SADHE",
    "SAMEKH|FE|ALEF|AYN|DHADHE|GIMEL|DALETH|GHAYN|TETH|ZAYN|DHALETH|YODH|THAW|THETH"]⟩,
  ⟨0x10a7d, "OLD SOUTH ARABIAN NUM", ["BER ONE|BER FIFTY|ERIC INDICATOR"]⟩,
  ⟨0x10a80, "OLD NORTH ARABIAN LETTER ", ["HEH|LAM|HAH|MEEM|QAF|WAW|ES-2|REH|BEH|TEH|ES-1|KAF|NOON|KHAH|SAD|ES-3",
    "FEH|ALEF|AIN|DAD|GEEM|DAL|GHAIN|TAH|ZAIN|THAL|YEH|THEH|ZAH"]⟩,
  ⟨0x10a9d, "OLD NORTH ARABIAN NUMBER ", ["ONE|TEN|TWENTY"]⟩,
  ⟨0x10ac0, "MANICHAEAN ", ["LETTER ALEPH|LETTER BETH|LETTER BHETH|LETTER GIMEL|LETTER GHIMEL|LETTER DALETH",
    "LETTER HE|LETTER WAW|SIGN UD"]⟩,
  ⟨0x10ac9, "MANICHAEAN LETTER ", ["ZAYIN|ZHAYIN|JAYIN|JHAYIN|HETH|TETH|YODH|KAPH|XAPH|KHAPH|LAMEDH|DHAMEDH",
    "THAMEDH|MEM|NUN|SAMEKH|AYIN|AAYIN|PE|FE|SADHE|QOPH|XOPH|QHOPH|RESH|SHIN|SSHIN|TAW"]⟩,
  ⟨0x10ae5, "MANICHAEAN ", ["ABBREVIATION MARK ABOVE|ABBREVIATION MARK BELOW|||||NUMBER ONE|NUMBER FIVE|NUMBER TEN",
    "NUMBER TWENTY|NUMBER ONE HUNDRED"]⟩,
  ⟨0x10af0, "MANICHAEAN PUNCTUATION ", ["STAR|FLEURON|DOUBLE DOT WITHIN DOT|DOT WITHIN DOT|DOT|TWO DOTS",
    "LINE FILLER"]⟩,
  ⟨0x10b00, "AVESTAN LETTER ", ["A|AA|AO|AAO|AN|AAN|AE|AEE|E|EE|O|OO|I|II|U|UU|KE|XE|XYE|XVE|GE|GGE|GHE|CE|JE|TE",
    "THE|DE|DHE|TTE|PE|FE|BE|BHE|NGE|NGYE|NGVE|NE|NYE|NNE|ME|HME|YYE|YE|VE|RE|LE|SE|ZE|SHE|ZHE|SHYE|SSHE|HE"]⟩,
  ⟨0x10b39, "", ["AVESTAN ABBREVIATION MARK|TINY TWO DOTS OVER ONE DOT PUNCTUATION",
    "SMALL TWO DOTS OVER ONE DOT PUNCTUATION|LARGE TWO DOTS OVER ONE DOT PUNCTUATION",
    "LARGE ONE DOT OVER TWO DOTS PUNCTUATION|LARGE TWO RINGS OVER ONE RING PUNCTUATION",
    "LARGE ONE RING OVER TWO RINGS PUNCTUATION"]⟩,
  ⟨0x10b40, "INSCRIPTIONAL PARTHIAN LETTER ", ["ALEPH|BETH|GIMEL|DALETH|HE|WAW|ZAYIN|HETH|TETH|YODH|KAPH|LAMEDH",
    "MEM|NUN|SAMEKH|AYIN|PE|SADHE|QOPH|RESH|SHIN|TAW"]⟩,
  ⟨0x10b58, "INSCRIPTIONAL PARTHIAN NUMBER ", ["ONE|TWO|THREE|FOUR|TEN|TWENTY|ONE HUNDRED|ONE THOUSAND"]⟩,
  ⟨0x10b60, "INSCRIPTIONAL PAHLAVI LETTER ", ["ALEPH|BETH|GIMEL|DALETH|HE|WAW-AYIN-RESH|ZAYIN|HETH|TETH|YODH|KAPH",
    "LAMEDH|MEM-QOPH|NUN|SAMEKH|PE|SADHE|SHIN|TAW"]⟩,
  ⟨0x10b78, "INSCRIPTIONAL PAHLAVI NUMBER ", ["ONE|TWO|THREE|FOUR|TEN|TWENTY|ONE HUNDRED|ONE THOUSAND"]⟩,
  ⟨0x10b80, "PSALTER PAHLAVI LETTER ", ["ALEPH|BETH|GIMEL|DALETH|HE|WAW-AYIN-RESH|ZAYIN|HETH|YODH|KAPH|LAMEDH",
    "MEM-QOPH|NUN|SAMEKH|PE|SADHE|SHIN|TAW"]⟩,
  ⟨0x10b99, "PSALTER PAHLAVI ", ["SECTION MARK|TURNED SECTION MARK|FOUR DOTS WITH CROSS|FOUR DOTS WITH DOT"]⟩,
  ⟨0x10ba9, "PSALTER PAHLAVI NUMBER ", ["ONE|TWO|THREE|FOUR|TEN|TWENTY|ONE HUNDRED"]⟩,
  ⟨0x10c00, "OLD TURKIC LETTER ", ["ORKHON A|YENISEI A|YENISEI AE|ORKHON I|YENISEI I|YENISEI E|ORKHON O|ORKHON OE",
    "YENISEI OE|ORKHON AB|YENISEI AB|ORKHON AEB|YENISEI AEB|ORKHON AG|YENISEI AG|ORKHON AEG|YENISEI AEG|ORKHON AD",
    "YENISEI AD|ORKHON AED|ORKHON EZ|YENISEI EZ|ORKHON AY|YENISEI AY|ORKHON AEY|YENISEI AEY|ORKHON AEK|YENISEI AEK",
    "ORKHON OEK|YENISEI OEK|ORKHON AL|YENISEI AL|ORKHON AEL|ORKHON ELT|ORKHON EM|ORKHON AN|ORKHON AEN|YENISEI AEN",
    "ORKHON ENT|YENISEI ENT|ORKHON ENC|YENISEI ENC|ORKHON ENY|YENISEI ENY|YENISEI ANG|ORKHON ENG|YENISEI AENG",
    "ORKHON EP|ORKHON OP|ORKHON IC|ORKHON EC|YENISEI EC|ORKHON AQ|YENISEI AQ|ORKHON IQ|YENISEI IQ|ORKHON OQ",
    "YENISEI OQ|ORKHON AR|YENISEI AR|ORKHON AER|ORKHON AS|ORKHON AES|ORKHON ASH|YENISEI ASH|ORKHON ESH|YENISEI ESH",
    "ORKHON AT|YENISEI AT|ORKHON AET|YENISEI AET|ORKHON OT|ORKHON BASH"]⟩,
  ⟨0x10c80, "OLD HUNGARIAN CAPITAL LETTER ", ["A|AA|EB|AMB|EC|ENC|ECS|ED|AND|E|CLOSE E|EE|EF|EG|EGY|EH|I|II|EJ|EK",
    "AK|UNK|EL|ELY|EM|EN|ENY|O|OO|NIKOLSBURG OE|RUDIMENTA OE|OEE|EP|EMP|ER|SHORT ER|ES|ESZ|ET|ENT|ETY|ECH|U|UU",
    "NIKOLSBURG UE|RUDIMENTA UE|EV|EZ|EZS|ENT-SHAPED SIGN|US"]⟩,
  ⟨0x10cc0, "OLD HUNGARIAN SMALL LETTER ", ["A|AA|EB|AMB|EC|ENC|ECS|ED|AND|E|CLOSE E|EE|EF|EG|EGY|EH|I|II|EJ|EK|AK",
    "UNK|EL|ELY|EM|EN|ENY|O|OO|NIKOLSBURG OE|RUDIMENTA OE|OEE|EP|EMP|ER|SHORT ER|ES|ESZ|ET|ENT|ETY|ECH|U|UU",
    "NIKOLSBURG UE|RUDIMENTA UE|EV|EZ|EZS|ENT-SHAPED SIGN|US"]⟩,
  ⟨0x10cfa, "OLD HUNGARIAN NUMBER ", ["ONE|FIVE|TEN|FIFTY|ONE HUNDRED|ONE THOUSAND"]⟩,
  ⟨0x10d00, "HANIFI ROHINGYA LETTER ", ["A|BA|PA|TA|TTA|JA|CA|HA|KHA|FA|DA|DDA|RA|RRA|ZA|SA|SHA|KA|GA|LA|MA|NA|WA",
    "KINNA WA|YA|KINNA YA|NGA|NYA|VA"]⟩,
  ⟨0x10d1d, "HANIFI ROHINGYA ", ["VOWEL A|VOWEL I|VOWEL U|VOWEL E|VOWEL O|MARK SAKIN|MARK NA KHONNA|SIGN HARBAHAY",
    "SIGN TAHALA|SIGN TANA|SIGN TASSI"]⟩,
  ⟨0x10d30, "HANIFI ROHINGYA DIGIT ", ["ZERO|ONE|TWO|THREE|FOUR|FIVE|SIX|SEVEN|EIGHT|NINE"]⟩,
  ⟨0x10e60, "RUMI DIGIT ", ["ONE|TWO|THREE|FOUR|FIVE|SIX|SEVEN|EIGHT|NINE"]⟩,
  ⟨0x10e69, "RUMI NUMBER ", ["TEN|TWENTY|THIRTY|FORTY|FIFTY|SIXTY|SEVENTY|EIGHTY|NINETY|ONE HUNDRED|TWO HUNDRED",
    "THREE HUNDRED|FOUR HUNDRED|FIVE HUNDRED|SIX HUNDRED|SEVEN HUNDRED|EIGHT HUNDRED|NINE HUNDRED"]⟩,
  ⟨0x10e7b, "RUMI FRACTION ", ["ONE HALF|ONE QUARTER|ONE THIRD|TWO THIRDS"]⟩,
  ⟨0x10e80, "YEZIDI LETTER ", ["ELIF|BE|PE|PHE|THE|SE|CIM|CHIM|CHHIM|HHA|XA|DAL|ZAL|RA|RHA|ZA|JA|SIN|SHIN|SAD|DAD",
    "TA|ZE|EYN|XHEYN|FA|VA|VA ALTERNATE FORM|QAF|KAF|KHAF|GAF|LAM|MIM|NUN|UM|WAW|OW|EW|HAY|YOT|ET"]⟩,
  ⟨0x10eab, "YEZIDI ", ["COMBINING HAMZA MARK|COMBINING MADDA MARK|HYPHENATION MARK|||LETTER LAM WITH DOT ABOVE",
    "LETTER YOT WITH CIRCUMFLEX ABOVE"]⟩,
  ⟨0x10f00, "OLD SOGDIAN LETTER ", ["ALEPH|FINAL ALEPH|BETH|FINAL BETH|GIMEL|HE|FINAL HE|WAW|ZAYIN|HETH|YODH|KAPH",
    "LAMEDH|MEM|NUN|FINAL NUN|FINAL NUN WITH VERTICAL TAIL|SAMEKH|AYIN|ALTERNATE AYIN|PE|SADHE|FINAL SADHE",
    "FINAL SADHE WITH VERTICAL TAIL|RESH-AYIN-DALETH|SHIN|TAW|FINAL TAW|FINAL TAW WITH VERTICAL TAIL"]⟩,
  ⟨0x10f1d, "OLD SOGDIAN NUMBER ", ["ONE|TWO|THREE|FOUR|FIVE|TEN|TWENTY|THIRTY|ONE HUNDRED"]⟩,
  ⟨0x10f26, "OLD SOGDIAN ", ["FRACTION ONE HALF|LIGATURE AYIN-DALETH"]⟩,
  ⟨0x10f30, "SOGDIAN LETTER ", ["ALEPH|BETH|GIMEL|HE|WAW|ZAYIN|HETH|YODH|KAPH|LAMEDH|MEM|NUN|SAMEKH|AYIN|PE|SADHE",
    "RESH-AYIN|SHIN|TAW|FETH|LESH"]⟩,
  ⟨0x10f45, "", ["SOGDIAN INDEPENDENT SHIN"]⟩,
  ⟨0x10f46, "SOGDIAN COMBINING ", ["DOT BELOW|TWO DOTS BELOW|DOT ABOVE|TWO DOTS ABOVE|CURVE ABOVE|CURVE BELOW",
    "HOOK ABOVE|HOOK BELOW|LONG HOOK BELOW|RESH BELOW|STROKE BELOW"]⟩,
  ⟨0x10f51, "SOGDIAN NUMBER ", ["ONE|TEN|TWENTY|ONE HUNDRED"]⟩,
  ⟨0x10f55, "SOGDIAN PUNCTUATION ", ["TWO VERTICAL BARS|TWO VERTICAL BARS WITH DOTS|CIRCLE WITH DOT",
    "TWO CIRCLES WITH DOTS|HALF CIRCLE WITH DOT"]⟩,
  ⟨0x10f70, "OLD UYGHUR LETTER ", ["ALEPH|BETH|GIMEL-HETH|WAW|ZAYIN|FINAL HETH|YODH|KAPH|LAMEDH|MEM|NUN|SAMEKH|PE",
    "SADHE|RESH|SHIN|TAW|LESH"]⟩,
  ⟨0x10f82, "OLD UYGHUR COMBINING ", ["DOT ABOVE|DOT BELOW|TWO DOTS ABOVE|TWO DOTS BELOW"]⟩,
  ⟨0x10f86, "OLD UYGHUR PUNCTUATION ", ["BAR|TWO BARS|TWO DOTS|FOUR DOTS"]⟩,
  ⟨0x10fb0, "CHORASMIAN LETTER ", ["ALEPH|SMALL ALEPH|BETH|GIMEL|DALETH|HE|WAW|CURLED WAW|ZAYIN|HETH|YODH|KAPH",
    "LAMEDH|MEM|NUN|SAMEKH|AYIN|PE|RESH|SHIN|TAW"]⟩,
  ⟨0x10fc5, "CHORASMIAN NUMBER ", ["ONE|TWO|THREE|FOUR|TEN|TWENTY|ONE HUNDRED"]⟩,
  ⟨0x10fe0, "ELYMAIC LETTER ", ["ALEPH|BETH|GIMEL|DALETH|HE|WAW|ZAYIN|HETH|TETH|YODH|KAPH|LAMEDH|MEM|NUN|SAMEKH",
    "AYIN|PE|SADHE|QOPH|RESH|SHIN|TAW"]⟩,
  ⟨0x10ff6, "", ["ELYMAIC LIGATURE ZAYIN-YODH"]⟩,
  ⟨0x11000, "BRAHMI SIGN ", ["CANDRABINDU|ANUSVARA|VISARGA|JIHVAMULIYA|UPADHMANIYA"]⟩,
  ⟨0x11005, "BRAHMI LETTER ", ["A|AA|I|II|U|UU|VOCALIC R|VOCALIC RR|VOCALIC L|VOCALIC LL|E|AI|O|AU|KA|KHA|GA|GHA",
    "NGA|CA|CHA|JA|JHA|NYA|TTA|TTHA|DDA|DDHA|NNA|TA|THA|DA|DHA|NA|PA|PHA|BA|BHA|MA|YA|RA|LA|VA|SHA|SSA|SA|HA|LLA",
    "OLD TAMIL LLLA|OLD TAMIL RRA|OLD TAMIL NNNA"]⟩,
  ⟨0x11038, "BRAHMI VOWEL SIGN ", ["AA|BHATTIPROLU AA|I|II|U|UU|VOCALIC R|VOCALIC RR|VOCALIC L|VOCALIC LL|E|AI|O",
    "AU"]⟩,
  ⟨0x11046, "BRAHMI ", ["VIRAMA|DANDA|DOUBLE DANDA"]⟩,
  ⟨0x11049, "BRAHMI PUNCTUATION ", ["DOT|DOUBLE DOT|LINE|CRESCENT BAR|LOTUS"]⟩,
  ⟨0x11052, "BRAHMI NUMBER ", ["ONE|TWO|THREE|FOUR|FIVE|SIX|SEVEN|EIGHT|NINE|TEN|TWENTY|THIRTY|FORTY|FIFTY|SIXTY",
    "SEVENTY|EIGHTY|NINETY|ONE HUNDRED|ONE THOUSAND"]⟩,
  ⟨0x11066, "BRAHMI DIGIT ", ["ZERO|ONE|TWO|THREE|FOUR|FIVE|SIX|SEVEN|EIGHT|NINE"]⟩,
  ⟨0x11070, "BRAHMI ", ["SIGN OLD TAMIL VIRAMA|LETTER OLD TAMIL SHORT E|LETTER OLD TAMIL SHORT O",
    "VOWEL SIGN OLD TAMIL SHORT E|VOWEL SIGN OLD TAMIL SHORT O|LETTER OLD TAMIL LLA"]⟩,
  ⟨0x1107f, "", ["BRAHMI NUMBER JOINER|KAITHI SIGN CANDRABINDU|KAITHI SIGN ANUSVARA|KAITHI SIGN VISARGA"]⟩,
  ⟨0x11083, "KAITHI LETTER ", ["A|AA|I|II|U|UU|E|AI|O|AU|KA|KHA|GA|GHA|NGA|CA|CHA|JA|JHA|NYA|TTA|TTHA|DDA|DDDHA",
    "DDHA|RHA|NNA|TA|THA|DA|DHA|NA|PA|PHA|BA|BHA|MA|YA|RA|LA|VA|SHA|SSA|SA|HA"]⟩,
  ⟨0x110b0, "KAITHI VOWEL SIGN ", ["AA|I|II|U|UU|E|AI|O|AU"]⟩,
  ⟨0x110b9, "KAITHI ", ["SIGN VIRAMA|SIGN NUKTA|ABBREVIATION SIGN|ENUMERATION SIGN|NUMBER SIGN|SECTION MARK",
    "DOUBLE SECTION MARK|DANDA|DOUBLE DANDA|VOWEL SIGN VOCALIC R"]⟩,
  ⟨0x110cd, "", ["KAITHI NUMBER SIGN ABOVE"]⟩,
  ⟨0x110d0, "SORA SOMPENG LETTER ", ["SAH|TAH|BAH|CAH|DAH|GAH|MAH|NGAH|LAH|NAH|VAH|PAH|YAH|RAH|HAH|KAH|JAH|NYAH|AH",
    "EEH|IH|UH|OH|EH|MAE"]⟩,
  ⟨0x110f0, "SORA SOMPENG DIGIT ", ["ZERO|ONE|TWO|THREE|FOUR|FIVE|SIX|SEVEN|EIGHT|NINE"]⟩,
  ⟨0x11100, "CHAKMA SIGN ", ["CANDRABINDU|ANUSVARA|VISARGA"]⟩,
  ⟨0x11103, "CHAKMA LETTER ", ["AA|I|U|E|KAA|KHAA|GAA|GHAA|NGAA|CAA|CHAA|JAA|JHAA|NYAA|TTAA|TTHAA|DDAA|DDHAA|NNAA",
    "TAA|THAA|DAA|DHAA|NAA|PAA|PHAA|BAA|BHAA|MAA|YYAA|YAA|RAA|LAA|WAA|SAA|HAA"]⟩,
  ⟨0x11127, "CHAKMA VOWEL SIGN ", ["A|I|II|U|UU|E|AI|O|AU|OI"]⟩,
  ⟨0x11131, "CHAKMA ", ["O MARK|AU MARK|VIRAMA|MAAYYAA||DIGIT ZERO|DIGIT ONE|DIGIT TWO|DIGIT THREE|DIGIT FOUR",
    "DIGIT FIVE|DIGIT SIX|DIGIT SEVEN|DIGIT EIGHT|DIGIT NINE|SECTION MARK|DANDA|DOUBLE DANDA|QUESTION MARK",
    "LETTER LHAA|VOWEL SIGN AA|VOWEL SIGN EI|LETTER VAA"]⟩,
  ⟨0x11150, "MAHAJANI LETTER ", ["A|I|U|E|O|KA|KHA|GA|GHA|CA|CHA|JA|JHA|NYA|TTA|TTHA|DDA|DDHA|NNA|TA|THA|DA|DHA|NA",
    "PA|PHA|BA|BHA|MA|RA|LA|VA|SA|HA|RRA"]⟩,
  ⟨0x11173, "MAHAJANI ", ["SIGN NUKTA|ABBREVIATION SIGN|SECTION MARK|LIGATURE SHRI"]⟩,
  ⟨0x11180, "SHARADA SIGN ", ["CANDRABINDU|ANUSVARA|VISARGA"]⟩,
  ⟨0x11183, "SHARADA LETTER ", ["A|AA|I|II|U|UU|VOCALIC R|VOCALIC RR|VOCALIC L|VOCALIC LL|E|AI|O|AU|KA|KHA|GA|GHA",
    "NGA|CA|CHA|JA|JHA|NYA|TTA|TTHA|DDA|DDHA|NNA|TA|THA|DA|DHA|NA|PA|PHA|BA|BHA|MA|YA|RA|LA|LLA|VA|SHA|SSA|SA|HA"]⟩,
  ⟨0x111b3, "SHARADA VOWEL SIGN ", ["AA|I|II|U|UU|VOCALIC R|VOCALIC RR|VOCALIC L|VOCALIC LL|E|AI|O|AU"]⟩,
  ⟨0x111c0, "SHARADA ", ["SIGN VIRAMA|SIGN AVAGRAHA|SIGN JIHVAMULIYA|SIGN UPADHMANIYA|OM|DANDA|DOUBLE DANDA",
    "ABBREVIATION SIGN|SEPARATOR|SANDHI MARK|SIGN NUKTA|VOWEL MODIFIER MARK|EXTRA SHORT VOWEL MARK|SUTRA MARK",
    "VOWEL SIGN PRISHTHAMATRA E|SIGN INVERTED CANDRABINDU|DIGIT ZERO|DIGIT ONE|DIGIT TWO|DIGIT THREE|DIGIT FOUR",
    "DIGIT FIVE|DIGIT SIX|DIGIT SEVEN|DIGIT EIGHT|DIGIT NINE|EKAM|SIGN SIDDHAM|HEADSTROKE|CONTINUATION SIGN",
    "SECTION MARK-1|SECTION MARK-2"]⟩,
  ⟨0x111e1, "SINHALA ARCHAIC DIGIT ", ["ONE|TWO|THREE|FOUR|FIVE|SIX|SEVEN|EIGHT|NINE"]⟩,
  ⟨0x111ea, "SINHALA ARCHAIC NUMBER ", ["TEN|TWENTY|THIRTY|FORTY|FIFTY|SIXTY|SEVENTY|EIGHTY|NINETY|ONE HUNDRED",
    "ONE THOUSAND"]⟩,
  ⟨0x11200, "KHOJKI LETTER ", ["A|AA|I|U|E|AI|O|AU|KA|KHA|GA|GGA|GHA|NGA|CA|CHA|JA|JJA||NYA|TTA|TTHA|DDA|DDHA|NNA",
    "TA|THA|DA|DDDA|DHA|NA|PA|PHA|BA|BBA|BHA|MA|YA|RA|LA|VA|SA|HA|LLA"]⟩,
  ⟨0x1122c, "KHOJKI VOWEL SIGN ", ["AA|I|II|U|E|AI|O|AU"]⟩,
  ⟨0x11234, "KHOJKI ", ["SIGN ANUSVARA|SIGN VIRAMA|SIGN NUKTA|SIGN SHADDA|DANDA|DOUBLE DANDA|WORD SEPARATOR",
    "SECTION MARK|DOUBLE SECTION MARK|ABBREVIATION SIGN|SIGN SUKUN"]⟩,
  ⟨0x11280, "MULTANI LETTER ", ["A|I|U|E|KA|KHA|GA||GHA||CA|CHA|JA|JJA||NYA|TTA|TTHA|DDA|DDDA|DDHA|NNA|TA|THA|DA",
    "DHA|NA|PA|PHA|BA||BHA|MA|YA|RA|LA|VA|SA|HA|RRA|RHA"]⟩,
  ⟨0x112a9, "", ["MULTANI SECTION MARK"]⟩,
  ⟨0x112b0, "KHUDAWADI LETTER ", ["A|AA|I|II|U|UU|E|AI|O|AU|KA|KHA|GA|GGA|GHA|NGA|CA|CHA|JA|JJA|JHA|NYA|TTA|TTHA",
    "DDA|DDDA|RRA|DDHA|NNA|TA|THA|DA|DHA|NA|PA|PHA|BA|BBA|BHA|MA|YA|RA|LA|VA|SHA|SA|HA"]⟩,
  ⟨0x112df, "KHUDAWADI ", ["SIGN ANUSVARA|VOWEL SIGN AA|VOWEL SIGN I|VOWEL SIGN II|VOWEL SIGN U|VOWEL SIGN UU",
    "VOWEL SIGN E|VOWEL SIGN AI|VOWEL SIGN O|VOWEL SIGN AU|SIGN NUKTA|SIGN VIRAMA"]⟩,
  ⟨0x112f0, "KHUDAWADI DIGIT ", ["ZERO|ONE|TWO|THREE|FOUR|FIVE|SIX|SEVEN|EIGHT|NINE"]⟩,
  ⟨0x11300, "GRANTHA SIGN ", ["COMBINING ANUSVARA ABOVE|CANDRABINDU|ANUSVARA|VISARGA"]⟩,
  ⟨0x11305, "GRANTHA LETTER ", ["A|AA|I|II|U|UU|VOCALIC R|VOCALIC L|||EE|AI|||OO|AU|KA|KHA|GA|GHA|NGA|CA|CHA|JA",
    "JHA|NYA|TTA|TTHA|DDA|DDHA|NNA|TA|THA|DA|DHA|NA||PA|PHA|BA|BHA|MA|YA|RA||LA|LLA||VA|SHA|SSA|SA|HA"]⟩,
  ⟨0x1133b, "", ["COMBINING BINDU BELOW|GRANTHA SIGN NUKTA|GRANTHA SIGN AVAGRAHA"]⟩,
  ⟨0x1133e, "GRANTHA VOWEL SIGN ", ["AA|I|II|U|UU|VOCALIC R|VOCALIC RR|||EE|AI|||OO|AU"]⟩,
  ⟨0x1134d, "GRANTHA ", ["SIGN VIRAMA|||OM|||||||AU LENGTH MARK||||||SIGN PLUTA|LETTER VEDIC ANUSVARA",
    "LETTER VEDIC DOUBLE ANUSVARA|LETTER VOCALIC RR|LETTER VOCALIC LL|VOWEL SIGN VOCALIC L|VOWEL SIGN VOCALIC LL"]⟩,
  ⟨0x11366, "COMBINING GRANTHA DIGIT ", ["ZERO|ONE|TWO|THREE|FOUR|FIVE|SIX"]⟩,
  ⟨0x11370, "COMBINING GRANTHA LETTER ", ["A|KA|NA|VI|PA"]⟩,
  ⟨0x11400, "NEWA LETTER ", ["A|AA|I|II|U|UU|VOCALIC R|VOCALIC RR|VOCALIC L|VOCALIC LL|E|AI|O|AU|KA|KHA|GA|GHA|NGA",
    "NGHA|CA|CHA|JA|JHA|NYA|NYHA|TTA|TTHA|DDA|DDHA|NNA|TA|THA|DA|DHA|NA|NHA|PA|PHA|BA|BHA|MA|MHA|YA|RA|RHA|LA|LHA",
    "WA|SHA|SSA|SA|HA"]⟩,
  ⟨0x11435, "NEWA VOWEL SIGN ", ["AA|I|II|U|UU|VOCALIC R|VOCALIC RR|VOCALIC L|VOCALIC LL|E|AI|O|AU"]⟩,
  ⟨0x11442, "NEWA ", ["SIGN VIRAMA|SIGN CANDRABINDU|SIGN ANUSVARA|SIGN VISARGA|SIGN NUKTA|SIGN AVAGRAHA",
    "SIGN FINAL ANUSVARA|OM|SIDDHI|DANDA|DOUBLE DANDA|COMMA|GAP FILLER|ABBREVIATION SIGN|DIGIT ZERO|DIGIT ONE",
    "DIGIT TWO|DIGIT THREE|DIGIT FOUR|DIGIT FIVE|DIGIT SIX|DIGIT SEVEN|DIGIT EIGHT|DIGIT NINE|DOUBLE COMMA",
    "PLACEHOLDER MARK||INSERTION SIGN|SANDHI MARK|LETTER VEDIC ANUSVARA|SIGN JIHVAMULIYA|SIGN UPADHMANIYA"]⟩,
  ⟨0x11480, "", ["TIRHUTA ANJI"]⟩,
  ⟨0x11481, "TIRHUTA LETTER ", ["A|AA|I|II|U|UU|VOCALIC R|VOCALIC RR|VOCALIC L|VOCALIC LL|E|AI|O|AU|KA|KHA|GA|GHA",
    "NGA|CA|CHA|JA|JHA|NYA|TTA|TTHA|DDA|DDHA|NNA|TA|THA|DA|DHA|NA|PA|PHA|BA|BHA|MA|YA|RA|LA|VA|SHA|SSA|SA|HA"]⟩,
  ⟨0x114b0, "TIRHUTA VOWEL SIGN ", ["AA|I|II|U|UU|VOCALIC R|VOCALIC RR|VOCALIC L|VOCALIC LL|E|SHORT E|AI|O|SHORT O",
    "AU"]⟩,
  ⟨0x114bf, "TIRHUTA ", ["SIGN CANDRABINDU|SIGN ANUSVARA|SIGN VISARGA|SIGN VIRAMA|SIGN NUKTA|SIGN AVAGRAHA|GVANG",
    "ABBREVIATION SIGN|OM"]⟩,
  ⟨0x114d0, "TIRHUTA DIGIT ", ["ZERO|ONE|TWO|THREE|FOUR|FIVE|SIX|SEVEN|EIGHT|NINE"]⟩,
  ⟨0x11580, "SIDDHAM LETTER ", ["A|AA|I|II|U|UU|VOCALIC R|VOCALIC RR|VOCALIC L|VOCALIC LL|E|AI|O|AU|KA|KHA|GA|GHA",
    "NGA|CA|CHA|JA|JHA|NYA|TTA|TTHA|DDA|DDHA|NNA|TA|THA|DA|DHA|NA|PA|PHA|BA|BHA|MA|YA|RA|LA|VA|SHA|SSA|SA|HA"]⟩,
  ⟨0x115af, "SIDDHAM VOWEL SIGN ", ["AA|I|II|U|UU|VOCALIC R|VOCALIC RR|||E|AI|O|AU"]⟩,
  ⟨0x115bc, "SIDDHAM ", ["SIGN CANDRABINDU|SIGN ANUSVARA|SIGN VISARGA|SIGN VIRAMA|SIGN NUKTA|SIGN SIDDHAM|DANDA",
    "DOUBLE DANDA|SEPARATOR DOT|SEPARATOR BAR|REPETITION MARK-1|REPETITION MARK-2|REPETITION MARK-3",
    "END OF TEXT MARK"]⟩,
  ⟨0x115ca, "SIDDHAM SECTION MARK ", ["WITH TRIDENT AND U-SHAPED ORNAMENTS|WITH TRIDENT AND DOTTED CRESCENTS",
    "WITH RAYS AND DOTTED CRESCENTS|WITH RAYS AND DOTTED DOUBLE CRESCENTS|WITH RAYS AND DOTTED TRIPLE CRESCENTS",
    "DOUBLE RING|DOUBLE RING WITH RAYS|WITH DOUBLE CRESCENTS|WITH TRIPLE CRESCENTS|WITH QUADRUPLE CRESCENTS",
    "WITH SEPTUPLE CRESCENTS|WITH CIRCLES AND RAYS|WITH CIRCLES AND TWO ENCLOSURES",
    "WITH CIRCLES AND FOUR ENCLOSURES"]⟩,
  ⟨0x115d8, "SIDDHAM ", ["LETTER THREE-CIRCLE ALTERNATE I|LETTER TWO-CIRCLE ALTERNATE I",
    "LETTER TWO-CIRCLE ALTERNATE II|LETTER ALTERNATE U|VOWEL SIGN ALTERNATE U|VOWEL SIGN ALTERNATE UU"]⟩,
  ⟨0x11600, "MODI LETTER ", ["A|AA|I|II|U|UU|VOCALIC R|VOCALIC RR|VOCALIC L|VOCALIC LL|E|AI|O|AU|KA|KHA|GA|GHA|NGA",
    "CA|CHA|JA|JHA|NYA|TTA|TTHA|DDA|DDHA|NNA|TA|THA|DA|DHA|NA|PA|PHA|BA|BHA|MA|YA|RA|LA|VA|SHA|SSA|SA|HA|LLA"]⟩,
  ⟨0x11630, "MODI VOWEL SIGN ", ["AA|I|II|U|UU|VOCALIC R|VOCALIC RR|VOCALIC L|VOCALIC LL|E|AI|O|AU"]⟩,
  ⟨0x1163d, "MODI ", ["SIGN ANUSVARA|SIGN VISARGA|SIGN VIRAMA|SIGN ARDHACANDRA|DANDA|DOUBLE DANDA",
    "ABBREVIATION SIGN|SIGN HUVA"]⟩,
  ⟨0x11650, "MODI DIGIT ", ["ZERO|ONE|TWO|THREE|FOUR|FIVE|SIX|SEVEN|EIGHT|NINE"]⟩,
  ⟨0x11660, "MONGOLIAN ", ["BIRGA WITH ORNAMENT|ROTATED BIRGA|DOUBLE BIRGA WITH ORNAMENT",
    "TRIPLE BIRGA WITH ORNAMENT|BIRGA WITH DOUBLE ORNAMENT|ROTATED BIRGA WITH ORNAMENT",
    "ROTATED BIRGA WITH DOUBLE ORNAMENT|INVERTED BIRGA|INVERTED BIRGA WITH DOUBLE ORNAMENT|SWIRL BIRGA",
    "SWIRL BIRGA WITH ORNAMENT|SWIRL BIRGA WITH DOUBLE ORNAMENT|TURNED SWIRL BIRGA WITH DOUBLE ORNAMENT"]⟩,
  ⟨0x11680, "TAKRI LETTER ", ["A|AA|I|II|U|UU|E|AI|O|AU|KA|KHA|GA|GHA|NGA|CA|CHA|JA|JHA|NYA|TTA|TTHA|DDA|DDHA|NNA",
    "TA|THA|DA|DHA|NA|PA|PHA|BA|BHA|MA|YA|RA|LA|VA|SHA|SA|HA|RRA"]⟩,
  ⟨0x116ab, "TAKRI SIGN ", ["ANUSVARA|VISARGA"]⟩,
  ⟨0x116ad, "TAKRI VOWEL SIGN ", ["AA|I|II|U|UU|E|AI|O|AU"]⟩,
  ⟨0x116b6, "TAKRI ", ["SIGN VIRAMA|SIGN NUKTA|LETTER ARCHAIC KHA|ABBREVIATION SIGN"]⟩,
  ⟨0x116c0, "TAKRI DIGIT ", ["ZERO|ONE|TWO|THREE|FOUR|FIVE|SIX|SEVEN|EIGHT|NINE"]⟩,
  ⟨0x11700, "AHOM LETTER ", ["KA|KHA|NGA|NA|TA|ALTERNATE TA|PA|PHA|BA|MA|JA|CHA|THA|RA|LA|SA|NYA|HA|A|DA|DHA|GA",
    "ALTERNATE GA|GHA|BHA|JHA|ALTERNATE BA"]⟩,
  ⟨0x1171d, "AHOM CONSONANT SIGN MEDIAL ", ["LA|RA|LIGATING RA"]⟩,
  ⟨0x11720, "AHOM VOWEL SIGN ", ["A|AA|I|II|U|UU|E|AW|O|AI|AM"]⟩,
  ⟨0x1172b, "AHOM ", ["SIGN KILLER|||||DIGIT ZERO|DIGIT ONE|DIGIT TWO|DIGIT THREE|DIGIT FOUR|DIGIT FIVE|DIGIT SIX",
    "DIGIT SEVEN|DIGIT EIGHT|DIGIT NINE|NUMBER TEN|NUMBER TWENTY|SIGN SMALL SECTION|SIGN SECTION|SIGN RULAI",
    "SYMBOL VI|LETTER CA|LETTER TTA|LETTER TTHA|LETTER DDA|LETTER DDHA|LETTER NNA|LETTER LLA"]⟩,
  ⟨0x11800, "DOGRA LETTER ", ["A|AA|I|II|U|UU|E|AI|O|AU|KA|KHA|GA|GHA|NGA|CA|CHA|JA|JHA|NYA|TTA|TTHA|DDA|DDHA|NNA",
    "TA|THA|DA|DHA|NA|PA|PHA|BA|BHA|MA|YA|RA|LA|VA|SHA|SSA|SA|HA|RRA"]⟩,
  ⟨0x1182c, "DOGRA VOWEL SIGN ", ["AA|I|II|U|UU|VOCALIC R|VOCALIC RR|E|AI|O|AU"]⟩,
  ⟨0x11837, "DOGRA ", ["SIGN ANUSVARA|SIGN VISARGA|SIGN VIRAMA|SIGN NUKTA|ABBREVIATION SIGN"]⟩,
  ⟨0x118a0, "WARANG CITI CAPITAL LETTER ", ["NGAA|A|WI|YU|YA|YO|II|UU|E|O|ANG|GA|KO|ENY|YUJ|UC|ENN|ODD|TTE|NUNG|DA",
    "AT|AM|BU|PU|HIYO|HOLO|HORR|HAR|SSUU|SII|VIYO"]⟩,
  ⟨0x118c0, "WARANG CITI SMALL LETTER ", ["NGAA|A|WI|YU|YA|YO|II|UU|E|O|ANG|GA|KO|ENY|YUJ|UC|ENN|ODD|TTE|NUNG|DA",
    "AT|AM|BU|PU|HIYO|HOLO|HORR|HAR|SSUU|SII|VIYO"]⟩,
  ⟨0x118e0, "WARANG CITI DIGIT ", ["ZERO|ONE|TWO|THREE|FOUR|FIVE|SIX|SEVEN|EIGHT|NINE"]⟩,
  ⟨0x118ea, "WARANG CITI NUMBER ", ["TEN|TWENTY|THIRTY|FORTY|FIFTY|SIXTY|SEVENTY|EIGHTY|NINETY"]⟩,
  ⟨0x118ff, "", ["WARANG CITI OM"]⟩,
  ⟨0x11900, "DIVES AKURU LETTER ", ["A|AA|I|II|U|UU|E|||O|||KA|KHA|GA|GHA|NGA|CA|CHA|JA||NYA|TTA||DDA|DDHA|NNA|TA",
    "THA|DA|DHA|NA|PA|PHA|BA|BHA|MA|YA|YYA|RA|LA|VA|SHA|SSA|SA|HA|LLA|ZA"]⟩,
  ⟨0x11930, "DIVES AKURU VOWEL SIGN ", ["AA|I|II|U|UU|E||AI|O"]⟩,
  ⟨0x1193b, "DIVES AKURU ", ["SIGN ANUSVARA|SIGN CANDRABINDU|SIGN HALANTA|VIRAMA|PREFIXED NASAL SIGN|MEDIAL YA",
    "INITIAL RA|MEDIAL RA|SIGN NUKTA|DOUBLE DANDA|GAP FILLER|END OF TEXT MARK"]⟩,
  ⟨0x11950, "DIVES AKURU DIGIT ", ["ZERO|ONE|TWO|THREE|FOUR|FIVE|SIX|SEVEN|EIGHT|NINE"]⟩,
  ⟨0x119a0, "NANDINAGARI LETTER ", ["A|AA|I|II|U|UU|VOCALIC R|VOCALIC RR|||E|AI|O|AU|KA|KHA|GA|GHA|NGA|CA|CHA|JA",
    "JHA|NYA|TTA|TTHA|DDA|DDHA|NNA|TA|THA|DA|DHA|NA|PA|PHA|BA|BHA|MA|YA|RA|LA|VA|SHA|SSA|SA|HA|LLA|RRA"]⟩,
  ⟨0x119d1, "NANDINAGARI VOWEL SIGN ", ["AA|I|II|U|UU|VOCALIC R|VOCALIC RR|||E|AI|O|AU"]⟩,
  ⟨0x119de, "NANDINAGARI ", ["SIGN ANUSVARA|SIGN VISARGA|SIGN VIRAMA|SIGN AVAGRAHA|SIGN SIDDHAM|HEADSTROKE",
    "VOWEL SIGN PRISHTHAMATRA E"]⟩,
  ⟨0x11a00, "ZANABAZAR SQUARE ", ["LETTER A|VOWEL SIGN I|VOWEL SIGN UE|VOWEL SIGN U|VOWEL SIGN E|VOWEL SIGN OE",
    "VOWEL SIGN O|VOWEL SIGN AI|VOWEL SIGN AU|VOWEL SIGN REVERSED I|VOWEL LENGTH MARK"]⟩,
  ⟨0x11a0b, "ZANABAZAR SQUARE LETTER ", ["KA|KHA|GA|GHA|NGA|CA|CHA|JA|NYA|TTA|TTHA|DDA|DDHA|NNA|TA|THA|DA|DHA|NA",
    "PA|PHA|BA|BHA|MA|TSA|TSHA|DZA|DZHA|ZHA|ZA|-A|YA|RA|LA|VA|SHA|SSA|SA|HA|KSSA"]⟩,
  ⟨0x11a33, "ZANABAZAR SQUARE ", ["FINAL CONSONANT MARK|SIGN VIRAMA|SIGN CANDRABINDU",
    "SIGN CANDRABINDU WITH ORNAMENT|SIGN CANDRA WITH ORNAMENT|SIGN ANUSVARA|SIGN VISARGA|CLUSTER-INITIAL LETTER RA",
    "CLUSTER-FINAL LETTER YA|CLUSTER-FINAL LETTER RA|CLUSTER-FINAL LETTER LA|CLUSTER-FINAL LETTER VA",
    "INITIAL HEAD MARK|CLOSING HEAD MARK|MARK TSHEG|MARK SHAD|MARK DOUBLE SHAD|MARK LONG TSHEG",
    "INITIAL DOUBLE-LINED HEAD MARK|CLOSING DOUBLE-LINED HEAD MARK|SUBJOINER"]⟩,
  ⟨0x11a50, "", ["SOYOMBO LETTER A"]⟩,
  ⟨0x11a51, "SOYOMBO VOWEL ", ["SIGN I|SIGN UE|SIGN U|SIGN E|SIGN O|SIGN OE|SIGN AI|SIGN AU|SIGN VOCALIC R",
    "SIGN VOCALIC L|LENGTH MARK"]⟩,
  ⟨0x11a5c, "SOYOMBO LETTER ", ["KA|KHA|GA|GHA|NGA|CA|CHA|JA|JHA|NYA|TTA|TTHA|DDA|DDHA|NNA|TA|THA|DA|DHA|NA|PA|PHA",
    "BA|BHA|MA|TSA|TSHA|DZA|ZHA|ZA|-A|YA|RA|LA|VA|SHA|SSA|SA|HA|KSSA"]⟩,
  ⟨0x11a84, "SOYOMBO SIGN ", ["JIHVAMULIYA|UPADHMANIYA"]⟩,
  ⟨0x11a86, "SOYOMBO CLUSTER-INITIAL LETTER ", ["RA|LA|SHA|SA"]⟩,
  ⟨0x11a8a, "SOYOMBO FINAL CONSONANT SIGN ", ["G|K|NG|D|N|B|M|R|L|SH|S|-A"]⟩,
  ⟨0x11a96, "SOYOMBO ", ["SIGN ANUSVARA|SIGN VISARGA|GEMINATION MARK|SUBJOINER|MARK TSHEG|MARK SHAD",
    "MARK DOUBLE SHAD|MARK PLUTA|HEAD MARK WITH MOON AND SUN AND TRIPLE FLAME",
    "HEAD MARK WITH MOON AND SUN AND FLAME|HEAD MARK WITH MOON AND SUN|TERMINAL MARK-1|TERMINAL MARK-2"]⟩,
  ⟨0x11ab0, "CANADIAN SYLLABICS NATTILIK ", ["HI|HII|HO|HOO|HA|HAA|SHRI|SHRII|SHRO|SHROO|SHRA|SHRAA"]⟩,
  ⟨0x11abc, "CANADIAN SYLLABICS SP", ["E|I|O|A"]⟩,
  ⟨0x11ac0, "PAU CIN HAU LETTER ", ["PA|KA|LA|MA|DA|ZA|VA|NGA|HA|GA|KHA|SA|BA|CA|TA|THA|NA|PHA|RA|FA|CHA|A|E|I|O|U",
    "UA|IA|FINAL P|FINAL K|FINAL T|FINAL M|FINAL N|FINAL L|FINAL W|FINAL NG|FINAL Y"]⟩,
  ⟨0x11ae5, "PAU CIN HAU ", ["RISING TONE LONG|RISING TONE|SANDHI GLOTTAL STOP|RISING TONE LONG FINAL",
    "RISING TONE FINAL|SANDHI GLOTTAL STOP FINAL|SANDHI TONE LONG|SANDHI TONE|SANDHI TONE LONG FINAL",
    "SANDHI TONE FINAL|MID-LEVEL TONE|GLOTTAL STOP VARIANT|MID-LEVEL TONE LONG FINAL|MID-LEVEL TONE FINAL",
    "LOW-FALLING TONE LONG|LOW-FALLING TONE|GLOTTAL STOP|LOW-FALLING TONE LONG FINAL|LOW-FALLING TONE FINAL",
    "GLOTTAL STOP FINAL"]⟩,
  ⟨0x11c00, "BHAIKSUKI LETTER ", ["A|AA|I|II|U|UU|VOCALIC R|VOCALIC RR|VOCALIC L||E|AI|O|AU|KA|KHA|GA|GHA|NGA|CA",
    "CHA|JA|JHA|NYA|TTA|TTHA|DDA|DDHA|NNA|TA|THA|DA|DHA|NA|PA|PHA|BA|BHA|MA|YA|RA|LA|VA|SHA|SSA|SA|HA"]⟩,
  ⟨0x11c2f, "BHAIKSUKI VOWEL SIGN ", ["AA|I|II|U|UU|VOCALIC R|VOCALIC RR|VOCALIC L||E|AI|O|AU"]⟩,
  ⟨0x11c3c, "BHAIKSUKI ", ["SIGN CANDRABINDU|SIGN ANUSVARA|SIGN VISARGA|SIGN VIRAMA|SIGN AVAGRAHA|DANDA",
    "DOUBLE DANDA|WORD SEPARATOR|GAP FILLER-1|GAP FILLER-2"]⟩,
  ⟨0x11c50, "BHAIKSUKI DIGIT ", ["ZERO|ONE|TWO|THREE|FOUR|FIVE|SIX|SEVEN|EIGHT|NINE"]⟩,
  ⟨0x11c5a, "BHAIKSUKI NUMBER ", ["ONE|TWO|THREE|FOUR|FIVE|SIX|SEVEN|EIGHT|NINE|TEN|TWENTY|THIRTY|FORTY|FIFTY",
    "SIXTY|SEVENTY|EIGHTY|NINETY"]⟩,
  ⟨0x11c6c, "", ["BHAIKSUKI HUNDREDS UNIT MARK||||MARCHEN HEAD MARK|MARCHEN MARK SHAD"]⟩,
  ⟨0x11c72, "MARCHEN LETTER ", ["KA|KHA|GA|NGA|CA|CHA|JA|NYA|TA|THA|DA|NA|PA|PHA|BA|MA|TSA|TSHA|DZA|WA|ZHA|ZA|-A",
    "YA|RA|LA|SHA|SA|HA|A"]⟩,
  ⟨0x11c92, "MARCHEN SUBJOINED LETTER ", ["KA|KHA|GA|NGA|CA|CHA|JA|NYA|TA|THA|DA|NA|PA|PHA|BA|MA|TSA|TSHA|DZA|WA",
    "ZHA|ZA||YA|RA|LA|SHA|SA|HA|A"]⟩,
  ⟨0x11cb0, "MARCHEN VOWEL SIGN ", ["AA|I|U|E|O"]⟩,
  ⟨0x11cb5, "MARCHEN SIGN ", ["ANUSVARA|CANDRABINDU"]⟩,
  ⟨0x11d00, "MASARAM GONDI LETTER ", ["A|AA|I|II|U|UU|E||AI|O||AU|KA|KHA|GA|GHA|NGA|CA|CHA|JA|JHA|NYA|TTA|TTHA|DDA",
    "DDHA|NNA|TA|THA|DA|DHA|NA|PA|PHA|BA|BHA|MA|YA|RA|LA|VA|SHA|SSA|SA|HA|LLA|KSSA|JNYA|TRA"]⟩,
  ⟨0x11d31, "MASARAM GONDI VOWEL SIGN ", ["AA|I|II|U|UU|VOCALIC R||||E||AI|O||AU"]⟩,
  ⟨0x11d40, "MASARAM GONDI ", ["SIGN ANUSVARA|SIGN VISARGA|SIGN NUKTA|SIGN CANDRA|SIGN HALANTA|VIRAMA|REPHA",
    "RA-KARA"]⟩,
  ⟨0x11d50, "MASARAM GONDI DIGIT ", ["ZERO|ONE|TWO|THREE|FOUR|FIVE|SIX|SEVEN|EIGHT|NINE"]⟩,
  ⟨0x11d60, "GUNJALA GONDI LETTER ", ["A|AA|I|II|U|UU||EE|AI||OO|AU|YA|VA|BA|BHA|MA|KA|KHA|TA|THA|LA|GA|GHA|DA|DHA",
    "NA|CA|CHA|TTA|TTHA|LLA|JA|JHA|DDA|DDHA|NGA|PA|PHA|HA|RA|SA"]⟩,
  ⟨0x11d8a, "GUNJALA GONDI VOWEL SIGN ", ["AA|I|II|U|UU||EE|AI||OO|AU"]⟩,
  ⟨0x11d95, "GUNJALA GONDI ", ["SIGN ANUSVARA|SIGN VISARGA|VIRAMA|OM"]⟩,
  ⟨0x11da0, "GUNJALA GONDI DIGIT ", ["ZERO|ONE|TWO|THREE|FOUR|FIVE|SIX|SEVEN|EIGHT|NINE"]⟩,
  ⟨0x11ee0, "MAKASAR LETTER ", ["KA|GA|NGA|PA|BA|MA|TA|DA|NA|CA|JA|NYA|YA|RA|LA|VA|SA|A"]⟩,
  ⟨0x11ef2, "MAKASAR ", ["ANGKA|VOWEL SIGN I|VOWEL SIGN U|VOWEL SIGN E|VOWEL SIGN O|PASSIMBANG|END OF SECTION"]⟩,
  ⟨0x11fb0, "", ["LISU LETTER YHA"]⟩,
  ⟨0x11fc0, "TAMIL FRACTION ", ["ONE THREE-HUNDRED-AND-TWENTIETH|ONE ONE-HUNDRED-AND-SIXTIETH|ONE EIGHTIETH",
    "ONE SIXTY-FOURTH|ONE FORTIETH|ONE THIRTY-SECOND|THREE EIGHTIETHS|THREE SIXTY-FOURTHS|ONE TWENTIETH",
    "ONE SIXTEENTH-1|ONE SIXTEENTH-2|ONE TENTH|ONE EIGHTH|THREE TWENTIETHS|THREE SIXTEENTHS|ONE FIFTH|ONE QUARTER",
    "ONE HALF-1|ONE HALF-2|THREE QUARTERS|DOWNSCALING FACTOR KIIZH"]⟩,
  ⟨0x11fd5, "TAMIL SIGN ", ["NEL|CEVITU|AAZHAAKKU|UZHAKKU|MUUVUZHAKKU|KURUNI|PATHAKKU|MUKKURUNI|KAACU|PANAM|PON",
    "VARAAKAN|PAARAM|KUZHI|VELI"]⟩,
  ⟨0x11fe4, "TAMIL ", ["WET CULTIVATION SIGN|DRY CULTIVATION SIGN|LAND SIGN|SALT PAN SIGN|TRADITIONAL CREDIT SIGN",
    "TRADITIONAL NUMBER SIGN|CURRENT SIGN|AND ODD SIGN|SPENT SIGN|TOTAL SIGN|IN POSSESSION SIGN|STARTING FROM SIGN",
    "SIGN MUTHALIYA|SIGN VAKAIYARAA"]⟩,
  ⟨0x11fff, "", ["TAMIL PUNCTUATION END OF TEXT"]⟩,
  ⟨0x12000, "CUNEIFORM SIGN ", ["A|A TIMES A|A TIMES BAD|A TIMES GAN2 TENU|A TIMES HA|A TIMES IGI",
    "A TIMES LAGAR GUNU|A TIMES MUSH|A TIMES SAG|A2|AB|AB TIMES ASH2|AB TIMES DUN3 GUNU|AB TIMES GAL",
    "AB TIMES GAN2 TENU|AB TIMES HA|AB TIMES IGI GUNU|AB TIMES IMIN|AB TIMES LAGAB|AB TIMES SHESH",
    "AB TIMES U PLUS U PLUS U|AB GUNU|AB2|AB2 TIMES BALAG|AB2 TIMES GAN2 TENU|AB2 TIMES ME PLUS EN|AB2 TIMES SHA3",
    "AB2 TIMES TAK4|AD|AK|AK TIMES ERIN2|AK TIMES SHITA PLUS GISH|AL|AL TIMES AL|AL TIMES DIM2|AL TIMES GISH",
    "AL TIMES HA|AL TIMES KAD3|AL TIMES KI|AL TIMES SHE|AL TIMES USH|ALAN|ALEPH|AMAR|AMAR TIMES SHE|AN|AN OVER AN",
    "AN THREE TIMES|AN PLUS NAGA OPPOSING AN PLUS NAGA|AN PLUS NAGA SQUARED|ANSHE|APIN|ARAD|ARAD TIMES KUR|ARKAB",
    "ASAL2|ASH|ASH ZIDA TENU|ASH KABA TENU|ASH OVER ASH TUG2 OVER TUG2 TUG2 OVER TUG2 PAP|ASH OVER ASH OVER ASH",
    "ASH OVER ASH OVER ASH CROSSING ASH OVER ASH OVER ASH|ASH2|ASHGAB|BA|BAD|BAG3|BAHAR2|BAL|BAL OVER BAL|BALAG",
    "BAR|BARA2|BI|BI TIMES A|BI TIMES GAR|BI TIMES IGI GUNU|BU|BU OVER BU AB|BU OVER BU UN|BU CROSSING BU|BULUG",
    "BULUG OVER BULUG|BUR|BUR2|DA|DAG"]⟩,
  ⟨0x12057, "CUNEIFORM SIGN DAG KISIM5 TIMES ", ["A PLUS MASH|AMAR|BALAG|BI|GA|GA PLUS MASH|GI|GIR2|GUD|HA|IR",
    "IR PLUS LU|KAK|LA|LU|LU PLUS MASH2|LUM|NE|PAP PLUS PAP|SI|TAK4|U2 PLUS GIR2|USH"]⟩,
  ⟨0x1206e, "CUNEIFORM SIGN ", ["DAM|DAR|DARA3|DARA4|DI|DIB|DIM|DIM TIMES SHE|DIM2|DIN|DIN KASKAL U GUNU DISH|DISH",
    "DU|DU OVER DU|DU GUNU|DU SHESHIG|DUB|DUB TIMES ESH2|DUB2|DUG|DUGUD|DUH|DUN|DUN3|DUN3 GUNU|DUN3 GUNU GUNU|DUN4",
    "DUR2|E|E TIMES PAP|E OVER E NUN OVER NUN|E2|E2 TIMES A PLUS HA PLUS DA|E2 TIMES GAR|E2 TIMES MI|E2 TIMES SAL",
    "E2 TIMES SHE|E2 TIMES U|EDIN|EGIR|EL|EN|EN TIMES GAN2|EN TIMES GAN2 TENU|EN TIMES ME|EN CROSSING EN",
    "EN OPPOSING EN|EN SQUARED|EREN|ERIN2|ESH2|EZEN"]⟩,
  ⟨0x120a2, "CUNEIFORM SIGN EZEN TIMES ", ["A|A PLUS LAL|A PLUS LAL TIMES LAL|AN|BAD|DUN3 GUNU|DUN3 GUNU GUNU|HA",
    "HA GUNU|IGI GUNU|KASKAL|KASKAL SQUARED|KU3|LA|LAL TIMES LAL|LI|LU|U2|UD"]⟩,
  ⟨0x120b5, "CUNEIFORM SIGN G", ["A|A GUNU|A2"]⟩,
  ⟨0x120b8, "CUNEIFORM SIGN GA2 TIMES ", ["A PLUS DA PLUS HA|A PLUS HA|A PLUS IGI|AB2 TENU PLUS TAB|AN|ASH",
    "ASH2 PLUS GAL|BAD|BAR PLUS RA|BUR|BUR PLUS RA|DA|DI|DIM TIMES SHE|DUB|EL|EL PLUS LA|EN|EN TIMES GAN2 TENU",
    "GAN2 TENU|GAR|GI|GI4|GI4 PLUS A|GIR2 PLUS SU|HA PLUS LU PLUS ESH2|HAL|HAL PLUS LA|HI PLUS LI|HUB2|IGI GUNU",
    "ISH PLUS HU PLUS ASH|KAK|KASKAL|KID|KID PLUS LAL|KU3 PLUS AN|LA|ME PLUS EN|MI|NUN|NUN OVER NUN|PA|SAL|SAR|SHE",
    "SHE PLUS TUR|SHID|SUM|TAK4|U|UD|UD PLUS DU"]⟩,
  ⟨0x120ed, "CUNEIFORM SIGN G", ["A2 OVER GA2|ABA|ABA CROSSING GABA|AD|AD OVER GAD GAR OVER GAR|AL",
    "AL GAD OVER GAD GAR OVER GAR|ALAM|AM|AN|AN2|AN2 TENU|AN2 OVER GAN2|AN2 CROSSING GAN2|AR|AR3|ASHAN|ESHTIN",
    "ESHTIN TIMES KUR|I|I TIMES E|I TIMES U|I CROSSING GI|I4|I4 OVER GI4|I4 CROSSING GI4|IDIM|IR2|IR2 GUNU|IR3",
    "IR3 TIMES A PLUS IGI|IR3 TIMES GAN2 TENU|IR3 TIMES IGI|IR3 TIMES LU PLUS IGI|IR3 TIMES PA|ISAL|ISH",
    "ISH CROSSING GISH|ISH TIMES BAD|ISH TIMES TAK4|ISH TENU|U|U CROSSING GU|U2|U2 TIMES KAK",
    "U2 TIMES KAK TIMES IGI GUNU|U2 TIMES NUN|U2 TIMES SAL PLUS TUG2|U2 GUNU|UD|UD TIMES A PLUS KUR|UD TIMES KUR",
    "UD OVER GUD LUGAL|UL|UM|UM TIMES SHE|UR|UR7|URUN|URUSH"]⟩,
  ⟨0x12129, "CUNEIFORM SIGN ", ["HA|HA TENU|HA GUNU|HAL|HI|HI TIMES ASH|HI TIMES ASH2|HI TIMES BAD|HI TIMES DISH",
    "HI TIMES GAD|HI TIMES KIN|HI TIMES NUN|HI TIMES SHE|HI TIMES U|HU|HUB2|HUB2 TIMES AN|HUB2 TIMES HAL",
    "HUB2 TIMES KASKAL|HUB2 TIMES LISH|HUB2 TIMES UD|HUL2|I|I A|IB|IDIM|IDIM OVER IDIM BUR|IDIM OVER IDIM SQUARED",
    "IG|IGI|IGI DIB|IGI RI|IGI OVER IGI SHIR OVER SHIR UD OVER UD|IGI GUNU|IL|IL TIMES GAN2 TENU|IL2|IM",
    "IM TIMES TAK4|IM CROSSING IM|IM OPPOSING IM|IM SQUARED|IMIN|IN|IR|ISH|KA"]⟩,
  ⟨0x12158, "CUNEIFORM SIGN KA TIMES ", ["A|AD|AD PLUS KU3|ASH2|BAD|BALAG|BAR|BI|ERIN2|ESH2|GA|GAL|GAN2 TENU|GAR",
    "GAR PLUS SHA3 PLUS A|GI|GIR2|GISH PLUS SAR|GISH CROSSING GISH|GU|GUR7|IGI|IM|KAK|KI|KID|LI|LU|ME|ME PLUS DU",
    "ME PLUS GI|ME PLUS TE|MI|MI PLUS NUNUZ|NE|NUN|PI|RU|SA|SAR|SHA|SHE|SHID|SHU|SIG|SUHUR|TAR|U|U2|UD",
    "UMUM TIMES PA|USH|ZI"]⟩,
  ⟨0x1218d, "CUNEIFORM SIGN ", ["KA2|KA2 CROSSING KA2|KAB|KAD2|KAD3|KAD4|KAD5|KAD5 OVER KAD5|KAK",
    "KAK TIMES IGI GUNU|KAL|KAL TIMES BAD|KAL CROSSING KAL|KAM2|KAM4|KASKAL",
    "KASKAL LAGAB TIMES U OVER LAGAB TIMES U|KASKAL OVER KASKAL LAGAB TIMES U OVER LAGAB TIMES U|KESH2|KI",
    "KI TIMES BAD|KI TIMES U|KI TIMES UD|KID|KIN|KISAL|KISH|KISIM5|KISIM5 OVER KISIM5|KU",
    "KU OVER HI TIMES ASH2 KU OVER HI TIMES ASH2|KU3|KU4|KU4 VARIANT FORM|KU7|KUL|KUL GUNU|KUN|KUR",
    "KUR OPPOSING KUR|KUSHU2|KWU318|LA|LAGAB"]⟩,
  ⟨0x121b9, "CUNEIFORM SIGN LAGAB TIMES ", ["A|A PLUS DA PLUS HA|A PLUS GAR|A PLUS LAL|AL|AN|ASH ZIDA TENU|BAD|BI",
    "DAR|EN|GA|GAR|GUD|GUD PLUS GUD|HA|HAL|HI TIMES NUN|IGI GUNU|IM|IM PLUS HA|IM PLUS LU|KI|KIN|KU3|KUL",
    "KUL PLUS HI PLUS A|LAGAB|LISH|LU|LUL|ME|ME PLUS EN|MUSH|NE|SHE PLUS SUM|SHITA PLUS GISH PLUS ERIN2",
    "SHITA PLUS GISH TENU|SHU2|SHU2 PLUS SHU2|SUM|TAG|TAK4|TE PLUS A PLUS SU PLUS NA|U|U PLUS A|U PLUS U PLUS U",
    "U2 PLUS ASH|UD|USH"]⟩,
  ⟨0x121eb, "CUNEIFORM SIGN L", ["AGAB SQUARED|AGAR|AGAR TIMES SHE|AGAR TIMES SHE PLUS SUM|AGAR GUNU",
    "AGAR GUNU OVER LAGAR GUNU SHE|AHSHU|AL|AL TIMES LAL|AM|AM TIMES KUR|AM TIMES KUR PLUS RU|I|IL|IMMU2|ISH|U",
    "U TIMES BAD|U2"]⟩,
  ⟨0x121fe, "CUNEIFORM SIGN LU2 TIMES ", ["AL|BAD|ESH2|ESH2 TENU|GAN2 TENU|HI TIMES BAD|IM|KAD2|KAD3|KAD3 PLUS ASH",
    "KI|LA PLUS ASH|LAGAB|ME PLUS EN|NE|NU|SI PLUS ASH|SIK2 PLUS BU|TUG2"]⟩,
  ⟨0x12211, "CUNEIFORM SIGN ", ["LU2 TENU|LU2 CROSSING LU2|LU2 OPPOSING LU2|LU2 SQUARED|LU2 SHESHIG|LU3|LUGAL",
    "LUGAL OVER LUGAL|LUGAL OPPOSING LUGAL|LUGAL SHESHIG|LUH|LUL|LUM|LUM OVER LUM|LUM OVER LUM GAR OVER GAR|MA",
    "MA TIMES TAK4|MA GUNU|MA2|MAH|MAR|MASH|MASH2|ME|MES|MI|MIN|MU|MU OVER MU|MUG|MUG GUNU|MUNSUB|MURGU2|MUSH",
    "MUSH TIMES A|MUSH TIMES KUR|MUSH TIMES ZA|MUSH OVER MUSH|MUSH OVER MUSH TIMES A PLUS NA|MUSH CROSSING MUSH",
    "MUSH3|MUSH3 TIMES A|MUSH3 TIMES A PLUS DI|MUSH3 TIMES DI|MUSH3 GUNU|NA|NA2|NAGA|NAGA INVERTED",
    "NAGA TIMES SHU TENU|NAGA OPPOSING NAGA|NAGAR|NAM NUTILLU|NAM|NAM2|NE|NE TIMES A|NE TIMES UD|NE SHESHIG|NI",
    "NI TIMES E|NI2|NIM|NIM TIMES GAN2 TENU|NIM TIMES GAR PLUS GAN2 TENU|NINDA2"]⟩,
  ⟨0x12253, "CUNEIFORM SIGN NINDA2 TIMES ", ["AN|ASH|ASH PLUS ASH|GUD|ME PLUS GAN2 TENU|NE|NUN|SHE|SHE PLUS A AN",
    "SHE PLUS ASH|SHE PLUS ASH PLUS ASH|U2 PLUS ASH|USH"]⟩,
  ⟨0x12260, "CUNEIFORM SIGN N", ["ISAG|U|U11|UN|UN LAGAR TIMES GAR|UN LAGAR TIMES MASH|UN LAGAR TIMES SAL",
    "UN LAGAR TIMES SAL OVER NUN LAGAR TIMES SAL|UN LAGAR TIMES USH|UN TENU|UN OVER NUN|UN CROSSING NUN",
    "UN CROSSING NUN LAGAR OVER LAGAR|UNUZ"]⟩,
  ⟨0x1226e, "CUNEIFORM SIGN NUNUZ AB2 TIMES ", ["ASHGAB|BI|DUG|GUD|IGI GUNU|KAD3|LA|NE|SILA3|U2"]⟩,
  ⟨0x12278, "CUNEIFORM SIGN ", ["NUNUZ KISIM5 TIMES BI|NUNUZ KISIM5 TIMES BI U|PA|PAD|PAN|PAP|PESH2|PI|PI TIMES A",
    "PI TIMES AB|PI TIMES BI|PI TIMES BU|PI TIMES E|PI TIMES I|PI TIMES IB|PI TIMES U|PI TIMES U2|PI CROSSING PI",
    "PIRIG|PIRIG TIMES KAL|PIRIG TIMES UD|PIRIG TIMES ZA|PIRIG OPPOSING PIRIG|RA|RAB|RI|RU|SA|SAG NUTILLU|SAG"]⟩,
  ⟨0x12296, "CUNEIFORM SIGN SAG TIMES ", ["A|DU|DUB|HA|KAK|KUR|LUM|MI|NUN|SAL|SHID|TAB|U2|UB|UM|UR|USH"]⟩,
  ⟨0x122a7, "CUNEIFORM SIGN S", ["AG OVER SAG|AG GUNU|AL|AL LAGAB TIMES ASH2|ANGA2|AR|HA|HA3|HA3 TIMES A",
    "HA3 TIMES BAD|HA3 TIMES GISH|HA3 TIMES NE|HA3 TIMES SHU2|HA3 TIMES TUR|HA3 TIMES U|HA3 TIMES U PLUS A|HA6",
    "HAB6|HAR2|HE|HE HU|HE OVER SHE GAD OVER GAD GAR OVER GAR|HE OVER SHE TAB OVER TAB GAR OVER GAR|HEG9|HEN|HESH",
    "HESH2|HESHLAM|HID|HID TIMES A|HID TIMES IM|HIM"]⟩,
  ⟨0x122c7, "CUNEIFORM SIGN SHIM TIMES ", ["A|BAL|BULUG|DIN|GAR|IGI|IGI GUNU|KUSHU2|LUL|MUG|SAL"]⟩,
  ⟨0x122d2, "CUNEIFORM SIGN ", ["SHINIG|SHIR|SHIR TENU|SHIR OVER SHIR BUR OVER BUR|SHITA|SHU|SHU OVER INVERTED SHU",
    "SHU2|SHUBUR|SI|SI GUNU|SIG|SIG4|SIG4 OVER SIG4 SHU2|SIK2|SILA3|SU|SU OVER SU|SUD|SUD2|SUHUR|SUM|SUMASH|SUR",
    "SUR9|TA|TA ASTERISK|TA TIMES HI|TA TIMES MI|TA GUNU|TAB|TAB OVER TAB NI OVER NI DISH OVER DISH|TAB SQUARED",
    "TAG|TAG TIMES BI|TAG TIMES GUD|TAG TIMES SHE|TAG TIMES SHU|TAG TIMES TUG2|TAG TIMES UD|TAK4|TAR|TE|TE GUNU|TI",
    "TI TENU|TIL|TIR|TIR TIMES TAK4|TIR OVER TIR|TIR OVER TIR GAD OVER GAD GAR OVER GAR|TU|TUG2|TUK|TUM|TUR",
    "TUR OVER TUR ZA OVER ZA|U|U GUD|U U U|U OVER U PA OVER PA GAR OVER GAR|U OVER U SUR OVER SUR",
    "U OVER U U REVERSED OVER U REVERSED|U2|UB|UD|UD KUSHU2|UD TIMES BAD|UD TIMES MI|UD TIMES U PLUS U PLUS U",
    "UD TIMES U PLUS U PLUS U GUNU|UD GUNU|UD SHESHIG|UD SHESHIG TIMES BAD|UDUG|UM|UM TIMES LAGAB",
    "UM TIMES ME PLUS DA|UM TIMES SHA3|UM TIMES U|UMBIN|UMUM|UMUM TIMES KASKAL|UMUM TIMES PA|UN|UN GUNU|UR",
    "UR CROSSING UR|UR SHESHIG|UR2|UR2 TIMES A PLUS HA|UR2 TIMES A PLUS NA|UR2 TIMES AL|UR2 TIMES HA|UR2 TIMES NUN",
    "UR2 TIMES U2|UR2 TIMES U2 PLUS ASH|UR2 TIMES U2 PLUS BI|UR4|URI|URI3|URU"]⟩,
  ⟨0x12338, "CUNEIFORM SIGN URU TIMES ", ["A|ASHGAB|BAR|DUN|GA|GAL|GAN2 TENU|GAR|GU|HA|IGI|IM|ISH|KI|LUM|MIN|PA",
    "SHE|SIG4|TU|U PLUS GUD|UD|URUDA"]⟩,
  ⟨0x1234f, "CUNEIFORM SIGN ", ["URUDA|URUDA TIMES U|USH|USH TIMES A|USH TIMES KU|USH TIMES KUR|USH TIMES TAK4",
    "USHX|USH2|USHUMX|UTUKI|UZ3|UZ3 TIMES KASKAL|UZU|ZA|ZA TENU|ZA SQUARED TIMES KUR|ZAG|ZAMX|ZE2|ZI|ZI OVER ZI",
    "ZI3|ZIB|ZIB KABA TENU|ZIG|ZIZ2|ZU|ZU5|ZU5 TIMES A|ZUBUR|ZUM|KAP ELAMITE|AB TIMES NUN|AB2 TIMES A",
    "AMAR TIMES KUG|DAG KISIM5 TIMES U2 PLUS MASH|DAG3|DISH PLUS SHU|DUB TIMES SHE|EZEN TIMES GUD|EZEN TIMES SHE",
    "GA2 TIMES AN PLUS KAK PLUS A|GA2 TIMES ASH2|GE22|GIG|HUSH|KA TIMES ANSHE|KA TIMES ASH3|KA TIMES GISH",
    "KA TIMES GUD|KA TIMES HI TIMES ASH2|KA TIMES LUM|KA TIMES PA|KA TIMES SHUL|KA TIMES TU|KA TIMES UR2",
    "LAGAB TIMES GI|LU2 SHESHIG TIMES BAD|LU2 TIMES ESH2 PLUS LAL|LU2 TIMES SHU|MESH|MUSH3 TIMES ZA|NA4|NIN|NIN9",
    "NINDA2 TIMES BAL|NINDA2 TIMES GI|NU11 ROTATED NINETY DEGREES|PESH2 ASTERISK|PIR2|SAG TIMES IGI GUNU|TI2",
    "UM TIMES ME|U U"]⟩,
  ⟨0x12400, "CUNEIFORM NUMERIC SIGN ", ["TWO ASH|THREE ASH|FOUR ASH|FIVE ASH|SIX ASH|SEVEN ASH|EIGHT ASH|NINE ASH",
    "THREE DISH|FOUR DISH|FIVE DISH|SIX DISH|SEVEN DISH|EIGHT DISH|NINE DISH|FOUR U|FIVE U|SIX U|SEVEN U|EIGHT U",
    "NINE U|ONE GESH2|TWO GESH2|THREE GESH2|FOUR GESH2|FIVE GESH2|SIX GESH2|SEVEN GESH2|EIGHT GESH2|NINE GESH2",
    "ONE GESHU|TWO GESHU|THREE GESHU|FOUR GESHU|FIVE GESHU|TWO SHAR2|THREE SHAR2|THREE SHAR2 VARIANT FORM",
    "FOUR SHAR2|FIVE SHAR2|SIX SHAR2|SEVEN SHAR2|EIGHT SHAR2|NINE SHAR2|ONE SHARU|TWO SHARU|THREE SHARU",
    "THREE SHARU VARIANT FORM|FOUR SHARU|FIVE SHARU|SHAR2 TIMES GAL PLUS DISH|SHAR2 TIMES GAL PLUS MIN|ONE BURU",
    "TWO BURU|THREE BURU|THREE BURU VARIANT FORM|FOUR BURU|FIVE BURU|THREE VARIANT FORM ESH16",
    "THREE VARIANT FORM ESH21|FOUR VARIANT FORM LIMMU|FOUR VARIANT FORM LIMMU4|FOUR VARIANT FORM LIMMU A",
    "FOUR VARIANT FORM LIMMU B|SIX VARIANT FORM ASH9|SEVEN VARIANT FORM IMIN3|SEVEN VARIANT FORM IMIN A",
    "SEVEN VARIANT FORM IMIN B|EIGHT VARIANT FORM USSU|EIGHT VARIANT FORM USSU3|NINE VARIANT FORM ILIMMU",
    "NINE VARIANT FORM ILIMMU3|NINE VARIANT FORM ILIMMU4|NINE VARIANT FORM ILIMMU A|TWO ASH TENU|THREE ASH TENU",
    "FOUR ASH TENU|FIVE ASH TENU|SIX ASH TENU|ONE BAN2|TWO BAN2|THREE BAN2|FOUR BAN2|FOUR BAN2 VARIANT FORM",
    "FIVE BAN2|FIVE BAN2 VARIANT FORM|NIGIDAMIN|NIGIDAESH|ONE ESHE3|TWO ESHE3|ONE THIRD DISH|TWO THIRDS DISH",
    "FIVE SIXTHS DISH|ONE THIRD VARIANT FORM A|TWO THIRDS VARIANT FORM A|ONE EIGHTH ASH|ONE QUARTER ASH",
    "OLD ASSYRIAN ONE SIXTH|OLD ASSYRIAN ONE QUARTER|ONE QUARTER GUR|ONE HALF GUR|ELAMITE ONE THIRD",
    "ELAMITE TWO THIRDS|ELAMITE FORTY|ELAMITE FIFTY|FOUR U VARIANT FORM|FIVE U VARIANT FORM|SIX U VARIANT FORM",
    "SEVEN U VARIANT FORM|EIGHT U VARIANT FORM|NINE U VARIANT FORM"]⟩,
  ⟨0x12470, "CUNEIFORM PUNCTUATION SIGN ", ["OLD ASSYRIAN WORD DIVIDER|VERTICAL COLON|DIAGONAL COLON",
    "DIAGONAL TRICOLON|DIAGONAL QUADCOLON"]⟩,
  ⟨0x12480, "CUNEIFORM SIGN ", ["AB TIMES NUN TENU|AB TIMES SHU2|AD TIMES ESH2|BAD TIMES DISH TENU",
    "BAHAR2 TIMES AB2|BAHAR2 TIMES NI|BAHAR2 TIMES ZA|BU OVER BU TIMES NA2|DA TIMES TAK4|DAG TIMES KUR",
    "DIM TIMES IGI|DIM TIMES U U U|DIM2 TIMES UD"]⟩,
  ⟨0x1248d, "CUNEIFORM SIGN DUG TIMES ", ["ANSHE|ASH|ASH AT LEFT|DIN|DUN|ERIN2|GA|GI|GIR2 GUNU|GISH|HA|HI|IGI GUNU",
    "KASKAL|KUR|KUSHU2|KUSHU2 PLUS KASKAL|LAK-020|LAM|LAM TIMES KUR|LUH PLUS GISH|MASH|MES|MI|NI|PI|SHE|SI GUNU"]⟩,
  ⟨0x124a9, "CUNEIFORM SIGN E", ["2 TIMES KUR|2 TIMES PAP|RIN2 X|SH2 CROSSING ESH2"]⟩,
  ⟨0x124ad, "CUNEIFORM SIGN EZEN SHESHIG TIMES ", ["ASH|HI|IGI GUNU|LA|LAL|ME|MES|SU"]⟩,
  ⟨0x124b5, "", ["CUNEIFORM SIGN EZEN TIMES SU"]⟩,
  ⟨0x124b6, "CUNEIFORM SIGN GA2 TIMES ", ["BAHAR2|DIM GUNU|DUG TIMES IGI GUNU|DUG TIMES KASKAL|EREN|GA|GAR PLUS DI",
    "GAR PLUS NE|HA PLUS A|KUSHU2 PLUS KASKAL|LAM|LAM TIMES KUR|LUH|MUSH|NE|NE PLUS E2|NE PLUS GI|SHIM|ZIZ2"]⟩,
  ⟨0x124c9, "CUNEIFORM SIGN ", ["GABA ROTATED NINETY DEGREES|GESHTIN TIMES U|GISH TIMES GISH CROSSING GISH",
    "GU2 TIMES IGI GUNU|GUD PLUS GISH TIMES TAK4|HA TENU GUNU|HI TIMES ASH OVER HI TIMES ASH|KA TIMES BU",
    "KA TIMES KA|KA TIMES U U U|KA TIMES UR|LAGAB TIMES ZU OVER ZU"]⟩,
  ⟨0x124d5, "CUNEIFORM SIGN LAK-", ["003|021|025|030|050|051|062|079 OVER LAK-079 GUNU|080|081 OVER LAK-081|092",
    "130|142|210|219|220|225|228|238|265|266|343|347|348|383|384|390|441|449|449 TIMES GU|449 TIMES IGI",
    "449 TIMES PAP PLUS LU3|449 TIMES PAP PLUS PAP PLUS LU3|449 TIMES U2 PLUS BA|450|457|470|483|490|492|493|495",
    "550|608|617|617 TIMES ASH|617 TIMES BAD|617 TIMES DUN3 GUNU GUNU|617 TIMES KU3|617 TIMES LA|617 TIMES TAR",
    "617 TIMES TE|617 TIMES U2|617 TIMES UD|617 TIMES URUDA|636|648"]⟩,
  ⟨0x1250e, "CUNEIFORM SIGN LAK-648 TIMES ", ["DUB|GA|IGI|IGI GUNU|NI|PAP PLUS PAP PLUS LU3|SHESH PLUS KI|UD",
    "URUDA"]⟩,
  ⟨0x12517, "CUNEIFORM SIGN ", ["LAK-724|LAK-749|LU2 GUNU TIMES ASH|LU2 TIMES DISH|LU2 TIMES HAL|LU2 TIMES PAP",
    "LU2 TIMES PAP PLUS PAP PLUS LU3|LU2 TIMES TAK4|MI PLUS ZA7|MUSH OVER MUSH TIMES GA|MUSH OVER MUSH TIMES KAK"]⟩,
  ⟨0x12522, "CUNEIFORM SIGN NINDA2 TIMES ", ["DIM GUNU|GISH|GUL|HI|KESH2|LAK-050|MASH|PAP PLUS PAP|U|U PLUS U",
    "URUDA"]⟩,
  ⟨0x1252d, "CUNEIFORM SIGN ", ["SAG GUNU TIMES HA|SAG TIMES EN|SAG TIMES SHE AT LEFT|SAG TIMES TAK4|SHA6 TENU",
    "SHE OVER SHE|SHE PLUS HUB2|SHE PLUS NAM2|SHE PLUS SAR|SHU2 PLUS DUG TIMES NI|SHU2 PLUS E2 TIMES AN",
    "SI TIMES TAK4|TAK4 PLUS SAG|TUM TIMES GAN2 TENU|TUM TIMES THREE DISH|UR2 INVERTED|UR2 TIMES UD",
    "URU TIMES DARA3|URU TIMES LAK-668|URU TIMES LU3|ZA7|ZU OVER ZU PLUS SAR|ZU5 TIMES THREE DISH TENU"]⟩,
  ⟨0x12f90, "CYPRO-MINOAN SIGN CM0", ["01|02|04|05|06|07|08|09|10|11|12|12B|13|15|17|19|21|23|24|25|26|27|28|29|30",
    "33|34|35|36|37|38|39|40|41|44|46|47|49|50|51|52|53|54|55|56|58|59|60|61|62|63|64|66|67|68|69|70|71|72|73|74",
    "75|75B|76|78|79|80|81|82|83|84|85|86|87|88|89|90|91|92|94|95|96|97|98|99"]⟩,
  ⟨0x12fe5, "CYPRO-MINOAN SIGN CM", ["100|101|102|103|104|105|107|108|109|110|112|114|301|302"]⟩,
  ⟨0x13000, "EGYPTIAN HIEROGLYPH A0", ["01|02|03|04|05|05A|06|06A|06B|07|08|09|10|11|12|13|14|14A|15|16|17|17A|18",
    "19|20|21|22|23|24|25|26|27|28|29|30|31|32|32A|33|34|35|36|37|38|39|40|40A|41|42|42A|43|43A|44|45|45A|46|47|48",
    "49|50|51|52|53|54|55|56|57|58|59|60|61|62|63|64|65|66|67|68|69|70"]⟩,
  ⟨0x13050, "EGYPTIAN HIEROGLYPH B00", ["1|2|3|4|5|5A|6|7|8|9"]⟩,
  ⟨0x1305a, "EGYPTIAN HIEROGLYPH C0", ["01|02|02A|02B|02C|03|04|05|06|07|08|09|10|10A|11|12|13|14|15|16|17|18|19",
    "20|21|22|23|24"]⟩,
  ⟨0x13076, "EGYPTIAN HIEROGLYPH D0", ["01|02|03|04|05|06|07|08|08A|09|10|11|12|13|14|15|16|17|18|19|20|21|22|23",
    "24|25|26|27|27A|28|29|30|31|31A|32|33|34|34A|35|36|37|38|39|40|41|42|43|44|45|46|46A|47|48|48A|49|50|50A|50B",
    "50C|50D|50E|50F|50G|50H|50I|51|52|52A|53|54|54A|55|56|57|58|59|60|61|62|63|64|65|66|67|67A|67B|67C|67D|67E",
    "67F|67G|67H"]⟩,
  ⟨0x130d2, "EGYPTIAN HIEROGLYPH E0", ["01|02|03|04|05|06|07|08|08A|09|09A|10|11|12|13|14|15|16|16A|17|17A|18|19",
    "20|20A|21|22|23|24|25|26|27|28|28A|29|30|31|32|33|34|34A|36|37|38"]⟩,
  ⟨0x130fe, "EGYPTIAN HIEROGLYPH F0", ["01|01A|02|03|04|05|06|07|08|09|10|11|12|13|13A|14|15|16|17|18|19|20|21|21A",
    "22|23|24|25|26|27|28|29|30|31|31A|32|33|34|35|36|37|37A|38|38A|39|40|41|42|43|44|45|45A|46|46A|47|47A|48|49",
    "50|51|51A|51B|51C|52|53"]⟩,
  ⟨0x1313f, "EGYPTIAN HIEROGLYPH G0", ["01|02|03|04|05|06|06A|07|07A|07B|08|09|10|11|11A|12|13|14|15|16|17|18|19",
    "20|20A|21|22|23|24|25|26|26A|27|28|29|30|31|32|33|34|35|36|36A|37|37A|38|39|40|41|42|43|43A|44|45|45A|46|47",
    "48|49|50|51|52|53|54"]⟩,
  ⟨0x1317f, "EGYPTIAN HIEROGLYPH ", ["H001|H002|H003|H004|H005|H006|H006A|H007|H008|I001|I002|I003|I004|I005|I005A",
    "I006|I007|I008|I009|I009A|I010|I010A|I011|I011A|I012|I013|I014|I015|K001|K002|K003|K004|K005|K006|K007|K008",
    "L001|L002|L002A|L003|L004|L005|L006|L006A|L007|L008"]⟩,
  ⟨0x131ad, "EGYPTIAN HIEROGLYPH M0", ["01|01A|01B|02|03|03A|04|05|06|07|08|09|10|10A|11|12|12A|12B|12C|12D|12E",
    "12F|12G|12H|13|14|15|15A|16|16A|17|17A|18|19|20|21|22|22A|23|24|24A|25|26|27|28|28A|29|30|31|31A|32|33|33A",
    "33B|34|35|36|37|38|39|40|40A|41|42|43|44"]⟩,
  ⟨0x131ef, "EGYPTIAN HIEROGLYPH N0", ["01|02|03|04|05|06|07|08|09|10|11|12|13|14|15|16|17|18|18A|18B|19|20|21|22",
    "23|24|25|25A|26|27|28|29|30|31|32|33|33A|34|34A|35|35A|36|37|37A|38|39|40|41|42"]⟩,
  ⟨0x13220, "EGYPTIAN HIEROGLYPH NL0", ["01|02|03|04|05|05A|06|07|08|09|10|11|12|13|14|15|16|17|17A|18|19|20"]⟩,
  ⟨0x13236, "EGYPTIAN HIEROGLYPH NU0", ["01|02|03|04|05|06|07|08|09|10|10A|11|11A|12|13|14|15|16|17|18|18A|19|20",
    "21|22|22A"]⟩,
  ⟨0x13250, "EGYPTIAN HIEROGLYPH O0", ["01|01A|02|03|04|05|05A|06|06A|06B|06C|06D|06E|06F|07|08|09|10|10A|10B|10C",
    "11|12|13|14|15|16|17|18|19|19A|20|20A|21|22|23|24|24A|25|25A|26|27|28|29|29A|30|30A|31|32|33|33A|34|35|36|36A",
    "36B|36C|36D|37|38|39|40|41|42|43|44|45|46|47|48|49|50|50A|50B|51"]⟩,
  ⟨0x1329b, "EGYPTIAN HIEROGLYPH ", ["P001|P001A|P002|P003|P003A|P004|P005|P006|P007|P008|P009|P010|P011|Q001|Q002",
    "Q003|Q004|Q005|Q006|Q007"]⟩,
  ⟨0x132af, "EGYPTIAN HIEROGLYPH R0", ["01|02|02A|03|03A|03B|04|05|06|07|08|09|10|10A|11|12|13|14|15|16|16A|17|18",
    "19|20|21|22|23|24|25|26|27|28|29"]⟩,
  ⟨0x132d1, "EGYPTIAN HIEROGLYPH S0", ["01|02|02A|03|04|05|06|06A|07|08|09|10|11|12|13|14|14A|14B|15|16|17|17A|18",
    "19|20|21|22|23|24|25|26|26A|26B|27|28|29|30|31|32|33|34|35|35A|36|37|38|39|40|41|42|43|44|45|46"]⟩,
  ⟨0x13307, "EGYPTIAN HIEROGLYPH T0", ["01|02|03|03A|04|05|06|07|07A|08|08A|09|09A|10|11|11A|12|13|14|15|16|16A|17",
    "18|19|20|21|22|23|24|25|26|27|28|29|30|31|32|32A|33|33A|34|35|36"]⟩,
  ⟨0x13333, "EGYPTIAN HIEROGLYPH U0", ["01|02|03|04|05|06|06A|06B|07|08|09|10|11|12|13|14|15|16|17|18|19|20|21|22",
    "23|23A|24|25|26|27|28|29|29A|30|31|32|32A|33|34|35|36|37|38|39|40|41|42"]⟩,
  ⟨0x13362, "EGYPTIAN HIEROGLYPH V0", ["01|01A|01B|01C|01D|01E|01F|01G|01H|01I|02|02A|03|04|05|06|07|07A|07B|08|09",
    "10|11|11A|11B|11C|12|12A|12B|13|14|15|16|17|18|19|20|20A|20B|20C|20D|20E|20F|20G|20H|20I|20J|20K|20L|21|22|23",
    "23A|24|25|26|27|28|28A|29|29A|30|30A|31|31A|32|33|33A|34|35|36|37|37A|38|39|40|40A"]⟩,
  ⟨0x133af, "EGYPTIAN HIEROGLYPH W0", ["01|02|03|03A|04|05|06|07|08|09|09A|10|10A|11|12|13|14|14A|15|16|17|17A|18",
    "18A|19|20|21|22|23|24|24A|25"]⟩,
  ⟨0x133cf, "EGYPTIAN HIEROGLYPH ", ["X001|X002|X003|X004|X004A|X004B|X005|X006|X006A|X007|X008|X008A|Y001|Y001A",
    "Y002|Y003|Y004|Y005|Y006|Y007|Y008|Z001|Z002|Z002A|Z002B|Z002C|Z002D|Z003|Z003A|Z003B|Z004|Z004A|Z005|Z005A",
    "Z006|Z007|Z008|Z009|Z010|Z011|Z012|Z013|Z014|Z015|Z015A|Z015B|Z015C|Z015D|Z015E|Z015F|Z015G|Z015H|Z015I|Z016",
    "Z016A|Z016B|Z016C|Z016D|Z016E|Z016F|Z016G|Z016H|AA001|AA002|AA003|AA004|AA005|AA006|AA007|AA007A|AA007B|AA008",
    "AA009|AA010|AA011|AA012|AA013|AA014|AA015|AA016|AA017|AA018|AA019|AA020|AA021|AA022|AA023|AA024|AA025|AA026",
    "AA027|AA028|AA029|AA030|AA031|AA032||VERTICAL JOINER|HORIZONTAL JOINER|INSERT AT TOP START",
    "INSERT AT BOTTOM START|INSERT AT TOP END|INSERT AT BOTTOM END|OVERLAY MIDDLE|BEGIN SEGMENT|END SEGMENT"]⟩,
  ⟨0x14400, "ANATOLIAN HIEROGLYPH A0", ["01|02|03|04|05|06|07|08|09|10|10A|11|12|13|14|15|16|17|18|19|20|21|22|23",
    "24|25|26|26A|27|28|29|30|31|32|33|34|35|36|37|38|39|39A|40|41|41A|42|43|44|45|45A|46|46A|46B|47|48|49|50|51",
    "52|53|54|55|56|57|58|59|60|61|62|63|64|65|66|66A|66B|66C|67|68|69|70|71|72|73|74|75|76|77|78|79|80|81|82|83",
    "84|85|86|87|88|89|90|91|92|93|94|95|96|97|97A|98|98A|99"]⟩,
  ⟨0x1446f, "ANATOLIAN HIEROGLYPH A1", ["00|00A|01|01A|02|02A|03|04|04A|04B|04C|05|05A|05B|06|07|07A|07B|07C|08|09",
    "10|10A|10B|11|12|13|14|15|15A|16|17|18|19|20|21|22|23|24|25|25A|26|27|28|29|30|31|32|33|34|35|35A|36|37|38|39",
    "40|41|42|43|44|45|46|47|48|49|50|51|52|53|54|55|56|57|58|59|60|61|62|63|64|65|66|67|68|69|70|71|72|73|74|75",
    "76|77|78|79|80|81|82|83|84|85|86|87|88|89|90|91|92|93|94|95|96|97|98|99"]⟩,
  ⟨0x144e3, "ANATOLIAN HIEROGLYPH A2", ["00|01|02|02A|02B|03|04|05|06|07|07A|08|09|09A|10|11|12|13|14|15|15A|16",
    "16A|17|18|19|20|21|22|23|24|25|26|27|27A|28|29|30|31|32|33|34|35|36|37|38|39|40|41|42|43|44|45|46|47|48|49|50",
    "51|52|53|54|55|56|57|58|59|60|61|62|63|64|65|66|67|67A|68|69|70|71|72|73|74|75|76|77|78|79|80|81|82|83|84|85",
    "86|87|88|89|89A|90|91|92|93|94|94A|95|96|97|98|99|99A"]⟩,
  ⟨0x14552, "ANATOLIAN HIEROGLYPH A3", ["00|01|02|03|04|05|06|07|08|09|09A|10|11|12|13|14|15|16|17|18|19|20|21|22",
    "23|24|25|26|27|28|29|29A|30|31|32A|32B|32C|33|34|35|36|36A|36B|36C|37|38|39|40|41|42|43|44|45|46|47|48|49|50",
    "51|52|53|54|55|56|57|58|59|59A|60|61|62|63|64|64A|65|66|67|68|68A|69|70|71|71A|72|73|74|75|76|77|78|79|80|81",
    "81A|82|83 RA OR RI|83A|84|85|86|86A|87|88|89|90|91|92|93 EIGHT|94|95|96|97|98|99"]⟩,
  ⟨0x145c4, "ANATOLIAN HIEROGLYPH A4", ["00|01|02|03|04|05|06|07|08|09|10 BEGIN LOGOGRAM MARK",
    "10A END LOGOGRAM MARK|11|12|13|14|15|16|17|18|19|20|21|22|23|24|25|26|27|28|29|30|31|32|33|34|35|36|37|38|39",
    "40|41|42|43|44|45|46|47|48|49|50|50A|51|52|53|54|55|56|57|57A|58|59|60|61|62|63|64|65|66|67|68|69|70|71|72|73",
    "74|75|76|77|78|79|80|81|82|83|84|85|86|87|88|89|90|91|92|93|94|95|96|97"]⟩,
  ⟨0x14629, "ANATOLIAN HIEROGLYPH A5", ["01|02|03|04|05|06|07|08|09|10|11|12|13|14|15|16|17|18|19|20|21|22|23|24",
    "25|26|27|28|29|30"]⟩,
  ⟨0x16800, "BAMUM LETTER PHASE-A ", ["NGKUE MFON|GBIEE FON|PON MFON PIPAEMGBIEE|PON MFON PIPAEMBA|NAA MFON",
    "SHUENSHUET|TITA MFON|NZA MFON|SHINDA PA NJI|PON PA NJI PIPAEMGBIEE|PON PA NJI PIPAEMBA|MAEMBGBIEE|TU MAEMBA",
    "NGANGU|MAEMVEUX|MANSUAE|MVEUAENGAM|SEUNYAM|NTOQPEN|KEUKEUTNDA|NKINDI|SUU|NGKUENZEUM|LAPAQ|LET KUT|NTAP MFAA",
    "MAEKEUP|PASHAE|GHEUAERAE|PAMSHAE|MON NGGEUAET|NZUN MEUT|U YUQ NAE|GHEUAEGHEUAE|NTAP NTAA|SISA|MGBASA",
    "MEUNJOMNDEUQ|MOOMPUQ|KAFA|PA LEERAEWA|NDA LEERAEWA|PET|MAEMKPEN|NIKA|PUP|TUAEP|LUAEP|SONJAM|TEUTEUWEN|MAENYI",
    "KET|NDAANGGEUAET|KUOQ|MOOMEUT|SHUM|LOMMAE|FIRI|ROM|KPOQ|SOQ|MAP PIEET|SHIRAE|NTAP|SHOQ NSHUT YUM",
    "NYIT MONGKEUAEQ|PAARAE|NKAARAE|UNKNOWN|NGGEN|MAESI|NJAM|MBANYI|NYET|TEUAEN|SOT|PAAM|NSHIEE|MAEM|NYI|KAQ|NSHA",
    "VEE|LU|NEN|NAQ|MBAQ"]⟩,
  ⟨0x16857, "BAMUM LETTER PHASE-B ", ["NSHUET|TU MAEMGBIEE|SIEE|SET TU|LOM NTEUM|MBA MAELEE|KIEEM|YEURAE|MBAARAE",
    "KAM|PEESHI|YAFU LEERAEWA|LAM NSHUT NYAM|NTIEE SHEUOQ|NDU NJAA|GHEUGHEUAEM|PIT|TU NSIEE|SHET NJAQ|SHEUAEQTU",
    "MFON TEUAEQ|MBIT MBAAKET|NYI NTEUM|KEUPUQ|GHEUGHEN|KEUYEUX|LAANAE|PARUM|VEUM|NGKINDI MVOP|NGGEU MBU|WUAET",
    "SAKEUAE|TAAM|MEUQ|NGGUOQ|NGGUOQ LARGE|MFIYAQ|SUE|MBEURI|MONTIEEN|NYAEMAE|PUNGAAM|MEUT NGGEET|FEUX|MBUOQ|FEE",
    "KEUAEM|MA NJEUAENA|MA NJUQA|LET|NGGAAM|NSEN|MA|KIQ|NGOM"]⟩,
  ⟨0x1688f, "BAMUM LETTER PHASE-C ", ["NGKUE MAEMBA|NZA|YUM|WANGKUOQ|NGGEN|NDEUAEREE|NGKAQ|GHARAE|MBEEKEET|GBAYI",
    "NYIR MKPARAQ MEUN|NTU MBIT|MBEUM|PIRIEEN|NDOMBU|MBAA CABBAGE-TREE|KEUSHEUAEP|GHAP|KEUKAQ|YU MUOMAE|NZEUM|MBUE",
    "NSEUAEN|MBIT|YEUQ|KPARAQ|KAA|SEUX|NDIDA|TAASHAE|NJUEQ|TITA YUE|SUAET|NGGUAEN NYAM|VEUX|NANSANAQ|MA KEUAERI",
    "NTAA|NGGUON|LAP|MBIRIEEN|MGBASAQ|NTEUNGBA|TEUTEUX|NGGUM|FUE|NDEUT|NSA|NSHAQ|BUNG|VEUAEPEN|MBERAE|RU|NJAEM|LAM",
    "TITUAEP|NSUOT NGOM|NJEEEE|KET|NGGU|MAESI|MBUAEM|LU|KUT|NJAM|NGOM|WUP|NGGUEET|NSOM|NTEN|KUOP NKAARAE|NSUN|NDAM",
    "MA NSIEE|YAA|NDAP|SHUEQ|SETFON|MBI|MAEMBA|MBANYI|KEUSEUX|MBEUX|KEUM|MBAA PICKET|YUWOQ|NJEUX|MIEE|MUAE|SHIQ",
    "KEN LAW|KEN FATIGUE|NGAQ|NAQ|LIQ|PIN|PEN|TET"]⟩,
  ⟨0x168f1, "BAMUM LETTER PHASE-D ", ["MBUO|WAP|NJI|MFON|NJIEE|LIEE|NJEUT|NSHEE|NGGAAMAE|NYAM|WUAEN|NGKUN|SHEE",
    "NGKAP|KEUAETMEUN|TEUT|SHEUAE|NJAP|SUE|KET|YAEMMAE|KUOM|SAP|MFEUT|NDEUX|MALEERI|MEUT|SEUAEQ|YEN|NJEUAEM",
    "KEUOT MBUAE|NGKEURI|TU|GHAA|NGKYEE|FEUFEUAET|NDEE|MGBOFUM|LEUAEP|NDON|MONI|MGBEUN|PUUT|MGBIEE|MFO|LUM|NSIEEP",
    "MBAA|KWAET|NYET|TEUAEN|SOT|YUWOQ|KEUM|RAEM|TEEEE|NGKEUAEQ|MFEUAE|NSIEET|KEUP|PIP|PEUTAE|NYUE|LET|NGGAAM|MFIEE",
    "NGGWAEN|YUOM|PAP|YUOP|NDAM|NTEUM|SUAE|KUN|NGGEUX|NGKIEE|TUOT|MEUN|KUQ|NSUM|TEUN|MAENJET|NGGAP|LEUM|NGGUOM",
    "NSHUT|NJUEQ|GHEUAE|KU|REN OLD|TAE|TOQ|NYI|RII|LEEEE|MEEEE|M|SUU|MU|SHII|SHEUX|KYEE|NU|SHU|NTEE|PEE|NI|SHOQ",
    "PUQ|MVOP|LOQ|REN MUCH|TI|NTUU|MBAA SEVEN|SAQ|FAA"]⟩,
  ⟨0x16966, "BAMUM LETTER PHASE-E ", ["NDAP|TOON|MBEUM|LAP|VOM|LOON|PAA|SOM|RAQ|NSHUOP|NDUN|PUAE|TAM|NGKA|KPEUX",
    "WUO|SEE|NGGEUAET|PAAM|TOO|KUOP|LOM|NSHIEE|NGOP|MAEM|NGKEUX|NGOQ|NSHUE|RIMGBA|NJEUX|PEEM|SAA|NGGURAE|MGBA",
    "GHEUX|NGKEUAEM|NJAEMLI|MAP|LOOT|NGGEEEE|NDIQ|TAEN NTEUM|SET|PUM|NDAA SOFTNESS|NGGUAESHAE NYAM|YIEE|GHEUN|TUAE",
    "YEUAE|PO|TUMAE|KEUAE|SUAEN|TEUAEQ|VEUAE|WEUX|LAAM|PU|TAAQ|GHAAMAE|NGEUREUT|SHEUAEQ|MGBEN|MBEE|NZAQ|NKOM|GBET",
    "TUM|KUET|YAP|NYI CLEAVER|YIT|MFEUQ|NDIAQ|PIEEQ|YUEQ|LEUAEM|FUE|GBEUX|NGKUP|KET|MAE|NGKAAMI|GHET|FA|NTUM|PEUT",
    "YEUM|NGGEUAE|NYI BETWEEN|NZUQ|POON|MIEE|FUET|NAE|MUAE|GHEUAE|FU I|MVI|PUAQ|NGKUM|KUT|PIET|NTAP|YEUAET|NGGUP",
    "PA PEOPLE|FU CALL|FOM|NJEE|A|TOQ|O|I|LAQ|PA PLURAL|TAA|TAQ|NDAA MY HOUSE|SHIQ|YEUX|NGUAE|YUAEN|YOQ SWIMMING",
    "YOQ COVER|YUQ|YUN|KEUX|PEUX|NJEE EPOCH|PUE|WUE|FEE|VEE|LU|MI|REUX|RAE|NGUAET|NGA|SHO|SHOQ|FU REMEDY|NA|PI|LOQ",
    "KO|MEN|MA|MAQ|TEU|KI|MON|TEN|FAQ|GHOM"]⟩,
  ⟨0x16a03, "BAMUM LETTER PHASE-F ", ["KA|U|KU|EE|REE|TAE|NYI|LA|RII|RIEE|MEEEE|TAA|NDAA|NJAEM|M|SUU|SHII|SI|SEUX",
    "KYEE|KET|NUAE|NU|NJUAE|YOQ|SHU|YA|NSHA|PEUX|NTEE|WUE|PEE|RU|NI|REUX|KEN|NGKWAEN|NGGA|SHO|PUAE|FOM|WA|LI|LOQ",
    "KO|MBEN|REN|MA|MO|MBAA|TET|KPA|SAMBA|VUEQ"]⟩,
  ⟨0x16a40, "MRO LETTER ", ["TA|NGI|YO|MIM|BA|DA|A|PHI|KHAI|HAO|DAI|CHU|KEAAE|OL|MAEM|NIN|PA|OO|O|RO|SHI|THEA|EA",
    "WA|E|KO|LAN|LA|HAI|RI|TEK"]⟩,
  ⟨0x16a60, "MRO DIGIT ", ["ZERO|ONE|TWO|THREE|FOUR|FIVE|SIX|SEVEN|EIGHT|NINE"]⟩,
  ⟨0x16a6e, "MRO D", ["ANDA|OUBLE DANDA"]⟩,
  ⟨0x16a70, "TANGSA LETTER ", ["OZ|OC|OQ|OX|AZ|AC|AQ|AX|VZ|VC|VQ|VX|EZ|EC|EQ|EX|IZ|IC|IQ|IX|UZ|UC|UQ|UX|AWZ|AWC",
    "AWQ|AWX|UIZ|UIC|UIQ|UIX|FINAL NG|LONG UEX|SHORT UEZ|SHORT AWX|UEC|UEZ|UEQ|UEX|UIUZ|UIUC|UIUQ|UIUX|MZ|MC|MQ|MX",
    "KA|KHA|GA|NGA|SA|YA|WA|PA|NYA|PHA|BA|MA|NA|HA|LA|HTA|TA|DA|RA|NHA|SHA|CA|TSA|GHA|HTTA|THA|XA|FA|DHA|CHA|ZA"]⟩,
  ⟨0x16ac0, "TANGSA DIGIT ", ["ZERO|ONE|TWO|THREE|FOUR|FIVE|SIX|SEVEN|EIGHT|NINE"]⟩,
  ⟨0x16ad0, "BASSA VAH LETTER ", ["ENNI|KA|SE|FA|MBE|YIE|GAH|DHII|KPAH|JO|HWAH|WA|ZO|GBU|DO|CE|UWU|TO|BA|VU|YEIN",
    "PA|WADDA|A|O|OO|U|EE|E|I"]⟩,
  ⟨0x16af0, "BASSA VAH ", ["COMBINING HIGH TONE|COMBINING LOW TONE|COMBINING MID TONE|COMBINING LOW-MID TONE",
    "COMBINING HIGH-LOW TONE|FULL STOP"]⟩,
  ⟨0x16b00, "PAHAWH HMONG VOWEL K", ["EEB|EEV|IB|IV|AUB|AUV|UB|UV|EB|EV|AIB|AIV|OOB|OOV|AWB|AWV|UAB|UAV|OB|OV|IAB",
    "IAV|AB|AV|WB|WV|AAB|AAV"]⟩,
  ⟨0x16b1c, "PAHAWH HMONG CONSONANT ", ["VAU|NTSAU|LAU|HAU|NLAU|RAU|NKAU|QHAU|YAU|HLAU|MAU|CHAU|NCHAU|HNAU|PLHAU",
    "NTHAU|NAU|AU|XAU|CAU"]⟩,
  ⟨0x16b30, "PAHAWH HMONG MARK CIM ", ["TUB|SO|KES|KHAV|SUAM|HOM|TAUM"]⟩,
  ⟨0x16b37, "PAHAWH HMONG SIGN ", ["VOS THOM|VOS TSHAB CEEB|CIM CHEEM|VOS THIAB|VOS FEEM|XYEEM NTXIV|XYEEM RHO",
    "XYEEM TOV|XYEEM FAIB|VOS SEEV|MEEJ SUAB|VOS NRUA|IB YAM|XAUS|CIM TSOV ROG"]⟩,
  ⟨0x16b50, "PAHAWH HMONG DIGIT ", ["ZERO|ONE|TWO|THREE|FOUR|FIVE|SIX|SEVEN|EIGHT|NINE"]⟩,
  ⟨0x16b5b, "PAHAWH HMONG NUMBER ", ["TENS|HUNDREDS|TEN THOUSANDS|MILLIONS|HUNDRED MILLIONS|TEN BILLIONS",
    "TRILLIONS"]⟩,
  ⟨0x16b63, "PAHAWH HMONG SIGN ", ["VOS LUB|XYOO|HLI|THIRD-STAGE HLI|ZWJ THAJ|HNUB|NQIG|XIAB|NTUJ|AV|TXHEEJ CEEV",
    "MEEJ TSEEB|TAU|LOS|MUS|CIM HAIS LUS NTOG NTOG|CIM CUAM TSHOOJ|CIM TXWV|CIM TXWV CHWV|CIM PUB DAWB",
    "CIM NRES TOS"]⟩,
  ⟨0x16b7d, "PAHAWH HMONG CLAN SIGN ", ["TSHEEJ|YEEG|LIS|LAUJ|XYOOJ|KOO|HAWJ|MUAS|THOJ|TSAB|PHAB|KHAB|HAM|VAJ|FAJ",
    "YAJ|TSWB|KWM|VWJ"]⟩,
  ⟨0x16e40, "MEDEFAIDRIN CAPITAL LETTER ", ["M|S|V|W|ATIU|Z|KP|P|T|G|F|I|K|A|J|E|B|C|U|YU|L|Q|HP|NY|X|D|OE|N|R|O",
    "AI|Y"]⟩,
  ⟨0x16e60, "MEDEFAIDRIN SMALL LETTER ", ["M|S|V|W|ATIU|Z|KP|P|T|G|F|I|K|A|J|E|B|C|U|YU|L|Q|HP|NY|X|D|OE|N|R|O|AI",
    "Y"]⟩,
  ⟨0x16e80, "MEDEFAIDRIN DIGIT ", ["ZERO|ONE|TWO|THREE|FOUR|FIVE|SIX|SEVEN|EIGHT|NINE"]⟩,
  ⟨0x16e8a, "MEDEFAIDRIN NUMBER ", ["TEN|ELEVEN|TWELVE|THIRTEEN|FOURTEEN|FIFTEEN|SIXTEEN|SEVENTEEN|EIGHTEEN",
    "NINETEEN"]⟩,
  ⟨0x16e94, "MEDEFAIDRIN ", ["DIGIT ONE ALTERNATE FORM|DIGIT TWO ALTERNATE FORM|DIGIT THREE ALTERNATE FORM|COMMA",
    "FULL STOP|SYMBOL AIVA|EXCLAMATION OH"]⟩,
  ⟨0x16f00, "MIAO LETTER ", ["PA|BA|YI PA|PLA|MA|MHA|ARCHAIC MA|FA|VA|VFA|TA|DA|YI TTA|YI TA|TTA|DDA|NA|NHA|YI NNA",
    "ARCHAIC NA|NNA|NNHA|LA|LYA|LHA|LHYA|TLHA|DLHA|TLHYA|DLHYA|KA|GA|YI KA|QA|QGA|NGA|NGHA|ARCHAIC NGA|HA|XA|GHA",
    "GHHA|TSSA|DZZA|NYA|NYHA|TSHA|DZHA|YI TSHA|YI DZHA|REFORMED TSHA|SHA|SSA|ZHA|ZSHA|TSA|DZA|YI TSA|SA|ZA|ZSA|ZZA",
    "ZZSA|ARCHAIC ZZA|ZZYA|ZZSYA|WA|AH|HHA|BRI|SYI|DZYI|TE|TSE|RTE"]⟩,
  ⟨0x16f4f, "MIAO ", ["SIGN CONSONANT MODIFIER BAR|LETTER NASALIZATION|SIGN ASPIRATION|SIGN REFORMED VOICING",
    "SIGN REFORMED ASPIRATION"]⟩,
  ⟨0x16f54, "MIAO VOWEL SIGN ", ["A|AA|AHH|AN|ANG|O|OO|WO|W|E|EN|ENG|OEY|I|IA|IAN|IANG|IO|IE|II|IU|ING|U|UA|UAN",
    "UANG|UU|UEI|UNG|Y|YI|AE|AEE|ERR|ROUNDED ERR|ER|ROUNDED ER|AI|EI|AU|OU|N|NG|UOG|YUI|OG|OER|VW|IG|EA|IONG|UI"]⟩,
  ⟨0x16f8f, "MIAO TONE ", ["RIGHT|TOP RIGHT|ABOVE|BELOW"]⟩,
  ⟨0x16f93, "MIAO LETTER TONE-", ["2|3|4|5|6|7|8"]⟩,
  ⟨0x16f9a, "MIAO LETTER REFORMED TONE-", ["1|2|4|5|6|8"]⟩,
  ⟨0x16fe0, "", ["TANGUT ITERATION MARK|NUSHU ITERATION MARK|OLD CHINESE HOOK MARK|OLD CHINESE ITERATION MARK",
    "KHITAN SMALL SCRIPT FILLER"]⟩,
  ⟨0x16ff0, "VIETNAMESE ALTERNATE READING MARK ", ["CA|NHAY"]⟩,
  ⟨0x18800, "TANGUT COMPONENT-0", ["01|02|03|04|05|06|07|08|09|10|11|12|13|14|15|16|17|18|19|20|21|22|23|24|25|26",
    "27|28|29|30|31|32|33|34|35|36|37|38|39|40|41|42|43|44|45|46|47|48|49|50|51|52|53|54|55|56|57|58|59|60|61|62",
    "63|64|65|66|67|68|69|70|71|72|73|74|75|76|77|78|79|80|81|82|83|84|85|86|87|88|89|90|91|92|93|94|95|96|97|98",
    "99"]⟩,
  ⟨0x18863, "TANGUT COMPONENT-1", ["00|01|02|03|04|05|06|07|08|09|10|11|12|13|14|15|16|17|18|19|20|21|22|23|24|25",
    "26|27|28|29|30|31|32|33|34|35|36|37|38|39|40|41|42|43|44|45|46|47|48|49|50|51|52|53|54|55|56|57|58|59|60|61",
    "62|63|64|65|66|67|68|69|70|71|72|73|74|75|76|77|78|79|80|81|82|83|84|85|86|87|88|89|90|91|92|93|94|95|96|97",
    "98|99"]⟩,
  ⟨0x188c7, "TANGUT COMPONENT-2", ["00|01|02|03|04|05|06|07|08|09|10|11|12|13|14|15|16|17|18|19|20|21|22|23|24|25",
    "26|27|28|29|30|31|32|33|34|35|36|37|38|39|40|41|42|43|44|45|46|47|48|49|50|51|52|53|54|55|56|57|58|59|60|61",
    "62|63|64|65|66|67|68|69|70|71|72|73|74|75|76|77|78|79|80|81|82|83|84|85|86|87|88|89|90|91|92|93|94|95|96|97",
    "98|99"]⟩,
  ⟨0x1892b, "TANGUT COMPONENT-3", ["00|01|02|03|04|05|06|07|08|09|10|11|12|13|14|15|16|17|18|19|20|21|22|23|24|25",
    "26|27|28|29|30|31|32|33|34|35|36|37|38|39|40|41|42|43|44|45|46|47|48|49|50|51|52|53|54|55|56|57|58|59|60|61",
    "62|63|64|65|66|67|68|69|70|71|72|73|74|75|76|77|78|79|80|81|82|83|84|85|86|87|88|89|90|91|92|93|94|95|96|97",
    "98|99"]⟩,
  ⟨0x1898f, "TANGUT COMPONENT-4", ["00|01|02|03|04|05|06|07|08|09|10|11|12|13|14|15|16|17|18|19|20|21|22|23|24|25",
    "26|27|28|29|30|31|32|33|34|35|36|37|38|39|40|41|42|43|44|45|46|47|48|49|50|51|52|53|54|55|56|57|58|59|60|61",
    "62|63|64|65|66|67|68|69|70|71|72|73|74|75|76|77|78|79|80|81|82|83|84|85|86|87|88|89|90|91|92|93|94|95|96|97",
    "98|99"]⟩,
  ⟨0x189f3, "TANGUT COMPONENT-5", ["00|01|02|03|04|05|06|07|08|09|10|11|12|13|14|15|16|17|18|19|20|21|22|23|24|25",
    "26|27|28|29|30|31|32|33|34|35|36|37|38|39|40|41|42|43|44|45|46|47|48|49|50|51|52|53|54|55|56|57|58|59|60|61",
    "62|63|64|65|66|67|68|69|70|71|72|73|74|75|76|77|78|79|80|81|82|83|84|85|86|87|88|89|90|91|92|93|94|95|96|97",
    "98|99"]⟩,
  ⟨0x18a57, "TANGUT COMPONENT-6", ["00|01|02|03|04|05|06|07|08|09|10|11|12|13|14|15|16|17|18|19|20|21|22|23|24|25",
    "26|27|28|29|30|31|32|33|34|35|36|37|38|39|40|41|42|43|44|45|46|47|48|49|50|51|52|53|54|55|56|57|58|59|60|61",
    "62|63|64|65|66|67|68|69|70|71|72|73|74|75|76|77|78|79|80|81|82|83|84|85|86|87|88|89|90|91|92|93|94|95|96|97",
    "98|99"]⟩,
  ⟨0x18abb, "TANGUT COMPONENT-7", ["00|01|02|03|04|05|06|07|08|09|10|11|12|13|14|15|16|17|18|19|20|21|22|23|24|25",
    "26|27|28|29|30|31|32|33|34|35|36|37|38|39|40|41|42|43|44|45|46|47|48|49|50|51|52|53|54|55|56|57|58|59|60|61",
    "62|63|64|65|66|67|68"]⟩,
  ⟨0x1aff0, "KATAKANA LETTER MINNAN TONE-", ["2|3|4|5||7|8"]⟩,
  ⟨0x1aff7, "KATAKANA LETTER MINNAN NASALIZED TONE-", ["1|2|3|4|5||7|8"]⟩,
  ⟨0x1b000, "", ["KATAKANA LETTER ARCHAIC E|HIRAGANA LETTER ARCHAIC YE"]⟩,
  ⟨0x1b002, "HENTAIGANA LETTER ", ["A-1|A-2|A-3|A-WO|I-1|I-2|I-3|I-4|U-1|U-2|U-3|U-4|U-5|E-2|E-3|E-4|E-5|E-6|O-1",
    "O-2|O-3|KA-1|KA-2|KA-3|KA-4|KA-5|KA-6|KA-7|KA-8|KA-9|KA-10|KA-11|KA-KE|KI-1|KI-2|KI-3|KI-4|KI-5|KI-6|KI-7",
    "KI-8|KU-1|KU-2|KU-3|KU-4|KU-5|KU-6|KU-7|KE-1|KE-2|KE-3|KE-4|KE-5|KE-6|KO-1|KO-2|KO-3|KO-KI|SA-1|SA-2|SA-3",
    "SA-4|SA-5|SA-6|SA-7|SA-8|SI-1|SI-2|SI-3|SI-4|SI-5|SI-6|SU-1|SU-2|SU-3|SU-4|SU-5|SU-6|SU-7|SU-8|SE-1|SE-2|SE-3",
    "SE-4|SE-5|SO-1|SO-2|SO-3|SO-4|SO-5|SO-6|SO-7|TA-1|TA-2|TA-3|TA-4|TI-1|TI-2|TI-3|TI-4|TI-5|TI-6|TI-7|TU-1|TU-2",
    "TU-3|TU-4|TU-TO|TE-1|TE-2|TE-3|TE-4|TE-5|TE-6|TE-7|TE-8|TE-9|TO-1|TO-2|TO-3|TO-4|TO-5|TO-6|TO-RA|NA-1|NA-2",
    "NA-3|NA-4|NA-5|NA-6|NA-7|NA-8|NA-9|NI-1|NI-2|NI-3|NI-4|NI-5|NI-6|NI-7|NI-TE|NU-1|NU-2|NU-3|NE-1|NE-2|NE-3",
    "NE-4|NE-5|NE-6|NE-KO|NO-1|NO-2|NO-3|NO-4|NO-5|HA-1|HA-2|HA-3|HA-4|HA-5|HA-6|HA-7|HA-8|HA-9|HA-10|HA-11|HI-1",
    "HI-2|HI-3|HI-4|HI-5|HI-6|HI-7|HU-1|HU-2|HU-3|HE-1|HE-2|HE-3|HE-4|HE-5|HE-6|HE-7|HO-1|HO-2|HO-3|HO-4|HO-5|HO-6",
    "HO-7|HO-8|MA-1|MA-2|MA-3|MA-4|MA-5|MA-6|MA-7|MI-1|MI-2|MI-3|MI-4|MI-5|MI-6|MI-7|MU-1|MU-2|MU-3|MU-4|ME-1|ME-2",
    "ME-MA|MO-1|MO-2|MO-3|MO-4|MO-5|MO-6|YA-1|YA-2|YA-3|YA-4|YA-5|YA-YO|YU-1|YU-2|YU-3|YU-4|YO-1|YO-2|YO-3|YO-4",
    "YO-5|YO-6|RA-1|RA-2|RA-3|RA-4|RI-1|RI-2|RI-3|RI-4|RI-5|RI-6|RI-7|RU-1|RU-2|RU-3|RU-4|RU-5|RU-6|RE-1|RE-2|RE-3",
    "RE-4|RO-1|RO-2|RO-3|RO-4|RO-5|RO-6|WA-1|WA-2|WA-3|WA-4|WA-5|WI-1|WI-2|WI-3|WI-4|WI-5|WE-1|WE-2|WE-3|WE-4|WO-1",
    "WO-2|WO-3|WO-4|WO-5|WO-6|WO-7|N-MU-MO-1|N-MU-MO-2"]⟩,
  ⟨0x1b11f, "", ["HIRAGANA LETTER ARCHAIC WU"]⟩,
  ⟨0x1b120, "KATAKANA LETTER ARCHAIC ", ["YI|YE|WU"]⟩,
  ⟨0x1b150, "HIRAGANA LETTER SMALL W", ["I|E|O"]⟩,
  ⟨0x1b164, "KATAKANA LETTER SMALL ", ["WI|WE|WO|N"]⟩,
  ⟨0x1bc00, "DUPLOYAN LETTER ", ["H|X|P|T|F|K|L|B|D|V|G|R|P N|D S|F N|K M|R S|TH|SLOAN DH|DH|KK|SLOAN J|HL|LH|RH|M",
    "N|J|S|M N|N M|J M|S J|M WITH DOT|N WITH DOT|J WITH DOT|J WITH DOTS INSIDE AND ABOVE|S WITH DOT",
    "S WITH DOT BELOW|M S|N S|J S|S S|M N S|N M S|J M S|S J S|J S WITH DOT|J N|J N S|S T|S T R|S P|S P R|T S|T R S",
    "W|WH|W R|S N|S M|K R S|G R S|S K|S K R|A|SLOAN OW|OA|O|AOU|I|E|IE|SHORT I|UI|EE|SLOAN EH|ROMANIAN I|SLOAN EE",
    "LONG I|YE|U|EU|XW|U N|LONG U|ROMANIAN U|UH|SLOAN U|OOH|OW|OU|WA|WO|WI|WEI|WOW|NASAL U|NASAL O|NASAL I|NASAL A",
    "PERNIN AN|PERNIN AM|SLOAN EN|SLOAN AN|SLOAN ON|VOCALIC M"]⟩,
  ⟨0x1bc70, "DUPLOYAN AFFIX ", ["LEFT HORIZONTAL SECANT|MID HORIZONTAL SECANT|RIGHT HORIZONTAL SECANT",
    "LOW VERTICAL SECANT|MID VERTICAL SECANT|HIGH VERTICAL SECANT|ATTACHED SECANT|ATTACHED LEFT-TO-RIGHT SECANT",
    "ATTACHED TANGENT|ATTACHED TAIL|ATTACHED E HOOK|ATTACHED I HOOK|ATTACHED TANGENT HOOK||||HIGH ACUTE",
    "HIGH TIGHT ACUTE|HIGH GRAVE|HIGH LONG GRAVE|HIGH DOT|HIGH CIRCLE|HIGH LINE|HIGH WAVE",
    "HIGH VERTICAL||||||||LOW ACUTE|LOW TIGHT ACUTE|LOW GRAVE|LOW LONG GRAVE|LOW DOT|LOW CIRCLE|LOW LINE|LOW WAVE",
    "LOW VERTICAL|LOW ARROW"]⟩,
  ⟨0x1bc9c, "DUPLOYAN ", ["SIGN O WITH CROSS|THICK LETTER SELECTOR|DOUBLE MARK|PUNCTUATION CHINOOK FULL STOP"]⟩,
  ⟨0x1bca0, "SHORTHAND FORMAT ", ["LETTER OVERLAP|CONTINUING OVERLAP|DOWN STEP|UP STEP"]⟩,
  ⟨0x1cf00, "ZNAMENNY COMBINING MARK ", ["GORAZDO NIZKO S KRYZHEM ON LEFT|NIZKO S KRYZHEM ON LEFT|TSATA ON LEFT",
    "GORAZDO NIZKO ON LEFT|NIZKO ON LEFT|SREDNE ON LEFT|MALO POVYSHE ON LEFT|POVYSHE ON LEFT|VYSOKO ON LEFT",
    "MALO POVYSHE S KHOKHLOM ON LEFT|POVYSHE S KHOKHLOM ON LEFT|VYSOKO S KHOKHLOM ON LEFT",
    "GORAZDO NIZKO S KRYZHEM ON RIGHT|NIZKO S KRYZHEM ON RIGHT|TSATA ON RIGHT|GORAZDO NIZKO ON RIGHT",
    "NIZKO ON RIGHT|SREDNE ON RIGHT|MALO POVYSHE ON RIGHT|POVYSHE ON RIGHT|VYSOKO ON RIGHT",
    "MALO POVYSHE S KHOKHLOM ON RIGHT|POVYSHE S KHOKHLOM ON RIGHT|VYSOKO S KHOKHLOM ON RIGHT|TSATA S KRYZHEM",
    "MALO POVYSHE S KRYZHEM|STRANNO MALO POVYSHE|POVYSHE S KRYZHEM|POVYSHE STRANNO|VYSOKO S KRYZHEM",
    "MALO POVYSHE STRANNO|GORAZDO VYSOKO|ZELO|ON|RAVNO|TIKHAYA|BORZAYA|UDARKA|PODVERTKA|LOMKA|KUPNAYA|KACHKA|ZEVOK",
    "SKOBA|RAZSEKA|KRYZH ON LEFT"]⟩,
  ⟨0x1cf30, "ZNAMENNY COMBINING ", ["TONAL RANGE MARK MRACHNO|TONAL RANGE MARK SVETLO|TONAL RANGE MARK TRESVETLO",
    "MARK ZADERZHKA|MARK DEMESTVENNY ZADERZHKA|MARK OTSECHKA|MARK PODCHASHIE|MARK PODCHASHIE WITH VERTICAL STROKE",
    "MARK CHASHKA|MARK CHASHKA POLNAYA|MARK OBLACHKO|MARK SOROCHYA NOZHKA|MARK TOCHKA|MARK DVOETOCHIE",
    "ATTACHING VERTICAL OMET|MARK CURVED OMET|MARK KRYZH|LOWER TONAL RANGE INDICATOR"]⟩,
  ⟨0x1cf42, "ZNAMENNY PRIZNAK MODIFIER ", ["LEVEL-2|LEVEL-3|DIRECTION FLIP|KRYZH|ROG"]⟩,
  ⟨0x1cf50, "ZNAMENNY NEUME ", ["KRYUK|KRYUK TIKHY|PARAKLIT|DVA V CHELNU|KLYUCH|ZANOZHEK|STOPITSA",
    "STOPITSA S OCHKOM|PEREVODKA|PEREVODKA NEPOSTOYANNAYA|STOPITSA WITH SOROCHYA NOZHKA|CHELYUSTKA|PALKA|ZAPYATAYA",
    "GOLUBCHIK BORZY|GOLUBCHIK TIKHY|GOLUBCHIK MRACHNY|GOLUBCHIK SVETLY|GOLUBCHIK TRESVETLY|VRAKHIYA PROSTAYA",
    "VRAKHIYA MRACHNAYA|VRAKHIYA SVETLAYA|VRAKHIYA TRESVETLAYA|VRAKHIYA KLYUCHEVAYA PROSTAYA",
    "VRAKHIYA KLYUCHEVAYA MRACHNAYA|VRAKHIYA KLYUCHEVAYA SVETLAYA|VRAKHIYA KLYUCHEVAYA TRESVETLAYA",
    "DOUBLE ZAPYATAYA|REVERSED CHELYUSTKA|DERBITSA|KHAMILO|CHASHKA|PODCHASHIE|SKAMEYTSA MRACHNAYA",
    "SKAMEYTSA SVETLAYA|SKAMEYTSA TRESVETLAYA|SKAMEYTSA TIKHAYA|DEMESTVENNY KLYUCH|SKAMEYTSA KLYUCHEVAYA SVETLAYA",
    "SKAMEYTSA KLYUCHENEPOSTOYANNAYA|SKAMEYTSA KLYUCHEVAYA TIKHAYA|SKAMEYTSA DVOECHELNAYA PROSTAYA",
    "SKAMEYTSA DVOECHELNAYA SVETLAYA|SKAMEYTSA DVOECHELNAYA NEPOSTOYANNAYA|SKAMEYTSA DVOECHELNAYA KLYUCHEVAYA",
    "SLOZHITIE|SLOZHITIE S ZAPYATOY|SLOZHITIE ZAKRYTOE|SLOZHITIE S KRYZHEM|KRYZH|ROG|FITA|KOBYLA|ZMEYTSA|STATYA",
    "STATYA S ZAPYATOY|STATYA S KRYZHEM|STATYA S ZAPYATOY I KRYZHEM|STATYA S KRYZHEM I ZAPYATOY|STATYA ZAKRYTAYA",
    "STATYA ZAKRYTAYA S ZAPYATOY|STATYA S ROGOM|STATYA S DVUMYA ZAPYATYMI|STATYA S ZAPYATOY I PODCHASHIEM",
    "POLKULIZMY|STATYA NEPOSTOYANNAYA"]⟩,
  ⟨0x1cf92, "ZNAMENNY NEUME STRELA ", ["PROSTAYA|MRACHNOTIKHAYA|KRYZHEVAYA|POLUPOVODNAYA|POVODNAYA|NEPOSTOYANNAYA",
    "KLYUCHEPOVODNAYA|KLYUCHENEPOSTOYANNAYA|TIKHAYA PUTNAYA|DVOECHELNAYA|DVOECHELNOKRYZHEVAYA|DVOECHELNOPOVODNAYA",
    "DVOECHELNAYA KLYUCHEVAYA|DVOECHELNOPOVODNAYA KLYUCHEVAYA|GROMNAYA WITH SINGLE ZAPYATAYA",
    "GROMOPOVODNAYA WITH SINGLE ZAPYATAYA|GROMNAYA|GROMOPOVODNAYA|GROMOPOVODNAYA WITH DOUBLE ZAPYATAYA",
    "GROMOKRYZHEVAYA|GROMOKRYZHEVAYA POVODNAYA"]⟩,
  ⟨0x1cfa7, "ZNAMENNY NEUME ", ["MECHIK|MECHIK POVODNY|MECHIK KLYUCHEVOY|MECHIK KLYUCHEPOVODNY",
    "MECHIK KLYUCHENEPOSTOYANNY|STRELA TRYASOGLASNAYA|STRELA TRYASOPOVODNAYA|STRELA TRYASOSTRELNAYA|OSOKA",
    "OSOKA SVETLAYA|OSOKA TRESVETLAYA|OSOKA KRYUKOVAYA SVETLAYA|OSOKA KLYUCHEVAYA SVETLAYA",
    "OSOKA KLYUCHEVAYA NEPOSTOYANNAYA"]⟩,
  ⟨0x1cfb5, "ZNAMENNY NEUME STRELA KRYUKOVAY", ["A|A POVODNAYA|A GROMNAYA WITH SINGLE ZAPYATAYA",
    "A GROMOPOVODNAYA WITH SINGLE ZAPYATAYA|A GROMNAYA|A GROMOPOVODNAYA|A GROMOPOVODNAYA WITH DOUBLE ZAPYATAYA",
    "A GROMOKRYZHEVAYA|A GROMOKRYZHEVAYA POVODNAYA|A TRYASKA"]⟩,
  ⟨0x1cfbf, "ZNAMENNY NEUME ", ["KUFISMA|OBLAKO|DUDA|NEMKA|PAUK"]⟩]

end Triage.Text
