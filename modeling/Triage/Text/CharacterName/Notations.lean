import Triage.Text.CharacterName.Row

/-!
# Names of notations

Music, mathematical letters, the writing of gestures, and what else stands between U+1D000 and U+1EFFF.
-/

namespace Triage.Text

/-- The names from U+1D000 on. -/
def notationNames : List NameRow := [
  ⟨0x1d000, "BYZANTINE MUSICAL SYMBOL ", ["PSILI|DASEIA|PERISPOMENI|OXEIA EKFONITIKON|OXEIA DIPLI",
    "VAREIA EKFONITIKON|VAREIA DIPLI|KATHISTI|SYRMATIKI|PARAKLITIKI|YPOKRISIS|YPOKRISIS DIPLI|KREMASTI",
    "APESO EKFONITIKON|EXO EKFONITIKON|TELEIA|KENTIMATA|APOSTROFOS|APOSTROFOS DIPLI|SYNEVMA|THITA|OLIGON ARCHAION",
    "GORGON ARCHAION|PSILON|CHAMILON|VATHY|ISON ARCHAION|KENTIMA ARCHAION|KENTIMATA ARCHAION|SAXIMATA|PARICHON",
    "STAVROS APODEXIA|OXEIAI ARCHAION|VAREIAI ARCHAION|APODERMA ARCHAION|APOTHEMA|KLASMA|REVMA|PIASMA ARCHAION",
    "TINAGMA|ANATRICHISMA|SEISMA|SYNAGMA ARCHAION|SYNAGMA META STAVROU|OYRANISMA ARCHAION|THEMA|LEMOI|DYO|TRIA",
    "TESSERA|KRATIMATA|APESO EXO NEO|FTHORA ARCHAION|IMIFTHORA|TROMIKON ARCHAION|KATAVA TROMIKON|PELASTON",
    "PSIFISTON|KONTEVMA|CHOREVMA ARCHAION|RAPISMA|PARAKALESMA ARCHAION|PARAKLITIKI ARCHAION|ICHADIN|NANA|PETASMA",
    "KONTEVMA ALLO|TROMIKON ALLO|STRAGGISMATA|GRONTHISMATA|ISON NEO|OLIGON NEO|OXEIA NEO|PETASTI|KOUFISMA",
    "PETASTOKOUFISMA|KRATIMOKOUFISMA|PELASTON NEO|KENTIMATA NEO ANO|KENTIMA NEO ANO|YPSILI|APOSTROFOS NEO",
    "APOSTROFOI SYNDESMOS NEO|YPORROI|KRATIMOYPORROON|ELAFRON|CHAMILI|MIKRON ISON|VAREIA NEO|PIASMA NEO",
    "PSIFISTON NEO|OMALON|ANTIKENOMA|LYGISMA|PARAKLITIKI NEO|PARAKALESMA NEO|ETERON PARAKALESMA|KYLISMA",
    "ANTIKENOKYLISMA|TROMIKON NEO|EKSTREPTON|SYNAGMA NEO|SYRMA|CHOREVMA NEO|EPEGERMA|SEISMA NEO|XIRON KLASMA",
    "TROMIKOPSIFISTON|PSIFISTOLYGISMA|TROMIKOLYGISMA|TROMIKOPARAKALESMA|PSIFISTOPARAKALESMA|TROMIKOSYNAGMA",
    "PSIFISTOSYNAGMA|GORGOSYNTHETON|ARGOSYNTHETON|ETERON ARGOSYNTHETON|OYRANISMA NEO|THEMATISMOS ESO",
    "THEMATISMOS EXO|THEMA APLOUN|THES KAI APOTHES|KATAVASMA|ENDOFONON|YFEN KATO|YFEN ANO|STAVROS|KLASMA ANO",
    "DIPLI ARCHAION|KRATIMA ARCHAION|KRATIMA ALLO|KRATIMA NEO|APODERMA NEO|APLI|DIPLI|TRIPLI|TETRAPLI|KORONIS",
    "LEIMMA ENOS CHRONOU|LEIMMA DYO CHRONON|LEIMMA TRION CHRONON|LEIMMA TESSARON CHRONON|LEIMMA IMISEOS CHRONOU",
    "GORGON NEO ANO|GORGON PARESTIGMENON ARISTERA|GORGON PARESTIGMENON DEXIA|DIGORGON",
    "DIGORGON PARESTIGMENON ARISTERA KATO|DIGORGON PARESTIGMENON ARISTERA ANO|DIGORGON PARESTIGMENON DEXIA",
    "TRIGORGON|ARGON|IMIDIARGON|DIARGON|AGOGI POLI ARGI|AGOGI ARGOTERI|AGOGI ARGI|AGOGI METRIA|AGOGI MESI",
    "AGOGI GORGI|AGOGI GORGOTERI|AGOGI POLI GORGI|MARTYRIA PROTOS ICHOS|MARTYRIA ALLI PROTOS ICHOS",
    "MARTYRIA DEYTEROS ICHOS|MARTYRIA ALLI DEYTEROS ICHOS|MARTYRIA TRITOS ICHOS|MARTYRIA TRIFONIAS",
    "MARTYRIA TETARTOS ICHOS|MARTYRIA TETARTOS LEGETOS ICHOS|MARTYRIA LEGETOS ICHOS|MARTYRIA PLAGIOS ICHOS",
    "ISAKIA TELOUS ICHIMATOS|APOSTROFOI TELOUS ICHIMATOS|FANEROSIS TETRAFONIAS|FANEROSIS MONOFONIAS",
    "FANEROSIS DIFONIAS|MARTYRIA VARYS ICHOS|MARTYRIA PROTOVARYS ICHOS|MARTYRIA PLAGIOS TETARTOS ICHOS",
    "GORTHMIKON N APLOUN|GORTHMIKON N DIPLOUN|ENARXIS KAI FTHORA VOU|IMIFONON|IMIFTHORON",
    "FTHORA ARCHAION DEYTEROU ICHOU|FTHORA DIATONIKI PA|FTHORA DIATONIKI NANA|FTHORA NAOS ICHOS",
    "FTHORA DIATONIKI DI|FTHORA SKLIRON DIATONON DI|FTHORA DIATONIKI KE|FTHORA DIATONIKI ZO",
    "FTHORA DIATONIKI NI KATO|FTHORA DIATONIKI NI ANO|FTHORA MALAKON CHROMA DIFONIAS",
    "FTHORA MALAKON CHROMA MONOFONIAS|FHTORA SKLIRON CHROMA VASIS|FTHORA SKLIRON CHROMA SYNAFI|FTHORA NENANO",
    "CHROA ZYGOS|CHROA KLITON|CHROA SPATHI|FTHORA I YFESIS TETARTIMORION|FTHORA ENARMONIOS ANTIFONIA",
    "YFESIS TRITIMORION|DIESIS TRITIMORION|DIESIS TETARTIMORION|DIESIS APLI DYO DODEKATA",
    "DIESIS MONOGRAMMOS TESSERA DODEKATA|DIESIS DIGRAMMOS EX DODEKATA|DIESIS TRIGRAMMOS OKTO DODEKATA",
    "YFESIS APLI DYO DODEKATA|YFESIS MONOGRAMMOS TESSERA DODEKATA|YFESIS DIGRAMMOS EX DODEKATA",
    "YFESIS TRIGRAMMOS OKTO DODEKATA|GENIKI DIESIS|GENIKI YFESIS|DIASTOLI APLI MIKRI|DIASTOLI APLI MEGALI",
    "DIASTOLI DIPLI|DIASTOLI THESEOS|SIMANSIS THESEOS|SIMANSIS THESEOS DISIMOU|SIMANSIS THESEOS TRISIMOU",
    "SIMANSIS THESEOS TETRASIMOU|SIMANSIS ARSEOS|SIMANSIS ARSEOS DISIMOU|SIMANSIS ARSEOS TRISIMOU",
    "SIMANSIS ARSEOS TETRASIMOU|DIGRAMMA GG|DIFTOGGOS OU|STIGMA|ARKTIKO PA|ARKTIKO VOU|ARKTIKO GA|ARKTIKO DI",
    "ARKTIKO KE|ARKTIKO ZO|ARKTIKO NI|KENTIMATA NEO MESO|KENTIMA NEO MESO|KENTIMATA NEO KATO|KENTIMA NEO KATO",
    "KLASMA KATO|GORGON NEO KATO"]⟩,
  ⟨0x1d100, "MUSICAL SYMBOL ", ["SINGLE BARLINE|DOUBLE BARLINE|FINAL BARLINE|REVERSE FINAL BARLINE|DASHED BARLINE",
    "SHORT BARLINE|LEFT REPEAT SIGN|RIGHT REPEAT SIGN|REPEAT DOTS|DAL SEGNO|DA CAPO|SEGNO|CODA|REPEATED FIGURE-1",
    "REPEATED FIGURE-2|REPEATED FIGURE-3|FERMATA|FERMATA BELOW|BREATH MARK|CAESURA|BRACE|BRACKET|ONE-LINE STAFF",
    "TWO-LINE STAFF|THREE-LINE STAFF|FOUR-LINE STAFF|FIVE-LINE STAFF|SIX-LINE STAFF|SIX-STRING FRETBOARD",
    "FOUR-STRING FRETBOARD|G CLEF|G CLEF OTTAVA ALTA|G CLEF OTTAVA BASSA|C CLEF|F CLEF|F CLEF OTTAVA ALTA",
    "F CLEF OTTAVA BASSA|DRUM CLEF-1|DRUM CLEF-2|||MULTIPLE MEASURE REST|DOUBLE SHARP|DOUBLE FLAT|FLAT UP",
    "FLAT DOWN|NATURAL UP|NATURAL DOWN|SHARP UP|SHARP DOWN|QUARTER TONE SHARP|QUARTER TONE FLAT|COMMON TIME",
    "CUT TIME|OTTAVA ALTA|OTTAVA BASSA|QUINDICESIMA ALTA|QUINDICESIMA BASSA|MULTI REST|WHOLE REST|HALF REST",
    "QUARTER REST|EIGHTH REST|SIXTEENTH REST|THIRTY-SECOND REST|SIXTY-FOURTH REST|ONE HUNDRED TWENTY-EIGHTH REST",
    "X NOTEHEAD|PLUS NOTEHEAD|CIRCLE X NOTEHEAD|SQUARE NOTEHEAD WHITE|SQUARE NOTEHEAD BLACK"]⟩,
  ⟨0x1d148, "MUSICAL SYMBOL TRIANGLE NOTEHEAD ", ["UP WHITE|UP BLACK|LEFT WHITE|LEFT BLACK|RIGHT WHITE|RIGHT BLACK",
    "DOWN WHITE|DOWN BLACK|UP RIGHT WHITE|UP RIGHT BLACK"]⟩,
  ⟨0x1d152, "MUSICAL SYMBOL ", ["MOON NOTEHEAD WHITE|MOON NOTEHEAD BLACK|TRIANGLE-ROUND NOTEHEAD DOWN WHITE",
    "TRIANGLE-ROUND NOTEHEAD DOWN BLACK|PARENTHESIS NOTEHEAD|VOID NOTEHEAD|NOTEHEAD BLACK|NULL NOTEHEAD",
    "CLUSTER NOTEHEAD WHITE|CLUSTER NOTEHEAD BLACK|BREVE|WHOLE NOTE|HALF NOTE|QUARTER NOTE|EIGHTH NOTE",
    "SIXTEENTH NOTE|THIRTY-SECOND NOTE|SIXTY-FOURTH NOTE|ONE HUNDRED TWENTY-EIGHTH NOTE|COMBINING STEM",
    "COMBINING SPRECHGESANG STEM|COMBINING TREMOLO-1|COMBINING TREMOLO-2|COMBINING TREMOLO-3|FINGERED TREMOLO-1",
    "FINGERED TREMOLO-2|FINGERED TREMOLO-3|COMBINING AUGMENTATION DOT|COMBINING FLAG-1|COMBINING FLAG-2",
    "COMBINING FLAG-3|COMBINING FLAG-4|COMBINING FLAG-5|BEGIN BEAM|END BEAM|BEGIN TIE|END TIE|BEGIN SLUR|END SLUR",
    "BEGIN PHRASE|END PHRASE|COMBINING ACCENT|COMBINING STACCATO|COMBINING TENUTO|COMBINING STACCATISSIMO",
    "COMBINING MARCATO|COMBINING MARCATO-STACCATO|COMBINING ACCENT-STACCATO|COMBINING LOURE|ARPEGGIATO UP",
    "ARPEGGIATO DOWN|COMBINING DOIT|COMBINING RIP|COMBINING FLIP|COMBINING SMEAR|COMBINING BEND",
    "COMBINING DOUBLE TONGUE|COMBINING TRIPLE TONGUE|RINFORZANDO|SUBITO|Z|PIANO|MEZZO|FORTE|CRESCENDO|DECRESCENDO",
    "GRACE NOTE SLASH|GRACE NOTE NO SLASH|TR|TURN|INVERTED TURN|TURN SLASH|TURN UP"]⟩,
  ⟨0x1d19b, "MUSICAL SYMBOL ORNAMENT STROKE-", ["1|2|3|4|5|6|7|8|9|10|11"]⟩,
  ⟨0x1d1a6, "MUSICAL SYMBOL ", ["HAUPTSTIMME|NEBENSTIMME|END OF STIMME|DEGREE SLASH|COMBINING DOWN BOW",
    "COMBINING UP BOW|COMBINING HARMONIC|COMBINING SNAP PIZZICATO|PEDAL MARK|PEDAL UP MARK|HALF PEDAL MARK",
    "GLISSANDO UP|GLISSANDO DOWN|WITH FINGERNAILS|DAMP|DAMP ALL|MAXIMA|LONGA|BREVIS|SEMIBREVIS WHITE",
    "SEMIBREVIS BLACK|MINIMA|MINIMA BLACK|SEMIMINIMA WHITE|SEMIMINIMA BLACK|FUSA WHITE|FUSA BLACK",
    "LONGA PERFECTA REST|LONGA IMPERFECTA REST|BREVIS REST|SEMIBREVIS REST|MINIMA REST|SEMIMINIMA REST"]⟩,
  ⟨0x1d1c7, "MUSICAL SYMBOL TEMPUS PERFECTUM CUM PROLATIONE ", ["PERFECTA|IMPERFECTA|PERFECTA DIMINUTION-1"]⟩,
  ⟨0x1d1ca, "MUSICAL SYMBOL TEMPUS IMPERFECTUM CUM PROLATIONE ", ["PERFECTA|IMPERFECTA|IMPERFECTA DIMINUTION-1",
    "IMPERFECTA DIMINUTION-2|IMPERFECTA DIMINUTION-3"]⟩,
  ⟨0x1d1cf, "MUSICAL SYMBOL ", ["CROIX|GREGORIAN C CLEF|GREGORIAN F CLEF|SQUARE B|VIRGA|PODATUS|CLIVIS|SCANDICUS",
    "CLIMACUS|TORCULUS|PORRECTUS|PORRECTUS FLEXUS|SCANDICUS FLEXUS|TORCULUS RESUPINUS|PES SUBPUNCTIS|KIEVAN C CLEF",
    "KIEVAN END OF PIECE|KIEVAN FINAL NOTE|KIEVAN RECITATIVE MARK|KIEVAN WHOLE NOTE|KIEVAN HALF NOTE",
    "KIEVAN QUARTER NOTE STEM DOWN|KIEVAN QUARTER NOTE STEM UP|KIEVAN EIGHTH NOTE STEM DOWN",
    "KIEVAN EIGHTH NOTE STEM UP|KIEVAN FLAT SIGN|SORI|KORON"]⟩,
  ⟨0x1d200, "GREEK VOCAL NOTATION SYMBOL-", ["1|2|3|4|5|6|7|8|9|10|11|12|13|14|15|16|17|18|19|20|21|22|23|24|50|51",
    "52|53|54"]⟩,
  ⟨0x1d21d, "GREEK INSTRUMENTAL NOTATION SYMBOL-", ["1|2|4|5|7|8|11|12|13|14|17|18|19|23|24|25|26|27|29|30|32|36",
    "37|38|39|40|42|43|45|47|48|49|50|51|52|53|54"]⟩,
  ⟨0x1d242, "COMBINING GREEK MUSICAL ", ["TRISEME|TETRASEME|PENTASEME"]⟩,
  ⟨0x1d245, "", ["GREEK MUSICAL LEIMMA"]⟩,
  ⟨0x1d2e0, "MAYAN NUMERAL ", ["ZERO|ONE|TWO|THREE|FOUR|FIVE|SIX|SEVEN|EIGHT|NINE|TEN|ELEVEN|TWELVE|THIRTEEN",
    "FOURTEEN|FIFTEEN|SIXTEEN|SEVENTEEN|EIGHTEEN|NINETEEN"]⟩,
  ⟨0x1d300, "", ["MONOGRAM FOR EARTH"]⟩,
  ⟨0x1d301, "DIGRAM FOR ", ["HEAVENLY EARTH|HUMAN EARTH|EARTHLY HEAVEN|EARTHLY HUMAN|EARTH"]⟩,
  ⟨0x1d306, "TETRAGRAM FOR ", ["CENTRE|FULL CIRCLE|MIRED|BARRIER|KEEPING SMALL|CONTRARIETY|ASCENT|OPPOSITION",
    "BRANCHING OUT|DEFECTIVENESS OR DISTORTION|DIVERGENCE|YOUTHFULNESS|INCREASE|PENETRATION|REACH|CONTACT",
    "HOLDING BACK|WAITING|FOLLOWING|ADVANCE|RELEASE|RESISTANCE|EASE|JOY|CONTENTION|ENDEAVOUR|DUTIES|CHANGE",
    "DECISIVENESS|BOLD RESOLUTION|PACKING|LEGION|CLOSENESS|KINSHIP|GATHERING|STRENGTH|PURITY|FULLNESS|RESIDENCE",
    "LAW OR MODEL|RESPONSE|GOING TO MEET|ENCOUNTERS|STOVE|GREATNESS|ENLARGEMENT|PATTERN|RITUAL|FLIGHT",
    "VASTNESS OR WASTING|CONSTANCY|MEASURE|ETERNITY|UNITY|DIMINISHMENT|CLOSED MOUTH|GUARDEDNESS|GATHERING IN",
    "MASSING|ACCUMULATION|EMBELLISHMENT|DOUBT|WATCH|SINKING|INNER|DEPARTURE|DARKENING|DIMMING|EXHAUSTION|SEVERANCE",
    "STOPPAGE|HARDNESS|COMPLETION|CLOSURE|FAILURE|AGGRAVATION|COMPLIANCE|ON THE VERGE|DIFFICULTIES|LABOURING",
    "FOSTERING"]⟩,
  ⟨0x1d360, "COUNTING ROD UNIT DIGIT ", ["ONE|TWO|THREE|FOUR|FIVE|SIX|SEVEN|EIGHT|NINE"]⟩,
  ⟨0x1d369, "COUNTING ROD TENS DIGIT ", ["ONE|TWO|THREE|FOUR|FIVE|SIX|SEVEN|EIGHT|NINE"]⟩,
  ⟨0x1d372, "IDEOGRAPHIC TALLY MARK ", ["ONE|TWO|THREE|FOUR|FIVE"]⟩,
  ⟨0x1d377, "TALLY MARK ", ["ONE|FIVE"]⟩,
  ⟨0x1d400, "MATHEMATICAL BOLD CAPITAL ", ["A|B|C|D|E|F|G|H|I|J|K|L|M|N|O|P|Q|R|S|T|U|V|W|X|Y|Z"]⟩,
  ⟨0x1d41a, "MATHEMATICAL BOLD SMALL ", ["A|B|C|D|E|F|G|H|I|J|K|L|M|N|O|P|Q|R|S|T|U|V|W|X|Y|Z"]⟩,
  ⟨0x1d434, "MATHEMATICAL ITALIC CAPITAL ", ["A|B|C|D|E|F|G|H|I|J|K|L|M|N|O|P|Q|R|S|T|U|V|W|X|Y|Z"]⟩,
  ⟨0x1d44e, "MATHEMATICAL ITALIC SMALL ", ["A|B|C|D|E|F|G||I|J|K|L|M|N|O|P|Q|R|S|T|U|V|W|X|Y|Z"]⟩,
  ⟨0x1d468, "MATHEMATICAL BOLD ITALIC CAPITAL ", ["A|B|C|D|E|F|G|H|I|J|K|L|M|N|O|P|Q|R|S|T|U|V|W|X|Y|Z"]⟩,
  ⟨0x1d482, "MATHEMATICAL BOLD ITALIC SMALL ", ["A|B|C|D|E|F|G|H|I|J|K|L|M|N|O|P|Q|R|S|T|U|V|W|X|Y|Z"]⟩,
  ⟨0x1d49c, "MATHEMATICAL SCRIPT CAPITAL ", ["A||C|D|||G|||J|K|||N|O|P|Q||S|T|U|V|W|X|Y|Z"]⟩,
  ⟨0x1d4b6, "MATHEMATICAL SCRIPT SMALL ", ["A|B|C|D||F||H|I|J|K|L|M|N||P|Q|R|S|T|U|V|W|X|Y|Z"]⟩,
  ⟨0x1d4d0, "MATHEMATICAL BOLD SCRIPT CAPITAL ", ["A|B|C|D|E|F|G|H|I|J|K|L|M|N|O|P|Q|R|S|T|U|V|W|X|Y|Z"]⟩,
  ⟨0x1d4ea, "MATHEMATICAL BOLD SCRIPT SMALL ", ["A|B|C|D|E|F|G|H|I|J|K|L|M|N|O|P|Q|R|S|T|U|V|W|X|Y|Z"]⟩,
  ⟨0x1d504, "MATHEMATICAL FRAKTUR CAPITAL ", ["A|B||D|E|F|G|||J|K|L|M|N|O|P|Q||S|T|U|V|W|X|Y"]⟩,
  ⟨0x1d51e, "MATHEMATICAL FRAKTUR SMALL ", ["A|B|C|D|E|F|G|H|I|J|K|L|M|N|O|P|Q|R|S|T|U|V|W|X|Y|Z"]⟩,
  ⟨0x1d538, "MATHEMATICAL DOUBLE-STRUCK CAPITAL ", ["A|B||D|E|F|G||I|J|K|L|M||O||||S|T|U|V|W|X|Y"]⟩,
  ⟨0x1d552, "MATHEMATICAL DOUBLE-STRUCK SMALL ", ["A|B|C|D|E|F|G|H|I|J|K|L|M|N|O|P|Q|R|S|T|U|V|W|X|Y|Z"]⟩,
  ⟨0x1d56c, "MATHEMATICAL BOLD FRAKTUR CAPITAL ", ["A|B|C|D|E|F|G|H|I|J|K|L|M|N|O|P|Q|R|S|T|U|V|W|X|Y|Z"]⟩,
  ⟨0x1d586, "MATHEMATICAL BOLD FRAKTUR SMALL ", ["A|B|C|D|E|F|G|H|I|J|K|L|M|N|O|P|Q|R|S|T|U|V|W|X|Y|Z"]⟩,
  ⟨0x1d5a0, "MATHEMATICAL SANS-SERIF CAPITAL ", ["A|B|C|D|E|F|G|H|I|J|K|L|M|N|O|P|Q|R|S|T|U|V|W|X|Y|Z"]⟩,
  ⟨0x1d5ba, "MATHEMATICAL SANS-SERIF SMALL ", ["A|B|C|D|E|F|G|H|I|J|K|L|M|N|O|P|Q|R|S|T|U|V|W|X|Y|Z"]⟩,
  ⟨0x1d5d4, "MATHEMATICAL SANS-SERIF BOLD CAPITAL ", ["A|B|C|D|E|F|G|H|I|J|K|L|M|N|O|P|Q|R|S|T|U|V|W|X|Y|Z"]⟩,
  ⟨0x1d5ee, "MATHEMATICAL SANS-SERIF BOLD SMALL ", ["A|B|C|D|E|F|G|H|I|J|K|L|M|N|O|P|Q|R|S|T|U|V|W|X|Y|Z"]⟩,
  ⟨0x1d608, "MATHEMATICAL SANS-SERIF ITALIC CAPITAL ", ["A|B|C|D|E|F|G|H|I|J|K|L|M|N|O|P|Q|R|S|T|U|V|W|X|Y|Z"]⟩,
  ⟨0x1d622, "MATHEMATICAL SANS-SERIF ITALIC SMALL ", ["A|B|C|D|E|F|G|H|I|J|K|L|M|N|O|P|Q|R|S|T|U|V|W|X|Y|Z"]⟩,
  ⟨0x1d63c, "MATHEMATICAL SANS-SERIF BOLD ITALIC CAPITAL ", ["A|B|C|D|E|F|G|H|I|J|K|L|M|N|O|P|Q|R|S|T|U|V|W|X|Y",
    "Z"]⟩,
  ⟨0x1d656, "MATHEMATICAL SANS-SERIF BOLD ITALIC SMALL ", ["A|B|C|D|E|F|G|H|I|J|K|L|M|N|O|P|Q|R|S|T|U|V|W|X|Y|Z"]⟩,
  ⟨0x1d670, "MATHEMATICAL MONOSPACE CAPITAL ", ["A|B|C|D|E|F|G|H|I|J|K|L|M|N|O|P|Q|R|S|T|U|V|W|X|Y|Z"]⟩,
  ⟨0x1d68a, "MATHEMATICAL MONOSPACE SMALL ", ["A|B|C|D|E|F|G|H|I|J|K|L|M|N|O|P|Q|R|S|T|U|V|W|X|Y|Z"]⟩,
  ⟨0x1d6a4, "MATHEMATICAL ITALIC SMALL DOTLESS ", ["I|J"]⟩,
  ⟨0x1d6a8, "MATHEMATICAL BOLD CAPITAL ", ["ALPHA|BETA|GAMMA|DELTA|EPSILON|ZETA|ETA|THETA|IOTA|KAPPA|LAMDA|MU|NU",
    "XI|OMICRON|PI|RHO|THETA SYMBOL|SIGMA|TAU|UPSILON|PHI|CHI|PSI|OMEGA"]⟩,
  ⟨0x1d6c1, "", ["MATHEMATICAL BOLD NABLA"]⟩,
  ⟨0x1d6c2, "MATHEMATICAL BOLD SMALL ", ["ALPHA|BETA|GAMMA|DELTA|EPSILON|ZETA|ETA|THETA|IOTA|KAPPA|LAMDA|MU|NU|XI",
    "OMICRON|PI|RHO|FINAL SIGMA|SIGMA|TAU|UPSILON|PHI|CHI|PSI|OMEGA"]⟩,
  ⟨0x1d6db, "MATHEMATICAL BOLD ", ["PARTIAL DIFFERENTIAL|EPSILON SYMBOL|THETA SYMBOL|KAPPA SYMBOL|PHI SYMBOL",
    "RHO SYMBOL|PI SYMBOL"]⟩,
  ⟨0x1d6e2, "MATHEMATICAL ITALIC CAPITAL ", ["ALPHA|BETA|GAMMA|DELTA|EPSILON|ZETA|ETA|THETA|IOTA|KAPPA|LAMDA|MU|NU",
    "XI|OMICRON|PI|RHO|THETA SYMBOL|SIGMA|TAU|UPSILON|PHI|CHI|PSI|OMEGA"]⟩,
  ⟨0x1d6fb, "", ["MATHEMATICAL ITALIC NABLA"]⟩,
  ⟨0x1d6fc, "MATHEMATICAL ITALIC SMALL ", ["ALPHA|BETA|GAMMA|DELTA|EPSILON|ZETA|ETA|THETA|IOTA|KAPPA|LAMDA|MU|NU",
    "XI|OMICRON|PI|RHO|FINAL SIGMA|SIGMA|TAU|UPSILON|PHI|CHI|PSI|OMEGA"]⟩,
  ⟨0x1d715, "MATHEMATICAL ITALIC ", ["PARTIAL DIFFERENTIAL|EPSILON SYMBOL|THETA SYMBOL|KAPPA SYMBOL|PHI SYMBOL",
    "RHO SYMBOL|PI SYMBOL"]⟩,
  ⟨0x1d71c, "MATHEMATICAL BOLD ITALIC CAPITAL ", ["ALPHA|BETA|GAMMA|DELTA|EPSILON|ZETA|ETA|THETA|IOTA|KAPPA|LAMDA",
    "MU|NU|XI|OMICRON|PI|RHO|THETA SYMBOL|SIGMA|TAU|UPSILON|PHI|CHI|PSI|OMEGA"]⟩,
  ⟨0x1d735, "", ["MATHEMATICAL BOLD ITALIC NABLA"]⟩,
  ⟨0x1d736, "MATHEMATICAL BOLD ITALIC SMALL ", ["ALPHA|BETA|GAMMA|DELTA|EPSILON|ZETA|ETA|THETA|IOTA|KAPPA|LAMDA|MU",
    "NU|XI|OMICRON|PI|RHO|FINAL SIGMA|SIGMA|TAU|UPSILON|PHI|CHI|PSI|OMEGA"]⟩,
  ⟨0x1d74f, "MATHEMATICAL BOLD ITALIC ", ["PARTIAL DIFFERENTIAL|EPSILON SYMBOL|THETA SYMBOL|KAPPA SYMBOL",
    "PHI SYMBOL|RHO SYMBOL|PI SYMBOL"]⟩,
  ⟨0x1d756, "MATHEMATICAL SANS-SERIF BOLD CAPITAL ", ["ALPHA|BETA|GAMMA|DELTA|EPSILON|ZETA|ETA|THETA|IOTA|KAPPA",
    "LAMDA|MU|NU|XI|OMICRON|PI|RHO|THETA SYMBOL|SIGMA|TAU|UPSILON|PHI|CHI|PSI|OMEGA"]⟩,
  ⟨0x1d76f, "", ["MATHEMATICAL SANS-SERIF BOLD NABLA"]⟩,
  ⟨0x1d770, "MATHEMATICAL SANS-SERIF BOLD SMALL ", ["ALPHA|BETA|GAMMA|DELTA|EPSILON|ZETA|ETA|THETA|IOTA|KAPPA",
    "LAMDA|MU|NU|XI|OMICRON|PI|RHO|FINAL SIGMA|SIGMA|TAU|UPSILON|PHI|CHI|PSI|OMEGA"]⟩,
  ⟨0x1d789, "MATHEMATICAL SANS-SERIF BOLD ", ["PARTIAL DIFFERENTIAL|EPSILON SYMBOL|THETA SYMBOL|KAPPA SYMBOL",
    "PHI SYMBOL|RHO SYMBOL|PI SYMBOL"]⟩,
  ⟨0x1d790, "MATHEMATICAL SANS-SERIF BOLD ITALIC CAPITAL ", ["ALPHA|BETA|GAMMA|DELTA|EPSILON|ZETA|ETA|THETA|IOTA",
    "KAPPA|LAMDA|MU|NU|XI|OMICRON|PI|RHO|THETA SYMBOL|SIGMA|TAU|UPSILON|PHI|CHI|PSI|OMEGA"]⟩,
  ⟨0x1d7a9, "MATHEMATICAL SANS-SERIF BOLD ITALIC ", ["NABLA|SMALL ALPHA|SMALL BETA|SMALL GAMMA|SMALL DELTA",
    "SMALL EPSILON|SMALL ZETA|SMALL ETA|SMALL THETA|SMALL IOTA|SMALL KAPPA|SMALL LAMDA|SMALL MU|SMALL NU|SMALL XI",
    "SMALL OMICRON|SMALL PI|SMALL RHO|SMALL FINAL SIGMA|SMALL SIGMA|SMALL TAU|SMALL UPSILON|SMALL PHI|SMALL CHI",
    "SMALL PSI|SMALL OMEGA|PARTIAL DIFFERENTIAL|EPSILON SYMBOL|THETA SYMBOL|KAPPA SYMBOL|PHI SYMBOL|RHO SYMBOL",
    "PI SYMBOL"]⟩,
  ⟨0x1d7ca, "MATHEMATICAL BOLD ", ["CAPITAL DIGAMMA|SMALL DIGAMMA|||DIGIT ZERO|DIGIT ONE|DIGIT TWO|DIGIT THREE",
    "DIGIT FOUR|DIGIT FIVE|DIGIT SIX|DIGIT SEVEN|DIGIT EIGHT|DIGIT NINE"]⟩,
  ⟨0x1d7d8, "MATHEMATICAL DOUBLE-STRUCK DIGIT ", ["ZERO|ONE|TWO|THREE|FOUR|FIVE|SIX|SEVEN|EIGHT|NINE"]⟩,
  ⟨0x1d7e2, "MATHEMATICAL SANS-SERIF DIGIT ", ["ZERO|ONE|TWO|THREE|FOUR|FIVE|SIX|SEVEN|EIGHT|NINE"]⟩,
  ⟨0x1d7ec, "MATHEMATICAL SANS-SERIF BOLD DIGIT ", ["ZERO|ONE|TWO|THREE|FOUR|FIVE|SIX|SEVEN|EIGHT|NINE"]⟩,
  ⟨0x1d7f6, "MATHEMATICAL MONOSPACE DIGIT ", ["ZERO|ONE|TWO|THREE|FOUR|FIVE|SIX|SEVEN|EIGHT|NINE"]⟩,
  ⟨0x1d800, "SIGNWRITING HAND-", ["FIST INDEX|CIRCLE INDEX|CUP INDEX|OVAL INDEX|HINGE INDEX|ANGLE INDEX",
    "FIST INDEX BENT|CIRCLE INDEX BENT|FIST THUMB UNDER INDEX BENT|FIST INDEX RAISED KNUCKLE|FIST INDEX CUPPED",
    "FIST INDEX HINGED|FIST INDEX HINGED LOW|CIRCLE INDEX HINGE|FIST INDEX MIDDLE|CIRCLE INDEX MIDDLE",
    "FIST INDEX MIDDLE BENT|FIST INDEX MIDDLE RAISED KNUCKLES|FIST INDEX MIDDLE HINGED|FIST INDEX UP MIDDLE HINGED",
    "FIST INDEX HINGED MIDDLE UP|FIST INDEX MIDDLE CONJOINED|FIST INDEX MIDDLE CONJOINED INDEX BENT",
    "FIST INDEX MIDDLE CONJOINED MIDDLE BENT|FIST INDEX MIDDLE CONJOINED CUPPED|FIST INDEX MIDDLE CONJOINED HINGED",
    "FIST INDEX MIDDLE CROSSED|CIRCLE INDEX MIDDLE CROSSED|FIST MIDDLE BENT OVER INDEX|FIST INDEX BENT OVER MIDDLE",
    "FIST INDEX MIDDLE THUMB|CIRCLE INDEX MIDDLE THUMB"]⟩,
  ⟨0x1d820, "SIGNWRITING HAND-FIST INDEX ", ["MIDDLE STRAIGHT THUMB BENT|MIDDLE BENT THUMB STRAIGHT",
    "MIDDLE THUMB BENT|MIDDLE HINGED SPREAD THUMB SIDE|UP MIDDLE HINGED THUMB SIDE",
    "UP MIDDLE HINGED THUMB CONJOINED|HINGED MIDDLE UP THUMB SIDE|MIDDLE UP SPREAD THUMB FORWARD",
    "MIDDLE THUMB CUPPED|MIDDLE THUMB CIRCLED|MIDDLE THUMB HOOKED|MIDDLE THUMB HINGED"]⟩,
  ⟨0x1d82c, "SIGNWRITING HAND-FIST ", ["THUMB BETWEEN INDEX MIDDLE STRAIGHT|INDEX MIDDLE CONJOINED THUMB SIDE",
    "INDEX MIDDLE CONJOINED THUMB SIDE CONJOINED|INDEX MIDDLE CONJOINED THUMB SIDE BENT",
    "MIDDLE THUMB HOOKED INDEX UP|INDEX THUMB HOOKED MIDDLE UP|INDEX MIDDLE CONJOINED HINGED THUMB SIDE",
    "INDEX MIDDLE CROSSED THUMB SIDE|INDEX MIDDLE CONJOINED THUMB FORWARD",
    "INDEX MIDDLE CONJOINED CUPPED THUMB FORWARD|MIDDLE THUMB CUPPED INDEX UP|INDEX THUMB CUPPED MIDDLE UP",
    "MIDDLE THUMB CIRCLED INDEX UP|MIDDLE THUMB CIRCLED INDEX HINGED|INDEX THUMB ANGLED OUT MIDDLE UP",
    "INDEX THUMB ANGLED IN MIDDLE UP|INDEX THUMB CIRCLED MIDDLE UP|INDEX MIDDLE THUMB CONJOINED HINGED",
    "INDEX MIDDLE THUMB ANGLED OUT|INDEX MIDDLE THUMB ANGLED|MIDDLE THUMB ANGLED OUT INDEX UP",
    "MIDDLE THUMB ANGLED OUT INDEX CROSSED|MIDDLE THUMB ANGLED INDEX UP|INDEX THUMB HOOKED MIDDLE HINGED"]⟩,
  ⟨0x1d844, "SIGNWRITING HAND-FLAT FOUR FINGER", ["S|S BENT|S HINGED|S CONJOINED|S CONJOINED SPLIT"]⟩,
  ⟨0x1d849, "SIGNWRITING HAND-", ["CLAW FOUR FINGERS CONJOINED|FIST FOUR FINGERS CONJOINED BENT",
    "HINGE FOUR FINGERS CONJOINED|FLAT FIVE FINGERS SPREAD|FLAT HEEL FIVE FINGERS SPREAD",
    "FLAT FIVE FINGERS SPREAD FOUR BENT|FLAT HEEL FIVE FINGERS SPREAD FOUR BENT|FLAT FIVE FINGERS SPREAD BENT",
    "FLAT HEEL FIVE FINGERS SPREAD BENT|FLAT FIVE FINGERS SPREAD THUMB FORWARD|CUP FIVE FINGERS SPREAD",
    "CUP FIVE FINGERS SPREAD OPEN|HINGE FIVE FINGERS SPREAD OPEN|OVAL FIVE FINGERS SPREAD",
    "FLAT FIVE FINGERS SPREAD HINGED|FLAT FIVE FINGERS SPREAD HINGED THUMB SIDE",
    "FLAT FIVE FINGERS SPREAD HINGED NO THUMB|FLAT|FLAT BETWEEN PALM FACINGS|FLAT HEEL|FLAT THUMB SIDE",
    "FLAT HEEL THUMB SIDE|FLAT THUMB BENT|FLAT THUMB FORWARD|FLAT SPLIT INDEX THUMB SIDE|FLAT SPLIT CENTRE",
    "FLAT SPLIT CENTRE THUMB SIDE|FLAT SPLIT CENTRE THUMB SIDE BENT|FLAT SPLIT LITTLE|CLAW|CLAW THUMB SIDE",
    "CLAW NO THUMB|CLAW THUMB FORWARD|HOOK CURLICUE|HOOK|CUP OPEN|CUP|CUP OPEN THUMB SIDE|CUP THUMB SIDE",
    "CUP OPEN NO THUMB|CUP NO THUMB|CUP OPEN THUMB FORWARD|CUP THUMB FORWARD|CURLICUE OPEN|CURLICUE|CIRCLE|OVAL",
    "OVAL THUMB SIDE|OVAL NO THUMB|OVAL THUMB FORWARD|HINGE OPEN|HINGE OPEN THUMB FORWARD|HINGE|HINGE SMALL",
    "HINGE OPEN THUMB SIDE|HINGE THUMB SIDE|HINGE OPEN NO THUMB|HINGE NO THUMB|HINGE THUMB SIDE TOUCHING INDEX",
    "HINGE THUMB BETWEEN MIDDLE RING|ANGLE|FIST INDEX MIDDLE RING|CIRCLE INDEX MIDDLE RING|HINGE INDEX MIDDLE RING",
    "ANGLE INDEX MIDDLE RING|HINGE LITTLE|FIST INDEX MIDDLE RING BENT|FIST INDEX MIDDLE RING CONJOINED",
    "HINGE INDEX MIDDLE RING CONJOINED|FIST LITTLE DOWN|FIST LITTLE DOWN RIPPLE STRAIGHT",
    "FIST LITTLE DOWN RIPPLE CURVED|FIST LITTLE DOWN OTHERS CIRCLED|FIST LITTLE UP|FIST THUMB UNDER LITTLE UP",
    "CIRCLE LITTLE UP|OVAL LITTLE UP|ANGLE LITTLE UP|FIST LITTLE RAISED KNUCKLE|FIST LITTLE BENT",
    "FIST LITTLE TOUCHES THUMB|FIST LITTLE THUMB|HINGE LITTLE THUMB|FIST LITTLE INDEX THUMB",
    "HINGE LITTLE INDEX THUMB|ANGLE LITTLE INDEX THUMB INDEX THUMB OUT|ANGLE LITTLE INDEX THUMB INDEX THUMB",
    "FIST LITTLE INDEX|CIRCLE LITTLE INDEX|HINGE LITTLE INDEX|ANGLE LITTLE INDEX|FIST INDEX MIDDLE LITTLE",
    "CIRCLE INDEX MIDDLE LITTLE|HINGE INDEX MIDDLE LITTLE|HINGE RING|ANGLE INDEX MIDDLE LITTLE",
    "FIST INDEX MIDDLE CROSS LITTLE|CIRCLE INDEX MIDDLE CROSS LITTLE|FIST RING DOWN",
    "HINGE RING DOWN INDEX THUMB HOOK MIDDLE|ANGLE RING DOWN MIDDLE THUMB INDEX CROSS|FIST RING UP",
    "FIST RING RAISED KNUCKLE|FIST RING LITTLE|CIRCLE RING LITTLE|OVAL RING LITTLE|ANGLE RING LITTLE",
    "FIST RING MIDDLE|FIST RING MIDDLE CONJOINED|FIST RING MIDDLE RAISED KNUCKLES|FIST RING INDEX|FIST RING THUMB",
    "HOOK RING THUMB|FIST INDEX RING LITTLE|CIRCLE INDEX RING LITTLE|CURLICUE INDEX RING LITTLE ON",
    "HOOK INDEX RING LITTLE OUT|HOOK INDEX RING LITTLE IN|HOOK INDEX RING LITTLE UNDER|CUP INDEX RING LITTLE",
    "HINGE INDEX RING LITTLE|ANGLE INDEX RING LITTLE OUT|ANGLE INDEX RING LITTLE|FIST MIDDLE DOWN|HINGE MIDDLE",
    "FIST MIDDLE UP|CIRCLE MIDDLE UP|FIST MIDDLE RAISED KNUCKLE|FIST MIDDLE UP THUMB SIDE|HOOK MIDDLE THUMB",
    "FIST MIDDLE THUMB LITTLE|FIST MIDDLE LITTLE|FIST MIDDLE RING LITTLE|CIRCLE MIDDLE RING LITTLE",
    "CURLICUE MIDDLE RING LITTLE ON|CUP MIDDLE RING LITTLE|HINGE MIDDLE RING LITTLE|ANGLE MIDDLE RING LITTLE OUT",
    "ANGLE MIDDLE RING LITTLE IN|ANGLE MIDDLE RING LITTLE|CIRCLE MIDDLE RING LITTLE BENT",
    "CLAW MIDDLE RING LITTLE CONJOINED|CLAW MIDDLE RING LITTLE CONJOINED SIDE",
    "HOOK MIDDLE RING LITTLE CONJOINED OUT|HOOK MIDDLE RING LITTLE CONJOINED IN|HOOK MIDDLE RING LITTLE CONJOINED",
    "HINGE INDEX HINGED|FIST INDEX THUMB SIDE|HINGE INDEX THUMB SIDE"]⟩,
  ⟨0x1d8de, "SIGNWRITING HAND-FIST INDEX THUMB ", ["SIDE THUMB DIAGONAL|SIDE THUMB CONJOINED|SIDE THUMB BENT",
    "SIDE INDEX BENT|SIDE BOTH BENT|SIDE INDEX HINGE|FORWARD INDEX STRAIGHT|FORWARD INDEX BENT|HOOK|CURLICUE",
    "CURVE THUMB INSIDE"]⟩,
  ⟨0x1d8e9, "SIGNWRITING HAND-", ["CLAW INDEX THUMB CURVE THUMB INSIDE|FIST INDEX THUMB CURVE THUMB UNDER",
    "FIST INDEX THUMB CIRCLE|CUP INDEX THUMB|CUP INDEX THUMB OPEN|HINGE INDEX THUMB OPEN|HINGE INDEX THUMB LARGE",
    "HINGE INDEX THUMB|HINGE INDEX THUMB SMALL|ANGLE INDEX THUMB OUT|ANGLE INDEX THUMB IN|ANGLE INDEX THUMB",
    "FIST THUMB"]⟩,
  ⟨0x1d8f6, "SIGNWRITING HAND-FIST THUMB ", ["HEEL|SIDE DIAGONAL|SIDE CONJOINED|SIDE BENT|FORWARD",
    "BETWEEN INDEX MIDDLE|BETWEEN MIDDLE RING|BETWEEN RING LITTLE|UNDER TWO FINGERS|OVER TWO FINGERS",
    "UNDER THREE FINGERS|UNDER FOUR FINGERS|OVER FOUR RAISED KNUCKLES"]⟩,
  ⟨0x1d903, "SIGNWRITING ", ["HAND-FIST|HAND-FIST HEEL|TOUCH SINGLE|TOUCH MULTIPLE|TOUCH BETWEEN|GRASP SINGLE",
    "GRASP MULTIPLE|GRASP BETWEEN|STRIKE SINGLE|STRIKE MULTIPLE|STRIKE BETWEEN|BRUSH SINGLE|BRUSH MULTIPLE",
    "BRUSH BETWEEN|RUB SINGLE|RUB MULTIPLE|RUB BETWEEN|SURFACE SYMBOLS|SURFACE BETWEEN|SQUEEZE LARGE SINGLE",
    "SQUEEZE SMALL SINGLE|SQUEEZE LARGE MULTIPLE|SQUEEZE SMALL MULTIPLE|SQUEEZE SEQUENTIAL|FLICK LARGE SINGLE",
    "FLICK SMALL SINGLE|FLICK LARGE MULTIPLE|FLICK SMALL MULTIPLE|FLICK SEQUENTIAL|SQUEEZE FLICK ALTERNATING"]⟩,
  ⟨0x1d921, "SIGNWRITING MOVEMENT-", ["HINGE UP DOWN LARGE|HINGE UP DOWN SMALL|HINGE UP SEQUENTIAL",
    "HINGE DOWN SEQUENTIAL|HINGE UP DOWN ALTERNATING LARGE|HINGE UP DOWN ALTERNATING SMALL",
    "HINGE SIDE TO SIDE SCISSORS|WALLPLANE FINGER CONTACT|FLOORPLANE FINGER CONTACT"]⟩,
  ⟨0x1d92a, "SIGNWRITING MOVEMENT-WALLPLANE ", ["SINGLE STRAIGHT SMALL|SINGLE STRAIGHT MEDIUM",
    "SINGLE STRAIGHT LARGE|SINGLE STRAIGHT LARGEST|SINGLE WRIST FLEX|DOUBLE STRAIGHT|DOUBLE WRIST FLEX",
    "DOUBLE ALTERNATING|DOUBLE ALTERNATING WRIST FLEX|CROSS|TRIPLE STRAIGHT MOVEMENT|TRIPLE WRIST FLEX",
    "TRIPLE ALTERNATING|TRIPLE ALTERNATING WRIST FLEX|BEND SMALL|BEND MEDIUM|BEND LARGE|CORNER SMALL|CORNER MEDIUM",
    "CORNER LARGE|CORNER ROTATION|CHECK SMALL|CHECK MEDIUM|CHECK LARGE|BOX SMALL|BOX MEDIUM|BOX LARGE|ZIGZAG SMALL",
    "ZIGZAG MEDIUM|ZIGZAG LARGE|PEAKS SMALL|PEAKS MEDIUM|PEAKS LARGE"]⟩,
  ⟨0x1d94b, "SIGNWRITING TRAVEL-WALLPLANE ", ["ROTATION-WALLPLANE SINGLE|ROTATION-WALLPLANE DOUBLE",
    "ROTATION-WALLPLANE ALTERNATING|ROTATION-FLOORPLANE SINGLE|ROTATION-FLOORPLANE DOUBLE",
    "ROTATION-FLOORPLANE ALTERNATING|SHAKING|ARM SPIRAL SINGLE|ARM SPIRAL DOUBLE|ARM SPIRAL TRIPLE"]⟩,
  ⟨0x1d955, "SIGNWRITING MOVEMENT-DIAGONAL ", ["AWAY SMALL|AWAY MEDIUM|AWAY LARGE|AWAY LARGEST|TOWARDS SMALL",
    "TOWARDS MEDIUM|TOWARDS LARGE|TOWARDS LARGEST|BETWEEN AWAY SMALL|BETWEEN AWAY MEDIUM|BETWEEN AWAY LARGE",
    "BETWEEN AWAY LARGEST|BETWEEN TOWARDS SMALL|BETWEEN TOWARDS MEDIUM|BETWEEN TOWARDS LARGE",
    "BETWEEN TOWARDS LARGEST"]⟩,
  ⟨0x1d965, "SIGNWRITING MOVEMENT-FLOORPLANE ", ["SINGLE STRAIGHT SMALL|SINGLE STRAIGHT MEDIUM",
    "SINGLE STRAIGHT LARGE|SINGLE STRAIGHT LARGEST|SINGLE WRIST FLEX|DOUBLE STRAIGHT|DOUBLE WRIST FLEX",
    "DOUBLE ALTERNATING|DOUBLE ALTERNATING WRIST FLEX|CROSS|TRIPLE STRAIGHT MOVEMENT|TRIPLE WRIST FLEX",
    "TRIPLE ALTERNATING MOVEMENT|TRIPLE ALTERNATING WRIST FLEX|BEND|CORNER SMALL|CORNER MEDIUM|CORNER LARGE|CHECK",
    "BOX SMALL|BOX MEDIUM|BOX LARGE|ZIGZAG SMALL|ZIGZAG MEDIUM|ZIGZAG LARGE|PEAKS SMALL|PEAKS MEDIUM|PEAKS LARGE"]⟩,
  ⟨0x1d981, "SIGNWRITING TRAVEL-FLOORPLANE ", ["ROTATION-FLOORPLANE SINGLE|ROTATION-FLOORPLANE DOUBLE",
    "ROTATION-FLOORPLANE ALTERNATING|ROTATION-WALLPLANE SINGLE|ROTATION-WALLPLANE DOUBLE",
    "ROTATION-WALLPLANE ALTERNATING|SHAKING"]⟩,
  ⟨0x1d988, "SIGNWRITING MOVEMENT-WALLPLANE ", ["CURVE QUARTER SMALL|CURVE QUARTER MEDIUM|CURVE QUARTER LARGE",
    "CURVE QUARTER LARGEST|CURVE HALF-CIRCLE SMALL|CURVE HALF-CIRCLE MEDIUM|CURVE HALF-CIRCLE LARGE",
    "CURVE HALF-CIRCLE LARGEST|CURVE THREE-QUARTER CIRCLE SMALL|CURVE THREE-QUARTER CIRCLE MEDIUM|HUMP SMALL",
    "HUMP MEDIUM|HUMP LARGE|LOOP SMALL|LOOP MEDIUM|LOOP LARGE|LOOP SMALL DOUBLE|WAVE CURVE DOUBLE SMALL",
    "WAVE CURVE DOUBLE MEDIUM|WAVE CURVE DOUBLE LARGE|WAVE CURVE TRIPLE SMALL|WAVE CURVE TRIPLE MEDIUM",
    "WAVE CURVE TRIPLE LARGE|CURVE THEN STRAIGHT|CURVED CROSS SMALL|CURVED CROSS MEDIUM"]⟩,
  ⟨0x1d9a2, "SIGNWRITING ROTATION-WALLPLANE ", ["SINGLE|DOUBLE|ALTERNATE"]⟩,
  ⟨0x1d9a5, "SIGNWRITING MOVEMENT-WALLPLANE ", ["SHAKING|CURVE HITTING FRONT WALL|HUMP HITTING FRONT WALL",
    "LOOP HITTING FRONT WALL|WAVE HITTING FRONT WALL"]⟩,
  ⟨0x1d9aa, "SIGNWRITING ROTATION-WALLPLANE ", ["SINGLE HITTING FRONT WALL|DOUBLE HITTING FRONT WALL",
    "ALTERNATING HITTING FRONT WALL"]⟩,
  ⟨0x1d9ad, "SIGNWRITING MOVEMENT-WALLPLANE ", ["CURVE HITTING CHEST|HUMP HITTING CHEST|LOOP HITTING CHEST",
    "WAVE HITTING CHEST"]⟩,
  ⟨0x1d9b1, "SIGNWRITING ROTATION-WALLPLANE ", ["SINGLE HITTING CHEST|DOUBLE HITTING CHEST",
    "ALTERNATING HITTING CHEST"]⟩,
  ⟨0x1d9b4, "SIGNWRITING MOVEMENT-WALLPLANE WAVE DIAGONAL PATH ", ["SMALL|MEDIUM|LARGE"]⟩,
  ⟨0x1d9b7, "SIGNWRITING MOVEMENT-FLOORPLANE ", ["CURVE HITTING CEILING SMALL|CURVE HITTING CEILING LARGE",
    "HUMP HITTING CEILING SMALL DOUBLE|HUMP HITTING CEILING LARGE DOUBLE|HUMP HITTING CEILING SMALL TRIPLE",
    "HUMP HITTING CEILING LARGE TRIPLE|LOOP HITTING CEILING SMALL SINGLE|LOOP HITTING CEILING LARGE SINGLE",
    "LOOP HITTING CEILING SMALL DOUBLE|LOOP HITTING CEILING LARGE DOUBLE|WAVE HITTING CEILING SMALL",
    "WAVE HITTING CEILING LARGE"]⟩,
  ⟨0x1d9c3, "SIGNWRITING ROTATION-FLOORPLANE ", ["SINGLE HITTING CEILING|DOUBLE HITTING CEILING",
    "ALTERNATING HITTING CEILING"]⟩,
  ⟨0x1d9c6, "SIGNWRITING MOVEMENT-FLOORPLANE ", ["CURVE HITTING FLOOR SMALL|CURVE HITTING FLOOR LARGE",
    "HUMP HITTING FLOOR SMALL DOUBLE|HUMP HITTING FLOOR LARGE DOUBLE|HUMP HITTING FLOOR TRIPLE SMALL TRIPLE",
    "HUMP HITTING FLOOR TRIPLE LARGE TRIPLE|LOOP HITTING FLOOR SMALL SINGLE|LOOP HITTING FLOOR LARGE SINGLE",
    "LOOP HITTING FLOOR SMALL DOUBLE|LOOP HITTING FLOOR LARGE DOUBLE|WAVE HITTING FLOOR SMALL",
    "WAVE HITTING FLOOR LARGE"]⟩,
  ⟨0x1d9d2, "SIGNWRITING ROTATION-FLOORPLANE ", ["SINGLE HITTING FLOOR|DOUBLE HITTING FLOOR",
    "ALTERNATING HITTING FLOOR"]⟩,
  ⟨0x1d9d5, "SIGNWRITING MOVEMENT-FLOORPLANE ", ["CURVE SMALL|CURVE MEDIUM|CURVE LARGE|CURVE LARGEST",
    "CURVE COMBINED|HUMP SMALL|LOOP SMALL|WAVE SNAKE|WAVE SMALL|WAVE LARGE"]⟩,
  ⟨0x1d9df, "SIGNWRITING ", ["ROTATION-FLOORPLANE SINGLE|ROTATION-FLOORPLANE DOUBLE",
    "ROTATION-FLOORPLANE ALTERNATING|MOVEMENT-FLOORPLANE SHAKING PARALLEL"]⟩,
  ⟨0x1d9e3, "SIGNWRITING MOVEMENT-WALLPLANE ARM CIRCLE ", ["SMALL SINGLE|MEDIUM SINGLE|SMALL DOUBLE",
    "MEDIUM DOUBLE"]⟩,
  ⟨0x1d9e7, "SIGNWRITING MOVEMENT-FLOORPLANE ARM CIRCLE HITTING WALL ", ["SMALL SINGLE|MEDIUM SINGLE|LARGE SINGLE",
    "SMALL DOUBLE|MEDIUM DOUBLE|LARGE DOUBLE"]⟩,
  ⟨0x1d9ed, "SIGNWRITING MOVEMENT-", ["WALLPLANE WRIST CIRCLE FRONT SINGLE|WALLPLANE WRIST CIRCLE FRONT DOUBLE",
    "FLOORPLANE WRIST CIRCLE HITTING WALL SINGLE|FLOORPLANE WRIST CIRCLE HITTING WALL DOUBLE",
    "WALLPLANE FINGER CIRCLES SINGLE|WALLPLANE FINGER CIRCLES DOUBLE|FLOORPLANE FINGER CIRCLES HITTING WALL SINGLE",
    "FLOORPLANE FINGER CIRCLES HITTING WALL DOUBLE"]⟩,
  ⟨0x1d9f5, "SIGNWRITING DYNAMIC ", ["ARROWHEAD SMALL|ARROWHEAD LARGE|FAST|SLOW|TENSE|RELAXED|SIMULTANEOUS",
    "SIMULTANEOUS ALTERNATING|EVERY OTHER TIME|GRADUAL"]⟩,
  ⟨0x1d9ff, "SIGNWRITING ", ["HEAD|HEAD RIM|HEAD MOVEMENT-WALLPLANE STRAIGHT|HEAD MOVEMENT-WALLPLANE TILT",
    "HEAD MOVEMENT-FLOORPLANE STRAIGHT|HEAD MOVEMENT-WALLPLANE CURVE|HEAD MOVEMENT-FLOORPLANE CURVE",
    "HEAD MOVEMENT CIRCLE|FACE DIRECTION POSITION NOSE FORWARD TILTING|FACE DIRECTION POSITION NOSE UP OR DOWN",
    "FACE DIRECTION POSITION NOSE UP OR DOWN TILTING|EYEBROWS STRAIGHT UP|EYEBROWS STRAIGHT NEUTRAL",
    "EYEBROWS STRAIGHT DOWN|DREAMY EYEBROWS NEUTRAL DOWN|DREAMY EYEBROWS DOWN NEUTRAL|DREAMY EYEBROWS UP NEUTRAL",
    "DREAMY EYEBROWS NEUTRAL UP|FOREHEAD NEUTRAL|FOREHEAD CONTACT|FOREHEAD WRINKLED|EYES OPEN|EYES SQUEEZED",
    "EYES CLOSED|EYE BLINK SINGLE|EYE BLINK MULTIPLE|EYES HALF OPEN|EYES WIDE OPEN|EYES HALF CLOSED",
    "EYES WIDENING MOVEMENT|EYE WINK|EYELASHES UP|EYELASHES DOWN|EYELASHES FLUTTERING|EYEGAZE-WALLPLANE STRAIGHT",
    "EYEGAZE-WALLPLANE STRAIGHT DOUBLE|EYEGAZE-WALLPLANE STRAIGHT ALTERNATING|EYEGAZE-FLOORPLANE STRAIGHT",
    "EYEGAZE-FLOORPLANE STRAIGHT DOUBLE|EYEGAZE-FLOORPLANE STRAIGHT ALTERNATING|EYEGAZE-WALLPLANE CURVED",
    "EYEGAZE-FLOORPLANE CURVED|EYEGAZE-WALLPLANE CIRCLING|CHEEKS PUFFED|CHEEKS NEUTRAL|CHEEKS SUCKED",
    "TENSE CHEEKS HIGH|TENSE CHEEKS MIDDLE|TENSE CHEEKS LOW|EARS|NOSE NEUTRAL|NOSE CONTACT|NOSE WRINKLES",
    "NOSE WIGGLES|AIR BLOWING OUT|AIR SUCKING IN|AIR BLOW SMALL ROTATIONS|AIR SUCK SMALL ROTATIONS|BREATH INHALE",
    "BREATH EXHALE"]⟩,
  ⟨0x1da3b, "SIGNWRITING MOUTH ", ["CLOSED NEUTRAL|CLOSED FORWARD|CLOSED CONTACT|SMILE|SMILE WRINKLED|SMILE OPEN",
    "FROWN|FROWN WRINKLED|FROWN OPEN|OPEN CIRCLE|OPEN FORWARD|OPEN WRINKLED|OPEN OVAL|OPEN OVAL WRINKLED",
    "OPEN OVAL YAWN|OPEN RECTANGLE|OPEN RECTANGLE WRINKLED|OPEN RECTANGLE YAWN|KISS|KISS FORWARD|KISS WRINKLED",
    "TENSE|TENSE FORWARD|TENSE SUCKED"]⟩,
  ⟨0x1da53, "SIGNWRITING ", ["LIPS PRESSED TOGETHER|LIP LOWER OVER UPPER|LIP UPPER OVER LOWER|MOUTH CORNERS",
    "MOUTH WRINKLES SINGLE|MOUTH WRINKLES DOUBLE|TONGUE STICKING OUT FAR|TONGUE LICKING LIPS",
    "TONGUE TIP BETWEEN LIPS|TONGUE TIP TOUCHING INSIDE MOUTH|TONGUE INSIDE MOUTH RELAXED",
    "TONGUE MOVES AGAINST CHEEK|TONGUE CENTRE STICKING OUT|TONGUE CENTRE INSIDE MOUTH|TEETH|TEETH MOVEMENT",
    "TEETH ON TONGUE|TEETH ON TONGUE MOVEMENT|TEETH ON LIPS|TEETH ON LIPS MOVEMENT|TEETH BITE LIPS",
    "MOVEMENT-WALLPLANE JAW|MOVEMENT-FLOORPLANE JAW|NECK|HAIR|EXCITEMENT|SHOULDER HIP SPINE|SHOULDER HIP POSITIONS",
    "WALLPLANE SHOULDER HIP MOVE|FLOORPLANE SHOULDER HIP MOVE|SHOULDER TILTING FROM WAIST",
    "TORSO-WALLPLANE STRAIGHT STRETCH|TORSO-WALLPLANE CURVED BEND|TORSO-FLOORPLANE TWISTING",
    "UPPER BODY TILTING FROM HIP JOINTS|LIMB COMBINATION|LIMB LENGTH-1|LIMB LENGTH-2|LIMB LENGTH-3|LIMB LENGTH-4",
    "LIMB LENGTH-5|LIMB LENGTH-6|LIMB LENGTH-7|FINGER|LOCATION-WALLPLANE SPACE|LOCATION-FLOORPLANE SPACE",
    "LOCATION HEIGHT|LOCATION WIDTH|LOCATION DEPTH|LOCATION HEAD NECK|LOCATION TORSO|LOCATION LIMBS DIGITS|COMMA",
    "FULL STOP|SEMICOLON|COLON|PARENTHESIS"]⟩,
  ⟨0x1da9b, "SIGNWRITING FILL MODIFIER-", ["2|3|4|5|6"]⟩,
  ⟨0x1daa1, "SIGNWRITING ROTATION MODIFIER-", ["2|3|4|5|6|7|8|9|10|11|12|13|14|15|16"]⟩,
  ⟨0x1df00, "LATIN ", ["SMALL LETTER FENG DIGRAPH WITH TRILL|SMALL LETTER REVERSED SCRIPT G",
    "LETTER SMALL CAPITAL TURNED G|SMALL LETTER REVERSED K|LETTER SMALL CAPITAL L WITH BELT",
    "SMALL LETTER LEZH WITH RETROFLEX HOOK|SMALL LETTER TURNED Y WITH BELT|SMALL LETTER REVERSED ENG",
    "SMALL LETTER TURNED R WITH LONG LEG AND RETROFLEX HOOK|SMALL LETTER T WITH HOOK AND RETROFLEX HOOK",
    "LETTER RETROFLEX CLICK WITH RETROFLEX HOOK|SMALL LETTER ESH WITH DOUBLE BAR",
    "SMALL LETTER ESH WITH DOUBLE BAR AND CURL|SMALL LETTER TURNED T WITH CURL",
    "LETTER INVERTED GLOTTAL STOP WITH CURL|LETTER STRETCHED C WITH CURL|LETTER SMALL CAPITAL TURNED K"]⟩,
  ⟨0x1df11, "LATIN SMALL LETTER ", ["L WITH FISHHOOK|DEZH DIGRAPH WITH PALATAL HOOK|L WITH BELT AND PALATAL HOOK",
    "ENG WITH PALATAL HOOK|TURNED R WITH PALATAL HOOK|R WITH FISHHOOK AND PALATAL HOOK",
    "TESH DIGRAPH WITH PALATAL HOOK|EZH WITH PALATAL HOOK|DEZH DIGRAPH WITH RETROFLEX HOOK",
    "I WITH STROKE AND RETROFLEX HOOK|O WITH RETROFLEX HOOK|TESH DIGRAPH WITH RETROFLEX HOOK|C WITH RETROFLEX HOOK",
    "S WITH CURL"]⟩,
  ⟨0x1e000, "COMBINING GLAGOLITIC LETTER ", ["AZU|BUKY|VEDE|GLAGOLI|DOBRO|YESTU|ZHIVETE||ZEMLJA|IZHE|INITIAL IZHE",
    "I|DJERVI|KAKO|LJUDIJE|MYSLITE|NASHI|ONU|POKOJI|RITSI|SLOVO|TVRIDO|UKU|FRITU|HERU|||SHTA|TSI|CHRIVI|SHA|YERU",
    "YERI|YATI||YU|SMALL YUS||YO|IOTATED SMALL YUS|BIG YUS|IOTATED BIG YUS|FITA"]⟩,
  ⟨0x1e100, "NYIAKENG PUACHUE HMONG LETTER ", ["MA|TSA|NTA|TA|HA|NA|XA|NKA|CA|LA|SA|ZA|NCA|NTSA|KA|DA|NYA|NRA|VA",
    "NTXA|TXA|FA|RA|QA|YA|NQA|PA|XYA|NPA|DLA|NPLA|HAH|MLA|PLA|GA|RRA|A|AA|I|U|O|OO|E|EE|W"]⟩,
  ⟨0x1e130, "NYIAKENG PUACHUE HMONG ", ["TONE-B|TONE-M|TONE-J|TONE-V|TONE-S|TONE-G|TONE-D|SIGN FOR PERSON",
    "SIGN FOR THING|SIGN FOR LOCATION|SIGN FOR ANIMAL|SIGN FOR INVERTEBRATE|SIGN XW XW",
    "SYLLABLE LENGTHENER|||DIGIT ZERO|DIGIT ONE|DIGIT TWO|DIGIT THREE|DIGIT FOUR|DIGIT FIVE|DIGIT SIX|DIGIT SEVEN",
    "DIGIT EIGHT|DIGIT NINE|||||LOGOGRAM NYAJ|CIRCLED CA"]⟩,
  ⟨0x1e290, "TOTO LETTER ", ["PA|BA|TA|DA|KA|GA|MA|NA|NGA|SA|CHA|YA|WA|JA|HA|RA|LA|I|BREATHY I|IU|BREATHY IU|U|E",
    "BREATHY E|EO|BREATHY EO|O|AE|BREATHY AE|A"]⟩,
  ⟨0x1e2ae, "", ["TOTO SIGN RISING TONE"]⟩,
  ⟨0x1e2c0, "WANCHO LETTER ", ["AA|A|BA|CA|DA|GA|YA|PHA|LA|NA|PA|TA|THA|FA|SA|SHA|JA|ZA|WA|VA|KA|O|AU|RA|MA|KHA|HA",
    "E|I|NGA|U|LLHA|TSA|TRA|ONG|AANG|ANG|ING|ON|EN|AAN|NYA|UEN|YIH"]⟩,
  ⟨0x1e2ec, "WANCHO ", ["TONE TUP|TONE TUPNI|TONE KOI|TONE KOINI|DIGIT ZERO|DIGIT ONE|DIGIT TWO|DIGIT THREE",
    "DIGIT FOUR|DIGIT FIVE|DIGIT SIX|DIGIT SEVEN|DIGIT EIGHT|DIGIT NINE||||||NGUN SIGN"]⟩,
  ⟨0x1e7e0, "ETHIOPIC SYLLABLE ", ["HHYA|HHYU|HHYI|HHYAA|HHYEE|HHYE|HHYO||GURAGE HHWA|HHWI|HHWEE|HHWE"]⟩,
  ⟨0x1e7ed, "ETHIOPIC SYLLABLE GURAGE ", ["MWI|MWEE||QWI|QWEE|QWE|BWI|BWEE|KWI|KWEE|KWE|GWI|GWEE|GWE|FWI|FWEE|PWI",
    "PWEE"]⟩,
  ⟨0x1e800, "MENDE KIKAKUI SYLLABLE M", ["001 KI|002 KA|003 KU|065 KEE|095 KE|076 KOO|048 KO|179 KUA|004 WI|005 WA",
    "006 WU|126 WEE|118 WE|114 WOO|045 WO|194 WUI|143 WEI|061 WVI|049 WVA|139 WVE|007 MIN|008 MAN|009 MUN|059 MEN",
    "094 MON|154 MUAN|189 MUEN|010 BI|011 BA|012 BU|150 BEE|097 BE|103 BOO|138 BO|013 I|014 A|015 U|163 EE|100 E",
    "165 OO|147 O|137 EI|131 IN|135 IN|195 AN|178 EN|019 SI|020 SA|021 SU|162 SEE|116 SE|136 SOO|079 SO|196 SIA",
    "025 LI|026 LA|027 LU|084 LEE|073 LE|054 LOO|153 LO|110 LONG LE|016 DI|017 DA|018 DU|089 DEE|180 DOO|181 DO",
    "022 TI|023 TA|024 TU|091 TEE|055 TE|104 TOO|069 TO|028 JI|029 JA|030 JU|157 JEE|113 JE|160 JOO|063 JO",
    "175 LONG JO|031 YI|032 YA|033 YU|109 YEE|080 YE|141 YOO|121 YO|034 FI|035 FA|036 FU|078 FEE|075 FE|133 FOO",
    "088 FO|197 FUA|101 FAN|037 NIN|038 NAN|039 NUN|117 NEN|169 NON|176 HI|041 HA|186 HU|040 HEE|096 HE|042 HOO",
    "140 HO|083 HEEI|128 HOOU|053 HIN|130 HAN|087 HUN|052 HEN|193 HON|046 HUAN|090 NGGI|043 NGGA|082 NGGU",
    "115 NGGEE|146 NGGE|156 NGGOO|120 NGGO|159 NGGAA|127 NGGUA|086 LONG NGGE|106 LONG NGGOO|183 LONG NGGO|155 GI",
    "111 GA|168 GU|190 GEE|166 GUEI|167 GUAN|184 NGEN|057 NGON|177 NGUAN|068 PI|099 PA|050 PU|081 PEE|051 PE",
    "102 POO|066 PO|145 MBI|062 MBA|122 MBU|047 MBEE|188 MBEE|072 MBE|172 MBOO|174 MBO|187 MBUU|161 LONG MBE",
    "105 LONG MBOO|142 LONG MBO|132 KPI|092 KPA|074 KPU|044 KPEE|108 KPE|112 KPOO|158 KPO|124 GBI|056 GBA|148 GBU",
    "093 GBEE|107 GBE|071 GBOO|070 GBO|171 RA|123 NDI|129 NDA|125 NDU|191 NDEE|119 NDE|067 NDOO|064 NDO|152 NJA",
    "192 NJU|149 NJEE|134 NJOO|182 VI|185 VA|151 VU|173 VEE|085 VE|144 VOO|077 VO|164 NYIN|058 NYAN|170 NYUN",
    "098 NYEN|060 NYON"]⟩,
  ⟨0x1e8c7, "MENDE KIKAKUI DIGIT ", ["ONE|TWO|THREE|FOUR|FIVE|SIX|SEVEN|EIGHT|NINE"]⟩,
  ⟨0x1e8d0, "MENDE KIKAKUI COMBINING NUMBER ", ["TEENS|TENS|HUNDREDS|THOUSANDS|TEN THOUSANDS|HUNDRED THOUSANDS",
    "MILLIONS"]⟩,
  ⟨0x1e900, "ADLAM CAPITAL LETTER ", ["ALIF|DAALI|LAAM|MIIM|BA|SINNYIIYHE|PE|BHE|RA|E|FA|I|O|DHA|YHE|WAW|NUN|KAF",
    "YA|U|JIIM|CHI|HA|QAAF|GA|NYA|TU|NHA|VA|KHA|GBE|ZAL|KPO|SHA"]⟩,
  ⟨0x1e922, "ADLAM SMALL LETTER ", ["ALIF|DAALI|LAAM|MIIM|BA|SINNYIIYHE|PE|BHE|RA|E|FA|I|O|DHA|YHE|WAW|NUN|KAF|YA",
    "U|JIIM|CHI|HA|QAAF|GA|NYA|TU|NHA|VA|KHA|GBE|ZAL|KPO|SHA"]⟩,
  ⟨0x1e944, "ADLAM ", ["ALIF LENGTHENER|VOWEL LENGTHENER|GEMINATION MARK|HAMZA|CONSONANT MODIFIER",
    "GEMINATE CONSONANT MODIFIER|NUKTA|NASALIZATION MARK|||||DIGIT ZERO|DIGIT ONE|DIGIT TWO|DIGIT THREE|DIGIT FOUR",
    "DIGIT FIVE|DIGIT SIX|DIGIT SEVEN|DIGIT EIGHT|DIGIT NINE|||||INITIAL EXCLAMATION MARK|INITIAL QUESTION MARK"]⟩,
  ⟨0x1ec71, "INDIC SIYAQ NUMBER ", ["ONE|TWO|THREE|FOUR|FIVE|SIX|SEVEN|EIGHT|NINE|TEN|TWENTY|THIRTY|FORTY|FIFTY",
    "SIXTY|SEVENTY|EIGHTY|NINETY|ONE HUNDRED|TWO HUNDRED|THREE HUNDRED|FOUR HUNDRED|FIVE HUNDRED|SIX HUNDRED",
    "SEVEN HUNDRED|EIGHT HUNDRED|NINE HUNDRED|ONE THOUSAND|TWO THOUSAND|THREE THOUSAND|FOUR THOUSAND|FIVE THOUSAND",
    "SIX THOUSAND|SEVEN THOUSAND|EIGHT THOUSAND|NINE THOUSAND|TEN THOUSAND|TWENTY THOUSAND|THIRTY THOUSAND",
    "FORTY THOUSAND|FIFTY THOUSAND|SIXTY THOUSAND|SEVENTY THOUSAND|EIGHTY THOUSAND|NINETY THOUSAND|LAKH|LAKHAN"]⟩,
  ⟨0x1eca0, "INDIC SIYAQ ", ["LAKH MARK|NUMBER KAROR|NUMBER KARORAN"]⟩,
  ⟨0x1eca3, "INDIC SIYAQ NUMBER PREFIXED ", ["ONE|TWO|THREE|FOUR|FIVE|SIX|SEVEN|EIGHT|NINE"]⟩,
  ⟨0x1ecac, "INDIC SIYAQ ", ["PLACEHOLDER|FRACTION ONE QUARTER|FRACTION ONE HALF|FRACTION THREE QUARTERS",
    "RUPEE MARK|NUMBER ALTERNATE ONE|NUMBER ALTERNATE TWO|NUMBER ALTERNATE TEN THOUSAND|ALTERNATE LAKH MARK"]⟩,
  ⟨0x1ed01, "OTTOMAN SIYAQ NUMBER ", ["ONE|TWO|THREE|FOUR|FIVE|SIX|SEVEN|EIGHT|NINE|TEN|TWENTY|THIRTY|FORTY|FIFTY",
    "SIXTY|SEVENTY|EIGHTY|NINETY|ONE HUNDRED|TWO HUNDRED|THREE HUNDRED|FOUR HUNDRED|FIVE HUNDRED|SIX HUNDRED",
    "SEVEN HUNDRED|EIGHT HUNDRED|NINE HUNDRED|ONE THOUSAND|TWO THOUSAND|THREE THOUSAND|FOUR THOUSAND|FIVE THOUSAND",
    "SIX THOUSAND|SEVEN THOUSAND|EIGHT THOUSAND|NINE THOUSAND|TEN THOUSAND|TWENTY THOUSAND|THIRTY THOUSAND",
    "FORTY THOUSAND|FIFTY THOUSAND|SIXTY THOUSAND|SEVENTY THOUSAND|EIGHTY THOUSAND|NINETY THOUSAND"]⟩,
  ⟨0x1ed2e, "", ["OTTOMAN SIYAQ MARRATAN"]⟩,
  ⟨0x1ed2f, "OTTOMAN SIYAQ ALTERNATE NUMBER ", ["TWO|THREE|FOUR|FIVE|SIX|SEVEN|EIGHT|NINE|TEN|FOUR HUNDRED",
    "SIX HUNDRED|TWO THOUSAND|TEN THOUSAND"]⟩,
  ⟨0x1ed3c, "OTTOMAN SIYAQ FRACTION ONE ", ["HALF|SIXTH"]⟩,
  ⟨0x1ee00, "ARABIC MATHEMATICAL ", ["ALEF|BEH|JEEM|DAL||WAW|ZAIN|HAH|TAH|YEH|KAF|LAM|MEEM|NOON|SEEN|AIN|FEH|SAD",
    "QAF|REH|SHEEN|TEH|THEH|KHAH|THAL|DAD|ZAH|GHAIN|DOTLESS BEH|DOTLESS NOON|DOTLESS FEH|DOTLESS QAF"]⟩,
  ⟨0x1ee21, "ARABIC MATHEMATICAL INITIAL ", ["BEH|JEEM||HEH|||HAH||YEH|KAF|LAM|MEEM|NOON|SEEN|AIN|FEH|SAD",
    "QAF||SHEEN|TEH|THEH|KHAH||DAD||GHAIN"]⟩,
  ⟨0x1ee42, "ARABIC MATHEMATICAL TAILED ", ["JEEM|||||HAH||YEH||LAM||NOON|SEEN|AIN||SAD",
    "QAF||SHEEN|||KHAH||DAD||GHAIN||DOTLESS NOON||DOTLESS QAF"]⟩,
  ⟨0x1ee61, "ARABIC MATHEMATICAL STRETCHED ", ["BEH|JEEM||HEH|||HAH|TAH|YEH|KAF||MEEM|NOON|SEEN|AIN|FEH|SAD",
    "QAF||SHEEN|TEH|THEH|KHAH||DAD|ZAH|GHAIN|DOTLESS BEH||DOTLESS FEH"]⟩,
  ⟨0x1ee80, "ARABIC MATHEMATICAL LOOPED ", ["ALEF|BEH|JEEM|DAL|HEH|WAW|ZAIN|HAH|TAH|YEH||LAM|MEEM|NOON|SEEN|AIN",
    "FEH|SAD|QAF|REH|SHEEN|TEH|THEH|KHAH|THAL|DAD|ZAH|GHAIN"]⟩,
  ⟨0x1eea1, "ARABIC MATHEMATICAL DOUBLE-STRUCK ", ["BEH|JEEM|DAL||WAW|ZAIN|HAH|TAH|YEH||LAM|MEEM|NOON|SEEN|AIN|FEH",
    "SAD|QAF|REH|SHEEN|TEH|THEH|KHAH|THAL|DAD|ZAH|GHAIN"]⟩,
  ⟨0x1eef0, "ARABIC MATHEMATICAL OPERATOR ", ["MEEM WITH HAH WITH TATWEEL|HAH WITH DAL"]⟩]

end Triage.Text
