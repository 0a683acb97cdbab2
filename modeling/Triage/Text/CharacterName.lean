import Triage.Text.CharacterName.Abugidas
import Triage.Text.CharacterName.Alphabets
import Triage.Text.CharacterName.Ancient
import Triage.Text.CharacterName.Notations
import Triage.Text.CharacterName.Pictographs
import Triage.Text.CharacterName.Signs
import Triage.Text.CharacterName.Syllabaries
import Triage.Text.Digit

/-!
# Names of characters

The names that the standard gives to characters: most one by one, the rest by a rule.

* `nameRows`: the names that are listed, with the further names that some characters have.
* `numberedRanges`, `ideographRanges`: characters that are named by their number.
* `syllable?`: Hangul syllables, which are named by their sound.
* `characterNamed?`: **the character with a name.**
-/

namespace Triage.Text

/-- Further names: those of controls, which have no other, corrected names, and abbreviations. -/
def furtherNames : List NameRow := [
  ⟨0x0, "", ["NULL|START OF HEADING|START OF TEXT|END OF TEXT|END OF TRANSMISSION|ENQUIRY|ACKNOWLEDGE|ALERT",
    "BACKSPACE|CHARACTER TABULATION|LINE FEED|LINE TABULATION|FORM FEED|CARRIAGE RETURN|SHIFT OUT|SHIFT IN",
    "DATA LINK ESCAPE|DEVICE CONTROL ONE|DEVICE CONTROL TWO|DEVICE CONTROL THREE|DEVICE CONTROL FOUR",
    "NEGATIVE ACKNOWLEDGE|SYNCHRONOUS IDLE|END OF TRANSMISSION BLOCK|CANCEL|END OF MEDIUM|SUBSTITUTE|ESCAPE",
    "INFORMATION SEPARATOR FOUR|INFORMATION SEPARATOR THREE|INFORMATION SEPARATOR TWO|INFORMATION SEPARATOR ONE"]⟩,
  ⟨0x7f, "", ["DELETE|PADDING CHARACTER|HIGH OCTET PRESET|BREAK PERMITTED HERE|NO BREAK HERE|INDEX|NEXT LINE",
    "START OF SELECTED AREA|END OF SELECTED AREA|CHARACTER TABULATION SET|CHARACTER TABULATION WITH JUSTIFICATION",
    "LINE TABULATION SET|PARTIAL LINE FORWARD|PARTIAL LINE BACKWARD|REVERSE LINE FEED|SINGLE SHIFT TWO",
    "SINGLE SHIFT THREE|DEVICE CONTROL STRING|PRIVATE USE ONE|PRIVATE USE TWO|SET TRANSMIT STATE|CANCEL CHARACTER",
    "MESSAGE WAITING|START OF GUARDED AREA|END OF GUARDED AREA|START OF STRING|SINGLE GRAPHIC CHARACTER INTRODUCER",
    "SINGLE CHARACTER INTRODUCER|CONTROL SEQUENCE INTRODUCER|STRING TERMINATOR|OPERATING SYSTEM COMMAND",
    "PRIVACY MESSAGE|APPLICATION PROGRAM COMMAND"]⟩,
  ⟨0x1a2, "LATIN ", ["CAPITAL LETTER GHA|SMALL LETTER GHA"]⟩,
  ⟨0x709, "", ["SYRIAC SUBLINEAR COLON SKEWED LEFT"]⟩,
  ⟨0xcde, "", ["KANNADA LETTER LLLA"]⟩,
  ⟨0xe9d, "LAO LETTER ", ["FO FON||FO FAY||||RO||LO"]⟩,
  ⟨0xfd0, "", ["TIBETAN MARK BKA- SHOG GI MGO RGYAN"]⟩,
  ⟨0x11ec, "HANGUL JONGSEONG ", ["YESIEUNG-KIYEOK|YESIEUNG-SSANGKIYEOK|SSANGYESIEUNG|YESIEUNG-KHIEUKH"]⟩,
  ⟨0x2118, "", ["WEIERSTRASS ELLIPTIC FUNCTION"]⟩,
  ⟨0x2448, "MICR ", ["ON US SYMBOL|DASH SYMBOL"]⟩,
  ⟨0x2b7a, "",
    ["LEFTWARDS TRIANGLE-HEADED ARROW WITH DOUBLE VERTICAL STROKE||RIGHTWARDS TRIANGLE-HEADED ARROW WITH DOUBLE VERTICAL STROKE"]⟩,
  ⟨0xa015, "", ["YI SYLLABLE ITERATION MARK"]⟩,
  ⟨0xaa6e, "", ["MYANMAR LETTER KHAMTI LLA"]⟩,
  ⟨0xfe18, "", ["PRESENTATION FORM FOR VERTICAL RIGHT WHITE LENTICULAR BRACKET"]⟩,
  ⟨0xfeff, "", ["BYTE ORDER MARK"]⟩,
  ⟨0x122d4, "CUNEIFORM SIGN NU11 ", ["TENU|OVER NU11 BUR OVER BUR"]⟩,
  ⟨0x16e56, "MEDEFAIDRIN CAPITAL LETTER ", ["H|NG"]⟩,
  ⟨0x16e76, "MEDEFAIDRIN SMALL LETTER ", ["H|NG"]⟩,
  ⟨0x1b001, "", ["HENTAIGANA LETTER E-1"]⟩,
  ⟨0x1d0c5, "", ["BYZANTINE MUSICAL SYMBOL FTHORA SKLIRON CHROMA VASIS"]⟩,
  ⟨0x9, "", ["HORIZONTAL TABULATION|NEW LINE|VERTICAL TABULATION|||LOCKING-SHIFT ONE|LOCKING-SHIFT ZERO"]⟩,
  ⟨0x1c, "", ["FILE SEPARATOR|GROUP SEPARATOR|RECORD SEPARATOR|UNIT SEPARATOR"]⟩,
  ⟨0x88, "", ["HORIZONTAL TABULATION SET|HORIZONTAL TABULATION WITH JUSTIFICATION|VERTICAL TABULATION SET",
    "PARTIAL LINE DOWN|PARTIAL LINE UP|REVERSE INDEX|SINGLE-SHIFT-2|SINGLE-SHIFT-3||PRIVATE USE-1",
    "PRIVATE USE-2||||START OF PROTECTED AREA|END OF PROTECTED AREA"]⟩,
  ⟨0xa, "", ["END OF LINE"]⟩,
  ⟨0x0, "", ["NUL|SOH|STX|ETX|EOT|ENQ|ACK|BEL|BS|HT|LF|VT|FF|CR|SO|SI|DLE|DC1|DC2|DC3|DC4|NAK|SYN|ETB|CAN|EOM|SUB",
    "ESC|FS|GS|RS|US|SP"]⟩,
  ⟨0x7f, "", ["DEL|PAD|HOP|BPH|NBH|IND|NEL|SSA|ESA|HTS|HTJ|VTS|PLD|PLU|RI|SS2|SS3|DCS|PU1|PU2|STS|CCH|MW|SPA|EPA",
    "SOS|SGC|SCI|CSI|ST|OSC|PM|APC|NBSP"]⟩,
  ⟨0xad, "", ["SHY"]⟩,
  ⟨0x34f, "", ["CGJ"]⟩,
  ⟨0x61c, "", ["ALM"]⟩,
  ⟨0x180b, "", ["FVS1|FVS2|FVS3|MVS|FVS4"]⟩,
  ⟨0x200b, "", ["ZWSP|ZWNJ|ZWJ|LRM|RLM"]⟩,
  ⟨0x202a, "", ["LRE|RLE|PDF|LRO|RLO|NNBSP"]⟩,
  ⟨0x205f, "", ["MMSP|WJ||||||LRI|RLI|FSI|PDI"]⟩,
  ⟨0xfe00, "VS", ["1|2|3|4|5|6|7|8|9|10|11|12|13|14|15|16"]⟩,
  ⟨0xfeff, "", ["BOM"]⟩,
  ⟨0xe0100, "VS", ["17|18|19|20|21|22|23|24|25|26|27|28|29|30|31|32|33|34|35|36|37|38|39|40|41|42|43|44|45|46|47",
    "48|49|50|51|52|53|54|55|56|57|58|59|60|61|62|63|64|65|66|67|68|69|70|71|72|73|74|75|76|77|78|79|80|81|82|83",
    "84|85|86|87|88|89|90|91|92|93|94|95|96|97|98|99|100|101|102|103|104|105|106|107|108|109|110|111|112|113|114",
    "115|116|117|118|119|120|121|122|123|124|125|126|127|128|129|130|131|132|133|134|135|136|137|138|139|140|141",
    "142|143|144|145|146|147|148|149|150|151|152|153|154|155|156|157|158|159|160|161|162|163|164|165|166|167|168",
    "169|170|171|172|173|174|175|176|177|178|179|180|181|182|183|184|185|186|187|188|189|190|191|192|193|194|195",
    "196|197|198|199|200|201|202|203|204|205|206|207|208|209|210|211|212|213|214|215|216|217|218|219|220|221|222",
    "223|224|225|226|227|228|229|230|231|232|233|234|235|236|237|238|239|240|241|242|243|244|245|246|247|248|249",
    "250|251|252|253|254|255|256"]⟩,
  ⟨0x9, "", ["TAB|NL"]⟩,
  ⟨0xfeff, "", ["ZWNBSP"]⟩,
  ⟨0xa, "", ["EOL"]⟩]

/-- All names that are listed. -/
def nameRows : List NameRow :=
  alphabetNames ++ abugidaNames ++ signNames ++ syllabaryNames ++ ancientNames ++ notationNames ++
    pictographNames ++ furtherNames

/-- The ranges of characters that are named by their number, with the start of their names. -/
def numberedRanges : List (String × Nat × Nat) :=
  [("CJK COMPATIBILITY IDEOGRAPH-", 0xf900, 0xfa6d),
    ("CJK COMPATIBILITY IDEOGRAPH-", 0xfa70, 0xfad9),
    ("CJK COMPATIBILITY IDEOGRAPH-", 0x2f800, 0x2fa1d),
    ("KHITAN SMALL SCRIPT CHARACTER-", 0x18b00, 0x18cd5),
    ("NUSHU CHARACTER-", 0x1b170, 0x1b2fb)]

/-- The ranges of unified ideographs, which are named by their number, too. -/
def ideographRanges : List (Nat × Nat) :=
  [(0x3400, 0x4dbf), (0x4e00, 0x9fff), (0x20000, 0x2a6df), (0x2a700, 0x2b738), (0x2b740, 0x2b81d),
    (0x2b820, 0x2cea1), (0x2ceb0, 0x2ebe0), (0x30000, 0x3134a)]

/-- Romanised initial consonants of Hangul syllables. -/
def syllableInitials : List String :=
  ["G", "GG", "N", "D", "DD", "R", "M", "B", "BB", "S", "SS", "", "J", "JJ", "C", "K", "T", "P", "H"]

/-- Romanised vowels of Hangul syllables. -/
def syllableVowels : List String :=
  ["A", "AE", "YA", "YAE", "EO", "E", "YEO", "YE", "O", "WA", "WAE", "OE", "YO", "U", "WEO", "WE",
    "WI", "YU", "EU", "YI", "I"]

/-- Romanised final consonants of Hangul syllables. -/
def syllableFinals : List String :=
  ["", "G", "GG", "GS", "N", "NJ", "NH", "D", "L", "LG", "LM", "LB", "LS", "LT", "LP", "LH", "M", "B",
    "BS", "S", "SS", "NG", "J", "C", "K", "T", "P", "H"]

/-- Whether a character is a hexadecimal digit, in upper case if it is a letter. -/
def isUpperHexDigit (c : Char) : Bool := c.isDigit || ('A' ≤ c && c ≤ 'F')

/-- The code point that is written with four or five digits. -/
def writtenCodePoint? (digits : List Char) : Option Nat :=
  if (digits.length == 4 || digits.length == 5) && digits.all isUpperHexDigit then some (natOfText 16 digits)
  else none

/-- The code point of a unified ideograph by its number. -/
def ideograph? (digits : List Char) : Option Nat :=
  (writtenCodePoint? digits).filter fun n => ideographRanges.any fun r => r.1 ≤ n && n ≤ r.2

/-- The code point of a Hangul syllable by its sound. -/
def syllable? (sound : List Char) : Option Nat :=
  (List.range (19 * 21 * 28)).find? (fun i =>
    let initial := syllableInitials.getD (i / 588) ""
    let vowel := syllableVowels.getD (i / 28 % 21) ""
    let final := syllableFinals.getD (i % 28) ""
    (initial ++ vowel ++ final).toList == sound) |>.map (· + 0xac00)

/-- The code point of another character that is named by its number, which has no needless zeros. -/
def numbered? (name : String) : Option Nat :=
  numberedRanges.findSome? fun (start, first, last) =>
    ((afterStart? start name).filter (·.head? != some '0')).bind fun digits =>
      (writtenCodePoint? digits).filter fun n => first ≤ n && n ≤ last

/-- **The character with a name.** Ideographs and syllables are named in upper case; case does not matter in any
other name. -/
def characterNamed? (name : String) : Option Char :=
  let code :=
    match afterStart? "HANGUL SYLLABLE " name, afterStart? "CJK UNIFIED IDEOGRAPH-" name with
    | some sound, _ => syllable? sound
    | none, some digits => ideograph? digits
    | none, none =>
      let upper := name.map Char.toUpper
      (nameRows.findSome? (NameRow.codePoint? · upper)).or (numbered? upper)
  code.map Char.ofNat

end Triage.Text
