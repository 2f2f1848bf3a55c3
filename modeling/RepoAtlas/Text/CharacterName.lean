import RepoAtlas.Text.CharacterName.BasicScripts
import RepoAtlas.Text.CharacterName.HistoricScripts
import RepoAtlas.Text.CharacterName.NotationAndPictures
import RepoAtlas.Text.CharacterName.SymbolsAndSyllables
import RepoAtlas.Text.CodeRanges
import RepoAtlas.Text.Pieces

/-!
Characters by their Unicode names and formal aliases, those of Unicode 14. Ideographs and Hangul
syllables are named by rule, and only capitals spell those names; the case of all others does not
count.

In a table, `=2022` gives the code point of the next name, and each name after it belongs to the
next code point. A name begins with a hexadecimal digit, the number of words that it shares with
the one before; its other words follow, with underscores between them.
-/
namespace RepoAtlas.Text

namespace CharacterName

def aliases : String := "
  =0 0NULL =0 0NUL 0START_OF_HEADING =1 0SOH 0START_OF_TEXT =2 0STX 0END_OF_TEXT =3 0ETX
  0END_OF_TRANSMISSION =4 0EOT 0ENQUIRY =5 0ENQ 0ACKNOWLEDGE =6 0ACK 0ALERT =7 0BEL 0BACKSPACE =8
  0BS 0CHARACTER_TABULATION =9 0HORIZONTAL_TABULATION =9 0HT =9 0TAB 0LINE_FEED =a 0NEW_LINE =a
  0END_OF_LINE =a 0EOL =a 0LF =a 0NL 0LINE_TABULATION =b 0VERTICAL_TABULATION =b 0VT 0FORM_FEED =c
  0FF 0CARRIAGE_RETURN =d 0CR 0SHIFT_OUT =e 0LOCKING-SHIFT_ONE =e 0SO 0SHIFT_IN =f
  0LOCKING-SHIFT_ZERO =f 0SI 0DATA_LINK_ESCAPE =10 0DLE 0DEVICE_CONTROL_ONE =11 0DC1
  0DEVICE_CONTROL_TWO =12 0DC2 0DEVICE_CONTROL_THREE =13 0DC3 0DEVICE_CONTROL_FOUR =14 0DC4
  0NEGATIVE_ACKNOWLEDGE =15 0NAK 0SYNCHRONOUS_IDLE =16 0SYN 0END_OF_TRANSMISSION_BLOCK =17 0ETB
  0CANCEL =18 0CAN 0END_OF_MEDIUM =19 0EOM 0SUBSTITUTE =1a 0SUB 0ESCAPE =1b 0ESC
  0INFORMATION_SEPARATOR_FOUR =1c 0FILE_SEPARATOR =1c 0FS 0INFORMATION_SEPARATOR_THREE =1d
  0GROUP_SEPARATOR =1d 0GS 0INFORMATION_SEPARATOR_TWO =1e 0RECORD_SEPARATOR =1e 0RS
  0INFORMATION_SEPARATOR_ONE =1f 0UNIT_SEPARATOR =1f 0US 0SP =7f 0DELETE =7f 0DEL
  0PADDING_CHARACTER =80 0PAD 0HIGH_OCTET_PRESET =81 0HOP 0BREAK_PERMITTED_HERE =82 0BPH
  0NO_BREAK_HERE =83 0NBH 0INDEX =84 0IND 0NEXT_LINE =85 0NEL 0START_OF_SELECTED_AREA =86 0SSA
  0END_OF_SELECTED_AREA =87 0ESA 0CHARACTER_TABULATION_SET =88 0HORIZONTAL_TABULATION_SET =88 0HTS
  0CHARACTER_TABULATION_WITH_JUSTIFICATION =89 0HORIZONTAL_TABULATION_WITH_JUSTIFICATION =89 0HTJ
  0LINE_TABULATION_SET =8a 0VERTICAL_TABULATION_SET =8a 0VTS 0PARTIAL_LINE_FORWARD =8b 2DOWN =8b
  0PLD 0PARTIAL_LINE_BACKWARD =8c 2UP =8c 0PLU 0REVERSE_LINE_FEED =8d 1INDEX =8d 0RI
  0SINGLE_SHIFT_TWO =8e 0SINGLE-SHIFT-2 =8e 0SS2 0SINGLE_SHIFT_THREE =8f 0SINGLE-SHIFT-3 =8f 0SS3
  0DEVICE_CONTROL_STRING =90 0DCS 0PRIVATE_USE_ONE =91 1USE-1 =91 0PU1 0PRIVATE_USE_TWO =92 1USE-2
  =92 0PU2 0SET_TRANSMIT_STATE =93 0STS 0CANCEL_CHARACTER =94 0CCH 0MESSAGE_WAITING =95 0MW
  0START_OF_GUARDED_AREA =96 2PROTECTED_AREA =96 0SPA 0END_OF_GUARDED_AREA =97 2PROTECTED_AREA =97
  0EPA 0START_OF_STRING =98 0SOS 0SINGLE_GRAPHIC_CHARACTER_INTRODUCER =99 0SGC
  0SINGLE_CHARACTER_INTRODUCER =9a 0SCI 0CONTROL_SEQUENCE_INTRODUCER =9b 0CSI 0STRING_TERMINATOR
  =9c 0ST 0OPERATING_SYSTEM_COMMAND =9d 0OSC 0PRIVACY_MESSAGE =9e 0PM 0APPLICATION_PROGRAM_COMMAND
  =9f 0APC 0NBSP =ad 0SHY =1a2 0LATIN_CAPITAL_LETTER_GHA 1SMALL_LETTER_GHA =34f 0CGJ =61c 0ALM
  =709 0SYRIAC_SUBLINEAR_COLON_SKEWED_LEFT =cde 0KANNADA_LETTER_LLLA =e9d 0LAO_LETTER_FO_FON =e9f
  3FAY =ea3 2RO =ea5 2LO =fd0 0TIBETAN_MARK_BKA-_SHOG_GI_MGO_RGYAN =11ec
  0HANGUL_JONGSEONG_YESIEUNG-KIYEOK 2YESIEUNG-SSANGKIYEOK 2SSANGYESIEUNG 2YESIEUNG-KHIEUKH =180b
  0FVS1 0FVS2 0FVS3 0MVS 0FVS4 =200b 0ZWSP 0ZWNJ 0ZWJ 0LRM 0RLM =202a 0LRE 0RLE 0PDF 0LRO 0RLO
  0NNBSP =205f 0MMSP 0WJ =2066 0LRI 0RLI 0FSI 0PDI =2118 0WEIERSTRASS_ELLIPTIC_FUNCTION =2448
  0MICR_ON_US_SYMBOL 1DASH_SYMBOL =2b7a
  0LEFTWARDS_TRIANGLE-HEADED_ARROW_WITH_DOUBLE_VERTICAL_STROKE =2b7c
  0RIGHTWARDS_TRIANGLE-HEADED_ARROW_WITH_DOUBLE_VERTICAL_STROKE =a015 0YI_SYLLABLE_ITERATION_MARK
  =aa6e 0MYANMAR_LETTER_KHAMTI_LLA =fe00 0VS1 0VS2 0VS3 0VS4 0VS5 0VS6 0VS7 0VS8 0VS9 0VS10 0VS11
  0VS12 0VS13 0VS14 0VS15 0VS16 =fe18
  0PRESENTATION_FORM_FOR_VERTICAL_RIGHT_WHITE_LENTICULAR_BRACKET =feff 0BYTE_ORDER_MARK =feff 0BOM
  =feff 0ZWNBSP =122d4 0CUNEIFORM_SIGN_NU11_TENU 3OVER_NU11_BUR_OVER_BUR =16e56
  0MEDEFAIDRIN_CAPITAL_LETTER_H 3NG =16e76 1SMALL_LETTER_H 3NG =1b001 0HENTAIGANA_LETTER_E-1
  =1d0c5 0BYZANTINE_MUSICAL_SYMBOL_FTHORA_SKLIRON_CHROMA_VASIS =e0100 0VS17 0VS18 0VS19 0VS20
  0VS21 0VS22 0VS23 0VS24 0VS25 0VS26 0VS27 0VS28 0VS29 0VS30 0VS31 0VS32 0VS33 0VS34 0VS35 0VS36
  0VS37 0VS38 0VS39 0VS40 0VS41 0VS42 0VS43 0VS44 0VS45 0VS46 0VS47 0VS48 0VS49 0VS50 0VS51 0VS52
  0VS53 0VS54 0VS55 0VS56 0VS57 0VS58 0VS59 0VS60 0VS61 0VS62 0VS63 0VS64 0VS65 0VS66 0VS67 0VS68
  0VS69 0VS70 0VS71 0VS72 0VS73 0VS74 0VS75 0VS76 0VS77 0VS78 0VS79 0VS80 0VS81 0VS82 0VS83 0VS84
  0VS85 0VS86 0VS87 0VS88 0VS89 0VS90 0VS91 0VS92 0VS93 0VS94 0VS95 0VS96 0VS97 0VS98 0VS99 0VS100
  0VS101 0VS102 0VS103 0VS104 0VS105 0VS106 0VS107 0VS108 0VS109 0VS110 0VS111 0VS112 0VS113
  0VS114 0VS115 0VS116 0VS117 0VS118 0VS119 0VS120 0VS121 0VS122 0VS123 0VS124 0VS125 0VS126
  0VS127 0VS128 0VS129 0VS130 0VS131 0VS132 0VS133 0VS134 0VS135 0VS136 0VS137 0VS138 0VS139
  0VS140 0VS141 0VS142 0VS143 0VS144 0VS145 0VS146 0VS147 0VS148 0VS149 0VS150 0VS151 0VS152
  0VS153 0VS154 0VS155 0VS156 0VS157 0VS158 0VS159 0VS160 0VS161 0VS162 0VS163 0VS164 0VS165
  0VS166 0VS167 0VS168 0VS169 0VS170 0VS171 0VS172 0VS173 0VS174 0VS175 0VS176 0VS177 0VS178
  0VS179 0VS180 0VS181 0VS182 0VS183 0VS184 0VS185 0VS186 0VS187 0VS188 0VS189 0VS190 0VS191
  0VS192 0VS193 0VS194 0VS195 0VS196 0VS197 0VS198 0VS199 0VS200 0VS201 0VS202 0VS203 0VS204
  0VS205 0VS206 0VS207 0VS208 0VS209 0VS210 0VS211 0VS212 0VS213 0VS214 0VS215 0VS216 0VS217
  0VS218 0VS219 0VS220 0VS221 0VS222 0VS223 0VS224 0VS225 0VS226 0VS227 0VS228 0VS229 0VS230
  0VS231 0VS232 0VS233 0VS234 0VS235 0VS236 0VS237 0VS238 0VS239 0VS240 0VS241 0VS242 0VS243
  0VS244 0VS245 0VS246 0VS247 0VS248 0VS249 0VS250 0VS251 0VS252 0VS253 0VS254 0VS255 0VS256"

def tables : List String :=
  [basicScripts, symbolsAndSyllables, historicScripts, notationAndPictures, aliases]

def asciiCapital (c : Char) : Char := if 'a' ≤ c ∧ c ≤ 'z' then Char.ofNat (c.toNat - 32) else c

/-- Where a search through a table stands: the code point of the next name, the words of the
last one, and what has been found. -/
structure Search where
  code : Nat := 0
  last : List (List Char) := []
  found : Option Nat := none

def Search.step (wanted : List (List Char)) (s : Search) (item : List Char) : Search :=
  match item with
  | [] => s
  | '=' :: digits => { s with code := hexValue digits }
  | shared :: rest =>
    let own := if rest.isEmpty then [] else splitAt '_' rest
    let name := s.last.take (hexValue [shared]) ++ own
    { code := s.code + 1, last := name,
      found := if s.found.isNone && name == wanted then some s.code else s.found }

def inTable? (wanted : List (List Char)) (table : String) : Option Nat :=
  ((tableItems table).foldl (Search.step wanted) {}).found

/-! ### Names made by rule -/

def ideographs : CodeRanges := .ofHex "
  3400-4dbf 4e00-9fff 20000-2a6df 2a700-2b738 2b740-2b81d 2b820-2cea1 2ceb0-2ebe0 30000-3134a"

def compatibilityIdeographs : CodeRanges := .ofHex "f900-fa6d fa70-fad9 2f800-2fa1d"

def isHexCapital (c : Char) : Bool := c.isDigit || ('A' ≤ c && c ≤ 'F')

/-- Four or five hexadecimal digits that lie in a range. -/
def ranged? (ranges : CodeRanges) (digits : List Char) : Option Nat :=
  let code := hexValue digits
  if (digits.length = 4 || digits.length = 5) && digits.all isHexCapital &&
    ranges.contains (Char.ofNat code) then some code else none

/-- What follows a prefix. -/
def after? (lead : String) (s : List Char) : Option (List Char) :=
  if lead.toList.isPrefixOf s then some (s.drop lead.length) else none

def ideographLead : String := "CJK UNIFIED IDEOGRAPH-"

def compatibilityLead : String := "CJK COMPATIBILITY IDEOGRAPH-"

def syllableLead : String := "HANGUL SYLLABLE "

def initials : List String :=
  ["G", "GG", "N", "D", "DD", "R", "M", "B", "BB", "S", "SS", "", "J", "JJ", "C", "K", "T", "P",
   "H"]

def vowels : List String :=
  ["A", "AE", "YA", "YAE", "EO", "E", "YEO", "YE", "O", "WA", "WAE", "OE", "YO", "U", "WEO", "WE",
   "WI", "YU", "EU", "YI", "I"]

def finals : List String :=
  ["", "G", "GG", "GS", "N", "NJ", "NH", "D", "L", "LG", "LM", "LB", "LS", "LT", "LP", "LH", "M",
   "B", "BS", "S", "SS", "NG", "J", "C", "K", "T", "P", "H"]

/-- The number of the longest of the parts that a text begins with, and what follows it. -/
def longestPart? (parts : List String) (s : List Char) : Option (Nat × List Char) :=
  let fitting := parts.zipIdx.filter (fun p => p.1.toList.isPrefixOf s)
  let longest := fitting.foldl (fun best p => max best p.1.length) 0
  (fitting.find? (fun p => p.1.length == longest)).map (fun p => (p.2, s.drop longest))

/-- The syllable of an initial, a vowel and a final. -/
def syllable? (s : List Char) : Option Nat := do
  let (initial, s) ← longestPart? initials s
  let (vowel, s) ← longestPart? vowels s
  let (final, s) ← longestPart? finals s
  if s.isEmpty then some (0xac00 + (initial * vowels.length + vowel) * finals.length + final)
  else none

/-! ### Lookup -/

/-- A name from the tables. Compatibility ideographs are named by their code points. -/
def listed? (name : List Char) : Option Nat :=
  match after? compatibilityLead name with
  | some digits =>
    if digits.head? = some '0' then none else ranged? compatibilityIdeographs digits
  | none => tables.findSome? (inTable? (splitAt ' ' name))

def code? (name : List Char) : Option Nat :=
  match after? ideographLead name, after? syllableLead name with
  | some digits, _ => ranged? ideographs digits
  | _, some parts => syllable? parts
  | none, none => listed? (name.map asciiCapital)

end CharacterName

/-- The character of a name. -/
def charOfName? (name : List Char) : Option Char := (CharacterName.code? name).map Char.ofNat

end RepoAtlas.Text
