import MarkdownIntake.Text.Blank
import MarkdownIntake.Text.Lines
import MarkdownIntake.Text.Utf8
import MarkdownIntake.Web.CodePage

/-!
This module contains the character sets of downloaded texts: how a header names one, and the text that
bytes stand for in it. Bytes that stand for nothing become the replacement character. A header can also
name a code that is no character set, and in such a one there is no text at all.
-/

namespace MarkdownIntake.Web

open MarkdownIntake.Text

inductive Charset where
  | utf8
  /-- UTF-8 whose first character may be a mark that does not belong to the text. -/
  | markedUtf8
  | ascii
  | codePage (page : CodePage)
  /-- Units of two or four bytes, whose order a mark at the start tells. -/
  | utf16
  | utf16Little
  | utf16Big
  | utf32
  | utf32Little
  | utf32Big
deriving Repr, DecidableEq

inductive CodeError where
  /-- Codes from bytes to bytes, such as compression. -/
  | bytes
  /-- The code from letters to letters. -/
  | letters
  /-- The code of host names, which knows no replacement character. -/
  | hostNames
  | undefined
  | unmarked (bits : Nat)
  | other (reason : String)
deriving Repr, DecidableEq

namespace CodeError

def foreignNames : List (CodeError × List String) := [
  (.bytes, ["base64_codec", "base64", "base_64", "bz2_codec", "bz2", "hex_codec", "hex",
    "quopri_codec", "quopri", "quoted_printable", "quotedprintable", "uu_codec", "uu", "zlib_codec",
    "zip", "zlib"]),
  (.letters, ["rot_13", "rot13"]),
  (.hostNames, ["idna"]),
  (.undefined, ["undefined"])]

def message : CodeError → String
  | .bytes => ""
  | .letters => "descriptor 'translate' for 'str' objects doesn't apply to a 'bytes' object"
  | .hostNames => "Unsupported error handling replace"
  | .undefined => "undefined encoding"
  | .unmarked bits => s!"UTF-{bits} stream does not start with BOM"
  | .other reason => reason

end CodeError

namespace Charset

def names : List (Charset × List String) := [
  (.utf8, ["utf_8", "u8", "utf", "utf8", "utf8_ucs2", "utf8_ucs4", "cp65001"]),
  (.markedUtf8, ["utf_8_sig"]),
  (.ascii, ["ascii", "646", "ansi_x3.4_1968", "ansi_x3_4_1968", "ansi_x3.4_1986", "cp367", "csascii",
    "ibm367", "iso646_us", "iso_646.irv_1991", "iso_ir_6", "us", "us_ascii"]),
  (.utf16, ["utf_16", "u16", "utf16"]),
  (.utf16Little, ["utf_16_le", "unicodelittleunmarked", "utf_16le"]),
  (.utf16Big, ["utf_16_be", "unicodebigunmarked", "utf_16be"]),
  (.utf32, ["utf_32", "u32", "utf32"]),
  (.utf32Little, ["utf_32_le", "utf_32le"]),
  (.utf32Big, ["utf_32_be", "utf_32be"])]

/-- The names of further character sets, whose characters are not held here. -/
def namesElsewhere : List String := [
  "037", "1026", "1125", "1140", "273", "424", "500", "775", "855", "857", "858", "860", "861",
  "862", "863", "864", "865", "869", "932", "936", "949", "950", "big5", "big5_hkscs", "big5_tw",
  "big5hkscs", "charmap", "chinese", "cp037", "cp1006", "cp1026", "cp1051", "cp1125", "cp1140",
  "cp1361", "cp154", "cp273", "cp424", "cp500", "cp720", "cp737", "cp775", "cp855", "cp856", "cp857",
  "cp858", "cp860", "cp861", "cp862", "cp863", "cp864", "cp865", "cp866u", "cp869", "cp875", "cp932",
  "cp936", "cp949", "cp950", "cp_gr", "cp_is", "csbig5", "csibm037", "csibm1026", "csibm273",
  "csibm424", "csibm500", "csibm855", "csibm857", "csibm858", "csibm860", "csibm861", "csibm863",
  "csibm864", "csibm865", "csibm869", "csiso2022jp", "csiso2022kr", "csiso58gb231280",
  "cspc775baltic", "cspc862latinhebrew", "csptcp154", "csshiftjis", "cyrillic_asian", "ebcdic_cp_be",
  "ebcdic_cp_ca", "ebcdic_cp_ch", "ebcdic_cp_he", "ebcdic_cp_nl", "ebcdic_cp_us", "ebcdic_cp_wt",
  "euc_cn", "euc_jis2004", "euc_jis_2004", "euc_jisx0213", "euc_jp", "euc_kr", "euccn",
  "eucgb2312_cn", "eucjis2004", "eucjisx0213", "eucjp", "euckr", "gb18030", "gb18030_2000", "gb2312",
  "gb2312_1980", "gb2312_80", "gbk", "hkscs", "hp_roman8", "hz", "hz_gb", "hz_gb_2312", "hzgb",
  "ibm037", "ibm039", "ibm1026", "ibm1051", "ibm1125", "ibm1140", "ibm273", "ibm424", "ibm500",
  "ibm775", "ibm855", "ibm857", "ibm858", "ibm860", "ibm861", "ibm862", "ibm863", "ibm864", "ibm865",
  "ibm869", "iso2022_jp", "iso2022_jp_1", "iso2022_jp_2", "iso2022_jp_2004", "iso2022_jp_3",
  "iso2022_jp_ext", "iso2022_kr", "iso2022jp", "iso2022jp_1", "iso2022jp_2", "iso2022jp_2004",
  "iso2022jp_3", "iso2022jp_ext", "iso2022kr", "iso_2022_jp", "iso_2022_jp_1", "iso_2022_jp_2",
  "iso_2022_jp_2004", "iso_2022_jp_3", "iso_2022_jp_ext", "iso_2022_kr", "iso_ir_58", "jisx0213",
  "johab", "koi8_t", "korean", "ks_c_5601", "ks_c_5601_1987", "ks_x_1001", "ksc5601", "ksx1001",
  "kz1048", "kz_1048", "mac_arabic", "mac_centeuro", "mac_croatian", "mac_cyrillic", "mac_farsi",
  "mac_greek", "mac_iceland", "mac_latin2", "mac_romanian", "mac_turkish", "maccentraleurope",
  "maccyrillic", "macgreek", "maciceland", "maclatin2", "macturkish", "ms1361", "ms932", "ms936",
  "ms949", "ms950", "ms_kanji", "mskanji", "palmos", "pt154", "ptcp154", "punycode", "r8",
  "raw_unicode_escape", "rk1048", "roman8", "ruscii", "s_jis", "s_jis_2004", "s_jisx0213",
  "shift_jis", "shift_jis_2004", "shift_jisx0213", "shiftjis", "shiftjis2004", "shiftjisx0213",
  "sjis", "sjis_2004", "sjisx0213", "strk1048_2002", "u7", "u_jis", "uhc", "ujis",
  "unicode_1_1_utf_7", "unicode_escape", "utf7", "utf_7", "x_mac_japanese", "x_mac_korean",
  "x_mac_simp_chinese", "x_mac_trad_chinese"]

def plainName (name : List Char) : List Char :=
  let isPlain (c : Char) := c.isAlphanum || c = '.'
  let marked := name.map fun c => if isPlain c then c.toLower else '_'
  let pieces := (splitAt '_' marked).filter (!·.isEmpty)
  joinWith ['_'] pieces

def ofName? (name : List Char) : Option Charset :=
  let name := String.ofList (plainName name)
  ((names.find? fun (_, names) => names.contains name).map (·.1)).or
    ((CodePage.all.find? (·.names.contains name)).map .codePage)

def foreign? (name : List Char) : Option CodeError :=
  let name := String.ofList (plainName name)
  (CodeError.foreignNames.find? fun (_, names) => names.contains name).map (·.1)

def isElsewhere (name : List Char) : Bool :=
  namesElsewhere.contains (String.ofList (plainName name))

def units (big : Bool) : List Nat → List (Option Nat)
  | [] => []
  | [_] => [none]
  | a :: b :: rest => some (if big then a * 256 + b else b * 256 + a) :: units big rest

def isHighHalf (unit : Nat) : Bool :=
  0xD800 ≤ unit && unit < 0xDC00

def isLowHalf (unit : Nat) : Bool :=
  0xDC00 ≤ unit && unit < 0xE000

def unitText : List (Option Nat) → List Char
  | [] => []
  | some high :: some low :: rest =>
    if isHighHalf high then
      if isLowHalf low then
        Char.ofNat (0x10000 + (high - 0xD800) * 0x400 + (low - 0xDC00)) :: unitText rest
      else
        replacementChar :: unitText (some low :: rest)
    else if isLowHalf high then replacementChar :: unitText (some low :: rest)
    else Char.ofNat high :: unitText (some low :: rest)
  | [some unit, none] =>
    -- The second half of a pair begins with the byte that is left.
    if isHighHalf unit then [replacementChar]
    else if isLowHalf unit then [replacementChar, replacementChar]
    else [Char.ofNat unit, replacementChar]
  | some unit :: rest =>
    (if isHighHalf unit || isLowHalf unit then replacementChar else Char.ofNat unit) :: unitText rest
  | none :: rest => replacementChar :: unitText rest

def longUnitText (big : Bool) : List Nat → List Char
  | [] => []
  | a :: b :: c :: d :: rest =>
    let code :=
      if big then ((a * 256 + b) * 256 + c) * 256 + d else ((d * 256 + c) * 256 + b) * 256 + a
    (if code.isValidChar then Char.ofNat code else replacementChar) :: longUnitText big rest
  | _ => [replacementChar]

def decode (charset : Charset) (bytes : List Nat) : Except CodeError (List Char) :=
  match charset with
  | .utf8 => .ok (decodeUtf8 bytes)
  | .markedUtf8 =>
    match bytes with
    | 0xEF :: 0xBB :: 0xBF :: rest => .ok (decodeUtf8 rest)
    | _ => .ok (decodeUtf8 bytes)
  | .ascii => .ok (bytes.map fun byte => if byte < 0x80 then Char.ofNat byte else replacementChar)
  | .codePage page => .ok (page.decode bytes)
  | .utf16 =>
    match bytes with
    | 0xFF :: 0xFE :: rest => .ok (unitText (units false rest))
    | 0xFE :: 0xFF :: rest => .ok (unitText (units true rest))
    | _ => if bytes.length < 2 then .ok (unitText (units false bytes)) else .error (.unmarked 16)
  | .utf16Little => .ok (unitText (units false bytes))
  | .utf16Big => .ok (unitText (units true bytes))
  | .utf32 =>
    match bytes with
    | 0xFF :: 0xFE :: 0 :: 0 :: rest => .ok (longUnitText false rest)
    | 0 :: 0 :: 0xFE :: 0xFF :: rest => .ok (longUnitText true rest)
    | _ => if bytes.length < 4 then .ok (longUnitText false bytes) else .error (.unmarked 32)
  | .utf32Little => .ok (longUnitText false bytes)
  | .utf32Big => .ok (longUnitText true bytes)

def headerParts (inQuotes : Bool) (part : List Char) : List Char → List (List Char)
  | [] => [part.reverse]
  | c :: rest =>
    if c = ';' && !inQuotes then part.reverse :: headerParts false [] rest
    else headerParts (if c = '"' then !inQuotes else inQuotes) (c :: part) rest

def unquotedValue (value : List Char) : List Char :=
  if 1 < value.length && value.head? == some '"' && value.getLast? == some '"' then
    (value.drop 1).dropLast
  else
    value

def nameIn? (header : String) : Option (List Char) :=
  ((headerParts false [] header.toList).drop 1).findSome? fun part =>
    let name := part.takeWhile (· ≠ '=')
    if (trim name).map Char.toLower = "charset".toList then
      some (unquotedValue (trim (part.drop (name.length + 1))))
    else
      none

def ofHeader (header : Option String) : Except CodeError Charset :=
  let name? := header.bind nameIn?
  match name?.bind foreign? with
  | some code => .error code
  | none => .ok ((name?.bind ofName?).getD .utf8)

/-- The text of a body, unless the header tells a character set that is not held here. -/
def text? (header : Option String) (bytes : List Nat) : Option (Except CodeError String) :=
  -- Without any bytes there is nothing to be read, whatever the header tells.
  if bytes.isEmpty then
    some (.ok "")
  else if (header.bind nameIn?).any isElsewhere then
    none
  else
    some do
      let charset ← ofHeader header
      return String.ofList (← charset.decode bytes)

end Charset

end MarkdownIntake.Web
