import HttpReply.Charset.CodePage

/-!
# Charsets

A charset is a code page or one of the multi-byte encodings. Each has one
registered name, under which messages speak of it.
-/
namespace HttpReply

/-- The text encodings that a response body may be written in. -/
inductive Charset
  | singleByte (page : CodePage)
  | utf8
  | utf16be
  | utf16le
  | gb18030
  | gbk
  | big5
  | eucJp
  | eucKr
  | iso2022Jp
  | shiftJis
  | userDefined
  | replacement
deriving DecidableEq, Repr

/-- The registered name of a code page. -/
def CodePage.name : CodePage → String
  | .ibm866 => "IBM866"
  | .iso8859_2 => "ISO-8859-2"
  | .iso8859_3 => "ISO-8859-3"
  | .iso8859_4 => "ISO-8859-4"
  | .iso8859_5 => "ISO-8859-5"
  | .iso8859_6 => "ISO-8859-6"
  | .iso8859_7 => "ISO-8859-7"
  | .iso8859_8 => "ISO-8859-8"
  | .iso8859_8I => "ISO-8859-8-I"
  | .iso8859_10 => "ISO-8859-10"
  | .iso8859_13 => "ISO-8859-13"
  | .iso8859_14 => "ISO-8859-14"
  | .iso8859_15 => "ISO-8859-15"
  | .iso8859_16 => "ISO-8859-16"
  | .koi8R => "KOI8-R"
  | .koi8U => "KOI8-U"
  | .macRoman => "macintosh"
  | .windows874 => "windows-874"
  | .windows1250 => "windows-1250"
  | .windows1251 => "windows-1251"
  | .windows1252 => "windows-1252"
  | .windows1253 => "windows-1253"
  | .windows1254 => "windows-1254"
  | .windows1255 => "windows-1255"
  | .windows1256 => "windows-1256"
  | .windows1257 => "windows-1257"
  | .windows1258 => "windows-1258"
  | .macCyrillic => "x-mac-cyrillic"

namespace Charset

/-- The registered name of a charset. -/
def name : Charset → String
  | .singleByte page => page.name
  | .utf8 => "UTF-8"
  | .utf16be => "UTF-16BE"
  | .utf16le => "UTF-16LE"
  | .gb18030 => "gb18030"
  | .gbk => "GBK"
  | .big5 => "Big5"
  | .eucJp => "EUC-JP"
  | .eucKr => "EUC-KR"
  | .iso2022Jp => "ISO-2022-JP"
  | .shiftJis => "Shift_JIS"
  | .userDefined => "x-user-defined"
  | .replacement => "replacement"

/-- Every charset. -/
def all : List Charset :=
  CodePage.all.map singleByte ++
    [.utf8, .utf16be, .utf16le, .gb18030, .gbk, .big5, .eucJp, .eucKr, .iso2022Jp, .shiftJis,
     .userDefined, .replacement]

theorem mem_all (charset : Charset) : charset ∈ all := by
  cases charset with
  | singleByte page => exact List.mem_append_left _ (List.mem_map_of_mem (CodePage.mem_all page))
  | _ => exact List.mem_append_right _ (by decide)

end Charset

end HttpReply
