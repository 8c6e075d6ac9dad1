import PluralForms.Unicode.CodeSet

/-!
# Line break opportunities

Where a line of text may be broken, by the line breaking algorithm of Unicode Standard Annex 14
(Unicode 15.0): every character has a line breaking class, and a chain of rules over the classes
on both sides of a position, tried in order, tells whether a break is allowed there.

Classes that depend on the language are settled the way the annex suggests when nothing more is
known: ambiguous, surrogate and unknown characters count as alphabetic, conditional Japanese
starters as non-starters, and South East Asian characters as combining marks when they are marks
and as alphabetic otherwise. Spacing and the widths of characters play no part.

The rules look back past spaces for a few classes (`OP SP* ×` and its kin); `Before` keeps
exactly what they need, and `Before.next` updates it one character at a time.
-/

namespace PluralForms

namespace Unicode

/-- The line breaking classes, named by their codes in the annex. -/
inductive LineClass where
  /-- Alphabetic characters and ordinary symbols. -/
  | AL
  /-- A break opportunity before and after (the em dash). -/
  | B2
  /-- A break opportunity after (hyphens that are not hyphen-minus, tabs, most spaces other than the space). -/
  | BA
  /-- A break opportunity before (acute accents and the like). -/
  | BB
  /-- A mandatory break (form feed, line and paragraph separators). -/
  | BK
  /-- A break whose place depends on the surrounding text (the object replacement character). -/
  | CB
  /-- Closing punctuation. -/
  | CL
  /-- Combining marks, which attach to the character before them. -/
  | CM
  /-- Closing parentheses. -/
  | CP
  /-- The carriage return. -/
  | CR
  /-- Emoji bases, which a skin-tone modifier may follow. -/
  | EB
  /-- Emoji skin-tone modifiers. -/
  | EM
  /-- Exclamation and interrogation marks. -/
  | EX
  /-- Non-breaking glue (the no-break space). -/
  | GL
  /-- Hangul syllables of a leading consonant and a vowel. -/
  | H2
  /-- Hangul syllables of a leading consonant, a vowel and a final consonant. -/
  | H3
  /-- Hebrew letters. -/
  | HL
  /-- The hyphen-minus. -/
  | HY
  /-- Ideographs, kana and pictographs, with a break opportunity on both sides. -/
  | ID
  /-- Inseparable characters (leaders and ellipses). -/
  | IN
  /-- Separators inside numbers (comma, full stop, colon). -/
  | IS
  /-- Conjoining Hangul leading consonants. -/
  | JL
  /-- Conjoining Hangul final consonants. -/
  | JT
  /-- Conjoining Hangul vowels. -/
  | JV
  /-- The line feed. -/
  | LF
  /-- The next-line control. -/
  | NL
  /-- Characters that do not start a line (small kana, iteration marks). -/
  | NS
  /-- Digits. -/
  | NU
  /-- Opening punctuation. -/
  | OP
  /-- Signs written after a number (percent, degree). -/
  | PO
  /-- Signs written before a number (currency signs, plus). -/
  | PR
  /-- Quotation marks. -/
  | QU
  /-- Regional indicators, which pair into flags. -/
  | RI
  /-- The space. -/
  | SP
  /-- The solidus, which allows a break after it but not before a digit. -/
  | SY
  /-- Word joiners, which forbid breaks on both sides. -/
  | WJ
  /-- The zero width space, a break opportunity. -/
  | ZW
  /-- The zero width joiner. -/
  | ZWJ
  deriving DecidableEq, Repr

/-- The class named by its code; unknown codes count as alphabetic. -/
def LineClass.ofCode : String → LineClass
  | "AL" => .AL
  | "B2" => .B2
  | "BA" => .BA
  | "BB" => .BB
  | "BK" => .BK
  | "CB" => .CB
  | "CL" => .CL
  | "CM" => .CM
  | "CP" => .CP
  | "CR" => .CR
  | "EB" => .EB
  | "EM" => .EM
  | "EX" => .EX
  | "GL" => .GL
  | "H2" => .H2
  | "H3" => .H3
  | "HL" => .HL
  | "HY" => .HY
  | "ID" => .ID
  | "IN" => .IN
  | "IS" => .IS
  | "JL" => .JL
  | "JT" => .JT
  | "JV" => .JV
  | "LF" => .LF
  | "NL" => .NL
  | "NS" => .NS
  | "NU" => .NU
  | "OP" => .OP
  | "PO" => .PO
  | "PR" => .PR
  | "QU" => .QU
  | "RI" => .RI
  | "SP" => .SP
  | "SY" => .SY
  | "WJ" => .WJ
  | "ZW" => .ZW
  | "ZWJ" => .ZWJ
  | _ => .AL

/-- The line breaking class of every code point outside the Hangul syllables, by runs. -/
def lineClassTable : CodeMap LineClass := CodeMap.ofLines LineClass.ofCode .AL
  ["0 CM 9 BA A LF B BK D CR E CM 20 SP 21 EX 22 QU 23 AL 24 PR 25 PO 26 AL 27 QU 28 OP 29 CP",
   "2A AL 2B PR 2C IS 2D HY 2E IS 2F SY 30 NU 3A IS 3C AL 3F EX 40 AL 5B OP 5C PR 5D CP 5E AL",
   "7B OP 7C BA 7D CL 7E AL 7F CM 85 NL 86 CM A0 GL A1 OP A2 PO A3 PR A6 AL AB QU AC AL AD BA",
   "AE AL B0 PO B1 PR B2 AL B4 BB B5 AL BB QU BC AL BF OP C0 AL 2C8 BB 2C9 AL 2CC BB 2CD AL",
   "2DF BB 2E0 AL 300 CM 34F GL 350 CM 35C GL 363 CM 370 AL 37E IS 37F AL 483 CM 48A AL 589",
   "IS 58A BA 58B AL 58F PR 590 AL 591 CM 5BE BA 5BF CM 5C0 AL 5C1 CM 5C3 AL 5C4 CM 5C6 EX",
   "5C7 CM 5C8 AL 5D0 HL 5EB AL 5EF HL 5F3 AL 609 PO 60C IS 60E AL 610 CM 61B EX 61C CM 61D",
   "EX 620 AL 64B CM 660 NU 66A PO 66B NU 66D AL 670 CM 671 AL 6D4 EX 6D5 AL 6D6 CM 6DD AL",
   "6DF CM 6E5 AL 6E7 CM 6E9 AL 6EA CM 6EE AL 6F0 NU 6FA AL 711 CM 712 AL 730 CM 74B AL 7A6",
   "CM 7B1 AL 7C0 NU 7CA AL 7EB CM 7F4 AL 7F8 IS 7F9 EX 7FA AL 7FD CM 7FE PR 800 AL 816 CM",
   "81A AL 81B CM 824 AL 825 CM 828 AL 829 CM 82E AL 859 CM 85C AL 898 CM 8A0 AL 8CA CM 8E2",
   "AL 8E3 CM 904 AL 93A CM 93D AL 93E CM 950 AL 951 CM 958 AL 962 CM 964 BA 966 NU 970 AL",
   "981 CM 984 AL 9BC CM 9BD AL 9BE CM 9C5 AL 9C7 CM 9C9 AL 9CB CM 9CE AL 9D7 CM 9D8 AL 9E2",
   "CM 9E4 AL 9E6 NU 9F0 AL 9F2 PO 9F4 AL 9F9 PO 9FA AL 9FB PR 9FC AL 9FE CM 9FF AL A01 CM",
   "A04 AL A3C CM A3D AL A3E CM A43 AL A47 CM A49 AL A4B CM A4E AL A51 CM A52 AL A66 NU A70",
   "CM A72 AL A75 CM A76 AL A81 CM A84 AL ABC CM ABD AL ABE CM AC6 AL AC7 CM ACA AL ACB CM",
   "ACE AL AE2 CM AE4 AL AE6 NU AF0 AL AF1 PR AF2 AL AFA CM B00 AL B01 CM B04 AL B3C CM B3D",
   "AL B3E CM B45 AL B47 CM B49 AL B4B CM B4E AL B55 CM B58 AL B62 CM B64 AL B66 NU B70 AL",
   "B82 CM B83 AL BBE CM BC3 AL BC6 CM BC9 AL BCA CM BCE AL BD7 CM BD8 AL BE6 NU BF0 AL BF9",
   "PR BFA AL C00 CM C05 AL C3C CM C3D AL C3E CM C45 AL C46 CM C49 AL C4A CM C4E AL C55 CM",
   "C57 AL C62 CM C64 AL C66 NU C70 AL C77 BB C78 AL C81 CM C84 BB C85 AL CBC CM CBD AL CBE",
   "CM CC5 AL CC6 CM CC9 AL CCA CM CCE AL CD5 CM CD7 AL CE2 CM CE4 AL CE6 NU CF0 AL CF3 CM",
   "CF4 AL D00 CM D04 AL D3B CM D3D AL D3E CM D45 AL D46 CM D49 AL D4A CM D4E AL D57 CM D58",
   "AL D62 CM D64 AL D66 NU D70 AL D79 PO D7A AL D81 CM D84 AL DCA CM DCB AL DCF CM DD5 AL",
   "DD6 CM DD7 AL DD8 CM DE0 AL DE6 NU DF0 AL DF2 CM DF4 AL E31 CM E32 AL E34 CM E3B AL E3F",
   "PR E40 AL E47 CM E4F AL E50 NU E5A BA E5C AL EB1 CM EB2 AL EB4 CM EBD AL EC8 CM ECF AL",
   "ED0 NU EDA AL F01 BB F05 AL F06 BB F08 GL F09 BB F0B BA F0C GL F0D EX F12 GL F13 AL F14",
   "EX F15 AL F18 CM F1A AL F20 NU F2A AL F34 BA F35 CM F36 AL F37 CM F38 AL F39 CM F3A OP",
   "F3B CL F3C OP F3D CL F3E CM F40 AL F71 CM F7F BA F80 CM F85 BA F86 CM F88 AL F8D CM F98",
   "AL F99 CM FBD AL FBE BA FC0 AL FC6 CM FC7 AL FD0 BB FD2 BA FD3 BB FD4 AL FD9 GL FDB AL",
   "102B CM 103F AL 1040 NU 104A BA 104C AL 1056 CM 105A AL 105E CM 1061 AL 1062 CM 1065 AL",
   "1067 CM 106E AL 1071 CM 1075 AL 1082 CM 108E AL 108F CM 1090 NU 109A CM 109E AL 1100 JL",
   "1160 JV 11A8 JT 1200 AL 135D CM 1360 AL 1361 BA 1362 AL 1400 BA 1401 AL 1680 BA 1681 AL",
   "169B OP 169C CL 169D AL 16EB BA 16EE AL 1712 CM 1716 AL 1732 CM 1735 BA 1737 AL 1752 CM",
   "1754 AL 1772 CM 1774 AL 17B4 CM 17D4 BA 17D6 NS 17D7 AL 17D8 BA 17D9 AL 17DA BA 17DB PR",
   "17DC AL 17DD CM 17DE AL 17E0 NU 17EA AL 1802 EX 1804 BA 1806 BB 1807 AL 1808 EX 180A AL",
   "180B CM 180E GL 180F CM 1810 NU 181A AL 1885 CM 1887 AL 18A9 CM 18AA AL 1920 CM 192C AL",
   "1930 CM 193C AL 1944 EX 1946 NU 1950 AL 19D0 NU 19DA AL 1A17 CM 1A1C AL 1A55 CM 1A5F AL",
   "1A60 CM 1A7D AL 1A7F CM 1A80 NU 1A8A AL 1A90 NU 1A9A AL 1AB0 CM 1ACF AL 1B00 CM 1B05 AL",
   "1B34 CM 1B45 AL 1B50 NU 1B5A BA 1B5C AL 1B5D BA 1B61 AL 1B6B CM 1B74 AL 1B7D BA 1B7F AL",
   "1B80 CM 1B83 AL 1BA1 CM 1BAE AL 1BB0 NU 1BBA AL 1BE6 CM 1BF4 AL 1C24 CM 1C38 AL 1C3B BA",
   "1C40 NU 1C4A AL 1C50 NU 1C5A AL 1C7E BA 1C80 AL 1CD0 CM 1CD3 AL 1CD4 CM 1CE9 AL 1CED CM",
   "1CEE AL 1CF4 CM 1CF5 AL 1CF7 CM 1CFA AL 1DC0 CM 1DCD GL 1DCE CM 1DFC GL 1DFD CM 1E00 AL",
   "1FFD BB 1FFE AL 2000 BA 2007 GL 2008 BA 200B ZW 200C CM 200D ZWJ 200E CM 2010 BA 2011 GL",
   "2012 BA 2014 B2 2015 AL 2018 QU 201A OP 201B QU 201E OP 201F QU 2020 AL 2024 IN 2027 BA",
   "2028 BK 202A CM 202F GL 2030 PO 2038 AL 2039 QU 203B AL 203C NS 203E AL 2044 IS 2045 OP",
   "2046 CL 2047 NS 204A AL 2056 BA 2057 PO 2058 BA 205C AL 205D BA 2060 WJ 2061 AL 2066 CM",
   "2070 AL 207D OP 207E CL 207F AL 208D OP 208E CL 208F AL 20A0 PR 20A7 PO 20A8 PR 20B6 PO",
   "20B7 PR 20BB PO 20BC PR 20BE PO 20BF PR 20C0 PO 20C1 PR 20D0 CM 20F1 AL 2103 PO 2104 AL",
   "2109 PO 210A AL 2116 PR 2117 AL 2212 PR 2214 AL 22EF IN 22F0 AL 2308 OP 2309 CL 230A OP",
   "230B CL 230C AL 231A ID 231C AL 2329 OP 232A CL 232B AL 23F0 ID 23F4 AL 2600 ID 2604 AL",
   "2614 ID 2616 AL 2618 ID 2619 AL 261A ID 261D EB 261E ID 2620 AL 2639 ID 263C AL 2668 ID",
   "2669 AL 267F ID 2680 AL 26BD ID 26C9 AL 26CD ID 26CE AL 26CF ID 26D2 AL 26D3 ID 26D5 AL",
   "26D8 ID 26DA AL 26DC ID 26DD AL 26DF ID 26E2 AL 26EA ID 26EB AL 26F1 ID 26F6 AL 26F7 ID",
   "26F9 EB 26FA ID 26FB AL 26FD ID 2705 AL 2708 ID 270A EB 270E AL 275B QU 2761 AL 2762 EX",
   "2764 ID 2765 AL 2768 OP 2769 CL 276A OP 276B CL 276C OP 276D CL 276E OP 276F CL 2770 OP",
   "2771 CL 2772 OP 2773 CL 2774 OP 2775 CL 2776 AL 27C5 OP 27C6 CL 27C7 AL 27E6 OP 27E7 CL",
   "27E8 OP 27E9 CL 27EA OP 27EB CL 27EC OP 27ED CL 27EE OP 27EF CL 27F0 AL 2983 OP 2984 CL",
   "2985 OP 2986 CL 2987 OP 2988 CL 2989 OP 298A CL 298B OP 298C CL 298D OP 298E CL 298F OP",
   "2990 CL 2991 OP 2992 CL 2993 OP 2994 CL 2995 OP 2996 CL 2997 OP 2998 CL 2999 AL 29D8 OP",
   "29D9 CL 29DA OP 29DB CL 29DC AL 29FC OP 29FD CL 29FE AL 2CEF CM 2CF2 AL 2CF9 EX 2CFA BA",
   "2CFD AL 2CFE EX 2CFF BA 2D00 AL 2D70 BA 2D71 AL 2D7F CM 2D80 AL 2DE0 CM 2E00 QU 2E0E BA",
   "2E16 AL 2E17 BA 2E18 OP 2E19 BA 2E1A AL 2E1C QU 2E1E AL 2E20 QU 2E22 OP 2E23 CL 2E24 OP",
   "2E25 CL 2E26 OP 2E27 CL 2E28 OP 2E29 CL 2E2A BA 2E2E EX 2E2F AL 2E30 BA 2E32 AL 2E33 BA",
   "2E35 AL 2E3A B2 2E3C BA 2E3F AL 2E40 BA 2E42 OP 2E43 BA 2E4B AL 2E4C BA 2E4D AL 2E4E BA",
   "2E50 AL 2E53 EX 2E55 OP 2E56 CL 2E57 OP 2E58 CL 2E59 OP 2E5A CL 2E5B OP 2E5C CL 2E5D BA",
   "2E5E AL 2E80 ID 2E9A AL 2E9B ID 2EF4 AL 2F00 ID 2FD6 AL 2FF0 ID 2FFC AL 3000 BA 3001 CL",
   "3003 ID 3005 NS 3006 ID 3008 OP 3009 CL 300A OP 300B CL 300C OP 300D CL 300E OP 300F CL",
   "3010 OP 3011 CL 3012 ID 3014 OP 3015 CL 3016 OP 3017 CL 3018 OP 3019 CL 301A OP 301B CL",
   "301C NS 301D OP 301E CL 3020 ID 302A CM 3030 ID 3035 CM 3036 ID 303B NS 303D ID 3040 AL",
   "3041 NS 3042 ID 3043 NS 3044 ID 3045 NS 3046 ID 3047 NS 3048 ID 3049 NS 304A ID 3063 NS",
   "3064 ID 3083 NS 3084 ID 3085 NS 3086 ID 3087 NS 3088 ID 308E NS 308F ID 3095 NS 3097 AL",
   "3099 CM 309B NS 309F ID 30A0 NS 30A2 ID 30A3 NS 30A4 ID 30A5 NS 30A6 ID 30A7 NS 30A8 ID",
   "30A9 NS 30AA ID 30C3 NS 30C4 ID 30E3 NS 30E4 ID 30E5 NS 30E6 ID 30E7 NS 30E8 ID 30EE NS",
   "30EF ID 30F5 NS 30F7 ID 30FB NS 30FF ID 3100 AL 3105 ID 3130 AL 3131 ID 318F AL 3190 ID",
   "31E4 AL 31F0 NS 3200 ID 321F AL 3220 ID 3248 AL 3250 ID 4DC0 AL 4E00 ID A015 NS A016 ID",
   "A48D AL A490 ID A4C7 AL A4FE BA A500 AL A60D BA A60E EX A60F BA A610 AL A620 NU A62A AL",
   "A66F CM A673 AL A674 CM A67E AL A69E CM A6A0 AL A6F0 CM A6F2 AL A6F3 BA A6F8 AL A802 CM",
   "A803 AL A806 CM A807 AL A80B CM A80C AL A823 CM A828 AL A82C CM A82D AL A838 PO A839 AL",
   "A874 BB A876 EX A878 AL A880 CM A882 AL A8B4 CM A8C6 AL A8CE BA A8D0 NU A8DA AL A8E0 CM",
   "A8F2 AL A8FC BB A8FD AL A8FF CM A900 NU A90A AL A926 CM A92E BA A930 AL A947 CM A954 AL",
   "A960 JL A97D AL A980 CM A984 AL A9B3 CM A9C1 AL A9C7 BA A9CA AL A9D0 NU A9DA AL A9E5 CM",
   "A9E6 AL A9F0 NU A9FA AL AA29 CM AA37 AL AA43 CM AA44 AL AA4C CM AA4E AL AA50 NU AA5A AL",
   "AA5D BA AA60 AL AA7B CM AA7E AL AAB0 CM AAB1 AL AAB2 CM AAB5 AL AAB7 CM AAB9 AL AABE CM",
   "AAC0 AL AAC1 CM AAC2 AL AAEB CM AAF0 BA AAF2 AL AAF5 CM AAF7 AL ABE3 CM ABEB BA ABEC CM",
   "ABEE AL ABF0 NU ABFA AL AC00 H2 D7A4 AL D7B0 JV D7C7 AL D7CB JT D7FC AL F900 ID FB00 AL",
   "FB1D HL FB1E CM FB1F HL FB29 AL FB2A HL FB37 AL FB38 HL FB3D AL FB3E HL FB3F AL FB40 HL",
   "FB42 AL FB43 HL FB45 AL FB46 HL FB50 AL FD3E CL FD3F OP FD40 AL FDFC PO FDFD AL FE00 CM",
   "FE10 IS FE11 CL FE13 IS FE15 EX FE17 OP FE18 CL FE19 IN FE1A AL FE20 CM FE30 ID FE35 OP",
   "FE36 CL FE37 OP FE38 CL FE39 OP FE3A CL FE3B OP FE3C CL FE3D OP FE3E CL FE3F OP FE40 CL",
   "FE41 OP FE42 CL FE43 OP FE44 CL FE45 ID FE47 OP FE48 CL FE49 ID FE50 CL FE51 ID FE52 CL",
   "FE53 AL FE54 NS FE56 EX FE58 ID FE59 OP FE5A CL FE5B OP FE5C CL FE5D OP FE5E CL FE5F ID",
   "FE67 AL FE68 ID FE69 PR FE6A PO FE6B ID FE6C AL FEFF WJ FF00 AL FF01 EX FF02 ID FF04 PR",
   "FF05 PO FF06 ID FF08 OP FF09 CL FF0A ID FF0C CL FF0D ID FF0E CL FF0F ID FF1A NS FF1C ID",
   "FF1F EX FF20 ID FF3B OP FF3C ID FF3D CL FF3E ID FF5B OP FF5C ID FF5D CL FF5E ID FF5F OP",
   "FF60 CL FF62 OP FF63 CL FF65 NS FF66 ID FF67 NS FF71 ID FF9E NS FFA0 ID FFBF AL FFC2 ID",
   "FFC8 AL FFCA ID FFD0 AL FFD2 ID FFD8 AL FFDA ID FFDD AL FFE0 PO FFE1 PR FFE2 ID FFE5 PR",
   "FFE7 AL FFF9 CM FFFC CB FFFD AL 10100 BA 10103 AL 101FD CM 101FE AL 102E0 CM 102E1 AL",
   "10376 CM 1037B AL 1039F BA 103A0 AL 103D0 BA 103D1 AL 104A0 NU 104AA AL 10857 BA 10858 AL",
   "1091F BA 10920 AL 10A01 CM 10A04 AL 10A05 CM 10A07 AL 10A0C CM 10A10 AL 10A38 CM 10A3B AL",
   "10A3F CM 10A40 AL 10A50 BA 10A58 AL 10AE5 CM 10AE7 AL 10AF0 BA 10AF6 IN 10AF7 AL 10B39 BA",
   "10B40 AL 10D24 CM 10D28 AL 10D30 NU 10D3A AL 10EAB CM 10EAD BA 10EAE AL 10EFD CM 10F00 AL",
   "10F46 CM 10F51 AL 10F82 CM 10F86 AL 11000 CM 11003 AL 11038 CM 11047 BA 11049 AL 11066 NU",
   "11070 CM 11071 AL 11073 CM 11075 AL 1107F CM 11083 AL 110B0 CM 110BB AL 110BE BA 110C2 CM",
   "110C3 AL 110F0 NU 110FA AL 11100 CM 11103 AL 11127 CM 11135 AL 11136 NU 11140 BA 11144 AL",
   "11145 CM 11147 AL 11173 CM 11174 AL 11175 BB 11176 AL 11180 CM 11183 AL 111B3 CM 111C1 AL",
   "111C5 BA 111C7 AL 111C8 BA 111C9 CM 111CD AL 111CE CM 111D0 NU 111DA AL 111DB BB 111DC AL",
   "111DD BA 111E0 AL 1122C CM 11238 BA 1123A AL 1123B BA 1123D AL 1123E CM 1123F AL 11241 CM",
   "11242 AL 112A9 BA 112AA AL 112DF CM 112EB AL 112F0 NU 112FA AL 11300 CM 11304 AL 1133B CM",
   "1133D AL 1133E CM 11345 AL 11347 CM 11349 AL 1134B CM 1134E AL 11357 CM 11358 AL 11362 CM",
   "11364 AL 11366 CM 1136D AL 11370 CM 11375 AL 11435 CM 11447 AL 1144B BA 1144F AL 11450 NU",
   "1145A BA 1145C AL 1145E CM 1145F AL 114B0 CM 114C4 AL 114D0 NU 114DA AL 115AF CM 115B6 AL",
   "115B8 CM 115C1 BB 115C2 BA 115C4 EX 115C6 AL 115C9 BA 115D8 AL 115DC CM 115DE AL 11630 CM",
   "11641 BA 11643 AL 11650 NU 1165A AL 11660 BB 1166D AL 116AB CM 116B8 AL 116C0 NU 116CA AL",
   "1171D CM 1172C AL 11730 NU 1173A AL 1173C BA 1173F AL 1182C CM 1183B AL 118E0 NU 118EA AL",
   "11930 CM 11936 AL 11937 CM 11939 AL 1193B CM 1193F AL 11940 CM 11941 AL 11942 CM 11944 BA",
   "11947 AL 11950 NU 1195A AL 119D1 CM 119D8 AL 119DA CM 119E1 AL 119E2 BB 119E3 AL 119E4 CM",
   "119E5 AL 11A01 CM 11A0B AL 11A33 CM 11A3A AL 11A3B CM 11A3F BB 11A40 AL 11A41 BA 11A45 BB",
   "11A46 AL 11A47 CM 11A48 AL 11A51 CM 11A5C AL 11A8A CM 11A9A BA 11A9D AL 11A9E BB 11AA1 BA",
   "11AA3 AL 11B00 BB 11B0A AL 11C2F CM 11C37 AL 11C38 CM 11C40 AL 11C41 BA 11C46 AL 11C50 NU",
   "11C5A AL 11C70 BB 11C71 EX 11C72 AL 11C92 CM 11CA8 AL 11CA9 CM 11CB7 AL 11D31 CM 11D37 AL",
   "11D3A CM 11D3B AL 11D3C CM 11D3E AL 11D3F CM 11D46 AL 11D47 CM 11D48 AL 11D50 NU 11D5A AL",
   "11D8A CM 11D8F AL 11D90 CM 11D92 AL 11D93 CM 11D98 AL 11DA0 NU 11DAA AL 11EF3 CM 11EF7 AL",
   "11F00 CM 11F02 AL 11F03 CM 11F04 AL 11F34 CM 11F3B AL 11F3E CM 11F43 BA 11F45 ID 11F50 NU",
   "11F5A AL 11FDD PO 11FE1 AL 11FFF BA 12000 AL 12470 BA 12475 AL 13258 OP 1325B CL 1325E AL",
   "13282 CL 13283 AL 13286 OP 13287 CL 13288 OP 13289 CL 1328A AL 13379 OP 1337A CL 1337C AL",
   "13430 GL 13437 OP 13438 CL 13439 GL 1343C OP 1343D CL 1343E OP 1343F CL 13440 CM 13441 AL",
   "13447 CM 13456 AL 145CE OP 145CF CL 145D0 AL 16A60 NU 16A6A AL 16A6E BA 16A70 AL 16AC0 NU",
   "16ACA AL 16AF0 CM 16AF5 BA 16AF6 AL 16B30 CM 16B37 BA 16B3A AL 16B44 BA 16B45 AL 16B50 NU",
   "16B5A AL 16E97 BA 16E99 AL 16F4F CM 16F50 AL 16F51 CM 16F88 AL 16F8F CM 16F93 AL 16FE0 NS",
   "16FE4 GL 16FE5 AL 16FF0 CM 16FF2 AL 17000 ID 187F8 AL 18800 ID 18B00 AL 18D00 ID 18D09 AL",
   "1B000 ID 1B123 AL 1B132 NS 1B133 AL 1B150 NS 1B153 AL 1B155 NS 1B156 AL 1B164 NS 1B168 AL",
   "1B170 ID 1B2FC AL 1BC9D CM 1BC9F BA 1BCA0 CM 1BCA4 AL 1CF00 CM 1CF2E AL 1CF30 CM 1CF47 AL",
   "1D165 CM 1D16A AL 1D16D CM 1D183 AL 1D185 CM 1D18C AL 1D1AA CM 1D1AE AL 1D242 CM 1D245 AL",
   "1D7CE NU 1D800 AL 1DA00 CM 1DA37 AL 1DA3B CM 1DA6D AL 1DA75 CM 1DA76 AL 1DA84 CM 1DA85 AL",
   "1DA87 BA 1DA8B AL 1DA9B CM 1DAA0 AL 1DAA1 CM 1DAB0 AL 1E000 CM 1E007 AL 1E008 CM 1E019 AL",
   "1E01B CM 1E022 AL 1E023 CM 1E025 AL 1E026 CM 1E02B AL 1E08F CM 1E090 AL 1E130 CM 1E137 AL",
   "1E140 NU 1E14A AL 1E2AE CM 1E2AF AL 1E2EC CM 1E2F0 NU 1E2FA AL 1E2FF PR 1E300 AL 1E4EC CM",
   "1E4F0 NU 1E4FA AL 1E8D0 CM 1E8D7 AL 1E944 CM 1E94B AL 1E950 NU 1E95A AL 1E95E OP 1E960 AL",
   "1ECAC PO 1ECAD AL 1ECB0 PO 1ECB1 AL 1F000 ID 1F100 AL 1F10D ID 1F110 AL 1F16D ID 1F170 AL",
   "1F1AD ID 1F1E6 RI 1F200 ID 1F385 EB 1F386 ID 1F39C AL 1F39E ID 1F3B5 AL 1F3B7 ID 1F3BC AL",
   "1F3BD ID 1F3C2 EB 1F3C5 ID 1F3C7 EB 1F3C8 ID 1F3CA EB 1F3CD ID 1F3FB EM 1F400 ID 1F442 EB",
   "1F444 ID 1F446 EB 1F451 ID 1F466 EB 1F479 ID 1F47C EB 1F47D ID 1F481 EB 1F484 ID 1F485 EB",
   "1F488 ID 1F48F EB 1F490 ID 1F491 EB 1F492 ID 1F4A0 AL 1F4A1 ID 1F4A2 AL 1F4A3 ID 1F4A4 AL",
   "1F4A5 ID 1F4AA EB 1F4AB ID 1F4AF AL 1F4B0 ID 1F4B1 AL 1F4B3 ID 1F500 AL 1F507 ID 1F517 AL",
   "1F525 ID 1F532 AL 1F54A ID 1F574 EB 1F576 ID 1F57A EB 1F57B ID 1F590 EB 1F591 ID 1F595 EB",
   "1F597 ID 1F5D4 AL 1F5DC ID 1F5F4 AL 1F5FA ID 1F645 EB 1F648 ID 1F64B EB 1F650 AL 1F676 QU",
   "1F679 NS 1F67C AL 1F680 ID 1F6A3 EB 1F6A4 ID 1F6B4 EB 1F6B7 ID 1F6C0 EB 1F6C1 ID 1F6CC EB",
   "1F6CD ID 1F700 AL 1F774 ID 1F780 AL 1F7D5 ID 1F800 AL 1F80C ID 1F810 AL 1F848 ID 1F850 AL",
   "1F85A ID 1F860 AL 1F888 ID 1F890 AL 1F8AE ID 1F900 AL 1F90C EB 1F90D ID 1F90F EB 1F910 ID",
   "1F918 EB 1F920 ID 1F926 EB 1F927 ID 1F930 EB 1F93A ID 1F93C EB 1F93F ID 1F977 EB 1F978 ID",
   "1F9B5 EB 1F9B7 ID 1F9B8 EB 1F9BA ID 1F9BB EB 1F9BC ID 1F9CD EB 1F9D0 ID 1F9D1 EB 1F9DE ID",
   "1FA00 AL 1FA54 ID 1FAC3 EB 1FAC6 ID 1FAF0 EB 1FAF9 ID 1FB00 AL 1FBF0 NU 1FBFA AL 1FC00 ID",
   "1FFFE AL 20000 ID 2FFFE AL 30000 ID 3FFFE AL E0001 CM E0002 AL E0020 CM E0080 AL E0100 CM",
   "E01F0 AL"]

/-- The line breaking class of a character. Hangul syllables come in blocks of 28, the first of
each without a final consonant. -/
def lineClass (c : Char) : LineClass :=
  let n := c.toNat
  if 0xAC00 ≤ n && n ≤ 0xD7A3 then (if (n - 0xAC00) % 28 = 0 then .H2 else .H3)
  else lineClassTable.find n

/-- What the rules remember of the text before a position. -/
inductive Before where
  /-- Nothing: the position is the start of the text. -/
  | start
  /-- A character of the class, with the combining marks that follow it. -/
  | char (c : LineClass)
  /-- Spaces, after a character of the class, or at the start of the text. -/
  | spaces (after : Option LineClass)
  /-- A Hebrew letter and a hyphen or break-after character after it. -/
  | hebrewDash
  /-- The second of a pair of regional indicators. -/
  | flagPair
  deriving DecidableEq, Repr

namespace Before

/-- The class of the character just before the position, as the pair rules see it. -/
def left : Before → Option LineClass
  | .start => none
  | .char c => some c
  | .spaces _ => some .SP
  | .hebrewDash => some .HY
  | .flagPair => some .RI

def isSpaces : Before → Bool
  | .spaces _ => true
  | _ => false

/-- Whether the text before ends in a character of one of the classes, possibly followed by
spaces. -/
def endsIn (b : Before) (cs : List LineClass) : Bool :=
  match b with
  | .char c => cs.contains c
  | .spaces (some c) => cs.contains c
  | _ => false

/-- What is remembered after one more character of class `r`. Spaces remember the character
before them; a combining mark or joiner belongs to the character before it, unless that is a
space, a break or the start, and then it counts as alphabetic. -/
def next (b : Before) (r : LineClass) : Before :=
  if r = .SP then
    match b with
    | .start => .spaces none
    | .spaces a => .spaces a
    | other => .spaces other.left
  else if r = .CM || r = .ZWJ then
    match b with
    | .char c => if [LineClass.BK, .CR, .LF, .NL, .ZW].contains c then .char .AL else b
    | .hebrewDash => b
    | .flagPair => b
    | _ => .char .AL
  else if r = .RI && b = .char .RI then .flagPair
  else if (r = .HY || r = .BA) && b = .char .HL then .hebrewDash
  else .char r

end Before

/-- Pairs of classes that stay together (rules 23 to 30b): letters with digits, numbers with
their signs and punctuation, the parts of a Hangul syllable, letters with letters, numeric
punctuation before letters, letters and digits with parentheses, and emoji with their
modifiers. -/
def joined (l r : LineClass) : Bool :=
  let letter (c : LineClass) := c = .AL || c = .HL
  let jamo := [LineClass.JL, .JV, .JT, .H2, .H3]
  (letter l && r = .NU) || (l = .NU && letter r) ||
  (l = .PR && [LineClass.ID, .EB, .EM].contains r) || ([LineClass.ID, .EB, .EM].contains l && r = .PO) ||
  ((l = .PR || l = .PO) && letter r) || (letter l && (r = .PR || r = .PO)) ||
  ([LineClass.CL, .CP, .NU].contains l && (r = .PO || r = .PR)) ||
  ((l = .PO || l = .PR) && (r = .OP || r = .NU)) ||
  ([LineClass.HY, .IS, .NU, .SY].contains l && r = .NU) ||
  (l = .JL && [LineClass.JL, .JV, .H2, .H3].contains r) ||
  ((l = .JV || l = .H2) && (r = .JV || r = .JT)) ||
  ((l = .JT || l = .H3) && r = .JT) ||
  (jamo.contains l && r = .PO) || (l = .PR && jamo.contains r) ||
  (letter l && letter r) || (l = .IS && letter r) ||
  ((letter l || l = .NU) && r = .OP) || (l = .CP && (letter r || r = .NU)) ||
  (l = .EB && r = .EM)

/-- Rules 11 to 31, for a character of class `r` that is not a combining mark attached to the
character before it: word joiners and glue (11, 12, 12a); closing punctuation, exclamations,
separators and the solidus, even after spaces (13); after opening punctuation, and the pairs that
hold across spaces (14 to 17); after spaces (18); quotation marks, contingent breaks,
non-starters, Hebrew hyphens and ellipses (19 to 22); the pairs that stay together, and regional
indicators two by two (23 to 30b); elsewhere a break (31). -/
def pairAllows (b : Before) (r : LineClass) : Bool :=
  let l := b.left
  if r = .WJ || l = some .WJ then false
  else if l = some .GL then false
  else if r = .GL && !b.isSpaces && l ≠ some .BA && l ≠ some .HY then false
  else if [LineClass.CL, .CP, .EX, .IS, .SY].contains r then false
  else if b.endsIn [.OP] then false
  else if r = .OP && b.endsIn [.QU] then false
  else if r = .NS && b.endsIn [.CL, .CP] then false
  else if r = .B2 && b.endsIn [.B2] then false
  else if b.isSpaces then true
  else if r = .QU || l = some .QU then false
  else if r = .CB || l = some .CB then true
  else if [LineClass.BA, .HY, .NS].contains r || l = some .BB then false
  else if b = .hebrewDash then false
  else if l = some .SY && r = .HL then false
  else if r = .IN then false
  else
    match l with
    | some c => !(joined c r) && !(b = .char .RI && r = .RI)
    | none => true

/-- Whether a line may break before a character of class `r`: never at the start (rule 2), always
after a hard break (rules 4 and 5, but not between a carriage return and a line feed), never
before hard breaks and spaces (rules 6 and 7), always after a zero width space and the spaces
after it (rule 8), never before a combining mark that attaches (rule 9), and otherwise as the
pair rules say, with a lone combining mark counted as alphabetic (rule 10). -/
def allows (b : Before) (r : LineClass) : Bool :=
  match b with
  | .start => false
  | _ =>
    if b = .char .BK then true
    else if b = .char .CR then r ≠ .LF
    else if b = .char .LF || b = .char .NL then true
    else if [LineClass.BK, .CR, .LF, .NL, .SP, .ZW].contains r then false
    else if b.endsIn [.ZW] then true
    else if (r = .CM || r = .ZWJ) && !b.isSpaces then false
    else pairAllows b (if r = .CM || r = .ZWJ then .AL else r)

/-- For each character of a text, whether a line may break before it; never right after a zero
width joiner (rule 8a). -/
def breakFlags (classes : List LineClass) : List Bool :=
  go .start false classes
where
  go (b : Before) (afterJoiner : Bool) : List LineClass → List Bool
    | [] => []
    | r :: rest => (allows b r && !afterJoiner) :: go (b.next r) (r = .ZWJ) rest

end Unicode

end PluralForms
