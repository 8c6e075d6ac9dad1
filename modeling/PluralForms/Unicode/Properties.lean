import PluralForms.Unicode.CodeSet

/-!
# Character properties

The sets of code points that decide how text is measured, cut and quoted:

* `zeroWidth` and `wide` give the columns a character takes in a terminal;
* `alphanumeric` tells letters and numbers from other characters;
* `graphemeExtend` and `unprintable` pick the characters written as escapes in quoted text.

Letters, numbers and printability follow the Unicode 15.0 character database. Widths and
grapheme extenders follow Unicode 17.0, which made several spacing vowel signs extenders and the
Yijing, Tai Xuan Jing and counting rod symbols wide; the zero-width set also holds the Hebrew
mark at U+05C8, which text is measured with although the database here predates it.
-/

namespace PluralForms

namespace Unicode

/-- Code points that take no column: default-ignorable code points, grapheme extenders, the
medial vowels and final consonants of conjoining Hangul, a few prepended concatenation marks,
the Devanagari caret, and the Hebrew mark at U+05C8. The Hangul choseong filler and the
Tifinagh consonant joiner are left out: they stand for visible letters. -/
def zeroWidth : CodeSet := CodeSet.ofLines
  ["AD AE 300 370 483 48A 591 5BE 5BF 5C0 5C1 5C3 5C4 5C6 5C7 5C9 605 606 610 61B 61C 61D 64B",
   "660 670 671 6D6 6DD 6DF 6E5 6E7 6E9 6EA 6EE 70F 710 711 712 730 74B 7A6 7B1 7EB 7F4 7FD",
   "7FE 816 81A 81B 824 825 828 829 82E 859 85C 890 892 897 8A0 8CA 903 93A 93B 93C 93D 941",
   "949 94D 94E 951 958 962 964 981 982 9BC 9BD 9BE 9BF 9C1 9C5 9CD 9CE 9D7 9D8 9E2 9E4 9FE",
   "9FF A01 A03 A3C A3D A41 A43 A47 A49 A4B A4E A51 A52 A70 A72 A75 A76 A81 A83 ABC ABD AC1",
   "AC6 AC7 AC9 ACD ACE AE2 AE4 AFA B00 B01 B02 B3C B3D B3E B40 B41 B45 B4D B4E B55 B58 B62",
   "B64 B82 B83 BBE BBF BC0 BC1 BCD BCE BD7 BD8 C00 C01 C04 C05 C3C C3D C3E C41 C46 C49 C4A",
   "C4E C55 C57 C62 C64 C81 C82 CBC CBD CBF CC1 CC2 CC3 CC6 CC9 CCA CCE CD5 CD7 CE2 CE4 D00",
   "D02 D3B D3D D3E D3F D41 D45 D4D D4E D57 D58 D62 D64 D81 D82 DCA DCB DCF DD0 DD2 DD5 DD6",
   "DD7 DDF DE0 E31 E32 E34 E3B E47 E4F EB1 EB2 EB4 EBD EC8 ECF F18 F1A F35 F36 F37 F38 F39",
   "F3A F71 F7F F80 F85 F86 F88 F8D F98 F99 FBD FC6 FC7 102D 1031 1032 1038 1039 103B 103D",
   "103F 1058 105A 105E 1061 1071 1075 1082 1083 1085 1087 108D 108E 109D 109E 1160 1200 135D",
   "1360 1712 1716 1732 1735 1752 1754 1772 1774 17B4 17B6 17B7 17BE 17C6 17C7 17C9 17D4 17DD",
   "17DE 180B 1810 1885 1887 18A9 18AA 1920 1923 1927 1929 1932 1933 1939 193C 1A17 1A19 1A1B",
   "1A1C 1A56 1A57 1A58 1A5F 1A60 1A61 1A62 1A63 1A65 1A6D 1A73 1A7D 1A7F 1A80 1AB0 1ADE 1AE0",
   "1AEC 1B00 1B04 1B34 1B3E 1B42 1B45 1B6B 1B74 1B80 1B82 1BA2 1BA6 1BA8 1BAE 1BE6 1BE7 1BE8",
   "1BEA 1BED 1BEE 1BEF 1BF4 1C2C 1C34 1C36 1C38 1CD0 1CD3 1CD4 1CE1 1CE2 1CE9 1CED 1CEE 1CF4",
   "1CF5 1CF8 1CFA 1DC0 1E00 200B 2010 202A 202F 2060 2070 20D0 20F1 2CEF 2CF2 2DE0 2E00 302A",
   "3030 3099 309B 3164 3165 A66F A673 A674 A67E A69E A6A0 A6F0 A6F2 A802 A803 A806 A807 A80B",
   "A80C A825 A827 A82C A82D A8C4 A8C6 A8E0 A8F2 A8FA A8FB A8FF A900 A926 A92E A947 A952 A953",
   "A954 A980 A983 A9B3 A9B4 A9B6 A9BA A9BC A9BE A9C0 A9C1 A9E5 A9E6 AA29 AA2F AA31 AA33 AA35",
   "AA37 AA43 AA44 AA4C AA4D AA7C AA7D AAB0 AAB1 AAB2 AAB5 AAB7 AAB9 AABE AAC0 AAC1 AAC2 AAEC",
   "AAEE AAF6 AAF7 ABE5 ABE6 ABE8 ABE9 ABED ABEE D7B0 D7C7 D7CB D7FC FB1E FB1F FE00 FE10 FE20",
   "FE30 FEFF FF00 FF9E FFA1 FFF0 FFF9 101FD 101FE 102E0 102E1 10376 1037B 10A01 10A04 10A05",
   "10A07 10A0C 10A10 10A38 10A3B 10A3F 10A40 10AE5 10AE7 10D24 10D28 10D69 10D6E 10EAB 10EAD",
   "10EFA 10F00 10F46 10F51 10F82 10F86 11001 11002 11038 11047 11070 11071 11073 11075 1107F",
   "11082 110B3 110B7 110B9 110BB 110C2 110C3 11100 11103 11127 1112C 1112D 11135 11173 11174",
   "11180 11182 111B6 111BF 111C0 111C1 111C9 111CD 111CF 111D0 1122F 11232 11234 11238 1123E",
   "1123F 11241 11242 112DF 112E0 112E3 112EB 11300 11302 1133B 1133D 1133E 1133F 11340 11341",
   "1134D 1134E 11357 11358 11366 1136D 11370 11375 113B8 113B9 113BB 113C1 113C2 113C3 113C5",
   "113C6 113C7 113CA 113CE 113D1 113D2 113D3 113E1 113E3 11438 11440 11442 11445 11446 11447",
   "1145E 1145F 114B0 114B1 114B3 114B9 114BA 114BB 114BD 114BE 114BF 114C1 114C2 114C4 115AF",
   "115B0 115B2 115B6 115BC 115BE 115BF 115C1 115DC 115DE 11633 1163B 1163D 1163E 1163F 11641",
   "116AB 116AC 116AD 116AE 116B0 116B8 1171D 1171E 1171F 11720 11722 11726 11727 1172C 1182F",
   "11838 11839 1183B 11930 11931 1193B 1193F 11943 11944 119D4 119D8 119DA 119DC 119E0 119E1",
   "11A01 11A0B 11A33 11A39 11A3B 11A3F 11A47 11A48 11A51 11A57 11A59 11A5C 11A8A 11A97 11A98",
   "11A9A 11B60 11B61 11B62 11B65 11B66 11B67 11C30 11C37 11C38 11C3E 11C3F 11C40 11C92 11CA8",
   "11CAA 11CB1 11CB2 11CB4 11CB5 11CB7 11D31 11D37 11D3A 11D3B 11D3C 11D3E 11D3F 11D46 11D47",
   "11D48 11D90 11D92 11D95 11D96 11D97 11D98 11EF3 11EF5 11F00 11F02 11F36 11F3B 11F40 11F43",
   "11F5A 11F5B 13440 13441 13447 13456 1611E 1612A 1612D 16130 16AF0 16AF5 16B30 16B37 16F4F",
   "16F50 16F8F 16F93 16FE4 16FE5 16FF0 16FF2 1BC9D 1BC9F 1BCA0 1BCA4 1CF00 1CF2E 1CF30 1CF47",
   "1D165 1D16A 1D16D 1D183 1D185 1D18C 1D1AA 1D1AE 1D242 1D245 1DA00 1DA37 1DA3B 1DA6D 1DA75",
   "1DA76 1DA84 1DA85 1DA9B 1DAA0 1DAA1 1DAB0 1E000 1E007 1E008 1E019 1E01B 1E022 1E023 1E025",
   "1E026 1E02B 1E08F 1E090 1E130 1E137 1E2AE 1E2AF 1E2EC 1E2F0 1E4EC 1E4F0 1E5EE 1E5F0 1E6E3",
   "1E6E4 1E6E6 1E6E7 1E6EE 1E6F0 1E6F5 1E6F6 1E8D0 1E8D7 1E944 1E94B E0000 E1000"]

/-- Code points that take two columns: East Asian wide and fullwidth ones (among them the
pictographs shown as emoji, but not the regional indicators, which take one column each), and
the Khmer independent vowel qaa, minus those that take none. -/
def wide : CodeSet := CodeSet.ofLines
  ["1100 1160 17A4 17A5 231A 231C 2329 232B 23E9 23ED 23F0 23F1 23F3 23F4 25FD 25FF 2614 2616",
   "2630 2638 2648 2654 267F 2680 268A 2690 2693 2694 26A1 26A2 26AA 26AC 26BD 26BF 26C4 26C6",
   "26CE 26CF 26D4 26D5 26EA 26EB 26F2 26F4 26F5 26F6 26FA 26FB 26FD 26FE 2705 2706 270A 270C",
   "2728 2729 274C 274D 274E 274F 2753 2756 2757 2758 2795 2798 27B0 27B1 27BF 27C0 2B1B 2B1D",
   "2B50 2B51 2B55 2B56 2E80 2E9A 2E9B 2EF4 2F00 2FD6 2FF0 302A 3030 303F 3041 3097 309B 3100",
   "3105 3130 3131 3164 3165 318F 3190 31E6 31EF 321F 3220 3248 3250 A48D A490 A4C7 A960 A97D",
   "AC00 D7A4 F900 FB00 FE10 FE1A FE30 FE53 FE54 FE67 FE68 FE6C FF01 FF61 FFE0 FFE7 16FE0",
   "16FE4 16FF2 16FF7 17000 18CD6 18CFF 18D1F 18D80 18DF3 1AFF0 1AFF4 1AFF5 1AFFC 1AFFD 1AFFF",
   "1B000 1B123 1B132 1B133 1B150 1B153 1B155 1B156 1B164 1B168 1B170 1B2FC 1D300 1D357 1D360",
   "1D377 1F004 1F005 1F0CF 1F0D0 1F18E 1F18F 1F191 1F19B 1F200 1F203 1F210 1F23C 1F240 1F249",
   "1F250 1F252 1F260 1F266 1F300 1F321 1F32D 1F336 1F337 1F37D 1F37E 1F394 1F3A0 1F3CB 1F3CF",
   "1F3D4 1F3E0 1F3F1 1F3F4 1F3F5 1F3F8 1F43F 1F440 1F441 1F442 1F4FD 1F4FF 1F53E 1F54B 1F54F",
   "1F550 1F568 1F57A 1F57B 1F595 1F597 1F5A4 1F5A5 1F5FB 1F650 1F680 1F6C6 1F6CC 1F6CD 1F6D0",
   "1F6D3 1F6D5 1F6D9 1F6DC 1F6E0 1F6EB 1F6ED 1F6F4 1F6FD 1F7E0 1F7EC 1F7F0 1F7F1 1F90C 1F93B",
   "1F93C 1F946 1F947 1FA00 1FA70 1FA7D 1FA80 1FA8B 1FA8E 1FAC7 1FAC8 1FAC9 1FACD 1FADD 1FADF",
   "1FAEB 1FAEF 1FAF9 20000 2FFFE 30000 3FFFE"]

/-- Letters and numbers: alphabetic code points and those of the number categories (decimal
digits, letter numbers and other numbers). -/
def alphanumeric : CodeSet := CodeSet.ofLines
  ["30 3A 41 5B 61 7B AA AB B2 B4 B5 B6 B9 BB BC BF C0 D7 D8 F7 F8 2C2 2C6 2D2 2E0 2E5 2EC",
   "2ED 2EE 2EF 345 346 370 375 376 378 37A 37E 37F 380 386 387 388 38B 38C 38D 38E 3A2 3A3",
   "3F6 3F7 482 48A 530 531 557 559 55A 560 589 5B0 5BE 5BF 5C0 5C1 5C3 5C4 5C6 5C7 5C8 5D0",
   "5EB 5EF 5F3 610 61B 620 658 659 66A 66E 6D4 6D5 6DD 6E1 6E9 6ED 6FD 6FF 700 710 740 74D",
   "7B2 7C0 7EB 7F4 7F6 7FA 7FB 800 818 81A 82D 840 859 860 86B 870 888 889 88F 8A0 8CA 8D4",
   "8E0 8E3 8EA 8F0 93C 93D 94D 94E 951 955 964 966 970 971 984 985 98D 98F 991 993 9A9 9AA",
   "9B1 9B2 9B3 9B6 9BA 9BD 9C5 9C7 9C9 9CB 9CD 9CE 9CF 9D7 9D8 9DC 9DE 9DF 9E4 9E6 9F2 9F4",
   "9FA 9FC 9FD A01 A04 A05 A0B A0F A11 A13 A29 A2A A31 A32 A34 A35 A37 A38 A3A A3E A43 A47",
   "A49 A4B A4D A51 A52 A59 A5D A5E A5F A66 A76 A81 A84 A85 A8E A8F A92 A93 AA9 AAA AB1 AB2",
   "AB4 AB5 ABA ABD AC6 AC7 ACA ACB ACD AD0 AD1 AE0 AE4 AE6 AF0 AF9 AFD B01 B04 B05 B0D B0F",
   "B11 B13 B29 B2A B31 B32 B34 B35 B3A B3D B45 B47 B49 B4B B4D B56 B58 B5C B5E B5F B64 B66",
   "B70 B71 B78 B82 B84 B85 B8B B8E B91 B92 B96 B99 B9B B9C B9D B9E BA0 BA3 BA5 BA8 BAB BAE",
   "BBA BBE BC3 BC6 BC9 BCA BCD BD0 BD1 BD7 BD8 BE6 BF3 C00 C0D C0E C11 C12 C29 C2A C3A C3D",
   "C45 C46 C49 C4A C4D C55 C57 C58 C5B C5D C5E C60 C64 C66 C70 C78 C7F C80 C84 C85 C8D C8E",
   "C91 C92 CA9 CAA CB4 CB5 CBA CBD CC5 CC6 CC9 CCA CCD CD5 CD7 CDD CDF CE0 CE4 CE6 CF0 CF1",
   "CF4 D00 D0D D0E D11 D12 D3B D3D D45 D46 D49 D4A D4D D4E D4F D54 D64 D66 D79 D7A D80 D81",
   "D84 D85 D97 D9A DB2 DB3 DBC DBD DBE DC0 DC7 DCF DD5 DD6 DD7 DD8 DE0 DE6 DF0 DF2 DF4 E01",
   "E3B E40 E47 E4D E4E E50 E5A E81 E83 E84 E85 E86 E8B E8C EA4 EA5 EA6 EA7 EBA EBB EBE EC0",
   "EC5 EC6 EC7 ECD ECE ED0 EDA EDC EE0 F00 F01 F20 F34 F40 F48 F49 F6D F71 F84 F88 F98 F99",
   "FBD 1000 1037 1038 1039 103B 104A 1050 109E 10A0 10C6 10C7 10C8 10CD 10CE 10D0 10FB 10FC",
   "1249 124A 124E 1250 1257 1258 1259 125A 125E 1260 1289 128A 128E 1290 12B1 12B2 12B6 12B8",
   "12BF 12C0 12C1 12C2 12C6 12C8 12D7 12D8 1311 1312 1316 1318 135B 1369 137D 1380 1390 13A0",
   "13F6 13F8 13FE 1401 166D 166F 1680 1681 169B 16A0 16EB 16EE 16F9 1700 1714 171F 1734 1740",
   "1754 1760 176D 176E 1771 1772 1774 1780 17B4 17B6 17C9 17D7 17D8 17DC 17DD 17E0 17EA 17F0",
   "17FA 1810 181A 1820 1879 1880 18AB 18B0 18F6 1900 191F 1920 192C 1930 1939 1946 196E 1970",
   "1975 1980 19AC 19B0 19CA 19D0 19DB 1A00 1A1C 1A20 1A5F 1A61 1A75 1A80 1A8A 1A90 1A9A 1AA7",
   "1AA8 1ABF 1AC1 1ACC 1ACF 1B00 1B34 1B35 1B44 1B45 1B4D 1B50 1B5A 1B80 1BAA 1BAC 1BE6 1BE7",
   "1BF2 1C00 1C37 1C40 1C4A 1C4D 1C7E 1C80 1C89 1C90 1CBB 1CBD 1CC0 1CE9 1CED 1CEE 1CF4 1CF5",
   "1CF7 1CFA 1CFB 1D00 1DC0 1DE7 1DF5 1E00 1F16 1F18 1F1E 1F20 1F46 1F48 1F4E 1F50 1F58 1F59",
   "1F5A 1F5B 1F5C 1F5D 1F5E 1F5F 1F7E 1F80 1FB5 1FB6 1FBD 1FBE 1FBF 1FC2 1FC5 1FC6 1FCD 1FD0",
   "1FD4 1FD6 1FDC 1FE0 1FED 1FF2 1FF5 1FF6 1FFD 2070 2072 2074 207A 207F 208A 2090 209D 2102",
   "2103 2107 2108 210A 2114 2115 2116 2119 211E 2124 2125 2126 2127 2128 2129 212A 212E 212F",
   "213A 213C 2140 2145 214A 214E 214F 2150 218A 2460 249C 24B6 2500 2776 2794 2C00 2CE5 2CEB",
   "2CEF 2CF2 2CF4 2CFD 2CFE 2D00 2D26 2D27 2D28 2D2D 2D2E 2D30 2D68 2D6F 2D70 2D80 2D97 2DA0",
   "2DA7 2DA8 2DAF 2DB0 2DB7 2DB8 2DBF 2DC0 2DC7 2DC8 2DCF 2DD0 2DD7 2DD8 2DDF 2DE0 2E00 2E2F",
   "2E30 3005 3008 3021 302A 3031 3036 3038 303D 3041 3097 309D 30A0 30A1 30FB 30FC 3100 3105",
   "3130 3131 318F 3192 3196 31A0 31C0 31F0 3200 3220 322A 3248 3250 3251 3260 3280 328A 32B1",
   "32C0 3400 4DC0 4E00 A48D A4D0 A4FE A500 A60D A610 A62C A640 A66F A674 A67C A67F A6F0 A717",
   "A720 A722 A789 A78B A7CB A7D0 A7D2 A7D3 A7D4 A7D5 A7DA A7F2 A806 A807 A828 A830 A836 A840",
   "A874 A880 A8C4 A8C5 A8C6 A8D0 A8DA A8F2 A8F8 A8FB A8FC A8FD A92B A930 A953 A960 A97D A980",
   "A9B3 A9B4 A9C0 A9CF A9DA A9E0 A9FF AA00 AA37 AA40 AA4E AA50 AA5A AA60 AA77 AA7A AABF AAC0",
   "AAC1 AAC2 AAC3 AADB AADE AAE0 AAF0 AAF2 AAF6 AB01 AB07 AB09 AB0F AB11 AB17 AB20 AB27 AB28",
   "AB2F AB30 AB5B AB5C AB6A AB70 ABEB ABF0 ABFA AC00 D7A4 D7B0 D7C7 D7CB D7FC F900 FA6E FA70",
   "FADA FB00 FB07 FB13 FB18 FB1D FB29 FB2A FB37 FB38 FB3D FB3E FB3F FB40 FB42 FB43 FB45 FB46",
   "FBB2 FBD3 FD3E FD50 FD90 FD92 FDC8 FDF0 FDFC FE70 FE75 FE76 FEFD FF10 FF1A FF21 FF3B FF41",
   "FF5B FF66 FFBF FFC2 FFC8 FFCA FFD0 FFD2 FFD8 FFDA FFDD 10000 1000C 1000D 10027 10028",
   "1003B 1003C 1003E 1003F 1004E 10050 1005E 10080 100FB 10107 10134 10140 10179 1018A 1018C",
   "10280 1029D 102A0 102D1 102E1 102FC 10300 10324 1032D 1034B 10350 1037B 10380 1039E 103A0",
   "103C4 103C8 103D0 103D1 103D6 10400 1049E 104A0 104AA 104B0 104D4 104D8 104FC 10500 10528",
   "10530 10564 10570 1057B 1057C 1058B 1058C 10593 10594 10596 10597 105A2 105A3 105B2 105B3",
   "105BA 105BB 105BD 10600 10737 10740 10756 10760 10768 10780 10786 10787 107B1 107B2 107BB",
   "10800 10806 10808 10809 1080A 10836 10837 10839 1083C 1083D 1083F 10856 10858 10877 10879",
   "1089F 108A7 108B0 108E0 108F3 108F4 108F6 108FB 1091C 10920 1093A 10980 109B8 109BC 109D0",
   "109D2 10A04 10A05 10A07 10A0C 10A14 10A15 10A18 10A19 10A36 10A40 10A49 10A60 10A7F 10A80",
   "10AA0 10AC0 10AC8 10AC9 10AE5 10AEB 10AF0 10B00 10B36 10B40 10B56 10B58 10B73 10B78 10B92",
   "10BA9 10BB0 10C00 10C49 10C80 10CB3 10CC0 10CF3 10CFA 10D28 10D30 10D3A 10E60 10E7F 10E80",
   "10EAA 10EAB 10EAD 10EB0 10EB2 10F00 10F28 10F30 10F46 10F51 10F55 10F70 10F82 10FB0 10FCC",
   "10FE0 10FF7 11000 11046 11052 11070 11071 11076 11080 110B9 110C2 110C3 110D0 110E9 110F0",
   "110FA 11100 11133 11136 11140 11144 11148 11150 11173 11176 11177 11180 111C0 111C1 111C5",
   "111CE 111DB 111DC 111DD 111E1 111F5 11200 11212 11213 11235 11237 11238 1123E 11242 11280",
   "11287 11288 11289 1128A 1128E 1128F 1129E 1129F 112A9 112B0 112E9 112F0 112FA 11300 11304",
   "11305 1130D 1130F 11311 11313 11329 1132A 11331 11332 11334 11335 1133A 1133D 11345 11347",
   "11349 1134B 1134D 11350 11351 11357 11358 1135D 11364 11400 11442 11443 11446 11447 1144B",
   "11450 1145A 1145F 11462 11480 114C2 114C4 114C6 114C7 114C8 114D0 114DA 11580 115B6 115B8",
   "115BF 115D8 115DE 11600 1163F 11640 11641 11644 11645 11650 1165A 11680 116B6 116B8 116B9",
   "116C0 116CA 11700 1171B 1171D 1172B 11730 1173C 11740 11747 11800 11839 118A0 118F3 118FF",
   "11907 11909 1190A 1190C 11914 11915 11917 11918 11936 11937 11939 1193B 1193D 1193F 11943",
   "11950 1195A 119A0 119A8 119AA 119D8 119DA 119E0 119E1 119E2 119E3 119E5 11A00 11A33 11A35",
   "11A3F 11A50 11A98 11A9D 11A9E 11AB0 11AF9 11C00 11C09 11C0A 11C37 11C38 11C3F 11C40 11C41",
   "11C50 11C6D 11C72 11C90 11C92 11CA8 11CA9 11CB7 11D00 11D07 11D08 11D0A 11D0B 11D37 11D3A",
   "11D3B 11D3C 11D3E 11D3F 11D42 11D43 11D44 11D46 11D48 11D50 11D5A 11D60 11D66 11D67 11D69",
   "11D6A 11D8F 11D90 11D92 11D93 11D97 11D98 11D99 11DA0 11DAA 11EE0 11EF7 11F00 11F11 11F12",
   "11F3B 11F3E 11F41 11F50 11F5A 11FB0 11FB1 11FC0 11FD5 12000 1239A 12400 1246F 12480 12544",
   "12F90 12FF1 13000 13430 13441 13447 14400 14647 16800 16A39 16A40 16A5F 16A60 16A6A 16A70",
   "16ABF 16AC0 16ACA 16AD0 16AEE 16B00 16B30 16B40 16B44 16B50 16B5A 16B5B 16B62 16B63 16B78",
   "16B7D 16B90 16E40 16E97 16F00 16F4B 16F4F 16F88 16F8F 16FA0 16FE0 16FE2 16FE3 16FE4 16FF0",
   "16FF2 17000 187F8 18800 18CD6 18D00 18D09 1AFF0 1AFF4 1AFF5 1AFFC 1AFFD 1AFFF 1B000 1B123",
   "1B132 1B133 1B150 1B153 1B155 1B156 1B164 1B168 1B170 1B2FC 1BC00 1BC6B 1BC70 1BC7D 1BC80",
   "1BC89 1BC90 1BC9A 1BC9E 1BC9F 1D2C0 1D2D4 1D2E0 1D2F4 1D360 1D379 1D400 1D455 1D456 1D49D",
   "1D49E 1D4A0 1D4A2 1D4A3 1D4A5 1D4A7 1D4A9 1D4AD 1D4AE 1D4BA 1D4BB 1D4BC 1D4BD 1D4C4 1D4C5",
   "1D506 1D507 1D50B 1D50D 1D515 1D516 1D51D 1D51E 1D53A 1D53B 1D53F 1D540 1D545 1D546 1D547",
   "1D54A 1D551 1D552 1D6A6 1D6A8 1D6C1 1D6C2 1D6DB 1D6DC 1D6FB 1D6FC 1D715 1D716 1D735 1D736",
   "1D74F 1D750 1D76F 1D770 1D789 1D78A 1D7A9 1D7AA 1D7C3 1D7C4 1D7CC 1D7CE 1D800 1DF00 1DF1F",
   "1DF25 1DF2B 1E000 1E007 1E008 1E019 1E01B 1E022 1E023 1E025 1E026 1E02B 1E030 1E06E 1E08F",
   "1E090 1E100 1E12D 1E137 1E13E 1E140 1E14A 1E14E 1E14F 1E290 1E2AE 1E2C0 1E2EC 1E2F0 1E2FA",
   "1E4D0 1E4EC 1E4F0 1E4FA 1E7E0 1E7E7 1E7E8 1E7EC 1E7ED 1E7EF 1E7F0 1E7FF 1E800 1E8C5 1E8C7",
   "1E8D0 1E900 1E944 1E947 1E948 1E94B 1E94C 1E950 1E95A 1EC71 1ECAC 1ECAD 1ECB0 1ECB1 1ECB5",
   "1ED01 1ED2E 1ED2F 1ED3E 1EE00 1EE04 1EE05 1EE20 1EE21 1EE23 1EE24 1EE25 1EE27 1EE28 1EE29",
   "1EE33 1EE34 1EE38 1EE39 1EE3A 1EE3B 1EE3C 1EE42 1EE43 1EE47 1EE48 1EE49 1EE4A 1EE4B 1EE4C",
   "1EE4D 1EE50 1EE51 1EE53 1EE54 1EE55 1EE57 1EE58 1EE59 1EE5A 1EE5B 1EE5C 1EE5D 1EE5E 1EE5F",
   "1EE60 1EE61 1EE63 1EE64 1EE65 1EE67 1EE6B 1EE6C 1EE73 1EE74 1EE78 1EE79 1EE7D 1EE7E 1EE7F",
   "1EE80 1EE8A 1EE8B 1EE9C 1EEA1 1EEA4 1EEA5 1EEAA 1EEAB 1EEBC 1F100 1F10D 1F130 1F14A 1F150",
   "1F16A 1F170 1F18A 1FBF0 1FBFA 20000 2A6E0 2A700 2B73A 2B740 2B81E 2B820 2CEA2 2CEB0 2EBE1",
   "2F800 2FA1E 30000 3134B 31350 323B0"]

/-- Grapheme extenders: nonspacing and enclosing marks and the other characters that attach to
the character before them without starting a new grapheme. -/
def graphemeExtend : CodeSet := CodeSet.ofLines
  ["300 370 483 48A 591 5BE 5BF 5C0 5C1 5C3 5C4 5C6 5C7 5C8 610 61B 64B 660 670 671 6D6 6DD",
   "6DF 6E5 6E7 6E9 6EA 6EE 711 712 730 74B 7A6 7B1 7EB 7F4 7FD 7FE 816 81A 81B 824 825 828",
   "829 82E 859 85C 897 8A0 8CA 8E2 8E3 903 93A 93B 93C 93D 941 949 94D 94E 951 958 962 964",
   "981 982 9BC 9BD 9BE 9BF 9C1 9C5 9CD 9CE 9D7 9D8 9E2 9E4 9FE 9FF A01 A03 A3C A3D A41 A43",
   "A47 A49 A4B A4E A51 A52 A70 A72 A75 A76 A81 A83 ABC ABD AC1 AC6 AC7 AC9 ACD ACE AE2 AE4",
   "AFA B00 B01 B02 B3C B3D B3E B40 B41 B45 B4D B4E B55 B58 B62 B64 B82 B83 BBE BBF BC0 BC1",
   "BCD BCE BD7 BD8 C00 C01 C04 C05 C3C C3D C3E C41 C46 C49 C4A C4E C55 C57 C62 C64 C81 C82",
   "CBC CBD CBF CC1 CC2 CC3 CC6 CC9 CCA CCE CD5 CD7 CE2 CE4 D00 D02 D3B D3D D3E D3F D41 D45",
   "D4D D4E D57 D58 D62 D64 D81 D82 DCA DCB DCF DD0 DD2 DD5 DD6 DD7 DDF DE0 E31 E32 E34 E3B",
   "E47 E4F EB1 EB2 EB4 EBD EC8 ECF F18 F1A F35 F36 F37 F38 F39 F3A F71 F7F F80 F85 F86 F88",
   "F8D F98 F99 FBD FC6 FC7 102D 1031 1032 1038 1039 103B 103D 103F 1058 105A 105E 1061 1071",
   "1075 1082 1083 1085 1087 108D 108E 109D 109E 135D 1360 1712 1716 1732 1735 1752 1754 1772",
   "1774 17B4 17B6 17B7 17BE 17C6 17C7 17C9 17D4 17DD 17DE 180B 180E 180F 1810 1885 1887 18A9",
   "18AA 1920 1923 1927 1929 1932 1933 1939 193C 1A17 1A19 1A1B 1A1C 1A56 1A57 1A58 1A5F 1A60",
   "1A61 1A62 1A63 1A65 1A6D 1A73 1A7D 1A7F 1A80 1AB0 1ADE 1AE0 1AEC 1B00 1B04 1B34 1B3E 1B42",
   "1B45 1B6B 1B74 1B80 1B82 1BA2 1BA6 1BA8 1BAE 1BE6 1BE7 1BE8 1BEA 1BED 1BEE 1BEF 1BF4 1C2C",
   "1C34 1C36 1C38 1CD0 1CD3 1CD4 1CE1 1CE2 1CE9 1CED 1CEE 1CF4 1CF5 1CF8 1CFA 1DC0 1E00 200C",
   "200D 20D0 20F1 2CEF 2CF2 2D7F 2D80 2DE0 2E00 302A 3030 3099 309B A66F A673 A674 A67E A69E",
   "A6A0 A6F0 A6F2 A802 A803 A806 A807 A80B A80C A825 A827 A82C A82D A8C4 A8C6 A8E0 A8F2 A8FF",
   "A900 A926 A92E A947 A952 A953 A954 A980 A983 A9B3 A9B4 A9B6 A9BA A9BC A9BE A9C0 A9C1 A9E5",
   "A9E6 AA29 AA2F AA31 AA33 AA35 AA37 AA43 AA44 AA4C AA4D AA7C AA7D AAB0 AAB1 AAB2 AAB5 AAB7",
   "AAB9 AABE AAC0 AAC1 AAC2 AAEC AAEE AAF6 AAF7 ABE5 ABE6 ABE8 ABE9 ABED ABEE FB1E FB1F FE00",
   "FE10 FE20 FE30 FF9E FFA0 101FD 101FE 102E0 102E1 10376 1037B 10A01 10A04 10A05 10A07",
   "10A0C 10A10 10A38 10A3B 10A3F 10A40 10AE5 10AE7 10D24 10D28 10D69 10D6E 10EAB 10EAD 10EFA",
   "10F00 10F46 10F51 10F82 10F86 11001 11002 11038 11047 11070 11071 11073 11075 1107F 11082",
   "110B3 110B7 110B9 110BB 110C2 110C3 11100 11103 11127 1112C 1112D 11135 11173 11174 11180",
   "11182 111B6 111BF 111C0 111C1 111C9 111CD 111CF 111D0 1122F 11232 11234 11238 1123E 1123F",
   "11241 11242 112DF 112E0 112E3 112EB 11300 11302 1133B 1133D 1133E 1133F 11340 11341 1134D",
   "1134E 11357 11358 11366 1136D 11370 11375 113B8 113B9 113BB 113C1 113C2 113C3 113C5 113C6",
   "113C7 113CA 113CE 113D1 113D2 113D3 113E1 113E3 11438 11440 11442 11445 11446 11447 1145E",
   "1145F 114B0 114B1 114B3 114B9 114BA 114BB 114BD 114BE 114BF 114C1 114C2 114C4 115AF 115B0",
   "115B2 115B6 115BC 115BE 115BF 115C1 115DC 115DE 11633 1163B 1163D 1163E 1163F 11641 116AB",
   "116AC 116AD 116AE 116B0 116B8 1171D 1171E 1171F 11720 11722 11726 11727 1172C 1182F 11838",
   "11839 1183B 11930 11931 1193B 1193F 11943 11944 119D4 119D8 119DA 119DC 119E0 119E1 11A01",
   "11A0B 11A33 11A39 11A3B 11A3F 11A47 11A48 11A51 11A57 11A59 11A5C 11A8A 11A97 11A98 11A9A",
   "11B60 11B61 11B62 11B65 11B66 11B67 11C30 11C37 11C38 11C3E 11C3F 11C40 11C92 11CA8 11CAA",
   "11CB1 11CB2 11CB4 11CB5 11CB7 11D31 11D37 11D3A 11D3B 11D3C 11D3E 11D3F 11D46 11D47 11D48",
   "11D90 11D92 11D95 11D96 11D97 11D98 11EF3 11EF5 11F00 11F02 11F36 11F3B 11F40 11F43 11F5A",
   "11F5B 13440 13441 13447 13456 1611E 1612A 1612D 16130 16AF0 16AF5 16B30 16B37 16F4F 16F50",
   "16F8F 16F93 16FE4 16FE5 16FF0 16FF2 1BC9D 1BC9F 1CF00 1CF2E 1CF30 1CF47 1D165 1D16A 1D16D",
   "1D173 1D17B 1D183 1D185 1D18C 1D1AA 1D1AE 1D242 1D245 1DA00 1DA37 1DA3B 1DA6D 1DA75 1DA76",
   "1DA84 1DA85 1DA9B 1DAA0 1DAA1 1DAB0 1E000 1E007 1E008 1E019 1E01B 1E022 1E023 1E025 1E026",
   "1E02B 1E08F 1E090 1E130 1E137 1E2AE 1E2AF 1E2EC 1E2F0 1E4EC 1E4F0 1E5EE 1E5F0 1E6E3 1E6E4",
   "1E6E6 1E6E7 1E6EE 1E6F0 1E6F5 1E6F6 1E8D0 1E8D7 1E944 1E94B E0020 E0080 E0100 E01F0"]

/-- Code points that are not shown as they are when text is quoted: controls, format
characters, surrogates, private-use and unassigned code points, separators other than the
space, and the Hangul fillers, which show as blanks. -/
def unprintable : CodeSet := CodeSet.ofLines
  ["0 20 7F A1 AD AE 378 37A 380 384 38B 38C 38D 38E 3A2 3A3 530 531 557 559 58B 58D 590 591",
   "5C8 5D0 5EB 5EF 5F5 606 61C 61D 6DD 6DE 70E 710 74B 74D 7B2 7C0 7FB 7FD 82E 830 83F 840",
   "85C 85E 85F 860 86B 870 88F 898 8E2 8E3 984 985 98D 98F 991 993 9A9 9AA 9B1 9B2 9B3 9B6",
   "9BA 9BC 9C5 9C7 9C9 9CB 9CF 9D7 9D8 9DC 9DE 9DF 9E4 9E6 9FF A01 A04 A05 A0B A0F A11 A13",
   "A29 A2A A31 A32 A34 A35 A37 A38 A3A A3C A3D A3E A43 A47 A49 A4B A4E A51 A52 A59 A5D A5E",
   "A5F A66 A77 A81 A84 A85 A8E A8F A92 A93 AA9 AAA AB1 AB2 AB4 AB5 ABA ABC AC6 AC7 ACA ACB",
   "ACE AD0 AD1 AE0 AE4 AE6 AF2 AF9 B00 B01 B04 B05 B0D B0F B11 B13 B29 B2A B31 B32 B34 B35",
   "B3A B3C B45 B47 B49 B4B B4E B55 B58 B5C B5E B5F B64 B66 B78 B82 B84 B85 B8B B8E B91 B92",
   "B96 B99 B9B B9C B9D B9E BA0 BA3 BA5 BA8 BAB BAE BBA BBE BC3 BC6 BC9 BCA BCE BD0 BD1 BD7",
   "BD8 BE6 BFB C00 C0D C0E C11 C12 C29 C2A C3A C3C C45 C46 C49 C4A C4E C55 C57 C58 C5B C5D",
   "C5E C60 C64 C66 C70 C77 C8D C8E C91 C92 CA9 CAA CB4 CB5 CBA CBC CC5 CC6 CC9 CCA CCE CD5",
   "CD7 CDD CDF CE0 CE4 CE6 CF0 CF1 CF4 D00 D0D D0E D11 D12 D45 D46 D49 D4A D50 D54 D64 D66",
   "D80 D81 D84 D85 D97 D9A DB2 DB3 DBC DBD DBE DC0 DC7 DCA DCB DCF DD5 DD6 DD7 DD8 DE0 DE6",
   "DF0 DF2 DF5 E01 E3B E3F E5C E81 E83 E84 E85 E86 E8B E8C EA4 EA5 EA6 EA7 EBE EC0 EC5 EC6",
   "EC7 EC8 ECF ED0 EDA EDC EE0 F00 F48 F49 F6D F71 F98 F99 FBD FBE FCD FCE FDB 1000 10C6",
   "10C7 10C8 10CD 10CE 10D0 115F 1161 1249 124A 124E 1250 1257 1258 1259 125A 125E 1260 1289",
   "128A 128E 1290 12B1 12B2 12B6 12B8 12BF 12C0 12C1 12C2 12C6 12C8 12D7 12D8 1311 1312 1316",
   "1318 135B 135D 137D 1380 139A 13A0 13F6 13F8 13FE 1400 1680 1681 169D 16A0 16F9 1700 1716",
   "171F 1737 1740 1754 1760 176D 176E 1771 1772 1774 1780 17DE 17E0 17EA 17F0 17FA 1800 180E",
   "180F 181A 1820 1879 1880 18AB 18B0 18F6 1900 191F 1920 192C 1930 193C 1940 1941 1944 196E",
   "1970 1975 1980 19AC 19B0 19CA 19D0 19DB 19DE 1A1C 1A1E 1A5F 1A60 1A7D 1A7F 1A8A 1A90 1A9A",
   "1AA0 1AAE 1AB0 1ACF 1B00 1B4D 1B50 1B7F 1B80 1BF4 1BFC 1C38 1C3B 1C4A 1C4D 1C89 1C90 1CBB",
   "1CBD 1CC8 1CD0 1CFB 1D00 1F16 1F18 1F1E 1F20 1F46 1F48 1F4E 1F50 1F58 1F59 1F5A 1F5B 1F5C",
   "1F5D 1F5E 1F5F 1F7E 1F80 1FB5 1FB6 1FC5 1FC6 1FD4 1FD6 1FDC 1FDD 1FF0 1FF2 1FF5 1FF6 1FFF",
   "2010 2028 2030 205F 2070 2072 2074 208F 2090 209D 20A0 20C1 20D0 20F1 2100 218C 2190 2427",
   "2440 244B 2460 2B74 2B76 2B96 2B97 2CF4 2CF9 2D26 2D27 2D28 2D2D 2D2E 2D30 2D68 2D6F 2D71",
   "2D7F 2D97 2DA0 2DA7 2DA8 2DAF 2DB0 2DB7 2DB8 2DBF 2DC0 2DC7 2DC8 2DCF 2DD0 2DD7 2DD8 2DDF",
   "2DE0 2E5E 2E80 2E9A 2E9B 2EF4 2F00 2FD6 2FF0 2FFC 3001 3040 3041 3097 3099 3100 3105 3130",
   "3131 3164 3165 318F 3190 31E4 31F0 321F 3220 A48D A490 A4C7 A4D0 A62C A640 A6F8 A700 A7CB",
   "A7D0 A7D2 A7D3 A7D4 A7D5 A7DA A7F2 A82D A830 A83A A840 A878 A880 A8C6 A8CE A8DA A8E0 A954",
   "A95F A97D A980 A9CE A9CF A9DA A9DE A9FF AA00 AA37 AA40 AA4E AA50 AA5A AA5C AAC3 AADB AAF7",
   "AB01 AB07 AB09 AB0F AB11 AB17 AB20 AB27 AB28 AB2F AB30 AB6C AB70 ABEE ABF0 ABFA AC00 D7A4",
   "D7B0 D7C7 D7CB D7FC F900 FA6E FA70 FADA FB00 FB07 FB13 FB18 FB1D FB37 FB38 FB3D FB3E FB3F",
   "FB40 FB42 FB43 FB45 FB46 FBC3 FBD3 FD90 FD92 FDC8 FDCF FDD0 FDF0 FE1A FE20 FE53 FE54 FE67",
   "FE68 FE6C FE70 FE75 FE76 FEFD FF01 FFA0 FFA1 FFBF FFC2 FFC8 FFCA FFD0 FFD2 FFD8 FFDA FFDD",
   "FFE0 FFE7 FFE8 FFEF FFFC FFFE 10000 1000C 1000D 10027 10028 1003B 1003C 1003E 1003F 1004E",
   "10050 1005E 10080 100FB 10100 10103 10107 10134 10137 1018F 10190 1019D 101A0 101A1 101D0",
   "101FE 10280 1029D 102A0 102D1 102E0 102FC 10300 10324 1032D 1034B 10350 1037B 10380 1039E",
   "1039F 103C4 103C8 103D6 10400 1049E 104A0 104AA 104B0 104D4 104D8 104FC 10500 10528 10530",
   "10564 1056F 1057B 1057C 1058B 1058C 10593 10594 10596 10597 105A2 105A3 105B2 105B3 105BA",
   "105BB 105BD 10600 10737 10740 10756 10760 10768 10780 10786 10787 107B1 107B2 107BB 10800",
   "10806 10808 10809 1080A 10836 10837 10839 1083C 1083D 1083F 10856 10857 1089F 108A7 108B0",
   "108E0 108F3 108F4 108F6 108FB 1091C 1091F 1093A 1093F 10940 10980 109B8 109BC 109D0 109D2",
   "10A04 10A05 10A07 10A0C 10A14 10A15 10A18 10A19 10A36 10A38 10A3B 10A3F 10A49 10A50 10A59",
   "10A60 10AA0 10AC0 10AE7 10AEB 10AF7 10B00 10B36 10B39 10B56 10B58 10B73 10B78 10B92 10B99",
   "10B9D 10BA9 10BB0 10C00 10C49 10C80 10CB3 10CC0 10CF3 10CFA 10D28 10D30 10D3A 10E60 10E7F",
   "10E80 10EAA 10EAB 10EAE 10EB0 10EB2 10EFD 10F28 10F30 10F5A 10F70 10F8A 10FB0 10FCC 10FE0",
   "10FF7 11000 1104E 11052 11076 1107F 110BD 110BE 110C3 110D0 110E9 110F0 110FA 11100 11135",
   "11136 11148 11150 11177 11180 111E0 111E1 111F5 11200 11212 11213 11242 11280 11287 11288",
   "11289 1128A 1128E 1128F 1129E 1129F 112AA 112B0 112EB 112F0 112FA 11300 11304 11305 1130D",
   "1130F 11311 11313 11329 1132A 11331 11332 11334 11335 1133A 1133B 11345 11347 11349 1134B",
   "1134E 11350 11351 11357 11358 1135D 11364 11366 1136D 11370 11375 11400 1145C 1145D 11462",
   "11480 114C8 114D0 114DA 11580 115B6 115B8 115DE 11600 11645 11650 1165A 11660 1166D 11680",
   "116BA 116C0 116CA 11700 1171B 1171D 1172C 11730 11747 11800 1183C 118A0 118F3 118FF 11907",
   "11909 1190A 1190C 11914 11915 11917 11918 11936 11937 11939 1193B 11947 11950 1195A 119A0",
   "119A8 119AA 119D8 119DA 119E5 11A00 11A48 11A50 11AA3 11AB0 11AF9 11B00 11B0A 11C00 11C09",
   "11C0A 11C37 11C38 11C46 11C50 11C6D 11C70 11C90 11C92 11CA8 11CA9 11CB7 11D00 11D07 11D08",
   "11D0A 11D0B 11D37 11D3A 11D3B 11D3C 11D3E 11D3F 11D48 11D50 11D5A 11D60 11D66 11D67 11D69",
   "11D6A 11D8F 11D90 11D92 11D93 11D99 11DA0 11DAA 11EE0 11EF9 11F00 11F11 11F12 11F3B 11F3E",
   "11F5A 11FB0 11FB1 11FC0 11FF2 11FFF 1239A 12400 1246F 12470 12475 12480 12544 12F90 12FF3",
   "13000 13430 13440 13456 14400 14647 16800 16A39 16A40 16A5F 16A60 16A6A 16A6E 16ABF 16AC0",
   "16ACA 16AD0 16AEE 16AF0 16AF6 16B00 16B46 16B50 16B5A 16B5B 16B62 16B63 16B78 16B7D 16B90",
   "16E40 16E9B 16F00 16F4B 16F4F 16F88 16F8F 16FA0 16FE0 16FE5 16FF0 16FF2 17000 187F8 18800",
   "18CD6 18D00 18D09 1AFF0 1AFF4 1AFF5 1AFFC 1AFFD 1AFFF 1B000 1B123 1B132 1B133 1B150 1B153",
   "1B155 1B156 1B164 1B168 1B170 1B2FC 1BC00 1BC6B 1BC70 1BC7D 1BC80 1BC89 1BC90 1BC9A 1BC9C",
   "1BCA0 1CF00 1CF2E 1CF30 1CF47 1CF50 1CFC4 1D000 1D0F6 1D100 1D127 1D129 1D173 1D17B 1D1EB",
   "1D200 1D246 1D2C0 1D2D4 1D2E0 1D2F4 1D300 1D357 1D360 1D379 1D400 1D455 1D456 1D49D 1D49E",
   "1D4A0 1D4A2 1D4A3 1D4A5 1D4A7 1D4A9 1D4AD 1D4AE 1D4BA 1D4BB 1D4BC 1D4BD 1D4C4 1D4C5 1D506",
   "1D507 1D50B 1D50D 1D515 1D516 1D51D 1D51E 1D53A 1D53B 1D53F 1D540 1D545 1D546 1D547 1D54A",
   "1D551 1D552 1D6A6 1D6A8 1D7CC 1D7CE 1DA8C 1DA9B 1DAA0 1DAA1 1DAB0 1DF00 1DF1F 1DF25 1DF2B",
   "1E000 1E007 1E008 1E019 1E01B 1E022 1E023 1E025 1E026 1E02B 1E030 1E06E 1E08F 1E090 1E100",
   "1E12D 1E130 1E13E 1E140 1E14A 1E14E 1E150 1E290 1E2AF 1E2C0 1E2FA 1E2FF 1E300 1E4D0 1E4FA",
   "1E7E0 1E7E7 1E7E8 1E7EC 1E7ED 1E7EF 1E7F0 1E7FF 1E800 1E8C5 1E8C7 1E8D7 1E900 1E94C 1E950",
   "1E95A 1E95E 1E960 1EC71 1ECB5 1ED01 1ED3E 1EE00 1EE04 1EE05 1EE20 1EE21 1EE23 1EE24 1EE25",
   "1EE27 1EE28 1EE29 1EE33 1EE34 1EE38 1EE39 1EE3A 1EE3B 1EE3C 1EE42 1EE43 1EE47 1EE48 1EE49",
   "1EE4A 1EE4B 1EE4C 1EE4D 1EE50 1EE51 1EE53 1EE54 1EE55 1EE57 1EE58 1EE59 1EE5A 1EE5B 1EE5C",
   "1EE5D 1EE5E 1EE5F 1EE60 1EE61 1EE63 1EE64 1EE65 1EE67 1EE6B 1EE6C 1EE73 1EE74 1EE78 1EE79",
   "1EE7D 1EE7E 1EE7F 1EE80 1EE8A 1EE8B 1EE9C 1EEA1 1EEA4 1EEA5 1EEAA 1EEAB 1EEBC 1EEF0 1EEF2",
   "1F000 1F02C 1F030 1F094 1F0A0 1F0AF 1F0B1 1F0C0 1F0C1 1F0D0 1F0D1 1F0F6 1F100 1F1AE 1F1E6",
   "1F203 1F210 1F23C 1F240 1F249 1F250 1F252 1F260 1F266 1F300 1F6D8 1F6DC 1F6ED 1F6F0 1F6FD",
   "1F700 1F777 1F77B 1F7DA 1F7E0 1F7EC 1F7F0 1F7F1 1F800 1F80C 1F810 1F848 1F850 1F85A 1F860",
   "1F888 1F890 1F8AE 1F8B0 1F8B2 1F900 1FA54 1FA60 1FA6E 1FA70 1FA7D 1FA80 1FA89 1FA90 1FABE",
   "1FABF 1FAC6 1FACE 1FADC 1FAE0 1FAE9 1FAF0 1FAF9 1FB00 1FB93 1FB94 1FBCB 1FBF0 1FBFA 20000",
   "2A6E0 2A700 2B73A 2B740 2B81E 2B820 2CEA2 2CEB0 2EBE1 2F800 2FA1E 30000 3134B 31350 323B0",
   "E0100 E01F0 110000"]

end Unicode

end PluralForms
