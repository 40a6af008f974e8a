import UnicodeClasses.Ucd.TableText

/-!
# Script values

The script to which each code point belongs, version 14.0.0 of the character database.
-/
namespace UnicodeClasses.Ucd

def scriptValues : List ValueEntry :=
  [
    plainValue "Adlam" ["Adlm"] "1E900..1E94B 1E950..1E959 1E95E..1E95F",
    plainValue "Ahom" [] "11700..1171A 1171D..1172B 11730..11746",
    plainValue "Anatolian_Hieroglyphs" ["Hluw"] "14400..14646",
    plainValue "Arabic" ["Arab"]
      "0600..0604 0606..060B 060D..061A 061C..061E 0620..063F 0641..064A 0656..066F 0671..06DC
      06DE..06FF 0750..077F 0870..088E 0890..0891 0898..08E1 08E3..08FF FB50..FBC2 FBD3..FD3D
      FD40..FD8F FD92..FDC7 FDCF FDF0..FDFF FE70..FE74 FE76..FEFC 10E60..10E7E 1EE00..1EE03
      1EE05..1EE1F 1EE21..1EE22 1EE24 1EE27 1EE29..1EE32 1EE34..1EE37 1EE39 1EE3B 1EE42 1EE47
      1EE49 1EE4B 1EE4D..1EE4F 1EE51..1EE52 1EE54 1EE57 1EE59 1EE5B 1EE5D 1EE5F 1EE61..1EE62
      1EE64 1EE67..1EE6A 1EE6C..1EE72 1EE74..1EE77 1EE79..1EE7C 1EE7E 1EE80..1EE89 1EE8B..1EE9B
      1EEA1..1EEA3 1EEA5..1EEA9 1EEAB..1EEBB 1EEF0..1EEF1",
    plainValue "Armenian" ["Armn"] "0531..0556 0559..058A 058D..058F FB13..FB17",
    plainValue "Avestan" ["Avst"] "10B00..10B35 10B39..10B3F",
    plainValue "Balinese" ["Bali"] "1B00..1B4C 1B50..1B7E",
    plainValue "Bamum" ["Bamu"] "A6A0..A6F7 16800..16A38",
    plainValue "Bassa_Vah" ["Bass"] "16AD0..16AED 16AF0..16AF5",
    plainValue "Batak" ["Batk"] "1BC0..1BF3 1BFC..1BFF",
    plainValue "Bengali" ["Beng"]
      "0980..0983 0985..098C 098F..0990 0993..09A8 09AA..09B0 09B2 09B6..09B9 09BC..09C4
      09C7..09C8 09CB..09CE 09D7 09DC..09DD 09DF..09E3 09E6..09FE",
    plainValue "Bhaiksuki" ["Bhks"] "11C00..11C08 11C0A..11C36 11C38..11C45 11C50..11C6C",
    plainValue "Bopomofo" ["Bopo"] "02EA..02EB 3105..312F 31A0..31BF",
    plainValue "Brahmi" ["Brah"] "11000..1104D 11052..11075 1107F",
    plainValue "Braille" ["Brai"] "2800..28FF",
    plainValue "Buginese" ["Bugi"] "1A00..1A1B 1A1E..1A1F",
    plainValue "Buhid" ["Buhd"] "1740..1753",
    plainValue "Canadian_Aboriginal" ["Cans"] "1400..167F 18B0..18F5 11AB0..11ABF",
    plainValue "Carian" ["Cari"] "102A0..102D0",
    plainValue "Caucasian_Albanian" ["Aghb"] "10530..10563 1056F",
    plainValue "Chakma" ["Cakm"] "11100..11134 11136..11147",
    plainValue "Cham" [] "AA00..AA36 AA40..AA4D AA50..AA59 AA5C..AA5F",
    plainValue "Cherokee" ["Cher"] "13A0..13F5 13F8..13FD AB70..ABBF",
    plainValue "Chorasmian" ["Chrs"] "10FB0..10FCB",
    plainValue "Common" ["Zyyy"]
      "0000..0040 005B..0060 007B..00A9 00AB..00B9 00BB..00BF 00D7 00F7 02B9..02DF 02E5..02E9
      02EC..02FF 0374 037E 0385 0387 0605 060C 061B 061F 0640 06DD 08E2 0964..0965 0E3F
      0FD5..0FD8 10FB 16EB..16ED 1735..1736 1802..1803 1805 1CD3 1CE1 1CE9..1CEC 1CEE..1CF3
      1CF5..1CF7 1CFA 2000..200B 200E..2064 2066..2070 2074..207E 2080..208E 20A0..20C0
      2100..2125 2127..2129 212C..2131 2133..214D 214F..215F 2189..218B 2190..2426 2440..244A
      2460..27FF 2900..2B73 2B76..2B95 2B97..2BFF 2E00..2E5D 2FF0..2FFB 3000..3004 3006
      3008..3020 3030..3037 303C..303F 309B..309C 30A0 30FB..30FC 3190..319F 31C0..31E3
      3220..325F 327F..32CF 32FF 3358..33FF 4DC0..4DFF A700..A721 A788..A78A A830..A839 A92E
      A9CF AB5B AB6A..AB6B FD3E..FD3F FE10..FE19 FE30..FE52 FE54..FE66 FE68..FE6B FEFF
      FF01..FF20 FF3B..FF40 FF5B..FF65 FF70 FF9E..FF9F FFE0..FFE6 FFE8..FFEE FFF9..FFFD
      10100..10102 10107..10133 10137..1013F 10190..1019C 101D0..101FC 102E1..102FB 1BCA0..1BCA3
      1CF50..1CFC3 1D000..1D0F5 1D100..1D126 1D129..1D166 1D16A..1D17A 1D183..1D184 1D18C..1D1A9
      1D1AE..1D1EA 1D2E0..1D2F3 1D300..1D356 1D360..1D378 1D400..1D454 1D456..1D49C 1D49E..1D49F
      1D4A2 1D4A5..1D4A6 1D4A9..1D4AC 1D4AE..1D4B9 1D4BB 1D4BD..1D4C3 1D4C5..1D505 1D507..1D50A
      1D50D..1D514 1D516..1D51C 1D51E..1D539 1D53B..1D53E 1D540..1D544 1D546 1D54A..1D550
      1D552..1D6A5 1D6A8..1D7CB 1D7CE..1D7FF 1EC71..1ECB4 1ED01..1ED3D 1F000..1F02B 1F030..1F093
      1F0A0..1F0AE 1F0B1..1F0BF 1F0C1..1F0CF 1F0D1..1F0F5 1F100..1F1AD 1F1E6..1F1FF 1F201..1F202
      1F210..1F23B 1F240..1F248 1F250..1F251 1F260..1F265 1F300..1F6D7 1F6DD..1F6EC 1F6F0..1F6FC
      1F700..1F773 1F780..1F7D8 1F7E0..1F7EB 1F7F0 1F800..1F80B 1F810..1F847 1F850..1F859
      1F860..1F887 1F890..1F8AD 1F8B0..1F8B1 1F900..1FA53 1FA60..1FA6D 1FA70..1FA74 1FA78..1FA7C
      1FA80..1FA86 1FA90..1FAAC 1FAB0..1FABA 1FAC0..1FAC5 1FAD0..1FAD9 1FAE0..1FAE7 1FAF0..1FAF6
      1FB00..1FB92 1FB94..1FBCA 1FBF0..1FBF9 E0001 E0020..E007F",
    plainValue "Coptic" ["Copt", "Qaac"] "03E2..03EF 2C80..2CF3 2CF9..2CFF",
    plainValue "Cuneiform" ["Xsux"] "12000..12399 12400..1246E 12470..12474 12480..12543",
    plainValue "Cypriot" ["Cprt"] "10800..10805 10808 1080A..10835 10837..10838 1083C 1083F",
    plainValue "Cypro_Minoan" ["Cpmn"] "12F90..12FF2",
    plainValue "Cyrillic" ["Cyrl"]
      "0400..0484 0487..052F 1C80..1C88 1D2B 1D78 2DE0..2DFF A640..A69F FE2E..FE2F",
    plainValue "Deseret" ["Dsrt"] "10400..1044F",
    plainValue "Devanagari" ["Deva"] "0900..0950 0955..0963 0966..097F A8E0..A8FF",
    plainValue "Dives_Akuru" ["Diak"]
      "11900..11906 11909 1190C..11913 11915..11916 11918..11935 11937..11938 1193B..11946
      11950..11959",
    plainValue "Dogra" ["Dogr"] "11800..1183B",
    plainValue "Duployan" ["Dupl"]
      "1BC00..1BC6A 1BC70..1BC7C 1BC80..1BC88 1BC90..1BC99 1BC9C..1BC9F",
    plainValue "Egyptian_Hieroglyphs" ["Egyp"] "13000..1342E 13430..13438",
    plainValue "Elbasan" ["Elba"] "10500..10527",
    plainValue "Elymaic" ["Elym"] "10FE0..10FF6",
    plainValue "Ethiopic" ["Ethi"]
      "1200..1248 124A..124D 1250..1256 1258 125A..125D 1260..1288 128A..128D 1290..12B0
      12B2..12B5 12B8..12BE 12C0 12C2..12C5 12C8..12D6 12D8..1310 1312..1315 1318..135A
      135D..137C 1380..1399 2D80..2D96 2DA0..2DA6 2DA8..2DAE 2DB0..2DB6 2DB8..2DBE 2DC0..2DC6
      2DC8..2DCE 2DD0..2DD6 2DD8..2DDE AB01..AB06 AB09..AB0E AB11..AB16 AB20..AB26 AB28..AB2E
      1E7E0..1E7E6 1E7E8..1E7EB 1E7ED..1E7EE 1E7F0..1E7FE",
    plainValue "Georgian" ["Geor"]
      "10A0..10C5 10C7 10CD 10D0..10FA 10FC..10FF 1C90..1CBA 1CBD..1CBF 2D00..2D25 2D27 2D2D",
    plainValue "Glagolitic" ["Glag"]
      "2C00..2C5F 1E000..1E006 1E008..1E018 1E01B..1E021 1E023..1E024 1E026..1E02A",
    plainValue "Gothic" ["Goth"] "10330..1034A",
    plainValue "Grantha" ["Gran"]
      "11300..11303 11305..1130C 1130F..11310 11313..11328 1132A..11330 11332..11333
      11335..11339 1133C..11344 11347..11348 1134B..1134D 11350 11357 1135D..11363 11366..1136C
      11370..11374",
    plainValue "Greek" ["Grek"]
      "0370..0373 0375..0377 037A..037D 037F 0384 0386 0388..038A 038C 038E..03A1 03A3..03E1
      03F0..03FF 1D26..1D2A 1D5D..1D61 1D66..1D6A 1DBF 1F00..1F15 1F18..1F1D 1F20..1F45
      1F48..1F4D 1F50..1F57 1F59 1F5B 1F5D 1F5F..1F7D 1F80..1FB4 1FB6..1FC4 1FC6..1FD3
      1FD6..1FDB 1FDD..1FEF 1FF2..1FF4 1FF6..1FFE 2126 AB65 10140..1018E 101A0 1D200..1D245",
    plainValue "Gujarati" ["Gujr"]
      "0A81..0A83 0A85..0A8D 0A8F..0A91 0A93..0AA8 0AAA..0AB0 0AB2..0AB3 0AB5..0AB9 0ABC..0AC5
      0AC7..0AC9 0ACB..0ACD 0AD0 0AE0..0AE3 0AE6..0AF1 0AF9..0AFF",
    plainValue "Gunjala_Gondi" ["Gong"]
      "11D60..11D65 11D67..11D68 11D6A..11D8E 11D90..11D91 11D93..11D98 11DA0..11DA9",
    plainValue "Gurmukhi" ["Guru"]
      "0A01..0A03 0A05..0A0A 0A0F..0A10 0A13..0A28 0A2A..0A30 0A32..0A33 0A35..0A36 0A38..0A39
      0A3C 0A3E..0A42 0A47..0A48 0A4B..0A4D 0A51 0A59..0A5C 0A5E 0A66..0A76",
    plainValue "Han" ["Hani"]
      "2E80..2E99 2E9B..2EF3 2F00..2FD5 3005 3007 3021..3029 3038..303B 3400..4DBF 4E00..9FFF
      F900..FA6D FA70..FAD9 16FE2..16FE3 16FF0..16FF1 20000..2A6DF 2A700..2B738 2B740..2B81D
      2B820..2CEA1 2CEB0..2EBE0 2F800..2FA1D 30000..3134A",
    plainValue "Hangul" ["Hang"]
      "1100..11FF 302E..302F 3131..318E 3200..321E 3260..327E A960..A97C AC00..D7A3 D7B0..D7C6
      D7CB..D7FB FFA0..FFBE FFC2..FFC7 FFCA..FFCF FFD2..FFD7 FFDA..FFDC",
    plainValue "Hanifi_Rohingya" ["Rohg"] "10D00..10D27 10D30..10D39",
    plainValue "Hanunoo" ["Hano"] "1720..1734",
    plainValue "Hatran" ["Hatr"] "108E0..108F2 108F4..108F5 108FB..108FF",
    plainValue "Hebrew" ["Hebr"]
      "0591..05C7 05D0..05EA 05EF..05F4 FB1D..FB36 FB38..FB3C FB3E FB40..FB41 FB43..FB44
      FB46..FB4F",
    plainValue "Hiragana" ["Hira"] "3041..3096 309D..309F 1B001..1B11F 1B150..1B152 1F200",
    plainValue "Imperial_Aramaic" ["Armi"] "10840..10855 10857..1085F",
    plainValue "Inherited" ["Zinh", "Qaai"]
      "0300..036F 0485..0486 064B..0655 0670 0951..0954 1AB0..1ACE 1CD0..1CD2 1CD4..1CE0
      1CE2..1CE8 1CED 1CF4 1CF8..1CF9 1DC0..1DFF 200C..200D 20D0..20F0 302A..302D 3099..309A
      FE00..FE0F FE20..FE2D 101FD 102E0 1133B 1CF00..1CF2D 1CF30..1CF46 1D167..1D169
      1D17B..1D182 1D185..1D18B 1D1AA..1D1AD E0100..E01EF",
    plainValue "Inscriptional_Pahlavi" ["Phli"] "10B60..10B72 10B78..10B7F",
    plainValue "Inscriptional_Parthian" ["Prti"] "10B40..10B55 10B58..10B5F",
    plainValue "Javanese" ["Java"] "A980..A9CD A9D0..A9D9 A9DE..A9DF",
    plainValue "Kaithi" ["Kthi"] "11080..110C2 110CD",
    plainValue "Kannada" ["Knda"]
      "0C80..0C8C 0C8E..0C90 0C92..0CA8 0CAA..0CB3 0CB5..0CB9 0CBC..0CC4 0CC6..0CC8 0CCA..0CCD
      0CD5..0CD6 0CDD..0CDE 0CE0..0CE3 0CE6..0CEF 0CF1..0CF2",
    plainValue "Katakana" ["Kana"]
      "30A1..30FA 30FD..30FF 31F0..31FF 32D0..32FE 3300..3357 FF66..FF6F FF71..FF9D 1AFF0..1AFF3
      1AFF5..1AFFB 1AFFD..1AFFE 1B000 1B120..1B122 1B164..1B167",
    plainValue "Katakana_Or_Hiragana" ["Hrkt"] "",
    plainValue "Kayah_Li" ["Kali"] "A900..A92D A92F",
    plainValue "Kharoshthi" ["Khar"]
      "10A00..10A03 10A05..10A06 10A0C..10A13 10A15..10A17 10A19..10A35 10A38..10A3A
      10A3F..10A48 10A50..10A58",
    plainValue "Khitan_Small_Script" ["Kits"] "16FE4 18B00..18CD5",
    plainValue "Khmer" ["Khmr"] "1780..17DD 17E0..17E9 17F0..17F9 19E0..19FF",
    plainValue "Khojki" ["Khoj"] "11200..11211 11213..1123E",
    plainValue "Khudawadi" ["Sind"] "112B0..112EA 112F0..112F9",
    plainValue "Lao" ["Laoo"]
      "0E81..0E82 0E84 0E86..0E8A 0E8C..0EA3 0EA5 0EA7..0EBD 0EC0..0EC4 0EC6 0EC8..0ECD
      0ED0..0ED9 0EDC..0EDF",
    plainValue "Latin" ["Latn"]
      "0041..005A 0061..007A 00AA 00BA 00C0..00D6 00D8..00F6 00F8..02B8 02E0..02E4 1D00..1D25
      1D2C..1D5C 1D62..1D65 1D6B..1D77 1D79..1DBE 1E00..1EFF 2071 207F 2090..209C 212A..212B
      2132 214E 2160..2188 2C60..2C7F A722..A787 A78B..A7CA A7D0..A7D1 A7D3 A7D5..A7D9
      A7F2..A7FF AB30..AB5A AB5C..AB64 AB66..AB69 FB00..FB06 FF21..FF3A FF41..FF5A 10780..10785
      10787..107B0 107B2..107BA 1DF00..1DF1E",
    plainValue "Lepcha" ["Lepc"] "1C00..1C37 1C3B..1C49 1C4D..1C4F",
    plainValue "Limbu" ["Limb"] "1900..191E 1920..192B 1930..193B 1940 1944..194F",
    plainValue "Linear_A" ["Lina"] "10600..10736 10740..10755 10760..10767",
    plainValue "Linear_B" ["Linb"]
      "10000..1000B 1000D..10026 10028..1003A 1003C..1003D 1003F..1004D 10050..1005D 10080..100FA",
    plainValue "Lisu" [] "A4D0..A4FF 11FB0",
    plainValue "Lycian" ["Lyci"] "10280..1029C",
    plainValue "Lydian" ["Lydi"] "10920..10939 1093F",
    plainValue "Mahajani" ["Mahj"] "11150..11176",
    plainValue "Makasar" ["Maka"] "11EE0..11EF8",
    plainValue "Malayalam" ["Mlym"]
      "0D00..0D0C 0D0E..0D10 0D12..0D44 0D46..0D48 0D4A..0D4F 0D54..0D63 0D66..0D7F",
    plainValue "Mandaic" ["Mand"] "0840..085B 085E",
    plainValue "Manichaean" ["Mani"] "10AC0..10AE6 10AEB..10AF6",
    plainValue "Marchen" ["Marc"] "11C70..11C8F 11C92..11CA7 11CA9..11CB6",
    plainValue "Masaram_Gondi" ["Gonm"]
      "11D00..11D06 11D08..11D09 11D0B..11D36 11D3A 11D3C..11D3D 11D3F..11D47 11D50..11D59",
    plainValue "Medefaidrin" ["Medf"] "16E40..16E9A",
    plainValue "Meetei_Mayek" ["Mtei"] "AAE0..AAF6 ABC0..ABED ABF0..ABF9",
    plainValue "Mende_Kikakui" ["Mend"] "1E800..1E8C4 1E8C7..1E8D6",
    plainValue "Meroitic_Cursive" ["Merc"] "109A0..109B7 109BC..109CF 109D2..109FF",
    plainValue "Meroitic_Hieroglyphs" ["Mero"] "10980..1099F",
    plainValue "Miao" ["Plrd"] "16F00..16F4A 16F4F..16F87 16F8F..16F9F",
    plainValue "Modi" [] "11600..11644 11650..11659",
    plainValue "Mongolian" ["Mong"]
      "1800..1801 1804 1806..1819 1820..1878 1880..18AA 11660..1166C",
    plainValue "Mro" ["Mroo"] "16A40..16A5E 16A60..16A69 16A6E..16A6F",
    plainValue "Multani" ["Mult"] "11280..11286 11288 1128A..1128D 1128F..1129D 1129F..112A9",
    plainValue "Myanmar" ["Mymr"] "1000..109F A9E0..A9FE AA60..AA7F",
    plainValue "Nabataean" ["Nbat"] "10880..1089E 108A7..108AF",
    plainValue "Nandinagari" ["Nand"] "119A0..119A7 119AA..119D7 119DA..119E4",
    plainValue "New_Tai_Lue" ["Talu"] "1980..19AB 19B0..19C9 19D0..19DA 19DE..19DF",
    plainValue "Newa" [] "11400..1145B 1145D..11461",
    plainValue "Nko" ["Nkoo"] "07C0..07FA 07FD..07FF",
    plainValue "Nushu" ["Nshu"] "16FE1 1B170..1B2FB",
    plainValue "Nyiakeng_Puachue_Hmong" ["Hmnp"]
      "1E100..1E12C 1E130..1E13D 1E140..1E149 1E14E..1E14F",
    plainValue "Ogham" ["Ogam"] "1680..169C",
    plainValue "Ol_Chiki" ["Olck"] "1C50..1C7F",
    plainValue "Old_Hungarian" ["Hung"] "10C80..10CB2 10CC0..10CF2 10CFA..10CFF",
    plainValue "Old_Italic" ["Ital"] "10300..10323 1032D..1032F",
    plainValue "Old_North_Arabian" ["Narb"] "10A80..10A9F",
    plainValue "Old_Permic" ["Perm"] "10350..1037A",
    plainValue "Old_Persian" ["Xpeo"] "103A0..103C3 103C8..103D5",
    plainValue "Old_Sogdian" ["Sogo"] "10F00..10F27",
    plainValue "Old_South_Arabian" ["Sarb"] "10A60..10A7F",
    plainValue "Old_Turkic" ["Orkh"] "10C00..10C48",
    plainValue "Old_Uyghur" ["Ougr"] "10F70..10F89",
    plainValue "Oriya" ["Orya"]
      "0B01..0B03 0B05..0B0C 0B0F..0B10 0B13..0B28 0B2A..0B30 0B32..0B33 0B35..0B39 0B3C..0B44
      0B47..0B48 0B4B..0B4D 0B55..0B57 0B5C..0B5D 0B5F..0B63 0B66..0B77",
    plainValue "Osage" ["Osge"] "104B0..104D3 104D8..104FB",
    plainValue "Osmanya" ["Osma"] "10480..1049D 104A0..104A9",
    plainValue "Pahawh_Hmong" ["Hmng"]
      "16B00..16B45 16B50..16B59 16B5B..16B61 16B63..16B77 16B7D..16B8F",
    plainValue "Palmyrene" ["Palm"] "10860..1087F",
    plainValue "Pau_Cin_Hau" ["Pauc"] "11AC0..11AF8",
    plainValue "Phags_Pa" ["Phag"] "A840..A877",
    plainValue "Phoenician" ["Phnx"] "10900..1091B 1091F",
    plainValue "Psalter_Pahlavi" ["Phlp"] "10B80..10B91 10B99..10B9C 10BA9..10BAF",
    plainValue "Rejang" ["Rjng"] "A930..A953 A95F",
    plainValue "Runic" ["Runr"] "16A0..16EA 16EE..16F8",
    plainValue "Samaritan" ["Samr"] "0800..082D 0830..083E",
    plainValue "Saurashtra" ["Saur"] "A880..A8C5 A8CE..A8D9",
    plainValue "Sharada" ["Shrd"] "11180..111DF",
    plainValue "Shavian" ["Shaw"] "10450..1047F",
    plainValue "Siddham" ["Sidd"] "11580..115B5 115B8..115DD",
    plainValue "SignWriting" ["Sgnw"] "1D800..1DA8B 1DA9B..1DA9F 1DAA1..1DAAF",
    plainValue "Sinhala" ["Sinh"]
      "0D81..0D83 0D85..0D96 0D9A..0DB1 0DB3..0DBB 0DBD 0DC0..0DC6 0DCA 0DCF..0DD4 0DD6
      0DD8..0DDF 0DE6..0DEF 0DF2..0DF4 111E1..111F4",
    plainValue "Sogdian" ["Sogd"] "10F30..10F59",
    plainValue "Sora_Sompeng" ["Sora"] "110D0..110E8 110F0..110F9",
    plainValue "Soyombo" ["Soyo"] "11A50..11AA2",
    plainValue "Sundanese" ["Sund"] "1B80..1BBF 1CC0..1CC7",
    plainValue "Syloti_Nagri" ["Sylo"] "A800..A82C",
    plainValue "Syriac" ["Syrc"] "0700..070D 070F..074A 074D..074F 0860..086A",
    plainValue "Tagalog" ["Tglg"] "1700..1715 171F",
    plainValue "Tagbanwa" ["Tagb"] "1760..176C 176E..1770 1772..1773",
    plainValue "Tai_Le" ["Tale"] "1950..196D 1970..1974",
    plainValue "Tai_Tham" ["Lana"] "1A20..1A5E 1A60..1A7C 1A7F..1A89 1A90..1A99 1AA0..1AAD",
    plainValue "Tai_Viet" ["Tavt"] "AA80..AAC2 AADB..AADF",
    plainValue "Takri" ["Takr"] "11680..116B9 116C0..116C9",
    plainValue "Tamil" ["Taml"]
      "0B82..0B83 0B85..0B8A 0B8E..0B90 0B92..0B95 0B99..0B9A 0B9C 0B9E..0B9F 0BA3..0BA4
      0BA8..0BAA 0BAE..0BB9 0BBE..0BC2 0BC6..0BC8 0BCA..0BCD 0BD0 0BD7 0BE6..0BFA 11FC0..11FF1
      11FFF",
    plainValue "Tangsa" ["Tnsa"] "16A70..16ABE 16AC0..16AC9",
    plainValue "Tangut" ["Tang"] "16FE0 17000..187F7 18800..18AFF 18D00..18D08",
    plainValue "Telugu" ["Telu"]
      "0C00..0C0C 0C0E..0C10 0C12..0C28 0C2A..0C39 0C3C..0C44 0C46..0C48 0C4A..0C4D 0C55..0C56
      0C58..0C5A 0C5D 0C60..0C63 0C66..0C6F 0C77..0C7F",
    plainValue "Thaana" ["Thaa"] "0780..07B1",
    plainValue "Thai" [] "0E01..0E3A 0E40..0E5B",
    plainValue "Tibetan" ["Tibt"]
      "0F00..0F47 0F49..0F6C 0F71..0F97 0F99..0FBC 0FBE..0FCC 0FCE..0FD4 0FD9..0FDA",
    plainValue "Tifinagh" ["Tfng"] "2D30..2D67 2D6F..2D70 2D7F",
    plainValue "Tirhuta" ["Tirh"] "11480..114C7 114D0..114D9",
    plainValue "Toto" [] "1E290..1E2AE",
    plainValue "Ugaritic" ["Ugar"] "10380..1039D 1039F",
    plainValue "Unknown" ["Zzzz"]
      "0378..0379 0380..0383 038B 038D 03A2 0530 0557..0558 058B..058C 0590 05C8..05CF
      05EB..05EE 05F5..05FF 070E 074B..074C 07B2..07BF 07FB..07FC 082E..082F 083F 085C..085D
      085F 086B..086F 088F 0892..0897 0984 098D..098E 0991..0992 09A9 09B1 09B3..09B5 09BA..09BB
      09C5..09C6 09C9..09CA 09CF..09D6 09D8..09DB 09DE 09E4..09E5 09FF..0A00 0A04 0A0B..0A0E
      0A11..0A12 0A29 0A31 0A34 0A37 0A3A..0A3B 0A3D 0A43..0A46 0A49..0A4A 0A4E..0A50 0A52..0A58
      0A5D 0A5F..0A65 0A77..0A80 0A84 0A8E 0A92 0AA9 0AB1 0AB4 0ABA..0ABB 0AC6 0ACA 0ACE..0ACF
      0AD1..0ADF 0AE4..0AE5 0AF2..0AF8 0B00 0B04 0B0D..0B0E 0B11..0B12 0B29 0B31 0B34 0B3A..0B3B
      0B45..0B46 0B49..0B4A 0B4E..0B54 0B58..0B5B 0B5E 0B64..0B65 0B78..0B81 0B84 0B8B..0B8D
      0B91 0B96..0B98 0B9B 0B9D 0BA0..0BA2 0BA5..0BA7 0BAB..0BAD 0BBA..0BBD 0BC3..0BC5 0BC9
      0BCE..0BCF 0BD1..0BD6 0BD8..0BE5 0BFB..0BFF 0C0D 0C11 0C29 0C3A..0C3B 0C45 0C49 0C4E..0C54
      0C57 0C5B..0C5C 0C5E..0C5F 0C64..0C65 0C70..0C76 0C8D 0C91 0CA9 0CB4 0CBA..0CBB 0CC5 0CC9
      0CCE..0CD4 0CD7..0CDC 0CDF 0CE4..0CE5 0CF0 0CF3..0CFF 0D0D 0D11 0D45 0D49 0D50..0D53
      0D64..0D65 0D80 0D84 0D97..0D99 0DB2 0DBC 0DBE..0DBF 0DC7..0DC9 0DCB..0DCE 0DD5 0DD7
      0DE0..0DE5 0DF0..0DF1 0DF5..0E00 0E3B..0E3E 0E5C..0E80 0E83 0E85 0E8B 0EA4 0EA6 0EBE..0EBF
      0EC5 0EC7 0ECE..0ECF 0EDA..0EDB 0EE0..0EFF 0F48 0F6D..0F70 0F98 0FBD 0FCD 0FDB..0FFF 10C6
      10C8..10CC 10CE..10CF 1249 124E..124F 1257 1259 125E..125F 1289 128E..128F 12B1 12B6..12B7
      12BF 12C1 12C6..12C7 12D7 1311 1316..1317 135B..135C 137D..137F 139A..139F 13F6..13F7
      13FE..13FF 169D..169F 16F9..16FF 1716..171E 1737..173F 1754..175F 176D 1771 1774..177F
      17DE..17DF 17EA..17EF 17FA..17FF 181A..181F 1879..187F 18AB..18AF 18F6..18FF 191F
      192C..192F 193C..193F 1941..1943 196E..196F 1975..197F 19AC..19AF 19CA..19CF 19DB..19DD
      1A1C..1A1D 1A5F 1A7D..1A7E 1A8A..1A8F 1A9A..1A9F 1AAE..1AAF 1ACF..1AFF 1B4D..1B4F 1B7F
      1BF4..1BFB 1C38..1C3A 1C4A..1C4C 1C89..1C8F 1CBB..1CBC 1CC8..1CCF 1CFB..1CFF 1F16..1F17
      1F1E..1F1F 1F46..1F47 1F4E..1F4F 1F58 1F5A 1F5C 1F5E 1F7E..1F7F 1FB5 1FC5 1FD4..1FD5 1FDC
      1FF0..1FF1 1FF5 1FFF 2065 2072..2073 208F 209D..209F 20C1..20CF 20F1..20FF 218C..218F
      2427..243F 244B..245F 2B74..2B75 2B96 2CF4..2CF8 2D26 2D28..2D2C 2D2E..2D2F 2D68..2D6E
      2D71..2D7E 2D97..2D9F 2DA7 2DAF 2DB7 2DBF 2DC7 2DCF 2DD7 2DDF 2E5E..2E7F 2E9A 2EF4..2EFF
      2FD6..2FEF 2FFC..2FFF 3040 3097..3098 3100..3104 3130 318F 31E4..31EF 321F A48D..A48F
      A4C7..A4CF A62C..A63F A6F8..A6FF A7CB..A7CF A7D2 A7D4 A7DA..A7F1 A82D..A82F A83A..A83F
      A878..A87F A8C6..A8CD A8DA..A8DF A954..A95E A97D..A97F A9CE A9DA..A9DD A9FF AA37..AA3F
      AA4E..AA4F AA5A..AA5B AAC3..AADA AAF7..AB00 AB07..AB08 AB0F..AB10 AB17..AB1F AB27 AB2F
      AB6C..AB6F ABEE..ABEF ABFA..ABFF D7A4..D7AF D7C7..D7CA D7FC..F8FF FA6E..FA6F FADA..FAFF
      FB07..FB12 FB18..FB1C FB37 FB3D FB3F FB42 FB45 FBC3..FBD2 FD90..FD91 FDC8..FDCE FDD0..FDEF
      FE1A..FE1F FE53 FE67 FE6C..FE6F FE75 FEFD..FEFE FF00 FFBF..FFC1 FFC8..FFC9 FFD0..FFD1
      FFD8..FFD9 FFDD..FFDF FFE7 FFEF..FFF8 FFFE..FFFF 1000C 10027 1003B 1003E 1004E..1004F
      1005E..1007F 100FB..100FF 10103..10106 10134..10136 1018F 1019D..1019F 101A1..101CF
      101FE..1027F 1029D..1029F 102D1..102DF 102FC..102FF 10324..1032C 1034B..1034F 1037B..1037F
      1039E 103C4..103C7 103D6..103FF 1049E..1049F 104AA..104AF 104D4..104D7 104FC..104FF
      10528..1052F 10564..1056E 1057B 1058B 10593 10596 105A2 105B2 105BA 105BD..105FF
      10737..1073F 10756..1075F 10768..1077F 10786 107B1 107BB..107FF 10806..10807 10809 10836
      10839..1083B 1083D..1083E 10856 1089F..108A6 108B0..108DF 108F3 108F6..108FA 1091C..1091E
      1093A..1093E 10940..1097F 109B8..109BB 109D0..109D1 10A04 10A07..10A0B 10A14 10A18
      10A36..10A37 10A3B..10A3E 10A49..10A4F 10A59..10A5F 10AA0..10ABF 10AE7..10AEA 10AF7..10AFF
      10B36..10B38 10B56..10B57 10B73..10B77 10B92..10B98 10B9D..10BA8 10BB0..10BFF 10C49..10C7F
      10CB3..10CBF 10CF3..10CF9 10D28..10D2F 10D3A..10E5F 10E7F 10EAA 10EAE..10EAF 10EB2..10EFF
      10F28..10F2F 10F5A..10F6F 10F8A..10FAF 10FCC..10FDF 10FF7..10FFF 1104E..11051 11076..1107E
      110C3..110CC 110CE..110CF 110E9..110EF 110FA..110FF 11135 11148..1114F 11177..1117F 111E0
      111F5..111FF 11212 1123F..1127F 11287 11289 1128E 1129E 112AA..112AF 112EB..112EF
      112FA..112FF 11304 1130D..1130E 11311..11312 11329 11331 11334 1133A 11345..11346
      11349..1134A 1134E..1134F 11351..11356 11358..1135C 11364..11365 1136D..1136F 11375..113FF
      1145C 11462..1147F 114C8..114CF 114DA..1157F 115B6..115B7 115DE..115FF 11645..1164F
      1165A..1165F 1166D..1167F 116BA..116BF 116CA..116FF 1171B..1171C 1172C..1172F 11747..117FF
      1183C..1189F 118F3..118FE 11907..11908 1190A..1190B 11914 11917 11936 11939..1193A
      11947..1194F 1195A..1199F 119A8..119A9 119D8..119D9 119E5..119FF 11A48..11A4F 11AA3..11AAF
      11AF9..11BFF 11C09 11C37 11C46..11C4F 11C6D..11C6F 11C90..11C91 11CA8 11CB7..11CFF 11D07
      11D0A 11D37..11D39 11D3B 11D3E 11D48..11D4F 11D5A..11D5F 11D66 11D69 11D8F 11D92
      11D99..11D9F 11DAA..11EDF 11EF9..11FAF 11FB1..11FBF 11FF2..11FFE 1239A..123FF 1246F
      12475..1247F 12544..12F8F 12FF3..12FFF 1342F 13439..143FF 14647..167FF 16A39..16A3F 16A5F
      16A6A..16A6D 16ABF 16ACA..16ACF 16AEE..16AEF 16AF6..16AFF 16B46..16B4F 16B5A 16B62
      16B78..16B7C 16B90..16E3F 16E9B..16EFF 16F4B..16F4E 16F88..16F8E 16FA0..16FDF 16FE5..16FEF
      16FF2..16FFF 187F8..187FF 18CD6..18CFF 18D09..1AFEF 1AFF4 1AFFC 1AFFF 1B123..1B14F
      1B153..1B163 1B168..1B16F 1B2FC..1BBFF 1BC6B..1BC6F 1BC7D..1BC7F 1BC89..1BC8F 1BC9A..1BC9B
      1BCA4..1CEFF 1CF2E..1CF2F 1CF47..1CF4F 1CFC4..1CFFF 1D0F6..1D0FF 1D127..1D128 1D1EB..1D1FF
      1D246..1D2DF 1D2F4..1D2FF 1D357..1D35F 1D379..1D3FF 1D455 1D49D 1D4A0..1D4A1 1D4A3..1D4A4
      1D4A7..1D4A8 1D4AD 1D4BA 1D4BC 1D4C4 1D506 1D50B..1D50C 1D515 1D51D 1D53A 1D53F 1D545
      1D547..1D549 1D551 1D6A6..1D6A7 1D7CC..1D7CD 1DA8C..1DA9A 1DAA0 1DAB0..1DEFF 1DF1F..1DFFF
      1E007 1E019..1E01A 1E022 1E025 1E02B..1E0FF 1E12D..1E12F 1E13E..1E13F 1E14A..1E14D
      1E150..1E28F 1E2AF..1E2BF 1E2FA..1E2FE 1E300..1E7DF 1E7E7 1E7EC 1E7EF 1E7FF 1E8C5..1E8C6
      1E8D7..1E8FF 1E94C..1E94F 1E95A..1E95D 1E960..1EC70 1ECB5..1ED00 1ED3E..1EDFF 1EE04 1EE20
      1EE23 1EE25..1EE26 1EE28 1EE33 1EE38 1EE3A 1EE3C..1EE41 1EE43..1EE46 1EE48 1EE4A 1EE4C
      1EE50 1EE53 1EE55..1EE56 1EE58 1EE5A 1EE5C 1EE5E 1EE60 1EE63 1EE65..1EE66 1EE6B 1EE73
      1EE78 1EE7D 1EE7F 1EE8A 1EE9C..1EEA0 1EEA4 1EEAA 1EEBC..1EEEF 1EEF2..1EFFF 1F02C..1F02F
      1F094..1F09F 1F0AF..1F0B0 1F0C0 1F0D0 1F0F6..1F0FF 1F1AE..1F1E5 1F203..1F20F 1F23C..1F23F
      1F249..1F24F 1F252..1F25F 1F266..1F2FF 1F6D8..1F6DC 1F6ED..1F6EF 1F6FD..1F6FF 1F774..1F77F
      1F7D9..1F7DF 1F7EC..1F7EF 1F7F1..1F7FF 1F80C..1F80F 1F848..1F84F 1F85A..1F85F 1F888..1F88F
      1F8AE..1F8AF 1F8B2..1F8FF 1FA54..1FA5F 1FA6E..1FA6F 1FA75..1FA77 1FA7D..1FA7F 1FA87..1FA8F
      1FAAD..1FAAF 1FABB..1FABF 1FAC6..1FACF 1FADA..1FADF 1FAE8..1FAEF 1FAF7..1FAFF 1FB93
      1FBCB..1FBEF 1FBFA..1FFFF 2A6E0..2A6FF 2B739..2B73F 2B81E..2B81F 2CEA2..2CEAF 2EBE1..2F7FF
      2FA1E..2FFFF 3134B..E0000 E0002..E001F E0080..E00FF E01F0..10FFFF",
    plainValue "Vai" ["Vaii"] "A500..A62B",
    plainValue "Vithkuqi" ["Vith"]
      "10570..1057A 1057C..1058A 1058C..10592 10594..10595 10597..105A1 105A3..105B1
      105B3..105B9 105BB..105BC",
    plainValue "Wancho" ["Wcho"] "1E2C0..1E2F9 1E2FF",
    plainValue "Warang_Citi" ["Wara"] "118A0..118F2 118FF",
    plainValue "Yezidi" ["Yezi"] "10E80..10EA9 10EAB..10EAD 10EB0..10EB1",
    plainValue "Yi" ["Yiii"] "A000..A48C A490..A4C6",
    plainValue "Zanabazar_Square" ["Zanb"] "11A00..11A47"
  ]

def script : EnumeratedEntry :=
  ⟨"Script", ["sc"], scriptValues⟩

end UnicodeClasses.Ucd
