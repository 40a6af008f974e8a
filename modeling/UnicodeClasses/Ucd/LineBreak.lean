import UnicodeClasses.Ucd.TableText

/-!
# Line break values

The line breaking class of each code point, version 14.0.0 of the character database.
-/
namespace UnicodeClasses.Ucd

def lineBreakValues : List ValueEntry :=
  [
    plainValue "Alphabetic" ["AL"]
      "0023 0026 002A 003C..003E 0040..005A 005E..007A 007E 00A6 00A9 00AC 00AE..00AF 00B5
      00C0..00D6 00D8..00F6 00F8..02C6 02CE..02CF 02D1..02D7 02DC 02DE 02E0..02FF 0370..0377
      037A..037D 037F 0384..038A 038C 038E..03A1 03A3..0482 048A..052F 0531..0556 0559..0588
      058D..058E 05C0 05C3 05F3..05F4 0600..0608 060E..060F 0620..064A 066D..066F 0671..06D3
      06D5 06DD..06DE 06E5..06E6 06E9 06EE..06EF 06FA..070D 070F..0710 0712..072F 074D..07A5
      07B1 07CA..07EA 07F4..07F7 07FA 0800..0815 081A 0824 0828 0830..083E 0840..0858 085E
      0860..086A 0870..088E 0890..0891 08A0..08C9 08E2 0904..0939 093D 0950 0958..0961
      0970..0980 0985..098C 098F..0990 0993..09A8 09AA..09B0 09B2 09B6..09B9 09BD 09CE
      09DC..09DD 09DF..09E1 09F0..09F1 09F4..09F8 09FA 09FC..09FD 0A05..0A0A 0A0F..0A10
      0A13..0A28 0A2A..0A30 0A32..0A33 0A35..0A36 0A38..0A39 0A59..0A5C 0A5E 0A72..0A74 0A76
      0A85..0A8D 0A8F..0A91 0A93..0AA8 0AAA..0AB0 0AB2..0AB3 0AB5..0AB9 0ABD 0AD0 0AE0..0AE1
      0AF0 0AF9 0B05..0B0C 0B0F..0B10 0B13..0B28 0B2A..0B30 0B32..0B33 0B35..0B39 0B3D
      0B5C..0B5D 0B5F..0B61 0B70..0B77 0B83 0B85..0B8A 0B8E..0B90 0B92..0B95 0B99..0B9A 0B9C
      0B9E..0B9F 0BA3..0BA4 0BA8..0BAA 0BAE..0BB9 0BD0 0BF0..0BF8 0BFA 0C05..0C0C 0C0E..0C10
      0C12..0C28 0C2A..0C39 0C3D 0C58..0C5A 0C5D 0C60..0C61 0C78..0C80 0C85..0C8C 0C8E..0C90
      0C92..0CA8 0CAA..0CB3 0CB5..0CB9 0CBD 0CDD..0CDE 0CE0..0CE1 0CF1..0CF2 0D04..0D0C
      0D0E..0D10 0D12..0D3A 0D3D 0D4E..0D4F 0D54..0D56 0D58..0D61 0D70..0D78 0D7A..0D7F
      0D85..0D96 0D9A..0DB1 0DB3..0DBB 0DBD 0DC0..0DC6 0DF4 0E4F 0F00 0F05 0F13 0F15..0F17
      0F1A..0F1F 0F2A..0F33 0F36 0F38 0F40..0F47 0F49..0F6C 0F88..0F8C 0FC0..0FC5 0FC7..0FCC
      0FCE..0FCF 0FD4..0FD8 104C..104F 10A0..10C5 10C7 10CD 10D0..10FF 1200..1248 124A..124D
      1250..1256 1258 125A..125D 1260..1288 128A..128D 1290..12B0 12B2..12B5 12B8..12BE 12C0
      12C2..12C5 12C8..12D6 12D8..1310 1312..1315 1318..135A 1360 1362..137C 1380..1399
      13A0..13F5 13F8..13FD 1401..167F 1681..169A 16A0..16EA 16EE..16F8 1700..1711 171F..1731
      1740..1751 1760..176C 176E..1770 17D9 17F0..17F9 1800..1801 1807 180A 1820..1878
      1880..1884 1887..18A8 18AA 18B0..18F5 1900..191E 1940 19E0..1A16 1A1E..1A1F 1B05..1B33
      1B45..1B4C 1B5C 1B61..1B6A 1B74..1B7C 1B83..1BA0 1BAE..1BAF 1BBA..1BE5 1BFC..1C23
      1C4D..1C4F 1C5A..1C7D 1C80..1C88 1C90..1CBA 1CBD..1CC7 1CD3 1CE9..1CEC 1CEE..1CF3
      1CF5..1CF6 1CFA 1D00..1DBF 1E00..1F15 1F18..1F1D 1F20..1F45 1F48..1F4D 1F50..1F57 1F59
      1F5B 1F5D 1F5F..1F7D 1F80..1FB4 1FB6..1FC4 1FC6..1FD3 1FD6..1FDB 1FDD..1FEF 1FF2..1FF4
      1FF6..1FFC 1FFE 2017 2022..2023 2038 203E..2043 204A..2055 2057 205C 2061..2064 2070..2071
      2075..207C 2080 2085..208C 2090..209C 2100..2102 2104 2106..2108 210A..2112 2114..2115
      2117..2120 2123..212A 212C..2153 2156..215A 215C..215D 215F 216C..216F 217A..2188
      218A..218B 219A..21D1 21D3 21D5..21FF 2201 2204..2206 2209..220A 220C..220E 2210 2214
      2216..2219 221B..221C 2221..2222 2224 2226 222D 222F..2233 2238..223B 223E..2247
      2249..224B 224D..2251 2253..225F 2262..2263 2268..2269 226C..226D 2270..2281 2284..2285
      2288..2294 2296..2298 229A..22A4 22A6..22BE 22C0..22EE 22F0..2307 230C..2311 2313..2319
      231C..2328 232B..23EF 23F4..2426 2440..244A 24FF 254C..254F 2575..257F 2590..2591
      2596..259F 25A2 25AA..25B1 25B4..25B5 25B8..25BB 25BE..25BF 25C2..25C5 25C9..25CA
      25CC..25CD 25D2..25E1 25E6..25EE 25F0..25FF 2604 2607..2608 260A..260D 2610..2613 2619
      2620..2638 263C..263F 2641 2643..265F 2662 2666 266B 266E 2670..267E 2680..269D 26A0..26BC
      26CE 26E2 26E4..26E7 2705..2707 270E..2756 2758..275A 2761 2765..2767 2794..27C4
      27C7..27E5 27F0..2982 2999..29D7 29DC..29FB 29FE..2B54 2B5A..2B73 2B76..2B95 2B97..2CEE
      2CF2..2CF3 2CFD 2D00..2D25 2D27 2D2D 2D30..2D67 2D6F 2D80..2D96 2DA0..2DA6 2DA8..2DAE
      2DB0..2DB6 2DB8..2DBE 2DC0..2DC6 2DC8..2DCE 2DD0..2DD6 2DD8..2DDE 2E16 2E1A..2E1B
      2E1E..2E1F 2E2F 2E32 2E35..2E39 2E3F 2E4B 2E4D 2E50..2E52 4DC0..4DFF A4D0..A4FD A500..A60C
      A610..A61F A62A..A62B A640..A66E A673 A67E..A69D A6A0..A6EF A6F2 A700..A7CA A7D0..A7D1
      A7D3 A7D5..A7D9 A7F2..A801 A803..A805 A807..A80A A80C..A822 A828..A82B A830..A837 A839
      A840..A873 A882..A8B3 A8F2..A8FB A8FD..A8FE A90A..A925 A930..A946 A95F A984..A9B2
      A9C1..A9C6 A9CA..A9CD A9CF A9DE..A9DF AA00..AA28 AA40..AA42 AA44..AA4B AA5C AAE0..AAEA
      AAF2..AAF4 AB01..AB06 AB09..AB0E AB11..AB16 AB20..AB26 AB28..AB2E AB30..AB6B AB70..ABE2
      FB00..FB06 FB13..FB17 FB29 FB50..FBC2 FBD3..FD3D FD40..FD8F FD92..FDC7 FDCF FDF0..FDFB
      FDFD..FDFF FE70..FE74 FE76..FEFC FFE8..FFEE 10000..1000B 1000D..10026 10028..1003A
      1003C..1003D 1003F..1004D 10050..1005D 10080..100FA 10107..10133 10137..1018E 10190..1019C
      101A0 101D0..101FC 10280..1029C 102A0..102D0 102E1..102FB 10300..10323 1032D..1034A
      10350..10375 10380..1039D 103A0..103C3 103C8..103CF 103D1..103D5 10400..1049D 104B0..104D3
      104D8..104FB 10500..10527 10530..10563 1056F..1057A 1057C..1058A 1058C..10592 10594..10595
      10597..105A1 105A3..105B1 105B3..105B9 105BB..105BC 10600..10736 10740..10755 10760..10767
      10780..10785 10787..107B0 107B2..107BA 10800..10805 10808 1080A..10835 10837..10838 1083C
      1083F..10855 10858..1089E 108A7..108AF 108E0..108F2 108F4..108F5 108FB..1091B 10920..10939
      1093F 10980..109B7 109BC..109CF 109D2..10A00 10A10..10A13 10A15..10A17 10A19..10A35
      10A40..10A48 10A58 10A60..10A9F 10AC0..10AE4 10AEB..10AEF 10B00..10B35 10B40..10B55
      10B58..10B72 10B78..10B91 10B99..10B9C 10BA9..10BAF 10C00..10C48 10C80..10CB2 10CC0..10CF2
      10CFA..10D23 10E60..10E7E 10E80..10EA9 10EB0..10EB1 10F00..10F27 10F30..10F45 10F51..10F59
      10F70..10F81 10F86..10F89 10FB0..10FCB 10FE0..10FF6 11003..11037 11049..1104D 11052..11065
      11071..11072 11075 11083..110AF 110BB..110BD 110CD 110D0..110E8 11103..11126 11144 11147
      11150..11172 11174 11176 11183..111B2 111C1..111C4 111C7 111CD 111DA 111DC 111E1..111F4
      11200..11211 11213..1122B 1123A 1123D 11280..11286 11288 1128A..1128D 1128F..1129D
      1129F..112A8 112B0..112DE 11305..1130C 1130F..11310 11313..11328 1132A..11330 11332..11333
      11335..11339 1133D 11350 1135D..11361 11400..11434 11447..1144A 1144F 1145D 1145F..11461
      11480..114AF 114C4..114C7 11580..115AE 115C6..115C8 115D8..115DB 11600..1162F 11643..11644
      11680..116AA 116B8..116B9 11800..1182B 1183B 118A0..118DF 118EA..118F2 118FF..11906 11909
      1190C..11913 11915..11916 11918..1192F 1193F 11941 119A0..119A7 119AA..119D0 119E1 119E3
      11A00 11A0B..11A32 11A3A 11A40 11A46 11A50 11A5C..11A89 11A9D 11AB0..11AF8 11C00..11C08
      11C0A..11C2E 11C40 11C5A..11C6C 11C72..11C8F 11D00..11D06 11D08..11D09 11D0B..11D30 11D46
      11D60..11D65 11D67..11D68 11D6A..11D89 11D98 11EE0..11EF2 11EF7..11EF8 11FB0 11FC0..11FDC
      11FE1..11FF1 12000..12399 12400..1246E 12480..12543 12F90..12FF2 13000..13257 1325E..13281
      13283..13285 1328A..13378 1337C..1342E 14400..145CD 145D0..14646 16800..16A38 16A40..16A5E
      16A70..16ABE 16AD0..16AED 16B00..16B2F 16B3A..16B43 16B45 16B5B..16B61 16B63..16B77
      16B7D..16B8F 16E40..16E96 16E99..16E9A 16F00..16F4A 16F50 16F93..16F9F 18B00..18CD5
      1AFF0..1AFF3 1AFF5..1AFFB 1AFFD..1AFFE 1BC00..1BC6A 1BC70..1BC7C 1BC80..1BC88 1BC90..1BC99
      1BC9C 1CF50..1CFC3 1D000..1D0F5 1D100..1D126 1D129..1D164 1D16A..1D16C 1D183..1D184
      1D18C..1D1A9 1D1AE..1D1EA 1D200..1D241 1D245 1D2E0..1D2F3 1D300..1D356 1D360..1D378
      1D400..1D454 1D456..1D49C 1D49E..1D49F 1D4A2 1D4A5..1D4A6 1D4A9..1D4AC 1D4AE..1D4B9 1D4BB
      1D4BD..1D4C3 1D4C5..1D505 1D507..1D50A 1D50D..1D514 1D516..1D51C 1D51E..1D539 1D53B..1D53E
      1D540..1D544 1D546 1D54A..1D550 1D552..1D6A5 1D6A8..1D7CB 1D800..1D9FF 1DA37..1DA3A
      1DA6D..1DA74 1DA76..1DA83 1DA85..1DA86 1DA8B 1DF00..1DF1E 1E100..1E12C 1E137..1E13D
      1E14E..1E14F 1E290..1E2AD 1E2C0..1E2EB 1E7E0..1E7E6 1E7E8..1E7EB 1E7ED..1E7EE 1E7F0..1E7FE
      1E800..1E8C4 1E8C7..1E8CF 1E900..1E943 1E94B 1EC71..1ECAB 1ECAD..1ECAF 1ECB1..1ECB4
      1ED01..1ED3D 1EE00..1EE03 1EE05..1EE1F 1EE21..1EE22 1EE24 1EE27 1EE29..1EE32 1EE34..1EE37
      1EE39 1EE3B 1EE42 1EE47 1EE49 1EE4B 1EE4D..1EE4F 1EE51..1EE52 1EE54 1EE57 1EE59 1EE5B
      1EE5D 1EE5F 1EE61..1EE62 1EE64 1EE67..1EE6A 1EE6C..1EE72 1EE74..1EE77 1EE79..1EE7C 1EE7E
      1EE80..1EE89 1EE8B..1EE9B 1EEA1..1EEA3 1EEA5..1EEA9 1EEAB..1EEBB 1EEF0..1EEF1 1F12E..1F12F
      1F16A..1F16C 1F39C..1F39D 1F3B5..1F3B6 1F3BC 1F4A0 1F4A2 1F4A4 1F4AF 1F4B1..1F4B2
      1F500..1F506 1F517..1F524 1F532..1F549 1F5D4..1F5DB 1F5F4..1F5F9 1F650..1F675 1F67C..1F67F
      1F700..1F773 1F780..1F7D4 1F800..1F80B 1F810..1F847 1F850..1F859 1F860..1F887 1F890..1F8AD
      1F900..1F90B 1FA00..1FA53 1FB00..1FB92 1FB94..1FBCA",
    plainValue "Ambiguous" ["AI"]
      "00A7..00A8 00AA 00B2..00B3 00B6..00BA 00BC..00BE 00D7 00F7 02C7 02C9..02CB 02CD 02D0
      02D8..02DB 02DD 2015..2016 2020..2021 203B 2074 207F 2081..2084 2105 2113 2121..2122 212B
      2154..2155 215B 215E 2160..216B 2170..2179 2189 2190..2199 21D2 21D4 2200 2202..2203
      2207..2208 220B 220F 2211 2215 221A 221D..2220 2223 2225 2227..222C 222E 2234..2237
      223C..223D 2248 224C 2252 2260..2261 2264..2267 226A..226B 226E..226F 2282..2283
      2286..2287 2295 2299 22A5 22BF 2312 2460..24FE 2500..254B 2550..2574 2580..258F 2592..2595
      25A0..25A1 25A3..25A9 25B2..25B3 25B6..25B7 25BC..25BD 25C0..25C1 25C6..25C8 25CB
      25CE..25D1 25E2..25E5 25EF 2605..2606 2609 260E..260F 2616..2617 2640 2642 2660..2661
      2663..2665 2667 2669..266A 266C..266D 266F 269E..269F 26C9..26CC 26D2 26D5..26D7
      26DA..26DB 26DD..26DE 26E3 26E8..26E9 26EB..26F0 26F6 26FB..26FC 2757 2776..2793
      2B55..2B59 3248..324F FFFD 1F100..1F10C 1F110..1F12D 1F130..1F169 1F170..1F1AC",
    plainValue "Break_After" ["BA"]
      "0009 007C 00AD 058A 05BE 0964..0965 0E5A..0E5B 0F0B 0F34 0F7F 0F85 0FBE..0FBF 0FD2
      104A..104B 1361 1400 1680 16EB..16ED 1735..1736 17D4..17D5 17D8 17DA 1804..1805 1B5A..1B5B
      1B5D..1B60 1B7D..1B7E 1C3B..1C3F 1C7E..1C7F 2000..2006 2008..200A 2010 2012..2013 2027
      2056 2058..205B 205D..205F 2CFA..2CFC 2CFF 2D70 2E0E..2E15 2E17 2E19 2E2A..2E2D 2E30..2E31
      2E33..2E34 2E3C..2E3E 2E40..2E41 2E43..2E4A 2E4C 2E4E..2E4F 2E5D 3000 A4FE..A4FF A60D A60F
      A6F3..A6F7 A8CE..A8CF A92E..A92F A9C7..A9C9 AA5D..AA5F AAF0..AAF1 ABEB 10100..10102 1039F
      103D0 10857 1091F 10A50..10A57 10AF0..10AF5 10B39..10B3F 10EAD 11047..11048 110BE..110C1
      11140..11143 111C5..111C6 111C8 111DD..111DF 11238..11239 1123B..1123C 112A9 1144B..1144E
      1145A..1145B 115C2..115C3 115C9..115D7 11641..11642 1173C..1173E 11944..11946 11A41..11A44
      11A9A..11A9C 11AA1..11AA2 11C41..11C45 11FFF 12470..12474 16A6E..16A6F 16AF5 16B37..16B39
      16B44 16E97..16E98 1BC9F 1DA87..1DA8A",
    plainValue "Break_Before" ["BB"]
      "00B4 02C8 02CC 02DF 0C77 0C84 0F01..0F04 0F06..0F07 0F09..0F0A 0FD0..0FD1 0FD3 1806 1FFD
      A874..A875 A8FC 11175 111DB 115C1 11660..1166C 119E2 11A3F 11A45 11A9E..11AA0 11C70",
    plainValue "Break_Both" ["B2"] "2014 2E3A..2E3B",
    plainValue "Break_Symbols" ["SY"] "002F",
    plainValue "Carriage_Return" ["CR"] "000D",
    plainValue "Close_Parenthesis" ["CP"] "0029 005D",
    plainValue "Close_Punctuation" ["CL"]
      "007D 0F3B 0F3D 169C 2046 207E 208E 2309 230B 232A 2769 276B 276D 276F 2771 2773 2775 27C6
      27E7 27E9 27EB 27ED 27EF 2984 2986 2988 298A 298C 298E 2990 2992 2994 2996 2998 29D9 29DB
      29FD 2E23 2E25 2E27 2E29 2E56 2E58 2E5A 2E5C 3001..3002 3009 300B 300D 300F 3011 3015 3017
      3019 301B 301E..301F FD3E FE11..FE12 FE18 FE36 FE38 FE3A FE3C FE3E FE40 FE42 FE44 FE48
      FE50 FE52 FE5A FE5C FE5E FF09 FF0C FF0E FF3D FF5D FF60..FF61 FF63..FF64 1325B..1325D 13282
      13287 13289 1337A..1337B 13438 145CF",
    plainValue "Combining_Mark" ["CM"]
      "0000..0008 000E..001F 007F..0084 0086..009F 0300..034E 0350..035B 0363..036F 0483..0489
      0591..05BD 05BF 05C1..05C2 05C4..05C5 05C7 0610..061A 061C 064B..065F 0670 06D6..06DC
      06DF..06E4 06E7..06E8 06EA..06ED 0711 0730..074A 07A6..07B0 07EB..07F3 07FD 0816..0819
      081B..0823 0825..0827 0829..082D 0859..085B 0898..089F 08CA..08E1 08E3..0903 093A..093C
      093E..094F 0951..0957 0962..0963 0981..0983 09BC 09BE..09C4 09C7..09C8 09CB..09CD 09D7
      09E2..09E3 09FE 0A01..0A03 0A3C 0A3E..0A42 0A47..0A48 0A4B..0A4D 0A51 0A70..0A71 0A75
      0A81..0A83 0ABC 0ABE..0AC5 0AC7..0AC9 0ACB..0ACD 0AE2..0AE3 0AFA..0AFF 0B01..0B03 0B3C
      0B3E..0B44 0B47..0B48 0B4B..0B4D 0B55..0B57 0B62..0B63 0B82 0BBE..0BC2 0BC6..0BC8
      0BCA..0BCD 0BD7 0C00..0C04 0C3C 0C3E..0C44 0C46..0C48 0C4A..0C4D 0C55..0C56 0C62..0C63
      0C81..0C83 0CBC 0CBE..0CC4 0CC6..0CC8 0CCA..0CCD 0CD5..0CD6 0CE2..0CE3 0D00..0D03
      0D3B..0D3C 0D3E..0D44 0D46..0D48 0D4A..0D4D 0D57 0D62..0D63 0D81..0D83 0DCA 0DCF..0DD4
      0DD6 0DD8..0DDF 0DF2..0DF3 0F18..0F19 0F35 0F37 0F39 0F3E..0F3F 0F71..0F7E 0F80..0F84
      0F86..0F87 0F8D..0F97 0F99..0FBC 0FC6 135D..135F 1712..1715 1732..1734 1752..1753
      1772..1773 180B..180D 180F 1885..1886 18A9 1920..192B 1930..193B 1A17..1A1B 1A7F
      1AB0..1ACE 1B00..1B04 1B34..1B44 1B6B..1B73 1B80..1B82 1BA1..1BAD 1BE6..1BF3 1C24..1C37
      1CD0..1CD2 1CD4..1CE8 1CED 1CF4 1CF7..1CF9 1DC0..1DFF 200C 200E..200F 202A..202E
      2066..206F 20D0..20F0 2CEF..2CF1 2D7F 2DE0..2DFF 302A..302F 3035 3099..309A A66F..A672
      A674..A67D A69E..A69F A6F0..A6F1 A802 A806 A80B A823..A827 A82C A880..A881 A8B4..A8C5
      A8E0..A8F1 A8FF A926..A92D A947..A953 A980..A983 A9B3..A9C0 AA29..AA36 AA43 AA4C..AA4D
      AAEB..AAEF AAF5..AAF6 ABE3..ABEA ABEC..ABED FB1E FE00..FE0F FE20..FE2F FFF9..FFFB 101FD
      102E0 10376..1037A 10A01..10A03 10A05..10A06 10A0C..10A0F 10A38..10A3A 10A3F 10AE5..10AE6
      10D24..10D27 10EAB..10EAC 10F46..10F50 10F82..10F85 11000..11002 11038..11046 11070
      11073..11074 1107F..11082 110B0..110BA 110C2 11100..11102 11127..11134 11145..11146 11173
      11180..11182 111B3..111C0 111C9..111CC 111CE..111CF 1122C..11237 1123E 112DF..112EA
      11300..11303 1133B..1133C 1133E..11344 11347..11348 1134B..1134D 11357 11362..11363
      11366..1136C 11370..11374 11435..11446 1145E 114B0..114C3 115AF..115B5 115B8..115C0
      115DC..115DD 11630..11640 116AB..116B7 1182C..1183A 11930..11935 11937..11938 1193B..1193E
      11940 11942..11943 119D1..119D7 119DA..119E0 119E4 11A01..11A0A 11A33..11A39 11A3B..11A3E
      11A47 11A51..11A5B 11A8A..11A99 11C2F..11C36 11C38..11C3F 11C92..11CA7 11CA9..11CB6
      11D31..11D36 11D3A 11D3C..11D3D 11D3F..11D45 11D47 11D8A..11D8E 11D90..11D91 11D93..11D97
      11EF3..11EF6 16AF0..16AF4 16B30..16B36 16F4F 16F51..16F87 16F8F..16F92 16FF0..16FF1
      1BC9D..1BC9E 1BCA0..1BCA3 1CF00..1CF2D 1CF30..1CF46 1D165..1D169 1D16D..1D182 1D185..1D18B
      1D1AA..1D1AD 1D242..1D244 1DA00..1DA36 1DA3B..1DA6C 1DA75 1DA84 1DA9B..1DA9F 1DAA1..1DAAF
      1E000..1E006 1E008..1E018 1E01B..1E021 1E023..1E024 1E026..1E02A 1E130..1E136 1E2AE
      1E2EC..1E2EF 1E8D0..1E8D6 1E944..1E94A E0001 E0020..E007F E0100..E01EF",
    plainValue "Complex_Context" ["SA"]
      "0E01..0E3A 0E40..0E4E 0E81..0E82 0E84 0E86..0E8A 0E8C..0EA3 0EA5 0EA7..0EBD 0EC0..0EC4
      0EC6 0EC8..0ECD 0EDC..0EDF 1000..103F 1050..108F 109A..109F 1780..17D3 17D7 17DC..17DD
      1950..196D 1970..1974 1980..19AB 19B0..19C9 19DA 19DE..19DF 1A20..1A5E 1A60..1A7C
      1AA0..1AAD A9E0..A9EF A9FA..A9FE AA60..AAC2 AADB..AADF 11700..1171A 1171D..1172B
      1173A..1173B 1173F..11746",
    plainValue "Conditional_Japanese_Starter" ["CJ"]
      "3041 3043 3045 3047 3049 3063 3083 3085 3087 308E 3095..3096 30A1 30A3 30A5 30A7 30A9
      30C3 30E3 30E5 30E7 30EE 30F5..30F6 30FC 31F0..31FF FF67..FF70 1B150..1B152 1B164..1B167",
    plainValue "Contingent_Break" ["CB"] "FFFC",
    plainValue "E_Base" ["EB"]
      "261D 26F9 270A..270D 1F385 1F3C2..1F3C4 1F3C7 1F3CA..1F3CC 1F442..1F443 1F446..1F450
      1F466..1F478 1F47C 1F481..1F483 1F485..1F487 1F48F 1F491 1F4AA 1F574..1F575 1F57A 1F590
      1F595..1F596 1F645..1F647 1F64B..1F64F 1F6A3 1F6B4..1F6B6 1F6C0 1F6CC 1F90C 1F90F
      1F918..1F91F 1F926 1F930..1F939 1F93C..1F93E 1F977 1F9B5..1F9B6 1F9B8..1F9B9 1F9BB
      1F9CD..1F9CF 1F9D1..1F9DD 1FAC3..1FAC5 1FAF0..1FAF6",
    plainValue "E_Modifier" ["EM"] "1F3FB..1F3FF",
    plainValue "Exclamation" ["EX"]
      "0021 003F 05C6 061B 061D..061F 06D4 07F9 0F0D..0F11 0F14 1802..1803 1808..1809 1944..1945
      2762..2763 2CF9 2CFE 2E2E 2E53..2E54 A60E A876..A877 FE15..FE16 FE56..FE57 FF01 FF1F
      115C4..115C5 11C71",
    plainValue "Glue" ["GL"]
      "00A0 034F 035C..0362 0F08 0F0C 0F12 0FD9..0FDA 180E 2007 2011 202F 13430..13436 16FE4",
    plainValue "H2" []
      "AC00 AC1C AC38 AC54 AC70 AC8C ACA8 ACC4 ACE0 ACFC AD18 AD34 AD50 AD6C AD88 ADA4 ADC0 ADDC
      ADF8 AE14 AE30 AE4C AE68 AE84 AEA0 AEBC AED8 AEF4 AF10 AF2C AF48 AF64 AF80 AF9C AFB8 AFD4
      AFF0 B00C B028 B044 B060 B07C B098 B0B4 B0D0 B0EC B108 B124 B140 B15C B178 B194 B1B0 B1CC
      B1E8 B204 B220 B23C B258 B274 B290 B2AC B2C8 B2E4 B300 B31C B338 B354 B370 B38C B3A8 B3C4
      B3E0 B3FC B418 B434 B450 B46C B488 B4A4 B4C0 B4DC B4F8 B514 B530 B54C B568 B584 B5A0 B5BC
      B5D8 B5F4 B610 B62C B648 B664 B680 B69C B6B8 B6D4 B6F0 B70C B728 B744 B760 B77C B798 B7B4
      B7D0 B7EC B808 B824 B840 B85C B878 B894 B8B0 B8CC B8E8 B904 B920 B93C B958 B974 B990 B9AC
      B9C8 B9E4 BA00 BA1C BA38 BA54 BA70 BA8C BAA8 BAC4 BAE0 BAFC BB18 BB34 BB50 BB6C BB88 BBA4
      BBC0 BBDC BBF8 BC14 BC30 BC4C BC68 BC84 BCA0 BCBC BCD8 BCF4 BD10 BD2C BD48 BD64 BD80 BD9C
      BDB8 BDD4 BDF0 BE0C BE28 BE44 BE60 BE7C BE98 BEB4 BED0 BEEC BF08 BF24 BF40 BF5C BF78 BF94
      BFB0 BFCC BFE8 C004 C020 C03C C058 C074 C090 C0AC C0C8 C0E4 C100 C11C C138 C154 C170 C18C
      C1A8 C1C4 C1E0 C1FC C218 C234 C250 C26C C288 C2A4 C2C0 C2DC C2F8 C314 C330 C34C C368 C384
      C3A0 C3BC C3D8 C3F4 C410 C42C C448 C464 C480 C49C C4B8 C4D4 C4F0 C50C C528 C544 C560 C57C
      C598 C5B4 C5D0 C5EC C608 C624 C640 C65C C678 C694 C6B0 C6CC C6E8 C704 C720 C73C C758 C774
      C790 C7AC C7C8 C7E4 C800 C81C C838 C854 C870 C88C C8A8 C8C4 C8E0 C8FC C918 C934 C950 C96C
      C988 C9A4 C9C0 C9DC C9F8 CA14 CA30 CA4C CA68 CA84 CAA0 CABC CAD8 CAF4 CB10 CB2C CB48 CB64
      CB80 CB9C CBB8 CBD4 CBF0 CC0C CC28 CC44 CC60 CC7C CC98 CCB4 CCD0 CCEC CD08 CD24 CD40 CD5C
      CD78 CD94 CDB0 CDCC CDE8 CE04 CE20 CE3C CE58 CE74 CE90 CEAC CEC8 CEE4 CF00 CF1C CF38 CF54
      CF70 CF8C CFA8 CFC4 CFE0 CFFC D018 D034 D050 D06C D088 D0A4 D0C0 D0DC D0F8 D114 D130 D14C
      D168 D184 D1A0 D1BC D1D8 D1F4 D210 D22C D248 D264 D280 D29C D2B8 D2D4 D2F0 D30C D328 D344
      D360 D37C D398 D3B4 D3D0 D3EC D408 D424 D440 D45C D478 D494 D4B0 D4CC D4E8 D504 D520 D53C
      D558 D574 D590 D5AC D5C8 D5E4 D600 D61C D638 D654 D670 D68C D6A8 D6C4 D6E0 D6FC D718 D734
      D750 D76C D788",
    plainValue "H3" []
      "AC01..AC1B AC1D..AC37 AC39..AC53 AC55..AC6F AC71..AC8B AC8D..ACA7 ACA9..ACC3 ACC5..ACDF
      ACE1..ACFB ACFD..AD17 AD19..AD33 AD35..AD4F AD51..AD6B AD6D..AD87 AD89..ADA3 ADA5..ADBF
      ADC1..ADDB ADDD..ADF7 ADF9..AE13 AE15..AE2F AE31..AE4B AE4D..AE67 AE69..AE83 AE85..AE9F
      AEA1..AEBB AEBD..AED7 AED9..AEF3 AEF5..AF0F AF11..AF2B AF2D..AF47 AF49..AF63 AF65..AF7F
      AF81..AF9B AF9D..AFB7 AFB9..AFD3 AFD5..AFEF AFF1..B00B B00D..B027 B029..B043 B045..B05F
      B061..B07B B07D..B097 B099..B0B3 B0B5..B0CF B0D1..B0EB B0ED..B107 B109..B123 B125..B13F
      B141..B15B B15D..B177 B179..B193 B195..B1AF B1B1..B1CB B1CD..B1E7 B1E9..B203 B205..B21F
      B221..B23B B23D..B257 B259..B273 B275..B28F B291..B2AB B2AD..B2C7 B2C9..B2E3 B2E5..B2FF
      B301..B31B B31D..B337 B339..B353 B355..B36F B371..B38B B38D..B3A7 B3A9..B3C3 B3C5..B3DF
      B3E1..B3FB B3FD..B417 B419..B433 B435..B44F B451..B46B B46D..B487 B489..B4A3 B4A5..B4BF
      B4C1..B4DB B4DD..B4F7 B4F9..B513 B515..B52F B531..B54B B54D..B567 B569..B583 B585..B59F
      B5A1..B5BB B5BD..B5D7 B5D9..B5F3 B5F5..B60F B611..B62B B62D..B647 B649..B663 B665..B67F
      B681..B69B B69D..B6B7 B6B9..B6D3 B6D5..B6EF B6F1..B70B B70D..B727 B729..B743 B745..B75F
      B761..B77B B77D..B797 B799..B7B3 B7B5..B7CF B7D1..B7EB B7ED..B807 B809..B823 B825..B83F
      B841..B85B B85D..B877 B879..B893 B895..B8AF B8B1..B8CB B8CD..B8E7 B8E9..B903 B905..B91F
      B921..B93B B93D..B957 B959..B973 B975..B98F B991..B9AB B9AD..B9C7 B9C9..B9E3 B9E5..B9FF
      BA01..BA1B BA1D..BA37 BA39..BA53 BA55..BA6F BA71..BA8B BA8D..BAA7 BAA9..BAC3 BAC5..BADF
      BAE1..BAFB BAFD..BB17 BB19..BB33 BB35..BB4F BB51..BB6B BB6D..BB87 BB89..BBA3 BBA5..BBBF
      BBC1..BBDB BBDD..BBF7 BBF9..BC13 BC15..BC2F BC31..BC4B BC4D..BC67 BC69..BC83 BC85..BC9F
      BCA1..BCBB BCBD..BCD7 BCD9..BCF3 BCF5..BD0F BD11..BD2B BD2D..BD47 BD49..BD63 BD65..BD7F
      BD81..BD9B BD9D..BDB7 BDB9..BDD3 BDD5..BDEF BDF1..BE0B BE0D..BE27 BE29..BE43 BE45..BE5F
      BE61..BE7B BE7D..BE97 BE99..BEB3 BEB5..BECF BED1..BEEB BEED..BF07 BF09..BF23 BF25..BF3F
      BF41..BF5B BF5D..BF77 BF79..BF93 BF95..BFAF BFB1..BFCB BFCD..BFE7 BFE9..C003 C005..C01F
      C021..C03B C03D..C057 C059..C073 C075..C08F C091..C0AB C0AD..C0C7 C0C9..C0E3 C0E5..C0FF
      C101..C11B C11D..C137 C139..C153 C155..C16F C171..C18B C18D..C1A7 C1A9..C1C3 C1C5..C1DF
      C1E1..C1FB C1FD..C217 C219..C233 C235..C24F C251..C26B C26D..C287 C289..C2A3 C2A5..C2BF
      C2C1..C2DB C2DD..C2F7 C2F9..C313 C315..C32F C331..C34B C34D..C367 C369..C383 C385..C39F
      C3A1..C3BB C3BD..C3D7 C3D9..C3F3 C3F5..C40F C411..C42B C42D..C447 C449..C463 C465..C47F
      C481..C49B C49D..C4B7 C4B9..C4D3 C4D5..C4EF C4F1..C50B C50D..C527 C529..C543 C545..C55F
      C561..C57B C57D..C597 C599..C5B3 C5B5..C5CF C5D1..C5EB C5ED..C607 C609..C623 C625..C63F
      C641..C65B C65D..C677 C679..C693 C695..C6AF C6B1..C6CB C6CD..C6E7 C6E9..C703 C705..C71F
      C721..C73B C73D..C757 C759..C773 C775..C78F C791..C7AB C7AD..C7C7 C7C9..C7E3 C7E5..C7FF
      C801..C81B C81D..C837 C839..C853 C855..C86F C871..C88B C88D..C8A7 C8A9..C8C3 C8C5..C8DF
      C8E1..C8FB C8FD..C917 C919..C933 C935..C94F C951..C96B C96D..C987 C989..C9A3 C9A5..C9BF
      C9C1..C9DB C9DD..C9F7 C9F9..CA13 CA15..CA2F CA31..CA4B CA4D..CA67 CA69..CA83 CA85..CA9F
      CAA1..CABB CABD..CAD7 CAD9..CAF3 CAF5..CB0F CB11..CB2B CB2D..CB47 CB49..CB63 CB65..CB7F
      CB81..CB9B CB9D..CBB7 CBB9..CBD3 CBD5..CBEF CBF1..CC0B CC0D..CC27 CC29..CC43 CC45..CC5F
      CC61..CC7B CC7D..CC97 CC99..CCB3 CCB5..CCCF CCD1..CCEB CCED..CD07 CD09..CD23 CD25..CD3F
      CD41..CD5B CD5D..CD77 CD79..CD93 CD95..CDAF CDB1..CDCB CDCD..CDE7 CDE9..CE03 CE05..CE1F
      CE21..CE3B CE3D..CE57 CE59..CE73 CE75..CE8F CE91..CEAB CEAD..CEC7 CEC9..CEE3 CEE5..CEFF
      CF01..CF1B CF1D..CF37 CF39..CF53 CF55..CF6F CF71..CF8B CF8D..CFA7 CFA9..CFC3 CFC5..CFDF
      CFE1..CFFB CFFD..D017 D019..D033 D035..D04F D051..D06B D06D..D087 D089..D0A3 D0A5..D0BF
      D0C1..D0DB D0DD..D0F7 D0F9..D113 D115..D12F D131..D14B D14D..D167 D169..D183 D185..D19F
      D1A1..D1BB D1BD..D1D7 D1D9..D1F3 D1F5..D20F D211..D22B D22D..D247 D249..D263 D265..D27F
      D281..D29B D29D..D2B7 D2B9..D2D3 D2D5..D2EF D2F1..D30B D30D..D327 D329..D343 D345..D35F
      D361..D37B D37D..D397 D399..D3B3 D3B5..D3CF D3D1..D3EB D3ED..D407 D409..D423 D425..D43F
      D441..D45B D45D..D477 D479..D493 D495..D4AF D4B1..D4CB D4CD..D4E7 D4E9..D503 D505..D51F
      D521..D53B D53D..D557 D559..D573 D575..D58F D591..D5AB D5AD..D5C7 D5C9..D5E3 D5E5..D5FF
      D601..D61B D61D..D637 D639..D653 D655..D66F D671..D68B D68D..D6A7 D6A9..D6C3 D6C5..D6DF
      D6E1..D6FB D6FD..D717 D719..D733 D735..D74F D751..D76B D76D..D787 D789..D7A3",
    plainValue "Hebrew_Letter" ["HL"]
      "05D0..05EA 05EF..05F2 FB1D FB1F..FB28 FB2A..FB36 FB38..FB3C FB3E FB40..FB41 FB43..FB44
      FB46..FB4F",
    plainValue "Hyphen" ["HY"] "002D",
    plainValue "Ideographic" ["ID"]
      "231A..231B 23F0..23F3 2600..2603 2614..2615 2618 261A..261C 261E..261F 2639..263B 2668
      267F 26BD..26C8 26CD 26CF..26D1 26D3..26D4 26D8..26D9 26DC 26DF..26E1 26EA 26F1..26F5
      26F7..26F8 26FA 26FD..2704 2708..2709 2764 2E80..2E99 2E9B..2EF3 2F00..2FD5 2FF0..2FFB
      3003..3004 3006..3007 3012..3013 3020..3029 3030..3034 3036..303A 303D..303F 3042 3044
      3046 3048 304A..3062 3064..3082 3084 3086 3088..308D 308F..3094 309F 30A2 30A4 30A6 30A8
      30AA..30C2 30C4..30E2 30E4 30E6 30E8..30ED 30EF..30F4 30F7..30FA 30FF 3105..312F
      3131..318E 3190..31E3 3200..321E 3220..3247 3250..4DBF 4E00..A014 A016..A48C A490..A4C6
      F900..FAFF FE30..FE34 FE45..FE46 FE49..FE4F FE51 FE58 FE5F..FE66 FE68 FE6B FF02..FF03
      FF06..FF07 FF0A..FF0B FF0D FF0F..FF19 FF1C..FF1E FF20..FF3A FF3C FF3E..FF5A FF5C FF5E FF66
      FF71..FF9D FFA0..FFBE FFC2..FFC7 FFCA..FFCF FFD2..FFD7 FFDA..FFDC FFE2..FFE4 17000..187F7
      18800..18AFF 18D00..18D08 1B000..1B122 1B170..1B2FB 1F000..1F0FF 1F10D..1F10F 1F16D..1F16F
      1F1AD..1F1E5 1F200..1F384 1F386..1F39B 1F39E..1F3B4 1F3B7..1F3BB 1F3BD..1F3C1 1F3C5..1F3C6
      1F3C8..1F3C9 1F3CD..1F3FA 1F400..1F441 1F444..1F445 1F451..1F465 1F479..1F47B 1F47D..1F480
      1F484 1F488..1F48E 1F490 1F492..1F49F 1F4A1 1F4A3 1F4A5..1F4A9 1F4AB..1F4AE 1F4B0
      1F4B3..1F4FF 1F507..1F516 1F525..1F531 1F54A..1F573 1F576..1F579 1F57B..1F58F 1F591..1F594
      1F597..1F5D3 1F5DC..1F5F3 1F5FA..1F644 1F648..1F64A 1F680..1F6A2 1F6A4..1F6B3 1F6B7..1F6BF
      1F6C1..1F6CB 1F6CD..1F6FF 1F774..1F77F 1F7D5..1F7FF 1F80C..1F80F 1F848..1F84F 1F85A..1F85F
      1F888..1F88F 1F8AE..1F8FF 1F90D..1F90E 1F910..1F917 1F920..1F925 1F927..1F92F 1F93A..1F93B
      1F93F..1F976 1F978..1F9B4 1F9B7 1F9BA 1F9BC..1F9CC 1F9D0 1F9DE..1F9FF 1FA54..1FAC2
      1FAC6..1FAEF 1FAF7..1FAFF 1FC00..1FFFD 20000..2FFFD 30000..3FFFD",
    plainValue "Infix_Numeric" ["IS"]
      "002C 002E 003A..003B 037E 0589 060C..060D 07F8 2044 FE10 FE13..FE14",
    plainValue "Inseparable" ["IN", "Inseperable"] "2024..2026 22EF FE19 10AF6",
    plainValue "JL" [] "1100..115F A960..A97C",
    plainValue "JT" [] "11A8..11FF D7CB..D7FB",
    plainValue "JV" [] "1160..11A7 D7B0..D7C6",
    plainValue "Line_Feed" ["LF"] "000A",
    plainValue "Mandatory_Break" ["BK"] "000B..000C 2028..2029",
    plainValue "Next_Line" ["NL"] "0085",
    plainValue "Nonstarter" ["NS"]
      "17D6 203C..203D 2047..2049 3005 301C 303B..303C 309B..309E 30A0 30FB 30FD..30FE A015
      FE54..FE55 FF1A..FF1B FF65 FF9E..FF9F 16FE0..16FE3 1F679..1F67B",
    plainValue "Numeric" ["NU"]
      "0030..0039 0660..0669 066B..066C 06F0..06F9 07C0..07C9 0966..096F 09E6..09EF 0A66..0A6F
      0AE6..0AEF 0B66..0B6F 0BE6..0BEF 0C66..0C6F 0CE6..0CEF 0D66..0D6F 0DE6..0DEF 0E50..0E59
      0ED0..0ED9 0F20..0F29 1040..1049 1090..1099 17E0..17E9 1810..1819 1946..194F 19D0..19D9
      1A80..1A89 1A90..1A99 1B50..1B59 1BB0..1BB9 1C40..1C49 1C50..1C59 A620..A629 A8D0..A8D9
      A900..A909 A9D0..A9D9 A9F0..A9F9 AA50..AA59 ABF0..ABF9 104A0..104A9 10D30..10D39
      11066..1106F 110F0..110F9 11136..1113F 111D0..111D9 112F0..112F9 11450..11459 114D0..114D9
      11650..11659 116C0..116C9 11730..11739 118E0..118E9 11950..11959 11C50..11C59 11D50..11D59
      11DA0..11DA9 16A60..16A69 16AC0..16AC9 16B50..16B59 1D7CE..1D7FF 1E140..1E149 1E2F0..1E2F9
      1E950..1E959 1FBF0..1FBF9",
    plainValue "Open_Punctuation" ["OP"]
      "0028 005B 007B 00A1 00BF 0F3A 0F3C 169B 201A 201E 2045 207D 208D 2308 230A 2329 2768 276A
      276C 276E 2770 2772 2774 27C5 27E6 27E8 27EA 27EC 27EE 2983 2985 2987 2989 298B 298D 298F
      2991 2993 2995 2997 29D8 29DA 29FC 2E18 2E22 2E24 2E26 2E28 2E42 2E55 2E57 2E59 2E5B 3008
      300A 300C 300E 3010 3014 3016 3018 301A 301D FD3F FE17 FE35 FE37 FE39 FE3B FE3D FE3F FE41
      FE43 FE47 FE59 FE5B FE5D FF08 FF3B FF5B FF5F FF62 13258..1325A 13286 13288 13379 13437
      145CE 1E95E..1E95F",
    plainValue "Postfix_Numeric" ["PO"]
      "0025 00A2 00B0 0609..060B 066A 09F2..09F3 09F9 0D79 2030..2037 20A7 20B6 20BB 20BE 20C0
      2103 2109 A838 FDFC FE6A FF05 FFE0 11FDD..11FE0 1ECAC 1ECB0",
    plainValue "Prefix_Numeric" ["PR"]
      "0024 002B 005C 00A3..00A5 00B1 058F 07FE..07FF 09FB 0AF1 0BF9 0E3F 17DB 20A0..20A6
      20A8..20B5 20B7..20BA 20BC..20BD 20BF 20C1..20CF 2116 2212..2213 FE69 FF04 FFE1 FFE5..FFE6
      1E2FF",
    plainValue "Quotation" ["QU"]
      "0022 0027 00AB 00BB 2018..2019 201B..201D 201F 2039..203A 275B..2760 2E00..2E0D
      2E1C..2E1D 2E20..2E21 1F676..1F678",
    plainValue "Regional_Indicator" ["RI"] "1F1E6..1F1FF",
    plainValue "Space" ["SP"] "0020",
    plainValue "Surrogate" ["SG"] "D800..DFFF",
    plainValue "Unknown" ["XX"]
      "0378..0379 0380..0383 038B 038D 03A2 0530 0557..0558 058B..058C 0590 05C8..05CF
      05EB..05EE 05F5..05FF 070E 074B..074C 07B2..07BF 07FB..07FC 082E..082F 083F 085C..085D
      085F 086B..086F 088F 0892..0897 0984 098D..098E 0991..0992 09A9 09B1 09B3..09B5 09BA..09BB
      09C5..09C6 09C9..09CA 09CF..09D6 09D8..09DB 09DE 09E4..09E5 09FF..0A00 0A04 0A0B..0A0E
      0A11..0A12 0A29 0A31 0A34 0A37 0A3A..0A3B 0A3D 0A43..0A46 0A49..0A4A 0A4E..0A50 0A52..0A58
      0A5D 0A5F..0A65 0A77..0A80 0A84 0A8E 0A92 0AA9 0AB1 0AB4 0ABA..0ABB 0AC6 0ACA 0ACE..0ACF
      0AD1..0ADF 0AE4..0AE5 0AF2..0AF8 0B00 0B04 0B0D..0B0E 0B11..0B12 0B29 0B31 0B34 0B3A..0B3B
      0B45..0B46 0B49..0B4A 0B4E..0B54 0B58..0B5B 0B5E 0B64..0B65 0B78..0B81 0B84 0B8B..0B8D
      0B91 0B96..0B98 0B9B 0B9D 0BA0..0BA2 0BA5..0BA7 0BAB..0BAD 0BBA..0BBD 0BC3..0BC5 0BC9
      0BCE..0BCF 0BD1..0BD6 0BD8..0BE5 0BFB..0BFF 0C0D 0C11 0C29 0C3A..0C3B 0C45 0C49 0C4E..0C54
      0C57 0C5B..0C5C 0C5E..0C5F 0C64..0C65 0C70..0C76 0C8D 0C91 0CA9 0CB4 0CBA..0CBB 0CC5 0CC9
      0CCE..0CD4 0CD7..0CDC 0CDF 0CE4..0CE5 0CF0 0CF3..0CFF 0D0D 0D11 0D45 0D49 0D50..0D53
      0D64..0D65 0D80 0D84 0D97..0D99 0DB2 0DBC 0DBE..0DBF 0DC7..0DC9 0DCB..0DCE 0DD5 0DD7
      0DE0..0DE5 0DF0..0DF1 0DF5..0E00 0E3B..0E3E 0E5C..0E80 0E83 0E85 0E8B 0EA4 0EA6 0EBE..0EBF
      0EC5 0EC7 0ECE..0ECF 0EDA..0EDB 0EE0..0EFF 0F48 0F6D..0F70 0F98 0FBD 0FCD 0FDB..0FFF 10C6
      10C8..10CC 10CE..10CF 1249 124E..124F 1257 1259 125E..125F 1289 128E..128F 12B1 12B6..12B7
      12BF 12C1 12C6..12C7 12D7 1311 1316..1317 135B..135C 137D..137F 139A..139F 13F6..13F7
      13FE..13FF 169D..169F 16F9..16FF 1716..171E 1737..173F 1754..175F 176D 1771 1774..177F
      17DE..17DF 17EA..17EF 17FA..17FF 181A..181F 1879..187F 18AB..18AF 18F6..18FF 191F
      192C..192F 193C..193F 1941..1943 196E..196F 1975..197F 19AC..19AF 19CA..19CF 19DB..19DD
      1A1C..1A1D 1A5F 1A7D..1A7E 1A8A..1A8F 1A9A..1A9F 1AAE..1AAF 1ACF..1AFF 1B4D..1B4F 1B7F
      1BF4..1BFB 1C38..1C3A 1C4A..1C4C 1C89..1C8F 1CBB..1CBC 1CC8..1CCF 1CFB..1CFF 1F16..1F17
      1F1E..1F1F 1F46..1F47 1F4E..1F4F 1F58 1F5A 1F5C 1F5E 1F7E..1F7F 1FB5 1FC5 1FD4..1FD5 1FDC
      1FF0..1FF1 1FF5 1FFF 2065 2072..2073 208F 209D..209F 20F1..20FF 218C..218F 2427..243F
      244B..245F 2B74..2B75 2B96 2CF4..2CF8 2D26 2D28..2D2C 2D2E..2D2F 2D68..2D6E 2D71..2D7E
      2D97..2D9F 2DA7 2DAF 2DB7 2DBF 2DC7 2DCF 2DD7 2DDF 2E5E..2E7F 2E9A 2EF4..2EFF 2FD6..2FEF
      2FFC..2FFF 3040 3097..3098 3100..3104 3130 318F 31E4..31EF 321F A48D..A48F A4C7..A4CF
      A62C..A63F A6F8..A6FF A7CB..A7CF A7D2 A7D4 A7DA..A7F1 A82D..A82F A83A..A83F A878..A87F
      A8C6..A8CD A8DA..A8DF A954..A95E A97D..A97F A9CE A9DA..A9DD A9FF AA37..AA3F AA4E..AA4F
      AA5A..AA5B AAC3..AADA AAF7..AB00 AB07..AB08 AB0F..AB10 AB17..AB1F AB27 AB2F AB6C..AB6F
      ABEE..ABEF ABFA..ABFF D7A4..D7AF D7C7..D7CA D7FC..D7FF E000..F8FF FB07..FB12 FB18..FB1C
      FB37 FB3D FB3F FB42 FB45 FBC3..FBD2 FD90..FD91 FDC8..FDCE FDD0..FDEF FE1A..FE1F FE53 FE67
      FE6C..FE6F FE75 FEFD..FEFE FF00 FFBF..FFC1 FFC8..FFC9 FFD0..FFD1 FFD8..FFD9 FFDD..FFDF
      FFE7 FFEF..FFF8 FFFE..FFFF 1000C 10027 1003B 1003E 1004E..1004F 1005E..1007F 100FB..100FF
      10103..10106 10134..10136 1018F 1019D..1019F 101A1..101CF 101FE..1027F 1029D..1029F
      102D1..102DF 102FC..102FF 10324..1032C 1034B..1034F 1037B..1037F 1039E 103C4..103C7
      103D6..103FF 1049E..1049F 104AA..104AF 104D4..104D7 104FC..104FF 10528..1052F 10564..1056E
      1057B 1058B 10593 10596 105A2 105B2 105BA 105BD..105FF 10737..1073F 10756..1075F
      10768..1077F 10786 107B1 107BB..107FF 10806..10807 10809 10836 10839..1083B 1083D..1083E
      10856 1089F..108A6 108B0..108DF 108F3 108F6..108FA 1091C..1091E 1093A..1093E 10940..1097F
      109B8..109BB 109D0..109D1 10A04 10A07..10A0B 10A14 10A18 10A36..10A37 10A3B..10A3E
      10A49..10A4F 10A59..10A5F 10AA0..10ABF 10AE7..10AEA 10AF7..10AFF 10B36..10B38 10B56..10B57
      10B73..10B77 10B92..10B98 10B9D..10BA8 10BB0..10BFF 10C49..10C7F 10CB3..10CBF 10CF3..10CF9
      10D28..10D2F 10D3A..10E5F 10E7F 10EAA 10EAE..10EAF 10EB2..10EFF 10F28..10F2F 10F5A..10F6F
      10F8A..10FAF 10FCC..10FDF 10FF7..10FFF 1104E..11051 11076..1107E 110C3..110CC 110CE..110CF
      110E9..110EF 110FA..110FF 11135 11148..1114F 11177..1117F 111E0 111F5..111FF 11212
      1123F..1127F 11287 11289 1128E 1129E 112AA..112AF 112EB..112EF 112FA..112FF 11304
      1130D..1130E 11311..11312 11329 11331 11334 1133A 11345..11346 11349..1134A 1134E..1134F
      11351..11356 11358..1135C 11364..11365 1136D..1136F 11375..113FF 1145C 11462..1147F
      114C8..114CF 114DA..1157F 115B6..115B7 115DE..115FF 11645..1164F 1165A..1165F 1166D..1167F
      116BA..116BF 116CA..116FF 1171B..1171C 1172C..1172F 11747..117FF 1183C..1189F 118F3..118FE
      11907..11908 1190A..1190B 11914 11917 11936 11939..1193A 11947..1194F 1195A..1199F
      119A8..119A9 119D8..119D9 119E5..119FF 11A48..11A4F 11AA3..11AAF 11AF9..11BFF 11C09 11C37
      11C46..11C4F 11C6D..11C6F 11C90..11C91 11CA8 11CB7..11CFF 11D07 11D0A 11D37..11D39 11D3B
      11D3E 11D48..11D4F 11D5A..11D5F 11D66 11D69 11D8F 11D92 11D99..11D9F 11DAA..11EDF
      11EF9..11FAF 11FB1..11FBF 11FF2..11FFE 1239A..123FF 1246F 12475..1247F 12544..12F8F
      12FF3..12FFF 1342F 13439..143FF 14647..167FF 16A39..16A3F 16A5F 16A6A..16A6D 16ABF
      16ACA..16ACF 16AEE..16AEF 16AF6..16AFF 16B46..16B4F 16B5A 16B62 16B78..16B7C 16B90..16E3F
      16E9B..16EFF 16F4B..16F4E 16F88..16F8E 16FA0..16FDF 16FE5..16FEF 16FF2..16FFF 187F8..187FF
      18CD6..18CFF 18D09..1AFEF 1AFF4 1AFFC 1AFFF 1B123..1B14F 1B153..1B163 1B168..1B16F
      1B2FC..1BBFF 1BC6B..1BC6F 1BC7D..1BC7F 1BC89..1BC8F 1BC9A..1BC9B 1BCA4..1CEFF 1CF2E..1CF2F
      1CF47..1CF4F 1CFC4..1CFFF 1D0F6..1D0FF 1D127..1D128 1D1EB..1D1FF 1D246..1D2DF 1D2F4..1D2FF
      1D357..1D35F 1D379..1D3FF 1D455 1D49D 1D4A0..1D4A1 1D4A3..1D4A4 1D4A7..1D4A8 1D4AD 1D4BA
      1D4BC 1D4C4 1D506 1D50B..1D50C 1D515 1D51D 1D53A 1D53F 1D545 1D547..1D549 1D551
      1D6A6..1D6A7 1D7CC..1D7CD 1DA8C..1DA9A 1DAA0 1DAB0..1DEFF 1DF1F..1DFFF 1E007 1E019..1E01A
      1E022 1E025 1E02B..1E0FF 1E12D..1E12F 1E13E..1E13F 1E14A..1E14D 1E150..1E28F 1E2AF..1E2BF
      1E2FA..1E2FE 1E300..1E7DF 1E7E7 1E7EC 1E7EF 1E7FF 1E8C5..1E8C6 1E8D7..1E8FF 1E94C..1E94F
      1E95A..1E95D 1E960..1EC70 1ECB5..1ED00 1ED3E..1EDFF 1EE04 1EE20 1EE23 1EE25..1EE26 1EE28
      1EE33 1EE38 1EE3A 1EE3C..1EE41 1EE43..1EE46 1EE48 1EE4A 1EE4C 1EE50 1EE53 1EE55..1EE56
      1EE58 1EE5A 1EE5C 1EE5E 1EE60 1EE63 1EE65..1EE66 1EE6B 1EE73 1EE78 1EE7D 1EE7F 1EE8A
      1EE9C..1EEA0 1EEA4 1EEAA 1EEBC..1EEEF 1EEF2..1EFFF 1FB93 1FBCB..1FBEF 1FBFA..1FBFF
      1FFFE..1FFFF 2FFFE..2FFFF 3FFFE..E0000 E0002..E001F E0080..E00FF E01F0..10FFFF",
    plainValue "Word_Joiner" ["WJ"] "2060 FEFF",
    plainValue "ZWJ" [] "200D",
    plainValue "ZWSpace" ["ZW"] "200B"
  ]

def lineBreak : EnumeratedEntry :=
  ⟨"Line_Break", ["lb", "LB"], lineBreakValues⟩

end UnicodeClasses.Ucd
