import UnicodeClasses.Ucd.TableText

/-!
# East Asian width values

The width of each code point in East Asian text, version 14.0.0 of the character database.
-/
namespace UnicodeClasses.Ucd

def eastAsianWidthValues : List ValueEntry :=
  [
    plainValue "Ambiguous" ["A"]
      "00A1 00A4 00A7..00A8 00AA 00AD..00AE 00B0..00B4 00B6..00BA 00BC..00BF 00C6 00D0
      00D7..00D8 00DE..00E1 00E6 00E8..00EA 00EC..00ED 00F0 00F2..00F3 00F7..00FA 00FC 00FE 0101
      0111 0113 011B 0126..0127 012B 0131..0133 0138 013F..0142 0144 0148..014B 014D 0152..0153
      0166..0167 016B 01CE 01D0 01D2 01D4 01D6 01D8 01DA 01DC 0251 0261 02C4 02C7 02C9..02CB
      02CD 02D0 02D8..02DB 02DD 02DF 0300..036F 0391..03A1 03A3..03A9 03B1..03C1 03C3..03C9 0401
      0410..044F 0451 2010 2013..2016 2018..2019 201C..201D 2020..2022 2024..2027 2030
      2032..2033 2035 203B 203E 2074 207F 2081..2084 20AC 2103 2105 2109 2113 2116 2121..2122
      2126 212B 2153..2154 215B..215E 2160..216B 2170..2179 2189 2190..2199 21B8..21B9 21D2 21D4
      21E7 2200 2202..2203 2207..2208 220B 220F 2211 2215 221A 221D..2220 2223 2225 2227..222C
      222E 2234..2237 223C..223D 2248 224C 2252 2260..2261 2264..2267 226A..226B 226E..226F
      2282..2283 2286..2287 2295 2299 22A5 22BF 2312 2460..24E9 24EB..254B 2550..2573 2580..258F
      2592..2595 25A0..25A1 25A3..25A9 25B2..25B3 25B6..25B7 25BC..25BD 25C0..25C1 25C6..25C8
      25CB 25CE..25D1 25E2..25E5 25EF 2605..2606 2609 260E..260F 261C 261E 2640 2642 2660..2661
      2663..2665 2667..266A 266C..266D 266F 269E..269F 26BF 26C6..26CD 26CF..26D3 26D5..26E1
      26E3 26E8..26E9 26EB..26F1 26F4 26F6..26F9 26FB..26FC 26FE..26FF 273D 2776..277F
      2B56..2B59 3248..324F E000..F8FF FE00..FE0F FFFD 1F100..1F10A 1F110..1F12D 1F130..1F169
      1F170..1F18D 1F18F..1F190 1F19B..1F1AC E0100..E01EF F0000..FFFFD 100000..10FFFD",
    plainValue "Fullwidth" ["F"] "3000 FF01..FF60 FFE0..FFE6",
    plainValue "Halfwidth" ["H"]
      "20A9 FF61..FFBE FFC2..FFC7 FFCA..FFCF FFD2..FFD7 FFDA..FFDC FFE8..FFEE",
    plainValue "Narrow" ["Na"] "0020..007E 00A2..00A3 00A5..00A6 00AC 00AF 27E6..27ED 2985..2986",
    plainValue "Neutral" ["N"]
      "0000..001F 007F..00A0 00A9 00AB 00B5 00BB 00C0..00C5 00C7..00CF 00D1..00D6 00D9..00DD
      00E2..00E5 00E7 00EB 00EE..00EF 00F1 00F4..00F6 00FB 00FD 00FF..0100 0102..0110 0112
      0114..011A 011C..0125 0128..012A 012C..0130 0134..0137 0139..013E 0143 0145..0147 014C
      014E..0151 0154..0165 0168..016A 016C..01CD 01CF 01D1 01D3 01D5 01D7 01D9 01DB 01DD..0250
      0252..0260 0262..02C3 02C5..02C6 02C8 02CC 02CE..02CF 02D1..02D7 02DC 02DE 02E0..02FF
      0370..0390 03A2 03AA..03B0 03C2 03CA..0400 0402..040F 0450 0452..10FF 1160..200F
      2011..2012 2017 201A..201B 201E..201F 2023 2028..202F 2031 2034 2036..203A 203C..203D
      203F..2073 2075..207E 2080 2085..20A8 20AA..20AB 20AD..2102 2104 2106..2108 210A..2112
      2114..2115 2117..2120 2123..2125 2127..212A 212C..2152 2155..215A 215F 216C..216F
      217A..2188 218A..218F 219A..21B7 21BA..21D1 21D3 21D5..21E6 21E8..21FF 2201 2204..2206
      2209..220A 220C..220E 2210 2212..2214 2216..2219 221B..221C 2221..2222 2224 2226 222D
      222F..2233 2238..223B 223E..2247 2249..224B 224D..2251 2253..225F 2262..2263 2268..2269
      226C..226D 2270..2281 2284..2285 2288..2294 2296..2298 229A..22A4 22A6..22BE 22C0..2311
      2313..2319 231C..2328 232B..23E8 23ED..23EF 23F1..23F2 23F4..245F 24EA 254C..254F
      2574..257F 2590..2591 2596..259F 25A2 25AA..25B1 25B4..25B5 25B8..25BB 25BE..25BF
      25C2..25C5 25C9..25CA 25CC..25CD 25D2..25E1 25E6..25EE 25F0..25FC 25FF..2604 2607..2608
      260A..260D 2610..2613 2616..261B 261D 261F..263F 2641 2643..2647 2654..265F 2662 2666 266B
      266E 2670..267E 2680..2692 2694..269D 26A0 26A2..26A9 26AC..26BC 26C0..26C3 26E2
      26E4..26E7 2700..2704 2706..2709 270C..2727 2729..273C 273E..274B 274D 274F..2752 2756
      2758..2775 2780..2794 2798..27AF 27B1..27BE 27C0..27E5 27EE..2984 2987..2B1A 2B1D..2B4F
      2B51..2B54 2B5A..2E7F 2E9A 2EF4..2EFF 2FD6..2FEF 2FFC..2FFF 303F..3040 3097..3098
      3100..3104 3130 318F 31E4..31EF 321F 4DC0..4DFF A48D..A48F A4C7..A95F A97D..ABFF
      D7A4..DFFF FB00..FDFF FE1A..FE2F FE53 FE67 FE6C..FF00 FFBF..FFC1 FFC8..FFC9 FFD0..FFD1
      FFD8..FFD9 FFDD..FFDF FFE7 FFEF..FFFC FFFE..16FDF 16FE5..16FEF 16FF2..16FFF 187F8..187FF
      18CD6..18CFF 18D09..1AFEF 1AFF4 1AFFC 1AFFF 1B123..1B14F 1B153..1B163 1B168..1B16F
      1B2FC..1F003 1F005..1F0CE 1F0D0..1F0FF 1F10B..1F10F 1F12E..1F12F 1F16A..1F16F 1F1AD..1F1FF
      1F203..1F20F 1F23C..1F23F 1F249..1F24F 1F252..1F25F 1F266..1F2FF 1F321..1F32C 1F336 1F37D
      1F394..1F39F 1F3CB..1F3CE 1F3D4..1F3DF 1F3F1..1F3F3 1F3F5..1F3F7 1F43F 1F441 1F4FD..1F4FE
      1F53E..1F54A 1F54F 1F568..1F579 1F57B..1F594 1F597..1F5A3 1F5A5..1F5FA 1F650..1F67F
      1F6C6..1F6CB 1F6CD..1F6CF 1F6D3..1F6D4 1F6D8..1F6DC 1F6E0..1F6EA 1F6ED..1F6F3 1F6FD..1F7DF
      1F7EC..1F7EF 1F7F1..1F90B 1F93B 1F946 1FA00..1FA6F 1FA75..1FA77 1FA7D..1FA7F 1FA87..1FA8F
      1FAAD..1FAAF 1FABB..1FABF 1FAC6..1FACF 1FADA..1FADF 1FAE8..1FAEF 1FAF7..1FFFF 2FFFE..2FFFF
      3FFFE..E00FF E01F0..EFFFF FFFFE..FFFFF 10FFFE..10FFFF",
    plainValue "Wide" ["W"]
      "1100..115F 231A..231B 2329..232A 23E9..23EC 23F0 23F3 25FD..25FE 2614..2615 2648..2653
      267F 2693 26A1 26AA..26AB 26BD..26BE 26C4..26C5 26CE 26D4 26EA 26F2..26F3 26F5 26FA 26FD
      2705 270A..270B 2728 274C 274E 2753..2755 2757 2795..2797 27B0 27BF 2B1B..2B1C 2B50 2B55
      2E80..2E99 2E9B..2EF3 2F00..2FD5 2FF0..2FFB 3001..303E 3041..3096 3099..30FF 3105..312F
      3131..318E 3190..31E3 31F0..321E 3220..3247 3250..4DBF 4E00..A48C A490..A4C6 A960..A97C
      AC00..D7A3 F900..FAFF FE10..FE19 FE30..FE52 FE54..FE66 FE68..FE6B 16FE0..16FE4
      16FF0..16FF1 17000..187F7 18800..18CD5 18D00..18D08 1AFF0..1AFF3 1AFF5..1AFFB 1AFFD..1AFFE
      1B000..1B122 1B150..1B152 1B164..1B167 1B170..1B2FB 1F004 1F0CF 1F18E 1F191..1F19A
      1F200..1F202 1F210..1F23B 1F240..1F248 1F250..1F251 1F260..1F265 1F300..1F320 1F32D..1F335
      1F337..1F37C 1F37E..1F393 1F3A0..1F3CA 1F3CF..1F3D3 1F3E0..1F3F0 1F3F4 1F3F8..1F43E 1F440
      1F442..1F4FC 1F4FF..1F53D 1F54B..1F54E 1F550..1F567 1F57A 1F595..1F596 1F5A4 1F5FB..1F64F
      1F680..1F6C5 1F6CC 1F6D0..1F6D2 1F6D5..1F6D7 1F6DD..1F6DF 1F6EB..1F6EC 1F6F4..1F6FC
      1F7E0..1F7EB 1F7F0 1F90C..1F93A 1F93C..1F945 1F947..1F9FF 1FA70..1FA74 1FA78..1FA7C
      1FA80..1FA86 1FA90..1FAAC 1FAB0..1FABA 1FAC0..1FAC5 1FAD0..1FAD9 1FAE0..1FAE7 1FAF0..1FAF6
      20000..2FFFD 30000..3FFFD"
  ]

def eastAsianWidth : EnumeratedEntry :=
  ⟨"East_Asian_Width", ["ea"], eastAsianWidthValues⟩

end UnicodeClasses.Ucd
