import UnicodeClasses.Ucd.TableText

/-!
# Block values

The blocks of the code space, version 14.0.0 of the character database.
-/
namespace UnicodeClasses.Ucd

def blockValues : List ValueEntry :=
  [
    plainValue "Adlam" [] "1E900..1E95F",
    plainValue "Aegean_Numbers" [] "10100..1013F",
    plainValue "Ahom" [] "11700..1174F",
    plainValue "Alchemical_Symbols" ["Alchemical"] "1F700..1F77F",
    plainValue "Alphabetic_Presentation_Forms" ["Alphabetic_PF"] "FB00..FB4F",
    plainValue "Anatolian_Hieroglyphs" [] "14400..1467F",
    plainValue "Ancient_Greek_Musical_Notation" ["Ancient_Greek_Music"] "1D200..1D24F",
    plainValue "Ancient_Greek_Numbers" [] "10140..1018F",
    plainValue "Ancient_Symbols" [] "10190..101CF",
    plainValue "Arabic" [] "0600..06FF",
    plainValue "Arabic_Extended_A" ["Arabic_Ext_A"] "08A0..08FF",
    plainValue "Arabic_Extended_B" ["Arabic_Ext_B"] "0870..089F",
    plainValue "Arabic_Mathematical_Alphabetic_Symbols" ["Arabic_Math"] "1EE00..1EEFF",
    plainValue "Arabic_Presentation_Forms_A" ["Arabic_PF_A"] "FB50..FDFF",
    plainValue "Arabic_Presentation_Forms_B" ["Arabic_PF_B"] "FE70..FEFF",
    plainValue "Arabic_Supplement" ["Arabic_Sup"] "0750..077F",
    plainValue "Armenian" [] "0530..058F",
    plainValue "Arrows" [] "2190..21FF",
    plainValue "Avestan" [] "10B00..10B3F",
    plainValue "Balinese" [] "1B00..1B7F",
    plainValue "Bamum" [] "A6A0..A6FF",
    plainValue "Bamum_Supplement" ["Bamum_Sup"] "16800..16A3F",
    plainValue "Basic_Latin" ["ASCII"] "0000..007F",
    plainValue "Bassa_Vah" [] "16AD0..16AFF",
    plainValue "Batak" [] "1BC0..1BFF",
    plainValue "Bengali" [] "0980..09FF",
    plainValue "Bhaiksuki" [] "11C00..11C6F",
    plainValue "Block_Elements" [] "2580..259F",
    plainValue "Bopomofo" [] "3100..312F",
    plainValue "Bopomofo_Extended" ["Bopomofo_Ext"] "31A0..31BF",
    plainValue "Box_Drawing" [] "2500..257F",
    plainValue "Brahmi" [] "11000..1107F",
    plainValue "Braille_Patterns" ["Braille"] "2800..28FF",
    plainValue "Buginese" [] "1A00..1A1F",
    plainValue "Buhid" [] "1740..175F",
    plainValue "Byzantine_Musical_Symbols" ["Byzantine_Music"] "1D000..1D0FF",
    plainValue "CJK_Compatibility" ["CJK_Compat"] "3300..33FF",
    plainValue "CJK_Compatibility_Forms" ["CJK_Compat_Forms"] "FE30..FE4F",
    plainValue "CJK_Compatibility_Ideographs" ["CJK_Compat_Ideographs"] "F900..FAFF",
    plainValue "CJK_Compatibility_Ideographs_Supplement" ["CJK_Compat_Ideographs_Sup"]
      "2F800..2FA1F",
    plainValue "CJK_Radicals_Supplement" ["CJK_Radicals_Sup"] "2E80..2EFF",
    plainValue "CJK_Strokes" [] "31C0..31EF",
    plainValue "CJK_Symbols_And_Punctuation" ["CJK_Symbols"] "3000..303F",
    plainValue "CJK_Unified_Ideographs" ["CJK"] "4E00..9FFF",
    plainValue "CJK_Unified_Ideographs_Extension_A" ["CJK_Ext_A"] "3400..4DBF",
    plainValue "CJK_Unified_Ideographs_Extension_B" ["CJK_Ext_B"] "20000..2A6DF",
    plainValue "CJK_Unified_Ideographs_Extension_C" ["CJK_Ext_C"] "2A700..2B73F",
    plainValue "CJK_Unified_Ideographs_Extension_D" ["CJK_Ext_D"] "2B740..2B81F",
    plainValue "CJK_Unified_Ideographs_Extension_E" ["CJK_Ext_E"] "2B820..2CEAF",
    plainValue "CJK_Unified_Ideographs_Extension_F" ["CJK_Ext_F"] "2CEB0..2EBEF",
    plainValue "CJK_Unified_Ideographs_Extension_G" ["CJK_Ext_G"] "30000..3134F",
    plainValue "Carian" [] "102A0..102DF",
    plainValue "Caucasian_Albanian" [] "10530..1056F",
    plainValue "Chakma" [] "11100..1114F",
    plainValue "Cham" [] "AA00..AA5F",
    plainValue "Cherokee" [] "13A0..13FF",
    plainValue "Cherokee_Supplement" ["Cherokee_Sup"] "AB70..ABBF",
    plainValue "Chess_Symbols" [] "1FA00..1FA6F",
    plainValue "Chorasmian" [] "10FB0..10FDF",
    plainValue "Combining_Diacritical_Marks" ["Diacriticals"] "0300..036F",
    plainValue "Combining_Diacritical_Marks_Extended" ["Diacriticals_Ext"] "1AB0..1AFF",
    plainValue "Combining_Diacritical_Marks_For_Symbols"
      ["Diacriticals_For_Symbols", "Combining_Marks_For_Symbols"]
      "20D0..20FF",
    plainValue "Combining_Diacritical_Marks_Supplement" ["Diacriticals_Sup"] "1DC0..1DFF",
    plainValue "Combining_Half_Marks" ["Half_Marks"] "FE20..FE2F",
    plainValue "Common_Indic_Number_Forms" ["Indic_Number_Forms"] "A830..A83F",
    plainValue "Control_Pictures" [] "2400..243F",
    plainValue "Coptic" [] "2C80..2CFF",
    plainValue "Coptic_Epact_Numbers" [] "102E0..102FF",
    plainValue "Counting_Rod_Numerals" ["Counting_Rod"] "1D360..1D37F",
    plainValue "Cuneiform" [] "12000..123FF",
    plainValue "Cuneiform_Numbers_And_Punctuation" ["Cuneiform_Numbers"] "12400..1247F",
    plainValue "Currency_Symbols" [] "20A0..20CF",
    plainValue "Cypriot_Syllabary" [] "10800..1083F",
    plainValue "Cypro_Minoan" [] "12F90..12FFF",
    plainValue "Cyrillic" [] "0400..04FF",
    plainValue "Cyrillic_Extended_A" ["Cyrillic_Ext_A"] "2DE0..2DFF",
    plainValue "Cyrillic_Extended_B" ["Cyrillic_Ext_B"] "A640..A69F",
    plainValue "Cyrillic_Extended_C" ["Cyrillic_Ext_C"] "1C80..1C8F",
    plainValue "Cyrillic_Supplement" ["Cyrillic_Sup", "Cyrillic_Supplementary"] "0500..052F",
    plainValue "Deseret" [] "10400..1044F",
    plainValue "Devanagari" [] "0900..097F",
    plainValue "Devanagari_Extended" ["Devanagari_Ext"] "A8E0..A8FF",
    plainValue "Dingbats" [] "2700..27BF",
    plainValue "Dives_Akuru" [] "11900..1195F",
    plainValue "Dogra" [] "11800..1184F",
    plainValue "Domino_Tiles" ["Domino"] "1F030..1F09F",
    plainValue "Duployan" [] "1BC00..1BC9F",
    plainValue "Early_Dynastic_Cuneiform" [] "12480..1254F",
    plainValue "Egyptian_Hieroglyph_Format_Controls" [] "13430..1343F",
    plainValue "Egyptian_Hieroglyphs" [] "13000..1342F",
    plainValue "Elbasan" [] "10500..1052F",
    plainValue "Elymaic" [] "10FE0..10FFF",
    plainValue "Emoticons" [] "1F600..1F64F",
    plainValue "Enclosed_Alphanumeric_Supplement" ["Enclosed_Alphanum_Sup"] "1F100..1F1FF",
    plainValue "Enclosed_Alphanumerics" ["Enclosed_Alphanum"] "2460..24FF",
    plainValue "Enclosed_CJK_Letters_And_Months" ["Enclosed_CJK"] "3200..32FF",
    plainValue "Enclosed_Ideographic_Supplement" ["Enclosed_Ideographic_Sup"] "1F200..1F2FF",
    plainValue "Ethiopic" [] "1200..137F",
    plainValue "Ethiopic_Extended" ["Ethiopic_Ext"] "2D80..2DDF",
    plainValue "Ethiopic_Extended_A" ["Ethiopic_Ext_A"] "AB00..AB2F",
    plainValue "Ethiopic_Extended_B" ["Ethiopic_Ext_B"] "1E7E0..1E7FF",
    plainValue "Ethiopic_Supplement" ["Ethiopic_Sup"] "1380..139F",
    plainValue "General_Punctuation" ["Punctuation"] "2000..206F",
    plainValue "Geometric_Shapes" [] "25A0..25FF",
    plainValue "Geometric_Shapes_Extended" ["Geometric_Shapes_Ext"] "1F780..1F7FF",
    plainValue "Georgian" [] "10A0..10FF",
    plainValue "Georgian_Extended" ["Georgian_Ext"] "1C90..1CBF",
    plainValue "Georgian_Supplement" ["Georgian_Sup"] "2D00..2D2F",
    plainValue "Glagolitic" [] "2C00..2C5F",
    plainValue "Glagolitic_Supplement" ["Glagolitic_Sup"] "1E000..1E02F",
    plainValue "Gothic" [] "10330..1034F",
    plainValue "Grantha" [] "11300..1137F",
    plainValue "Greek_And_Coptic" ["Greek"] "0370..03FF",
    plainValue "Greek_Extended" ["Greek_Ext"] "1F00..1FFF",
    plainValue "Gujarati" [] "0A80..0AFF",
    plainValue "Gunjala_Gondi" [] "11D60..11DAF",
    plainValue "Gurmukhi" [] "0A00..0A7F",
    plainValue "Halfwidth_And_Fullwidth_Forms" ["Half_And_Full_Forms"] "FF00..FFEF",
    plainValue "Hangul_Compatibility_Jamo" ["Compat_Jamo"] "3130..318F",
    plainValue "Hangul_Jamo" ["Jamo"] "1100..11FF",
    plainValue "Hangul_Jamo_Extended_A" ["Jamo_Ext_A"] "A960..A97F",
    plainValue "Hangul_Jamo_Extended_B" ["Jamo_Ext_B"] "D7B0..D7FF",
    plainValue "Hangul_Syllables" ["Hangul"] "AC00..D7AF",
    plainValue "Hanifi_Rohingya" [] "10D00..10D3F",
    plainValue "Hanunoo" [] "1720..173F",
    plainValue "Hatran" [] "108E0..108FF",
    plainValue "Hebrew" [] "0590..05FF",
    plainValue "High_Private_Use_Surrogates" ["High_PU_Surrogates"] "DB80..DBFF",
    plainValue "High_Surrogates" [] "D800..DB7F",
    plainValue "Hiragana" [] "3040..309F",
    plainValue "IPA_Extensions" ["IPA_Ext"] "0250..02AF",
    plainValue "Ideographic_Description_Characters" ["IDC"] "2FF0..2FFF",
    plainValue "Ideographic_Symbols_And_Punctuation" ["Ideographic_Symbols"] "16FE0..16FFF",
    plainValue "Imperial_Aramaic" [] "10840..1085F",
    plainValue "Indic_Siyaq_Numbers" [] "1EC70..1ECBF",
    plainValue "Inscriptional_Pahlavi" [] "10B60..10B7F",
    plainValue "Inscriptional_Parthian" [] "10B40..10B5F",
    plainValue "Javanese" [] "A980..A9DF",
    plainValue "Kaithi" [] "11080..110CF",
    plainValue "Kana_Extended_A" ["Kana_Ext_A"] "1B100..1B12F",
    plainValue "Kana_Extended_B" ["Kana_Ext_B"] "1AFF0..1AFFF",
    plainValue "Kana_Supplement" ["Kana_Sup"] "1B000..1B0FF",
    plainValue "Kanbun" [] "3190..319F",
    plainValue "Kangxi_Radicals" ["Kangxi"] "2F00..2FDF",
    plainValue "Kannada" [] "0C80..0CFF",
    plainValue "Katakana" [] "30A0..30FF",
    plainValue "Katakana_Phonetic_Extensions" ["Katakana_Ext"] "31F0..31FF",
    plainValue "Kayah_Li" [] "A900..A92F",
    plainValue "Kharoshthi" [] "10A00..10A5F",
    plainValue "Khitan_Small_Script" [] "18B00..18CFF",
    plainValue "Khmer" [] "1780..17FF",
    plainValue "Khmer_Symbols" [] "19E0..19FF",
    plainValue "Khojki" [] "11200..1124F",
    plainValue "Khudawadi" [] "112B0..112FF",
    plainValue "Lao" [] "0E80..0EFF",
    plainValue "Latin_1_Supplement" ["Latin_1_Sup", "Latin_1"] "0080..00FF",
    plainValue "Latin_Extended_A" ["Latin_Ext_A"] "0100..017F",
    plainValue "Latin_Extended_Additional" ["Latin_Ext_Additional"] "1E00..1EFF",
    plainValue "Latin_Extended_B" ["Latin_Ext_B"] "0180..024F",
    plainValue "Latin_Extended_C" ["Latin_Ext_C"] "2C60..2C7F",
    plainValue "Latin_Extended_D" ["Latin_Ext_D"] "A720..A7FF",
    plainValue "Latin_Extended_E" ["Latin_Ext_E"] "AB30..AB6F",
    plainValue "Latin_Extended_F" ["Latin_Ext_F"] "10780..107BF",
    plainValue "Latin_Extended_G" ["Latin_Ext_G"] "1DF00..1DFFF",
    plainValue "Lepcha" [] "1C00..1C4F",
    plainValue "Letterlike_Symbols" [] "2100..214F",
    plainValue "Limbu" [] "1900..194F",
    plainValue "Linear_A" [] "10600..1077F",
    plainValue "Linear_B_Ideograms" [] "10080..100FF",
    plainValue "Linear_B_Syllabary" [] "10000..1007F",
    plainValue "Lisu" [] "A4D0..A4FF",
    plainValue "Lisu_Supplement" ["Lisu_Sup"] "11FB0..11FBF",
    plainValue "Low_Surrogates" [] "DC00..DFFF",
    plainValue "Lycian" [] "10280..1029F",
    plainValue "Lydian" [] "10920..1093F",
    plainValue "Mahajani" [] "11150..1117F",
    plainValue "Mahjong_Tiles" ["Mahjong"] "1F000..1F02F",
    plainValue "Makasar" [] "11EE0..11EFF",
    plainValue "Malayalam" [] "0D00..0D7F",
    plainValue "Mandaic" [] "0840..085F",
    plainValue "Manichaean" [] "10AC0..10AFF",
    plainValue "Marchen" [] "11C70..11CBF",
    plainValue "Masaram_Gondi" [] "11D00..11D5F",
    plainValue "Mathematical_Alphanumeric_Symbols" ["Math_Alphanum"] "1D400..1D7FF",
    plainValue "Mathematical_Operators" ["Math_Operators"] "2200..22FF",
    plainValue "Mayan_Numerals" [] "1D2E0..1D2FF",
    plainValue "Medefaidrin" [] "16E40..16E9F",
    plainValue "Meetei_Mayek" [] "ABC0..ABFF",
    plainValue "Meetei_Mayek_Extensions" ["Meetei_Mayek_Ext"] "AAE0..AAFF",
    plainValue "Mende_Kikakui" [] "1E800..1E8DF",
    plainValue "Meroitic_Cursive" [] "109A0..109FF",
    plainValue "Meroitic_Hieroglyphs" [] "10980..1099F",
    plainValue "Miao" [] "16F00..16F9F",
    plainValue "Miscellaneous_Mathematical_Symbols_A" ["Misc_Math_Symbols_A"] "27C0..27EF",
    plainValue "Miscellaneous_Mathematical_Symbols_B" ["Misc_Math_Symbols_B"] "2980..29FF",
    plainValue "Miscellaneous_Symbols" ["Misc_Symbols"] "2600..26FF",
    plainValue "Miscellaneous_Symbols_And_Arrows" ["Misc_Arrows"] "2B00..2BFF",
    plainValue "Miscellaneous_Symbols_And_Pictographs" ["Misc_Pictographs"] "1F300..1F5FF",
    plainValue "Miscellaneous_Technical" ["Misc_Technical"] "2300..23FF",
    plainValue "Modi" [] "11600..1165F",
    plainValue "Modifier_Tone_Letters" [] "A700..A71F",
    plainValue "Mongolian" [] "1800..18AF",
    plainValue "Mongolian_Supplement" ["Mongolian_Sup"] "11660..1167F",
    plainValue "Mro" [] "16A40..16A6F",
    plainValue "Multani" [] "11280..112AF",
    plainValue "Musical_Symbols" ["Music"] "1D100..1D1FF",
    plainValue "Myanmar" [] "1000..109F",
    plainValue "Myanmar_Extended_A" ["Myanmar_Ext_A"] "AA60..AA7F",
    plainValue "Myanmar_Extended_B" ["Myanmar_Ext_B"] "A9E0..A9FF",
    plainValue "NKo" [] "07C0..07FF",
    plainValue "Nabataean" [] "10880..108AF",
    plainValue "Nandinagari" [] "119A0..119FF",
    plainValue "New_Tai_Lue" [] "1980..19DF",
    plainValue "Newa" [] "11400..1147F",
    plainValue "No_Block" ["NB"]
      "2FE0..2FEF 10200..1027F 103E0..103FF 105C0..105FF 107C0..107FF 108B0..108DF 10940..1097F
      10AA0..10ABF 10BB0..10BFF 10C50..10C7F 10D40..10E5F 10EC0..10EFF 11250..1127F 11380..113FF
      114E0..1157F 116D0..116FF 11750..117FF 11850..1189F 11960..1199F 11B00..11BFF 11CC0..11CFF
      11DB0..11EDF 11F00..11FAF 12550..12F8F 13440..143FF 14680..167FF 16B90..16E3F 16EA0..16EFF
      16FA0..16FDF 18D80..1AFEF 1B300..1BBFF 1BCB0..1CEFF 1CFD0..1CFFF 1D250..1D2DF 1D380..1D3FF
      1DAB0..1DEFF 1E030..1E0FF 1E150..1E28F 1E300..1E7DF 1E8E0..1E8FF 1E960..1EC6F 1ECC0..1ECFF
      1ED50..1EDFF 1EF00..1EFFF 1FC00..1FFFF 2A6E0..2A6FF 2EBF0..2F7FF 2FA20..2FFFF 31350..DFFFF
      E0080..E00FF E01F0..EFFFF",
    plainValue "Number_Forms" [] "2150..218F",
    plainValue "Nushu" [] "1B170..1B2FF",
    plainValue "Nyiakeng_Puachue_Hmong" [] "1E100..1E14F",
    plainValue "Ogham" [] "1680..169F",
    plainValue "Ol_Chiki" [] "1C50..1C7F",
    plainValue "Old_Hungarian" [] "10C80..10CFF",
    plainValue "Old_Italic" [] "10300..1032F",
    plainValue "Old_North_Arabian" [] "10A80..10A9F",
    plainValue "Old_Permic" [] "10350..1037F",
    plainValue "Old_Persian" [] "103A0..103DF",
    plainValue "Old_Sogdian" [] "10F00..10F2F",
    plainValue "Old_South_Arabian" [] "10A60..10A7F",
    plainValue "Old_Turkic" [] "10C00..10C4F",
    plainValue "Old_Uyghur" [] "10F70..10FAF",
    plainValue "Optical_Character_Recognition" ["OCR"] "2440..245F",
    plainValue "Oriya" [] "0B00..0B7F",
    plainValue "Ornamental_Dingbats" [] "1F650..1F67F",
    plainValue "Osage" [] "104B0..104FF",
    plainValue "Osmanya" [] "10480..104AF",
    plainValue "Ottoman_Siyaq_Numbers" [] "1ED00..1ED4F",
    plainValue "Pahawh_Hmong" [] "16B00..16B8F",
    plainValue "Palmyrene" [] "10860..1087F",
    plainValue "Pau_Cin_Hau" [] "11AC0..11AFF",
    plainValue "Phags_Pa" [] "A840..A87F",
    plainValue "Phaistos_Disc" ["Phaistos"] "101D0..101FF",
    plainValue "Phoenician" [] "10900..1091F",
    plainValue "Phonetic_Extensions" ["Phonetic_Ext"] "1D00..1D7F",
    plainValue "Phonetic_Extensions_Supplement" ["Phonetic_Ext_Sup"] "1D80..1DBF",
    plainValue "Playing_Cards" [] "1F0A0..1F0FF",
    plainValue "Private_Use_Area" ["PUA", "Private_Use"] "E000..F8FF",
    plainValue "Psalter_Pahlavi" [] "10B80..10BAF",
    plainValue "Rejang" [] "A930..A95F",
    plainValue "Rumi_Numeral_Symbols" ["Rumi"] "10E60..10E7F",
    plainValue "Runic" [] "16A0..16FF",
    plainValue "Samaritan" [] "0800..083F",
    plainValue "Saurashtra" [] "A880..A8DF",
    plainValue "Sharada" [] "11180..111DF",
    plainValue "Shavian" [] "10450..1047F",
    plainValue "Shorthand_Format_Controls" [] "1BCA0..1BCAF",
    plainValue "Siddham" [] "11580..115FF",
    plainValue "Sinhala" [] "0D80..0DFF",
    plainValue "Sinhala_Archaic_Numbers" [] "111E0..111FF",
    plainValue "Small_Form_Variants" ["Small_Forms"] "FE50..FE6F",
    plainValue "Small_Kana_Extension" ["Small_Kana_Ext"] "1B130..1B16F",
    plainValue "Sogdian" [] "10F30..10F6F",
    plainValue "Sora_Sompeng" [] "110D0..110FF",
    plainValue "Soyombo" [] "11A50..11AAF",
    plainValue "Spacing_Modifier_Letters" ["Modifier_Letters"] "02B0..02FF",
    plainValue "Specials" [] "FFF0..FFFF",
    plainValue "Sundanese" [] "1B80..1BBF",
    plainValue "Sundanese_Supplement" ["Sundanese_Sup"] "1CC0..1CCF",
    plainValue "Superscripts_And_Subscripts" ["Super_And_Sub"] "2070..209F",
    plainValue "Supplemental_Arrows_A" ["Sup_Arrows_A"] "27F0..27FF",
    plainValue "Supplemental_Arrows_B" ["Sup_Arrows_B"] "2900..297F",
    plainValue "Supplemental_Arrows_C" ["Sup_Arrows_C"] "1F800..1F8FF",
    plainValue "Supplemental_Mathematical_Operators" ["Sup_Math_Operators"] "2A00..2AFF",
    plainValue "Supplemental_Punctuation" ["Sup_Punctuation"] "2E00..2E7F",
    plainValue "Supplemental_Symbols_And_Pictographs" ["Sup_Symbols_And_Pictographs"]
      "1F900..1F9FF",
    plainValue "Supplementary_Private_Use_Area_A" ["Sup_PUA_A"] "F0000..FFFFF",
    plainValue "Supplementary_Private_Use_Area_B" ["Sup_PUA_B"] "100000..10FFFF",
    plainValue "Sutton_SignWriting" [] "1D800..1DAAF",
    plainValue "Syloti_Nagri" [] "A800..A82F",
    plainValue "Symbols_And_Pictographs_Extended_A" ["Symbols_And_Pictographs_Ext_A"]
      "1FA70..1FAFF",
    plainValue "Symbols_For_Legacy_Computing" [] "1FB00..1FBFF",
    plainValue "Syriac" [] "0700..074F",
    plainValue "Syriac_Supplement" ["Syriac_Sup"] "0860..086F",
    plainValue "Tagalog" [] "1700..171F",
    plainValue "Tagbanwa" [] "1760..177F",
    plainValue "Tags" [] "E0000..E007F",
    plainValue "Tai_Le" [] "1950..197F",
    plainValue "Tai_Tham" [] "1A20..1AAF",
    plainValue "Tai_Viet" [] "AA80..AADF",
    plainValue "Tai_Xuan_Jing_Symbols" ["Tai_Xuan_Jing"] "1D300..1D35F",
    plainValue "Takri" [] "11680..116CF",
    plainValue "Tamil" [] "0B80..0BFF",
    plainValue "Tamil_Supplement" ["Tamil_Sup"] "11FC0..11FFF",
    plainValue "Tangsa" [] "16A70..16ACF",
    plainValue "Tangut" [] "17000..187FF",
    plainValue "Tangut_Components" [] "18800..18AFF",
    plainValue "Tangut_Supplement" ["Tangut_Sup"] "18D00..18D7F",
    plainValue "Telugu" [] "0C00..0C7F",
    plainValue "Thaana" [] "0780..07BF",
    plainValue "Thai" [] "0E00..0E7F",
    plainValue "Tibetan" [] "0F00..0FFF",
    plainValue "Tifinagh" [] "2D30..2D7F",
    plainValue "Tirhuta" [] "11480..114DF",
    plainValue "Toto" [] "1E290..1E2BF",
    plainValue "Transport_And_Map_Symbols" ["Transport_And_Map"] "1F680..1F6FF",
    plainValue "Ugaritic" [] "10380..1039F",
    plainValue "Unified_Canadian_Aboriginal_Syllabics" ["UCAS", "Canadian_Syllabics"] "1400..167F",
    plainValue "Unified_Canadian_Aboriginal_Syllabics_Extended" ["UCAS_Ext"] "18B0..18FF",
    plainValue "Unified_Canadian_Aboriginal_Syllabics_Extended_A" ["UCAS_Ext_A"] "11AB0..11ABF",
    plainValue "Vai" [] "A500..A63F",
    plainValue "Variation_Selectors" ["VS"] "FE00..FE0F",
    plainValue "Variation_Selectors_Supplement" ["VS_Sup"] "E0100..E01EF",
    plainValue "Vedic_Extensions" ["Vedic_Ext"] "1CD0..1CFF",
    plainValue "Vertical_Forms" [] "FE10..FE1F",
    plainValue "Vithkuqi" [] "10570..105BF",
    plainValue "Wancho" [] "1E2C0..1E2FF",
    plainValue "Warang_Citi" [] "118A0..118FF",
    plainValue "Yezidi" [] "10E80..10EBF",
    plainValue "Yi_Radicals" [] "A490..A4CF",
    plainValue "Yi_Syllables" [] "A000..A48F",
    plainValue "Yijing_Hexagram_Symbols" ["Yijing"] "4DC0..4DFF",
    plainValue "Zanabazar_Square" [] "11A00..11A4F",
    plainValue "Znamenny_Musical_Notation" ["Znamenny_Music"] "1CF00..1CFCF"
  ]

def block : EnumeratedEntry :=
  ⟨"Block", ["blk"], blockValues⟩

end UnicodeClasses.Ucd
