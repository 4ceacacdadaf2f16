import AtomicCss.Charset.CodePage

/-! # Code pages

The code pages by their names. A table is written in rows of neighbouring bytes, in which U+FFFE
stands for a byte that has no character. -/

namespace AtomicCss.Charset.CodePage

/-- The bytes of ASCII. -/
def asciiRows : List String :=
  ["\x00\x01\x02\x03\x04\x05\x06\x07\x08\x09\x0a\x0b\x0c\x0d\x0e\x0f",
   "\x10\x11\x12\x13\x14\x15\x16\x17\x18\x19\x1a\x1b\x1c\x1d\x1e\x1f", " !\x22#$%&'()*+,-./",
   "0123456789:;<=>?", "@ABCDEFGHIJKLMNO", "PQRSTUVWXYZ[\x5c]^_", "\x60abcdefghijklmno",
   "pqrstuvwxyz\x7b|\x7d~\x7f"]

/-- The Greek code page. -/
def greek : CodePage :=
  ⟨"iso8859_7",
    ["csisolatingreek", "ecma_118", "elot_928", "greek", "greek8", "iso_8859_7",
      "iso_8859_7_1987", "iso_ir_126"], asciiRows,
    ["\x80\x81\x82\x83\x84\x85\x86\x87\x88\x89\x8a\x8b\x8c\x8d\x8e\x8f",
     "\x90\x91\x92\x93\x94\x95\x96\x97\x98\x99\x9a\x9b\x9c\x9d\x9e\x9f",
     "\xa0‘’£€₯¦§¨©ͺ«¬\u00AD\uFFFE―", "°±²³΄΅Ά·ΈΉΊ»Ό½ΎΏ", "ΐΑΒΓΔΕΖΗΘΙΚΛΜΝΞΟ",
     "ΠΡ\uFFFEΣΤΥΦΧΨΩΪΫάέήί", "ΰαβγδεζηθικλμνξο", "πρςστυφχψωϊϋόύώ\uFFFE"]⟩

/-- The code pages in which each character is one byte. -/
def singleByte : List CodePage :=
  [⟨"cp037",
      ["037", "csibm037", "ebcdic_cp_ca", "ebcdic_cp_nl", "ebcdic_cp_us", "ebcdic_cp_wt",
        "ibm037", "ibm039"],
      ["\x00\x01\x02\x03\x9c\x09\x86\x7f\x97\x8d\x8e\x0b\x0c\x0d\x0e\x0f",
       "\x10\x11\x12\x13\x9d\x85\x08\x87\x18\x19\x92\x8f\x1c\x1d\x1e\x1f",
       "\x80\x81\x82\x83\x84\x0a\x17\x1b\x88\x89\x8a\x8b\x8c\x05\x06\x07",
       "\x90\x91\x16\x93\x94\x95\x96\x04\x98\x99\x9a\x9b\x14\x15\x9e\x1a", " \xa0âäàáãåçñ¢.<(+|",
       "&éêëèíîïìß!$*);¬", "-/ÂÄÀÁÃÅÇÑ¦,%_>?", "øÉÊËÈÍÎÏÌ\x60:#@'=\x22"],
      ["Øabcdefghi«»ðýþ±", "°jklmnopqrªºæ¸Æ¤", "µ~stuvwxyz¡¿ÐÝÞ®", "^£¥·©§¶¼½¾[]¯¨´×",
       "\x7bABCDEFGHI\u00ADôöòóõ", "\x7dJKLMNOPQR¹ûüùúÿ", "\x5c÷STUVWXYZ²ÔÖÒÓÕ",
       "0123456789³ÛÜÙÚ\x9f"]⟩,
    ⟨"cp1006", [], asciiRows,
      ["\x80\x81\x82\x83\x84\x85\x86\x87\x88\x89\x8a\x8b\x8c\x8d\x8e\x8f",
       "\x90\x91\x92\x93\x94\x95\x96\x97\x98\x99\x9a\x9b\x9c\x9d\x9e\x9f",
       "\xa0۰۱۲۳۴۵۶۷۸۹،\u061B\u00AD\u061F\uFE81",
       "\uFE8D\uFE8E\uFE8E\uFE8F\uFE91\uFB56\uFB58\uFE93",
       "\uFE95\uFE97\uFB66\uFB68\uFE99\uFE9B\uFE9D\uFE9F",
       "\uFB7A\uFB7C\uFEA1\uFEA3\uFEA5\uFEA7\uFEA9\uFB84",
       "\uFEAB\uFEAD\uFB8C\uFEAF\uFB8A\uFEB1\uFEB3\uFEB5",
       "\uFEB7\uFEB9\uFEBB\uFEBD\uFEBF\uFEC1\uFEC5\uFEC9",
       "\uFECA\uFECB\uFECC\uFECD\uFECE\uFECF\uFED0\uFED1",
       "\uFED3\uFED5\uFED7\uFED9\uFEDB\uFB92\uFB94\uFEDD",
       "\uFEDF\uFEE0\uFEE1\uFEE3\uFB9E\uFEE5\uFEE7\uFE85",
       "\uFEED\uFBA6\uFBA8\uFBA9\uFBAA\uFE80\uFE89\uFE8A",
       "\uFE8B\uFEF1\uFEF2\uFEF3\uFBB0\uFBAE\uFE7C\uFE7D"]⟩,
    ⟨"cp1026", ["1026", "csibm1026", "ibm1026"],
      ["\x00\x01\x02\x03\x9c\x09\x86\x7f\x97\x8d\x8e\x0b\x0c\x0d\x0e\x0f",
       "\x10\x11\x12\x13\x9d\x85\x08\x87\x18\x19\x92\x8f\x1c\x1d\x1e\x1f",
       "\x80\x81\x82\x83\x84\x0a\x17\x1b\x88\x89\x8a\x8b\x8c\x05\x06\x07",
       "\x90\x91\x16\x93\x94\x95\x96\x04\x98\x99\x9a\x9b\x14\x15\x9e\x1a",
       " \xa0âäàáãå\x7bñÇ.<(+!", "&éêëèíîïìßĞİ*);^", "-/ÂÄÀÁÃÅ[Ñş,%_>?", "øÉÊËÈÍÎÏÌı:ÖŞ'=Ü"],
      ["Øabcdefghi«»\x7d\x60¦±", "°jklmnopqrªºæ¸Æ¤", "µöstuvwxyz¡¿]$@®", "¢£¥·©§¶¼½¾¬|¯¨´×",
       "çABCDEFGHI\u00ADô~òóõ", "ğJKLMNOPQR¹û\x5cùúÿ", "ü÷STUVWXYZ²Ô#ÒÓÕ",
       "0123456789³Û\x22ÙÚ\x9f"]⟩,
    ⟨"cp1125", ["1125", "cp866u", "ibm1125", "ruscii"], asciiRows,
      ["АБВГДЕЖЗИЙКЛМНОП", "РСТУФХЦЧШЩЪЫЬЭЮЯ", "абвгдежзийклмноп", "░▒▓│┤╡╢╖╕╣║╗╝╜╛┐",
       "└┴┬├─┼╞╟╚╔╩╦╠═╬╧", "╨╤╥╙╘╒╓╫╪┘┌█▄▌▐▀", "рстуфхцчшщъыьэюя", "ЁёҐґЄєІіЇї·√№¤■\xa0"]⟩,
    ⟨"cp1140", ["1140", "ibm1140"],
      ["\x00\x01\x02\x03\x9c\x09\x86\x7f\x97\x8d\x8e\x0b\x0c\x0d\x0e\x0f",
       "\x10\x11\x12\x13\x9d\x85\x08\x87\x18\x19\x92\x8f\x1c\x1d\x1e\x1f",
       "\x80\x81\x82\x83\x84\x0a\x17\x1b\x88\x89\x8a\x8b\x8c\x05\x06\x07",
       "\x90\x91\x16\x93\x94\x95\x96\x04\x98\x99\x9a\x9b\x14\x15\x9e\x1a", " \xa0âäàáãåçñ¢.<(+|",
       "&éêëèíîïìß!$*);¬", "-/ÂÄÀÁÃÅÇÑ¦,%_>?", "øÉÊËÈÍÎÏÌ\x60:#@'=\x22"],
      ["Øabcdefghi«»ðýþ±", "°jklmnopqrªºæ¸Æ€", "µ~stuvwxyz¡¿ÐÝÞ®", "^£¥·©§¶¼½¾[]¯¨´×",
       "\x7bABCDEFGHI\u00ADôöòóõ", "\x7dJKLMNOPQR¹ûüùúÿ", "\x5c÷STUVWXYZ²ÔÖÒÓÕ",
       "0123456789³ÛÜÙÚ\x9f"]⟩,
    ⟨"cp1250", ["1250", "windows_1250"], asciiRows,
      ["€\uFFFE‚\uFFFE„…†‡\uFFFE‰Š‹ŚŤŽŹ", "\uFFFE‘’“”•–—\uFFFE™š›śťžź",
       "\xa0ˇ˘Ł¤Ą¦§¨©Ş«¬\u00AD®Ż", "°±˛ł´µ¶·¸ąş»Ľ˝ľż", "ŔÁÂĂÄĹĆÇČÉĘËĚÍÎĎ", "ĐŃŇÓÔŐÖ×ŘŮÚŰÜÝŢß",
       "ŕáâăäĺćçčéęëěíîď", "đńňóôőö÷řůúűüýţ˙"]⟩,
    ⟨"cp1251", ["1251", "windows_1251"], asciiRows,
      ["ЂЃ‚ѓ„…†‡€‰Љ‹ЊЌЋЏ", "ђ‘’“”•–—\uFFFE™љ›њќћџ", "\xa0ЎўЈ¤Ґ¦§Ё©Є«¬\u00AD®Ї",
       "°±Ііґµ¶·ё№є»јЅѕї", "АБВГДЕЖЗИЙКЛМНОП", "РСТУФХЦЧШЩЪЫЬЭЮЯ", "абвгдежзийклмноп",
       "рстуфхцчшщъыьэюя"]⟩,
    ⟨"cp1252", ["1252", "windows_1252"], asciiRows,
      ["€\uFFFE‚ƒ„…†‡ˆ‰Š‹Œ\uFFFEŽ\uFFFE", "\uFFFE‘’“”•–—˜™š›œ\uFFFEžŸ",
       "\xa0¡¢£¤¥¦§¨©ª«¬\u00AD®¯", "°±²³´µ¶·¸¹º»¼½¾¿", "ÀÁÂÃÄÅÆÇÈÉÊËÌÍÎÏ", "ÐÑÒÓÔÕÖ×ØÙÚÛÜÝÞß",
       "àáâãäåæçèéêëìíîï", "ðñòóôõö÷øùúûüýþÿ"]⟩,
    ⟨"cp1253", ["1253", "windows_1253"], asciiRows,
      ["€\uFFFE‚ƒ„…†‡\uFFFE‰\uFFFE‹\uFFFE\uFFFE\uFFFE\uFFFE",
       "\uFFFE‘’“”•–—\uFFFE™\uFFFE›\uFFFE\uFFFE\uFFFE\uFFFE", "\xa0΅Ά£¤¥¦§¨©\uFFFE«¬\u00AD®―",
       "°±²³΄µ¶·ΈΉΊ»Ό½ΎΏ", "ΐΑΒΓΔΕΖΗΘΙΚΛΜΝΞΟ", "ΠΡ\uFFFEΣΤΥΦΧΨΩΪΫάέήί", "ΰαβγδεζηθικλμνξο",
       "πρςστυφχψωϊϋόύώ\uFFFE"]⟩,
    ⟨"cp1254", ["1254", "windows_1254"], asciiRows,
      ["€\uFFFE‚ƒ„…†‡ˆ‰Š‹Œ\uFFFE\uFFFE\uFFFE", "\uFFFE‘’“”•–—˜™š›œ\uFFFE\uFFFEŸ",
       "\xa0¡¢£¤¥¦§¨©ª«¬\u00AD®¯", "°±²³´µ¶·¸¹º»¼½¾¿", "ÀÁÂÃÄÅÆÇÈÉÊËÌÍÎÏ", "ĞÑÒÓÔÕÖ×ØÙÚÛÜİŞß",
       "àáâãäåæçèéêëìíîï", "ğñòóôõö÷øùúûüışÿ"]⟩,
    ⟨"cp1255", ["1255", "windows_1255"], asciiRows,
      ["€\uFFFE‚ƒ„…†‡ˆ‰\uFFFE‹\uFFFE\uFFFE\uFFFE\uFFFE",
       "\uFFFE‘’“”•–—˜™\uFFFE›\uFFFE\uFFFE\uFFFE\uFFFE", "\xa0¡¢£₪¥¦§¨©×«¬\u00AD®¯",
       "°±²³´µ¶·¸¹÷»¼½¾¿", "\u05B0\u05B1\u05B2\u05B3\u05B4\u05B5\u05B6\u05B7",
       "\u05B8\u05B9\uFFFE\u05BB\u05BC\u05BD\u05BE\u05BF",
       "\u05C0\u05C1\u05C2\u05C3\u05F0\u05F1\u05F2\u05F3",
       "\u05F4\uFFFE\uFFFE\uFFFE\uFFFE\uFFFE\uFFFE\uFFFE",
       "\u05D0\u05D1\u05D2\u05D3\u05D4\u05D5\u05D6\u05D7",
       "\u05D8\u05D9\u05DA\u05DB\u05DC\u05DD\u05DE\u05DF",
       "\u05E0\u05E1\u05E2\u05E3\u05E4\u05E5\u05E6\u05E7",
       "\u05E8\u05E9\u05EA\uFFFE\uFFFE\u200E\u200F\uFFFE"]⟩,
    ⟨"cp1256", ["1256", "windows_1256"], asciiRows,
      ["€\u067E‚ƒ„…†‡ˆ‰\u0679‹Œ\u0686\u0698\u0688",
       "\u06AF‘’“”•–—\u06A9™\u0691›œ\u200C\u200D\u06BA", "\xa0،¢£¤¥¦§¨©\u06BE«¬\u00AD®¯",
       "°±²³´µ¶·¸¹\u061B»¼½¾\u061F", "\u06C1\u0621\u0622\u0623\u0624\u0625\u0626\u0627",
       "\u0628\u0629\u062A\u062B\u062C\u062D\u062E\u062F",
       "\u0630\u0631\u0632\u0633\u0634\u0635\u0636×",
       "\u0637\u0638\u0639\u063A\u0640\u0641\u0642\u0643",
       "à\u0644â\u0645\u0646\u0647\u0648çèéêë\u0649\u064Aîï",
       "\u064B\u064C\u064D\u064Eô\u064F\u0650÷\u0651ù\u0652ûü\u200E\u200F\u06D2"]⟩,
    ⟨"cp1257", ["1257", "windows_1257"], asciiRows,
      ["€\uFFFE‚\uFFFE„…†‡\uFFFE‰\uFFFE‹\uFFFE¨ˇ¸", "\uFFFE‘’“”•–—\uFFFE™\uFFFE›\uFFFE¯˛\uFFFE",
       "\xa0\uFFFE¢£¤\uFFFE¦§Ø©Ŗ«¬\u00AD®Æ", "°±²³´µ¶·ø¹ŗ»¼½¾æ", "ĄĮĀĆÄÅĘĒČÉŹĖĢĶĪĻ",
       "ŠŃŅÓŌÕÖ×ŲŁŚŪÜŻŽß", "ąįāćäåęēčéźėģķīļ", "šńņóōõö÷ųłśūüżž˙"]⟩,
    ⟨"cp1258", ["1258", "windows_1258"], asciiRows,
      ["€\uFFFE‚ƒ„…†‡ˆ‰\uFFFE‹Œ\uFFFE\uFFFE\uFFFE", "\uFFFE‘’“”•–—˜™\uFFFE›œ\uFFFE\uFFFEŸ",
       "\xa0¡¢£¤¥¦§¨©ª«¬\u00AD®¯", "°±²³´µ¶·¸¹º»¼½¾¿", "ÀÁÂĂÄÅÆÇÈÉÊË\u0300ÍÎÏ",
       "ĐÑ\u0309ÓÔƠÖ×ØÙÚÛÜƯ\u0303ß", "àáâăäåæçèéêë\u0301íîï", "đñ\u0323óôơö÷øùúûüư₫ÿ"]⟩,
    ⟨"cp273", ["273", "csibm273", "ibm273"],
      ["\x00\x01\x02\x03\x9c\x09\x86\x7f\x97\x8d\x8e\x0b\x0c\x0d\x0e\x0f",
       "\x10\x11\x12\x13\x9d\x85\x08\x87\x18\x19\x92\x8f\x1c\x1d\x1e\x1f",
       "\x80\x81\x82\x83\x84\x0a\x17\x1b\x88\x89\x8a\x8b\x8c\x05\x06\x07",
       "\x90\x91\x16\x93\x94\x95\x96\x04\x98\x99\x9a\x9b\x14\x15\x9e\x1a",
       " \xa0â\x7bàáãåçñÄ.<(+!", "&éêëèíîïì~Ü$*);^", "-/Â[ÀÁÃÅÇÑö,%_>?", "øÉÊËÈÍÎÏÌ\x60:#§'=\x22"],
      ["Øabcdefghi«»ðýþ±", "°jklmnopqrªºæ¸Æ¤", "µßstuvwxyz¡¿ÐÝÞ®", "¢£¥·©@¶¼½¾¬|‾¨´×",
       "äABCDEFGHI\u00ADô¦òóõ", "üJKLMNOPQR¹û\x7dùúÿ", "Ö÷STUVWXYZ²Ô\x5cÒÓÕ",
       "0123456789³Û]ÙÚ\x9f"]⟩,
    ⟨"cp424", ["424", "csibm424", "ebcdic_cp_he", "ibm424"],
      ["\x00\x01\x02\x03\x9c\x09\x86\x7f\x97\x8d\x8e\x0b\x0c\x0d\x0e\x0f",
       "\x10\x11\x12\x13\x9d\x85\x08\x87\x18\x19\x92\x8f\x1c\x1d\x1e\x1f",
       "\x80\x81\x82\x83\x84\x0a\x17\x1b\x88\x89\x8a\x8b\x8c\x05\x06\x07",
       "\x90\x91\x16\x93\x94\x95\x96\x04\x98\x99\x9a\x9b\x14\x15\x9e\x1a",
       " \u05D0\u05D1\u05D2\u05D3\u05D4\u05D5\u05D6\u05D7\u05D8¢.<(+|",
       "&\u05D9\u05DA\u05DB\u05DC\u05DD\u05DE\u05DF\u05E0\u05E1!$*);¬",
       "-/\u05E2\u05E3\u05E4\u05E5\u05E6\u05E7\u05E8\u05E9¦,%_>?",
       "\uFFFE\u05EA\uFFFE\uFFFE\xa0\uFFFE\uFFFE\uFFFE‗\x60:#@'=\x22"],
      ["\uFFFEabcdefghi«»\uFFFE\uFFFE\uFFFE±", "°jklmnopqr\uFFFE\uFFFE\uFFFE¸\uFFFE¤",
       "µ~stuvwxyz\uFFFE\uFFFE\uFFFE\uFFFE\uFFFE®", "^£¥·©§¶¼½¾[]¯¨´×",
       "\x7bABCDEFGHI\u00AD\uFFFE\uFFFE\uFFFE\uFFFE\uFFFE",
       "\x7dJKLMNOPQR¹\uFFFE\uFFFE\uFFFE\uFFFE\uFFFE",
       "\x5c÷STUVWXYZ²\uFFFE\uFFFE\uFFFE\uFFFE\uFFFE", "0123456789³\uFFFE\uFFFE\uFFFE\uFFFE\x9f"]⟩,
    ⟨"cp437", ["437", "cspc8codepage437", "ibm437"], asciiRows,
      ["ÇüéâäàåçêëèïîìÄÅ", "ÉæÆôöòûùÿÖÜ¢£¥₧ƒ", "áíóúñÑªº¿⌐¬½¼¡«»", "░▒▓│┤╡╢╖╕╣║╗╝╜╛┐",
       "└┴┬├─┼╞╟╚╔╩╦╠═╬╧", "╨╤╥╙╘╒╓╫╪┘┌█▄▌▐▀", "αßΓπΣσµτΦΘΩδ∞φε∩", "≡±≥≤⌠⌡÷≈°∙·√ⁿ²■\xa0"]⟩,
    ⟨"cp500", ["500", "csibm500", "ebcdic_cp_be", "ebcdic_cp_ch", "ibm500"],
      ["\x00\x01\x02\x03\x9c\x09\x86\x7f\x97\x8d\x8e\x0b\x0c\x0d\x0e\x0f",
       "\x10\x11\x12\x13\x9d\x85\x08\x87\x18\x19\x92\x8f\x1c\x1d\x1e\x1f",
       "\x80\x81\x82\x83\x84\x0a\x17\x1b\x88\x89\x8a\x8b\x8c\x05\x06\x07",
       "\x90\x91\x16\x93\x94\x95\x96\x04\x98\x99\x9a\x9b\x14\x15\x9e\x1a", " \xa0âäàáãåçñ[.<(+!",
       "&éêëèíîïìß]$*);^", "-/ÂÄÀÁÃÅÇÑ¦,%_>?", "øÉÊËÈÍÎÏÌ\x60:#@'=\x22"],
      ["Øabcdefghi«»ðýþ±", "°jklmnopqrªºæ¸Æ¤", "µ~stuvwxyz¡¿ÐÝÞ®", "¢£¥·©§¶¼½¾¬|¯¨´×",
       "\x7bABCDEFGHI\u00ADôöòóõ", "\x7dJKLMNOPQR¹ûüùúÿ", "\x5c÷STUVWXYZ²ÔÖÒÓÕ",
       "0123456789³ÛÜÙÚ\x9f"]⟩,
    ⟨"cp720", [], asciiRows,
      ["\x80\x81éâ\x84à\x86çêëèïî\x8d\x8e\x8f",
       "\x90\u0651\u0652ô¤\u0640ûù\u0621\u0622\u0623\u0624£\u0625\u0626\u0627",
       "\u0628\u0629\u062A\u062B\u062C\u062D\u062E\u062F\u0630\u0631\u0632\u0633\u0634\u0635«»",
       "░▒▓│┤╡╢╖╕╣║╗╝╜╛┐", "└┴┬├─┼╞╟╚╔╩╦╠═╬╧", "╨╤╥╙╘╒╓╫╪┘┌█▄▌▐▀",
       "\u0636\u0637\u0638\u0639\u063A\u0641µ\u0642",
       "\u0643\u0644\u0645\u0646\u0647\u0648\u0649\u064A",
       "≡\u064B\u064C\u064D\u064E\u064F\u0650≈°∙·√ⁿ²■\xa0"]⟩,
    ⟨"cp737", [], asciiRows,
      ["ΑΒΓΔΕΖΗΘΙΚΛΜΝΞΟΠ", "ΡΣΤΥΦΧΨΩαβγδεζηθ", "ικλμνξοπρσςτυφχψ", "░▒▓│┤╡╢╖╕╣║╗╝╜╛┐",
       "└┴┬├─┼╞╟╚╔╩╦╠═╬╧", "╨╤╥╙╘╒╓╫╪┘┌█▄▌▐▀", "ωάέήϊίόύϋώΆΈΉΊΌΎ", "Ώ±≥≤ΪΫ÷≈°∙·√ⁿ²■\xa0"]⟩,
    ⟨"cp775", ["775", "cspc775baltic", "ibm775"], asciiRows,
      ["ĆüéāäģåćłēŖŗīŹÄÅ", "ÉæÆōöĢ¢ŚśÖÜø£Ø×¤", "ĀĪóŻżź”¦©®¬½¼Ł«»", "░▒▓│┤ĄČĘĖ╣║╗╝ĮŠ┐",
       "└┴┬├─┼ŲŪ╚╔╩╦╠═╬Ž", "ąčęėįšųūž┘┌█▄▌▐▀", "ÓßŌŃõÕµńĶķĻļņĒŅ’", "\u00AD±“¾¶§÷„°∙·¹³²■\xa0"]⟩,
    ⟨"cp850", ["850", "cspc850multilingual", "ibm850"], asciiRows,
      ["ÇüéâäàåçêëèïîìÄÅ", "ÉæÆôöòûùÿÖÜø£Ø×ƒ", "áíóúñÑªº¿®¬½¼¡«»", "░▒▓│┤ÁÂÀ©╣║╗╝¢¥┐",
       "└┴┬├─┼ãÃ╚╔╩╦╠═╬¤", "ðÐÊËÈıÍÎÏ┘┌█▄¦Ì▀", "ÓßÔÒõÕµþÞÚÛÙýÝ¯´", "\u00AD±‗¾¶§÷¸°¨·¹³²■\xa0"]⟩,
    ⟨"cp852", ["852", "cspcp852", "ibm852"], asciiRows,
      ["ÇüéâäůćçłëŐőîŹÄĆ", "ÉĹĺôöĽľŚśÖÜŤťŁ×č", "áíóúĄąŽžĘę¬źČş«»", "░▒▓│┤ÁÂĚŞ╣║╗╝Żż┐",
       "└┴┬├─┼Ăă╚╔╩╦╠═╬¤", "đĐĎËďŇÍÎě┘┌█▄ŢŮ▀", "ÓßÔŃńňŠšŔÚŕŰýÝţ´", "\u00AD˝˛ˇ˘§÷¸°¨˙űŘř■\xa0"]⟩,
    ⟨"cp855", ["855", "csibm855", "ibm855"], asciiRows,
      ["ђЂѓЃёЁєЄѕЅіІїЇјЈ", "љЉњЊћЋќЌўЎџЏюЮъЪ", "аАбБцЦдДеЕфФгГ«»", "░▒▓│┤хХиИ╣║╗╝йЙ┐",
       "└┴┬├─┼кК╚╔╩╦╠═╬¤", "лЛмМнНоОп┘┌█▄Пя▀", "ЯрРсСтТуУжЖвВьЬ№", "\u00ADыЫзЗшШэЭщЩчЧ§■\xa0"]⟩,
    ⟨"cp856", [], asciiRows,
      ["\u05D0\u05D1\u05D2\u05D3\u05D4\u05D5\u05D6\u05D7",
       "\u05D8\u05D9\u05DA\u05DB\u05DC\u05DD\u05DE\u05DF",
       "\u05E0\u05E1\u05E2\u05E3\u05E4\u05E5\u05E6\u05E7\u05E8\u05E9\u05EA\uFFFE£\uFFFE×\uFFFE",
       "\uFFFE\uFFFE\uFFFE\uFFFE\uFFFE\uFFFE\uFFFE\uFFFE\uFFFE®¬½¼\uFFFE«»",
       "░▒▓│┤\uFFFE\uFFFE\uFFFE©╣║╗╝¢¥┐", "└┴┬├─┼\uFFFE\uFFFE╚╔╩╦╠═╬¤",
       "\uFFFE\uFFFE\uFFFE\uFFFE\uFFFE\uFFFE\uFFFE\uFFFE\uFFFE┘┌█▄¦\uFFFE▀",
       "\uFFFE\uFFFE\uFFFE\uFFFE\uFFFE\uFFFEµ\uFFFE\uFFFE\uFFFE\uFFFE\uFFFE\uFFFE\uFFFE¯´",
       "\u00AD±‗¾¶§÷¸°¨·¹³²■\xa0"]⟩,
    ⟨"cp857", ["857", "csibm857", "ibm857"], asciiRows,
      ["ÇüéâäàåçêëèïîıÄÅ", "ÉæÆôöòûùİÖÜø£ØŞş", "áíóúñÑĞğ¿®¬½¼¡«»", "░▒▓│┤ÁÂÀ©╣║╗╝¢¥┐",
       "└┴┬├─┼ãÃ╚╔╩╦╠═╬¤", "ºªÊËÈ\uFFFEÍÎÏ┘┌█▄¦Ì▀", "ÓßÔÒõÕµ\uFFFE×ÚÛÙìÿ¯´",
       "\u00AD±\uFFFE¾¶§÷¸°¨·¹³²■\xa0"]⟩,
    ⟨"cp858", ["858", "csibm858", "ibm858"], asciiRows,
      ["ÇüéâäàåçêëèïîìÄÅ", "ÉæÆôöòûùÿÖÜø£Ø×ƒ", "áíóúñÑªº¿®¬½¼¡«»", "░▒▓│┤ÁÂÀ©╣║╗╝¢¥┐",
       "└┴┬├─┼ãÃ╚╔╩╦╠═╬¤", "ðÐÊËÈ€ÍÎÏ┘┌█▄¦Ì▀", "ÓßÔÒõÕµþÞÚÛÙýÝ¯´", "\u00AD±‗¾¶§÷¸°¨·¹³²■\xa0"]⟩,
    ⟨"cp860", ["860", "csibm860", "ibm860"], asciiRows,
      ["ÇüéâãàÁçêÊèÍÔìÃÂ", "ÉÀÈôõòÚùÌÕÜ¢£Ù₧Ó", "áíóúñÑªº¿Ò¬½¼¡«»", "░▒▓│┤╡╢╖╕╣║╗╝╜╛┐",
       "└┴┬├─┼╞╟╚╔╩╦╠═╬╧", "╨╤╥╙╘╒╓╫╪┘┌█▄▌▐▀", "αßΓπΣσµτΦΘΩδ∞φε∩", "≡±≥≤⌠⌡÷≈°∙·√ⁿ²■\xa0"]⟩,
    ⟨"cp861", ["861", "cp_is", "csibm861", "ibm861"], asciiRows,
      ["ÇüéâäàåçêëèÐðÞÄÅ", "ÉæÆôöþûÝýÖÜø£Ø₧ƒ", "áíóúÁÍÓÚ¿⌐¬½¼¡«»", "░▒▓│┤╡╢╖╕╣║╗╝╜╛┐",
       "└┴┬├─┼╞╟╚╔╩╦╠═╬╧", "╨╤╥╙╘╒╓╫╪┘┌█▄▌▐▀", "αßΓπΣσµτΦΘΩδ∞φε∩", "≡±≥≤⌠⌡÷≈°∙·√ⁿ²■\xa0"]⟩,
    ⟨"cp862", ["862", "cspc862latinhebrew", "ibm862"], asciiRows,
      ["\u05D0\u05D1\u05D2\u05D3\u05D4\u05D5\u05D6\u05D7",
       "\u05D8\u05D9\u05DA\u05DB\u05DC\u05DD\u05DE\u05DF",
       "\u05E0\u05E1\u05E2\u05E3\u05E4\u05E5\u05E6\u05E7\u05E8\u05E9\u05EA¢£¥₧ƒ",
       "áíóúñÑªº¿⌐¬½¼¡«»", "░▒▓│┤╡╢╖╕╣║╗╝╜╛┐", "└┴┬├─┼╞╟╚╔╩╦╠═╬╧", "╨╤╥╙╘╒╓╫╪┘┌█▄▌▐▀",
       "αßΓπΣσµτΦΘΩδ∞φε∩", "≡±≥≤⌠⌡÷≈°∙·√ⁿ²■\xa0"]⟩,
    ⟨"cp863", ["863", "csibm863", "ibm863"], asciiRows,
      ["ÇüéâÂà¶çêëèïî‗À§", "ÉÈÊôËÏûù¤ÔÜ¢£ÙÛƒ", "¦´óú¨¸³¯Î⌐¬½¼¾«»", "░▒▓│┤╡╢╖╕╣║╗╝╜╛┐",
       "└┴┬├─┼╞╟╚╔╩╦╠═╬╧", "╨╤╥╙╘╒╓╫╪┘┌█▄▌▐▀", "αßΓπΣσµτΦΘΩδ∞φε∩", "≡±≥≤⌠⌡÷≈°∙·√ⁿ²■\xa0"]⟩,
    ⟨"cp864", ["864", "csibm864", "ibm864"],
      ["\x00\x01\x02\x03\x04\x05\x06\x07\x08\x09\x0a\x0b\x0c\x0d\x0e\x0f",
       "\x10\x11\x12\x13\x14\x15\x16\x17\x18\x19\x1a\x1b\x1c\x1d\x1e\x1f", " !\x22#$٪&'()*+,-./",
       "0123456789:;<=>?", "@ABCDEFGHIJKLMNO", "PQRSTUVWXYZ[\x5c]^_", "\x60abcdefghijklmno",
       "pqrstuvwxyz\x7b|\x7d~\x7f"],
      ["°·∙√▒─│┼┤┬├┴┐┌└┘", "β∞φ±½¼≈«»\uFEF7\uFEF8\uFFFE\uFFFE\uFEFB\uFEFC\uFFFE",
       "\xa0\u00AD\uFE82£¤\uFE84\uFFFE\uFFFE\uFE8E\uFE8F\uFE95\uFE99،\uFE9D\uFEA1\uFEA5",
       "\u0660\u0661\u0662\u0663\u0664\u0665\u0666\u0667",
       "\u0668\u0669\uFED1\u061B\uFEB1\uFEB5\uFEB9\u061F",
       "¢\uFE80\uFE81\uFE83\uFE85\uFECA\uFE8B\uFE8D",
       "\uFE91\uFE93\uFE97\uFE9B\uFE9F\uFEA3\uFEA7\uFEA9",
       "\uFEAB\uFEAD\uFEAF\uFEB3\uFEB7\uFEBB\uFEBF\uFEC1\uFEC5\uFECB\uFECF¦¬÷×\uFEC9",
       "\u0640\uFED3\uFED7\uFEDB\uFEDF\uFEE3\uFEE7\uFEEB",
       "\uFEED\uFEEF\uFEF3\uFEBD\uFECC\uFECE\uFECD\uFEE1",
       "\uFE7D\u0651\uFEE5\uFEE9\uFEEC\uFEF0\uFEF2\uFED0",
       "\uFED5\uFEF5\uFEF6\uFEDD\uFED9\uFEF1■\uFFFE"]⟩,
    ⟨"cp865", ["865", "csibm865", "ibm865"], asciiRows,
      ["ÇüéâäàåçêëèïîìÄÅ", "ÉæÆôöòûùÿÖÜø£Ø₧ƒ", "áíóúñÑªº¿⌐¬½¼¡«¤", "░▒▓│┤╡╢╖╕╣║╗╝╜╛┐",
       "└┴┬├─┼╞╟╚╔╩╦╠═╬╧", "╨╤╥╙╘╒╓╫╪┘┌█▄▌▐▀", "αßΓπΣσµτΦΘΩδ∞φε∩", "≡±≥≤⌠⌡÷≈°∙·√ⁿ²■\xa0"]⟩,
    ⟨"cp866", ["866", "csibm866", "ibm866"], asciiRows,
      ["АБВГДЕЖЗИЙКЛМНОП", "РСТУФХЦЧШЩЪЫЬЭЮЯ", "абвгдежзийклмноп", "░▒▓│┤╡╢╖╕╣║╗╝╜╛┐",
       "└┴┬├─┼╞╟╚╔╩╦╠═╬╧", "╨╤╥╙╘╒╓╫╪┘┌█▄▌▐▀", "рстуфхцчшщъыьэюя", "ЁёЄєЇїЎў°∙·√№¤■\xa0"]⟩,
    ⟨"cp869", ["869", "cp_gr", "csibm869", "ibm869"], asciiRows,
      ["\uFFFE\uFFFE\uFFFE\uFFFE\uFFFE\uFFFEΆ\uFFFE·¬¦‘’Έ―Ή", "ΊΪΌ\uFFFE\uFFFEΎΫ©Ώ²³ά£έήί",
       "ϊΐόύΑΒΓΔΕΖΗ½ΘΙ«»", "░▒▓│┤ΚΛΜΝ╣║╗╝ΞΟ┐", "└┴┬├─┼ΠΡ╚╔╩╦╠═╬Σ", "ΤΥΦΧΨΩαβγ┘┌█▄δε▀",
       "ζηθικλμνξοπρσςτ΄", "\u00AD±υφχ§ψ΅°¨ωϋΰώ■\xa0"]⟩,
    ⟨"cp874", [], asciiRows,
      ["€\uFFFE\uFFFE\uFFFE\uFFFE…\uFFFE\uFFFE\uFFFE\uFFFE\uFFFE\uFFFE\uFFFE\uFFFE\uFFFE\uFFFE",
       "\uFFFE‘’“”•–—\uFFFE\uFFFE\uFFFE\uFFFE\uFFFE\uFFFE\uFFFE\uFFFE", "\xa0กขฃคฅฆงจฉชซฌญฎฏ",
       "ฐฑฒณดตถทธนบปผฝพฟ", "ภมยรฤลฦวศษสหฬอฮฯ",
       "ะ\u0E31าำ\u0E34\u0E35\u0E36\u0E37\u0E38\u0E39\u0E3A\uFFFE\uFFFE\uFFFE\uFFFE฿",
       "เแโใไๅๆ\u0E47\u0E48\u0E49\u0E4A\u0E4B\u0E4C\u0E4D\u0E4E๏",
       "๐๑๒๓๔๕๖๗๘๙๚๛\uFFFE\uFFFE\uFFFE\uFFFE"]⟩,
    ⟨"cp875", [],
      ["\x00\x01\x02\x03\x9c\x09\x86\x7f\x97\x8d\x8e\x0b\x0c\x0d\x0e\x0f",
       "\x10\x11\x12\x13\x9d\x85\x08\x87\x18\x19\x92\x8f\x1c\x1d\x1e\x1f",
       "\x80\x81\x82\x83\x84\x0a\x17\x1b\x88\x89\x8a\x8b\x8c\x05\x06\x07",
       "\x90\x91\x16\x93\x94\x95\x96\x04\x98\x99\x9a\x9b\x14\x15\x9e\x1a", " ΑΒΓΔΕΖΗΘΙ[.<(+!",
       "&ΚΛΜΝΞΟΠΡΣ]$*);^", "-/ΤΥΦΧΨΩΪΫ|,%_>?", "¨ΆΈΉ\xa0ΊΌΎΏ\x60:#@'=\x22"],
      ["΅abcdefghiαβγδεζ", "°jklmnopqrηθικλμ", "´~stuvwxyzνξοπρσ", "£άέήϊίόύϋώςτυφχψ",
       "\x7bABCDEFGHI\u00ADωΐΰ‘―", "\x7dJKLMNOPQR±½\x1a·’¦", "\x5c\x1aSTUVWXYZ²§\x1a\x1a«¬",
       "0123456789³©\x1a\x1a»\x9f"]⟩,
    ⟨"hp_roman8", ["cp1051", "csHPRoman8", "ibm1051", "r8", "roman8"], asciiRows,
      ["\x80\x81\x82\x83\x84\x85\x86\x87\x88\x89\x8a\x8b\x8c\x8d\x8e\x8f",
       "\x90\x91\x92\x93\x94\x95\x96\x97\x98\x99\x9a\x9b\x9c\x9d\x9e\x9f", "\xa0ÀÂÈÊËÎÏ´ˋˆ¨˜ÙÛ₤",
       "¯Ýý°ÇçÑñ¡¿¤£¥§ƒ¢", "âêôûáéóúàèòùäëöü", "ÅîØÆåíøæÄìÖÜÉïßÔ", "ÁÃãÐðÍÌÓÒÕõŠšÚŸÿ",
       "Þþ·µ¶¾—¼½ªº«■»±\uFFFE"]⟩,
    ⟨"iso8859_10",
      ["csisolatin6", "iso_8859_10", "iso_8859_10_1992", "iso_ir_157", "l6", "latin6"], asciiRows,
      ["\x80\x81\x82\x83\x84\x85\x86\x87\x88\x89\x8a\x8b\x8c\x8d\x8e\x8f",
       "\x90\x91\x92\x93\x94\x95\x96\x97\x98\x99\x9a\x9b\x9c\x9d\x9e\x9f",
       "\xa0ĄĒĢĪĨĶ§ĻĐŠŦŽ\u00ADŪŊ", "°ąēģīĩķ·ļđšŧž―ūŋ", "ĀÁÂÃÄÅÆĮČÉĘËĖÍÎÏ", "ÐŅŌÓÔÕÖŨØŲÚÛÜÝÞß",
       "āáâãäåæįčéęëėíîï", "ðņōóôõöũøųúûüýþĸ"]⟩,
    ⟨"iso8859_11", ["iso_8859_11", "iso_8859_11_2001", "thai"], asciiRows,
      ["\x80\x81\x82\x83\x84\x85\x86\x87\x88\x89\x8a\x8b\x8c\x8d\x8e\x8f",
       "\x90\x91\x92\x93\x94\x95\x96\x97\x98\x99\x9a\x9b\x9c\x9d\x9e\x9f", "\xa0กขฃคฅฆงจฉชซฌญฎฏ",
       "ฐฑฒณดตถทธนบปผฝพฟ", "ภมยรฤลฦวศษสหฬอฮฯ",
       "ะ\u0E31าำ\u0E34\u0E35\u0E36\u0E37\u0E38\u0E39\u0E3A\uFFFE\uFFFE\uFFFE\uFFFE฿",
       "เแโใไๅๆ\u0E47\u0E48\u0E49\u0E4A\u0E4B\u0E4C\u0E4D\u0E4E๏",
       "๐๑๒๓๔๕๖๗๘๙๚๛\uFFFE\uFFFE\uFFFE\uFFFE"]⟩,
    ⟨"iso8859_13", ["iso_8859_13", "l7", "latin7"], asciiRows,
      ["\x80\x81\x82\x83\x84\x85\x86\x87\x88\x89\x8a\x8b\x8c\x8d\x8e\x8f",
       "\x90\x91\x92\x93\x94\x95\x96\x97\x98\x99\x9a\x9b\x9c\x9d\x9e\x9f",
       "\xa0”¢£¤„¦§Ø©Ŗ«¬\u00AD®Æ", "°±²³“µ¶·ø¹ŗ»¼½¾æ", "ĄĮĀĆÄÅĘĒČÉŹĖĢĶĪĻ", "ŠŃŅÓŌÕÖ×ŲŁŚŪÜŻŽß",
       "ąįāćäåęēčéźėģķīļ", "šńņóōõö÷ųłśūüżž’"]⟩,
    ⟨"iso8859_14",
      ["iso_8859_14", "iso_8859_14_1998", "iso_celtic", "iso_ir_199", "l8", "latin8"], asciiRows,
      ["\x80\x81\x82\x83\x84\x85\x86\x87\x88\x89\x8a\x8b\x8c\x8d\x8e\x8f",
       "\x90\x91\x92\x93\x94\x95\x96\x97\x98\x99\x9a\x9b\x9c\x9d\x9e\x9f",
       "\xa0Ḃḃ£ĊċḊ§Ẁ©ẂḋỲ\u00AD®Ÿ", "ḞḟĠġṀṁ¶ṖẁṗẃṠỳẄẅṡ", "ÀÁÂÃÄÅÆÇÈÉÊËÌÍÎÏ", "ŴÑÒÓÔÕÖṪØÙÚÛÜÝŶß",
       "àáâãäåæçèéêëìíîï", "ŵñòóôõöṫøùúûüýŷÿ"]⟩,
    ⟨"iso8859_15", ["iso_8859_15", "l9", "latin9"], asciiRows,
      ["\x80\x81\x82\x83\x84\x85\x86\x87\x88\x89\x8a\x8b\x8c\x8d\x8e\x8f",
       "\x90\x91\x92\x93\x94\x95\x96\x97\x98\x99\x9a\x9b\x9c\x9d\x9e\x9f",
       "\xa0¡¢£€¥Š§š©ª«¬\u00AD®¯", "°±²³Žµ¶·ž¹º»ŒœŸ¿", "ÀÁÂÃÄÅÆÇÈÉÊËÌÍÎÏ", "ÐÑÒÓÔÕÖ×ØÙÚÛÜÝÞß",
       "àáâãäåæçèéêëìíîï", "ðñòóôõö÷øùúûüýþÿ"]⟩,
    ⟨"iso8859_16", ["iso_8859_16", "iso_8859_16_2001", "iso_ir_226", "l10", "latin10"], asciiRows,
      ["\x80\x81\x82\x83\x84\x85\x86\x87\x88\x89\x8a\x8b\x8c\x8d\x8e\x8f",
       "\x90\x91\x92\x93\x94\x95\x96\x97\x98\x99\x9a\x9b\x9c\x9d\x9e\x9f",
       "\xa0ĄąŁ€„Š§š©Ș«Ź\u00ADźŻ", "°±ČłŽ”¶·žčș»ŒœŸż", "ÀÁÂĂÄĆÆÇÈÉÊËÌÍÎÏ", "ĐŃÒÓÔŐÖŚŰÙÚÛÜĘȚß",
       "àáâăäćæçèéêëìíîï", "đńòóôőöśűùúûüęțÿ"]⟩,
    ⟨"iso8859_2",
      ["csisolatin2", "iso_8859_2", "iso_8859_2_1987", "iso_ir_101", "l2", "latin2"], asciiRows,
      ["\x80\x81\x82\x83\x84\x85\x86\x87\x88\x89\x8a\x8b\x8c\x8d\x8e\x8f",
       "\x90\x91\x92\x93\x94\x95\x96\x97\x98\x99\x9a\x9b\x9c\x9d\x9e\x9f",
       "\xa0Ą˘Ł¤ĽŚ§¨ŠŞŤŹ\u00ADŽŻ", "°ą˛ł´ľśˇ¸šşťź˝žż", "ŔÁÂĂÄĹĆÇČÉĘËĚÍÎĎ", "ĐŃŇÓÔŐÖ×ŘŮÚŰÜÝŢß",
       "ŕáâăäĺćçčéęëěíîď", "đńňóôőö÷řůúűüýţ˙"]⟩,
    ⟨"iso8859_3",
      ["csisolatin3", "iso_8859_3", "iso_8859_3_1988", "iso_ir_109", "l3", "latin3"], asciiRows,
      ["\x80\x81\x82\x83\x84\x85\x86\x87\x88\x89\x8a\x8b\x8c\x8d\x8e\x8f",
       "\x90\x91\x92\x93\x94\x95\x96\x97\x98\x99\x9a\x9b\x9c\x9d\x9e\x9f",
       "\xa0Ħ˘£¤\uFFFEĤ§¨İŞĞĴ\u00AD\uFFFEŻ", "°ħ²³´µĥ·¸ışğĵ½\uFFFEż", "ÀÁÂ\uFFFEÄĊĈÇÈÉÊËÌÍÎÏ",
       "\uFFFEÑÒÓÔĠÖ×ĜÙÚÛÜŬŜß", "àáâ\uFFFEäċĉçèéêëìíîï", "\uFFFEñòóôġö÷ĝùúûüŭŝ˙"]⟩,
    ⟨"iso8859_4",
      ["csisolatin4", "iso_8859_4", "iso_8859_4_1988", "iso_ir_110", "l4", "latin4"], asciiRows,
      ["\x80\x81\x82\x83\x84\x85\x86\x87\x88\x89\x8a\x8b\x8c\x8d\x8e\x8f",
       "\x90\x91\x92\x93\x94\x95\x96\x97\x98\x99\x9a\x9b\x9c\x9d\x9e\x9f",
       "\xa0ĄĸŖ¤ĨĻ§¨ŠĒĢŦ\u00ADŽ¯", "°ą˛ŗ´ĩļˇ¸šēģŧŊžŋ", "ĀÁÂÃÄÅÆĮČÉĘËĖÍÎĪ", "ĐŅŌĶÔÕÖ×ØŲÚÛÜŨŪß",
       "āáâãäåæįčéęëėíîī", "đņōķôõö÷øųúûüũū˙"]⟩,
    ⟨"iso8859_5",
      ["csisolatincyrillic", "cyrillic", "iso_8859_5", "iso_8859_5_1988", "iso_ir_144"], asciiRows,
      ["\x80\x81\x82\x83\x84\x85\x86\x87\x88\x89\x8a\x8b\x8c\x8d\x8e\x8f",
       "\x90\x91\x92\x93\x94\x95\x96\x97\x98\x99\x9a\x9b\x9c\x9d\x9e\x9f",
       "\xa0ЁЂЃЄЅІЇЈЉЊЋЌ\u00ADЎЏ", "АБВГДЕЖЗИЙКЛМНОП", "РСТУФХЦЧШЩЪЫЬЭЮЯ", "абвгдежзийклмноп",
       "рстуфхцчшщъыьэюя", "№ёђѓєѕіїјљњћќ§ўџ"]⟩,
    ⟨"iso8859_6",
      ["arabic", "asmo_708", "csisolatinarabic", "ecma_114", "iso_8859_6", "iso_8859_6_1987",
        "iso_ir_127"], asciiRows,
      ["\x80\x81\x82\x83\x84\x85\x86\x87\x88\x89\x8a\x8b\x8c\x8d\x8e\x8f",
       "\x90\x91\x92\x93\x94\x95\x96\x97\x98\x99\x9a\x9b\x9c\x9d\x9e\x9f",
       "\xa0\uFFFE\uFFFE\uFFFE¤\uFFFE\uFFFE\uFFFE\uFFFE\uFFFE\uFFFE\uFFFE،\u00AD\uFFFE\uFFFE",
       "\uFFFE\uFFFE\uFFFE\uFFFE\uFFFE\uFFFE\uFFFE\uFFFE",
       "\uFFFE\uFFFE\uFFFE\u061B\uFFFE\uFFFE\uFFFE\u061F",
       "\uFFFE\u0621\u0622\u0623\u0624\u0625\u0626\u0627",
       "\u0628\u0629\u062A\u062B\u062C\u062D\u062E\u062F",
       "\u0630\u0631\u0632\u0633\u0634\u0635\u0636\u0637",
       "\u0638\u0639\u063A\uFFFE\uFFFE\uFFFE\uFFFE\uFFFE",
       "\u0640\u0641\u0642\u0643\u0644\u0645\u0646\u0647",
       "\u0648\u0649\u064A\u064B\u064C\u064D\u064E\u064F",
       "\u0650\u0651\u0652\uFFFE\uFFFE\uFFFE\uFFFE\uFFFE",
       "\uFFFE\uFFFE\uFFFE\uFFFE\uFFFE\uFFFE\uFFFE\uFFFE"]⟩,
    greek,
    ⟨"iso8859_8",
      ["csisolatinhebrew", "hebrew", "iso_8859_8", "iso_8859_8_1988", "iso_ir_138"], asciiRows,
      ["\x80\x81\x82\x83\x84\x85\x86\x87\x88\x89\x8a\x8b\x8c\x8d\x8e\x8f",
       "\x90\x91\x92\x93\x94\x95\x96\x97\x98\x99\x9a\x9b\x9c\x9d\x9e\x9f",
       "\xa0\uFFFE¢£¤¥¦§¨©×«¬\u00AD®¯", "°±²³´µ¶·¸¹÷»¼½¾\uFFFE",
       "\uFFFE\uFFFE\uFFFE\uFFFE\uFFFE\uFFFE\uFFFE\uFFFE",
       "\uFFFE\uFFFE\uFFFE\uFFFE\uFFFE\uFFFE\uFFFE\uFFFE",
       "\uFFFE\uFFFE\uFFFE\uFFFE\uFFFE\uFFFE\uFFFE\uFFFE",
       "\uFFFE\uFFFE\uFFFE\uFFFE\uFFFE\uFFFE\uFFFE‗",
       "\u05D0\u05D1\u05D2\u05D3\u05D4\u05D5\u05D6\u05D7",
       "\u05D8\u05D9\u05DA\u05DB\u05DC\u05DD\u05DE\u05DF",
       "\u05E0\u05E1\u05E2\u05E3\u05E4\u05E5\u05E6\u05E7",
       "\u05E8\u05E9\u05EA\uFFFE\uFFFE\u200E\u200F\uFFFE"]⟩,
    ⟨"iso8859_9",
      ["csisolatin5", "iso_8859_9", "iso_8859_9_1989", "iso_ir_148", "l5", "latin5"], asciiRows,
      ["\x80\x81\x82\x83\x84\x85\x86\x87\x88\x89\x8a\x8b\x8c\x8d\x8e\x8f",
       "\x90\x91\x92\x93\x94\x95\x96\x97\x98\x99\x9a\x9b\x9c\x9d\x9e\x9f",
       "\xa0¡¢£¤¥¦§¨©ª«¬\u00AD®¯", "°±²³´µ¶·¸¹º»¼½¾¿", "ÀÁÂÃÄÅÆÇÈÉÊËÌÍÎÏ", "ĞÑÒÓÔÕÖ×ØÙÚÛÜİŞß",
       "àáâãäåæçèéêëìíîï", "ğñòóôõö÷øùúûüışÿ"]⟩,
    ⟨"koi8_r", ["cskoi8r"], asciiRows,
      ["─│┌┐└┘├┤┬┴┼▀▄█▌▐", "░▒▓⌠■∙√≈≤≥\xa0⌡°²·÷", "═║╒ё╓╔╕╖╗╘╙╚╛╜╝╞", "╟╠╡Ё╢╣╤╥╦╧╨╩╪╫╬©",
       "юабцдефгхийклмно", "пярстужвьызшэщчъ", "ЮАБЦДЕФГХИЙКЛМНО", "ПЯРСТУЖВЬЫЗШЭЩЧЪ"]⟩,
    ⟨"koi8_t", [], asciiRows,
      ["қғ‚Ғ„…†‡\uFFFE‰ҳ‹ҲҷҶ\uFFFE", "Қ‘’“”•–—\uFFFE™\uFFFE›\uFFFE\uFFFE\uFFFE\uFFFE",
       "\uFFFEӯӮё¤ӣ¦§\uFFFE\uFFFE\uFFFE«¬\u00AD®\uFFFE",
       "°±²Ё\uFFFEӢ¶·\uFFFE№\uFFFE»\uFFFE\uFFFE\uFFFE©", "юабцдефгхийклмно", "пярстужвьызшэщчъ",
       "ЮАБЦДЕФГХИЙКЛМНО", "ПЯРСТУЖВЬЫЗШЭЩЧЪ"]⟩,
    ⟨"koi8_u", [], asciiRows,
      ["─│┌┐└┘├┤┬┴┼▀▄█▌▐", "░▒▓⌠■∙√≈≤≥\xa0⌡°²·÷", "═║╒ёє╔ії╗╘╙╚╛ґ╝╞", "╟╠╡ЁЄ╣ІЇ╦╧╨╩╪Ґ╬©",
       "юабцдефгхийклмно", "пярстужвьызшэщчъ", "ЮАБЦДЕФГХИЙКЛМНО", "ПЯРСТУЖВЬЫЗШЭЩЧЪ"]⟩,
    ⟨"kz1048", ["kz_1048", "rk1048", "strk1048_2002"], asciiRows,
      ["ЂЃ‚ѓ„…†‡€‰Љ‹ЊҚҺЏ", "ђ‘’“”•–—\uFFFE™љ›њқһџ", "\xa0ҰұӘ¤Ө¦§Ё©Ғ«¬\u00AD®Ү",
       "°±Ііөµ¶·ё№ғ»әҢңү", "АБВГДЕЖЗИЙКЛМНОП", "РСТУФХЦЧШЩЪЫЬЭЮЯ", "абвгдежзийклмноп",
       "рстуфхцчшщъыьэюя"]⟩,
    ⟨"mac_arabic", [], asciiRows,
      ["Ä\xa0ÇÉÑÖÜáàâä\u06BA«çéè", "êëí…îïñó»ôö÷úùûü", " !\x22#$٪&'()*+،-./",
       "\u0660\u0661\u0662\u0663\u0664\u0665\u0666\u0667\u0668\u0669:\u061B<=>\u061F",
       "❊\u0621\u0622\u0623\u0624\u0625\u0626\u0627",
       "\u0628\u0629\u062A\u062B\u062C\u062D\u062E\u062F",
       "\u0630\u0631\u0632\u0633\u0634\u0635\u0636\u0637\u0638\u0639\u063A[\x5c]^_",
       "\u0640\u0641\u0642\u0643\u0644\u0645\u0646\u0647",
       "\u0648\u0649\u064A\u064B\u064C\u064D\u064E\u064F",
       "\u0650\u0651\u0652\u067E\u0679\u0686\u06D5\u06A4",
       "\u06AF\u0688\u0691\x7b|\x7d\u0698\u06D2"]⟩,
    ⟨"mac_croatian", [], asciiRows,
      ["ÄÅÇÉÑÖÜáàâäãåçéè", "êëíìîïñóòôöõúùûü", "†°¢£§•¶ß®Š™´¨≠ŽØ", "∞±≤≥∆µ∂∑∏š∫ªºΩžø",
       "¿¡¬√ƒ≈Ć«Č…\xa0ÀÃÕŒœ", "Đ—“”‘’÷◊\uF8FF©⁄€‹›Æ»", "–·‚„‰ÂćÁčÈÍÎÏÌÓÔ", "đÒÚÛÙıˆ˜¯πË˚¸Êæˇ"]⟩,
    ⟨"mac_cyrillic", ["maccyrillic"], asciiRows,
      ["АБВГДЕЖЗИЙКЛМНОП", "РСТУФХЦЧШЩЪЫЬЭЮЯ", "†°Ґ£§•¶І®©™Ђђ≠Ѓѓ", "∞±≤≥іµґЈЄєЇїЉљЊњ",
       "јЅ¬√ƒ≈∆«»…\xa0ЋћЌќѕ", "–—“”‘’÷„ЎўЏџ№Ёёя", "абвгдежзийклмноп", "рстуфхцчшщъыьэю€"]⟩,
    ⟨"mac_farsi", [], asciiRows,
      ["Ä\xa0ÇÉÑÖÜáàâä\u06BA«çéè", "êëí…îïñó»ôö÷úùûü", " !\x22#$٪&'()*+،-./",
       "۰۱۲۳۴۵۶۷۸۹:\u061B<=>\u061F", "❊\u0621\u0622\u0623\u0624\u0625\u0626\u0627",
       "\u0628\u0629\u062A\u062B\u062C\u062D\u062E\u062F",
       "\u0630\u0631\u0632\u0633\u0634\u0635\u0636\u0637\u0638\u0639\u063A[\x5c]^_",
       "\u0640\u0641\u0642\u0643\u0644\u0645\u0646\u0647",
       "\u0648\u0649\u064A\u064B\u064C\u064D\u064E\u064F",
       "\u0650\u0651\u0652\u067E\u0679\u0686\u06D5\u06A4",
       "\u06AF\u0688\u0691\x7b|\x7d\u0698\u06D2"]⟩,
    ⟨"mac_greek", ["macgreek"], asciiRows,
      ["Ä¹²É³ÖÜ΅àâä΄¨çéè", "êë£™îï•½‰ôö¦€ùûü", "†ΓΔΘΛΞΠß®©ΣΪ§≠°·", "Α±≤≥¥ΒΕΖΗΙΚΜΦΫΨΩ",
       "άΝ¬ΟΡ≈Τ«»…\xa0ΥΧΆΈœ", "–―“”‘’÷ΉΊΌΎέήίόΏ", "ύαβψδεφγηιξκλμνο", "πώρστθωςχυζϊϋΐΰ\u00AD"]⟩,
    ⟨"mac_iceland", ["maciceland"], asciiRows,
      ["ÄÅÇÉÑÖÜáàâäãåçéè", "êëíìîïñóòôöõúùûü", "Ý°¢£§•¶ß®©™´¨≠ÆØ", "∞±≤≥¥µ∂∑∏π∫ªºΩæø",
       "¿¡¬√ƒ≈∆«»…\xa0ÀÃÕŒœ", "–—“”‘’÷◊ÿŸ⁄€ÐðÞþ", "ý·‚„‰ÂÊÁËÈÍÎÏÌÓÔ", "\uF8FFÒÚÛÙıˆ˜¯˘˙˚¸˝˛ˇ"]⟩,
    ⟨"mac_latin2", ["mac_centeuro", "maccentraleurope", "maclatin2"], asciiRows,
      ["ÄĀāÉĄÖÜáąČäčĆćéŹ", "źĎíďĒēĖóėôöõúĚěü", "†°Ę£§•¶ß®©™ę¨≠ģĮ", "įĪ≤≥īĶ∂∑łĻļĽľĹĺŅ",
       "ņŃ¬√ńŇ∆«»…\xa0ňŐÕőŌ", "–—“”‘’÷◊ōŔŕŘ‹›řŖ", "ŗŠ‚„šŚśÁŤťÍŽžŪÓÔ", "ūŮÚůŰűŲųÝýķŻŁżĢˇ"]⟩,
    ⟨"mac_roman", ["macintosh", "macroman"], asciiRows,
      ["ÄÅÇÉÑÖÜáàâäãåçéè", "êëíìîïñóòôöõúùûü", "†°¢£§•¶ß®©™´¨≠ÆØ", "∞±≤≥¥µ∂∑∏π∫ªºΩæø",
       "¿¡¬√ƒ≈∆«»…\xa0ÀÃÕŒœ", "–—“”‘’÷◊ÿŸ⁄€‹›ﬁﬂ", "‡·‚„‰ÂÊÁËÈÍÎÏÌÓÔ", "\uF8FFÒÚÛÙıˆ˜¯˘˙˚¸˝˛ˇ"]⟩,
    ⟨"mac_romanian", [], asciiRows,
      ["ÄÅÇÉÑÖÜáàâäãåçéè", "êëíìîïñóòôöõúùûü", "†°¢£§•¶ß®©™´¨≠ĂȘ", "∞±≤≥¥µ∂∑∏π∫ªºΩăș",
       "¿¡¬√ƒ≈∆«»…\xa0ÀÃÕŒœ", "–—“”‘’÷◊ÿŸ⁄€‹›Țț", "‡·‚„‰ÂÊÁËÈÍÎÏÌÓÔ", "\uF8FFÒÚÛÙıˆ˜¯˘˙˚¸˝˛ˇ"]⟩,
    ⟨"mac_turkish", ["macturkish"], asciiRows,
      ["ÄÅÇÉÑÖÜáàâäãåçéè", "êëíìîïñóòôöõúùûü", "†°¢£§•¶ß®©™´¨≠ÆØ", "∞±≤≥¥µ∂∑∏π∫ªºΩæø",
       "¿¡¬√ƒ≈∆«»…\xa0ÀÃÕŒœ", "–—“”‘’÷◊ÿŸĞğİıŞş", "‡·‚„‰ÂÊÁËÈÍÎÏÌÓÔ",
       "\uF8FFÒÚÛÙ\uF8A0ˆ˜¯˘˙˚¸˝˛ˇ"]⟩,
    ⟨"palmos", [], asciiRows,
      ["€\x81‚ƒ„…†‡ˆ‰Š‹Œ♦♣♥", "♠‘’“”•–—˜™š\x9bœ\x9d\x9eŸ", "\xa0¡¢£¤¥¦§¨©ª«¬\u00AD®¯",
       "°±²³´µ¶·¸¹º»¼½¾¿", "ÀÁÂÃÄÅÆÇÈÉÊËÌÍÎÏ", "ÐÑÒÓÔÕÖ×ØÙÚÛÜÝÞß", "àáâãäåæçèéêëìíîï",
       "ðñòóôõö÷øùúûüýþÿ"]⟩,
    ⟨"ptcp154", ["cp154", "csptcp154", "cyrillic_asian", "pt154"], asciiRows,
      ["ҖҒӮғ„…ҶҮҲүҠӢҢҚҺҸ", "җ‘’“”•–—ҳҷҡӣңқһҹ", "\xa0ЎўЈӨҘҰ§Ё©Ә«¬ӯ®Ҝ", "°ұІіҙө¶·ё№ә»јҪҫҝ",
       "АБВГДЕЖЗИЙКЛМНОП", "РСТУФХЦЧШЩЪЫЬЭЮЯ", "абвгдежзийклмноп", "рстуфхцчшщъыьэюя"]⟩,
    ⟨"tis_620",
      ["iso_ir_166", "tis620", "tis_620_0", "tis_620_2529_0", "tis_620_2529_1"], asciiRows,
      ["\x80\x81\x82\x83\x84\x85\x86\x87\x88\x89\x8a\x8b\x8c\x8d\x8e\x8f",
       "\x90\x91\x92\x93\x94\x95\x96\x97\x98\x99\x9a\x9b\x9c\x9d\x9e\x9f",
       "\uFFFEกขฃคฅฆงจฉชซฌญฎฏ", "ฐฑฒณดตถทธนบปผฝพฟ", "ภมยรฤลฦวศษสหฬอฮฯ",
       "ะ\u0E31าำ\u0E34\u0E35\u0E36\u0E37\u0E38\u0E39\u0E3A\uFFFE\uFFFE\uFFFE\uFFFE฿",
       "เแโใไๅๆ\u0E47\u0E48\u0E49\u0E4A\u0E4B\u0E4C\u0E4D\u0E4E๏",
       "๐๑๒๓๔๕๖๗๘๙๚๛\uFFFE\uFFFE\uFFFE\uFFFE"]⟩]

end AtomicCss.Charset.CodePage
