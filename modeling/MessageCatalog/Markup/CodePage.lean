import MessageCatalog.Text.Basic

/-!
# Code pages

The encodings whose characters are single bytes, by the names under which a document can declare
them. A code page agrees with ASCII on the bytes below 128, as far as it has characters there.
-/

namespace MessageCatalog
namespace Markup

/-- An encoding whose characters are single bytes. -/
structure CodePage where
  /-- The names that are found as they are. -/
  names : List String
  /-- The names that are also found with points for low lines. -/
  aliases : List String
  /-- The characters of the bytes from 128 on. A blank stands for none. -/
  upper : Text
  /-- The bytes below 128 that have no character. -/
  gaps : List UInt8 := []

namespace CodePage

/-- The character of a byte, if there is one. -/
def char (page : CodePage) (b : UInt8) : Option Char :=
  if page.gaps.contains b then none
  else if b < 0x80 then some (Char.ofNat b.toNat)
  else (page.upper[b.toNat - 0x80]?).filter (· ≠ ' ')

/-- The code page with the given characters from 128 on. -/
def of (names aliases : List String) (upper : Text) : CodePage :=
  { names, aliases, upper }

/-- The code page with the given characters from 160 on, behind control characters. -/
def ofIso (names aliases : List String) (upper : Text) : CodePage :=
  of names aliases ((List.range' 0x80 0x20).map Char.ofNat ++ upper)

/-- The code page of ASCII. Encodings with several bytes for a character count as it, if they read
single bytes so. -/
def ascii : CodePage :=
  .of
    ["ascii", "iso2022_jp", "iso2022_jp_1", "iso2022_jp_2", "iso2022_jp_2004", "iso2022_jp_3",
     "iso2022_jp_ext", "utf_8", "utf_8_sig"]
    ["ansi_x3.4_1968", "ansi_x3_4_1968", "ansi_x3.4_1986", "cp367", "csascii", "ibm367",
     "iso646_us", "iso_646.irv_1991", "iso_ir_6", "us", "us_ascii", "csiso2022jp", "iso2022jp",
     "iso_2022_jp", "iso2022jp_1", "iso_2022_jp_1", "iso2022jp_2", "iso_2022_jp_2",
     "iso_2022_jp_2004", "iso2022jp_2004", "iso2022jp_3", "iso_2022_jp_3", "iso2022jp_ext",
     "iso_2022_jp_ext", "u8", "utf", "utf8", "utf8_ucs2", "utf8_ucs4", "cp65001"]
    []

/-- The code page in which every byte is the code point of its character. -/
def latin : CodePage :=
  .ofIso ["charmap", "latin_1", "raw_unicode_escape", "unicode_escape"]
    ["cp819", "csisolatin1", "ibm819", "iso8859", "iso8859_1", "iso_8859_1", "iso_8859_1_1987",
     "iso_ir_100", "l1", "latin", "latin1"]
    ((List.range' 0xA0 0x60).map Char.ofNat)

/-- The code pages. -/
def all : List CodePage :=
  [ascii, latin,
    { names := ["hz"], aliases := ["hzgb", "hz_gb", "hz_gb_2312"], upper := [], gaps := [0x7E] },
    .ofIso ["cp1006"] []
      ("\xA0۰۱۲۳۴۵۶۷۸۹،\u061B\xAD\u061F\uFE81\uFE8D\uFE8E\uFE8E\uFE8F\uFE91\uFB56\uFB58\uFE93" ++
       "\uFE95\uFE97\uFB66\uFB68\uFE99\uFE9B\uFE9D\uFE9F\uFB7A\uFB7C\uFEA1\uFEA3\uFEA5\uFEA7" ++
       "\uFEA9\uFB84\uFEAB\uFEAD\uFB8C\uFEAF\uFB8A\uFEB1\uFEB3\uFEB5\uFEB7\uFEB9\uFEBB\uFEBD" ++
       "\uFEBF\uFEC1\uFEC5\uFEC9\uFECA\uFECB\uFECC\uFECD\uFECE\uFECF\uFED0\uFED1\uFED3\uFED5" ++
       "\uFED7\uFED9\uFEDB\uFB92\uFB94\uFEDD\uFEDF\uFEE0\uFEE1\uFEE3\uFB9E\uFEE5\uFEE7\uFE85" ++
       "\uFEED\uFBA6\uFBA8\uFBA9\uFBAA\uFE80\uFE89\uFE8A\uFE8B\uFEF1\uFEF2\uFEF3\uFBB0\uFBAE" ++
       "\uFE7C\uFE7D"),
    .of ["cp1125"] ["ibm1125", "cp866u", "ruscii"]
      ("АБВГДЕЖЗИЙКЛМНОПРСТУФХЦЧШЩЪЫЬЭЮЯабвгдежзийклмноп░▒▓│┤╡╢╖╕╣║╗╝╜╛┐└┴┬├─┼╞╟╚╔╩╦╠═╬╧╨╤╥╙╘╒╓" ++
       "╫╪┘┌█▄▌▐▀рстуфхцчшщъыьэюяЁёҐґЄєІіЇї·√№¤■\xA0"),
    .of ["cp1250"] ["windows_1250"]
      ("€ ‚ „…†‡ ‰Š‹ŚŤŽŹ ‘’“”•–— ™š›śťžź\xA0ˇ˘Ł¤Ą¦§¨©Ş«¬\xAD®Ż°±˛ł´µ¶·¸ąş»Ľ˝ľżŔÁÂĂÄĹĆÇČÉĘËĚÍÎĎĐ" ++
       "ŃŇÓÔŐÖ×ŘŮÚŰÜÝŢßŕáâăäĺćçčéęëěíîďđńňóôőö÷řůúűüýţ˙"),
    .of ["cp1251"] ["windows_1251"]
      ("ЂЃ‚ѓ„…†‡€‰Љ‹ЊЌЋЏђ‘’“”•–— ™љ›њќћџ\xA0ЎўЈ¤Ґ¦§Ё©Є«¬\xAD®Ї°±Ііґµ¶·ё№є»јЅѕїАБВГДЕЖЗИЙКЛМНОПР" ++
       "СТУФХЦЧШЩЪЫЬЭЮЯабвгдежзийклмнопрстуфхцчшщъыьэюя"),
    .of ["cp1252"] ["windows_1252"]
      ("€ ‚ƒ„…†‡ˆ‰Š‹Œ Ž  ‘’“”•–—˜™š›œ žŸ\xA0¡¢£¤¥¦§¨©ª«¬\xAD®¯°±²³´µ¶·¸¹º»¼½¾¿ÀÁÂÃÄÅÆÇÈÉÊËÌÍÎÏÐ" ++
       "ÑÒÓÔÕÖ×ØÙÚÛÜÝÞßàáâãäåæçèéêëìíîïðñòóôõö÷øùúûüýþÿ"),
    .of ["cp1253"] ["windows_1253"]
      ("€ ‚ƒ„…†‡ ‰ ‹     ‘’“”•–— ™ ›    \xA0΅Ά£¤¥¦§¨© «¬\xAD®―°±²³΄µ¶·ΈΉΊ»Ό½ΎΏΐΑΒΓΔΕΖΗΘΙΚΛΜΝΞΟΠ" ++
       "Ρ ΣΤΥΦΧΨΩΪΫάέήίΰαβγδεζηθικλμνξοπρςστυφχψωϊϋόύώ "),
    .of ["cp1254"] ["windows_1254"]
      ("€ ‚ƒ„…†‡ˆ‰Š‹Œ    ‘’“”•–—˜™š›œ  Ÿ\xA0¡¢£¤¥¦§¨©ª«¬\xAD®¯°±²³´µ¶·¸¹º»¼½¾¿ÀÁÂÃÄÅÆÇÈÉÊËÌÍÎÏĞ" ++
       "ÑÒÓÔÕÖ×ØÙÚÛÜİŞßàáâãäåæçèéêëìíîïğñòóôõö÷øùúûüışÿ"),
    .of ["cp1255"] ["windows_1255"]
      ("€ ‚ƒ„…†‡ˆ‰ ‹     ‘’“”•–—˜™ ›    \xA0¡¢£₪¥¦§¨©×«¬\xAD®¯°±²³´µ¶·¸¹÷»¼½¾¿\u05B0\u05B1" ++
       "\u05B2\u05B3\u05B4\u05B5\u05B6\u05B7\u05B8\u05B9 \u05BB\u05BC\u05BD\u05BE\u05BF\u05C0" ++
       "\u05C1\u05C2\u05C3\u05F0\u05F1\u05F2\u05F3\u05F4       \u05D0\u05D1\u05D2\u05D3\u05D4" ++
       "\u05D5\u05D6\u05D7\u05D8\u05D9\u05DA\u05DB\u05DC\u05DD\u05DE\u05DF\u05E0\u05E1\u05E2" ++
       "\u05E3\u05E4\u05E5\u05E6\u05E7\u05E8\u05E9\u05EA  \u200E\u200F "),
    .of ["cp1256"] ["windows_1256"]
      ("€\u067E‚ƒ„…†‡ˆ‰\u0679‹Œ\u0686\u0698\u0688\u06AF‘’“”•–—\u06A9™\u0691›œ\u200C\u200D\u06BA" ++
       "\xA0،¢£¤¥¦§¨©\u06BE«¬\xAD®¯°±²³´µ¶·¸¹\u061B»¼½¾\u061F\u06C1\u0621\u0622\u0623\u0624" ++
       "\u0625\u0626\u0627\u0628\u0629\u062A\u062B\u062C\u062D\u062E\u062F\u0630\u0631\u0632" ++
       "\u0633\u0634\u0635\u0636×\u0637\u0638\u0639\u063A\u0640\u0641\u0642\u0643à\u0644â\u0645" ++
       "\u0646\u0647\u0648çèéêë\u0649\u064Aîï\u064B\u064C\u064D\u064Eô\u064F\u0650÷\u0651ù" ++
       "\u0652ûü\u200E\u200F\u06D2"),
    .of ["cp1257"] ["windows_1257"]
      ("€ ‚ „…†‡ ‰ ‹ ¨ˇ¸ ‘’“”•–— ™ › ¯˛ \xA0 ¢£¤ ¦§Ø©Ŗ«¬\xAD®Æ°±²³´µ¶·ø¹ŗ»¼½¾æĄĮĀĆÄÅĘĒČÉŹĖĢĶĪĻŠ" ++
       "ŃŅÓŌÕÖ×ŲŁŚŪÜŻŽßąįāćäåęēčéźėģķīļšńņóōõö÷ųłśūüżž˙"),
    .of ["cp1258"] ["windows_1258"]
      ("€ ‚ƒ„…†‡ˆ‰ ‹Œ    ‘’“”•–—˜™ ›œ  Ÿ\xA0¡¢£¤¥¦§¨©ª«¬\xAD®¯°±²³´µ¶·¸¹º»¼½¾¿ÀÁÂĂÄÅÆÇÈÉÊË" ++
       "\u0300ÍÎÏĐÑ\u0309ÓÔƠÖ×ØÙÚÛÜƯ\u0303ßàáâăäåæçèéêë\u0301íîïđñ\u0323óôơö÷øùúûüư₫ÿ"),
    .of ["cp437"] ["cspc8codepage437", "ibm437"]
      ("ÇüéâäàåçêëèïîìÄÅÉæÆôöòûùÿÖÜ¢£¥₧ƒáíóúñÑªº¿⌐¬½¼¡«»░▒▓│┤╡╢╖╕╣║╗╝╜╛┐└┴┬├─┼╞╟╚╔╩╦╠═╬╧╨╤╥╙╘╒╓" ++
       "╫╪┘┌█▄▌▐▀αßΓπΣσµτΦΘΩδ∞φε∩≡±≥≤⌠⌡÷≈°∙·√ⁿ²■\xA0"),
    .of ["cp720"] []
      ("\x80\x81éâ\x84à\x86çêëèïî\x8D\x8E\x8F\x90\u0651\u0652ô¤\u0640ûù\u0621\u0622\u0623\u0624" ++
       "£\u0625\u0626\u0627\u0628\u0629\u062A\u062B\u062C\u062D\u062E\u062F\u0630\u0631\u0632" ++
       "\u0633\u0634\u0635«»░▒▓│┤╡╢╖╕╣║╗╝╜╛┐└┴┬├─┼╞╟╚╔╩╦╠═╬╧╨╤╥╙╘╒╓╫╪┘┌█▄▌▐▀\u0636\u0637\u0638" ++
       "\u0639\u063A\u0641µ\u0642\u0643\u0644\u0645\u0646\u0647\u0648\u0649\u064A≡\u064B\u064C" ++
       "\u064D\u064E\u064F\u0650≈°∙·√ⁿ²■\xA0"),
    .of ["cp737"] []
      ("ΑΒΓΔΕΖΗΘΙΚΛΜΝΞΟΠΡΣΤΥΦΧΨΩαβγδεζηθικλμνξοπρσςτυφχψ░▒▓│┤╡╢╖╕╣║╗╝╜╛┐└┴┬├─┼╞╟╚╔╩╦╠═╬╧╨╤╥╙╘╒╓" ++
       "╫╪┘┌█▄▌▐▀ωάέήϊίόύϋώΆΈΉΊΌΎΏ±≥≤ΪΫ÷≈°∙·√ⁿ²■\xA0"),
    .of ["cp775"] ["cspc775baltic", "ibm775"]
      ("ĆüéāäģåćłēŖŗīŹÄÅÉæÆōöĢ¢ŚśÖÜø£Ø×¤ĀĪóŻżź”¦©®¬½¼Ł«»░▒▓│┤ĄČĘĖ╣║╗╝ĮŠ┐└┴┬├─┼ŲŪ╚╔╩╦╠═╬Žąčęėįšų" ++
       "ūž┘┌█▄▌▐▀ÓßŌŃõÕµńĶķĻļņĒŅ’\xAD±“¾¶§÷„°∙·¹³²■\xA0"),
    .of ["cp850"] ["cspc850multilingual", "ibm850"]
      ("ÇüéâäàåçêëèïîìÄÅÉæÆôöòûùÿÖÜø£Ø×ƒáíóúñÑªº¿®¬½¼¡«»░▒▓│┤ÁÂÀ©╣║╗╝¢¥┐└┴┬├─┼ãÃ╚╔╩╦╠═╬¤ðÐÊËÈıÍ" ++
       "ÎÏ┘┌█▄¦Ì▀ÓßÔÒõÕµþÞÚÛÙýÝ¯´\xAD±‗¾¶§÷¸°¨·¹³²■\xA0"),
    .of ["cp852"] ["cspcp852", "ibm852"]
      ("ÇüéâäůćçłëŐőîŹÄĆÉĹĺôöĽľŚśÖÜŤťŁ×čáíóúĄąŽžĘę¬źČş«»░▒▓│┤ÁÂĚŞ╣║╗╝Żż┐└┴┬├─┼Ăă╚╔╩╦╠═╬¤đĐĎËďŇÍ" ++
       "Îě┘┌█▄ŢŮ▀ÓßÔŃńňŠšŔÚŕŰýÝţ´\xAD˝˛ˇ˘§÷¸°¨˙űŘř■\xA0"),
    .of ["cp855"] ["csibm855", "ibm855"]
      ("ђЂѓЃёЁєЄѕЅіІїЇјЈљЉњЊћЋќЌўЎџЏюЮъЪаАбБцЦдДеЕфФгГ«»░▒▓│┤хХиИ╣║╗╝йЙ┐└┴┬├─┼кК╚╔╩╦╠═╬¤лЛмМнНо" ++
       "Оп┘┌█▄Пя▀ЯрРсСтТуУжЖвВьЬ№\xADыЫзЗшШэЭщЩчЧ§■\xA0"),
    .of ["cp856"] []
      ("\u05D0\u05D1\u05D2\u05D3\u05D4\u05D5\u05D6\u05D7\u05D8\u05D9\u05DA\u05DB\u05DC\u05DD" ++
       "\u05DE\u05DF\u05E0\u05E1\u05E2\u05E3\u05E4\u05E5\u05E6\u05E7\u05E8\u05E9\u05EA £ ×     " ++
       "     ®¬½¼ «»░▒▓│┤   ©╣║╗╝¢¥┐└┴┬├─┼  ╚╔╩╦╠═╬¤         ┘┌█▄¦ ▀      µ       ¯´\xAD±‗¾¶§÷¸" ++
       "°¨·¹³²■\xA0"),
    .of ["cp857"] ["csibm857", "ibm857"]
      ("ÇüéâäàåçêëèïîıÄÅÉæÆôöòûùİÖÜø£ØŞşáíóúñÑĞğ¿®¬½¼¡«»░▒▓│┤ÁÂÀ©╣║╗╝¢¥┐└┴┬├─┼ãÃ╚╔╩╦╠═╬¤ºªÊËÈ Í" ++
       "ÎÏ┘┌█▄¦Ì▀ÓßÔÒõÕµ ×ÚÛÙìÿ¯´\xAD± ¾¶§÷¸°¨·¹³²■\xA0"),
    .of ["cp858"] ["csibm858", "ibm858"]
      ("ÇüéâäàåçêëèïîìÄÅÉæÆôöòûùÿÖÜø£Ø×ƒáíóúñÑªº¿®¬½¼¡«»░▒▓│┤ÁÂÀ©╣║╗╝¢¥┐└┴┬├─┼ãÃ╚╔╩╦╠═╬¤ðÐÊËÈ€Í" ++
       "ÎÏ┘┌█▄¦Ì▀ÓßÔÒõÕµþÞÚÛÙýÝ¯´\xAD±‗¾¶§÷¸°¨·¹³²■\xA0"),
    .of ["cp860"] ["csibm860", "ibm860"]
      ("ÇüéâãàÁçêÊèÍÔìÃÂÉÀÈôõòÚùÌÕÜ¢£Ù₧ÓáíóúñÑªº¿Ò¬½¼¡«»░▒▓│┤╡╢╖╕╣║╗╝╜╛┐└┴┬├─┼╞╟╚╔╩╦╠═╬╧╨╤╥╙╘╒╓" ++
       "╫╪┘┌█▄▌▐▀αßΓπΣσµτΦΘΩδ∞φε∩≡±≥≤⌠⌡÷≈°∙·√ⁿ²■\xA0"),
    .of ["cp861"] ["cp_is", "csibm861", "ibm861"]
      ("ÇüéâäàåçêëèÐðÞÄÅÉæÆôöþûÝýÖÜø£Ø₧ƒáíóúÁÍÓÚ¿⌐¬½¼¡«»░▒▓│┤╡╢╖╕╣║╗╝╜╛┐└┴┬├─┼╞╟╚╔╩╦╠═╬╧╨╤╥╙╘╒╓" ++
       "╫╪┘┌█▄▌▐▀αßΓπΣσµτΦΘΩδ∞φε∩≡±≥≤⌠⌡÷≈°∙·√ⁿ²■\xA0"),
    .of ["cp862"] ["cspc862latinhebrew", "ibm862"]
      ("\u05D0\u05D1\u05D2\u05D3\u05D4\u05D5\u05D6\u05D7\u05D8\u05D9\u05DA\u05DB\u05DC\u05DD" ++
       "\u05DE\u05DF\u05E0\u05E1\u05E2\u05E3\u05E4\u05E5\u05E6\u05E7\u05E8\u05E9\u05EA¢£¥₧ƒáíóú" ++
       "ñÑªº¿⌐¬½¼¡«»░▒▓│┤╡╢╖╕╣║╗╝╜╛┐└┴┬├─┼╞╟╚╔╩╦╠═╬╧╨╤╥╙╘╒╓╫╪┘┌█▄▌▐▀αßΓπΣσµτΦΘΩδ∞φε∩≡±≥≤⌠⌡÷≈°∙·" ++
       "√ⁿ²■\xA0"),
    .of ["cp863"] ["csibm863", "ibm863"]
      ("ÇüéâÂà¶çêëèïî‗À§ÉÈÊôËÏûù¤ÔÜ¢£ÙÛƒ¦´óú¨¸³¯Î⌐¬½¼¾«»░▒▓│┤╡╢╖╕╣║╗╝╜╛┐└┴┬├─┼╞╟╚╔╩╦╠═╬╧╨╤╥╙╘╒╓" ++
       "╫╪┘┌█▄▌▐▀αßΓπΣσµτΦΘΩδ∞φε∩≡±≥≤⌠⌡÷≈°∙·√ⁿ²■\xA0"),
    .of ["cp865"] ["csibm865", "ibm865"]
      ("ÇüéâäàåçêëèïîìÄÅÉæÆôöòûùÿÖÜø£Ø₧ƒáíóúñÑªº¿⌐¬½¼¡«¤░▒▓│┤╡╢╖╕╣║╗╝╜╛┐└┴┬├─┼╞╟╚╔╩╦╠═╬╧╨╤╥╙╘╒╓" ++
       "╫╪┘┌█▄▌▐▀αßΓπΣσµτΦΘΩδ∞φε∩≡±≥≤⌠⌡÷≈°∙·√ⁿ²■\xA0"),
    .of ["cp866"] ["csibm866", "ibm866"]
      ("АБВГДЕЖЗИЙКЛМНОПРСТУФХЦЧШЩЪЫЬЭЮЯабвгдежзийклмноп░▒▓│┤╡╢╖╕╣║╗╝╜╛┐└┴┬├─┼╞╟╚╔╩╦╠═╬╧╨╤╥╙╘╒╓" ++
       "╫╪┘┌█▄▌▐▀рстуфхцчшщъыьэюяЁёЄєЇїЎў°∙·√№¤■\xA0"),
    .of ["cp869"] ["cp_gr", "csibm869", "ibm869"]
      ("      Ά ·¬¦‘’Έ―ΉΊΪΌ  ΎΫ©Ώ²³ά£έήίϊΐόύΑΒΓΔΕΖΗ½ΘΙ«»░▒▓│┤ΚΛΜΝ╣║╗╝ΞΟ┐└┴┬├─┼ΠΡ╚╔╩╦╠═╬ΣΤΥΦΧΨΩα" ++
       "βγ┘┌█▄δε▀ζηθικλμνξοπρσςτ΄\xAD±υφχ§ψ΅°¨ωϋΰώ■\xA0"),
    .of ["cp874"] []
      ("€    …           ‘’“”•–—        \xA0กขฃคฅฆงจฉชซฌญฎฏฐฑฒณดตถทธนบปผฝพฟภมยรฤลฦวศษสหฬอฮฯะ" ++
       "\u0E31าำ\u0E34\u0E35\u0E36\u0E37\u0E38\u0E39\u0E3A    ฿เแโใไๅๆ\u0E47\u0E48\u0E49\u0E4A" ++
       "\u0E4B\u0E4C\u0E4D\u0E4E๏๐๑๒๓๔๕๖๗๘๙๚๛    "),
    .ofIso ["hp_roman8"] ["roman8", "r8", "cp1051", "ibm1051"]
      ("\xA0ÀÂÈÊËÎÏ´ˋˆ¨˜ÙÛ₤¯Ýý°ÇçÑñ¡¿¤£¥§ƒ¢âêôûáéóúàèòùäëöüÅîØÆåíøæÄìÖÜÉïßÔÁÃãÐðÍÌÓÒÕõŠšÚŸÿÞþ·µ" ++
       "¶¾—¼½ªº«■»± "),
    .ofIso ["iso8859_10"]
      ["csisolatin6", "iso_8859_10", "iso_8859_10_1992", "iso_ir_157", "l6", "latin6"]
      ("\xA0ĄĒĢĪĨĶ§ĻĐŠŦŽ\xADŪŊ°ąēģīĩķ·ļđšŧž―ūŋĀÁÂÃÄÅÆĮČÉĘËĖÍÎÏÐŅŌÓÔÕÖŨØŲÚÛÜÝÞßāáâãäåæįčéęëėíîïð" ++
       "ņōóôõöũøųúûüýþĸ"),
    .ofIso ["iso8859_11"] ["thai", "iso_8859_11", "iso_8859_11_2001"]
      ("\xA0กขฃคฅฆงจฉชซฌญฎฏฐฑฒณดตถทธนบปผฝพฟภมยรฤลฦวศษสหฬอฮฯะ\u0E31าำ\u0E34\u0E35\u0E36\u0E37" ++
       "\u0E38\u0E39\u0E3A    ฿เแโใไๅๆ\u0E47\u0E48\u0E49\u0E4A\u0E4B\u0E4C\u0E4D\u0E4E๏๐๑๒๓๔๕๖๗" ++
       "๘๙๚๛    "),
    .ofIso ["iso8859_13"] ["iso_8859_13", "l7", "latin7"]
      ("\xA0”¢£¤„¦§Ø©Ŗ«¬\xAD®Æ°±²³“µ¶·ø¹ŗ»¼½¾æĄĮĀĆÄÅĘĒČÉŹĖĢĶĪĻŠŃŅÓŌÕÖ×ŲŁŚŪÜŻŽßąįāćäåęēčéźėģķīļš" ++
       "ńņóōõö÷ųłśūüżž’"),
    .ofIso ["iso8859_14"]
      ["iso_8859_14", "iso_8859_14_1998", "iso_celtic", "iso_ir_199", "l8", "latin8"]
      ("\xA0Ḃḃ£ĊċḊ§Ẁ©ẂḋỲ\xAD®ŸḞḟĠġṀṁ¶ṖẁṗẃṠỳẄẅṡÀÁÂÃÄÅÆÇÈÉÊËÌÍÎÏŴÑÒÓÔÕÖṪØÙÚÛÜÝŶßàáâãäåæçèéêëìíîïŵ" ++
       "ñòóôõöṫøùúûüýŷÿ"),
    .ofIso ["iso8859_15"] ["iso_8859_15", "l9", "latin9"]
      ("\xA0¡¢£€¥Š§š©ª«¬\xAD®¯°±²³Žµ¶·ž¹º»ŒœŸ¿ÀÁÂÃÄÅÆÇÈÉÊËÌÍÎÏÐÑÒÓÔÕÖ×ØÙÚÛÜÝÞßàáâãäåæçèéêëìíîïð" ++
       "ñòóôõö÷øùúûüýþÿ"),
    .ofIso ["iso8859_16"] ["iso_8859_16", "iso_8859_16_2001", "iso_ir_226", "l10", "latin10"]
      ("\xA0ĄąŁ€„Š§š©Ș«Ź\xADźŻ°±ČłŽ”¶·žčș»ŒœŸżÀÁÂĂÄĆÆÇÈÉÊËÌÍÎÏĐŃÒÓÔŐÖŚŰÙÚÛÜĘȚßàáâăäćæçèéêëìíîïđ" ++
       "ńòóôőöśűùúûüęțÿ"),
    .ofIso ["iso8859_2"]
      ["csisolatin2", "iso_8859_2", "iso_8859_2_1987", "iso_ir_101", "l2", "latin2"]
      ("\xA0Ą˘Ł¤ĽŚ§¨ŠŞŤŹ\xADŽŻ°ą˛ł´ľśˇ¸šşťź˝žżŔÁÂĂÄĹĆÇČÉĘËĚÍÎĎĐŃŇÓÔŐÖ×ŘŮÚŰÜÝŢßŕáâăäĺćçčéęëěíîďđ" ++
       "ńňóôőö÷řůúűüýţ˙"),
    .ofIso ["iso8859_3"]
      ["csisolatin3", "iso_8859_3", "iso_8859_3_1988", "iso_ir_109", "l3", "latin3"]
      ("\xA0Ħ˘£¤ Ĥ§¨İŞĞĴ\xAD Ż°ħ²³´µĥ·¸ışğĵ½ żÀÁÂ ÄĊĈÇÈÉÊËÌÍÎÏ ÑÒÓÔĠÖ×ĜÙÚÛÜŬŜßàáâ äċĉçèéêëìíîï " ++
       "ñòóôġö÷ĝùúûüŭŝ˙"),
    .ofIso ["iso8859_4"]
      ["csisolatin4", "iso_8859_4", "iso_8859_4_1988", "iso_ir_110", "l4", "latin4"]
      ("\xA0ĄĸŖ¤ĨĻ§¨ŠĒĢŦ\xADŽ¯°ą˛ŗ´ĩļˇ¸šēģŧŊžŋĀÁÂÃÄÅÆĮČÉĘËĖÍÎĪĐŅŌĶÔÕÖ×ØŲÚÛÜŨŪßāáâãäåæįčéęëėíîīđ" ++
       "ņōķôõö÷øųúûüũū˙"),
    .ofIso ["iso8859_5"]
      ["csisolatincyrillic", "cyrillic", "iso_8859_5", "iso_8859_5_1988", "iso_ir_144"]
      ("\xA0ЁЂЃЄЅІЇЈЉЊЋЌ\xADЎЏАБВГДЕЖЗИЙКЛМНОПРСТУФХЦЧШЩЪЫЬЭЮЯабвгдежзийклмнопрстуфхцчшщъыьэюя№" ++
       "ёђѓєѕіїјљњћќ§ўџ"),
    .ofIso ["iso8859_6"]
      ["arabic", "asmo_708", "csisolatinarabic", "ecma_114", "iso_8859_6", "iso_8859_6_1987",
       "iso_ir_127"]
      ("\xA0   ¤       ،\xAD             \u061B   \u061F \u0621\u0622\u0623\u0624\u0625\u0626" ++
       "\u0627\u0628\u0629\u062A\u062B\u062C\u062D\u062E\u062F\u0630\u0631\u0632\u0633\u0634" ++
       "\u0635\u0636\u0637\u0638\u0639\u063A     \u0640\u0641\u0642\u0643\u0644\u0645\u0646" ++
       "\u0647\u0648\u0649\u064A\u064B\u064C\u064D\u064E\u064F\u0650\u0651\u0652             "),
    .ofIso ["iso8859_7"]
      ["csisolatingreek", "ecma_118", "elot_928", "greek", "greek8", "iso_8859_7",
       "iso_8859_7_1987", "iso_ir_126"]
      ("\xA0‘’£€₯¦§¨©ͺ«¬\xAD ―°±²³΄΅Ά·ΈΉΊ»Ό½ΎΏΐΑΒΓΔΕΖΗΘΙΚΛΜΝΞΟΠΡ ΣΤΥΦΧΨΩΪΫάέήίΰαβγδεζηθικλμνξοπ" ++
       "ρςστυφχψωϊϋόύώ "),
    .ofIso ["iso8859_8"]
      ["csisolatinhebrew", "hebrew", "iso_8859_8", "iso_8859_8_1988", "iso_ir_138"]
      ("\xA0 ¢£¤¥¦§¨©×«¬\xAD®¯°±²³´µ¶·¸¹÷»¼½¾                                ‗\u05D0\u05D1" ++
       "\u05D2\u05D3\u05D4\u05D5\u05D6\u05D7\u05D8\u05D9\u05DA\u05DB\u05DC\u05DD\u05DE\u05DF" ++
       "\u05E0\u05E1\u05E2\u05E3\u05E4\u05E5\u05E6\u05E7\u05E8\u05E9\u05EA  \u200E\u200F "),
    .ofIso ["iso8859_9"]
      ["csisolatin5", "iso_8859_9", "iso_8859_9_1989", "iso_ir_148", "l5", "latin5"]
      ("\xA0¡¢£¤¥¦§¨©ª«¬\xAD®¯°±²³´µ¶·¸¹º»¼½¾¿ÀÁÂÃÄÅÆÇÈÉÊËÌÍÎÏĞÑÒÓÔÕÖ×ØÙÚÛÜİŞßàáâãäåæçèéêëìíîïğ" ++
       "ñòóôõö÷øùúûüışÿ"),
    .of ["koi8_r"] ["cskoi8r"]
      ("─│┌┐└┘├┤┬┴┼▀▄█▌▐░▒▓⌠■∙√≈≤≥\xA0⌡°²·÷═║╒ё╓╔╕╖╗╘╙╚╛╜╝╞╟╠╡Ё╢╣╤╥╦╧╨╩╪╫╬©юабцдефгхийклмнопярс" ++
       "тужвьызшэщчъЮАБЦДЕФГХИЙКЛМНОПЯРСТУЖВЬЫЗШЭЩЧЪ"),
    .of ["koi8_t"] []
      ("қғ‚Ғ„…†‡ ‰ҳ‹ҲҷҶ Қ‘’“”•–— ™ ›     ӯӮё¤ӣ¦§   «¬\xAD® °±²Ё Ӣ¶· № »   ©юабцдефгхийклмнопярс" ++
       "тужвьызшэщчъЮАБЦДЕФГХИЙКЛМНОПЯРСТУЖВЬЫЗШЭЩЧЪ"),
    .of ["koi8_u"] []
      ("─│┌┐└┘├┤┬┴┼▀▄█▌▐░▒▓⌠■∙√≈≤≥\xA0⌡°²·÷═║╒ёє╔ії╗╘╙╚╛ґ╝╞╟╠╡ЁЄ╣ІЇ╦╧╨╩╪Ґ╬©юабцдефгхийклмнопярс" ++
       "тужвьызшэщчъЮАБЦДЕФГХИЙКЛМНОПЯРСТУЖВЬЫЗШЭЩЧЪ"),
    .of ["kz1048"] ["kz_1048", "rk1048", "strk1048_2002"]
      ("ЂЃ‚ѓ„…†‡€‰Љ‹ЊҚҺЏђ‘’“”•–— ™љ›њқһџ\xA0ҰұӘ¤Ө¦§Ё©Ғ«¬\xAD®Ү°±Ііөµ¶·ё№ғ»әҢңүАБВГДЕЖЗИЙКЛМНОПР" ++
       "СТУФХЦЧШЩЪЫЬЭЮЯабвгдежзийклмнопрстуфхцчшщъыьэюя"),
    .of ["mac_croatian"] []
      ("ÄÅÇÉÑÖÜáàâäãåçéèêëíìîïñóòôöõúùûü†°¢£§•¶ß®Š™´¨≠ŽØ∞±≤≥∆µ∂∑∏š∫ªºΩžø¿¡¬√ƒ≈Ć«Č…\xA0ÀÃÕŒœĐ—“”" ++
       "‘’÷◊\uF8FF©⁄€‹›Æ»–·‚„‰ÂćÁčÈÍÎÏÌÓÔđÒÚÛÙıˆ˜¯πË˚¸Êæˇ"),
    .of ["mac_cyrillic"] ["maccyrillic"]
      ("АБВГДЕЖЗИЙКЛМНОПРСТУФХЦЧШЩЪЫЬЭЮЯ†°Ґ£§•¶І®©™Ђђ≠Ѓѓ∞±≤≥іµґЈЄєЇїЉљЊњјЅ¬√ƒ≈∆«»…\xA0ЋћЌќѕ–—“”" ++
       "‘’÷„ЎўЏџ№Ёёяабвгдежзийклмнопрстуфхцчшщъыьэю€"),
    .of ["mac_greek"] ["macgreek"]
      ("Ä¹²É³ÖÜ΅àâä΄¨çéèêë£™îï•½‰ôö¦€ùûü†ΓΔΘΛΞΠß®©ΣΪ§≠°·Α±≤≥¥ΒΕΖΗΙΚΜΦΫΨΩάΝ¬ΟΡ≈Τ«»…\xA0ΥΧΆΈœ–―“”" ++
       "‘’÷ΉΊΌΎέήίόΏύαβψδεφγηιξκλμνοπώρστθωςχυζϊϋΐΰ\xAD"),
    .of ["mac_iceland"] ["maciceland"]
      ("ÄÅÇÉÑÖÜáàâäãåçéèêëíìîïñóòôöõúùûüÝ°¢£§•¶ß®©™´¨≠ÆØ∞±≤≥¥µ∂∑∏π∫ªºΩæø¿¡¬√ƒ≈∆«»…\xA0ÀÃÕŒœ–—“”" ++
       "‘’÷◊ÿŸ⁄€ÐðÞþý·‚„‰ÂÊÁËÈÍÎÏÌÓÔ\uF8FFÒÚÛÙıˆ˜¯˘˙˚¸˝˛ˇ"),
    .of ["mac_latin2"] ["maccentraleurope", "mac_centeuro", "maclatin2"]
      ("ÄĀāÉĄÖÜáąČäčĆćéŹźĎíďĒēĖóėôöõúĚěü†°Ę£§•¶ß®©™ę¨≠ģĮįĪ≤≥īĶ∂∑łĻļĽľĹĺŅņŃ¬√ńŇ∆«»…\xA0ňŐÕőŌ–—“”" ++
       "‘’÷◊ōŔŕŘ‹›řŖŗŠ‚„šŚśÁŤťÍŽžŪÓÔūŮÚůŰűŲųÝýķŻŁżĢˇ"),
    .of ["mac_roman"] ["macintosh", "macroman"]
      ("ÄÅÇÉÑÖÜáàâäãåçéèêëíìîïñóòôöõúùûü†°¢£§•¶ß®©™´¨≠ÆØ∞±≤≥¥µ∂∑∏π∫ªºΩæø¿¡¬√ƒ≈∆«»…\xA0ÀÃÕŒœ–—“”" ++
       "‘’÷◊ÿŸ⁄€‹›\uFB01\uFB02‡·‚„‰ÂÊÁËÈÍÎÏÌÓÔ\uF8FFÒÚÛÙıˆ˜¯˘˙˚¸˝˛ˇ"),
    .of ["mac_romanian"] []
      ("ÄÅÇÉÑÖÜáàâäãåçéèêëíìîïñóòôöõúùûü†°¢£§•¶ß®©™´¨≠ĂȘ∞±≤≥¥µ∂∑∏π∫ªºΩăș¿¡¬√ƒ≈∆«»…\xA0ÀÃÕŒœ–—“”" ++
       "‘’÷◊ÿŸ⁄€‹›Țț‡·‚„‰ÂÊÁËÈÍÎÏÌÓÔ\uF8FFÒÚÛÙıˆ˜¯˘˙˚¸˝˛ˇ"),
    .of ["mac_turkish"] ["macturkish"]
      ("ÄÅÇÉÑÖÜáàâäãåçéèêëíìîïñóòôöõúùûü†°¢£§•¶ß®©™´¨≠ÆØ∞±≤≥¥µ∂∑∏π∫ªºΩæø¿¡¬√ƒ≈∆«»…\xA0ÀÃÕŒœ–—“”" ++
       "‘’÷◊ÿŸĞğİıŞş‡·‚„‰ÂÊÁËÈÍÎÏÌÓÔ\uF8FFÒÚÛÙ\uF8A0ˆ˜¯˘˙˚¸˝˛ˇ"),
    .of ["palmos"] []
      ("€\x81‚ƒ„…†‡ˆ‰Š‹Œ♦♣♥♠‘’“”•–—˜™š\x9Bœ\x9D\x9EŸ\xA0¡¢£¤¥¦§¨©ª«¬\xAD®¯°±²³´µ¶·¸¹º»¼½¾¿ÀÁÂÃÄ" ++
       "ÅÆÇÈÉÊËÌÍÎÏÐÑÒÓÔÕÖ×ØÙÚÛÜÝÞßàáâãäåæçèéêëìíîïðñòóôõö÷øùúûüýþÿ"),
    .of ["ptcp154"] ["csptcp154", "pt154", "cp154", "cyrillic_asian"]
      ("ҖҒӮғ„…ҶҮҲүҠӢҢҚҺҸҗ‘’“”•–—ҳҷҡӣңқһҹ\xA0ЎўЈӨҘҰ§Ё©Ә«¬ӯ®Ҝ°ұІіҙө¶·ё№ә»јҪҫҝАБВГДЕЖЗИЙКЛМНОПРСТУ" ++
       "ФХЦЧШЩЪЫЬЭЮЯабвгдежзийклмнопрстуфхцчшщъыьэюя"),
    .ofIso ["tis_620"] ["tis620", "tis_620_0", "tis_620_2529_0", "tis_620_2529_1", "iso_ir_166"]
      (" กขฃคฅฆงจฉชซฌญฎฏฐฑฒณดตถทธนบปผฝพฟภมยรฤลฦวศษสหฬอฮฯะ\u0E31าำ\u0E34\u0E35\u0E36\u0E37\u0E38" ++
       "\u0E39\u0E3A    ฿เแโใไๅๆ\u0E47\u0E48\u0E49\u0E4A\u0E4B\u0E4C\u0E4D\u0E4E๏๐๑๒๓๔๕๖๗๘๙๚๛  " ++
       "  ")]

/-- A name is found among names, or among aliases with points or low lines. -/
def isFound (names aliases : List String) (name : Text) : Bool :=
  let pointless := name.map fun c => if c = '.' then '_' else c
  names.any (·.toList = name) ||
    aliases.any fun other => other.toList = name || other.toList = pointless

/-- The code page with a name in lower case. -/
def find? (name : Text) : Option CodePage :=
  all.find? fun page => isFound page.names page.aliases name

/-- The names of encodings that are known and refused: they place ASCII in another way, or they
cannot decode every byte. -/
def refusedNames : List String :=
  ["cp037", "cp1026", "cp1140", "cp273", "cp424", "cp500", "cp864", "cp875", "idna",
     "mac_arabic", "mac_farsi", "punycode", "undefined"]

/-- The other names of these encodings. -/
def refusedAliases : List String :=
  ["csibm037", "ebcdic_cp_ca", "ebcdic_cp_nl", "ebcdic_cp_us", "ebcdic_cp_wt", "ibm037",
     "ibm039", "csibm1026", "ibm1026", "ibm1140", "ibm273", "csibm273", "csibm424", "ebcdic_cp_he",
     "ibm424", "csibm500", "ebcdic_cp_be", "ebcdic_cp_ch", "ibm500", "csibm864", "ibm864"]

/-- The encoding with a name in lower case is known and refused. -/
def isRefused (name : Text) : Bool :=
  isFound refusedNames refusedAliases name

end CodePage
end Markup
end MessageCatalog
