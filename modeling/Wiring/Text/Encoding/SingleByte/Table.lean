import Wiring.Text.Encoding.SingleByte

/-!
The code pages, by name.
-/

namespace Wiring.Encoding.SingleByte

def pages : List (String × SingleByte) :=
  [("cp037", {
      start := 4
      letters := [(4, "\u009c\x09\u0086\x7f\u0097\u008d\u008e\x0b\x0c\x0d\x0e\x0f\x10\x11\x12\x13\u009d\u0085"),
        (22, "\x08\u0087\x18\x19\u0092\u008f\x1c\x1d\x1e\x1f\u0080\u0081\u0082\u0083\u0084\x0a\x17"),
        (39, "\x1b\u0088\u0089\u008a\u008b\u008c\x05\x06\x07\u0090\u0091\x16\u0093\u0094\u0095\u0096"),
        (55, "\x04\u0098\u0099\u009a\u009b\x14\x15\u009e\x1a \u00a0âäàáãåçñ¢.<(+|&éêëèíîïìß!$*);¬-/Â"),
        (99, "ÄÀÁÃÅÇÑ¦,%_>?øÉÊËÈÍÎÏÌ\x60:#@'=\"Øabcdefghi«»ðýþ±°jklmnopqrªºæ¸Æ¤µ~stuvwxyz¡¿ÐÝÞ®^£¥·"),
        (180, "\u00a9§¶¼½¾[]¯¨´×\x7bABCDEFGHI\u00adôöòóõ\x7dJKLMNOPQR¹ûüùúÿ\\÷STUVWXYZ²ÔÖÒÓÕ012345678"),
        (249, "9³ÛÜÙÚ\u009f")] }),
    ("cp1006", {
      start := 161
      letters := [(161, "۰۱۲۳۴۵۶۷۸۹،\u061b\u00ad\u061f\ufe81\ufe8d"),
        (178, "\ufe8e\ufe8f\ufe91\ufb56\ufb58\ufe93\ufe95\ufe97\ufb66\ufb68\ufe99\ufe9b\ufe9d\ufe9f"),
        (192, "\ufb7a\ufb7c\ufea1\ufea3\ufea5\ufea7\ufea9\ufb84\ufeab\ufead\ufb8c\ufeaf\ufb8a\ufeb1"),
        (206, "\ufeb3\ufeb5\ufeb7\ufeb9\ufebb\ufebd\ufebf\ufec1\ufec5\ufec9\ufeca\ufecb\ufecc\ufecd"),
        (220, "\ufece\ufecf\ufed0\ufed1\ufed3\ufed5\ufed7\ufed9\ufedb\ufb92\ufb94\ufedd\ufedf\ufee0"),
        (234, "\ufee1\ufee3\ufb9e\ufee5\ufee7\ufe85\ufeed\ufba6\ufba8\ufba9\ufbaa\ufe80\ufe89\ufe8a"),
        (248, "\ufe8b\ufef1\ufef2\ufef3\ufbb0\ufbae\ufe7c\ufe7d")] }),
    ("cp1026", {
      start := 4
      letters := [(4, "\u009c\x09\u0086\x7f\u0097\u008d\u008e\x0b\x0c\x0d\x0e\x0f\x10\x11\x12\x13\u009d\u0085"),
        (22, "\x08\u0087\x18\x19\u0092\u008f\x1c\x1d\x1e\x1f\u0080\u0081\u0082\u0083\u0084\x0a\x17"),
        (39, "\x1b\u0088\u0089\u008a\u008b\u008c\x05\x06\x07\u0090\u0091\x16\u0093\u0094\u0095\u0096"),
        (55, "\x04\u0098\u0099\u009a\u009b\x14\x15\u009e\x1a \u00a0âäàáãå\x7bñÇ.<(+!&éêëèíîïìßĞİ*);^"),
        (96, "-/ÂÄÀÁÃÅ[Ñş,%_>?øÉÊËÈÍÎÏÌı:ÖŞ'=ÜØabcdefghi«»\x7d\x60¦±°jklmnopqrªºæ¸Æ¤µöstuvwxyz¡¿]$@®"),
        (176, "¢£¥·\u00a9§¶¼½¾¬|¯¨´×çABCDEFGHI\u00adô~òóõğJKLMNOPQR¹û\\ùúÿü÷STUVWXYZ²Ô#ÒÓÕ0123456789³"),
        (251, "Û\"ÙÚ\u009f")] }),
    ("cp1125", {
      start := 128
      letters := [(128, "АБВГДЕЖЗИЙКЛМНОПРСТУФХЦЧШЩЪЫЬЭЮЯабвгдежзийклмноп░▒▓│┤╡╢╖╕╣║╗╝╜╛┐└┴┬├─┼╞╟╚╔╩╦╠═╬╧╨╤╥╙╘╒"),
        (214, "╓╫╪┘┌█▄▌▐▀рстуфхцчшщъыьэюяЁёҐґЄєІіЇї·√№¤■\u00a0")] }),
    ("cp1140", {
      start := 4
      letters := [(4, "\u009c\x09\u0086\x7f\u0097\u008d\u008e\x0b\x0c\x0d\x0e\x0f\x10\x11\x12\x13\u009d\u0085"),
        (22, "\x08\u0087\x18\x19\u0092\u008f\x1c\x1d\x1e\x1f\u0080\u0081\u0082\u0083\u0084\x0a\x17"),
        (39, "\x1b\u0088\u0089\u008a\u008b\u008c\x05\x06\x07\u0090\u0091\x16\u0093\u0094\u0095\u0096"),
        (55, "\x04\u0098\u0099\u009a\u009b\x14\x15\u009e\x1a \u00a0âäàáãåçñ¢.<(+|&éêëèíîïìß!$*);¬-/Â"),
        (99, "ÄÀÁÃÅÇÑ¦,%_>?øÉÊËÈÍÎÏÌ\x60:#@'=\"Øabcdefghi«»ðýþ±°jklmnopqrªºæ¸Æ€µ~stuvwxyz¡¿ÐÝÞ®^£¥·"),
        (180, "\u00a9§¶¼½¾[]¯¨´×\x7bABCDEFGHI\u00adôöòóõ\x7dJKLMNOPQR¹ûüùúÿ\\÷STUVWXYZ²ÔÖÒÓÕ012345678"),
        (249, "9³ÛÜÙÚ\u009f")] }),
    ("cp1250", {
      start := 128
      letters := [(128, "€"),
        (130, "‚"),
        (132, "„…†‡"),
        (137, "‰Š‹ŚŤŽŹ"),
        (145, "‘’“”•–—"),
        (153, "™š›śťžź\u00a0ˇ˘Ł¤Ą¦§¨\u00a9Ş«¬\u00ad®Ż°±˛ł´µ¶·¸ąş»Ľ˝ľżŔÁÂĂÄĹĆÇČÉĘËĚÍÎĎĐŃŇÓÔŐÖ×ŘŮÚŰÜÝŢß"),
        (224, "ŕáâăäĺćçčéęëěíîďđńňóôőö÷řůúűüýţ˙")] }),
    ("cp1251", {
      start := 128
      letters := [(128, "ЂЃ‚ѓ„…†‡€‰Љ‹ЊЌЋЏђ‘’“”•–—"),
        (153, "™љ›њќћџ\u00a0ЎўЈ¤Ґ¦§Ё\u00a9Є«¬\u00ad®Ї°±Ііґµ¶·ё№є»јЅѕїАБВГДЕЖЗИЙКЛМНОПРСТУФХЦЧШЩЪЫЬЭЮЯ"),
        (224, "абвгдежзийклмнопрстуфхцчшщъыьэюя")] }),
    ("cp1252", {
      start := 128
      letters := [(128, "€"),
        (130, "‚ƒ„…†‡ˆ‰Š‹Œ"),
        (142, "Ž"),
        (145, "‘’“”•–—˜™š›œ"),
        (158, "žŸ\u00a0¡¢£¤¥¦§¨\u00a9ª«¬\u00ad®¯°±²³´µ¶·¸¹º»¼½¾¿ÀÁÂÃÄÅÆÇÈÉÊËÌÍÎÏÐÑÒÓÔÕÖ×ØÙÚÛÜÝÞßàáâãä"),
        (229, "åæçèéêëìíîïðñòóôõö÷øùúûüýþÿ")] }),
    ("cp1253", {
      start := 128
      letters := [(128, "€"),
        (130, "‚ƒ„…†‡"),
        (137, "‰"),
        (139, "‹"),
        (145, "‘’“”•–—"),
        (153, "™"),
        (155, "›"),
        (160, "\u00a0΅Ά£¤¥¦§¨\u00a9"),
        (171, "«¬\u00ad®―°±²³΄µ¶·ΈΉΊ»Ό½ΎΏΐΑΒΓΔΕΖΗΘΙΚΛΜΝΞΟΠΡ"),
        (211, "ΣΤΥΦΧΨΩΪΫάέήίΰαβγδεζηθικλμνξοπρςστυφχψωϊϋόύώ")] }),
    ("cp1254", {
      start := 128
      letters := [(128, "€"),
        (130, "‚ƒ„…†‡ˆ‰Š‹Œ"),
        (145, "‘’“”•–—˜™š›œ"),
        (159, "Ÿ\u00a0¡¢£¤¥¦§¨\u00a9ª«¬\u00ad®¯°±²³´µ¶·¸¹º»¼½¾¿ÀÁÂÃÄÅÆÇÈÉÊËÌÍÎÏĞÑÒÓÔÕÖ×ØÙÚÛÜİŞßàáâãäå"),
        (230, "æçèéêëìíîïğñòóôõö÷øùúûüışÿ")] }),
    ("cp1255", {
      start := 128
      letters := [(128, "€"),
        (130, "‚ƒ„…†‡ˆ‰"),
        (139, "‹"),
        (145, "‘’“”•–—˜™"),
        (155, "›"),
        (160, "\u00a0¡¢£₪¥¦§¨\u00a9×«¬\u00ad®¯°±²³´µ¶·¸¹÷»¼½¾¿\u05b0\u05b1\u05b2\u05b3\u05b4\u05b5"),
        (198, "\u05b6\u05b7\u05b8\u05b9"),
        (203, "\u05bb\u05bc\u05bd\u05be\u05bf\u05c0\u05c1\u05c2\u05c3\u05f0\u05f1\u05f2\u05f3\u05f4"),
        (224, "\u05d0\u05d1\u05d2\u05d3\u05d4\u05d5\u05d6\u05d7\u05d8\u05d9\u05da\u05db\u05dc\u05dd"),
        (238, "\u05de\u05df\u05e0\u05e1\u05e2\u05e3\u05e4\u05e5\u05e6\u05e7\u05e8\u05e9\u05ea"),
        (253, "\u200e\u200f")] }),
    ("cp1256", {
      start := 128
      letters := [(128, "€\u067e‚ƒ„…†‡ˆ‰\u0679‹Œ\u0686\u0698\u0688\u06af‘’“”•–—\u06a9™\u0691›œ\u200c\u200d"),
        (159, "\u06ba\u00a0،¢£¤¥¦§¨\u00a9\u06be«¬\u00ad®¯°±²³´µ¶·¸¹\u061b»¼½¾\u061f\u06c1\u0621\u0622"),
        (195, "\u0623\u0624\u0625\u0626\u0627\u0628\u0629\u062a\u062b\u062c\u062d\u062e\u062f\u0630"),
        (209, "\u0631\u0632\u0633\u0634\u0635\u0636×\u0637\u0638\u0639\u063a\u0640\u0641\u0642\u0643à"),
        (225, "\u0644â\u0645\u0646\u0647\u0648çèéêë\u0649\u064aîï\u064b\u064c\u064d\u064eô\u064f"),
        (246, "\u0650÷\u0651ù\u0652ûü\u200e\u200f\u06d2")] }),
    ("cp1257", {
      start := 128
      letters := [(128, "€"),
        (130, "‚"),
        (132, "„…†‡"),
        (137, "‰"),
        (139, "‹"),
        (141, "¨ˇ¸"),
        (145, "‘’“”•–—"),
        (153, "™"),
        (155, "›"),
        (157, "¯˛"),
        (160, "\u00a0"),
        (162, "¢£¤"),
        (166, "¦§Ø\u00a9Ŗ«¬\u00ad®Æ°±²³´µ¶·ø¹ŗ»¼½¾æĄĮĀĆÄÅĘĒČÉŹĖĢĶĪĻŠŃŅÓŌÕÖ×ŲŁŚŪÜŻŽßąįāćäåęēčéźėģķīļšń"),
        (242, "ņóōõö÷ųłśūüżž˙")] }),
    ("cp1258", {
      start := 128
      letters := [(128, "€"),
        (130, "‚ƒ„…†‡ˆ‰"),
        (139, "‹Œ"),
        (145, "‘’“”•–—˜™"),
        (155, "›œ"),
        (159, "Ÿ\u00a0¡¢£¤¥¦§¨\u00a9ª«¬\u00ad®¯°±²³´µ¶·¸¹º»¼½¾¿ÀÁÂĂÄÅÆÇÈÉÊË\u0300ÍÎÏĐÑ\u0309ÓÔƠÖ×ØÙÚÛ"),
        (220, "ÜƯ\u0303ßàáâăäåæçèéêë\u0301íîïđñ\u0323óôơö÷øùúûüư₫ÿ")] }),
    ("cp273", {
      start := 4
      letters := [(4, "\u009c\x09\u0086\x7f\u0097\u008d\u008e\x0b\x0c\x0d\x0e\x0f\x10\x11\x12\x13\u009d\u0085"),
        (22, "\x08\u0087\x18\x19\u0092\u008f\x1c\x1d\x1e\x1f\u0080\u0081\u0082\u0083\u0084\x0a\x17"),
        (39, "\x1b\u0088\u0089\u008a\u008b\u008c\x05\x06\x07\u0090\u0091\x16\u0093\u0094\u0095\u0096"),
        (55, "\x04\u0098\u0099\u009a\u009b\x14\x15\u009e\x1a \u00a0â\x7bàáãåçñÄ.<(+!&éêëèíîïì~Ü$*);^"),
        (96, "-/Â[ÀÁÃÅÇÑö,%_>?øÉÊËÈÍÎÏÌ\x60:#§'=\"Øabcdefghi«»ðýþ±°jklmnopqrªºæ¸Æ¤µßstuvwxyz¡¿ÐÝÞ®¢£"),
        (178, "¥·\u00a9@¶¼½¾¬|‾¨´×äABCDEFGHI\u00adô¦òóõüJKLMNOPQR¹û\x7dùúÿÖ÷STUVWXYZ²Ô\\ÒÓÕ0123456789"),
        (250, "³Û]ÙÚ\u009f")] }),
    ("cp424", {
      start := 4
      letters := [(4, "\u009c\x09\u0086\x7f\u0097\u008d\u008e\x0b\x0c\x0d\x0e\x0f\x10\x11\x12\x13\u009d\u0085"),
        (22, "\x08\u0087\x18\x19\u0092\u008f\x1c\x1d\x1e\x1f\u0080\u0081\u0082\u0083\u0084\x0a\x17"),
        (39, "\x1b\u0088\u0089\u008a\u008b\u008c\x05\x06\x07\u0090\u0091\x16\u0093\u0094\u0095\u0096"),
        (55, "\x04\u0098\u0099\u009a\u009b\x14\x15\u009e\x1a \u05d0\u05d1\u05d2\u05d3\u05d4\u05d5"),
        (71, "\u05d6\u05d7\u05d8¢.<(+|&\u05d9\u05da\u05db\u05dc\u05dd\u05de\u05df\u05e0\u05e1!$*);¬-"),
        (97, "/\u05e2\u05e3\u05e4\u05e5\u05e6\u05e7\u05e8\u05e9¦,%_>?"),
        (113, "\u05ea"),
        (116, "\u00a0"),
        (120, "‗\x60:#@'=\""),
        (129, "abcdefghi«»"),
        (143, "±°jklmnopqr"),
        (157, "¸"),
        (159, "¤µ~stuvwxyz"),
        (175, "®^£¥·\u00a9§¶¼½¾[]¯¨´×\x7bABCDEFGHI\u00ad"),
        (208, "\x7dJKLMNOPQR¹"),
        (224, "\\÷STUVWXYZ²"),
        (240, "0123456789³"),
        (255, "\u009f")] }),
    ("cp437", {
      start := 128
      letters := [(128, "ÇüéâäàåçêëèïîìÄÅÉæÆôöòûùÿÖÜ¢£¥₧ƒáíóúñÑªº¿⌐¬½¼¡«»░▒▓│┤╡╢╖╕╣║╗╝╜╛┐└┴┬├─┼╞╟╚╔╩╦╠═╬╧╨╤╥╙╘╒"),
        (214, "╓╫╪┘┌█▄▌▐▀αßΓπΣσµτΦΘΩδ∞φε∩≡±≥≤⌠⌡÷≈°∙·√ⁿ²■\u00a0")] }),
    ("cp500", {
      start := 4
      letters := [(4, "\u009c\x09\u0086\x7f\u0097\u008d\u008e\x0b\x0c\x0d\x0e\x0f\x10\x11\x12\x13\u009d\u0085"),
        (22, "\x08\u0087\x18\x19\u0092\u008f\x1c\x1d\x1e\x1f\u0080\u0081\u0082\u0083\u0084\x0a\x17"),
        (39, "\x1b\u0088\u0089\u008a\u008b\u008c\x05\x06\x07\u0090\u0091\x16\u0093\u0094\u0095\u0096"),
        (55, "\x04\u0098\u0099\u009a\u009b\x14\x15\u009e\x1a \u00a0âäàáãåçñ[.<(+!&éêëèíîïìß]$*);^-/Â"),
        (99, "ÄÀÁÃÅÇÑ¦,%_>?øÉÊËÈÍÎÏÌ\x60:#@'=\"Øabcdefghi«»ðýþ±°jklmnopqrªºæ¸Æ¤µ~stuvwxyz¡¿ÐÝÞ®¢£¥·"),
        (180, "\u00a9§¶¼½¾¬|¯¨´×\x7bABCDEFGHI\u00adôöòóõ\x7dJKLMNOPQR¹ûüùúÿ\\÷STUVWXYZ²ÔÖÒÓÕ012345678"),
        (249, "9³ÛÜÙÚ\u009f")] }),
    ("cp720", {
      start := 130
      letters := [(130, "éâ\u0084à\u0086çêëèïî\u008d\u008e\u008f\u0090\u0651\u0652ô¤\u0640ûù\u0621\u0622\u0623"),
        (155, "\u0624£\u0625\u0626\u0627\u0628\u0629\u062a\u062b\u062c\u062d\u062e\u062f\u0630\u0631"),
        (170, "\u0632\u0633\u0634\u0635«»░▒▓│┤╡╢╖╕╣║╗╝╜╛┐└┴┬├─┼╞╟╚╔╩╦╠═╬╧╨╤╥╙╘╒╓╫╪┘┌█▄▌▐▀\u0636\u0637"),
        (226, "\u0638\u0639\u063a\u0641µ\u0642\u0643\u0644\u0645\u0646\u0647\u0648\u0649\u064a≡\u064b"),
        (242, "\u064c\u064d\u064e\u064f\u0650≈°∙·√ⁿ²■\u00a0")] }),
    ("cp737", {
      start := 128
      letters := [(128, "ΑΒΓΔΕΖΗΘΙΚΛΜΝΞΟΠΡΣΤΥΦΧΨΩαβγδεζηθικλμνξοπρσςτυφχψ░▒▓│┤╡╢╖╕╣║╗╝╜╛┐└┴┬├─┼╞╟╚╔╩╦╠═╬╧╨╤╥╙╘╒"),
        (214, "╓╫╪┘┌█▄▌▐▀ωάέήϊίόύϋώΆΈΉΊΌΎΏ±≥≤ΪΫ÷≈°∙·√ⁿ²■\u00a0")] }),
    ("cp775", {
      start := 128
      letters := [(128, "ĆüéāäģåćłēŖŗīŹÄÅÉæÆōöĢ¢ŚśÖÜø£Ø×¤ĀĪóŻżź”¦\u00a9®¬½¼Ł«»░▒▓│┤ĄČĘĖ╣║╗╝ĮŠ┐└┴┬├─┼ŲŪ╚╔╩╦╠═╬Žą"),
        (209, "čęėįšųūž┘┌█▄▌▐▀ÓßŌŃõÕµńĶķĻļņĒŅ’\u00ad±“¾¶§÷„°∙·¹³²■\u00a0")] }),
    ("cp850", {
      start := 128
      letters := [(128, "ÇüéâäàåçêëèïîìÄÅÉæÆôöòûùÿÖÜø£Ø×ƒáíóúñÑªº¿®¬½¼¡«»░▒▓│┤ÁÂÀ\u00a9╣║╗╝¢¥┐└┴┬├─┼ãÃ╚╔╩╦╠═╬¤ð"),
        (209, "ÐÊËÈıÍÎÏ┘┌█▄¦Ì▀ÓßÔÒõÕµþÞÚÛÙýÝ¯´\u00ad±‗¾¶§÷¸°¨·¹³²■\u00a0")] }),
    ("cp852", {
      start := 128
      letters := [(128, "ÇüéâäůćçłëŐőîŹÄĆÉĹĺôöĽľŚśÖÜŤťŁ×čáíóúĄąŽžĘę¬źČş«»░▒▓│┤ÁÂĚŞ╣║╗╝Żż┐└┴┬├─┼Ăă╚╔╩╦╠═╬¤đĐĎËďŇ"),
        (214, "ÍÎě┘┌█▄ŢŮ▀ÓßÔŃńňŠšŔÚŕŰýÝţ´\u00ad˝˛ˇ˘§÷¸°¨˙űŘř■\u00a0")] }),
    ("cp855", {
      start := 128
      letters := [(128, "ђЂѓЃёЁєЄѕЅіІїЇјЈљЉњЊћЋќЌўЎџЏюЮъЪаАбБцЦдДеЕфФгГ«»░▒▓│┤хХиИ╣║╗╝йЙ┐└┴┬├─┼кК╚╔╩╦╠═╬¤лЛмМнН"),
        (214, "оОп┘┌█▄Пя▀ЯрРсСтТуУжЖвВьЬ№\u00adыЫзЗшШэЭщЩчЧ§■\u00a0")] }),
    ("cp856", {
      start := 128
      letters := [(128, "\u05d0\u05d1\u05d2\u05d3\u05d4\u05d5\u05d6\u05d7\u05d8\u05d9\u05da\u05db\u05dc\u05dd"),
        (142, "\u05de\u05df\u05e0\u05e1\u05e2\u05e3\u05e4\u05e5\u05e6\u05e7\u05e8\u05e9\u05ea"),
        (156, "£"),
        (158, "×"),
        (169, "®¬½¼"),
        (174, "«»░▒▓│┤"),
        (184, "\u00a9╣║╗╝¢¥┐└┴┬├─┼"),
        (200, "╚╔╩╦╠═╬¤"),
        (217, "┘┌█▄¦"),
        (223, "▀"),
        (230, "µ"),
        (238, "¯´\u00ad±‗¾¶§÷¸°¨·¹³²■\u00a0")] }),
    ("cp857", {
      start := 128
      letters := [(128, "ÇüéâäàåçêëèïîıÄÅÉæÆôöòûùİÖÜø£ØŞşáíóúñÑĞğ¿®¬½¼¡«»░▒▓│┤ÁÂÀ\u00a9╣║╗╝¢¥┐└┴┬├─┼ãÃ╚╔╩╦╠═╬¤º"),
        (209, "ªÊËÈ"),
        (214, "ÍÎÏ┘┌█▄¦Ì▀ÓßÔÒõÕµ"),
        (232, "×ÚÛÙìÿ¯´\u00ad±"),
        (243, "¾¶§÷¸°¨·¹³²■\u00a0")] }),
    ("cp858", {
      start := 128
      letters := [(128, "ÇüéâäàåçêëèïîìÄÅÉæÆôöòûùÿÖÜø£Ø×ƒáíóúñÑªº¿®¬½¼¡«»░▒▓│┤ÁÂÀ\u00a9╣║╗╝¢¥┐└┴┬├─┼ãÃ╚╔╩╦╠═╬¤ð"),
        (209, "ÐÊËÈ€ÍÎÏ┘┌█▄¦Ì▀ÓßÔÒõÕµþÞÚÛÙýÝ¯´\u00ad±‗¾¶§÷¸°¨·¹³²■\u00a0")] }),
    ("cp860", {
      start := 128
      letters := [(128, "ÇüéâãàÁçêÊèÍÔìÃÂÉÀÈôõòÚùÌÕÜ¢£Ù₧ÓáíóúñÑªº¿Ò¬½¼¡«»░▒▓│┤╡╢╖╕╣║╗╝╜╛┐└┴┬├─┼╞╟╚╔╩╦╠═╬╧╨╤╥╙╘╒"),
        (214, "╓╫╪┘┌█▄▌▐▀αßΓπΣσµτΦΘΩδ∞φε∩≡±≥≤⌠⌡÷≈°∙·√ⁿ²■\u00a0")] }),
    ("cp861", {
      start := 128
      letters := [(128, "ÇüéâäàåçêëèÐðÞÄÅÉæÆôöþûÝýÖÜø£Ø₧ƒáíóúÁÍÓÚ¿⌐¬½¼¡«»░▒▓│┤╡╢╖╕╣║╗╝╜╛┐└┴┬├─┼╞╟╚╔╩╦╠═╬╧╨╤╥╙╘╒"),
        (214, "╓╫╪┘┌█▄▌▐▀αßΓπΣσµτΦΘΩδ∞φε∩≡±≥≤⌠⌡÷≈°∙·√ⁿ²■\u00a0")] }),
    ("cp862", {
      start := 128
      letters := [(128, "\u05d0\u05d1\u05d2\u05d3\u05d4\u05d5\u05d6\u05d7\u05d8\u05d9\u05da\u05db\u05dc\u05dd"),
        (142, "\u05de\u05df\u05e0\u05e1\u05e2\u05e3\u05e4\u05e5\u05e6\u05e7\u05e8\u05e9\u05ea¢£¥₧ƒáíó"),
        (163, "úñÑªº¿⌐¬½¼¡«»░▒▓│┤╡╢╖╕╣║╗╝╜╛┐└┴┬├─┼╞╟╚╔╩╦╠═╬╧╨╤╥╙╘╒╓╫╪┘┌█▄▌▐▀αßΓπΣσµτΦΘΩδ∞φε∩≡±≥≤⌠⌡÷≈°"),
        (249, "∙·√ⁿ²■\u00a0")] }),
    ("cp863", {
      start := 128
      letters := [(128, "ÇüéâÂà¶çêëèïî‗À§ÉÈÊôËÏûù¤ÔÜ¢£ÙÛƒ¦´óú¨¸³¯Î⌐¬½¼¾«»░▒▓│┤╡╢╖╕╣║╗╝╜╛┐└┴┬├─┼╞╟╚╔╩╦╠═╬╧╨╤╥╙╘╒"),
        (214, "╓╫╪┘┌█▄▌▐▀αßΓπΣσµτΦΘΩδ∞φε∩≡±≥≤⌠⌡÷≈°∙·√ⁿ²■\u00a0")] }),
    ("cp864", {
      start := 37
      letters := [(37, "٪&'()*+,-./0123456789:;<=>?@ABCDEFGHIJKLMNOPQRSTUVWXYZ[\\]^_\x60abcdefghijklmnopqrstuv"),
        (119, "wxyz\x7b|\x7d~\x7f°·∙√▒─│┼┤┬├┴┐┌└┘β∞φ±½¼≈«»\ufef7\ufef8"),
        (157, "\ufefb\ufefc"),
        (160, "\u00a0\u00ad\ufe82£¤\ufe84"),
        (168, "\ufe8e\ufe8f\ufe95\ufe99،\ufe9d\ufea1\ufea5\u0660\u0661\u0662\u0663\u0664\u0665\u0666"),
        (183, "\u0667\u0668\u0669\ufed1\u061b\ufeb1\ufeb5\ufeb9\u061f¢\ufe80\ufe81\ufe83\ufe85\ufeca"),
        (198, "\ufe8b\ufe8d\ufe91\ufe93\ufe97\ufe9b\ufe9f\ufea3\ufea7\ufea9\ufeab\ufead\ufeaf\ufeb3"),
        (212, "\ufeb7\ufebb\ufebf\ufec1\ufec5\ufecb\ufecf¦¬÷×\ufec9\u0640\ufed3\ufed7\ufedb\ufedf"),
        (229, "\ufee3\ufee7\ufeeb\ufeed\ufeef\ufef3\ufebd\ufecc\ufece\ufecd\ufee1\ufe7d\u0651\ufee5"),
        (243, "\ufee9\ufeec\ufef0\ufef2\ufed0\ufed5\ufef5\ufef6\ufedd\ufed9\ufef1■")] }),
    ("cp865", {
      start := 128
      letters := [(128, "ÇüéâäàåçêëèïîìÄÅÉæÆôöòûùÿÖÜø£Ø₧ƒáíóúñÑªº¿⌐¬½¼¡«¤░▒▓│┤╡╢╖╕╣║╗╝╜╛┐└┴┬├─┼╞╟╚╔╩╦╠═╬╧╨╤╥╙╘╒"),
        (214, "╓╫╪┘┌█▄▌▐▀αßΓπΣσµτΦΘΩδ∞φε∩≡±≥≤⌠⌡÷≈°∙·√ⁿ²■\u00a0")] }),
    ("cp866", {
      start := 128
      letters := [(128, "АБВГДЕЖЗИЙКЛМНОПРСТУФХЦЧШЩЪЫЬЭЮЯабвгдежзийклмноп░▒▓│┤╡╢╖╕╣║╗╝╜╛┐└┴┬├─┼╞╟╚╔╩╦╠═╬╧╨╤╥╙╘╒"),
        (214, "╓╫╪┘┌█▄▌▐▀рстуфхцчшщъыьэюяЁёЄєЇїЎў°∙·√№¤■\u00a0")] }),
    ("cp869", {
      start := 128
      letters := [(134, "Ά"),
        (136, "·¬¦‘’Έ―ΉΊΪΌ"),
        (149, "ΎΫ\u00a9Ώ²³ά£έήίϊΐόύΑΒΓΔΕΖΗ½ΘΙ«»░▒▓│┤ΚΛΜΝ╣║╗╝ΞΟ┐└┴┬├─┼ΠΡ╚╔╩╦╠═╬ΣΤΥΦΧΨΩαβγ┘┌█▄δε▀ζηθικλ"),
        (230, "μνξοπρσςτ΄\u00ad±υφχ§ψ΅°¨ωϋΰώ■\u00a0")] }),
    ("cp874", {
      start := 128
      letters := [(128, "€"),
        (133, "…"),
        (145, "‘’“”•–—"),
        (160, "\u00a0กขฃคฅฆงจฉชซฌญฎฏฐฑฒณดตถทธนบปผฝพฟภมยรฤลฦวศษสหฬอฮฯะ\u0e31าำ\u0e34\u0e35\u0e36\u0e37"),
        (216, "\u0e38\u0e39\u0e3a"),
        (223, "฿เแโใไๅๆ\u0e47\u0e48\u0e49\u0e4a\u0e4b\u0e4c\u0e4d\u0e4e๏๐๑๒๓๔๕๖๗๘๙๚๛")] }),
    ("cp875", {
      start := 4
      letters := [(4, "\u009c\x09\u0086\x7f\u0097\u008d\u008e\x0b\x0c\x0d\x0e\x0f\x10\x11\x12\x13\u009d\u0085"),
        (22, "\x08\u0087\x18\x19\u0092\u008f\x1c\x1d\x1e\x1f\u0080\u0081\u0082\u0083\u0084\x0a\x17"),
        (39, "\x1b\u0088\u0089\u008a\u008b\u008c\x05\x06\x07\u0090\u0091\x16\u0093\u0094\u0095\u0096"),
        (55, "\x04\u0098\u0099\u009a\u009b\x14\x15\u009e"),
        (64, " ΑΒΓΔΕΖΗΘΙ[.<(+!&ΚΛΜΝΞΟΠΡΣ]$*);^-/ΤΥΦΧΨΩΪΫ|,%_>?¨ΆΈΉ\u00a0ΊΌΎΏ\x60:#@'=\"΅abcdefghiαβγ"),
        (141, "δεζ°jklmnopqrηθικλμ´~stuvwxyzνξοπρσ£άέήϊίόύϋώςτυφχψ\x7bABCDEFGHI\u00adωΐΰ‘―\x7dJKLMNOP"),
        (216, "QR±½"),
        (221, "·’¦\\"),
        (226, "STUVWXYZ²§"),
        (238, "«¬0123456789³\u00a9"),
        (253, "\x1a»\u009f")] }),
    ("hp_roman8", {
      start := 161
      letters := [(161, "ÀÂÈÊËÎÏ´ˋˆ¨˜ÙÛ₤¯Ýý°ÇçÑñ¡¿¤£¥§ƒ¢âêôûáéóúàèòùäëöüÅîØÆåíøæÄìÖÜÉïßÔÁÃãÐðÍÌÓÒÕõŠšÚŸÿÞþ·µ¶¾—"),
        (247, "¼½ªº«■»±")] }),
    ("iso8859_10", {
      start := 161
      letters := [(161, "ĄĒĢĪĨĶ§ĻĐŠŦŽ\u00adŪŊ°ąēģīĩķ·ļđšŧž―ūŋĀÁÂÃÄÅÆĮČÉĘËĖÍÎÏÐŅŌÓÔÕÖŨØŲÚÛÜÝÞßāáâãäåæįčéęëėíîïðņ"),
        (242, "ōóôõöũøųúûüýþĸ")] }),
    ("iso8859_11", {
      start := 161
      letters := [(161, "กขฃคฅฆงจฉชซฌญฎฏฐฑฒณดตถทธนบปผฝพฟภมยรฤลฦวศษสหฬอฮฯะ\u0e31าำ\u0e34\u0e35\u0e36\u0e37\u0e38"),
        (217, "\u0e39\u0e3a"),
        (223, "฿เแโใไๅๆ\u0e47\u0e48\u0e49\u0e4a\u0e4b\u0e4c\u0e4d\u0e4e๏๐๑๒๓๔๕๖๗๘๙๚๛")] }),
    ("iso8859_13", {
      start := 161
      letters := [(161, "”¢£¤„¦§Ø\u00a9Ŗ«¬\u00ad®Æ°±²³“µ¶·ø¹ŗ»¼½¾æĄĮĀĆÄÅĘĒČÉŹĖĢĶĪĻŠŃŅÓŌÕÖ×ŲŁŚŪÜŻŽßąįāćäåęēčéźėģ"),
        (237, "ķīļšńņóōõö÷ųłśūüżž’")] }),
    ("iso8859_14", {
      start := 161
      letters := [(161, "Ḃḃ£ĊċḊ§Ẁ\u00a9ẂḋỲ\u00ad®ŸḞḟĠġṀṁ¶ṖẁṗẃṠỳẄẅṡÀÁÂÃÄÅÆÇÈÉÊËÌÍÎÏŴÑÒÓÔÕÖṪØÙÚÛÜÝŶßàáâãäåæçèéêëì"),
        (237, "íîïŵñòóôõöṫøùúûüýŷÿ")] }),
    ("iso8859_15", {
      start := 164
      letters := [(164, "€¥Š§š\u00a9ª«¬\u00ad®¯°±²³Žµ¶·ž¹º»ŒœŸ¿ÀÁÂÃÄÅÆÇÈÉÊËÌÍÎÏÐÑÒÓÔÕÖ×ØÙÚÛÜÝÞßàáâãäåæçèéêëìíîï"),
        (240, "ðñòóôõö÷øùúûüýþÿ")] }),
    ("iso8859_16", {
      start := 161
      letters := [(161, "ĄąŁ€„Š§š\u00a9Ș«Ź\u00adźŻ°±ČłŽ”¶·žčș»ŒœŸżÀÁÂĂÄĆÆÇÈÉÊËÌÍÎÏĐŃÒÓÔŐÖŚŰÙÚÛÜĘȚßàáâăäćæçèéêëì"),
        (237, "íîïđńòóôőöśűùúûüęțÿ")] }),
    ("iso8859_2", {
      start := 161
      letters := [(161, "Ą˘Ł¤ĽŚ§¨ŠŞŤŹ\u00adŽŻ°ą˛ł´ľśˇ¸šşťź˝žżŔÁÂĂÄĹĆÇČÉĘËĚÍÎĎĐŃŇÓÔŐÖ×ŘŮÚŰÜÝŢßŕáâăäĺćçčéęëěíîďđń"),
        (242, "ňóôőö÷řůúűüýţ˙")] }),
    ("iso8859_3", {
      start := 161
      letters := [(161, "Ħ˘£¤"),
        (166, "Ĥ§¨İŞĞĴ\u00ad"),
        (175, "Ż°ħ²³´µĥ·¸ışğĵ½"),
        (191, "żÀÁÂ"),
        (196, "ÄĊĈÇÈÉÊËÌÍÎÏ"),
        (209, "ÑÒÓÔĠÖ×ĜÙÚÛÜŬŜßàáâ"),
        (228, "äċĉçèéêëìíîï"),
        (241, "ñòóôġö÷ĝùúûüŭŝ˙")] }),
    ("iso8859_4", {
      start := 161
      letters := [(161, "ĄĸŖ¤ĨĻ§¨ŠĒĢŦ\u00adŽ¯°ą˛ŗ´ĩļˇ¸šēģŧŊžŋĀÁÂÃÄÅÆĮČÉĘËĖÍÎĪĐŅŌĶÔÕÖ×ØŲÚÛÜŨŪßāáâãäåæįčéęëėíîīđņ"),
        (242, "ōķôõö÷øųúûüũū˙")] }),
    ("iso8859_5", {
      start := 161
      letters := [(161, "ЁЂЃЄЅІЇЈЉЊЋЌ\u00adЎЏАБВГДЕЖЗИЙКЛМНОПРСТУФХЦЧШЩЪЫЬЭЮЯабвгдежзийклмнопрстуфхцчшщъыьэюя№ё"),
        (242, "ђѓєѕіїјљњћќ§ўџ")] }),
    ("iso8859_6", {
      start := 161
      letters := [(164, "¤"),
        (172, "،\u00ad"),
        (187, "\u061b"),
        (191, "\u061f"),
        (193, "\u0621\u0622\u0623\u0624\u0625\u0626\u0627\u0628\u0629\u062a\u062b\u062c\u062d\u062e"),
        (207, "\u062f\u0630\u0631\u0632\u0633\u0634\u0635\u0636\u0637\u0638\u0639\u063a"),
        (224, "\u0640\u0641\u0642\u0643\u0644\u0645\u0646\u0647\u0648\u0649\u064a\u064b\u064c\u064d"),
        (238, "\u064e\u064f\u0650\u0651\u0652")] }),
    ("iso8859_7", {
      start := 161
      letters := [(161, "‘’£€₯¦§¨\u00a9ͺ«¬\u00ad"),
        (175, "―°±²³΄΅Ά·ΈΉΊ»Ό½ΎΏΐΑΒΓΔΕΖΗΘΙΚΛΜΝΞΟΠΡ"),
        (211, "ΣΤΥΦΧΨΩΪΫάέήίΰαβγδεζηθικλμνξοπρςστυφχψωϊϋόύώ")] }),
    ("iso8859_8", {
      start := 161
      letters := [(162, "¢£¤¥¦§¨\u00a9×«¬\u00ad®¯°±²³´µ¶·¸¹÷»¼½¾"),
        (223, "‗\u05d0\u05d1\u05d2\u05d3\u05d4\u05d5\u05d6\u05d7\u05d8\u05d9\u05da\u05db\u05dc\u05dd"),
        (238, "\u05de\u05df\u05e0\u05e1\u05e2\u05e3\u05e4\u05e5\u05e6\u05e7\u05e8\u05e9\u05ea"),
        (253, "\u200e\u200f")] }),
    ("iso8859_9", {
      start := 208
      letters := [(208, "ĞÑÒÓÔÕÖ×ØÙÚÛÜİŞßàáâãäåæçèéêëìíîïğñòóôõö÷øùúûüışÿ")] }),
    ("koi8_r", {
      start := 128
      letters := [(128, "─│┌┐└┘├┤┬┴┼▀▄█▌▐░▒▓⌠■∙√≈≤≥\u00a0⌡°²·÷═║╒ё╓╔╕╖╗╘╙╚╛╜╝╞╟╠╡Ё╢╣╤╥╦╧╨╩╪╫╬\u00a9юабцдефгхийк"),
        (204, "лмнопярстужвьызшэщчъЮАБЦДЕФГХИЙКЛМНОПЯРСТУЖВЬЫЗШЭЩЧЪ")] }),
    ("koi8_t", {
      start := 128
      letters := [(128, "қғ‚Ғ„…†‡"),
        (137, "‰ҳ‹ҲҷҶ"),
        (144, "Қ‘’“”•–—"),
        (153, "™"),
        (155, "›"),
        (161, "ӯӮё¤ӣ¦§"),
        (171, "«¬\u00ad®"),
        (176, "°±²Ё"),
        (181, "Ӣ¶·"),
        (185, "№"),
        (187, "»"),
        (191, "\u00a9юабцдефгхийклмнопярстужвьызшэщчъЮАБЦДЕФГХИЙКЛМНОПЯРСТУЖВЬЫЗШЭЩЧЪ")] }),
    ("koi8_u", {
      start := 128
      letters := [(128, "─│┌┐└┘├┤┬┴┼▀▄█▌▐░▒▓⌠■∙√≈≤≥\u00a0⌡°²·÷═║╒ёє╔ії╗╘╙╚╛ґ╝╞╟╠╡ЁЄ╣ІЇ╦╧╨╩╪Ґ╬\u00a9юабцдефгхийк"),
        (204, "лмнопярстужвьызшэщчъЮАБЦДЕФГХИЙКЛМНОПЯРСТУЖВЬЫЗШЭЩЧЪ")] }),
    ("kz1048", {
      start := 128
      letters := [(128, "ЂЃ‚ѓ„…†‡€‰Љ‹ЊҚҺЏђ‘’“”•–—"),
        (153, "™љ›њқһџ\u00a0ҰұӘ¤Ө¦§Ё\u00a9Ғ«¬\u00ad®Ү°±Ііөµ¶·ё№ғ»әҢңүАБВГДЕЖЗИЙКЛМНОПРСТУФХЦЧШЩЪЫЬЭЮЯ"),
        (224, "абвгдежзийклмнопрстуфхцчшщъыьэюя")] }),
    ("mac_arabic", {
      start := 32
      letters := [(37, "%"),
        (44, ","),
        (48, "0123456789"),
        (59, ";"),
        (63, "?@ABCDEFGHIJKLMNOPQRSTUVWXYZ"),
        (96, "\x60abcdefghijklmnopqrstuvwxyz"),
        (126, "~\x7fÄ\u00a0ÇÉÑÖÜáàâä\u06ba«çéèêëí…îïñó»ôö÷úùûü !\"#$٪&'()*+،-./\u0660\u0661\u0662"),
        (179, "\u0663\u0664\u0665\u0666\u0667\u0668\u0669:\u061b<=>\u061f❊\u0621\u0622\u0623\u0624"),
        (197, "\u0625\u0626\u0627\u0628\u0629\u062a\u062b\u062c\u062d\u062e\u062f\u0630\u0631\u0632"),
        (211, "\u0633\u0634\u0635\u0636\u0637\u0638\u0639\u063a[\\]^_\u0640\u0641\u0642\u0643\u0644"),
        (229, "\u0645\u0646\u0647\u0648\u0649\u064a\u064b\u064c\u064d\u064e\u064f\u0650\u0651\u0652"),
        (243, "\u067e\u0679\u0686\u06d5\u06a4\u06af\u0688\u0691\x7b|\x7d\u0698\u06d2")] }),
    ("mac_croatian", {
      start := 128
      letters := [(128, "ÄÅÇÉÑÖÜáàâäãåçéèêëíìîïñóòôöõúùûü†°¢£§•¶ß®Š™´¨≠ŽØ∞±≤≥∆µ∂∑∏š∫ªºΩžø¿¡¬√ƒ≈Ć«Č…\u00a0ÀÃÕŒœĐ"),
        (209, "—“”‘’÷◊\uf8ff\u00a9⁄€‹›Æ»–·‚„‰ÂćÁčÈÍÎÏÌÓÔđÒÚÛÙıˆ˜¯πË˚¸Êæˇ")] }),
    ("mac_cyrillic", {
      start := 128
      letters := [(128, "АБВГДЕЖЗИЙКЛМНОПРСТУФХЦЧШЩЪЫЬЭЮЯ†°Ґ£§•¶І®\u00a9™Ђђ≠Ѓѓ∞±≤≥іµґЈЄєЇїЉљЊњјЅ¬√ƒ≈∆«»…\u00a0Ћ"),
        (204, "ћЌќѕ–—“”‘’÷„ЎўЏџ№Ёёяабвгдежзийклмнопрстуфхцчшщъыьэю€")] }),
    ("mac_farsi", {
      start := 32
      letters := [(37, "%"),
        (44, ","),
        (48, "0123456789"),
        (59, ";"),
        (63, "?@ABCDEFGHIJKLMNOPQRSTUVWXYZ"),
        (96, "\x60abcdefghijklmnopqrstuvwxyz"),
        (126, "~\x7fÄ\u00a0ÇÉÑÖÜáàâä\u06ba«çéèêëí…îïñó»ôö÷úùûü !\"#$٪&'()*+،-./۰۱۲۳۴۵۶۷۸۹:\u061b<=>"),
        (191, "\u061f❊\u0621\u0622\u0623\u0624\u0625\u0626\u0627\u0628\u0629\u062a\u062b\u062c\u062d"),
        (206, "\u062e\u062f\u0630\u0631\u0632\u0633\u0634\u0635\u0636\u0637\u0638\u0639\u063a[\\]^_"),
        (224, "\u0640\u0641\u0642\u0643\u0644\u0645\u0646\u0647\u0648\u0649\u064a\u064b\u064c\u064d"),
        (238, "\u064e\u064f\u0650\u0651\u0652\u067e\u0679\u0686\u06d5\u06a4\u06af\u0688\u0691\x7b|"),
        (253, "\x7d\u0698\u06d2")] }),
    ("mac_greek", {
      start := 128
      letters := [(128, "Ä¹²É³ÖÜ΅àâä΄¨çéèêë£™îï•½‰ôö¦€ùûü†ΓΔΘΛΞΠß®\u00a9ΣΪ§≠°·Α±≤≥¥ΒΕΖΗΙΚΜΦΫΨΩάΝ¬ΟΡ≈Τ«»…\u00a0Υ"),
        (204, "ΧΆΈœ–―“”‘’÷ΉΊΌΎέήίόΏύαβψδεφγηιξκλμνοπώρστθωςχυζϊϋΐΰ\u00ad")] }),
    ("mac_iceland", {
      start := 128
      letters := [(128, "ÄÅÇÉÑÖÜáàâäãåçéèêëíìîïñóòôöõúùûüÝ°¢£§•¶ß®\u00a9™´¨≠ÆØ∞±≤≥¥µ∂∑∏π∫ªºΩæø¿¡¬√ƒ≈∆«»…\u00a0À"),
        (204, "ÃÕŒœ–—“”‘’÷◊ÿŸ⁄€ÐðÞþý·‚„‰ÂÊÁËÈÍÎÏÌÓÔ\uf8ffÒÚÛÙıˆ˜¯˘˙˚¸˝˛ˇ")] }),
    ("mac_latin2", {
      start := 128
      letters := [(128, "ÄĀāÉĄÖÜáąČäčĆćéŹźĎíďĒēĖóėôöõúĚěü†°Ę£§•¶ß®\u00a9™ę¨≠ģĮįĪ≤≥īĶ∂∑łĻļĽľĹĺŅņŃ¬√ńŇ∆«»…\u00a0ň"),
        (204, "ŐÕőŌ–—“”‘’÷◊ōŔŕŘ‹›řŖŗŠ‚„šŚśÁŤťÍŽžŪÓÔūŮÚůŰűŲųÝýķŻŁżĢˇ")] }),
    ("mac_roman", {
      start := 128
      letters := [(128, "ÄÅÇÉÑÖÜáàâäãåçéèêëíìîïñóòôöõúùûü†°¢£§•¶ß®\u00a9™´¨≠ÆØ∞±≤≥¥µ∂∑∏π∫ªºΩæø¿¡¬√ƒ≈∆«»…\u00a0À"),
        (204, "ÃÕŒœ–—“”‘’÷◊ÿŸ⁄€‹›ﬁﬂ‡·‚„‰ÂÊÁËÈÍÎÏÌÓÔ\uf8ffÒÚÛÙıˆ˜¯˘˙˚¸˝˛ˇ")] }),
    ("mac_romanian", {
      start := 128
      letters := [(128, "ÄÅÇÉÑÖÜáàâäãåçéèêëíìîïñóòôöõúùûü†°¢£§•¶ß®\u00a9™´¨≠ĂȘ∞±≤≥¥µ∂∑∏π∫ªºΩăș¿¡¬√ƒ≈∆«»…\u00a0À"),
        (204, "ÃÕŒœ–—“”‘’÷◊ÿŸ⁄€‹›Țț‡·‚„‰ÂÊÁËÈÍÎÏÌÓÔ\uf8ffÒÚÛÙıˆ˜¯˘˙˚¸˝˛ˇ")] }),
    ("mac_turkish", {
      start := 128
      letters := [(128, "ÄÅÇÉÑÖÜáàâäãåçéèêëíìîïñóòôöõúùûü†°¢£§•¶ß®\u00a9™´¨≠ÆØ∞±≤≥¥µ∂∑∏π∫ªºΩæø¿¡¬√ƒ≈∆«»…\u00a0À"),
        (204, "ÃÕŒœ–—“”‘’÷◊ÿŸĞğİıŞş‡·‚„‰ÂÊÁËÈÍÎÏÌÓÔ\uf8ffÒÚÛÙ\uf8a0ˆ˜¯˘˙˚¸˝˛ˇ")] }),
    ("palmos", {
      start := 128
      letters := [(128, "€\u0081‚ƒ„…†‡ˆ‰Š‹Œ♦♣♥♠‘’“”•–—˜™š\u009bœ\u009d\u009eŸ\u00a0¡¢£¤¥¦§¨\u00a9ª«¬\u00ad®¯°±²"),
        (179, "³´µ¶·¸¹º»¼½¾¿ÀÁÂÃÄÅÆÇÈÉÊËÌÍÎÏÐÑÒÓÔÕÖ×ØÙÚÛÜÝÞßàáâãäåæçèéêëìíîïðñòóôõö÷øùúûüýþÿ")] }),
    ("ptcp154", {
      start := 128
      letters := [(128, "ҖҒӮғ„…ҶҮҲүҠӢҢҚҺҸҗ‘’“”•–—ҳҷҡӣңқһҹ\u00a0ЎўЈӨҘҰ§Ё\u00a9Ә«¬ӯ®Ҝ°ұІіҙө¶·ё№ә»јҪҫҝАБВГДЕЖЗИЙКЛ"),
        (204, "МНОПРСТУФХЦЧШЩЪЫЬЭЮЯабвгдежзийклмнопрстуфхцчшщъыьэюя")] }),
    ("tis_620", {
      start := 160
      letters := [(161, "กขฃคฅฆงจฉชซฌญฎฏฐฑฒณดตถทธนบปผฝพฟภมยรฤลฦวศษสหฬอฮฯะ\u0e31าำ\u0e34\u0e35\u0e36\u0e37\u0e38"),
        (217, "\u0e39\u0e3a"),
        (223, "฿เแโใไๅๆ\u0e47\u0e48\u0e49\u0e4a\u0e4b\u0e4c\u0e4d\u0e4e๏๐๑๒๓๔๕๖๗๘๙๚๛")] })]

end Wiring.Encoding.SingleByte
