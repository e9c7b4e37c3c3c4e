import Phrasebook.WritingSystem.AToL
import Phrasebook.WritingSystem.MToZ

/-!
All writing systems of the character standard and the look-up by name.
-/

namespace Phrasebook.WritingSystem

/-- Sorted by name. -/
def all : List WritingSystem := [
  .adlam, .ahom, .anatolianHieroglyphs, .arabic, .armenian, .avestan, .balinese, .bamum,
  .bassaVah, .batak, .bengali, .beriaErfe, .bhaiksuki, .bopomofo, .brahmi, .braille, .buginese,
  .buhid, .canadianAboriginal, .carian, .caucasianAlbanian, .chakma, .cham, .cherokee,
  .chorasmian, .common, .coptic, .cuneiform, .cypriot, .cyproMinoan, .cyrillic, .deseret,
  .devanagari, .divesAkuru, .dogra, .duployan, .egyptianHieroglyphs, .elbasan, .elymaic,
  .ethiopic, .garay, .georgian, .glagolitic, .gothic, .grantha, .greek, .gujarati,
  .gunjalaGondi, .gurmukhi, .gurungKhema, .han, .hangul, .hanifiRohingya, .hanunoo, .hatran,
  .hebrew, .hiragana, .imperialAramaic, .inherited, .inscriptionalPahlavi,
  .inscriptionalParthian, .javanese, .kaithi, .kannada, .katakana, .kawi, .kayahLi, .kharoshthi,
  .khitanSmallScript, .khmer, .khojki, .khudawadi, .kiratRai, .lao, .latin, .lepcha, .limbu,
  .linearA, .linearB, .lisu, .lycian, .lydian, .mahajani, .makasar, .malayalam, .mandaic,
  .manichaean, .marchen, .masaramGondi, .medefaidrin, .meeteiMayek, .mendeKikakui,
  .meroiticCursive, .meroiticHieroglyphs, .miao, .modi, .mongolian, .mro, .multani, .myanmar,
  .nabataean, .nagMundari, .nandinagari, .newTaiLue, .newa, .nko, .nushu, .nyiakengPuachueHmong,
  .ogham, .olChiki, .olOnal, .oldHungarian, .oldItalic, .oldNorthArabian, .oldPermic,
  .oldPersian, .oldSogdian, .oldSouthArabian, .oldTurkic, .oldUyghur, .oriya, .osage, .osmanya,
  .pahawhHmong, .palmyrene, .pauCinHau, .phagsPa, .phoenician, .psalterPahlavi, .rejang, .runic,
  .samaritan, .saurashtra, .sharada, .shavian, .siddham, .sidetic, .signWriting, .sinhala,
  .sogdian, .soraSompeng, .soyombo, .sundanese, .sunuwar, .sylotiNagri, .syriac, .tagalog,
  .tagbanwa, .taiLe, .taiTham, .taiViet, .taiYo, .takri, .tamil, .tangsa, .tangut, .telugu,
  .thaana, .thai, .tibetan, .tifinagh, .tirhuta, .todhri, .tolongSiki, .toto, .tuluTigalari,
  .ugaritic, .unknown, .vai, .vithkuqi, .wancho, .warangCiti, .yezidi, .yi, .zanabazarSquare]

/-- The full name goes first, then the code; both are case-sensitive. The unknown script has no
code. -/
def ofName? (text : String) : Option WritingSystem :=
  (all.find? (·.name == text)).or
    (if text.isEmpty then none else all.find? (·.code == text))

end Phrasebook.WritingSystem
