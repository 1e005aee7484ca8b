import Turnstile.Text.Case
import Turnstile.Text.Composition

/-!
Plain forms: what a character stands for when its look does not matter. Letters in a special shape,
digits in circles and ligatures stand for common letters, and capitals stand for small letters.
-/

namespace Turnstile.Text

/-- Characters that stand for one character: the first of neighbouring codes, and the characters they
stand for, with a space where a code stands for itself. -/
def shapedLetters : List (Nat × String) :=
  [(0xAA, "a       23     1o"), (0x2B0, "hɦjrɹɻʁwy"), (0x2E0, "ɣlsxʕ"), (0x3D2, "υύϋ"),
   (0x3F2, "σ      σ"), (0xF0C, "་"), (0x10FC, "ნ"),
   (0x1D2C, "aæb deǝghijklmn oȣprtuwaɐɑᴂbdeəɛɜg kmŋoɔᴖᴗptuᴝɯvᴥβγδφχiruvβγρφχ"), (0x1D78, "н"),
   (0x1D9B, "ɒcɕðɜfɟɡɥɨɩɪᵻʝɭᶅʟɱɰɲɳɴɵɸʂʃƫʉʊᴜʋʌzʐʑʒθ"), (0x2011, "‐"), (0x2024, "."),
   (0x2070, "0i  456789+−=()n0123456789+−=() aeoxəhklmnpst"),
   (0x2102, "c    ɛ  ghhhhħiill n   pqrrr      z   z   bc eef mo\u05d0\u05d1\u05d2\u05d3i  πγγπ∑"),
   (0x2145, "ddeij"), (0x2160, "i   v    x  lcdmi   v    x  lcdm"), (0x2460, "123456789"),
   (0x24B6, "abcdefghijklmnopqrstuvwxyzabcdefghijklmnopqrstuvwxyz0"), (0x2C7C, "jv"),
   (0x2D6F, "ⵡ"), (0x2E9F, "母"), (0x2EF3, "龟"),
   (0x2F00, "一丨丶丿乙亅二亠人儿入八冂冖冫几凵刀力勹匕匚匸十卜卩厂厶又口囗土士夂夊夕大女子宀寸小尢尸屮山巛工己巾干幺广廴廾弋弓彐彡彳心戈戶手支攴文斗斤方无日曰月木欠止歹殳毋比毛氏气"),
   (0x2F54, "水火爪父爻爿片牙牛犬玄玉瓜瓦甘生用田疋疒癶白皮皿目矛矢石示禸禾穴立竹米糸缶网羊羽老而耒耳聿肉臣自至臼舌舛舟艮色艸虍虫血行衣襾見角言谷豆豕豸貝赤走足身車辛辰辵邑酉釆里金長"),
   (0x2FA8, "門阜隶隹雨靑非面革韋韭音頁風飛食首香馬骨高髟鬥鬯鬲鬼魚鳥鹵鹿麥麻黃黍黑黹黽鼎鼓鼠鼻齊齒龍龜龠"), (0x3036, "〒 十卄卅"),
   (0x3131, "ᄀᄁᆪᄂᆬᆭᄃᄄᄅᆰᆱᆲᆳᆴᆵᄚᄆᄇᄈᄡᄉᄊᄋᄌᄍᄎᄏᄐᄑ하ᅢᅣᅤᅥᅦᅧᅨᅩᅪᅫᅬᅭᅮᅯᅰᅱᅲᅳᅴᅵ ᄔᄕᇇᇈᇌᇎᇓᇗᇙᄜᇝᇟᄝᄞᄠᄢᄣᄧᄩᄫᄬᄭᄮᄯᄲᄶᅀᅇᅌᇱᇲᅗ"),
   (0x3185, "ᅘᅙᆄᆅᆈᆑᆒᆔᆞᆡ   一二三四上中下甲乙丙丁天地人"), (0x3244, "問幼文箏"),
   (0x3260, "ᄀᄂᄃᄅᄆᄇᄉᄋᄌᄎᄏᄐᄑᄒ가나다라마바사아자차카타파하  우 一二三四五六七八九十月火水木金土日株有社名特財祝労秘男女適優印注項休写正上中下左右医宗学監企資協夜"),
   (0x32D0, "アイウエオカキクケコサシスセソタチツテトナニヌネノハヒフヘホマミムメモヤユヨラリルレロワヰヱヲ"), (0xA69C, "ъь"), (0xA770, "ꝯ"),
   (0xA7F2, "cfq   ħœ"), (0xAB5C, "ꜧꬷɫꭒ"), (0xAB69, "ʍ"),
   (0xFB20, "\u05e2\u05d0\u05d3\u05d4\u05db\u05dc\u05dd\u05e8\u05ea+"),
   (0xFB50, "\u0671\u0671\u067b\u067b\u067b\u067b\u067e\u067e\u067e\u067e\u0680\u0680\u0680\u0680"),
   (0xFB5E, "\u067a\u067a\u067a\u067a\u067f\u067f\u067f\u067f\u0679\u0679\u0679\u0679\u06a4\u06a4"),
   (0xFB6C, "\u06a4\u06a4\u06a6\u06a6\u06a6\u06a6\u0684\u0684\u0684\u0684\u0683\u0683\u0683\u0683"),
   (0xFB7A, "\u0686\u0686\u0686\u0686\u0687\u0687\u0687\u0687\u068d\u068d\u068c\u068c\u068e\u068e"),
   (0xFB88, "\u0688\u0688\u0698\u0698\u0691\u0691\u06a9\u06a9\u06a9\u06a9\u06af\u06af\u06af\u06af"),
   (0xFB96, "\u06b3\u06b3\u06b3\u06b3\u06b1\u06b1\u06b1\u06b1\u06ba\u06ba\u06bb\u06bb\u06bb\u06bb"),
   (0xFBA4, "\u06c0\u06c0\u06c1\u06c1\u06c1\u06c1\u06be\u06be\u06be\u06be\u06d2\u06d2\u06d3\u06d3"),
   (0xFBD3, "\u06ad\u06ad\u06ad\u06ad\u06c7\u06c7\u06c6\u06c6\u06c8\u06c8 \u06cb\u06cb\u06c5"),
   (0xFBE1, "\u06c5\u06c9\u06c9\u06d0\u06d0\u06d0\u06d0\u0649\u0649"),
   (0xFBFC, "\u06cc\u06cc\u06cc\u06cc"), (0xFE10, ",、。:;!?〖〗"),
   (0xFE31, "—–__()\x7b\x7d〔〕【】《》〈〉「」『』  []    ___,、. ;:?!—()\x7b\x7d〔〕#&*+-<>= \\$%@"),
   (0xFE80, "\u0621\u0622\u0622\u0623\u0623\u0624\u0624\u0625\u0625\u0626\u0626\u0626\u0626\u0627"),
   (0xFE8E, "\u0627\u0628\u0628\u0628\u0628\u0629\u0629\u062a\u062a\u062a\u062a\u062b\u062b\u062b"),
   (0xFE9C, "\u062b\u062c\u062c\u062c\u062c\u062d\u062d\u062d\u062d\u062e\u062e\u062e\u062e\u062f"),
   (0xFEAA, "\u062f\u0630\u0630\u0631\u0631\u0632\u0632\u0633\u0633\u0633\u0633\u0634\u0634\u0634"),
   (0xFEB8, "\u0634\u0635\u0635\u0635\u0635\u0636\u0636\u0636\u0636\u0637\u0637\u0637\u0637\u0638"),
   (0xFEC6, "\u0638\u0638\u0638\u0639\u0639\u0639\u0639\u063a\u063a\u063a\u063a\u0641\u0641\u0641"),
   (0xFED4, "\u0641\u0642\u0642\u0642\u0642\u0643\u0643\u0643\u0643\u0644\u0644\u0644\u0644\u0645"),
   (0xFEE2, "\u0645\u0645\u0645\u0646\u0646\u0646\u0646\u0647\u0647\u0647\u0647\u0648\u0648\u0649"),
   (0xFEF0, "\u0649\u064a\u064a\u064a\u064a"),
   (0xFF01, "!\"#$%&'()*+,- /0123456789:;<=>?@abcdefghijklmnopqrstuvwxyz[\\]^_\x60abcdefghijklmno"),
   (0xFF50, "pqrstuvwxyz\x7b|\x7d~⦅⦆ 「」、・ヲァィゥェォャュョッーアイウエオカキクケコサシスセソタチツテトナニヌネノハヒフヘホマミムメモヤユヨラリルレロワン"),
   (0xFF9E, "\u3099\u309a ᄀᄁᆪᄂᆬᆭᄃᄄᄅᆰᆱᆲᆳᆴᆵᄚᄆᄇᄈᄡᄉᄊᄋᄌᄍᄎᄏᄐᄑᄒ   ᅡᅢᅣᅤᅥᅦ  ᅧᅨᅩᅪᅫᅬ  ᅭᅮᅯᅰᅱᅲ  ᅳᅴᅵ   ¢£¬ ¦¥₩"),
   (0xFFE8, "│←↑→↓■○"), (0x10781, "ːˑæʙɓ ʣꭦʥʤɖɗᶑɘɞʩɤɢɠʛħʜɧʄʪʫɬ𝼄ꞎɮ𝼅ʎ𝼆øɶɷqɺ𝼈ɽɾʀʨʦꭧʧʈⱱ ʏʡʢʘǀǁǂ𝼊𝼞"),
   (0x1D400, "abcdefghijklmnopqrstuvwxyzabcdefghijklmnopqrstuvwxyzabcdefghijklmnopqrstuvwxyzabcdef"),
   (0x1D454, "g ijklmnopqrstuvwxyzabcdefghijklmnopqrstuvwxyzabcdefghijklmnopqrstuvwxyza cd  g  jk"),
   (0x1D4A9, "nopq stuvwxyzabcd f hijklmn pqrstuvwxyzabcdefghijklmnopqrstuvwxyzabcdefghijklmnopqrs"),
   (0x1D4FD, "tuvwxyzab defg  jklmnopq stuvwxy abcdefghijklmnopqrstuvwxyzab defg ijklm o   stuvwxy"),
   (0x1D552, "abcdefghijklmnopqrstuvwxyzabcdefghijklmnopqrstuvwxyzabcdefghijklmnopqrstuvwxyzabcdef"),
   (0x1D5A6, "ghijklmnopqrstuvwxyzabcdefghijklmnopqrstuvwxyzabcdefghijklmnopqrstuvwxyzabcdefghijkl"),
   (0x1D5FA, "mnopqrstuvwxyzabcdefghijklmnopqrstuvwxyzabcdefghijklmnopqrstuvwxyzabcdefghijklmnopqr"),
   (0x1D64E, "stuvwxyzabcdefghijklmnopqrstuvwxyzabcdefghijklmnopqrstuvwxyzabcdefghijklmnopqrstuvwx"),
   (0x1D6A2, "yzıȷ  αβγδεζηθικλμνξοπρθστυφχψω∇αβγδεζηθικλμνξοπρσστυφχψω∂εθκφρπαβγδεζηθικλμνξοπρθστ"),
   (0x1D6F6, "υφχψω∇αβγδεζηθικλμνξοπρσστυφχψω∂εθκφρπαβγδεζηθικλμνξοπρθστυφχψω∇αβγδεζηθικλμνξοπρσστ"),
   (0x1D74A, "υφχψω∂εθκφρπαβγδεζηθικλμνξοπρθστυφχψω∇αβγδεζηθικλμνξοπρσστυφχψω∂εθκφρπαβγδεζηθικλμνξ"),
   (0x1D79E, "οπρθστυφχψω∇αβγδεζηθικλμνξοπρσστυφχψω∂εθκφρπϝϝ  012345678901234567890123456789012345"),
   (0x1D7F2, "67890123456789"),
   (0x1E030, "абвгдежзиклмопрстуфхцчшыэюꚉәіјөүӏабвгдежзиклопсуфхцчшъыґіѕџҫꙑұ"),
   (0x1EE00, "\u0627\u0628\u062c\u062f \u0648\u0632\u062d\u0637\u064a\u0643\u0644\u0645\u0646"),
   (0x1EE0E, "\u0633\u0639\u0641\u0635\u0642\u0631\u0634\u062a\u062b\u062e\u0630\u0636\u0638\u063a"),
   (0x1EE1C, "\u066e\u06ba\u06a1\u066f \u0628\u062c \u0647  \u062d \u064a\u0643\u0644\u0645\u0646"),
   (0x1EE2E, "\u0633\u0639\u0641\u0635\u0642 \u0634\u062a\u062b\u062e \u0636 \u063a      \u062c"),
   (0x1EE47, "\u062d \u064a \u0644 \u0646\u0633\u0639 \u0635\u0642 \u0634  \u062e \u0636 \u063a"),
   (0x1EE5D, "\u06ba \u066f \u0628\u062c \u0647  \u062d\u0637\u064a\u0643 \u0645\u0646\u0633\u0639"),
   (0x1EE70, "\u0641\u0635\u0642 \u0634\u062a\u062b\u062e \u0636\u0638\u063a\u066e \u06a1 \u0627"),
   (0x1EE81, "\u0628\u062c\u062f\u0647\u0648\u0632\u062d\u0637\u064a \u0644\u0645\u0646\u0633"),
   (0x1EE8F, "\u0639\u0641\u0635\u0642\u0631\u0634\u062a\u062b\u062e\u0630\u0636\u0638\u063a"),
   (0x1EEA1, "\u0628\u062c\u062f \u0648\u0632\u062d\u0637\u064a \u0644\u0645\u0646\u0633\u0639"),
   (0x1EEB0, "\u0641\u0635\u0642\u0631\u0634\u062a\u062b\u062e\u0630\u0636\u0638\u063a"),
   (0x1F12B, "cr   abcdefghijklmnopqrstuvwxyz"), (0x1F202, "サ"),
   (0x1F210, "手字双デ二多解天交映無料前後再新初終生販声吹演投捕一三遊左中右指走打禁空合満有月申割営配"), (0x1F250, "得可"),
   (0x1FBF0, "0123456789")]

/-- Characters that stand for several: the first of neighbouring codes, and the texts they stand for
with a bar after each but the last, and no text where a code stands for itself. -/
def ligatures : List (Nat × String) :=
  [(0xA8, " \u0308"), (0xAF, " \u0304"), (0xB4, " \u0301|||| \u0327||||1⁄4|1⁄2|3⁄4"),
   (0x130, "i\u0307||ij|ij"), (0x13F, "l·|l·"), (0x149, "ʼn"),
   (0x1C4, "dž|dž|dž|lj|lj|lj|nj|nj|nj"), (0x1F1, "dz|dz|dz"),
   (0x2D8, " \u0306| \u0307| \u030a| \u0328| \u0303| \u030b"), (0x37A, " ι"),
   (0x384, " \u0301| \u0308\u0301"), (0x587, "եւ"),
   (0x675, "\u0627\u0674|\u0648\u0674|\u06c7\u0674|\u064a\u0674"), (0xE33, "\u0e4dา"),
   (0xEB3, "\u0ecdາ"), (0xEDC, "ຫນ|ຫມ"), (0xF77, "\u0fb2\u0f71\u0f80||\u0fb3\u0f71\u0f80"),
   (0x1E9A, "aʾ||||ss"),
   (0x1F80, "ἀι|ἁι|ἂι|ἃι|ἄι|ἅι|ἆι|ἇι|ἀι|ἁι|ἂι|ἃι|ἄι|ἅι|ἆι|ἇι|ἠι|ἡι|ἢι|ἣι|ἤι|ἥι|ἦι|ἧι|ἠι|ἡι|ἢι|ἣι"),
   (0x1F9C, "ἤι|ἥι|ἦι|ἧι|ὠι|ὡι|ὢι|ὣι|ὤι|ὥι|ὦι|ὧι|ὠι|ὡι|ὢι|ὣι|ὤι|ὥι|ὦι|ὧι|||ὰι|αι|άι|||ᾶι"),
   (0x1FBC, "αι| \u0313|| \u0313| \u0342| \u0308\u0342|ὴι|ηι|ήι|||ῆι"),
   (0x1FCC, "ηι| \u0313\u0300| \u0313\u0301| \u0313\u0342"),
   (0x1FDD, " \u0314\u0300| \u0314\u0301| \u0314\u0342"),
   (0x1FED, " \u0308\u0300| \u0308\u0301||||ὼι|ωι|ώι|||ῶι"), (0x1FFC, "ωι| \u0301| \u0314"),
   (0x2017, " \u0333"), (0x2025, "..|..."), (0x2033, "′′|′′′||‵‵|‵‵‵"), (0x203C, "!!|| \u0305"),
   (0x2047, "??|?!|!?"), (0x2057, "′′′′"), (0x20A8, "rs"), (0x2100, "a/c|a/s||°c||c/o|c/u|||°f"),
   (0x2116, "no"), (0x2120, "sm|tel|tm"), (0x213B, "fax"),
   (0x2150, "1⁄7|1⁄9|1⁄10|1⁄3|2⁄3|1⁄5|2⁄5|3⁄5|4⁄5|1⁄6|5⁄6|1⁄8|3⁄8|5⁄8|7⁄8|1⁄||ii|iii|iv||vi|vii"),
   (0x2167, "viii|ix||xi|xii"), (0x2171, "ii|iii|iv||vi|vii|viii|ix||xi|xii"), (0x2189, "0⁄3"),
   (0x222C, "∫∫|∫∫∫||∮∮|∮∮∮"),
   (0x2469, "10|11|12|13|14|15|16|17|18|19|20|(1)|(2)|(3)|(4)|(5)|(6)|(7)|(8)|(9)|(10)|(11)|(12)"),
   (0x2480, "(13)|(14)|(15)|(16)|(17)|(18)|(19)|(20)|1.|2.|3.|4.|5.|6.|7.|8.|9.|10.|11.|12.|13."),
   (0x2495, "14.|15.|16.|17.|18.|19.|20.|(a)|(b)|(c)|(d)|(e)|(f)|(g)|(h)|(i)|(j)|(k)|(l)|(m)|(n)"),
   (0x24AA, "(o)|(p)|(q)|(r)|(s)|(t)|(u)|(v)|(w)|(x)|(y)|(z)"), (0x2A0C, "∫∫∫∫"),
   (0x2A74, "::=|==|==="), (0x309B, " \u3099| \u309a|||より"), (0x30FF, "コト"),
   (0x3200, "(ᄀ)|(ᄂ)|(ᄃ)|(ᄅ)|(ᄆ)|(ᄇ)|(ᄉ)|(ᄋ)|(ᄌ)|(ᄎ)|(ᄏ)|(ᄐ)|(ᄑ)|(ᄒ)|(가)|(나)|(다)|(라)|(마)|(바)|(사)"),
   (0x3215, "(아)|(자)|(차)|(카)|(타)|(파)|(하)|(주)|(오전)|(오후)||(一)|(二)|(三)|(四)|(五)|(六)|(七)|(八)|(九)|(十)"),
   (0x322A, "(月)|(火)|(水)|(木)|(金)|(土)|(日)|(株)|(有)|(社)|(名)|(特)|(財)|(祝)|(労)|(代)|(呼)|(学)|(監)|(企)|(資)"),
   (0x323F, "(協)|(祭)|(休)|(自)|(至)"), (0x3250, "pte|21|22|23|24|25|26|27|28|29|30|31|32|33|34|35"),
   (0x327C, "참고|주의"),
   (0x32B1, "36|37|38|39|40|41|42|43|44|45|46|47|48|49|50|1月|2月|3月|4月|5月|6月|7月|8月|9月|10月|11月|12月"),
   (0x32CC, "hg|erg|ev|ltd"),
   (0x32FF, "令和|アパート|アルファ|アンペア|アール|イニング|インチ|ウォン|エスクード|エーカー|オンス|オーム|カイリ|カラット|カロリー|ガロン|ガンマ|ギガ|ギニー"),
   (0x3312, "キュリー|ギルダー|キロ|キログラム|キロメートル|キロワット|グラム|グラムトン|クルゼイロ|クローネ|ケース|コルナ|コーポ|サイクル|サンチーム|シリング|センチ"),
   (0x3323, "セント|ダース|デシ|ドル|トン|ナノ|ノット|ハイツ|パーセント|パーツ|バーレル|ピアストル|ピクル|ピコ|ビル|ファラッド|フィート|ブッシェル|フラン"),
   (0x3336, "ヘクタール|ペソ|ペニヒ|ヘルツ|ペンス|ページ|ベータ|ポイント|ボルト|ホン|ポンド|ホール|ホーン|マイクロ|マイル|マッハ|マルク|マンション|ミクロン|ミリ"),
   (0x334A, "ミリバール|メガ|メガトン|メートル|ヤード|ヤール|ユアン|リットル|リラ|ルピー|ルーブル|レム|レントゲン|ワット|0点|1点|2点|3点|4点|5点|6点|7点"),
   (0x3360, "8点|9点|10点|11点|12点|13点|14点|15点|16点|17点|18点|19点|20点|21点|22点|23点|24点|hpa|da|au|bar|ov"),
   (0x3376, "pc|dm|dm2|dm3|iu|平成|昭和|大正|明治|株式会社|pa|na|μa|ma|ka|kb|mb|gb|cal|kcal|pf|nf|μf|μg|mg|kg"),
   (0x3390, "hz|khz|mhz|ghz|thz|μl|ml|dl|kl|fm|nm|μm|mm|cm|km|mm2|cm2|m2|km2|mm3|cm3|m3|km3|m∕s"),
   (0x33A8, "m∕s2|pa|kpa|mpa|gpa|rad|rad∕s|rad∕s2|ps|ns|μs|ms|pv|nv|μv|mv|kv|mv|pw|nw|μw|mw|kw|mw"),
   (0x33C0, "kω|mω|a.m.|bq|cc|cd|c∕kg|co.|db|gy|ha|hp|in|kk|km|kt|lm|ln|log|lx|mb|mil|mol|ph|p.m."),
   (0x33D9, "ppm|pr|sr|sv|wb|v∕m|a∕m|1日|2日|3日|4日|5日|6日|7日|8日|9日|10日|11日|12日|13日|14日|15日|16日|17日"),
   (0x33F1, "18日|19日|20日|21日|22日|23日|24日|25日|26日|27日|28日|29日|30日|31日|gal"),
   (0xFB00, "ff|fi|fl|ffi|ffl|st|st"), (0xFB13, "մն|մե|մի|վն|մխ"), (0xFB4F, "\u05d0\u05dc"),
   (0xFBDD, "\u06c7\u0674"),
   (0xFBEA, "\u0626\u0627|\u0626\u0627|\u0626\u06d5|\u0626\u06d5|\u0626\u0648|\u0626\u0648"),
   (0xFBF0, "\u0626\u06c7|\u0626\u06c7|\u0626\u06c6|\u0626\u06c6|\u0626\u06c8|\u0626\u06c8"),
   (0xFBF6, "\u0626\u06d0|\u0626\u06d0|\u0626\u06d0|\u0626\u0649|\u0626\u0649|\u0626\u0649"),
   (0xFC00, "\u0626\u062c|\u0626\u062d|\u0626\u0645|\u0626\u0649|\u0626\u064a|\u0628\u062c"),
   (0xFC06, "\u0628\u062d|\u0628\u062e|\u0628\u0645|\u0628\u0649|\u0628\u064a|\u062a\u062c"),
   (0xFC0C, "\u062a\u062d|\u062a\u062e|\u062a\u0645|\u062a\u0649|\u062a\u064a|\u062b\u062c"),
   (0xFC12, "\u062b\u0645|\u062b\u0649|\u062b\u064a|\u062c\u062d|\u062c\u0645|\u062d\u062c"),
   (0xFC18, "\u062d\u0645|\u062e\u062c|\u062e\u062d|\u062e\u0645|\u0633\u062c|\u0633\u062d"),
   (0xFC1E, "\u0633\u062e|\u0633\u0645|\u0635\u062d|\u0635\u0645|\u0636\u062c|\u0636\u062d"),
   (0xFC24, "\u0636\u062e|\u0636\u0645|\u0637\u062d|\u0637\u0645|\u0638\u0645|\u0639\u062c"),
   (0xFC2A, "\u0639\u0645|\u063a\u062c|\u063a\u0645|\u0641\u062c|\u0641\u062d|\u0641\u062e"),
   (0xFC30, "\u0641\u0645|\u0641\u0649|\u0641\u064a|\u0642\u062d|\u0642\u0645|\u0642\u0649"),
   (0xFC36, "\u0642\u064a|\u0643\u0627|\u0643\u062c|\u0643\u062d|\u0643\u062e|\u0643\u0644"),
   (0xFC3C, "\u0643\u0645|\u0643\u0649|\u0643\u064a|\u0644\u062c|\u0644\u062d|\u0644\u062e"),
   (0xFC42, "\u0644\u0645|\u0644\u0649|\u0644\u064a|\u0645\u062c|\u0645\u062d|\u0645\u062e"),
   (0xFC48, "\u0645\u0645|\u0645\u0649|\u0645\u064a|\u0646\u062c|\u0646\u062d|\u0646\u062e"),
   (0xFC4E, "\u0646\u0645|\u0646\u0649|\u0646\u064a|\u0647\u062c|\u0647\u0645|\u0647\u0649"),
   (0xFC54, "\u0647\u064a|\u064a\u062c|\u064a\u062d|\u064a\u062e|\u064a\u0645|\u064a\u0649"),
   (0xFC5A, "\u064a\u064a|\u0630\u0670|\u0631\u0670|\u0649\u0670| \u064c\u0651| \u064d\u0651"),
   (0xFC60, " \u064e\u0651| \u064f\u0651| \u0650\u0651| \u0651\u0670|\u0626\u0631|\u0626\u0632"),
   (0xFC66, "\u0626\u0645|\u0626\u0646|\u0626\u0649|\u0626\u064a|\u0628\u0631|\u0628\u0632"),
   (0xFC6C, "\u0628\u0645|\u0628\u0646|\u0628\u0649|\u0628\u064a|\u062a\u0631|\u062a\u0632"),
   (0xFC72, "\u062a\u0645|\u062a\u0646|\u062a\u0649|\u062a\u064a|\u062b\u0631|\u062b\u0632"),
   (0xFC78, "\u062b\u0645|\u062b\u0646|\u062b\u0649|\u062b\u064a|\u0641\u0649|\u0641\u064a"),
   (0xFC7E, "\u0642\u0649|\u0642\u064a|\u0643\u0627|\u0643\u0644|\u0643\u0645|\u0643\u0649"),
   (0xFC84, "\u0643\u064a|\u0644\u0645|\u0644\u0649|\u0644\u064a|\u0645\u0627|\u0645\u0645"),
   (0xFC8A, "\u0646\u0631|\u0646\u0632|\u0646\u0645|\u0646\u0646|\u0646\u0649|\u0646\u064a"),
   (0xFC90, "\u0649\u0670|\u064a\u0631|\u064a\u0632|\u064a\u0645|\u064a\u0646|\u064a\u0649"),
   (0xFC96, "\u064a\u064a|\u0626\u062c|\u0626\u062d|\u0626\u062e|\u0626\u0645|\u0626\u0647"),
   (0xFC9C, "\u0628\u062c|\u0628\u062d|\u0628\u062e|\u0628\u0645|\u0628\u0647|\u062a\u062c"),
   (0xFCA2, "\u062a\u062d|\u062a\u062e|\u062a\u0645|\u062a\u0647|\u062b\u0645|\u062c\u062d"),
   (0xFCA8, "\u062c\u0645|\u062d\u062c|\u062d\u0645|\u062e\u062c|\u062e\u0645|\u0633\u062c"),
   (0xFCAE, "\u0633\u062d|\u0633\u062e|\u0633\u0645|\u0635\u062d|\u0635\u062e|\u0635\u0645"),
   (0xFCB4, "\u0636\u062c|\u0636\u062d|\u0636\u062e|\u0636\u0645|\u0637\u062d|\u0638\u0645"),
   (0xFCBA, "\u0639\u062c|\u0639\u0645|\u063a\u062c|\u063a\u0645|\u0641\u062c|\u0641\u062d"),
   (0xFCC0, "\u0641\u062e|\u0641\u0645|\u0642\u062d|\u0642\u0645|\u0643\u062c|\u0643\u062d"),
   (0xFCC6, "\u0643\u062e|\u0643\u0644|\u0643\u0645|\u0644\u062c|\u0644\u062d|\u0644\u062e"),
   (0xFCCC, "\u0644\u0645|\u0644\u0647|\u0645\u062c|\u0645\u062d|\u0645\u062e|\u0645\u0645"),
   (0xFCD2, "\u0646\u062c|\u0646\u062d|\u0646\u062e|\u0646\u0645|\u0646\u0647|\u0647\u062c"),
   (0xFCD8, "\u0647\u0645|\u0647\u0670|\u064a\u062c|\u064a\u062d|\u064a\u062e|\u064a\u0645"),
   (0xFCDE, "\u064a\u0647|\u0626\u0645|\u0626\u0647|\u0628\u0645|\u0628\u0647|\u062a\u0645"),
   (0xFCE4, "\u062a\u0647|\u062b\u0645|\u062b\u0647|\u0633\u0645|\u0633\u0647|\u0634\u0645"),
   (0xFCEA, "\u0634\u0647|\u0643\u0644|\u0643\u0645|\u0644\u0645|\u0646\u0645|\u0646\u0647"),
   (0xFCF0, "\u064a\u0645|\u064a\u0647|\u0640\u064e\u0651|\u0640\u064f\u0651|\u0640\u0650\u0651"),
   (0xFCF5, "\u0637\u0649|\u0637\u064a|\u0639\u0649|\u0639\u064a|\u063a\u0649|\u063a\u064a"),
   (0xFCFB, "\u0633\u0649|\u0633\u064a|\u0634\u0649|\u0634\u064a|\u062d\u0649|\u062d\u064a"),
   (0xFD01, "\u062c\u0649|\u062c\u064a|\u062e\u0649|\u062e\u064a|\u0635\u0649|\u0635\u064a"),
   (0xFD07, "\u0636\u0649|\u0636\u064a|\u0634\u062c|\u0634\u062d|\u0634\u062e|\u0634\u0645"),
   (0xFD0D, "\u0634\u0631|\u0633\u0631|\u0635\u0631|\u0636\u0631|\u0637\u0649|\u0637\u064a"),
   (0xFD13, "\u0639\u0649|\u0639\u064a|\u063a\u0649|\u063a\u064a|\u0633\u0649|\u0633\u064a"),
   (0xFD19, "\u0634\u0649|\u0634\u064a|\u062d\u0649|\u062d\u064a|\u062c\u0649|\u062c\u064a"),
   (0xFD1F, "\u062e\u0649|\u062e\u064a|\u0635\u0649|\u0635\u064a|\u0636\u0649|\u0636\u064a"),
   (0xFD25, "\u0634\u062c|\u0634\u062d|\u0634\u062e|\u0634\u0645|\u0634\u0631|\u0633\u0631"),
   (0xFD2B, "\u0635\u0631|\u0636\u0631|\u0634\u062c|\u0634\u062d|\u0634\u062e|\u0634\u0645"),
   (0xFD31, "\u0633\u0647|\u0634\u0647|\u0637\u0645|\u0633\u062c|\u0633\u062d|\u0633\u062e"),
   (0xFD37, "\u0634\u062c|\u0634\u062d|\u0634\u062e|\u0637\u0645|\u0638\u0645|\u0627\u064b"),
   (0xFD3D, "\u0627\u064b"),
   (0xFD50, "\u062a\u062c\u0645|\u062a\u062d\u062c|\u062a\u062d\u062c|\u062a\u062d\u0645"),
   (0xFD54, "\u062a\u062e\u0645|\u062a\u0645\u062c|\u062a\u0645\u062d|\u062a\u0645\u062e"),
   (0xFD58, "\u062c\u0645\u062d|\u062c\u0645\u062d|\u062d\u0645\u064a|\u062d\u0645\u0649"),
   (0xFD5C, "\u0633\u062d\u062c|\u0633\u062c\u062d|\u0633\u062c\u0649|\u0633\u0645\u062d"),
   (0xFD60, "\u0633\u0645\u062d|\u0633\u0645\u062c|\u0633\u0645\u0645|\u0633\u0645\u0645"),
   (0xFD64, "\u0635\u062d\u062d|\u0635\u062d\u062d|\u0635\u0645\u0645|\u0634\u062d\u0645"),
   (0xFD68, "\u0634\u062d\u0645|\u0634\u062c\u064a|\u0634\u0645\u062e|\u0634\u0645\u062e"),
   (0xFD6C, "\u0634\u0645\u0645|\u0634\u0645\u0645|\u0636\u062d\u0649|\u0636\u062e\u0645"),
   (0xFD70, "\u0636\u062e\u0645|\u0637\u0645\u062d|\u0637\u0645\u062d|\u0637\u0645\u0645"),
   (0xFD74, "\u0637\u0645\u064a|\u0639\u062c\u0645|\u0639\u0645\u0645|\u0639\u0645\u0645"),
   (0xFD78, "\u0639\u0645\u0649|\u063a\u0645\u0645|\u063a\u0645\u064a|\u063a\u0645\u0649"),
   (0xFD7C, "\u0641\u062e\u0645|\u0641\u062e\u0645|\u0642\u0645\u062d|\u0642\u0645\u0645"),
   (0xFD80, "\u0644\u062d\u0645|\u0644\u062d\u064a|\u0644\u062d\u0649|\u0644\u062c\u062c"),
   (0xFD84, "\u0644\u062c\u062c|\u0644\u062e\u0645|\u0644\u062e\u0645|\u0644\u0645\u062d"),
   (0xFD88, "\u0644\u0645\u062d|\u0645\u062d\u062c|\u0645\u062d\u0645|\u0645\u062d\u064a"),
   (0xFD8C, "\u0645\u062c\u062d|\u0645\u062c\u0645|\u0645\u062e\u062c|\u0645\u062e\u0645"),
   (0xFD92, "\u0645\u062c\u062e|\u0647\u0645\u062c|\u0647\u0645\u0645|\u0646\u062d\u0645"),
   (0xFD96, "\u0646\u062d\u0649|\u0646\u062c\u0645|\u0646\u062c\u0645|\u0646\u062c\u0649"),
   (0xFD9A, "\u0646\u0645\u064a|\u0646\u0645\u0649|\u064a\u0645\u0645|\u064a\u0645\u0645"),
   (0xFD9E, "\u0628\u062e\u064a|\u062a\u062c\u064a|\u062a\u062c\u0649|\u062a\u062e\u064a"),
   (0xFDA2, "\u062a\u062e\u0649|\u062a\u0645\u064a|\u062a\u0645\u0649|\u062c\u0645\u064a"),
   (0xFDA6, "\u062c\u062d\u0649|\u062c\u0645\u0649|\u0633\u062e\u0649|\u0635\u062d\u064a"),
   (0xFDAA, "\u0634\u062d\u064a|\u0636\u062d\u064a|\u0644\u062c\u064a|\u0644\u0645\u064a"),
   (0xFDAE, "\u064a\u062d\u064a|\u064a\u062c\u064a|\u064a\u0645\u064a|\u0645\u0645\u064a"),
   (0xFDB2, "\u0642\u0645\u064a|\u0646\u062d\u064a|\u0642\u0645\u062d|\u0644\u062d\u0645"),
   (0xFDB6, "\u0639\u0645\u064a|\u0643\u0645\u064a|\u0646\u062c\u062d|\u0645\u062e\u064a"),
   (0xFDBA, "\u0644\u062c\u0645|\u0643\u0645\u0645|\u0644\u062c\u0645|\u0646\u062c\u062d"),
   (0xFDBE, "\u062c\u062d\u064a|\u062d\u062c\u064a|\u0645\u062c\u064a|\u0641\u0645\u064a"),
   (0xFDC2, "\u0628\u062d\u064a|\u0643\u0645\u0645|\u0639\u062c\u0645|\u0635\u0645\u0645"),
   (0xFDC6, "\u0633\u062e\u064a|\u0646\u062c\u064a"),
   (0xFDF0, "\u0635\u0644\u06d2|\u0642\u0644\u06d2|\u0627\u0644\u0644\u0647"),
   (0xFDF3, "\u0627\u0643\u0628\u0631|\u0645\u062d\u0645\u062f|\u0635\u0644\u0639\u0645"),
   (0xFDF6, "\u0631\u0633\u0648\u0644|\u0639\u0644\u064a\u0647|\u0648\u0633\u0644\u0645"),
   (0xFDF9, "\u0635\u0644\u0649"),
   (0xFDFA, "\u0635\u0644\u0649 \u0627\u0644\u0644\u0647 \u0639\u0644\u064a\u0647 \u0648\u0633\u0644\u0645"),
   (0xFDFB, "\u062c\u0644 \u062c\u0644\u0627\u0644\u0647|\u0631\u06cc\u0627\u0644"),
   (0xFE19, "..."), (0xFE30, ".."), (0xFE49, " \u0305| \u0305| \u0305| \u0305"),
   (0xFE70, " \u064b|\u0640\u064b| \u064c|| \u064d|| \u064e|\u0640\u064e| \u064f|\u0640\u064f"),
   (0xFE7A, " \u0650|\u0640\u0650| \u0651|\u0640\u0651| \u0652|\u0640\u0652"),
   (0xFEF5, "\u0644\u0622|\u0644\u0622|\u0644\u0623|\u0644\u0623|\u0644\u0625|\u0644\u0625"),
   (0xFEFB, "\u0644\u0627|\u0644\u0627"), (0xFFE3, " \u0304"),
   (0x1F100, "0.|0,|1,|2,|3,|4,|5,|6,|7,|8,|9,"),
   (0x1F110, "(a)|(b)|(c)|(d)|(e)|(f)|(g)|(h)|(i)|(j)|(k)|(l)|(m)|(n)|(o)|(p)|(q)|(r)|(s)|(t)|(u)"),
   (0x1F125, "(v)|(w)|(x)|(y)|(z)|〔s〕|||cd|wz"), (0x1F14A, "hv|mv|sd|ss|ppv|wc"),
   (0x1F16A, "mc|md|mr"), (0x1F190, "dj"), (0x1F200, "ほか|ココ"),
   (0x1F240, "〔本〕|〔三〕|〔二〕|〔安〕|〔点〕|〔打〕|〔盗〕|〔勝〕|〔敗〕")]

/-- The text that stands at a code in runs of neighbouring codes. -/
def textAt? (runs : List (Nat × String)) (n : Nat) : Option (List Char) :=
  runs.findSome? fun r => if r.1 ≤ n then (r.2.toList.splitOn '|')[n - r.1]? else none

/-- What the character stands for. -/
def plainForm (c : Char) : List Char :=
  if category c = .Zs then [' ']
  else
    match (entryAt? shapedLetters c.toNat).filter (· ≠ ' ') with
    | some d => [d]
    | none =>
      match (textAt? ligatures c.toNat).filter (!·.isEmpty) with
      | some ds => ds
      | none => [Char.ofNat (foldCode c.toNat)]

end Turnstile.Text
