import Turnstile.Text.Ranges

/-!
The script each code point is written in, by the Unicode standard. The table lists script names in
code point order, each with the length of its run where that is not one.
-/

namespace Turnstile.Text.Script

/-- Script names with run lengths, from code point zero to the last. -/
def tableLines : List String :=
  ["Common65 Latin26 Common6 Latin26 Common47 Latin Common15 Latin Common5 Latin23 Common Latin31",
   "Common Latin449 Common39 Latin5 Common5 Bopomofo2 Common20 Inherited112 Greek4 Common Greek3",
   "Unknown2 Greek4 Common Greek Unknown4 Greek Common Greek Common Greek3 Unknown Greek Unknown",
   "Greek20 Unknown Greek63 Coptic14 Greek16 Cyrillic133 Inherited2 Cyrillic169 Unknown Armenian38",
   "Unknown2 Armenian50 Unknown2 Armenian3 Unknown Hebrew55 Unknown8 Hebrew27 Unknown4 Hebrew6",
   "Unknown11 Arabic5 Common Arabic6 Common Arabic14 Common Arabic3 Common Arabic32 Common Arabic10",
   "Inherited11 Arabic26 Inherited Arabic108 Common Arabic34 Syriac14 Unknown Syriac60 Unknown2",
   "Syriac3 Arabic48 Thaana50 Unknown14 Nko59 Unknown2 Nko3 Samaritan46 Unknown2 Samaritan15",
   "Unknown Mandaic28 Unknown2 Mandaic Unknown Syriac11 Unknown5 Arabic31 Unknown Arabic2 Unknown6",
   "Arabic74 Common Arabic29 Devanagari81 Inherited4 Devanagari15 Common2 Devanagari26 Bengali4",
   "Unknown Bengali8 Unknown2 Bengali2 Unknown2 Bengali22 Unknown Bengali7 Unknown Bengali Unknown3",
   "Bengali4 Unknown2 Bengali9 Unknown2 Bengali2 Unknown2 Bengali4 Unknown8 Bengali Unknown4",
   "Bengali2 Unknown Bengali5 Unknown2 Bengali25 Unknown2 Gurmukhi3 Unknown Gurmukhi6 Unknown4",
   "Gurmukhi2 Unknown2 Gurmukhi22 Unknown Gurmukhi7 Unknown Gurmukhi2 Unknown Gurmukhi2 Unknown",
   "Gurmukhi2 Unknown2 Gurmukhi Unknown Gurmukhi5 Unknown4 Gurmukhi2 Unknown2 Gurmukhi3 Unknown3",
   "Gurmukhi Unknown7 Gurmukhi4 Unknown Gurmukhi Unknown7 Gurmukhi17 Unknown10 Gujarati3 Unknown",
   "Gujarati9 Unknown Gujarati3 Unknown Gujarati22 Unknown Gujarati7 Unknown Gujarati2 Unknown",
   "Gujarati5 Unknown2 Gujarati10 Unknown Gujarati3 Unknown Gujarati3 Unknown2 Gujarati Unknown15",
   "Gujarati4 Unknown2 Gujarati12 Unknown7 Gujarati7 Unknown Oriya3 Unknown Oriya8 Unknown2 Oriya2",
   "Unknown2 Oriya22 Unknown Oriya7 Unknown Oriya2 Unknown Oriya5 Unknown2 Oriya9 Unknown2 Oriya2",
   "Unknown2 Oriya3 Unknown7 Oriya3 Unknown4 Oriya2 Unknown Oriya5 Unknown2 Oriya18 Unknown10",
   "Tamil2 Unknown Tamil6 Unknown3 Tamil3 Unknown Tamil4 Unknown3 Tamil2 Unknown Tamil Unknown",
   "Tamil2 Unknown3 Tamil2 Unknown3 Tamil3 Unknown3 Tamil12 Unknown4 Tamil5 Unknown3 Tamil3 Unknown",
   "Tamil4 Unknown2 Tamil Unknown6 Tamil Unknown14 Tamil21 Unknown5 Telugu13 Unknown Telugu3",
   "Unknown Telugu23 Unknown Telugu16 Unknown2 Telugu9 Unknown Telugu3 Unknown Telugu4 Unknown7",
   "Telugu2 Unknown Telugu3 Unknown2 Telugu Unknown2 Telugu4 Unknown2 Telugu10 Unknown7 Telugu9",
   "Kannada13 Unknown Kannada3 Unknown Kannada23 Unknown Kannada10 Unknown Kannada5 Unknown2",
   "Kannada9 Unknown Kannada3 Unknown Kannada4 Unknown7 Kannada2 Unknown6 Kannada2 Unknown Kannada4",
   "Unknown2 Kannada10 Unknown Kannada3 Unknown12 Malayalam13 Unknown Malayalam3 Unknown",
   "Malayalam51 Unknown Malayalam3 Unknown Malayalam6 Unknown4 Malayalam16 Unknown2 Malayalam26",
   "Unknown Sinhala3 Unknown Sinhala18 Unknown3 Sinhala24 Unknown Sinhala9 Unknown Sinhala Unknown2",
   "Sinhala7 Unknown3 Sinhala Unknown4 Sinhala6 Unknown Sinhala Unknown Sinhala8 Unknown6 Sinhala10",
   "Unknown2 Sinhala3 Unknown12 Thai58 Unknown4 Common Thai28 Unknown37 Lao2 Unknown Lao Unknown",
   "Lao5 Unknown Lao24 Unknown Lao Unknown Lao23 Unknown2 Lao5 Unknown Lao Unknown Lao7 Unknown",
   "Lao10 Unknown2 Lao4 Unknown32 Tibetan72 Unknown Tibetan36 Unknown4 Tibetan39 Unknown Tibetan36",
   "Unknown Tibetan15 Unknown Tibetan7 Common4 Tibetan2 Unknown37 Myanmar160 Georgian38 Unknown",
   "Georgian Unknown5 Georgian Unknown2 Georgian43 Common Georgian4 Hangul256 Ethiopic73 Unknown",
   "Ethiopic4 Unknown2 Ethiopic7 Unknown Ethiopic Unknown Ethiopic4 Unknown2 Ethiopic41 Unknown",
   "Ethiopic4 Unknown2 Ethiopic33 Unknown Ethiopic4 Unknown2 Ethiopic7 Unknown Ethiopic Unknown",
   "Ethiopic4 Unknown2 Ethiopic15 Unknown Ethiopic57 Unknown Ethiopic4 Unknown2 Ethiopic67 Unknown2",
   "Ethiopic32 Unknown3 Ethiopic26 Unknown6 Cherokee86 Unknown2 Cherokee6 Unknown2",
   "Canadian_Aboriginal640 Ogham29 Unknown3 Runic75 Common3 Runic11 Unknown7 Tagalog22 Unknown9",
   "Tagalog Hanunoo21 Common2 Unknown9 Buhid20 Unknown12 Tagbanwa13 Unknown Tagbanwa3 Unknown",
   "Tagbanwa2 Unknown12 Khmer94 Unknown2 Khmer10 Unknown6 Khmer10 Unknown6 Mongolian2 Common2",
   "Mongolian Common Mongolian20 Unknown6 Mongolian89 Unknown7 Mongolian43 Unknown5",
   "Canadian_Aboriginal70 Unknown10 Limbu31 Unknown Limbu12 Unknown4 Limbu12 Unknown4 Limbu",
   "Unknown3 Limbu12 Tai_Le30 Unknown2 Tai_Le5 Unknown11 New_Tai_Lue44 Unknown4 New_Tai_Lue26",
   "Unknown6 New_Tai_Lue11 Unknown3 New_Tai_Lue2 Khmer32 Buginese28 Unknown2 Buginese2 Tai_Tham63",
   "Unknown Tai_Tham29 Unknown2 Tai_Tham11 Unknown6 Tai_Tham10 Unknown6 Tai_Tham14 Unknown2",
   "Inherited31 Unknown49 Balinese77 Unknown3 Balinese47 Unknown Sundanese64 Batak52 Unknown8",
   "Batak4 Lepcha56 Unknown3 Lepcha15 Unknown3 Lepcha3 Ol_Chiki48 Cyrillic9 Unknown7 Georgian43",
   "Unknown2 Georgian3 Sundanese8 Unknown8 Inherited3 Common Inherited13 Common Inherited7 Common4",
   "Inherited Common6 Inherited Common3 Inherited2 Common Unknown5 Latin38 Greek5 Cyrillic Latin49",
   "Greek5 Latin4 Greek5 Latin13 Cyrillic Latin70 Greek Inherited64 Latin256 Greek22 Unknown2",
   "Greek6 Unknown2 Greek38 Unknown2 Greek6 Unknown2 Greek8 Unknown Greek Unknown Greek Unknown",
   "Greek Unknown Greek31 Unknown2 Greek53 Unknown Greek15 Unknown Greek14 Unknown2 Greek6 Unknown",
   "Greek19 Unknown2 Greek3 Unknown Greek9 Unknown Common12 Inherited2 Common87 Unknown Common11",
   "Latin Unknown2 Common11 Latin Common15 Unknown Latin13 Unknown3 Common33 Unknown15 Inherited33",
   "Unknown15 Common38 Greek Common3 Latin2 Common6 Latin Common27 Latin Common17 Latin41 Common3",
   "Unknown4 Common663 Unknown25 Common11 Unknown21 Common928 Braille256 Common628 Unknown2",
   "Common32 Unknown Common105 Glagolitic96 Latin32 Coptic116 Unknown5 Coptic7 Georgian38 Unknown",
   "Georgian Unknown5 Georgian Unknown2 Tifinagh56 Unknown7 Tifinagh2 Unknown14 Tifinagh Ethiopic23",
   "Unknown9 Ethiopic7 Unknown Ethiopic7 Unknown Ethiopic7 Unknown Ethiopic7 Unknown Ethiopic7",
   "Unknown Ethiopic7 Unknown Ethiopic7 Unknown Ethiopic7 Unknown Cyrillic32 Common94 Unknown34",
   "Han26 Unknown Han89 Unknown12 Han214 Unknown26 Common12 Unknown4 Common5 Han Common Han",
   "Common25 Han9 Inherited4 Hangul2 Common8 Han4 Common4 Unknown Hiragana86 Unknown2 Inherited2",
   "Common2 Hiragana3 Common Katakana90 Common2 Katakana3 Unknown5 Bopomofo43 Unknown Hangul94",
   "Unknown Common16 Bopomofo32 Common36 Unknown12 Katakana16 Hangul31 Unknown Common64 Hangul31",
   "Common81 Katakana47 Common Katakana88 Common168 Han6592 Common64 Han20992 Yi1165 Unknown3 Yi55",
   "Unknown9 Lisu48 Vai300 Unknown20 Cyrillic96 Bamum88 Unknown8 Common34 Latin102 Common3 Latin64",
   "Unknown5 Latin2 Unknown Latin Unknown Latin5 Unknown24 Latin14 Syloti_Nagri45 Unknown3 Common10",
   "Unknown6 Phags_Pa56 Unknown8 Saurashtra70 Unknown8 Saurashtra12 Unknown6 Devanagari32",
   "Kayah_Li46 Common Kayah_Li Rejang36 Unknown11 Rejang Hangul29 Unknown3 Javanese78 Unknown",
   "Common Javanese10 Unknown4 Javanese2 Myanmar31 Unknown Cham55 Unknown9 Cham14 Unknown2 Cham10",
   "Unknown2 Cham4 Myanmar32 Tai_Viet67 Unknown24 Tai_Viet5 Meetei_Mayek23 Unknown10 Ethiopic6",
   "Unknown2 Ethiopic6 Unknown2 Ethiopic6 Unknown9 Ethiopic7 Unknown Ethiopic7 Unknown Latin43",
   "Common Latin9 Greek Latin4 Common2 Unknown4 Cherokee80 Meetei_Mayek46 Unknown2 Meetei_Mayek10",
   "Unknown6 Hangul11172 Unknown12 Hangul23 Unknown4 Hangul49 Unknown8452 Han366 Unknown2 Han106",
   "Unknown38 Latin7 Unknown12 Armenian5 Unknown5 Hebrew26 Unknown Hebrew5 Unknown Hebrew Unknown",
   "Hebrew2 Unknown Hebrew2 Unknown Hebrew10 Arabic115 Unknown16 Arabic363 Common2 Arabic80",
   "Unknown2 Arabic54 Unknown7 Arabic Unknown32 Arabic16 Inherited16 Common10 Unknown6 Inherited14",
   "Cyrillic2 Common35 Unknown Common19 Unknown Common4 Unknown4 Arabic5 Unknown Arabic135 Unknown2",
   "Common Unknown Common32 Latin26 Common6 Latin26 Common11 Katakana10 Common Katakana45 Common2",
   "Hangul31 Unknown3 Hangul6 Unknown2 Hangul6 Unknown2 Hangul6 Unknown2 Hangul3 Unknown3 Common7",
   "Unknown Common7 Unknown10 Common5 Unknown2 Linear_B12 Unknown Linear_B26 Unknown Linear_B19",
   "Unknown Linear_B2 Unknown Linear_B15 Unknown2 Linear_B14 Unknown34 Linear_B123 Unknown5 Common3",
   "Unknown4 Common45 Unknown3 Common9 Greek79 Unknown Common13 Unknown3 Greek Unknown47 Common45",
   "Inherited Unknown130 Lycian29 Unknown3 Carian49 Unknown15 Inherited Common27 Unknown4",
   "Old_Italic36 Unknown9 Old_Italic3 Gothic27 Unknown5 Old_Permic43 Unknown5 Ugaritic30 Unknown",
   "Ugaritic Old_Persian36 Unknown4 Old_Persian14 Unknown42 Deseret80 Shavian48 Osmanya30 Unknown2",
   "Osmanya10 Unknown6 Osage36 Unknown4 Osage36 Unknown4 Elbasan40 Unknown8 Caucasian_Albanian52",
   "Unknown11 Caucasian_Albanian Vithkuqi11 Unknown Vithkuqi15 Unknown Vithkuqi7 Unknown Vithkuqi2",
   "Unknown Vithkuqi11 Unknown Vithkuqi15 Unknown Vithkuqi7 Unknown Vithkuqi2 Unknown67 Linear_A311",
   "Unknown9 Linear_A22 Unknown10 Linear_A8 Unknown24 Latin6 Unknown Latin42 Unknown Latin9",
   "Unknown69 Cypriot6 Unknown2 Cypriot Unknown Cypriot44 Unknown Cypriot2 Unknown3 Cypriot",
   "Unknown2 Cypriot Imperial_Aramaic22 Unknown Imperial_Aramaic9 Palmyrene32 Nabataean31 Unknown8",
   "Nabataean9 Unknown48 Hatran19 Unknown Hatran2 Unknown5 Hatran5 Phoenician28 Unknown3 Phoenician",
   "Lydian26 Unknown5 Lydian Unknown64 Meroitic_Hieroglyphs32 Meroitic_Cursive24 Unknown4",
   "Meroitic_Cursive20 Unknown2 Meroitic_Cursive46 Kharoshthi4 Unknown Kharoshthi2 Unknown5",
   "Kharoshthi8 Unknown Kharoshthi3 Unknown Kharoshthi29 Unknown2 Kharoshthi3 Unknown4 Kharoshthi10",
   "Unknown7 Kharoshthi9 Unknown7 Old_South_Arabian32 Old_North_Arabian32 Unknown32 Manichaean39",
   "Unknown4 Manichaean12 Unknown9 Avestan54 Unknown3 Avestan7 Inscriptional_Parthian22 Unknown2",
   "Inscriptional_Parthian8 Inscriptional_Pahlavi19 Unknown5 Inscriptional_Pahlavi8",
   "Psalter_Pahlavi18 Unknown7 Psalter_Pahlavi4 Unknown12 Psalter_Pahlavi7 Unknown80 Old_Turkic73",
   "Unknown55 Old_Hungarian51 Unknown13 Old_Hungarian51 Unknown7 Old_Hungarian6 Hanifi_Rohingya40",
   "Unknown8 Hanifi_Rohingya10 Unknown294 Arabic31 Unknown Yezidi42 Unknown Yezidi3 Unknown2",
   "Yezidi2 Unknown75 Arabic3 Old_Sogdian40 Unknown8 Sogdian42 Unknown22 Old_Uyghur26 Unknown38",
   "Chorasmian28 Unknown20 Elymaic23 Unknown9 Brahmi78 Unknown4 Brahmi36 Unknown9 Brahmi Kaithi67",
   "Unknown10 Kaithi Unknown2 Sora_Sompeng25 Unknown7 Sora_Sompeng10 Unknown6 Chakma53 Unknown",
   "Chakma18 Unknown8 Mahajani39 Unknown9 Sharada96 Unknown Sinhala20 Unknown11 Khojki18 Unknown",
   "Khojki47 Unknown62 Multani7 Unknown Multani Unknown Multani4 Unknown Multani15 Unknown",
   "Multani11 Unknown6 Khudawadi59 Unknown5 Khudawadi10 Unknown6 Grantha4 Unknown Grantha8 Unknown2",
   "Grantha2 Unknown2 Grantha22 Unknown Grantha7 Unknown Grantha2 Unknown Grantha5 Unknown",
   "Inherited Grantha9 Unknown2 Grantha2 Unknown2 Grantha3 Unknown2 Grantha Unknown6 Grantha",
   "Unknown5 Grantha7 Unknown2 Grantha7 Unknown3 Grantha5 Unknown139 Newa92 Unknown Newa5 Unknown30",
   "Tirhuta72 Unknown8 Tirhuta10 Unknown166 Siddham54 Unknown2 Siddham38 Unknown34 Modi69 Unknown11",
   "Modi10 Unknown6 Mongolian13 Unknown19 Takri58 Unknown6 Takri10 Unknown54 Ahom27 Unknown2 Ahom15",
   "Unknown4 Ahom23 Unknown185 Dogra60 Unknown100 Warang_Citi83 Unknown12 Warang_Citi Dives_Akuru7",
   "Unknown2 Dives_Akuru Unknown2 Dives_Akuru8 Unknown Dives_Akuru2 Unknown Dives_Akuru30 Unknown",
   "Dives_Akuru2 Unknown2 Dives_Akuru12 Unknown9 Dives_Akuru10 Unknown70 Nandinagari8 Unknown2",
   "Nandinagari46 Unknown2 Nandinagari11 Unknown27 Zanabazar_Square72 Unknown8 Soyombo83 Unknown13",
   "Canadian_Aboriginal16 Pau_Cin_Hau57 Unknown7 Devanagari10 Unknown246 Bhaiksuki9 Unknown",
   "Bhaiksuki45 Unknown Bhaiksuki14 Unknown10 Bhaiksuki29 Unknown3 Marchen32 Unknown2 Marchen22",
   "Unknown Marchen14 Unknown73 Masaram_Gondi7 Unknown Masaram_Gondi2 Unknown Masaram_Gondi44",
   "Unknown3 Masaram_Gondi Unknown Masaram_Gondi2 Unknown Masaram_Gondi9 Unknown8 Masaram_Gondi10",
   "Unknown6 Gunjala_Gondi6 Unknown Gunjala_Gondi2 Unknown Gunjala_Gondi37 Unknown Gunjala_Gondi2",
   "Unknown Gunjala_Gondi6 Unknown7 Gunjala_Gondi10 Unknown310 Makasar25 Unknown7 Kawi17 Unknown",
   "Kawi41 Unknown3 Kawi28 Unknown86 Lisu Unknown15 Tamil50 Unknown13 Tamil Cuneiform922 Unknown102",
   "Cuneiform111 Unknown Cuneiform5 Unknown11 Cuneiform196 Unknown2636 Cypro_Minoan99 Unknown13",
   "Egyptian_Hieroglyphs1110 Unknown4010 Anatolian_Hieroglyphs583 Unknown8633 Bamum569 Unknown7",
   "Mro31 Unknown Mro10 Unknown4 Mro2 Tangsa79 Unknown Tangsa10 Unknown6 Bassa_Vah30 Unknown2",
   "Bassa_Vah6 Unknown10 Pahawh_Hmong70 Unknown10 Pahawh_Hmong10 Unknown Pahawh_Hmong7 Unknown",
   "Pahawh_Hmong21 Unknown5 Pahawh_Hmong19 Unknown688 Medefaidrin91 Unknown101 Miao75 Unknown4",
   "Miao57 Unknown7 Miao17 Unknown64 Tangut Nushu Han2 Khitan_Small_Script Unknown11 Han2 Unknown14",
   "Tangut6136 Unknown8 Tangut768 Khitan_Small_Script470 Unknown42 Tangut9 Unknown8935 Katakana4",
   "Unknown Katakana7 Unknown Katakana2 Unknown Katakana Hiragana287 Katakana3 Unknown15 Hiragana",
   "Unknown29 Hiragana3 Unknown2 Katakana Unknown14 Katakana4 Unknown8 Nushu396 Unknown2308",
   "Duployan107 Unknown5 Duployan13 Unknown3 Duployan9 Unknown7 Duployan10 Unknown2 Duployan4",
   "Common4 Unknown4700 Inherited46 Unknown2 Inherited23 Unknown9 Common116 Unknown60 Common246",
   "Unknown10 Common39 Unknown2 Common62 Inherited3 Common17 Inherited8 Common2 Inherited7 Common30",
   "Inherited4 Common61 Unknown21 Greek70 Unknown122 Common20 Unknown12 Common20 Unknown12 Common87",
   "Unknown9 Common25 Unknown135 Common85 Unknown Common71 Unknown Common2 Unknown2 Common Unknown2",
   "Common2 Unknown2 Common4 Unknown Common12 Unknown Common Unknown Common7 Unknown Common65",
   "Unknown Common4 Unknown2 Common8 Unknown Common7 Unknown Common28 Unknown Common4 Unknown",
   "Common5 Unknown Common Unknown3 Common7 Unknown Common340 Unknown2 Common292 Unknown2 Common50",
   "SignWriting652 Unknown15 SignWriting5 Unknown SignWriting15 Unknown1104 Latin31 Unknown6 Latin6",
   "Unknown213 Glagolitic7 Unknown Glagolitic17 Unknown2 Glagolitic7 Unknown Glagolitic2 Unknown",
   "Glagolitic5 Unknown5 Cyrillic62 Unknown33 Cyrillic Unknown112 Nyiakeng_Puachue_Hmong45 Unknown3",
   "Nyiakeng_Puachue_Hmong14 Unknown2 Nyiakeng_Puachue_Hmong10 Unknown4 Nyiakeng_Puachue_Hmong2",
   "Unknown320 Toto31 Unknown17 Wancho58 Unknown5 Wancho Unknown464 Nag_Mundari42 Unknown742",
   "Ethiopic7 Unknown Ethiopic4 Unknown Ethiopic2 Unknown Ethiopic15 Unknown Mende_Kikakui197",
   "Unknown2 Mende_Kikakui16 Unknown41 Adlam76 Unknown4 Adlam10 Unknown4 Adlam2 Unknown785 Common68",
   "Unknown76 Common61 Unknown194 Arabic4 Unknown Arabic27 Unknown Arabic2 Unknown Arabic Unknown2",
   "Arabic Unknown Arabic10 Unknown Arabic4 Unknown Arabic Unknown Arabic Unknown6 Arabic Unknown4",
   "Arabic Unknown Arabic Unknown Arabic Unknown Arabic3 Unknown Arabic2 Unknown Arabic Unknown2",
   "Arabic Unknown Arabic Unknown Arabic Unknown Arabic Unknown Arabic Unknown Arabic2 Unknown",
   "Arabic Unknown2 Arabic4 Unknown Arabic7 Unknown Arabic4 Unknown Arabic4 Unknown Arabic Unknown",
   "Arabic10 Unknown Arabic17 Unknown5 Arabic3 Unknown Arabic5 Unknown Arabic17 Unknown52 Arabic2",
   "Unknown270 Common44 Unknown4 Common100 Unknown12 Common15 Unknown2 Common15 Unknown Common15",
   "Unknown Common37 Unknown10 Common174 Unknown56 Common26 Hiragana Common2 Unknown13 Common44",
   "Unknown4 Common9 Unknown7 Common2 Unknown14 Common6 Unknown154 Common984 Unknown4 Common17",
   "Unknown3 Common13 Unknown3 Common119 Unknown4 Common95 Unknown6 Common12 Unknown4 Common",
   "Unknown15 Common12 Unknown4 Common56 Unknown8 Common10 Unknown6 Common40 Unknown8 Common30",
   "Unknown2 Common2 Unknown78 Common340 Unknown12 Common14 Unknown2 Common13 Unknown3 Common9",
   "Unknown7 Common46 Unknown Common7 Unknown8 Common14 Unknown4 Common9 Unknown7 Common9 Unknown7",
   "Common147 Unknown Common55 Unknown37 Common10 Unknown1030 Han42720 Unknown32 Han4154 Unknown6",
   "Han222 Unknown2 Han5762 Unknown14 Han7473 Unknown3103 Han542 Unknown1506 Han4939 Unknown5",
   "Han4192 Unknown711761 Common Unknown30 Common96 Unknown128 Inherited240 Unknown196112"]

/-- Short names of scripts, each with the long one. -/
def aliasLines : List String :=
  ["Adlm=Adlam Aghb=Caucasian_Albanian Arab=Arabic Armi=Imperial_Aramaic Armn=Armenian Avst=Avestan",
   "Bali=Balinese Bamu=Bamum Bass=Bassa_Vah Batk=Batak Beng=Bengali Bhks=Bhaiksuki Bopo=Bopomofo",
   "Brah=Brahmi Brai=Braille Bugi=Buginese Buhd=Buhid Cakm=Chakma Cans=Canadian_Aboriginal",
   "Cari=Carian Cher=Cherokee Chrs=Chorasmian Copt=Coptic Cpmn=Cypro_Minoan Cprt=Cypriot",
   "Cyrl=Cyrillic Deva=Devanagari Diak=Dives_Akuru Dogr=Dogra Dsrt=Deseret Dupl=Duployan",
   "Egyp=Egyptian_Hieroglyphs Elba=Elbasan Elym=Elymaic Ethi=Ethiopic Geor=Georgian Glag=Glagolitic",
   "Gong=Gunjala_Gondi Gonm=Masaram_Gondi Goth=Gothic Gran=Grantha Grek=Greek Gujr=Gujarati",
   "Guru=Gurmukhi Hang=Hangul Hani=Han Hano=Hanunoo Hatr=Hatran Hebr=Hebrew Hira=Hiragana",
   "Hluw=Anatolian_Hieroglyphs Hmng=Pahawh_Hmong Hmnp=Nyiakeng_Puachue_Hmong Hung=Old_Hungarian",
   "Ital=Old_Italic Java=Javanese Kali=Kayah_Li Kana=Katakana Khar=Kharoshthi Khmr=Khmer",
   "Khoj=Khojki Kits=Khitan_Small_Script Knda=Kannada Kthi=Kaithi Lana=Tai_Tham Laoo=Lao Latn=Latin",
   "Lepc=Lepcha Limb=Limbu Lina=Linear_A Linb=Linear_B Lyci=Lycian Lydi=Lydian Mahj=Mahajani",
   "Maka=Makasar Mand=Mandaic Mani=Manichaean Marc=Marchen Medf=Medefaidrin Mend=Mende_Kikakui",
   "Merc=Meroitic_Cursive Mero=Meroitic_Hieroglyphs Mlym=Malayalam Mong=Mongolian Mroo=Mro",
   "Mtei=Meetei_Mayek Mult=Multani Mymr=Myanmar Nagm=Nag_Mundari Nand=Nandinagari",
   "Narb=Old_North_Arabian Nbat=Nabataean Nkoo=Nko Nshu=Nushu Ogam=Ogham Olck=Ol_Chiki",
   "Orkh=Old_Turkic Orya=Oriya Osge=Osage Osma=Osmanya Ougr=Old_Uyghur Palm=Palmyrene",
   "Pauc=Pau_Cin_Hau Perm=Old_Permic Phag=Phags_Pa Phli=Inscriptional_Pahlavi Phlp=Psalter_Pahlavi",
   "Phnx=Phoenician Plrd=Miao Prti=Inscriptional_Parthian Qaac=Coptic Qaai=Inherited Rjng=Rejang",
   "Rohg=Hanifi_Rohingya Runr=Runic Samr=Samaritan Sarb=Old_South_Arabian Saur=Saurashtra",
   "Sgnw=SignWriting Shaw=Shavian Shrd=Sharada Sidd=Siddham Sind=Khudawadi Sinh=Sinhala",
   "Sogd=Sogdian Sogo=Old_Sogdian Sora=Sora_Sompeng Soyo=Soyombo Sund=Sundanese Sylo=Syloti_Nagri",
   "Syrc=Syriac Tagb=Tagbanwa Takr=Takri Tale=Tai_Le Talu=New_Tai_Lue Taml=Tamil Tang=Tangut",
   "Tavt=Tai_Viet Telu=Telugu Tfng=Tifinagh Tglg=Tagalog Thaa=Thaana Tibt=Tibetan Tirh=Tirhuta",
   "Tnsa=Tangsa Ugar=Ugaritic Vaii=Vai Vith=Vithkuqi Wara=Warang_Citi Wcho=Wancho Xpeo=Old_Persian",
   "Xsux=Cuneiform Yezi=Yezidi Yiii=Yi Zanb=Zanabazar_Square Zinh=Inherited Zyyy=Common",
   "Zzzz=Unknown"]

/-- One entry of the table: the name, and the length of the run. -/
def readEntry (entry : String) : String × Nat :=
  let cs := entry.toList
  let digits := cs.dropWhile fun c => !c.isDigit
  (String.ofList (cs.takeWhile fun c => !c.isDigit),
    if digits.isEmpty then 1 else digits.foldl (fun n c => n * 10 + (c.toNat - 48)) 0)

/-- The runs of code points with their scripts. -/
def runs : List (String × Nat × Nat) :=
  ((tableLines.flatMap (·.splitOn " ")).foldl (fun (acc : List (String × Nat × Nat) × Nat) entry =>
    let (name, size) := readEntry entry
    ((name, acc.2, acc.2 + size - 1) :: acc.1, acc.2 + size)) ([], 0)).1.reverse

/-- The long name of each name, long or short. -/
def names : List (String × String) :=
  (aliasLines.flatMap (·.splitOn " ")).filterMap (fun entry =>
    match entry.splitOn "=" with
    | [short, long] => some (short, long)
    | _ => none) ++
  (runs.map (·.1)).eraseDups.map fun name => (name, name)

/-- The code points of a script under its long name. -/
def ranges (name : String) : Ranges :=
  runs.filterMap fun r => if r.1 == name then some r.2 else none

end Turnstile.Text.Script
