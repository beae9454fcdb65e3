import HeaderBindings.Pattern.CharSet.Runs

/-!
# The scripts of characters

Every character has one script; those that are used with several are common or inherited ones. The
extensions of a script tell for such characters with which scripts they are used.
-/

namespace HeaderBindings.Pattern.Property

/-- The scripts. Code points without a script are labelled `zzzz`. -/
def scripts : ValueTable where
  names :=
    [["adlm", "adlam"], ["aghb", "caucasianalbanian"], ["ahom"], ["arab", "arabic"],
     ["armi", "imperialaramaic"], ["armn", "armenian"], ["avst", "avestan"], ["bali", "balinese"],
     ["bamu", "bamum"], ["bass", "bassavah"], ["batk", "batak"], ["beng", "bengali"],
     ["bhks", "bhaiksuki"], ["bopo", "bopomofo"], ["brah", "brahmi"], ["brai", "braille"],
     ["bugi", "buginese"], ["buhd", "buhid"], ["cakm", "chakma"], ["cans", "canadianaboriginal"],
     ["cari", "carian"], ["cham"], ["cher", "cherokee"], ["chrs", "chorasmian"],
     ["copt", "coptic", "qaac"], ["cpmn", "cyprominoan"], ["cprt", "cypriot"], ["cyrl", "cyrillic"],
     ["deva", "devanagari"], ["diak", "divesakuru"], ["dogr", "dogra"], ["dsrt", "deseret"],
     ["dupl", "duployan"], ["egyp", "egyptianhieroglyphs"], ["elba", "elbasan"],
     ["elym", "elymaic"], ["ethi", "ethiopic"], ["gara", "garay"], ["geor", "georgian"],
     ["glag", "glagolitic"], ["gong", "gunjalagondi"], ["gonm", "masaramgondi"], ["goth", "gothic"],
     ["gran", "grantha"], ["grek", "greek"], ["gujr", "gujarati"], ["gukh", "gurungkhema"],
     ["guru", "gurmukhi"], ["hang", "hangul"], ["hani", "han"], ["hano", "hanunoo"],
     ["hatr", "hatran"], ["hebr", "hebrew"], ["hira", "hiragana"], ["hluw", "anatolianhieroglyphs"],
     ["hmng", "pahawhhmong"], ["hmnp", "nyiakengpuachuehmong"], ["hung", "oldhungarian"],
     ["ital", "olditalic"], ["java", "javanese"], ["kali", "kayahli"], ["kana", "katakana"],
     ["kawi"], ["khar", "kharoshthi"], ["khmr", "khmer"], ["khoj", "khojki"],
     ["kits", "khitansmallscript"], ["knda", "kannada"], ["krai", "kiratrai"], ["kthi", "kaithi"],
     ["lana", "taitham"], ["laoo", "lao"], ["latn", "latin"], ["lepc", "lepcha"], ["limb", "limbu"],
     ["lina", "lineara"], ["linb", "linearb"], ["lisu"], ["lyci", "lycian"], ["lydi", "lydian"],
     ["mahj", "mahajani"], ["maka", "makasar"], ["mand", "mandaic"], ["mani", "manichaean"],
     ["marc", "marchen"], ["medf", "medefaidrin"], ["mend", "mendekikakui"],
     ["merc", "meroiticcursive"], ["mero", "meroitichieroglyphs"], ["mlym", "malayalam"], ["modi"],
     ["mong", "mongolian"], ["mroo", "mro"], ["mtei", "meeteimayek"], ["mult", "multani"],
     ["mymr", "myanmar"], ["nagm", "nagmundari"], ["nand", "nandinagari"],
     ["narb", "oldnortharabian"], ["nbat", "nabataean"], ["newa"], ["nkoo", "nko"],
     ["nshu", "nushu"], ["ogam", "ogham"], ["olck", "olchiki"], ["onao", "olonal"],
     ["orkh", "oldturkic"], ["orya", "oriya"], ["osge", "osage"], ["osma", "osmanya"],
     ["ougr", "olduyghur"], ["palm", "palmyrene"], ["pauc", "paucinhau"], ["perm", "oldpermic"],
     ["phag", "phagspa"], ["phli", "inscriptionalpahlavi"], ["phlp", "psalterpahlavi"],
     ["phnx", "phoenician"], ["plrd", "miao"], ["prti", "inscriptionalparthian"],
     ["rjng", "rejang"], ["rohg", "hanifirohingya"], ["runr", "runic"], ["samr", "samaritan"],
     ["sarb", "oldsoutharabian"], ["saur", "saurashtra"], ["sgnw", "signwriting"],
     ["shaw", "shavian"], ["shrd", "sharada"], ["sidd", "siddham"], ["sind", "khudawadi"],
     ["sinh", "sinhala"], ["sogd", "sogdian"], ["sogo", "oldsogdian"], ["sora", "sorasompeng"],
     ["soyo", "soyombo"], ["sund", "sundanese"], ["sunu", "sunuwar"], ["sylo", "sylotinagri"],
     ["syrc", "syriac"], ["tagb", "tagbanwa"], ["takr", "takri"], ["tale", "taile"],
     ["talu", "newtailue"], ["taml", "tamil"], ["tang", "tangut"], ["tavt", "taiviet"],
     ["telu", "telugu"], ["tfng", "tifinagh"], ["tglg", "tagalog"], ["thaa", "thaana"], ["thai"],
     ["tibt", "tibetan"], ["tirh", "tirhuta"], ["tnsa", "tangsa"], ["todr", "todhri"], ["toto"],
     ["tutg", "tulutigalari"], ["ugar", "ugaritic"], ["vaii", "vai"], ["vith", "vithkuqi"],
     ["wara", "warangciti"], ["wcho", "wancho"], ["xpeo", "oldpersian"], ["xsux", "cuneiform"],
     ["yezi", "yezidi"], ["yiii", "yi"], ["zanb", "zanabazarsquare"], ["zinh", "inherited", "qaai"],
     ["zyyy", "common"]]
  runs :=
    "zyyy65 latn26 zyyy6 latn26 zyyy47 latn zyyy15 latn zyyy5 latn23 zyyy latn31 zyyy latn449
    zyyy39 latn5 zyyy5 bopo2 zyyy20 zinh112 grek4 zyyy grek3 zzzz2 grek4 zyyy grek zzzz4 grek
    zyyy grek zyyy grek3 zzzz grek zzzz grek20 zzzz grek63 copt14 grek16 cyrl133 zinh2 cyrl169
    zzzz armn38 zzzz2 armn50 zzzz2 armn3 zzzz hebr55 zzzz8 hebr27 zzzz4 hebr6 zzzz11 arab5 zyyy
    arab6 zyyy arab14 zyyy arab3 zyyy arab32 zyyy arab10 zinh11 arab26 zinh arab108 zyyy arab34
    syrc14 zzzz syrc60 zzzz2 syrc3 arab48 thaa50 zzzz14 nkoo59 zzzz2 nkoo3 samr46 zzzz2 samr15
    zzzz mand28 zzzz2 mand zzzz syrc11 zzzz5 arab31 zzzz arab2 zzzz5 arab75 zyyy arab29 deva81
    zinh4 deva15 zyyy2 deva26 beng4 zzzz beng8 zzzz2 beng2 zzzz2 beng22 zzzz beng7 zzzz beng
    zzzz3 beng4 zzzz2 beng9 zzzz2 beng2 zzzz2 beng4 zzzz8 beng zzzz4 beng2 zzzz beng5 zzzz2
    beng25 zzzz2 guru3 zzzz guru6 zzzz4 guru2 zzzz2 guru22 zzzz guru7 zzzz guru2 zzzz guru2 zzzz
    guru2 zzzz2 guru zzzz guru5 zzzz4 guru2 zzzz2 guru3 zzzz3 guru zzzz7 guru4 zzzz guru zzzz7
    guru17 zzzz10 gujr3 zzzz gujr9 zzzz gujr3 zzzz gujr22 zzzz gujr7 zzzz gujr2 zzzz gujr5 zzzz2
    gujr10 zzzz gujr3 zzzz gujr3 zzzz2 gujr zzzz15 gujr4 zzzz2 gujr12 zzzz7 gujr7 zzzz orya3
    zzzz orya8 zzzz2 orya2 zzzz2 orya22 zzzz orya7 zzzz orya2 zzzz orya5 zzzz2 orya9 zzzz2 orya2
    zzzz2 orya3 zzzz7 orya3 zzzz4 orya2 zzzz orya5 zzzz2 orya18 zzzz10 taml2 zzzz taml6 zzzz3
    taml3 zzzz taml4 zzzz3 taml2 zzzz taml zzzz taml2 zzzz3 taml2 zzzz3 taml3 zzzz3 taml12 zzzz4
    taml5 zzzz3 taml3 zzzz taml4 zzzz2 taml zzzz6 taml zzzz14 taml21 zzzz5 telu13 zzzz telu3
    zzzz telu23 zzzz telu16 zzzz2 telu9 zzzz telu3 zzzz telu4 zzzz7 telu2 zzzz telu3 zzzz2 telu
    zzzz2 telu4 zzzz2 telu10 zzzz7 telu9 knda13 zzzz knda3 zzzz knda23 zzzz knda10 zzzz knda5
    zzzz2 knda9 zzzz knda3 zzzz knda4 zzzz7 knda2 zzzz6 knda2 zzzz knda4 zzzz2 knda10 zzzz knda3
    zzzz12 mlym13 zzzz mlym3 zzzz mlym51 zzzz mlym3 zzzz mlym6 zzzz4 mlym16 zzzz2 mlym26 zzzz
    sinh3 zzzz sinh18 zzzz3 sinh24 zzzz sinh9 zzzz sinh zzzz2 sinh7 zzzz3 sinh zzzz4 sinh6 zzzz
    sinh zzzz sinh8 zzzz6 sinh10 zzzz2 sinh3 zzzz12 thai58 zzzz4 zyyy thai28 zzzz37 laoo2 zzzz
    laoo zzzz laoo5 zzzz laoo24 zzzz laoo zzzz laoo23 zzzz2 laoo5 zzzz laoo zzzz laoo7 zzzz
    laoo10 zzzz2 laoo4 zzzz32 tibt72 zzzz tibt36 zzzz4 tibt39 zzzz tibt36 zzzz tibt15 zzzz tibt7
    zyyy4 tibt2 zzzz37 mymr160 geor38 zzzz geor zzzz5 geor zzzz2 geor43 zyyy geor4 hang256
    ethi73 zzzz ethi4 zzzz2 ethi7 zzzz ethi zzzz ethi4 zzzz2 ethi41 zzzz ethi4 zzzz2 ethi33 zzzz
    ethi4 zzzz2 ethi7 zzzz ethi zzzz ethi4 zzzz2 ethi15 zzzz ethi57 zzzz ethi4 zzzz2 ethi67
    zzzz2 ethi32 zzzz3 ethi26 zzzz6 cher86 zzzz2 cher6 zzzz2 cans640 ogam29 zzzz3 runr75 zyyy3
    runr11 zzzz7 tglg22 zzzz9 tglg hano21 zyyy2 zzzz9 buhd20 zzzz12 tagb13 zzzz tagb3 zzzz tagb2
    zzzz12 khmr94 zzzz2 khmr10 zzzz6 khmr10 zzzz6 mong2 zyyy2 mong zyyy mong20 zzzz6 mong89
    zzzz7 mong43 zzzz5 cans70 zzzz10 limb31 zzzz limb12 zzzz4 limb12 zzzz4 limb zzzz3 limb12
    tale30 zzzz2 tale5 zzzz11 talu44 zzzz4 talu26 zzzz6 talu11 zzzz3 talu2 khmr32 bugi28 zzzz2
    bugi2 lana63 zzzz lana29 zzzz2 lana11 zzzz6 lana10 zzzz6 lana14 zzzz2 zinh31 zzzz49 bali77
    zzzz bali50 sund64 batk52 zzzz8 batk4 lepc56 zzzz3 lepc15 zzzz3 lepc3 olck48 cyrl11 zzzz5
    geor43 zzzz2 geor3 sund8 zzzz8 zinh3 zyyy zinh13 zyyy zinh7 zyyy4 zinh zyyy6 zinh zyyy3
    zinh2 zyyy zzzz5 latn38 grek5 cyrl latn49 grek5 latn4 grek5 latn13 cyrl latn70 grek zinh64
    latn256 grek22 zzzz2 grek6 zzzz2 grek38 zzzz2 grek6 zzzz2 grek8 zzzz grek zzzz grek zzzz
    grek zzzz grek31 zzzz2 grek53 zzzz grek15 zzzz grek14 zzzz2 grek6 zzzz grek19 zzzz2 grek3
    zzzz grek9 zzzz zyyy12 zinh2 zyyy87 zzzz zyyy11 latn zzzz2 zyyy11 latn zyyy15 zzzz latn13
    zzzz3 zyyy33 zzzz15 zinh33 zzzz15 zyyy38 grek zyyy3 latn2 zyyy6 latn zyyy27 latn zyyy17
    latn41 zyyy3 zzzz4 zyyy666 zzzz22 zyyy11 zzzz21 zyyy928 brai256 zyyy628 zzzz2 zyyy32 zzzz
    zyyy105 glag96 latn32 copt116 zzzz5 copt7 geor38 zzzz geor zzzz5 geor zzzz2 tfng56 zzzz7
    tfng2 zzzz14 tfng ethi23 zzzz9 ethi7 zzzz ethi7 zzzz ethi7 zzzz ethi7 zzzz ethi7 zzzz ethi7
    zzzz ethi7 zzzz ethi7 zzzz cyrl32 zyyy94 zzzz34 hani26 zzzz hani89 zzzz12 hani214 zzzz26
    zyyy21 hani zyyy hani zyyy25 hani9 zinh4 hang2 zyyy8 hani4 zyyy4 zzzz hira86 zzzz2 zinh2
    zyyy2 hira3 zyyy kana90 zyyy2 kana3 zzzz5 bopo43 zzzz hang94 zzzz zyyy16 bopo32 zyyy38 zzzz9
    zyyy kana16 hang31 zzzz zyyy64 hang31 zyyy81 kana47 zyyy kana88 zyyy168 hani6592 zyyy64
    hani20992 yiii1165 zzzz3 yiii55 zzzz9 lisu48 vaii300 zzzz20 cyrl96 bamu88 zzzz8 zyyy34
    latn102 zyyy3 latn67 zzzz2 latn2 zzzz latn zzzz latn8 zzzz21 latn14 sylo45 zzzz3 zyyy10
    zzzz6 phag56 zzzz8 saur70 zzzz8 saur12 zzzz6 deva32 kali46 zyyy kali rjng36 zzzz11 rjng
    hang29 zzzz3 java78 zzzz zyyy java10 zzzz4 java2 mymr31 zzzz cham55 zzzz9 cham14 zzzz2
    cham10 zzzz2 cham4 mymr32 tavt67 zzzz24 tavt5 mtei23 zzzz10 ethi6 zzzz2 ethi6 zzzz2 ethi6
    zzzz9 ethi7 zzzz ethi7 zzzz latn43 zyyy latn9 grek latn4 zyyy2 zzzz4 cher80 mtei46 zzzz2
    mtei10 zzzz6 hang11172 zzzz12 hang23 zzzz4 hang49 zzzz8452 hani366 zzzz2 hani106 zzzz38
    latn7 zzzz12 armn5 zzzz5 hebr26 zzzz hebr5 zzzz hebr zzzz hebr2 zzzz hebr2 zzzz hebr10
    arab115 zzzz16 arab363 zyyy2 arab80 zzzz2 arab54 zzzz7 arab zzzz32 arab16 zinh16 zyyy10
    zzzz6 zinh14 cyrl2 zyyy35 zzzz zyyy19 zzzz zyyy4 zzzz4 arab5 zzzz arab135 zzzz2 zyyy zzzz
    zyyy32 latn26 zyyy6 latn26 zyyy11 kana10 zyyy kana45 zyyy2 hang31 zzzz3 hang6 zzzz2 hang6
    zzzz2 hang6 zzzz2 hang3 zzzz3 zyyy7 zzzz zyyy7 zzzz10 zyyy5 zzzz2 linb12 zzzz linb26 zzzz
    linb19 zzzz linb2 zzzz linb15 zzzz2 linb14 zzzz34 linb123 zzzz5 zyyy3 zzzz4 zyyy45 zzzz3
    zyyy9 grek79 zzzz zyyy13 zzzz3 grek zzzz47 zyyy45 zinh zzzz130 lyci29 zzzz3 cari49 zzzz15
    zinh zyyy27 zzzz4 ital36 zzzz9 ital3 goth27 zzzz5 perm43 zzzz5 ugar30 zzzz ugar xpeo36 zzzz4
    xpeo14 zzzz42 dsrt80 shaw48 osma30 zzzz2 osma10 zzzz6 osge36 zzzz4 osge36 zzzz4 elba40 zzzz8
    aghb52 zzzz11 aghb vith11 zzzz vith15 zzzz vith7 zzzz vith2 zzzz vith11 zzzz vith15 zzzz
    vith7 zzzz vith2 zzzz3 todr52 zzzz12 lina311 zzzz9 lina22 zzzz10 lina8 zzzz24 latn6 zzzz
    latn42 zzzz latn9 zzzz69 cprt6 zzzz2 cprt zzzz cprt44 zzzz cprt2 zzzz3 cprt zzzz2 cprt
    armi22 zzzz armi9 palm32 nbat31 zzzz8 nbat9 zzzz48 hatr19 zzzz hatr2 zzzz5 hatr5 phnx28
    zzzz3 phnx lydi26 zzzz5 lydi zzzz64 mero32 merc24 zzzz4 merc20 zzzz2 merc46 khar4 zzzz khar2
    zzzz5 khar8 zzzz khar3 zzzz khar29 zzzz2 khar3 zzzz4 khar10 zzzz7 khar9 zzzz7 sarb32 narb32
    zzzz32 mani39 zzzz4 mani12 zzzz9 avst54 zzzz3 avst7 prti22 zzzz2 prti8 phli19 zzzz5 phli8
    phlp18 zzzz7 phlp4 zzzz12 phlp7 zzzz80 orkh73 zzzz55 hung51 zzzz13 hung51 zzzz7 hung6 rohg40
    zzzz8 rohg10 zzzz6 gara38 zzzz3 gara29 zzzz8 gara2 zzzz208 arab31 zzzz yezi42 zzzz yezi3
    zzzz2 yezi2 zzzz16 arab3 zzzz55 arab4 sogo40 zzzz8 sogd42 zzzz22 ougr26 zzzz38 chrs28 zzzz20
    elym23 zzzz9 brah78 zzzz4 brah36 zzzz9 brah kthi67 zzzz10 kthi zzzz2 sora25 zzzz7 sora10
    zzzz6 cakm53 zzzz cakm18 zzzz8 mahj39 zzzz9 shrd96 zzzz sinh20 zzzz11 khoj18 zzzz khoj47
    zzzz62 mult7 zzzz mult zzzz mult4 zzzz mult15 zzzz mult11 zzzz6 sind59 zzzz5 sind10 zzzz6
    gran4 zzzz gran8 zzzz2 gran2 zzzz2 gran22 zzzz gran7 zzzz gran2 zzzz gran5 zzzz zinh gran9
    zzzz2 gran2 zzzz2 gran3 zzzz2 gran zzzz6 gran zzzz5 gran7 zzzz2 gran7 zzzz3 gran5 zzzz11
    tutg10 zzzz tutg zzzz2 tutg zzzz tutg38 zzzz tutg10 zzzz tutg zzzz2 tutg zzzz tutg4 zzzz
    tutg10 zzzz tutg2 zzzz8 tutg2 zzzz29 newa92 zzzz newa5 zzzz30 tirh72 zzzz8 tirh10 zzzz166
    sidd54 zzzz2 sidd38 zzzz34 modi69 zzzz11 modi10 zzzz6 mong13 zzzz19 takr58 zzzz6 takr10
    zzzz6 mymr20 zzzz28 ahom27 zzzz2 ahom15 zzzz4 ahom23 zzzz185 dogr60 zzzz100 wara83 zzzz12
    wara diak7 zzzz2 diak zzzz2 diak8 zzzz diak2 zzzz diak30 zzzz diak2 zzzz2 diak12 zzzz9
    diak10 zzzz70 nand8 zzzz2 nand46 zzzz2 nand11 zzzz27 zanb72 zzzz8 soyo83 zzzz13 cans16
    pauc57 zzzz7 deva10 zzzz182 sunu34 zzzz14 sunu10 zzzz6 bhks9 zzzz bhks45 zzzz bhks14 zzzz10
    bhks29 zzzz3 marc32 zzzz2 marc22 zzzz marc14 zzzz73 gonm7 zzzz gonm2 zzzz gonm44 zzzz3 gonm
    zzzz gonm2 zzzz gonm9 zzzz8 gonm10 zzzz6 gong6 zzzz gong2 zzzz gong37 zzzz gong2 zzzz gong6
    zzzz7 gong10 zzzz310 maka25 zzzz7 kawi17 zzzz kawi41 zzzz3 kawi29 zzzz85 lisu zzzz15 taml50
    zzzz13 taml xsux922 zzzz102 xsux111 zzzz xsux5 zzzz11 xsux196 zzzz2636 cpmn99 zzzz13
    egyp1110 zzzz10 egyp3995 zzzz5 hluw583 zzzz6841 gukh58 zzzz1734 bamu569 zzzz7 mroo31 zzzz
    mroo10 zzzz4 mroo2 tnsa79 zzzz tnsa10 zzzz6 bass30 zzzz2 bass6 zzzz10 hmng70 zzzz10 hmng10
    zzzz hmng7 zzzz hmng21 zzzz5 hmng19 zzzz432 krai58 zzzz198 medf91 zzzz101 plrd75 zzzz4
    plrd57 zzzz7 plrd17 zzzz64 tang nshu hani2 kits zzzz11 hani2 zzzz14 tang6136 zzzz8 tang768
    kits470 zzzz41 kits tang9 zzzz8935 kana4 zzzz kana7 zzzz kana2 zzzz kana hira287 kana3
    zzzz15 hira zzzz29 hira3 zzzz2 kana zzzz14 kana4 zzzz8 nshu396 zzzz2308 dupl107 zzzz5 dupl13
    zzzz3 dupl9 zzzz7 dupl10 zzzz2 dupl4 zyyy4 zzzz3932 zyyy250 zzzz6 zyyy436 zzzz76 zinh46
    zzzz2 zinh23 zzzz9 zyyy116 zzzz60 zyyy246 zzzz10 zyyy39 zzzz2 zyyy62 zinh3 zyyy17 zinh8
    zyyy2 zinh7 zyyy30 zinh4 zyyy61 zzzz21 grek70 zzzz122 zyyy20 zzzz12 zyyy20 zzzz12 zyyy87
    zzzz9 zyyy25 zzzz135 zyyy85 zzzz zyyy71 zzzz zyyy2 zzzz2 zyyy zzzz2 zyyy2 zzzz2 zyyy4 zzzz
    zyyy12 zzzz zyyy zzzz zyyy7 zzzz zyyy65 zzzz zyyy4 zzzz2 zyyy8 zzzz zyyy7 zzzz zyyy28 zzzz
    zyyy4 zzzz zyyy5 zzzz zyyy zzzz3 zyyy7 zzzz zyyy340 zzzz2 zyyy292 zzzz2 zyyy50 sgnw652
    zzzz15 sgnw5 zzzz sgnw15 zzzz1104 latn31 zzzz6 latn6 zzzz213 glag7 zzzz glag17 zzzz2 glag7
    zzzz glag2 zzzz glag5 zzzz5 cyrl62 zzzz33 cyrl zzzz112 hmnp45 zzzz3 hmnp14 zzzz2 hmnp10
    zzzz4 hmnp2 zzzz320 toto31 zzzz17 wcho58 zzzz5 wcho zzzz464 nagm42 zzzz214 onao43 zzzz4 onao
    zzzz480 ethi7 zzzz ethi4 zzzz ethi2 zzzz ethi15 zzzz mend197 zzzz2 mend16 zzzz41 adlm76
    zzzz4 adlm10 zzzz4 adlm2 zzzz785 zyyy68 zzzz76 zyyy61 zzzz194 arab4 zzzz arab27 zzzz arab2
    zzzz arab zzzz2 arab zzzz arab10 zzzz arab4 zzzz arab zzzz arab zzzz6 arab zzzz4 arab zzzz
    arab zzzz arab zzzz arab3 zzzz arab2 zzzz arab zzzz2 arab zzzz arab zzzz arab zzzz arab zzzz
    arab zzzz arab2 zzzz arab zzzz2 arab4 zzzz arab7 zzzz arab4 zzzz arab4 zzzz arab zzzz arab10
    zzzz arab17 zzzz5 arab3 zzzz arab5 zzzz arab17 zzzz52 arab2 zzzz270 zyyy44 zzzz4 zyyy100
    zzzz12 zyyy15 zzzz2 zyyy15 zzzz zyyy15 zzzz zyyy37 zzzz10 zyyy174 zzzz56 zyyy26 hira zyyy2
    zzzz13 zyyy44 zzzz4 zyyy9 zzzz7 zyyy2 zzzz14 zyyy6 zzzz154 zyyy984 zzzz4 zyyy17 zzzz3 zyyy13
    zzzz3 zyyy119 zzzz4 zyyy95 zzzz6 zyyy12 zzzz4 zyyy zzzz15 zyyy12 zzzz4 zyyy56 zzzz8 zyyy10
    zzzz6 zyyy40 zzzz8 zyyy30 zzzz2 zyyy12 zzzz4 zyyy2 zzzz62 zyyy340 zzzz12 zyyy14 zzzz2 zyyy13
    zzzz3 zyyy10 zzzz5 zyyy56 zzzz7 zyyy15 zzzz2 zyyy11 zzzz6 zyyy9 zzzz7 zyyy147 zzzz zyyy102
    zzzz1030 hani42720 zzzz32 hani4154 zzzz6 hani222 zzzz2 hani5762 zzzz14 hani7473 zzzz15
    hani622 zzzz2466 hani542 zzzz1506 hani4939 zzzz5 hani4192 zzzz711761 zyyy zzzz30 zyyy96
    zzzz128 zinh240 zzzz196112"

/-- The characters that are used with other scripts than their own one. Their labels list these
scripts with plus signs in between; all other characters have an empty label. -/
def scriptExtensionRuns : String :=
  "183 avst+cari+copt+dupl+elba+geor+glag+gong+goth+grek+hani+latn+lydi+mahj+perm+shaw 516
  beng+cyrl+deva+latn+lisu+thai+toto 10 bopo+latn 1 bopo+latn3 1 latn+lisu 9 latn+thai 1
  bopo+latn 38 cher+copt+cyrl+grek+latn+perm+sunu+tale cher+cyrl+grek+latn+osge+sunu+tale+todr
  cher+cyrl+latn+tfng glag+latn+sunu+syrc+thai
  aghb+cher+copt+cyrl+goth+grek+latn+osge+syrc+tfng+todr copt+elba+glag+goth+kana+latn
  cyrl+grek+latn+perm copt+dupl+hebr+latn+perm+syrc+tale+tfng+todr
  armn+cyrl+dupl+goth+grek+hebr+latn+perm+syrc+tale latn+tfng dupl+latn+syrc
  cher+cyrl+latn+osge cher+latn+tale latn+sunu ethi+latn 1 latn+sunu cyrl+latn+todr 1
  grek+latn+perm+todr 12 latn+syrc 2 cher+dupl+kana+latn+syrc cher+dupl+latn+syrc latn+syrc 7
  latn+sunu+syrc latn+syrc 1 cher+latn+syrc aghb+cher+goth+latn+sunu+thai 16 grek 2 grek 18
  latn+osge 5 aghb+latn+todr 4 latn13 4 copt+grek2 269 cyrl+perm cyrl+glag cyrl+latn2
  cyrl+glag 257 armn+geor+glag 130 arab+gara+nkoo+rohg+syrc+thaa+yezi 14
  arab+gara+nkoo+rohg+syrc+thaa+yezi arab+syrc+thaa 2 adlm+arab+gara+nkoo+rohg+syrc+thaa+yezi
  32 adlm+arab+mand+mani+ougr+phlp+rohg+sogd+syrc 10 arab+syrc11 10 arab+thaa+yezi10 6
  arab+syrc 99 arab+rohg 636 beng+deva+gran+gujr+guru+knda+latn+mlym+orya+shrd+taml+telu+tirh
  beng+deva+gran+gujr+guru+knda+latn+mlym+orya+taml+telu+tirh 17
  beng+deva+dogr+gong+gonm+gran+gujr+guru+knda+mahj+mlym+nand+onao+orya+sind+sinh+sylo+takr+taml+telu+tirh
  beng+deva+dogr+gong+gonm+gran+gujr+gukh+guru+knda+limb+mahj+mlym+nand+onao+orya+sind+sinh+sylo+takr+taml+telu+tirh
  deva+dogr+kthi+mahj10 118 beng+cakm+sylo10 118 guru+mult10 118 gujr+khoj10 246 gran+taml14
  242 knda+nand+tutg10 848 cakm+mymr+tale10 177 geor+glag+latn 1519 runr3 71
  buhd+hano+tagb+tglg2 203 mong+phag2 1 mong+phag 1226 beng+deva+gran+knda deva
  beng+deva+gran+knda deva+gran+knda deva beng+deva2 deva+shrd beng+deva deva+shrd
  deva+knda+mlym+orya+taml+telu deva deva+shrd2 deva2 deva+shrd beng+deva deva7 deva+nand
  beng+deva deva2 beng+deva deva4 beng+deva+gran+knda+mlym+nand+orya+sinh+telu+tirh+tutg
  deva+gran deva+gran+knda+tutg beng+deva2 beng deva+gran2 nand 197 grek2 54 cyrl+latn+syrc 1
  syrc 564 latn+mong+phag 31 adlm+arab 10 cari+geor+glag+hung+lyci+orkh 2 cari+grek+hung+mero
  146 deva+gran+latn 3366 copt+latn 24 avst+orkh avst+cari+geor+hung+kthi+lydi+samr 10 dupl 4
  adlm+arab+hung 1 cyrl+glag 428 hani+tang16 1 bopo+hang+hani+hira+kana+mong+yiii
  bopo+hang+hani+hira+kana+mong+phag+yiii bopo+hang+hani+hira+kana 2 hani 1
  bopo+hang+hani+hira+kana+mong+tibt+yiii2 bopo+hang+hani+hira+kana+lisu+mong+tibt+yiii2
  bopo+hang+hani+hira+kana+yiii6 1 bopo+hang+hani+hira+kana bopo+hang+hani+hira+kana+yiii8
  bopo+hang+hani+hira+kana4 10 bopo+hani4 2 bopo+hang+hani+hira+kana hira+kana5 1
  bopo+hang+hani+hira+kana 4 hani+hira+kana2 hani2 89 hira+kana4 3 hira+kana 90
  bopo+hang+hani+hira+kana+yiii hira+kana 147 hani16 32 hani38 9 hani+tang 48 hani40 56 hani49
  15 hani12 51 hani 88 hani25 10 hani5 96 hani31 29296 cyrl+glag 144 hani+latn8 296
  deva+dogr+gujr+guru+khoj+knda+kthi+mahj+mlym+modi+nand+shrd+sind+takr+tirh+tutg3
  deva+dogr+gujr+guru+khoj+knda+kthi+mahj+modi+nand+shrd+sind+takr+tirh+tutg3
  deva+dogr+gujr+guru+khoj+kthi+mahj+modi+sind+takr+tirh2
  deva+dogr+gujr+guru+khoj+kthi+mahj+modi+shrd+sind+takr+tirh
  deva+dogr+gujr+guru+khoj+kthi+mahj+modi+sind+takr+tirh 183 beng+deva+tutg 1 deva+taml 58
  kali+latn+mymr 160 bugi+java 21358 arab+nkoo2 178 arab+thaa 10 arab+thaa 71
  bopo+hang+hani+hira+kana2 282 bopo+hang+hani+hira+kana+yiii5 10 hira+kana 45 hira+kana2 352
  cpmn+cprt+linb2 cprt+linb 4 cprt+lina+linb45 3 cprt+linb9 416 arab+copt28 2038 mani+ougr
  2062 gran+taml 1 gran+taml 55 gran+taml2 3219 gran+taml2 1 gran+taml 40140 dupl4 5820 hani18
  7902 hani2"

end HeaderBindings.Pattern.Property
