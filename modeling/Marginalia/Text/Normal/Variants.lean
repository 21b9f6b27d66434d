/-!
# Variants of characters

Letters that stand for other letters: the same letter in another width, position or face, and
ligatures that stand for several, among the characters that names may hold, after Unicode 14.

## Main definitions

* `Variants`: neighbouring variants and what they stand for
* `simpleVariants`, `ligatures`: all of them
-/

namespace Marginalia

/-- Neighbouring variants and what they stand for. -/
structure Variants where
  /-- The code point of the first variant. -/
  first : Nat
  /-- What the variants stand for, in order. -/
  meanings : String

/-- The variants that stand for one character each. -/
def simpleVariants : List Variants :=
  [⟨0xaa, "a"⟩, ⟨0xb5, "μ"⟩, ⟨0xba, "o"⟩, ⟨0x17f, "s"⟩, ⟨0x2b0, "hɦjrɹɻʁwy"⟩, ⟨0x2e0, "ɣlsxʕ"⟩,
   ⟨0x340, "\u0300\u0301"⟩, ⟨0x343, "\u0313"⟩, ⟨0x374, "ʹ"⟩, ⟨0x387, "·"⟩, ⟨0x3d0, "βθΥ"⟩,
   ⟨0x3d5, "φπ"⟩, ⟨0x3f0, "κρς"⟩, ⟨0x3f4, "Θε"⟩, ⟨0x3f9, "Σ"⟩, ⟨0x10fc, "ნ"⟩, ⟨0x1d2c, "AÆB"⟩,
   ⟨0x1d30, "DEƎGHIJKLMN"⟩, ⟨0x1d3c, "OȢPRTUWaɐɑᴂbdeəɛɜg"⟩,
   ⟨0x1d4f, "kmŋoɔᴖᴗptuᴝɯvᴥβγδφχiruvβγρφχ"⟩, ⟨0x1d78, "н"⟩,
   ⟨0x1d9b, "ɒcɕðɜfɟɡɥɨɩɪᵻʝɭᶅʟɱɰɲɳɴɵɸʂʃƫʉʊᴜʋʌzʐʑʒθ"⟩, ⟨0x1fbe, "ι"⟩, ⟨0x2071, "i"⟩, ⟨0x207f, "n"⟩,
   ⟨0x2090, "aeoxəhklmnpst"⟩, ⟨0x2102, "C"⟩, ⟨0x2107, "Ɛ"⟩, ⟨0x210a, "gHHHhħIILl"⟩, ⟨0x2115, "N"⟩,
   ⟨0x2119, "PQRRR"⟩, ⟨0x2124, "Z"⟩, ⟨0x2126, "Ω"⟩, ⟨0x2128, "Z"⟩, ⟨0x212a, "K"⟩, ⟨0x212c, "BC"⟩,
   ⟨0x212f, "eEF"⟩, ⟨0x2133, "Mo\u05d0\u05d1\u05d2\u05d3i"⟩, ⟨0x213c, "πγΓΠ"⟩, ⟨0x2145, "Ddeij"⟩,
   ⟨0x2160, "I"⟩, ⟨0x2164, "V"⟩, ⟨0x2169, "X"⟩, ⟨0x216c, "LCDMi"⟩, ⟨0x2174, "v"⟩, ⟨0x2179, "x"⟩,
   ⟨0x217c, "lcdm"⟩, ⟨0x2c7c, "jV"⟩, ⟨0x2d6f, "ⵡ"⟩, ⟨0x3038, "十卄卅"⟩,
   ⟨0x3131, "ᄀᄁᆪᄂᆬᆭᄃᄄᄅᆰᆱᆲᆳᆴᆵᄚᄆᄇᄈᄡᄉᄊᄋᄌᄍᄎᄏᄐᄑ하ᅢᅣᅤᅥᅦᅧᅨᅩᅪᅫᅬᅭᅮᅯᅰᅱᅲᅳᅴᅵᅠᄔᄕᇇᇈᇌᇎᇓᇗᇙᄜᇝᇟᄝᄞᄠᄢᄣᄧᄩᄫᄬᄭᄮᄯᄲᄶᅀᅇᅌᇱ" ++
     "ᇲᅗᅘᅙᆄᆅᆈᆑᆒᆔᆞᆡ"⟩,
   ⟨0xa69c, "ъь"⟩, ⟨0xa770, "ꝯ"⟩, ⟨0xa7f2, "CFQ"⟩, ⟨0xa7f8, "Ħœ"⟩, ⟨0xab5c, "ꜧꬷɫꭒ"⟩, ⟨0xab69, "ʍ"⟩,
   ⟨0xf900, "豈更車賈滑串句龜龜契金喇奈懶癩羅蘿螺裸邏樂洛烙珞落酪駱亂卵欄爛蘭鸞嵐濫藍襤拉臘蠟廊朗浪狼郎來冷勞擄櫓爐盧老蘆虜路露魯鷺碌祿綠菉錄鹿論壟弄籠聾牢磊賂雷壘屢樓淚漏累縷陋" ++
     "勒肋凜凌稜綾菱陵讀拏樂諾丹寧怒率異北磻便復不泌數索參塞省葉說殺辰沈拾若掠略亮兩凉梁糧良諒量勵呂女廬旅濾礪閭驪麗黎力曆歷轢年憐戀撚漣煉璉秊練聯輦蓮連鍊列劣咽烈裂說廉念捻殮簾獵令囹寧" ++
     "嶺怜玲瑩羚聆鈴零靈領例禮醴隸惡了僚寮尿料樂燎療蓼遼龍暈阮劉杻柳流溜琉留硫紐類六戮陸倫崙淪輪律慄栗率隆利吏履易李梨泥理痢罹裏裡里離匿溺吝燐璘藺隣鱗麟林淋臨立笠粒狀炙識什茶刺切度拓糖" ++
     "宅洞暴輻行降見廓兀嗀"⟩,
   ⟨0xfa10, "塚"⟩, ⟨0xfa12, "晴"⟩, ⟨0xfa15, "凞猪益礼神祥福靖精羽"⟩, ⟨0xfa20, "蘒"⟩, ⟨0xfa22, "諸"⟩,
   ⟨0xfa25, "逸都"⟩, ⟨0xfa2a, "飯飼館鶴郞隷侮僧免勉勤卑喝嘆器塀墨層屮悔慨憎懲敏既暑梅海渚漢煮爫琢碑社祉祈祐祖祝禍禎穀突節練縉繁署者臭艹艹著褐視謁謹賓贈辶逸難響頻恵𤋮舘"⟩,
   ⟨0xfa70, "並况全侀充冀勇勺喝啕喙嗢塚墳奄奔婢嬨廒廙彩徭惘慎愈憎慠懲戴揄搜摒敖晴朗望杖歹殺流滛滋漢瀞煮瞧爵犯猪瑱甆画瘝瘟益盛直睊着磌窱節类絛練缾者荒華蝹襁覆視調諸請謁諾諭謹變贈" ++
     "輸遲醙鉶陼難靖韛響頋頻鬒龜𢡊𢡄𣏕㮝䀘䀹𥉉𥳐𧻓齃龎"⟩,
   ⟨0xfb20, "\u05e2\u05d0\u05d3\u05d4\u05db\u05dc\u05dd\u05e8\u05ea"⟩,
   ⟨0xfb50, "\u0671\u0671\u067b\u067b\u067b\u067b\u067e\u067e\u067e\u067e\u0680\u0680\u0680" ++
     "\u0680\u067a\u067a\u067a\u067a\u067f\u067f\u067f\u067f\u0679\u0679\u0679\u0679\u06a4" ++
     "\u06a4\u06a4\u06a4\u06a6\u06a6\u06a6\u06a6\u0684\u0684\u0684\u0684\u0683\u0683\u0683" ++
     "\u0683\u0686\u0686\u0686\u0686\u0687\u0687\u0687\u0687\u068d\u068d\u068c\u068c\u068e" ++
     "\u068e\u0688\u0688\u0698\u0698\u0691\u0691\u06a9\u06a9\u06a9\u06a9\u06af\u06af\u06af" ++
     "\u06af\u06b3\u06b3\u06b3\u06b3\u06b1\u06b1\u06b1\u06b1\u06ba\u06ba\u06bb\u06bb\u06bb" ++
     "\u06bb"⟩,
   ⟨0xfba6, "\u06c1\u06c1\u06c1\u06c1\u06be\u06be\u06be\u06be\u06d2\u06d2"⟩,
   ⟨0xfbd3, "\u06ad\u06ad\u06ad\u06ad\u06c7\u06c7\u06c6\u06c6\u06c8\u06c8"⟩,
   ⟨0xfbde, "\u06cb\u06cb\u06c5\u06c5\u06c9\u06c9\u06d0\u06d0\u06d0\u06d0\u0649\u0649"⟩,
   ⟨0xfbfc, "\u06cc\u06cc\u06cc\u06cc"⟩, ⟨0xfe33, "__"⟩, ⟨0xfe4d, "___"⟩, ⟨0xfe80, "\u0621"⟩,
   ⟨0xfe8d, "\u0627\u0627\u0628\u0628\u0628\u0628\u0629\u0629\u062a\u062a\u062a\u062a\u062b" ++
     "\u062b\u062b\u062b\u062c\u062c\u062c\u062c\u062d\u062d\u062d\u062d\u062e\u062e\u062e" ++
     "\u062e\u062f\u062f\u0630\u0630\u0631\u0631\u0632\u0632\u0633\u0633\u0633\u0633\u0634" ++
     "\u0634\u0634\u0634\u0635\u0635\u0635\u0635\u0636\u0636\u0636\u0636\u0637\u0637\u0637" ++
     "\u0637\u0638\u0638\u0638\u0638\u0639\u0639\u0639\u0639\u063a\u063a\u063a\u063a\u0641" ++
     "\u0641\u0641\u0641\u0642\u0642\u0642\u0642\u0643\u0643\u0643\u0643\u0644\u0644\u0644" ++
     "\u0644\u0645\u0645\u0645\u0645\u0646\u0646\u0646\u0646\u0647\u0647\u0647\u0647\u0648" ++
     "\u0648\u0649\u0649\u064a\u064a\u064a\u064a"⟩,
   ⟨0xff10, "0123456789"⟩, ⟨0xff21, "ABCDEFGHIJKLMNOPQRSTUVWXYZ"⟩, ⟨0xff3f, "_"⟩,
   ⟨0xff41, "abcdefghijklmnopqrstuvwxyz"⟩,
   ⟨0xff66, "ヲァィゥェォャュョッーアイウエオカキクケコサシスセソタチツテトナニヌネノハヒフヘホマミムメモヤユヨラリルレロワン\u3099\u309aᅠᄀᄁᆪᄂᆬᆭᄃᄄᄅᆰᆱᆲᆳ" ++
     "ᆴᆵᄚᄆᄇᄈᄡᄉᄊᄋᄌᄍᄎᄏᄐᄑᄒ"⟩,
   ⟨0xffc2, "ᅡᅢᅣᅤᅥᅦ"⟩, ⟨0xffca, "ᅧᅨᅩᅪᅫᅬ"⟩, ⟨0xffd2, "ᅭᅮᅯᅰᅱᅲ"⟩, ⟨0xffda, "ᅳᅴᅵ"⟩, ⟨0x10781, "ːˑæʙɓ"⟩,
   ⟨0x10787, "ʣꭦʥʤɖɗᶑɘɞʩɤɢɠʛħʜɧʄʪʫɬ𝼄ꞎɮ𝼅ʎ𝼆øɶɷqɺ𝼈ɽɾʀʨʦꭧʧʈⱱ"⟩, ⟨0x107b2, "ʏʡʢʘǀǁǂ𝼊𝼞"⟩,
   ⟨0x1d400, "ABCDEFGHIJKLMNOPQRSTUVWXYZabcdefghijklmnopqrstuvwxyzABCDEFGHIJKLMNOPQRSTUVWXYZabc" ++
     "defg"⟩,
   ⟨0x1d456, "ijklmnopqrstuvwxyzABCDEFGHIJKLMNOPQRSTUVWXYZabcdefghijklmnopqrstuvwxyzA"⟩,
   ⟨0x1d49e, "CD"⟩, ⟨0x1d4a2, "G"⟩, ⟨0x1d4a5, "JK"⟩, ⟨0x1d4a9, "NOPQ"⟩, ⟨0x1d4ae, "STUVWXYZabcd"⟩,
   ⟨0x1d4bb, "f"⟩, ⟨0x1d4bd, "hijklmn"⟩,
   ⟨0x1d4c5, "pqrstuvwxyzABCDEFGHIJKLMNOPQRSTUVWXYZabcdefghijklmnopqrstuvwxyzAB"⟩,
   ⟨0x1d507, "DEFG"⟩, ⟨0x1d50d, "JKLMNOPQ"⟩, ⟨0x1d516, "STUVWXY"⟩,
   ⟨0x1d51e, "abcdefghijklmnopqrstuvwxyzAB"⟩, ⟨0x1d53b, "DEFG"⟩, ⟨0x1d540, "IJKLM"⟩, ⟨0x1d546, "O"⟩,
   ⟨0x1d54a, "STUVWXY"⟩,
   ⟨0x1d552, "abcdefghijklmnopqrstuvwxyzABCDEFGHIJKLMNOPQRSTUVWXYZabcdefghijklmnopqrstuvwxyzABC" ++
     "DEFGHIJKLMNOPQRSTUVWXYZabcdefghijklmnopqrstuvwxyzABCDEFGHIJKLMNOPQRSTUVWXYZabcdefghijklmn" ++
     "opqrstuvwxyzABCDEFGHIJKLMNOPQRSTUVWXYZabcdefghijklmnopqrstuvwxyzABCDEFGHIJKLMNOPQRSTUVWXY" ++
     "ZabcdefghijklmnopqrstuvwxyzABCDEFGHIJKLMNOPQRSTUVWXYZabcdefghijklmnopqrstuvwxyzıȷ"⟩,
   ⟨0x1d6a8, "ΑΒΓΔΕΖΗΘΙΚΛΜΝΞΟΠΡΘΣΤΥΦΧΨΩ"⟩, ⟨0x1d6c2, "αβγδεζηθικλμνξοπρςστυφχψω"⟩,
   ⟨0x1d6dc, "εθκφρπΑΒΓΔΕΖΗΘΙΚΛΜΝΞΟΠΡΘΣΤΥΦΧΨΩ"⟩, ⟨0x1d6fc, "αβγδεζηθικλμνξοπρςστυφχψω"⟩,
   ⟨0x1d716, "εθκφρπΑΒΓΔΕΖΗΘΙΚΛΜΝΞΟΠΡΘΣΤΥΦΧΨΩ"⟩, ⟨0x1d736, "αβγδεζηθικλμνξοπρςστυφχψω"⟩,
   ⟨0x1d750, "εθκφρπΑΒΓΔΕΖΗΘΙΚΛΜΝΞΟΠΡΘΣΤΥΦΧΨΩ"⟩, ⟨0x1d770, "αβγδεζηθικλμνξοπρςστυφχψω"⟩,
   ⟨0x1d78a, "εθκφρπΑΒΓΔΕΖΗΘΙΚΛΜΝΞΟΠΡΘΣΤΥΦΧΨΩ"⟩, ⟨0x1d7aa, "αβγδεζηθικλμνξοπρςστυφχψω"⟩,
   ⟨0x1d7c4, "εθκφρπϜϝ"⟩, ⟨0x1d7ce, "01234567890123456789012345678901234567890123456789"⟩,
   ⟨0x1ee00, "\u0627\u0628\u062c\u062f"⟩,
   ⟨0x1ee05, "\u0648\u0632\u062d\u0637\u064a\u0643\u0644\u0645\u0646\u0633\u0639\u0641\u0635" ++
     "\u0642\u0631\u0634\u062a\u062b\u062e\u0630\u0636\u0638\u063a\u066e\u06ba\u06a1\u066f"⟩,
   ⟨0x1ee21, "\u0628\u062c"⟩, ⟨0x1ee24, "\u0647"⟩, ⟨0x1ee27, "\u062d"⟩,
   ⟨0x1ee29, "\u064a\u0643\u0644\u0645\u0646\u0633\u0639\u0641\u0635\u0642"⟩,
   ⟨0x1ee34, "\u0634\u062a\u062b\u062e"⟩, ⟨0x1ee39, "\u0636"⟩, ⟨0x1ee3b, "\u063a"⟩,
   ⟨0x1ee42, "\u062c"⟩, ⟨0x1ee47, "\u062d"⟩, ⟨0x1ee49, "\u064a"⟩, ⟨0x1ee4b, "\u0644"⟩,
   ⟨0x1ee4d, "\u0646\u0633\u0639"⟩, ⟨0x1ee51, "\u0635\u0642"⟩, ⟨0x1ee54, "\u0634"⟩,
   ⟨0x1ee57, "\u062e"⟩, ⟨0x1ee59, "\u0636"⟩, ⟨0x1ee5b, "\u063a"⟩, ⟨0x1ee5d, "\u06ba"⟩,
   ⟨0x1ee5f, "\u066f"⟩, ⟨0x1ee61, "\u0628\u062c"⟩, ⟨0x1ee64, "\u0647"⟩,
   ⟨0x1ee67, "\u062d\u0637\u064a\u0643"⟩, ⟨0x1ee6c, "\u0645\u0646\u0633\u0639\u0641\u0635\u0642"⟩,
   ⟨0x1ee74, "\u0634\u062a\u062b\u062e"⟩, ⟨0x1ee79, "\u0636\u0638\u063a\u066e"⟩,
   ⟨0x1ee7e, "\u06a1"⟩, ⟨0x1ee80, "\u0627\u0628\u062c\u062f\u0647\u0648\u0632\u062d\u0637\u064a"⟩,
   ⟨0x1ee8b, "\u0644\u0645\u0646\u0633\u0639\u0641\u0635\u0642\u0631\u0634\u062a\u062b\u062e" ++
     "\u0630\u0636\u0638\u063a"⟩,
   ⟨0x1eea1, "\u0628\u062c\u062f"⟩, ⟨0x1eea5, "\u0648\u0632\u062d\u0637\u064a"⟩,
   ⟨0x1eeab, "\u0644\u0645\u0646\u0633\u0639\u0641\u0635\u0642\u0631\u0634\u062a\u062b\u062e" ++
     "\u0630\u0636\u0638\u063a"⟩,
   ⟨0x1fbf0, "0123456789"⟩,
   ⟨0x2f800, "丽丸乁𠄢你侮侻倂偺備僧像㒞𠘺免兔兤具𠔜㒹內再𠕋冗冤仌冬况𩇟凵刃㓟刻剆割剷㔕勇勉勤勺包匆北卉卑博即卽卿卿卿𠨬灰及叟𠭣叫叱吆咞吸呈周咢哶唐啓啣善善喙喫喳嗂圖嘆圗噑噴切" ++
     "壮城埴堍型堲報墬𡓤売壷夆多夢奢𡚨𡛪姬娛娧姘婦㛮㛼嬈嬾嬾𡧈寃寘寧寳𡬘寿将当尢㞁屠屮峀岍𡷤嵃𡷦嵮嵫嵼巡巢㠯巽帨帽幩㡢𢆃㡼庰庳庶廊𪎒廾𢌱𢌱舁弢弢㣇𣊸𦇚形彫㣣徚忍志忹悁㤺㤜悔𢛔惇慈慌慎慌" ++
     "慺憎憲憤憯懞懲懶成戛扝抱拔捐𢬌挽拼捨掃揤𢯱搢揅掩㨮摩摾撝摷㩬敏敬𣀊旣書晉㬙暑㬈㫤冒冕最暜肭䏙朗望朡杞杓𣏃㭉柺枅桒梅𣑭梎栟椔㮝楂榣槪檨𣚣櫛㰘次𣢧歔㱎歲殟殺殻𣪍𡴋𣫺汎𣲼沿泍汧洖派海流" ++
     "浩浸涅𣴞洴港湮㴳滋滇𣻑淹潮𣽞𣾎濆瀹瀞瀛㶖灊災灷炭𠔥煅𤉣熜𤎫爨爵牐𤘈犀犕𤜵𤠔獺王㺬玥㺸㺸瑇瑜瑱璅瓊㼛甤𤰶甾𤲒異𢆟瘐𤾡𤾸𥁄㿼䀈直𥃳𥃲𥄙𥄳眞真真睊䀹瞋䁆䂖𥐝硎碌磌䃣𥘦祖𥚚𥛅福秫䄯穀穊穏" ++
     "𥥼𥪧𥪧竮䈂𥮫篆築䈧𥲀糒䊠糨糣紀𥾆絣䌁緇縂繅䌴𦈨𦉇䍙𦋙罺𦌾羕翺者𦓚𦔣聠𦖨聰𣍟䏕育脃䐋脾媵𦞧𦞵𣎓𣎜舁舄辞䑫芑芋芝劳花芳芽苦𦬼若茝荣莭茣莽菧著荓菊菌菜𦰶𦵫𦳕䔫蓱蓳蔖𧏊蕤𦼬䕝䕡𦾱𧃒䕫虐虜" ++
     "虧虩蚩蚈蜎蛢蝹蜨蝫螆䗗蟡蠁䗹衠衣𧙧裗裞䘵裺㒻𧢮𧥦䚾䛇誠諭變豕𧲨貫賁贛起𧼯𠠄跋趼跰𠣞軔輸𨗒𨗭邔郱鄑𨜮鄛鈸鋗鋘鉼鏹鐕𨯺開䦕閷𨵷䧦雃嶲霣𩅅𩈚䩮䩶韠𩐊䪲𩒖頋頋頩𩖶飢䬳餩馧駂駾䯎𩬰鬒鱀鳽䳎" ++
     "䳭鵧𪃎䳸𪄅𪈎𪊑麻䵖黹黾鼅鼏鼖鼻𪘀"⟩]

/-- The variants that stand for several characters; a space parts their meanings. -/
def ligatures : List Variants :=
  [⟨0x132, "IJ ij"⟩, ⟨0x13f, "L· l·"⟩, ⟨0x149, "ʼn"⟩,
   ⟨0x1c4, "DZ\u030c Dz\u030c dz\u030c LJ Lj lj NJ Nj nj"⟩, ⟨0x1f1, "DZ Dz dz"⟩,
   ⟨0x344, "\u0308\u0301"⟩, ⟨0x587, "եւ"⟩,
   ⟨0x675, "\u0627\u0674 \u0648\u0674 \u06c7\u0674 \u064a\u0674"⟩,
   ⟨0x958, "क\u093c ख\u093c ग\u093c ज\u093c ड\u093c ढ\u093c फ\u093c य\u093c"⟩,
   ⟨0x9dc, "ড\u09bc ঢ\u09bc"⟩, ⟨0x9df, "য\u09bc"⟩, ⟨0xa33, "ਲ\u0a3c"⟩, ⟨0xa36, "ਸ\u0a3c"⟩,
   ⟨0xa59, "ਖ\u0a3c ਗ\u0a3c ਜ\u0a3c"⟩, ⟨0xa5e, "ਫ\u0a3c"⟩, ⟨0xb5c, "ଡ\u0b3c ଢ\u0b3c"⟩,
   ⟨0xe33, "\u0e4dา"⟩, ⟨0xeb3, "\u0ecdາ"⟩, ⟨0xedc, "ຫນ ຫມ"⟩, ⟨0xf43, "ག\u0fb7"⟩, ⟨0xf4d, "ཌ\u0fb7"⟩,
   ⟨0xf52, "ད\u0fb7"⟩, ⟨0xf57, "བ\u0fb7"⟩, ⟨0xf5c, "ཛ\u0fb7"⟩, ⟨0xf69, "ཀ\u0fb5"⟩,
   ⟨0xf73, "\u0f71\u0f72"⟩,
   ⟨0xf75, "\u0f71\u0f74 \u0fb2\u0f80 \u0fb2\u0f71\u0f80 \u0fb3\u0f80 \u0fb3\u0f71\u0f80"⟩,
   ⟨0xf81, "\u0f71\u0f80"⟩, ⟨0xf93, "\u0f92\u0fb7"⟩, ⟨0xf9d, "\u0f9c\u0fb7"⟩,
   ⟨0xfa2, "\u0fa1\u0fb7"⟩, ⟨0xfa7, "\u0fa6\u0fb7"⟩, ⟨0xfac, "\u0fab\u0fb7"⟩,
   ⟨0xfb9, "\u0f90\u0fb5"⟩, ⟨0x1e9a, "aʾ"⟩, ⟨0x1f71, "α\u0301"⟩, ⟨0x1f73, "ε\u0301"⟩,
   ⟨0x1f75, "η\u0301"⟩, ⟨0x1f77, "ι\u0301"⟩, ⟨0x1f79, "ο\u0301"⟩, ⟨0x1f7b, "υ\u0301"⟩,
   ⟨0x1f7d, "ω\u0301"⟩, ⟨0x1fbb, "Α\u0301"⟩, ⟨0x1fc9, "Ε\u0301"⟩, ⟨0x1fcb, "Η\u0301"⟩,
   ⟨0x1fd3, "ι\u0308\u0301"⟩, ⟨0x1fdb, "Ι\u0301"⟩, ⟨0x1fe3, "υ\u0308\u0301"⟩, ⟨0x1feb, "Υ\u0301"⟩,
   ⟨0x1ff9, "Ο\u0301"⟩, ⟨0x1ffb, "Ω\u0301"⟩, ⟨0x212b, "A\u030a"⟩, ⟨0x2161, "II III IV"⟩,
   ⟨0x2165, "VI VII VIII IX"⟩, ⟨0x216a, "XI XII"⟩, ⟨0x2171, "ii iii iv"⟩,
   ⟨0x2175, "vi vii viii ix"⟩, ⟨0x217a, "xi xii"⟩, ⟨0x309f, "より"⟩, ⟨0x30ff, "コト"⟩,
   ⟨0xfb00, "ff fi fl ffi ffl st st"⟩, ⟨0xfb13, "մն մե մի վն մխ"⟩, ⟨0xfb1d, "\u05d9\u05b4"⟩,
   ⟨0xfb1f, "\u05f2\u05b7"⟩,
   ⟨0xfb2a, "\u05e9\u05c1 \u05e9\u05c2 \u05e9\u05bc\u05c1 \u05e9\u05bc\u05c2 \u05d0\u05b7 " ++
     "\u05d0\u05b8 \u05d0\u05bc \u05d1\u05bc \u05d2\u05bc \u05d3\u05bc \u05d4\u05bc \u05d5" ++
     "\u05bc \u05d6\u05bc"⟩,
   ⟨0xfb38, "\u05d8\u05bc \u05d9\u05bc \u05da\u05bc \u05db\u05bc \u05dc\u05bc"⟩,
   ⟨0xfb3e, "\u05de\u05bc"⟩, ⟨0xfb40, "\u05e0\u05bc \u05e1\u05bc"⟩,
   ⟨0xfb43, "\u05e3\u05bc \u05e4\u05bc"⟩,
   ⟨0xfb46, "\u05e6\u05bc \u05e7\u05bc \u05e8\u05bc \u05e9\u05bc \u05ea\u05bc \u05d5\u05b9 " ++
     "\u05d1\u05bf \u05db\u05bf \u05e4\u05bf \u05d0\u05dc"⟩,
   ⟨0xfba4, "\u06d5\u0654 \u06d5\u0654"⟩, ⟨0xfbb0, "\u06d2\u0654 \u06d2\u0654"⟩,
   ⟨0xfbdd, "\u06c7\u0674"⟩,
   ⟨0xfbea, "\u064a\u0654\u0627 \u064a\u0654\u0627 \u064a\u0654\u06d5 \u064a\u0654\u06d5 \u064a" ++
     "\u0654\u0648 \u064a\u0654\u0648 \u064a\u0654\u06c7 \u064a\u0654\u06c7 \u064a\u0654\u06c6 " ++
     "\u064a\u0654\u06c6 \u064a\u0654\u06c8 \u064a\u0654\u06c8 \u064a\u0654\u06d0 \u064a\u0654" ++
     "\u06d0 \u064a\u0654\u06d0 \u064a\u0654\u0649 \u064a\u0654\u0649 \u064a\u0654\u0649"⟩,
   ⟨0xfc00, "\u064a\u0654\u062c \u064a\u0654\u062d \u064a\u0654\u0645 \u064a\u0654\u0649 \u064a" ++
     "\u0654\u064a \u0628\u062c \u0628\u062d \u0628\u062e \u0628\u0645 \u0628\u0649 \u0628" ++
     "\u064a \u062a\u062c \u062a\u062d \u062a\u062e \u062a\u0645 \u062a\u0649 \u062a\u064a " ++
     "\u062b\u062c \u062b\u0645 \u062b\u0649 \u062b\u064a \u062c\u062d \u062c\u0645 \u062d" ++
     "\u062c \u062d\u0645 \u062e\u062c \u062e\u062d \u062e\u0645 \u0633\u062c \u0633\u062d " ++
     "\u0633\u062e \u0633\u0645 \u0635\u062d \u0635\u0645 \u0636\u062c \u0636\u062d \u0636" ++
     "\u062e \u0636\u0645 \u0637\u062d \u0637\u0645 \u0638\u0645 \u0639\u062c \u0639\u0645 " ++
     "\u063a\u062c \u063a\u0645 \u0641\u062c \u0641\u062d \u0641\u062e \u0641\u0645 \u0641" ++
     "\u0649 \u0641\u064a \u0642\u062d \u0642\u0645 \u0642\u0649 \u0642\u064a \u0643\u0627 " ++
     "\u0643\u062c \u0643\u062d \u0643\u062e \u0643\u0644 \u0643\u0645 \u0643\u0649 \u0643" ++
     "\u064a \u0644\u062c \u0644\u062d \u0644\u062e \u0644\u0645 \u0644\u0649 \u0644\u064a " ++
     "\u0645\u062c \u0645\u062d \u0645\u062e \u0645\u0645 \u0645\u0649 \u0645\u064a \u0646" ++
     "\u062c \u0646\u062d \u0646\u062e \u0646\u0645 \u0646\u0649 \u0646\u064a \u0647\u062c " ++
     "\u0647\u0645 \u0647\u0649 \u0647\u064a \u064a\u062c \u064a\u062d \u064a\u062e \u064a" ++
     "\u0645 \u064a\u0649 \u064a\u064a \u0630\u0670 \u0631\u0670 \u0649\u0670"⟩,
   ⟨0xfc64, "\u064a\u0654\u0631 \u064a\u0654\u0632 \u064a\u0654\u0645 \u064a\u0654\u0646 \u064a" ++
     "\u0654\u0649 \u064a\u0654\u064a \u0628\u0631 \u0628\u0632 \u0628\u0645 \u0628\u0646 " ++
     "\u0628\u0649 \u0628\u064a \u062a\u0631 \u062a\u0632 \u062a\u0645 \u062a\u0646 \u062a" ++
     "\u0649 \u062a\u064a \u062b\u0631 \u062b\u0632 \u062b\u0645 \u062b\u0646 \u062b\u0649 " ++
     "\u062b\u064a \u0641\u0649 \u0641\u064a \u0642\u0649 \u0642\u064a \u0643\u0627 \u0643" ++
     "\u0644 \u0643\u0645 \u0643\u0649 \u0643\u064a \u0644\u0645 \u0644\u0649 \u0644\u064a " ++
     "\u0645\u0627 \u0645\u0645 \u0646\u0631 \u0646\u0632 \u0646\u0645 \u0646\u0646 \u0646" ++
     "\u0649 \u0646\u064a \u0649\u0670 \u064a\u0631 \u064a\u0632 \u064a\u0645 \u064a\u0646 " ++
     "\u064a\u0649 \u064a\u064a \u064a\u0654\u062c \u064a\u0654\u062d \u064a\u0654\u062e \u064a" ++
     "\u0654\u0645 \u064a\u0654\u0647 \u0628\u062c \u0628\u062d \u0628\u062e \u0628\u0645 " ++
     "\u0628\u0647 \u062a\u062c \u062a\u062d \u062a\u062e \u062a\u0645 \u062a\u0647 \u062b" ++
     "\u0645 \u062c\u062d \u062c\u0645 \u062d\u062c \u062d\u0645 \u062e\u062c \u062e\u0645 " ++
     "\u0633\u062c \u0633\u062d \u0633\u062e \u0633\u0645 \u0635\u062d \u0635\u062e \u0635" ++
     "\u0645 \u0636\u062c \u0636\u062d \u0636\u062e \u0636\u0645 \u0637\u062d \u0638\u0645 " ++
     "\u0639\u062c \u0639\u0645 \u063a\u062c \u063a\u0645 \u0641\u062c \u0641\u062d \u0641" ++
     "\u062e \u0641\u0645 \u0642\u062d \u0642\u0645 \u0643\u062c \u0643\u062d \u0643\u062e " ++
     "\u0643\u0644 \u0643\u0645 \u0644\u062c \u0644\u062d \u0644\u062e \u0644\u0645 \u0644" ++
     "\u0647 \u0645\u062c \u0645\u062d \u0645\u062e \u0645\u0645 \u0646\u062c \u0646\u062d " ++
     "\u0646\u062e \u0646\u0645 \u0646\u0647 \u0647\u062c \u0647\u0645 \u0647\u0670 \u064a" ++
     "\u062c \u064a\u062d \u064a\u062e \u064a\u0645 \u064a\u0647 \u064a\u0654\u0645 \u064a" ++
     "\u0654\u0647 \u0628\u0645 \u0628\u0647 \u062a\u0645 \u062a\u0647 \u062b\u0645 \u062b" ++
     "\u0647 \u0633\u0645 \u0633\u0647 \u0634\u0645 \u0634\u0647 \u0643\u0644 \u0643\u0645 " ++
     "\u0644\u0645 \u0646\u0645 \u0646\u0647 \u064a\u0645 \u064a\u0647 \u0640\u064e\u0651 " ++
     "\u0640\u064f\u0651 \u0640\u0650\u0651 \u0637\u0649 \u0637\u064a \u0639\u0649 \u0639\u064a" ++
     " \u063a\u0649 \u063a\u064a \u0633\u0649 \u0633\u064a \u0634\u0649 \u0634\u064a \u062d" ++
     "\u0649 \u062d\u064a \u062c\u0649 \u062c\u064a \u062e\u0649 \u062e\u064a \u0635\u0649 " ++
     "\u0635\u064a \u0636\u0649 \u0636\u064a \u0634\u062c \u0634\u062d \u0634\u062e \u0634" ++
     "\u0645 \u0634\u0631 \u0633\u0631 \u0635\u0631 \u0636\u0631 \u0637\u0649 \u0637\u064a " ++
     "\u0639\u0649 \u0639\u064a \u063a\u0649 \u063a\u064a \u0633\u0649 \u0633\u064a \u0634" ++
     "\u0649 \u0634\u064a \u062d\u0649 \u062d\u064a \u062c\u0649 \u062c\u064a \u062e\u0649 " ++
     "\u062e\u064a \u0635\u0649 \u0635\u064a \u0636\u0649 \u0636\u064a \u0634\u062c \u0634" ++
     "\u062d \u0634\u062e \u0634\u0645 \u0634\u0631 \u0633\u0631 \u0635\u0631 \u0636\u0631 " ++
     "\u0634\u062c \u0634\u062d \u0634\u062e \u0634\u0645 \u0633\u0647 \u0634\u0647 \u0637" ++
     "\u0645 \u0633\u062c \u0633\u062d \u0633\u062e \u0634\u062c \u0634\u062d \u0634\u062e " ++
     "\u0637\u0645 \u0638\u0645 \u0627\u064b \u0627\u064b"⟩,
   ⟨0xfd50, "\u062a\u062c\u0645 \u062a\u062d\u062c \u062a\u062d\u062c \u062a\u062d\u0645 \u062a" ++
     "\u062e\u0645 \u062a\u0645\u062c \u062a\u0645\u062d \u062a\u0645\u062e \u062c\u0645\u062d " ++
     "\u062c\u0645\u062d \u062d\u0645\u064a \u062d\u0645\u0649 \u0633\u062d\u062c \u0633\u062c" ++
     "\u062d \u0633\u062c\u0649 \u0633\u0645\u062d \u0633\u0645\u062d \u0633\u0645\u062c \u0633" ++
     "\u0645\u0645 \u0633\u0645\u0645 \u0635\u062d\u062d \u0635\u062d\u062d \u0635\u0645\u0645 " ++
     "\u0634\u062d\u0645 \u0634\u062d\u0645 \u0634\u062c\u064a \u0634\u0645\u062e \u0634\u0645" ++
     "\u062e \u0634\u0645\u0645 \u0634\u0645\u0645 \u0636\u062d\u0649 \u0636\u062e\u0645 \u0636" ++
     "\u062e\u0645 \u0637\u0645\u062d \u0637\u0645\u062d \u0637\u0645\u0645 \u0637\u0645\u064a " ++
     "\u0639\u062c\u0645 \u0639\u0645\u0645 \u0639\u0645\u0645 \u0639\u0645\u0649 \u063a\u0645" ++
     "\u0645 \u063a\u0645\u064a \u063a\u0645\u0649 \u0641\u062e\u0645 \u0641\u062e\u0645 \u0642" ++
     "\u0645\u062d \u0642\u0645\u0645 \u0644\u062d\u0645 \u0644\u062d\u064a \u0644\u062d\u0649 " ++
     "\u0644\u062c\u062c \u0644\u062c\u062c \u0644\u062e\u0645 \u0644\u062e\u0645 \u0644\u0645" ++
     "\u062d \u0644\u0645\u062d \u0645\u062d\u062c \u0645\u062d\u0645 \u0645\u062d\u064a \u0645" ++
     "\u062c\u062d \u0645\u062c\u0645 \u0645\u062e\u062c \u0645\u062e\u0645"⟩,
   ⟨0xfd92, "\u0645\u062c\u062e \u0647\u0645\u062c \u0647\u0645\u0645 \u0646\u062d\u0645 \u0646" ++
     "\u062d\u0649 \u0646\u062c\u0645 \u0646\u062c\u0645 \u0646\u062c\u0649 \u0646\u0645\u064a " ++
     "\u0646\u0645\u0649 \u064a\u0645\u0645 \u064a\u0645\u0645 \u0628\u062e\u064a \u062a\u062c" ++
     "\u064a \u062a\u062c\u0649 \u062a\u062e\u064a \u062a\u062e\u0649 \u062a\u0645\u064a \u062a" ++
     "\u0645\u0649 \u062c\u0645\u064a \u062c\u062d\u0649 \u062c\u0645\u0649 \u0633\u062e\u0649 " ++
     "\u0635\u062d\u064a \u0634\u062d\u064a \u0636\u062d\u064a \u0644\u062c\u064a \u0644\u0645" ++
     "\u064a \u064a\u062d\u064a \u064a\u062c\u064a \u064a\u0645\u064a \u0645\u0645\u064a \u0642" ++
     "\u0645\u064a \u0646\u062d\u064a \u0642\u0645\u062d \u0644\u062d\u0645 \u0639\u0645\u064a " ++
     "\u0643\u0645\u064a \u0646\u062c\u062d \u0645\u062e\u064a \u0644\u062c\u0645 \u0643\u0645" ++
     "\u0645 \u0644\u062c\u0645 \u0646\u062c\u062d \u062c\u062d\u064a \u062d\u062c\u064a \u0645" ++
     "\u062c\u064a \u0641\u0645\u064a \u0628\u062d\u064a \u0643\u0645\u0645 \u0639\u062c\u0645 " ++
     "\u0635\u0645\u0645 \u0633\u062e\u064a \u0646\u062c\u064a"⟩,
   ⟨0xfdf0, "\u0635\u0644\u06d2 \u0642\u0644\u06d2 \u0627\u0644\u0644\u0647 \u0627\u0643\u0628" ++
     "\u0631 \u0645\u062d\u0645\u062f \u0635\u0644\u0639\u0645 \u0631\u0633\u0648\u0644 \u0639" ++
     "\u0644\u064a\u0647 \u0648\u0633\u0644\u0645 \u0635\u0644\u0649"⟩,
   ⟨0xfe71, "\u0640\u064b"⟩, ⟨0xfe77, "\u0640\u064e"⟩, ⟨0xfe79, "\u0640\u064f"⟩,
   ⟨0xfe7b, "\u0640\u0650"⟩, ⟨0xfe7d, "\u0640\u0651"⟩, ⟨0xfe7f, "\u0640\u0652"⟩,
   ⟨0xfe81, "\u0627\u0653 \u0627\u0653 \u0627\u0654 \u0627\u0654 \u0648\u0654 \u0648\u0654 " ++
     "\u0627\u0655 \u0627\u0655 \u064a\u0654 \u064a\u0654 \u064a\u0654 \u064a\u0654"⟩,
   ⟨0xfef5, "\u0644\u0627\u0653 \u0644\u0627\u0653 \u0644\u0627\u0654 \u0644\u0627\u0654 \u0644" ++
     "\u0627\u0655 \u0644\u0627\u0655 \u0644\u0627 \u0644\u0627"⟩]

end Marginalia
