/-!
# Text/ScriptTable — scripts of all code points

The scripts by their short and long names, and the code points from zero up as runs of one script:
two letters that count the script from `aa`, and the length of the run, left out where it is one.
Code points without a script have the letters `zz`.
-/

namespace RemoteScreen.Script

/-- The short and the long name of each script. -/
def names : List (String × String) :=
  [("Adlm", "Adlam"), ("Aghb", "Caucasian_Albanian"), ("Ahom", "Ahom"), ("Arab", "Arabic"),
   ("Armi", "Imperial_Aramaic"), ("Armn", "Armenian"), ("Avst", "Avestan"), ("Bali", "Balinese"),
   ("Bamu", "Bamum"), ("Bass", "Bassa_Vah"), ("Batk", "Batak"), ("Beng", "Bengali"),
   ("Bhks", "Bhaiksuki"), ("Bopo", "Bopomofo"), ("Brah", "Brahmi"), ("Brai", "Braille"),
   ("Bugi", "Buginese"), ("Buhd", "Buhid"), ("Cakm", "Chakma"), ("Cans", "Canadian_Aboriginal"),
   ("Cari", "Carian"), ("Cham", "Cham"), ("Cher", "Cherokee"), ("Chrs", "Chorasmian"),
   ("Copt", "Coptic"), ("Cpmn", "Cypro_Minoan"), ("Cprt", "Cypriot"), ("Cyrl", "Cyrillic"),
   ("Deva", "Devanagari"), ("Diak", "Dives_Akuru"), ("Dogr", "Dogra"), ("Dsrt", "Deseret"),
   ("Dupl", "Duployan"), ("Egyp", "Egyptian_Hieroglyphs"), ("Elba", "Elbasan"),
   ("Elym", "Elymaic"), ("Ethi", "Ethiopic"), ("Geor", "Georgian"), ("Glag", "Glagolitic"),
   ("Gong", "Gunjala_Gondi"), ("Gonm", "Masaram_Gondi"), ("Goth", "Gothic"), ("Gran", "Grantha"),
   ("Grek", "Greek"), ("Gujr", "Gujarati"), ("Guru", "Gurmukhi"), ("Hang", "Hangul"),
   ("Hani", "Han"), ("Hano", "Hanunoo"), ("Hatr", "Hatran"), ("Hebr", "Hebrew"),
   ("Hira", "Hiragana"), ("Hluw", "Anatolian_Hieroglyphs"), ("Hmng", "Pahawh_Hmong"),
   ("Hmnp", "Nyiakeng_Puachue_Hmong"), ("Hung", "Old_Hungarian"), ("Ital", "Old_Italic"),
   ("Java", "Javanese"), ("Kali", "Kayah_Li"), ("Kana", "Katakana"), ("Kawi", "Kawi"),
   ("Khar", "Kharoshthi"), ("Khmr", "Khmer"), ("Khoj", "Khojki"),
   ("Kits", "Khitan_Small_Script"), ("Knda", "Kannada"), ("Kthi", "Kaithi"),
   ("Lana", "Tai_Tham"), ("Laoo", "Lao"), ("Latn", "Latin"), ("Lepc", "Lepcha"),
   ("Limb", "Limbu"), ("Lina", "Linear_A"), ("Linb", "Linear_B"), ("Lisu", "Lisu"),
   ("Lyci", "Lycian"), ("Lydi", "Lydian"), ("Mahj", "Mahajani"), ("Maka", "Makasar"),
   ("Mand", "Mandaic"), ("Mani", "Manichaean"), ("Marc", "Marchen"), ("Medf", "Medefaidrin"),
   ("Mend", "Mende_Kikakui"), ("Merc", "Meroitic_Cursive"), ("Mero", "Meroitic_Hieroglyphs"),
   ("Mlym", "Malayalam"), ("Modi", "Modi"), ("Mong", "Mongolian"), ("Mroo", "Mro"),
   ("Mtei", "Meetei_Mayek"), ("Mult", "Multani"), ("Mymr", "Myanmar"), ("Nagm", "Nag_Mundari"),
   ("Nand", "Nandinagari"), ("Narb", "Old_North_Arabian"), ("Nbat", "Nabataean"),
   ("Newa", "Newa"), ("Nkoo", "Nko"), ("Nshu", "Nushu"), ("Ogam", "Ogham"), ("Olck", "Ol_Chiki"),
   ("Orkh", "Old_Turkic"), ("Orya", "Oriya"), ("Osge", "Osage"), ("Osma", "Osmanya"),
   ("Ougr", "Old_Uyghur"), ("Palm", "Palmyrene"), ("Pauc", "Pau_Cin_Hau"),
   ("Perm", "Old_Permic"), ("Phag", "Phags_Pa"), ("Phli", "Inscriptional_Pahlavi"),
   ("Phlp", "Psalter_Pahlavi"), ("Phnx", "Phoenician"), ("Plrd", "Miao"),
   ("Prti", "Inscriptional_Parthian"), ("Rjng", "Rejang"), ("Rohg", "Hanifi_Rohingya"),
   ("Runr", "Runic"), ("Samr", "Samaritan"), ("Sarb", "Old_South_Arabian"),
   ("Saur", "Saurashtra"), ("Sgnw", "SignWriting"), ("Shaw", "Shavian"), ("Shrd", "Sharada"),
   ("Sidd", "Siddham"), ("Sind", "Khudawadi"), ("Sinh", "Sinhala"), ("Sogd", "Sogdian"),
   ("Sogo", "Old_Sogdian"), ("Sora", "Sora_Sompeng"), ("Soyo", "Soyombo"), ("Sund", "Sundanese"),
   ("Sylo", "Syloti_Nagri"), ("Syrc", "Syriac"), ("Tagb", "Tagbanwa"), ("Takr", "Takri"),
   ("Tale", "Tai_Le"), ("Talu", "New_Tai_Lue"), ("Taml", "Tamil"), ("Tang", "Tangut"),
   ("Tavt", "Tai_Viet"), ("Telu", "Telugu"), ("Tfng", "Tifinagh"), ("Tglg", "Tagalog"),
   ("Thaa", "Thaana"), ("Thai", "Thai"), ("Tibt", "Tibetan"), ("Tirh", "Tirhuta"),
   ("Tnsa", "Tangsa"), ("Toto", "Toto"), ("Ugar", "Ugaritic"), ("Vaii", "Vai"),
   ("Vith", "Vithkuqi"), ("Wara", "Warang_Citi"), ("Wcho", "Wancho"), ("Xpeo", "Old_Persian"),
   ("Xsux", "Cuneiform"), ("Yezi", "Yezidi"), ("Yiii", "Yi"), ("Zanb", "Zanabazar_Square"),
   ("Zinh", "Inherited"), ("Zyyy", "Common"), ("Gara", "Garay"), ("Gukh", "Gurung_Khema"),
   ("Krai", "Kirat_Rai"), ("Onao", "Ol_Onal"), ("Sunu", "Sunuwar"), ("Todr", "Todhri"),
   ("Tutg", "Tulu_Tigalari")]

/-- Runs of one script, from the first code point to the last. -/
def runs : String :=
  String.join
    ["gg65cr26gg6cr26gg47crgg15crgg5cr23ggcr31ggcr449gg39cr5gg5an2gg20gf112br4ggbr3zz2br4ggbrzz4brgg",
     "brggbr3zzbrzzbr20zzbr63ay14br16bb133gf2bb169zzaf38zz2af50zz2af3zzby55zz8by27zz4by6zz11ad5ggad6",
     "ggad14ggad3ggad32ggad10gf11ad26gfad108ggad34fe14zzfe60zz2fe3ad48fp50zz14du59zz2du3ep46zz2ep15z",
     "zdb28zz2dbzzfe11zz5ad31zzad2zz5ad75ggad29bc81gf4bc15gg2bc26al4zzal8zz2al2zz2al22zzal7zzalzz3al",
     "4zz2al9zz2al2zz2al4zz8alzz4al2zzal5zz2al25zz2bt3zzbt6zz4bt2zz2bt22zzbt7zzbt2zzbt2zzbt2zz2btzzb",
     "t5zz4bt2zz2bt3zz3btzz7bt4zzbtzz7bt17zz10bs3zzbs9zzbs3zzbs22zzbs7zzbs2zzbs5zz2bs10zzbs3zzbs3zz2",
     "bszz15bs4zz2bs12zz7bs7zzdz3zzdz8zz2dz2zz2dz22zzdz7zzdz2zzdz5zz2dz9zz2dz2zz2dz3zz7dz3zz4dz2zzdz",
     "5zz2dz18zz10fj2zzfj6zz3fj3zzfj4zz3fj2zzfjzzfj2zz3fj2zz3fj3zz3fj12zz4fj5zz3fj3zzfj4zz2fjzz6fjzz",
     "14fj21zz5fm13zzfm3zzfm23zzfm16zz2fm9zzfm3zzfm4zz7fm2zzfm3zz2fmzz2fm4zz2fm10zz7fm9cn13zzcn3zzcn",
     "23zzcn10zzcn5zz2cn9zzcn3zzcn4zz7cn2zz6cn2zzcn4zz2cn10zzcn3zz12di13zzdi3zzdi51zzdi3zzdi6zz4di16",
     "zz2di26zzex3zzex18zz3ex24zzex9zzexzz2ex7zz3exzz4ex6zzexzzex8zz6ex10zz2ex3zz12fq58zz4ggfq28zz37",
     "cq2zzcqzzcq5zzcq24zzcqzzcq23zz2cq5zzcqzzcq7zzcq10zz2cq4zz32fr72zzfr36zz4fr39zzfr36zzfr15zzfr7g",
     "g4fr2zz37do160bl38zzblzz5blzz2bl43ggbl4bu256bk73zzbk4zz2bk7zzbkzzbk4zz2bk41zzbk4zz2bk33zzbk4zz",
     "2bk7zzbkzzbk4zz2bk15zzbk57zzbk4zz2bk67zz2bk32zz3bk26zz6aw86zz2aw6zz2at640dw29zz3eo75gg3eo11zz7",
     "fo22zz9fobw21gg2zz9ar20zz12ff13zzff3zzff2zz12ck94zz2ck10zz6ck10zz6dk2gg2dkggdk20zz6dk89zz7dk43",
     "zz5at70zz10ct31zzct12zz4ct12zz4ctzz3ct12fh30zz2fh5zz11fi44zz4fi26zz6fi11zz3fi2ck32aq28zz2aq2cp",
     "63zzcp29zz2cp11zz6cp10zz6cp14zz2gf31zz49ah77zzah50fc64ak52zz8ak4cs56zz3cs15zz3cs3dx48bb11zz5bl",
     "43zz2bl3fc8zz8gf3gggf13gggf7gg4gfgg6gfgg3gf2ggzz5cr38br5bbcr49br5cr4br5cr13bbcr70brgf64cr256br",
     "22zz2br6zz2br38zz2br6zz2br8zzbrzzbrzzbrzzbr31zz2br53zzbr15zzbr14zz2br6zzbr19zz2br3zzbr9zzgg12g",
     "f2gg87zzgg11crzz2gg11crgg15zzcr13zz3gg33zz15gf33zz15gg38brgg3cr2gg6crgg27crgg17cr41gg3zz4gg666",
     "zz22gg11zz21gg928ap256gg628zz2gg32zzgg105bm96cr32ay116zz5ay7bl38zzblzz5blzz2fn56zz7fn2zz14fnbk",
     "23zz9bk7zzbk7zzbk7zzbk7zzbk7zzbk7zzbk7zzbk7zzbb32gg94zz34bv26zzbv89zz12bv214zz26gg21bvggbvgg25",
     "bv9gf4bu2gg8bv4gg4zzbz86zz2gf2gg2bz3ggch90gg2ch3zz5an43zzbu94zzgg16an32gg38zz9ggch16bu31zzgg64",
     "bu31gg81ch47ggch88gg168bv6592gg64bv20992gd1165zz3gd55zz9cw48fw300zz20bb96ai88zz8gg34cr102gg3cr",
     "67zz2cr2zzcrzzcr8zz21cr14fd45zz3gg10zz6eg56zz8er70zz8er12zz6bc32cg46ggcgem36zz11embu29zz3cf78z",
     "zggcf10zz4cf2do31zzav55zz9av14zz2av10zz2av4do32fl67zz24fl5dm23zz10bk6zz2bk6zz2bk6zz9bk7zzbk7zz",
     "cr43ggcr9brcr4gg2zz4aw80dm46zz2dm10zz6bu11172zz12bu23zz4bu49zz8452bv366zz2bv106zz38cr7zz12af5z",
     "z5by26zzby5zzbyzzby2zzby2zzby10ad115zz16ad363gg2ad80zz2ad54zz7adzz32ad16gf16gg10zz6gf14bb2gg35",
     "zzgg19zzgg4zz4ad5zzad135zz2ggzzgg32cr26gg6cr26gg11ch10ggch45gg2bu31zz3bu6zz2bu6zz2bu6zz2bu3zz3",
     "gg7zzgg7zz10gg5zz2cv12zzcv26zzcv19zzcv2zzcv15zz2cv14zz34cv123zz5gg3zz4gg45zz3gg9br79zzgg13zz3b",
     "rzz47gg45gfzz130cx29zz3au49zz15gfgg27zz4ce36zz9ce3bp27zz5ef43zz5fv30zzfvga36zz4ga14zz42bf80et4",
     "8eb30zz2eb10zz6ea36zz4ea36zz4bi40zz8ab52zz11abfx11zzfx15zzfx7zzfx2zzfx11zzfx15zzfx7zzfx2zz3gm5",
     "2zz12cu311zz9cu22zz10cu8zz24cr6zzcr42zzcr9zz69ba6zz2bazzba44zzba2zz3bazz2baae22zzae9ed32ds31zz",
     "8ds9zz48bx19zzbx2zz5bx5ej28zz3ejcy26zz5cyzz64dh32dg24zz4dg20zz2dg46cj4zzcj2zz5cj8zzcj3zzcj29zz",
     "2cj3zz4cj10zz7cj9zz7eq32dr32zz32dc39zz4dc12zz9ag54zz3ag7el22zz2el8eh19zz5eh8ei18zz7ei4zz12ei7z",
     "z80dy73zz55cd51zz13cd51zz7cd6en40zz8en10zz6gh38zz3gh29zz8gh2zz208ad31zzgc42zzgc3zz2gc2zz16ad3z",
     "z55ad4ez40zz8ey42zz22ec26zz38ax28zz20bj23zz9ao78zz4ao36zz9aoco67zz10cozz2fa25zz7fa10zz6as53zza",
     "s18zz8cz39zz9eu96zzex20zz11cl18zzcl47zz62dn7zzdnzzdn4zzdn15zzdn11zz6ew59zz5ew10zz6bq4zzbq8zz2b",
     "q2zz2bq22zzbq7zzbq2zzbq5zzgfbq9zz2bq2zz2bq3zz2bqzz6bqzz5bq7zz2bq7zz3bq5zz11gn10zzgnzz2gnzzgn38",
     "zzgn10zzgnzz2gnzzgn4zzgn10zzgn2zz8gn2zz29dt92zzdt5zz30fs72zz8fs10zz166ev54zz2ev38zz34dj69zz11d",
     "j10zz6dk13zz19fg58zz6fg10zz6do20zz28ac27zz2ac15zz4ac23zz185be60zz100fy83zz12fybd7zz2bdzz2bd8zz",
     "bd2zzbd30zzbd2zz2bd12zz9bd10zz70dq8zz2dq46zz2dq11zz27ge72zz8fb83zz13at16ee57zz7bc10zz182gl34zz",
     "14gl10zz6am9zzam45zzam14zz10am29zz3dd32zz2dd22zzdd14zz73bo7zzbo2zzbo44zz3bozzbo2zzbo9zz8bo10zz",
     "6bn6zzbn2zzbn37zzbn2zzbn6zz7bn10zz310da25zz7ci17zzci41zz3ci29zz85cwzz15fj50zz13fjgb922zz102gb1",
     "11zzgb5zz11gb196zz2636az99zz13bh1110zz10bh3995zz5ca583zz6841gi58zz1734ai569zz7dl31zzdl10zz4dl2",
     "ft79zzft10zz6aj30zz2aj6zz10cb70zz10cb10zzcb7zzcb21zz5cb19zz432gj58zz198de91zz101ek75zz4ek57zz7",
     "ek17zz64fkdvbv2cmzz11bv2zz14fk6136zz8fk768cm470zz41cmfk9zz8935ch4zzch7zzch2zzchbz287ch3zz15bzz",
     "z29bz3zz2chzz14ch4zz8dv396zz2308bg107zz5bg13zz3bg9zz7bg10zz2bg4gg4zz3932gg250zz6gg436zz76gf46z",
     "z2gf23zz9gg116zz60gg246zz10gg39zz2gg62gf3gg17gf8gg2gf7gg30gf4gg61zz21br70zz122gg20zz12gg20zz12",
     "gg87zz9gg25zz135gg85zzgg71zzgg2zz2ggzz2gg2zz2gg4zzgg12zzggzzgg7zzgg65zzgg4zz2gg8zzgg7zzgg28zzg",
     "g4zzgg5zzggzz3gg7zzgg340zz2gg292zz2gg50es652zz15es5zzes15zz1104cr31zz6cr6zz213bm7zzbm17zz2bm7z",
     "zbm2zzbm5zz5bb62zz33bbzz112cc45zz3cc14zz2cc10zz4cc2zz320fu31zz17fz58zz5fzzz464dp42zz214gk43zz4",
     "gkzz480bk7zzbk4zzbk2zzbk15zzdf197zz2df16zz41aa76zz4aa10zz4aa2zz785gg68zz76gg61zz194ad4zzad27zz",
     "ad2zzadzz2adzzad10zzad4zzadzzadzz6adzz4adzzadzzadzzad3zzad2zzadzz2adzzadzzadzzadzzadzzad2zzadz",
     "z2ad4zzad7zzad4zzad4zzadzzad10zzad17zz5ad3zzad5zzad17zz52ad2zz270gg44zz4gg100zz12gg15zz2gg15zz",
     "gg15zzgg37zz10gg174zz56gg26bzgg2zz13gg44zz4gg9zz7gg2zz14gg6zz154gg984zz4gg17zz3gg13zz3gg119zz4",
     "gg95zz6gg12zz4ggzz15gg12zz4gg56zz8gg10zz6gg40zz8gg30zz2gg12zz4gg2zz62gg340zz12gg14zz2gg13zz3gg",
     "10zz5gg56zz7gg15zz2gg11zz6gg9zz7gg147zzgg102zz1030bv42720zz32bv4154zz6bv222zz2bv5762zz14bv7473",
     "zz15bv622zz2466bv542zz1506bv4939zz5bv4192zz711761ggzz30gg96zz128gf240zz196112"]

end RemoteScreen.Script
