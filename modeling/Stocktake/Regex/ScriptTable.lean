/-!
# Scripts

The characters of every script.  Every entry has the names of a set,
without case, spaces, dashes and underscores, and its ranges in order: numbers in base 36, each the
gap to the end of the range before and, after a dash, how many more code points the range has than
one.
-/

namespace Stocktake.Regex

/-- The scripts. -/
def scriptTable : List (String × String) := [
  ("adlm adlam",
    "2olc-23 4-9 4-1"),
  ("aghb caucasianalbanian",
    "1flc-1f b"),
  ("ahom",
    "1j40-q 2-e 4-m"),
  ("arab arabic",
    "16o-4 1-5 1-d 1-2 1-v 1-9 b-p 1-2z 1-x 28-1b 6o-x 5-22 1-s 1bv4-dp 2-3z w-f 34-4 1-3q 31f-u " ++
    "1v-5 8-8 x-5 181s-3 1-q 1-1 1 2 1-9 1-3 1 1 6 4 1 1 1-2 1-1 1 2 1 1 1 1 1-1 1 2-3 1-6 1-3 " ++
    "1-3 1 1-9 1-g 5-2 1-4 1-g 1g-1"),
  ("armi imperialaramaic",
    "1g74-l 1-8"),
  ("armn armenian",
    "10x-11 2-1d 2-2 1chv-4"),
  ("avst avestan",
    "1gqo-1h 3-6"),
  ("bali balinese",
    "5c0-24 1-1d"),
  ("bamu bamum",
    "www-2f 124o-fs"),
  ("bass bassavah",
    "1zo0-t 2-5"),
  ("batk batak",
    "5hc-1f 8-3"),
  ("beng bengali",
    "1vk-3 1-7 2-1 2-l 1-6 1 3-3 2-8 2-1 2-3 8 4-1 1-4 2-o"),
  ("bhks bhaiksuki",
    "1k3k-8 1-18 1-d a-s"),
  ("bopo bopomofo",
    "kq-1 93t-16 34-v"),
  ("brah brahmi",
    "1hq8-25 4-z 9"),
  ("brai braille",
    "7wg-73"),
  ("bugi buginese",
    "54w-r 2-1"),
  ("buhd buhid",
    "4lc-j"),
  ("cakm chakma",
    "1hxc-1g 1-h"),
  ("cans canadianaboriginal",
    "3y8-hr fk-1x 1ewq-f"),
  ("cari carian",
    "1f34-1c"),
  ("cham",
    "xkw-1i 9-d 2-9 2-3"),
  ("cher cherokee",
    "3vk-2d 2-5 twy-27"),
  ("chrs chorasmian",
    "1ho0-r"),
  ("copt coptic qaac",
    "rm-d 80g-37 5-6"),
  ("cpmn cyprominoan",
    "1nyo-2q"),
  ("cprt cypriot",
    "1g5c-5 2 1-17 1-1 3 2"),
  ("cyrl cyrillic",
    "sg-3o 2-4o 4ls-a 4g 24 38n-v nr4-2n ham-1 18n4-1p x"),
  ("deva devanagari",
    "1s0-28 4-e 2-p vhc-v mio-9"),
  ("diak divesakuru",
    "1ji8-6 2 2-7 1-1 1-t 1-1 2-b 9-9"),
  ("dogr dogra",
    "1jb4-1n"),
  ("dsrt deseret",
    "1fcw-27"),
  ("dupl duployan",
    "2fpc-2y 5-c 3-8 7-9 2-3"),
  ("egyp egyptianhieroglyphs",
    "1o1s-ut a-32y"),
  ("elba elbasan",
    "1fk0-13"),
  ("elym elymaic",
    "1hpc-m"),
  ("ethi ethiopic",
    "3k0-20 1-3 2-6 1 1-3 2-14 1-3 2-w 1-3 2-6 1 1-3 2-e 1-1k 1-3 2-1u 2-v 3-p 546-m 9-6 1-6 1-6 " ++
    "1-6 1-6 1-6 1-6 1-6 opu-5 2-5 2-5 9-6 1-6 1qk1-6 1-3 1-1 1-e"),
  ("geor georgian",
    "3a8-11 1 5 2-16 1-3 2a8-16 2-2 37k-11 1 5"),
  ("glag glagolitic",
    "8ow-2n 2e1s-6 1-g 2-6 1-1 1-4"),
  ("gong gunjalagondi",
    "1kdc-5 1-1 1-10 1-1 1-5 7-9"),
  ("gonm masaramgondi",
    "1kao-6 1-1 1-17 3 1-1 1-8 8-9"),
  ("goth gothic",
    "1f74-q"),
  ("gran grantha",
    "1ibk-3 1-7 2-1 2-l 1-6 1-1 1-4 2-8 2-1 2-2 2 6 5-6 2-6 3-4"),
  ("grek greek",
    "og-3 1-2 2-3 1 4 1 1-2 1 1-j 1-1q e-f 4yu-4 1e-4 4-4 2c 8w-l 2-5 2-11 2-5 2-7 1 1 1 1-u 2-1g " ++
    "1-e 1-d 2-5 1-i 2-2 1-8 87 rb2 gyi-26 h 155r-1x"),
  ("gujr gujarati",
    "22p-2 1-8 1-2 1-l 1-6 1-1 1-4 2-9 1-2 1-2 2 f-3 2-b 7-6"),
  ("guru gurmukhi",
    "1z5-2 1-5 4-1 2-l 1-6 1-1 1-1 1-1 2 1-4 4-1 2-2 3 7-3 1 7-g"),
  ("hang hangul",
    "3cw-73 5ym-1 75-2l 35-u 1t-u nhd-s hv-8mb c-m 4-1c 7tw-u 3-5 2-5 2-5 2-2"),
  ("hani han",
    "96o-p 1-2g c-5x 1b 1 p-8 e-3 qs-533 1s-g73 hkw-a5 2-2x n48-1 c-6 sg9-wyn w-3dp 2-4gd 2-5rk " ++
    "f-h9 1wi-f1 15u-3t6 5-6jt"),
  ("hano hanunoo",
    "4kg-k"),
  ("hatr hatran",
    "1gbk-i 1-1 5-4"),
  ("hebr hebrew",
    "13l-1i 8-q 4-5 1cfc-p 1-4 1 1-1 1-1 1-9"),
  ("hira hiragana",
    "9j5-2d 6-2 23q9-7y i t-2 crx"),
  ("hluw anatolianhieroglyphs",
    "1s00-g6"),
  ("hmng pahawhhmong",
    "1zpc-1x a-9 1-6 1-k 5-i"),
  ("hmnp nyiakengpuachuehmong",
    "2n0g-18 3-d 2-9 4-1"),
  ("hung oldhungarian",
    "1h1c-1e d-1e 7-5"),
  ("ital olditalic",
    "1f5s-z 9-2"),
  ("java javanese",
    "xhc-25 2-9 4-1"),
  ("kali kayahli",
    "xds-19 1"),
  ("kana katakana",
    "9lt-2h 2-2 6o-f 5s-1a 1-2f 14b2-9 1-18 ytu-3 1-6 1-1 1 7z-2 1e e-3"),
  ("kawi",
    "1kow-g 1-14 3-s"),
  ("khar kharoshthi",
    "1gjk-3 1-1 5-7 1-2 1-s 2-2 4-9 7-8"),
  ("khmr khmer",
    "4n4-2l 2-9 6-9 di-v"),
  ("khoj khojki",
    "1i4g-h 1-1a"),
  ("kits khitansmallscript",
    "20o4 5cr-d1 15"),
  ("knda kannada",
    "2gw-c 1-2 1-m 1-9 1-4 2-8 1-2 1-3 7-1 5-2 1-3 2-9 1-2"),
  ("kthi kaithi",
    "1hts-1u a"),
  ("lana taitham",
    "55s-1q 1-s 2-a 6-9 6-d"),
  ("laoo lao",
    "2v5-1 1 1-4 1-n 1 1-m 2-4 1 1-6 1-9 2-3"),
  ("latn latin",
    "1t-p 6-p 1b f 5-m 1-u 1-cg 13-4 55n-11 6-1c 5-3 5-c 1-1x 1t-73 a9 d g-c 3x-1 6 r h-14 253-v " ++
    "o82-2t 3-29 k-e mo-16 1-8 1-3 fpy-6 t6-p 6-p 1lx-5 1-15 1-8 16it-u 6-5"),
  ("lepc lepcha",
    "5j4-1j 3-e 3-2"),
  ("limb limbu",
    "4xs-u 1-b 4-b 4 3-b"),
  ("lina lineara",
    "1fr4-8m 9-l a-7"),
  ("linb linearb",
    "1ekg-b 1-p 1-i 1-1 1-e 2-d y-3e"),
  ("lisu",
    "wk0-1b o8g"),
  ("lyci lycian",
    "1f28-s"),
  ("lydi lydian",
    "1gdc-p 5"),
  ("mahj mahajani",
    "1hzk-12"),
  ("maka makasar",
    "1ko0-o"),
  ("mand mandaic",
    "1mo-r 2"),
  ("mani manichaean",
    "1gow-12 4-b"),
  ("marc marchen",
    "1k6o-v 2-l 1-d"),
  ("medf medefaidrin",
    "20cg-2i"),
  ("mend mendekikakui",
    "2oe8-5g 2-f"),
  ("merc meroiticcursive",
    "1ggw-n 4-j 2-19"),
  ("mero meroitichieroglyphs",
    "1gg0-v"),
  ("mlym malayalam",
    "2kg-c 1-2 1-1e 1-2 1-5 4-f 2-p"),
  ("modi",
    "1iww-1w b-9"),
  ("mong mongolian",
    "4qo-1 2 1-j 6-2g 7-16 1e45-c"),
  ("mroo mro",
    "1zk0-u 1-9 4-1"),
  ("mtei meeteimayek",
    "xr4-m 5l-19 2-9"),
  ("mult multani",
    "1i80-6 1 1-3 1-e 1-a"),
  ("mymr myanmar",
    "35s-4f u9s-u 2p-v le8-j"),
  ("nagm nagmundari",
    "2nrk-15"),
  ("nand nandinagari",
    "1jmo-7 2-19 2-a"),
  ("narb oldnortharabian",
    "1gn4-v"),
  ("nbat nabataean",
    "1g8w-u 8-8"),
  ("newa",
    "1iio-2j 1-4"),
  ("nkoo nko",
    "1j4-1m 2-2"),
  ("nshu nushu",
    "20o1 cy6-az"),
  ("ogam ogham",
    "4g0-s"),
  ("olck olchiki",
    "5lc-1b"),
  ("orkh oldturkic",
    "1gxs-20"),
  ("orya oriya",
    "269-2 1-7 2-1 2-l 1-6 1-1 1-4 2-8 2-1 2-2 7-2 4-1 1-4 2-h"),
  ("osge osage",
    "1fhs-z 4-z"),
  ("osma osmanya",
    "1fgg-t 2-9"),
  ("ougr olduyghur",
    "1hm8-p"),
  ("palm palmyrene",
    "1g80-v"),
  ("pauc paucinhau",
    "1juo-1k"),
  ("perm oldpermic",
    "1f80-16"),
  ("phag phagspa",
    "x8g-1j"),
  ("phli inscriptionalpahlavi",
    "1gtc-i 5-7"),
  ("phlp psalterpahlavi",
    "1gu8-h 7-3 c-6"),
  ("phnx phoenician",
    "1gcg-r 3"),
  ("plrd miao",
    "20hs-22 4-1k 7-g"),
  ("prti inscriptionalparthian",
    "1gsg-l 2-7"),
  ("rjng rejang",
    "xf4-z b"),
  ("rohg hanifirohingya",
    "1h4w-13 8-9"),
  ("runr runic",
    "4gw-22 3-a"),
  ("samr samaritan",
    "1kw-19 2-e"),
  ("sarb oldsoutharabian",
    "1gm8-v"),
  ("saur saurashtra",
    "xa8-1x 8-b"),
  ("sgnw signwriting",
    "2l8g-i3 f-4 1-e"),
  ("shaw shavian",
    "1ff4-1b"),
  ("shrd sharada",
    "1i0w-2n 1vk-7"),
  ("sidd siddham",
    "1itc-1h 2-11"),
  ("sind khudawadi",
    "1i9c-1m 5-9"),
  ("sinh sinhala",
    "2o1-2 1-h 3-n 1-8 1 2-6 3 4-5 1 1-7 6-9 2-2 1fcc-j"),
  ("sogd sogdian",
    "1hkg-15"),
  ("sogo oldsogdian",
    "1hj4-13"),
  ("sora sorasompeng",
    "1hw0-o 7-9"),
  ("soyo soyombo",
    "1jrk-2a"),
  ("sund sundanese",
    "5fk-1r 74-7"),
  ("sylo sylotinagri",
    "x6o-18"),
  ("syrc syriac",
    "1ds-d 1-1n 2-2 7k-a"),
  ("tagb tagbanwa",
    "4m8-c 1-2 1-1"),
  ("takr takri",
    "1j0g-1l 6-9"),
  ("tale taile",
    "500-t 2-4"),
  ("talu newtailue",
    "51c-17 4-p 6-a 3-1"),
  ("taml tamil",
    "29u-1 1-5 3-2 1-3 3-1 1 1-1 3-1 3-2 3-b 4-4 3-2 1-3 2 6 e-k 1ih1-1d d"),
  ("tang tangut",
    "20o0 v-5bz e8-u 2p-36"),
  ("tavt taiviet",
    "xog-1u o-4"),
  ("telu telugu",
    "2dc-c 1-2 1-m 1-f 2-8 1-2 1-3 7-1 1-2 1-1 2-3 2-9 7-8"),
  ("tfng tifinagh",
    "8xc-1j 7-1 e"),
  ("tglg tagalog",
    "4jk-l 9"),
  ("thaa thaana",
    "1hc-1d"),
  ("thai",
    "2rl-1l 5-r"),
  ("tibt tibetan",
    "2yo-1z 1-z 4-12 1-z 1-e 1-6 4-1"),
  ("tirh tirhuta",
    "1im8-1z 8-9"),
  ("tnsa tangsa",
    "1zlc-26 1-9"),
  ("toto",
    "2nbk-u"),
  ("ugar ugaritic",
    "1f9c-t 1"),
  ("vaii vai",
    "wlc-8b"),
  ("vith vithkuqi",
    "1fn4-a 1-e 1-6 1-1 1-a 1-e 1-6 1-1"),
  ("wara warangciti",
    "1jfk-2a c"),
  ("wcho wancho",
    "2ncw-1l 5"),
  ("xpeo oldpersian",
    "1fa8-z 4-d"),
  ("xsux cuneiform",
    "1kw0-pl 2u-32 1-4 b-5f"),
  ("yezi yezidi",
    "1hfk-15 1-2 2-1"),
  ("yiii yi",
    "vls-wc 3-1i"),
  ("zanb zanabazarsquare",
    "1jpc-1z"),
  ("zinh inherited qaai",
    "lc-33 7p-1 ck-a q kg-3 3ff-19 2-b dg-2 1-c 1-6 4 6 3-1 5i-1r ek-1 5e-w 309-3 2z-1 14kl-f g-d " ++
    "r3 6a 38a 1138-19 2-m f4-2 h-7 2-6 u-3 h45u-6n"),
  ("zyyy common",
    "0-1s q-5 q-1a 1-e 1-4 n v ch-12 5-4 2-j 38 9 6 1 hp 6 e 3 w 4c ec 3l-1 yh b9-3 82 167-2 1z-1 " ++
    "5n-1 1 y5 d 7-3 1-5 1-2 2 lh-b 2-2e 1-a 3-a 1-e h-x 1q-11 1-2 2-5 1-q 1-g 15-2 4-ih m-a l-pr " ++
    "74-hf 2-3t e8-2l b6-k 1 1-o f-7 4-3 2j-1 3 2i-1 43-f w-11 9 1c-1r v-28 1b 2g-4n 534-1r hkw-x " ++
    "2u-2 4l-9 6s 4g az e-1 g5u-1 5s-9 m-y 1-i 1-3 43 1-v q-5 q-a a 19-1 1s-6 1-6 a-4 76-2 4-18 " ++
    "3-8 28-c 1f-18 6c-q 10o4-3 318-70 3-c3 6-m f-g 2n-37 1o-6t a-12 2-1p 3-g 8-1 7-t 4-1o 5x-j " ++
    "c-j c-2e 9-o 3r-2c 1-1y 1-1 2 2-1 2-3 1-b 1 1-6 1-1s 1-3 2-7 1-6 1-r 1-3 1-4 1 3-6 1-9f 2-83 " ++
    "2-1d 41d-1v 24-1o jm-17 4-2r c-e 2-e 1-e 1-10 a-4t 1k-p 1-1 d-17 4-8 7-1 e-5 4a-rc 3-g 3-c " ++
    "3-61 6-b 4 f-b 4-1j 8-9 6-13 8-t 2-b 4-1 e-8 13-9j 8-d 2-c 3-a 3-1k 1 4-f 2-b 4-9 7-42 1-2u " ++
    "gvly u-2n"),
  ("zzzz unknown",
    "oo-1 6-3 7 1 k b1 12-1 1e-1 3 1j-7 r-3 6-a 7i 1o-1 2t-d 1n-1 1d-1 f s-1 1 b-4 y-4 6l 8-1 2-1 " ++
    "m 7 1-2 4-1 9-1 2-1 4-7 1-3 2 5-1 p-1 3 6-3 2-1 m 7 2 2 2-1 1 5-3 2-1 3-2 1-6 4 1-6 h-9 3 9 " ++
    "3 m 7 2 5-1 a 3 3-1 1-e 4-1 c-6 7 3 8-1 2-1 m 7 2 5-1 9-1 2-1 3-6 3-3 2 5-1 i-9 2 6-2 3 4-2 " ++
    "2 1 2-2 2-2 3-2 c-3 5-2 3 4-1 1-5 1-d l-4 d 3 n g-1 9 3 4-6 2 3 2-1 4-1 a-6 m 3 n a 5-1 9 3 " ++
    "4-6 2-4 3 4-1 a 3-b d 3 1f 3 6-3 g-1 q 3 i-2 o 9 1-1 7-2 1-3 6 1 8-5 a-1 3-b 1m-3 t-10 2 1 5 " ++
    "o 1 n-1 5 1 7 a-1 4-v 20 10-3 13 10 f d-10 5i 1-4 1-1 ah 4-1 7 1 4-1 15 4-1 x 4-1 7 1 4-1 f " ++
    "1l 4-1 1v-1 w-2 q-5 2e-1 6-1 il-2 2h-6 m-8 o-8 k-b d 3 2-b 2m-1 a-5 a-5 q-5 2h-6 17-4 1y-9 v " ++
    "c-3 c-3 1-2 16-1 5-a 18-3 q-5 b-2 1q-1 1t t-1 b-5 a-5 e-1 1a-1 c-j 25 4m-7 1o-2 f-2 1q-4 " ++
    "17-1 b-7 17-4 eu-1 6-1 12-1 6-1 8 1 1 1 v-1 1h f e-1 6 j-1 3 9 2t c-1 r d-2 y-d x-e 3w-3 " ++
    "ii-l b-k 1ec-1 am-4 19 1-4 1-1 1k-6 2-d o-8 7 7 7 7 7 7 7 7 3i-x q 2h-b 5y-p 28 2e-1 2v-4 17 " ++
    "2m 2e-8 1c mlp-2 1j-8 9o-j 54-7 65-j 1o-2 a-5 1k-7 1y-7 c-5 38-a u-2 26 b-3 x 1j-8 e-1 a-1 " ++
    "2v-n s-9 6-1 6-1 6-8 7 7 1o-3 3i-1 a-5 8mc-b n-3 1d-3 1kw-4xr a6-1 2y-11 7-b 5-4 q 5 1 2 2 " ++
    "i2-v 16-5 1f j 4-3 5 3r-1 1 5a-2 6-1 6-1 6-1 3-2 7 7-9 5-1 c q j 2 f-1 e-x 3f-4 3-3 19-2 2g " ++
    "d-2 1-1a 1a-3l t-2 1d-e s-3 10-8 u-4 17-4 u 11-3 e-15 4e-1 a-5 10-3 10-3 14-7 1g-a c f 7 2 b " ++
    "f 7 2-2 1g-b 8n-8 m-9 8-n 6 16 9-1w 6-1 1 18 2-2 1-1 n 20-7 9-1b j 2-4 x-2 r-4 r-11 1k-3 k-1 " ++
    "1e 2-4 8 3 t-1 3-3 a-6 9-6 1s-v 13-3 c-8 1i-2 t-1 r-4 q-6 4-b 7-27 21-1i 1f-c 1f-6 1a-7 a-5 " ++
    "12-2 t-7 2-5r v 16 3-1 2-f 6-7 9-w 1a-7 16-l q-11 s-j n-8 26-3 10-8 1w-9 1-1 p-6 a-5 1h i-7 " ++
    "13-8 2o k-a i 1b-1p 7 1 4 f b-5 1n-4 a-5 4 8-1 2-1 m 7 2 5 a-1 2-1 3-1 1-5 1-4 7-1 7-2 5-a a " ++
    "1-1 1 12 a 1-1 1 4 a 2-7 2-s 2k 5-t 20-7 a-4l 1i-1 12-x 1x-a a-5 d-i 1m-5 a-5 k-r r-1 f-3 " ++
    "n-54 1o-2r 2b-b 8-1 1-1 8 2 u 2-1 c-8 a-1x 8-1 1a-1 b-q 20-7 2b-c 21-6 a-2d 8-2f y-d a-5 9 " ++
    "19 e-9 t-2 w-1 m e-20 7 2 18-2 1 2 9-7 a-5 6 2 11 2 6-6 a-5 18-3 a-6t p-6 h 15-2 t-2c 1-e " ++
    "1e-c pn-2t 33 5-a 5g-217 2r-c uu-9 32z-4 g7-5a0 1m-1c5 ft-6 v a-3 29 a-5 u-1 6-9 1y-9 a 7 " ++
    "l-4 j-bz 1m-5h 2j-4 p-1 p-17 23-3 1l-6 h-1r 5-a 7-8 5p2-14 w-2o 37-6po 4 7 2 83-e 1-s 3-1 " ++
    "1-d 4-7 b0-1s3 2z-4 d-2 9-6 a-1 8-317 71-2 c4-5 n-e h-e 1a-1 n-8 38-1n 6u-9 13-1 5e-k 1y-3d " ++
    "k-b k-b 2f-8 p-3q 2d 1z 2-1 1-1 2-1 4 c 1 7 1t 4-1 8 7 s 4 5 1-2 7 9g-1 84-1 ji-e 5 f-un v-5 " ++
    "6-5w 7 h-1 7 2 5-4 1q-w 1-33 19-2 e-1 a-3 2-8v v-g 1m-4 1-cv 16-5x 17-3 1-5b v m-7 2-67 7 4 " ++
    "2 f 5h-1 g-14 24-3 a-3 2-ls 1w-23 1p-5d 4 r 2 1-1 1 a 4 1 1-5 1-3 1 1 1 3 2 1-1 1 1 1 1 1 2 " ++
    "1-1 4 7 4 4 1 a h-4 3 5 h-1f 2-7h 18-3 2s-b f-1 f f 11-9 4u-1j t-c 18-3 9-6 2-d 6-49 rd-2 " ++
    "h-2 d-2 62-5 c-3 1-e c-3 1k-7 a-5 14-7 u-1 c-3 2-d 9-12 9k-7 e-1 d-2 b-2 1l 1-3 g-1 c-3 a-6 " ++
    "43 2v-sk wyo-v 3dq-1 4ge-1 5rl-e ha-1wh f2-15t 3t7-4 6ju-f5vq 1-t 2o-3j 6o-47bj"),
  ("gara garay",
    "1h6o-11 3-s 8-1"),
  ("gukh gurungkhema",
    "1xq8-1l"),
  ("krai kiratrai",
    "205c-1l"),
  ("onao olonal",
    "2nyo-16 4"),
  ("sunu sunuwar",
    "1k1s-x e-9"),
  ("todr todhri",
    "1fpc-1f"),
  ("tutg tulutigalari",
    "1if4-9 1 2 1-11 1-9 1 2 1-3 1-9 1-1 8-1"),
  ("berf beriaerfe",
    "20f4-o 2-o"),
  ("sidt sidetic",
    "1ge8-p"),
  ("tayo taiyo",
    "2o5c-u 1-l 8-1"),
  ("tols tolongsiki",
    "1kfk-17 4-9")]

/-- The script extensions of the scripts for which they are not the script itself. -/
def scriptExtensionTable : List (String × String) := [
  ("adlm adlam",
    "17j w 55a 2r5 2fge-23 4-9 4-1"),
  ("aghb caucasianalbanian",
    "lg 18 18 1exd-1f b"),
  ("arab arabic",
    "16o-4 1-5y 1-x 28-1b 6o-x 5-22 1-s 4lr 2r5 14i6-hr w-f 34-4 1-3q rn-r 290-u 1v-5 8-8 x-5 " ++
    "181s-3 1-q 1-1 1 2 1-9 1-3 1 1 6 4 1 1 1-2 1-1 1 2 1 1 1 1 1-1 1 2-3 1-6 1-3 1-3 1 1-9 1-g " ++
    "5-2 1-4 1-g 1g-1"),
  ("armn armenian",
    "lk fc-11 2-1d 2-2 1chv-4"),
  ("avst avestan",
    "53 8zc-1 17m6-1h 3-6"),
  ("beng bengali",
    "jg 1as-1 h-1 q-3 1-7 2-1 2-l 1-6 1 3-3 2-8 2-1 2-3 8 4-1 1-4 2-o 3pt 1 2-1 1 8 8 2 4 2-2 rnd"),
  ("bopo bopomofo",
    "jr 1-2 d g-1 8wl-2 4-9 1-c a-3 2 6 5f 9-16 34-v 14ed-1 7u-4"),
  ("bugi buginese",
    "54w-r 2-1 sdr"),
  ("buhd buhid",
    "4l1-1 9-j"),
  ("cakm chakma",
    "1ye-9 18w-9 1epi-1g 1-h"),
  ("cari carian",
    "53 68y 2 2qb 15ym-1c"),
  ("cher cherokee",
    "lc-2 1 6-1 m-1 b-1 38u-2d 2-5 twy-27"),
  ("copt coptic qaac",
    "53 g8 3-1 1 30-1 30-d 80g-37 5-6 7r 1614-r"),
  ("cpmn cyprominoan",
    "1erk-1 972-2q"),
  ("cprt cypriot",
    "1erk-2 4-18 3-8 1c0-5 2 1-17 1-1 3 2"),
  ("cyrl cyrillic",
    "jg 1v-2 1 1 1 2 5 6m-8f 4ls-a 4g 24 3j 353-v 1v np8-2n ham-1 18n4-1p x"),
  ("deva devanagari",
    "jg 18j-2a 2-16 3tc-12 1-1 s6 qpr-9 4m-v mio-9"),
  ("dogr dogra",
    "1us-b vcw-9 m2u-1n"),
  ("dupl duployan",
    "53 gf-1 1 o-1 8if 26kj-2y 5-c 3-8 7-9 2-7"),
  ("elba elbasan",
    "53 gd 1eyi-13"),
  ("ethi ethiopic",
    "lq 2y9-20 1-3 2-6 1 1-3 2-14 1-3 2-w 1-3 2-6 1 1-3 2-e 1-1k 1-3 2-1u 2-v 3-p 546-m 9-6 1-6 " ++
    "1-6 1-6 1-6 1-6 1-6 1-6 opu-5 2-5 2-5 9-6 1-6 1qk1-6 1-3 1-1 1-e"),
  ("geor georgian",
    "53 y9 26u-11 1 5 2-1b 2a8-16 2-2 pm 2hx-11 1 5 77"),
  ("glag glagolitic",
    "53 gb 1 am 2 75 29d 31a 2at-2n df nqj 1pxs-6 1-g 2-6 1-1 1-4"),
  ("gong gunjalagondi",
    "53 1po-1 1iii-5 1-1 1-10 1-1 1-5 7-9"),
  ("gonm masaramgondi",
    "1us-1 1ifu-6 1-1 1-17 3 1-1 1-8 8-9"),
  ("goth gothic",
    "53 gc-1 2 14 1eke-q"),
  ("gran grantha",
    "1u9-1 h-1 hs-d 3bw 1-1 u-2 3-1 s6 1btb-3 1-7 2-1 2-l 1-6 1-1 1-4 1-9 2-1 2-2 2 6 5-6 2-6 3-4 " ++
    "2fv-1 1"),
  ("grek greek",
    "53 g8-1 2 1 1 a 1a 2 16-7 2-3 1 4 1 1-2 1 1-j 1-1q e-f 4yu-4 1e-4 4-4 2c-2 8u-l 2-5 2-11 2-5 " ++
    "2-7 1 1 1 1-u 2-1g 1-e 1-d 2-5 1-i 2-2 1-8 2m 5k rb2 gyi-26 h 155r-1x"),
  ("gujr gujarati",
    "1u9-1 h-1 7v-2 1-8 1-2 1-l 1-6 1-1 1-4 2-9 1-2 1-2 2 f-3 2-b 7-6 v1s-9"),
  ("guru gurmukhi",
    "1u9-1 h-1 4b-2 1-5 4-1 2-l 1-6 1-1 1-1 1-1 2 1-4 4-1 2-2 3 7-3 1 7-g v5l-9"),
  ("hang hangul",
    "3cw-73 5xd-2 4-9 1-c e-2 6 5f 1h-2l 35-u 1t-u nhd-s hv-8mb c-m 4-1c 7k9-1 7u-4 1m-u 3-5 2-5 " ++
    "2-5 2-2"),
  ("hani han",
    "53 91k-p 1-2g c-5x q-f 1-2 1-c 1-c 1-c 2 6-8 57 44-f w-11 9 1c-13 1k-1c f-b 1f 2g-o a-4 2o-u " ++
    "1-533 1s-g73 1ds-7 g6w-a5 2-2x ob-1 7u-4 m7w-1 c-6 jmx-h 63i-1 2pa-wyn w-3dp 2-4gd 2-5rk " ++
    "f-h9 1wi-f1 15u-3t6 5-6jt"),
  ("hano hanunoo",
    "4kg-m"),
  ("hebr hebrew",
    "lj-1 i0-1i 8-q 4-5 1cfc-p 1-4 1 1-1 1-1 1-9"),
  ("hira hiragana",
    "9hd-2 4-9 1-c g-5 1 4-1 3-2d 2-7 2i-1 14js-1 7u-4 a 19-1 yu9-7y i t-2 crx"),
  ("hung oldhungarian",
    "6e2 2 2qb f 17we-1e d-1e 7-5"),
  ("java javanese",
    "xhc-25 1-a 4-1"),
  ("kali kayahli",
    "xds-1b"),
  ("kana katakana",
    "lh t 8v1-2 4-9 1-c g-5 1 4-1 2j-3 3-2n 6o-f 5s-1a 1-2f 1431-1 7u-1q yts-3 1-6 1-1 1 7z-2 1e " ++
    "e-3"),
  ("khoj khojki",
    "25i-9 v28-9 kw6-h 1-1a"),
  ("knda kannada",
    "1u9-1 h-1 m2-c 1-2 1-m 1-9 1-4 2-8 1-2 1-3 7-1 5-2 1-3 2-9 1-2 34s 1-1 6 n 1 ri3-5"),
  ("kthi kaithi",
    "1uu-9 79d o3i-9 kli-1u a"),
  ("latn latin",
    "1t-p 6-p 1b c 2 5-m 1-u 1-cg 3 a 1-2 1 9 1 6-4 r-e 1-1 1 f-2 7-1 1-1 12 5 4-c 7p-1 y2-1 1ig " ++
    "2dg-11 6-1c 5-3 5-c 1-1x 1l 7-73 8f 1t d g-c 2b 1l-1 6 r h-14 253-v bb nvs-7 q-2t 3-29 k-e " ++
    "8e e9-16 1-8 1-3 fpy-6 t6-p 6-p 1lx-5 1-15 1-8 16it-u 6-5"),
  ("limb limbu",
    "1ut 32y-u 1-b 4-b 4 3-b"),
  ("lina lineara",
    "1err-18 y4-8m 9-l a-7"),
  ("linb linearb",
    "1ekg-b 1-p 1-i 1-1 1-e 2-d y-3e 5-2 4-18 3-8"),
  ("lisu",
    "jg g 8xo-1 n2c-1b o8g"),
  ("lyci lycian",
    "6e2 18o5-s"),
  ("lydi lydian",
    "53 8zd 178u-p 5"),
  ("mahj mahajani",
    "53 1po-b vcw-9 kra-12"),
  ("mand mandaic",
    "18g e7-r 2"),
  ("mani manichaean",
    "18g 1fgf-12 4-b"),
  ("mero meroitichieroglyphs",
    "6e5 1a1u-v"),
  ("mlym malayalam",
    "1u9-1 h-1 pm-c 1-2 1-1e 1-2 1-5 4-f 2-p 316 n ri5-2"),
  ("modi",
    "x80-9 lom-1w b-9"),
  ("mong mongolian",
    "4qo-p 6-2g 7-16 1hg 34h-1 5-3 19hw-c"),
  ("mult multani",
    "21y-9 1g5s-6 1 1-3 1-e 1-a"),
  ("mymr myanmar",
    "35s-4f u4u 4x-u 2p-v le8-j"),
  ("nand nandinagari",
    "1u9 i-1 ow-9 35l 8 7 rhx-5 mei-7 2-19 2-a"),
  ("newa",
    "1u9-1 3uq 1-1 9 6 1 1 1csy-2j 1-4"),
  ("nkoo nko",
    "170 e 3 bk-1m 2-2 1cfy-1"),
  ("orkh oldturkic",
    "6e2 2qd 17tb-20"),
  ("orya oriya",
    "1u9-1 h-1 bf-2 1-7 2-1 2-l 1-6 1-1 1-4 2-8 2-1 2-2 7-2 4-1 1-4 2-h 3fm n"),
  ("osge osage",
    "ld 2 6 24 1etz-z 4-z"),
  ("ougr olduyghur",
    "18g 1fht vx-p"),
  ("perm oldpermic",
    "53 g8 5-2 a a7 1ebw-16"),
  ("phag phagspa",
    "4qq-1 1 1m1 34i nr1-1j"),
  ("phlp psalterpahlavi",
    "18g 1flr-h 7-3 c-6"),
  ("rohg hanifirohingya",
    "170 e 3 w 43 1fsb-13 8-9"),
  ("runr runic",
    "4gw-2g"),
  ("samr samaritan",
    "1kw-19 2-e 7hu"),
  ("shaw shavian",
    "53 1fa0-1b"),
  ("shrd sharada",
    "1u9 3ut 1 2-1 2 9 2 ria-5 2 ksn-2n 1vk-7"),
  ("sind khudawadi",
    "1us-1 vd6-9 l12-1m 5-9"),
  ("sinh sinhala",
    "1us-1 t7-2 1-h 3-n 1-8 1 2-6 3 4-5 1 1-7 6-9 2-2 2yl 1cdq-j"),
  ("sogd sogdian",
    "18g 1gbz-15"),
  ("sylo sylotinagri",
    "1us-1 3k-9 v80-18"),
  ("syrc syriac",
    "lf-1 2-1 1 o-2 7-1 1-1 ka e-1 2 w a-a q 3z-d 1-1n 2-2 7k-a 499 1"),
  ("tagb tagbanwa",
    "4l1-1 15-c 1-2 1-1"),
  ("takr takri",
    "1us-1 vd6-9 ls6-1l 6-9"),
  ("tale taile",
    "lc-1 5-1 3 2lv-9 1s6-t 2-4"),
  ("taml tamil",
    "1u9-1 h-1 f0-1 1-5 3-2 1-3 3-1 1 1-1 3-1 3-2 3-b 4-4 3-2 1-3 2 6 e-k 3bz ro8 ky5 1 1j-1 " ++
    "2gz-1d d"),
  ("tang tangut",
    "9gw-f dr 1qsw v-5bz e8-u 2p-36"),
  ("telu telugu",
    "1u9-1 h-1 ii-c 1-2 1-m 1-f 2-8 1-2 1-3 7-1 1-2 1-1 2-3 2-9 7-8 385-1 1 1 n"),
  ("tfng tifinagh",
    "le 1 1-3 p 8b0-1j 7-1 e"),
  ("tglg tagalog",
    "4jk-l 9 l-1"),
  ("thaa thaana",
    "170 e-1 2 1s-9 7q-1d 1cn4 a"),
  ("thai",
    "jg q 17 19 24v-1l 5-r"),
  ("tibt tibetan",
    "2yo-1z 1-z 4-12 1-z 1-e 1-6 4-1 6ct-3"),
  ("tirh tirhuta",
    "1u9-1 h-1 3u7 c f ri5-9 ldy-1z 8-9"),
  ("toto",
    "jg 2ms3-u"),
  ("yezi yezidi",
    "170 e 3 1s-9 1g5y-15 1-2 2-1"),
  ("yiii yi",
    "9hd-1 5-9 2-7 67 lxg-wc 3-1i hwa-4"),
  ("zinh inherited qaai",
    "lr 2 1-e 3-6 2 2-f 1-1 1-h 1-4 1-3 168-1 3ff-19 2-b k6-1h 1 1-4 ek-1 5e-v 17o0-f g-d r3 " ++
    "14hu-19 2-m f4-2 h-7 2-6 u-3 h45u-6n"),
  ("zyyy common",
    "0-1s q-5 q-1a 1-b 1-1 1-4 n v ch-2 1-9 1 3 1-8 1 1-5 5-4 2-j 3i 6 1 hp 5z ec 124 b9-3 36v-b " ++
    "2-w 1-u 1-9 1-1 1-6 1-a 3-a 1-e h-x 1q-11 1-2 2-5 1-q 1-g 15-2 4-ih m-a l-pr 74-hf 2-3t e8-m " ++
    "1-n 2-9 1-3 1 1-p bm 3 d d l ep-n v 1d-e c-3 4h-9 5-2n v 534-1r hl4-p 2u-2 r4 e-1 gbo-9 m-k " ++
    "2-b 1-i 1-3 43 1-v q-5 q-5 3j-6 1-6 a-4 b6-c 1f-18 13wj-70 3-c3 6-m f-g 2n-37 1o-6t a-12 " ++
    "2-1p 3-g 8-1 7-t 4-1o 5x-j c-j c-2e r-6 3r-2c 1-1y 1-1 2 2-1 2-3 1-b 1 1-6 1-1s 1-3 2-7 1-6 " ++
    "1-r 1-3 1-4 1 3-6 1-9f 2-83 2-1d 41d-1v 24-1o jm-17 4-2r c-e 2-e 1-e 1-10 a-4t 1k-p 1-1 d-17 " ++
    "4-8 n-5 4a-rc 3-g 3-c 3-61 6-b 4 f-b 4-1j 8-9 6-13 8-t 2-b 4-1 e-8 13-9j 8-d 2-c 3-a 3-1k 1 " ++
    "4-f 2-b 4-9 7-42 1-2u gvly u-2n"),
  ("gara garay",
    "170 e 3 1fz4-11 3-s 8-1"),
  ("gukh gurungkhema",
    "1ut 1vve-1l"),
  ("onao olonal",
    "1us-1 2m3u-16 4"),
  ("sunu sunuwar",
    "lc-1 1 9 2 s 3 1jf2-x e-9"),
  ("todr todhri",
    "ld 2 2 9 1 22 1f1d-1f"),
  ("tutg tulutigalari",
    "2jq-9 35u 1 ri3-5 57 l1q-9 1 2 1-11 1-9 1 2 1-3 1-9 1-1 8-1")]

end Stocktake.Regex
