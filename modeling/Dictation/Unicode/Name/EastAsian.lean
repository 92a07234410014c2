import Dictation.Unicode.Name.Block
/-!
# East Asian letters and symbols

Spoken names from 0x2C00 on, as of Unicode 16.
-/
namespace Dictation.Unicode.Name

set_option maxRecDepth 10000 in
def eastAsianBlocks : List Block := [
  ⟨0x2C00, "glagolitic-capital-letter-", "azu buky vede glagoli dobro yestu zhivete dzelo zemlja
    izhe initial-izhe i djervi kako ljudije myslite nashi onu pokoji ritsi slovo tvrido uku fritu
    heru otu pe shta tsi chrivi sha yeru yeri yati spidery-ha yu small-yus small-yus-with-tail yo
    iotated-small-yus big-yus iotated-big-yus fita izhitsa shtapic trokutasti-a latinate-myslite
    caudate-chrivi"⟩,
  ⟨0x2C30, "glagolitic-small-letter-", "azu buky vede glagoli dobro yestu zhivete dzelo zemlja
    izhe initial-izhe i djervi kako ljudije myslite nashi onu pokoji ritsi slovo tvrido uku fritu
    heru otu pe shta tsi chrivi sha yeru yeri yati spidery-ha yu small-yus small-yus-with-tail yo
    iotated-small-yus big-yus iotated-big-yus fita izhitsa shtapic trokutasti-a latinate-myslite
    caudate-chrivi"⟩,
  ⟨0x2C60, "latin-", "capital-letter-l-with-double-bar small-letter-l-with-double-bar
    capital-letter-l-with-middle-tilde capital-letter-p-with-stroke capital-letter-r-with-tail
    small-letter-a-with-stroke small-letter-t-with-diagonal-stroke
    capital-letter-h-with-descender small-letter-h-with-descender capital-letter-k-with-descender
    small-letter-k-with-descender capital-letter-z-with-descender small-letter-z-with-descender"⟩,
  ⟨0x2C6D, "latin-capital-letter-", "alpha m-with-hook turned-a turned-alpha"⟩,
  ⟨0x2C71, "latin-", "small-letter-v-with-right-hook capital-letter-w-with-hook
    small-letter-w-with-hook small-letter-v-with-curl capital-letter-half-h"⟩,
  ⟨0x2C76, "latin-small-letter-", "half-h tailless-phi e-with-notch turned-r-with-tail
    o-with-low-ring-inside"⟩,
  ⟨0x2C7B, "", "latin-letter-small-capital-turned-e latin-subscript-small-letter-j
    modifier-letter-capital-v"⟩,
  ⟨0x2C7E, "latin-capital-letter-", "s-with-swash-tail z-with-swash-tail"⟩,
  ⟨0x2C80, "coptic-", "capital-letter-alfa small-letter-alfa capital-letter-vida
    small-letter-vida capital-letter-gamma small-letter-gamma capital-letter-dalda
    small-letter-dalda capital-letter-eie small-letter-eie capital-letter-sou small-letter-sou
    capital-letter-zata small-letter-zata capital-letter-hate small-letter-hate
    capital-letter-thethe small-letter-thethe capital-letter-iauda small-letter-iauda
    capital-letter-kapa small-letter-kapa capital-letter-laula small-letter-laula
    capital-letter-mi small-letter-mi capital-letter-ni small-letter-ni capital-letter-ksi
    small-letter-ksi capital-letter-o small-letter-o capital-letter-pi small-letter-pi
    capital-letter-ro small-letter-ro capital-letter-sima small-letter-sima capital-letter-tau
    small-letter-tau capital-letter-ua small-letter-ua capital-letter-fi small-letter-fi
    capital-letter-khi small-letter-khi capital-letter-psi small-letter-psi capital-letter-oou
    small-letter-oou capital-letter-dialect-p-alef small-letter-dialect-p-alef
    capital-letter-old-coptic-ain small-letter-old-coptic-ain capital-letter-cryptogrammic-eie
    small-letter-cryptogrammic-eie capital-letter-dialect-p-kapa small-letter-dialect-p-kapa
    capital-letter-dialect-p-ni small-letter-dialect-p-ni capital-letter-cryptogrammic-ni
    small-letter-cryptogrammic-ni capital-letter-old-coptic-oou small-letter-old-coptic-oou
    capital-letter-sampi small-letter-sampi capital-letter-crossed-shei small-letter-crossed-shei
    capital-letter-old-coptic-shei small-letter-old-coptic-shei capital-letter-old-coptic-esh
    small-letter-old-coptic-esh capital-letter-akhmimic-khei small-letter-akhmimic-khei
    capital-letter-dialect-p-hori small-letter-dialect-p-hori capital-letter-old-coptic-hori
    small-letter-old-coptic-hori capital-letter-old-coptic-ha small-letter-old-coptic-ha
    capital-letter-l-shaped-ha small-letter-l-shaped-ha capital-letter-old-coptic-hei
    small-letter-old-coptic-hei capital-letter-old-coptic-hat small-letter-old-coptic-hat
    capital-letter-old-coptic-gangia small-letter-old-coptic-gangia capital-letter-old-coptic-dja
    small-letter-old-coptic-dja capital-letter-old-coptic-shima small-letter-old-coptic-shima
    capital-letter-old-nubian-shima small-letter-old-nubian-shima capital-letter-old-nubian-ngi
    small-letter-old-nubian-ngi capital-letter-old-nubian-nyi small-letter-old-nubian-nyi
    capital-letter-old-nubian-wau small-letter-old-nubian-wau symbol-kai symbol-mi-ro
    symbol-pi-ro symbol-stauros symbol-tau-ro symbol-khi-ro symbol-shima-sima
    capital-letter-cryptogrammic-shei small-letter-cryptogrammic-shei
    capital-letter-cryptogrammic-gangia small-letter-cryptogrammic-gangia combining-ni-above
    combining-spiritus-asper combining-spiritus-lenis capital-letter-bohairic-khei
    small-letter-bohairic-khei"⟩,
  ⟨0x2CF9, "coptic-old-nubian-", "full-stop direct-question-mark indirect-question-mark
    verse-divider"⟩,
  ⟨0x2CFD, "coptic-", "fraction-one-half full-stop morphological-divider"⟩,
  ⟨0x2D00, "georgian-small-letter-", "an ban gan don en vin zen tan in kan las man nar on par
    zhar rae san tar un phar khar ghan qar shin chin can jil cil char xan jhan hae he hie we har
    hoe"⟩,
  ⟨0x2D27, "georgian-small-letter-", "yn"⟩,
  ⟨0x2D2D, "georgian-small-letter-", "aen"⟩,
  ⟨0x2D30, "tifinagh-letter-", "ya yab yabh yag yaghh berber-academy-yaj yaj yad yadh yadd yaddh
    yey yaf yak tuareg-yak yakhh yah berber-academy-yah tuareg-yah yahh yaa yakh tuareg-yakh yaq
    tuareg-yaq yi yazh ahaggar-yazh tuareg-yazh yal yam yan tuareg-yagn tuareg-yang yap yu yar
    yarr yagh tuareg-yagh ayer-yagh yas yass yash yat yath yach yatt yav yaw yay yaz
    tawellemet-yaz yazz ye yo"⟩,
  ⟨0x2D6F, "tifinagh-", "modifier-letter-labialization-mark separator-mark"⟩,
  ⟨0x2D7F, "tifinagh-consonant-", "joiner"⟩,
  ⟨0x2D80, "ethiopic-syllable-", "loa moa roa soa shoa boa toa coa noa nyoa glottal-oa zoa doa
    ddoa joa thoa choa phoa poa ggwa ggwi ggwee ggwe"⟩,
  ⟨0x2DA0, "ethiopic-syllable-", "ssa ssu ssi ssaa ssee sse sso"⟩,
  ⟨0x2DA8, "ethiopic-syllable-", "cca ccu cci ccaa ccee cce cco"⟩,
  ⟨0x2DB0, "ethiopic-syllable-", "zza zzu zzi zzaa zzee zze zzo"⟩,
  ⟨0x2DB8, "ethiopic-syllable-", "ccha cchu cchi cchaa cchee cche ccho"⟩,
  ⟨0x2DC0, "ethiopic-syllable-", "qya qyu qyi qyaa qyee qye qyo"⟩,
  ⟨0x2DC8, "ethiopic-syllable-", "kya kyu kyi kyaa kyee kye kyo"⟩,
  ⟨0x2DD0, "ethiopic-syllable-", "xya xyu xyi xyaa xyee xye xyo"⟩,
  ⟨0x2DD8, "ethiopic-syllable-", "gya gyu gyi gyaa gyee gye gyo"⟩,
  ⟨0x2DE0, "combining-cyrillic-letter-", "be ve ghe de zhe ze ka el em en o pe er es te ha tse
    che sha shcha fita es-te a ie djerv monograph-uk yat yu iotified-a little-yus big-yus
    iotified-big-yus"⟩,
  ⟨0x2E00, "", "right-angle-substitution-marker right-angle-dotted-substitution-marker
    left-substitution-bracket right-substitution-bracket left-dotted-substitution-bracket
    right-dotted-substitution-bracket raised-interpolation-marker
    raised-dotted-interpolation-marker dotted-transposition-marker left-transposition-bracket
    right-transposition-bracket raised-square left-raised-omission-bracket
    right-raised-omission-bracket editorial-coronis paragraphos forked-paragraphos
    reversed-forked-paragraphos hypodiastole dotted-obelos downwards-ancora upwards-ancora
    dotted-right-pointing-angle double-oblique-hyphen inverted-interrobang palm-branch
    hyphen-with-diaeresis tilde-with-ring-above left-low-paraphrase-bracket
    right-low-paraphrase-bracket tilde-with-dot-above tilde-with-dot-below
    left-vertical-bar-with-quill right-vertical-bar-with-quill top-left-half-bracket
    top-right-half-bracket bottom-left-half-bracket bottom-right-half-bracket
    left-sideways-u-bracket right-sideways-u-bracket left-double-parenthesis
    right-double-parenthesis two-dots-over-one-dot-punctuation one-dot-over-two-dots-punctuation
    squared-four-dot-punctuation five-dot-mark reversed-question-mark vertical-tilde ring-point
    word-separator-middle-dot turned-comma raised-dot raised-comma turned-semicolon
    dagger-with-left-guard dagger-with-right-guard turned-dagger top-half-section-sign
    two-em-dash three-em-dash stenographic-full-stop vertical-six-dots wiggly-vertical-line
    capitulum double-hyphen reversed-comma double-low-reversed-9-quotation-mark
    dash-with-left-upturn double-suspension-mark inverted-low-kavyka
    inverted-low-kavyka-with-kavyka-above low-kavyka low-kavyka-with-dot double-stacked-comma
    dotted-solidus triple-dagger medieval-comma paragraphus-mark punctus-elevatus-mark
    cornish-verse-divider cross-patty-with-right-crossbar cross-patty-with-left-crossbar
    tironian-sign-capital-et medieval-exclamation-mark medieval-question-mark
    left-square-bracket-with-stroke right-square-bracket-with-stroke
    left-square-bracket-with-double-stroke right-square-bracket-with-double-stroke
    top-half-left-parenthesis top-half-right-parenthesis bottom-half-left-parenthesis
    bottom-half-right-parenthesis oblique-hyphen"⟩,
  ⟨0x2E80, "cjk-radical-", "repeat cliff second-one second-two second-three person box table
    knife-one knife-two divination seal small-one small-two lame-one lame-two lame-three
    lame-four snake thread snout-one snout-two heart-one heart-two hand rap"⟩,
  ⟨0x2E9B, "cjk-radical-", "choke sun moon death mother civilian water-one water-two fire paw-one
    paw-two simplified-half-tree-trunk cow dog jade bolt-of-cloth eye spirit-one spirit-two
    bamboo silk c-simplified-silk net-one net-two net-three net-four mesh sheep ram ewe old
    brush-one brush-two meat mortar grass-one grass-two grass-three tiger clothes west-one
    west-two c-simplified-see simplified-horn horn c-simplified-speech c-simplified-shell foot
    c-simplified-cart simplified-walk walk-one walk-two city c-simplified-gold long-one long-two
    c-simplified-long c-simplified-gate mound-one mound-two rain blue c-simplified-tanned-leather
    c-simplified-leaf c-simplified-wind c-simplified-fly eat-one eat-two eat-three
    c-simplified-eat head c-simplified-horse bone ghost c-simplified-fish c-simplified-bird
    c-simplified-salt simplified-wheat simplified-yellow c-simplified-frog j-simplified-even
    c-simplified-even j-simplified-tooth c-simplified-tooth j-simplified-dragon
    c-simplified-dragon turtle j-simplified-turtle c-simplified-turtle"⟩,
  ⟨0x2F00, "kangxi-radical-", "one line dot slash second hook two lid man legs enter eight
    down-box cover ice table open-box knife power wrap spoon right-open-box hiding-enclosure ten
    divination seal cliff private again mouth enclosure earth scholar go go-slowly evening big
    woman child roof inch small lame corpse sprout mountain river work oneself turban dry
    short-thread dotted-cliff long-stride two-hands shoot bow snout bristle step heart halberd
    door hand branch rap script dipper axe square not sun say moon tree lack stop death weapon
    do-not compare fur clan steam water fire claw father double-x half-tree-trunk slice fang cow
    dog profound jade melon tile sweet life use field bolt-of-cloth sickness dotted-tent white
    skin dish eye spear arrow stone spirit track grain cave stand bamboo rice silk jar net sheep
    feather old and plow ear brush meat minister self arrive mortar tongue oppose boat stopping
    color grass tiger insect blood walk-enclosure clothes west see horn speech valley bean pig
    badger shell red run foot body cart bitter morning walk city wine distinguish village gold
    long gate mound slave short-tailed-bird rain blue wrong face leather tanned-leather leek
    sound leaf wind fly eat head fragrant horse bone tall hair fight sacrificial-wine cauldron
    ghost fish bird salt deer wheat hemp yellow millet black embroidery frog tripod drum rat nose
    even tooth dragon turtle flute"⟩,
  ⟨0x2FF0, "ideographic-description-character-", "left-to-right above-to-below
    left-to-middle-and-right above-to-middle-and-below full-surround surround-from-above
    surround-from-below surround-from-left surround-from-upper-left surround-from-upper-right
    surround-from-lower-left overlaid surround-from-right surround-from-lower-right
    horizontal-reflection rotation"⟩,
  ⟨0x3000, "ideographic-", "space comma full-stop"⟩,
  ⟨0x3003, "", "ditto-mark japanese-industrial-standard-symbol ideographic-iteration-mark
    ideographic-closing-mark ideographic-number-zero left-angle-bracket right-angle-bracket
    left-double-angle-bracket right-double-angle-bracket left-corner-bracket right-corner-bracket
    left-white-corner-bracket right-white-corner-bracket left-black-lenticular-bracket
    right-black-lenticular-bracket postal-mark geta-mark left-tortoise-shell-bracket
    right-tortoise-shell-bracket left-white-lenticular-bracket right-white-lenticular-bracket
    left-white-tortoise-shell-bracket right-white-tortoise-shell-bracket
    left-white-square-bracket right-white-square-bracket wave-dash
    reversed-double-prime-quotation-mark double-prime-quotation-mark
    low-double-prime-quotation-mark postal-mark-face"⟩,
  ⟨0x3021, "hangzhou-numeral-", "one two three four five six seven eight nine"⟩,
  ⟨0x302A, "ideographic-", "level-tone-mark rising-tone-mark departing-tone-mark
    entering-tone-mark"⟩,
  ⟨0x302E, "", "hangul-single-dot-tone-mark hangul-double-dot-tone-mark wavy-dash"⟩,
  ⟨0x3031, "vertical-kana-repeat-", "mark with-voiced-sound-mark mark-upper-half
    with-voiced-sound-mark-upper-half mark-lower-half"⟩,
  ⟨0x3036, "", "circled-postal-mark ideographic-telegraph-line-feed-separator-symbol"⟩,
  ⟨0x3038, "hangzhou-numeral-", "ten twenty thirty"⟩,
  ⟨0x303B, "", "vertical-ideographic-iteration-mark masu-mark part-alternation-mark
    ideographic-variation-indicator ideographic-half-fill-space"⟩,
  ⟨0x3041, "hiragana-letter-", "small-a a small-i i small-u u small-e e small-o o ka ga ki gi ku
    gu ke ge ko go sa za si zi su zu se ze so zo ta da ti di small-tu tu du te de to do na ni nu
    ne no ha ba pa hi bi pi hu bu pu he be pe ho bo po ma mi mu me mo small-ya ya small-yu yu
    small-yo yo ra ri ru re ro small-wa wa wi we wo n vu small-ka small-ke"⟩,
  ⟨0x3099, "combining-katakana-hiragana-", "voiced-sound-mark semi-voiced-sound-mark"⟩,
  ⟨0x309B, "katakana-hiragana-", "voiced-sound-mark semi-voiced-sound-mark"⟩,
  ⟨0x309D, "hiragana-", "iteration-mark voiced-iteration-mark digraph-yori"⟩,
  ⟨0x30A0, "katakana-hiragana-double-", "hyphen"⟩,
  ⟨0x30A1, "katakana-letter-", "small-a a small-i i small-u u small-e e small-o o ka ga ki gi ku
    gu ke ge ko go sa za si zi su zu se ze so zo ta da ti di small-tu tu du te de to do na ni nu
    ne no ha ba pa hi bi pi hu bu pu he be pe ho bo po ma mi mu me mo small-ya ya small-yu yu
    small-yo yo ra ri ru re ro small-wa wa wi we wo n vu small-ka small-ke va vi ve vo"⟩,
  ⟨0x30FB, "katakana-", "middle-dot hiragana-prolonged-sound-mark iteration-mark
    voiced-iteration-mark digraph-koto"⟩,
  ⟨0x3105, "bopomofo-letter-", "b p m f d t n l g k h j q x zh ch sh r z c s a o e eh ai ei au ou
    an en ang eng er i u iu v ng gn ih o-with-dot-above nn"⟩,
  ⟨0x3131, "hangul-letter-", "kiyeok ssangkiyeok kiyeok-sios nieun nieun-cieuc nieun-hieuh tikeut
    ssangtikeut rieul rieul-kiyeok rieul-mieum rieul-pieup rieul-sios rieul-thieuth rieul-phieuph
    rieul-hieuh mieum pieup ssangpieup pieup-sios sios ssangsios ieung cieuc ssangcieuc chieuch
    khieukh thieuth phieuph hieuh a ae ya yae eo e yeo ye o wa wae oe yo u weo we wi yu eu yi i"⟩,
  ⟨0x3164, "hangul-", "filler"⟩,
  ⟨0x3165, "hangul-letter-", "ssangnieun nieun-tikeut nieun-sios nieun-pansios rieul-kiyeok-sios
    rieul-tikeut rieul-pieup-sios rieul-pansios rieul-yeorinhieuh mieum-pieup mieum-sios
    mieum-pansios kapyeounmieum pieup-kiyeok pieup-tikeut pieup-sios-kiyeok pieup-sios-tikeut
    pieup-cieuc pieup-thieuth kapyeounpieup kapyeounssangpieup sios-kiyeok sios-nieun sios-tikeut
    sios-pieup sios-cieuc pansios ssangieung yesieung yesieung-sios yesieung-pansios
    kapyeounphieuph ssanghieuh yeorinhieuh yo-ya yo-yae yo-i yu-yeo yu-ye yu-i araea araeae"⟩,
  ⟨0x3190, "ideographic-annotation-", "linking-mark reverse-mark one-mark two-mark three-mark
    four-mark top-mark middle-mark bottom-mark first-mark second-mark third-mark fourth-mark
    heaven-mark earth-mark man-mark"⟩,
  ⟨0x31A0, "bopomofo-letter-", "bu zi ji gu ee enn oo onn ir ann inn unn im ngg ainn aunn am om
    ong innn"⟩,
  ⟨0x31B4, "bopomofo-final-letter-", "p t k h"⟩,
  ⟨0x31B8, "bopomofo-", "letter-gh letter-lh letter-zy final-letter-g letter-gw letter-kw
    letter-oe letter-ah"⟩,
  ⟨0x31C0, "cjk-stroke-", "t wg xg bxg sw hzz hzg hp hzwg szwg hzt hzzp hpwg hzw hzzz n h s p sp
    d hz hg sz swz st sg pd pz tn szz swg hxwg hzzzg pg q hxg szp"⟩,
  ⟨0x31EF, "ideographic-description-character-", "subtraction"⟩,
  ⟨0x31F0, "katakana-letter-small-", "ku si su to nu ha hi hu he ho mu ra ri ru re ro"⟩,
  ⟨0x3200, "parenthesized-hangul-", "kiyeok nieun tikeut rieul mieum pieup sios ieung cieuc
    chieuch khieukh thieuth phieuph hieuh kiyeok-a nieun-a tikeut-a rieul-a mieum-a pieup-a
    sios-a ieung-a cieuc-a chieuch-a khieukh-a thieuth-a phieuph-a hieuh-a cieuc-u"⟩,
  ⟨0x321D, "parenthesized-korean-character-", "ojeon o-hu"⟩,
  ⟨0x3220, "parenthesized-ideograph-", "one two three four five six seven eight nine ten moon
    fire water wood metal earth sun stock have society name special financial congratulation
    labor represent call study supervise enterprise resource alliance festival rest self reach"⟩,
  ⟨0x3244, "circled-ideograph-", "question kindergarten school koto"⟩,
  ⟨0x3248, "circled-number-", "ten-on-black-square twenty-on-black-square thirty-on-black-square
    forty-on-black-square fifty-on-black-square sixty-on-black-square seventy-on-black-square
    eighty-on-black-square"⟩,
  ⟨0x3250, "partnership-", "sign"⟩,
  ⟨0x3251, "circled-number-twenty-", "one two three four five six seven eight nine"⟩,
  ⟨0x325A, "circled-number-", "thirty thirty-one thirty-two thirty-three thirty-four thirty-five"⟩,
  ⟨0x3260, "circled-hangul-", "kiyeok nieun tikeut rieul mieum pieup sios ieung cieuc chieuch
    khieukh thieuth phieuph hieuh kiyeok-a nieun-a tikeut-a rieul-a mieum-a pieup-a sios-a
    ieung-a cieuc-a chieuch-a khieukh-a thieuth-a phieuph-a hieuh-a"⟩,
  ⟨0x327C, "circled-korean-character-", "chamko jueui"⟩,
  ⟨0x327E, "", "circled-hangul-ieung-u korean-standard-symbol"⟩,
  ⟨0x3280, "circled-ideograph-", "one two three four five six seven eight nine ten moon fire
    water wood metal earth sun stock have society name special financial congratulation labor
    secret male female suitable excellent print attention item rest copy correct high centre low
    left right medicine religion study supervise enterprise resource alliance night"⟩,
  ⟨0x32B1, "circled-number-", "thirty-six thirty-seven thirty-eight thirty-nine forty forty-one
    forty-two forty-three forty-four forty-five forty-six forty-seven forty-eight forty-nine
    fifty"⟩,
  ⟨0x32C0, "ideographic-telegraph-symbol-for-", "january february march april may june july
    august september october november december"⟩,
  ⟨0x32CC, "", "square-hg square-erg square-ev limited-liability-sign"⟩,
  ⟨0x32D0, "circled-katakana-", "a i u e o ka ki ku ke ko sa si su se so ta ti tu te to na ni nu
    ne no ha hi hu he ho ma mi mu me mo ya yu yo ra ri ru re ro wa wi we wo"⟩,
  ⟨0x32FF, "square-", "era-name-reiwa apaato aruhua anpea aaru iningu inti uon esukuudo eekaa
    onsu oomu kairi karatto karorii garon ganma giga ginii kyurii girudaa kiro kiroguramu
    kiromeetoru kirowatto guramu guramuton kuruzeiro kuroone keesu koruna koopo saikuru santiimu
    siringu senti sento daasu desi doru ton nano notto haitu paasento paatu baareru piasutoru
    pikuru piko biru huaraddo huiito bussyeru huran hekutaaru peso penihi herutu pensu peezi
    beeta pointo boruto hon pondo hooru hoon maikuro mairu mahha maruku mansyon mikuron miri
    miribaaru mega megaton meetoru yaado yaaru yuan rittoru rira rupii ruuburu remu rentogen
    watto"⟩,
  ⟨0x3358, "ideographic-telegraph-symbol-for-hour-", "zero one two three four five six seven
    eight nine ten eleven twelve thirteen fourteen fifteen sixteen seventeen eighteen nineteen
    twenty twenty-one twenty-two twenty-three twenty-four"⟩,
  ⟨0x3371, "square-", "hpa da au bar ov pc dm dm-squared dm-cubed iu era-name-heisei
    era-name-syouwa era-name-taisyou era-name-meizi corporation pa-amps na mu-a ma ka kb mb gb
    cal kcal pf nf mu-f mu-g mg kg hz khz mhz ghz thz mu-l ml dl kl fm nm mu-m mm cm km
    mm-squared cm-squared m-squared km-squared mm-cubed cm-cubed m-cubed km-cubed m-over-s
    m-over-s-squared pa kpa mpa gpa rad rad-over-s rad-over-s-squared ps ns mu-s ms pv nv mu-v mv
    kv mv-mega pw nw mu-w mw kw mw-mega k-ohm m-ohm am bq cc cd c-over-kg co db gy ha hp in kk
    km-capital kt lm ln log lx mb-small mil mol ph pm ppm pr sr sv wb v-over-m a-over-m"⟩,
  ⟨0x33E0, "ideographic-telegraph-symbol-for-day-", "one two three four five six seven eight nine
    ten eleven twelve thirteen fourteen fifteen sixteen seventeen eighteen nineteen twenty
    twenty-one twenty-two twenty-three twenty-four twenty-five twenty-six twenty-seven
    twenty-eight twenty-nine thirty thirty-one"⟩,
  ⟨0x33FF, "square-", "gal"⟩,
  ⟨0x4DC0, "hexagram-for-", "the-creative-heaven the-receptive-earth difficulty-at-the-beginning
    youthful-folly waiting conflict the-army holding-together small-taming treading peace
    standstill fellowship great-possession modesty enthusiasm following work-on-the-decayed
    approach contemplation biting-through grace splitting-apart return innocence great-taming
    mouth-corners great-preponderance the-abysmal-water the-clinging-fire influence duration
    retreat great-power progress darkening-of-the-light the-family opposition obstruction
    deliverance decrease increase breakthrough coming-to-meet gathering-together pushing-upward
    oppression the-well revolution the-cauldron the-arousing-thunder the-keeping-still-mountain
    development the-marrying-maiden abundance the-wanderer the-gentle-wind the-joyous-lake
    dispersion limitation inner-truth small-preponderance after-completion before-completion"⟩]

end Dictation.Unicode.Name
