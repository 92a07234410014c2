import Dictation.Unicode.Name.Block
/-!
# Scripts of the Middle East

Spoken names from 0x591 on, as of Unicode 16.
-/
namespace Dictation.Unicode.Name

set_option maxRecDepth 10000 in
def middleEasternBlocks : List Block := [
  ⟨0x591, "hebrew-accent-", "etnahta segol shalshelet zaqef-qatan zaqef-gadol tipeha revia zarqa
    pashta yetiv tevir geresh geresh-muqdam gershayim qarney-para telisha-gedola pazer
    atnah-hafukh munah mahapakh merkha merkha-kefula darga qadma telisha-qetana yerah-ben-yomo
    ole iluy dehi zinor"⟩,
  ⟨0x5AF, "hebrew-mark-masora-", "circle"⟩,
  ⟨0x5B0, "hebrew-point-", "sheva hataf-segol hataf-patah hataf-qamats hiriq tsere segol patah
    qamats holam holam-haser-for-vav qubuts dagesh-or-mapiq meteg"⟩,
  ⟨0x5BE, "hebrew-", "punctuation-maqaf point-rafe punctuation-paseq point-shin-dot point-sin-dot
    punctuation-sof-pasuq mark-upper-dot mark-lower-dot punctuation-nun-hafukha
    point-qamats-qatan"⟩,
  ⟨0x5D0, "hebrew-letter-", "alef bet gimel dalet he vav zayin het tet yod final-kaf kaf lamed
    final-mem mem final-nun nun samekh ayin final-pe pe final-tsadi tsadi qof resh shin tav"⟩,
  ⟨0x5EF, "hebrew-yod-", "triangle"⟩,
  ⟨0x5F0, "hebrew-ligature-yiddish-", "double-vav vav-yod double-yod"⟩,
  ⟨0x5F3, "hebrew-punctuation-", "geresh gershayim"⟩,
  ⟨0x600, "arabic-", "number-sign sign-sanah footnote-marker sign-safha sign-samvat
    number-mark-above indic-cube-root indic-fourth-root ray indic-per-mille-sign
    indic-per-ten-thousand-sign"⟩,
  ⟨0x60B, "afghani-", "sign"⟩,
  ⟨0x60C, "arabic-", "comma date-separator poetic-verse-sign sign-misra
    sign-sallallahou-alayhe-wassallam sign-alayhe-assallam sign-rahmatullah-alayhe
    sign-radi-allahou-anhu sign-takhallus small-high-tah
    small-high-ligature-alef-with-lam-with-yeh small-high-zain small-fatha small-damma
    small-kasra semicolon letter-mark end-of-text-mark triple-dot-punctuation-mark question-mark"⟩,
  ⟨0x620, "arabic-letter-", "kashmiri-yeh hamza alef-with-madda-above alef-with-hamza-above
    waw-with-hamza-above alef-with-hamza-below yeh-with-hamza-above alef beh teh-marbuta teh theh
    jeem hah khah dal thal reh zain seen sheen sad dad tah zah ain ghain
    keheh-with-two-dots-above keheh-with-three-dots-below"⟩,
  ⟨0x63D, "arabic-letter-farsi-yeh-with-", "inverted-v two-dots-above three-dots-above"⟩,
  ⟨0x640, "arabic-", "tatweel"⟩,
  ⟨0x641, "arabic-letter-", "feh qaf kaf lam meem noon heh waw alef-maksura yeh"⟩,
  ⟨0x64B, "arabic-", "fathatan dammatan kasratan fatha damma kasra shadda sukun maddah-above
    hamza-above hamza-below subscript-alef inverted-damma mark-noon-ghunna zwarakay
    vowel-sign-small-v-above vowel-sign-inverted-small-v-above vowel-sign-dot-below
    reversed-damma fatha-with-two-dots wavy-hamza-below"⟩,
  ⟨0x660, "arabic-indic-digit-", "zero one two three four five six seven eight nine"⟩,
  ⟨0x66A, "arabic-", "percent-sign decimal-separator thousands-separator five-pointed-star"⟩,
  ⟨0x66E, "arabic-letter-", "dotless-beh dotless-qaf superscript-alef alef-wasla
    alef-with-wavy-hamza-above alef-with-wavy-hamza-below high-hamza high-hamza-alef
    high-hamza-waw u-with-hamza-above high-hamza-yeh tteh tteheh beeh teh-with-ring
    teh-with-three-dots-above-downwards peh teheh beheh hah-with-hamza-above
    hah-with-two-dots-vertical-above nyeh dyeh hah-with-three-dots-above tcheh tcheheh ddal
    dal-with-ring dal-with-dot-below dal-with-dot-below-and-small-tah dahal ddahal dul
    dal-with-three-dots-above-downwards dal-with-four-dots-above rreh reh-with-small-v
    reh-with-ring reh-with-dot-below reh-with-small-v-below reh-with-dot-below-and-dot-above
    reh-with-two-dots-above jeh reh-with-four-dots-above seen-with-dot-below-and-dot-above
    seen-with-three-dots-below seen-with-three-dots-below-and-three-dots-above
    sad-with-two-dots-below sad-with-three-dots-above tah-with-three-dots-above
    ain-with-three-dots-above dotless-feh feh-with-dot-moved-below feh-with-dot-below veh
    feh-with-three-dots-below peheh qaf-with-dot-above qaf-with-three-dots-above keheh swash-kaf
    kaf-with-ring kaf-with-dot-above ng kaf-with-three-dots-below gaf gaf-with-ring ngoeh
    gaf-with-two-dots-below gueh gaf-with-three-dots-above lam-with-small-v lam-with-dot-above
    lam-with-three-dots-above lam-with-three-dots-below noon-with-dot-below noon-ghunna rnoon
    noon-with-ring noon-with-three-dots-above heh-doachashmee tcheh-with-dot-above
    heh-with-yeh-above heh-goal heh-goal-with-hamza-above teh-marbuta-goal waw-with-ring
    kirghiz-oe oe u yu kirghiz-yu waw-with-two-dots-above ve farsi-yeh yeh-with-tail
    yeh-with-small-v waw-with-dot-above e yeh-with-three-dots-below yeh-barree
    yeh-barree-with-hamza-above"⟩,
  ⟨0x6D4, "arabic-", "full-stop letter-ae"⟩,
  ⟨0x6D6, "arabic-small-high-", "ligature-sad-with-lam-with-alef-maksura
    ligature-qaf-with-lam-with-alef-maksura meem-initial-form lam-alef jeem three-dots seen"⟩,
  ⟨0x6DD, "arabic-", "end-of-ayah start-of-rub-el-hizb"⟩,
  ⟨0x6DF, "arabic-small-", "high-rounded-zero high-upright-rectangular-zero
    high-dotless-head-of-khah high-meem-isolated-form low-seen high-madda waw yeh high-yeh
    high-noon"⟩,
  ⟨0x6E9, "arabic-", "place-of-sajdah empty-centre-low-stop empty-centre-high-stop
    rounded-high-stop-with-filled-centre small-low-meem letter-dal-with-inverted-v
    letter-reh-with-inverted-v"⟩,
  ⟨0x6F0, "extended-arabic-indic-digit-", "zero one two three four five six seven eight nine"⟩,
  ⟨0x6FA, "arabic-", "letter-sheen-with-dot-below letter-dad-with-dot-below
    letter-ghain-with-dot-below sign-sindhi-ampersand sign-sindhi-postposition-men
    letter-heh-with-inverted-v"⟩,
  ⟨0x700, "syriac-", "end-of-paragraph supralinear-full-stop sublinear-full-stop
    supralinear-colon sublinear-colon horizontal-colon colon-skewed-left colon-skewed-right
    supralinear-colon-skewed-left sublinear-colon-skewed-right contraction harklean-obelus
    harklean-metobelus harklean-asteriscus"⟩,
  ⟨0x70F, "syriac-abbreviation-", "mark"⟩,
  ⟨0x710, "syriac-letter-", "alaph superscript-alaph beth gamal gamal-garshuni dalath
    dotless-dalath-rish he waw zain heth teth teth-garshuni yudh yudh-he kaph lamadh mim nun
    semkath final-semkath e pe reversed-pe sadhe qaph rish shin taw persian-bheth persian-ghamal
    persian-dhalath"⟩,
  ⟨0x730, "syriac-", "pthaha-above pthaha-below pthaha-dotted zqapha-above zqapha-below
    zqapha-dotted rbasa-above rbasa-below dotted-zlama-horizontal dotted-zlama-angular
    hbasa-above hbasa-below hbasa-esasa-dotted esasa-above esasa-below rwaha feminine-dot
    qushshaya rukkakha two-vertical-dots-above two-vertical-dots-below three-dots-above
    three-dots-below oblique-line-above oblique-line-below music barrekh"⟩,
  ⟨0x74D, "syriac-letter-sogdian-", "zhain khaph fe"⟩,
  ⟨0x750, "arabic-letter-beh-with-", "three-dots-horizontally-below
    dot-below-and-three-dots-above three-dots-pointing-upwards-below
    three-dots-pointing-upwards-below-and-two-dots-above two-dots-below-and-dot-above
    inverted-small-v-below small-v"⟩,
  ⟨0x757, "arabic-letter-", "hah-with-two-dots-above hah-with-three-dots-pointing-upwards-below
    dal-with-two-dots-vertically-below-and-small-tah dal-with-inverted-small-v-below
    reh-with-stroke seen-with-four-dots-above ain-with-two-dots-above
    ain-with-three-dots-pointing-downwards-above ain-with-two-dots-vertically-above
    feh-with-two-dots-below feh-with-three-dots-pointing-upwards-below keheh-with-dot-above
    keheh-with-three-dots-above keheh-with-three-dots-pointing-upwards-below meem-with-dot-above
    meem-with-dot-below noon-with-two-dots-below noon-with-small-tah noon-with-small-v
    lam-with-bar reh-with-two-dots-vertically-above reh-with-hamza-above
    seen-with-two-dots-vertically-above hah-with-small-arabic-letter-tah-below
    hah-with-small-arabic-letter-tah-and-two-dots seen-with-small-arabic-letter-tah-and-two-dots
    reh-with-small-arabic-letter-tah-and-two-dots hah-with-small-arabic-letter-tah-above"⟩,
  ⟨0x773, "arabic-letter-alef-with-extended-arabic-indic-digit-", "two-above three-above"⟩,
  ⟨0x775, "arabic-letter-farsi-yeh-with-extended-arabic-indic-digit-", "two-above three-above
    four-below"⟩,
  ⟨0x778, "arabic-letter-waw-with-extended-arabic-indic-digit-", "two-above three-above"⟩,
  ⟨0x77A, "arabic-letter-yeh-barree-with-extended-arabic-indic-digit-", "two-above three-above"⟩,
  ⟨0x77C, "arabic-letter-", "hah-with-extended-arabic-indic-digit-four-below
    seen-with-extended-arabic-indic-digit-four-above seen-with-inverted-v kaf-with-two-dots-above"⟩,
  ⟨0x780, "thaana-letter-", "haa shaviyani noonu raa baa lhaviyani kaafu alifu vaavu meemu faafu
    dhaalu thaa laamu gaafu gnaviyani seenu daviyani zaviyani taviyani yaa paviyani javiyani
    chaviyani ttaa hhaa khaa thaalu zaa sheenu saadhu daadhu to zo ainu ghainu qaafu waavu"⟩,
  ⟨0x7A6, "thaana-", "abafili aabaafili ibifili eebeefili ubufili ooboofili ebefili eybeyfili
    obofili oaboafili sukun letter-naa"⟩,
  ⟨0x7C0, "nko-digit-", "zero one two three four five six seven eight nine"⟩,
  ⟨0x7CA, "nko-letter-", "a ee i e u oo o dagbasinna n ba pa ta ja cha da ra rra sa gba fa ka la
    na-woloso ma nya na ha wa ya nya-woloso jona-ja jona-cha jona-ra"⟩,
  ⟨0x7EB, "nko-combining-", "short-high-tone short-low-tone short-rising-tone
    long-descending-tone long-high-tone long-low-tone long-rising-tone nasalization-mark
    double-dot-above"⟩,
  ⟨0x7F4, "nko-", "high-tone-apostrophe low-tone-apostrophe symbol-oo-dennen symbol-gbakurunen
    comma exclamation-mark lajanyalan"⟩,
  ⟨0x7FD, "nko-", "dantayalan dorome-sign taman-sign"⟩,
  ⟨0x800, "samaritan-letter-", "alaf bit gaman dalat iy baa zen it tit yut kaaf labat mim nun
    singaat in fi tsaadiy quf rish shan taaf"⟩,
  ⟨0x816, "samaritan-", "mark-in mark-in-alaf mark-occlusion mark-dagesh
    modifier-letter-epenthetic-yut mark-epenthetic-yut"⟩,
  ⟨0x81C, "samaritan-vowel-sign-", "long-e e overlong-aa long-aa aa overlong-a long-a a"⟩,
  ⟨0x824, "samaritan-", "modifier-letter-short-a vowel-sign-short-a vowel-sign-long-u
    vowel-sign-u modifier-letter-i vowel-sign-long-i vowel-sign-i vowel-sign-o vowel-sign-sukun
    mark-nequdaa"⟩,
  ⟨0x830, "samaritan-punctuation-", "nequdaa afsaaq anged bau atmaau shiyyaalaa"⟩,
  ⟨0x836, "samaritan-abbreviation-", "mark"⟩,
  ⟨0x837, "samaritan-punctuation-", "melodic-qitsa ziqaa qitsa zaef turu arkaanu sof-mashfaat
    annaau"⟩,
  ⟨0x840, "mandaic-letter-", "halqa ab ag ad ah ushenna az it att aksa ak al am an as in ap asz
    aq ar ash at dushenna kad ain"⟩,
  ⟨0x859, "mandaic-", "affrication-mark vocalization-mark gemination-mark"⟩,
  ⟨0x85E, "mandaic-", "punctuation"⟩,
  ⟨0x860, "syriac-letter-malayalam-", "nga ja nya tta nna nnna bha ra lla llla ssa"⟩,
  ⟨0x870, "arabic-letter-alef-with-", "attached-fatha attached-top-right-fatha
    right-middle-stroke left-middle-stroke attached-kasra attached-bottom-right-kasra
    attached-round-dot-above attached-right-round-dot attached-left-round-dot
    attached-round-dot-below dot-above attached-top-right-fatha-and-dot-above
    right-middle-stroke-and-dot-above attached-bottom-right-kasra-and-dot-above
    attached-top-right-fatha-and-left-ring right-middle-stroke-and-left-ring
    attached-bottom-right-kasra-and-left-ring attached-right-hamza attached-left-hamza"⟩,
  ⟨0x883, "arabic-tatweel-with-", "overstruck-hamza overstruck-waw two-dots-below"⟩,
  ⟨0x886, "arabic-", "letter-thin-yeh baseline-round-dot raised-round-dot
    letter-noon-with-inverted-small-v letter-hah-with-inverted-small-v-below
    letter-tah-with-dot-below letter-tah-with-three-dots-below
    letter-keheh-with-two-dots-vertically-below vertical-tail"⟩,
  ⟨0x890, "arabic-", "pound-mark-above piastre-mark-above"⟩,
  ⟨0x897, "arabic-", "pepet small-high-word-al-juz small-low-word-ishmaam small-low-word-imaala
    small-low-word-tasheel madda-waajib superscript-alef-mokhassas doubled-madda
    half-madda-over-madda"⟩,
  ⟨0x8A0, "arabic-letter-", "beh-with-small-v-below beh-with-hamza-above jeem-with-two-dots-above
    tah-with-two-dots-above feh-with-dot-below-and-three-dots-above qaf-with-dot-below
    lam-with-double-bar meem-with-three-dots-above yeh-with-two-dots-below-and-hamza-above
    yeh-with-two-dots-below-and-dot-above reh-with-loop waw-with-dot-within rohingya-yeh low-alef
    dal-with-three-dots-below sad-with-three-dots-below gaf-with-inverted-stroke straight-waw
    zain-with-inverted-v-above ain-with-three-dots-below kaf-with-dot-below
    qaf-with-dot-below-and-no-dots-above beh-with-small-meem-above peh-with-small-meem-above
    teh-with-small-teh-above reh-with-small-noon-above
    yeh-with-two-dots-below-and-small-noon-above african-feh african-qaf african-noon
    peh-with-small-v teh-with-small-v tteh-with-small-v tcheh-with-small-v keheh-with-small-v
    ghain-with-three-dots-above african-qaf-with-three-dots-above jeem-with-three-dots-above
    jeem-with-three-dots-below lam-with-small-arabic-letter-tah-above graf"⟩,
  ⟨0x8C9, "arabic-small-", "farsi-yeh high-farsi-yeh high-yeh-barree-with-two-dots-below
    high-word-sah high-zah"⟩,
  ⟨0x8CE, "arabic-", "large-round-dot-above large-round-dot-below sukun-below large-circle-below
    large-round-dot-inside-circle-below"⟩,
  ⟨0x8D3, "arabic-small-", "low-waw high-word-ar-rub high-sad high-ain high-qaf
    high-noon-with-kasra low-noon-with-kasra"⟩,
  ⟨0x8DA, "arabic-small-high-word-", "ath-thalatha as-sajda an-nisf sakta qif waqfa"⟩,
  ⟨0x8E0, "arabic-", "small-high-footnote-marker small-high-sign-safha disputed-end-of-ayah
    turned-damma-below curly-fatha curly-damma curly-kasra curly-fathatan curly-dammatan
    curly-kasratan tone-one-dot-above tone-two-dots-above tone-loop-above tone-one-dot-below
    tone-two-dots-below tone-loop-below open-fathatan open-dammatan open-kasratan small-high-waw
    fatha-with-ring fatha-with-dot-above kasra-with-dot-below left-arrowhead-above
    right-arrowhead-above left-arrowhead-below right-arrowhead-below double-right-arrowhead-above
    double-right-arrowhead-above-with-dot right-arrowhead-above-with-dot damma-with-dot
    mark-sideways-noon-ghunna"⟩]

end Dictation.Unicode.Name
