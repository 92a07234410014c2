import Dictation.Unicode.Name.Block
/-!
# Scripts of South East Asia and the Americas

Spoken names from 0xE01 on, as of Unicode 16.
-/
namespace Dictation.Unicode.Name

set_option maxRecDepth 10000 in
/-- Scripts of South East Asia and the Americas. -/
def southEastAsianBlocks : List Block := [
  ⟨0xE01, "thai-character-", "ko-kai kho-khai kho-khuat kho-khwai kho-khon kho-rakhang ngo-ngu
    cho-chan cho-ching cho-chang so-so cho-choe yo-ying do-chada to-patak tho-than tho-nangmontho
    tho-phuthao no-nen do-dek to-tao tho-thung tho-thahan tho-thong no-nu bo-baimai po-pla
    pho-phung fo-fa pho-phan fo-fan pho-samphao mo-ma yo-yak ro-rua ru lo-ling lu wo-waen so-sala
    so-rusi so-sua ho-hip lo-chula o-ang ho-nokhuk paiyannoi sara-a mai-han-akat sara-aa sara-am
    sara-i sara-ii sara-ue sara-uee sara-u sara-uu phinthu"⟩,
  ⟨0xE3F, "thai-currency-symbol-", "baht"⟩,
  ⟨0xE40, "thai-character-", "sara-e sara-ae sara-o sara-ai-maimuan sara-ai-maimalai lakkhangyao
    maiyamok maitaikhu mai-ek mai-tho mai-tri mai-chattawa thanthakhat nikhahit yamakkan fongman"⟩,
  ⟨0xE50, "thai-digit-", "zero one two three four five six seven eight nine"⟩,
  ⟨0xE5A, "thai-character-", "angkhankhu khomut"⟩,
  ⟨0xE81, "lao-letter-", "ko kho-sung"⟩,
  ⟨0xE84, "lao-letter-kho-", "tam"⟩,
  ⟨0xE86, "lao-letter-", "pali-gha ngo co pali-cha so-tam"⟩,
  ⟨0xE8C, "lao-letter-", "pali-jha nyo pali-nya pali-tta pali-ttha pali-dda pali-ddha pali-nna do
    to tho-sung tho-tam pali-dha no bo po pho-sung fo-tam pho-tam fo-sung pali-bha mo yo lo-ling"⟩,
  ⟨0xEA5, "lao-letter-lo-", "loot"⟩,
  ⟨0xEA7, "lao-letter-", "wo sanskrit-sha sanskrit-ssa so-sung ho-sung pali-lla o ho-tam"⟩,
  ⟨0xEAF, "lao-", "ellipsis"⟩,
  ⟨0xEB0, "lao-vowel-sign-", "a mai-kan aa am i ii y yy u uu"⟩,
  ⟨0xEBA, "lao-", "sign-pali-virama vowel-sign-mai-kon semivowel-sign-lo semivowel-sign-nyo"⟩,
  ⟨0xEC0, "lao-vowel-sign-", "e ei o ay ai"⟩,
  ⟨0xEC6, "lao-ko-", "la"⟩,
  ⟨0xEC8, "lao-tone-mai-", "ek tho ti catawa"⟩,
  ⟨0xECC, "lao-", "cancellation-mark niggahita yamakkan"⟩,
  ⟨0xED0, "lao-digit-", "zero one two three four five six seven eight nine"⟩,
  ⟨0xEDC, "lao-", "ho-no ho-mo letter-khmu-go letter-khmu-nyo"⟩,
  ⟨0xF00, "tibetan-syllable-", "om"⟩,
  ⟨0xF01, "tibetan-mark-", "gter-yig-mgo-truncated-a gter-yig-mgo--um-rnam-bcad-ma
    gter-yig-mgo--um-gter-tsheg-ma initial-yig-mgo-mdun-ma closing-yig-mgo-sgab-ma
    caret-yig-mgo-phur-shad-ma yig-mgo-tsheg-shad-ma sbrul-shad bskur-yig-mgo bka--shog-yig-mgo
    intersyllabic-tsheg delimiter-tsheg-bstar shad nyis-shad tsheg-shad nyis-tsheg-shad
    rin-chen-spungs-shad rgya-gram-shad caret--dzud-rtags-me-long-can gter-tsheg"⟩,
  ⟨0xF15, "tibetan-logotype-sign-", "chad-rtags lhag-rtags"⟩,
  ⟨0xF17, "tibetan-astrological-sign-", "sgra-gcan--char-rtags -khyud-pa sdong-tshugs"⟩,
  ⟨0xF1A, "tibetan-sign-rdel-", "dkar-gcig dkar-gnyis dkar-gsum nag-gcig nag-gnyis dkar-rdel-nag"⟩,
  ⟨0xF20, "tibetan-digit-", "zero one two three four five six seven eight nine"⟩,
  ⟨0xF2A, "tibetan-digit-half-", "one two three four five six seven eight nine zero"⟩,
  ⟨0xF34, "tibetan-mark-", "bsdus-rtags ngas-bzung-nyi-zla caret--dzud-rtags-bzhi-mig-can
    ngas-bzung-sgor-rtags che-mgo tsa--phru gug-rtags-gyon gug-rtags-gyas ang-khang-gyon
    ang-khang-gyas"⟩,
  ⟨0xF3E, "tibetan-sign-", "yar-tshes mar-tshes"⟩,
  ⟨0xF40, "tibetan-letter-", "ka kha ga gha nga ca cha ja"⟩,
  ⟨0xF49, "tibetan-letter-", "nya tta ttha dda ddha nna ta tha da dha na pa pha ba bha ma tsa
    tsha dza dzha wa zha za -a ya ra la sha ssa sa ha a kssa fixed-form-ra kka rra"⟩,
  ⟨0xF71, "tibetan-vowel-sign-", "aa i ii u uu vocalic-r vocalic-rr vocalic-l vocalic-ll e ee o
    oo"⟩,
  ⟨0xF7E, "tibetan-", "sign-rjes-su-nga-ro sign-rnam-bcad vowel-sign-reversed-i
    vowel-sign-reversed-ii sign-nyi-zla-naa-da sign-sna-ldan mark-halanta mark-paluta"⟩,
  ⟨0xF86, "tibetan-sign-", "lci-rtags yang-rtags lce-tsa-can mchu-can gru-can-rgyings
    gru-med-rgyings inverted-mchu-can"⟩,
  ⟨0xF8D, "tibetan-subjoined-sign-", "lce-tsa-can mchu-can inverted-mchu-can"⟩,
  ⟨0xF90, "tibetan-subjoined-letter-", "ka kha ga gha nga ca cha ja"⟩,
  ⟨0xF99, "tibetan-subjoined-letter-", "nya tta ttha dda ddha nna ta tha da dha na pa pha ba bha
    ma tsa tsha dza dzha wa zha za -a ya ra la sha ssa sa ha a kssa fixed-form-wa fixed-form-ya
    fixed-form-ra"⟩,
  ⟨0xFBE, "tibetan-ku-ru-", "kha kha-bzhi-mig-can"⟩,
  ⟨0xFC0, "tibetan-cantillation-sign-", "heavy-beat light-beat cang-te-u sbub--chal"⟩,
  ⟨0xFC4, "tibetan-symbol-", "dril-bu rdo-rje padma-gdan rdo-rje-rgya-gram phur-pa nor-bu
    nor-bu-nyis--khyil nor-bu-gsum--khyil nor-bu-bzhi--khyil"⟩,
  ⟨0xFCE, "tibetan-sign-rdel-nag-", "rdel-dkar gsum"⟩,
  ⟨0xFD0, "tibetan-mark-", "bska--shog-gi-mgo-rgyan mnyam-yig-gi-mgo-rgyan nyis-tsheg
    initial-brda-rnying-yig-mgo-mdun-ma closing-brda-rnying-yig-mgo-sgab-ma"⟩,
  ⟨0xFD5, "", "right-facing-svasti-sign left-facing-svasti-sign
    right-facing-svasti-sign-with-dots left-facing-svasti-sign-with-dots
    tibetan-mark-leading-mchan-rtags tibetan-mark-trailing-mchan-rtags"⟩,
  ⟨0x1000, "myanmar-letter-", "ka kha ga gha nga ca cha ja jha nya nnya tta ttha dda ddha nna ta
    tha da dha na pa pha ba bha ma ya ra la wa sa ha lla a shan-a i ii u uu e mon-e o au"⟩,
  ⟨0x102B, "myanmar-vowel-sign-", "tall-aa aa i ii u uu e ai mon-ii mon-o e-above"⟩,
  ⟨0x1036, "myanmar-sign-", "anusvara dot-below visarga virama asat"⟩,
  ⟨0x103B, "myanmar-consonant-sign-medial-", "ya ra wa ha"⟩,
  ⟨0x103F, "myanmar-letter-great-", "sa"⟩,
  ⟨0x1040, "myanmar-digit-", "zero one two three four five six seven eight nine"⟩,
  ⟨0x104A, "myanmar-", "sign-little-section sign-section symbol-locative symbol-completed
    symbol-aforementioned symbol-genitive letter-sha letter-ssa"⟩,
  ⟨0x1052, "myanmar-letter-vocalic-", "r rr l ll"⟩,
  ⟨0x1056, "myanmar-vowel-sign-vocalic-", "r rr l ll"⟩,
  ⟨0x105A, "myanmar-letter-mon-", "nga jha bba bbe"⟩,
  ⟨0x105E, "myanmar-consonant-sign-mon-medial-", "na ma la"⟩,
  ⟨0x1061, "myanmar-", "letter-sgaw-karen-sha vowel-sign-sgaw-karen-eu tone-mark-sgaw-karen-hathi
    tone-mark-sgaw-karen-ke-pho"⟩,
  ⟨0x1065, "myanmar-letter-western-pwo-karen-", "tha pwa"⟩,
  ⟨0x1067, "myanmar-vowel-sign-western-pwo-karen-", "eu ue"⟩,
  ⟨0x1069, "myanmar-sign-western-pwo-karen-tone-", "1 2 3 4 5"⟩,
  ⟨0x106E, "myanmar-letter-eastern-pwo-karen-", "nna ywa ghwa"⟩,
  ⟨0x1071, "myanmar-vowel-sign-", "geba-karen-i kayah-oe kayah-u kayah-ee"⟩,
  ⟨0x1075, "myanmar-letter-shan-", "ka kha ga ca za nya da na pha fa ba tha ha"⟩,
  ⟨0x1082, "myanmar-consonant-sign-shan-medial-", "wa"⟩,
  ⟨0x1083, "myanmar-vowel-sign-shan-", "aa e e-above final-y"⟩,
  ⟨0x1087, "myanmar-sign-shan-", "tone-2 tone-3 tone-5 tone-6 council-tone-2 council-tone-3
    council-emphatic-tone"⟩,
  ⟨0x108E, "myanmar-", "letter-rumai-palaung-fa sign-rumai-palaung-tone-5"⟩,
  ⟨0x1090, "myanmar-shan-digit-", "zero one two three four five six seven eight nine"⟩,
  ⟨0x109A, "myanmar-sign-khamti-tone-", "1 3"⟩,
  ⟨0x109C, "myanmar-vowel-sign-aiton-", "a ai"⟩,
  ⟨0x109E, "myanmar-symbol-shan-", "one exclamation"⟩,
  ⟨0x10A0, "georgian-capital-letter-", "an ban gan don en vin zen tan in kan las man nar on par
    zhar rae san tar un phar khar ghan qar shin chin can jil cil char xan jhan hae he hie we har
    hoe"⟩,
  ⟨0x10C7, "georgian-capital-letter-", "yn"⟩,
  ⟨0x10CD, "georgian-capital-letter-", "aen"⟩,
  ⟨0x10D0, "georgian-letter-", "an ban gan don en vin zen tan in kan las man nar on par zhar rae
    san tar un phar khar ghan qar shin chin can jil cil char xan jhan hae he hie we har hoe fi yn
    elifi turned-gan ain"⟩,
  ⟨0x10FB, "", "georgian-paragraph-separator modifier-letter-georgian-nar"⟩,
  ⟨0x10FD, "georgian-letter-", "aen hard-sign labial-sign"⟩,
  ⟨0x1100, "hangul-choseong-", "kiyeok ssangkiyeok nieun tikeut ssangtikeut rieul mieum pieup
    ssangpieup sios ssangsios ieung cieuc ssangcieuc chieuch khieukh thieuth phieuph hieuh
    nieun-kiyeok ssangnieun nieun-tikeut nieun-pieup tikeut-kiyeok rieul-nieun ssangrieul
    rieul-hieuh kapyeounrieul mieum-pieup kapyeounmieum"⟩,
  ⟨0x111E, "hangul-choseong-pieup-", "kiyeok nieun tikeut sios sios-kiyeok sios-tikeut sios-pieup
    ssangsios sios-cieuc cieuc chieuch thieuth phieuph"⟩,
  ⟨0x112B, "hangul-choseong-", "kapyeounpieup kapyeounssangpieup"⟩,
  ⟨0x112D, "hangul-choseong-sios-", "kiyeok nieun tikeut rieul mieum pieup pieup-kiyeok ssangsios
    ieung cieuc chieuch khieukh thieuth phieuph hieuh"⟩,
  ⟨0x113C, "hangul-choseong-", "chitueumsios chitueumssangsios ceongchieumsios
    ceongchieumssangsios pansios ieung-kiyeok ieung-tikeut ieung-mieum ieung-pieup ieung-sios
    ieung-pansios ssangieung ieung-cieuc ieung-chieuch ieung-thieuth ieung-phieuph yesieung
    cieuc-ieung chitueumcieuc chitueumssangcieuc ceongchieumcieuc ceongchieumssangcieuc
    chieuch-khieukh chieuch-hieuh chitueumchieuch ceongchieumchieuch phieuph-pieup
    kapyeounphieuph ssanghieuh yeorinhieuh kiyeok-tikeut nieun-sios nieun-cieuc nieun-hieuh
    tikeut-rieul filler"⟩,
  ⟨0x1160, "hangul-jungseong-", "filler a ae ya yae eo e yeo ye o wa wae oe yo u weo we wi yu eu
    yi i a-o a-u ya-o ya-yo eo-o eo-u eo-eu yeo-o yeo-u o-eo o-e o-ye o-o o-u yo-ya yo-yae yo-yeo
    yo-o yo-i u-a u-ae u-eo-eu u-ye u-u yu-a yu-eo yu-e yu-yeo yu-ye yu-u yu-i eu-u eu-eu yi-u
    i-a i-ya i-o i-u i-eu i-araea araea araea-eo araea-u araea-i ssangaraea a-eu ya-u yeo-ya o-ya
    o-yae"⟩,
  ⟨0x11A8, "hangul-jongseong-", "kiyeok ssangkiyeok kiyeok-sios nieun nieun-cieuc nieun-hieuh
    tikeut rieul rieul-kiyeok rieul-mieum rieul-pieup rieul-sios rieul-thieuth rieul-phieuph
    rieul-hieuh mieum pieup pieup-sios sios ssangsios ieung cieuc chieuch khieukh thieuth phieuph
    hieuh kiyeok-rieul kiyeok-sios-kiyeok nieun-kiyeok nieun-tikeut nieun-sios nieun-pansios
    nieun-thieuth tikeut-kiyeok tikeut-rieul rieul-kiyeok-sios rieul-nieun rieul-tikeut
    rieul-tikeut-hieuh ssangrieul rieul-mieum-kiyeok rieul-mieum-sios rieul-pieup-sios
    rieul-pieup-hieuh rieul-kapyeounpieup rieul-ssangsios rieul-pansios rieul-khieukh
    rieul-yeorinhieuh mieum-kiyeok mieum-rieul mieum-pieup mieum-sios mieum-ssangsios
    mieum-pansios mieum-chieuch mieum-hieuh kapyeounmieum pieup-rieul pieup-phieuph pieup-hieuh
    kapyeounpieup sios-kiyeok sios-tikeut sios-rieul sios-pieup pansios ieung-kiyeok
    ieung-ssangkiyeok ssangieung ieung-khieukh yesieung yesieung-sios yesieung-pansios
    phieuph-pieup kapyeounphieuph hieuh-nieun hieuh-rieul hieuh-mieum hieuh-pieup yeorinhieuh
    kiyeok-nieun kiyeok-pieup kiyeok-chieuch kiyeok-khieukh kiyeok-hieuh ssangnieun"⟩,
  ⟨0x1200, "ethiopic-syllable-", "ha hu hi haa hee he ho hoa la lu li laa lee le lo lwa hha hhu
    hhi hhaa hhee hhe hho hhwa ma mu mi maa mee me mo mwa sza szu szi szaa szee sze szo szwa ra
    ru ri raa ree re ro rwa sa su si saa see se so swa sha shu shi shaa shee she sho shwa qa qu
    qi qaa qee qe qo qoa qwa"⟩,
  ⟨0x124A, "ethiopic-syllable-", "qwi qwaa qwee qwe"⟩,
  ⟨0x1250, "ethiopic-syllable-", "qha qhu qhi qhaa qhee qhe qho"⟩,
  ⟨0x1258, "ethiopic-syllable-", "qhwa"⟩,
  ⟨0x125A, "ethiopic-syllable-", "qhwi qhwaa qhwee qhwe"⟩,
  ⟨0x1260, "ethiopic-syllable-", "ba bu bi baa bee be bo bwa va vu vi vaa vee ve vo vwa ta tu ti
    taa tee te to twa ca cu ci caa cee ce co cwa xa xu xi xaa xee xe xo xoa xwa"⟩,
  ⟨0x128A, "ethiopic-syllable-", "xwi xwaa xwee xwe"⟩,
  ⟨0x1290, "ethiopic-syllable-", "na nu ni naa nee ne no nwa nya nyu nyi nyaa nyee nye nyo nywa
    glottal-a glottal-u glottal-i glottal-aa glottal-ee glottal-e glottal-o glottal-wa ka ku ki
    kaa kee ke ko koa kwa"⟩,
  ⟨0x12B2, "ethiopic-syllable-", "kwi kwaa kwee kwe"⟩,
  ⟨0x12B8, "ethiopic-syllable-", "kxa kxu kxi kxaa kxee kxe kxo"⟩,
  ⟨0x12C0, "ethiopic-syllable-", "kxwa"⟩,
  ⟨0x12C2, "ethiopic-syllable-", "kxwi kxwaa kxwee kxwe"⟩,
  ⟨0x12C8, "ethiopic-syllable-", "wa wu wi waa wee we wo woa"⟩,
  ⟨0x12D0, "ethiopic-syllable-pharyngeal-", "a u i aa ee e o"⟩,
  ⟨0x12D8, "ethiopic-syllable-", "za zu zi zaa zee ze zo zwa zha zhu zhi zhaa zhee zhe zho zhwa
    ya yu yi yaa yee ye yo yoa da du di daa dee de do dwa dda ddu ddi ddaa ddee dde ddo ddwa ja
    ju ji jaa jee je jo jwa ga gu gi gaa gee ge go goa gwa"⟩,
  ⟨0x1312, "ethiopic-syllable-", "gwi gwaa gwee gwe"⟩,
  ⟨0x1318, "ethiopic-syllable-", "gga ggu ggi ggaa ggee gge ggo ggwaa tha thu thi thaa thee the
    tho thwa cha chu chi chaa chee che cho chwa pha phu phi phaa phee phe pho phwa tsa tsu tsi
    tsaa tsee tse tso tswa tza tzu tzi tzaa tzee tze tzo tzoa fa fu fi faa fee fe fo fwa pa pu pi
    paa pee pe po pwa rya mya fya"⟩,
  ⟨0x135D, "ethiopic-", "combining-gemination-and-vowel-length-mark combining-vowel-length-mark
    combining-gemination-mark section-mark wordspace full-stop comma semicolon colon
    preface-colon question-mark paragraph-separator"⟩,
  ⟨0x1369, "ethiopic-digit-", "one two three four five six seven eight nine"⟩,
  ⟨0x1372, "ethiopic-number-", "ten twenty thirty forty fifty sixty seventy eighty ninety hundred
    ten-thousand"⟩,
  ⟨0x1380, "ethiopic-syllable-", "sebatbeit-mwa mwi mwee mwe sebatbeit-bwa bwi bwee bwe
    sebatbeit-fwa fwi fwee fwe sebatbeit-pwa pwi pwee pwe"⟩,
  ⟨0x1390, "ethiopic-tonal-mark-", "yizet deret rikrik short-rikrik difat kenat chiret hidet
    deret-hidet kurt"⟩,
  ⟨0x13A0, "cherokee-letter-", "a e i o u v ga ka ge gi go gu gv ha he hi ho hu hv la le li lo lu
    lv ma me mi mo mu na hna nah ne ni no nu nv qua que qui quo quu quv sa s se si so su sv da ta
    de te di ti do du dv dla tla tle tli tlo tlu tlv tsa tse tsi tso tsu tsv wa we wi wo wu wv ya
    ye yi yo yu yv mv"⟩,
  ⟨0x13F8, "cherokee-small-letter-", "ye yi yo yu yv mv"⟩,
  ⟨0x1400, "canadian-syllabics-", "hyphen e aai i ii o oo y-cree-oo carrier-ee carrier-i a aa we
    west-cree-we wi west-cree-wi wii west-cree-wii wo west-cree-wo woo west-cree-woo naskapi-woo
    wa west-cree-wa waa west-cree-waa naskapi-waa ai y-cree-w glottal-stop final-acute
    final-grave final-bottom-half-ring final-top-half-ring final-right-half-ring final-ring
    final-double-acute final-double-short-vertical-strokes final-middle-dot
    final-short-horizontal-stroke final-plus final-down-tack en in on an pe paai pi pii po poo
    y-cree-poo carrier-hee carrier-hi pa paa pwe west-cree-pwe pwi west-cree-pwi pwii
    west-cree-pwii pwo west-cree-pwo pwoo west-cree-pwoo pwa west-cree-pwa pwaa west-cree-pwaa
    y-cree-pwaa p west-cree-p carrier-h te taai ti tii to too y-cree-too carrier-dee carrier-di
    ta taa twe west-cree-twe twi west-cree-twi twii west-cree-twii two west-cree-two twoo
    west-cree-twoo twa west-cree-twa twaa west-cree-twaa naskapi-twaa t tte tti tto tta ke kaai
    ki kii ko koo y-cree-koo ka kaa kwe west-cree-kwe kwi west-cree-kwi kwii west-cree-kwii kwo
    west-cree-kwo kwoo west-cree-kwoo kwa west-cree-kwa kwaa west-cree-kwaa naskapi-kwaa k kw
    south-slavey-keh south-slavey-kih south-slavey-koh south-slavey-kah ce caai ci cii co coo
    y-cree-coo ca caa cwe west-cree-cwe cwi west-cree-cwi cwii west-cree-cwii cwo west-cree-cwo
    cwoo west-cree-cwoo cwa west-cree-cwa cwaa west-cree-cwaa naskapi-cwaa c sayisi-th me maai mi
    mii mo moo y-cree-moo ma maa mwe west-cree-mwe mwi west-cree-mwi mwii west-cree-mwii mwo
    west-cree-mwo mwoo west-cree-mwoo mwa west-cree-mwa mwaa west-cree-mwaa naskapi-mwaa m
    west-cree-m mh athapascan-m sayisi-m ne naai ni nii no noo y-cree-noo na naa nwe
    west-cree-nwe nwa west-cree-nwa nwaa west-cree-nwaa naskapi-nwaa n carrier-ng nh le laai li
    lii lo loo y-cree-loo la laa lwe west-cree-lwe lwi west-cree-lwi lwii west-cree-lwii lwo
    west-cree-lwo lwoo west-cree-lwoo lwa west-cree-lwa lwaa west-cree-lwaa l west-cree-l
    medial-l se saai si sii so soo y-cree-soo sa saa swe west-cree-swe swi west-cree-swi swii
    west-cree-swii swo west-cree-swo swoo west-cree-swoo swa west-cree-swa swaa west-cree-swaa
    naskapi-swaa s athapascan-s sw blackfoot-s moose-cree-sk"⟩,
  ⟨0x150A, "canadian-syllabics-naskapi-", "skw s-w spwa stwa skwa scwa"⟩,
  ⟨0x1510, "canadian-syllabics-", "she shi shii sho shoo sha shaa shwe west-cree-shwe shwi
    west-cree-shwi shwii west-cree-shwii shwo west-cree-shwo shwoo west-cree-shwoo shwa
    west-cree-shwa shwaa west-cree-shwaa sh ye yaai yi yii yo yoo y-cree-yoo ya yaa ywe
    west-cree-ywe ywi west-cree-ywi ywii west-cree-ywii ywo west-cree-ywo ywoo west-cree-ywoo ywa
    west-cree-ywa ywaa west-cree-ywaa naskapi-ywaa y bible-cree-y west-cree-y sayisi-yi re
    r-cree-re west-cree-le raai ri rii ro roo west-cree-lo ra raa west-cree-la rwaa
    west-cree-rwaa r west-cree-r medial-r fe faai fi fii fo foo fa faa fwaa west-cree-fwaa f the
    n-cree-the thi n-cree-thi thii n-cree-thii tho thoo tha thaa thwaa west-cree-thwaa th tthe
    tthi ttho ttha tth tye tyi tyo tya nunavik-he nunavik-hi nunavik-hii nunavik-ho nunavik-hoo
    nunavik-ha nunavik-haa nunavik-h nunavut-h hk qaai qi qii qo qoo qa qaa q tlhe tlhi tlho tlha
    west-cree-re west-cree-ri west-cree-ro west-cree-ra ngaai ngi ngii ngo ngoo nga ngaa ng nng
    sayisi-she sayisi-shi sayisi-sho sayisi-sha woods-cree-the woods-cree-thi woods-cree-tho
    woods-cree-tha woods-cree-th lhi lhii lho lhoo lha lhaa lh th-cree-the th-cree-thi
    th-cree-thii th-cree-tho th-cree-thoo th-cree-tha th-cree-thaa th-cree-th aivilik-b"⟩,
  ⟨0x15B0, "canadian-syllabics-blackfoot-", "e i o a we wi wo wa ne ni no na ke ki ko ka"⟩,
  ⟨0x15C0, "canadian-syllabics-sayisi-", "he hi ho ha"⟩,
  ⟨0x15C4, "canadian-syllabics-carrier-", "ghu gho ghe ghee ghi gha ru ro re ree ri ra wu wo we
    wee wi wa hwu hwo hwe hwee hwi hwa thu tho the thee thi tha ttu tto tte ttee tti tta pu po pe
    pee pi pa p gu go ge gee gi ga khu kho khe khee khi kha kku kko kke kkee kki kka kk nu no ne
    nee ni na mu mo me mee mi ma yu yo ye yee yi ya ju"⟩,
  ⟨0x1615, "canadian-syllabics-", "sayisi-ju carrier-jo carrier-je carrier-jee carrier-ji
    sayisi-ji"⟩,
  ⟨0x161B, "canadian-syllabics-carrier-", "ja jju jjo jje jjee jji jja lu lo le lee li la dlu dlo
    dle dlee dli dla lhu lho lhe lhee lhi lha tlhu tlho tlhe tlhee tlhi tlha tlu tlo tle tlee tli
    tla zu zo ze zee zi za z initial-z dzu dzo dze dzee dzi dza su so se see si sa shu sho she
    shee shi sha sh tsu tso tse tsee tsi tsa chu cho che chee chi cha ttsu ttso ttse ttsee ttsi
    ttsa"⟩,
  ⟨0x166D, "canadian-syllabics-", "chi-sign full-stop qai ngai nngi nngii nngo nngoo nnga nngaa"⟩,
  ⟨0x1677, "canadian-syllabics-woods-cree-", "thwee thwi thwii thwo thwoo thwa thwaa final-th"⟩,
  ⟨0x167F, "", "canadian-syllabics-blackfoot-w ogham-space-mark"⟩,
  ⟨0x1681, "ogham-letter-", "beith luis fearn sail nion uath dair tinne coll ceirt muin gort
    ngeadal straif ruis ailm onn ur eadhadh iodhadh eabhadh or uilleann ifin eamhancholl peith"⟩,
  ⟨0x169B, "ogham-", "feather-mark reversed-feather-mark"⟩,
  ⟨0x16A0, "runic-letter-", "fehu-feoh-fe-f v uruz-ur-u yr y w thurisaz-thurs-thorn eth ansuz-a
    os-o ac-a aesc long-branch-oss-o short-twig-oss-o o oe on raido-rad-reid-r kauna cen kaun-k g
    eng gebo-gyfu-g gar wunjo-wynn-w haglaz-h haegl-h long-branch-hagall-h short-twig-hagall-h
    naudiz-nyd-naud-n short-twig-naud-n dotted-n isaz-is-iss-i e jeran-j ger long-branch-ar-ae
    short-twig-ar-a iwaz-eoh pertho-peorth-p algiz-eolhx sowilo-s sigel-long-branch-sol-s
    short-twig-sol-s c z tiwaz-tir-tyr-t short-twig-tyr-t d berkanan-beorc-bjarkan-b
    short-twig-bjarkan-b dotted-p open-p ehwaz-eh-e mannaz-man-m long-branch-madr-m
    short-twig-madr-m laukaz-lagu-logr-l dotted-l ingwaz ing dagaz-daeg-d othalan-ethel-o ear ior
    cweorth calc cealc stan long-branch-yr short-twig-yr icelandic-yr q x"⟩,
  ⟨0x16EB, "runic-", "single-punctuation multiple-punctuation cross-punctuation arlaug-symbol
    tvimadur-symbol belgthor-symbol letter-k letter-sh letter-oo"⟩,
  ⟨0x16F4, "runic-letter-franks-casket-", "os is eh ac aesc"⟩,
  ⟨0x1700, "tagalog-letter-", "a i u ka ga nga ta da na pa ba ma ya ra la wa sa ha"⟩,
  ⟨0x1712, "tagalog-", "vowel-sign-i vowel-sign-u sign-virama sign-pamudpod"⟩,
  ⟨0x171F, "tagalog-letter-archaic-", "ra"⟩,
  ⟨0x1720, "hanunoo-letter-", "a i u ka ga nga ta da na pa ba ma ya ra la wa sa ha"⟩,
  ⟨0x1732, "hanunoo-", "vowel-sign-i vowel-sign-u sign-pamudpod"⟩,
  ⟨0x1735, "philippine-", "single-punctuation double-punctuation"⟩,
  ⟨0x1740, "buhid-letter-", "a i u ka ga nga ta da na pa ba ma ya ra la wa sa ha"⟩,
  ⟨0x1752, "buhid-vowel-sign-", "i u"⟩,
  ⟨0x1760, "tagbanwa-letter-", "a i u ka ga nga ta da na pa ba ma ya"⟩,
  ⟨0x176E, "tagbanwa-letter-", "la wa sa"⟩,
  ⟨0x1772, "tagbanwa-vowel-sign-", "i u"⟩,
  ⟨0x1780, "khmer-letter-", "ka kha ko kho ngo ca cha co cho nyo da ttha do ttho nno ta tha to
    tho no ba pha po pho mo yo ro lo vo sha sso sa ha la qa"⟩,
  ⟨0x17A3, "khmer-independent-vowel-", "qaq qaa qi qii qu quk quu quuv ry ryy ly lyy qe qai
    qoo-type-one qoo-type-two qau"⟩,
  ⟨0x17B4, "khmer-vowel-inherent-", "aq aa"⟩,
  ⟨0x17B6, "khmer-vowel-sign-", "aa i ii y yy u uu ua oe ya ie e ae ai oo au"⟩,
  ⟨0x17C6, "khmer-sign-", "nikahit reahmuk yuukaleapintu muusikatoan triisap bantoc robat
    toandakhiat kakabat ahsda samyok-sannya viriam coeng bathamasat khan bariyoosan
    camnuc-pii-kuuh lek-too beyyal phnaek-muan koomuut"⟩,
  ⟨0x17DB, "khmer-", "currency-symbol-riel sign-avakrahasanya sign-atthacan"⟩,
  ⟨0x17E0, "khmer-digit-", "zero one two three four five six seven eight nine"⟩,
  ⟨0x17F0, "khmer-symbol-lek-attak-", "son muoy pii bei buon pram pram-muoy pram-pii pram-bei
    pram-buon"⟩,
  ⟨0x1800, "mongolian-", "birga ellipsis comma full-stop colon four-dots todo-soft-hyphen
    sibe-syllable-boundary-marker manchu-comma manchu-full-stop nirugu
    free-variation-selector-one free-variation-selector-two free-variation-selector-three
    vowel-separator free-variation-selector-four"⟩,
  ⟨0x1810, "mongolian-digit-", "zero one two three four five six seven eight nine"⟩,
  ⟨0x1820, "mongolian-letter-", "a e i o u oe ue ee na ang ba pa qa ga ma la sa sha ta da cha ja
    ya ra wa fa ka kha tsa za haa zra lha zhi chi"⟩,
  ⟨0x1843, "mongolian-letter-todo-", "long-vowel-sign e i o u oe ue ang ba pa qa ga ma ta da cha
    ja tsa ya wa ka gaa haa jia nia dza"⟩,
  ⟨0x185D, "mongolian-letter-sibe-", "e i iy ue u ang ka ga ha pa sha ta da ja fa gaa haa tsa za
    raa cha zha"⟩,
  ⟨0x1873, "mongolian-letter-", "manchu-i manchu-ka manchu-ra manchu-fa manchu-zha
    cha-with-two-dots"⟩,
  ⟨0x1880, "mongolian-letter-ali-gali-", "anusvara-one visarga-one damaru ubadama
    inverted-ubadama baluda three-baluda a i ka nga ca tta ttha dda nna ta da pa pha ssa zha za
    ah"⟩,
  ⟨0x1898, "mongolian-letter-todo-ali-gali-", "ta zha"⟩,
  ⟨0x189A, "mongolian-letter-manchu-ali-gali-", "gha nga ca jha tta ddha ta dha ssa cya zha za"⟩,
  ⟨0x18A6, "mongolian-letter-", "ali-gali-half-u ali-gali-half-ya manchu-ali-gali-bha
    ali-gali-dagalga manchu-ali-gali-lha"⟩,
  ⟨0x18B0, "canadian-syllabics-", "oy ay aay way poy pay pwoy tay kay kway may noy nay lay soy
    say shoy shay shwoy yoy yay ray nwi ojibway-nwi nwii ojibway-nwii nwo ojibway-nwo nwoo
    ojibway-nwoo rwee rwi rwii rwo rwoo rwa ojibway-p ojibway-t ojibway-k ojibway-c ojibway-m
    ojibway-n ojibway-s ojibway-sh eastern-w western-w final-small-ring final-raised-dot
    r-cree-rwe west-cree-loo west-cree-laa thwe thwa tthwe tthoo tthaa tlhwe tlhoo sayisi-shwe
    sayisi-shoo sayisi-hoo carrier-gwu carrier-dene-gee carrier-gaa carrier-gwa sayisi-juu
    carrier-jwa beaver-dene-l beaver-dene-r carrier-dental-s"⟩,
  ⟨0x1900, "limbu-vowel-carrier-", "letter"⟩,
  ⟨0x1901, "limbu-letter-", "ka kha ga gha nga ca cha ja jha yan ta tha da dha na pa pha ba bha
    ma ya ra la wa sha ssa sa ha gyan tra"⟩,
  ⟨0x1920, "limbu-vowel-sign-", "a i u ee ai oo au e o"⟩,
  ⟨0x1929, "limbu-subjoined-letter-", "ya ra wa"⟩,
  ⟨0x1930, "limbu-small-letter-", "ka nga anusvara ta na pa ma ra la"⟩,
  ⟨0x1939, "limbu-sign-", "mukphreng kemphreng sa-i"⟩,
  ⟨0x1940, "limbu-sign-", "loo"⟩,
  ⟨0x1944, "limbu-", "exclamation-mark question-mark"⟩,
  ⟨0x1946, "limbu-digit-", "zero one two three four five six seven eight nine"⟩,
  ⟨0x1950, "tai-le-letter-", "ka xa nga tsa sa ya ta tha la pa pha ma fa va ha qa kha tsha na a i
    ee eh u oo o ue e aue ai"⟩,
  ⟨0x1970, "tai-le-letter-tone-", "2 3 4 5 6"⟩,
  ⟨0x1980, "new-tai-lue-letter-", "high-qa low-qa high-ka high-xa high-nga low-ka low-xa low-nga
    high-tsa high-sa high-ya low-tsa low-sa low-ya high-ta high-tha high-na low-ta low-tha low-na
    high-pa high-pha high-ma low-pa low-pha low-ma high-fa high-va high-la low-fa low-va low-la
    high-ha high-da high-ba low-ha low-da low-ba high-kva high-xva low-kva low-xva high-sua
    low-sua"⟩,
  ⟨0x19B0, "new-tai-lue-vowel-sign-", "vowel-shortener aa ii u uu e ae o oa ue ay aay uy oy oay
    uey iy"⟩,
  ⟨0x19C1, "new-tai-lue-letter-final-", "v ng n m k d b"⟩,
  ⟨0x19C8, "new-tai-lue-tone-mark-", "1 2"⟩,
  ⟨0x19D0, "new-tai-lue-digit-", "zero one two three four five six seven eight nine"⟩,
  ⟨0x19DA, "new-tai-lue-tham-digit-", "one"⟩,
  ⟨0x19DE, "new-tai-lue-sign-", "lae laev"⟩,
  ⟨0x19E0, "khmer-symbol-", "pathamasat muoy-koet pii-koet bei-koet buon-koet pram-koet
    pram-muoy-koet pram-pii-koet pram-bei-koet pram-buon-koet dap-koet dap-muoy-koet dap-pii-koet
    dap-bei-koet dap-buon-koet dap-pram-koet tuteyasat muoy-roc pii-roc bei-roc buon-roc pram-roc
    pram-muoy-roc pram-pii-roc pram-bei-roc pram-buon-roc dap-roc dap-muoy-roc dap-pii-roc
    dap-bei-roc dap-buon-roc dap-pram-roc"⟩,
  ⟨0x1A00, "buginese-letter-", "ka ga nga ngka pa ba ma mpa ta da na nra ca ja nya nyca ya ra la
    va sa a ha"⟩,
  ⟨0x1A17, "buginese-vowel-sign-", "i u e o ae"⟩,
  ⟨0x1A1E, "buginese-", "pallawa end-of-section"⟩,
  ⟨0x1A20, "tai-tham-letter-", "high-ka high-kha high-kxa low-ka low-kxa low-kha nga high-ca
    high-cha low-ca low-sa low-cha nya rata high-ratha da low-ratha rana high-ta high-tha low-ta
    low-tha na ba high-pa high-pha high-fa low-pa low-fa low-pha ma low-ya high-ya ra rue la lue
    wa high-sha high-ssa high-sa high-ha lla a low-ha i ii u uu ee oo lae great-sa"⟩,
  ⟨0x1A55, "tai-tham-consonant-sign-", "medial-ra medial-la la-tang-lai"⟩,
  ⟨0x1A58, "tai-tham-sign-mai-kang-", "lai"⟩,
  ⟨0x1A59, "tai-tham-consonant-sign-", "final-nga low-pa high-ratha-or-low-pa ma ba sa"⟩,
  ⟨0x1A60, "tai-tham-sign-", "sakot"⟩,
  ⟨0x1A61, "tai-tham-vowel-sign-", "a mai-sat aa tall-aa i ii ue uue u uu o oa-below oy e ae oo
    ai tham-ai oa-above"⟩,
  ⟨0x1A74, "tai-tham-sign-", "mai-kang tone-1 tone-2 khuen-tone-3 khuen-tone-4 khuen-tone-5
    ra-haam mai-sam khuen-lue-karan"⟩,
  ⟨0x1A7F, "tai-tham-combining-cryptogrammic-", "dot"⟩,
  ⟨0x1A80, "tai-tham-hora-digit-", "zero one two three four five six seven eight nine"⟩,
  ⟨0x1A90, "tai-tham-tham-digit-", "zero one two three four five six seven eight nine"⟩,
  ⟨0x1AA0, "tai-tham-sign-", "wiang wiangwaak sawan keow hoy dokmai reversed-rotated-rana
    mai-yamok kaan kaankuu satkaan satkaankuu hang caang"⟩,
  ⟨0x1AB0, "combining-", "doubled-circumflex-accent diaeresis-ring infinity downwards-arrow
    triple-dot x-x-below wiggly-line-below open-mark-below double-open-mark-below
    light-centralization-stroke-below strong-centralization-stroke-below parentheses-above
    double-parentheses-above parentheses-below parentheses-overlay latin-small-letter-w-below
    latin-small-letter-turned-w-below left-parenthesis-above-left right-parenthesis-above-right
    left-parenthesis-below-left right-parenthesis-below-right square-brackets-above
    number-sign-above inverted-double-arch-above plus-sign-above double-plus-sign-above
    double-plus-sign-below triple-acute-accent"⟩,
  ⟨0x1ACC, "combining-latin-small-letter-insular-", "g r t"⟩,
  ⟨0x1B00, "balinese-sign-", "ulu-ricem ulu-candra cecek surang bisah"⟩,
  ⟨0x1B05, "balinese-letter-", "akara akara-tedung ikara ikara-tedung ukara ukara-tedung ra-repa
    ra-repa-tedung la-lenga la-lenga-tedung ekara aikara okara okara-tedung ka ka-mahaprana ga
    ga-gora nga ca ca-laca ja ja-jera nya ta-latik ta-murda-mahaprana da-murda-alpaprana
    da-murda-mahaprana na-rambat ta ta-tawa da da-madu na pa pa-kapal ba ba-kembang ma ya ra la
    wa sa-saga sa-sapa sa ha"⟩,
  ⟨0x1B34, "balinese-sign-", "rerekan"⟩,
  ⟨0x1B35, "balinese-vowel-sign-", "tedung ulu ulu-sari suku suku-ilut ra-repa ra-repa-tedung
    la-lenga la-lenga-tedung taling taling-repa taling-tedung taling-repa-tedung pepet
    pepet-tedung"⟩,
  ⟨0x1B44, "balinese-adeg-", "adeg"⟩,
  ⟨0x1B45, "balinese-letter-", "kaf-sasak khot-sasak tzir-sasak ef-sasak ve-sasak zal-sasak
    asyura-sasak archaic-jnya"⟩,
  ⟨0x1B4E, "balinese-inverted-carik-", "siki pareren"⟩,
  ⟨0x1B50, "balinese-digit-", "zero one two three four five six seven eight nine"⟩,
  ⟨0x1B5A, "balinese-", "panti pamada windu carik-pamungkah carik-siki carik-pareren pameneng"⟩,
  ⟨0x1B61, "balinese-musical-symbol-", "dong deng dung dang dang-surang ding daeng deung daing
    dang-gede"⟩,
  ⟨0x1B6B, "balinese-musical-symbol-combining-", "tegeh endep kempul kempli jegogan
    kempul-with-jegogan kempli-with-jegogan bende gong"⟩,
  ⟨0x1B74, "balinese-musical-symbol-right-hand-", "open-dug open-dag closed-tuk closed-tak"⟩,
  ⟨0x1B78, "balinese-musical-symbol-left-hand-", "open-pang open-pung closed-plak closed-pluk
    open-ping"⟩,
  ⟨0x1B7D, "balinese-", "panti-lantang pamada-lantang panti-bawak"⟩,
  ⟨0x1B80, "sundanese-sign-", "panyecek panglayar pangwisad"⟩,
  ⟨0x1B83, "sundanese-letter-", "a i u ae o e eu ka qa ga nga ca ja za nya ta da na pa fa va ba
    ma ya ra la wa sa xa ha"⟩,
  ⟨0x1BA1, "sundanese-consonant-sign-", "pamingkal panyakra panyiku"⟩,
  ⟨0x1BA4, "sundanese-vowel-sign-", "panghulu panyuku panaelaeng panolong pamepet paneuleung"⟩,
  ⟨0x1BAA, "sundanese-", "sign-pamaaeh sign-virama consonant-sign-pasangan-ma
    consonant-sign-pasangan-wa letter-kha letter-sya"⟩,
  ⟨0x1BB0, "sundanese-digit-", "zero one two three four five six seven eight nine"⟩,
  ⟨0x1BBA, "sundanese-", "avagraha"⟩,
  ⟨0x1BBB, "sundanese-letter-", "reu leu bha final-k final-m"⟩,
  ⟨0x1BC0, "batak-letter-", "a simalungun-a ha simalungun-ha mandailing-ha ba karo-ba pa
    simalungun-pa na mandailing-na wa simalungun-wa pakpak-wa ga simalungun-ga ja da ra
    simalungun-ra ma simalungun-ma southern-ta northern-ta sa simalungun-sa mandailing-sa ya
    simalungun-ya nga la simalungun-la nya ca nda mba i u"⟩,
  ⟨0x1BE6, "batak-sign-", "tompi"⟩,
  ⟨0x1BE7, "batak-vowel-sign-", "e pakpak-e ee i karo-i o karo-o u u-for-simalungun-sa"⟩,
  ⟨0x1BF0, "batak-", "consonant-sign-ng consonant-sign-h pangolat panongonan"⟩,
  ⟨0x1BFC, "batak-symbol-bindu-", "na-metek pinarboras judul pangolat"⟩]

end Dictation.Unicode.Name
