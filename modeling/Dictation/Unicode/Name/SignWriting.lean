import Dictation.Unicode.Name.Block
/-!
# Sign writing and recent scripts

Spoken names from 0x1D800 on, as of Unicode 16.
-/
namespace Dictation.Unicode.Name

set_option maxRecDepth 10000 in
def signWritingBlocks : List Block := [
  ⟨0x1D800, "signwriting-hand-", "fist-index circle-index cup-index oval-index hinge-index
    angle-index fist-index-bent circle-index-bent fist-thumb-under-index-bent
    fist-index-raised-knuckle fist-index-cupped fist-index-hinged fist-index-hinged-low
    circle-index-hinge fist-index-middle circle-index-middle"⟩,
  ⟨0x1D810, "signwriting-hand-fist-index-", "middle-bent middle-raised-knuckles middle-hinged
    up-middle-hinged hinged-middle-up middle-conjoined middle-conjoined-index-bent
    middle-conjoined-middle-bent middle-conjoined-cupped middle-conjoined-hinged middle-crossed"⟩,
  ⟨0x1D81B, "signwriting-hand-", "circle-index-middle-crossed fist-middle-bent-over-index
    fist-index-bent-over-middle fist-index-middle-thumb circle-index-middle-thumb"⟩,
  ⟨0x1D820, "signwriting-hand-fist-index-", "middle-straight-thumb-bent
    middle-bent-thumb-straight middle-thumb-bent middle-hinged-spread-thumb-side
    up-middle-hinged-thumb-side up-middle-hinged-thumb-conjoined hinged-middle-up-thumb-side
    middle-up-spread-thumb-forward middle-thumb-cupped middle-thumb-circled middle-thumb-hooked
    middle-thumb-hinged"⟩,
  ⟨0x1D82C, "signwriting-hand-fist-", "thumb-between-index-middle-straight
    index-middle-conjoined-thumb-side index-middle-conjoined-thumb-side-conjoined
    index-middle-conjoined-thumb-side-bent middle-thumb-hooked-index-up
    index-thumb-hooked-middle-up index-middle-conjoined-hinged-thumb-side
    index-middle-crossed-thumb-side index-middle-conjoined-thumb-forward
    index-middle-conjoined-cupped-thumb-forward middle-thumb-cupped-index-up
    index-thumb-cupped-middle-up middle-thumb-circled-index-up middle-thumb-circled-index-hinged
    index-thumb-angled-out-middle-up index-thumb-angled-in-middle-up
    index-thumb-circled-middle-up index-middle-thumb-conjoined-hinged
    index-middle-thumb-angled-out index-middle-thumb-angled middle-thumb-angled-out-index-up
    middle-thumb-angled-out-index-crossed middle-thumb-angled-index-up
    index-thumb-hooked-middle-hinged"⟩,
  ⟨0x1D844, "signwriting-hand-flat-four-", "fingers fingers-bent fingers-hinged fingers-conjoined
    fingers-conjoined-split"⟩,
  ⟨0x1D849, "signwriting-hand-", "claw-four-fingers-conjoined fist-four-fingers-conjoined-bent
    hinge-four-fingers-conjoined flat-five-fingers-spread flat-heel-five-fingers-spread
    flat-five-fingers-spread-four-bent flat-heel-five-fingers-spread-four-bent
    flat-five-fingers-spread-bent flat-heel-five-fingers-spread-bent
    flat-five-fingers-spread-thumb-forward cup-five-fingers-spread cup-five-fingers-spread-open
    hinge-five-fingers-spread-open oval-five-fingers-spread flat-five-fingers-spread-hinged
    flat-five-fingers-spread-hinged-thumb-side flat-five-fingers-spread-hinged-no-thumb flat
    flat-between-palm-facings flat-heel flat-thumb-side flat-heel-thumb-side flat-thumb-bent
    flat-thumb-forward flat-split-index-thumb-side flat-split-centre flat-split-centre-thumb-side
    flat-split-centre-thumb-side-bent flat-split-little claw claw-thumb-side claw-no-thumb
    claw-thumb-forward hook-curlicue hook cup-open cup cup-open-thumb-side cup-thumb-side
    cup-open-no-thumb cup-no-thumb cup-open-thumb-forward cup-thumb-forward curlicue-open
    curlicue circle oval oval-thumb-side oval-no-thumb oval-thumb-forward hinge-open
    hinge-open-thumb-forward hinge hinge-small hinge-open-thumb-side hinge-thumb-side
    hinge-open-no-thumb hinge-no-thumb hinge-thumb-side-touching-index
    hinge-thumb-between-middle-ring angle fist-index-middle-ring circle-index-middle-ring
    hinge-index-middle-ring angle-index-middle-ring hinge-little fist-index-middle-ring-bent
    fist-index-middle-ring-conjoined hinge-index-middle-ring-conjoined fist-little-down
    fist-little-down-ripple-straight fist-little-down-ripple-curved
    fist-little-down-others-circled fist-little-up fist-thumb-under-little-up circle-little-up
    oval-little-up angle-little-up fist-little-raised-knuckle fist-little-bent
    fist-little-touches-thumb fist-little-thumb hinge-little-thumb fist-little-index-thumb
    hinge-little-index-thumb angle-little-index-thumb-index-thumb-out
    angle-little-index-thumb-index-thumb fist-little-index circle-little-index hinge-little-index
    angle-little-index fist-index-middle-little circle-index-middle-little
    hinge-index-middle-little hinge-ring angle-index-middle-little fist-index-middle-cross-little
    circle-index-middle-cross-little fist-ring-down hinge-ring-down-index-thumb-hook-middle
    angle-ring-down-middle-thumb-index-cross fist-ring-up fist-ring-raised-knuckle
    fist-ring-little circle-ring-little oval-ring-little angle-ring-little fist-ring-middle
    fist-ring-middle-conjoined fist-ring-middle-raised-knuckles fist-ring-index fist-ring-thumb
    hook-ring-thumb fist-index-ring-little circle-index-ring-little curlicue-index-ring-little-on
    hook-index-ring-little-out hook-index-ring-little-in hook-index-ring-little-under
    cup-index-ring-little hinge-index-ring-little angle-index-ring-little-out
    angle-index-ring-little fist-middle-down hinge-middle fist-middle-up circle-middle-up
    fist-middle-raised-knuckle fist-middle-up-thumb-side hook-middle-thumb
    fist-middle-thumb-little fist-middle-little fist-middle-ring-little circle-middle-ring-little
    curlicue-middle-ring-little-on cup-middle-ring-little hinge-middle-ring-little
    angle-middle-ring-little-out angle-middle-ring-little-in angle-middle-ring-little
    circle-middle-ring-little-bent claw-middle-ring-little-conjoined
    claw-middle-ring-little-conjoined-side hook-middle-ring-little-conjoined-out
    hook-middle-ring-little-conjoined-in hook-middle-ring-little-conjoined hinge-index-hinged
    fist-index-thumb-side hinge-index-thumb-side"⟩,
  ⟨0x1D8DE, "signwriting-hand-fist-index-thumb-", "side-thumb-diagonal side-thumb-conjoined
    side-thumb-bent side-index-bent side-both-bent side-index-hinge forward-index-straight
    forward-index-bent hook curlicue curve-thumb-inside"⟩,
  ⟨0x1D8E9, "signwriting-hand-", "claw-index-thumb-curve-thumb-inside
    fist-index-thumb-curve-thumb-under fist-index-thumb-circle cup-index-thumb
    cup-index-thumb-open hinge-index-thumb-open hinge-index-thumb-large hinge-index-thumb
    hinge-index-thumb-small angle-index-thumb-out angle-index-thumb-in angle-index-thumb
    fist-thumb"⟩,
  ⟨0x1D8F6, "signwriting-hand-fist-thumb-", "heel side-diagonal side-conjoined side-bent forward
    between-index-middle between-middle-ring between-ring-little under-two-fingers
    over-two-fingers under-three-fingers under-four-fingers over-four-raised-knuckles"⟩,
  ⟨0x1D903, "signwriting-", "hand-fist hand-fist-heel touch-single touch-multiple touch-between
    grasp-single grasp-multiple grasp-between strike-single strike-multiple strike-between
    brush-single brush-multiple brush-between rub-single rub-multiple rub-between surface-symbols
    surface-between squeeze-large-single squeeze-small-single squeeze-large-multiple
    squeeze-small-multiple squeeze-sequential flick-large-single flick-small-single
    flick-large-multiple flick-small-multiple flick-sequential squeeze-flick-alternating"⟩,
  ⟨0x1D921, "signwriting-movement-hinge-", "up-down-large up-down-small up-sequential
    down-sequential up-down-alternating-large up-down-alternating-small side-to-side-scissors"⟩,
  ⟨0x1D928, "signwriting-movement-", "wallplane-finger-contact floorplane-finger-contact"⟩,
  ⟨0x1D92A, "signwriting-movement-wallplane-single-straight-", "small medium large largest"⟩,
  ⟨0x1D92E, "signwriting-movement-wallplane-", "single-wrist-flex double-straight
    double-wrist-flex double-alternating double-alternating-wrist-flex cross
    triple-straight-movement triple-wrist-flex triple-alternating triple-alternating-wrist-flex
    bend-small bend-medium bend-large corner-small corner-medium corner-large corner-rotation
    check-small check-medium check-large box-small box-medium box-large zigzag-small
    zigzag-medium zigzag-large peaks-small peaks-medium peaks-large"⟩,
  ⟨0x1D94B, "signwriting-travel-wallplane-rotation-", "wallplane-single wallplane-double
    wallplane-alternating floorplane-single floorplane-double floorplane-alternating"⟩,
  ⟨0x1D951, "signwriting-travel-wallplane-", "shaking arm-spiral-single arm-spiral-double
    arm-spiral-triple"⟩,
  ⟨0x1D955, "signwriting-movement-diagonal-", "away-small away-medium away-large away-largest
    towards-small towards-medium towards-large towards-largest"⟩,
  ⟨0x1D95D, "signwriting-movement-diagonal-between-", "away-small away-medium away-large
    away-largest towards-small towards-medium towards-large towards-largest"⟩,
  ⟨0x1D965, "signwriting-movement-floorplane-single-straight-", "small medium large largest"⟩,
  ⟨0x1D969, "signwriting-movement-floorplane-", "single-wrist-flex double-straight
    double-wrist-flex double-alternating double-alternating-wrist-flex cross
    triple-straight-movement triple-wrist-flex triple-alternating-movement
    triple-alternating-wrist-flex bend corner-small corner-medium corner-large check box-small
    box-medium box-large zigzag-small zigzag-medium zigzag-large peaks-small peaks-medium
    peaks-large"⟩,
  ⟨0x1D981, "signwriting-travel-floorplane-rotation-", "floorplane-single floorplane-double
    floorplane-alternating wallplane-single wallplane-double wallplane-alternating"⟩,
  ⟨0x1D987, "signwriting-travel-floorplane-", "shaking"⟩,
  ⟨0x1D988, "signwriting-movement-wallplane-curve-", "quarter-small quarter-medium quarter-large
    quarter-largest half-circle-small half-circle-medium half-circle-large half-circle-largest
    three-quarter-circle-small three-quarter-circle-medium"⟩,
  ⟨0x1D992, "signwriting-movement-wallplane-", "hump-small hump-medium hump-large loop-small
    loop-medium loop-large loop-small-double wave-curve-double-small wave-curve-double-medium
    wave-curve-double-large wave-curve-triple-small wave-curve-triple-medium
    wave-curve-triple-large curve-then-straight curved-cross-small curved-cross-medium"⟩,
  ⟨0x1D9A2, "signwriting-rotation-wallplane-", "single double alternate"⟩,
  ⟨0x1D9A5, "signwriting-movement-wallplane-", "shaking curve-hitting-front-wall
    hump-hitting-front-wall loop-hitting-front-wall wave-hitting-front-wall"⟩,
  ⟨0x1D9AA, "signwriting-rotation-wallplane-", "single-hitting-front-wall
    double-hitting-front-wall alternating-hitting-front-wall"⟩,
  ⟨0x1D9AD, "signwriting-movement-wallplane-", "curve-hitting-chest hump-hitting-chest
    loop-hitting-chest wave-hitting-chest"⟩,
  ⟨0x1D9B1, "signwriting-rotation-wallplane-", "single-hitting-chest double-hitting-chest
    alternating-hitting-chest"⟩,
  ⟨0x1D9B4, "signwriting-movement-wallplane-wave-diagonal-path-", "small medium large"⟩,
  ⟨0x1D9B7, "signwriting-movement-floorplane-curve-hitting-ceiling-", "small large"⟩,
  ⟨0x1D9B9, "signwriting-movement-floorplane-hump-hitting-ceiling-", "small-double large-double
    small-triple large-triple"⟩,
  ⟨0x1D9BD, "signwriting-movement-floorplane-loop-hitting-ceiling-", "small-single large-single
    small-double large-double"⟩,
  ⟨0x1D9C1, "signwriting-movement-floorplane-wave-hitting-ceiling-", "small large"⟩,
  ⟨0x1D9C3, "signwriting-rotation-floorplane-", "single-hitting-ceiling double-hitting-ceiling
    alternating-hitting-ceiling"⟩,
  ⟨0x1D9C6, "signwriting-movement-floorplane-curve-hitting-floor-", "small large"⟩,
  ⟨0x1D9C8, "signwriting-movement-floorplane-hump-hitting-floor-", "small-double large-double
    triple-small-triple triple-large-triple"⟩,
  ⟨0x1D9CC, "signwriting-movement-floorplane-loop-hitting-floor-", "small-single large-single
    small-double large-double"⟩,
  ⟨0x1D9D0, "signwriting-movement-floorplane-wave-hitting-floor-", "small large"⟩,
  ⟨0x1D9D2, "signwriting-rotation-floorplane-", "single-hitting-floor double-hitting-floor
    alternating-hitting-floor"⟩,
  ⟨0x1D9D5, "signwriting-movement-floorplane-", "curve-small curve-medium curve-large
    curve-largest curve-combined hump-small loop-small wave-snake wave-small wave-large"⟩,
  ⟨0x1D9DF, "signwriting-rotation-floorplane-", "single double alternating"⟩,
  ⟨0x1D9E2, "signwriting-movement-floorplane-shaking-", "parallel"⟩,
  ⟨0x1D9E3, "signwriting-movement-wallplane-arm-circle-", "small-single medium-single
    small-double medium-double"⟩,
  ⟨0x1D9E7, "signwriting-movement-floorplane-arm-circle-hitting-wall-", "small-single
    medium-single large-single small-double medium-double large-double"⟩,
  ⟨0x1D9ED, "signwriting-movement-wallplane-wrist-circle-front-", "single double"⟩,
  ⟨0x1D9EF, "signwriting-movement-floorplane-wrist-circle-hitting-wall-", "single double"⟩,
  ⟨0x1D9F1, "signwriting-movement-wallplane-finger-circles-", "single double"⟩,
  ⟨0x1D9F3, "signwriting-movement-floorplane-finger-circles-hitting-wall-", "single double"⟩,
  ⟨0x1D9F5, "signwriting-dynamic-", "arrowhead-small arrowhead-large fast slow tense relaxed
    simultaneous simultaneous-alternating every-other-time gradual"⟩,
  ⟨0x1D9FF, "signwriting-", "head head-rim"⟩,
  ⟨0x1DA01, "signwriting-head-movement-", "wallplane-straight wallplane-tilt floorplane-straight
    wallplane-curve floorplane-curve circle"⟩,
  ⟨0x1DA07, "signwriting-face-direction-position-nose-", "forward-tilting up-or-down
    up-or-down-tilting"⟩,
  ⟨0x1DA0A, "signwriting-eyebrows-straight-", "up neutral down"⟩,
  ⟨0x1DA0D, "signwriting-dreamy-eyebrows-", "neutral-down down-neutral up-neutral neutral-up"⟩,
  ⟨0x1DA11, "signwriting-", "forehead-neutral forehead-contact forehead-wrinkled eyes-open
    eyes-squeezed eyes-closed eye-blink-single eye-blink-multiple eyes-half-open eyes-wide-open
    eyes-half-closed eyes-widening-movement eye-wink eyelashes-up eyelashes-down
    eyelashes-fluttering"⟩,
  ⟨0x1DA21, "signwriting-eyegaze-", "wallplane-straight wallplane-straight-double
    wallplane-straight-alternating floorplane-straight floorplane-straight-double
    floorplane-straight-alternating wallplane-curved floorplane-curved wallplane-circling"⟩,
  ⟨0x1DA2A, "signwriting-", "cheeks-puffed cheeks-neutral cheeks-sucked tense-cheeks-high
    tense-cheeks-middle tense-cheeks-low ears nose-neutral nose-contact nose-wrinkles
    nose-wiggles air-blowing-out air-sucking-in air-blow-small-rotations air-suck-small-rotations
    breath-inhale breath-exhale"⟩,
  ⟨0x1DA3B, "signwriting-mouth-", "closed-neutral closed-forward closed-contact smile
    smile-wrinkled smile-open frown frown-wrinkled frown-open open-circle open-forward
    open-wrinkled open-oval open-oval-wrinkled open-oval-yawn open-rectangle
    open-rectangle-wrinkled open-rectangle-yawn kiss kiss-forward kiss-wrinkled tense
    tense-forward tense-sucked"⟩,
  ⟨0x1DA53, "signwriting-", "lips-pressed-together lip-lower-over-upper lip-upper-over-lower
    mouth-corners mouth-wrinkles-single mouth-wrinkles-double tongue-sticking-out-far
    tongue-licking-lips tongue-tip-between-lips tongue-tip-touching-inside-mouth
    tongue-inside-mouth-relaxed tongue-moves-against-cheek tongue-centre-sticking-out
    tongue-centre-inside-mouth teeth teeth-movement teeth-on-tongue teeth-on-tongue-movement
    teeth-on-lips teeth-on-lips-movement teeth-bite-lips movement-wallplane-jaw
    movement-floorplane-jaw neck hair excitement shoulder-hip-spine shoulder-hip-positions
    wallplane-shoulder-hip-move floorplane-shoulder-hip-move shoulder-tilting-from-waist
    torso-wallplane-straight-stretch torso-wallplane-curved-bend torso-floorplane-twisting
    upper-body-tilting-from-hip-joints limb-combination"⟩,
  ⟨0x1DA77, "signwriting-limb-length-", "1 2 3 4 5 6 7"⟩,
  ⟨0x1DA7E, "signwriting-", "finger"⟩,
  ⟨0x1DA7F, "signwriting-location-", "wallplane-space floorplane-space height width depth
    head-neck torso limbs-digits"⟩,
  ⟨0x1DA87, "signwriting-", "comma full-stop semicolon colon parenthesis"⟩,
  ⟨0x1DA9B, "signwriting-fill-modifier-", "2 3 4 5 6"⟩,
  ⟨0x1DAA1, "signwriting-rotation-modifier-", "2 3 4 5 6 7 8 9 10 11 12 13 14 15 16"⟩]

set_option maxRecDepth 10000 in
def recentBlocks : List Block := [
  ⟨0x1DF00, "latin-", "small-letter-feng-digraph-with-trill small-letter-reversed-script-g
    letter-small-capital-turned-g small-letter-reversed-k letter-small-capital-l-with-belt"⟩,
  ⟨0x1DF05, "latin-small-letter-", "lezh-with-retroflex-hook turned-y-with-belt reversed-eng
    turned-r-with-long-leg-and-retroflex-hook t-with-hook-and-retroflex-hook"⟩,
  ⟨0x1DF0A, "latin-", "letter-retroflex-click-with-retroflex-hook
    small-letter-esh-with-double-bar small-letter-esh-with-double-bar-and-curl
    small-letter-turned-t-with-curl letter-inverted-glottal-stop-with-curl
    letter-stretched-c-with-curl letter-small-capital-turned-k"⟩,
  ⟨0x1DF11, "latin-small-letter-", "l-with-fishhook dezh-digraph-with-palatal-hook
    l-with-belt-and-palatal-hook eng-with-palatal-hook turned-r-with-palatal-hook
    r-with-fishhook-and-palatal-hook tesh-digraph-with-palatal-hook ezh-with-palatal-hook
    dezh-digraph-with-retroflex-hook i-with-stroke-and-retroflex-hook o-with-retroflex-hook
    tesh-digraph-with-retroflex-hook c-with-retroflex-hook s-with-curl"⟩,
  ⟨0x1DF25, "latin-small-letter-", "d-with-mid-height-left-hook l-with-mid-height-left-hook
    n-with-mid-height-left-hook r-with-mid-height-left-hook s-with-mid-height-left-hook
    t-with-mid-height-left-hook"⟩,
  ⟨0x1E000, "combining-glagolitic-letter-", "azu buky vede glagoli dobro yestu zhivete"⟩,
  ⟨0x1E008, "combining-glagolitic-letter-", "zemlja izhe initial-izhe i djervi kako ljudije
    myslite nashi onu pokoji ritsi slovo tvrido uku fritu heru"⟩,
  ⟨0x1E01B, "combining-glagolitic-letter-", "shta tsi chrivi sha yeru yeri yati"⟩,
  ⟨0x1E023, "combining-glagolitic-letter-", "yu small-yus"⟩,
  ⟨0x1E026, "combining-glagolitic-letter-", "yo iotated-small-yus big-yus iotated-big-yus fita"⟩,
  ⟨0x1E030, "modifier-letter-cyrillic-small-", "a be ve ghe de ie zhe ze i ka el em o pe er es te
    u ef ha tse che sha yeru e yu dzze schwa byelorussian-ukrainian-i je barred-o straight-u
    palochka"⟩,
  ⟨0x1E051, "cyrillic-subscript-small-letter-", "a be ve ghe de ie zhe ze i ka el o pe es u ef ha
    tse che sha hard-sign yeru ghe-with-upturn byelorussian-ukrainian-i dze dzhe"⟩,
  ⟨0x1E06B, "modifier-letter-cyrillic-small-", "es-with-descender yeru-with-back-yer
    straight-u-with-stroke"⟩,
  ⟨0x1E08F, "combining-cyrillic-small-letter-byelorussian-ukrainian-", "i"⟩,
  ⟨0x1E100, "nyiakeng-puachue-hmong-letter-", "ma tsa nta ta ha na xa nka ca la sa za nca ntsa ka
    da nya nra va ntxa txa fa ra qa ya nqa pa xya npa dla npla hah mla pla ga rra a aa i u o oo e
    ee w"⟩,
  ⟨0x1E130, "nyiakeng-puachue-hmong-", "tone-b tone-m tone-j tone-v tone-s tone-g tone-d
    sign-for-person sign-for-thing sign-for-location sign-for-animal sign-for-invertebrate
    sign-xw-xw syllable-lengthener"⟩,
  ⟨0x1E140, "nyiakeng-puachue-hmong-digit-", "zero one two three four five six seven eight nine"⟩,
  ⟨0x1E14E, "nyiakeng-puachue-hmong-", "logogram-nyaj circled-ca"⟩,
  ⟨0x1E290, "toto-letter-", "pa ba ta da ka ga ma na nga sa cha ya wa ja ha ra la i breathy-i iu
    breathy-iu u e breathy-e eo breathy-eo o ae breathy-ae a"⟩,
  ⟨0x1E2AE, "toto-sign-rising-", "tone"⟩,
  ⟨0x1E2C0, "wancho-letter-", "aa a ba ca da ga ya pha la na pa ta tha fa sa sha ja za wa va ka o
    au ra ma kha ha e i nga u llha tsa tra ong aang ang ing on en aan nya uen yih"⟩,
  ⟨0x1E2EC, "wancho-tone-", "tup tupni koi koini"⟩,
  ⟨0x1E2F0, "wancho-digit-", "zero one two three four five six seven eight nine"⟩,
  ⟨0x1E2FF, "wancho-ngun-", "sign"⟩,
  ⟨0x1E4D0, "nag-mundari-letter-", "o op ol oy ong a aj ab any ah i is idd it ih u uc ud uk ur e
    enn eg em en ett ell"⟩,
  ⟨0x1E4EB, "nag-mundari-sign-", "ojod muhor toyor ikir sutuh"⟩,
  ⟨0x1E4F0, "nag-mundari-digit-", "zero one two three four five six seven eight nine"⟩,
  ⟨0x1E5D0, "ol-onal-letter-", "o om ong orr oo oy a ad ab ah al aw i it ip itt id in u uk udd uj
    uny ur e es eh ec enn eg"⟩,
  ⟨0x1E5EE, "ol-onal-sign-", "mu ikir hoddond"⟩,
  ⟨0x1E5F1, "ol-onal-digit-", "zero one two three four five six seven eight nine"⟩,
  ⟨0x1E5FF, "ol-onal-abbreviation-", "sign"⟩,
  ⟨0x1E7E0, "ethiopic-syllable-", "hhya hhyu hhyi hhyaa hhyee hhye hhyo"⟩,
  ⟨0x1E7E8, "ethiopic-syllable-", "gurage-hhwa hhwi hhwee hhwe"⟩,
  ⟨0x1E7ED, "ethiopic-syllable-gurage-", "mwi mwee"⟩,
  ⟨0x1E7F0, "ethiopic-syllable-gurage-", "qwi qwee qwe bwi bwee kwi kwee kwe gwi gwee gwe fwi
    fwee pwi pwee"⟩,
  ⟨0x1E800, "mende-kikakui-syllable-", "m001-ki m002-ka m003-ku m065-kee m095-ke m076-koo m048-ko
    m179-kua m004-wi m005-wa m006-wu m126-wee m118-we m114-woo m045-wo m194-wui m143-wei m061-wvi
    m049-wva m139-wve m007-min m008-man m009-mun m059-men m094-mon m154-muan m189-muen m010-bi
    m011-ba m012-bu m150-bee m097-be m103-boo m138-bo m013-i m014-a m015-u m163-ee m100-e m165-oo
    m147-o m137-ei m131-in m135-in m195-an m178-en m019-si m020-sa m021-su m162-see m116-se
    m136-soo m079-so m196-sia m025-li m026-la m027-lu m084-lee m073-le m054-loo m153-lo
    m110-long-le m016-di m017-da m018-du m089-dee m180-doo m181-do m022-ti m023-ta m024-tu
    m091-tee m055-te m104-too m069-to m028-ji m029-ja m030-ju m157-jee m113-je m160-joo m063-jo
    m175-long-jo m031-yi m032-ya m033-yu m109-yee m080-ye m141-yoo m121-yo m034-fi m035-fa
    m036-fu m078-fee m075-fe m133-foo m088-fo m197-fua m101-fan m037-nin m038-nan m039-nun
    m117-nen m169-non m176-hi m041-ha m186-hu m040-hee m096-he m042-hoo m140-ho m083-heei
    m128-hoou m053-hin m130-han m087-hun m052-hen m193-hon m046-huan m090-nggi m043-ngga
    m082-nggu m115-nggee m146-ngge m156-nggoo m120-nggo m159-nggaa m127-nggua m086-long-ngge
    m106-long-nggoo m183-long-nggo m155-gi m111-ga m168-gu m190-gee m166-guei m167-guan m184-ngen
    m057-ngon m177-nguan m068-pi m099-pa m050-pu m081-pee m051-pe m102-poo m066-po m145-mbi
    m062-mba m122-mbu m047-mbee m188-mbee m072-mbe m172-mboo m174-mbo m187-mbuu m161-long-mbe
    m105-long-mboo m142-long-mbo m132-kpi m092-kpa m074-kpu m044-kpee m108-kpe m112-kpoo m158-kpo
    m124-gbi m056-gba m148-gbu m093-gbee m107-gbe m071-gboo m070-gbo m171-ra m123-ndi m129-nda
    m125-ndu m191-ndee m119-nde m067-ndoo m064-ndo m152-nja m192-nju m149-njee m134-njoo m182-vi
    m185-va m151-vu m173-vee m085-ve m144-voo m077-vo m164-nyin m058-nyan m170-nyun m098-nyen
    m060-nyon"⟩,
  ⟨0x1E8C7, "mende-kikakui-digit-", "one two three four five six seven eight nine"⟩,
  ⟨0x1E8D0, "mende-kikakui-combining-number-", "teens tens hundreds thousands ten-thousands
    hundred-thousands millions"⟩,
  ⟨0x1E900, "adlam-capital-letter-", "alif daali laam miim ba sinnyiiyhe pe bhe ra e fa i o dha
    yhe waw nun kaf ya u jiim chi ha qaaf ga nya tu nha va kha gbe zal kpo sha"⟩,
  ⟨0x1E922, "adlam-small-letter-", "alif daali laam miim ba sinnyiiyhe pe bhe ra e fa i o dha yhe
    waw nun kaf ya u jiim chi ha qaaf ga nya tu nha va kha gbe zal kpo sha"⟩,
  ⟨0x1E944, "adlam-", "alif-lengthener vowel-lengthener gemination-mark hamza consonant-modifier
    geminate-consonant-modifier nukta nasalization-mark"⟩,
  ⟨0x1E950, "adlam-digit-", "zero one two three four five six seven eight nine"⟩,
  ⟨0x1E95E, "adlam-initial-", "exclamation-mark question-mark"⟩,
  ⟨0x1EC71, "indic-siyaq-number-", "one two three four five six seven eight nine ten twenty
    thirty forty fifty sixty seventy eighty ninety one-hundred two-hundred three-hundred
    four-hundred five-hundred six-hundred seven-hundred eight-hundred nine-hundred one-thousand
    two-thousand three-thousand four-thousand five-thousand six-thousand seven-thousand
    eight-thousand nine-thousand ten-thousand twenty-thousand thirty-thousand forty-thousand
    fifty-thousand sixty-thousand seventy-thousand eighty-thousand ninety-thousand lakh lakhan"⟩,
  ⟨0x1ECA0, "indic-siyaq-", "lakh-mark number-karor number-karoran"⟩,
  ⟨0x1ECA3, "indic-siyaq-number-prefixed-", "one two three four five six seven eight nine"⟩,
  ⟨0x1ECAC, "indic-siyaq-", "placeholder fraction-one-quarter fraction-one-half
    fraction-three-quarters rupee-mark number-alternate-one number-alternate-two
    number-alternate-ten-thousand alternate-lakh-mark"⟩,
  ⟨0x1ED01, "ottoman-siyaq-number-", "one two three four five six seven eight nine ten twenty
    thirty forty fifty sixty seventy eighty ninety one-hundred two-hundred three-hundred
    four-hundred five-hundred six-hundred seven-hundred eight-hundred nine-hundred one-thousand
    two-thousand three-thousand four-thousand five-thousand six-thousand seven-thousand
    eight-thousand nine-thousand ten-thousand twenty-thousand thirty-thousand forty-thousand
    fifty-thousand sixty-thousand seventy-thousand eighty-thousand ninety-thousand"⟩,
  ⟨0x1ED2E, "ottoman-siyaq-", "marratan"⟩,
  ⟨0x1ED2F, "ottoman-siyaq-alternate-number-", "two three four five six seven eight nine ten
    four-hundred six-hundred two-thousand ten-thousand"⟩,
  ⟨0x1ED3C, "ottoman-siyaq-fraction-one-", "half sixth"⟩,
  ⟨0x1EE00, "arabic-mathematical-", "alef beh jeem dal"⟩,
  ⟨0x1EE05, "arabic-mathematical-", "waw zain hah tah yeh kaf lam meem noon seen ain feh sad qaf
    reh sheen teh theh khah thal dad zah ghain dotless-beh dotless-noon dotless-feh dotless-qaf"⟩,
  ⟨0x1EE21, "arabic-mathematical-initial-", "beh jeem"⟩,
  ⟨0x1EE24, "arabic-mathematical-initial-", "heh"⟩,
  ⟨0x1EE27, "arabic-mathematical-initial-", "hah"⟩,
  ⟨0x1EE29, "arabic-mathematical-initial-", "yeh kaf lam meem noon seen ain feh sad qaf"⟩,
  ⟨0x1EE34, "arabic-mathematical-initial-", "sheen teh theh khah"⟩,
  ⟨0x1EE39, "arabic-mathematical-initial-", "dad"⟩,
  ⟨0x1EE3B, "arabic-mathematical-initial-", "ghain"⟩,
  ⟨0x1EE42, "arabic-mathematical-tailed-", "jeem"⟩,
  ⟨0x1EE47, "arabic-mathematical-tailed-", "hah"⟩,
  ⟨0x1EE49, "arabic-mathematical-tailed-", "yeh"⟩,
  ⟨0x1EE4B, "arabic-mathematical-tailed-", "lam"⟩,
  ⟨0x1EE4D, "arabic-mathematical-tailed-", "noon seen ain"⟩,
  ⟨0x1EE51, "arabic-mathematical-tailed-", "sad qaf"⟩,
  ⟨0x1EE54, "arabic-mathematical-tailed-", "sheen"⟩,
  ⟨0x1EE57, "arabic-mathematical-tailed-", "khah"⟩,
  ⟨0x1EE59, "arabic-mathematical-tailed-", "dad"⟩,
  ⟨0x1EE5B, "arabic-mathematical-tailed-", "ghain"⟩,
  ⟨0x1EE5D, "arabic-mathematical-tailed-dotless-", "noon"⟩,
  ⟨0x1EE5F, "arabic-mathematical-tailed-dotless-", "qaf"⟩,
  ⟨0x1EE61, "arabic-mathematical-stretched-", "beh jeem"⟩,
  ⟨0x1EE64, "arabic-mathematical-stretched-", "heh"⟩,
  ⟨0x1EE67, "arabic-mathematical-stretched-", "hah tah yeh kaf"⟩,
  ⟨0x1EE6C, "arabic-mathematical-stretched-", "meem noon seen ain feh sad qaf"⟩,
  ⟨0x1EE74, "arabic-mathematical-stretched-", "sheen teh theh khah"⟩,
  ⟨0x1EE79, "arabic-mathematical-stretched-", "dad zah ghain dotless-beh"⟩,
  ⟨0x1EE7E, "arabic-mathematical-stretched-dotless-", "feh"⟩,
  ⟨0x1EE80, "arabic-mathematical-looped-", "alef beh jeem dal heh waw zain hah tah yeh"⟩,
  ⟨0x1EE8B, "arabic-mathematical-looped-", "lam meem noon seen ain feh sad qaf reh sheen teh theh
    khah thal dad zah ghain"⟩,
  ⟨0x1EEA1, "arabic-mathematical-double-struck-", "beh jeem dal"⟩,
  ⟨0x1EEA5, "arabic-mathematical-double-struck-", "waw zain hah tah yeh"⟩,
  ⟨0x1EEAB, "arabic-mathematical-double-struck-", "lam meem noon seen ain feh sad qaf reh sheen
    teh theh khah thal dad zah ghain"⟩,
  ⟨0x1EEF0, "arabic-mathematical-operator-", "meem-with-hah-with-tatweel hah-with-dal"⟩]

end Dictation.Unicode.Name
