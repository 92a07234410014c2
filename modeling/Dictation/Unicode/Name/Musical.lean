import Dictation.Unicode.Name.Block
/-!
# Shorthand, musical notation and mathematical alphabets

Spoken names from 0x1BC00 on, as of Unicode 16.
-/
namespace Dictation.Unicode.Name

set_option maxRecDepth 10000 in
/-- Shorthand, legacy symbols and musical notation. -/
def musicalBlocks : List Block := [
  ⟨0x1BC00, "duployan-letter-", "h x p t f k l b d v g r p-n d-s f-n k-m r-s th sloan-dh dh kk
    sloan-j hl lh rh m n j s m-n n-m j-m s-j m-with-dot n-with-dot j-with-dot
    j-with-dots-inside-and-above s-with-dot s-with-dot-below m-s n-s j-s s-s m-n-s n-m-s j-m-s
    s-j-s j-s-with-dot j-n j-n-s s-t s-t-r s-p s-p-r t-s t-r-s w wh w-r s-n s-m k-r-s g-r-s s-k
    s-k-r a sloan-ow oa o aou i e ie short-i ui ee sloan-eh romanian-i sloan-ee long-i ye u eu xw
    u-n long-u romanian-u uh sloan-u ooh ow ou wa wo wi wei wow nasal-u nasal-o nasal-i nasal-a
    pernin-an pernin-am sloan-en sloan-an sloan-on vocalic-m"⟩,
  ⟨0x1BC70, "duployan-affix-", "left-horizontal-secant mid-horizontal-secant
    right-horizontal-secant low-vertical-secant mid-vertical-secant high-vertical-secant"⟩,
  ⟨0x1BC76, "duployan-affix-attached-", "secant left-to-right-secant tangent tail e-hook i-hook
    tangent-hook"⟩,
  ⟨0x1BC80, "duployan-affix-high-", "acute tight-acute grave long-grave dot circle line wave
    vertical"⟩,
  ⟨0x1BC90, "duployan-affix-low-", "acute tight-acute grave long-grave dot circle line wave
    vertical arrow"⟩,
  ⟨0x1BC9C, "duployan-", "sign-o-with-cross thick-letter-selector double-mark
    punctuation-chinook-full-stop"⟩,
  ⟨0x1BCA0, "shorthand-format-", "letter-overlap continuing-overlap down-step up-step"⟩,
  ⟨0x1CC00, "", "up-pointing-go-kart right-pointing-go-kart left-pointing-stick-figure
    right-pointing-stick-figure down-pointing-stick-figure lower-horizontal-ruler-segment
    right-vertical-ruler-segment lower-right-ruler-segment antenna horizontal-resistor-segment
    vertical-resistor-segment left-third-inductor middle-third-inductor right-third-inductor
    left-pointing-diode right-pointing-diode npn-transistor pnp-transistor receptacle
    horizontal-capacitor vertical-capacitor"⟩,
  ⟨0x1CC15, "logic-gate-", "or and inverted-inputs inverted-output buffer
    buffer-with-inverted-input"⟩,
  ⟨0x1CC1B, "box-drawings-light-", "horizontal-and-upper-right horizontal-and-lower-right
    top-and-upper-left bottom-and-lower-left"⟩,
  ⟨0x1CC1F, "box-drawings-double-diagonal-upper-", "right-to-lower-left left-to-lower-right"⟩,
  ⟨0x1CC21, "separated-block-quadrant-", "1 2 12 3 13 23 123 4 14 24 124 34 134 234 1234"⟩,
  ⟨0x1CC30, "upper-", "left-twelfth-circle centre-left-twelfth-circle centre-right-twelfth-circle
    right-twelfth-circle middle-left-twelfth-circle left-quarter-circle right-quarter-circle
    middle-right-twelfth-circle"⟩,
  ⟨0x1CC38, "lower-", "middle-left-twelfth-circle left-quarter-circle right-quarter-circle
    middle-right-twelfth-circle left-twelfth-circle centre-left-twelfth-circle
    centre-right-twelfth-circle right-twelfth-circle"⟩,
  ⟨0x1CC40, "", "sparse-horizontal-fill sparse-vertical-fill orthogonal-crosshatch-fill
    diagonal-crosshatch-fill dense-vertical-fill dense-horizontal-fill speckle-fill-frame-1
    speckle-fill-frame-2 left-facing-bassinet right-facing-bassinet flying-saucer-with-beams
    flying-saucer-without-beams"⟩,
  ⟨0x1CC4C, "alien-", "monster-open-jaws monster-closed-jaws squid-open-tentacles
    squid-closed-tentacles crab-stepping-right crab-stepping-left spider-crouching spider-spread
    monster-step-1 monster-step-2"⟩,
  ⟨0x1CC56, "", "left-pointing-rocket-ship up-pointing-rocket-ship right-pointing-rocket-ship
    down-pointing-rocket-ship top-half-left-facing-robot top-half-forward-facing-robot
    top-half-right-facing-robot bottom-half-left-facing-robot bottom-half-forward-facing-robot
    bottom-half-right-facing-robot left-pointing-atomic-bomb up-pointing-atomic-bomb
    right-pointing-atomic-bomb down-pointing-atomic-bomb mushroom-cloud left-pointing-rifle
    up-pointing-rifle right-pointing-rifle down-pointing-rifle eight-rays-inward
    eight-rays-outward"⟩,
  ⟨0x1CC6B, "black-large-circle-minus-", "left-quarter-section upper-quarter-section
    right-quarter-section lower-quarter-section"⟩,
  ⟨0x1CC6F, "", "black-neutral-face left-facing-snake-head-with-open-mouth
    up-facing-snake-head-with-open-mouth right-facing-snake-head-with-open-mouth
    down-facing-snake-head-with-open-mouth left-facing-snake-head-with-closed-mouth
    up-facing-snake-head-with-closed-mouth right-facing-snake-head-with-closed-mouth
    down-facing-snake-head-with-closed-mouth left-pointing-energy-wave up-pointing-energy-wave
    right-pointing-energy-wave down-pointing-energy-wave"⟩,
  ⟨0x1CC7C, "square-spiral-from-", "top-left top-right bottom-right bottom-left"⟩,
  ⟨0x1CC80, "striped-", "left-pointing-triangle up-pointing-triangle right-pointing-triangle
    down-pointing-triangle"⟩,
  ⟨0x1CC84, "", "vertical-ladder horizontal-ladder white-lower-left-pointer
    white-lower-right-pointer two-rings-aligned-horizontally"⟩,
  ⟨0x1CC89, "square-four-corner-", "saltires diagonals black-triangles"⟩,
  ⟨0x1CC8C, "", "square-aperture inverse-black-diamond
    left-and-upper-one-eighth-block-containing-black-small-square inverse-black-small-square
    vertical-line-with-four-tick-marks horizontal-line-with-four-tick-marks left-facing-fish
    right-facing-fish left-facing-fish-with-open-mouth right-facing-fish-with-open-mouth
    flapping-bird left-pointing-racing-car up-pointing-racing-car right-pointing-racing-car
    down-pointing-racing-car horizontal-racing-car vertical-racing-car vertical-go-kart
    left-pointing-tank right-pointing-tank left-pointing-rocket-booster
    right-pointing-rocket-booster left-pointing-roller-coaster-car
    right-pointing-roller-coaster-car left-half-flying-saucer right-half-flying-saucer"⟩,
  ⟨0x1CCA6, "upper-", "left-quadrant-face-with-open-eyes right-quadrant-face-with-open-eyes
    left-quadrant-face-with-closed-eyes right-quadrant-face-with-closed-eyes"⟩,
  ⟨0x1CCAA, "lower-", "left-quadrant-smiling-face right-quadrant-smiling-face
    left-quadrant-neutral-face right-quadrant-neutral-face left-quadrant-face-with-open-mouth
    right-quadrant-face-with-open-mouth left-quadrant-frowning-face right-quadrant-frowning-face"⟩,
  ⟨0x1CCB2, "", "upper-left-quadrant-television upper-right-quadrant-television
    lower-left-quadrant-television lower-right-quadrant-television
    upper-left-quadrant-microcomputer upper-right-quadrant-microcomputer
    lower-left-quadrant-microcomputer lower-right-quadrant-microcomputer
    upper-left-quadrant-chess-king upper-right-quadrant-chess-king lower-left-quadrant-chess-king
    lower-right-quadrant-chess-king upper-left-quadrant-chess-queen
    upper-right-quadrant-chess-queen lower-left-quadrant-chess-queen
    lower-right-quadrant-chess-queen upper-left-quadrant-chess-rook
    upper-right-quadrant-chess-rook lower-left-quadrant-chess-rook
    lower-right-quadrant-chess-rook upper-left-quadrant-chess-bishop
    upper-right-quadrant-chess-bishop lower-left-quadrant-chess-bishop
    lower-right-quadrant-chess-bishop upper-left-quadrant-chess-knight
    upper-right-quadrant-chess-knight lower-left-quadrant-chess-knight
    lower-right-quadrant-chess-knight upper-left-quadrant-chess-pawn
    upper-right-quadrant-chess-pawn lower-left-quadrant-chess-pawn
    lower-right-quadrant-chess-pawn upper-left-quadrant-standing-knight
    upper-right-quadrant-standing-knight lower-left-quadrant-standing-knight
    lower-right-quadrant-standing-knight"⟩,
  ⟨0x1CCD6, "outlined-latin-capital-letter-", "a b c d e f g h i j k l m n o p q r s t u v w x y
    z"⟩,
  ⟨0x1CCF0, "outlined-digit-", "zero one two three four five six seven eight nine"⟩,
  ⟨0x1CD00, "block-octant-", "3 23 123 4 14 124 34 134 234 5 15 25 125 135 235 1235 45 145 245
    1245 345 1345 2345 12345 6 16 26 126 36 136 236 1236 146 246 1246 346 1346 2346 12346 56 156
    256 1256 356 1356 2356 12356 456 1456 2456 12456 3456 13456 23456 17 27 127 37 137 237 1237
    47 147 247 1247 347 1347 2347 12347 157 257 1257 357 2357 12357 457 1457 12457 3457 13457
    23457 67 167 267 1267 367 1367 2367 12367 467 1467 2467 12467 3467 13467 23467 123467 567
    1567 2567 12567 3567 13567 23567 123567 4567 14567 24567 124567 34567 134567 234567 1234567
    18 28 128 38 138 238 1238 48 148 248 1248 348 1348 2348 12348 58 158 258 1258 358 1358 2358
    12358 458 1458 2458 12458 3458 13458 23458 123458 168 268 1268 368 2368 12368 468 1468 12468
    3468 13468 23468 568 1568 2568 12568 3568 13568 23568 123568 4568 14568 24568 124568 34568
    134568 234568 1234568 178 278 1278 378 1378 2378 12378 478 1478 2478 12478 3478 13478 23478
    123478 578 1578 2578 12578 3578 13578 23578 123578 4578 14578 24578 124578 34578 134578
    234578 1234578 678 1678 2678 12678 3678 13678 23678 123678 4678 14678 24678 124678 34678
    134678 234678 1234678 15678 25678 125678 35678 235678 1235678 45678 145678 1245678 1345678
    2345678"⟩,
  ⟨0x1CDE6, "", "top-half-standing-person bottom-half-standing-person
    top-half-right-facing-runner-frame-1 bottom-half-right-facing-runner-frame-1
    top-half-right-facing-runner-frame-2 bottom-half-right-facing-runner-frame-2
    top-half-left-facing-runner-frame-1 bottom-half-left-facing-runner-frame-1
    top-half-left-facing-runner-frame-2 bottom-half-left-facing-runner-frame-2
    top-half-forward-facing-runner"⟩,
  ⟨0x1CDF1, "bottom-half-forward-facing-runner-frame-", "1 2 3 4"⟩,
  ⟨0x1CDF5, "moon-", "lander"⟩,
  ⟨0x1CDF6, "top-half-flailing-robot-frame-", "1 2"⟩,
  ⟨0x1CDF8, "", "down-pointing-airplane left-pointing-airplane small-up-pointing-airplane
    up-pointing-frog down-pointing-frog"⟩,
  ⟨0x1CDFD, "explosion-frame-", "1 2 3"⟩,
  ⟨0x1CE00, "", "right-half-and-left-half-white-circle lower-half-and-upper-half-white-circle
    explosion-at-horizon upper-half-heavy-white-square lower-half-heavy-white-square
    heavy-white-square-containing-black-very-small-square
    white-vertical-rectangle-with-horizontal-bar top-left-black-left-pointing-small-triangle
    funnel"⟩,
  ⟨0x1CE09, "box-drawings-double-diagonal-", "lower-left-to-middle-centre-to-lower-right
    upper-left-to-middle-centre-to-upper-right"⟩,
  ⟨0x1CE0B, "", "left-half-white-ellipse right-half-white-ellipse
    left-half-triple-dash-horizontal right-half-triple-dash-horizontal
    horizontal-line-with-tick-mark left-half-horizontal-line-with-three-tick-marks
    right-half-horizontal-line-with-three-tick-marks horizontal-line-with-three-tick-marks
    lower-half-vertical-line-with-three-tick-marks upper-half-vertical-line-with-three-tick-marks
    vertical-line-with-three-tick-marks"⟩,
  ⟨0x1CE16, "box-drawings-light-vertical-and-", "top-right bottom-right top-left bottom-left"⟩,
  ⟨0x1CE1A, "large-type-piece-", "upper-left-arc upper-left-corner upper-terminal
    upper-left-crotch left-arm crossbar crossbar-with-lower-stem upper-half-vertex-of-m
    diagonal-lower-left short-upper-terminal upper-right-arc right-arm upper-right-crotch
    upper-right-corner stem-with-right-crossbar stem diagonal-upper-right-and-lower-right
    diagonal-upper-right diagonal-lower-right short-lower-terminal lower-left-and-upper-left-arc
    centre-of-k lower-half-vertex-of-m upper-half-vertex-of-w centre-of-x centre-of-y
    centre-of-z-with-crossbar raised-upper-left-arc stem-with-left-crossbar
    lower-right-and-upper-right-arc diagonal-upper-left-and-lower-left stem-with-left-joint
    stem-with-crossbar diagonal-upper-left lower-terminal lower-left-corner lower-left-arc
    lower-left-crotch crossbar-with-upper-stem vertex-of-v lower-half-vertex-of-w"⟩,
  ⟨0x1CE43, "large-type-piece-lower-right-", "arc corner arc-with-tail crotch"⟩,
  ⟨0x1CE47, "large-type-piece-stem-", "45 2345 4 34 234 1234 3 23 2 12"⟩,
  ⟨0x1CE51, "separated-block-sextant-", "1 2 12 3 13 23 123 4 14 24 124 34 134 234 1234 5 15 25
    125 35 135 235 1235 45 145 245 1245 345 1345 2345 12345 6 16 26 126 36 136 236 1236 46 146
    246 1246 346 1346 2346 12346 56 156 256 1256 356 1356 2356 12356 456 1456 2456 12456 3456
    13456 23456 123456"⟩,
  ⟨0x1CE90, "upper-", "left-one-sixteenth-block centre-left-one-sixteenth-block
    centre-right-one-sixteenth-block right-one-sixteenth-block"⟩,
  ⟨0x1CE94, "upper-middle-", "left-one-sixteenth-block centre-left-one-sixteenth-block
    centre-right-one-sixteenth-block right-one-sixteenth-block"⟩,
  ⟨0x1CE98, "lower-middle-", "left-one-sixteenth-block centre-left-one-sixteenth-block
    centre-right-one-sixteenth-block right-one-sixteenth-block"⟩,
  ⟨0x1CE9C, "lower-", "left-one-sixteenth-block centre-left-one-sixteenth-block
    centre-right-one-sixteenth-block right-one-sixteenth-block"⟩,
  ⟨0x1CEA0, "", "right-half-lower-one-quarter-block right-three-quarters-lower-one-quarter-block
    left-three-quarters-lower-one-quarter-block left-half-lower-one-quarter-block
    lower-half-left-one-quarter-block lower-three-quarters-left-one-quarter-block
    upper-three-quarters-left-one-quarter-block upper-half-left-one-quarter-block
    left-half-upper-one-quarter-block left-three-quarters-upper-one-quarter-block
    right-three-quarters-upper-one-quarter-block right-half-upper-one-quarter-block
    upper-half-right-one-quarter-block upper-three-quarters-right-one-quarter-block
    lower-three-quarters-right-one-quarter-block lower-half-right-one-quarter-block
    horizontal-zigzag-line keyhole old-personal-computer-with-monitor-in-portrait-orientation
    black-right-triangle-caret"⟩,
  ⟨0x1CF00, "znamenny-combining-mark-", "gorazdo-nizko-s-kryzhem-on-left nizko-s-kryzhem-on-left
    tsata-on-left gorazdo-nizko-on-left nizko-on-left sredne-on-left malo-povyshe-on-left
    povyshe-on-left vysoko-on-left malo-povyshe-s-khokhlom-on-left povyshe-s-khokhlom-on-left
    vysoko-s-khokhlom-on-left gorazdo-nizko-s-kryzhem-on-right nizko-s-kryzhem-on-right
    tsata-on-right gorazdo-nizko-on-right nizko-on-right sredne-on-right malo-povyshe-on-right
    povyshe-on-right vysoko-on-right malo-povyshe-s-khokhlom-on-right povyshe-s-khokhlom-on-right
    vysoko-s-khokhlom-on-right tsata-s-kryzhem malo-povyshe-s-kryzhem stranno-malo-povyshe
    povyshe-s-kryzhem povyshe-stranno vysoko-s-kryzhem malo-povyshe-stranno gorazdo-vysoko zelo
    on ravno tikhaya borzaya udarka podvertka lomka kupnaya kachka zevok skoba razseka
    kryzh-on-left"⟩,
  ⟨0x1CF30, "znamenny-combining-tonal-range-mark-", "mrachno svetlo tresvetlo"⟩,
  ⟨0x1CF33, "znamenny-combining-mark-", "zaderzhka demestvenny-zaderzhka otsechka podchashie
    podchashie-with-vertical-stroke chashka chashka-polnaya oblachko sorochya-nozhka tochka
    dvoetochie"⟩,
  ⟨0x1CF3E, "znamenny-combining-", "attaching-vertical-omet mark-curved-omet mark-kryzh
    lower-tonal-range-indicator"⟩,
  ⟨0x1CF42, "znamenny-priznak-modifier-", "level-2 level-3 direction-flip kryzh rog"⟩,
  ⟨0x1CF50, "znamenny-neume-", "kryuk kryuk-tikhy paraklit dva-v-chelnu klyuch zanozhek stopitsa
    stopitsa-s-ochkom perevodka perevodka-nepostoyannaya stopitsa-with-sorochya-nozhka chelyustka
    palka zapyataya"⟩,
  ⟨0x1CF5E, "znamenny-neume-golubchik-", "borzy tikhy mrachny svetly tresvetly"⟩,
  ⟨0x1CF63, "znamenny-neume-vrakhiya-", "prostaya mrachnaya svetlaya tresvetlaya
    klyuchevaya-prostaya klyuchevaya-mrachnaya klyuchevaya-svetlaya klyuchevaya-tresvetlaya"⟩,
  ⟨0x1CF6B, "znamenny-neume-", "double-zapyataya reversed-chelyustka derbitsa khamilo chashka
    podchashie skameytsa-mrachnaya skameytsa-svetlaya skameytsa-tresvetlaya skameytsa-tikhaya
    demestvenny-klyuch skameytsa-klyuchevaya-svetlaya skameytsa-klyuchenepostoyannaya
    skameytsa-klyuchevaya-tikhaya"⟩,
  ⟨0x1CF79, "znamenny-neume-skameytsa-dvoechelnaya-", "prostaya svetlaya nepostoyannaya
    klyuchevaya"⟩,
  ⟨0x1CF7D, "znamenny-neume-", "slozhitie slozhitie-s-zapyatoy slozhitie-zakrytoe
    slozhitie-s-kryzhem kryzh rog fita kobyla zmeytsa statya statya-s-zapyatoy statya-s-kryzhem
    statya-s-zapyatoy-i-kryzhem statya-s-kryzhem-i-zapyatoy statya-zakrytaya
    statya-zakrytaya-s-zapyatoy statya-s-rogom statya-s-dvumya-zapyatymi
    statya-s-zapyatoy-i-podchashiem polkulizmy statya-nepostoyannaya"⟩,
  ⟨0x1CF92, "znamenny-neume-strela-", "prostaya mrachnotikhaya kryzhevaya polupovodnaya povodnaya
    nepostoyannaya klyuchepovodnaya klyuchenepostoyannaya tikhaya-putnaya dvoechelnaya
    dvoechelnokryzhevaya dvoechelnopovodnaya dvoechelnaya-klyuchevaya
    dvoechelnopovodnaya-klyuchevaya gromnaya-with-single-zapyataya
    gromopovodnaya-with-single-zapyataya gromnaya gromopovodnaya
    gromopovodnaya-with-double-zapyataya gromokryzhevaya gromokryzhevaya-povodnaya"⟩,
  ⟨0x1CFA7, "znamenny-neume-", "mechik mechik-povodny mechik-klyuchevoy mechik-klyuchepovodny
    mechik-klyuchenepostoyanny strela-tryasoglasnaya strela-tryasopovodnaya
    strela-tryasostrelnaya osoka osoka-svetlaya osoka-tresvetlaya osoka-kryukovaya-svetlaya
    osoka-klyuchevaya-svetlaya osoka-klyuchevaya-nepostoyannaya strela-kryukovaya"⟩,
  ⟨0x1CFB6, "znamenny-neume-strela-kryukovaya-", "povodnaya gromnaya-with-single-zapyataya
    gromopovodnaya-with-single-zapyataya gromnaya gromopovodnaya
    gromopovodnaya-with-double-zapyataya gromokryzhevaya gromokryzhevaya-povodnaya tryaska"⟩,
  ⟨0x1CFBF, "znamenny-neume-", "kufisma oblako duda nemka pauk"⟩,
  ⟨0x1D000, "byzantine-musical-symbol-", "psili daseia perispomeni oxeia-ekfonitikon oxeia-dipli
    vareia-ekfonitikon vareia-dipli kathisti syrmatiki paraklitiki ypokrisis ypokrisis-dipli
    kremasti apeso-ekfonitikon exo-ekfonitikon teleia kentimata apostrofos apostrofos-dipli
    synevma thita oligon-archaion gorgon-archaion psilon chamilon vathy ison-archaion
    kentima-archaion kentimata-archaion saximata parichon stavros-apodexia oxeiai-archaion
    vareiai-archaion apoderma-archaion apothema klasma revma piasma-archaion tinagma anatrichisma
    seisma synagma-archaion synagma-meta-stavrou oyranisma-archaion thema lemoi dyo tria tessera
    kratimata apeso-exo-neo fthora-archaion imifthora tromikon-archaion katava-tromikon pelaston
    psifiston kontevma chorevma-archaion rapisma parakalesma-archaion paraklitiki-archaion
    ichadin nana petasma kontevma-allo tromikon-allo straggismata gronthismata ison-neo
    oligon-neo oxeia-neo petasti koufisma petastokoufisma kratimokoufisma pelaston-neo
    kentimata-neo-ano kentima-neo-ano ypsili apostrofos-neo apostrofoi-syndesmos-neo yporroi
    kratimoyporroon elafron chamili mikron-ison vareia-neo piasma-neo psifiston-neo omalon
    antikenoma lygisma paraklitiki-neo parakalesma-neo eteron-parakalesma kylisma antikenokylisma
    tromikon-neo ekstrepton synagma-neo syrma chorevma-neo epegerma seisma-neo xiron-klasma
    tromikopsifiston psifistolygisma tromikolygisma tromikoparakalesma psifistoparakalesma
    tromikosynagma psifistosynagma gorgosyntheton argosyntheton eteron-argosyntheton
    oyranisma-neo thematismos-eso thematismos-exo thema-aploun thes-kai-apothes katavasma
    endofonon yfen-kato yfen-ano stavros klasma-ano dipli-archaion kratima-archaion kratima-allo
    kratima-neo apoderma-neo apli dipli tripli tetrapli koronis leimma-enos-chronou
    leimma-dyo-chronon leimma-trion-chronon leimma-tessaron-chronon leimma-imiseos-chronou
    gorgon-neo-ano gorgon-parestigmenon-aristera gorgon-parestigmenon-dexia digorgon
    digorgon-parestigmenon-aristera-kato digorgon-parestigmenon-aristera-ano
    digorgon-parestigmenon-dexia trigorgon argon imidiargon diargon"⟩,
  ⟨0x1D09A, "byzantine-musical-symbol-agogi-", "poli-argi argoteri argi metria mesi gorgi
    gorgoteri poli-gorgi"⟩,
  ⟨0x1D0A2, "byzantine-musical-symbol-martyria-", "protos-ichos alli-protos-ichos deyteros-ichos
    alli-deyteros-ichos tritos-ichos trifonias tetartos-ichos tetartos-legetos-ichos
    legetos-ichos plagios-ichos"⟩,
  ⟨0x1D0AC, "byzantine-musical-symbol-", "isakia-telous-ichimatos apostrofoi-telous-ichimatos
    fanerosis-tetrafonias fanerosis-monofonias fanerosis-difonias martyria-varys-ichos
    martyria-protovarys-ichos martyria-plagios-tetartos-ichos gorthmikon-n-aploun
    gorthmikon-n-diploun enarxis-kai-fthora-vou imifonon imifthoron
    fthora-archaion-deyterou-ichou fthora-diatoniki-pa fthora-diatoniki-nana fthora-naos-ichos
    fthora-diatoniki-di fthora-skliron-diatonon-di fthora-diatoniki-ke fthora-diatoniki-zo
    fthora-diatoniki-ni-kato fthora-diatoniki-ni-ano fthora-malakon-chroma-difonias
    fthora-malakon-chroma-monofonias fhtora-skliron-chroma-vasis fthora-skliron-chroma-synafi
    fthora-nenano chroa-zygos chroa-kliton chroa-spathi fthora-i-yfesis-tetartimorion
    fthora-enarmonios-antifonia yfesis-tritimorion diesis-tritimorion diesis-tetartimorion
    diesis-apli-dyo-dodekata diesis-monogrammos-tessera-dodekata diesis-digrammos-ex-dodekata
    diesis-trigrammos-okto-dodekata yfesis-apli-dyo-dodekata yfesis-monogrammos-tessera-dodekata
    yfesis-digrammos-ex-dodekata yfesis-trigrammos-okto-dodekata geniki-diesis geniki-yfesis
    diastoli-apli-mikri diastoli-apli-megali diastoli-dipli diastoli-theseos simansis-theseos
    simansis-theseos-disimou simansis-theseos-trisimou simansis-theseos-tetrasimou
    simansis-arseos simansis-arseos-disimou simansis-arseos-trisimou simansis-arseos-tetrasimou
    digramma-gg diftoggos-ou stigma arktiko-pa arktiko-vou arktiko-ga arktiko-di arktiko-ke
    arktiko-zo arktiko-ni kentimata-neo-meso kentima-neo-meso kentimata-neo-kato kentima-neo-kato
    klasma-kato gorgon-neo-kato"⟩,
  ⟨0x1D100, "musical-symbol-", "single-barline double-barline final-barline reverse-final-barline
    dashed-barline short-barline left-repeat-sign right-repeat-sign repeat-dots dal-segno da-capo
    segno coda repeated-figure-1 repeated-figure-2 repeated-figure-3 fermata fermata-below
    breath-mark caesura brace bracket one-line-staff two-line-staff three-line-staff
    four-line-staff five-line-staff six-line-staff six-string-fretboard four-string-fretboard
    g-clef g-clef-ottava-alta g-clef-ottava-bassa c-clef f-clef f-clef-ottava-alta
    f-clef-ottava-bassa drum-clef-1 drum-clef-2"⟩,
  ⟨0x1D129, "musical-symbol-", "multiple-measure-rest double-sharp double-flat flat-up flat-down
    natural-up natural-down sharp-up sharp-down quarter-tone-sharp quarter-tone-flat common-time
    cut-time ottava-alta ottava-bassa quindicesima-alta quindicesima-bassa multi-rest whole-rest
    half-rest quarter-rest eighth-rest sixteenth-rest thirty-second-rest sixty-fourth-rest
    one-hundred-twenty-eighth-rest x-notehead plus-notehead circle-x-notehead
    square-notehead-white square-notehead-black"⟩,
  ⟨0x1D148, "musical-symbol-triangle-notehead-", "up-white up-black left-white left-black
    right-white right-black down-white down-black up-right-white up-right-black"⟩,
  ⟨0x1D152, "musical-symbol-", "moon-notehead-white moon-notehead-black
    triangle-round-notehead-down-white triangle-round-notehead-down-black parenthesis-notehead
    void-notehead notehead-black null-notehead cluster-notehead-white cluster-notehead-black
    breve whole-note half-note quarter-note eighth-note sixteenth-note thirty-second-note
    sixty-fourth-note one-hundred-twenty-eighth-note"⟩,
  ⟨0x1D165, "musical-symbol-combining-", "stem sprechgesang-stem tremolo-1 tremolo-2 tremolo-3"⟩,
  ⟨0x1D16A, "musical-symbol-fingered-tremolo-", "1 2 3"⟩,
  ⟨0x1D16D, "musical-symbol-combining-", "augmentation-dot flag-1 flag-2 flag-3 flag-4 flag-5"⟩,
  ⟨0x1D173, "musical-symbol-", "begin-beam end-beam begin-tie end-tie begin-slur end-slur
    begin-phrase end-phrase"⟩,
  ⟨0x1D17B, "musical-symbol-combining-", "accent staccato tenuto staccatissimo marcato
    marcato-staccato accent-staccato loure"⟩,
  ⟨0x1D183, "musical-symbol-arpeggiato-", "up down"⟩,
  ⟨0x1D185, "musical-symbol-combining-", "doit rip flip smear bend double-tongue triple-tongue"⟩,
  ⟨0x1D18C, "musical-symbol-", "rinforzando subito z piano mezzo forte crescendo decrescendo
    grace-note-slash grace-note-no-slash tr turn inverted-turn turn-slash turn-up"⟩,
  ⟨0x1D19B, "musical-symbol-ornament-stroke-", "1 2 3 4 5 6 7 8 9 10 11"⟩,
  ⟨0x1D1A6, "musical-symbol-", "hauptstimme nebenstimme end-of-stimme degree-slash
    combining-down-bow combining-up-bow combining-harmonic combining-snap-pizzicato pedal-mark
    pedal-up-mark half-pedal-mark glissando-up glissando-down with-fingernails damp damp-all
    maxima longa brevis semibrevis-white semibrevis-black minima minima-black semiminima-white
    semiminima-black fusa-white fusa-black longa-perfecta-rest longa-imperfecta-rest brevis-rest
    semibrevis-rest minima-rest semiminima-rest"⟩,
  ⟨0x1D1C7, "musical-symbol-tempus-perfectum-cum-prolatione-", "perfecta imperfecta
    perfecta-diminution-1"⟩,
  ⟨0x1D1CA, "musical-symbol-tempus-imperfectum-cum-prolatione-", "perfecta imperfecta
    imperfecta-diminution-1 imperfecta-diminution-2 imperfecta-diminution-3"⟩,
  ⟨0x1D1CF, "musical-symbol-", "croix gregorian-c-clef gregorian-f-clef square-b virga podatus
    clivis scandicus climacus torculus porrectus porrectus-flexus scandicus-flexus
    torculus-resupinus pes-subpunctis"⟩,
  ⟨0x1D1DE, "musical-symbol-kievan-", "c-clef end-of-piece final-note recitative-mark whole-note
    half-note quarter-note-stem-down quarter-note-stem-up eighth-note-stem-down
    eighth-note-stem-up flat-sign"⟩,
  ⟨0x1D1E9, "musical-symbol-", "sori koron"⟩,
  ⟨0x1D200, "greek-vocal-notation-symbol-", "1 2 3 4 5 6 7 8 9 10 11 12 13 14 15 16 17 18 19 20
    21 22 23 24 50 51 52 53 54"⟩,
  ⟨0x1D21D, "greek-instrumental-notation-symbol-", "1 2 4 5 7 8 11 12 13 14 17 18 19 23 24 25 26
    27 29 30 32 36 37 38 39 40 42 43 45 47 48 49 50 51 52 53 54"⟩,
  ⟨0x1D242, "combining-greek-musical-", "triseme tetraseme pentaseme"⟩,
  ⟨0x1D245, "greek-musical-", "leimma"⟩,
  ⟨0x1D2C0, "kaktovik-numeral-", "zero one two three four five six seven eight nine ten eleven
    twelve thirteen fourteen fifteen sixteen seventeen eighteen nineteen"⟩,
  ⟨0x1D2E0, "mayan-numeral-", "zero one two three four five six seven eight nine ten eleven
    twelve thirteen fourteen fifteen sixteen seventeen eighteen nineteen"⟩,
  ⟨0x1D300, "monogram-for-", "earth"⟩,
  ⟨0x1D301, "digram-for-", "heavenly-earth human-earth earthly-heaven earthly-human earth"⟩,
  ⟨0x1D306, "tetragram-for-", "centre full-circle mired barrier keeping-small contrariety ascent
    opposition branching-out defectiveness-or-distortion divergence youthfulness increase
    penetration reach contact holding-back waiting following advance release resistance ease joy
    contention endeavour duties change decisiveness bold-resolution packing legion closeness
    kinship gathering strength purity fullness residence law-or-model response going-to-meet
    encounters stove greatness enlargement pattern ritual flight vastness-or-wasting constancy
    measure eternity unity diminishment closed-mouth guardedness gathering-in massing
    accumulation embellishment doubt watch sinking inner departure darkening dimming exhaustion
    severance stoppage hardness completion closure failure aggravation compliance on-the-verge
    difficulties labouring fostering"⟩,
  ⟨0x1D360, "counting-rod-unit-digit-", "one two three four five six seven eight nine"⟩,
  ⟨0x1D369, "counting-rod-tens-digit-", "one two three four five six seven eight nine"⟩,
  ⟨0x1D372, "ideographic-tally-mark-", "one two three four five"⟩,
  ⟨0x1D377, "tally-mark-", "one five"⟩]

set_option maxRecDepth 10000 in
def mathematicalBlocks : List Block := [
  ⟨0x1D400, "mathematical-bold-capital-", "a b c d e f g h i j k l m n o p q r s t u v w x y z"⟩,
  ⟨0x1D41A, "mathematical-bold-small-", "a b c d e f g h i j k l m n o p q r s t u v w x y z"⟩,
  ⟨0x1D434, "mathematical-italic-capital-", "a b c d e f g h i j k l m n o p q r s t u v w x y z"⟩,
  ⟨0x1D44E, "mathematical-italic-small-", "a b c d e f g"⟩,
  ⟨0x1D456, "mathematical-italic-small-", "i j k l m n o p q r s t u v w x y z"⟩,
  ⟨0x1D468, "mathematical-bold-italic-capital-", "a b c d e f g h i j k l m n o p q r s t u v w x
    y z"⟩,
  ⟨0x1D482, "mathematical-bold-italic-small-", "a b c d e f g h i j k l m n o p q r s t u v w x y
    z"⟩,
  ⟨0x1D49C, "mathematical-script-capital-", "a"⟩,
  ⟨0x1D49E, "mathematical-script-capital-", "c d"⟩,
  ⟨0x1D4A2, "mathematical-script-capital-", "g"⟩,
  ⟨0x1D4A5, "mathematical-script-capital-", "j k"⟩,
  ⟨0x1D4A9, "mathematical-script-capital-", "n o p q"⟩,
  ⟨0x1D4AE, "mathematical-script-capital-", "s t u v w x y z"⟩,
  ⟨0x1D4B6, "mathematical-script-small-", "a b c d"⟩,
  ⟨0x1D4BB, "mathematical-script-small-", "f"⟩,
  ⟨0x1D4BD, "mathematical-script-small-", "h i j k l m n"⟩,
  ⟨0x1D4C5, "mathematical-script-small-", "p q r s t u v w x y z"⟩,
  ⟨0x1D4D0, "mathematical-bold-script-capital-", "a b c d e f g h i j k l m n o p q r s t u v w x
    y z"⟩,
  ⟨0x1D4EA, "mathematical-bold-script-small-", "a b c d e f g h i j k l m n o p q r s t u v w x y
    z"⟩,
  ⟨0x1D504, "mathematical-fraktur-capital-", "a b"⟩,
  ⟨0x1D507, "mathematical-fraktur-capital-", "d e f g"⟩,
  ⟨0x1D50D, "mathematical-fraktur-capital-", "j k l m n o p q"⟩,
  ⟨0x1D516, "mathematical-fraktur-capital-", "s t u v w x y"⟩,
  ⟨0x1D51E, "mathematical-fraktur-small-", "a b c d e f g h i j k l m n o p q r s t u v w x y z"⟩,
  ⟨0x1D538, "mathematical-double-struck-capital-", "a b"⟩,
  ⟨0x1D53B, "mathematical-double-struck-capital-", "d e f g"⟩,
  ⟨0x1D540, "mathematical-double-struck-capital-", "i j k l m"⟩,
  ⟨0x1D546, "mathematical-double-struck-capital-", "o"⟩,
  ⟨0x1D54A, "mathematical-double-struck-capital-", "s t u v w x y"⟩,
  ⟨0x1D552, "mathematical-double-struck-small-", "a b c d e f g h i j k l m n o p q r s t u v w x
    y z"⟩,
  ⟨0x1D56C, "mathematical-bold-fraktur-capital-", "a b c d e f g h i j k l m n o p q r s t u v w
    x y z"⟩,
  ⟨0x1D586, "mathematical-bold-fraktur-small-", "a b c d e f g h i j k l m n o p q r s t u v w x
    y z"⟩,
  ⟨0x1D5A0, "mathematical-sans-serif-capital-", "a b c d e f g h i j k l m n o p q r s t u v w x
    y z"⟩,
  ⟨0x1D5BA, "mathematical-sans-serif-small-", "a b c d e f g h i j k l m n o p q r s t u v w x y
    z"⟩,
  ⟨0x1D5D4, "mathematical-sans-serif-bold-capital-", "a b c d e f g h i j k l m n o p q r s t u v
    w x y z"⟩,
  ⟨0x1D5EE, "mathematical-sans-serif-bold-small-", "a b c d e f g h i j k l m n o p q r s t u v w
    x y z"⟩,
  ⟨0x1D608, "mathematical-sans-serif-italic-capital-", "a b c d e f g h i j k l m n o p q r s t u
    v w x y z"⟩,
  ⟨0x1D622, "mathematical-sans-serif-italic-small-", "a b c d e f g h i j k l m n o p q r s t u v
    w x y z"⟩,
  ⟨0x1D63C, "mathematical-sans-serif-bold-italic-capital-", "a b c d e f g h i j k l m n o p q r
    s t u v w x y z"⟩,
  ⟨0x1D656, "mathematical-sans-serif-bold-italic-small-", "a b c d e f g h i j k l m n o p q r s
    t u v w x y z"⟩,
  ⟨0x1D670, "mathematical-monospace-capital-", "a b c d e f g h i j k l m n o p q r s t u v w x y
    z"⟩,
  ⟨0x1D68A, "mathematical-monospace-small-", "a b c d e f g h i j k l m n o p q r s t u v w x y z"⟩,
  ⟨0x1D6A4, "mathematical-italic-small-dotless-", "i j"⟩,
  ⟨0x1D6A8, "mathematical-bold-capital-", "alpha beta gamma delta epsilon zeta eta theta iota
    kappa lamda mu nu xi omicron pi rho theta-symbol sigma tau upsilon phi chi psi omega"⟩,
  ⟨0x1D6C1, "mathematical-bold-", "nabla"⟩,
  ⟨0x1D6C2, "mathematical-bold-small-", "alpha beta gamma delta epsilon zeta eta theta iota kappa
    lamda mu nu xi omicron pi rho final-sigma sigma tau upsilon phi chi psi omega"⟩,
  ⟨0x1D6DB, "mathematical-bold-", "partial-differential epsilon-symbol theta-symbol kappa-symbol
    phi-symbol rho-symbol pi-symbol"⟩,
  ⟨0x1D6E2, "mathematical-italic-capital-", "alpha beta gamma delta epsilon zeta eta theta iota
    kappa lamda mu nu xi omicron pi rho theta-symbol sigma tau upsilon phi chi psi omega"⟩,
  ⟨0x1D6FB, "mathematical-italic-", "nabla"⟩,
  ⟨0x1D6FC, "mathematical-italic-small-", "alpha beta gamma delta epsilon zeta eta theta iota
    kappa lamda mu nu xi omicron pi rho final-sigma sigma tau upsilon phi chi psi omega"⟩,
  ⟨0x1D715, "mathematical-italic-", "partial-differential epsilon-symbol theta-symbol
    kappa-symbol phi-symbol rho-symbol pi-symbol"⟩,
  ⟨0x1D71C, "mathematical-bold-italic-capital-", "alpha beta gamma delta epsilon zeta eta theta
    iota kappa lamda mu nu xi omicron pi rho theta-symbol sigma tau upsilon phi chi psi omega"⟩,
  ⟨0x1D735, "mathematical-bold-italic-", "nabla"⟩,
  ⟨0x1D736, "mathematical-bold-italic-small-", "alpha beta gamma delta epsilon zeta eta theta
    iota kappa lamda mu nu xi omicron pi rho final-sigma sigma tau upsilon phi chi psi omega"⟩,
  ⟨0x1D74F, "mathematical-bold-italic-", "partial-differential epsilon-symbol theta-symbol
    kappa-symbol phi-symbol rho-symbol pi-symbol"⟩,
  ⟨0x1D756, "mathematical-sans-serif-bold-capital-", "alpha beta gamma delta epsilon zeta eta
    theta iota kappa lamda mu nu xi omicron pi rho theta-symbol sigma tau upsilon phi chi psi
    omega"⟩,
  ⟨0x1D76F, "mathematical-sans-serif-bold-", "nabla"⟩,
  ⟨0x1D770, "mathematical-sans-serif-bold-small-", "alpha beta gamma delta epsilon zeta eta theta
    iota kappa lamda mu nu xi omicron pi rho final-sigma sigma tau upsilon phi chi psi omega"⟩,
  ⟨0x1D789, "mathematical-sans-serif-bold-", "partial-differential epsilon-symbol theta-symbol
    kappa-symbol phi-symbol rho-symbol pi-symbol"⟩,
  ⟨0x1D790, "mathematical-sans-serif-bold-italic-capital-", "alpha beta gamma delta epsilon zeta
    eta theta iota kappa lamda mu nu xi omicron pi rho theta-symbol sigma tau upsilon phi chi psi
    omega"⟩,
  ⟨0x1D7A9, "mathematical-sans-serif-bold-italic-", "nabla"⟩,
  ⟨0x1D7AA, "mathematical-sans-serif-bold-italic-small-", "alpha beta gamma delta epsilon zeta
    eta theta iota kappa lamda mu nu xi omicron pi rho final-sigma sigma tau upsilon phi chi psi
    omega"⟩,
  ⟨0x1D7C3, "mathematical-sans-serif-bold-italic-", "partial-differential epsilon-symbol
    theta-symbol kappa-symbol phi-symbol rho-symbol pi-symbol"⟩,
  ⟨0x1D7CA, "mathematical-bold-", "capital-digamma small-digamma"⟩,
  ⟨0x1D7CE, "mathematical-bold-digit-", "zero one two three four five six seven eight nine"⟩,
  ⟨0x1D7D8, "mathematical-double-struck-digit-", "zero one two three four five six seven eight
    nine"⟩,
  ⟨0x1D7E2, "mathematical-sans-serif-digit-", "zero one two three four five six seven eight nine"⟩,
  ⟨0x1D7EC, "mathematical-sans-serif-bold-digit-", "zero one two three four five six seven eight
    nine"⟩,
  ⟨0x1D7F6, "mathematical-monospace-digit-", "zero one two three four five six seven eight nine"⟩]

end Dictation.Unicode.Name
