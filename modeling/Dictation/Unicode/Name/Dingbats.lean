import Dictation.Unicode.Name.Block
/-!
# Dingbats, arrows and mathematical symbols

Spoken names from 0x2700 on, as of Unicode 16.
-/
namespace Dictation.Unicode.Name

set_option maxRecDepth 10000 in
/-- Dingbats, arrows and mathematical symbols. -/
def dingbatsBlocks : List Block := [
  ⟨0x2700, "", "black-safety-scissors upper-blade-scissors black-scissors lower-blade-scissors
    white-scissors white-heavy-check-mark telephone-location-sign tape-drive airplane envelope
    raised-fist raised-hand victory-hand writing-hand lower-right-pencil pencil
    upper-right-pencil white-nib black-nib check-mark heavy-check-mark multiplication-x
    heavy-multiplication-x ballot-x heavy-ballot-x outlined-greek-cross heavy-greek-cross
    open-centre-cross heavy-open-centre-cross latin-cross shadowed-white-latin-cross
    outlined-latin-cross maltese-cross star-of-david four-teardrop-spoked-asterisk
    four-balloon-spoked-asterisk heavy-four-balloon-spoked-asterisk four-club-spoked-asterisk
    black-four-pointed-star white-four-pointed-star sparkles stress-outlined-white-star
    circled-white-star open-centre-black-star black-centre-white-star outlined-black-star
    heavy-outlined-black-star pinwheel-star shadowed-white-star heavy-asterisk
    open-centre-asterisk eight-spoked-asterisk eight-pointed-black-star
    eight-pointed-pinwheel-star six-pointed-black-star eight-pointed-rectilinear-black-star
    heavy-eight-pointed-rectilinear-black-star twelve-pointed-black-star sixteen-pointed-asterisk
    teardrop-spoked-asterisk open-centre-teardrop-spoked-asterisk heavy-teardrop-spoked-asterisk
    six-petalled-black-and-white-florette black-florette white-florette
    eight-petalled-outlined-black-florette circled-open-centre-eight-pointed-star
    heavy-teardrop-spoked-pinwheel-asterisk snowflake tight-trifoliate-snowflake
    heavy-chevron-snowflake sparkle heavy-sparkle balloon-spoked-asterisk
    eight-teardrop-spoked-propeller-asterisk heavy-eight-teardrop-spoked-propeller-asterisk
    cross-mark shadowed-white-circle negative-squared-cross-mark
    lower-right-drop-shadowed-white-square upper-right-drop-shadowed-white-square
    lower-right-shadowed-white-square upper-right-shadowed-white-square
    black-question-mark-ornament white-question-mark-ornament white-exclamation-mark-ornament
    black-diamond-minus-white-x heavy-exclamation-mark-symbol light-vertical-bar
    medium-vertical-bar"⟩,
  ⟨0x275A, "heavy-", "vertical-bar single-turned-comma-quotation-mark-ornament
    single-comma-quotation-mark-ornament double-turned-comma-quotation-mark-ornament
    double-comma-quotation-mark-ornament low-single-comma-quotation-mark-ornament
    low-double-comma-quotation-mark-ornament"⟩,
  ⟨0x2761, "", "curved-stem-paragraph-sign-ornament heavy-exclamation-mark-ornament
    heavy-heart-exclamation-mark-ornament heavy-black-heart rotated-heavy-black-heart-bullet
    floral-heart rotated-floral-heart-bullet"⟩,
  ⟨0x2768, "medium-", "left-parenthesis-ornament right-parenthesis-ornament
    flattened-left-parenthesis-ornament flattened-right-parenthesis-ornament
    left-pointing-angle-bracket-ornament right-pointing-angle-bracket-ornament"⟩,
  ⟨0x276E, "heavy-", "left-pointing-angle-quotation-mark-ornament
    right-pointing-angle-quotation-mark-ornament left-pointing-angle-bracket-ornament
    right-pointing-angle-bracket-ornament"⟩,
  ⟨0x2772, "", "light-left-tortoise-shell-bracket-ornament
    light-right-tortoise-shell-bracket-ornament medium-left-curly-bracket-ornament
    medium-right-curly-bracket-ornament"⟩,
  ⟨0x2776, "dingbat-negative-circled-digit-", "one two three four five six seven eight nine"⟩,
  ⟨0x277F, "dingbat-negative-circled-number-", "ten"⟩,
  ⟨0x2780, "dingbat-circled-sans-serif-digit-", "one two three four five six seven eight nine"⟩,
  ⟨0x2789, "dingbat-circled-sans-serif-number-", "ten"⟩,
  ⟨0x278A, "dingbat-negative-circled-sans-serif-", "digit-one digit-two digit-three digit-four
    digit-five digit-six digit-seven digit-eight digit-nine number-ten"⟩,
  ⟨0x2794, "heavy-", "wide-headed-rightwards-arrow plus-sign minus-sign division-sign
    south-east-arrow rightwards-arrow north-east-arrow"⟩,
  ⟨0x279B, "", "drafting-point-rightwards-arrow heavy-round-tipped-rightwards-arrow
    triangle-headed-rightwards-arrow heavy-triangle-headed-rightwards-arrow
    dashed-triangle-headed-rightwards-arrow heavy-dashed-triangle-headed-rightwards-arrow
    black-rightwards-arrow three-d-top-lighted-rightwards-arrowhead
    three-d-bottom-lighted-rightwards-arrowhead black-rightwards-arrowhead
    heavy-black-curved-downwards-and-rightwards-arrow
    heavy-black-curved-upwards-and-rightwards-arrow squat-black-rightwards-arrow
    heavy-concave-pointed-black-rightwards-arrow right-shaded-white-rightwards-arrow
    left-shaded-white-rightwards-arrow back-tilted-shadowed-white-rightwards-arrow
    front-tilted-shadowed-white-rightwards-arrow
    heavy-lower-right-shadowed-white-rightwards-arrow
    heavy-upper-right-shadowed-white-rightwards-arrow
    notched-lower-right-shadowed-white-rightwards-arrow curly-loop
    notched-upper-right-shadowed-white-rightwards-arrow circled-heavy-white-rightwards-arrow
    white-feathered-rightwards-arrow"⟩,
  ⟨0x27B4, "black-feathered-", "south-east-arrow rightwards-arrow north-east-arrow"⟩,
  ⟨0x27B7, "heavy-black-feathered-", "south-east-arrow rightwards-arrow north-east-arrow"⟩,
  ⟨0x27BA, "", "teardrop-barbed-rightwards-arrow heavy-teardrop-shanked-rightwards-arrow
    wedge-tailed-rightwards-arrow heavy-wedge-tailed-rightwards-arrow
    open-outlined-rightwards-arrow double-curly-loop three-dimensional-angle
    white-triangle-containing-small-white-triangle perpendicular open-subset open-superset
    left-s-shaped-bag-delimiter right-s-shaped-bag-delimiter or-with-dot-inside
    reverse-solidus-preceding-subset superset-preceding-solidus
    vertical-bar-with-horizontal-stroke mathematical-rising-diagonal long-division
    mathematical-falling-diagonal squared-logical-and squared-logical-or
    white-diamond-with-centred-dot and-with-dot element-of-opening-upwards
    lower-right-corner-with-dot upper-left-corner-with-dot left-outer-join right-outer-join
    full-outer-join large-up-tack large-down-tack left-and-right-double-turnstile
    left-and-right-tack left-multimap long-right-tack long-left-tack up-tack-with-circle-above
    lozenge-divided-by-horizontal-rule"⟩,
  ⟨0x27E1, "white-concave-sided-", "diamond diamond-with-leftwards-tick
    diamond-with-rightwards-tick"⟩,
  ⟨0x27E4, "white-square-with-", "leftwards-tick rightwards-tick"⟩,
  ⟨0x27E6, "mathematical-", "left-white-square-bracket right-white-square-bracket
    left-angle-bracket right-angle-bracket left-double-angle-bracket right-double-angle-bracket
    left-white-tortoise-shell-bracket right-white-tortoise-shell-bracket
    left-flattened-parenthesis right-flattened-parenthesis"⟩,
  ⟨0x27F0, "", "upwards-quadruple-arrow downwards-quadruple-arrow
    anticlockwise-gapped-circle-arrow clockwise-gapped-circle-arrow right-arrow-with-circled-plus"⟩,
  ⟨0x27F5, "long-", "leftwards-arrow rightwards-arrow left-right-arrow leftwards-double-arrow
    rightwards-double-arrow left-right-double-arrow leftwards-arrow-from-bar
    rightwards-arrow-from-bar leftwards-double-arrow-from-bar rightwards-double-arrow-from-bar
    rightwards-squiggle-arrow"⟩,
  ⟨0x2800, "braille-pattern-", "blank"⟩,
  ⟨0x2801, "braille-pattern-dots-", "1 2 12 3 13 23 123 4 14 24 124 34 134 234 1234 5 15 25 125
    35 135 235 1235 45 145 245 1245 345 1345 2345 12345 6 16 26 126 36 136 236 1236 46 146 246
    1246 346 1346 2346 12346 56 156 256 1256 356 1356 2356 12356 456 1456 2456 12456 3456 13456
    23456 123456 7 17 27 127 37 137 237 1237 47 147 247 1247 347 1347 2347 12347 57 157 257 1257
    357 1357 2357 12357 457 1457 2457 12457 3457 13457 23457 123457 67 167 267 1267 367 1367 2367
    12367 467 1467 2467 12467 3467 13467 23467 123467 567 1567 2567 12567 3567 13567 23567 123567
    4567 14567 24567 124567 34567 134567 234567 1234567 8 18 28 128 38 138 238 1238 48 148 248
    1248 348 1348 2348 12348 58 158 258 1258 358 1358 2358 12358 458 1458 2458 12458 3458 13458
    23458 123458 68 168 268 1268 368 1368 2368 12368 468 1468 2468 12468 3468 13468 23468 123468
    568 1568 2568 12568 3568 13568 23568 123568 4568 14568 24568 124568 34568 134568 234568
    1234568 78 178 278 1278 378 1378 2378 12378 478 1478 2478 12478 3478 13478 23478 123478 578
    1578 2578 12578 3578 13578 23578 123578 4578 14578 24578 124578 34578 134578 234578 1234578
    678 1678 2678 12678 3678 13678 23678 123678 4678 14678 24678 124678 34678 134678 234678
    1234678 5678 15678 25678 125678 35678 135678 235678 1235678 45678 145678 245678 1245678
    345678 1345678 2345678 12345678"⟩,
  ⟨0x2900, "rightwards-two-headed-arrow-with-", "vertical-stroke double-vertical-stroke"⟩,
  ⟨0x2902, "", "leftwards-double-arrow-with-vertical-stroke
    rightwards-double-arrow-with-vertical-stroke left-right-double-arrow-with-vertical-stroke
    rightwards-two-headed-arrow-from-bar leftwards-double-arrow-from-bar
    rightwards-double-arrow-from-bar downwards-arrow-with-horizontal-stroke
    upwards-arrow-with-horizontal-stroke upwards-triple-arrow downwards-triple-arrow
    leftwards-double-dash-arrow rightwards-double-dash-arrow leftwards-triple-dash-arrow
    rightwards-triple-dash-arrow rightwards-two-headed-triple-dash-arrow
    rightwards-arrow-with-dotted-stem upwards-arrow-to-bar downwards-arrow-to-bar"⟩,
  ⟨0x2914, "rightwards-arrow-with-tail-with-", "vertical-stroke double-vertical-stroke"⟩,
  ⟨0x2916, "rightwards-two-headed-arrow-with-", "tail tail-with-vertical-stroke
    tail-with-double-vertical-stroke"⟩,
  ⟨0x2919, "", "leftwards-arrow-tail rightwards-arrow-tail leftwards-double-arrow-tail
    rightwards-double-arrow-tail leftwards-arrow-to-black-diamond
    rightwards-arrow-to-black-diamond leftwards-arrow-from-bar-to-black-diamond
    rightwards-arrow-from-bar-to-black-diamond north-west-and-south-east-arrow
    north-east-and-south-west-arrow north-west-arrow-with-hook north-east-arrow-with-hook
    south-east-arrow-with-hook south-west-arrow-with-hook north-west-arrow-and-north-east-arrow
    north-east-arrow-and-south-east-arrow south-east-arrow-and-south-west-arrow
    south-west-arrow-and-north-west-arrow rising-diagonal-crossing-falling-diagonal
    falling-diagonal-crossing-rising-diagonal south-east-arrow-crossing-north-east-arrow
    north-east-arrow-crossing-south-east-arrow falling-diagonal-crossing-north-east-arrow
    rising-diagonal-crossing-south-east-arrow north-east-arrow-crossing-north-west-arrow
    north-west-arrow-crossing-north-east-arrow wave-arrow-pointing-directly-right"⟩,
  ⟨0x2934, "arrow-pointing-rightwards-then-curving-", "upwards downwards"⟩,
  ⟨0x2936, "arrow-pointing-downwards-then-curving-", "leftwards rightwards"⟩,
  ⟨0x2938, "", "right-side-arc-clockwise-arrow left-side-arc-anticlockwise-arrow
    top-arc-anticlockwise-arrow bottom-arc-anticlockwise-arrow top-arc-clockwise-arrow-with-minus
    top-arc-anticlockwise-arrow-with-plus lower-right-semicircular-clockwise-arrow
    lower-left-semicircular-anticlockwise-arrow anticlockwise-closed-circle-arrow
    clockwise-closed-circle-arrow rightwards-arrow-above-short-leftwards-arrow
    leftwards-arrow-above-short-rightwards-arrow short-rightwards-arrow-above-leftwards-arrow
    rightwards-arrow-with-plus-below leftwards-arrow-with-plus-below rightwards-arrow-through-x
    left-right-arrow-through-small-circle upwards-two-headed-arrow-from-small-circle
    left-barb-up-right-barb-down-harpoon left-barb-down-right-barb-up-harpoon
    up-barb-right-down-barb-left-harpoon up-barb-left-down-barb-right-harpoon
    left-barb-up-right-barb-up-harpoon up-barb-right-down-barb-right-harpoon
    left-barb-down-right-barb-down-harpoon up-barb-left-down-barb-left-harpoon
    leftwards-harpoon-with-barb-up-to-bar rightwards-harpoon-with-barb-up-to-bar
    upwards-harpoon-with-barb-right-to-bar downwards-harpoon-with-barb-right-to-bar
    leftwards-harpoon-with-barb-down-to-bar rightwards-harpoon-with-barb-down-to-bar
    upwards-harpoon-with-barb-left-to-bar downwards-harpoon-with-barb-left-to-bar
    leftwards-harpoon-with-barb-up-from-bar rightwards-harpoon-with-barb-up-from-bar
    upwards-harpoon-with-barb-right-from-bar downwards-harpoon-with-barb-right-from-bar
    leftwards-harpoon-with-barb-down-from-bar rightwards-harpoon-with-barb-down-from-bar
    upwards-harpoon-with-barb-left-from-bar downwards-harpoon-with-barb-left-from-bar
    leftwards-harpoon-with-barb-up-above-leftwards-harpoon-with-barb-down
    upwards-harpoon-with-barb-left-beside-upwards-harpoon-with-barb-right
    rightwards-harpoon-with-barb-up-above-rightwards-harpoon-with-barb-down
    downwards-harpoon-with-barb-left-beside-downwards-harpoon-with-barb-right"⟩,
  ⟨0x2966, "leftwards-harpoon-with-barb-", "up-above-rightwards-harpoon-with-barb-up
    down-above-rightwards-harpoon-with-barb-down"⟩,
  ⟨0x2968, "rightwards-harpoon-with-barb-", "up-above-leftwards-harpoon-with-barb-up
    down-above-leftwards-harpoon-with-barb-down"⟩,
  ⟨0x296A, "leftwards-harpoon-with-barb-", "up-above-long-dash down-below-long-dash"⟩,
  ⟨0x296C, "rightwards-harpoon-with-barb-", "up-above-long-dash down-below-long-dash"⟩,
  ⟨0x296E, "", "upwards-harpoon-with-barb-left-beside-downwards-harpoon-with-barb-right
    downwards-harpoon-with-barb-left-beside-upwards-harpoon-with-barb-right
    right-double-arrow-with-rounded-head equals-sign-above-rightwards-arrow
    tilde-operator-above-rightwards-arrow leftwards-arrow-above-tilde-operator
    rightwards-arrow-above-tilde-operator rightwards-arrow-above-almost-equal-to
    less-than-above-leftwards-arrow leftwards-arrow-through-less-than
    greater-than-above-rightwards-arrow subset-above-rightwards-arrow
    leftwards-arrow-through-subset superset-above-leftwards-arrow left-fish-tail right-fish-tail
    up-fish-tail down-fish-tail triple-vertical-bar-delimiter z-notation-spot
    z-notation-type-colon left-white-curly-bracket right-white-curly-bracket
    left-white-parenthesis right-white-parenthesis"⟩,
  ⟨0x2987, "z-notation-", "left-image-bracket right-image-bracket left-binding-bracket
    right-binding-bracket"⟩,
  ⟨0x298B, "", "left-square-bracket-with-underbar right-square-bracket-with-underbar
    left-square-bracket-with-tick-in-top-corner right-square-bracket-with-tick-in-bottom-corner
    left-square-bracket-with-tick-in-bottom-corner right-square-bracket-with-tick-in-top-corner
    left-angle-bracket-with-dot right-angle-bracket-with-dot left-arc-less-than-bracket
    right-arc-greater-than-bracket double-left-arc-greater-than-bracket
    double-right-arc-less-than-bracket left-black-tortoise-shell-bracket
    right-black-tortoise-shell-bracket dotted-fence vertical-zigzag-line
    measured-angle-opening-left right-angle-variant-with-square measured-right-angle-with-dot
    angle-with-s-inside acute-angle spherical-angle-opening-left spherical-angle-opening-up
    turned-angle reversed-angle angle-with-underbar reversed-angle-with-underbar"⟩,
  ⟨0x29A6, "oblique-angle-opening-", "up down"⟩,
  ⟨0x29A8, "measured-angle-with-open-arm-ending-in-arrow-pointing-", "up-and-right up-and-left
    down-and-right down-and-left right-and-up left-and-up right-and-down left-and-down"⟩,
  ⟨0x29B0, "reversed-empty-", "set"⟩,
  ⟨0x29B1, "empty-set-with-", "overbar small-circle-above right-arrow-above left-arrow-above"⟩,
  ⟨0x29B5, "", "circle-with-horizontal-bar circled-vertical-bar circled-parallel
    circled-reverse-solidus circled-perpendicular
    circle-divided-by-horizontal-bar-and-top-half-divided-by-vertical-bar
    circle-with-superimposed-x circled-anticlockwise-rotated-division-sign
    up-arrow-through-circle"⟩,
  ⟨0x29BE, "circled-", "white-bullet bullet less-than greater-than"⟩,
  ⟨0x29C2, "circle-with-", "small-circle-to-the-right two-horizontal-strokes-to-the-right"⟩,
  ⟨0x29C4, "squared-", "rising-diagonal-slash falling-diagonal-slash asterisk small-circle square"⟩,
  ⟨0x29C9, "", "two-joined-squares triangle-with-dot-above triangle-with-underbar s-in-triangle
    triangle-with-serifs-at-bottom right-triangle-above-left-triangle
    left-triangle-beside-vertical-bar vertical-bar-beside-right-triangle
    bowtie-with-left-half-black bowtie-with-right-half-black black-bowtie
    times-with-left-half-black times-with-right-half-black white-hourglass black-hourglass
    left-wiggly-fence right-wiggly-fence left-double-wiggly-fence right-double-wiggly-fence
    incomplete-infinity tie-over-infinity infinity-negated-with-vertical-bar
    double-ended-multimap square-with-contoured-outline increases-as shuffle-product
    equals-sign-and-slanted-parallel equals-sign-and-slanted-parallel-with-tilde-above
    identical-to-and-slanted-parallel gleich-stark thermodynamic
    down-pointing-triangle-with-left-half-black down-pointing-triangle-with-right-half-black
    black-diamond-with-down-arrow black-lozenge white-circle-with-down-arrow
    black-circle-with-down-arrow"⟩,
  ⟨0x29EE, "error-barred-", "white-square black-square white-diamond black-diamond white-circle
    black-circle"⟩,
  ⟨0x29F4, "", "rule-delayed reverse-solidus-operator solidus-with-overbar
    reverse-solidus-with-horizontal-stroke big-solidus big-reverse-solidus double-plus
    triple-plus left-pointing-curved-angle-bracket right-pointing-curved-angle-bracket tiny miny"⟩,
  ⟨0x2A00, "n-ary-circled-", "dot-operator plus-operator times-operator"⟩,
  ⟨0x2A03, "n-ary-union-operator-with-", "dot plus"⟩,
  ⟨0x2A05, "", "n-ary-square-intersection-operator n-ary-square-union-operator
    two-logical-and-operator two-logical-or-operator n-ary-times-operator modulo-two-sum
    summation-with-integral quadruple-integral-operator finite-part-integral
    integral-with-double-stroke integral-average-with-slash circulation-function
    anticlockwise-integration"⟩,
  ⟨0x2A12, "line-integration-", "with-rectangular-path-around-pole
    with-semicircular-path-around-pole not-including-the-pole"⟩,
  ⟨0x2A15, "", "integral-around-a-point-operator quaternion-integral-operator"⟩,
  ⟨0x2A17, "integral-with-", "leftwards-arrow-with-hook times-sign intersection union overbar
    underbar"⟩,
  ⟨0x2A1D, "", "join large-left-triangle-operator"⟩,
  ⟨0x2A1F, "z-notation-schema-", "composition piping projection"⟩,
  ⟨0x2A22, "plus-sign-with-", "small-circle-above circumflex-accent-above tilde-above dot-below
    tilde-below subscript-two black-triangle"⟩,
  ⟨0x2A29, "minus-sign-with-", "comma-above dot-below falling-dots rising-dots"⟩,
  ⟨0x2A2D, "", "plus-sign-in-left-half-circle plus-sign-in-right-half-circle
    vector-or-cross-product multiplication-sign-with-dot-above multiplication-sign-with-underbar
    semidirect-product-with-bottom-closed smash-product multiplication-sign-in-left-half-circle
    multiplication-sign-in-right-half-circle circled-multiplication-sign-with-circumflex-accent
    multiplication-sign-in-double-circle circled-division-sign plus-sign-in-triangle
    minus-sign-in-triangle multiplication-sign-in-triangle interior-product
    righthand-interior-product z-notation-relational-composition amalgamation-or-coproduct
    intersection-with-dot union-with-minus-sign union-with-overbar intersection-with-overbar
    intersection-with-logical-and union-with-logical-or union-above-intersection
    intersection-above-union union-above-bar-above-intersection
    intersection-above-bar-above-union union-beside-and-joined-with-union
    intersection-beside-and-joined-with-intersection closed-union-with-serifs
    closed-intersection-with-serifs double-square-intersection double-square-union
    closed-union-with-serifs-and-smash-product logical-and-with-dot-above
    logical-or-with-dot-above"⟩,
  ⟨0x2A53, "double-logical-", "and or"⟩,
  ⟨0x2A55, "two-intersecting-logical-", "and or"⟩,
  ⟨0x2A57, "sloping-large-", "or and"⟩,
  ⟨0x2A59, "logical-", "or-overlapping-logical-and and-with-middle-stem or-with-middle-stem
    and-with-horizontal-dash or-with-horizontal-dash and-with-double-overbar and-with-underbar
    and-with-double-underbar"⟩,
  ⟨0x2A61, "", "small-vee-with-underbar logical-or-with-double-overbar
    logical-or-with-double-underbar z-notation-domain-antirestriction
    z-notation-range-antirestriction equals-sign-with-dot-below identical-with-dot-above"⟩,
  ⟨0x2A68, "triple-horizontal-bar-with-", "double-vertical-stroke triple-vertical-stroke"⟩,
  ⟨0x2A6A, "tilde-operator-with-", "dot-above rising-dots"⟩,
  ⟨0x2A6C, "", "similar-minus-similar congruent-with-dot-above equals-with-asterisk
    almost-equal-to-with-circumflex-accent approximately-equal-or-equal-to
    equals-sign-above-plus-sign plus-sign-above-equals-sign equals-sign-above-tilde-operator
    double-colon-equal two-consecutive-equals-signs three-consecutive-equals-signs
    equals-sign-with-two-dots-above-and-two-dots-below equivalent-with-four-dots-above
    less-than-with-circle-inside greater-than-with-circle-inside
    less-than-with-question-mark-above greater-than-with-question-mark-above
    less-than-or-slanted-equal-to greater-than-or-slanted-equal-to
    less-than-or-slanted-equal-to-with-dot-inside
    greater-than-or-slanted-equal-to-with-dot-inside less-than-or-slanted-equal-to-with-dot-above
    greater-than-or-slanted-equal-to-with-dot-above
    less-than-or-slanted-equal-to-with-dot-above-right
    greater-than-or-slanted-equal-to-with-dot-above-left less-than-or-approximate
    greater-than-or-approximate less-than-and-single-line-not-equal-to
    greater-than-and-single-line-not-equal-to less-than-and-not-approximate
    greater-than-and-not-approximate less-than-above-double-line-equal-above-greater-than
    greater-than-above-double-line-equal-above-less-than less-than-above-similar-or-equal
    greater-than-above-similar-or-equal less-than-above-similar-above-greater-than
    greater-than-above-similar-above-less-than
    less-than-above-greater-than-above-double-line-equal
    greater-than-above-less-than-above-double-line-equal
    less-than-above-slanted-equal-above-greater-than-above-slanted-equal
    greater-than-above-slanted-equal-above-less-than-above-slanted-equal"⟩,
  ⟨0x2A95, "slanted-equal-to-or-", "less-than greater-than less-than-with-dot-inside
    greater-than-with-dot-inside"⟩,
  ⟨0x2A99, "double-line-equal-to-or-", "less-than greater-than"⟩,
  ⟨0x2A9B, "double-line-slanted-equal-to-or-", "less-than greater-than"⟩,
  ⟨0x2A9D, "similar-", "or-less-than or-greater-than above-less-than-above-equals-sign
    above-greater-than-above-equals-sign"⟩,
  ⟨0x2AA1, "double-nested-", "less-than greater-than less-than-with-underbar"⟩,
  ⟨0x2AA4, "", "greater-than-overlapping-less-than greater-than-beside-less-than
    less-than-closed-by-curve greater-than-closed-by-curve
    less-than-closed-by-curve-above-slanted-equal
    greater-than-closed-by-curve-above-slanted-equal smaller-than larger-than
    smaller-than-or-equal-to larger-than-or-equal-to equals-sign-with-bumpy-above
    precedes-above-single-line-equals-sign succeeds-above-single-line-equals-sign
    precedes-above-single-line-not-equal-to succeeds-above-single-line-not-equal-to
    precedes-above-equals-sign succeeds-above-equals-sign precedes-above-not-equal-to
    succeeds-above-not-equal-to precedes-above-almost-equal-to succeeds-above-almost-equal-to
    precedes-above-not-almost-equal-to succeeds-above-not-almost-equal-to double-precedes
    double-succeeds subset-with-dot superset-with-dot subset-with-plus-sign-below
    superset-with-plus-sign-below subset-with-multiplication-sign-below
    superset-with-multiplication-sign-below subset-of-or-equal-to-with-dot-above
    superset-of-or-equal-to-with-dot-above subset-of-above-equals-sign
    superset-of-above-equals-sign subset-of-above-tilde-operator superset-of-above-tilde-operator
    subset-of-above-almost-equal-to superset-of-above-almost-equal-to
    subset-of-above-not-equal-to superset-of-above-not-equal-to square-left-open-box-operator
    square-right-open-box-operator closed-subset closed-superset closed-subset-or-equal-to
    closed-superset-or-equal-to subset-above-superset superset-above-subset subset-above-subset
    superset-above-superset superset-beside-subset superset-beside-and-joined-by-dash-with-subset
    element-of-opening-downwards pitchfork-with-tee-top transversal-intersection forking
    nonforking short-left-tack short-down-tack short-up-tack perpendicular-with-s
    vertical-bar-triple-right-turnstile double-vertical-bar-left-turnstile
    vertical-bar-double-left-turnstile double-vertical-bar-double-left-turnstile
    long-dash-from-left-member-of-double-vertical short-down-tack-with-overbar
    short-up-tack-with-underbar short-up-tack-above-short-down-tack double-down-tack
    double-up-tack double-stroke-not-sign reversed-double-stroke-not-sign
    does-not-divide-with-reversed-negation-slash vertical-line-with-circle-above
    vertical-line-with-circle-below down-tack-with-circle-below parallel-with-horizontal-stroke
    parallel-with-tilde-operator"⟩,
  ⟨0x2AF4, "triple-", "vertical-bar-binary-relation vertical-bar-with-horizontal-stroke
    colon-operator nested-less-than nested-greater-than"⟩,
  ⟨0x2AF9, "double-line-slanted-", "less-than-or-equal-to greater-than-or-equal-to"⟩,
  ⟨0x2AFB, "", "triple-solidus-binary-relation large-triple-vertical-bar-operator
    double-solidus-operator white-vertical-bar n-ary-white-vertical-bar north-east-white-arrow
    north-west-white-arrow south-east-white-arrow south-west-white-arrow left-right-white-arrow
    leftwards-black-arrow upwards-black-arrow downwards-black-arrow north-east-black-arrow
    north-west-black-arrow south-east-black-arrow south-west-black-arrow left-right-black-arrow
    up-down-black-arrow"⟩,
  ⟨0x2B0E, "rightwards-arrow-with-tip-", "downwards upwards"⟩,
  ⟨0x2B10, "leftwards-arrow-with-tip-", "downwards upwards"⟩,
  ⟨0x2B12, "square-with-", "top-half-black bottom-half-black upper-right-diagonal-half-black
    lower-left-diagonal-half-black"⟩,
  ⟨0x2B16, "diamond-with-", "left-half-black right-half-black top-half-black bottom-half-black"⟩,
  ⟨0x2B1A, "", "dotted-square black-large-square white-large-square black-very-small-square
    white-very-small-square black-pentagon white-pentagon white-hexagon black-hexagon
    horizontal-black-hexagon black-large-circle black-medium-diamond white-medium-diamond
    black-medium-lozenge white-medium-lozenge black-small-diamond black-small-lozenge
    white-small-lozenge black-horizontal-ellipse white-horizontal-ellipse black-vertical-ellipse
    white-vertical-ellipse left-arrow-with-small-circle three-leftwards-arrows
    left-arrow-with-circled-plus long-leftwards-squiggle-arrow"⟩,
  ⟨0x2B34, "leftwards-two-headed-", "arrow-with-vertical-stroke arrow-with-double-vertical-stroke
    arrow-from-bar triple-dash-arrow"⟩,
  ⟨0x2B38, "leftwards-arrow-with-", "dotted-stem tail-with-vertical-stroke
    tail-with-double-vertical-stroke"⟩,
  ⟨0x2B3B, "leftwards-two-headed-arrow-with-", "tail tail-with-vertical-stroke
    tail-with-double-vertical-stroke"⟩,
  ⟨0x2B3E, "", "leftwards-arrow-through-x wave-arrow-pointing-directly-left
    equals-sign-above-leftwards-arrow reverse-tilde-operator-above-leftwards-arrow
    leftwards-arrow-above-reverse-almost-equal-to rightwards-arrow-through-greater-than
    rightwards-arrow-through-superset leftwards-quadruple-arrow rightwards-quadruple-arrow
    reverse-tilde-operator-above-rightwards-arrow rightwards-arrow-above-reverse-almost-equal-to
    tilde-operator-above-leftwards-arrow leftwards-arrow-above-almost-equal-to
    leftwards-arrow-above-reverse-tilde-operator rightwards-arrow-above-reverse-tilde-operator
    downwards-triangle-headed-zigzag-arrow short-slanted-north-arrow
    short-backslanted-south-arrow white-medium-star black-small-star white-small-star
    black-right-pointing-pentagon white-right-pointing-pentagon heavy-large-circle
    heavy-oval-with-oval-inside heavy-circle-with-circle-inside heavy-circle
    heavy-circled-saltire slanted-north-arrow-with-hooked-head
    backslanted-south-arrow-with-hooked-tail slanted-north-arrow-with-horizontal-tail
    backslanted-south-arrow-with-horizontal-tail bent-arrow-pointing-downwards-then-north-east
    short-bent-arrow-pointing-downwards-then-north-east leftwards-triangle-headed-arrow
    upwards-triangle-headed-arrow rightwards-triangle-headed-arrow
    downwards-triangle-headed-arrow left-right-triangle-headed-arrow
    up-down-triangle-headed-arrow north-west-triangle-headed-arrow
    north-east-triangle-headed-arrow south-east-triangle-headed-arrow
    south-west-triangle-headed-arrow leftwards-triangle-headed-dashed-arrow
    upwards-triangle-headed-dashed-arrow rightwards-triangle-headed-dashed-arrow
    downwards-triangle-headed-dashed-arrow clockwise-triangle-headed-open-circle-arrow
    anticlockwise-triangle-headed-open-circle-arrow leftwards-triangle-headed-arrow-to-bar
    upwards-triangle-headed-arrow-to-bar rightwards-triangle-headed-arrow-to-bar
    downwards-triangle-headed-arrow-to-bar"⟩,
  ⟨0x2B76, "", "north-west-triangle-headed-arrow-to-bar north-east-triangle-headed-arrow-to-bar
    south-east-triangle-headed-arrow-to-bar south-west-triangle-headed-arrow-to-bar
    leftwards-triangle-headed-arrow-with-double-horizontal-stroke
    upwards-triangle-headed-arrow-with-double-horizontal-stroke
    rightwards-triangle-headed-arrow-with-double-horizontal-stroke
    downwards-triangle-headed-arrow-with-double-horizontal-stroke horizontal-tab-key
    vertical-tab-key leftwards-triangle-headed-arrow-over-rightwards-triangle-headed-arrow
    upwards-triangle-headed-arrow-leftwards-of-downwards-triangle-headed-arrow
    rightwards-triangle-headed-arrow-over-leftwards-triangle-headed-arrow
    downwards-triangle-headed-arrow-leftwards-of-upwards-triangle-headed-arrow
    leftwards-triangle-headed-paired-arrows upwards-triangle-headed-paired-arrows
    rightwards-triangle-headed-paired-arrows downwards-triangle-headed-paired-arrows
    leftwards-black-circled-white-arrow upwards-black-circled-white-arrow
    rightwards-black-circled-white-arrow downwards-black-circled-white-arrow"⟩,
  ⟨0x2B8C, "anticlockwise-triangle-headed-", "right-u-shaped-arrow bottom-u-shaped-arrow
    left-u-shaped-arrow top-u-shaped-arrow"⟩,
  ⟨0x2B90, "", "return-left return-right newline-left newline-right
    four-corner-arrows-circling-anticlockwise rightwards-black-arrow"⟩,
  ⟨0x2B97, "symbol-for-type-a-", "electronics"⟩,
  ⟨0x2B98, "three-d-", "top-lighted-leftwards-equilateral-arrowhead
    right-lighted-upwards-equilateral-arrowhead top-lighted-rightwards-equilateral-arrowhead
    left-lighted-downwards-equilateral-arrowhead"⟩,
  ⟨0x2B9C, "black-", "leftwards-equilateral-arrowhead upwards-equilateral-arrowhead
    rightwards-equilateral-arrowhead downwards-equilateral-arrowhead"⟩,
  ⟨0x2BA0, "downwards-triangle-headed-arrow-with-long-tip-", "leftwards rightwards"⟩,
  ⟨0x2BA2, "upwards-triangle-headed-arrow-with-long-tip-", "leftwards rightwards"⟩,
  ⟨0x2BA4, "", "leftwards-triangle-headed-arrow-with-long-tip-upwards
    rightwards-triangle-headed-arrow-with-long-tip-upwards
    leftwards-triangle-headed-arrow-with-long-tip-downwards
    rightwards-triangle-headed-arrow-with-long-tip-downwards"⟩,
  ⟨0x2BA8, "black-curved-", "downwards-and-leftwards-arrow downwards-and-rightwards-arrow
    upwards-and-leftwards-arrow upwards-and-rightwards-arrow leftwards-and-upwards-arrow
    rightwards-and-upwards-arrow leftwards-and-downwards-arrow rightwards-and-downwards-arrow"⟩,
  ⟨0x2BB0, "ribbon-arrow-", "down-left down-right up-left up-right left-up right-up left-down
    right-down"⟩,
  ⟨0x2BB8, "", "upwards-white-arrow-from-bar-with-horizontal-bar up-arrowhead-in-a-rectangle-box
    overlapping-white-squares overlapping-white-and-black-squares overlapping-black-squares
    ballot-box-with-light-x circled-x circled-bold-x black-square-centred black-diamond-centred
    turned-black-pentagon horizontal-black-octagon black-octagon"⟩,
  ⟨0x2BC5, "black-medium-", "up-pointing-triangle-centred down-pointing-triangle-centred
    left-pointing-triangle-centred right-pointing-triangle-centred"⟩,
  ⟨0x2BC9, "", "neptune-form-two top-half-black-circle bottom-half-black-circle
    light-four-pointed-black-cusp rotated-light-four-pointed-black-cusp white-four-pointed-cusp
    rotated-white-four-pointed-cusp square-position-indicator uncertainty-sign group-mark"⟩,
  ⟨0x2BD3, "pluto-form-", "two three four five"⟩,
  ⟨0x2BD7, "", "transpluto proserpina astraea hygiea pholus nessus white-moon-selena
    black-diamond-on-cross true-light-moon-arta cupido hades zeus kronos apollon admetos vulcanus
    poseidon left-half-black-star right-half-black-star star-with-left-half-black
    star-with-right-half-black leftwards-two-headed-arrow-with-triangle-arrowheads
    upwards-two-headed-arrow-with-triangle-arrowheads
    rightwards-two-headed-arrow-with-triangle-arrowheads
    downwards-two-headed-arrow-with-triangle-arrowheads eris-form-one eris-form-two sedna"⟩,
  ⟨0x2BF3, "russian-astrological-symbol-", "vigintile novile quintile binovile sentagon tredecile"⟩,
  ⟨0x2BF9, "", "equals-sign-with-infinity-below united-symbol separated-symbol doubled-symbol
    passed-symbol reversed-right-angle hellschreiber-pause-symbol"⟩]

end Dictation.Unicode.Name
