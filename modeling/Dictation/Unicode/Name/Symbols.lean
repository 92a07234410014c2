import Dictation.Unicode.Name.Block
/-!
# Punctuation and symbols

Spoken names from 0x2000 on, as of Unicode 16: punctuation, letterlike symbols and arrows, and then
technical symbols and shapes.
-/
namespace Dictation.Unicode.Name

set_option maxRecDepth 10000 in
/-- Punctuation, letterlike symbols and arrows. -/
def punctuationBlocks : List Block := [
  ⟨0x2000, "", "en-quad em-quad en-space em-space three-per-em-space four-per-em-space
    six-per-em-space figure-space punctuation-space thin-space hair-space zero-width-space
    zero-width-non-joiner zero-width-joiner left-to-right-mark right-to-left-mark hyphen
    non-breaking-hyphen figure-dash en-dash em-dash horizontal-bar double-vertical-line
    double-low-line left-single-quotation-mark right-single-quotation-mark
    single-low-9-quotation-mark single-high-reversed-9-quotation-mark left-double-quotation-mark
    right-double-quotation-mark double-low-9-quotation-mark double-high-reversed-9-quotation-mark
    dagger double-dagger bullet triangular-bullet one-dot-leader two-dot-leader
    horizontal-ellipsis hyphenation-point line-separator paragraph-separator
    left-to-right-embedding right-to-left-embedding pop-directional-formatting
    left-to-right-override right-to-left-override narrow-no-break-space per-mille-sign
    per-ten-thousand-sign prime double-prime triple-prime reversed-prime reversed-double-prime
    reversed-triple-prime caret single-left-pointing-angle-quotation-mark
    single-right-pointing-angle-quotation-mark reference-mark double-exclamation-mark interrobang
    overline undertie character-tie caret-insertion-point asterism hyphen-bullet fraction-slash
    left-square-bracket-with-quill right-square-bracket-with-quill double-question-mark
    question-exclamation-mark exclamation-question-mark tironian-sign-et reversed-pilcrow-sign
    black-leftwards-bullet black-rightwards-bullet low-asterisk reversed-semicolon close-up
    two-asterisks-aligned-vertically commercial-minus-sign swung-dash inverted-undertie
    flower-punctuation-mark three-dot-punctuation quadruple-prime four-dot-punctuation
    five-dot-punctuation two-dot-punctuation four-dot-mark dotted-cross tricolon
    vertical-four-dots medium-mathematical-space word-joiner function-application"⟩,
  ⟨0x2062, "invisible-", "times separator plus"⟩,
  ⟨0x2066, "", "left-to-right-isolate right-to-left-isolate first-strong-isolate
    pop-directional-isolate inhibit-symmetric-swapping activate-symmetric-swapping
    inhibit-arabic-form-shaping activate-arabic-form-shaping national-digit-shapes
    nominal-digit-shapes superscript-zero superscript-latin-small-letter-i"⟩,
  ⟨0x2074, "superscript-", "four five six seven eight nine plus-sign minus equals-sign
    left-parenthesis right-parenthesis latin-small-letter-n"⟩,
  ⟨0x2080, "subscript-", "zero one two three four five six seven eight nine plus-sign minus
    equals-sign left-parenthesis right-parenthesis"⟩,
  ⟨0x2090, "latin-subscript-small-letter-", "a e o x schwa h k l m n p s t"⟩,
  ⟨0x20A0, "", "euro-currency-sign colon-sign cruzeiro-sign french-franc-sign lira-sign mill-sign
    naira-sign peseta-sign rupee-sign won-sign new-sheqel-sign dong-sign euro-sign kip-sign
    tugrik-sign drachma-sign german-penny-sign peso-sign guarani-sign austral-sign hryvnia-sign
    cedi-sign livre-tournois-sign spesmilo-sign tenge-sign indian-rupee-sign turkish-lira-sign
    nordic-mark-sign manat-sign ruble-sign lari-sign bitcoin-sign som-sign"⟩,
  ⟨0x20D0, "combining-", "left-harpoon-above right-harpoon-above long-vertical-line-overlay
    short-vertical-line-overlay anticlockwise-arrow-above clockwise-arrow-above left-arrow-above
    right-arrow-above ring-overlay clockwise-ring-overlay anticlockwise-ring-overlay
    three-dots-above four-dots-above enclosing-circle enclosing-square enclosing-diamond
    enclosing-circle-backslash left-right-arrow-above enclosing-screen enclosing-keycap
    enclosing-upward-pointing-triangle reverse-solidus-overlay double-vertical-stroke-overlay
    annuity-symbol triple-underdot wide-bridge-above leftwards-arrow-overlay
    long-double-solidus-overlay rightwards-harpoon-with-barb-downwards
    leftwards-harpoon-with-barb-downwards left-arrow-below right-arrow-below asterisk-above"⟩,
  ⟨0x2100, "", "account-of addressed-to-the-subject double-struck-capital-c degree-celsius
    centre-line-symbol care-of cada-una euler-constant scruple degree-fahrenheit script-small-g
    script-capital-h black-letter-capital-h double-struck-capital-h planck-constant
    planck-constant-over-two-pi script-capital-i black-letter-capital-i script-capital-l
    script-small-l l-b-bar-symbol double-struck-capital-n numero-sign sound-recording-copyright
    script-capital-p double-struck-capital-p double-struck-capital-q script-capital-r
    black-letter-capital-r double-struck-capital-r prescription-take response service-mark
    telephone-sign trade-mark-sign versicle double-struck-capital-z ounce-sign ohm-sign
    inverted-ohm-sign black-letter-capital-z turned-greek-small-letter-iota kelvin-sign
    angstrom-sign script-capital-b black-letter-capital-c estimated-symbol script-small-e
    script-capital-e script-capital-f turned-capital-f script-capital-m script-small-o
    alef-symbol bet-symbol gimel-symbol dalet-symbol information-source rotated-capital-q
    facsimile-sign"⟩,
  ⟨0x213C, "double-struck-", "small-pi small-gamma capital-gamma capital-pi n-ary-summation"⟩,
  ⟨0x2141, "turned-sans-serif-capital-", "g l"⟩,
  ⟨0x2143, "", "reversed-sans-serif-capital-l turned-sans-serif-capital-y"⟩,
  ⟨0x2145, "double-struck-italic-", "capital-d small-d small-e small-i small-j"⟩,
  ⟨0x214A, "", "property-line turned-ampersand per-sign aktieselskab turned-small-f
    symbol-for-samaritan-source"⟩,
  ⟨0x2150, "vulgar-fraction-", "one-seventh one-ninth one-tenth one-third two-thirds one-fifth
    two-fifths three-fifths four-fifths one-sixth five-sixths one-eighth three-eighths
    five-eighths seven-eighths"⟩,
  ⟨0x215F, "fraction-numerator-", "one"⟩,
  ⟨0x2160, "roman-numeral-", "one two three four five six seven eight nine ten eleven twelve
    fifty one-hundred five-hundred one-thousand"⟩,
  ⟨0x2170, "small-roman-numeral-", "one two three four five six seven eight nine ten eleven
    twelve fifty one-hundred five-hundred one-thousand"⟩,
  ⟨0x2180, "roman-numeral-", "one-thousand-c-d five-thousand ten-thousand reversed-one-hundred"⟩,
  ⟨0x2184, "latin-small-letter-reversed-", "c"⟩,
  ⟨0x2185, "roman-numeral-", "six-late-form fifty-early-form fifty-thousand one-hundred-thousand"⟩,
  ⟨0x2189, "", "vulgar-fraction-zero-thirds turned-digit-two turned-digit-three"⟩,
  ⟨0x2190, "", "leftwards-arrow upwards-arrow rightwards-arrow downwards-arrow left-right-arrow
    up-down-arrow north-west-arrow north-east-arrow south-east-arrow south-west-arrow
    leftwards-arrow-with-stroke rightwards-arrow-with-stroke leftwards-wave-arrow
    rightwards-wave-arrow leftwards-two-headed-arrow upwards-two-headed-arrow
    rightwards-two-headed-arrow downwards-two-headed-arrow leftwards-arrow-with-tail
    rightwards-arrow-with-tail leftwards-arrow-from-bar upwards-arrow-from-bar
    rightwards-arrow-from-bar downwards-arrow-from-bar up-down-arrow-with-base
    leftwards-arrow-with-hook rightwards-arrow-with-hook leftwards-arrow-with-loop
    rightwards-arrow-with-loop left-right-wave-arrow left-right-arrow-with-stroke
    downwards-zigzag-arrow"⟩,
  ⟨0x21B0, "upwards-arrow-with-tip-", "leftwards rightwards"⟩,
  ⟨0x21B2, "downwards-arrow-with-tip-", "leftwards rightwards"⟩,
  ⟨0x21B4, "", "rightwards-arrow-with-corner-downwards downwards-arrow-with-corner-leftwards
    anticlockwise-top-semicircle-arrow clockwise-top-semicircle-arrow
    north-west-arrow-to-long-bar leftwards-arrow-to-bar-over-rightwards-arrow-to-bar
    anticlockwise-open-circle-arrow clockwise-open-circle-arrow"⟩,
  ⟨0x21BC, "leftwards-harpoon-with-barb-", "upwards downwards"⟩,
  ⟨0x21BE, "upwards-harpoon-with-barb-", "rightwards leftwards"⟩,
  ⟨0x21C0, "rightwards-harpoon-with-barb-", "upwards downwards"⟩,
  ⟨0x21C2, "downwards-harpoon-with-barb-", "rightwards leftwards"⟩,
  ⟨0x21C4, "", "rightwards-arrow-over-leftwards-arrow upwards-arrow-leftwards-of-downwards-arrow
    leftwards-arrow-over-rightwards-arrow leftwards-paired-arrows upwards-paired-arrows
    rightwards-paired-arrows downwards-paired-arrows leftwards-harpoon-over-rightwards-harpoon
    rightwards-harpoon-over-leftwards-harpoon leftwards-double-arrow-with-stroke
    left-right-double-arrow-with-stroke rightwards-double-arrow-with-stroke
    leftwards-double-arrow upwards-double-arrow rightwards-double-arrow downwards-double-arrow
    left-right-double-arrow up-down-double-arrow north-west-double-arrow north-east-double-arrow
    south-east-double-arrow south-west-double-arrow leftwards-triple-arrow
    rightwards-triple-arrow leftwards-squiggle-arrow rightwards-squiggle-arrow
    upwards-arrow-with-double-stroke downwards-arrow-with-double-stroke leftwards-dashed-arrow
    upwards-dashed-arrow rightwards-dashed-arrow downwards-dashed-arrow leftwards-arrow-to-bar
    rightwards-arrow-to-bar leftwards-white-arrow upwards-white-arrow rightwards-white-arrow
    downwards-white-arrow"⟩,
  ⟨0x21EA, "upwards-white-", "arrow-from-bar arrow-on-pedestal
    arrow-on-pedestal-with-horizontal-bar arrow-on-pedestal-with-vertical-bar double-arrow
    double-arrow-on-pedestal"⟩,
  ⟨0x21F0, "", "rightwards-white-arrow-from-wall north-west-arrow-to-corner
    south-east-arrow-to-corner up-down-white-arrow right-arrow-with-small-circle
    downwards-arrow-leftwards-of-upwards-arrow three-rightwards-arrows
    leftwards-arrow-with-vertical-stroke rightwards-arrow-with-vertical-stroke
    left-right-arrow-with-vertical-stroke leftwards-arrow-with-double-vertical-stroke
    rightwards-arrow-with-double-vertical-stroke left-right-arrow-with-double-vertical-stroke
    leftwards-open-headed-arrow rightwards-open-headed-arrow left-right-open-headed-arrow for-all
    complement partial-differential there-exists there-does-not-exist empty-set increment nabla
    element-of not-an-element-of small-element-of contains-as-member does-not-contain-as-member
    small-contains-as-member end-of-proof n-ary-product n-ary-coproduct n-ary-summation
    minus-sign minus-or-plus-sign dot-plus division-slash set-minus asterisk-operator
    ring-operator bullet-operator square-root cube-root fourth-root proportional-to infinity
    right-angle angle measured-angle spherical-angle divides does-not-divide parallel-to
    not-parallel-to logical-and logical-or intersection union integral double-integral
    triple-integral contour-integral surface-integral volume-integral clockwise-integral
    clockwise-contour-integral anticlockwise-contour-integral therefore because ratio proportion
    dot-minus excess geometric-proportion homothetic tilde-operator reversed-tilde
    inverted-lazy-s sine-wave wreath-product not-tilde minus-tilde asymptotically-equal-to
    not-asymptotically-equal-to approximately-equal-to approximately-but-not-actually-equal-to
    neither-approximately-nor-actually-equal-to almost-equal-to not-almost-equal-to
    almost-equal-or-equal-to triple-tilde all-equal-to equivalent-to geometrically-equivalent-to
    difference-between approaches-the-limit geometrically-equal-to
    approximately-equal-to-or-the-image-of image-of-or-approximately-equal-to colon-equals
    equals-colon ring-in-equal-to ring-equal-to corresponds-to estimates equiangular-to
    star-equals delta-equal-to equal-to-by-definition measured-by questioned-equal-to
    not-equal-to identical-to not-identical-to strictly-equivalent-to less-than-or-equal-to
    greater-than-or-equal-to less-than-over-equal-to greater-than-over-equal-to
    less-than-but-not-equal-to greater-than-but-not-equal-to much-less-than much-greater-than
    between not-equivalent-to not-less-than not-greater-than neither-less-than-nor-equal-to
    neither-greater-than-nor-equal-to less-than-or-equivalent-to greater-than-or-equivalent-to
    neither-less-than-nor-equivalent-to neither-greater-than-nor-equivalent-to
    less-than-or-greater-than greater-than-or-less-than neither-less-than-nor-greater-than
    neither-greater-than-nor-less-than precedes succeeds precedes-or-equal-to
    succeeds-or-equal-to precedes-or-equivalent-to succeeds-or-equivalent-to does-not-precede
    does-not-succeed subset-of superset-of not-a-subset-of not-a-superset-of
    subset-of-or-equal-to superset-of-or-equal-to neither-a-subset-of-nor-equal-to
    neither-a-superset-of-nor-equal-to subset-of-with-not-equal-to superset-of-with-not-equal-to
    multiset multiset-multiplication multiset-union"⟩,
  ⟨0x228F, "square-", "image-of original-of image-of-or-equal-to original-of-or-equal-to cap cup"⟩,
  ⟨0x2295, "circled-", "plus minus times division-slash dot-operator ring-operator
    asterisk-operator equals dash"⟩,
  ⟨0x229E, "squared-", "plus minus times dot-operator"⟩,
  ⟨0x22A2, "", "right-tack left-tack down-tack up-tack assertion models true forces
    triple-vertical-bar-right-turnstile double-vertical-bar-double-right-turnstile does-not-prove
    not-true does-not-force negated-double-vertical-bar-double-right-turnstile
    precedes-under-relation succeeds-under-relation normal-subgroup-of
    contains-as-normal-subgroup normal-subgroup-of-or-equal-to
    contains-as-normal-subgroup-or-equal-to original-of image-of multimap
    hermitian-conjugate-matrix intercalate xor nand nor right-angle-with-arc right-triangle
    n-ary-logical-and n-ary-logical-or n-ary-intersection n-ary-union diamond-operator
    dot-operator star-operator division-times bowtie left-normal-factor-semidirect-product
    right-normal-factor-semidirect-product left-semidirect-product right-semidirect-product
    reversed-tilde-equals curly-logical-or curly-logical-and double-subset double-superset
    double-intersection double-union pitchfork equal-and-parallel-to less-than-with-dot
    greater-than-with-dot very-much-less-than very-much-greater-than
    less-than-equal-to-or-greater-than greater-than-equal-to-or-less-than"⟩,
  ⟨0x22DC, "equal-to-or-", "less-than greater-than precedes succeeds"⟩,
  ⟨0x22E0, "", "does-not-precede-or-equal does-not-succeed-or-equal
    not-square-image-of-or-equal-to not-square-original-of-or-equal-to
    square-image-of-or-not-equal-to square-original-of-or-not-equal-to
    less-than-but-not-equivalent-to greater-than-but-not-equivalent-to
    precedes-but-not-equivalent-to succeeds-but-not-equivalent-to not-normal-subgroup-of
    does-not-contain-as-normal-subgroup not-normal-subgroup-of-or-equal-to
    does-not-contain-as-normal-subgroup-or-equal vertical-ellipsis midline-horizontal-ellipsis
    up-right-diagonal-ellipsis down-right-diagonal-ellipsis
    element-of-with-long-horizontal-stroke
    element-of-with-vertical-bar-at-end-of-horizontal-stroke
    small-element-of-with-vertical-bar-at-end-of-horizontal-stroke element-of-with-dot-above
    element-of-with-overbar small-element-of-with-overbar element-of-with-underbar
    element-of-with-two-horizontal-strokes contains-with-long-horizontal-stroke
    contains-with-vertical-bar-at-end-of-horizontal-stroke
    small-contains-with-vertical-bar-at-end-of-horizontal-stroke contains-with-overbar
    small-contains-with-overbar z-notation-bag-membership"⟩]

set_option maxRecDepth 10000 in
def technicalBlocks : List Block := [
  ⟨0x2300, "", "diameter-sign electric-arrow house up-arrowhead down-arrowhead projective
    perspective wavy-line left-ceiling right-ceiling left-floor right-floor bottom-right-crop
    bottom-left-crop top-right-crop top-left-crop reversed-not-sign square-lozenge arc segment
    sector telephone-recorder position-indicator viewdata-square place-of-interest-sign
    turned-not-sign watch hourglass top-left-corner top-right-corner bottom-left-corner
    bottom-right-corner top-half-integral bottom-half-integral frown smile
    up-arrowhead-between-two-horizontal-bars option-key erase-to-the-right x-in-a-rectangle-box
    keyboard left-pointing-angle-bracket right-pointing-angle-bracket erase-to-the-left
    benzene-ring cylindricity all-around-profile symmetry total-runout dimension-origin
    conical-taper slope counterbore countersink"⟩,
  ⟨0x2336, "apl-functional-symbol-", "i-beam squish-quad quad-equal quad-divide quad-diamond
    quad-jot quad-circle circle-stile circle-jot slash-bar backslash-bar quad-slash
    quad-backslash quad-less-than quad-greater-than leftwards-vane rightwards-vane
    quad-leftwards-arrow quad-rightwards-arrow circle-backslash down-tack-underbar delta-stile
    quad-down-caret quad-delta down-tack-jot upwards-vane quad-upwards-arrow up-tack-overbar
    del-stile quad-up-caret quad-del up-tack-jot downwards-vane quad-downwards-arrow
    quote-underbar delta-underbar diamond-underbar jot-underbar circle-underbar up-shoe-jot
    quote-quad circle-star quad-colon up-tack-diaeresis del-diaeresis star-diaeresis
    jot-diaeresis circle-diaeresis down-shoe-stile left-shoe-stile tilde-diaeresis
    greater-than-diaeresis comma-bar del-tilde zilde stile-tilde semicolon-underbar
    quad-not-equal quad-question down-caret-tilde up-caret-tilde iota rho omega alpha-underbar
    epsilon-underbar iota-underbar omega-underbar alpha"⟩,
  ⟨0x237B, "", "not-check-mark right-angle-with-downwards-zigzag-arrow shouldered-open-box
    bell-symbol vertical-line-with-middle-dot insertion-symbol continuous-underline-symbol
    discontinuous-underline-symbol emphasis-symbol composition-symbol
    white-square-with-centre-vertical-line enter-symbol alternative-key-symbol helm-symbol
    circled-horizontal-bar-with-notch circled-triangle-down broken-circle-with-northwest-arrow
    undo-symbol monostable-symbol hysteresis-symbol open-circuit-output-h-type-symbol
    open-circuit-output-l-type-symbol passive-pull-down-output-symbol
    passive-pull-up-output-symbol direct-current-symbol-form-two software-function-symbol
    apl-functional-symbol-quad decimal-separator-key-symbol previous-page next-page
    print-screen-symbol clear-screen-symbol"⟩,
  ⟨0x239B, "left-parenthesis-", "upper-hook extension lower-hook"⟩,
  ⟨0x239E, "right-parenthesis-", "upper-hook extension lower-hook"⟩,
  ⟨0x23A1, "left-square-bracket-", "upper-corner extension lower-corner"⟩,
  ⟨0x23A4, "right-square-bracket-", "upper-corner extension lower-corner"⟩,
  ⟨0x23A7, "left-curly-bracket-", "upper-hook middle-piece lower-hook"⟩,
  ⟨0x23AA, "curly-bracket-", "extension"⟩,
  ⟨0x23AB, "right-curly-bracket-", "upper-hook middle-piece lower-hook"⟩,
  ⟨0x23AE, "", "integral-extension horizontal-line-extension
    upper-left-or-lower-right-curly-bracket-section
    upper-right-or-lower-left-curly-bracket-section summation-top summation-bottom
    top-square-bracket bottom-square-bracket bottom-square-bracket-over-top-square-bracket
    radical-symbol-bottom left-vertical-box-line right-vertical-box-line"⟩,
  ⟨0x23BA, "horizontal-scan-line-", "1 3 7 9"⟩,
  ⟨0x23BE, "dentistry-symbol-light-", "vertical-and-top-right vertical-and-bottom-right
    vertical-with-circle down-and-horizontal-with-circle up-and-horizontal-with-circle
    vertical-with-triangle down-and-horizontal-with-triangle up-and-horizontal-with-triangle
    vertical-and-wave down-and-horizontal-with-wave up-and-horizontal-with-wave
    down-and-horizontal up-and-horizontal vertical-and-top-left vertical-and-bottom-left"⟩,
  ⟨0x23CD, "", "square-foot return-symbol eject-symbol vertical-line-extension"⟩,
  ⟨0x23D1, "metrical-", "breve long-over-short short-over-long long-over-two-shorts
    two-shorts-over-long two-shorts-joined triseme tetraseme pentaseme"⟩,
  ⟨0x23DA, "", "earth-ground fuse top-parenthesis bottom-parenthesis top-curly-bracket
    bottom-curly-bracket top-tortoise-shell-bracket bottom-tortoise-shell-bracket white-trapezium
    benzene-ring-with-circle straightness flatness ac-current electrical-intersection
    decimal-exponent-symbol"⟩,
  ⟨0x23E9, "black-", "right-pointing-double-triangle left-pointing-double-triangle
    up-pointing-double-triangle down-pointing-double-triangle
    right-pointing-double-triangle-with-vertical-bar
    left-pointing-double-triangle-with-vertical-bar
    right-pointing-triangle-with-double-vertical-bar"⟩,
  ⟨0x23F0, "", "alarm-clock stopwatch timer-clock hourglass-with-flowing-sand"⟩,
  ⟨0x23F4, "black-medium-", "left-pointing-triangle right-pointing-triangle up-pointing-triangle
    down-pointing-triangle"⟩,
  ⟨0x23F8, "", "double-vertical-bar black-square-for-stop black-circle-for-record power-symbol
    power-on-off-symbol power-on-symbol power-sleep-symbol observer-eye-symbol"⟩,
  ⟨0x2400, "symbol-for-", "null start-of-heading start-of-text end-of-text end-of-transmission
    enquiry acknowledge bell backspace horizontal-tabulation line-feed vertical-tabulation
    form-feed carriage-return shift-out shift-in data-link-escape device-control-one
    device-control-two device-control-three device-control-four negative-acknowledge
    synchronous-idle end-of-transmission-block cancel end-of-medium substitute escape
    file-separator group-separator record-separator unit-separator space delete"⟩,
  ⟨0x2422, "", "blank-symbol open-box"⟩,
  ⟨0x2424, "symbol-for-", "newline delete-form-two substitute-form-two
    delete-square-checker-board-form delete-rectangular-checker-board-form
    delete-medium-shade-form"⟩,
  ⟨0x2440, "ocr-", "hook chair fork inverted-fork belt-buckle bow-tie branch-bank-identification
    amount-of-check dash customer-account-number double-backslash"⟩,
  ⟨0x2460, "circled-digit-", "one two three four five six seven eight nine"⟩,
  ⟨0x2469, "circled-number-", "ten eleven twelve thirteen fourteen fifteen sixteen seventeen
    eighteen nineteen twenty"⟩,
  ⟨0x2474, "parenthesized-digit-", "one two three four five six seven eight nine"⟩,
  ⟨0x247D, "parenthesized-number-", "ten eleven twelve thirteen fourteen fifteen sixteen
    seventeen eighteen nineteen twenty"⟩,
  ⟨0x2488, "digit-", "one-full-stop two-full-stop three-full-stop four-full-stop five-full-stop
    six-full-stop seven-full-stop eight-full-stop nine-full-stop"⟩,
  ⟨0x2491, "number-", "ten-full-stop eleven-full-stop twelve-full-stop thirteen-full-stop
    fourteen-full-stop fifteen-full-stop sixteen-full-stop seventeen-full-stop eighteen-full-stop
    nineteen-full-stop twenty-full-stop"⟩,
  ⟨0x249C, "parenthesized-latin-small-letter-", "a b c d e f g h i j k l m n o p q r s t u v w x
    y z"⟩,
  ⟨0x24B6, "circled-latin-capital-letter-", "a b c d e f g h i j k l m n o p q r s t u v w x y z"⟩,
  ⟨0x24D0, "circled-latin-small-letter-", "a b c d e f g h i j k l m n o p q r s t u v w x y z"⟩,
  ⟨0x24EA, "circled-digit-", "zero"⟩,
  ⟨0x24EB, "negative-circled-number-", "eleven twelve thirteen fourteen fifteen sixteen seventeen
    eighteen nineteen twenty"⟩,
  ⟨0x24F5, "double-circled-digit-", "one two three four five six seven eight nine"⟩,
  ⟨0x24FE, "", "double-circled-number-ten negative-circled-digit-zero"⟩,
  ⟨0x2500, "box-drawings-", "light-horizontal heavy-horizontal light-vertical heavy-vertical
    light-triple-dash-horizontal heavy-triple-dash-horizontal light-triple-dash-vertical
    heavy-triple-dash-vertical light-quadruple-dash-horizontal heavy-quadruple-dash-horizontal
    light-quadruple-dash-vertical heavy-quadruple-dash-vertical light-down-and-right
    down-light-and-right-heavy down-heavy-and-right-light heavy-down-and-right
    light-down-and-left down-light-and-left-heavy down-heavy-and-left-light heavy-down-and-left
    light-up-and-right up-light-and-right-heavy up-heavy-and-right-light heavy-up-and-right
    light-up-and-left up-light-and-left-heavy up-heavy-and-left-light heavy-up-and-left
    light-vertical-and-right vertical-light-and-right-heavy up-heavy-and-right-down-light
    down-heavy-and-right-up-light vertical-heavy-and-right-light down-light-and-right-up-heavy
    up-light-and-right-down-heavy heavy-vertical-and-right light-vertical-and-left
    vertical-light-and-left-heavy up-heavy-and-left-down-light down-heavy-and-left-up-light
    vertical-heavy-and-left-light down-light-and-left-up-heavy up-light-and-left-down-heavy
    heavy-vertical-and-left light-down-and-horizontal left-heavy-and-right-down-light
    right-heavy-and-left-down-light down-light-and-horizontal-heavy
    down-heavy-and-horizontal-light right-light-and-left-down-heavy
    left-light-and-right-down-heavy heavy-down-and-horizontal light-up-and-horizontal
    left-heavy-and-right-up-light right-heavy-and-left-up-light up-light-and-horizontal-heavy
    up-heavy-and-horizontal-light right-light-and-left-up-heavy left-light-and-right-up-heavy
    heavy-up-and-horizontal light-vertical-and-horizontal left-heavy-and-right-vertical-light
    right-heavy-and-left-vertical-light vertical-light-and-horizontal-heavy
    up-heavy-and-down-horizontal-light down-heavy-and-up-horizontal-light
    vertical-heavy-and-horizontal-light left-up-heavy-and-right-down-light
    right-up-heavy-and-left-down-light left-down-heavy-and-right-up-light
    right-down-heavy-and-left-up-light down-light-and-up-horizontal-heavy
    up-light-and-down-horizontal-heavy right-light-and-left-vertical-heavy
    left-light-and-right-vertical-heavy heavy-vertical-and-horizontal
    light-double-dash-horizontal heavy-double-dash-horizontal light-double-dash-vertical
    heavy-double-dash-vertical double-horizontal double-vertical down-single-and-right-double
    down-double-and-right-single double-down-and-right down-single-and-left-double
    down-double-and-left-single double-down-and-left up-single-and-right-double
    up-double-and-right-single double-up-and-right up-single-and-left-double
    up-double-and-left-single double-up-and-left vertical-single-and-right-double
    vertical-double-and-right-single double-vertical-and-right vertical-single-and-left-double
    vertical-double-and-left-single double-vertical-and-left down-single-and-horizontal-double
    down-double-and-horizontal-single double-down-and-horizontal up-single-and-horizontal-double
    up-double-and-horizontal-single double-up-and-horizontal
    vertical-single-and-horizontal-double vertical-double-and-horizontal-single
    double-vertical-and-horizontal"⟩,
  ⟨0x256D, "box-drawings-light-", "arc-down-and-right arc-down-and-left arc-up-and-left
    arc-up-and-right diagonal-upper-right-to-lower-left diagonal-upper-left-to-lower-right
    diagonal-cross left up right down"⟩,
  ⟨0x2578, "box-drawings-", "heavy-left heavy-up heavy-right heavy-down
    light-left-and-heavy-right light-up-and-heavy-down heavy-left-and-light-right
    heavy-up-and-light-down"⟩,
  ⟨0x2580, "upper-half-", "block"⟩,
  ⟨0x2581, "lower-", "one-eighth-block one-quarter-block three-eighths-block half-block
    five-eighths-block three-quarters-block seven-eighths-block"⟩,
  ⟨0x2588, "full-", "block"⟩,
  ⟨0x2589, "left-", "seven-eighths-block three-quarters-block five-eighths-block half-block
    three-eighths-block one-quarter-block one-eighth-block"⟩,
  ⟨0x2590, "", "right-half-block light-shade medium-shade dark-shade upper-one-eighth-block
    right-one-eighth-block"⟩,
  ⟨0x2596, "quadrant-lower-", "left right"⟩,
  ⟨0x2598, "quadrant-upper-", "left left-and-lower-left-and-lower-right left-and-lower-right
    left-and-upper-right-and-lower-left left-and-upper-right-and-lower-right right
    right-and-lower-left right-and-lower-left-and-lower-right"⟩,
  ⟨0x25A0, "", "black-square white-square white-square-with-rounded-corners
    white-square-containing-black-small-square"⟩,
  ⟨0x25A4, "square-with-", "horizontal-fill vertical-fill orthogonal-crosshatch-fill
    upper-left-to-lower-right-fill upper-right-to-lower-left-fill diagonal-crosshatch-fill"⟩,
  ⟨0x25AA, "", "black-small-square white-small-square black-rectangle white-rectangle
    black-vertical-rectangle white-vertical-rectangle black-parallelogram white-parallelogram
    black-up-pointing-triangle white-up-pointing-triangle black-up-pointing-small-triangle
    white-up-pointing-small-triangle black-right-pointing-triangle white-right-pointing-triangle
    black-right-pointing-small-triangle white-right-pointing-small-triangle
    black-right-pointing-pointer white-right-pointing-pointer black-down-pointing-triangle
    white-down-pointing-triangle black-down-pointing-small-triangle
    white-down-pointing-small-triangle black-left-pointing-triangle white-left-pointing-triangle
    black-left-pointing-small-triangle white-left-pointing-small-triangle
    black-left-pointing-pointer white-left-pointing-pointer black-diamond white-diamond
    white-diamond-containing-black-small-diamond fisheye lozenge white-circle dotted-circle
    circle-with-vertical-fill bullseye black-circle"⟩,
  ⟨0x25D0, "circle-with-", "left-half-black right-half-black lower-half-black upper-half-black
    upper-right-quadrant-black all-but-upper-left-quadrant-black"⟩,
  ⟨0x25D6, "", "left-half-black-circle right-half-black-circle inverse-bullet
    inverse-white-circle upper-half-inverse-white-circle lower-half-inverse-white-circle
    upper-left-quadrant-circular-arc upper-right-quadrant-circular-arc
    lower-right-quadrant-circular-arc lower-left-quadrant-circular-arc upper-half-circle
    lower-half-circle black-lower-right-triangle black-lower-left-triangle
    black-upper-left-triangle black-upper-right-triangle white-bullet"⟩,
  ⟨0x25E7, "square-with-", "left-half-black right-half-black upper-left-diagonal-half-black
    lower-right-diagonal-half-black"⟩,
  ⟨0x25EB, "white-", "square-with-vertical-bisecting-line up-pointing-triangle-with-dot"⟩,
  ⟨0x25ED, "up-pointing-triangle-with-", "left-half-black right-half-black"⟩,
  ⟨0x25EF, "large-", "circle"⟩,
  ⟨0x25F0, "white-square-with-", "upper-left-quadrant lower-left-quadrant lower-right-quadrant
    upper-right-quadrant"⟩,
  ⟨0x25F4, "white-circle-with-", "upper-left-quadrant lower-left-quadrant lower-right-quadrant
    upper-right-quadrant"⟩,
  ⟨0x25F8, "", "upper-left-triangle upper-right-triangle lower-left-triangle white-medium-square
    black-medium-square white-medium-small-square black-medium-small-square lower-right-triangle
    black-sun-with-rays cloud umbrella snowman comet black-star white-star lightning thunderstorm
    sun ascending-node descending-node conjunction opposition black-telephone white-telephone
    ballot-box ballot-box-with-check ballot-box-with-x saltire umbrella-with-rain-drops
    hot-beverage white-shogi-piece black-shogi-piece shamrock
    reversed-rotated-floral-heart-bullet black-left-pointing-index black-right-pointing-index
    white-left-pointing-index white-up-pointing-index white-right-pointing-index
    white-down-pointing-index skull-and-crossbones caution-sign radioactive-sign biohazard-sign
    caduceus ankh orthodox-cross chi-rho cross-of-lorraine cross-of-jerusalem star-and-crescent
    farsi-symbol adi-shakti hammer-and-sickle peace-symbol yin-yang"⟩,
  ⟨0x2630, "trigram-for-", "heaven lake fire thunder wind water mountain earth"⟩,
  ⟨0x2638, "", "wheel-of-dharma white-frowning-face white-smiling-face black-smiling-face
    white-sun-with-rays first-quarter-moon last-quarter-moon mercury female-sign earth male-sign
    jupiter saturn uranus neptune pluto aries taurus gemini cancer leo virgo libra scorpius
    sagittarius capricorn aquarius pisces"⟩,
  ⟨0x2654, "white-chess-", "king queen rook bishop knight pawn"⟩,
  ⟨0x265A, "black-chess-", "king queen rook bishop knight pawn"⟩,
  ⟨0x2660, "", "black-spade-suit white-heart-suit white-diamond-suit black-club-suit
    white-spade-suit black-heart-suit black-diamond-suit white-club-suit hot-springs quarter-note
    eighth-note beamed-eighth-notes beamed-sixteenth-notes music-flat-sign music-natural-sign
    music-sharp-sign west-syriac-cross east-syriac-cross universal-recycling-symbol"⟩,
  ⟨0x2673, "recycling-symbol-for-type-", "1-plastics 2-plastics 3-plastics 4-plastics 5-plastics
    6-plastics 7-plastics"⟩,
  ⟨0x267A, "", "recycling-symbol-for-generic-materials black-universal-recycling-symbol
    recycled-paper-symbol partially-recycled-paper-symbol permanent-paper-sign wheelchair-symbol"⟩,
  ⟨0x2680, "die-face-", "1 2 3 4 5 6"⟩,
  ⟨0x2686, "white-circle-with-", "dot-right two-dots"⟩,
  ⟨0x2688, "black-circle-with-", "white-dot-right two-white-dots"⟩,
  ⟨0x268A, "monogram-for-", "yang yin"⟩,
  ⟨0x268C, "digram-for-", "greater-yang lesser-yin lesser-yang greater-yin"⟩,
  ⟨0x2690, "", "white-flag black-flag hammer-and-pick anchor crossed-swords staff-of-aesculapius
    scales alembic flower gear staff-of-hermes atom-symbol fleur-de-lis outlined-white-star
    three-lines-converging-right three-lines-converging-left warning-sign high-voltage-sign
    doubled-female-sign doubled-male-sign interlocked-female-and-male-sign male-and-female-sign
    male-with-stroke-sign male-with-stroke-and-male-and-female-sign
    vertical-male-with-stroke-sign horizontal-male-with-stroke-sign medium-white-circle
    medium-black-circle medium-small-white-circle marriage-symbol divorce-symbol
    unmarried-partnership-symbol coffin funeral-urn neuter ceres pallas juno vesta chiron
    black-moon-lilith sextile semisextile quincunx sesquiquadrate soccer-ball baseball
    squared-key white-draughts-man white-draughts-king black-draughts-man black-draughts-king
    snowman-without-snow sun-behind-cloud rain black-snowman thunder-cloud-and-rain
    turned-white-shogi-piece turned-black-shogi-piece white-diamond-in-square crossing-lanes
    disabled-car ophiuchus pick car-sliding helmet-with-white-cross circled-crossing-lanes chains
    no-entry alternate-one-way-left-way-traffic black-two-way-left-way-traffic
    white-two-way-left-way-traffic black-left-lane-merge white-left-lane-merge drive-slow-sign
    heavy-white-down-pointing-triangle left-closed-entry squared-saltire
    falling-diagonal-in-white-circle-in-black-square black-truck restricted-left-entry-1
    restricted-left-entry-2 astronomical-symbol-for-uranus
    heavy-circle-with-stroke-and-two-dots-above pentagram right-handed-interlaced-pentagram
    left-handed-interlaced-pentagram inverted-pentagram black-cross-on-shield shinto-shrine
    church castle historic-site gear-without-hub gear-with-handles map-symbol-for-lighthouse
    mountain umbrella-on-ground fountain flag-in-hole ferry sailboat square-four-corners skier
    ice-skate person-with-ball tent japanese-bank-symbol headstone-graveyard-symbol fuel-pump
    cup-on-black-square white-flag-with-horizontal-middle-black-stripe"⟩]

end Dictation.Unicode.Name
