import Dictation.Unicode.Name.Block
/-!
# European alphabets

Spoken names from 0x20 on, as of Unicode 16.
-/
namespace Dictation.Unicode.Name

set_option maxRecDepth 10000 in
def europeanBlocks : List Block := [
  ⟨0x20, "", "space exclamation-mark quotation-mark number-sign dollar-sign percent-sign
    ampersand apostrophe left-parenthesis right-parenthesis asterisk plus-sign comma hyphen-minus
    full-stop solidus"⟩,
  ⟨0x30, "digit-", "zero one two three four five six seven eight nine"⟩,
  ⟨0x3A, "", "colon semicolon less-than-sign equals-sign greater-than-sign question-mark
    commercial-at"⟩,
  ⟨0x41, "latin-capital-letter-", "a b c d e f g h i j k l m n o p q r s t u v w x y z"⟩,
  ⟨0x5B, "", "left-square-bracket reverse-solidus right-square-bracket circumflex-accent low-line
    grave-accent"⟩,
  ⟨0x61, "latin-small-letter-", "a b c d e f g h i j k l m n o p q r s t u v w x y z"⟩,
  ⟨0x7B, "", "left-curly-bracket vertical-line right-curly-bracket tilde"⟩,
  ⟨0xA0, "", "no-break-space inverted-exclamation-mark cent-sign pound-sign currency-sign
    yen-sign broken-bar section-sign diaeresis copyright-sign feminine-ordinal-indicator
    left-pointing-double-angle-quotation-mark not-sign soft-hyphen registered-sign macron
    degree-sign plus-minus-sign superscript-two superscript-three acute-accent micro-sign
    pilcrow-sign middle-dot cedilla superscript-one masculine-ordinal-indicator
    right-pointing-double-angle-quotation-mark"⟩,
  ⟨0xBC, "vulgar-fraction-", "one-quarter one-half three-quarters"⟩,
  ⟨0xBF, "inverted-question-", "mark"⟩,
  ⟨0xC0, "latin-capital-letter-", "a-with-grave a-with-acute a-with-circumflex a-with-tilde
    a-with-diaeresis a-with-ring-above ae c-with-cedilla e-with-grave e-with-acute
    e-with-circumflex e-with-diaeresis i-with-grave i-with-acute i-with-circumflex
    i-with-diaeresis eth n-with-tilde o-with-grave o-with-acute o-with-circumflex o-with-tilde
    o-with-diaeresis"⟩,
  ⟨0xD7, "multiplication-", "sign"⟩,
  ⟨0xD8, "latin-capital-letter-", "o-with-stroke u-with-grave u-with-acute u-with-circumflex
    u-with-diaeresis y-with-acute thorn"⟩,
  ⟨0xDF, "latin-small-letter-", "sharp-s a-with-grave a-with-acute a-with-circumflex a-with-tilde
    a-with-diaeresis a-with-ring-above ae c-with-cedilla e-with-grave e-with-acute
    e-with-circumflex e-with-diaeresis i-with-grave i-with-acute i-with-circumflex
    i-with-diaeresis eth n-with-tilde o-with-grave o-with-acute o-with-circumflex o-with-tilde
    o-with-diaeresis"⟩,
  ⟨0xF7, "division-", "sign"⟩,
  ⟨0xF8, "latin-small-letter-", "o-with-stroke u-with-grave u-with-acute u-with-circumflex
    u-with-diaeresis y-with-acute thorn y-with-diaeresis"⟩,
  ⟨0x100, "latin-", "capital-letter-a-with-macron small-letter-a-with-macron
    capital-letter-a-with-breve small-letter-a-with-breve capital-letter-a-with-ogonek
    small-letter-a-with-ogonek capital-letter-c-with-acute small-letter-c-with-acute
    capital-letter-c-with-circumflex small-letter-c-with-circumflex
    capital-letter-c-with-dot-above small-letter-c-with-dot-above capital-letter-c-with-caron
    small-letter-c-with-caron capital-letter-d-with-caron small-letter-d-with-caron
    capital-letter-d-with-stroke small-letter-d-with-stroke capital-letter-e-with-macron
    small-letter-e-with-macron capital-letter-e-with-breve small-letter-e-with-breve
    capital-letter-e-with-dot-above small-letter-e-with-dot-above capital-letter-e-with-ogonek
    small-letter-e-with-ogonek capital-letter-e-with-caron small-letter-e-with-caron
    capital-letter-g-with-circumflex small-letter-g-with-circumflex capital-letter-g-with-breve
    small-letter-g-with-breve capital-letter-g-with-dot-above small-letter-g-with-dot-above
    capital-letter-g-with-cedilla small-letter-g-with-cedilla capital-letter-h-with-circumflex
    small-letter-h-with-circumflex capital-letter-h-with-stroke small-letter-h-with-stroke
    capital-letter-i-with-tilde small-letter-i-with-tilde capital-letter-i-with-macron
    small-letter-i-with-macron capital-letter-i-with-breve small-letter-i-with-breve
    capital-letter-i-with-ogonek small-letter-i-with-ogonek capital-letter-i-with-dot-above
    small-letter-dotless-i capital-ligature-ij small-ligature-ij capital-letter-j-with-circumflex
    small-letter-j-with-circumflex capital-letter-k-with-cedilla small-letter-k-with-cedilla
    small-letter-kra capital-letter-l-with-acute small-letter-l-with-acute
    capital-letter-l-with-cedilla small-letter-l-with-cedilla capital-letter-l-with-caron
    small-letter-l-with-caron capital-letter-l-with-middle-dot small-letter-l-with-middle-dot
    capital-letter-l-with-stroke small-letter-l-with-stroke capital-letter-n-with-acute
    small-letter-n-with-acute capital-letter-n-with-cedilla small-letter-n-with-cedilla
    capital-letter-n-with-caron small-letter-n-with-caron small-letter-n-preceded-by-apostrophe
    capital-letter-eng small-letter-eng capital-letter-o-with-macron small-letter-o-with-macron
    capital-letter-o-with-breve small-letter-o-with-breve capital-letter-o-with-double-acute
    small-letter-o-with-double-acute capital-ligature-oe small-ligature-oe
    capital-letter-r-with-acute small-letter-r-with-acute capital-letter-r-with-cedilla
    small-letter-r-with-cedilla capital-letter-r-with-caron small-letter-r-with-caron
    capital-letter-s-with-acute small-letter-s-with-acute capital-letter-s-with-circumflex
    small-letter-s-with-circumflex capital-letter-s-with-cedilla small-letter-s-with-cedilla
    capital-letter-s-with-caron small-letter-s-with-caron capital-letter-t-with-cedilla
    small-letter-t-with-cedilla capital-letter-t-with-caron small-letter-t-with-caron
    capital-letter-t-with-stroke small-letter-t-with-stroke capital-letter-u-with-tilde
    small-letter-u-with-tilde capital-letter-u-with-macron small-letter-u-with-macron
    capital-letter-u-with-breve small-letter-u-with-breve capital-letter-u-with-ring-above
    small-letter-u-with-ring-above capital-letter-u-with-double-acute
    small-letter-u-with-double-acute capital-letter-u-with-ogonek small-letter-u-with-ogonek
    capital-letter-w-with-circumflex small-letter-w-with-circumflex
    capital-letter-y-with-circumflex small-letter-y-with-circumflex
    capital-letter-y-with-diaeresis capital-letter-z-with-acute small-letter-z-with-acute
    capital-letter-z-with-dot-above small-letter-z-with-dot-above capital-letter-z-with-caron
    small-letter-z-with-caron small-letter-long-s small-letter-b-with-stroke
    capital-letter-b-with-hook capital-letter-b-with-topbar small-letter-b-with-topbar
    capital-letter-tone-six small-letter-tone-six capital-letter-open-o
    capital-letter-c-with-hook small-letter-c-with-hook"⟩,
  ⟨0x189, "latin-capital-letter-", "african-d d-with-hook d-with-topbar"⟩,
  ⟨0x18C, "latin-small-letter-", "d-with-topbar turned-delta"⟩,
  ⟨0x18E, "latin-capital-letter-", "reversed-e schwa open-e f-with-hook"⟩,
  ⟨0x192, "latin-", "small-letter-f-with-hook capital-letter-g-with-hook capital-letter-gamma
    small-letter-hv capital-letter-iota capital-letter-i-with-stroke capital-letter-k-with-hook
    small-letter-k-with-hook small-letter-l-with-bar small-letter-lambda-with-stroke
    capital-letter-turned-m capital-letter-n-with-left-hook small-letter-n-with-long-right-leg
    capital-letter-o-with-middle-tilde capital-letter-o-with-horn small-letter-o-with-horn
    capital-letter-oi small-letter-oi capital-letter-p-with-hook small-letter-p-with-hook
    letter-yr capital-letter-tone-two small-letter-tone-two capital-letter-esh
    letter-reversed-esh-loop small-letter-t-with-palatal-hook capital-letter-t-with-hook
    small-letter-t-with-hook capital-letter-t-with-retroflex-hook capital-letter-u-with-horn
    small-letter-u-with-horn capital-letter-upsilon capital-letter-v-with-hook
    capital-letter-y-with-hook small-letter-y-with-hook capital-letter-z-with-stroke
    small-letter-z-with-stroke capital-letter-ezh capital-letter-ezh-reversed
    small-letter-ezh-reversed small-letter-ezh-with-tail letter-two-with-stroke
    capital-letter-tone-five small-letter-tone-five letter-inverted-glottal-stop-with-stroke
    letter-wynn letter-dental-click letter-lateral-click letter-alveolar-click
    letter-retroflex-click capital-letter-dz-with-caron
    capital-letter-d-with-small-letter-z-with-caron small-letter-dz-with-caron capital-letter-lj
    capital-letter-l-with-small-letter-j small-letter-lj capital-letter-nj
    capital-letter-n-with-small-letter-j small-letter-nj capital-letter-a-with-caron
    small-letter-a-with-caron capital-letter-i-with-caron small-letter-i-with-caron
    capital-letter-o-with-caron small-letter-o-with-caron capital-letter-u-with-caron
    small-letter-u-with-caron capital-letter-u-with-diaeresis-and-macron
    small-letter-u-with-diaeresis-and-macron capital-letter-u-with-diaeresis-and-acute
    small-letter-u-with-diaeresis-and-acute capital-letter-u-with-diaeresis-and-caron
    small-letter-u-with-diaeresis-and-caron capital-letter-u-with-diaeresis-and-grave
    small-letter-u-with-diaeresis-and-grave small-letter-turned-e
    capital-letter-a-with-diaeresis-and-macron small-letter-a-with-diaeresis-and-macron
    capital-letter-a-with-dot-above-and-macron small-letter-a-with-dot-above-and-macron
    capital-letter-ae-with-macron small-letter-ae-with-macron capital-letter-g-with-stroke
    small-letter-g-with-stroke capital-letter-g-with-caron small-letter-g-with-caron
    capital-letter-k-with-caron small-letter-k-with-caron capital-letter-o-with-ogonek
    small-letter-o-with-ogonek capital-letter-o-with-ogonek-and-macron
    small-letter-o-with-ogonek-and-macron capital-letter-ezh-with-caron
    small-letter-ezh-with-caron small-letter-j-with-caron capital-letter-dz
    capital-letter-d-with-small-letter-z small-letter-dz capital-letter-g-with-acute
    small-letter-g-with-acute capital-letter-hwair capital-letter-wynn
    capital-letter-n-with-grave small-letter-n-with-grave
    capital-letter-a-with-ring-above-and-acute small-letter-a-with-ring-above-and-acute
    capital-letter-ae-with-acute small-letter-ae-with-acute
    capital-letter-o-with-stroke-and-acute small-letter-o-with-stroke-and-acute
    capital-letter-a-with-double-grave small-letter-a-with-double-grave
    capital-letter-a-with-inverted-breve small-letter-a-with-inverted-breve
    capital-letter-e-with-double-grave small-letter-e-with-double-grave
    capital-letter-e-with-inverted-breve small-letter-e-with-inverted-breve
    capital-letter-i-with-double-grave small-letter-i-with-double-grave
    capital-letter-i-with-inverted-breve small-letter-i-with-inverted-breve
    capital-letter-o-with-double-grave small-letter-o-with-double-grave
    capital-letter-o-with-inverted-breve small-letter-o-with-inverted-breve
    capital-letter-r-with-double-grave small-letter-r-with-double-grave
    capital-letter-r-with-inverted-breve small-letter-r-with-inverted-breve
    capital-letter-u-with-double-grave small-letter-u-with-double-grave
    capital-letter-u-with-inverted-breve small-letter-u-with-inverted-breve
    capital-letter-s-with-comma-below small-letter-s-with-comma-below
    capital-letter-t-with-comma-below small-letter-t-with-comma-below capital-letter-yogh
    small-letter-yogh capital-letter-h-with-caron small-letter-h-with-caron
    capital-letter-n-with-long-right-leg small-letter-d-with-curl capital-letter-ou
    small-letter-ou capital-letter-z-with-hook small-letter-z-with-hook
    capital-letter-a-with-dot-above small-letter-a-with-dot-above capital-letter-e-with-cedilla
    small-letter-e-with-cedilla capital-letter-o-with-diaeresis-and-macron
    small-letter-o-with-diaeresis-and-macron capital-letter-o-with-tilde-and-macron
    small-letter-o-with-tilde-and-macron capital-letter-o-with-dot-above
    small-letter-o-with-dot-above capital-letter-o-with-dot-above-and-macron
    small-letter-o-with-dot-above-and-macron capital-letter-y-with-macron"⟩,
  ⟨0x233, "latin-small-letter-", "y-with-macron l-with-curl n-with-curl t-with-curl dotless-j
    db-digraph qp-digraph"⟩,
  ⟨0x23A, "latin-", "capital-letter-a-with-stroke capital-letter-c-with-stroke
    small-letter-c-with-stroke capital-letter-l-with-bar capital-letter-t-with-diagonal-stroke
    small-letter-s-with-swash-tail small-letter-z-with-swash-tail capital-letter-glottal-stop
    small-letter-glottal-stop"⟩,
  ⟨0x243, "latin-capital-letter-", "b-with-stroke u-bar turned-v e-with-stroke"⟩,
  ⟨0x247, "latin-", "small-letter-e-with-stroke capital-letter-j-with-stroke
    small-letter-j-with-stroke capital-letter-small-q-with-hook-tail
    small-letter-q-with-hook-tail capital-letter-r-with-stroke small-letter-r-with-stroke
    capital-letter-y-with-stroke"⟩,
  ⟨0x24F, "latin-small-letter-", "y-with-stroke turned-a alpha turned-alpha b-with-hook open-o
    c-with-curl d-with-tail d-with-hook reversed-e schwa schwa-with-hook open-e reversed-open-e
    reversed-open-e-with-hook closed-reversed-open-e dotless-j-with-stroke g-with-hook script-g"⟩,
  ⟨0x262, "latin-letter-small-capital-", "g"⟩,
  ⟨0x263, "latin-small-letter-", "gamma rams-horn turned-h h-with-hook heng-with-hook
    i-with-stroke iota"⟩,
  ⟨0x26A, "latin-letter-small-capital-", "i"⟩,
  ⟨0x26B, "latin-small-letter-", "l-with-middle-tilde l-with-belt l-with-retroflex-hook lezh
    turned-m turned-m-with-long-leg m-with-hook n-with-left-hook n-with-retroflex-hook"⟩,
  ⟨0x274, "latin-", "letter-small-capital-n small-letter-barred-o letter-small-capital-oe"⟩,
  ⟨0x277, "latin-small-letter-", "closed-omega phi turned-r turned-r-with-long-leg
    turned-r-with-hook r-with-long-leg r-with-tail r-with-fishhook reversed-r-with-fishhook"⟩,
  ⟨0x280, "latin-letter-small-capital-", "r inverted-r"⟩,
  ⟨0x282, "latin-small-letter-", "s-with-hook esh dotless-j-with-stroke-and-hook
    squat-reversed-esh esh-with-curl turned-t t-with-retroflex-hook u-bar upsilon v-with-hook
    turned-v turned-w turned-y"⟩,
  ⟨0x28F, "latin-letter-small-capital-", "y"⟩,
  ⟨0x290, "latin-small-letter-", "z-with-retroflex-hook z-with-curl ezh ezh-with-curl"⟩,
  ⟨0x294, "latin-letter-", "glottal-stop pharyngeal-voiced-fricative inverted-glottal-stop
    stretched-c bilabial-click small-capital-b"⟩,
  ⟨0x29A, "latin-", "small-letter-closed-open-e letter-small-capital-g-with-hook
    letter-small-capital-h small-letter-j-with-crossed-tail small-letter-turned-k
    letter-small-capital-l small-letter-q-with-hook letter-glottal-stop-with-stroke
    letter-reversed-glottal-stop-with-stroke"⟩,
  ⟨0x2A3, "latin-small-letter-", "dz-digraph dezh-digraph dz-digraph-with-curl ts-digraph
    tesh-digraph tc-digraph-with-curl feng-digraph ls-digraph lz-digraph"⟩,
  ⟨0x2AC, "latin-letter-", "bilabial-percussive bidental-percussive"⟩,
  ⟨0x2AE, "latin-small-letter-turned-h-with-", "fishhook fishhook-and-tail"⟩,
  ⟨0x2B0, "modifier-letter-small-", "h h-with-hook j r turned-r turned-r-with-hook
    capital-inverted-r w y"⟩,
  ⟨0x2B9, "modifier-letter-", "prime double-prime turned-comma apostrophe reversed-comma
    right-half-ring left-half-ring glottal-stop reversed-glottal-stop left-arrowhead
    right-arrowhead up-arrowhead down-arrowhead circumflex-accent"⟩,
  ⟨0x2C7, "", "caron"⟩,
  ⟨0x2C8, "modifier-letter-", "vertical-line macron acute-accent grave-accent low-vertical-line
    low-macron low-grave-accent low-acute-accent triangular-colon half-triangular-colon
    centred-right-half-ring centred-left-half-ring up-tack down-tack plus-sign minus-sign"⟩,
  ⟨0x2D8, "", "breve dot-above ring-above ogonek small-tilde double-acute-accent"⟩,
  ⟨0x2DE, "modifier-letter-", "rhotic-hook cross-accent small-gamma small-l small-s small-x
    small-reversed-glottal-stop extra-high-tone-bar high-tone-bar mid-tone-bar low-tone-bar
    extra-low-tone-bar yin-departing-tone-mark yang-departing-tone-mark voicing unaspirated
    double-apostrophe low-down-arrowhead low-up-arrowhead low-left-arrowhead low-right-arrowhead
    low-ring middle-grave-accent middle-double-grave-accent middle-double-acute-accent low-tilde
    raised-colon begin-high-tone end-high-tone begin-low-tone end-low-tone shelf open-shelf
    low-left-arrow"⟩,
  ⟨0x300, "combining-", "grave-accent acute-accent circumflex-accent tilde macron overline breve
    dot-above diaeresis hook-above ring-above double-acute-accent caron vertical-line-above
    double-vertical-line-above double-grave-accent candrabindu inverted-breve turned-comma-above
    comma-above reversed-comma-above comma-above-right grave-accent-below acute-accent-below
    left-tack-below right-tack-below left-angle-above horn left-half-ring-below up-tack-below
    down-tack-below plus-sign-below minus-sign-below palatalized-hook-below retroflex-hook-below
    dot-below diaeresis-below ring-below comma-below cedilla ogonek vertical-line-below
    bridge-below inverted-double-arch-below caron-below circumflex-accent-below breve-below
    inverted-breve-below tilde-below macron-below low-line double-low-line tilde-overlay
    short-stroke-overlay long-stroke-overlay short-solidus-overlay long-solidus-overlay
    right-half-ring-below inverted-bridge-below square-below seagull-below x-above vertical-tilde
    double-overline grave-tone-mark acute-tone-mark greek-perispomeni greek-koronis
    greek-dialytika-tonos greek-ypogegrammeni bridge-above equals-sign-below
    double-vertical-line-below left-angle-below not-tilde-above homothetic-above
    almost-equal-to-above left-right-arrow-below upwards-arrow-below grapheme-joiner
    right-arrowhead-above left-half-ring-above fermata x-below left-arrowhead-below
    right-arrowhead-below right-arrowhead-and-up-arrowhead-below right-half-ring-above
    dot-above-right asterisk-below double-ring-below zigzag-above"⟩,
  ⟨0x35C, "combining-double-", "breve-below breve macron macron-below tilde inverted-breve
    rightwards-arrow-below"⟩,
  ⟨0x363, "combining-latin-small-letter-", "a e i o u c d h m r t v x"⟩,
  ⟨0x370, "greek-", "capital-letter-heta small-letter-heta capital-letter-archaic-sampi
    small-letter-archaic-sampi numeral-sign lower-numeral-sign capital-letter-pamphylian-digamma
    small-letter-pamphylian-digamma"⟩,
  ⟨0x37A, "greek-", "ypogegrammeni small-reversed-lunate-sigma-symbol
    small-dotted-lunate-sigma-symbol small-reversed-dotted-lunate-sigma-symbol question-mark
    capital-letter-yot"⟩,
  ⟨0x384, "greek-", "tonos dialytika-tonos capital-letter-alpha-with-tonos ano-teleia"⟩,
  ⟨0x388, "greek-capital-letter-", "epsilon-with-tonos eta-with-tonos iota-with-tonos"⟩,
  ⟨0x38C, "greek-capital-letter-omicron-with-", "tonos"⟩,
  ⟨0x38E, "greek-", "capital-letter-upsilon-with-tonos capital-letter-omega-with-tonos
    small-letter-iota-with-dialytika-and-tonos"⟩,
  ⟨0x391, "greek-capital-letter-", "alpha beta gamma delta epsilon zeta eta theta iota kappa
    lamda mu nu xi omicron pi rho"⟩,
  ⟨0x3A3, "greek-capital-letter-", "sigma tau upsilon phi chi psi omega iota-with-dialytika
    upsilon-with-dialytika"⟩,
  ⟨0x3AC, "greek-small-letter-", "alpha-with-tonos epsilon-with-tonos eta-with-tonos
    iota-with-tonos upsilon-with-dialytika-and-tonos alpha beta gamma delta epsilon zeta eta
    theta iota kappa lamda mu nu xi omicron pi rho final-sigma sigma tau upsilon phi chi psi
    omega iota-with-dialytika upsilon-with-dialytika omicron-with-tonos upsilon-with-tonos
    omega-with-tonos"⟩,
  ⟨0x3CF, "greek-", "capital-kai-symbol beta-symbol theta-symbol upsilon-with-hook-symbol
    upsilon-with-acute-and-hook-symbol upsilon-with-diaeresis-and-hook-symbol phi-symbol
    pi-symbol kai-symbol letter-archaic-koppa small-letter-archaic-koppa letter-stigma
    small-letter-stigma letter-digamma small-letter-digamma letter-koppa small-letter-koppa
    letter-sampi small-letter-sampi"⟩,
  ⟨0x3E2, "coptic-", "capital-letter-shei small-letter-shei capital-letter-fei small-letter-fei
    capital-letter-khei small-letter-khei capital-letter-hori small-letter-hori
    capital-letter-gangia small-letter-gangia capital-letter-shima small-letter-shima
    capital-letter-dei small-letter-dei"⟩,
  ⟨0x3F0, "greek-", "kappa-symbol rho-symbol lunate-sigma-symbol letter-yot capital-theta-symbol
    lunate-epsilon-symbol reversed-lunate-epsilon-symbol capital-letter-sho small-letter-sho
    capital-lunate-sigma-symbol capital-letter-san small-letter-san rho-with-stroke-symbol
    capital-reversed-lunate-sigma-symbol capital-dotted-lunate-sigma-symbol
    capital-reversed-dotted-lunate-sigma-symbol"⟩,
  ⟨0x400, "cyrillic-capital-letter-", "ie-with-grave io dje gje ukrainian-ie dze
    byelorussian-ukrainian-i yi je lje nje tshe kje i-with-grave short-u dzhe a be ve ghe de ie
    zhe ze i short-i ka el em en o pe er es te u ef ha tse che sha shcha hard-sign yeru soft-sign
    e yu ya"⟩,
  ⟨0x430, "cyrillic-small-letter-", "a be ve ghe de ie zhe ze i short-i ka el em en o pe er es te
    u ef ha tse che sha shcha hard-sign yeru soft-sign e yu ya ie-with-grave io dje gje
    ukrainian-ie dze byelorussian-ukrainian-i yi je lje nje tshe kje i-with-grave short-u dzhe"⟩,
  ⟨0x460, "cyrillic-", "capital-letter-omega small-letter-omega capital-letter-yat
    small-letter-yat capital-letter-iotified-e small-letter-iotified-e capital-letter-little-yus
    small-letter-little-yus capital-letter-iotified-little-yus small-letter-iotified-little-yus
    capital-letter-big-yus small-letter-big-yus capital-letter-iotified-big-yus
    small-letter-iotified-big-yus capital-letter-ksi small-letter-ksi capital-letter-psi
    small-letter-psi capital-letter-fita small-letter-fita capital-letter-izhitsa
    small-letter-izhitsa capital-letter-izhitsa-with-double-grave-accent
    small-letter-izhitsa-with-double-grave-accent capital-letter-uk small-letter-uk
    capital-letter-round-omega small-letter-round-omega capital-letter-omega-with-titlo
    small-letter-omega-with-titlo capital-letter-ot small-letter-ot capital-letter-koppa
    small-letter-koppa thousands-sign"⟩,
  ⟨0x483, "combining-cyrillic-", "titlo palatalization dasia-pneumata psili-pneumata pokrytie
    hundred-thousands-sign millions-sign"⟩,
  ⟨0x48A, "cyrillic-", "capital-letter-short-i-with-tail small-letter-short-i-with-tail
    capital-letter-semisoft-sign small-letter-semisoft-sign capital-letter-er-with-tick
    small-letter-er-with-tick capital-letter-ghe-with-upturn small-letter-ghe-with-upturn
    capital-letter-ghe-with-stroke small-letter-ghe-with-stroke
    capital-letter-ghe-with-middle-hook small-letter-ghe-with-middle-hook
    capital-letter-zhe-with-descender small-letter-zhe-with-descender
    capital-letter-ze-with-descender small-letter-ze-with-descender
    capital-letter-ka-with-descender small-letter-ka-with-descender
    capital-letter-ka-with-vertical-stroke small-letter-ka-with-vertical-stroke
    capital-letter-ka-with-stroke small-letter-ka-with-stroke capital-letter-bashkir-ka
    small-letter-bashkir-ka capital-letter-en-with-descender small-letter-en-with-descender
    capital-ligature-en-ghe small-ligature-en-ghe capital-letter-pe-with-middle-hook
    small-letter-pe-with-middle-hook capital-letter-abkhasian-ha small-letter-abkhasian-ha
    capital-letter-es-with-descender small-letter-es-with-descender
    capital-letter-te-with-descender small-letter-te-with-descender capital-letter-straight-u
    small-letter-straight-u capital-letter-straight-u-with-stroke
    small-letter-straight-u-with-stroke capital-letter-ha-with-descender
    small-letter-ha-with-descender capital-ligature-te-tse small-ligature-te-tse
    capital-letter-che-with-descender small-letter-che-with-descender
    capital-letter-che-with-vertical-stroke small-letter-che-with-vertical-stroke
    capital-letter-shha small-letter-shha capital-letter-abkhasian-che small-letter-abkhasian-che
    capital-letter-abkhasian-che-with-descender small-letter-abkhasian-che-with-descender
    letter-palochka capital-letter-zhe-with-breve small-letter-zhe-with-breve
    capital-letter-ka-with-hook small-letter-ka-with-hook capital-letter-el-with-tail
    small-letter-el-with-tail capital-letter-en-with-hook small-letter-en-with-hook
    capital-letter-en-with-tail small-letter-en-with-tail capital-letter-khakassian-che
    small-letter-khakassian-che capital-letter-em-with-tail small-letter-em-with-tail
    small-letter-palochka capital-letter-a-with-breve small-letter-a-with-breve
    capital-letter-a-with-diaeresis small-letter-a-with-diaeresis capital-ligature-a-ie
    small-ligature-a-ie capital-letter-ie-with-breve small-letter-ie-with-breve
    capital-letter-schwa small-letter-schwa capital-letter-schwa-with-diaeresis
    small-letter-schwa-with-diaeresis capital-letter-zhe-with-diaeresis
    small-letter-zhe-with-diaeresis capital-letter-ze-with-diaeresis
    small-letter-ze-with-diaeresis capital-letter-abkhasian-dze small-letter-abkhasian-dze
    capital-letter-i-with-macron small-letter-i-with-macron capital-letter-i-with-diaeresis
    small-letter-i-with-diaeresis capital-letter-o-with-diaeresis small-letter-o-with-diaeresis
    capital-letter-barred-o small-letter-barred-o capital-letter-barred-o-with-diaeresis
    small-letter-barred-o-with-diaeresis capital-letter-e-with-diaeresis
    small-letter-e-with-diaeresis capital-letter-u-with-macron small-letter-u-with-macron
    capital-letter-u-with-diaeresis small-letter-u-with-diaeresis
    capital-letter-u-with-double-acute small-letter-u-with-double-acute
    capital-letter-che-with-diaeresis small-letter-che-with-diaeresis
    capital-letter-ghe-with-descender small-letter-ghe-with-descender
    capital-letter-yeru-with-diaeresis small-letter-yeru-with-diaeresis
    capital-letter-ghe-with-stroke-and-hook small-letter-ghe-with-stroke-and-hook
    capital-letter-ha-with-hook small-letter-ha-with-hook capital-letter-ha-with-stroke
    small-letter-ha-with-stroke capital-letter-komi-de small-letter-komi-de
    capital-letter-komi-dje small-letter-komi-dje capital-letter-komi-zje small-letter-komi-zje
    capital-letter-komi-dzje small-letter-komi-dzje capital-letter-komi-lje small-letter-komi-lje
    capital-letter-komi-nje small-letter-komi-nje capital-letter-komi-sje small-letter-komi-sje
    capital-letter-komi-tje small-letter-komi-tje capital-letter-reversed-ze
    small-letter-reversed-ze capital-letter-el-with-hook small-letter-el-with-hook
    capital-letter-lha small-letter-lha capital-letter-rha small-letter-rha capital-letter-yae
    small-letter-yae capital-letter-qa small-letter-qa capital-letter-we small-letter-we
    capital-letter-aleut-ka small-letter-aleut-ka capital-letter-el-with-middle-hook
    small-letter-el-with-middle-hook capital-letter-en-with-middle-hook
    small-letter-en-with-middle-hook capital-letter-pe-with-descender
    small-letter-pe-with-descender capital-letter-shha-with-descender
    small-letter-shha-with-descender capital-letter-en-with-left-hook
    small-letter-en-with-left-hook capital-letter-dzzhe small-letter-dzzhe capital-letter-dche
    small-letter-dche capital-letter-el-with-descender small-letter-el-with-descender"⟩,
  ⟨0x531, "armenian-capital-letter-", "ayb ben gim da ech za eh et to zhe ini liwn xeh ca ken ho
    ja ghad cheh men yi now sha vo cha peh jheh ra seh vew tiwn reh co yiwn piwr keh oh feh"⟩,
  ⟨0x559, "armenian-", "modifier-letter-left-half-ring apostrophe emphasis-mark exclamation-mark
    comma question-mark abbreviation-mark"⟩,
  ⟨0x560, "armenian-small-letter-", "turned-ayb ayb ben gim da ech za eh et to zhe ini liwn xeh
    ca ken ho ja ghad cheh men yi now sha vo cha peh jheh ra seh vew tiwn reh co yiwn piwr keh oh
    feh"⟩,
  ⟨0x587, "armenian-", "small-ligature-ech-yiwn small-letter-yi-with-stroke full-stop hyphen"⟩,
  ⟨0x58D, "", "right-facing-armenian-eternity-sign left-facing-armenian-eternity-sign
    armenian-dram-sign"⟩]

end Dictation.Unicode.Name
