import Dictation.Unicode.Name.Block
/-!
# Phonetic and extended letters

Spoken names from 0x1C00 on, as of Unicode 16.
-/
namespace Dictation.Unicode.Name

set_option maxRecDepth 10000 in
def phoneticBlocks : List Block := [
  ⟨0x1C00, "lepcha-letter-", "ka kla kha ga gla nga ca cha ja nya ta tha da na pa pla pha fa fla
    ba bla ma mla tsa tsha dza ya ra la ha hla va sa sha wa a"⟩,
  ⟨0x1C24, "lepcha-subjoined-letter-", "ya ra"⟩,
  ⟨0x1C26, "lepcha-vowel-sign-", "aa i o oo u uu e"⟩,
  ⟨0x1C2D, "lepcha-consonant-sign-", "k m l n p r t nyin-do kang"⟩,
  ⟨0x1C36, "lepcha-sign-", "ran nukta"⟩,
  ⟨0x1C3B, "lepcha-punctuation-", "ta-rol nyet-thyoom-ta-rol cer-wa tshook-cer-wa tshook"⟩,
  ⟨0x1C40, "lepcha-digit-", "zero one two three four five six seven eight nine"⟩,
  ⟨0x1C4D, "lepcha-letter-", "tta ttha dda"⟩,
  ⟨0x1C50, "ol-chiki-digit-", "zero one two three four five six seven eight nine"⟩,
  ⟨0x1C5A, "ol-chiki-letter-", "la at ag ang al laa aak aaj aam aaw li is ih iny ir lu uc ud unn
    uy le ep edd en err lo ott ob ov oh"⟩,
  ⟨0x1C78, "ol-chiki-", "mu-ttuddag gaahlaa-ttuddaag mu-gaahlaa-ttuddaag relaa phaarkaa ahad
    punctuation-mucaad punctuation-double-mucaad"⟩,
  ⟨0x1C80, "cyrillic-small-letter-", "rounded-ve long-legged-de narrow-o wide-es tall-te
    three-legged-te tall-hard-sign tall-yat unblended-uk"⟩,
  ⟨0x1C89, "cyrillic-", "capital-letter-tje small-letter-tje"⟩,
  ⟨0x1C90, "georgian-mtavruli-capital-letter-", "an ban gan don en vin zen tan in kan las man nar
    on par zhar rae san tar un phar khar ghan qar shin chin can jil cil char xan jhan hae he hie
    we har hoe fi yn elifi turned-gan ain"⟩,
  ⟨0x1CBD, "georgian-mtavruli-capital-letter-", "aen hard-sign labial-sign"⟩,
  ⟨0x1CC0, "sundanese-punctuation-bindu-", "surya panglong purnama cakra leu-satanga ka-satanga
    da-satanga ba-satanga"⟩,
  ⟨0x1CD0, "vedic-", "tone-karshana tone-shara tone-prenkha sign-nihshvasa
    sign-yajurvedic-midline-svarita"⟩,
  ⟨0x1CD5, "vedic-tone-", "yajurvedic-aggravated-independent-svarita
    yajurvedic-independent-svarita yajurvedic-kathaka-independent-svarita candra-below
    yajurvedic-kathaka-independent-svarita-schroeder double-svarita triple-svarita
    kathaka-anudatta dot-below two-dots-below three-dots-below
    rigvedic-kashmiri-independent-svarita atharvavedic-independent-svarita"⟩,
  ⟨0x1CE2, "vedic-sign-", "visarga-svarita visarga-udatta reversed-visarga-udatta
    visarga-anudatta reversed-visarga-anudatta visarga-udatta-with-tail
    visarga-anudatta-with-tail anusvara-antargomukha anusvara-bahirgomukha anusvara-vamagomukha
    anusvara-vamagomukha-with-tail tiryak hexiform-long-anusvara long-anusvara
    rthang-long-anusvara anusvara-ubhayato-mukha ardhavisarga rotated-ardhavisarga"⟩,
  ⟨0x1CF4, "vedic-", "tone-candra-above sign-jihvamuliya sign-upadhmaniya sign-atikrama
    tone-ring-above tone-double-ring-above sign-double-anusvara-antargomukha"⟩,
  ⟨0x1D00, "latin-letter-small-capital-", "a ae"⟩,
  ⟨0x1D02, "latin-small-letter-turned-", "ae"⟩,
  ⟨0x1D03, "latin-letter-small-capital-", "barred-b c d eth e"⟩,
  ⟨0x1D08, "latin-small-letter-turned-", "open-e i"⟩,
  ⟨0x1D0A, "latin-letter-small-capital-", "j k l-with-stroke m reversed-n o open-o"⟩,
  ⟨0x1D11, "latin-small-letter-sideways-", "o open-o o-with-stroke"⟩,
  ⟨0x1D14, "latin-", "small-letter-turned-oe letter-small-capital-ou small-letter-top-half-o
    small-letter-bottom-half-o"⟩,
  ⟨0x1D18, "latin-letter-small-capital-", "p reversed-r turned-r t u"⟩,
  ⟨0x1D1D, "latin-small-letter-sideways-", "u diaeresized-u turned-m"⟩,
  ⟨0x1D20, "latin-letter-small-capital-", "v w z ezh"⟩,
  ⟨0x1D24, "latin-letter-", "voiced-laryngeal-spirant ain"⟩,
  ⟨0x1D26, "greek-letter-small-capital-", "gamma lamda pi rho psi"⟩,
  ⟨0x1D2B, "cyrillic-letter-small-capital-", "el"⟩,
  ⟨0x1D2C, "modifier-letter-capital-", "a ae b barred-b d e reversed-e g h i j k l m n reversed-n
    o ou p r t u w"⟩,
  ⟨0x1D43, "modifier-letter-small-", "a turned-a alpha turned-ae b d e schwa open-e turned-open-e
    g turned-i k m eng o open-o top-half-o bottom-half-o p t u sideways-u turned-m v ain beta
    greek-gamma delta greek-phi chi"⟩,
  ⟨0x1D62, "latin-subscript-small-letter-", "i r u v"⟩,
  ⟨0x1D66, "greek-subscript-small-letter-", "beta gamma rho phi chi"⟩,
  ⟨0x1D6B, "latin-small-letter-", "ue b-with-middle-tilde d-with-middle-tilde f-with-middle-tilde
    m-with-middle-tilde n-with-middle-tilde p-with-middle-tilde r-with-middle-tilde
    r-with-fishhook-and-middle-tilde s-with-middle-tilde t-with-middle-tilde z-with-middle-tilde
    turned-g"⟩,
  ⟨0x1D78, "modifier-letter-cyrillic-", "en"⟩,
  ⟨0x1D79, "latin-small-", "letter-insular-g letter-th-with-strikethrough
    capital-letter-i-with-stroke letter-iota-with-stroke letter-p-with-stroke
    capital-letter-u-with-stroke"⟩,
  ⟨0x1D7F, "latin-small-letter-", "upsilon-with-stroke b-with-palatal-hook d-with-palatal-hook
    f-with-palatal-hook g-with-palatal-hook k-with-palatal-hook l-with-palatal-hook
    m-with-palatal-hook n-with-palatal-hook p-with-palatal-hook r-with-palatal-hook
    s-with-palatal-hook esh-with-palatal-hook v-with-palatal-hook x-with-palatal-hook
    z-with-palatal-hook a-with-retroflex-hook alpha-with-retroflex-hook d-with-hook-and-tail
    e-with-retroflex-hook open-e-with-retroflex-hook reversed-open-e-with-retroflex-hook
    schwa-with-retroflex-hook i-with-retroflex-hook open-o-with-retroflex-hook
    esh-with-retroflex-hook u-with-retroflex-hook ezh-with-retroflex-hook"⟩,
  ⟨0x1D9B, "modifier-letter-small-", "turned-alpha c c-with-curl eth reversed-open-e f
    dotless-j-with-stroke script-g turned-h i-with-stroke iota capital-i capital-i-with-stroke
    j-with-crossed-tail l-with-retroflex-hook l-with-palatal-hook capital-l m-with-hook
    turned-m-with-long-leg n-with-left-hook n-with-retroflex-hook capital-n barred-o phi
    s-with-hook esh t-with-palatal-hook u-bar upsilon capital-u v-with-hook turned-v z
    z-with-retroflex-hook z-with-curl ezh theta"⟩,
  ⟨0x1DC0, "combining-", "dotted-grave-accent dotted-acute-accent snake-below suspension-mark
    macron-acute grave-macron macron-grave acute-macron grave-acute-grave acute-grave-acute
    latin-small-letter-r-below breve-macron macron-breve double-circumflex-above ogonek-above
    zigzag-below is-below ur-above us-above"⟩,
  ⟨0x1DD3, "combining-latin-small-letter-", "flattened-open-a-above ae ao av c-cedilla insular-d
    eth g"⟩,
  ⟨0x1DDB, "combining-latin-", "letter-small-capital-g small-letter-k small-letter-l
    letter-small-capital-l letter-small-capital-m small-letter-n letter-small-capital-n
    letter-small-capital-r"⟩,
  ⟨0x1DE3, "combining-latin-small-letter-", "r-rotunda s long-s z alpha b beta schwa f
    l-with-double-middle-tilde o-with-light-centralization-stroke p esh
    u-with-light-centralization-stroke w a-with-diaeresis o-with-diaeresis u-with-diaeresis"⟩,
  ⟨0x1DF5, "combining-", "up-tack-above kavyka-above-right kavyka-above-left dot-above-left
    wide-inverted-bridge-below dot-below-left deletion-mark double-inverted-breve-below
    almost-equal-to-below left-arrowhead-above right-arrowhead-and-down-arrowhead-below"⟩,
  ⟨0x1E00, "latin-", "capital-letter-a-with-ring-below small-letter-a-with-ring-below
    capital-letter-b-with-dot-above small-letter-b-with-dot-above capital-letter-b-with-dot-below
    small-letter-b-with-dot-below capital-letter-b-with-line-below small-letter-b-with-line-below
    capital-letter-c-with-cedilla-and-acute small-letter-c-with-cedilla-and-acute
    capital-letter-d-with-dot-above small-letter-d-with-dot-above capital-letter-d-with-dot-below
    small-letter-d-with-dot-below capital-letter-d-with-line-below small-letter-d-with-line-below
    capital-letter-d-with-cedilla small-letter-d-with-cedilla
    capital-letter-d-with-circumflex-below small-letter-d-with-circumflex-below
    capital-letter-e-with-macron-and-grave small-letter-e-with-macron-and-grave
    capital-letter-e-with-macron-and-acute small-letter-e-with-macron-and-acute
    capital-letter-e-with-circumflex-below small-letter-e-with-circumflex-below
    capital-letter-e-with-tilde-below small-letter-e-with-tilde-below
    capital-letter-e-with-cedilla-and-breve small-letter-e-with-cedilla-and-breve
    capital-letter-f-with-dot-above small-letter-f-with-dot-above capital-letter-g-with-macron
    small-letter-g-with-macron capital-letter-h-with-dot-above small-letter-h-with-dot-above
    capital-letter-h-with-dot-below small-letter-h-with-dot-below capital-letter-h-with-diaeresis
    small-letter-h-with-diaeresis capital-letter-h-with-cedilla small-letter-h-with-cedilla
    capital-letter-h-with-breve-below small-letter-h-with-breve-below
    capital-letter-i-with-tilde-below small-letter-i-with-tilde-below
    capital-letter-i-with-diaeresis-and-acute small-letter-i-with-diaeresis-and-acute
    capital-letter-k-with-acute small-letter-k-with-acute capital-letter-k-with-dot-below
    small-letter-k-with-dot-below capital-letter-k-with-line-below small-letter-k-with-line-below
    capital-letter-l-with-dot-below small-letter-l-with-dot-below
    capital-letter-l-with-dot-below-and-macron small-letter-l-with-dot-below-and-macron
    capital-letter-l-with-line-below small-letter-l-with-line-below
    capital-letter-l-with-circumflex-below small-letter-l-with-circumflex-below
    capital-letter-m-with-acute small-letter-m-with-acute capital-letter-m-with-dot-above
    small-letter-m-with-dot-above capital-letter-m-with-dot-below small-letter-m-with-dot-below
    capital-letter-n-with-dot-above small-letter-n-with-dot-above capital-letter-n-with-dot-below
    small-letter-n-with-dot-below capital-letter-n-with-line-below small-letter-n-with-line-below
    capital-letter-n-with-circumflex-below small-letter-n-with-circumflex-below
    capital-letter-o-with-tilde-and-acute small-letter-o-with-tilde-and-acute
    capital-letter-o-with-tilde-and-diaeresis small-letter-o-with-tilde-and-diaeresis
    capital-letter-o-with-macron-and-grave small-letter-o-with-macron-and-grave
    capital-letter-o-with-macron-and-acute small-letter-o-with-macron-and-acute
    capital-letter-p-with-acute small-letter-p-with-acute capital-letter-p-with-dot-above
    small-letter-p-with-dot-above capital-letter-r-with-dot-above small-letter-r-with-dot-above
    capital-letter-r-with-dot-below small-letter-r-with-dot-below
    capital-letter-r-with-dot-below-and-macron small-letter-r-with-dot-below-and-macron
    capital-letter-r-with-line-below small-letter-r-with-line-below
    capital-letter-s-with-dot-above small-letter-s-with-dot-above capital-letter-s-with-dot-below
    small-letter-s-with-dot-below capital-letter-s-with-acute-and-dot-above
    small-letter-s-with-acute-and-dot-above capital-letter-s-with-caron-and-dot-above
    small-letter-s-with-caron-and-dot-above capital-letter-s-with-dot-below-and-dot-above
    small-letter-s-with-dot-below-and-dot-above capital-letter-t-with-dot-above
    small-letter-t-with-dot-above capital-letter-t-with-dot-below small-letter-t-with-dot-below
    capital-letter-t-with-line-below small-letter-t-with-line-below
    capital-letter-t-with-circumflex-below small-letter-t-with-circumflex-below
    capital-letter-u-with-diaeresis-below small-letter-u-with-diaeresis-below
    capital-letter-u-with-tilde-below small-letter-u-with-tilde-below
    capital-letter-u-with-circumflex-below small-letter-u-with-circumflex-below
    capital-letter-u-with-tilde-and-acute small-letter-u-with-tilde-and-acute
    capital-letter-u-with-macron-and-diaeresis small-letter-u-with-macron-and-diaeresis
    capital-letter-v-with-tilde small-letter-v-with-tilde capital-letter-v-with-dot-below
    small-letter-v-with-dot-below capital-letter-w-with-grave small-letter-w-with-grave
    capital-letter-w-with-acute small-letter-w-with-acute capital-letter-w-with-diaeresis
    small-letter-w-with-diaeresis capital-letter-w-with-dot-above small-letter-w-with-dot-above
    capital-letter-w-with-dot-below small-letter-w-with-dot-below capital-letter-x-with-dot-above
    small-letter-x-with-dot-above capital-letter-x-with-diaeresis small-letter-x-with-diaeresis
    capital-letter-y-with-dot-above small-letter-y-with-dot-above
    capital-letter-z-with-circumflex small-letter-z-with-circumflex
    capital-letter-z-with-dot-below small-letter-z-with-dot-below
    capital-letter-z-with-line-below"⟩,
  ⟨0x1E95, "latin-small-letter-", "z-with-line-below h-with-line-below t-with-diaeresis
    w-with-ring-above y-with-ring-above a-with-right-half-ring long-s-with-dot-above
    long-s-with-diagonal-stroke long-s-with-high-stroke"⟩,
  ⟨0x1E9E, "latin-", "capital-letter-sharp-s small-letter-delta capital-letter-a-with-dot-below
    small-letter-a-with-dot-below capital-letter-a-with-hook-above small-letter-a-with-hook-above
    capital-letter-a-with-circumflex-and-acute small-letter-a-with-circumflex-and-acute
    capital-letter-a-with-circumflex-and-grave small-letter-a-with-circumflex-and-grave
    capital-letter-a-with-circumflex-and-hook-above small-letter-a-with-circumflex-and-hook-above
    capital-letter-a-with-circumflex-and-tilde small-letter-a-with-circumflex-and-tilde
    capital-letter-a-with-circumflex-and-dot-below small-letter-a-with-circumflex-and-dot-below
    capital-letter-a-with-breve-and-acute small-letter-a-with-breve-and-acute
    capital-letter-a-with-breve-and-grave small-letter-a-with-breve-and-grave
    capital-letter-a-with-breve-and-hook-above small-letter-a-with-breve-and-hook-above
    capital-letter-a-with-breve-and-tilde small-letter-a-with-breve-and-tilde
    capital-letter-a-with-breve-and-dot-below small-letter-a-with-breve-and-dot-below
    capital-letter-e-with-dot-below small-letter-e-with-dot-below
    capital-letter-e-with-hook-above small-letter-e-with-hook-above capital-letter-e-with-tilde
    small-letter-e-with-tilde capital-letter-e-with-circumflex-and-acute
    small-letter-e-with-circumflex-and-acute capital-letter-e-with-circumflex-and-grave
    small-letter-e-with-circumflex-and-grave capital-letter-e-with-circumflex-and-hook-above
    small-letter-e-with-circumflex-and-hook-above capital-letter-e-with-circumflex-and-tilde
    small-letter-e-with-circumflex-and-tilde capital-letter-e-with-circumflex-and-dot-below
    small-letter-e-with-circumflex-and-dot-below capital-letter-i-with-hook-above
    small-letter-i-with-hook-above capital-letter-i-with-dot-below small-letter-i-with-dot-below
    capital-letter-o-with-dot-below small-letter-o-with-dot-below
    capital-letter-o-with-hook-above small-letter-o-with-hook-above
    capital-letter-o-with-circumflex-and-acute small-letter-o-with-circumflex-and-acute
    capital-letter-o-with-circumflex-and-grave small-letter-o-with-circumflex-and-grave
    capital-letter-o-with-circumflex-and-hook-above small-letter-o-with-circumflex-and-hook-above
    capital-letter-o-with-circumflex-and-tilde small-letter-o-with-circumflex-and-tilde
    capital-letter-o-with-circumflex-and-dot-below small-letter-o-with-circumflex-and-dot-below
    capital-letter-o-with-horn-and-acute small-letter-o-with-horn-and-acute
    capital-letter-o-with-horn-and-grave small-letter-o-with-horn-and-grave
    capital-letter-o-with-horn-and-hook-above small-letter-o-with-horn-and-hook-above
    capital-letter-o-with-horn-and-tilde small-letter-o-with-horn-and-tilde
    capital-letter-o-with-horn-and-dot-below small-letter-o-with-horn-and-dot-below
    capital-letter-u-with-dot-below small-letter-u-with-dot-below
    capital-letter-u-with-hook-above small-letter-u-with-hook-above
    capital-letter-u-with-horn-and-acute small-letter-u-with-horn-and-acute
    capital-letter-u-with-horn-and-grave small-letter-u-with-horn-and-grave
    capital-letter-u-with-horn-and-hook-above small-letter-u-with-horn-and-hook-above
    capital-letter-u-with-horn-and-tilde small-letter-u-with-horn-and-tilde
    capital-letter-u-with-horn-and-dot-below small-letter-u-with-horn-and-dot-below
    capital-letter-y-with-grave small-letter-y-with-grave capital-letter-y-with-dot-below
    small-letter-y-with-dot-below capital-letter-y-with-hook-above small-letter-y-with-hook-above
    capital-letter-y-with-tilde small-letter-y-with-tilde capital-letter-middle-welsh-ll
    small-letter-middle-welsh-ll capital-letter-middle-welsh-v small-letter-middle-welsh-v
    capital-letter-y-with-loop small-letter-y-with-loop"⟩,
  ⟨0x1F00, "greek-small-letter-alpha-with-", "psili dasia psili-and-varia dasia-and-varia
    psili-and-oxia dasia-and-oxia psili-and-perispomeni dasia-and-perispomeni"⟩,
  ⟨0x1F08, "greek-capital-letter-alpha-with-", "psili dasia psili-and-varia dasia-and-varia
    psili-and-oxia dasia-and-oxia psili-and-perispomeni dasia-and-perispomeni"⟩,
  ⟨0x1F10, "greek-small-letter-epsilon-with-", "psili dasia psili-and-varia dasia-and-varia
    psili-and-oxia dasia-and-oxia"⟩,
  ⟨0x1F18, "greek-capital-letter-epsilon-with-", "psili dasia psili-and-varia dasia-and-varia
    psili-and-oxia dasia-and-oxia"⟩,
  ⟨0x1F20, "greek-small-letter-eta-with-", "psili dasia psili-and-varia dasia-and-varia
    psili-and-oxia dasia-and-oxia psili-and-perispomeni dasia-and-perispomeni"⟩,
  ⟨0x1F28, "greek-capital-letter-eta-with-", "psili dasia psili-and-varia dasia-and-varia
    psili-and-oxia dasia-and-oxia psili-and-perispomeni dasia-and-perispomeni"⟩,
  ⟨0x1F30, "greek-small-letter-iota-with-", "psili dasia psili-and-varia dasia-and-varia
    psili-and-oxia dasia-and-oxia psili-and-perispomeni dasia-and-perispomeni"⟩,
  ⟨0x1F38, "greek-capital-letter-iota-with-", "psili dasia psili-and-varia dasia-and-varia
    psili-and-oxia dasia-and-oxia psili-and-perispomeni dasia-and-perispomeni"⟩,
  ⟨0x1F40, "greek-small-letter-omicron-with-", "psili dasia psili-and-varia dasia-and-varia
    psili-and-oxia dasia-and-oxia"⟩,
  ⟨0x1F48, "greek-capital-letter-omicron-with-", "psili dasia psili-and-varia dasia-and-varia
    psili-and-oxia dasia-and-oxia"⟩,
  ⟨0x1F50, "greek-small-letter-upsilon-with-", "psili dasia psili-and-varia dasia-and-varia
    psili-and-oxia dasia-and-oxia psili-and-perispomeni dasia-and-perispomeni"⟩,
  ⟨0x1F59, "greek-capital-letter-upsilon-with-", "dasia"⟩,
  ⟨0x1F5B, "greek-capital-letter-upsilon-with-dasia-and-", "varia"⟩,
  ⟨0x1F5D, "greek-capital-letter-upsilon-with-dasia-and-", "oxia"⟩,
  ⟨0x1F5F, "greek-capital-letter-upsilon-with-dasia-and-", "perispomeni"⟩,
  ⟨0x1F60, "greek-small-letter-omega-with-", "psili dasia psili-and-varia dasia-and-varia
    psili-and-oxia dasia-and-oxia psili-and-perispomeni dasia-and-perispomeni"⟩,
  ⟨0x1F68, "greek-capital-letter-omega-with-", "psili dasia psili-and-varia dasia-and-varia
    psili-and-oxia dasia-and-oxia psili-and-perispomeni dasia-and-perispomeni"⟩,
  ⟨0x1F70, "greek-small-letter-", "alpha-with-varia alpha-with-oxia epsilon-with-varia
    epsilon-with-oxia eta-with-varia eta-with-oxia iota-with-varia iota-with-oxia
    omicron-with-varia omicron-with-oxia upsilon-with-varia upsilon-with-oxia omega-with-varia
    omega-with-oxia"⟩,
  ⟨0x1F80, "greek-small-letter-alpha-with-", "psili-and-ypogegrammeni dasia-and-ypogegrammeni
    psili-and-varia-and-ypogegrammeni dasia-and-varia-and-ypogegrammeni
    psili-and-oxia-and-ypogegrammeni dasia-and-oxia-and-ypogegrammeni
    psili-and-perispomeni-and-ypogegrammeni dasia-and-perispomeni-and-ypogegrammeni"⟩,
  ⟨0x1F88, "greek-capital-letter-alpha-with-", "psili-and-prosgegrammeni dasia-and-prosgegrammeni
    psili-and-varia-and-prosgegrammeni dasia-and-varia-and-prosgegrammeni
    psili-and-oxia-and-prosgegrammeni dasia-and-oxia-and-prosgegrammeni
    psili-and-perispomeni-and-prosgegrammeni dasia-and-perispomeni-and-prosgegrammeni"⟩,
  ⟨0x1F90, "greek-small-letter-eta-with-", "psili-and-ypogegrammeni dasia-and-ypogegrammeni
    psili-and-varia-and-ypogegrammeni dasia-and-varia-and-ypogegrammeni
    psili-and-oxia-and-ypogegrammeni dasia-and-oxia-and-ypogegrammeni
    psili-and-perispomeni-and-ypogegrammeni dasia-and-perispomeni-and-ypogegrammeni"⟩,
  ⟨0x1F98, "greek-capital-letter-eta-with-", "psili-and-prosgegrammeni dasia-and-prosgegrammeni
    psili-and-varia-and-prosgegrammeni dasia-and-varia-and-prosgegrammeni
    psili-and-oxia-and-prosgegrammeni dasia-and-oxia-and-prosgegrammeni
    psili-and-perispomeni-and-prosgegrammeni dasia-and-perispomeni-and-prosgegrammeni"⟩,
  ⟨0x1FA0, "greek-small-letter-omega-with-", "psili-and-ypogegrammeni dasia-and-ypogegrammeni
    psili-and-varia-and-ypogegrammeni dasia-and-varia-and-ypogegrammeni
    psili-and-oxia-and-ypogegrammeni dasia-and-oxia-and-ypogegrammeni
    psili-and-perispomeni-and-ypogegrammeni dasia-and-perispomeni-and-ypogegrammeni"⟩,
  ⟨0x1FA8, "greek-capital-letter-omega-with-", "psili-and-prosgegrammeni dasia-and-prosgegrammeni
    psili-and-varia-and-prosgegrammeni dasia-and-varia-and-prosgegrammeni
    psili-and-oxia-and-prosgegrammeni dasia-and-oxia-and-prosgegrammeni
    psili-and-perispomeni-and-prosgegrammeni dasia-and-perispomeni-and-prosgegrammeni"⟩,
  ⟨0x1FB0, "greek-small-letter-alpha-with-", "vrachy macron varia-and-ypogegrammeni ypogegrammeni
    oxia-and-ypogegrammeni"⟩,
  ⟨0x1FB6, "greek-small-letter-alpha-with-", "perispomeni perispomeni-and-ypogegrammeni"⟩,
  ⟨0x1FB8, "greek-capital-letter-alpha-with-", "vrachy macron varia oxia prosgegrammeni"⟩,
  ⟨0x1FBD, "greek-", "koronis prosgegrammeni psili perispomeni dialytika-and-perispomeni"⟩,
  ⟨0x1FC2, "greek-small-letter-eta-with-", "varia-and-ypogegrammeni ypogegrammeni
    oxia-and-ypogegrammeni"⟩,
  ⟨0x1FC6, "greek-small-letter-eta-with-", "perispomeni perispomeni-and-ypogegrammeni"⟩,
  ⟨0x1FC8, "greek-capital-letter-", "epsilon-with-varia epsilon-with-oxia eta-with-varia
    eta-with-oxia eta-with-prosgegrammeni"⟩,
  ⟨0x1FCD, "greek-psili-and-", "varia oxia perispomeni"⟩,
  ⟨0x1FD0, "greek-small-letter-iota-with-", "vrachy macron dialytika-and-varia dialytika-and-oxia"⟩,
  ⟨0x1FD6, "greek-small-letter-iota-with-", "perispomeni dialytika-and-perispomeni"⟩,
  ⟨0x1FD8, "greek-capital-letter-iota-with-", "vrachy macron varia oxia"⟩,
  ⟨0x1FDD, "greek-dasia-and-", "varia oxia perispomeni"⟩,
  ⟨0x1FE0, "greek-small-letter-upsilon-with-", "vrachy macron dialytika-and-varia
    dialytika-and-oxia"⟩,
  ⟨0x1FE4, "greek-small-letter-", "rho-with-psili rho-with-dasia upsilon-with-perispomeni
    upsilon-with-dialytika-and-perispomeni"⟩,
  ⟨0x1FE8, "greek-capital-letter-upsilon-with-", "vrachy macron varia oxia"⟩,
  ⟨0x1FEC, "greek-", "capital-letter-rho-with-dasia dialytika-and-varia dialytika-and-oxia varia"⟩,
  ⟨0x1FF2, "greek-small-letter-omega-with-", "varia-and-ypogegrammeni ypogegrammeni
    oxia-and-ypogegrammeni"⟩,
  ⟨0x1FF6, "greek-small-letter-omega-with-", "perispomeni perispomeni-and-ypogegrammeni"⟩,
  ⟨0x1FF8, "greek-capital-letter-", "omicron-with-varia omicron-with-oxia omega-with-varia
    omega-with-oxia omega-with-prosgegrammeni"⟩,
  ⟨0x1FFD, "greek-", "oxia dasia"⟩]

end Dictation.Unicode.Name
