import Dictation.Unicode.Name.Block
/-!
# Presentation forms

Spoken names from 0xFB00 on, as of Unicode 16.
-/
namespace Dictation.Unicode.Name

set_option maxRecDepth 10000 in
def presentationFormsBlocks : List Block := [
  ⟨0xFB00, "latin-small-ligature-", "ff fi fl ffi ffl long-s-t st"⟩,
  ⟨0xFB13, "armenian-small-ligature-", "men-now men-ech men-ini vew-now men-xeh"⟩,
  ⟨0xFB1D, "hebrew-", "letter-yod-with-hiriq point-judeo-spanish-varika
    ligature-yiddish-yod-yod-patah"⟩,
  ⟨0xFB20, "hebrew-letter-", "alternative-ayin wide-alef wide-dalet wide-he wide-kaf wide-lamed
    wide-final-mem wide-resh wide-tav alternative-plus-sign shin-with-shin-dot shin-with-sin-dot
    shin-with-dagesh-and-shin-dot shin-with-dagesh-and-sin-dot alef-with-patah alef-with-qamats
    alef-with-mapiq bet-with-dagesh gimel-with-dagesh dalet-with-dagesh he-with-mapiq
    vav-with-dagesh zayin-with-dagesh"⟩,
  ⟨0xFB38, "hebrew-letter-", "tet-with-dagesh yod-with-dagesh final-kaf-with-dagesh
    kaf-with-dagesh lamed-with-dagesh"⟩,
  ⟨0xFB3E, "hebrew-letter-mem-with-", "dagesh"⟩,
  ⟨0xFB40, "hebrew-letter-", "nun-with-dagesh samekh-with-dagesh"⟩,
  ⟨0xFB43, "hebrew-letter-", "final-pe-with-dagesh pe-with-dagesh"⟩,
  ⟨0xFB46, "hebrew-letter-", "tsadi-with-dagesh qof-with-dagesh resh-with-dagesh shin-with-dagesh
    tav-with-dagesh vav-with-holam bet-with-rafe kaf-with-rafe pe-with-rafe"⟩,
  ⟨0xFB4F, "hebrew-ligature-alef-", "lamed"⟩,
  ⟨0xFB50, "arabic-letter-", "alef-wasla-isolated-form alef-wasla-final-form beeh-isolated-form
    beeh-final-form beeh-initial-form beeh-medial-form peh-isolated-form peh-final-form
    peh-initial-form peh-medial-form beheh-isolated-form beheh-final-form beheh-initial-form
    beheh-medial-form tteheh-isolated-form tteheh-final-form tteheh-initial-form
    tteheh-medial-form teheh-isolated-form teheh-final-form teheh-initial-form teheh-medial-form
    tteh-isolated-form tteh-final-form tteh-initial-form tteh-medial-form veh-isolated-form
    veh-final-form veh-initial-form veh-medial-form peheh-isolated-form peheh-final-form
    peheh-initial-form peheh-medial-form dyeh-isolated-form dyeh-final-form dyeh-initial-form
    dyeh-medial-form nyeh-isolated-form nyeh-final-form nyeh-initial-form nyeh-medial-form
    tcheh-isolated-form tcheh-final-form tcheh-initial-form tcheh-medial-form
    tcheheh-isolated-form tcheheh-final-form tcheheh-initial-form tcheheh-medial-form
    ddahal-isolated-form ddahal-final-form dahal-isolated-form dahal-final-form dul-isolated-form
    dul-final-form ddal-isolated-form ddal-final-form jeh-isolated-form jeh-final-form
    rreh-isolated-form rreh-final-form keheh-isolated-form keheh-final-form keheh-initial-form
    keheh-medial-form gaf-isolated-form gaf-final-form gaf-initial-form gaf-medial-form
    gueh-isolated-form gueh-final-form gueh-initial-form gueh-medial-form ngoeh-isolated-form
    ngoeh-final-form ngoeh-initial-form ngoeh-medial-form noon-ghunna-isolated-form
    noon-ghunna-final-form rnoon-isolated-form rnoon-final-form rnoon-initial-form
    rnoon-medial-form heh-with-yeh-above-isolated-form heh-with-yeh-above-final-form
    heh-goal-isolated-form heh-goal-final-form heh-goal-initial-form heh-goal-medial-form"⟩,
  ⟨0xFBAA, "arabic-letter-heh-doachashmee-", "isolated-form final-form initial-form medial-form"⟩,
  ⟨0xFBAE, "arabic-letter-yeh-barree-", "isolated-form final-form with-hamza-above-isolated-form
    with-hamza-above-final-form"⟩,
  ⟨0xFBB2, "arabic-symbol-", "dot-above dot-below two-dots-above two-dots-below three-dots-above
    three-dots-below three-dots-pointing-downwards-above three-dots-pointing-downwards-below
    four-dots-above four-dots-below double-vertical-bar-below two-dots-vertically-above
    two-dots-vertically-below ring small-tah-above small-tah-below wasla-above"⟩,
  ⟨0xFBD3, "arabic-letter-", "ng-isolated-form ng-final-form ng-initial-form ng-medial-form
    u-isolated-form u-final-form oe-isolated-form oe-final-form yu-isolated-form yu-final-form
    u-with-hamza-above-isolated-form ve-isolated-form ve-final-form kirghiz-oe-isolated-form
    kirghiz-oe-final-form kirghiz-yu-isolated-form kirghiz-yu-final-form e-isolated-form
    e-final-form e-initial-form e-medial-form"⟩,
  ⟨0xFBE8, "arabic-letter-uighur-kazakh-kirghiz-alef-maksura-", "initial-form medial-form"⟩,
  ⟨0xFBEA, "arabic-ligature-yeh-with-hamza-above-with-", "alef-isolated-form alef-final-form
    ae-isolated-form ae-final-form waw-isolated-form waw-final-form u-isolated-form u-final-form
    oe-isolated-form oe-final-form yu-isolated-form yu-final-form e-isolated-form e-final-form
    e-initial-form"⟩,
  ⟨0xFBF9, "arabic-ligature-uighur-kirghiz-yeh-with-hamza-above-with-alef-maksura-", "
    isolated-form final-form initial-form"⟩,
  ⟨0xFBFC, "arabic-letter-farsi-yeh-", "isolated-form final-form initial-form medial-form"⟩,
  ⟨0xFC00, "arabic-ligature-yeh-with-hamza-above-with-", "jeem-isolated-form hah-isolated-form
    meem-isolated-form alef-maksura-isolated-form yeh-isolated-form"⟩,
  ⟨0xFC05, "arabic-ligature-beh-with-", "jeem-isolated-form hah-isolated-form khah-isolated-form
    meem-isolated-form alef-maksura-isolated-form yeh-isolated-form"⟩,
  ⟨0xFC0B, "arabic-ligature-teh-with-", "jeem-isolated-form hah-isolated-form khah-isolated-form
    meem-isolated-form alef-maksura-isolated-form yeh-isolated-form"⟩,
  ⟨0xFC11, "arabic-ligature-", "theh-with-jeem-isolated-form theh-with-meem-isolated-form
    theh-with-alef-maksura-isolated-form theh-with-yeh-isolated-form jeem-with-hah-isolated-form
    jeem-with-meem-isolated-form hah-with-jeem-isolated-form hah-with-meem-isolated-form
    khah-with-jeem-isolated-form khah-with-hah-isolated-form khah-with-meem-isolated-form
    seen-with-jeem-isolated-form seen-with-hah-isolated-form seen-with-khah-isolated-form
    seen-with-meem-isolated-form sad-with-hah-isolated-form sad-with-meem-isolated-form
    dad-with-jeem-isolated-form dad-with-hah-isolated-form dad-with-khah-isolated-form
    dad-with-meem-isolated-form tah-with-hah-isolated-form tah-with-meem-isolated-form
    zah-with-meem-isolated-form ain-with-jeem-isolated-form ain-with-meem-isolated-form
    ghain-with-jeem-isolated-form ghain-with-meem-isolated-form"⟩,
  ⟨0xFC2D, "arabic-ligature-feh-with-", "jeem-isolated-form hah-isolated-form khah-isolated-form
    meem-isolated-form alef-maksura-isolated-form yeh-isolated-form"⟩,
  ⟨0xFC33, "arabic-ligature-qaf-with-", "hah-isolated-form meem-isolated-form
    alef-maksura-isolated-form yeh-isolated-form"⟩,
  ⟨0xFC37, "arabic-ligature-kaf-with-", "alef-isolated-form jeem-isolated-form hah-isolated-form
    khah-isolated-form lam-isolated-form meem-isolated-form alef-maksura-isolated-form
    yeh-isolated-form"⟩,
  ⟨0xFC3F, "arabic-ligature-lam-with-", "jeem-isolated-form hah-isolated-form khah-isolated-form
    meem-isolated-form alef-maksura-isolated-form yeh-isolated-form"⟩,
  ⟨0xFC45, "arabic-ligature-meem-with-", "jeem-isolated-form hah-isolated-form khah-isolated-form
    meem-isolated-form alef-maksura-isolated-form yeh-isolated-form"⟩,
  ⟨0xFC4B, "arabic-ligature-noon-with-", "jeem-isolated-form hah-isolated-form khah-isolated-form
    meem-isolated-form alef-maksura-isolated-form yeh-isolated-form"⟩,
  ⟨0xFC51, "arabic-ligature-heh-with-", "jeem-isolated-form meem-isolated-form
    alef-maksura-isolated-form yeh-isolated-form"⟩,
  ⟨0xFC55, "arabic-ligature-yeh-with-", "jeem-isolated-form hah-isolated-form khah-isolated-form
    meem-isolated-form alef-maksura-isolated-form yeh-isolated-form"⟩,
  ⟨0xFC5B, "arabic-ligature-", "thal-with-superscript-alef-isolated-form
    reh-with-superscript-alef-isolated-form alef-maksura-with-superscript-alef-isolated-form"⟩,
  ⟨0xFC5E, "arabic-ligature-shadda-with-", "dammatan-isolated-form kasratan-isolated-form
    fatha-isolated-form damma-isolated-form kasra-isolated-form superscript-alef-isolated-form"⟩,
  ⟨0xFC64, "arabic-ligature-yeh-with-hamza-above-with-", "reh-final-form zain-final-form
    meem-final-form noon-final-form alef-maksura-final-form yeh-final-form"⟩,
  ⟨0xFC6A, "arabic-ligature-beh-with-", "reh-final-form zain-final-form meem-final-form
    noon-final-form alef-maksura-final-form yeh-final-form"⟩,
  ⟨0xFC70, "arabic-ligature-teh-with-", "reh-final-form zain-final-form meem-final-form
    noon-final-form alef-maksura-final-form yeh-final-form"⟩,
  ⟨0xFC76, "arabic-ligature-theh-with-", "reh-final-form zain-final-form meem-final-form
    noon-final-form alef-maksura-final-form yeh-final-form"⟩,
  ⟨0xFC7C, "arabic-ligature-", "feh-with-alef-maksura-final-form feh-with-yeh-final-form
    qaf-with-alef-maksura-final-form qaf-with-yeh-final-form kaf-with-alef-final-form
    kaf-with-lam-final-form kaf-with-meem-final-form kaf-with-alef-maksura-final-form
    kaf-with-yeh-final-form lam-with-meem-final-form lam-with-alef-maksura-final-form
    lam-with-yeh-final-form meem-with-alef-final-form meem-with-meem-final-form
    noon-with-reh-final-form noon-with-zain-final-form noon-with-meem-final-form
    noon-with-noon-final-form noon-with-alef-maksura-final-form noon-with-yeh-final-form
    alef-maksura-with-superscript-alef-final-form"⟩,
  ⟨0xFC91, "arabic-ligature-yeh-with-", "reh-final-form zain-final-form meem-final-form
    noon-final-form alef-maksura-final-form yeh-final-form"⟩,
  ⟨0xFC97, "arabic-ligature-yeh-with-hamza-above-with-", "jeem-initial-form hah-initial-form
    khah-initial-form meem-initial-form heh-initial-form"⟩,
  ⟨0xFC9C, "arabic-ligature-beh-with-", "jeem-initial-form hah-initial-form khah-initial-form
    meem-initial-form heh-initial-form"⟩,
  ⟨0xFCA1, "arabic-ligature-teh-with-", "jeem-initial-form hah-initial-form khah-initial-form
    meem-initial-form heh-initial-form"⟩,
  ⟨0xFCA6, "arabic-ligature-", "theh-with-meem-initial-form jeem-with-hah-initial-form
    jeem-with-meem-initial-form hah-with-jeem-initial-form hah-with-meem-initial-form
    khah-with-jeem-initial-form khah-with-meem-initial-form seen-with-jeem-initial-form
    seen-with-hah-initial-form seen-with-khah-initial-form seen-with-meem-initial-form
    sad-with-hah-initial-form sad-with-khah-initial-form sad-with-meem-initial-form
    dad-with-jeem-initial-form dad-with-hah-initial-form dad-with-khah-initial-form
    dad-with-meem-initial-form tah-with-hah-initial-form zah-with-meem-initial-form
    ain-with-jeem-initial-form ain-with-meem-initial-form ghain-with-jeem-initial-form
    ghain-with-meem-initial-form feh-with-jeem-initial-form feh-with-hah-initial-form
    feh-with-khah-initial-form feh-with-meem-initial-form qaf-with-hah-initial-form
    qaf-with-meem-initial-form"⟩,
  ⟨0xFCC4, "arabic-ligature-kaf-with-", "jeem-initial-form hah-initial-form khah-initial-form
    lam-initial-form meem-initial-form"⟩,
  ⟨0xFCC9, "arabic-ligature-lam-with-", "jeem-initial-form hah-initial-form khah-initial-form
    meem-initial-form heh-initial-form"⟩,
  ⟨0xFCCE, "arabic-ligature-meem-with-", "jeem-initial-form hah-initial-form khah-initial-form
    meem-initial-form"⟩,
  ⟨0xFCD2, "arabic-ligature-noon-with-", "jeem-initial-form hah-initial-form khah-initial-form
    meem-initial-form heh-initial-form"⟩,
  ⟨0xFCD7, "arabic-ligature-heh-with-", "jeem-initial-form meem-initial-form
    superscript-alef-initial-form"⟩,
  ⟨0xFCDA, "arabic-ligature-yeh-with-", "jeem-initial-form hah-initial-form khah-initial-form
    meem-initial-form heh-initial-form hamza-above-with-meem-medial-form
    hamza-above-with-heh-medial-form"⟩,
  ⟨0xFCE1, "arabic-ligature-", "beh-with-meem-medial-form beh-with-heh-medial-form
    teh-with-meem-medial-form teh-with-heh-medial-form theh-with-meem-medial-form
    theh-with-heh-medial-form seen-with-meem-medial-form seen-with-heh-medial-form
    sheen-with-meem-medial-form sheen-with-heh-medial-form kaf-with-lam-medial-form
    kaf-with-meem-medial-form lam-with-meem-medial-form noon-with-meem-medial-form
    noon-with-heh-medial-form yeh-with-meem-medial-form yeh-with-heh-medial-form
    shadda-with-fatha-medial-form shadda-with-damma-medial-form shadda-with-kasra-medial-form
    tah-with-alef-maksura-isolated-form tah-with-yeh-isolated-form
    ain-with-alef-maksura-isolated-form ain-with-yeh-isolated-form
    ghain-with-alef-maksura-isolated-form ghain-with-yeh-isolated-form
    seen-with-alef-maksura-isolated-form seen-with-yeh-isolated-form
    sheen-with-alef-maksura-isolated-form sheen-with-yeh-isolated-form
    hah-with-alef-maksura-isolated-form hah-with-yeh-isolated-form
    jeem-with-alef-maksura-isolated-form jeem-with-yeh-isolated-form
    khah-with-alef-maksura-isolated-form khah-with-yeh-isolated-form
    sad-with-alef-maksura-isolated-form sad-with-yeh-isolated-form
    dad-with-alef-maksura-isolated-form dad-with-yeh-isolated-form sheen-with-jeem-isolated-form
    sheen-with-hah-isolated-form sheen-with-khah-isolated-form sheen-with-meem-isolated-form
    sheen-with-reh-isolated-form seen-with-reh-isolated-form sad-with-reh-isolated-form
    dad-with-reh-isolated-form tah-with-alef-maksura-final-form tah-with-yeh-final-form
    ain-with-alef-maksura-final-form ain-with-yeh-final-form ghain-with-alef-maksura-final-form
    ghain-with-yeh-final-form seen-with-alef-maksura-final-form seen-with-yeh-final-form
    sheen-with-alef-maksura-final-form sheen-with-yeh-final-form hah-with-alef-maksura-final-form
    hah-with-yeh-final-form jeem-with-alef-maksura-final-form jeem-with-yeh-final-form
    khah-with-alef-maksura-final-form khah-with-yeh-final-form sad-with-alef-maksura-final-form
    sad-with-yeh-final-form dad-with-alef-maksura-final-form dad-with-yeh-final-form
    sheen-with-jeem-final-form sheen-with-hah-final-form sheen-with-khah-final-form
    sheen-with-meem-final-form sheen-with-reh-final-form seen-with-reh-final-form
    sad-with-reh-final-form dad-with-reh-final-form sheen-with-jeem-initial-form
    sheen-with-hah-initial-form sheen-with-khah-initial-form sheen-with-meem-initial-form
    seen-with-heh-initial-form sheen-with-heh-initial-form tah-with-meem-initial-form
    seen-with-jeem-medial-form seen-with-hah-medial-form seen-with-khah-medial-form
    sheen-with-jeem-medial-form sheen-with-hah-medial-form sheen-with-khah-medial-form
    tah-with-meem-medial-form zah-with-meem-medial-form alef-with-fathatan-final-form
    alef-with-fathatan-isolated-form"⟩,
  ⟨0xFD3E, "ornate-", "left-parenthesis right-parenthesis"⟩,
  ⟨0xFD40, "arabic-ligature-", "rahimahu-allaah radi-allaahu-anh radi-allaahu-anhaa
    radi-allaahu-anhum radi-allaahu-anhumaa radi-allaahu-anhunna sallallaahu-alayhi-wa-aalih
    alayhi-as-salaam alayhim-as-salaam alayhimaa-as-salaam alayhi-as-salaatu-was-salaam
    quddisa-sirrah sallallahu-alayhi-waaalihee-wa-sallam alayhaa-as-salaam tabaaraka-wa-taaalaa
    rahimahum-allaah"⟩,
  ⟨0xFD50, "arabic-ligature-teh-with-", "jeem-with-meem-initial-form hah-with-jeem-final-form
    hah-with-jeem-initial-form hah-with-meem-initial-form khah-with-meem-initial-form
    meem-with-jeem-initial-form meem-with-hah-initial-form meem-with-khah-initial-form"⟩,
  ⟨0xFD58, "arabic-ligature-jeem-with-meem-with-hah-", "final-form initial-form"⟩,
  ⟨0xFD5A, "arabic-ligature-hah-with-meem-with-", "yeh-final-form alef-maksura-final-form"⟩,
  ⟨0xFD5C, "arabic-ligature-seen-with-", "hah-with-jeem-initial-form jeem-with-hah-initial-form
    jeem-with-alef-maksura-final-form meem-with-hah-final-form meem-with-hah-initial-form
    meem-with-jeem-initial-form meem-with-meem-final-form meem-with-meem-initial-form"⟩,
  ⟨0xFD64, "arabic-ligature-sad-with-", "hah-with-hah-final-form hah-with-hah-initial-form
    meem-with-meem-final-form"⟩,
  ⟨0xFD67, "arabic-ligature-sheen-with-", "hah-with-meem-final-form hah-with-meem-initial-form
    jeem-with-yeh-final-form meem-with-khah-final-form meem-with-khah-initial-form
    meem-with-meem-final-form meem-with-meem-initial-form"⟩,
  ⟨0xFD6E, "arabic-ligature-dad-with-", "hah-with-alef-maksura-final-form
    khah-with-meem-final-form khah-with-meem-initial-form"⟩,
  ⟨0xFD71, "arabic-ligature-tah-with-meem-with-", "hah-final-form hah-initial-form
    meem-initial-form yeh-final-form"⟩,
  ⟨0xFD75, "arabic-ligature-ain-with-", "jeem-with-meem-final-form meem-with-meem-final-form
    meem-with-meem-initial-form meem-with-alef-maksura-final-form"⟩,
  ⟨0xFD79, "arabic-ligature-ghain-with-meem-with-", "meem-final-form yeh-final-form
    alef-maksura-final-form"⟩,
  ⟨0xFD7C, "arabic-ligature-feh-with-khah-with-meem-", "final-form initial-form"⟩,
  ⟨0xFD7E, "arabic-ligature-qaf-with-meem-with-", "hah-final-form meem-final-form"⟩,
  ⟨0xFD80, "arabic-ligature-lam-with-", "hah-with-meem-final-form hah-with-yeh-final-form
    hah-with-alef-maksura-final-form jeem-with-jeem-initial-form jeem-with-jeem-final-form
    khah-with-meem-final-form khah-with-meem-initial-form meem-with-hah-final-form
    meem-with-hah-initial-form"⟩,
  ⟨0xFD89, "arabic-ligature-meem-with-", "hah-with-jeem-initial-form hah-with-meem-initial-form
    hah-with-yeh-final-form jeem-with-hah-initial-form jeem-with-meem-initial-form
    khah-with-jeem-initial-form khah-with-meem-initial-form"⟩,
  ⟨0xFD92, "arabic-ligature-", "meem-with-jeem-with-khah-initial-form
    heh-with-meem-with-jeem-initial-form heh-with-meem-with-meem-initial-form
    noon-with-hah-with-meem-initial-form noon-with-hah-with-alef-maksura-final-form
    noon-with-jeem-with-meem-final-form noon-with-jeem-with-meem-initial-form
    noon-with-jeem-with-alef-maksura-final-form noon-with-meem-with-yeh-final-form
    noon-with-meem-with-alef-maksura-final-form yeh-with-meem-with-meem-final-form
    yeh-with-meem-with-meem-initial-form beh-with-khah-with-yeh-final-form
    teh-with-jeem-with-yeh-final-form teh-with-jeem-with-alef-maksura-final-form
    teh-with-khah-with-yeh-final-form teh-with-khah-with-alef-maksura-final-form
    teh-with-meem-with-yeh-final-form teh-with-meem-with-alef-maksura-final-form
    jeem-with-meem-with-yeh-final-form jeem-with-hah-with-alef-maksura-final-form
    jeem-with-meem-with-alef-maksura-final-form seen-with-khah-with-alef-maksura-final-form
    sad-with-hah-with-yeh-final-form sheen-with-hah-with-yeh-final-form
    dad-with-hah-with-yeh-final-form lam-with-jeem-with-yeh-final-form
    lam-with-meem-with-yeh-final-form yeh-with-hah-with-yeh-final-form
    yeh-with-jeem-with-yeh-final-form yeh-with-meem-with-yeh-final-form
    meem-with-meem-with-yeh-final-form qaf-with-meem-with-yeh-final-form
    noon-with-hah-with-yeh-final-form qaf-with-meem-with-hah-initial-form
    lam-with-hah-with-meem-initial-form ain-with-meem-with-yeh-final-form
    kaf-with-meem-with-yeh-final-form noon-with-jeem-with-hah-initial-form
    meem-with-khah-with-yeh-final-form lam-with-jeem-with-meem-initial-form
    kaf-with-meem-with-meem-final-form lam-with-jeem-with-meem-final-form
    noon-with-jeem-with-hah-final-form jeem-with-hah-with-yeh-final-form
    hah-with-jeem-with-yeh-final-form meem-with-jeem-with-yeh-final-form
    feh-with-meem-with-yeh-final-form beh-with-hah-with-yeh-final-form
    kaf-with-meem-with-meem-initial-form ain-with-jeem-with-meem-initial-form
    sad-with-meem-with-meem-initial-form seen-with-khah-with-yeh-final-form
    noon-with-jeem-with-yeh-final-form"⟩,
  ⟨0xFDCF, "arabic-ligature-salaamuhu-", "alaynaa"⟩,
  ⟨0xFDF0, "arabic-ligature-", "salla-used-as-koranic-stop-sign-isolated-form
    qala-used-as-koranic-stop-sign-isolated-form allah-isolated-form akbar-isolated-form
    mohammad-isolated-form salam-isolated-form rasoul-isolated-form alayhe-isolated-form
    wasallam-isolated-form salla-isolated-form sallallahou-alayhe-wasallam jallajalalouhou"⟩,
  ⟨0xFDFC, "rial-", "sign"⟩,
  ⟨0xFDFD, "arabic-ligature-", "bismillah-ar-rahman-ar-raheem subhaanahu-wa-taaalaa azza-wa-jall"⟩,
  ⟨0xFE00, "variation-selector-", "1 2 3 4 5 6 7 8 9 10 11 12 13 14 15 16"⟩,
  ⟨0xFE10, "presentation-form-for-vertical-", "comma ideographic-comma ideographic-full-stop
    colon semicolon exclamation-mark question-mark left-white-lenticular-bracket
    right-white-lenticular-brakcet horizontal-ellipsis"⟩,
  ⟨0xFE20, "combining-", "ligature-left-half ligature-right-half double-tilde-left-half
    double-tilde-right-half macron-left-half macron-right-half conjoining-macron
    ligature-left-half-below ligature-right-half-below tilde-left-half-below
    tilde-right-half-below macron-left-half-below macron-right-half-below conjoining-macron-below
    cyrillic-titlo-left-half cyrillic-titlo-right-half"⟩,
  ⟨0xFE30, "presentation-form-for-vertical-", "two-dot-leader em-dash en-dash low-line
    wavy-low-line left-parenthesis right-parenthesis left-curly-bracket right-curly-bracket
    left-tortoise-shell-bracket right-tortoise-shell-bracket left-black-lenticular-bracket
    right-black-lenticular-bracket left-double-angle-bracket right-double-angle-bracket
    left-angle-bracket right-angle-bracket left-corner-bracket right-corner-bracket
    left-white-corner-bracket right-white-corner-bracket"⟩,
  ⟨0xFE45, "", "sesame-dot white-sesame-dot"⟩,
  ⟨0xFE47, "presentation-form-for-vertical-", "left-square-bracket right-square-bracket"⟩,
  ⟨0xFE49, "", "dashed-overline centreline-overline wavy-overline double-wavy-overline
    dashed-low-line centreline-low-line wavy-low-line small-comma small-ideographic-comma
    small-full-stop"⟩,
  ⟨0xFE54, "small-", "semicolon colon question-mark exclamation-mark em-dash left-parenthesis
    right-parenthesis left-curly-bracket right-curly-bracket left-tortoise-shell-bracket
    right-tortoise-shell-bracket number-sign ampersand asterisk plus-sign hyphen-minus
    less-than-sign greater-than-sign equals-sign"⟩,
  ⟨0xFE68, "small-", "reverse-solidus dollar-sign percent-sign commercial-at"⟩,
  ⟨0xFE70, "arabic-", "fathatan-isolated-form tatweel-with-fathatan-above dammatan-isolated-form
    tail-fragment kasratan-isolated-form"⟩,
  ⟨0xFE76, "arabic-", "fatha-isolated-form fatha-medial-form damma-isolated-form
    damma-medial-form kasra-isolated-form kasra-medial-form shadda-isolated-form
    shadda-medial-form sukun-isolated-form sukun-medial-form letter-hamza-isolated-form"⟩,
  ⟨0xFE81, "arabic-letter-alef-with-", "madda-above-isolated-form madda-above-final-form
    hamza-above-isolated-form hamza-above-final-form"⟩,
  ⟨0xFE85, "arabic-letter-waw-with-hamza-above-", "isolated-form final-form"⟩,
  ⟨0xFE87, "arabic-letter-alef-with-hamza-below-", "isolated-form final-form"⟩,
  ⟨0xFE89, "arabic-letter-yeh-with-hamza-above-", "isolated-form final-form initial-form
    medial-form"⟩,
  ⟨0xFE8D, "arabic-letter-", "alef-isolated-form alef-final-form beh-isolated-form beh-final-form
    beh-initial-form beh-medial-form teh-marbuta-isolated-form teh-marbuta-final-form
    teh-isolated-form teh-final-form teh-initial-form teh-medial-form theh-isolated-form
    theh-final-form theh-initial-form theh-medial-form jeem-isolated-form jeem-final-form
    jeem-initial-form jeem-medial-form hah-isolated-form hah-final-form hah-initial-form
    hah-medial-form khah-isolated-form khah-final-form khah-initial-form khah-medial-form
    dal-isolated-form dal-final-form thal-isolated-form thal-final-form reh-isolated-form
    reh-final-form zain-isolated-form zain-final-form seen-isolated-form seen-final-form
    seen-initial-form seen-medial-form sheen-isolated-form sheen-final-form sheen-initial-form
    sheen-medial-form sad-isolated-form sad-final-form sad-initial-form sad-medial-form
    dad-isolated-form dad-final-form dad-initial-form dad-medial-form tah-isolated-form
    tah-final-form tah-initial-form tah-medial-form zah-isolated-form zah-final-form
    zah-initial-form zah-medial-form ain-isolated-form ain-final-form ain-initial-form
    ain-medial-form ghain-isolated-form ghain-final-form ghain-initial-form ghain-medial-form
    feh-isolated-form feh-final-form feh-initial-form feh-medial-form qaf-isolated-form
    qaf-final-form qaf-initial-form qaf-medial-form kaf-isolated-form kaf-final-form
    kaf-initial-form kaf-medial-form lam-isolated-form lam-final-form lam-initial-form
    lam-medial-form meem-isolated-form meem-final-form meem-initial-form meem-medial-form
    noon-isolated-form noon-final-form noon-initial-form noon-medial-form heh-isolated-form
    heh-final-form heh-initial-form heh-medial-form waw-isolated-form waw-final-form
    alef-maksura-isolated-form alef-maksura-final-form yeh-isolated-form yeh-final-form
    yeh-initial-form yeh-medial-form"⟩,
  ⟨0xFEF5, "arabic-ligature-lam-with-alef-", "with-madda-above-isolated-form
    with-madda-above-final-form with-hamza-above-isolated-form with-hamza-above-final-form
    with-hamza-below-isolated-form with-hamza-below-final-form isolated-form final-form"⟩,
  ⟨0xFEFF, "zero-width-no-break-", "space"⟩,
  ⟨0xFF01, "fullwidth-", "exclamation-mark quotation-mark number-sign dollar-sign percent-sign
    ampersand apostrophe left-parenthesis right-parenthesis asterisk plus-sign comma hyphen-minus
    full-stop solidus"⟩,
  ⟨0xFF10, "fullwidth-digit-", "zero one two three four five six seven eight nine"⟩,
  ⟨0xFF1A, "fullwidth-", "colon semicolon less-than-sign equals-sign greater-than-sign
    question-mark commercial-at"⟩,
  ⟨0xFF21, "fullwidth-latin-capital-letter-", "a b c d e f g h i j k l m n o p q r s t u v w x y
    z"⟩,
  ⟨0xFF3B, "fullwidth-", "left-square-bracket reverse-solidus right-square-bracket
    circumflex-accent low-line grave-accent"⟩,
  ⟨0xFF41, "fullwidth-latin-small-letter-", "a b c d e f g h i j k l m n o p q r s t u v w x y z"⟩,
  ⟨0xFF5B, "fullwidth-", "left-curly-bracket vertical-line right-curly-bracket tilde
    left-white-parenthesis right-white-parenthesis"⟩,
  ⟨0xFF61, "halfwidth-", "ideographic-full-stop left-corner-bracket right-corner-bracket
    ideographic-comma katakana-middle-dot katakana-letter-wo"⟩,
  ⟨0xFF67, "halfwidth-katakana-letter-small-", "a i u e o ya yu yo tu"⟩,
  ⟨0xFF70, "halfwidth-katakana-hiragana-prolonged-sound-", "mark"⟩,
  ⟨0xFF71, "halfwidth-katakana-letter-", "a i u e o ka ki ku ke ko sa si su se so ta ti tu te to
    na ni nu ne no ha hi hu he ho ma mi mu me mo ya yu yo ra ri ru re ro wa n"⟩,
  ⟨0xFF9E, "halfwidth-", "katakana-voiced-sound-mark katakana-semi-voiced-sound-mark
    hangul-filler"⟩,
  ⟨0xFFA1, "halfwidth-hangul-letter-", "kiyeok ssangkiyeok kiyeok-sios nieun nieun-cieuc
    nieun-hieuh tikeut ssangtikeut rieul rieul-kiyeok rieul-mieum rieul-pieup rieul-sios
    rieul-thieuth rieul-phieuph rieul-hieuh mieum pieup ssangpieup pieup-sios sios ssangsios
    ieung cieuc ssangcieuc chieuch khieukh thieuth phieuph hieuh"⟩,
  ⟨0xFFC2, "halfwidth-hangul-letter-", "a ae ya yae eo e"⟩,
  ⟨0xFFCA, "halfwidth-hangul-letter-", "yeo ye o wa wae oe"⟩,
  ⟨0xFFD2, "halfwidth-hangul-letter-", "yo u weo we wi yu"⟩,
  ⟨0xFFDA, "halfwidth-hangul-letter-", "eu yi i"⟩,
  ⟨0xFFE0, "fullwidth-", "cent-sign pound-sign not-sign macron broken-bar yen-sign won-sign"⟩,
  ⟨0xFFE8, "halfwidth-", "forms-light-vertical leftwards-arrow upwards-arrow rightwards-arrow
    downwards-arrow black-square white-circle"⟩,
  ⟨0xFFF9, "interlinear-annotation-", "anchor separator terminator"⟩,
  ⟨0xFFFC, "", "object-replacement-character replacement-character"⟩]

end Dictation.Unicode.Name
