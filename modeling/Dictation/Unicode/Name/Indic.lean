import Dictation.Unicode.Name.Block
/-!
# Indic and Brahmic scripts

Spoken names from 0x900 on and from 0x11000 on, as of Unicode 16.
-/
namespace Dictation.Unicode.Name

set_option maxRecDepth 10000 in
def indicBlocks : List Block := [
  ⟨0x900, "devanagari-sign-", "inverted-candrabindu candrabindu anusvara visarga"⟩,
  ⟨0x904, "devanagari-letter-", "short-a a aa i ii u uu vocalic-r vocalic-l candra-e short-e e ai
    candra-o short-o o au ka kha ga gha nga ca cha ja jha nya tta ttha dda ddha nna ta tha da dha
    na nnna pa pha ba bha ma ya ra rra la lla llla va sha ssa sa ha"⟩,
  ⟨0x93A, "devanagari-", "vowel-sign-oe vowel-sign-ooe sign-nukta sign-avagraha"⟩,
  ⟨0x93E, "devanagari-vowel-sign-", "aa i ii u uu vocalic-r vocalic-rr candra-e short-e e ai
    candra-o short-o o au"⟩,
  ⟨0x94D, "devanagari-", "sign-virama vowel-sign-prishthamatra-e vowel-sign-aw om
    stress-sign-udatta stress-sign-anudatta grave-accent acute-accent vowel-sign-candra-long-e
    vowel-sign-ue vowel-sign-uue"⟩,
  ⟨0x958, "devanagari-letter-", "qa khha ghha za dddha rha fa yya vocalic-rr vocalic-ll"⟩,
  ⟨0x962, "devanagari-", "vowel-sign-vocalic-l vowel-sign-vocalic-ll danda double-danda"⟩,
  ⟨0x966, "devanagari-digit-", "zero one two three four five six seven eight nine"⟩,
  ⟨0x970, "devanagari-", "abbreviation-sign sign-high-spacing-dot"⟩,
  ⟨0x972, "devanagari-letter-", "candra-a oe ooe aw ue uue marwari-dda zha heavy-ya gga jja
    glottal-stop ddda bba"⟩,
  ⟨0x980, "bengali-", "anji sign-candrabindu sign-anusvara sign-visarga"⟩,
  ⟨0x985, "bengali-letter-", "a aa i ii u uu vocalic-r vocalic-l"⟩,
  ⟨0x98F, "bengali-letter-", "e ai"⟩,
  ⟨0x993, "bengali-letter-", "o au ka kha ga gha nga ca cha ja jha nya tta ttha dda ddha nna ta
    tha da dha na"⟩,
  ⟨0x9AA, "bengali-letter-", "pa pha ba bha ma ya ra"⟩,
  ⟨0x9B2, "bengali-letter-", "la"⟩,
  ⟨0x9B6, "bengali-letter-", "sha ssa sa ha"⟩,
  ⟨0x9BC, "bengali-sign-", "nukta avagraha"⟩,
  ⟨0x9BE, "bengali-vowel-sign-", "aa i ii u uu vocalic-r vocalic-rr"⟩,
  ⟨0x9C7, "bengali-vowel-sign-", "e ai"⟩,
  ⟨0x9CB, "bengali-", "vowel-sign-o vowel-sign-au sign-virama letter-khanda-ta"⟩,
  ⟨0x9D7, "bengali-au-length-", "mark"⟩,
  ⟨0x9DC, "bengali-letter-", "rra rha"⟩,
  ⟨0x9DF, "bengali-letter-", "yya vocalic-rr vocalic-ll"⟩,
  ⟨0x9E2, "bengali-vowel-sign-vocalic-", "l ll"⟩,
  ⟨0x9E6, "bengali-digit-", "zero one two three four five six seven eight nine"⟩,
  ⟨0x9F0, "bengali-", "letter-ra-with-middle-diagonal letter-ra-with-lower-diagonal rupee-mark
    rupee-sign"⟩,
  ⟨0x9F4, "bengali-currency-numerator-", "one two three four one-less-than-the-denominator"⟩,
  ⟨0x9F9, "bengali-", "currency-denominator-sixteen isshar ganda-mark letter-vedic-anusvara
    abbreviation-sign sandhi-mark"⟩,
  ⟨0xA01, "gurmukhi-sign-", "adak-bindi bindi visarga"⟩,
  ⟨0xA05, "gurmukhi-letter-", "a aa i ii u uu"⟩,
  ⟨0xA0F, "gurmukhi-letter-", "ee ai"⟩,
  ⟨0xA13, "gurmukhi-letter-", "oo au ka kha ga gha nga ca cha ja jha nya tta ttha dda ddha nna ta
    tha da dha na"⟩,
  ⟨0xA2A, "gurmukhi-letter-", "pa pha ba bha ma ya ra"⟩,
  ⟨0xA32, "gurmukhi-letter-", "la lla"⟩,
  ⟨0xA35, "gurmukhi-letter-", "va sha"⟩,
  ⟨0xA38, "gurmukhi-letter-", "sa ha"⟩,
  ⟨0xA3C, "gurmukhi-sign-", "nukta"⟩,
  ⟨0xA3E, "gurmukhi-vowel-sign-", "aa i ii u uu"⟩,
  ⟨0xA47, "gurmukhi-vowel-sign-", "ee ai"⟩,
  ⟨0xA4B, "gurmukhi-", "vowel-sign-oo vowel-sign-au sign-virama"⟩,
  ⟨0xA51, "gurmukhi-sign-", "udaat"⟩,
  ⟨0xA59, "gurmukhi-letter-", "khha ghha za rra"⟩,
  ⟨0xA5E, "gurmukhi-letter-", "fa"⟩,
  ⟨0xA66, "gurmukhi-digit-", "zero one two three four five six seven eight nine"⟩,
  ⟨0xA70, "gurmukhi-", "tippi addak iri ura ek-onkar sign-yakash abbreviation-sign"⟩,
  ⟨0xA81, "gujarati-sign-", "candrabindu anusvara visarga"⟩,
  ⟨0xA85, "gujarati-letter-", "a aa i ii u uu vocalic-r vocalic-l"⟩,
  ⟨0xA8D, "gujarati-vowel-candra-", "e"⟩,
  ⟨0xA8F, "gujarati-", "letter-e letter-ai vowel-candra-o"⟩,
  ⟨0xA93, "gujarati-letter-", "o au ka kha ga gha nga ca cha ja jha nya tta ttha dda ddha nna ta
    tha da dha na"⟩,
  ⟨0xAAA, "gujarati-letter-", "pa pha ba bha ma ya ra"⟩,
  ⟨0xAB2, "gujarati-letter-", "la lla"⟩,
  ⟨0xAB5, "gujarati-letter-", "va sha ssa sa ha"⟩,
  ⟨0xABC, "gujarati-sign-", "nukta avagraha"⟩,
  ⟨0xABE, "gujarati-vowel-sign-", "aa i ii u uu vocalic-r vocalic-rr candra-e"⟩,
  ⟨0xAC7, "gujarati-vowel-sign-", "e ai candra-o"⟩,
  ⟨0xACB, "gujarati-", "vowel-sign-o vowel-sign-au sign-virama"⟩,
  ⟨0xAD0, "gujarati-", "om"⟩,
  ⟨0xAE0, "gujarati-letter-vocalic-", "rr ll"⟩,
  ⟨0xAE2, "gujarati-vowel-sign-vocalic-", "l ll"⟩,
  ⟨0xAE6, "gujarati-digit-", "zero one two three four five six seven eight nine"⟩,
  ⟨0xAF0, "gujarati-", "abbreviation-sign rupee-sign"⟩,
  ⟨0xAF9, "gujarati-letter-", "zha"⟩,
  ⟨0xAFA, "gujarati-sign-", "sukun shadda maddah three-dot-nukta-above circle-nukta-above
    two-circle-nukta-above"⟩,
  ⟨0xB01, "oriya-sign-", "candrabindu anusvara visarga"⟩,
  ⟨0xB05, "oriya-letter-", "a aa i ii u uu vocalic-r vocalic-l"⟩,
  ⟨0xB0F, "oriya-letter-", "e ai"⟩,
  ⟨0xB13, "oriya-letter-", "o au ka kha ga gha nga ca cha ja jha nya tta ttha dda ddha nna ta tha
    da dha na"⟩,
  ⟨0xB2A, "oriya-letter-", "pa pha ba bha ma ya ra"⟩,
  ⟨0xB32, "oriya-letter-", "la lla"⟩,
  ⟨0xB35, "oriya-letter-", "va sha ssa sa ha"⟩,
  ⟨0xB3C, "oriya-sign-", "nukta avagraha"⟩,
  ⟨0xB3E, "oriya-vowel-sign-", "aa i ii u uu vocalic-r vocalic-rr"⟩,
  ⟨0xB47, "oriya-vowel-sign-", "e ai"⟩,
  ⟨0xB4B, "oriya-", "vowel-sign-o vowel-sign-au sign-virama"⟩,
  ⟨0xB55, "oriya-", "sign-overline ai-length-mark au-length-mark"⟩,
  ⟨0xB5C, "oriya-letter-", "rra rha"⟩,
  ⟨0xB5F, "oriya-letter-", "yya vocalic-rr vocalic-ll"⟩,
  ⟨0xB62, "oriya-vowel-sign-vocalic-", "l ll"⟩,
  ⟨0xB66, "oriya-digit-", "zero one two three four five six seven eight nine"⟩,
  ⟨0xB70, "oriya-", "isshar letter-wa"⟩,
  ⟨0xB72, "oriya-fraction-", "one-quarter one-half three-quarters one-sixteenth one-eighth
    three-sixteenths"⟩,
  ⟨0xB82, "tamil-sign-", "anusvara visarga"⟩,
  ⟨0xB85, "tamil-letter-", "a aa i ii u uu"⟩,
  ⟨0xB8E, "tamil-letter-", "e ee ai"⟩,
  ⟨0xB92, "tamil-letter-", "o oo au ka"⟩,
  ⟨0xB99, "tamil-letter-", "nga ca"⟩,
  ⟨0xB9C, "tamil-letter-", "ja"⟩,
  ⟨0xB9E, "tamil-letter-", "nya tta"⟩,
  ⟨0xBA3, "tamil-letter-", "nna ta"⟩,
  ⟨0xBA8, "tamil-letter-", "na nnna pa"⟩,
  ⟨0xBAE, "tamil-letter-", "ma ya ra rra la lla llla va sha ssa sa ha"⟩,
  ⟨0xBBE, "tamil-vowel-sign-", "aa i ii u uu"⟩,
  ⟨0xBC6, "tamil-vowel-sign-", "e ee ai"⟩,
  ⟨0xBCA, "tamil-vowel-sign-", "o oo au"⟩,
  ⟨0xBCD, "tamil-sign-", "virama"⟩,
  ⟨0xBD0, "tamil-", "om"⟩,
  ⟨0xBD7, "tamil-au-length-", "mark"⟩,
  ⟨0xBE6, "tamil-digit-", "zero one two three four five six seven eight nine"⟩,
  ⟨0xBF0, "tamil-", "number-ten number-one-hundred number-one-thousand day-sign month-sign
    year-sign debit-sign credit-sign as-above-sign rupee-sign number-sign"⟩,
  ⟨0xC00, "telugu-sign-", "combining-candrabindu-above candrabindu anusvara visarga
    combining-anusvara-above"⟩,
  ⟨0xC05, "telugu-letter-", "a aa i ii u uu vocalic-r vocalic-l"⟩,
  ⟨0xC0E, "telugu-letter-", "e ee ai"⟩,
  ⟨0xC12, "telugu-letter-", "o oo au ka kha ga gha nga ca cha ja jha nya tta ttha dda ddha nna ta
    tha da dha na"⟩,
  ⟨0xC2A, "telugu-letter-", "pa pha ba bha ma ya ra rra la lla llla va sha ssa sa ha"⟩,
  ⟨0xC3C, "telugu-sign-", "nukta avagraha"⟩,
  ⟨0xC3E, "telugu-vowel-sign-", "aa i ii u uu vocalic-r vocalic-rr"⟩,
  ⟨0xC46, "telugu-vowel-sign-", "e ee ai"⟩,
  ⟨0xC4A, "telugu-vowel-sign-", "o oo au"⟩,
  ⟨0xC4D, "telugu-sign-", "virama"⟩,
  ⟨0xC55, "telugu-", "length-mark ai-length-mark"⟩,
  ⟨0xC58, "telugu-letter-", "tsa dza rrra"⟩,
  ⟨0xC5D, "telugu-letter-nakaara-", "pollu"⟩,
  ⟨0xC60, "telugu-letter-vocalic-", "rr ll"⟩,
  ⟨0xC62, "telugu-vowel-sign-vocalic-", "l ll"⟩,
  ⟨0xC66, "telugu-digit-", "zero one two three four five six seven eight nine"⟩,
  ⟨0xC77, "telugu-sign-", "siddham"⟩,
  ⟨0xC78, "telugu-fraction-digit-", "zero-for-odd-powers-of-four one-for-odd-powers-of-four
    two-for-odd-powers-of-four three-for-odd-powers-of-four one-for-even-powers-of-four
    two-for-even-powers-of-four three-for-even-powers-of-four"⟩,
  ⟨0xC7F, "telugu-sign-", "tuumu"⟩,
  ⟨0xC80, "kannada-sign-", "spacing-candrabindu candrabindu anusvara visarga siddham"⟩,
  ⟨0xC85, "kannada-letter-", "a aa i ii u uu vocalic-r vocalic-l"⟩,
  ⟨0xC8E, "kannada-letter-", "e ee ai"⟩,
  ⟨0xC92, "kannada-letter-", "o oo au ka kha ga gha nga ca cha ja jha nya tta ttha dda ddha nna
    ta tha da dha na"⟩,
  ⟨0xCAA, "kannada-letter-", "pa pha ba bha ma ya ra rra la lla"⟩,
  ⟨0xCB5, "kannada-letter-", "va sha ssa sa ha"⟩,
  ⟨0xCBC, "kannada-sign-", "nukta avagraha"⟩,
  ⟨0xCBE, "kannada-vowel-sign-", "aa i ii u uu vocalic-r vocalic-rr"⟩,
  ⟨0xCC6, "kannada-vowel-sign-", "e ee ai"⟩,
  ⟨0xCCA, "kannada-", "vowel-sign-o vowel-sign-oo vowel-sign-au sign-virama"⟩,
  ⟨0xCD5, "kannada-", "length-mark ai-length-mark"⟩,
  ⟨0xCDD, "kannada-letter-", "nakaara-pollu fa"⟩,
  ⟨0xCE0, "kannada-letter-vocalic-", "rr ll"⟩,
  ⟨0xCE2, "kannada-vowel-sign-vocalic-", "l ll"⟩,
  ⟨0xCE6, "kannada-digit-", "zero one two three four five six seven eight nine"⟩,
  ⟨0xCF1, "kannada-sign-", "jihvamuliya upadhmaniya combining-anusvara-above-right"⟩,
  ⟨0xD00, "malayalam-sign-", "combining-anusvara-above candrabindu anusvara visarga"⟩,
  ⟨0xD04, "malayalam-letter-", "vedic-anusvara a aa i ii u uu vocalic-r vocalic-l"⟩,
  ⟨0xD0E, "malayalam-letter-", "e ee ai"⟩,
  ⟨0xD12, "malayalam-letter-", "o oo au ka kha ga gha nga ca cha ja jha nya tta ttha dda ddha nna
    ta tha da dha na nnna pa pha ba bha ma ya ra rra la lla llla va sha ssa sa ha ttta"⟩,
  ⟨0xD3B, "malayalam-sign-", "vertical-bar-virama circular-virama avagraha"⟩,
  ⟨0xD3E, "malayalam-vowel-sign-", "aa i ii u uu vocalic-r vocalic-rr"⟩,
  ⟨0xD46, "malayalam-vowel-sign-", "e ee ai"⟩,
  ⟨0xD4A, "malayalam-", "vowel-sign-o vowel-sign-oo vowel-sign-au sign-virama letter-dot-reph
    sign-para"⟩,
  ⟨0xD54, "malayalam-letter-chillu-", "m y lll"⟩,
  ⟨0xD57, "malayalam-au-length-", "mark"⟩,
  ⟨0xD58, "malayalam-fraction-", "one-one-hundred-and-sixtieth one-fortieth three-eightieths
    one-twentieth one-tenth three-twentieths one-fifth"⟩,
  ⟨0xD5F, "malayalam-letter-", "archaic-ii vocalic-rr vocalic-ll"⟩,
  ⟨0xD62, "malayalam-vowel-sign-vocalic-", "l ll"⟩,
  ⟨0xD66, "malayalam-digit-", "zero one two three four five six seven eight nine"⟩,
  ⟨0xD70, "malayalam-number-", "ten one-hundred one-thousand"⟩,
  ⟨0xD73, "malayalam-fraction-", "one-quarter one-half three-quarters one-sixteenth one-eighth
    three-sixteenths"⟩,
  ⟨0xD79, "malayalam-date-", "mark"⟩,
  ⟨0xD7A, "malayalam-letter-chillu-", "nn n rr l ll k"⟩,
  ⟨0xD81, "sinhala-sign-", "candrabindu anusvaraya visargaya"⟩,
  ⟨0xD85, "sinhala-letter-", "ayanna aayanna aeyanna aeeyanna iyanna iiyanna uyanna uuyanna
    iruyanna iruuyanna iluyanna iluuyanna eyanna eeyanna aiyanna oyanna ooyanna auyanna"⟩,
  ⟨0xD9A, "sinhala-letter-", "alpapraana-kayanna mahaapraana-kayanna alpapraana-gayanna
    mahaapraana-gayanna kantaja-naasikyaya sanyaka-gayanna alpapraana-cayanna mahaapraana-cayanna
    alpapraana-jayanna mahaapraana-jayanna taaluja-naasikyaya taaluja-sanyooga-naaksikyaya
    sanyaka-jayanna alpapraana-ttayanna mahaapraana-ttayanna alpapraana-ddayanna
    mahaapraana-ddayanna muurdhaja-nayanna sanyaka-ddayanna alpapraana-tayanna
    mahaapraana-tayanna alpapraana-dayanna mahaapraana-dayanna dantaja-nayanna"⟩,
  ⟨0xDB3, "sinhala-letter-", "sanyaka-dayanna alpapraana-payanna mahaapraana-payanna
    alpapraana-bayanna mahaapraana-bayanna mayanna amba-bayanna yayanna rayanna"⟩,
  ⟨0xDBD, "sinhala-letter-dantaja-", "layanna"⟩,
  ⟨0xDC0, "sinhala-letter-", "vayanna taaluja-sayanna muurdhaja-sayanna dantaja-sayanna hayanna
    muurdhaja-layanna fayanna"⟩,
  ⟨0xDCA, "sinhala-sign-al-", "lakuna"⟩,
  ⟨0xDCF, "sinhala-vowel-sign-", "aela-pilla ketti-aeda-pilla diga-aeda-pilla ketti-is-pilla
    diga-is-pilla ketti-paa-pilla"⟩,
  ⟨0xDD6, "sinhala-vowel-sign-diga-paa-", "pilla"⟩,
  ⟨0xDD8, "sinhala-vowel-sign-", "gaetta-pilla kombuva diga-kombuva kombu-deka
    kombuva-haa-aela-pilla kombuva-haa-diga-aela-pilla kombuva-haa-gayanukitta gayanukitta"⟩,
  ⟨0xDE6, "sinhala-lith-digit-", "zero one two three four five six seven eight nine"⟩,
  ⟨0xDF2, "sinhala-", "vowel-sign-diga-gaetta-pilla vowel-sign-diga-gayanukitta
    punctuation-kunddaliya"⟩]

set_option maxRecDepth 10000 in
def brahmicBlocks : List Block := [
  ⟨0x11000, "brahmi-sign-", "candrabindu anusvara visarga jihvamuliya upadhmaniya"⟩,
  ⟨0x11005, "brahmi-letter-", "a aa i ii u uu vocalic-r vocalic-rr vocalic-l vocalic-ll e ai o au
    ka kha ga gha nga ca cha ja jha nya tta ttha dda ddha nna ta tha da dha na pa pha ba bha ma
    ya ra la va sha ssa sa ha lla old-tamil-llla old-tamil-rra old-tamil-nnna"⟩,
  ⟨0x11038, "brahmi-vowel-sign-", "aa bhattiprolu-aa i ii u uu vocalic-r vocalic-rr vocalic-l
    vocalic-ll e ai o au"⟩,
  ⟨0x11046, "brahmi-", "virama danda double-danda"⟩,
  ⟨0x11049, "brahmi-punctuation-", "dot double-dot line crescent-bar lotus"⟩,
  ⟨0x11052, "brahmi-number-", "one two three four five six seven eight nine ten twenty thirty
    forty fifty sixty seventy eighty ninety one-hundred one-thousand"⟩,
  ⟨0x11066, "brahmi-digit-", "zero one two three four five six seven eight nine"⟩,
  ⟨0x11070, "brahmi-", "sign-old-tamil-virama letter-old-tamil-short-e letter-old-tamil-short-o
    vowel-sign-old-tamil-short-e vowel-sign-old-tamil-short-o letter-old-tamil-lla"⟩,
  ⟨0x1107F, "brahmi-number-", "joiner"⟩,
  ⟨0x11080, "kaithi-sign-", "candrabindu anusvara visarga"⟩,
  ⟨0x11083, "kaithi-letter-", "a aa i ii u uu e ai o au ka kha ga gha nga ca cha ja jha nya tta
    ttha dda dddha ddha rha nna ta tha da dha na pa pha ba bha ma ya ra la va sha ssa sa ha"⟩,
  ⟨0x110B0, "kaithi-vowel-sign-", "aa i ii u uu e ai o au"⟩,
  ⟨0x110B9, "kaithi-", "sign-virama sign-nukta abbreviation-sign enumeration-sign number-sign
    section-mark double-section-mark danda double-danda vowel-sign-vocalic-r"⟩,
  ⟨0x110CD, "kaithi-number-sign-", "above"⟩,
  ⟨0x110D0, "sora-sompeng-letter-", "sah tah bah cah dah gah mah ngah lah nah vah pah yah rah hah
    kah jah nyah ah eeh ih uh oh eh mae"⟩,
  ⟨0x110F0, "sora-sompeng-digit-", "zero one two three four five six seven eight nine"⟩,
  ⟨0x11100, "chakma-sign-", "candrabindu anusvara visarga"⟩,
  ⟨0x11103, "chakma-letter-", "aa i u e kaa khaa gaa ghaa ngaa caa chaa jaa jhaa nyaa ttaa tthaa
    ddaa ddhaa nnaa taa thaa daa dhaa naa paa phaa baa bhaa maa yyaa yaa raa laa waa saa haa"⟩,
  ⟨0x11127, "chakma-vowel-sign-", "a i ii u uu e ai o au oi"⟩,
  ⟨0x11131, "chakma-", "o-mark au-mark virama maayyaa"⟩,
  ⟨0x11136, "chakma-digit-", "zero one two three four five six seven eight nine"⟩,
  ⟨0x11140, "chakma-", "section-mark danda double-danda question-mark letter-lhaa vowel-sign-aa
    vowel-sign-ei letter-vaa"⟩,
  ⟨0x11150, "mahajani-letter-", "a i u e o ka kha ga gha ca cha ja jha nya tta ttha dda ddha nna
    ta tha da dha na pa pha ba bha ma ra la va sa ha rra"⟩,
  ⟨0x11173, "mahajani-", "sign-nukta abbreviation-sign section-mark ligature-shri"⟩,
  ⟨0x11180, "sharada-sign-", "candrabindu anusvara visarga"⟩,
  ⟨0x11183, "sharada-letter-", "a aa i ii u uu vocalic-r vocalic-rr vocalic-l vocalic-ll e ai o
    au ka kha ga gha nga ca cha ja jha nya tta ttha dda ddha nna ta tha da dha na pa pha ba bha
    ma ya ra la lla va sha ssa sa ha"⟩,
  ⟨0x111B3, "sharada-vowel-sign-", "aa i ii u uu vocalic-r vocalic-rr vocalic-l vocalic-ll e ai o
    au"⟩,
  ⟨0x111C0, "sharada-", "sign-virama sign-avagraha sign-jihvamuliya sign-upadhmaniya om danda
    double-danda abbreviation-sign separator sandhi-mark sign-nukta vowel-modifier-mark
    extra-short-vowel-mark sutra-mark vowel-sign-prishthamatra-e sign-inverted-candrabindu"⟩,
  ⟨0x111D0, "sharada-digit-", "zero one two three four five six seven eight nine"⟩,
  ⟨0x111DA, "sharada-", "ekam sign-siddham headstroke continuation-sign section-mark-1
    section-mark-2"⟩,
  ⟨0x111E1, "sinhala-archaic-digit-", "one two three four five six seven eight nine"⟩,
  ⟨0x111EA, "sinhala-archaic-number-", "ten twenty thirty forty fifty sixty seventy eighty ninety
    one-hundred one-thousand"⟩,
  ⟨0x11200, "khojki-letter-", "a aa i u e ai o au ka kha ga gga gha nga ca cha ja jja"⟩,
  ⟨0x11213, "khojki-letter-", "nya tta ttha dda ddha nna ta tha da ddda dha na pa pha ba bba bha
    ma ya ra la va sa ha lla"⟩,
  ⟨0x1122C, "khojki-vowel-sign-", "aa i ii u e ai o au"⟩,
  ⟨0x11234, "khojki-", "sign-anusvara sign-virama sign-nukta sign-shadda danda double-danda
    word-separator section-mark double-section-mark abbreviation-sign sign-sukun letter-qa
    letter-short-i vowel-sign-vocalic-r"⟩,
  ⟨0x11280, "multani-letter-", "a i u e ka kha ga"⟩,
  ⟨0x11288, "multani-letter-", "gha"⟩,
  ⟨0x1128A, "multani-letter-", "ca cha ja jja"⟩,
  ⟨0x1128F, "multani-letter-", "nya tta ttha dda ddda ddha nna ta tha da dha na pa pha ba"⟩,
  ⟨0x1129F, "multani-letter-", "bha ma ya ra la va sa ha rra rha"⟩,
  ⟨0x112A9, "multani-section-", "mark"⟩,
  ⟨0x112B0, "khudawadi-letter-", "a aa i ii u uu e ai o au ka kha ga gga gha nga ca cha ja jja
    jha nya tta ttha dda ddda rra ddha nna ta tha da dha na pa pha ba bba bha ma ya ra la va sha
    sa ha"⟩,
  ⟨0x112DF, "khudawadi-sign-", "anusvara"⟩,
  ⟨0x112E0, "khudawadi-vowel-sign-", "aa i ii u uu e ai o au"⟩,
  ⟨0x112E9, "khudawadi-sign-", "nukta virama"⟩,
  ⟨0x112F0, "khudawadi-digit-", "zero one two three four five six seven eight nine"⟩,
  ⟨0x11300, "grantha-sign-", "combining-anusvara-above candrabindu anusvara visarga"⟩,
  ⟨0x11305, "grantha-letter-", "a aa i ii u uu vocalic-r vocalic-l"⟩,
  ⟨0x1130F, "grantha-letter-", "ee ai"⟩,
  ⟨0x11313, "grantha-letter-", "oo au ka kha ga gha nga ca cha ja jha nya tta ttha dda ddha nna
    ta tha da dha na"⟩,
  ⟨0x1132A, "grantha-letter-", "pa pha ba bha ma ya ra"⟩,
  ⟨0x11332, "grantha-letter-", "la lla"⟩,
  ⟨0x11335, "grantha-letter-", "va sha ssa sa ha"⟩,
  ⟨0x1133B, "", "combining-bindu-below grantha-sign-nukta grantha-sign-avagraha"⟩,
  ⟨0x1133E, "grantha-vowel-sign-", "aa i ii u uu vocalic-r vocalic-rr"⟩,
  ⟨0x11347, "grantha-vowel-sign-", "ee ai"⟩,
  ⟨0x1134B, "grantha-", "vowel-sign-oo vowel-sign-au sign-virama"⟩,
  ⟨0x11350, "grantha-", "om"⟩,
  ⟨0x11357, "grantha-au-length-", "mark"⟩,
  ⟨0x1135D, "grantha-", "sign-pluta letter-vedic-anusvara letter-vedic-double-anusvara
    letter-vocalic-rr letter-vocalic-ll vowel-sign-vocalic-l vowel-sign-vocalic-ll"⟩,
  ⟨0x11366, "combining-grantha-digit-", "zero one two three four five six"⟩,
  ⟨0x11370, "combining-grantha-letter-", "a ka na vi pa"⟩,
  ⟨0x11380, "tulu-tigalari-letter-", "a aa i ii u uu vocalic-r vocalic-rr vocalic-l vocalic-ll"⟩,
  ⟨0x1138B, "tulu-tigalari-letter-", "ee"⟩,
  ⟨0x1138E, "tulu-tigalari-letter-", "ai"⟩,
  ⟨0x11390, "tulu-tigalari-letter-", "oo au ka kha ga gha nga ca cha ja jha nya tta ttha dda ddha
    nna ta tha da dha na pa pha ba bha ma ya ra la va sha ssa sa ha lla rra llla"⟩,
  ⟨0x113B7, "tulu-tigalari-sign-", "avagraha"⟩,
  ⟨0x113B8, "tulu-tigalari-vowel-sign-", "aa i ii u uu vocalic-r vocalic-rr vocalic-l vocalic-ll"⟩,
  ⟨0x113C2, "tulu-tigalari-vowel-sign-", "ee"⟩,
  ⟨0x113C5, "tulu-tigalari-vowel-sign-", "ai"⟩,
  ⟨0x113C7, "tulu-tigalari-", "vowel-sign-oo vowel-sign-au au-length-mark sign-candra-anunasika"⟩,
  ⟨0x113CC, "tulu-tigalari-", "sign-anusvara sign-visarga sign-virama sign-looped-virama
    conjoiner repha gemination-mark sign-pluta danda double-danda"⟩,
  ⟨0x113D7, "tulu-tigalari-sign-", "om-pushpika shrii-pushpika"⟩,
  ⟨0x113E1, "tulu-tigalari-vedic-tone-", "svarita anudatta"⟩,
  ⟨0x11400, "newa-letter-", "a aa i ii u uu vocalic-r vocalic-rr vocalic-l vocalic-ll e ai o au
    ka kha ga gha nga ngha ca cha ja jha nya nyha tta ttha dda ddha nna ta tha da dha na nha pa
    pha ba bha ma mha ya ra rha la lha wa sha ssa sa ha"⟩,
  ⟨0x11435, "newa-vowel-sign-", "aa i ii u uu vocalic-r vocalic-rr vocalic-l vocalic-ll e ai o au"⟩,
  ⟨0x11442, "newa-sign-", "virama candrabindu anusvara visarga nukta avagraha final-anusvara"⟩,
  ⟨0x11449, "newa-", "om siddhi danda double-danda comma gap-filler abbreviation-sign"⟩,
  ⟨0x11450, "newa-digit-", "zero one two three four five six seven eight nine"⟩,
  ⟨0x1145A, "newa-", "double-comma placeholder-mark"⟩,
  ⟨0x1145D, "newa-", "insertion-sign sandhi-mark letter-vedic-anusvara sign-jihvamuliya
    sign-upadhmaniya"⟩,
  ⟨0x11480, "tirhuta-", "anji"⟩,
  ⟨0x11481, "tirhuta-letter-", "a aa i ii u uu vocalic-r vocalic-rr vocalic-l vocalic-ll e ai o
    au ka kha ga gha nga ca cha ja jha nya tta ttha dda ddha nna ta tha da dha na pa pha ba bha
    ma ya ra la va sha ssa sa ha"⟩,
  ⟨0x114B0, "tirhuta-vowel-sign-", "aa i ii u uu vocalic-r vocalic-rr vocalic-l vocalic-ll e
    short-e ai o short-o au"⟩,
  ⟨0x114BF, "tirhuta-sign-", "candrabindu anusvara visarga virama nukta avagraha"⟩,
  ⟨0x114C5, "tirhuta-", "gvang abbreviation-sign om"⟩,
  ⟨0x114D0, "tirhuta-digit-", "zero one two three four five six seven eight nine"⟩,
  ⟨0x11580, "siddham-letter-", "a aa i ii u uu vocalic-r vocalic-rr vocalic-l vocalic-ll e ai o
    au ka kha ga gha nga ca cha ja jha nya tta ttha dda ddha nna ta tha da dha na pa pha ba bha
    ma ya ra la va sha ssa sa ha"⟩,
  ⟨0x115AF, "siddham-vowel-sign-", "aa i ii u uu vocalic-r vocalic-rr"⟩,
  ⟨0x115B8, "siddham-vowel-sign-", "e ai o au"⟩,
  ⟨0x115BC, "siddham-sign-", "candrabindu anusvara visarga virama nukta siddham"⟩,
  ⟨0x115C2, "siddham-", "danda double-danda separator-dot separator-bar repetition-mark-1
    repetition-mark-2 repetition-mark-3 end-of-text-mark"⟩,
  ⟨0x115CA, "siddham-section-mark-", "with-trident-and-u-shaped-ornaments
    with-trident-and-dotted-crescents with-rays-and-dotted-crescents
    with-rays-and-dotted-double-crescents with-rays-and-dotted-triple-crescents double-ring
    double-ring-with-rays with-double-crescents with-triple-crescents with-quadruple-crescents
    with-septuple-crescents with-circles-and-rays with-circles-and-two-enclosures
    with-circles-and-four-enclosures"⟩,
  ⟨0x115D8, "siddham-letter-", "three-circle-alternate-i two-circle-alternate-i
    two-circle-alternate-ii alternate-u"⟩,
  ⟨0x115DC, "siddham-vowel-sign-alternate-", "u uu"⟩,
  ⟨0x11600, "modi-letter-", "a aa i ii u uu vocalic-r vocalic-rr vocalic-l vocalic-ll e ai o au
    ka kha ga gha nga ca cha ja jha nya tta ttha dda ddha nna ta tha da dha na pa pha ba bha ma
    ya ra la va sha ssa sa ha lla"⟩,
  ⟨0x11630, "modi-vowel-sign-", "aa i ii u uu vocalic-r vocalic-rr vocalic-l vocalic-ll e ai o au"⟩,
  ⟨0x1163D, "modi-", "sign-anusvara sign-visarga sign-virama sign-ardhacandra danda double-danda
    abbreviation-sign sign-huva"⟩,
  ⟨0x11650, "modi-digit-", "zero one two three four five six seven eight nine"⟩,
  ⟨0x11660, "mongolian-", "birga-with-ornament rotated-birga double-birga-with-ornament
    triple-birga-with-ornament birga-with-double-ornament rotated-birga-with-ornament
    rotated-birga-with-double-ornament inverted-birga inverted-birga-with-double-ornament
    swirl-birga swirl-birga-with-ornament swirl-birga-with-double-ornament
    turned-swirl-birga-with-double-ornament"⟩,
  ⟨0x11680, "takri-letter-", "a aa i ii u uu e ai o au ka kha ga gha nga ca cha ja jha nya tta
    ttha dda ddha nna ta tha da dha na pa pha ba bha ma ya ra la va sha sa ha rra"⟩,
  ⟨0x116AB, "takri-sign-", "anusvara visarga"⟩,
  ⟨0x116AD, "takri-vowel-sign-", "aa i ii u uu e ai o au"⟩,
  ⟨0x116B6, "takri-", "sign-virama sign-nukta letter-archaic-kha abbreviation-sign"⟩,
  ⟨0x116C0, "takri-digit-", "zero one two three four five six seven eight nine"⟩,
  ⟨0x116D0, "myanmar-pao-digit-", "zero one two three four five six seven eight nine"⟩,
  ⟨0x116DA, "myanmar-eastern-pwo-karen-digit-", "zero one two three four five six seven eight
    nine"⟩,
  ⟨0x11700, "ahom-letter-", "ka kha nga na ta alternate-ta pa pha ba ma ja cha tha ra la sa nya
    ha a da dha ga alternate-ga gha bha jha alternate-ba"⟩,
  ⟨0x1171D, "ahom-consonant-sign-medial-", "la ra ligating-ra"⟩,
  ⟨0x11720, "ahom-vowel-sign-", "a aa i ii u uu e aw o ai am"⟩,
  ⟨0x1172B, "ahom-sign-", "killer"⟩,
  ⟨0x11730, "ahom-digit-", "zero one two three four five six seven eight nine"⟩,
  ⟨0x1173A, "ahom-", "number-ten number-twenty sign-small-section sign-section sign-rulai
    symbol-vi"⟩,
  ⟨0x11740, "ahom-letter-", "ca tta ttha dda ddha nna lla"⟩,
  ⟨0x11800, "dogra-letter-", "a aa i ii u uu e ai o au ka kha ga gha nga ca cha ja jha nya tta
    ttha dda ddha nna ta tha da dha na pa pha ba bha ma ya ra la va sha ssa sa ha rra"⟩,
  ⟨0x1182C, "dogra-vowel-sign-", "aa i ii u uu vocalic-r vocalic-rr e ai o au"⟩,
  ⟨0x11837, "dogra-", "sign-anusvara sign-visarga sign-virama sign-nukta abbreviation-sign"⟩,
  ⟨0x118A0, "warang-citi-capital-letter-", "ngaa a wi yu ya yo ii uu e o ang ga ko eny yuj uc enn
    odd tte nung da at am bu pu hiyo holo horr har ssuu sii viyo"⟩,
  ⟨0x118C0, "warang-citi-small-letter-", "ngaa a wi yu ya yo ii uu e o ang ga ko eny yuj uc enn
    odd tte nung da at am bu pu hiyo holo horr har ssuu sii viyo"⟩,
  ⟨0x118E0, "warang-citi-digit-", "zero one two three four five six seven eight nine"⟩,
  ⟨0x118EA, "warang-citi-number-", "ten twenty thirty forty fifty sixty seventy eighty ninety"⟩,
  ⟨0x118FF, "warang-citi-", "om"⟩,
  ⟨0x11900, "dives-akuru-letter-", "a aa i ii u uu e"⟩,
  ⟨0x11909, "dives-akuru-letter-", "o"⟩,
  ⟨0x1190C, "dives-akuru-letter-", "ka kha ga gha nga ca cha ja"⟩,
  ⟨0x11915, "dives-akuru-letter-", "nya tta"⟩,
  ⟨0x11918, "dives-akuru-letter-", "dda ddha nna ta tha da dha na pa pha ba bha ma ya yya ra la
    va sha ssa sa ha lla za"⟩,
  ⟨0x11930, "dives-akuru-vowel-sign-", "aa i ii u uu e"⟩,
  ⟨0x11937, "dives-akuru-vowel-sign-", "ai o"⟩,
  ⟨0x1193B, "dives-akuru-", "sign-anusvara sign-candrabindu sign-halanta virama
    prefixed-nasal-sign medial-ya initial-ra medial-ra sign-nukta double-danda gap-filler
    end-of-text-mark"⟩,
  ⟨0x11950, "dives-akuru-digit-", "zero one two three four five six seven eight nine"⟩,
  ⟨0x119A0, "nandinagari-letter-", "a aa i ii u uu vocalic-r vocalic-rr"⟩,
  ⟨0x119AA, "nandinagari-letter-", "e ai o au ka kha ga gha nga ca cha ja jha nya tta ttha dda
    ddha nna ta tha da dha na pa pha ba bha ma ya ra la va sha ssa sa ha lla rra"⟩,
  ⟨0x119D1, "nandinagari-vowel-sign-", "aa i ii u uu vocalic-r vocalic-rr"⟩,
  ⟨0x119DA, "nandinagari-vowel-sign-", "e ai o au"⟩,
  ⟨0x119DE, "nandinagari-", "sign-anusvara sign-visarga sign-virama sign-avagraha sign-siddham
    headstroke vowel-sign-prishthamatra-e"⟩,
  ⟨0x11A00, "zanabazar-square-letter-", "a"⟩,
  ⟨0x11A01, "zanabazar-square-vowel-sign-", "i ue u e oe o ai au reversed-i"⟩,
  ⟨0x11A0A, "zanabazar-square-vowel-length-", "mark"⟩,
  ⟨0x11A0B, "zanabazar-square-letter-", "ka kha ga gha nga ca cha ja nya tta ttha dda ddha nna ta
    tha da dha na pa pha ba bha ma tsa tsha dza dzha zha za -a ya ra la va sha ssa sa ha kssa"⟩,
  ⟨0x11A33, "zanabazar-square-", "final-consonant-mark sign-virama sign-candrabindu
    sign-candrabindu-with-ornament sign-candra-with-ornament sign-anusvara sign-visarga
    cluster-initial-letter-ra"⟩,
  ⟨0x11A3B, "zanabazar-square-cluster-final-letter-", "ya ra la va"⟩,
  ⟨0x11A3F, "zanabazar-square-", "initial-head-mark closing-head-mark mark-tsheg mark-shad
    mark-double-shad mark-long-tsheg initial-double-lined-head-mark
    closing-double-lined-head-mark subjoiner"⟩,
  ⟨0x11A50, "soyombo-letter-", "a"⟩,
  ⟨0x11A51, "soyombo-vowel-sign-", "i ue u e o oe ai au vocalic-r vocalic-l"⟩,
  ⟨0x11A5B, "soyombo-vowel-length-", "mark"⟩,
  ⟨0x11A5C, "soyombo-letter-", "ka kha ga gha nga ca cha ja jha nya tta ttha dda ddha nna ta tha
    da dha na pa pha ba bha ma tsa tsha dza zha za -a ya ra la va sha ssa sa ha kssa"⟩,
  ⟨0x11A84, "soyombo-sign-", "jihvamuliya upadhmaniya"⟩,
  ⟨0x11A86, "soyombo-cluster-initial-letter-", "ra la sha sa"⟩,
  ⟨0x11A8A, "soyombo-final-consonant-sign-", "g k ng d n b m r l sh s -a"⟩,
  ⟨0x11A96, "soyombo-", "sign-anusvara sign-visarga gemination-mark subjoiner mark-tsheg
    mark-shad mark-double-shad mark-pluta"⟩,
  ⟨0x11A9E, "soyombo-head-mark-with-moon-and-", "sun-and-triple-flame sun-and-flame sun"⟩,
  ⟨0x11AA1, "soyombo-terminal-mark-", "1 2"⟩,
  ⟨0x11AB0, "canadian-syllabics-nattilik-", "hi hii ho hoo ha haa shri shrii shro shroo shra
    shraa"⟩,
  ⟨0x11ABC, "canadian-syllabics-", "spe spi spo spa"⟩,
  ⟨0x11AC0, "pau-cin-hau-letter-", "pa ka la ma da za va nga ha ga kha sa ba ca ta tha na pha ra
    fa cha a e i o u ua ia"⟩,
  ⟨0x11ADC, "pau-cin-hau-letter-final-", "p k t m n l w ng y"⟩,
  ⟨0x11AE5, "pau-cin-hau-", "rising-tone-long rising-tone sandhi-glottal-stop
    rising-tone-long-final rising-tone-final sandhi-glottal-stop-final sandhi-tone-long
    sandhi-tone sandhi-tone-long-final sandhi-tone-final mid-level-tone glottal-stop-variant
    mid-level-tone-long-final mid-level-tone-final low-falling-tone-long low-falling-tone
    glottal-stop low-falling-tone-long-final low-falling-tone-final glottal-stop-final"⟩,
  ⟨0x11B00, "devanagari-head-", "mark mark-with-headstroke"⟩,
  ⟨0x11B02, "devanagari-sign-", "bhale bhale-with-hook extended-bhale extended-bhale-with-hook
    western-five-like-bhale western-nine-like-bhale reversed-nine-like-bhale mindu"⟩,
  ⟨0x11BC0, "sunuwar-letter-", "devi tasla eko imar reu utthi kik ma appho pip gil hamso carmi
    nah bur jyah loacha otthi shyele varca yat ava aal donga thari phar ngar kha shyer chelap
    tentu thele kloko"⟩,
  ⟨0x11BE1, "sunuwar-sign-", "pvo"⟩,
  ⟨0x11BF0, "sunuwar-digit-", "zero one two three four five six seven eight nine"⟩,
  ⟨0x11C00, "bhaiksuki-letter-", "a aa i ii u uu vocalic-r vocalic-rr vocalic-l"⟩,
  ⟨0x11C0A, "bhaiksuki-letter-", "e ai o au ka kha ga gha nga ca cha ja jha nya tta ttha dda ddha
    nna ta tha da dha na pa pha ba bha ma ya ra la va sha ssa sa ha"⟩,
  ⟨0x11C2F, "bhaiksuki-vowel-sign-", "aa i ii u uu vocalic-r vocalic-rr vocalic-l"⟩,
  ⟨0x11C38, "bhaiksuki-vowel-sign-", "e ai o au"⟩,
  ⟨0x11C3C, "bhaiksuki-", "sign-candrabindu sign-anusvara sign-visarga sign-virama sign-avagraha
    danda double-danda word-separator gap-filler-1 gap-filler-2"⟩,
  ⟨0x11C50, "bhaiksuki-digit-", "zero one two three four five six seven eight nine"⟩,
  ⟨0x11C5A, "bhaiksuki-number-", "one two three four five six seven eight nine ten twenty thirty
    forty fifty sixty seventy eighty ninety"⟩,
  ⟨0x11C6C, "bhaiksuki-hundreds-unit-", "mark"⟩,
  ⟨0x11C70, "marchen-", "head-mark mark-shad"⟩,
  ⟨0x11C72, "marchen-letter-", "ka kha ga nga ca cha ja nya ta tha da na pa pha ba ma tsa tsha
    dza wa zha za -a ya ra la sha sa ha a"⟩,
  ⟨0x11C92, "marchen-subjoined-letter-", "ka kha ga nga ca cha ja nya ta tha da na pa pha ba ma
    tsa tsha dza wa zha za"⟩,
  ⟨0x11CA9, "marchen-subjoined-letter-", "ya ra la sha sa ha a"⟩,
  ⟨0x11CB0, "marchen-vowel-sign-", "aa i u e o"⟩,
  ⟨0x11CB5, "marchen-sign-", "anusvara candrabindu"⟩,
  ⟨0x11D00, "masaram-gondi-letter-", "a aa i ii u uu e"⟩,
  ⟨0x11D08, "masaram-gondi-letter-", "ai o"⟩,
  ⟨0x11D0B, "masaram-gondi-letter-", "au ka kha ga gha nga ca cha ja jha nya tta ttha dda ddha
    nna ta tha da dha na pa pha ba bha ma ya ra la va sha ssa sa ha lla kssa jnya tra"⟩,
  ⟨0x11D31, "masaram-gondi-vowel-sign-", "aa i ii u uu vocalic-r"⟩,
  ⟨0x11D3A, "masaram-gondi-vowel-sign-", "e"⟩,
  ⟨0x11D3C, "masaram-gondi-vowel-sign-", "ai o"⟩,
  ⟨0x11D3F, "masaram-gondi-", "vowel-sign-au sign-anusvara sign-visarga sign-nukta sign-candra
    sign-halanta virama repha ra-kara"⟩,
  ⟨0x11D50, "masaram-gondi-digit-", "zero one two three four five six seven eight nine"⟩,
  ⟨0x11D60, "gunjala-gondi-letter-", "a aa i ii u uu"⟩,
  ⟨0x11D67, "gunjala-gondi-letter-", "ee ai"⟩,
  ⟨0x11D6A, "gunjala-gondi-letter-", "oo au ya va ba bha ma ka kha ta tha la ga gha da dha na ca
    cha tta ttha lla ja jha dda ddha nga pa pha ha ra sa"⟩,
  ⟨0x11D8A, "gunjala-gondi-vowel-sign-", "aa i ii u uu"⟩,
  ⟨0x11D90, "gunjala-gondi-vowel-sign-", "ee ai"⟩,
  ⟨0x11D93, "gunjala-gondi-", "vowel-sign-oo vowel-sign-au sign-anusvara sign-visarga virama om"⟩,
  ⟨0x11DA0, "gunjala-gondi-digit-", "zero one two three four five six seven eight nine"⟩,
  ⟨0x11EE0, "makasar-letter-", "ka ga nga pa ba ma ta da na ca ja nya ya ra la va sa a"⟩,
  ⟨0x11EF2, "makasar-", "angka vowel-sign-i vowel-sign-u vowel-sign-e vowel-sign-o passimbang
    end-of-section"⟩,
  ⟨0x11F00, "kawi-sign-", "candrabindu anusvara repha visarga"⟩,
  ⟨0x11F04, "kawi-letter-", "a aa i ii u uu vocalic-r vocalic-rr vocalic-l vocalic-ll e ai o"⟩,
  ⟨0x11F12, "kawi-letter-", "ka kha ga gha nga ca cha ja jha nya tta ttha dda ddha nna ta tha da
    dha na pa pha ba bha ma ya ra la wa sha ssa sa ha jnya"⟩,
  ⟨0x11F34, "kawi-vowel-sign-", "aa alternate-aa i ii u uu vocalic-r"⟩,
  ⟨0x11F3E, "kawi-vowel-sign-", "e ai eu"⟩,
  ⟨0x11F41, "kawi-", "sign-killer conjoiner danda double-danda"⟩,
  ⟨0x11F45, "kawi-punctuation-", "section-marker alternate-section-marker flower space-filler dot
    double-dot triple-dot circle filled-circle spiral closing-spiral"⟩,
  ⟨0x11F50, "kawi-digit-", "zero one two three four five six seven eight nine"⟩,
  ⟨0x11F5A, "kawi-sign-", "nukta"⟩,
  ⟨0x11FB0, "lisu-letter-", "yha"⟩,
  ⟨0x11FC0, "tamil-fraction-", "one-three-hundred-and-twentieth one-one-hundred-and-sixtieth
    one-eightieth one-sixty-fourth one-fortieth one-thirty-second three-eightieths
    three-sixty-fourths one-twentieth one-sixteenth-1 one-sixteenth-2 one-tenth one-eighth
    three-twentieths three-sixteenths one-fifth one-quarter one-half-1 one-half-2 three-quarters
    downscaling-factor-kiizh"⟩,
  ⟨0x11FD5, "tamil-sign-", "nel cevitu aazhaakku uzhakku muuvuzhakku kuruni pathakku mukkuruni
    kaacu panam pon varaakan paaram kuzhi veli"⟩,
  ⟨0x11FE4, "tamil-", "wet-cultivation-sign dry-cultivation-sign land-sign salt-pan-sign
    traditional-credit-sign traditional-number-sign current-sign and-odd-sign spent-sign
    total-sign in-possession-sign starting-from-sign sign-muthaliya sign-vakaiyaraa"⟩,
  ⟨0x11FFF, "tamil-punctuation-end-of-", "text"⟩]

end Dictation.Unicode.Name
