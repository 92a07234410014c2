import Dictation.Unicode.Name.Block
/-!
# Ancient scripts, cuneiform and hieroglyphs

Spoken names from 0x10000 on and from 0x12000 on, as of Unicode 16.
-/
namespace Dictation.Unicode.Name

set_option maxRecDepth 10000 in
def ancientBlocks : List Block := [
  ⟨0x10000, "linear-b-syllable-", "b008-a b038-e b028-i b061-o b010-u b001-da b045-de b007-di
    b014-do b051-du b057-ja b046-je"⟩,
  ⟨0x1000D, "linear-b-syllable-", "b036-jo b065-ju b077-ka b044-ke b067-ki b070-ko b081-ku
    b080-ma b013-me b073-mi b015-mo b023-mu b006-na b024-ne b030-ni b052-no b055-nu b003-pa
    b072-pe b039-pi b011-po b050-pu b016-qa b078-qe b021-qi b032-qo"⟩,
  ⟨0x10028, "linear-b-syllable-", "b060-ra b027-re b053-ri b002-ro b026-ru b031-sa b009-se
    b041-si b012-so b058-su b059-ta b004-te b037-ti b005-to b069-tu b054-wa b075-we b040-wi
    b042-wo"⟩,
  ⟨0x1003C, "linear-b-syllable-", "b017-za b074-ze"⟩,
  ⟨0x1003F, "linear-b-syllable-", "b020-zo b025-a2 b043-a3 b085-au b071-dwe b090-dwo b048-nwa
    b029-pu2 b062-pte b076-ra2 b033-ra3 b068-ro2 b066-ta2 b087-twe b091-two"⟩,
  ⟨0x10050, "linear-b-symbol-", "b018 b019 b022 b034 b047 b049 b056 b063 b064 b079 b082 b083 b086
    b089"⟩,
  ⟨0x10080, "linear-b-ideogram-", "b100-man b102-woman b104-deer b105-equid b105f-mare
    b105m-stallion b106f-ewe b106m-ram b107f-she-goat b107m-he-goat b108f-sow b108m-boar
    b109f-cow b109m-bull b120-wheat b121-barley b122-olive b123-spice b125-cyperus"⟩,
  ⟨0x10093, "linear-b-", "monogram-b127-kapo monogram-b128-kanako ideogram-b130-oil
    ideogram-b131-wine ideogram-b132 monogram-b133-arepa monogram-b135-meri"⟩,
  ⟨0x1009A, "linear-b-ideogram-", "b140-bronze b141-gold b142 b145-wool b146 b150 b151-horn b152
    b153 b154"⟩,
  ⟨0x100A4, "linear-b-monogram-b156-", "turo2"⟩,
  ⟨0x100A5, "linear-b-ideogram-", "b157 b158 b159-cloth b160 b161 b162-garment b163-armour b164
    b165 b166 b167 b168 b169 b170 b171 b172 b173-month b174 b176-tree b177 b178 b179 b180 b181
    b182 b183 b184 b185 b189 b190 b191-helmet b220-footstool b225-bathtub b230-spear b231-arrow
    b232 b233-sword b234 b236 b240-wheeled-chariot b241-chariot b242-chariot-frame b243-wheel
    b245 b246"⟩,
  ⟨0x100D2, "linear-b-monogram-b247-", "dipte"⟩,
  ⟨0x100D3, "linear-b-ideogram-", "b248 b249 b251 b252 b253 b254-dart b255 b256 b257 b258 b259"⟩,
  ⟨0x100DE, "linear-b-ideogram-vessel-", "b155 b200 b201 b202 b203 b204 b205 b206 b207 b208 b209
    b210 b211 b212 b213 b214 b215 b216 b217 b218 b219 b221 b222 b226 b227 b228 b229 b250 b305"⟩,
  ⟨0x10100, "aegean-", "word-separator-line word-separator-dot check-mark"⟩,
  ⟨0x10107, "aegean-number-", "one two three four five six seven eight nine ten twenty thirty
    forty fifty sixty seventy eighty ninety one-hundred two-hundred three-hundred four-hundred
    five-hundred six-hundred seven-hundred eight-hundred nine-hundred one-thousand two-thousand
    three-thousand four-thousand five-thousand six-thousand seven-thousand eight-thousand
    nine-thousand ten-thousand twenty-thousand thirty-thousand forty-thousand fifty-thousand
    sixty-thousand seventy-thousand eighty-thousand ninety-thousand"⟩,
  ⟨0x10137, "aegean-weight-", "base-unit first-subunit second-subunit third-subunit
    fourth-subunit"⟩,
  ⟨0x1013C, "aegean-", "dry-measure-first-subunit liquid-measure-first-subunit
    measure-second-subunit measure-third-subunit"⟩,
  ⟨0x10140, "greek-acrophonic-attic-", "one-quarter one-half one-drachma five fifty five-hundred
    five-thousand fifty-thousand five-talents ten-talents fifty-talents one-hundred-talents
    five-hundred-talents one-thousand-talents five-thousand-talents five-staters ten-staters
    fifty-staters one-hundred-staters five-hundred-staters one-thousand-staters
    ten-thousand-staters fifty-thousand-staters ten-mnas"⟩,
  ⟨0x10158, "greek-acrophonic-", "heraeum-one-plethron thespian-one hermionian-one epidaurean-two
    thespian-two cyrenaic-two-drachmas epidaurean-two-drachmas troezenian-five troezenian-ten
    troezenian-ten-alternate-form hermionian-ten messenian-ten thespian-ten thespian-thirty
    troezenian-fifty troezenian-fifty-alternate-form hermionian-fifty thespian-fifty
    thespian-one-hundred thespian-three-hundred epidaurean-five-hundred troezenian-five-hundred
    thespian-five-hundred carystian-five-hundred naxian-five-hundred thespian-one-thousand
    thespian-five-thousand delphic-five-mnas stratian-fifty-mnas"⟩,
  ⟨0x10175, "greek-", "one-half-sign one-half-sign-alternate-form two-thirds-sign
    three-quarters-sign year-sign talent-sign drachma-sign obol-sign two-obols-sign
    three-obols-sign four-obols-sign five-obols-sign metretes-sign kyathos-base-sign litra-sign
    ounkia-sign xestes-sign artabe-sign aroura-sign gramma-sign tryblion-base-sign zero-sign
    one-quarter-sign sinusoid-sign indiction-sign"⟩,
  ⟨0x1018E, "nomisma-", "sign"⟩,
  ⟨0x10190, "roman-", "sextans-sign uncia-sign semuncia-sign sextula-sign dimidia-sextula-sign
    siliqua-sign denarius-sign quinarius-sign sestertius-sign dupondius-sign as-sign
    centurial-sign"⟩,
  ⟨0x1019C, "ascia-", "symbol"⟩,
  ⟨0x101A0, "greek-symbol-tau-", "rho"⟩,
  ⟨0x101D0, "phaistos-disc-sign-", "pedestrian plumed-head tattooed-head captive child woman
    helmet gauntlet tiara arrow bow shield club manacles mattock saw lid boomerang
    carpentry-plane dolium comb sling column beehive ship horn hide bulls-leg cat ram eagle dove
    tunny bee plane-tree vine papyrus rosette lily ox-back flute grater strainer small-axe
    wavy-band combining-oblique-stroke"⟩,
  ⟨0x10280, "lycian-letter-", "a e b bh g d i w z th j k q l m n mm nn u p kk r s t tt an en h x"⟩,
  ⟨0x102A0, "carian-letter-", "a p2 d l uuu r ld a2 q b m o d2 t sh sh2 s c-18 u nn x n tt2 p ss
    i e uuuu k k2 nd uu g g2 st st2 ng ii c-39 tt uuu2 rr mb mb2 mb3 mb4 ld2 e2 uuu3"⟩,
  ⟨0x102E0, "coptic-epact-thousands-", "mark"⟩,
  ⟨0x102E1, "coptic-epact-digit-", "one two three four five six seven eight nine"⟩,
  ⟨0x102EA, "coptic-epact-number-", "ten twenty thirty forty fifty sixty seventy eighty ninety
    one-hundred two-hundred three-hundred four-hundred five-hundred six-hundred seven-hundred
    eight-hundred nine-hundred"⟩,
  ⟨0x10300, "old-italic-letter-", "a be ke de e ve ze he the i ka el em en esh o pe she ku er es
    te u eks phe khe ef ers che ii uu ess"⟩,
  ⟨0x10320, "old-italic-numeral-", "one five ten fifty"⟩,
  ⟨0x1032D, "old-italic-letter-", "ye northern-tse southern-tse"⟩,
  ⟨0x10330, "gothic-letter-", "ahsa bairkan giba dags aihvus qairthra iuja hagl thiuth eis kusma
    lagus manna nauths jer urus pairthra ninety raida sauil teiws winja faihu iggws hwair othal
    nine-hundred"⟩,
  ⟨0x10350, "old-permic-letter-", "an bur gai doi e zhoi dzhoi zata dzita i koke lei menoe nenoe
    vooi peei rei sii tai u chery shooi shchooi yry yeru o oo ef ha tsiu ver yer yeri yat ie yu
    ya ia"⟩,
  ⟨0x10376, "combining-old-permic-letter-", "an doi zata nenoe sii"⟩,
  ⟨0x10380, "ugaritic-letter-", "alpa beta gamla kha delta ho wo zeta hota tet yod kaf shin lamda
    mem dhal nun zu samka ain pu sade qopa rasha thanna ghain to i u ssu"⟩,
  ⟨0x1039F, "ugaritic-word-", "divider"⟩,
  ⟨0x103A0, "old-persian-sign-", "a i u ka ku ga gu xa ca ja ji ta tu da di du tha pa ba fa na nu
    ma mi mu ya va vi ra ru la sa za sha ssa ha"⟩,
  ⟨0x103C8, "old-persian-sign-", "auramazdaa auramazdaa-2 auramazdaaha xshaayathiya dahyaaush
    dahyaaush-2 baga buumish"⟩,
  ⟨0x103D0, "old-persian-word-", "divider"⟩,
  ⟨0x103D1, "old-persian-number-", "one two ten twenty hundred"⟩,
  ⟨0x10400, "deseret-capital-letter-", "long-i long-e long-a long-ah long-o long-oo short-i
    short-e short-a short-ah short-o short-oo ay ow wu yee h pee bee tee dee chee jee kay gay ef
    vee eth thee es zee esh zhee er el em en eng oi ew"⟩,
  ⟨0x10428, "deseret-small-letter-", "long-i long-e long-a long-ah long-o long-oo short-i short-e
    short-a short-ah short-o short-oo ay ow wu yee h pee bee tee dee chee jee kay gay ef vee eth
    thee es zee esh zhee er el em en eng oi ew"⟩,
  ⟨0x10450, "shavian-letter-", "peep tot kick fee thigh so sure church yea hung bib dead gag vow
    they zoo measure judge woe ha-ha loll mime if egg ash ado on wool out ah roar nun eat age ice
    up oak ooze oil awe are or air err array ear ian yew"⟩,
  ⟨0x10480, "osmanya-letter-", "alef ba ta ja xa kha deel ra sa shiin dha cayn ga fa qaaf kaaf
    laan miin nuun waw ha ya a e i o u aa ee oo"⟩,
  ⟨0x104A0, "osmanya-digit-", "zero one two three four five six seven eight nine"⟩,
  ⟨0x104B0, "osage-capital-letter-", "a ai ain ah bra cha ehcha e ein ha hya i ka ehka kya la ma
    na o oin pa ehpa sa sha ta ehta tsa ehtsa tsha dha u wa kha gha za zha"⟩,
  ⟨0x104D8, "osage-small-letter-", "a ai ain ah bra cha ehcha e ein ha hya i ka ehka kya la ma na
    o oin pa ehpa sa sha ta ehta tsa ehtsa tsha dha u wa kha gha za zha"⟩,
  ⟨0x10500, "elbasan-letter-", "a be ce che de nde dhe ei e fe ge gje he i je ke le lle me ne na
    nje o pe qe re rre se she te the u ve xe y ze zhe ghe ghamma khe"⟩,
  ⟨0x10530, "caucasian-albanian-letter-", "alt bet gim dat eb zarl eyn zhil tas cha yowd zha irb
    sha lan inya xeyn dyan car jhox kar lyit heyt qay aor choy chi cyay maq qar nowc dzyay shak
    jayn on tyay fam dzay chat pen gheys rat seyk veyz tiwr shoy iwn cyaw cayn yayd piwr kiw"⟩,
  ⟨0x1056F, "caucasian-albanian-citation-", "mark"⟩,
  ⟨0x10570, "vithkuqi-capital-letter-", "a bbe be ce che de dhe ei e fe ga"⟩,
  ⟨0x1057C, "vithkuqi-capital-letter-", "ha hha i ije je ka la lla me ne nje o pe qa re"⟩,
  ⟨0x1058C, "vithkuqi-capital-letter-", "se she te the u ve xe"⟩,
  ⟨0x10594, "vithkuqi-capital-letter-", "y ze"⟩,
  ⟨0x10597, "vithkuqi-small-letter-", "a bbe be ce che de dhe ei e fe ga"⟩,
  ⟨0x105A3, "vithkuqi-small-letter-", "ha hha i ije je ka la lla me ne nje o pe qa re"⟩,
  ⟨0x105B3, "vithkuqi-small-letter-", "se she te the u ve xe"⟩,
  ⟨0x105BB, "vithkuqi-small-letter-", "y ze"⟩,
  ⟨0x105C0, "todhri-letter-", "a as ba mba ca cha da nda dha ei e fa ga nga gja ngja ha hja i ja
    ka la lla ma na njan o pa qa ra rra sa sha shta ta tha u va xa nxa xha nxha y jy za zha gha
    sta skan kha psa oo"⟩,
  ⟨0x10600, "linear-a-sign-", "ab001 ab002 ab003 ab004 ab005 ab006 ab007 ab008 ab009 ab010 ab011"⟩,
  ⟨0x1060B, "linear-a-sign-", "ab013 ab016 ab017 ab020 ab021 ab021f ab021m ab022 ab022f ab022m
    ab023 ab023m ab024 ab026 ab027 ab028 a028b ab029 ab030 ab031 ab034 ab037 ab038 ab039 ab040
    ab041 ab044 ab045 ab046 ab047 ab048 ab049 ab050 ab051 ab053 ab054 ab055 ab056 ab057 ab058
    ab059 ab060 ab061 ab065 ab066 ab067 ab069 ab070 ab073 ab074 ab076 ab077 ab078 ab079 ab080
    ab081 ab082 ab085 ab086 ab087 a100-102 ab118 ab120 a120b ab122 ab123 ab131a ab131b a131c
    ab164 ab171 ab180 ab188 ab191 a301 a302 a303 a304 a305 a306 a307 a308 a309a a309b a309c a310
    a311 a312 a313a a313b a313c a314 a315 a316 a317 a318 a319 a320 a321 a322 a323 a324 a325 a326
    a327 a328 a329 a330 a331 a332 a333 a334 a335 a336 a337 a338 a339 a340 a341 a342 a343 a344
    a345 a346 a347 a348 a349 a350 a351 a352 a353 a354 a355 a356 a357 a358 a359 a360 a361 a362
    a363 a364 a365 a366 a367 a368 a369 a370 a371 a400-vas a401-vas a402-vas a403-vas a404-vas
    a405-vas a406-vas a407-vas a408-vas a409-vas a410-vas a411-vas a412-vas a413-vas a414-vas
    a415-vas a416-vas a417-vas a418-vas a501 a502 a503 a504 a505 a506 a508 a509 a510 a511 a512
    a513 a515 a516 a520 a521 a523 a524 a525 a526 a527 a528 a529 a530 a531 a532 a534 a535 a536
    a537 a538 a539 a540 a541 a542 a545 a547 a548 a549 a550 a551 a552 a553 a554 a555 a556 a557
    a559 a563 a564 a565 a566 a568 a569 a570 a571 a572 a573 a574 a575 a576 a577 a578 a579 a580
    a581 a582 a583 a584 a585 a586 a587 a588 a589 a591 a592 a594 a595 a596 a598 a600 a601 a602
    a603 a604 a606 a608 a609 a610 a611 a612 a613 a614 a615 a616 a617 a618 a619 a620 a621 a622
    a623 a624 a626 a627 a628 a629 a634 a637 a638 a640 a642 a643 a644 a645 a646 a648 a649 a651
    a652 a653 a654 a655 a656 a657 a658 a659 a660 a661 a662 a663 a664"⟩,
  ⟨0x10740, "linear-a-sign-", "a701-a a702-b a703-d a704-e a705-f a706-h a707-j a708-k a709-l
    a709-2-l2 a709-3-l3 a709-4-l4 a709-6-l6 a710-w a711-x a712-y a713-omega a714-abb a715-bb
    a717-dd a726-eyyy a732-je"⟩,
  ⟨0x10760, "linear-a-sign-", "a800 a801 a802 a803 a804 a805 a806 a807"⟩,
  ⟨0x10780, "modifier-letter-", "small-capital-aa superscript-triangular-colon
    superscript-half-triangular-colon small-ae small-capital-b small-b-with-hook"⟩,
  ⟨0x10787, "modifier-letter-small-", "dz-digraph dz-digraph-with-retroflex-hook
    dz-digraph-with-curl dezh-digraph d-with-tail d-with-hook d-with-hook-and-tail reversed-e
    closed-reversed-open-e feng-digraph rams-horn capital-g g-with-hook capital-g-with-hook
    h-with-stroke capital-h heng-with-hook dotless-j-with-stroke-and-hook ls-digraph lz-digraph
    l-with-belt capital-l-with-belt l-with-retroflex-hook-and-belt lezh lezh-with-retroflex-hook
    turned-y turned-y-with-belt o-with-stroke capital-oe closed-omega q turned-r-with-long-leg
    turned-r-with-long-leg-and-retroflex-hook r-with-tail r-with-fishhook capital-r
    tc-digraph-with-curl ts-digraph ts-digraph-with-retroflex-hook tesh-digraph
    t-with-retroflex-hook v-with-right-hook"⟩,
  ⟨0x107B2, "modifier-letter-", "small-capital-y glottal-stop-with-stroke
    reversed-glottal-stop-with-stroke bilabial-click dental-click lateral-click alveolar-click
    retroflex-click-with-retroflex-hook small-s-with-curl"⟩,
  ⟨0x10800, "cypriot-syllable-", "a e i o u ja"⟩,
  ⟨0x10808, "cypriot-syllable-", "jo"⟩,
  ⟨0x1080A, "cypriot-syllable-", "ka ke ki ko ku la le li lo lu ma me mi mo mu na ne ni no nu pa
    pe pi po pu ra re ri ro ru sa se si so su ta te ti to tu wa we wi wo"⟩,
  ⟨0x10837, "cypriot-syllable-", "xa xe"⟩,
  ⟨0x1083C, "cypriot-syllable-", "za"⟩,
  ⟨0x1083F, "cypriot-syllable-", "zo"⟩,
  ⟨0x10840, "imperial-aramaic-letter-", "aleph beth gimel daleth he waw zayin heth teth yodh kaph
    lamedh mem nun samekh ayin pe sadhe qoph resh shin taw"⟩,
  ⟨0x10857, "imperial-aramaic-section-", "sign"⟩,
  ⟨0x10858, "imperial-aramaic-number-", "one two three ten twenty one-hundred one-thousand
    ten-thousand"⟩,
  ⟨0x10860, "palmyrene-letter-", "aleph beth gimel daleth he waw zayin heth teth yodh kaph lamedh
    mem final-nun nun samekh ayin pe sadhe qoph resh shin taw"⟩,
  ⟨0x10877, "palmyrene-", "left-pointing-fleuron right-pointing-fleuron"⟩,
  ⟨0x10879, "palmyrene-number-", "one two three four five ten twenty"⟩,
  ⟨0x10880, "nabataean-letter-", "final-aleph aleph final-beth beth gimel daleth final-he he waw
    zayin heth teth final-yodh yodh final-kaph kaph final-lamedh lamedh final-mem mem final-nun
    nun samekh ayin pe sadhe qoph resh final-shin shin taw"⟩,
  ⟨0x108A7, "nabataean-", "number-one number-two number-three number-four cruciform-number-four
    number-five number-ten number-twenty number-one-hundred"⟩,
  ⟨0x108E0, "hatran-letter-", "aleph beth gimel daleth-resh he waw zayn heth teth yodh kaph
    lamedh mem nun samekh ayn pe sadhe qoph"⟩,
  ⟨0x108F4, "hatran-letter-", "shin taw"⟩,
  ⟨0x108FB, "hatran-number-", "one five ten twenty one-hundred"⟩,
  ⟨0x10900, "phoenician-letter-", "alf bet gaml delt he wau zai het tet yod kaf lamd mem nun semk
    ain pe sade qof rosh shin tau"⟩,
  ⟨0x10916, "phoenician-number-", "one ten twenty one-hundred two three"⟩,
  ⟨0x1091F, "phoenician-word-", "separator"⟩,
  ⟨0x10920, "lydian-letter-", "a b g d e v i y k l m n o r ss t u f q s tt an en ly nn c"⟩,
  ⟨0x1093F, "lydian-triangular-", "mark"⟩,
  ⟨0x10980, "meroitic-hieroglyphic-letter-", "a e i o ya wa ba ba-2 pa ma na na-2 ne ne-2 ra ra-2
    la kha hha sa sa-2 se ka qa ta ta-2 te te-2 to da"⟩,
  ⟨0x1099E, "meroitic-hieroglyphic-symbol-", "vidj vidj-2"⟩,
  ⟨0x109A0, "meroitic-cursive-letter-", "a e i o ya wa ba pa ma na ne ra la kha hha sa archaic-sa
    se ka qa ta te to da"⟩,
  ⟨0x109BC, "meroitic-cursive-", "fraction-eleven-twelfths fraction-one-half logogram-rmt
    logogram-imn"⟩,
  ⟨0x109C0, "meroitic-cursive-number-", "one two three four five six seven eight nine ten twenty
    thirty forty fifty sixty seventy"⟩,
  ⟨0x109D2, "meroitic-cursive-number-", "one-hundred two-hundred three-hundred four-hundred
    five-hundred six-hundred seven-hundred eight-hundred nine-hundred one-thousand two-thousand
    three-thousand four-thousand five-thousand six-thousand seven-thousand eight-thousand
    nine-thousand ten-thousand twenty-thousand thirty-thousand forty-thousand fifty-thousand
    sixty-thousand seventy-thousand eighty-thousand ninety-thousand one-hundred-thousand
    two-hundred-thousand three-hundred-thousand four-hundred-thousand five-hundred-thousand
    six-hundred-thousand seven-hundred-thousand eight-hundred-thousand nine-hundred-thousand"⟩,
  ⟨0x109F6, "meroitic-cursive-fraction-", "one-twelfth two-twelfths three-twelfths four-twelfths
    five-twelfths six-twelfths seven-twelfths eight-twelfths nine-twelfths ten-twelfths"⟩,
  ⟨0x10A00, "kharoshthi-", "letter-a vowel-sign-i vowel-sign-u vowel-sign-vocalic-r"⟩,
  ⟨0x10A05, "kharoshthi-vowel-sign-", "e o"⟩,
  ⟨0x10A0C, "kharoshthi-", "vowel-length-mark sign-double-ring-below sign-anusvara sign-visarga
    letter-ka letter-kha letter-ga letter-gha"⟩,
  ⟨0x10A15, "kharoshthi-letter-", "ca cha ja"⟩,
  ⟨0x10A19, "kharoshthi-letter-", "nya tta ttha dda ddha nna ta tha da dha na pa pha ba bha ma ya
    ra la va sha ssa sa za ha kka tttha ttta vha"⟩,
  ⟨0x10A38, "kharoshthi-sign-", "bar-above cauda dot-below"⟩,
  ⟨0x10A3F, "kharoshthi-", "virama digit-one digit-two digit-three digit-four number-ten
    number-twenty number-one-hundred number-one-thousand fraction-one-half"⟩,
  ⟨0x10A50, "kharoshthi-punctuation-", "dot small-circle circle crescent-bar mangalam lotus danda
    double-danda lines"⟩,
  ⟨0x10A60, "old-south-arabian-letter-", "he lamedh heth mem qoph waw shin resh beth taw sat kaph
    nun kheth sadhe samekh fe alef ayn dhadhe gimel daleth ghayn teth zayn dhaleth yodh thaw
    theth"⟩,
  ⟨0x10A7D, "old-south-arabian-", "number-one number-fifty numeric-indicator"⟩,
  ⟨0x10A80, "old-north-arabian-letter-", "heh lam hah meem qaf waw es-2 reh beh teh es-1 kaf noon
    khah sad es-3 feh alef ain dad geem dal ghain tah zain thal yeh theh zah"⟩,
  ⟨0x10A9D, "old-north-arabian-number-", "one ten twenty"⟩,
  ⟨0x10AC0, "manichaean-letter-", "aleph beth bheth gimel ghimel daleth he waw"⟩,
  ⟨0x10AC8, "manichaean-sign-", "ud"⟩,
  ⟨0x10AC9, "manichaean-letter-", "zayin zhayin jayin jhayin heth teth yodh kaph xaph khaph
    lamedh dhamedh thamedh mem nun samekh ayin aayin pe fe sadhe qoph xoph qhoph resh shin sshin
    taw"⟩,
  ⟨0x10AE5, "manichaean-abbreviation-mark-", "above below"⟩,
  ⟨0x10AEB, "manichaean-number-", "one five ten twenty one-hundred"⟩,
  ⟨0x10AF0, "manichaean-punctuation-", "star fleuron double-dot-within-dot dot-within-dot dot
    two-dots line-filler"⟩,
  ⟨0x10B00, "avestan-letter-", "a aa ao aao an aan ae aee e ee o oo i ii u uu ke xe xye xve ge
    gge ghe ce je te the de dhe tte pe fe be bhe nge ngye ngve ne nye nne me hme yye ye ve re le
    se ze she zhe shye sshe he"⟩,
  ⟨0x10B39, "", "avestan-abbreviation-mark tiny-two-dots-over-one-dot-punctuation
    small-two-dots-over-one-dot-punctuation"⟩,
  ⟨0x10B3C, "large-", "two-dots-over-one-dot-punctuation one-dot-over-two-dots-punctuation
    two-rings-over-one-ring-punctuation one-ring-over-two-rings-punctuation"⟩,
  ⟨0x10B40, "inscriptional-parthian-letter-", "aleph beth gimel daleth he waw zayin heth teth
    yodh kaph lamedh mem nun samekh ayin pe sadhe qoph resh shin taw"⟩,
  ⟨0x10B58, "inscriptional-parthian-number-", "one two three four ten twenty one-hundred
    one-thousand"⟩,
  ⟨0x10B60, "inscriptional-pahlavi-letter-", "aleph beth gimel daleth he waw-ayin-resh zayin heth
    teth yodh kaph lamedh mem-qoph nun samekh pe sadhe shin taw"⟩,
  ⟨0x10B78, "inscriptional-pahlavi-number-", "one two three four ten twenty one-hundred
    one-thousand"⟩,
  ⟨0x10B80, "psalter-pahlavi-letter-", "aleph beth gimel daleth he waw-ayin-resh zayin heth yodh
    kaph lamedh mem-qoph nun samekh pe sadhe shin taw"⟩,
  ⟨0x10B99, "psalter-pahlavi-", "section-mark turned-section-mark four-dots-with-cross
    four-dots-with-dot"⟩,
  ⟨0x10BA9, "psalter-pahlavi-number-", "one two three four ten twenty one-hundred"⟩,
  ⟨0x10C00, "old-turkic-letter-", "orkhon-a yenisei-a yenisei-ae orkhon-i yenisei-i yenisei-e
    orkhon-o orkhon-oe yenisei-oe orkhon-ab yenisei-ab orkhon-aeb yenisei-aeb orkhon-ag
    yenisei-ag orkhon-aeg yenisei-aeg orkhon-ad yenisei-ad orkhon-aed orkhon-ez yenisei-ez
    orkhon-ay yenisei-ay orkhon-aey yenisei-aey orkhon-aek yenisei-aek orkhon-oek yenisei-oek
    orkhon-al yenisei-al orkhon-ael orkhon-elt orkhon-em orkhon-an orkhon-aen yenisei-aen
    orkhon-ent yenisei-ent orkhon-enc yenisei-enc orkhon-eny yenisei-eny yenisei-ang orkhon-eng
    yenisei-aeng orkhon-ep orkhon-op orkhon-ic orkhon-ec yenisei-ec orkhon-aq yenisei-aq
    orkhon-iq yenisei-iq orkhon-oq yenisei-oq orkhon-ar yenisei-ar orkhon-aer orkhon-as
    orkhon-aes orkhon-ash yenisei-ash orkhon-esh yenisei-esh orkhon-at yenisei-at orkhon-aet
    yenisei-aet orkhon-ot orkhon-bash"⟩,
  ⟨0x10C80, "old-hungarian-capital-letter-", "a aa eb amb ec enc ecs ed and e close-e ee ef eg
    egy eh i ii ej ek ak unk el ely em en eny o oo nikolsburg-oe rudimenta-oe oee ep emp er
    short-er es esz et ent ety ech u uu nikolsburg-ue rudimenta-ue ev ez ezs ent-shaped-sign us"⟩,
  ⟨0x10CC0, "old-hungarian-small-letter-", "a aa eb amb ec enc ecs ed and e close-e ee ef eg egy
    eh i ii ej ek ak unk el ely em en eny o oo nikolsburg-oe rudimenta-oe oee ep emp er short-er
    es esz et ent ety ech u uu nikolsburg-ue rudimenta-ue ev ez ezs ent-shaped-sign us"⟩,
  ⟨0x10CFA, "old-hungarian-number-", "one five ten fifty one-hundred one-thousand"⟩,
  ⟨0x10D00, "hanifi-rohingya-letter-", "a ba pa ta tta ja ca ha kha fa da dda ra rra za sa sha ka
    ga la ma na wa kinna-wa ya kinna-ya nga nya va"⟩,
  ⟨0x10D1D, "hanifi-rohingya-", "vowel-a vowel-i vowel-u vowel-e vowel-o mark-sakin
    mark-na-khonna sign-harbahay sign-tahala sign-tana sign-tassi"⟩,
  ⟨0x10D30, "hanifi-rohingya-digit-", "zero one two three four five six seven eight nine"⟩,
  ⟨0x10D40, "garay-digit-", "zero one two three four five six seven eight nine"⟩,
  ⟨0x10D4A, "garay-vowel-sign-", "a i o ee"⟩,
  ⟨0x10D4E, "garay-", "vowel-length-mark sukun"⟩,
  ⟨0x10D50, "garay-capital-letter-", "a ca ma ka ba ja sa wa la ga da xa ya ta ra nya fa na pa ha
    old-ka old-na"⟩,
  ⟨0x10D69, "garay-", "vowel-sign-e consonant-gemination-mark combining-dot-above
    combining-double-dot-above consonant-nasalization-mark hyphen reduplication-mark"⟩,
  ⟨0x10D70, "garay-small-letter-", "a ca ma ka ba ja sa wa la ga da xa ya ta ra nya fa na pa ha
    old-ka old-na"⟩,
  ⟨0x10D8E, "garay-", "plus-sign minus-sign"⟩,
  ⟨0x10E60, "rumi-digit-", "one two three four five six seven eight nine"⟩,
  ⟨0x10E69, "rumi-number-", "ten twenty thirty forty fifty sixty seventy eighty ninety
    one-hundred two-hundred three-hundred four-hundred five-hundred six-hundred seven-hundred
    eight-hundred nine-hundred"⟩,
  ⟨0x10E7B, "rumi-fraction-", "one-half one-quarter one-third two-thirds"⟩,
  ⟨0x10E80, "yezidi-letter-", "elif be pe phe the se cim chim chhim hha xa dal zal ra rha za ja
    sin shin sad dad ta ze eyn xheyn fa va va-alternate-form qaf kaf khaf gaf lam mim nun um waw
    ow ew hay yot et"⟩,
  ⟨0x10EAB, "yezidi-", "combining-hamza-mark combining-madda-mark hyphenation-mark"⟩,
  ⟨0x10EB0, "yezidi-letter-", "lam-with-dot-above yot-with-circumflex-above"⟩,
  ⟨0x10EC2, "arabic-letter-", "dal-with-two-dots-vertically-below
    tah-with-two-dots-vertically-below kaf-with-two-dots-vertically-below"⟩,
  ⟨0x10EFC, "arabic-combining-alef-", "overlay"⟩,
  ⟨0x10EFD, "arabic-small-low-word-", "sakta qasr madda"⟩,
  ⟨0x10F00, "old-sogdian-letter-", "aleph final-aleph beth final-beth gimel he final-he waw zayin
    heth yodh kaph lamedh mem nun final-nun final-nun-with-vertical-tail samekh ayin
    alternate-ayin pe sadhe final-sadhe final-sadhe-with-vertical-tail resh-ayin-daleth shin taw
    final-taw final-taw-with-vertical-tail"⟩,
  ⟨0x10F1D, "old-sogdian-number-", "one two three four five ten twenty thirty one-hundred"⟩,
  ⟨0x10F26, "old-sogdian-", "fraction-one-half ligature-ayin-daleth"⟩,
  ⟨0x10F30, "sogdian-letter-", "aleph beth gimel he waw zayin heth yodh kaph lamedh mem nun
    samekh ayin pe sadhe resh-ayin shin taw feth lesh"⟩,
  ⟨0x10F45, "sogdian-independent-", "shin"⟩,
  ⟨0x10F46, "sogdian-combining-", "dot-below two-dots-below dot-above two-dots-above curve-above
    curve-below hook-above hook-below long-hook-below resh-below stroke-below"⟩,
  ⟨0x10F51, "sogdian-number-", "one ten twenty one-hundred"⟩,
  ⟨0x10F55, "sogdian-punctuation-", "two-vertical-bars two-vertical-bars-with-dots
    circle-with-dot two-circles-with-dots half-circle-with-dot"⟩,
  ⟨0x10F70, "old-uyghur-letter-", "aleph beth gimel-heth waw zayin final-heth yodh kaph lamedh
    mem nun samekh pe sadhe resh shin taw lesh"⟩,
  ⟨0x10F82, "old-uyghur-combining-", "dot-above dot-below two-dots-above two-dots-below"⟩,
  ⟨0x10F86, "old-uyghur-punctuation-", "bar two-bars two-dots four-dots"⟩,
  ⟨0x10FB0, "chorasmian-letter-", "aleph small-aleph beth gimel daleth he waw curled-waw zayin
    heth yodh kaph lamedh mem nun samekh ayin pe resh shin taw"⟩,
  ⟨0x10FC5, "chorasmian-number-", "one two three four ten twenty one-hundred"⟩,
  ⟨0x10FE0, "elymaic-letter-", "aleph beth gimel daleth he waw zayin heth teth yodh kaph lamedh
    mem nun samekh ayin pe sadhe qoph resh shin taw"⟩,
  ⟨0x10FF6, "elymaic-ligature-zayin-", "yodh"⟩]

set_option maxRecDepth 10000 in
def cuneiformBlocks : List Block := [
  ⟨0x12000, "cuneiform-sign-", "a a-times-a a-times-bad a-times-gan2-tenu a-times-ha a-times-igi
    a-times-lagar-gunu a-times-mush a-times-sag a2 ab"⟩,
  ⟨0x1200B, "cuneiform-sign-ab-times-", "ash2 dun3-gunu gal gan2-tenu ha igi-gunu imin lagab
    shesh u-plus-u-plus-u"⟩,
  ⟨0x12015, "cuneiform-sign-", "ab-gunu ab2 ab2-times-balag ab2-times-gan2-tenu
    ab2-times-me-plus-en ab2-times-sha3 ab2-times-tak4 ad ak ak-times-erin2
    ak-times-shita-plus-gish al"⟩,
  ⟨0x12021, "cuneiform-sign-al-times-", "al dim2 gish ha kad3 ki she ush"⟩,
  ⟨0x12029, "cuneiform-sign-", "alan aleph amar amar-times-she an an-over-an an-three-times
    an-plus-naga-opposing-an-plus-naga an-plus-naga-squared anshe apin arad arad-times-kur arkab
    asal2 ash ash-zida-tenu ash-kaba-tenu ash-over-ash-tug2-over-tug2-tug2-over-tug2-pap
    ash-over-ash-over-ash ash-over-ash-over-ash-crossing-ash-over-ash-over-ash ash2 ashgab ba bad
    bag3 bahar2 bal bal-over-bal balag bar bara2 bi bi-times-a bi-times-gar bi-times-igi-gunu bu
    bu-over-bu-ab bu-over-bu-un bu-crossing-bu bulug bulug-over-bulug bur bur2 da dag"⟩,
  ⟨0x12057, "cuneiform-sign-dag-kisim5-times-", "a-plus-mash amar balag bi ga ga-plus-mash gi
    gir2 gud ha ir ir-plus-lu kak la lu lu-plus-mash2 lum ne pap-plus-pap si tak4 u2-plus-gir2
    ush"⟩,
  ⟨0x1206E, "cuneiform-sign-", "dam dar dara3 dara4 di dib dim dim-times-she dim2 din
    din-kaskal-u-gunu-dish dish du du-over-du du-gunu du-sheshig dub dub-times-esh2 dub2 dug
    dugud duh dun dun3 dun3-gunu dun3-gunu-gunu dun4 dur2 e e-times-pap e-over-e-nun-over-nun e2
    e2-times-a-plus-ha-plus-da e2-times-gar e2-times-mi e2-times-sal e2-times-she e2-times-u edin
    egir el en en-times-gan2 en-times-gan2-tenu en-times-me en-crossing-en en-opposing-en
    en-squared eren erin2 esh2 ezen"⟩,
  ⟨0x120A2, "cuneiform-sign-ezen-times-", "a a-plus-lal a-plus-lal-times-lal an bad dun3-gunu
    dun3-gunu-gunu ha ha-gunu igi-gunu kaskal kaskal-squared ku3 la lal-times-lal li lu u2 ud"⟩,
  ⟨0x120B5, "cuneiform-sign-", "ga ga-gunu ga2"⟩,
  ⟨0x120B8, "cuneiform-sign-ga2-times-", "a-plus-da-plus-ha a-plus-ha a-plus-igi
    ab2-tenu-plus-tab an ash ash2-plus-gal bad bar-plus-ra bur bur-plus-ra da di dim-times-she
    dub el el-plus-la en en-times-gan2-tenu gan2-tenu gar gi gi4 gi4-plus-a gir2-plus-su
    ha-plus-lu-plus-esh2 hal hal-plus-la hi-plus-li hub2 igi-gunu ish-plus-hu-plus-ash kak kaskal
    kid kid-plus-lal ku3-plus-an la me-plus-en mi nun nun-over-nun pa sal sar she she-plus-tur
    shid sum tak4 u ud ud-plus-du"⟩,
  ⟨0x120ED, "cuneiform-sign-", "ga2-over-ga2 gaba gaba-crossing-gaba gad
    gad-over-gad-gar-over-gar gal gal-gad-over-gad-gar-over-gar galam gam gan gan2 gan2-tenu
    gan2-over-gan2 gan2-crossing-gan2 gar gar3 gashan geshtin geshtin-times-kur gi gi-times-e
    gi-times-u gi-crossing-gi gi4 gi4-over-gi4 gi4-crossing-gi4 gidim gir2 gir2-gunu gir3
    gir3-times-a-plus-igi gir3-times-gan2-tenu gir3-times-igi gir3-times-lu-plus-igi
    gir3-times-pa gisal gish gish-crossing-gish gish-times-bad gish-times-tak4 gish-tenu gu
    gu-crossing-gu gu2 gu2-times-kak gu2-times-kak-times-igi-gunu gu2-times-nun
    gu2-times-sal-plus-tug2 gu2-gunu gud gud-times-a-plus-kur gud-times-kur gud-over-gud-lugal
    gul gum gum-times-she gur gur7 gurun gurush ha ha-tenu ha-gunu hal hi"⟩,
  ⟨0x1212E, "cuneiform-sign-hi-times-", "ash ash2 bad dish gad kin nun she u"⟩,
  ⟨0x12137, "cuneiform-sign-", "hu hub2 hub2-times-an hub2-times-hal hub2-times-kaskal
    hub2-times-lish hub2-times-ud hul2 i i-a ib idim idim-over-idim-bur idim-over-idim-squared ig
    igi igi-dib igi-ri igi-over-igi-shir-over-shir-ud-over-ud igi-gunu il il-times-gan2-tenu il2
    im im-times-tak4 im-crossing-im im-opposing-im im-squared imin in ir ish ka"⟩,
  ⟨0x12158, "cuneiform-sign-ka-times-", "a ad ad-plus-ku3 ash2 bad balag bar bi erin2 esh2 ga gal
    gan2-tenu gar gar-plus-sha3-plus-a gi gir2 gish-plus-sar gish-crossing-gish gu gur7 igi im
    kak ki kid li lu me me-plus-du me-plus-gi me-plus-te mi mi-plus-nunuz ne nun pi ru sa sar sha
    she shid shu sig suhur tar u u2 ud umum-times-pa ush zi"⟩,
  ⟨0x1218D, "cuneiform-sign-", "ka2 ka2-crossing-ka2 kab kad2 kad3 kad4 kad5 kad5-over-kad5 kak
    kak-times-igi-gunu kal kal-times-bad kal-crossing-kal kam2 kam4 kaskal
    kaskal-lagab-times-u-over-lagab-times-u kaskal-over-kaskal-lagab-times-u-over-lagab-times-u
    kesh2 ki ki-times-bad ki-times-u ki-times-ud kid kin kisal kish kisim5 kisim5-over-kisim5 ku
    ku-over-hi-times-ash2-ku-over-hi-times-ash2 ku3 ku4 ku4-variant-form ku7 kul kul-gunu kun kur
    kur-opposing-kur kushu2 kwu318 la lagab"⟩,
  ⟨0x121B9, "cuneiform-sign-lagab-times-", "a a-plus-da-plus-ha a-plus-gar a-plus-lal al an
    ash-zida-tenu bad bi dar en ga gar gud gud-plus-gud ha hal hi-times-nun igi-gunu im
    im-plus-ha im-plus-lu ki kin ku3 kul kul-plus-hi-plus-a lagab lish lu lul me me-plus-en mush
    ne she-plus-sum shita-plus-gish-plus-erin2 shita-plus-gish-tenu shu2 shu2-plus-shu2 sum tag
    tak4 te-plus-a-plus-su-plus-na u u-plus-a u-plus-u-plus-u u2-plus-ash ud ush"⟩,
  ⟨0x121EB, "cuneiform-sign-", "lagab-squared lagar lagar-times-she lagar-times-she-plus-sum
    lagar-gunu lagar-gunu-over-lagar-gunu-she lahshu lal lal-times-lal lam lam-times-kur
    lam-times-kur-plus-ru li lil limmu2 lish lu lu-times-bad lu2"⟩,
  ⟨0x121FE, "cuneiform-sign-lu2-times-", "al bad esh2 esh2-tenu gan2-tenu hi-times-bad im kad2
    kad3 kad3-plus-ash ki la-plus-ash lagab me-plus-en ne nu si-plus-ash sik2-plus-bu tug2"⟩,
  ⟨0x12211, "cuneiform-sign-", "lu2-tenu lu2-crossing-lu2 lu2-opposing-lu2 lu2-squared
    lu2-sheshig lu3 lugal lugal-over-lugal lugal-opposing-lugal lugal-sheshig luh lul lum
    lum-over-lum lum-over-lum-gar-over-gar ma ma-times-tak4 ma-gunu ma2 mah mar mash mash2 me mes
    mi min mu mu-over-mu mug mug-gunu munsub murgu2 mush mush-times-a mush-times-kur
    mush-times-za mush-over-mush mush-over-mush-times-a-plus-na mush-crossing-mush mush3
    mush3-times-a mush3-times-a-plus-di mush3-times-di mush3-gunu na na2 naga naga-inverted
    naga-times-shu-tenu naga-opposing-naga nagar nam-nutillu nam nam2 ne ne-times-a ne-times-ud
    ne-sheshig ni ni-times-e ni2 nim nim-times-gan2-tenu nim-times-gar-plus-gan2-tenu ninda2"⟩,
  ⟨0x12253, "cuneiform-sign-ninda2-times-", "an ash ash-plus-ash gud me-plus-gan2-tenu ne nun she
    she-plus-a-an she-plus-ash she-plus-ash-plus-ash u2-plus-ash ush"⟩,
  ⟨0x12260, "cuneiform-sign-", "nisag nu nu11 nun"⟩,
  ⟨0x12264, "cuneiform-sign-nun-lagar-times-", "gar mash sal sal-over-nun-lagar-times-sal ush"⟩,
  ⟨0x12269, "cuneiform-sign-", "nun-tenu nun-over-nun nun-crossing-nun
    nun-crossing-nun-lagar-over-lagar nunuz"⟩,
  ⟨0x1226E, "cuneiform-sign-nunuz-ab2-times-", "ashgab bi dug gud igi-gunu kad3 la ne sila3 u2"⟩,
  ⟨0x12278, "cuneiform-sign-", "nunuz-kisim5-times-bi nunuz-kisim5-times-bi-u pa pad pan pap
    pesh2 pi"⟩,
  ⟨0x12280, "cuneiform-sign-pi-times-", "a ab bi bu e i ib u u2"⟩,
  ⟨0x12289, "cuneiform-sign-", "pi-crossing-pi pirig pirig-times-kal pirig-times-ud
    pirig-times-za pirig-opposing-pirig ra rab ri ru sa sag-nutillu sag"⟩,
  ⟨0x12296, "cuneiform-sign-sag-times-", "a du dub ha kak kur lum mi nun sal shid tab u2 ub um ur
    ush"⟩,
  ⟨0x122A7, "cuneiform-sign-", "sag-over-sag sag-gunu sal sal-lagab-times-ash2 sanga2 sar sha
    sha3"⟩,
  ⟨0x122AF, "cuneiform-sign-sha3-times-", "a bad gish ne shu2 tur u u-plus-a"⟩,
  ⟨0x122B7, "cuneiform-sign-", "sha6 shab6 shar2 she she-hu
    she-over-she-gad-over-gad-gar-over-gar she-over-she-tab-over-tab-gar-over-gar sheg9 shen
    shesh shesh2 sheshlam shid shid-times-a shid-times-im shim"⟩,
  ⟨0x122C7, "cuneiform-sign-shim-times-", "a bal bulug din gar igi igi-gunu kushu2 lul mug sal"⟩,
  ⟨0x122D2, "cuneiform-sign-", "shinig shir shir-tenu shir-over-shir-bur-over-bur shita shu
    shu-over-inverted-shu shu2 shubur si si-gunu sig sig4 sig4-over-sig4-shu2 sik2 sila3 su
    su-over-su sud sud2 suhur sum sumash sur sur9 ta ta-asterisk ta-times-hi ta-times-mi ta-gunu
    tab tab-over-tab-ni-over-ni-dish-over-dish tab-squared tag tag-times-bi tag-times-gud
    tag-times-she tag-times-shu tag-times-tug2 tag-times-ud tak4 tar te te-gunu ti ti-tenu til
    tir tir-times-tak4 tir-over-tir tir-over-tir-gad-over-gad-gar-over-gar tu tug2 tuk tum tur
    tur-over-tur-za-over-za u u-gud u-u-u u-over-u-pa-over-pa-gar-over-gar u-over-u-sur-over-sur
    u-over-u-u-reversed-over-u-reversed u2 ub ud ud-kushu2 ud-times-bad ud-times-mi
    ud-times-u-plus-u-plus-u ud-times-u-plus-u-plus-u-gunu ud-gunu ud-sheshig
    ud-sheshig-times-bad udug um um-times-lagab um-times-me-plus-da um-times-sha3 um-times-u
    umbin umum umum-times-kaskal umum-times-pa un un-gunu ur ur-crossing-ur ur-sheshig ur2"⟩,
  ⟨0x1232C, "cuneiform-sign-ur2-times-", "a-plus-ha a-plus-na al ha nun u2 u2-plus-ash u2-plus-bi"⟩,
  ⟨0x12334, "cuneiform-sign-", "ur4 uri uri3 uru"⟩,
  ⟨0x12338, "cuneiform-sign-uru-times-", "a ashgab bar dun ga gal gan2-tenu gar gu ha igi im ish
    ki lum min pa she sig4 tu u-plus-gud ud uruda"⟩,
  ⟨0x1234F, "cuneiform-sign-", "uruda uruda-times-u ush ush-times-a ush-times-ku ush-times-kur
    ush-times-tak4 ushx ush2 ushumx utuki uz3 uz3-times-kaskal uzu za za-tenu
    za-squared-times-kur zag zamx ze2 zi zi-over-zi zi3 zib zib-kaba-tenu zig ziz2 zu zu5
    zu5-times-a zubur zum kap-elamite ab-times-nun ab2-times-a amar-times-kug
    dag-kisim5-times-u2-plus-mash dag3 dish-plus-shu dub-times-she ezen-times-gud ezen-times-she
    ga2-times-an-plus-kak-plus-a ga2-times-ash2 ge22 gig hush"⟩,
  ⟨0x1237E, "cuneiform-sign-ka-times-", "anshe ash3 gish gud hi-times-ash2 lum pa shul tu ur2"⟩,
  ⟨0x12388, "cuneiform-sign-", "lagab-times-gi lu2-sheshig-times-bad lu2-times-esh2-plus-lal
    lu2-times-shu mesh mush3-times-za na4 nin nin9 ninda2-times-bal ninda2-times-gi
    nu11-rotated-ninety-degrees pesh2-asterisk pir2 sag-times-igi-gunu ti2 um-times-me u-u"⟩,
  ⟨0x12400, "cuneiform-numeric-sign-", "two-ash three-ash four-ash five-ash six-ash seven-ash
    eight-ash nine-ash three-dish four-dish five-dish six-dish seven-dish eight-dish nine-dish
    four-u five-u six-u seven-u eight-u nine-u one-gesh2 two-gesh2 three-gesh2 four-gesh2
    five-gesh2 six-gesh2 seven-gesh2 eight-gesh2 nine-gesh2 one-geshu two-geshu three-geshu
    four-geshu five-geshu two-shar2 three-shar2 three-shar2-variant-form four-shar2 five-shar2
    six-shar2 seven-shar2 eight-shar2 nine-shar2 one-sharu two-sharu three-sharu
    three-sharu-variant-form four-sharu five-sharu shar2-times-gal-plus-dish
    shar2-times-gal-plus-min one-buru two-buru three-buru three-buru-variant-form four-buru
    five-buru three-variant-form-esh16 three-variant-form-esh21 four-variant-form-limmu
    four-variant-form-limmu4 four-variant-form-limmu-a four-variant-form-limmu-b
    six-variant-form-ash9 seven-variant-form-imin3 seven-variant-form-imin-a
    seven-variant-form-imin-b eight-variant-form-ussu eight-variant-form-ussu3
    nine-variant-form-ilimmu nine-variant-form-ilimmu3 nine-variant-form-ilimmu4
    nine-variant-form-ilimmu-a two-ash-tenu three-ash-tenu four-ash-tenu five-ash-tenu
    six-ash-tenu one-ban2 two-ban2 three-ban2 four-ban2 four-ban2-variant-form five-ban2
    five-ban2-variant-form nigidamin nigidaesh one-eshe3 two-eshe3 one-third-dish two-thirds-dish
    five-sixths-dish one-third-variant-form-a two-thirds-variant-form-a one-eighth-ash
    one-quarter-ash old-assyrian-one-sixth old-assyrian-one-quarter one-quarter-gur one-half-gur
    elamite-one-third elamite-two-thirds elamite-forty elamite-fifty four-u-variant-form
    five-u-variant-form six-u-variant-form seven-u-variant-form eight-u-variant-form
    nine-u-variant-form"⟩,
  ⟨0x12470, "cuneiform-punctuation-sign-", "old-assyrian-word-divider vertical-colon
    diagonal-colon diagonal-tricolon diagonal-quadcolon"⟩,
  ⟨0x12480, "cuneiform-sign-", "ab-times-nun-tenu ab-times-shu2 ad-times-esh2 bad-times-dish-tenu
    bahar2-times-ab2 bahar2-times-ni bahar2-times-za bu-over-bu-times-na2 da-times-tak4
    dag-times-kur dim-times-igi dim-times-u-u-u dim2-times-ud"⟩,
  ⟨0x1248D, "cuneiform-sign-dug-times-", "anshe ash ash-at-left din dun erin2 ga gi gir2-gunu
    gish ha hi igi-gunu kaskal kur kushu2 kushu2-plus-kaskal lak-020 lam lam-times-kur
    luh-plus-gish mash mes mi ni pi she si-gunu"⟩,
  ⟨0x124A9, "cuneiform-sign-", "e2-times-kur e2-times-pap erin2-x esh2-crossing-esh2"⟩,
  ⟨0x124AD, "cuneiform-sign-ezen-sheshig-times-", "ash hi igi-gunu la lal me mes su"⟩,
  ⟨0x124B5, "cuneiform-sign-ezen-times-", "su"⟩,
  ⟨0x124B6, "cuneiform-sign-ga2-times-", "bahar2 dim-gunu dug-times-igi-gunu dug-times-kaskal
    eren ga gar-plus-di gar-plus-ne ha-plus-a kushu2-plus-kaskal lam lam-times-kur luh mush ne
    ne-plus-e2 ne-plus-gi shim ziz2"⟩,
  ⟨0x124C9, "cuneiform-sign-", "gaba-rotated-ninety-degrees geshtin-times-u
    gish-times-gish-crossing-gish gu2-times-igi-gunu gud-plus-gish-times-tak4 ha-tenu-gunu
    hi-times-ash-over-hi-times-ash ka-times-bu ka-times-ka ka-times-u-u-u ka-times-ur
    lagab-times-zu-over-zu"⟩,
  ⟨0x124D5, "cuneiform-sign-lak-", "003 021 025 030 050 051 062 079-over-lak-079-gunu 080
    081-over-lak-081 092 130 142 210 219 220 225 228 238 265 266 343 347 348 383 384 390 441 449
    449-times-gu 449-times-igi 449-times-pap-plus-lu3 449-times-pap-plus-pap-plus-lu3
    449-times-u2-plus-ba 450 457 470 483 490 492 493 495 550 608 617"⟩,
  ⟨0x12502, "cuneiform-sign-lak-617-times-", "ash bad dun3-gunu-gunu ku3 la tar te u2 ud uruda"⟩,
  ⟨0x1250C, "cuneiform-sign-lak-", "636 648"⟩,
  ⟨0x1250E, "cuneiform-sign-lak-648-times-", "dub ga igi igi-gunu ni pap-plus-pap-plus-lu3
    shesh-plus-ki ud uruda"⟩,
  ⟨0x12517, "cuneiform-sign-", "lak-724 lak-749 lu2-gunu-times-ash lu2-times-dish lu2-times-hal
    lu2-times-pap lu2-times-pap-plus-pap-plus-lu3 lu2-times-tak4 mi-plus-za7
    mush-over-mush-times-ga mush-over-mush-times-kak"⟩,
  ⟨0x12522, "cuneiform-sign-ninda2-times-", "dim-gunu gish gul hi kesh2 lak-050 mash pap-plus-pap
    u u-plus-u uruda"⟩,
  ⟨0x1252D, "cuneiform-sign-", "sag-gunu-times-ha sag-times-en sag-times-she-at-left
    sag-times-tak4 sha6-tenu she-over-she she-plus-hub2 she-plus-nam2 she-plus-sar
    shu2-plus-dug-times-ni shu2-plus-e2-times-an si-times-tak4 tak4-plus-sag tum-times-gan2-tenu
    tum-times-three-dish ur2-inverted ur2-times-ud uru-times-dara3 uru-times-lak-668
    uru-times-lu3 za7 zu-over-zu-plus-sar zu5-times-three-dish-tenu"⟩,
  ⟨0x12F90, "cypro-minoan-sign-", "cm001 cm002 cm004 cm005 cm006 cm007 cm008 cm009 cm010 cm011
    cm012 cm012b cm013 cm015 cm017 cm019 cm021 cm023 cm024 cm025 cm026 cm027 cm028 cm029 cm030
    cm033 cm034 cm035 cm036 cm037 cm038 cm039 cm040 cm041 cm044 cm046 cm047 cm049 cm050 cm051
    cm052 cm053 cm054 cm055 cm056 cm058 cm059 cm060 cm061 cm062 cm063 cm064 cm066 cm067 cm068
    cm069 cm070 cm071 cm072 cm073 cm074 cm075 cm075b cm076 cm078 cm079 cm080 cm081 cm082 cm083
    cm084 cm085 cm086 cm087 cm088 cm089 cm090 cm091 cm092 cm094 cm095 cm096 cm097 cm098 cm099
    cm100 cm101 cm102 cm103 cm104 cm105 cm107 cm108 cm109 cm110 cm112 cm114 cm301 cm302"⟩]

set_option maxRecDepth 10000 in
def hieroglyphicBlocks : List Block := [
  ⟨0x13000, "egyptian-hieroglyph-", "a001 a002 a003 a004 a005 a005a a006 a006a a006b a007 a008
    a009 a010 a011 a012 a013 a014 a014a a015 a016 a017 a017a a018 a019 a020 a021 a022 a023 a024
    a025 a026 a027 a028 a029 a030 a031 a032 a032a a033 a034 a035 a036 a037 a038 a039 a040 a040a
    a041 a042 a042a a043 a043a a044 a045 a045a a046 a047 a048 a049 a050 a051 a052 a053 a054 a055
    a056 a057 a058 a059 a060 a061 a062 a063 a064 a065 a066 a067 a068 a069 a070 b001 b002 b003
    b004 b005 b005a b006 b007 b008 b009 c001 c002 c002a c002b c002c c003 c004 c005 c006 c007 c008
    c009 c010 c010a c011 c012 c013 c014 c015 c016 c017 c018 c019 c020 c021 c022 c023 c024 d001
    d002 d003 d004 d005 d006 d007 d008 d008a d009 d010 d011 d012 d013 d014 d015 d016 d017 d018
    d019 d020 d021 d022 d023 d024 d025 d026 d027 d027a d028 d029 d030 d031 d031a d032 d033 d034
    d034a d035 d036 d037 d038 d039 d040 d041 d042 d043 d044 d045 d046 d046a d047 d048 d048a d049
    d050 d050a d050b d050c d050d d050e d050f d050g d050h d050i d051 d052 d052a d053 d054 d054a
    d055 d056 d057 d058 d059 d060"⟩,
  ⟨0x130C3, "egyptian-hieroglyph-", "d061 d062 d063 d064 d065 d066 d067 d067a d067b d067c d067d
    d067e d067f d067g d067h e001 e002 e003 e004 e005 e006 e007 e008 e008a e009 e009a e010 e011
    e012 e013 e014 e015 e016 e016a e017 e017a e018 e019 e020 e020a e021 e022 e023 e024 e025 e026
    e027 e028 e028a e029 e030 e031 e032 e033 e034 e034a e036 e037 e038 f001 f001a f002 f003 f004
    f005 f006 f007 f008 f009 f010 f011 f012 f013 f013a f014 f015 f016 f017 f018 f019 f020 f021
    f021a f022 f023 f024 f025 f026 f027 f028 f029 f030 f031 f031a f032 f033 f034 f035 f036 f037
    f037a f038 f038a f039 f040 f041 f042 f043 f044 f045 f045a f046 f046a f047 f047a f048 f049
    f050 f051 f051a f051b f051c f052 f053 g001 g002 g003 g004 g005 g006 g006a g007 g007a g007b
    g008 g009 g010 g011 g011a g012 g013 g014 g015 g016 g017 g018 g019 g020 g020a g021 g022 g023
    g024 g025 g026 g026a g027 g028 g029 g030 g031 g032 g033 g034 g035 g036 g036a g037 g037a g038
    g039 g040 g041 g042 g043 g043a g044 g045 g045a g046 g047 g048 g049 g050 g051 g052 g053 g054
    h001 h002 h003 h004 h005 h006 h006a h007 h008 i001 i002 i003 i004 i005 i005a i006 i007 i008
    i009 i009a i010 i010a i011 i011a i012 i013 i014 i015 k001 k002 k003 k004 k005 k006 k007 k008
    l001 l002 l002a l003 l004 l005 l006 l006a l007 l008 m001 m001a m001b m002 m003 m003a m004
    m005 m006 m007 m008 m009 m010 m010a m011 m012 m012a m012b m012c m012d m012e m012f m012g m012h
    m013 m014 m015 m015a m016 m016a m017 m017a m018 m019 m020 m021 m022 m022a m023 m024 m024a
    m025 m026 m027 m028 m028a m029 m030 m031 m031a m032 m033 m033a m033b m034 m035 m036 m037 m038
    m039 m040 m040a m041 m042 m043 m044"⟩,
  ⟨0x131EF, "egyptian-hieroglyph-", "n001 n002 n003 n004 n005 n006 n007 n008 n009 n010 n011 n012
    n013 n014 n015 n016 n017 n018 n018a n018b n019 n020 n021 n022 n023 n024 n025 n025a n026 n027
    n028 n029 n030 n031 n032 n033 n033a n034 n034a n035 n035a n036 n037 n037a n038 n039 n040 n041
    n042 nl001 nl002 nl003 nl004 nl005 nl005a nl006 nl007 nl008 nl009 nl010 nl011 nl012 nl013
    nl014 nl015 nl016 nl017 nl017a nl018 nl019 nl020 nu001 nu002 nu003 nu004 nu005 nu006 nu007
    nu008 nu009 nu010 nu010a nu011 nu011a nu012 nu013 nu014 nu015 nu016 nu017 nu018 nu018a nu019
    nu020 nu021 nu022 nu022a o001 o001a o002 o003 o004 o005 o005a o006 o006a o006b o006c o006d
    o006e o006f o007 o008 o009 o010 o010a o010b o010c o011 o012 o013 o014 o015 o016 o017 o018
    o019 o019a o020 o020a o021 o022 o023 o024 o024a o025 o025a o026 o027 o028 o029 o029a o030
    o030a o031 o032 o033 o033a o034 o035 o036 o036a o036b o036c o036d o037 o038 o039 o040 o041
    o042 o043 o044 o045 o046 o047 o048 o049 o050 o050a o050b o051 p001 p001a p002 p003 p003a p004
    p005 p006 p007 p008 p009 p010 p011 q001 q002 q003 q004 q005 q006 q007 r001 r002 r002a r003
    r003a r003b r004 r005 r006 r007 r008 r009 r010 r010a r011 r012 r013 r014 r015 r016 r016a r017
    r018 r019 r020 r021 r022 r023 r024 r025 r026 r027 r028 r029 s001 s002 s002a s003 s004 s005
    s006 s006a s007 s008 s009 s010 s011 s012 s013 s014 s014a s014b s015 s016 s017 s017a s018 s019
    s020 s021 s022 s023 s024 s025 s026 s026a s026b s027 s028 s029 s030 s031 s032 s033 s034 s035
    s035a s036 s037 s038 s039 s040 s041 s042 s043 s044 s045 s046 t001 t002 t003 t003a t004 t005
    t006 t007 t007a t008 t008a t009 t009a t010 t011 t011a t012 t013 t014 t015"⟩,
  ⟨0x1331B, "egyptian-hieroglyph-", "t016 t016a t017 t018 t019 t020 t021 t022 t023 t024 t025 t026
    t027 t028 t029 t030 t031 t032 t032a t033 t033a t034 t035 t036 u001 u002 u003 u004 u005 u006
    u006a u006b u007 u008 u009 u010 u011 u012 u013 u014 u015 u016 u017 u018 u019 u020 u021 u022
    u023 u023a u024 u025 u026 u027 u028 u029 u029a u030 u031 u032 u032a u033 u034 u035 u036 u037
    u038 u039 u040 u041 u042 v001 v001a v001b v001c v001d v001e v001f v001g v001h v001i v002
    v002a v003 v004 v005 v006 v007 v007a v007b v008 v009 v010 v011 v011a v011b v011c v012 v012a
    v012b v013 v014 v015 v016 v017 v018 v019 v020 v020a v020b v020c v020d v020e v020f v020g v020h
    v020i v020j v020k v020l v021 v022 v023 v023a v024 v025 v026 v027 v028 v028a v029 v029a v030
    v030a v031 v031a v032 v033 v033a v034 v035 v036 v037 v037a v038 v039 v040 v040a w001 w002
    w003 w003a w004 w005 w006 w007 w008 w009 w009a w010 w010a w011 w012 w013 w014 w014a w015 w016
    w017 w017a w018 w018a w019 w020 w021 w022 w023 w024 w024a w025 x001 x002 x003 x004 x004a
    x004b x005 x006 x006a x007 x008 x008a y001 y001a y002 y003 y004 y005 y006 y007 y008 z001 z002
    z002a z002b z002c z002d z003 z003a z003b z004 z004a z005 z005a z006 z007 z008 z009 z010 z011
    z012 z013 z014 z015 z015a z015b z015c z015d z015e z015f z015g z015h z015i z016 z016a z016b
    z016c z016d z016e z016f z016g z016h aa001 aa002 aa003 aa004 aa005 aa006 aa007 aa007a aa007b
    aa008 aa009 aa010 aa011 aa012 aa013 aa014 aa015 aa016 aa017 aa018 aa019 aa020 aa021 aa022
    aa023 aa024 aa025 aa026 aa027 aa028 aa029 aa030 aa031 aa032 v011d vertical-joiner
    horizontal-joiner insert-at-top-start insert-at-bottom-start insert-at-top-end
    insert-at-bottom-end overlay-middle begin-segment end-segment insert-at-middle insert-at-top
    insert-at-bottom begin-enclosure end-enclosure begin-walled-enclosure end-walled-enclosure
    mirror-horizontally full-blank half-blank lost-sign half-lost-sign tall-lost-sign
    wide-lost-sign"⟩,
  ⟨0x13447, "egyptian-hieroglyph-modifier-damaged-at-", "top-start bottom-start start top-end top
    bottom-start-and-top-end start-and-top bottom-end top-start-and-bottom-end bottom
    start-and-bottom end top-and-end bottom-and-end"⟩,
  ⟨0x13455, "egyptian-hieroglyph-modifier-", "damaged"⟩,
  ⟨0x14400, "anatolian-hieroglyph-", "a001 a002 a003 a004 a005 a006 a007 a008 a009 a010 a010a
    a011 a012 a013 a014 a015 a016 a017 a018 a019 a020 a021 a022 a023 a024 a025 a026 a026a a027
    a028 a029 a030 a031 a032 a033 a034 a035 a036 a037 a038 a039 a039a a040 a041 a041a a042 a043
    a044 a045 a045a a046 a046a a046b a047 a048 a049 a050 a051 a052 a053 a054 a055 a056 a057 a058
    a059 a060 a061 a062 a063 a064 a065 a066 a066a a066b a066c a067 a068 a069 a070 a071 a072 a073
    a074 a075 a076 a077 a078 a079 a080 a081 a082 a083 a084 a085 a086 a087 a088 a089 a090 a091
    a092 a093 a094 a095 a096 a097 a097a a098 a098a a099 a100 a100a a101 a101a a102 a102a a103
    a104 a104a a104b a104c a105 a105a a105b a106 a107 a107a a107b a107c a108 a109 a110 a110a
    a110b a111 a112 a113 a114 a115 a115a a116 a117 a118 a119 a120 a121 a122 a123 a124 a125 a125a
    a126 a127 a128 a129 a130 a131 a132 a133 a134 a135 a135a a136 a137 a138 a139 a140 a141 a142
    a143 a144 a145 a146 a147 a148 a149 a150 a151 a152 a153 a154 a155 a156 a157 a158 a159 a160
    a161 a162 a163 a164 a165 a166 a167 a168 a169 a170 a171 a172 a173 a174 a175 a176 a177 a178
    a179 a180 a181 a182 a183 a184 a185 a186 a187 a188 a189 a190 a191 a192 a193 a194 a195 a196
    a197 a198 a199 a200 a201 a202 a202a a202b a203 a204 a205 a206 a207 a207a a208 a209 a209a a210
    a211 a212 a213 a214 a215 a215a a216 a216a a217 a218 a219 a220 a221 a222 a223 a224 a225 a226
    a227 a227a a228 a229 a230 a231 a232 a233 a234 a235 a236 a237 a238 a239 a240 a241 a242 a243
    a244 a245 a246 a247 a248"⟩,
  ⟨0x1451B, "anatolian-hieroglyph-", "a249 a250 a251 a252 a253 a254 a255 a256 a257 a258 a259 a260
    a261 a262 a263 a264 a265 a266 a267 a267a a268 a269 a270 a271 a272 a273 a274 a275 a276 a277
    a278 a279 a280 a281 a282 a283 a284 a285 a286 a287 a288 a289 a289a a290 a291 a292 a293 a294
    a294a a295 a296 a297 a298 a299 a299a a300 a301 a302 a303 a304 a305 a306 a307 a308 a309 a309a
    a310 a311 a312 a313 a314 a315 a316 a317 a318 a319 a320 a321 a322 a323 a324 a325 a326 a327
    a328 a329 a329a a330 a331 a332a a332b a332c a333 a334 a335 a336 a336a a336b a336c a337 a338
    a339 a340 a341 a342 a343 a344 a345 a346 a347 a348 a349 a350 a351 a352 a353 a354 a355 a356
    a357 a358 a359 a359a a360 a361 a362 a363 a364 a364a a365 a366 a367 a368 a368a a369 a370 a371
    a371a a372 a373 a374 a375 a376 a377 a378 a379 a380 a381 a381a a382 a383-ra-or-ri a383a a384
    a385 a386 a386a a387 a388 a389 a390 a391 a392 a393-eight a394 a395 a396 a397 a398 a399 a400
    a401 a402 a403 a404 a405 a406 a407 a408 a409 a410-begin-logogram-mark a410a-end-logogram-mark
    a411 a412 a413 a414 a415 a416 a417 a418 a419 a420 a421 a422 a423 a424 a425 a426 a427 a428
    a429 a430 a431 a432 a433 a434 a435 a436 a437 a438 a439 a440 a441 a442 a443 a444 a445 a446
    a447 a448 a449 a450 a450a a451 a452 a453 a454 a455 a456 a457 a457a a458 a459 a460 a461 a462
    a463 a464 a465 a466 a467 a468 a469 a470 a471 a472 a473 a474 a475 a476 a477 a478 a479 a480
    a481 a482 a483 a484 a485 a486 a487 a488 a489 a490 a491 a492 a493 a494 a495 a496 a497 a501
    a502 a503 a504 a505 a506 a507 a508 a509 a510 a511 a512 a513 a514 a515 a516 a517 a518 a519
    a520 a521 a522 a523 a524 a525 a526 a527 a528 a529 a530"⟩]

end Dictation.Unicode.Name
