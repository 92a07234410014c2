import Dictation.Unicode.Name.Block
/-!
# Modern scripts and kana

Spoken names from 0x16100 on, as of Unicode 16.
-/
namespace Dictation.Unicode.Name

set_option maxRecDepth 10000 in
def modernBlocks : List Block := [
  ⟨0x16100, "gurung-khema-letter-", "a ka kha ga gha nga ca cha ja jha ha tta ttha dda ddha va ta
    tha da dha na pa pha ba bha ma ya ra la sa"⟩,
  ⟨0x1611E, "gurung-khema-vowel-sign-", "aa i ii u uu e ee ai o oo au"⟩,
  ⟨0x16129, "gurung-khema-", "vowel-length-mark consonant-sign-medial-ya consonant-sign-medial-va
    consonant-sign-medial-ha sign-anusvara consonant-sign-medial-ra sign-tholhoma"⟩,
  ⟨0x16130, "gurung-khema-digit-", "zero one two three four five six seven eight nine"⟩,
  ⟨0x16800, "bamum-letter-phase-a-", "ngkue-mfon gbiee-fon pon-mfon-pipaemgbiee pon-mfon-pipaemba
    naa-mfon shuenshuet tita-mfon nza-mfon shinda-pa-nji pon-pa-nji-pipaemgbiee
    pon-pa-nji-pipaemba maembgbiee tu-maemba ngangu maemveux mansuae mveuaengam seunyam ntoqpen
    keukeutnda nkindi suu ngkuenzeum lapaq let-kut ntap-mfaa maekeup pashae gheuaerae pamshae
    mon-nggeuaet nzun-meut u-yuq-nae gheuaegheuae ntap-ntaa sisa mgbasa meunjomndeuq moompuq kafa
    pa-leeraewa nda-leeraewa pet maemkpen nika pup tuaep luaep sonjam teuteuwen maenyi ket
    ndaanggeuaet kuoq moomeut shum lommae firi rom kpoq soq map-pieet shirae ntap shoq-nshut-yum
    nyit-mongkeuaeq paarae nkaarae unknown nggen maesi njam mbanyi nyet teuaen sot paam nshiee
    maem nyi kaq nsha vee lu nen naq mbaq"⟩,
  ⟨0x16857, "bamum-letter-phase-b-", "nshuet tu-maemgbiee siee set-tu lom-nteum mba-maelee kieem
    yeurae mbaarae kam peeshi yafu-leeraewa lam-nshut-nyam ntiee-sheuoq ndu-njaa gheugheuaem pit
    tu-nsiee shet-njaq sheuaeqtu mfon-teuaeq mbit-mbaaket nyi-nteum keupuq gheughen keuyeux
    laanae parum veum ngkindi-mvop nggeu-mbu wuaet sakeuae taam meuq ngguoq ngguoq-large mfiyaq
    sue mbeuri montieen nyaemae pungaam meut-nggeet feux mbuoq fee keuaem ma-njeuaena ma-njuqa
    let nggaam nsen ma kiq ngom"⟩,
  ⟨0x1688F, "bamum-letter-phase-c-", "ngkue-maemba nza yum wangkuoq nggen ndeuaeree ngkaq gharae
    mbeekeet gbayi nyir-mkparaq-meun ntu-mbit mbeum pirieen ndombu mbaa-cabbage-tree keusheuaep
    ghap keukaq yu-muomae nzeum mbue nseuaen mbit yeuq kparaq kaa seux ndida taashae njueq
    tita-yue suaet ngguaen-nyam veux nansanaq ma-keuaeri ntaa ngguon lap mbirieen mgbasaq
    nteungba teuteux nggum fue ndeut nsa nshaq bung veuaepen mberae ru njaem lam tituaep
    nsuot-ngom njeeee ket nggu maesi mbuaem lu kut njam ngom wup nggueet nsom nten kuop-nkaarae
    nsun ndam ma-nsiee yaa ndap shueq setfon mbi maemba mbanyi keuseux mbeux keum mbaa-picket
    yuwoq njeux miee muae shiq ken-law ken-fatigue ngaq naq liq pin pen tet"⟩,
  ⟨0x168F1, "bamum-letter-phase-d-", "mbuo wap nji mfon njiee liee njeut nshee nggaamae nyam
    wuaen ngkun shee ngkap keuaetmeun teut sheuae njap sue ket yaemmae kuom sap mfeut ndeux
    maleeri meut seuaeq yen njeuaem keuot-mbuae ngkeuri tu ghaa ngkyee feufeuaet ndee mgbofum
    leuaep ndon moni mgbeun puut mgbiee mfo lum nsieep mbaa kwaet nyet teuaen sot yuwoq keum raem
    teeee ngkeuaeq mfeuae nsieet keup pip peutae nyue let nggaam mfiee nggwaen yuom pap yuop ndam
    nteum suae kun nggeux ngkiee tuot meun kuq nsum teun maenjet nggap leum ngguom nshut njueq
    gheuae ku ren-old tae toq nyi rii leeee meeee m suu mu shii sheux kyee nu shu ntee pee ni
    shoq puq mvop loq ren-much ti ntuu mbaa-seven saq faa"⟩,
  ⟨0x16966, "bamum-letter-phase-e-", "ndap toon mbeum lap vom loon paa som raq nshuop ndun puae
    tam ngka kpeux wuo see nggeuaet paam too kuop lom nshiee ngop maem ngkeux ngoq nshue rimgba
    njeux peem saa nggurae mgba gheux ngkeuaem njaemli map loot nggeeee ndiq taen-nteum set pum
    ndaa-softness ngguaeshae-nyam yiee gheun tuae yeuae po tumae keuae suaen teuaeq veuae weux
    laam pu taaq ghaamae ngeureut sheuaeq mgben mbee nzaq nkom gbet tum kuet yap nyi-cleaver yit
    mfeuq ndiaq pieeq yueq leuaem fue gbeux ngkup ket mae ngkaami ghet fa ntum peut yeum nggeuae
    nyi-between nzuq poon miee fuet nae muae gheuae fu-i mvi puaq ngkum kut piet ntap yeuaet
    nggup pa-people fu-call fom njee a toq o i laq pa-plural taa taq ndaa-my-house shiq yeux
    nguae yuaen yoq-swimming yoq-cover yuq yun keux peux njee-epoch pue wue fee vee lu mi reux
    rae nguaet nga sho shoq fu-remedy na pi loq ko men ma maq teu ki mon ten faq ghom"⟩,
  ⟨0x16A03, "bamum-letter-phase-f-", "ka u ku ee ree tae nyi la rii riee meeee taa ndaa njaem m
    suu shii si seux kyee ket nuae nu njuae yoq shu ya nsha peux ntee wue pee ru ni reux ken
    ngkwaen ngga sho puae fom wa li loq ko mben ren ma mo mbaa tet kpa samba vueq"⟩,
  ⟨0x16A40, "mro-letter-", "ta ngi yo mim ba da a phi khai hao dai chu keaae ol maem nin pa oo o
    ro shi thea ea wa e ko lan la hai ri tek"⟩,
  ⟨0x16A60, "mro-digit-", "zero one two three four five six seven eight nine"⟩,
  ⟨0x16A6E, "mro-", "danda double-danda"⟩,
  ⟨0x16A70, "tangsa-letter-", "oz oc oq ox az ac aq ax vz vc vq vx ez ec eq ex iz ic iq ix uz uc
    uq ux awz awc awq awx uiz uic uiq uix final-ng long-uex short-uez short-awx uec uez ueq uex
    uiuz uiuc uiuq uiux mz mc mq mx ka kha ga nga sa ya wa pa nya pha ba ma na ha la hta ta da ra
    nha sha ca tsa gha htta tha xa fa dha cha za"⟩,
  ⟨0x16AC0, "tangsa-digit-", "zero one two three four five six seven eight nine"⟩,
  ⟨0x16AD0, "bassa-vah-letter-", "enni ka se fa mbe yie gah dhii kpah jo hwah wa zo gbu do ce uwu
    to ba vu yein pa wadda a o oo u ee e i"⟩,
  ⟨0x16AF0, "bassa-vah-combining-", "high-tone low-tone mid-tone low-mid-tone high-low-tone"⟩,
  ⟨0x16AF5, "bassa-vah-full-", "stop"⟩,
  ⟨0x16B00, "pahawh-hmong-vowel-", "keeb keev kib kiv kaub kauv kub kuv keb kev kaib kaiv koob
    koov kawb kawv kuab kuav kob kov kiab kiav kab kav kwb kwv kaab kaav"⟩,
  ⟨0x16B1C, "pahawh-hmong-consonant-", "vau ntsau lau hau nlau rau nkau qhau yau hlau mau chau
    nchau hnau plhau nthau nau au xau cau"⟩,
  ⟨0x16B30, "pahawh-hmong-mark-cim-", "tub so kes khav suam hom taum"⟩,
  ⟨0x16B37, "pahawh-hmong-sign-", "vos-thom vos-tshab-ceeb cim-cheem vos-thiab vos-feem
    xyeem-ntxiv xyeem-rho xyeem-tov xyeem-faib vos-seev meej-suab vos-nrua ib-yam xaus
    cim-tsov-rog"⟩,
  ⟨0x16B50, "pahawh-hmong-digit-", "zero one two three four five six seven eight nine"⟩,
  ⟨0x16B5B, "pahawh-hmong-number-", "tens hundreds ten-thousands millions hundred-millions
    ten-billions trillions"⟩,
  ⟨0x16B63, "pahawh-hmong-sign-", "vos-lub xyoo hli third-stage-hli zwj-thaj hnub nqig xiab ntuj
    av txheej-ceev meej-tseeb tau los mus cim-hais-lus-ntog-ntog cim-cuam-tshooj cim-txwv
    cim-txwv-chwv cim-pub-dawb cim-nres-tos"⟩,
  ⟨0x16B7D, "pahawh-hmong-clan-sign-", "tsheej yeeg lis lauj xyooj koo hawj muas thoj tsab phab
    khab ham vaj faj yaj tswb kwm vwj"⟩,
  ⟨0x16D40, "kirat-rai-sign-", "anusvara tonpi visarga"⟩,
  ⟨0x16D43, "kirat-rai-letter-", "a ka kha ga gha nga ca cha ja jha nya tta ttha dda ddha ta tha
    da dha na pa pha ba bha ma ya ra la va sa sha ha"⟩,
  ⟨0x16D63, "kirat-rai-vowel-sign-", "aa i u ue e ai o au"⟩,
  ⟨0x16D6B, "kirat-rai-", "sign-virama sign-saat sign-yupi danda double-danda"⟩,
  ⟨0x16D70, "kirat-rai-digit-", "zero one two three four five six seven eight nine"⟩,
  ⟨0x16E40, "medefaidrin-capital-letter-", "m s v w atiu z kp p t g f i k a j e b c u yu l q hp
    ny x d oe n r o ai y"⟩,
  ⟨0x16E60, "medefaidrin-small-letter-", "m s v w atiu z kp p t g f i k a j e b c u yu l q hp ny
    x d oe n r o ai y"⟩,
  ⟨0x16E80, "medefaidrin-digit-", "zero one two three four five six seven eight nine"⟩,
  ⟨0x16E8A, "medefaidrin-number-", "ten eleven twelve thirteen fourteen fifteen sixteen seventeen
    eighteen nineteen"⟩,
  ⟨0x16E94, "medefaidrin-", "digit-one-alternate-form digit-two-alternate-form
    digit-three-alternate-form comma full-stop symbol-aiva exclamation-oh"⟩,
  ⟨0x16F00, "miao-letter-", "pa ba yi-pa pla ma mha archaic-ma fa va vfa ta da yi-tta yi-ta tta
    dda na nha yi-nna archaic-na nna nnha la lya lha lhya tlha dlha tlhya dlhya ka ga yi-ka qa
    qga nga ngha archaic-nga ha xa gha ghha tssa dzza nya nyha tsha dzha yi-tsha yi-dzha
    reformed-tsha sha ssa zha zsha tsa dza yi-tsa sa za zsa zza zzsa archaic-zza zzya zzsya wa ah
    hha bri syi dzyi te tse rte"⟩,
  ⟨0x16F4F, "miao-", "sign-consonant-modifier-bar letter-nasalization sign-aspiration
    sign-reformed-voicing sign-reformed-aspiration"⟩,
  ⟨0x16F54, "miao-vowel-sign-", "a aa ahh an ang o oo wo w e en eng oey i ia ian iang io ie ii iu
    ing u ua uan uang uu uei ung y yi ae aee err rounded-err er rounded-er ai ei au ou n ng uog
    yui og oer vw ig ea iong ui"⟩,
  ⟨0x16F8F, "miao-tone-", "right top-right above below"⟩,
  ⟨0x16F93, "miao-letter-tone-", "2 3 4 5 6 7 8"⟩,
  ⟨0x16F9A, "miao-letter-reformed-tone-", "1 2 4 5 6 8"⟩,
  ⟨0x16FE0, "", "tangut-iteration-mark nushu-iteration-mark old-chinese-hook-mark
    old-chinese-iteration-mark khitan-small-script-filler"⟩,
  ⟨0x16FF0, "vietnamese-alternate-reading-mark-", "ca nhay"⟩,
  ⟨0x18800, "tangut-component-", "001 002 003 004 005 006 007 008 009 010 011 012 013 014 015 016
    017 018 019 020 021 022 023 024 025 026 027 028 029 030 031 032 033 034 035 036 037 038 039
    040 041 042 043 044 045 046 047 048 049 050 051 052 053 054 055 056 057 058 059 060 061 062
    063 064 065 066 067 068 069 070 071 072 073 074 075 076 077 078 079 080 081 082 083 084 085
    086 087 088 089 090 091 092 093 094 095 096 097 098 099 100 101 102 103 104 105 106 107 108
    109 110 111 112 113 114 115 116 117 118 119 120 121 122 123 124 125 126 127 128 129 130 131
    132 133 134 135 136 137 138 139 140 141 142 143 144 145 146 147 148 149 150 151 152 153 154
    155 156 157 158 159 160 161 162 163 164 165 166 167 168"⟩,
  ⟨0x188A8, "tangut-component-", "169 170 171 172 173 174 175 176 177 178 179 180 181 182 183 184
    185 186 187 188 189 190 191 192 193 194 195 196 197 198 199 200 201 202 203 204 205 206 207
    208 209 210 211 212 213 214 215 216 217 218 219 220 221 222 223 224 225 226 227 228 229 230
    231 232 233 234 235 236 237 238 239 240 241 242 243 244 245 246 247 248 249 250 251 252 253
    254 255 256 257 258 259 260 261 262 263 264 265 266 267 268 269 270 271 272 273 274 275 276
    277 278 279 280 281 282 283 284 285 286 287 288 289 290 291 292 293 294 295 296 297 298 299
    300 301 302 303 304 305 306 307 308 309 310 311 312 313 314 315 316 317 318 319 320 321 322
    323 324 325 326 327 328 329 330 331 332 333 334 335 336 337 338 339 340 341 342 343 344 345
    346 347 348 349 350 351 352 353 354 355 356 357 358 359 360 361 362 363 364 365 366 367 368
    369 370 371 372 373 374 375 376 377 378 379 380 381 382 383 384 385 386 387 388 389 390 391
    392 393 394 395 396 397 398 399 400 401 402 403 404 405 406 407 408 409 410 411 412 413 414
    415 416 417 418 419 420 421 422 423 424 425 426 427 428 429 430 431 432 433 434 435 436 437
    438 439 440 441 442 443 444 445 446 447 448 449 450 451 452 453 454 455 456 457 458 459 460
    461 462 463 464 465 466 467 468"⟩,
  ⟨0x189D4, "tangut-component-", "469 470 471 472 473 474 475 476 477 478 479 480 481 482 483 484
    485 486 487 488 489 490 491 492 493 494 495 496 497 498 499 500 501 502 503 504 505 506 507
    508 509 510 511 512 513 514 515 516 517 518 519 520 521 522 523 524 525 526 527 528 529 530
    531 532 533 534 535 536 537 538 539 540 541 542 543 544 545 546 547 548 549 550 551 552 553
    554 555 556 557 558 559 560 561 562 563 564 565 566 567 568 569 570 571 572 573 574 575 576
    577 578 579 580 581 582 583 584 585 586 587 588 589 590 591 592 593 594 595 596 597 598 599
    600 601 602 603 604 605 606 607 608 609 610 611 612 613 614 615 616 617 618 619 620 621 622
    623 624 625 626 627 628 629 630 631 632 633 634 635 636 637 638 639 640 641 642 643 644 645
    646 647 648 649 650 651 652 653 654 655 656 657 658 659 660 661 662 663 664 665 666 667 668
    669 670 671 672 673 674 675 676 677 678 679 680 681 682 683 684 685 686 687 688 689 690 691
    692 693 694 695 696 697 698 699 700 701 702 703 704 705 706 707 708 709 710 711 712 713 714
    715 716 717 718 719 720 721 722 723 724 725 726 727 728 729 730 731 732 733 734 735 736 737
    738 739 740 741 742 743 744 745 746 747 748 749 750 751 752 753 754 755 756 757 758 759 760
    761 762 763 764 765 766 767 768"⟩,
  ⟨0x1AFF0, "katakana-letter-minnan-tone-", "2 3 4 5"⟩,
  ⟨0x1AFF5, "katakana-letter-minnan-tone-", "7 8"⟩,
  ⟨0x1AFF7, "katakana-letter-minnan-nasalized-tone-", "1 2 3 4 5"⟩,
  ⟨0x1AFFD, "katakana-letter-minnan-nasalized-tone-", "7 8"⟩,
  ⟨0x1B000, "", "katakana-letter-archaic-e hiragana-letter-archaic-ye"⟩,
  ⟨0x1B002, "hentaigana-letter-", "a-1 a-2 a-3 a-wo i-1 i-2 i-3 i-4 u-1 u-2 u-3 u-4 u-5 e-2 e-3
    e-4 e-5 e-6 o-1 o-2 o-3 ka-1 ka-2 ka-3 ka-4 ka-5 ka-6 ka-7 ka-8 ka-9 ka-10 ka-11 ka-ke ki-1
    ki-2 ki-3 ki-4 ki-5 ki-6 ki-7 ki-8 ku-1 ku-2 ku-3 ku-4 ku-5 ku-6 ku-7 ke-1 ke-2 ke-3 ke-4
    ke-5 ke-6 ko-1 ko-2 ko-3 ko-ki sa-1 sa-2 sa-3 sa-4 sa-5 sa-6 sa-7 sa-8 si-1 si-2 si-3 si-4
    si-5 si-6 su-1 su-2 su-3 su-4 su-5 su-6 su-7 su-8 se-1 se-2 se-3 se-4 se-5 so-1 so-2 so-3
    so-4 so-5 so-6 so-7 ta-1 ta-2 ta-3 ta-4 ti-1 ti-2 ti-3 ti-4 ti-5 ti-6 ti-7 tu-1 tu-2 tu-3
    tu-4 tu-to te-1 te-2 te-3 te-4 te-5 te-6 te-7 te-8 te-9 to-1 to-2 to-3 to-4 to-5 to-6 to-ra
    na-1 na-2 na-3 na-4 na-5 na-6 na-7 na-8 na-9 ni-1 ni-2 ni-3 ni-4 ni-5 ni-6 ni-7 ni-te nu-1
    nu-2 nu-3 ne-1 ne-2 ne-3 ne-4 ne-5 ne-6 ne-ko no-1 no-2 no-3 no-4 no-5 ha-1 ha-2 ha-3 ha-4
    ha-5 ha-6 ha-7 ha-8 ha-9 ha-10 ha-11 hi-1 hi-2 hi-3 hi-4 hi-5 hi-6 hi-7 hu-1 hu-2 hu-3 he-1
    he-2 he-3 he-4 he-5 he-6 he-7 ho-1 ho-2 ho-3 ho-4 ho-5 ho-6 ho-7 ho-8 ma-1 ma-2 ma-3 ma-4
    ma-5 ma-6 ma-7 mi-1 mi-2 mi-3 mi-4 mi-5 mi-6 mi-7 mu-1 mu-2 mu-3 mu-4 me-1 me-2 me-ma mo-1
    mo-2 mo-3 mo-4 mo-5 mo-6 ya-1 ya-2 ya-3 ya-4 ya-5 ya-yo yu-1 yu-2 yu-3 yu-4 yo-1 yo-2 yo-3
    yo-4 yo-5 yo-6 ra-1 ra-2 ra-3 ra-4 ri-1 ri-2 ri-3 ri-4 ri-5 ri-6 ri-7 ru-1 ru-2 ru-3 ru-4
    ru-5 ru-6 re-1 re-2 re-3 re-4 ro-1 ro-2 ro-3 ro-4 ro-5 ro-6 wa-1 wa-2 wa-3 wa-4 wa-5 wi-1
    wi-2 wi-3 wi-4 wi-5 we-1 we-2 we-3 we-4 wo-1 wo-2 wo-3 wo-4 wo-5 wo-6 wo-7 n-mu-mo-1
    n-mu-mo-2"⟩,
  ⟨0x1B11F, "hiragana-letter-archaic-", "wu"⟩,
  ⟨0x1B120, "katakana-letter-archaic-", "yi ye wu"⟩,
  ⟨0x1B132, "hiragana-letter-small-", "ko"⟩,
  ⟨0x1B150, "hiragana-letter-small-", "wi we wo"⟩,
  ⟨0x1B155, "katakana-letter-small-", "ko"⟩,
  ⟨0x1B164, "katakana-letter-small-", "wi we wo n"⟩]

end Dictation.Unicode.Name
