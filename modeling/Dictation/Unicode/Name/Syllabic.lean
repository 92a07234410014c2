import Dictation.Unicode.Name.Block
/-!
# Syllables and African scripts

Spoken names from 0xA000 on, as of Unicode 16.
-/
namespace Dictation.Unicode.Name

set_option maxRecDepth 10000 in
def syllabicBlocks : List Block := [
  ⟨0xA000, "yi-syllable-", "it ix i ip iet iex ie iep at ax a ap uox uo uop ot ox o op ex e wu
    bit bix bi bip biet biex bie biep bat bax ba bap buox buo buop bot box bo bop bex be bep but
    bux bu bup burx bur byt byx by byp byrx byr pit pix pi pip piex pie piep pat pax pa pap puox
    puo puop pot pox po pop put pux pu pup purx pur pyt pyx py pyp pyrx pyr bbit bbix bbi bbip
    bbiet bbiex bbie bbiep bbat bbax bba bbap bbuox bbuo bbuop bbot bbox bbo bbop bbex bbe bbep
    bbut bbux bbu bbup bburx bbur bbyt bbyx bby bbyp nbit nbix nbi nbip nbiex nbie nbiep nbat
    nbax nba nbap nbot nbox nbo nbop nbut nbux nbu nbup nburx nbur nbyt nbyx nby nbyp nbyrx nbyr
    hmit hmix hmi hmip hmiex hmie hmiep hmat hmax hma hmap hmuox hmuo hmuop hmot hmox hmo hmop
    hmut hmux hmu hmup hmurx hmur hmyx hmy hmyp hmyrx hmyr mit mix mi mip miex mie miep mat max
    ma map muot muox muo muop mot mox mo mop mex me mut mux mu mup murx mur myt myx my myp fit
    fix fi fip fat fax fa fap fox fo fop fut fux fu fup furx fur fyt fyx fy fyp vit vix vi vip
    viet viex vie viep vat vax va vap vot vox vo vop vex vep vut vux vu vup vurx vur vyt vyx vy
    vyp vyrx vyr dit dix di dip diex die diep dat dax"⟩,
  ⟨0xA109, "yi-syllable-", "da dap duox duo dot dox do dop dex de dep dut dux du dup durx dur tit
    tix ti tip tiex tie tiep tat tax ta tap tuot tuox tuo tuop tot tox to top tex te tep tut tux
    tu tup turx tur ddit ddix ddi ddip ddiex ddie ddiep ddat ddax dda ddap dduox dduo dduop ddot
    ddox ddo ddop ddex dde ddep ddut ddux ddu ddup ddurx ddur ndit ndix ndi ndip ndiex ndie ndat
    ndax nda ndap ndot ndox ndo ndop ndex nde ndep ndut ndux ndu ndup ndurx ndur hnit hnix hni
    hnip hniet hniex hnie hniep hnat hnax hna hnap hnuox hnuo hnot hnox hnop hnex hne hnep hnut
    nit nix ni nip niex nie niep nax na nap nuox nuo nuop not nox no nop nex ne nep nut nux nu
    nup nurx nur hlit hlix hli hlip hliex hlie hliep hlat hlax hla hlap hluox hluo hluop hlox hlo
    hlop hlex hle hlep hlut hlux hlu hlup hlurx hlur hlyt hlyx hly hlyp hlyrx hlyr lit lix li lip
    liet liex lie liep lat lax la lap luot luox luo luop lot lox lo lop lex le lep lut lux lu lup
    lurx lur lyt lyx ly lyp lyrx lyr git gix gi gip giet giex gie giep gat gax ga gap guot guox
    guo guop got gox go gop get gex ge gep gut gux gu gup gurx gur kit kix ki kip kiex kie kiep
    kat kax ka kap kuox kuo kuop kot kox ko kop ket kex ke kep kut kux ku kup kurx kur ggit ggix
    ggi ggiex ggie ggiep ggat ggax gga ggap gguot gguox gguo gguop ggot ggox ggo ggop gget ggex
    gge ggep ggut ggux ggu ggup ggurx ggur mgiex mgie mgat mgax mga"⟩,
  ⟨0xA235, "yi-syllable-", "mgap mguox mguo mguop mgot mgox mgo mgop mgex mge mgep mgut mgux mgu
    mgup mgurx mgur hxit hxix hxi hxip hxiet hxiex hxie hxiep hxat hxax hxa hxap hxuot hxuox hxuo
    hxuop hxot hxox hxo hxop hxex hxe hxep ngiex ngie ngiep ngat ngax nga ngap nguot nguox nguo
    ngot ngox ngo ngop ngex nge ngep hit hiex hie hat hax ha hap huot huox huo huop hot hox ho
    hop hex he hep wat wax wa wap wuox wuo wuop wox wo wop wex we wep zit zix zi zip ziex zie
    ziep zat zax za zap zuox zuo zuop zot zox zo zop zex ze zep zut zux zu zup zurx zur zyt zyx
    zy zyp zyrx zyr cit cix ci cip ciet ciex cie ciep cat cax ca cap cuox cuo cuop cot cox co cop
    cex ce cep cut cux cu cup curx cur cyt cyx cy cyp cyrx cyr zzit zzix zzi zzip zziet zziex
    zzie zziep zzat zzax zza zzap zzox zzo zzop zzex zze zzep zzux zzu zzup zzurx zzur zzyt zzyx
    zzy zzyp zzyrx zzyr nzit nzix nzi nzip nziex nzie nziep nzat nzax nza nzap nzuox nzuo nzox
    nzop nzex nze nzux nzu nzup nzurx nzur nzyt nzyx nzy nzyp nzyrx nzyr sit six si sip siex sie
    siep sat sax sa sap suox suo suop sot sox so sop sex se sep sut sux su sup surx sur syt syx
    sy syp syrx syr ssit ssix ssi ssip ssiex ssie ssiep ssat ssax ssa ssap ssot ssox sso ssop
    ssex sse ssep ssut ssux ssu ssup ssyt ssyx ssy ssyp ssyrx ssyr zhat zhax zha zhap zhuox zhuo
    zhuop zhot zhox zho zhop zhet zhex zhe zhep zhut zhux zhu zhup zhurx zhur zhyt zhyx zhy zhyp
    zhyrx zhyr"⟩,
  ⟨0xA361, "yi-syllable-", "chat chax cha chap chuot chuox chuo chuop chot chox cho chop chet
    chex che chep chux chu chup churx chur chyt chyx chy chyp chyrx chyr rrax rra rruox rruo rrot
    rrox rro rrop rret rrex rre rrep rrut rrux rru rrup rrurx rrur rryt rryx rry rryp rryrx rryr
    nrat nrax nra nrap nrox nro nrop nret nrex nre nrep nrut nrux nru nrup nrurx nrur nryt nryx
    nry nryp nryrx nryr shat shax sha shap shuox shuo shuop shot shox sho shop shet shex she shep
    shut shux shu shup shurx shur shyt shyx shy shyp shyrx shyr rat rax ra rap ruox ruo ruop rot
    rox ro rop rex re rep rut rux ru rup rurx rur ryt ryx ry ryp ryrx ryr jit jix ji jip jiet
    jiex jie jiep juot juox juo juop jot jox jo jop jut jux ju jup jurx jur jyt jyx jy jyp jyrx
    jyr qit qix qi qip qiet qiex qie qiep quot quox quo quop qot qox qo qop qut qux qu qup qurx
    qur qyt qyx qy qyp qyrx qyr jjit jjix jji jjip jjiet jjiex jjie jjiep jjuox jjuo jjuop jjot
    jjox jjo jjop jjut jjux jju jjup jjurx jjur jjyt jjyx jjy jjyp njit njix nji njip njiet njiex
    njie njiep njuox njuo njot njox njo njop njux nju njup njurx njur njyt njyx njy njyp njyrx
    njyr nyit nyix nyi nyip nyiet nyiex nyie nyiep nyuox nyuo nyuop nyot nyox nyo nyop nyut nyux
    nyu nyup xit xix xi xip xiet xiex xie xiep xuox xuo xot xox xo xop xyt xyx xy xyp xyrx xyr
    yit yix yi yip yiet yiex yie yiep yuot yuox yuo yuop yot yox yo yop yut yux yu yup yurx yur
    yyt yyx yy yyp yyrx yyr"⟩,
  ⟨0xA490, "yi-radical-", "qot li kit nyip cyp ssi ggop gep mi hxit lyr bbut mop yo put hxuo tat
    ga zup cyt ddur bur gguo nyop tu op jjut zot pyt hmo yit vur shy vep za jo nzup jjy got jjie
    wo du shur lie cy cuop cip hxop shat zur shop che zziet nbie ke"⟩,
  ⟨0xA4D0, "lisu-letter-", "ba pa pha da ta tha ga ka kha ja ca cha dza tsa tsha ma na la sa zha
    za nga ha xa hha fa wa sha ya gha a ae e eu i o u ue uh oe tone-mya-ti tone-na-po"⟩,
  ⟨0xA4FA, "lisu-letter-tone-mya-", "cya bo na jeu"⟩,
  ⟨0xA4FE, "lisu-punctuation-", "comma full-stop"⟩,
  ⟨0xA500, "vai-syllable-", "ee een hee wee ween pee bhee bee mbee kpee mgbee gbee fee vee tee
    thee dhee dhhee lee ree dee ndee see shee zee zhee cee jee njee yee kee nggee gee mee nee
    nyee i in hi hin wi win pi bhi bi mbi kpi mgbi gbi fi vi ti thi dhi dhhi li ri di ndi si shi
    zi zhi ci ji nji yi ki nggi gi mi ni nyi a an ngan ha han wa wan pa bha ba mba kpa kpan mgba
    gba fa va ta tha dha dhha la ra da nda sa sha za zha ca ja nja ya ka kan ngga ga ma na nya oo
    oon hoo woo woon poo bhoo boo mboo kpoo mgboo gboo foo voo too thoo dhoo dhhoo loo roo doo
    ndoo soo shoo zoo zhoo coo joo njoo yoo koo nggoo goo moo noo nyoo u un hu hun wu wun pu bhu
    bu mbu kpu mgbu gbu fu vu tu thu dhu dhhu lu ru du ndu su shu zu zhu cu ju nju yu ku nggu gu
    mu nu nyu o on ngon ho hon wo won po bho bo mbo kpo mgbo gbo gbon fo vo to tho dho dhho lo ro
    do ndo so sho zo zho co jo njo yo ko nggo go mo no nyo e en ngen he hen we wen pe bhe be mbe
    kpe kpen mgbe gbe gben fe ve te the dhe dhhe le re de nde se she ze zhe ce je nje ye ke ngge
    nggen ge gen me ne nye ng lengthener"⟩,
  ⟨0xA60D, "vai-", "comma full-stop question-mark"⟩,
  ⟨0xA610, "vai-syllable-ndole-", "fa ka soo"⟩,
  ⟨0xA613, "vai-symbol-", "feeng keeng ting nii bang faa taa dang doong kung tong do-o jong"⟩,
  ⟨0xA620, "vai-digit-", "zero one two three four five six seven eight nine"⟩,
  ⟨0xA62A, "vai-syllable-ndole-", "ma do"⟩,
  ⟨0xA640, "cyrillic-", "capital-letter-zemlya small-letter-zemlya capital-letter-dzelo
    small-letter-dzelo capital-letter-reversed-dze small-letter-reversed-dze capital-letter-iota
    small-letter-iota capital-letter-djerv small-letter-djerv capital-letter-monograph-uk
    small-letter-monograph-uk capital-letter-broad-omega small-letter-broad-omega
    capital-letter-neutral-yer small-letter-neutral-yer capital-letter-yeru-with-back-yer
    small-letter-yeru-with-back-yer capital-letter-iotified-yat small-letter-iotified-yat
    capital-letter-reversed-yu small-letter-reversed-yu capital-letter-iotified-a
    small-letter-iotified-a capital-letter-closed-little-yus small-letter-closed-little-yus
    capital-letter-blended-yus small-letter-blended-yus capital-letter-iotified-closed-little-yus
    small-letter-iotified-closed-little-yus capital-letter-yn small-letter-yn
    capital-letter-reversed-tse small-letter-reversed-tse capital-letter-soft-de
    small-letter-soft-de capital-letter-soft-el small-letter-soft-el capital-letter-soft-em
    small-letter-soft-em capital-letter-monocular-o small-letter-monocular-o
    capital-letter-binocular-o small-letter-binocular-o capital-letter-double-monocular-o
    small-letter-double-monocular-o letter-multiocular-o"⟩,
  ⟨0xA66F, "combining-cyrillic-", "vzmet ten-millions-sign hundred-millions-sign
    thousand-millions-sign"⟩,
  ⟨0xA673, "slavonic-", "asterisk"⟩,
  ⟨0xA674, "combining-cyrillic-letter-", "ukrainian-ie i yi u hard-sign yeru soft-sign omega"⟩,
  ⟨0xA67C, "combining-cyrillic-", "kavyka payerok"⟩,
  ⟨0xA67E, "cyrillic-", "kavyka payerok capital-letter-dwe small-letter-dwe capital-letter-dzwe
    small-letter-dzwe capital-letter-zhwe small-letter-zhwe capital-letter-cche small-letter-cche
    capital-letter-dzze small-letter-dzze capital-letter-te-with-middle-hook
    small-letter-te-with-middle-hook capital-letter-twe small-letter-twe capital-letter-tswe
    small-letter-tswe capital-letter-tsse small-letter-tsse capital-letter-tche small-letter-tche
    capital-letter-hwe small-letter-hwe capital-letter-shwe small-letter-shwe
    capital-letter-double-o small-letter-double-o capital-letter-crossed-o small-letter-crossed-o"⟩,
  ⟨0xA69C, "modifier-letter-cyrillic-", "hard-sign soft-sign"⟩,
  ⟨0xA69E, "combining-cyrillic-letter-", "ef iotified-e"⟩,
  ⟨0xA6A0, "bamum-letter-", "a ka u ku ee ree tae o nyi i la pa rii riee leeee meeee taa ndaa
    njaem m suu mu shii si sheux seux kyee ket nuae nu njuae yoq shu yuq ya nsha keux peux njee
    ntee pue wue pee fee ru lu mi ni reux rae ken ngkwaen ngga nga sho puae fu fom wa na li pi
    loq ko mben ren men ma ti ki mo mbaa tet kpa ten ntuu samba faamae kovuu koghom"⟩,
  ⟨0xA6F0, "bamum-", "combining-mark-koqndon combining-mark-tukwentis njaemli full-stop colon
    comma semicolon question-mark"⟩,
  ⟨0xA700, "modifier-letter-chinese-tone-", "yin-ping yang-ping yin-shang yang-shang yin-qu
    yang-qu yin-ru yang-ru"⟩,
  ⟨0xA708, "modifier-letter-", "extra-high-dotted-tone-bar high-dotted-tone-bar
    mid-dotted-tone-bar low-dotted-tone-bar extra-low-dotted-tone-bar
    extra-high-dotted-left-stem-tone-bar high-dotted-left-stem-tone-bar
    mid-dotted-left-stem-tone-bar low-dotted-left-stem-tone-bar
    extra-low-dotted-left-stem-tone-bar extra-high-left-stem-tone-bar high-left-stem-tone-bar
    mid-left-stem-tone-bar low-left-stem-tone-bar extra-low-left-stem-tone-bar dot-vertical-bar
    dot-slash dot-horizontal-bar lower-right-corner-angle raised-up-arrow raised-down-arrow
    raised-exclamation-mark raised-inverted-exclamation-mark low-inverted-exclamation-mark
    stress-and-high-tone stress-and-low-tone"⟩,
  ⟨0xA722, "latin-", "capital-letter-egyptological-alef small-letter-egyptological-alef
    capital-letter-egyptological-ain small-letter-egyptological-ain capital-letter-heng
    small-letter-heng capital-letter-tz small-letter-tz capital-letter-tresillo
    small-letter-tresillo capital-letter-cuatrillo small-letter-cuatrillo
    capital-letter-cuatrillo-with-comma small-letter-cuatrillo-with-comma letter-small-capital-f
    letter-small-capital-s capital-letter-aa small-letter-aa capital-letter-ao small-letter-ao
    capital-letter-au small-letter-au capital-letter-av small-letter-av
    capital-letter-av-with-horizontal-bar small-letter-av-with-horizontal-bar capital-letter-ay
    small-letter-ay capital-letter-reversed-c-with-dot small-letter-reversed-c-with-dot
    capital-letter-k-with-stroke small-letter-k-with-stroke capital-letter-k-with-diagonal-stroke
    small-letter-k-with-diagonal-stroke capital-letter-k-with-stroke-and-diagonal-stroke
    small-letter-k-with-stroke-and-diagonal-stroke capital-letter-broken-l small-letter-broken-l
    capital-letter-l-with-high-stroke small-letter-l-with-high-stroke
    capital-letter-o-with-long-stroke-overlay small-letter-o-with-long-stroke-overlay
    capital-letter-o-with-loop small-letter-o-with-loop capital-letter-oo small-letter-oo
    capital-letter-p-with-stroke-through-descender small-letter-p-with-stroke-through-descender
    capital-letter-p-with-flourish small-letter-p-with-flourish
    capital-letter-p-with-squirrel-tail small-letter-p-with-squirrel-tail
    capital-letter-q-with-stroke-through-descender small-letter-q-with-stroke-through-descender
    capital-letter-q-with-diagonal-stroke small-letter-q-with-diagonal-stroke
    capital-letter-r-rotunda small-letter-r-rotunda capital-letter-rum-rotunda
    small-letter-rum-rotunda capital-letter-v-with-diagonal-stroke
    small-letter-v-with-diagonal-stroke capital-letter-vy small-letter-vy
    capital-letter-visigothic-z small-letter-visigothic-z capital-letter-thorn-with-stroke
    small-letter-thorn-with-stroke capital-letter-thorn-with-stroke-through-descender
    small-letter-thorn-with-stroke-through-descender capital-letter-vend small-letter-vend
    capital-letter-et small-letter-et capital-letter-is small-letter-is capital-letter-con
    small-letter-con"⟩,
  ⟨0xA770, "modifier-letter-", "us"⟩,
  ⟨0xA771, "latin-small-letter-", "dum lum mum num rum"⟩,
  ⟨0xA776, "latin-", "letter-small-capital-rum small-letter-tum small-letter-um
    capital-letter-insular-d small-letter-insular-d capital-letter-insular-f
    small-letter-insular-f capital-letter-insular-g capital-letter-turned-insular-g
    small-letter-turned-insular-g capital-letter-turned-l small-letter-turned-l
    capital-letter-insular-r small-letter-insular-r capital-letter-insular-s
    small-letter-insular-s capital-letter-insular-t small-letter-insular-t"⟩,
  ⟨0xA788, "modifier-letter-", "low-circumflex-accent colon short-equals-sign"⟩,
  ⟨0xA78B, "latin-", "capital-letter-saltillo small-letter-saltillo capital-letter-turned-h
    small-letter-l-with-retroflex-hook-and-belt letter-sinological-dot
    capital-letter-n-with-descender small-letter-n-with-descender capital-letter-c-with-bar
    small-letter-c-with-bar small-letter-c-with-palatal-hook small-letter-h-with-palatal-hook
    capital-letter-b-with-flourish small-letter-b-with-flourish capital-letter-f-with-stroke
    small-letter-f-with-stroke capital-letter-volapuk-ae small-letter-volapuk-ae
    capital-letter-volapuk-oe small-letter-volapuk-oe capital-letter-volapuk-ue
    small-letter-volapuk-ue capital-letter-g-with-oblique-stroke
    small-letter-g-with-oblique-stroke capital-letter-k-with-oblique-stroke
    small-letter-k-with-oblique-stroke capital-letter-n-with-oblique-stroke
    small-letter-n-with-oblique-stroke capital-letter-r-with-oblique-stroke
    small-letter-r-with-oblique-stroke capital-letter-s-with-oblique-stroke
    small-letter-s-with-oblique-stroke"⟩,
  ⟨0xA7AA, "latin-capital-letter-", "h-with-hook reversed-open-e script-g l-with-belt
    small-capital-i"⟩,
  ⟨0xA7AF, "latin-letter-small-capital-", "q"⟩,
  ⟨0xA7B0, "latin-capital-letter-", "turned-k turned-t j-with-crossed-tail chi beta"⟩,
  ⟨0xA7B5, "latin-", "small-letter-beta capital-letter-omega small-letter-omega
    capital-letter-u-with-stroke small-letter-u-with-stroke capital-letter-glottal-a
    small-letter-glottal-a capital-letter-glottal-i small-letter-glottal-i
    capital-letter-glottal-u small-letter-glottal-u capital-letter-old-polish-o
    small-letter-old-polish-o capital-letter-anglicana-w small-letter-anglicana-w"⟩,
  ⟨0xA7C4, "latin-capital-letter-", "c-with-palatal-hook s-with-hook z-with-palatal-hook
    d-with-short-stroke-overlay"⟩,
  ⟨0xA7C8, "latin-", "small-letter-d-with-short-stroke-overlay
    capital-letter-s-with-short-stroke-overlay small-letter-s-with-short-stroke-overlay
    capital-letter-rams-horn capital-letter-s-with-diagonal-stroke
    small-letter-s-with-diagonal-stroke"⟩,
  ⟨0xA7D0, "latin-", "capital-letter-closed-insular-g small-letter-closed-insular-g"⟩,
  ⟨0xA7D3, "latin-small-letter-double-", "thorn"⟩,
  ⟨0xA7D5, "latin-", "small-letter-double-wynn capital-letter-middle-scots-s
    small-letter-middle-scots-s capital-letter-sigmoid-s small-letter-sigmoid-s
    capital-letter-lambda small-letter-lambda capital-letter-lambda-with-stroke"⟩,
  ⟨0xA7F2, "modifier-letter-capital-", "c f q"⟩,
  ⟨0xA7F5, "", "latin-capital-letter-reversed-half-h latin-small-letter-reversed-half-h
    latin-epigraphic-letter-sideways-i modifier-letter-capital-h-with-stroke
    modifier-letter-small-ligature-oe latin-letter-small-capital-turned-m"⟩,
  ⟨0xA7FB, "latin-epigraphic-letter-", "reversed-f reversed-p inverted-m i-longa archaic-m"⟩,
  ⟨0xA800, "syloti-nagri-", "letter-a letter-i sign-dvisvara letter-u letter-e letter-o
    sign-hasanta letter-ko letter-kho letter-go letter-gho sign-anusvara"⟩,
  ⟨0xA80C, "syloti-nagri-letter-", "co cho jo jho tto ttho ddo ddho to tho do dho no po pho bo
    bho mo ro lo rro so ho"⟩,
  ⟨0xA823, "syloti-nagri-vowel-sign-", "a i u e oo"⟩,
  ⟨0xA828, "syloti-nagri-poetry-mark-", "1 2 3 4"⟩,
  ⟨0xA82C, "syloti-nagri-sign-alternate-", "hasanta"⟩,
  ⟨0xA830, "north-indic-fraction-", "one-quarter one-half three-quarters one-sixteenth one-eighth
    three-sixteenths"⟩,
  ⟨0xA836, "north-indic-", "quarter-mark placeholder-mark rupee-mark quantity-mark"⟩,
  ⟨0xA840, "phags-pa-letter-", "ka kha ga nga ca cha ja nya ta tha da na pa pha ba ma tsa tsha
    dza wa zha za small-a ya ra la sha sa ha a i u e o qa xa fa gga ee"⟩,
  ⟨0xA867, "phags-pa-subjoined-letter-", "wa ya"⟩,
  ⟨0xA869, "phags-pa-letter-", "tta ttha dda nna alternate-ya voiceless-sha voiced-ha
    aspirated-fa"⟩,
  ⟨0xA871, "phags-pa-", "subjoined-letter-ra superfixed-letter-ra letter-candrabindu
    single-head-mark double-head-mark mark-shad mark-double-shad"⟩,
  ⟨0xA880, "saurashtra-sign-", "anusvara visarga"⟩,
  ⟨0xA882, "saurashtra-letter-", "a aa i ii u uu vocalic-r vocalic-rr vocalic-l vocalic-ll e ee
    ai o oo au ka kha ga gha nga ca cha ja jha nya tta ttha dda ddha nna ta tha da dha na pa pha
    ba bha ma ya ra la va sha ssa sa ha lla"⟩,
  ⟨0xA8B4, "saurashtra-consonant-sign-", "haaru"⟩,
  ⟨0xA8B5, "saurashtra-vowel-sign-", "aa i ii u uu vocalic-r vocalic-rr vocalic-l vocalic-ll e ee
    ai o oo au"⟩,
  ⟨0xA8C4, "saurashtra-sign-", "virama candrabindu"⟩,
  ⟨0xA8CE, "saurashtra-", "danda double-danda"⟩,
  ⟨0xA8D0, "saurashtra-digit-", "zero one two three four five six seven eight nine"⟩,
  ⟨0xA8E0, "combining-devanagari-digit-", "zero one two three four five six seven eight nine"⟩,
  ⟨0xA8EA, "combining-devanagari-letter-", "a u ka na pa ra vi"⟩,
  ⟨0xA8F1, "combining-devanagari-sign-", "avagraha"⟩,
  ⟨0xA8F2, "devanagari-sign-", "spacing-candrabindu candrabindu-virama double-candrabindu-virama
    candrabindu-two candrabindu-three candrabindu-avagraha pushpika"⟩,
  ⟨0xA8F9, "devanagari-", "gap-filler caret headstroke sign-siddham jain-om letter-ay
    vowel-sign-ay"⟩,
  ⟨0xA900, "kayah-li-digit-", "zero one two three four five six seven eight nine"⟩,
  ⟨0xA90A, "kayah-li-letter-", "ka kha ga nga sa sha za nya ta hta na pa pha ma da ba ra ya la wa
    tha ha va ca a oe i oo"⟩,
  ⟨0xA926, "kayah-li-vowel-", "ue e u ee o"⟩,
  ⟨0xA92B, "kayah-li-", "tone-plophu tone-calya tone-calya-plophu sign-cwi sign-shya"⟩,
  ⟨0xA930, "rejang-letter-", "ka ga nga ta da na pa ba ma ca ja nya sa ra la ya wa ha mba ngga
    nda nyja a"⟩,
  ⟨0xA947, "rejang-vowel-sign-", "i u e ai o au eu ea"⟩,
  ⟨0xA94F, "rejang-consonant-sign-", "ng n r h"⟩,
  ⟨0xA953, "rejang-", "virama"⟩,
  ⟨0xA95F, "rejang-section-", "mark"⟩,
  ⟨0xA960, "hangul-choseong-tikeut-", "mieum pieup sios cieuc"⟩,
  ⟨0xA964, "hangul-choseong-rieul-", "kiyeok ssangkiyeok tikeut ssangtikeut mieum pieup
    ssangpieup kapyeounpieup sios cieuc khieukh"⟩,
  ⟨0xA96F, "hangul-choseong-", "mieum-kiyeok mieum-tikeut mieum-sios pieup-sios-thieuth
    pieup-khieukh pieup-hieuh ssangsios-pieup ieung-rieul ieung-hieuh ssangcieuc-hieuh
    ssangthieuth phieuph-hieuh hieuh-sios ssangyeorinhieuh"⟩,
  ⟨0xA980, "javanese-sign-", "panyangga cecak layar wignyan"⟩,
  ⟨0xA984, "javanese-letter-", "a i-kawi i ii u pa-cerek nga-lelet nga-lelet-raswadi e ai o ka
    ka-sasak ka-murda ga ga-murda nga ca ca-murda ja nya-murda ja-mahaprana nya tta tta-mahaprana
    dda dda-mahaprana na-murda ta ta-murda da da-mahaprana na pa pa-murda ba ba-murda ma ya ra
    ra-agung la wa sa-murda sa-mahaprana sa ha"⟩,
  ⟨0xA9B3, "javanese-sign-cecak-", "telu"⟩,
  ⟨0xA9B4, "javanese-vowel-sign-", "tarung tolong wulu wulu-melik suku suku-mendut taling
    dirga-mure pepet"⟩,
  ⟨0xA9BD, "javanese-consonant-sign-", "keret pengkal cakra"⟩,
  ⟨0xA9C0, "javanese-", "pangkon left-rerenggan right-rerenggan pada-andap pada-madya pada-luhur
    pada-windu pada-pangkat pada-lingsa pada-lungsi pada-adeg pada-adeg-adeg pada-piseleh
    turned-pada-piseleh"⟩,
  ⟨0xA9CF, "javanese-", "pangrangkep"⟩,
  ⟨0xA9D0, "javanese-digit-", "zero one two three four five six seven eight nine"⟩,
  ⟨0xA9DE, "javanese-pada-", "tirta-tumetes isen-isen"⟩,
  ⟨0xA9E0, "myanmar-letter-shan-", "gha cha jha nna bha"⟩,
  ⟨0xA9E5, "myanmar-", "sign-shan-saw modifier-letter-shan-reduplication"⟩,
  ⟨0xA9E7, "myanmar-letter-tai-laing-", "nya fa ga gha ja jha dda ddha nna"⟩,
  ⟨0xA9F0, "myanmar-tai-laing-digit-", "zero one two three four five six seven eight nine"⟩,
  ⟨0xA9FA, "myanmar-letter-tai-laing-", "lla da dha ba bha"⟩,
  ⟨0xAA00, "cham-letter-", "a i u e ai o ka kha ga gha ngue nga cha chha ja jha nhue nha nhja ta
    tha da dha nue na dda pa ppa pha ba bha mue ma bba ya ra la va ssa sa ha"⟩,
  ⟨0xAA29, "cham-vowel-sign-", "aa i ii ei u oe o ai au ue"⟩,
  ⟨0xAA33, "cham-consonant-sign-", "ya ra la wa"⟩,
  ⟨0xAA40, "cham-letter-final-", "k g ng"⟩,
  ⟨0xAA43, "cham-consonant-sign-final-", "ng"⟩,
  ⟨0xAA44, "cham-letter-final-", "ch t n p y r l ss"⟩,
  ⟨0xAA4C, "cham-consonant-sign-final-", "m h"⟩,
  ⟨0xAA50, "cham-digit-", "zero one two three four five six seven eight nine"⟩,
  ⟨0xAA5C, "cham-punctuation-", "spiral danda double-danda triple-danda"⟩,
  ⟨0xAA60, "myanmar-letter-khamti-", "ga ca cha ja jha nya tta ttha dda ddha dha na sa ha hha fa"⟩,
  ⟨0xAA70, "myanmar-", "modifier-letter-khamti-reduplication letter-khamti-xa letter-khamti-za
    letter-khamti-ra logogram-khamti-oay logogram-khamti-qn logogram-khamti-hm
    symbol-aiton-exclamation symbol-aiton-one symbol-aiton-two letter-aiton-ra
    sign-pao-karen-tone sign-tai-laing-tone-2 sign-tai-laing-tone-5 letter-shwe-palaung-cha
    letter-shwe-palaung-sha"⟩,
  ⟨0xAA80, "tai-viet-letter-", "low-ko high-ko low-kho high-kho low-khho high-khho low-go high-go
    low-ngo high-ngo low-co high-co low-cho high-cho low-so high-so low-nyo high-nyo low-do
    high-do low-to high-to low-tho high-tho low-no high-no low-bo high-bo low-po high-po low-pho
    high-pho low-fo high-fo low-mo high-mo low-yo high-yo low-ro high-ro low-lo high-lo low-vo
    high-vo low-ho high-ho low-o high-o"⟩,
  ⟨0xAAB0, "tai-viet-", "mai-kang vowel-aa vowel-i vowel-ue vowel-u vowel-e vowel-o mai-khit"⟩,
  ⟨0xAAB8, "tai-viet-vowel-", "ia uea ua aue ay an am"⟩,
  ⟨0xAABF, "tai-viet-tone-mai-", "ek nueng tho song"⟩,
  ⟨0xAADB, "tai-viet-symbol-", "kon nueng sam ho-hoi koi-koi"⟩,
  ⟨0xAAE0, "meetei-mayek-letter-", "e o cha nya tta ttha dda ddha nna sha ssa"⟩,
  ⟨0xAAEB, "meetei-mayek-vowel-sign-", "ii uu aai au aau"⟩,
  ⟨0xAAF0, "meetei-mayek-", "cheikhan ahang-khudam anji syllable-repetition-mark
    word-repetition-mark vowel-sign-visarga virama"⟩,
  ⟨0xAB01, "ethiopic-syllable-", "tthu tthi tthaa tthee tthe ttho"⟩,
  ⟨0xAB09, "ethiopic-syllable-", "ddhu ddhi ddhaa ddhee ddhe ddho"⟩,
  ⟨0xAB11, "ethiopic-syllable-", "dzu dzi dzaa dzee dze dzo"⟩,
  ⟨0xAB20, "ethiopic-syllable-", "cchha cchhu cchhi cchhaa cchhee cchhe cchho"⟩,
  ⟨0xAB28, "ethiopic-syllable-", "bba bbu bbi bbaa bbee bbe bbo"⟩,
  ⟨0xAB30, "latin-small-letter-", "barred-alpha a-reversed-schwa blackletter-e barred-e
    e-with-flourish lenis-f script-g-with-crossed-tail l-with-inverted-lazy-s
    l-with-double-middle-tilde l-with-middle-ring m-with-crossed-tail n-with-crossed-tail
    eng-with-crossed-tail blackletter-o blackletter-o-with-stroke open-o-with-stroke inverted-oe
    turned-oe-with-stroke turned-oe-with-horizontal-stroke turned-o-open-o
    turned-o-open-o-with-stroke stirrup-r"⟩,
  ⟨0xAB46, "latin-letter-small-capital-r-with-right-", "leg"⟩,
  ⟨0xAB47, "latin-small-letter-", "r-without-handle double-r r-with-crossed-tail
    double-r-with-crossed-tail script-r script-r-with-ring baseline-esh u-with-short-right-leg
    u-bar-with-short-right-leg ui turned-ui u-with-left-hook chi chi-with-low-right-ring
    chi-with-low-left-serif x-with-low-right-ring x-with-long-left-leg
    x-with-long-left-leg-and-low-right-ring x-with-long-left-leg-with-serif
    y-with-short-right-leg"⟩,
  ⟨0xAB5B, "modifier-breve-with-inverted-", "breve"⟩,
  ⟨0xAB5C, "modifier-letter-small-", "heng l-with-inverted-lazy-s l-with-middle-tilde
    u-with-left-hook"⟩,
  ⟨0xAB60, "latin-small-letter-", "sakha-yat iotified-e open-oe uo inverted-alpha"⟩,
  ⟨0xAB65, "greek-letter-small-capital-", "omega"⟩,
  ⟨0xAB66, "latin-small-letter-", "dz-digraph-with-retroflex-hook ts-digraph-with-retroflex-hook
    turned-r-with-middle-tilde"⟩,
  ⟨0xAB69, "modifier-letter-", "small-turned-w left-tack right-tack"⟩,
  ⟨0xAB70, "cherokee-small-letter-", "a e i o u v ga ka ge gi go gu gv ha he hi ho hu hv la le li
    lo lu lv ma me mi mo mu na hna nah ne ni no nu nv qua que qui quo quu quv sa s se si so su sv
    da ta de te di ti do du dv dla tla tle tli tlo tlu tlv tsa tse tsi tso tsu tsv wa we wi wo wu
    wv ya"⟩,
  ⟨0xABC0, "meetei-mayek-letter-", "kok sam lai mit pa na chil til khou ngou thou wai yang huk un
    i pham atiya gok jham rai ba jil dil ghou dhou bham kok-lonsum lai-lonsum mit-lonsum
    pa-lonsum na-lonsum til-lonsum ngou-lonsum i-lonsum"⟩,
  ⟨0xABE3, "meetei-mayek-vowel-sign-", "onap inap anap yenap sounap unap cheinap nung"⟩,
  ⟨0xABEB, "meetei-mayek-", "cheikhei lum-iyek apun-iyek"⟩,
  ⟨0xABF0, "meetei-mayek-digit-", "zero one two three four five six seven eight nine"⟩,
  ⟨0xD7B0, "hangul-jungseong-", "o-yeo o-o-i yo-a yo-ae yo-eo u-yeo u-i-i yu-ae yu-o eu-a eu-eo
    eu-e eu-o i-ya-o i-yae i-yeo i-ye i-o-i i-yo i-yu i-i araea-a araea-e"⟩,
  ⟨0xD7CB, "hangul-jongseong-", "nieun-rieul nieun-chieuch ssangtikeut ssangtikeut-pieup
    tikeut-pieup tikeut-sios tikeut-sios-kiyeok tikeut-cieuc tikeut-chieuch tikeut-thieuth
    rieul-ssangkiyeok rieul-kiyeok-hieuh ssangrieul-khieukh rieul-mieum-hieuh rieul-pieup-tikeut
    rieul-pieup-phieuph rieul-yesieung rieul-yeorinhieuh-hieuh kapyeounrieul mieum-nieun
    mieum-ssangnieun ssangmieum mieum-pieup-sios mieum-cieuc pieup-tikeut pieup-rieul-phieuph
    pieup-mieum ssangpieup pieup-sios-tikeut pieup-cieuc pieup-chieuch sios-mieum
    sios-kapyeounpieup ssangsios-kiyeok ssangsios-tikeut sios-pansios sios-cieuc sios-chieuch
    sios-thieuth sios-hieuh pansios-pieup pansios-kapyeounpieup yesieung-mieum yesieung-hieuh
    cieuc-pieup cieuc-ssangpieup ssangcieuc phieuph-sios phieuph-thieuth"⟩]

end Dictation.Unicode.Name
