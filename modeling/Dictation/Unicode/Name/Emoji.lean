import Dictation.Unicode.Name.Block
/-!
# Tiles, cards, enclosed letters and pictographs

Spoken names from 0x1F000 on, as of Unicode 16.
-/
namespace Dictation.Unicode.Name

set_option maxRecDepth 10000 in
def pictographicBlocks : List Block := [
  ⟨0x1F000, "mahjong-tile-", "east-wind south-wind west-wind north-wind red-dragon green-dragon
    white-dragon one-of-characters two-of-characters three-of-characters four-of-characters
    five-of-characters six-of-characters seven-of-characters eight-of-characters
    nine-of-characters one-of-bamboos two-of-bamboos three-of-bamboos four-of-bamboos
    five-of-bamboos six-of-bamboos seven-of-bamboos eight-of-bamboos nine-of-bamboos
    one-of-circles two-of-circles three-of-circles four-of-circles five-of-circles six-of-circles
    seven-of-circles eight-of-circles nine-of-circles plum orchid bamboo chrysanthemum spring
    summer autumn winter joker back"⟩,
  ⟨0x1F030, "domino-tile-horizontal-", "back 00-00 00-01 00-02 00-03 00-04 00-05 00-06 01-00
    01-01 01-02 01-03 01-04 01-05 01-06 02-00 02-01 02-02 02-03 02-04 02-05 02-06 03-00 03-01
    03-02 03-03 03-04 03-05 03-06 04-00 04-01 04-02 04-03 04-04 04-05 04-06 05-00 05-01 05-02
    05-03 05-04 05-05 05-06 06-00 06-01 06-02 06-03 06-04 06-05 06-06"⟩,
  ⟨0x1F062, "domino-tile-vertical-", "back 00-00 00-01 00-02 00-03 00-04 00-05 00-06 01-00 01-01
    01-02 01-03 01-04 01-05 01-06 02-00 02-01 02-02 02-03 02-04 02-05 02-06 03-00 03-01 03-02
    03-03 03-04 03-05 03-06 04-00 04-01 04-02 04-03 04-04 04-05 04-06 05-00 05-01 05-02 05-03
    05-04 05-05 05-06 06-00 06-01 06-02 06-03 06-04 06-05 06-06"⟩,
  ⟨0x1F0A0, "playing-card-", "back ace-of-spades two-of-spades three-of-spades four-of-spades
    five-of-spades six-of-spades seven-of-spades eight-of-spades nine-of-spades ten-of-spades
    jack-of-spades knight-of-spades queen-of-spades king-of-spades"⟩,
  ⟨0x1F0B1, "playing-card-", "ace-of-hearts two-of-hearts three-of-hearts four-of-hearts
    five-of-hearts six-of-hearts seven-of-hearts eight-of-hearts nine-of-hearts ten-of-hearts
    jack-of-hearts knight-of-hearts queen-of-hearts king-of-hearts red-joker"⟩,
  ⟨0x1F0C1, "playing-card-", "ace-of-diamonds two-of-diamonds three-of-diamonds four-of-diamonds
    five-of-diamonds six-of-diamonds seven-of-diamonds eight-of-diamonds nine-of-diamonds
    ten-of-diamonds jack-of-diamonds knight-of-diamonds queen-of-diamonds king-of-diamonds
    black-joker"⟩,
  ⟨0x1F0D1, "playing-card-", "ace-of-clubs two-of-clubs three-of-clubs four-of-clubs
    five-of-clubs six-of-clubs seven-of-clubs eight-of-clubs nine-of-clubs ten-of-clubs
    jack-of-clubs knight-of-clubs queen-of-clubs king-of-clubs white-joker fool"⟩,
  ⟨0x1F0E1, "playing-card-trump-", "1 2 3 4 5 6 7 8 9 10 11 12 13 14 15 16 17 18 19 20 21"⟩,
  ⟨0x1F100, "digit-", "zero-full-stop zero-comma one-comma two-comma three-comma four-comma
    five-comma six-comma seven-comma eight-comma nine-comma"⟩,
  ⟨0x1F10B, "dingbat-", "circled-sans-serif-digit-zero negative-circled-sans-serif-digit-zero"⟩,
  ⟨0x1F10D, "circled-", "zero-with-slash anticlockwise-arrow dollar-sign-with-overlaid-backslash"⟩,
  ⟨0x1F110, "parenthesized-latin-capital-letter-", "a b c d e f g h i j k l m n o p q r s t u v w
    x y z"⟩,
  ⟨0x1F12A, "tortoise-shell-bracketed-latin-capital-letter-", "s"⟩,
  ⟨0x1F12B, "circled-italic-latin-capital-letter-", "c r"⟩,
  ⟨0x1F12D, "", "circled-cd circled-wz copyleft-symbol"⟩,
  ⟨0x1F130, "squared-latin-capital-letter-", "a b c d e f g h i j k l m n o p q r s t u v w x y z"⟩,
  ⟨0x1F14A, "squared-", "hv mv sd ss ppv wc"⟩,
  ⟨0x1F150, "negative-circled-latin-capital-letter-", "a b c d e f g h i j k l m n o p q r s t u
    v w x y z"⟩,
  ⟨0x1F16A, "raised-", "mc-sign md-sign mr-sign"⟩,
  ⟨0x1F16D, "circled-", "cc c-with-overlaid-backslash human-figure"⟩,
  ⟨0x1F170, "negative-squared-latin-capital-letter-", "a b c d e f g h i j k l m n o p q r s t u
    v w x y z"⟩,
  ⟨0x1F18A, "crossed-negative-squared-latin-capital-letter-", "p"⟩,
  ⟨0x1F18B, "negative-squared-", "ic pa sa ab wc"⟩,
  ⟨0x1F190, "square-", "dj"⟩,
  ⟨0x1F191, "squared-", "cl cool free id new ng ok sos up-with-exclamation-mark vs three-d
    second-screen two-k four-k eight-k five-point-one seven-point-one twenty-two-point-two
    sixty-p one-hundred-twenty-p latin-small-letter-d hc hdr hi-res lossless shv uhd vod"⟩,
  ⟨0x1F1AD, "mask-work-", "symbol"⟩,
  ⟨0x1F1E6, "regional-indicator-symbol-letter-", "a b c d e f g h i j k l m n o p q r s t u v w x
    y z"⟩,
  ⟨0x1F200, "square-hiragana-", "hoka"⟩,
  ⟨0x1F201, "squared-katakana-", "koko sa"⟩,
  ⟨0x1F210, "squared-cjk-unified-ideograph-", "624b 5b57 53cc"⟩,
  ⟨0x1F213, "squared-katakana-", "de"⟩,
  ⟨0x1F214, "squared-cjk-unified-ideograph-", "4e8c 591a 89e3 5929 4ea4 6620 7121 6599 524d 5f8c
    518d 65b0 521d 7d42 751f 8ca9 58f0 5439 6f14 6295 6355 4e00 4e09 904a 5de6 4e2d 53f3 6307
    8d70 6253 7981 7a7a 5408 6e80 6709 6708 7533 5272 55b6 914d"⟩,
  ⟨0x1F240, "tortoise-shell-bracketed-cjk-unified-ideograph-", "672c 4e09 4e8c 5b89 70b9 6253
    76d7 52dd 6557"⟩,
  ⟨0x1F250, "circled-ideograph-", "advantage accept"⟩,
  ⟨0x1F260, "rounded-symbol-for-", "fu lu shou xi shuangxi cai"⟩]

set_option maxRecDepth 10000 in
def emojiBlocks : List Block := [
  ⟨0x1F300, "", "cyclone foggy closed-umbrella night-with-stars sunrise-over-mountains sunrise
    cityscape-at-dusk sunset-over-buildings rainbow bridge-at-night water-wave volcano milky-way
    earth-globe-europe-africa earth-globe-americas earth-globe-asia-australia
    globe-with-meridians new-moon-symbol waxing-crescent-moon-symbol first-quarter-moon-symbol
    waxing-gibbous-moon-symbol full-moon-symbol waning-gibbous-moon-symbol
    last-quarter-moon-symbol waning-crescent-moon-symbol crescent-moon new-moon-with-face
    first-quarter-moon-with-face last-quarter-moon-with-face full-moon-with-face sun-with-face
    glowing-star shooting-star thermometer black-droplet white-sun"⟩,
  ⟨0x1F324, "white-sun-", "with-small-cloud behind-cloud behind-cloud-with-rain"⟩,
  ⟨0x1F327, "cloud-with-", "rain snow lightning tornado"⟩,
  ⟨0x1F32B, "", "fog wind-blowing-face hot-dog taco burrito chestnut seedling evergreen-tree
    deciduous-tree palm-tree cactus hot-pepper tulip cherry-blossom rose hibiscus sunflower
    blossom ear-of-maize ear-of-rice herb four-leaf-clover maple-leaf fallen-leaf
    leaf-fluttering-in-wind mushroom tomato aubergine grapes melon watermelon tangerine lemon
    banana pineapple red-apple green-apple pear peach cherries strawberry hamburger
    slice-of-pizza meat-on-bone poultry-leg rice-cracker rice-ball cooked-rice curry-and-rice
    steaming-bowl spaghetti bread french-fries roasted-sweet-potato dango oden sushi fried-shrimp
    fish-cake-with-swirl-design soft-ice-cream shaved-ice ice-cream doughnut cookie chocolate-bar
    candy lollipop custard honey-pot shortcake bento-box pot-of-food cooking fork-and-knife
    teacup-without-handle sake-bottle-and-cup wine-glass cocktail-glass tropical-drink beer-mug
    clinking-beer-mugs baby-bottle fork-and-knife-with-plate bottle-with-popping-cork popcorn
    ribbon wrapped-present birthday-cake jack-o-lantern christmas-tree father-christmas fireworks
    firework-sparkler balloon party-popper confetti-ball tanabata-tree crossed-flags
    pine-decoration japanese-dolls carp-streamer wind-chime moon-viewing-ceremony school-satchel
    graduation-cap heart-with-tip-on-the-left bouquet-of-flowers military-medal reminder-ribbon
    musical-keyboard-with-jacks studio-microphone level-slider control-knobs
    beamed-ascending-musical-notes beamed-descending-musical-notes film-frames admission-tickets
    carousel-horse ferris-wheel roller-coaster fishing-pole-and-fish microphone movie-camera
    cinema headphone artist-palette top-hat circus-tent ticket clapper-board performing-arts
    video-game direct-hit slot-machine billiards game-die bowling flower-playing-cards
    musical-note multiple-musical-notes saxophone guitar musical-keyboard trumpet violin
    musical-score running-shirt-with-sash tennis-racquet-and-ball ski-and-ski-boot
    basketball-and-hoop chequered-flag snowboarder runner surfer sports-medal trophy horse-racing
    american-football rugby-football swimmer weight-lifter golfer racing-motorcycle racing-car
    cricket-bat-and-ball volleyball field-hockey-stick-and-ball ice-hockey-stick-and-puck
    table-tennis-paddle-and-ball snow-capped-mountain camping beach-with-umbrella
    building-construction house-buildings cityscape derelict-house-building classical-building
    desert desert-island national-park stadium house-building house-with-garden office-building
    japanese-post-office european-post-office hospital bank automated-teller-machine hotel
    love-hotel convenience-store school department-store factory izakaya-lantern japanese-castle
    european-castle white-pennant black-pennant waving-white-flag waving-black-flag rosette
    black-rosette label badminton-racquet-and-shuttlecock bow-and-arrow amphora"⟩,
  ⟨0x1F3FB, "emoji-modifier-fitzpatrick-type-", "1-2 3 4 5 6"⟩,
  ⟨0x1F400, "", "rat mouse ox water-buffalo cow tiger leopard rabbit cat dragon crocodile whale
    snail snake horse ram goat sheep monkey rooster chicken dog pig boar elephant octopus
    spiral-shell bug ant honeybee lady-beetle fish tropical-fish blowfish turtle hatching-chick
    baby-chick front-facing-baby-chick bird penguin koala poodle dromedary-camel bactrian-camel
    dolphin mouse-face cow-face tiger-face rabbit-face cat-face dragon-face spouting-whale
    horse-face monkey-face dog-face pig-face frog-face hamster-face wolf-face bear-face
    panda-face pig-nose paw-prints chipmunk eyes eye ear nose mouth tongue
    white-up-pointing-backhand-index white-down-pointing-backhand-index
    white-left-pointing-backhand-index white-right-pointing-backhand-index fisted-hand-sign
    waving-hand-sign ok-hand-sign thumbs-up-sign thumbs-down-sign clapping-hands-sign
    open-hands-sign crown womans-hat eyeglasses necktie t-shirt jeans dress kimono bikini
    womans-clothes purse handbag pouch mans-shoe athletic-shoe high-heeled-shoe womans-sandal
    womans-boots footprints bust-in-silhouette busts-in-silhouette boy girl man woman family
    man-and-woman-holding-hands two-men-holding-hands two-women-holding-hands police-officer
    woman-with-bunny-ears bride-with-veil person-with-blond-hair man-with-gua-pi-mao
    man-with-turban older-man older-woman baby construction-worker princess japanese-ogre
    japanese-goblin ghost baby-angel extraterrestrial-alien alien-monster imp skull
    information-desk-person guardsman dancer lipstick nail-polish face-massage haircut
    barber-pole syringe pill kiss-mark love-letter ring gem-stone kiss bouquet couple-with-heart
    wedding beating-heart broken-heart two-hearts sparkling-heart growing-heart heart-with-arrow
    blue-heart green-heart yellow-heart purple-heart heart-with-ribbon revolving-hearts
    heart-decoration diamond-shape-with-a-dot-inside electric-light-bulb anger-symbol bomb
    sleeping-symbol collision-symbol splashing-sweat-symbol droplet dash-symbol pile-of-poo
    flexed-biceps dizzy-symbol speech-balloon thought-balloon white-flower hundred-points-symbol
    money-bag currency-exchange heavy-dollar-sign credit-card"⟩,
  ⟨0x1F4B4, "banknote-with-", "yen-sign dollar-sign euro-sign pound-sign"⟩,
  ⟨0x1F4B8, "", "money-with-wings chart-with-upwards-trend-and-yen-sign seat personal-computer
    briefcase minidisc floppy-disk optical-disc dvd file-folder open-file-folder page-with-curl
    page-facing-up calendar tear-off-calendar card-index chart-with-upwards-trend
    chart-with-downwards-trend bar-chart clipboard pushpin round-pushpin paperclip straight-ruler
    triangular-ruler bookmark-tabs ledger notebook notebook-with-decorative-cover closed-book
    open-book green-book blue-book orange-book books name-badge scroll memo telephone-receiver
    pager fax-machine satellite-antenna public-address-loudspeaker cheering-megaphone outbox-tray
    inbox-tray package e-mail-symbol incoming-envelope envelope-with-downwards-arrow-above
    closed-mailbox-with-lowered-flag closed-mailbox-with-raised-flag
    open-mailbox-with-raised-flag open-mailbox-with-lowered-flag postbox postal-horn newspaper
    mobile-phone mobile-phone-with-rightwards-arrow-at-left vibration-mode mobile-phone-off
    no-mobile-phones antenna-with-bars camera camera-with-flash video-camera television radio
    videocassette film-projector portable-stereo prayer-beads twisted-rightwards-arrows"⟩,
  ⟨0x1F501, "clockwise-rightwards-and-leftwards-open-circle-", "arrows
    arrows-with-circled-one-overlay"⟩,
  ⟨0x1F503, "", "clockwise-downwards-and-upwards-open-circle-arrows
    anticlockwise-downwards-and-upwards-open-circle-arrows low-brightness-symbol
    high-brightness-symbol speaker-with-cancellation-stroke speaker speaker-with-one-sound-wave
    speaker-with-three-sound-waves battery electric-plug left-pointing-magnifying-glass
    right-pointing-magnifying-glass lock-with-ink-pen closed-lock-with-key key lock open-lock
    bell bell-with-cancellation-stroke bookmark link-symbol radio-button
    back-with-leftwards-arrow-above end-with-leftwards-arrow-above
    on-with-exclamation-mark-with-left-right-arrow-above soon-with-rightwards-arrow-above
    top-with-upwards-arrow-above no-one-under-eighteen-symbol keycap-ten"⟩,
  ⟨0x1F520, "input-symbol-for-", "latin-capital-letters latin-small-letters numbers symbols
    latin-letters"⟩,
  ⟨0x1F525, "", "fire electric-torch wrench hammer nut-and-bolt hocho pistol microscope telescope
    crystal-ball six-pointed-star-with-middle-dot japanese-symbol-for-beginner trident-emblem
    black-square-button white-square-button large-red-circle large-blue-circle
    large-orange-diamond large-blue-diamond small-orange-diamond small-blue-diamond
    up-pointing-red-triangle down-pointing-red-triangle up-pointing-small-red-triangle
    down-pointing-small-red-triangle lower-right-shadowed-white-circle
    upper-right-shadowed-white-circle circled-cross-pommee cross-pommee-with-half-circle-below
    cross-pommee notched-left-semicircle-with-three-dots notched-right-semicircle-with-three-dots
    symbol-for-marks-chapter white-latin-cross heavy-latin-cross celtic-cross om-symbol
    dove-of-peace kaaba mosque synagogue menorah-with-nine-branches bowl-of-hygieia"⟩,
  ⟨0x1F550, "clock-face-", "one-oclock two-oclock three-oclock four-oclock five-oclock six-oclock
    seven-oclock eight-oclock nine-oclock ten-oclock eleven-oclock twelve-oclock one-thirty
    two-thirty three-thirty four-thirty five-thirty six-thirty seven-thirty eight-thirty
    nine-thirty ten-thirty eleven-thirty twelve-thirty"⟩,
  ⟨0x1F568, "", "right-speaker right-speaker-with-one-sound-wave
    right-speaker-with-three-sound-waves bullhorn bullhorn-with-sound-waves ringing-bell book
    candle mantelpiece-clock black-skull-and-crossbones no-piracy hole
    man-in-business-suit-levitating sleuth-or-spy dark-sunglasses spider spider-web joystick
    man-dancing left-hand-telephone-receiver telephone-receiver-with-page
    right-hand-telephone-receiver white-touchtone-telephone black-touchtone-telephone
    telephone-on-top-of-modem clamshell-mobile-phone back-of-envelope stamped-envelope
    envelope-with-lightning flying-envelope pen-over-stamped-envelope linked-paperclips
    black-pushpin"⟩,
  ⟨0x1F589, "lower-left-", "pencil ballpoint-pen fountain-pen paintbrush crayon"⟩,
  ⟨0x1F58E, "", "left-writing-hand turned-ok-hand-sign raised-hand-with-fingers-splayed"⟩,
  ⟨0x1F591, "reversed-", "raised-hand-with-fingers-splayed thumbs-up-sign thumbs-down-sign
    victory-hand hand-with-middle-finger-extended"⟩,
  ⟨0x1F596, "", "raised-hand-with-part-between-middle-and-ring-fingers
    white-down-pointing-left-hand-index"⟩,
  ⟨0x1F598, "sideways-", "white-left-pointing-index white-right-pointing-index
    black-left-pointing-index black-right-pointing-index"⟩,
  ⟨0x1F59C, "black-", "left-pointing-backhand-index right-pointing-backhand-index"⟩,
  ⟨0x1F59E, "sideways-", "white-up-pointing-index white-down-pointing-index
    black-up-pointing-index black-down-pointing-index"⟩,
  ⟨0x1F5A2, "", "black-up-pointing-backhand-index black-down-pointing-backhand-index black-heart
    desktop-computer keyboard-and-mouse three-networked-computers printer pocket-calculator
    black-hard-shell-floppy-disk white-hard-shell-floppy-disk soft-shell-floppy-disk
    tape-cartridge wired-keyboard one-button-mouse two-button-mouse three-button-mouse trackball
    old-personal-computer hard-disk screen printer-icon fax-icon optical-disc-icon"⟩,
  ⟨0x1F5B9, "document-with-", "text text-and-picture picture"⟩,
  ⟨0x1F5BC, "frame-with-", "picture tiles an-x"⟩,
  ⟨0x1F5BF, "", "black-folder folder open-folder card-index-dividers card-file-box file-cabinet
    empty-note empty-note-page empty-note-pad note note-page note-pad empty-document empty-page
    empty-pages document page pages wastebasket spiral-note-pad spiral-calendar-pad
    desktop-window minimize maximize overlap clockwise-right-and-left-semicircle-arrows
    cancellation-x increase-font-size-symbol decrease-font-size-symbol compression old-key
    rolled-up-newspaper page-with-circled-text stock-chart dagger-knife lips
    speaking-head-in-silhouette"⟩,
  ⟨0x1F5E4, "three-rays-", "above below left right"⟩,
  ⟨0x1F5E8, "", "left-speech-bubble right-speech-bubble two-speech-bubbles three-speech-bubbles
    left-thought-bubble right-thought-bubble left-anger-bubble right-anger-bubble mood-bubble
    lightning-mood-bubble lightning-mood ballot-box-with-ballot ballot-script-x
    ballot-box-with-script-x ballot-bold-script-x ballot-box-with-bold-script-x light-check-mark
    ballot-box-with-bold-check world-map mount-fuji tokyo-tower statue-of-liberty
    silhouette-of-japan moyai grinning-face grinning-face-with-smiling-eyes
    face-with-tears-of-joy"⟩,
  ⟨0x1F603, "smiling-face-with-", "open-mouth open-mouth-and-smiling-eyes
    open-mouth-and-cold-sweat open-mouth-and-tightly-closed-eyes halo horns"⟩,
  ⟨0x1F609, "", "winking-face smiling-face-with-smiling-eyes face-savouring-delicious-food
    relieved-face smiling-face-with-heart-shaped-eyes smiling-face-with-sunglasses smirking-face
    neutral-face expressionless-face unamused-face face-with-cold-sweat pensive-face
    confused-face confounded-face kissing-face face-throwing-a-kiss"⟩,
  ⟨0x1F619, "kissing-face-with-", "smiling-eyes closed-eyes"⟩,
  ⟨0x1F61B, "face-with-stuck-out-", "tongue tongue-and-winking-eye tongue-and-tightly-closed-eyes"⟩,
  ⟨0x1F61E, "", "disappointed-face worried-face angry-face pouting-face crying-face
    persevering-face face-with-look-of-triumph disappointed-but-relieved-face
    frowning-face-with-open-mouth anguished-face fearful-face weary-face sleepy-face tired-face
    grimacing-face loudly-crying-face face-with-open-mouth hushed-face
    face-with-open-mouth-and-cold-sweat face-screaming-in-fear astonished-face flushed-face
    sleeping-face dizzy-face face-without-mouth face-with-medical-mask
    grinning-cat-face-with-smiling-eyes cat-face-with-tears-of-joy
    smiling-cat-face-with-open-mouth smiling-cat-face-with-heart-shaped-eyes
    cat-face-with-wry-smile kissing-cat-face-with-closed-eyes pouting-cat-face crying-cat-face
    weary-cat-face slightly-frowning-face slightly-smiling-face upside-down-face
    face-with-rolling-eyes face-with-no-good-gesture face-with-ok-gesture person-bowing-deeply
    see-no-evil-monkey hear-no-evil-monkey speak-no-evil-monkey happy-person-raising-one-hand
    person-raising-both-hands-in-celebration person-frowning person-with-pouting-face
    person-with-folded-hands north-west-pointing-leaf south-west-pointing-leaf
    north-east-pointing-leaf south-east-pointing-leaf turned-north-west-pointing-leaf
    turned-south-west-pointing-leaf turned-north-east-pointing-leaf
    turned-south-east-pointing-leaf north-west-pointing-vine-leaf south-west-pointing-vine-leaf
    north-east-pointing-vine-leaf south-east-pointing-vine-leaf
    heavy-north-west-pointing-vine-leaf heavy-south-west-pointing-vine-leaf
    heavy-north-east-pointing-vine-leaf heavy-south-east-pointing-vine-leaf
    north-west-pointing-bud south-west-pointing-bud north-east-pointing-bud
    south-east-pointing-bud"⟩,
  ⟨0x1F664, "heavy-", "north-west-pointing-bud south-west-pointing-bud north-east-pointing-bud
    south-east-pointing-bud"⟩,
  ⟨0x1F668, "hollow-quilt-square-", "ornament ornament-in-black-square"⟩,
  ⟨0x1F66A, "solid-quilt-square-", "ornament ornament-in-black-square"⟩,
  ⟨0x1F66C, "", "leftwards-rocket upwards-rocket rightwards-rocket downwards-rocket
    script-ligature-et-ornament heavy-script-ligature-et-ornament ligature-open-et-ornament
    heavy-ligature-open-et-ornament heavy-ampersand-ornament swash-ampersand-ornament"⟩,
  ⟨0x1F676, "sans-serif-heavy-", "double-turned-comma-quotation-mark-ornament
    double-comma-quotation-mark-ornament low-double-comma-quotation-mark-ornament"⟩,
  ⟨0x1F679, "", "heavy-interrobang-ornament sans-serif-interrobang-ornament
    heavy-sans-serif-interrobang-ornament very-heavy-solidus very-heavy-reverse-solidus
    checker-board reverse-checker-board rocket helicopter steam-locomotive railway-car
    high-speed-train high-speed-train-with-bullet-nose train metro light-rail station tram
    tram-car bus oncoming-bus trolleybus bus-stop minibus ambulance fire-engine police-car
    oncoming-police-car taxi oncoming-taxi automobile oncoming-automobile recreational-vehicle
    delivery-truck articulated-lorry tractor monorail mountain-railway suspension-railway
    mountain-cableway aerial-tramway ship rowboat speedboat horizontal-traffic-light
    vertical-traffic-light construction-sign police-cars-revolving-light triangular-flag-on-post
    door no-entry-sign smoking-symbol no-smoking-symbol put-litter-in-its-place-symbol
    do-not-litter-symbol potable-water-symbol non-potable-water-symbol bicycle no-bicycles
    bicyclist mountain-bicyclist pedestrian no-pedestrians children-crossing mens-symbol
    womens-symbol restroom baby-symbol toilet water-closet shower bath bathtub passport-control
    customs baggage-claim left-luggage triangle-with-rounded-corners prohibited-sign
    circled-information-source boys-symbol girls-symbol couch-and-lamp sleeping-accommodation
    shopping-bags bellhop-bell bed place-of-worship octagonal-sign shopping-trolley stupa pagoda
    hindu-temple hut elevator"⟩,
  ⟨0x1F6DC, "", "wireless playground-slide wheel ring-buoy hammer-and-wrench shield oil-drum
    motorway railway-track motor-boat up-pointing-military-airplane up-pointing-airplane
    up-pointing-small-airplane small-airplane northeast-pointing-airplane airplane-departure
    airplane-arriving"⟩,
  ⟨0x1F6F0, "", "satellite oncoming-fire-engine diesel-locomotive passenger-ship scooter
    motor-scooter canoe sled flying-saucer skateboard auto-rickshaw pickup-truck roller-skate"⟩]

end Dictation.Unicode.Name
