import Dictation.Unicode.Name.Block
/-!
# Supplemental symbols, tags and selectors

Spoken names from 0x1F700 on, as of Unicode 16.
-/
namespace Dictation.Unicode.Name

set_option maxRecDepth 10000 in
def supplementalBlocks : List Block := [
  ⟨0x1F700, "alchemical-symbol-for-", "quintessence air fire earth water aquafortis aqua-regia
    aqua-regia-2 aqua-vitae aqua-vitae-2 vinegar vinegar-2 vinegar-3 sulfur philosophers-sulfur
    black-sulfur mercury-sublimate mercury-sublimate-2 mercury-sublimate-3 cinnabar salt nitre
    vitriol vitriol-2 rock-salt rock-salt-2 gold silver iron-ore iron-ore-2 crocus-of-iron
    regulus-of-iron copper-ore iron-copper-ore sublimate-of-copper crocus-of-copper
    crocus-of-copper-2 copper-antimoniate salt-of-copper-antimoniate sublimate-of-salt-of-copper
    verdigris tin-ore lead-ore antimony-ore sublimate-of-antimony salt-of-antimony
    sublimate-of-salt-of-antimony vinegar-of-antimony regulus-of-antimony regulus-of-antimony-2
    regulus regulus-2 regulus-3 regulus-4 alkali alkali-2 marcasite sal-ammoniac arsenic realgar
    realgar-2 auripigment bismuth-ore tartar tartar-2 quick-lime borax borax-2 borax-3 alum oil
    spirit tincture gum wax powder calx tutty caput-mortuum scepter-of-jove caduceus trident
    starred-trident lodestone soap urine horse-dung ashes pot-ashes brick powdered-brick amalgam
    stratum-super-stratum stratum-super-stratum-2 sublimation precipitate distill dissolve
    dissolve-2 purify putrefaction crucible crucible-2 crucible-3 crucible-4 crucible-5 alembic
    bath-of-mary bath-of-vapours retort hour night day-night month half-dram half-ounce"⟩,
  ⟨0x1F774, "", "lot-of-fortune occultation lunar-eclipse"⟩,
  ⟨0x1F77B, "", "haumea makemake gonggong quaoar orcus
    black-left-pointing-isosceles-right-triangle black-up-pointing-isosceles-right-triangle
    black-right-pointing-isosceles-right-triangle black-down-pointing-isosceles-right-triangle
    black-slightly-small-circle medium-bold-white-circle bold-white-circle heavy-white-circle
    very-heavy-white-circle extremely-heavy-white-circle
    white-circle-containing-black-small-circle round-target black-tiny-square
    black-slightly-small-square light-white-square medium-white-square bold-white-square
    heavy-white-square very-heavy-white-square extremely-heavy-white-square"⟩,
  ⟨0x1F794, "white-square-containing-black-", "very-small-square medium-square"⟩,
  ⟨0x1F796, "", "square-target black-tiny-diamond black-very-small-diamond
    black-medium-small-diamond"⟩,
  ⟨0x1F79A, "white-diamond-containing-black-", "very-small-diamond medium-diamond"⟩,
  ⟨0x1F79C, "", "diamond-target black-tiny-lozenge black-very-small-lozenge
    black-medium-small-lozenge white-lozenge-containing-black-small-lozenge thin-greek-cross
    light-greek-cross medium-greek-cross bold-greek-cross very-bold-greek-cross
    very-heavy-greek-cross extremely-heavy-greek-cross thin-saltire light-saltire medium-saltire
    bold-saltire heavy-saltire very-heavy-saltire extremely-heavy-saltire
    light-five-spoked-asterisk medium-five-spoked-asterisk bold-five-spoked-asterisk
    heavy-five-spoked-asterisk very-heavy-five-spoked-asterisk
    extremely-heavy-five-spoked-asterisk light-six-spoked-asterisk medium-six-spoked-asterisk
    bold-six-spoked-asterisk heavy-six-spoked-asterisk very-heavy-six-spoked-asterisk
    extremely-heavy-six-spoked-asterisk light-eight-spoked-asterisk medium-eight-spoked-asterisk
    bold-eight-spoked-asterisk heavy-eight-spoked-asterisk very-heavy-eight-spoked-asterisk
    light-three-pointed-black-star medium-three-pointed-black-star three-pointed-black-star
    medium-three-pointed-pinwheel-star light-four-pointed-black-star
    medium-four-pointed-black-star four-pointed-black-star medium-four-pointed-pinwheel-star
    reverse-light-four-pointed-pinwheel-star light-five-pointed-black-star
    heavy-five-pointed-black-star medium-six-pointed-black-star heavy-six-pointed-black-star
    six-pointed-pinwheel-star medium-eight-pointed-black-star heavy-eight-pointed-black-star
    very-heavy-eight-pointed-black-star heavy-eight-pointed-pinwheel-star
    light-twelve-pointed-black-star heavy-twelve-pointed-black-star
    heavy-twelve-pointed-pinwheel-star circled-triangle negative-circled-triangle circled-square
    negative-circled-square nine-pointed-white-star"⟩,
  ⟨0x1F7E0, "large-", "orange-circle yellow-circle green-circle purple-circle brown-circle
    red-square blue-square orange-square yellow-square green-square purple-square brown-square"⟩,
  ⟨0x1F7F0, "heavy-equals-", "sign"⟩,
  ⟨0x1F800, "", "leftwards-arrow-with-small-triangle-arrowhead
    upwards-arrow-with-small-triangle-arrowhead rightwards-arrow-with-small-triangle-arrowhead
    downwards-arrow-with-small-triangle-arrowhead leftwards-arrow-with-medium-triangle-arrowhead
    upwards-arrow-with-medium-triangle-arrowhead rightwards-arrow-with-medium-triangle-arrowhead
    downwards-arrow-with-medium-triangle-arrowhead leftwards-arrow-with-large-triangle-arrowhead
    upwards-arrow-with-large-triangle-arrowhead rightwards-arrow-with-large-triangle-arrowhead
    downwards-arrow-with-large-triangle-arrowhead"⟩,
  ⟨0x1F810, "", "leftwards-arrow-with-small-equilateral-arrowhead
    upwards-arrow-with-small-equilateral-arrowhead
    rightwards-arrow-with-small-equilateral-arrowhead
    downwards-arrow-with-small-equilateral-arrowhead leftwards-arrow-with-equilateral-arrowhead
    upwards-arrow-with-equilateral-arrowhead rightwards-arrow-with-equilateral-arrowhead
    downwards-arrow-with-equilateral-arrowhead"⟩,
  ⟨0x1F818, "heavy-", "leftwards-arrow-with-equilateral-arrowhead
    upwards-arrow-with-equilateral-arrowhead rightwards-arrow-with-equilateral-arrowhead
    downwards-arrow-with-equilateral-arrowhead leftwards-arrow-with-large-equilateral-arrowhead
    upwards-arrow-with-large-equilateral-arrowhead
    rightwards-arrow-with-large-equilateral-arrowhead
    downwards-arrow-with-large-equilateral-arrowhead"⟩,
  ⟨0x1F820, "", "leftwards-triangle-headed-arrow-with-narrow-shaft
    upwards-triangle-headed-arrow-with-narrow-shaft
    rightwards-triangle-headed-arrow-with-narrow-shaft
    downwards-triangle-headed-arrow-with-narrow-shaft
    leftwards-triangle-headed-arrow-with-medium-shaft
    upwards-triangle-headed-arrow-with-medium-shaft
    rightwards-triangle-headed-arrow-with-medium-shaft
    downwards-triangle-headed-arrow-with-medium-shaft
    leftwards-triangle-headed-arrow-with-bold-shaft upwards-triangle-headed-arrow-with-bold-shaft
    rightwards-triangle-headed-arrow-with-bold-shaft
    downwards-triangle-headed-arrow-with-bold-shaft
    leftwards-triangle-headed-arrow-with-heavy-shaft
    upwards-triangle-headed-arrow-with-heavy-shaft
    rightwards-triangle-headed-arrow-with-heavy-shaft
    downwards-triangle-headed-arrow-with-heavy-shaft
    leftwards-triangle-headed-arrow-with-very-heavy-shaft
    upwards-triangle-headed-arrow-with-very-heavy-shaft
    rightwards-triangle-headed-arrow-with-very-heavy-shaft
    downwards-triangle-headed-arrow-with-very-heavy-shaft leftwards-finger-post-arrow
    upwards-finger-post-arrow rightwards-finger-post-arrow downwards-finger-post-arrow
    leftwards-squared-arrow upwards-squared-arrow rightwards-squared-arrow
    downwards-squared-arrow leftwards-compressed-arrow upwards-compressed-arrow
    rightwards-compressed-arrow downwards-compressed-arrow leftwards-heavy-compressed-arrow
    upwards-heavy-compressed-arrow rightwards-heavy-compressed-arrow
    downwards-heavy-compressed-arrow leftwards-heavy-arrow upwards-heavy-arrow
    rightwards-heavy-arrow downwards-heavy-arrow"⟩,
  ⟨0x1F850, "", "leftwards-sans-serif-arrow upwards-sans-serif-arrow rightwards-sans-serif-arrow
    downwards-sans-serif-arrow north-west-sans-serif-arrow north-east-sans-serif-arrow
    south-east-sans-serif-arrow south-west-sans-serif-arrow left-right-sans-serif-arrow
    up-down-sans-serif-arrow"⟩,
  ⟨0x1F860, "wide-headed-", "leftwards-light-barb-arrow upwards-light-barb-arrow
    rightwards-light-barb-arrow downwards-light-barb-arrow north-west-light-barb-arrow
    north-east-light-barb-arrow south-east-light-barb-arrow south-west-light-barb-arrow
    leftwards-barb-arrow upwards-barb-arrow rightwards-barb-arrow downwards-barb-arrow
    north-west-barb-arrow north-east-barb-arrow south-east-barb-arrow south-west-barb-arrow
    leftwards-medium-barb-arrow upwards-medium-barb-arrow rightwards-medium-barb-arrow
    downwards-medium-barb-arrow north-west-medium-barb-arrow north-east-medium-barb-arrow
    south-east-medium-barb-arrow south-west-medium-barb-arrow leftwards-heavy-barb-arrow
    upwards-heavy-barb-arrow rightwards-heavy-barb-arrow downwards-heavy-barb-arrow
    north-west-heavy-barb-arrow north-east-heavy-barb-arrow south-east-heavy-barb-arrow
    south-west-heavy-barb-arrow leftwards-very-heavy-barb-arrow upwards-very-heavy-barb-arrow
    rightwards-very-heavy-barb-arrow downwards-very-heavy-barb-arrow
    north-west-very-heavy-barb-arrow north-east-very-heavy-barb-arrow
    south-east-very-heavy-barb-arrow south-west-very-heavy-barb-arrow"⟩,
  ⟨0x1F890, "", "leftwards-triangle-arrowhead upwards-triangle-arrowhead
    rightwards-triangle-arrowhead downwards-triangle-arrowhead
    leftwards-white-arrow-within-triangle-arrowhead upwards-white-arrow-within-triangle-arrowhead
    rightwards-white-arrow-within-triangle-arrowhead
    downwards-white-arrow-within-triangle-arrowhead leftwards-arrow-with-notched-tail
    upwards-arrow-with-notched-tail rightwards-arrow-with-notched-tail
    downwards-arrow-with-notched-tail"⟩,
  ⟨0x1F89C, "heavy-arrow-shaft-width-", "one two-thirds one-half one-third"⟩,
  ⟨0x1F8A0, "", "leftwards-bottom-shaded-white-arrow rightwards-bottom-shaded-white-arrow
    leftwards-top-shaded-white-arrow rightwards-top-shaded-white-arrow
    leftwards-left-shaded-white-arrow rightwards-right-shaded-white-arrow
    leftwards-right-shaded-white-arrow rightwards-left-shaded-white-arrow
    leftwards-back-tilted-shadowed-white-arrow rightwards-back-tilted-shadowed-white-arrow
    leftwards-front-tilted-shadowed-white-arrow rightwards-front-tilted-shadowed-white-arrow"⟩,
  ⟨0x1F8AC, "white-arrow-shaft-width-", "one two-thirds"⟩,
  ⟨0x1F8B0, "arrow-pointing-", "upwards-then-north-west rightwards-then-curving-south-west"⟩,
  ⟨0x1F8B2, "", "rightwards-arrow-with-lower-hook downwards-black-arrow-to-bar"⟩,
  ⟨0x1F8B4, "negative-squared-", "leftwards-arrow upwards-arrow rightwards-arrow downwards-arrow"⟩,
  ⟨0x1F8B8, "", "north-west-arrow-from-bar north-east-arrow-from-bar south-east-arrow-from-bar
    south-west-arrow-from-bar"⟩,
  ⟨0x1F8C0, "", "leftwards-arrow-from-downwards-arrow rightwards-arrow-from-downwards-arrow"⟩,
  ⟨0x1F900, "circled-cross-", "formee-with-four-dots formee-with-two-dots formee"⟩,
  ⟨0x1F903, "left-half-circle-with-", "four-dots three-dots two-dots dot"⟩,
  ⟨0x1F907, "left-half-", "circle"⟩,
  ⟨0x1F908, "downward-facing-", "hook notched-hook hook-with-dot notched-hook-with-dot"⟩,
  ⟨0x1F90C, "", "pinched-fingers white-heart brown-heart pinching-hand zipper-mouth-face
    money-mouth-face face-with-thermometer nerd-face thinking-face face-with-head-bandage
    robot-face hugging-face sign-of-the-horns call-me-hand raised-back-of-hand left-facing-fist
    right-facing-fist handshake hand-with-index-and-middle-fingers-crossed i-love-you-hand-sign
    face-with-cowboy-hat clown-face nauseated-face rolling-on-the-floor-laughing drooling-face
    lying-face face-palm sneezing-face face-with-one-eyebrow-raised grinning-face-with-star-eyes
    grinning-face-with-one-large-and-one-small-eye face-with-finger-covering-closed-lips
    serious-face-with-symbols-covering-mouth
    smiling-face-with-smiling-eyes-and-hand-covering-mouth face-with-open-mouth-vomiting
    shocked-face-with-exploding-head pregnant-woman breast-feeding palms-up-together selfie
    prince man-in-tuxedo mother-christmas shrug person-doing-cartwheel juggling fencer
    modern-pentathlon wrestlers water-polo handball diving-mask wilted-flower
    drum-with-drumsticks clinking-glasses tumbler-glass spoon goal-net rifle first-place-medal
    second-place-medal third-place-medal boxing-glove martial-arts-uniform curling-stone
    lacrosse-stick-and-ball softball flying-disc croissant avocado cucumber bacon potato carrot
    baguette-bread green-salad shallow-pan-of-food stuffed-flatbread egg glass-of-milk peanuts
    kiwifruit pancakes dumpling fortune-cookie takeout-box chopsticks bowl-with-spoon
    cup-with-straw coconut broccoli pie pretzel cut-of-meat sandwich canned-food leafy-green
    mango moon-cake bagel smiling-face-with-smiling-eyes-and-three-hearts yawning-face
    smiling-face-with-tear face-with-party-horn-and-party-hat
    face-with-uneven-eyes-and-wavy-mouth overheated-face freezing-face ninja disguised-face
    face-holding-back-tears face-with-pleading-eyes sari lab-coat goggles hiking-boot flat-shoe
    crab lion-face scorpion turkey unicorn-face eagle duck bat shark owl fox-face butterfly deer
    gorilla lizard rhinoceros shrimp squid giraffe-face zebra-face hedgehog sauropod t-rex
    cricket kangaroo llama peacock hippopotamus parrot raccoon lobster mosquito microbe badger
    swan mammoth dodo sloth otter orangutan skunk flamingo oyster beaver bison seal guide-dog
    probing-cane"⟩,
  ⟨0x1F9B0, "emoji-component-", "red-hair curly-hair bald white-hair"⟩,
  ⟨0x1F9B4, "", "bone leg foot tooth superhero supervillain safety-vest ear-with-hearing-aid
    motorized-wheelchair manual-wheelchair mechanical-arm mechanical-leg cheese-wedge cupcake
    salt-shaker beverage-box garlic onion falafel waffle butter mate-drink ice-cube bubble-tea
    troll standing-person kneeling-person deaf-person face-with-monocle adult child older-adult
    bearded-person person-with-headscarf person-in-steamy-room person-climbing
    person-in-lotus-position mage fairy vampire merperson elf genie zombie brain orange-heart
    billed-cap scarf gloves coat socks red-gift-envelope firecracker jigsaw-puzzle-piece
    test-tube petri-dish dna-double-helix compass abacus fire-extinguisher toolbox brick magnet
    luggage lotion-bottle spool-of-thread ball-of-yarn safety-pin teddy-bear broom basket
    roll-of-paper bar-of-soap sponge receipt nazar-amulet"⟩,
  ⟨0x1FA00, "neutral-chess-", "king queen rook bishop knight pawn"⟩,
  ⟨0x1FA06, "", "white-chess-knight-rotated-forty-five-degrees
    black-chess-knight-rotated-forty-five-degrees neutral-chess-knight-rotated-forty-five-degrees"⟩,
  ⟨0x1FA09, "white-chess-", "king-rotated-ninety-degrees queen-rotated-ninety-degrees
    rook-rotated-ninety-degrees bishop-rotated-ninety-degrees knight-rotated-ninety-degrees
    pawn-rotated-ninety-degrees"⟩,
  ⟨0x1FA0F, "black-chess-", "king-rotated-ninety-degrees queen-rotated-ninety-degrees
    rook-rotated-ninety-degrees bishop-rotated-ninety-degrees knight-rotated-ninety-degrees
    pawn-rotated-ninety-degrees"⟩,
  ⟨0x1FA15, "neutral-chess-", "king-rotated-ninety-degrees queen-rotated-ninety-degrees
    rook-rotated-ninety-degrees bishop-rotated-ninety-degrees knight-rotated-ninety-degrees
    pawn-rotated-ninety-degrees"⟩,
  ⟨0x1FA1B, "", "white-chess-knight-rotated-one-hundred-thirty-five-degrees
    black-chess-knight-rotated-one-hundred-thirty-five-degrees
    neutral-chess-knight-rotated-one-hundred-thirty-five-degrees"⟩,
  ⟨0x1FA1E, "white-chess-turned-", "king queen rook bishop knight pawn"⟩,
  ⟨0x1FA24, "black-chess-turned-", "king queen rook bishop knight pawn"⟩,
  ⟨0x1FA2A, "neutral-chess-turned-", "king queen rook bishop knight pawn"⟩,
  ⟨0x1FA30, "", "white-chess-knight-rotated-two-hundred-twenty-five-degrees
    black-chess-knight-rotated-two-hundred-twenty-five-degrees
    neutral-chess-knight-rotated-two-hundred-twenty-five-degrees"⟩,
  ⟨0x1FA33, "white-chess-", "king-rotated-two-hundred-seventy-degrees
    queen-rotated-two-hundred-seventy-degrees rook-rotated-two-hundred-seventy-degrees
    bishop-rotated-two-hundred-seventy-degrees knight-rotated-two-hundred-seventy-degrees
    pawn-rotated-two-hundred-seventy-degrees"⟩,
  ⟨0x1FA39, "black-chess-", "king-rotated-two-hundred-seventy-degrees
    queen-rotated-two-hundred-seventy-degrees rook-rotated-two-hundred-seventy-degrees
    bishop-rotated-two-hundred-seventy-degrees knight-rotated-two-hundred-seventy-degrees
    pawn-rotated-two-hundred-seventy-degrees"⟩,
  ⟨0x1FA3F, "neutral-chess-", "king-rotated-two-hundred-seventy-degrees
    queen-rotated-two-hundred-seventy-degrees rook-rotated-two-hundred-seventy-degrees
    bishop-rotated-two-hundred-seventy-degrees knight-rotated-two-hundred-seventy-degrees
    pawn-rotated-two-hundred-seventy-degrees"⟩,
  ⟨0x1FA45, "", "white-chess-knight-rotated-three-hundred-fifteen-degrees
    black-chess-knight-rotated-three-hundred-fifteen-degrees
    neutral-chess-knight-rotated-three-hundred-fifteen-degrees white-chess-equihopper
    black-chess-equihopper neutral-chess-equihopper white-chess-equihopper-rotated-ninety-degrees
    black-chess-equihopper-rotated-ninety-degrees neutral-chess-equihopper-rotated-ninety-degrees"⟩,
  ⟨0x1FA4E, "white-chess-knight-", "queen rook bishop"⟩,
  ⟨0x1FA51, "black-chess-knight-", "queen rook bishop"⟩,
  ⟨0x1FA60, "xiangqi-red-", "general mandarin elephant horse chariot cannon soldier"⟩,
  ⟨0x1FA67, "xiangqi-black-", "general mandarin elephant horse chariot cannon soldier"⟩,
  ⟨0x1FA70, "", "ballet-shoes one-piece-swimsuit briefs shorts thong-sandal light-blue-heart
    grey-heart pink-heart drop-of-blood adhesive-bandage stethoscope x-ray crutch"⟩,
  ⟨0x1FA80, "", "yo-yo kite parachute boomerang magic-wand pinata nesting-dolls maracas flute
    harp"⟩,
  ⟨0x1FA8F, "", "shovel ringed-planet chair razor axe diya-lamp banjo military-helmet accordion
    long-drum coin carpentry-saw screwdriver ladder hook mirror window plunger sewing-needle knot
    bucket mouse-trap toothbrush headstone placard rock mirror-ball identification-card
    low-battery hamsa folding-hand-fan hair-pick khanda fly worm beetle cockroach potted-plant
    wood feather lotus coral empty-nest nest-with-eggs hyacinth jellyfish wing leafless-tree
    goose anatomical-heart lungs people-hugging pregnant-man pregnant-person person-with-crown
    fingerprint"⟩,
  ⟨0x1FACE, "", "moose donkey blueberries bell-pepper olive flatbread tamale fondue teapot
    pouring-liquid beans jar ginger-root pea-pod root-vegetable"⟩,
  ⟨0x1FADF, "", "splatter melting-face saluting-face face-with-open-eyes-and-hand-over-mouth
    face-with-peeking-eye face-with-diagonal-mouth dotted-line-face biting-lip bubbles
    shaking-face face-with-bags-under-eyes"⟩,
  ⟨0x1FAF0, "", "hand-with-index-finger-and-thumb-crossed rightwards-hand leftwards-hand
    palm-down-hand palm-up-hand index-pointing-at-the-viewer heart-hands leftwards-pushing-hand
    rightwards-pushing-hand"⟩,
  ⟨0x1FB00, "block-sextant-", "1 2 12 3 13 23 123 4 14 24 124 34 134 234 1234 5 15 25 125 35 235
    1235 45 145 245 1245 345 1345 2345 12345 6 16 26 126 36 136 236 1236 46 146 1246 346 1346
    2346 12346 56 156 256 1256 356 1356 2356 12356 456 1456 2456 12456 3456 13456 23456"⟩,
  ⟨0x1FB3C, "lower-left-block-diagonal-", "lower-middle-left-to-lower-centre
    lower-middle-left-to-lower-right upper-middle-left-to-lower-centre
    upper-middle-left-to-lower-right upper-left-to-lower-centre"⟩,
  ⟨0x1FB41, "lower-right-block-diagonal-upper-middle-left-to-upper-", "centre right"⟩,
  ⟨0x1FB43, "lower-right-block-diagonal-lower-", "middle-left-to-upper-centre
    middle-left-to-upper-right left-to-upper-centre middle-left-to-upper-middle-right
    centre-to-lower-middle-right left-to-lower-middle-right centre-to-upper-middle-right
    left-to-upper-middle-right centre-to-upper-right"⟩,
  ⟨0x1FB4C, "lower-left-block-diagonal-upper-", "centre-to-upper-middle-right
    left-to-upper-middle-right centre-to-lower-middle-right left-to-lower-middle-right
    centre-to-lower-right middle-left-to-lower-middle-right"⟩,
  ⟨0x1FB52, "upper-right-block-diagonal-", "lower-middle-left-to-lower-centre
    lower-middle-left-to-lower-right upper-middle-left-to-lower-centre
    upper-middle-left-to-lower-right upper-left-to-lower-centre"⟩,
  ⟨0x1FB57, "upper-left-block-diagonal-upper-middle-left-to-upper-", "centre right"⟩,
  ⟨0x1FB59, "upper-left-block-diagonal-lower-", "middle-left-to-upper-centre
    middle-left-to-upper-right left-to-upper-centre middle-left-to-upper-middle-right
    centre-to-lower-middle-right left-to-lower-middle-right centre-to-upper-middle-right
    left-to-upper-middle-right centre-to-upper-right"⟩,
  ⟨0x1FB62, "upper-right-block-diagonal-upper-", "centre-to-upper-middle-right
    left-to-upper-middle-right centre-to-lower-middle-right left-to-lower-middle-right
    centre-to-lower-right middle-left-to-lower-middle-right"⟩,
  ⟨0x1FB68, "", "upper-and-right-and-lower-triangular-three-quarters-block
    left-and-lower-and-right-triangular-three-quarters-block
    upper-and-left-and-lower-triangular-three-quarters-block
    left-and-upper-and-right-triangular-three-quarters-block left-triangular-one-quarter-block
    upper-triangular-one-quarter-block right-triangular-one-quarter-block
    lower-triangular-one-quarter-block"⟩,
  ⟨0x1FB70, "vertical-one-eighth-block-", "2 3 4 5 6 7"⟩,
  ⟨0x1FB76, "horizontal-one-eighth-block-", "2 3 4 5 6 7"⟩,
  ⟨0x1FB7C, "", "left-and-lower-one-eighth-block left-and-upper-one-eighth-block
    right-and-upper-one-eighth-block right-and-lower-one-eighth-block
    upper-and-lower-one-eighth-block horizontal-one-eighth-block-1358"⟩,
  ⟨0x1FB82, "upper-", "one-quarter-block three-eighths-block five-eighths-block
    three-quarters-block seven-eighths-block"⟩,
  ⟨0x1FB87, "right-", "one-quarter-block three-eighths-block five-eighths-block
    three-quarters-block seven-eighths-block"⟩,
  ⟨0x1FB8C, "", "left-half-medium-shade right-half-medium-shade upper-half-medium-shade
    lower-half-medium-shade inverse-medium-shade
    upper-half-block-and-lower-half-inverse-medium-shade
    upper-half-inverse-medium-shade-and-lower-half-block"⟩,
  ⟨0x1FB94, "", "left-half-inverse-medium-shade-and-right-half-block checker-board-fill
    inverse-checker-board-fill heavy-horizontal-fill upper-left-to-lower-right-fill
    upper-right-to-lower-left-fill upper-and-lower-triangular-half-block
    left-and-right-triangular-half-block upper-left-triangular-medium-shade
    upper-right-triangular-medium-shade lower-right-triangular-medium-shade
    lower-left-triangular-medium-shade"⟩,
  ⟨0x1FBA0, "box-drawings-light-diagonal-", "upper-centre-to-middle-left
    upper-centre-to-middle-right middle-left-to-lower-centre middle-right-to-lower-centre
    upper-centre-to-middle-left-to-lower-centre upper-centre-to-middle-right-to-lower-centre
    middle-left-to-lower-centre-to-middle-right middle-left-to-upper-centre-to-middle-right
    upper-centre-to-middle-left-and-middle-right-to-lower-centre
    upper-centre-to-middle-right-and-middle-left-to-lower-centre
    upper-centre-to-middle-right-to-lower-centre-to-middle-left
    upper-centre-to-middle-left-to-lower-centre-to-middle-right
    middle-left-to-upper-centre-to-middle-right-to-lower-centre
    middle-right-to-upper-centre-to-middle-left-to-lower-centre diamond"⟩,
  ⟨0x1FBAF, "", "box-drawings-light-horizontal-with-vertical-stroke arrowhead-shaped-pointer
    inverse-check-mark left-half-running-man right-half-running-man
    inverse-downwards-arrow-with-tip-leftwards
    leftwards-arrow-and-upper-and-lower-one-eighth-block
    rightwards-arrow-and-upper-and-lower-one-eighth-block
    downwards-arrow-and-right-one-eighth-block upwards-arrow-and-right-one-eighth-block
    left-half-folder right-half-folder voided-greek-cross right-open-squared-dot"⟩,
  ⟨0x1FBBD, "negative-diagonal-", "cross middle-right-to-lower-centre diamond"⟩,
  ⟨0x1FBC0, "", "white-heavy-saltire-with-rounded-corners left-third-white-right-pointing-index
    middle-third-white-right-pointing-index right-third-white-right-pointing-index
    negative-squared-question-mark stick-figure"⟩,
  ⟨0x1FBC6, "stick-figure-", "with-arms-raised leaning-left leaning-right with-dress"⟩,
  ⟨0x1FBCA, "", "white-up-pointing-chevron white-cross-mark raised-small-left-square-bracket
    black-small-up-pointing-chevron left-two-thirds-block left-one-third-block"⟩,
  ⟨0x1FBD0, "box-drawings-light-diagonal-", "middle-right-to-lower-left
    upper-right-to-middle-left upper-left-to-middle-right middle-left-to-lower-right
    upper-left-to-lower-centre upper-centre-to-lower-right upper-right-to-lower-centre
    upper-centre-to-lower-left upper-left-to-middle-centre-to-upper-right
    upper-right-to-middle-centre-to-lower-right lower-left-to-middle-centre-to-lower-right
    upper-left-to-middle-centre-to-lower-left upper-left-to-lower-centre-to-upper-right
    upper-right-to-middle-left-to-lower-right lower-left-to-upper-centre-to-lower-right
    upper-left-to-middle-right-to-lower-left"⟩,
  ⟨0x1FBE0, "", "top-justified-lower-half-white-circle right-justified-left-half-white-circle
    bottom-justified-upper-half-white-circle left-justified-right-half-white-circle
    upper-centre-one-quarter-block lower-centre-one-quarter-block middle-left-one-quarter-block
    middle-right-one-quarter-block top-justified-lower-half-black-circle
    right-justified-left-half-black-circle bottom-justified-upper-half-black-circle
    left-justified-right-half-black-circle top-right-justified-lower-left-quarter-black-circle
    bottom-left-justified-upper-right-quarter-black-circle
    bottom-right-justified-upper-left-quarter-black-circle
    top-left-justified-lower-right-quarter-black-circle"⟩,
  ⟨0x1FBF0, "segmented-digit-", "zero one two three four five six seven eight nine"⟩]

set_option maxRecDepth 10000 in
def tagsBlocks : List Block := [
  ⟨0xE0001, "language-", "tag"⟩,
  ⟨0xE0020, "tag-", "space exclamation-mark quotation-mark number-sign dollar-sign percent-sign
    ampersand apostrophe left-parenthesis right-parenthesis asterisk plus-sign comma hyphen-minus
    full-stop solidus"⟩,
  ⟨0xE0030, "tag-digit-", "zero one two three four five six seven eight nine"⟩,
  ⟨0xE003A, "tag-", "colon semicolon less-than-sign equals-sign greater-than-sign question-mark
    commercial-at"⟩,
  ⟨0xE0041, "tag-latin-capital-letter-", "a b c d e f g h i j k l m n o p q r s t u v w x y z"⟩,
  ⟨0xE005B, "tag-", "left-square-bracket reverse-solidus right-square-bracket circumflex-accent
    low-line grave-accent"⟩,
  ⟨0xE0061, "tag-latin-small-letter-", "a b c d e f g h i j k l m n o p q r s t u v w x y z"⟩,
  ⟨0xE007B, "", "tag-left-curly-bracket tag-vertical-line tag-right-curly-bracket tag-tilde
    cancel-tag"⟩,
  ⟨0xE0100, "variation-selector-", "17 18 19 20 21 22 23 24 25 26 27 28 29 30 31 32 33 34 35 36
    37 38 39 40 41 42 43 44 45 46 47 48 49 50 51 52 53 54 55 56 57 58 59 60 61 62 63 64 65 66 67
    68 69 70 71 72 73 74 75 76 77 78 79 80 81 82 83 84 85 86 87 88 89 90 91 92 93 94 95 96 97 98
    99 100 101 102 103 104 105 106 107 108 109 110 111 112 113 114 115 116 117 118 119 120 121
    122 123 124 125 126 127 128 129 130 131 132 133 134 135 136 137 138 139 140 141 142 143 144
    145 146 147 148 149 150 151 152 153 154 155 156 157 158 159 160 161 162 163 164 165 166 167
    168 169 170 171 172 173 174 175 176 177 178 179 180 181 182 183 184 185 186 187 188 189 190
    191 192 193 194 195 196 197 198 199 200 201 202 203 204 205 206 207 208 209 210 211 212 213
    214 215 216 217 218 219 220 221 222 223 224 225 226 227 228 229 230 231 232 233 234 235 236
    237 238 239 240 241 242 243 244 245 246 247 248 249 250 251 252 253 254 255 256"⟩]

end Dictation.Unicode.Name
