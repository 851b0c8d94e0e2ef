import MarkdownPreview.Emoji.Basic

/-!
The emoji table.
-/

namespace MarkdownPreview.Emoji

/-- Faces. -/
def smileys : List (String × Emoji) :=
  [(":smile:", .glyph "😄"), (":smiley:", .glyph "😃"), (":grinning:", .glyph "😀"),
   (":blush:", .glyph "😊"), (":relaxed:", .glyph "☺️"), (":wink:", .glyph "😉"),
   (":heart_eyes:", .glyph "😍"), (":kissing_heart:", .glyph "😘"),
   (":stuck_out_tongue:", .glyph "😛"), (":stuck_out_tongue_winking_eye:", .glyph "😜"),
   (":grin:", .glyph "😁"), (":laughing:", .glyph "😆"), (":satisfied:", .glyph "😆"),
   (":joy:", .glyph "😂"), (":rofl:", .glyph "🤣"), (":sweat_smile:", .glyph "😅"),
   (":innocent:", .glyph "😇"), (":slightly_smiling_face:", .glyph "🙂"),
   (":upside_down_face:", .glyph "🙃"), (":relieved:", .glyph "😌"), (":sunglasses:", .glyph "😎"),
   (":smirk:", .glyph "😏"), (":neutral_face:", .glyph "😐"), (":expressionless:", .glyph "😑"),
   (":unamused:", .glyph "😒"), (":sweat:", .glyph "😓"), (":pensive:", .glyph "😔"),
   (":confused:", .glyph "😕"), (":thinking:", .glyph "🤔"), (":hugs:", .glyph "🤗"),
   (":nerd_face:", .glyph "🤓"), (":disappointed:", .glyph "😞"), (":worried:", .glyph "😟"),
   (":angry:", .glyph "😠"), (":rage:", .glyph "😡"), (":cry:", .glyph "😢"),
   (":sob:", .glyph "😭"), (":fearful:", .glyph "😨"), (":scream:", .glyph "😱"),
   (":flushed:", .glyph "😳"), (":sleeping:", .glyph "😴"), (":dizzy_face:", .glyph "😵"),
   (":mask:", .glyph "😷"), (":exploding_head:", .glyph "🤯"), (":partying_face:", .glyph "🥳"),
   (":zipper_mouth_face:", .glyph "🤐"), (":roll_eyes:", .glyph "🙄"), (":yum:", .glyph "😋"),
   (":skull:", .glyph "💀"), (":ghost:", .glyph "👻"), (":alien:", .glyph "👽"),
   (":robot:", .glyph "🤖"), (":poop:", .glyph "💩"), (":hankey:", .glyph "💩"),
   (":see_no_evil:", .glyph "🙈"), (":hear_no_evil:", .glyph "🙉"),
   (":speak_no_evil:", .glyph "🙊")]

/-- People and gestures. -/
def people : List (String × Emoji) :=
  [(":+1:", .glyph "👍"), (":thumbsup:", .glyph "👍"), (":-1:", .glyph "👎"),
   (":thumbsdown:", .glyph "👎"), (":ok_hand:", .glyph "👌"), (":punch:", .glyph "👊"),
   (":facepunch:", .glyph "👊"), (":fist:", .glyph "✊"), (":v:", .glyph "✌️"),
   (":wave:", .glyph "👋"), (":raised_hand:", .glyph "✋"), (":hand:", .glyph "✋"),
   (":clap:", .glyph "👏"), (":raised_hands:", .glyph "🙌"), (":pray:", .glyph "🙏"),
   (":muscle:", .glyph "💪"), (":point_up:", .glyph "☝️"), (":point_down:", .glyph "👇"),
   (":point_left:", .glyph "👈"), (":point_right:", .glyph "👉"), (":writing_hand:", .glyph "✍️"),
   (":eyes:", .glyph "👀"), (":brain:", .glyph "🧠"), (":man_shrugging:", .glyph "🤷‍♂️"),
   (":woman_shrugging:", .glyph "🤷‍♀️"), (":shrug:", .glyph "🤷"), (":facepalm:", .glyph "🤦"),
   (":technologist:", .glyph "🧑‍💻")]

/-- Hearts and symbols. -/
def symbols : List (String × Emoji) :=
  [(":heart:", .glyph "❤️"), (":orange_heart:", .glyph "🧡"), (":yellow_heart:", .glyph "💛"),
   (":green_heart:", .glyph "💚"), (":blue_heart:", .glyph "💙"), (":purple_heart:", .glyph "💜"),
   (":black_heart:", .glyph "🖤"), (":broken_heart:", .glyph "💔"),
   (":sparkling_heart:", .glyph "💖"), (":100:", .glyph "💯"), (":boom:", .glyph "💥"),
   (":collision:", .glyph "💥"), (":sparkles:", .glyph "✨"), (":star:", .glyph "⭐"),
   (":star2:", .glyph "🌟"), (":dizzy:", .glyph "💫"), (":zap:", .glyph "⚡"),
   (":fire:", .glyph "🔥"), (":tada:", .glyph "🎉"), (":confetti_ball:", .glyph "🎊"),
   (":balloon:", .glyph "🎈"), (":gift:", .glyph "🎁"), (":trophy:", .glyph "🏆"),
   (":medal_sports:", .glyph "🏅"), (":1st_place_medal:", .glyph "🥇"),
   (":warning:", .glyph "⚠️"), (":no_entry:", .glyph "⛔"), (":no_entry_sign:", .glyph "🚫"),
   (":x:", .glyph "❌"), (":heavy_check_mark:", .glyph "✔️"), (":white_check_mark:", .glyph "✅"),
   (":ballot_box_with_check:", .glyph "☑️"), (":heavy_plus_sign:", .glyph "➕"),
   (":heavy_minus_sign:", .glyph "➖"), (":question:", .glyph "❓"),
   (":grey_question:", .glyph "❔"), (":exclamation:", .glyph "❗"),
   (":heavy_exclamation_mark:", .glyph "❗"), (":bangbang:", .glyph "‼️"),
   (":information_source:", .glyph "ℹ️"), (":recycle:", .glyph "♻️"),
   (":copyright:", .glyph "©️"), (":registered:", .glyph "®️"), (":tm:", .glyph "™️"),
   (":arrow_up:", .glyph "⬆️"), (":arrow_down:", .glyph "⬇️"), (":arrow_left:", .glyph "⬅️"),
   (":arrow_right:", .glyph "➡️"), (":arrows_counterclockwise:", .glyph "🔄"),
   (":red_circle:", .glyph "🔴"), (":orange_circle:", .glyph "🟠"),
   (":yellow_circle:", .glyph "🟡"), (":green_circle:", .glyph "🟢"),
   (":large_blue_circle:", .glyph "🔵"), (":white_circle:", .glyph "⚪"),
   (":black_circle:", .glyph "⚫"), (":new:", .glyph "🆕"), (":free:", .glyph "🆓"),
   (":up:", .glyph "🆙"), (":cool:", .glyph "🆒"), (":ok:", .glyph "🆗"), (":sos:", .glyph "🆘")]

/-- Nature. -/
def nature : List (String × Emoji) :=
  [(":sunny:", .glyph "☀️"), (":cloud:", .glyph "☁️"), (":umbrella:", .glyph "☔"),
   (":snowflake:", .glyph "❄️"), (":rainbow:", .glyph "🌈"), (":ocean:", .glyph "🌊"),
   (":earth_africa:", .glyph "🌍"), (":earth_americas:", .glyph "🌎"),
   (":earth_asia:", .glyph "🌏"), (":globe_with_meridians:", .glyph "🌐"),
   (":crescent_moon:", .glyph "🌙"), (":seedling:", .glyph "🌱"),
   (":evergreen_tree:", .glyph "🌲"), (":deciduous_tree:", .glyph "🌳"), (":cactus:", .glyph "🌵"),
   (":herb:", .glyph "🌿"), (":four_leaf_clover:", .glyph "🍀"), (":maple_leaf:", .glyph "🍁"),
   (":fallen_leaf:", .glyph "🍂"), (":sunflower:", .glyph "🌻"), (":rose:", .glyph "🌹"),
   (":tulip:", .glyph "🌷"), (":cherry_blossom:", .glyph "🌸"), (":mushroom:", .glyph "🍄"),
   (":dog:", .glyph "🐶"), (":cat:", .glyph "🐱"), (":mouse:", .glyph "🐭"),
   (":rabbit:", .glyph "🐰"), (":fox_face:", .glyph "🦊"), (":bear:", .glyph "🐻"),
   (":panda_face:", .glyph "🐼"), (":koala:", .glyph "🐨"), (":tiger:", .glyph "🐯"),
   (":lion:", .glyph "🦁"), (":cow:", .glyph "🐮"), (":pig:", .glyph "🐷"), (":frog:", .glyph "🐸"),
   (":monkey_face:", .glyph "🐵"), (":chicken:", .glyph "🐔"), (":penguin:", .glyph "🐧"),
   (":bird:", .glyph "🐦"), (":owl:", .glyph "🦉"), (":eagle:", .glyph "🦅"),
   (":duck:", .glyph "🦆"), (":bee:", .glyph "🐝"), (":honeybee:", .glyph "🐝"),
   (":bug:", .glyph "🐛"), (":butterfly:", .glyph "🦋"), (":snail:", .glyph "🐌"),
   (":turtle:", .glyph "🐢"), (":snake:", .glyph "🐍"), (":crab:", .glyph "🦀"),
   (":octopus:", .glyph "🐙"), (":fish:", .glyph "🐟"), (":whale:", .glyph "🐳"),
   (":dolphin:", .glyph "🐬"), (":shark:", .glyph "🦈"), (":unicorn:", .glyph "🦄"),
   (":dragon:", .glyph "🐉"), (":sauropod:", .glyph "🦕"), (":t-rex:", .glyph "🦖")]

/-- Food. -/
def food : List (String × Emoji) :=
  [(":apple:", .glyph "🍎"), (":green_apple:", .glyph "🍏"), (":banana:", .glyph "🍌"),
   (":cherries:", .glyph "🍒"), (":strawberry:", .glyph "🍓"), (":grapes:", .glyph "🍇"),
   (":watermelon:", .glyph "🍉"), (":lemon:", .glyph "🍋"), (":peach:", .glyph "🍑"),
   (":avocado:", .glyph "🥑"), (":hot_pepper:", .glyph "🌶️"), (":corn:", .glyph "🌽"),
   (":bread:", .glyph "🍞"), (":cheese:", .glyph "🧀"), (":egg:", .glyph "🥚"),
   (":hamburger:", .glyph "🍔"), (":fries:", .glyph "🍟"), (":pizza:", .glyph "🍕"),
   (":taco:", .glyph "🌮"), (":burrito:", .glyph "🌯"), (":sushi:", .glyph "🍣"),
   (":ramen:", .glyph "🍜"), (":spaghetti:", .glyph "🍝"), (":popcorn:", .glyph "🍿"),
   (":doughnut:", .glyph "🍩"), (":cookie:", .glyph "🍪"), (":cake:", .glyph "🍰"),
   (":birthday:", .glyph "🎂"), (":chocolate_bar:", .glyph "🍫"), (":candy:", .glyph "🍬"),
   (":icecream:", .glyph "🍦"), (":coffee:", .glyph "☕"), (":tea:", .glyph "🍵"),
   (":beer:", .glyph "🍺"), (":beers:", .glyph "🍻"), (":wine_glass:", .glyph "🍷"),
   (":cocktail:", .glyph "🍸"), (":champagne:", .glyph "🍾")]

/-- Activities and travel. -/
def activities : List (String × Emoji) :=
  [(":soccer:", .glyph "⚽"), (":basketball:", .glyph "🏀"), (":football:", .glyph "🏈"),
   (":tennis:", .glyph "🎾"), (":video_game:", .glyph "🎮"), (":game_die:", .glyph "🎲"),
   (":dart:", .glyph "🎯"), (":art:", .glyph "🎨"), (":musical_note:", .glyph "🎵"),
   (":notes:", .glyph "🎶"), (":guitar:", .glyph "🎸"), (":microphone:", .glyph "🎤"),
   (":headphones:", .glyph "🎧"), (":movie_camera:", .glyph "🎥"), (":clapper:", .glyph "🎬"),
   (":rocket:", .glyph "🚀"), (":airplane:", .glyph "✈️"), (":car:", .glyph "🚗"),
   (":red_car:", .glyph "🚗"), (":bike:", .glyph "🚲"), (":ship:", .glyph "🚢"),
   (":train:", .glyph "🚋"), (":bus:", .glyph "🚌"), (":construction:", .glyph "🚧"),
   (":rotating_light:", .glyph "🚨"), (":checkered_flag:", .glyph "🏁"),
   (":triangular_flag_on_post:", .glyph "🚩"), (":house:", .glyph "🏠"), (":office:", .glyph "🏢"),
   (":hospital:", .glyph "🏥"), (":mountain:", .glyph "⛰️"), (":beach_umbrella:", .glyph "🏖️"),
   (":world_map:", .glyph "🗺️")]

/-- Objects. -/
def objects : List (String × Emoji) :=
  [(":watch:", .glyph "⌚"), (":iphone:", .glyph "📱"), (":computer:", .glyph "💻"),
   (":keyboard:", .glyph "⌨️"), (":desktop_computer:", .glyph "🖥️"), (":printer:", .glyph "🖨️"),
   (":floppy_disk:", .glyph "💾"), (":cd:", .glyph "💿"), (":camera:", .glyph "📷"),
   (":tv:", .glyph "📺"), (":radio:", .glyph "📻"), (":hourglass:", .glyph "⌛"),
   (":alarm_clock:", .glyph "⏰"), (":stopwatch:", .glyph "⏱️"), (":battery:", .glyph "🔋"),
   (":electric_plug:", .glyph "🔌"), (":bulb:", .glyph "💡"), (":flashlight:", .glyph "🔦"),
   (":candle:", .glyph "🕯️"), (":moneybag:", .glyph "💰"), (":dollar:", .glyph "💵"),
   (":credit_card:", .glyph "💳"), (":gem:", .glyph "💎"), (":wrench:", .glyph "🔧"),
   (":hammer:", .glyph "🔨"), (":hammer_and_wrench:", .glyph "🛠️"),
   (":nut_and_bolt:", .glyph "🔩"), (":gear:", .glyph "⚙️"), (":link:", .glyph "🔗"),
   (":paperclip:", .glyph "📎"), (":scissors:", .glyph "✂️"), (":lock:", .glyph "🔒"),
   (":unlock:", .glyph "🔓"), (":key:", .glyph "🔑"), (":shield:", .glyph "🛡️"),
   (":bell:", .glyph "🔔"), (":no_bell:", .glyph "🔕"), (":loudspeaker:", .glyph "📢"),
   (":mega:", .glyph "📣"), (":mag:", .glyph "🔍"), (":mag_right:", .glyph "🔎"),
   (":microscope:", .glyph "🔬"), (":telescope:", .glyph "🔭"), (":test_tube:", .glyph "🧪"),
   (":dna:", .glyph "🧬"), (":pill:", .glyph "💊"), (":syringe:", .glyph "💉"),
   (":package:", .glyph "📦"), (":mailbox:", .glyph "📫"), (":email:", .glyph "📧"),
   (":envelope:", .glyph "✉️"), (":inbox_tray:", .glyph "📥"), (":outbox_tray:", .glyph "📤"),
   (":memo:", .glyph "📝"), (":pencil:", .glyph "📝"), (":pencil2:", .glyph "✏️"),
   (":black_nib:", .glyph "✒️"), (":book:", .glyph "📖"), (":books:", .glyph "📚"),
   (":notebook:", .glyph "📓"), (":ledger:", .glyph "📒"), (":page_facing_up:", .glyph "📄"),
   (":scroll:", .glyph "📜"), (":bookmark:", .glyph "🔖"), (":label:", .glyph "🏷️"),
   (":calendar:", .glyph "📆"), (":date:", .glyph "📅"), (":clipboard:", .glyph "📋"),
   (":pushpin:", .glyph "📌"), (":round_pushpin:", .glyph "📍"),
   (":chart_with_upwards_trend:", .glyph "📈"), (":chart_with_downwards_trend:", .glyph "📉"),
   (":bar_chart:", .glyph "📊"), (":file_folder:", .glyph "📁"),
   (":open_file_folder:", .glyph "📂"), (":card_index_dividers:", .glyph "🗂️"),
   (":wastebasket:", .glyph "🗑️"), (":triangular_ruler:", .glyph "📐"),
   (":straight_ruler:", .glyph "📏"), (":lipstick:", .glyph "💄"), (":crown:", .glyph "👑"),
   (":tophat:", .glyph "🎩"), (":mortar_board:", .glyph "🎓"), (":eyeglasses:", .glyph "👓"),
   (":necktie:", .glyph "👔"), (":shirt:", .glyph "👕"), (":jeans:", .glyph "👖"),
   (":running_shirt_with_sash:", .glyph "🎽"), (":speech_balloon:", .glyph "💬"),
   (":thought_balloon:", .glyph "💭"), (":zzz:", .glyph "💤"),
   (":hourglass_flowing_sand:", .glyph "⏳"), (":white_flag:", .glyph "🏳️"),
   (":black_flag:", .glyph "🏴"), (":rainbow_flag:", .glyph "🏳️‍🌈"),
   (":triangular_flag:", .glyph "🚩"), (":heavy_dollar_sign:", .glyph "💲"),
   (":lock_with_ink_pen:", .glyph "🔏"), (":closed_lock_with_key:", .glyph "🔐"),
   (":building_construction:", .glyph "🏗️"), (":twisted_rightwards_arrows:", .glyph "🔀"),
   (":rewind:", .glyph "⏪"), (":fast_forward:", .glyph "⏩"), (":arrow_forward:", .glyph "▶️"),
   (":pause_button:", .glyph "⏸️"), (":stop_button:", .glyph "⏹️"),
   (":heavy_multiplication_x:", .glyph "✖️"), (":infinity:", .glyph "♾️"),
   (":pirate_flag:", .glyph "🏴‍☠️"), (":ambulance:", .glyph "🚑"),
   (":adhesive_bandage:", .glyph "🩹"), (":alembic:", .glyph "⚗️"), (":speaker:", .glyph "🔈"),
   (":mute:", .glyph "🔇"), (":children_crossing:", .glyph "🚸"),
   (":passport_control:", .glyph "🛂"), (":goal_net:", .glyph "🥅"),
   (":card_file_box:", .glyph "🗃️"), (":busts_in_silhouette:", .glyph "👥"),
   (":bust_in_silhouette:", .glyph "👤"), (":money_with_wings:", .glyph "💸"),
   (":globe:", .glyph "🌐"), (":coffin:", .glyph "⚰️"), (":bricks:", .glyph "🧱"),
   (":thread:", .glyph "🧵"), (":safety_vest:", .glyph "🦺"), (":monocle_face:", .glyph "🧐"),
   (":stethoscope:", .glyph "🩺"), (":compass:", .glyph "🧭")]

/-- Emoji without a glyph. -/
def pictures : List (String × Emoji) :=
  [(":atom:", .image "atom.png"), (":basecamp:", .image "basecamp.png"),
   (":basecampy:", .image "basecampy.png"), (":bowtie:", .image "bowtie.png"),
   (":dependabot:", .image "dependabot.png"), (":electron:", .image "electron.png"),
   (":feelsgood:", .image "feelsgood.png"), (":finnadie:", .image "finnadie.png"),
   (":fishsticks:", .image "fishsticks.png"), (":goberserk:", .image "goberserk.png"),
   (":godmode:", .image "godmode.png"), (":hurtrealbad:", .image "hurtrealbad.png"),
   (":neckbeard:", .image "neckbeard.png"), (":octocat:", .image "octocat.png"),
   (":rage1:", .image "rage1.png"), (":rage2:", .image "rage2.png"),
   (":rage3:", .image "rage3.png"), (":rage4:", .image "rage4.png"),
   (":shipit:", .image "shipit.png"), (":squirrel:", .image "shipit.png"),
   (":suspect:", .image "suspect.png"), (":trollface:", .image "trollface.png")]

/-- Every shortcode with its emoji. -/
def table : List (String × Emoji) :=
  smileys ++ people ++ symbols ++ nature ++ food ++ activities ++ objects ++ pictures

def lookup (code : String) : Option Emoji := table.lookup code

end MarkdownPreview.Emoji
