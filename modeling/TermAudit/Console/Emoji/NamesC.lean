/-!
# `TermAudit.Console.Emoji.NamesC`: emoji by name, first letters `c`

Each name comes with the numbers of the code points of its emoji.
-/

set_option autoImplicit false

namespace TermAudit.Emoji

/-- The emoji whose names begin with `c`. -/
def namesC : List (String × List Nat) :=
  [("cactus", [0x1F335]), ("cake", [0x1F370]), ("calendar", [0x1F4C6]), ("call_me_hand", [0x1F919]),
   ("call_me_hand_dark_skin_tone", [0x1F919, 0x1F3FF]),
   ("call_me_hand_light_skin_tone", [0x1F919, 0x1F3FB]),
   ("call_me_hand_medium-dark_skin_tone", [0x1F919, 0x1F3FE]),
   ("call_me_hand_medium-light_skin_tone", [0x1F919, 0x1F3FC]),
   ("call_me_hand_medium_skin_tone", [0x1F919, 0x1F3FD]), ("calling", [0x1F4F2]),
   ("cambodia", [0x1F1F0, 0x1F1ED]), ("camel", [0x1F42B]), ("camera", [0x1F4F7]),
   ("camera_with_flash", [0x1F4F8]), ("cameroon", [0x1F1E8, 0x1F1F2]), ("camping", [0x1F3D5]),
   ("canada", [0x1F1E8, 0x1F1E6]), ("canary_islands", [0x1F1EE, 0x1F1E8]), ("cancer", [0x264B]),
   ("candle", [0x1F56F]), ("candy", [0x1F36C]), ("canned_food", [0x1F96B]), ("canoe", [0x1F6F6]),
   ("cape_verde", [0x1F1E8, 0x1F1FB]), ("capital_abcd", [0x1F520]), ("capricorn", [0x2651]),
   ("car", [0x1F697]), ("card_file_box", [0x1F5C3]), ("card_index", [0x1F4C7]),
   ("card_index_dividers", [0x1F5C2]), ("caribbean_netherlands", [0x1F1E7, 0x1F1F6]),
   ("carousel_horse", [0x1F3A0]), ("carp_streamer", [0x1F38F]), ("carrot", [0x1F955]),
   ("castle", [0x1F3F0]), ("cat", [0x1F431]), ("cat2", [0x1F408]), ("cat_face", [0x1F431]),
   ("cat_face_with_tears_of_joy", [0x1F639]), ("cat_face_with_wry_smile", [0x1F63C]),
   ("cayman_islands", [0x1F1F0, 0x1F1FE]), ("cd", [0x1F4BF]),
   ("central_african_republic", [0x1F1E8, 0x1F1EB]), ("ceuta_&_melilla", [0x1F1EA, 0x1F1E6]),
   ("chad", [0x1F1F9, 0x1F1E9]), ("chains", [0x26D3]), ("chair", [0x1FA91]), ("chart", [0x1F4B9]),
   ("chart_decreasing", [0x1F4C9]), ("chart_increasing", [0x1F4C8]),
   ("chart_increasing_with_yen", [0x1F4B9]), ("chart_with_downwards_trend", [0x1F4C9]),
   ("chart_with_upwards_trend", [0x1F4C8]), ("checkered_flag", [0x1F3C1]),
   ("cheese_wedge", [0x1F9C0]), ("chequered_flag", [0x1F3C1]), ("cherries", [0x1F352]),
   ("cherry_blossom", [0x1F338]), ("chess_pawn", [0x265F]), ("chestnut", [0x1F330]),
   ("chicken", [0x1F414]), ("child", [0x1F9D2]), ("child_dark_skin_tone", [0x1F9D2, 0x1F3FF]),
   ("child_light_skin_tone", [0x1F9D2, 0x1F3FB]),
   ("child_medium-dark_skin_tone", [0x1F9D2, 0x1F3FE]),
   ("child_medium-light_skin_tone", [0x1F9D2, 0x1F3FC]),
   ("child_medium_skin_tone", [0x1F9D2, 0x1F3FD]), ("children_crossing", [0x1F6B8]),
   ("chile", [0x1F1E8, 0x1F1F1]), ("china", [0x1F1E8, 0x1F1F3]), ("chipmunk", [0x1F43F]),
   ("chocolate_bar", [0x1F36B]), ("chopsticks", [0x1F962]),
   ("christmas_island", [0x1F1E8, 0x1F1FD]), ("christmas_tree", [0x1F384]), ("church", [0x26EA]),
   ("cigarette", [0x1F6AC]), ("cinema", [0x1F3A6]), ("circled_m", [0x24C2]),
   ("circus_tent", [0x1F3AA]), ("city_sunrise", [0x1F307]), ("city_sunset", [0x1F306]),
   ("cityscape", [0x1F3D9]), ("cityscape_at_dusk", [0x1F306]), ("cl", [0x1F191]),
   ("cl_button", [0x1F191]), ("clamp", [0x1F5DC]), ("clap", [0x1F44F]), ("clapper", [0x1F3AC]),
   ("clapper_board", [0x1F3AC]), ("clapping_hands", [0x1F44F]),
   ("clapping_hands_dark_skin_tone", [0x1F44F, 0x1F3FF]),
   ("clapping_hands_light_skin_tone", [0x1F44F, 0x1F3FB]),
   ("clapping_hands_medium-dark_skin_tone", [0x1F44F, 0x1F3FE]),
   ("clapping_hands_medium-light_skin_tone", [0x1F44F, 0x1F3FC]),
   ("clapping_hands_medium_skin_tone", [0x1F44F, 0x1F3FD]), ("classical_building", [0x1F3DB]),
   ("clinking_beer_mugs", [0x1F37B]), ("clinking_glasses", [0x1F942]), ("clipboard", [0x1F4CB]),
   ("clipperton_island", [0x1F1E8, 0x1F1F5]), ("clock1", [0x1F550]), ("clock10", [0x1F559]),
   ("clock1030", [0x1F565]), ("clock11", [0x1F55A]), ("clock1130", [0x1F566]),
   ("clock12", [0x1F55B]), ("clock1230", [0x1F567]), ("clock130", [0x1F55C]), ("clock2", [0x1F551]),
   ("clock230", [0x1F55D]), ("clock3", [0x1F552]), ("clock330", [0x1F55E]), ("clock4", [0x1F553]),
   ("clock430", [0x1F55F]), ("clock5", [0x1F554]), ("clock530", [0x1F560]), ("clock6", [0x1F555]),
   ("clock630", [0x1F561]), ("clock7", [0x1F556]), ("clock730", [0x1F562]), ("clock8", [0x1F557]),
   ("clock830", [0x1F563]), ("clock9", [0x1F558]), ("clock930", [0x1F564]),
   ("clockwise_vertical_arrows", [0x1F503]), ("closed_book", [0x1F4D5]),
   ("closed_lock_with_key", [0x1F510]), ("closed_mailbox_with_lowered_flag", [0x1F4EA]),
   ("closed_mailbox_with_raised_flag", [0x1F4EB]), ("closed_umbrella", [0x1F302]),
   ("cloud", [0x2601]), ("cloud_with_lightning", [0x1F329]),
   ("cloud_with_lightning_and_rain", [0x26C8]), ("cloud_with_rain", [0x1F327]),
   ("cloud_with_snow", [0x1F328]), ("cloud_with_tornado", [0x1F32A]), ("clown_face", [0x1F921]),
   ("club_suit", [0x2663]), ("clubs", [0x2663]), ("clutch_bag", [0x1F45D]), ("coat", [0x1F9E5]),
   ("cocktail", [0x1F378]), ("cocktail_glass", [0x1F378]), ("coconut", [0x1F965]),
   ("cocos_(keeling)_islands", [0x1F1E8, 0x1F1E8]), ("coffee", [0x2615]), ("coffin", [0x26B0]),
   ("cold_face", [0x1F976]), ("cold_sweat", [0x1F630]), ("collision", [0x1F4A5]),
   ("colombia", [0x1F1E8, 0x1F1F4]), ("comet", [0x2604]), ("comoros", [0x1F1F0, 0x1F1F2]),
   ("compass", [0x1F9ED]), ("compression", [0x1F5DC]), ("computer", [0x1F4BB]),
   ("computer_disk", [0x1F4BD]), ("computer_mouse", [0x1F5B1]), ("confetti_ball", [0x1F38A]),
   ("confounded", [0x1F616]), ("confounded_face", [0x1F616]), ("confused", [0x1F615]),
   ("confused_face", [0x1F615]), ("congo_-_brazzaville", [0x1F1E8, 0x1F1EC]),
   ("congo_-_kinshasa", [0x1F1E8, 0x1F1E9]), ("congratulations", [0x3297]),
   ("construction", [0x1F6A7]), ("construction_worker", [0x1F477]),
   ("construction_worker_dark_skin_tone", [0x1F477, 0x1F3FF]),
   ("construction_worker_light_skin_tone", [0x1F477, 0x1F3FB]),
   ("construction_worker_medium-dark_skin_tone", [0x1F477, 0x1F3FE]),
   ("construction_worker_medium-light_skin_tone", [0x1F477, 0x1F3FC]),
   ("construction_worker_medium_skin_tone", [0x1F477, 0x1F3FD]), ("control_knobs", [0x1F39B]),
   ("convenience_store", [0x1F3EA]), ("cook_islands", [0x1F1E8, 0x1F1F0]),
   ("cooked_rice", [0x1F35A]), ("cookie", [0x1F36A]), ("cooking", [0x1F373]), ("cool", [0x1F192]),
   ("cool_button", [0x1F192]), ("cop", [0x1F46E]), ("copyright", [0xA9]), ("corn", [0x1F33D]),
   ("costa_rica", [0x1F1E8, 0x1F1F7]), ("couch_and_lamp", [0x1F6CB]),
   ("counterclockwise_arrows_button", [0x1F504]), ("couple", [0x1F46B]),
   ("couple_with_heart", [0x1F491]),
   ("couple_with_heart_man_man", [0x1F468, 0x200D, 0x2764, 0xFE0F, 0x200D, 0x1F468]),
   ("couple_with_heart_woman_man", [0x1F469, 0x200D, 0x2764, 0xFE0F, 0x200D, 0x1F468]),
   ("couple_with_heart_woman_woman", [0x1F469, 0x200D, 0x2764, 0xFE0F, 0x200D, 0x1F469]),
   ("couplekiss", [0x1F48F]), ("cow", [0x1F42E]), ("cow2", [0x1F404]), ("cow_face", [0x1F42E]),
   ("cowboy_hat_face", [0x1F920]), ("crab", [0x1F980]), ("crayon", [0x1F58D]),
   ("credit_card", [0x1F4B3]), ("crescent_moon", [0x1F319]), ("cricket", [0x1F997]),
   ("cricket_bat_and_ball", [0x1F3CF]), ("cricket_game", [0x1F3CF]),
   ("croatia", [0x1F1ED, 0x1F1F7]), ("crocodile", [0x1F40A]), ("croissant", [0x1F950]),
   ("cross_mark", [0x274C]), ("cross_mark_button", [0x274E]), ("crossed_fingers", [0x1F91E]),
   ("crossed_fingers_dark_skin_tone", [0x1F91E, 0x1F3FF]),
   ("crossed_fingers_light_skin_tone", [0x1F91E, 0x1F3FB]),
   ("crossed_fingers_medium-dark_skin_tone", [0x1F91E, 0x1F3FE]),
   ("crossed_fingers_medium-light_skin_tone", [0x1F91E, 0x1F3FC]),
   ("crossed_fingers_medium_skin_tone", [0x1F91E, 0x1F3FD]), ("crossed_flags", [0x1F38C]),
   ("crossed_swords", [0x2694]), ("crown", [0x1F451]), ("cry", [0x1F622]),
   ("crying_cat_face", [0x1F63F]), ("crying_face", [0x1F622]), ("crystal_ball", [0x1F52E]),
   ("cuba", [0x1F1E8, 0x1F1FA]), ("cucumber", [0x1F952]), ("cup_with_straw", [0x1F964]),
   ("cupcake", [0x1F9C1]), ("cupid", [0x1F498]), ("curaçao", [0x1F1E8, 0x1F1FC]),
   ("curling_stone", [0x1F94C]), ("curly-haired_man", [0x1F468, 0x200D, 0x1F9B1]),
   ("curly-haired_woman", [0x1F469, 0x200D, 0x1F9B1]), ("curly_hair", [0x1F9B1]),
   ("curly_loop", [0x27B0]), ("currency_exchange", [0x1F4B1]), ("curry", [0x1F35B]),
   ("curry_rice", [0x1F35B]), ("custard", [0x1F36E]), ("customs", [0x1F6C3]),
   ("cut_of_meat", [0x1F969]), ("cyclone", [0x1F300]), ("cyprus", [0x1F1E8, 0x1F1FE]),
   ("czechia", [0x1F1E8, 0x1F1FF]), ("côte_d’ivoire", [0x1F1E8, 0x1F1EE])]

end TermAudit.Emoji
