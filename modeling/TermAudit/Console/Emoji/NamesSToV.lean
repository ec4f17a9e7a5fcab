/-!
# `TermAudit.Console.Emoji.NamesSToV`: emoji by name, first letters `s` to `v`

Each name comes with the numbers of the code points of its emoji.
-/

set_option autoImplicit false

namespace TermAudit.Emoji

/-- The emoji whose names begin with `s` to `v`. -/
def namesSToV : List (String × List Nat) :=
  [("sa", [0x1F202]), ("sad_but_relieved_face", [0x1F625]), ("safety_pin", [0x1F9F7]),
   ("safety_vest", [0x1F9BA]), ("sagittarius", [0x2650]), ("sailboat", [0x26F5]),
   ("sake", [0x1F376]), ("salt", [0x1F9C2]), ("samoa", [0x1F1FC, 0x1F1F8]),
   ("san_marino", [0x1F1F8, 0x1F1F2]), ("sandal", [0x1F461]), ("sandwich", [0x1F96A]),
   ("santa", [0x1F385]), ("santa_claus", [0x1F385]),
   ("santa_claus_dark_skin_tone", [0x1F385, 0x1F3FF]),
   ("santa_claus_light_skin_tone", [0x1F385, 0x1F3FB]),
   ("santa_claus_medium-dark_skin_tone", [0x1F385, 0x1F3FE]),
   ("santa_claus_medium-light_skin_tone", [0x1F385, 0x1F3FC]),
   ("santa_claus_medium_skin_tone", [0x1F385, 0x1F3FD]), ("sari", [0x1F97B]),
   ("satellite", [0x1F4E1]), ("satellite_antenna", [0x1F4E1]), ("satisfied", [0x1F606]),
   ("saudi_arabia", [0x1F1F8, 0x1F1E6]), ("sauropod", [0x1F995]), ("saxophone", [0x1F3B7]),
   ("scales", [0x2696]), ("scarf", [0x1F9E3]), ("school", [0x1F3EB]),
   ("school_backpack", [0x1F392]), ("school_satchel", [0x1F392]), ("scissors", [0x2702]),
   ("scorpio", [0x264F]), ("scorpion", [0x1F982]), ("scorpius", [0x264F]),
   ("scotland", [0x1F3F4, 0xE0067, 0xE0062, 0xE0073, 0xE0063, 0xE0074, 0xE007F]),
   ("scream", [0x1F631]), ("scream_cat", [0x1F640]), ("scroll", [0x1F4DC]), ("seat", [0x1F4BA]),
   ("secret", [0x3299]), ("see-no-evil_monkey", [0x1F648]), ("see_no_evil", [0x1F648]),
   ("seedling", [0x1F331]), ("selfie", [0x1F933]), ("selfie_dark_skin_tone", [0x1F933, 0x1F3FF]),
   ("selfie_light_skin_tone", [0x1F933, 0x1F3FB]),
   ("selfie_medium-dark_skin_tone", [0x1F933, 0x1F3FE]),
   ("selfie_medium-light_skin_tone", [0x1F933, 0x1F3FC]),
   ("selfie_medium_skin_tone", [0x1F933, 0x1F3FD]), ("senegal", [0x1F1F8, 0x1F1F3]),
   ("serbia", [0x1F1F7, 0x1F1F8]), ("service_dog", [0x1F415, 0x200D, 0x1F9BA]),
   ("seven", [0x37, 0xFE0F, 0x20E3]), ("seven-thirty", [0x1F562]), ("seven_o’clock", [0x1F556]),
   ("seychelles", [0x1F1F8, 0x1F1E8]), ("shallow_pan_of_food", [0x1F958]), ("shamrock", [0x2618]),
   ("shark", [0x1F988]), ("shaved_ice", [0x1F367]), ("sheaf_of_rice", [0x1F33E]),
   ("sheep", [0x1F411]), ("shell", [0x1F41A]), ("shield", [0x1F6E1]), ("shinto_shrine", [0x26E9]),
   ("ship", [0x1F6A2]), ("shirt", [0x1F455]), ("shit", [0x1F4A9]), ("shoe", [0x1F45E]),
   ("shooting_star", [0x1F320]), ("shopping_bags", [0x1F6CD]), ("shopping_cart", [0x1F6D2]),
   ("shortcake", [0x1F370]), ("shorts", [0x1FA73]), ("shower", [0x1F6BF]), ("shrimp", [0x1F990]),
   ("shuffle_tracks_button", [0x1F500]), ("shushing_face", [0x1F92B]),
   ("sierra_leone", [0x1F1F8, 0x1F1F1]), ("sign_of_the_horns", [0x1F918]),
   ("sign_of_the_horns_dark_skin_tone", [0x1F918, 0x1F3FF]),
   ("sign_of_the_horns_light_skin_tone", [0x1F918, 0x1F3FB]),
   ("sign_of_the_horns_medium-dark_skin_tone", [0x1F918, 0x1F3FE]),
   ("sign_of_the_horns_medium-light_skin_tone", [0x1F918, 0x1F3FC]),
   ("sign_of_the_horns_medium_skin_tone", [0x1F918, 0x1F3FD]), ("signal_strength", [0x1F4F6]),
   ("singapore", [0x1F1F8, 0x1F1EC]), ("sint_maarten", [0x1F1F8, 0x1F1FD]),
   ("six", [0x36, 0xFE0F, 0x20E3]), ("six-thirty", [0x1F561]), ("six_o’clock", [0x1F555]),
   ("six_pointed_star", [0x1F52F]), ("skateboard", [0x1F6F9]), ("ski", [0x1F3BF]),
   ("skier", [0x26F7]), ("skis", [0x1F3BF]), ("skull", [0x1F480]),
   ("skull_and_crossbones", [0x2620]), ("skunk", [0x1F9A8]), ("sled", [0x1F6F7]),
   ("sleeping", [0x1F634]), ("sleeping_accommodation", [0x1F6CC]), ("sleeping_face", [0x1F634]),
   ("sleepy", [0x1F62A]), ("sleepy_face", [0x1F62A]), ("sleuth_or_spy", [0x1F575]),
   ("slightly_frowning_face", [0x1F641]), ("slightly_smiling_face", [0x1F642]),
   ("slot_machine", [0x1F3B0]), ("sloth", [0x1F9A5]), ("slovakia", [0x1F1F8, 0x1F1F0]),
   ("slovenia", [0x1F1F8, 0x1F1EE]), ("small_airplane", [0x1F6E9]),
   ("small_blue_diamond", [0x1F539]), ("small_orange_diamond", [0x1F538]),
   ("small_red_triangle", [0x1F53A]), ("small_red_triangle_down", [0x1F53B]), ("smile", [0x1F604]),
   ("smile_cat", [0x1F638]), ("smiley", [0x1F603]), ("smiley_cat", [0x1F63A]),
   ("smiling_cat_face_with_heart-eyes", [0x1F63B]), ("smiling_face", [0x263A]),
   ("smiling_face_with_3_hearts", [0x1F970]), ("smiling_face_with_halo", [0x1F607]),
   ("smiling_face_with_heart-eyes", [0x1F60D]), ("smiling_face_with_horns", [0x1F608]),
   ("smiling_face_with_smiling_eyes", [0x1F60A]), ("smiling_face_with_sunglasses", [0x1F60E]),
   ("smiling_imp", [0x1F608]), ("smirk", [0x1F60F]), ("smirk_cat", [0x1F63C]),
   ("smirking_face", [0x1F60F]), ("smoking", [0x1F6AC]), ("snail", [0x1F40C]), ("snake", [0x1F40D]),
   ("sneezing_face", [0x1F927]), ("snow-capped_mountain", [0x1F3D4]),
   ("snow_capped_mountain", [0x1F3D4]), ("snowboarder", [0x1F3C2]),
   ("snowboarder_dark_skin_tone", [0x1F3C2, 0x1F3FF]),
   ("snowboarder_light_skin_tone", [0x1F3C2, 0x1F3FB]),
   ("snowboarder_medium-dark_skin_tone", [0x1F3C2, 0x1F3FE]),
   ("snowboarder_medium-light_skin_tone", [0x1F3C2, 0x1F3FC]),
   ("snowboarder_medium_skin_tone", [0x1F3C2, 0x1F3FD]), ("snowflake", [0x2744]),
   ("snowman", [0x2603]), ("snowman_without_snow", [0x26C4]), ("soap", [0x1F9FC]),
   ("sob", [0x1F62D]), ("soccer", [0x26BD]), ("soccer_ball", [0x26BD]), ("socks", [0x1F9E6]),
   ("soft_ice_cream", [0x1F366]), ("softball", [0x1F94E]), ("solomon_islands", [0x1F1F8, 0x1F1E7]),
   ("somalia", [0x1F1F8, 0x1F1F4]), ("soon", [0x1F51C]), ("soon_arrow", [0x1F51C]),
   ("sos", [0x1F198]), ("sos_button", [0x1F198]), ("sound", [0x1F509]),
   ("south_africa", [0x1F1FF, 0x1F1E6]),
   ("south_georgia_&_south_sandwich_islands", [0x1F1EC, 0x1F1F8]),
   ("south_korea", [0x1F1F0, 0x1F1F7]), ("south_sudan", [0x1F1F8, 0x1F1F8]),
   ("space_invader", [0x1F47E]), ("spade_suit", [0x2660]), ("spades", [0x2660]),
   ("spaghetti", [0x1F35D]), ("spain", [0x1F1EA, 0x1F1F8]), ("sparkle", [0x2747]),
   ("sparkler", [0x1F387]), ("sparkles", [0x2728]), ("sparkling_heart", [0x1F496]),
   ("speak-no-evil_monkey", [0x1F64A]), ("speak_no_evil", [0x1F64A]), ("speaker", [0x1F508]),
   ("speaker_high_volume", [0x1F50A]), ("speaker_low_volume", [0x1F508]),
   ("speaker_medium_volume", [0x1F509]), ("speaking_head", [0x1F5E3]),
   ("speaking_head_in_silhouette", [0x1F5E3]), ("speech_balloon", [0x1F4AC]),
   ("speedboat", [0x1F6A4]), ("spider", [0x1F577]), ("spider_web", [0x1F578]),
   ("spiral_calendar", [0x1F5D3]), ("spiral_calendar_pad", [0x1F5D3]),
   ("spiral_note_pad", [0x1F5D2]), ("spiral_notepad", [0x1F5D2]), ("spiral_shell", [0x1F41A]),
   ("sponge", [0x1F9FD]), ("spoon", [0x1F944]), ("sport_utility_vehicle", [0x1F699]),
   ("sports_medal", [0x1F3C5]), ("spouting_whale", [0x1F433]), ("squid", [0x1F991]),
   ("squinting_face_with_tongue", [0x1F61D]), ("sri_lanka", [0x1F1F1, 0x1F1F0]),
   ("st._barthélemy", [0x1F1E7, 0x1F1F1]), ("st._helena", [0x1F1F8, 0x1F1ED]),
   ("st._kitts_&_nevis", [0x1F1F0, 0x1F1F3]), ("st._lucia", [0x1F1F1, 0x1F1E8]),
   ("st._martin", [0x1F1F2, 0x1F1EB]), ("st._pierre_&_miquelon", [0x1F1F5, 0x1F1F2]),
   ("st._vincent_&_grenadines", [0x1F1FB, 0x1F1E8]), ("stadium", [0x1F3DF]), ("star", [0x2B50]),
   ("star-struck", [0x1F929]), ("star2", [0x1F31F]), ("star_and_crescent", [0x262A]),
   ("star_of_david", [0x2721]), ("stars", [0x1F320]), ("station", [0x1F689]),
   ("statue_of_liberty", [0x1F5FD]), ("steam_locomotive", [0x1F682]), ("steaming_bowl", [0x1F35C]),
   ("stethoscope", [0x1FA7A]), ("stew", [0x1F372]), ("stop_button", [0x23F9]),
   ("stop_sign", [0x1F6D1]), ("stopwatch", [0x23F1]), ("straight_ruler", [0x1F4CF]),
   ("strawberry", [0x1F353]), ("stuck_out_tongue", [0x1F61B]),
   ("stuck_out_tongue_closed_eyes", [0x1F61D]), ("stuck_out_tongue_winking_eye", [0x1F61C]),
   ("studio_microphone", [0x1F399]), ("stuffed_flatbread", [0x1F959]),
   ("sudan", [0x1F1F8, 0x1F1E9]), ("sun", [0x2600]), ("sun_behind_cloud", [0x26C5]),
   ("sun_behind_large_cloud", [0x1F325]), ("sun_behind_rain_cloud", [0x1F326]),
   ("sun_behind_small_cloud", [0x1F324]), ("sun_with_face", [0x1F31E]), ("sunflower", [0x1F33B]),
   ("sunglasses", [0x1F60E]), ("sunny", [0x2600]), ("sunrise", [0x1F305]),
   ("sunrise_over_mountains", [0x1F304]), ("sunset", [0x1F307]), ("superhero", [0x1F9B8]),
   ("supervillain", [0x1F9B9]), ("surfer", [0x1F3C4]), ("suriname", [0x1F1F8, 0x1F1F7]),
   ("sushi", [0x1F363]), ("suspension_railway", [0x1F69F]),
   ("svalbard_&_jan_mayen", [0x1F1F8, 0x1F1EF]), ("swan", [0x1F9A2]),
   ("swaziland", [0x1F1F8, 0x1F1FF]), ("sweat", [0x1F613]), ("sweat_droplets", [0x1F4A6]),
   ("sweat_drops", [0x1F4A6]), ("sweat_smile", [0x1F605]), ("sweden", [0x1F1F8, 0x1F1EA]),
   ("sweet_potato", [0x1F360]), ("swimmer", [0x1F3CA]), ("switzerland", [0x1F1E8, 0x1F1ED]),
   ("symbols", [0x1F523]), ("synagogue", [0x1F54D]), ("syria", [0x1F1F8, 0x1F1FE]),
   ("syringe", [0x1F489]), ("são_tomé_&_príncipe", [0x1F1F8, 0x1F1F9]), ("t-rex", [0x1F996]),
   ("t-shirt", [0x1F455]), ("table_tennis_paddle_and_ball", [0x1F3D3]), ("taco", [0x1F32E]),
   ("tada", [0x1F389]), ("taiwan", [0x1F1F9, 0x1F1FC]), ("tajikistan", [0x1F1F9, 0x1F1EF]),
   ("takeout_box", [0x1F961]), ("tanabata_tree", [0x1F38B]), ("tangerine", [0x1F34A]),
   ("tanzania", [0x1F1F9, 0x1F1FF]), ("taurus", [0x2649]), ("taxi", [0x1F695]), ("tea", [0x1F375]),
   ("teacup_without_handle", [0x1F375]), ("tear-off_calendar", [0x1F4C6]),
   ("teddy_bear", [0x1F9F8]), ("telephone", [0x260E]), ("telephone_receiver", [0x1F4DE]),
   ("telescope", [0x1F52D]), ("television", [0x1F4FA]), ("ten", [0x1F51F]),
   ("ten-thirty", [0x1F565]), ("ten_o’clock", [0x1F559]), ("tennis", [0x1F3BE]), ("tent", [0x26FA]),
   ("test_tube", [0x1F9EA]), ("thailand", [0x1F1F9, 0x1F1ED]), ("thermometer", [0x1F321]),
   ("thinking_face", [0x1F914]), ("thought_balloon", [0x1F4AD]), ("thread", [0x1F9F5]),
   ("three", [0x33, 0xFE0F, 0x20E3]), ("three-thirty", [0x1F55E]),
   ("three_button_mouse", [0x1F5B1]), ("three_o’clock", [0x1F552]), ("thumbs_down", [0x1F44E]),
   ("thumbs_down_dark_skin_tone", [0x1F44E, 0x1F3FF]),
   ("thumbs_down_light_skin_tone", [0x1F44E, 0x1F3FB]),
   ("thumbs_down_medium-dark_skin_tone", [0x1F44E, 0x1F3FE]),
   ("thumbs_down_medium-light_skin_tone", [0x1F44E, 0x1F3FC]),
   ("thumbs_down_medium_skin_tone", [0x1F44E, 0x1F3FD]), ("thumbs_up", [0x1F44D]),
   ("thumbs_up_dark_skin_tone", [0x1F44D, 0x1F3FF]),
   ("thumbs_up_light_skin_tone", [0x1F44D, 0x1F3FB]),
   ("thumbs_up_medium-dark_skin_tone", [0x1F44D, 0x1F3FE]),
   ("thumbs_up_medium-light_skin_tone", [0x1F44D, 0x1F3FC]),
   ("thumbs_up_medium_skin_tone", [0x1F44D, 0x1F3FD]), ("thumbsdown", [0x1F44E]),
   ("thumbsup", [0x1F44D]), ("thunder_cloud_and_rain", [0x26C8]), ("ticket", [0x1F3AB]),
   ("tiger", [0x1F42F]), ("tiger2", [0x1F405]), ("tiger_face", [0x1F42F]),
   ("timer_clock", [0x23F2]), ("timor-leste", [0x1F1F9, 0x1F1F1]), ("tired_face", [0x1F62B]),
   ("tm", [0x2122]), ("togo", [0x1F1F9, 0x1F1EC]), ("toilet", [0x1F6BD]),
   ("tokelau", [0x1F1F9, 0x1F1F0]), ("tokyo_tower", [0x1F5FC]), ("tomato", [0x1F345]),
   ("tonga", [0x1F1F9, 0x1F1F4]), ("tongue", [0x1F445]), ("toolbox", [0x1F9F0]),
   ("tooth", [0x1F9B7]), ("top", [0x1F51D]), ("top_arrow", [0x1F51D]), ("top_hat", [0x1F3A9]),
   ("tophat", [0x1F3A9]), ("tornado", [0x1F32A]), ("trackball", [0x1F5B2]), ("tractor", [0x1F69C]),
   ("trade_mark", [0x2122]), ("traffic_light", [0x1F6A5]), ("train", [0x1F68B]),
   ("train2", [0x1F686]), ("tram", [0x1F68A]), ("tram_car", [0x1F68B]),
   ("triangular_flag", [0x1F6A9]), ("triangular_flag_on_post", [0x1F6A9]),
   ("triangular_ruler", [0x1F4D0]), ("trident", [0x1F531]), ("trident_emblem", [0x1F531]),
   ("trinidad_&_tobago", [0x1F1F9, 0x1F1F9]), ("tristan_da_cunha", [0x1F1F9, 0x1F1E6]),
   ("triumph", [0x1F624]), ("trolleybus", [0x1F68E]), ("trophy", [0x1F3C6]),
   ("tropical_drink", [0x1F379]), ("tropical_fish", [0x1F420]), ("truck", [0x1F69A]),
   ("trumpet", [0x1F3BA]), ("tshirt", [0x1F455]), ("tulip", [0x1F337]),
   ("tumbler_glass", [0x1F943]), ("tunisia", [0x1F1F9, 0x1F1F3]), ("turkey", [0x1F983]),
   ("turkmenistan", [0x1F1F9, 0x1F1F2]), ("turks_&_caicos_islands", [0x1F1F9, 0x1F1E8]),
   ("turtle", [0x1F422]), ("tuvalu", [0x1F1F9, 0x1F1FB]), ("tv", [0x1F4FA]),
   ("twelve-thirty", [0x1F567]), ("twelve_o’clock", [0x1F55B]),
   ("twisted_rightwards_arrows", [0x1F500]), ("two", [0x32, 0xFE0F, 0x20E3]),
   ("two-hump_camel", [0x1F42B]), ("two-thirty", [0x1F55D]), ("two_hearts", [0x1F495]),
   ("two_men_holding_hands", [0x1F46C]), ("two_o’clock", [0x1F551]),
   ("two_women_holding_hands", [0x1F46D]), ("u.s._outlying_islands", [0x1F1FA, 0x1F1F2]),
   ("u.s._virgin_islands", [0x1F1FB, 0x1F1EE]), ("u5272", [0x1F239]), ("u5408", [0x1F234]),
   ("u55b6", [0x1F23A]), ("u6307", [0x1F22F]), ("u6708", [0x1F237]), ("u6709", [0x1F236]),
   ("u6e80", [0x1F235]), ("u7121", [0x1F21A]), ("u7533", [0x1F238]), ("u7981", [0x1F232]),
   ("u7a7a", [0x1F233]), ("uganda", [0x1F1FA, 0x1F1EC]), ("ukraine", [0x1F1FA, 0x1F1E6]),
   ("umbrella", [0x2602]), ("umbrella_on_ground", [0x26F1]), ("umbrella_with_rain_drops", [0x2614]),
   ("unamused", [0x1F612]), ("unamused_face", [0x1F612]), ("underage", [0x1F51E]),
   ("unicorn_face", [0x1F984]), ("united_arab_emirates", [0x1F1E6, 0x1F1EA]),
   ("united_kingdom", [0x1F1EC, 0x1F1E7]), ("united_nations", [0x1F1FA, 0x1F1F3]),
   ("united_states", [0x1F1FA, 0x1F1F8]), ("unlock", [0x1F513]), ("unlocked", [0x1F513]),
   ("up", [0x1F199]), ("up!_button", [0x1F199]), ("up-down_arrow", [0x2195]),
   ("up-left_arrow", [0x2196]), ("up-right_arrow", [0x2197]), ("up_arrow", [0x2B06]),
   ("upside-down_face", [0x1F643]), ("upside__down_face", [0x1F643]), ("upwards_button", [0x1F53C]),
   ("uruguay", [0x1F1FA, 0x1F1FE]), ("uzbekistan", [0x1F1FA, 0x1F1FF]), ("v", [0x270C]),
   ("vampire", [0x1F9DB]), ("vampire_dark_skin_tone", [0x1F9DB, 0x1F3FF]),
   ("vampire_light_skin_tone", [0x1F9DB, 0x1F3FB]),
   ("vampire_medium-dark_skin_tone", [0x1F9DB, 0x1F3FE]),
   ("vampire_medium-light_skin_tone", [0x1F9DB, 0x1F3FC]),
   ("vampire_medium_skin_tone", [0x1F9DB, 0x1F3FD]), ("vanuatu", [0x1F1FB, 0x1F1FA]),
   ("vatican_city", [0x1F1FB, 0x1F1E6]), ("venezuela", [0x1F1FB, 0x1F1EA]),
   ("vertical_traffic_light", [0x1F6A6]), ("vhs", [0x1F4FC]), ("vibration_mode", [0x1F4F3]),
   ("victory_hand", [0x270C]), ("victory_hand_dark_skin_tone", [0x270C, 0x1F3FF]),
   ("victory_hand_light_skin_tone", [0x270C, 0x1F3FB]),
   ("victory_hand_medium-dark_skin_tone", [0x270C, 0x1F3FE]),
   ("victory_hand_medium-light_skin_tone", [0x270C, 0x1F3FC]),
   ("victory_hand_medium_skin_tone", [0x270C, 0x1F3FD]), ("video_camera", [0x1F4F9]),
   ("video_game", [0x1F3AE]), ("videocassette", [0x1F4FC]), ("vietnam", [0x1F1FB, 0x1F1F3]),
   ("violin", [0x1F3BB]), ("virgo", [0x264D]), ("volcano", [0x1F30B]), ("volleyball", [0x1F3D0]),
   ("vs", [0x1F19A]), ("vs_button", [0x1F19A]), ("vulcan_salute", [0x1F596]),
   ("vulcan_salute_dark_skin_tone", [0x1F596, 0x1F3FF]),
   ("vulcan_salute_light_skin_tone", [0x1F596, 0x1F3FB]),
   ("vulcan_salute_medium-dark_skin_tone", [0x1F596, 0x1F3FE]),
   ("vulcan_salute_medium-light_skin_tone", [0x1F596, 0x1F3FC]),
   ("vulcan_salute_medium_skin_tone", [0x1F596, 0x1F3FD])]

end TermAudit.Emoji
