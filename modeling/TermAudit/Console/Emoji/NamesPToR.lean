/-!
# `TermAudit.Console.Emoji.NamesPToR`: emoji by name, first letters `p` to `r`

Each name comes with the numbers of the code points of its emoji.
-/

set_option autoImplicit false

namespace TermAudit.Emoji

/-- The emoji whose names begin with `p`, `q` or `r`. -/
def namesPToR : List (String × List Nat) :=
  [("p_button", [0x1F17F]), ("package", [0x1F4E6]), ("page_facing_up", [0x1F4C4]),
   ("page_with_curl", [0x1F4C3]), ("pager", [0x1F4DF]), ("paintbrush", [0x1F58C]),
   ("pakistan", [0x1F1F5, 0x1F1F0]), ("palau", [0x1F1F5, 0x1F1FC]),
   ("palestinian_territories", [0x1F1F5, 0x1F1F8]), ("palm_tree", [0x1F334]),
   ("palms_up_together", [0x1F932]), ("palms_up_together_dark_skin_tone", [0x1F932, 0x1F3FF]),
   ("palms_up_together_light_skin_tone", [0x1F932, 0x1F3FB]),
   ("palms_up_together_medium-dark_skin_tone", [0x1F932, 0x1F3FE]),
   ("palms_up_together_medium-light_skin_tone", [0x1F932, 0x1F3FC]),
   ("palms_up_together_medium_skin_tone", [0x1F932, 0x1F3FD]), ("panama", [0x1F1F5, 0x1F1E6]),
   ("pancakes", [0x1F95E]), ("panda_face", [0x1F43C]), ("paperclip", [0x1F4CE]),
   ("papua_new_guinea", [0x1F1F5, 0x1F1EC]), ("paraguay", [0x1F1F5, 0x1F1FE]),
   ("parking", [0x1F17F]), ("parrot", [0x1F99C]), ("part_alternation_mark", [0x303D]),
   ("partly_sunny", [0x26C5]), ("party_popper", [0x1F389]), ("partying_face", [0x1F973]),
   ("passenger_ship", [0x1F6F3]), ("passport_control", [0x1F6C2]), ("pause_button", [0x23F8]),
   ("paw_prints", [0x1F43E]), ("peace_symbol", [0x262E]), ("peach", [0x1F351]),
   ("peacock", [0x1F99A]), ("peanuts", [0x1F95C]), ("pear", [0x1F350]), ("pen", [0x1F58A]),
   ("pencil", [0x1F4DD]), ("pencil2", [0x270F]), ("penguin", [0x1F427]), ("pensive", [0x1F614]),
   ("pensive_face", [0x1F614]),
   ("people_holding_hands", [0x1F9D1, 0x200D, 0x1F91D, 0x200D, 0x1F9D1]),
   ("people_with_bunny_ears", [0x1F46F]), ("people_wrestling", [0x1F93C]),
   ("performing_arts", [0x1F3AD]), ("persevere", [0x1F623]), ("persevering_face", [0x1F623]),
   ("person_biking", [0x1F6B4]), ("person_biking_dark_skin_tone", [0x1F6B4, 0x1F3FF]),
   ("person_biking_light_skin_tone", [0x1F6B4, 0x1F3FB]),
   ("person_biking_medium-dark_skin_tone", [0x1F6B4, 0x1F3FE]),
   ("person_biking_medium-light_skin_tone", [0x1F6B4, 0x1F3FC]),
   ("person_biking_medium_skin_tone", [0x1F6B4, 0x1F3FD]), ("person_bouncing_ball", [0x26F9]),
   ("person_bouncing_ball_dark_skin_tone", [0x26F9, 0x1F3FF]),
   ("person_bouncing_ball_light_skin_tone", [0x26F9, 0x1F3FB]),
   ("person_bouncing_ball_medium-dark_skin_tone", [0x26F9, 0x1F3FE]),
   ("person_bouncing_ball_medium-light_skin_tone", [0x26F9, 0x1F3FC]),
   ("person_bouncing_ball_medium_skin_tone", [0x26F9, 0x1F3FD]), ("person_bowing", [0x1F647]),
   ("person_bowing_dark_skin_tone", [0x1F647, 0x1F3FF]),
   ("person_bowing_light_skin_tone", [0x1F647, 0x1F3FB]),
   ("person_bowing_medium-dark_skin_tone", [0x1F647, 0x1F3FE]),
   ("person_bowing_medium-light_skin_tone", [0x1F647, 0x1F3FC]),
   ("person_bowing_medium_skin_tone", [0x1F647, 0x1F3FD]), ("person_cartwheeling", [0x1F938]),
   ("person_cartwheeling_dark_skin_tone", [0x1F938, 0x1F3FF]),
   ("person_cartwheeling_light_skin_tone", [0x1F938, 0x1F3FB]),
   ("person_cartwheeling_medium-dark_skin_tone", [0x1F938, 0x1F3FE]),
   ("person_cartwheeling_medium-light_skin_tone", [0x1F938, 0x1F3FC]),
   ("person_cartwheeling_medium_skin_tone", [0x1F938, 0x1F3FD]), ("person_climbing", [0x1F9D7]),
   ("person_climbing_dark_skin_tone", [0x1F9D7, 0x1F3FF]),
   ("person_climbing_light_skin_tone", [0x1F9D7, 0x1F3FB]),
   ("person_climbing_medium-dark_skin_tone", [0x1F9D7, 0x1F3FE]),
   ("person_climbing_medium-light_skin_tone", [0x1F9D7, 0x1F3FC]),
   ("person_climbing_medium_skin_tone", [0x1F9D7, 0x1F3FD]), ("person_facepalming", [0x1F926]),
   ("person_facepalming_dark_skin_tone", [0x1F926, 0x1F3FF]),
   ("person_facepalming_light_skin_tone", [0x1F926, 0x1F3FB]),
   ("person_facepalming_medium-dark_skin_tone", [0x1F926, 0x1F3FE]),
   ("person_facepalming_medium-light_skin_tone", [0x1F926, 0x1F3FC]),
   ("person_facepalming_medium_skin_tone", [0x1F926, 0x1F3FD]), ("person_fencing", [0x1F93A]),
   ("person_frowning", [0x1F64D]), ("person_frowning_dark_skin_tone", [0x1F64D, 0x1F3FF]),
   ("person_frowning_light_skin_tone", [0x1F64D, 0x1F3FB]),
   ("person_frowning_medium-dark_skin_tone", [0x1F64D, 0x1F3FE]),
   ("person_frowning_medium-light_skin_tone", [0x1F64D, 0x1F3FC]),
   ("person_frowning_medium_skin_tone", [0x1F64D, 0x1F3FD]), ("person_gesturing_no", [0x1F645]),
   ("person_gesturing_no_dark_skin_tone", [0x1F645, 0x1F3FF]),
   ("person_gesturing_no_light_skin_tone", [0x1F645, 0x1F3FB]),
   ("person_gesturing_no_medium-dark_skin_tone", [0x1F645, 0x1F3FE]),
   ("person_gesturing_no_medium-light_skin_tone", [0x1F645, 0x1F3FC]),
   ("person_gesturing_no_medium_skin_tone", [0x1F645, 0x1F3FD]), ("person_gesturing_ok", [0x1F646]),
   ("person_gesturing_ok_dark_skin_tone", [0x1F646, 0x1F3FF]),
   ("person_gesturing_ok_light_skin_tone", [0x1F646, 0x1F3FB]),
   ("person_gesturing_ok_medium-dark_skin_tone", [0x1F646, 0x1F3FE]),
   ("person_gesturing_ok_medium-light_skin_tone", [0x1F646, 0x1F3FC]),
   ("person_gesturing_ok_medium_skin_tone", [0x1F646, 0x1F3FD]),
   ("person_getting_haircut", [0x1F487]),
   ("person_getting_haircut_dark_skin_tone", [0x1F487, 0x1F3FF]),
   ("person_getting_haircut_light_skin_tone", [0x1F487, 0x1F3FB]),
   ("person_getting_haircut_medium-dark_skin_tone", [0x1F487, 0x1F3FE]),
   ("person_getting_haircut_medium-light_skin_tone", [0x1F487, 0x1F3FC]),
   ("person_getting_haircut_medium_skin_tone", [0x1F487, 0x1F3FD]),
   ("person_getting_massage", [0x1F486]),
   ("person_getting_massage_dark_skin_tone", [0x1F486, 0x1F3FF]),
   ("person_getting_massage_light_skin_tone", [0x1F486, 0x1F3FB]),
   ("person_getting_massage_medium-dark_skin_tone", [0x1F486, 0x1F3FE]),
   ("person_getting_massage_medium-light_skin_tone", [0x1F486, 0x1F3FC]),
   ("person_getting_massage_medium_skin_tone", [0x1F486, 0x1F3FD]), ("person_golfing", [0x1F3CC]),
   ("person_golfing_dark_skin_tone", [0x1F3CC, 0x1F3FF]),
   ("person_golfing_light_skin_tone", [0x1F3CC, 0x1F3FB]),
   ("person_golfing_medium-dark_skin_tone", [0x1F3CC, 0x1F3FE]),
   ("person_golfing_medium-light_skin_tone", [0x1F3CC, 0x1F3FC]),
   ("person_golfing_medium_skin_tone", [0x1F3CC, 0x1F3FD]), ("person_in_bed", [0x1F6CC]),
   ("person_in_bed_dark_skin_tone", [0x1F6CC, 0x1F3FF]),
   ("person_in_bed_light_skin_tone", [0x1F6CC, 0x1F3FB]),
   ("person_in_bed_medium-dark_skin_tone", [0x1F6CC, 0x1F3FE]),
   ("person_in_bed_medium-light_skin_tone", [0x1F6CC, 0x1F3FC]),
   ("person_in_bed_medium_skin_tone", [0x1F6CC, 0x1F3FD]), ("person_in_lotus_position", [0x1F9D8]),
   ("person_in_lotus_position_dark_skin_tone", [0x1F9D8, 0x1F3FF]),
   ("person_in_lotus_position_light_skin_tone", [0x1F9D8, 0x1F3FB]),
   ("person_in_lotus_position_medium-dark_skin_tone", [0x1F9D8, 0x1F3FE]),
   ("person_in_lotus_position_medium-light_skin_tone", [0x1F9D8, 0x1F3FC]),
   ("person_in_lotus_position_medium_skin_tone", [0x1F9D8, 0x1F3FD]),
   ("person_in_steamy_room", [0x1F9D6]),
   ("person_in_steamy_room_dark_skin_tone", [0x1F9D6, 0x1F3FF]),
   ("person_in_steamy_room_light_skin_tone", [0x1F9D6, 0x1F3FB]),
   ("person_in_steamy_room_medium-dark_skin_tone", [0x1F9D6, 0x1F3FE]),
   ("person_in_steamy_room_medium-light_skin_tone", [0x1F9D6, 0x1F3FC]),
   ("person_in_steamy_room_medium_skin_tone", [0x1F9D6, 0x1F3FD]), ("person_juggling", [0x1F939]),
   ("person_juggling_dark_skin_tone", [0x1F939, 0x1F3FF]),
   ("person_juggling_light_skin_tone", [0x1F939, 0x1F3FB]),
   ("person_juggling_medium-dark_skin_tone", [0x1F939, 0x1F3FE]),
   ("person_juggling_medium-light_skin_tone", [0x1F939, 0x1F3FC]),
   ("person_juggling_medium_skin_tone", [0x1F939, 0x1F3FD]), ("person_kneeling", [0x1F9CE]),
   ("person_lifting_weights", [0x1F3CB]),
   ("person_lifting_weights_dark_skin_tone", [0x1F3CB, 0x1F3FF]),
   ("person_lifting_weights_light_skin_tone", [0x1F3CB, 0x1F3FB]),
   ("person_lifting_weights_medium-dark_skin_tone", [0x1F3CB, 0x1F3FE]),
   ("person_lifting_weights_medium-light_skin_tone", [0x1F3CB, 0x1F3FC]),
   ("person_lifting_weights_medium_skin_tone", [0x1F3CB, 0x1F3FD]),
   ("person_mountain_biking", [0x1F6B5]),
   ("person_mountain_biking_dark_skin_tone", [0x1F6B5, 0x1F3FF]),
   ("person_mountain_biking_light_skin_tone", [0x1F6B5, 0x1F3FB]),
   ("person_mountain_biking_medium-dark_skin_tone", [0x1F6B5, 0x1F3FE]),
   ("person_mountain_biking_medium-light_skin_tone", [0x1F6B5, 0x1F3FC]),
   ("person_mountain_biking_medium_skin_tone", [0x1F6B5, 0x1F3FD]),
   ("person_playing_handball", [0x1F93E]),
   ("person_playing_handball_dark_skin_tone", [0x1F93E, 0x1F3FF]),
   ("person_playing_handball_light_skin_tone", [0x1F93E, 0x1F3FB]),
   ("person_playing_handball_medium-dark_skin_tone", [0x1F93E, 0x1F3FE]),
   ("person_playing_handball_medium-light_skin_tone", [0x1F93E, 0x1F3FC]),
   ("person_playing_handball_medium_skin_tone", [0x1F93E, 0x1F3FD]),
   ("person_playing_water_polo", [0x1F93D]),
   ("person_playing_water_polo_dark_skin_tone", [0x1F93D, 0x1F3FF]),
   ("person_playing_water_polo_light_skin_tone", [0x1F93D, 0x1F3FB]),
   ("person_playing_water_polo_medium-dark_skin_tone", [0x1F93D, 0x1F3FE]),
   ("person_playing_water_polo_medium-light_skin_tone", [0x1F93D, 0x1F3FC]),
   ("person_playing_water_polo_medium_skin_tone", [0x1F93D, 0x1F3FD]),
   ("person_pouting", [0x1F64E]), ("person_pouting_dark_skin_tone", [0x1F64E, 0x1F3FF]),
   ("person_pouting_light_skin_tone", [0x1F64E, 0x1F3FB]),
   ("person_pouting_medium-dark_skin_tone", [0x1F64E, 0x1F3FE]),
   ("person_pouting_medium-light_skin_tone", [0x1F64E, 0x1F3FC]),
   ("person_pouting_medium_skin_tone", [0x1F64E, 0x1F3FD]), ("person_raising_hand", [0x1F64B]),
   ("person_raising_hand_dark_skin_tone", [0x1F64B, 0x1F3FF]),
   ("person_raising_hand_light_skin_tone", [0x1F64B, 0x1F3FB]),
   ("person_raising_hand_medium-dark_skin_tone", [0x1F64B, 0x1F3FE]),
   ("person_raising_hand_medium-light_skin_tone", [0x1F64B, 0x1F3FC]),
   ("person_raising_hand_medium_skin_tone", [0x1F64B, 0x1F3FD]), ("person_rowing_boat", [0x1F6A3]),
   ("person_rowing_boat_dark_skin_tone", [0x1F6A3, 0x1F3FF]),
   ("person_rowing_boat_light_skin_tone", [0x1F6A3, 0x1F3FB]),
   ("person_rowing_boat_medium-dark_skin_tone", [0x1F6A3, 0x1F3FE]),
   ("person_rowing_boat_medium-light_skin_tone", [0x1F6A3, 0x1F3FC]),
   ("person_rowing_boat_medium_skin_tone", [0x1F6A3, 0x1F3FD]), ("person_running", [0x1F3C3]),
   ("person_running_dark_skin_tone", [0x1F3C3, 0x1F3FF]),
   ("person_running_light_skin_tone", [0x1F3C3, 0x1F3FB]),
   ("person_running_medium-dark_skin_tone", [0x1F3C3, 0x1F3FE]),
   ("person_running_medium-light_skin_tone", [0x1F3C3, 0x1F3FC]),
   ("person_running_medium_skin_tone", [0x1F3C3, 0x1F3FD]), ("person_shrugging", [0x1F937]),
   ("person_shrugging_dark_skin_tone", [0x1F937, 0x1F3FF]),
   ("person_shrugging_light_skin_tone", [0x1F937, 0x1F3FB]),
   ("person_shrugging_medium-dark_skin_tone", [0x1F937, 0x1F3FE]),
   ("person_shrugging_medium-light_skin_tone", [0x1F937, 0x1F3FC]),
   ("person_shrugging_medium_skin_tone", [0x1F937, 0x1F3FD]), ("person_standing", [0x1F9CD]),
   ("person_surfing", [0x1F3C4]), ("person_surfing_dark_skin_tone", [0x1F3C4, 0x1F3FF]),
   ("person_surfing_light_skin_tone", [0x1F3C4, 0x1F3FB]),
   ("person_surfing_medium-dark_skin_tone", [0x1F3C4, 0x1F3FE]),
   ("person_surfing_medium-light_skin_tone", [0x1F3C4, 0x1F3FC]),
   ("person_surfing_medium_skin_tone", [0x1F3C4, 0x1F3FD]), ("person_swimming", [0x1F3CA]),
   ("person_swimming_dark_skin_tone", [0x1F3CA, 0x1F3FF]),
   ("person_swimming_light_skin_tone", [0x1F3CA, 0x1F3FB]),
   ("person_swimming_medium-dark_skin_tone", [0x1F3CA, 0x1F3FE]),
   ("person_swimming_medium-light_skin_tone", [0x1F3CA, 0x1F3FC]),
   ("person_swimming_medium_skin_tone", [0x1F3CA, 0x1F3FD]), ("person_taking_bath", [0x1F6C0]),
   ("person_taking_bath_dark_skin_tone", [0x1F6C0, 0x1F3FF]),
   ("person_taking_bath_light_skin_tone", [0x1F6C0, 0x1F3FB]),
   ("person_taking_bath_medium-dark_skin_tone", [0x1F6C0, 0x1F3FE]),
   ("person_taking_bath_medium-light_skin_tone", [0x1F6C0, 0x1F3FC]),
   ("person_taking_bath_medium_skin_tone", [0x1F6C0, 0x1F3FD]), ("person_tipping_hand", [0x1F481]),
   ("person_tipping_hand_dark_skin_tone", [0x1F481, 0x1F3FF]),
   ("person_tipping_hand_light_skin_tone", [0x1F481, 0x1F3FB]),
   ("person_tipping_hand_medium-dark_skin_tone", [0x1F481, 0x1F3FE]),
   ("person_tipping_hand_medium-light_skin_tone", [0x1F481, 0x1F3FC]),
   ("person_tipping_hand_medium_skin_tone", [0x1F481, 0x1F3FD]), ("person_walking", [0x1F6B6]),
   ("person_walking_dark_skin_tone", [0x1F6B6, 0x1F3FF]),
   ("person_walking_light_skin_tone", [0x1F6B6, 0x1F3FB]),
   ("person_walking_medium-dark_skin_tone", [0x1F6B6, 0x1F3FE]),
   ("person_walking_medium-light_skin_tone", [0x1F6B6, 0x1F3FC]),
   ("person_walking_medium_skin_tone", [0x1F6B6, 0x1F3FD]), ("person_wearing_turban", [0x1F473]),
   ("person_wearing_turban_dark_skin_tone", [0x1F473, 0x1F3FF]),
   ("person_wearing_turban_light_skin_tone", [0x1F473, 0x1F3FB]),
   ("person_wearing_turban_medium-dark_skin_tone", [0x1F473, 0x1F3FE]),
   ("person_wearing_turban_medium-light_skin_tone", [0x1F473, 0x1F3FC]),
   ("person_wearing_turban_medium_skin_tone", [0x1F473, 0x1F3FD]), ("person_with_ball", [0x26F9]),
   ("person_with_blond_hair", [0x1F471]), ("person_with_pouting_face", [0x1F64E]),
   ("peru", [0x1F1F5, 0x1F1EA]), ("petri_dish", [0x1F9EB]), ("philippines", [0x1F1F5, 0x1F1ED]),
   ("phone", [0x260E]), ("pick", [0x26CF]), ("pie", [0x1F967]), ("pig", [0x1F437]),
   ("pig2", [0x1F416]), ("pig_face", [0x1F437]), ("pig_nose", [0x1F43D]),
   ("pile_of_poo", [0x1F4A9]), ("pill", [0x1F48A]), ("pinching_hand", [0x1F90F]),
   ("pine_decoration", [0x1F38D]), ("pineapple", [0x1F34D]), ("ping_pong", [0x1F3D3]),
   ("pirate_flag", [0x1F3F4, 0x200D, 0x2620, 0xFE0F]), ("pisces", [0x2653]), ("pistol", [0x1F52B]),
   ("pitcairn_islands", [0x1F1F5, 0x1F1F3]), ("pizza", [0x1F355]), ("place_of_worship", [0x1F6D0]),
   ("play_button", [0x25B6]), ("play_or_pause_button", [0x23EF]), ("pleading_face", [0x1F97A]),
   ("point_down", [0x1F447]), ("point_left", [0x1F448]), ("point_right", [0x1F449]),
   ("point_up", [0x261D]), ("point_up_2", [0x1F446]), ("poland", [0x1F1F5, 0x1F1F1]),
   ("police_car", [0x1F693]), ("police_car_light", [0x1F6A8]), ("police_officer", [0x1F46E]),
   ("police_officer_dark_skin_tone", [0x1F46E, 0x1F3FF]),
   ("police_officer_light_skin_tone", [0x1F46E, 0x1F3FB]),
   ("police_officer_medium-dark_skin_tone", [0x1F46E, 0x1F3FE]),
   ("police_officer_medium-light_skin_tone", [0x1F46E, 0x1F3FC]),
   ("police_officer_medium_skin_tone", [0x1F46E, 0x1F3FD]), ("poodle", [0x1F429]),
   ("pool_8_ball", [0x1F3B1]), ("poop", [0x1F4A9]), ("popcorn", [0x1F37F]),
   ("portugal", [0x1F1F5, 0x1F1F9]), ("post_office", [0x1F3E3]), ("postal_horn", [0x1F4EF]),
   ("postbox", [0x1F4EE]), ("pot_of_food", [0x1F372]), ("potable_water", [0x1F6B0]),
   ("potato", [0x1F954]), ("pouch", [0x1F45D]), ("poultry_leg", [0x1F357]), ("pound", [0x1F4B7]),
   ("pound_banknote", [0x1F4B7]), ("pouting_cat", [0x1F63E]), ("pouting_cat_face", [0x1F63E]),
   ("pouting_face", [0x1F621]), ("pray", [0x1F64F]), ("prayer_beads", [0x1F4FF]),
   ("pregnant_woman", [0x1F930]), ("pregnant_woman_dark_skin_tone", [0x1F930, 0x1F3FF]),
   ("pregnant_woman_light_skin_tone", [0x1F930, 0x1F3FB]),
   ("pregnant_woman_medium-dark_skin_tone", [0x1F930, 0x1F3FE]),
   ("pregnant_woman_medium-light_skin_tone", [0x1F930, 0x1F3FC]),
   ("pregnant_woman_medium_skin_tone", [0x1F930, 0x1F3FD]), ("pretzel", [0x1F968]),
   ("prince", [0x1F934]), ("prince_dark_skin_tone", [0x1F934, 0x1F3FF]),
   ("prince_light_skin_tone", [0x1F934, 0x1F3FB]),
   ("prince_medium-dark_skin_tone", [0x1F934, 0x1F3FE]),
   ("prince_medium-light_skin_tone", [0x1F934, 0x1F3FC]),
   ("prince_medium_skin_tone", [0x1F934, 0x1F3FD]), ("princess", [0x1F478]),
   ("princess_dark_skin_tone", [0x1F478, 0x1F3FF]),
   ("princess_light_skin_tone", [0x1F478, 0x1F3FB]),
   ("princess_medium-dark_skin_tone", [0x1F478, 0x1F3FE]),
   ("princess_medium-light_skin_tone", [0x1F478, 0x1F3FC]),
   ("princess_medium_skin_tone", [0x1F478, 0x1F3FD]), ("printer", [0x1F5A8]),
   ("probing_cane", [0x1F9AF]), ("prohibited", [0x1F6AB]), ("puerto_rico", [0x1F1F5, 0x1F1F7]),
   ("punch", [0x1F44A]), ("purple_circle", [0x1F7E3]), ("purple_heart", [0x1F49C]),
   ("purple_square", [0x1F7EA]), ("purse", [0x1F45B]), ("pushpin", [0x1F4CC]),
   ("put_litter_in_its_place", [0x1F6AE]), ("qatar", [0x1F1F6, 0x1F1E6]), ("question", [0x2753]),
   ("question_mark", [0x2753]), ("rabbit", [0x1F430]), ("rabbit2", [0x1F407]),
   ("rabbit_face", [0x1F430]), ("raccoon", [0x1F99D]), ("racehorse", [0x1F40E]),
   ("racing_car", [0x1F3CE]), ("racing_motorcycle", [0x1F3CD]), ("radio", [0x1F4FB]),
   ("radio_button", [0x1F518]), ("radioactive", [0x2622]), ("radioactive_sign", [0x2622]),
   ("rage", [0x1F621]), ("railway_car", [0x1F683]), ("railway_track", [0x1F6E4]),
   ("rainbow", [0x1F308]), ("rainbow_flag", [0x1F3F3, 0xFE0F, 0x200D, 0x1F308]),
   ("raised_back_of_hand", [0x1F91A]), ("raised_back_of_hand_dark_skin_tone", [0x1F91A, 0x1F3FF]),
   ("raised_back_of_hand_light_skin_tone", [0x1F91A, 0x1F3FB]),
   ("raised_back_of_hand_medium-dark_skin_tone", [0x1F91A, 0x1F3FE]),
   ("raised_back_of_hand_medium-light_skin_tone", [0x1F91A, 0x1F3FC]),
   ("raised_back_of_hand_medium_skin_tone", [0x1F91A, 0x1F3FD]), ("raised_fist", [0x270A]),
   ("raised_fist_dark_skin_tone", [0x270A, 0x1F3FF]),
   ("raised_fist_light_skin_tone", [0x270A, 0x1F3FB]),
   ("raised_fist_medium-dark_skin_tone", [0x270A, 0x1F3FE]),
   ("raised_fist_medium-light_skin_tone", [0x270A, 0x1F3FC]),
   ("raised_fist_medium_skin_tone", [0x270A, 0x1F3FD]), ("raised_hand", [0x270B]),
   ("raised_hand_dark_skin_tone", [0x270B, 0x1F3FF]),
   ("raised_hand_light_skin_tone", [0x270B, 0x1F3FB]),
   ("raised_hand_medium-dark_skin_tone", [0x270B, 0x1F3FE]),
   ("raised_hand_medium-light_skin_tone", [0x270B, 0x1F3FC]),
   ("raised_hand_medium_skin_tone", [0x270B, 0x1F3FD]),
   ("raised_hand_with_fingers_splayed", [0x1F590]),
   ("raised_hand_with_part_between_middle_and_ring_fingers", [0x1F596]),
   ("raised_hands", [0x1F64C]), ("raising_hand", [0x1F64B]), ("raising_hands", [0x1F64C]),
   ("raising_hands_dark_skin_tone", [0x1F64C, 0x1F3FF]),
   ("raising_hands_light_skin_tone", [0x1F64C, 0x1F3FB]),
   ("raising_hands_medium-dark_skin_tone", [0x1F64C, 0x1F3FE]),
   ("raising_hands_medium-light_skin_tone", [0x1F64C, 0x1F3FC]),
   ("raising_hands_medium_skin_tone", [0x1F64C, 0x1F3FD]), ("ram", [0x1F40F]), ("ramen", [0x1F35C]),
   ("rat", [0x1F400]), ("razor", [0x1FA92]), ("receipt", [0x1F9FE]), ("record_button", [0x23FA]),
   ("recycle", [0x267B]), ("recycling_symbol", [0x267B]),
   ("red-haired_man", [0x1F468, 0x200D, 0x1F9B0]), ("red-haired_woman", [0x1F469, 0x200D, 0x1F9B0]),
   ("red_apple", [0x1F34E]), ("red_car", [0x1F697]), ("red_circle", [0x1F534]),
   ("red_envelope", [0x1F9E7]), ("red_hair", [0x1F9B0]), ("red_heart", [0x2764]),
   ("red_paper_lantern", [0x1F3EE]), ("red_square", [0x1F7E5]),
   ("red_triangle_pointed_down", [0x1F53B]), ("red_triangle_pointed_up", [0x1F53A]),
   ("regional_indicator_a", [0x1F1E6]), ("regional_indicator_b", [0x1F1E7]),
   ("regional_indicator_c", [0x1F1E8]), ("regional_indicator_d", [0x1F1E9]),
   ("regional_indicator_e", [0x1F1EA]), ("regional_indicator_f", [0x1F1EB]),
   ("regional_indicator_g", [0x1F1EC]), ("regional_indicator_h", [0x1F1ED]),
   ("regional_indicator_i", [0x1F1EE]), ("regional_indicator_j", [0x1F1EF]),
   ("regional_indicator_k", [0x1F1F0]), ("regional_indicator_l", [0x1F1F1]),
   ("regional_indicator_m", [0x1F1F2]), ("regional_indicator_n", [0x1F1F3]),
   ("regional_indicator_o", [0x1F1F4]), ("regional_indicator_p", [0x1F1F5]),
   ("regional_indicator_q", [0x1F1F6]), ("regional_indicator_r", [0x1F1F7]),
   ("regional_indicator_s", [0x1F1F8]), ("regional_indicator_symbol_letter_a", [0x1F1E6]),
   ("regional_indicator_symbol_letter_b", [0x1F1E7]),
   ("regional_indicator_symbol_letter_c", [0x1F1E8]),
   ("regional_indicator_symbol_letter_d", [0x1F1E9]),
   ("regional_indicator_symbol_letter_e", [0x1F1EA]),
   ("regional_indicator_symbol_letter_f", [0x1F1EB]),
   ("regional_indicator_symbol_letter_g", [0x1F1EC]),
   ("regional_indicator_symbol_letter_h", [0x1F1ED]),
   ("regional_indicator_symbol_letter_i", [0x1F1EE]),
   ("regional_indicator_symbol_letter_j", [0x1F1EF]),
   ("regional_indicator_symbol_letter_k", [0x1F1F0]),
   ("regional_indicator_symbol_letter_l", [0x1F1F1]),
   ("regional_indicator_symbol_letter_m", [0x1F1F2]),
   ("regional_indicator_symbol_letter_n", [0x1F1F3]),
   ("regional_indicator_symbol_letter_o", [0x1F1F4]),
   ("regional_indicator_symbol_letter_p", [0x1F1F5]),
   ("regional_indicator_symbol_letter_q", [0x1F1F6]),
   ("regional_indicator_symbol_letter_r", [0x1F1F7]),
   ("regional_indicator_symbol_letter_s", [0x1F1F8]),
   ("regional_indicator_symbol_letter_t", [0x1F1F9]),
   ("regional_indicator_symbol_letter_u", [0x1F1FA]),
   ("regional_indicator_symbol_letter_v", [0x1F1FB]),
   ("regional_indicator_symbol_letter_w", [0x1F1FC]),
   ("regional_indicator_symbol_letter_x", [0x1F1FD]),
   ("regional_indicator_symbol_letter_y", [0x1F1FE]),
   ("regional_indicator_symbol_letter_z", [0x1F1FF]), ("regional_indicator_t", [0x1F1F9]),
   ("regional_indicator_u", [0x1F1FA]), ("regional_indicator_v", [0x1F1FB]),
   ("regional_indicator_w", [0x1F1FC]), ("regional_indicator_x", [0x1F1FD]),
   ("regional_indicator_y", [0x1F1FE]), ("regional_indicator_z", [0x1F1FF]), ("registered", [0xAE]),
   ("relaxed", [0x263A]), ("relieved", [0x1F60C]), ("relieved_face", [0x1F60C]),
   ("reminder_ribbon", [0x1F397]), ("repeat", [0x1F501]), ("repeat_button", [0x1F501]),
   ("repeat_one", [0x1F502]), ("repeat_single_button", [0x1F502]),
   ("rescue_worker’s_helmet", [0x26D1]), ("restroom", [0x1F6BB]), ("reverse_button", [0x25C0]),
   ("reversed_hand_with_middle_finger_extended", [0x1F595]), ("revolving_hearts", [0x1F49E]),
   ("rewind", [0x23EA]), ("rhinoceros", [0x1F98F]), ("ribbon", [0x1F380]), ("rice", [0x1F35A]),
   ("rice_ball", [0x1F359]), ("rice_cracker", [0x1F358]), ("rice_scene", [0x1F391]),
   ("right-facing_fist", [0x1F91C]), ("right-facing_fist_dark_skin_tone", [0x1F91C, 0x1F3FF]),
   ("right-facing_fist_light_skin_tone", [0x1F91C, 0x1F3FB]),
   ("right-facing_fist_medium-dark_skin_tone", [0x1F91C, 0x1F3FE]),
   ("right-facing_fist_medium-light_skin_tone", [0x1F91C, 0x1F3FC]),
   ("right-facing_fist_medium_skin_tone", [0x1F91C, 0x1F3FD]), ("right_anger_bubble", [0x1F5EF]),
   ("right_arrow", [0x27A1]), ("right_arrow_curving_down", [0x2935]),
   ("right_arrow_curving_left", [0x21A9]), ("right_arrow_curving_up", [0x2934]),
   ("ring", [0x1F48D]), ("ringed_planet", [0x1FA90]), ("roasted_sweet_potato", [0x1F360]),
   ("robot", [0x1F916]), ("robot_face", [0x1F916]), ("rocket", [0x1F680]),
   ("roll_of_paper", [0x1F9FB]), ("rolled-up_newspaper", [0x1F5DE]),
   ("rolled__up_newspaper", [0x1F5DE]), ("roller_coaster", [0x1F3A2]),
   ("rolling_on_the_floor_laughing", [0x1F923]), ("romania", [0x1F1F7, 0x1F1F4]),
   ("rooster", [0x1F413]), ("rose", [0x1F339]), ("rosette", [0x1F3F5]),
   ("rotating_light", [0x1F6A8]), ("round_pushpin", [0x1F4CD]), ("rowboat", [0x1F6A3]),
   ("rugby_football", [0x1F3C9]), ("runner", [0x1F3C3]), ("running", [0x1F3C3]),
   ("running_shirt", [0x1F3BD]), ("running_shirt_with_sash", [0x1F3BD]),
   ("running_shoe", [0x1F45F]), ("russia", [0x1F1F7, 0x1F1FA]), ("rwanda", [0x1F1F7, 0x1F1FC]),
   ("réunion", [0x1F1F7, 0x1F1EA])]

end TermAudit.Emoji
