/-!
# `TermAudit.Console.Emoji.NamesAToB`: emoji by name, first letters up to `b`

Each name comes with the numbers of the code points of its emoji.
-/

set_option autoImplicit false

namespace TermAudit.Emoji

/-- The emoji whose names begin with a digit, a sign, `a`, `å` or `b`. -/
def namesAToB : List (String × List Nat) :=
  [("+1", [0x1F44D]), ("-1", [0x1F44E]), ("100", [0x1F4AF]), ("1234", [0x1F522]),
   ("1st_place_medal", [0x1F947]), ("2nd_place_medal", [0x1F948]), ("3rd_place_medal", [0x1F949]),
   ("8ball", [0x1F3B1]), ("__1", [0x1F44E]), ("åland_islands", [0x1F1E6, 0x1F1FD]),
   ("a", [0x1F170]), ("a_button_(blood_type)", [0x1F170]), ("ab", [0x1F18E]),
   ("ab_button_(blood_type)", [0x1F18E]), ("abacus", [0x1F9EE]), ("abc", [0x1F524]),
   ("abcd", [0x1F521]), ("accept", [0x1F251]), ("adhesive_bandage", [0x1FA79]),
   ("admission_tickets", [0x1F39F]), ("adult", [0x1F9D1]),
   ("adult_dark_skin_tone", [0x1F9D1, 0x1F3FF]), ("adult_light_skin_tone", [0x1F9D1, 0x1F3FB]),
   ("adult_medium-dark_skin_tone", [0x1F9D1, 0x1F3FE]),
   ("adult_medium-light_skin_tone", [0x1F9D1, 0x1F3FC]),
   ("adult_medium_skin_tone", [0x1F9D1, 0x1F3FD]), ("aerial_tramway", [0x1F6A1]),
   ("afghanistan", [0x1F1E6, 0x1F1EB]), ("airplane", [0x2708]), ("airplane_arrival", [0x1F6EC]),
   ("airplane_arriving", [0x1F6EC]), ("airplane_departure", [0x1F6EB]), ("alarm_clock", [0x23F0]),
   ("albania", [0x1F1E6, 0x1F1F1]), ("alembic", [0x2697]), ("algeria", [0x1F1E9, 0x1F1FF]),
   ("alien", [0x1F47D]), ("alien_monster", [0x1F47E]), ("ambulance", [0x1F691]),
   ("american_football", [0x1F3C8]), ("american_samoa", [0x1F1E6, 0x1F1F8]), ("amphora", [0x1F3FA]),
   ("anchor", [0x2693]), ("andorra", [0x1F1E6, 0x1F1E9]), ("angel", [0x1F47C]),
   ("anger", [0x1F4A2]), ("anger_symbol", [0x1F4A2]), ("angola", [0x1F1E6, 0x1F1F4]),
   ("angry", [0x1F620]), ("angry_face", [0x1F620]), ("angry_face_with_horns", [0x1F47F]),
   ("anguilla", [0x1F1E6, 0x1F1EE]), ("anguished", [0x1F627]), ("anguished_face", [0x1F627]),
   ("ant", [0x1F41C]), ("antarctica", [0x1F1E6, 0x1F1F6]), ("antenna_bars", [0x1F4F6]),
   ("antigua_&_barbuda", [0x1F1E6, 0x1F1EC]), ("anxious_face_with_sweat", [0x1F630]),
   ("apple", [0x1F34E]), ("aquarius", [0x2652]), ("argentina", [0x1F1E6, 0x1F1F7]),
   ("aries", [0x2648]), ("armenia", [0x1F1E6, 0x1F1F2]), ("arrow_backward", [0x25C0]),
   ("arrow_double_down", [0x23EC]), ("arrow_double_up", [0x23EB]), ("arrow_down", [0x2B07]),
   ("arrow_down_small", [0x1F53D]), ("arrow_forward", [0x25B6]), ("arrow_heading_down", [0x2935]),
   ("arrow_heading_up", [0x2934]), ("arrow_left", [0x2B05]), ("arrow_lower_left", [0x2199]),
   ("arrow_lower_right", [0x2198]), ("arrow_right", [0x27A1]), ("arrow_right_hook", [0x21AA]),
   ("arrow_up", [0x2B06]), ("arrow_up_down", [0x2195]), ("arrow_up_small", [0x1F53C]),
   ("arrow_upper_left", [0x2196]), ("arrow_upper_right", [0x2197]), ("arrows_clockwise", [0x1F503]),
   ("arrows_counterclockwise", [0x1F504]), ("art", [0x1F3A8]), ("articulated_lorry", [0x1F69B]),
   ("artist_palette", [0x1F3A8]), ("aruba", [0x1F1E6, 0x1F1FC]),
   ("ascension_island", [0x1F1E6, 0x1F1E8]), ("astonished", [0x1F632]),
   ("astonished_face", [0x1F632]), ("athletic_shoe", [0x1F45F]), ("atm", [0x1F3E7]),
   ("atm_sign", [0x1F3E7]), ("atom_symbol", [0x269B]), ("australia", [0x1F1E6, 0x1F1FA]),
   ("austria", [0x1F1E6, 0x1F1F9]), ("auto_rickshaw", [0x1F6FA]), ("automobile", [0x1F697]),
   ("avocado", [0x1F951]), ("axe", [0x1FA93]), ("azerbaijan", [0x1F1E6, 0x1F1FF]), ("b", [0x1F171]),
   ("b_button_(blood_type)", [0x1F171]), ("baby", [0x1F476]), ("baby_angel", [0x1F47C]),
   ("baby_angel_dark_skin_tone", [0x1F47C, 0x1F3FF]),
   ("baby_angel_light_skin_tone", [0x1F47C, 0x1F3FB]),
   ("baby_angel_medium-dark_skin_tone", [0x1F47C, 0x1F3FE]),
   ("baby_angel_medium-light_skin_tone", [0x1F47C, 0x1F3FC]),
   ("baby_angel_medium_skin_tone", [0x1F47C, 0x1F3FD]), ("baby_bottle", [0x1F37C]),
   ("baby_chick", [0x1F424]), ("baby_dark_skin_tone", [0x1F476, 0x1F3FF]),
   ("baby_light_skin_tone", [0x1F476, 0x1F3FB]), ("baby_medium-dark_skin_tone", [0x1F476, 0x1F3FE]),
   ("baby_medium-light_skin_tone", [0x1F476, 0x1F3FC]),
   ("baby_medium_skin_tone", [0x1F476, 0x1F3FD]), ("baby_symbol", [0x1F6BC]), ("back", [0x1F519]),
   ("back_arrow", [0x1F519]), ("backhand_index_pointing_down", [0x1F447]),
   ("backhand_index_pointing_down_dark_skin_tone", [0x1F447, 0x1F3FF]),
   ("backhand_index_pointing_down_light_skin_tone", [0x1F447, 0x1F3FB]),
   ("backhand_index_pointing_down_medium-dark_skin_tone", [0x1F447, 0x1F3FE]),
   ("backhand_index_pointing_down_medium-light_skin_tone", [0x1F447, 0x1F3FC]),
   ("backhand_index_pointing_down_medium_skin_tone", [0x1F447, 0x1F3FD]),
   ("backhand_index_pointing_left", [0x1F448]),
   ("backhand_index_pointing_left_dark_skin_tone", [0x1F448, 0x1F3FF]),
   ("backhand_index_pointing_left_light_skin_tone", [0x1F448, 0x1F3FB]),
   ("backhand_index_pointing_left_medium-dark_skin_tone", [0x1F448, 0x1F3FE]),
   ("backhand_index_pointing_left_medium-light_skin_tone", [0x1F448, 0x1F3FC]),
   ("backhand_index_pointing_left_medium_skin_tone", [0x1F448, 0x1F3FD]),
   ("backhand_index_pointing_right", [0x1F449]),
   ("backhand_index_pointing_right_dark_skin_tone", [0x1F449, 0x1F3FF]),
   ("backhand_index_pointing_right_light_skin_tone", [0x1F449, 0x1F3FB]),
   ("backhand_index_pointing_right_medium-dark_skin_tone", [0x1F449, 0x1F3FE]),
   ("backhand_index_pointing_right_medium-light_skin_tone", [0x1F449, 0x1F3FC]),
   ("backhand_index_pointing_right_medium_skin_tone", [0x1F449, 0x1F3FD]),
   ("backhand_index_pointing_up", [0x1F446]),
   ("backhand_index_pointing_up_dark_skin_tone", [0x1F446, 0x1F3FF]),
   ("backhand_index_pointing_up_light_skin_tone", [0x1F446, 0x1F3FB]),
   ("backhand_index_pointing_up_medium-dark_skin_tone", [0x1F446, 0x1F3FE]),
   ("backhand_index_pointing_up_medium-light_skin_tone", [0x1F446, 0x1F3FC]),
   ("backhand_index_pointing_up_medium_skin_tone", [0x1F446, 0x1F3FD]), ("bacon", [0x1F953]),
   ("badger", [0x1F9A1]), ("badminton", [0x1F3F8]),
   ("badminton_racquet_and_shuttlecock", [0x1F3F8]), ("bagel", [0x1F96F]),
   ("baggage_claim", [0x1F6C4]), ("baguette_bread", [0x1F956]), ("bahamas", [0x1F1E7, 0x1F1F8]),
   ("bahrain", [0x1F1E7, 0x1F1ED]), ("balance_scale", [0x2696]), ("bald", [0x1F9B2]),
   ("bald_man", [0x1F468, 0x200D, 0x1F9B2]), ("bald_woman", [0x1F469, 0x200D, 0x1F9B2]),
   ("ballet_shoes", [0x1FA70]), ("balloon", [0x1F388]), ("ballot_box_with_ballot", [0x1F5F3]),
   ("ballot_box_with_check", [0x2611]), ("bamboo", [0x1F38D]), ("banana", [0x1F34C]),
   ("bangbang", [0x203C]), ("bangladesh", [0x1F1E7, 0x1F1E9]), ("banjo", [0x1FA95]),
   ("bank", [0x1F3E6]), ("bar_chart", [0x1F4CA]), ("barbados", [0x1F1E7, 0x1F1E7]),
   ("barber", [0x1F488]), ("barber_pole", [0x1F488]), ("baseball", [0x26BE]), ("basket", [0x1F9FA]),
   ("basketball", [0x1F3C0]), ("bat", [0x1F987]), ("bath", [0x1F6C0]), ("bathtub", [0x1F6C1]),
   ("battery", [0x1F50B]), ("beach_with_umbrella", [0x1F3D6]),
   ("beaming_face_with_smiling_eyes", [0x1F601]), ("bear", [0x1F43B]), ("bear_face", [0x1F43B]),
   ("bearded_person", [0x1F9D4]), ("bearded_person_dark_skin_tone", [0x1F9D4, 0x1F3FF]),
   ("bearded_person_light_skin_tone", [0x1F9D4, 0x1F3FB]),
   ("bearded_person_medium-dark_skin_tone", [0x1F9D4, 0x1F3FE]),
   ("bearded_person_medium-light_skin_tone", [0x1F9D4, 0x1F3FC]),
   ("bearded_person_medium_skin_tone", [0x1F9D4, 0x1F3FD]), ("beating_heart", [0x1F493]),
   ("bed", [0x1F6CF]), ("bee", [0x1F41D]), ("beer", [0x1F37A]), ("beer_mug", [0x1F37A]),
   ("beers", [0x1F37B]), ("beetle", [0x1F41E]), ("beginner", [0x1F530]),
   ("belarus", [0x1F1E7, 0x1F1FE]), ("belgium", [0x1F1E7, 0x1F1EA]), ("belize", [0x1F1E7, 0x1F1FF]),
   ("bell", [0x1F514]), ("bell_with_slash", [0x1F515]), ("bellhop_bell", [0x1F6CE]),
   ("benin", [0x1F1E7, 0x1F1EF]), ("bento", [0x1F371]), ("bento_box", [0x1F371]),
   ("bermuda", [0x1F1E7, 0x1F1F2]), ("beverage_box", [0x1F9C3]), ("bhutan", [0x1F1E7, 0x1F1F9]),
   ("bicycle", [0x1F6B2]), ("bicyclist", [0x1F6B4]), ("bike", [0x1F6B2]), ("bikini", [0x1F459]),
   ("billed_cap", [0x1F9E2]), ("biohazard", [0x2623]), ("biohazard_sign", [0x2623]),
   ("bird", [0x1F426]), ("birthday", [0x1F382]), ("birthday_cake", [0x1F382]),
   ("black_circle", [0x26AB]), ("black_circle_for_record", [0x23FA]), ("black_flag", [0x1F3F4]),
   ("black_heart", [0x1F5A4]), ("black_joker", [0x1F0CF]), ("black_large_square", [0x2B1B]),
   ("black_left__pointing_double_triangle_with_vertical_bar", [0x23EE]),
   ("black_medium-small_square", [0x25FE]), ("black_medium_small_square", [0x25FE]),
   ("black_medium_square", [0x25FC]), ("black_nib", [0x2712]),
   ("black_right__pointing_double_triangle_with_vertical_bar", [0x23ED]),
   ("black_right__pointing_triangle_with_double_vertical_bar", [0x23EF]),
   ("black_small_square", [0x25AA]), ("black_square_button", [0x1F532]),
   ("black_square_for_stop", [0x23F9]), ("blond-haired_man", [0x1F471, 0x200D, 0x2642, 0xFE0F]),
   ("blond-haired_man_dark_skin_tone", [0x1F471, 0x1F3FF, 0x200D, 0x2642, 0xFE0F]),
   ("blond-haired_man_light_skin_tone", [0x1F471, 0x1F3FB, 0x200D, 0x2642, 0xFE0F]),
   ("blond-haired_man_medium-dark_skin_tone", [0x1F471, 0x1F3FE, 0x200D, 0x2642, 0xFE0F]),
   ("blond-haired_man_medium-light_skin_tone", [0x1F471, 0x1F3FC, 0x200D, 0x2642, 0xFE0F]),
   ("blond-haired_man_medium_skin_tone", [0x1F471, 0x1F3FD, 0x200D, 0x2642, 0xFE0F]),
   ("blond-haired_person", [0x1F471]), ("blond-haired_person_dark_skin_tone", [0x1F471, 0x1F3FF]),
   ("blond-haired_person_light_skin_tone", [0x1F471, 0x1F3FB]),
   ("blond-haired_person_medium-dark_skin_tone", [0x1F471, 0x1F3FE]),
   ("blond-haired_person_medium-light_skin_tone", [0x1F471, 0x1F3FC]),
   ("blond-haired_person_medium_skin_tone", [0x1F471, 0x1F3FD]),
   ("blond-haired_woman", [0x1F471, 0x200D, 0x2640, 0xFE0F]),
   ("blond-haired_woman_dark_skin_tone", [0x1F471, 0x1F3FF, 0x200D, 0x2640, 0xFE0F]),
   ("blond-haired_woman_light_skin_tone", [0x1F471, 0x1F3FB, 0x200D, 0x2640, 0xFE0F]),
   ("blond-haired_woman_medium-dark_skin_tone", [0x1F471, 0x1F3FE, 0x200D, 0x2640, 0xFE0F]),
   ("blond-haired_woman_medium-light_skin_tone", [0x1F471, 0x1F3FC, 0x200D, 0x2640, 0xFE0F]),
   ("blond-haired_woman_medium_skin_tone", [0x1F471, 0x1F3FD, 0x200D, 0x2640, 0xFE0F]),
   ("blossom", [0x1F33C]), ("blowfish", [0x1F421]), ("blue_book", [0x1F4D8]),
   ("blue_car", [0x1F699]), ("blue_circle", [0x1F535]), ("blue_heart", [0x1F499]),
   ("blue_square", [0x1F7E6]), ("blush", [0x1F60A]), ("boar", [0x1F417]), ("boat", [0x26F5]),
   ("bolivia", [0x1F1E7, 0x1F1F4]), ("bomb", [0x1F4A3]), ("bone", [0x1F9B4]), ("book", [0x1F4D6]),
   ("bookmark", [0x1F516]), ("bookmark_tabs", [0x1F4D1]), ("books", [0x1F4DA]), ("boom", [0x1F4A5]),
   ("boot", [0x1F462]), ("bosnia_&_herzegovina", [0x1F1E7, 0x1F1E6]),
   ("botswana", [0x1F1E7, 0x1F1FC]), ("bottle_with_popping_cork", [0x1F37E]),
   ("bouquet", [0x1F490]), ("bouvet_island", [0x1F1E7, 0x1F1FB]), ("bow", [0x1F647]),
   ("bow_and_arrow", [0x1F3F9]), ("bowl_with_spoon", [0x1F963]), ("bowling", [0x1F3B3]),
   ("boxing_glove", [0x1F94A]), ("boy", [0x1F466]), ("boy_dark_skin_tone", [0x1F466, 0x1F3FF]),
   ("boy_light_skin_tone", [0x1F466, 0x1F3FB]), ("boy_medium-dark_skin_tone", [0x1F466, 0x1F3FE]),
   ("boy_medium-light_skin_tone", [0x1F466, 0x1F3FC]), ("boy_medium_skin_tone", [0x1F466, 0x1F3FD]),
   ("brain", [0x1F9E0]), ("brazil", [0x1F1E7, 0x1F1F7]), ("bread", [0x1F35E]),
   ("breast-feeding", [0x1F931]), ("breast-feeding_dark_skin_tone", [0x1F931, 0x1F3FF]),
   ("breast-feeding_light_skin_tone", [0x1F931, 0x1F3FB]),
   ("breast-feeding_medium-dark_skin_tone", [0x1F931, 0x1F3FE]),
   ("breast-feeding_medium-light_skin_tone", [0x1F931, 0x1F3FC]),
   ("breast-feeding_medium_skin_tone", [0x1F931, 0x1F3FD]), ("brick", [0x1F9F1]),
   ("bride_with_veil", [0x1F470]), ("bride_with_veil_dark_skin_tone", [0x1F470, 0x1F3FF]),
   ("bride_with_veil_light_skin_tone", [0x1F470, 0x1F3FB]),
   ("bride_with_veil_medium-dark_skin_tone", [0x1F470, 0x1F3FE]),
   ("bride_with_veil_medium-light_skin_tone", [0x1F470, 0x1F3FC]),
   ("bride_with_veil_medium_skin_tone", [0x1F470, 0x1F3FD]), ("bridge_at_night", [0x1F309]),
   ("briefcase", [0x1F4BC]), ("briefs", [0x1FA72]), ("bright_button", [0x1F506]),
   ("british_indian_ocean_territory", [0x1F1EE, 0x1F1F4]),
   ("british_virgin_islands", [0x1F1FB, 0x1F1EC]), ("broccoli", [0x1F966]),
   ("broken_heart", [0x1F494]), ("broom", [0x1F9F9]), ("brown_circle", [0x1F7E4]),
   ("brown_heart", [0x1F90E]), ("brown_square", [0x1F7EB]), ("brunei", [0x1F1E7, 0x1F1F3]),
   ("bug", [0x1F41B]), ("building_construction", [0x1F3D7]), ("bulb", [0x1F4A1]),
   ("bulgaria", [0x1F1E7, 0x1F1EC]), ("bullet_train", [0x1F685]), ("bullettrain_front", [0x1F685]),
   ("bullettrain_side", [0x1F684]), ("burkina_faso", [0x1F1E7, 0x1F1EB]), ("burrito", [0x1F32F]),
   ("burundi", [0x1F1E7, 0x1F1EE]), ("bus", [0x1F68C]), ("bus_stop", [0x1F68F]),
   ("busstop", [0x1F68F]), ("bust_in_silhouette", [0x1F464]), ("busts_in_silhouette", [0x1F465]),
   ("butter", [0x1F9C8]), ("butterfly", [0x1F98B])]

end TermAudit.Emoji
