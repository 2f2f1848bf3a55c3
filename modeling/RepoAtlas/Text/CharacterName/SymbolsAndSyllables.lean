/-!
The names of the characters from U+2000 to U+FFFF: punctuation, symbols and large syllabaries.
-/
namespace RepoAtlas.Text.CharacterName

def symbolsAndSyllables : String := "
  =2000 0EN_QUAD 0EM_QUAD 0EN_SPACE 0EM_SPACE 0THREE-PER-EM_SPACE 0FOUR-PER-EM_SPACE
  0SIX-PER-EM_SPACE 0FIGURE_SPACE 0PUNCTUATION_SPACE 0THIN_SPACE 0HAIR_SPACE 0ZERO_WIDTH_SPACE
  2NON-JOINER 2JOINER 0LEFT-TO-RIGHT_MARK 0RIGHT-TO-LEFT_MARK 0HYPHEN 0NON-BREAKING_HYPHEN
  0FIGURE_DASH 0EN_DASH 0EM_DASH 0HORIZONTAL_BAR 0DOUBLE_VERTICAL_LINE 1LOW_LINE
  0LEFT_SINGLE_QUOTATION_MARK 0RIGHT_SINGLE_QUOTATION_MARK 0SINGLE_LOW-9_QUOTATION_MARK
  1HIGH-REVERSED-9_QUOTATION_MARK 0LEFT_DOUBLE_QUOTATION_MARK 0RIGHT_DOUBLE_QUOTATION_MARK
  0DOUBLE_LOW-9_QUOTATION_MARK 1HIGH-REVERSED-9_QUOTATION_MARK 0DAGGER 0DOUBLE_DAGGER 0BULLET
  0TRIANGULAR_BULLET 0ONE_DOT_LEADER 0TWO_DOT_LEADER 0HORIZONTAL_ELLIPSIS 0HYPHENATION_POINT
  0LINE_SEPARATOR 0PARAGRAPH_SEPARATOR 0LEFT-TO-RIGHT_EMBEDDING 0RIGHT-TO-LEFT_EMBEDDING
  0POP_DIRECTIONAL_FORMATTING 0LEFT-TO-RIGHT_OVERRIDE 0RIGHT-TO-LEFT_OVERRIDE
  0NARROW_NO-BREAK_SPACE 0PER_MILLE_SIGN 1TEN_THOUSAND_SIGN 0PRIME 0DOUBLE_PRIME 0TRIPLE_PRIME
  0REVERSED_PRIME 1DOUBLE_PRIME 1TRIPLE_PRIME 0CARET 0SINGLE_LEFT-POINTING_ANGLE_QUOTATION_MARK
  1RIGHT-POINTING_ANGLE_QUOTATION_MARK 0REFERENCE_MARK 0DOUBLE_EXCLAMATION_MARK 0INTERROBANG
  0OVERLINE 0UNDERTIE 0CHARACTER_TIE 0CARET_INSERTION_POINT 0ASTERISM 0HYPHEN_BULLET
  0FRACTION_SLASH 0LEFT_SQUARE_BRACKET_WITH_QUILL 0RIGHT_SQUARE_BRACKET_WITH_QUILL
  0DOUBLE_QUESTION_MARK 0QUESTION_EXCLAMATION_MARK 0EXCLAMATION_QUESTION_MARK 0TIRONIAN_SIGN_ET
  0REVERSED_PILCROW_SIGN 0BLACK_LEFTWARDS_BULLET 1RIGHTWARDS_BULLET 0LOW_ASTERISK
  0REVERSED_SEMICOLON 0CLOSE_UP 0TWO_ASTERISKS_ALIGNED_VERTICALLY 0COMMERCIAL_MINUS_SIGN
  0SWUNG_DASH 0INVERTED_UNDERTIE 0FLOWER_PUNCTUATION_MARK 0THREE_DOT_PUNCTUATION 0QUADRUPLE_PRIME
  0FOUR_DOT_PUNCTUATION 0FIVE_DOT_PUNCTUATION 0TWO_DOT_PUNCTUATION 0FOUR_DOT_MARK 0DOTTED_CROSS
  0TRICOLON 0VERTICAL_FOUR_DOTS 0MEDIUM_MATHEMATICAL_SPACE 0WORD_JOINER 0FUNCTION_APPLICATION
  0INVISIBLE_TIMES 1SEPARATOR 1PLUS =2066 0LEFT-TO-RIGHT_ISOLATE 0RIGHT-TO-LEFT_ISOLATE
  0FIRST_STRONG_ISOLATE 0POP_DIRECTIONAL_ISOLATE 0INHIBIT_SYMMETRIC_SWAPPING
  0ACTIVATE_SYMMETRIC_SWAPPING 0INHIBIT_ARABIC_FORM_SHAPING 0ACTIVATE_ARABIC_FORM_SHAPING
  0NATIONAL_DIGIT_SHAPES 0NOMINAL_DIGIT_SHAPES 0SUPERSCRIPT_ZERO 1LATIN_SMALL_LETTER_I =2074 1FOUR
  1FIVE 1SIX 1SEVEN 1EIGHT 1NINE 1PLUS_SIGN 1MINUS 1EQUALS_SIGN 1LEFT_PARENTHESIS
  1RIGHT_PARENTHESIS 1LATIN_SMALL_LETTER_N 0SUBSCRIPT_ZERO 1ONE 1TWO 1THREE 1FOUR 1FIVE 1SIX
  1SEVEN 1EIGHT 1NINE 1PLUS_SIGN 1MINUS 1EQUALS_SIGN 1LEFT_PARENTHESIS 1RIGHT_PARENTHESIS =2090
  0LATIN_SUBSCRIPT_SMALL_LETTER_A 4E 4O 4X 4SCHWA 4H 4K 4L 4M 4N 4P 4S 4T =20a0
  0EURO-CURRENCY_SIGN 0COLON_SIGN 0CRUZEIRO_SIGN 0FRENCH_FRANC_SIGN 0LIRA_SIGN 0MILL_SIGN
  0NAIRA_SIGN 0PESETA_SIGN 0RUPEE_SIGN 0WON_SIGN 0NEW_SHEQEL_SIGN 0DONG_SIGN 0EURO_SIGN 0KIP_SIGN
  0TUGRIK_SIGN 0DRACHMA_SIGN 0GERMAN_PENNY_SIGN 0PESO_SIGN 0GUARANI_SIGN 0AUSTRAL_SIGN
  0HRYVNIA_SIGN 0CEDI_SIGN 0LIVRE_TOURNOIS_SIGN 0SPESMILO_SIGN 0TENGE_SIGN 0INDIAN_RUPEE_SIGN
  0TURKISH_LIRA_SIGN 0NORDIC_MARK_SIGN 0MANAT_SIGN 0RUBLE_SIGN 0LARI_SIGN 0BITCOIN_SIGN 0SOM_SIGN
  =20d0 0COMBINING_LEFT_HARPOON_ABOVE 1RIGHT_HARPOON_ABOVE 1LONG_VERTICAL_LINE_OVERLAY
  1SHORT_VERTICAL_LINE_OVERLAY 1ANTICLOCKWISE_ARROW_ABOVE 1CLOCKWISE_ARROW_ABOVE 1LEFT_ARROW_ABOVE
  1RIGHT_ARROW_ABOVE 1RING_OVERLAY 1CLOCKWISE_RING_OVERLAY 1ANTICLOCKWISE_RING_OVERLAY
  1THREE_DOTS_ABOVE 1FOUR_DOTS_ABOVE 1ENCLOSING_CIRCLE 2SQUARE 2DIAMOND 2CIRCLE_BACKSLASH
  1LEFT_RIGHT_ARROW_ABOVE 1ENCLOSING_SCREEN 2KEYCAP 2UPWARD_POINTING_TRIANGLE
  1REVERSE_SOLIDUS_OVERLAY 1DOUBLE_VERTICAL_STROKE_OVERLAY 1ANNUITY_SYMBOL 1TRIPLE_UNDERDOT
  1WIDE_BRIDGE_ABOVE 1LEFTWARDS_ARROW_OVERLAY 1LONG_DOUBLE_SOLIDUS_OVERLAY
  1RIGHTWARDS_HARPOON_WITH_BARB_DOWNWARDS 1LEFTWARDS_HARPOON_WITH_BARB_DOWNWARDS 1LEFT_ARROW_BELOW
  1RIGHT_ARROW_BELOW 1ASTERISK_ABOVE =2100 0ACCOUNT_OF 0ADDRESSED_TO_THE_SUBJECT
  0DOUBLE-STRUCK_CAPITAL_C 0DEGREE_CELSIUS 0CENTRE_LINE_SYMBOL 0CARE_OF 0CADA_UNA 0EULER_CONSTANT
  0SCRUPLE 0DEGREE_FAHRENHEIT 0SCRIPT_SMALL_G 1CAPITAL_H 0BLACK-LETTER_CAPITAL_H
  0DOUBLE-STRUCK_CAPITAL_H 0PLANCK_CONSTANT 2OVER_TWO_PI 0SCRIPT_CAPITAL_I 0BLACK-LETTER_CAPITAL_I
  0SCRIPT_CAPITAL_L 1SMALL_L 0L_B_BAR_SYMBOL 0DOUBLE-STRUCK_CAPITAL_N 0NUMERO_SIGN
  0SOUND_RECORDING_COPYRIGHT 0SCRIPT_CAPITAL_P 0DOUBLE-STRUCK_CAPITAL_P 2Q 0SCRIPT_CAPITAL_R
  0BLACK-LETTER_CAPITAL_R 0DOUBLE-STRUCK_CAPITAL_R 0PRESCRIPTION_TAKE 0RESPONSE 0SERVICE_MARK
  0TELEPHONE_SIGN 0TRADE_MARK_SIGN 0VERSICLE 0DOUBLE-STRUCK_CAPITAL_Z 0OUNCE_SIGN 0OHM_SIGN
  0INVERTED_OHM_SIGN 0BLACK-LETTER_CAPITAL_Z 0TURNED_GREEK_SMALL_LETTER_IOTA 0KELVIN_SIGN
  0ANGSTROM_SIGN 0SCRIPT_CAPITAL_B 0BLACK-LETTER_CAPITAL_C 0ESTIMATED_SYMBOL 0SCRIPT_SMALL_E
  1CAPITAL_E 2F 0TURNED_CAPITAL_F 0SCRIPT_CAPITAL_M 1SMALL_O 0ALEF_SYMBOL 0BET_SYMBOL
  0GIMEL_SYMBOL 0DALET_SYMBOL 0INFORMATION_SOURCE 0ROTATED_CAPITAL_Q 0FACSIMILE_SIGN
  0DOUBLE-STRUCK_SMALL_PI 2GAMMA 1CAPITAL_GAMMA 2PI 1N-ARY_SUMMATION 0TURNED_SANS-SERIF_CAPITAL_G
  3L 0REVERSED_SANS-SERIF_CAPITAL_L 0TURNED_SANS-SERIF_CAPITAL_Y 0DOUBLE-STRUCK_ITALIC_CAPITAL_D
  2SMALL_D 3E 3I 3J 0PROPERTY_LINE 0TURNED_AMPERSAND 0PER_SIGN 0AKTIESELSKAB 0TURNED_SMALL_F
  0SYMBOL_FOR_SAMARITAN_SOURCE 0VULGAR_FRACTION_ONE_SEVENTH 3NINTH 3TENTH 3THIRD 2TWO_THIRDS
  2ONE_FIFTH 2TWO_FIFTHS 2THREE_FIFTHS 2FOUR_FIFTHS 2ONE_SIXTH 2FIVE_SIXTHS 2ONE_EIGHTH
  2THREE_EIGHTHS 2FIVE_EIGHTHS 2SEVEN_EIGHTHS 0FRACTION_NUMERATOR_ONE 0ROMAN_NUMERAL_ONE 2TWO
  2THREE 2FOUR 2FIVE 2SIX 2SEVEN 2EIGHT 2NINE 2TEN 2ELEVEN 2TWELVE 2FIFTY 2ONE_HUNDRED
  2FIVE_HUNDRED 2ONE_THOUSAND 0SMALL_ROMAN_NUMERAL_ONE 3TWO 3THREE 3FOUR 3FIVE 3SIX 3SEVEN 3EIGHT
  3NINE 3TEN 3ELEVEN 3TWELVE 3FIFTY 3ONE_HUNDRED 3FIVE_HUNDRED 3ONE_THOUSAND
  0ROMAN_NUMERAL_ONE_THOUSAND_C_D 2FIVE_THOUSAND 2TEN_THOUSAND 2REVERSED_ONE_HUNDRED
  0LATIN_SMALL_LETTER_REVERSED_C 0ROMAN_NUMERAL_SIX_LATE_FORM 2FIFTY_EARLY_FORM 3THOUSAND
  2ONE_HUNDRED_THOUSAND 0VULGAR_FRACTION_ZERO_THIRDS 0TURNED_DIGIT_TWO 2THREE =2190
  0LEFTWARDS_ARROW 0UPWARDS_ARROW 0RIGHTWARDS_ARROW 0DOWNWARDS_ARROW 0LEFT_RIGHT_ARROW
  0UP_DOWN_ARROW 0NORTH_WEST_ARROW 1EAST_ARROW 0SOUTH_EAST_ARROW 1WEST_ARROW
  0LEFTWARDS_ARROW_WITH_STROKE 0RIGHTWARDS_ARROW_WITH_STROKE 0LEFTWARDS_WAVE_ARROW
  0RIGHTWARDS_WAVE_ARROW 0LEFTWARDS_TWO_HEADED_ARROW 0UPWARDS_TWO_HEADED_ARROW
  0RIGHTWARDS_TWO_HEADED_ARROW 0DOWNWARDS_TWO_HEADED_ARROW 0LEFTWARDS_ARROW_WITH_TAIL
  0RIGHTWARDS_ARROW_WITH_TAIL 0LEFTWARDS_ARROW_FROM_BAR 0UPWARDS_ARROW_FROM_BAR
  0RIGHTWARDS_ARROW_FROM_BAR 0DOWNWARDS_ARROW_FROM_BAR 0UP_DOWN_ARROW_WITH_BASE
  0LEFTWARDS_ARROW_WITH_HOOK 0RIGHTWARDS_ARROW_WITH_HOOK 0LEFTWARDS_ARROW_WITH_LOOP
  0RIGHTWARDS_ARROW_WITH_LOOP 0LEFT_RIGHT_WAVE_ARROW 2ARROW_WITH_STROKE 0DOWNWARDS_ZIGZAG_ARROW
  0UPWARDS_ARROW_WITH_TIP_LEFTWARDS 4RIGHTWARDS 0DOWNWARDS_ARROW_WITH_TIP_LEFTWARDS 4RIGHTWARDS
  0RIGHTWARDS_ARROW_WITH_CORNER_DOWNWARDS 0DOWNWARDS_ARROW_WITH_CORNER_LEFTWARDS
  0ANTICLOCKWISE_TOP_SEMICIRCLE_ARROW 0CLOCKWISE_TOP_SEMICIRCLE_ARROW
  0NORTH_WEST_ARROW_TO_LONG_BAR 0LEFTWARDS_ARROW_TO_BAR_OVER_RIGHTWARDS_ARROW_TO_BAR
  0ANTICLOCKWISE_OPEN_CIRCLE_ARROW 0CLOCKWISE_OPEN_CIRCLE_ARROW
  0LEFTWARDS_HARPOON_WITH_BARB_UPWARDS 4DOWNWARDS 0UPWARDS_HARPOON_WITH_BARB_RIGHTWARDS 4LEFTWARDS
  0RIGHTWARDS_HARPOON_WITH_BARB_UPWARDS 4DOWNWARDS 0DOWNWARDS_HARPOON_WITH_BARB_RIGHTWARDS
  4LEFTWARDS 0RIGHTWARDS_ARROW_OVER_LEFTWARDS_ARROW 0UPWARDS_ARROW_LEFTWARDS_OF_DOWNWARDS_ARROW
  0LEFTWARDS_ARROW_OVER_RIGHTWARDS_ARROW 1PAIRED_ARROWS 0UPWARDS_PAIRED_ARROWS
  0RIGHTWARDS_PAIRED_ARROWS 0DOWNWARDS_PAIRED_ARROWS 0LEFTWARDS_HARPOON_OVER_RIGHTWARDS_HARPOON
  0RIGHTWARDS_HARPOON_OVER_LEFTWARDS_HARPOON 0LEFTWARDS_DOUBLE_ARROW_WITH_STROKE
  0LEFT_RIGHT_DOUBLE_ARROW_WITH_STROKE 0RIGHTWARDS_DOUBLE_ARROW_WITH_STROKE
  0LEFTWARDS_DOUBLE_ARROW 0UPWARDS_DOUBLE_ARROW 0RIGHTWARDS_DOUBLE_ARROW 0DOWNWARDS_DOUBLE_ARROW
  0LEFT_RIGHT_DOUBLE_ARROW 0UP_DOWN_DOUBLE_ARROW 0NORTH_WEST_DOUBLE_ARROW 1EAST_DOUBLE_ARROW
  0SOUTH_EAST_DOUBLE_ARROW 1WEST_DOUBLE_ARROW 0LEFTWARDS_TRIPLE_ARROW 0RIGHTWARDS_TRIPLE_ARROW
  0LEFTWARDS_SQUIGGLE_ARROW 0RIGHTWARDS_SQUIGGLE_ARROW 0UPWARDS_ARROW_WITH_DOUBLE_STROKE
  0DOWNWARDS_ARROW_WITH_DOUBLE_STROKE 0LEFTWARDS_DASHED_ARROW 0UPWARDS_DASHED_ARROW
  0RIGHTWARDS_DASHED_ARROW 0DOWNWARDS_DASHED_ARROW 0LEFTWARDS_ARROW_TO_BAR
  0RIGHTWARDS_ARROW_TO_BAR 0LEFTWARDS_WHITE_ARROW 0UPWARDS_WHITE_ARROW 0RIGHTWARDS_WHITE_ARROW
  0DOWNWARDS_WHITE_ARROW 0UPWARDS_WHITE_ARROW_FROM_BAR 3ON_PEDESTAL 5WITH_HORIZONTAL_BAR
  6VERTICAL_BAR 2DOUBLE_ARROW 4ON_PEDESTAL 0RIGHTWARDS_WHITE_ARROW_FROM_WALL
  0NORTH_WEST_ARROW_TO_CORNER 0SOUTH_EAST_ARROW_TO_CORNER 0UP_DOWN_WHITE_ARROW
  0RIGHT_ARROW_WITH_SMALL_CIRCLE 0DOWNWARDS_ARROW_LEFTWARDS_OF_UPWARDS_ARROW
  0THREE_RIGHTWARDS_ARROWS 0LEFTWARDS_ARROW_WITH_VERTICAL_STROKE
  0RIGHTWARDS_ARROW_WITH_VERTICAL_STROKE 0LEFT_RIGHT_ARROW_WITH_VERTICAL_STROKE
  0LEFTWARDS_ARROW_WITH_DOUBLE_VERTICAL_STROKE 0RIGHTWARDS_ARROW_WITH_DOUBLE_VERTICAL_STROKE
  0LEFT_RIGHT_ARROW_WITH_DOUBLE_VERTICAL_STROKE 0LEFTWARDS_OPEN-HEADED_ARROW
  0RIGHTWARDS_OPEN-HEADED_ARROW 0LEFT_RIGHT_OPEN-HEADED_ARROW 0FOR_ALL 0COMPLEMENT
  0PARTIAL_DIFFERENTIAL 0THERE_EXISTS 1DOES_NOT_EXIST 0EMPTY_SET 0INCREMENT 0NABLA 0ELEMENT_OF
  0NOT_AN_ELEMENT_OF 0SMALL_ELEMENT_OF 0CONTAINS_AS_MEMBER 0DOES_NOT_CONTAIN_AS_MEMBER
  0SMALL_CONTAINS_AS_MEMBER 0END_OF_PROOF 0N-ARY_PRODUCT 1COPRODUCT 1SUMMATION 0MINUS_SIGN
  0MINUS-OR-PLUS_SIGN 0DOT_PLUS 0DIVISION_SLASH 0SET_MINUS 0ASTERISK_OPERATOR 0RING_OPERATOR
  0BULLET_OPERATOR 0SQUARE_ROOT 0CUBE_ROOT 0FOURTH_ROOT 0PROPORTIONAL_TO 0INFINITY 0RIGHT_ANGLE
  0ANGLE 0MEASURED_ANGLE 0SPHERICAL_ANGLE 0DIVIDES 0DOES_NOT_DIVIDE 0PARALLEL_TO 0NOT_PARALLEL_TO
  0LOGICAL_AND 1OR 0INTERSECTION 0UNION 0INTEGRAL 0DOUBLE_INTEGRAL 0TRIPLE_INTEGRAL
  0CONTOUR_INTEGRAL 0SURFACE_INTEGRAL 0VOLUME_INTEGRAL 0CLOCKWISE_INTEGRAL 1CONTOUR_INTEGRAL
  0ANTICLOCKWISE_CONTOUR_INTEGRAL 0THEREFORE 0BECAUSE 0RATIO 0PROPORTION 0DOT_MINUS 0EXCESS
  0GEOMETRIC_PROPORTION 0HOMOTHETIC 0TILDE_OPERATOR 0REVERSED_TILDE 0INVERTED_LAZY_S 0SINE_WAVE
  0WREATH_PRODUCT 0NOT_TILDE 0MINUS_TILDE 0ASYMPTOTICALLY_EQUAL_TO 0NOT_ASYMPTOTICALLY_EQUAL_TO
  0APPROXIMATELY_EQUAL_TO 1BUT_NOT_ACTUALLY_EQUAL_TO 0NEITHER_APPROXIMATELY_NOR_ACTUALLY_EQUAL_TO
  0ALMOST_EQUAL_TO 0NOT_ALMOST_EQUAL_TO 0ALMOST_EQUAL_OR_EQUAL_TO 0TRIPLE_TILDE 0ALL_EQUAL_TO
  0EQUIVALENT_TO 0GEOMETRICALLY_EQUIVALENT_TO 0DIFFERENCE_BETWEEN 0APPROACHES_THE_LIMIT
  0GEOMETRICALLY_EQUAL_TO 0APPROXIMATELY_EQUAL_TO_OR_THE_IMAGE_OF
  0IMAGE_OF_OR_APPROXIMATELY_EQUAL_TO 0COLON_EQUALS 0EQUALS_COLON 0RING_IN_EQUAL_TO 1EQUAL_TO
  0CORRESPONDS_TO 0ESTIMATES 0EQUIANGULAR_TO 0STAR_EQUALS 0DELTA_EQUAL_TO 0EQUAL_TO_BY_DEFINITION
  0MEASURED_BY 0QUESTIONED_EQUAL_TO 0NOT_EQUAL_TO 0IDENTICAL_TO 0NOT_IDENTICAL_TO
  0STRICTLY_EQUIVALENT_TO 0LESS-THAN_OR_EQUAL_TO 0GREATER-THAN_OR_EQUAL_TO
  0LESS-THAN_OVER_EQUAL_TO 0GREATER-THAN_OVER_EQUAL_TO 0LESS-THAN_BUT_NOT_EQUAL_TO
  0GREATER-THAN_BUT_NOT_EQUAL_TO 0MUCH_LESS-THAN 1GREATER-THAN 0BETWEEN 0NOT_EQUIVALENT_TO
  1LESS-THAN 1GREATER-THAN 0NEITHER_LESS-THAN_NOR_EQUAL_TO 1GREATER-THAN_NOR_EQUAL_TO
  0LESS-THAN_OR_EQUIVALENT_TO 0GREATER-THAN_OR_EQUIVALENT_TO 0NEITHER_LESS-THAN_NOR_EQUIVALENT_TO
  1GREATER-THAN_NOR_EQUIVALENT_TO 0LESS-THAN_OR_GREATER-THAN 0GREATER-THAN_OR_LESS-THAN
  0NEITHER_LESS-THAN_NOR_GREATER-THAN 1GREATER-THAN_NOR_LESS-THAN 0PRECEDES 0SUCCEEDS
  0PRECEDES_OR_EQUAL_TO 0SUCCEEDS_OR_EQUAL_TO 0PRECEDES_OR_EQUIVALENT_TO
  0SUCCEEDS_OR_EQUIVALENT_TO 0DOES_NOT_PRECEDE 2SUCCEED 0SUBSET_OF 0SUPERSET_OF 0NOT_A_SUBSET_OF
  2SUPERSET_OF 0SUBSET_OF_OR_EQUAL_TO 0SUPERSET_OF_OR_EQUAL_TO 0NEITHER_A_SUBSET_OF_NOR_EQUAL_TO
  2SUPERSET_OF_NOR_EQUAL_TO 0SUBSET_OF_WITH_NOT_EQUAL_TO 0SUPERSET_OF_WITH_NOT_EQUAL_TO 0MULTISET
  1MULTIPLICATION 1UNION 0SQUARE_IMAGE_OF 1ORIGINAL_OF 1IMAGE_OF_OR_EQUAL_TO
  1ORIGINAL_OF_OR_EQUAL_TO 1CAP 1CUP 0CIRCLED_PLUS 1MINUS 1TIMES 1DIVISION_SLASH 1DOT_OPERATOR
  1RING_OPERATOR 1ASTERISK_OPERATOR 1EQUALS 1DASH 0SQUARED_PLUS 1MINUS 1TIMES 1DOT_OPERATOR
  0RIGHT_TACK 0LEFT_TACK 0DOWN_TACK 0UP_TACK 0ASSERTION 0MODELS 0TRUE 0FORCES
  0TRIPLE_VERTICAL_BAR_RIGHT_TURNSTILE 0DOUBLE_VERTICAL_BAR_DOUBLE_RIGHT_TURNSTILE 0DOES_NOT_PROVE
  0NOT_TRUE 0DOES_NOT_FORCE 0NEGATED_DOUBLE_VERTICAL_BAR_DOUBLE_RIGHT_TURNSTILE
  0PRECEDES_UNDER_RELATION 0SUCCEEDS_UNDER_RELATION 0NORMAL_SUBGROUP_OF
  0CONTAINS_AS_NORMAL_SUBGROUP 0NORMAL_SUBGROUP_OF_OR_EQUAL_TO
  0CONTAINS_AS_NORMAL_SUBGROUP_OR_EQUAL_TO 0ORIGINAL_OF 0IMAGE_OF 0MULTIMAP
  0HERMITIAN_CONJUGATE_MATRIX 0INTERCALATE 0XOR 0NAND 0NOR 0RIGHT_ANGLE_WITH_ARC 1TRIANGLE
  0N-ARY_LOGICAL_AND 2OR 1INTERSECTION 1UNION 0DIAMOND_OPERATOR 0DOT_OPERATOR 0STAR_OPERATOR
  0DIVISION_TIMES 0BOWTIE 0LEFT_NORMAL_FACTOR_SEMIDIRECT_PRODUCT
  0RIGHT_NORMAL_FACTOR_SEMIDIRECT_PRODUCT 0LEFT_SEMIDIRECT_PRODUCT 0RIGHT_SEMIDIRECT_PRODUCT
  0REVERSED_TILDE_EQUALS 0CURLY_LOGICAL_OR 2AND 0DOUBLE_SUBSET 1SUPERSET 1INTERSECTION 1UNION
  0PITCHFORK 0EQUAL_AND_PARALLEL_TO 0LESS-THAN_WITH_DOT 0GREATER-THAN_WITH_DOT
  0VERY_MUCH_LESS-THAN 2GREATER-THAN 0LESS-THAN_EQUAL_TO_OR_GREATER-THAN
  0GREATER-THAN_EQUAL_TO_OR_LESS-THAN 0EQUAL_TO_OR_LESS-THAN 3GREATER-THAN 3PRECEDES 3SUCCEEDS
  0DOES_NOT_PRECEDE_OR_EQUAL 2SUCCEED_OR_EQUAL 0NOT_SQUARE_IMAGE_OF_OR_EQUAL_TO
  2ORIGINAL_OF_OR_EQUAL_TO 0SQUARE_IMAGE_OF_OR_NOT_EQUAL_TO 1ORIGINAL_OF_OR_NOT_EQUAL_TO
  0LESS-THAN_BUT_NOT_EQUIVALENT_TO 0GREATER-THAN_BUT_NOT_EQUIVALENT_TO
  0PRECEDES_BUT_NOT_EQUIVALENT_TO 0SUCCEEDS_BUT_NOT_EQUIVALENT_TO 0NOT_NORMAL_SUBGROUP_OF
  0DOES_NOT_CONTAIN_AS_NORMAL_SUBGROUP 0NOT_NORMAL_SUBGROUP_OF_OR_EQUAL_TO
  0DOES_NOT_CONTAIN_AS_NORMAL_SUBGROUP_OR_EQUAL 0VERTICAL_ELLIPSIS 0MIDLINE_HORIZONTAL_ELLIPSIS
  0UP_RIGHT_DIAGONAL_ELLIPSIS 0DOWN_RIGHT_DIAGONAL_ELLIPSIS
  0ELEMENT_OF_WITH_LONG_HORIZONTAL_STROKE 3VERTICAL_BAR_AT_END_OF_HORIZONTAL_STROKE
  0SMALL_ELEMENT_OF_WITH_VERTICAL_BAR_AT_END_OF_HORIZONTAL_STROKE 0ELEMENT_OF_WITH_DOT_ABOVE
  3OVERBAR 0SMALL_ELEMENT_OF_WITH_OVERBAR 0ELEMENT_OF_WITH_UNDERBAR 3TWO_HORIZONTAL_STROKES
  0CONTAINS_WITH_LONG_HORIZONTAL_STROKE 2VERTICAL_BAR_AT_END_OF_HORIZONTAL_STROKE
  0SMALL_CONTAINS_WITH_VERTICAL_BAR_AT_END_OF_HORIZONTAL_STROKE 0CONTAINS_WITH_OVERBAR
  0SMALL_CONTAINS_WITH_OVERBAR 0Z_NOTATION_BAG_MEMBERSHIP 0DIAMETER_SIGN 0ELECTRIC_ARROW 0HOUSE
  0UP_ARROWHEAD 0DOWN_ARROWHEAD 0PROJECTIVE 0PERSPECTIVE 0WAVY_LINE 0LEFT_CEILING 0RIGHT_CEILING
  0LEFT_FLOOR 0RIGHT_FLOOR 0BOTTOM_RIGHT_CROP 1LEFT_CROP 0TOP_RIGHT_CROP 1LEFT_CROP
  0REVERSED_NOT_SIGN 0SQUARE_LOZENGE 0ARC 0SEGMENT 0SECTOR 0TELEPHONE_RECORDER 0POSITION_INDICATOR
  0VIEWDATA_SQUARE 0PLACE_OF_INTEREST_SIGN 0TURNED_NOT_SIGN 0WATCH 0HOURGLASS 0TOP_LEFT_CORNER
  1RIGHT_CORNER 0BOTTOM_LEFT_CORNER 1RIGHT_CORNER 0TOP_HALF_INTEGRAL 0BOTTOM_HALF_INTEGRAL 0FROWN
  0SMILE 0UP_ARROWHEAD_BETWEEN_TWO_HORIZONTAL_BARS 0OPTION_KEY 0ERASE_TO_THE_RIGHT
  0X_IN_A_RECTANGLE_BOX 0KEYBOARD 0LEFT-POINTING_ANGLE_BRACKET 0RIGHT-POINTING_ANGLE_BRACKET
  0ERASE_TO_THE_LEFT 0BENZENE_RING 0CYLINDRICITY 0ALL_AROUND-PROFILE 0SYMMETRY 0TOTAL_RUNOUT
  0DIMENSION_ORIGIN 0CONICAL_TAPER 0SLOPE 0COUNTERBORE 0COUNTERSINK 0APL_FUNCTIONAL_SYMBOL_I-BEAM
  3SQUISH_QUAD 3QUAD_EQUAL 4DIVIDE 4DIAMOND 4JOT 4CIRCLE 3CIRCLE_STILE 4JOT 3SLASH_BAR
  3BACKSLASH_BAR 3QUAD_SLASH 4BACKSLASH 4LESS-THAN 4GREATER-THAN 3LEFTWARDS_VANE 3RIGHTWARDS_VANE
  3QUAD_LEFTWARDS_ARROW 4RIGHTWARDS_ARROW 3CIRCLE_BACKSLASH 3DOWN_TACK_UNDERBAR 3DELTA_STILE
  3QUAD_DOWN_CARET 4DELTA 3DOWN_TACK_JOT 3UPWARDS_VANE 3QUAD_UPWARDS_ARROW 3UP_TACK_OVERBAR
  3DEL_STILE 3QUAD_UP_CARET 4DEL 3UP_TACK_JOT 3DOWNWARDS_VANE 3QUAD_DOWNWARDS_ARROW
  3QUOTE_UNDERBAR 3DELTA_UNDERBAR 3DIAMOND_UNDERBAR 3JOT_UNDERBAR 3CIRCLE_UNDERBAR 3UP_SHOE_JOT
  3QUOTE_QUAD 3CIRCLE_STAR 3QUAD_COLON 3UP_TACK_DIAERESIS 3DEL_DIAERESIS 3STAR_DIAERESIS
  3JOT_DIAERESIS 3CIRCLE_DIAERESIS 3DOWN_SHOE_STILE 3LEFT_SHOE_STILE 3TILDE_DIAERESIS
  3GREATER-THAN_DIAERESIS 3COMMA_BAR 3DEL_TILDE 3ZILDE 3STILE_TILDE 3SEMICOLON_UNDERBAR
  3QUAD_NOT_EQUAL 4QUESTION 3DOWN_CARET_TILDE 3UP_CARET_TILDE 3IOTA 3RHO 3OMEGA 3ALPHA_UNDERBAR
  3EPSILON_UNDERBAR 3IOTA_UNDERBAR 3OMEGA_UNDERBAR 3ALPHA 0NOT_CHECK_MARK
  0RIGHT_ANGLE_WITH_DOWNWARDS_ZIGZAG_ARROW 0SHOULDERED_OPEN_BOX 0BELL_SYMBOL
  0VERTICAL_LINE_WITH_MIDDLE_DOT 0INSERTION_SYMBOL 0CONTINUOUS_UNDERLINE_SYMBOL
  0DISCONTINUOUS_UNDERLINE_SYMBOL 0EMPHASIS_SYMBOL 0COMPOSITION_SYMBOL
  0WHITE_SQUARE_WITH_CENTRE_VERTICAL_LINE 0ENTER_SYMBOL 0ALTERNATIVE_KEY_SYMBOL 0HELM_SYMBOL
  0CIRCLED_HORIZONTAL_BAR_WITH_NOTCH 1TRIANGLE_DOWN 0BROKEN_CIRCLE_WITH_NORTHWEST_ARROW
  0UNDO_SYMBOL 0MONOSTABLE_SYMBOL 0HYSTERESIS_SYMBOL 0OPEN-CIRCUIT-OUTPUT_H-TYPE_SYMBOL
  1L-TYPE_SYMBOL 0PASSIVE-PULL-DOWN-OUTPUT_SYMBOL 0PASSIVE-PULL-UP-OUTPUT_SYMBOL
  0DIRECT_CURRENT_SYMBOL_FORM_TWO 0SOFTWARE-FUNCTION_SYMBOL 0APL_FUNCTIONAL_SYMBOL_QUAD
  0DECIMAL_SEPARATOR_KEY_SYMBOL 0PREVIOUS_PAGE 0NEXT_PAGE 0PRINT_SCREEN_SYMBOL
  0CLEAR_SCREEN_SYMBOL 0LEFT_PARENTHESIS_UPPER_HOOK 2EXTENSION 2LOWER_HOOK
  0RIGHT_PARENTHESIS_UPPER_HOOK 2EXTENSION 2LOWER_HOOK 0LEFT_SQUARE_BRACKET_UPPER_CORNER
  3EXTENSION 3LOWER_CORNER 0RIGHT_SQUARE_BRACKET_UPPER_CORNER 3EXTENSION 3LOWER_CORNER
  0LEFT_CURLY_BRACKET_UPPER_HOOK 3MIDDLE_PIECE 3LOWER_HOOK 0CURLY_BRACKET_EXTENSION
  0RIGHT_CURLY_BRACKET_UPPER_HOOK 3MIDDLE_PIECE 3LOWER_HOOK 0INTEGRAL_EXTENSION
  0HORIZONTAL_LINE_EXTENSION 0UPPER_LEFT_OR_LOWER_RIGHT_CURLY_BRACKET_SECTION
  1RIGHT_OR_LOWER_LEFT_CURLY_BRACKET_SECTION 0SUMMATION_TOP 1BOTTOM 0TOP_SQUARE_BRACKET
  0BOTTOM_SQUARE_BRACKET 3OVER_TOP_SQUARE_BRACKET 0RADICAL_SYMBOL_BOTTOM 0LEFT_VERTICAL_BOX_LINE
  0RIGHT_VERTICAL_BOX_LINE 0HORIZONTAL_SCAN_LINE-1 2LINE-3 2LINE-7 2LINE-9
  0DENTISTRY_SYMBOL_LIGHT_VERTICAL_AND_TOP_RIGHT 5BOTTOM_RIGHT 4WITH_CIRCLE
  3DOWN_AND_HORIZONTAL_WITH_CIRCLE 3UP_AND_HORIZONTAL_WITH_CIRCLE 3VERTICAL_WITH_TRIANGLE
  3DOWN_AND_HORIZONTAL_WITH_TRIANGLE 3UP_AND_HORIZONTAL_WITH_TRIANGLE 3VERTICAL_AND_WAVE
  3DOWN_AND_HORIZONTAL_WITH_WAVE 3UP_AND_HORIZONTAL_WITH_WAVE 3DOWN_AND_HORIZONTAL
  3UP_AND_HORIZONTAL 3VERTICAL_AND_TOP_LEFT 5BOTTOM_LEFT 0SQUARE_FOOT 0RETURN_SYMBOL 0EJECT_SYMBOL
  0VERTICAL_LINE_EXTENSION 0METRICAL_BREVE 1LONG_OVER_SHORT 1SHORT_OVER_LONG 1LONG_OVER_TWO_SHORTS
  1TWO_SHORTS_OVER_LONG 3JOINED 1TRISEME 1TETRASEME 1PENTASEME 0EARTH_GROUND 0FUSE
  0TOP_PARENTHESIS 0BOTTOM_PARENTHESIS 0TOP_CURLY_BRACKET 0BOTTOM_CURLY_BRACKET
  0TOP_TORTOISE_SHELL_BRACKET 0BOTTOM_TORTOISE_SHELL_BRACKET 0WHITE_TRAPEZIUM
  0BENZENE_RING_WITH_CIRCLE 0STRAIGHTNESS 0FLATNESS 0AC_CURRENT 0ELECTRICAL_INTERSECTION
  0DECIMAL_EXPONENT_SYMBOL 0BLACK_RIGHT-POINTING_DOUBLE_TRIANGLE 1LEFT-POINTING_DOUBLE_TRIANGLE
  1UP-POINTING_DOUBLE_TRIANGLE 1DOWN-POINTING_DOUBLE_TRIANGLE
  1RIGHT-POINTING_DOUBLE_TRIANGLE_WITH_VERTICAL_BAR
  1LEFT-POINTING_DOUBLE_TRIANGLE_WITH_VERTICAL_BAR
  1RIGHT-POINTING_TRIANGLE_WITH_DOUBLE_VERTICAL_BAR 0ALARM_CLOCK 0STOPWATCH 0TIMER_CLOCK
  0HOURGLASS_WITH_FLOWING_SAND 0BLACK_MEDIUM_LEFT-POINTING_TRIANGLE 2RIGHT-POINTING_TRIANGLE
  2UP-POINTING_TRIANGLE 2DOWN-POINTING_TRIANGLE 0DOUBLE_VERTICAL_BAR 0BLACK_SQUARE_FOR_STOP
  1CIRCLE_FOR_RECORD 0POWER_SYMBOL 1ON-OFF_SYMBOL 1ON_SYMBOL 1SLEEP_SYMBOL 0OBSERVER_EYE_SYMBOL
  0SYMBOL_FOR_NULL 2START_OF_HEADING 4TEXT 2END_OF_TEXT 4TRANSMISSION 2ENQUIRY 2ACKNOWLEDGE 2BELL
  2BACKSPACE 2HORIZONTAL_TABULATION 2LINE_FEED 2VERTICAL_TABULATION 2FORM_FEED 2CARRIAGE_RETURN
  2SHIFT_OUT 3IN 2DATA_LINK_ESCAPE 2DEVICE_CONTROL_ONE 4TWO 4THREE 4FOUR 2NEGATIVE_ACKNOWLEDGE
  2SYNCHRONOUS_IDLE 2END_OF_TRANSMISSION_BLOCK 2CANCEL 2END_OF_MEDIUM 2SUBSTITUTE 2ESCAPE
  2FILE_SEPARATOR 2GROUP_SEPARATOR 2RECORD_SEPARATOR 2UNIT_SEPARATOR 2SPACE 2DELETE 0BLANK_SYMBOL
  0OPEN_BOX 0SYMBOL_FOR_NEWLINE 2DELETE_FORM_TWO 2SUBSTITUTE_FORM_TWO =2440 0OCR_HOOK 1CHAIR 1FORK
  1INVERTED_FORK 1BELT_BUCKLE 1BOW_TIE 1BRANCH_BANK_IDENTIFICATION 1AMOUNT_OF_CHECK 1DASH
  1CUSTOMER_ACCOUNT_NUMBER 1DOUBLE_BACKSLASH =2460 0CIRCLED_DIGIT_ONE 2TWO 2THREE 2FOUR 2FIVE 2SIX
  2SEVEN 2EIGHT 2NINE 1NUMBER_TEN 2ELEVEN 2TWELVE 2THIRTEEN 2FOURTEEN 2FIFTEEN 2SIXTEEN 2SEVENTEEN
  2EIGHTEEN 2NINETEEN 2TWENTY 0PARENTHESIZED_DIGIT_ONE 2TWO 2THREE 2FOUR 2FIVE 2SIX 2SEVEN 2EIGHT
  2NINE 1NUMBER_TEN 2ELEVEN 2TWELVE 2THIRTEEN 2FOURTEEN 2FIFTEEN 2SIXTEEN 2SEVENTEEN 2EIGHTEEN
  2NINETEEN 2TWENTY 0DIGIT_ONE_FULL_STOP 1TWO_FULL_STOP 1THREE_FULL_STOP 1FOUR_FULL_STOP
  1FIVE_FULL_STOP 1SIX_FULL_STOP 1SEVEN_FULL_STOP 1EIGHT_FULL_STOP 1NINE_FULL_STOP
  0NUMBER_TEN_FULL_STOP 1ELEVEN_FULL_STOP 1TWELVE_FULL_STOP 1THIRTEEN_FULL_STOP
  1FOURTEEN_FULL_STOP 1FIFTEEN_FULL_STOP 1SIXTEEN_FULL_STOP 1SEVENTEEN_FULL_STOP
  1EIGHTEEN_FULL_STOP 1NINETEEN_FULL_STOP 1TWENTY_FULL_STOP 0PARENTHESIZED_LATIN_SMALL_LETTER_A 4B
  4C 4D 4E 4F 4G 4H 4I 4J 4K 4L 4M 4N 4O 4P 4Q 4R 4S 4T 4U 4V 4W 4X 4Y 4Z
  0CIRCLED_LATIN_CAPITAL_LETTER_A 4B 4C 4D 4E 4F 4G 4H 4I 4J 4K 4L 4M 4N 4O 4P 4Q 4R 4S 4T 4U 4V
  4W 4X 4Y 4Z 2SMALL_LETTER_A 4B 4C 4D 4E 4F 4G 4H 4I 4J 4K 4L 4M 4N 4O 4P 4Q 4R 4S 4T 4U 4V 4W 4X
  4Y 4Z 1DIGIT_ZERO 0NEGATIVE_CIRCLED_NUMBER_ELEVEN 3TWELVE 3THIRTEEN 3FOURTEEN 3FIFTEEN 3SIXTEEN
  3SEVENTEEN 3EIGHTEEN 3NINETEEN 3TWENTY 0DOUBLE_CIRCLED_DIGIT_ONE 3TWO 3THREE 3FOUR 3FIVE 3SIX
  3SEVEN 3EIGHT 3NINE 2NUMBER_TEN 0NEGATIVE_CIRCLED_DIGIT_ZERO 0BOX_DRAWINGS_LIGHT_HORIZONTAL
  2HEAVY_HORIZONTAL 2LIGHT_VERTICAL 2HEAVY_VERTICAL 2LIGHT_TRIPLE_DASH_HORIZONTAL
  2HEAVY_TRIPLE_DASH_HORIZONTAL 2LIGHT_TRIPLE_DASH_VERTICAL 2HEAVY_TRIPLE_DASH_VERTICAL
  2LIGHT_QUADRUPLE_DASH_HORIZONTAL 2HEAVY_QUADRUPLE_DASH_HORIZONTAL 2LIGHT_QUADRUPLE_DASH_VERTICAL
  2HEAVY_QUADRUPLE_DASH_VERTICAL 2LIGHT_DOWN_AND_RIGHT 2DOWN_LIGHT_AND_RIGHT_HEAVY
  3HEAVY_AND_RIGHT_LIGHT 2HEAVY_DOWN_AND_RIGHT 2LIGHT_DOWN_AND_LEFT 2DOWN_LIGHT_AND_LEFT_HEAVY
  3HEAVY_AND_LEFT_LIGHT 2HEAVY_DOWN_AND_LEFT 2LIGHT_UP_AND_RIGHT 2UP_LIGHT_AND_RIGHT_HEAVY
  3HEAVY_AND_RIGHT_LIGHT 2HEAVY_UP_AND_RIGHT 2LIGHT_UP_AND_LEFT 2UP_LIGHT_AND_LEFT_HEAVY
  3HEAVY_AND_LEFT_LIGHT 2HEAVY_UP_AND_LEFT 2LIGHT_VERTICAL_AND_RIGHT
  2VERTICAL_LIGHT_AND_RIGHT_HEAVY 2UP_HEAVY_AND_RIGHT_DOWN_LIGHT 2DOWN_HEAVY_AND_RIGHT_UP_LIGHT
  2VERTICAL_HEAVY_AND_RIGHT_LIGHT 2DOWN_LIGHT_AND_RIGHT_UP_HEAVY 2UP_LIGHT_AND_RIGHT_DOWN_HEAVY
  2HEAVY_VERTICAL_AND_RIGHT 2LIGHT_VERTICAL_AND_LEFT 2VERTICAL_LIGHT_AND_LEFT_HEAVY
  2UP_HEAVY_AND_LEFT_DOWN_LIGHT 2DOWN_HEAVY_AND_LEFT_UP_LIGHT 2VERTICAL_HEAVY_AND_LEFT_LIGHT
  2DOWN_LIGHT_AND_LEFT_UP_HEAVY 2UP_LIGHT_AND_LEFT_DOWN_HEAVY 2HEAVY_VERTICAL_AND_LEFT
  2LIGHT_DOWN_AND_HORIZONTAL 2LEFT_HEAVY_AND_RIGHT_DOWN_LIGHT 2RIGHT_HEAVY_AND_LEFT_DOWN_LIGHT
  2DOWN_LIGHT_AND_HORIZONTAL_HEAVY 3HEAVY_AND_HORIZONTAL_LIGHT 2RIGHT_LIGHT_AND_LEFT_DOWN_HEAVY
  2LEFT_LIGHT_AND_RIGHT_DOWN_HEAVY 2HEAVY_DOWN_AND_HORIZONTAL 2LIGHT_UP_AND_HORIZONTAL
  2LEFT_HEAVY_AND_RIGHT_UP_LIGHT 2RIGHT_HEAVY_AND_LEFT_UP_LIGHT 2UP_LIGHT_AND_HORIZONTAL_HEAVY
  3HEAVY_AND_HORIZONTAL_LIGHT 2RIGHT_LIGHT_AND_LEFT_UP_HEAVY 2LEFT_LIGHT_AND_RIGHT_UP_HEAVY
  2HEAVY_UP_AND_HORIZONTAL 2LIGHT_VERTICAL_AND_HORIZONTAL 2LEFT_HEAVY_AND_RIGHT_VERTICAL_LIGHT
  2RIGHT_HEAVY_AND_LEFT_VERTICAL_LIGHT 2VERTICAL_LIGHT_AND_HORIZONTAL_HEAVY
  2UP_HEAVY_AND_DOWN_HORIZONTAL_LIGHT 2DOWN_HEAVY_AND_UP_HORIZONTAL_LIGHT
  2VERTICAL_HEAVY_AND_HORIZONTAL_LIGHT 2LEFT_UP_HEAVY_AND_RIGHT_DOWN_LIGHT
  2RIGHT_UP_HEAVY_AND_LEFT_DOWN_LIGHT 2LEFT_DOWN_HEAVY_AND_RIGHT_UP_LIGHT
  2RIGHT_DOWN_HEAVY_AND_LEFT_UP_LIGHT 2DOWN_LIGHT_AND_UP_HORIZONTAL_HEAVY
  2UP_LIGHT_AND_DOWN_HORIZONTAL_HEAVY 2RIGHT_LIGHT_AND_LEFT_VERTICAL_HEAVY
  2LEFT_LIGHT_AND_RIGHT_VERTICAL_HEAVY 2HEAVY_VERTICAL_AND_HORIZONTAL
  2LIGHT_DOUBLE_DASH_HORIZONTAL 2HEAVY_DOUBLE_DASH_HORIZONTAL 2LIGHT_DOUBLE_DASH_VERTICAL
  2HEAVY_DOUBLE_DASH_VERTICAL 2DOUBLE_HORIZONTAL 3VERTICAL 2DOWN_SINGLE_AND_RIGHT_DOUBLE
  3DOUBLE_AND_RIGHT_SINGLE 2DOUBLE_DOWN_AND_RIGHT 2DOWN_SINGLE_AND_LEFT_DOUBLE
  3DOUBLE_AND_LEFT_SINGLE 2DOUBLE_DOWN_AND_LEFT 2UP_SINGLE_AND_RIGHT_DOUBLE
  3DOUBLE_AND_RIGHT_SINGLE 2DOUBLE_UP_AND_RIGHT 2UP_SINGLE_AND_LEFT_DOUBLE 3DOUBLE_AND_LEFT_SINGLE
  2DOUBLE_UP_AND_LEFT 2VERTICAL_SINGLE_AND_RIGHT_DOUBLE 3DOUBLE_AND_RIGHT_SINGLE
  2DOUBLE_VERTICAL_AND_RIGHT 2VERTICAL_SINGLE_AND_LEFT_DOUBLE 3DOUBLE_AND_LEFT_SINGLE
  2DOUBLE_VERTICAL_AND_LEFT 2DOWN_SINGLE_AND_HORIZONTAL_DOUBLE 3DOUBLE_AND_HORIZONTAL_SINGLE
  2DOUBLE_DOWN_AND_HORIZONTAL 2UP_SINGLE_AND_HORIZONTAL_DOUBLE 3DOUBLE_AND_HORIZONTAL_SINGLE
  2DOUBLE_UP_AND_HORIZONTAL 2VERTICAL_SINGLE_AND_HORIZONTAL_DOUBLE 3DOUBLE_AND_HORIZONTAL_SINGLE
  2DOUBLE_VERTICAL_AND_HORIZONTAL 2LIGHT_ARC_DOWN_AND_RIGHT 6LEFT 4UP_AND_LEFT 6RIGHT
  3DIAGONAL_UPPER_RIGHT_TO_LOWER_LEFT 5LEFT_TO_LOWER_RIGHT 4CROSS 3LEFT 3UP 3RIGHT 3DOWN
  2HEAVY_LEFT 3UP 3RIGHT 3DOWN 2LIGHT_LEFT_AND_HEAVY_RIGHT 3UP_AND_HEAVY_DOWN
  2HEAVY_LEFT_AND_LIGHT_RIGHT 3UP_AND_LIGHT_DOWN 0UPPER_HALF_BLOCK 0LOWER_ONE_EIGHTH_BLOCK
  2QUARTER_BLOCK 1THREE_EIGHTHS_BLOCK 1HALF_BLOCK 1FIVE_EIGHTHS_BLOCK 1THREE_QUARTERS_BLOCK
  1SEVEN_EIGHTHS_BLOCK 0FULL_BLOCK 0LEFT_SEVEN_EIGHTHS_BLOCK 1THREE_QUARTERS_BLOCK
  1FIVE_EIGHTHS_BLOCK 1HALF_BLOCK 1THREE_EIGHTHS_BLOCK 1ONE_QUARTER_BLOCK 2EIGHTH_BLOCK
  0RIGHT_HALF_BLOCK 0LIGHT_SHADE 0MEDIUM_SHADE 0DARK_SHADE 0UPPER_ONE_EIGHTH_BLOCK
  0RIGHT_ONE_EIGHTH_BLOCK 0QUADRANT_LOWER_LEFT 2RIGHT 1UPPER_LEFT 3AND_LOWER_LEFT_AND_LOWER_RIGHT
  5RIGHT 4UPPER_RIGHT_AND_LOWER_LEFT 8RIGHT 2RIGHT 3AND_LOWER_LEFT 6AND_LOWER_RIGHT 0BLACK_SQUARE
  0WHITE_SQUARE 2WITH_ROUNDED_CORNERS 2CONTAINING_BLACK_SMALL_SQUARE 0SQUARE_WITH_HORIZONTAL_FILL
  2VERTICAL_FILL 2ORTHOGONAL_CROSSHATCH_FILL 2UPPER_LEFT_TO_LOWER_RIGHT_FILL
  3RIGHT_TO_LOWER_LEFT_FILL 2DIAGONAL_CROSSHATCH_FILL 0BLACK_SMALL_SQUARE 0WHITE_SMALL_SQUARE
  0BLACK_RECTANGLE 0WHITE_RECTANGLE 0BLACK_VERTICAL_RECTANGLE 0WHITE_VERTICAL_RECTANGLE
  0BLACK_PARALLELOGRAM 0WHITE_PARALLELOGRAM 0BLACK_UP-POINTING_TRIANGLE
  0WHITE_UP-POINTING_TRIANGLE 0BLACK_UP-POINTING_SMALL_TRIANGLE 0WHITE_UP-POINTING_SMALL_TRIANGLE
  0BLACK_RIGHT-POINTING_TRIANGLE 0WHITE_RIGHT-POINTING_TRIANGLE
  0BLACK_RIGHT-POINTING_SMALL_TRIANGLE 0WHITE_RIGHT-POINTING_SMALL_TRIANGLE
  0BLACK_RIGHT-POINTING_POINTER 0WHITE_RIGHT-POINTING_POINTER 0BLACK_DOWN-POINTING_TRIANGLE
  0WHITE_DOWN-POINTING_TRIANGLE 0BLACK_DOWN-POINTING_SMALL_TRIANGLE
  0WHITE_DOWN-POINTING_SMALL_TRIANGLE 0BLACK_LEFT-POINTING_TRIANGLE 0WHITE_LEFT-POINTING_TRIANGLE
  0BLACK_LEFT-POINTING_SMALL_TRIANGLE 0WHITE_LEFT-POINTING_SMALL_TRIANGLE
  0BLACK_LEFT-POINTING_POINTER 0WHITE_LEFT-POINTING_POINTER 0BLACK_DIAMOND 0WHITE_DIAMOND
  2CONTAINING_BLACK_SMALL_DIAMOND 0FISHEYE 0LOZENGE 0WHITE_CIRCLE 0DOTTED_CIRCLE
  0CIRCLE_WITH_VERTICAL_FILL 0BULLSEYE 0BLACK_CIRCLE 0CIRCLE_WITH_LEFT_HALF_BLACK
  2RIGHT_HALF_BLACK 2LOWER_HALF_BLACK 2UPPER_HALF_BLACK 3RIGHT_QUADRANT_BLACK
  2ALL_BUT_UPPER_LEFT_QUADRANT_BLACK 0LEFT_HALF_BLACK_CIRCLE 0RIGHT_HALF_BLACK_CIRCLE
  0INVERSE_BULLET 1WHITE_CIRCLE 0UPPER_HALF_INVERSE_WHITE_CIRCLE 0LOWER_HALF_INVERSE_WHITE_CIRCLE
  0UPPER_LEFT_QUADRANT_CIRCULAR_ARC 1RIGHT_QUADRANT_CIRCULAR_ARC
  0LOWER_RIGHT_QUADRANT_CIRCULAR_ARC 1LEFT_QUADRANT_CIRCULAR_ARC 0UPPER_HALF_CIRCLE
  0LOWER_HALF_CIRCLE 0BLACK_LOWER_RIGHT_TRIANGLE 2LEFT_TRIANGLE 1UPPER_LEFT_TRIANGLE
  2RIGHT_TRIANGLE 0WHITE_BULLET 0SQUARE_WITH_LEFT_HALF_BLACK 2RIGHT_HALF_BLACK
  2UPPER_LEFT_DIAGONAL_HALF_BLACK 2LOWER_RIGHT_DIAGONAL_HALF_BLACK
  0WHITE_SQUARE_WITH_VERTICAL_BISECTING_LINE 1UP-POINTING_TRIANGLE_WITH_DOT
  0UP-POINTING_TRIANGLE_WITH_LEFT_HALF_BLACK 3RIGHT_HALF_BLACK 0LARGE_CIRCLE
  0WHITE_SQUARE_WITH_UPPER_LEFT_QUADRANT 3LOWER_LEFT_QUADRANT 4RIGHT_QUADRANT
  3UPPER_RIGHT_QUADRANT 1CIRCLE_WITH_UPPER_LEFT_QUADRANT 3LOWER_LEFT_QUADRANT 4RIGHT_QUADRANT
  3UPPER_RIGHT_QUADRANT 0UPPER_LEFT_TRIANGLE 1RIGHT_TRIANGLE 0LOWER_LEFT_TRIANGLE
  0WHITE_MEDIUM_SQUARE 0BLACK_MEDIUM_SQUARE 0WHITE_MEDIUM_SMALL_SQUARE 0BLACK_MEDIUM_SMALL_SQUARE
  0LOWER_RIGHT_TRIANGLE 0BLACK_SUN_WITH_RAYS 0CLOUD 0UMBRELLA 0SNOWMAN 0COMET 0BLACK_STAR
  0WHITE_STAR 0LIGHTNING 0THUNDERSTORM 0SUN 0ASCENDING_NODE 0DESCENDING_NODE 0CONJUNCTION
  0OPPOSITION 0BLACK_TELEPHONE 0WHITE_TELEPHONE 0BALLOT_BOX 2WITH_CHECK 3X 0SALTIRE
  0UMBRELLA_WITH_RAIN_DROPS 0HOT_BEVERAGE 0WHITE_SHOGI_PIECE 0BLACK_SHOGI_PIECE 0SHAMROCK
  0REVERSED_ROTATED_FLORAL_HEART_BULLET 0BLACK_LEFT_POINTING_INDEX 1RIGHT_POINTING_INDEX
  0WHITE_LEFT_POINTING_INDEX 1UP_POINTING_INDEX 1RIGHT_POINTING_INDEX 1DOWN_POINTING_INDEX
  0SKULL_AND_CROSSBONES 0CAUTION_SIGN 0RADIOACTIVE_SIGN 0BIOHAZARD_SIGN 0CADUCEUS 0ANKH
  0ORTHODOX_CROSS 0CHI_RHO 0CROSS_OF_LORRAINE 2JERUSALEM 0STAR_AND_CRESCENT 0FARSI_SYMBOL
  0ADI_SHAKTI 0HAMMER_AND_SICKLE 0PEACE_SYMBOL 0YIN_YANG 0TRIGRAM_FOR_HEAVEN 2LAKE 2FIRE 2THUNDER
  2WIND 2WATER 2MOUNTAIN 2EARTH 0WHEEL_OF_DHARMA 0WHITE_FROWNING_FACE 1SMILING_FACE
  0BLACK_SMILING_FACE 0WHITE_SUN_WITH_RAYS 0FIRST_QUARTER_MOON 0LAST_QUARTER_MOON 0MERCURY
  0FEMALE_SIGN 0EARTH 0MALE_SIGN 0JUPITER 0SATURN 0URANUS 0NEPTUNE 0PLUTO 0ARIES 0TAURUS 0GEMINI
  0CANCER 0LEO 0VIRGO 0LIBRA 0SCORPIUS 0SAGITTARIUS 0CAPRICORN 0AQUARIUS 0PISCES 0WHITE_CHESS_KING
  2QUEEN 2ROOK 2BISHOP 2KNIGHT 2PAWN 0BLACK_CHESS_KING 2QUEEN 2ROOK 2BISHOP 2KNIGHT 2PAWN
  1SPADE_SUIT 0WHITE_HEART_SUIT 1DIAMOND_SUIT 0BLACK_CLUB_SUIT 0WHITE_SPADE_SUIT 0BLACK_HEART_SUIT
  1DIAMOND_SUIT 0WHITE_CLUB_SUIT 0HOT_SPRINGS 0QUARTER_NOTE 0EIGHTH_NOTE 0BEAMED_EIGHTH_NOTES
  1SIXTEENTH_NOTES 0MUSIC_FLAT_SIGN 1NATURAL_SIGN 1SHARP_SIGN 0WEST_SYRIAC_CROSS
  0EAST_SYRIAC_CROSS 0UNIVERSAL_RECYCLING_SYMBOL 0RECYCLING_SYMBOL_FOR_TYPE-1_PLASTICS
  3TYPE-2_PLASTICS 3TYPE-3_PLASTICS 3TYPE-4_PLASTICS 3TYPE-5_PLASTICS 3TYPE-6_PLASTICS
  3TYPE-7_PLASTICS 3GENERIC_MATERIALS 0BLACK_UNIVERSAL_RECYCLING_SYMBOL 0RECYCLED_PAPER_SYMBOL
  0PARTIALLY-RECYCLED_PAPER_SYMBOL 0PERMANENT_PAPER_SIGN 0WHEELCHAIR_SYMBOL 0DIE_FACE-1 1FACE-2
  1FACE-3 1FACE-4 1FACE-5 1FACE-6 0WHITE_CIRCLE_WITH_DOT_RIGHT 3TWO_DOTS
  0BLACK_CIRCLE_WITH_WHITE_DOT_RIGHT 3TWO_WHITE_DOTS 0MONOGRAM_FOR_YANG 2YIN
  0DIGRAM_FOR_GREATER_YANG 2LESSER_YIN 3YANG 2GREATER_YIN 0WHITE_FLAG 0BLACK_FLAG 0HAMMER_AND_PICK
  0ANCHOR 0CROSSED_SWORDS 0STAFF_OF_AESCULAPIUS 0SCALES 0ALEMBIC 0FLOWER 0GEAR 0STAFF_OF_HERMES
  0ATOM_SYMBOL 0FLEUR-DE-LIS 0OUTLINED_WHITE_STAR 0THREE_LINES_CONVERGING_RIGHT 3LEFT
  0WARNING_SIGN 0HIGH_VOLTAGE_SIGN 0DOUBLED_FEMALE_SIGN 1MALE_SIGN
  0INTERLOCKED_FEMALE_AND_MALE_SIGN 0MALE_AND_FEMALE_SIGN 1WITH_STROKE_SIGN
  3AND_MALE_AND_FEMALE_SIGN 0VERTICAL_MALE_WITH_STROKE_SIGN 0HORIZONTAL_MALE_WITH_STROKE_SIGN
  0MEDIUM_WHITE_CIRCLE 1BLACK_CIRCLE 1SMALL_WHITE_CIRCLE 0MARRIAGE_SYMBOL 0DIVORCE_SYMBOL
  0UNMARRIED_PARTNERSHIP_SYMBOL 0COFFIN 0FUNERAL_URN 0NEUTER 0CERES 0PALLAS 0JUNO 0VESTA 0CHIRON
  0BLACK_MOON_LILITH 0SEXTILE 0SEMISEXTILE 0QUINCUNX 0SESQUIQUADRATE 0SOCCER_BALL 0BASEBALL
  0SQUARED_KEY 0WHITE_DRAUGHTS_MAN 2KING 0BLACK_DRAUGHTS_MAN 2KING 0SNOWMAN_WITHOUT_SNOW
  0SUN_BEHIND_CLOUD 0RAIN 0BLACK_SNOWMAN 0THUNDER_CLOUD_AND_RAIN 0TURNED_WHITE_SHOGI_PIECE
  1BLACK_SHOGI_PIECE 0WHITE_DIAMOND_IN_SQUARE 0CROSSING_LANES 0DISABLED_CAR 0OPHIUCHUS 0PICK
  0CAR_SLIDING 0HELMET_WITH_WHITE_CROSS 0CIRCLED_CROSSING_LANES 0CHAINS 0NO_ENTRY
  0ALTERNATE_ONE-WAY_LEFT_WAY_TRAFFIC 0BLACK_TWO-WAY_LEFT_WAY_TRAFFIC
  0WHITE_TWO-WAY_LEFT_WAY_TRAFFIC 0BLACK_LEFT_LANE_MERGE 0WHITE_LEFT_LANE_MERGE 0DRIVE_SLOW_SIGN
  0HEAVY_WHITE_DOWN-POINTING_TRIANGLE 0LEFT_CLOSED_ENTRY 0SQUARED_SALTIRE
  0FALLING_DIAGONAL_IN_WHITE_CIRCLE_IN_BLACK_SQUARE 0BLACK_TRUCK 0RESTRICTED_LEFT_ENTRY-1 2ENTRY-2
  0ASTRONOMICAL_SYMBOL_FOR_URANUS 0HEAVY_CIRCLE_WITH_STROKE_AND_TWO_DOTS_ABOVE 0PENTAGRAM
  0RIGHT-HANDED_INTERLACED_PENTAGRAM 0LEFT-HANDED_INTERLACED_PENTAGRAM 0INVERTED_PENTAGRAM
  0BLACK_CROSS_ON_SHIELD 0SHINTO_SHRINE 0CHURCH 0CASTLE 0HISTORIC_SITE 0GEAR_WITHOUT_HUB
  1WITH_HANDLES 0MAP_SYMBOL_FOR_LIGHTHOUSE 0MOUNTAIN 0UMBRELLA_ON_GROUND 0FOUNTAIN 0FLAG_IN_HOLE
  0FERRY 0SAILBOAT 0SQUARE_FOUR_CORNERS 0SKIER 0ICE_SKATE 0PERSON_WITH_BALL 0TENT
  0JAPANESE_BANK_SYMBOL 0HEADSTONE_GRAVEYARD_SYMBOL 0FUEL_PUMP 0CUP_ON_BLACK_SQUARE
  0WHITE_FLAG_WITH_HORIZONTAL_MIDDLE_BLACK_STRIPE 0BLACK_SAFETY_SCISSORS 0UPPER_BLADE_SCISSORS
  0BLACK_SCISSORS 0LOWER_BLADE_SCISSORS 0WHITE_SCISSORS 1HEAVY_CHECK_MARK 0TELEPHONE_LOCATION_SIGN
  0TAPE_DRIVE 0AIRPLANE 0ENVELOPE 0RAISED_FIST 1HAND 0VICTORY_HAND 0WRITING_HAND
  0LOWER_RIGHT_PENCIL 0PENCIL 0UPPER_RIGHT_PENCIL 0WHITE_NIB 0BLACK_NIB 0CHECK_MARK
  0HEAVY_CHECK_MARK 0MULTIPLICATION_X 0HEAVY_MULTIPLICATION_X 0BALLOT_X 0HEAVY_BALLOT_X
  0OUTLINED_GREEK_CROSS 0HEAVY_GREEK_CROSS 0OPEN_CENTRE_CROSS 0HEAVY_OPEN_CENTRE_CROSS
  0LATIN_CROSS 0SHADOWED_WHITE_LATIN_CROSS 0OUTLINED_LATIN_CROSS 0MALTESE_CROSS 0STAR_OF_DAVID
  0FOUR_TEARDROP-SPOKED_ASTERISK 1BALLOON-SPOKED_ASTERISK 0HEAVY_FOUR_BALLOON-SPOKED_ASTERISK
  0FOUR_CLUB-SPOKED_ASTERISK 0BLACK_FOUR_POINTED_STAR 0WHITE_FOUR_POINTED_STAR 0SPARKLES
  0STRESS_OUTLINED_WHITE_STAR 0CIRCLED_WHITE_STAR 0OPEN_CENTRE_BLACK_STAR 0BLACK_CENTRE_WHITE_STAR
  0OUTLINED_BLACK_STAR 0HEAVY_OUTLINED_BLACK_STAR 0PINWHEEL_STAR 0SHADOWED_WHITE_STAR
  0HEAVY_ASTERISK 0OPEN_CENTRE_ASTERISK 0EIGHT_SPOKED_ASTERISK 1POINTED_BLACK_STAR 2PINWHEEL_STAR
  0SIX_POINTED_BLACK_STAR 0EIGHT_POINTED_RECTILINEAR_BLACK_STAR
  0HEAVY_EIGHT_POINTED_RECTILINEAR_BLACK_STAR 0TWELVE_POINTED_BLACK_STAR 0SIXTEEN_POINTED_ASTERISK
  0TEARDROP-SPOKED_ASTERISK 0OPEN_CENTRE_TEARDROP-SPOKED_ASTERISK 0HEAVY_TEARDROP-SPOKED_ASTERISK
  0SIX_PETALLED_BLACK_AND_WHITE_FLORETTE 0BLACK_FLORETTE 0WHITE_FLORETTE
  0EIGHT_PETALLED_OUTLINED_BLACK_FLORETTE 0CIRCLED_OPEN_CENTRE_EIGHT_POINTED_STAR
  0HEAVY_TEARDROP-SPOKED_PINWHEEL_ASTERISK 0SNOWFLAKE 0TIGHT_TRIFOLIATE_SNOWFLAKE
  0HEAVY_CHEVRON_SNOWFLAKE 0SPARKLE 0HEAVY_SPARKLE 0BALLOON-SPOKED_ASTERISK
  0EIGHT_TEARDROP-SPOKED_PROPELLER_ASTERISK 0HEAVY_EIGHT_TEARDROP-SPOKED_PROPELLER_ASTERISK
  0CROSS_MARK 0SHADOWED_WHITE_CIRCLE 0NEGATIVE_SQUARED_CROSS_MARK
  0LOWER_RIGHT_DROP-SHADOWED_WHITE_SQUARE 0UPPER_RIGHT_DROP-SHADOWED_WHITE_SQUARE
  0LOWER_RIGHT_SHADOWED_WHITE_SQUARE 0UPPER_RIGHT_SHADOWED_WHITE_SQUARE
  0BLACK_QUESTION_MARK_ORNAMENT 0WHITE_QUESTION_MARK_ORNAMENT 1EXCLAMATION_MARK_ORNAMENT
  0BLACK_DIAMOND_MINUS_WHITE_X 0HEAVY_EXCLAMATION_MARK_SYMBOL 0LIGHT_VERTICAL_BAR
  0MEDIUM_VERTICAL_BAR 0HEAVY_VERTICAL_BAR 1SINGLE_TURNED_COMMA_QUOTATION_MARK_ORNAMENT
  2COMMA_QUOTATION_MARK_ORNAMENT 1DOUBLE_TURNED_COMMA_QUOTATION_MARK_ORNAMENT
  2COMMA_QUOTATION_MARK_ORNAMENT 1LOW_SINGLE_COMMA_QUOTATION_MARK_ORNAMENT
  2DOUBLE_COMMA_QUOTATION_MARK_ORNAMENT 0CURVED_STEM_PARAGRAPH_SIGN_ORNAMENT
  0HEAVY_EXCLAMATION_MARK_ORNAMENT 1HEART_EXCLAMATION_MARK_ORNAMENT 1BLACK_HEART
  0ROTATED_HEAVY_BLACK_HEART_BULLET 0FLORAL_HEART 0ROTATED_FLORAL_HEART_BULLET
  0MEDIUM_LEFT_PARENTHESIS_ORNAMENT 1RIGHT_PARENTHESIS_ORNAMENT
  1FLATTENED_LEFT_PARENTHESIS_ORNAMENT 2RIGHT_PARENTHESIS_ORNAMENT
  1LEFT-POINTING_ANGLE_BRACKET_ORNAMENT 1RIGHT-POINTING_ANGLE_BRACKET_ORNAMENT
  0HEAVY_LEFT-POINTING_ANGLE_QUOTATION_MARK_ORNAMENT 1RIGHT-POINTING_ANGLE_QUOTATION_MARK_ORNAMENT
  1LEFT-POINTING_ANGLE_BRACKET_ORNAMENT 1RIGHT-POINTING_ANGLE_BRACKET_ORNAMENT
  0LIGHT_LEFT_TORTOISE_SHELL_BRACKET_ORNAMENT 1RIGHT_TORTOISE_SHELL_BRACKET_ORNAMENT
  0MEDIUM_LEFT_CURLY_BRACKET_ORNAMENT 1RIGHT_CURLY_BRACKET_ORNAMENT
  0DINGBAT_NEGATIVE_CIRCLED_DIGIT_ONE 4TWO 4THREE 4FOUR 4FIVE 4SIX 4SEVEN 4EIGHT 4NINE 3NUMBER_TEN
  1CIRCLED_SANS-SERIF_DIGIT_ONE 4TWO 4THREE 4FOUR 4FIVE 4SIX 4SEVEN 4EIGHT 4NINE 3NUMBER_TEN
  1NEGATIVE_CIRCLED_SANS-SERIF_DIGIT_ONE 5TWO 5THREE 5FOUR 5FIVE 5SIX 5SEVEN 5EIGHT 5NINE
  4NUMBER_TEN 0HEAVY_WIDE-HEADED_RIGHTWARDS_ARROW 1PLUS_SIGN 1MINUS_SIGN 1DIVISION_SIGN
  1SOUTH_EAST_ARROW 1RIGHTWARDS_ARROW 1NORTH_EAST_ARROW 0DRAFTING_POINT_RIGHTWARDS_ARROW
  0HEAVY_ROUND-TIPPED_RIGHTWARDS_ARROW 0TRIANGLE-HEADED_RIGHTWARDS_ARROW
  0HEAVY_TRIANGLE-HEADED_RIGHTWARDS_ARROW 0DASHED_TRIANGLE-HEADED_RIGHTWARDS_ARROW
  0HEAVY_DASHED_TRIANGLE-HEADED_RIGHTWARDS_ARROW 0BLACK_RIGHTWARDS_ARROW
  0THREE-D_TOP-LIGHTED_RIGHTWARDS_ARROWHEAD 1BOTTOM-LIGHTED_RIGHTWARDS_ARROWHEAD
  0BLACK_RIGHTWARDS_ARROWHEAD 0HEAVY_BLACK_CURVED_DOWNWARDS_AND_RIGHTWARDS_ARROW
  3UPWARDS_AND_RIGHTWARDS_ARROW 0SQUAT_BLACK_RIGHTWARDS_ARROW
  0HEAVY_CONCAVE-POINTED_BLACK_RIGHTWARDS_ARROW 0RIGHT-SHADED_WHITE_RIGHTWARDS_ARROW
  0LEFT-SHADED_WHITE_RIGHTWARDS_ARROW 0BACK-TILTED_SHADOWED_WHITE_RIGHTWARDS_ARROW
  0FRONT-TILTED_SHADOWED_WHITE_RIGHTWARDS_ARROW 0HEAVY_LOWER_RIGHT-SHADOWED_WHITE_RIGHTWARDS_ARROW
  1UPPER_RIGHT-SHADOWED_WHITE_RIGHTWARDS_ARROW
  0NOTCHED_LOWER_RIGHT-SHADOWED_WHITE_RIGHTWARDS_ARROW 0CURLY_LOOP
  0NOTCHED_UPPER_RIGHT-SHADOWED_WHITE_RIGHTWARDS_ARROW 0CIRCLED_HEAVY_WHITE_RIGHTWARDS_ARROW
  0WHITE-FEATHERED_RIGHTWARDS_ARROW 0BLACK-FEATHERED_SOUTH_EAST_ARROW 1RIGHTWARDS_ARROW
  1NORTH_EAST_ARROW 0HEAVY_BLACK-FEATHERED_SOUTH_EAST_ARROW 2RIGHTWARDS_ARROW 2NORTH_EAST_ARROW
  0TEARDROP-BARBED_RIGHTWARDS_ARROW 0HEAVY_TEARDROP-SHANKED_RIGHTWARDS_ARROW
  0WEDGE-TAILED_RIGHTWARDS_ARROW 0HEAVY_WEDGE-TAILED_RIGHTWARDS_ARROW
  0OPEN-OUTLINED_RIGHTWARDS_ARROW 0DOUBLE_CURLY_LOOP 0THREE_DIMENSIONAL_ANGLE
  0WHITE_TRIANGLE_CONTAINING_SMALL_WHITE_TRIANGLE 0PERPENDICULAR 0OPEN_SUBSET 1SUPERSET
  0LEFT_S-SHAPED_BAG_DELIMITER 0RIGHT_S-SHAPED_BAG_DELIMITER 0OR_WITH_DOT_INSIDE
  0REVERSE_SOLIDUS_PRECEDING_SUBSET 0SUPERSET_PRECEDING_SOLIDUS
  0VERTICAL_BAR_WITH_HORIZONTAL_STROKE 0MATHEMATICAL_RISING_DIAGONAL 0LONG_DIVISION
  0MATHEMATICAL_FALLING_DIAGONAL 0SQUARED_LOGICAL_AND 2OR 0WHITE_DIAMOND_WITH_CENTRED_DOT
  0AND_WITH_DOT 0ELEMENT_OF_OPENING_UPWARDS 0LOWER_RIGHT_CORNER_WITH_DOT
  0UPPER_LEFT_CORNER_WITH_DOT 0LEFT_OUTER_JOIN 0RIGHT_OUTER_JOIN 0FULL_OUTER_JOIN 0LARGE_UP_TACK
  1DOWN_TACK 0LEFT_AND_RIGHT_DOUBLE_TURNSTILE 3TACK 1MULTIMAP 0LONG_RIGHT_TACK 1LEFT_TACK
  0UP_TACK_WITH_CIRCLE_ABOVE 0LOZENGE_DIVIDED_BY_HORIZONTAL_RULE 0WHITE_CONCAVE-SIDED_DIAMOND
  3WITH_LEFTWARDS_TICK 4RIGHTWARDS_TICK 1SQUARE_WITH_LEFTWARDS_TICK 3RIGHTWARDS_TICK
  0MATHEMATICAL_LEFT_WHITE_SQUARE_BRACKET 1RIGHT_WHITE_SQUARE_BRACKET 1LEFT_ANGLE_BRACKET
  1RIGHT_ANGLE_BRACKET 1LEFT_DOUBLE_ANGLE_BRACKET 1RIGHT_DOUBLE_ANGLE_BRACKET
  1LEFT_WHITE_TORTOISE_SHELL_BRACKET 1RIGHT_WHITE_TORTOISE_SHELL_BRACKET
  1LEFT_FLATTENED_PARENTHESIS 1RIGHT_FLATTENED_PARENTHESIS 0UPWARDS_QUADRUPLE_ARROW
  0DOWNWARDS_QUADRUPLE_ARROW 0ANTICLOCKWISE_GAPPED_CIRCLE_ARROW 0CLOCKWISE_GAPPED_CIRCLE_ARROW
  0RIGHT_ARROW_WITH_CIRCLED_PLUS 0LONG_LEFTWARDS_ARROW 1RIGHTWARDS_ARROW 1LEFT_RIGHT_ARROW
  1LEFTWARDS_DOUBLE_ARROW 1RIGHTWARDS_DOUBLE_ARROW 1LEFT_RIGHT_DOUBLE_ARROW
  1LEFTWARDS_ARROW_FROM_BAR 1RIGHTWARDS_ARROW_FROM_BAR 1LEFTWARDS_DOUBLE_ARROW_FROM_BAR
  1RIGHTWARDS_DOUBLE_ARROW_FROM_BAR 2SQUIGGLE_ARROW 0BRAILLE_PATTERN_BLANK 2DOTS-1 2DOTS-2
  2DOTS-12 2DOTS-3 2DOTS-13 2DOTS-23 2DOTS-123 2DOTS-4 2DOTS-14 2DOTS-24 2DOTS-124 2DOTS-34
  2DOTS-134 2DOTS-234 2DOTS-1234 2DOTS-5 2DOTS-15 2DOTS-25 2DOTS-125 2DOTS-35 2DOTS-135 2DOTS-235
  2DOTS-1235 2DOTS-45 2DOTS-145 2DOTS-245 2DOTS-1245 2DOTS-345 2DOTS-1345 2DOTS-2345 2DOTS-12345
  2DOTS-6 2DOTS-16 2DOTS-26 2DOTS-126 2DOTS-36 2DOTS-136 2DOTS-236 2DOTS-1236 2DOTS-46 2DOTS-146
  2DOTS-246 2DOTS-1246 2DOTS-346 2DOTS-1346 2DOTS-2346 2DOTS-12346 2DOTS-56 2DOTS-156 2DOTS-256
  2DOTS-1256 2DOTS-356 2DOTS-1356 2DOTS-2356 2DOTS-12356 2DOTS-456 2DOTS-1456 2DOTS-2456
  2DOTS-12456 2DOTS-3456 2DOTS-13456 2DOTS-23456 2DOTS-123456 2DOTS-7 2DOTS-17 2DOTS-27 2DOTS-127
  2DOTS-37 2DOTS-137 2DOTS-237 2DOTS-1237 2DOTS-47 2DOTS-147 2DOTS-247 2DOTS-1247 2DOTS-347
  2DOTS-1347 2DOTS-2347 2DOTS-12347 2DOTS-57 2DOTS-157 2DOTS-257 2DOTS-1257 2DOTS-357 2DOTS-1357
  2DOTS-2357 2DOTS-12357 2DOTS-457 2DOTS-1457 2DOTS-2457 2DOTS-12457 2DOTS-3457 2DOTS-13457
  2DOTS-23457 2DOTS-123457 2DOTS-67 2DOTS-167 2DOTS-267 2DOTS-1267 2DOTS-367 2DOTS-1367 2DOTS-2367
  2DOTS-12367 2DOTS-467 2DOTS-1467 2DOTS-2467 2DOTS-12467 2DOTS-3467 2DOTS-13467 2DOTS-23467
  2DOTS-123467 2DOTS-567 2DOTS-1567 2DOTS-2567 2DOTS-12567 2DOTS-3567 2DOTS-13567 2DOTS-23567
  2DOTS-123567 2DOTS-4567 2DOTS-14567 2DOTS-24567 2DOTS-124567 2DOTS-34567 2DOTS-134567
  2DOTS-234567 2DOTS-1234567 2DOTS-8 2DOTS-18 2DOTS-28 2DOTS-128 2DOTS-38 2DOTS-138 2DOTS-238
  2DOTS-1238 2DOTS-48 2DOTS-148 2DOTS-248 2DOTS-1248 2DOTS-348 2DOTS-1348 2DOTS-2348 2DOTS-12348
  2DOTS-58 2DOTS-158 2DOTS-258 2DOTS-1258 2DOTS-358 2DOTS-1358 2DOTS-2358 2DOTS-12358 2DOTS-458
  2DOTS-1458 2DOTS-2458 2DOTS-12458 2DOTS-3458 2DOTS-13458 2DOTS-23458 2DOTS-123458 2DOTS-68
  2DOTS-168 2DOTS-268 2DOTS-1268 2DOTS-368 2DOTS-1368 2DOTS-2368 2DOTS-12368 2DOTS-468 2DOTS-1468
  2DOTS-2468 2DOTS-12468 2DOTS-3468 2DOTS-13468 2DOTS-23468 2DOTS-123468 2DOTS-568 2DOTS-1568
  2DOTS-2568 2DOTS-12568 2DOTS-3568 2DOTS-13568 2DOTS-23568 2DOTS-123568 2DOTS-4568 2DOTS-14568
  2DOTS-24568 2DOTS-124568 2DOTS-34568 2DOTS-134568 2DOTS-234568 2DOTS-1234568 2DOTS-78 2DOTS-178
  2DOTS-278 2DOTS-1278 2DOTS-378 2DOTS-1378 2DOTS-2378 2DOTS-12378 2DOTS-478 2DOTS-1478 2DOTS-2478
  2DOTS-12478 2DOTS-3478 2DOTS-13478 2DOTS-23478 2DOTS-123478 2DOTS-578 2DOTS-1578 2DOTS-2578
  2DOTS-12578 2DOTS-3578 2DOTS-13578 2DOTS-23578 2DOTS-123578 2DOTS-4578 2DOTS-14578 2DOTS-24578
  2DOTS-124578 2DOTS-34578 2DOTS-134578 2DOTS-234578 2DOTS-1234578 2DOTS-678 2DOTS-1678 2DOTS-2678
  2DOTS-12678 2DOTS-3678 2DOTS-13678 2DOTS-23678 2DOTS-123678 2DOTS-4678 2DOTS-14678 2DOTS-24678
  2DOTS-124678 2DOTS-34678 2DOTS-134678 2DOTS-234678 2DOTS-1234678 2DOTS-5678 2DOTS-15678
  2DOTS-25678 2DOTS-125678 2DOTS-35678 2DOTS-135678 2DOTS-235678 2DOTS-1235678 2DOTS-45678
  2DOTS-145678 2DOTS-245678 2DOTS-1245678 2DOTS-345678 2DOTS-1345678 2DOTS-2345678 2DOTS-12345678
  0RIGHTWARDS_TWO-HEADED_ARROW_WITH_VERTICAL_STROKE 4DOUBLE_VERTICAL_STROKE
  0LEFTWARDS_DOUBLE_ARROW_WITH_VERTICAL_STROKE 0RIGHTWARDS_DOUBLE_ARROW_WITH_VERTICAL_STROKE
  0LEFT_RIGHT_DOUBLE_ARROW_WITH_VERTICAL_STROKE 0RIGHTWARDS_TWO-HEADED_ARROW_FROM_BAR
  0LEFTWARDS_DOUBLE_ARROW_FROM_BAR 0RIGHTWARDS_DOUBLE_ARROW_FROM_BAR
  0DOWNWARDS_ARROW_WITH_HORIZONTAL_STROKE 0UPWARDS_ARROW_WITH_HORIZONTAL_STROKE 1TRIPLE_ARROW
  0DOWNWARDS_TRIPLE_ARROW 0LEFTWARDS_DOUBLE_DASH_ARROW 0RIGHTWARDS_DOUBLE_DASH_ARROW
  0LEFTWARDS_TRIPLE_DASH_ARROW 0RIGHTWARDS_TRIPLE_DASH_ARROW 1TWO-HEADED_TRIPLE_DASH_ARROW
  1ARROW_WITH_DOTTED_STEM 0UPWARDS_ARROW_TO_BAR 0DOWNWARDS_ARROW_TO_BAR
  0RIGHTWARDS_ARROW_WITH_TAIL_WITH_VERTICAL_STROKE 5DOUBLE_VERTICAL_STROKE
  1TWO-HEADED_ARROW_WITH_TAIL 5WITH_VERTICAL_STROKE 6DOUBLE_VERTICAL_STROKE 0LEFTWARDS_ARROW-TAIL
  0RIGHTWARDS_ARROW-TAIL 0LEFTWARDS_DOUBLE_ARROW-TAIL 0RIGHTWARDS_DOUBLE_ARROW-TAIL
  0LEFTWARDS_ARROW_TO_BLACK_DIAMOND 0RIGHTWARDS_ARROW_TO_BLACK_DIAMOND
  0LEFTWARDS_ARROW_FROM_BAR_TO_BLACK_DIAMOND 0RIGHTWARDS_ARROW_FROM_BAR_TO_BLACK_DIAMOND
  0NORTH_WEST_AND_SOUTH_EAST_ARROW 1EAST_AND_SOUTH_WEST_ARROW 1WEST_ARROW_WITH_HOOK
  1EAST_ARROW_WITH_HOOK 0SOUTH_EAST_ARROW_WITH_HOOK 1WEST_ARROW_WITH_HOOK
  0NORTH_WEST_ARROW_AND_NORTH_EAST_ARROW 1EAST_ARROW_AND_SOUTH_EAST_ARROW
  0SOUTH_EAST_ARROW_AND_SOUTH_WEST_ARROW 1WEST_ARROW_AND_NORTH_WEST_ARROW
  0RISING_DIAGONAL_CROSSING_FALLING_DIAGONAL 0FALLING_DIAGONAL_CROSSING_RISING_DIAGONAL
  0SOUTH_EAST_ARROW_CROSSING_NORTH_EAST_ARROW 0NORTH_EAST_ARROW_CROSSING_SOUTH_EAST_ARROW
  0FALLING_DIAGONAL_CROSSING_NORTH_EAST_ARROW 0RISING_DIAGONAL_CROSSING_SOUTH_EAST_ARROW
  0NORTH_EAST_ARROW_CROSSING_NORTH_WEST_ARROW 1WEST_ARROW_CROSSING_NORTH_EAST_ARROW
  0WAVE_ARROW_POINTING_DIRECTLY_RIGHT 0ARROW_POINTING_RIGHTWARDS_THEN_CURVING_UPWARDS 5DOWNWARDS
  2DOWNWARDS_THEN_CURVING_LEFTWARDS 5RIGHTWARDS 0RIGHT-SIDE_ARC_CLOCKWISE_ARROW
  0LEFT-SIDE_ARC_ANTICLOCKWISE_ARROW 0TOP_ARC_ANTICLOCKWISE_ARROW 0BOTTOM_ARC_ANTICLOCKWISE_ARROW
  0TOP_ARC_CLOCKWISE_ARROW_WITH_MINUS 2ANTICLOCKWISE_ARROW_WITH_PLUS
  0LOWER_RIGHT_SEMICIRCULAR_CLOCKWISE_ARROW 1LEFT_SEMICIRCULAR_ANTICLOCKWISE_ARROW
  0ANTICLOCKWISE_CLOSED_CIRCLE_ARROW 0CLOCKWISE_CLOSED_CIRCLE_ARROW
  0RIGHTWARDS_ARROW_ABOVE_SHORT_LEFTWARDS_ARROW 0LEFTWARDS_ARROW_ABOVE_SHORT_RIGHTWARDS_ARROW
  0SHORT_RIGHTWARDS_ARROW_ABOVE_LEFTWARDS_ARROW 0RIGHTWARDS_ARROW_WITH_PLUS_BELOW
  0LEFTWARDS_ARROW_WITH_PLUS_BELOW 0RIGHTWARDS_ARROW_THROUGH_X
  0LEFT_RIGHT_ARROW_THROUGH_SMALL_CIRCLE 0UPWARDS_TWO-HEADED_ARROW_FROM_SMALL_CIRCLE
  0LEFT_BARB_UP_RIGHT_BARB_DOWN_HARPOON 2DOWN_RIGHT_BARB_UP_HARPOON
  0UP_BARB_RIGHT_DOWN_BARB_LEFT_HARPOON 2LEFT_DOWN_BARB_RIGHT_HARPOON
  0LEFT_BARB_UP_RIGHT_BARB_UP_HARPOON 0UP_BARB_RIGHT_DOWN_BARB_RIGHT_HARPOON
  0LEFT_BARB_DOWN_RIGHT_BARB_DOWN_HARPOON 0UP_BARB_LEFT_DOWN_BARB_LEFT_HARPOON
  0LEFTWARDS_HARPOON_WITH_BARB_UP_TO_BAR 0RIGHTWARDS_HARPOON_WITH_BARB_UP_TO_BAR
  0UPWARDS_HARPOON_WITH_BARB_RIGHT_TO_BAR 0DOWNWARDS_HARPOON_WITH_BARB_RIGHT_TO_BAR
  0LEFTWARDS_HARPOON_WITH_BARB_DOWN_TO_BAR 0RIGHTWARDS_HARPOON_WITH_BARB_DOWN_TO_BAR
  0UPWARDS_HARPOON_WITH_BARB_LEFT_TO_BAR 0DOWNWARDS_HARPOON_WITH_BARB_LEFT_TO_BAR
  0LEFTWARDS_HARPOON_WITH_BARB_UP_FROM_BAR 0RIGHTWARDS_HARPOON_WITH_BARB_UP_FROM_BAR
  0UPWARDS_HARPOON_WITH_BARB_RIGHT_FROM_BAR 0DOWNWARDS_HARPOON_WITH_BARB_RIGHT_FROM_BAR
  0LEFTWARDS_HARPOON_WITH_BARB_DOWN_FROM_BAR 0RIGHTWARDS_HARPOON_WITH_BARB_DOWN_FROM_BAR
  0UPWARDS_HARPOON_WITH_BARB_LEFT_FROM_BAR 0DOWNWARDS_HARPOON_WITH_BARB_LEFT_FROM_BAR
  0LEFTWARDS_HARPOON_WITH_BARB_UP_ABOVE_LEFTWARDS_HARPOON_WITH_BARB_DOWN
  0UPWARDS_HARPOON_WITH_BARB_LEFT_BESIDE_UPWARDS_HARPOON_WITH_BARB_RIGHT
  0RIGHTWARDS_HARPOON_WITH_BARB_UP_ABOVE_RIGHTWARDS_HARPOON_WITH_BARB_DOWN
  0DOWNWARDS_HARPOON_WITH_BARB_LEFT_BESIDE_DOWNWARDS_HARPOON_WITH_BARB_RIGHT
  0LEFTWARDS_HARPOON_WITH_BARB_UP_ABOVE_RIGHTWARDS_HARPOON_WITH_BARB_UP
  4DOWN_ABOVE_RIGHTWARDS_HARPOON_WITH_BARB_DOWN
  0RIGHTWARDS_HARPOON_WITH_BARB_UP_ABOVE_LEFTWARDS_HARPOON_WITH_BARB_UP
  4DOWN_ABOVE_LEFTWARDS_HARPOON_WITH_BARB_DOWN 0LEFTWARDS_HARPOON_WITH_BARB_UP_ABOVE_LONG_DASH
  4DOWN_BELOW_LONG_DASH 0RIGHTWARDS_HARPOON_WITH_BARB_UP_ABOVE_LONG_DASH 4DOWN_BELOW_LONG_DASH
  0UPWARDS_HARPOON_WITH_BARB_LEFT_BESIDE_DOWNWARDS_HARPOON_WITH_BARB_RIGHT
  0DOWNWARDS_HARPOON_WITH_BARB_LEFT_BESIDE_UPWARDS_HARPOON_WITH_BARB_RIGHT
  0RIGHT_DOUBLE_ARROW_WITH_ROUNDED_HEAD 0EQUALS_SIGN_ABOVE_RIGHTWARDS_ARROW
  0TILDE_OPERATOR_ABOVE_RIGHTWARDS_ARROW 0LEFTWARDS_ARROW_ABOVE_TILDE_OPERATOR
  0RIGHTWARDS_ARROW_ABOVE_TILDE_OPERATOR 3ALMOST_EQUAL_TO 0LESS-THAN_ABOVE_LEFTWARDS_ARROW
  0LEFTWARDS_ARROW_THROUGH_LESS-THAN 0GREATER-THAN_ABOVE_RIGHTWARDS_ARROW
  0SUBSET_ABOVE_RIGHTWARDS_ARROW 0LEFTWARDS_ARROW_THROUGH_SUBSET 0SUPERSET_ABOVE_LEFTWARDS_ARROW
  0LEFT_FISH_TAIL 0RIGHT_FISH_TAIL 0UP_FISH_TAIL 0DOWN_FISH_TAIL 0TRIPLE_VERTICAL_BAR_DELIMITER
  0Z_NOTATION_SPOT 2TYPE_COLON 0LEFT_WHITE_CURLY_BRACKET 0RIGHT_WHITE_CURLY_BRACKET
  0LEFT_WHITE_PARENTHESIS 0RIGHT_WHITE_PARENTHESIS 0Z_NOTATION_LEFT_IMAGE_BRACKET
  2RIGHT_IMAGE_BRACKET 2LEFT_BINDING_BRACKET 2RIGHT_BINDING_BRACKET
  0LEFT_SQUARE_BRACKET_WITH_UNDERBAR 0RIGHT_SQUARE_BRACKET_WITH_UNDERBAR
  0LEFT_SQUARE_BRACKET_WITH_TICK_IN_TOP_CORNER 0RIGHT_SQUARE_BRACKET_WITH_TICK_IN_BOTTOM_CORNER
  0LEFT_SQUARE_BRACKET_WITH_TICK_IN_BOTTOM_CORNER 0RIGHT_SQUARE_BRACKET_WITH_TICK_IN_TOP_CORNER
  0LEFT_ANGLE_BRACKET_WITH_DOT 0RIGHT_ANGLE_BRACKET_WITH_DOT 0LEFT_ARC_LESS-THAN_BRACKET
  0RIGHT_ARC_GREATER-THAN_BRACKET 0DOUBLE_LEFT_ARC_GREATER-THAN_BRACKET
  1RIGHT_ARC_LESS-THAN_BRACKET 0LEFT_BLACK_TORTOISE_SHELL_BRACKET
  0RIGHT_BLACK_TORTOISE_SHELL_BRACKET 0DOTTED_FENCE 0VERTICAL_ZIGZAG_LINE
  0MEASURED_ANGLE_OPENING_LEFT 0RIGHT_ANGLE_VARIANT_WITH_SQUARE 0MEASURED_RIGHT_ANGLE_WITH_DOT
  0ANGLE_WITH_S_INSIDE 0ACUTE_ANGLE 0SPHERICAL_ANGLE_OPENING_LEFT 3UP 0TURNED_ANGLE
  0REVERSED_ANGLE 0ANGLE_WITH_UNDERBAR 0REVERSED_ANGLE_WITH_UNDERBAR 0OBLIQUE_ANGLE_OPENING_UP
  3DOWN 0MEASURED_ANGLE_WITH_OPEN_ARM_ENDING_IN_ARROW_POINTING_UP_AND_RIGHT bLEFT 9DOWN_AND_RIGHT
  bLEFT 9RIGHT_AND_UP 9LEFT_AND_UP 9RIGHT_AND_DOWN 9LEFT_AND_DOWN 0REVERSED_EMPTY_SET
  0EMPTY_SET_WITH_OVERBAR 3SMALL_CIRCLE_ABOVE 3RIGHT_ARROW_ABOVE 3LEFT_ARROW_ABOVE
  0CIRCLE_WITH_HORIZONTAL_BAR 0CIRCLED_VERTICAL_BAR 1PARALLEL 1REVERSE_SOLIDUS 1PERPENDICULAR
  0CIRCLE_DIVIDED_BY_HORIZONTAL_BAR_AND_TOP_HALF_DIVIDED_BY_VERTICAL_BAR 1WITH_SUPERIMPOSED_X
  0CIRCLED_ANTICLOCKWISE-ROTATED_DIVISION_SIGN 0UP_ARROW_THROUGH_CIRCLE 0CIRCLED_WHITE_BULLET
  1BULLET 1LESS-THAN 1GREATER-THAN 0CIRCLE_WITH_SMALL_CIRCLE_TO_THE_RIGHT
  2TWO_HORIZONTAL_STROKES_TO_THE_RIGHT 0SQUARED_RISING_DIAGONAL_SLASH 1FALLING_DIAGONAL_SLASH
  1ASTERISK 1SMALL_CIRCLE 1SQUARE 0TWO_JOINED_SQUARES 0TRIANGLE_WITH_DOT_ABOVE 2UNDERBAR
  0S_IN_TRIANGLE 0TRIANGLE_WITH_SERIFS_AT_BOTTOM 0RIGHT_TRIANGLE_ABOVE_LEFT_TRIANGLE
  0LEFT_TRIANGLE_BESIDE_VERTICAL_BAR 0VERTICAL_BAR_BESIDE_RIGHT_TRIANGLE
  0BOWTIE_WITH_LEFT_HALF_BLACK 2RIGHT_HALF_BLACK 0BLACK_BOWTIE 0TIMES_WITH_LEFT_HALF_BLACK
  2RIGHT_HALF_BLACK 0WHITE_HOURGLASS 0BLACK_HOURGLASS 0LEFT_WIGGLY_FENCE 0RIGHT_WIGGLY_FENCE
  0LEFT_DOUBLE_WIGGLY_FENCE 0RIGHT_DOUBLE_WIGGLY_FENCE 0INCOMPLETE_INFINITY 0TIE_OVER_INFINITY
  0INFINITY_NEGATED_WITH_VERTICAL_BAR 0DOUBLE-ENDED_MULTIMAP 0SQUARE_WITH_CONTOURED_OUTLINE
  0INCREASES_AS 0SHUFFLE_PRODUCT 0EQUALS_SIGN_AND_SLANTED_PARALLEL 5WITH_TILDE_ABOVE
  0IDENTICAL_TO_AND_SLANTED_PARALLEL 0GLEICH_STARK 0THERMODYNAMIC
  0DOWN-POINTING_TRIANGLE_WITH_LEFT_HALF_BLACK 3RIGHT_HALF_BLACK 0BLACK_DIAMOND_WITH_DOWN_ARROW
  1LOZENGE 0WHITE_CIRCLE_WITH_DOWN_ARROW 0BLACK_CIRCLE_WITH_DOWN_ARROW 0ERROR-BARRED_WHITE_SQUARE
  1BLACK_SQUARE 1WHITE_DIAMOND 1BLACK_DIAMOND 1WHITE_CIRCLE 1BLACK_CIRCLE 0RULE-DELAYED
  0REVERSE_SOLIDUS_OPERATOR 0SOLIDUS_WITH_OVERBAR 0REVERSE_SOLIDUS_WITH_HORIZONTAL_STROKE
  0BIG_SOLIDUS 1REVERSE_SOLIDUS 0DOUBLE_PLUS 0TRIPLE_PLUS 0LEFT-POINTING_CURVED_ANGLE_BRACKET
  0RIGHT-POINTING_CURVED_ANGLE_BRACKET 0TINY 0MINY 0N-ARY_CIRCLED_DOT_OPERATOR 2PLUS_OPERATOR
  2TIMES_OPERATOR 1UNION_OPERATOR_WITH_DOT 4PLUS 1SQUARE_INTERSECTION_OPERATOR 2UNION_OPERATOR
  0TWO_LOGICAL_AND_OPERATOR 2OR_OPERATOR 0N-ARY_TIMES_OPERATOR 0MODULO_TWO_SUM
  0SUMMATION_WITH_INTEGRAL 0QUADRUPLE_INTEGRAL_OPERATOR 0FINITE_PART_INTEGRAL
  0INTEGRAL_WITH_DOUBLE_STROKE 1AVERAGE_WITH_SLASH 0CIRCULATION_FUNCTION
  0ANTICLOCKWISE_INTEGRATION 0LINE_INTEGRATION_WITH_RECTANGULAR_PATH_AROUND_POLE
  3SEMICIRCULAR_PATH_AROUND_POLE 2NOT_INCLUDING_THE_POLE 0INTEGRAL_AROUND_A_POINT_OPERATOR
  0QUATERNION_INTEGRAL_OPERATOR 0INTEGRAL_WITH_LEFTWARDS_ARROW_WITH_HOOK 2TIMES_SIGN 2INTERSECTION
  2UNION 2OVERBAR 2UNDERBAR 0JOIN 0LARGE_LEFT_TRIANGLE_OPERATOR 0Z_NOTATION_SCHEMA_COMPOSITION
  3PIPING 3PROJECTION 0PLUS_SIGN_WITH_SMALL_CIRCLE_ABOVE 3CIRCUMFLEX_ACCENT_ABOVE 3TILDE_ABOVE
  3DOT_BELOW 3TILDE_BELOW 3SUBSCRIPT_TWO 3BLACK_TRIANGLE 0MINUS_SIGN_WITH_COMMA_ABOVE 3DOT_BELOW
  3FALLING_DOTS 3RISING_DOTS 0PLUS_SIGN_IN_LEFT_HALF_CIRCLE 3RIGHT_HALF_CIRCLE
  0VECTOR_OR_CROSS_PRODUCT 0MULTIPLICATION_SIGN_WITH_DOT_ABOVE 3UNDERBAR
  0SEMIDIRECT_PRODUCT_WITH_BOTTOM_CLOSED 0SMASH_PRODUCT 0MULTIPLICATION_SIGN_IN_LEFT_HALF_CIRCLE
  3RIGHT_HALF_CIRCLE 0CIRCLED_MULTIPLICATION_SIGN_WITH_CIRCUMFLEX_ACCENT
  0MULTIPLICATION_SIGN_IN_DOUBLE_CIRCLE 0CIRCLED_DIVISION_SIGN 0PLUS_SIGN_IN_TRIANGLE
  0MINUS_SIGN_IN_TRIANGLE 0MULTIPLICATION_SIGN_IN_TRIANGLE 0INTERIOR_PRODUCT
  0RIGHTHAND_INTERIOR_PRODUCT 0Z_NOTATION_RELATIONAL_COMPOSITION 0AMALGAMATION_OR_COPRODUCT
  0INTERSECTION_WITH_DOT 0UNION_WITH_MINUS_SIGN 2OVERBAR 0INTERSECTION_WITH_OVERBAR 2LOGICAL_AND
  0UNION_WITH_LOGICAL_OR 1ABOVE_INTERSECTION 0INTERSECTION_ABOVE_UNION
  0UNION_ABOVE_BAR_ABOVE_INTERSECTION 0INTERSECTION_ABOVE_BAR_ABOVE_UNION
  0UNION_BESIDE_AND_JOINED_WITH_UNION 0INTERSECTION_BESIDE_AND_JOINED_WITH_INTERSECTION
  0CLOSED_UNION_WITH_SERIFS 1INTERSECTION_WITH_SERIFS 0DOUBLE_SQUARE_INTERSECTION 2UNION
  0CLOSED_UNION_WITH_SERIFS_AND_SMASH_PRODUCT 0LOGICAL_AND_WITH_DOT_ABOVE 1OR_WITH_DOT_ABOVE
  0DOUBLE_LOGICAL_AND 2OR 0TWO_INTERSECTING_LOGICAL_AND 3OR 0SLOPING_LARGE_OR 2AND
  0LOGICAL_OR_OVERLAPPING_LOGICAL_AND 1AND_WITH_MIDDLE_STEM 1OR_WITH_MIDDLE_STEM
  1AND_WITH_HORIZONTAL_DASH 1OR_WITH_HORIZONTAL_DASH 1AND_WITH_DOUBLE_OVERBAR 3UNDERBAR
  3DOUBLE_UNDERBAR 0SMALL_VEE_WITH_UNDERBAR 0LOGICAL_OR_WITH_DOUBLE_OVERBAR 4UNDERBAR
  0Z_NOTATION_DOMAIN_ANTIRESTRICTION 2RANGE_ANTIRESTRICTION 0EQUALS_SIGN_WITH_DOT_BELOW
  0IDENTICAL_WITH_DOT_ABOVE 0TRIPLE_HORIZONTAL_BAR_WITH_DOUBLE_VERTICAL_STROKE
  4TRIPLE_VERTICAL_STROKE 0TILDE_OPERATOR_WITH_DOT_ABOVE 3RISING_DOTS 0SIMILAR_MINUS_SIMILAR
  0CONGRUENT_WITH_DOT_ABOVE 0EQUALS_WITH_ASTERISK 0ALMOST_EQUAL_TO_WITH_CIRCUMFLEX_ACCENT
  0APPROXIMATELY_EQUAL_OR_EQUAL_TO 0EQUALS_SIGN_ABOVE_PLUS_SIGN 0PLUS_SIGN_ABOVE_EQUALS_SIGN
  0EQUALS_SIGN_ABOVE_TILDE_OPERATOR 0DOUBLE_COLON_EQUAL 0TWO_CONSECUTIVE_EQUALS_SIGNS
  0THREE_CONSECUTIVE_EQUALS_SIGNS 0EQUALS_SIGN_WITH_TWO_DOTS_ABOVE_AND_TWO_DOTS_BELOW
  0EQUIVALENT_WITH_FOUR_DOTS_ABOVE 0LESS-THAN_WITH_CIRCLE_INSIDE 0GREATER-THAN_WITH_CIRCLE_INSIDE
  0LESS-THAN_WITH_QUESTION_MARK_ABOVE 0GREATER-THAN_WITH_QUESTION_MARK_ABOVE
  0LESS-THAN_OR_SLANTED_EQUAL_TO 0GREATER-THAN_OR_SLANTED_EQUAL_TO
  0LESS-THAN_OR_SLANTED_EQUAL_TO_WITH_DOT_INSIDE 0GREATER-THAN_OR_SLANTED_EQUAL_TO_WITH_DOT_INSIDE
  0LESS-THAN_OR_SLANTED_EQUAL_TO_WITH_DOT_ABOVE 0GREATER-THAN_OR_SLANTED_EQUAL_TO_WITH_DOT_ABOVE
  0LESS-THAN_OR_SLANTED_EQUAL_TO_WITH_DOT_ABOVE_RIGHT
  0GREATER-THAN_OR_SLANTED_EQUAL_TO_WITH_DOT_ABOVE_LEFT 0LESS-THAN_OR_APPROXIMATE
  0GREATER-THAN_OR_APPROXIMATE 0LESS-THAN_AND_SINGLE-LINE_NOT_EQUAL_TO
  0GREATER-THAN_AND_SINGLE-LINE_NOT_EQUAL_TO 0LESS-THAN_AND_NOT_APPROXIMATE
  0GREATER-THAN_AND_NOT_APPROXIMATE 0LESS-THAN_ABOVE_DOUBLE-LINE_EQUAL_ABOVE_GREATER-THAN
  0GREATER-THAN_ABOVE_DOUBLE-LINE_EQUAL_ABOVE_LESS-THAN 0LESS-THAN_ABOVE_SIMILAR_OR_EQUAL
  0GREATER-THAN_ABOVE_SIMILAR_OR_EQUAL 0LESS-THAN_ABOVE_SIMILAR_ABOVE_GREATER-THAN
  0GREATER-THAN_ABOVE_SIMILAR_ABOVE_LESS-THAN
  0LESS-THAN_ABOVE_GREATER-THAN_ABOVE_DOUBLE-LINE_EQUAL
  0GREATER-THAN_ABOVE_LESS-THAN_ABOVE_DOUBLE-LINE_EQUAL
  0LESS-THAN_ABOVE_SLANTED_EQUAL_ABOVE_GREATER-THAN_ABOVE_SLANTED_EQUAL
  0GREATER-THAN_ABOVE_SLANTED_EQUAL_ABOVE_LESS-THAN_ABOVE_SLANTED_EQUAL
  0SLANTED_EQUAL_TO_OR_LESS-THAN 4GREATER-THAN 4LESS-THAN_WITH_DOT_INSIDE
  4GREATER-THAN_WITH_DOT_INSIDE 0DOUBLE-LINE_EQUAL_TO_OR_LESS-THAN 4GREATER-THAN
  1SLANTED_EQUAL_TO_OR_LESS-THAN 5GREATER-THAN 0SIMILAR_OR_LESS-THAN 2GREATER-THAN
  1ABOVE_LESS-THAN_ABOVE_EQUALS_SIGN 2GREATER-THAN_ABOVE_EQUALS_SIGN 0DOUBLE_NESTED_LESS-THAN
  2GREATER-THAN 2LESS-THAN_WITH_UNDERBAR 0GREATER-THAN_OVERLAPPING_LESS-THAN 1BESIDE_LESS-THAN
  0LESS-THAN_CLOSED_BY_CURVE 0GREATER-THAN_CLOSED_BY_CURVE
  0LESS-THAN_CLOSED_BY_CURVE_ABOVE_SLANTED_EQUAL 0GREATER-THAN_CLOSED_BY_CURVE_ABOVE_SLANTED_EQUAL
  0SMALLER_THAN 0LARGER_THAN 0SMALLER_THAN_OR_EQUAL_TO 0LARGER_THAN_OR_EQUAL_TO
  0EQUALS_SIGN_WITH_BUMPY_ABOVE 0PRECEDES_ABOVE_SINGLE-LINE_EQUALS_SIGN
  0SUCCEEDS_ABOVE_SINGLE-LINE_EQUALS_SIGN 0PRECEDES_ABOVE_SINGLE-LINE_NOT_EQUAL_TO
  0SUCCEEDS_ABOVE_SINGLE-LINE_NOT_EQUAL_TO 0PRECEDES_ABOVE_EQUALS_SIGN 0SUCCEEDS_ABOVE_EQUALS_SIGN
  0PRECEDES_ABOVE_NOT_EQUAL_TO 0SUCCEEDS_ABOVE_NOT_EQUAL_TO 0PRECEDES_ABOVE_ALMOST_EQUAL_TO
  0SUCCEEDS_ABOVE_ALMOST_EQUAL_TO 0PRECEDES_ABOVE_NOT_ALMOST_EQUAL_TO
  0SUCCEEDS_ABOVE_NOT_ALMOST_EQUAL_TO 0DOUBLE_PRECEDES 1SUCCEEDS 0SUBSET_WITH_DOT
  0SUPERSET_WITH_DOT 0SUBSET_WITH_PLUS_SIGN_BELOW 0SUPERSET_WITH_PLUS_SIGN_BELOW
  0SUBSET_WITH_MULTIPLICATION_SIGN_BELOW 0SUPERSET_WITH_MULTIPLICATION_SIGN_BELOW
  0SUBSET_OF_OR_EQUAL_TO_WITH_DOT_ABOVE 0SUPERSET_OF_OR_EQUAL_TO_WITH_DOT_ABOVE
  0SUBSET_OF_ABOVE_EQUALS_SIGN 0SUPERSET_OF_ABOVE_EQUALS_SIGN 0SUBSET_OF_ABOVE_TILDE_OPERATOR
  0SUPERSET_OF_ABOVE_TILDE_OPERATOR 0SUBSET_OF_ABOVE_ALMOST_EQUAL_TO
  0SUPERSET_OF_ABOVE_ALMOST_EQUAL_TO 0SUBSET_OF_ABOVE_NOT_EQUAL_TO 0SUPERSET_OF_ABOVE_NOT_EQUAL_TO
  0SQUARE_LEFT_OPEN_BOX_OPERATOR 1RIGHT_OPEN_BOX_OPERATOR 0CLOSED_SUBSET 1SUPERSET
  1SUBSET_OR_EQUAL_TO 1SUPERSET_OR_EQUAL_TO 0SUBSET_ABOVE_SUPERSET 0SUPERSET_ABOVE_SUBSET
  0SUBSET_ABOVE_SUBSET 0SUPERSET_ABOVE_SUPERSET 1BESIDE_SUBSET 2AND_JOINED_BY_DASH_WITH_SUBSET
  0ELEMENT_OF_OPENING_DOWNWARDS 0PITCHFORK_WITH_TEE_TOP 0TRANSVERSAL_INTERSECTION 0FORKING
  0NONFORKING 0SHORT_LEFT_TACK 1DOWN_TACK 1UP_TACK 0PERPENDICULAR_WITH_S
  0VERTICAL_BAR_TRIPLE_RIGHT_TURNSTILE 0DOUBLE_VERTICAL_BAR_LEFT_TURNSTILE
  0VERTICAL_BAR_DOUBLE_LEFT_TURNSTILE 0DOUBLE_VERTICAL_BAR_DOUBLE_LEFT_TURNSTILE
  0LONG_DASH_FROM_LEFT_MEMBER_OF_DOUBLE_VERTICAL 0SHORT_DOWN_TACK_WITH_OVERBAR
  1UP_TACK_WITH_UNDERBAR 3ABOVE_SHORT_DOWN_TACK 0DOUBLE_DOWN_TACK 1UP_TACK 1STROKE_NOT_SIGN
  0REVERSED_DOUBLE_STROKE_NOT_SIGN 0DOES_NOT_DIVIDE_WITH_REVERSED_NEGATION_SLASH
  0VERTICAL_LINE_WITH_CIRCLE_ABOVE 4BELOW 0DOWN_TACK_WITH_CIRCLE_BELOW
  0PARALLEL_WITH_HORIZONTAL_STROKE 2TILDE_OPERATOR 0TRIPLE_VERTICAL_BAR_BINARY_RELATION
  3WITH_HORIZONTAL_STROKE 1COLON_OPERATOR 1NESTED_LESS-THAN 2GREATER-THAN
  0DOUBLE-LINE_SLANTED_LESS-THAN_OR_EQUAL_TO 2GREATER-THAN_OR_EQUAL_TO
  0TRIPLE_SOLIDUS_BINARY_RELATION 0LARGE_TRIPLE_VERTICAL_BAR_OPERATOR 0DOUBLE_SOLIDUS_OPERATOR
  0WHITE_VERTICAL_BAR 0N-ARY_WHITE_VERTICAL_BAR 0NORTH_EAST_WHITE_ARROW 1WEST_WHITE_ARROW
  0SOUTH_EAST_WHITE_ARROW 1WEST_WHITE_ARROW 0LEFT_RIGHT_WHITE_ARROW 0LEFTWARDS_BLACK_ARROW
  0UPWARDS_BLACK_ARROW 0DOWNWARDS_BLACK_ARROW 0NORTH_EAST_BLACK_ARROW 1WEST_BLACK_ARROW
  0SOUTH_EAST_BLACK_ARROW 1WEST_BLACK_ARROW 0LEFT_RIGHT_BLACK_ARROW 0UP_DOWN_BLACK_ARROW
  0RIGHTWARDS_ARROW_WITH_TIP_DOWNWARDS 4UPWARDS 0LEFTWARDS_ARROW_WITH_TIP_DOWNWARDS 4UPWARDS
  0SQUARE_WITH_TOP_HALF_BLACK 2BOTTOM_HALF_BLACK 2UPPER_RIGHT_DIAGONAL_HALF_BLACK
  2LOWER_LEFT_DIAGONAL_HALF_BLACK 0DIAMOND_WITH_LEFT_HALF_BLACK 2RIGHT_HALF_BLACK 2TOP_HALF_BLACK
  2BOTTOM_HALF_BLACK 0DOTTED_SQUARE 0BLACK_LARGE_SQUARE 0WHITE_LARGE_SQUARE
  0BLACK_VERY_SMALL_SQUARE 0WHITE_VERY_SMALL_SQUARE 0BLACK_PENTAGON 0WHITE_PENTAGON 1HEXAGON
  0BLACK_HEXAGON 0HORIZONTAL_BLACK_HEXAGON 0BLACK_LARGE_CIRCLE 1MEDIUM_DIAMOND
  0WHITE_MEDIUM_DIAMOND 0BLACK_MEDIUM_LOZENGE 0WHITE_MEDIUM_LOZENGE 0BLACK_SMALL_DIAMOND 2LOZENGE
  0WHITE_SMALL_LOZENGE 0BLACK_HORIZONTAL_ELLIPSE 0WHITE_HORIZONTAL_ELLIPSE 0BLACK_VERTICAL_ELLIPSE
  0WHITE_VERTICAL_ELLIPSE 0LEFT_ARROW_WITH_SMALL_CIRCLE 0THREE_LEFTWARDS_ARROWS
  0LEFT_ARROW_WITH_CIRCLED_PLUS 0LONG_LEFTWARDS_SQUIGGLE_ARROW
  0LEFTWARDS_TWO-HEADED_ARROW_WITH_VERTICAL_STROKE 4DOUBLE_VERTICAL_STROKE 3FROM_BAR
  2TRIPLE_DASH_ARROW 1ARROW_WITH_DOTTED_STEM 3TAIL_WITH_VERTICAL_STROKE 5DOUBLE_VERTICAL_STROKE
  1TWO-HEADED_ARROW_WITH_TAIL 5WITH_VERTICAL_STROKE 6DOUBLE_VERTICAL_STROKE 1ARROW_THROUGH_X
  0WAVE_ARROW_POINTING_DIRECTLY_LEFT 0EQUALS_SIGN_ABOVE_LEFTWARDS_ARROW
  0REVERSE_TILDE_OPERATOR_ABOVE_LEFTWARDS_ARROW 0LEFTWARDS_ARROW_ABOVE_REVERSE_ALMOST_EQUAL_TO
  0RIGHTWARDS_ARROW_THROUGH_GREATER-THAN 3SUPERSET 0LEFTWARDS_QUADRUPLE_ARROW
  0RIGHTWARDS_QUADRUPLE_ARROW 0REVERSE_TILDE_OPERATOR_ABOVE_RIGHTWARDS_ARROW
  0RIGHTWARDS_ARROW_ABOVE_REVERSE_ALMOST_EQUAL_TO 0TILDE_OPERATOR_ABOVE_LEFTWARDS_ARROW
  0LEFTWARDS_ARROW_ABOVE_ALMOST_EQUAL_TO 3REVERSE_TILDE_OPERATOR
  0RIGHTWARDS_ARROW_ABOVE_REVERSE_TILDE_OPERATOR 0DOWNWARDS_TRIANGLE-HEADED_ZIGZAG_ARROW
  0SHORT_SLANTED_NORTH_ARROW 1BACKSLANTED_SOUTH_ARROW 0WHITE_MEDIUM_STAR 0BLACK_SMALL_STAR
  0WHITE_SMALL_STAR 0BLACK_RIGHT-POINTING_PENTAGON 0WHITE_RIGHT-POINTING_PENTAGON
  0HEAVY_LARGE_CIRCLE 1OVAL_WITH_OVAL_INSIDE 1CIRCLE_WITH_CIRCLE_INSIDE 2 1CIRCLED_SALTIRE
  0SLANTED_NORTH_ARROW_WITH_HOOKED_HEAD 0BACKSLANTED_SOUTH_ARROW_WITH_HOOKED_TAIL
  0SLANTED_NORTH_ARROW_WITH_HORIZONTAL_TAIL 0BACKSLANTED_SOUTH_ARROW_WITH_HORIZONTAL_TAIL
  0BENT_ARROW_POINTING_DOWNWARDS_THEN_NORTH_EAST
  0SHORT_BENT_ARROW_POINTING_DOWNWARDS_THEN_NORTH_EAST 0LEFTWARDS_TRIANGLE-HEADED_ARROW
  0UPWARDS_TRIANGLE-HEADED_ARROW 0RIGHTWARDS_TRIANGLE-HEADED_ARROW
  0DOWNWARDS_TRIANGLE-HEADED_ARROW 0LEFT_RIGHT_TRIANGLE-HEADED_ARROW
  0UP_DOWN_TRIANGLE-HEADED_ARROW 0NORTH_WEST_TRIANGLE-HEADED_ARROW 1EAST_TRIANGLE-HEADED_ARROW
  0SOUTH_EAST_TRIANGLE-HEADED_ARROW 1WEST_TRIANGLE-HEADED_ARROW
  0LEFTWARDS_TRIANGLE-HEADED_DASHED_ARROW 0UPWARDS_TRIANGLE-HEADED_DASHED_ARROW
  0RIGHTWARDS_TRIANGLE-HEADED_DASHED_ARROW 0DOWNWARDS_TRIANGLE-HEADED_DASHED_ARROW
  0CLOCKWISE_TRIANGLE-HEADED_OPEN_CIRCLE_ARROW 0ANTICLOCKWISE_TRIANGLE-HEADED_OPEN_CIRCLE_ARROW
  0LEFTWARDS_TRIANGLE-HEADED_ARROW_TO_BAR 0UPWARDS_TRIANGLE-HEADED_ARROW_TO_BAR
  0RIGHTWARDS_TRIANGLE-HEADED_ARROW_TO_BAR 0DOWNWARDS_TRIANGLE-HEADED_ARROW_TO_BAR =2b76
  0NORTH_WEST_TRIANGLE-HEADED_ARROW_TO_BAR 1EAST_TRIANGLE-HEADED_ARROW_TO_BAR
  0SOUTH_EAST_TRIANGLE-HEADED_ARROW_TO_BAR 1WEST_TRIANGLE-HEADED_ARROW_TO_BAR
  0LEFTWARDS_TRIANGLE-HEADED_ARROW_WITH_DOUBLE_HORIZONTAL_STROKE
  0UPWARDS_TRIANGLE-HEADED_ARROW_WITH_DOUBLE_HORIZONTAL_STROKE
  0RIGHTWARDS_TRIANGLE-HEADED_ARROW_WITH_DOUBLE_HORIZONTAL_STROKE
  0DOWNWARDS_TRIANGLE-HEADED_ARROW_WITH_DOUBLE_HORIZONTAL_STROKE 0HORIZONTAL_TAB_KEY
  0VERTICAL_TAB_KEY 0LEFTWARDS_TRIANGLE-HEADED_ARROW_OVER_RIGHTWARDS_TRIANGLE-HEADED_ARROW
  0UPWARDS_TRIANGLE-HEADED_ARROW_LEFTWARDS_OF_DOWNWARDS_TRIANGLE-HEADED_ARROW
  0RIGHTWARDS_TRIANGLE-HEADED_ARROW_OVER_LEFTWARDS_TRIANGLE-HEADED_ARROW
  0DOWNWARDS_TRIANGLE-HEADED_ARROW_LEFTWARDS_OF_UPWARDS_TRIANGLE-HEADED_ARROW
  0LEFTWARDS_TRIANGLE-HEADED_PAIRED_ARROWS 0UPWARDS_TRIANGLE-HEADED_PAIRED_ARROWS
  0RIGHTWARDS_TRIANGLE-HEADED_PAIRED_ARROWS 0DOWNWARDS_TRIANGLE-HEADED_PAIRED_ARROWS
  0LEFTWARDS_BLACK_CIRCLED_WHITE_ARROW 0UPWARDS_BLACK_CIRCLED_WHITE_ARROW
  0RIGHTWARDS_BLACK_CIRCLED_WHITE_ARROW 0DOWNWARDS_BLACK_CIRCLED_WHITE_ARROW
  0ANTICLOCKWISE_TRIANGLE-HEADED_RIGHT_U-SHAPED_ARROW 2BOTTOM_U-SHAPED_ARROW 2LEFT_U-SHAPED_ARROW
  2TOP_U-SHAPED_ARROW 0RETURN_LEFT 1RIGHT 0NEWLINE_LEFT 1RIGHT
  0FOUR_CORNER_ARROWS_CIRCLING_ANTICLOCKWISE 0RIGHTWARDS_BLACK_ARROW =2b97
  0SYMBOL_FOR_TYPE_A_ELECTRONICS 0THREE-D_TOP-LIGHTED_LEFTWARDS_EQUILATERAL_ARROWHEAD
  1RIGHT-LIGHTED_UPWARDS_EQUILATERAL_ARROWHEAD 1TOP-LIGHTED_RIGHTWARDS_EQUILATERAL_ARROWHEAD
  1LEFT-LIGHTED_DOWNWARDS_EQUILATERAL_ARROWHEAD 0BLACK_LEFTWARDS_EQUILATERAL_ARROWHEAD
  1UPWARDS_EQUILATERAL_ARROWHEAD 1RIGHTWARDS_EQUILATERAL_ARROWHEAD
  1DOWNWARDS_EQUILATERAL_ARROWHEAD 0DOWNWARDS_TRIANGLE-HEADED_ARROW_WITH_LONG_TIP_LEFTWARDS
  6RIGHTWARDS 0UPWARDS_TRIANGLE-HEADED_ARROW_WITH_LONG_TIP_LEFTWARDS 6RIGHTWARDS
  0LEFTWARDS_TRIANGLE-HEADED_ARROW_WITH_LONG_TIP_UPWARDS
  0RIGHTWARDS_TRIANGLE-HEADED_ARROW_WITH_LONG_TIP_UPWARDS
  0LEFTWARDS_TRIANGLE-HEADED_ARROW_WITH_LONG_TIP_DOWNWARDS
  0RIGHTWARDS_TRIANGLE-HEADED_ARROW_WITH_LONG_TIP_DOWNWARDS
  0BLACK_CURVED_DOWNWARDS_AND_LEFTWARDS_ARROW 4RIGHTWARDS_ARROW 2UPWARDS_AND_LEFTWARDS_ARROW
  4RIGHTWARDS_ARROW 2LEFTWARDS_AND_UPWARDS_ARROW 2RIGHTWARDS_AND_UPWARDS_ARROW
  2LEFTWARDS_AND_DOWNWARDS_ARROW 2RIGHTWARDS_AND_DOWNWARDS_ARROW 0RIBBON_ARROW_DOWN_LEFT 3RIGHT
  2UP_LEFT 3RIGHT 2LEFT_UP 2RIGHT_UP 2LEFT_DOWN 2RIGHT_DOWN
  0UPWARDS_WHITE_ARROW_FROM_BAR_WITH_HORIZONTAL_BAR 0UP_ARROWHEAD_IN_A_RECTANGLE_BOX
  0OVERLAPPING_WHITE_SQUARES 2AND_BLACK_SQUARES 1BLACK_SQUARES 0BALLOT_BOX_WITH_LIGHT_X 0CIRCLED_X
  1BOLD_X 0BLACK_SQUARE_CENTRED 1DIAMOND_CENTRED 0TURNED_BLACK_PENTAGON 0HORIZONTAL_BLACK_OCTAGON
  0BLACK_OCTAGON 1MEDIUM_UP-POINTING_TRIANGLE_CENTRED 2DOWN-POINTING_TRIANGLE_CENTRED
  2LEFT-POINTING_TRIANGLE_CENTRED 2RIGHT-POINTING_TRIANGLE_CENTRED 0NEPTUNE_FORM_TWO
  0TOP_HALF_BLACK_CIRCLE 0BOTTOM_HALF_BLACK_CIRCLE 0LIGHT_FOUR_POINTED_BLACK_CUSP
  0ROTATED_LIGHT_FOUR_POINTED_BLACK_CUSP 0WHITE_FOUR_POINTED_CUSP 0ROTATED_WHITE_FOUR_POINTED_CUSP
  0SQUARE_POSITION_INDICATOR 0UNCERTAINTY_SIGN 0GROUP_MARK 0PLUTO_FORM_TWO 2THREE 2FOUR 2FIVE
  0TRANSPLUTO 0PROSERPINA 0ASTRAEA 0HYGIEA 0PHOLUS 0NESSUS 0WHITE_MOON_SELENA
  0BLACK_DIAMOND_ON_CROSS 0TRUE_LIGHT_MOON_ARTA 0CUPIDO 0HADES 0ZEUS 0KRONOS 0APOLLON 0ADMETOS
  0VULCANUS 0POSEIDON 0LEFT_HALF_BLACK_STAR 0RIGHT_HALF_BLACK_STAR 0STAR_WITH_LEFT_HALF_BLACK
  2RIGHT_HALF_BLACK 0LEFTWARDS_TWO-HEADED_ARROW_WITH_TRIANGLE_ARROWHEADS
  0UPWARDS_TWO-HEADED_ARROW_WITH_TRIANGLE_ARROWHEADS
  0RIGHTWARDS_TWO-HEADED_ARROW_WITH_TRIANGLE_ARROWHEADS
  0DOWNWARDS_TWO-HEADED_ARROW_WITH_TRIANGLE_ARROWHEADS 0ERIS_FORM_ONE 2TWO 0SEDNA
  0RUSSIAN_ASTROLOGICAL_SYMBOL_VIGINTILE 3NOVILE 3QUINTILE 3BINOVILE 3SENTAGON 3TREDECILE
  0EQUALS_SIGN_WITH_INFINITY_BELOW 0UNITED_SYMBOL 0SEPARATED_SYMBOL 0DOUBLED_SYMBOL 0PASSED_SYMBOL
  0REVERSED_RIGHT_ANGLE 0HELLSCHREIBER_PAUSE_SYMBOL 0GLAGOLITIC_CAPITAL_LETTER_AZU 3BUKY 3VEDE
  3GLAGOLI 3DOBRO 3YESTU 3ZHIVETE 3DZELO 3ZEMLJA 3IZHE 3INITIAL_IZHE 3I 3DJERVI 3KAKO 3LJUDIJE
  3MYSLITE 3NASHI 3ONU 3POKOJI 3RITSI 3SLOVO 3TVRIDO 3UKU 3FRITU 3HERU 3OTU 3PE 3SHTA 3TSI 3CHRIVI
  3SHA 3YERU 3YERI 3YATI 3SPIDERY_HA 3YU 3SMALL_YUS 5WITH_TAIL 3YO 3IOTATED_SMALL_YUS 3BIG_YUS
  3IOTATED_BIG_YUS 3FITA 3IZHITSA 3SHTAPIC 3TROKUTASTI_A 3LATINATE_MYSLITE 3CAUDATE_CHRIVI
  1SMALL_LETTER_AZU 3BUKY 3VEDE 3GLAGOLI 3DOBRO 3YESTU 3ZHIVETE 3DZELO 3ZEMLJA 3IZHE 3INITIAL_IZHE
  3I 3DJERVI 3KAKO 3LJUDIJE 3MYSLITE 3NASHI 3ONU 3POKOJI 3RITSI 3SLOVO 3TVRIDO 3UKU 3FRITU 3HERU
  3OTU 3PE 3SHTA 3TSI 3CHRIVI 3SHA 3YERU 3YERI 3YATI 3SPIDERY_HA 3YU 3SMALL_YUS 5WITH_TAIL 3YO
  3IOTATED_SMALL_YUS 3BIG_YUS 3IOTATED_BIG_YUS 3FITA 3IZHITSA 3SHTAPIC 3TROKUTASTI_A
  3LATINATE_MYSLITE 3CAUDATE_CHRIVI 0LATIN_CAPITAL_LETTER_L_WITH_DOUBLE_BAR
  1SMALL_LETTER_L_WITH_DOUBLE_BAR 1CAPITAL_LETTER_L_WITH_MIDDLE_TILDE 3P_WITH_STROKE 3R_WITH_TAIL
  1SMALL_LETTER_A_WITH_STROKE 3T_WITH_DIAGONAL_STROKE 1CAPITAL_LETTER_H_WITH_DESCENDER
  1SMALL_LETTER_H_WITH_DESCENDER 1CAPITAL_LETTER_K_WITH_DESCENDER 1SMALL_LETTER_K_WITH_DESCENDER
  1CAPITAL_LETTER_Z_WITH_DESCENDER 1SMALL_LETTER_Z_WITH_DESCENDER 1CAPITAL_LETTER_ALPHA
  3M_WITH_HOOK 3TURNED_A 4ALPHA 1SMALL_LETTER_V_WITH_RIGHT_HOOK 1CAPITAL_LETTER_W_WITH_HOOK
  1SMALL_LETTER_W_WITH_HOOK 3V_WITH_CURL 1CAPITAL_LETTER_HALF_H 1SMALL_LETTER_HALF_H 3TAILLESS_PHI
  3E_WITH_NOTCH 3TURNED_R_WITH_TAIL 3O_WITH_LOW_RING_INSIDE 1LETTER_SMALL_CAPITAL_TURNED_E
  1SUBSCRIPT_SMALL_LETTER_J 0MODIFIER_LETTER_CAPITAL_V 0LATIN_CAPITAL_LETTER_S_WITH_SWASH_TAIL
  3Z_WITH_SWASH_TAIL 0COPTIC_CAPITAL_LETTER_ALFA 1SMALL_LETTER_ALFA 1CAPITAL_LETTER_VIDA
  1SMALL_LETTER_VIDA 1CAPITAL_LETTER_GAMMA 1SMALL_LETTER_GAMMA 1CAPITAL_LETTER_DALDA
  1SMALL_LETTER_DALDA 1CAPITAL_LETTER_EIE 1SMALL_LETTER_EIE 1CAPITAL_LETTER_SOU 1SMALL_LETTER_SOU
  1CAPITAL_LETTER_ZATA 1SMALL_LETTER_ZATA 1CAPITAL_LETTER_HATE 1SMALL_LETTER_HATE
  1CAPITAL_LETTER_THETHE 1SMALL_LETTER_THETHE 1CAPITAL_LETTER_IAUDA 1SMALL_LETTER_IAUDA
  1CAPITAL_LETTER_KAPA 1SMALL_LETTER_KAPA 1CAPITAL_LETTER_LAULA 1SMALL_LETTER_LAULA
  1CAPITAL_LETTER_MI 1SMALL_LETTER_MI 1CAPITAL_LETTER_NI 1SMALL_LETTER_NI 1CAPITAL_LETTER_KSI
  1SMALL_LETTER_KSI 1CAPITAL_LETTER_O 1SMALL_LETTER_O 1CAPITAL_LETTER_PI 1SMALL_LETTER_PI
  1CAPITAL_LETTER_RO 1SMALL_LETTER_RO 1CAPITAL_LETTER_SIMA 1SMALL_LETTER_SIMA 1CAPITAL_LETTER_TAU
  1SMALL_LETTER_TAU 1CAPITAL_LETTER_UA 1SMALL_LETTER_UA 1CAPITAL_LETTER_FI 1SMALL_LETTER_FI
  1CAPITAL_LETTER_KHI 1SMALL_LETTER_KHI 1CAPITAL_LETTER_PSI 1SMALL_LETTER_PSI 1CAPITAL_LETTER_OOU
  1SMALL_LETTER_OOU 1CAPITAL_LETTER_DIALECT-P_ALEF 1SMALL_LETTER_DIALECT-P_ALEF
  1CAPITAL_LETTER_OLD_COPTIC_AIN 1SMALL_LETTER_OLD_COPTIC_AIN 1CAPITAL_LETTER_CRYPTOGRAMMIC_EIE
  1SMALL_LETTER_CRYPTOGRAMMIC_EIE 1CAPITAL_LETTER_DIALECT-P_KAPA 1SMALL_LETTER_DIALECT-P_KAPA
  1CAPITAL_LETTER_DIALECT-P_NI 1SMALL_LETTER_DIALECT-P_NI 1CAPITAL_LETTER_CRYPTOGRAMMIC_NI
  1SMALL_LETTER_CRYPTOGRAMMIC_NI 1CAPITAL_LETTER_OLD_COPTIC_OOU 1SMALL_LETTER_OLD_COPTIC_OOU
  1CAPITAL_LETTER_SAMPI 1SMALL_LETTER_SAMPI 1CAPITAL_LETTER_CROSSED_SHEI
  1SMALL_LETTER_CROSSED_SHEI 1CAPITAL_LETTER_OLD_COPTIC_SHEI 1SMALL_LETTER_OLD_COPTIC_SHEI
  1CAPITAL_LETTER_OLD_COPTIC_ESH 1SMALL_LETTER_OLD_COPTIC_ESH 1CAPITAL_LETTER_AKHMIMIC_KHEI
  1SMALL_LETTER_AKHMIMIC_KHEI 1CAPITAL_LETTER_DIALECT-P_HORI 1SMALL_LETTER_DIALECT-P_HORI
  1CAPITAL_LETTER_OLD_COPTIC_HORI 1SMALL_LETTER_OLD_COPTIC_HORI 1CAPITAL_LETTER_OLD_COPTIC_HA
  1SMALL_LETTER_OLD_COPTIC_HA 1CAPITAL_LETTER_L-SHAPED_HA 1SMALL_LETTER_L-SHAPED_HA
  1CAPITAL_LETTER_OLD_COPTIC_HEI 1SMALL_LETTER_OLD_COPTIC_HEI 1CAPITAL_LETTER_OLD_COPTIC_HAT
  1SMALL_LETTER_OLD_COPTIC_HAT 1CAPITAL_LETTER_OLD_COPTIC_GANGIA 1SMALL_LETTER_OLD_COPTIC_GANGIA
  1CAPITAL_LETTER_OLD_COPTIC_DJA 1SMALL_LETTER_OLD_COPTIC_DJA 1CAPITAL_LETTER_OLD_COPTIC_SHIMA
  1SMALL_LETTER_OLD_COPTIC_SHIMA 1CAPITAL_LETTER_OLD_NUBIAN_SHIMA 1SMALL_LETTER_OLD_NUBIAN_SHIMA
  1CAPITAL_LETTER_OLD_NUBIAN_NGI 1SMALL_LETTER_OLD_NUBIAN_NGI 1CAPITAL_LETTER_OLD_NUBIAN_NYI
  1SMALL_LETTER_OLD_NUBIAN_NYI 1CAPITAL_LETTER_OLD_NUBIAN_WAU 1SMALL_LETTER_OLD_NUBIAN_WAU
  1SYMBOL_KAI 2MI_RO 2PI_RO 2STAUROS 2TAU_RO 2KHI_RO 2SHIMA_SIMA
  1CAPITAL_LETTER_CRYPTOGRAMMIC_SHEI 1SMALL_LETTER_CRYPTOGRAMMIC_SHEI
  1CAPITAL_LETTER_CRYPTOGRAMMIC_GANGIA 1SMALL_LETTER_CRYPTOGRAMMIC_GANGIA 1COMBINING_NI_ABOVE
  2SPIRITUS_ASPER 3LENIS 1CAPITAL_LETTER_BOHAIRIC_KHEI 1SMALL_LETTER_BOHAIRIC_KHEI =2cf9
  1OLD_NUBIAN_FULL_STOP 3DIRECT_QUESTION_MARK 3INDIRECT_QUESTION_MARK 3VERSE_DIVIDER
  1FRACTION_ONE_HALF 1FULL_STOP 1MORPHOLOGICAL_DIVIDER 0GEORGIAN_SMALL_LETTER_AN 3BAN 3GAN 3DON
  3EN 3VIN 3ZEN 3TAN 3IN 3KAN 3LAS 3MAN 3NAR 3ON 3PAR 3ZHAR 3RAE 3SAN 3TAR 3UN 3PHAR 3KHAR 3GHAN
  3QAR 3SHIN 3CHIN 3CAN 3JIL 3CIL 3CHAR 3XAN 3JHAN 3HAE 3HE 3HIE 3WE 3HAR 3HOE =2d27 3YN =2d2d
  3AEN =2d30 0TIFINAGH_LETTER_YA 2YAB 2YABH 2YAG 2YAGHH 2BERBER_ACADEMY_YAJ 2YAJ 2YAD 2YADH 2YADD
  2YADDH 2YEY 2YAF 2YAK 2TUAREG_YAK 2YAKHH 2YAH 2BERBER_ACADEMY_YAH 2TUAREG_YAH 2YAHH 2YAA 2YAKH
  2TUAREG_YAKH 2YAQ 2TUAREG_YAQ 2YI 2YAZH 2AHAGGAR_YAZH 2TUAREG_YAZH 2YAL 2YAM 2YAN 2TUAREG_YAGN
  3YANG 2YAP 2YU 2YAR 2YARR 2YAGH 2TUAREG_YAGH 2AYER_YAGH 2YAS 2YASS 2YASH 2YAT 2YATH 2YACH 2YATT
  2YAV 2YAW 2YAY 2YAZ 2TAWELLEMET_YAZ 2YAZZ 2YE 2YO =2d6f 1MODIFIER_LETTER_LABIALIZATION_MARK
  1SEPARATOR_MARK =2d7f 1CONSONANT_JOINER 0ETHIOPIC_SYLLABLE_LOA 2MOA 2ROA 2SOA 2SHOA 2BOA 2TOA
  2COA 2NOA 2NYOA 2GLOTTAL_OA 2ZOA 2DOA 2DDOA 2JOA 2THOA 2CHOA 2PHOA 2POA 2GGWA 2GGWI 2GGWEE 2GGWE
  =2da0 2SSA 2SSU 2SSI 2SSAA 2SSEE 2SSE 2SSO =2da8 2CCA 2CCU 2CCI 2CCAA 2CCEE 2CCE 2CCO =2db0 2ZZA
  2ZZU 2ZZI 2ZZAA 2ZZEE 2ZZE 2ZZO =2db8 2CCHA 2CCHU 2CCHI 2CCHAA 2CCHEE 2CCHE 2CCHO =2dc0 2QYA
  2QYU 2QYI 2QYAA 2QYEE 2QYE 2QYO =2dc8 2KYA 2KYU 2KYI 2KYAA 2KYEE 2KYE 2KYO =2dd0 2XYA 2XYU 2XYI
  2XYAA 2XYEE 2XYE 2XYO =2dd8 2GYA 2GYU 2GYI 2GYAA 2GYEE 2GYE 2GYO =2de0
  0COMBINING_CYRILLIC_LETTER_BE 3VE 3GHE 3DE 3ZHE 3ZE 3KA 3EL 3EM 3EN 3O 3PE 3ER 3ES 3TE 3HA 3TSE
  3CHE 3SHA 3SHCHA 3FITA 3ES-TE 3A 3IE 3DJERV 3MONOGRAPH_UK 3YAT 3YU 3IOTIFIED_A 3LITTLE_YUS
  3BIG_YUS 3IOTIFIED_BIG_YUS 0RIGHT_ANGLE_SUBSTITUTION_MARKER 2DOTTED_SUBSTITUTION_MARKER
  0LEFT_SUBSTITUTION_BRACKET 0RIGHT_SUBSTITUTION_BRACKET 0LEFT_DOTTED_SUBSTITUTION_BRACKET
  0RIGHT_DOTTED_SUBSTITUTION_BRACKET 0RAISED_INTERPOLATION_MARKER 1DOTTED_INTERPOLATION_MARKER
  0DOTTED_TRANSPOSITION_MARKER 0LEFT_TRANSPOSITION_BRACKET 0RIGHT_TRANSPOSITION_BRACKET
  0RAISED_SQUARE 0LEFT_RAISED_OMISSION_BRACKET 0RIGHT_RAISED_OMISSION_BRACKET 0EDITORIAL_CORONIS
  0PARAGRAPHOS 0FORKED_PARAGRAPHOS 0REVERSED_FORKED_PARAGRAPHOS 0HYPODIASTOLE 0DOTTED_OBELOS
  0DOWNWARDS_ANCORA 0UPWARDS_ANCORA 0DOTTED_RIGHT-POINTING_ANGLE 0DOUBLE_OBLIQUE_HYPHEN
  0INVERTED_INTERROBANG 0PALM_BRANCH 0HYPHEN_WITH_DIAERESIS 0TILDE_WITH_RING_ABOVE
  0LEFT_LOW_PARAPHRASE_BRACKET 0RIGHT_LOW_PARAPHRASE_BRACKET 0TILDE_WITH_DOT_ABOVE 3BELOW
  0LEFT_VERTICAL_BAR_WITH_QUILL 0RIGHT_VERTICAL_BAR_WITH_QUILL 0TOP_LEFT_HALF_BRACKET
  1RIGHT_HALF_BRACKET 0BOTTOM_LEFT_HALF_BRACKET 1RIGHT_HALF_BRACKET 0LEFT_SIDEWAYS_U_BRACKET
  0RIGHT_SIDEWAYS_U_BRACKET 0LEFT_DOUBLE_PARENTHESIS 0RIGHT_DOUBLE_PARENTHESIS
  0TWO_DOTS_OVER_ONE_DOT_PUNCTUATION 0ONE_DOT_OVER_TWO_DOTS_PUNCTUATION
  0SQUARED_FOUR_DOT_PUNCTUATION 0FIVE_DOT_MARK 0REVERSED_QUESTION_MARK 0VERTICAL_TILDE 0RING_POINT
  0WORD_SEPARATOR_MIDDLE_DOT 0TURNED_COMMA 0RAISED_DOT 1COMMA 0TURNED_SEMICOLON
  0DAGGER_WITH_LEFT_GUARD 2RIGHT_GUARD 0TURNED_DAGGER 0TOP_HALF_SECTION_SIGN 0TWO-EM_DASH
  0THREE-EM_DASH 0STENOGRAPHIC_FULL_STOP 0VERTICAL_SIX_DOTS 0WIGGLY_VERTICAL_LINE 0CAPITULUM
  0DOUBLE_HYPHEN 0REVERSED_COMMA 0DOUBLE_LOW-REVERSED-9_QUOTATION_MARK 0DASH_WITH_LEFT_UPTURN
  0DOUBLE_SUSPENSION_MARK 0INVERTED_LOW_KAVYKA 3WITH_KAVYKA_ABOVE 0LOW_KAVYKA 2WITH_DOT
  0DOUBLE_STACKED_COMMA 0DOTTED_SOLIDUS 0TRIPLE_DAGGER 0MEDIEVAL_COMMA 0PARAGRAPHUS_MARK
  0PUNCTUS_ELEVATUS_MARK 0CORNISH_VERSE_DIVIDER 0CROSS_PATTY_WITH_RIGHT_CROSSBAR 3LEFT_CROSSBAR
  0TIRONIAN_SIGN_CAPITAL_ET 0MEDIEVAL_EXCLAMATION_MARK 1QUESTION_MARK
  0LEFT_SQUARE_BRACKET_WITH_STROKE 0RIGHT_SQUARE_BRACKET_WITH_STROKE
  0LEFT_SQUARE_BRACKET_WITH_DOUBLE_STROKE 0RIGHT_SQUARE_BRACKET_WITH_DOUBLE_STROKE
  0TOP_HALF_LEFT_PARENTHESIS 2RIGHT_PARENTHESIS 0BOTTOM_HALF_LEFT_PARENTHESIS 2RIGHT_PARENTHESIS
  0OBLIQUE_HYPHEN =2e80 0CJK_RADICAL_REPEAT 2CLIFF 2SECOND_ONE 3TWO 3THREE 2PERSON 2BOX 2TABLE
  2KNIFE_ONE 3TWO 2DIVINATION 2SEAL 2SMALL_ONE 3TWO 2LAME_ONE 3TWO 3THREE 3FOUR 2SNAKE 2THREAD
  2SNOUT_ONE 3TWO 2HEART_ONE 3TWO 2HAND 2RAP =2e9b 2CHOKE 2SUN 2MOON 2DEATH 2MOTHER 2CIVILIAN
  2WATER_ONE 3TWO 2FIRE 2PAW_ONE 3TWO 2SIMPLIFIED_HALF_TREE_TRUNK 2COW 2DOG 2JADE 2BOLT_OF_CLOTH
  2EYE 2SPIRIT_ONE 3TWO 2BAMBOO 2SILK 2C-SIMPLIFIED_SILK 2NET_ONE 3TWO 3THREE 3FOUR 2MESH 2SHEEP
  2RAM 2EWE 2OLD 2BRUSH_ONE 3TWO 2MEAT 2MORTAR 2GRASS_ONE 3TWO 3THREE 2TIGER 2CLOTHES 2WEST_ONE
  3TWO 2C-SIMPLIFIED_SEE 2SIMPLIFIED_HORN 2HORN 2C-SIMPLIFIED_SPEECH 3SHELL 2FOOT
  2C-SIMPLIFIED_CART 2SIMPLIFIED_WALK 2WALK_ONE 3TWO 2CITY 2C-SIMPLIFIED_GOLD 2LONG_ONE 3TWO
  2C-SIMPLIFIED_LONG 3GATE 2MOUND_ONE 3TWO 2RAIN 2BLUE 2C-SIMPLIFIED_TANNED_LEATHER 3LEAF 3WIND
  3FLY 2EAT_ONE 3TWO 3THREE 2C-SIMPLIFIED_EAT 2HEAD 2C-SIMPLIFIED_HORSE 2BONE 2GHOST
  2C-SIMPLIFIED_FISH 3BIRD 3SALT 2SIMPLIFIED_WHEAT 3YELLOW 2C-SIMPLIFIED_FROG 2J-SIMPLIFIED_EVEN
  2C-SIMPLIFIED_EVEN 2J-SIMPLIFIED_TOOTH 2C-SIMPLIFIED_TOOTH 2J-SIMPLIFIED_DRAGON
  2C-SIMPLIFIED_DRAGON 2TURTLE 2J-SIMPLIFIED_TURTLE 2C-SIMPLIFIED_TURTLE =2f00 0KANGXI_RADICAL_ONE
  2LINE 2DOT 2SLASH 2SECOND 2HOOK 2TWO 2LID 2MAN 2LEGS 2ENTER 2EIGHT 2DOWN_BOX 2COVER 2ICE 2TABLE
  2OPEN_BOX 2KNIFE 2POWER 2WRAP 2SPOON 2RIGHT_OPEN_BOX 2HIDING_ENCLOSURE 2TEN 2DIVINATION 2SEAL
  2CLIFF 2PRIVATE 2AGAIN 2MOUTH 2ENCLOSURE 2EARTH 2SCHOLAR 2GO 3SLOWLY 2EVENING 2BIG 2WOMAN 2CHILD
  2ROOF 2INCH 2SMALL 2LAME 2CORPSE 2SPROUT 2MOUNTAIN 2RIVER 2WORK 2ONESELF 2TURBAN 2DRY
  2SHORT_THREAD 2DOTTED_CLIFF 2LONG_STRIDE 2TWO_HANDS 2SHOOT 2BOW 2SNOUT 2BRISTLE 2STEP 2HEART
  2HALBERD 2DOOR 2HAND 2BRANCH 2RAP 2SCRIPT 2DIPPER 2AXE 2SQUARE 2NOT 2SUN 2SAY 2MOON 2TREE 2LACK
  2STOP 2DEATH 2WEAPON 2DO_NOT 2COMPARE 2FUR 2CLAN 2STEAM 2WATER 2FIRE 2CLAW 2FATHER 2DOUBLE_X
  2HALF_TREE_TRUNK 2SLICE 2FANG 2COW 2DOG 2PROFOUND 2JADE 2MELON 2TILE 2SWEET 2LIFE 2USE 2FIELD
  2BOLT_OF_CLOTH 2SICKNESS 2DOTTED_TENT 2WHITE 2SKIN 2DISH 2EYE 2SPEAR 2ARROW 2STONE 2SPIRIT
  2TRACK 2GRAIN 2CAVE 2STAND 2BAMBOO 2RICE 2SILK 2JAR 2NET 2SHEEP 2FEATHER 2OLD 2AND 2PLOW 2EAR
  2BRUSH 2MEAT 2MINISTER 2SELF 2ARRIVE 2MORTAR 2TONGUE 2OPPOSE 2BOAT 2STOPPING 2COLOR 2GRASS
  2TIGER 2INSECT 2BLOOD 2WALK_ENCLOSURE 2CLOTHES 2WEST 2SEE 2HORN 2SPEECH 2VALLEY 2BEAN 2PIG
  2BADGER 2SHELL 2RED 2RUN 2FOOT 2BODY 2CART 2BITTER 2MORNING 2WALK 2CITY 2WINE 2DISTINGUISH
  2VILLAGE 2GOLD 2LONG 2GATE 2MOUND 2SLAVE 2SHORT_TAILED_BIRD 2RAIN 2BLUE 2WRONG 2FACE 2LEATHER
  2TANNED_LEATHER 2LEEK 2SOUND 2LEAF 2WIND 2FLY 2EAT 2HEAD 2FRAGRANT 2HORSE 2BONE 2TALL 2HAIR
  2FIGHT 2SACRIFICIAL_WINE 2CAULDRON 2GHOST 2FISH 2BIRD 2SALT 2DEER 2WHEAT 2HEMP 2YELLOW 2MILLET
  2BLACK 2EMBROIDERY 2FROG 2TRIPOD 2DRUM 2RAT 2NOSE 2EVEN 2TOOTH 2DRAGON 2TURTLE 2FLUTE =2ff0
  0IDEOGRAPHIC_DESCRIPTION_CHARACTER_LEFT_TO_RIGHT 3ABOVE_TO_BELOW 3LEFT_TO_MIDDLE_AND_RIGHT
  3ABOVE_TO_MIDDLE_AND_BELOW 3FULL_SURROUND 3SURROUND_FROM_ABOVE 5BELOW 5LEFT 5UPPER_LEFT 6RIGHT
  5LOWER_LEFT 3OVERLAID =3000 1SPACE 1COMMA 1FULL_STOP 0DITTO_MARK
  0JAPANESE_INDUSTRIAL_STANDARD_SYMBOL 0IDEOGRAPHIC_ITERATION_MARK 1CLOSING_MARK 1NUMBER_ZERO
  0LEFT_ANGLE_BRACKET 0RIGHT_ANGLE_BRACKET 0LEFT_DOUBLE_ANGLE_BRACKET 0RIGHT_DOUBLE_ANGLE_BRACKET
  0LEFT_CORNER_BRACKET 0RIGHT_CORNER_BRACKET 0LEFT_WHITE_CORNER_BRACKET
  0RIGHT_WHITE_CORNER_BRACKET 0LEFT_BLACK_LENTICULAR_BRACKET 0RIGHT_BLACK_LENTICULAR_BRACKET
  0POSTAL_MARK 0GETA_MARK 0LEFT_TORTOISE_SHELL_BRACKET 0RIGHT_TORTOISE_SHELL_BRACKET
  0LEFT_WHITE_LENTICULAR_BRACKET 0RIGHT_WHITE_LENTICULAR_BRACKET
  0LEFT_WHITE_TORTOISE_SHELL_BRACKET 0RIGHT_WHITE_TORTOISE_SHELL_BRACKET
  0LEFT_WHITE_SQUARE_BRACKET 0RIGHT_WHITE_SQUARE_BRACKET 0WAVE_DASH
  0REVERSED_DOUBLE_PRIME_QUOTATION_MARK 0DOUBLE_PRIME_QUOTATION_MARK
  0LOW_DOUBLE_PRIME_QUOTATION_MARK 0POSTAL_MARK_FACE 0HANGZHOU_NUMERAL_ONE 2TWO 2THREE 2FOUR 2FIVE
  2SIX 2SEVEN 2EIGHT 2NINE 0IDEOGRAPHIC_LEVEL_TONE_MARK 1RISING_TONE_MARK 1DEPARTING_TONE_MARK
  1ENTERING_TONE_MARK 0HANGUL_SINGLE_DOT_TONE_MARK 1DOUBLE_DOT_TONE_MARK 0WAVY_DASH
  0VERTICAL_KANA_REPEAT_MARK 3WITH_VOICED_SOUND_MARK 3MARK_UPPER_HALF
  3WITH_VOICED_SOUND_MARK_UPPER_HALF 3MARK_LOWER_HALF 0CIRCLED_POSTAL_MARK
  0IDEOGRAPHIC_TELEGRAPH_LINE_FEED_SEPARATOR_SYMBOL 0HANGZHOU_NUMERAL_TEN 2TWENTY 2THIRTY
  0VERTICAL_IDEOGRAPHIC_ITERATION_MARK 0MASU_MARK 0PART_ALTERNATION_MARK
  0IDEOGRAPHIC_VARIATION_INDICATOR 1HALF_FILL_SPACE =3041 0HIRAGANA_LETTER_SMALL_A 2A 2SMALL_I 2I
  2SMALL_U 2U 2SMALL_E 2E 2SMALL_O 2O 2KA 2GA 2KI 2GI 2KU 2GU 2KE 2GE 2KO 2GO 2SA 2ZA 2SI 2ZI 2SU
  2ZU 2SE 2ZE 2SO 2ZO 2TA 2DA 2TI 2DI 2SMALL_TU 2TU 2DU 2TE 2DE 2TO 2DO 2NA 2NI 2NU 2NE 2NO 2HA
  2BA 2PA 2HI 2BI 2PI 2HU 2BU 2PU 2HE 2BE 2PE 2HO 2BO 2PO 2MA 2MI 2MU 2ME 2MO 2SMALL_YA 2YA
  2SMALL_YU 2YU 2SMALL_YO 2YO 2RA 2RI 2RU 2RE 2RO 2SMALL_WA 2WA 2WI 2WE 2WO 2N 2VU 2SMALL_KA 3KE
  =3099 0COMBINING_KATAKANA-HIRAGANA_VOICED_SOUND_MARK 2SEMI-VOICED_SOUND_MARK
  0KATAKANA-HIRAGANA_VOICED_SOUND_MARK 1SEMI-VOICED_SOUND_MARK 0HIRAGANA_ITERATION_MARK
  1VOICED_ITERATION_MARK 1DIGRAPH_YORI 0KATAKANA-HIRAGANA_DOUBLE_HYPHEN 0KATAKANA_LETTER_SMALL_A
  2A 2SMALL_I 2I 2SMALL_U 2U 2SMALL_E 2E 2SMALL_O 2O 2KA 2GA 2KI 2GI 2KU 2GU 2KE 2GE 2KO 2GO 2SA
  2ZA 2SI 2ZI 2SU 2ZU 2SE 2ZE 2SO 2ZO 2TA 2DA 2TI 2DI 2SMALL_TU 2TU 2DU 2TE 2DE 2TO 2DO 2NA 2NI
  2NU 2NE 2NO 2HA 2BA 2PA 2HI 2BI 2PI 2HU 2BU 2PU 2HE 2BE 2PE 2HO 2BO 2PO 2MA 2MI 2MU 2ME 2MO
  2SMALL_YA 2YA 2SMALL_YU 2YU 2SMALL_YO 2YO 2RA 2RI 2RU 2RE 2RO 2SMALL_WA 2WA 2WI 2WE 2WO 2N 2VU
  2SMALL_KA 3KE 2VA 2VI 2VE 2VO 1MIDDLE_DOT 0KATAKANA-HIRAGANA_PROLONGED_SOUND_MARK
  0KATAKANA_ITERATION_MARK 1VOICED_ITERATION_MARK 1DIGRAPH_KOTO =3105 0BOPOMOFO_LETTER_B 2P 2M 2F
  2D 2T 2N 2L 2G 2K 2H 2J 2Q 2X 2ZH 2CH 2SH 2R 2Z 2C 2S 2A 2O 2E 2EH 2AI 2EI 2AU 2OU 2AN 2EN 2ANG
  2ENG 2ER 2I 2U 2IU 2V 2NG 2GN 2IH 2O_WITH_DOT_ABOVE 2NN =3131 0HANGUL_LETTER_KIYEOK 2SSANGKIYEOK
  2KIYEOK-SIOS 2NIEUN 2NIEUN-CIEUC 2NIEUN-HIEUH 2TIKEUT 2SSANGTIKEUT 2RIEUL 2RIEUL-KIYEOK
  2RIEUL-MIEUM 2RIEUL-PIEUP 2RIEUL-SIOS 2RIEUL-THIEUTH 2RIEUL-PHIEUPH 2RIEUL-HIEUH 2MIEUM 2PIEUP
  2SSANGPIEUP 2PIEUP-SIOS 2SIOS 2SSANGSIOS 2IEUNG 2CIEUC 2SSANGCIEUC 2CHIEUCH 2KHIEUKH 2THIEUTH
  2PHIEUPH 2HIEUH 2A 2AE 2YA 2YAE 2EO 2E 2YEO 2YE 2O 2WA 2WAE 2OE 2YO 2U 2WEO 2WE 2WI 2YU 2EU 2YI
  2I 1FILLER 1LETTER_SSANGNIEUN 2NIEUN-TIKEUT 2NIEUN-SIOS 2NIEUN-PANSIOS 2RIEUL-KIYEOK-SIOS
  2RIEUL-TIKEUT 2RIEUL-PIEUP-SIOS 2RIEUL-PANSIOS 2RIEUL-YEORINHIEUH 2MIEUM-PIEUP 2MIEUM-SIOS
  2MIEUM-PANSIOS 2KAPYEOUNMIEUM 2PIEUP-KIYEOK 2PIEUP-TIKEUT 2PIEUP-SIOS-KIYEOK 2PIEUP-SIOS-TIKEUT
  2PIEUP-CIEUC 2PIEUP-THIEUTH 2KAPYEOUNPIEUP 2KAPYEOUNSSANGPIEUP 2SIOS-KIYEOK 2SIOS-NIEUN
  2SIOS-TIKEUT 2SIOS-PIEUP 2SIOS-CIEUC 2PANSIOS 2SSANGIEUNG 2YESIEUNG 2YESIEUNG-SIOS
  2YESIEUNG-PANSIOS 2KAPYEOUNPHIEUPH 2SSANGHIEUH 2YEORINHIEUH 2YO-YA 2YO-YAE 2YO-I 2YU-YEO 2YU-YE
  2YU-I 2ARAEA 2ARAEAE =3190 0IDEOGRAPHIC_ANNOTATION_LINKING_MARK 2REVERSE_MARK 2ONE_MARK
  2TWO_MARK 2THREE_MARK 2FOUR_MARK 2TOP_MARK 2MIDDLE_MARK 2BOTTOM_MARK 2FIRST_MARK 2SECOND_MARK
  2THIRD_MARK 2FOURTH_MARK 2HEAVEN_MARK 2EARTH_MARK 2MAN_MARK 0BOPOMOFO_LETTER_BU 2ZI 2JI 2GU 2EE
  2ENN 2OO 2ONN 2IR 2ANN 2INN 2UNN 2IM 2NGG 2AINN 2AUNN 2AM 2OM 2ONG 2INNN 1FINAL_LETTER_P 3T 3K
  3H 1LETTER_GH 2LH 2ZY 1FINAL_LETTER_G 1LETTER_GW 2KW 2OE 2AH 0CJK_STROKE_T 2WG 2XG 2BXG 2SW 2HZZ
  2HZG 2HP 2HZWG 2SZWG 2HZT 2HZZP 2HPWG 2HZW 2HZZZ 2N 2H 2S 2P 2SP 2D 2HZ 2HG 2SZ 2SWZ 2ST 2SG 2PD
  2PZ 2TN 2SZZ 2SWG 2HXWG 2HZZZG 2PG 2Q =31f0 0KATAKANA_LETTER_SMALL_KU 3SI 3SU 3TO 3NU 3HA 3HI
  3HU 3HE 3HO 3MU 3RA 3RI 3RU 3RE 3RO 0PARENTHESIZED_HANGUL_KIYEOK 2NIEUN 2TIKEUT 2RIEUL 2MIEUM
  2PIEUP 2SIOS 2IEUNG 2CIEUC 2CHIEUCH 2KHIEUKH 2THIEUTH 2PHIEUPH 2HIEUH 2KIYEOK_A 2NIEUN_A
  2TIKEUT_A 2RIEUL_A 2MIEUM_A 2PIEUP_A 2SIOS_A 2IEUNG_A 2CIEUC_A 2CHIEUCH_A 2KHIEUKH_A 2THIEUTH_A
  2PHIEUPH_A 2HIEUH_A 2CIEUC_U 1KOREAN_CHARACTER_OJEON 3O_HU =3220 1IDEOGRAPH_ONE 2TWO 2THREE
  2FOUR 2FIVE 2SIX 2SEVEN 2EIGHT 2NINE 2TEN 2MOON 2FIRE 2WATER 2WOOD 2METAL 2EARTH 2SUN 2STOCK
  2HAVE 2SOCIETY 2NAME 2SPECIAL 2FINANCIAL 2CONGRATULATION 2LABOR 2REPRESENT 2CALL 2STUDY
  2SUPERVISE 2ENTERPRISE 2RESOURCE 2ALLIANCE 2FESTIVAL 2REST 2SELF 2REACH
  0CIRCLED_IDEOGRAPH_QUESTION 2KINDERGARTEN 2SCHOOL 2KOTO 1NUMBER_TEN_ON_BLACK_SQUARE
  2TWENTY_ON_BLACK_SQUARE 2THIRTY_ON_BLACK_SQUARE 2FORTY_ON_BLACK_SQUARE 2FIFTY_ON_BLACK_SQUARE
  2SIXTY_ON_BLACK_SQUARE 2SEVENTY_ON_BLACK_SQUARE 2EIGHTY_ON_BLACK_SQUARE 0PARTNERSHIP_SIGN
  0CIRCLED_NUMBER_TWENTY_ONE 3TWO 3THREE 3FOUR 3FIVE 3SIX 3SEVEN 3EIGHT 3NINE 2THIRTY 3ONE 3TWO
  3THREE 3FOUR 3FIVE 1HANGUL_KIYEOK 2NIEUN 2TIKEUT 2RIEUL 2MIEUM 2PIEUP 2SIOS 2IEUNG 2CIEUC
  2CHIEUCH 2KHIEUKH 2THIEUTH 2PHIEUPH 2HIEUH 2KIYEOK_A 2NIEUN_A 2TIKEUT_A 2RIEUL_A 2MIEUM_A
  2PIEUP_A 2SIOS_A 2IEUNG_A 2CIEUC_A 2CHIEUCH_A 2KHIEUKH_A 2THIEUTH_A 2PHIEUPH_A 2HIEUH_A
  1KOREAN_CHARACTER_CHAMKO 3JUEUI 1HANGUL_IEUNG_U 0KOREAN_STANDARD_SYMBOL 0CIRCLED_IDEOGRAPH_ONE
  2TWO 2THREE 2FOUR 2FIVE 2SIX 2SEVEN 2EIGHT 2NINE 2TEN 2MOON 2FIRE 2WATER 2WOOD 2METAL 2EARTH
  2SUN 2STOCK 2HAVE 2SOCIETY 2NAME 2SPECIAL 2FINANCIAL 2CONGRATULATION 2LABOR 2SECRET 2MALE
  2FEMALE 2SUITABLE 2EXCELLENT 2PRINT 2ATTENTION 2ITEM 2REST 2COPY 2CORRECT 2HIGH 2CENTRE 2LOW
  2LEFT 2RIGHT 2MEDICINE 2RELIGION 2STUDY 2SUPERVISE 2ENTERPRISE 2RESOURCE 2ALLIANCE 2NIGHT
  1NUMBER_THIRTY_SIX 3SEVEN 3EIGHT 3NINE 2FORTY 3ONE 3TWO 3THREE 3FOUR 3FIVE 3SIX 3SEVEN 3EIGHT
  3NINE 2FIFTY 0IDEOGRAPHIC_TELEGRAPH_SYMBOL_FOR_JANUARY 4FEBRUARY 4MARCH 4APRIL 4MAY 4JUNE 4JULY
  4AUGUST 4SEPTEMBER 4OCTOBER 4NOVEMBER 4DECEMBER 0SQUARE_HG 1ERG 1EV 0LIMITED_LIABILITY_SIGN
  0CIRCLED_KATAKANA_A 2I 2U 2E 2O 2KA 2KI 2KU 2KE 2KO 2SA 2SI 2SU 2SE 2SO 2TA 2TI 2TU 2TE 2TO 2NA
  2NI 2NU 2NE 2NO 2HA 2HI 2HU 2HE 2HO 2MA 2MI 2MU 2ME 2MO 2YA 2YU 2YO 2RA 2RI 2RU 2RE 2RO 2WA 2WI
  2WE 2WO 0SQUARE_ERA_NAME_REIWA 1APAATO 1ARUHUA 1ANPEA 1AARU 1ININGU 1INTI 1UON 1ESUKUUDO 1EEKAA
  1ONSU 1OOMU 1KAIRI 1KARATTO 1KARORII 1GARON 1GANMA 1GIGA 1GINII 1KYURII 1GIRUDAA 1KIRO
  1KIROGURAMU 1KIROMEETORU 1KIROWATTO 1GURAMU 1GURAMUTON 1KURUZEIRO 1KUROONE 1KEESU 1KORUNA 1KOOPO
  1SAIKURU 1SANTIIMU 1SIRINGU 1SENTI 1SENTO 1DAASU 1DESI 1DORU 1TON 1NANO 1NOTTO 1HAITU 1PAASENTO
  1PAATU 1BAARERU 1PIASUTORU 1PIKURU 1PIKO 1BIRU 1HUARADDO 1HUIITO 1BUSSYERU 1HURAN 1HEKUTAARU
  1PESO 1PENIHI 1HERUTU 1PENSU 1PEEZI 1BEETA 1POINTO 1BORUTO 1HON 1PONDO 1HOORU 1HOON 1MAIKURO
  1MAIRU 1MAHHA 1MARUKU 1MANSYON 1MIKURON 1MIRI 1MIRIBAARU 1MEGA 1MEGATON 1MEETORU 1YAADO 1YAARU
  1YUAN 1RITTORU 1RIRA 1RUPII 1RUUBURU 1REMU 1RENTOGEN 1WATTO
  0IDEOGRAPHIC_TELEGRAPH_SYMBOL_FOR_HOUR_ZERO 5ONE 5TWO 5THREE 5FOUR 5FIVE 5SIX 5SEVEN 5EIGHT
  5NINE 5TEN 5ELEVEN 5TWELVE 5THIRTEEN 5FOURTEEN 5FIFTEEN 5SIXTEEN 5SEVENTEEN 5EIGHTEEN 5NINETEEN
  5TWENTY 5TWENTY-ONE 5TWENTY-TWO 5TWENTY-THREE 5TWENTY-FOUR 0SQUARE_HPA 1DA 1AU 1BAR 1OV 1PC 1DM
  2SQUARED 2CUBED 1IU 1ERA_NAME_HEISEI 3SYOUWA 3TAISYOU 3MEIZI 1CORPORATION 1PA_AMPS 1NA 1MU_A 1MA
  1KA 1KB 1MB 1GB 1CAL 1KCAL 1PF 1NF 1MU_F 2G 1MG 1KG 1HZ 1KHZ 1MHZ 1GHZ 1THZ 1MU_L 1ML 1DL 1KL
  1FM 1NM 1MU_M 1MM 1CM 1KM 1MM_SQUARED 1CM_SQUARED 1M_SQUARED 1KM_SQUARED 1MM_CUBED 1CM_CUBED
  1M_CUBED 1KM_CUBED 1M_OVER_S 4SQUARED 1PA 1KPA 1MPA 1GPA 1RAD 2OVER_S 4SQUARED 1PS 1NS 1MU_S 1MS
  1PV 1NV 1MU_V 1MV 1KV 1MV_MEGA 1PW 1NW 1MU_W 1MW 1KW 1MW_MEGA 1K_OHM 1M_OHM 1AM 1BQ 1CC 1CD
  1C_OVER_KG 1CO 1DB 1GY 1HA 1HP 1IN 1KK 1KM_CAPITAL 1KT 1LM 1LN 1LOG 1LX 1MB_SMALL 1MIL 1MOL 1PH
  1PM 1PPM 1PR 1SR 1SV 1WB 1V_OVER_M 1A_OVER_M 0IDEOGRAPHIC_TELEGRAPH_SYMBOL_FOR_DAY_ONE 5TWO
  5THREE 5FOUR 5FIVE 5SIX 5SEVEN 5EIGHT 5NINE 5TEN 5ELEVEN 5TWELVE 5THIRTEEN 5FOURTEEN 5FIFTEEN
  5SIXTEEN 5SEVENTEEN 5EIGHTEEN 5NINETEEN 5TWENTY 5TWENTY-ONE 5TWENTY-TWO 5TWENTY-THREE
  5TWENTY-FOUR 5TWENTY-FIVE 5TWENTY-SIX 5TWENTY-SEVEN 5TWENTY-EIGHT 5TWENTY-NINE 5THIRTY
  5THIRTY-ONE 0SQUARE_GAL =4dc0 0HEXAGRAM_FOR_THE_CREATIVE_HEAVEN 3RECEPTIVE_EARTH
  2DIFFICULTY_AT_THE_BEGINNING 2YOUTHFUL_FOLLY 2WAITING 2CONFLICT 2THE_ARMY 2HOLDING_TOGETHER
  2SMALL_TAMING 2TREADING 2PEACE 2STANDSTILL 2FELLOWSHIP 2GREAT_POSSESSION 2MODESTY 2ENTHUSIASM
  2FOLLOWING 2WORK_ON_THE_DECAYED 2APPROACH 2CONTEMPLATION 2BITING_THROUGH 2GRACE 2SPLITTING_APART
  2RETURN 2INNOCENCE 2GREAT_TAMING 2MOUTH_CORNERS 2GREAT_PREPONDERANCE 2THE_ABYSMAL_WATER
  3CLINGING_FIRE 2INFLUENCE 2DURATION 2RETREAT 2GREAT_POWER 2PROGRESS 2DARKENING_OF_THE_LIGHT
  2THE_FAMILY 2OPPOSITION 2OBSTRUCTION 2DELIVERANCE 2DECREASE 2INCREASE 2BREAKTHROUGH
  2COMING_TO_MEET 2GATHERING_TOGETHER 2PUSHING_UPWARD 2OPPRESSION 2THE_WELL 2REVOLUTION
  2THE_CAULDRON 3AROUSING_THUNDER 3KEEPING_STILL_MOUNTAIN 2DEVELOPMENT 2THE_MARRYING_MAIDEN
  2ABUNDANCE 2THE_WANDERER 3GENTLE_WIND 3JOYOUS_LAKE 2DISPERSION 2LIMITATION 2INNER_TRUTH
  2SMALL_PREPONDERANCE 2AFTER_COMPLETION 2BEFORE_COMPLETION =a000 0YI_SYLLABLE_IT 2IX 2I 2IP 2IET
  2IEX 2IE 2IEP 2AT 2AX 2A 2AP 2UOX 2UO 2UOP 2OT 2OX 2O 2OP 2EX 2E 2WU 2BIT 2BIX 2BI 2BIP 2BIET
  2BIEX 2BIE 2BIEP 2BAT 2BAX 2BA 2BAP 2BUOX 2BUO 2BUOP 2BOT 2BOX 2BO 2BOP 2BEX 2BE 2BEP 2BUT 2BUX
  2BU 2BUP 2BURX 2BUR 2BYT 2BYX 2BY 2BYP 2BYRX 2BYR 2PIT 2PIX 2PI 2PIP 2PIEX 2PIE 2PIEP 2PAT 2PAX
  2PA 2PAP 2PUOX 2PUO 2PUOP 2POT 2POX 2PO 2POP 2PUT 2PUX 2PU 2PUP 2PURX 2PUR 2PYT 2PYX 2PY 2PYP
  2PYRX 2PYR 2BBIT 2BBIX 2BBI 2BBIP 2BBIET 2BBIEX 2BBIE 2BBIEP 2BBAT 2BBAX 2BBA 2BBAP 2BBUOX 2BBUO
  2BBUOP 2BBOT 2BBOX 2BBO 2BBOP 2BBEX 2BBE 2BBEP 2BBUT 2BBUX 2BBU 2BBUP 2BBURX 2BBUR 2BBYT 2BBYX
  2BBY 2BBYP 2NBIT 2NBIX 2NBI 2NBIP 2NBIEX 2NBIE 2NBIEP 2NBAT 2NBAX 2NBA 2NBAP 2NBOT 2NBOX 2NBO
  2NBOP 2NBUT 2NBUX 2NBU 2NBUP 2NBURX 2NBUR 2NBYT 2NBYX 2NBY 2NBYP 2NBYRX 2NBYR 2HMIT 2HMIX 2HMI
  2HMIP 2HMIEX 2HMIE 2HMIEP 2HMAT 2HMAX 2HMA 2HMAP 2HMUOX 2HMUO 2HMUOP 2HMOT 2HMOX 2HMO 2HMOP
  2HMUT 2HMUX 2HMU 2HMUP 2HMURX 2HMUR 2HMYX 2HMY 2HMYP 2HMYRX 2HMYR 2MIT 2MIX 2MI 2MIP 2MIEX 2MIE
  2MIEP 2MAT 2MAX 2MA 2MAP 2MUOT 2MUOX 2MUO 2MUOP 2MOT 2MOX 2MO 2MOP 2MEX 2ME 2MUT 2MUX 2MU 2MUP
  2MURX 2MUR 2MYT 2MYX 2MY 2MYP 2FIT 2FIX 2FI 2FIP 2FAT 2FAX 2FA 2FAP 2FOX 2FO 2FOP 2FUT 2FUX 2FU
  2FUP 2FURX 2FUR 2FYT 2FYX 2FY 2FYP 2VIT 2VIX 2VI 2VIP 2VIET 2VIEX 2VIE 2VIEP 2VAT 2VAX 2VA 2VAP
  2VOT 2VOX 2VO 2VOP 2VEX 2VEP 2VUT 2VUX 2VU 2VUP 2VURX 2VUR 2VYT 2VYX 2VY 2VYP 2VYRX 2VYR 2DIT
  2DIX 2DI 2DIP 2DIEX 2DIE 2DIEP 2DAT 2DAX 2DA 2DAP 2DUOX 2DUO 2DOT 2DOX 2DO 2DOP 2DEX 2DE 2DEP
  2DUT 2DUX 2DU 2DUP 2DURX 2DUR 2TIT 2TIX 2TI 2TIP 2TIEX 2TIE 2TIEP 2TAT 2TAX 2TA 2TAP 2TUOT 2TUOX
  2TUO 2TUOP 2TOT 2TOX 2TO 2TOP 2TEX 2TE 2TEP 2TUT 2TUX 2TU 2TUP 2TURX 2TUR 2DDIT 2DDIX 2DDI 2DDIP
  2DDIEX 2DDIE 2DDIEP 2DDAT 2DDAX 2DDA 2DDAP 2DDUOX 2DDUO 2DDUOP 2DDOT 2DDOX 2DDO 2DDOP 2DDEX 2DDE
  2DDEP 2DDUT 2DDUX 2DDU 2DDUP 2DDURX 2DDUR 2NDIT 2NDIX 2NDI 2NDIP 2NDIEX 2NDIE 2NDAT 2NDAX 2NDA
  2NDAP 2NDOT 2NDOX 2NDO 2NDOP 2NDEX 2NDE 2NDEP 2NDUT 2NDUX 2NDU 2NDUP 2NDURX 2NDUR 2HNIT 2HNIX
  2HNI 2HNIP 2HNIET 2HNIEX 2HNIE 2HNIEP 2HNAT 2HNAX 2HNA 2HNAP 2HNUOX 2HNUO 2HNOT 2HNOX 2HNOP
  2HNEX 2HNE 2HNEP 2HNUT 2NIT 2NIX 2NI 2NIP 2NIEX 2NIE 2NIEP 2NAX 2NA 2NAP 2NUOX 2NUO 2NUOP 2NOT
  2NOX 2NO 2NOP 2NEX 2NE 2NEP 2NUT 2NUX 2NU 2NUP 2NURX 2NUR 2HLIT 2HLIX 2HLI 2HLIP 2HLIEX 2HLIE
  2HLIEP 2HLAT 2HLAX 2HLA 2HLAP 2HLUOX 2HLUO 2HLUOP 2HLOX 2HLO 2HLOP 2HLEX 2HLE 2HLEP 2HLUT 2HLUX
  2HLU 2HLUP 2HLURX 2HLUR 2HLYT 2HLYX 2HLY 2HLYP 2HLYRX 2HLYR 2LIT 2LIX 2LI 2LIP 2LIET 2LIEX 2LIE
  2LIEP 2LAT 2LAX 2LA 2LAP 2LUOT 2LUOX 2LUO 2LUOP 2LOT 2LOX 2LO 2LOP 2LEX 2LE 2LEP 2LUT 2LUX 2LU
  2LUP 2LURX 2LUR 2LYT 2LYX 2LY 2LYP 2LYRX 2LYR 2GIT 2GIX 2GI 2GIP 2GIET 2GIEX 2GIE 2GIEP 2GAT
  2GAX 2GA 2GAP 2GUOT 2GUOX 2GUO 2GUOP 2GOT 2GOX 2GO 2GOP 2GET 2GEX 2GE 2GEP 2GUT 2GUX 2GU 2GUP
  2GURX 2GUR 2KIT 2KIX 2KI 2KIP 2KIEX 2KIE 2KIEP 2KAT 2KAX 2KA 2KAP 2KUOX 2KUO 2KUOP 2KOT 2KOX 2KO
  2KOP 2KET 2KEX 2KE 2KEP 2KUT 2KUX 2KU 2KUP 2KURX 2KUR 2GGIT 2GGIX 2GGI 2GGIEX 2GGIE 2GGIEP 2GGAT
  2GGAX 2GGA 2GGAP 2GGUOT 2GGUOX 2GGUO 2GGUOP 2GGOT 2GGOX 2GGO 2GGOP 2GGET 2GGEX 2GGE 2GGEP 2GGUT
  2GGUX 2GGU 2GGUP 2GGURX 2GGUR 2MGIEX 2MGIE 2MGAT 2MGAX 2MGA 2MGAP 2MGUOX 2MGUO 2MGUOP 2MGOT
  2MGOX 2MGO 2MGOP 2MGEX 2MGE 2MGEP 2MGUT 2MGUX 2MGU 2MGUP 2MGURX 2MGUR 2HXIT 2HXIX 2HXI 2HXIP
  2HXIET 2HXIEX 2HXIE 2HXIEP 2HXAT 2HXAX 2HXA 2HXAP 2HXUOT 2HXUOX 2HXUO 2HXUOP 2HXOT 2HXOX 2HXO
  2HXOP 2HXEX 2HXE 2HXEP 2NGIEX 2NGIE 2NGIEP 2NGAT 2NGAX 2NGA 2NGAP 2NGUOT 2NGUOX 2NGUO 2NGOT
  2NGOX 2NGO 2NGOP 2NGEX 2NGE 2NGEP 2HIT 2HIEX 2HIE 2HAT 2HAX 2HA 2HAP 2HUOT 2HUOX 2HUO 2HUOP 2HOT
  2HOX 2HO 2HOP 2HEX 2HE 2HEP 2WAT 2WAX 2WA 2WAP 2WUOX 2WUO 2WUOP 2WOX 2WO 2WOP 2WEX 2WE 2WEP 2ZIT
  2ZIX 2ZI 2ZIP 2ZIEX 2ZIE 2ZIEP 2ZAT 2ZAX 2ZA 2ZAP 2ZUOX 2ZUO 2ZUOP 2ZOT 2ZOX 2ZO 2ZOP 2ZEX 2ZE
  2ZEP 2ZUT 2ZUX 2ZU 2ZUP 2ZURX 2ZUR 2ZYT 2ZYX 2ZY 2ZYP 2ZYRX 2ZYR 2CIT 2CIX 2CI 2CIP 2CIET 2CIEX
  2CIE 2CIEP 2CAT 2CAX 2CA 2CAP 2CUOX 2CUO 2CUOP 2COT 2COX 2CO 2COP 2CEX 2CE 2CEP 2CUT 2CUX 2CU
  2CUP 2CURX 2CUR 2CYT 2CYX 2CY 2CYP 2CYRX 2CYR 2ZZIT 2ZZIX 2ZZI 2ZZIP 2ZZIET 2ZZIEX 2ZZIE 2ZZIEP
  2ZZAT 2ZZAX 2ZZA 2ZZAP 2ZZOX 2ZZO 2ZZOP 2ZZEX 2ZZE 2ZZEP 2ZZUX 2ZZU 2ZZUP 2ZZURX 2ZZUR 2ZZYT
  2ZZYX 2ZZY 2ZZYP 2ZZYRX 2ZZYR 2NZIT 2NZIX 2NZI 2NZIP 2NZIEX 2NZIE 2NZIEP 2NZAT 2NZAX 2NZA 2NZAP
  2NZUOX 2NZUO 2NZOX 2NZOP 2NZEX 2NZE 2NZUX 2NZU 2NZUP 2NZURX 2NZUR 2NZYT 2NZYX 2NZY 2NZYP 2NZYRX
  2NZYR 2SIT 2SIX 2SI 2SIP 2SIEX 2SIE 2SIEP 2SAT 2SAX 2SA 2SAP 2SUOX 2SUO 2SUOP 2SOT 2SOX 2SO 2SOP
  2SEX 2SE 2SEP 2SUT 2SUX 2SU 2SUP 2SURX 2SUR 2SYT 2SYX 2SY 2SYP 2SYRX 2SYR 2SSIT 2SSIX 2SSI 2SSIP
  2SSIEX 2SSIE 2SSIEP 2SSAT 2SSAX 2SSA 2SSAP 2SSOT 2SSOX 2SSO 2SSOP 2SSEX 2SSE 2SSEP 2SSUT 2SSUX
  2SSU 2SSUP 2SSYT 2SSYX 2SSY 2SSYP 2SSYRX 2SSYR 2ZHAT 2ZHAX 2ZHA 2ZHAP 2ZHUOX 2ZHUO 2ZHUOP 2ZHOT
  2ZHOX 2ZHO 2ZHOP 2ZHET 2ZHEX 2ZHE 2ZHEP 2ZHUT 2ZHUX 2ZHU 2ZHUP 2ZHURX 2ZHUR 2ZHYT 2ZHYX 2ZHY
  2ZHYP 2ZHYRX 2ZHYR 2CHAT 2CHAX 2CHA 2CHAP 2CHUOT 2CHUOX 2CHUO 2CHUOP 2CHOT 2CHOX 2CHO 2CHOP
  2CHET 2CHEX 2CHE 2CHEP 2CHUX 2CHU 2CHUP 2CHURX 2CHUR 2CHYT 2CHYX 2CHY 2CHYP 2CHYRX 2CHYR 2RRAX
  2RRA 2RRUOX 2RRUO 2RROT 2RROX 2RRO 2RROP 2RRET 2RREX 2RRE 2RREP 2RRUT 2RRUX 2RRU 2RRUP 2RRURX
  2RRUR 2RRYT 2RRYX 2RRY 2RRYP 2RRYRX 2RRYR 2NRAT 2NRAX 2NRA 2NRAP 2NROX 2NRO 2NROP 2NRET 2NREX
  2NRE 2NREP 2NRUT 2NRUX 2NRU 2NRUP 2NRURX 2NRUR 2NRYT 2NRYX 2NRY 2NRYP 2NRYRX 2NRYR 2SHAT 2SHAX
  2SHA 2SHAP 2SHUOX 2SHUO 2SHUOP 2SHOT 2SHOX 2SHO 2SHOP 2SHET 2SHEX 2SHE 2SHEP 2SHUT 2SHUX 2SHU
  2SHUP 2SHURX 2SHUR 2SHYT 2SHYX 2SHY 2SHYP 2SHYRX 2SHYR 2RAT 2RAX 2RA 2RAP 2RUOX 2RUO 2RUOP 2ROT
  2ROX 2RO 2ROP 2REX 2RE 2REP 2RUT 2RUX 2RU 2RUP 2RURX 2RUR 2RYT 2RYX 2RY 2RYP 2RYRX 2RYR 2JIT
  2JIX 2JI 2JIP 2JIET 2JIEX 2JIE 2JIEP 2JUOT 2JUOX 2JUO 2JUOP 2JOT 2JOX 2JO 2JOP 2JUT 2JUX 2JU
  2JUP 2JURX 2JUR 2JYT 2JYX 2JY 2JYP 2JYRX 2JYR 2QIT 2QIX 2QI 2QIP 2QIET 2QIEX 2QIE 2QIEP 2QUOT
  2QUOX 2QUO 2QUOP 2QOT 2QOX 2QO 2QOP 2QUT 2QUX 2QU 2QUP 2QURX 2QUR 2QYT 2QYX 2QY 2QYP 2QYRX 2QYR
  2JJIT 2JJIX 2JJI 2JJIP 2JJIET 2JJIEX 2JJIE 2JJIEP 2JJUOX 2JJUO 2JJUOP 2JJOT 2JJOX 2JJO 2JJOP
  2JJUT 2JJUX 2JJU 2JJUP 2JJURX 2JJUR 2JJYT 2JJYX 2JJY 2JJYP 2NJIT 2NJIX 2NJI 2NJIP 2NJIET 2NJIEX
  2NJIE 2NJIEP 2NJUOX 2NJUO 2NJOT 2NJOX 2NJO 2NJOP 2NJUX 2NJU 2NJUP 2NJURX 2NJUR 2NJYT 2NJYX 2NJY
  2NJYP 2NJYRX 2NJYR 2NYIT 2NYIX 2NYI 2NYIP 2NYIET 2NYIEX 2NYIE 2NYIEP 2NYUOX 2NYUO 2NYUOP 2NYOT
  2NYOX 2NYO 2NYOP 2NYUT 2NYUX 2NYU 2NYUP 2XIT 2XIX 2XI 2XIP 2XIET 2XIEX 2XIE 2XIEP 2XUOX 2XUO
  2XOT 2XOX 2XO 2XOP 2XYT 2XYX 2XY 2XYP 2XYRX 2XYR 2YIT 2YIX 2YI 2YIP 2YIET 2YIEX 2YIE 2YIEP 2YUOT
  2YUOX 2YUO 2YUOP 2YOT 2YOX 2YO 2YOP 2YUT 2YUX 2YU 2YUP 2YURX 2YUR 2YYT 2YYX 2YY 2YYP 2YYRX 2YYR
  =a490 1RADICAL_QOT 2LI 2KIT 2NYIP 2CYP 2SSI 2GGOP 2GEP 2MI 2HXIT 2LYR 2BBUT 2MOP 2YO 2PUT 2HXUO
  2TAT 2GA 2ZUP 2CYT 2DDUR 2BUR 2GGUO 2NYOP 2TU 2OP 2JJUT 2ZOT 2PYT 2HMO 2YIT 2VUR 2SHY 2VEP 2ZA
  2JO 2NZUP 2JJY 2GOT 2JJIE 2WO 2DU 2SHUR 2LIE 2CY 2CUOP 2CIP 2HXOP 2SHAT 2ZUR 2SHOP 2CHE 2ZZIET
  2NBIE 2KE =a4d0 0LISU_LETTER_BA 2PA 2PHA 2DA 2TA 2THA 2GA 2KA 2KHA 2JA 2CA 2CHA 2DZA 2TSA 2TSHA
  2MA 2NA 2LA 2SA 2ZHA 2ZA 2NGA 2HA 2XA 2HHA 2FA 2WA 2SHA 2YA 2GHA 2A 2AE 2E 2EU 2I 2O 2U 2UE 2UH
  2OE 2TONE_MYA_TI 3NA_PO 3MYA_CYA 4BO 4NA 4JEU 1PUNCTUATION_COMMA 2FULL_STOP 0VAI_SYLLABLE_EE
  2EEN 2HEE 2WEE 2WEEN 2PEE 2BHEE 2BEE 2MBEE 2KPEE 2MGBEE 2GBEE 2FEE 2VEE 2TEE 2THEE 2DHEE 2DHHEE
  2LEE 2REE 2DEE 2NDEE 2SEE 2SHEE 2ZEE 2ZHEE 2CEE 2JEE 2NJEE 2YEE 2KEE 2NGGEE 2GEE 2MEE 2NEE 2NYEE
  2I 2IN 2HI 2HIN 2WI 2WIN 2PI 2BHI 2BI 2MBI 2KPI 2MGBI 2GBI 2FI 2VI 2TI 2THI 2DHI 2DHHI 2LI 2RI
  2DI 2NDI 2SI 2SHI 2ZI 2ZHI 2CI 2JI 2NJI 2YI 2KI 2NGGI 2GI 2MI 2NI 2NYI 2A 2AN 2NGAN 2HA 2HAN 2WA
  2WAN 2PA 2BHA 2BA 2MBA 2KPA 2KPAN 2MGBA 2GBA 2FA 2VA 2TA 2THA 2DHA 2DHHA 2LA 2RA 2DA 2NDA 2SA
  2SHA 2ZA 2ZHA 2CA 2JA 2NJA 2YA 2KA 2KAN 2NGGA 2GA 2MA 2NA 2NYA 2OO 2OON 2HOO 2WOO 2WOON 2POO
  2BHOO 2BOO 2MBOO 2KPOO 2MGBOO 2GBOO 2FOO 2VOO 2TOO 2THOO 2DHOO 2DHHOO 2LOO 2ROO 2DOO 2NDOO 2SOO
  2SHOO 2ZOO 2ZHOO 2COO 2JOO 2NJOO 2YOO 2KOO 2NGGOO 2GOO 2MOO 2NOO 2NYOO 2U 2UN 2HU 2HUN 2WU 2WUN
  2PU 2BHU 2BU 2MBU 2KPU 2MGBU 2GBU 2FU 2VU 2TU 2THU 2DHU 2DHHU 2LU 2RU 2DU 2NDU 2SU 2SHU 2ZU 2ZHU
  2CU 2JU 2NJU 2YU 2KU 2NGGU 2GU 2MU 2NU 2NYU 2O 2ON 2NGON 2HO 2HON 2WO 2WON 2PO 2BHO 2BO 2MBO
  2KPO 2MGBO 2GBO 2GBON 2FO 2VO 2TO 2THO 2DHO 2DHHO 2LO 2RO 2DO 2NDO 2SO 2SHO 2ZO 2ZHO 2CO 2JO
  2NJO 2YO 2KO 2NGGO 2GO 2MO 2NO 2NYO 2E 2EN 2NGEN 2HE 2HEN 2WE 2WEN 2PE 2BHE 2BE 2MBE 2KPE 2KPEN
  2MGBE 2GBE 2GBEN 2FE 2VE 2TE 2THE 2DHE 2DHHE 2LE 2RE 2DE 2NDE 2SE 2SHE 2ZE 2ZHE 2CE 2JE 2NJE 2YE
  2KE 2NGGE 2NGGEN 2GE 2GEN 2ME 2NE 2NYE 2NG 2LENGTHENER 1COMMA 1FULL_STOP 1QUESTION_MARK
  1SYLLABLE_NDOLE_FA 3KA 3SOO 1SYMBOL_FEENG 2KEENG 2TING 2NII 2BANG 2FAA 2TAA 2DANG 2DOONG 2KUNG
  2TONG 2DO-O 2JONG 1DIGIT_ZERO 2ONE 2TWO 2THREE 2FOUR 2FIVE 2SIX 2SEVEN 2EIGHT 2NINE
  1SYLLABLE_NDOLE_MA 3DO =a640 0CYRILLIC_CAPITAL_LETTER_ZEMLYA 1SMALL_LETTER_ZEMLYA
  1CAPITAL_LETTER_DZELO 1SMALL_LETTER_DZELO 1CAPITAL_LETTER_REVERSED_DZE
  1SMALL_LETTER_REVERSED_DZE 1CAPITAL_LETTER_IOTA 1SMALL_LETTER_IOTA 1CAPITAL_LETTER_DJERV
  1SMALL_LETTER_DJERV 1CAPITAL_LETTER_MONOGRAPH_UK 1SMALL_LETTER_MONOGRAPH_UK
  1CAPITAL_LETTER_BROAD_OMEGA 1SMALL_LETTER_BROAD_OMEGA 1CAPITAL_LETTER_NEUTRAL_YER
  1SMALL_LETTER_NEUTRAL_YER 1CAPITAL_LETTER_YERU_WITH_BACK_YER 1SMALL_LETTER_YERU_WITH_BACK_YER
  1CAPITAL_LETTER_IOTIFIED_YAT 1SMALL_LETTER_IOTIFIED_YAT 1CAPITAL_LETTER_REVERSED_YU
  1SMALL_LETTER_REVERSED_YU 1CAPITAL_LETTER_IOTIFIED_A 1SMALL_LETTER_IOTIFIED_A
  1CAPITAL_LETTER_CLOSED_LITTLE_YUS 1SMALL_LETTER_CLOSED_LITTLE_YUS 1CAPITAL_LETTER_BLENDED_YUS
  1SMALL_LETTER_BLENDED_YUS 1CAPITAL_LETTER_IOTIFIED_CLOSED_LITTLE_YUS
  1SMALL_LETTER_IOTIFIED_CLOSED_LITTLE_YUS 1CAPITAL_LETTER_YN 1SMALL_LETTER_YN
  1CAPITAL_LETTER_REVERSED_TSE 1SMALL_LETTER_REVERSED_TSE 1CAPITAL_LETTER_SOFT_DE
  1SMALL_LETTER_SOFT_DE 1CAPITAL_LETTER_SOFT_EL 1SMALL_LETTER_SOFT_EL 1CAPITAL_LETTER_SOFT_EM
  1SMALL_LETTER_SOFT_EM 1CAPITAL_LETTER_MONOCULAR_O 1SMALL_LETTER_MONOCULAR_O
  1CAPITAL_LETTER_BINOCULAR_O 1SMALL_LETTER_BINOCULAR_O 1CAPITAL_LETTER_DOUBLE_MONOCULAR_O
  1SMALL_LETTER_DOUBLE_MONOCULAR_O 1LETTER_MULTIOCULAR_O 0COMBINING_CYRILLIC_VZMET
  2TEN_MILLIONS_SIGN 2HUNDRED_MILLIONS_SIGN 2THOUSAND_MILLIONS_SIGN 0SLAVONIC_ASTERISK
  0COMBINING_CYRILLIC_LETTER_UKRAINIAN_IE 3I 3YI 3U 3HARD_SIGN 3YERU 3SOFT_SIGN 3OMEGA 2KAVYKA
  2PAYEROK 0CYRILLIC_KAVYKA 1PAYEROK 1CAPITAL_LETTER_DWE 1SMALL_LETTER_DWE 1CAPITAL_LETTER_DZWE
  1SMALL_LETTER_DZWE 1CAPITAL_LETTER_ZHWE 1SMALL_LETTER_ZHWE 1CAPITAL_LETTER_CCHE
  1SMALL_LETTER_CCHE 1CAPITAL_LETTER_DZZE 1SMALL_LETTER_DZZE 1CAPITAL_LETTER_TE_WITH_MIDDLE_HOOK
  1SMALL_LETTER_TE_WITH_MIDDLE_HOOK 1CAPITAL_LETTER_TWE 1SMALL_LETTER_TWE 1CAPITAL_LETTER_TSWE
  1SMALL_LETTER_TSWE 1CAPITAL_LETTER_TSSE 1SMALL_LETTER_TSSE 1CAPITAL_LETTER_TCHE
  1SMALL_LETTER_TCHE 1CAPITAL_LETTER_HWE 1SMALL_LETTER_HWE 1CAPITAL_LETTER_SHWE 1SMALL_LETTER_SHWE
  1CAPITAL_LETTER_DOUBLE_O 1SMALL_LETTER_DOUBLE_O 1CAPITAL_LETTER_CROSSED_O
  1SMALL_LETTER_CROSSED_O 0MODIFIER_LETTER_CYRILLIC_HARD_SIGN 3SOFT_SIGN
  0COMBINING_CYRILLIC_LETTER_EF 3IOTIFIED_E 0BAMUM_LETTER_A 2KA 2U 2KU 2EE 2REE 2TAE 2O 2NYI 2I
  2LA 2PA 2RII 2RIEE 2LEEEE 2MEEEE 2TAA 2NDAA 2NJAEM 2M 2SUU 2MU 2SHII 2SI 2SHEUX 2SEUX 2KYEE 2KET
  2NUAE 2NU 2NJUAE 2YOQ 2SHU 2YUQ 2YA 2NSHA 2KEUX 2PEUX 2NJEE 2NTEE 2PUE 2WUE 2PEE 2FEE 2RU 2LU
  2MI 2NI 2REUX 2RAE 2KEN 2NGKWAEN 2NGGA 2NGA 2SHO 2PUAE 2FU 2FOM 2WA 2NA 2LI 2PI 2LOQ 2KO 2MBEN
  2REN 2MEN 2MA 2TI 2KI 2MO 2MBAA 2TET 2KPA 2TEN 2NTUU 2SAMBA 2FAAMAE 2KOVUU 2KOGHOM
  1COMBINING_MARK_KOQNDON 3TUKWENTIS 1NJAEMLI 1FULL_STOP 1COLON 1COMMA 1SEMICOLON 1QUESTION_MARK
  =a700 0MODIFIER_LETTER_CHINESE_TONE_YIN_PING 4YANG_PING 4YIN_SHANG 4YANG_SHANG 4YIN_QU 4YANG_QU
  4YIN_RU 4YANG_RU 2EXTRA-HIGH_DOTTED_TONE_BAR 2HIGH_DOTTED_TONE_BAR 2MID_DOTTED_TONE_BAR
  2LOW_DOTTED_TONE_BAR 2EXTRA-LOW_DOTTED_TONE_BAR 2EXTRA-HIGH_DOTTED_LEFT-STEM_TONE_BAR
  2HIGH_DOTTED_LEFT-STEM_TONE_BAR 2MID_DOTTED_LEFT-STEM_TONE_BAR 2LOW_DOTTED_LEFT-STEM_TONE_BAR
  2EXTRA-LOW_DOTTED_LEFT-STEM_TONE_BAR 2EXTRA-HIGH_LEFT-STEM_TONE_BAR 2HIGH_LEFT-STEM_TONE_BAR
  2MID_LEFT-STEM_TONE_BAR 2LOW_LEFT-STEM_TONE_BAR 2EXTRA-LOW_LEFT-STEM_TONE_BAR 2DOT_VERTICAL_BAR
  3SLASH 3HORIZONTAL_BAR 2LOWER_RIGHT_CORNER_ANGLE 2RAISED_UP_ARROW 3DOWN_ARROW 3EXCLAMATION_MARK
  3INVERTED_EXCLAMATION_MARK 2LOW_INVERTED_EXCLAMATION_MARK 2STRESS_AND_HIGH_TONE 4LOW_TONE
  0LATIN_CAPITAL_LETTER_EGYPTOLOGICAL_ALEF 1SMALL_LETTER_EGYPTOLOGICAL_ALEF
  1CAPITAL_LETTER_EGYPTOLOGICAL_AIN 1SMALL_LETTER_EGYPTOLOGICAL_AIN 1CAPITAL_LETTER_HENG
  1SMALL_LETTER_HENG 1CAPITAL_LETTER_TZ 1SMALL_LETTER_TZ 1CAPITAL_LETTER_TRESILLO
  1SMALL_LETTER_TRESILLO 1CAPITAL_LETTER_CUATRILLO 1SMALL_LETTER_CUATRILLO
  1CAPITAL_LETTER_CUATRILLO_WITH_COMMA 1SMALL_LETTER_CUATRILLO_WITH_COMMA 1LETTER_SMALL_CAPITAL_F
  4S 1CAPITAL_LETTER_AA 1SMALL_LETTER_AA 1CAPITAL_LETTER_AO 1SMALL_LETTER_AO 1CAPITAL_LETTER_AU
  1SMALL_LETTER_AU 1CAPITAL_LETTER_AV 1SMALL_LETTER_AV 1CAPITAL_LETTER_AV_WITH_HORIZONTAL_BAR
  1SMALL_LETTER_AV_WITH_HORIZONTAL_BAR 1CAPITAL_LETTER_AY 1SMALL_LETTER_AY
  1CAPITAL_LETTER_REVERSED_C_WITH_DOT 1SMALL_LETTER_REVERSED_C_WITH_DOT
  1CAPITAL_LETTER_K_WITH_STROKE 1SMALL_LETTER_K_WITH_STROKE 1CAPITAL_LETTER_K_WITH_DIAGONAL_STROKE
  1SMALL_LETTER_K_WITH_DIAGONAL_STROKE 1CAPITAL_LETTER_K_WITH_STROKE_AND_DIAGONAL_STROKE
  1SMALL_LETTER_K_WITH_STROKE_AND_DIAGONAL_STROKE 1CAPITAL_LETTER_BROKEN_L 1SMALL_LETTER_BROKEN_L
  1CAPITAL_LETTER_L_WITH_HIGH_STROKE 1SMALL_LETTER_L_WITH_HIGH_STROKE
  1CAPITAL_LETTER_O_WITH_LONG_STROKE_OVERLAY 1SMALL_LETTER_O_WITH_LONG_STROKE_OVERLAY
  1CAPITAL_LETTER_O_WITH_LOOP 1SMALL_LETTER_O_WITH_LOOP 1CAPITAL_LETTER_OO 1SMALL_LETTER_OO
  1CAPITAL_LETTER_P_WITH_STROKE_THROUGH_DESCENDER 1SMALL_LETTER_P_WITH_STROKE_THROUGH_DESCENDER
  1CAPITAL_LETTER_P_WITH_FLOURISH 1SMALL_LETTER_P_WITH_FLOURISH
  1CAPITAL_LETTER_P_WITH_SQUIRREL_TAIL 1SMALL_LETTER_P_WITH_SQUIRREL_TAIL
  1CAPITAL_LETTER_Q_WITH_STROKE_THROUGH_DESCENDER 1SMALL_LETTER_Q_WITH_STROKE_THROUGH_DESCENDER
  1CAPITAL_LETTER_Q_WITH_DIAGONAL_STROKE 1SMALL_LETTER_Q_WITH_DIAGONAL_STROKE
  1CAPITAL_LETTER_R_ROTUNDA 1SMALL_LETTER_R_ROTUNDA 1CAPITAL_LETTER_RUM_ROTUNDA
  1SMALL_LETTER_RUM_ROTUNDA 1CAPITAL_LETTER_V_WITH_DIAGONAL_STROKE
  1SMALL_LETTER_V_WITH_DIAGONAL_STROKE 1CAPITAL_LETTER_VY 1SMALL_LETTER_VY
  1CAPITAL_LETTER_VISIGOTHIC_Z 1SMALL_LETTER_VISIGOTHIC_Z 1CAPITAL_LETTER_THORN_WITH_STROKE
  1SMALL_LETTER_THORN_WITH_STROKE 1CAPITAL_LETTER_THORN_WITH_STROKE_THROUGH_DESCENDER
  1SMALL_LETTER_THORN_WITH_STROKE_THROUGH_DESCENDER 1CAPITAL_LETTER_VEND 1SMALL_LETTER_VEND
  1CAPITAL_LETTER_ET 1SMALL_LETTER_ET 1CAPITAL_LETTER_IS 1SMALL_LETTER_IS 1CAPITAL_LETTER_CON
  1SMALL_LETTER_CON 0MODIFIER_LETTER_US 0LATIN_SMALL_LETTER_DUM 3LUM 3MUM 3NUM 3RUM
  1LETTER_SMALL_CAPITAL_RUM 1SMALL_LETTER_TUM 3UM 1CAPITAL_LETTER_INSULAR_D
  1SMALL_LETTER_INSULAR_D 1CAPITAL_LETTER_INSULAR_F 1SMALL_LETTER_INSULAR_F
  1CAPITAL_LETTER_INSULAR_G 3TURNED_INSULAR_G 1SMALL_LETTER_TURNED_INSULAR_G
  1CAPITAL_LETTER_TURNED_L 1SMALL_LETTER_TURNED_L 1CAPITAL_LETTER_INSULAR_R
  1SMALL_LETTER_INSULAR_R 1CAPITAL_LETTER_INSULAR_S 1SMALL_LETTER_INSULAR_S
  1CAPITAL_LETTER_INSULAR_T 1SMALL_LETTER_INSULAR_T 0MODIFIER_LETTER_LOW_CIRCUMFLEX_ACCENT 2COLON
  2SHORT_EQUALS_SIGN 0LATIN_CAPITAL_LETTER_SALTILLO 1SMALL_LETTER_SALTILLO
  1CAPITAL_LETTER_TURNED_H 1SMALL_LETTER_L_WITH_RETROFLEX_HOOK_AND_BELT 1LETTER_SINOLOGICAL_DOT
  1CAPITAL_LETTER_N_WITH_DESCENDER 1SMALL_LETTER_N_WITH_DESCENDER 1CAPITAL_LETTER_C_WITH_BAR
  1SMALL_LETTER_C_WITH_BAR 5PALATAL_HOOK 3H_WITH_PALATAL_HOOK 1CAPITAL_LETTER_B_WITH_FLOURISH
  1SMALL_LETTER_B_WITH_FLOURISH 1CAPITAL_LETTER_F_WITH_STROKE 1SMALL_LETTER_F_WITH_STROKE
  1CAPITAL_LETTER_VOLAPUK_AE 1SMALL_LETTER_VOLAPUK_AE 1CAPITAL_LETTER_VOLAPUK_OE
  1SMALL_LETTER_VOLAPUK_OE 1CAPITAL_LETTER_VOLAPUK_UE 1SMALL_LETTER_VOLAPUK_UE
  1CAPITAL_LETTER_G_WITH_OBLIQUE_STROKE 1SMALL_LETTER_G_WITH_OBLIQUE_STROKE
  1CAPITAL_LETTER_K_WITH_OBLIQUE_STROKE 1SMALL_LETTER_K_WITH_OBLIQUE_STROKE
  1CAPITAL_LETTER_N_WITH_OBLIQUE_STROKE 1SMALL_LETTER_N_WITH_OBLIQUE_STROKE
  1CAPITAL_LETTER_R_WITH_OBLIQUE_STROKE 1SMALL_LETTER_R_WITH_OBLIQUE_STROKE
  1CAPITAL_LETTER_S_WITH_OBLIQUE_STROKE 1SMALL_LETTER_S_WITH_OBLIQUE_STROKE
  1CAPITAL_LETTER_H_WITH_HOOK 3REVERSED_OPEN_E 3SCRIPT_G 3L_WITH_BELT 3SMALL_CAPITAL_I
  1LETTER_SMALL_CAPITAL_Q 1CAPITAL_LETTER_TURNED_K 4T 3J_WITH_CROSSED-TAIL 3CHI 3BETA
  1SMALL_LETTER_BETA 1CAPITAL_LETTER_OMEGA 1SMALL_LETTER_OMEGA 1CAPITAL_LETTER_U_WITH_STROKE
  1SMALL_LETTER_U_WITH_STROKE 1CAPITAL_LETTER_GLOTTAL_A 1SMALL_LETTER_GLOTTAL_A
  1CAPITAL_LETTER_GLOTTAL_I 1SMALL_LETTER_GLOTTAL_I 1CAPITAL_LETTER_GLOTTAL_U
  1SMALL_LETTER_GLOTTAL_U 1CAPITAL_LETTER_OLD_POLISH_O 1SMALL_LETTER_OLD_POLISH_O
  1CAPITAL_LETTER_ANGLICANA_W 1SMALL_LETTER_ANGLICANA_W 1CAPITAL_LETTER_C_WITH_PALATAL_HOOK
  3S_WITH_HOOK 3Z_WITH_PALATAL_HOOK 3D_WITH_SHORT_STROKE_OVERLAY
  1SMALL_LETTER_D_WITH_SHORT_STROKE_OVERLAY 1CAPITAL_LETTER_S_WITH_SHORT_STROKE_OVERLAY
  1SMALL_LETTER_S_WITH_SHORT_STROKE_OVERLAY =a7d0 1CAPITAL_LETTER_CLOSED_INSULAR_G
  1SMALL_LETTER_CLOSED_INSULAR_G =a7d3 3DOUBLE_THORN =a7d5 4WYNN 1CAPITAL_LETTER_MIDDLE_SCOTS_S
  1SMALL_LETTER_MIDDLE_SCOTS_S 1CAPITAL_LETTER_SIGMOID_S 1SMALL_LETTER_SIGMOID_S =a7f2
  0MODIFIER_LETTER_CAPITAL_C 3F 3Q 0LATIN_CAPITAL_LETTER_REVERSED_HALF_H
  1SMALL_LETTER_REVERSED_HALF_H 1EPIGRAPHIC_LETTER_SIDEWAYS_I
  0MODIFIER_LETTER_CAPITAL_H_WITH_STROKE 2SMALL_LIGATURE_OE 0LATIN_LETTER_SMALL_CAPITAL_TURNED_M
  1EPIGRAPHIC_LETTER_REVERSED_F 4P 3INVERTED_M 3I_LONGA 3ARCHAIC_M 0SYLOTI_NAGRI_LETTER_A 3I
  2SIGN_DVISVARA 2LETTER_U 3E 3O 2SIGN_HASANTA 2LETTER_KO 3KHO 3GO 3GHO 2SIGN_ANUSVARA 2LETTER_CO
  3CHO 3JO 3JHO 3TTO 3TTHO 3DDO 3DDHO 3TO 3THO 3DO 3DHO 3NO 3PO 3PHO 3BO 3BHO 3MO 3RO 3LO 3RRO 3SO
  3HO 2VOWEL_SIGN_A 4I 4U 4E 4OO 2POETRY_MARK-1 3MARK-2 3MARK-3 3MARK-4 2SIGN_ALTERNATE_HASANTA
  =a830 0NORTH_INDIC_FRACTION_ONE_QUARTER 4HALF 3THREE_QUARTERS 3ONE_SIXTEENTH 4EIGHTH
  3THREE_SIXTEENTHS 2QUARTER_MARK 2PLACEHOLDER_MARK 2RUPEE_MARK 2QUANTITY_MARK =a840
  0PHAGS-PA_LETTER_KA 2KHA 2GA 2NGA 2CA 2CHA 2JA 2NYA 2TA 2THA 2DA 2NA 2PA 2PHA 2BA 2MA 2TSA 2TSHA
  2DZA 2WA 2ZHA 2ZA 2SMALL_A 2YA 2RA 2LA 2SHA 2SA 2HA 2A 2I 2U 2E 2O 2QA 2XA 2FA 2GGA 2EE
  1SUBJOINED_LETTER_WA 3YA 1LETTER_TTA 2TTHA 2DDA 2NNA 2ALTERNATE_YA 2VOICELESS_SHA 2VOICED_HA
  2ASPIRATED_FA 1SUBJOINED_LETTER_RA 1SUPERFIXED_LETTER_RA 1LETTER_CANDRABINDU 1SINGLE_HEAD_MARK
  1DOUBLE_HEAD_MARK 1MARK_SHAD 2DOUBLE_SHAD =a880 0SAURASHTRA_SIGN_ANUSVARA 2VISARGA 1LETTER_A 2AA
  2I 2II 2U 2UU 2VOCALIC_R 3RR 3L 3LL 2E 2EE 2AI 2O 2OO 2AU 2KA 2KHA 2GA 2GHA 2NGA 2CA 2CHA 2JA
  2JHA 2NYA 2TTA 2TTHA 2DDA 2DDHA 2NNA 2TA 2THA 2DA 2DHA 2NA 2PA 2PHA 2BA 2BHA 2MA 2YA 2RA 2LA 2VA
  2SHA 2SSA 2SA 2HA 2LLA 1CONSONANT_SIGN_HAARU 1VOWEL_SIGN_AA 3I 3II 3U 3UU 3VOCALIC_R 4RR 4L 4LL
  3E 3EE 3AI 3O 3OO 3AU 1SIGN_VIRAMA 2CANDRABINDU =a8ce 1DANDA 1DOUBLE_DANDA 1DIGIT_ZERO 2ONE 2TWO
  2THREE 2FOUR 2FIVE 2SIX 2SEVEN 2EIGHT 2NINE =a8e0 0COMBINING_DEVANAGARI_DIGIT_ZERO 3ONE 3TWO
  3THREE 3FOUR 3FIVE 3SIX 3SEVEN 3EIGHT 3NINE 2LETTER_A 3U 3KA 3NA 3PA 3RA 3VI 2SIGN_AVAGRAHA
  0DEVANAGARI_SIGN_SPACING_CANDRABINDU 2CANDRABINDU_VIRAMA 2DOUBLE_CANDRABINDU_VIRAMA
  2CANDRABINDU_TWO 3THREE 3AVAGRAHA 2PUSHPIKA 1GAP_FILLER 1CARET 1HEADSTROKE 1SIGN_SIDDHAM
  1JAIN_OM 1LETTER_AY 1VOWEL_SIGN_AY 0KAYAH_LI_DIGIT_ZERO 3ONE 3TWO 3THREE 3FOUR 3FIVE 3SIX 3SEVEN
  3EIGHT 3NINE 2LETTER_KA 3KHA 3GA 3NGA 3SA 3SHA 3ZA 3NYA 3TA 3HTA 3NA 3PA 3PHA 3MA 3DA 3BA 3RA
  3YA 3LA 3WA 3THA 3HA 3VA 3CA 3A 3OE 3I 3OO 2VOWEL_UE 3E 3U 3EE 3O 2TONE_PLOPHU 3CALYA 4PLOPHU
  2SIGN_CWI 3SHYA 0REJANG_LETTER_KA 2GA 2NGA 2TA 2DA 2NA 2PA 2BA 2MA 2CA 2JA 2NYA 2SA 2RA 2LA 2YA
  2WA 2HA 2MBA 2NGGA 2NDA 2NYJA 2A 1VOWEL_SIGN_I 3U 3E 3AI 3O 3AU 3EU 3EA 1CONSONANT_SIGN_NG 3N 3R
  3H 1VIRAMA =a95f 1SECTION_MARK 0HANGUL_CHOSEONG_TIKEUT-MIEUM 2TIKEUT-PIEUP 2TIKEUT-SIOS
  2TIKEUT-CIEUC 2RIEUL-KIYEOK 2RIEUL-SSANGKIYEOK 2RIEUL-TIKEUT 2RIEUL-SSANGTIKEUT 2RIEUL-MIEUM
  2RIEUL-PIEUP 2RIEUL-SSANGPIEUP 2RIEUL-KAPYEOUNPIEUP 2RIEUL-SIOS 2RIEUL-CIEUC 2RIEUL-KHIEUKH
  2MIEUM-KIYEOK 2MIEUM-TIKEUT 2MIEUM-SIOS 2PIEUP-SIOS-THIEUTH 2PIEUP-KHIEUKH 2PIEUP-HIEUH
  2SSANGSIOS-PIEUP 2IEUNG-RIEUL 2IEUNG-HIEUH 2SSANGCIEUC-HIEUH 2SSANGTHIEUTH 2PHIEUPH-HIEUH
  2HIEUH-SIOS 2SSANGYEORINHIEUH =a980 0JAVANESE_SIGN_PANYANGGA 2CECAK 2LAYAR 2WIGNYAN 1LETTER_A
  2I_KAWI 3 2II 2U 2PA_CEREK 2NGA_LELET 4RASWADI 2E 2AI 2O 2KA 3SASAK 3MURDA 2GA 3MURDA 2NGA 2CA
  3MURDA 2JA 2NYA_MURDA 2JA_MAHAPRANA 2NYA 2TTA 3MAHAPRANA 2DDA 3MAHAPRANA 2NA_MURDA 2TA 3MURDA
  2DA 3MAHAPRANA 2NA 2PA 3MURDA 2BA 3MURDA 2MA 2YA 2RA 3AGUNG 2LA 2WA 2SA_MURDA 3MAHAPRANA 3 2HA
  1SIGN_CECAK_TELU 1VOWEL_SIGN_TARUNG 3TOLONG 3WULU 4MELIK 3SUKU 4MENDUT 3TALING 3DIRGA_MURE
  3PEPET 1CONSONANT_SIGN_KERET 3PENGKAL 3CAKRA 1PANGKON 1LEFT_RERENGGAN 1RIGHT_RERENGGAN
  1PADA_ANDAP 2MADYA 2LUHUR 2WINDU 2PANGKAT 2LINGSA 2LUNGSI 2ADEG 3ADEG 2PISELEH
  1TURNED_PADA_PISELEH =a9cf 1PANGRANGKEP 1DIGIT_ZERO 2ONE 2TWO 2THREE 2FOUR 2FIVE 2SIX 2SEVEN
  2EIGHT 2NINE =a9de 1PADA_TIRTA_TUMETES 2ISEN-ISEN 0MYANMAR_LETTER_SHAN_GHA 3CHA 3JHA 3NNA 3BHA
  1SIGN_SHAN_SAW 1MODIFIER_LETTER_SHAN_REDUPLICATION 1LETTER_TAI_LAING_NYA 4FA 4GA 4GHA 4JA 4JHA
  4DDA 4DDHA 4NNA 1TAI_LAING_DIGIT_ZERO 4ONE 4TWO 4THREE 4FOUR 4FIVE 4SIX 4SEVEN 4EIGHT 4NINE
  1LETTER_TAI_LAING_LLA 4DA 4DHA 4BA 4BHA =aa00 0CHAM_LETTER_A 2I 2U 2E 2AI 2O 2KA 2KHA 2GA 2GHA
  2NGUE 2NGA 2CHA 2CHHA 2JA 2JHA 2NHUE 2NHA 2NHJA 2TA 2THA 2DA 2DHA 2NUE 2NA 2DDA 2PA 2PPA 2PHA
  2BA 2BHA 2MUE 2MA 2BBA 2YA 2RA 2LA 2VA 2SSA 2SA 2HA 1VOWEL_SIGN_AA 3I 3II 3EI 3U 3OE 3O 3AI 3AU
  3UE 1CONSONANT_SIGN_YA 3RA 3LA 3WA =aa40 1LETTER_FINAL_K 3G 3NG 1CONSONANT_SIGN_FINAL_NG
  1LETTER_FINAL_CH 3T 3N 3P 3Y 3R 3L 3SS 1CONSONANT_SIGN_FINAL_M 4H =aa50 1DIGIT_ZERO 2ONE 2TWO
  2THREE 2FOUR 2FIVE 2SIX 2SEVEN 2EIGHT 2NINE =aa5c 1PUNCTUATION_SPIRAL 2DANDA 2DOUBLE_DANDA
  2TRIPLE_DANDA 0MYANMAR_LETTER_KHAMTI_GA 3CA 3CHA 3JA 3JHA 3NYA 3TTA 3TTHA 3DDA 3DDHA 3DHA 3NA
  3SA 3HA 3HHA 3FA 1MODIFIER_LETTER_KHAMTI_REDUPLICATION 1LETTER_KHAMTI_XA 3ZA 3RA
  1LOGOGRAM_KHAMTI_OAY 3QN 3HM 1SYMBOL_AITON_EXCLAMATION 3ONE 3TWO 1LETTER_AITON_RA
  1SIGN_PAO_KAREN_TONE 2TAI_LAING_TONE-2 4TONE-5 1LETTER_SHWE_PALAUNG_CHA 4SHA
  0TAI_VIET_LETTER_LOW_KO 3HIGH_KO 3LOW_KHO 3HIGH_KHO 3LOW_KHHO 3HIGH_KHHO 3LOW_GO 3HIGH_GO
  3LOW_NGO 3HIGH_NGO 3LOW_CO 3HIGH_CO 3LOW_CHO 3HIGH_CHO 3LOW_SO 3HIGH_SO 3LOW_NYO 3HIGH_NYO
  3LOW_DO 3HIGH_DO 3LOW_TO 3HIGH_TO 3LOW_THO 3HIGH_THO 3LOW_NO 3HIGH_NO 3LOW_BO 3HIGH_BO 3LOW_PO
  3HIGH_PO 3LOW_PHO 3HIGH_PHO 3LOW_FO 3HIGH_FO 3LOW_MO 3HIGH_MO 3LOW_YO 3HIGH_YO 3LOW_RO 3HIGH_RO
  3LOW_LO 3HIGH_LO 3LOW_VO 3HIGH_VO 3LOW_HO 3HIGH_HO 3LOW_O 3HIGH_O 2MAI_KANG 2VOWEL_AA 3I 3UE 3U
  3E 3O 2MAI_KHIT 2VOWEL_IA 3UEA 3UA 3AUE 3AY 3AN 3AM 2TONE_MAI_EK 4NUENG 4THO 4SONG =aadb
  2SYMBOL_KON 3NUENG 3SAM 3HO_HOI 3KOI_KOI 0MEETEI_MAYEK_LETTER_E 3O 3CHA 3NYA 3TTA 3TTHA 3DDA
  3DDHA 3NNA 3SHA 3SSA 2VOWEL_SIGN_II 4UU 4AAI 4AU 4AAU 2CHEIKHAN 2AHANG_KHUDAM 2ANJI
  2SYLLABLE_REPETITION_MARK 2WORD_REPETITION_MARK 2VOWEL_SIGN_VISARGA 2VIRAMA =ab01
  0ETHIOPIC_SYLLABLE_TTHU 2TTHI 2TTHAA 2TTHEE 2TTHE 2TTHO =ab09 2DDHU 2DDHI 2DDHAA 2DDHEE 2DDHE
  2DDHO =ab11 2DZU 2DZI 2DZAA 2DZEE 2DZE 2DZO =ab20 2CCHHA 2CCHHU 2CCHHI 2CCHHAA 2CCHHEE 2CCHHE
  2CCHHO =ab28 2BBA 2BBU 2BBI 2BBAA 2BBEE 2BBE 2BBO =ab30 0LATIN_SMALL_LETTER_BARRED_ALPHA
  3A_REVERSED-SCHWA 3BLACKLETTER_E 3BARRED_E 3E_WITH_FLOURISH 3LENIS_F 3SCRIPT_G_WITH_CROSSED-TAIL
  3L_WITH_INVERTED_LAZY_S 5DOUBLE_MIDDLE_TILDE 5MIDDLE_RING 3M_WITH_CROSSED-TAIL
  3N_WITH_CROSSED-TAIL 3ENG_WITH_CROSSED-TAIL 3BLACKLETTER_O 5WITH_STROKE 3OPEN_O_WITH_STROKE
  3INVERTED_OE 3TURNED_OE_WITH_STROKE 6HORIZONTAL_STROKE 4O_OPEN-O 6WITH_STROKE 3STIRRUP_R
  1LETTER_SMALL_CAPITAL_R_WITH_RIGHT_LEG 1SMALL_LETTER_R_WITHOUT_HANDLE 3DOUBLE_R
  3R_WITH_CROSSED-TAIL 3DOUBLE_R_WITH_CROSSED-TAIL 3SCRIPT_R 5WITH_RING 3BASELINE_ESH
  3U_WITH_SHORT_RIGHT_LEG 4BAR_WITH_SHORT_RIGHT_LEG 3UI 3TURNED_UI 3U_WITH_LEFT_HOOK 3CHI
  4WITH_LOW_RIGHT_RING 6LEFT_SERIF 3X_WITH_LOW_RIGHT_RING 5LONG_LEFT_LEG 8AND_LOW_RIGHT_RING
  8WITH_SERIF 3Y_WITH_SHORT_RIGHT_LEG 0MODIFIER_BREVE_WITH_INVERTED_BREVE 1LETTER_SMALL_HENG
  3L_WITH_INVERTED_LAZY_S 5MIDDLE_TILDE 3U_WITH_LEFT_HOOK 0LATIN_SMALL_LETTER_SAKHA_YAT
  3IOTIFIED_E 3OPEN_OE 3UO 3INVERTED_ALPHA 0GREEK_LETTER_SMALL_CAPITAL_OMEGA
  0LATIN_SMALL_LETTER_DZ_DIGRAPH_WITH_RETROFLEX_HOOK 3TS_DIGRAPH_WITH_RETROFLEX_HOOK
  3TURNED_R_WITH_MIDDLE_TILDE 0MODIFIER_LETTER_SMALL_TURNED_W 2LEFT_TACK 2RIGHT_TACK =ab70
  0CHEROKEE_SMALL_LETTER_A 3E 3I 3O 3U 3V 3GA 3KA 3GE 3GI 3GO 3GU 3GV 3HA 3HE 3HI 3HO 3HU 3HV 3LA
  3LE 3LI 3LO 3LU 3LV 3MA 3ME 3MI 3MO 3MU 3NA 3HNA 3NAH 3NE 3NI 3NO 3NU 3NV 3QUA 3QUE 3QUI 3QUO
  3QUU 3QUV 3SA 3S 3SE 3SI 3SO 3SU 3SV 3DA 3TA 3DE 3TE 3DI 3TI 3DO 3DU 3DV 3DLA 3TLA 3TLE 3TLI
  3TLO 3TLU 3TLV 3TSA 3TSE 3TSI 3TSO 3TSU 3TSV 3WA 3WE 3WI 3WO 3WU 3WV 3YA
  0MEETEI_MAYEK_LETTER_KOK 3SAM 3LAI 3MIT 3PA 3NA 3CHIL 3TIL 3KHOU 3NGOU 3THOU 3WAI 3YANG 3HUK 3UN
  3I 3PHAM 3ATIYA 3GOK 3JHAM 3RAI 3BA 3JIL 3DIL 3GHOU 3DHOU 3BHAM 3KOK_LONSUM 3LAI_LONSUM
  3MIT_LONSUM 3PA_LONSUM 3NA_LONSUM 3TIL_LONSUM 3NGOU_LONSUM 3I_LONSUM 2VOWEL_SIGN_ONAP 4INAP
  4ANAP 4YENAP 4SOUNAP 4UNAP 4CHEINAP 4NUNG 2CHEIKHEI 2LUM_IYEK 2APUN_IYEK =abf0 2DIGIT_ZERO 3ONE
  3TWO 3THREE 3FOUR 3FIVE 3SIX 3SEVEN 3EIGHT 3NINE =d7b0 0HANGUL_JUNGSEONG_O-YEO 2O-O-I 2YO-A
  2YO-AE 2YO-EO 2U-YEO 2U-I-I 2YU-AE 2YU-O 2EU-A 2EU-EO 2EU-E 2EU-O 2I-YA-O 2I-YAE 2I-YEO 2I-YE
  2I-O-I 2I-YO 2I-YU 2I-I 2ARAEA-A 2ARAEA-E =d7cb 1JONGSEONG_NIEUN-RIEUL 2NIEUN-CHIEUCH
  2SSANGTIKEUT 2SSANGTIKEUT-PIEUP 2TIKEUT-PIEUP 2TIKEUT-SIOS 2TIKEUT-SIOS-KIYEOK 2TIKEUT-CIEUC
  2TIKEUT-CHIEUCH 2TIKEUT-THIEUTH 2RIEUL-SSANGKIYEOK 2RIEUL-KIYEOK-HIEUH 2SSANGRIEUL-KHIEUKH
  2RIEUL-MIEUM-HIEUH 2RIEUL-PIEUP-TIKEUT 2RIEUL-PIEUP-PHIEUPH 2RIEUL-YESIEUNG
  2RIEUL-YEORINHIEUH-HIEUH 2KAPYEOUNRIEUL 2MIEUM-NIEUN 2MIEUM-SSANGNIEUN 2SSANGMIEUM
  2MIEUM-PIEUP-SIOS 2MIEUM-CIEUC 2PIEUP-TIKEUT 2PIEUP-RIEUL-PHIEUPH 2PIEUP-MIEUM 2SSANGPIEUP
  2PIEUP-SIOS-TIKEUT 2PIEUP-CIEUC 2PIEUP-CHIEUCH 2SIOS-MIEUM 2SIOS-KAPYEOUNPIEUP 2SSANGSIOS-KIYEOK
  2SSANGSIOS-TIKEUT 2SIOS-PANSIOS 2SIOS-CIEUC 2SIOS-CHIEUCH 2SIOS-THIEUTH 2SIOS-HIEUH
  2PANSIOS-PIEUP 2PANSIOS-KAPYEOUNPIEUP 2YESIEUNG-MIEUM 2YESIEUNG-HIEUH 2CIEUC-PIEUP
  2CIEUC-SSANGPIEUP 2SSANGCIEUC 2PHIEUPH-SIOS 2PHIEUPH-THIEUTH =fb00 0LATIN_SMALL_LIGATURE_FF 3FI
  3FL 3FFI 3FFL 3LONG_S_T 3ST =fb13 0ARMENIAN_SMALL_LIGATURE_MEN_NOW 4ECH 4INI 3VEW_NOW 3MEN_XEH
  =fb1d 0HEBREW_LETTER_YOD_WITH_HIRIQ 1POINT_JUDEO-SPANISH_VARIKA 1LIGATURE_YIDDISH_YOD_YOD_PATAH
  1LETTER_ALTERNATIVE_AYIN 2WIDE_ALEF 3DALET 3HE 3KAF 3LAMED 3FINAL_MEM 3RESH 3TAV
  2ALTERNATIVE_PLUS_SIGN 2SHIN_WITH_SHIN_DOT 4SIN_DOT 4DAGESH_AND_SHIN_DOT 6SIN_DOT
  2ALEF_WITH_PATAH 4QAMATS 4MAPIQ 2BET_WITH_DAGESH 2GIMEL_WITH_DAGESH 2DALET_WITH_DAGESH
  2HE_WITH_MAPIQ 2VAV_WITH_DAGESH 2ZAYIN_WITH_DAGESH =fb38 2TET_WITH_DAGESH 2YOD_WITH_DAGESH
  2FINAL_KAF_WITH_DAGESH 2KAF_WITH_DAGESH 2LAMED_WITH_DAGESH =fb3e 2MEM_WITH_DAGESH =fb40
  2NUN_WITH_DAGESH 2SAMEKH_WITH_DAGESH =fb43 2FINAL_PE_WITH_DAGESH 2PE_WITH_DAGESH =fb46
  2TSADI_WITH_DAGESH 2QOF_WITH_DAGESH 2RESH_WITH_DAGESH 2SHIN_WITH_DAGESH 2TAV_WITH_DAGESH
  2VAV_WITH_HOLAM 2BET_WITH_RAFE 2KAF_WITH_RAFE 2PE_WITH_RAFE 1LIGATURE_ALEF_LAMED
  0ARABIC_LETTER_ALEF_WASLA_ISOLATED_FORM 4FINAL_FORM 2BEEH_ISOLATED_FORM 3FINAL_FORM
  3INITIAL_FORM 3MEDIAL_FORM 2PEH_ISOLATED_FORM 3FINAL_FORM 3INITIAL_FORM 3MEDIAL_FORM
  2BEHEH_ISOLATED_FORM 3FINAL_FORM 3INITIAL_FORM 3MEDIAL_FORM 2TTEHEH_ISOLATED_FORM 3FINAL_FORM
  3INITIAL_FORM 3MEDIAL_FORM 2TEHEH_ISOLATED_FORM 3FINAL_FORM 3INITIAL_FORM 3MEDIAL_FORM
  2TTEH_ISOLATED_FORM 3FINAL_FORM 3INITIAL_FORM 3MEDIAL_FORM 2VEH_ISOLATED_FORM 3FINAL_FORM
  3INITIAL_FORM 3MEDIAL_FORM 2PEHEH_ISOLATED_FORM 3FINAL_FORM 3INITIAL_FORM 3MEDIAL_FORM
  2DYEH_ISOLATED_FORM 3FINAL_FORM 3INITIAL_FORM 3MEDIAL_FORM 2NYEH_ISOLATED_FORM 3FINAL_FORM
  3INITIAL_FORM 3MEDIAL_FORM 2TCHEH_ISOLATED_FORM 3FINAL_FORM 3INITIAL_FORM 3MEDIAL_FORM
  2TCHEHEH_ISOLATED_FORM 3FINAL_FORM 3INITIAL_FORM 3MEDIAL_FORM 2DDAHAL_ISOLATED_FORM 3FINAL_FORM
  2DAHAL_ISOLATED_FORM 3FINAL_FORM 2DUL_ISOLATED_FORM 3FINAL_FORM 2DDAL_ISOLATED_FORM 3FINAL_FORM
  2JEH_ISOLATED_FORM 3FINAL_FORM 2RREH_ISOLATED_FORM 3FINAL_FORM 2KEHEH_ISOLATED_FORM 3FINAL_FORM
  3INITIAL_FORM 3MEDIAL_FORM 2GAF_ISOLATED_FORM 3FINAL_FORM 3INITIAL_FORM 3MEDIAL_FORM
  2GUEH_ISOLATED_FORM 3FINAL_FORM 3INITIAL_FORM 3MEDIAL_FORM 2NGOEH_ISOLATED_FORM 3FINAL_FORM
  3INITIAL_FORM 3MEDIAL_FORM 2NOON_GHUNNA_ISOLATED_FORM 4FINAL_FORM 2RNOON_ISOLATED_FORM
  3FINAL_FORM 3INITIAL_FORM 3MEDIAL_FORM 2HEH_WITH_YEH_ABOVE_ISOLATED_FORM 6FINAL_FORM
  3GOAL_ISOLATED_FORM 4FINAL_FORM 4INITIAL_FORM 4MEDIAL_FORM 3DOACHASHMEE_ISOLATED_FORM
  4FINAL_FORM 4INITIAL_FORM 4MEDIAL_FORM 2YEH_BARREE_ISOLATED_FORM 4FINAL_FORM
  4WITH_HAMZA_ABOVE_ISOLATED_FORM 7FINAL_FORM 1SYMBOL_DOT_ABOVE 3BELOW 2TWO_DOTS_ABOVE 4BELOW
  2THREE_DOTS_ABOVE 4BELOW 4POINTING_DOWNWARDS_ABOVE 6BELOW 2FOUR_DOTS_ABOVE 4BELOW
  2DOUBLE_VERTICAL_BAR_BELOW 2TWO_DOTS_VERTICALLY_ABOVE 5BELOW 2RING 2SMALL_TAH_ABOVE 4BELOW
  2WASLA_ABOVE =fbd3 1LETTER_NG_ISOLATED_FORM 3FINAL_FORM 3INITIAL_FORM 3MEDIAL_FORM
  2U_ISOLATED_FORM 3FINAL_FORM 2OE_ISOLATED_FORM 3FINAL_FORM 2YU_ISOLATED_FORM 3FINAL_FORM
  2U_WITH_HAMZA_ABOVE_ISOLATED_FORM 2VE_ISOLATED_FORM 3FINAL_FORM 2KIRGHIZ_OE_ISOLATED_FORM
  4FINAL_FORM 3YU_ISOLATED_FORM 4FINAL_FORM 2E_ISOLATED_FORM 3FINAL_FORM 3INITIAL_FORM
  3MEDIAL_FORM 2UIGHUR_KAZAKH_KIRGHIZ_ALEF_MAKSURA_INITIAL_FORM 7MEDIAL_FORM
  1LIGATURE_YEH_WITH_HAMZA_ABOVE_WITH_ALEF_ISOLATED_FORM 8FINAL_FORM 7AE_ISOLATED_FORM 8FINAL_FORM
  7WAW_ISOLATED_FORM 8FINAL_FORM 7U_ISOLATED_FORM 8FINAL_FORM 7OE_ISOLATED_FORM 8FINAL_FORM
  7YU_ISOLATED_FORM 8FINAL_FORM 7E_ISOLATED_FORM 8FINAL_FORM 8INITIAL_FORM
  2UIGHUR_KIRGHIZ_YEH_WITH_HAMZA_ABOVE_WITH_ALEF_MAKSURA_ISOLATED_FORM bFINAL_FORM bINITIAL_FORM
  1LETTER_FARSI_YEH_ISOLATED_FORM 4FINAL_FORM 4INITIAL_FORM 4MEDIAL_FORM
  1LIGATURE_YEH_WITH_HAMZA_ABOVE_WITH_JEEM_ISOLATED_FORM 7HAH_ISOLATED_FORM 7MEEM_ISOLATED_FORM
  7ALEF_MAKSURA_ISOLATED_FORM 7YEH_ISOLATED_FORM 2BEH_WITH_JEEM_ISOLATED_FORM 4HAH_ISOLATED_FORM
  4KHAH_ISOLATED_FORM 4MEEM_ISOLATED_FORM 4ALEF_MAKSURA_ISOLATED_FORM 4YEH_ISOLATED_FORM
  2TEH_WITH_JEEM_ISOLATED_FORM 4HAH_ISOLATED_FORM 4KHAH_ISOLATED_FORM 4MEEM_ISOLATED_FORM
  4ALEF_MAKSURA_ISOLATED_FORM 4YEH_ISOLATED_FORM 2THEH_WITH_JEEM_ISOLATED_FORM 4MEEM_ISOLATED_FORM
  4ALEF_MAKSURA_ISOLATED_FORM 4YEH_ISOLATED_FORM 2JEEM_WITH_HAH_ISOLATED_FORM 4MEEM_ISOLATED_FORM
  2HAH_WITH_JEEM_ISOLATED_FORM 4MEEM_ISOLATED_FORM 2KHAH_WITH_JEEM_ISOLATED_FORM
  4HAH_ISOLATED_FORM 4MEEM_ISOLATED_FORM 2SEEN_WITH_JEEM_ISOLATED_FORM 4HAH_ISOLATED_FORM
  4KHAH_ISOLATED_FORM 4MEEM_ISOLATED_FORM 2SAD_WITH_HAH_ISOLATED_FORM 4MEEM_ISOLATED_FORM
  2DAD_WITH_JEEM_ISOLATED_FORM 4HAH_ISOLATED_FORM 4KHAH_ISOLATED_FORM 4MEEM_ISOLATED_FORM
  2TAH_WITH_HAH_ISOLATED_FORM 4MEEM_ISOLATED_FORM 2ZAH_WITH_MEEM_ISOLATED_FORM
  2AIN_WITH_JEEM_ISOLATED_FORM 4MEEM_ISOLATED_FORM 2GHAIN_WITH_JEEM_ISOLATED_FORM
  4MEEM_ISOLATED_FORM 2FEH_WITH_JEEM_ISOLATED_FORM 4HAH_ISOLATED_FORM 4KHAH_ISOLATED_FORM
  4MEEM_ISOLATED_FORM 4ALEF_MAKSURA_ISOLATED_FORM 4YEH_ISOLATED_FORM 2QAF_WITH_HAH_ISOLATED_FORM
  4MEEM_ISOLATED_FORM 4ALEF_MAKSURA_ISOLATED_FORM 4YEH_ISOLATED_FORM 2KAF_WITH_ALEF_ISOLATED_FORM
  4JEEM_ISOLATED_FORM 4HAH_ISOLATED_FORM 4KHAH_ISOLATED_FORM 4LAM_ISOLATED_FORM
  4MEEM_ISOLATED_FORM 4ALEF_MAKSURA_ISOLATED_FORM 4YEH_ISOLATED_FORM 2LAM_WITH_JEEM_ISOLATED_FORM
  4HAH_ISOLATED_FORM 4KHAH_ISOLATED_FORM 4MEEM_ISOLATED_FORM 4ALEF_MAKSURA_ISOLATED_FORM
  4YEH_ISOLATED_FORM 2MEEM_WITH_JEEM_ISOLATED_FORM 4HAH_ISOLATED_FORM 4KHAH_ISOLATED_FORM
  4MEEM_ISOLATED_FORM 4ALEF_MAKSURA_ISOLATED_FORM 4YEH_ISOLATED_FORM 2NOON_WITH_JEEM_ISOLATED_FORM
  4HAH_ISOLATED_FORM 4KHAH_ISOLATED_FORM 4MEEM_ISOLATED_FORM 4ALEF_MAKSURA_ISOLATED_FORM
  4YEH_ISOLATED_FORM 2HEH_WITH_JEEM_ISOLATED_FORM 4MEEM_ISOLATED_FORM 4ALEF_MAKSURA_ISOLATED_FORM
  4YEH_ISOLATED_FORM 2YEH_WITH_JEEM_ISOLATED_FORM 4HAH_ISOLATED_FORM 4KHAH_ISOLATED_FORM
  4MEEM_ISOLATED_FORM 4ALEF_MAKSURA_ISOLATED_FORM 4YEH_ISOLATED_FORM
  2THAL_WITH_SUPERSCRIPT_ALEF_ISOLATED_FORM 2REH_WITH_SUPERSCRIPT_ALEF_ISOLATED_FORM
  2ALEF_MAKSURA_WITH_SUPERSCRIPT_ALEF_ISOLATED_FORM 2SHADDA_WITH_DAMMATAN_ISOLATED_FORM
  4KASRATAN_ISOLATED_FORM 4FATHA_ISOLATED_FORM 4DAMMA_ISOLATED_FORM 4KASRA_ISOLATED_FORM
  4SUPERSCRIPT_ALEF_ISOLATED_FORM 2YEH_WITH_HAMZA_ABOVE_WITH_REH_FINAL_FORM 7ZAIN_FINAL_FORM
  7MEEM_FINAL_FORM 7NOON_FINAL_FORM 7ALEF_MAKSURA_FINAL_FORM 7YEH_FINAL_FORM
  2BEH_WITH_REH_FINAL_FORM 4ZAIN_FINAL_FORM 4MEEM_FINAL_FORM 4NOON_FINAL_FORM
  4ALEF_MAKSURA_FINAL_FORM 4YEH_FINAL_FORM 2TEH_WITH_REH_FINAL_FORM 4ZAIN_FINAL_FORM
  4MEEM_FINAL_FORM 4NOON_FINAL_FORM 4ALEF_MAKSURA_FINAL_FORM 4YEH_FINAL_FORM
  2THEH_WITH_REH_FINAL_FORM 4ZAIN_FINAL_FORM 4MEEM_FINAL_FORM 4NOON_FINAL_FORM
  4ALEF_MAKSURA_FINAL_FORM 4YEH_FINAL_FORM 2FEH_WITH_ALEF_MAKSURA_FINAL_FORM 4YEH_FINAL_FORM
  2QAF_WITH_ALEF_MAKSURA_FINAL_FORM 4YEH_FINAL_FORM 2KAF_WITH_ALEF_FINAL_FORM 4LAM_FINAL_FORM
  4MEEM_FINAL_FORM 4ALEF_MAKSURA_FINAL_FORM 4YEH_FINAL_FORM 2LAM_WITH_MEEM_FINAL_FORM
  4ALEF_MAKSURA_FINAL_FORM 4YEH_FINAL_FORM 2MEEM_WITH_ALEF_FINAL_FORM 4MEEM_FINAL_FORM
  2NOON_WITH_REH_FINAL_FORM 4ZAIN_FINAL_FORM 4MEEM_FINAL_FORM 4NOON_FINAL_FORM
  4ALEF_MAKSURA_FINAL_FORM 4YEH_FINAL_FORM 2ALEF_MAKSURA_WITH_SUPERSCRIPT_ALEF_FINAL_FORM
  2YEH_WITH_REH_FINAL_FORM 4ZAIN_FINAL_FORM 4MEEM_FINAL_FORM 4NOON_FINAL_FORM
  4ALEF_MAKSURA_FINAL_FORM 4YEH_FINAL_FORM 4HAMZA_ABOVE_WITH_JEEM_INITIAL_FORM 7HAH_INITIAL_FORM
  7KHAH_INITIAL_FORM 7MEEM_INITIAL_FORM 7HEH_INITIAL_FORM 2BEH_WITH_JEEM_INITIAL_FORM
  4HAH_INITIAL_FORM 4KHAH_INITIAL_FORM 4MEEM_INITIAL_FORM 4HEH_INITIAL_FORM
  2TEH_WITH_JEEM_INITIAL_FORM 4HAH_INITIAL_FORM 4KHAH_INITIAL_FORM 4MEEM_INITIAL_FORM
  4HEH_INITIAL_FORM 2THEH_WITH_MEEM_INITIAL_FORM 2JEEM_WITH_HAH_INITIAL_FORM 4MEEM_INITIAL_FORM
  2HAH_WITH_JEEM_INITIAL_FORM 4MEEM_INITIAL_FORM 2KHAH_WITH_JEEM_INITIAL_FORM 4MEEM_INITIAL_FORM
  2SEEN_WITH_JEEM_INITIAL_FORM 4HAH_INITIAL_FORM 4KHAH_INITIAL_FORM 4MEEM_INITIAL_FORM
  2SAD_WITH_HAH_INITIAL_FORM 4KHAH_INITIAL_FORM 4MEEM_INITIAL_FORM 2DAD_WITH_JEEM_INITIAL_FORM
  4HAH_INITIAL_FORM 4KHAH_INITIAL_FORM 4MEEM_INITIAL_FORM 2TAH_WITH_HAH_INITIAL_FORM
  2ZAH_WITH_MEEM_INITIAL_FORM 2AIN_WITH_JEEM_INITIAL_FORM 4MEEM_INITIAL_FORM
  2GHAIN_WITH_JEEM_INITIAL_FORM 4MEEM_INITIAL_FORM 2FEH_WITH_JEEM_INITIAL_FORM 4HAH_INITIAL_FORM
  4KHAH_INITIAL_FORM 4MEEM_INITIAL_FORM 2QAF_WITH_HAH_INITIAL_FORM 4MEEM_INITIAL_FORM
  2KAF_WITH_JEEM_INITIAL_FORM 4HAH_INITIAL_FORM 4KHAH_INITIAL_FORM 4LAM_INITIAL_FORM
  4MEEM_INITIAL_FORM 2LAM_WITH_JEEM_INITIAL_FORM 4HAH_INITIAL_FORM 4KHAH_INITIAL_FORM
  4MEEM_INITIAL_FORM 4HEH_INITIAL_FORM 2MEEM_WITH_JEEM_INITIAL_FORM 4HAH_INITIAL_FORM
  4KHAH_INITIAL_FORM 4MEEM_INITIAL_FORM 2NOON_WITH_JEEM_INITIAL_FORM 4HAH_INITIAL_FORM
  4KHAH_INITIAL_FORM 4MEEM_INITIAL_FORM 4HEH_INITIAL_FORM 2HEH_WITH_JEEM_INITIAL_FORM
  4MEEM_INITIAL_FORM 4SUPERSCRIPT_ALEF_INITIAL_FORM 2YEH_WITH_JEEM_INITIAL_FORM 4HAH_INITIAL_FORM
  4KHAH_INITIAL_FORM 4MEEM_INITIAL_FORM 4HEH_INITIAL_FORM 4HAMZA_ABOVE_WITH_MEEM_MEDIAL_FORM
  7HEH_MEDIAL_FORM 2BEH_WITH_MEEM_MEDIAL_FORM 4HEH_MEDIAL_FORM 2TEH_WITH_MEEM_MEDIAL_FORM
  4HEH_MEDIAL_FORM 2THEH_WITH_MEEM_MEDIAL_FORM 4HEH_MEDIAL_FORM 2SEEN_WITH_MEEM_MEDIAL_FORM
  4HEH_MEDIAL_FORM 2SHEEN_WITH_MEEM_MEDIAL_FORM 4HEH_MEDIAL_FORM 2KAF_WITH_LAM_MEDIAL_FORM
  4MEEM_MEDIAL_FORM 2LAM_WITH_MEEM_MEDIAL_FORM 2NOON_WITH_MEEM_MEDIAL_FORM 4HEH_MEDIAL_FORM
  2YEH_WITH_MEEM_MEDIAL_FORM 4HEH_MEDIAL_FORM 2SHADDA_WITH_FATHA_MEDIAL_FORM 4DAMMA_MEDIAL_FORM
  4KASRA_MEDIAL_FORM 2TAH_WITH_ALEF_MAKSURA_ISOLATED_FORM 4YEH_ISOLATED_FORM
  2AIN_WITH_ALEF_MAKSURA_ISOLATED_FORM 4YEH_ISOLATED_FORM 2GHAIN_WITH_ALEF_MAKSURA_ISOLATED_FORM
  4YEH_ISOLATED_FORM 2SEEN_WITH_ALEF_MAKSURA_ISOLATED_FORM 4YEH_ISOLATED_FORM
  2SHEEN_WITH_ALEF_MAKSURA_ISOLATED_FORM 4YEH_ISOLATED_FORM 2HAH_WITH_ALEF_MAKSURA_ISOLATED_FORM
  4YEH_ISOLATED_FORM 2JEEM_WITH_ALEF_MAKSURA_ISOLATED_FORM 4YEH_ISOLATED_FORM
  2KHAH_WITH_ALEF_MAKSURA_ISOLATED_FORM 4YEH_ISOLATED_FORM 2SAD_WITH_ALEF_MAKSURA_ISOLATED_FORM
  4YEH_ISOLATED_FORM 2DAD_WITH_ALEF_MAKSURA_ISOLATED_FORM 4YEH_ISOLATED_FORM
  2SHEEN_WITH_JEEM_ISOLATED_FORM 4HAH_ISOLATED_FORM 4KHAH_ISOLATED_FORM 4MEEM_ISOLATED_FORM
  4REH_ISOLATED_FORM 2SEEN_WITH_REH_ISOLATED_FORM 2SAD_WITH_REH_ISOLATED_FORM
  2DAD_WITH_REH_ISOLATED_FORM 2TAH_WITH_ALEF_MAKSURA_FINAL_FORM 4YEH_FINAL_FORM
  2AIN_WITH_ALEF_MAKSURA_FINAL_FORM 4YEH_FINAL_FORM 2GHAIN_WITH_ALEF_MAKSURA_FINAL_FORM
  4YEH_FINAL_FORM 2SEEN_WITH_ALEF_MAKSURA_FINAL_FORM 4YEH_FINAL_FORM
  2SHEEN_WITH_ALEF_MAKSURA_FINAL_FORM 4YEH_FINAL_FORM 2HAH_WITH_ALEF_MAKSURA_FINAL_FORM
  4YEH_FINAL_FORM 2JEEM_WITH_ALEF_MAKSURA_FINAL_FORM 4YEH_FINAL_FORM
  2KHAH_WITH_ALEF_MAKSURA_FINAL_FORM 4YEH_FINAL_FORM 2SAD_WITH_ALEF_MAKSURA_FINAL_FORM
  4YEH_FINAL_FORM 2DAD_WITH_ALEF_MAKSURA_FINAL_FORM 4YEH_FINAL_FORM 2SHEEN_WITH_JEEM_FINAL_FORM
  4HAH_FINAL_FORM 4KHAH_FINAL_FORM 4MEEM_FINAL_FORM 4REH_FINAL_FORM 2SEEN_WITH_REH_FINAL_FORM
  2SAD_WITH_REH_FINAL_FORM 2DAD_WITH_REH_FINAL_FORM 2SHEEN_WITH_JEEM_INITIAL_FORM
  4HAH_INITIAL_FORM 4KHAH_INITIAL_FORM 4MEEM_INITIAL_FORM 2SEEN_WITH_HEH_INITIAL_FORM
  2SHEEN_WITH_HEH_INITIAL_FORM 2TAH_WITH_MEEM_INITIAL_FORM 2SEEN_WITH_JEEM_MEDIAL_FORM
  4HAH_MEDIAL_FORM 4KHAH_MEDIAL_FORM 2SHEEN_WITH_JEEM_MEDIAL_FORM 4HAH_MEDIAL_FORM
  4KHAH_MEDIAL_FORM 2TAH_WITH_MEEM_MEDIAL_FORM 2ZAH_WITH_MEEM_MEDIAL_FORM
  2ALEF_WITH_FATHATAN_FINAL_FORM 5ISOLATED_FORM 0ORNATE_LEFT_PARENTHESIS 1RIGHT_PARENTHESIS
  0ARABIC_LIGATURE_RAHIMAHU_ALLAAH 2RADI_ALLAAHU_ANH 4ANHAA 4ANHUM 4ANHUMAA 4ANHUNNA
  2SALLALLAAHU_ALAYHI_WA-AALIH 2ALAYHI_AS-SALAAM 2ALAYHIM_AS-SALAAM 2ALAYHIMAA_AS-SALAAM
  2ALAYHI_AS-SALAATU_WAS-SALAAM 2QUDDISA_SIRRAH 2SALLALLAHU_ALAYHI_WAAALIHEE_WA-SALLAM
  2ALAYHAA_AS-SALAAM 2TABAARAKA_WA-TAAALAA 2RAHIMAHUM_ALLAAH 2TEH_WITH_JEEM_WITH_MEEM_INITIAL_FORM
  4HAH_WITH_JEEM_FINAL_FORM 7INITIAL_FORM 6MEEM_INITIAL_FORM 4KHAH_WITH_MEEM_INITIAL_FORM
  4MEEM_WITH_JEEM_INITIAL_FORM 6HAH_INITIAL_FORM 6KHAH_INITIAL_FORM
  2JEEM_WITH_MEEM_WITH_HAH_FINAL_FORM 7INITIAL_FORM 2HAH_WITH_MEEM_WITH_YEH_FINAL_FORM
  6ALEF_MAKSURA_FINAL_FORM 2SEEN_WITH_HAH_WITH_JEEM_INITIAL_FORM 4JEEM_WITH_HAH_INITIAL_FORM
  6ALEF_MAKSURA_FINAL_FORM 4MEEM_WITH_HAH_FINAL_FORM 7INITIAL_FORM 6JEEM_INITIAL_FORM
  6MEEM_FINAL_FORM 7INITIAL_FORM 2SAD_WITH_HAH_WITH_HAH_FINAL_FORM 7INITIAL_FORM
  4MEEM_WITH_MEEM_FINAL_FORM 2SHEEN_WITH_HAH_WITH_MEEM_FINAL_FORM 7INITIAL_FORM
  4JEEM_WITH_YEH_FINAL_FORM 4MEEM_WITH_KHAH_FINAL_FORM 7INITIAL_FORM 6MEEM_FINAL_FORM
  7INITIAL_FORM 2DAD_WITH_HAH_WITH_ALEF_MAKSURA_FINAL_FORM 4KHAH_WITH_MEEM_FINAL_FORM
  7INITIAL_FORM 2TAH_WITH_MEEM_WITH_HAH_FINAL_FORM 7INITIAL_FORM 6MEEM_INITIAL_FORM
  6YEH_FINAL_FORM 2AIN_WITH_JEEM_WITH_MEEM_FINAL_FORM 4MEEM_WITH_MEEM_FINAL_FORM 7INITIAL_FORM
  6ALEF_MAKSURA_FINAL_FORM 2GHAIN_WITH_MEEM_WITH_MEEM_FINAL_FORM 6YEH_FINAL_FORM
  6ALEF_MAKSURA_FINAL_FORM 2FEH_WITH_KHAH_WITH_MEEM_FINAL_FORM 7INITIAL_FORM
  2QAF_WITH_MEEM_WITH_HAH_FINAL_FORM 6MEEM_FINAL_FORM 2LAM_WITH_HAH_WITH_MEEM_FINAL_FORM
  6YEH_FINAL_FORM 6ALEF_MAKSURA_FINAL_FORM 4JEEM_WITH_JEEM_INITIAL_FORM 7FINAL_FORM
  4KHAH_WITH_MEEM_FINAL_FORM 7INITIAL_FORM 4MEEM_WITH_HAH_FINAL_FORM 7INITIAL_FORM
  2MEEM_WITH_HAH_WITH_JEEM_INITIAL_FORM 6MEEM_INITIAL_FORM 6YEH_FINAL_FORM
  4JEEM_WITH_HAH_INITIAL_FORM 6MEEM_INITIAL_FORM 4KHAH_WITH_JEEM_INITIAL_FORM 6MEEM_INITIAL_FORM
  =fd92 4JEEM_WITH_KHAH_INITIAL_FORM 2HEH_WITH_MEEM_WITH_JEEM_INITIAL_FORM 6MEEM_INITIAL_FORM
  2NOON_WITH_HAH_WITH_MEEM_INITIAL_FORM 6ALEF_MAKSURA_FINAL_FORM 4JEEM_WITH_MEEM_FINAL_FORM
  7INITIAL_FORM 6ALEF_MAKSURA_FINAL_FORM 4MEEM_WITH_YEH_FINAL_FORM 6ALEF_MAKSURA_FINAL_FORM
  2YEH_WITH_MEEM_WITH_MEEM_FINAL_FORM 7INITIAL_FORM 2BEH_WITH_KHAH_WITH_YEH_FINAL_FORM
  2TEH_WITH_JEEM_WITH_YEH_FINAL_FORM 6ALEF_MAKSURA_FINAL_FORM 4KHAH_WITH_YEH_FINAL_FORM
  6ALEF_MAKSURA_FINAL_FORM 4MEEM_WITH_YEH_FINAL_FORM 6ALEF_MAKSURA_FINAL_FORM
  2JEEM_WITH_MEEM_WITH_YEH_FINAL_FORM 4HAH_WITH_ALEF_MAKSURA_FINAL_FORM
  4MEEM_WITH_ALEF_MAKSURA_FINAL_FORM 2SEEN_WITH_KHAH_WITH_ALEF_MAKSURA_FINAL_FORM
  2SAD_WITH_HAH_WITH_YEH_FINAL_FORM 2SHEEN_WITH_HAH_WITH_YEH_FINAL_FORM
  2DAD_WITH_HAH_WITH_YEH_FINAL_FORM 2LAM_WITH_JEEM_WITH_YEH_FINAL_FORM 4MEEM_WITH_YEH_FINAL_FORM
  2YEH_WITH_HAH_WITH_YEH_FINAL_FORM 4JEEM_WITH_YEH_FINAL_FORM 4MEEM_WITH_YEH_FINAL_FORM
  2MEEM_WITH_MEEM_WITH_YEH_FINAL_FORM 2QAF_WITH_MEEM_WITH_YEH_FINAL_FORM
  2NOON_WITH_HAH_WITH_YEH_FINAL_FORM 2QAF_WITH_MEEM_WITH_HAH_INITIAL_FORM
  2LAM_WITH_HAH_WITH_MEEM_INITIAL_FORM 2AIN_WITH_MEEM_WITH_YEH_FINAL_FORM
  2KAF_WITH_MEEM_WITH_YEH_FINAL_FORM 2NOON_WITH_JEEM_WITH_HAH_INITIAL_FORM
  2MEEM_WITH_KHAH_WITH_YEH_FINAL_FORM 2LAM_WITH_JEEM_WITH_MEEM_INITIAL_FORM
  2KAF_WITH_MEEM_WITH_MEEM_FINAL_FORM 2LAM_WITH_JEEM_WITH_MEEM_FINAL_FORM
  2NOON_WITH_JEEM_WITH_HAH_FINAL_FORM 2JEEM_WITH_HAH_WITH_YEH_FINAL_FORM
  2HAH_WITH_JEEM_WITH_YEH_FINAL_FORM 2MEEM_WITH_JEEM_WITH_YEH_FINAL_FORM
  2FEH_WITH_MEEM_WITH_YEH_FINAL_FORM 2BEH_WITH_HAH_WITH_YEH_FINAL_FORM
  2KAF_WITH_MEEM_WITH_MEEM_INITIAL_FORM 2AIN_WITH_JEEM_WITH_MEEM_INITIAL_FORM
  2SAD_WITH_MEEM_WITH_MEEM_INITIAL_FORM 2SEEN_WITH_KHAH_WITH_YEH_FINAL_FORM
  2NOON_WITH_JEEM_WITH_YEH_FINAL_FORM =fdcf 2SALAAMUHU_ALAYNAA =fdf0
  2SALLA_USED_AS_KORANIC_STOP_SIGN_ISOLATED_FORM 2QALA_USED_AS_KORANIC_STOP_SIGN_ISOLATED_FORM
  2ALLAH_ISOLATED_FORM 2AKBAR_ISOLATED_FORM 2MOHAMMAD_ISOLATED_FORM 2SALAM_ISOLATED_FORM
  2RASOUL_ISOLATED_FORM 2ALAYHE_ISOLATED_FORM 2WASALLAM_ISOLATED_FORM 2SALLA_ISOLATED_FORM
  2SALLALLAHOU_ALAYHE_WASALLAM 2JALLAJALALOUHOU 0RIAL_SIGN
  0ARABIC_LIGATURE_BISMILLAH_AR-RAHMAN_AR-RAHEEM 2SUBHAANAHU_WA_TAAALAA 2AZZA_WA_JALL
  0VARIATION_SELECTOR-1 1SELECTOR-2 1SELECTOR-3 1SELECTOR-4 1SELECTOR-5 1SELECTOR-6 1SELECTOR-7
  1SELECTOR-8 1SELECTOR-9 1SELECTOR-10 1SELECTOR-11 1SELECTOR-12 1SELECTOR-13 1SELECTOR-14
  1SELECTOR-15 1SELECTOR-16 0PRESENTATION_FORM_FOR_VERTICAL_COMMA 4IDEOGRAPHIC_COMMA 5FULL_STOP
  4COLON 4SEMICOLON 4EXCLAMATION_MARK 4QUESTION_MARK 4LEFT_WHITE_LENTICULAR_BRACKET
  4RIGHT_WHITE_LENTICULAR_BRAKCET 4HORIZONTAL_ELLIPSIS =fe20 0COMBINING_LIGATURE_LEFT_HALF
  2RIGHT_HALF 1DOUBLE_TILDE_LEFT_HALF 3RIGHT_HALF 1MACRON_LEFT_HALF 2RIGHT_HALF 1CONJOINING_MACRON
  1LIGATURE_LEFT_HALF_BELOW 2RIGHT_HALF_BELOW 1TILDE_LEFT_HALF_BELOW 2RIGHT_HALF_BELOW
  1MACRON_LEFT_HALF_BELOW 2RIGHT_HALF_BELOW 1CONJOINING_MACRON_BELOW 1CYRILLIC_TITLO_LEFT_HALF
  3RIGHT_HALF 0PRESENTATION_FORM_FOR_VERTICAL_TWO_DOT_LEADER 4EM_DASH 4EN_DASH 4LOW_LINE
  4WAVY_LOW_LINE 4LEFT_PARENTHESIS 4RIGHT_PARENTHESIS 4LEFT_CURLY_BRACKET 4RIGHT_CURLY_BRACKET
  4LEFT_TORTOISE_SHELL_BRACKET 4RIGHT_TORTOISE_SHELL_BRACKET 4LEFT_BLACK_LENTICULAR_BRACKET
  4RIGHT_BLACK_LENTICULAR_BRACKET 4LEFT_DOUBLE_ANGLE_BRACKET 4RIGHT_DOUBLE_ANGLE_BRACKET
  4LEFT_ANGLE_BRACKET 4RIGHT_ANGLE_BRACKET 4LEFT_CORNER_BRACKET 4RIGHT_CORNER_BRACKET
  4LEFT_WHITE_CORNER_BRACKET 4RIGHT_WHITE_CORNER_BRACKET 0SESAME_DOT 0WHITE_SESAME_DOT
  0PRESENTATION_FORM_FOR_VERTICAL_LEFT_SQUARE_BRACKET 4RIGHT_SQUARE_BRACKET 0DASHED_OVERLINE
  0CENTRELINE_OVERLINE 0WAVY_OVERLINE 0DOUBLE_WAVY_OVERLINE 0DASHED_LOW_LINE 0CENTRELINE_LOW_LINE
  0WAVY_LOW_LINE 0SMALL_COMMA 1IDEOGRAPHIC_COMMA 1FULL_STOP =fe54 1SEMICOLON 1COLON 1QUESTION_MARK
  1EXCLAMATION_MARK 1EM_DASH 1LEFT_PARENTHESIS 1RIGHT_PARENTHESIS 1LEFT_CURLY_BRACKET
  1RIGHT_CURLY_BRACKET 1LEFT_TORTOISE_SHELL_BRACKET 1RIGHT_TORTOISE_SHELL_BRACKET 1NUMBER_SIGN
  1AMPERSAND 1ASTERISK 1PLUS_SIGN 1HYPHEN-MINUS 1LESS-THAN_SIGN 1GREATER-THAN_SIGN 1EQUALS_SIGN
  =fe68 1REVERSE_SOLIDUS 1DOLLAR_SIGN 1PERCENT_SIGN 1COMMERCIAL_AT =fe70
  0ARABIC_FATHATAN_ISOLATED_FORM 1TATWEEL_WITH_FATHATAN_ABOVE 1DAMMATAN_ISOLATED_FORM
  1TAIL_FRAGMENT 1KASRATAN_ISOLATED_FORM =fe76 1FATHA_ISOLATED_FORM 2MEDIAL_FORM
  1DAMMA_ISOLATED_FORM 2MEDIAL_FORM 1KASRA_ISOLATED_FORM 2MEDIAL_FORM 1SHADDA_ISOLATED_FORM
  2MEDIAL_FORM 1SUKUN_ISOLATED_FORM 2MEDIAL_FORM 1LETTER_HAMZA_ISOLATED_FORM
  2ALEF_WITH_MADDA_ABOVE_ISOLATED_FORM 6FINAL_FORM 4HAMZA_ABOVE_ISOLATED_FORM 6FINAL_FORM
  2WAW_WITH_HAMZA_ABOVE_ISOLATED_FORM 6FINAL_FORM 2ALEF_WITH_HAMZA_BELOW_ISOLATED_FORM 6FINAL_FORM
  2YEH_WITH_HAMZA_ABOVE_ISOLATED_FORM 6FINAL_FORM 6INITIAL_FORM 6MEDIAL_FORM 2ALEF_ISOLATED_FORM
  3FINAL_FORM 2BEH_ISOLATED_FORM 3FINAL_FORM 3INITIAL_FORM 3MEDIAL_FORM 2TEH_MARBUTA_ISOLATED_FORM
  4FINAL_FORM 3ISOLATED_FORM 3FINAL_FORM 3INITIAL_FORM 3MEDIAL_FORM 2THEH_ISOLATED_FORM
  3FINAL_FORM 3INITIAL_FORM 3MEDIAL_FORM 2JEEM_ISOLATED_FORM 3FINAL_FORM 3INITIAL_FORM
  3MEDIAL_FORM 2HAH_ISOLATED_FORM 3FINAL_FORM 3INITIAL_FORM 3MEDIAL_FORM 2KHAH_ISOLATED_FORM
  3FINAL_FORM 3INITIAL_FORM 3MEDIAL_FORM 2DAL_ISOLATED_FORM 3FINAL_FORM 2THAL_ISOLATED_FORM
  3FINAL_FORM 2REH_ISOLATED_FORM 3FINAL_FORM 2ZAIN_ISOLATED_FORM 3FINAL_FORM 2SEEN_ISOLATED_FORM
  3FINAL_FORM 3INITIAL_FORM 3MEDIAL_FORM 2SHEEN_ISOLATED_FORM 3FINAL_FORM 3INITIAL_FORM
  3MEDIAL_FORM 2SAD_ISOLATED_FORM 3FINAL_FORM 3INITIAL_FORM 3MEDIAL_FORM 2DAD_ISOLATED_FORM
  3FINAL_FORM 3INITIAL_FORM 3MEDIAL_FORM 2TAH_ISOLATED_FORM 3FINAL_FORM 3INITIAL_FORM 3MEDIAL_FORM
  2ZAH_ISOLATED_FORM 3FINAL_FORM 3INITIAL_FORM 3MEDIAL_FORM 2AIN_ISOLATED_FORM 3FINAL_FORM
  3INITIAL_FORM 3MEDIAL_FORM 2GHAIN_ISOLATED_FORM 3FINAL_FORM 3INITIAL_FORM 3MEDIAL_FORM
  2FEH_ISOLATED_FORM 3FINAL_FORM 3INITIAL_FORM 3MEDIAL_FORM 2QAF_ISOLATED_FORM 3FINAL_FORM
  3INITIAL_FORM 3MEDIAL_FORM 2KAF_ISOLATED_FORM 3FINAL_FORM 3INITIAL_FORM 3MEDIAL_FORM
  2LAM_ISOLATED_FORM 3FINAL_FORM 3INITIAL_FORM 3MEDIAL_FORM 2MEEM_ISOLATED_FORM 3FINAL_FORM
  3INITIAL_FORM 3MEDIAL_FORM 2NOON_ISOLATED_FORM 3FINAL_FORM 3INITIAL_FORM 3MEDIAL_FORM
  2HEH_ISOLATED_FORM 3FINAL_FORM 3INITIAL_FORM 3MEDIAL_FORM 2WAW_ISOLATED_FORM 3FINAL_FORM
  2ALEF_MAKSURA_ISOLATED_FORM 4FINAL_FORM 2YEH_ISOLATED_FORM 3FINAL_FORM 3INITIAL_FORM
  3MEDIAL_FORM 1LIGATURE_LAM_WITH_ALEF_WITH_MADDA_ABOVE_ISOLATED_FORM 8FINAL_FORM
  6HAMZA_ABOVE_ISOLATED_FORM 8FINAL_FORM 7BELOW_ISOLATED_FORM 8FINAL_FORM 5ISOLATED_FORM
  5FINAL_FORM =feff 0ZERO_WIDTH_NO-BREAK_SPACE =ff01 0FULLWIDTH_EXCLAMATION_MARK 1QUOTATION_MARK
  1NUMBER_SIGN 1DOLLAR_SIGN 1PERCENT_SIGN 1AMPERSAND 1APOSTROPHE 1LEFT_PARENTHESIS
  1RIGHT_PARENTHESIS 1ASTERISK 1PLUS_SIGN 1COMMA 1HYPHEN-MINUS 1FULL_STOP 1SOLIDUS 1DIGIT_ZERO
  2ONE 2TWO 2THREE 2FOUR 2FIVE 2SIX 2SEVEN 2EIGHT 2NINE 1COLON 1SEMICOLON 1LESS-THAN_SIGN
  1EQUALS_SIGN 1GREATER-THAN_SIGN 1QUESTION_MARK 1COMMERCIAL_AT 1LATIN_CAPITAL_LETTER_A 4B 4C 4D
  4E 4F 4G 4H 4I 4J 4K 4L 4M 4N 4O 4P 4Q 4R 4S 4T 4U 4V 4W 4X 4Y 4Z 1LEFT_SQUARE_BRACKET
  1REVERSE_SOLIDUS 1RIGHT_SQUARE_BRACKET 1CIRCUMFLEX_ACCENT 1LOW_LINE 1GRAVE_ACCENT
  1LATIN_SMALL_LETTER_A 4B 4C 4D 4E 4F 4G 4H 4I 4J 4K 4L 4M 4N 4O 4P 4Q 4R 4S 4T 4U 4V 4W 4X 4Y 4Z
  1LEFT_CURLY_BRACKET 1VERTICAL_LINE 1RIGHT_CURLY_BRACKET 1TILDE 1LEFT_WHITE_PARENTHESIS
  1RIGHT_WHITE_PARENTHESIS 0HALFWIDTH_IDEOGRAPHIC_FULL_STOP 1LEFT_CORNER_BRACKET
  1RIGHT_CORNER_BRACKET 1IDEOGRAPHIC_COMMA 1KATAKANA_MIDDLE_DOT 2LETTER_WO 3SMALL_A 4I 4U 4E 4O
  4YA 4YU 4YO 4TU 1KATAKANA-HIRAGANA_PROLONGED_SOUND_MARK 1KATAKANA_LETTER_A 3I 3U 3E 3O 3KA 3KI
  3KU 3KE 3KO 3SA 3SI 3SU 3SE 3SO 3TA 3TI 3TU 3TE 3TO 3NA 3NI 3NU 3NE 3NO 3HA 3HI 3HU 3HE 3HO 3MA
  3MI 3MU 3ME 3MO 3YA 3YU 3YO 3RA 3RI 3RU 3RE 3RO 3WA 3N 2VOICED_SOUND_MARK
  2SEMI-VOICED_SOUND_MARK 1HANGUL_FILLER 2LETTER_KIYEOK 3SSANGKIYEOK 3KIYEOK-SIOS 3NIEUN
  3NIEUN-CIEUC 3NIEUN-HIEUH 3TIKEUT 3SSANGTIKEUT 3RIEUL 3RIEUL-KIYEOK 3RIEUL-MIEUM 3RIEUL-PIEUP
  3RIEUL-SIOS 3RIEUL-THIEUTH 3RIEUL-PHIEUPH 3RIEUL-HIEUH 3MIEUM 3PIEUP 3SSANGPIEUP 3PIEUP-SIOS
  3SIOS 3SSANGSIOS 3IEUNG 3CIEUC 3SSANGCIEUC 3CHIEUCH 3KHIEUKH 3THIEUTH 3PHIEUPH 3HIEUH =ffc2 3A
  3AE 3YA 3YAE 3EO 3E =ffca 3YEO 3YE 3O 3WA 3WAE 3OE =ffd2 3YO 3U 3WEO 3WE 3WI 3YU =ffda 3EU 3YI
  3I =ffe0 0FULLWIDTH_CENT_SIGN 1POUND_SIGN 1NOT_SIGN 1MACRON 1BROKEN_BAR 1YEN_SIGN 1WON_SIGN
  =ffe8 0HALFWIDTH_FORMS_LIGHT_VERTICAL 1LEFTWARDS_ARROW 1UPWARDS_ARROW 1RIGHTWARDS_ARROW
  1DOWNWARDS_ARROW 1BLACK_SQUARE 1WHITE_CIRCLE =fff9 0INTERLINEAR_ANNOTATION_ANCHOR 2SEPARATOR
  2TERMINATOR 0OBJECT_REPLACEMENT_CHARACTER 0REPLACEMENT_CHARACTER"

end RepoAtlas.Text.CharacterName
