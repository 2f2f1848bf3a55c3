/-!
The names of the characters of the first scripts, up to U+1FFF.
-/
namespace RepoAtlas.Text.CharacterName

def basicScripts : String := "
  =20 0SPACE 0EXCLAMATION_MARK 0QUOTATION_MARK 0NUMBER_SIGN 0DOLLAR_SIGN 0PERCENT_SIGN 0AMPERSAND
  0APOSTROPHE 0LEFT_PARENTHESIS 0RIGHT_PARENTHESIS 0ASTERISK 0PLUS_SIGN 0COMMA 0HYPHEN-MINUS
  0FULL_STOP 0SOLIDUS 0DIGIT_ZERO 1ONE 1TWO 1THREE 1FOUR 1FIVE 1SIX 1SEVEN 1EIGHT 1NINE 0COLON
  0SEMICOLON 0LESS-THAN_SIGN 0EQUALS_SIGN 0GREATER-THAN_SIGN 0QUESTION_MARK 0COMMERCIAL_AT
  0LATIN_CAPITAL_LETTER_A 3B 3C 3D 3E 3F 3G 3H 3I 3J 3K 3L 3M 3N 3O 3P 3Q 3R 3S 3T 3U 3V 3W 3X 3Y
  3Z 0LEFT_SQUARE_BRACKET 0REVERSE_SOLIDUS 0RIGHT_SQUARE_BRACKET 0CIRCUMFLEX_ACCENT 0LOW_LINE
  0GRAVE_ACCENT 0LATIN_SMALL_LETTER_A 3B 3C 3D 3E 3F 3G 3H 3I 3J 3K 3L 3M 3N 3O 3P 3Q 3R 3S 3T 3U
  3V 3W 3X 3Y 3Z 0LEFT_CURLY_BRACKET 0VERTICAL_LINE 0RIGHT_CURLY_BRACKET 0TILDE =a0
  0NO-BREAK_SPACE 0INVERTED_EXCLAMATION_MARK 0CENT_SIGN 0POUND_SIGN 0CURRENCY_SIGN 0YEN_SIGN
  0BROKEN_BAR 0SECTION_SIGN 0DIAERESIS 0COPYRIGHT_SIGN 0FEMININE_ORDINAL_INDICATOR
  0LEFT-POINTING_DOUBLE_ANGLE_QUOTATION_MARK 0NOT_SIGN 0SOFT_HYPHEN 0REGISTERED_SIGN 0MACRON
  0DEGREE_SIGN 0PLUS-MINUS_SIGN 0SUPERSCRIPT_TWO 1THREE 0ACUTE_ACCENT 0MICRO_SIGN 0PILCROW_SIGN
  0MIDDLE_DOT 0CEDILLA 0SUPERSCRIPT_ONE 0MASCULINE_ORDINAL_INDICATOR
  0RIGHT-POINTING_DOUBLE_ANGLE_QUOTATION_MARK 0VULGAR_FRACTION_ONE_QUARTER 3HALF 2THREE_QUARTERS
  0INVERTED_QUESTION_MARK 0LATIN_CAPITAL_LETTER_A_WITH_GRAVE 5ACUTE 5CIRCUMFLEX 5TILDE 5DIAERESIS
  5RING_ABOVE 3AE 3C_WITH_CEDILLA 3E_WITH_GRAVE 5ACUTE 5CIRCUMFLEX 5DIAERESIS 3I_WITH_GRAVE 5ACUTE
  5CIRCUMFLEX 5DIAERESIS 3ETH 3N_WITH_TILDE 3O_WITH_GRAVE 5ACUTE 5CIRCUMFLEX 5TILDE 5DIAERESIS
  0MULTIPLICATION_SIGN 0LATIN_CAPITAL_LETTER_O_WITH_STROKE 3U_WITH_GRAVE 5ACUTE 5CIRCUMFLEX
  5DIAERESIS 3Y_WITH_ACUTE 3THORN 1SMALL_LETTER_SHARP_S 3A_WITH_GRAVE 5ACUTE 5CIRCUMFLEX 5TILDE
  5DIAERESIS 5RING_ABOVE 3AE 3C_WITH_CEDILLA 3E_WITH_GRAVE 5ACUTE 5CIRCUMFLEX 5DIAERESIS
  3I_WITH_GRAVE 5ACUTE 5CIRCUMFLEX 5DIAERESIS 3ETH 3N_WITH_TILDE 3O_WITH_GRAVE 5ACUTE 5CIRCUMFLEX
  5TILDE 5DIAERESIS 0DIVISION_SIGN 0LATIN_SMALL_LETTER_O_WITH_STROKE 3U_WITH_GRAVE 5ACUTE
  5CIRCUMFLEX 5DIAERESIS 3Y_WITH_ACUTE 3THORN 3Y_WITH_DIAERESIS 1CAPITAL_LETTER_A_WITH_MACRON
  1SMALL_LETTER_A_WITH_MACRON 1CAPITAL_LETTER_A_WITH_BREVE 1SMALL_LETTER_A_WITH_BREVE
  1CAPITAL_LETTER_A_WITH_OGONEK 1SMALL_LETTER_A_WITH_OGONEK 1CAPITAL_LETTER_C_WITH_ACUTE
  1SMALL_LETTER_C_WITH_ACUTE 1CAPITAL_LETTER_C_WITH_CIRCUMFLEX 1SMALL_LETTER_C_WITH_CIRCUMFLEX
  1CAPITAL_LETTER_C_WITH_DOT_ABOVE 1SMALL_LETTER_C_WITH_DOT_ABOVE 1CAPITAL_LETTER_C_WITH_CARON
  1SMALL_LETTER_C_WITH_CARON 1CAPITAL_LETTER_D_WITH_CARON 1SMALL_LETTER_D_WITH_CARON
  1CAPITAL_LETTER_D_WITH_STROKE 1SMALL_LETTER_D_WITH_STROKE 1CAPITAL_LETTER_E_WITH_MACRON
  1SMALL_LETTER_E_WITH_MACRON 1CAPITAL_LETTER_E_WITH_BREVE 1SMALL_LETTER_E_WITH_BREVE
  1CAPITAL_LETTER_E_WITH_DOT_ABOVE 1SMALL_LETTER_E_WITH_DOT_ABOVE 1CAPITAL_LETTER_E_WITH_OGONEK
  1SMALL_LETTER_E_WITH_OGONEK 1CAPITAL_LETTER_E_WITH_CARON 1SMALL_LETTER_E_WITH_CARON
  1CAPITAL_LETTER_G_WITH_CIRCUMFLEX 1SMALL_LETTER_G_WITH_CIRCUMFLEX 1CAPITAL_LETTER_G_WITH_BREVE
  1SMALL_LETTER_G_WITH_BREVE 1CAPITAL_LETTER_G_WITH_DOT_ABOVE 1SMALL_LETTER_G_WITH_DOT_ABOVE
  1CAPITAL_LETTER_G_WITH_CEDILLA 1SMALL_LETTER_G_WITH_CEDILLA 1CAPITAL_LETTER_H_WITH_CIRCUMFLEX
  1SMALL_LETTER_H_WITH_CIRCUMFLEX 1CAPITAL_LETTER_H_WITH_STROKE 1SMALL_LETTER_H_WITH_STROKE
  1CAPITAL_LETTER_I_WITH_TILDE 1SMALL_LETTER_I_WITH_TILDE 1CAPITAL_LETTER_I_WITH_MACRON
  1SMALL_LETTER_I_WITH_MACRON 1CAPITAL_LETTER_I_WITH_BREVE 1SMALL_LETTER_I_WITH_BREVE
  1CAPITAL_LETTER_I_WITH_OGONEK 1SMALL_LETTER_I_WITH_OGONEK 1CAPITAL_LETTER_I_WITH_DOT_ABOVE
  1SMALL_LETTER_DOTLESS_I 1CAPITAL_LIGATURE_IJ 1SMALL_LIGATURE_IJ
  1CAPITAL_LETTER_J_WITH_CIRCUMFLEX 1SMALL_LETTER_J_WITH_CIRCUMFLEX 1CAPITAL_LETTER_K_WITH_CEDILLA
  1SMALL_LETTER_K_WITH_CEDILLA 3KRA 1CAPITAL_LETTER_L_WITH_ACUTE 1SMALL_LETTER_L_WITH_ACUTE
  1CAPITAL_LETTER_L_WITH_CEDILLA 1SMALL_LETTER_L_WITH_CEDILLA 1CAPITAL_LETTER_L_WITH_CARON
  1SMALL_LETTER_L_WITH_CARON 1CAPITAL_LETTER_L_WITH_MIDDLE_DOT 1SMALL_LETTER_L_WITH_MIDDLE_DOT
  1CAPITAL_LETTER_L_WITH_STROKE 1SMALL_LETTER_L_WITH_STROKE 1CAPITAL_LETTER_N_WITH_ACUTE
  1SMALL_LETTER_N_WITH_ACUTE 1CAPITAL_LETTER_N_WITH_CEDILLA 1SMALL_LETTER_N_WITH_CEDILLA
  1CAPITAL_LETTER_N_WITH_CARON 1SMALL_LETTER_N_WITH_CARON 4PRECEDED_BY_APOSTROPHE
  1CAPITAL_LETTER_ENG 1SMALL_LETTER_ENG 1CAPITAL_LETTER_O_WITH_MACRON 1SMALL_LETTER_O_WITH_MACRON
  1CAPITAL_LETTER_O_WITH_BREVE 1SMALL_LETTER_O_WITH_BREVE 1CAPITAL_LETTER_O_WITH_DOUBLE_ACUTE
  1SMALL_LETTER_O_WITH_DOUBLE_ACUTE 1CAPITAL_LIGATURE_OE 1SMALL_LIGATURE_OE
  1CAPITAL_LETTER_R_WITH_ACUTE 1SMALL_LETTER_R_WITH_ACUTE 1CAPITAL_LETTER_R_WITH_CEDILLA
  1SMALL_LETTER_R_WITH_CEDILLA 1CAPITAL_LETTER_R_WITH_CARON 1SMALL_LETTER_R_WITH_CARON
  1CAPITAL_LETTER_S_WITH_ACUTE 1SMALL_LETTER_S_WITH_ACUTE 1CAPITAL_LETTER_S_WITH_CIRCUMFLEX
  1SMALL_LETTER_S_WITH_CIRCUMFLEX 1CAPITAL_LETTER_S_WITH_CEDILLA 1SMALL_LETTER_S_WITH_CEDILLA
  1CAPITAL_LETTER_S_WITH_CARON 1SMALL_LETTER_S_WITH_CARON 1CAPITAL_LETTER_T_WITH_CEDILLA
  1SMALL_LETTER_T_WITH_CEDILLA 1CAPITAL_LETTER_T_WITH_CARON 1SMALL_LETTER_T_WITH_CARON
  1CAPITAL_LETTER_T_WITH_STROKE 1SMALL_LETTER_T_WITH_STROKE 1CAPITAL_LETTER_U_WITH_TILDE
  1SMALL_LETTER_U_WITH_TILDE 1CAPITAL_LETTER_U_WITH_MACRON 1SMALL_LETTER_U_WITH_MACRON
  1CAPITAL_LETTER_U_WITH_BREVE 1SMALL_LETTER_U_WITH_BREVE 1CAPITAL_LETTER_U_WITH_RING_ABOVE
  1SMALL_LETTER_U_WITH_RING_ABOVE 1CAPITAL_LETTER_U_WITH_DOUBLE_ACUTE
  1SMALL_LETTER_U_WITH_DOUBLE_ACUTE 1CAPITAL_LETTER_U_WITH_OGONEK 1SMALL_LETTER_U_WITH_OGONEK
  1CAPITAL_LETTER_W_WITH_CIRCUMFLEX 1SMALL_LETTER_W_WITH_CIRCUMFLEX
  1CAPITAL_LETTER_Y_WITH_CIRCUMFLEX 1SMALL_LETTER_Y_WITH_CIRCUMFLEX
  1CAPITAL_LETTER_Y_WITH_DIAERESIS 3Z_WITH_ACUTE 1SMALL_LETTER_Z_WITH_ACUTE
  1CAPITAL_LETTER_Z_WITH_DOT_ABOVE 1SMALL_LETTER_Z_WITH_DOT_ABOVE 1CAPITAL_LETTER_Z_WITH_CARON
  1SMALL_LETTER_Z_WITH_CARON 3LONG_S 3B_WITH_STROKE 1CAPITAL_LETTER_B_WITH_HOOK 5TOPBAR
  1SMALL_LETTER_B_WITH_TOPBAR 1CAPITAL_LETTER_TONE_SIX 1SMALL_LETTER_TONE_SIX
  1CAPITAL_LETTER_OPEN_O 3C_WITH_HOOK 1SMALL_LETTER_C_WITH_HOOK 1CAPITAL_LETTER_AFRICAN_D
  3D_WITH_HOOK 5TOPBAR 1SMALL_LETTER_D_WITH_TOPBAR 3TURNED_DELTA 1CAPITAL_LETTER_REVERSED_E 3SCHWA
  3OPEN_E 3F_WITH_HOOK 1SMALL_LETTER_F_WITH_HOOK 1CAPITAL_LETTER_G_WITH_HOOK 3GAMMA
  1SMALL_LETTER_HV 1CAPITAL_LETTER_IOTA 3I_WITH_STROKE 3K_WITH_HOOK 1SMALL_LETTER_K_WITH_HOOK
  3L_WITH_BAR 3LAMBDA_WITH_STROKE 1CAPITAL_LETTER_TURNED_M 3N_WITH_LEFT_HOOK
  1SMALL_LETTER_N_WITH_LONG_RIGHT_LEG 1CAPITAL_LETTER_O_WITH_MIDDLE_TILDE 5HORN
  1SMALL_LETTER_O_WITH_HORN 1CAPITAL_LETTER_OI 1SMALL_LETTER_OI 1CAPITAL_LETTER_P_WITH_HOOK
  1SMALL_LETTER_P_WITH_HOOK 1LETTER_YR 1CAPITAL_LETTER_TONE_TWO 1SMALL_LETTER_TONE_TWO
  1CAPITAL_LETTER_ESH 1LETTER_REVERSED_ESH_LOOP 1SMALL_LETTER_T_WITH_PALATAL_HOOK
  1CAPITAL_LETTER_T_WITH_HOOK 1SMALL_LETTER_T_WITH_HOOK 1CAPITAL_LETTER_T_WITH_RETROFLEX_HOOK
  3U_WITH_HORN 1SMALL_LETTER_U_WITH_HORN 1CAPITAL_LETTER_UPSILON 3V_WITH_HOOK 3Y_WITH_HOOK
  1SMALL_LETTER_Y_WITH_HOOK 1CAPITAL_LETTER_Z_WITH_STROKE 1SMALL_LETTER_Z_WITH_STROKE
  1CAPITAL_LETTER_EZH 4REVERSED 1SMALL_LETTER_EZH_REVERSED 4WITH_TAIL 1LETTER_TWO_WITH_STROKE
  1CAPITAL_LETTER_TONE_FIVE 1SMALL_LETTER_TONE_FIVE 1LETTER_INVERTED_GLOTTAL_STOP_WITH_STROKE
  2WYNN 2DENTAL_CLICK 2LATERAL_CLICK 2ALVEOLAR_CLICK 2RETROFLEX_CLICK
  1CAPITAL_LETTER_DZ_WITH_CARON 3D_WITH_SMALL_LETTER_Z_WITH_CARON 1SMALL_LETTER_DZ_WITH_CARON
  1CAPITAL_LETTER_LJ 3L_WITH_SMALL_LETTER_J 1SMALL_LETTER_LJ 1CAPITAL_LETTER_NJ
  3N_WITH_SMALL_LETTER_J 1SMALL_LETTER_NJ 1CAPITAL_LETTER_A_WITH_CARON 1SMALL_LETTER_A_WITH_CARON
  1CAPITAL_LETTER_I_WITH_CARON 1SMALL_LETTER_I_WITH_CARON 1CAPITAL_LETTER_O_WITH_CARON
  1SMALL_LETTER_O_WITH_CARON 1CAPITAL_LETTER_U_WITH_CARON 1SMALL_LETTER_U_WITH_CARON
  1CAPITAL_LETTER_U_WITH_DIAERESIS_AND_MACRON 1SMALL_LETTER_U_WITH_DIAERESIS_AND_MACRON
  1CAPITAL_LETTER_U_WITH_DIAERESIS_AND_ACUTE 1SMALL_LETTER_U_WITH_DIAERESIS_AND_ACUTE
  1CAPITAL_LETTER_U_WITH_DIAERESIS_AND_CARON 1SMALL_LETTER_U_WITH_DIAERESIS_AND_CARON
  1CAPITAL_LETTER_U_WITH_DIAERESIS_AND_GRAVE 1SMALL_LETTER_U_WITH_DIAERESIS_AND_GRAVE 3TURNED_E
  1CAPITAL_LETTER_A_WITH_DIAERESIS_AND_MACRON 1SMALL_LETTER_A_WITH_DIAERESIS_AND_MACRON
  1CAPITAL_LETTER_A_WITH_DOT_ABOVE_AND_MACRON 1SMALL_LETTER_A_WITH_DOT_ABOVE_AND_MACRON
  1CAPITAL_LETTER_AE_WITH_MACRON 1SMALL_LETTER_AE_WITH_MACRON 1CAPITAL_LETTER_G_WITH_STROKE
  1SMALL_LETTER_G_WITH_STROKE 1CAPITAL_LETTER_G_WITH_CARON 1SMALL_LETTER_G_WITH_CARON
  1CAPITAL_LETTER_K_WITH_CARON 1SMALL_LETTER_K_WITH_CARON 1CAPITAL_LETTER_O_WITH_OGONEK
  1SMALL_LETTER_O_WITH_OGONEK 1CAPITAL_LETTER_O_WITH_OGONEK_AND_MACRON
  1SMALL_LETTER_O_WITH_OGONEK_AND_MACRON 1CAPITAL_LETTER_EZH_WITH_CARON
  1SMALL_LETTER_EZH_WITH_CARON 3J_WITH_CARON 1CAPITAL_LETTER_DZ 3D_WITH_SMALL_LETTER_Z
  1SMALL_LETTER_DZ 1CAPITAL_LETTER_G_WITH_ACUTE 1SMALL_LETTER_G_WITH_ACUTE 1CAPITAL_LETTER_HWAIR
  3WYNN 3N_WITH_GRAVE 1SMALL_LETTER_N_WITH_GRAVE 1CAPITAL_LETTER_A_WITH_RING_ABOVE_AND_ACUTE
  1SMALL_LETTER_A_WITH_RING_ABOVE_AND_ACUTE 1CAPITAL_LETTER_AE_WITH_ACUTE
  1SMALL_LETTER_AE_WITH_ACUTE 1CAPITAL_LETTER_O_WITH_STROKE_AND_ACUTE
  1SMALL_LETTER_O_WITH_STROKE_AND_ACUTE 1CAPITAL_LETTER_A_WITH_DOUBLE_GRAVE
  1SMALL_LETTER_A_WITH_DOUBLE_GRAVE 1CAPITAL_LETTER_A_WITH_INVERTED_BREVE
  1SMALL_LETTER_A_WITH_INVERTED_BREVE 1CAPITAL_LETTER_E_WITH_DOUBLE_GRAVE
  1SMALL_LETTER_E_WITH_DOUBLE_GRAVE 1CAPITAL_LETTER_E_WITH_INVERTED_BREVE
  1SMALL_LETTER_E_WITH_INVERTED_BREVE 1CAPITAL_LETTER_I_WITH_DOUBLE_GRAVE
  1SMALL_LETTER_I_WITH_DOUBLE_GRAVE 1CAPITAL_LETTER_I_WITH_INVERTED_BREVE
  1SMALL_LETTER_I_WITH_INVERTED_BREVE 1CAPITAL_LETTER_O_WITH_DOUBLE_GRAVE
  1SMALL_LETTER_O_WITH_DOUBLE_GRAVE 1CAPITAL_LETTER_O_WITH_INVERTED_BREVE
  1SMALL_LETTER_O_WITH_INVERTED_BREVE 1CAPITAL_LETTER_R_WITH_DOUBLE_GRAVE
  1SMALL_LETTER_R_WITH_DOUBLE_GRAVE 1CAPITAL_LETTER_R_WITH_INVERTED_BREVE
  1SMALL_LETTER_R_WITH_INVERTED_BREVE 1CAPITAL_LETTER_U_WITH_DOUBLE_GRAVE
  1SMALL_LETTER_U_WITH_DOUBLE_GRAVE 1CAPITAL_LETTER_U_WITH_INVERTED_BREVE
  1SMALL_LETTER_U_WITH_INVERTED_BREVE 1CAPITAL_LETTER_S_WITH_COMMA_BELOW
  1SMALL_LETTER_S_WITH_COMMA_BELOW 1CAPITAL_LETTER_T_WITH_COMMA_BELOW
  1SMALL_LETTER_T_WITH_COMMA_BELOW 1CAPITAL_LETTER_YOGH 1SMALL_LETTER_YOGH
  1CAPITAL_LETTER_H_WITH_CARON 1SMALL_LETTER_H_WITH_CARON 1CAPITAL_LETTER_N_WITH_LONG_RIGHT_LEG
  1SMALL_LETTER_D_WITH_CURL 1CAPITAL_LETTER_OU 1SMALL_LETTER_OU 1CAPITAL_LETTER_Z_WITH_HOOK
  1SMALL_LETTER_Z_WITH_HOOK 1CAPITAL_LETTER_A_WITH_DOT_ABOVE 1SMALL_LETTER_A_WITH_DOT_ABOVE
  1CAPITAL_LETTER_E_WITH_CEDILLA 1SMALL_LETTER_E_WITH_CEDILLA
  1CAPITAL_LETTER_O_WITH_DIAERESIS_AND_MACRON 1SMALL_LETTER_O_WITH_DIAERESIS_AND_MACRON
  1CAPITAL_LETTER_O_WITH_TILDE_AND_MACRON 1SMALL_LETTER_O_WITH_TILDE_AND_MACRON
  1CAPITAL_LETTER_O_WITH_DOT_ABOVE 1SMALL_LETTER_O_WITH_DOT_ABOVE
  1CAPITAL_LETTER_O_WITH_DOT_ABOVE_AND_MACRON 1SMALL_LETTER_O_WITH_DOT_ABOVE_AND_MACRON
  1CAPITAL_LETTER_Y_WITH_MACRON 1SMALL_LETTER_Y_WITH_MACRON 3L_WITH_CURL 3N_WITH_CURL 3T_WITH_CURL
  3DOTLESS_J 3DB_DIGRAPH 3QP_DIGRAPH 1CAPITAL_LETTER_A_WITH_STROKE 3C_WITH_STROKE
  1SMALL_LETTER_C_WITH_STROKE 1CAPITAL_LETTER_L_WITH_BAR 3T_WITH_DIAGONAL_STROKE
  1SMALL_LETTER_S_WITH_SWASH_TAIL 3Z_WITH_SWASH_TAIL 1CAPITAL_LETTER_GLOTTAL_STOP
  1SMALL_LETTER_GLOTTAL_STOP 1CAPITAL_LETTER_B_WITH_STROKE 3U_BAR 3TURNED_V 3E_WITH_STROKE
  1SMALL_LETTER_E_WITH_STROKE 1CAPITAL_LETTER_J_WITH_STROKE 1SMALL_LETTER_J_WITH_STROKE
  1CAPITAL_LETTER_SMALL_Q_WITH_HOOK_TAIL 1SMALL_LETTER_Q_WITH_HOOK_TAIL
  1CAPITAL_LETTER_R_WITH_STROKE 1SMALL_LETTER_R_WITH_STROKE 1CAPITAL_LETTER_Y_WITH_STROKE
  1SMALL_LETTER_Y_WITH_STROKE 3TURNED_A 3ALPHA 3TURNED_ALPHA 3B_WITH_HOOK 3OPEN_O 3C_WITH_CURL
  3D_WITH_TAIL 5HOOK 3REVERSED_E 3SCHWA 4WITH_HOOK 3OPEN_E 3REVERSED_OPEN_E 6WITH_HOOK
  3CLOSED_REVERSED_OPEN_E 3DOTLESS_J_WITH_STROKE 3G_WITH_HOOK 3SCRIPT_G 1LETTER_SMALL_CAPITAL_G
  1SMALL_LETTER_GAMMA 3RAMS_HORN 3TURNED_H 3H_WITH_HOOK 3HENG_WITH_HOOK 3I_WITH_STROKE 3IOTA
  1LETTER_SMALL_CAPITAL_I 1SMALL_LETTER_L_WITH_MIDDLE_TILDE 5BELT 5RETROFLEX_HOOK 3LEZH 3TURNED_M
  5WITH_LONG_LEG 3M_WITH_HOOK 3N_WITH_LEFT_HOOK 5RETROFLEX_HOOK 1LETTER_SMALL_CAPITAL_N
  1SMALL_LETTER_BARRED_O 1LETTER_SMALL_CAPITAL_OE 1SMALL_LETTER_CLOSED_OMEGA 3PHI 3TURNED_R
  5WITH_LONG_LEG 6HOOK 3R_WITH_LONG_LEG 5TAIL 5FISHHOOK 3REVERSED_R_WITH_FISHHOOK
  1LETTER_SMALL_CAPITAL_R 4INVERTED_R 1SMALL_LETTER_S_WITH_HOOK 3ESH
  3DOTLESS_J_WITH_STROKE_AND_HOOK 3SQUAT_REVERSED_ESH 3ESH_WITH_CURL 3TURNED_T
  3T_WITH_RETROFLEX_HOOK 3U_BAR 3UPSILON 3V_WITH_HOOK 3TURNED_V 4W 4Y 1LETTER_SMALL_CAPITAL_Y
  1SMALL_LETTER_Z_WITH_RETROFLEX_HOOK 5CURL 3EZH 4WITH_CURL 1LETTER_GLOTTAL_STOP
  2PHARYNGEAL_VOICED_FRICATIVE 2INVERTED_GLOTTAL_STOP 2STRETCHED_C 2BILABIAL_CLICK
  2SMALL_CAPITAL_B 1SMALL_LETTER_CLOSED_OPEN_E 1LETTER_SMALL_CAPITAL_G_WITH_HOOK 4H
  1SMALL_LETTER_J_WITH_CROSSED-TAIL 3TURNED_K 1LETTER_SMALL_CAPITAL_L 1SMALL_LETTER_Q_WITH_HOOK
  1LETTER_GLOTTAL_STOP_WITH_STROKE 2REVERSED_GLOTTAL_STOP_WITH_STROKE 1SMALL_LETTER_DZ_DIGRAPH
  3DEZH_DIGRAPH 3DZ_DIGRAPH_WITH_CURL 3TS_DIGRAPH 3TESH_DIGRAPH 3TC_DIGRAPH_WITH_CURL
  3FENG_DIGRAPH 3LS_DIGRAPH 3LZ_DIGRAPH 1LETTER_BILABIAL_PERCUSSIVE 2BIDENTAL_PERCUSSIVE
  1SMALL_LETTER_TURNED_H_WITH_FISHHOOK 7AND_TAIL 0MODIFIER_LETTER_SMALL_H 4WITH_HOOK 3J 3R
  3TURNED_R 5WITH_HOOK 3CAPITAL_INVERTED_R 3W 3Y 2PRIME 2DOUBLE_PRIME 2TURNED_COMMA 2APOSTROPHE
  2REVERSED_COMMA 2RIGHT_HALF_RING 2LEFT_HALF_RING 2GLOTTAL_STOP 2REVERSED_GLOTTAL_STOP
  2LEFT_ARROWHEAD 2RIGHT_ARROWHEAD 2UP_ARROWHEAD 2DOWN_ARROWHEAD 2CIRCUMFLEX_ACCENT 0CARON
  0MODIFIER_LETTER_VERTICAL_LINE 2MACRON 2ACUTE_ACCENT 2GRAVE_ACCENT 2LOW_VERTICAL_LINE 3MACRON
  3GRAVE_ACCENT 3ACUTE_ACCENT 2TRIANGULAR_COLON 2HALF_TRIANGULAR_COLON 2CENTRED_RIGHT_HALF_RING
  3LEFT_HALF_RING 2UP_TACK 2DOWN_TACK 2PLUS_SIGN 2MINUS_SIGN 0BREVE 0DOT_ABOVE 0RING_ABOVE 0OGONEK
  0SMALL_TILDE 0DOUBLE_ACUTE_ACCENT 0MODIFIER_LETTER_RHOTIC_HOOK 2CROSS_ACCENT 2SMALL_GAMMA 3L 3S
  3X 3REVERSED_GLOTTAL_STOP 2EXTRA-HIGH_TONE_BAR 2HIGH_TONE_BAR 2MID_TONE_BAR 2LOW_TONE_BAR
  2EXTRA-LOW_TONE_BAR 2YIN_DEPARTING_TONE_MARK 2YANG_DEPARTING_TONE_MARK 2VOICING 2UNASPIRATED
  2DOUBLE_APOSTROPHE 2LOW_DOWN_ARROWHEAD 3UP_ARROWHEAD 3LEFT_ARROWHEAD 3RIGHT_ARROWHEAD 3RING
  2MIDDLE_GRAVE_ACCENT 3DOUBLE_GRAVE_ACCENT 4ACUTE_ACCENT 2LOW_TILDE 2RAISED_COLON
  2BEGIN_HIGH_TONE 2END_HIGH_TONE 2BEGIN_LOW_TONE 2END_LOW_TONE 2SHELF 2OPEN_SHELF 2LOW_LEFT_ARROW
  0COMBINING_GRAVE_ACCENT 1ACUTE_ACCENT 1CIRCUMFLEX_ACCENT 1TILDE 1MACRON 1OVERLINE 1BREVE
  1DOT_ABOVE 1DIAERESIS 1HOOK_ABOVE 1RING_ABOVE 1DOUBLE_ACUTE_ACCENT 1CARON 1VERTICAL_LINE_ABOVE
  1DOUBLE_VERTICAL_LINE_ABOVE 2GRAVE_ACCENT 1CANDRABINDU 1INVERTED_BREVE 1TURNED_COMMA_ABOVE
  1COMMA_ABOVE 1REVERSED_COMMA_ABOVE 1COMMA_ABOVE_RIGHT 1GRAVE_ACCENT_BELOW 1ACUTE_ACCENT_BELOW
  1LEFT_TACK_BELOW 1RIGHT_TACK_BELOW 1LEFT_ANGLE_ABOVE 1HORN 1LEFT_HALF_RING_BELOW 1UP_TACK_BELOW
  1DOWN_TACK_BELOW 1PLUS_SIGN_BELOW 1MINUS_SIGN_BELOW 1PALATALIZED_HOOK_BELOW
  1RETROFLEX_HOOK_BELOW 1DOT_BELOW 1DIAERESIS_BELOW 1RING_BELOW 1COMMA_BELOW 1CEDILLA 1OGONEK
  1VERTICAL_LINE_BELOW 1BRIDGE_BELOW 1INVERTED_DOUBLE_ARCH_BELOW 1CARON_BELOW
  1CIRCUMFLEX_ACCENT_BELOW 1BREVE_BELOW 1INVERTED_BREVE_BELOW 1TILDE_BELOW 1MACRON_BELOW 1LOW_LINE
  1DOUBLE_LOW_LINE 1TILDE_OVERLAY 1SHORT_STROKE_OVERLAY 1LONG_STROKE_OVERLAY
  1SHORT_SOLIDUS_OVERLAY 1LONG_SOLIDUS_OVERLAY 1RIGHT_HALF_RING_BELOW 1INVERTED_BRIDGE_BELOW
  1SQUARE_BELOW 1SEAGULL_BELOW 1X_ABOVE 1VERTICAL_TILDE 1DOUBLE_OVERLINE 1GRAVE_TONE_MARK
  1ACUTE_TONE_MARK 1GREEK_PERISPOMENI 2KORONIS 2DIALYTIKA_TONOS 2YPOGEGRAMMENI 1BRIDGE_ABOVE
  1EQUALS_SIGN_BELOW 1DOUBLE_VERTICAL_LINE_BELOW 1LEFT_ANGLE_BELOW 1NOT_TILDE_ABOVE
  1HOMOTHETIC_ABOVE 1ALMOST_EQUAL_TO_ABOVE 1LEFT_RIGHT_ARROW_BELOW 1UPWARDS_ARROW_BELOW
  1GRAPHEME_JOINER 1RIGHT_ARROWHEAD_ABOVE 1LEFT_HALF_RING_ABOVE 1FERMATA 1X_BELOW
  1LEFT_ARROWHEAD_BELOW 1RIGHT_ARROWHEAD_BELOW 3AND_UP_ARROWHEAD_BELOW 2HALF_RING_ABOVE
  1DOT_ABOVE_RIGHT 1ASTERISK_BELOW 1DOUBLE_RING_BELOW 1ZIGZAG_ABOVE 1DOUBLE_BREVE_BELOW 3 2MACRON
  3BELOW 2TILDE 2INVERTED_BREVE 2RIGHTWARDS_ARROW_BELOW 1LATIN_SMALL_LETTER_A 4E 4I 4O 4U 4C 4D 4H
  4M 4R 4T 4V 4X 0GREEK_CAPITAL_LETTER_HETA 1SMALL_LETTER_HETA 1CAPITAL_LETTER_ARCHAIC_SAMPI
  1SMALL_LETTER_ARCHAIC_SAMPI 1NUMERAL_SIGN 1LOWER_NUMERAL_SIGN 1CAPITAL_LETTER_PAMPHYLIAN_DIGAMMA
  1SMALL_LETTER_PAMPHYLIAN_DIGAMMA =37a 1YPOGEGRAMMENI 1SMALL_REVERSED_LUNATE_SIGMA_SYMBOL
  2DOTTED_LUNATE_SIGMA_SYMBOL 2REVERSED_DOTTED_LUNATE_SIGMA_SYMBOL 1QUESTION_MARK
  1CAPITAL_LETTER_YOT =384 1TONOS 1DIALYTIKA_TONOS 1CAPITAL_LETTER_ALPHA_WITH_TONOS 1ANO_TELEIA
  1CAPITAL_LETTER_EPSILON_WITH_TONOS 3ETA_WITH_TONOS 3IOTA_WITH_TONOS =38c 3OMICRON_WITH_TONOS
  =38e 3UPSILON_WITH_TONOS 3OMEGA_WITH_TONOS 1SMALL_LETTER_IOTA_WITH_DIALYTIKA_AND_TONOS
  1CAPITAL_LETTER_ALPHA 3BETA 3GAMMA 3DELTA 3EPSILON 3ZETA 3ETA 3THETA 3IOTA 3KAPPA 3LAMDA 3MU 3NU
  3XI 3OMICRON 3PI 3RHO =3a3 3SIGMA 3TAU 3UPSILON 3PHI 3CHI 3PSI 3OMEGA 3IOTA_WITH_DIALYTIKA
  3UPSILON_WITH_DIALYTIKA 1SMALL_LETTER_ALPHA_WITH_TONOS 3EPSILON_WITH_TONOS 3ETA_WITH_TONOS
  3IOTA_WITH_TONOS 3UPSILON_WITH_DIALYTIKA_AND_TONOS 3ALPHA 3BETA 3GAMMA 3DELTA 3EPSILON 3ZETA
  3ETA 3THETA 3IOTA 3KAPPA 3LAMDA 3MU 3NU 3XI 3OMICRON 3PI 3RHO 3FINAL_SIGMA 3SIGMA 3TAU 3UPSILON
  3PHI 3CHI 3PSI 3OMEGA 3IOTA_WITH_DIALYTIKA 3UPSILON_WITH_DIALYTIKA 3OMICRON_WITH_TONOS
  3UPSILON_WITH_TONOS 3OMEGA_WITH_TONOS 1CAPITAL_KAI_SYMBOL 1BETA_SYMBOL 1THETA_SYMBOL
  1UPSILON_WITH_HOOK_SYMBOL 3ACUTE_AND_HOOK_SYMBOL 3DIAERESIS_AND_HOOK_SYMBOL 1PHI_SYMBOL
  1PI_SYMBOL 1KAI_SYMBOL 1LETTER_ARCHAIC_KOPPA 1SMALL_LETTER_ARCHAIC_KOPPA 1LETTER_STIGMA
  1SMALL_LETTER_STIGMA 1LETTER_DIGAMMA 1SMALL_LETTER_DIGAMMA 1LETTER_KOPPA 1SMALL_LETTER_KOPPA
  1LETTER_SAMPI 1SMALL_LETTER_SAMPI 0COPTIC_CAPITAL_LETTER_SHEI 1SMALL_LETTER_SHEI
  1CAPITAL_LETTER_FEI 1SMALL_LETTER_FEI 1CAPITAL_LETTER_KHEI 1SMALL_LETTER_KHEI
  1CAPITAL_LETTER_HORI 1SMALL_LETTER_HORI 1CAPITAL_LETTER_GANGIA 1SMALL_LETTER_GANGIA
  1CAPITAL_LETTER_SHIMA 1SMALL_LETTER_SHIMA 1CAPITAL_LETTER_DEI 1SMALL_LETTER_DEI
  0GREEK_KAPPA_SYMBOL 1RHO_SYMBOL 1LUNATE_SIGMA_SYMBOL 1LETTER_YOT 1CAPITAL_THETA_SYMBOL
  1LUNATE_EPSILON_SYMBOL 1REVERSED_LUNATE_EPSILON_SYMBOL 1CAPITAL_LETTER_SHO 1SMALL_LETTER_SHO
  1CAPITAL_LUNATE_SIGMA_SYMBOL 2LETTER_SAN 1SMALL_LETTER_SAN 1RHO_WITH_STROKE_SYMBOL
  1CAPITAL_REVERSED_LUNATE_SIGMA_SYMBOL 2DOTTED_LUNATE_SIGMA_SYMBOL
  2REVERSED_DOTTED_LUNATE_SIGMA_SYMBOL 0CYRILLIC_CAPITAL_LETTER_IE_WITH_GRAVE 3IO 3DJE 3GJE
  3UKRAINIAN_IE 3DZE 3BYELORUSSIAN-UKRAINIAN_I 3YI 3JE 3LJE 3NJE 3TSHE 3KJE 3I_WITH_GRAVE 3SHORT_U
  3DZHE 3A 3BE 3VE 3GHE 3DE 3IE 3ZHE 3ZE 3I 3SHORT_I 3KA 3EL 3EM 3EN 3O 3PE 3ER 3ES 3TE 3U 3EF 3HA
  3TSE 3CHE 3SHA 3SHCHA 3HARD_SIGN 3YERU 3SOFT_SIGN 3E 3YU 3YA 1SMALL_LETTER_A 3BE 3VE 3GHE 3DE
  3IE 3ZHE 3ZE 3I 3SHORT_I 3KA 3EL 3EM 3EN 3O 3PE 3ER 3ES 3TE 3U 3EF 3HA 3TSE 3CHE 3SHA 3SHCHA
  3HARD_SIGN 3YERU 3SOFT_SIGN 3E 3YU 3YA 3IE_WITH_GRAVE 3IO 3DJE 3GJE 3UKRAINIAN_IE 3DZE
  3BYELORUSSIAN-UKRAINIAN_I 3YI 3JE 3LJE 3NJE 3TSHE 3KJE 3I_WITH_GRAVE 3SHORT_U 3DZHE
  1CAPITAL_LETTER_OMEGA 1SMALL_LETTER_OMEGA 1CAPITAL_LETTER_YAT 1SMALL_LETTER_YAT
  1CAPITAL_LETTER_IOTIFIED_E 1SMALL_LETTER_IOTIFIED_E 1CAPITAL_LETTER_LITTLE_YUS
  1SMALL_LETTER_LITTLE_YUS 1CAPITAL_LETTER_IOTIFIED_LITTLE_YUS 1SMALL_LETTER_IOTIFIED_LITTLE_YUS
  1CAPITAL_LETTER_BIG_YUS 1SMALL_LETTER_BIG_YUS 1CAPITAL_LETTER_IOTIFIED_BIG_YUS
  1SMALL_LETTER_IOTIFIED_BIG_YUS 1CAPITAL_LETTER_KSI 1SMALL_LETTER_KSI 1CAPITAL_LETTER_PSI
  1SMALL_LETTER_PSI 1CAPITAL_LETTER_FITA 1SMALL_LETTER_FITA 1CAPITAL_LETTER_IZHITSA
  1SMALL_LETTER_IZHITSA 1CAPITAL_LETTER_IZHITSA_WITH_DOUBLE_GRAVE_ACCENT
  1SMALL_LETTER_IZHITSA_WITH_DOUBLE_GRAVE_ACCENT 1CAPITAL_LETTER_UK 1SMALL_LETTER_UK
  1CAPITAL_LETTER_ROUND_OMEGA 1SMALL_LETTER_ROUND_OMEGA 1CAPITAL_LETTER_OMEGA_WITH_TITLO
  1SMALL_LETTER_OMEGA_WITH_TITLO 1CAPITAL_LETTER_OT 1SMALL_LETTER_OT 1CAPITAL_LETTER_KOPPA
  1SMALL_LETTER_KOPPA 1THOUSANDS_SIGN 0COMBINING_CYRILLIC_TITLO 2PALATALIZATION 2DASIA_PNEUMATA
  2PSILI_PNEUMATA 2POKRYTIE 2HUNDRED_THOUSANDS_SIGN 2MILLIONS_SIGN
  0CYRILLIC_CAPITAL_LETTER_SHORT_I_WITH_TAIL 1SMALL_LETTER_SHORT_I_WITH_TAIL
  1CAPITAL_LETTER_SEMISOFT_SIGN 1SMALL_LETTER_SEMISOFT_SIGN 1CAPITAL_LETTER_ER_WITH_TICK
  1SMALL_LETTER_ER_WITH_TICK 1CAPITAL_LETTER_GHE_WITH_UPTURN 1SMALL_LETTER_GHE_WITH_UPTURN
  1CAPITAL_LETTER_GHE_WITH_STROKE 1SMALL_LETTER_GHE_WITH_STROKE
  1CAPITAL_LETTER_GHE_WITH_MIDDLE_HOOK 1SMALL_LETTER_GHE_WITH_MIDDLE_HOOK
  1CAPITAL_LETTER_ZHE_WITH_DESCENDER 1SMALL_LETTER_ZHE_WITH_DESCENDER
  1CAPITAL_LETTER_ZE_WITH_DESCENDER 1SMALL_LETTER_ZE_WITH_DESCENDER
  1CAPITAL_LETTER_KA_WITH_DESCENDER 1SMALL_LETTER_KA_WITH_DESCENDER
  1CAPITAL_LETTER_KA_WITH_VERTICAL_STROKE 1SMALL_LETTER_KA_WITH_VERTICAL_STROKE
  1CAPITAL_LETTER_KA_WITH_STROKE 1SMALL_LETTER_KA_WITH_STROKE 1CAPITAL_LETTER_BASHKIR_KA
  1SMALL_LETTER_BASHKIR_KA 1CAPITAL_LETTER_EN_WITH_DESCENDER 1SMALL_LETTER_EN_WITH_DESCENDER
  1CAPITAL_LIGATURE_EN_GHE 1SMALL_LIGATURE_EN_GHE 1CAPITAL_LETTER_PE_WITH_MIDDLE_HOOK
  1SMALL_LETTER_PE_WITH_MIDDLE_HOOK 1CAPITAL_LETTER_ABKHASIAN_HA 1SMALL_LETTER_ABKHASIAN_HA
  1CAPITAL_LETTER_ES_WITH_DESCENDER 1SMALL_LETTER_ES_WITH_DESCENDER
  1CAPITAL_LETTER_TE_WITH_DESCENDER 1SMALL_LETTER_TE_WITH_DESCENDER 1CAPITAL_LETTER_STRAIGHT_U
  1SMALL_LETTER_STRAIGHT_U 1CAPITAL_LETTER_STRAIGHT_U_WITH_STROKE
  1SMALL_LETTER_STRAIGHT_U_WITH_STROKE 1CAPITAL_LETTER_HA_WITH_DESCENDER
  1SMALL_LETTER_HA_WITH_DESCENDER 1CAPITAL_LIGATURE_TE_TSE 1SMALL_LIGATURE_TE_TSE
  1CAPITAL_LETTER_CHE_WITH_DESCENDER 1SMALL_LETTER_CHE_WITH_DESCENDER
  1CAPITAL_LETTER_CHE_WITH_VERTICAL_STROKE 1SMALL_LETTER_CHE_WITH_VERTICAL_STROKE
  1CAPITAL_LETTER_SHHA 1SMALL_LETTER_SHHA 1CAPITAL_LETTER_ABKHASIAN_CHE
  1SMALL_LETTER_ABKHASIAN_CHE 1CAPITAL_LETTER_ABKHASIAN_CHE_WITH_DESCENDER
  1SMALL_LETTER_ABKHASIAN_CHE_WITH_DESCENDER 1LETTER_PALOCHKA 1CAPITAL_LETTER_ZHE_WITH_BREVE
  1SMALL_LETTER_ZHE_WITH_BREVE 1CAPITAL_LETTER_KA_WITH_HOOK 1SMALL_LETTER_KA_WITH_HOOK
  1CAPITAL_LETTER_EL_WITH_TAIL 1SMALL_LETTER_EL_WITH_TAIL 1CAPITAL_LETTER_EN_WITH_HOOK
  1SMALL_LETTER_EN_WITH_HOOK 1CAPITAL_LETTER_EN_WITH_TAIL 1SMALL_LETTER_EN_WITH_TAIL
  1CAPITAL_LETTER_KHAKASSIAN_CHE 1SMALL_LETTER_KHAKASSIAN_CHE 1CAPITAL_LETTER_EM_WITH_TAIL
  1SMALL_LETTER_EM_WITH_TAIL 3PALOCHKA 1CAPITAL_LETTER_A_WITH_BREVE 1SMALL_LETTER_A_WITH_BREVE
  1CAPITAL_LETTER_A_WITH_DIAERESIS 1SMALL_LETTER_A_WITH_DIAERESIS 1CAPITAL_LIGATURE_A_IE
  1SMALL_LIGATURE_A_IE 1CAPITAL_LETTER_IE_WITH_BREVE 1SMALL_LETTER_IE_WITH_BREVE
  1CAPITAL_LETTER_SCHWA 1SMALL_LETTER_SCHWA 1CAPITAL_LETTER_SCHWA_WITH_DIAERESIS
  1SMALL_LETTER_SCHWA_WITH_DIAERESIS 1CAPITAL_LETTER_ZHE_WITH_DIAERESIS
  1SMALL_LETTER_ZHE_WITH_DIAERESIS 1CAPITAL_LETTER_ZE_WITH_DIAERESIS
  1SMALL_LETTER_ZE_WITH_DIAERESIS 1CAPITAL_LETTER_ABKHASIAN_DZE 1SMALL_LETTER_ABKHASIAN_DZE
  1CAPITAL_LETTER_I_WITH_MACRON 1SMALL_LETTER_I_WITH_MACRON 1CAPITAL_LETTER_I_WITH_DIAERESIS
  1SMALL_LETTER_I_WITH_DIAERESIS 1CAPITAL_LETTER_O_WITH_DIAERESIS 1SMALL_LETTER_O_WITH_DIAERESIS
  1CAPITAL_LETTER_BARRED_O 1SMALL_LETTER_BARRED_O 1CAPITAL_LETTER_BARRED_O_WITH_DIAERESIS
  1SMALL_LETTER_BARRED_O_WITH_DIAERESIS 1CAPITAL_LETTER_E_WITH_DIAERESIS
  1SMALL_LETTER_E_WITH_DIAERESIS 1CAPITAL_LETTER_U_WITH_MACRON 1SMALL_LETTER_U_WITH_MACRON
  1CAPITAL_LETTER_U_WITH_DIAERESIS 1SMALL_LETTER_U_WITH_DIAERESIS
  1CAPITAL_LETTER_U_WITH_DOUBLE_ACUTE 1SMALL_LETTER_U_WITH_DOUBLE_ACUTE
  1CAPITAL_LETTER_CHE_WITH_DIAERESIS 1SMALL_LETTER_CHE_WITH_DIAERESIS
  1CAPITAL_LETTER_GHE_WITH_DESCENDER 1SMALL_LETTER_GHE_WITH_DESCENDER
  1CAPITAL_LETTER_YERU_WITH_DIAERESIS 1SMALL_LETTER_YERU_WITH_DIAERESIS
  1CAPITAL_LETTER_GHE_WITH_STROKE_AND_HOOK 1SMALL_LETTER_GHE_WITH_STROKE_AND_HOOK
  1CAPITAL_LETTER_HA_WITH_HOOK 1SMALL_LETTER_HA_WITH_HOOK 1CAPITAL_LETTER_HA_WITH_STROKE
  1SMALL_LETTER_HA_WITH_STROKE 1CAPITAL_LETTER_KOMI_DE 1SMALL_LETTER_KOMI_DE
  1CAPITAL_LETTER_KOMI_DJE 1SMALL_LETTER_KOMI_DJE 1CAPITAL_LETTER_KOMI_ZJE 1SMALL_LETTER_KOMI_ZJE
  1CAPITAL_LETTER_KOMI_DZJE 1SMALL_LETTER_KOMI_DZJE 1CAPITAL_LETTER_KOMI_LJE
  1SMALL_LETTER_KOMI_LJE 1CAPITAL_LETTER_KOMI_NJE 1SMALL_LETTER_KOMI_NJE 1CAPITAL_LETTER_KOMI_SJE
  1SMALL_LETTER_KOMI_SJE 1CAPITAL_LETTER_KOMI_TJE 1SMALL_LETTER_KOMI_TJE
  1CAPITAL_LETTER_REVERSED_ZE 1SMALL_LETTER_REVERSED_ZE 1CAPITAL_LETTER_EL_WITH_HOOK
  1SMALL_LETTER_EL_WITH_HOOK 1CAPITAL_LETTER_LHA 1SMALL_LETTER_LHA 1CAPITAL_LETTER_RHA
  1SMALL_LETTER_RHA 1CAPITAL_LETTER_YAE 1SMALL_LETTER_YAE 1CAPITAL_LETTER_QA 1SMALL_LETTER_QA
  1CAPITAL_LETTER_WE 1SMALL_LETTER_WE 1CAPITAL_LETTER_ALEUT_KA 1SMALL_LETTER_ALEUT_KA
  1CAPITAL_LETTER_EL_WITH_MIDDLE_HOOK 1SMALL_LETTER_EL_WITH_MIDDLE_HOOK
  1CAPITAL_LETTER_EN_WITH_MIDDLE_HOOK 1SMALL_LETTER_EN_WITH_MIDDLE_HOOK
  1CAPITAL_LETTER_PE_WITH_DESCENDER 1SMALL_LETTER_PE_WITH_DESCENDER
  1CAPITAL_LETTER_SHHA_WITH_DESCENDER 1SMALL_LETTER_SHHA_WITH_DESCENDER
  1CAPITAL_LETTER_EN_WITH_LEFT_HOOK 1SMALL_LETTER_EN_WITH_LEFT_HOOK 1CAPITAL_LETTER_DZZHE
  1SMALL_LETTER_DZZHE 1CAPITAL_LETTER_DCHE 1SMALL_LETTER_DCHE 1CAPITAL_LETTER_EL_WITH_DESCENDER
  1SMALL_LETTER_EL_WITH_DESCENDER =531 0ARMENIAN_CAPITAL_LETTER_AYB 3BEN 3GIM 3DA 3ECH 3ZA 3EH 3ET
  3TO 3ZHE 3INI 3LIWN 3XEH 3CA 3KEN 3HO 3JA 3GHAD 3CHEH 3MEN 3YI 3NOW 3SHA 3VO 3CHA 3PEH 3JHEH 3RA
  3SEH 3VEW 3TIWN 3REH 3CO 3YIWN 3PIWR 3KEH 3OH 3FEH =559 1MODIFIER_LETTER_LEFT_HALF_RING
  1APOSTROPHE 1EMPHASIS_MARK 1EXCLAMATION_MARK 1COMMA 1QUESTION_MARK 1ABBREVIATION_MARK
  1SMALL_LETTER_TURNED_AYB 3AYB 3BEN 3GIM 3DA 3ECH 3ZA 3EH 3ET 3TO 3ZHE 3INI 3LIWN 3XEH 3CA 3KEN
  3HO 3JA 3GHAD 3CHEH 3MEN 3YI 3NOW 3SHA 3VO 3CHA 3PEH 3JHEH 3RA 3SEH 3VEW 3TIWN 3REH 3CO 3YIWN
  3PIWR 3KEH 3OH 3FEH 2LIGATURE_ECH_YIWN 2LETTER_YI_WITH_STROKE 1FULL_STOP 1HYPHEN =58d
  0RIGHT-FACING_ARMENIAN_ETERNITY_SIGN 0LEFT-FACING_ARMENIAN_ETERNITY_SIGN 0ARMENIAN_DRAM_SIGN
  =591 0HEBREW_ACCENT_ETNAHTA 2SEGOL 2SHALSHELET 2ZAQEF_QATAN 3GADOL 2TIPEHA 2REVIA 2ZARQA 2PASHTA
  2YETIV 2TEVIR 2GERESH 3MUQDAM 2GERSHAYIM 2QARNEY_PARA 2TELISHA_GEDOLA 2PAZER 2ATNAH_HAFUKH
  2MUNAH 2MAHAPAKH 2MERKHA 3KEFULA 2DARGA 2QADMA 2TELISHA_QETANA 2YERAH_BEN_YOMO 2OLE 2ILUY 2DEHI
  2ZINOR 1MARK_MASORA_CIRCLE 1POINT_SHEVA 2HATAF_SEGOL 3PATAH 3QAMATS 2HIRIQ 2TSERE 2SEGOL 2PATAH
  2QAMATS 2HOLAM 3HASER_FOR_VAV 2QUBUTS 2DAGESH_OR_MAPIQ 2METEG 1PUNCTUATION_MAQAF 1POINT_RAFE
  1PUNCTUATION_PASEQ 1POINT_SHIN_DOT 2SIN_DOT 1PUNCTUATION_SOF_PASUQ 1MARK_UPPER_DOT 2LOWER_DOT
  1PUNCTUATION_NUN_HAFUKHA 1POINT_QAMATS_QATAN =5d0 1LETTER_ALEF 2BET 2GIMEL 2DALET 2HE 2VAV
  2ZAYIN 2HET 2TET 2YOD 2FINAL_KAF 2KAF 2LAMED 2FINAL_MEM 2MEM 2FINAL_NUN 2NUN 2SAMEKH 2AYIN
  2FINAL_PE 2PE 2FINAL_TSADI 2TSADI 2QOF 2RESH 2SHIN 2TAV =5ef 1YOD_TRIANGLE
  1LIGATURE_YIDDISH_DOUBLE_VAV 3VAV_YOD 3DOUBLE_YOD 1PUNCTUATION_GERESH 2GERSHAYIM =600
  0ARABIC_NUMBER_SIGN 1SIGN_SANAH 1FOOTNOTE_MARKER 1SIGN_SAFHA 2SAMVAT 1NUMBER_MARK_ABOVE
  0ARABIC-INDIC_CUBE_ROOT 1FOURTH_ROOT 0ARABIC_RAY 0ARABIC-INDIC_PER_MILLE_SIGN 2TEN_THOUSAND_SIGN
  0AFGHANI_SIGN 0ARABIC_COMMA 1DATE_SEPARATOR 1POETIC_VERSE_SIGN 1SIGN_MISRA
  2SALLALLAHOU_ALAYHE_WASSALLAM 2ALAYHE_ASSALLAM 2RAHMATULLAH_ALAYHE 2RADI_ALLAHOU_ANHU 2TAKHALLUS
  1SMALL_HIGH_TAH 3LIGATURE_ALEF_WITH_LAM_WITH_YEH 3ZAIN 2FATHA 2DAMMA 2KASRA 1SEMICOLON
  1LETTER_MARK 1END_OF_TEXT_MARK 1TRIPLE_DOT_PUNCTUATION_MARK 1QUESTION_MARK 1LETTER_KASHMIRI_YEH
  2HAMZA 2ALEF_WITH_MADDA_ABOVE 4HAMZA_ABOVE 2WAW_WITH_HAMZA_ABOVE 2ALEF_WITH_HAMZA_BELOW
  2YEH_WITH_HAMZA_ABOVE 2ALEF 2BEH 2TEH_MARBUTA 3 2THEH 2JEEM 2HAH 2KHAH 2DAL 2THAL 2REH 2ZAIN
  2SEEN 2SHEEN 2SAD 2DAD 2TAH 2ZAH 2AIN 2GHAIN 2KEHEH_WITH_TWO_DOTS_ABOVE 4THREE_DOTS_BELOW
  2FARSI_YEH_WITH_INVERTED_V 5TWO_DOTS_ABOVE 5THREE_DOTS_ABOVE 1TATWEEL 1LETTER_FEH 2QAF 2KAF 2LAM
  2MEEM 2NOON 2HEH 2WAW 2ALEF_MAKSURA 2YEH 1FATHATAN 1DAMMATAN 1KASRATAN 1FATHA 1DAMMA 1KASRA
  1SHADDA 1SUKUN 1MADDAH_ABOVE 1HAMZA_ABOVE 2BELOW 1SUBSCRIPT_ALEF 1INVERTED_DAMMA
  1MARK_NOON_GHUNNA 1ZWARAKAY 1VOWEL_SIGN_SMALL_V_ABOVE 3INVERTED_SMALL_V_ABOVE 3DOT_BELOW
  1REVERSED_DAMMA 1FATHA_WITH_TWO_DOTS 1WAVY_HAMZA_BELOW 0ARABIC-INDIC_DIGIT_ZERO 2ONE 2TWO 2THREE
  2FOUR 2FIVE 2SIX 2SEVEN 2EIGHT 2NINE 0ARABIC_PERCENT_SIGN 1DECIMAL_SEPARATOR
  1THOUSANDS_SEPARATOR 1FIVE_POINTED_STAR 1LETTER_DOTLESS_BEH 3QAF 2SUPERSCRIPT_ALEF 2ALEF_WASLA
  3WITH_WAVY_HAMZA_ABOVE 6BELOW 2HIGH_HAMZA 4ALEF 4WAW 2U_WITH_HAMZA_ABOVE 2HIGH_HAMZA_YEH 2TTEH
  2TTEHEH 2BEEH 2TEH_WITH_RING 4THREE_DOTS_ABOVE_DOWNWARDS 2PEH 2TEHEH 2BEHEH
  2HAH_WITH_HAMZA_ABOVE 4TWO_DOTS_VERTICAL_ABOVE 2NYEH 2DYEH 2HAH_WITH_THREE_DOTS_ABOVE 2TCHEH
  2TCHEHEH 2DDAL 2DAL_WITH_RING 4DOT_BELOW 6AND_SMALL_TAH 2DAHAL 2DDAHAL 2DUL
  2DAL_WITH_THREE_DOTS_ABOVE_DOWNWARDS 4FOUR_DOTS_ABOVE 2RREH 2REH_WITH_SMALL_V 4RING 4DOT_BELOW
  4SMALL_V_BELOW 4DOT_BELOW_AND_DOT_ABOVE 4TWO_DOTS_ABOVE 2JEH 2REH_WITH_FOUR_DOTS_ABOVE
  2SEEN_WITH_DOT_BELOW_AND_DOT_ABOVE 4THREE_DOTS_BELOW 7AND_THREE_DOTS_ABOVE
  2SAD_WITH_TWO_DOTS_BELOW 4THREE_DOTS_ABOVE 2TAH_WITH_THREE_DOTS_ABOVE 2AIN_WITH_THREE_DOTS_ABOVE
  2DOTLESS_FEH 2FEH_WITH_DOT_MOVED_BELOW 5BELOW 2VEH 2FEH_WITH_THREE_DOTS_BELOW 2PEHEH
  2QAF_WITH_DOT_ABOVE 4THREE_DOTS_ABOVE 2KEHEH 2SWASH_KAF 2KAF_WITH_RING 4DOT_ABOVE 2NG
  2KAF_WITH_THREE_DOTS_BELOW 2GAF 3WITH_RING 2NGOEH 2GAF_WITH_TWO_DOTS_BELOW 2GUEH
  2GAF_WITH_THREE_DOTS_ABOVE 2LAM_WITH_SMALL_V 4DOT_ABOVE 4THREE_DOTS_ABOVE 6BELOW
  2NOON_WITH_DOT_BELOW 3GHUNNA 2RNOON 2NOON_WITH_RING 4THREE_DOTS_ABOVE 2HEH_DOACHASHMEE
  2TCHEH_WITH_DOT_ABOVE 2HEH_WITH_YEH_ABOVE 3GOAL 4WITH_HAMZA_ABOVE 2TEH_MARBUTA_GOAL
  2WAW_WITH_RING 2KIRGHIZ_OE 2OE 2U 2YU 2KIRGHIZ_YU 2WAW_WITH_TWO_DOTS_ABOVE 2VE 2FARSI_YEH
  2YEH_WITH_TAIL 4SMALL_V 2WAW_WITH_DOT_ABOVE 2E 2YEH_WITH_THREE_DOTS_BELOW 3BARREE
  4WITH_HAMZA_ABOVE 1FULL_STOP 1LETTER_AE 1SMALL_HIGH_LIGATURE_SAD_WITH_LAM_WITH_ALEF_MAKSURA
  4QAF_WITH_LAM_WITH_ALEF_MAKSURA 3MEEM_INITIAL_FORM 3LAM_ALEF 3JEEM 3THREE_DOTS 3SEEN
  1END_OF_AYAH 1START_OF_RUB_EL_HIZB 1SMALL_HIGH_ROUNDED_ZERO 3UPRIGHT_RECTANGULAR_ZERO
  3DOTLESS_HEAD_OF_KHAH 3MEEM_ISOLATED_FORM 2LOW_SEEN 2HIGH_MADDA 2WAW 2YEH 2HIGH_YEH 3NOON
  1PLACE_OF_SAJDAH 1EMPTY_CENTRE_LOW_STOP 3HIGH_STOP 1ROUNDED_HIGH_STOP_WITH_FILLED_CENTRE
  1SMALL_LOW_MEEM 1LETTER_DAL_WITH_INVERTED_V 2REH_WITH_INVERTED_V
  0EXTENDED_ARABIC-INDIC_DIGIT_ZERO 3ONE 3TWO 3THREE 3FOUR 3FIVE 3SIX 3SEVEN 3EIGHT 3NINE
  0ARABIC_LETTER_SHEEN_WITH_DOT_BELOW 2DAD_WITH_DOT_BELOW 2GHAIN_WITH_DOT_BELOW
  1SIGN_SINDHI_AMPERSAND 3POSTPOSITION_MEN 1LETTER_HEH_WITH_INVERTED_V 0SYRIAC_END_OF_PARAGRAPH
  1SUPRALINEAR_FULL_STOP 1SUBLINEAR_FULL_STOP 1SUPRALINEAR_COLON 1SUBLINEAR_COLON
  1HORIZONTAL_COLON 1COLON_SKEWED_LEFT 3RIGHT 1SUPRALINEAR_COLON_SKEWED_LEFT
  1SUBLINEAR_COLON_SKEWED_RIGHT 1CONTRACTION 1HARKLEAN_OBELUS 2METOBELUS 2ASTERISCUS =70f
  1ABBREVIATION_MARK 1LETTER_ALAPH 2SUPERSCRIPT_ALAPH 2BETH 2GAMAL 3GARSHUNI 2DALATH
  2DOTLESS_DALATH_RISH 2HE 2WAW 2ZAIN 2HETH 2TETH 3GARSHUNI 2YUDH 3HE 2KAPH 2LAMADH 2MIM 2NUN
  2SEMKATH 2FINAL_SEMKATH 2E 2PE 2REVERSED_PE 2SADHE 2QAPH 2RISH 2SHIN 2TAW 2PERSIAN_BHETH 3GHAMAL
  3DHALATH 1PTHAHA_ABOVE 2BELOW 2DOTTED 1ZQAPHA_ABOVE 2BELOW 2DOTTED 1RBASA_ABOVE 2BELOW
  1DOTTED_ZLAMA_HORIZONTAL 3ANGULAR 1HBASA_ABOVE 2BELOW 1HBASA-ESASA_DOTTED 1ESASA_ABOVE 2BELOW
  1RWAHA 1FEMININE_DOT 1QUSHSHAYA 1RUKKAKHA 1TWO_VERTICAL_DOTS_ABOVE 4BELOW 1THREE_DOTS_ABOVE
  3BELOW 1OBLIQUE_LINE_ABOVE 3BELOW 1MUSIC 1BARREKH =74d 1LETTER_SOGDIAN_ZHAIN 3KHAPH 3FE
  0ARABIC_LETTER_BEH_WITH_THREE_DOTS_HORIZONTALLY_BELOW 4DOT_BELOW_AND_THREE_DOTS_ABOVE
  4THREE_DOTS_POINTING_UPWARDS_BELOW 9AND_TWO_DOTS_ABOVE 4TWO_DOTS_BELOW_AND_DOT_ABOVE
  4INVERTED_SMALL_V_BELOW 4SMALL_V 2HAH_WITH_TWO_DOTS_ABOVE 4THREE_DOTS_POINTING_UPWARDS_BELOW
  2DAL_WITH_TWO_DOTS_VERTICALLY_BELOW_AND_SMALL_TAH 4INVERTED_SMALL_V_BELOW 2REH_WITH_STROKE
  2SEEN_WITH_FOUR_DOTS_ABOVE 2AIN_WITH_TWO_DOTS_ABOVE 4THREE_DOTS_POINTING_DOWNWARDS_ABOVE
  4TWO_DOTS_VERTICALLY_ABOVE 2FEH_WITH_TWO_DOTS_BELOW 4THREE_DOTS_POINTING_UPWARDS_BELOW
  2KEHEH_WITH_DOT_ABOVE 4THREE_DOTS_ABOVE 6POINTING_UPWARDS_BELOW 2MEEM_WITH_DOT_ABOVE 5BELOW
  2NOON_WITH_TWO_DOTS_BELOW 4SMALL_TAH 5V 2LAM_WITH_BAR 2REH_WITH_TWO_DOTS_VERTICALLY_ABOVE
  4HAMZA_ABOVE 2SEEN_WITH_TWO_DOTS_VERTICALLY_ABOVE 2HAH_WITH_SMALL_ARABIC_LETTER_TAH_BELOW
  8AND_TWO_DOTS 2SEEN_WITH_SMALL_ARABIC_LETTER_TAH_AND_TWO_DOTS
  2REH_WITH_SMALL_ARABIC_LETTER_TAH_AND_TWO_DOTS 2HAH_WITH_SMALL_ARABIC_LETTER_TAH_ABOVE
  2ALEF_WITH_EXTENDED_ARABIC-INDIC_DIGIT_TWO_ABOVE 7THREE_ABOVE
  2FARSI_YEH_WITH_EXTENDED_ARABIC-INDIC_DIGIT_TWO_ABOVE 8THREE_ABOVE 8FOUR_BELOW
  2WAW_WITH_EXTENDED_ARABIC-INDIC_DIGIT_TWO_ABOVE 7THREE_ABOVE
  2YEH_BARREE_WITH_EXTENDED_ARABIC-INDIC_DIGIT_TWO_ABOVE 8THREE_ABOVE
  2HAH_WITH_EXTENDED_ARABIC-INDIC_DIGIT_FOUR_BELOW
  2SEEN_WITH_EXTENDED_ARABIC-INDIC_DIGIT_FOUR_ABOVE 4INVERTED_V 2KAF_WITH_TWO_DOTS_ABOVE
  0THAANA_LETTER_HAA 2SHAVIYANI 2NOONU 2RAA 2BAA 2LHAVIYANI 2KAAFU 2ALIFU 2VAAVU 2MEEMU 2FAAFU
  2DHAALU 2THAA 2LAAMU 2GAAFU 2GNAVIYANI 2SEENU 2DAVIYANI 2ZAVIYANI 2TAVIYANI 2YAA 2PAVIYANI
  2JAVIYANI 2CHAVIYANI 2TTAA 2HHAA 2KHAA 2THAALU 2ZAA 2SHEENU 2SAADHU 2DAADHU 2TO 2ZO 2AINU
  2GHAINU 2QAAFU 2WAAVU 1ABAFILI 1AABAAFILI 1IBIFILI 1EEBEEFILI 1UBUFILI 1OOBOOFILI 1EBEFILI
  1EYBEYFILI 1OBOFILI 1OABOAFILI 1SUKUN 1LETTER_NAA =7c0 0NKO_DIGIT_ZERO 2ONE 2TWO 2THREE 2FOUR
  2FIVE 2SIX 2SEVEN 2EIGHT 2NINE 1LETTER_A 2EE 2I 2E 2U 2OO 2O 2DAGBASINNA 2N 2BA 2PA 2TA 2JA 2CHA
  2DA 2RA 2RRA 2SA 2GBA 2FA 2KA 2LA 2NA_WOLOSO 2MA 2NYA 2NA 2HA 2WA 2YA 2NYA_WOLOSO 2JONA_JA 3CHA
  3RA 1COMBINING_SHORT_HIGH_TONE 3LOW_TONE 3RISING_TONE 2LONG_DESCENDING_TONE 3HIGH_TONE 3LOW_TONE
  3RISING_TONE 2NASALIZATION_MARK 2DOUBLE_DOT_ABOVE 1HIGH_TONE_APOSTROPHE 1LOW_TONE_APOSTROPHE
  1SYMBOL_OO_DENNEN 2GBAKURUNEN 1COMMA 1EXCLAMATION_MARK 1LAJANYALAN =7fd 1DANTAYALAN 1DOROME_SIGN
  1TAMAN_SIGN 0SAMARITAN_LETTER_ALAF 2BIT 2GAMAN 2DALAT 2IY 2BAA 2ZEN 2IT 2TIT 2YUT 2KAAF 2LABAT
  2MIM 2NUN 2SINGAAT 2IN 2FI 2TSAADIY 2QUF 2RISH 2SHAN 2TAAF 1MARK_IN 2IN-ALAF 2OCCLUSION 2DAGESH
  1MODIFIER_LETTER_EPENTHETIC_YUT 1MARK_EPENTHETIC_YUT 1VOWEL_SIGN_LONG_E 3E 3OVERLONG_AA 3LONG_AA
  3AA 3OVERLONG_A 3LONG_A 3A 1MODIFIER_LETTER_SHORT_A 1VOWEL_SIGN_SHORT_A 3LONG_U 3U
  1MODIFIER_LETTER_I 1VOWEL_SIGN_LONG_I 3I 3O 3SUKUN 1MARK_NEQUDAA =830 1PUNCTUATION_NEQUDAA
  2AFSAAQ 2ANGED 2BAU 2ATMAAU 2SHIYYAALAA 1ABBREVIATION_MARK 1PUNCTUATION_MELODIC_QITSA 2ZIQAA
  2QITSA 2ZAEF 2TURU 2ARKAANU 2SOF_MASHFAAT 2ANNAAU =840 0MANDAIC_LETTER_HALQA 2AB 2AG 2AD 2AH
  2USHENNA 2AZ 2IT 2ATT 2AKSA 2AK 2AL 2AM 2AN 2AS 2IN 2AP 2ASZ 2AQ 2AR 2ASH 2AT 2DUSHENNA 2KAD
  2AIN 1AFFRICATION_MARK 1VOCALIZATION_MARK 1GEMINATION_MARK =85e 1PUNCTUATION =860
  0SYRIAC_LETTER_MALAYALAM_NGA 3JA 3NYA 3TTA 3NNA 3NNNA 3BHA 3RA 3LLA 3LLLA 3SSA =870
  0ARABIC_LETTER_ALEF_WITH_ATTACHED_FATHA 5TOP_RIGHT_FATHA 4RIGHT_MIDDLE_STROKE
  4LEFT_MIDDLE_STROKE 4ATTACHED_KASRA 5BOTTOM_RIGHT_KASRA 5ROUND_DOT_ABOVE 5RIGHT_ROUND_DOT
  5LEFT_ROUND_DOT 5ROUND_DOT_BELOW 4DOT_ABOVE 4ATTACHED_TOP_RIGHT_FATHA_AND_DOT_ABOVE
  4RIGHT_MIDDLE_STROKE_AND_DOT_ABOVE 4ATTACHED_BOTTOM_RIGHT_KASRA_AND_DOT_ABOVE
  5TOP_RIGHT_FATHA_AND_LEFT_RING 4RIGHT_MIDDLE_STROKE_AND_LEFT_RING
  4ATTACHED_BOTTOM_RIGHT_KASRA_AND_LEFT_RING 5RIGHT_HAMZA 5LEFT_HAMZA
  1TATWEEL_WITH_OVERSTRUCK_HAMZA 4WAW 3TWO_DOTS_BELOW 1LETTER_THIN_YEH 1BASELINE_ROUND_DOT
  1RAISED_ROUND_DOT 1LETTER_NOON_WITH_INVERTED_SMALL_V 2HAH_WITH_INVERTED_SMALL_V_BELOW
  2TAH_WITH_DOT_BELOW 4THREE_DOTS_BELOW 2KEHEH_WITH_TWO_DOTS_VERTICALLY_BELOW 1VERTICAL_TAIL =890
  1POUND_MARK_ABOVE 1PIASTRE_MARK_ABOVE =898 1SMALL_HIGH_WORD_AL-JUZ 2LOW_WORD_ISHMAAM 4IMAALA
  4TASHEEL 1MADDA_WAAJIB 1SUPERSCRIPT_ALEF_MOKHASSAS 1DOUBLED_MADDA 1HALF_MADDA_OVER_MADDA
  1LETTER_BEH_WITH_SMALL_V_BELOW 4HAMZA_ABOVE 2JEEM_WITH_TWO_DOTS_ABOVE 2TAH_WITH_TWO_DOTS_ABOVE
  2FEH_WITH_DOT_BELOW_AND_THREE_DOTS_ABOVE 2QAF_WITH_DOT_BELOW 2LAM_WITH_DOUBLE_BAR
  2MEEM_WITH_THREE_DOTS_ABOVE 2YEH_WITH_TWO_DOTS_BELOW_AND_HAMZA_ABOVE 8DOT_ABOVE 2REH_WITH_LOOP
  2WAW_WITH_DOT_WITHIN 2ROHINGYA_YEH 2LOW_ALEF 2DAL_WITH_THREE_DOTS_BELOW
  2SAD_WITH_THREE_DOTS_BELOW 2GAF_WITH_INVERTED_STROKE 2STRAIGHT_WAW 2ZAIN_WITH_INVERTED_V_ABOVE
  2AIN_WITH_THREE_DOTS_BELOW 2KAF_WITH_DOT_BELOW 2QAF_WITH_DOT_BELOW_AND_NO_DOTS_ABOVE
  2BEH_WITH_SMALL_MEEM_ABOVE 2PEH_WITH_SMALL_MEEM_ABOVE 2TEH_WITH_SMALL_TEH_ABOVE
  2REH_WITH_SMALL_NOON_ABOVE 2YEH_WITH_TWO_DOTS_BELOW_AND_SMALL_NOON_ABOVE 2AFRICAN_FEH 3QAF 3NOON
  2PEH_WITH_SMALL_V 2TEH_WITH_SMALL_V 2TTEH_WITH_SMALL_V 2TCHEH_WITH_SMALL_V 2KEHEH_WITH_SMALL_V
  2GHAIN_WITH_THREE_DOTS_ABOVE 2AFRICAN_QAF_WITH_THREE_DOTS_ABOVE 2JEEM_WITH_THREE_DOTS_ABOVE
  6BELOW 2LAM_WITH_SMALL_ARABIC_LETTER_TAH_ABOVE 2GRAF 1SMALL_FARSI_YEH 2HIGH_FARSI_YEH
  3YEH_BARREE_WITH_TWO_DOTS_BELOW 3WORD_SAH 3ZAH 1LARGE_ROUND_DOT_ABOVE 4BELOW 1SUKUN_BELOW
  1LARGE_CIRCLE_BELOW 2ROUND_DOT_INSIDE_CIRCLE_BELOW 1SMALL_LOW_WAW 2HIGH_WORD_AR-RUB 3SAD 3AIN
  3QAF 3NOON_WITH_KASRA 2LOW_NOON_WITH_KASRA 2HIGH_WORD_ATH-THALATHA 4AS-SAJDA 4AN-NISF 4SAKTA
  4QIF 4WAQFA 3FOOTNOTE_MARKER 3SIGN_SAFHA 1DISPUTED_END_OF_AYAH 1TURNED_DAMMA_BELOW 1CURLY_FATHA
  2DAMMA 2KASRA 2FATHATAN 2DAMMATAN 2KASRATAN 1TONE_ONE_DOT_ABOVE 2TWO_DOTS_ABOVE 2LOOP_ABOVE
  2ONE_DOT_BELOW 2TWO_DOTS_BELOW 2LOOP_BELOW 1OPEN_FATHATAN 2DAMMATAN 2KASRATAN 1SMALL_HIGH_WAW
  1FATHA_WITH_RING 3DOT_ABOVE 1KASRA_WITH_DOT_BELOW 1LEFT_ARROWHEAD_ABOVE 1RIGHT_ARROWHEAD_ABOVE
  1LEFT_ARROWHEAD_BELOW 1RIGHT_ARROWHEAD_BELOW 1DOUBLE_RIGHT_ARROWHEAD_ABOVE 5WITH_DOT
  1RIGHT_ARROWHEAD_ABOVE_WITH_DOT 1DAMMA_WITH_DOT 1MARK_SIDEWAYS_NOON_GHUNNA
  0DEVANAGARI_SIGN_INVERTED_CANDRABINDU 2CANDRABINDU 2ANUSVARA 2VISARGA 1LETTER_SHORT_A 2A 2AA 2I
  2II 2U 2UU 2VOCALIC_R 3L 2CANDRA_E 2SHORT_E 2E 2AI 2CANDRA_O 2SHORT_O 2O 2AU 2KA 2KHA 2GA 2GHA
  2NGA 2CA 2CHA 2JA 2JHA 2NYA 2TTA 2TTHA 2DDA 2DDHA 2NNA 2TA 2THA 2DA 2DHA 2NA 2NNNA 2PA 2PHA 2BA
  2BHA 2MA 2YA 2RA 2RRA 2LA 2LLA 2LLLA 2VA 2SHA 2SSA 2SA 2HA 1VOWEL_SIGN_OE 3OOE 1SIGN_NUKTA
  2AVAGRAHA 1VOWEL_SIGN_AA 3I 3II 3U 3UU 3VOCALIC_R 4RR 3CANDRA_E 3SHORT_E 3E 3AI 3CANDRA_O
  3SHORT_O 3O 3AU 1SIGN_VIRAMA 1VOWEL_SIGN_PRISHTHAMATRA_E 3AW 1OM 1STRESS_SIGN_UDATTA 3ANUDATTA
  1GRAVE_ACCENT 1ACUTE_ACCENT 1VOWEL_SIGN_CANDRA_LONG_E 3UE 3UUE 1LETTER_QA 2KHHA 2GHHA 2ZA 2DDDHA
  2RHA 2FA 2YYA 2VOCALIC_RR 3LL 1VOWEL_SIGN_VOCALIC_L 4LL 1DANDA 1DOUBLE_DANDA 1DIGIT_ZERO 2ONE
  2TWO 2THREE 2FOUR 2FIVE 2SIX 2SEVEN 2EIGHT 2NINE 1ABBREVIATION_SIGN 1SIGN_HIGH_SPACING_DOT
  1LETTER_CANDRA_A 2OE 2OOE 2AW 2UE 2UUE 2MARWARI_DDA 2ZHA 2HEAVY_YA 2GGA 2JJA 2GLOTTAL_STOP 2DDDA
  2BBA 0BENGALI_ANJI 1SIGN_CANDRABINDU 2ANUSVARA 2VISARGA =985 1LETTER_A 2AA 2I 2II 2U 2UU
  2VOCALIC_R 3L =98f 2E 2AI =993 2O 2AU 2KA 2KHA 2GA 2GHA 2NGA 2CA 2CHA 2JA 2JHA 2NYA 2TTA 2TTHA
  2DDA 2DDHA 2NNA 2TA 2THA 2DA 2DHA 2NA =9aa 2PA 2PHA 2BA 2BHA 2MA 2YA 2RA =9b2 2LA =9b6 2SHA 2SSA
  2SA 2HA =9bc 1SIGN_NUKTA 2AVAGRAHA 1VOWEL_SIGN_AA 3I 3II 3U 3UU 3VOCALIC_R 4RR =9c7 3E 3AI =9cb
  3O 3AU 1SIGN_VIRAMA 1LETTER_KHANDA_TA =9d7 1AU_LENGTH_MARK =9dc 1LETTER_RRA 2RHA =9df 2YYA
  2VOCALIC_RR 3LL 1VOWEL_SIGN_VOCALIC_L 4LL =9e6 1DIGIT_ZERO 2ONE 2TWO 2THREE 2FOUR 2FIVE 2SIX
  2SEVEN 2EIGHT 2NINE 1LETTER_RA_WITH_MIDDLE_DIAGONAL 4LOWER_DIAGONAL 1RUPEE_MARK 2SIGN
  1CURRENCY_NUMERATOR_ONE 3TWO 3THREE 3FOUR 3ONE_LESS_THAN_THE_DENOMINATOR 2DENOMINATOR_SIXTEEN
  1ISSHAR 1GANDA_MARK 1LETTER_VEDIC_ANUSVARA 1ABBREVIATION_SIGN 1SANDHI_MARK =a01
  0GURMUKHI_SIGN_ADAK_BINDI 2BINDI 2VISARGA =a05 1LETTER_A 2AA 2I 2II 2U 2UU =a0f 2EE 2AI =a13 2OO
  2AU 2KA 2KHA 2GA 2GHA 2NGA 2CA 2CHA 2JA 2JHA 2NYA 2TTA 2TTHA 2DDA 2DDHA 2NNA 2TA 2THA 2DA 2DHA
  2NA =a2a 2PA 2PHA 2BA 2BHA 2MA 2YA 2RA =a32 2LA 2LLA =a35 2VA 2SHA =a38 2SA 2HA =a3c 1SIGN_NUKTA
  =a3e 1VOWEL_SIGN_AA 3I 3II 3U 3UU =a47 3EE 3AI =a4b 3OO 3AU 1SIGN_VIRAMA =a51 2UDAAT =a59
  1LETTER_KHHA 2GHHA 2ZA 2RRA =a5e 2FA =a66 1DIGIT_ZERO 2ONE 2TWO 2THREE 2FOUR 2FIVE 2SIX 2SEVEN
  2EIGHT 2NINE 1TIPPI 1ADDAK 1IRI 1URA 1EK_ONKAR 1SIGN_YAKASH 1ABBREVIATION_SIGN =a81
  0GUJARATI_SIGN_CANDRABINDU 2ANUSVARA 2VISARGA =a85 1LETTER_A 2AA 2I 2II 2U 2UU 2VOCALIC_R 3L
  1VOWEL_CANDRA_E =a8f 1LETTER_E 2AI 1VOWEL_CANDRA_O =a93 1LETTER_O 2AU 2KA 2KHA 2GA 2GHA 2NGA 2CA
  2CHA 2JA 2JHA 2NYA 2TTA 2TTHA 2DDA 2DDHA 2NNA 2TA 2THA 2DA 2DHA 2NA =aaa 2PA 2PHA 2BA 2BHA 2MA
  2YA 2RA =ab2 2LA 2LLA =ab5 2VA 2SHA 2SSA 2SA 2HA =abc 1SIGN_NUKTA 2AVAGRAHA 1VOWEL_SIGN_AA 3I
  3II 3U 3UU 3VOCALIC_R 4RR 3CANDRA_E =ac7 3E 3AI 3CANDRA_O =acb 3O 3AU 1SIGN_VIRAMA =ad0 1OM =ae0
  1LETTER_VOCALIC_RR 3LL 1VOWEL_SIGN_VOCALIC_L 4LL =ae6 1DIGIT_ZERO 2ONE 2TWO 2THREE 2FOUR 2FIVE
  2SIX 2SEVEN 2EIGHT 2NINE 1ABBREVIATION_SIGN 1RUPEE_SIGN =af9 1LETTER_ZHA 1SIGN_SUKUN 2SHADDA
  2MADDAH 2THREE-DOT_NUKTA_ABOVE 2CIRCLE_NUKTA_ABOVE 2TWO-CIRCLE_NUKTA_ABOVE =b01
  0ORIYA_SIGN_CANDRABINDU 2ANUSVARA 2VISARGA =b05 1LETTER_A 2AA 2I 2II 2U 2UU 2VOCALIC_R 3L =b0f
  2E 2AI =b13 2O 2AU 2KA 2KHA 2GA 2GHA 2NGA 2CA 2CHA 2JA 2JHA 2NYA 2TTA 2TTHA 2DDA 2DDHA 2NNA 2TA
  2THA 2DA 2DHA 2NA =b2a 2PA 2PHA 2BA 2BHA 2MA 2YA 2RA =b32 2LA 2LLA =b35 2VA 2SHA 2SSA 2SA 2HA
  =b3c 1SIGN_NUKTA 2AVAGRAHA 1VOWEL_SIGN_AA 3I 3II 3U 3UU 3VOCALIC_R 4RR =b47 3E 3AI =b4b 3O 3AU
  1SIGN_VIRAMA =b55 2OVERLINE 1AI_LENGTH_MARK 1AU_LENGTH_MARK =b5c 1LETTER_RRA 2RHA =b5f 2YYA
  2VOCALIC_RR 3LL 1VOWEL_SIGN_VOCALIC_L 4LL =b66 1DIGIT_ZERO 2ONE 2TWO 2THREE 2FOUR 2FIVE 2SIX
  2SEVEN 2EIGHT 2NINE 1ISSHAR 1LETTER_WA 1FRACTION_ONE_QUARTER 3HALF 2THREE_QUARTERS
  2ONE_SIXTEENTH 3EIGHTH 2THREE_SIXTEENTHS =b82 0TAMIL_SIGN_ANUSVARA 2VISARGA =b85 1LETTER_A 2AA
  2I 2II 2U 2UU =b8e 2E 2EE 2AI =b92 2O 2OO 2AU 2KA =b99 2NGA 2CA =b9c 2JA =b9e 2NYA 2TTA =ba3
  2NNA 2TA =ba8 2NA 2NNNA 2PA =bae 2MA 2YA 2RA 2RRA 2LA 2LLA 2LLLA 2VA 2SHA 2SSA 2SA 2HA =bbe
  1VOWEL_SIGN_AA 3I 3II 3U 3UU =bc6 3E 3EE 3AI =bca 3O 3OO 3AU 1SIGN_VIRAMA =bd0 1OM =bd7
  1AU_LENGTH_MARK =be6 1DIGIT_ZERO 2ONE 2TWO 2THREE 2FOUR 2FIVE 2SIX 2SEVEN 2EIGHT 2NINE
  1NUMBER_TEN 2ONE_HUNDRED 3THOUSAND 1DAY_SIGN 1MONTH_SIGN 1YEAR_SIGN 1DEBIT_SIGN 1CREDIT_SIGN
  1AS_ABOVE_SIGN 1RUPEE_SIGN 1NUMBER_SIGN =c00 0TELUGU_SIGN_COMBINING_CANDRABINDU_ABOVE
  2CANDRABINDU 2ANUSVARA 2VISARGA 2COMBINING_ANUSVARA_ABOVE 1LETTER_A 2AA 2I 2II 2U 2UU 2VOCALIC_R
  3L =c0e 2E 2EE 2AI =c12 2O 2OO 2AU 2KA 2KHA 2GA 2GHA 2NGA 2CA 2CHA 2JA 2JHA 2NYA 2TTA 2TTHA 2DDA
  2DDHA 2NNA 2TA 2THA 2DA 2DHA 2NA =c2a 2PA 2PHA 2BA 2BHA 2MA 2YA 2RA 2RRA 2LA 2LLA 2LLLA 2VA 2SHA
  2SSA 2SA 2HA =c3c 1SIGN_NUKTA 2AVAGRAHA 1VOWEL_SIGN_AA 3I 3II 3U 3UU 3VOCALIC_R 4RR =c46 3E 3EE
  3AI =c4a 3O 3OO 3AU 1SIGN_VIRAMA =c55 1LENGTH_MARK 1AI_LENGTH_MARK =c58 1LETTER_TSA 2DZA 2RRRA
  =c5d 2NAKAARA_POLLU =c60 2VOCALIC_RR 3LL 1VOWEL_SIGN_VOCALIC_L 4LL =c66 1DIGIT_ZERO 2ONE 2TWO
  2THREE 2FOUR 2FIVE 2SIX 2SEVEN 2EIGHT 2NINE =c77 1SIGN_SIDDHAM
  1FRACTION_DIGIT_ZERO_FOR_ODD_POWERS_OF_FOUR 3ONE_FOR_ODD_POWERS_OF_FOUR
  3TWO_FOR_ODD_POWERS_OF_FOUR 3THREE_FOR_ODD_POWERS_OF_FOUR 3ONE_FOR_EVEN_POWERS_OF_FOUR
  3TWO_FOR_EVEN_POWERS_OF_FOUR 3THREE_FOR_EVEN_POWERS_OF_FOUR 1SIGN_TUUMU
  0KANNADA_SIGN_SPACING_CANDRABINDU 2CANDRABINDU 2ANUSVARA 2VISARGA 2SIDDHAM 1LETTER_A 2AA 2I 2II
  2U 2UU 2VOCALIC_R 3L =c8e 2E 2EE 2AI =c92 2O 2OO 2AU 2KA 2KHA 2GA 2GHA 2NGA 2CA 2CHA 2JA 2JHA
  2NYA 2TTA 2TTHA 2DDA 2DDHA 2NNA 2TA 2THA 2DA 2DHA 2NA =caa 2PA 2PHA 2BA 2BHA 2MA 2YA 2RA 2RRA
  2LA 2LLA =cb5 2VA 2SHA 2SSA 2SA 2HA =cbc 1SIGN_NUKTA 2AVAGRAHA 1VOWEL_SIGN_AA 3I 3II 3U 3UU
  3VOCALIC_R 4RR =cc6 3E 3EE 3AI =cca 3O 3OO 3AU 1SIGN_VIRAMA =cd5 1LENGTH_MARK 1AI_LENGTH_MARK
  =cdd 1LETTER_NAKAARA_POLLU 2FA =ce0 2VOCALIC_RR 3LL 1VOWEL_SIGN_VOCALIC_L 4LL =ce6 1DIGIT_ZERO
  2ONE 2TWO 2THREE 2FOUR 2FIVE 2SIX 2SEVEN 2EIGHT 2NINE =cf1 1SIGN_JIHVAMULIYA 2UPADHMANIYA =d00
  0MALAYALAM_SIGN_COMBINING_ANUSVARA_ABOVE 2CANDRABINDU 2ANUSVARA 2VISARGA 1LETTER_VEDIC_ANUSVARA
  2A 2AA 2I 2II 2U 2UU 2VOCALIC_R 3L =d0e 2E 2EE 2AI =d12 2O 2OO 2AU 2KA 2KHA 2GA 2GHA 2NGA 2CA
  2CHA 2JA 2JHA 2NYA 2TTA 2TTHA 2DDA 2DDHA 2NNA 2TA 2THA 2DA 2DHA 2NA 2NNNA 2PA 2PHA 2BA 2BHA 2MA
  2YA 2RA 2RRA 2LA 2LLA 2LLLA 2VA 2SHA 2SSA 2SA 2HA 2TTTA 1SIGN_VERTICAL_BAR_VIRAMA
  2CIRCULAR_VIRAMA 2AVAGRAHA 1VOWEL_SIGN_AA 3I 3II 3U 3UU 3VOCALIC_R 4RR =d46 3E 3EE 3AI =d4a 3O
  3OO 3AU 1SIGN_VIRAMA 1LETTER_DOT_REPH 1SIGN_PARA =d54 1LETTER_CHILLU_M 3Y 3LLL 1AU_LENGTH_MARK
  1FRACTION_ONE_ONE-HUNDRED-AND-SIXTIETH 3FORTIETH 2THREE_EIGHTIETHS 2ONE_TWENTIETH 3TENTH
  2THREE_TWENTIETHS 2ONE_FIFTH 1LETTER_ARCHAIC_II 2VOCALIC_RR 3LL 1VOWEL_SIGN_VOCALIC_L 4LL =d66
  1DIGIT_ZERO 2ONE 2TWO 2THREE 2FOUR 2FIVE 2SIX 2SEVEN 2EIGHT 2NINE 1NUMBER_TEN 2ONE_HUNDRED
  3THOUSAND 1FRACTION_ONE_QUARTER 3HALF 2THREE_QUARTERS 2ONE_SIXTEENTH 3EIGHTH 2THREE_SIXTEENTHS
  1DATE_MARK 1LETTER_CHILLU_NN 3N 3RR 3L 3LL 3K =d81 0SINHALA_SIGN_CANDRABINDU 2ANUSVARAYA
  2VISARGAYA =d85 1LETTER_AYANNA 2AAYANNA 2AEYANNA 2AEEYANNA 2IYANNA 2IIYANNA 2UYANNA 2UUYANNA
  2IRUYANNA 2IRUUYANNA 2ILUYANNA 2ILUUYANNA 2EYANNA 2EEYANNA 2AIYANNA 2OYANNA 2OOYANNA 2AUYANNA
  =d9a 2ALPAPRAANA_KAYANNA 2MAHAAPRAANA_KAYANNA 2ALPAPRAANA_GAYANNA 2MAHAAPRAANA_GAYANNA
  2KANTAJA_NAASIKYAYA 2SANYAKA_GAYANNA 2ALPAPRAANA_CAYANNA 2MAHAAPRAANA_CAYANNA
  2ALPAPRAANA_JAYANNA 2MAHAAPRAANA_JAYANNA 2TAALUJA_NAASIKYAYA 3SANYOOGA_NAAKSIKYAYA
  2SANYAKA_JAYANNA 2ALPAPRAANA_TTAYANNA 2MAHAAPRAANA_TTAYANNA 2ALPAPRAANA_DDAYANNA
  2MAHAAPRAANA_DDAYANNA 2MUURDHAJA_NAYANNA 2SANYAKA_DDAYANNA 2ALPAPRAANA_TAYANNA
  2MAHAAPRAANA_TAYANNA 2ALPAPRAANA_DAYANNA 2MAHAAPRAANA_DAYANNA 2DANTAJA_NAYANNA =db3
  2SANYAKA_DAYANNA 2ALPAPRAANA_PAYANNA 2MAHAAPRAANA_PAYANNA 2ALPAPRAANA_BAYANNA
  2MAHAAPRAANA_BAYANNA 2MAYANNA 2AMBA_BAYANNA 2YAYANNA 2RAYANNA =dbd 2DANTAJA_LAYANNA =dc0
  2VAYANNA 2TAALUJA_SAYANNA 2MUURDHAJA_SAYANNA 2DANTAJA_SAYANNA 2HAYANNA 2MUURDHAJA_LAYANNA
  2FAYANNA =dca 1SIGN_AL-LAKUNA =dcf 1VOWEL_SIGN_AELA-PILLA 3KETTI_AEDA-PILLA 3DIGA_AEDA-PILLA
  3KETTI_IS-PILLA 3DIGA_IS-PILLA 3KETTI_PAA-PILLA =dd6 3DIGA_PAA-PILLA =dd8 3GAETTA-PILLA 3KOMBUVA
  3DIGA_KOMBUVA 3KOMBU_DEKA 3KOMBUVA_HAA_AELA-PILLA 5DIGA_AELA-PILLA 5GAYANUKITTA 3GAYANUKITTA
  =de6 1LITH_DIGIT_ZERO 3ONE 3TWO 3THREE 3FOUR 3FIVE 3SIX 3SEVEN 3EIGHT 3NINE =df2
  1VOWEL_SIGN_DIGA_GAETTA-PILLA 4GAYANUKITTA 1PUNCTUATION_KUNDDALIYA =e01 0THAI_CHARACTER_KO_KAI
  2KHO_KHAI 3KHUAT 3KHWAI 3KHON 3RAKHANG 2NGO_NGU 2CHO_CHAN 3CHING 3CHANG 2SO_SO 2CHO_CHOE
  2YO_YING 2DO_CHADA 2TO_PATAK 2THO_THAN 3NANGMONTHO 3PHUTHAO 2NO_NEN 2DO_DEK 2TO_TAO 2THO_THUNG
  3THAHAN 3THONG 2NO_NU 2BO_BAIMAI 2PO_PLA 2PHO_PHUNG 2FO_FA 2PHO_PHAN 2FO_FAN 2PHO_SAMPHAO 2MO_MA
  2YO_YAK 2RO_RUA 2RU 2LO_LING 2LU 2WO_WAEN 2SO_SALA 3RUSI 3SUA 2HO_HIP 2LO_CHULA 2O_ANG
  2HO_NOKHUK 2PAIYANNOI 2SARA_A 2MAI_HAN-AKAT 2SARA_AA 3AM 3I 3II 3UE 3UEE 3U 3UU 2PHINTHU =e3f
  1CURRENCY_SYMBOL_BAHT 1CHARACTER_SARA_E 3AE 3O 3AI_MAIMUAN 4MAIMALAI 2LAKKHANGYAO 2MAIYAMOK
  2MAITAIKHU 2MAI_EK 3THO 3TRI 3CHATTAWA 2THANTHAKHAT 2NIKHAHIT 2YAMAKKAN 2FONGMAN 1DIGIT_ZERO
  2ONE 2TWO 2THREE 2FOUR 2FIVE 2SIX 2SEVEN 2EIGHT 2NINE 1CHARACTER_ANGKHANKHU 2KHOMUT =e81
  0LAO_LETTER_KO 2KHO_SUNG =e84 3TAM =e86 2PALI_GHA 2NGO 2CO 2PALI_CHA 2SO_TAM =e8c 2PALI_JHA 2NYO
  2PALI_NYA 3TTA 3TTHA 3DDA 3DDHA 3NNA 2DO 2TO 2THO_SUNG 3TAM 2PALI_DHA 2NO 2BO 2PO 2PHO_SUNG
  2FO_TAM 2PHO_TAM 2FO_SUNG 2PALI_BHA 2MO 2YO 2LO_LING =ea5 3LOOT =ea7 2WO 2SANSKRIT_SHA 3SSA
  2SO_SUNG 2HO_SUNG 2PALI_LLA 2O 2HO_TAM 1ELLIPSIS 1VOWEL_SIGN_A 3MAI_KAN 3AA 3AM 3I 3II 3Y 3YY 3U
  3UU 1SIGN_PALI_VIRAMA 1VOWEL_SIGN_MAI_KON 1SEMIVOWEL_SIGN_LO 3NYO =ec0 1VOWEL_SIGN_E 3EI 3O 3AY
  3AI =ec6 1KO_LA =ec8 1TONE_MAI_EK 3THO 3TI 3CATAWA 1CANCELLATION_MARK 1NIGGAHITA =ed0
  1DIGIT_ZERO 2ONE 2TWO 2THREE 2FOUR 2FIVE 2SIX 2SEVEN 2EIGHT 2NINE =edc 1HO_NO 2MO
  1LETTER_KHMU_GO 3NYO =f00 0TIBETAN_SYLLABLE_OM 1MARK_GTER_YIG_MGO_TRUNCATED_A 5-UM_RNAM_BCAD_MA
  6GTER_TSHEG_MA 2INITIAL_YIG_MGO_MDUN_MA 2CLOSING_YIG_MGO_SGAB_MA 2CARET_YIG_MGO_PHUR_SHAD_MA
  2YIG_MGO_TSHEG_SHAD_MA 2SBRUL_SHAD 2BSKUR_YIG_MGO 2BKA-_SHOG_YIG_MGO 2INTERSYLLABIC_TSHEG
  2DELIMITER_TSHEG_BSTAR 2SHAD 2NYIS_SHAD 2TSHEG_SHAD 2NYIS_TSHEG_SHAD 2RIN_CHEN_SPUNGS_SHAD
  2RGYA_GRAM_SHAD 2CARET_-DZUD_RTAGS_ME_LONG_CAN 2GTER_TSHEG 1LOGOTYPE_SIGN_CHAD_RTAGS 3LHAG_RTAGS
  1ASTROLOGICAL_SIGN_SGRA_GCAN_-CHAR_RTAGS 3-KHYUD_PA 3SDONG_TSHUGS 1SIGN_RDEL_DKAR_GCIG 4GNYIS
  4GSUM 3NAG_GCIG 4GNYIS 3DKAR_RDEL_NAG 1DIGIT_ZERO 2ONE 2TWO 2THREE 2FOUR 2FIVE 2SIX 2SEVEN
  2EIGHT 2NINE 2HALF_ONE 3TWO 3THREE 3FOUR 3FIVE 3SIX 3SEVEN 3EIGHT 3NINE 3ZERO 1MARK_BSDUS_RTAGS
  2NGAS_BZUNG_NYI_ZLA 2CARET_-DZUD_RTAGS_BZHI_MIG_CAN 2NGAS_BZUNG_SGOR_RTAGS 2CHE_MGO 2TSA_-PHRU
  2GUG_RTAGS_GYON 4GYAS 2ANG_KHANG_GYON 4GYAS 1SIGN_YAR_TSHES 2MAR_TSHES 1LETTER_KA 2KHA 2GA 2GHA
  2NGA 2CA 2CHA 2JA =f49 2NYA 2TTA 2TTHA 2DDA 2DDHA 2NNA 2TA 2THA 2DA 2DHA 2NA 2PA 2PHA 2BA 2BHA
  2MA 2TSA 2TSHA 2DZA 2DZHA 2WA 2ZHA 2ZA 2-A 2YA 2RA 2LA 2SHA 2SSA 2SA 2HA 2A 2KSSA 2FIXED-FORM_RA
  2KKA 2RRA =f71 1VOWEL_SIGN_AA 3I 3II 3U 3UU 3VOCALIC_R 4RR 4L 4LL 3E 3EE 3O 3OO
  1SIGN_RJES_SU_NGA_RO 2RNAM_BCAD 1VOWEL_SIGN_REVERSED_I 4II 1SIGN_NYI_ZLA_NAA_DA 2SNA_LDAN
  1MARK_HALANTA 2PALUTA 1SIGN_LCI_RTAGS 2YANG_RTAGS 2LCE_TSA_CAN 2MCHU_CAN 2GRU_CAN_RGYINGS
  3MED_RGYINGS 2INVERTED_MCHU_CAN 1SUBJOINED_SIGN_LCE_TSA_CAN 3MCHU_CAN 3INVERTED_MCHU_CAN
  2LETTER_KA 3KHA 3GA 3GHA 3NGA 3CA 3CHA 3JA =f99 3NYA 3TTA 3TTHA 3DDA 3DDHA 3NNA 3TA 3THA 3DA
  3DHA 3NA 3PA 3PHA 3BA 3BHA 3MA 3TSA 3TSHA 3DZA 3DZHA 3WA 3ZHA 3ZA 3-A 3YA 3RA 3LA 3SHA 3SSA 3SA
  3HA 3A 3KSSA 3FIXED-FORM_WA 4YA 4RA =fbe 1KU_RU_KHA 4BZHI_MIG_CAN 1CANTILLATION_SIGN_HEAVY_BEAT
  3LIGHT_BEAT 3CANG_TE-U 3SBUB_-CHAL 1SYMBOL_DRIL_BU 2RDO_RJE 2PADMA_GDAN 2RDO_RJE_RGYA_GRAM
  2PHUR_PA 2NOR_BU 4NYIS_-KHYIL 4GSUM_-KHYIL 4BZHI_-KHYIL =fce 1SIGN_RDEL_NAG_RDEL_DKAR 4GSUM
  1MARK_BSKA-_SHOG_GI_MGO_RGYAN 2MNYAM_YIG_GI_MGO_RGYAN 2NYIS_TSHEG
  2INITIAL_BRDA_RNYING_YIG_MGO_MDUN_MA 2CLOSING_BRDA_RNYING_YIG_MGO_SGAB_MA
  0RIGHT-FACING_SVASTI_SIGN 0LEFT-FACING_SVASTI_SIGN 0RIGHT-FACING_SVASTI_SIGN_WITH_DOTS
  0LEFT-FACING_SVASTI_SIGN_WITH_DOTS 0TIBETAN_MARK_LEADING_MCHAN_RTAGS 2TRAILING_MCHAN_RTAGS =1000
  0MYANMAR_LETTER_KA 2KHA 2GA 2GHA 2NGA 2CA 2CHA 2JA 2JHA 2NYA 2NNYA 2TTA 2TTHA 2DDA 2DDHA 2NNA
  2TA 2THA 2DA 2DHA 2NA 2PA 2PHA 2BA 2BHA 2MA 2YA 2RA 2LA 2WA 2SA 2HA 2LLA 2A 2SHAN_A 2I 2II 2U
  2UU 2E 2MON_E 2O 2AU 1VOWEL_SIGN_TALL_AA 3AA 3I 3II 3U 3UU 3E 3AI 3MON_II 4O 3E_ABOVE
  1SIGN_ANUSVARA 2DOT_BELOW 2VISARGA 2VIRAMA 2ASAT 1CONSONANT_SIGN_MEDIAL_YA 4RA 4WA 4HA
  1LETTER_GREAT_SA 1DIGIT_ZERO 2ONE 2TWO 2THREE 2FOUR 2FIVE 2SIX 2SEVEN 2EIGHT 2NINE
  1SIGN_LITTLE_SECTION 2SECTION 1SYMBOL_LOCATIVE 2COMPLETED 2AFOREMENTIONED 2GENITIVE 1LETTER_SHA
  2SSA 2VOCALIC_R 3RR 3L 3LL 1VOWEL_SIGN_VOCALIC_R 4RR 4L 4LL 1LETTER_MON_NGA 3JHA 3BBA 3BBE
  1CONSONANT_SIGN_MON_MEDIAL_NA 5MA 5LA 1LETTER_SGAW_KAREN_SHA 1VOWEL_SIGN_SGAW_KAREN_EU
  1TONE_MARK_SGAW_KAREN_HATHI 5KE_PHO 1LETTER_WESTERN_PWO_KAREN_THA 5PWA
  1VOWEL_SIGN_WESTERN_PWO_KAREN_EU 6UE 1SIGN_WESTERN_PWO_KAREN_TONE-1 5TONE-2 5TONE-3 5TONE-4
  5TONE-5 1LETTER_EASTERN_PWO_KAREN_NNA 5YWA 5GHWA 1VOWEL_SIGN_GEBA_KAREN_I 3KAYAH_OE 4U 4EE
  1LETTER_SHAN_KA 3KHA 3GA 3CA 3ZA 3NYA 3DA 3NA 3PHA 3FA 3BA 3THA 3HA
  1CONSONANT_SIGN_SHAN_MEDIAL_WA 1VOWEL_SIGN_SHAN_AA 4E 5ABOVE 4FINAL_Y 1SIGN_SHAN_TONE-2 3TONE-3
  3TONE-5 3TONE-6 3COUNCIL_TONE-2 4TONE-3 4EMPHATIC_TONE 1LETTER_RUMAI_PALAUNG_FA
  1SIGN_RUMAI_PALAUNG_TONE-5 1SHAN_DIGIT_ZERO 3ONE 3TWO 3THREE 3FOUR 3FIVE 3SIX 3SEVEN 3EIGHT
  3NINE 1SIGN_KHAMTI_TONE-1 3TONE-3 1VOWEL_SIGN_AITON_A 4AI 1SYMBOL_SHAN_ONE 3EXCLAMATION
  0GEORGIAN_CAPITAL_LETTER_AN 3BAN 3GAN 3DON 3EN 3VIN 3ZEN 3TAN 3IN 3KAN 3LAS 3MAN 3NAR 3ON 3PAR
  3ZHAR 3RAE 3SAN 3TAR 3UN 3PHAR 3KHAR 3GHAN 3QAR 3SHIN 3CHIN 3CAN 3JIL 3CIL 3CHAR 3XAN 3JHAN 3HAE
  3HE 3HIE 3WE 3HAR 3HOE =10c7 3YN =10cd 3AEN =10d0 1LETTER_AN 2BAN 2GAN 2DON 2EN 2VIN 2ZEN 2TAN
  2IN 2KAN 2LAS 2MAN 2NAR 2ON 2PAR 2ZHAR 2RAE 2SAN 2TAR 2UN 2PHAR 2KHAR 2GHAN 2QAR 2SHIN 2CHIN
  2CAN 2JIL 2CIL 2CHAR 2XAN 2JHAN 2HAE 2HE 2HIE 2WE 2HAR 2HOE 2FI 2YN 2ELIFI 2TURNED_GAN 2AIN
  1PARAGRAPH_SEPARATOR 0MODIFIER_LETTER_GEORGIAN_NAR 0GEORGIAN_LETTER_AEN 2HARD_SIGN 2LABIAL_SIGN
  0HANGUL_CHOSEONG_KIYEOK 2SSANGKIYEOK 2NIEUN 2TIKEUT 2SSANGTIKEUT 2RIEUL 2MIEUM 2PIEUP
  2SSANGPIEUP 2SIOS 2SSANGSIOS 2IEUNG 2CIEUC 2SSANGCIEUC 2CHIEUCH 2KHIEUKH 2THIEUTH 2PHIEUPH
  2HIEUH 2NIEUN-KIYEOK 2SSANGNIEUN 2NIEUN-TIKEUT 2NIEUN-PIEUP 2TIKEUT-KIYEOK 2RIEUL-NIEUN
  2SSANGRIEUL 2RIEUL-HIEUH 2KAPYEOUNRIEUL 2MIEUM-PIEUP 2KAPYEOUNMIEUM 2PIEUP-KIYEOK 2PIEUP-NIEUN
  2PIEUP-TIKEUT 2PIEUP-SIOS 2PIEUP-SIOS-KIYEOK 2PIEUP-SIOS-TIKEUT 2PIEUP-SIOS-PIEUP
  2PIEUP-SSANGSIOS 2PIEUP-SIOS-CIEUC 2PIEUP-CIEUC 2PIEUP-CHIEUCH 2PIEUP-THIEUTH 2PIEUP-PHIEUPH
  2KAPYEOUNPIEUP 2KAPYEOUNSSANGPIEUP 2SIOS-KIYEOK 2SIOS-NIEUN 2SIOS-TIKEUT 2SIOS-RIEUL 2SIOS-MIEUM
  2SIOS-PIEUP 2SIOS-PIEUP-KIYEOK 2SIOS-SSANGSIOS 2SIOS-IEUNG 2SIOS-CIEUC 2SIOS-CHIEUCH
  2SIOS-KHIEUKH 2SIOS-THIEUTH 2SIOS-PHIEUPH 2SIOS-HIEUH 2CHITUEUMSIOS 2CHITUEUMSSANGSIOS
  2CEONGCHIEUMSIOS 2CEONGCHIEUMSSANGSIOS 2PANSIOS 2IEUNG-KIYEOK 2IEUNG-TIKEUT 2IEUNG-MIEUM
  2IEUNG-PIEUP 2IEUNG-SIOS 2IEUNG-PANSIOS 2SSANGIEUNG 2IEUNG-CIEUC 2IEUNG-CHIEUCH 2IEUNG-THIEUTH
  2IEUNG-PHIEUPH 2YESIEUNG 2CIEUC-IEUNG 2CHITUEUMCIEUC 2CHITUEUMSSANGCIEUC 2CEONGCHIEUMCIEUC
  2CEONGCHIEUMSSANGCIEUC 2CHIEUCH-KHIEUKH 2CHIEUCH-HIEUH 2CHITUEUMCHIEUCH 2CEONGCHIEUMCHIEUCH
  2PHIEUPH-PIEUP 2KAPYEOUNPHIEUPH 2SSANGHIEUH 2YEORINHIEUH 2KIYEOK-TIKEUT 2NIEUN-SIOS 2NIEUN-CIEUC
  2NIEUN-HIEUH 2TIKEUT-RIEUL 2FILLER 1JUNGSEONG_FILLER 2A 2AE 2YA 2YAE 2EO 2E 2YEO 2YE 2O 2WA 2WAE
  2OE 2YO 2U 2WEO 2WE 2WI 2YU 2EU 2YI 2I 2A-O 2A-U 2YA-O 2YA-YO 2EO-O 2EO-U 2EO-EU 2YEO-O 2YEO-U
  2O-EO 2O-E 2O-YE 2O-O 2O-U 2YO-YA 2YO-YAE 2YO-YEO 2YO-O 2YO-I 2U-A 2U-AE 2U-EO-EU 2U-YE 2U-U
  2YU-A 2YU-EO 2YU-E 2YU-YEO 2YU-YE 2YU-U 2YU-I 2EU-U 2EU-EU 2YI-U 2I-A 2I-YA 2I-O 2I-U 2I-EU
  2I-ARAEA 2ARAEA 2ARAEA-EO 2ARAEA-U 2ARAEA-I 2SSANGARAEA 2A-EU 2YA-U 2YEO-YA 2O-YA 2O-YAE
  1JONGSEONG_KIYEOK 2SSANGKIYEOK 2KIYEOK-SIOS 2NIEUN 2NIEUN-CIEUC 2NIEUN-HIEUH 2TIKEUT 2RIEUL
  2RIEUL-KIYEOK 2RIEUL-MIEUM 2RIEUL-PIEUP 2RIEUL-SIOS 2RIEUL-THIEUTH 2RIEUL-PHIEUPH 2RIEUL-HIEUH
  2MIEUM 2PIEUP 2PIEUP-SIOS 2SIOS 2SSANGSIOS 2IEUNG 2CIEUC 2CHIEUCH 2KHIEUKH 2THIEUTH 2PHIEUPH
  2HIEUH 2KIYEOK-RIEUL 2KIYEOK-SIOS-KIYEOK 2NIEUN-KIYEOK 2NIEUN-TIKEUT 2NIEUN-SIOS 2NIEUN-PANSIOS
  2NIEUN-THIEUTH 2TIKEUT-KIYEOK 2TIKEUT-RIEUL 2RIEUL-KIYEOK-SIOS 2RIEUL-NIEUN 2RIEUL-TIKEUT
  2RIEUL-TIKEUT-HIEUH 2SSANGRIEUL 2RIEUL-MIEUM-KIYEOK 2RIEUL-MIEUM-SIOS 2RIEUL-PIEUP-SIOS
  2RIEUL-PIEUP-HIEUH 2RIEUL-KAPYEOUNPIEUP 2RIEUL-SSANGSIOS 2RIEUL-PANSIOS 2RIEUL-KHIEUKH
  2RIEUL-YEORINHIEUH 2MIEUM-KIYEOK 2MIEUM-RIEUL 2MIEUM-PIEUP 2MIEUM-SIOS 2MIEUM-SSANGSIOS
  2MIEUM-PANSIOS 2MIEUM-CHIEUCH 2MIEUM-HIEUH 2KAPYEOUNMIEUM 2PIEUP-RIEUL 2PIEUP-PHIEUPH
  2PIEUP-HIEUH 2KAPYEOUNPIEUP 2SIOS-KIYEOK 2SIOS-TIKEUT 2SIOS-RIEUL 2SIOS-PIEUP 2PANSIOS
  2IEUNG-KIYEOK 2IEUNG-SSANGKIYEOK 2SSANGIEUNG 2IEUNG-KHIEUKH 2YESIEUNG 2YESIEUNG-SIOS
  2YESIEUNG-PANSIOS 2PHIEUPH-PIEUP 2KAPYEOUNPHIEUPH 2HIEUH-NIEUN 2HIEUH-RIEUL 2HIEUH-MIEUM
  2HIEUH-PIEUP 2YEORINHIEUH 2KIYEOK-NIEUN 2KIYEOK-PIEUP 2KIYEOK-CHIEUCH 2KIYEOK-KHIEUKH
  2KIYEOK-HIEUH 2SSANGNIEUN 0ETHIOPIC_SYLLABLE_HA 2HU 2HI 2HAA 2HEE 2HE 2HO 2HOA 2LA 2LU 2LI 2LAA
  2LEE 2LE 2LO 2LWA 2HHA 2HHU 2HHI 2HHAA 2HHEE 2HHE 2HHO 2HHWA 2MA 2MU 2MI 2MAA 2MEE 2ME 2MO 2MWA
  2SZA 2SZU 2SZI 2SZAA 2SZEE 2SZE 2SZO 2SZWA 2RA 2RU 2RI 2RAA 2REE 2RE 2RO 2RWA 2SA 2SU 2SI 2SAA
  2SEE 2SE 2SO 2SWA 2SHA 2SHU 2SHI 2SHAA 2SHEE 2SHE 2SHO 2SHWA 2QA 2QU 2QI 2QAA 2QEE 2QE 2QO 2QOA
  2QWA =124a 2QWI 2QWAA 2QWEE 2QWE =1250 2QHA 2QHU 2QHI 2QHAA 2QHEE 2QHE 2QHO =1258 2QHWA =125a
  2QHWI 2QHWAA 2QHWEE 2QHWE =1260 2BA 2BU 2BI 2BAA 2BEE 2BE 2BO 2BWA 2VA 2VU 2VI 2VAA 2VEE 2VE 2VO
  2VWA 2TA 2TU 2TI 2TAA 2TEE 2TE 2TO 2TWA 2CA 2CU 2CI 2CAA 2CEE 2CE 2CO 2CWA 2XA 2XU 2XI 2XAA 2XEE
  2XE 2XO 2XOA 2XWA =128a 2XWI 2XWAA 2XWEE 2XWE =1290 2NA 2NU 2NI 2NAA 2NEE 2NE 2NO 2NWA 2NYA 2NYU
  2NYI 2NYAA 2NYEE 2NYE 2NYO 2NYWA 2GLOTTAL_A 3U 3I 3AA 3EE 3E 3O 3WA 2KA 2KU 2KI 2KAA 2KEE 2KE
  2KO 2KOA 2KWA =12b2 2KWI 2KWAA 2KWEE 2KWE =12b8 2KXA 2KXU 2KXI 2KXAA 2KXEE 2KXE 2KXO =12c0 2KXWA
  =12c2 2KXWI 2KXWAA 2KXWEE 2KXWE =12c8 2WA 2WU 2WI 2WAA 2WEE 2WE 2WO 2WOA 2PHARYNGEAL_A 3U 3I 3AA
  3EE 3E 3O =12d8 2ZA 2ZU 2ZI 2ZAA 2ZEE 2ZE 2ZO 2ZWA 2ZHA 2ZHU 2ZHI 2ZHAA 2ZHEE 2ZHE 2ZHO 2ZHWA
  2YA 2YU 2YI 2YAA 2YEE 2YE 2YO 2YOA 2DA 2DU 2DI 2DAA 2DEE 2DE 2DO 2DWA 2DDA 2DDU 2DDI 2DDAA 2DDEE
  2DDE 2DDO 2DDWA 2JA 2JU 2JI 2JAA 2JEE 2JE 2JO 2JWA 2GA 2GU 2GI 2GAA 2GEE 2GE 2GO 2GOA 2GWA =1312
  2GWI 2GWAA 2GWEE 2GWE =1318 2GGA 2GGU 2GGI 2GGAA 2GGEE 2GGE 2GGO 2GGWAA 2THA 2THU 2THI 2THAA
  2THEE 2THE 2THO 2THWA 2CHA 2CHU 2CHI 2CHAA 2CHEE 2CHE 2CHO 2CHWA 2PHA 2PHU 2PHI 2PHAA 2PHEE 2PHE
  2PHO 2PHWA 2TSA 2TSU 2TSI 2TSAA 2TSEE 2TSE 2TSO 2TSWA 2TZA 2TZU 2TZI 2TZAA 2TZEE 2TZE 2TZO 2TZOA
  2FA 2FU 2FI 2FAA 2FEE 2FE 2FO 2FWA 2PA 2PU 2PI 2PAA 2PEE 2PE 2PO 2PWA 2RYA 2MYA 2FYA =135d
  1COMBINING_GEMINATION_AND_VOWEL_LENGTH_MARK 2VOWEL_LENGTH_MARK 2GEMINATION_MARK 1SECTION_MARK
  1WORDSPACE 1FULL_STOP 1COMMA 1SEMICOLON 1COLON 1PREFACE_COLON 1QUESTION_MARK
  1PARAGRAPH_SEPARATOR 1DIGIT_ONE 2TWO 2THREE 2FOUR 2FIVE 2SIX 2SEVEN 2EIGHT 2NINE 1NUMBER_TEN
  2TWENTY 2THIRTY 2FORTY 2FIFTY 2SIXTY 2SEVENTY 2EIGHTY 2NINETY 2HUNDRED 2TEN_THOUSAND =1380
  1SYLLABLE_SEBATBEIT_MWA 2MWI 2MWEE 2MWE 2SEBATBEIT_BWA 2BWI 2BWEE 2BWE 2SEBATBEIT_FWA 2FWI 2FWEE
  2FWE 2SEBATBEIT_PWA 2PWI 2PWEE 2PWE 1TONAL_MARK_YIZET 3DERET 3RIKRIK 3SHORT_RIKRIK 3DIFAT 3KENAT
  3CHIRET 3HIDET 3DERET-HIDET 3KURT =13a0 0CHEROKEE_LETTER_A 2E 2I 2O 2U 2V 2GA 2KA 2GE 2GI 2GO
  2GU 2GV 2HA 2HE 2HI 2HO 2HU 2HV 2LA 2LE 2LI 2LO 2LU 2LV 2MA 2ME 2MI 2MO 2MU 2NA 2HNA 2NAH 2NE
  2NI 2NO 2NU 2NV 2QUA 2QUE 2QUI 2QUO 2QUU 2QUV 2SA 2S 2SE 2SI 2SO 2SU 2SV 2DA 2TA 2DE 2TE 2DI 2TI
  2DO 2DU 2DV 2DLA 2TLA 2TLE 2TLI 2TLO 2TLU 2TLV 2TSA 2TSE 2TSI 2TSO 2TSU 2TSV 2WA 2WE 2WI 2WO 2WU
  2WV 2YA 2YE 2YI 2YO 2YU 2YV 2MV =13f8 1SMALL_LETTER_YE 3YI 3YO 3YU 3YV 3MV =1400
  0CANADIAN_SYLLABICS_HYPHEN 2E 2AAI 2I 2II 2O 2OO 2Y-CREE_OO 2CARRIER_EE 3I 2A 2AA 2WE
  2WEST-CREE_WE 2WI 2WEST-CREE_WI 2WII 2WEST-CREE_WII 2WO 2WEST-CREE_WO 2WOO 2WEST-CREE_WOO
  2NASKAPI_WOO 2WA 2WEST-CREE_WA 2WAA 2WEST-CREE_WAA 2NASKAPI_WAA 2AI 2Y-CREE_W 2GLOTTAL_STOP
  2FINAL_ACUTE 3GRAVE 3BOTTOM_HALF_RING 3TOP_HALF_RING 3RIGHT_HALF_RING 3RING 3DOUBLE_ACUTE
  4SHORT_VERTICAL_STROKES 3MIDDLE_DOT 3SHORT_HORIZONTAL_STROKE 3PLUS 3DOWN_TACK 2EN 2IN 2ON 2AN
  2PE 2PAAI 2PI 2PII 2PO 2POO 2Y-CREE_POO 2CARRIER_HEE 3HI 2PA 2PAA 2PWE 2WEST-CREE_PWE 2PWI
  2WEST-CREE_PWI 2PWII 2WEST-CREE_PWII 2PWO 2WEST-CREE_PWO 2PWOO 2WEST-CREE_PWOO 2PWA
  2WEST-CREE_PWA 2PWAA 2WEST-CREE_PWAA 2Y-CREE_PWAA 2P 2WEST-CREE_P 2CARRIER_H 2TE 2TAAI 2TI 2TII
  2TO 2TOO 2Y-CREE_TOO 2CARRIER_DEE 3DI 2TA 2TAA 2TWE 2WEST-CREE_TWE 2TWI 2WEST-CREE_TWI 2TWII
  2WEST-CREE_TWII 2TWO 2WEST-CREE_TWO 2TWOO 2WEST-CREE_TWOO 2TWA 2WEST-CREE_TWA 2TWAA
  2WEST-CREE_TWAA 2NASKAPI_TWAA 2T 2TTE 2TTI 2TTO 2TTA 2KE 2KAAI 2KI 2KII 2KO 2KOO 2Y-CREE_KOO 2KA
  2KAA 2KWE 2WEST-CREE_KWE 2KWI 2WEST-CREE_KWI 2KWII 2WEST-CREE_KWII 2KWO 2WEST-CREE_KWO 2KWOO
  2WEST-CREE_KWOO 2KWA 2WEST-CREE_KWA 2KWAA 2WEST-CREE_KWAA 2NASKAPI_KWAA 2K 2KW 2SOUTH-SLAVEY_KEH
  3KIH 3KOH 3KAH 2CE 2CAAI 2CI 2CII 2CO 2COO 2Y-CREE_COO 2CA 2CAA 2CWE 2WEST-CREE_CWE 2CWI
  2WEST-CREE_CWI 2CWII 2WEST-CREE_CWII 2CWO 2WEST-CREE_CWO 2CWOO 2WEST-CREE_CWOO 2CWA
  2WEST-CREE_CWA 2CWAA 2WEST-CREE_CWAA 2NASKAPI_CWAA 2C 2SAYISI_TH 2ME 2MAAI 2MI 2MII 2MO 2MOO
  2Y-CREE_MOO 2MA 2MAA 2MWE 2WEST-CREE_MWE 2MWI 2WEST-CREE_MWI 2MWII 2WEST-CREE_MWII 2MWO
  2WEST-CREE_MWO 2MWOO 2WEST-CREE_MWOO 2MWA 2WEST-CREE_MWA 2MWAA 2WEST-CREE_MWAA 2NASKAPI_MWAA 2M
  2WEST-CREE_M 2MH 2ATHAPASCAN_M 2SAYISI_M 2NE 2NAAI 2NI 2NII 2NO 2NOO 2Y-CREE_NOO 2NA 2NAA 2NWE
  2WEST-CREE_NWE 2NWA 2WEST-CREE_NWA 2NWAA 2WEST-CREE_NWAA 2NASKAPI_NWAA 2N 2CARRIER_NG 2NH 2LE
  2LAAI 2LI 2LII 2LO 2LOO 2Y-CREE_LOO 2LA 2LAA 2LWE 2WEST-CREE_LWE 2LWI 2WEST-CREE_LWI 2LWII
  2WEST-CREE_LWII 2LWO 2WEST-CREE_LWO 2LWOO 2WEST-CREE_LWOO 2LWA 2WEST-CREE_LWA 2LWAA
  2WEST-CREE_LWAA 2L 2WEST-CREE_L 2MEDIAL_L 2SE 2SAAI 2SI 2SII 2SO 2SOO 2Y-CREE_SOO 2SA 2SAA 2SWE
  2WEST-CREE_SWE 2SWI 2WEST-CREE_SWI 2SWII 2WEST-CREE_SWII 2SWO 2WEST-CREE_SWO 2SWOO
  2WEST-CREE_SWOO 2SWA 2WEST-CREE_SWA 2SWAA 2WEST-CREE_SWAA 2NASKAPI_SWAA 2S 2ATHAPASCAN_S 2SW
  2BLACKFOOT_S 2MOOSE-CREE_SK 2NASKAPI_SKW 3S-W 3SPWA 3STWA 3SKWA 3SCWA 2SHE 2SHI 2SHII 2SHO 2SHOO
  2SHA 2SHAA 2SHWE 2WEST-CREE_SHWE 2SHWI 2WEST-CREE_SHWI 2SHWII 2WEST-CREE_SHWII 2SHWO
  2WEST-CREE_SHWO 2SHWOO 2WEST-CREE_SHWOO 2SHWA 2WEST-CREE_SHWA 2SHWAA 2WEST-CREE_SHWAA 2SH 2YE
  2YAAI 2YI 2YII 2YO 2YOO 2Y-CREE_YOO 2YA 2YAA 2YWE 2WEST-CREE_YWE 2YWI 2WEST-CREE_YWI 2YWII
  2WEST-CREE_YWII 2YWO 2WEST-CREE_YWO 2YWOO 2WEST-CREE_YWOO 2YWA 2WEST-CREE_YWA 2YWAA
  2WEST-CREE_YWAA 2NASKAPI_YWAA 2Y 2BIBLE-CREE_Y 2WEST-CREE_Y 2SAYISI_YI 2RE 2R-CREE_RE
  2WEST-CREE_LE 2RAAI 2RI 2RII 2RO 2ROO 2WEST-CREE_LO 2RA 2RAA 2WEST-CREE_LA 2RWAA 2WEST-CREE_RWAA
  2R 2WEST-CREE_R 2MEDIAL_R 2FE 2FAAI 2FI 2FII 2FO 2FOO 2FA 2FAA 2FWAA 2WEST-CREE_FWAA 2F 2THE
  2N-CREE_THE 2THI 2N-CREE_THI 2THII 2N-CREE_THII 2THO 2THOO 2THA 2THAA 2THWAA 2WEST-CREE_THWAA
  2TH 2TTHE 2TTHI 2TTHO 2TTHA 2TTH 2TYE 2TYI 2TYO 2TYA 2NUNAVIK_HE 3HI 3HII 3HO 3HOO 3HA 3HAA 3H
  2NUNAVUT_H 2HK 2QAAI 2QI 2QII 2QO 2QOO 2QA 2QAA 2Q 2TLHE 2TLHI 2TLHO 2TLHA 2WEST-CREE_RE 3RI 3RO
  3RA 2NGAAI 2NGI 2NGII 2NGO 2NGOO 2NGA 2NGAA 2NG 2NNG 2SAYISI_SHE 3SHI 3SHO 3SHA 2WOODS-CREE_THE
  3THI 3THO 3THA 3TH 2LHI 2LHII 2LHO 2LHOO 2LHA 2LHAA 2LH 2TH-CREE_THE 3THI 3THII 3THO 3THOO 3THA
  3THAA 3TH 2AIVILIK_B 2BLACKFOOT_E 3I 3O 3A 3WE 3WI 3WO 3WA 3NE 3NI 3NO 3NA 3KE 3KI 3KO 3KA
  2SAYISI_HE 3HI 3HO 3HA 2CARRIER_GHU 3GHO 3GHE 3GHEE 3GHI 3GHA 3RU 3RO 3RE 3REE 3RI 3RA 3WU 3WO
  3WE 3WEE 3WI 3WA 3HWU 3HWO 3HWE 3HWEE 3HWI 3HWA 3THU 3THO 3THE 3THEE 3THI 3THA 3TTU 3TTO 3TTE
  3TTEE 3TTI 3TTA 3PU 3PO 3PE 3PEE 3PI 3PA 3P 3GU 3GO 3GE 3GEE 3GI 3GA 3KHU 3KHO 3KHE 3KHEE 3KHI
  3KHA 3KKU 3KKO 3KKE 3KKEE 3KKI 3KKA 3KK 3NU 3NO 3NE 3NEE 3NI 3NA 3MU 3MO 3ME 3MEE 3MI 3MA 3YU
  3YO 3YE 3YEE 3YI 3YA 3JU 2SAYISI_JU 2CARRIER_JO 3JE 3JEE 3JI 2SAYISI_JI 2CARRIER_JA 3JJU 3JJO
  3JJE 3JJEE 3JJI 3JJA 3LU 3LO 3LE 3LEE 3LI 3LA 3DLU 3DLO 3DLE 3DLEE 3DLI 3DLA 3LHU 3LHO 3LHE
  3LHEE 3LHI 3LHA 3TLHU 3TLHO 3TLHE 3TLHEE 3TLHI 3TLHA 3TLU 3TLO 3TLE 3TLEE 3TLI 3TLA 3ZU 3ZO 3ZE
  3ZEE 3ZI 3ZA 3Z 3INITIAL_Z 3DZU 3DZO 3DZE 3DZEE 3DZI 3DZA 3SU 3SO 3SE 3SEE 3SI 3SA 3SHU 3SHO
  3SHE 3SHEE 3SHI 3SHA 3SH 3TSU 3TSO 3TSE 3TSEE 3TSI 3TSA 3CHU 3CHO 3CHE 3CHEE 3CHI 3CHA 3TTSU
  3TTSO 3TTSE 3TTSEE 3TTSI 3TTSA 2CHI_SIGN 2FULL_STOP 2QAI 2NGAI 2NNGI 2NNGII 2NNGO 2NNGOO 2NNGA
  2NNGAA 2WOODS-CREE_THWEE 3THWI 3THWII 3THWO 3THWOO 3THWA 3THWAA 3FINAL_TH 2BLACKFOOT_W
  0OGHAM_SPACE_MARK 1LETTER_BEITH 2LUIS 2FEARN 2SAIL 2NION 2UATH 2DAIR 2TINNE 2COLL 2CEIRT 2MUIN
  2GORT 2NGEADAL 2STRAIF 2RUIS 2AILM 2ONN 2UR 2EADHADH 2IODHADH 2EABHADH 2OR 2UILLEANN 2IFIN
  2EAMHANCHOLL 2PEITH 1FEATHER_MARK 1REVERSED_FEATHER_MARK =16a0 0RUNIC_LETTER_FEHU_FEOH_FE_F 2V
  2URUZ_UR_U 2YR 2Y 2W 2THURISAZ_THURS_THORN 2ETH 2ANSUZ_A 2OS_O 2AC_A 2AESC 2LONG-BRANCH-OSS_O
  2SHORT-TWIG-OSS_O 2O 2OE 2ON 2RAIDO_RAD_REID_R 2KAUNA 2CEN 2KAUN_K 2G 2ENG 2GEBO_GYFU_G 2GAR
  2WUNJO_WYNN_W 2HAGLAZ_H 2HAEGL_H 2LONG-BRANCH-HAGALL_H 2SHORT-TWIG-HAGALL_H 2NAUDIZ_NYD_NAUD_N
  2SHORT-TWIG-NAUD_N 2DOTTED-N 2ISAZ_IS_ISS_I 2E 2JERAN_J 2GER 2LONG-BRANCH-AR_AE 2SHORT-TWIG-AR_A
  2IWAZ_EOH 2PERTHO_PEORTH_P 2ALGIZ_EOLHX 2SOWILO_S 2SIGEL_LONG-BRANCH-SOL_S 2SHORT-TWIG-SOL_S 2C
  2Z 2TIWAZ_TIR_TYR_T 2SHORT-TWIG-TYR_T 2D 2BERKANAN_BEORC_BJARKAN_B 2SHORT-TWIG-BJARKAN_B
  2DOTTED-P 2OPEN-P 2EHWAZ_EH_E 2MANNAZ_MAN_M 2LONG-BRANCH-MADR_M 2SHORT-TWIG-MADR_M
  2LAUKAZ_LAGU_LOGR_L 2DOTTED-L 2INGWAZ 2ING 2DAGAZ_DAEG_D 2OTHALAN_ETHEL_O 2EAR 2IOR 2CWEORTH
  2CALC 2CEALC 2STAN 2LONG-BRANCH-YR 2SHORT-TWIG-YR 2ICELANDIC-YR 2Q 2X 1SINGLE_PUNCTUATION
  1MULTIPLE_PUNCTUATION 1CROSS_PUNCTUATION 1ARLAUG_SYMBOL 1TVIMADUR_SYMBOL 1BELGTHOR_SYMBOL
  1LETTER_K 2SH 2OO 2FRANKS_CASKET_OS 4IS 4EH 4AC 4AESC =1700 0TAGALOG_LETTER_A 2I 2U 2KA 2GA 2NGA
  2TA 2DA 2NA 2PA 2BA 2MA 2YA 2RA 2LA 2WA 2SA 2HA 1VOWEL_SIGN_I 3U 1SIGN_VIRAMA 2PAMUDPOD =171f
  1LETTER_ARCHAIC_RA 0HANUNOO_LETTER_A 2I 2U 2KA 2GA 2NGA 2TA 2DA 2NA 2PA 2BA 2MA 2YA 2RA 2LA 2WA
  2SA 2HA 1VOWEL_SIGN_I 3U 1SIGN_PAMUDPOD 0PHILIPPINE_SINGLE_PUNCTUATION 1DOUBLE_PUNCTUATION =1740
  0BUHID_LETTER_A 2I 2U 2KA 2GA 2NGA 2TA 2DA 2NA 2PA 2BA 2MA 2YA 2RA 2LA 2WA 2SA 2HA 1VOWEL_SIGN_I
  3U =1760 0TAGBANWA_LETTER_A 2I 2U 2KA 2GA 2NGA 2TA 2DA 2NA 2PA 2BA 2MA 2YA =176e 2LA 2WA 2SA
  =1772 1VOWEL_SIGN_I 3U =1780 0KHMER_LETTER_KA 2KHA 2KO 2KHO 2NGO 2CA 2CHA 2CO 2CHO 2NYO 2DA
  2TTHA 2DO 2TTHO 2NNO 2TA 2THA 2TO 2THO 2NO 2BA 2PHA 2PO 2PHO 2MO 2YO 2RO 2LO 2VO 2SHA 2SSO 2SA
  2HA 2LA 2QA 1INDEPENDENT_VOWEL_QAQ 3QAA 3QI 3QII 3QU 3QUK 3QUU 3QUUV 3RY 3RYY 3LY 3LYY 3QE 3QAI
  3QOO_TYPE_ONE 5TWO 3QAU 1VOWEL_INHERENT_AQ 3AA 2SIGN_AA 3I 3II 3Y 3YY 3U 3UU 3UA 3OE 3YA 3IE 3E
  3AE 3AI 3OO 3AU 1SIGN_NIKAHIT 2REAHMUK 2YUUKALEAPINTU 2MUUSIKATOAN 2TRIISAP 2BANTOC 2ROBAT
  2TOANDAKHIAT 2KAKABAT 2AHSDA 2SAMYOK_SANNYA 2VIRIAM 2COENG 2BATHAMASAT 2KHAN 2BARIYOOSAN
  2CAMNUC_PII_KUUH 2LEK_TOO 2BEYYAL 2PHNAEK_MUAN 2KOOMUUT 1CURRENCY_SYMBOL_RIEL
  1SIGN_AVAKRAHASANYA 2ATTHACAN =17e0 1DIGIT_ZERO 2ONE 2TWO 2THREE 2FOUR 2FIVE 2SIX 2SEVEN 2EIGHT
  2NINE =17f0 1SYMBOL_LEK_ATTAK_SON 4MUOY 4PII 4BEI 4BUON 4PRAM 4PRAM-MUOY 4PRAM-PII 4PRAM-BEI
  4PRAM-BUON =1800 0MONGOLIAN_BIRGA 1ELLIPSIS 1COMMA 1FULL_STOP 1COLON 1FOUR_DOTS
  1TODO_SOFT_HYPHEN 1SIBE_SYLLABLE_BOUNDARY_MARKER 1MANCHU_COMMA 2FULL_STOP 1NIRUGU
  1FREE_VARIATION_SELECTOR_ONE 4TWO 4THREE 1VOWEL_SEPARATOR 1FREE_VARIATION_SELECTOR_FOUR
  1DIGIT_ZERO 2ONE 2TWO 2THREE 2FOUR 2FIVE 2SIX 2SEVEN 2EIGHT 2NINE =1820 1LETTER_A 2E 2I 2O 2U
  2OE 2UE 2EE 2NA 2ANG 2BA 2PA 2QA 2GA 2MA 2LA 2SA 2SHA 2TA 2DA 2CHA 2JA 2YA 2RA 2WA 2FA 2KA 2KHA
  2TSA 2ZA 2HAA 2ZRA 2LHA 2ZHI 2CHI 2TODO_LONG_VOWEL_SIGN 3E 3I 3O 3U 3OE 3UE 3ANG 3BA 3PA 3QA 3GA
  3MA 3TA 3DA 3CHA 3JA 3TSA 3YA 3WA 3KA 3GAA 3HAA 3JIA 3NIA 3DZA 2SIBE_E 3I 3IY 3UE 3U 3ANG 3KA
  3GA 3HA 3PA 3SHA 3TA 3DA 3JA 3FA 3GAA 3HAA 3TSA 3ZA 3RAA 3CHA 3ZHA 2MANCHU_I 3KA 3RA 3FA 3ZHA
  2CHA_WITH_TWO_DOTS =1880 2ALI_GALI_ANUSVARA_ONE 4VISARGA_ONE 4DAMARU 4UBADAMA 4INVERTED_UBADAMA
  4BALUDA 4THREE_BALUDA 4A 4I 4KA 4NGA 4CA 4TTA 4TTHA 4DDA 4NNA 4TA 4DA 4PA 4PHA 4SSA 4ZHA 4ZA 4AH
  2TODO_ALI_GALI_TA 5ZHA 2MANCHU_ALI_GALI_GHA 5NGA 5CA 5JHA 5TTA 5DDHA 5TA 5DHA 5SSA 5CYA 5ZHA 5ZA
  2ALI_GALI_HALF_U 5YA 2MANCHU_ALI_GALI_BHA 2ALI_GALI_DAGALGA 2MANCHU_ALI_GALI_LHA =18b0
  0CANADIAN_SYLLABICS_OY 2AY 2AAY 2WAY 2POY 2PAY 2PWOY 2TAY 2KAY 2KWAY 2MAY 2NOY 2NAY 2LAY 2SOY
  2SAY 2SHOY 2SHAY 2SHWOY 2YOY 2YAY 2RAY 2NWI 2OJIBWAY_NWI 2NWII 2OJIBWAY_NWII 2NWO 2OJIBWAY_NWO
  2NWOO 2OJIBWAY_NWOO 2RWEE 2RWI 2RWII 2RWO 2RWOO 2RWA 2OJIBWAY_P 3T 3K 3C 3M 3N 3S 3SH 2EASTERN_W
  2WESTERN_W 2FINAL_SMALL_RING 3RAISED_DOT 2R-CREE_RWE 2WEST-CREE_LOO 3LAA 2THWE 2THWA 2TTHWE
  2TTHOO 2TTHAA 2TLHWE 2TLHOO 2SAYISI_SHWE 3SHOO 3HOO 2CARRIER_GWU 3DENE_GEE 3GAA 3GWA 2SAYISI_JUU
  2CARRIER_JWA 2BEAVER_DENE_L 4R 2CARRIER_DENTAL_S =1900 0LIMBU_VOWEL-CARRIER_LETTER 1LETTER_KA
  2KHA 2GA 2GHA 2NGA 2CA 2CHA 2JA 2JHA 2YAN 2TA 2THA 2DA 2DHA 2NA 2PA 2PHA 2BA 2BHA 2MA 2YA 2RA
  2LA 2WA 2SHA 2SSA 2SA 2HA 2GYAN 2TRA =1920 1VOWEL_SIGN_A 3I 3U 3EE 3AI 3OO 3AU 3E 3O
  1SUBJOINED_LETTER_YA 3RA 3WA =1930 1SMALL_LETTER_KA 3NGA 3ANUSVARA 3TA 3NA 3PA 3MA 3RA 3LA
  1SIGN_MUKPHRENG 2KEMPHRENG 2SA-I =1940 2LOO =1944 1EXCLAMATION_MARK 1QUESTION_MARK 1DIGIT_ZERO
  2ONE 2TWO 2THREE 2FOUR 2FIVE 2SIX 2SEVEN 2EIGHT 2NINE 0TAI_LE_LETTER_KA 3XA 3NGA 3TSA 3SA 3YA
  3TA 3THA 3LA 3PA 3PHA 3MA 3FA 3VA 3HA 3QA 3KHA 3TSHA 3NA 3A 3I 3EE 3EH 3U 3OO 3O 3UE 3E 3AUE 3AI
  =1970 3TONE-2 3TONE-3 3TONE-4 3TONE-5 3TONE-6 =1980 0NEW_TAI_LUE_LETTER_HIGH_QA 4LOW_QA 4HIGH_KA
  5XA 5NGA 4LOW_KA 5XA 5NGA 4HIGH_TSA 5SA 5YA 4LOW_TSA 5SA 5YA 4HIGH_TA 5THA 5NA 4LOW_TA 5THA 5NA
  4HIGH_PA 5PHA 5MA 4LOW_PA 5PHA 5MA 4HIGH_FA 5VA 5LA 4LOW_FA 5VA 5LA 4HIGH_HA 5DA 5BA 4LOW_HA 5DA
  5BA 4HIGH_KVA 5XVA 4LOW_KVA 5XVA 4HIGH_SUA 4LOW_SUA =19b0 3VOWEL_SIGN_VOWEL_SHORTENER 5AA 5II 5U
  5UU 5E 5AE 5O 5OA 5UE 5AY 5AAY 5UY 5OY 5OAY 5UEY 5IY 3LETTER_FINAL_V 5NG 5N 5M 5K 5D 5B
  3TONE_MARK-1 4MARK-2 =19d0 3DIGIT_ZERO 4ONE 4TWO 4THREE 4FOUR 4FIVE 4SIX 4SEVEN 4EIGHT 4NINE
  3THAM_DIGIT_ONE =19de 3SIGN_LAE 4LAEV 0KHMER_SYMBOL_PATHAMASAT 2MUOY_KOET 2PII_KOET 2BEI_KOET
  2BUON_KOET 2PRAM_KOET 2PRAM-MUOY_KOET 2PRAM-PII_KOET 2PRAM-BEI_KOET 2PRAM-BUON_KOET 2DAP_KOET
  2DAP-MUOY_KOET 2DAP-PII_KOET 2DAP-BEI_KOET 2DAP-BUON_KOET 2DAP-PRAM_KOET 2TUTEYASAT 2MUOY_ROC
  2PII_ROC 2BEI_ROC 2BUON_ROC 2PRAM_ROC 2PRAM-MUOY_ROC 2PRAM-PII_ROC 2PRAM-BEI_ROC 2PRAM-BUON_ROC
  2DAP_ROC 2DAP-MUOY_ROC 2DAP-PII_ROC 2DAP-BEI_ROC 2DAP-BUON_ROC 2DAP-PRAM_ROC 0BUGINESE_LETTER_KA
  2GA 2NGA 2NGKA 2PA 2BA 2MA 2MPA 2TA 2DA 2NA 2NRA 2CA 2JA 2NYA 2NYCA 2YA 2RA 2LA 2VA 2SA 2A 2HA
  1VOWEL_SIGN_I 3U 3E 3O 3AE =1a1e 1PALLAWA 1END_OF_SECTION 0TAI_THAM_LETTER_HIGH_KA 4KHA 4KXA
  3LOW_KA 4KXA 4KHA 3NGA 3HIGH_CA 4CHA 3LOW_CA 4SA 4CHA 3NYA 3RATA 3HIGH_RATHA 3DA 3LOW_RATHA
  3RANA 3HIGH_TA 4THA 3LOW_TA 4THA 3NA 3BA 3HIGH_PA 4PHA 4FA 3LOW_PA 4FA 4PHA 3MA 3LOW_YA 3HIGH_YA
  3RA 3RUE 3LA 3LUE 3WA 3HIGH_SHA 4SSA 4SA 4HA 3LLA 3A 3LOW_HA 3I 3II 3U 3UU 3EE 3OO 3LAE
  3GREAT_SA 2CONSONANT_SIGN_MEDIAL_RA 5LA 4LA_TANG_LAI 2SIGN_MAI_KANG_LAI
  2CONSONANT_SIGN_FINAL_NGA 4LOW_PA 4HIGH_RATHA_OR_LOW_PA 4MA 4BA 4SA =1a60 2SIGN_SAKOT
  2VOWEL_SIGN_A 4MAI_SAT 4AA 4TALL_AA 4I 4II 4UE 4UUE 4U 4UU 4O 4OA_BELOW 4OY 4E 4AE 4OO 4AI
  4THAM_AI 4OA_ABOVE 2SIGN_MAI_KANG 3TONE-1 3TONE-2 3KHUEN_TONE-3 4TONE-4 4TONE-5 3RA_HAAM
  3MAI_SAM 3KHUEN-LUE_KARAN =1a7f 2COMBINING_CRYPTOGRAMMIC_DOT 2HORA_DIGIT_ZERO 4ONE 4TWO 4THREE
  4FOUR 4FIVE 4SIX 4SEVEN 4EIGHT 4NINE =1a90 2THAM_DIGIT_ZERO 4ONE 4TWO 4THREE 4FOUR 4FIVE 4SIX
  4SEVEN 4EIGHT 4NINE =1aa0 2SIGN_WIANG 3WIANGWAAK 3SAWAN 3KEOW 3HOY 3DOKMAI
  3REVERSED_ROTATED_RANA 3MAI_YAMOK 3KAAN 3KAANKUU 3SATKAAN 3SATKAANKUU 3HANG 3CAANG =1ab0
  0COMBINING_DOUBLED_CIRCUMFLEX_ACCENT 1DIAERESIS-RING 1INFINITY 1DOWNWARDS_ARROW 1TRIPLE_DOT
  1X-X_BELOW 1WIGGLY_LINE_BELOW 1OPEN_MARK_BELOW 1DOUBLE_OPEN_MARK_BELOW
  1LIGHT_CENTRALIZATION_STROKE_BELOW 1STRONG_CENTRALIZATION_STROKE_BELOW 1PARENTHESES_ABOVE
  1DOUBLE_PARENTHESES_ABOVE 1PARENTHESES_BELOW 2OVERLAY 1LATIN_SMALL_LETTER_W_BELOW
  4TURNED_W_BELOW 1LEFT_PARENTHESIS_ABOVE_LEFT 1RIGHT_PARENTHESIS_ABOVE_RIGHT
  1LEFT_PARENTHESIS_BELOW_LEFT 1RIGHT_PARENTHESIS_BELOW_RIGHT 1SQUARE_BRACKETS_ABOVE
  1NUMBER_SIGN_ABOVE 1INVERTED_DOUBLE_ARCH_ABOVE 1PLUS_SIGN_ABOVE 1DOUBLE_PLUS_SIGN_ABOVE 4BELOW
  1TRIPLE_ACUTE_ACCENT 1LATIN_SMALL_LETTER_INSULAR_G 5R 5T =1b00 0BALINESE_SIGN_ULU_RICEM 3CANDRA
  2CECEK 2SURANG 2BISAH 1LETTER_AKARA 3TEDUNG 2IKARA 3TEDUNG 2UKARA 3TEDUNG 2RA_REPA 4TEDUNG
  2LA_LENGA 4TEDUNG 2EKARA 2AIKARA 2OKARA 3TEDUNG 2KA 3MAHAPRANA 2GA 3GORA 2NGA 2CA 3LACA 2JA
  3JERA 2NYA 2TA_LATIK 3MURDA_MAHAPRANA 2DA_MURDA_ALPAPRANA 4MAHAPRANA 2NA_RAMBAT 2TA 3TAWA 2DA
  3MADU 2NA 2PA 3KAPAL 2BA 3KEMBANG 2MA 2YA 2RA 2LA 2WA 2SA_SAGA 3SAPA 3 2HA 1SIGN_REREKAN
  1VOWEL_SIGN_TEDUNG 3ULU 4SARI 3SUKU 4ILUT 3RA_REPA 5TEDUNG 3LA_LENGA 5TEDUNG 3TALING 4REPA
  4TEDUNG 4REPA_TEDUNG 3PEPET 4TEDUNG 1ADEG_ADEG 1LETTER_KAF_SASAK 2KHOT_SASAK 2TZIR_SASAK
  2EF_SASAK 2VE_SASAK 2ZAL_SASAK 2ASYURA_SASAK 2ARCHAIC_JNYA =1b50 1DIGIT_ZERO 2ONE 2TWO 2THREE
  2FOUR 2FIVE 2SIX 2SEVEN 2EIGHT 2NINE 1PANTI 1PAMADA 1WINDU 1CARIK_PAMUNGKAH 2SIKI 2PAREREN
  1PAMENENG 1MUSICAL_SYMBOL_DONG 3DENG 3DUNG 3DANG 4SURANG 3DING 3DAENG 3DEUNG 3DAING 3DANG_GEDE
  3COMBINING_TEGEH 4ENDEP 4KEMPUL 4KEMPLI 4JEGOGAN 4KEMPUL_WITH_JEGOGAN 4KEMPLI_WITH_JEGOGAN
  4BENDE 4GONG 3RIGHT-HAND_OPEN_DUG 5DAG 4CLOSED_TUK 5TAK 3LEFT-HAND_OPEN_PANG 5PUNG 4CLOSED_PLAK
  5PLUK 4OPEN_PING 1PANTI_LANTANG 1PAMADA_LANTANG =1b80 0SUNDANESE_SIGN_PANYECEK 2PANGLAYAR
  2PANGWISAD 1LETTER_A 2I 2U 2AE 2O 2E 2EU 2KA 2QA 2GA 2NGA 2CA 2JA 2ZA 2NYA 2TA 2DA 2NA 2PA 2FA
  2VA 2BA 2MA 2YA 2RA 2LA 2WA 2SA 2XA 2HA 1CONSONANT_SIGN_PAMINGKAL 3PANYAKRA 3PANYIKU
  1VOWEL_SIGN_PANGHULU 3PANYUKU 3PANAELAENG 3PANOLONG 3PAMEPET 3PANEULEUNG 1SIGN_PAMAAEH 2VIRAMA
  1CONSONANT_SIGN_PASANGAN_MA 4WA 1LETTER_KHA 2SYA 1DIGIT_ZERO 2ONE 2TWO 2THREE 2FOUR 2FIVE 2SIX
  2SEVEN 2EIGHT 2NINE 1AVAGRAHA 1LETTER_REU 2LEU 2BHA 2FINAL_K 3M 0BATAK_LETTER_A 2SIMALUNGUN_A
  2HA 2SIMALUNGUN_HA 2MANDAILING_HA 2BA 2KARO_BA 2PA 2SIMALUNGUN_PA 2NA 2MANDAILING_NA 2WA
  2SIMALUNGUN_WA 2PAKPAK_WA 2GA 2SIMALUNGUN_GA 2JA 2DA 2RA 2SIMALUNGUN_RA 2MA 2SIMALUNGUN_MA
  2SOUTHERN_TA 2NORTHERN_TA 2SA 2SIMALUNGUN_SA 2MANDAILING_SA 2YA 2SIMALUNGUN_YA 2NGA 2LA
  2SIMALUNGUN_LA 2NYA 2CA 2NDA 2MBA 2I 2U 1SIGN_TOMPI 1VOWEL_SIGN_E 3PAKPAK_E 3EE 3I 3KARO_I 3O
  3KARO_O 3U 4FOR_SIMALUNGUN_SA 1CONSONANT_SIGN_NG 3H 1PANGOLAT 1PANONGONAN =1bfc
  1SYMBOL_BINDU_NA_METEK 3PINARBORAS 3JUDUL 3PANGOLAT 0LEPCHA_LETTER_KA 2KLA 2KHA 2GA 2GLA 2NGA
  2CA 2CHA 2JA 2NYA 2TA 2THA 2DA 2NA 2PA 2PLA 2PHA 2FA 2FLA 2BA 2BLA 2MA 2MLA 2TSA 2TSHA 2DZA 2YA
  2RA 2LA 2HA 2HLA 2VA 2SA 2SHA 2WA 2A 1SUBJOINED_LETTER_YA 3RA 1VOWEL_SIGN_AA 3I 3O 3OO 3U 3UU 3E
  1CONSONANT_SIGN_K 3M 3L 3N 3P 3R 3T 3NYIN-DO 3KANG 1SIGN_RAN 2NUKTA =1c3b 1PUNCTUATION_TA-ROL
  2NYET_THYOOM_TA-ROL 2CER-WA 2TSHOOK_CER-WA 3 1DIGIT_ZERO 2ONE 2TWO 2THREE 2FOUR 2FIVE 2SIX
  2SEVEN 2EIGHT 2NINE =1c4d 1LETTER_TTA 2TTHA 2DDA 0OL_CHIKI_DIGIT_ZERO 3ONE 3TWO 3THREE 3FOUR
  3FIVE 3SIX 3SEVEN 3EIGHT 3NINE 2LETTER_LA 3AT 3AG 3ANG 3AL 3LAA 3AAK 3AAJ 3AAM 3AAW 3LI 3IS 3IH
  3INY 3IR 3LU 3UC 3UD 3UNN 3UY 3LE 3EP 3EDD 3EN 3ERR 3LO 3OTT 3OB 3OV 3OH 2MU_TTUDDAG
  2GAAHLAA_TTUDDAAG 2MU-GAAHLAA_TTUDDAAG 2RELAA 2PHAARKAA 2AHAD 2PUNCTUATION_MUCAAD 3DOUBLE_MUCAAD
  0CYRILLIC_SMALL_LETTER_ROUNDED_VE 3LONG-LEGGED_DE 3NARROW_O 3WIDE_ES 3TALL_TE 3THREE-LEGGED_TE
  3TALL_HARD_SIGN 4YAT 3UNBLENDED_UK =1c90 0GEORGIAN_MTAVRULI_CAPITAL_LETTER_AN 4BAN 4GAN 4DON 4EN
  4VIN 4ZEN 4TAN 4IN 4KAN 4LAS 4MAN 4NAR 4ON 4PAR 4ZHAR 4RAE 4SAN 4TAR 4UN 4PHAR 4KHAR 4GHAN 4QAR
  4SHIN 4CHIN 4CAN 4JIL 4CIL 4CHAR 4XAN 4JHAN 4HAE 4HE 4HIE 4WE 4HAR 4HOE 4FI 4YN 4ELIFI
  4TURNED_GAN 4AIN =1cbd 4AEN 4HARD_SIGN 4LABIAL_SIGN 0SUNDANESE_PUNCTUATION_BINDU_SURYA 3PANGLONG
  3PURNAMA 3CAKRA 3LEU_SATANGA 3KA_SATANGA 3DA_SATANGA 3BA_SATANGA =1cd0 0VEDIC_TONE_KARSHANA
  2SHARA 2PRENKHA 1SIGN_NIHSHVASA 2YAJURVEDIC_MIDLINE_SVARITA
  1TONE_YAJURVEDIC_AGGRAVATED_INDEPENDENT_SVARITA 3INDEPENDENT_SVARITA
  3KATHAKA_INDEPENDENT_SVARITA 2CANDRA_BELOW 2YAJURVEDIC_KATHAKA_INDEPENDENT_SVARITA_SCHROEDER
  2DOUBLE_SVARITA 2TRIPLE_SVARITA 2KATHAKA_ANUDATTA 2DOT_BELOW 2TWO_DOTS_BELOW 2THREE_DOTS_BELOW
  2RIGVEDIC_KASHMIRI_INDEPENDENT_SVARITA 2ATHARVAVEDIC_INDEPENDENT_SVARITA 1SIGN_VISARGA_SVARITA
  3UDATTA 2REVERSED_VISARGA_UDATTA 2VISARGA_ANUDATTA 2REVERSED_VISARGA_ANUDATTA
  2VISARGA_UDATTA_WITH_TAIL 3ANUDATTA_WITH_TAIL 2ANUSVARA_ANTARGOMUKHA 3BAHIRGOMUKHA 3VAMAGOMUKHA
  4WITH_TAIL 2TIRYAK 2HEXIFORM_LONG_ANUSVARA 2LONG_ANUSVARA 2RTHANG_LONG_ANUSVARA
  2ANUSVARA_UBHAYATO_MUKHA 2ARDHAVISARGA 2ROTATED_ARDHAVISARGA 1TONE_CANDRA_ABOVE
  1SIGN_JIHVAMULIYA 2UPADHMANIYA 2ATIKRAMA 1TONE_RING_ABOVE 2DOUBLE_RING_ABOVE
  1SIGN_DOUBLE_ANUSVARA_ANTARGOMUKHA =1d00 0LATIN_LETTER_SMALL_CAPITAL_A 4AE
  1SMALL_LETTER_TURNED_AE 1LETTER_SMALL_CAPITAL_BARRED_B 4C 4D 4ETH 4E 1SMALL_LETTER_TURNED_OPEN_E
  4I 1LETTER_SMALL_CAPITAL_J 4K 4L_WITH_STROKE 4M 4REVERSED_N 4O 4OPEN_O 1SMALL_LETTER_SIDEWAYS_O
  4OPEN_O 4O_WITH_STROKE 3TURNED_OE 1LETTER_SMALL_CAPITAL_OU 1SMALL_LETTER_TOP_HALF_O
  3BOTTOM_HALF_O 1LETTER_SMALL_CAPITAL_P 4REVERSED_R 4TURNED_R 4T 4U 1SMALL_LETTER_SIDEWAYS_U
  4DIAERESIZED_U 4TURNED_M 1LETTER_SMALL_CAPITAL_V 4W 4Z 4EZH 2VOICED_LARYNGEAL_SPIRANT 2AIN
  0GREEK_LETTER_SMALL_CAPITAL_GAMMA 4LAMDA 4PI 4RHO 4PSI 0CYRILLIC_LETTER_SMALL_CAPITAL_EL
  0MODIFIER_LETTER_CAPITAL_A 3AE 3B 3BARRED_B 3D 3E 3REVERSED_E 3G 3H 3I 3J 3K 3L 3M 3N
  3REVERSED_N 3O 3OU 3P 3R 3T 3U 3W 2SMALL_A 3TURNED_A 3ALPHA 3TURNED_AE 3B 3D 3E 3SCHWA 3OPEN_E
  3TURNED_OPEN_E 3G 3TURNED_I 3K 3M 3ENG 3O 3OPEN_O 3TOP_HALF_O 3BOTTOM_HALF_O 3P 3T 3U
  3SIDEWAYS_U 3TURNED_M 3V 3AIN 3BETA 3GREEK_GAMMA 3DELTA 3GREEK_PHI 3CHI
  0LATIN_SUBSCRIPT_SMALL_LETTER_I 4R 4U 4V 0GREEK_SUBSCRIPT_SMALL_LETTER_BETA 4GAMMA 4RHO 4PHI
  4CHI 0LATIN_SMALL_LETTER_UE 3B_WITH_MIDDLE_TILDE 3D_WITH_MIDDLE_TILDE 3F_WITH_MIDDLE_TILDE
  3M_WITH_MIDDLE_TILDE 3N_WITH_MIDDLE_TILDE 3P_WITH_MIDDLE_TILDE 3R_WITH_MIDDLE_TILDE
  5FISHHOOK_AND_MIDDLE_TILDE 3S_WITH_MIDDLE_TILDE 3T_WITH_MIDDLE_TILDE 3Z_WITH_MIDDLE_TILDE
  3TURNED_G 0MODIFIER_LETTER_CYRILLIC_EN 0LATIN_SMALL_LETTER_INSULAR_G 3TH_WITH_STRIKETHROUGH
  2CAPITAL_LETTER_I_WITH_STROKE 2LETTER_IOTA_WITH_STROKE 3P_WITH_STROKE
  2CAPITAL_LETTER_U_WITH_STROKE 2LETTER_UPSILON_WITH_STROKE 3B_WITH_PALATAL_HOOK
  3D_WITH_PALATAL_HOOK 3F_WITH_PALATAL_HOOK 3G_WITH_PALATAL_HOOK 3K_WITH_PALATAL_HOOK
  3L_WITH_PALATAL_HOOK 3M_WITH_PALATAL_HOOK 3N_WITH_PALATAL_HOOK 3P_WITH_PALATAL_HOOK
  3R_WITH_PALATAL_HOOK 3S_WITH_PALATAL_HOOK 3ESH_WITH_PALATAL_HOOK 3V_WITH_PALATAL_HOOK
  3X_WITH_PALATAL_HOOK 3Z_WITH_PALATAL_HOOK 3A_WITH_RETROFLEX_HOOK 3ALPHA_WITH_RETROFLEX_HOOK
  3D_WITH_HOOK_AND_TAIL 3E_WITH_RETROFLEX_HOOK 3OPEN_E_WITH_RETROFLEX_HOOK
  3REVERSED_OPEN_E_WITH_RETROFLEX_HOOK 3SCHWA_WITH_RETROFLEX_HOOK 3I_WITH_RETROFLEX_HOOK
  3OPEN_O_WITH_RETROFLEX_HOOK 3ESH_WITH_RETROFLEX_HOOK 3U_WITH_RETROFLEX_HOOK
  3EZH_WITH_RETROFLEX_HOOK 0MODIFIER_LETTER_SMALL_TURNED_ALPHA 3C 4WITH_CURL 3ETH 3REVERSED_OPEN_E
  3F 3DOTLESS_J_WITH_STROKE 3SCRIPT_G 3TURNED_H 3I_WITH_STROKE 3IOTA 3CAPITAL_I 5WITH_STROKE
  3J_WITH_CROSSED-TAIL 3L_WITH_RETROFLEX_HOOK 5PALATAL_HOOK 3CAPITAL_L 3M_WITH_HOOK
  3TURNED_M_WITH_LONG_LEG 3N_WITH_LEFT_HOOK 5RETROFLEX_HOOK 3CAPITAL_N 3BARRED_O 3PHI 3S_WITH_HOOK
  3ESH 3T_WITH_PALATAL_HOOK 3U_BAR 3UPSILON 3CAPITAL_U 3V_WITH_HOOK 3TURNED_V 3Z
  4WITH_RETROFLEX_HOOK 5CURL 3EZH 3THETA 0COMBINING_DOTTED_GRAVE_ACCENT 2ACUTE_ACCENT 1SNAKE_BELOW
  1SUSPENSION_MARK 1MACRON-ACUTE 1GRAVE-MACRON 1MACRON-GRAVE 1ACUTE-MACRON 1GRAVE-ACUTE-GRAVE
  1ACUTE-GRAVE-ACUTE 1LATIN_SMALL_LETTER_R_BELOW 1BREVE-MACRON 1MACRON-BREVE
  1DOUBLE_CIRCUMFLEX_ABOVE 1OGONEK_ABOVE 1ZIGZAG_BELOW 1IS_BELOW 1UR_ABOVE 1US_ABOVE
  1LATIN_SMALL_LETTER_FLATTENED_OPEN_A_ABOVE 4AE 4AO 4AV 4C_CEDILLA 4INSULAR_D 4ETH 4G
  2LETTER_SMALL_CAPITAL_G 2SMALL_LETTER_K 4L 2LETTER_SMALL_CAPITAL_L 5M 2SMALL_LETTER_N
  2LETTER_SMALL_CAPITAL_N 5R 2SMALL_LETTER_R_ROTUNDA 4S 4LONG_S 4Z 4ALPHA 4B 4BETA 4SCHWA 4F
  4L_WITH_DOUBLE_MIDDLE_TILDE 4O_WITH_LIGHT_CENTRALIZATION_STROKE 4P 4ESH
  4U_WITH_LIGHT_CENTRALIZATION_STROKE 4W 4A_WITH_DIAERESIS 4O_WITH_DIAERESIS 4U_WITH_DIAERESIS
  1UP_TACK_ABOVE 1KAVYKA_ABOVE_RIGHT 3LEFT 1DOT_ABOVE_LEFT 1WIDE_INVERTED_BRIDGE_BELOW
  1DOT_BELOW_LEFT 1DELETION_MARK 1DOUBLE_INVERTED_BREVE_BELOW 1ALMOST_EQUAL_TO_BELOW
  1LEFT_ARROWHEAD_ABOVE 1RIGHT_ARROWHEAD_AND_DOWN_ARROWHEAD_BELOW
  0LATIN_CAPITAL_LETTER_A_WITH_RING_BELOW 1SMALL_LETTER_A_WITH_RING_BELOW
  1CAPITAL_LETTER_B_WITH_DOT_ABOVE 1SMALL_LETTER_B_WITH_DOT_ABOVE 1CAPITAL_LETTER_B_WITH_DOT_BELOW
  1SMALL_LETTER_B_WITH_DOT_BELOW 1CAPITAL_LETTER_B_WITH_LINE_BELOW 1SMALL_LETTER_B_WITH_LINE_BELOW
  1CAPITAL_LETTER_C_WITH_CEDILLA_AND_ACUTE 1SMALL_LETTER_C_WITH_CEDILLA_AND_ACUTE
  1CAPITAL_LETTER_D_WITH_DOT_ABOVE 1SMALL_LETTER_D_WITH_DOT_ABOVE 1CAPITAL_LETTER_D_WITH_DOT_BELOW
  1SMALL_LETTER_D_WITH_DOT_BELOW 1CAPITAL_LETTER_D_WITH_LINE_BELOW 1SMALL_LETTER_D_WITH_LINE_BELOW
  1CAPITAL_LETTER_D_WITH_CEDILLA 1SMALL_LETTER_D_WITH_CEDILLA
  1CAPITAL_LETTER_D_WITH_CIRCUMFLEX_BELOW 1SMALL_LETTER_D_WITH_CIRCUMFLEX_BELOW
  1CAPITAL_LETTER_E_WITH_MACRON_AND_GRAVE 1SMALL_LETTER_E_WITH_MACRON_AND_GRAVE
  1CAPITAL_LETTER_E_WITH_MACRON_AND_ACUTE 1SMALL_LETTER_E_WITH_MACRON_AND_ACUTE
  1CAPITAL_LETTER_E_WITH_CIRCUMFLEX_BELOW 1SMALL_LETTER_E_WITH_CIRCUMFLEX_BELOW
  1CAPITAL_LETTER_E_WITH_TILDE_BELOW 1SMALL_LETTER_E_WITH_TILDE_BELOW
  1CAPITAL_LETTER_E_WITH_CEDILLA_AND_BREVE 1SMALL_LETTER_E_WITH_CEDILLA_AND_BREVE
  1CAPITAL_LETTER_F_WITH_DOT_ABOVE 1SMALL_LETTER_F_WITH_DOT_ABOVE 1CAPITAL_LETTER_G_WITH_MACRON
  1SMALL_LETTER_G_WITH_MACRON 1CAPITAL_LETTER_H_WITH_DOT_ABOVE 1SMALL_LETTER_H_WITH_DOT_ABOVE
  1CAPITAL_LETTER_H_WITH_DOT_BELOW 1SMALL_LETTER_H_WITH_DOT_BELOW 1CAPITAL_LETTER_H_WITH_DIAERESIS
  1SMALL_LETTER_H_WITH_DIAERESIS 1CAPITAL_LETTER_H_WITH_CEDILLA 1SMALL_LETTER_H_WITH_CEDILLA
  1CAPITAL_LETTER_H_WITH_BREVE_BELOW 1SMALL_LETTER_H_WITH_BREVE_BELOW
  1CAPITAL_LETTER_I_WITH_TILDE_BELOW 1SMALL_LETTER_I_WITH_TILDE_BELOW
  1CAPITAL_LETTER_I_WITH_DIAERESIS_AND_ACUTE 1SMALL_LETTER_I_WITH_DIAERESIS_AND_ACUTE
  1CAPITAL_LETTER_K_WITH_ACUTE 1SMALL_LETTER_K_WITH_ACUTE 1CAPITAL_LETTER_K_WITH_DOT_BELOW
  1SMALL_LETTER_K_WITH_DOT_BELOW 1CAPITAL_LETTER_K_WITH_LINE_BELOW 1SMALL_LETTER_K_WITH_LINE_BELOW
  1CAPITAL_LETTER_L_WITH_DOT_BELOW 1SMALL_LETTER_L_WITH_DOT_BELOW
  1CAPITAL_LETTER_L_WITH_DOT_BELOW_AND_MACRON 1SMALL_LETTER_L_WITH_DOT_BELOW_AND_MACRON
  1CAPITAL_LETTER_L_WITH_LINE_BELOW 1SMALL_LETTER_L_WITH_LINE_BELOW
  1CAPITAL_LETTER_L_WITH_CIRCUMFLEX_BELOW 1SMALL_LETTER_L_WITH_CIRCUMFLEX_BELOW
  1CAPITAL_LETTER_M_WITH_ACUTE 1SMALL_LETTER_M_WITH_ACUTE 1CAPITAL_LETTER_M_WITH_DOT_ABOVE
  1SMALL_LETTER_M_WITH_DOT_ABOVE 1CAPITAL_LETTER_M_WITH_DOT_BELOW 1SMALL_LETTER_M_WITH_DOT_BELOW
  1CAPITAL_LETTER_N_WITH_DOT_ABOVE 1SMALL_LETTER_N_WITH_DOT_ABOVE 1CAPITAL_LETTER_N_WITH_DOT_BELOW
  1SMALL_LETTER_N_WITH_DOT_BELOW 1CAPITAL_LETTER_N_WITH_LINE_BELOW 1SMALL_LETTER_N_WITH_LINE_BELOW
  1CAPITAL_LETTER_N_WITH_CIRCUMFLEX_BELOW 1SMALL_LETTER_N_WITH_CIRCUMFLEX_BELOW
  1CAPITAL_LETTER_O_WITH_TILDE_AND_ACUTE 1SMALL_LETTER_O_WITH_TILDE_AND_ACUTE
  1CAPITAL_LETTER_O_WITH_TILDE_AND_DIAERESIS 1SMALL_LETTER_O_WITH_TILDE_AND_DIAERESIS
  1CAPITAL_LETTER_O_WITH_MACRON_AND_GRAVE 1SMALL_LETTER_O_WITH_MACRON_AND_GRAVE
  1CAPITAL_LETTER_O_WITH_MACRON_AND_ACUTE 1SMALL_LETTER_O_WITH_MACRON_AND_ACUTE
  1CAPITAL_LETTER_P_WITH_ACUTE 1SMALL_LETTER_P_WITH_ACUTE 1CAPITAL_LETTER_P_WITH_DOT_ABOVE
  1SMALL_LETTER_P_WITH_DOT_ABOVE 1CAPITAL_LETTER_R_WITH_DOT_ABOVE 1SMALL_LETTER_R_WITH_DOT_ABOVE
  1CAPITAL_LETTER_R_WITH_DOT_BELOW 1SMALL_LETTER_R_WITH_DOT_BELOW
  1CAPITAL_LETTER_R_WITH_DOT_BELOW_AND_MACRON 1SMALL_LETTER_R_WITH_DOT_BELOW_AND_MACRON
  1CAPITAL_LETTER_R_WITH_LINE_BELOW 1SMALL_LETTER_R_WITH_LINE_BELOW
  1CAPITAL_LETTER_S_WITH_DOT_ABOVE 1SMALL_LETTER_S_WITH_DOT_ABOVE 1CAPITAL_LETTER_S_WITH_DOT_BELOW
  1SMALL_LETTER_S_WITH_DOT_BELOW 1CAPITAL_LETTER_S_WITH_ACUTE_AND_DOT_ABOVE
  1SMALL_LETTER_S_WITH_ACUTE_AND_DOT_ABOVE 1CAPITAL_LETTER_S_WITH_CARON_AND_DOT_ABOVE
  1SMALL_LETTER_S_WITH_CARON_AND_DOT_ABOVE 1CAPITAL_LETTER_S_WITH_DOT_BELOW_AND_DOT_ABOVE
  1SMALL_LETTER_S_WITH_DOT_BELOW_AND_DOT_ABOVE 1CAPITAL_LETTER_T_WITH_DOT_ABOVE
  1SMALL_LETTER_T_WITH_DOT_ABOVE 1CAPITAL_LETTER_T_WITH_DOT_BELOW 1SMALL_LETTER_T_WITH_DOT_BELOW
  1CAPITAL_LETTER_T_WITH_LINE_BELOW 1SMALL_LETTER_T_WITH_LINE_BELOW
  1CAPITAL_LETTER_T_WITH_CIRCUMFLEX_BELOW 1SMALL_LETTER_T_WITH_CIRCUMFLEX_BELOW
  1CAPITAL_LETTER_U_WITH_DIAERESIS_BELOW 1SMALL_LETTER_U_WITH_DIAERESIS_BELOW
  1CAPITAL_LETTER_U_WITH_TILDE_BELOW 1SMALL_LETTER_U_WITH_TILDE_BELOW
  1CAPITAL_LETTER_U_WITH_CIRCUMFLEX_BELOW 1SMALL_LETTER_U_WITH_CIRCUMFLEX_BELOW
  1CAPITAL_LETTER_U_WITH_TILDE_AND_ACUTE 1SMALL_LETTER_U_WITH_TILDE_AND_ACUTE
  1CAPITAL_LETTER_U_WITH_MACRON_AND_DIAERESIS 1SMALL_LETTER_U_WITH_MACRON_AND_DIAERESIS
  1CAPITAL_LETTER_V_WITH_TILDE 1SMALL_LETTER_V_WITH_TILDE 1CAPITAL_LETTER_V_WITH_DOT_BELOW
  1SMALL_LETTER_V_WITH_DOT_BELOW 1CAPITAL_LETTER_W_WITH_GRAVE 1SMALL_LETTER_W_WITH_GRAVE
  1CAPITAL_LETTER_W_WITH_ACUTE 1SMALL_LETTER_W_WITH_ACUTE 1CAPITAL_LETTER_W_WITH_DIAERESIS
  1SMALL_LETTER_W_WITH_DIAERESIS 1CAPITAL_LETTER_W_WITH_DOT_ABOVE 1SMALL_LETTER_W_WITH_DOT_ABOVE
  1CAPITAL_LETTER_W_WITH_DOT_BELOW 1SMALL_LETTER_W_WITH_DOT_BELOW 1CAPITAL_LETTER_X_WITH_DOT_ABOVE
  1SMALL_LETTER_X_WITH_DOT_ABOVE 1CAPITAL_LETTER_X_WITH_DIAERESIS 1SMALL_LETTER_X_WITH_DIAERESIS
  1CAPITAL_LETTER_Y_WITH_DOT_ABOVE 1SMALL_LETTER_Y_WITH_DOT_ABOVE
  1CAPITAL_LETTER_Z_WITH_CIRCUMFLEX 1SMALL_LETTER_Z_WITH_CIRCUMFLEX
  1CAPITAL_LETTER_Z_WITH_DOT_BELOW 1SMALL_LETTER_Z_WITH_DOT_BELOW
  1CAPITAL_LETTER_Z_WITH_LINE_BELOW 1SMALL_LETTER_Z_WITH_LINE_BELOW 3H_WITH_LINE_BELOW
  3T_WITH_DIAERESIS 3W_WITH_RING_ABOVE 3Y_WITH_RING_ABOVE 3A_WITH_RIGHT_HALF_RING
  3LONG_S_WITH_DOT_ABOVE 6DIAGONAL_STROKE 6HIGH_STROKE 1CAPITAL_LETTER_SHARP_S 1SMALL_LETTER_DELTA
  1CAPITAL_LETTER_A_WITH_DOT_BELOW 1SMALL_LETTER_A_WITH_DOT_BELOW
  1CAPITAL_LETTER_A_WITH_HOOK_ABOVE 1SMALL_LETTER_A_WITH_HOOK_ABOVE
  1CAPITAL_LETTER_A_WITH_CIRCUMFLEX_AND_ACUTE 1SMALL_LETTER_A_WITH_CIRCUMFLEX_AND_ACUTE
  1CAPITAL_LETTER_A_WITH_CIRCUMFLEX_AND_GRAVE 1SMALL_LETTER_A_WITH_CIRCUMFLEX_AND_GRAVE
  1CAPITAL_LETTER_A_WITH_CIRCUMFLEX_AND_HOOK_ABOVE 1SMALL_LETTER_A_WITH_CIRCUMFLEX_AND_HOOK_ABOVE
  1CAPITAL_LETTER_A_WITH_CIRCUMFLEX_AND_TILDE 1SMALL_LETTER_A_WITH_CIRCUMFLEX_AND_TILDE
  1CAPITAL_LETTER_A_WITH_CIRCUMFLEX_AND_DOT_BELOW 1SMALL_LETTER_A_WITH_CIRCUMFLEX_AND_DOT_BELOW
  1CAPITAL_LETTER_A_WITH_BREVE_AND_ACUTE 1SMALL_LETTER_A_WITH_BREVE_AND_ACUTE
  1CAPITAL_LETTER_A_WITH_BREVE_AND_GRAVE 1SMALL_LETTER_A_WITH_BREVE_AND_GRAVE
  1CAPITAL_LETTER_A_WITH_BREVE_AND_HOOK_ABOVE 1SMALL_LETTER_A_WITH_BREVE_AND_HOOK_ABOVE
  1CAPITAL_LETTER_A_WITH_BREVE_AND_TILDE 1SMALL_LETTER_A_WITH_BREVE_AND_TILDE
  1CAPITAL_LETTER_A_WITH_BREVE_AND_DOT_BELOW 1SMALL_LETTER_A_WITH_BREVE_AND_DOT_BELOW
  1CAPITAL_LETTER_E_WITH_DOT_BELOW 1SMALL_LETTER_E_WITH_DOT_BELOW
  1CAPITAL_LETTER_E_WITH_HOOK_ABOVE 1SMALL_LETTER_E_WITH_HOOK_ABOVE 1CAPITAL_LETTER_E_WITH_TILDE
  1SMALL_LETTER_E_WITH_TILDE 1CAPITAL_LETTER_E_WITH_CIRCUMFLEX_AND_ACUTE
  1SMALL_LETTER_E_WITH_CIRCUMFLEX_AND_ACUTE 1CAPITAL_LETTER_E_WITH_CIRCUMFLEX_AND_GRAVE
  1SMALL_LETTER_E_WITH_CIRCUMFLEX_AND_GRAVE 1CAPITAL_LETTER_E_WITH_CIRCUMFLEX_AND_HOOK_ABOVE
  1SMALL_LETTER_E_WITH_CIRCUMFLEX_AND_HOOK_ABOVE 1CAPITAL_LETTER_E_WITH_CIRCUMFLEX_AND_TILDE
  1SMALL_LETTER_E_WITH_CIRCUMFLEX_AND_TILDE 1CAPITAL_LETTER_E_WITH_CIRCUMFLEX_AND_DOT_BELOW
  1SMALL_LETTER_E_WITH_CIRCUMFLEX_AND_DOT_BELOW 1CAPITAL_LETTER_I_WITH_HOOK_ABOVE
  1SMALL_LETTER_I_WITH_HOOK_ABOVE 1CAPITAL_LETTER_I_WITH_DOT_BELOW 1SMALL_LETTER_I_WITH_DOT_BELOW
  1CAPITAL_LETTER_O_WITH_DOT_BELOW 1SMALL_LETTER_O_WITH_DOT_BELOW
  1CAPITAL_LETTER_O_WITH_HOOK_ABOVE 1SMALL_LETTER_O_WITH_HOOK_ABOVE
  1CAPITAL_LETTER_O_WITH_CIRCUMFLEX_AND_ACUTE 1SMALL_LETTER_O_WITH_CIRCUMFLEX_AND_ACUTE
  1CAPITAL_LETTER_O_WITH_CIRCUMFLEX_AND_GRAVE 1SMALL_LETTER_O_WITH_CIRCUMFLEX_AND_GRAVE
  1CAPITAL_LETTER_O_WITH_CIRCUMFLEX_AND_HOOK_ABOVE 1SMALL_LETTER_O_WITH_CIRCUMFLEX_AND_HOOK_ABOVE
  1CAPITAL_LETTER_O_WITH_CIRCUMFLEX_AND_TILDE 1SMALL_LETTER_O_WITH_CIRCUMFLEX_AND_TILDE
  1CAPITAL_LETTER_O_WITH_CIRCUMFLEX_AND_DOT_BELOW 1SMALL_LETTER_O_WITH_CIRCUMFLEX_AND_DOT_BELOW
  1CAPITAL_LETTER_O_WITH_HORN_AND_ACUTE 1SMALL_LETTER_O_WITH_HORN_AND_ACUTE
  1CAPITAL_LETTER_O_WITH_HORN_AND_GRAVE 1SMALL_LETTER_O_WITH_HORN_AND_GRAVE
  1CAPITAL_LETTER_O_WITH_HORN_AND_HOOK_ABOVE 1SMALL_LETTER_O_WITH_HORN_AND_HOOK_ABOVE
  1CAPITAL_LETTER_O_WITH_HORN_AND_TILDE 1SMALL_LETTER_O_WITH_HORN_AND_TILDE
  1CAPITAL_LETTER_O_WITH_HORN_AND_DOT_BELOW 1SMALL_LETTER_O_WITH_HORN_AND_DOT_BELOW
  1CAPITAL_LETTER_U_WITH_DOT_BELOW 1SMALL_LETTER_U_WITH_DOT_BELOW
  1CAPITAL_LETTER_U_WITH_HOOK_ABOVE 1SMALL_LETTER_U_WITH_HOOK_ABOVE
  1CAPITAL_LETTER_U_WITH_HORN_AND_ACUTE 1SMALL_LETTER_U_WITH_HORN_AND_ACUTE
  1CAPITAL_LETTER_U_WITH_HORN_AND_GRAVE 1SMALL_LETTER_U_WITH_HORN_AND_GRAVE
  1CAPITAL_LETTER_U_WITH_HORN_AND_HOOK_ABOVE 1SMALL_LETTER_U_WITH_HORN_AND_HOOK_ABOVE
  1CAPITAL_LETTER_U_WITH_HORN_AND_TILDE 1SMALL_LETTER_U_WITH_HORN_AND_TILDE
  1CAPITAL_LETTER_U_WITH_HORN_AND_DOT_BELOW 1SMALL_LETTER_U_WITH_HORN_AND_DOT_BELOW
  1CAPITAL_LETTER_Y_WITH_GRAVE 1SMALL_LETTER_Y_WITH_GRAVE 1CAPITAL_LETTER_Y_WITH_DOT_BELOW
  1SMALL_LETTER_Y_WITH_DOT_BELOW 1CAPITAL_LETTER_Y_WITH_HOOK_ABOVE 1SMALL_LETTER_Y_WITH_HOOK_ABOVE
  1CAPITAL_LETTER_Y_WITH_TILDE 1SMALL_LETTER_Y_WITH_TILDE 1CAPITAL_LETTER_MIDDLE-WELSH_LL
  1SMALL_LETTER_MIDDLE-WELSH_LL 1CAPITAL_LETTER_MIDDLE-WELSH_V 1SMALL_LETTER_MIDDLE-WELSH_V
  1CAPITAL_LETTER_Y_WITH_LOOP 1SMALL_LETTER_Y_WITH_LOOP 0GREEK_SMALL_LETTER_ALPHA_WITH_PSILI
  5DASIA 5PSILI_AND_VARIA 5DASIA_AND_VARIA 5PSILI_AND_OXIA 5DASIA_AND_OXIA 5PSILI_AND_PERISPOMENI
  5DASIA_AND_PERISPOMENI 1CAPITAL_LETTER_ALPHA_WITH_PSILI 5DASIA 5PSILI_AND_VARIA 5DASIA_AND_VARIA
  5PSILI_AND_OXIA 5DASIA_AND_OXIA 5PSILI_AND_PERISPOMENI 5DASIA_AND_PERISPOMENI
  1SMALL_LETTER_EPSILON_WITH_PSILI 5DASIA 5PSILI_AND_VARIA 5DASIA_AND_VARIA 5PSILI_AND_OXIA
  5DASIA_AND_OXIA =1f18 1CAPITAL_LETTER_EPSILON_WITH_PSILI 5DASIA 5PSILI_AND_VARIA
  5DASIA_AND_VARIA 5PSILI_AND_OXIA 5DASIA_AND_OXIA =1f20 1SMALL_LETTER_ETA_WITH_PSILI 5DASIA
  5PSILI_AND_VARIA 5DASIA_AND_VARIA 5PSILI_AND_OXIA 5DASIA_AND_OXIA 5PSILI_AND_PERISPOMENI
  5DASIA_AND_PERISPOMENI 1CAPITAL_LETTER_ETA_WITH_PSILI 5DASIA 5PSILI_AND_VARIA 5DASIA_AND_VARIA
  5PSILI_AND_OXIA 5DASIA_AND_OXIA 5PSILI_AND_PERISPOMENI 5DASIA_AND_PERISPOMENI
  1SMALL_LETTER_IOTA_WITH_PSILI 5DASIA 5PSILI_AND_VARIA 5DASIA_AND_VARIA 5PSILI_AND_OXIA
  5DASIA_AND_OXIA 5PSILI_AND_PERISPOMENI 5DASIA_AND_PERISPOMENI 1CAPITAL_LETTER_IOTA_WITH_PSILI
  5DASIA 5PSILI_AND_VARIA 5DASIA_AND_VARIA 5PSILI_AND_OXIA 5DASIA_AND_OXIA 5PSILI_AND_PERISPOMENI
  5DASIA_AND_PERISPOMENI 1SMALL_LETTER_OMICRON_WITH_PSILI 5DASIA 5PSILI_AND_VARIA 5DASIA_AND_VARIA
  5PSILI_AND_OXIA 5DASIA_AND_OXIA =1f48 1CAPITAL_LETTER_OMICRON_WITH_PSILI 5DASIA 5PSILI_AND_VARIA
  5DASIA_AND_VARIA 5PSILI_AND_OXIA 5DASIA_AND_OXIA =1f50 1SMALL_LETTER_UPSILON_WITH_PSILI 5DASIA
  5PSILI_AND_VARIA 5DASIA_AND_VARIA 5PSILI_AND_OXIA 5DASIA_AND_OXIA 5PSILI_AND_PERISPOMENI
  5DASIA_AND_PERISPOMENI =1f59 1CAPITAL_LETTER_UPSILON_WITH_DASIA =1f5b 6AND_VARIA =1f5d 7OXIA
  =1f5f 7PERISPOMENI 1SMALL_LETTER_OMEGA_WITH_PSILI 5DASIA 5PSILI_AND_VARIA 5DASIA_AND_VARIA
  5PSILI_AND_OXIA 5DASIA_AND_OXIA 5PSILI_AND_PERISPOMENI 5DASIA_AND_PERISPOMENI
  1CAPITAL_LETTER_OMEGA_WITH_PSILI 5DASIA 5PSILI_AND_VARIA 5DASIA_AND_VARIA 5PSILI_AND_OXIA
  5DASIA_AND_OXIA 5PSILI_AND_PERISPOMENI 5DASIA_AND_PERISPOMENI 1SMALL_LETTER_ALPHA_WITH_VARIA
  5OXIA 3EPSILON_WITH_VARIA 5OXIA 3ETA_WITH_VARIA 5OXIA 3IOTA_WITH_VARIA 5OXIA 3OMICRON_WITH_VARIA
  5OXIA 3UPSILON_WITH_VARIA 5OXIA 3OMEGA_WITH_VARIA 5OXIA =1f80
  3ALPHA_WITH_PSILI_AND_YPOGEGRAMMENI 5DASIA_AND_YPOGEGRAMMENI 5PSILI_AND_VARIA_AND_YPOGEGRAMMENI
  5DASIA_AND_VARIA_AND_YPOGEGRAMMENI 5PSILI_AND_OXIA_AND_YPOGEGRAMMENI
  5DASIA_AND_OXIA_AND_YPOGEGRAMMENI 5PSILI_AND_PERISPOMENI_AND_YPOGEGRAMMENI
  5DASIA_AND_PERISPOMENI_AND_YPOGEGRAMMENI 1CAPITAL_LETTER_ALPHA_WITH_PSILI_AND_PROSGEGRAMMENI
  5DASIA_AND_PROSGEGRAMMENI 5PSILI_AND_VARIA_AND_PROSGEGRAMMENI
  5DASIA_AND_VARIA_AND_PROSGEGRAMMENI 5PSILI_AND_OXIA_AND_PROSGEGRAMMENI
  5DASIA_AND_OXIA_AND_PROSGEGRAMMENI 5PSILI_AND_PERISPOMENI_AND_PROSGEGRAMMENI
  5DASIA_AND_PERISPOMENI_AND_PROSGEGRAMMENI 1SMALL_LETTER_ETA_WITH_PSILI_AND_YPOGEGRAMMENI
  5DASIA_AND_YPOGEGRAMMENI 5PSILI_AND_VARIA_AND_YPOGEGRAMMENI 5DASIA_AND_VARIA_AND_YPOGEGRAMMENI
  5PSILI_AND_OXIA_AND_YPOGEGRAMMENI 5DASIA_AND_OXIA_AND_YPOGEGRAMMENI
  5PSILI_AND_PERISPOMENI_AND_YPOGEGRAMMENI 5DASIA_AND_PERISPOMENI_AND_YPOGEGRAMMENI
  1CAPITAL_LETTER_ETA_WITH_PSILI_AND_PROSGEGRAMMENI 5DASIA_AND_PROSGEGRAMMENI
  5PSILI_AND_VARIA_AND_PROSGEGRAMMENI 5DASIA_AND_VARIA_AND_PROSGEGRAMMENI
  5PSILI_AND_OXIA_AND_PROSGEGRAMMENI 5DASIA_AND_OXIA_AND_PROSGEGRAMMENI
  5PSILI_AND_PERISPOMENI_AND_PROSGEGRAMMENI 5DASIA_AND_PERISPOMENI_AND_PROSGEGRAMMENI
  1SMALL_LETTER_OMEGA_WITH_PSILI_AND_YPOGEGRAMMENI 5DASIA_AND_YPOGEGRAMMENI
  5PSILI_AND_VARIA_AND_YPOGEGRAMMENI 5DASIA_AND_VARIA_AND_YPOGEGRAMMENI
  5PSILI_AND_OXIA_AND_YPOGEGRAMMENI 5DASIA_AND_OXIA_AND_YPOGEGRAMMENI
  5PSILI_AND_PERISPOMENI_AND_YPOGEGRAMMENI 5DASIA_AND_PERISPOMENI_AND_YPOGEGRAMMENI
  1CAPITAL_LETTER_OMEGA_WITH_PSILI_AND_PROSGEGRAMMENI 5DASIA_AND_PROSGEGRAMMENI
  5PSILI_AND_VARIA_AND_PROSGEGRAMMENI 5DASIA_AND_VARIA_AND_PROSGEGRAMMENI
  5PSILI_AND_OXIA_AND_PROSGEGRAMMENI 5DASIA_AND_OXIA_AND_PROSGEGRAMMENI
  5PSILI_AND_PERISPOMENI_AND_PROSGEGRAMMENI 5DASIA_AND_PERISPOMENI_AND_PROSGEGRAMMENI
  1SMALL_LETTER_ALPHA_WITH_VRACHY 5MACRON 5VARIA_AND_YPOGEGRAMMENI 5YPOGEGRAMMENI
  5OXIA_AND_YPOGEGRAMMENI =1fb6 5PERISPOMENI 6AND_YPOGEGRAMMENI 1CAPITAL_LETTER_ALPHA_WITH_VRACHY
  5MACRON 5VARIA 5OXIA 5PROSGEGRAMMENI 1KORONIS 1PROSGEGRAMMENI 1PSILI 1PERISPOMENI
  1DIALYTIKA_AND_PERISPOMENI 1SMALL_LETTER_ETA_WITH_VARIA_AND_YPOGEGRAMMENI 5YPOGEGRAMMENI
  5OXIA_AND_YPOGEGRAMMENI =1fc6 5PERISPOMENI 6AND_YPOGEGRAMMENI 1CAPITAL_LETTER_EPSILON_WITH_VARIA
  5OXIA 3ETA_WITH_VARIA 5OXIA 5PROSGEGRAMMENI 1PSILI_AND_VARIA 3OXIA 3PERISPOMENI
  1SMALL_LETTER_IOTA_WITH_VRACHY 5MACRON 5DIALYTIKA_AND_VARIA 7OXIA =1fd6 5PERISPOMENI
  5DIALYTIKA_AND_PERISPOMENI 1CAPITAL_LETTER_IOTA_WITH_VRACHY 5MACRON 5VARIA 5OXIA =1fdd
  1DASIA_AND_VARIA 3OXIA 3PERISPOMENI 1SMALL_LETTER_UPSILON_WITH_VRACHY 5MACRON
  5DIALYTIKA_AND_VARIA 7OXIA 3RHO_WITH_PSILI 5DASIA 3UPSILON_WITH_PERISPOMENI
  5DIALYTIKA_AND_PERISPOMENI 1CAPITAL_LETTER_UPSILON_WITH_VRACHY 5MACRON 5VARIA 5OXIA
  3RHO_WITH_DASIA 1DIALYTIKA_AND_VARIA 3OXIA 1VARIA =1ff2
  1SMALL_LETTER_OMEGA_WITH_VARIA_AND_YPOGEGRAMMENI 5YPOGEGRAMMENI 5OXIA_AND_YPOGEGRAMMENI =1ff6
  5PERISPOMENI 6AND_YPOGEGRAMMENI 1CAPITAL_LETTER_OMICRON_WITH_VARIA 5OXIA 3OMEGA_WITH_VARIA 5OXIA
  5PROSGEGRAMMENI 1OXIA 1DASIA"

end RepoAtlas.Text.CharacterName
