/-!
The names of the characters from U+1D000 on: notations, pictographs and supplements.
-/
namespace RepoAtlas.Text.CharacterName

def notationAndPictures : String := "
  =1d000 0BYZANTINE_MUSICAL_SYMBOL_PSILI 3DASEIA 3PERISPOMENI 3OXEIA_EKFONITIKON 4DIPLI
  3VAREIA_EKFONITIKON 4DIPLI 3KATHISTI 3SYRMATIKI 3PARAKLITIKI 3YPOKRISIS 4DIPLI 3KREMASTI
  3APESO_EKFONITIKON 3EXO_EKFONITIKON 3TELEIA 3KENTIMATA 3APOSTROFOS 4DIPLI 3SYNEVMA 3THITA
  3OLIGON_ARCHAION 3GORGON_ARCHAION 3PSILON 3CHAMILON 3VATHY 3ISON_ARCHAION 3KENTIMA_ARCHAION
  3KENTIMATA_ARCHAION 3SAXIMATA 3PARICHON 3STAVROS_APODEXIA 3OXEIAI_ARCHAION 3VAREIAI_ARCHAION
  3APODERMA_ARCHAION 3APOTHEMA 3KLASMA 3REVMA 3PIASMA_ARCHAION 3TINAGMA 3ANATRICHISMA 3SEISMA
  3SYNAGMA_ARCHAION 4META_STAVROU 3OYRANISMA_ARCHAION 3THEMA 3LEMOI 3DYO 3TRIA 3TESSERA 3KRATIMATA
  3APESO_EXO_NEO 3FTHORA_ARCHAION 3IMIFTHORA 3TROMIKON_ARCHAION 3KATAVA_TROMIKON 3PELASTON
  3PSIFISTON 3KONTEVMA 3CHOREVMA_ARCHAION 3RAPISMA 3PARAKALESMA_ARCHAION 3PARAKLITIKI_ARCHAION
  3ICHADIN 3NANA 3PETASMA 3KONTEVMA_ALLO 3TROMIKON_ALLO 3STRAGGISMATA 3GRONTHISMATA 3ISON_NEO
  3OLIGON_NEO 3OXEIA_NEO 3PETASTI 3KOUFISMA 3PETASTOKOUFISMA 3KRATIMOKOUFISMA 3PELASTON_NEO
  3KENTIMATA_NEO_ANO 3KENTIMA_NEO_ANO 3YPSILI 3APOSTROFOS_NEO 3APOSTROFOI_SYNDESMOS_NEO 3YPORROI
  3KRATIMOYPORROON 3ELAFRON 3CHAMILI 3MIKRON_ISON 3VAREIA_NEO 3PIASMA_NEO 3PSIFISTON_NEO 3OMALON
  3ANTIKENOMA 3LYGISMA 3PARAKLITIKI_NEO 3PARAKALESMA_NEO 3ETERON_PARAKALESMA 3KYLISMA
  3ANTIKENOKYLISMA 3TROMIKON_NEO 3EKSTREPTON 3SYNAGMA_NEO 3SYRMA 3CHOREVMA_NEO 3EPEGERMA
  3SEISMA_NEO 3XIRON_KLASMA 3TROMIKOPSIFISTON 3PSIFISTOLYGISMA 3TROMIKOLYGISMA 3TROMIKOPARAKALESMA
  3PSIFISTOPARAKALESMA 3TROMIKOSYNAGMA 3PSIFISTOSYNAGMA 3GORGOSYNTHETON 3ARGOSYNTHETON
  3ETERON_ARGOSYNTHETON 3OYRANISMA_NEO 3THEMATISMOS_ESO 4EXO 3THEMA_APLOUN 3THES_KAI_APOTHES
  3KATAVASMA 3ENDOFONON 3YFEN_KATO 4ANO 3STAVROS 3KLASMA_ANO 3DIPLI_ARCHAION 3KRATIMA_ARCHAION
  4ALLO 4NEO 3APODERMA_NEO 3APLI 3DIPLI 3TRIPLI 3TETRAPLI 3KORONIS 3LEIMMA_ENOS_CHRONOU
  4DYO_CHRONON 4TRION_CHRONON 4TESSARON_CHRONON 4IMISEOS_CHRONOU 3GORGON_NEO_ANO
  4PARESTIGMENON_ARISTERA 5DEXIA 3DIGORGON 4PARESTIGMENON_ARISTERA_KATO 6ANO 5DEXIA 3TRIGORGON
  3ARGON 3IMIDIARGON 3DIARGON 3AGOGI_POLI_ARGI 4ARGOTERI 4ARGI 4METRIA 4MESI 4GORGI 4GORGOTERI
  4POLI_GORGI 3MARTYRIA_PROTOS_ICHOS 4ALLI_PROTOS_ICHOS 4DEYTEROS_ICHOS 4ALLI_DEYTEROS_ICHOS
  4TRITOS_ICHOS 4TRIFONIAS 4TETARTOS_ICHOS 5LEGETOS_ICHOS 4LEGETOS_ICHOS 4PLAGIOS_ICHOS
  3ISAKIA_TELOUS_ICHIMATOS 3APOSTROFOI_TELOUS_ICHIMATOS 3FANEROSIS_TETRAFONIAS 4MONOFONIAS
  4DIFONIAS 3MARTYRIA_VARYS_ICHOS 4PROTOVARYS_ICHOS 4PLAGIOS_TETARTOS_ICHOS 3GORTHMIKON_N_APLOUN
  5DIPLOUN 3ENARXIS_KAI_FTHORA_VOU 3IMIFONON 3IMIFTHORON 3FTHORA_ARCHAION_DEYTEROU_ICHOU
  4DIATONIKI_PA 5NANA 4NAOS_ICHOS 4DIATONIKI_DI 4SKLIRON_DIATONON_DI 4DIATONIKI_KE 5ZO 5NI_KATO
  6ANO 4MALAKON_CHROMA_DIFONIAS 6MONOFONIAS 3FHTORA_SKLIRON_CHROMA_VASIS
  3FTHORA_SKLIRON_CHROMA_SYNAFI 4NENANO 3CHROA_ZYGOS 4KLITON 4SPATHI
  3FTHORA_I_YFESIS_TETARTIMORION 4ENARMONIOS_ANTIFONIA 3YFESIS_TRITIMORION 3DIESIS_TRITIMORION
  4TETARTIMORION 4APLI_DYO_DODEKATA 4MONOGRAMMOS_TESSERA_DODEKATA 4DIGRAMMOS_EX_DODEKATA
  4TRIGRAMMOS_OKTO_DODEKATA 3YFESIS_APLI_DYO_DODEKATA 4MONOGRAMMOS_TESSERA_DODEKATA
  4DIGRAMMOS_EX_DODEKATA 4TRIGRAMMOS_OKTO_DODEKATA 3GENIKI_DIESIS 4YFESIS 3DIASTOLI_APLI_MIKRI
  5MEGALI 4DIPLI 4THESEOS 3SIMANSIS_THESEOS 5DISIMOU 5TRISIMOU 5TETRASIMOU 4ARSEOS 5DISIMOU
  5TRISIMOU 5TETRASIMOU 3DIGRAMMA_GG 3DIFTOGGOS_OU 3STIGMA 3ARKTIKO_PA 4VOU 4GA 4DI 4KE 4ZO 4NI
  3KENTIMATA_NEO_MESO 3KENTIMA_NEO_MESO 3KENTIMATA_NEO_KATO 3KENTIMA_NEO_KATO 3KLASMA_KATO
  3GORGON_NEO_KATO =1d100 0MUSICAL_SYMBOL_SINGLE_BARLINE 2DOUBLE_BARLINE 2FINAL_BARLINE
  2REVERSE_FINAL_BARLINE 2DASHED_BARLINE 2SHORT_BARLINE 2LEFT_REPEAT_SIGN 2RIGHT_REPEAT_SIGN
  2REPEAT_DOTS 2DAL_SEGNO 2DA_CAPO 2SEGNO 2CODA 2REPEATED_FIGURE-1 3FIGURE-2 3FIGURE-3 2FERMATA
  3BELOW 2BREATH_MARK 2CAESURA 2BRACE 2BRACKET 2ONE-LINE_STAFF 2TWO-LINE_STAFF 2THREE-LINE_STAFF
  2FOUR-LINE_STAFF 2FIVE-LINE_STAFF 2SIX-LINE_STAFF 2SIX-STRING_FRETBOARD 2FOUR-STRING_FRETBOARD
  2G_CLEF 4OTTAVA_ALTA 5BASSA 2C_CLEF 2F_CLEF 4OTTAVA_ALTA 5BASSA 2DRUM_CLEF-1 3CLEF-2 =1d129
  2MULTIPLE_MEASURE_REST 2DOUBLE_SHARP 3FLAT 2FLAT_UP 3DOWN 2NATURAL_UP 3DOWN 2SHARP_UP 3DOWN
  2QUARTER_TONE_SHARP 4FLAT 2COMMON_TIME 2CUT_TIME 2OTTAVA_ALTA 3BASSA 2QUINDICESIMA_ALTA 3BASSA
  2MULTI_REST 2WHOLE_REST 2HALF_REST 2QUARTER_REST 2EIGHTH_REST 2SIXTEENTH_REST
  2THIRTY-SECOND_REST 2SIXTY-FOURTH_REST 2ONE_HUNDRED_TWENTY-EIGHTH_REST 2X_NOTEHEAD
  2PLUS_NOTEHEAD 2CIRCLE_X_NOTEHEAD 2SQUARE_NOTEHEAD_WHITE 4BLACK 2TRIANGLE_NOTEHEAD_UP_WHITE
  5BLACK 4LEFT_WHITE 5BLACK 4RIGHT_WHITE 5BLACK 4DOWN_WHITE 5BLACK 4UP_RIGHT_WHITE 6BLACK
  2MOON_NOTEHEAD_WHITE 4BLACK 2TRIANGLE-ROUND_NOTEHEAD_DOWN_WHITE 5BLACK 2PARENTHESIS_NOTEHEAD
  2VOID_NOTEHEAD 2NOTEHEAD_BLACK 2NULL_NOTEHEAD 2CLUSTER_NOTEHEAD_WHITE 4BLACK 2BREVE 2WHOLE_NOTE
  2HALF_NOTE 2QUARTER_NOTE 2EIGHTH_NOTE 2SIXTEENTH_NOTE 2THIRTY-SECOND_NOTE 2SIXTY-FOURTH_NOTE
  2ONE_HUNDRED_TWENTY-EIGHTH_NOTE 2COMBINING_STEM 3SPRECHGESANG_STEM 3TREMOLO-1 3TREMOLO-2
  3TREMOLO-3 2FINGERED_TREMOLO-1 3TREMOLO-2 3TREMOLO-3 2COMBINING_AUGMENTATION_DOT 3FLAG-1 3FLAG-2
  3FLAG-3 3FLAG-4 3FLAG-5 2BEGIN_BEAM 2END_BEAM 2BEGIN_TIE 2END_TIE 2BEGIN_SLUR 2END_SLUR
  2BEGIN_PHRASE 2END_PHRASE 2COMBINING_ACCENT 3STACCATO 3TENUTO 3STACCATISSIMO 3MARCATO
  3MARCATO-STACCATO 3ACCENT-STACCATO 3LOURE 2ARPEGGIATO_UP 3DOWN 2COMBINING_DOIT 3RIP 3FLIP 3SMEAR
  3BEND 3DOUBLE_TONGUE 3TRIPLE_TONGUE 2RINFORZANDO 2SUBITO 2Z 2PIANO 2MEZZO 2FORTE 2CRESCENDO
  2DECRESCENDO 2GRACE_NOTE_SLASH 4NO_SLASH 2TR 2TURN 2INVERTED_TURN 2TURN_SLASH 3UP
  2ORNAMENT_STROKE-1 3STROKE-2 3STROKE-3 3STROKE-4 3STROKE-5 3STROKE-6 3STROKE-7 3STROKE-8
  3STROKE-9 3STROKE-10 3STROKE-11 2HAUPTSTIMME 2NEBENSTIMME 2END_OF_STIMME 2DEGREE_SLASH
  2COMBINING_DOWN_BOW 3UP_BOW 3HARMONIC 3SNAP_PIZZICATO 2PEDAL_MARK 3UP_MARK 2HALF_PEDAL_MARK
  2GLISSANDO_UP 3DOWN 2WITH_FINGERNAILS 2DAMP 3ALL 2MAXIMA 2LONGA 2BREVIS 2SEMIBREVIS_WHITE 3BLACK
  2MINIMA 3BLACK 2SEMIMINIMA_WHITE 3BLACK 2FUSA_WHITE 3BLACK 2LONGA_PERFECTA_REST 3IMPERFECTA_REST
  2BREVIS_REST 2SEMIBREVIS_REST 2MINIMA_REST 2SEMIMINIMA_REST
  2TEMPUS_PERFECTUM_CUM_PROLATIONE_PERFECTA 6IMPERFECTA 6PERFECTA_DIMINUTION-1
  3IMPERFECTUM_CUM_PROLATIONE_PERFECTA 6IMPERFECTA 7DIMINUTION-1 7DIMINUTION-2 7DIMINUTION-3
  2CROIX 2GREGORIAN_C_CLEF 3F_CLEF 2SQUARE_B 2VIRGA 2PODATUS 2CLIVIS 2SCANDICUS 2CLIMACUS
  2TORCULUS 2PORRECTUS 3FLEXUS 2SCANDICUS_FLEXUS 2TORCULUS_RESUPINUS 2PES_SUBPUNCTIS
  2KIEVAN_C_CLEF 3END_OF_PIECE 3FINAL_NOTE 3RECITATIVE_MARK 3WHOLE_NOTE 3HALF_NOTE
  3QUARTER_NOTE_STEM_DOWN 6UP 3EIGHTH_NOTE_STEM_DOWN 6UP 3FLAT_SIGN 2SORI 2KORON =1d200
  0GREEK_VOCAL_NOTATION_SYMBOL-1 3SYMBOL-2 3SYMBOL-3 3SYMBOL-4 3SYMBOL-5 3SYMBOL-6 3SYMBOL-7
  3SYMBOL-8 3SYMBOL-9 3SYMBOL-10 3SYMBOL-11 3SYMBOL-12 3SYMBOL-13 3SYMBOL-14 3SYMBOL-15 3SYMBOL-16
  3SYMBOL-17 3SYMBOL-18 3SYMBOL-19 3SYMBOL-20 3SYMBOL-21 3SYMBOL-22 3SYMBOL-23 3SYMBOL-24
  3SYMBOL-50 3SYMBOL-51 3SYMBOL-52 3SYMBOL-53 3SYMBOL-54 1INSTRUMENTAL_NOTATION_SYMBOL-1 3SYMBOL-2
  3SYMBOL-4 3SYMBOL-5 3SYMBOL-7 3SYMBOL-8 3SYMBOL-11 3SYMBOL-12 3SYMBOL-13 3SYMBOL-14 3SYMBOL-17
  3SYMBOL-18 3SYMBOL-19 3SYMBOL-23 3SYMBOL-24 3SYMBOL-25 3SYMBOL-26 3SYMBOL-27 3SYMBOL-29
  3SYMBOL-30 3SYMBOL-32 3SYMBOL-36 3SYMBOL-37 3SYMBOL-38 3SYMBOL-39 3SYMBOL-40 3SYMBOL-42
  3SYMBOL-43 3SYMBOL-45 3SYMBOL-47 3SYMBOL-48 3SYMBOL-49 3SYMBOL-50 3SYMBOL-51 3SYMBOL-52
  3SYMBOL-53 3SYMBOL-54 0COMBINING_GREEK_MUSICAL_TRISEME 3TETRASEME 3PENTASEME
  0GREEK_MUSICAL_LEIMMA =1d2e0 0MAYAN_NUMERAL_ZERO 2ONE 2TWO 2THREE 2FOUR 2FIVE 2SIX 2SEVEN 2EIGHT
  2NINE 2TEN 2ELEVEN 2TWELVE 2THIRTEEN 2FOURTEEN 2FIFTEEN 2SIXTEEN 2SEVENTEEN 2EIGHTEEN 2NINETEEN
  =1d300 0MONOGRAM_FOR_EARTH 0DIGRAM_FOR_HEAVENLY_EARTH 2HUMAN_EARTH 2EARTHLY_HEAVEN 3HUMAN 2EARTH
  0TETRAGRAM_FOR_CENTRE 2FULL_CIRCLE 2MIRED 2BARRIER 2KEEPING_SMALL 2CONTRARIETY 2ASCENT
  2OPPOSITION 2BRANCHING_OUT 2DEFECTIVENESS_OR_DISTORTION 2DIVERGENCE 2YOUTHFULNESS 2INCREASE
  2PENETRATION 2REACH 2CONTACT 2HOLDING_BACK 2WAITING 2FOLLOWING 2ADVANCE 2RELEASE 2RESISTANCE
  2EASE 2JOY 2CONTENTION 2ENDEAVOUR 2DUTIES 2CHANGE 2DECISIVENESS 2BOLD_RESOLUTION 2PACKING
  2LEGION 2CLOSENESS 2KINSHIP 2GATHERING 2STRENGTH 2PURITY 2FULLNESS 2RESIDENCE 2LAW_OR_MODEL
  2RESPONSE 2GOING_TO_MEET 2ENCOUNTERS 2STOVE 2GREATNESS 2ENLARGEMENT 2PATTERN 2RITUAL 2FLIGHT
  2VASTNESS_OR_WASTING 2CONSTANCY 2MEASURE 2ETERNITY 2UNITY 2DIMINISHMENT 2CLOSED_MOUTH
  2GUARDEDNESS 2GATHERING_IN 2MASSING 2ACCUMULATION 2EMBELLISHMENT 2DOUBT 2WATCH 2SINKING 2INNER
  2DEPARTURE 2DARKENING 2DIMMING 2EXHAUSTION 2SEVERANCE 2STOPPAGE 2HARDNESS 2COMPLETION 2CLOSURE
  2FAILURE 2AGGRAVATION 2COMPLIANCE 2ON_THE_VERGE 2DIFFICULTIES 2LABOURING 2FOSTERING =1d360
  0COUNTING_ROD_UNIT_DIGIT_ONE 4TWO 4THREE 4FOUR 4FIVE 4SIX 4SEVEN 4EIGHT 4NINE 2TENS_DIGIT_ONE
  4TWO 4THREE 4FOUR 4FIVE 4SIX 4SEVEN 4EIGHT 4NINE 0IDEOGRAPHIC_TALLY_MARK_ONE 3TWO 3THREE 3FOUR
  3FIVE 0TALLY_MARK_ONE 2FIVE =1d400 0MATHEMATICAL_BOLD_CAPITAL_A 3B 3C 3D 3E 3F 3G 3H 3I 3J 3K 3L
  3M 3N 3O 3P 3Q 3R 3S 3T 3U 3V 3W 3X 3Y 3Z 2SMALL_A 3B 3C 3D 3E 3F 3G 3H 3I 3J 3K 3L 3M 3N 3O 3P
  3Q 3R 3S 3T 3U 3V 3W 3X 3Y 3Z 1ITALIC_CAPITAL_A 3B 3C 3D 3E 3F 3G 3H 3I 3J 3K 3L 3M 3N 3O 3P 3Q
  3R 3S 3T 3U 3V 3W 3X 3Y 3Z 2SMALL_A 3B 3C 3D 3E 3F 3G =1d456 3I 3J 3K 3L 3M 3N 3O 3P 3Q 3R 3S 3T
  3U 3V 3W 3X 3Y 3Z 1BOLD_ITALIC_CAPITAL_A 4B 4C 4D 4E 4F 4G 4H 4I 4J 4K 4L 4M 4N 4O 4P 4Q 4R 4S
  4T 4U 4V 4W 4X 4Y 4Z 3SMALL_A 4B 4C 4D 4E 4F 4G 4H 4I 4J 4K 4L 4M 4N 4O 4P 4Q 4R 4S 4T 4U 4V 4W
  4X 4Y 4Z 1SCRIPT_CAPITAL_A =1d49e 3C 3D =1d4a2 3G =1d4a5 3J 3K =1d4a9 3N 3O 3P 3Q =1d4ae 3S 3T
  3U 3V 3W 3X 3Y 3Z 2SMALL_A 3B 3C 3D =1d4bb 3F =1d4bd 3H 3I 3J 3K 3L 3M 3N =1d4c5 3P 3Q 3R 3S 3T
  3U 3V 3W 3X 3Y 3Z 1BOLD_SCRIPT_CAPITAL_A 4B 4C 4D 4E 4F 4G 4H 4I 4J 4K 4L 4M 4N 4O 4P 4Q 4R 4S
  4T 4U 4V 4W 4X 4Y 4Z 3SMALL_A 4B 4C 4D 4E 4F 4G 4H 4I 4J 4K 4L 4M 4N 4O 4P 4Q 4R 4S 4T 4U 4V 4W
  4X 4Y 4Z 1FRAKTUR_CAPITAL_A 3B =1d507 3D 3E 3F 3G =1d50d 3J 3K 3L 3M 3N 3O 3P 3Q =1d516 3S 3T 3U
  3V 3W 3X 3Y =1d51e 2SMALL_A 3B 3C 3D 3E 3F 3G 3H 3I 3J 3K 3L 3M 3N 3O 3P 3Q 3R 3S 3T 3U 3V 3W 3X
  3Y 3Z 1DOUBLE-STRUCK_CAPITAL_A 3B =1d53b 3D 3E 3F 3G =1d540 3I 3J 3K 3L 3M =1d546 3O =1d54a 3S
  3T 3U 3V 3W 3X 3Y =1d552 2SMALL_A 3B 3C 3D 3E 3F 3G 3H 3I 3J 3K 3L 3M 3N 3O 3P 3Q 3R 3S 3T 3U 3V
  3W 3X 3Y 3Z 1BOLD_FRAKTUR_CAPITAL_A 4B 4C 4D 4E 4F 4G 4H 4I 4J 4K 4L 4M 4N 4O 4P 4Q 4R 4S 4T 4U
  4V 4W 4X 4Y 4Z 3SMALL_A 4B 4C 4D 4E 4F 4G 4H 4I 4J 4K 4L 4M 4N 4O 4P 4Q 4R 4S 4T 4U 4V 4W 4X 4Y
  4Z 1SANS-SERIF_CAPITAL_A 3B 3C 3D 3E 3F 3G 3H 3I 3J 3K 3L 3M 3N 3O 3P 3Q 3R 3S 3T 3U 3V 3W 3X 3Y
  3Z 2SMALL_A 3B 3C 3D 3E 3F 3G 3H 3I 3J 3K 3L 3M 3N 3O 3P 3Q 3R 3S 3T 3U 3V 3W 3X 3Y 3Z
  2BOLD_CAPITAL_A 4B 4C 4D 4E 4F 4G 4H 4I 4J 4K 4L 4M 4N 4O 4P 4Q 4R 4S 4T 4U 4V 4W 4X 4Y 4Z
  3SMALL_A 4B 4C 4D 4E 4F 4G 4H 4I 4J 4K 4L 4M 4N 4O 4P 4Q 4R 4S 4T 4U 4V 4W 4X 4Y 4Z
  2ITALIC_CAPITAL_A 4B 4C 4D 4E 4F 4G 4H 4I 4J 4K 4L 4M 4N 4O 4P 4Q 4R 4S 4T 4U 4V 4W 4X 4Y 4Z
  3SMALL_A 4B 4C 4D 4E 4F 4G 4H 4I 4J 4K 4L 4M 4N 4O 4P 4Q 4R 4S 4T 4U 4V 4W 4X 4Y 4Z
  2BOLD_ITALIC_CAPITAL_A 5B 5C 5D 5E 5F 5G 5H 5I 5J 5K 5L 5M 5N 5O 5P 5Q 5R 5S 5T 5U 5V 5W 5X 5Y
  5Z 4SMALL_A 5B 5C 5D 5E 5F 5G 5H 5I 5J 5K 5L 5M 5N 5O 5P 5Q 5R 5S 5T 5U 5V 5W 5X 5Y 5Z
  1MONOSPACE_CAPITAL_A 3B 3C 3D 3E 3F 3G 3H 3I 3J 3K 3L 3M 3N 3O 3P 3Q 3R 3S 3T 3U 3V 3W 3X 3Y 3Z
  2SMALL_A 3B 3C 3D 3E 3F 3G 3H 3I 3J 3K 3L 3M 3N 3O 3P 3Q 3R 3S 3T 3U 3V 3W 3X 3Y 3Z
  1ITALIC_SMALL_DOTLESS_I 4J =1d6a8 1BOLD_CAPITAL_ALPHA 3BETA 3GAMMA 3DELTA 3EPSILON 3ZETA 3ETA
  3THETA 3IOTA 3KAPPA 3LAMDA 3MU 3NU 3XI 3OMICRON 3PI 3RHO 3THETA_SYMBOL 3SIGMA 3TAU 3UPSILON 3PHI
  3CHI 3PSI 3OMEGA 2NABLA 2SMALL_ALPHA 3BETA 3GAMMA 3DELTA 3EPSILON 3ZETA 3ETA 3THETA 3IOTA 3KAPPA
  3LAMDA 3MU 3NU 3XI 3OMICRON 3PI 3RHO 3FINAL_SIGMA 3SIGMA 3TAU 3UPSILON 3PHI 3CHI 3PSI 3OMEGA
  2PARTIAL_DIFFERENTIAL 2EPSILON_SYMBOL 2THETA_SYMBOL 2KAPPA_SYMBOL 2PHI_SYMBOL 2RHO_SYMBOL
  2PI_SYMBOL 1ITALIC_CAPITAL_ALPHA 3BETA 3GAMMA 3DELTA 3EPSILON 3ZETA 3ETA 3THETA 3IOTA 3KAPPA
  3LAMDA 3MU 3NU 3XI 3OMICRON 3PI 3RHO 3THETA_SYMBOL 3SIGMA 3TAU 3UPSILON 3PHI 3CHI 3PSI 3OMEGA
  2NABLA 2SMALL_ALPHA 3BETA 3GAMMA 3DELTA 3EPSILON 3ZETA 3ETA 3THETA 3IOTA 3KAPPA 3LAMDA 3MU 3NU
  3XI 3OMICRON 3PI 3RHO 3FINAL_SIGMA 3SIGMA 3TAU 3UPSILON 3PHI 3CHI 3PSI 3OMEGA
  2PARTIAL_DIFFERENTIAL 2EPSILON_SYMBOL 2THETA_SYMBOL 2KAPPA_SYMBOL 2PHI_SYMBOL 2RHO_SYMBOL
  2PI_SYMBOL 1BOLD_ITALIC_CAPITAL_ALPHA 4BETA 4GAMMA 4DELTA 4EPSILON 4ZETA 4ETA 4THETA 4IOTA
  4KAPPA 4LAMDA 4MU 4NU 4XI 4OMICRON 4PI 4RHO 4THETA_SYMBOL 4SIGMA 4TAU 4UPSILON 4PHI 4CHI 4PSI
  4OMEGA 3NABLA 3SMALL_ALPHA 4BETA 4GAMMA 4DELTA 4EPSILON 4ZETA 4ETA 4THETA 4IOTA 4KAPPA 4LAMDA
  4MU 4NU 4XI 4OMICRON 4PI 4RHO 4FINAL_SIGMA 4SIGMA 4TAU 4UPSILON 4PHI 4CHI 4PSI 4OMEGA
  3PARTIAL_DIFFERENTIAL 3EPSILON_SYMBOL 3THETA_SYMBOL 3KAPPA_SYMBOL 3PHI_SYMBOL 3RHO_SYMBOL
  3PI_SYMBOL 1SANS-SERIF_BOLD_CAPITAL_ALPHA 4BETA 4GAMMA 4DELTA 4EPSILON 4ZETA 4ETA 4THETA 4IOTA
  4KAPPA 4LAMDA 4MU 4NU 4XI 4OMICRON 4PI 4RHO 4THETA_SYMBOL 4SIGMA 4TAU 4UPSILON 4PHI 4CHI 4PSI
  4OMEGA 3NABLA 3SMALL_ALPHA 4BETA 4GAMMA 4DELTA 4EPSILON 4ZETA 4ETA 4THETA 4IOTA 4KAPPA 4LAMDA
  4MU 4NU 4XI 4OMICRON 4PI 4RHO 4FINAL_SIGMA 4SIGMA 4TAU 4UPSILON 4PHI 4CHI 4PSI 4OMEGA
  3PARTIAL_DIFFERENTIAL 3EPSILON_SYMBOL 3THETA_SYMBOL 3KAPPA_SYMBOL 3PHI_SYMBOL 3RHO_SYMBOL
  3PI_SYMBOL 3ITALIC_CAPITAL_ALPHA 5BETA 5GAMMA 5DELTA 5EPSILON 5ZETA 5ETA 5THETA 5IOTA 5KAPPA
  5LAMDA 5MU 5NU 5XI 5OMICRON 5PI 5RHO 5THETA_SYMBOL 5SIGMA 5TAU 5UPSILON 5PHI 5CHI 5PSI 5OMEGA
  4NABLA 4SMALL_ALPHA 5BETA 5GAMMA 5DELTA 5EPSILON 5ZETA 5ETA 5THETA 5IOTA 5KAPPA 5LAMDA 5MU 5NU
  5XI 5OMICRON 5PI 5RHO 5FINAL_SIGMA 5SIGMA 5TAU 5UPSILON 5PHI 5CHI 5PSI 5OMEGA
  4PARTIAL_DIFFERENTIAL 4EPSILON_SYMBOL 4THETA_SYMBOL 4KAPPA_SYMBOL 4PHI_SYMBOL 4RHO_SYMBOL
  4PI_SYMBOL 1BOLD_CAPITAL_DIGAMMA 2SMALL_DIGAMMA =1d7ce 2DIGIT_ZERO 3ONE 3TWO 3THREE 3FOUR 3FIVE
  3SIX 3SEVEN 3EIGHT 3NINE 1DOUBLE-STRUCK_DIGIT_ZERO 3ONE 3TWO 3THREE 3FOUR 3FIVE 3SIX 3SEVEN
  3EIGHT 3NINE 1SANS-SERIF_DIGIT_ZERO 3ONE 3TWO 3THREE 3FOUR 3FIVE 3SIX 3SEVEN 3EIGHT 3NINE
  2BOLD_DIGIT_ZERO 4ONE 4TWO 4THREE 4FOUR 4FIVE 4SIX 4SEVEN 4EIGHT 4NINE 1MONOSPACE_DIGIT_ZERO
  3ONE 3TWO 3THREE 3FOUR 3FIVE 3SIX 3SEVEN 3EIGHT 3NINE 0SIGNWRITING_HAND-FIST_INDEX
  1HAND-CIRCLE_INDEX 1HAND-CUP_INDEX 1HAND-OVAL_INDEX 1HAND-HINGE_INDEX 1HAND-ANGLE_INDEX
  1HAND-FIST_INDEX_BENT 1HAND-CIRCLE_INDEX_BENT 1HAND-FIST_THUMB_UNDER_INDEX_BENT
  2INDEX_RAISED_KNUCKLE 3CUPPED 3HINGED 4LOW 1HAND-CIRCLE_INDEX_HINGE 1HAND-FIST_INDEX_MIDDLE
  1HAND-CIRCLE_INDEX_MIDDLE 1HAND-FIST_INDEX_MIDDLE_BENT 4RAISED_KNUCKLES 4HINGED
  3UP_MIDDLE_HINGED 3HINGED_MIDDLE_UP 3MIDDLE_CONJOINED 5INDEX_BENT 5MIDDLE_BENT 5CUPPED 5HINGED
  4CROSSED 1HAND-CIRCLE_INDEX_MIDDLE_CROSSED 1HAND-FIST_MIDDLE_BENT_OVER_INDEX
  2INDEX_BENT_OVER_MIDDLE 3MIDDLE_THUMB 1HAND-CIRCLE_INDEX_MIDDLE_THUMB
  1HAND-FIST_INDEX_MIDDLE_STRAIGHT_THUMB_BENT 4BENT_THUMB_STRAIGHT 4THUMB_BENT
  4HINGED_SPREAD_THUMB_SIDE 3UP_MIDDLE_HINGED_THUMB_SIDE 7CONJOINED 3HINGED_MIDDLE_UP_THUMB_SIDE
  3MIDDLE_UP_SPREAD_THUMB_FORWARD 4THUMB_CUPPED 5CIRCLED 5HOOKED 5HINGED
  2THUMB_BETWEEN_INDEX_MIDDLE_STRAIGHT 2INDEX_MIDDLE_CONJOINED_THUMB_SIDE 7CONJOINED 7BENT
  2MIDDLE_THUMB_HOOKED_INDEX_UP 2INDEX_THUMB_HOOKED_MIDDLE_UP 3MIDDLE_CONJOINED_HINGED_THUMB_SIDE
  4CROSSED_THUMB_SIDE 4CONJOINED_THUMB_FORWARD 5CUPPED_THUMB_FORWARD 2MIDDLE_THUMB_CUPPED_INDEX_UP
  2INDEX_THUMB_CUPPED_MIDDLE_UP 2MIDDLE_THUMB_CIRCLED_INDEX_UP 6HINGED
  2INDEX_THUMB_ANGLED_OUT_MIDDLE_UP 5IN_MIDDLE_UP 4CIRCLED_MIDDLE_UP
  3MIDDLE_THUMB_CONJOINED_HINGED 5ANGLED_OUT 6 2MIDDLE_THUMB_ANGLED_OUT_INDEX_UP 7CROSSED
  5INDEX_UP 2INDEX_THUMB_HOOKED_MIDDLE_HINGED 1HAND-FLAT_FOUR_FINGERS 4BENT 4HINGED 4CONJOINED
  5SPLIT 1HAND-CLAW_FOUR_FINGERS_CONJOINED 1HAND-FIST_FOUR_FINGERS_CONJOINED_BENT
  1HAND-HINGE_FOUR_FINGERS_CONJOINED 1HAND-FLAT_FIVE_FINGERS_SPREAD 2HEEL_FIVE_FINGERS_SPREAD
  2FIVE_FINGERS_SPREAD_FOUR_BENT 2HEEL_FIVE_FINGERS_SPREAD_FOUR_BENT 2FIVE_FINGERS_SPREAD_BENT
  2HEEL_FIVE_FINGERS_SPREAD_BENT 2FIVE_FINGERS_SPREAD_THUMB_FORWARD 1HAND-CUP_FIVE_FINGERS_SPREAD
  5OPEN 1HAND-HINGE_FIVE_FINGERS_SPREAD_OPEN 1HAND-OVAL_FIVE_FINGERS_SPREAD
  1HAND-FLAT_FIVE_FINGERS_SPREAD_HINGED 6THUMB_SIDE 6NO_THUMB 2 2BETWEEN_PALM_FACINGS 2HEEL
  2THUMB_SIDE 2HEEL_THUMB_SIDE 2THUMB_BENT 3FORWARD 2SPLIT_INDEX_THUMB_SIDE 3CENTRE 4THUMB_SIDE
  6BENT 3LITTLE 1HAND-CLAW 2THUMB_SIDE 2NO_THUMB 2THUMB_FORWARD 1HAND-HOOK_CURLICUE 2
  1HAND-CUP_OPEN 2 2OPEN_THUMB_SIDE 2THUMB_SIDE 2OPEN_NO_THUMB 2NO_THUMB 2OPEN_THUMB_FORWARD
  2THUMB_FORWARD 1HAND-CURLICUE_OPEN 2 1HAND-CIRCLE 1HAND-OVAL 2THUMB_SIDE 2NO_THUMB
  2THUMB_FORWARD 1HAND-HINGE_OPEN 3THUMB_FORWARD 2 2SMALL 2OPEN_THUMB_SIDE 2THUMB_SIDE
  2OPEN_NO_THUMB 2NO_THUMB 2THUMB_SIDE_TOUCHING_INDEX 3BETWEEN_MIDDLE_RING 1HAND-ANGLE
  1HAND-FIST_INDEX_MIDDLE_RING 1HAND-CIRCLE_INDEX_MIDDLE_RING 1HAND-HINGE_INDEX_MIDDLE_RING
  1HAND-ANGLE_INDEX_MIDDLE_RING 1HAND-HINGE_LITTLE 1HAND-FIST_INDEX_MIDDLE_RING_BENT 5CONJOINED
  1HAND-HINGE_INDEX_MIDDLE_RING_CONJOINED 1HAND-FIST_LITTLE_DOWN 4RIPPLE_STRAIGHT 5CURVED
  4OTHERS_CIRCLED 3UP 2THUMB_UNDER_LITTLE_UP 1HAND-CIRCLE_LITTLE_UP 1HAND-OVAL_LITTLE_UP
  1HAND-ANGLE_LITTLE_UP 1HAND-FIST_LITTLE_RAISED_KNUCKLE 3BENT 3TOUCHES_THUMB 3THUMB
  1HAND-HINGE_LITTLE_THUMB 1HAND-FIST_LITTLE_INDEX_THUMB 1HAND-HINGE_LITTLE_INDEX_THUMB
  1HAND-ANGLE_LITTLE_INDEX_THUMB_INDEX_THUMB_OUT 7 1HAND-FIST_LITTLE_INDEX
  1HAND-CIRCLE_LITTLE_INDEX 1HAND-HINGE_LITTLE_INDEX 1HAND-ANGLE_LITTLE_INDEX
  1HAND-FIST_INDEX_MIDDLE_LITTLE 1HAND-CIRCLE_INDEX_MIDDLE_LITTLE 1HAND-HINGE_INDEX_MIDDLE_LITTLE
  2RING 1HAND-ANGLE_INDEX_MIDDLE_LITTLE 1HAND-FIST_INDEX_MIDDLE_CROSS_LITTLE
  1HAND-CIRCLE_INDEX_MIDDLE_CROSS_LITTLE 1HAND-FIST_RING_DOWN
  1HAND-HINGE_RING_DOWN_INDEX_THUMB_HOOK_MIDDLE 1HAND-ANGLE_RING_DOWN_MIDDLE_THUMB_INDEX_CROSS
  1HAND-FIST_RING_UP 3RAISED_KNUCKLE 3LITTLE 1HAND-CIRCLE_RING_LITTLE 1HAND-OVAL_RING_LITTLE
  1HAND-ANGLE_RING_LITTLE 1HAND-FIST_RING_MIDDLE 4CONJOINED 4RAISED_KNUCKLES 3INDEX 3THUMB
  1HAND-HOOK_RING_THUMB 1HAND-FIST_INDEX_RING_LITTLE 1HAND-CIRCLE_INDEX_RING_LITTLE
  1HAND-CURLICUE_INDEX_RING_LITTLE_ON 1HAND-HOOK_INDEX_RING_LITTLE_OUT 5IN 5UNDER
  1HAND-CUP_INDEX_RING_LITTLE 1HAND-HINGE_INDEX_RING_LITTLE 1HAND-ANGLE_INDEX_RING_LITTLE_OUT 5
  1HAND-FIST_MIDDLE_DOWN 1HAND-HINGE_MIDDLE 1HAND-FIST_MIDDLE_UP 1HAND-CIRCLE_MIDDLE_UP
  1HAND-FIST_MIDDLE_RAISED_KNUCKLE 3UP_THUMB_SIDE 1HAND-HOOK_MIDDLE_THUMB
  1HAND-FIST_MIDDLE_THUMB_LITTLE 3LITTLE 3RING_LITTLE 1HAND-CIRCLE_MIDDLE_RING_LITTLE
  1HAND-CURLICUE_MIDDLE_RING_LITTLE_ON 1HAND-CUP_MIDDLE_RING_LITTLE 1HAND-HINGE_MIDDLE_RING_LITTLE
  1HAND-ANGLE_MIDDLE_RING_LITTLE_OUT 5IN 5 1HAND-CIRCLE_MIDDLE_RING_LITTLE_BENT
  1HAND-CLAW_MIDDLE_RING_LITTLE_CONJOINED 6SIDE 1HAND-HOOK_MIDDLE_RING_LITTLE_CONJOINED_OUT 6IN 6
  1HAND-HINGE_INDEX_HINGED 1HAND-FIST_INDEX_THUMB_SIDE 1HAND-HINGE_INDEX_THUMB_SIDE
  1HAND-FIST_INDEX_THUMB_SIDE_THUMB_DIAGONAL 6CONJOINED 6BENT 5INDEX_BENT 5BOTH_BENT 5INDEX_HINGE
  4FORWARD_INDEX_STRAIGHT 6BENT 4HOOK 4CURLICUE 4CURVE_THUMB_INSIDE
  1HAND-CLAW_INDEX_THUMB_CURVE_THUMB_INSIDE 1HAND-FIST_INDEX_THUMB_CURVE_THUMB_UNDER 4CIRCLE
  1HAND-CUP_INDEX_THUMB 4OPEN 1HAND-HINGE_INDEX_THUMB_OPEN 4LARGE 4 4SMALL
  1HAND-ANGLE_INDEX_THUMB_OUT 4IN 4 1HAND-FIST_THUMB 3HEEL 3SIDE_DIAGONAL 4CONJOINED 4BENT
  3FORWARD 3BETWEEN_INDEX_MIDDLE 4MIDDLE_RING 4RING_LITTLE 3UNDER_TWO_FINGERS 3OVER_TWO_FINGERS
  3UNDER_THREE_FINGERS 4FOUR_FINGERS 3OVER_FOUR_RAISED_KNUCKLES 2 2HEEL 1TOUCH_SINGLE 2MULTIPLE
  2BETWEEN 1GRASP_SINGLE 2MULTIPLE 2BETWEEN 1STRIKE_SINGLE 2MULTIPLE 2BETWEEN 1BRUSH_SINGLE
  2MULTIPLE 2BETWEEN 1RUB_SINGLE 2MULTIPLE 2BETWEEN 1SURFACE_SYMBOLS 2BETWEEN
  1SQUEEZE_LARGE_SINGLE 2SMALL_SINGLE 2LARGE_MULTIPLE 2SMALL_MULTIPLE 2SEQUENTIAL
  1FLICK_LARGE_SINGLE 2SMALL_SINGLE 2LARGE_MULTIPLE 2SMALL_MULTIPLE 2SEQUENTIAL
  1SQUEEZE_FLICK_ALTERNATING 1MOVEMENT-HINGE_UP_DOWN_LARGE 4SMALL 3SEQUENTIAL 2DOWN_SEQUENTIAL
  2UP_DOWN_ALTERNATING_LARGE 5SMALL 2SIDE_TO_SIDE_SCISSORS 1MOVEMENT-WALLPLANE_FINGER_CONTACT
  1MOVEMENT-FLOORPLANE_FINGER_CONTACT 1MOVEMENT-WALLPLANE_SINGLE_STRAIGHT_SMALL 4MEDIUM 4LARGE
  4LARGEST 3WRIST_FLEX 2DOUBLE_STRAIGHT 3WRIST_FLEX 3ALTERNATING 4WRIST_FLEX 2CROSS
  2TRIPLE_STRAIGHT_MOVEMENT 3WRIST_FLEX 3ALTERNATING 4WRIST_FLEX 2BEND_SMALL 3MEDIUM 3LARGE
  2CORNER_SMALL 3MEDIUM 3LARGE 3ROTATION 2CHECK_SMALL 3MEDIUM 3LARGE 2BOX_SMALL 3MEDIUM 3LARGE
  2ZIGZAG_SMALL 3MEDIUM 3LARGE 2PEAKS_SMALL 3MEDIUM 3LARGE
  1TRAVEL-WALLPLANE_ROTATION-WALLPLANE_SINGLE 3DOUBLE 3ALTERNATING 2ROTATION-FLOORPLANE_SINGLE
  3DOUBLE 3ALTERNATING 2SHAKING 2ARM_SPIRAL_SINGLE 4DOUBLE 4TRIPLE 1MOVEMENT-DIAGONAL_AWAY_SMALL
  3MEDIUM 3LARGE 3LARGEST 2TOWARDS_SMALL 3MEDIUM 3LARGE 3LARGEST 2BETWEEN_AWAY_SMALL 4MEDIUM
  4LARGE 4LARGEST 3TOWARDS_SMALL 4MEDIUM 4LARGE 4LARGEST
  1MOVEMENT-FLOORPLANE_SINGLE_STRAIGHT_SMALL 4MEDIUM 4LARGE 4LARGEST 3WRIST_FLEX 2DOUBLE_STRAIGHT
  3WRIST_FLEX 3ALTERNATING 4WRIST_FLEX 2CROSS 2TRIPLE_STRAIGHT_MOVEMENT 3WRIST_FLEX
  3ALTERNATING_MOVEMENT 4WRIST_FLEX 2BEND 2CORNER_SMALL 3MEDIUM 3LARGE 2CHECK 2BOX_SMALL 3MEDIUM
  3LARGE 2ZIGZAG_SMALL 3MEDIUM 3LARGE 2PEAKS_SMALL 3MEDIUM 3LARGE
  1TRAVEL-FLOORPLANE_ROTATION-FLOORPLANE_SINGLE 3DOUBLE 3ALTERNATING 2ROTATION-WALLPLANE_SINGLE
  3DOUBLE 3ALTERNATING 2SHAKING 1MOVEMENT-WALLPLANE_CURVE_QUARTER_SMALL 4MEDIUM 4LARGE 4LARGEST
  3HALF-CIRCLE_SMALL 4MEDIUM 4LARGE 4LARGEST 3THREE-QUARTER_CIRCLE_SMALL 5MEDIUM 2HUMP_SMALL
  3MEDIUM 3LARGE 2LOOP_SMALL 3MEDIUM 3LARGE 3SMALL_DOUBLE 2WAVE_CURVE_DOUBLE_SMALL 5MEDIUM 5LARGE
  4TRIPLE_SMALL 5MEDIUM 5LARGE 2CURVE_THEN_STRAIGHT 2CURVED_CROSS_SMALL 4MEDIUM
  1ROTATION-WALLPLANE_SINGLE 2DOUBLE 2ALTERNATE 1MOVEMENT-WALLPLANE_SHAKING
  2CURVE_HITTING_FRONT_WALL 2HUMP_HITTING_FRONT_WALL 2LOOP_HITTING_FRONT_WALL
  2WAVE_HITTING_FRONT_WALL 1ROTATION-WALLPLANE_SINGLE_HITTING_FRONT_WALL
  2DOUBLE_HITTING_FRONT_WALL 2ALTERNATING_HITTING_FRONT_WALL
  1MOVEMENT-WALLPLANE_CURVE_HITTING_CHEST 2HUMP_HITTING_CHEST 2LOOP_HITTING_CHEST
  2WAVE_HITTING_CHEST 1ROTATION-WALLPLANE_SINGLE_HITTING_CHEST 2DOUBLE_HITTING_CHEST
  2ALTERNATING_HITTING_CHEST 1MOVEMENT-WALLPLANE_WAVE_DIAGONAL_PATH_SMALL 5MEDIUM 5LARGE
  1MOVEMENT-FLOORPLANE_CURVE_HITTING_CEILING_SMALL 5LARGE 2HUMP_HITTING_CEILING_SMALL_DOUBLE
  5LARGE_DOUBLE 5SMALL_TRIPLE 5LARGE_TRIPLE 2LOOP_HITTING_CEILING_SMALL_SINGLE 5LARGE_SINGLE
  5SMALL_DOUBLE 5LARGE_DOUBLE 2WAVE_HITTING_CEILING_SMALL 5LARGE
  1ROTATION-FLOORPLANE_SINGLE_HITTING_CEILING 2DOUBLE_HITTING_CEILING 2ALTERNATING_HITTING_CEILING
  1MOVEMENT-FLOORPLANE_CURVE_HITTING_FLOOR_SMALL 5LARGE 2HUMP_HITTING_FLOOR_SMALL_DOUBLE
  5LARGE_DOUBLE 5TRIPLE_SMALL_TRIPLE 6LARGE_TRIPLE 2LOOP_HITTING_FLOOR_SMALL_SINGLE 5LARGE_SINGLE
  5SMALL_DOUBLE 5LARGE_DOUBLE 2WAVE_HITTING_FLOOR_SMALL 5LARGE
  1ROTATION-FLOORPLANE_SINGLE_HITTING_FLOOR 2DOUBLE_HITTING_FLOOR 2ALTERNATING_HITTING_FLOOR
  1MOVEMENT-FLOORPLANE_CURVE_SMALL 3MEDIUM 3LARGE 3LARGEST 3COMBINED 2HUMP_SMALL 2LOOP_SMALL
  2WAVE_SNAKE 3SMALL 3LARGE 1ROTATION-FLOORPLANE_SINGLE 2DOUBLE 2ALTERNATING
  1MOVEMENT-FLOORPLANE_SHAKING_PARALLEL 1MOVEMENT-WALLPLANE_ARM_CIRCLE_SMALL_SINGLE 4MEDIUM_SINGLE
  4SMALL_DOUBLE 4MEDIUM_DOUBLE 1MOVEMENT-FLOORPLANE_ARM_CIRCLE_HITTING_WALL_SMALL_SINGLE
  6MEDIUM_SINGLE 6LARGE_SINGLE 6SMALL_DOUBLE 6MEDIUM_DOUBLE 6LARGE_DOUBLE
  1MOVEMENT-WALLPLANE_WRIST_CIRCLE_FRONT_SINGLE 5DOUBLE
  1MOVEMENT-FLOORPLANE_WRIST_CIRCLE_HITTING_WALL_SINGLE 6DOUBLE
  1MOVEMENT-WALLPLANE_FINGER_CIRCLES_SINGLE 4DOUBLE
  1MOVEMENT-FLOORPLANE_FINGER_CIRCLES_HITTING_WALL_SINGLE 6DOUBLE 1DYNAMIC_ARROWHEAD_SMALL 3LARGE
  2FAST 2SLOW 2TENSE 2RELAXED 2SIMULTANEOUS 3ALTERNATING 2EVERY_OTHER_TIME 2GRADUAL 1HEAD 2RIM
  2MOVEMENT-WALLPLANE_STRAIGHT 3TILT 2MOVEMENT-FLOORPLANE_STRAIGHT 2MOVEMENT-WALLPLANE_CURVE
  2MOVEMENT-FLOORPLANE_CURVE 2MOVEMENT_CIRCLE 1FACE_DIRECTION_POSITION_NOSE_FORWARD_TILTING
  5UP_OR_DOWN 8TILTING 1EYEBROWS_STRAIGHT_UP 3NEUTRAL 3DOWN 1DREAMY_EYEBROWS_NEUTRAL_DOWN
  3DOWN_NEUTRAL 3UP_NEUTRAL 3NEUTRAL_UP 1FOREHEAD_NEUTRAL 2CONTACT 2WRINKLED 1EYES_OPEN 2SQUEEZED
  2CLOSED 1EYE_BLINK_SINGLE 3MULTIPLE 1EYES_HALF_OPEN 2WIDE_OPEN 2HALF_CLOSED 2WIDENING_MOVEMENT
  1EYE_WINK 1EYELASHES_UP 2DOWN 2FLUTTERING 1EYEGAZE-WALLPLANE_STRAIGHT 3DOUBLE 3ALTERNATING
  1EYEGAZE-FLOORPLANE_STRAIGHT 3DOUBLE 3ALTERNATING 1EYEGAZE-WALLPLANE_CURVED
  1EYEGAZE-FLOORPLANE_CURVED 1EYEGAZE-WALLPLANE_CIRCLING 1CHEEKS_PUFFED 2NEUTRAL 2SUCKED
  1TENSE_CHEEKS_HIGH 3MIDDLE 3LOW 1EARS 1NOSE_NEUTRAL 2CONTACT 2WRINKLES 2WIGGLES 1AIR_BLOWING_OUT
  2SUCKING_IN 2BLOW_SMALL_ROTATIONS 2SUCK_SMALL_ROTATIONS 1BREATH_INHALE 2EXHALE
  1MOUTH_CLOSED_NEUTRAL 3FORWARD 3CONTACT 2SMILE 3WRINKLED 3OPEN 2FROWN 3WRINKLED 3OPEN
  2OPEN_CIRCLE 3FORWARD 3WRINKLED 3OVAL 4WRINKLED 4YAWN 3RECTANGLE 4WRINKLED 4YAWN 2KISS 3FORWARD
  3WRINKLED 2TENSE 3FORWARD 3SUCKED 1LIPS_PRESSED_TOGETHER 1LIP_LOWER_OVER_UPPER 2UPPER_OVER_LOWER
  1MOUTH_CORNERS 2WRINKLES_SINGLE 3DOUBLE 1TONGUE_STICKING_OUT_FAR 2LICKING_LIPS 2TIP_BETWEEN_LIPS
  3TOUCHING_INSIDE_MOUTH 2INSIDE_MOUTH_RELAXED 2MOVES_AGAINST_CHEEK 2CENTRE_STICKING_OUT
  3INSIDE_MOUTH 1TEETH 2MOVEMENT 2ON_TONGUE 4MOVEMENT 3LIPS 4MOVEMENT 2BITE_LIPS
  1MOVEMENT-WALLPLANE_JAW 1MOVEMENT-FLOORPLANE_JAW 1NECK 1HAIR 1EXCITEMENT 1SHOULDER_HIP_SPINE
  3POSITIONS 1WALLPLANE_SHOULDER_HIP_MOVE 1FLOORPLANE_SHOULDER_HIP_MOVE
  1SHOULDER_TILTING_FROM_WAIST 1TORSO-WALLPLANE_STRAIGHT_STRETCH 2CURVED_BEND
  1TORSO-FLOORPLANE_TWISTING 1UPPER_BODY_TILTING_FROM_HIP_JOINTS 1LIMB_COMBINATION 2LENGTH-1
  2LENGTH-2 2LENGTH-3 2LENGTH-4 2LENGTH-5 2LENGTH-6 2LENGTH-7 1FINGER 1LOCATION-WALLPLANE_SPACE
  1LOCATION-FLOORPLANE_SPACE 1LOCATION_HEIGHT 2WIDTH 2DEPTH 2HEAD_NECK 2TORSO 2LIMBS_DIGITS 1COMMA
  1FULL_STOP 1SEMICOLON 1COLON 1PARENTHESIS =1da9b 1FILL_MODIFIER-2 2MODIFIER-3 2MODIFIER-4
  2MODIFIER-5 2MODIFIER-6 =1daa1 1ROTATION_MODIFIER-2 2MODIFIER-3 2MODIFIER-4 2MODIFIER-5
  2MODIFIER-6 2MODIFIER-7 2MODIFIER-8 2MODIFIER-9 2MODIFIER-10 2MODIFIER-11 2MODIFIER-12
  2MODIFIER-13 2MODIFIER-14 2MODIFIER-15 2MODIFIER-16 =1df00
  0LATIN_SMALL_LETTER_FENG_DIGRAPH_WITH_TRILL 3REVERSED_SCRIPT_G 1LETTER_SMALL_CAPITAL_TURNED_G
  1SMALL_LETTER_REVERSED_K 1LETTER_SMALL_CAPITAL_L_WITH_BELT
  1SMALL_LETTER_LEZH_WITH_RETROFLEX_HOOK 3TURNED_Y_WITH_BELT 3REVERSED_ENG
  3TURNED_R_WITH_LONG_LEG_AND_RETROFLEX_HOOK 3T_WITH_HOOK_AND_RETROFLEX_HOOK
  1LETTER_RETROFLEX_CLICK_WITH_RETROFLEX_HOOK 1SMALL_LETTER_ESH_WITH_DOUBLE_BAR 7AND_CURL
  3TURNED_T_WITH_CURL 1LETTER_INVERTED_GLOTTAL_STOP_WITH_CURL 2STRETCHED_C_WITH_CURL
  2SMALL_CAPITAL_TURNED_K 1SMALL_LETTER_L_WITH_FISHHOOK 3DEZH_DIGRAPH_WITH_PALATAL_HOOK
  3L_WITH_BELT_AND_PALATAL_HOOK 3ENG_WITH_PALATAL_HOOK 3TURNED_R_WITH_PALATAL_HOOK
  3R_WITH_FISHHOOK_AND_PALATAL_HOOK 3TESH_DIGRAPH_WITH_PALATAL_HOOK 3EZH_WITH_PALATAL_HOOK
  3DEZH_DIGRAPH_WITH_RETROFLEX_HOOK 3I_WITH_STROKE_AND_RETROFLEX_HOOK 3O_WITH_RETROFLEX_HOOK
  3TESH_DIGRAPH_WITH_RETROFLEX_HOOK 3C_WITH_RETROFLEX_HOOK 3S_WITH_CURL =1e000
  0COMBINING_GLAGOLITIC_LETTER_AZU 3BUKY 3VEDE 3GLAGOLI 3DOBRO 3YESTU 3ZHIVETE =1e008 3ZEMLJA
  3IZHE 3INITIAL_IZHE 3I 3DJERVI 3KAKO 3LJUDIJE 3MYSLITE 3NASHI 3ONU 3POKOJI 3RITSI 3SLOVO 3TVRIDO
  3UKU 3FRITU 3HERU =1e01b 3SHTA 3TSI 3CHRIVI 3SHA 3YERU 3YERI 3YATI =1e023 3YU 3SMALL_YUS =1e026
  3YO 3IOTATED_SMALL_YUS 3BIG_YUS 3IOTATED_BIG_YUS 3FITA =1e100 0NYIAKENG_PUACHUE_HMONG_LETTER_MA
  4TSA 4NTA 4TA 4HA 4NA 4XA 4NKA 4CA 4LA 4SA 4ZA 4NCA 4NTSA 4KA 4DA 4NYA 4NRA 4VA 4NTXA 4TXA 4FA
  4RA 4QA 4YA 4NQA 4PA 4XYA 4NPA 4DLA 4NPLA 4HAH 4MLA 4PLA 4GA 4RRA 4A 4AA 4I 4U 4O 4OO 4E 4EE 4W
  =1e130 3TONE-B 3TONE-M 3TONE-J 3TONE-V 3TONE-S 3TONE-G 3TONE-D 3SIGN_FOR_PERSON 5THING 5LOCATION
  5ANIMAL 5INVERTEBRATE 4XW_XW 3SYLLABLE_LENGTHENER =1e140 3DIGIT_ZERO 4ONE 4TWO 4THREE 4FOUR
  4FIVE 4SIX 4SEVEN 4EIGHT 4NINE =1e14e 3LOGOGRAM_NYAJ 3CIRCLED_CA =1e290 0TOTO_LETTER_PA 2BA 2TA
  2DA 2KA 2GA 2MA 2NA 2NGA 2SA 2CHA 2YA 2WA 2JA 2HA 2RA 2LA 2I 2BREATHY_I 2IU 2BREATHY_IU 2U 2E
  2BREATHY_E 2EO 2BREATHY_EO 2O 2AE 2BREATHY_AE 2A 1SIGN_RISING_TONE =1e2c0 0WANCHO_LETTER_AA 2A
  2BA 2CA 2DA 2GA 2YA 2PHA 2LA 2NA 2PA 2TA 2THA 2FA 2SA 2SHA 2JA 2ZA 2WA 2VA 2KA 2O 2AU 2RA 2MA
  2KHA 2HA 2E 2I 2NGA 2U 2LLHA 2TSA 2TRA 2ONG 2AANG 2ANG 2ING 2ON 2EN 2AAN 2NYA 2UEN 2YIH
  1TONE_TUP 2TUPNI 2KOI 2KOINI 1DIGIT_ZERO 2ONE 2TWO 2THREE 2FOUR 2FIVE 2SIX 2SEVEN 2EIGHT 2NINE
  =1e2ff 1NGUN_SIGN =1e7e0 0ETHIOPIC_SYLLABLE_HHYA 2HHYU 2HHYI 2HHYAA 2HHYEE 2HHYE 2HHYO =1e7e8
  2GURAGE_HHWA 2HHWI 2HHWEE 2HHWE =1e7ed 2GURAGE_MWI 3MWEE =1e7f0 3QWI 3QWEE 3QWE 3BWI 3BWEE 3KWI
  3KWEE 3KWE 3GWI 3GWEE 3GWE 3FWI 3FWEE 3PWI 3PWEE =1e800 0MENDE_KIKAKUI_SYLLABLE_M001_KI 3M002_KA
  3M003_KU 3M065_KEE 3M095_KE 3M076_KOO 3M048_KO 3M179_KUA 3M004_WI 3M005_WA 3M006_WU 3M126_WEE
  3M118_WE 3M114_WOO 3M045_WO 3M194_WUI 3M143_WEI 3M061_WVI 3M049_WVA 3M139_WVE 3M007_MIN
  3M008_MAN 3M009_MUN 3M059_MEN 3M094_MON 3M154_MUAN 3M189_MUEN 3M010_BI 3M011_BA 3M012_BU
  3M150_BEE 3M097_BE 3M103_BOO 3M138_BO 3M013_I 3M014_A 3M015_U 3M163_EE 3M100_E 3M165_OO 3M147_O
  3M137_EI 3M131_IN 3M135_IN 3M195_AN 3M178_EN 3M019_SI 3M020_SA 3M021_SU 3M162_SEE 3M116_SE
  3M136_SOO 3M079_SO 3M196_SIA 3M025_LI 3M026_LA 3M027_LU 3M084_LEE 3M073_LE 3M054_LOO 3M153_LO
  3M110_LONG_LE 3M016_DI 3M017_DA 3M018_DU 3M089_DEE 3M180_DOO 3M181_DO 3M022_TI 3M023_TA 3M024_TU
  3M091_TEE 3M055_TE 3M104_TOO 3M069_TO 3M028_JI 3M029_JA 3M030_JU 3M157_JEE 3M113_JE 3M160_JOO
  3M063_JO 3M175_LONG_JO 3M031_YI 3M032_YA 3M033_YU 3M109_YEE 3M080_YE 3M141_YOO 3M121_YO 3M034_FI
  3M035_FA 3M036_FU 3M078_FEE 3M075_FE 3M133_FOO 3M088_FO 3M197_FUA 3M101_FAN 3M037_NIN 3M038_NAN
  3M039_NUN 3M117_NEN 3M169_NON 3M176_HI 3M041_HA 3M186_HU 3M040_HEE 3M096_HE 3M042_HOO 3M140_HO
  3M083_HEEI 3M128_HOOU 3M053_HIN 3M130_HAN 3M087_HUN 3M052_HEN 3M193_HON 3M046_HUAN 3M090_NGGI
  3M043_NGGA 3M082_NGGU 3M115_NGGEE 3M146_NGGE 3M156_NGGOO 3M120_NGGO 3M159_NGGAA 3M127_NGGUA
  3M086_LONG_NGGE 3M106_LONG_NGGOO 3M183_LONG_NGGO 3M155_GI 3M111_GA 3M168_GU 3M190_GEE 3M166_GUEI
  3M167_GUAN 3M184_NGEN 3M057_NGON 3M177_NGUAN 3M068_PI 3M099_PA 3M050_PU 3M081_PEE 3M051_PE
  3M102_POO 3M066_PO 3M145_MBI 3M062_MBA 3M122_MBU 3M047_MBEE 3M188_MBEE 3M072_MBE 3M172_MBOO
  3M174_MBO 3M187_MBUU 3M161_LONG_MBE 3M105_LONG_MBOO 3M142_LONG_MBO 3M132_KPI 3M092_KPA 3M074_KPU
  3M044_KPEE 3M108_KPE 3M112_KPOO 3M158_KPO 3M124_GBI 3M056_GBA 3M148_GBU 3M093_GBEE 3M107_GBE
  3M071_GBOO 3M070_GBO 3M171_RA 3M123_NDI 3M129_NDA 3M125_NDU 3M191_NDEE 3M119_NDE 3M067_NDOO
  3M064_NDO 3M152_NJA 3M192_NJU 3M149_NJEE 3M134_NJOO 3M182_VI 3M185_VA 3M151_VU 3M173_VEE
  3M085_VE 3M144_VOO 3M077_VO 3M164_NYIN 3M058_NYAN 3M170_NYUN 3M098_NYEN 3M060_NYON =1e8c7
  2DIGIT_ONE 3TWO 3THREE 3FOUR 3FIVE 3SIX 3SEVEN 3EIGHT 3NINE 2COMBINING_NUMBER_TEENS 4TENS
  4HUNDREDS 4THOUSANDS 4TEN_THOUSANDS 4HUNDRED_THOUSANDS 4MILLIONS =1e900
  0ADLAM_CAPITAL_LETTER_ALIF 3DAALI 3LAAM 3MIIM 3BA 3SINNYIIYHE 3PE 3BHE 3RA 3E 3FA 3I 3O 3DHA
  3YHE 3WAW 3NUN 3KAF 3YA 3U 3JIIM 3CHI 3HA 3QAAF 3GA 3NYA 3TU 3NHA 3VA 3KHA 3GBE 3ZAL 3KPO 3SHA
  1SMALL_LETTER_ALIF 3DAALI 3LAAM 3MIIM 3BA 3SINNYIIYHE 3PE 3BHE 3RA 3E 3FA 3I 3O 3DHA 3YHE 3WAW
  3NUN 3KAF 3YA 3U 3JIIM 3CHI 3HA 3QAAF 3GA 3NYA 3TU 3NHA 3VA 3KHA 3GBE 3ZAL 3KPO 3SHA
  1ALIF_LENGTHENER 1VOWEL_LENGTHENER 1GEMINATION_MARK 1HAMZA 1CONSONANT_MODIFIER
  1GEMINATE_CONSONANT_MODIFIER 1NUKTA 1NASALIZATION_MARK =1e950 1DIGIT_ZERO 2ONE 2TWO 2THREE 2FOUR
  2FIVE 2SIX 2SEVEN 2EIGHT 2NINE =1e95e 1INITIAL_EXCLAMATION_MARK 2QUESTION_MARK =1ec71
  0INDIC_SIYAQ_NUMBER_ONE 3TWO 3THREE 3FOUR 3FIVE 3SIX 3SEVEN 3EIGHT 3NINE 3TEN 3TWENTY 3THIRTY
  3FORTY 3FIFTY 3SIXTY 3SEVENTY 3EIGHTY 3NINETY 3ONE_HUNDRED 3TWO_HUNDRED 3THREE_HUNDRED
  3FOUR_HUNDRED 3FIVE_HUNDRED 3SIX_HUNDRED 3SEVEN_HUNDRED 3EIGHT_HUNDRED 3NINE_HUNDRED
  3ONE_THOUSAND 3TWO_THOUSAND 3THREE_THOUSAND 3FOUR_THOUSAND 3FIVE_THOUSAND 3SIX_THOUSAND
  3SEVEN_THOUSAND 3EIGHT_THOUSAND 3NINE_THOUSAND 3TEN_THOUSAND 3TWENTY_THOUSAND 3THIRTY_THOUSAND
  3FORTY_THOUSAND 3FIFTY_THOUSAND 3SIXTY_THOUSAND 3SEVENTY_THOUSAND 3EIGHTY_THOUSAND
  3NINETY_THOUSAND 3LAKH 3LAKHAN 2LAKH_MARK 2NUMBER_KAROR 3KARORAN 3PREFIXED_ONE 4TWO 4THREE 4FOUR
  4FIVE 4SIX 4SEVEN 4EIGHT 4NINE 2PLACEHOLDER 2FRACTION_ONE_QUARTER 4HALF 3THREE_QUARTERS
  2RUPEE_MARK 2NUMBER_ALTERNATE_ONE 4TWO 4TEN_THOUSAND 2ALTERNATE_LAKH_MARK =1ed01
  0OTTOMAN_SIYAQ_NUMBER_ONE 3TWO 3THREE 3FOUR 3FIVE 3SIX 3SEVEN 3EIGHT 3NINE 3TEN 3TWENTY 3THIRTY
  3FORTY 3FIFTY 3SIXTY 3SEVENTY 3EIGHTY 3NINETY 3ONE_HUNDRED 3TWO_HUNDRED 3THREE_HUNDRED
  3FOUR_HUNDRED 3FIVE_HUNDRED 3SIX_HUNDRED 3SEVEN_HUNDRED 3EIGHT_HUNDRED 3NINE_HUNDRED
  3ONE_THOUSAND 3TWO_THOUSAND 3THREE_THOUSAND 3FOUR_THOUSAND 3FIVE_THOUSAND 3SIX_THOUSAND
  3SEVEN_THOUSAND 3EIGHT_THOUSAND 3NINE_THOUSAND 3TEN_THOUSAND 3TWENTY_THOUSAND 3THIRTY_THOUSAND
  3FORTY_THOUSAND 3FIFTY_THOUSAND 3SIXTY_THOUSAND 3SEVENTY_THOUSAND 3EIGHTY_THOUSAND
  3NINETY_THOUSAND 2MARRATAN 2ALTERNATE_NUMBER_TWO 4THREE 4FOUR 4FIVE 4SIX 4SEVEN 4EIGHT 4NINE
  4TEN 4FOUR_HUNDRED 4SIX_HUNDRED 4TWO_THOUSAND 4TEN_THOUSAND 2FRACTION_ONE_HALF 4SIXTH =1ee00
  0ARABIC_MATHEMATICAL_ALEF 2BEH 2JEEM 2DAL =1ee05 2WAW 2ZAIN 2HAH 2TAH 2YEH 2KAF 2LAM 2MEEM 2NOON
  2SEEN 2AIN 2FEH 2SAD 2QAF 2REH 2SHEEN 2TEH 2THEH 2KHAH 2THAL 2DAD 2ZAH 2GHAIN 2DOTLESS_BEH 3NOON
  3FEH 3QAF =1ee21 2INITIAL_BEH 3JEEM =1ee24 3HEH =1ee27 3HAH =1ee29 3YEH 3KAF 3LAM 3MEEM 3NOON
  3SEEN 3AIN 3FEH 3SAD 3QAF =1ee34 3SHEEN 3TEH 3THEH 3KHAH =1ee39 3DAD =1ee3b 3GHAIN =1ee42
  2TAILED_JEEM =1ee47 3HAH =1ee49 3YEH =1ee4b 3LAM =1ee4d 3NOON 3SEEN 3AIN =1ee51 3SAD 3QAF =1ee54
  3SHEEN =1ee57 3KHAH =1ee59 3DAD =1ee5b 3GHAIN =1ee5d 3DOTLESS_NOON =1ee5f 4QAF =1ee61
  2STRETCHED_BEH 3JEEM =1ee64 3HEH =1ee67 3HAH 3TAH 3YEH 3KAF =1ee6c 3MEEM 3NOON 3SEEN 3AIN 3FEH
  3SAD 3QAF =1ee74 3SHEEN 3TEH 3THEH 3KHAH =1ee79 3DAD 3ZAH 3GHAIN 3DOTLESS_BEH =1ee7e 4FEH =1ee80
  2LOOPED_ALEF 3BEH 3JEEM 3DAL 3HEH 3WAW 3ZAIN 3HAH 3TAH 3YEH =1ee8b 3LAM 3MEEM 3NOON 3SEEN 3AIN
  3FEH 3SAD 3QAF 3REH 3SHEEN 3TEH 3THEH 3KHAH 3THAL 3DAD 3ZAH 3GHAIN =1eea1 2DOUBLE-STRUCK_BEH
  3JEEM 3DAL =1eea5 3WAW 3ZAIN 3HAH 3TAH 3YEH =1eeab 3LAM 3MEEM 3NOON 3SEEN 3AIN 3FEH 3SAD 3QAF
  3REH 3SHEEN 3TEH 3THEH 3KHAH 3THAL 3DAD 3ZAH 3GHAIN =1eef0 2OPERATOR_MEEM_WITH_HAH_WITH_TATWEEL
  3HAH_WITH_DAL =1f000 0MAHJONG_TILE_EAST_WIND 2SOUTH_WIND 2WEST_WIND 2NORTH_WIND 2RED_DRAGON
  2GREEN_DRAGON 2WHITE_DRAGON 2ONE_OF_CHARACTERS 2TWO_OF_CHARACTERS 2THREE_OF_CHARACTERS
  2FOUR_OF_CHARACTERS 2FIVE_OF_CHARACTERS 2SIX_OF_CHARACTERS 2SEVEN_OF_CHARACTERS
  2EIGHT_OF_CHARACTERS 2NINE_OF_CHARACTERS 2ONE_OF_BAMBOOS 2TWO_OF_BAMBOOS 2THREE_OF_BAMBOOS
  2FOUR_OF_BAMBOOS 2FIVE_OF_BAMBOOS 2SIX_OF_BAMBOOS 2SEVEN_OF_BAMBOOS 2EIGHT_OF_BAMBOOS
  2NINE_OF_BAMBOOS 2ONE_OF_CIRCLES 2TWO_OF_CIRCLES 2THREE_OF_CIRCLES 2FOUR_OF_CIRCLES
  2FIVE_OF_CIRCLES 2SIX_OF_CIRCLES 2SEVEN_OF_CIRCLES 2EIGHT_OF_CIRCLES 2NINE_OF_CIRCLES 2PLUM
  2ORCHID 2BAMBOO 2CHRYSANTHEMUM 2SPRING 2SUMMER 2AUTUMN 2WINTER 2JOKER 2BACK =1f030
  0DOMINO_TILE_HORIZONTAL_BACK 2HORIZONTAL-00-00 2HORIZONTAL-00-01 2HORIZONTAL-00-02
  2HORIZONTAL-00-03 2HORIZONTAL-00-04 2HORIZONTAL-00-05 2HORIZONTAL-00-06 2HORIZONTAL-01-00
  2HORIZONTAL-01-01 2HORIZONTAL-01-02 2HORIZONTAL-01-03 2HORIZONTAL-01-04 2HORIZONTAL-01-05
  2HORIZONTAL-01-06 2HORIZONTAL-02-00 2HORIZONTAL-02-01 2HORIZONTAL-02-02 2HORIZONTAL-02-03
  2HORIZONTAL-02-04 2HORIZONTAL-02-05 2HORIZONTAL-02-06 2HORIZONTAL-03-00 2HORIZONTAL-03-01
  2HORIZONTAL-03-02 2HORIZONTAL-03-03 2HORIZONTAL-03-04 2HORIZONTAL-03-05 2HORIZONTAL-03-06
  2HORIZONTAL-04-00 2HORIZONTAL-04-01 2HORIZONTAL-04-02 2HORIZONTAL-04-03 2HORIZONTAL-04-04
  2HORIZONTAL-04-05 2HORIZONTAL-04-06 2HORIZONTAL-05-00 2HORIZONTAL-05-01 2HORIZONTAL-05-02
  2HORIZONTAL-05-03 2HORIZONTAL-05-04 2HORIZONTAL-05-05 2HORIZONTAL-05-06 2HORIZONTAL-06-00
  2HORIZONTAL-06-01 2HORIZONTAL-06-02 2HORIZONTAL-06-03 2HORIZONTAL-06-04 2HORIZONTAL-06-05
  2HORIZONTAL-06-06 2VERTICAL_BACK 2VERTICAL-00-00 2VERTICAL-00-01 2VERTICAL-00-02 2VERTICAL-00-03
  2VERTICAL-00-04 2VERTICAL-00-05 2VERTICAL-00-06 2VERTICAL-01-00 2VERTICAL-01-01 2VERTICAL-01-02
  2VERTICAL-01-03 2VERTICAL-01-04 2VERTICAL-01-05 2VERTICAL-01-06 2VERTICAL-02-00 2VERTICAL-02-01
  2VERTICAL-02-02 2VERTICAL-02-03 2VERTICAL-02-04 2VERTICAL-02-05 2VERTICAL-02-06 2VERTICAL-03-00
  2VERTICAL-03-01 2VERTICAL-03-02 2VERTICAL-03-03 2VERTICAL-03-04 2VERTICAL-03-05 2VERTICAL-03-06
  2VERTICAL-04-00 2VERTICAL-04-01 2VERTICAL-04-02 2VERTICAL-04-03 2VERTICAL-04-04 2VERTICAL-04-05
  2VERTICAL-04-06 2VERTICAL-05-00 2VERTICAL-05-01 2VERTICAL-05-02 2VERTICAL-05-03 2VERTICAL-05-04
  2VERTICAL-05-05 2VERTICAL-05-06 2VERTICAL-06-00 2VERTICAL-06-01 2VERTICAL-06-02 2VERTICAL-06-03
  2VERTICAL-06-04 2VERTICAL-06-05 2VERTICAL-06-06 =1f0a0 0PLAYING_CARD_BACK 2ACE_OF_SPADES
  2TWO_OF_SPADES 2THREE_OF_SPADES 2FOUR_OF_SPADES 2FIVE_OF_SPADES 2SIX_OF_SPADES 2SEVEN_OF_SPADES
  2EIGHT_OF_SPADES 2NINE_OF_SPADES 2TEN_OF_SPADES 2JACK_OF_SPADES 2KNIGHT_OF_SPADES
  2QUEEN_OF_SPADES 2KING_OF_SPADES =1f0b1 2ACE_OF_HEARTS 2TWO_OF_HEARTS 2THREE_OF_HEARTS
  2FOUR_OF_HEARTS 2FIVE_OF_HEARTS 2SIX_OF_HEARTS 2SEVEN_OF_HEARTS 2EIGHT_OF_HEARTS 2NINE_OF_HEARTS
  2TEN_OF_HEARTS 2JACK_OF_HEARTS 2KNIGHT_OF_HEARTS 2QUEEN_OF_HEARTS 2KING_OF_HEARTS 2RED_JOKER
  =1f0c1 2ACE_OF_DIAMONDS 2TWO_OF_DIAMONDS 2THREE_OF_DIAMONDS 2FOUR_OF_DIAMONDS 2FIVE_OF_DIAMONDS
  2SIX_OF_DIAMONDS 2SEVEN_OF_DIAMONDS 2EIGHT_OF_DIAMONDS 2NINE_OF_DIAMONDS 2TEN_OF_DIAMONDS
  2JACK_OF_DIAMONDS 2KNIGHT_OF_DIAMONDS 2QUEEN_OF_DIAMONDS 2KING_OF_DIAMONDS 2BLACK_JOKER =1f0d1
  2ACE_OF_CLUBS 2TWO_OF_CLUBS 2THREE_OF_CLUBS 2FOUR_OF_CLUBS 2FIVE_OF_CLUBS 2SIX_OF_CLUBS
  2SEVEN_OF_CLUBS 2EIGHT_OF_CLUBS 2NINE_OF_CLUBS 2TEN_OF_CLUBS 2JACK_OF_CLUBS 2KNIGHT_OF_CLUBS
  2QUEEN_OF_CLUBS 2KING_OF_CLUBS 2WHITE_JOKER 2FOOL 2TRUMP-1 2TRUMP-2 2TRUMP-3 2TRUMP-4 2TRUMP-5
  2TRUMP-6 2TRUMP-7 2TRUMP-8 2TRUMP-9 2TRUMP-10 2TRUMP-11 2TRUMP-12 2TRUMP-13 2TRUMP-14 2TRUMP-15
  2TRUMP-16 2TRUMP-17 2TRUMP-18 2TRUMP-19 2TRUMP-20 2TRUMP-21 =1f100 0DIGIT_ZERO_FULL_STOP 2COMMA
  1ONE_COMMA 1TWO_COMMA 1THREE_COMMA 1FOUR_COMMA 1FIVE_COMMA 1SIX_COMMA 1SEVEN_COMMA 1EIGHT_COMMA
  1NINE_COMMA 0DINGBAT_CIRCLED_SANS-SERIF_DIGIT_ZERO 1NEGATIVE_CIRCLED_SANS-SERIF_DIGIT_ZERO
  0CIRCLED_ZERO_WITH_SLASH 1ANTICLOCKWISE_ARROW 1DOLLAR_SIGN_WITH_OVERLAID_BACKSLASH
  0PARENTHESIZED_LATIN_CAPITAL_LETTER_A 4B 4C 4D 4E 4F 4G 4H 4I 4J 4K 4L 4M 4N 4O 4P 4Q 4R 4S 4T
  4U 4V 4W 4X 4Y 4Z 0TORTOISE_SHELL_BRACKETED_LATIN_CAPITAL_LETTER_S
  0CIRCLED_ITALIC_LATIN_CAPITAL_LETTER_C 5R 1CD 1WZ 0COPYLEFT_SYMBOL
  0SQUARED_LATIN_CAPITAL_LETTER_A 4B 4C 4D 4E 4F 4G 4H 4I 4J 4K 4L 4M 4N 4O 4P 4Q 4R 4S 4T 4U 4V
  4W 4X 4Y 4Z 1HV 1MV 1SD 1SS 1PPV 1WC 0NEGATIVE_CIRCLED_LATIN_CAPITAL_LETTER_A 5B 5C 5D 5E 5F 5G
  5H 5I 5J 5K 5L 5M 5N 5O 5P 5Q 5R 5S 5T 5U 5V 5W 5X 5Y 5Z 0RAISED_MC_SIGN 1MD_SIGN 1MR_SIGN
  0CIRCLED_CC 1C_WITH_OVERLAID_BACKSLASH 1HUMAN_FIGURE 0NEGATIVE_SQUARED_LATIN_CAPITAL_LETTER_A 5B
  5C 5D 5E 5F 5G 5H 5I 5J 5K 5L 5M 5N 5O 5P 5Q 5R 5S 5T 5U 5V 5W 5X 5Y 5Z
  0CROSSED_NEGATIVE_SQUARED_LATIN_CAPITAL_LETTER_P 0NEGATIVE_SQUARED_IC 2PA 2SA 2AB 2WC 0SQUARE_DJ
  0SQUARED_CL 1COOL 1FREE 1ID 1NEW 1NG 1OK 1SOS 1UP_WITH_EXCLAMATION_MARK 1VS 1THREE_D
  1SECOND_SCREEN 1TWO_K 1FOUR_K 1EIGHT_K 1FIVE_POINT_ONE 1SEVEN_POINT_ONE 1TWENTY-TWO_POINT_TWO
  1SIXTY_P 1ONE_HUNDRED_TWENTY_P 1LATIN_SMALL_LETTER_D 1HC 1HDR 1HI-RES 1LOSSLESS 1SHV 1UHD 1VOD
  0MASK_WORK_SYMBOL =1f1e6 0REGIONAL_INDICATOR_SYMBOL_LETTER_A 4B 4C 4D 4E 4F 4G 4H 4I 4J 4K 4L 4M
  4N 4O 4P 4Q 4R 4S 4T 4U 4V 4W 4X 4Y 4Z 0SQUARE_HIRAGANA_HOKA 0SQUARED_KATAKANA_KOKO 2SA =1f210
  1CJK_UNIFIED_IDEOGRAPH-624B 3IDEOGRAPH-5B57 3IDEOGRAPH-53CC 1KATAKANA_DE
  1CJK_UNIFIED_IDEOGRAPH-4E8C 3IDEOGRAPH-591A 3IDEOGRAPH-89E3 3IDEOGRAPH-5929 3IDEOGRAPH-4EA4
  3IDEOGRAPH-6620 3IDEOGRAPH-7121 3IDEOGRAPH-6599 3IDEOGRAPH-524D 3IDEOGRAPH-5F8C 3IDEOGRAPH-518D
  3IDEOGRAPH-65B0 3IDEOGRAPH-521D 3IDEOGRAPH-7D42 3IDEOGRAPH-751F 3IDEOGRAPH-8CA9 3IDEOGRAPH-58F0
  3IDEOGRAPH-5439 3IDEOGRAPH-6F14 3IDEOGRAPH-6295 3IDEOGRAPH-6355 3IDEOGRAPH-4E00 3IDEOGRAPH-4E09
  3IDEOGRAPH-904A 3IDEOGRAPH-5DE6 3IDEOGRAPH-4E2D 3IDEOGRAPH-53F3 3IDEOGRAPH-6307 3IDEOGRAPH-8D70
  3IDEOGRAPH-6253 3IDEOGRAPH-7981 3IDEOGRAPH-7A7A 3IDEOGRAPH-5408 3IDEOGRAPH-6E80 3IDEOGRAPH-6709
  3IDEOGRAPH-6708 3IDEOGRAPH-7533 3IDEOGRAPH-5272 3IDEOGRAPH-55B6 3IDEOGRAPH-914D =1f240
  0TORTOISE_SHELL_BRACKETED_CJK_UNIFIED_IDEOGRAPH-672C 5IDEOGRAPH-4E09 5IDEOGRAPH-4E8C
  5IDEOGRAPH-5B89 5IDEOGRAPH-70B9 5IDEOGRAPH-6253 5IDEOGRAPH-76D7 5IDEOGRAPH-52DD 5IDEOGRAPH-6557
  =1f250 0CIRCLED_IDEOGRAPH_ADVANTAGE 2ACCEPT =1f260 0ROUNDED_SYMBOL_FOR_FU 3LU 3SHOU 3XI
  3SHUANGXI 3CAI =1f300 0CYCLONE 0FOGGY 0CLOSED_UMBRELLA 0NIGHT_WITH_STARS 0SUNRISE_OVER_MOUNTAINS
  1 0CITYSCAPE_AT_DUSK 0SUNSET_OVER_BUILDINGS 0RAINBOW 0BRIDGE_AT_NIGHT 0WATER_WAVE 0VOLCANO
  0MILKY_WAY 0EARTH_GLOBE_EUROPE-AFRICA 2AMERICAS 2ASIA-AUSTRALIA 0GLOBE_WITH_MERIDIANS
  0NEW_MOON_SYMBOL 0WAXING_CRESCENT_MOON_SYMBOL 0FIRST_QUARTER_MOON_SYMBOL
  0WAXING_GIBBOUS_MOON_SYMBOL 0FULL_MOON_SYMBOL 0WANING_GIBBOUS_MOON_SYMBOL
  0LAST_QUARTER_MOON_SYMBOL 0WANING_CRESCENT_MOON_SYMBOL 0CRESCENT_MOON 0NEW_MOON_WITH_FACE
  0FIRST_QUARTER_MOON_WITH_FACE 0LAST_QUARTER_MOON_WITH_FACE 0FULL_MOON_WITH_FACE 0SUN_WITH_FACE
  0GLOWING_STAR 0SHOOTING_STAR 0THERMOMETER 0BLACK_DROPLET 0WHITE_SUN 2WITH_SMALL_CLOUD
  2BEHIND_CLOUD 4WITH_RAIN 0CLOUD_WITH_RAIN 2SNOW 2LIGHTNING 2TORNADO 0FOG 0WIND_BLOWING_FACE
  0HOT_DOG 0TACO 0BURRITO 0CHESTNUT 0SEEDLING 0EVERGREEN_TREE 0DECIDUOUS_TREE 0PALM_TREE 0CACTUS
  0HOT_PEPPER 0TULIP 0CHERRY_BLOSSOM 0ROSE 0HIBISCUS 0SUNFLOWER 0BLOSSOM 0EAR_OF_MAIZE 2RICE 0HERB
  0FOUR_LEAF_CLOVER 0MAPLE_LEAF 0FALLEN_LEAF 0LEAF_FLUTTERING_IN_WIND 0MUSHROOM 0TOMATO 0AUBERGINE
  0GRAPES 0MELON 0WATERMELON 0TANGERINE 0LEMON 0BANANA 0PINEAPPLE 0RED_APPLE 0GREEN_APPLE 0PEAR
  0PEACH 0CHERRIES 0STRAWBERRY 0HAMBURGER 0SLICE_OF_PIZZA 0MEAT_ON_BONE 0POULTRY_LEG 0RICE_CRACKER
  1BALL 0COOKED_RICE 0CURRY_AND_RICE 0STEAMING_BOWL 0SPAGHETTI 0BREAD 0FRENCH_FRIES
  0ROASTED_SWEET_POTATO 0DANGO 0ODEN 0SUSHI 0FRIED_SHRIMP 0FISH_CAKE_WITH_SWIRL_DESIGN
  0SOFT_ICE_CREAM 0SHAVED_ICE 0ICE_CREAM 0DOUGHNUT 0COOKIE 0CHOCOLATE_BAR 0CANDY 0LOLLIPOP
  0CUSTARD 0HONEY_POT 0SHORTCAKE 0BENTO_BOX 0POT_OF_FOOD 0COOKING 0FORK_AND_KNIFE
  0TEACUP_WITHOUT_HANDLE 0SAKE_BOTTLE_AND_CUP 0WINE_GLASS 0COCKTAIL_GLASS 0TROPICAL_DRINK
  0BEER_MUG 0CLINKING_BEER_MUGS 0BABY_BOTTLE 0FORK_AND_KNIFE_WITH_PLATE 0BOTTLE_WITH_POPPING_CORK
  0POPCORN 0RIBBON 0WRAPPED_PRESENT 0BIRTHDAY_CAKE 0JACK-O-LANTERN 0CHRISTMAS_TREE
  0FATHER_CHRISTMAS 0FIREWORKS 0FIREWORK_SPARKLER 0BALLOON 0PARTY_POPPER 0CONFETTI_BALL
  0TANABATA_TREE 0CROSSED_FLAGS 0PINE_DECORATION 0JAPANESE_DOLLS 0CARP_STREAMER 0WIND_CHIME
  0MOON_VIEWING_CEREMONY 0SCHOOL_SATCHEL 0GRADUATION_CAP 0HEART_WITH_TIP_ON_THE_LEFT
  0BOUQUET_OF_FLOWERS 0MILITARY_MEDAL 0REMINDER_RIBBON 0MUSICAL_KEYBOARD_WITH_JACKS
  0STUDIO_MICROPHONE 0LEVEL_SLIDER 0CONTROL_KNOBS 0BEAMED_ASCENDING_MUSICAL_NOTES
  1DESCENDING_MUSICAL_NOTES 0FILM_FRAMES 0ADMISSION_TICKETS 0CAROUSEL_HORSE 0FERRIS_WHEEL
  0ROLLER_COASTER 0FISHING_POLE_AND_FISH 0MICROPHONE 0MOVIE_CAMERA 0CINEMA 0HEADPHONE
  0ARTIST_PALETTE 0TOP_HAT 0CIRCUS_TENT 0TICKET 0CLAPPER_BOARD 0PERFORMING_ARTS 0VIDEO_GAME
  0DIRECT_HIT 0SLOT_MACHINE 0BILLIARDS 0GAME_DIE 0BOWLING 0FLOWER_PLAYING_CARDS 0MUSICAL_NOTE
  0MULTIPLE_MUSICAL_NOTES 0SAXOPHONE 0GUITAR 0MUSICAL_KEYBOARD 0TRUMPET 0VIOLIN 0MUSICAL_SCORE
  0RUNNING_SHIRT_WITH_SASH 0TENNIS_RACQUET_AND_BALL 0SKI_AND_SKI_BOOT 0BASKETBALL_AND_HOOP
  0CHEQUERED_FLAG 0SNOWBOARDER 0RUNNER 0SURFER 0SPORTS_MEDAL 0TROPHY 0HORSE_RACING
  0AMERICAN_FOOTBALL 0RUGBY_FOOTBALL 0SWIMMER 0WEIGHT_LIFTER 0GOLFER 0RACING_MOTORCYCLE 1CAR
  0CRICKET_BAT_AND_BALL 0VOLLEYBALL 0FIELD_HOCKEY_STICK_AND_BALL 0ICE_HOCKEY_STICK_AND_PUCK
  0TABLE_TENNIS_PADDLE_AND_BALL 0SNOW_CAPPED_MOUNTAIN 0CAMPING 0BEACH_WITH_UMBRELLA
  0BUILDING_CONSTRUCTION 0HOUSE_BUILDINGS 0CITYSCAPE 0DERELICT_HOUSE_BUILDING 0CLASSICAL_BUILDING
  0DESERT 1ISLAND 0NATIONAL_PARK 0STADIUM 0HOUSE_BUILDING 1WITH_GARDEN 0OFFICE_BUILDING
  0JAPANESE_POST_OFFICE 0EUROPEAN_POST_OFFICE 0HOSPITAL 0BANK 0AUTOMATED_TELLER_MACHINE 0HOTEL
  0LOVE_HOTEL 0CONVENIENCE_STORE 0SCHOOL 0DEPARTMENT_STORE 0FACTORY 0IZAKAYA_LANTERN
  0JAPANESE_CASTLE 0EUROPEAN_CASTLE 0WHITE_PENNANT 0BLACK_PENNANT 0WAVING_WHITE_FLAG 1BLACK_FLAG
  0ROSETTE 0BLACK_ROSETTE 0LABEL 0BADMINTON_RACQUET_AND_SHUTTLECOCK 0BOW_AND_ARROW 0AMPHORA
  0EMOJI_MODIFIER_FITZPATRICK_TYPE-1-2 3TYPE-3 3TYPE-4 3TYPE-5 3TYPE-6 0RAT 0MOUSE 0OX
  0WATER_BUFFALO 0COW 0TIGER 0LEOPARD 0RABBIT 0CAT 0DRAGON 0CROCODILE 0WHALE 0SNAIL 0SNAKE 0HORSE
  0RAM 0GOAT 0SHEEP 0MONKEY 0ROOSTER 0CHICKEN 0DOG 0PIG 0BOAR 0ELEPHANT 0OCTOPUS 0SPIRAL_SHELL
  0BUG 0ANT 0HONEYBEE 0LADY_BEETLE 0FISH 0TROPICAL_FISH 0BLOWFISH 0TURTLE 0HATCHING_CHICK
  0BABY_CHICK 0FRONT-FACING_BABY_CHICK 0BIRD 0PENGUIN 0KOALA 0POODLE 0DROMEDARY_CAMEL
  0BACTRIAN_CAMEL 0DOLPHIN 0MOUSE_FACE 0COW_FACE 0TIGER_FACE 0RABBIT_FACE 0CAT_FACE 0DRAGON_FACE
  0SPOUTING_WHALE 0HORSE_FACE 0MONKEY_FACE 0DOG_FACE 0PIG_FACE 0FROG_FACE 0HAMSTER_FACE 0WOLF_FACE
  0BEAR_FACE 0PANDA_FACE 0PIG_NOSE 0PAW_PRINTS 0CHIPMUNK 0EYES 0EYE 0EAR 0NOSE 0MOUTH 0TONGUE
  0WHITE_UP_POINTING_BACKHAND_INDEX 1DOWN_POINTING_BACKHAND_INDEX 1LEFT_POINTING_BACKHAND_INDEX
  1RIGHT_POINTING_BACKHAND_INDEX 0FISTED_HAND_SIGN 0WAVING_HAND_SIGN 0OK_HAND_SIGN 0THUMBS_UP_SIGN
  1DOWN_SIGN 0CLAPPING_HANDS_SIGN 0OPEN_HANDS_SIGN 0CROWN 0WOMANS_HAT 0EYEGLASSES 0NECKTIE
  0T-SHIRT 0JEANS 0DRESS 0KIMONO 0BIKINI 0WOMANS_CLOTHES 0PURSE 0HANDBAG 0POUCH 0MANS_SHOE
  0ATHLETIC_SHOE 0HIGH-HEELED_SHOE 0WOMANS_SANDAL 1BOOTS 0FOOTPRINTS 0BUST_IN_SILHOUETTE
  0BUSTS_IN_SILHOUETTE 0BOY 0GIRL 0MAN 0WOMAN 0FAMILY 0MAN_AND_WOMAN_HOLDING_HANDS
  0TWO_MEN_HOLDING_HANDS 1WOMEN_HOLDING_HANDS 0POLICE_OFFICER 0WOMAN_WITH_BUNNY_EARS
  0BRIDE_WITH_VEIL 0PERSON_WITH_BLOND_HAIR 0MAN_WITH_GUA_PI_MAO 2TURBAN 0OLDER_MAN 1WOMAN 0BABY
  0CONSTRUCTION_WORKER 0PRINCESS 0JAPANESE_OGRE 1GOBLIN 0GHOST 0BABY_ANGEL 0EXTRATERRESTRIAL_ALIEN
  0ALIEN_MONSTER 0IMP 0SKULL 0INFORMATION_DESK_PERSON 0GUARDSMAN 0DANCER 0LIPSTICK 0NAIL_POLISH
  0FACE_MASSAGE 0HAIRCUT 0BARBER_POLE 0SYRINGE 0PILL 0KISS_MARK 0LOVE_LETTER 0RING 0GEM_STONE
  0KISS 0BOUQUET 0COUPLE_WITH_HEART 0WEDDING 0BEATING_HEART 0BROKEN_HEART 0TWO_HEARTS
  0SPARKLING_HEART 0GROWING_HEART 0HEART_WITH_ARROW 0BLUE_HEART 0GREEN_HEART 0YELLOW_HEART
  0PURPLE_HEART 0HEART_WITH_RIBBON 0REVOLVING_HEARTS 0HEART_DECORATION
  0DIAMOND_SHAPE_WITH_A_DOT_INSIDE 0ELECTRIC_LIGHT_BULB 0ANGER_SYMBOL 0BOMB 0SLEEPING_SYMBOL
  0COLLISION_SYMBOL 0SPLASHING_SWEAT_SYMBOL 0DROPLET 0DASH_SYMBOL 0PILE_OF_POO 0FLEXED_BICEPS
  0DIZZY_SYMBOL 0SPEECH_BALLOON 0THOUGHT_BALLOON 0WHITE_FLOWER 0HUNDRED_POINTS_SYMBOL 0MONEY_BAG
  0CURRENCY_EXCHANGE 0HEAVY_DOLLAR_SIGN 0CREDIT_CARD 0BANKNOTE_WITH_YEN_SIGN 2DOLLAR_SIGN
  2EURO_SIGN 2POUND_SIGN 0MONEY_WITH_WINGS 0CHART_WITH_UPWARDS_TREND_AND_YEN_SIGN 0SEAT
  0PERSONAL_COMPUTER 0BRIEFCASE 0MINIDISC 0FLOPPY_DISK 0OPTICAL_DISC 0DVD 0FILE_FOLDER
  0OPEN_FILE_FOLDER 0PAGE_WITH_CURL 1FACING_UP 0CALENDAR 0TEAR-OFF_CALENDAR 0CARD_INDEX
  0CHART_WITH_UPWARDS_TREND 2DOWNWARDS_TREND 0BAR_CHART 0CLIPBOARD 0PUSHPIN 0ROUND_PUSHPIN
  0PAPERCLIP 0STRAIGHT_RULER 0TRIANGULAR_RULER 0BOOKMARK_TABS 0LEDGER 0NOTEBOOK
  1WITH_DECORATIVE_COVER 0CLOSED_BOOK 0OPEN_BOOK 0GREEN_BOOK 0BLUE_BOOK 0ORANGE_BOOK 0BOOKS
  0NAME_BADGE 0SCROLL 0MEMO 0TELEPHONE_RECEIVER 0PAGER 0FAX_MACHINE 0SATELLITE_ANTENNA
  0PUBLIC_ADDRESS_LOUDSPEAKER 0CHEERING_MEGAPHONE 0OUTBOX_TRAY 0INBOX_TRAY 0PACKAGE 0E-MAIL_SYMBOL
  0INCOMING_ENVELOPE 0ENVELOPE_WITH_DOWNWARDS_ARROW_ABOVE 0CLOSED_MAILBOX_WITH_LOWERED_FLAG
  3RAISED_FLAG 0OPEN_MAILBOX_WITH_RAISED_FLAG 3LOWERED_FLAG 0POSTBOX 0POSTAL_HORN 0NEWSPAPER
  0MOBILE_PHONE 2WITH_RIGHTWARDS_ARROW_AT_LEFT 0VIBRATION_MODE 0MOBILE_PHONE_OFF 0NO_MOBILE_PHONES
  0ANTENNA_WITH_BARS 0CAMERA 1WITH_FLASH 0VIDEO_CAMERA 0TELEVISION 0RADIO 0VIDEOCASSETTE
  0FILM_PROJECTOR 0PORTABLE_STEREO 0PRAYER_BEADS 0TWISTED_RIGHTWARDS_ARROWS
  0CLOCKWISE_RIGHTWARDS_AND_LEFTWARDS_OPEN_CIRCLE_ARROWS 7WITH_CIRCLED_ONE_OVERLAY
  1DOWNWARDS_AND_UPWARDS_OPEN_CIRCLE_ARROWS
  0ANTICLOCKWISE_DOWNWARDS_AND_UPWARDS_OPEN_CIRCLE_ARROWS 0LOW_BRIGHTNESS_SYMBOL
  0HIGH_BRIGHTNESS_SYMBOL 0SPEAKER_WITH_CANCELLATION_STROKE 1 1WITH_ONE_SOUND_WAVE
  2THREE_SOUND_WAVES 0BATTERY 0ELECTRIC_PLUG 0LEFT-POINTING_MAGNIFYING_GLASS
  0RIGHT-POINTING_MAGNIFYING_GLASS 0LOCK_WITH_INK_PEN 0CLOSED_LOCK_WITH_KEY 0KEY 0LOCK 0OPEN_LOCK
  0BELL 1WITH_CANCELLATION_STROKE 0BOOKMARK 0LINK_SYMBOL 0RADIO_BUTTON
  0BACK_WITH_LEFTWARDS_ARROW_ABOVE 0END_WITH_LEFTWARDS_ARROW_ABOVE
  0ON_WITH_EXCLAMATION_MARK_WITH_LEFT_RIGHT_ARROW_ABOVE 0SOON_WITH_RIGHTWARDS_ARROW_ABOVE
  0TOP_WITH_UPWARDS_ARROW_ABOVE 0NO_ONE_UNDER_EIGHTEEN_SYMBOL 0KEYCAP_TEN
  0INPUT_SYMBOL_FOR_LATIN_CAPITAL_LETTERS 4SMALL_LETTERS 3NUMBERS 3SYMBOLS 3LATIN_LETTERS 0FIRE
  0ELECTRIC_TORCH 0WRENCH 0HAMMER 0NUT_AND_BOLT 0HOCHO 0PISTOL 0MICROSCOPE 0TELESCOPE
  0CRYSTAL_BALL 0SIX_POINTED_STAR_WITH_MIDDLE_DOT 0JAPANESE_SYMBOL_FOR_BEGINNER 0TRIDENT_EMBLEM
  0BLACK_SQUARE_BUTTON 0WHITE_SQUARE_BUTTON 0LARGE_RED_CIRCLE 1BLUE_CIRCLE 1ORANGE_DIAMOND
  1BLUE_DIAMOND 0SMALL_ORANGE_DIAMOND 1BLUE_DIAMOND 0UP-POINTING_RED_TRIANGLE
  0DOWN-POINTING_RED_TRIANGLE 0UP-POINTING_SMALL_RED_TRIANGLE 0DOWN-POINTING_SMALL_RED_TRIANGLE
  0LOWER_RIGHT_SHADOWED_WHITE_CIRCLE 0UPPER_RIGHT_SHADOWED_WHITE_CIRCLE 0CIRCLED_CROSS_POMMEE
  0CROSS_POMMEE_WITH_HALF-CIRCLE_BELOW 2 0NOTCHED_LEFT_SEMICIRCLE_WITH_THREE_DOTS
  1RIGHT_SEMICIRCLE_WITH_THREE_DOTS 0SYMBOL_FOR_MARKS_CHAPTER 0WHITE_LATIN_CROSS
  0HEAVY_LATIN_CROSS 0CELTIC_CROSS 0OM_SYMBOL 0DOVE_OF_PEACE 0KAABA 0MOSQUE 0SYNAGOGUE
  0MENORAH_WITH_NINE_BRANCHES 0BOWL_OF_HYGIEIA 0CLOCK_FACE_ONE_OCLOCK 2TWO_OCLOCK 2THREE_OCLOCK
  2FOUR_OCLOCK 2FIVE_OCLOCK 2SIX_OCLOCK 2SEVEN_OCLOCK 2EIGHT_OCLOCK 2NINE_OCLOCK 2TEN_OCLOCK
  2ELEVEN_OCLOCK 2TWELVE_OCLOCK 2ONE-THIRTY 2TWO-THIRTY 2THREE-THIRTY 2FOUR-THIRTY 2FIVE-THIRTY
  2SIX-THIRTY 2SEVEN-THIRTY 2EIGHT-THIRTY 2NINE-THIRTY 2TEN-THIRTY 2ELEVEN-THIRTY 2TWELVE-THIRTY
  0RIGHT_SPEAKER 2WITH_ONE_SOUND_WAVE 3THREE_SOUND_WAVES 0BULLHORN 1WITH_SOUND_WAVES 0RINGING_BELL
  0BOOK 0CANDLE 0MANTELPIECE_CLOCK 0BLACK_SKULL_AND_CROSSBONES 0NO_PIRACY 0HOLE
  0MAN_IN_BUSINESS_SUIT_LEVITATING 0SLEUTH_OR_SPY 0DARK_SUNGLASSES 0SPIDER 1WEB 0JOYSTICK
  0MAN_DANCING 0LEFT_HAND_TELEPHONE_RECEIVER 0TELEPHONE_RECEIVER_WITH_PAGE
  0RIGHT_HAND_TELEPHONE_RECEIVER 0WHITE_TOUCHTONE_TELEPHONE 0BLACK_TOUCHTONE_TELEPHONE
  0TELEPHONE_ON_TOP_OF_MODEM 0CLAMSHELL_MOBILE_PHONE 0BACK_OF_ENVELOPE 0STAMPED_ENVELOPE
  0ENVELOPE_WITH_LIGHTNING 0FLYING_ENVELOPE 0PEN_OVER_STAMPED_ENVELOPE 0LINKED_PAPERCLIPS
  0BLACK_PUSHPIN 0LOWER_LEFT_PENCIL 2BALLPOINT_PEN 2FOUNTAIN_PEN 2PAINTBRUSH 2CRAYON
  0LEFT_WRITING_HAND 0TURNED_OK_HAND_SIGN 0RAISED_HAND_WITH_FINGERS_SPLAYED
  0REVERSED_RAISED_HAND_WITH_FINGERS_SPLAYED 1THUMBS_UP_SIGN 2DOWN_SIGN 1VICTORY_HAND
  1HAND_WITH_MIDDLE_FINGER_EXTENDED 0RAISED_HAND_WITH_PART_BETWEEN_MIDDLE_AND_RING_FINGERS
  0WHITE_DOWN_POINTING_LEFT_HAND_INDEX 0SIDEWAYS_WHITE_LEFT_POINTING_INDEX 2RIGHT_POINTING_INDEX
  1BLACK_LEFT_POINTING_INDEX 2RIGHT_POINTING_INDEX 0BLACK_LEFT_POINTING_BACKHAND_INDEX
  1RIGHT_POINTING_BACKHAND_INDEX 0SIDEWAYS_WHITE_UP_POINTING_INDEX 2DOWN_POINTING_INDEX
  1BLACK_UP_POINTING_INDEX 2DOWN_POINTING_INDEX 0BLACK_UP_POINTING_BACKHAND_INDEX
  1DOWN_POINTING_BACKHAND_INDEX 1HEART 0DESKTOP_COMPUTER 0KEYBOARD_AND_MOUSE
  0THREE_NETWORKED_COMPUTERS 0PRINTER 0POCKET_CALCULATOR 0BLACK_HARD_SHELL_FLOPPY_DISK
  0WHITE_HARD_SHELL_FLOPPY_DISK 0SOFT_SHELL_FLOPPY_DISK 0TAPE_CARTRIDGE 0WIRED_KEYBOARD
  0ONE_BUTTON_MOUSE 0TWO_BUTTON_MOUSE 0THREE_BUTTON_MOUSE 0TRACKBALL 0OLD_PERSONAL_COMPUTER
  0HARD_DISK 0SCREEN 0PRINTER_ICON 0FAX_ICON 0OPTICAL_DISC_ICON 0DOCUMENT_WITH_TEXT 3AND_PICTURE
  2PICTURE 0FRAME_WITH_PICTURE 2TILES 2AN_X 0BLACK_FOLDER 0FOLDER 0OPEN_FOLDER
  0CARD_INDEX_DIVIDERS 1FILE_BOX 0FILE_CABINET 0EMPTY_NOTE 2PAGE 2PAD 0NOTE 1PAGE 1PAD
  0EMPTY_DOCUMENT 1PAGE 1PAGES 0DOCUMENT 0PAGE 0PAGES 0WASTEBASKET 0SPIRAL_NOTE_PAD 1CALENDAR_PAD
  0DESKTOP_WINDOW 0MINIMIZE 0MAXIMIZE 0OVERLAP 0CLOCKWISE_RIGHT_AND_LEFT_SEMICIRCLE_ARROWS
  0CANCELLATION_X 0INCREASE_FONT_SIZE_SYMBOL 0DECREASE_FONT_SIZE_SYMBOL 0COMPRESSION 0OLD_KEY
  0ROLLED-UP_NEWSPAPER 0PAGE_WITH_CIRCLED_TEXT 0STOCK_CHART 0DAGGER_KNIFE 0LIPS
  0SPEAKING_HEAD_IN_SILHOUETTE 0THREE_RAYS_ABOVE 2BELOW 2LEFT 2RIGHT 0LEFT_SPEECH_BUBBLE
  0RIGHT_SPEECH_BUBBLE 0TWO_SPEECH_BUBBLES 0THREE_SPEECH_BUBBLES 0LEFT_THOUGHT_BUBBLE
  0RIGHT_THOUGHT_BUBBLE 0LEFT_ANGER_BUBBLE 0RIGHT_ANGER_BUBBLE 0MOOD_BUBBLE 0LIGHTNING_MOOD_BUBBLE
  2 0BALLOT_BOX_WITH_BALLOT 1SCRIPT_X 1BOX_WITH_SCRIPT_X 1BOLD_SCRIPT_X 1BOX_WITH_BOLD_SCRIPT_X
  0LIGHT_CHECK_MARK 0BALLOT_BOX_WITH_BOLD_CHECK 0WORLD_MAP 0MOUNT_FUJI 0TOKYO_TOWER
  0STATUE_OF_LIBERTY 0SILHOUETTE_OF_JAPAN 0MOYAI 0GRINNING_FACE 2WITH_SMILING_EYES
  0FACE_WITH_TEARS_OF_JOY 0SMILING_FACE_WITH_OPEN_MOUTH 5AND_SMILING_EYES 6COLD_SWEAT
  6TIGHTLY-CLOSED_EYES 3HALO 3HORNS 0WINKING_FACE 0SMILING_FACE_WITH_SMILING_EYES
  0FACE_SAVOURING_DELICIOUS_FOOD 0RELIEVED_FACE 0SMILING_FACE_WITH_HEART-SHAPED_EYES 3SUNGLASSES
  0SMIRKING_FACE 0NEUTRAL_FACE 0EXPRESSIONLESS_FACE 0UNAMUSED_FACE 0FACE_WITH_COLD_SWEAT
  0PENSIVE_FACE 0CONFUSED_FACE 0CONFOUNDED_FACE 0KISSING_FACE 0FACE_THROWING_A_KISS
  0KISSING_FACE_WITH_SMILING_EYES 3CLOSED_EYES 0FACE_WITH_STUCK-OUT_TONGUE 4AND_WINKING_EYE
  5TIGHTLY-CLOSED_EYES 0DISAPPOINTED_FACE 0WORRIED_FACE 0ANGRY_FACE 0POUTING_FACE 0CRYING_FACE
  0PERSEVERING_FACE 0FACE_WITH_LOOK_OF_TRIUMPH 0DISAPPOINTED_BUT_RELIEVED_FACE
  0FROWNING_FACE_WITH_OPEN_MOUTH 0ANGUISHED_FACE 0FEARFUL_FACE 0WEARY_FACE 0SLEEPY_FACE
  0TIRED_FACE 0GRIMACING_FACE 0LOUDLY_CRYING_FACE 0FACE_WITH_OPEN_MOUTH 0HUSHED_FACE
  0FACE_WITH_OPEN_MOUTH_AND_COLD_SWEAT 1SCREAMING_IN_FEAR 0ASTONISHED_FACE 0FLUSHED_FACE
  0SLEEPING_FACE 0DIZZY_FACE 0FACE_WITHOUT_MOUTH 1WITH_MEDICAL_MASK
  0GRINNING_CAT_FACE_WITH_SMILING_EYES 0CAT_FACE_WITH_TEARS_OF_JOY
  0SMILING_CAT_FACE_WITH_OPEN_MOUTH 4HEART-SHAPED_EYES 0CAT_FACE_WITH_WRY_SMILE
  0KISSING_CAT_FACE_WITH_CLOSED_EYES 0POUTING_CAT_FACE 0CRYING_CAT_FACE 0WEARY_CAT_FACE
  0SLIGHTLY_FROWNING_FACE 1SMILING_FACE 0UPSIDE-DOWN_FACE 0FACE_WITH_ROLLING_EYES 2NO_GOOD_GESTURE
  2OK_GESTURE 0PERSON_BOWING_DEEPLY 0SEE-NO-EVIL_MONKEY 0HEAR-NO-EVIL_MONKEY 0SPEAK-NO-EVIL_MONKEY
  0HAPPY_PERSON_RAISING_ONE_HAND 0PERSON_RAISING_BOTH_HANDS_IN_CELEBRATION 1FROWNING
  1WITH_POUTING_FACE 2FOLDED_HANDS 0NORTH_WEST_POINTING_LEAF 0SOUTH_WEST_POINTING_LEAF
  0NORTH_EAST_POINTING_LEAF 0SOUTH_EAST_POINTING_LEAF 0TURNED_NORTH_WEST_POINTING_LEAF
  1SOUTH_WEST_POINTING_LEAF 1NORTH_EAST_POINTING_LEAF 1SOUTH_EAST_POINTING_LEAF
  0NORTH_WEST_POINTING_VINE_LEAF 0SOUTH_WEST_POINTING_VINE_LEAF 0NORTH_EAST_POINTING_VINE_LEAF
  0SOUTH_EAST_POINTING_VINE_LEAF 0HEAVY_NORTH_WEST_POINTING_VINE_LEAF
  1SOUTH_WEST_POINTING_VINE_LEAF 1NORTH_EAST_POINTING_VINE_LEAF 1SOUTH_EAST_POINTING_VINE_LEAF
  0NORTH_WEST_POINTING_BUD 0SOUTH_WEST_POINTING_BUD 0NORTH_EAST_POINTING_BUD
  0SOUTH_EAST_POINTING_BUD 0HEAVY_NORTH_WEST_POINTING_BUD 1SOUTH_WEST_POINTING_BUD
  1NORTH_EAST_POINTING_BUD 1SOUTH_EAST_POINTING_BUD 0HOLLOW_QUILT_SQUARE_ORNAMENT 4IN_BLACK_SQUARE
  0SOLID_QUILT_SQUARE_ORNAMENT 4IN_BLACK_SQUARE 0LEFTWARDS_ROCKET 0UPWARDS_ROCKET
  0RIGHTWARDS_ROCKET 0DOWNWARDS_ROCKET 0SCRIPT_LIGATURE_ET_ORNAMENT
  0HEAVY_SCRIPT_LIGATURE_ET_ORNAMENT 0LIGATURE_OPEN_ET_ORNAMENT 0HEAVY_LIGATURE_OPEN_ET_ORNAMENT
  1AMPERSAND_ORNAMENT 0SWASH_AMPERSAND_ORNAMENT
  0SANS-SERIF_HEAVY_DOUBLE_TURNED_COMMA_QUOTATION_MARK_ORNAMENT 3COMMA_QUOTATION_MARK_ORNAMENT
  2LOW_DOUBLE_COMMA_QUOTATION_MARK_ORNAMENT 0HEAVY_INTERROBANG_ORNAMENT
  0SANS-SERIF_INTERROBANG_ORNAMENT 0HEAVY_SANS-SERIF_INTERROBANG_ORNAMENT 0VERY_HEAVY_SOLIDUS
  2REVERSE_SOLIDUS 0CHECKER_BOARD 0REVERSE_CHECKER_BOARD 0ROCKET 0HELICOPTER 0STEAM_LOCOMOTIVE
  0RAILWAY_CAR 0HIGH-SPEED_TRAIN 2WITH_BULLET_NOSE 0TRAIN 0METRO 0LIGHT_RAIL 0STATION 0TRAM 1CAR
  0BUS 0ONCOMING_BUS 0TROLLEYBUS 0BUS_STOP 0MINIBUS 0AMBULANCE 0FIRE_ENGINE 0POLICE_CAR
  0ONCOMING_POLICE_CAR 0TAXI 0ONCOMING_TAXI 0AUTOMOBILE 0ONCOMING_AUTOMOBILE 0RECREATIONAL_VEHICLE
  0DELIVERY_TRUCK 0ARTICULATED_LORRY 0TRACTOR 0MONORAIL 0MOUNTAIN_RAILWAY 0SUSPENSION_RAILWAY
  0MOUNTAIN_CABLEWAY 0AERIAL_TRAMWAY 0SHIP 0ROWBOAT 0SPEEDBOAT 0HORIZONTAL_TRAFFIC_LIGHT
  0VERTICAL_TRAFFIC_LIGHT 0CONSTRUCTION_SIGN 0POLICE_CARS_REVOLVING_LIGHT 0TRIANGULAR_FLAG_ON_POST
  0DOOR 0NO_ENTRY_SIGN 0SMOKING_SYMBOL 0NO_SMOKING_SYMBOL 0PUT_LITTER_IN_ITS_PLACE_SYMBOL
  0DO_NOT_LITTER_SYMBOL 0POTABLE_WATER_SYMBOL 0NON-POTABLE_WATER_SYMBOL 0BICYCLE 0NO_BICYCLES
  0BICYCLIST 0MOUNTAIN_BICYCLIST 0PEDESTRIAN 0NO_PEDESTRIANS 0CHILDREN_CROSSING 0MENS_SYMBOL
  0WOMENS_SYMBOL 0RESTROOM 0BABY_SYMBOL 0TOILET 0WATER_CLOSET 0SHOWER 0BATH 0BATHTUB
  0PASSPORT_CONTROL 0CUSTOMS 0BAGGAGE_CLAIM 0LEFT_LUGGAGE 0TRIANGLE_WITH_ROUNDED_CORNERS
  0PROHIBITED_SIGN 0CIRCLED_INFORMATION_SOURCE 0BOYS_SYMBOL 0GIRLS_SYMBOL 0COUCH_AND_LAMP
  0SLEEPING_ACCOMMODATION 0SHOPPING_BAGS 0BELLHOP_BELL 0BED 0PLACE_OF_WORSHIP 0OCTAGONAL_SIGN
  0SHOPPING_TROLLEY 0STUPA 0PAGODA 0HINDU_TEMPLE 0HUT 0ELEVATOR =1f6dd 0PLAYGROUND_SLIDE 0WHEEL
  0RING_BUOY 0HAMMER_AND_WRENCH 0SHIELD 0OIL_DRUM 0MOTORWAY 0RAILWAY_TRACK 0MOTOR_BOAT
  0UP-POINTING_MILITARY_AIRPLANE 1AIRPLANE 1SMALL_AIRPLANE 0SMALL_AIRPLANE
  0NORTHEAST-POINTING_AIRPLANE 0AIRPLANE_DEPARTURE 1ARRIVING =1f6f0 0SATELLITE
  0ONCOMING_FIRE_ENGINE 0DIESEL_LOCOMOTIVE 0PASSENGER_SHIP 0SCOOTER 0MOTOR_SCOOTER 0CANOE 0SLED
  0FLYING_SAUCER 0SKATEBOARD 0AUTO_RICKSHAW 0PICKUP_TRUCK 0ROLLER_SKATE =1f700
  0ALCHEMICAL_SYMBOL_FOR_QUINTESSENCE 3AIR 3FIRE 3EARTH 3WATER 3AQUAFORTIS 3AQUA_REGIA 4REGIA-2
  4VITAE 4VITAE-2 3VINEGAR 3VINEGAR-2 3VINEGAR-3 3SULFUR 3PHILOSOPHERS_SULFUR 3BLACK_SULFUR
  3MERCURY_SUBLIMATE 4SUBLIMATE-2 4SUBLIMATE-3 3CINNABAR 3SALT 3NITRE 3VITRIOL 3VITRIOL-2
  3ROCK_SALT 4SALT-2 3GOLD 3SILVER 3IRON_ORE 4ORE-2 3CROCUS_OF_IRON 3REGULUS_OF_IRON 3COPPER_ORE
  3IRON-COPPER_ORE 3SUBLIMATE_OF_COPPER 3CROCUS_OF_COPPER 5COPPER-2 3COPPER_ANTIMONIATE
  3SALT_OF_COPPER_ANTIMONIATE 3SUBLIMATE_OF_SALT_OF_COPPER 3VERDIGRIS 3TIN_ORE 3LEAD_ORE
  3ANTIMONY_ORE 3SUBLIMATE_OF_ANTIMONY 3SALT_OF_ANTIMONY 3SUBLIMATE_OF_SALT_OF_ANTIMONY
  3VINEGAR_OF_ANTIMONY 3REGULUS_OF_ANTIMONY 5ANTIMONY-2 4 3REGULUS-2 3REGULUS-3 3REGULUS-4 3ALKALI
  3ALKALI-2 3MARCASITE 3SAL-AMMONIAC 3ARSENIC 3REALGAR 3REALGAR-2 3AURIPIGMENT 3BISMUTH_ORE
  3TARTAR 3TARTAR-2 3QUICK_LIME 3BORAX 3BORAX-2 3BORAX-3 3ALUM 3OIL 3SPIRIT 3TINCTURE 3GUM 3WAX
  3POWDER 3CALX 3TUTTY 3CAPUT_MORTUUM 3SCEPTER_OF_JOVE 3CADUCEUS 3TRIDENT 3STARRED_TRIDENT
  3LODESTONE 3SOAP 3URINE 3HORSE_DUNG 3ASHES 3POT_ASHES 3BRICK 3POWDERED_BRICK 3AMALGAM
  3STRATUM_SUPER_STRATUM 5STRATUM-2 3SUBLIMATION 3PRECIPITATE 3DISTILL 3DISSOLVE 3DISSOLVE-2
  3PURIFY 3PUTREFACTION 3CRUCIBLE 3CRUCIBLE-2 3CRUCIBLE-3 3CRUCIBLE-4 3CRUCIBLE-5 3ALEMBIC
  3BATH_OF_MARY 5VAPOURS 3RETORT 3HOUR 3NIGHT 3DAY-NIGHT 3MONTH 3HALF_DRAM 4OUNCE =1f780
  0BLACK_LEFT-POINTING_ISOSCELES_RIGHT_TRIANGLE 1UP-POINTING_ISOSCELES_RIGHT_TRIANGLE
  1RIGHT-POINTING_ISOSCELES_RIGHT_TRIANGLE 1DOWN-POINTING_ISOSCELES_RIGHT_TRIANGLE
  1SLIGHTLY_SMALL_CIRCLE 0MEDIUM_BOLD_WHITE_CIRCLE 0BOLD_WHITE_CIRCLE 0HEAVY_WHITE_CIRCLE
  0VERY_HEAVY_WHITE_CIRCLE 0EXTREMELY_HEAVY_WHITE_CIRCLE
  0WHITE_CIRCLE_CONTAINING_BLACK_SMALL_CIRCLE 0ROUND_TARGET 0BLACK_TINY_SQUARE
  1SLIGHTLY_SMALL_SQUARE 0LIGHT_WHITE_SQUARE 0MEDIUM_WHITE_SQUARE 0BOLD_WHITE_SQUARE
  0HEAVY_WHITE_SQUARE 0VERY_HEAVY_WHITE_SQUARE 0EXTREMELY_HEAVY_WHITE_SQUARE
  0WHITE_SQUARE_CONTAINING_BLACK_VERY_SMALL_SQUARE 4MEDIUM_SQUARE 0SQUARE_TARGET
  0BLACK_TINY_DIAMOND 1VERY_SMALL_DIAMOND 1MEDIUM_SMALL_DIAMOND
  0WHITE_DIAMOND_CONTAINING_BLACK_VERY_SMALL_DIAMOND 4MEDIUM_DIAMOND 0DIAMOND_TARGET
  0BLACK_TINY_LOZENGE 1VERY_SMALL_LOZENGE 1MEDIUM_SMALL_LOZENGE
  0WHITE_LOZENGE_CONTAINING_BLACK_SMALL_LOZENGE 0THIN_GREEK_CROSS 0LIGHT_GREEK_CROSS
  0MEDIUM_GREEK_CROSS 0BOLD_GREEK_CROSS 0VERY_BOLD_GREEK_CROSS 1HEAVY_GREEK_CROSS
  0EXTREMELY_HEAVY_GREEK_CROSS 0THIN_SALTIRE 0LIGHT_SALTIRE 0MEDIUM_SALTIRE 0BOLD_SALTIRE
  0HEAVY_SALTIRE 0VERY_HEAVY_SALTIRE 0EXTREMELY_HEAVY_SALTIRE 0LIGHT_FIVE_SPOKED_ASTERISK
  0MEDIUM_FIVE_SPOKED_ASTERISK 0BOLD_FIVE_SPOKED_ASTERISK 0HEAVY_FIVE_SPOKED_ASTERISK
  0VERY_HEAVY_FIVE_SPOKED_ASTERISK 0EXTREMELY_HEAVY_FIVE_SPOKED_ASTERISK
  0LIGHT_SIX_SPOKED_ASTERISK 0MEDIUM_SIX_SPOKED_ASTERISK 0BOLD_SIX_SPOKED_ASTERISK
  0HEAVY_SIX_SPOKED_ASTERISK 0VERY_HEAVY_SIX_SPOKED_ASTERISK 0EXTREMELY_HEAVY_SIX_SPOKED_ASTERISK
  0LIGHT_EIGHT_SPOKED_ASTERISK 0MEDIUM_EIGHT_SPOKED_ASTERISK 0BOLD_EIGHT_SPOKED_ASTERISK
  0HEAVY_EIGHT_SPOKED_ASTERISK 0VERY_HEAVY_EIGHT_SPOKED_ASTERISK 0LIGHT_THREE_POINTED_BLACK_STAR
  0MEDIUM_THREE_POINTED_BLACK_STAR 0THREE_POINTED_BLACK_STAR 0MEDIUM_THREE_POINTED_PINWHEEL_STAR
  0LIGHT_FOUR_POINTED_BLACK_STAR 0MEDIUM_FOUR_POINTED_BLACK_STAR 0FOUR_POINTED_BLACK_STAR
  0MEDIUM_FOUR_POINTED_PINWHEEL_STAR 0REVERSE_LIGHT_FOUR_POINTED_PINWHEEL_STAR
  0LIGHT_FIVE_POINTED_BLACK_STAR 0HEAVY_FIVE_POINTED_BLACK_STAR 0MEDIUM_SIX_POINTED_BLACK_STAR
  0HEAVY_SIX_POINTED_BLACK_STAR 0SIX_POINTED_PINWHEEL_STAR 0MEDIUM_EIGHT_POINTED_BLACK_STAR
  0HEAVY_EIGHT_POINTED_BLACK_STAR 0VERY_HEAVY_EIGHT_POINTED_BLACK_STAR
  0HEAVY_EIGHT_POINTED_PINWHEEL_STAR 0LIGHT_TWELVE_POINTED_BLACK_STAR
  0HEAVY_TWELVE_POINTED_BLACK_STAR 3PINWHEEL_STAR 0CIRCLED_TRIANGLE 0NEGATIVE_CIRCLED_TRIANGLE
  0CIRCLED_SQUARE 0NEGATIVE_CIRCLED_SQUARE =1f7e0 0LARGE_ORANGE_CIRCLE 1YELLOW_CIRCLE
  1GREEN_CIRCLE 1PURPLE_CIRCLE 1BROWN_CIRCLE 1RED_SQUARE 1BLUE_SQUARE 1ORANGE_SQUARE
  1YELLOW_SQUARE 1GREEN_SQUARE 1PURPLE_SQUARE 1BROWN_SQUARE =1f7f0 0HEAVY_EQUALS_SIGN =1f800
  0LEFTWARDS_ARROW_WITH_SMALL_TRIANGLE_ARROWHEAD 0UPWARDS_ARROW_WITH_SMALL_TRIANGLE_ARROWHEAD
  0RIGHTWARDS_ARROW_WITH_SMALL_TRIANGLE_ARROWHEAD 0DOWNWARDS_ARROW_WITH_SMALL_TRIANGLE_ARROWHEAD
  0LEFTWARDS_ARROW_WITH_MEDIUM_TRIANGLE_ARROWHEAD 0UPWARDS_ARROW_WITH_MEDIUM_TRIANGLE_ARROWHEAD
  0RIGHTWARDS_ARROW_WITH_MEDIUM_TRIANGLE_ARROWHEAD 0DOWNWARDS_ARROW_WITH_MEDIUM_TRIANGLE_ARROWHEAD
  0LEFTWARDS_ARROW_WITH_LARGE_TRIANGLE_ARROWHEAD 0UPWARDS_ARROW_WITH_LARGE_TRIANGLE_ARROWHEAD
  0RIGHTWARDS_ARROW_WITH_LARGE_TRIANGLE_ARROWHEAD 0DOWNWARDS_ARROW_WITH_LARGE_TRIANGLE_ARROWHEAD
  =1f810 0LEFTWARDS_ARROW_WITH_SMALL_EQUILATERAL_ARROWHEAD
  0UPWARDS_ARROW_WITH_SMALL_EQUILATERAL_ARROWHEAD
  0RIGHTWARDS_ARROW_WITH_SMALL_EQUILATERAL_ARROWHEAD
  0DOWNWARDS_ARROW_WITH_SMALL_EQUILATERAL_ARROWHEAD 0LEFTWARDS_ARROW_WITH_EQUILATERAL_ARROWHEAD
  0UPWARDS_ARROW_WITH_EQUILATERAL_ARROWHEAD 0RIGHTWARDS_ARROW_WITH_EQUILATERAL_ARROWHEAD
  0DOWNWARDS_ARROW_WITH_EQUILATERAL_ARROWHEAD 0HEAVY_LEFTWARDS_ARROW_WITH_EQUILATERAL_ARROWHEAD
  1UPWARDS_ARROW_WITH_EQUILATERAL_ARROWHEAD 1RIGHTWARDS_ARROW_WITH_EQUILATERAL_ARROWHEAD
  1DOWNWARDS_ARROW_WITH_EQUILATERAL_ARROWHEAD 1LEFTWARDS_ARROW_WITH_LARGE_EQUILATERAL_ARROWHEAD
  1UPWARDS_ARROW_WITH_LARGE_EQUILATERAL_ARROWHEAD
  1RIGHTWARDS_ARROW_WITH_LARGE_EQUILATERAL_ARROWHEAD
  1DOWNWARDS_ARROW_WITH_LARGE_EQUILATERAL_ARROWHEAD
  0LEFTWARDS_TRIANGLE-HEADED_ARROW_WITH_NARROW_SHAFT
  0UPWARDS_TRIANGLE-HEADED_ARROW_WITH_NARROW_SHAFT
  0RIGHTWARDS_TRIANGLE-HEADED_ARROW_WITH_NARROW_SHAFT
  0DOWNWARDS_TRIANGLE-HEADED_ARROW_WITH_NARROW_SHAFT
  0LEFTWARDS_TRIANGLE-HEADED_ARROW_WITH_MEDIUM_SHAFT
  0UPWARDS_TRIANGLE-HEADED_ARROW_WITH_MEDIUM_SHAFT
  0RIGHTWARDS_TRIANGLE-HEADED_ARROW_WITH_MEDIUM_SHAFT
  0DOWNWARDS_TRIANGLE-HEADED_ARROW_WITH_MEDIUM_SHAFT
  0LEFTWARDS_TRIANGLE-HEADED_ARROW_WITH_BOLD_SHAFT 0UPWARDS_TRIANGLE-HEADED_ARROW_WITH_BOLD_SHAFT
  0RIGHTWARDS_TRIANGLE-HEADED_ARROW_WITH_BOLD_SHAFT
  0DOWNWARDS_TRIANGLE-HEADED_ARROW_WITH_BOLD_SHAFT
  0LEFTWARDS_TRIANGLE-HEADED_ARROW_WITH_HEAVY_SHAFT
  0UPWARDS_TRIANGLE-HEADED_ARROW_WITH_HEAVY_SHAFT
  0RIGHTWARDS_TRIANGLE-HEADED_ARROW_WITH_HEAVY_SHAFT
  0DOWNWARDS_TRIANGLE-HEADED_ARROW_WITH_HEAVY_SHAFT
  0LEFTWARDS_TRIANGLE-HEADED_ARROW_WITH_VERY_HEAVY_SHAFT
  0UPWARDS_TRIANGLE-HEADED_ARROW_WITH_VERY_HEAVY_SHAFT
  0RIGHTWARDS_TRIANGLE-HEADED_ARROW_WITH_VERY_HEAVY_SHAFT
  0DOWNWARDS_TRIANGLE-HEADED_ARROW_WITH_VERY_HEAVY_SHAFT 0LEFTWARDS_FINGER-POST_ARROW
  0UPWARDS_FINGER-POST_ARROW 0RIGHTWARDS_FINGER-POST_ARROW 0DOWNWARDS_FINGER-POST_ARROW
  0LEFTWARDS_SQUARED_ARROW 0UPWARDS_SQUARED_ARROW 0RIGHTWARDS_SQUARED_ARROW
  0DOWNWARDS_SQUARED_ARROW 0LEFTWARDS_COMPRESSED_ARROW 0UPWARDS_COMPRESSED_ARROW
  0RIGHTWARDS_COMPRESSED_ARROW 0DOWNWARDS_COMPRESSED_ARROW 0LEFTWARDS_HEAVY_COMPRESSED_ARROW
  0UPWARDS_HEAVY_COMPRESSED_ARROW 0RIGHTWARDS_HEAVY_COMPRESSED_ARROW
  0DOWNWARDS_HEAVY_COMPRESSED_ARROW 0LEFTWARDS_HEAVY_ARROW 0UPWARDS_HEAVY_ARROW
  0RIGHTWARDS_HEAVY_ARROW 0DOWNWARDS_HEAVY_ARROW =1f850 0LEFTWARDS_SANS-SERIF_ARROW
  0UPWARDS_SANS-SERIF_ARROW 0RIGHTWARDS_SANS-SERIF_ARROW 0DOWNWARDS_SANS-SERIF_ARROW
  0NORTH_WEST_SANS-SERIF_ARROW 1EAST_SANS-SERIF_ARROW 0SOUTH_EAST_SANS-SERIF_ARROW
  1WEST_SANS-SERIF_ARROW 0LEFT_RIGHT_SANS-SERIF_ARROW 0UP_DOWN_SANS-SERIF_ARROW =1f860
  0WIDE-HEADED_LEFTWARDS_LIGHT_BARB_ARROW 1UPWARDS_LIGHT_BARB_ARROW 1RIGHTWARDS_LIGHT_BARB_ARROW
  1DOWNWARDS_LIGHT_BARB_ARROW 1NORTH_WEST_LIGHT_BARB_ARROW 2EAST_LIGHT_BARB_ARROW
  1SOUTH_EAST_LIGHT_BARB_ARROW 2WEST_LIGHT_BARB_ARROW 1LEFTWARDS_BARB_ARROW 1UPWARDS_BARB_ARROW
  1RIGHTWARDS_BARB_ARROW 1DOWNWARDS_BARB_ARROW 1NORTH_WEST_BARB_ARROW 2EAST_BARB_ARROW
  1SOUTH_EAST_BARB_ARROW 2WEST_BARB_ARROW 1LEFTWARDS_MEDIUM_BARB_ARROW 1UPWARDS_MEDIUM_BARB_ARROW
  1RIGHTWARDS_MEDIUM_BARB_ARROW 1DOWNWARDS_MEDIUM_BARB_ARROW 1NORTH_WEST_MEDIUM_BARB_ARROW
  2EAST_MEDIUM_BARB_ARROW 1SOUTH_EAST_MEDIUM_BARB_ARROW 2WEST_MEDIUM_BARB_ARROW
  1LEFTWARDS_HEAVY_BARB_ARROW 1UPWARDS_HEAVY_BARB_ARROW 1RIGHTWARDS_HEAVY_BARB_ARROW
  1DOWNWARDS_HEAVY_BARB_ARROW 1NORTH_WEST_HEAVY_BARB_ARROW 2EAST_HEAVY_BARB_ARROW
  1SOUTH_EAST_HEAVY_BARB_ARROW 2WEST_HEAVY_BARB_ARROW 1LEFTWARDS_VERY_HEAVY_BARB_ARROW
  1UPWARDS_VERY_HEAVY_BARB_ARROW 1RIGHTWARDS_VERY_HEAVY_BARB_ARROW
  1DOWNWARDS_VERY_HEAVY_BARB_ARROW 1NORTH_WEST_VERY_HEAVY_BARB_ARROW 2EAST_VERY_HEAVY_BARB_ARROW
  1SOUTH_EAST_VERY_HEAVY_BARB_ARROW 2WEST_VERY_HEAVY_BARB_ARROW =1f890
  0LEFTWARDS_TRIANGLE_ARROWHEAD 0UPWARDS_TRIANGLE_ARROWHEAD 0RIGHTWARDS_TRIANGLE_ARROWHEAD
  0DOWNWARDS_TRIANGLE_ARROWHEAD 0LEFTWARDS_WHITE_ARROW_WITHIN_TRIANGLE_ARROWHEAD
  0UPWARDS_WHITE_ARROW_WITHIN_TRIANGLE_ARROWHEAD 0RIGHTWARDS_WHITE_ARROW_WITHIN_TRIANGLE_ARROWHEAD
  0DOWNWARDS_WHITE_ARROW_WITHIN_TRIANGLE_ARROWHEAD 0LEFTWARDS_ARROW_WITH_NOTCHED_TAIL
  0UPWARDS_ARROW_WITH_NOTCHED_TAIL 0RIGHTWARDS_ARROW_WITH_NOTCHED_TAIL
  0DOWNWARDS_ARROW_WITH_NOTCHED_TAIL 0HEAVY_ARROW_SHAFT_WIDTH_ONE 4TWO_THIRDS 4ONE_HALF 5THIRD
  0LEFTWARDS_BOTTOM-SHADED_WHITE_ARROW 0RIGHTWARDS_BOTTOM_SHADED_WHITE_ARROW
  0LEFTWARDS_TOP_SHADED_WHITE_ARROW 0RIGHTWARDS_TOP_SHADED_WHITE_ARROW
  0LEFTWARDS_LEFT-SHADED_WHITE_ARROW 0RIGHTWARDS_RIGHT-SHADED_WHITE_ARROW
  0LEFTWARDS_RIGHT-SHADED_WHITE_ARROW 0RIGHTWARDS_LEFT-SHADED_WHITE_ARROW
  0LEFTWARDS_BACK-TILTED_SHADOWED_WHITE_ARROW 0RIGHTWARDS_BACK-TILTED_SHADOWED_WHITE_ARROW
  0LEFTWARDS_FRONT-TILTED_SHADOWED_WHITE_ARROW 0RIGHTWARDS_FRONT-TILTED_SHADOWED_WHITE_ARROW
  0WHITE_ARROW_SHAFT_WIDTH_ONE 4TWO_THIRDS =1f8b0 0ARROW_POINTING_UPWARDS_THEN_NORTH_WEST
  2RIGHTWARDS_THEN_CURVING_SOUTH_WEST =1f900 0CIRCLED_CROSS_FORMEE_WITH_FOUR_DOTS 4TWO_DOTS 3
  0LEFT_HALF_CIRCLE_WITH_FOUR_DOTS 4THREE_DOTS 4TWO_DOTS 4DOT 3 0DOWNWARD_FACING_HOOK
  2NOTCHED_HOOK 2HOOK_WITH_DOT 2NOTCHED_HOOK_WITH_DOT 0PINCHED_FINGERS 0WHITE_HEART 0BROWN_HEART
  0PINCHING_HAND 0ZIPPER-MOUTH_FACE 0MONEY-MOUTH_FACE 0FACE_WITH_THERMOMETER 0NERD_FACE
  0THINKING_FACE 0FACE_WITH_HEAD-BANDAGE 0ROBOT_FACE 0HUGGING_FACE 0SIGN_OF_THE_HORNS
  0CALL_ME_HAND 0RAISED_BACK_OF_HAND 0LEFT-FACING_FIST 0RIGHT-FACING_FIST 0HANDSHAKE
  0HAND_WITH_INDEX_AND_MIDDLE_FINGERS_CROSSED 0I_LOVE_YOU_HAND_SIGN 0FACE_WITH_COWBOY_HAT
  0CLOWN_FACE 0NAUSEATED_FACE 0ROLLING_ON_THE_FLOOR_LAUGHING 0DROOLING_FACE 0LYING_FACE 0FACE_PALM
  0SNEEZING_FACE 0FACE_WITH_ONE_EYEBROW_RAISED 0GRINNING_FACE_WITH_STAR_EYES
  3ONE_LARGE_AND_ONE_SMALL_EYE 0FACE_WITH_FINGER_COVERING_CLOSED_LIPS
  0SERIOUS_FACE_WITH_SYMBOLS_COVERING_MOUTH
  0SMILING_FACE_WITH_SMILING_EYES_AND_HAND_COVERING_MOUTH 0FACE_WITH_OPEN_MOUTH_VOMITING
  0SHOCKED_FACE_WITH_EXPLODING_HEAD 0PREGNANT_WOMAN 0BREAST-FEEDING 0PALMS_UP_TOGETHER 0SELFIE
  0PRINCE 0MAN_IN_TUXEDO 0MOTHER_CHRISTMAS 0SHRUG 0PERSON_DOING_CARTWHEEL 0JUGGLING 0FENCER
  0MODERN_PENTATHLON 0WRESTLERS 0WATER_POLO 0HANDBALL 0DIVING_MASK 0WILTED_FLOWER
  0DRUM_WITH_DRUMSTICKS 0CLINKING_GLASSES 0TUMBLER_GLASS 0SPOON 0GOAL_NET 0RIFLE
  0FIRST_PLACE_MEDAL 0SECOND_PLACE_MEDAL 0THIRD_PLACE_MEDAL 0BOXING_GLOVE 0MARTIAL_ARTS_UNIFORM
  0CURLING_STONE 0LACROSSE_STICK_AND_BALL 0SOFTBALL 0FLYING_DISC 0CROISSANT 0AVOCADO 0CUCUMBER
  0BACON 0POTATO 0CARROT 0BAGUETTE_BREAD 0GREEN_SALAD 0SHALLOW_PAN_OF_FOOD 0STUFFED_FLATBREAD 0EGG
  0GLASS_OF_MILK 0PEANUTS 0KIWIFRUIT 0PANCAKES 0DUMPLING 0FORTUNE_COOKIE 0TAKEOUT_BOX 0CHOPSTICKS
  0BOWL_WITH_SPOON 0CUP_WITH_STRAW 0COCONUT 0BROCCOLI 0PIE 0PRETZEL 0CUT_OF_MEAT 0SANDWICH
  0CANNED_FOOD 0LEAFY_GREEN 0MANGO 0MOON_CAKE 0BAGEL
  0SMILING_FACE_WITH_SMILING_EYES_AND_THREE_HEARTS 0YAWNING_FACE 0SMILING_FACE_WITH_TEAR
  0FACE_WITH_PARTY_HORN_AND_PARTY_HAT 2UNEVEN_EYES_AND_WAVY_MOUTH 0OVERHEATED_FACE 0FREEZING_FACE
  0NINJA 0DISGUISED_FACE 0FACE_HOLDING_BACK_TEARS 1WITH_PLEADING_EYES 0SARI 0LAB_COAT 0GOGGLES
  0HIKING_BOOT 0FLAT_SHOE 0CRAB 0LION_FACE 0SCORPION 0TURKEY 0UNICORN_FACE 0EAGLE 0DUCK 0BAT
  0SHARK 0OWL 0FOX_FACE 0BUTTERFLY 0DEER 0GORILLA 0LIZARD 0RHINOCEROS 0SHRIMP 0SQUID 0GIRAFFE_FACE
  0ZEBRA_FACE 0HEDGEHOG 0SAUROPOD 0T-REX 0CRICKET 0KANGAROO 0LLAMA 0PEACOCK 0HIPPOPOTAMUS 0PARROT
  0RACCOON 0LOBSTER 0MOSQUITO 0MICROBE 0BADGER 0SWAN 0MAMMOTH 0DODO 0SLOTH 0OTTER 0ORANGUTAN
  0SKUNK 0FLAMINGO 0OYSTER 0BEAVER 0BISON 0SEAL 0GUIDE_DOG 0PROBING_CANE 0EMOJI_COMPONENT_RED_HAIR
  2CURLY_HAIR 2BALD 2WHITE_HAIR 0BONE 0LEG 0FOOT 0TOOTH 0SUPERHERO 0SUPERVILLAIN 0SAFETY_VEST
  0EAR_WITH_HEARING_AID 0MOTORIZED_WHEELCHAIR 0MANUAL_WHEELCHAIR 0MECHANICAL_ARM 1LEG
  0CHEESE_WEDGE 0CUPCAKE 0SALT_SHAKER 0BEVERAGE_BOX 0GARLIC 0ONION 0FALAFEL 0WAFFLE 0BUTTER
  0MATE_DRINK 0ICE_CUBE 0BUBBLE_TEA 0TROLL 0STANDING_PERSON 0KNEELING_PERSON 0DEAF_PERSON
  0FACE_WITH_MONOCLE 0ADULT 0CHILD 0OLDER_ADULT 0BEARDED_PERSON 0PERSON_WITH_HEADSCARF
  1IN_STEAMY_ROOM 1CLIMBING 1IN_LOTUS_POSITION 0MAGE 0FAIRY 0VAMPIRE 0MERPERSON 0ELF 0GENIE
  0ZOMBIE 0BRAIN 0ORANGE_HEART 0BILLED_CAP 0SCARF 0GLOVES 0COAT 0SOCKS 0RED_GIFT_ENVELOPE
  0FIRECRACKER 0JIGSAW_PUZZLE_PIECE 0TEST_TUBE 0PETRI_DISH 0DNA_DOUBLE_HELIX 0COMPASS 0ABACUS
  0FIRE_EXTINGUISHER 0TOOLBOX 0BRICK 0MAGNET 0LUGGAGE 0LOTION_BOTTLE 0SPOOL_OF_THREAD
  0BALL_OF_YARN 0SAFETY_PIN 0TEDDY_BEAR 0BROOM 0BASKET 0ROLL_OF_PAPER 0BAR_OF_SOAP 0SPONGE
  0RECEIPT 0NAZAR_AMULET 0NEUTRAL_CHESS_KING 2QUEEN 2ROOK 2BISHOP 2KNIGHT 2PAWN
  0WHITE_CHESS_KNIGHT_ROTATED_FORTY-FIVE_DEGREES 0BLACK_CHESS_KNIGHT_ROTATED_FORTY-FIVE_DEGREES
  0NEUTRAL_CHESS_KNIGHT_ROTATED_FORTY-FIVE_DEGREES 0WHITE_CHESS_KING_ROTATED_NINETY_DEGREES
  2QUEEN_ROTATED_NINETY_DEGREES 2ROOK_ROTATED_NINETY_DEGREES 2BISHOP_ROTATED_NINETY_DEGREES
  2KNIGHT_ROTATED_NINETY_DEGREES 2PAWN_ROTATED_NINETY_DEGREES
  0BLACK_CHESS_KING_ROTATED_NINETY_DEGREES 2QUEEN_ROTATED_NINETY_DEGREES
  2ROOK_ROTATED_NINETY_DEGREES 2BISHOP_ROTATED_NINETY_DEGREES 2KNIGHT_ROTATED_NINETY_DEGREES
  2PAWN_ROTATED_NINETY_DEGREES 0NEUTRAL_CHESS_KING_ROTATED_NINETY_DEGREES
  2QUEEN_ROTATED_NINETY_DEGREES 2ROOK_ROTATED_NINETY_DEGREES 2BISHOP_ROTATED_NINETY_DEGREES
  2KNIGHT_ROTATED_NINETY_DEGREES 2PAWN_ROTATED_NINETY_DEGREES
  0WHITE_CHESS_KNIGHT_ROTATED_ONE_HUNDRED_THIRTY-FIVE_DEGREES
  0BLACK_CHESS_KNIGHT_ROTATED_ONE_HUNDRED_THIRTY-FIVE_DEGREES
  0NEUTRAL_CHESS_KNIGHT_ROTATED_ONE_HUNDRED_THIRTY-FIVE_DEGREES 0WHITE_CHESS_TURNED_KING 3QUEEN
  3ROOK 3BISHOP 3KNIGHT 3PAWN 0BLACK_CHESS_TURNED_KING 3QUEEN 3ROOK 3BISHOP 3KNIGHT 3PAWN
  0NEUTRAL_CHESS_TURNED_KING 3QUEEN 3ROOK 3BISHOP 3KNIGHT 3PAWN
  0WHITE_CHESS_KNIGHT_ROTATED_TWO_HUNDRED_TWENTY-FIVE_DEGREES
  0BLACK_CHESS_KNIGHT_ROTATED_TWO_HUNDRED_TWENTY-FIVE_DEGREES
  0NEUTRAL_CHESS_KNIGHT_ROTATED_TWO_HUNDRED_TWENTY-FIVE_DEGREES
  0WHITE_CHESS_KING_ROTATED_TWO_HUNDRED_SEVENTY_DEGREES 2QUEEN_ROTATED_TWO_HUNDRED_SEVENTY_DEGREES
  2ROOK_ROTATED_TWO_HUNDRED_SEVENTY_DEGREES 2BISHOP_ROTATED_TWO_HUNDRED_SEVENTY_DEGREES
  2KNIGHT_ROTATED_TWO_HUNDRED_SEVENTY_DEGREES 2PAWN_ROTATED_TWO_HUNDRED_SEVENTY_DEGREES
  0BLACK_CHESS_KING_ROTATED_TWO_HUNDRED_SEVENTY_DEGREES 2QUEEN_ROTATED_TWO_HUNDRED_SEVENTY_DEGREES
  2ROOK_ROTATED_TWO_HUNDRED_SEVENTY_DEGREES 2BISHOP_ROTATED_TWO_HUNDRED_SEVENTY_DEGREES
  2KNIGHT_ROTATED_TWO_HUNDRED_SEVENTY_DEGREES 2PAWN_ROTATED_TWO_HUNDRED_SEVENTY_DEGREES
  0NEUTRAL_CHESS_KING_ROTATED_TWO_HUNDRED_SEVENTY_DEGREES
  2QUEEN_ROTATED_TWO_HUNDRED_SEVENTY_DEGREES 2ROOK_ROTATED_TWO_HUNDRED_SEVENTY_DEGREES
  2BISHOP_ROTATED_TWO_HUNDRED_SEVENTY_DEGREES 2KNIGHT_ROTATED_TWO_HUNDRED_SEVENTY_DEGREES
  2PAWN_ROTATED_TWO_HUNDRED_SEVENTY_DEGREES
  0WHITE_CHESS_KNIGHT_ROTATED_THREE_HUNDRED_FIFTEEN_DEGREES
  0BLACK_CHESS_KNIGHT_ROTATED_THREE_HUNDRED_FIFTEEN_DEGREES
  0NEUTRAL_CHESS_KNIGHT_ROTATED_THREE_HUNDRED_FIFTEEN_DEGREES 0WHITE_CHESS_EQUIHOPPER
  0BLACK_CHESS_EQUIHOPPER 0NEUTRAL_CHESS_EQUIHOPPER 0WHITE_CHESS_EQUIHOPPER_ROTATED_NINETY_DEGREES
  0BLACK_CHESS_EQUIHOPPER_ROTATED_NINETY_DEGREES 0NEUTRAL_CHESS_EQUIHOPPER_ROTATED_NINETY_DEGREES
  0WHITE_CHESS_KNIGHT-QUEEN 2KNIGHT-ROOK 2KNIGHT-BISHOP 0BLACK_CHESS_KNIGHT-QUEEN 2KNIGHT-ROOK
  2KNIGHT-BISHOP =1fa60 0XIANGQI_RED_GENERAL 2MANDARIN 2ELEPHANT 2HORSE 2CHARIOT 2CANNON 2SOLDIER
  1BLACK_GENERAL 2MANDARIN 2ELEPHANT 2HORSE 2CHARIOT 2CANNON 2SOLDIER =1fa70 0BALLET_SHOES
  0ONE-PIECE_SWIMSUIT 0BRIEFS 0SHORTS 0THONG_SANDAL =1fa78 0DROP_OF_BLOOD 0ADHESIVE_BANDAGE
  0STETHOSCOPE 0X-RAY 0CRUTCH =1fa80 0YO-YO 0KITE 0PARACHUTE 0BOOMERANG 0MAGIC_WAND 0PINATA
  0NESTING_DOLLS =1fa90 0RINGED_PLANET 0CHAIR 0RAZOR 0AXE 0DIYA_LAMP 0BANJO 0MILITARY_HELMET
  0ACCORDION 0LONG_DRUM 0COIN 0CARPENTRY_SAW 0SCREWDRIVER 0LADDER 0HOOK 0MIRROR 0WINDOW 0PLUNGER
  0SEWING_NEEDLE 0KNOT 0BUCKET 0MOUSE_TRAP 0TOOTHBRUSH 0HEADSTONE 0PLACARD 0ROCK 0MIRROR_BALL
  0IDENTIFICATION_CARD 0LOW_BATTERY 0HAMSA =1fab0 0FLY 0WORM 0BEETLE 0COCKROACH 0POTTED_PLANT
  0WOOD 0FEATHER 0LOTUS 0CORAL 0EMPTY_NEST 0NEST_WITH_EGGS =1fac0 0ANATOMICAL_HEART 0LUNGS
  0PEOPLE_HUGGING 0PREGNANT_MAN 1PERSON 0PERSON_WITH_CROWN =1fad0 0BLUEBERRIES 0BELL_PEPPER 0OLIVE
  0FLATBREAD 0TAMALE 0FONDUE 0TEAPOT 0POURING_LIQUID 0BEANS 0JAR =1fae0 0MELTING_FACE
  0SALUTING_FACE 0FACE_WITH_OPEN_EYES_AND_HAND_OVER_MOUTH 2PEEKING_EYE 2DIAGONAL_MOUTH
  0DOTTED_LINE_FACE 0BITING_LIP 0BUBBLES =1faf0 0HAND_WITH_INDEX_FINGER_AND_THUMB_CROSSED
  0RIGHTWARDS_HAND 0LEFTWARDS_HAND 0PALM_DOWN_HAND 1UP_HAND 0INDEX_POINTING_AT_THE_VIEWER
  0HEART_HANDS =1fb00 0BLOCK_SEXTANT-1 1SEXTANT-2 1SEXTANT-12 1SEXTANT-3 1SEXTANT-13 1SEXTANT-23
  1SEXTANT-123 1SEXTANT-4 1SEXTANT-14 1SEXTANT-24 1SEXTANT-124 1SEXTANT-34 1SEXTANT-134
  1SEXTANT-234 1SEXTANT-1234 1SEXTANT-5 1SEXTANT-15 1SEXTANT-25 1SEXTANT-125 1SEXTANT-35
  1SEXTANT-235 1SEXTANT-1235 1SEXTANT-45 1SEXTANT-145 1SEXTANT-245 1SEXTANT-1245 1SEXTANT-345
  1SEXTANT-1345 1SEXTANT-2345 1SEXTANT-12345 1SEXTANT-6 1SEXTANT-16 1SEXTANT-26 1SEXTANT-126
  1SEXTANT-36 1SEXTANT-136 1SEXTANT-236 1SEXTANT-1236 1SEXTANT-46 1SEXTANT-146 1SEXTANT-1246
  1SEXTANT-346 1SEXTANT-1346 1SEXTANT-2346 1SEXTANT-12346 1SEXTANT-56 1SEXTANT-156 1SEXTANT-256
  1SEXTANT-1256 1SEXTANT-356 1SEXTANT-1356 1SEXTANT-2356 1SEXTANT-12356 1SEXTANT-456 1SEXTANT-1456
  1SEXTANT-2456 1SEXTANT-12456 1SEXTANT-3456 1SEXTANT-13456 1SEXTANT-23456
  0LOWER_LEFT_BLOCK_DIAGONAL_LOWER_MIDDLE_LEFT_TO_LOWER_CENTRE 9RIGHT
  4UPPER_MIDDLE_LEFT_TO_LOWER_CENTRE 9RIGHT 5LEFT_TO_LOWER_CENTRE
  1RIGHT_BLOCK_DIAGONAL_UPPER_MIDDLE_LEFT_TO_UPPER_CENTRE 9RIGHT
  4LOWER_MIDDLE_LEFT_TO_UPPER_CENTRE 9RIGHT 5LEFT_TO_UPPER_CENTRE
  5MIDDLE_LEFT_TO_UPPER_MIDDLE_RIGHT 5CENTRE_TO_LOWER_MIDDLE_RIGHT 5LEFT_TO_LOWER_MIDDLE_RIGHT
  5CENTRE_TO_UPPER_MIDDLE_RIGHT 5LEFT_TO_UPPER_MIDDLE_RIGHT 5CENTRE_TO_UPPER_RIGHT
  1LEFT_BLOCK_DIAGONAL_UPPER_CENTRE_TO_UPPER_MIDDLE_RIGHT 5LEFT_TO_UPPER_MIDDLE_RIGHT
  5CENTRE_TO_LOWER_MIDDLE_RIGHT 5LEFT_TO_LOWER_MIDDLE_RIGHT 5CENTRE_TO_LOWER_RIGHT
  5MIDDLE_LEFT_TO_LOWER_MIDDLE_RIGHT 0UPPER_RIGHT_BLOCK_DIAGONAL_LOWER_MIDDLE_LEFT_TO_LOWER_CENTRE
  9RIGHT 4UPPER_MIDDLE_LEFT_TO_LOWER_CENTRE 9RIGHT 5LEFT_TO_LOWER_CENTRE
  1LEFT_BLOCK_DIAGONAL_UPPER_MIDDLE_LEFT_TO_UPPER_CENTRE 9RIGHT 4LOWER_MIDDLE_LEFT_TO_UPPER_CENTRE
  9RIGHT 5LEFT_TO_UPPER_CENTRE 5MIDDLE_LEFT_TO_UPPER_MIDDLE_RIGHT 5CENTRE_TO_LOWER_MIDDLE_RIGHT
  5LEFT_TO_LOWER_MIDDLE_RIGHT 5CENTRE_TO_UPPER_MIDDLE_RIGHT 5LEFT_TO_UPPER_MIDDLE_RIGHT
  5CENTRE_TO_UPPER_RIGHT 1RIGHT_BLOCK_DIAGONAL_UPPER_CENTRE_TO_UPPER_MIDDLE_RIGHT
  5LEFT_TO_UPPER_MIDDLE_RIGHT 5CENTRE_TO_LOWER_MIDDLE_RIGHT 5LEFT_TO_LOWER_MIDDLE_RIGHT
  5CENTRE_TO_LOWER_RIGHT 5MIDDLE_LEFT_TO_LOWER_MIDDLE_RIGHT
  1AND_RIGHT_AND_LOWER_TRIANGULAR_THREE_QUARTERS_BLOCK
  0LEFT_AND_LOWER_AND_RIGHT_TRIANGULAR_THREE_QUARTERS_BLOCK
  0UPPER_AND_LEFT_AND_LOWER_TRIANGULAR_THREE_QUARTERS_BLOCK
  0LEFT_AND_UPPER_AND_RIGHT_TRIANGULAR_THREE_QUARTERS_BLOCK 1TRIANGULAR_ONE_QUARTER_BLOCK
  0UPPER_TRIANGULAR_ONE_QUARTER_BLOCK 0RIGHT_TRIANGULAR_ONE_QUARTER_BLOCK
  0LOWER_TRIANGULAR_ONE_QUARTER_BLOCK 0VERTICAL_ONE_EIGHTH_BLOCK-2 3BLOCK-3 3BLOCK-4 3BLOCK-5
  3BLOCK-6 3BLOCK-7 0HORIZONTAL_ONE_EIGHTH_BLOCK-2 3BLOCK-3 3BLOCK-4 3BLOCK-5 3BLOCK-6 3BLOCK-7
  0LEFT_AND_LOWER_ONE_EIGHTH_BLOCK 2UPPER_ONE_EIGHTH_BLOCK 0RIGHT_AND_UPPER_ONE_EIGHTH_BLOCK
  2LOWER_ONE_EIGHTH_BLOCK 0UPPER_AND_LOWER_ONE_EIGHTH_BLOCK 0HORIZONTAL_ONE_EIGHTH_BLOCK-1358
  0UPPER_ONE_QUARTER_BLOCK 1THREE_EIGHTHS_BLOCK 1FIVE_EIGHTHS_BLOCK 1THREE_QUARTERS_BLOCK
  1SEVEN_EIGHTHS_BLOCK 0RIGHT_ONE_QUARTER_BLOCK 1THREE_EIGHTHS_BLOCK 1FIVE_EIGHTHS_BLOCK
  1THREE_QUARTERS_BLOCK 1SEVEN_EIGHTHS_BLOCK 0LEFT_HALF_MEDIUM_SHADE 0RIGHT_HALF_MEDIUM_SHADE
  0UPPER_HALF_MEDIUM_SHADE 0LOWER_HALF_MEDIUM_SHADE 0INVERSE_MEDIUM_SHADE
  0UPPER_HALF_BLOCK_AND_LOWER_HALF_INVERSE_MEDIUM_SHADE 2INVERSE_MEDIUM_SHADE_AND_LOWER_HALF_BLOCK
  =1fb94 0LEFT_HALF_INVERSE_MEDIUM_SHADE_AND_RIGHT_HALF_BLOCK 0CHECKER_BOARD_FILL
  0INVERSE_CHECKER_BOARD_FILL 0HEAVY_HORIZONTAL_FILL 0UPPER_LEFT_TO_LOWER_RIGHT_FILL
  1RIGHT_TO_LOWER_LEFT_FILL 1AND_LOWER_TRIANGULAR_HALF_BLOCK 0LEFT_AND_RIGHT_TRIANGULAR_HALF_BLOCK
  0UPPER_LEFT_TRIANGULAR_MEDIUM_SHADE 1RIGHT_TRIANGULAR_MEDIUM_SHADE
  0LOWER_RIGHT_TRIANGULAR_MEDIUM_SHADE 1LEFT_TRIANGULAR_MEDIUM_SHADE
  0BOX_DRAWINGS_LIGHT_DIAGONAL_UPPER_CENTRE_TO_MIDDLE_LEFT 8RIGHT 4MIDDLE_LEFT_TO_LOWER_CENTRE
  5RIGHT_TO_LOWER_CENTRE 4UPPER_CENTRE_TO_MIDDLE_LEFT_TO_LOWER_CENTRE 8RIGHT_TO_LOWER_CENTRE
  4MIDDLE_LEFT_TO_LOWER_CENTRE_TO_MIDDLE_RIGHT 7UPPER_CENTRE_TO_MIDDLE_RIGHT
  4UPPER_CENTRE_TO_MIDDLE_LEFT_AND_MIDDLE_RIGHT_TO_LOWER_CENTRE
  8RIGHT_AND_MIDDLE_LEFT_TO_LOWER_CENTRE 9TO_LOWER_CENTRE_TO_MIDDLE_LEFT
  8LEFT_TO_LOWER_CENTRE_TO_MIDDLE_RIGHT
  4MIDDLE_LEFT_TO_UPPER_CENTRE_TO_MIDDLE_RIGHT_TO_LOWER_CENTRE
  5RIGHT_TO_UPPER_CENTRE_TO_MIDDLE_LEFT_TO_LOWER_CENTRE 4DIAMOND 3HORIZONTAL_WITH_VERTICAL_STROKE
  0ARROWHEAD-SHAPED_POINTER 0INVERSE_CHECK_MARK 0LEFT_HALF_RUNNING_MAN 0RIGHT_HALF_RUNNING_MAN
  0INVERSE_DOWNWARDS_ARROW_WITH_TIP_LEFTWARDS
  0LEFTWARDS_ARROW_AND_UPPER_AND_LOWER_ONE_EIGHTH_BLOCK
  0RIGHTWARDS_ARROW_AND_UPPER_AND_LOWER_ONE_EIGHTH_BLOCK
  0DOWNWARDS_ARROW_AND_RIGHT_ONE_EIGHTH_BLOCK 0UPWARDS_ARROW_AND_RIGHT_ONE_EIGHTH_BLOCK
  0LEFT_HALF_FOLDER 0RIGHT_HALF_FOLDER 0VOIDED_GREEK_CROSS 0RIGHT_OPEN_SQUARED_DOT
  0NEGATIVE_DIAGONAL_CROSS 2MIDDLE_RIGHT_TO_LOWER_CENTRE 2DIAMOND
  0WHITE_HEAVY_SALTIRE_WITH_ROUNDED_CORNERS 0LEFT_THIRD_WHITE_RIGHT_POINTING_INDEX
  0MIDDLE_THIRD_WHITE_RIGHT_POINTING_INDEX 0RIGHT_THIRD_WHITE_RIGHT_POINTING_INDEX
  0NEGATIVE_SQUARED_QUESTION_MARK 0STICK_FIGURE 2WITH_ARMS_RAISED 2LEANING_LEFT 3RIGHT 2WITH_DRESS
  0WHITE_UP-POINTING_CHEVRON =1fbf0 0SEGMENTED_DIGIT_ZERO 2ONE 2TWO 2THREE 2FOUR 2FIVE 2SIX 2SEVEN
  2EIGHT 2NINE =e0001 0LANGUAGE_TAG =e0020 0TAG_SPACE 1EXCLAMATION_MARK 1QUOTATION_MARK
  1NUMBER_SIGN 1DOLLAR_SIGN 1PERCENT_SIGN 1AMPERSAND 1APOSTROPHE 1LEFT_PARENTHESIS
  1RIGHT_PARENTHESIS 1ASTERISK 1PLUS_SIGN 1COMMA 1HYPHEN-MINUS 1FULL_STOP 1SOLIDUS 1DIGIT_ZERO
  2ONE 2TWO 2THREE 2FOUR 2FIVE 2SIX 2SEVEN 2EIGHT 2NINE 1COLON 1SEMICOLON 1LESS-THAN_SIGN
  1EQUALS_SIGN 1GREATER-THAN_SIGN 1QUESTION_MARK 1COMMERCIAL_AT 1LATIN_CAPITAL_LETTER_A 4B 4C 4D
  4E 4F 4G 4H 4I 4J 4K 4L 4M 4N 4O 4P 4Q 4R 4S 4T 4U 4V 4W 4X 4Y 4Z 1LEFT_SQUARE_BRACKET
  1REVERSE_SOLIDUS 1RIGHT_SQUARE_BRACKET 1CIRCUMFLEX_ACCENT 1LOW_LINE 1GRAVE_ACCENT
  1LATIN_SMALL_LETTER_A 4B 4C 4D 4E 4F 4G 4H 4I 4J 4K 4L 4M 4N 4O 4P 4Q 4R 4S 4T 4U 4V 4W 4X 4Y 4Z
  1LEFT_CURLY_BRACKET 1VERTICAL_LINE 1RIGHT_CURLY_BRACKET 1TILDE 0CANCEL_TAG =e0100
  0VARIATION_SELECTOR-17 1SELECTOR-18 1SELECTOR-19 1SELECTOR-20 1SELECTOR-21 1SELECTOR-22
  1SELECTOR-23 1SELECTOR-24 1SELECTOR-25 1SELECTOR-26 1SELECTOR-27 1SELECTOR-28 1SELECTOR-29
  1SELECTOR-30 1SELECTOR-31 1SELECTOR-32 1SELECTOR-33 1SELECTOR-34 1SELECTOR-35 1SELECTOR-36
  1SELECTOR-37 1SELECTOR-38 1SELECTOR-39 1SELECTOR-40 1SELECTOR-41 1SELECTOR-42 1SELECTOR-43
  1SELECTOR-44 1SELECTOR-45 1SELECTOR-46 1SELECTOR-47 1SELECTOR-48 1SELECTOR-49 1SELECTOR-50
  1SELECTOR-51 1SELECTOR-52 1SELECTOR-53 1SELECTOR-54 1SELECTOR-55 1SELECTOR-56 1SELECTOR-57
  1SELECTOR-58 1SELECTOR-59 1SELECTOR-60 1SELECTOR-61 1SELECTOR-62 1SELECTOR-63 1SELECTOR-64
  1SELECTOR-65 1SELECTOR-66 1SELECTOR-67 1SELECTOR-68 1SELECTOR-69 1SELECTOR-70 1SELECTOR-71
  1SELECTOR-72 1SELECTOR-73 1SELECTOR-74 1SELECTOR-75 1SELECTOR-76 1SELECTOR-77 1SELECTOR-78
  1SELECTOR-79 1SELECTOR-80 1SELECTOR-81 1SELECTOR-82 1SELECTOR-83 1SELECTOR-84 1SELECTOR-85
  1SELECTOR-86 1SELECTOR-87 1SELECTOR-88 1SELECTOR-89 1SELECTOR-90 1SELECTOR-91 1SELECTOR-92
  1SELECTOR-93 1SELECTOR-94 1SELECTOR-95 1SELECTOR-96 1SELECTOR-97 1SELECTOR-98 1SELECTOR-99
  1SELECTOR-100 1SELECTOR-101 1SELECTOR-102 1SELECTOR-103 1SELECTOR-104 1SELECTOR-105
  1SELECTOR-106 1SELECTOR-107 1SELECTOR-108 1SELECTOR-109 1SELECTOR-110 1SELECTOR-111
  1SELECTOR-112 1SELECTOR-113 1SELECTOR-114 1SELECTOR-115 1SELECTOR-116 1SELECTOR-117
  1SELECTOR-118 1SELECTOR-119 1SELECTOR-120 1SELECTOR-121 1SELECTOR-122 1SELECTOR-123
  1SELECTOR-124 1SELECTOR-125 1SELECTOR-126 1SELECTOR-127 1SELECTOR-128 1SELECTOR-129
  1SELECTOR-130 1SELECTOR-131 1SELECTOR-132 1SELECTOR-133 1SELECTOR-134 1SELECTOR-135
  1SELECTOR-136 1SELECTOR-137 1SELECTOR-138 1SELECTOR-139 1SELECTOR-140 1SELECTOR-141
  1SELECTOR-142 1SELECTOR-143 1SELECTOR-144 1SELECTOR-145 1SELECTOR-146 1SELECTOR-147
  1SELECTOR-148 1SELECTOR-149 1SELECTOR-150 1SELECTOR-151 1SELECTOR-152 1SELECTOR-153
  1SELECTOR-154 1SELECTOR-155 1SELECTOR-156 1SELECTOR-157 1SELECTOR-158 1SELECTOR-159
  1SELECTOR-160 1SELECTOR-161 1SELECTOR-162 1SELECTOR-163 1SELECTOR-164 1SELECTOR-165
  1SELECTOR-166 1SELECTOR-167 1SELECTOR-168 1SELECTOR-169 1SELECTOR-170 1SELECTOR-171
  1SELECTOR-172 1SELECTOR-173 1SELECTOR-174 1SELECTOR-175 1SELECTOR-176 1SELECTOR-177
  1SELECTOR-178 1SELECTOR-179 1SELECTOR-180 1SELECTOR-181 1SELECTOR-182 1SELECTOR-183
  1SELECTOR-184 1SELECTOR-185 1SELECTOR-186 1SELECTOR-187 1SELECTOR-188 1SELECTOR-189
  1SELECTOR-190 1SELECTOR-191 1SELECTOR-192 1SELECTOR-193 1SELECTOR-194 1SELECTOR-195
  1SELECTOR-196 1SELECTOR-197 1SELECTOR-198 1SELECTOR-199 1SELECTOR-200 1SELECTOR-201
  1SELECTOR-202 1SELECTOR-203 1SELECTOR-204 1SELECTOR-205 1SELECTOR-206 1SELECTOR-207
  1SELECTOR-208 1SELECTOR-209 1SELECTOR-210 1SELECTOR-211 1SELECTOR-212 1SELECTOR-213
  1SELECTOR-214 1SELECTOR-215 1SELECTOR-216 1SELECTOR-217 1SELECTOR-218 1SELECTOR-219
  1SELECTOR-220 1SELECTOR-221 1SELECTOR-222 1SELECTOR-223 1SELECTOR-224 1SELECTOR-225
  1SELECTOR-226 1SELECTOR-227 1SELECTOR-228 1SELECTOR-229 1SELECTOR-230 1SELECTOR-231
  1SELECTOR-232 1SELECTOR-233 1SELECTOR-234 1SELECTOR-235 1SELECTOR-236 1SELECTOR-237
  1SELECTOR-238 1SELECTOR-239 1SELECTOR-240 1SELECTOR-241 1SELECTOR-242 1SELECTOR-243
  1SELECTOR-244 1SELECTOR-245 1SELECTOR-246 1SELECTOR-247 1SELECTOR-248 1SELECTOR-249
  1SELECTOR-250 1SELECTOR-251 1SELECTOR-252 1SELECTOR-253 1SELECTOR-254 1SELECTOR-255
  1SELECTOR-256"

end RepoAtlas.Text.CharacterName
