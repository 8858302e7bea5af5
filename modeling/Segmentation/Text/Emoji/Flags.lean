/-!
# Pictures of flags

Flags of countries and regions, which are written as two letters of their own kind: a flag, its
names, and a semicolon before the next flag.
-/

namespace Segmentation.Emoji

/-- The flags of countries and regions. -/
def flags : String :=
  "🇦🇫 afghanistan flag_for_afghanistan;🇦🇱 albania flag_for_albania;🇩🇿 algeria flag_for_algeria;🇦🇸
   american_samoa flag_for_american_samoa;🇦🇩 andorra flag_for_andorra;🇦🇴 angola flag_for_angola;🇦🇮
   anguilla flag_for_anguilla;🇦🇶 antarctica flag_for_antarctica;🇦🇬 antigua_&_barbuda
   flag_for_antigua_&_barbuda;🇦🇷 argentina flag_for_argentina;🇦🇲 armenia flag_for_armenia;🇦🇼 aruba
   flag_for_aruba;🇦🇨 ascension_island flag_for_ascension_island;🇦🇺 australia flag_for_australia;🇦🇹
   austria flag_for_austria;🇦🇿 azerbaijan flag_for_azerbaijan;🇧🇸 bahamas flag_for_bahamas;🇧🇭
   bahrain flag_for_bahrain;🇧🇩 bangladesh flag_for_bangladesh;🇧🇧 barbados flag_for_barbados;🇧🇾
   belarus flag_for_belarus;🇧🇪 belgium flag_for_belgium;🇧🇿 belize flag_for_belize;🇧🇯 benin
   flag_for_benin;🇧🇲 bermuda flag_for_bermuda;🇧🇹 bhutan flag_for_bhutan;🇧🇴 bolivia
   flag_for_bolivia;🇧🇦 bosnia_&_herzegovina flag_for_bosnia_&_herzegovina;🇧🇼 botswana
   flag_for_botswana;🇧🇻 bouvet_island flag_for_bouvet_island;🇧🇷 brazil flag_for_brazil;🇮🇴
   british_indian_ocean_territory flag_for_british_indian_ocean_territory;🇻🇬 british_virgin_islands
   flag_for_british_virgin_islands;🇧🇳 brunei flag_for_brunei;🇧🇬 bulgaria flag_for_bulgaria;🇧🇫
   burkina_faso flag_for_burkina_faso;🇧🇮 burundi flag_for_burundi;🇰🇭 cambodia flag_for_cambodia;🇨🇲
   cameroon flag_for_cameroon;🇨🇦 canada flag_for_canada;🇮🇨 canary_islands flag_for_canary_islands;
   🇨🇻 cape_verde flag_for_cape_verde;🇧🇶 caribbean_netherlands flag_for_caribbean_netherlands;🇰🇾
   cayman_islands flag_for_cayman_islands;🇨🇫 central_african_republic
   flag_for_central_african_republic;🇪🇦 ceuta_&_melilla flag_for_ceuta_&_melilla;🇹🇩 chad
   flag_for_chad;🇨🇱 chile flag_for_chile;🇨🇳 china flag_for_china;🇨🇽 christmas_island
   flag_for_christmas_island;🇨🇵 clipperton_island flag_for_clipperton_island;🇨🇨
   cocos_(keeling)_islands flag_for_cocos__islands;🇨🇴 colombia flag_for_colombia;🇰🇲 comoros
   flag_for_comoros;🇨🇬 congo_-_brazzaville flag_for_congo____brazzaville;🇨🇩 congo_-_kinshasa
   flag_for_congo____kinshasa;🇨🇰 cook_islands flag_for_cook_islands;🇨🇷 costa_rica
   flag_for_costa_rica;🇭🇷 croatia flag_for_croatia;🇨🇺 cuba flag_for_cuba;🇨🇼 curaçao
   flag_for_curaçao;🇨🇾 cyprus flag_for_cyprus;🇨🇿 czechia flag_for_czech_republic;🇨🇮 côte_d’ivoire
   flag_for_côte_d’ivoire;🇩🇰 denmark flag_for_denmark;🇩🇬 diego_garcia flag_for_diego_garcia;🇩🇯
   djibouti flag_for_djibouti;🇩🇲 dominica flag_for_dominica;🇩🇴 dominican_republic
   flag_for_dominican_republic;🇪🇨 ecuador flag_for_ecuador;🇪🇬 egypt flag_for_egypt;🇸🇻 el_salvador
   flag_for_el_salvador;🇬🇶 equatorial_guinea flag_for_equatorial_guinea;🇪🇷 eritrea
   flag_for_eritrea;🇪🇪 estonia flag_for_estonia;🇪🇹 ethiopia flag_for_ethiopia;🇪🇺 european_union
   flag_for_european_union;🇫🇰 falkland_islands flag_for_falkland_islands;🇫🇴 faroe_islands
   flag_for_faroe_islands;🇫🇯 fiji flag_for_fiji;🇫🇮 finland flag_for_finland;🇫🇷 france
   flag_for_france;🇬🇫 french_guiana flag_for_french_guiana;🇵🇫 french_polynesia
   flag_for_french_polynesia;🇹🇫 french_southern_territories flag_for_french_southern_territories;🇬🇦
   gabon flag_for_gabon;🇬🇲 gambia flag_for_gambia;🇬🇪 georgia flag_for_georgia;🇩🇪 germany
   flag_for_germany;🇬🇭 ghana flag_for_ghana;🇬🇮 gibraltar flag_for_gibraltar;🇬🇷 greece
   flag_for_greece;🇬🇱 greenland flag_for_greenland;🇬🇩 grenada flag_for_grenada;🇬🇵 guadeloupe
   flag_for_guadeloupe;🇬🇺 guam flag_for_guam;🇬🇹 guatemala flag_for_guatemala;🇬🇬 guernsey
   flag_for_guernsey;🇬🇳 guinea flag_for_guinea;🇬🇼 guinea-bissau flag_for_guinea__bissau;🇬🇾 guyana
   flag_for_guyana;🇭🇹 haiti flag_for_haiti;🇭🇲 heard_&_mcdonald_islands
   flag_for_heard_&_mcdonald_islands;🇭🇳 honduras flag_for_honduras;🇭🇰 hong_kong_sar_china
   flag_for_hong_kong;🇭🇺 hungary flag_for_hungary;🇮🇸 iceland flag_for_iceland;🇮🇳 india
   flag_for_india;🇮🇩 indonesia flag_for_indonesia;🇮🇷 iran flag_for_iran;🇮🇶 iraq flag_for_iraq;🇮🇪
   ireland flag_for_ireland;🇮🇲 isle_of_man flag_for_isle_of_man;🇮🇱 israel flag_for_israel;🇮🇹 italy
   flag_for_italy;🇯🇲 jamaica flag_for_jamaica;🇯🇪 jersey flag_for_jersey;🇯🇴 jordan flag_for_jordan;
   🇰🇿 kazakhstan flag_for_kazakhstan;🇰🇪 kenya flag_for_kenya;🇰🇮 kiribati flag_for_kiribati;🇽🇰
   kosovo flag_for_kosovo;🇰🇼 kuwait flag_for_kuwait;🇰🇬 kyrgyzstan flag_for_kyrgyzstan;🇱🇦 laos
   flag_for_laos;🇱🇻 latvia flag_for_latvia;🇱🇧 lebanon flag_for_lebanon;🇱🇸 lesotho flag_for_lesotho;
   🇱🇷 liberia flag_for_liberia;🇱🇾 libya flag_for_libya;🇱🇮 liechtenstein flag_for_liechtenstein;🇱🇹
   lithuania flag_for_lithuania;🇱🇺 luxembourg flag_for_luxembourg;🇲🇴 macau_sar_china
   flag_for_macau;🇲🇰 macedonia flag_for_macedonia;🇲🇬 madagascar flag_for_madagascar;🇲🇼 malawi
   flag_for_malawi;🇲🇾 malaysia flag_for_malaysia;🇲🇻 maldives flag_for_maldives;🇲🇱 mali
   flag_for_mali;🇲🇹 malta flag_for_malta;🇲🇭 marshall_islands flag_for_marshall_islands;🇲🇶
   martinique flag_for_martinique;🇲🇷 mauritania flag_for_mauritania;🇲🇺 mauritius
   flag_for_mauritius;🇾🇹 mayotte flag_for_mayotte;🇲🇽 mexico flag_for_mexico;🇫🇲 micronesia
   flag_for_micronesia;🇲🇩 moldova flag_for_moldova;🇲🇨 monaco flag_for_monaco;🇲🇳 mongolia
   flag_for_mongolia;🇲🇪 montenegro flag_for_montenegro;🇲🇸 montserrat flag_for_montserrat;🇲🇦 morocco
   flag_for_morocco;🇲🇿 mozambique flag_for_mozambique;🇲🇲 myanmar_(burma) flag_for_myanmar;🇳🇦
   namibia flag_for_namibia;🇳🇷 nauru flag_for_nauru;🇳🇵 nepal flag_for_nepal;🇳🇱 netherlands
   flag_for_netherlands;🇳🇨 new_caledonia flag_for_new_caledonia;🇳🇿 new_zealand
   flag_for_new_zealand;🇳🇮 nicaragua flag_for_nicaragua;🇳🇪 niger flag_for_niger;🇳🇬 nigeria
   flag_for_nigeria;🇳🇺 niue flag_for_niue;🇳🇫 norfolk_island flag_for_norfolk_island;🇰🇵 north_korea
   flag_for_north_korea;🇲🇵 northern_mariana_islands flag_for_northern_mariana_islands;🇳🇴 norway
   flag_for_norway;🇴🇲 oman flag_for_oman;🇵🇰 pakistan flag_for_pakistan;🇵🇼 palau flag_for_palau;🇵🇸
   palestinian_territories flag_for_palestinian_territories;🇵🇦 panama flag_for_panama;🇵🇬
   papua_new_guinea flag_for_papua_new_guinea;🇵🇾 paraguay flag_for_paraguay;🇵🇪 peru flag_for_peru;
   🇵🇭 philippines flag_for_philippines;🇵🇳 pitcairn_islands flag_for_pitcairn_islands;🇵🇱 poland
   flag_for_poland;🇵🇹 portugal flag_for_portugal;🇵🇷 puerto_rico flag_for_puerto_rico;🇶🇦 qatar
   flag_for_qatar;🇷🇴 romania flag_for_romania;🇷🇺 russia flag_for_russia;🇷🇼 rwanda flag_for_rwanda;
   🇷🇪 réunion flag_for_réunion;🇼🇸 samoa flag_for_samoa;🇸🇲 san_marino flag_for_san_marino;🇸🇦
   saudi_arabia flag_for_saudi_arabia;🇸🇳 senegal flag_for_senegal;🇷🇸 serbia flag_for_serbia;🇸🇨
   seychelles flag_for_seychelles;🇸🇱 sierra_leone flag_for_sierra_leone;🇸🇬 singapore
   flag_for_singapore;🇸🇽 sint_maarten flag_for_sint_maarten;🇸🇰 slovakia flag_for_slovakia;🇸🇮
   slovenia flag_for_slovenia;🇸🇧 solomon_islands flag_for_solomon_islands;🇸🇴 somalia
   flag_for_somalia;🇿🇦 south_africa flag_for_south_africa;🇬🇸 south_georgia_&_south_sandwich_islands
   flag_for_south_georgia_&_south_sandwich_islands;🇰🇷 south_korea flag_for_south_korea;🇸🇸
   south_sudan flag_for_south_sudan;🇪🇸 spain flag_for_spain;🇱🇰 sri_lanka flag_for_sri_lanka;🇧🇱
   st._barthélemy flag_for_st._barthélemy;🇸🇭 st._helena flag_for_st._helena;🇰🇳 st._kitts_&_nevis
   flag_for_st._kitts_&_nevis;🇱🇨 st._lucia flag_for_st._lucia;🇲🇫 st._martin flag_for_st._martin;🇵🇲
   st._pierre_&_miquelon flag_for_st._pierre_&_miquelon;🇻🇨 st._vincent_&_grenadines
   flag_for_st._vincent_&_grenadines;🇸🇩 sudan flag_for_sudan;🇸🇷 suriname flag_for_suriname;🇸🇯
   svalbard_&_jan_mayen flag_for_svalbard_&_jan_mayen;🇸🇿 swaziland flag_for_swaziland;🇸🇪 sweden
   flag_for_sweden;🇨🇭 switzerland flag_for_switzerland;🇸🇾 syria flag_for_syria;🇸🇹
   são_tomé_&_príncipe flag_for_são_tomé_&_príncipe;🇹🇼 taiwan flag_for_taiwan;🇹🇯 tajikistan
   flag_for_tajikistan;🇹🇿 tanzania flag_for_tanzania;🇹🇭 thailand flag_for_thailand;🇹🇱 timor-leste
   flag_for_timor__leste;🇹🇬 togo flag_for_togo;🇹🇰 tokelau flag_for_tokelau;🇹🇴 tonga flag_for_tonga;
   🇹🇹 trinidad_&_tobago flag_for_trinidad_&_tobago;🇹🇦 tristan_da_cunha flag_for_tristan_da_cunha;🇹🇳
   tunisia flag_for_tunisia;🇹🇲 turkmenistan flag_for_turkmenistan;🇹🇨 turks_&_caicos_islands
   flag_for_turks_&_caicos_islands;🇹🇻 tuvalu flag_for_tuvalu;🇺🇲 u.s._outlying_islands
   flag_for_u.s._outlying_islands;🇻🇮 u.s._virgin_islands flag_for_u.s._virgin_islands;🇺🇬 uganda
   flag_for_uganda;🇺🇦 ukraine flag_for_ukraine;🇦🇪 united_arab_emirates
   flag_for_united_arab_emirates;🇬🇧 united_kingdom flag_for_united_kingdom;🇺🇳 united_nations;🇺🇸
   united_states flag_for_united_states;🇺🇾 uruguay flag_for_uruguay;🇺🇿 uzbekistan
   flag_for_uzbekistan;🇻🇺 vanuatu flag_for_vanuatu;🇻🇦 vatican_city flag_for_vatican_city;🇻🇪
   venezuela flag_for_venezuela;🇻🇳 vietnam flag_for_vietnam;🇼🇫 wallis_&_futuna
   flag_for_wallis_&_futuna;🇪🇭 western_sahara flag_for_western_sahara;🇾🇪 yemen flag_for_yemen;🇿🇲
   zambia flag_for_zambia;🇿🇼 zimbabwe flag_for_zimbabwe;🇦🇽 åland_islands flag_for_åland_islands;🇯🇵
   flag_for_japan;🇹🇷 flag_for_turkey"

end Segmentation.Emoji
