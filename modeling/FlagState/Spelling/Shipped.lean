import FlagState.Spelling

/-!
The rule sets that make the published tables agree on the names of countries.
-/
namespace FlagState.Spelling

/-- Brings the names of allocations into the short form of the country codes: qualifiers go, overseas
territories get names of their own, long names of states become short ones. -/
def allocationRules : RuleSet :=
  ⟨"mid",
   [.dropQualifiers,
   .replace "France - Guiana" "French Guiana",
   .replace "France - Wallis and Futuna Islands" "Wallis and Futuna",
   .replace "France - Saint Paul and Amsterdam Islands" "French Southern Territories",
   .replace "France - Kerguelen Islands" "French Southern Territories",
   .replace "France - Crozet Archipelago" "French Southern Territories",
   .replace "France - Reunion" "French Southern Territories",
   .replace "France - Adelie Land" "French Southern Territories",
   .replace "France - " "",
   .replace "Australia - " "",
   .replace "New Zealand - " "",
   .replace "China - " "",
   .replace "Denmark - " "",
   .replace "Netherlands - " "",
   .replace "United States of America - Alaska" "United States of America",
   .replace "United States of America - " "",
   .replace "United Kingdom of Great Britain and Northern Ireland - Pitcairn Island" "Pitcairn",
   .replace "United Kingdom of Great Britain and Northern Ireland - Falkland Islands"
     "Falkland Islands [Malvinas]",
   .replace "United Kingdom of Great Britain and Northern Ireland - Saint Helena"
     "Saint Helena, Ascension and Tristan da Cunha",
   .replace "United Kingdom of Great Britain and Northern Ireland - Ascension Island"
     "Saint Helena, Ascension and Tristan da Cunha",
   .replace "United Kingdom of Great Britain and Northern Ireland - " "",
   .replace "Argentine Republic" "Argentina",
   .replace "Democratic Republic of the Congo" "Congo",
   .replace "Togolese Republic" "Togo",
   .replace "Gabonese Republic" "Gabon",
   .replace "Kyrgyz Republic" "Kyrgyzstan",
   .replace "Democratic People's Republic of Korea" "Korea",
   .replace "State of Palestine" "Palestine, State of",
   .replace "Czech Republic" "Czechia",
   .replace "Slovak Republic" "Slovakia",
   .replace "Portugal - Madeira" "Portugal",
   .replace "Portugal - Azores" "Portugal",
   .replace "Tanzania" "Tanzania, United Republic of",
   .replace "North Macedonia" "Republic of North Macedonia"]⟩

/-- Qualifiers go, but the two groups of Virgin Islands stay apart. -/
def countryRules : RuleSet :=
  ⟨"iso3166",
   [.replace "Virgin Islands (U.S.)" "United States Virgin Islands",
   .replace "Virgin Islands (British)" "British Virgin Islands",
   .dropQualifiers]⟩

/-- Rows for names that only allocations use; the last two codes stand in for codes that do not exist. -/
def supplement : List Text :=
  ["France - Reunion  RE ZZZ 000",
   "Vatican City State  VA ZZZ 000"]

end FlagState.Spelling
