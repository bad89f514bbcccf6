import CloudAccessors.Noun.Ending

/-!
# The lexicon of English plurals

Words that are looked up as a whole, and the ending rules in order of priority. A rule whose plural
and singular agree keeps a singular ending such as `status` or `-ss` from losing its `s` to a later
rule.
-/

namespace CloudAccessors.Noun

/-- Words without a distinct singular, and singular words that end in `s`. -/
def invariantWords : List String :=
  ["equipment", "information", "rice", "money", "species", "series", "fish", "sheep", "jeans",
   "police", "news", "dns", "bias", "canvas", "chaos", "corpus", "gas", "lens", "plus", "bonus",
   "census", "focus", "nexus", "atlas", "apparatus"]

/-- Singular words that end in `s` and take `es` in the plural. -/
def singularsInS : List String :=
  ["abacus", "cactus", "campus", "chorus", "circus", "corpus", "exodus", "fungus", "impetus",
   "iris", "lotus", "minus", "onus", "opus", "prospectus", "redis", "sinus", "stimulus",
   "syllabus", "terminus", "thesaurus", "walrus"]

/-- Irregular nouns, the singular first. -/
def irregularNouns : List (String × String) :=
  [("person", "people"), ("man", "men"), ("woman", "women"), ("child", "children"),
   ("sex", "sexes"), ("move", "moves"), ("zombie", "zombies"), ("datum", "data"),
   ("medium", "media"), ("criterion", "criteria"), ("foot", "feet"), ("tooth", "teeth"),
   ("goose", "geese")]

/-- Stems of nouns in `-sis` with a plural in `-ses`. -/
def sisStems : List String :=
  ["analy", "ba", "diagno", "parenthe", "progno", "synop", "the"]

/-- The rules that come before the nouns in `-sis`. -/
def leadingRules : List EndingRule :=
  [{ plural := "databases", singular := "database" },
   { plural := "quizzes", singular := "quiz" },
   { plural := "matrices", singular := "matrix" },
   { plural := "vertices", singular := "vertex" },
   { plural := "indices", singular := "index" },
   { plural := "oxen", singular := "ox", guard := .wholeWord },
   { plural := "aliases", singular := "alias" },
   { plural := "alias", singular := "alias" },
   { plural := "statuses", singular := "status" },
   { plural := "status", singular := "status" },
   { plural := "octopi", singular := "octopus" },
   { plural := "octopus", singular := "octopus" },
   { plural := "viri", singular := "virus" },
   { plural := "virus", singular := "virus" },
   { plural := "axes", singular := "axis", guard := .wholeWord },
   { plural := "axis", singular := "axis", guard := .wholeWord },
   { plural := "crises", singular := "crisis" },
   { plural := "crisis", singular := "crisis" },
   { plural := "testes", singular := "testis" },
   { plural := "testis", singular := "testis" },
   { plural := "shoes", singular := "shoe" },
   { plural := "oes", singular := "o" },
   { plural := "buses", singular := "bus" },
   { plural := "bus", singular := "bus" },
   { plural := "mice", singular := "mouse", guard := .wholeWord },
   { plural := "lice", singular := "louse", guard := .wholeWord },
   { plural := "xes", singular := "x" },
   { plural := "ches", singular := "ch" },
   { plural := "sses", singular := "ss" },
   { plural := "shes", singular := "sh" },
   { plural := "movies", singular := "movie" },
   { plural := "series", singular := "series" },
   { plural := "ies", singular := "y", guard := .afterConsonant },
   { plural := "lves", singular := "lf" },
   { plural := "rves", singular := "rf" },
   { plural := "tives", singular := "tive" },
   { plural := "hives", singular := "hive" },
   { plural := "ves", singular := "fe", guard := .notAfter 'f' }]

/-- The rules that come after the nouns in `-sis`. -/
def trailingRules : List EndingRule :=
  [{ plural := "news", singular := "news" },
   { plural := "sis", singular := "sis" },
   { plural := "ius", singular := "ius" },
   { plural := "eus", singular := "eus" },
   { plural := "ss", singular := "ss" },
   { plural := "s", singular := "" }]

end CloudAccessors.Noun
