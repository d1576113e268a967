import SchemaLens.Naming.PluralRule
import SchemaLens.Text.LowerCase

/-!
# Plurals

The plural of a word. A short table of irregular words comes first and matches in any case; then
words without a plural, words with one of their own, and the rules, of which the first that fits
decides. Every other word takes an `s`.
-/

namespace SchemaLens.Naming

/-- Irregular words with their plurals, both matched in any case. -/
def irregularPlurals : List (String × String) :=
  [
    ("person", "people"), ("child", "children"), ("man", "men"), ("woman", "women"),
    ("mouse", "mice"), ("goose", "geese"), ("leaf", "leaves"), ("life", "lives"),
    ("knife", "knives"), ("wife", "wives"), ("half", "halves"), ("potato", "potatoes"),
    ("hero", "heroes"), ("analysis", "analyses"), ("basis", "bases"), ("crisis", "crises"),
    ("criterion", "criteria"), ("datum", "data"), ("medium", "media"), ("index", "indices"),
    ("matrix", "matrices"), ("vertex", "vertices")
  ]

/-- Words that are their own plural. -/
def uncountableWords : List String :=
  [
    "accommodation", "adulthood", "advertising", "advice", "aggression", "aid", "air",
    "aircraft", "alcohol", "anger", "applause", "arithmetic", "assistance", "athletics", "bacon",
    "baggage", "beef", "biology", "blood", "botany", "bread", "butter", "carbon", "cardboard",
    "cash", "chalk", "chaos", "chess", "crossroads", "countryside", "dancing", "deer", "dignity",
    "dirt", "dust", "economics", "education", "electricity", "engineering", "enjoyment", "envy",
    "equipment", "ethics", "evidence", "evolution", "fame", "fiction", "flour", "flu", "food",
    "fuel", "fun", "furniture", "gallows", "garbage", "garlic", "genetics", "gold", "golf",
    "gossip", "grammar", "gratitude", "grief", "guilt", "gymnastics", "happiness", "hardware",
    "harm", "hate", "hatred", "health", "heat", "help", "homework", "honesty", "honey",
    "hospitality", "housework", "humour", "hunger", "hydrogen", "ice", "importance", "inflation",
    "information", "innocence", "iron", "irony", "jam", "jewelry", "judo", "karate", "knowledge",
    "lack", "laughter", "lava", "leather", "leisure", "lightning", "linguine", "linguini",
    "linguistics", "literature", "litter", "livestock", "logic", "loneliness", "luck", "luggage",
    "macaroni", "machinery", "magic", "management", "mankind", "marble", "mathematics",
    "mayonnaise", "measles", "methane", "milk", "money", "mud", "music", "mumps", "nature",
    "news", "nitrogen", "nonsense", "nurture", "nutrition", "obedience", "obesity", "oxygen",
    "pasta", "patience", "physics", "poetry", "pollution", "poverty", "pride", "psychology",
    "publicity", "punctuation", "quartz", "racism", "relaxation", "reliability", "research",
    "respect", "revenge", "rice", "rubbish", "rum", "safety", "scenery", "seafood", "seaside",
    "series", "shame", "sheep", "shopping", "sleep", "smoke", "smoking", "snow", "soap",
    "software", "soil", "spaghetti", "species", "steam", "stuff", "stupidity", "sunshine",
    "symmetry", "tennis", "thirst", "thunder", "timber", "traffic", "transportation", "trust",
    "underwear", "unemployment", "unity", "validity", "veal", "vegetation", "vegetarianism",
    "vengeance", "violence", "vitality", "warmth", "wealth", "weather", "welfare", "wheat",
    "wildlife", "wisdom", "yoga", "zinc", "zoology"
  ]

/-- Words with a plural of their own, matched as they are. -/
def specialPlurals : List (String × String) :=
  [
    ("ox", "oxen"), ("man", "men"), ("woman", "women"), ("die", "dice"), ("yes", "yeses"),
    ("foot", "feet"), ("eave", "eaves"), ("goose", "geese"), ("tooth", "teeth"),
    ("quiz", "quizzes")
  ]

/-- The rules, in the order in which they are tried. -/
def pluralRules : List PluralRule :=
  let vowels := ['a', 'e', 'i', 'o', 'u']
  [
    { stems := [Stem.word "eaux"], replacement := "" },
    { stems := [Stem.word "child"], endings := ["", "ren"], replacement := "ren" },
    { stems := [Stem.word "person", Stem.word "people"], replacement := "ople" },
    { stems := ["mice", "mouse", "lice", "louse"].map Stem.word, replacement := "ice" },
    { stems := ["matr", "cod", "mur", "sil", "vert", "ind", "append"].map Stem.word
      endings := ["ix", "ex"], replacement := "ices" },
    { stems := ["x", "ch", "ss", "sh", "zz"].map Stem.word, replacement := "es" },
    { stems := ["xes", "ches", "sses", "shes", "zzes"].map Stem.word, replacement := "" },
    { stems := [[.except ['c', 'h'], .among ['i', 'e', 'o'], .among ['l', 'n']]]
      endings := ["ey"], replacement := "ies" },
    { stems := [[.except ('y' :: vowels)], Stem.word "qu"]
      endings := ["y"], replacement := "ies" },
    { stems := ["ar", "l", "ea", "eo", "oa", "hoo"].map Stem.word
      endings := ["f"], replacement := "ves" },
    { stems := ["kni", "wi", "li"].map Stem.word, endings := ["fe"], replacement := "ves" },
    { stems := [[]], endings := ["sis"], replacement := "ses" },
    { stems :=
        ["apheli", "hyperbat", "periheli", "asyndet", "noumen", "phenomen", "criteri", "organ",
          "prolegomen", "hedr", "automat"].map Stem.word
      endings := ["a", "on"], replacement := "a" },
    { stems :=
        ["agend", "addend", "millenni", "dat", "extrem", "bacteri", "desiderat", "strat",
          "candelabr", "errat", "ov", "symposi", "curricul", "automat", "quor"].map Stem.word
      endings := ["a", "um"], replacement := "a" },
    { stems := ["her", "at", "gr"].map Stem.word, endings := ["o"], replacement := "oes" },
    { stems := ["seraph", "cherub"].map Stem.word, endings := ["im", ""], replacement := "im" },
    { stems := ["alumn", "alg", "vertebr"].map Stem.word
      endings := ["a", "ae"], replacement := "ae" },
    { stems :=
        ["alumn", "syllab", "octop", "vir", "radi", "nucle", "fung", "cact", "stimul", "termin",
          "bacill", "foc", "uter", "loc", "strat"].map Stem.word
      endings := ["us", "i"], replacement := "i" },
    { stems :=
        [.except ['l'] :: Stem.word "ias", .among vowels :: Stem.word "las",
          .among ['e', 'm', 'j', 'z', 'r'] :: Stem.word "as", .among ['i', 'u'] :: Stem.word "am"]
      replacement := "" },
    { stems := [[.among ['e'], .among ['m', 'n'], .among ['u']]]
      endings := ["s", ""], replacement := "s" },
    { stems :=
        [Stem.word "alias", .except ['a', 'o', 'u'] :: Stem.word "us", Stem.word "tlas",
          Stem.word "gas", Stem.word "ris"]
      replacement := "es" },
    { stems := [Stem.word "ax", Stem.word "test"], endings := ["is"], replacement := "es" },
    { stems := [.except vowels :: Stem.word "ese"], replacement := "" },
    { stems := [[]], endings := ["s"], replacement := "s" }
  ]

/-- The plural of a word without regard to the irregular table. -/
def regularPlural (word : String) : String :=
  if uncountableWords.contains word then word
  else
    match specialPlurals.lookup word with
    | some plural => plural
    | none => (pluralRules.findSome? (·.plural? word)).getD (word ++ "s")

/-- The irregular plural of a word, given as the singular or the plural in any case. -/
def irregularPlural? (word : String) : Option String :=
  let lowered := Text.lowerCase word
  (irregularPlurals.find? fun (singular, plural) =>
    lowered == singular || lowered == plural).map Prod.snd

/-- The plural of a word; the empty word is its own. -/
def pluralize (word : String) : String :=
  if word.isEmpty then word else (irregularPlural? word).getD (regularPlural word)

end SchemaLens.Naming
