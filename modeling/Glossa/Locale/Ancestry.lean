import Glossa.Locale.LanguageId

/-!
# Ancestry of language ids

Data on a language is kept for few ids; every other id takes it from the nearest of its ancestors, which
`LanguageId.ancestors` lists from the id itself upwards. A script that is not the usual one of its language is never
dropped, so such an id has no ancestor in the usual script.
-/

namespace Glossa.LanguageId

/-- The languages that are usually written in another script than Latin, by script. -/
def usualScripts : List (String × List String) :=
  [("Arab", ["ar", "ckb", "fa", "ks", "lrc", "mzn", "ps", "sd", "ug", "ur"]),
   ("Armn", ["hy"]),
   ("Beng", ["as", "bn", "mni"]),
   ("Cakm", ["ccp"]),
   ("Cans", ["csw"]),
   ("Cher", ["chr"]),
   ("Cyrl",
    ["ba", "be", "bg", "bua", "ce", "cv", "kk", "ky", "mk", "mn", "os", "ru", "sah", "sr", "tg", "tt", "tyv", "uk"]),
   ("Deva", ["bgc", "bho", "brx", "doi", "hi", "kok", "mai", "mr", "ne", "raj", "sa", "xnr"]),
   ("Ethi", ["am", "ti"]),
   ("Geor", ["ka"]),
   ("Grek", ["el"]),
   ("Gujr", ["gu"]),
   ("Guru", ["pa"]),
   ("Hans", ["zh"]),
   ("Hant", ["yue"]),
   ("Hebr", ["he", "yi"]),
   ("Jpan", ["ja"]),
   ("Khmr", ["km"]),
   ("Knda", ["kn"]),
   ("Kore", ["ko"]),
   ("Laoo", ["lo"]),
   ("Mlym", ["ml"]),
   ("Mymr", ["my", "shn"]),
   ("Nkoo", ["nqo"]),
   ("Olck", ["sat"]),
   ("Orya", ["or"]),
   ("Sinh", ["si"]),
   ("Syrc", ["syr"]),
   ("Taml", ["ta"]),
   ("Telu", ["te"]),
   ("Tfng", ["shi", "zgh"]),
   ("Thai", ["th"]),
   ("Tibt", ["bo", "dz"]),
   ("Vaii", ["vai"]),
   ("Yiii", ["ii"])]

/-- The regions that write a language in another script than is usual for it. -/
def regionalScripts : List (String × String × List String) :=
  [("az", "Arab", ["IQ", "IR"]),
   ("az", "Cyrl", ["RU"]),
   ("ha", "Arab", ["CM", "SD"]),
   ("kk", "Arab", ["AF", "CN", "IR", "MN"]),
   ("ku", "Arab", ["IQ", "IR", "LB"]),
   ("ku", "Cyrl", ["AM", "AZ", "GE", "TM"]),
   ("ky", "Arab", ["CN"]),
   ("ky", "Latn", ["TR"]),
   ("mn", "Mong", ["CN"]),
   ("ms", "Arab", ["CC"]),
   ("pa", "Arab", ["PK"]),
   ("sd", "Deva", ["IN"]),
   ("sr", "Latn", ["ME", "RO", "TR"]),
   ("tg", "Arab", ["PK"]),
   ("ug", "Cyrl", ["KZ", "MN"]),
   ("uz", "Arab", ["AF"]),
   ("uz", "Cyrl", ["CN"]),
   ("yue", "Hans", ["CN"]),
   ("zh", "Hant", ["AU", "BN", "GB", "GF", "HK", "ID", "MO", "PA", "PF", "PH", "SR", "TH", "TW", "US", "VN"])]

/-- The ids that follow another id in place of their own language, by the id that they follow. -/
def followers : List (LanguageId × List String) :=
  [({ language := "en".toList, region := "IN".toList }, ["hi-Latn"]),
   ({ language := "es".toList, region := "419".toList },
    ["es-AR", "es-BO", "es-BR", "es-BZ", "es-CL", "es-CO", "es-CR", "es-CU", "es-DO", "es-EC", "es-GT", "es-HN",
     "es-JP", "es-MX", "es-NI", "es-PA", "es-PE", "es-PR", "es-PY", "es-SV", "es-US", "es-UY", "es-VE"]),
   ({ language := "fr".toList, region := "HT".toList }, ["ht"]),
   ({ language := "no".toList }, ["nb", "nn"]),
   ({ language := "pt".toList, region := "PT".toList },
    ["pt-AO", "pt-CH", "pt-CV", "pt-FR", "pt-GQ", "pt-GW", "pt-LU", "pt-MO", "pt-MZ", "pt-ST", "pt-TL"]),
   ({ language := "zh".toList, script := "Hant".toList, region := "HK".toList }, ["zh-Hant-MO"])]

/-- The script of a language in a region, where it differs from the usual one. -/
def regionalScript? (language region : Text) : Option Text :=
  (regionalScripts.find? fun (l, _, regions) => l.toList == language && regions.contains (String.ofList region)).map
    fun (_, script, _) => script.toList

/-- The script that a language is written in when no script is given. -/
def impliedScript (language region : Text) : Text :=
  ((regionalScript? language region).or ((usualScripts.find? fun (_, languages) =>
    languages.contains (String.ofList language)).map (·.1.toList))).getD ['L', 'a', 't', 'n']

/-- The id that an id follows. -/
def leader? (id : LanguageId) : Option LanguageId :=
  (followers.find? fun (_, ids) => ids.contains (String.ofList id.text)).map (·.1)

/-- The id without a script that is implied. -/
def withoutImpliedScript (id : LanguageId) : LanguageId :=
  if id.script = impliedScript id.language id.region then { id with script := [] } else id

/-- The id with its script, where the region has one of its own. -/
def withRegionalScript (id : LanguageId) : LanguageId :=
  if id.script = [] then { id with script := (regionalScript? id.language id.region).getD [] } else id

/-- The id itself and what is left of it as its parts are dropped: an implied script, the variant and the region. -/
def truncations (id : LanguageId) : List LanguageId :=
  let short := id.withoutImpliedScript
  let plain := { short with variant := [] }
  let full := plain.withRegionalScript
  [id, short, plain, full, { full with region := [] }]

/-- The ids that are asked in turn for what is known about an id, the id itself first. Where one of them follows another
id, the search goes on there. -/
def ancestors (id : LanguageId) : List LanguageId :=
  let own := id.truncations
  let above := own.dropWhile fun i => i.leader?.isNone
  match above with
  | [] => own
  | first :: _ => (own.takeWhile fun i => i.leader?.isNone) ++ first :: (first.leader?.elim [] truncations)

end Glossa.LanguageId
