import Glossa.Locale.Ancestry
import Glossa.Locale.Basic
import Glossa.Locale.DecimalStyle
import Glossa.Locale.LanguageTag

/-!
# The directory of decimal styles

The styles of language ids, and the style of a locale. An id takes its style from the nearest ancestor that has one. A
numbering system asked for brings the marks that go with it if an ancestor has them, and else only its digits.
-/

namespace Glossa.DecimalStyle

/-- The styles other than the root style, each with the ids that write numbers so. -/
def directory : List (DecimalStyle × List String) :=
  [({ point := [','], separator := ['.'] },
    ["ast", "az", "az-Cyrl", "az-Latn", "bs", "bs-Cyrl", "ca", "da", "de", "dsb", "el", "en-AT", "en-BE", "en-DE",
     "en-DK", "en-ES", "en-ID", "en-IT", "en-NL", "en-PL", "en-RO", "en-SI", "es-AR", "es-BO", "es-CL", "es-CO",
     "es-EC", "es-PY", "es-UY", "es-VE", "fr-LU", "fr-MA", "fur", "fy", "gl", "hsb", "id", "is", "jgo", "jv", "kgp",
     "kkj", "kl", "ku", "ku-Latn", "lb", "lij", "ln", "lo", "lu", "mgh", "mk", "ms-BN", "ms-ID", "mua", "nds", "nl",
     "nnh", "pms", "pt", "qu-BO", "rn", "ro", "rw", "sc", "scn", "seh", "sg", "sr", "sr-Cyrl", "sr-Latn", "su",
     "sw-CD", "tr", "vi", "vmw", "wo", "yrl"]),
   ({ point := [','], separator := ['.'], groups := .atLeast 2 }, ["es", "ia", "it"]),
   ({ point := [','], separator := ['.'], minus := ['\u200e', '-'] }, ["ar-DZ", "ar-LY", "ar-MA", "ar-TN"]),
   ({ point := [','], separator := ['.'], minus := ['\u2212'] }, ["eu", "fo", "hr"]),
   ({ point := [','], separator := ['.'], minus := ['\u2212'], groups := .atLeast 2 }, ["sl"]),
   ({ point := [','], separator := ['\u00a0'], groups := { first := 2, later := 2 } }, ["tok"]),
   ({ point := [','], separator := ['\u00a0'] },
    ["af", "agq", "bas", "blo", "br", "bua", "cs", "cv", "de-AT", "dua", "dyo", "en-CZ", "en-FI", "en-HU", "en-NO",
     "en-PT", "en-SE", "en-SK", "en-ZA", "es-CR", "ewo", "ff", "fr-CA", "kab", "kea", "kk", "kk-Cyrl", "ksf", "ky",
     "nmg", "oc", "os", "prg", "pt-AO", "ru", "sah", "shi", "shi-Latn", "sk", "smn", "szl", "tg", "tk", "tt", "tzm",
     "uk", "uz", "uz-Cyrl", "uz-Latn", "yav", "zgh"]),
   ({ point := [','], separator := ['\u00a0'], groups := .atLeast 2 },
    ["be", "bg", "hu", "hy", "ie", "ka", "lv", "pl", "pt-PT", "ru-UA", "sq"]),
   ({ point := [','], separator := ['\u00a0'], minus := ['\u2212'] }, ["fi", "ksh", "lt", "no", "se", "sv"]),
   ({ point := [','], separator := ['\u00a0'], minus := ['\u2212'], groups := .atLeast 2 }, ["et"]),
   ({ point := [','], separator := ['\u2019'] }, ["lmo", "wae"]),
   ({ point := [','], separator := ['\u202f'] }, ["en-FR", "eo", "fr", "vec"]),
   ({ groups := .none }, ["en-US-posix"]),
   ({ groups := .indian },
    ["brx", "en-IN", "gu", "hi", "kok", "kok-Latn", "kxv", "kxv-Deva", "kxv-Orya", "kxv-Telu", "ml", "or", "pa",
     "pa-Guru", "ta", "te", "xnr"]),
   (root, ["es-419", "ta-MY", "ta-SG"]),
   ({ groups := .atLeast 3 }, ["ee"]),
   ({ minus := ['\u200e', '-'] }, ["ar", "he", "ur"]),
   ({ separator := ['\u00a0'] }, ["ba", "dje", "khq", "mfe", "ses", "twq", "tyv", "xh"]),
   ({ separator := ['\u2019'] }, ["de-CH", "de-LI", "en-CH", "tn"]),
   ({ separator := ['\u2019'], groups := .atLeast 2 }, ["it-CH"]),
   ({ separator := ['\u2019'], minus := ['\u2212'] }, ["gsw", "rm"]),
   ({ separator := ['\u2e41'], numbering := .decade "adlm" 0x1E950 }, ["ff-Adlm"]),
   ({ separator := ['\u066c'], minus := ['\u061c', '-'], numbering := .decade "arab" 0x660 }, ["sd", "sd-Arab"]),
   ({ point := ['\u066b'], separator := ['\u066c'], minus := ['\u061c', '-'], numbering := .decade "arab" 0x660 },
    ["ar-BH", "ar-DJ", "ar-EG", "ar-ER", "ar-IL", "ar-IQ", "ar-JO", "ar-KM", "ar-KW", "ar-LB", "ar-MR", "ar-OM",
     "ar-PS", "ar-QA", "ar-SA", "ar-SD", "ar-SO", "ar-SS", "ar-SY", "ar-TD", "ar-YE"]),
   ({ point := ['\u066b'], separator := ['\u066c'], minus := ['\u200f', '-'], numbering := .decade "arab" 0x660 },
    ["ckb"]),
   ({ point := ['\u066b'], separator := ['\u066c'], minus := ['\u200e', '-', '\u200e'],
      numbering := .decade "arabext" 0x6F0 },
    ["ks", "lrc", "mzn", "pa-Arab", "ps", "ur-IN", "uz-Arab"]),
   ({ point := ['\u066b'], separator := ['\u066c'], minus := ['\u200e', '\u2212'],
      numbering := .decade "arabext" 0x6F0 },
    ["fa"]),
   ({ groups := .indian, numbering := .decade "beng" 0x9E6 }, ["as", "bn"]),
   ({ numbering := .decade "beng" 0x9E6 }, ["mni"]),
   ({ groups := .indian, numbering := .decade "cakm" 0x11136 }, ["ccp"]),
   ({ groups := .indian, numbering := .decade "deva" 0x966 }, ["mr", "ne", "sa"]),
   ({ numbering := .decade "deva" 0x966 }, ["bgc", "bho", "raj"]),
   ({ numbering := .decade "mymr" 0x1040 }, ["my"]),
   ({ separator := ['\u060c'], numbering := .decade "nkoo" 0x7C0 }, ["nqo"]),
   ({ numbering := .decade "olck" 0x1C50 }, ["sat"]),
   ({ groups := .indian, numbering := .decade "tibt" 0xF20 }, ["dz"])]

/-- Styles that ids have for a second numbering system. -/
def seconds : List (DecimalStyle × List String) :=
  [({ point := [','], separator := ['.'], minus := ['\u200e', '-'] }, ["ar-LB", "ar-MR"]),
   ({ point := [','], separator := ['.'], minus := ['\u200e', '\u2212'] }, ["ps", "uz-Arab"]),
   (root, ["ckb", "lrc", "mzn", "sd", "sd-Arab"]),
   ({ minus := ['\u200e', '-'] }, ["pa-Arab"]),
   ({ minus := ['\u200e', '\u2212'] }, ["fa"]),
   ({ separator := ['\u060c'] }, ["ks"]),
   ({ point := ['\u066b'], separator := ['\u066c'], minus := ['\u061c', '-'], numbering := .decade "arab" 0x660 },
    ["ar"]),
   ({ point := ['\u066b'], separator := ['\u066c'], minus := ['\u200e', '-', '\u200e'],
      numbering := .decade "arabext" 0x6F0 },
    ["ug", "ur"]),
   ({ point := [','], separator := ['.'], numbering := .decade "khmr" 0x17E0 }, ["km"]),
   ({ numbering := .decade "telu" 0xC66 }, ["te"])]

/-- The style that an id has of its own. -/
def own? (id : LanguageId) : Option DecimalStyle :=
  (directory.find? fun (_, ids) => ids.contains (String.ofList id.text)).map (·.1)

/-- The style that an id has of its own for a numbering system. -/
def ownIn? (system : Text) (id : LanguageId) : Option DecimalStyle :=
  ((own? id).filter fun style => style.numbering.name.toList == system).or
    ((seconds.find? fun (style, ids) =>
      style.numbering.name.toList == system && ids.contains (String.ofList id.text)).map (·.1))

/-- The style of an id. -/
def ofId (id : LanguageId) : DecimalStyle := (id.ancestors.findSome? own?).getD root

/-- The style of an id with the digits of a numbering system. The digits stay if the system is not known. -/
def ofIdIn (system : Text) (id : LanguageId) : DecimalStyle :=
  let style := (id.ancestors.findSome? (ownIn? system)).getD (ofId id)
  { style with numbering := (Numbering.ofName? system).getD style.numbering }

/-- The style of a tag. -/
def ofLanguageTag (tag : LanguageTag) : DecimalStyle :=
  match tag.numbering with
  | some system => ofIdIn system tag.id
  | none => ofId tag.id

/-- The style of a locale. A tag that is not well formed counts as its language alone; if that is not well formed either,
there is no style. -/
def ofLocale? (l : Locale) : Option DecimalStyle :=
  let tag := l.tag.map fun c => if c = '_' then '-' else c
  ((LanguageTag.read? tag).or (LanguageTag.read? l.language)).map ofLanguageTag

end Glossa.DecimalStyle
