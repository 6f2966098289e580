import Glossa.Text.Basic

/-!
# Calendar names

The names of months, weekdays and halves of the day, by the name of the calendar. A calendar whose names are not kept
here is written in English.
-/

namespace Glossa

/-- The names that a calendar uses. Months start with January and weekdays with Monday. -/
structure CalendarNames where
  shortMonths : List String
  longMonths : List String
  shortDays : List String
  longDays : List String
  /-- The name of the hours before noon. -/
  morning : String
  /-- The name of the hours from noon on. -/
  afternoon : String

namespace CalendarNames

/-- The names of `POSIX`. -/
def posix : CalendarNames where
  shortMonths :=
    ["Jan", "Feb", "Mar", "Apr", "May", "Jun", "Jul", "Aug", "Sep", "Oct", "Nov", "Dec"]
  longMonths :=
    ["January", "February", "March", "April", "May", "June", "July", "August", "September", "October", "November",
     "December"]
  shortDays := ["Mon", "Tue", "Wed", "Thu", "Fri", "Sat", "Sun"]
  longDays :=
    ["Monday", "Tuesday", "Wednesday", "Thursday", "Friday", "Saturday", "Sunday"]
  morning := "AM"
  afternoon := "PM"

/-- The names of `ar_EG`. -/
def arEg : CalendarNames where
  shortMonths :=
    ["ينا", "فبر", "مار", "أبر", "ماي", "يون", "يول", "أغس", "سبت", "أكت", "نوف", "ديس"]
  longMonths :=
    ["يناير", "فبراير", "مارس", "أبريل", "مايو", "يونيو", "يوليو", "أغسطس", "سبتمبر", "أكتوبر", "نوفمبر", "ديسمبر"]
  shortDays := ["ن", "ث", "ر", "خ", "ج", "س", "ح"]
  longDays :=
    ["الاثنين", "الثلاثاء", "الأربعاء", "الخميس", "الجمعة", "السبت", "الأحد"]
  morning := "ص"
  afternoon := "م"

/-- The names of `bn_BD`. -/
def bnBd : CalendarNames where
  shortMonths :=
    ["জানু", "ফেব", "মার্চ", "এপ্রিল", "মে", "জুন", "জুলাই", "আগস্ট", "সেপ্টেম্বর", "অক্টোবর", "নভেম্বর",
     "ডিসেম্বর"]
  longMonths :=
    ["জানুয়ারী", "ফেব্রুয়ারী", "মার্চ", "এপ্রিল", "মে", "জুন", "জুলাই", "আগস্ট", "সেপ্টেম্বর", "অক্টোবর",
     "নভেম্বর", "ডিসেম্বর"]
  shortDays := ["সোম", "মঙ্গল", "বুধ", "বৃহঃ", "শুক্র", "শনি", "রবি"]
  longDays :=
    ["সোমবার", "মঙ্গলবার", "বুধবার", "বৃহস্পতিবার", "শুক্রবার", "শনিবার", "রবিবার"]
  morning := "পূর্বাহ্ণ"
  afternoon := "অপরাহ্ণ"

/-- The names of `cs_CZ`. -/
def csCz : CalendarNames where
  shortMonths :=
    ["led", "úno", "bře", "dub", "kvě", "čen", "čec", "srp", "zář", "říj", "lis", "pro"]
  longMonths :=
    ["ledna", "února", "března", "dubna", "května", "června", "července", "srpna", "září", "října", "listopadu",
     "prosince"]
  shortDays := ["Po", "Út", "St", "Čt", "Pá", "So", "Ne"]
  longDays :=
    ["Pondělí", "Úterý", "Středa", "Čtvrtek", "Pátek", "Sobota", "Neděle"]
  morning := "AM"
  afternoon := "PM"

/-- The names of `da_DK`. -/
def daDk : CalendarNames where
  shortMonths :=
    ["jan", "feb", "mar", "apr", "maj", "jun", "jul", "aug", "sep", "okt", "nov", "dec"]
  longMonths :=
    ["januar", "februar", "marts", "april", "maj", "juni", "juli", "august", "september", "oktober", "november",
     "december"]
  shortDays := ["man", "tir", "ons", "tor", "fre", "lør", "søn"]
  longDays :=
    ["mandag", "tirsdag", "onsdag", "torsdag", "fredag", "lørdag", "søndag"]
  morning := "AM"
  afternoon := "PM"

/-- The names of `de_AT`. -/
def deAt : CalendarNames where
  shortMonths :=
    ["Jän", "Feb", "Mär", "Apr", "Mai", "Jun", "Jul", "Aug", "Sep", "Okt", "Nov", "Dez"]
  longMonths :=
    ["Jänner", "Februar", "März", "April", "Mai", "Juni", "Juli", "August", "September", "Oktober", "November",
     "Dezember"]
  shortDays := ["Mo", "Di", "Mi", "Do", "Fr", "Sa", "So"]
  longDays :=
    ["Montag", "Dienstag", "Mittwoch", "Donnerstag", "Freitag", "Samstag", "Sonntag"]
  morning := "AM"
  afternoon := "PM"

/-- The names of `de_CH`. -/
def deCh : CalendarNames where
  shortMonths :=
    ["Jan", "Feb", "Mär", "Apr", "Mai", "Jun", "Jul", "Aug", "Sep", "Okt", "Nov", "Dez"]
  longMonths :=
    ["Januar", "Februar", "März", "April", "Mai", "Juni", "Juli", "August", "September", "Oktober", "November",
     "Dezember"]
  shortDays := ["Mo", "Di", "Mi", "Do", "Fr", "Sa", "So"]
  longDays :=
    ["Montag", "Dienstag", "Mittwoch", "Donnerstag", "Freitag", "Samstag", "Sonntag"]
  morning := "AM"
  afternoon := "PM"

/-- The names of `en_GB`. -/
def enGb : CalendarNames where
  shortMonths :=
    ["Jan", "Feb", "Mar", "Apr", "May", "Jun", "Jul", "Aug", "Sep", "Oct", "Nov", "Dec"]
  longMonths :=
    ["January", "February", "March", "April", "May", "June", "July", "August", "September", "October", "November",
     "December"]
  shortDays := ["Mon", "Tue", "Wed", "Thu", "Fri", "Sat", "Sun"]
  longDays :=
    ["Monday", "Tuesday", "Wednesday", "Thursday", "Friday", "Saturday", "Sunday"]
  morning := "am"
  afternoon := "pm"

/-- The names of `es_AR`. -/
def esAr : CalendarNames where
  shortMonths :=
    ["ene", "feb", "mar", "abr", "may", "jun", "jul", "ago", "sep", "oct", "nov", "dic"]
  longMonths :=
    ["enero", "febrero", "marzo", "abril", "mayo", "junio", "julio", "agosto", "septiembre", "octubre", "noviembre",
     "diciembre"]
  shortDays := ["lun", "mar", "mié", "jue", "vie", "sáb", "dom"]
  longDays :=
    ["lunes", "martes", "miércoles", "jueves", "viernes", "sábado", "domingo"]
  morning := "AM"
  afternoon := "PM"

/-- The names of `fa_IR`. -/
def faIr : CalendarNames where
  shortMonths :=
    ["ژانویه", "فوریه", "مارس", "آوریل", "مه", "ژوئن", "ژوئیه", "اوت", "سپتامبر", "اكتبر", "نوامبر", "دسامبر"]
  longMonths :=
    ["ژانویه", "فوریه", "مارس", "آوریل", "مه", "ژوئن", "ژوئیه", "اوت", "سپتامبر", "اكتبر", "نوامبر", "دسامبر"]
  shortDays := ["دوشنبه", "سه‌شنبه", "چهارشنبه", "پنجشنبه", "جمعه", "شنبه", "یکشنبه"]
  longDays :=
    ["دوشنبه", "سه‌شنبه", "چهارشنبه", "پنجشنبه", "جمعه", "شنبه", "یکشنبه"]
  morning := "AM"
  afternoon := "PM"

/-- The names of `fi_FI`. -/
def fiFi : CalendarNames where
  shortMonths :=
    ["tammi", "helmi", "maalis", "huhti", "touko", "kesä", "heinä", "elo", "syys", "loka", "marras", "joulu"]
  longMonths :=
    ["tammikuu", "helmikuu", "maaliskuu", "huhtikuu", "toukokuu", "kesäkuu", "heinäkuu", "elokuu", "syyskuu",
     "lokakuu", "marraskuu", "joulukuu"]
  shortDays := ["ma", "ti", "ke", "to", "pe", "la", "su"]
  longDays :=
    ["maanantai", "tiistai", "keskiviikko", "torstai", "perjantai", "lauantai", "sunnuntai"]
  morning := "AM"
  afternoon := "PM"

/-- The names of `fr_CA`. -/
def frCa : CalendarNames where
  shortMonths :=
    ["jan", "fév", "mar", "avr", "mai", "jun", "jui", "aoû", "sep", "oct", "nov", "déc"]
  longMonths :=
    ["janvier", "février", "mars", "avril", "mai", "juin", "juillet", "août", "septembre", "octobre", "novembre",
     "décembre"]
  shortDays := ["lun", "mar", "mer", "jeu", "ven", "sam", "dim"]
  longDays :=
    ["lundi", "mardi", "mercredi", "jeudi", "vendredi", "samedi", "dimanche"]
  morning := "AM"
  afternoon := "PM"

/-- The names of `fr_FR`. -/
def frFr : CalendarNames where
  shortMonths :=
    ["janv.", "févr.", "mars", "avril", "mai", "juin", "juil.", "août", "sept.", "oct.", "nov.", "déc."]
  longMonths :=
    ["janvier", "février", "mars", "avril", "mai", "juin", "juillet", "août", "septembre", "octobre", "novembre",
     "décembre"]
  shortDays := ["lun.", "mar.", "mer.", "jeu.", "ven.", "sam.", "dim."]
  longDays :=
    ["lundi", "mardi", "mercredi", "jeudi", "vendredi", "samedi", "dimanche"]
  morning := "AM"
  afternoon := "PM"

/-- The names of `he_IL`. -/
def heIl : CalendarNames where
  shortMonths :=
    ["ינו", "פבר", "מרץ", "אפר", "מאי", "יונ", "יול", "אוג", "ספט", "אוק", "נוב", "דצמ"]
  longMonths :=
    ["ינואר", "פברואר", "מרץ", "אפריל", "מאי", "יוני", "יולי", "אוגוסט", "ספטמבר", "אוקטובר", "נובמבר", "דצמבר"]
  shortDays := ["ב'", "ג'", "ד'", "ה'", "ו'", "ש'", "א'"]
  longDays :=
    ["שני", "שלישי", "רביעי", "חמישי", "שישי", "שבת", "ראשון"]
  morning := "AM"
  afternoon := "PM"

/-- The names of `hi_IN`. -/
def hiIn : CalendarNames where
  shortMonths :=
    ["जन॰", "फ़र॰", "मार्च", "अप्रैल", "मई", "जून", "जुल॰", "अग॰", "सित॰", "अक्तू॰", "नव॰", "दिस॰"]
  longMonths :=
    ["जनवरी", "फ़रवरी", "मार्च", "अप्रैल", "मई", "जून", "जुलाई", "अगस्त", "सितंबर", "अक्तूबर", "नवंबर", "दिसंबर"]
  shortDays := ["सोम", "मंगल", "बुध", "गुरु", "शुक्र", "शनि", "रवि"]
  longDays :=
    ["सोमवार", "मंगलवार", "बुधवार", "गुरुवार", "शुक्रवार", "शनिवार", "रविवार"]
  morning := "पूर्वाह्न"
  afternoon := "अपराह्न"

/-- The names of `hu_HU`. -/
def huHu : CalendarNames where
  shortMonths :=
    ["jan", "febr", "márc", "ápr", "máj", "jún", "júl", "aug", "szept", "okt", "nov", "dec"]
  longMonths :=
    ["január", "február", "március", "április", "május", "június", "július", "augusztus", "szeptember", "október",
     "november", "december"]
  shortDays := ["h", "k", "sze", "cs", "p", "szo", "v"]
  longDays :=
    ["hétfő", "kedd", "szerda", "csütörtök", "péntek", "szombat", "vasárnap"]
  morning := "AM"
  afternoon := "PM"

/-- The names of `it_CH`. -/
def itCh : CalendarNames where
  shortMonths :=
    ["gen", "feb", "mar", "apr", "mag", "giu", "lug", "ago", "set", "ott", "nov", "dic"]
  longMonths :=
    ["gennaio", "febbraio", "marzo", "aprile", "maggio", "giugno", "luglio", "agosto", "settembre", "ottobre",
     "novembre", "dicembre"]
  shortDays := ["lun", "mar", "mer", "gio", "ven", "sab", "dom"]
  longDays :=
    ["lunedì", "martedì", "mercoledì", "giovedì", "venerdì", "sabato", "domenica"]
  morning := "AM"
  afternoon := "PM"

/-- The names of `ja_JP`. -/
def jaJp : CalendarNames where
  shortMonths :=
    [" 1月", " 2月", " 3月", " 4月", " 5月", " 6月", " 7月", " 8月", " 9月", "10月", "11月", "12月"]
  longMonths :=
    ["1月", "2月", "3月", "4月", "5月", "6月", "7月", "8月", "9月", "10月", "11月", "12月"]
  shortDays := ["月", "火", "水", "木", "金", "土", "日"]
  longDays :=
    ["月曜日", "火曜日", "水曜日", "木曜日", "金曜日", "土曜日", "日曜日"]
  morning := "午前"
  afternoon := "午後"

/-- The names of `ko_KR`. -/
def koKr : CalendarNames where
  shortMonths :=
    [" 1월", " 2월", " 3월", " 4월", " 5월", " 6월", " 7월", " 8월", " 9월", "10월", "11월", "12월"]
  longMonths :=
    ["1월", "2월", "3월", "4월", "5월", "6월", "7월", "8월", "9월", "10월", "11월", "12월"]
  shortDays := ["월", "화", "수", "목", "금", "토", "일"]
  longDays :=
    ["월요일", "화요일", "수요일", "목요일", "금요일", "토요일", "일요일"]
  morning := "오전"
  afternoon := "오후"

/-- The names of `nb_NO`. -/
def nbNo : CalendarNames where
  shortMonths :=
    ["jan.", "feb.", "mars", "april", "mai", "juni", "juli", "aug.", "sep.", "okt.", "nov.", "des."]
  longMonths :=
    ["januar", "februar", "mars", "april", "mai", "juni", "juli", "august", "september", "oktober", "november",
     "desember"]
  shortDays := ["ma.", "ti.", "on.", "to.", "fr.", "lø.", "sø."]
  longDays :=
    ["mandag", "tirsdag", "onsdag", "torsdag", "fredag", "lørdag", "søndag"]
  morning := "AM"
  afternoon := "PM"

/-- The names of `nl_BE`. -/
def nlBe : CalendarNames where
  shortMonths :=
    ["jan", "feb", "mrt", "apr", "mei", "jun", "jul", "aug", "sep", "okt", "nov", "dec"]
  longMonths :=
    ["januari", "februari", "maart", "april", "mei", "juni", "juli", "augustus", "september", "oktober", "november",
     "december"]
  shortDays := ["ma", "di", "wo", "do", "vr", "za", "zo"]
  longDays :=
    ["maandag", "dinsdag", "woensdag", "donderdag", "vrijdag", "zaterdag", "zondag"]
  morning := "AM"
  afternoon := "PM"

/-- The names of `pl_PL`. -/
def plPl : CalendarNames where
  shortMonths :=
    ["sty", "lut", "mar", "kwi", "maj", "cze", "lip", "sie", "wrz", "paź", "lis", "gru"]
  longMonths :=
    ["stycznia", "lutego", "marca", "kwietnia", "maja", "czerwca", "lipca", "sierpnia", "września", "października",
     "listopada", "grudnia"]
  shortDays := ["pon", "wto", "śro", "czw", "pią", "sob", "nie"]
  longDays :=
    ["poniedziałek", "wtorek", "środa", "czwartek", "piątek", "sobota", "niedziela"]
  morning := "AM"
  afternoon := "PM"

/-- The names of `pt_BR`. -/
def ptBr : CalendarNames where
  shortMonths :=
    ["jan", "fev", "mar", "abr", "mai", "jun", "jul", "ago", "set", "out", "nov", "dez"]
  longMonths :=
    ["janeiro", "fevereiro", "março", "abril", "maio", "junho", "julho", "agosto", "setembro", "outubro",
     "novembro", "dezembro"]
  shortDays := ["seg", "ter", "qua", "qui", "sex", "sáb", "dom"]
  longDays :=
    ["segunda", "terça", "quarta", "quinta", "sexta", "sábado", "domingo"]
  morning := "AM"
  afternoon := "PM"

/-- The names of `ru_RU`. -/
def ruRu : CalendarNames where
  shortMonths :=
    ["янв", "фев", "мар", "апр", "мая", "июн", "июл", "авг", "сен", "окт", "ноя", "дек"]
  longMonths :=
    ["января", "февраля", "марта", "апреля", "мая", "июня", "июля", "августа", "сентября", "октября", "ноября",
     "декабря"]
  shortDays := ["Пн", "Вт", "Ср", "Чт", "Пт", "Сб", "Вс"]
  longDays :=
    ["Понедельник", "Вторник", "Среда", "Четверг", "Пятница", "Суббота", "Воскресенье"]
  morning := "AM"
  afternoon := "PM"

/-- The names of `sv_SE`. -/
def svSe : CalendarNames where
  shortMonths :=
    ["jan", "feb", "mar", "apr", "maj", "jun", "jul", "aug", "sep", "okt", "nov", "dec"]
  longMonths :=
    ["januari", "februari", "mars", "april", "maj", "juni", "juli", "augusti", "september", "oktober", "november",
     "december"]
  shortDays := ["mån", "tis", "ons", "tor", "fre", "lör", "sön"]
  longDays :=
    ["måndag", "tisdag", "onsdag", "torsdag", "fredag", "lördag", "söndag"]
  morning := "AM"
  afternoon := "PM"

/-- The names of `tr_TR`. -/
def trTr : CalendarNames where
  shortMonths :=
    ["Oca", "Şub", "Mar", "Nis", "May", "Haz", "Tem", "Ağu", "Eyl", "Eki", "Kas", "Ara"]
  longMonths :=
    ["Ocak", "Şubat", "Mart", "Nisan", "Mayıs", "Haziran", "Temmuz", "Ağustos", "Eylül", "Ekim", "Kasım", "Aralık"]
  shortDays := ["Pzt", "Sal", "Çrş", "Prş", "Cum", "Cts", "Paz"]
  longDays :=
    ["Pazartesi", "Salı", "Çarşamba", "Perşembe", "Cuma", "Cumartesi", "Pazar"]
  morning := "ÖÖ"
  afternoon := "ÖS"

/-- The names of `uk_UA`. -/
def ukUa : CalendarNames where
  shortMonths :=
    ["січ", "лют", "бер", "кві", "тра", "чер", "лип", "сер", "вер", "жов", "лис", "гру"]
  longMonths :=
    ["січня", "лютого", "березня", "квітня", "травня", "червня", "липня", "серпня", "вересня", "жовтня",
     "листопада", "грудня"]
  shortDays := ["пн", "вт", "ср", "чт", "пт", "сб", "нд"]
  longDays :=
    ["понеділок", "вівторок", "середа", "четвер", "п'ятниця", "субота", "неділя"]
  morning := "AM"
  afternoon := "PM"

/-- The names of `zh_CN`. -/
def zhCn : CalendarNames where
  shortMonths :=
    ["1月", "2月", "3月", "4月", "5月", "6月", "7月", "8月", "9月", "10月", "11月", "12月"]
  longMonths :=
    ["一月", "二月", "三月", "四月", "五月", "六月", "七月", "八月", "九月", "十月", "十一月", "十二月"]
  shortDays := ["一", "二", "三", "四", "五", "六", "日"]
  longDays :=
    ["星期一", "星期二", "星期三", "星期四", "星期五", "星期六", "星期日"]
  morning := "上午"
  afternoon := "下午"

/-- The calendars with names of their own. -/
def table : List (String × CalendarNames) :=
  [("POSIX", posix), ("ar_EG", arEg), ("bn_BD", bnBd), ("cs_CZ", csCz), ("da_DK", daDk), ("de_AT", deAt),
   ("de_CH", deCh), ("de_DE", deCh), ("en_AU", posix), ("en_CA", posix), ("en_GB", enGb), ("en_IN", posix),
   ("en_US", posix), ("en_ZA", posix), ("es_AR", esAr), ("es_ES", esAr), ("es_MX", esAr), ("fa_IR", faIr),
   ("fi_FI", fiFi), ("fr_CA", frCa), ("fr_CH", frCa), ("fr_FR", frFr), ("he_IL", heIl), ("hi_IN", hiIn),
   ("hu_HU", huHu), ("it_CH", itCh), ("it_IT", itCh), ("ja_JP", jaJp), ("ko_KR", koKr), ("nb_NO", nbNo),
   ("nl_BE", nlBe), ("nl_NL", nlBe), ("pl_PL", plPl), ("pt_BR", ptBr), ("pt_PT", ptBr), ("ru_RU", ruRu),
   ("sv_SE", svSe), ("tr_TR", trTr), ("uk_UA", ukUa), ("zh_CN", zhCn)]

/-- The names of a calendar. -/
def named (calendar : Text) : CalendarNames := (table.lookup (String.ofList calendar)).getD posix

/-- The name at a place of a list, counted from 0. -/
def nameAt (names : List String) (i : Nat) : Text := ((names[i]?).getD "").toList

end CalendarNames

end Glossa
