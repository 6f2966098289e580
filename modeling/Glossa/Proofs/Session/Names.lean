import Glossa.Proofs.Page.Names
import Glossa.Session.Pages

/-!
# Names that sessions read

Whatever a page can use in a session looks up only names that stand in what it is given (`registry_readsGiven`). So a page
shows the same with any value of a name that stands in none of the texts which its rendering looks into
(`render_of_unread_name`). The page itself is not the only one of these: `render_reads_name_of_value` has a page that reads a
name which it does not hold.
-/

namespace Glossa

variable {name : Text} {a b : Context}

namespace Expression

theorem fold_congr (value : Float) (pending : Text) {words : List Text}
    (same : ∀ word ∈ words, a.resolve word = b.resolve word) : fold a value pending words = fold b value pending words := by
  induction words generalizing value pending with
  | nil => rfl
  | cons word words ih =>
    have later := fun value pending => ih value pending fun w among => same w (List.mem_cons_of_mem _ among)
    rw [fold, fold, same word (List.mem_cons_self ..)]
    simp only [later]

theorem evaluate_of_sameBut (same : a.SameBut name b) {s : Text} (absent : ¬ name <:+: s) : evaluate s a = evaluate s b :=
  fold_congr _ _ fun _ among => same.resolve_eq absent (Text.infix_of_mem_words among)

end Expression

namespace Session

open Page (Directive HoldsNoElement)

/-! ## Answers -/

section Answers

variable (s : Session) (same : a.SameBut name b) {text : Text}

include same

theorem known_sameBut : (s.known a).SameBut name (s.known b) := same.merge s.data

theorem evaluate_of_sameBut (absent : ¬ name <:+: text) : s.evaluate text a = s.evaluate text b := by
  rw [evaluate, evaluate, Expression.evaluate_of_sameBut (s.known_sameBut same) absent]

theorem number_of_sameBut (absent : ¬ name <:+: text) : s.number text a = s.number text b := by
  rw [number, number, s.evaluate_of_sameBut same absent]

theorem resolve_trim_of_sameBut (absent : ¬ name <:+: text) :
    (s.known a).resolve text.trim = (s.known b).resolve text.trim :=
  (s.known_sameBut same).resolve_eq absent (Text.trim_infix text)

/-- What may be given or not. -/
theorem map_resolve_of_sameBut {given : Option Text} (absent : ∀ t ∈ given, ¬ name <:+: t) :
    given.map (fun t => (s.known a).resolve t.trim) = given.map fun t => (s.known b).resolve t.trim :=
  Option.map_congr fun t here => s.resolve_trim_of_sameBut same (absent t here)

theorem currency_of_sameBut {code : Option Text} (absent : ¬ name <:+: text) (absent_code : ∀ t ∈ code, ¬ name <:+: t) :
    s.currency text code a = s.currency text code b := by
  simp only [currency, s.evaluate_of_sameBut same absent, s.map_resolve_of_sameBut same absent_code]

theorem instantOf_of_sameBut (absent : ¬ name <:+: text) : s.instantOf text a = s.instantOf text b := by
  rw [instantOf, instantOf, s.resolve_trim_of_sameBut same absent]

theorem instant_of_sameBut (c : Category) (pattern : Option Text) (absent : ¬ name <:+: text) :
    s.instant c text pattern a = s.instant c text pattern b := by
  rw [instant, instant, s.instantOf_of_sameBut same absent]

theorem phrase_of_sameBut (key : Text) {count : Option Text} (absent : ∀ t ∈ count, ¬ name <:+: t) :
    s.phrase key count a = s.phrase key count b := by
  simp only [phrase, s.map_resolve_of_sameBut same absent]

end Answers

/-! ## What pages can use -/

theorem wrapped_readsGiven (kind : Placeholder.Kind) {f : Directive Fault} (reads : f.ReadsGiven) :
    (wrapped kind f).ReadsGiven := by
  intro name a b same text rest absent absent_rest
  rw [wrapped, wrapped, reads same text rest absent absent_rest]

theorem directives_readGiven (s : Session) {name : Text} {kind : Placeholder.Kind} {f : Directive Fault}
    (known : (name, kind, f) ∈ s.directives) : f.ReadsGiven := by
  rw [directives, List.mem_cons, List.mem_cons, List.mem_map] at known
  intro other a b same text rest absent absent_rest
  rcases known with equal | equal | ⟨c, -, equal⟩
  · cases equal
    exact s.number_of_sameBut same absent
  · cases equal
    exact s.currency_of_sameBut same absent absent_rest
  · cases equal
    exact s.instant_of_sameBut same c rest absent

theorem registry_readsGiven (s : Session) : s.registry.ReadsGiven := by
  intro name f known
  rw [List.mem_append] at known
  rcases known with known | known
  · rw [registry, List.mem_cons, List.mem_cons, List.mem_map] at known
    rcases known with equal | equal | ⟨⟨other, kind, g⟩, among, equal⟩
    · cases equal
      intro other a b same text rest absent absent_rest
      exact congrArg Except.ok (s.phrase_of_sameBut same text absent_rest)
    · cases equal
      intro other a b same text rest absent absent_rest
      rfl
    · cases equal
      exact wrapped_readsGiven kind (s.directives_readGiven among)
  · rw [registry, List.mem_map] at known
    obtain ⟨⟨other, kind, g⟩, among, equal⟩ := known
    cases equal
    exact s.directives_readGiven among

/-! ## Pages -/

/-- Two contexts that differ in one name fill in a page alike, if the name stands in no text that the rendering looks into: not
in the page, not in the text of an element whose slots have been filled, not in the page whose elements have been rewritten.
For a page without elements it is enough that the name does not stand in the page. -/
theorem render_of_unread_name (s : Session) (hold : Hold) (page : Text) (same : a.SameBut name b) :
    ((∀ t, s.registry.LooksInto s.delimiters (s.known a) page t → ¬ name <:+: t) →
      s.render hold page a = s.render hold page b) ∧
    (HoldsNoElement page → ¬ name <:+: page → s.render hold page a = s.render hold page b) := by
  have rendered : (∀ t, s.registry.LooksInto s.delimiters (s.known a) page t → ¬ name <:+: t) →
      s.render hold page a = s.render hold page b := by
    intro absent
    rw [render, render, fillPage, fillPage,
      Page.Registry.render_of_sameBut s.registry_readsGiven (s.known_sameBut same) absent]
  refine ⟨rendered, ?_⟩
  intro plain absent
  apply rendered
  intro t looks
  rwa [Page.Registry.eq_of_looksInto plain looks]

/-- A page with an element and one without, neither of which shows the value that differs. -/
theorem render_of_unread_name_beside_others :
    ∃ (s : Session) (page plain name : Text) (a b : Context), a.SameBut name b ∧ a.get? name ≠ b.get? name ∧
      (∀ t, s.registry.LooksInto s.delimiters (s.known a) page t → ¬ name <:+: t) ∧
      s.render .free page a = .ok "<b>1</b>: yes".toList ∧ s.render .free page b = .ok "<b>1</b>: yes".toList ∧
      HoldsNoElement plain ∧ ¬ name <:+: plain ∧ s.render .free plain a = s.render .free plain b := by
  let s : Session := forLocale "en-US".toList none 0
  let page := "<b i18n-number>\x7b\x7b x \x7d\x7d</b>: \x7b\x7b y \x7d\x7d".toList
  let plain := "\x7b\x7b y \x7d\x7d".toList
  let shared := [("x".toList, Value.text "1".toList), ("y".toList, Value.text "yes".toList)]
  let a : Context := ⟨("k".toList, .text "1".toList) :: shared⟩
  let b : Context := ⟨("k".toList, .text "2".toList) :: shared⟩
  have same : a.SameBut "k".toList b := .of_value
  have filled : ∀ e ∈ Page.elements page,
      Page.fillSlots s.delimiters (s.registry.fill (s.known a)) e.body = .ok "1".toList := by
    decide +kernel
  have rewritten : Page.rewriteElements (s.registry.rewrite s.delimiters (s.known a)) page =
      .ok "<b>1</b>: \x7b\x7b y \x7d\x7d".toList := by
    decide +kernel
  have absent : ∀ t, s.registry.LooksInto s.delimiters (s.known a) page t → ¬ "k".toList <:+: t := by
    intro t looks
    cases looks with
    | page => decide +kernel
    | body among known closed done =>
      rw [filled _ among] at done
      cases done
      decide
    | rewritten done =>
      rw [rewritten] at done
      cases done
      decide +kernel
  have plain_page : HoldsNoElement plain := by
    decide +kernel
  have plain_absent : ¬ "k".toList <:+: plain := by
    decide +kernel
  have shown : s.render .free page a = .ok "<b>1</b>: yes".toList := by
    decide +kernel
  have alike := (render_of_unread_name s .free page same).1 absent
  have alike_plain := (render_of_unread_name s .free plain same).2 plain_page plain_absent
  refine ⟨s, page, plain, "k".toList, a, b, same, ?_, absent, shown, alike ▸ shown, plain_page, plain_absent, alike_plain⟩
  simp [a, b, Context.get?]

/-- The value of a name that the page holds is the name of another value, and the directive reads that. -/
theorem render_reads_name_of_value :
    ∃ (s : Session) (page name : Text) (a b : Context), s.data = .empty ∧ a.SameBut name b ∧ ¬ name <:+: page ∧
      s.render .free page a = .ok "<b>1</b>".toList ∧ s.render .free page b = .ok "<b>2</b>".toList := by
  let s : Session := forLocale "en-US".toList none 0
  let page := "<b i18n-number>\x7b\x7b x \x7d\x7d</b>".toList
  let shared := [("x".toList, Value.text "k".toList)]
  let a : Context := ⟨("k".toList, .text "1".toList) :: shared⟩
  let b : Context := ⟨("k".toList, .text "2".toList) :: shared⟩
  have absent : ¬ "k".toList <:+: page := by
    decide +kernel
  refine ⟨s, page, "k".toList, a, b, rfl, .of_value, absent, ?_, ?_⟩
  · decide +kernel
  · decide +kernel

end Session

end Glossa
