import Glossa.Proofs.Page.Faults
import Glossa.Session.Step

/-!
# Questions leave no trace

Most steps of a session are questions: they leave the session as it was, also when they fail and however the pages are held
meanwhile (`step_of_isQuestion`). So questions can be put into a run anywhere and the other answers stay the same
(`questions_leave_no_trace`).
-/

namespace Glossa.Session

open Page (Directive)

/-! ## Runs -/

/-- The session after some steps. -/
def after (s : Session) (steps : List Step) : Session := steps.foldl (fun s step => (s.step step).2) s

theorem after_cons (s : Session) (step : Step) (steps : List Step) :
    s.after (step :: steps) = (s.step step).2.after steps := rfl

theorem run_cons (s : Session) (step : Step) (steps : List Step) :
    s.run (step :: steps) = (s.step step).1 :: (s.step step).2.run steps := rfl

/-! ## Questions -/

/-- The steps that only ask. Those that do not use the pages are the same however the pages are held. -/
def Step.isQuestion : Step → Bool
  | .has _ | .phrase _ _ _ | .number _ _ | .currency _ _ _ | .instant _ _ _ _ | .instantOf _ _ | .call _ _
  | .render _ _ _ | .translate _ _ => true
  | .set _ _ | .setCallable _ _ _ | .loadToml _ _ | .loadJson _ _ | .setDebug _ | .setData _ | .setDelimiters _ => false

/-- The delimiters of pages are changed for a translation and put back, whatever came of it. -/
theorem translate_snd (s : Session) (hold : Hold) (page : Text) : (s.translate hold page).2 = s := by
  rw [translate]
  split
  · rfl
  · rfl

theorem step_of_isQuestion (s : Session) {step : Step} (asks : step.isQuestion = true) : (s.step step).2 = s := by
  cases step with
  | instant category text pattern context =>
    rw [Session.step]
    split
    · rfl
    · rfl
  | instantOf text context =>
    rw [Session.step]
    split
    · rfl
    · rfl
  | translate hold page => exact s.translate_snd hold page
  | has | phrase | number | currency | call | render => rfl
  | set | setCallable | loadToml | loadJson | setDebug | setData | setDelimiters => cases asks

/-- A step of a run with questions put in. -/
inductive Turn where
  /-- A step of the run itself. -/
  | own (step : Step)
  /-- A question that was put in. -/
  | inserted (question : Step) (asks : question.isQuestion = true)

namespace Turn

/-- The step that is done. -/
def step : Turn → Step
  | own step => step
  | inserted question _ => question

/-- The step of the run itself. -/
def own? : Turn → Option Step
  | own step => some step
  | inserted _ _ => none

/-- The answers to the steps of the run itself, out of the answers to all. -/
def ownAnswers : List Turn → List Answer → List Answer
  | own _ :: turns, answer :: answers => answer :: ownAnswers turns answers
  | inserted _ _ :: turns, _ :: answers => ownAnswers turns answers
  | _, _ => []

end Turn

theorem ownAnswers_run (s : Session) (turns : List Turn) :
    Turn.ownAnswers turns (s.run (turns.map Turn.step)) = s.run (turns.filterMap Turn.own?) := by
  induction turns generalizing s with
  | nil => rfl
  | cons turn turns ih =>
    rw [List.map_cons, run_cons]
    cases turn with
    | own step => rw [Turn.ownAnswers, ih, List.filterMap_cons_some (by rfl), run_cons]; rfl
    | inserted question asks =>
      rw [Turn.ownAnswers, ih, List.filterMap_cons_none (by rfl), Turn.step, s.step_of_isQuestion asks]

/-! ## Delimiters -/

/-- The delimiters that a step sets. -/
def Step.delimiters? : Step → Option Delimiters
  | .setDelimiters d => some d
  | _ => none

theorem loaded_snd_delimiters (s : Session) (r : Except LoadFault Catalogue) :
    (s.loaded r).2.delimiters = s.delimiters := by
  cases r <;> rfl

theorem step_snd_delimiters (s : Session) (step : Step) :
    (s.step step).2.delimiters = step.delimiters?.getD s.delimiters := by
  by_cases asks : step.isQuestion = true
  · rw [s.step_of_isQuestion asks]
    cases step <;> first | rfl | cases asks
  · cases step with
    | set | setCallable | setDebug | setData | setDelimiters => rfl
    | loadToml | loadJson => exact s.loaded_snd_delimiters _
    | has | phrase | number | currency | instant | instantOf | call | render | translate => exact absurd rfl asks

theorem after_delimiters (s : Session) (steps : List Step) :
    (s.after steps).delimiters = (steps.filterMap Step.delimiters?).getLast?.getD s.delimiters := by
  induction steps generalizing s with
  | nil => rfl
  | cons step steps ih =>
    rw [after_cons, ih, step_snd_delimiters]
    cases set : step.delimiters? with
    | none => rw [List.filterMap_cons_none set, Option.getD_none]
    | some d => rw [List.filterMap_cons_some set, List.getLast?_cons, Option.getD_some, Option.getD_some]

/-! ## Pages that are in use -/

theorem evaluate_ne_busy (s : Session) (expression : Text) (context : Context) :
    s.evaluate expression context ≠ .error .busy := by
  intro busy
  rw [evaluate] at busy
  cases read : Expression.evaluate expression (s.known context) with
  | error f =>
    rw [read] at busy
    cases busy
  | ok x =>
    rw [read] at busy
    cases busy

theorem instantOf_ne_busy (s : Session) (text : Text) (context : Context) :
    s.instantOf text context ≠ .error .busy := by
  simp only [instantOf]
  split
  · simp
  · split
    · simp
    · split
      · simp
      · simp

theorem instant_ne_busy (s : Session) (c : Category) (text : Text) (pattern : Option Text) (context : Context) :
    s.instant c text pattern context ≠ .error .busy := by
  intro busy
  rw [instant] at busy
  split at busy
  · exact s.instantOf_ne_busy text context (Page.map_eq_error busy)
  · simp at busy

theorem call_ne_busy (s : Session) (name : Text) (arguments : Option Text) : s.call name arguments ≠ .error .busy := by
  simp only [call]
  split
  · simp
  · simp
  · simp

theorem directives_ne_busy (s : Session) {name : Text} {kind : Placeholder.Kind} {f : Directive Fault}
    (known : (name, kind, f) ∈ s.directives) (text : Text) (rest : Option Text) (context : Context) :
    f text rest context ≠ .error .busy := by
  rw [directives, List.mem_cons, List.mem_cons, List.mem_map] at known
  intro busy
  rcases known with same | same | ⟨c, -, same⟩
  · cases same
    exact s.evaluate_ne_busy text context (Page.map_eq_error busy)
  · cases same
    exact s.evaluate_ne_busy text context (Page.map_eq_error busy)
  · cases same
    exact s.instant_ne_busy c text rest context busy

/-- What pages can use never answers that the pages are in use: nothing of it renders a page. -/
theorem not_raises_busy (s : Session) : ¬ s.registry.Raises .busy := by
  rintro ⟨name, f, known, text, rest, context, busy⟩
  rw [List.mem_append] at known
  rcases known with known | known
  · rw [registry, List.mem_cons, List.mem_cons, List.mem_map] at known
    rcases known with same | same | ⟨⟨name', kind, f'⟩, among, same⟩
    · cases same
      cases busy
    · cases same
      exact s.call_ne_busy _ _ (Page.map_eq_error busy)
    · cases same
      exact s.directives_ne_busy among _ _ _ (Page.map_eq_error busy)
  · rw [registry, List.mem_map] at known
    obtain ⟨⟨name', kind, f'⟩, among, same⟩ := known
    cases same
    exact s.directives_ne_busy among _ _ _ busy

theorem fillPage_ne_busy (s : Session) (page : Text) (context : Context) : s.fillPage page context ≠ .error .busy :=
  fun busy => s.not_raises_busy (Page.raises_of_render busy)

theorem render_eq_busy_iff (s : Session) (hold : Hold) (page : Text) (context : Context) :
    s.render hold page context = .error .busy ↔ hold = .exclusive := by
  rw [render]
  split
  next held => exact ⟨fun _ => held, fun _ => rfl⟩
  next free => exact ⟨fun busy => absurd busy (s.fillPage_ne_busy _ _), fun held => absurd held free⟩

theorem translate_eq_busy_iff (s : Session) (hold : Hold) (page : Text) :
    (s.translate hold page).1 = .error .busy ↔ hold ≠ .free := by
  rw [translate]
  split
  next free => exact ⟨fun busy => absurd busy (fillPage_ne_busy _ _ _), fun held => absurd free held⟩
  next held => exact ⟨fun _ => held, fun _ => rfl⟩

/-! ## Sessions from their start -/

/-- A way to start a session. -/
inductive Opening where
  | direct (formatter : Formatter) (dates : DateReader) (now : Instant) (markers : Markers) (debug : Bool)
  | locale (tag : Text) (clientZone : Option Text) (now : Instant)
  | preference (header : Text) (clientZone : Option Text) (now : Instant)
  | settings (chosen : Settings) (now : Instant)

namespace Opening

/-- The session that is started. -/
def session : Opening → Session
  | direct formatter dates now markers debug => start formatter dates now markers debug
  | locale tag clientZone now => forLocale tag clientZone now
  | preference header clientZone now => forPreference header clientZone now
  | settings chosen now => forSettings chosen now

theorem session_delimiters (opening : Opening) : opening.session.delimiters = .page := by
  cases opening <;> rfl

end Opening

/-- However a session is started and whatever is done: questions that are put into a run change no other answer; the pages
have the delimiters that were set last; and a question to the pages is refused for their use just when they are held, for a
page that is filled in only when somebody changes them. -/
theorem questions_leave_no_trace (opening : Opening) :
    (∀ turns : List Turn,
      Turn.ownAnswers turns (opening.session.run (turns.map Turn.step)) =
        opening.session.run (turns.filterMap Turn.own?)) ∧
    ∀ steps : List Step,
      (opening.session.after steps).delimiters = (steps.filterMap Step.delimiters?).getLast?.getD .page ∧
      ∀ hold page,
        ((opening.session.after steps).translate hold page).2 = opening.session.after steps ∧
        (((opening.session.after steps).translate hold page).1 = .error .busy ↔ hold ≠ .free) ∧
        ∀ context, (opening.session.after steps).render hold page context = .error .busy ↔ hold = .exclusive := by
  refine ⟨ownAnswers_run opening.session, ?_⟩
  intro steps
  refine ⟨?_, ?_⟩
  · rw [after_delimiters, opening.session_delimiters]
  · intro hold page
    exact ⟨translate_snd _ hold page, translate_eq_busy_iff _ hold page, render_eq_busy_iff _ hold page⟩

end Glossa.Session
