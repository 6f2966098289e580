import Glossa.Text.Basic

/-!
# Delimiters

The pair of texts between which a page marks what is to be filled in. Something that holds delimiters can use others for a
while: `withDelimiters` puts the old ones back whatever happened in between, as `get_withDelimiters` says.
-/

namespace Glossa

/-- A pair of delimiters. -/
structure Delimiters where
  opening : Text
  closing : Text
deriving DecidableEq, Repr

namespace Delimiters

/-- The delimiters of pages. -/
def page : Delimiters := ⟨['\x7b', '\x7b'], ['\x7d', '\x7d']⟩

/-- The delimiters of phrases. -/
def phrase : Delimiters := ⟨"<t>".toList, "</t>".toList⟩

/-- A text between delimiters. -/
def around (d : Delimiters) (inner : Text) : Text := d.opening ++ inner ++ d.closing

end Delimiters

/-- A type of things that hold delimiters. -/
class HoldsDelimiters (σ : Type) where
  /-- The delimiters. -/
  get : σ → Delimiters
  /-- The same thing with other delimiters. -/
  set : Delimiters → σ → σ
  /-- The delimiters are those of the last change. -/
  get_set : ∀ d s, get (set d s) = d

namespace HoldsDelimiters

variable {σ α : Type} [HoldsDelimiters σ]

/-- Runs `body` with other delimiters and puts the old ones back. -/
def withDelimiters (d : Delimiters) (body : σ → α × σ) (s : σ) : α × σ :=
  let (a, s') := body (set d s)
  (a, set (get s) s')

theorem get_withDelimiters (d : Delimiters) (body : σ → α × σ) (s : σ) :
    get (withDelimiters d body s).2 = get s := get_set _ _

/-- Changes nested in one another: each is announced by `enter` once it is made, and by `leave` when those inside it have
been taken back. -/
def nested (enter leave : σ → α) : List Delimiters → σ → List α × σ
  | [], s => ([], s)
  | d :: ds, s =>
    withDelimiters d
      (fun s =>
        let (seen, s') := nested enter leave ds s
        (enter s :: seen ++ [leave s'], s'))
      s

end HoldsDelimiters

/-! ## A record of changes -/

/-- Delimiters with the row of all changes made to them. -/
structure DelimiterLog where
  current : Delimiters
  /-- The changes, the first one first. -/
  history : List Delimiters
deriving DecidableEq, Repr

namespace DelimiterLog

/-- Delimiters that have not been changed. -/
def start (d : Delimiters) : DelimiterLog := ⟨d, []⟩

instance : HoldsDelimiters DelimiterLog where
  get log := log.current
  set d log := ⟨d, log.history ++ [d]⟩
  get_set _ _ := rfl

end DelimiterLog

end Glossa
