import DirectoryName.Comparator
import DirectoryName.Draft
import DirectoryName.Shape
import DirectoryName.Writing

namespace DirectoryName

/-! Working on a name step by step.

A session holds a current name and a saved one, both the root at first. A step that
fails leaves the session as it was. -/

structure Session where
  current : Dn
  saved : Dn
deriving DecidableEq, Repr

namespace Session

def start : Session := ⟨.root, .root⟩

inductive Step where
  | parse (text : String) (flags : NameFlags)
  | ofJson (value : Json)
  /-- Moves to the name one component up, if there is one. -/
  | parent
  | prepend (avas : List Ava)
  | append (text : String) (flags : NameFlags)
  | build (flags : NameFlags)
  /-- Writes the name with one flag word and reads it with another. -/
  | rebuild (writing reading : NameFlags)
  | validate
  | display
  | save
  | swap
  | isAtOrBelowSaved
  | isSaved
  | equalsSaved (folded : List String)

/-- What a step has to say beside the new state. -/
inductive Answer where
  | done
  | truth (value : Bool)
  | text (value : String)
  /-- A name without a display form. -/
  | undisplayable
deriving DecidableEq, Repr

def step (session : Session) (step : Step) : Except NameError (Answer × Session) :=
  match step with
  | .parse text flags => do
      let name ← Dn.parseText text flags
      return (.done, { session with current := name })
  | .ofJson value => do
      let name ← Dn.ofJson value
      return (.done, { session with current := name })
  | .parent =>
      match session.current.parent? with
      | some name => .ok (.truth true, { session with current := name })
      | none => .ok (.truth false, session)
  | .prepend avas => do
      let name ← ((Draft.empty.rdn avas).suffix session.current).finish
      return (.done, { session with current := name })
  | .append text flags => do
      let base ← Dn.parseText text flags
      let name ← ((Draft.empty.suffix session.current).suffix base).finish
      return (.done, { session with current := name })
  | .build flags => do
      let text ← session.current.build flags
      return (.text text, session)
  | .rebuild writing reading => do
      let text ← session.current.build writing
      let name ← Dn.parseText text reading
      return (.text text, { session with current := name })
  | .validate => do
      session.current.validate
      return (.done, session)
  | .display =>
      match session.current.display? with
      | some text => .ok (.text text, session)
      | none => .ok (.undisplayable, session)
  | .save => .ok (.done, { session with saved := session.current })
  | .swap => .ok (.done, ⟨session.saved, session.current⟩)
  | .isAtOrBelowSaved => .ok (.truth (session.current.isAtOrBelow session.saved), session)
  | .isSaved => .ok (.truth (session.current == session.saved), session)
  | .equalsSaved folded =>
      .ok (.truth ((Comparator.folding folded).equal session.current session.saved), session)

/-- The state after a step, whether it succeeds or not. -/
def after (session : Session) (step : Step) : Session :=
  match session.step step with
  | .ok (_, next) => next
  | .error _ => session

end Session

end DirectoryName
