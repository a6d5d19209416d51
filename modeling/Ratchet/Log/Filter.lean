import Ratchet.Log.Span

namespace Ratchet

/-!
# Filtering by level

What a sink passes on of the batches it is handed: the spans at or above its
level.  An empty batch is never passed on, and counts as taken.  Everything else
that an exporter is told to do is passed on as it is.
-/

/-- What takes spans: a log file, say. -/
structure Exporter (m : Type → Type) where
  /-- Takes a batch, and says whether it could. -/
  take : List Span → m Bool
  shutDown : m Unit
  /-- Gets rid of what is held back within some milliseconds, and says whether it
  could. -/
  flush : Int → m Bool

namespace LevelFilter

/-- True of a span at or above a number. -/
def reaches (minimum : Int) (span : Span) : Bool :=
  match span.severity with
  | .ok n => minimum ≤ n
  | .error _ => false

/-- The spans of a batch at or above a level. -/
def wanted (level : String) (batch : List Span) : List Span :=
  batch.filter (reaches (Level.ofName level).severity)

/-- What is passed on of a batch. -/
def passOn (level : String) (batch : List Span) : Option (List Span) :=
  match wanted level batch with
  | [] => none
  | spans => some spans

/-- What is passed on of one batch after the other. -/
def passAll (level : String) (batches : List (List Span)) : List (List Span) :=
  batches.filterMap (passOn level)

end LevelFilter

namespace Exporter

/-- The milliseconds that an exporter has for flushing if nothing is said. -/
def usualTimeout : Int := 30000

/-- An exporter before which the spans below a level are left out. -/
def above {m : Type → Type} [Pure m] (level : String) (inner : Exporter m) : Exporter m where
  take batch :=
    match LevelFilter.passOn level batch with
    | some spans => inner.take spans
    | none => pure true
  shutDown := inner.shutDown
  flush := inner.flush

end Exporter

end Ratchet
