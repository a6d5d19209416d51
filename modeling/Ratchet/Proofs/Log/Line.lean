import Ratchet.Log.Span
import Ratchet.Proofs.Template.Layout
import Ratchet.Proofs.Value.Display

namespace Ratchet

/-!
# One line for a span

A line is made of the template's own text, the level, the message and the attributes
of the caller.  The message and the attributes are texts of others, and each is
brought onto one line by its own means: the message is escaped, the values of the
attributes are shown.  Only the names of the attributes stand as they are.

An empty template is no template.  Then the span's own JSON is written, which may
have any number of lines.
-/

namespace Span

open Template (Part)

/-! ## What the fields of a line stand for -/

/-- The text of the message, if it is one; the span's name if there is no message. -/
def messageText (span : Span) : String :=
  match span.attribute? messageAttribute with
  | some (.scalar (.text s)) => s
  | _ => span.name

/-- The text that a field of a line stands for, where messages are escaped. -/
def fieldText (span : Span) (severity : Int) (name : List Char) : List Char :=
  if name = "level".toList then (Level.ofSeverity severity).name.toList
  else (Text.escaped span.messageText).toList

/-- The attributes of the caller behind the bar. -/
def tail (span : Span) : String :=
  if span.userAttributes.isEmpty then "" else " │ " ++ attributeText span.userAttributes

/-- A line without the newline at its end. -/
def body (span : Span) (parts : List Part) (severity : Int) : String :=
  String.ofList (parts.flatMap (Part.drawn (span.fieldText severity))) ++ span.tail

/-- True of a part of a template for lines: text on one line, or the level or the
message in a layout that fills with no boundary. -/
def IsLinePart : Part → Prop
  | .text cs => Lines.Unbroken cs
  | .field name layout => (name = "level".toList ∨ name = "message".toList) ∧
      ∀ l ∈ layout, (∀ c ∈ l.width, c.isDigit = true) ∧
        ∀ c ∈ l.fill?, c ≠ '{' ∧ c ≠ '}' ∧ Lines.isBreak c = false

/-- The message of a span is a text or missing. -/
def HasText (span : Span) : Prop :=
  ∀ v ∈ span.attribute? messageAttribute, ∃ s, v = .text s

variable {span : Span} {sink : Config.Sink} {template : String} {part : Part} {parts : List Part}
  {severity : Int} {moment : Moment}

theorem shownMessage_escaped (hasText : span.HasText) :
    span.shownMessage true = .ok (.text (Text.escaped span.messageText)) := by
  unfold HasText at hasText
  rw [shownMessage, messageText]
  cases found : span.attribute? messageAttribute with
  | none => rfl
  | some v =>
    rcases hasText v found with ⟨s, rfl⟩
    rfl

theorem IsLinePart.proper (allowed : IsLinePart part) : part.Proper := by
  cases part with
  | text cs => trivial
  | field name layout =>
    rcases allowed with ⟨named, drawn⟩
    constructor
    · rcases named with rfl | rfl <;> simp
    · intro l inside
      rcases drawn l inside with ⟨digit, fill⟩
      exact ⟨digit, fun c there => ⟨(fill c there).1, (fill c there).2.1⟩⟩

/-- The fields of a line. -/
theorem subject_of_fields {names : Template.Names} (hasText : span.HasText)
    (start : span.moment = .ok moment) (number : span.severity = .ok severity)
    (shown : span.fields true = .ok names) {name : List Char}
    (named : name = "level".toList ∨ name = "message".toList) :
    Template.subject names name = .ok (.text (String.ofList (span.fieldText severity name))) := by
  simp only [fields, start, number, shownMessage_escaped hasText, bind, Except.bind, pure,
    Except.pure, Except.ok.injEq] at shown
  subst shown
  rcases named with rfl | rfl
  · have plain : Template.Field.plainName? ⟨"level".toList, none, []⟩ = some "level" := by
      decide +kernel
    rw [fieldText, if_pos rfl, String.ofList_toList]
    exact (Template.subject_of_plain plain rfl).2.2
  · have plain : Template.Field.plainName? ⟨"message".toList, none, []⟩ = some "message" := by
      decide +kernel
    rw [fieldText, if_neg (by decide +kernel), String.ofList_toList]
    exact (Template.subject_of_plain plain rfl).2.2

/-- How a template of such parts is filled. -/
theorem fill_cases {names : Template.Names} (hasText : span.HasText)
    (start : span.moment = .ok moment) (number : span.severity = .ok severity)
    (shown : span.fields true = .ok names) (written : template.toList = parts.flatMap Part.written)
    (allowed : ∀ part ∈ parts, IsLinePart part) :
    (∀ part ∈ parts, part.Drawable) ∧ Template.fill names template =
        .ok (String.ofList (parts.flatMap (Part.drawn (span.fieldText severity)))) ∨
      (¬ ∀ part ∈ parts, part.Drawable) ∧ ∃ error,
        Template.fill names template = .error (.format error) := by
  have known (name : List Char) (layout : Option Template.Layout)
      (inside : .field name layout ∈ parts) :
      Template.subject names name = .ok (.text (String.ofList (span.fieldText severity name))) :=
    subject_of_fields hasText start number shown (allowed (.field name layout) inside).1
  have whole : Template.fill names template =
      (Template.fillPieces (Template.fillWithin (Template.subject names) 1) (Template.subject names)
        (Template.piecesWithin template.toList.length template.toList) []).map String.ofList := rfl
  rw [whole, written]
  rcases Template.fillPieces_parts (fun part inside => (allowed part inside).proper) known
      (Nat.le_refl _) [] with ⟨drawable, filled⟩ | ⟨notDrawable, error, fails⟩
  · exact Or.inl ⟨drawable, by rw [filled]; rfl⟩
  · exact Or.inr ⟨notDrawable, error, by rw [fails]; rfl⟩

theorem exists_fields (hasText : span.HasText) (start : span.moment = .ok moment)
    (number : span.severity = .ok severity) : ∃ names, span.fields true = .ok names := by
  rw [fields, start, number, shownMessage_escaped hasText]
  exact ⟨_, rfl⟩

/-- The line of a span that has a moment and a level. -/
theorem line_cases (escaped : sink.escaped = true) (form : sink.template = some template)
    (more : template ≠ "") (written : template.toList = parts.flatMap Part.written)
    (allowed : ∀ part ∈ parts, IsLinePart part) (hasText : span.HasText)
    (start : span.moment = .ok moment) (number : span.severity = .ok severity) :
    (∀ part ∈ parts, part.Drawable) ∧ span.line sink = .ok (span.body parts severity ++ "\n") ∨
      (¬ ∀ part ∈ parts, part.Drawable) ∧ ∃ failure, span.line sink = .error failure := by
  rcases exists_fields hasText start number with ⟨names, shown⟩
  unfold line
  rw [form]
  split
  · next none => cases none
  · next empty => exact absurd (Option.some.inj empty) more
  · next other _ same =>
    cases same
    rw [escaped, shown]
    rcases fill_cases hasText start number shown written allowed with
      ⟨drawable, filled⟩ | ⟨notDrawable, error, fails⟩
    · refine Or.inl ⟨drawable, ?_⟩
      simp only [bind, Except.bind, filled]
      rw [body, tail]
      split
      · rw [String.append_empty]
        rfl
      · rw [← String.append_assoc]
        rfl
    · refine Or.inr ⟨notDrawable, .template (.format error), ?_⟩
      simp only [bind, Except.bind, fails]
      rfl

/-- Without a moment or a level there is no line. -/
theorem line_of_fields_error (escaped : sink.escaped = true) (form : sink.template = some template)
    (more : template ≠ "") {failure : Failure} (fails : span.fields true = .error failure) :
    span.line sink = .error failure := by
  unfold line
  rw [form]
  split
  · next none => cases none
  · next empty => exact absurd (Option.some.inj empty) more
  · rw [escaped, fails]
    rfl

/-! ## No boundary -/

theorem unbroken_fieldText (severity : Int) (name : List Char) :
    Lines.Unbroken (span.fieldText severity name) := by
  rw [fieldText]
  split
  · cases Level.ofSeverity severity <;> decide +kernel
  · exact Text.unbroken_escaped span.messageText

theorem IsLinePart.unbroken_drawn (allowed : IsLinePart part) :
    Lines.Unbroken (part.drawn (span.fieldText severity)) := by
  cases part with
  | text cs => exact allowed
  | field name layout =>
    cases layout with
    | none => exact unbroken_fieldText severity name
    | some l =>
      refine Template.Layout.unbroken_drawn ?_ (unbroken_fieldText severity name)
      rw [Template.Layout.filling]
      cases fill : l.fill? with
      | none =>
        rw [Option.getD_none]
        split <;> decide
      | some c => exact ((allowed.2 l rfl).2 c fill).2.2

theorem unbroken_tail (named : ∀ entry ∈ span.userAttributes, Text.Unbroken entry.1) :
    Text.Unbroken span.tail := by
  rw [tail]
  split
  · decide
  · refine Text.unbroken_append.mpr ⟨by decide +kernel, Text.unbroken_join (by decide) ?_⟩
    refine List.forall_mem_map.mpr fun entry inside => ?_
    refine Text.unbroken_append.mpr ⟨Text.unbroken_append.mpr ⟨named entry inside, by decide⟩, ?_⟩
    exact Value.unbroken_shown entry.2

theorem unbroken_body (allowed : ∀ part ∈ parts, IsLinePart part)
    (named : ∀ entry ∈ span.userAttributes, Text.Unbroken entry.1) :
    Text.Unbroken (span.body parts severity) := by
  refine Text.unbroken_append.mpr ⟨Text.unbroken_ofList.mpr ?_, unbroken_tail named⟩
  exact Lines.unbroken_flatMap fun part inside => (allowed part inside).unbroken_drawn

/-! ## Lines -/

/-- Where messages are escaped, a template of text on one line, the level and the
message gives every span exactly one line, whatever the message and the attributes
are: the only boundary is the newline at its end.  There is such a line for every
span with a moment and a level, unless a layout is none for texts. -/
theorem line_unbroken (escaped : sink.escaped = true) (form : sink.template = some template)
    (more : template ≠ "") (written : template.toList = parts.flatMap Part.written)
    (allowed : ∀ part ∈ parts, IsLinePart part) (hasText : span.HasText)
    (named : ∀ entry ∈ span.userAttributes, Text.Unbroken entry.1) :
    (∀ text, span.line sink = .ok text → ∃ line, text = line ++ "\n" ∧ Text.Unbroken line ∧
        Text.lines text = [line]) ∧
      ((∀ part ∈ parts, part.Drawable) → span.line sink = do
        let _ ← span.moment
        let severity ← span.severity
        pure (span.body parts severity ++ "\n")) := by
  cases start : span.moment with
  | error failure =>
    have fails : span.line sink = .error failure :=
      line_of_fields_error escaped form more (by rw [fields, start]; rfl)
    exact ⟨fun text done => (nomatch fails.symm.trans done), fun _ => fails⟩
  | ok moment =>
    cases number : span.severity with
    | error failure =>
      have fails : span.line sink = .error failure :=
        line_of_fields_error escaped form more (by rw [fields, start, number]; rfl)
      exact ⟨fun text done => (nomatch fails.symm.trans done), fun _ => fails⟩
    | ok severity =>
      rcases line_cases escaped form more written allowed hasText start number with
        ⟨drawable, done⟩ | ⟨notDrawable, failure, fails⟩
      · constructor
        · intro text same
          cases done.symm.trans same
          have unbroken : Text.Unbroken (span.body parts severity) := unbroken_body allowed named
          exact ⟨_, rfl, unbroken, Text.lines_of_unbroken unbroken⟩
        · exact fun _ => done
      · exact ⟨fun text done => (nomatch fails.symm.trans done),
          fun drawable => absurd drawable notDrawable⟩

/-- A message and an attribute with boundaries of several kinds, behind a level in the
middle of its field and the message in a field that it does not fill. -/
theorem line_unbroken_boundaries :
    let sink : Config.Sink :=
      { enabled := true, escaped := true, template := some "\x7blevel:*^7\x7d \x7b\x7b\x7bmessage:<40\x7d" }
    let span : Span :=
      { name := "x"
        attributes := [(messageAttribute, .text "one\ntwo\u2028three\r\n"),
          ("files", .list [.text "a\nb", .int 2, .bool true])] }
    let parts : List Part :=
      [.field "level".toList (some { side := some (some '*', .center), width := ['7'] }),
        .text [' ', '\x7b'],
        .field "message".toList (some { side := some (none, .left), width := ['4', '0'] })]
    (∀ text, span.line sink = .ok text → ∃ line, text = line ++ "\n" ∧ Text.Unbroken line ∧
        Text.lines text = [line]) ∧
      span.line sink = (do
        let _ ← span.moment
        let severity ← span.severity
        pure (span.body parts severity ++ "\n")) := by
  intro sink span parts
  have written : "\x7blevel:*^7\x7d \x7b\x7b\x7bmessage:<40\x7d".toList =
      parts.flatMap Part.written := by decide +kernel
  have allowed : ∀ part ∈ parts, IsLinePart part := by
    refine List.forall_mem_cons.mpr ⟨⟨Or.inl rfl, ?_⟩, List.forall_mem_cons.mpr ⟨?_,
      List.forall_mem_singleton.mpr ⟨Or.inr rfl, ?_⟩⟩⟩
    · rintro l ⟨⟩
      refine ⟨List.forall_mem_singleton.mpr (by decide), ?_⟩
      rintro c ⟨⟩
      decide
    · exact (by decide : Lines.Unbroken [' ', '{'])
    · rintro l ⟨⟩
      refine ⟨List.forall_mem_cons.mpr ⟨by decide, List.forall_mem_singleton.mpr (by decide)⟩, ?_⟩
      rintro c ⟨⟩
  have hasText : span.HasText := by
    rintro v ⟨⟩
    exact ⟨_, rfl⟩
  have named : ∀ entry ∈ span.userAttributes, Text.Unbroken entry.1 := by
    intro entry inside
    have each : ∀ entry ∈ span.attributes, Text.Unbroken entry.1 := by decide +kernel
    exact each entry (List.mem_filter.mp (List.mem_mergeSort.mp inside)).1
  have drawable : ∀ part ∈ parts, part.Drawable := by decide +kernel
  have form : sink.template = some "\x7blevel:*^7\x7d \x7b\x7b\x7bmessage:<40\x7d" := rfl
  rcases line_unbroken rfl form (by decide) written allowed hasText named with ⟨one, line⟩
  exact ⟨one, line drawable⟩

/-- An empty template is made of no parts at all; the JSON of the span is written then,
with all its lines. -/
theorem line_of_empty_template :
    let sink : Config.Sink := { enabled := true, escaped := true, template := some "" }
    let span : Span := { name := "x", json := "\x7b\n    \"name\": \"x\"\n\x7d" }
    "".toList = ([] : List Part).flatMap Part.written ∧
      span.line sink = .ok "\x7b\n    \"name\": \"x\"\n\x7d\n" ∧
      Text.lines "\x7b\n    \"name\": \"x\"\n\x7d\n" = ["\x7b", "    \"name\": \"x\"", "\x7d"] := by
  intro sink span
  exact ⟨rfl, rfl, by decide +kernel⟩

end Span

end Ratchet
