import DelegatedScopes.Scope.Activation

/-!
# Scope — templates

The scopes of a role are templates.  The placeholder `<..>` stands for what the activating scope
captured.  An exact capture replaces every placeholder.  An open capture is only the beginning of
the value, so the rendered scope keeps the template up to the first placeholder, adds the capture
and a wildcard, and drops the rest.

* `Template`: a template cut at its placeholders.
* `Template.parse`, `Template.render`: cutting a text, and filling in a capture.
* `substitute`: the same on the text itself, by search and replacement.
* `wellFormed`: no half of a marker is left once every placeholder is removed.
-/

namespace DelegatedScopes

/-- A template cut at its placeholders: the text before the first one, and the text after each. -/
structure Template where
  lead : Text
  rest : List Text
deriving DecidableEq

namespace Template

/-- The marker that a capture replaces. -/
def placeholder : Text := "<..>".toList

/-- A template with one more character in front. -/
def cons (c : Char) (t : Template) : Template := { t with lead := c :: t.lead }

/-- Cuts a text at every placeholder, from left to right. -/
def parse : Text → Template
  | '<' :: '.' :: '.' :: '>' :: cs =>
    let t := parse cs
    ⟨[], t.lead :: t.rest⟩
  | c :: cs => cons c (parse cs)
  | [] => ⟨[], []⟩

/-- Whether the template has a placeholder. -/
def hasPlaceholder (t : Template) : Bool := !t.rest.isEmpty

/-- The template with every placeholder replaced. -/
def fill (t : Template) (capture : Text) : Text :=
  t.lead ++ t.rest.flatMap (capture ++ ·)

/-- The template as it is written. -/
def source (t : Template) : Text := t.fill placeholder

/-- The scope that the template grants under an activation. -/
def render (t : Template) (a : Activation) : Scope :=
  if t.hasPlaceholder && a.isOpen then t.lead ++ a.capture ++ ['*'] else t.fill a.capture

/-! ### On the text itself -/

/-- The text before the first placeholder, if there is one. -/
def beforeFirst? : Text → Option Text
  | '<' :: '.' :: '.' :: '>' :: _ => some []
  | c :: cs => (beforeFirst? cs).map (c :: ·)
  | [] => none

/-- Replaces every placeholder, from left to right; what was put in is not looked at again. -/
def replaceAll (capture : Text) : Text → Text
  | '<' :: '.' :: '.' :: '>' :: cs => capture ++ replaceAll capture cs
  | c :: cs => c :: replaceAll capture cs
  | [] => []

/-- Puts a capture into a template given as text. -/
def substitute (template : Text) (a : Activation) : Scope :=
  match beforeFirst? template with
  | none => template
  | some before =>
    if a.isOpen then before ++ a.capture ++ ['*'] else replaceAll a.capture template

/-- Whether no half of a marker is left over once every placeholder is removed. -/
def wellFormed (template : Text) : Bool :=
  let left := replaceAll [] template
  !(Text.contains "<..".toList left || Text.contains "..>".toList left)

end Template

end DelegatedScopes
