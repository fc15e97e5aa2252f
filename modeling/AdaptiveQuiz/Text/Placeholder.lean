import AdaptiveQuiz.Text.Case

/-!
# Placeholders

A message may be written with a placeholder, a name in braces, which is filled in at the end. It is
then filled in wherever it stands, be it in the words of the message or in a text quoted by it.

## Main definitions

* `Text.substitute`: a text with a value in place of a part
* `Text.fill`: a message with a placeholder filled in

## Main statements

* `Text.substitute_of_not_contains`: a text without the part is left as it is
-/

namespace AdaptiveQuiz.Text

/-- The text with a value in place of every occurrence of a nonempty part, found from left to right.
The first `covered` characters belong to an occurrence that the value already stands for. -/
def substitute (part value : List Char) : (covered : Nat) → List Char → List Char
  | _, [] => []
  | covered + 1, _ :: cs => substitute part value covered cs
  | 0, c :: cs =>
    if part.isPrefixOf (c :: cs) then value ++ substitute part value (part.length - 1) cs
    else c :: substitute part value 0 cs

/-- A text without the part is left as it is. -/
theorem substitute_of_not_contains {part value cs : List Char} (h : contains part cs = false) :
    substitute part value 0 cs = cs := by
  induction cs with
  | nil => rfl
  | cons c cs ih =>
    rw [contains, Bool.or_eq_false_iff] at h
    rw [substitute, if_neg (by simp [h.1]), ih h.2]

/-- The message with a value in place of the placeholder of a name. -/
def fill (name value message : String) : String :=
  let placeholder := '\x7b' :: name.toList ++ ['\x7d']
  String.ofList (substitute placeholder value.toList 0 message.toList)

end AdaptiveQuiz.Text
