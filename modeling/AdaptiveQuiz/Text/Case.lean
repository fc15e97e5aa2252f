/-!
# Letter case

Case is folded only to look for words of ASCII letters. So it is enough to know the letters
outside of ASCII whose other case contains an ASCII letter; every other character outside of
ASCII stays outside in either case and is left as it is.

## Main definitions

* `Text.capitals`: the capital form of a text, as far as ASCII letters are concerned
* `Text.smalls`: the small form of a text, as far as ASCII letters are concerned
* `Text.contains`: whether a text contains another one
-/

namespace AdaptiveQuiz.Text

/-- The characters outside of ASCII whose capital form contains an ASCII letter, with that form. -/
def capitalForms : List (Char × List Char) :=
  [('\u00df', ['S', 'S']), ('\u0131', ['I']), ('\u0149', ['\u02bc', 'N']), ('\u017f', ['S']),
   ('\u01f0', ['J', '\u030c']), ('\u1e96', ['H', '\u0331']), ('\u1e97', ['T', '\u0308']),
   ('\u1e98', ['W', '\u030a']), ('\u1e99', ['Y', '\u030a']), ('\u1e9a', ['A', '\u02be']),
   ('\ufb00', ['F', 'F']), ('\ufb01', ['F', 'I']), ('\ufb02', ['F', 'L']),
   ('\ufb03', ['F', 'F', 'I']), ('\ufb04', ['F', 'F', 'L']), ('\ufb05', ['S', 'T']),
   ('\ufb06', ['S', 'T'])]

/-- The characters outside of ASCII whose small form contains an ASCII letter, with that form. -/
def smallForms : List (Char × List Char) :=
  [('\u0130', ['i', '\u0307']), ('\u212a', ['k'])]

/-- The capital form of one character, which may be several. -/
def capital (c : Char) : List Char :=
  if c.isLower then [c.toUpper] else (capitalForms.lookup c).getD [c]

/-- The small form of one character, which may be several. -/
def small (c : Char) : List Char :=
  if c.isUpper then [c.toLower] else (smallForms.lookup c).getD [c]

/-- The capital form of a text. -/
def capitals (cs : List Char) : List Char := cs.flatMap capital

/-- The small form of a text. -/
def smalls (cs : List Char) : List Char := cs.flatMap small

/-- Whether `part` stands somewhere in the text without a gap. -/
def contains (part : List Char) : List Char → Bool
  | [] => part.isEmpty
  | c :: cs => part.isPrefixOf (c :: cs) || contains part cs

end AdaptiveQuiz.Text
