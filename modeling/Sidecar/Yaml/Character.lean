/-
**Characters of YAML texts.**

A text is made of lines.  Besides the line feed and the carriage return, three characters of
Unicode break a line; of these the next line stays itself when a line break is read, and all other
breaks are read as one line feed.

Main definitions:

* `Sidecar.Yaml.isBreak`, `Sidecar.Yaml.isBlank`, `Sidecar.Yaml.isGap` — line breaks, blanks
  within a line, and either;
* `Sidecar.Yaml.isName` — the characters of names of anchors and directives;
* `Sidecar.Yaml.isAllowed` — the characters that a text may have at all;
* `Sidecar.Yaml.isPrintable` — those that may be written as themselves;
* `Sidecar.Yaml.atGap` — whether a text ends or goes on with a blank or a break.
-/

set_option autoImplicit false

namespace Sidecar.Yaml

/-- The characters that break a line. -/
def isBreak (c : Char) : Bool :=
  c = '\n' || c = '\r' || c = '\x85' || c = '\u2028' || c = '\u2029'

/-- The blanks within a line. -/
def isBlank (c : Char) : Bool :=
  c = ' ' || c = '\t'

/-- Blanks and line breaks. -/
def isGap (c : Char) : Bool :=
  isBlank c || isBreak c

/-- The characters of names: ASCII letters, digits, hyphen and underscore. -/
def isName (c : Char) : Bool :=
  c.isAlphanum || c = '-' || c = '_'

/-- The characters that a text may have: no control characters but tab, line feed, carriage return
and next line, and no noncharacters of the first plane. -/
def isAllowed (c : Char) : Bool :=
  let n := c.toNat
  n = 0x09 || n = 0x0a || n = 0x0d || (0x20 ≤ n && n ≤ 0x7e) || n = 0x85
    || (0xa0 ≤ n && n ≤ 0xd7ff) || (0xe000 ≤ n && n ≤ 0xfffd) || 0x10000 ≤ n

/-- The characters that may be written as themselves: those allowed without tab, carriage return,
next line and byte order mark. -/
def isPrintable (c : Char) : Bool :=
  let n := c.toNat
  n = 0x0a || (0x20 ≤ n && n ≤ 0x7e) || (0xa0 ≤ n && n ≤ 0xd7ff)
    || (0xe000 ≤ n && n ≤ 0xfffd && n ≠ 0xfeff) || 0x10000 ≤ n

/-- Whether the text ends here or goes on with a blank or a line break. -/
def atGap : List Char → Bool
  | [] => true
  | c :: _ => isGap c

/-- Whether the text ends here or goes on with a line break. -/
def atLineEnd : List Char → Bool
  | [] => true
  | c :: _ => isBreak c

/-- Whether the text starts with three hyphens or three dots. -/
def startsWithMark : List Char → Bool
  | '-' :: '-' :: '-' :: _ | '.' :: '.' :: '.' :: _ => true
  | _ => false

@[simp] theorem atGap_nil : atGap [] = true := rfl

@[simp] theorem atGap_cons (c : Char) (cs : List Char) : atGap (c :: cs) = isGap c := rfl

@[simp] theorem atLineEnd_nil : atLineEnd [] = true := rfl

@[simp] theorem atLineEnd_cons (c : Char) (cs : List Char) : atLineEnd (c :: cs) = isBreak c := rfl

/-- What may be written as itself may be read. -/
theorem isAllowed_of_isPrintable {c : Char} (h : isPrintable c = true) : isAllowed c = true := by
  simp only [isPrintable, isAllowed, Bool.or_eq_true, Bool.and_eq_true, decide_eq_true_eq] at *
  omega

end Sidecar.Yaml
