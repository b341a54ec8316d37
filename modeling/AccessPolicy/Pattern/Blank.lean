import AccessPolicy.Unicode.Property

/-!
# Blanks in patterns

In verbose mode white space and comments may stand between the characters of a pattern. The
readers of patterns therefore never take the next character as it comes; they take it after
`skipBlank`.
-/

namespace AccessPolicy.Pattern

/-- Whether a character is white space. -/
def isBlank (c : Char) : Bool := Unicode.spaces.contains c

/-- Drops white space and comments; `inComment` says that the text starts inside a comment, which
ends with its line. -/
def skipVerbose : Bool → List Char → List Char
  | _, [] => []
  | true, c :: rest => skipVerbose (c != '\n') rest
  | false, c :: rest =>
    if isBlank c then skipVerbose false rest
    else if c = '#' then skipVerbose true rest
    else c :: rest

/-- Drops what verbose mode ignores, and nothing in plain mode. -/
def skipBlank (verbose : Bool) (text : List Char) : List Char :=
  if verbose then skipVerbose false text else text

/-- Splits off the longest run of characters that satisfy `p`, blanks between them skipped. -/
def spanLoose (verbose : Bool) (p : Char → Bool) (text : List Char) : List Char × List Char :=
  go text.length text
where
  go : Nat → List Char → List Char × List Char
    | fuel + 1, c :: rest =>
      if p c then
        let (run, rest) := go fuel (skipBlank verbose rest)
        (c :: run, rest)
      else
        ([], c :: rest)
    | _, text => ([], text)

/-- The next character that is no blank, as seen from inside a bracketed class in front of a
hyphen. Only the sign that opens a comment is skipped there, not the comment. -/
def peekLoose (verbose : Bool) (text : List Char) : Option Char :=
  if verbose then
    match text.dropWhile isBlank with
    | '#' :: rest => (rest.dropWhile isBlank).head?
    | rest => rest.head?
  else
    text.head?

end AccessPolicy.Pattern
