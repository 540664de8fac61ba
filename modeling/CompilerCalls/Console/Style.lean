import CompilerCalls.Console.Color

/-!
# Styles

A style is written in words: what letters look like, maybe with `not` in
front, their colour, the colour behind them after `on`, and an address after
`link`.  The order of the words does not matter, so a style has a normal form.
-/

namespace CompilerCalls.Console

/-- What letters look like, apart from their colours. -/
inductive Look where
  | bold
  | dim
  | italic
  | underline
  | blink
  | blink2
  | reverse
  | conceal
  | strike
  | underline2
  | frame
  | encircle
  | overline
  deriving DecidableEq, Repr

namespace Look

def all : List Look :=
  [bold, dim, italic, underline, blink, blink2, reverse, conceal, strike,
    underline2, frame, encircle, overline]

def name : Look → String
  | bold => "bold"
  | dim => "dim"
  | italic => "italic"
  | underline => "underline"
  | blink => "blink"
  | blink2 => "blink2"
  | reverse => "reverse"
  | conceal => "conceal"
  | strike => "strike"
  | underline2 => "underline2"
  | frame => "frame"
  | encircle => "encircle"
  | overline => "overline"

/-- The short names of looks. -/
def shortNames : List (String × Look) :=
  [("d", dim), ("b", bold), ("i", italic), ("u", underline), ("r", reverse),
    ("c", conceal), ("s", strike), ("uu", underline2), ("o", overline)]

/-- The look with a name, short or not. -/
def ofWord? (word : String) : Option Look :=
  match all.find? fun look => look.name == word with
  | some look => some look
  | none => shortNames.lookup word

end Look

/-- A style.  The last word about something counts. -/
structure Style where
  looks : List (Look × Bool) := []
  color? : Option String := none
  background? : Option String := none
  link? : Option String := none
  deriving DecidableEq, Repr

namespace Style

def addWords (style : Style) : List (List Char) → Except StyleFault Style
  | [] => .ok style
  | [word] =>
      let written := String.ofList (Text.lowercase word)
      if ["on", "not", "link"].contains written then .error .malformed
      else
        match Look.ofWord? written with
        | some look => .ok { style with looks := (look, true) :: style.looks }
        | none =>
            (colorOf written.toList).map fun color =>
              { style with color? := some color }
  | word :: next :: rest =>
      let written := String.ofList (Text.lowercase word)
      if written = "on" then
        match colorOf next with
        | .error fault => .error fault
        | .ok color => addWords { style with background? := some color } rest
      else if written = "not" then
        match Look.ofWord? (String.ofList next) with
        | none => .error .malformed
        | some look =>
            addWords { style with looks := (look, false) :: style.looks } rest
      else if written = "link" then
        addWords { style with link? := some (String.ofList next) } rest
      else
        match Look.ofWord? written with
        | some look =>
            addWords { style with looks := (look, true) :: style.looks }
              (next :: rest)
        | none =>
            match colorOf written.toList with
            | .error fault => .error fault
            | .ok color =>
                addWords { style with color? := some color } (next :: rest)

def ofText (text : List Char) : Except StyleFault Style :=
  if Text.trimmed text = "none".toList then .ok {}
  else addWords {} (Text.words text)

/-- The words for a look, if anything is said about it. -/
def lookWords (style : Style) (look : Look) : Option String :=
  (style.looks.lookup look).map fun wanted =>
    if wanted then look.name else "not " ++ look.name

def normalWords (style : Style) : List String :=
  Look.all.filterMap style.lookWords ++ style.color?.toList ++
    (style.background?.map ("on " ++ ·)).toList ++
    (style.link?.map ("link " ++ ·)).toList

/-- The normal form.  A style about which nothing is said is called so. -/
def normalForm (style : Style) : String :=
  if style.normalWords = [] then "none" else Text.join " " style.normalWords

end Style

/-- A text by which equal styles are known: the normal form of a style, or the
text in lower case if it describes none. -/
def styleName (text : List Char) : Except StyleFault (List Char) :=
  match Style.ofText text with
  | .ok style => .ok style.normalForm.toList
  | .error .malformed => .ok (Text.lowercase (Text.trimmed text))
  | .error .unreadableNumber => .error .unreadableNumber

/-- The text describes no style because a number in it cannot be read. -/
def hasUnreadableNumber (text : List Char) : Bool :=
  match Style.ofText text with
  | .error .unreadableNumber => true
  | _ => false

end CompilerCalls.Console
